import XnetZt.Service.DestinationCache
import XnetZt.Service.ReceiveThread

/-!
# Packets to a multicast group

A packet to a group should go out once, to the MAC of the group. Both handlers look for a
route first and may put its gateway in the place of the destination; only then do they ask
for the MAC, and what they ask for is the MAC of the gateway. The main result says for both
families when the packet still reaches the group.
-/

namespace XnetZt

namespace TunTapAdapter

open AdapterM

/-- A frame with a packet from the tunnel: no ARP packet, and no neighbor solicitation. -/
def IsDataFrame (f : Frame) : Prop :=
  f.etherType = ipv4Packet ∨ f.etherType = ipv6Packet ∧ hasICMPv6Type (-121) f.frameData = false

instance (f : Frame) : Decidable (IsDataFrame f) := inferInstanceAs (Decidable (_ ∨ _))

/-- Exactly one data frame is sent on a read. It has the packet, up to the TTL that
connection tracking sets, and goes to `mac`. -/
def SendsOnceTo (mac : Mac) (env : Environment) (bytes : Bytes) (s : TunTapAdapter) : Prop :=
  ∃ s' frames f, (receive env bytes).run s = .ok () s' ∧ s'.sent = s.sent ++ frames ∧
    frames.filter IsDataFrame = [f] ∧ NatEngine.SameButTtl bytes f.frameData ∧ f.destMac = mac

/-- An IPv4 packet to a group that the bridge leaves alone, with the local address. -/
structure MulticastIPv4 (s : TunTapAdapter) (config : VirtualNetworkConfig)
    (v4 : InetSocketAddress) (bytes : Bytes) : Prop where
  version : IPv4.version bytes = 4
  length : 20 ≤ bytes.length
  group : bytes.getD 16 0 &&& 0xf0 = 0xe0
  left : ¬ s.Bridged (s.buffer.splice 0 bytes) bytes.length
  address : config.assignedAddresses.find? (·.address.isInet4) = some v4

/-- An IPv6 packet to a group, and no message of neighbor discovery. -/
structure MulticastIPv6 (config : VirtualNetworkConfig) (v6 : InetSocketAddress)
    (bytes : Bytes) : Prop where
  version : IPv4.version bytes = 6
  length : 41 ≤ bytes.length
  group : bytes.getD 24 0 = 0xff
  solicitation : hasICMPv6Type (-121) bytes = false
  advertisement : hasICMPv6Type (-120) bytes = false
  address : config.assignedAddresses.find? (·.address.isInet6) = some v6

/-- The MAC that a packet to a group is sent to by way of `hop`; `-1` if the table has none. -/
def macIPv4 (s : TunTapAdapter) (hop : InetAddress) : Mac :=
  if isIPv4Multicast hop then multicastAddressToMAC hop
  else (s.arpTable.inetAddressToMacAddress.lookup hop).getD (-1)

/-- Without an entry in the table an IPv6 packet is not sent. -/
def macIPv6 (s : TunTapAdapter) (hop : InetAddress) : Option Mac :=
  if isIPv6Multicast hop then some (multicastAddressToMAC hop)
  else s.ndpTable.inetAddressToMacAddress.lookup hop

/-- If the route to `destIP` has a gateway, and `destIP` is not in the network of `sourceIP`,
then the gateway is as it should be. -/
def GatewaySuits (s : TunTapAdapter) (destIP sourceIP : InetAddress) (cidr : ℕ)
    (suits : InetAddress → Prop) : Prop :=
  ∀ route gateway, routeForDestination s.routeOrder s.routeMap destIP = some route →
    route.gateway = some gateway →
    addressToRouteNo0Route destIP cidr ≠ addressToRouteNo0Route sourceIP cidr → suits gateway

/-- The hop of a packet is as it should be if the destination itself is. -/
theorem hop_suits_iff (s : TunTapAdapter) {destIP : InetAddress} (sourceIP : InetAddress)
    (cidr : ℕ) {suits : InetAddress → Prop} (h : suits destIP) :
    suits (s.hopWithCidr cidr destIP sourceIP) ↔ s.GatewaySuits destIP sourceIP cidr suits := by
  unfold hopWithCidr GatewaySuits
  cases hroute : routeForDestination s.routeOrder s.routeMap destIP with
  | none => simpa [nextHop] using h
  | some route =>
    rw [Option.bind_some]
    cases hgateway : route.gateway with
    | none =>
      refine iff_of_true h ?_
      rintro _ gateway ⟨⟩ hg
      rw [hgateway] at hg
      cases hg
    | some gateway =>
      rw [nextHop]
      split_ifs with hnet
      · constructor
        · rintro hs _ gateway' ⟨⟩ hg -
          obtain rfl : gateway = gateway' := Option.some.inj (hgateway.symm.trans hg)
          exact hs
        · intro hs
          exact hs route gateway rfl hgateway hnet
      · refine iff_of_true h ?_
        rintro _ _ - - hne
        exact absurd hne hnet

theorem fst_getMacForAddress (t : NeighborTable) (now : ℕ) (a : InetAddress) :
    (t.getMacForAddress now a).1 = (t.inetAddressToMacAddress.lookup a).getD (-1) := by
  unfold NeighborTable.getMacForAddress
  cases t.inetAddressToMacAddress.lookup a <;> rfl

/-! ### IPv4 -/

section IPv4

variable {s : TunTapAdapter} {env : Environment} {config : VirtualNetworkConfig}
  {v4 : InetSocketAddress} {destIP sourceIP : InetAddress}

theorem sendIPv4_multicast (env : Environment) (s : TunTapAdapter) (localMac : Mac)
    (localV4 : InetAddress) (packetData : Bytes) (hop : InetAddress) :
    ∃ s', (sendIPv4 env localMac localV4 true packetData hop).run s = .ok () s' ∧
      s'.sent = s.sent ++ [⟨s.networkId, localMac, s.macIPv4 hop, ipv4Packet, 0, packetData⟩] := by
  unfold sendIPv4 sendIPv4Until macIPv4
  rw [atOnce_bind, Handler.run_get_bind]
  rw [Bool.true_or, if_pos rfl]
  split_ifs
  · exact ⟨_, rfl, rfl⟩
  · refine ⟨_, rfl, ?_⟩
    rw [← fst_getMacForAddress _ env.now]
    rfl

/-- The second handler sends every packet to a group. -/
theorem handleIPv4PacketData_multicast {packetData : Bytes} (s : TunTapAdapter)
    (hconfig : env.config = some config)
    (hdest : IPPacketUtils.getDestIP packetData = .ok (some destIP))
    (hsource : IPPacketUtils.getSourceIP packetData = .ok (some sourceIP))
    (hgroup : isIPv4Multicast destIP = true)
    (hv4 : config.assignedAddresses.find? (·.address.isInet4) = some v4) :
    ∃ s', (handleIPv4PacketData env packetData).run s = .ok () s' ∧
      s'.sent = s.sent ++ [⟨s.networkId, config.mac,
        s.macIPv4 (s.hopWithCidr v4.port destIP sourceIP), ipv4Packet, 0, packetData⟩] := by
  obtain ⟨macs, hsub⟩ := subscribeTo_run s true destIP
  unfold handleIPv4PacketData handleIPv4PacketDataUntil
  rw [hdest, hsource, hconfig, atOnce_bind, run_call_bind, atOnce_bind, run_call_bind]
  dsimp only
  rw [hgroup, atOnce_bind, Handler.run_bind_ok hsub, atOnce_bind, Handler.run_get_bind]
  dsimp only
  rw [hv4]
  exact sendIPv4_multicast env { s with subscriptions := macs } config.mac v4.address packetData _

theorem loaded_keeps (s : TunTapAdapter) (env : Environment) :
    (s.loaded env).sent = s.sent ∧ (s.loaded env).networkId = s.networkId := by
  unfold loaded
  split_ifs
  · cases env.config <;> exact ⟨rfl, rfl⟩
  · exact ⟨rfl, rfl⟩

/-- The front of a buffer is changed where the buffer is. -/
theorem sameButTtl_copyOf {buffer buffer' : Bytes} (h : NatEngine.SameButTtl buffer buffer')
    {n : ℕ} (hn : n ≤ buffer.length) :
    NatEngine.SameButTtl (buffer.copyOf n) (buffer'.copyOf n) := by
  have hlen := h.length
  rw [Bytes.copyOf_eq_take hn, Bytes.copyOf_eq_take (by omega)]
  rcases h with rfl | ⟨ttl, hi, lo, rfl⟩
  · exact Or.inl rfl
  · refine Or.inr ⟨ttl, hi, lo, ?_⟩
    simp only [List.take_set]

/-- The addresses of a packet that connection tracking has seen. -/
theorem addressAt_tracked {buffer buffer' : Bytes} (h : NatEngine.SameButTtl buffer buffer')
    {length : ℕ} (hlen : length ≤ buffer.length) (hv : IPPacketUtils.getIPVersion buffer = .ok 4)
    {offset4 : ℕ} (offset6 : ℕ) (h12 : 12 ≤ offset4) (hoffset : offset4 + 4 ≤ length) :
    IPPacketUtils.addressAt offset4 offset6 (buffer'.copyOf length) =
      .ok (some (.inet4 (rawAt buffer offset4))) := by
  have hl := h.length
  have hv' : IPPacketUtils.getIPVersion (buffer'.copyOf length) = .ok 4 := by
    rw [getIPVersion_copyOf (by omega) (by omega), ← hv]
    exact IPPacketUtils.getIPVersion_congr (by omega) (by omega) h.head
  rw [IPPacketUtils.addressAt_four hv' (by simpa), Bytes.copyOf_eq_take (by omega),
    Bytes.slice_take hoffset, h.slice h12, rawAt]

/-- A packet of an adapter without a local address is dropped. Another one is sent once. -/
theorem handleIPv4Packet_multicast {buffer : Bytes} {length : ℕ} (h20 : 20 ≤ length)
    (hlen : length ≤ buffer.length) (hbuf : s.buffer.length = buffer.length)
    (hv : IPPacketUtils.getIPVersion buffer = .ok 4) (hconfig : env.config = some config)
    (hmulti : buffer.getD 16 0 &&& 0xf0 = 0xe0) (hleft : ¬ s.Bridged buffer length)
    (hv4 : config.assignedAddresses.find? (·.address.isInet4) = some v4) :
    ∃ s' frames, (handleIPv4Packet env buffer length).run s = .ok () s' ∧
      s'.sent = s.sent ++ frames ∧
      ((s.localV4 env = none ∧ frames = []) ∨
        ((s.localV4 env).isSome = true ∧ ∃ packetData,
          NatEngine.SameButTtl (buffer.copyOf length) packetData ∧
          frames = [⟨s.networkId, config.mac, s.macIPv4 (s.hopWithCidr v4.port
            (.inet4 (rawAt buffer 16)) (.inet4 (rawAt buffer 12))), ipv4Packet, 0,
            packetData⟩])) := by
  obtain ⟨t, hkeep, hsends, hrun⟩ := trackAndLoad_cases env s hlen hbuf
  have hsent : t.sent = s.sent := by
    rw [hsends.sent, (loaded_keeps ..).1, List.append_nil]
  have hid : t.networkId = s.networkId := hsends.networkId.trans (loaded_keeps ..).2
  rw [handleIPv4Packet_eq, EStateM.run_bind, prepareIPv4_of_not_bridged env hlen hleft]
  rcases hrun with ⟨hrun, hnone⟩ | ⟨a, buffer', hrun, hsome, -, -, hsame⟩
  · rw [hrun]
    exact ⟨t, [], rfl, by rw [hsent, List.append_nil], Or.inl ⟨hnone, rfl⟩⟩
  · have hl := hsame.length
    have hgroup : isIPv4Multicast (.inet4 (rawAt buffer 16)) = true :=
      (isIPv4Multicast_rawAt (by omega)).mpr hmulti
    have hsame' := sameButTtl_copyOf hsame hlen
    rw [hrun]
    dsimp only
    rw [forwardIPv4_run t (by omega), if_pos (by rw [hsame.getD (by omega)]; exact hmulti)]
    obtain ⟨s', hrun', hsent'⟩ := handleIPv4PacketData_multicast t hconfig
      (addressAt_tracked hsame hlen hv 24 (by omega) (by omega))
      (addressAt_tracked hsame hlen hv 8 (by omega) (by omega)) hgroup hv4
    refine ⟨s', _, hrun', by rw [hsent', hsent], Or.inr ⟨?_, _, hsame', ?_⟩⟩
    · exact Option.isSome_iff_exists.mpr ⟨a, hsome⟩
    · rw [hid, hopWithCidr, macIPv4, hkeep.arp, hkeep.routeMap, hkeep.routeOrder]
      rfl

end IPv4

/-! ### IPv6 -/

section IPv6

variable {s : TunTapAdapter} {env : Environment} {config : VirtualNetworkConfig}
  {v6 : InetSocketAddress} {destIP sourceIP : InetAddress} {packetData : Bytes}

/-- For a packet that is no message of neighbor discovery. -/
theorem destMacIPv6_ordinary (env : Environment) (s : TunTapAdapter) (hlen : 41 ≤ packetData.length)
    (hsol : hasICMPv6Type (-121) packetData = false)
    (hadv : hasICMPv6Type (-120) packetData = false) (hop : InetAddress) :
    ∃ s', (destMacIPv6 env packetData hop).run s =
        .ok ((s.macIPv6 hop).getD 0, (s.macIPv6 hop).isNone) s' ∧ s'.sent = s.sent ∧
      s'.networkId = s.networkId := by
  unfold destMacIPv6 destMacIPv6Until macIPv6 isNeighborSolicitation isNeighborAdvertisement
  rw [isICMPv6_eq_ok _ (by omega) fun _ => hlen, isICMPv6_eq_ok _ (by omega) fun _ => hlen, hsol,
    hadv, bind_assoc, Handler.run_get_bind, bind_assoc, run_call_bind]
  cases isIPv6Multicast hop with
  | true => exact ⟨s, rfl, rfl, rfl⟩
  | false =>
    rw [NeighborTable.hasMacForAddress]
    cases hmac : s.ndpTable.inetAddressToMacAddress.lookup hop with
    | none => exact ⟨s, rfl, rfl, rfl⟩
    | some mac =>
      have hget : (s.ndpTable.getMacForAddress env.now hop).1 = mac := by
        rw [fst_getMacForAddress, hmac, Option.getD_some]
      refine ⟨{ s with ndpTable := (s.ndpTable.getMacForAddress env.now hop).2 }, ?_, rfl, rfl⟩
      rw [← hget]
      rfl

section Ordinary

variable (hlen : 41 ≤ packetData.length) (hsol : hasICMPv6Type (-121) packetData = false)
  (hadv : hasICMPv6Type (-120) packetData = false) {hop : InetAddress} (localMac : Mac)

include hlen hsol hadv

theorem sendIPv6_known {mac : Mac} (hmac : s.macIPv6 hop = some mac) :
    ∃ s', (sendIPv6 env localMac packetData sourceIP hop).run s = .ok () s' ∧
      s'.sent = s.sent ++
        if mac = 0 then [] else [⟨s.networkId, localMac, mac, ipv6Packet, 0, packetData⟩] := by
  obtain ⟨t, hrun, hsent, hid⟩ := destMacIPv6_ordinary env s hlen hsol hadv hop
  rw [hmac, Option.getD_some, Option.isNone_some] at hrun
  rw [sendIPv6_eq, Handler.run_bind_ok hrun, sendMacIPv6, EStateM.run_bind, sendKnown]
  by_cases hzero : mac = 0
  · rw [if_pos hzero, if_pos hzero]
    exact ⟨t, rfl, by rw [hsent, List.append_nil]⟩
  · rw [if_neg hzero, if_neg hzero, ← hsent, ← hid]
    exact ⟨_, rfl, rfl⟩

/-- Without a MAC there is a solicitation at most, and never the packet. -/
theorem sendIPv6_unknown (hmac : s.macIPv6 hop = none) {s' : TunTapAdapter}
    (h : (sendIPv6 env localMac packetData sourceIP hop).run s = .ok () s') :
    ∃ f, s'.sent = s.sent ++ [f] ∧ ¬ IsDataFrame f := by
  obtain ⟨t, hrun, hsent, -⟩ := destMacIPv6_ordinary env s hlen hsol hadv hop
  have hnothing : (sendKnown localMac 0 packetData).run t = .ok () t := rfl
  rw [hmac, Option.getD_none, Option.isNone_none] at hrun
  rw [sendIPv6_eq, Handler.run_bind_ok hrun, sendMacIPv6, Handler.run_bind_ok hnothing, if_pos rfl,
    solicit] at h
  cases hp : NDPTable.getNeighborSolicitationPacket sourceIP hop localMac with
  | error e =>
    rw [hp] at h
    cases h
  | ok p =>
    obtain ⟨h6, h40⟩ := NDPTable.getNeighborSolicitationPacket_type hp
    rw [hp] at h
    cases h
    refine ⟨_, congrArg (· ++ _) hsent, ?_⟩
    have htype : hasICMPv6Type (-121) p = true := by
      rw [hasICMPv6Type, h6, h40]
      rfl
    rintro (h4 | ⟨-, hdata⟩)
    · exact absurd h4 (show ipv6Packet ≠ ipv4Packet by decide)
    · exact Bool.false_ne_true (hdata.symm.trans htype)

end Ordinary

theorem handleIPv6Packet_run (s : TunTapAdapter) (hconfig : env.config = some config)
    (hdest : IPPacketUtils.getDestIP packetData = .ok (some destIP))
    (hsource : IPPacketUtils.getSourceIP packetData = .ok (some sourceIP))
    (hv6 : config.assignedAddresses.find? (·.address.isInet6) = some v6) :
    ∃ macs, (handleIPv6Packet env packetData).run s =
      (sendIPv6 env config.mac packetData sourceIP (s.hopWithCidr v6.port destIP sourceIP)).run
        { s with subscriptions := macs } := by
  obtain ⟨macs, hsub⟩ := subscribeTo_run s (isIPv6Multicast destIP) destIP
  refine ⟨macs, ?_⟩
  unfold handleIPv6Packet handleIPv6PacketUntil
  rw [hdest, hsource, hconfig, atOnce_bind, run_call_bind, atOnce_bind, run_call_bind]
  dsimp only
  rw [atOnce_bind, Handler.run_bind_ok hsub, atOnce_bind, Handler.run_get_bind]
  dsimp only
  rw [hv6]
  rfl

end IPv6

/-! ### Reads -/

section Reads

variable {s : TunTapAdapter} {env : Environment} {config : VirtualNetworkConfig}
  {destIP sourceIP : InetAddress} {bytes : Bytes}

/-- The run of a read decides. -/
theorem sendsOnceTo_iff {s' : TunTapAdapter} {frames : List Frame} {mac : Mac}
    (hrun : (receive env bytes).run s = .ok () s') (hsent : s'.sent = s.sent ++ frames) :
    SendsOnceTo mac env bytes s ↔ ∃ f, frames.filter IsDataFrame = [f] ∧
      NatEngine.SameButTtl bytes f.frameData ∧ f.destMac = mac := by
  constructor
  · rintro ⟨t, frames', f, ht, hsent', hf⟩
    obtain rfl : s' = t := by
      rw [hrun] at ht
      exact (EStateM.Result.ok.inj ht).2
    obtain rfl : frames = frames' := List.append_cancel_left (hsent.symm.trans hsent')
    exact ⟨f, hf⟩
  · rintro ⟨f, hf⟩
    exact ⟨s', frames, f, hrun, hsent, hf⟩

theorem rawAt_splice {buffer : Bytes} {i : ℕ} (hi : i + 4 ≤ bytes.length)
    (hlen : bytes.length ≤ buffer.length) : rawAt (buffer.splice 0 bytes) i = rawAt bytes i := by
  have hcopy := copyOf_splice hlen
  rw [Bytes.copyOf_eq_take (by rw [Bytes.length_splice (by omega)]; exact hlen)] at hcopy
  rw [rawAt, rawAt, ← Bytes.slice_take hi, hcopy]

/-- The MAC of a group has 48 bits, and is not zero. -/
theorem toNat_multicastAddressToMAC (a : InetAddress) :
    0 < (multicastAddressToMAC a).toNat ∧ (multicastAddressToMAC a).toNat < 2 ^ 48 := by
  have hbyte : ∀ b : Byte, b.toNat < 256 := fun b => b.isLt
  unfold multicastAddressToMAC
  split_ifs
  · have h1 := hbyte (a.getAddress.getD 1 0 &&& 127)
    have h2 := hbyte (a.getAddress.getD 2 0)
    have h3 := hbyte (a.getAddress.getD 3 0)
    rw [BitVec.toNat_ofNat]
    simp [BigEndian.toNat] at h1 h2 h3 ⊢
    omega
  · have h1 := hbyte (a.getAddress.getD 12 0)
    have h2 := hbyte (a.getAddress.getD 13 0)
    have h3 := hbyte (a.getAddress.getD 14 0)
    have h4 := hbyte (a.getAddress.getD 15 0)
    rw [BitVec.toNat_ofNat]
    simp [BigEndian.toNat] at h1 h2 h3 h4 ⊢
    omega

theorem multicastAddressToMAC_ne_zero (a : InetAddress) : multicastAddressToMAC a ≠ 0 := by
  intro h
  have hpos := (toNat_multicastAddressToMAC a).1
  rw [h] at hpos
  exact absurd hpos (by decide)

theorem isIPv6Multicast_of_getDestIP (hv : IPPacketUtils.getIPVersion bytes = .ok 6)
    (h40 : 40 ≤ bytes.length) (hgroup : bytes.getD 24 0 = 0xff)
    (hdest : IPPacketUtils.getDestIP bytes = .ok (some destIP)) :
    isIPv6Multicast destIP = true := by
  have hl := Bytes.length_slice (show 24 + 16 ≤ bytes.length by omega)
  have hfirst : (bytes.slice 24 16).getD 0 0 = 0xff := by
    rw [← hgroup]
    simp [Bytes.slice, List.getD_eq_getElem?_getD]
  rw [IPPacketUtils.getDestIP, IPPacketUtils.addressAt_six hv (by omega)] at hdest
  rw [isIPv6Multicast, InetAddress.getAddress_of_getByAddress hl (by rw [hfirst]; decide)
    (Except.ok.inj hdest), hfirst]
  rfl

variable (hbuf : s.buffer.length = 1500) (hlen : bytes.length ≤ 1500)
  (hconfig : env.config = some config)
  (hdest : IPPacketUtils.getDestIP bytes = .ok (some destIP))
  (hsource : IPPacketUtils.getSourceIP bytes = .ok (some sourceIP))

include hbuf hlen hconfig hdest hsource

theorem receive_multicastIPv4 {v4 : InetSocketAddress} (hp : s.MulticastIPv4 config v4 bytes) :
    ∃ s' frames, (receive env bytes).run s = .ok () s' ∧ s'.sent = s.sent ++ frames ∧
      ((s.localV4 env = none ∧ frames = []) ∨
        ((s.localV4 env).isSome = true ∧ ∃ packetData, NatEngine.SameButTtl bytes packetData ∧
          frames = [⟨s.networkId, config.mac, s.macIPv4 (s.hopWithCidr v4.port destIP sourceIP),
            ipv4Packet, 0, packetData⟩])) := by
  have h20 := hp.length
  have hv := getIPVersion_eq_four (by omega) hp.version
  have hbl : (s.buffer.splice 0 bytes).length = 1500 :=
    (Bytes.length_splice (by omega)).trans hbuf
  have hv' : IPPacketUtils.getIPVersion (s.buffer.splice 0 bytes) = .ok 4 := by
    rw [← hv]
    exact IPPacketUtils.getIPVersion_congr (by omega) (by omega) (getD_splice_zero _ (by omega))
  rw [IPPacketUtils.getDestIP, IPPacketUtils.addressAt_four hv (by omega)] at hdest
  rw [IPPacketUtils.getSourceIP, IPPacketUtils.addressAt_four hv (by omega)] at hsource
  cases hdest
  cases hsource
  have hgroup : (s.buffer.splice 0 bytes).getD 16 0 &&& 0xf0 = 0xe0 := by
    rw [getD_splice_zero _ (by omega)]
    exact hp.group
  have hleft : ¬ Bridged { s with buffer := s.buffer.splice 0 bytes } (s.buffer.splice 0 bytes)
      bytes.length := hp.left
  obtain ⟨s', frames, hrun, hsent, hframes⟩ :=
    handleIPv4Packet_multicast h20 (show bytes.length ≤ (s.buffer.splice 0 bytes).length by omega)
      rfl hv' hconfig hgroup hleft hp.address
  have hreceive : (receive env bytes).run s = .ok () s' := by
    rw [receive_run env hbuf (by omega) hlen, if_pos hp.version, hrun]
  rw [rawAt_splice (by omega) (by omega), rawAt_splice (by omega) (by omega),
    copyOf_splice (by omega)] at hframes
  exact ⟨s', frames, hreceive, hsent, hframes⟩

theorem sendsOnceTo_group_iff_ipv4 {v4 : InetSocketAddress} (hp : s.MulticastIPv4 config v4 bytes) :
    SendsOnceTo (multicastAddressToMAC destIP) env bytes s ↔ (s.localV4 env).isSome = true ∧
      s.GatewaySuits destIP sourceIP v4.port fun gateway =>
        s.macIPv4 gateway = multicastAddressToMAC destIP := by
  have h20 := hp.length
  have hself : s.macIPv4 destIP = multicastAddressToMAC destIP := by
    have hv := getIPVersion_eq_four (by omega) hp.version
    rw [IPPacketUtils.getDestIP, IPPacketUtils.addressAt_four hv (by omega)] at hdest
    cases hdest
    rw [macIPv4]
    exact if_pos ((isIPv4Multicast_rawAt h20).mpr hp.group)
  obtain ⟨s', frames, hrun, hsent, hframes⟩ :=
    receive_multicastIPv4 hbuf hlen hconfig hdest hsource hp
  rw [sendsOnceTo_iff hrun hsent, ← hop_suits_iff s sourceIP v4.port hself]
  rcases hframes with ⟨hnone, rfl⟩ | ⟨hsome, packetData, hsame, rfl⟩
  · simp [hnone]
  · rw [List.filter_cons_of_pos (by simp [IsDataFrame]), List.filter_nil]
    simp [hsome, hsame]

theorem receive_multicastIPv6 {v6 : InetSocketAddress} (hp : MulticastIPv6 config v6 bytes) :
    match s.macIPv6 (s.hopWithCidr v6.port destIP sourceIP) with
    | some mac => ∃ s', (receive env bytes).run s = .ok () s' ∧ s'.sent = s.sent ++
        if mac = 0 then [] else [⟨s.networkId, config.mac, mac, ipv6Packet, 0, bytes⟩]
    | none => ∀ s', (receive env bytes).run s = .ok () s' →
        ∃ f, s'.sent = s.sent ++ [f] ∧ ¬ IsDataFrame f := by
  have h41 := hp.length
  have h4 : IPv4.version bytes ≠ 4 := by
    rw [hp.version]
    decide
  obtain ⟨macs, hrun⟩ := handleIPv6Packet_run { s with buffer := s.buffer.splice 0 bytes } hconfig
    hdest hsource hp.address
  rw [receive_run env hbuf (by omega) hlen, if_neg h4, if_pos hp.version, hrun]
  cases hmac : s.macIPv6 (s.hopWithCidr v6.port destIP sourceIP) with
  | some mac =>
    exact sendIPv6_known (s := { s with buffer := s.buffer.splice 0 bytes, subscriptions := macs })
      h41 hp.solicitation hp.advertisement config.mac hmac
  | none =>
    intro s' hs'
    exact sendIPv6_unknown
      (s := { s with buffer := s.buffer.splice 0 bytes, subscriptions := macs })
      h41 hp.solicitation hp.advertisement config.mac hmac hs'

theorem sendsOnceTo_group_iff_ipv6 {v6 : InetSocketAddress} (hp : MulticastIPv6 config v6 bytes) :
    SendsOnceTo (multicastAddressToMAC destIP) env bytes s ↔
      s.GatewaySuits destIP sourceIP v6.port fun gateway =>
        s.macIPv6 gateway = some (multicastAddressToMAC destIP) := by
  have h41 := hp.length
  have hgroup := isIPv6Multicast_of_getDestIP (getIPVersion_eq_six (by omega) hp.version) (by omega)
    hp.group hdest
  have hself : s.macIPv6 destIP = some (multicastAddressToMAC destIP) := by
    rw [macIPv6, if_pos hgroup]
  have hrun := receive_multicastIPv6 hbuf hlen hconfig hdest hsource hp
  rw [← hop_suits_iff s sourceIP v6.port hself]
  cases hmac : s.macIPv6 (s.hopWithCidr v6.port destIP sourceIP) with
  | none =>
    rw [hmac] at hrun
    refine iff_of_false ?_ nofun
    rintro ⟨t, frames, f, ht, hsent, hf, -⟩
    obtain ⟨g, hg, hdata⟩ := hrun t ht
    obtain rfl : frames = [g] := List.append_cancel_left (hsent.symm.trans hg)
    rw [List.filter_cons_of_neg (by simpa using hdata), List.filter_nil] at hf
    exact nomatch hf
  | some mac =>
    rw [hmac] at hrun
    obtain ⟨t, ht, hsent⟩ := hrun
    rw [sendsOnceTo_iff ht hsent, Option.some.injEq]
    by_cases hzero : mac = 0
    · have hne : mac ≠ multicastAddressToMAC destIP := by
        rintro rfl
        exact absurd hzero (multicastAddressToMAC_ne_zero destIP)
      rw [if_pos hzero, List.filter_nil]
      exact iff_of_false (by simp) hne
    · have hdata : IsDataFrame ⟨s.networkId, config.mac, mac, ipv6Packet, 0, bytes⟩ :=
        Or.inr ⟨rfl, hp.solicitation⟩
      rw [if_neg hzero, List.filter_cons_of_pos (by simpa using hdata), List.filter_nil]
      simp [NatEngine.SameButTtl]

/-- A packet to a group goes out once and to the MAC of the group, exactly if the gateway of
its route, where one takes the place of the group, is resolved to this MAC; the IPv4 handler
must also have cached a config with an address. -/
theorem sendsOnceTo_group_iff :
    (∀ v4, s.MulticastIPv4 config v4 bytes →
      (SendsOnceTo (multicastAddressToMAC destIP) env bytes s ↔ (s.localV4 env).isSome = true ∧
        s.GatewaySuits destIP sourceIP v4.port fun gateway =>
          s.macIPv4 gateway = multicastAddressToMAC destIP)) ∧
    (∀ v6, MulticastIPv6 config v6 bytes →
      (SendsOnceTo (multicastAddressToMAC destIP) env bytes s ↔
        s.GatewaySuits destIP sourceIP v6.port fun gateway =>
          s.macIPv6 gateway = some (multicastAddressToMAC destIP))) :=
  ⟨fun _ hp => sendsOnceTo_group_iff_ipv4 hbuf hlen hconfig hdest hsource hp,
    fun _ hp => sendsOnceTo_group_iff_ipv6 hbuf hlen hconfig hdest hsource hp⟩

end Reads

/-- A node with an address of each family. -/
def dualStack : VirtualNetworkConfig where
  nwid := 1
  mac := 0x55
  assignedAddresses := [⟨.inet4 0x0a931105, 24⟩, ⟨.inet6 (0xfd <<< 120 ||| 5) (by decide), 64⟩]
  routes := []

/-- A packet of this node to `224.0.0.251`. -/
def mdnsIPv4 : Bytes :=
  [0x45, 0, 0, 20, 0, 0, 0, 0, 1, 17, 0, 0, 10, 147, 17, 5, 224, 0, 0, 251]

/-- A packet of this node to `ff02::fb`. -/
def mdnsIPv6 : Bytes :=
  [0x60, 0, 0, 0, 0, 1, 17, 1] ++ [0xfd, 0, 0, 0, 0, 0, 0, 0, 0, 0, 0, 0, 0, 0, 0, 5] ++
    [0xff, 2, 0, 0, 0, 0, 0, 0, 0, 0, 0, 0, 0, 0, 0, 0xfb] ++ [0]

/-- The config of this node is there, and nothing is tethered. -/
def connected : Environment := ⟨0, some dualStack, [], fun _ => .resultOk⟩

/-- Without routes both packets reach their groups. -/
theorem sendsOnceTo_group_unrouted :
    SendsOnceTo (multicastAddressToMAC (.inet4 0xe00000fb)) connected mdnsIPv4
        (start 1 none none) ∧
      SendsOnceTo (multicastAddressToMAC (.inet6 (0xff02 <<< 112 ||| 0xfb) (by decide))) connected
        mdnsIPv6 (start 1 none none) := by
  constructor
  · have hsource : IPPacketUtils.getSourceIP mdnsIPv4 = .ok (some (.inet4 0x0a931105)) := by decide
    refine ((sendsOnceTo_group_iff (Bytes.length_zeros 1500) (by decide) rfl (by decide)
      hsource).1 ⟨.inet4 0x0a931105, 24⟩
      ⟨by decide, by decide, by decide, by simp [Bridged, start], rfl⟩).mpr ⟨rfl, ?_⟩
    intro route gateway hroute
    cases hroute
  · have hsource : IPPacketUtils.getSourceIP mdnsIPv6 =
        .ok (some (.inet6 (0xfd <<< 120 ||| 5) (by decide))) := by decide
    refine ((sendsOnceTo_group_iff (Bytes.length_zeros 1500) (by decide) rfl (by decide)
      hsource).2 ⟨.inet6 (0xfd <<< 120 ||| 5) (by decide), 64⟩
      ⟨by decide, by decide, by decide, by decide, by decide, rfl⟩).mpr ?_
    intro route gateway hroute
    cases hroute

/-- A default route by way of `10.147.17.1`, whose MAC is not known. -/
def behindGateway : TunTapAdapter :=
  (start 1 none none).addRouteAndNetwork ⟨.inet4 0, 0, some (.inet4 0x0a931101)⟩ 1 default

/-- Behind a gateway the packet goes to `-1`. -/
theorem not_sendsOnceTo_group_behindGateway :
    ¬ SendsOnceTo (multicastAddressToMAC (.inet4 0xe00000fb)) connected mdnsIPv4
      behindGateway := by
  have hsource : IPPacketUtils.getSourceIP mdnsIPv4 = .ok (some (.inet4 0x0a931105)) := by decide
  have hp : behindGateway.MulticastIPv4 dualStack ⟨.inet4 0x0a931105, 24⟩ mdnsIPv4 :=
    ⟨by decide, by decide, by decide,
      by simp [Bridged, behindGateway, addRouteAndNetwork, start], rfl⟩
  have hbuf : behindGateway.buffer.length = 1500 := Bytes.length_zeros 1500
  rw [sendsOnceTo_group_iff_ipv4 hbuf (by decide) rfl (by decide) hsource hp]
  rintro ⟨-, hsuits⟩
  have hmac := hsuits ⟨.inet4 0, 0, some (.inet4 0x0a931101)⟩ (.inet4 0x0a931101) (by decide) rfl
    (by decide)
  exact absurd hmac (by decide)

end TunTapAdapter

end XnetZt
