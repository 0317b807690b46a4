import XnetZt.Lib.Run
import XnetZt.Service.TunTapAdapter

/-!
# What ends the receive thread

An exception in a handler falls through to the outer `catch` of the receive thread and
ends it without a message. The main result says for every adapter and every read exactly
when that does not happen: an IPv4 packet must hold the header that the bridge is about
to sum up, and a short one must not look like a multicast packet through the bytes an
earlier read left behind; an IPv6 packet must hold its addresses, and the type of an
ICMPv6 message, and must not need a neighbor solicitation for an IPv4 address.
-/

namespace XnetZt

namespace TunTapAdapter

open AdapterM

/-! ### IPv4 -/

/-- The IPv4 packets, `length` bytes at the front of a buffer, that are handled. -/
structure SafeIPv4 (s : TunTapAdapter) (env : Environment) (buffer : Bytes) (length : ℕ) :
    Prop where
  header : s.Bridged buffer length → IPv4.headerLength buffer ≤ length
  multicast : length < 20 → (s.localV4 env).isSome = true → buffer.getD 16 0 &&& 0xf0 ≠ 0xe0

section IPv4

variable {s : TunTapAdapter} {env : Environment} {buffer : Bytes} {length : ℕ}

theorem getIPVersion_copyOf (hlen : length ≤ buffer.length) (hpos : 0 < length) :
    IPPacketUtils.getIPVersion (buffer.copyOf length) = IPPacketUtils.getIPVersion buffer :=
  IPPacketUtils.getIPVersion_congr (by simpa) (by omega) (Bytes.getD_copyOf hlen hpos)

/-- Only a multicast packet without its addresses makes the second half throw. -/
theorem forwardIPv4_completes (localV4 : InetAddress) (h20 : 20 ≤ buffer.length)
    (hlen : length ≤ buffer.length) (hv : IPPacketUtils.getIPVersion buffer = .ok 4)
    (h : length < 20 → buffer.getD 16 0 &&& 0xf0 ≠ 0xe0) :
    ∃ s', (forwardIPv4 env localV4 buffer length).run s = .ok () s' ∧
      s'.buffer.length = s.buffer.length := by
  rw [forwardIPv4_run s h20]
  split_ifs with hmulti hhit
  · have hl : 20 ≤ length := by
      by_contra hlt
      exact h (by omega) hmulti
    have hv' := (getIPVersion_copyOf hlen (by omega)).trans hv
    rcases handleIPv4PacketData_cases env s (buffer.copyOf length) with
      ⟨e, -, he⟩ | ⟨s', -, hrun, hkeep, -⟩
    · rw [IPPacketUtils.getDestIP, IPPacketUtils.getSourceIP,
        IPPacketUtils.addressAt_four hv' (by simpa),
        IPPacketUtils.addressAt_four hv' (by simp; omega)] at he
      simp at he
    · exact ⟨s', hrun, hkeep.length_buffer⟩
  · exact ⟨_, sendCached_run .., rfl⟩
  · cases s.hopFor buffer with
    | none => exact ⟨s, rfl, rfl⟩
    | some hop =>
      cases hmac : s.arpTable.inetAddressToMacAddress.lookup hop with
      | none =>
        obtain ⟨request, -, hrun⟩ := resolveAndSend_unknown hmac localV4 (rawAt buffer 16)
        exact ⟨_, hrun, rfl⟩
      | some mac => exact ⟨_, resolveAndSend_known hmac .., rfl⟩

theorem forwardIPv4_throws (localV4 : InetAddress) (h20 : 20 ≤ buffer.length)
    (hlen : length < 20) (hpos : 0 < length) (hv : IPPacketUtils.getIPVersion buffer = .ok 4)
    (hmulti : buffer.getD 16 0 &&& 0xf0 = 0xe0) :
    (forwardIPv4 env localV4 buffer length).run s = .error .arrayIndexOutOfBounds s := by
  have hv' := (getIPVersion_copyOf (by omega) hpos).trans hv
  have hdest : IPPacketUtils.getDestIP (buffer.copyOf length) = .error .arrayIndexOutOfBounds := by
    rw [IPPacketUtils.getDestIP, IPPacketUtils.addressAt_four_short hv' (by simpa)]
  rw [forwardIPv4_run s h20, if_pos hmulti, handleIPv4PacketData, handleIPv4PacketDataUntil, hdest]
  rfl

/-- A packet that the bridge leaves alone is handled if the second half handles it. -/
theorem handleIPv4Packet_left {frame : Option Frame}
    (hleft : s.bridgeResult env buffer length = .ok (frame, false)) (h20 : 20 ≤ buffer.length)
    (hlen : length ≤ buffer.length) (hpos : 0 < length) (hbuf : s.buffer.length = buffer.length)
    (hv : IPPacketUtils.getIPVersion buffer = .ok 4) :
    if length < 20 ∧ (s.localV4 env).isSome = true ∧ buffer.getD 16 0 &&& 0xf0 = 0xe0 then
      ∃ e s', (handleIPv4Packet env buffer length).run s = .error e s'
    else ∃ s', (handleIPv4Packet env buffer length).run s = .ok () s' ∧
      s'.buffer.length = s.buffer.length := by
  obtain ⟨t, hkeep, -, hrun⟩ := trackAndLoad_cases env (s.emit frame.toList) hlen hbuf
  have hprep : (prepareIPv4 env buffer length).run s =
      (trackAndLoad env buffer length).run (s.emit frame.toList) := by
    rw [prepareIPv4_run, hleft]
  rcases hrun with ⟨hrun, hnone⟩ | ⟨a, buffer', hrun, hsome, -, -, hsame⟩
  · have hv4 : s.localV4 env = none := hnone
    rw [if_neg (by simp [hv4])]
    refine ⟨t, ?_, hkeep.length_buffer⟩
    rw [handleIPv4Packet_eq, EStateM.run_bind, hprep, hrun]
    rfl
  · have hv4 : s.localV4 env = some a := hsome
    have hhandle : (handleIPv4Packet env buffer length).run s =
        (forwardIPv4 env a buffer' length).run t := by
      rw [handleIPv4Packet_eq, EStateM.run_bind, hprep, hrun]
    have hl := hsame.length
    have hv' : IPPacketUtils.getIPVersion buffer' = .ok 4 := by
      rw [← hv]
      exact IPPacketUtils.getIPVersion_congr (by omega) (by omega) hsame.head
    rw [hhandle, hv4, ← hsame.getD (show 12 ≤ 16 by omega)]
    split_ifs with hshort
    · exact ⟨_, t, forwardIPv4_throws a (by omega) hshort.1 hpos hv' hshort.2.2⟩
    · obtain ⟨s', hs', hlen'⟩ := forwardIPv4_completes a (by omega) (by omega) hv'
        (fun hlt hmulti => hshort ⟨hlt, rfl, hmulti⟩)
      exact ⟨s', hs', hlen'.trans hkeep.length_buffer⟩

theorem handleIPv4Packet_cases (env : Environment) (s : TunTapAdapter) (h20 : 20 ≤ buffer.length)
    (hlen : length ≤ buffer.length) (hpos : 0 < length) (hbuf : s.buffer.length = buffer.length)
    (hv : IPPacketUtils.getIPVersion buffer = .ok 4) :
    (s.SafeIPv4 env buffer length ∧ ∃ s', (handleIPv4Packet env buffer length).run s = .ok () s' ∧
        s'.buffer.length = s.buffer.length) ∨
      (¬ s.SafeIPv4 env buffer length ∧
        ∃ e s', (handleIPv4Packet env buffer length).run s = .error e s') := by
  have hgo : ∀ frame, s.bridgeResult env buffer length = .ok (frame, false) →
      (s.Bridged buffer length → IPv4.headerLength buffer ≤ length) →
      (s.SafeIPv4 env buffer length ∧ ∃ s', (handleIPv4Packet env buffer length).run s = .ok () s' ∧
        s'.buffer.length = s.buffer.length) ∨
      (¬ s.SafeIPv4 env buffer length ∧
        ∃ e s', (handleIPv4Packet env buffer length).run s = .error e s') := by
    intro frame hleft hheader
    have hrun := handleIPv4Packet_left hleft h20 hlen hpos hbuf hv
    split_ifs at hrun with hshort
    · exact Or.inr ⟨fun h => h.multicast hshort.1 hshort.2.1 hshort.2.2, hrun⟩
    · exact Or.inl ⟨⟨hheader, fun h1 h2 h3 => hshort ⟨h1, h2, h3⟩⟩, hrun⟩
  rcases bridgeResult_cases env s hlen with
    ⟨hb, hres⟩ | ⟨hb, hheader, f, hres⟩ | ⟨hb, hheader, hres⟩
  · exact hgo none hres (fun h => absurd h hb)
  · cases hnode : (env.node f == .resultOk) with
    | false => exact hgo (some f) (hnode ▸ hres) (fun _ => hheader)
    | true =>
      obtain ⟨bridge, -, hi⟩ := hb
      have h20 := hi.twenty_le
      refine Or.inl ⟨⟨fun _ => hheader, fun hlt => by omega⟩, s.emit [f], ?_, rfl⟩
      rw [handleIPv4Packet_eq, EStateM.run_bind, prepareIPv4_run, hres, hnode]
      rfl
  · refine Or.inr ⟨fun h => absurd (h.header hb) (by omega), .arrayIndexOutOfBounds, s, ?_⟩
    rw [handleIPv4Packet_eq, EStateM.run_bind, prepareIPv4_run, hres]

end IPv4

/-! ### IPv6 -/

/-- A packet of an ICMPv6 type, read without bounds. -/
def hasICMPv6Type (type : Byte) (packetData : Bytes) : Bool :=
  packetData.getD 6 0 == 58 && packetData.getD 40 0 == type

/-- A neighbor solicitation is sent for the hop of a packet. -/
def needsSolicitation (s : TunTapAdapter) (packetData : Bytes) (hop : InetAddress) : Bool :=
  !hasICMPv6Type (-121) packetData && !isIPv6Multicast hop &&
    (hasICMPv6Type (-120) packetData || !s.ndpTable.hasMacForAddress hop)

def localV6 (env : Environment) : Option InetSocketAddress :=
  env.config.bind fun config => config.assignedAddresses.find? (·.address.isInet6)

/-- The address a packet is sent to, where the prefix length is that of the first assigned
address of its family. -/
def hopWithCidr (s : TunTapAdapter) (cidr : ℕ) (destIP sourceIP : InetAddress) : InetAddress :=
  nextHop ((routeForDestination s.routeOrder s.routeMap destIP).bind (·.gateway)) destIP sourceIP
    cidr

/-- The message type is there if it is looked at, and a solicitation has the addresses it
needs. -/
structure Solicits (s : TunTapAdapter) (packetData : Bytes) (sourceIP hop : InetAddress) :
    Prop where
  icmp : packetData.getD 6 0 = 58 → 41 ≤ packetData.length
  inet6 : s.needsSolicitation packetData hop = true →
    sourceIP.isInet4 = false ∧ hop.isInet4 = false

/-- The IPv6 packets that are handled. -/
structure SafeIPv6 (s : TunTapAdapter) (env : Environment) (packetData : Bytes) : Prop where
  addresses : 40 ≤ packetData.length
  solicits : ∀ v6 destIP sourceIP, localV6 env = some v6 →
    InetAddress.getByAddress (packetData.slice 24 16) = some destIP →
    InetAddress.getByAddress (packetData.slice 8 16) = some sourceIP →
    s.Solicits packetData sourceIP (s.hopWithCidr v6.port destIP sourceIP)

section IPv6

variable {s : TunTapAdapter} {env : Environment} {packetData : Bytes}

theorem isICMPv6_eq_ok (type : Byte) (h7 : 7 ≤ packetData.length)
    (h : packetData.getD 6 0 = 58 → 41 ≤ packetData.length) :
    isICMPv6 type packetData = .ok (hasICMPv6Type type packetData) := by
  unfold isICMPv6 hasICMPv6Type
  rw [Bytes.read_eq_ok (by omega), ok_bind]
  by_cases h58 : packetData.getD 6 0 = 58
  · rw [if_neg (not_not.mpr h58), Bytes.read_eq_ok (by have := h h58; omega), h58]
    rfl
  · rw [if_pos h58, beq_false_of_ne h58]
    rfl

theorem isICMPv6_eq_error (type : Byte) (h7 : 7 ≤ packetData.length)
    (h : packetData.getD 6 0 = 58) (hlen : packetData.length < 41) :
    isICMPv6 type packetData = .error .arrayIndexOutOfBounds := by
  unfold isICMPv6
  rw [Bytes.read_eq_ok (by omega), ok_bind, if_neg (not_not.mpr h), Bytes.read_eq_error (by omega)]
  rfl

theorem destMacIPv6_run (env : Environment) (s : TunTapAdapter) (h7 : 7 ≤ packetData.length)
    (h : packetData.getD 6 0 = 58 → 41 ≤ packetData.length) (hop : InetAddress) :
    ∃ mac s', (destMacIPv6 env packetData hop).run s =
        .ok (mac, s.needsSolicitation packetData hop) s' ∧ s'.buffer = s.buffer := by
  unfold destMacIPv6 destMacIPv6Until needsSolicitation isNeighborSolicitation
    isNeighborAdvertisement
  rw [isICMPv6_eq_ok _ h7 h, isICMPv6_eq_ok _ h7 h, bind_assoc, Handler.run_get_bind, bind_assoc,
    run_call_bind]
  -- the four questions of the code, in its order
  cases hasICMPv6Type (-121) packetData <;> cases isIPv6Multicast hop <;>
    cases hasICMPv6Type (-120) packetData <;> cases s.ndpTable.hasMacForAddress hop <;>
    exact ⟨_, _, rfl, rfl⟩

theorem sendKnown_run (s : TunTapAdapter) (localMac destMac : Mac) (packetData : Bytes) :
    ∃ s', (sendKnown localMac destMac packetData).run s = .ok () s' ∧ s'.buffer = s.buffer := by
  unfold sendKnown
  split_ifs
  · exact ⟨s, rfl, rfl⟩
  · exact ⟨_, rfl, rfl⟩

/-- A solicitation is made for two IPv6 addresses. -/
theorem solicit_cases (s : TunTapAdapter) (localMac destMac : Mac) (sourceIP hop : InetAddress) :
    ((sourceIP.isInet4 = false ∧ hop.isInet4 = false) ∧
        ∃ s', (solicit localMac destMac sourceIP hop).run s = .ok () s' ∧ s'.buffer = s.buffer) ∨
      (¬ (sourceIP.isInet4 = false ∧ hop.isInet4 = false) ∧
        ∃ e s', (solicit localMac destMac sourceIP hop).run s = .error e s') := by
  unfold solicit
  by_cases h6 : sourceIP.isInet4 = false ∧ hop.isInet4 = false
  · obtain ⟨p, hp⟩ := NDPTable.getNeighborSolicitationPacket_eq_ok localMac h6.1 h6.2
    rw [hp]
    exact Or.inl ⟨h6, _, rfl, rfl⟩
  · have h4 : sourceIP.isInet4 = true ∨ hop.isInet4 = true := by
      revert h6
      cases sourceIP.isInet4 <;> cases hop.isInet4 <;> simp
    rw [NDPTable.getNeighborSolicitationPacket_eq_error localMac h4]
    exact Or.inr ⟨h6, _, _, rfl⟩

/-- After the subscription: the packet is sent on, or throws. -/
theorem sendIPv6_cases (env : Environment) (s : TunTapAdapter) (h7 : 7 ≤ packetData.length)
    (localMac : Mac) (sourceIP hop : InetAddress) :
    (s.Solicits packetData sourceIP hop ∧
        ∃ s', (sendIPv6 env localMac packetData sourceIP hop).run s = .ok () s' ∧
          s'.buffer = s.buffer) ∨
      (¬ s.Solicits packetData sourceIP hop ∧
        ∃ e s', (sendIPv6 env localMac packetData sourceIP hop).run s = .error e s') := by
  by_cases hicmp : packetData.getD 6 0 = 58 → 41 ≤ packetData.length
  · obtain ⟨mac, t, hmac, hbuf⟩ := destMacIPv6_run env s h7 hicmp hop
    obtain ⟨u, hsend, hbuf'⟩ := sendKnown_run t localMac mac packetData
    rw [sendIPv6_eq, Handler.run_bind_ok hmac, sendMacIPv6, Handler.run_bind_ok hsend]
    cases hneed : s.needsSolicitation packetData hop with
    | false => exact Or.inl ⟨⟨hicmp, by simp [hneed]⟩, u, rfl, hbuf'.trans hbuf⟩
    | true =>
      rcases solicit_cases u localMac mac sourceIP hop with ⟨h6, v, hv, hbuf''⟩ | ⟨h6, e, v, hv⟩
      · exact Or.inl ⟨⟨hicmp, fun _ => h6⟩, v, hv, hbuf''.trans (hbuf'.trans hbuf)⟩
      · exact Or.inr ⟨fun h => h6 (h.inet6 hneed), e, v, hv⟩
  · refine Or.inr ⟨fun h => hicmp h.icmp, .arrayIndexOutOfBounds, s, ?_⟩
    obtain ⟨h58, hlen⟩ := Classical.not_imp.mp hicmp
    rw [sendIPv6_eq, destMacIPv6, destMacIPv6Until, isNeighborSolicitation,
      isICMPv6_eq_error _ h7 h58 (by omega)]
    rfl

/-- Once the addresses are read, safety is a question about one hop. -/
theorem safeIPv6_iff {v6 : InetSocketAddress} {destIP sourceIP : InetAddress}
    (h40 : 40 ≤ packetData.length) (hlocal : localV6 env = some v6)
    (hdest : InetAddress.getByAddress (packetData.slice 24 16) = some destIP)
    (hsource : InetAddress.getByAddress (packetData.slice 8 16) = some sourceIP) :
    s.SafeIPv6 env packetData ↔
      s.Solicits packetData sourceIP (s.hopWithCidr v6.port destIP sourceIP) := by
  constructor
  · intro h
    exact h.solicits v6 destIP sourceIP hlocal hdest hsource
  · intro h
    refine ⟨h40, fun v6' destIP' sourceIP' hv6 hd hs => ?_⟩
    obtain rfl : v6 = v6' := Option.some.inj (hlocal.symm.trans hv6)
    obtain rfl : destIP = destIP' := Option.some.inj (hdest.symm.trans hd)
    obtain rfl : sourceIP = sourceIP' := Option.some.inj (hsource.symm.trans hs)
    exact h

theorem safeIPv6_of_localV6_eq_none (h40 : 40 ≤ packetData.length) (h : localV6 env = none) :
    s.SafeIPv6 env packetData :=
  ⟨h40, fun v6 _ _ hv6 => by rw [h] at hv6; cases hv6⟩

theorem handleIPv6Packet_cases (env : Environment) (s : TunTapAdapter)
    (hv : IPPacketUtils.getIPVersion packetData = .ok 6) :
    (s.SafeIPv6 env packetData ∧ ∃ s', (handleIPv6Packet env packetData).run s = .ok () s' ∧
        s'.buffer = s.buffer) ∨
      (¬ s.SafeIPv6 env packetData ∧
        ∃ e s', (handleIPv6Packet env packetData).run s = .error e s') := by
  unfold handleIPv6Packet handleIPv6PacketUntil
  by_cases h40 : packetData.length < 40
  · refine Or.inr ⟨fun h => absurd h.addresses (by omega), .arrayIndexOutOfBounds, s, ?_⟩
    rw [IPPacketUtils.getDestIP, IPPacketUtils.addressAt_six_short hv (by omega)]
    rfl
  obtain ⟨destIP, hdest⟩ := Option.isSome_iff_exists.mp (InetAddress.getByAddress_sixteen_isSome
    (Bytes.length_slice (show 24 + 16 ≤ packetData.length by omega)))
  obtain ⟨sourceIP, hsource⟩ := Option.isSome_iff_exists.mp
    (InetAddress.getByAddress_sixteen_isSome
      (Bytes.length_slice (show 8 + 16 ≤ packetData.length by omega)))
  rw [IPPacketUtils.getDestIP, IPPacketUtils.addressAt_six hv (by omega), hdest,
    IPPacketUtils.getSourceIP, IPPacketUtils.addressAt_six hv (by omega), hsource,
    atOnce_bind, run_call_bind, atOnce_bind, run_call_bind]
  cases hc : env.config with
  | none =>
    have hnone : localV6 env = none := by simp [localV6, hc]
    exact Or.inl ⟨safeIPv6_of_localV6_eq_none (by omega) hnone, s, rfl, rfl⟩
  | some config =>
    obtain ⟨macs, hsub⟩ := subscribeTo_run s (isIPv6Multicast destIP) destIP
    have hlocal : localV6 env = config.assignedAddresses.find? (·.address.isInet6) := by
      simp [localV6, hc]
    dsimp only
    rw [atOnce_bind, Handler.run_bind_ok hsub, atOnce_bind, Handler.run_get_bind]
    cases hfind : config.assignedAddresses.find? (·.address.isInet6) with
    | none =>
      exact Or.inl ⟨safeIPv6_of_localV6_eq_none (by omega) (hlocal.trans hfind), _, rfl, rfl⟩
    | some v6 =>
      rw [safeIPv6_iff (by omega) (hlocal.trans hfind) hdest hsource]
      -- the subscription changes nothing that the rest looks at
      rcases sendIPv6_cases env { s with subscriptions := macs }
          (show 7 ≤ packetData.length by omega) config.mac sourceIP
          (s.hopWithCidr v6.port destIP sourceIP) with ⟨hsol, hrun⟩ | ⟨hsol, hrun⟩
      · exact Or.inl ⟨⟨hsol.icmp, hsol.inet6⟩, hrun⟩
      · exact Or.inr ⟨fun h => hsol ⟨h.icmp, h.inet6⟩, hrun⟩

end IPv6

/-! ### The loop -/

/-- The reads that are handled. Behind the bytes of an IPv4 packet the handler sees what
earlier reads left in the buffer. -/
structure SafeRead (s : TunTapAdapter) (env : Environment) (bytes : Bytes) : Prop where
  ipv4 : IPv4.version bytes = 4 → s.SafeIPv4 env (s.buffer.splice 0 bytes) bytes.length
  ipv6 : IPv4.version bytes = 6 → s.SafeIPv6 env bytes

/-- A read is handled, and the loop goes on to the next one. -/
def Completes (s : TunTapAdapter) (env : Environment) (bytes : Bytes) : Prop :=
  ∃ s', (receive env bytes).run s = .ok () s' ∧
    ∀ reads, receiveLoop (.bytes env bytes :: reads) s = receiveLoop reads s'

theorem sshiftRight_four_eq (b : Byte) :
    (b.sshiftRight 4 = 4 ↔ b.toNat / 16 = 4) ∧ (b.sshiftRight 4 = 6 ↔ b.toNat / 16 = 6) := by
  revert b
  decide

theorem getIPVersion_eq_four {bArr : Bytes} (hpos : 0 < bArr.length)
    (h : IPv4.version bArr = 4) : IPPacketUtils.getIPVersion bArr = .ok 4 := by
  rw [IPPacketUtils.getIPVersion, Bytes.read_eq_ok hpos, ok_bind, pure_eq_ok,
    (sshiftRight_four_eq _).1.mpr h]

theorem getIPVersion_eq_six {bArr : Bytes} (hpos : 0 < bArr.length)
    (h : IPv4.version bArr = 6) : IPPacketUtils.getIPVersion bArr = .ok 6 := by
  rw [IPPacketUtils.getIPVersion, Bytes.read_eq_ok hpos, ok_bind, pure_eq_ok,
    (sshiftRight_four_eq _).2.mpr h]

section Loop

variable {s : TunTapAdapter} {env : Environment} {bytes : Bytes}

theorem getD_splice_zero (buffer : Bytes) {i : ℕ} (hi : i < bytes.length) :
    (buffer.splice 0 bytes).getD i 0 = bytes.getD i 0 := by
  rw [Bytes.splice, List.take_zero, List.nil_append, List.getD_append _ _ _ _ hi]

/-- What was read is at the front of the buffer. -/
theorem copyOf_splice {buffer : Bytes} (h : bytes.length ≤ buffer.length) :
    (buffer.splice 0 bytes).copyOf bytes.length = bytes := by
  rw [Bytes.copyOf_eq_take (by rw [Bytes.length_splice (by omega)]; exact h)]
  simp [Bytes.splice]

/-- A read goes by its version to one of the two handlers. -/
theorem receive_run (env : Environment) (hbuf : s.buffer.length = 1500) (hpos : 0 < bytes.length)
    (hlen : bytes.length ≤ 1500) :
    (receive env bytes).run s =
      (if IPv4.version bytes = 4 then
          handleIPv4Packet env (s.buffer.splice 0 bytes) bytes.length
        else if IPv4.version bytes = 6 then handleIPv6Packet env bytes
        else pure ()).run { s with buffer := s.buffer.splice 0 bytes } := by
  have hbl : (s.buffer.splice 0 bytes).length = 1500 :=
    (Bytes.length_splice (by omega)).trans hbuf
  obtain ⟨hfour, hsix⟩ := sshiftRight_four_eq (bytes.getD 0 0)
  rw [receive, if_neg (by omega), EStateM.run_bind, EStateM.run_modify]
  dsimp only
  rw [Handler.run_get_bind]
  dsimp only
  rw [EStateM.run_bind, IPPacketUtils.getIPVersion, Bytes.read_eq_ok (by omega),
    getD_splice_zero _ hpos, copyOf_splice (by omega)]
  simp only [ok_bind, pure_eq_ok, run_call_ok, hfour, hsix]
  rfl

theorem safeIPv4_buffer {b buffer : Bytes} {length : ℕ} :
    SafeIPv4 { s with buffer := b } env buffer length ↔ s.SafeIPv4 env buffer length :=
  ⟨fun h => ⟨h.header, h.multicast⟩, fun h => ⟨h.header, h.multicast⟩⟩

theorem safeIPv6_buffer {b packetData : Bytes} :
    SafeIPv6 { s with buffer := b } env packetData ↔ s.SafeIPv6 env packetData := by
  constructor
  · intro h
    refine ⟨h.addresses, fun v6 destIP sourceIP hv6 hd hs => ?_⟩
    have hsol := h.solicits v6 destIP sourceIP hv6 hd hs
    exact ⟨hsol.icmp, hsol.inet6⟩
  · intro h
    refine ⟨h.addresses, fun v6 destIP sourceIP hv6 hd hs => ?_⟩
    have hsol := h.solicits v6 destIP sourceIP hv6 hd hs
    exact ⟨hsol.icmp, hsol.inet6⟩

theorem receive_cases (env : Environment) (s : TunTapAdapter) (hbuf : s.buffer.length = 1500)
    (hlen : bytes.length ≤ 1500) :
    (s.SafeRead env bytes ∧ ∃ s', (receive env bytes).run s = .ok () s' ∧
        s'.buffer.length = 1500) ∨
      (¬ s.SafeRead env bytes ∧ ∃ e s', (receive env bytes).run s = .error e s') := by
  rcases Nat.eq_zero_or_pos bytes.length with hzero | hpos
  · have hv : IPv4.version bytes = 0 := by
      rw [List.length_eq_zero_iff.mp hzero]
      rfl
    refine Or.inl ⟨⟨fun h => by omega, fun h => by omega⟩, s, ?_, hbuf⟩
    rw [receive, if_pos hzero]
    rfl
  have hbl : (s.buffer.splice 0 bytes).length = 1500 :=
    (Bytes.length_splice (by omega)).trans hbuf
  have hv : IPv4.version (s.buffer.splice 0 bytes) = IPv4.version bytes := by
    rw [IPv4.version, getD_splice_zero _ hpos, IPv4.version]
  rw [receive_run env hbuf hpos hlen]
  split_ifs with h4 h6
  · rcases handleIPv4Packet_cases env { s with buffer := s.buffer.splice 0 bytes }
        (by rw [hbl]; omega) (by rw [hbl]; exact hlen) hpos rfl
        (getIPVersion_eq_four (by rw [hbl]; omega) (hv.trans h4)) with
      ⟨hsafe, s', hs', hl⟩ | ⟨hsafe, herr⟩
    · rw [safeIPv4_buffer] at hsafe
      exact Or.inl ⟨⟨fun _ => hsafe, fun h => by omega⟩, s', hs', hl.trans hbl⟩
    · rw [safeIPv4_buffer] at hsafe
      exact Or.inr ⟨fun h => hsafe (h.ipv4 h4), herr⟩
  · rcases handleIPv6Packet_cases env { s with buffer := s.buffer.splice 0 bytes }
        (getIPVersion_eq_six hpos h6) with ⟨hsafe, s', hs', hl⟩ | ⟨hsafe, herr⟩
    · rw [safeIPv6_buffer] at hsafe
      exact Or.inl ⟨⟨fun h => by omega, fun _ => hsafe⟩, s', hs', (congrArg _ hl).trans hbl⟩
    · rw [safeIPv6_buffer] at hsafe
      exact Or.inr ⟨fun h => hsafe (h.ipv6 h6), herr⟩
  · exact Or.inl ⟨⟨fun h => absurd h h4, fun h => absurd h h6⟩, _, rfl, hbl⟩

/-- For every adapter, whatever its routes, tables, config, connection tracking and
bridge, the receive thread survives exactly the safe reads. -/
theorem completes_iff_safeRead (s : TunTapAdapter) (env : Environment) (bytes : Bytes)
    (hbuf : s.buffer.length = 1500) (hlen : bytes.length ≤ 1500) :
    s.Completes env bytes ↔ s.SafeRead env bytes := by
  rcases receive_cases env s hbuf hlen with ⟨hsafe, s', hrun, -⟩ | ⟨hsafe, e, s', hrun⟩
  · refine iff_of_true ⟨s', hrun, fun reads => ?_⟩ hsafe
    rw [receiveLoop, hrun]
  · refine iff_of_false ?_ hsafe
    rintro ⟨t, ht, -⟩
    rw [hrun] at ht
    cases ht

/-- Nothing is known of the network, and the node takes every frame. -/
def idle : Environment := ⟨0, none, [], fun _ => .resultOk⟩

/-- A UDP packet of a tether client, through the bridge. -/
theorem completes_clientPacket :
    (start 1 (some (TetherL3Bridge.bridgeAt 0x0a000002)) none).Completes idle
      TetherL3Bridge.clientPacket := by
  refine (completes_iff_safeRead _ _ _ (Bytes.length_zeros 1500) (by decide)).mpr
    ⟨fun _ => ⟨fun _ => ?_, fun h => ?_⟩, fun h => ?_⟩
  · decide
  · exact absurd h (by decide)
  · exact absurd h (by decide)

/-- One byte that announces IPv6 ends the thread. -/
theorem not_completes_truncated : ¬ (start 1 none none).Completes idle [0x60] := by
  rintro ⟨s', hrun, -⟩
  rcases receive_cases idle (start 1 none none) (Bytes.length_zeros 1500)
      (show ([0x60] : Bytes).length ≤ 1500 by decide) with ⟨hsafe, -⟩ | ⟨-, e, t, herr⟩
  · exact absurd (hsafe.ipv6 (by decide)).addresses (by decide)
  · rw [herr] at hrun
    cases hrun

/-- The adapter after a turn of the loop. -/
def afterRead (s : TunTapAdapter) : TunRead → TunTapAdapter
  | .bytes env bytes =>
    match (receive env bytes).run s with
    | .ok _ s => s
    | .error _ s => s
  | _ => s

def ReadsSafely (s : TunTapAdapter) : TunRead → Prop
  | .bytes env bytes => bytes.length ≤ 1500 ∧ s.SafeRead env bytes
  | _ => True

/-- While all reads are safe, the loop ends only by itself. -/
theorem receiveLoop_ne_exception {reads : List TunRead} (hbuf : s.buffer.length = 1500)
    (h : Run.Along afterRead ReadsSafely s reads) (e : JavaException) :
    (receiveLoop reads s).1 ≠ some (.exception e) := by
  induction reads generalizing s with
  | nil => simp [receiveLoop]
  | cons read reads ih =>
    obtain ⟨hread, hreads⟩ := h
    cases read with
    | endOfStream => simp [receiveLoop]
    | ioException => simp [receiveLoop]
    | interrupted => simp [receiveLoop]
    | bytes env bytes =>
      obtain ⟨hlen, hsafe⟩ := hread
      rcases receive_cases env s hbuf hlen with ⟨-, s', hrun, hbuf'⟩ | ⟨hbad, -⟩
      · rw [receiveLoop, hrun]
        refine ih hbuf' ?_
        simpa [afterRead, hrun] using hreads
      · exact absurd hsafe hbad

end Loop

end TunTapAdapter

end XnetZt
