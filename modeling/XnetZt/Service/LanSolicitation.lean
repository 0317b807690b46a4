import XnetZt.Service.LanDelivery

/-!
# IPv6 between members

An adapter solicits an address that it does not know, but it answers no solicitation, and the
kernel behind it has no link layer to answer for. So an address is learnt only from packets of
its owner: a member whose kernel sends no IPv6 packet is never found. Two members that both
have something to send find each other. The solicitation of the first makes the first known to
the second, and the packet of the second then goes through and makes the second known.
-/

namespace XnetZt

open NeighborTable (TableClass)
open TunTapAdapter (hasICMPv6Type)

namespace Lan

variable {H : Type} {lan : Lan H}

/-! ### Silence -/

section Silence

variable {sends : H → Bytes → Prop} {g h : H} {p : Bytes} {a : InetAddress}

theorem hasICMPv6Type_solicitation (hp : lan.Solicitation sends g p) :
    hasICMPv6Type (-121) p = true := by
  obtain ⟨source, dest, -, hp⟩ := hp.made
  obtain ⟨h6, h40⟩ := NDPTable.getNeighborSolicitationPacket_type hp
  rw [hasICMPv6Type, h6, h40]
  rfl

/-- What comes to a silent member past its groups is a solicitation, or its sender reaches the
member by a gateway. -/
theorem Delivered.isSolicitation (hp : lan.Delivered sends h p) (hsilent : ¬ Speaks sends h)
    (hversion : IPv4.version p = 6) (ha : IPPacketUtils.getDestIP p = .ok (some a))
    (hgroup : isIPv6Multicast a = false) :
    hasICMPv6Type (-121) p = true ∨ ∃ g, g ≠ h ∧ sends g p ∧ ¬ lan.Direct g a := by
  cases hp with
  | ipv4 g _ _ hversion' hsame _ =>
    rw [IPv4.version, hsame.head] at hversion
    rw [IPv4.version, hversion] at hversion'
    exact absurd hversion' (by decide)
  | ipv6 g hother hsends hdest =>
    cases hsol : hasICMPv6Type (-121) p with
    | false =>
      exact Or.inr ⟨g, hother, hsends, fun hdirect => hsilent (hdest a ha hgroup hsol hdirect).2⟩
    | true => exact Or.inl rfl
  | solicitation g _ hp => exact Or.inl (hasICMPv6Type_solicitation hp)

/-- No member knows an IPv6 neighbour at `h`, and `h` has got no packet for a single address but
solicitations, and packets whose sender has a gateway for that address. -/
structure Unheard (lan : Lan H) (sends : H → Bytes → Prop) (h : H) (w : H → Member) : Prop where
  unknown : ∀ g a, (lan.config h).Assigns a →
    (w g).adapter.ndpTable.inetAddressToMacAddress.lookup a = none
  written : ∀ p ∈ (w h).written, ∀ a, IPv4.version p = 6 →
    IPPacketUtils.getDestIP p = .ok (some a) → isIPv6Multicast a = false →
    hasICMPv6Type (-121) p = true ∨ ∃ g, g ≠ h ∧ sends g p ∧ ¬ lan.Direct g a

/-- A member whose kernel sends no IPv6 packet is in no NDP table, and what it gets without a
gateway are solicitations, in every state of every run of honest kernels. -/
theorem throughout_unheard [DecidableEq H] (natEngine : H → Option NatEngine)
    {events : List (NetworkEvent H)} (hhonest : lan.HonestRun events)
    (hsilent : ∀ bytes, SentIn events h bytes → IPv4.version bytes ≠ 6) :
    Run.Throughout lan.protocol.step (lan.Unheard (SentIn events) h) (lan.start natEngine)
      events := by
  have hnot : ¬ Speaks (SentIn events) h := fun ⟨bytes, hsent, hversion⟩ =>
    hsilent bytes hsent hversion
  refine (throughout_soundMember_start natEngine hhonest fun _ _ h => h).mono fun w hw => ⟨?_, ?_⟩
  · intro g a ha
    by_contra hne
    obtain ⟨mac, hmac⟩ := Option.ne_none_iff_exists'.mp hne
    obtain ⟨owner, howns, -, hspeaks⟩ := (hw g).adapter.ndp a mac hmac
    rw [lan.owner_unique owner h a howns ha] at hspeaks
    exact hnot hspeaks
  · intro p hp a hversion ha hgroup
    exact ((hw h).written p hp).isSolicitation hnot hversion ha hgroup

/-- Two phones in `fd00::/64`. -/
def pairAddress : Bool → InetAddress
  | false => .inet6 0xfd000000000000000000000000000001 (by decide)
  | true => .inet6 0xfd000000000000000000000000000002 (by decide)

def pair6 : Lan Bool where
  networkId := 1
  config h := ⟨1, if h then 0x020000000002 else 0x020000000001, [⟨pairAddress h, 64⟩], []⟩
  routeMap _ := (∅ : RouteMap).insert
    ⟨.inet6 0xfd000000000000000000000000000000 (by decide), 64, none⟩ 1
  routeOrder _ := .id
  mac_ne_zero := by decide
  mac_lt := by decide
  mac_unicast := by decide
  mac_injective := by decide
  owner_unique := by
    rintro (_ | _) (_ | _) a ⟨x, hx, rfl⟩ ⟨y, hy, hxy⟩
    all_goals simp_all [pairAddress]

/-- A packet from one of them to the other. -/
def pairPacket6 (h : Bool) : Bytes :=
  [0x60, 0, 0, 0, 0, 1, 17, 64] ++ (pairAddress h).getAddress ++ (pairAddress !h).getAddress ++ [0]

theorem honest_pairPacket6 (h : Bool) : pair6.Honest h (pairPacket6 h) where
  length_le := by cases h <;> decide
  header := by cases h <;> decide
  source := by
    have hsource : IPPacketUtils.getSourceIP (pairPacket6 h) = .ok (some (pairAddress h)) := by
      cases h <;> decide
    intro a ha
    rw [← Option.some.inj (Except.ok.inj (hsource.symm.trans ha))]
    exact ⟨⟨pairAddress h, 64⟩, List.mem_singleton.mpr rfl, rfl⟩

/-- The first of them sends a packet, and its solicitation is delivered. -/
def solicitRun : List (NetworkEvent Bool) :=
  [.act false (.packet 0 [] (fun _ => .resultOk) (pairPacket6 false)),
    .deliver true false 0 ⟨1, true⟩]

theorem honestRun_solicitRun : pair6.HonestRun solicitRun := by
  intro h now interfaces node bytes hmem
  simp only [solicitRun, List.mem_cons, List.not_mem_nil, or_false, reduceCtorEq,
    Protocol.Event.act.injEq, Event.packet.injEq] at hmem
  obtain ⟨rfl, -, -, -, rfl⟩ := hmem
  exact honest_pairPacket6 false

theorem throughout_unheard_solicitRun :
    pair6.HonestRun solicitRun ∧
      (∀ bytes, SentIn solicitRun true bytes → IPv4.version bytes ≠ 6) ∧
      Run.Throughout pair6.protocol.step (pair6.Unheard (SentIn solicitRun) true)
        (pair6.start fun _ => none) solicitRun := by
  have hsilent : ∀ bytes, SentIn solicitRun true bytes → IPv4.version bytes ≠ 6 := by
    rintro bytes ⟨now, interfaces, node, hmem⟩
    simp [solicitRun] at hmem
  exact ⟨honestRun_solicitRun, hsilent, throughout_unheard _ honestRun_solicitRun hsilent⟩

end Silence

/-! ### Conversation -/

section Conversation

open TunTapAdapter

variable {sends : H → Bytes → Prop} {past : Past} {g h : H} {s : TunTapAdapter}
  {env : Environment} {bytes : Bytes} {source dest : InetAddress}

/-- The IPv6 packets of interest: from an address of `g` to a neighbour, and not messages of
neighbour discovery. -/
structure Unicast6 (lan : Lan H) (g : H) (source dest : InetAddress) (bytes : Bytes) : Prop where
  honest : lan.Honest g bytes
  version : IPv4.version bytes = 6
  length : 41 ≤ bytes.length
  getSourceIP : IPPacketUtils.getSourceIP bytes = .ok (some source)
  getDestIP : IPPacketUtils.getDestIP bytes = .ok (some dest)
  inet6 : source.isInet6 = true ∧ dest.isInet6 = true
  unicast : isIPv6Multicast source = false ∧ isIPv6Multicast dest = false
  solicitation : hasICMPv6Type (-121) bytes = false
  advertisement : hasICMPv6Type (-120) bytes = false
  direct : lan.Direct g dest

theorem Unicast6.assigns (hu : lan.Unicast6 g source dest bytes) :
    (lan.config g).Assigns source :=
  hu.honest.source source hu.getSourceIP

def packetFrame (lan : Lan H) (g : H) (mac : Mac) (p : Bytes) : Frame :=
  ⟨lan.networkId, (lan.config g).mac, mac, ipv6Packet, 0, p⟩

/-- The packet goes to the owner of its address, or the address is solicited. -/
inductive Forwards6 (lan : Lan H) (g : H) (source dest : InetAddress) (bytes : Bytes)
    (s t : TunTapAdapter) : Prop
  | data (mac : Mac) (hbinds : lan.Binds dest mac)
      (hsent : t.sent = s.sent ++ [packetFrame lan g mac bytes])
  | solicits (p : Bytes) (hmac : s.ndpTable.inetAddressToMacAddress.lookup dest = none)
      (hp : NDPTable.getNeighborSolicitationPacket source dest (lan.config g).mac = .ok p)
      (hsent : t.sent = s.sent ++ [packetFrame lan g (ipv6ToMulticastAddress dest) p])

theorem length_getAddress_inet6 {a : InetAddress} (ha : a.isInet6 = true) :
    a.getAddress.length = 16 := by
  cases a with
  | inet4 raw => cases ha
  | inet6 raw hraw => simp [InetAddress.length_getAddress, InetAddress.isInet4]

theorem sendIPv6_solicits {hop : InetAddress} {localMac : Mac} {p : Bytes}
    (hlen : 41 ≤ bytes.length) (hsol : hasICMPv6Type (-121) bytes = false)
    (hadv : hasICMPv6Type (-120) bytes = false) (hmac : s.macIPv6 hop = none)
    (hp : NDPTable.getNeighborSolicitationPacket source hop localMac = .ok p) :
    ∃ t, (sendIPv6 env localMac bytes source hop).run s = .ok () t ∧
      t.sent = s.sent ++
        [⟨s.networkId, localMac, ipv6ToMulticastAddress hop, ipv6Packet, 0, p⟩] := by
  obtain ⟨t, hrun, hsent, hid⟩ := destMacIPv6_ordinary env s hlen hsol hadv hop
  rw [hmac, Option.getD_none, Option.isNone_none] at hrun
  have hnothing : (sendKnown localMac 0 bytes).run t = .ok () t := rfl
  rw [sendIPv6_eq, Handler.run_bind_ok hrun, sendMacIPv6, Handler.run_bind_ok hnothing, if_pos rfl,
    solicit, hp, ← hsent, ← hid]
  exact ⟨_, rfl, rfl⟩

theorem receive_forwards6 (hs : lan.Sound sends past g s)
    (henv : env.config = some (lan.config g)) (hu : lan.Unicast6 g source dest bytes) :
    ∃ t, (TunTapAdapter.receive env bytes).run s = .ok () t ∧
      Forwards6 lan g source dest bytes s t := by
  have h41 := hu.length
  have h4 : IPv4.version bytes ≠ 4 := by
    rw [hu.version]
    decide
  obtain ⟨v6, hv6⟩ :
      ∃ v6, (lan.config g).assignedAddresses.find? (·.address.isInet6) = some v6 := by
    obtain ⟨x, hx, hxs⟩ := hu.assigns
    exact Option.isSome_iff_exists.mp (List.find?_isSome.mpr ⟨x, hx, hxs ▸ hu.inet6.1⟩)
  obtain ⟨macs, hrun⟩ := handleIPv6Packet_run { s with buffer := s.buffer.splice 0 bytes } henv
    hu.getDestIP hu.getSourceIP hv6
  have hhop : TunTapAdapter.hopWithCidr { s with buffer := s.buffer.splice 0 bytes } v6.port dest
      source = dest := by
    obtain ⟨route, hroute, hgateway⟩ := hu.direct
    rw [hopWithCidr, hs.routeOrder, hs.routeMap, hroute, Option.bind_some, hgateway]
    rfl
  rw [receive_run env hs.length_buffer (by omega) hu.honest.length_le, if_neg h4,
    if_pos hu.version, hrun, hhop]
  have hmacIPv6 : TunTapAdapter.macIPv6
      { s with buffer := s.buffer.splice 0 bytes, subscriptions := macs } dest =
      s.ndpTable.inetAddressToMacAddress.lookup dest := by
    rw [macIPv6, hu.unicast.2]
    rfl
  cases hmac : s.ndpTable.inetAddressToMacAddress.lookup dest with
  | some mac =>
    obtain ⟨owner, howns, hmac', -⟩ := hs.ndp dest mac hmac
    have hzero : mac ≠ 0 := hmac' ▸ lan.mac_ne_zero owner
    obtain ⟨t, hsend, hsent⟩ := sendIPv6_known hu.length hu.solicitation hu.advertisement
      (lan.config g).mac (hmacIPv6.trans hmac)
    rw [if_neg hzero, hs.networkId] at hsent
    exact ⟨t, hsend, .data mac ⟨owner, howns, hmac'⟩ hsent⟩
  | none =>
    have hp := NDPTable.getNeighborSolicitationPacket_eq (length_getAddress_inet6 hu.inet6.1)
      (length_getAddress_inet6 hu.inet6.2) (lan.config g).mac
    obtain ⟨t, hsend, hsent⟩ := sendIPv6_solicits hu.length hu.solicitation hu.advertisement
      (hmacIPv6.trans hmac) hp
    rw [hs.networkId] at hsent
    exact ⟨t, hsend, .solicits _ hmac hp hsent⟩

theorem send_forwards6 {m : Member} (hm : lan.SoundMember sends past g m)
    (hu : lan.Unicast6 g source dest bytes) (hlistening : m.listening = true) (now : ℕ)
    (interfaces : List TetherInterface) (node : Frame → ResultCode) :
    Forwards6 lan g source dest bytes m.adapter
      (lan.act g (.packet now interfaces node bytes) m).adapter := by
  obtain ⟨t, hrun, hforwards⟩ := receive_forwards6 hm.adapter
    (show (lan.environment g now interfaces node).config = some (lan.config g) from rfl) hu
  rw [act, Member.send, if_pos hlistening, hrun]
  exact hforwards

/-! ### Arriving -/

variable {m : Member} {f : Frame} {p : Bytes}

theorem accepts_packetFrame (g h : H) (p : Bytes) :
    lan.accepts h (packetFrame lan g (lan.config h).mac p) = true := by
  simp [accepts, packetFrame]

/-- A solicitation goes to a group. -/
theorem accepts_solicitation (g h : H) (hdest : dest.isInet6 = true) (p : Bytes) :
    lan.accepts h (packetFrame lan g (ipv6ToMulticastAddress dest) p) = true := by
  have hgroup : (ipv6ToMulticastAddress dest).getLsbD 40 = true := by
    rw [ipv6ToMulticastAddress, if_neg (not_not.mpr (length_getAddress_inet6 hdest)),
      BitVec.getLsbD_eq_getMsbD, BigEndian.getMsbD_toNat (w := 64) rfl]
    simp
  rw [accepts, packetFrame, hgroup]
  simp

theorem after_ipv6 (env : FrameReceiver.Environment) (m : Member) (htype : f.etherType = ipv6Packet)
    (hsource : IPPacketUtils.getSourceIP f.frameData = .ok (some source)) :
    m.receiver.after env f =
      (m.receiver.learn .ndpTable isIPv6Multicast env f source).write env f := by
  rw [FrameReceiver.after, Handler.after,
    FrameReceiver.run_onVirtualNetworkFrame env f _ (receiver_connected m), htype,
    if_neg (show ipv6Packet ≠ arpPacket by decide), if_neg (show ipv6Packet ≠ ipv4Packet by decide),
    if_pos rfl, FrameReceiver.handleIP_run, hsource]

/-- Whatever arrives, its sender is known from then on. -/
theorem receive_ipv6_known (env : FrameReceiver.Environment) (htype : f.etherType = ipv6Packet)
    (hsource : IPPacketUtils.getSourceIP f.frameData = .ok (some source))
    (hunicast : isIPv6Multicast source = false) :
    ((m.receive env f).adapter.ndpTable.inetAddressToMacAddress.lookup source).isSome = true := by
  have hlearnt : ((m.adapter.ndpTable.setAddress env.now source f.srcMac).inetAddressToMacAddress
      |>.lookup source).isSome = true := by
    rw [NeighborTable.setAddress_inetAddressToMacAddress, if_pos rfl]
    rfl
  rw [Member.receive, after_ipv6 env m htype hsource, FrameReceiver.write, FrameReceiver.learn,
    hunicast, if_neg Bool.false_ne_true]
  split_ifs <;> exact hlearnt

theorem receive_ipv6_written {env : FrameReceiver.Environment} (hwritable : env.writable = true)
    (htype : f.etherType = ipv6Packet)
    (hsource : IPPacketUtils.getSourceIP f.frameData = .ok (some source)) :
    (m.receive env f).written = m.written ++ [f.frameData] := by
  have hlearn : (m.receiver.learn .ndpTable isIPv6Multicast env f source).written = m.written := by
    unfold FrameReceiver.learn
    split_ifs <;> rfl
  rw [Member.receive, after_ipv6 env m htype hsource, FrameReceiver.write, if_pos hwritable]
  exact congrArg (· ++ [f.frameData]) hlearn

/-! ### The exchange -/

variable [DecidableEq H] {w : H → Member} {written : List Bytes} {reply : Bytes}

/-- The two that talk keep their NDP tables. -/
def KeepsNdp (g h i : H) (c : TableClass) : Prop :=
  (i = g ∨ i = h) ∧ c = .ndpTable

/-- Unless a receive thread ends, the packet arrives after these moves. -/
abbrev AttainsArrival6 (lan : Lan H) (g h : H) (bytes : Bytes) (written : List Bytes) :
    List (Move H) → (H → Member) → Prop :=
  lan.protocol.Attains (lan.Meanwhile (KeepsNdp g h)) Move.Is fun w =>
    (w g).listening = true → (w h).listening = true →
      ∃ rest, (w h).written = written ++ rest ++ [bytes]

/-- After the kernel of `i` has sent the packet, unless its receive thread has ended, the packet
or a solicitation is on its way. -/
theorem step_packet6 (hw : lan.SoundAll w) {i j : H} (hu : lan.Unicast6 i source dest bytes)
    (howner : (lan.config j).Assigns dest) (now : ℕ) (interfaces : List TetherInterface)
    (node : Frame → ResultCode) :
    let m := lan.protocol.step w (.act i (.packet now interfaces node bytes)) i
    m.listening = false ∨ packetFrame lan i (lan.config j).mac bytes ∈ m.adapter.sent ∨
      ((w i).adapter.ndpTable.inetAddressToMacAddress.lookup dest = none ∧
        ∃ p, IPPacketUtils.getSourceIP p = .ok (some source) ∧
          packetFrame lan i (ipv6ToMulticastAddress dest) p ∈ m.adapter.sent) := by
  dsimp only
  obtain ⟨past, hm⟩ := hw i
  rw [Protocol.step_act, Function.update_self]
  by_cases hlistening : (w i).listening = true
  · right
    cases send_forwards6 hm hu hlistening now interfaces node with
    | data mac hbinds hsent =>
      obtain ⟨owner, howns, rfl⟩ := hbinds
      obtain rfl : owner = j := lan.owner_unique owner j _ howns howner
      exact Or.inl (hsent ▸ List.mem_concat_self)
    | solicits p hmac hp hsent =>
      exact Or.inr ⟨hmac, p, getSourceIP_solicitation hp, hsent ▸ List.mem_concat_self⟩
  · left
    have hsame : lan.protocol.act i (.packet now interfaces node bytes) (w i) = w i :=
      if_neg hlistening
    rw [hsame]
    simpa using hlistening

section Stages

variable {now now' t : ℕ} {interfaces interfaces' : List TetherInterface}
  {node node' : Frame → ResultCode} {a b : InetAddress}

theorem attainsArrival6_of_data (hne : g ≠ h) (hw : lan.SoundAll w) (hu : lan.Unicast6 g a b bytes)
    (hdata : packetFrame lan g (lan.config h).mac bytes ∈ (w g).adapter.sent)
    (hwritten : written <+: (w h).written) (moves : List (Move H)) :
    lan.AttainsArrival6 g h bytes written (.deliver ⟨t, true⟩ :: moves) w := by
  obtain ⟨k, hk⟩ := exists_deliver hw hdata hne.symm (accepts_packetFrame g h bytes) ⟨t, true⟩
  refine .move (.deliver h g k ⟨t, true⟩) ⟨h, g, k, rfl⟩ fun es hes =>
    .done fun _ hlistening => ?_
  obtain ⟨rest, hrest⟩ := hwritten.trans (persists hw hes h).stays
  refine ⟨rest, ?_⟩
  rcases hk es hes with hstopped | hreceive
  · exact nomatch hstopped.symm.trans hlistening
  · rw [hreceive, receive_ipv6_written rfl rfl hu.getSourceIP, hrest]
    rfl

/-- Once `g` knows the address, the packet is sent to its owner. -/
theorem attainsArrival6_of_known (hne : g ≠ h) (hw : lan.SoundAll w) (hu : lan.Unicast6 g a b bytes)
    (howner : (lan.config h).Assigns b)
    (hknown : ((w g).adapter.ndpTable.inetAddressToMacAddress.lookup b).isSome = true)
    (hwritten : written <+: (w h).written) :
    lan.AttainsArrival6 g h bytes written
      [.send g (.packet now interfaces node bytes), .deliver ⟨t, true⟩] w := by
  refine .move (.act g (.packet now interfaces node bytes)) rfl fun es hes => ?_
  have hw' := persists_step (e := .act g (.packet now interfaces node bytes)) hw hes hu.honest
  rcases step_packet6 (soundAll_foldl hw hes) hu howner now interfaces node with
    hstopped | hdata | ⟨hnone, -⟩
  · exact .done fun hlistening => nomatch hstopped.symm.trans hlistening
  · exact attainsArrival6_of_data hne (fun i => ⟨_, hw' i⟩) hu hdata
      (hwritten.trans (hw' h).stays) []
  · have hsome := (persists hw hes g).adapter.knownNdp _ ⟨⟨Or.inl rfl, rfl⟩, hknown⟩
    rw [hnone] at hsome
    cases hsome

/-- The packet of `h` makes its address known to `g`. -/
theorem attainsArrival6_of_reply (hne : g ≠ h) (hw : lan.SoundAll w) (hu : lan.Unicast6 g a b bytes)
    (hreply : lan.Unicast6 h b a reply)
    (hsent : packetFrame lan h (lan.config g).mac reply ∈ (w h).adapter.sent)
    (hwritten : written <+: (w h).written) :
    lan.AttainsArrival6 g h bytes written
      [.deliver ⟨t, true⟩, .send g (.packet now interfaces node bytes), .deliver ⟨t, true⟩] w := by
  obtain ⟨k, hk⟩ := exists_deliver hw hsent hne (accepts_packetFrame h g reply) ⟨t, true⟩
  refine .move (.deliver g h k ⟨t, true⟩) ⟨g, h, k, rfl⟩ fun es hes => ?_
  have hw' := persists_step (e := .deliver g h k ⟨t, true⟩) hw hes trivial
  rcases hk es hes with hstopped | hreceive
  · exact .done fun hlistening => nomatch hstopped.symm.trans hlistening
  · refine attainsArrival6_of_known hne (fun i => ⟨_, hw' i⟩) hu hreply.assigns ?_
      (hwritten.trans (hw' h).stays)
    rw [hreceive]
    exact receive_ipv6_known _ rfl hreply.getSourceIP hreply.unicast.1

/-- Once `h` knows the address of `g`, its own packet is sent there. -/
theorem attainsArrival6_of_heard (hne : g ≠ h) (hw : lan.SoundAll w) (hu : lan.Unicast6 g a b bytes)
    (hreply : lan.Unicast6 h b a reply)
    (hknown : ((w h).adapter.ndpTable.inetAddressToMacAddress.lookup a).isSome = true)
    (hwritten : written <+: (w h).written) :
    lan.AttainsArrival6 g h bytes written
      [.send h (.packet now' interfaces' node' reply), .deliver ⟨t, true⟩,
        .send g (.packet now interfaces node bytes), .deliver ⟨t, true⟩] w := by
  refine .move (.act h (.packet now' interfaces' node' reply)) rfl fun es hes => ?_
  have hw' := persists_step (e := .act h (.packet now' interfaces' node' reply)) hw hes
    hreply.honest
  rcases step_packet6 (soundAll_foldl hw hes) hreply hu.assigns now' interfaces' node' with
    hstopped | hdata | ⟨hnone, -⟩
  · exact .done fun _ hlistening => nomatch hstopped.symm.trans hlistening
  · exact attainsArrival6_of_reply hne (fun i => ⟨_, hw' i⟩) hu hreply hdata
      (hwritten.trans (hw' h).stays)
  · have hsome := (persists hw hes h).adapter.knownNdp _ ⟨⟨Or.inr rfl, rfl⟩, hknown⟩
    rw [hnone] at hsome
    cases hsome

/-- The solicitation of `g` makes its address known to `h`. -/
theorem attainsArrival6_of_solicitation (hne : g ≠ h) (hw : lan.SoundAll w)
    (hu : lan.Unicast6 g a b bytes) (hreply : lan.Unicast6 h b a reply)
    (hsource : IPPacketUtils.getSourceIP p = .ok (some a))
    (hsent : packetFrame lan g (ipv6ToMulticastAddress b) p ∈ (w g).adapter.sent)
    (hwritten : written <+: (w h).written) :
    lan.AttainsArrival6 g h bytes written
      [.deliver ⟨t, true⟩, .send h (.packet now' interfaces' node' reply), .deliver ⟨t, true⟩,
        .send g (.packet now interfaces node bytes), .deliver ⟨t, true⟩] w := by
  obtain ⟨k, hk⟩ :=
    exists_deliver hw hsent hne.symm (accepts_solicitation g h hu.inet6.2 p) ⟨t, true⟩
  refine .move (.deliver h g k ⟨t, true⟩) ⟨h, g, k, rfl⟩ fun es hes => ?_
  have hw' := persists_step (e := .deliver h g k ⟨t, true⟩) hw hes trivial
  rcases hk es hes with hstopped | hreceive
  · exact .done fun _ hlistening => nomatch hstopped.symm.trans hlistening
  · refine attainsArrival6_of_heard hne (fun i => ⟨_, hw' i⟩) hu hreply ?_
      (hwritten.trans (hw' h).stays)
    rw [hreceive]
    exact receive_ipv6_known _ rfl hsource hu.unicast.1

theorem unicast6_pairPacket6 (h : Bool) :
    pair6.Unicast6 h (pairAddress h) (pairAddress !h) (pairPacket6 h) where
  honest := honest_pairPacket6 h
  version := by cases h <;> decide
  length := by cases h <;> decide
  getSourceIP := by cases h <;> decide
  getDestIP := by cases h <;> decide
  inet6 := by cases h <;> decide
  unicast := by cases h <;> decide
  solicitation := by cases h <;> decide
  advertisement := by cases h <;> decide
  direct := ⟨⟨.inet6 0xfd000000000000000000000000000000 (by decide), 64, none⟩,
    by cases h <;> decide, rfl⟩

end Stages

end Conversation

end Lan

end XnetZt
