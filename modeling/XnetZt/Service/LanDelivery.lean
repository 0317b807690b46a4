import XnetZt.Service.VirtualLan

/-!
# A packet reaches its neighbour

From every state that the network can get into, a packet for the address of another member
arrives if it is sent and the frames are delivered: at once if the address is known, else after
a request, its answer, and the same packet again. Between these steps the other members may do
anything, and so may the sender, except that it does not forget its neighbours.
-/

namespace XnetZt

open NeighborTable (TableClass)
open TunTapAdapter (rawAt)

namespace Lan

variable {H : Type} {lan : Lan H}

/-! ### Sending -/

section Send

variable {sends : H → Bytes → Prop} {past : Past} {g : H} {s : TunTapAdapter} {env : Environment}
  {bytes : Bytes}

/-- The packets of interest: honest ones that are not for a group. -/
structure Unicast (lan : Lan H) (g : H) (bytes : Bytes) : Prop where
  honest : lan.Honest g bytes
  version : IPv4.version bytes = 4
  unicast : bytes.getD 16 0 &&& 0xf0 ≠ 0xe0
  direct : lan.Direct g (.inet4 (rawAt bytes 16))

theorem Unicast.getSourceIP {p : Bytes} (hu : lan.Unicast g bytes)
    (hsame : NatEngine.SameButTtl bytes p) : ∃ a, IPPacketUtils.getSourceIP p = .ok (some a) := by
  have h20 := hu.honest.header hu.version
  have hlen := hsame.length
  have hv : IPPacketUtils.getIPVersion p = .ok 4 := by
    rw [← TunTapAdapter.getIPVersion_eq_four (show 0 < bytes.length by omega) hu.version]
    exact IPPacketUtils.getIPVersion_congr (by omega) (by omega) hsame.head
  exact ⟨_, IPPacketUtils.addressAt_four hv (by omega)⟩

theorem Unicast.exists_source (hu : lan.Unicast g bytes) :
    ∃ raw, (lan.config g).Assigns (.inet4 raw) := by
  have h20 := hu.honest.header hu.version
  have hv := TunTapAdapter.getIPVersion_eq_four (show 0 < bytes.length by omega) hu.version
  exact ⟨_, hu.honest.source _ (IPPacketUtils.addressAt_four hv (by omega))⟩

theorem receive_forwards (hs : lan.Sound sends past g s) (henv : env.config = some (lan.config g))
    (hsends : sends g bytes) (hu : lan.Unicast g bytes) :
    ∃ t, (TunTapAdapter.receive env bytes).run s = .ok () t ∧ Forwards lan g bytes s t := by
  have hle := hu.honest.length_le
  have h20 := hu.honest.header hu.version
  have hlen : (s.buffer.splice 0 bytes).length = 1500 := by
    rw [Bytes.length_splice (by rw [hs.length_buffer]; omega), hs.length_buffer]
  have hs' : lan.Sound sends past g { s with buffer := s.buffer.splice 0 bytes } :=
    { hs with length_buffer := hlen }
  obtain ⟨t, buffer', ht, hconfig, hb, hsent, harp, hrun⟩ :=
    handleIPv4Packet_run hs' henv hsends hu.honest hu.version hlen
      (TunTapAdapter.copyOf_splice (by rw [hs.length_buffer]; exact hle))
  obtain ⟨raw, hraw⟩ := hu.exists_source
  obtain ⟨localV4, hlocal⟩ := Option.isSome_iff_exists.mp (ht.isSome_localV4 hconfig raw hraw)
  obtain ⟨t', hrun', -, hforwards⟩ := forwardIPv4_unicast ht hconfig hb hlocal hu.unicast
  refine ⟨t', ?_, ?_⟩
  · rw [TunTapAdapter.receive_run env hs.length_buffer (by omega) hle, if_pos hu.version, hrun,
      hlocal]
    exact hrun'
  · cases hforwards hu.direct with
    | data mac p hsame hbinds hsent' => exact .data mac p hsame hbinds (hsent' ▸ hsent ▸ rfl)
    | request source hmac hsource hsent' =>
      exact .request source (harp ▸ hmac) hsource (hsent' ▸ hsent ▸ rfl)

theorem send_forwards {m : Member} (hm : lan.SoundMember sends past g m) (hsends : sends g bytes)
    (hu : lan.Unicast g bytes) (hlistening : m.listening = true) (now : ℕ)
    (interfaces : List TetherInterface) (node : Frame → ResultCode) :
    Forwards lan g bytes m.adapter (lan.act g (.packet now interfaces node bytes) m).adapter := by
  obtain ⟨t, hrun, hforwards⟩ := receive_forwards hm.adapter
    (show (lan.environment g now interfaces node).config = some (lan.config g) from rfl) hsends hu
  rw [act, Member.send, if_pos hlistening, hrun]
  exact hforwards

end Send

/-! ### Arriving -/

section Arrive

variable {g h : H} {m : Member} {env : FrameReceiver.Environment} {a b : BitVec 32} {p : Bytes}

/-- What `h` answers to a request of `g`. -/
def replyFrame (lan : Lan H) (h g : H) (b a : BitVec 32) : Frame :=
  ⟨lan.networkId, (lan.config h).mac, (lan.config g).mac, arpPacket, 0,
    ARPTable.packetOf 2 (lan.config h).mac (lan.config g).mac b a⟩

theorem accepts_requestFrame (g h : H) (a b : BitVec 32) :
    lan.accepts h (requestFrame lan g a b) = true := by
  simp [accepts, requestFrame, broadcastMacAddress]

theorem accepts_replyFrame (g h : H) (a b : BitVec 32) :
    lan.accepts g (replyFrame lan h g b a) = true := by
  simp [accepts, replyFrame]

theorem accepts_dataFrame (g h : H) (p : Bytes) :
    lan.accepts h (dataFrame lan g (lan.config h).mac p) = true := by
  simp [accepts, dataFrame]

/-- A request is answered from the first IPv4 address. -/
theorem receive_requestFrame (henv : env.networkConfig = lan.config h)
    (hlocal : Inbound.Adapter.localV4Address (lan.config h) = some (.inet4 b)) :
    (m.receive env (requestFrame lan g a b)).adapter.sent =
      m.adapter.sent ++ [replyFrame lan h g b a] := by
  have hmac : ArpPacket.senderMac (requestFrame lan g a b).frameData = (lan.config g).mac :=
    ARPTable.senderMac_packetOf 1 a b (lan.mac_lt g) 0
  have hanswered : FrameReceiver.IsAnswered (requestFrame lan g a b).frameData :=
    ⟨ARPTable.getD_packetOf .., by rw [hmac]; exact lan.mac_ne_zero g⟩
  have hsource : (requestFrame lan g a b).frameData.slice 14 4 = (InetAddress.inet4 a).getAddress :=
    (ARPTable.slice_packetOf_sender ..).2
  rw [Member.receive, after_arp rfl (ARPTable.length_packetOf ..).ge, FrameReceiver.answers,
    if_pos hanswered, FrameReceiver.replies, henv, hlocal]
  dsimp only
  rw [FrameReceiver.reply, hmac, hsource, InetAddress.ofNat_toNat_getAddress, henv]
  rfl

theorem receive_replyFrame :
    ((m.receive env (replyFrame lan h g b a)).adapter.arpTable.inetAddressToMacAddress.lookup
      (.inet4 b)).isSome = true := by
  have hmac : ArpPacket.senderMac (replyFrame lan h g b a).frameData = (lan.config h).mac :=
    ARPTable.senderMac_packetOf 2 b a (lan.mac_lt h) _
  have haddress : ArpPacket.senderAddress (replyFrame lan h g b a).frameData = .inet4 b :=
    ARPTable.senderAddress_packetOf 2 b a _ _
  have hlearnt : ((ARPTable.setAddressIfKnown m.adapter.arpTable env.now (lan.config h).mac
      (some (.inet4 b))).inetAddressToMacAddress.lookup (.inet4 b)).isSome = true := by
    rw [ARPTable.setAddressIfKnown, if_pos (lan.mac_ne_zero h),
      NeighborTable.setAddress_inetAddressToMacAddress, if_pos rfl]
    rfl
  rw [Member.receive, after_arp rfl (ARPTable.length_packetOf ..).ge]
  simp only [Member.update, FrameReceiver.learnARP, Function.update_self]
  rw [hmac, haddress]
  exact isSome_setAddressIfKnown hlearnt env.now _ _

theorem receive_dataFrame (hwritable : env.writable = true) {source : InetAddress}
    (hsource : IPPacketUtils.getSourceIP p = .ok (some source)) (mac : Mac) :
    (m.receive env (dataFrame lan g mac p)).written = m.written ++ [p] := by
  have hafter : m.receiver.after env (dataFrame lan g mac p) =
      (m.receiver.learn .arpTable isIPv4Multicast env (dataFrame lan g mac p) source).write env
        (dataFrame lan g mac p) := by
    rw [FrameReceiver.after, Handler.after,
      FrameReceiver.run_onVirtualNetworkFrame env _ _ (receiver_connected m), dataFrame,
      if_neg (show ipv4Packet ≠ arpPacket by decide), if_pos rfl, FrameReceiver.handleIP_run,
      hsource]
  have hlearn : (m.receiver.learn .arpTable isIPv4Multicast env (dataFrame lan g mac p)
      source).written = m.written := by
    unfold FrameReceiver.learn
    split_ifs <;> rfl
  rw [Member.receive, hafter, FrameReceiver.write, if_pos hwritable]
  exact congrArg (· ++ [p]) hlearn

end Arrive

/-! ### The exchange -/

section Exchange

variable {sends : H → Bytes → Prop} {g h : H} {bytes : Bytes}

/-- All that `m` has done until now, with the neighbours in the tables that are kept. -/
def Past.upTo (keeps : TableClass → Prop) (m : Member) : Past where
  outbox := m.adapter.sent
  known c a := keeps c ∧ ((m.tables c).inetAddressToMacAddress.lookup a).isSome = true
  written := m.written

theorem SoundMember.upTo {past : Past} {m : Member} (hm : lan.SoundMember sends past h m)
    (keeps : TableClass → Prop) : lan.SoundMember sends (.upTo keeps m) h m where
  adapter := { hm.adapter with
    outbox := List.prefix_rfl, knownArp := fun _ ha => ha.2, knownNdp := fun _ ha => ha.2 }
  written := hm.written
  stays := List.prefix_rfl

/-- What may happen meanwhile: anything honest, but the tables that are kept are not swept. -/
def Meanwhile (lan : Lan H) (keeps : H → TableClass → Prop) : NetworkEvent H → Prop
  | .act i (.packet _ _ _ bytes) => lan.Honest i bytes
  | .act i (.sweep c _ _) => ¬ keeps i c
  | .deliver _ _ _ _ => True

/-- Only `g` keeps its ARP table. -/
def KeepsArp (g i : H) (c : TableClass) : Prop :=
  i = g ∧ c = .arpTable

/-- The kernel of a member sends a packet, or some frame is delivered. -/
inductive Move (H : Type)
  | send (i : H) (e : Event)
  | deliver (d : Arrival)

def Move.Is : Move H → NetworkEvent H → Prop
  | .send i e, x => x = .act i e
  | .deliver d, x => ∃ i j k, x = .deliver i j k d

/-- `written` and then the packet `bytes` have arrived. -/
def Arrived (bytes : Bytes) (written : List Bytes) (m : Member) : Prop :=
  ∃ p rest, NatEngine.SameButTtl bytes p ∧ m.written = written ++ rest ++ [p]

variable [DecidableEq H]

/-- Every member is sound, whatever it is to remember. -/
def SoundAll (lan : Lan H) (w : H → Member) : Prop :=
  ∀ i, ∃ past, lan.SoundMember (fun _ _ => True) past i (w i)

variable {keeps : H → TableClass → Prop}

theorem persists {w : H → Member} (hw : lan.SoundAll w) {es : List (NetworkEvent H)}
    (hes : ∀ e ∈ es, lan.Meanwhile keeps e) (i : H) :
    lan.SoundMember (fun _ _ => True) (.upTo (keeps i) (w i)) i
      (es.foldl lan.protocol.step w i) := by
  have hrun : Run.Throughout lan.protocol.step
      (fun w' => ∀ i, lan.SoundMember (fun _ _ => True) (.upTo (keeps i) (w i)) i (w' i)) w es := by
    refine throughout_soundMember (fun i => (hw i).choose_spec.upTo (keeps i)) fun e he => ?_
    have hgood := hes e he
    rcases e with ⟨i, _ | _⟩ | _
    · exact ⟨trivial, hgood⟩
    · exact fun a ha => hgood ha.1
    · trivial
  exact hrun.last i

theorem soundAll_foldl {w : H → Member} (hw : lan.SoundAll w) {es : List (NetworkEvent H)}
    (hes : ∀ e ∈ es, lan.Meanwhile keeps e) : lan.SoundAll (es.foldl lan.protocol.step w) :=
  fun i => ⟨_, persists hw hes i⟩

theorem persists_step {w : H → Member} (hw : lan.SoundAll w) {es : List (NetworkEvent H)}
    (hes : ∀ e ∈ es, lan.Meanwhile keeps e) {e : NetworkEvent H} (he : lan.Meanwhile keeps e)
    (i : H) :
    lan.SoundMember (fun _ _ => True) (.upTo (keeps i) (w i)) i
      (lan.protocol.step (es.foldl lan.protocol.step w) e i) := by
  have hall : ∀ x ∈ es ++ [e], lan.Meanwhile keeps x := by
    simpa [or_imp, forall_and] using ⟨hes, he⟩
  simpa using persists hw hall i

/-- A frame that was sent can be delivered whenever the network gets to it, unless the receive
thread has ended by then. -/
theorem exists_deliver {w : H → Member} (hw : lan.SoundAll w) {i j : H} {f : Frame}
    (hf : f ∈ (w j).adapter.sent) (hne : i ≠ j) (haccepts : lan.accepts i f = true)
    (d : Arrival) : ∃ k, ∀ es : List (NetworkEvent H), (∀ e ∈ es, lan.Meanwhile keeps e) →
      (lan.protocol.step (es.foldl lan.protocol.step w) (.deliver i j k d) i).listening = false ∨
      lan.protocol.step (es.foldl lan.protocol.step w) (.deliver i j k d) i =
        (es.foldl lan.protocol.step w i).receive ⟨d.now, lan.config i, d.writable⟩ f := by
  obtain ⟨k, hk⟩ := List.mem_iff_getElem?.mp hf
  refine ⟨k, fun es hes => ?_⟩
  obtain ⟨rest, hrest⟩ := (persists hw hes j).adapter.outbox
  have hk' : (es.foldl lan.protocol.step w j).adapter.sent[k]? = some f := by
    rw [← hrest, Past.upTo, List.getElem?_append_left (List.getElem?_eq_some_iff.mp hk).1]
    exact hk
  rw [Protocol.step_deliver hk' hne haccepts, Function.update_self]
  cases hlistening : (es.foldl lan.protocol.step w i).listening with
  | false =>
    exact Or.inl ((congrArg Member.listening (if_neg (by simp [hlistening]))).trans hlistening)
  | true => exact Or.inr (if_pos hlistening)

/-- After the kernel of `g` has sent the packet, unless its receive thread has ended, the packet
or a request is on its way. -/
theorem step_packet {w : H → Member} (hw : lan.SoundAll w) (hu : lan.Unicast g bytes)
    (howner : (lan.config h).Assigns (.inet4 (rawAt bytes 16))) (now : ℕ)
    (interfaces : List TetherInterface) (node : Frame → ResultCode) :
    let m := lan.protocol.step w (.act g (.packet now interfaces node bytes)) g
    m.listening = false ∨
      (∃ p, NatEngine.SameButTtl bytes p ∧
        dataFrame lan g (lan.config h).mac p ∈ m.adapter.sent) ∨
      ((w g).adapter.arpTable.inetAddressToMacAddress.lookup (.inet4 (rawAt bytes 16)) = none ∧
        ∃ a, requestFrame lan g a (rawAt bytes 16) ∈ m.adapter.sent) := by
  dsimp only
  obtain ⟨past, hm⟩ := hw g
  rw [Protocol.step_act, Function.update_self]
  by_cases hlistening : (w g).listening = true
  · right
    cases send_forwards hm trivial hu hlistening now interfaces node with
    | data mac p hsame hbinds hsent =>
      obtain ⟨owner, howns, rfl⟩ := hbinds
      obtain rfl : owner = h := lan.owner_unique owner h _ howns howner
      exact Or.inl ⟨p, hsame, hsent ▸ List.mem_concat_self⟩
    | request source hmac hsource hsent =>
      exact Or.inr ⟨hmac, source, hsent ▸ List.mem_concat_self⟩
  · left
    have hsame : lan.protocol.act g (.packet now interfaces node bytes) (w g) = w g :=
      if_neg hlistening
    rw [hsame]
    simpa using hlistening

variable {written : List Bytes} {now t : ℕ} {interfaces : List TetherInterface}
  {node : Frame → ResultCode} {w : H → Member} {a : BitVec 32}

/-- Unless a receive thread ends, the packet arrives after these moves. -/
abbrev AttainsArrival (lan : Lan H) (g h : H) (bytes : Bytes) (written : List Bytes) :
    List (Move H) → (H → Member) → Prop :=
  lan.protocol.Attains (lan.Meanwhile (KeepsArp g)) Move.Is
    fun w => (w g).listening = true → (w h).listening = true → Arrived bytes written (w h)

theorem attainsArrival_of_data (hne : g ≠ h) (hw : lan.SoundAll w) (hu : lan.Unicast g bytes)
    {p : Bytes}
    (hsame : NatEngine.SameButTtl bytes p)
    (hp : dataFrame lan g (lan.config h).mac p ∈ (w g).adapter.sent)
    (hwritten : written <+: (w h).written) (moves : List (Move H)) :
    lan.AttainsArrival g h bytes written (.deliver ⟨t, true⟩ :: moves) w := by
  obtain ⟨k, hk⟩ := exists_deliver hw hp hne.symm (accepts_dataFrame g h p) ⟨t, true⟩
  refine .move (.deliver h g k ⟨t, true⟩) ⟨h, g, k, rfl⟩ fun es hes =>
    .done fun _ hlistening => ?_
  obtain ⟨source, hsource⟩ := hu.getSourceIP hsame
  obtain ⟨rest, hrest⟩ := hwritten.trans (persists hw hes h).stays
  refine ⟨p, rest, hsame, ?_⟩
  rcases hk es hes with hstopped | hreceive
  · exact nomatch hstopped.symm.trans hlistening
  · rw [hreceive, receive_dataFrame rfl hsource, hrest]

/-- Once the address is known, the packet is sent to its owner. -/
theorem attainsArrival_of_known (hne : g ≠ h) (hw : lan.SoundAll w) (hu : lan.Unicast g bytes)
    (howner : (lan.config h).Assigns (.inet4 (rawAt bytes 16)))
    (hknown : ((w g).adapter.arpTable.inetAddressToMacAddress.lookup
      (.inet4 (rawAt bytes 16))).isSome = true)
    (hwritten : written <+: (w h).written) :
    lan.AttainsArrival g h bytes written
      [.send g (.packet now interfaces node bytes), .deliver ⟨t, true⟩] w := by
  refine .move (.act g (.packet now interfaces node bytes)) rfl fun es hes => ?_
  have hw' := persists_step (e := .act g (.packet now interfaces node bytes)) hw hes hu.honest
  rcases step_packet (soundAll_foldl hw hes) hu howner now interfaces node with
    hstopped | ⟨p, hsame, hp⟩ | ⟨hnone, -⟩
  · exact .done fun hlistening => nomatch hstopped.symm.trans hlistening
  · exact attainsArrival_of_data hne (fun i => ⟨_, hw' i⟩) hu hsame hp
      (hwritten.trans (hw' h).stays) []
  · have hsome := (persists hw hes g).adapter.knownArp _ ⟨⟨rfl, rfl⟩, hknown⟩
    rw [hnone] at hsome
    exact nomatch hsome

theorem attainsArrival_of_reply (hne : g ≠ h) (hw : lan.SoundAll w) (hu : lan.Unicast g bytes)
    (howner : (lan.config h).Assigns (.inet4 (rawAt bytes 16)))
    (hreply : replyFrame lan h g (rawAt bytes 16) a ∈ (w h).adapter.sent)
    (hwritten : written <+: (w h).written) :
    lan.AttainsArrival g h bytes written
      [.deliver ⟨t, true⟩, .send g (.packet now interfaces node bytes), .deliver ⟨t, true⟩] w := by
  obtain ⟨k, hk⟩ := exists_deliver hw hreply hne (accepts_replyFrame g h a _) ⟨t, true⟩
  refine .move (.deliver g h k ⟨t, true⟩) ⟨g, h, k, rfl⟩ fun es hes => ?_
  have hw' := persists_step (e := .deliver g h k ⟨t, true⟩) hw hes trivial
  rcases hk es hes with hstopped | hreceive
  · exact .done fun hlistening => nomatch hstopped.symm.trans hlistening
  · refine attainsArrival_of_known hne (fun i => ⟨_, hw' i⟩) hu howner ?_
      (hwritten.trans (hw' h).stays)
    rw [hreceive]
    exact receive_replyFrame

theorem attainsArrival_of_request (hne : g ≠ h) (hw : lan.SoundAll w) (hu : lan.Unicast g bytes)
    (hlocal : Inbound.Adapter.localV4Address (lan.config h) = some (.inet4 (rawAt bytes 16)))
    (howner : (lan.config h).Assigns (.inet4 (rawAt bytes 16)))
    (hrequest : requestFrame lan g a (rawAt bytes 16) ∈ (w g).adapter.sent)
    (hwritten : written <+: (w h).written) :
    lan.AttainsArrival g h bytes written
      [.deliver ⟨t, true⟩, .deliver ⟨t, true⟩, .send g (.packet now interfaces node bytes),
        .deliver ⟨t, true⟩] w := by
  obtain ⟨k, hk⟩ := exists_deliver hw hrequest hne.symm (accepts_requestFrame g h a _) ⟨t, true⟩
  refine .move (.deliver h g k ⟨t, true⟩) ⟨h, g, k, rfl⟩ fun es hes => ?_
  have hw' := persists_step (e := .deliver h g k ⟨t, true⟩) hw hes trivial
  rcases hk es hes with hstopped | hreceive
  · exact .done fun _ hlistening => nomatch hstopped.symm.trans hlistening
  · refine attainsArrival_of_reply (a := a) hne (fun i => ⟨_, hw' i⟩) hu howner ?_
      (hwritten.trans (hw' h).stays)
    rw [hreceive, receive_requestFrame rfl hlocal]
    exact List.mem_concat_self

/-- From every state of every run of honest kernels, sending a packet at most twice and
delivering at most three frames, in the order send, deliver, deliver, send, deliver, brings it to
the other member whose first IPv4 address it is for, whatever happens in between, unless a
receive thread ends. The sender has a route without a gateway to that address. -/
theorem attainsArrival (natEngine : H → Option NatEngine) {events : List (NetworkEvent H)}
    (hhonest : lan.HonestRun events) (hne : g ≠ h) (hu : lan.Unicast g bytes)
    (hlocal : Inbound.Adapter.localV4Address (lan.config h) = some (.inet4 (rawAt bytes 16)))
    (now t : ℕ) (interfaces : List TetherInterface) (node : Frame → ResultCode) :
    let send : Move H := .send g (.packet now interfaces node bytes)
    let deliver : Move H := .deliver ⟨t, true⟩
    lan.AttainsArrival g h bytes
      (events.foldl lan.protocol.step (lan.start natEngine) h).written
      [send, deliver, deliver, send, deliver]
      (events.foldl lan.protocol.step (lan.start natEngine)) := by
  have hw : lan.SoundAll (events.foldl lan.protocol.step (lan.start natEngine)) := fun i =>
    ⟨.none, (throughout_soundMember_start natEngine hhonest fun _ _ _ => trivial).last i⟩
  have howner : (lan.config h).Assigns (.inet4 (rawAt bytes 16)) := by
    obtain ⟨x, hx, hxa⟩ := List.mem_map.mp (List.mem_of_find?_eq_some hlocal)
    exact ⟨x, hx, hxa⟩
  refine .move (.act g (.packet now interfaces node bytes)) rfl fun es hes => ?_
  have hw' := persists_step (e := .act g (.packet now interfaces node bytes)) hw hes hu.honest
  rcases step_packet (soundAll_foldl hw hes) hu howner now interfaces node with
    hstopped | ⟨p, hsame, hp⟩ | ⟨-, a, hrequest⟩
  · exact .done fun hlistening => nomatch hstopped.symm.trans hlistening
  · exact attainsArrival_of_data hne (fun i => ⟨_, hw' i⟩) hu hsame hp (hw' h).stays _
  · exact attainsArrival_of_request hne (fun i => ⟨_, hw' i⟩) hu hlocal howner hrequest
      (hw' h).stays

theorem unicast_pairPacket : pair.Unicast false pairPacket where
  honest := honest_pairPacket
  version := by decide
  unicast := by decide
  direct := ⟨⟨.inet4 0x0a000000, 24, none⟩, by decide, rfl⟩

theorem attainsArrival_pair :
    let send : Move Bool := .send false (.packet 4 [] (fun _ => .resultOk) pairPacket)
    let deliver : Move Bool := .deliver ⟨5, true⟩
    pair.HonestRun pairRun ∧ pair.AttainsArrival false true pairPacket
      (pairRun.foldl pair.protocol.step (pair.start fun _ => none) true).written
      [send, deliver, deliver, send, deliver]
      (pairRun.foldl pair.protocol.step (pair.start fun _ => none)) :=
  ⟨honestRun_pairRun, attainsArrival _ honestRun_pairRun (by decide) unicast_pairPacket (by decide)
    4 5 [] fun _ => .resultOk⟩

end Exchange

end Lan

end XnetZt
