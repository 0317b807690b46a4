import XnetZt.Lib.Handler
import XnetZt.Service.ArpExchange
import XnetZt.Service.InboundFrames

/-!
# Frames from the network

`onVirtualNetworkFrame` for any frame at all, in one piece: the tables are there and no
other thread interferes. The branches for IPv4 and IPv6 run under a `catch`, the branch for
ARP does not. A frame that arrives well formed is handled as the statements of the ZeroTier
thread handle it.
-/

namespace XnetZt

open NeighborTable (TableClass)

/-- The fields of the adapter that `onVirtualNetworkFrame` uses; a field that is not `null`
is `true`. -/
structure FrameReceiver where
  networkId : BitVec 64
  vpnSocket : Bool
  hasIn : Bool
  hasOut : Bool
  /-- `arpTable` and `ndpTable` -/
  tables : TableClass → NeighborTable
  subscriptions : List Mac
  /-- What was written to the tunnel. -/
  written : List Bytes
  sent : List Frame

abbrev ReceiverM := EStateM JavaException FrameReceiver

namespace FrameReceiver

/-- The clock, the config of the node for the network of a frame, and whether the tunnel can
be written to. -/
structure Environment where
  now : ℕ
  networkConfig : VirtualNetworkConfig
  writable : Bool

/-- An ARP request is answered if the phone has an IPv4 address. -/
def replyARP (env : Environment) (f : Frame) (destMac : Mac) (destAddress : InetAddress) :
    ReceiverM Unit :=
  match Inbound.Adapter.localV4Address env.networkConfig with
  | none => return
  | some localV4Address => do
    let mac := env.networkConfig.mac
    let packetData ← ofExcept (ARPTable.getReplyPacket mac localV4Address destMac destAddress)
    let frame : Frame :=
      { networkId := f.networkId
        srcMac := mac
        destMac := f.srcMac
        etherType := arpPacket
        frameData := packetData }
    modify fun s => { s with sent := s.sent ++ [frame] }

def handleARP (env : Environment) (f : Frame) : ReceiverM Unit := do
  let s ← get
  let (arpTable, arpReply) ←
    ofExcept (ARPTable.processARPPacket (s.tables .arpTable) env.now f.frameData)
  set { s with tables := Function.update s.tables .arpTable arpTable }
  match arpReply with
  | some ⟨destMac, some destAddress⟩ => if destMac ≠ 0 then replyARP env f destMac destAddress
  | _ => return

/-- The sender of a packet is entered in a table, or its group subscribed to. -/
def learn (c : TableClass) (isMulticast : InetAddress → Bool) (env : Environment) (f : Frame)
    (sourceIP : InetAddress) (s : FrameReceiver) : FrameReceiver :=
  if isMulticast sourceIP then
    { s with subscriptions := s.subscriptions ++ [multicastAddressToMAC sourceIP] }
  else
    { s with tables :=
        Function.update s.tables c ((s.tables c).setAddress env.now sourceIP f.srcMac) }

/-- `out.write`; a write that fails is caught right away, as it is the last statement. -/
def write (env : Environment) (f : Frame) (s : FrameReceiver) : FrameReceiver :=
  if env.writable then { s with written := s.written ++ [f.frameData] } else s

/-- The branches for IPv4 and IPv6 differ in the table and the test for multicast. -/
def handleIP (c : TableClass) (isMulticast : InetAddress → Bool) (env : Environment)
    (f : Frame) : ReceiverM Unit := do
  try
    match ← ofExcept (IPPacketUtils.getSourceIP f.frameData) with
    | none => pure ()
    | some sourceIP => modify (learn c isMulticast env f sourceIP)
    modify (write env f)
  catch _ => pure ()

/-- Frames of another type are only logged. -/
def onVirtualNetworkFrame (env : Environment) (f : Frame) : ReceiverM Unit := do
  let s ← get
  if !s.vpnSocket then return
  else if !s.hasIn || !s.hasOut then return
  else if f.etherType = arpPacket then handleARP env f
  else if f.etherType = ipv4Packet then handleIP .arpTable isIPv4Multicast env f
  else if f.etherType = ipv6Packet then handleIP .ndpTable isIPv6Multicast env f

/-! ### What the branches do -/

/-- The socket and the streams are there. -/
structure Connected (s : FrameReceiver) : Prop where
  vpnSocket : s.vpnSocket = true
  hasIn : s.hasIn = true
  hasOut : s.hasOut = true

/-- An ARP packet that `processARPPacket` takes for a request, with a MAC to answer to. -/
def IsAnswered (p : Bytes) : Prop := p.getD 7 0 = ARPTable.request ∧ ArpPacket.senderMac p ≠ 0

instance (p : Bytes) : Decidable (IsAnswered p) := inferInstanceAs (Decidable (_ ∧ _))

section Branches

variable (env : Environment) (f : Frame) (s : FrameReceiver)

/-- The answer from the address `localV4`. -/
def reply (localV4 : BitVec 32) : Frame where
  networkId := f.networkId
  srcMac := env.networkConfig.mac
  destMac := f.srcMac
  etherType := arpPacket
  frameData := ARPTable.packetOf 2 env.networkConfig.mac (ArpPacket.senderMac f.frameData) localV4
    (BitVec.ofNat 32 (BigEndian.toNat (f.frameData.slice 14 4)))

/-- The answer of a phone with this config, if it has an IPv4 address. -/
def replies : List Frame :=
  match Inbound.Adapter.localV4Address env.networkConfig with
  | some (.inet4 localV4) => [reply env f localV4]
  | _ => []

/-- What is sent on an ARP packet that is not too short. -/
def answers : List Frame := if IsAnswered f.frameData then replies env f else []

theorem run_onVirtualNetworkFrame (h : s.Connected) :
    (onVirtualNetworkFrame env f).run s =
      if f.etherType = arpPacket then (handleARP env f).run s
      else if f.etherType = ipv4Packet then (handleIP .arpTable isIPv4Multicast env f).run s
      else if f.etherType = ipv6Packet then (handleIP .ndpTable isIPv6Multicast env f).run s
      else .ok () s := by
  unfold onVirtualNetworkFrame
  rw [EStateM.run_bind, EStateM.run_get]
  simp only [h.vpnSocket, h.hasIn, h.hasOut, Bool.not_true, Bool.or_self, Bool.false_eq_true,
    if_false]
  split_ifs <;> rfl

theorem run_onVirtualNetworkFrame_of_not (h : ¬ s.Connected) :
    (onVirtualNetworkFrame env f).run s = .ok () s := by
  unfold onVirtualNetworkFrame
  rw [Handler.run_get_bind]
  split_ifs with hsocket hstreams
  · rfl
  · rfl
  all_goals
    simp only [Bool.or_eq_true, Bool.not_eq_true', not_or, Bool.not_eq_false] at hsocket hstreams
    exact absurd ⟨hsocket, hstreams.1, hstreams.2⟩ h

/-- Every exception is caught. -/
theorem handleIP_run (c : TableClass) (isMulticast : InetAddress → Bool) :
    (handleIP c isMulticast env f).run s = .ok () (
      match IPPacketUtils.getSourceIP f.frameData with
      | .error _ => s
      | .ok none => s.write env f
      | .ok (some sourceIP) => (s.learn c isMulticast env f sourceIP).write env f) := by
  unfold handleIP
  rcases IPPacketUtils.getSourceIP f.frameData with e | _ | sourceIP <;> rfl

theorem handleARP_run_short (h : f.frameData.length < 28) :
    (handleARP env f).run s = .error .arrayIndexOutOfBounds s := by
  unfold handleARP
  rw [Handler.run_get_bind]
  rw [ARPTable.processARPPacket_eq_error _ _ h]
  rfl

theorem isInet4_of_localV4Address {config : VirtualNetworkConfig} {a : InetAddress}
    (h : Inbound.Adapter.localV4Address config = some a) : ∃ localV4, a = .inet4 localV4 := by
  have hv4 := List.find?_some h
  cases a with
  | inet4 localV4 => exact ⟨localV4, rfl⟩
  | inet6 _ => simp [InetAddress.isInet4] at hv4

open ArpPacket in
theorem replyARP_run :
    (replyARP env f (senderMac f.frameData) (senderAddress f.frameData)).run s =
      .ok () { s with sent := s.sent ++ replies env f } := by
  unfold replyARP replies
  cases hlocal : Inbound.Adapter.localV4Address env.networkConfig with
  | none => simp
  | some a =>
    obtain ⟨localV4, rfl⟩ := isInet4_of_localV4Address hlocal
    dsimp only
    rw [senderAddress, ARPTable.getReplyPacket, ARPTable.getARPPacket_eq]
    rfl

open ArpPacket in
/-- Both ends that an ARP packet names are entered. -/
def learnARP : FrameReceiver :=
  let p := f.frameData
  let arpTable := ARPTable.setAddressIfKnown (s.tables .arpTable) env.now (senderMac p)
    (some (senderAddress p))
  let arpTable := ARPTable.setAddressIfKnown arpTable env.now (targetMac p)
    (some (targetAddress p))
  { s with tables := Function.update s.tables .arpTable arpTable }

theorem handleARP_run (h : 28 ≤ f.frameData.length) :
    (handleARP env f).run s =
      .ok () { s.learnARP env f with sent := s.sent ++ answers env f } := by
  unfold handleARP
  rw [Handler.run_get_bind]
  rw [ARPTable.processARPPacket_eq_ok _ _ h]
  by_cases hrequest : f.frameData.getD 7 0 = ARPTable.request
  · rw [if_pos hrequest]
    by_cases hmac : ArpPacket.senderMac f.frameData = 0
    · rw [answers, if_neg fun h => h.2 hmac, List.append_nil]
      simp [hmac, learnARP, ofExcept]
    · rw [answers, if_pos ⟨hrequest, hmac⟩]
      refine Eq.trans ?_ (replyARP_run env f (s.learnARP env f))
      exact congrArg (EStateM.run · (s.learnARP env f)) (if_pos hmac)
  · rw [if_neg hrequest, answers, if_neg fun h => hrequest h.1, List.append_nil]
    rfl

end Branches

/-! ### Malformed frames -/

/-- The state in which a handler leaves the receiver, also by an exception. -/
def after (env : Environment) (f : Frame) (s : FrameReceiver) : FrameReceiver :=
  Handler.after (onVirtualNetworkFrame env f) s

/-- A packet that is too short to be an ARP packet is not learnt from and not answered. -/
def IgnoresShortARP (env : Environment) (f : Frame) (s : FrameReceiver) : Prop :=
  f.etherType = arpPacket → f.frameData.length < 28 →
    (s.after env f).tables .arpTable = s.tables .arpTable ∧ (s.after env f).sent = s.sent

structure Harmless (env : Environment) (f : Frame) (s : FrameReceiver) : Prop where
  returns : ∃ s', (onVirtualNetworkFrame env f).run s = .ok () s'
  ignores : s.IgnoresShortARP env f

section Malformed

variable (env : Environment) (f : Frame) (s : FrameReceiver)

theorem ignoresShortARP : s.IgnoresShortARP env f := by
  intro harp hshort
  have hafter : s.after env f = s := by
    by_cases hs : s.Connected
    · rw [after, Handler.after, run_onVirtualNetworkFrame env f s hs, if_pos harp,
        handleARP_run_short env f s hshort]
    · rw [after, Handler.after, run_onVirtualNetworkFrame_of_not env f s hs]
  rw [hafter]
  exact ⟨rfl, rfl⟩

theorem returns_iff :
    (∃ s', (onVirtualNetworkFrame env f).run s = .ok () s') ↔
      (s.Connected → f.etherType = arpPacket → 28 ≤ f.frameData.length) := by
  by_cases h : s.Connected
  · rw [run_onVirtualNetworkFrame env f s h]
    split_ifs with harp h4 h6
    · by_cases hlen : 28 ≤ f.frameData.length
      · exact iff_of_true ⟨_, handleARP_run env f s hlen⟩ (fun _ _ => hlen)
      · rw [handleARP_run_short env f s (by omega)]
        simp [h, harp, hlen]
    · exact iff_of_true ⟨_, handleIP_run env f s _ _⟩ (fun _ h => absurd h harp)
    · exact iff_of_true ⟨_, handleIP_run env f s _ _⟩ (fun _ h => absurd h harp)
    · exact iff_of_true ⟨s, rfl⟩ (fun _ h => absurd h harp)
  · rw [run_onVirtualNetworkFrame_of_not env f s h]
    exact iff_of_true ⟨s, rfl⟩ (fun hs => absurd hs h)

/-- Of all frames only an ARP packet that is too short makes the handler throw, and even
then it has no effect. -/
theorem harmless_iff :
    (s.Harmless env f ↔
        (s.Connected → f.etherType = arpPacket → 28 ≤ f.frameData.length)) ∧
      s.IgnoresShortARP env f := by
  refine ⟨?_, ignoresShortARP env f s⟩
  rw [← returns_iff env f s]
  exact ⟨fun hs => hs.returns, fun hs => ⟨hs, ignoresShortARP env f s⟩⟩

end Malformed

/-- A receiver that runs, with empty tables. -/
def running : FrameReceiver where
  networkId := 1
  vpnSocket := true
  hasIn := true
  hasOut := true
  tables := fun _ => .empty
  subscriptions := []
  written := []
  sent := []

/-- The phone has the address `10.147.17.5` and the MAC `0x55`. -/
def home : Environment where
  now := 0
  networkConfig := ⟨1, 0x55, [⟨.inet4 0x0a931105, 24⟩], []⟩
  writable := true

/-- An ARP frame of `0x22` with the given payload. -/
def arpFrame (p : Bytes) : Frame := ⟨1, 0x22, 0xffffffffffff, arpPacket, 0, p⟩

/-- An ARP frame without payload. -/
theorem not_harmless_empty : running.Connected ∧ ¬ running.Harmless home (arpFrame []) := by
  refine ⟨⟨rfl, rfl, rfl⟩, fun h => ?_⟩
  obtain ⟨s', hs'⟩ := h.returns
  have hthrows : (onVirtualNetworkFrame home (arpFrame [])).run running =
      .error .arrayIndexOutOfBounds running := rfl
  rw [hthrows] at hs'
  exact nomatch hs'

/-! ### Answers -/

/-- An answer in the name of `localV4` and `mac` to the sender of the ARP packet `p`. -/
structure IsReply (p : Bytes) (mac : Mac) (localV4 : BitVec 32) (answer : Frame) : Prop where
  etherType : answer.etherType = arpPacket
  opcode : ArpPacket.opcode answer.frameData = 2
  senderMac : answer.frameData.slice 8 6 = (ARPTable.longToBytes mac).slice 2 6
  senderAddress : ArpPacket.senderAddress answer.frameData = .inet4 localV4
  targetMac : ArpPacket.targetMac answer.frameData = ArpPacket.senderMac p
  targetAddress : ArpPacket.targetAddress answer.frameData = ArpPacket.senderAddress p

/-- A request for the address of the phone, by a sender that names its MAC. -/
structure AsksFor (p : Bytes) (localV4 : BitVec 32) : Prop where
  opcode : ArpPacket.opcode p = 1
  senderMac : ArpPacket.senderMac p ≠ 0
  target : ArpPacket.targetAddress p = .inet4 localV4

/-- A frame is answered to its source exactly if it asks for the address of the phone. -/
structure AnswersForOwn (env : Environment) (f : Frame) (localV4 : BitVec 32)
    (s : FrameReceiver) : Prop where
  decision : (∃ answer, (s.after env f).sent = s.sent ++ [answer]) ↔ AsksFor f.frameData localV4
  content : ∀ answer, (s.after env f).sent = s.sent ++ [answer] →
    IsReply f.frameData env.networkConfig.mac localV4 answer ∧
      answer.srcMac = env.networkConfig.mac ∧ answer.destMac = f.srcMac

section Answers

variable {env : Environment} {f : Frame} {localV4 : BitVec 32} {s : FrameReceiver}

theorem isReply_reply (env : Environment) (f : Frame) (localV4 : BitVec 32) :
    IsReply f.frameData env.networkConfig.mac localV4 (reply env f localV4) where
  etherType := rfl
  opcode := ARPTable.opcode_packetOf ..
  senderMac := (ARPTable.slice_packetOf_sender ..).1
  senderAddress := ARPTable.senderAddress_packetOf ..
  targetMac := ARPTable.targetMac_packetOf _ _ _ _ (ArpPacket.toNat_senderMac_lt _)
  targetAddress := ARPTable.targetAddress_packetOf ..

theorem sent_after (hs : s.Connected) (harp : f.etherType = arpPacket)
    (hlen : 28 ≤ f.frameData.length)
    (hlocal : Inbound.Adapter.localV4Address env.networkConfig = some (.inet4 localV4)) :
    (s.after env f).sent =
      s.sent ++ if IsAnswered f.frameData then [reply env f localV4] else [] := by
  rw [after, Handler.after, run_onVirtualNetworkFrame env f s hs, if_pos harp,
    handleARP_run env f s hlen, answers, replies, hlocal]

theorem asksFor_iff {p : Bytes} : AsksFor p localV4 ↔
    IsAnswered p ∧ p.getD 6 0 = 0 ∧ ArpPacket.targetAddress p = .inet4 localV4 := by
  constructor
  · rintro ⟨hopcode, hmac, htarget⟩
    obtain ⟨hhigh, hlow⟩ := (ArpPacket.opcode_eq_one_iff p).mp hopcode
    exact ⟨⟨hlow, hmac⟩, hhigh, htarget⟩
  · rintro ⟨⟨hlow, hmac⟩, hhigh, htarget⟩
    exact ⟨(ArpPacket.opcode_eq_one_iff p).mpr ⟨hhigh, hlow⟩, hmac, htarget⟩

/-- The code asks only for the low byte of the opcode, and never for the target. -/
theorem answersForOwn_iff (hs : s.Connected) (harp : f.etherType = arpPacket)
    (hlen : 28 ≤ f.frameData.length)
    (hlocal : Inbound.Adapter.localV4Address env.networkConfig = some (.inet4 localV4)) :
    s.AnswersForOwn env f localV4 ↔
      (IsAnswered f.frameData →
        f.frameData.getD 6 0 = 0 ∧ ArpPacket.targetAddress f.frameData = .inet4 localV4) := by
  have hsent := sent_after hs harp hlen hlocal
  have hone : ∀ answer, (s.after env f).sent = s.sent ++ [answer] ↔
      IsAnswered f.frameData ∧ reply env f localV4 = answer := by
    intro answer
    rw [hsent, List.append_cancel_left_eq]
    split_ifs with h <;> simp [h]
  have hdecision : (∃ answer, (s.after env f).sent = s.sent ++ [answer]) ↔
      IsAnswered f.frameData := by
    simp [hone]
  constructor
  · intro h hanswered
    exact (asksFor_iff.mp (h.decision.mp (hdecision.mpr hanswered))).2
  · intro h
    refine ⟨?_, fun answer hanswer => ?_⟩
    · rw [hdecision, asksFor_iff]
      exact ⟨fun ha => ⟨ha, h ha⟩, fun ha => ha.1⟩
    · obtain ⟨-, rfl⟩ := (hone answer).mp hanswer
      exact ⟨isReply_reply env f localV4, rfl, rfl⟩

end Answers

/-- `10.147.17.2` asks for the address in the last four bytes. -/
def requestFor (a b c d : Byte) : Frame :=
  arpFrame [0, 1, 8, 0, 6, 4, 0, 1, 0, 0, 0, 0, 0, 0x22, 10, 147, 17, 2,
    0, 0, 0, 0, 0, 0, a, b, c, d]

theorem answersForOwn_home : running.AnswersForOwn home (requestFor 10 147 17 5) 0x0a931105 :=
  (answersForOwn_iff ⟨rfl, rfl, rfl⟩ rfl (by decide) rfl).mpr fun _ => ⟨rfl, rfl⟩

/-- A request for the address of a third node is answered as well. -/
theorem not_answersForOwn_third :
    ¬ running.AnswersForOwn home (requestFor 10 147 17 9) 0x0a931105 := by
  intro h
  have hsent : (running.after home (requestFor 10 147 17 9)).sent =
      [reply home (requestFor 10 147 17 9) 0x0a931105] := rfl
  have hasks := h.decision.mp ⟨_, hsent⟩
  exact absurd hasks.target (by decide)

/-! ### The statements of the ZeroTier thread -/

/-- The adapter of the threads has the tables of the receiver, and has sent and subscribed
to the same. -/
structure Matches (r : FrameReceiver) (s : Inbound.Adapter) : Prop where
  tables : ∀ c, s.tables c = some (r.tables c)
  subscriptions : s.subscriptions = r.subscriptions
  sent : s.sent = r.sent

section Threads

open Inbound Inbound.Adapter

variable {r : FrameReceiver} {s : Inbound.Adapter} (env : Environment) {f : InboundFrame}

/-- The clock and the config, as the threads see them. -/
def Environment.toFrameEnvironment : FrameEnvironment := ⟨env.now, some env.networkConfig⟩

theorem Matches.finish (h : r.Matches s) (f : InboundFrame) (result : Result) :
    r.Matches (s.finish f result) :=
  ⟨h.tables, h.subscriptions, h.sent⟩

theorem Matches.update (h : r.Matches s) (c : TableClass) (t : NeighborTable)
    (next : ZeroTierThread) :
    Matches { r with tables := Function.update r.tables c t }
      { s with tables := Function.update s.tables c (some t), zeroTierThread := next } := by
  refine ⟨fun c' => ?_, h.subscriptions, h.sent⟩
  by_cases hc : c' = c
  · subst hc
    simp
  · simp [hc, h.tables]

theorem Matches.write (h : r.Matches s) (f : Frame) : (r.write env f).Matches s := by
  unfold FrameReceiver.write
  split_ifs
  · exact ⟨h.tables, h.subscriptions, h.sent⟩
  · exact h

/-- The first statement of the branches for IPv4 and IPv6. -/
theorem Matches.handleIP (h : r.Matches s) (c : TableClass) (isMulticast : InetAddress → Bool)
    {sourceIP : InetAddress}
    (hsource : IPPacketUtils.getSourceIP f.frameData = .ok (some sourceIP)) :
    (s.handleIP c isMulticast env.toFrameEnvironment f).zeroTierThread = .write f ∧
      (r.learn c isMulticast env f.toFrame sourceIP).Matches
        (s.handleIP c isMulticast env.toFrameEnvironment f) := by
  unfold Inbound.Adapter.handleIP learn
  rw [hsource, h.tables]
  dsimp only
  split_ifs
  · exact ⟨rfl, h.tables, congrArg (· ++ _) h.subscriptions, h.sent⟩
  · exact ⟨rfl, h.update c _ _⟩

/-- The first statement of the branch for ARP. -/
theorem Matches.handleARP (h : r.Matches s) (hlen : 28 ≤ f.frameData.length) :
    (r.learnARP env f.toFrame).Matches (s.handleARP env.toFrameEnvironment f) ∧
      (s.handleARP env.toFrameEnvironment f).zeroTierThread =
        if IsAnswered f.frameData then
          .reply f (ArpPacket.senderMac f.frameData) (ArpPacket.senderAddress f.frameData)
        else .idle := by
  unfold Inbound.Adapter.handleARP
  rw [h.tables]
  dsimp only
  rw [ARPTable.processARPPacket_eq_ok _ _ hlen]
  by_cases hrequest : f.frameData.getD 7 0 = ARPTable.request
  · rw [if_pos hrequest]
    dsimp only
    by_cases hmac : ArpPacket.senderMac f.frameData = 0
    · rw [if_neg (not_not.mpr hmac), if_neg fun h => h.2 hmac]
      exact ⟨(h.update .arpTable _ _).finish f _, rfl⟩
    · rw [if_pos hmac, if_pos ⟨hrequest, hmac⟩]
      exact ⟨h.update .arpTable _ _, rfl⟩
  · rw [if_neg hrequest, if_neg fun h => hrequest h.1]
    exact ⟨(h.update .arpTable _ s.zeroTierThread).finish f .processed, rfl⟩

/-- The second one. -/
theorem Matches.replyARP (h : r.Matches s) :
    let s' := s.replyARP env.toFrameEnvironment f (ArpPacket.senderMac f.frameData)
      (ArpPacket.senderAddress f.frameData)
    s'.zeroTierThread = .idle ∧
      Matches { r with sent := r.sent ++ replies env f.toFrame } s' := by
  unfold Inbound.Adapter.replyARP replies Environment.toFrameEnvironment
  dsimp only
  cases hlocal : localV4Address env.networkConfig with
  | none => exact ⟨rfl, h.tables, h.subscriptions, h.sent.trans (List.append_nil _).symm⟩
  | some a =>
    obtain ⟨localV4, rfl⟩ := isInet4_of_localV4Address hlocal
    rw [h.tables]
    dsimp only
    rw [ArpPacket.senderAddress, ARPTable.getReplyPacket, ARPTable.getARPPacket_eq]
    exact ⟨rfl, h.tables, h.subscriptions, congrArg (· ++ _) h.sent⟩

/-- The branches for IPv4 and IPv6 up to their end. -/
theorem Matches.handleIP_write (h : r.Matches s) (c : TableClass)
    (isMulticast : InetAddress → Bool) (hf : f.etherType ≠ arpPacket) :
    let s' := (s.handleIP c isMulticast env.toFrameEnvironment f).onVirtualNetworkFrame
      env.toFrameEnvironment
    s'.zeroTierThread = .idle ∧
      ∃ r', (FrameReceiver.handleIP c isMulticast env f.toFrame).run r = .ok () r' ∧
        r'.Matches s' := by
  obtain ⟨sourceIP, hsource⟩ := exists_sourceIP hf
  obtain ⟨hwrite, hlearn⟩ := h.handleIP env c isMulticast hsource
  rw [Inbound.Adapter.onVirtualNetworkFrame, hwrite, handleIP_run, hsource]
  exact ⟨rfl, _, rfl, (hlearn.write env _).finish f _⟩

/-- The branch for ARP up to its end. -/
theorem Matches.handleARP_reply (h : r.Matches s) (hlen : 28 ≤ f.frameData.length) :
    let s' := (s.handleARP env.toFrameEnvironment f).onVirtualNetworkFrame env.toFrameEnvironment
    s'.zeroTierThread = .idle ∧
      ∃ r', (FrameReceiver.handleARP env f.toFrame).run r = .ok () r' ∧ r'.Matches s' := by
  obtain ⟨hlearn, hnext⟩ := h.handleARP env hlen
  rw [handleARP_run env f.toFrame r hlen, answers]
  by_cases hanswered : IsAnswered f.frameData
  · rw [if_pos hanswered] at hnext ⊢
    rw [Inbound.Adapter.onVirtualNetworkFrame, hnext]
    exact ⟨(hlearn.replyARP env).1, _, rfl, (hlearn.replyARP env).2⟩
  · rw [if_neg hanswered] at hnext ⊢
    rw [Inbound.Adapter.onVirtualNetworkFrame, hnext]
    refine ⟨hnext, _, rfl, hlearn.tables, hlearn.subscriptions, ?_⟩
    exact hlearn.sent.trans (List.append_nil _).symm

/-- The statements of the thread, one after the other, are `onVirtualNetworkFrame`. -/
theorem Matches.onVirtualNetworkFrame (h : r.Matches s) (hr : r.Connected)
    (hthread : s.zeroTierThread = .handle f) :
    let s' := (s.onVirtualNetworkFrame env.toFrameEnvironment).onVirtualNetworkFrame
      env.toFrameEnvironment
    s'.zeroTierThread = .idle ∧
      ∃ r', (FrameReceiver.onVirtualNetworkFrame env f.toFrame).run r = .ok () r' ∧
        r'.Matches s' := by
  have hstep : s.onVirtualNetworkFrame env.toFrameEnvironment =
      if f.etherType = arpPacket then s.handleARP env.toFrameEnvironment f
      else if f.etherType = ipv4Packet then
        s.handleIP .arpTable isIPv4Multicast env.toFrameEnvironment f
      else if f.etherType = ipv6Packet then
        s.handleIP .ndpTable isIPv6Multicast env.toFrameEnvironment f
      else s.finish f .processed := by
    rw [Inbound.Adapter.onVirtualNetworkFrame, hthread]
  rw [hstep, run_onVirtualNetworkFrame _ _ _ hr]
  rcases f.wellFormed with ⟨htype, hlen⟩ | ⟨htype, -⟩ | ⟨htype, -⟩
  · rw [if_pos htype, if_pos htype]
    exact h.handleARP_reply env hlen
  · have hne : f.etherType ≠ arpPacket := by simp [htype, arpPacket, ipv4Packet]
    rw [if_neg hne, if_pos htype, if_neg hne, if_pos htype]
    exact h.handleIP_write env _ _ hne
  · have hne : f.etherType ≠ arpPacket := by simp [htype, arpPacket, ipv6Packet]
    have hne4 : f.etherType ≠ ipv4Packet := by simp [htype, ipv4Packet, ipv6Packet]
    rw [if_neg hne, if_neg hne4, if_pos htype, if_neg hne, if_neg hne4, if_pos htype]
    exact h.handleIP_write env _ _ hne

end Threads

end FrameReceiver

end XnetZt
