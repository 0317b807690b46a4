import XnetZt.Service.TunTapAdapter

/-!
# Inbound frames while the adapter restarts

Frames of the network arrive on the ZeroTier thread while the receive thread of the tunnel
ends and is started again. The receive thread stops and nulls the two tables when it ends,
and the next one creates them when it starts; the socket and the streams that
`onVirtualNetworkFrame` asks for stay set all the while. The three threads take their
statements in any order. A frame is handled as it should be exactly if none of its
accesses to a table falls between the end of one receive thread and the start of the next.
-/

namespace XnetZt

namespace Inbound

open NeighborTable (TableClass)

/-! ### The threads -/

/-- A packet long enough for its header, and of the version that its type says. -/
def WellFormed (f : Frame) : Prop :=
  f.etherType = arpPacket ∧ 28 ≤ f.frameData.length ∨
    f.etherType = ipv4Packet ∧ 20 ≤ f.frameData.length ∧
      IPPacketUtils.getIPVersion f.frameData = .ok 4 ∨
    f.etherType = ipv6Packet ∧ 40 ≤ f.frameData.length ∧
      IPPacketUtils.getIPVersion f.frameData = .ok 6

structure InboundFrame extends Frame where
  wellFormed : WellFormed toFrame

/-- The statement a receive thread is at. Three of them there are for each table. -/
inductive ReceiveThread
  | notStarted
  | create (c : TableClass)
  | loop
  | stop (c : TableClass)
  | null (c : TableClass)
  | ended
  deriving DecidableEq

def ReceiveThread.isAlive : ReceiveThread → Bool
  | notStarted => false
  | ended => false
  | _ => true

/-- The statement of `updateTunnelConfig`, as far as it is about the adapter. -/
inductive ServiceThread
  | idle
  | isRunning
  | interrupt
  | joinInInterrupt
  | join
  | establish
  | setVpnSocket
  | setFileStreams
  | startThreads
  deriving DecidableEq

/-- The service has made sure that no receive thread is alive. -/
def ServiceThread.joined : ServiceThread → Bool
  | .establish | .setVpnSocket | .setFileStreams | .startThreads => true
  | _ => false

/-- The statement of `onVirtualNetworkFrame` and its frame. -/
inductive ZeroTierThread
  | idle
  | checkVpnSocket (f : InboundFrame)
  | checkStreams (f : InboundFrame)
  | handle (f : InboundFrame)
  | reply (f : InboundFrame) (destMac : Mac) (destAddress : InetAddress)
  | write (f : InboundFrame)

/-- How the handling of a frame ends; `nullTable` is a null pointer exception on a table. -/
inductive Result
  | rejected
  | processed
  | written
  | nullTable
  | failed
  deriving DecidableEq

/-- The fields of the adapter with its three threads; a field that is not `null` is `true`. -/
structure Adapter where
  vpnSocket : Bool
  hasIn : Bool
  hasOut : Bool
  /-- `arpTable` and `ndpTable` -/
  tables : TableClass → Option NeighborTable
  receiveThread : ReceiveThread
  /-- A receive thread has run to its end. -/
  exited : Bool
  serviceThread : ServiceThread
  zeroTierThread : ZeroTierThread
  results : List (InboundFrame × Result)
  subscriptions : List Mac
  sent : List Frame

/-- A new adapter. -/
def Adapter.start : Adapter where
  vpnSocket := false
  hasIn := false
  hasOut := false
  tables := fun _ => some .empty
  receiveThread := .notStarted
  exited := false
  serviceThread := .idle
  zeroTierThread := .idle
  results := []
  subscriptions := []
  sent := []

namespace Adapter

variable (s : Adapter)

/-- The next statement of the receive thread. It leaves its loop when it is interrupted or
the tunnel fails. -/
def receive (leaves : Bool) : Adapter :=
  match s.receiveThread with
  | .notStarted => s
  | .create c =>
    { s with
      tables := Function.update s.tables c (some ((s.tables c).getD .empty))
      receiveThread := match c with
        | .ndpTable => .create .arpTable
        | .arpTable => .loop }
  | .loop => if leaves then { s with receiveThread := .stop .ndpTable } else s
  | .stop c => { s with receiveThread := .null c }
  | .null .ndpTable =>
    { s with
      tables := Function.update s.tables .ndpTable none
      receiveThread := .stop .arpTable }
  | .null .arpTable =>
    { s with
      tables := Function.update s.tables .arpTable none
      receiveThread := .ended
      exited := true }
  | .ended => s

/-- The next statement of the service. `interrupt` closes the streams of the adapter, but
leaves its fields; `join` waits for the receive thread. -/
def service (established : Bool) : Adapter :=
  match s.serviceThread with
  | .idle => { s with serviceThread := .isRunning }
  | .isRunning =>
    { s with serviceThread := if s.receiveThread.isAlive then .interrupt else .establish }
  | .interrupt => { s with serviceThread := .joinInInterrupt }
  | .joinInInterrupt => if s.receiveThread.isAlive then s else { s with serviceThread := .join }
  | .join => if s.receiveThread.isAlive then s else { s with serviceThread := .establish }
  | .establish => { s with serviceThread := if established then .setVpnSocket else .idle }
  | .setVpnSocket => { s with vpnSocket := true, serviceThread := .setFileStreams }
  | .setFileStreams => { s with hasIn := true, hasOut := true, serviceThread := .startThreads }
  | .startThreads =>
    { s with receiveThread := .create .ndpTable, serviceThread := .idle }

/-- The frame has been handled. -/
def finish (f : InboundFrame) (r : Result) : Adapter :=
  { s with zeroTierThread := .idle, results := s.results ++ [(f, r)] }

/-- The clock, and the config that the node has for the network of a frame. -/
structure FrameEnvironment where
  now : ℕ
  networkConfig : Option VirtualNetworkConfig

/-- The first IPv4 address of a config. -/
def localV4Address (config : VirtualNetworkConfig) : Option InetAddress :=
  (config.assignedAddresses.map (·.address)).find? (·.isInet4)

def handleARP (env : FrameEnvironment) (f : InboundFrame) : Adapter :=
  match s.tables .arpTable with
  | none => s.finish f .nullTable
  | some arpTable =>
    match ARPTable.processARPPacket arpTable env.now f.frameData with
    | .error _ => s.finish f .failed
    | .ok (arpTable, arpReply) =>
      let s := { s with tables := Function.update s.tables .arpTable (some arpTable) }
      match arpReply with
      | some ⟨destMac, some destAddress⟩ =>
        if destMac ≠ 0 then { s with zeroTierThread := .reply f destMac destAddress }
        else s.finish f .processed
      | _ => s.finish f .processed

/-- An ARP request is answered if the phone has an IPv4 address. -/
def replyARP (env : FrameEnvironment) (f : InboundFrame) (destMac : Mac)
    (destAddress : InetAddress) : Adapter :=
  match env.networkConfig with
  | none => s.finish f .failed
  | some networkConfig =>
    match localV4Address networkConfig with
    | none => s.finish f .processed
    | some localV4Address =>
      match s.tables .arpTable with
      | none => s.finish f .nullTable
      | some _ =>
        match ARPTable.getReplyPacket networkConfig.mac localV4Address destMac destAddress with
        | .error _ => s.finish f .failed
        | .ok packetData =>
          let frame : Frame :=
            { networkId := f.networkId
              srcMac := networkConfig.mac
              destMac := f.srcMac
              etherType := arpPacket
              frameData := packetData }
          { s with sent := s.sent ++ [frame] }.finish f .processed

/-- The branches for IPv4 and IPv6 differ in the table and the test for multicast. -/
def handleIP (c : TableClass) (isMulticast : InetAddress → Bool) (env : FrameEnvironment)
    (f : InboundFrame) : Adapter :=
  match IPPacketUtils.getSourceIP f.frameData with
  | .error _ => s.finish f .failed
  | .ok none => { s with zeroTierThread := .write f }
  | .ok (some sourceIP) =>
    if isMulticast sourceIP then
      { s with
        subscriptions := s.subscriptions ++ [multicastAddressToMAC sourceIP]
        zeroTierThread := .write f }
    else
      match s.tables c with
      | none => s.finish f .nullTable
      | some table =>
        { s with
          tables := Function.update s.tables c (some (table.setAddress env.now sourceIP f.srcMac))
          zeroTierThread := .write f }

/-- The next statement of `onVirtualNetworkFrame`. -/
def onVirtualNetworkFrame (env : FrameEnvironment) : Adapter :=
  match s.zeroTierThread with
  | .idle => s
  | .checkVpnSocket f =>
    if s.vpnSocket then { s with zeroTierThread := .checkStreams f } else s.finish f .rejected
  | .checkStreams f =>
    if s.hasIn && s.hasOut then { s with zeroTierThread := .handle f } else s.finish f .rejected
  | .handle f =>
    if f.etherType = arpPacket then s.handleARP env f
    else if f.etherType = ipv4Packet then s.handleIP .arpTable isIPv4Multicast env f
    else if f.etherType = ipv6Packet then s.handleIP .ndpTable isIPv6Multicast env f
    else s.finish f .processed
  | .reply f destMac destAddress => s.replyARP env f destMac destAddress
  | .write f => s.finish f (if s.hasOut then .written else .failed)

/-- The thread that takes its next statement. An idle ZeroTier thread may get a frame. -/
inductive Action
  | receive (leaves : Bool)
  | service (established : Bool)
  | deliver (f : InboundFrame)
  | zeroTier (env : FrameEnvironment)

def step : Action → Adapter
  | .receive leaves => s.receive leaves
  | .service established => s.service established
  | .deliver f =>
    match s.zeroTierThread with
    | .idle => { s with zeroTierThread := .checkVpnSocket f }
    | _ => s
  | .zeroTier env => s.onVirtualNetworkFrame env

/-! ### The tables while the receive thread restarts -/

/-- From the statement that nulls a table to the one of the next thread that creates it. -/
def Down : TableClass → Prop
  | .ndpTable => s.receiveThread = .stop .arpTable ∨ s.receiveThread = .null .arpTable ∨
    s.receiveThread = .ended ∨ s.receiveThread = .create .ndpTable ∧ s.exited = true
  | .arpTable => s.receiveThread = .ended ∨
    (s.receiveThread = .create .ndpTable ∨ s.receiveThread = .create .arpTable) ∧ s.exited = true

structure Consistent : Prop where
  tables : ∀ c, s.tables c = none ↔ s.Down c
  ended : s.receiveThread = .ended → s.exited = true
  fresh : s.receiveThread = .notStarted → s.exited = false
  joined : s.serviceThread.joined = true → s.receiveThread.isAlive = false
  accepted : ∀ f, s.zeroTierThread = .handle f ∨ s.zeroTierThread = .write f → s.hasOut = true
  reply : ∀ f destMac destAddress, s.zeroTierThread = .reply f destMac destAddress →
    f.etherType = arpPacket

theorem consistent_start : start.Consistent where
  tables c := by cases c <;> simp [start, Down]
  ended := nofun
  fresh _ := rfl
  joined := nofun
  accepted := by simp [start]
  reply := nofun

variable {s}

namespace Consistent

/-- A step of the ZeroTier thread: the tables that are there stay there. -/
theorem of_tables (h : s.Consistent) {t : Adapter}
    (htables : ∀ c, t.tables c = none ↔ s.tables c = none)
    (hreceive : t.receiveThread = s.receiveThread) (hexited : t.exited = s.exited)
    (hservice : t.serviceThread = s.serviceThread)
    (haccepted : ∀ f, t.zeroTierThread = .handle f ∨ t.zeroTierThread = .write f →
      t.hasOut = true)
    (hreply : ∀ f destMac destAddress, t.zeroTierThread = .reply f destMac destAddress →
      f.etherType = arpPacket) : t.Consistent where
  tables c := by
    have hdown : t.Down c ↔ s.Down c := by cases c <;> simp only [Down, hreceive, hexited]
    rw [htables, hdown]
    exact h.tables c
  ended := by
    rw [hreceive, hexited]
    exact h.ended
  fresh := by
    rw [hreceive, hexited]
    exact h.fresh
  joined := by
    rw [hreceive, hservice]
    exact h.joined
  accepted := haccepted
  reply := hreply

/-- A statement of a receive thread that is alive, so that the service waits for it or has
not looked yet. -/
theorem of_receive (h : s.Consistent) (halive : s.receiveThread.isAlive = true)
    {tables : TableClass → Option NeighborTable} {next : ReceiveThread} {exited : Bool}
    (htables : ∀ c, tables c = none ↔ Down
      { s with tables := tables, receiveThread := next, exited := exited } c)
    (hended : next = .ended → exited = true) (hfresh : next ≠ .notStarted) :
    Consistent { s with tables := tables, receiveThread := next, exited := exited } where
  tables := htables
  ended := hended
  fresh heq := absurd heq hfresh
  joined hjoined := absurd (h.joined hjoined) (by simp [halive])
  accepted := h.accepted
  reply := h.reply

theorem receive (h : s.Consistent) (leaves : Bool) : (s.receive leaves).Consistent := by
  have htables := h.tables
  unfold Adapter.receive
  split
  · exact h
  · rename_i c hpc
    refine h.of_receive (by simp [hpc, ReceiveThread.isAlive]) (fun c' => ?_) ?_ ?_
    · have hold := htables c'
      cases c <;> cases c' <;> simp_all [Down]
    · cases c <;> simp
    · cases c <;> simp
  · rename_i hpc
    split_ifs
    · refine h.of_receive (by simp [hpc, ReceiveThread.isAlive]) (fun c => ?_) (by simp) (by simp)
      have hold := htables c
      cases c <;> simp_all [Down]
    · exact h
  · rename_i c hpc
    refine h.of_receive (by simp [hpc, ReceiveThread.isAlive]) (fun c' => ?_) (by simp) (by simp)
    have hold := htables c'
    cases c <;> cases c' <;> simp_all [Down]
  · rename_i hpc
    refine h.of_receive (by simp [hpc, ReceiveThread.isAlive]) (fun c => ?_) (by simp) (by simp)
    have hold := htables c
    cases c <;> simp_all [Down]
  · rename_i hpc
    refine h.of_receive (by simp [hpc, ReceiveThread.isAlive]) (fun c => ?_) (by simp) (by simp)
    have hold := htables c
    cases c <;> simp_all [Down]
  · exact h

/-- A statement of the service other than the start of a thread. -/
theorem of_service (h : s.Consistent) {next : ServiceThread} {vpnSocket hasIn hasOut : Bool}
    (hjoined : next.joined = true → s.receiveThread.isAlive = false)
    (hout : s.hasOut = true → hasOut = true) :
    Consistent { s with
      serviceThread := next, vpnSocket := vpnSocket, hasIn := hasIn, hasOut := hasOut } where
  tables c := by
    have hold := h.tables c
    cases c <;> exact hold
  ended := h.ended
  fresh := h.fresh
  joined := hjoined
  accepted f hf := hout (h.accepted f hf)
  reply := h.reply

theorem service (h : s.Consistent) (established : Bool) : (s.service established).Consistent := by
  have hjoined := h.joined
  unfold Adapter.service
  split
  · exact h.of_service (by simp [ServiceThread.joined]) (fun hout => hout)
  · refine h.of_service ?_ (fun hout => hout)
    split_ifs with halive
    · simp [ServiceThread.joined]
    · exact fun _ => by simpa using halive
  · exact h.of_service (by simp [ServiceThread.joined]) (fun hout => hout)
  · split_ifs
    · exact h
    · exact h.of_service (by simp [ServiceThread.joined]) (fun hout => hout)
  · split_ifs with halive
    · exact h
    · exact h.of_service (fun _ => by simpa using halive) (fun hout => hout)
  · rename_i hpc
    exact h.of_service (fun _ => hjoined (by simp [hpc, ServiceThread.joined])) (fun hout => hout)
  · rename_i hpc
    exact h.of_service (fun _ => hjoined (by simp [hpc, ServiceThread.joined])) (fun hout => hout)
  · rename_i hpc
    exact h.of_service (fun _ => hjoined (by simp [hpc, ServiceThread.joined])) (fun _ => rfl)
  · rename_i hpc
    have hdead := hjoined (by simp [hpc, ServiceThread.joined])
    refine ⟨fun c => ?_, by simp, by simp, by simp [ServiceThread.joined], h.accepted, h.reply⟩
    -- the thread before has not started yet, or it has ended
    have hold := h.tables c
    have hended := h.ended
    have hfresh := h.fresh
    cases hthread : s.receiveThread with
    | notStarted => cases c <;> simp_all [Down]
    | ended => cases c <;> simp_all [Down]
    | _ => simp [hthread, ReceiveThread.isAlive] at hdead

theorem finish (h : s.Consistent) (f : InboundFrame) (r : Result) : (s.finish f r).Consistent :=
  h.of_tables (fun _ => Iff.rfl) rfl rfl rfl (by simp [Adapter.finish]) (by simp [Adapter.finish])

/-- An entry is made in a table that is there, and the thread goes on. -/
theorem setTable (h : s.Consistent) {c : TableClass} {table : NeighborTable}
    (hc : s.tables c = some table) (table' : NeighborTable) (next : ZeroTierThread)
    (haccepted : ∀ f, next = .handle f ∨ next = .write f → s.hasOut = true)
    (hreply : ∀ f destMac destAddress, next = .reply f destMac destAddress →
      f.etherType = arpPacket) :
    Consistent { s with
      tables := Function.update s.tables c (some table'), zeroTierThread := next } := by
  refine h.of_tables (fun c' => ?_) rfl rfl rfl haccepted hreply
  by_cases heq : c' = c
  · subst heq
    simp [hc]
  · simp [heq]

theorem handleARP (h : s.Consistent) (env : FrameEnvironment) {f : InboundFrame}
    (hf : f.etherType = arpPacket) : (s.handleARP env f).Consistent := by
  unfold Adapter.handleARP
  split
  · exact h.finish f _
  · rename_i arpTable htable
    split
    · exact h.finish f _
    · rename_i arpTable' arpReply _
      have hidle := h.setTable htable arpTable' .idle (by simp) (by simp)
      dsimp only
      split
      · split_ifs
        · refine h.setTable htable arpTable' _ (by simp) ?_
          rintro _ _ _ ⟨⟩
          exact hf
        · exact hidle.finish f _
      · exact hidle.finish f _

theorem replyARP (h : s.Consistent) (env : FrameEnvironment) (f : InboundFrame) (destMac : Mac)
    (destAddress : InetAddress) : (s.replyARP env f destMac destAddress).Consistent := by
  unfold Adapter.replyARP
  split
  · exact h.finish f _
  · split
    · exact h.finish f _
    · split
      · exact h.finish f _
      · split
        · exact h.finish f _
        · exact h.of_tables (fun _ => Iff.rfl) rfl rfl rfl (by simp [Adapter.finish])
            (by simp [Adapter.finish])

theorem handleIP (h : s.Consistent) (c : TableClass) (isMulticast : InetAddress → Bool)
    (env : FrameEnvironment) {f : InboundFrame} (hf : s.zeroTierThread = .handle f) :
    (s.handleIP c isMulticast env f).Consistent := by
  have hout := h.accepted f (Or.inl hf)
  unfold Adapter.handleIP
  split
  · exact h.finish f _
  · exact h.of_tables (fun _ => Iff.rfl) rfl rfl rfl (fun _ _ => hout) (by simp)
  · split_ifs
    · exact h.of_tables (fun _ => Iff.rfl) rfl rfl rfl (fun _ _ => hout) (by simp)
    · split
      · exact h.finish f _
      · rename_i table htable
        exact h.setTable htable _ _ (fun _ _ => hout) (by simp)

theorem onVirtualNetworkFrame (h : s.Consistent) (env : FrameEnvironment) :
    (s.onVirtualNetworkFrame env).Consistent := by
  unfold Adapter.onVirtualNetworkFrame
  split
  · exact h
  · split_ifs
    · exact h.of_tables (fun _ => Iff.rfl) rfl rfl rfl (by simp) (by simp)
    · exact h.finish _ _
  · split_ifs with hstreams
    · refine h.of_tables (fun _ => Iff.rfl) rfl rfl rfl (fun _ _ => ?_) (by simp)
      exact (Bool.and_eq_true_iff.mp hstreams).2
    · exact h.finish _ _
  · rename_i f hf
    split_ifs with harp
    · exact h.handleARP env harp
    · exact h.handleIP .arpTable isIPv4Multicast env hf
    · exact h.handleIP .ndpTable isIPv6Multicast env hf
    · exact h.finish _ _
  · exact h.replyARP env _ _ _
  · exact h.finish _ _

theorem step (h : s.Consistent) (a : Action) : (s.step a).Consistent := by
  cases a with
  | receive leaves => exact h.receive leaves
  | service established => exact h.service established
  | deliver f =>
    unfold Adapter.step
    dsimp only
    split
    · exact h.of_tables (fun _ => Iff.rfl) rfl rfl rfl (by simp) (by simp)
    · exact h
  | zeroTier env => exact h.onVirtualNetworkFrame env

end Consistent

/-! ### Frames and tables -/

/-- The source is one that is entered in a table. -/
def HasUnicastSource (f : InboundFrame) (isMulticast : InetAddress → Bool) : Prop :=
  ∃ sourceIP, IPPacketUtils.getSourceIP f.frameData = .ok (some sourceIP) ∧
    isMulticast sourceIP = false

variable (s) in
/-- The next statement of the ZeroTier thread dereferences this table. -/
def Accesses (env : FrameEnvironment) (c : TableClass) : Prop :=
  match s.zeroTierThread with
  | .handle f => f.etherType = arpPacket ∧ c = .arpTable ∨
    f.etherType = ipv4Packet ∧ c = .arpTable ∧ HasUnicastSource f isIPv4Multicast ∨
    f.etherType = ipv6Packet ∧ c = .ndpTable ∧ HasUnicastSource f isIPv6Multicast
  | .reply _ _ _ => c = .arpTable ∧ ∃ networkConfig, env.networkConfig = some networkConfig ∧
    (localV4Address networkConfig).isSome = true
  | _ => False

/-- No table was `null`, and an IP frame that was not rejected has been written. -/
def Fine (x : InboundFrame × Result) : Prop :=
  x.2 ≠ .nullTable ∧ (x.1.etherType ≠ arpPacket → x.2 ≠ .rejected → x.2 = .written)

variable (s) in
def Sound : Prop := ∀ x ∈ s.results, Fine x

theorem sound_finish (f : InboundFrame) (r : Result) :
    (s.finish f r).Sound ↔ s.Sound ∧ Fine (f, r) := by
  simp [Sound, finish, or_imp, forall_and]

theorem exists_sourceIP {f : InboundFrame} (hf : f.etherType ≠ arpPacket) :
    ∃ sourceIP, IPPacketUtils.getSourceIP f.frameData = .ok (some sourceIP) := by
  rcases f.wellFormed with ⟨harp, -⟩ | ⟨-, hlen, hv⟩ | ⟨-, hlen, hv⟩
  · exact absurd harp hf
  · exact ⟨_, IPPacketUtils.addressAt_four hv (by omega)⟩
  · have hsome := InetAddress.getByAddress_sixteen_isSome
      (Bytes.length_slice (show 8 + 16 ≤ f.frameData.length by omega))
    obtain ⟨sourceIP, hsource⟩ := Option.isSome_iff_exists.mp hsome
    refine ⟨sourceIP, ?_⟩
    rw [← hsource]
    exact IPPacketUtils.addressAt_six hv (by omega)

/-- An ARP frame may end in any way but on a table that is not there. -/
theorem sound_finish_arp (h : s.Sound) {t : Adapter} (ht : t.results = s.results)
    {f : InboundFrame} (hf : f.etherType = arpPacket) {r : Result} (hr : r ≠ .nullTable) :
    (t.finish f r).Sound := by
  refine (sound_finish f r).mpr ⟨?_, hr, fun hne => absurd hf hne⟩
  rw [Sound, ht]
  exact h

theorem sound_handleARP_iff (h : s.Sound) (env : FrameEnvironment) {f : InboundFrame}
    (hf : f.etherType = arpPacket) :
    (s.handleARP env f).Sound ↔ s.tables .arpTable ≠ none := by
  unfold handleARP
  cases s.tables .arpTable with
  | none => simp [sound_finish, Fine]
  | some arpTable =>
    refine iff_of_true ?_ (by simp)
    dsimp only
    split
    · exact sound_finish_arp h rfl hf (by simp)
    · split
      · split_ifs
        · exact h
        · exact sound_finish_arp h rfl hf (by simp)
      · exact sound_finish_arp h rfl hf (by simp)

theorem sound_replyARP_iff (h : s.Sound) (env : FrameEnvironment) {f : InboundFrame}
    (hf : f.etherType = arpPacket) (destMac : Mac) (destAddress : InetAddress) :
    (s.replyARP env f destMac destAddress).Sound ↔
      ((∃ networkConfig, env.networkConfig = some networkConfig ∧
        (localV4Address networkConfig).isSome = true) → s.tables .arpTable ≠ none) := by
  unfold replyARP
  cases env.networkConfig with
  | none => exact iff_of_true (sound_finish_arp h rfl hf (by simp)) (by simp)
  | some networkConfig =>
    cases hlocal : localV4Address networkConfig with
    | none =>
      simp only [hlocal]
      exact iff_of_true (sound_finish_arp h rfl hf (by simp)) (by simp [hlocal])
    | some localV4 =>
      simp only [hlocal]
      cases s.tables .arpTable with
      | none => simp [sound_finish, Fine, hlocal]
      | some arpTable =>
        refine iff_of_true ?_ (by simp)
        dsimp only
        split
        · exact sound_finish_arp h rfl hf (by simp)
        · exact sound_finish_arp h rfl hf (by simp)

theorem sound_handleIP_iff (h : s.Sound) (c : TableClass) (isMulticast : InetAddress → Bool)
    (env : FrameEnvironment) {f : InboundFrame} (hf : f.etherType ≠ arpPacket) :
    (s.handleIP c isMulticast env f).Sound ↔
      (HasUnicastSource f isMulticast → s.tables c ≠ none) := by
  obtain ⟨sourceIP, hsource⟩ := exists_sourceIP hf
  have hunicast : HasUnicastSource f isMulticast ↔ isMulticast sourceIP = false := by
    simp [HasUnicastSource, hsource]
  unfold handleIP
  rw [hunicast, hsource]
  dsimp only
  split_ifs with hmulticast
  · exact iff_of_true h (by simp [hmulticast])
  · cases s.tables c with
    | none => simp [sound_finish, Fine, hmulticast]
    | some table => exact iff_of_true h (by simp)

/-! ### Runs -/

/-- No table is dereferenced while it is down. -/
def AvoidsDown (s : Adapter) : Action → Prop
  | .zeroTier env => ∀ c, s.Accesses env c → ¬ s.Down c
  | _ => True

theorem sound_onVirtualNetworkFrame_iff (hs : s.Consistent) (h : s.Sound)
    (env : FrameEnvironment) :
    (s.onVirtualNetworkFrame env).Sound ↔ ∀ c, s.Accesses env c → s.tables c ≠ none := by
  unfold onVirtualNetworkFrame Accesses
  cases hthread : s.zeroTierThread with
  | idle => exact iff_of_true h (by simp)
  | checkVpnSocket f =>
    refine iff_of_true ?_ (by simp)
    dsimp only
    split_ifs
    · exact h
    · exact (sound_finish f _).mpr ⟨h, by simp [Fine]⟩
  | checkStreams f =>
    refine iff_of_true ?_ (by simp)
    dsimp only
    split_ifs
    · exact h
    · exact (sound_finish f _).mpr ⟨h, by simp [Fine]⟩
  | handle f =>
    dsimp only
    rcases f.wellFormed with ⟨htype, -⟩ | ⟨htype, -⟩ | ⟨htype, -⟩
    · rw [if_pos htype, sound_handleARP_iff h env htype]
      simp [htype, arpPacket, ipv4Packet, ipv6Packet]
    · have hne : f.etherType ≠ arpPacket := by simp [htype, arpPacket, ipv4Packet]
      rw [if_neg hne, if_pos htype, sound_handleIP_iff h _ _ env hne]
      simp [htype, arpPacket, ipv4Packet, ipv6Packet]
    · have hne : f.etherType ≠ arpPacket := by simp [htype, arpPacket, ipv6Packet]
      have hne4 : f.etherType ≠ ipv4Packet := by simp [htype, ipv4Packet, ipv6Packet]
      rw [if_neg hne, if_neg hne4, if_pos htype, sound_handleIP_iff h _ _ env hne]
      simp [htype, arpPacket, ipv4Packet, ipv6Packet]
  | reply f destMac destAddress =>
    dsimp only
    rw [sound_replyARP_iff h env (hs.reply f destMac destAddress hthread)]
    simp
  | write f =>
    have hout := hs.accepted f (Or.inr hthread)
    refine iff_of_true ((sound_finish f _).mpr ⟨h, ?_⟩) (by simp)
    simp [hout, Fine]

theorem sound_step_iff (hs : s.Consistent) (h : s.Sound) (a : Action) :
    (s.step a).Sound ↔ s.AvoidsDown a := by
  cases a with
  | receive leaves =>
    refine iff_of_true ?_ trivial
    have hresults : (s.receive leaves).results = s.results := by
      unfold receive
      split <;> (try split_ifs) <;> rfl
    rw [step, Sound, hresults]
    exact h
  | service established =>
    refine iff_of_true ?_ trivial
    have hresults : (s.service established).results = s.results := by
      unfold service
      split <;> (try split_ifs) <;> rfl
    rw [step, Sound, hresults]
    exact h
  | deliver f =>
    refine iff_of_true ?_ trivial
    unfold step
    dsimp only
    split
    · exact h
    · exact h
  | zeroTier env =>
    rw [step, sound_onVirtualNetworkFrame_iff hs h]
    exact forall₂_congr fun c _ => not_congr (hs.tables c)

/-- Whatever the order of the statements: frames never meet a table that is not there, and
those that are accepted are written, exactly if no table is accessed while it is down. -/
theorem throughout_sound_iff (actions : List Action) :
    Run.Throughout step Sound start actions ↔ Run.Along step AvoidsDown start actions := by
  have hsound : start.Sound := by simp [Sound, start]
  exact Run.throughout_iff_along_of_step_iff (fun _ a hs _ => hs.step a)
    (fun _ a hs h => sound_step_iff hs h a) actions consistent_start hsound

/-- An ARP request of `10.147.17.2` for `10.147.17.5`. -/
def arpRequest : InboundFrame where
  networkId := 1
  srcMac := 0x22
  destMac := 0xffffffffffff
  etherType := arpPacket
  frameData := [0, 1, 8, 0, 6, 4, 0, 1, 0, 0, 0, 0, 0, 0x22, 10, 147, 17, 2,
    0, 0, 0, 0, 0, 0, 10, 147, 17, 5]
  wellFormed := Or.inl ⟨rfl, by decide⟩

/-- A packet of `10.147.17.2` without payload. -/
def ipv4Frame : InboundFrame where
  networkId := 1
  srcMac := 0x22
  destMac := 0x55
  etherType := ipv4Packet
  frameData := [0x45, 0, 0, 20, 0, 0, 0, 0, 64, 17, 0, 0, 10, 147, 17, 2, 10, 147, 17, 5]
  wellFormed := Or.inr (Or.inl ⟨rfl, by decide, by decide⟩)

/-- The tunnel is configured, and the receive thread runs. -/
def started : List Action :=
  List.replicate 6 (.service true) ++ List.replicate 2 (.receive false)

/-- The next configuration interrupts the thread, which runs to its end; the service has not
started another one when a frame comes in. -/
def restarting (f : InboundFrame) : List Action :=
  started ++ List.replicate 3 (.service true) ++ List.replicate 5 (.receive true) ++
    [.deliver f] ++ List.replicate 3 (.zeroTier ⟨0, none⟩)

theorem not_throughout_of_nullTable {s : Adapter} {actions : List Action} {f : InboundFrame}
    (hf : (f, .nullTable) ∈ (actions.foldl step s).results) :
    ¬ Run.Throughout step Sound s actions := by
  intro h
  have hfine : Fine (f, .nullTable) := h.last _ hf
  exact hfine.1 rfl

theorem not_sound_restarting :
    ¬ Run.Throughout step Sound start (restarting arpRequest) ∧
      ¬ Run.Throughout step Sound start (restarting ipv4Frame) := by
  have harp : ((restarting arpRequest).foldl step start).results = [(arpRequest, .nullTable)] :=
    rfl
  have hipv4 : ((restarting ipv4Frame).foldl step start).results = [(ipv4Frame, .nullTable)] :=
    rfl
  constructor
  · apply not_throughout_of_nullTable
    rw [harp]
    exact List.mem_singleton_self _
  · apply not_throughout_of_nullTable
    rw [hipv4]
    exact List.mem_singleton_self _

end Adapter

end Inbound

end XnetZt
