import XnetZt.Lib.Run
import XnetZt.Net.IPPacket

/-!
# Starting and stopping the VPN service

`onStartCommand` creates the socket, the node and two threads as far as they are not there, and
`stopZeroTier` takes everything down again: on the main thread, or on one of the two threads
when ZeroTier has reported an error to it.

A step is one call, or one round of the loop of a thread. A call that waits for a thread lets it
come to its end; a thread that waits for itself only takes its own interrupt back. Only
`updateTunnelConfig` is two steps, before and from `establish` on: it runs on a thread of the bus
that no lock keeps apart from a stop, and a stop in between does not end it. That the other calls
do not overlap is an assumption; the source has no lock for them either.
-/

namespace XnetZt.ServiceLifecycle

abbrev ThreadId := ℕ

abbrev SocketId := ℕ

structure Node where
  /-- The networks it has joined. -/
  joined : List (BitVec 64)

structure Adapter where
  networkId : BitVec 64
  isRunning : Bool

/-- `UdpCom` keeps the socket it was made with. -/
structure UdpThread where
  id : ThreadId
  svrSocket : SocketId
  deriving DecidableEq

/-- The fields of the service, and the threads that are alive. -/
structure Service where
  registered : Bool
  networkId : BitVec 64
  disableIPv6 : Bool
  svrSocket : Option SocketId
  /-- The sockets that have not been closed. -/
  opened : List SocketId
  node : Option Node
  tunTapAdapter : Option Adapter
  udpThread : Option ThreadId
  vpnThread : Option ThreadId
  vpnSocket : Bool
  /-- Whether the scanner is alive, unless the field is null. -/
  v4MulticastScanner : Option Bool
  v6MulticastScanner : Option Bool
  /-- The calls of `updateTunnelConfig` that are about to call `establish`. -/
  configuring : ℕ
  nextBackgroundTaskDeadline : ℕ
  udpThreads : List UdpThread
  serviceThreads : List ThreadId
  nextId : ℕ

def Service.initial : Service where
  registered := false
  networkId := 0
  disableIPv6 := false
  svrSocket := none
  opened := []
  node := none
  tunTapAdapter := none
  udpThread := none
  vpnThread := none
  vpnSocket := false
  v4MulticastScanner := some false
  v6MulticastScanner := some false
  configuring := 0
  nextBackgroundTaskDeadline := 0
  udpThreads := []
  serviceThreads := []
  nextId := 0

/-! ### Starting -/

inductive CurrentConnection
  | none
  | mobile
  | other
  deriving DecidableEq

/-- `new DatagramSocket` may throw, and so may its setters and `bind`. -/
inductive SocketOutcome
  | notCreated
  | notBound
  | bound
  deriving DecidableEq

/-- `init` may return an error, and it and the lines up to the start of the UDP thread may
throw. -/
inductive InitOutcome
  | resultOk
  | failed
  | throws
  deriving DecidableEq

inductive StartResult
  | sticky
  | notSticky
  /-- An `IllegalStateException` leaves `onStartCommand`. -/
  | illegalState
  deriving DecidableEq

structure StartCommand where
  startId : ℕ
  /-- The network id that the intent may have, unless the intent is null. -/
  intent : Option (Option (BitVec 64))
  /-- The networks that the database marks as last activated. -/
  lastActivatedNetworks : List (BitVec 64)
  currentNetworkInfo : CurrentConnection
  useCellularData : Bool
  disableIPv6 : Bool
  socket : SocketOutcome
  init : InitOutcome
  join : ResultCode

namespace StartCommand

variable (c : StartCommand)

def networkId (extra : Option (BitVec 64)) : Except StartResult (BitVec 64) :=
  match extra with
  | some networkId => .ok networkId
  | none =>
    match c.lastActivatedNetworks with
    | [] => .error .notSticky
    | [networkId] => .ok networkId
    | _ => .error .illegalState

theorem networkId_ne_sticky {extra : Option (BitVec 64)} {result : StartResult}
    (h : c.networkId extra = .error result) : result ≠ .sticky := by
  unfold networkId at h
  split at h
  · exact nomatch h
  · split at h
    · simp [← Except.error.inj h]
    · exact nomatch h
    · simp [← Except.error.inj h]

def Connected : Prop :=
  c.currentNetworkInfo ≠ .none ∧ (c.currentNetworkInfo = .mobile → c.useCellularData = true)

instance : Decidable c.Connected := inferInstanceAs (Decidable (_ ∧ _))

end StartCommand

namespace Service

variable (s : Service)

/-- The socket is created if there is none. If it cannot be bound it stays, but the start
fails. -/
def createSocket (outcome : SocketOutcome) : Option SocketId × Service :=
  match s.svrSocket, outcome with
  | some svrSocket, _ => (some svrSocket, s)
  | none, .notCreated => (none, s)
  | none, outcome =>
    (if outcome = .bound then some s.nextId else none,
      { s with svrSocket := some s.nextId, opened := s.nextId :: s.opened, nextId := s.nextId + 1 })

/-- The node is created if there is none. If it cannot be initialised it stays, but the start
fails. -/
def createNode (svrSocket : SocketId) (networkId : BitVec 64) (outcome : InitOutcome) :
    Bool × Service :=
  match s.node with
  | some _ => (true, s)
  | none =>
    let s := { s with tunTapAdapter := some ⟨networkId, false⟩, node := some ⟨[]⟩ }
    if outcome = .resultOk then
      (true, { s with
        udpThread := some s.nextId
        udpThreads := ⟨s.nextId, svrSocket⟩ :: s.udpThreads
        nextId := s.nextId + 1 })
    else (false, s)

def UdpAlive : Prop := ∃ u ∈ s.udpThreads, s.udpThread = some u.id

instance : Decidable s.UdpAlive := inferInstanceAs (Decidable (∃ u ∈ s.udpThreads, _))

/-- A UDP thread that has ended is started again, which throws, as does a null field. -/
def startThreads : Bool × Service :=
  let s := match s.vpnThread with
    | some _ => s
    | none => { s with
        vpnThread := some s.nextId
        serviceThreads := s.nextId :: s.serviceThreads
        nextId := s.nextId + 1 }
  (s.UdpAlive, s)

/-- The block of `onStartCommand` that catches every exception. -/
def startLocked (networkId : BitVec 64) (c : StartCommand) : Bool × Service :=
  match s.createSocket c.socket with
  | (none, s) => (false, s)
  | (some svrSocket, s) =>
    match s.createNode svrSocket networkId c.init with
    | (false, s) => (false, s)
    | (true, s) => s.startThreads

def joinNetwork (networkId : BitVec 64) (result : ResultCode) : Service :=
  match s.node, result with
  | some node, .resultOk => { s with node := some ⟨node.joined.insert networkId⟩ }
  | _, _ => s

def onStartCommand (c : StartCommand) : StartResult × Service :=
  if c.startId = 3 then (.notSticky, s)
  else match c.intent with
    | none => (.notSticky, s)
    | some extra =>
      let s := { s with registered := true }
      match c.networkId extra with
      | .error result => (result, s)
      | .ok networkId =>
        if networkId = 0 then (.notSticky, s)
        else
          let s := { s with networkId := networkId, disableIPv6 := c.disableIPv6 }
          if c.Connected then
            match s.startLocked networkId c with
            | (true, s) => (.sticky, s.joinNetwork networkId c.join)
            | (false, s) => (.notSticky, s)
          else (.notSticky, s)

/-! ### Stopping -/

def closeSocket : Service :=
  { s with svrSocket := none, opened := s.opened.filter (s.svrSocket ≠ some ·) }

/-- `interrupt` and `join` on a thread that is alive, and the field becomes null. -/
def stopUdpThread (self : Option ThreadId) : Service :=
  if s.UdpAlive then
    { s with
      udpThread := none
      udpThreads := s.udpThreads.filter fun u => s.udpThread ≠ some u.id ∨ self = some u.id }
  else s

def stopAdapter : Service :=
  { s with tunTapAdapter := s.tunTapAdapter.filter (!·.isRunning) }

def stopVpnThread (self : Option ThreadId) : Service :=
  match s.vpnThread with
  | some t =>
    if t ∈ s.serviceThreads then
      { s with
        vpnThread := none
        serviceThreads := s.serviceThreads.filter fun t' => t' ≠ t ∨ self = some t' }
    else s
  | none => s

/-- `self` is the thread that calls, unless it is another than those of the service. -/
def stopZeroTier (self : Option ThreadId) : Service :=
  { (((s.closeSocket.stopUdpThread self).stopAdapter).stopVpnThread self) with
    v4MulticastScanner := none
    v6MulticastScanner := none
    vpnSocket := false
    node := none
    registered := false }

def leaveNetwork (networkId : BitVec 64) (result : ResultCode) : Service :=
  match s.node, result with
  | some node, .resultOk =>
    let joined := node.joined.filter (· ≠ networkId)
    let s := { s with node := some ⟨joined⟩ }
    if joined = [] then s.stopZeroTier none else s
  | _, _ => s

/-! ### The threads -/

/-- One round of `run`. Without a node it throws, which the loop catches. -/
def run (t : ThreadId) (currentTime : ℕ) (taskResult : ResultCode) (newDeadline : ℕ) : Service :=
  if t ∈ s.serviceThreads ∧ s.nextBackgroundTaskDeadline ≤ currentTime ∧ s.node.isSome then
    let s := { s with nextBackgroundTaskDeadline := newDeadline }
    if taskResult = .resultOk then s else s.stopZeroTier (some t)
  else s

/-- What `receive` does on a socket that is open. -/
inductive Received
  | timeout
  | exception
  | datagram (length : ℕ) (processWirePacket : ResultCode) (deadline : ℕ)

/-- One round of the loop of `UdpCom`. On a socket that has been closed, `receive` throws. -/
def receive (u : UdpThread) (received : Received) : Service :=
  if u ∈ s.udpThreads then
    if u.svrSocket ∈ s.opened then
      match received with
      | .timeout => s
      | .exception => { s with udpThreads := s.udpThreads.erase u }
      | .datagram length processWirePacket deadline =>
        if length = 0 then s
        else
          let s := if processWirePacket = .resultOk then s else s.stopZeroTier (some u.id)
          { s with nextBackgroundTaskDeadline := deadline }
    else { s with udpThreads := s.udpThreads.erase u }
  else s

/-- What `updateTunnelConfig` does to the fields of the lifecycle until it calls `establish`, for a
network with a config; the routes may make it give up. Without an adapter it throws at once;
without a node it throws when it subscribes for the first address, and without an address there
is no tunnel. -/
def prepareTunnel (goesOn : Bool) : Service :=
  match s.tunTapAdapter with
  | none => s
  | some adapter =>
    let s := { s with
      tunTapAdapter := some { adapter with isRunning := false }
      vpnSocket := false }
    if goesOn ∧ s.node.isSome then { s with configuring := s.configuring + 1 } else s

/-- What `establish` comes to. -/
inductive EstablishOutcome
  | throws
  | null
  | established
  deriving DecidableEq

/-- The rest of `updateTunnelConfig`. It looks at the fields again: if the adapter is gone by
now, it throws with the tunnel open. -/
def establishTunnel (legacy : Bool) (outcome : EstablishOutcome) : Service :=
  if s.configuring = 0 then s
  else
    let s := { s with configuring := s.configuring - 1 }
    match outcome, s.tunTapAdapter with
    | .throws, _ => s
    | .null, _ => { s with vpnSocket := false }
    | .established, none => { s with vpnSocket := true }
    | .established, some adapter =>
      { s with
        tunTapAdapter := some { adapter with isRunning := true }
        vpnSocket := true
        v4MulticastScanner :=
          if legacy then s.v4MulticastScanner.map fun _ => true else s.v4MulticastScanner
        v6MulticastScanner :=
          if legacy ∧ s.disableIPv6 = false then s.v6MulticastScanner.map fun _ => true
          else s.v6MulticastScanner }

/-- What can happen. `joinNetwork` has a second caller, the list of networks, but that one has
stopped the service and unbound it a few lines before, and without a node the call does
nothing. -/
inductive Event
  | start (c : StartCommand)
  /-- A `StopEvent` or a `ManualDisconnectEvent` on the bus. -/
  | stopEvent
  /-- `onRevoke` and `onDestroy`, and `stopService` of the list of networks. -/
  | halt
  | leave (networkId : BitVec 64) (result : ResultCode)
  | run (t : ThreadId) (currentTime : ℕ) (taskResult : ResultCode) (newDeadline : ℕ)
  | receive (u : UdpThread) (received : Received)
  | prepareTunnel (goesOn : Bool)
  | establishTunnel (legacy : Bool) (outcome : EstablishOutcome)
  /-- The receive thread of the adapter ends. -/
  | adapterEnds

def step (s : Service) : Event → Service
  | .start c => (s.onStartCommand c).2
  | .stopEvent => if s.registered then s.stopZeroTier none else s
  | .halt => s.stopZeroTier none
  | .leave networkId result => s.leaveNetwork networkId result
  | .run t currentTime taskResult newDeadline => s.run t currentTime taskResult newDeadline
  | .receive u received => s.receive u received
  | .prepareTunnel goesOn => s.prepareTunnel goesOn
  | .establishTunnel legacy outcome => s.establishTunnel legacy outcome
  | .adapterEnds =>
    { s with tunTapAdapter := s.tunTapAdapter.map fun a => { a with isRunning := false } }

/-! ### What holds in every state -/

/-- A node has all it needs, and what is in use belongs to a node. Threads and sockets have
numbers of their own. -/
structure Consistent : Prop where
  registered : s.node.isSome = true → s.registered = true
  svrSocket : s.node.isSome = true → s.svrSocket.isSome = true
  opened : s.opened = s.svrSocket.toList
  adapter : s.node.isSome = true → s.tunTapAdapter.isSome = true
  vpnThread : ∀ t, s.vpnThread = some t → t ∈ s.serviceThreads ∧ s.node.isSome = true
  current : ∀ u ∈ s.udpThreads, s.svrSocket = some u.svrSocket → s.udpThread = some u.id
  udpThread : ∀ u ∈ s.udpThreads, s.udpThread = some u.id →
    s.svrSocket = some u.svrSocket ∧ s.node.isSome = true
  lt_udp : ∀ u ∈ s.udpThreads, u.id < s.nextId ∧ u.svrSocket < s.nextId
  lt_service : ∀ t ∈ s.serviceThreads, t < s.nextId
  apart : ∀ u ∈ s.udpThreads, u.id ∉ s.serviceThreads
  lt_socket : ∀ k, s.svrSocket = some k → k < s.nextId
  nodup : s.serviceThreads.Nodup

theorem consistent_initial : initial.Consistent where
  registered h := nomatch h
  svrSocket h := nomatch h
  opened := rfl
  adapter h := nomatch h
  vpnThread _ h := nomatch h
  current _ h := nomatch h
  udpThread _ h := nomatch h
  lt_udp _ h := nomatch h
  lt_service _ h := nomatch h
  apart _ h := nomatch h
  lt_socket _ h := nomatch h
  nodup := List.nodup_nil

section Steps

variable {s}

/-- What is left by a stop. -/
theorem stopZeroTier_eq (hs : s.Consistent) (self : Option ThreadId) :
    s.stopZeroTier self = { s with
      registered := false
      svrSocket := none
      opened := []
      node := none
      tunTapAdapter := s.tunTapAdapter.filter (!·.isRunning)
      udpThread := if s.UdpAlive then none else s.udpThread
      vpnThread := none
      vpnSocket := false
      v4MulticastScanner := none
      v6MulticastScanner := none
      udpThreads := s.udpThreads.filter fun u => s.udpThread ≠ some u.id ∨ self = some u.id
      serviceThreads :=
        s.serviceThreads.filter fun t => s.vpnThread ≠ some t ∨ self = some t } := by
  have hopened : s.opened.filter (s.svrSocket ≠ some ·) = [] := by
    rw [hs.opened]
    cases s.svrSocket <;> simp
  have hudp : s.closeSocket.stopUdpThread self = { s.closeSocket with
      udpThread := if s.UdpAlive then none else s.udpThread
      udpThreads := s.udpThreads.filter fun u => s.udpThread ≠ some u.id ∨ self = some u.id } := by
    unfold stopUdpThread
    by_cases halive : s.UdpAlive
    · rw [if_pos halive, if_pos (show s.closeSocket.UdpAlive from halive)]
      rfl
    · rw [if_neg halive, if_neg (show ¬ s.closeSocket.UdpAlive from halive),
        List.filter_eq_self.mpr]
      · rfl
      · intro u hu
        exact decide_eq_true (Or.inl fun h => halive ⟨u, hu, h⟩)
  unfold stopZeroTier stopAdapter stopVpnThread
  rw [hudp]
  cases hvpn : s.vpnThread with
  | none =>
    have hfilter : s.serviceThreads.filter
        (fun t => (none : Option ThreadId) ≠ some t ∨ self = some t) = s.serviceThreads := by
      simp
    simp only [closeSocket, hvpn, hopened, hfilter]
  | some t =>
    simp only [closeSocket, hvpn, hopened, if_pos (hs.vpnThread t hvpn).1, ne_eq,
      Option.some.injEq, eq_comm]

theorem Consistent.stopZeroTier (hs : s.Consistent) (self : Option ThreadId) :
    (s.stopZeroTier self).Consistent := by
  rw [stopZeroTier_eq hs]
  exact {
    registered := fun h => nomatch h
    svrSocket := fun h => nomatch h
    opened := rfl
    adapter := fun h => nomatch h
    vpnThread := fun _ h => nomatch h
    current := fun _ _ h => nomatch h
    udpThread := fun u hu h => by
      -- the field still names a thread only if that thread had ended
      dsimp only at h
      split_ifs at h with halive
      exact absurd ⟨u, List.mem_of_mem_filter hu, h⟩ halive
    lt_udp := fun u hu => hs.lt_udp u (List.mem_of_mem_filter hu)
    lt_service := fun t ht => hs.lt_service t (List.mem_of_mem_filter ht)
    apart := fun u hu ht =>
      hs.apart u (List.mem_of_mem_filter hu) (List.mem_of_mem_filter ht)
    lt_socket := fun _ h => nomatch h
    nodup := hs.nodup.filter _ }

theorem Consistent.succ (hs : s.Consistent) : Consistent { s with nextId := s.nextId + 1 } :=
  { hs with
    lt_udp := fun u hu =>
      ⟨Nat.lt_succ_of_lt (hs.lt_udp u hu).1, Nat.lt_succ_of_lt (hs.lt_udp u hu).2⟩
    lt_service := fun t ht => Nat.lt_succ_of_lt (hs.lt_service t ht)
    lt_socket := fun k hk => Nat.lt_succ_of_lt (hs.lt_socket k hk) }

theorem Consistent.createSocket (hs : s.Consistent) (outcome : SocketOutcome) :
    (s.createSocket outcome).2.Consistent ∧
      ∀ k, (s.createSocket outcome).1 = some k → (s.createSocket outcome).2.svrSocket = some k := by
  cases hsocket : s.svrSocket with
  | some k =>
    have heq : s.createSocket outcome = (some k, s) := by simp [Service.createSocket, hsocket]
    rw [heq]
    exact ⟨hs, fun _ h => hsocket.trans h⟩
  | none =>
    have hnode : s.node.isSome ≠ true := fun h => by simpa [hsocket] using hs.svrSocket h
    have hopened : s.opened = [] := by simpa [hsocket] using hs.opened
    have hcreated : Consistent { s with
        svrSocket := some s.nextId, opened := s.nextId :: s.opened, nextId := s.nextId + 1 } :=
      { hs.succ with
        svrSocket := fun h => absurd h hnode
        opened := by rw [hopened]; rfl
        current := fun u hu h => by
          have hlt := (hs.lt_udp u hu).2
          rw [← Option.some.inj h] at hlt
          exact absurd hlt (lt_irrefl _)
        udpThread := fun u hu h => absurd (hs.udpThread u hu h).2 hnode
        lt_socket := fun k hk => by rw [← Option.some.inj hk]; exact Nat.lt_succ_self _ }
    cases outcome <;> simp only [Service.createSocket, hsocket]
    · exact ⟨hs, fun _ h => nomatch h⟩
    · exact ⟨hcreated, fun _ h => nomatch h⟩
    · exact ⟨hcreated, fun _ h => h⟩

theorem Consistent.createNode (hs : s.Consistent) (hregistered : s.registered = true)
    {k : SocketId} (hk : s.svrSocket = some k) (networkId : BitVec 64) (outcome : InitOutcome) :
    (s.createNode k networkId outcome).2.Consistent := by
  unfold Service.createNode
  cases hnode : s.node with
  | some _ => exact hs
  | none =>
    have hnone : s.node.isSome ≠ true := by simp [hnode]
    have hcreated : Consistent { s with
        tunTapAdapter := some ⟨networkId, false⟩, node := some ⟨[]⟩ } :=
      { hs with
        registered := fun _ => hregistered
        svrSocket := fun _ => by rw [hk]; rfl
        adapter := fun _ => rfl
        vpnThread := fun t ht => ⟨(hs.vpnThread t ht).1, rfl⟩
        udpThread := fun u hu h => ⟨(hs.udpThread u hu h).1, rfl⟩ }
    dsimp only
    split_ifs
    · have hold : ∀ u ∈ s.udpThreads, u.id ≠ s.nextId ∧ s.svrSocket ≠ some u.svrSocket :=
        fun u hu => ⟨(hs.lt_udp u hu).1.ne, fun h =>
          hnone (hs.udpThread u hu (hs.current u hu h)).2⟩
      exact { hcreated.succ with
        current := fun u hu h => by
          rcases List.mem_cons.mp hu with rfl | hu
          · rfl
          · exact absurd h (hold u hu).2
        udpThread := fun u hu h => by
          rcases List.mem_cons.mp hu with rfl | hu
          · exact ⟨hk, rfl⟩
          · exact absurd (Option.some.inj h).symm (hold u hu).1
        lt_udp := fun u hu => by
          rcases List.mem_cons.mp hu with rfl | hu
          · exact ⟨Nat.lt_succ_self _, Nat.lt_succ_of_lt (hs.lt_socket k hk)⟩
          · exact hs.succ.lt_udp u hu
        apart := fun u hu ht => by
          rcases List.mem_cons.mp hu with rfl | hu
          · exact lt_irrefl _ (hs.lt_service _ ht)
          · exact hs.apart u hu ht }
    · exact hcreated

theorem Consistent.startThreads (hs : s.Consistent) (hnode : s.node.isSome = true) :
    s.startThreads.2.Consistent := by
  unfold Service.startThreads
  cases s.vpnThread with
  | some _ => exact hs
  | none =>
    exact { hs.succ with
      vpnThread := fun t ht => ⟨List.mem_cons.mpr (Or.inl (Option.some.inj ht).symm), hnode⟩
      lt_service := fun t ht => by
        rcases List.mem_cons.mp ht with rfl | ht
        · exact Nat.lt_succ_self _
        · exact hs.succ.lt_service t ht
      apart := fun u hu ht => by
        rcases List.mem_cons.mp ht with hid | ht
        · exact (hs.lt_udp u hu).1.ne hid
        · exact hs.apart u hu ht
      nodup := List.nodup_cons.mpr ⟨fun h => lt_irrefl _ (hs.lt_service _ h), hs.nodup⟩ }

theorem createNode_true (k : SocketId) (networkId : BitVec 64) (outcome : InitOutcome)
    (h : (s.createNode k networkId outcome).1 = true) :
    (s.createNode k networkId outcome).2.node.isSome = true := by
  unfold createNode at h ⊢
  cases hnode : s.node with
  | some node => simp [hnode]
  | none =>
    simp only [hnode] at h ⊢
    split_ifs at h ⊢
    rfl

theorem registered_createSocket (outcome : SocketOutcome) :
    (s.createSocket outcome).2.registered = s.registered := by
  unfold createSocket
  split <;> rfl

/-- The service threads that the service does not know any more. -/
def leaked (s : Service) : List ThreadId := s.serviceThreads.filter (s.vpnThread ≠ some ·)

theorem mem_leaked {t : ThreadId} : t ∈ s.leaked ↔ t ∈ s.serviceThreads ∧ s.vpnThread ≠ some t := by
  simp [leaked]

theorem leaked_createSocket (outcome : SocketOutcome) :
    (s.createSocket outcome).2.leaked = s.leaked := by
  unfold createSocket
  split <;> rfl

theorem leaked_createNode (k : SocketId) (networkId : BitVec 64) (outcome : InitOutcome) :
    (s.createNode k networkId outcome).2.leaked = s.leaked := by
  unfold createNode
  split
  · rfl
  · dsimp only
    split_ifs <;> rfl

theorem leaked_joinNetwork (networkId : BitVec 64) (result : ResultCode) :
    (s.joinNetwork networkId result).leaked = s.leaked := by
  unfold joinNetwork
  split <;> rfl

/-- A new thread is known to the service. -/
theorem leaked_startThreads (hs : s.Consistent) : s.startThreads.2.leaked = s.leaked := by
  unfold startThreads
  cases hvpn : s.vpnThread with
  | some t => rfl
  | none =>
    have hall : s.leaked = s.serviceThreads := by simp [leaked, hvpn]
    rw [hall, leaked]
    dsimp only
    rw [List.filter_cons_of_neg (by simp), List.filter_eq_self]
    intro t ht
    simpa using (hs.lt_service t ht).ne'

theorem Consistent.startLocked (hs : s.Consistent) (hregistered : s.registered = true)
    (networkId : BitVec 64) (c : StartCommand) :
    (s.startLocked networkId c).2.Consistent ∧ (s.startLocked networkId c).2.leaked = s.leaked := by
  obtain ⟨hsocket, hk⟩ := hs.createSocket c.socket
  have hreg := (registered_createSocket (s := s) c.socket).trans hregistered
  have hleaked := leaked_createSocket (s := s) c.socket
  unfold Service.startLocked
  generalize s.createSocket c.socket = created at hsocket hk hreg hleaked
  obtain ⟨_ | k, t⟩ := created
  · exact ⟨hsocket, hleaked⟩
  · have hnode := hsocket.createNode hreg (hk k rfl) networkId c.init
    have htrue := createNode_true (s := t) k networkId c.init
    have hleaked' := (leaked_createNode (s := t) k networkId c.init).trans hleaked
    dsimp only
    generalize t.createNode k networkId c.init = created at hnode htrue hleaked'
    obtain ⟨_ | _, t'⟩ := created
    · exact ⟨hnode, hleaked'⟩
    · exact ⟨hnode.startThreads (htrue rfl), (leaked_startThreads hnode).trans hleaked'⟩

theorem Consistent.withNode (hs : s.Consistent) (hnode : s.node.isSome = true) (node : Node) :
    Consistent { s with node := some node } :=
  { hs with
    registered := fun _ => hs.registered hnode
    svrSocket := fun _ => hs.svrSocket hnode
    adapter := fun _ => hs.adapter hnode
    vpnThread := fun t ht => ⟨(hs.vpnThread t ht).1, rfl⟩
    udpThread := fun u hu h => ⟨(hs.udpThread u hu h).1, rfl⟩ }

theorem Consistent.joinNetwork (hs : s.Consistent) (networkId : BitVec 64) (result : ResultCode) :
    (s.joinNetwork networkId result).Consistent := by
  unfold Service.joinNetwork
  split
  · rename_i node hnode
    exact hs.withNode (by simp [hnode]) _
  · exact hs

/-- The fields that `onStartCommand` sets before it starts anything. -/
def prepared (s : Service) (registered : Bool) (networkId : BitVec 64) (disableIPv6 : Bool) :
    Service :=
  { s with registered := registered, networkId := networkId, disableIPv6 := disableIPv6 }

/-- A start is refused before it has started anything, or it gets to the socket. -/
theorem onStartCommand_cases (s : Service) (c : StartCommand) :
    (∃ registered networkId disableIPv6, (s.registered = true → registered = true) ∧
      (s.onStartCommand c).1 ≠ .sticky ∧
      (s.onStartCommand c).2 = s.prepared registered networkId disableIPv6) ∨
    ∃ networkId, s.onStartCommand c =
      match (s.prepared true networkId c.disableIPv6).startLocked networkId c with
      | (true, t) => (.sticky, t.joinNetwork networkId c.join)
      | (false, t) => (.notSticky, t) := by
  unfold onStartCommand
  by_cases hid : c.startId = 3
  · rw [if_pos hid]
    exact Or.inl ⟨_, _, _, id, by simp, rfl⟩
  rw [if_neg hid]
  cases c.intent with
  | none => exact Or.inl ⟨_, _, _, id, by simp, rfl⟩
  | some extra =>
    dsimp only
    cases hnetworkId : c.networkId extra with
    | error result => exact Or.inl ⟨true, _, _, fun _ => rfl, c.networkId_ne_sticky hnetworkId, rfl⟩
    | ok networkId =>
      dsimp only
      split_ifs
      · exact Or.inl ⟨true, _, _, fun _ => rfl, by simp, rfl⟩
      · exact Or.inr ⟨networkId, rfl⟩
      · exact Or.inl ⟨true, _, _, fun _ => rfl, by simp, rfl⟩

theorem Consistent.prepared (hs : s.Consistent) {registered : Bool}
    (hregistered : s.registered = true → registered = true) (networkId : BitVec 64)
    (disableIPv6 : Bool) : (s.prepared registered networkId disableIPv6).Consistent :=
  { hs with registered := fun h => hregistered (hs.registered h) }

theorem Consistent.onStartCommand (hs : s.Consistent) (c : StartCommand) :
    (s.onStartCommand c).2.Consistent ∧ (s.onStartCommand c).2.leaked = s.leaked := by
  rcases onStartCommand_cases s c with
    ⟨registered, networkId, disableIPv6, hregistered, -, heq⟩ | ⟨networkId, heq⟩
  · rw [heq]
    exact ⟨hs.prepared hregistered networkId disableIPv6, rfl⟩
  · obtain ⟨hlocked, hleaked⟩ :=
      (hs.prepared (fun _ => rfl) networkId c.disableIPv6).startLocked rfl networkId c
    rw [heq]
    revert hlocked hleaked
    cases Service.startLocked _ networkId c with
    | mk started t =>
      intro hlocked hleaked
      cases started with
      | true =>
        exact ⟨hlocked.joinNetwork networkId c.join,
          (leaked_joinNetwork networkId c.join).trans hleaked⟩
      | false => exact ⟨hlocked, hleaked⟩

theorem Consistent.erase (hs : s.Consistent) (u : UdpThread) :
    Consistent { s with udpThreads := s.udpThreads.erase u } :=
  { hs with
    current := fun u' hu' => hs.current u' (List.mem_of_mem_erase hu')
    udpThread := fun u' hu' => hs.udpThread u' (List.mem_of_mem_erase hu')
    lt_udp := fun u' hu' => hs.lt_udp u' (List.mem_of_mem_erase hu')
    apart := fun u' hu' => hs.apart u' (List.mem_of_mem_erase hu') }

theorem Consistent.withDeadline (hs : s.Consistent) (deadline : ℕ) :
    Consistent { s with nextBackgroundTaskDeadline := deadline } :=
  { hs with }

theorem Consistent.receive (hs : s.Consistent) (u : UdpThread) (received : Received) :
    (s.receive u received).Consistent := by
  unfold Service.receive
  split_ifs
  · cases received with
    | timeout => exact hs
    | exception => exact hs.erase u
    | datagram length processWirePacket deadline =>
      dsimp only
      split_ifs
      · exact hs
      · exact hs.withDeadline deadline
      · exact (hs.stopZeroTier _).withDeadline deadline
  · exact hs.erase u
  · exact hs

theorem Consistent.run (hs : s.Consistent) (t : ThreadId) (currentTime : ℕ)
    (taskResult : ResultCode) (newDeadline : ℕ) :
    (s.run t currentTime taskResult newDeadline).Consistent := by
  unfold Service.run
  split_ifs
  · exact hs.withDeadline newDeadline
  · exact (hs.withDeadline newDeadline).stopZeroTier _
  · exact hs

theorem Consistent.leaveNetwork (hs : s.Consistent) (networkId : BitVec 64)
    (result : ResultCode) : (s.leaveNetwork networkId result).Consistent := by
  unfold Service.leaveNetwork
  split
  · rename_i node hnode
    have hs' := hs.withNode (by simp [hnode]) ⟨node.joined.filter (· ≠ networkId)⟩
    dsimp only
    split_ifs
    · exact hs'.stopZeroTier none
    · exact hs'
  · exact hs

/-- Neither half of `updateTunnelConfig` touches the node, the sockets or the threads, and the
adapter stays on its network. -/
def Retunes (s t : Service) : Prop :=
  ∃ adapter vpnSocket v4 v6 configuring,
    adapter.map Adapter.networkId = s.tunTapAdapter.map Adapter.networkId ∧ t = { s with
      tunTapAdapter := adapter
      vpnSocket := vpnSocket
      v4MulticastScanner := v4
      v6MulticastScanner := v6
      configuring := configuring }

theorem retunes_prepareTunnel (s : Service) (goesOn : Bool) :
    Retunes s (s.prepareTunnel goesOn) := by
  unfold Service.prepareTunnel
  split
  · exact ⟨_, _, _, _, _, rfl, rfl⟩
  · next hadapter =>
    have hsame : ∀ adapter : Adapter, s.tunTapAdapter = some adapter →
        (some { adapter with isRunning := false }).map Adapter.networkId =
          s.tunTapAdapter.map Adapter.networkId := fun _ h => by rw [h]; rfl
    dsimp only
    split_ifs <;> exact ⟨_, _, _, _, _, hsame _ hadapter, rfl⟩

theorem retunes_establishTunnel (s : Service) (legacy : Bool) (outcome : EstablishOutcome) :
    Retunes s (s.establishTunnel legacy outcome) := by
  unfold Service.establishTunnel
  by_cases hnone : s.configuring = 0
  · rw [if_pos hnone]
    exact ⟨_, _, _, _, _, rfl, rfl⟩
  · rw [if_neg hnone]
    dsimp only
    split
    · exact ⟨_, _, _, _, _, rfl, rfl⟩
    · exact ⟨_, _, _, _, _, rfl, rfl⟩
    · exact ⟨_, _, _, _, _, rfl, rfl⟩
    · next hadapter => exact ⟨_, _, _, _, _, by rw [hadapter]; rfl, rfl⟩

theorem Consistent.retunes (hs : s.Consistent) {t : Service} (h : Retunes s t) :
    t.Consistent := by
  obtain ⟨adapter, vpnSocket, v4, v6, configuring, hadapter, rfl⟩ := h
  refine { hs with adapter := fun hnode => ?_ }
  have hsome := congrArg Option.isSome hadapter
  rw [Option.isSome_map, Option.isSome_map] at hsome
  exact hsome.trans (hs.adapter hnode)

theorem Consistent.step (hs : s.Consistent) (e : Event) : (s.step e).Consistent := by
  cases e with
  | start c => exact (hs.onStartCommand c).1
  | stopEvent =>
    unfold Service.step
    split_ifs
    · exact hs.stopZeroTier none
    · exact hs
  | halt => exact hs.stopZeroTier none
  | leave networkId result => exact hs.leaveNetwork networkId result
  | run t currentTime taskResult newDeadline => exact hs.run t currentTime taskResult newDeadline
  | receive u received => exact hs.receive u received
  | prepareTunnel goesOn => exact hs.retunes (retunes_prepareTunnel s goesOn)
  | establishTunnel legacy outcome => exact hs.retunes (retunes_establishTunnel s legacy outcome)
  | adapterEnds => exact { hs with adapter := fun h => by simpa [Service.step] using hs.adapter h }

theorem consistent_foldl (events : List Event) : (events.foldl step initial).Consistent :=
  (Run.throughout_of_step (fun _ e hs => hs.step e) events consistent_initial).last

end Steps

/-! ### After a stop -/

/-- Nothing is left of a run of the service but threads on their way out, and no tunnel is about
to be opened. -/
structure Stopped : Prop where
  node : s.node = none
  svrSocket : s.svrSocket = none
  opened : s.opened = []
  vpnThread : s.vpnThread = none
  vpnSocket : s.vpnSocket = false
  registered : s.registered = false
  scanners : s.v4MulticastScanner = none ∧ s.v6MulticastScanner = none
  isRunning : ∀ a, s.tunTapAdapter = some a → a.isRunning = false
  configuring : s.configuring = 0

/-- The service has a node for this network, with both threads. -/
structure Running (nwid : BitVec 64) : Prop where
  node : s.node = some ⟨[nwid]⟩
  networkId : s.networkId = nwid
  adapter : s.tunTapAdapter = some ⟨nwid, false⟩
  registered : s.registered = true
  udpAlive : s.UdpAlive
  vpnThread : ∃ t ∈ s.serviceThreads, s.vpnThread = some t

section Restart

variable {s}

theorem configuring_stopZeroTier (hs : s.Consistent) (self : Option ThreadId) :
    (s.stopZeroTier self).configuring = s.configuring := by
  rw [stopZeroTier_eq hs]

theorem stopped_stopZeroTier (hs : s.Consistent) (self : Option ThreadId)
    (hconfiguring : s.configuring = 0) : (s.stopZeroTier self).Stopped := by
  rw [stopZeroTier_eq hs]
  refine ⟨rfl, rfl, rfl, rfl, rfl, rfl, ⟨rfl, rfl⟩, fun a ha => ?_, hconfiguring⟩
  simpa using (Option.filter_eq_some_iff.mp ha).2

theorem Stopped.step (h : s.Stopped) (hs : s.Consistent) {e : Event} (he : ∀ c, e ≠ .start c) :
    (s.step e).Stopped := by
  cases e with
  | start c => exact absurd rfl (he c)
  | stopEvent => simpa [Service.step, h.registered] using h
  | halt => exact stopped_stopZeroTier hs none h.configuring
  | leave networkId result => simpa [Service.step, leaveNetwork, h.node] using h
  | run t currentTime taskResult newDeadline => simpa [Service.step, run, h.node] using h
  | receive u received =>
    have hclosed : u.svrSocket ∉ s.opened := by simp [h.opened]
    unfold Service.step receive
    dsimp only
    rw [if_neg hclosed]
    split_ifs
    · exact { h with }
    · exact h
  | prepareTunnel goesOn =>
    unfold Service.step prepareTunnel
    cases s.tunTapAdapter with
    | none => exact h
    | some adapter =>
      dsimp only
      rw [if_neg (by simp [h.node])]
      exact { h with vpnSocket := rfl, isRunning := fun a ha => by rw [← Option.some.inj ha] }
  | establishTunnel legacy outcome => simpa [Service.step, establishTunnel, h.configuring] using h
  | adapterEnds =>
    refine { h with isRunning := fun a ha => ?_ }
    obtain ⟨a', -, rfl⟩ := Option.map_eq_some_iff.mp ha
    rfl

end Restart

end Service

/-- A command for this network that nothing stands in the way of. -/
structure StartCommand.Succeeds (c : StartCommand) (nwid : BitVec 64) : Prop where
  startId : c.startId ≠ 3
  networkId : ∃ extra, c.intent = some extra ∧ c.networkId extra = .ok nwid
  ne_zero : nwid ≠ 0
  connected : c.Connected
  socket : c.socket = .bound
  init : c.init = .resultOk
  join : c.join = .resultOk

namespace Service

variable {s : Service}

theorem onStartCommand_of_stopped (h : s.Stopped) {c : StartCommand} {networkId : BitVec 64}
    (hc : c.Succeeds networkId) : (s.onStartCommand c).1 = .sticky ∧
      (s.onStartCommand c).2.Running networkId := by
  obtain ⟨extra, hintent, hnetworkId⟩ := hc.networkId
  have hstart : s.onStartCommand c =
      match (s.prepared true networkId c.disableIPv6).startLocked networkId c with
      | (true, t) => (.sticky, t.joinNetwork networkId c.join)
      | (false, t) => (.notSticky, t) := by
    rw [onStartCommand, if_neg hc.startId, hintent]
    dsimp only
    rw [hnetworkId]
    dsimp only
    rw [if_neg hc.ne_zero, if_pos hc.connected]
    rfl
  have hlocked : (s.prepared true networkId c.disableIPv6).startLocked networkId c =
      (true, { s with
        registered := true
        networkId := networkId
        disableIPv6 := c.disableIPv6
        svrSocket := some s.nextId
        opened := s.nextId :: s.opened
        tunTapAdapter := some ⟨networkId, false⟩
        node := some ⟨[]⟩
        udpThread := some (s.nextId + 1)
        udpThreads := ⟨s.nextId + 1, s.nextId⟩ :: s.udpThreads
        vpnThread := some (s.nextId + 2)
        serviceThreads := (s.nextId + 2) :: s.serviceThreads
        nextId := s.nextId + 3 }) := by
    simp [startLocked, prepared, createSocket, createNode, startThreads, UdpAlive, h.svrSocket,
      h.node, h.vpnThread, hc.socket, hc.init]
  rw [hstart, hlocked, hc.join]
  exact ⟨rfl, rfl, rfl, rfl, rfl, ⟨_, List.mem_cons_self, rfl⟩, ⟨_, List.mem_cons_self, rfl⟩⟩

/-- A call of `updateTunnelConfig` that is about to call `establish` opens a tunnel even if the
service has been stopped. -/
theorem vpnSocket_establishTunnel (h : s.configuring ≠ 0) (legacy : Bool) :
    (s.establishTunnel legacy .established).vpnSocket = true ∧
      (s.establishTunnel legacy .established).node = s.node := by
  unfold establishTunnel
  rw [if_neg h]
  cases s.tunTapAdapter <;> simp

/-- Whatever has happened, a stop takes everything down for good, and the next start that
nothing stands in the way of brings the service up again, unless a call of `updateTunnelConfig`
is about to call `establish`: that one opens a tunnel that belongs to no node. -/
theorem restart_after_stop (before : List Event) (self : Option ThreadId) :
    let s := (before.foldl step initial).stopZeroTier self
    ((before.foldl step initial).configuring = 0 → ∀ between : List Event,
      (∀ e ∈ between, ∀ c, e ≠ .start c) →
      let t := between.foldl step s
      t.Stopped ∧ ∀ c networkId, StartCommand.Succeeds c networkId →
        (t.onStartCommand c).1 = .sticky ∧ (t.onStartCommand c).2.Running networkId) ∧
    ((before.foldl step initial).configuring ≠ 0 → ∀ legacy,
      let t := s.step (.establishTunnel legacy .established)
      t.vpnSocket = true ∧ t.node = none) := by
  intro s
  have hs := consistent_foldl before
  constructor
  · intro hconfiguring between hbetween
    have hrun : Run.Throughout step (fun s => s.Consistent ∧ s.Stopped) s between :=
      Run.throughout_of_forall (fun _ e h he => ⟨h.1.step e, h.2.step h.1 he⟩)
        ⟨hs.stopZeroTier self, stopped_stopZeroTier hs self hconfiguring⟩ hbetween
    exact ⟨hrun.last.2, fun c networkId hc => onStartCommand_of_stopped hrun.last.2 hc⟩
  · intro hconfiguring legacy
    have hstill : s.configuring ≠ 0 := by
      rw [configuring_stopZeroTier hs]
      exact hconfiguring
    exact vpnSocket_establishTunnel hstill legacy

/-- A start by the user, over Wi-Fi. -/
def userStart (networkId : BitVec 64) : StartCommand where
  startId := 1
  intent := some (some networkId)
  lastActivatedNetworks := []
  currentNetworkInfo := .other
  useCellularData := false
  disableIPv6 := false
  socket := .bound
  init := .resultOk
  join := .resultOk

theorem succeeds_userStart : (userStart 7).Succeeds 7 :=
  ⟨by decide, ⟨_, rfl, rfl⟩, by decide, by decide, rfl, rfl, rfl⟩

theorem restart_after_stop_userStart :
    let s := [Event.halt].foldl step
      (([Event.start (userStart 5)].foldl step initial).stopZeroTier (some 2))
    s.Stopped ∧ (s.onStartCommand (userStart 7)).1 = .sticky ∧
      (s.onStartCommand (userStart 7)).2.Running 7 := by
  have hhalt : ∀ e ∈ [Event.halt], ∀ c, e ≠ .start c :=
    List.forall_mem_singleton.mpr fun _ h => nomatch h
  have hstop := (restart_after_stop [.start (userStart 5)] (some 2)).1 rfl [.halt] hhalt
  exact ⟨hstop.1, hstop.2 _ _ succeeds_userStart⟩

/-! ### Until a stop -/

def joined (s : Service) : List (BitVec 64) := (s.node.map (·.joined)).getD []

/-- What a step does while there is a node: the adapter stays on its network, a UDP thread that
has ended is not replaced, and without one no network is joined. -/
structure Continues (s t : Service) : Prop where
  adapter : t.tunTapAdapter.map (·.networkId) = s.tunTapAdapter.map (·.networkId)
  udpAlive : t.UdpAlive → s.UdpAlive
  joined : ¬ s.UdpAlive → ∀ n ∈ t.joined, n ∈ s.joined

theorem Continues.refl (s : Service) : Continues s s := ⟨rfl, id, fun _ _ h => h⟩

theorem Continues.trans {t u : Service} (h : Continues s t) (h' : Continues t u) :
    Continues s u where
  adapter := h'.adapter.trans h.adapter
  udpAlive hu := h.udpAlive (h'.udpAlive hu)
  joined hs n hn := h.joined hs n (h'.joined (fun ht => hs (h.udpAlive ht)) n hn)

theorem startLocked_of_node (hs : s.Consistent) (hnode : s.node.isSome = true)
    (networkId : BitVec 64) (c : StartCommand) : s.startLocked networkId c = s.startThreads := by
  obtain ⟨k, hk⟩ := Option.isSome_iff_exists.mp (hs.svrSocket hnode)
  obtain ⟨node, hnode⟩ := Option.isSome_iff_exists.mp hnode
  simp [startLocked, createSocket, createNode, hk, hnode]

theorem startThreads_eq (s : Service) :
    ∃ vpnThread serviceThreads nextId, s.startThreads = (decide s.UdpAlive, { s with
      vpnThread := vpnThread, serviceThreads := serviceThreads, nextId := nextId }) := by
  unfold startThreads
  cases s.vpnThread with
  | some t => exact ⟨_, _, _, rfl⟩
  | none => exact ⟨_, _, _, rfl⟩

/-- With a node, a start succeeds only if the UDP thread is alive. -/
theorem onStartCommand_of_node (hs : s.Consistent) (hnode : s.node.isSome = true)
    (c : StartCommand) :
    Continues s (s.onStartCommand c).2 ∧ ((s.onStartCommand c).1 = .sticky → s.UdpAlive) := by
  rcases onStartCommand_cases s c with
    ⟨registered, networkId, disableIPv6, -, hrefused, heq⟩ | ⟨networkId, heq⟩
  · rw [heq]
    exact ⟨⟨rfl, id, fun _ _ h => h⟩, fun h => absurd h hrefused⟩
  · have hprepared := hs.prepared (fun _ => rfl) networkId c.disableIPv6
    obtain ⟨vpnThread, serviceThreads, nextId, hthreads⟩ :=
      startThreads_eq (s.prepared true networkId c.disableIPv6)
    rw [heq, startLocked_of_node hprepared hnode, hthreads]
    by_cases halive : (s.prepared true networkId c.disableIPv6).UdpAlive
    · rw [decide_eq_true halive]
      refine ⟨⟨?_, fun _ => halive, fun h => absurd halive h⟩, fun _ => halive⟩
      unfold joinNetwork
      dsimp only
      split <;> rfl
    · rw [decide_eq_false halive]
      exact ⟨⟨rfl, id, fun _ _ h => h⟩, fun h => nomatch h⟩

theorem continues_erase (s : Service) (u : UdpThread) :
    Continues s { s with udpThreads := s.udpThreads.erase u } :=
  ⟨rfl, fun ⟨u', hu', h⟩ => ⟨u', List.mem_of_mem_erase hu', h⟩, fun _ _ h => h⟩

theorem continues_of_retunes {t : Service} (h : Retunes s t) : Continues s t := by
  obtain ⟨adapter, vpnSocket, v4, v6, configuring, hadapter, rfl⟩ := h
  exact ⟨hadapter, id, fun _ _ h => h⟩

theorem step_continues (hs : s.Consistent) (hnode : s.node.isSome = true) {e : Event}
    (he : (s.step e).node.isSome = true) : Continues s (s.step e) := by
  cases e with
  | start c => exact (onStartCommand_of_node hs hnode c).1
  | stopEvent =>
    unfold step at he ⊢
    dsimp only at he ⊢
    split_ifs at he ⊢
    · exact nomatch he
    · exact Continues.refl s
  | halt => exact nomatch he
  | leave networkId result =>
    unfold step leaveNetwork at he ⊢
    cases hsome : s.node with
    | none => exact Continues.refl s
    | some node =>
      cases result with
      | failure => exact Continues.refl s
      | resultOk =>
        simp only [hsome] at he ⊢
        split_ifs at he ⊢
        · exact nomatch he
        · refine ⟨rfl, id, fun _ n hn => ?_⟩
          rw [joined, hsome]
          exact List.mem_of_mem_filter hn
  | run t currentTime taskResult newDeadline =>
    unfold step run at he ⊢
    dsimp only at he ⊢
    split_ifs at he ⊢
    · exact ⟨rfl, id, fun _ _ h => h⟩
    · exact nomatch he
    · exact Continues.refl s
  | receive u received =>
    unfold step receive at he ⊢
    dsimp only at he ⊢
    split_ifs at he ⊢
    · cases received with
      | timeout => exact Continues.refl s
      | exception => exact continues_erase s u
      | datagram length processWirePacket deadline =>
        dsimp only at he ⊢
        split_ifs at he ⊢
        · exact Continues.refl s
        · exact ⟨rfl, id, fun _ _ h => h⟩
        · exact nomatch he
    · exact continues_erase s u
    · exact Continues.refl s
  | prepareTunnel goesOn => exact continues_of_retunes (retunes_prepareTunnel s goesOn)
  | establishTunnel legacy outcome =>
    exact continues_of_retunes (retunes_establishTunnel s legacy outcome)
  | adapterEnds =>
    refine ⟨?_, id, fun _ _ h => h⟩
    cases h : s.tunTapAdapter <;> simp [step, h]

/-- The step leaves a node. -/
def KeepsNode (s : Service) (e : Event) : Prop := (s.step e).node.isSome = true

theorem throughout_continues (hs : s.Consistent) (hnode : s.node.isSome = true)
    {events : List Event} (hevents : Run.Along step KeepsNode s events) :
    Run.Throughout step (fun t => t.Consistent ∧ t.node.isSome = true ∧ Continues s t) s events :=
  Run.throughout_of_along
    (fun _ e h he => ⟨h.1.step e, he, h.2.2.trans (step_continues h.1 h.2.1 he)⟩)
    ⟨hs, hnode, Continues.refl s⟩ hevents

/-- As long as there is a node, the adapter stays on the network it was made for, whatever
networks are started. -/
theorem throughout_adapter_networkId (before : List Event)
    (hnode : (before.foldl step initial).node.isSome = true) {events : List Event}
    (hevents : Run.Along step KeepsNode (before.foldl step initial) events) :
    Run.Throughout step
      (fun t => t.tunTapAdapter.map (·.networkId) =
        (before.foldl step initial).tunTapAdapter.map (·.networkId))
      (before.foldl step initial) events :=
  (throughout_continues (consistent_foldl before) hnode hevents).mono fun _ h => h.2.2.adapter

theorem throughout_adapter_networkId_userStart :
    Run.Throughout step
      (fun t => t.tunTapAdapter.map (·.networkId) =
        ([Event.start (userStart 5)].foldl step initial).tunTapAdapter.map (·.networkId))
      ([Event.start (userStart 5)].foldl step initial) [.start (userStart 7)] :=
  throughout_adapter_networkId [.start (userStart 5)] rfl ⟨rfl, trivial⟩

/-- Once the UDP thread of a node has ended, or has never been started because the node could
not be initialised, no start succeeds and no network is joined until the node is taken down. -/
theorem throughout_refused (before : List Event)
    (hnode : (before.foldl step initial).node.isSome = true)
    (hdead : ¬ (before.foldl step initial).UdpAlive) {events : List Event}
    (hevents : Run.Along step KeepsNode (before.foldl step initial) events) :
    Run.Throughout step
      (fun t => (∀ c, (t.onStartCommand c).1 ≠ .sticky) ∧
        ∀ n ∈ t.joined, n ∈ (before.foldl step initial).joined)
      (before.foldl step initial) events := by
  refine (throughout_continues (consistent_foldl before) hnode hevents).mono ?_
  rintro t ⟨ht, htnode, hcontinues⟩
  refine ⟨fun c hsticky => hdead (hcontinues.udpAlive ?_), hcontinues.joined hdead⟩
  exact (onStartCommand_of_node ht htnode c).2 hsticky

theorem throughout_refused_exception :
    Run.Throughout step
      (fun t => (∀ c, (t.onStartCommand c).1 ≠ .sticky) ∧ ∀ n ∈ t.joined, n ∈
        ([Event.start (userStart 5), .receive ⟨1, 0⟩ .exception].foldl step initial).joined)
      ([Event.start (userStart 5), .receive ⟨1, 0⟩ .exception].foldl step initial)
      [.start (userStart 7)] :=
  throughout_refused [.start (userStart 5), .receive ⟨1, 0⟩ .exception] rfl (by decide)
    ⟨rfl, trivial⟩

/-! ### Threads that nothing stops -/

/-- The service thread itself takes the service down, as its tasks have failed. -/
def ShutsDown (t : ThreadId) (s : Service) (e : Event) : Prop :=
  s.vpnThread = some t ∧ ∃ currentTime taskResult newDeadline,
    e = .run t currentTime taskResult newDeadline ∧
    s.nextBackgroundTaskDeadline ≤ currentTime ∧ taskResult ≠ .resultOk

theorem mem_leaked_stopZeroTier (hs : s.Consistent) (self : Option ThreadId) {t : ThreadId} :
    t ∈ (s.stopZeroTier self).leaked ↔ t ∈ s.leaked ∨ (s.vpnThread = some t ∧ self = some t) := by
  rw [mem_leaked, mem_leaked, stopZeroTier_eq hs]
  simp only [List.mem_filter, decide_eq_true_eq, ne_eq, reduceCtorEq, not_false_eq_true, and_true]
  constructor
  · rintro ⟨ht, hne | hself⟩
    · exact Or.inl ⟨ht, hne⟩
    · by_cases hvpn : s.vpnThread = some t
      · exact Or.inr ⟨hvpn, hself⟩
      · exact Or.inl ⟨ht, hvpn⟩
  · rintro (⟨ht, hne⟩ | ⟨hvpn, hself⟩)
    · exact ⟨ht, Or.inl hne⟩
    · exact ⟨(hs.vpnThread t hvpn).1, Or.inr hself⟩

theorem mem_leaked_receive (hs : s.Consistent) (u : UdpThread) (received : Received)
    (t : ThreadId) : t ∈ (s.receive u received).leaked ↔ t ∈ s.leaked := by
  unfold receive
  split_ifs with hu
  · cases received with
    | timeout => rfl
    | exception => rfl
    | datagram length processWirePacket deadline =>
      dsimp only
      split_ifs
      · rfl
      · rfl
      · -- the UDP thread is not the service thread
        have hapart : ¬ (s.vpnThread = some t ∧ some u.id = some t) := by
          rintro ⟨hvpn, hid⟩
          rw [← hid] at hvpn
          exact hs.apart u hu (hs.vpnThread u.id hvpn).1
        exact (mem_leaked_stopZeroTier hs (some u.id)).trans (or_iff_left hapart)
  · rfl
  · rfl

theorem mem_leaked_leaveNetwork (hs : s.Consistent) (networkId : BitVec 64) (result : ResultCode)
    (t : ThreadId) : t ∈ (s.leaveNetwork networkId result).leaked ↔ t ∈ s.leaked := by
  unfold leaveNetwork
  split
  · rename_i node hnode
    have hs' := hs.withNode (by simp [hnode]) ⟨node.joined.filter (· ≠ networkId)⟩
    dsimp only
    split_ifs
    · exact (mem_leaked_stopZeroTier hs' none).trans (or_iff_left fun h => nomatch h.2)
    · rfl
  · rfl

theorem mem_leaked_run (hs : s.Consistent) (t : ThreadId) (currentTime : ℕ)
    (taskResult : ResultCode) (newDeadline : ℕ) (t' : ThreadId) :
    t' ∈ (s.run t currentTime taskResult newDeadline).leaked ↔
      t' ∈ s.leaked ∨ ShutsDown t' s (.run t currentTime taskResult newDeadline) := by
  unfold run
  split_ifs with hround hresult
  · refine (or_iff_left ?_).symm
    rintro ⟨-, _, _, _, heq, -, hne⟩
    cases heq
    exact hne hresult
  · rw [mem_leaked_stopZeroTier (hs.withDeadline newDeadline)]
    refine or_congr_right ⟨?_, ?_⟩
    · rintro ⟨hvpn, hself⟩
      cases hself
      exact ⟨hvpn, currentTime, taskResult, newDeadline, rfl, hround.2.1, hresult⟩
    · rintro ⟨hvpn, _, _, _, heq, -⟩
      cases heq
      exact ⟨hvpn, rfl⟩
  · refine (or_iff_left ?_).symm
    rintro ⟨hvpn, _, _, _, heq, hdeadline, -⟩
    cases heq
    have hthread := hs.vpnThread t hvpn
    exact hround ⟨hthread.1, hdeadline, hthread.2⟩

theorem leaked_of_retunes {t : Service} (h : Retunes s t) : t.leaked = s.leaked := by
  obtain ⟨_, _, _, _, _, -, rfl⟩ := h
  rfl

theorem mem_leaked_step (hs : s.Consistent) (e : Event) (t : ThreadId) :
    t ∈ (s.step e).leaked ↔ t ∈ s.leaked ∨ ShutsDown t s e := by
  have hstop : t ∈ (s.stopZeroTier none).leaked ↔ t ∈ s.leaked :=
    (mem_leaked_stopZeroTier hs none).trans (or_iff_left fun h => nomatch h.2)
  by_cases hrun : ∃ t' currentTime taskResult newDeadline,
      e = .run t' currentTime taskResult newDeadline
  · obtain ⟨t', currentTime, taskResult, newDeadline, rfl⟩ := hrun
    exact mem_leaked_run hs t' currentTime taskResult newDeadline t
  · rw [or_iff_left fun h => hrun ⟨t, by obtain ⟨-, a, b, c, heq, -⟩ := h; exact ⟨a, b, c, heq⟩⟩]
    cases e with
    | start c => exact iff_of_eq (congrArg (t ∈ ·) (hs.onStartCommand c).2)
    | stopEvent =>
      unfold step
      dsimp only
      split_ifs
      · exact hstop
      · rfl
    | halt => exact hstop
    | leave networkId result => exact mem_leaked_leaveNetwork hs networkId result t
    | run => exact absurd ⟨_, _, _, _, rfl⟩ hrun
    | receive u received => exact mem_leaked_receive hs u received t
    | prepareTunnel goesOn => rw [step, leaked_of_retunes (retunes_prepareTunnel s goesOn)]
    | establishTunnel legacy outcome =>
      rw [step, leaked_of_retunes (retunes_establishTunnel s legacy outcome)]
    | adapterEnds => rfl

/-- The service threads that are alive but belong to nothing are exactly those that have taken
the service down themselves. So such a thread never ends, and stays when the service is started
again. -/
theorem mem_leaked_iff (events : List Event) (t : ThreadId) :
    t ∈ (events.foldl step initial).leaked ↔
      ∃ before e after, events = before ++ e :: after ∧
        ShutsDown t (before.foldl step initial) e := by
  have hinv : ∀ (s : Service) e, s.Consistent → (s.step e).Consistent := fun _ e hs => hs.step e
  have hadds : ∀ (s : Service) e, s.Consistent →
      (t ∈ (s.step e).leaked ↔ t ∈ s.leaked ∨ ShutsDown t s e) :=
    fun _ e hs => mem_leaked_step hs e t
  have hempty : t ∉ initial.leaked := by simp [leaked, initial]
  exact (Run.foldl_iff_exists (Q := fun s => t ∈ s.leaked) hinv hadds events
    consistent_initial).trans (or_iff_right hempty)

example : ([Event.start (userStart 5), .run 2 0 .failure 0, .start (userStart 5)].foldl step
    initial).leaked = [2] := by
  decide

end Service

end XnetZt.ServiceLifecycle
