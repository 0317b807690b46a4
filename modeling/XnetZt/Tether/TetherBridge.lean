import XnetZt.Lib.Run
import XnetZt.Lib.Text
import XnetZt.Tether.NatEngine

/-!
# The state of the tether bridge

`TetherBridge` summarises two components that change on their own: the interfaces the
detector lists and the upstream network. Each callback looks at the old state and at one
of the two. The main result is that the summary is exact: the bridge is active precisely
while it is started with an interface and an upstream, and idle precisely while it is not
started. It holds for every listener of the bridge, since the listeners are called inside
`setState` and only change their own data.
-/

namespace XnetZt

/-! ### Detector and upstream -/

/-- An interface in the list of the detector. -/
structure NamedInterface extends TetherInterface where
  name : Text

/-- Interfaces of one name are equal, whatever their addresses. -/
def NamedInterface.equals (a b : NamedInterface) : Bool := a.name == b.name

structure TetherDetector where
  running : Bool
  activeInterfaces : List NamedInterface

namespace TetherDetector

def start (d : TetherDetector) : TetherDetector :=
  if d.running then d else { d with running := true }

def stop (_ : TetherDetector) : TetherDetector := ⟨false, []⟩

/-- The test of `pollLoop`: `detected` is not equal to the list the detector has. -/
def Changed (d : TetherDetector) (detected : List NamedInterface) : Prop :=
  ¬ detected.isEqv d.activeInterfaces NamedInterface.equals

instance (d : TetherDetector) (detected : List NamedInterface) : Decidable (d.Changed detected) :=
  inferInstanceAs (Decidable (¬ _))

@[simp] theorem running_start (d : TetherDetector) : d.start.running = true := by
  unfold start
  split_ifs with h
  · exact h
  · rfl

@[simp] theorem activeInterfaces_start (d : TetherDetector) :
    d.start.activeInterfaces = d.activeInterfaces := by
  unfold start
  split_ifs <;> rfl

end TetherDetector

/-- `android.net.Network` -/
structure Network where
  netId : ℕ
  deriving DecidableEq

/-- The two callbacks that are registered; the cellular one ignores capabilities. -/
inductive NetworkCallback
  | internet
  | cellular
  deriving DecidableEq

structure UpstreamSelector where
  currentNetwork : Option Network
  networkCallback : Option NetworkCallback

namespace UpstreamSelector

def start (u : UpstreamSelector) : UpstreamSelector :=
  if u.networkCallback.isSome then u else { u with networkCallback := some .internet }

def startCellularPreferred (u : UpstreamSelector) : UpstreamSelector :=
  if u.networkCallback.isSome then u else { u with networkCallback := some .cellular }

def stop (_ : UpstreamSelector) : UpstreamSelector := ⟨none, none⟩

def hasUpstream (u : UpstreamSelector) : Bool := u.currentNetwork.isSome

@[simp] theorem currentNetwork_start (u : UpstreamSelector) :
    u.start.currentNetwork = u.currentNetwork := by
  unfold start
  split_ifs <;> rfl

end UpstreamSelector

/-! ### The bridge -/

inductive TetherBridge.State
  | idle
  | detecting
  | active
  | error
  deriving DecidableEq

/-- `listening` is the data its listener works on. -/
structure TetherBridge (σ : Type*) where
  detector : TetherDetector
  upstream : UpstreamSelector
  state : TetherBridge.State
  listening : σ

namespace TetherBridge

/-- A new bridge. With the cellular preference set, `startTetherServices` registers the
cellular callback before it starts the bridge. -/
def create {σ : Type*} (cellularPreferred : Bool) (listening : σ) : TetherBridge σ :=
  let upstream : UpstreamSelector := ⟨none, none⟩
  { detector := ⟨false, []⟩
    upstream := if cellularPreferred then upstream.stop.startCellularPreferred else upstream
    state := .idle
    listening := listening }

section Events

variable {σ : Type*} (onStateChanged : State → List NamedInterface → σ → σ)

def setState (b : TetherBridge σ) (newState : State) : TetherBridge σ :=
  if b.state = newState then b
  else
    { b with
      state := newState
      listening := onStateChanged newState b.detector.activeInterfaces b.listening }

def start (b : TetherBridge σ) : TetherBridge σ :=
  if b.state ≠ .idle then b
  else
    let b := b.setState onStateChanged .detecting
    { b with detector := b.detector.start, upstream := b.upstream.start }

def stop (b : TetherBridge σ) : TetherBridge σ :=
  let b := { b with detector := b.detector.stop, upstream := b.upstream.stop }
  b.setState onStateChanged .idle

def onTetherInterfacesChanged (b : TetherBridge σ) (interfaces : List NamedInterface) :
    TetherBridge σ :=
  if interfaces = [] then
    if b.state = .active then b.setState onStateChanged .detecting else b
  else if b.upstream.hasUpstream then b.setState onStateChanged .active
  else b

def onUpstreamChanged (b : TetherBridge σ) : TetherBridge σ :=
  if b.detector.activeInterfaces ≠ [] then b.setState onStateChanged .active else b

def onUpstreamLost (b : TetherBridge σ) : TetherBridge σ :=
  if b.state = .active then b.setState onStateChanged .error else b

/-- One round of `pollLoop`. The thread ends with `running`. -/
def poll (b : TetherBridge σ) (detected : List NamedInterface) : TetherBridge σ :=
  if b.detector.running then
    if b.detector.Changed detected then
      let b := { b with detector := { b.detector with activeInterfaces := detected } }
      b.onTetherInterfacesChanged onStateChanged detected
    else b
  else b

/-- The system calls a network callback while it is registered. -/
def onAvailable (b : TetherBridge σ) (network : Network) : TetherBridge σ :=
  match b.upstream.networkCallback with
  | none => b
  | some _ =>
    let b := { b with upstream := { b.upstream with currentNetwork := some network } }
    b.onUpstreamChanged onStateChanged

def onCapabilitiesChanged (b : TetherBridge σ) (network : Network) : TetherBridge σ :=
  match b.upstream.networkCallback with
  | none => b
  | some .cellular => b
  | some .internet => { b with upstream := { b.upstream with currentNetwork := some network } }

def onLost (b : TetherBridge σ) (network : Network) : TetherBridge σ :=
  match b.upstream.networkCallback with
  | none => b
  | some _ =>
    if some network = b.upstream.currentNetwork then
      let b := { b with upstream := { b.upstream with currentNetwork := none } }
      b.onUpstreamLost onStateChanged
    else b

inductive Event
  | start
  | stop
  | poll (detected : List NamedInterface)
  | onAvailable (network : Network)
  | onCapabilitiesChanged (network : Network)
  | onLost (network : Network)

def step (b : TetherBridge σ) : Event → TetherBridge σ
  | .start => b.start onStateChanged
  | .stop => b.stop onStateChanged
  | .poll detected => b.poll onStateChanged detected
  | .onAvailable network => b.onAvailable onStateChanged network
  | .onCapabilitiesChanged network => b.onCapabilitiesChanged network
  | .onLost network => b.onLost onStateChanged network

/-! ### The state is an exact summary -/

section SetState

variable (b : TetherBridge σ) (s : State)

@[simp] theorem state_setState : (b.setState onStateChanged s).state = s := by
  unfold setState
  split_ifs with h
  · exact h
  · rfl

@[simp] theorem detector_setState : (b.setState onStateChanged s).detector = b.detector := by
  unfold setState
  split_ifs <;> rfl

@[simp] theorem upstream_setState : (b.setState onStateChanged s).upstream = b.upstream := by
  unfold setState
  split_ifs <;> rfl

end SetState

/-- Whether the bridge is started after an event. -/
def startedNow (before : Bool) : Event → Bool
  | .start => true
  | .stop => false
  | _ => before

/-- Started and not stopped since. -/
def started (events : List Event) : Bool := events.foldl startedNow false

/-- A change of capabilities is reported for the current network only. -/
def CapabilitiesOfCurrent (b : TetherBridge σ) : Event → Prop
  | .onCapabilitiesChanged network => b.upstream.currentNetwork = some network
  | _ => True

/-- What the state says, with the data of the detector it rests on. -/
structure Summarises (b : TetherBridge σ) (now : Bool) : Prop where
  active : b.state = .active ↔
    now = true ∧ b.detector.activeInterfaces ≠ [] ∧ b.upstream.hasUpstream = true
  idle : b.state = .idle ↔ now = false
  running : b.detector.running = now
  stopped : now = false → b.detector.activeInterfaces = []

theorem summarises_create (cellularPreferred : Bool) (l : σ) :
    (create cellularPreferred l).Summarises false := by
  constructor <;> simp [create]

section Step

variable {onStateChanged} {b : TetherBridge σ} {now : Bool}

theorem Summarises.start (h : b.Summarises now) : (b.start onStateChanged).Summarises true := by
  unfold TetherBridge.start
  by_cases hidle : b.state = .idle
  · have hempty := h.stopped (h.idle.mp hidle)
    rw [if_neg (not_not.mpr hidle)]
    constructor <;> simp [hempty]
  · rw [if_pos hidle]
    obtain rfl : now = true := by simpa using mt h.idle.mpr hidle
    exact h

theorem summarises_stop : (b.stop onStateChanged).Summarises false := by
  constructor <;> simp [stop, TetherDetector.stop]

/-- The state is read off the new list: with an interface and an upstream the bridge is
active whatever it was before, and without an interface an active bridge detects again. -/
theorem Summarises.poll (h : b.Summarises now) (detected : List NamedInterface) :
    (b.poll onStateChanged detected).Summarises now := by
  obtain ⟨hactive, hidle, hrunning, hstopped⟩ := h
  unfold TetherBridge.poll onTetherInterfacesChanged
  dsimp only
  split_ifs with hrun hchanged hempty hstate hup
  · constructor <;> simp_all
  · constructor <;> simp_all
  · constructor <;> simp_all
  · constructor <;> simp_all
  · exact ⟨hactive, hidle, hrunning, hstopped⟩
  · exact ⟨hactive, hidle, hrunning, hstopped⟩

theorem Summarises.onAvailable (h : b.Summarises now) (network : Network) :
    (b.onAvailable onStateChanged network).Summarises now := by
  obtain ⟨hactive, hidle, hrunning, hstopped⟩ := h
  unfold TetherBridge.onAvailable onUpstreamChanged
  split
  · exact ⟨hactive, hidle, hrunning, hstopped⟩
  · dsimp only
    split_ifs with hempty
    · constructor <;> simp_all [UpstreamSelector.hasUpstream]
    · constructor <;> simp_all [UpstreamSelector.hasUpstream]

theorem Summarises.onCapabilitiesChanged (h : b.Summarises now) {network : Network}
    (hcurrent : b.upstream.currentNetwork = some network) :
    (b.onCapabilitiesChanged network).Summarises now := by
  unfold TetherBridge.onCapabilitiesChanged
  split
  · exact h
  · exact h
  · rw [← hcurrent]
    exact h

theorem Summarises.onLost (h : b.Summarises now) (network : Network) :
    (b.onLost onStateChanged network).Summarises now := by
  obtain ⟨hactive, hidle, hrunning, hstopped⟩ := h
  unfold TetherBridge.onLost onUpstreamLost
  split
  · exact ⟨hactive, hidle, hrunning, hstopped⟩
  · dsimp only
    split_ifs with hcurrent hstate
    · constructor <;> simp_all [UpstreamSelector.hasUpstream]
    · constructor <;> simp_all [UpstreamSelector.hasUpstream]
    · exact ⟨hactive, hidle, hrunning, hstopped⟩

theorem Summarises.step (h : b.Summarises now) {e : Event} (he : b.CapabilitiesOfCurrent e) :
    (b.step onStateChanged e).Summarises (startedNow now e) := by
  cases e with
  | start => exact h.start
  | stop => exact summarises_stop
  | poll detected => exact h.poll detected
  | onAvailable network => exact h.onAvailable network
  | onCapabilitiesChanged network => exact h.onCapabilitiesChanged he
  | onLost network => exact h.onLost network

end Step

/-- The bridge is active exactly while it is started with an interface and an upstream,
and idle exactly while it is not started. -/
theorem state_eq_active_iff_and_idle_iff (cellularPreferred : Bool) (l : σ) (events : List Event)
    (h : Run.Along (step onStateChanged) CapabilitiesOfCurrent (create cellularPreferred l)
      events) :
    let b := events.foldl (step onStateChanged) (create cellularPreferred l)
    (b.state = .active ↔ started events = true ∧ b.detector.activeInterfaces ≠ [] ∧
      b.upstream.hasUpstream = true) ∧
    (b.state = .idle ↔ started events = false) := by
  have hrun : Summarises (events.foldl (step onStateChanged) (create cellularPreferred l))
      (started events) :=
    Run.foldl_simulation_of_along (fun _ _ _ hb he => hb.step he)
      (summarises_create cellularPreferred l) h
  exact ⟨hrun.active, hrun.idle⟩

end Events

/-- Capabilities of the network that became available, then the loss of another one: the
bridge is active. -/
theorem state_after_capabilities :
    let usb : NamedInterface := ⟨⟨.inet4 0xc0a82a81, 24, rfl⟩, ['r', 'n', 'd', 'i', 's', '0']⟩
    let events : List Event := [.start, .onAvailable ⟨1⟩, .onCapabilitiesChanged ⟨1⟩, .poll [usb],
      .onLost ⟨2⟩]
    let b := events.foldl (step fun _ _ (_ : Unit) => ()) (create false ())
    b.state = .active ∧
    (b.state = .active ↔ started events = true ∧ b.detector.activeInterfaces ≠ [] ∧
      b.upstream.hasUpstream = true) ∧
    (b.state = .idle ↔ started events = false) := by
  refine ⟨by decide, state_eq_active_iff_and_idle_iff _ false () _ ?_⟩
  exact ⟨trivial, trivial, rfl, trivial, trivial, trivial⟩

end TetherBridge

end XnetZt
