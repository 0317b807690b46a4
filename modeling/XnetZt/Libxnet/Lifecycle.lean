import XnetZt.Libxnet.Tap

/-!
# Starting and stopping libxnet

Readiness is spread over three flags. `lwip_inited` is set once, by the callback of
`tcpip_init`, and never cleared; the same callback is the only place that sets
`g_lwip_up`, which `xnet_stop` clears. A start after a stop finds lwIP initialised,
skips the callback and reports success with `g_lwip_up = 0`.
-/

namespace XnetZt.Libxnet

inductive XnetResult
  | ok
  | errArg
  | errService
  | errOp
  | errGeneral
  deriving DecidableEq

/-- The globals of `xnet_service.c` and `xnet_tap.c`. -/
structure Service where
  gRunning : Bool
  gLwipUp : Bool
  lwipInited : Bool
  registry : Registry

namespace Service

def initial : Service := ⟨false, false, false, .empty⟩

/-- `READY_CHECK()`, which every socket call starts with; `none` lets the call go on. -/
def readyCheck (s : Service) : Option XnetResult :=
  if !s.gRunning || !s.gLwipUp then some .errService else none

def tcpipInitDone (s : Service) : Service :=
  { s with lwipInited := true, gLwipUp := true, registry := s.registry.emit .stackUp }

/-- `tcpip_init` calls back once, and the caller waits for it. -/
def xnetLwipInit (s : Service) : Service :=
  if !s.lwipInited then s.tcpipInitDone else s

def xnetLwipShutdown (s : Service) : Service :=
  { s with gLwipUp := false, registry := s.registry.emit .stackDown }

/-- `hasPath` and `hasCb` say that the pointers are not `NULL`, `created` that
`pthread_create` succeeds. -/
def xnetStart (s : Service) (hasPath hasCb created : Bool) : XnetResult × Service :=
  if !hasPath || !hasCb then (.errArg, s)
  else if s.gRunning then (.errOp, s)
  else
    let s := { s with gRunning := true }.xnetLwipInit
    if !created then (.errGeneral, { s with gRunning := false }) else (.ok, s)

/-- The loop of `xnet_stop` over the live slots. -/
def teardownAll (r : Registry) : Registry :=
  (List.finRange maxTaps).foldl
    (fun r i => if i.val < r.gTapCount then r.xnetTapTeardown i else r) r

/-- `pending` are the callbacks the service thread still makes before it is joined. -/
def xnetStop (s : Service) (pending : List Registry.Event) : XnetResult × Service :=
  if !s.gRunning then (.errOp, s)
  else
    let s := { s with gRunning := false, registry := pending.foldl Registry.step s.registry }
    let s := s.xnetLwipShutdown
    let r := teardownAll s.registry
    (.ok, { s with registry := { r with gTapCount := 0, gTapCount_le := Nat.zero_le _ } })

end Service

/-! ### Runs -/

/-- What can happen: the two calls, and what the service thread does on its own. The
thread runs as long as `g_running` is set. -/
inductive Action
  | xnetStart
  | xnetStop (pending : List Registry.Event)
  | callback (e : Registry.Event)
  | threadFailure

inductive Call
  | xnetStart
  | xnetStop
  deriving DecidableEq

/-- The service with the last call and its result, and whether the thread of the last
start has failed. -/
structure Session where
  service : Service
  last : Option (Call × XnetResult)
  threadFailed : Bool

namespace Session

def initial : Session := ⟨.initial, none, false⟩

def step (m : Session) : Action → Session
  | .xnetStart =>
    let (result, service) := m.service.xnetStart true true true
    ⟨service, some (.xnetStart, result), if result = .ok then false else m.threadFailed⟩
  | .xnetStop pending =>
    let (result, service) := m.service.xnetStop pending
    ⟨service, some (.xnetStop, result), m.threadFailed⟩
  | .callback e =>
    if m.service.gRunning then
      { m with service := { m.service with registry := m.service.registry.step e } }
    else m
  | .threadFailure =>
    if m.service.gRunning then
      { m with service := { m.service with gRunning := false }, threadFailed := true }
    else m

/-- What a caller may rely on after a successful call. -/
structure FlagsCorrect (m : Session) : Prop where
  started : m.last = some (.xnetStart, .ok) → m.threadFailed = false →
    m.service.gRunning = true ∧ m.service.gLwipUp = true ∧ m.service.readyCheck = none
  stopped : m.last = some (.xnetStop, .ok) →
    m.service.gRunning = false ∧ m.service.gLwipUp = false ∧ m.service.registry.gTapCount = 0

/-- A start takes effect only before lwIP is initialised or while its flag is still up. -/
def StartsReady (m : Session) : Action → Prop
  | .xnetStart =>
    m.service.gRunning = true ∨ m.service.lwipInited = false ∨ m.service.gLwipUp = true
  | _ => True

theorem step_xnetStart_running {m : Session} (h : m.service.gRunning = true) :
    m.step .xnetStart = ⟨m.service, some (.xnetStart, .errOp), m.threadFailed⟩ := by
  simp [step, Service.xnetStart, h]

theorem step_xnetStart {m : Session} (h : m.service.gRunning = false) :
    m.step .xnetStart =
      ⟨{ m.service with gRunning := true }.xnetLwipInit, some (.xnetStart, .ok), false⟩ := by
  simp [step, Service.xnetStart, h]

theorem flagsCorrect_initial : initial.FlagsCorrect :=
  ⟨fun h => by simp [initial] at h, fun h => by simp [initial] at h⟩

theorem FlagsCorrect.step {m : Session} (h : m.FlagsCorrect) (a : Action)
    (ha : m.StartsReady a) : (m.step a).FlagsCorrect := by
  cases a with
  | xnetStart =>
    cases hr : m.service.gRunning with
    | true =>
      rw [step_xnetStart_running hr]
      exact ⟨fun hl => by simp at hl, fun hl => by simp at hl⟩
    | false =>
      rw [step_xnetStart hr]
      refine ⟨fun _ _ => ?_, fun hl => by simp at hl⟩
      rcases ha with ha | ha | ha
      · simp [hr] at ha
      · simp [Service.xnetLwipInit, Service.tcpipInitDone, Service.readyCheck, ha]
      · cases hi : m.service.lwipInited <;>
          simp [Service.xnetLwipInit, Service.tcpipInitDone, Service.readyCheck, hi, ha]
  | xnetStop pending =>
    cases hr : m.service.gRunning with
    | true =>
      refine ⟨fun hl => ?_, fun _ => ?_⟩
      · simp [Session.step, Service.xnetStop, hr] at hl
      · simp [Session.step, Service.xnetStop, hr, Service.xnetLwipShutdown]
    | false =>
      refine ⟨fun hl => ?_, fun hl => ?_⟩
      · simp [Session.step, Service.xnetStop, hr] at hl
      · simp [Session.step, Service.xnetStop, hr] at hl
  | callback e =>
    dsimp only [Session.step]
    split_ifs with hr
    · refine ⟨h.started, fun hl => ?_⟩
      have := (h.stopped hl).1
      simp [hr] at this
    · exact h
  | threadFailure =>
    dsimp only [Session.step]
    split_ifs with hr
    · refine ⟨fun _ hf => by simp at hf, fun hl => ?_⟩
      have := (h.stopped hl).1
      simp [hr] at this
    · exact h

/-- A start that finds lwIP initialised and its flag down succeeds and leaves it down. -/
theorem not_flagsCorrect_step {m : Session} (a : Action) (ha : ¬ m.StartsReady a) :
    ¬ (m.step a).FlagsCorrect := by
  cases a with
  | xnetStart =>
    obtain ⟨hr, hi, hup⟩ : m.service.gRunning = false ∧ m.service.lwipInited = true ∧
        m.service.gLwipUp = false := by
      simpa [StartsReady] using ha
    rw [step_xnetStart hr]
    intro h
    have := (h.started rfl rfl).2.1
    simp [Service.xnetLwipInit, hi, hup] at this
  | xnetStop pending => exact absurd trivial ha
  | callback e => exact absurd trivial ha
  | threadFailure => exact absurd trivial ha

/-- The flags are right through a run exactly when every start takes effect while lwIP is
not yet initialised or is still up. -/
theorem flagsCorrect_throughout_iff (actions : List Action) :
    Run.Throughout step FlagsCorrect initial actions ↔
      Run.Along step StartsReady initial actions :=
  Run.throughout_iff_along (fun _ h => h) (fun _ a h => h.step a)
    (fun _ a _ => not_flagsCorrect_step a) flagsCorrect_initial

/-- Start, stop, start: the second start succeeds and no socket call passes the gate. -/
theorem not_flagsCorrect_after_restart :
    ¬ FlagsCorrect ([.xnetStart, .xnetStop [], .xnetStart].foldl step initial) := by
  intro h
  have hup := (h.started (by decide) (by decide)).2.1
  revert hup
  decide

end Session

end XnetZt.Libxnet
