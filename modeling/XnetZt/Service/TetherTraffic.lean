import XnetZt.Service.TetherControl

/-!
# Which packets the L3 bridge takes

The L3 bridge remembers the subnet of an interface and lives in the adapter. Nothing
takes it out again: neither `stopTetherServices` nor the detector knows of it, and only a
later `configureTetherL3Bridge` puts another one in its place. Below, a run in which it
takes no packet but those of tether clients is characterised by two kinds of events, the
stop of the services and the changes of the list of interfaces.
-/

namespace XnetZt

open TetherBridge

/-- The source address of a packet as an `int`. -/
def sourceRaw (packet : Bytes) : BitVec 32 :=
  BitVec.ofNat 32 (BigEndian.toNat (IPv4.source packet))

/-- An address in the subnet of an interface. -/
def TetherInterface.Contains (iface : TetherInterface) (raw : BitVec 32) : Prop :=
  isInSubnet raw iface.raw iface.prefixLength = true

namespace TetherL3Bridge

/-- The subnet as an `int`. -/
def subnetRaw (b : TetherL3Bridge) : BitVec 32 :=
  BitVec.ofNat 32 (BigEndian.toNat (b.tetherSubnet.slice 0 4))

/-- A source address that the bridge takes for one of a tether client. -/
def Takes (b : TetherL3Bridge) (raw : BitVec 32) : Prop :=
  isInSubnet raw b.subnetRaw b.tetherPrefix = true

theorem takes_subnetRaw (b : TetherL3Bridge) : b.Takes b.subnetRaw := by
  simp [Takes, isInSubnet]

theorem isInTetherSubnet_iff (b : TetherL3Bridge) {packet : Bytes} (h : 16 ≤ packet.length) :
    b.isInTetherSubnet packet 12 = .ok true ↔ b.Takes (sourceRaw packet) := by
  have hread : b.isInTetherSubnet packet 12 =
      .ok (isInSubnet (sourceRaw packet) b.subnetRaw b.tetherPrefix) := by
    unfold isInTetherSubnet
    rw [if_neg (by omega), Bytes.getInt_eq_ok (by omega),
      Bytes.getInt_eq_ok (by rw [b.length_tetherSubnet])]
    rfl
  rw [hread, Except.ok.injEq, Takes]

/-- A bridge for the subnet of an interface takes the addresses of that subnet. -/
theorem takes_newL3Bridge (f : ServiceFields) (config : VirtualNetworkConfig)
    (localZtIp : {a : InetAddress // a.isInet4 = true}) (iface : TetherInterface)
    (raw : BitVec 32) :
    (Listening.newL3Bridge f config localZtIp iface).Takes raw ↔ iface.Contains raw := by
  have hsubnet : (Listening.newL3Bridge f config localZtIp iface).subnetRaw =
      iface.raw &&& subnetMask iface.prefixLength := by
    have hslice : (InetAddress.inet4 (iface.raw &&& subnetMask iface.prefixLength)).getAddress.slice
        0 4 = (InetAddress.inet4 (iface.raw &&& subnetMask iface.prefixLength)).getAddress := by
      simp [Bytes.slice]
    calc (Listening.newL3Bridge f config localZtIp iface).subnetRaw
        = BitVec.ofNat 32 (BigEndian.toNat ((InetAddress.inet4
            (iface.raw &&& subnetMask iface.prefixLength)).getAddress.slice 0 4)) := rfl
      _ = _ := by rw [hslice, InetAddress.ofNat_toNat_getAddress]
  have hlength : (Listening.newL3Bridge f config localZtIp iface).tetherPrefix =
      iface.prefixLength := rfl
  rw [Takes, TetherInterface.Contains, isInSubnet, isInSubnet, hsubnet, hlength,
    BitVec.and_assoc, BitVec.and_self]

end TetherL3Bridge

namespace TetherControl

variable {s : TetherControl}

def activeInterfaces (s : TetherControl) : List NamedInterface :=
  match s.tetherBridge with
  | none => []
  | some b => b.detector.activeInterfaces

/-- The services run, and the address is in the subnet of an interface in the list. -/
def Live (s : TetherControl) (raw : BitVec 32) : Prop :=
  s.isRunning = true ∧ ∃ iface ∈ s.activeInterfaces, iface.Contains raw

/-- The L3 bridge of the adapter rewrites the packet and hands it to the node. -/
def Injects (s : TetherControl) (node : Frame → ResultCode) (packet : Bytes) (length : ℕ) : Prop :=
  ∃ bridge frame handled, s.service.tetherL3Bridge = some bridge ∧ bridge.active = true ∧
    bridge.processOutbound node packet length = .ok (some frame, handled)

/-- Whatever is read from the tunnel, only packets of tether clients are injected. -/
def OnlyLive (s : TetherControl) : Prop :=
  ∀ (node : Frame → ResultCode) (packet : Bytes) (length : ℕ), length ≤ packet.length →
    s.Injects node packet length → s.Live (sourceRaw packet)

/-- The adapter has an L3 bridge that works. -/
def Bridges (s : TetherControl) (bridge : TetherL3Bridge) : Prop :=
  s.service.tetherL3Bridge = some bridge ∧ bridge.active = true ∧ bridge.hasNode = true

/-- A header without options. -/
def packetFrom (raw : BitVec 32) : Bytes :=
  0x45 :: List.replicate 11 0 ++ (InetAddress.inet4 raw).getAddress ++ List.replicate 4 0

theorem sourceRaw_packetFrom (raw : BitVec 32) : sourceRaw (packetFrom raw) = raw := by
  have hslice : (packetFrom raw).slice 12 4 = (InetAddress.inet4 raw).getAddress := by
    simp [packetFrom, Bytes.slice]
  rw [sourceRaw, IPv4.source, hslice, InetAddress.ofNat_toNat_getAddress]

theorem length_packetFrom (raw : BitVec 32) : (packetFrom raw).length = 20 := by
  simp [packetFrom]

/-- For every address that a working bridge takes there is a packet that it injects. -/
theorem onlyLive_iff : s.OnlyLive ↔
    ∀ bridge, s.Bridges bridge → ∀ raw, bridge.Takes raw → s.Live raw := by
  constructor
  · rintro h bridge ⟨hbridge, hactive, hnode⟩ raw htakes
    have hsource := sourceRaw_packetFrom raw
    have hlen := length_packetFrom raw
    have hi : bridge.Intercepts (packetFrom raw) 20 := by
      refine ⟨hactive, hnode, le_rfl, ?_⟩
      rw [bridge.isInTetherSubnet_iff (by omega), hsource]
      exact htakes
    rw [← hsource]
    have hlong : 20 ≤ (packetFrom raw).length := by omega
    refine h (fun _ => .resultOk) (packetFrom raw) 20 (by omega) ?_
    rcases bridge.processOutbound_cases (fun _ => .resultOk) hlong with
      ⟨hnot, -⟩ | ⟨-, -, frame, hframe⟩ | ⟨-, hlt, -⟩
    · exact absurd hi hnot
    · exact ⟨bridge, frame, _, hbridge, hactive, hframe⟩
    · exact absurd hlt (by simp [packetFrom, IPv4.headerLength])
  · rintro h node packet length hlen ⟨bridge, frame, handled, hbridge, hactive, hframe⟩
    rcases bridge.processOutbound_cases node hlen with ⟨-, hnone⟩ | ⟨hi, -⟩ | ⟨-, -, herror⟩
    · rw [hnone] at hframe
      cases hframe
    · have h20 := hi.twenty_le
      exact h bridge ⟨hbridge, hactive, hi.hasNode⟩ _
        ((bridge.isInTetherSubnet_iff (by omega)).mp hi.source)
    · rw [herror] at hframe
      cases hframe

theorem onlyLive_of_not_bridges (h : ∀ bridge, ¬ s.Bridges bridge) : s.OnlyLive :=
  onlyLive_iff.mpr fun bridge hbridge => absurd hbridge (h bridge)

/-- While the services do not run, no bridge may work at all. -/
theorem onlyLive_iff_of_not_isRunning (h : s.isRunning = false) :
    s.OnlyLive ↔ ∀ bridge, ¬ s.Bridges bridge := by
  constructor
  · intro hlive bridge hbridge
    have hrunning := (onlyLive_iff.mp hlive bridge hbridge _ bridge.takes_subnetRaw).1
    exact absurd hrunning (by simp [h])
  · exact onlyLive_of_not_bridges

/-- What `OnlyLive` rests on. -/
theorem onlyLive_congr {t : TetherControl} (hbridge : t.service.tetherL3Bridge =
    s.service.tetherL3Bridge) (hrunning : t.isRunning = s.isRunning)
    (hactive : t.activeInterfaces = s.activeInterfaces) : t.OnlyLive ↔ s.OnlyLive := by
  simp only [onlyLive_iff, Bridges, Live, hbridge, hrunning, hactive]

end TetherControl

/-! ### The L3 bridge after a notification -/

namespace Listening

/-- The L3 bridge that `configureTetherL3Bridge` sets, if it gets so far. -/
def l3For (l : Listening) (ifaces : List NamedInterface) : Option TetherL3Bridge :=
  if l.settings.socketMode ≠ .tunnel then none
  else
    match l.service.l3Parameters, ifaces with
    | some (config, localZtIp), iface :: _ =>
      some (newL3Bridge l.service config localZtIp iface.toTetherInterface)
    | _, _ => none

variable {l : Listening} {ifaces : List NamedInterface}

theorem tetherL3Bridge_configure (l : Listening) (ifaces : List NamedInterface) :
    (l.configureTetherL3Bridge ifaces).service.tetherL3Bridge =
      (l.l3For ifaces).or l.service.tetherL3Bridge := by
  unfold configureTetherL3Bridge l3For
  split_ifs
  · rfl
  · cases l.service.l3Parameters with
    | none => rfl
    | some parameters => cases ifaces <;> rfl

theorem l3For_configure (l : Listening) (ifaces : List NamedInterface) :
    (l.configureTetherL3Bridge ifaces).l3For ifaces = l.l3For ifaces := by
  unfold configureTetherL3Bridge
  split_ifs
  · rfl
  · split
    · rfl
    · cases ifaces <;> rfl

/-- The bridge that is set takes addresses of the first interface only. -/
theorem exists_contains_of_l3For {bridge : TetherL3Bridge} (h : l.l3For ifaces = some bridge)
    {raw : BitVec 32} (htakes : bridge.Takes raw) : ∃ iface ∈ ifaces, iface.Contains raw := by
  unfold l3For at h
  split_ifs at h
  split at h
  · rename_i config localZtIp iface rest hparameters
    obtain rfl := Option.some.inj h
    exact ⟨iface, List.mem_cons_self, (TetherL3Bridge.takes_newL3Bridge ..).mp htakes⟩
  · cases h

theorem l3For_nil : l.l3For [] = none := by
  unfold l3For
  split_ifs
  · rfl
  · cases l.service.l3Parameters <;> rfl

/-- Of the listeners only that of `configureTetherL3Bridge` changes the L3 bridge. -/
theorem tetherL3Bridge_onStateChanged (l : Listening) (newState : State)
    (ifaces : List NamedInterface) (listener : StateListener) :
    (l.onStateChanged newState ifaces listener).l3For ifaces = l.l3For ifaces ∧
    (l.onStateChanged newState ifaces listener).service.tetherL3Bridge =
      if newState = .active ∧ listener = .l3Bridge then
        (l.l3For ifaces).or l.service.tetherL3Bridge
      else l.service.tetherL3Bridge := by
  cases listener with
  | proxies => exact ⟨rfl, (if_neg (by simp)).symm⟩
  | l3Bridge =>
    unfold onStateChanged
    by_cases hactive : newState = .active
    · by_cases hne : ifaces = []
      · subst hne
        simp [l3For_nil]
      · rw [if_pos ⟨hactive, hne⟩, if_pos ⟨hactive, rfl⟩]
        exact ⟨l.l3For_configure ifaces, l.tetherL3Bridge_configure ifaces⟩
    · simp [hactive]

theorem tetherL3Bridge_notify (l : Listening) (newState : State) :
    (l.notify newState ifaces).service.tetherL3Bridge =
      if newState = .active ∧ .l3Bridge ∈ l.settings.stateListeners then
        (l.l3For ifaces).or l.service.tetherL3Bridge
      else l.service.tetherL3Bridge := by
  unfold notify
  generalize l.settings.stateListeners = listeners
  induction listeners generalizing l with
  | nil => simp
  | cons listener listeners ih =>
    obtain ⟨hfor, hbridge⟩ := l.tetherL3Bridge_onStateChanged newState ifaces listener
    rw [List.foldl_cons, ih, hfor, hbridge]
    by_cases hactive : newState = .active
    · cases listener <;> cases l.l3For ifaces <;> simp [hactive]
    · simp [hactive]

end Listening

/-! ### Changes of the bridge -/

namespace TetherBridge

section Moves

variable {σ : Type*} {f : State → List NamedInterface → σ → σ} {b : TetherBridge σ}

theorem setState_self : b.setState f b.state = b := if_pos rfl

/-- The state after a change of the list of interfaces. -/
def pollState (b : TetherBridge σ) (detected : List NamedInterface) : State :=
  if detected = [] then if b.state = .active then .detecting else b.state
  else if b.upstream.hasUpstream then .active
  else b.state

theorem pollState_ne_idle (h : b.state ≠ .idle) (detected : List NamedInterface) :
    b.pollState detected ≠ .idle := by
  unfold pollState
  split_ifs <;> simp [h]

theorem poll_of_changed {detected : List NamedInterface} (hrunning : b.detector.running = true)
    (hchanged : b.detector.Changed detected) :
    b.poll f detected = setState f
      { b with detector := { b.detector with activeInterfaces := detected } }
      (b.pollState detected) := by
  unfold poll onTetherInterfacesChanged pollState
  rw [if_pos hrunning, if_pos hchanged]
  dsimp only
  split_ifs
  · rfl
  · exact setState_self.symm
  · rfl
  · exact setState_self.symm

theorem poll_of_not_changed {detected : List NamedInterface}
    (h : ¬ (b.detector.running = true ∧ b.detector.Changed detected)) : b.poll f detected = b := by
  unfold poll
  split_ifs with hrunning hchanged
  · exact absurd ⟨hrunning, hchanged⟩ h
  · rfl
  · rfl

/-- What a callback of the upstream does: a new upstream, then a new state, but not `IDLE`. -/
def UpstreamMove (f : State → List NamedInterface → σ → σ) (b b' : TetherBridge σ) : Prop :=
  ∃ upstream newState, (b.state ≠ .idle → newState ≠ .idle) ∧
    b' = setState f { b with upstream := upstream } newState

theorem upstreamMove_self (upstream : UpstreamSelector) :
    UpstreamMove f b { b with upstream := upstream } :=
  ⟨upstream, b.state, fun h => h, setState_self.symm⟩

theorem upstreamMove_onAvailable (network : Network) :
    UpstreamMove f b (b.onAvailable f network) := by
  unfold onAvailable onUpstreamChanged
  split
  · exact upstreamMove_self b.upstream
  · dsimp only
    split_ifs
    · exact ⟨_, .active, fun _ => by simp, rfl⟩
    · exact upstreamMove_self _

theorem upstreamMove_onCapabilitiesChanged (network : Network) :
    UpstreamMove f b (b.onCapabilitiesChanged network) := by
  unfold onCapabilitiesChanged
  split
  · exact upstreamMove_self b.upstream
  · exact upstreamMove_self b.upstream
  · exact upstreamMove_self _

theorem upstreamMove_onLost (network : Network) : UpstreamMove f b (b.onLost f network) := by
  unfold onLost onUpstreamLost
  split
  · exact upstreamMove_self b.upstream
  · dsimp only
    split_ifs
    · exact ⟨_, .error, fun _ => by simp, rfl⟩
    · exact upstreamMove_self _
    · exact upstreamMove_self b.upstream

end Moves

end TetherBridge

namespace TetherControl

variable {s : TetherControl}

/-- The service with this bridge, and with the fields its listeners have left. -/
def ofBridge (b : TetherBridge Listening) : TetherControl :=
  ⟨some (b.mapListening Listening.settings), b.listening.service⟩

/-- The bridge of the service, as its listeners see it. -/
def seen (b : TetherBridge Settings) (service : ServiceFields) : TetherBridge Listening :=
  b.mapListening fun settings => ⟨settings, service⟩

theorem onBridge_none (h : s.tetherBridge = none)
    (op : TetherBridge Listening → TetherBridge Listening) : s.onBridge op = s := by
  simp only [onBridge, h]

theorem onBridge_some {b : TetherBridge Settings} (h : s.tetherBridge = some b)
    (op : TetherBridge Listening → TetherBridge Listening) :
    s.onBridge op = ofBridge (op (seen b s.service)) := by
  simp only [onBridge, h]
  rfl

theorem eq_ofBridge {b : TetherBridge Settings} (h : s.tetherBridge = some b) :
    s = ofBridge (seen b s.service) := by
  obtain ⟨_, service⟩ := s
  cases h
  rfl

/-- The bridge is stopped and dropped in one go. -/
def NotIdle (s : TetherControl) : Prop := ∀ b, s.tetherBridge = some b → b.state ≠ .idle

/-- What every step but two keeps. -/
structure InOrder (s : TetherControl) : Prop where
  onlyLive : s.OnlyLive
  notIdle : s.NotIdle

/-- A method of the bridge matters only if there is a bridge. -/
theorem InOrder.onBridge (h : s.InOrder) {op : TetherBridge Listening → TetherBridge Listening}
    (hop : ∀ b, s.tetherBridge = some b → (ofBridge (op (seen b s.service))).InOrder) :
    (s.onBridge op).InOrder := by
  cases hb : s.tetherBridge with
  | none =>
    rw [onBridge_none hb]
    exact h
  | some b =>
    rw [onBridge_some hb]
    exact hop b hb

theorem isRunning_ofBridge {b : TetherBridge Listening} (h : b.state ≠ .idle) :
    (ofBridge b).isRunning = true := by
  simpa [isRunning, ofBridge, mapListening] using h

theorem notIdle_ofBridge {b : TetherBridge Listening} (h : b.state ≠ .idle) :
    (ofBridge b).NotIdle := by
  rintro _ ⟨⟩
  exact h

/-- An L3 bridge that has just been set up is one for an interface in the list. -/
theorem onlyLive_of_l3For {b : TetherBridge Listening} (hstate : b.state ≠ .idle)
    {l : Listening} {bridge : TetherL3Bridge}
    (hfor : l.l3For b.detector.activeInterfaces = some bridge)
    (hset : b.listening.service.tetherL3Bridge = some bridge) : (ofBridge b).OnlyLive := by
  refine onlyLive_iff.mpr ?_
  rintro bridge' ⟨hbridge', -, -⟩ raw htakes
  obtain rfl := Option.some.inj (hset.symm.trans hbridge')
  exact ⟨isRunning_ofBridge hstate, Listening.exists_contains_of_l3For hfor htakes⟩

/-- With this state the L3 bridge is set up anew. -/
def SetsUp (b : TetherBridge Listening) (newState : State) : Prop :=
  b.state ≠ newState ∧ newState = .active ∧
    .l3Bridge ∈ b.listening.settings.stateListeners ∧
    (b.listening.l3For b.detector.activeInterfaces).isSome = true

theorem tetherL3Bridge_of_not_setsUp {b : TetherBridge Listening} {newState : State}
    (h : ¬ SetsUp b newState) :
    (b.setState Listening.notify newState).listening.service.tetherL3Bridge =
      b.listening.service.tetherL3Bridge := by
  simp only [setState]
  split_ifs with heq
  · rfl
  · rw [Listening.tetherL3Bridge_notify]
    split_ifs with hmem
    · have hnone : b.listening.l3For b.detector.activeInterfaces = none := by
        rw [← Option.not_isSome_iff_eq_none]
        exact fun hsome => h ⟨heq, hmem.1, hmem.2, hsome⟩
      rw [hnone]
      rfl
    · rfl

/-- A new state, not `IDLE`: either the L3 bridge is set up anew on the way, or the one that
there was must take addresses of the interfaces in the list only. -/
theorem onlyLive_setState_iff (b : TetherBridge Listening) {newState : State}
    (hstate : newState ≠ .idle) :
    (ofBridge (b.setState Listening.notify newState)).OnlyLive ↔
      SetsUp b newState ∨ ∀ bridge, (ofBridge b).Bridges bridge → ∀ raw, bridge.Takes raw →
        ∃ iface ∈ b.detector.activeInterfaces, iface.Contains raw := by
  have hstate' : (b.setState Listening.notify newState).state ≠ .idle := by
    rw [state_setState]
    exact hstate
  have hdetector := detector_setState Listening.notify b newState
  by_cases hnew : SetsUp b newState
  · refine iff_of_true ?_ (Or.inl hnew)
    obtain ⟨hne, rfl, hmem, hsome⟩ := hnew
    obtain ⟨bridge, hbridge⟩ := Option.isSome_iff_exists.mp hsome
    apply onlyLive_of_l3For hstate'
    · rw [hdetector]
      exact hbridge
    · simp only [setState, if_neg hne]
      rw [Listening.tetherL3Bridge_notify, if_pos ⟨rfl, hmem⟩, hbridge]
      rfl
  · have hkept := tetherL3Bridge_of_not_setsUp hnew
    have hifaces : (ofBridge (b.setState Listening.notify newState)).activeInterfaces =
        b.detector.activeInterfaces := congrArg (·.activeInterfaces) hdetector
    rw [onlyLive_iff, or_iff_right hnew]
    simp only [Live, isRunning_ofBridge hstate', hifaces, true_and]
    simp only [Bridges, ofBridge, hkept]

/-- Callbacks of the upstream leave the list, so what was right stays right. -/
theorem InOrder.of_upstreamMove (h : s.InOrder)
    {op : TetherBridge Listening → TetherBridge Listening}
    (hop : ∀ b, UpstreamMove Listening.notify b (op b)) : (s.onBridge op).InOrder := by
  apply h.onBridge
  intro b hb
  obtain ⟨upstream, newState, hne, heq⟩ := hop (seen b s.service)
  have hstate := hne (h.notIdle b hb)
  have hlive := h.onlyLive
  rw [eq_ofBridge hb] at hlive
  rw [heq]
  constructor
  · rw [onlyLive_setState_iff _ hstate]
    right
    intro bridge hbridge raw htakes
    exact (onlyLive_iff.mp hlive bridge hbridge raw htakes).2
  · apply notIdle_ofBridge
    rw [state_setState]
    exact hstate

/-! ### Start, configuration and stop -/

/-- A start changes the L3 bridge not at all, and it makes a bridge only if none runs. -/
theorem startTetherServices_cases (s : TetherControl) (tetherConfig : TetherSettings)
    (networks : List (Option Bool)) :
    (s.startTetherServices tetherConfig networks).service.tetherL3Bridge =
        s.service.tetherL3Bridge ∧
      ((s.startTetherServices tetherConfig networks).tetherBridge = s.tetherBridge ∨
        s.isRunning = false ∧ (s.startTetherServices tetherConfig networks).NotIdle) := by
  unfold startTetherServices
  dsimp only
  split_ifs with henabled hrunning
  · exact ⟨rfl, Or.inl rfl⟩
  · exact ⟨rfl, Or.inl rfl⟩
  · refine ⟨by simp [onBridge, mapListening, TetherBridge.start, setState, create,
      Listening.notify, newSettings], Or.inr ⟨by simpa using hrunning, ?_⟩⟩
    intro b hb
    simp only [onBridge, mapListening, TetherBridge.start, create, not_true_eq_false, if_false,
      state_setState, Option.some.injEq, ne_eq] at hb
    subst hb
    simp

theorem InOrder.startTetherServices (h : s.InOrder) (tetherConfig : TetherSettings)
    (networks : List (Option Bool)) : (s.startTetherServices tetherConfig networks).InOrder := by
  obtain ⟨hbridge, hsame | ⟨hrunning, hnew⟩⟩ := s.startTetherServices_cases tetherConfig networks
  · have hkept := (onlyLive_congr hbridge (by rw [isRunning, hsame]; rfl)
      (by rw [activeInterfaces, hsame]; rfl)).mpr h.onlyLive
    exact ⟨hkept, fun b hb => h.notIdle b (hsame ▸ hb)⟩
  · have hnone := (onlyLive_iff_of_not_isRunning hrunning).mp h.onlyLive
    refine ⟨onlyLive_of_not_bridges fun bridge hworks => hnone bridge ?_, hnew⟩
    exact ⟨hbridge ▸ hworks.1, hworks.2⟩

theorem InOrder.setZtRoutes (h : s.InOrder) : s.setZtRoutes.InOrder := by
  apply h.onBridge
  intro b hb
  have hlive := h.onlyLive
  rw [eq_ofBridge hb] at hlive
  exact ⟨(onlyLive_congr rfl rfl rfl).mpr hlive, notIdle_ofBridge (h.notIdle b hb)⟩

theorem InOrder.configureTetherL3Bridge (h : s.InOrder) : s.configureTetherL3Bridge.InOrder := by
  apply h.onBridge
  intro b hb
  have hset := Listening.tetherL3Bridge_configure ⟨b.listening, s.service⟩
    b.detector.activeInterfaces
  refine ⟨?_, notIdle_ofBridge (h.notIdle b hb)⟩
  cases hfor : Listening.l3For ⟨b.listening, s.service⟩ b.detector.activeInterfaces with
  | none =>
    have hlive := h.onlyLive
    rw [eq_ofBridge hb] at hlive
    rw [hfor] at hset
    apply (onlyLive_congr _ _ _).mpr hlive
    · exact hset
    · rfl
    · rfl
  | some bridge =>
    rw [hfor] at hset
    exact onlyLive_of_l3For (h.notIdle b hb) hfor hset

theorem InOrder.updateTunnelConfig (h : s.InOrder) (u : TunnelUpdate) :
    (s.updateTunnelConfig u).InOrder := by
  have hroutes : TetherControl.InOrder ⟨s.tetherBridge,
      { s.service with routeMap := u.routeMap, routeOrder := u.routeOrder }⟩ :=
    ⟨(onlyLive_congr rfl rfl rfl).mpr h.onlyLive, h.notIdle⟩
  unfold TetherControl.updateTunnelConfig
  dsimp only
  split_ifs
  · have hstarted := hroutes.startTetherServices u.tetherConfig u.networks
    exact hstarted.setZtRoutes.configureTetherL3Bridge
  · exact hroutes

theorem stopTetherServices_eq (s : TetherControl) :
    s.stopTetherServices.tetherBridge = none ∧
      s.stopTetherServices.service.tetherL3Bridge = s.service.tetherL3Bridge := by
  refine ⟨rfl, ?_⟩
  unfold stopTetherServices
  dsimp only
  cases hb : s.tetherBridge with
  | none => rw [onBridge_none rfl]
  | some b =>
    rw [onBridge_some rfl]
    -- only `ACTIVE` sets the L3 bridge up
    exact tetherL3Bridge_of_not_setsUp fun h => nomatch h.2.1

/-! ### Runs -/

/-- The new list sets the L3 bridge up anew: it makes the bridge active, and a listener for it
waits, in `TUNNEL` mode and with a config that has an IPv4 address. -/
structure Reconfigures (b : TetherBridge Listening) (detected : List NamedInterface) : Prop where
  inactive : b.state ≠ .active
  upstream : b.upstream.hasUpstream = true
  listener : .l3Bridge ∈ b.listening.settings.stateListeners
  parameters : (b.listening.l3For detected).isSome = true

/-- No L3 bridge works when the services are stopped; and when the list of interfaces
changes, the L3 bridge is set up anew or takes addresses of interfaces in the new list only. -/
def Spares (s : TetherControl) : Action → Prop
  | .stopTetherServices => ∀ bridge, ¬ s.Bridges bridge
  | .poll detected => ∀ b, s.tetherBridge = some b → b.detector.running = true →
    b.detector.Changed detected → Reconfigures (seen b s.service) detected ∨
      ∀ bridge, s.Bridges bridge → ∀ raw, bridge.Takes raw →
        ∃ iface ∈ detected, iface.Contains raw
  | _ => True

theorem reconfigures_iff (b : TetherBridge Listening) (detected : List NamedInterface) :
    Reconfigures b detected ↔
      SetsUp { b with detector := { b.detector with activeInterfaces := detected } }
        (b.pollState detected) := by
  constructor
  · rintro ⟨hinactive, hupstream, hlistener, hparameters⟩
    have hne : detected ≠ [] := by
      rintro rfl
      simp [Listening.l3For_nil] at hparameters
    have hstate : b.pollState detected = .active := by
      rw [pollState, if_neg hne, if_pos hupstream]
    rw [hstate]
    exact ⟨hinactive, rfl, hlistener, hparameters⟩
  · rintro ⟨hne, hstate, hlistener, hparameters⟩
    rw [hstate] at hne
    refine ⟨hne, ?_, hlistener, hparameters⟩
    unfold pollState at hstate
    split_ifs at hstate with hempty hcondition
    · exact absurd hstate hne
    · exact hcondition
    · exact absurd hstate hne

/-- A poll, with or without a new list. -/
theorem onlyLive_poll_iff (h : s.InOrder) (detected : List NamedInterface) :
    ((s.step (.poll detected)).OnlyLive ↔ s.Spares (.poll detected)) ∧
      (s.step (.poll detected)).NotIdle := by
  simp only [step, Spares]
  cases hb : s.tetherBridge with
  | none =>
    rw [onBridge_none hb]
    refine ⟨iff_of_true h.onlyLive ?_, h.notIdle⟩
    intro b hsome
    cases hsome
  | some b =>
    simp only [Option.some.injEq, forall_eq']
    rw [onBridge_some hb]
    by_cases hchange : b.detector.running = true ∧ b.detector.Changed detected
    · obtain ⟨hrunning, hchanged⟩ := hchange
      have hstate := pollState_ne_idle (b := seen b s.service) (h.notIdle b hb) detected
      rw [poll_of_changed (b := seen b s.service) hrunning hchanged]
      constructor
      · rw [onlyLive_setState_iff _ hstate, reconfigures_iff]
        constructor
        · intro hspares _ _
          rwa [eq_ofBridge hb]
        · intro hspares
          have hnow := hspares hrunning hchanged
          rwa [eq_ofBridge hb] at hnow
      · apply notIdle_ofBridge
        rw [state_setState]
        exact hstate
    · rw [poll_of_not_changed (b := seen b s.service) hchange, ← eq_ofBridge hb]
      refine ⟨iff_of_true h.onlyLive ?_, h.notIdle⟩
      exact fun hrunning hchanged => absurd ⟨hrunning, hchanged⟩ hchange

/-- One step: the two events that can leave an L3 bridge behind, and all others. -/
theorem onlyLive_step_iff (h : s.InOrder) (a : Action) :
    ((s.step a).OnlyLive ↔ s.Spares a) ∧ (s.step a).NotIdle := by
  have hkeep : ∀ {t : TetherControl}, t.InOrder → (t.OnlyLive ↔ True) ∧ t.NotIdle :=
    fun ht => ⟨iff_true_intro ht.onlyLive, ht.notIdle⟩
  cases a with
  | updateTunnelConfig u => exact hkeep (h.updateTunnelConfig u)
  | startTetherServices tetherConfig networks =>
    exact hkeep (h.startTetherServices tetherConfig networks)
  | configureTetherL3Bridge => exact hkeep h.configureTetherL3Bridge
  | stopTetherServices =>
    obtain ⟨hnone, hbridge⟩ := s.stopTetherServices_eq
    refine ⟨?_, fun b hb => by simp [step, hnone] at hb⟩
    have hstopped : (s.step .stopTetherServices).isRunning = false := by
      rw [step, isRunning, hnone]
    rw [onlyLive_iff_of_not_isRunning hstopped]
    simp only [Bridges, Spares, step, hbridge]
  | setVirtualNetworkConfig networkId config =>
    exact hkeep ⟨(onlyLive_congr rfl rfl rfl).mpr h.onlyLive, h.notIdle⟩
  | poll detected => exact onlyLive_poll_iff h detected
  | onAvailable network =>
    exact hkeep (h.of_upstreamMove fun _ => upstreamMove_onAvailable network)
  | onCapabilitiesChanged network =>
    exact hkeep (h.of_upstreamMove fun _ => upstreamMove_onCapabilitiesChanged network)
  | onLost network => exact hkeep (h.of_upstreamMove fun _ => upstreamMove_onLost network)

/-- The service before its first tether services, with whatever fields it has. -/
def before (service : ServiceFields) : TetherControl :=
  ⟨none, { service with tetherL3Bridge := none }⟩

/-- The L3 bridge takes packets of tether clients only, in every state of a run, exactly if
no event leaves it behind. -/
theorem throughout_onlyLive_iff (service : ServiceFields) (actions : List Action) :
    Run.Throughout step OnlyLive (before service) actions ↔
      Run.Along step Spares (before service) actions := by
  have hidle : (before service).NotIdle := by
    intro b hsome
    cases hsome
  have hlive : (before service).OnlyLive := onlyLive_of_not_bridges fun _ h => nomatch h.1
  exact Run.throughout_iff_along_of_step_iff
    (fun _ a hidle h => (onlyLive_step_iff ⟨h, hidle⟩ a).2)
    (fun _ a hidle h => (onlyLive_step_iff ⟨h, hidle⟩ a).1) actions hidle hlive

/-- A network with the address `10.147.17.5/24`. -/
def homeConfig : VirtualNetworkConfig := ⟨1, 2, [⟨.inet4 0x0a931105, 24⟩], []⟩

/-- `192.168.42.129/24` on the USB interface. -/
def usb : NamedInterface := ⟨⟨.inet4 0xc0a82a81, 24, rfl⟩, ['r', 'n', 'd', 'i', 's', '0']⟩

/-- The tunnel is up, the phone is online and tethers over USB. -/
def tethering : List Action :=
  [.setVirtualNetworkConfig 1 (some homeConfig),
    .updateTunnelConfig
      { established true with routeMap := AList.insert ⟨.inet4 0x0a931100, 24, none⟩ 1 ∅ },
    .onAvailable ⟨1⟩, .poll [usb]]

/-- An L3 bridge takes its own subnet, so there must be an interface as long as it works. -/
theorem not_throughout_of_bridges {s : TetherControl} {actions : List Action}
    {bridge : TetherL3Bridge} (hbridge : (actions.foldl step s).Bridges bridge)
    (hnone : (actions.foldl step s).activeInterfaces = []) :
    ¬ Run.Throughout step OnlyLive s actions := by
  intro h
  obtain ⟨-, iface, hiface, -⟩ := onlyLive_iff.mp h.last bridge hbridge _ bridge.takes_subnetRaw
  rw [hnone] at hiface
  cases hiface

/-- When the USB interface goes, or the services are stopped, packets from its subnet are
injected all the same. -/
theorem not_throughout_onlyLive_unplugged :
    ¬ Run.Throughout step OnlyLive (before initial.service) (tethering ++ [.poll []]) ∧
      ¬ Run.Throughout step OnlyLive (before initial.service)
        (tethering ++ [.stopTetherServices]) := by
  constructor
  · exact not_throughout_of_bridges ⟨rfl, rfl, rfl⟩ rfl
  · exact not_throughout_of_bridges ⟨rfl, rfl, rfl⟩ rfl

end TetherControl

end XnetZt
