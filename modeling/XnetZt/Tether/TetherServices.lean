import XnetZt.Tether.TetherBridge

/-!
# The proxies of the tether services

`startTetherServices` registers a listener that starts the DNS, SOCKS and HTTP proxies on
the first interface when the bridge becomes active and stops them when it is idle or
detects again. The listener hears of changes of the state only: interfaces that go while
the upstream is lost leave the proxies running, and a proxy that runs already stays bound
to its address when the list changes.
-/

namespace XnetZt

/-- A DNS, SOCKS or HTTP proxy; `boundTo` is the address it listens on while it runs. -/
structure Proxy where
  boundTo : Option InetAddress
  deriving DecidableEq

namespace Proxy

def create : Proxy := ⟨none⟩

def isRunning (p : Proxy) : Bool := p.boundTo.isSome

/-- Binding succeeds: the port is free. -/
def start (p : Proxy) (bindAddress : InetAddress) : Proxy :=
  if p.isRunning then p else ⟨some bindAddress⟩

end Proxy

structure TetherConfig where
  isDnsEnabled : Bool
  isProxyEnabled : Bool

/-- The proxies of the service; `none` is `null`. -/
structure Proxies where
  dnsProxy : Option Proxy
  socksProxy : Option Proxy
  httpProxy : Option Proxy

namespace Proxies

/-- The service has no proxies before the first start. -/
def initial : Proxies := ⟨none, none, none⟩

/-- The test and the start that `startProxies` has for each proxy. -/
def startProxy (proxy : Option Proxy) (bindAddr : InetAddress) : Option Proxy :=
  match proxy with
  | none => some (Proxy.create.start bindAddr)
  | some p => if !p.isRunning then some (Proxy.create.start bindAddr) else some p

def startProxies (config : TetherConfig) (bindAddr : InetAddress) (ps : Proxies) : Proxies where
  dnsProxy := if config.isDnsEnabled then startProxy ps.dnsProxy bindAddr else ps.dnsProxy
  socksProxy := if config.isProxyEnabled then startProxy ps.socksProxy bindAddr else ps.socksProxy
  httpProxy := if config.isProxyEnabled then startProxy ps.httpProxy bindAddr else ps.httpProxy

def stopProxies (_ : Proxies) : Proxies := ⟨none, none, none⟩

/-- The listener that `startTetherServices` registers. -/
def onStateChanged (config : TetherConfig) (state : TetherBridge.State)
    (interfaces : List NamedInterface) (ps : Proxies) : Proxies :=
  match state, interfaces with
  | .active, iface :: _ => ps.startProxies config iface.address
  | .idle, _ => ps.stopProxies
  | .detecting, _ => ps.stopProxies
  | _, _ => ps

/-- The addresses of the proxies that run. -/
def bound (ps : Proxies) : List InetAddress :=
  [ps.dnsProxy, ps.socksProxy, ps.httpProxy].filterMap fun proxy => proxy.bind Proxy.boundTo

@[simp] theorem bound_stopProxies (ps : Proxies) : ps.stopProxies.bound = [] := rfl

/-- A proxy that runs is left alone, any other one is started on the address. -/
theorem bind_boundTo_startProxy (proxy : Option Proxy) (bindAddr : InetAddress) :
    (startProxy proxy bindAddr).bind Proxy.boundTo =
      some ((proxy.bind Proxy.boundTo).getD bindAddr) := by
  obtain _ | ⟨_ | a⟩ := proxy <;> rfl

/-- Starting proxies on an address of a list puts no proxy outside the list. -/
theorem bound_startProxies_subset_iff {bindAddr : InetAddress} {addresses : List InetAddress}
    (hmem : bindAddr ∈ addresses) (config : TetherConfig) (ps : Proxies) :
    (ps.startProxies config bindAddr).bound ⊆ addresses ↔ ps.bound ⊆ addresses := by
  have hone : ∀ (enabled : Bool) (proxy : Option Proxy),
      (∀ a, (if enabled then startProxy proxy bindAddr else proxy).bind Proxy.boundTo = some a →
        a ∈ addresses) ↔ ∀ a, proxy.bind Proxy.boundTo = some a → a ∈ addresses := by
    intro enabled proxy
    cases enabled with
    | false => rfl
    | true =>
      rw [if_pos rfl, bind_boundTo_startProxy]
      cases proxy.bind Proxy.boundTo with
      | none => simp [hmem]
      | some a => simp
  simp only [bound, startProxies, List.subset_def, List.mem_filterMap, List.mem_cons,
    List.not_mem_nil, or_false, exists_eq_or_imp, exists_eq_left, or_imp, forall_and, hone]

end Proxies

namespace TetherBridge

def addresses (b : TetherBridge Proxies) : List InetAddress :=
  b.detector.activeInterfaces.map fun iface => iface.address

/-- No proxy runs without an interface, and those of an active bridge run on interfaces in
the list. -/
structure ProxiesCurrent (b : TetherBridge Proxies) : Prop where
  stopped : b.detector.activeInterfaces = [] → b.listening.bound = []
  bound : b.state = .active → b.listening.bound ⊆ b.addresses

/-- A change of the list that the detector reports finds the proxies stopped if the upstream
was lost and no interface is left; and when the bridge is or becomes active, each proxy that
runs is on an interface in the list. -/
def KeepsProxiesCurrent (b : TetherBridge Proxies) : Event → Prop
  | .poll detected => b.detector.running = true → b.detector.Changed detected →
    if detected = [] then b.state = .error → b.listening.bound = []
    else b.state = .active ∨ b.upstream.hasUpstream = true →
      b.listening.bound ⊆ detected.map fun iface => iface.address
  | .onAvailable _ => b.upstream.networkCallback.isSome = true →
    b.detector.activeInterfaces ≠ [] → b.listening.bound ⊆ b.addresses
  | _ => True

/-- Proxies run while the bridge is active or has lost its upstream. -/
structure ProxiesLive (b : TetherBridge Proxies) : Prop where
  current : b.ProxiesCurrent
  quiet : b.state = .idle ∨ b.state = .detecting → b.listening.bound = []

section SetState

variable (config : TetherConfig) {b : TetherBridge Proxies}

theorem bound_setState_quiet {s : State} (hs : s = .idle ∨ s = .detecting)
    (hquiet : b.state = .idle ∨ b.state = .detecting → b.listening.bound = []) :
    (b.setState (Proxies.onStateChanged config) s).listening.bound = [] := by
  unfold setState
  split_ifs with heq
  · exact hquiet (heq ▸ hs)
  · obtain rfl | rfl := hs <;> rfl

theorem bound_setState_active (hne : b.detector.activeInterfaces ≠ []) :
    (b.setState (Proxies.onStateChanged config) .active).listening.bound ⊆ b.addresses ↔
      b.listening.bound ⊆ b.addresses := by
  unfold setState
  split_ifs
  · rfl
  · cases hlist : b.detector.activeInterfaces with
    | nil => exact absurd hlist hne
    | cons iface rest =>
      have hmem : iface.address ∈ b.addresses := by
        rw [addresses, hlist]
        exact List.mem_map_of_mem List.mem_cons_self
      exact Proxies.bound_startProxies_subset_iff hmem config b.listening

@[simp] theorem listening_setState_error :
    (b.setState (Proxies.onStateChanged config) .error).listening = b.listening := by
  unfold setState
  split_ifs <;> rfl

end SetState

section Step

variable {config : TetherConfig} {b : TetherBridge Proxies}

theorem proxiesCurrent_of_bound_nil (h : b.listening.bound = []) : b.ProxiesCurrent :=
  ⟨fun _ => h, fun _ => by rw [h]; exact List.nil_subset _⟩

/-- Without an interface only stopped proxies are current, with one those in the list. -/
theorem proxiesCurrent_iff_of_ne_nil (hne : b.detector.activeInterfaces ≠ []) :
    b.ProxiesCurrent ↔ (b.state = .active → b.listening.bound ⊆ b.addresses) :=
  ⟨fun h => h.bound, fun h => ⟨fun hnil => absurd hnil hne, h⟩⟩

theorem proxiesCurrent_iff_of_nil (hnil : b.detector.activeInterfaces = []) :
    b.ProxiesCurrent ↔ b.listening.bound = [] :=
  ⟨fun h => h.stopped hnil, proxiesCurrent_of_bound_nil⟩

theorem ProxiesLive.start (h : b.ProxiesLive) :
    (b.start (Proxies.onStateChanged config)).ProxiesLive := by
  unfold TetherBridge.start
  split_ifs
  · exact h
  · have hbound := bound_setState_quiet config (.inr rfl) h.quiet
    exact ⟨proxiesCurrent_of_bound_nil hbound, fun _ => hbound⟩

theorem ProxiesLive.stop (h : b.ProxiesLive) :
    (b.stop (Proxies.onStateChanged config)).ProxiesLive := by
  have hbound : (b.stop (Proxies.onStateChanged config)).listening.bound = [] :=
    bound_setState_quiet config (.inl rfl) h.quiet
  exact ⟨proxiesCurrent_of_bound_nil hbound, fun _ => hbound⟩

theorem proxiesCurrent_setState_active_iff (hne : b.detector.activeInterfaces ≠ []) :
    (b.setState (Proxies.onStateChanged config) .active).ProxiesCurrent ↔
      b.listening.bound ⊆ b.addresses := by
  rw [proxiesCurrent_iff_of_ne_nil (by rwa [detector_setState]), state_setState, addresses,
    detector_setState, ← addresses, bound_setState_active config hne]
  simp

/-- A bridge without interfaces stops the proxies if it was active and leaves them if its
upstream was lost; in the other two states none runs. -/
theorem onTetherInterfacesChanged_nil_iff (hnil : b.detector.activeInterfaces = [])
    (hquiet : b.state = .idle ∨ b.state = .detecting → b.listening.bound = []) :
    (b.onTetherInterfacesChanged (Proxies.onStateChanged config) []).ProxiesCurrent ↔
      (b.state = .error → b.listening.bound = []) := by
  unfold onTetherInterfacesChanged
  rw [if_pos rfl]
  split_ifs with hactive
  · have hbound := bound_setState_quiet config (.inr rfl) hquiet
    simp [proxiesCurrent_of_bound_nil hbound, hactive]
  · rw [proxiesCurrent_iff_of_nil hnil]
    refine ⟨fun hbound _ => hbound, fun herror => ?_⟩
    cases hstate : b.state with
    | idle => exact hquiet (.inl hstate)
    | detecting => exact hquiet (.inr hstate)
    | active => exact absurd hstate hactive
    | error => exact herror hstate

theorem onTetherInterfacesChanged_iff (hne : b.detector.activeInterfaces ≠ []) :
    (b.onTetherInterfacesChanged (Proxies.onStateChanged config)
        b.detector.activeInterfaces).ProxiesCurrent ↔
      (b.state = .active ∨ b.upstream.hasUpstream = true →
        b.listening.bound ⊆ b.addresses) := by
  unfold onTetherInterfacesChanged
  rw [if_neg hne]
  split_ifs with hup
  · rw [proxiesCurrent_setState_active_iff hne]
    simp [hup]
  · rw [proxiesCurrent_iff_of_ne_nil hne]
    simp [hup]

theorem ProxiesLive.poll_iff (h : b.ProxiesLive) (detected : List NamedInterface) :
    (b.poll (Proxies.onStateChanged config) detected).ProxiesCurrent ↔
      b.KeepsProxiesCurrent (.poll detected) := by
  unfold TetherBridge.poll KeepsProxiesCurrent
  by_cases hrun : b.detector.running = true
  · by_cases hchanged : b.detector.Changed detected
    · simp only [hrun, hchanged, if_true, true_imp_iff]
      cases detected with
      | nil => exact onTetherInterfacesChanged_nil_iff rfl h.quiet
      | cons iface rest => exact onTetherInterfacesChanged_iff (List.cons_ne_nil iface rest)
    · simp [hchanged, h.current]
  · simp [hrun, h.current]

theorem ProxiesCurrent.onUpstreamChanged_iff (h : b.ProxiesCurrent) :
    (b.onUpstreamChanged (Proxies.onStateChanged config)).ProxiesCurrent ↔
      (b.detector.activeInterfaces ≠ [] → b.listening.bound ⊆ b.addresses) := by
  unfold onUpstreamChanged
  split_ifs with hne
  · rw [proxiesCurrent_setState_active_iff hne]
    simp [hne]
  · simp [h, not_not.mp hne]

/-- The proxies and the interfaces are those of before when only the network changes. -/
theorem ProxiesLive.setNetwork (h : b.ProxiesLive) (network : Option Network) :
    { b with upstream := { b.upstream with currentNetwork := network } }.ProxiesLive :=
  ⟨⟨h.current.stopped, h.current.bound⟩, h.quiet⟩

theorem ProxiesLive.onAvailable_iff (h : b.ProxiesLive) (network : Network) :
    (b.onAvailable (Proxies.onStateChanged config) network).ProxiesCurrent ↔
      b.KeepsProxiesCurrent (.onAvailable network) := by
  unfold TetherBridge.onAvailable KeepsProxiesCurrent
  cases b.upstream.networkCallback with
  | none => simp [h.current]
  | some callback =>
    simp only [Option.isSome_some, true_imp_iff]
    exact (h.setNetwork (some network)).current.onUpstreamChanged_iff

theorem ProxiesLive.onCapabilitiesChanged (h : b.ProxiesLive) (network : Network) :
    (b.onCapabilitiesChanged network).ProxiesLive := by
  unfold TetherBridge.onCapabilitiesChanged
  split
  · exact h
  · exact h
  · exact h.setNetwork (some network)

/-- The loss of the upstream leaves the proxies and the interfaces as they are. -/
theorem ProxiesLive.onUpstreamLost (h : b.ProxiesLive) :
    (b.onUpstreamLost (Proxies.onStateChanged config)).ProxiesLive := by
  unfold TetherBridge.onUpstreamLost
  split_ifs with hactive
  · refine ⟨⟨fun hnil => ?_, fun hstate => ?_⟩, fun hstate => ?_⟩
    · rw [detector_setState] at hnil
      rw [listening_setState_error, h.current.stopped hnil]
    · simp at hstate
    · simp at hstate
  · exact h

theorem ProxiesLive.onLost (h : b.ProxiesLive) (network : Network) :
    (b.onLost (Proxies.onStateChanged config) network).ProxiesLive := by
  unfold TetherBridge.onLost
  split
  · exact h
  · dsimp only
    split_ifs
    · exact (h.setNetwork none).onUpstreamLost
    · exact h

theorem ProxiesLive.current_step_iff (h : b.ProxiesLive) (e : Event) :
    (b.step (Proxies.onStateChanged config) e).ProxiesCurrent ↔ b.KeepsProxiesCurrent e := by
  cases e with
  | start => exact iff_of_true h.start.current trivial
  | stop => exact iff_of_true h.stop.current trivial
  | poll detected => exact h.poll_iff detected
  | onAvailable network => exact h.onAvailable_iff network
  | onCapabilitiesChanged network =>
    exact iff_of_true (h.onCapabilitiesChanged network).current trivial
  | onLost network => exact iff_of_true (h.onLost network).current trivial

/-- Whatever the event, a bridge that waits for interfaces or is idle runs no proxy. -/
theorem ProxiesLive.quiet_step (h : b.ProxiesLive) (e : Event) :
    let b' := b.step (Proxies.onStateChanged config) e
    b'.state = .idle ∨ b'.state = .detecting → b'.listening.bound = [] := by
  cases e with
  | start => exact h.start.quiet
  | stop => exact h.stop.quiet
  | poll detected =>
    dsimp only [step, TetherBridge.poll, onTetherInterfacesChanged]
    split_ifs
    · exact fun _ => bound_setState_quiet config (.inr rfl) h.quiet
    · exact h.quiet
    · simp
    · exact h.quiet
    · exact h.quiet
    · exact h.quiet
  | onAvailable network =>
    dsimp only [step, TetherBridge.onAvailable, onUpstreamChanged]
    split
    · exact h.quiet
    · split_ifs
      · simp
      · exact h.quiet
  | onCapabilitiesChanged network => exact (h.onCapabilitiesChanged network).quiet
  | onLost network => exact (h.onLost network).quiet

end Step

/-- The proxies live on current interfaces through a run exactly when no interface of a
running proxy leaves the list, unless the bridge is active and the list becomes empty. -/
theorem proxiesCurrent_throughout_iff (config : TetherConfig) (cellularPreferred : Bool)
    (events : List Event) :
    let services := create cellularPreferred Proxies.initial
    Run.Throughout (step (Proxies.onStateChanged config)) ProxiesCurrent services events ↔
      Run.Along (step (Proxies.onStateChanged config)) KeepsProxiesCurrent services events := by
  intro services
  have hkeep : ∀ (b : TetherBridge Proxies) e, b.ProxiesLive → b.KeepsProxiesCurrent e →
      (b.step (Proxies.onStateChanged config) e).ProxiesLive :=
    fun b e hb he => ⟨(hb.current_step_iff e).mpr he, hb.quiet_step e⟩
  have hlose : ∀ (b : TetherBridge Proxies) e, b.ProxiesLive → ¬ b.KeepsProxiesCurrent e →
      ¬ (b.step (Proxies.onStateChanged config) e).ProxiesCurrent :=
    fun b e hb he hcurrent => he ((hb.current_step_iff e).mp hcurrent)
  have hservices : services.ProxiesLive := ⟨proxiesCurrent_of_bound_nil rfl, fun _ => rfl⟩
  exact Run.throughout_iff_along (fun _ hb => hb.current) hkeep hlose hservices

/-- The upstream is lost, then the only interface: all three proxies keep running. -/
theorem not_proxiesCurrent_upstreamLost :
    let usb : NamedInterface := ⟨⟨.inet4 0xc0a82a81, 24, rfl⟩, ['r', 'n', 'd', 'i', 's', '0']⟩
    ¬ Run.Throughout (step (Proxies.onStateChanged ⟨true, true⟩)) ProxiesCurrent
      (create false Proxies.initial)
      [.start, .onAvailable ⟨1⟩, .poll [usb], .onLost ⟨1⟩, .poll []] := by
  intro usb h
  have hbound := h.last.stopped (by decide)
  revert hbound
  decide

end TetherBridge

end XnetZt
