import XnetZt.Service.TunnelConfig
import XnetZt.Tether.SplitHorizon
import XnetZt.Tether.TetherServices

/-!
# The tether services in the service

Every tunnel configuration ends with `startTetherServices` and `configureTetherL3Bridge`.
The first makes a bridge and gives it the socket mode of the route setting, unless there
is one that runs; the second gives the adapter an L3 bridge for the first interface, or
waits for one with a listener. Listeners are called inside `setState` of the bridge and
change the fields of the service, so the events of the bridge are run on both. A bridge
that runs keeps the mode it was made with: the mode follows the route setting exactly if
each configuration finds no running bridge or one that has the right mode already.
-/

namespace XnetZt

/-! ### Sockets of the proxies -/

namespace TetherBridge

inductive SocketMode
  | tunnel
  | bypass
  deriving DecidableEq

/-- The mode for a route setting. -/
def SocketMode.of (routeViaZt : Bool) : SocketMode := if routeViaZt then .tunnel else .bypass

/-- The listeners that `startTetherServices` and `configureTetherL3Bridge` register. -/
inductive StateListener
  | proxies
  | l3Bridge
  deriving DecidableEq

/-- The fields of a bridge beside its detector, its upstream and its state. -/
structure Settings where
  socketMode : SocketMode
  upstreamSocks : Option InetSocketAddress
  ztRoutes : List ZtRoute
  stateListeners : List StateListener

/-- Where a socket of a proxy goes: to the SOCKS proxy of the exit node, past the VPN, or
wherever the routes of the VPN send it. -/
inductive UpstreamSocket
  | viaSocks5 (proxy : InetSocketAddress)
  | protectedAndBound
  | direct
  deriving DecidableEq

namespace Settings

variable (b : Settings)

def newSocket : UpstreamSocket :=
  if b.socketMode = .bypass then .protectedAndBound else .direct

def createUpstreamSocket : UpstreamSocket := b.newSocket

def createUpstreamDatagramSocket : UpstreamSocket := b.newSocket

def connectUpstream (host : InetAddress) : Except JavaException UpstreamSocket :=
  match b.socketMode, b.upstreamSocks with
  | .tunnel, some proxy => return .viaSocks5 proxy
  | .tunnel, none => return .direct
  | .bypass, _ => do
    if !(← isZtSubnet b.ztRoutes host) then return .protectedAndBound
    return .direct

/-- No socket of a proxy is protected and bound to the upstream. -/
structure StaysInVpn : Prop where
  socket : b.createUpstreamSocket ≠ .protectedAndBound
  datagramSocket : b.createUpstreamDatagramSocket ≠ .protectedAndBound
  connect : ∀ host, b.connectUpstream host ≠ .ok .protectedAndBound

theorem staysInVpn_of_tunnel (h : b.socketMode = .tunnel) : b.StaysInVpn := by
  refine ⟨by simp [createUpstreamSocket, newSocket, h],
    by simp [createUpstreamDatagramSocket, newSocket, h], fun host => ?_⟩
  cases hsocks : b.upstreamSocks <;> simp [connectUpstream, h, hsocks, pure, Except.pure]

def addStateListener (l : StateListener) : Settings :=
  { b with stateListeners := b.stateListeners ++ [l] }

end Settings

/-- The same bridge, with other data for its listeners. -/
def mapListening {σ τ : Type*} (f : σ → τ) (b : TetherBridge σ) : TetherBridge τ where
  detector := b.detector
  upstream := b.upstream
  state := b.state
  listening := f b.listening

end TetherBridge

/-! ### The service -/

structure TetherSettings extends TetherConfig where
  isEnabled : Bool
  isTtlFixEnabled : Bool
  isCellularPreferred : Bool

/-- The fields of the service and of its adapter that the tether services use. -/
structure ServiceFields where
  tetherConfig : TetherSettings
  proxies : Proxies
  natEngine : Option NatEngine
  hasNode : Bool
  virtualNetworkConfigs : BitVec 64 → Option VirtualNetworkConfig
  routeMap : RouteMap
  /-- The order in which `routeMap` hands out its keys. -/
  routeOrder : IterationOrder Route
  /-- `tunTapAdapter.tetherL3Bridge` -/
  tetherL3Bridge : Option TetherL3Bridge

namespace ServiceFields

variable (f : ServiceFields)

def routes : List Route := f.routeOrder.arrange f.routeMap.keys

/-- The gateway of the first route that has one. -/
def gateway : Option InetAddress := f.routes.findSome? Route.gateway

/-- The network of the first entry of the route map. -/
def firstNetwork : BitVec 64 :=
  match f.routes with
  | [] => 0
  | route :: _ => (f.routeMap.lookup route).getD 0

/-- The first IPv4 address assigned by a network. -/
def localZtIp (config : VirtualNetworkConfig) : Option {a : InetAddress // a.isInet4 = true} :=
  config.assignedAddresses.findSome? fun addr =>
    if h : addr.address.isInet4 = true then some ⟨addr.address, h⟩ else none

/-- The config and the address for an L3 bridge. -/
def l3Parameters : Option (VirtualNetworkConfig × {a : InetAddress // a.isInet4 = true}) := do
  let config ← f.virtualNetworkConfigs f.firstNetwork
  let localZtIp ← localZtIp config
  return (config, localZtIp)

end ServiceFields

/-- The address of an interface as an `int`. -/
def TetherInterface.raw : TetherInterface → BitVec 32
  | ⟨.inet4 raw, _, _⟩ => raw

/-- What the listeners of a bridge can change. -/
structure Listening where
  settings : TetherBridge.Settings
  service : ServiceFields

namespace Listening

open TetherBridge

/-- The bridge that `configureTetherL3Bridge` sets up for an interface. -/
def newL3Bridge (f : ServiceFields) (config : VirtualNetworkConfig)
    (localZtIp : {a : InetAddress // a.isInet4 = true}) (iface : TetherInterface) :
    TetherL3Bridge :=
  let gatewayMac := if f.gateway.isSome then 0xffffffffffff else 0
  .configure f.hasNode config.nwid config.mac gatewayMac localZtIp
    (.inet4 (iface.raw &&& subnetMask iface.prefixLength)) iface.prefixLength localZtIp.2 rfl

def configureTetherL3Bridge (ifaces : List NamedInterface) (l : Listening) : Listening :=
  if l.settings.socketMode ≠ .tunnel then l
  else
    match l.service.l3Parameters with
    | none => l
    | some (config, localZtIp) =>
      match ifaces with
      | [] => { l with settings := l.settings.addStateListener .l3Bridge }
      | iface :: _ =>
        { l with
          service :=
            { l.service with
              tetherL3Bridge :=
                some (newL3Bridge l.service config localZtIp iface.toTetherInterface) } }

def onStateChanged (newState : State) (interfaces : List NamedInterface) (l : Listening) :
    StateListener → Listening
  | .proxies =>
    { l with
      service :=
        { l.service with
          proxies := Proxies.onStateChanged l.service.tetherConfig.toTetherConfig newState
            interfaces l.service.proxies } }
  | .l3Bridge =>
    if newState = .active ∧ interfaces ≠ [] then l.configureTetherL3Bridge interfaces else l

/-- The loop of `setState` over the listeners there are when it starts. -/
def notify (newState : State) (interfaces : List NamedInterface) (l : Listening) : Listening :=
  l.settings.stateListeners.foldl (fun l listener => l.onStateChanged newState interfaces listener)
    l

end Listening

structure TetherControl where
  tetherBridge : Option (TetherBridge TetherBridge.Settings)
  service : ServiceFields

/-- What an `updateTunnelConfig` gets and does before its last part: the routes it leaves,
whether the VPN was established, and the route settings of the last activated networks. -/
structure TunnelUpdate where
  routeMap : RouteMap
  routeOrder : IterationOrder Route
  established : Bool
  tetherConfig : TetherSettings
  networks : List (Option Bool)

namespace TetherControl

open TetherBridge

/-- A method of the bridge, which its listeners hear of. -/
def onBridge (op : TetherBridge Listening → TetherBridge Listening) (s : TetherControl) :
    TetherControl :=
  match s.tetherBridge with
  | none => s
  | some b =>
    let b := op (b.mapListening fun settings => ⟨settings, s.service⟩)
    ⟨some (b.mapListening Listening.settings), b.listening.service⟩

/-- The setting of the first network that is found, if it has a config. -/
def routeViaZt : List (Option Bool) → Bool
  | some routeViaZeroTier :: _ => routeViaZeroTier
  | _ => true

/-- `tetherBridge != null && tetherBridge.getState() != IDLE` -/
def isRunning (s : TetherControl) : Bool :=
  match s.tetherBridge with
  | none => false
  | some b => b.state ≠ .idle

def newSettings (f : ServiceFields) (routeViaZt : Bool) : Settings where
  socketMode := .of routeViaZt
  upstreamSocks :=
    if routeViaZt then some ⟨f.gateway.getD TunnelConfig.fallbackGateway, 1080⟩ else none
  ztRoutes := []
  stateListeners := []

def startTetherServices (tetherConfig : TetherSettings) (networks : List (Option Bool))
    (s : TetherControl) : TetherControl :=
  let service := { s.service with tetherConfig := tetherConfig }
  if !tetherConfig.isEnabled then ⟨s.tetherBridge, service⟩
  else if s.isRunning then ⟨s.tetherBridge, service⟩
  else
    let bridge := create tetherConfig.isCellularPreferred
      (newSettings service (routeViaZt networks))
    let natEngine : NatEngine := ⟨tetherConfig.isTtlFixEnabled, 0, 0, ∅⟩
    let s : TetherControl := ⟨some bridge, { service with natEngine := some natEngine }⟩
    let s := s.onBridge (·.start Listening.notify)
    s.onBridge (·.mapListening fun l => { l with settings := l.settings.addStateListener .proxies })

def setZtRoutes (s : TetherControl) : TetherControl :=
  s.onBridge (·.mapListening fun l =>
    { l with
      settings :=
        { l.settings with ztRoutes := ztRoutesOf l.service.routeOrder l.service.routeMap } })

def configureTetherL3Bridge (s : TetherControl) : TetherControl :=
  s.onBridge fun b => b.mapListening (·.configureTetherL3Bridge b.detector.activeInterfaces)

def stopTetherServices (s : TetherControl) : TetherControl :=
  let s := { s with service := { s.service with proxies := s.service.proxies.stopProxies } }
  let s := s.onBridge (·.stop Listening.notify)
  ⟨none, { s.service with natEngine := none }⟩

def updateTunnelConfig (u : TunnelUpdate) (s : TetherControl) : TetherControl :=
  let service := { s.service with routeMap := u.routeMap, routeOrder := u.routeOrder }
  let s : TetherControl := ⟨s.tetherBridge, service⟩
  if u.established then
    ((s.startTetherServices u.tetherConfig u.networks).setZtRoutes).configureTetherL3Bridge
  else s

def setVirtualNetworkConfig (networkId : BitVec 64) (config : Option VirtualNetworkConfig)
    (s : TetherControl) : TetherControl :=
  { s with
    service :=
      { s.service with
        virtualNetworkConfigs :=
          Function.update s.service.virtualNetworkConfigs networkId config } }

inductive Action
  | updateTunnelConfig (u : TunnelUpdate)
  | startTetherServices (tetherConfig : TetherSettings) (networks : List (Option Bool))
  | configureTetherL3Bridge
  | stopTetherServices
  | setVirtualNetworkConfig (networkId : BitVec 64) (config : Option VirtualNetworkConfig)
  | poll (detected : List NamedInterface)
  | onAvailable (network : Network)
  | onCapabilitiesChanged (network : Network)
  | onLost (network : Network)

def step (s : TetherControl) : Action → TetherControl
  | .updateTunnelConfig u => s.updateTunnelConfig u
  | .startTetherServices tetherConfig networks => s.startTetherServices tetherConfig networks
  | .configureTetherL3Bridge => s.configureTetherL3Bridge
  | .stopTetherServices => s.stopTetherServices
  | .setVirtualNetworkConfig networkId config => s.setVirtualNetworkConfig networkId config
  | .poll detected => s.onBridge (·.poll Listening.notify detected)
  | .onAvailable network => s.onBridge (·.onAvailable Listening.notify network)
  | .onCapabilitiesChanged network => s.onBridge (·.onCapabilitiesChanged network)
  | .onLost network => s.onBridge (·.onLost Listening.notify network)

/-! ### The socket mode -/

section SocketMode

variable (s : TetherControl)

/-- The mode of the bridge, if there is one. -/
def socketMode : Option SocketMode := s.tetherBridge.map fun b => b.listening.socketMode

/-- An operation on the listeners' data that leaves the mode alone. -/
theorem socketMode_mapListening (f : TetherBridge Listening → Listening → Listening)
    (hf : ∀ b l, (f b l).settings.socketMode = l.settings.socketMode) :
    (s.onBridge fun b => b.mapListening (f b)).socketMode = s.socketMode := by
  unfold onBridge
  split
  · rfl
  · rename_i b hb
    simp only [socketMode, hb, mapListening, Option.map_some, hf]

theorem socketMode_setZtRoutes : s.setZtRoutes.socketMode = s.socketMode :=
  s.socketMode_mapListening _ fun _ _ => rfl

theorem socketMode_configureTetherL3Bridge :
    s.configureTetherL3Bridge.socketMode = s.socketMode := by
  apply s.socketMode_mapListening
    (fun b => (·.configureTetherL3Bridge b.detector.activeInterfaces))
  intro b l
  unfold Listening.configureTetherL3Bridge
  split_ifs
  · rfl
  · split
    · rfl
    · split <;> rfl

/-- A bridge that runs is kept, with its mode; otherwise the mode is that of the setting. -/
theorem socketMode_startTetherServices {tetherConfig : TetherSettings}
    (henabled : tetherConfig.isEnabled = true) (networks : List (Option Bool)) :
    (s.startTetherServices tetherConfig networks).socketMode =
      if s.isRunning then s.socketMode else some (.of (routeViaZt networks)) := by
  unfold startTetherServices
  rw [henabled, Bool.not_true, if_neg Bool.false_ne_true]
  split_ifs with hrunning
  · rfl
  · simp [onBridge, mapListening, TetherBridge.start, setState, create, Listening.notify,
      newSettings, Settings.addStateListener, socketMode]

theorem socketMode_updateTunnelConfig {u : TunnelUpdate} (hestablished : u.established = true)
    (henabled : u.tetherConfig.isEnabled = true) :
    (s.updateTunnelConfig u).socketMode =
      if s.isRunning then s.socketMode else some (.of (routeViaZt u.networks)) := by
  unfold updateTunnelConfig
  rw [if_pos hestablished, socketMode_configureTetherL3Bridge, socketMode_setZtRoutes,
    socketMode_startTetherServices _ henabled]
  rfl

/-- The mode is the one for the setting, and with the setting on every proxied connection
stays in the VPN. -/
def Follows (routeViaZt : Bool) : Prop :=
  ∃ b, s.tetherBridge = some b ∧ b.listening.socketMode = .of routeViaZt ∧
    (routeViaZt = true → b.listening.StaysInVpn)

theorem follows_iff (routeViaZt : Bool) :
    s.Follows routeViaZt ↔ s.socketMode = some (.of routeViaZt) := by
  rw [socketMode, Option.map_eq_some_iff]
  constructor
  · rintro ⟨b, hb, hmode, -⟩
    exact ⟨b, hb, hmode⟩
  · rintro ⟨b, hb, hmode⟩
    refine ⟨b, hb, hmode, ?_⟩
    rintro rfl
    exact b.listening.staysInVpn_of_tunnel hmode

end SocketMode

/-- A configuration that establishes the VPN leaves the mode of the route setting. -/
def FollowsSetting (s : TetherControl) : Action → Prop
  | .updateTunnelConfig u => u.established = true → u.tetherConfig.isEnabled = true →
    (s.updateTunnelConfig u).Follows (routeViaZt u.networks)
  | _ => True

/-- It finds no bridge that runs, or one that has this mode. -/
def FindsMode (s : TetherControl) : Action → Prop
  | .updateTunnelConfig u => u.established = true → u.tetherConfig.isEnabled = true →
    s.isRunning = true → s.socketMode = some (.of (routeViaZt u.networks))
  | _ => True

theorem followsSetting_iff_findsMode (s : TetherControl) (a : Action) :
    s.FollowsSetting a ↔ s.FindsMode a := by
  cases a with
  | updateTunnelConfig u =>
    refine forall₂_congr fun hestablished henabled => ?_
    rw [follows_iff, s.socketMode_updateTunnelConfig hestablished henabled]
    split_ifs with hrunning
    · simp [hrunning]
    · simp [hrunning]
  | _ => rfl

/-- The mode follows the route setting through a run exactly if no configuration finds a
bridge that runs in the other mode. -/
theorem along_followsSetting_iff (s : TetherControl) (actions : List Action) :
    Run.Along step FollowsSetting s actions ↔ Run.Along step FindsMode s actions := by
  have heq : FollowsSetting = FindsMode := by
    funext s a
    exact propext (s.followsSetting_iff_findsMode a)
  rw [heq]

/-- The service with a node and without networks. -/
def initial : TetherControl :=
  ⟨none, ⟨⟨⟨true, true⟩, true, true, false⟩, .initial, none, true, fun _ => none, ∅, .id, none⟩⟩

/-- The VPN is established with default preferences. -/
def established (routeViaZeroTier : Bool) : TunnelUpdate :=
  ⟨∅, .id, true, ⟨⟨true, true⟩, true, true, false⟩, [some routeViaZeroTier]⟩

/-- The setting is switched on while the bridge runs: connections still leave the VPN. -/
theorem not_followsSetting_switchedOn :
    let actions : List Action :=
      [.updateTunnelConfig (established false), .updateTunnelConfig (established true)]
    ¬ Run.Along step FollowsSetting initial actions ∧
      ∃ b, (actions.foldl step initial).tetherBridge = some b ∧
        b.listening.connectUpstream (.inet4 0x08080808) = .ok .protectedAndBound := by
  refine ⟨?_, _, rfl, rfl⟩
  rintro ⟨-, h, -⟩
  have hfinds := (followsSetting_iff_findsMode _ (.updateTunnelConfig (established true))).mp h
  exact absurd (hfinds rfl rfl rfl) (by decide)

end TetherControl

end XnetZt
