import XnetZt.Net.Route

/-!
# The route-building phase of the tunnel configuration

`updateTunnelConfig` fills the route map of the adapter from the assigned addresses and
the managed routes of a network and, when all traffic is to go through the network,
adds an IPv4 default route if it believes there is none. That decision walks routes of
both families: it stops at any route of prefix length 0 and takes the gateway of
whichever route came last. Below, the configurations for which the resulting map is
right under every iteration order are determined exactly.
-/

namespace XnetZt

/-- The SDK stores prefix lengths in the port. -/
structure InetSocketAddress where
  address : InetAddress
  port : ℕ
  deriving DecidableEq

structure VirtualNetworkRoute where
  target : InetSocketAddress
  via : Option InetSocketAddress
  deriving DecidableEq

structure VirtualNetworkConfig where
  nwid : BitVec 64
  mac : BitVec 64
  assignedAddresses : List InetSocketAddress
  routes : List VirtualNetworkRoute
  deriving DecidableEq

namespace TunnelConfig

/-- Which arguments `VpnService.Builder` takes; for the others it throws. -/
structure Builder where
  acceptsAddress : InetAddress → ℕ → Bool
  acceptsRoute : InetAddress → ℕ → Bool

namespace Builder

def addAddress (b : Builder) (address : InetAddress) (prefixLength : ℕ) :
    Except JavaException Unit :=
  if b.acceptsAddress address prefixLength then .ok () else .error .illegalArgument

def addRoute (b : Builder) (address : InetAddress) (prefixLength : ℕ) :
    Except JavaException Unit :=
  if b.acceptsRoute address prefixLength then .ok () else .error .illegalArgument

end Builder

/-- `0.0.0.0` -/
def v4Loopback : InetAddress := .inet4 0

/-- `::` -/
def v6Loopback : InetAddress := .inet6 0 (by decide)

/-- `10.121.21.117` -/
def fallbackGateway : InetAddress := .inet4 0x0a791575

section Phase

variable (builder : Builder) (disableIPv6 isRouteViaZeroTier : Bool) (networkId : BitVec 64)

/-- One round of the loop over the assigned addresses. -/
def addAssignedAddress (routeMap : RouteMap) (vpnAddress : InetSocketAddress) :
    Except JavaException RouteMap := do
  if !disableIPv6 || !vpnAddress.address.isInet6 then
    let port := vpnAddress.port
    match addressToRoute vpnAddress.address port with
    | none => return routeMap
    | some route =>
      builder.addAddress vpnAddress.address port
      builder.addRoute route port
      return routeMap.insert ⟨route, port, none⟩ networkId
  else return routeMap

/-- One round of the loop over the managed routes. -/
def addManagedRoute (routeMap : RouteMap) (routeConfig : VirtualNetworkRoute) :
    Except JavaException RouteMap := do
  let targetAddress := routeConfig.target.address
  let targetPort := routeConfig.target.port
  match addressToRoute targetAddress targetPort with
  | none => return routeMap
  | some viaAddress =>
    let isIPv6Route := targetAddress.isInet6 || viaAddress.isInet6
    let isDisabledV6Route := disableIPv6 && isIPv6Route
    let shouldRouteToZerotier :=
      isRouteViaZeroTier || (viaAddress != v4Loopback && viaAddress != v6Loopback)
    if !isDisabledV6Route && shouldRouteToZerotier then
      builder.addRoute viaAddress targetPort
      let gateway := routeConfig.via.map (·.address)
      return routeMap.insert ⟨viaAddress, targetPort, gateway⟩ networkId
    else return routeMap

/-- The loop that looks for a default route: `hasDefault` and `gwFromRoutes`. -/
def scanRoutes : List Route → Option InetAddress → Bool × Option InetAddress
  | [], gwFromRoutes => (false, gwFromRoutes)
  | r :: rs, gwFromRoutes =>
    if r.prefixLength = 0 then (true, gwFromRoutes)
    else scanRoutes rs (r.gateway.or gwFromRoutes)

def addDefaultRoute (order : IterationOrder Route) (routeMap : RouteMap) :
    Except JavaException RouteMap := do
  let (hasDefault, gwFromRoutes) := scanRoutes (order.arrange routeMap.keys) none
  if !hasDefault then
    builder.addRoute v4Loopback 0
    return routeMap.insert ⟨v4Loopback, 0, some (gwFromRoutes.getD fallbackGateway)⟩ networkId
  else return routeMap

/-- The route map before the default route is considered. -/
def buildRoutes (config : VirtualNetworkConfig) : Except JavaException RouteMap := do
  let routeMap ← config.assignedAddresses.foldlM
    (addAssignedAddress builder disableIPv6 networkId) ∅
  let routeMap ← config.routes.foldlM
    (addManagedRoute builder disableIPv6 isRouteViaZeroTier networkId) routeMap
  builder.addRoute (.inet4 0xe0000000) 4
  return routeMap

/-- The route map when the phase completes. -/
def updateTunnelConfig (order : IterationOrder Route) (config : VirtualNetworkConfig) :
    Except JavaException RouteMap := do
  let routeMap ← buildRoutes builder disableIPv6 isRouteViaZeroTier networkId config
  if isRouteViaZeroTier then addDefaultRoute builder networkId order routeMap
  else return routeMap

end Phase

/-! ### The routes of a configuration -/

/-- IPv6 entries are left out when IPv6 is disabled. -/
def Enabled (disableIPv6 : Bool) (address : InetAddress) : Prop :=
  disableIPv6 = false ∨ address.isInet4 = true

/-- `r` is the route of a network prefix, with the given gateway. -/
structure IsRouteTo (target : InetSocketAddress) (gateway : Option InetAddress) (r : Route) :
    Prop where
  address : addressToRoute target.address target.port = some r.address
  prefixLength : r.prefixLength = target.port
  gateway : r.gateway = gateway

/-- `r` comes from an assigned address. -/
def FromAddress (disableIPv6 : Bool) (a : InetSocketAddress) (r : Route) : Prop :=
  Enabled disableIPv6 a.address ∧ IsRouteTo a none r

/-- `r` comes from a managed route. -/
def FromManaged (disableIPv6 : Bool) (rc : VirtualNetworkRoute) (r : Route) : Prop :=
  Enabled disableIPv6 rc.target.address ∧ IsRouteTo rc.target (rc.via.map (·.address)) r

theorem isRouteTo_iff {target : InetSocketAddress} {p : InetAddress} {gateway : Option InetAddress}
    (hp : addressToRoute target.address target.port = some p) (r : Route) :
    IsRouteTo target gateway r ↔ r = ⟨p, target.port, gateway⟩ := by
  constructor
  · rintro ⟨ha, hl, hg⟩
    obtain ⟨address, prefixLength, gateway'⟩ := r
    rw [hp, Option.some.injEq] at ha
    simp_all
  · rintro rfl
    exact ⟨hp, rfl, rfl⟩

theorem enabled_iff (disableIPv6 : Bool) (a : InetAddress) :
    (!disableIPv6 || !a.isInet6) = true ↔ Enabled disableIPv6 a := by
  simp [Enabled, InetAddress.isInet6]

section Membership

variable {builder : Builder} {disableIPv6 : Bool} {networkId : BitVec 64}

theorem mem_addAssignedAddress {m m' : RouteMap} {a : InetSocketAddress}
    (h : addAssignedAddress builder disableIPv6 networkId m a = .ok m') (r : Route) :
    r ∈ m' ↔ r ∈ m ∨ FromAddress disableIPv6 a r := by
  obtain ⟨p, hp, -⟩ := addressToRoute_family a.address a.port
  unfold addAssignedAddress at h
  rw [FromAddress, isRouteTo_iff hp]
  split_ifs at h with hen
  · rw [enabled_iff] at hen
    simp only [hp, bind_eq_ok] at h
    obtain ⟨-, -, -, -, h⟩ := h
    cases h
    simp [hen, or_comm]
  · rw [enabled_iff] at hen
    cases h
    simp [hen]

theorem mem_addManagedRoute {m m' : RouteMap} {rc : VirtualNetworkRoute}
    (h : addManagedRoute builder disableIPv6 true networkId m rc = .ok m') (r : Route) :
    r ∈ m' ↔ r ∈ m ∨ FromManaged disableIPv6 rc r := by
  obtain ⟨p, hp, hfam⟩ := addressToRoute_family rc.target.address rc.target.port
  have hen : (!(disableIPv6 && (rc.target.address.isInet6 || p.isInet6)) && true) = true ↔
      Enabled disableIPv6 rc.target.address := by
    simp [Enabled, InetAddress.isInet6, hfam]
  simp only [addManagedRoute, hp, Bool.true_or] at h
  rw [FromManaged, isRouteTo_iff hp]
  split_ifs at h with hc
  · rw [hen] at hc
    simp only [bind_eq_ok] at h
    obtain ⟨-, -, h⟩ := h
    cases h
    simp [hc, or_comm]
  · rw [hen] at hc
    cases h
    simp [hc]

theorem mem_buildRoutes {m : RouteMap} {config : VirtualNetworkConfig}
    (h : buildRoutes builder disableIPv6 true networkId config = .ok m) (r : Route) :
    r ∈ m ↔ (∃ a ∈ config.assignedAddresses, FromAddress disableIPv6 a r) ∨
      ∃ rc ∈ config.routes, FromManaged disableIPv6 rc r := by
  simp only [buildRoutes, bind_eq_ok] at h
  obtain ⟨m1, h1, m2, h2, -, -, h⟩ := h
  cases h
  have hassigned : r ∈ m1 ↔ r ∈ (∅ : RouteMap) ∨
      ∃ a ∈ config.assignedAddresses, FromAddress disableIPv6 a r :=
    foldlM_iff (R := fun m r => r ∈ m) (fun _ _ _ h => mem_addAssignedAddress h) h1 r
  have hmanaged : r ∈ m ↔ r ∈ m1 ∨ ∃ rc ∈ config.routes, FromManaged disableIPv6 rc r :=
    foldlM_iff (R := fun m r => r ∈ m) (fun _ _ _ h => mem_addManagedRoute h) h2 r
  rw [hmanaged, hassigned]
  simp

end Membership

/-! ### The default route -/

theorem scanRoutes_fst (rs : List Route) (gw : Option InetAddress) :
    (scanRoutes rs gw).1 = true ↔ ∃ r ∈ rs, r.prefixLength = 0 := by
  induction rs generalizing gw with
  | nil => simp [scanRoutes]
  | cons r rs ih =>
    by_cases h : r.prefixLength = 0
    · simp [scanRoutes, h]
    · simp [scanRoutes, h, ih]

/-- Every gateway the loop remembers is one of the list. -/
theorem scanRoutes_snd {rs : List Route} {gw : Option InetAddress} {P : InetAddress → Prop}
    (hgw : ∀ g, gw = some g → P g) (hrs : ∀ r ∈ rs, ∀ g, r.gateway = some g → P g) :
    ∀ g, (scanRoutes rs gw).2 = some g → P g := by
  induction rs generalizing gw with
  | nil => exact hgw
  | cons r rs ih =>
    intro g hg
    by_cases h : r.prefixLength = 0
    · rw [scanRoutes, if_pos h] at hg
      exact hgw g hg
    · rw [scanRoutes, if_neg h] at hg
      refine ih (fun g' hg' => ?_) (fun r' hr' => hrs r' (List.mem_cons_of_mem _ hr')) g hg
      cases hr : r.gateway with
      | none =>
        rw [hr, Option.none_or] at hg'
        exact hgw g' hg'
      | some g'' =>
        rw [hr, Option.some_or] at hg'
        exact hrs r List.mem_cons_self g' (hr.trans hg')

/-- A route handed out last decides the gateway. -/
theorem scanRoutes_last {rs : List Route} {r : Route} {g : InetAddress} (hnodup : rs.Nodup)
    (hr : r ∈ rs) (hg : r.gateway = some g) (hpos : ∀ r ∈ rs, r.prefixLength ≠ 0) :
    scanRoutes ((IterationOrder.last r).arrange rs) none = (false, some g) := by
  have happend : ∀ (l : List Route) (gw : Option InetAddress), (∀ r ∈ l, r.prefixLength ≠ 0) →
      scanRoutes (l ++ [r]) gw = (false, some g) := by
    intro l
    induction l with
    | nil =>
      intro gw _
      simp [scanRoutes, hpos r hr, hg]
    | cons a l ih =>
      intro gw hl
      rw [List.cons_append, scanRoutes, if_neg (hl a List.mem_cons_self)]
      exact ih _ fun r' hr' => hl r' (List.mem_cons_of_mem _ hr')
  have hone : rs.filter (fun x => x = r) = [r] := by
    rw [List.filter_eq, List.count_eq_one_of_mem hnodup hr]
    rfl
  have h := happend (rs.filter fun x => x ≠ r) none
    fun r' hr' => hpos r' (List.mem_of_mem_filter hr')
  simpa [IterationOrder.last, hone] using h

/-! ### The maps that leak nothing -/

/-- Every IPv4 destination has a route, and no IPv4 route a gateway of the other family. -/
structure NoLeak (m : RouteMap) : Prop where
  default : ∃ gateway, (⟨v4Loopback, 0, gateway⟩ : Route) ∈ m
  gateways : ∀ r ∈ m, r.address.isInet4 = true → ∀ g, r.gateway = some g → g.isInet4 = true
  lookup : ∀ order raw, ∃ r, routeForDestination order m (.inet4 raw) = some r ∧
    ∀ g, r.gateway = some g → g.isInet4 = true

theorem noLeak_of {m : RouteMap} (hdef : ∃ gateway, (⟨v4Loopback, 0, gateway⟩ : Route) ∈ m)
    (hgw : ∀ r ∈ m, r.address.isInet4 = true → ∀ g, r.gateway = some g → g.isInet4 = true) :
    NoLeak m := by
  refine ⟨hdef, hgw, fun order raw => ?_⟩
  obtain ⟨gateway, hmem⟩ := hdef
  have hsome : (routeForDestination order m (.inet4 raw)).isSome :=
    routeForDestination_isSome hmem (Route.belongsToRoute_default raw gateway)
  obtain ⟨r, hr⟩ := Option.isSome_iff_exists.mp hsome
  obtain ⟨hrm, hb⟩ := mem_of_routeForDestination hr
  exact ⟨r, hr, hgw r hrm (Route.isInet4_of_belongsToRoute hb)⟩

/-- Prefix lengths in range, gateways of the family of their target. -/
structure Valid (config : VirtualNetworkConfig) : Prop where
  addresses : ∀ a ∈ config.assignedAddresses, a.port ≤ if a.address.isInet4 then 32 else 128
  targets : ∀ rc ∈ config.routes, rc.target.port ≤ if rc.target.address.isInet4 then 32 else 128
  vias : ∀ rc ∈ config.routes, ∀ via, rc.via = some via →
    via.address.isInet4 = rc.target.address.isInet4

/-- An enabled entry of prefix length 0, of IPv4 or of IPv6. -/
def HasDefault (disableIPv6 : Bool) (config : VirtualNetworkConfig) (inet4 : Bool) : Prop :=
  (∃ a ∈ config.assignedAddresses,
      Enabled disableIPv6 a.address ∧ a.address.isInet4 = inet4 ∧ a.port = 0) ∨
    ∃ rc ∈ config.routes, Enabled disableIPv6 rc.target.address ∧
      rc.target.address.isInet4 = inet4 ∧ rc.target.port = 0

/-- An enabled IPv6 route with a gateway. -/
def HasIPv6Gateway (disableIPv6 : Bool) (config : VirtualNetworkConfig) : Prop :=
  ∃ rc ∈ config.routes, Enabled disableIPv6 rc.target.address ∧
    rc.target.address.isInet4 = false ∧ rc.via.isSome = true

theorem IsRouteTo.family {target : InetSocketAddress} {gateway : Option InetAddress} {r : Route}
    (h : IsRouteTo target gateway r) : r.address.isInet4 = target.address.isInet4 := by
  obtain ⟨p, hp, hfam⟩ := addressToRoute_family target.address target.port
  have := h.address
  rw [hp, Option.some.injEq] at this
  rw [← this, hfam]

section Decision

variable {builder : Builder} {disableIPv6 : Bool} {networkId : BitVec 64}
  {config : VirtualNetworkConfig} {m : RouteMap}

theorem exists_default_iff (h : buildRoutes builder disableIPv6 true networkId config = .ok m)
    (inet4 : Bool) :
    (∃ r ∈ m, r.prefixLength = 0 ∧ r.address.isInet4 = inet4) ↔
      HasDefault disableIPv6 config inet4 := by
  constructor
  · rintro ⟨r, hr, h0, hfam⟩
    rcases (mem_buildRoutes h r).mp hr with ⟨a, ha, hen, hroute⟩ | ⟨rc, hrc, hen, hroute⟩
    · exact Or.inl ⟨a, ha, hen, hroute.family.symm.trans hfam, hroute.prefixLength.symm.trans h0⟩
    · exact Or.inr ⟨rc, hrc, hen, hroute.family.symm.trans hfam,
        hroute.prefixLength.symm.trans h0⟩
  · rintro (⟨a, ha, hen, hfam, h0⟩ | ⟨rc, hrc, hen, hfam, h0⟩)
    · obtain ⟨p, hp, hpf⟩ := addressToRoute_family a.address a.port
      exact ⟨⟨p, a.port, none⟩, (mem_buildRoutes h _).mpr (Or.inl ⟨a, ha, hen, hp, rfl, rfl⟩),
        h0, hpf.trans hfam⟩
    · obtain ⟨p, hp, hpf⟩ := addressToRoute_family rc.target.address rc.target.port
      exact ⟨⟨p, rc.target.port, rc.via.map (·.address)⟩,
        (mem_buildRoutes h _).mpr (Or.inr ⟨rc, hrc, hen, hp, rfl, rfl⟩), h0, hpf.trans hfam⟩

/-- In a valid configuration every gateway is of the family of its route. -/
theorem gateway_family (hvalid : Valid config)
    (h : buildRoutes builder disableIPv6 true networkId config = .ok m) {r : Route} (hr : r ∈ m)
    {g : InetAddress} (hg : r.gateway = some g) : g.isInet4 = r.address.isInet4 := by
  rcases (mem_buildRoutes h r).mp hr with ⟨a, -, -, hroute⟩ | ⟨rc, hrc, -, hroute⟩
  · rw [hroute.gateway] at hg
    cases hg
  · rw [hroute.gateway, Option.map_eq_some_iff] at hg
    obtain ⟨via, hvia, rfl⟩ := hg
    rw [hroute.family, hvalid.vias rc hrc via hvia]

theorem exists_prefix_zero_iff (order : IterationOrder Route) (m : RouteMap) :
    (scanRoutes (order.arrange m.keys) none).1 = true ↔ ∃ r ∈ m, r.prefixLength = 0 := by
  rw [scanRoutes_fst]
  simp only [order.mem_arrange, AList.mem_keys]

/-- Either some route has prefix length 0 and the map stays as it is, or the default
route is added. -/
theorem addDefaultRoute_eq_ok {order : IterationOrder Route} {m' : RouteMap} :
    addDefaultRoute builder networkId order m = .ok m' ↔
      ((∃ r ∈ m, r.prefixLength = 0) ∧ m' = m) ∨
      ((∀ r ∈ m, r.prefixLength ≠ 0) ∧ builder.addRoute v4Loopback 0 = .ok () ∧
        m' = m.insert ⟨v4Loopback, 0, some ((scanRoutes (order.arrange m.keys) none).2.getD
          fallbackGateway)⟩ networkId) := by
  have hscan := exists_prefix_zero_iff order m
  unfold addDefaultRoute
  by_cases h : ∃ r ∈ m, r.prefixLength = 0
  · have hpos : ¬ ∀ r ∈ m, r.prefixLength ≠ 0 := by simpa using h
    simp [hscan.mpr h, h, hpos, eq_comm]
  · have hfalse : (scanRoutes (order.arrange m.keys) none).1 = false := by
      simpa using mt hscan.mp h
    have hpos : ∀ r ∈ m, r.prefixLength ≠ 0 := by simpa using h
    cases hb : builder.addRoute v4Loopback 0 with
    | error e => simp [hfalse, h]
    | ok u =>
      simp only [hfalse, h, false_and, false_or, and_iff_right hpos, true_and]
      simp [eq_comm]

theorem updateTunnelConfig_eq_ok {order : IterationOrder Route} {m' : RouteMap} :
    updateTunnelConfig builder disableIPv6 true networkId order config = .ok m' ↔
      ∃ m, buildRoutes builder disableIPv6 true networkId config = .ok m ∧
        addDefaultRoute builder networkId order m = .ok m' := by
  simp [updateTunnelConfig, bind_eq_ok]

/-- A default route among the others is one of IPv4 exactly when it is `0.0.0.0/0`. -/
theorem eq_default (h : buildRoutes builder disableIPv6 true networkId config = .ok m) {r : Route}
    (hr : r ∈ m) (h0 : r.prefixLength = 0) (h4 : r.address.isInet4 = true) :
    r = ⟨v4Loopback, 0, r.gateway⟩ := by
  have hzero : ∀ target gateway, IsRouteTo target gateway r → r.address = v4Loopback := by
    intro target gateway hroute
    have ha := hroute.address
    rw [← hroute.prefixLength, h0] at ha
    have hfam := hroute.family
    cases ht : target.address with
    | inet4 raw =>
      rw [ht, addressToRoute_inet4_zero] at ha
      exact (Option.some.inj ha).symm
    | inet6 raw hraw =>
      rw [ht, h4] at hfam
      simp [InetAddress.isInet4] at hfam
  have haddr : r.address = v4Loopback := by
    rcases (mem_buildRoutes h r).mp hr with ⟨a, -, -, hroute⟩ | ⟨rc, -, -, hroute⟩
    · exact hzero _ _ hroute
    · exact hzero _ _ hroute
  cases r
  simp_all

/-- An order that hands out an IPv6 route last lends its gateway to the default route. -/
theorem exists_leak (hvalid : Valid config)
    (hb : buildRoutes builder disableIPv6 true networkId config = .ok m)
    (hpos : ∀ r ∈ m, r.prefixLength ≠ 0) (hacc : builder.addRoute v4Loopback 0 = .ok ())
    (h6 : HasIPv6Gateway disableIPv6 config) :
    ∃ order m', addDefaultRoute builder networkId order m = .ok m' ∧ ¬ NoLeak m' := by
  obtain ⟨rc, hrc, hen, hfam, hvia⟩ := h6
  obtain ⟨via, hvia⟩ := Option.isSome_iff_exists.mp hvia
  obtain ⟨p, hp, -⟩ := addressToRoute_family rc.target.address rc.target.port
  have hr : (⟨p, rc.target.port, some via.address⟩ : Route) ∈ m :=
    (mem_buildRoutes hb _).mpr (Or.inr ⟨rc, hrc, hen, hp, rfl, by rw [hvia]; rfl⟩)
  have hscan := scanRoutes_last (AList.keys_nodup m) (AList.mem_keys.mp hr) rfl
    fun r hr => hpos r (AList.mem_keys.mpr hr)
  refine ⟨.last ⟨p, rc.target.port, some via.address⟩, _,
    addDefaultRoute_eq_ok.mpr (Or.inr ⟨hpos, hacc, rfl⟩), fun hno => ?_⟩
  rw [hscan] at hno
  have h4 := hno.gateways _ ((AList.mem_insert _).mpr (Or.inl rfl)) rfl via.address rfl
  rw [hvalid.vias rc hrc via hvia, hfam] at h4
  cases h4

/-- A map with an IPv4 default of its own is not changed and leaks nothing. -/
theorem noLeak_of_hasDefault (hvalid : Valid config)
    (hb : buildRoutes builder disableIPv6 true networkId config = .ok m)
    (h4 : HasDefault disableIPv6 config true) : NoLeak m := by
  obtain ⟨r, hr, h0, hr4⟩ := (exists_default_iff hb true).mpr h4
  refine noLeak_of ⟨r.gateway, ?_⟩ fun r hr h4 g hg => (gateway_family hvalid hb hr hg).trans h4
  rw [← eq_default hb hr h0 hr4]
  exact hr

/-- Without IPv6 gateways the added default route has one of IPv4. -/
theorem noLeak_insert_default (hvalid : Valid config)
    (hb : buildRoutes builder disableIPv6 true networkId config = .ok m)
    (h6 : ¬ HasIPv6Gateway disableIPv6 config) (order : IterationOrder Route) :
    NoLeak (m.insert ⟨v4Loopback, 0, some ((scanRoutes (order.arrange m.keys) none).2.getD
      fallbackGateway)⟩ networkId) := by
  have hall : ∀ r ∈ m, ∀ g, r.gateway = some g → g.isInet4 = true := by
    intro r hr g hg
    rcases (mem_buildRoutes hb r).mp hr with ⟨a, -, -, hroute⟩ | ⟨rc, hrc, hen, hroute⟩
    · rw [hroute.gateway] at hg
      cases hg
    · rw [gateway_family hvalid hb hr hg, hroute.family]
      by_contra hfam
      rw [hroute.gateway, Option.map_eq_some_iff] at hg
      obtain ⟨via, hvia, -⟩ := hg
      exact h6 ⟨rc, hrc, hen, by simpa using hfam, by rw [hvia]; rfl⟩
  have hscan : ∀ g, (scanRoutes (order.arrange m.keys) none).2 = some g → g.isInet4 = true := by
    apply scanRoutes_snd
    · intro g hg
      cases hg
    · intro r hr
      exact hall r (AList.mem_keys.mpr ((order.mem_arrange _ _).mp hr))
  refine noLeak_of ⟨_, (AList.mem_insert _).mpr (Or.inl rfl)⟩ fun r hr _ g hg => ?_
  rcases (AList.mem_insert _).mp hr with rfl | hr
  · cases hs : (scanRoutes (order.arrange m.keys) none).2 with
    | none =>
      simp only [hs, Option.getD_none, Option.some.injEq] at hg
      rw [← hg]
      rfl
    | some g' =>
      simp only [hs, Option.getD_some, Option.some.injEq] at hg
      rw [← hg]
      exact hscan g' hs
  · exact hall r hr g hg

end Decision

/-- The configurations without a leak: there is an IPv4 default of its own, or nothing of
IPv6 can be mistaken for one or lend it a gateway. -/
def Safe (disableIPv6 : Bool) (config : VirtualNetworkConfig) : Prop :=
  HasDefault disableIPv6 config true ∨
    (¬ HasDefault disableIPv6 config false ∧ ¬ HasIPv6Gateway disableIPv6 config)

/-- When all traffic is routed through the network and the phase completes, the route map
is right under every iteration order exactly for the safe configurations. -/
theorem noLeak_iff_safe (builder : Builder) (disableIPv6 : Bool) (networkId : BitVec 64)
    (config : VirtualNetworkConfig) (hvalid : Valid config) (order₀ : IterationOrder Route)
    (m₀ : RouteMap)
    (hdone : updateTunnelConfig builder disableIPv6 true networkId order₀ config = .ok m₀) :
    (∀ order m, updateTunnelConfig builder disableIPv6 true networkId order config = .ok m →
      NoLeak m) ↔ Safe disableIPv6 config := by
  obtain ⟨b, hb, hdone⟩ := updateTunnelConfig_eq_ok.mp hdone
  have hdefault := exists_default_iff hb
  constructor
  · intro hall
    by_contra hbad
    obtain ⟨hno4, hleak⟩ := not_or.mp hbad
    rcases addDefaultRoute_eq_ok.mp hdone with ⟨-, rfl⟩ | ⟨hpos, hacc, -⟩
    · -- an IPv6 default has stopped the search, so there is none for IPv4
      obtain ⟨gateway, hmem⟩ :=
        (hall order₀ m₀ (updateTunnelConfig_eq_ok.mpr ⟨m₀, hb, hdone⟩)).default
      exact hno4 ((hdefault true).mp ⟨_, hmem, rfl, rfl⟩)
    · have hno6 : ¬ HasDefault disableIPv6 config false := by
        rw [← hdefault false]
        rintro ⟨r, hr, h0, -⟩
        exact hpos r hr h0
      have h6 : HasIPv6Gateway disableIPv6 config := not_not.mp fun h => hleak ⟨hno6, h⟩
      obtain ⟨order, m, hm, hno⟩ := exists_leak hvalid hb hpos hacc h6
      exact hno (hall order m (updateTunnelConfig_eq_ok.mpr ⟨b, hb, hm⟩))
  · intro hsafe order m hm
    obtain ⟨b', hb', hm⟩ := updateTunnelConfig_eq_ok.mp hm
    cases hb.symm.trans hb'
    rcases addDefaultRoute_eq_ok.mp hm with ⟨⟨r, hr, h0⟩, rfl⟩ | ⟨hpos, -, rfl⟩
    · rcases hsafe with h4 | ⟨hno6, -⟩
      · exact noLeak_of_hasDefault hvalid hb h4
      · rw [← hdefault false] at hno6
        have h4 : r.address.isInet4 = true := by
          by_contra h6
          exact hno6 ⟨r, hr, h0, by simpa using h6⟩
        exact noLeak_of_hasDefault hvalid hb ((hdefault true).mp ⟨r, hr, h0, h4⟩)
    · rcases hsafe with h4 | ⟨-, hno6⟩
      · obtain ⟨r, hr, h0, -⟩ := (hdefault true).mpr h4
        exact absurd h0 (hpos r hr)
      · exact noLeak_insert_default hvalid hb hno6 order

/-- A builder that takes everything. -/
def permissive : Builder := ⟨fun _ _ => true, fun _ _ => true⟩

/-- The address `10.147.17.5/24` and the given managed routes. -/
def configWith (routes : List VirtualNetworkRoute) : VirtualNetworkConfig :=
  ⟨1, 2, [⟨.inet4 0x0a931105, 24⟩], routes⟩

/-- A managed IPv4 default route through `10.147.17.1`. -/
def managedDefault : VirtualNetworkRoute := ⟨⟨v4Loopback, 0⟩, some ⟨.inet4 0x0a931101, 0⟩⟩

/-- A managed IPv6 default route through `::1:0`. -/
def managedDefault6 : VirtualNetworkRoute :=
  ⟨⟨v6Loopback, 0⟩, some ⟨.inet6 0x10000 (by decide), 0⟩⟩

theorem valid_configWith {routes : List VirtualNetworkRoute}
    (h : routes = [managedDefault] ∨ routes = [managedDefault6]) : Valid (configWith routes) := by
  refine ⟨by simp [configWith, InetAddress.isInet4], ?_, ?_⟩
  · rcases h with rfl | rfl <;> simp [configWith, managedDefault, managedDefault6]
  · rcases h with rfl | rfl <;>
      simp [configWith, managedDefault, managedDefault6, v4Loopback, v6Loopback,
        InetAddress.isInet4]

theorem noLeak_managedDefault :
    ∃ m, updateTunnelConfig permissive false true 1 .id (configWith [managedDefault]) = .ok m ∧
      NoLeak m :=
  ⟨_, rfl, (noLeak_iff_safe permissive false 1 _ (valid_configWith (Or.inl rfl)) .id _ rfl).mpr
    (Or.inl (Or.inr ⟨managedDefault, by decide, Or.inl rfl, rfl, rfl⟩)) .id _ rfl⟩

/-- With a managed IPv6 default route, IPv4 destinations are left without a route. -/
theorem leak_managedDefault6 :
    Valid (configWith [managedDefault6]) ∧
      ∃ m, updateTunnelConfig permissive false true 1 .id (configWith [managedDefault6]) = .ok m ∧
        ¬ NoLeak m := by
  refine ⟨valid_configWith (Or.inr rfl), _, rfl, fun h => ?_⟩
  obtain ⟨r, hr, -⟩ := h.lookup .id 0x08080808
  have hnone : (none : Option Route) = some r := hr
  cases hnone

end TunnelConfig

end XnetZt
