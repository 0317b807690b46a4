import XnetZt.Net.NetworkPrefix
import XnetZt.Service.TunnelConfig

/-!
# Longest-prefix lookup in the adapter's route map

`routeForDestination` keeps the best route seen so far while it walks the key set in
whatever order the hash map has. What it returns is a longest match; which one, among
several of the same length, depends on the order. For IPv4 destinations matching is
agreement on the leading bits, so the lookup is the usual one. Two managed routes to
one target with different gateways tie, and then the next hop depends on the order.
-/

namespace XnetZt

variable {order : IterationOrder Route} {routeMap : RouteMap} {d : InetAddress}

/-- `d` belongs to `r`, and to no route of the set with a longer prefix. -/
structure IsLongestMatch (routes : Set Route) (d : InetAddress) (r : Route) : Prop where
  mem : r ∈ routes
  belongs : r.belongsToRoute d = true
  longest : ∀ r' ∈ routes, r'.belongsToRoute d = true → r'.prefixLength ≤ r.prefixLength

theorem IsLongestMatch.prefixLength_eq {routes : Set Route} {r r' : Route}
    (h : IsLongestMatch routes d r) (h' : IsLongestMatch routes d r') :
    r.prefixLength = r'.prefixLength :=
  Nat.le_antisymm (h'.longest r h.mem h.belongs) (h.longest r' h'.mem h'.belongs)

/-! ### The loop -/

/-- One round never gives up a longer prefix, and takes in the route it looks at. -/
theorem prefixLength_betterRoute {best : Option Route} {route r : Route}
    (h : betterRoute d best route = some r) :
    (∀ b, best = some b → b.prefixLength ≤ r.prefixLength) ∧
      (route.belongsToRoute d = true → route.prefixLength ≤ r.prefixLength) := by
  unfold betterRoute at h
  split_ifs at h with hb
  · cases best with
    | none =>
      obtain rfl := Option.some.inj h
      simp
    | some b =>
      dsimp only at h
      split_ifs at h with hlonger
      · obtain rfl := Option.some.inj h
        exact ⟨by rintro _ ⟨⟩; omega, fun _ => le_rfl⟩
      · obtain rfl := Option.some.inj h
        exact ⟨by rintro _ ⟨⟩; exact le_rfl, fun _ => by omega⟩
  · subst h
    exact ⟨by rintro _ ⟨⟩; exact le_rfl, fun hb' => absurd hb' hb⟩

theorem prefixLength_foldl_betterRoute {routes : List Route} {best : Option Route} {r : Route}
    (h : routes.foldl (betterRoute d) best = some r) :
    (∀ b, best = some b → b.prefixLength ≤ r.prefixLength) ∧
      ∀ r' ∈ routes, r'.belongsToRoute d = true → r'.prefixLength ≤ r.prefixLength := by
  induction routes generalizing best with
  | nil =>
    subst h
    exact ⟨by rintro _ ⟨⟩; exact le_rfl, by simp⟩
  | cons route routes ih =>
    obtain ⟨hbest, hroutes⟩ := ih h
    -- the best route after this round is the one the rest of the walk starts from
    have hround : ∀ b, (best = some b ∨ b = route ∧ route.belongsToRoute d = true) →
        b.prefixLength ≤ r.prefixLength := by
      intro b hb
      have hsome : (betterRoute d best route).isSome := by
        apply betterRoute_isSome
        rcases hb with rfl | ⟨-, hb⟩
        · exact Or.inl rfl
        · exact Or.inr hb
      obtain ⟨c, hc⟩ := Option.isSome_iff_exists.mp hsome
      obtain ⟨hold, hnew⟩ := prefixLength_betterRoute hc
      have hcr := hbest c hc
      rcases hb with hb | ⟨rfl, hb⟩
      · exact (hold b hb).trans hcr
      · exact (hnew hb).trans hcr
    refine ⟨fun b hb => hround b (Or.inl hb), ?_⟩
    intro r' hr' hb
    rcases List.mem_cons.mp hr' with rfl | hr'
    · exact hround r' (Or.inr ⟨rfl, hb⟩)
    · exact hroutes r' hr' hb

/-- A route that no other one beats stays. -/
theorem foldl_betterRoute_eq {routes : List Route} {r : Route}
    (h : ∀ r' ∈ routes, r'.belongsToRoute d = true → r'.prefixLength ≤ r.prefixLength) :
    routes.foldl (betterRoute d) (some r) = some r := by
  induction routes with
  | nil => rfl
  | cons route routes ih =>
    have hround : betterRoute d (some r) route = some r := by
      unfold betterRoute
      split_ifs with hb
      · have hle := h route List.mem_cons_self hb
        exact if_neg (by omega)
      · rfl
    rw [List.foldl_cons, hround]
    exact ih fun r' hr' => h r' (List.mem_cons_of_mem _ hr')

/-! ### The lookup -/

theorem isLongestMatch_of_routeForDestination {r : Route}
    (h : routeForDestination order routeMap d = some r) :
    IsLongestMatch {r | r ∈ routeMap} d r := by
  obtain ⟨hmem, hbelongs⟩ := mem_of_routeForDestination h
  refine ⟨hmem, hbelongs, ?_⟩
  intro r' hr' hb
  apply (prefixLength_foldl_betterRoute h).2 r' _ hb
  exact (order.mem_arrange _ _).mpr (AList.mem_keys.mp hr')

theorem routeForDestination_eq_none_iff :
    routeForDestination order routeMap d = none ↔ ∀ r ∈ routeMap, ¬ r.belongsToRoute d = true := by
  constructor
  · intro h r hr hb
    have hsome : (routeForDestination order routeMap d).isSome := routeForDestination_isSome hr hb
    rw [h] at hsome
    cases hsome
  · intro h
    cases hr : routeForDestination order routeMap d with
    | none => rfl
    | some r =>
      obtain ⟨hmem, hb⟩ := mem_of_routeForDestination hr
      exact absurd hb (h r hmem)

/-- Every longest match is what the lookup returns under some iteration order. -/
theorem routeForDestination_first {r : Route} (h : IsLongestMatch {r | r ∈ routeMap} d r) :
    routeForDestination (.first r) routeMap d = some r := by
  have hmem : r ∈ routeMap.keys := AList.mem_keys.mp h.mem
  have hstart : betterRoute d none r = some r := if_pos h.belongs
  rw [routeForDestination, IterationOrder.arrange_first hmem, List.foldl_cons, hstart]
  apply foldl_betterRoute_eq
  intro r' hr' hb
  exact h.longest r' (AList.mem_keys.mpr (List.mem_of_mem_erase hr')) hb

/-! ### IPv4 destinations -/

/-- A route to the prefix of some address, of a length in range for its family. -/
def Route.IsPrefixRoute (r : Route) : Prop :=
  ∃ x : InetAddress, r.prefixLength ≤ x.width ∧ addressToRoute x r.prefixLength = some r.address

/-- For an IPv4 address, belonging to such a route is agreeing on the leading bits. -/
theorem Route.IsPrefixRoute.belongsToRoute_inet4 {r : Route} (h : r.IsPrefixRoute)
    (raw : BitVec 32) :
    r.belongsToRoute (.inet4 raw) = true ↔ r.address.AgreeOn r.prefixLength (.inet4 raw) := by
  obtain ⟨x, hp, hx⟩ := h
  obtain ⟨hfamily, hbits⟩ := bit_of_addressToRoute hp hx
  have hiff : r.belongsToRoute (.inet4 raw) = true ↔ _ := belongsToRoute_iff hp hx
  rw [hiff]
  cases x with
  | inet6 y hy =>
    -- the families differ
    have hr : r.address.isInet4 = false := hfamily
    constructor
    · rintro ⟨hne, -⟩
      cases hne
    · rintro ⟨hne, -⟩
      rw [hr] at hne
      cases hne
  | inet4 y =>
    have hkept : ∀ i < r.prefixLength, r.address.bit i = (InetAddress.inet4 y).bit i := by
      intro i hi
      have hdropped := InetAddress.not_droppedBit_inet4 y r.prefixLength i
      rw [hbits]
      simp [hi, hdropped]
    constructor
    · rintro ⟨-, hagree⟩
      refine ⟨hfamily, ?_⟩
      intro i hi
      rw [hkept i hi, hagree i hi (InetAddress.not_droppedBit_inet4 y _ i)]
    · rintro ⟨-, hagree⟩
      refine ⟨rfl, ?_⟩
      intro i hi _
      rw [← hkept i hi, hagree i hi]

/-- The IPv4 lookup is longest-prefix match, whatever IPv6 routes the map holds. -/
theorem routeForDestination_inet4 (hmap : ∀ r ∈ routeMap, r.IsPrefixRoute)
    (order : IterationOrder Route) (raw : BitVec 32) :
    (routeForDestination order routeMap (.inet4 raw) = none ↔
      ∀ r ∈ routeMap, ¬ r.address.AgreeOn r.prefixLength (.inet4 raw)) ∧
    ∀ r, routeForDestination order routeMap (.inet4 raw) = some r →
      r ∈ routeMap ∧ r.address.isInet4 = true ∧
      r.address.AgreeOn r.prefixLength (.inet4 raw) ∧
      ∀ r' ∈ routeMap, r'.address.AgreeOn r'.prefixLength (.inet4 raw) →
        r'.prefixLength ≤ r.prefixLength := by
  constructor
  · rw [routeForDestination_eq_none_iff]
    refine forall₂_congr fun r hr => ?_
    rw [(hmap r hr).belongsToRoute_inet4]
  · intro r hr
    have h := isLongestMatch_of_routeForDestination hr
    have hagree := ((hmap r h.mem).belongsToRoute_inet4 raw).mp h.belongs
    refine ⟨h.mem, hagree.family, hagree, ?_⟩
    intro r' hr' hagree'
    exact h.longest r' hr' (((hmap r' hr').belongsToRoute_inet4 raw).mpr hagree')

/-- `10.0.0.0/8`, `10.147.17.0/24` and `fd00::/60` in one map. -/
def mixedRoutes : RouteMap :=
  ((AList.insert ⟨.inet4 0x0a000000, 8, none⟩ 1 ∅).insert ⟨.inet4 0x0a931100, 24, none⟩ 1).insert
    ⟨.inet6 0xf0000000000000000000000000000000 (by decide), 60, none⟩ 1

theorem routeForDestination_mixedRoutes :
    (∀ r ∈ mixedRoutes, r.IsPrefixRoute) ∧
      ∀ order, routeForDestination order mixedRoutes (.inet4 0x0a931105) ≠ none := by
  have hmap : ∀ r ∈ mixedRoutes, r.IsPrefixRoute := by
    intro r hr
    simp only [mixedRoutes, AList.mem_insert] at hr
    rcases hr with rfl | rfl | rfl | hr
    · exact ⟨.inet6 0xfd000000000000000000000000000000 (by decide), by decide, by decide +kernel⟩
    · exact ⟨.inet4 0x0a931105, by decide, by decide +kernel⟩
    · exact ⟨.inet4 0x0a931105, by decide, by decide +kernel⟩
    · exact absurd hr (AList.notMem_empty r)
  refine ⟨hmap, ?_⟩
  intro order hnone
  refine (routeForDestination_inet4 hmap order 0x0a931105).1.mp hnone
    ⟨.inet4 0x0a000000, 8, none⟩ (by decide) ⟨rfl, by decide⟩

/-! ### The next hop and the iteration order -/

/-- The route map after these calls of `addRouteAndNetwork` on an empty one. -/
def addRoutesAndNetworks (calls : List (Route × BitVec 64)) : RouteMap :=
  calls.foldl (fun routeMap call => routeMap.insert call.1 call.2) ∅

theorem mem_addRoutesAndNetworks (calls : List (Route × BitVec 64)) (r : Route) :
    r ∈ addRoutesAndNetworks calls ↔ ∃ call ∈ calls, call.1 = r := by
  have hfold : ∀ m : RouteMap, r ∈ calls.foldl (fun m call => m.insert call.1 call.2) m ↔
      r ∈ m ∨ ∃ call ∈ calls, call.1 = r := by
    induction calls with
    | nil => simp
    | cons call calls ih =>
      intro m
      rw [List.foldl_cons, ih, AList.mem_insert, List.exists_mem_cons_iff, eq_comm]
      tauto
  simpa [addRoutesAndNetworks] using hfold ∅

/-- The prefix length and the gateway that the lookup finds. -/
def prefixAndGateway (order : IterationOrder Route) (routeMap : RouteMap) (d : InetAddress) :
    Option (ℕ × Option InetAddress) :=
  (routeForDestination order routeMap d).map fun r => (r.prefixLength, r.gateway)

/-- Neither the order of the calls nor that of the hash map shows in the next hop. -/
def NextHopIndependent (calls : Multiset (Route × BitVec 64)) (d : InetAddress) : Prop :=
  ∀ calls₁ calls₂ : List (Route × BitVec 64), (calls₁ : Multiset _) = calls →
    (calls₂ : Multiset _) = calls → ∀ order₁ order₂,
      prefixAndGateway order₁ (addRoutesAndNetworks calls₁) d =
        prefixAndGateway order₂ (addRoutesAndNetworks calls₂) d

/-- The routes of a multiset of calls. -/
def routesOf (calls : Multiset (Route × BitVec 64)) : Set Route := {r | ∃ call ∈ calls, call.1 = r}

theorem mem_addRoutesAndNetworks_coe {calls : Multiset (Route × BitVec 64)}
    {l : List (Route × BitVec 64)} (h : (l : Multiset _) = calls) :
    {r | r ∈ addRoutesAndNetworks l} = routesOf calls := by
  subst h
  ext r
  simp [routesOf, mem_addRoutesAndNetworks]

/-- The next hop for `d` does not depend on the order exactly if all longest matches have
one gateway. -/
theorem nextHopIndependent_iff (calls : Multiset (Route × BitVec 64)) (d : InetAddress) :
    NextHopIndependent calls d ↔
      ∀ r r', IsLongestMatch (routesOf calls) d r → IsLongestMatch (routesOf calls) d r' →
        r.gateway = r'.gateway := by
  constructor
  · intro h r r' hr hr'
    obtain ⟨l, rfl⟩ := Quot.exists_rep calls
    have hl : {r | r ∈ addRoutesAndNetworks l} = routesOf (l : Multiset _) :=
      mem_addRoutesAndNetworks_coe rfl
    have heq := h l l rfl rfl (.first r) (.first r')
    rw [prefixAndGateway, prefixAndGateway, routeForDestination_first (by rw [hl]; exact hr),
      routeForDestination_first (by rw [hl]; exact hr')] at heq
    simpa using (Prod.ext_iff.mp (Option.some.inj heq)).2
  · intro h calls₁ calls₂ h₁ h₂ order₁ order₂
    have hm₁ := mem_addRoutesAndNetworks_coe h₁
    have hm₂ := mem_addRoutesAndNetworks_coe h₂
    have hnone : routeForDestination order₁ (addRoutesAndNetworks calls₁) d = none ↔
        routeForDestination order₂ (addRoutesAndNetworks calls₂) d = none := by
      rw [routeForDestination_eq_none_iff, routeForDestination_eq_none_iff]
      have hmem : ∀ r, r ∈ addRoutesAndNetworks calls₁ ↔ r ∈ addRoutesAndNetworks calls₂ := by
        intro r
        exact Set.ext_iff.mp (hm₁.trans hm₂.symm) r
      exact forall_congr' fun r => by rw [hmem]
    cases hr₁ : routeForDestination order₁ (addRoutesAndNetworks calls₁) d with
    | none => rw [prefixAndGateway, prefixAndGateway, hr₁, hnone.mp hr₁]
    | some r₁ =>
      cases hr₂ : routeForDestination order₂ (addRoutesAndNetworks calls₂) d with
      | none =>
        rw [hnone.mpr hr₂] at hr₁
        cases hr₁
      | some r₂ =>
        have hb₁ := isLongestMatch_of_routeForDestination hr₁
        have hb₂ := isLongestMatch_of_routeForDestination hr₂
        rw [hm₁] at hb₁
        rw [hm₂] at hb₂
        rw [prefixAndGateway, prefixAndGateway, hr₁, hr₂, Option.map_some, Option.map_some,
          hb₁.prefixLength_eq hb₂, h r₁ r₂ hb₁ hb₂]

/-- A managed route to `10.9.0.0/16` through the given gateway. -/
def managedVia (gateway : InetAddress) : VirtualNetworkRoute :=
  ⟨⟨.inet4 0x0a090000, 16⟩, some ⟨gateway, 0⟩⟩

/-- The calls for the assigned address and two such routes. -/
def tiedCalls : List (Route × BitVec 64) :=
  [(⟨.inet4 0x0a931100, 24, none⟩, 1),
    (⟨.inet4 0x0a090000, 16, some (.inet4 0x0a931101)⟩, 1),
    (⟨.inet4 0x0a090000, 16, some (.inet4 0x0a931102)⟩, 1)]

/-- Two managed routes to one target through different gateways: the gateway for
`10.9.1.1` is whichever the hash map hands out first. -/
theorem not_nextHopIndependent_tiedCalls :
    TunnelConfig.updateTunnelConfig TunnelConfig.permissive false false 1 .id
        (TunnelConfig.configWith
          [managedVia (.inet4 0x0a931101), managedVia (.inet4 0x0a931102)]) =
      .ok (addRoutesAndNetworks tiedCalls) ∧
    ¬ NextHopIndependent tiedCalls (.inet4 0x0a090101) := by
  refine ⟨by rfl, ?_⟩
  intro h
  have heq := h tiedCalls tiedCalls rfl rfl
    (.first ⟨.inet4 0x0a090000, 16, some (.inet4 0x0a931101)⟩)
    (.first ⟨.inet4 0x0a090000, 16, some (.inet4 0x0a931102)⟩)
  revert heq
  decide +kernel

end XnetZt
