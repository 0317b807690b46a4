import XnetZt.Net.InetAddress

/-!
# Routes and longest-prefix lookup

`Route` is the data class of the same name; its equality compares all three fields,
so one network can be in a route map several times with different gateways. The
lookup walks the key set of the route map in the map's own iteration order.
-/

namespace XnetZt

structure Route where
  address : InetAddress
  prefixLength : ℕ
  gateway : Option InetAddress := none
  deriving DecidableEq

abbrev RouteMap := HashMap Route (BitVec 64)

namespace Route

def belongsToRoute (r : Route) (inetAddress : InetAddress) : Bool :=
  decide (addressToRoute inetAddress r.prefixLength = some r.address)

/-- A route to which an address belongs is of the family of that address. -/
theorem isInet4_of_belongsToRoute {r : Route} {a : InetAddress} (h : r.belongsToRoute a = true) :
    r.address.isInet4 = a.isInet4 := by
  obtain ⟨p, hp, hfam⟩ := addressToRoute_family a r.prefixLength
  have hr : addressToRoute a r.prefixLength = some r.address := by
    simpa [belongsToRoute] using h
  rw [hp, Option.some.injEq] at hr
  rw [← hr, hfam]

/-- Every IPv4 address belongs to `0.0.0.0/0`, whatever its gateway. -/
theorem belongsToRoute_default (raw : BitVec 32) (gateway : Option InetAddress) :
    belongsToRoute ⟨.inet4 0, 0, gateway⟩ (.inet4 raw) = true := by
  simp [belongsToRoute, addressToRoute_inet4_zero]

end Route

/-- One round of the lookup loop. -/
def betterRoute (destAddress : InetAddress) (best : Option Route) (route : Route) : Option Route :=
  if route.belongsToRoute destAddress then
    match best with
    | none => some route
    | some b => if route.prefixLength > b.prefixLength then some route else some b
  else best

def routeForDestination (order : IterationOrder Route) (routeMap : RouteMap)
    (destAddress : InetAddress) : Option Route :=
  (order.arrange routeMap.keys).foldl (betterRoute destAddress) none

theorem betterRoute_isSome {d : InetAddress} {best : Option Route} {route : Route}
    (h : best.isSome ∨ route.belongsToRoute d = true) : (betterRoute d best route).isSome := by
  unfold betterRoute
  split_ifs with hb
  · cases best with
    | none => rfl
    | some b => dsimp only; split_ifs <;> rfl
  · simpa [hb] using h

theorem betterRoute_cases {d : InetAddress} {best : Option Route} {route r : Route}
    (h : betterRoute d best route = some r) :
    best = some r ∨ (r = route ∧ route.belongsToRoute d = true) := by
  unfold betterRoute at h
  split_ifs at h with hb
  · cases best with
    | none => exact Or.inr ⟨(Option.some.inj h).symm, hb⟩
    | some b =>
      dsimp only at h
      split_ifs at h
      · exact Or.inr ⟨(Option.some.inj h).symm, hb⟩
      · exact Or.inl h
  · exact Or.inl h

theorem foldl_betterRoute_isSome {d : InetAddress} {routes : List Route} {best : Option Route}
    (h : best.isSome ∨ ∃ r ∈ routes, r.belongsToRoute d = true) :
    (routes.foldl (betterRoute d) best).isSome := by
  induction routes generalizing best with
  | nil => simpa using h
  | cons route routes ih =>
    apply ih
    rcases h with h | ⟨r, hr, hb⟩
    · exact Or.inl (betterRoute_isSome (Or.inl h))
    · rcases List.mem_cons.mp hr with rfl | hr
      · exact Or.inl (betterRoute_isSome (Or.inr hb))
      · exact Or.inr ⟨r, hr, hb⟩

theorem foldl_betterRoute_cases {d : InetAddress} {routes : List Route} {best : Option Route}
    {r : Route} (h : routes.foldl (betterRoute d) best = some r) :
    best = some r ∨ (r ∈ routes ∧ r.belongsToRoute d = true) := by
  induction routes generalizing best with
  | nil => exact Or.inl h
  | cons route routes ih =>
    rcases ih h with hb | ⟨hr, hb⟩
    · rcases betterRoute_cases hb with hb | ⟨rfl, hb⟩
      · exact Or.inl hb
      · exact Or.inr ⟨List.mem_cons_self, hb⟩
    · exact Or.inr ⟨List.mem_cons_of_mem _ hr, hb⟩

variable {order : IterationOrder Route} {routeMap : RouteMap} {d : InetAddress}

/-- What the lookup returns is a key of the map to which the destination belongs. -/
theorem mem_of_routeForDestination {r : Route}
    (h : routeForDestination order routeMap d = some r) :
    r ∈ routeMap ∧ r.belongsToRoute d = true := by
  rcases foldl_betterRoute_cases h with h | ⟨hr, hb⟩
  · cases h
  · exact ⟨AList.mem_keys.mpr ((order.mem_arrange _ _).mp hr), hb⟩

theorem routeForDestination_isSome {r : Route} (hr : r ∈ routeMap)
    (hb : r.belongsToRoute d = true) : (routeForDestination order routeMap d).isSome :=
  foldl_betterRoute_isSome (Or.inr ⟨r, (order.mem_arrange _ _).mpr (AList.mem_keys.mp hr), hb⟩)

theorem routeForDestination_empty : routeForDestination order ∅ d = none := by
  cases h : routeForDestination order ∅ d with
  | none => rfl
  | some r => exact absurd (mem_of_routeForDestination h).1 (AList.notMem_empty r)

end XnetZt
