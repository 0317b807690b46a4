import XnetZt.Lib.Interleaving
import XnetZt.Service.NeighborTableInvariants

/-!
# A refresh racing with the timeout thread

`setAddress` and the removal of an expired entry each take four locks one after the
other, so the two threads interleave at the granularity of one map. The timeout thread
has decided to remove the entry before it takes the first lock. Below, every schedule
of a refresh and a removal of the same address and MAC is executed, and the schedules
that keep the refresh are exactly those that run each removal before the put on the
same map.
-/

namespace XnetZt.NeighborTable

/-- The four maps, each with its own lock. -/
inductive Field
  | inetAddressToMacAddress
  | macAddressToInetAddress
  | entriesMap
  | ipEntriesMap
  deriving DecidableEq

/-- One synchronized block. -/
inductive Action
  | put (f : Field)
  | remove (f : Field)
  deriving DecidableEq

def Action.field : Action → Field
  | put f => f
  | remove f => f

/-- The synchronized blocks of `setAddress`, in program order. -/
def setAddressActions : List Action :=
  [.put .inetAddressToMacAddress, .put .macAddressToInetAddress, .put .entriesMap,
    .put .ipEntriesMap]

/-- The synchronized blocks of one removal of the timeout thread, in program order. -/
def removeActions : List Action :=
  [.remove .macAddressToInetAddress, .remove .inetAddressToMacAddress, .remove .entriesMap,
    .remove .ipEntriesMap]

/-- One block executed for the entry object `e`: the new entry of a `setAddress`, or an
expired one with the same address and MAC. -/
def act (e : NeighborEntry) (t : NeighborTable) : Action → NeighborTable
  | .put .inetAddressToMacAddress =>
    { t with inetAddressToMacAddress := t.inetAddressToMacAddress.insert e.address e.mac }
  | .put .macAddressToInetAddress =>
    { t with macAddressToInetAddress := t.macAddressToInetAddress.insert e.mac e.address }
  | .put .entriesMap => { t with entriesMap := t.entriesMap.insert e.mac e }
  | .put .ipEntriesMap => { t with ipEntriesMap := t.ipEntriesMap.insert e.address e }
  | .remove .inetAddressToMacAddress =>
    { t with inetAddressToMacAddress := t.inetAddressToMacAddress.erase e.address }
  | .remove .macAddressToInetAddress =>
    { t with macAddressToInetAddress := t.macAddressToInetAddress.erase e.mac }
  | .remove .entriesMap => { t with entriesMap := t.entriesMap.erase e.mac }
  | .remove .ipEntriesMap => { t with ipEntriesMap := t.ipEntriesMap.erase e.address }

/-- `new ARPEntry(..)`: the object is not in any map yet. -/
def allocate (t : NeighborTable) (now : ℕ) : NeighborTable :=
  { t with time := Function.update t.time t.nextRef now, nextRef := t.nextRef + 1 }

/-- Without interference the blocks of `setAddress` are `setAddress`. -/
theorem foldl_setAddressActions (t : NeighborTable) (now : ℕ) (a : InetAddress) (m : Mac) :
    setAddressActions.foldl (act ⟨t.nextRef, m, a⟩) (t.allocate now) = t.setAddress now a m :=
  rfl

/-- Without interference the blocks of a removal are `remove`. -/
theorem foldl_removeActions (t : NeighborTable) (e : NeighborEntry) :
    removeActions.foldl (act e) t = t.remove e :=
  rfl

/-- The schedule runs the removal on map `f` before the put on it. -/
def RemovesFirst (s : List Action) (f : Field) : Prop :=
  [Action.remove f, Action.put f].Sublist s

instance (s : List Action) (f : Field) : Decidable (RemovesFirst s f) :=
  inferInstanceAs (Decidable (List.Sublist _ _))

/-! ### The blocks on one map -/

variable {s : List Action}

theorem filter_field (hs : Interleaving setAddressActions removeActions s) (f : Field) :
    s.filter (·.field = f) = [.put f, .remove f] ∨
      s.filter (·.field = f) = [.remove f, .put f] := by
  have h := hs.filter (·.field = f)
  cases f <;> exact h.singleton_cases

theorem removesFirst_iff (hs : Interleaving setAddressActions removeActions s) (f : Field) :
    RemovesFirst s f ↔ s.filter (·.field = f) = [.remove f, .put f] := by
  constructor
  · intro h
    rcases filter_field hs f with hf | hf
    · have hsub := h.filter (·.field = f)
      have hno : ¬ (([.remove f, .put f] : List Action).filter (·.field = f)).Sublist
          [.put f, .remove f] := by
        cases f <;> decide
      exact absurd (hf ▸ hsub) hno
    · exact hf
  · intro h
    rw [RemovesFirst, ← h]
    exact List.filter_sublist

/-- A block seen from one map that has `k ↦ v` put and `k` removed. -/
def actOn {κ ν : Type} [DecidableEq κ] (k : κ) (v : ν) (m : HashMap κ ν) : Action → HashMap κ ν
  | .put _ => m.insert k v
  | .remove _ => m.erase k

/-- `get` reads map `f`, which the blocks of entry `e` change at key `k` only. -/
structure Projects {κ ν : Type} [DecidableEq κ] (e : NeighborEntry) (f : Field)
    (get : NeighborTable → HashMap κ ν) (k : κ) (v : ν) : Prop where
  same : ∀ t x, x.field = f → get (act e t x) = actOn k v (get t) x
  other : ∀ t x, x.field ≠ f → get (act e t x) = get t

theorem projects_inetAddressToMacAddress (e : NeighborEntry) :
    Projects e .inetAddressToMacAddress inetAddressToMacAddress e.address e.mac := by
  constructor <;> intro t x hx <;> cases x <;> rename_i f <;> cases f <;>
    simp_all [Action.field, act, actOn]

theorem projects_macAddressToInetAddress (e : NeighborEntry) :
    Projects e .macAddressToInetAddress macAddressToInetAddress e.mac e.address := by
  constructor <;> intro t x hx <;> cases x <;> rename_i f <;> cases f <;>
    simp_all [Action.field, act, actOn]

theorem projects_entriesMap (e : NeighborEntry) :
    Projects e .entriesMap entriesMap e.mac e := by
  constructor <;> intro t x hx <;> cases x <;> rename_i f <;> cases f <;>
    simp_all [Action.field, act, actOn]

theorem projects_ipEntriesMap (e : NeighborEntry) :
    Projects e .ipEntriesMap ipEntriesMap e.address e := by
  constructor <;> intro t x hx <;> cases x <;> rename_i f <;> cases f <;>
    simp_all [Action.field, act, actOn]

section Projection

variable {κ ν : Type} [DecidableEq κ] {e : NeighborEntry} {f : Field}
  {get : NeighborTable → HashMap κ ν} {k : κ} {v : ν}

theorem Projects.foldl (hp : Projects e f get k v) (s : List Action) (t : NeighborTable) :
    get (s.foldl (act e) t) = (s.filter (·.field = f)).foldl (actOn k v) (get t) := by
  induction s generalizing t with
  | nil => rfl
  | cons x s ih =>
    rw [List.foldl_cons, ih]
    by_cases hx : x.field = f
    · simp [hx, hp.same t x hx]
    · simp [hx, hp.other t x hx]

/-- After the race the key is present exactly when its removal came first, and the
other keys are as before. -/
theorem Projects.lookup (hp : Projects e f get k v)
    (hs : Interleaving setAddressActions removeActions s) (t : NeighborTable) (j : κ) :
    (get (s.foldl (act e) t)).lookup j =
      if j = k then (if RemovesFirst s f then some v else none) else (get t).lookup j := by
  rw [hp.foldl]
  rcases filter_field hs f with hf | hf
  · have hr : ¬ RemovesFirst s f := by
      rw [removesFirst_iff hs, hf]
      simp
    rw [hf, if_neg hr]
    simp only [List.foldl_cons, List.foldl_nil, actOn, lookup_erase_eq, lookup_insert_eq]
    split_ifs <;> rfl
  · have hr : RemovesFirst s f := (removesFirst_iff hs f).mpr hf
    rw [hf, if_pos hr]
    simp only [List.foldl_cons, List.foldl_nil, actOn, lookup_erase_eq, lookup_insert_eq]
    split_ifs <;> rfl

theorem Projects.mem (hp : Projects e f get k v)
    (hs : Interleaving setAddressActions removeActions s) (t : NeighborTable) (j : κ) :
    j ∈ get (s.foldl (act e) t) ↔ if j = k then RemovesFirst s f else j ∈ get t := by
  rw [← AList.lookup_isSome, hp.lookup hs]
  split_ifs with hj hr
  · simp [hr]
  · simp [hr]
  · exact AList.lookup_isSome

end Projection

/-! ### The schedules that keep a refresh -/

/-- Both lookups see the refreshed pair, and the maps have pairwise the same keys. -/
def RefreshKept (t : NeighborTable) (later : ℕ) (a : InetAddress) (m : Mac) : Prop :=
  (t.getMacForAddress later a).1 = m ∧ (t.getAddressForMac later m).1 = some a ∧
    (∀ b, b ∈ t.inetAddressToMacAddress ↔ b ∈ t.ipEntriesMap) ∧
    ∀ j, j ∈ t.macAddressToInetAddress ↔ j ∈ t.entriesMap

/-- The table after a schedule of `setAddress(a, m)` and the removal of an entry for the
same address and MAC. -/
def afterRace (t : NeighborTable) (now : ℕ) (a : InetAddress) (m : Mac) (s : List Action) :
    NeighborTable :=
  s.foldl (act ⟨t.nextRef, m, a⟩) (t.allocate now)

theorem afterRace_getMacForAddress (hs : Interleaving setAddressActions removeActions s)
    (t : NeighborTable) (now later : ℕ) (a : InetAddress) (m : Mac) :
    ((t.afterRace now a m s).getMacForAddress later a).1 = m ↔
      RemovesFirst s .inetAddressToMacAddress ∨ m = -1 := by
  have h := (projects_inetAddressToMacAddress ⟨t.nextRef, m, a⟩).lookup hs (t.allocate now) a
  rw [if_pos rfl] at h
  unfold getMacForAddress afterRace
  rw [h]
  by_cases hr : RemovesFirst s .inetAddressToMacAddress
  · simp [hr]
  · simp [hr, eq_comm]

theorem afterRace_getAddressForMac (hs : Interleaving setAddressActions removeActions s)
    (t : NeighborTable) (now later : ℕ) (a : InetAddress) (m : Mac) :
    ((t.afterRace now a m s).getAddressForMac later m).1 = some a ↔
      RemovesFirst s .macAddressToInetAddress := by
  have h := (projects_macAddressToInetAddress ⟨t.nextRef, m, a⟩).lookup hs (t.allocate now) m
  rw [if_pos rfl] at h
  unfold getAddressForMac afterRace
  rw [h]
  by_cases hr : RemovesFirst s .macAddressToInetAddress <;> simp [hr]

theorem afterRace_ip_domain (hs : Interleaving setAddressActions removeActions s)
    {t : NeighborTable} (ht : t.Agreement) (now : ℕ) (a : InetAddress) (m : Mac) :
    (∀ b, b ∈ (t.afterRace now a m s).inetAddressToMacAddress ↔
        b ∈ (t.afterRace now a m s).ipEntriesMap) ↔
      (RemovesFirst s .inetAddressToMacAddress ↔ RemovesFirst s .ipEntriesMap) := by
  have h1 := (projects_inetAddressToMacAddress ⟨t.nextRef, m, a⟩).mem hs (t.allocate now)
  have h2 := (projects_ipEntriesMap ⟨t.nextRef, m, a⟩).mem hs (t.allocate now)
  unfold afterRace
  simp only [h1, h2]
  constructor
  · intro h
    simpa using h a
  · intro h b
    split_ifs
    · exact h
    · exact ht.fourMapAgreement.ip_domain b

theorem afterRace_mac_domain (hs : Interleaving setAddressActions removeActions s)
    {t : NeighborTable} (ht : t.Agreement) (now : ℕ) (a : InetAddress) (m : Mac) :
    (∀ j, j ∈ (t.afterRace now a m s).macAddressToInetAddress ↔
        j ∈ (t.afterRace now a m s).entriesMap) ↔
      (RemovesFirst s .macAddressToInetAddress ↔ RemovesFirst s .entriesMap) := by
  have h1 := (projects_macAddressToInetAddress ⟨t.nextRef, m, a⟩).mem hs (t.allocate now)
  have h2 := (projects_entriesMap ⟨t.nextRef, m, a⟩).mem hs (t.allocate now)
  unfold afterRace
  simp only [h1, h2]
  constructor
  · intro h
    simpa using h m
  · intro h j
    split_ifs
    · exact h
    · exact ht.fourMapAgreement.mac_domain j

/-- Each removal runs before the put on the same map. The MAC `-1` is also the answer
of a failed lookup, so for it the maps keyed by address may both have lost the key. -/
def RemovalFirst (s : List Action) (m : Mac) : Prop :=
  RemovesFirst s .macAddressToInetAddress ∧ RemovesFirst s .entriesMap ∧
    ((RemovesFirst s .inetAddressToMacAddress ∧ RemovesFirst s .ipEntriesMap) ∨
      (m = -1 ∧ ¬ RemovesFirst s .inetAddressToMacAddress ∧ ¬ RemovesFirst s .ipEntriesMap))

/-- From every table reached from the empty one, a schedule keeps the refresh exactly
when each of its removals precedes the put on the same map. -/
theorem refreshKept_iff_removalFirst (events : List ARPTable.Event) (now later : ℕ)
    (a : InetAddress) (m : Mac) (s : List Action)
    (hs : Interleaving setAddressActions removeActions s) :
    RefreshKept ((events.foldl ARPTable.step empty).afterRace now a m s) later a m ↔
      RemovalFirst s m := by
  have ht : (events.foldl ARPTable.step empty).Agreement :=
    (Run.throughout_of_step (fun _ e h => h.arpStep e) events agreement_empty).last
  unfold RefreshKept RemovalFirst
  rw [afterRace_getMacForAddress hs, afterRace_getAddressForMac hs, afterRace_ip_domain hs ht,
    afterRace_mac_domain hs ht]
  by_cases hinet : RemovesFirst s .inetAddressToMacAddress
  · simp only [hinet, true_or, true_iff, true_and, not_true, false_and, and_false, or_false]
    constructor
    · rintro ⟨hmac, hip, hdom⟩
      exact ⟨hmac, hdom.mp hmac, hip⟩
    · rintro ⟨hmac, hentries, hip⟩
      exact ⟨hmac, hip, iff_of_true hmac hentries⟩
  · simp only [hinet, false_or, false_iff, false_and, not_false_iff, true_and]
    constructor
    · rintro ⟨hm, hmac, hip, hdom⟩
      exact ⟨hmac, hdom.mp hmac, hm, hip⟩
    · rintro ⟨hmac, hentries, hm, hip⟩
      exact ⟨hm, hmac, hip, iff_of_true hmac hentries⟩

/-- The removal is over before the refresh starts. -/
theorem refreshKept_sequential :
    RefreshKept (([.table ⟨0, .setAddress hostA 1⟩].foldl ARPTable.step empty).afterRace 130000
      hostA 1 (removeActions ++ setAddressActions)) 130000 hostA 1 :=
  (refreshKept_iff_removalFirst [.table ⟨0, .setAddress hostA 1⟩] 130000 130000 hostA 1 _
    (.right (.right (.right (.right (.left (.left (.left (.left .nil))))))))).mpr
    ⟨by decide, by decide, Or.inl ⟨by decide, by decide⟩⟩

/-- The refresh runs between the expiry decision and the removal, which undoes it. -/
theorem refresh_lost_to_removal :
    Interleaving setAddressActions removeActions (setAddressActions ++ removeActions) ∧
      ¬ RefreshKept (([.table ⟨0, .setAddress hostA 1⟩].foldl ARPTable.step empty).afterRace
        130000 hostA 1 (setAddressActions ++ removeActions)) 130000 hostA 1 := by
  refine ⟨.left (.left (.left (.left (.right (.right (.right (.right .nil))))))), ?_⟩
  rintro ⟨h, -⟩
  revert h
  decide

end XnetZt.NeighborTable
