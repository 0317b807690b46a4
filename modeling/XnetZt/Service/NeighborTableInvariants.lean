import XnetZt.Service.NeighborTable

/-!
# What every run of an ARP or NDP table keeps

`Agreement` ties the four maps together and survives every operation. The other two
results are about expiry. A sweep walks the map keyed by MAC and deletes by the address
in the entry it finds, and nothing keeps the two directions in step: an address whose
MAC was taken over by another address drops out of the walk, and an entry left behind
by an address that moved to another MAC takes the new mapping with it. Both
statements are therefore proved for the runs that stay clear of these two situations,
and refuted at a run that does not.
-/

namespace XnetZt.NeighborTable

/-! ### Agreement of the four maps -/

/-- The maps keyed by address are two views of one map, and so are those keyed by MAC;
every entry object is filed under its own fields. -/
structure Agreement (t : NeighborTable) : Prop where
  mac_of_ip : ∀ a, t.inetAddressToMacAddress.lookup a = (t.ipEntriesMap.lookup a).map (·.mac)
  address_of_ip : ∀ a e, t.ipEntriesMap.lookup a = some e → e.address = a
  address_of_mac : ∀ m, t.macAddressToInetAddress.lookup m = (t.entriesMap.lookup m).map (·.address)
  mac_of_mac : ∀ m e, t.entriesMap.lookup m = some e → e.mac = m

theorem agreement_empty : Agreement empty where
  mac_of_ip _ := rfl
  address_of_ip _ _ h := by cases h
  address_of_mac _ := rfl
  mac_of_mac _ _ h := by cases h

theorem Agreement.setAddress {t : NeighborTable} (h : t.Agreement) (now : ℕ) (a : InetAddress)
    (j : Mac) : (t.setAddress now a j).Agreement where
  mac_of_ip b := by
    by_cases hb : b = a <;> simp [hb, h.mac_of_ip]
  address_of_ip b e he := by
    by_cases hb : b = a
    · simp only [setAddress_ipEntriesMap, if_pos hb, Option.some.injEq] at he
      rw [← he, hb]
    · simp only [setAddress_ipEntriesMap, if_neg hb] at he
      exact h.address_of_ip b e he
  address_of_mac m := by
    by_cases hm : m = j <;> simp [hm, h.address_of_mac]
  mac_of_mac m e he := by
    by_cases hm : m = j
    · simp only [setAddress_entriesMap, if_pos hm, Option.some.injEq] at he
      rw [← he, hm]
    · simp only [setAddress_entriesMap, if_neg hm] at he
      exact h.mac_of_mac m e he

theorem Agreement.updateTime {t : NeighborTable} (h : t.Agreement) (now : ℕ)
    (e : Option NeighborEntry) : (t.updateTime now e).Agreement := by
  obtain ⟨h1, h2, h3, h4, -⟩ := t.updateTime_maps now e
  refine ⟨?_, ?_, ?_, ?_⟩
  · rw [h2, h3]; exact h.mac_of_ip
  · rw [h3]; exact h.address_of_ip
  · rw [h4, h1]; exact h.address_of_mac
  · rw [h1]; exact h.mac_of_mac

theorem Agreement.sweep {t : NeighborTable} (h : t.Agreement) (timeout now : ℕ)
    (order : IterationOrder NeighborEntry) : (t.sweep timeout now order).Agreement where
  mac_of_ip a := by
    apply Option.ext
    intro m
    rw [sweep_inetAddressToMacAddress, Option.map_eq_some_iff, h.mac_of_ip]
    simp only [sweep_ipEntriesMap, Option.map_eq_some_iff]
    exact ⟨fun ⟨h1, e, h2⟩ => ⟨e, ⟨h1, h2.1⟩, h2.2⟩, fun ⟨e, h1, h2⟩ => ⟨h1.1, e, h1.2, h2⟩⟩
  address_of_ip a e he := h.address_of_ip a e ((sweep_ipEntriesMap ..).mp he).2
  address_of_mac m := by
    apply Option.ext
    intro a
    rw [sweep_macAddressToInetAddress, Option.map_eq_some_iff, h.address_of_mac]
    simp only [sweep_entriesMap, Option.map_eq_some_iff]
    exact ⟨fun ⟨h1, e, h2⟩ => ⟨e, ⟨h1, h2.1⟩, h2.2⟩, fun ⟨e, h1, h2⟩ => ⟨h1.1, e, h1.2, h2⟩⟩
  mac_of_mac m e he := h.mac_of_mac m e ((sweep_entriesMap ..).mp he).2

theorem Agreement.step {t : NeighborTable} (h : t.Agreement) (c : TableClass) (e : Event) :
    (t.step c e).Agreement := by
  obtain ⟨now, op⟩ := e
  cases op with
  | setAddress a j => exact h.setAddress now a j
  | getMacForAddress a =>
    rcases t.getMacForAddress_eq now a with he | ⟨m, -, he⟩
    · simpa [NeighborTable.step, he] using h
    · simpa [NeighborTable.step, he] using h.updateTime now _
  | getAddressForMac j =>
    rcases t.getAddressForMac_eq now j with he | ⟨a, -, he⟩
    · simpa [NeighborTable.step, he] using h
    · simpa [NeighborTable.step, he] using h.updateTime now _
  | sweep order => exact h.sweep c.entryTimeout now order

theorem Agreement.setAddressIfKnown {t : NeighborTable} (h : t.Agreement) (now : ℕ) (mac : Mac)
    (a : Option InetAddress) : (ARPTable.setAddressIfKnown t now mac a).Agreement := by
  cases a with
  | none => exact h
  | some a =>
    unfold ARPTable.setAddressIfKnown
    split_ifs
    · exact h.setAddress now a mac
    · exact h

theorem Agreement.arpStep {t : NeighborTable} (h : t.Agreement) (e : ARPTable.Event) :
    (ARPTable.step t e).Agreement := by
  cases e with
  | table e => exact h.step .arpTable e
  | processARPPacket now packetData =>
    unfold ARPTable.step
    dsimp only
    split
    · rename_i t' reply he
      obtain ⟨_, _, _, _, rfl⟩ := ARPTable.processARPPacket_eq he
      exact (h.setAddressIfKnown _ _ _).setAddressIfKnown _ _ _
    · exact h

/-- The maps have pairwise the same keys, and the values filed under a key match. -/
structure FourMapAgreement (t : NeighborTable) : Prop where
  ip_domain : ∀ a, a ∈ t.inetAddressToMacAddress ↔ a ∈ t.ipEntriesMap
  mac_domain : ∀ m, m ∈ t.macAddressToInetAddress ↔ m ∈ t.entriesMap
  ip_entry : ∀ a m e, t.inetAddressToMacAddress.lookup a = some m →
    t.ipEntriesMap.lookup a = some e → e.mac = m ∧ e.address = a
  mac_entry : ∀ m a e, t.macAddressToInetAddress.lookup m = some a →
    t.entriesMap.lookup m = some e → e.address = a ∧ e.mac = m

theorem Agreement.fourMapAgreement {t : NeighborTable} (h : t.Agreement) : t.FourMapAgreement where
  ip_domain a := by
    rw [← AList.lookup_isSome, ← AList.lookup_isSome, h.mac_of_ip, Option.isSome_map]
  mac_domain m := by
    rw [← AList.lookup_isSome, ← AList.lookup_isSome, h.address_of_mac, Option.isSome_map]
  ip_entry a m e hm he := by
    rw [h.mac_of_ip, he] at hm
    exact ⟨Option.some.inj hm, h.address_of_ip a e he⟩
  mac_entry m a e ha he := by
    rw [h.address_of_mac, he] at ha
    exact ⟨Option.some.inj ha, h.mac_of_mac m e he⟩

/-- In every state that a run of either table reaches from the empty one, received ARP
frames included, the four maps agree. -/
theorem fourMapAgreement_throughout :
    (∀ events, Run.Throughout ARPTable.step FourMapAgreement empty events) ∧
      ∀ events, Run.Throughout (step .ndpTable) FourMapAgreement empty events := by
  constructor
  · intro events
    exact (Run.throughout_of_step (fun _ e h => h.arpStep e) events agreement_empty).mono
      fun _ h => h.fourMapAgreement
  · intro events
    exact (Run.throughout_of_step (fun _ e h => h.step .ndpTable e) events agreement_empty).mono
      fun _ h => h.fourMapAgreement

/-! ### Identity of the entry objects -/

/-- The entry object is in one of the two maps of entries. -/
def Holds (t : NeighborTable) (e : NeighborEntry) : Prop :=
  (∃ m, t.entriesMap.lookup m = some e) ∨ ∃ a, t.ipEntriesMap.lookup a = some e

/-- Identities are handed out once. -/
structure RefsFresh (t : NeighborTable) : Prop where
  lt : ∀ e, t.Holds e → e.ref < t.nextRef
  inj : ∀ e e', t.Holds e → t.Holds e' → e.ref = e'.ref → e = e'

theorem refsFresh_empty : RefsFresh empty where
  lt e h := by rcases h with ⟨_, h⟩ | ⟨_, h⟩ <;> cases h
  inj e e' h := by rcases h with ⟨_, h⟩ | ⟨_, h⟩ <;> cases h

theorem holds_setAddress {t : NeighborTable} {now : ℕ} {a : InetAddress} {j : Mac}
    {e : NeighborEntry} (h : (t.setAddress now a j).Holds e) :
    e = ⟨t.nextRef, j, a⟩ ∨ t.Holds e := by
  rcases h with ⟨m, h⟩ | ⟨b, h⟩
  · rw [setAddress_entriesMap] at h
    split_ifs at h with hm
    · exact Or.inl (Option.some.inj h).symm
    · exact Or.inr (Or.inl ⟨m, h⟩)
  · rw [setAddress_ipEntriesMap] at h
    split_ifs at h with hb
    · exact Or.inl (Option.some.inj h).symm
    · exact Or.inr (Or.inr ⟨b, h⟩)

theorem RefsFresh.setAddress {t : NeighborTable} (h : t.RefsFresh) (now : ℕ) (a : InetAddress)
    (j : Mac) : (t.setAddress now a j).RefsFresh where
  lt e he := by
    change e.ref < t.nextRef + 1
    rcases holds_setAddress he with rfl | he
    · exact Nat.lt_succ_self _
    · exact Nat.lt_succ_of_lt (h.lt e he)
  inj e e' he he' heq := by
    rcases holds_setAddress he with rfl | he <;> rcases holds_setAddress he' with rfl | he'
    · rfl
    · exact absurd heq.symm (Nat.ne_of_lt (h.lt e' he'))
    · exact absurd heq (Nat.ne_of_lt (h.lt e he))
    · exact h.inj e e' he he' heq

theorem RefsFresh.of_subset {t t' : NeighborTable} (h : t.RefsFresh)
    (hsub : ∀ e, t'.Holds e → t.Holds e) (hnext : t'.nextRef = t.nextRef) : t'.RefsFresh where
  lt e he := hnext ▸ h.lt e (hsub e he)
  inj e e' he he' := h.inj e e' (hsub e he) (hsub e' he')

theorem holds_updateTime {t : NeighborTable} {now : ℕ} {o : Option NeighborEntry}
    {e : NeighborEntry} : (t.updateTime now o).Holds e ↔ t.Holds e := by
  obtain ⟨h1, -, h3, -, -⟩ := t.updateTime_maps now o
  unfold Holds
  rw [h1, h3]

theorem holds_of_sweep {t : NeighborTable} {timeout now : ℕ} {order : IterationOrder NeighborEntry}
    {e : NeighborEntry} (h : (t.sweep timeout now order).Holds e) : t.Holds e := by
  rcases h with ⟨m, h⟩ | ⟨a, h⟩
  · exact Or.inl ⟨m, ((sweep_entriesMap ..).mp h).2⟩
  · exact Or.inr ⟨a, ((sweep_ipEntriesMap ..).mp h).2⟩

/-! ### No stale mapping -/

/-- The address an operation is called with or answers. -/
def touched (t : NeighborTable) (e : Event) : Option InetAddress :=
  match e.op with
  | .setAddress a _ => some a
  | .getMacForAddress a => some a
  | .getAddressForMac j => (t.getAddressForMac e.now j).1
  | .sweep _ => none

/-- When each address was touched in a run. -/
def history (c : TableClass) : NeighborTable → List Event → List (ℕ × InetAddress)
  | _, [] => []
  | t, e :: es => (t.touched e).toList.map (fun a => (e.now, a)) ++ history c (t.step c e) es

/-- Right after a sweep every mapped address was touched within the timeout. -/
def NoStaleMapping (c : TableClass) (events : List Event) (now : ℕ)
    (order : IterationOrder NeighborEntry) : Prop :=
  ∀ a, ((events.foldl (step c) empty).sweep c.entryTimeout now order).hasMacForAddress a = true →
    ∃ s, (s, a) ∈ history c empty events ∧ now ≤ s + c.entryTimeout

/-- `setAddress` is not called with a MAC that another address is mapped to. -/
def KeepsMacOwner (t : NeighborTable) (e : Event) : Prop :=
  match e.op with
  | .setAddress a j => ∀ b, t.inetAddressToMacAddress.lookup b = some j → b = a
  | _ => True

/-- Every mapped address is still in the walk of the sweep, and the time stamp of every
entry in that walk is the time of a touch of its address. -/
structure Tracked (t : NeighborTable) (h : List (ℕ × InetAddress)) : Prop where
  agreement : t.Agreement
  refs : t.RefsFresh
  walked : ∀ a m, t.inetAddressToMacAddress.lookup a = some m →
    ∃ e, t.entriesMap.lookup m = some e ∧ e.address = a
  stamped : ∀ m e, t.entriesMap.lookup m = some e → (t.time e.ref, e.address) ∈ h

theorem tracked_empty : Tracked empty [] where
  agreement := agreement_empty
  refs := refsFresh_empty
  walked _ _ h := by cases h
  stamped _ _ h := by cases h

variable {t : NeighborTable} {h h' : List (ℕ × InetAddress)}

theorem Tracked.mono (ht : Tracked t h) (hsub : h ⊆ h') : Tracked t h' :=
  ⟨ht.agreement, ht.refs, ht.walked, fun m e he => hsub (ht.stamped m e he)⟩

theorem Tracked.setAddress (ht : Tracked t h) {now : ℕ} {a : InetAddress} {j : Mac}
    (hfree : ∀ b, t.inetAddressToMacAddress.lookup b = some j → b = a) :
    Tracked (t.setAddress now a j) (h ++ [(now, a)]) where
  agreement := ht.agreement.setAddress now a j
  refs := ht.refs.setAddress now a j
  walked b m hb := by
    rw [setAddress_inetAddressToMacAddress] at hb
    split_ifs at hb with hba
    · cases hb
      exact ⟨⟨t.nextRef, j, a⟩, by simp, hba.symm⟩
    · -- another address keeps its entry, since it is not mapped to `j`
      obtain ⟨e, he, hea⟩ := ht.walked b m hb
      have hmj : m ≠ j := by
        rintro rfl
        exact hba (hfree b hb)
      exact ⟨e, by simp [hmj, he], hea⟩
  stamped m e he := by
    rw [setAddress_entriesMap] at he
    split_ifs at he with hm
    · cases he
      simp [NeighborTable.setAddress]
    · have hlt := ht.refs.lt e (Or.inl ⟨m, he⟩)
      have htime : (t.setAddress now a j).time e.ref = t.time e.ref := by
        simp [NeighborTable.setAddress, Function.update_of_ne (Nat.ne_of_lt hlt)]
      rw [htime]
      exact List.mem_append_left _ (ht.stamped m e he)

theorem Tracked.updateTime (ht : Tracked t h) {now : ℕ} {o : Option NeighborEntry}
    (ho : ∀ e, o = some e → t.Holds e ∧ (now, e.address) ∈ h) :
    Tracked (t.updateTime now o) h := by
  obtain ⟨h1, h2, -, -, h5⟩ := t.updateTime_maps now o
  refine ⟨ht.agreement.updateTime now o,
    ht.refs.of_subset (fun e he => holds_updateTime.mp he) h5, ?_, ?_⟩
  · rw [h1, h2]
    exact ht.walked
  · intro m e he
    rw [h1] at he
    rcases t.time_updateTime now e.ref o with htime | ⟨htime, e', rfl, href⟩
    · rw [htime]
      exact ht.stamped m e he
    · obtain ⟨hholds, hmem⟩ := ho e' rfl
      rw [htime, ht.refs.inj e e' (Or.inl ⟨m, he⟩) hholds href.symm]
      exact hmem

theorem Tracked.sweep (ht : Tracked t h) (timeout now : ℕ)
    (order : IterationOrder NeighborEntry) : Tracked (t.sweep timeout now order) h where
  agreement := ht.agreement.sweep timeout now order
  refs := ht.refs.of_subset (fun _ he => holds_of_sweep he) (by simp)
  walked a m ha := by
    obtain ⟨hkeep, ha⟩ := (sweep_inetAddressToMacAddress ..).mp ha
    obtain ⟨e, he, hea⟩ := ht.walked a m ha
    refine ⟨e, (sweep_entriesMap ..).mpr ⟨?_, he⟩, hea⟩
    -- an expired entry filed under `m` is `e` itself, which would have taken `a` along
    intro e' hmem hexp hm
    obtain ⟨m', he'⟩ := mem_values.mp hmem
    obtain rfl : m' = m := (ht.agreement.mac_of_mac m' e' he').symm.trans hm
    obtain rfl : e = e' := Option.some.inj (he.symm.trans he')
    exact hkeep e hmem hexp hea
  stamped m e he := by
    rw [sweep_time]
    exact ht.stamped m e ((sweep_entriesMap ..).mp he).2

theorem Tracked.step (c : TableClass) (ht : Tracked t h) {e : Event} (hk : KeepsMacOwner t e) :
    Tracked (t.step c e) (h ++ (t.touched e).toList.map fun a => (e.now, a)) := by
  obtain ⟨now, op⟩ := e
  have hsub : ∀ h'', h ⊆ h ++ h'' := fun h'' => List.subset_append_left h h''
  cases op with
  | setAddress a j => exact ht.setAddress hk
  | getMacForAddress a =>
    rcases t.getMacForAddress_eq now a with he | ⟨m, hm, he⟩
    · simpa [NeighborTable.step, he] using ht.mono (hsub _)
    · simp only [NeighborTable.step, he]
      apply (ht.mono (hsub _)).updateTime
      intro e hem
      obtain ⟨e', he', hea⟩ := ht.walked a m hm
      obtain rfl : e = e' := Option.some.inj (hem.symm.trans he')
      exact ⟨Or.inl ⟨m, hem⟩, by simp [touched, hea]⟩
  | getAddressForMac j =>
    rcases t.getAddressForMac_eq now j with he | ⟨a, ha, he⟩
    · simpa [NeighborTable.step, he] using ht.mono (hsub _)
    · simp only [NeighborTable.step, he]
      apply (ht.mono (hsub _)).updateTime
      intro e hea
      exact ⟨Or.inr ⟨a, hea⟩, by simp [touched, ha, ht.agreement.address_of_ip a e hea]⟩
  | sweep order => simpa [NeighborTable.step, touched] using ht.sweep c.entryTimeout now order

theorem Tracked.run (c : TableClass) {events : List Event} (ht : Tracked t h)
    (hk : Run.Along (NeighborTable.step c) KeepsMacOwner t events) :
    Tracked (events.foldl (NeighborTable.step c) t) (h ++ history c t events) := by
  induction events generalizing t h with
  | nil => simpa [history] using ht
  | cons e es ih =>
    have := ih (ht.step c hk.1) hk.2
    rwa [List.append_assoc] at this

/-- In a run that never gives a MAC to an address while another address is mapped to
it, a sweep leaves only addresses touched within the timeout. -/
theorem noStaleMapping_of_keepsMacOwner (c : TableClass) (events : List Event)
    (hk : Run.Along (step c) KeepsMacOwner empty events) (now : ℕ)
    (order : IterationOrder NeighborEntry) : NoStaleMapping c events now order := by
  intro a ha
  have ht := Tracked.run c tracked_empty hk
  obtain ⟨m, hm⟩ := Option.isSome_iff_exists.mp ha
  obtain ⟨hkeep, hm⟩ := (sweep_inetAddressToMacAddress ..).mp hm
  obtain ⟨e, he, hea⟩ := ht.walked a m hm
  refine ⟨_, hea ▸ ht.stamped m e he, ?_⟩
  by_contra hlt
  exact hkeep e (mem_values.mpr ⟨m, he⟩) (by unfold Expired; omega) hea

def hostA : InetAddress := .inet4 0x0A000001

def hostB : InetAddress := .inet4 0x0A000002

/-- A looked-up address outlives the timeout counted from its `setAddress`. -/
theorem noStaleMapping_refreshed :
    NoStaleMapping .arpTable
        [⟨0, .setAddress hostA 1⟩, ⟨0, .setAddress hostB 2⟩, ⟨100000, .getMacForAddress hostA⟩]
        200000 .id ∧
      NoStaleMapping .ndpTable
        [⟨0, .setAddress hostA 1⟩, ⟨0, .setAddress hostB 2⟩, ⟨100000, .getMacForAddress hostA⟩]
        200000 .id := by
  have hk : ∀ c, Run.Along (step c) KeepsMacOwner empty
      [⟨0, .setAddress hostA 1⟩, ⟨0, .setAddress hostB 2⟩, ⟨100000, .getMacForAddress hostA⟩] := by
    intro c
    refine ⟨?_, ?_, trivial, trivial⟩
    · intro b hb
      cases hb
    · intro b hb
      simp only [step, setAddress_inetAddressToMacAddress] at hb
      split_ifs at hb
      · cases hb
      · cases hb
  exact ⟨noStaleMapping_of_keepsMacOwner _ _ (hk _) _ _,
    noStaleMapping_of_keepsMacOwner _ _ (hk _) _ _⟩

/-- A second address takes over the MAC, and the first is never removed again. -/
theorem staleMapping_after_takeover :
    ClockOrdered [⟨0, .setAddress hostA 1⟩, ⟨0, .setAddress hostB 1⟩] ∧
      ¬ NoStaleMapping .arpTable [⟨0, .setAddress hostA 1⟩, ⟨0, .setAddress hostB 1⟩]
        120001 .id ∧
      ¬ NoStaleMapping .ndpTable [⟨0, .setAddress hostA 1⟩, ⟨0, .setAddress hostB 1⟩]
        120001 .id := by
  refine ⟨by simp [ClockOrdered], ?_, ?_⟩ <;>
  · intro h
    obtain ⟨s, hs, hle⟩ := h hostA (by decide)
    simp only [history, touched, Option.toList_some, List.map_cons, List.map_nil, List.nil_append,
      List.cons_append, List.mem_cons, Prod.mk.injEq, List.not_mem_nil, or_false] at hs
    simp only [TableClass.entryTimeout] at hle
    omega

/-! ### No premature eviction -/

/-- When the run ends with a sweep no later than the timeout after the last
`setAddress` of an address, that address still has the MAC it was given. -/
def NoPrematureEviction (c : TableClass) (events : List Event) : Prop :=
  ∀ before after a m s now order,
    events = before ++ ⟨s, .setAddress a m⟩ :: (after ++ [⟨now, .sweep order⟩]) →
    (∀ e ∈ after, ∀ j, e.op ≠ .setAddress a j) → now ≤ s + c.entryTimeout →
    ∀ later, ((events.foldl (step c) empty).getMacForAddress later a).1 = m

/-- When a sweep finds an expired entry, the entry under which the map keyed by address
has that same address is expired too. -/
def SweepsSettled (c : TableClass) (t : NeighborTable) (e : Event) : Prop :=
  match e.op with
  | .sweep _ => ∀ old ∈ t.values, Expired c.entryTimeout e.now t old →
      ∀ cur, t.ipEntriesMap.lookup old.address = some cur → Expired c.entryTimeout e.now t cur
  | _ => True

/-- The address has its MAC, and its own entry is not older than `s`. -/
structure Mapped (a : InetAddress) (m : Mac) (s : ℕ) (t : NeighborTable) : Prop where
  mac : t.inetAddressToMacAddress.lookup a = some m
  entry : ∃ e, t.ipEntriesMap.lookup a = some e ∧ s ≤ t.time e.ref

variable {a : InetAddress} {m : Mac} {s : ℕ}

theorem mapped_setAddress (t : NeighborTable) : Mapped a m s (t.setAddress s a m) where
  mac := by simp
  entry := ⟨⟨t.nextRef, m, a⟩, by simp, by simp [NeighborTable.setAddress]⟩

theorem Mapped.updateTime (hm : Mapped a m s t) {now : ℕ} (hs : s ≤ now)
    (o : Option NeighborEntry) : Mapped a m s (t.updateTime now o) := by
  obtain ⟨-, h2, h3, -, -⟩ := t.updateTime_maps now o
  obtain ⟨e, he, hle⟩ := hm.entry
  refine ⟨h2 ▸ hm.mac, e, h3 ▸ he, ?_⟩
  rcases t.time_updateTime now e.ref o with h | ⟨h, -⟩ <;> omega

theorem Mapped.sweep (hm : Mapped a m s t) (c : TableClass) {now : ℕ}
    {order : IterationOrder NeighborEntry} (hnow : now ≤ s + c.entryTimeout)
    (hset : SweepsSettled c t ⟨now, .sweep order⟩) :
    Mapped a m s (t.sweep c.entryTimeout now order) := by
  obtain ⟨e, he, hle⟩ := hm.entry
  have hkeep : ∀ old ∈ t.values, Expired c.entryTimeout now t old → old.address ≠ a := by
    rintro old hold hexp rfl
    have hcur : t.time e.ref + c.entryTimeout < now := hset old hold hexp e he
    omega
  exact ⟨(sweep_inetAddressToMacAddress ..).mpr ⟨hkeep, hm.mac⟩, e,
    (sweep_ipEntriesMap ..).mpr ⟨hkeep, he⟩, by simpa using hle⟩

theorem Mapped.step (hm : Mapped a m s t) (c : TableClass) {e : Event} (hs : s ≤ e.now)
    (hne : ∀ j, e.op ≠ .setAddress a j) (hnow : e.now ≤ s + c.entryTimeout)
    (hset : SweepsSettled c t e) : Mapped a m s (t.step c e) := by
  obtain ⟨now, op⟩ := e
  cases op with
  | setAddress b j =>
    have hab : a ≠ b := by
      rintro rfl
      exact hne j rfl
    obtain ⟨e, he, hle⟩ := hm.entry
    refine ⟨by simp [NeighborTable.step, hab, hm.mac], e, by simp [NeighborTable.step, hab, he], ?_⟩
    simp only [NeighborTable.step, NeighborTable.setAddress, Function.update_apply]
    split_ifs
    · exact hs
    · exact hle
  | getMacForAddress b =>
    rcases t.getMacForAddress_eq now b with he | ⟨m', -, he⟩
    · simpa [NeighborTable.step, he] using hm
    · simpa [NeighborTable.step, he] using hm.updateTime hs _
  | getAddressForMac j =>
    rcases t.getAddressForMac_eq now j with he | ⟨b, -, he⟩
    · simpa [NeighborTable.step, he] using hm
    · simpa [NeighborTable.step, he] using hm.updateTime hs _
  | sweep order => exact hm.sweep c hnow hset

theorem Mapped.run (c : TableClass) {events : List Event} (hm : Mapped a m s t)
    (hne : ∀ e ∈ events, ∀ j, e.op ≠ .setAddress a j)
    (hclock : ∀ e ∈ events, s ≤ e.now ∧ e.now ≤ s + c.entryTimeout)
    (hset : Run.Along (NeighborTable.step c) (SweepsSettled c) t events) :
    Mapped a m s (events.foldl (NeighborTable.step c) t) := by
  induction events generalizing t with
  | nil => exact hm
  | cons e es ih =>
    have he := hclock e List.mem_cons_self
    exact ih (hm.step c he.1 (hne e List.mem_cons_self) he.2 hset.1)
      (fun e' h => hne e' (List.mem_cons_of_mem _ h))
      (fun e' h => hclock e' (List.mem_cons_of_mem _ h)) hset.2

/-- In a run whose sweeps never meet an expired entry for an address whose own entry
is fresh, no mapping is evicted before its time. -/
theorem noPrematureEviction_of_sweepsSettled (c : TableClass) (events : List Event)
    (hclock : ClockOrdered events) (hset : Run.Along (step c) (SweepsSettled c) empty events) :
    NoPrematureEviction c events := by
  rintro before after a m s now order rfl hne hnow later
  rw [Run.along_append] at hset
  simp only [ClockOrdered, List.pairwise_append, List.pairwise_cons] at hclock
  obtain ⟨-, ⟨hfrom, hto⟩, -⟩ := hclock
  have hlast : ∀ e ∈ after, e.now ≤ now := fun e he => hto.2.2 e he _ List.mem_cons_self
  have hm : Mapped a m s ((after ++ [(⟨now, .sweep order⟩ : Event)]).foldl (step c)
      ((before.foldl (step c) empty).setAddress s a m)) := by
    apply (mapped_setAddress _).run c _ _ hset.2.2
    · intro e he j
      rcases List.mem_append.mp he with he | he
      · exact hne e he j
      · rw [List.mem_singleton.mp he]
        exact fun h => nomatch h
    · intro e he
      have hse : s ≤ e.now := hfrom e he
      refine ⟨hse, ?_⟩
      rcases List.mem_append.mp he with he | he
      · exact (hlast e he).trans hnow
      · rw [List.mem_singleton.mp he]
        exact hnow
  rw [List.foldl_append, List.foldl_cons]
  have hmac := hm.mac
  simp only [getMacForAddress, step] at hmac ⊢
  rw [hmac]

/-- The entry of the first address is swept, the fresh one of the second stays. -/
theorem noPrematureEviction_two_hosts :
    NoPrematureEviction .arpTable [⟨0, .setAddress hostA 1⟩, ⟨100000, .setAddress hostB 2⟩,
        ⟨120001, .sweep .id⟩] ∧
      NoPrematureEviction .ndpTable [⟨0, .setAddress hostA 1⟩, ⟨100000, .setAddress hostB 2⟩,
        ⟨120001, .sweep .id⟩] := by
  have hclock : ClockOrdered [⟨0, .setAddress hostA 1⟩, ⟨100000, .setAddress hostB 2⟩,
      ⟨120001, .sweep .id⟩] := by
    simp [ClockOrdered]
  have hset : ∀ c, Run.Along (step c) (SweepsSettled c) empty [⟨0, .setAddress hostA 1⟩,
      ⟨100000, .setAddress hostB 2⟩, ⟨120001, .sweep .id⟩] := by
    intro c
    refine ⟨trivial, trivial, ?_, trivial⟩
    intro old hold hexp cur hcur
    -- each address has one entry, so the entry found under it is the expired one
    obtain ⟨m, hm⟩ := mem_values.mp hold
    simp only [step, setAddress_entriesMap, setAddress_ipEntriesMap] at hm hcur
    split_ifs at hm with h2 h1
    · cases hm
      simp at hcur
      exact hcur ▸ hexp
    · cases hm
      have hne : hostA ≠ hostB := by decide
      simp [hne] at hcur
      exact hcur ▸ hexp
    · cases hm
  exact ⟨noPrematureEviction_of_sweepsSettled _ _ hclock (hset _),
    noPrematureEviction_of_sweepsSettled _ _ hclock (hset _)⟩

/-- The entry left under the old MAC takes the mapping to the new MAC with it. -/
theorem prematureEviction_after_move :
    ClockOrdered [⟨0, .setAddress hostA 1⟩, ⟨100000, .setAddress hostA 2⟩,
        ⟨120001, .sweep .id⟩] ∧
      ¬ NoPrematureEviction .arpTable [⟨0, .setAddress hostA 1⟩, ⟨100000, .setAddress hostA 2⟩,
        ⟨120001, .sweep .id⟩] ∧
      ¬ NoPrematureEviction .ndpTable [⟨0, .setAddress hostA 1⟩, ⟨100000, .setAddress hostA 2⟩,
        ⟨120001, .sweep .id⟩] := by
  refine ⟨by simp [ClockOrdered], ?_, ?_⟩ <;>
  · intro h
    have hmac := h [⟨0, .setAddress hostA 1⟩] [] hostA 2 100000 120001 .id rfl (by simp)
      (by decide) 120001
    revert hmac
    decide

end XnetZt.NeighborTable
