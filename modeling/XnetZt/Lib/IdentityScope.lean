import Mathlib.Data.List.Basic
import Mathlib.Data.List.Nodup
import Mathlib.Logic.Function.Basic
import Mathlib.Tactic

/-!
# Entities, rows and the identity scope

An object-relational session keeps a table of rows and hands out objects that hold
copies of them. The identity scope maps a key to the object that queries return for its
row. Objects live on after the scope has dropped them, so several objects may stand for
one row. Writing one of them back writes all its fields; which of them is in the scope
afterwards is a parameter.

A session is coherent if every attached object agrees with its row. All operations keep
that, changing a field included, as long as the object is written back at once and takes
the place of the one attached before.
-/

namespace XnetZt

/-- An object is referred to by its position in `objects`. -/
structure Session (κ ε : Type*) where
  rows : List ε
  objects : List ε
  scope : κ → Option ℕ

/-- What `update` makes of the scope, by the key and the object that it has written. -/
abbrev Attachment (κ : Type*) := (κ → Option ℕ) → κ → ℕ → κ → Option ℕ

/-- The object that was written is attached, whatever was attached for its key before. -/
def Attachment.Replaces {κ : Type*} [DecidableEq κ] (attach : Attachment κ) : Prop :=
  ∀ scope k o, attach scope k o = Function.update scope k (some o)

namespace Session

variable {κ ε : Type*} (key : ε → κ)

/-- A session that has not loaded anything. -/
def opened (rows : List ε) : Session κ ε := ⟨rows, [], fun _ => none⟩

def clear (s : Session κ ε) : Session κ ε := { s with scope := fun _ => none }

/-- Keys are unique, attached objects have the keys they are attached for, and they agree
with the rows of these keys. -/
structure Coherent (s : Session κ ε) : Prop where
  nodup : (s.rows.map key).Nodup
  attached : ∀ k o, s.scope k = some o → ∃ e, s.objects[o]? = some e ∧ key e = k
  current : ∀ k o e, s.scope k = some o → s.objects[o]? = some e → ∀ row ∈ s.rows, key row = k →
    row = e

theorem coherent_opened {key : ε → κ} {rows : List ε} (h : (rows.map key).Nodup) :
    (opened rows : Session κ ε).Coherent key :=
  ⟨h, nofun, nofun⟩

theorem Coherent.row_eq {key : ε → κ} {s : Session κ ε} (h : s.Coherent key) {r r' : ε}
    (hr : r ∈ s.rows) (hr' : r' ∈ s.rows) (hkey : key r = key r') : r = r' :=
  List.inj_on_of_nodup_map h.nodup hr hr' hkey

theorem Coherent.clear {key : ε → κ} {s : Session κ ε} (h : s.Coherent key) :
    s.clear.Coherent key :=
  ⟨h.nodup, nofun, nofun⟩

variable [DecidableEq κ]

/-- The scope holds its objects weakly: one that nothing else refers to may be collected. -/
def collect (k : κ) (s : Session κ ε) : Session κ ε :=
  { s with scope := Function.update s.scope k none }

/-- A new object is attached for its key. -/
def attachNew (s : Session κ ε) (e : ε) : Session κ ε :=
  { s with
    objects := s.objects ++ [e]
    scope := Function.update s.scope (key e) (some s.objects.length) }

/-- One row of a result: the attached object, or a new one that holds a copy. -/
def loadRow (s : Session κ ε) (row : ε) : ℕ × Session κ ε :=
  match s.scope (key row) with
  | some o => (o, s)
  | none => (s.objects.length, s.attachNew key row)

/-- The objects for the rows of a result. -/
def load (s : Session κ ε) : List ε → List ℕ × Session κ ε
  | [] => ([], s)
  | row :: rows =>
    let (o, s) := s.loadRow key row
    let (os, s) := s.load rows
    (o :: os, s)

def insert (s : Session κ ε) (e : ε) : Session κ ε :=
  { s with rows := s.rows ++ [e] }.attachNew key e

def delete (k : κ) (s : Session κ ε) : Session κ ε :=
  { s with
    rows := s.rows.filter (key · ≠ k)
    scope := Function.update s.scope k none }

/-- A change of fields of an object. -/
def modify (o : ℕ) (f : ε → ε) (s : Session κ ε) : Session κ ε :=
  { s with objects := s.objects.modify o f }

/-- All fields of the object go into the row of its key. -/
def update (attach : Attachment κ) (o : ℕ) (s : Session κ ε) : Session κ ε :=
  match s.objects[o]? with
  | none => s
  | some e =>
    { s with
      rows := s.rows.map fun row => if key row = key e then e else row
      scope := attach s.scope (key e) o }

/-- A change of fields that is written back at once. -/
def save (attach : Attachment κ) (o : ℕ) (f : ε → ε) (s : Session κ ε) : Session κ ε :=
  (s.modify o f).update key attach o

variable {key} {s : Session κ ε} {attach : Attachment κ}

/-- An entry of the scope that was there before. -/
theorem scope_of_update_none {k k' : κ} {o : ℕ}
    (h : Function.update s.scope k none k' = some o) : s.scope k' = some o := by
  by_cases hk : k' = k
  · subst hk
    rw [Function.update_self] at h
    cases h
  · rwa [Function.update_of_ne hk] at h

theorem Coherent.collect (h : s.Coherent key) (k : κ) : (s.collect k).Coherent key :=
  ⟨h.nodup, fun k' o ho => h.attached k' o (scope_of_update_none ho),
    fun k' o e ho he => h.current k' o e (scope_of_update_none ho) he⟩

theorem Coherent.delete (h : s.Coherent key) (k : κ) : (s.delete key k).Coherent key where
  nodup := h.nodup.sublist (List.filter_sublist.map key)
  attached k' o ho := h.attached k' o (scope_of_update_none ho)
  current k' o e ho he row hrow :=
    h.current k' o e (scope_of_update_none ho) he row (List.mem_of_mem_filter hrow)

/-- A new object may be attached if it agrees with the row of its key, whatever was attached
for that key before. -/
theorem coherent_attachNew (hnodup : (s.rows.map key).Nodup)
    (hattached : ∀ k o, s.scope k = some o → ∃ e, s.objects[o]? = some e ∧ key e = k) {e : ε}
    (hcurrent : ∀ k o e', k ≠ key e → s.scope k = some o → s.objects[o]? = some e' →
      ∀ row ∈ s.rows, key row = k → row = e')
    (hrow : ∀ row ∈ s.rows, key row = key e → row = e) : (s.attachNew key e).Coherent key := by
  have hold : ∀ k o, s.scope k = some o → (s.objects ++ [e])[o]? = s.objects[o]? := by
    intro k o ho
    obtain ⟨e', he', -⟩ := hattached k o ho
    exact List.getElem?_append_left (List.getElem?_eq_some_iff.mp he').1
  refine ⟨hnodup, ?_, ?_⟩
  · intro k o ho
    by_cases hk : k = key e
    · subst hk
      simp only [attachNew, Function.update_self, Option.some.injEq] at ho
      exact ⟨e, by simp [attachNew, ← ho], rfl⟩
    · simp only [attachNew, Function.update_of_ne hk] at ho ⊢
      rw [hold k o ho]
      exact hattached k o ho
  · intro k o e' ho he' row hmem hkey
    by_cases hk : k = key e
    · subst hk
      simp only [attachNew, Function.update_self, Option.some.injEq] at ho
      have heq : e' = e := by simpa [attachNew, ← ho] using he'.symm
      rw [heq]
      exact hrow row hmem hkey
    · simp only [attachNew, Function.update_of_ne hk] at ho he'
      rw [hold k o ho] at he'
      exact hcurrent k o e' hk ho he' row hmem hkey

theorem Coherent.insert (h : s.Coherent key) {e : ε} (hnew : ∀ row ∈ s.rows, key row ≠ key e) :
    (s.insert key e).Coherent key := by
  apply coherent_attachNew
  · have hnotin : key e ∉ s.rows.map key := by
      intro hmem
      obtain ⟨row, hrow, heq⟩ := List.mem_map.mp hmem
      exact hnew row hrow heq
    rw [List.map_append, List.map_singleton]
    exact List.Nodup.append h.nodup (List.nodup_singleton _) (by simpa using hnotin)
  · exact h.attached
  · intro k o e' hk ho he' row hrow hkey
    rcases List.mem_append.mp hrow with hrow | hrow
    · exact h.current k o e' ho he' row hrow hkey
    · rw [List.mem_singleton.mp hrow] at hkey
      exact absurd hkey.symm hk
  · intro row hrow hkey
    rcases List.mem_append.mp hrow with hrow | hrow
    · exact absurd hkey (hnew row hrow)
    · exact List.mem_singleton.mp hrow

/-! ### Writing back -/

omit [DecidableEq κ] in
theorem getElem?_modify {o : ℕ} {e : ε} (he : s.objects[o]? = some e) (f : ε → ε) :
    (s.objects.modify o f)[o]? = some (f e) := by
  rw [List.getElem?_modify_eq, he]
  rfl

theorem rows_save {o : ℕ} {e : ε} (he : s.objects[o]? = some e) (f : ε → ε) :
    (s.save key attach o f).rows =
      s.rows.map fun row => if key row = key (f e) then f e else row := by
  simp only [save, update, modify, getElem?_modify he]

theorem objects_save (o : ℕ) (f : ε → ε) :
    (s.save key attach o f).objects = s.objects.modify o f := by
  unfold save update
  split <;> rfl

theorem save_of_none {o : ℕ} (ho : s.objects[o]? = none) (f : ε → ε) :
    s.save key attach o f = s := by
  have hlen : s.objects.length ≤ o := List.getElem?_eq_none_iff.mp ho
  have hmod : s.objects.modify o f = s.objects := List.modify_eq_self hlen
  simp only [save, update, modify, hmod, ho]

section Save

variable {o : ℕ} {e : ε} (he : s.objects[o]? = some e) (f : ε → ε)

include he

theorem getElem?_objects_save : (s.save key attach o f).objects[o]? = some (f e) := by
  rw [objects_save, getElem?_modify he]

theorem scope_save :
    (s.save key attach o f).scope = attach s.scope (key (f e)) o := by
  simp only [save, update, modify, getElem?_modify he]

theorem map_key_rows_save : (s.save key attach o f).rows.map key = s.rows.map key := by
  rw [rows_save he, List.map_map]
  refine List.map_congr_left fun row _ => ?_
  simp only [Function.comp_apply]
  split_ifs with hk
  · exact hk.symm
  · rfl

variable {f}

/-- An object that is attached for another key is not touched. -/
theorem Coherent.getElem?_save_of_ne (h : s.Coherent key) (hf : ∀ e, key (f e) = key e) {k : κ}
    {o' : ℕ} (hk : k ≠ key (f e)) (ho' : s.scope k = some o') :
    (s.save key attach o f).objects[o']? = s.objects[o']? := by
  obtain ⟨e', he', hkey⟩ := h.attached k o' ho'
  rw [objects_save, List.getElem?_modify_ne]
  rintro rfl
  rw [he, Option.some.injEq] at he'
  exact hk (by rw [hf, he', hkey])

end Save

theorem Coherent.save (h : s.Coherent key) (hattach : attach.Replaces) (o : ℕ) {f : ε → ε}
    (hf : ∀ e, key (f e) = key e) :
    (s.save key attach o f).Coherent key := by
  cases he : s.objects[o]? with
  | none =>
    rw [save_of_none he]
    exact h
  | some e =>
    have hget : (s.save key attach o f).objects[o]? = some (f e) := getElem?_objects_save he f
    refine ⟨?_, ?_, ?_⟩
    · rw [map_key_rows_save he]
      exact h.nodup
    · intro k o' ho'
      rw [scope_save he, hattach] at ho'
      by_cases hk : k = key (f e)
      · subst hk
        rw [Function.update_self, Option.some.injEq] at ho'
        exact ⟨f e, by rw [← ho', hget], rfl⟩
      · rw [Function.update_of_ne hk] at ho'
        rw [h.getElem?_save_of_ne he hf hk ho']
        exact h.attached k o' ho'
    · intro k o' e' ho' he' row hrow hkey
      rw [scope_save he, hattach] at ho'
      rw [rows_save he] at hrow
      obtain ⟨old, hold, rfl⟩ := List.mem_map.mp hrow
      by_cases hk : k = key (f e)
      · subst hk
        rw [Function.update_self, Option.some.injEq] at ho'
        rw [← ho', hget, Option.some.injEq] at he'
        split_ifs at hkey ⊢ with hold'
        · exact he'
        · exact absurd hkey hold'
      · rw [Function.update_of_ne hk] at ho'
        rw [h.getElem?_save_of_ne he hf hk ho'] at he'
        split_ifs at hkey ⊢ with hold'
        · exact absurd hkey.symm hk
        · exact h.current k o' e' ho' he' old hold hkey

/-! ### Loading -/

@[simp] theorem rows_loadRow (row : ε) : (s.loadRow key row).2.rows = s.rows := by
  unfold loadRow
  split <;> rfl

theorem getElem?_loadRow (row : ε) {o : ℕ} {e : ε} (h : s.objects[o]? = some e) :
    (s.loadRow key row).2.objects[o]? = some e := by
  unfold loadRow
  split
  · exact h
  · rw [attachNew, List.getElem?_append_left (List.getElem?_eq_some_iff.mp h).1, h]

/-- A loaded object agrees with its row. -/
theorem Coherent.loadRow (h : s.Coherent key) {row : ε} (hrow : row ∈ s.rows) :
    (s.loadRow key row).2.Coherent key ∧
      (s.loadRow key row).2.objects[(s.loadRow key row).1]? = some row := by
  unfold Session.loadRow
  split
  · rename_i o ho
    obtain ⟨e, he, hkey⟩ := h.attached _ o ho
    exact ⟨h, by rw [he, h.current _ o e ho he row hrow rfl]⟩
  · refine ⟨coherent_attachNew h.nodup h.attached (fun k o e _ => h.current k o e) ?_, ?_⟩
    · intro row' hrow' hkey
      exact h.row_eq hrow' hrow hkey
    · simp [attachNew]

@[simp] theorem rows_load (rows : List ε) : (s.load key rows).2.rows = s.rows := by
  induction rows generalizing s with
  | nil => rfl
  | cons row rows ih => simp only [load, ih, rows_loadRow]

/-- Loading leaves the objects that there are. -/
theorem getElem?_load (rows : List ε) {o : ℕ} {e : ε} (h : s.objects[o]? = some e) :
    (s.load key rows).2.objects[o]? = some e := by
  induction rows generalizing s with
  | nil => exact h
  | cons row rows ih => exact ih (getElem?_loadRow row h)

/-- The objects of a result agree with its rows, one by one. -/
theorem Coherent.load (h : s.Coherent key) {rows : List ε} (hrows : ∀ row ∈ rows, row ∈ s.rows) :
    (s.load key rows).2.Coherent key ∧
      List.Forall₂ (fun o row => (s.load key rows).2.objects[o]? = some row)
        (s.load key rows).1 rows := by
  induction rows generalizing s with
  | nil => exact ⟨h, .nil⟩
  | cons row rows ih =>
    obtain ⟨hrow, hget⟩ := h.loadRow (hrows row List.mem_cons_self)
    obtain ⟨hrest, hall⟩ := ih hrow fun r hr => by
      rw [rows_loadRow]
      exact hrows r (List.mem_cons_of_mem _ hr)
    refine ⟨hrest, .cons ?_ hall⟩
    exact getElem?_load rows hget

theorem exists_right_of_forall₂ {α β : Type*} {R : α → β → Prop} {l : List α} {m : List β}
    (h : List.Forall₂ R l m) {a : α} (ha : a ∈ l) : ∃ b ∈ m, R a b := by
  induction h with
  | nil => cases ha
  | cons hab _ ih =>
    rcases List.mem_cons.mp ha with rfl | ha
    · exact ⟨_, List.mem_cons_self, hab⟩
    · obtain ⟨b, hb, hR⟩ := ih ha
      exact ⟨b, List.mem_cons_of_mem _ hb, hR⟩

/-- Every object of a result stands for one of its rows. -/
theorem Coherent.exists_row (h : s.Coherent key) {rows : List ε}
    (hrows : ∀ row ∈ rows, row ∈ s.rows) {o : ℕ} (ho : o ∈ (s.load key rows).1) :
    ∃ row ∈ rows, (s.load key rows).2.objects[o]? = some row :=
  exists_right_of_forall₂ (h.load hrows).2 ho

/-- Every row of a result has an object. -/
theorem Coherent.exists_object (h : s.Coherent key) {rows : List ε}
    (hrows : ∀ row ∈ rows, row ∈ s.rows) {row : ε} (hrow : row ∈ rows) :
    ∃ o ∈ (s.load key rows).1, (s.load key rows).2.objects[o]? = some row :=
  exists_right_of_forall₂ (h.load hrows).2.flip hrow

end Session

end XnetZt
