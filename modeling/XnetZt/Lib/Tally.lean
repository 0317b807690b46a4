import XnetZt.Lib.Java

/-!
# Tables that count by a key

A table counts what is seen under a key, while the question is about kinds: how many
kinds were seen, and how much of each in either direction. The history of what was seen
(newest first) is the specification and a table `Represents` it. The answers the table
gives are `Exact` as long as the keys tell apart just what the kinds tell apart and every
counter shows what it has counted, and the first observation that breaks this breaks them.
A counter of fixed width wraps around: `shows n` is what it shows after `n` in total.
-/

namespace XnetZt.Tally

/-- One thing seen. -/
structure Observation (κ φ : Type*) where
  key : κ
  kind : φ
  amount : ℕ
  outbound : Bool
  deriving DecidableEq

/-- What is kept under a key: the kind that was seen first, and the amounts. -/
@[ext] structure Entry (φ : Type*) where
  kind : φ
  sent : ℕ
  received : ℕ

variable {κ φ : Type*}

/-- The entry after one more observation. -/
def Entry.count (e : Entry φ) (o : Observation κ φ) : Entry φ :=
  if o.outbound then { e with sent := e.sent + o.amount }
  else { e with received := e.received + o.amount }

@[simp] theorem Entry.kind_count (e : Entry φ) (o : Observation κ φ) :
    (e.count o).kind = e.kind := by
  unfold Entry.count
  split_ifs <;> rfl

/-- The amount of what meets `p` in one direction. -/
def total (p : Observation κ φ → Prop) [DecidablePred p] (outbound : Bool)
    (history : List (Observation κ φ)) : ℕ :=
  (history.map fun o => if p o ∧ o.outbound = outbound then o.amount else 0).sum

theorem total_congr {p q : Observation κ φ → Prop} [DecidablePred p] [DecidablePred q]
    {history : List (Observation κ φ)} (h : ∀ o ∈ history, p o ↔ q o) (outbound : Bool) :
    total p outbound history = total q outbound history := by
  unfold total
  congr 1
  apply List.map_congr_left
  intro o ho
  rw [if_congr (and_congr_left' (h o ho)) rfl rfl]

theorem total_cons (p : Observation κ φ → Prop) [DecidablePred p] (outbound : Bool)
    (o : Observation κ φ) (history : List (Observation κ φ)) :
    total p outbound (o :: history) =
      (if p o ∧ o.outbound = outbound then o.amount else 0) + total p outbound history := rfl

theorem total_eq_zero {p : Observation κ φ → Prop} [DecidablePred p]
    {history : List (Observation κ φ)} (h : ∀ o ∈ history, ¬ p o) (outbound : Bool) :
    total p outbound history = 0 := by
  induction history with
  | nil => rfl
  | cons o history ih =>
    rw [total_cons, if_neg fun hp => h o List.mem_cons_self hp.1, zero_add]
    exact ih fun o' ho' => h o' (List.mem_cons_of_mem o ho')

/-- How many different values a list has. -/
def distinct {α : Type*} [DecidableEq α] (l : List α) : ℕ := l.dedup.length

theorem distinct_cons {α : Type*} [DecidableEq α] (a : α) (l : List α) :
    distinct (a :: l) = if a ∈ l then distinct l else distinct l + 1 := by
  unfold distinct
  split_ifs with h
  · rw [List.dedup_cons_of_mem h]
  · rw [List.dedup_cons_of_notMem h, List.length_cons]

/-! ### What is kept under each key -/

section Entries

variable [DecidableEq κ]

/-- The entry under a key after a history: the first observation opens it. -/
def entryAt : List (Observation κ φ) → κ → Option (Entry φ)
  | [], _ => none
  | o :: history, k =>
    if o.key = k then some (((entryAt history k).getD ⟨o.kind, 0, 0⟩).count o)
    else entryAt history k

theorem entryAt_isSome_iff (history : List (Observation κ φ)) (k : κ) :
    (entryAt history k).isSome ↔ ∃ o ∈ history, o.key = k := by
  induction history with
  | nil => simp [entryAt]
  | cons o history ih =>
    rw [entryAt]
    split_ifs with h
    · simp [h]
    · simp [h, ih]

/-- An entry holds the amounts of everything under its key, and the kind of one of them. -/
theorem entryAt_eq_some {history : List (Observation κ φ)} {k : κ} {e : Entry φ}
    (h : entryAt history k = some e) :
    e.sent = total (·.key = k) true history ∧ e.received = total (·.key = k) false history ∧
      ∃ o ∈ history, o.key = k ∧ o.kind = e.kind := by
  induction history generalizing e with
  | nil => cases h
  | cons o history ih =>
    rw [entryAt] at h
    rw [total_cons, total_cons]
    by_cases hk : o.key = k
    · rw [if_pos hk, Option.some.injEq] at h
      subst h
      -- an entry that is opened now starts without amounts, and so does the history
      have hbefore : ∃ e0 : Entry φ, (entryAt history k).getD ⟨o.kind, 0, 0⟩ = e0 ∧
          e0.sent = total (·.key = k) true history ∧
          e0.received = total (·.key = k) false history ∧
          ∃ o' ∈ o :: history, o'.key = k ∧ o'.kind = e0.kind := by
        cases he : entryAt history k with
        | some e0 =>
          obtain ⟨hs, hr, o', ho', hko⟩ := ih he
          exact ⟨e0, rfl, hs, hr, o', List.mem_cons_of_mem o ho', hko⟩
        | none =>
          have hnone : ∀ o' ∈ history, ¬ o'.key = k := by
            intro o' ho' hk'
            have := (entryAt_isSome_iff history k).mpr ⟨o', ho', hk'⟩
            rw [he] at this
            cases this
          exact ⟨⟨o.kind, 0, 0⟩, rfl, (total_eq_zero hnone true).symm,
            (total_eq_zero hnone false).symm, o, List.mem_cons_self, hk, rfl⟩
      obtain ⟨e0, he0, hs, hr, hkind⟩ := hbefore
      rw [he0, Entry.kind_count, ← hs, ← hr]
      refine ⟨?_, ?_, hkind⟩ <;> cases hout : o.outbound <;>
        simp [Entry.count, hout, hk, add_comm]
    · rw [if_neg hk] at h
      obtain ⟨hs, hr, o', ho', hko⟩ := ih h
      rw [if_neg fun h => hk h.1, if_neg fun h => hk h.1, zero_add, zero_add]
      exact ⟨hs, hr, o', List.mem_cons_of_mem o ho', hko⟩

end Entries

/-! ### Tables -/

section Tables

variable [DecidableEq κ] {ε : Type*} (R : ε → Entry φ → Prop)

/-- Under every key the table has an entry that stands for the one of the history. -/
def Represents (table : HashMap κ ε) (history : List (Observation κ φ)) : Prop :=
  ∀ k, Option.Rel R (table.lookup k) (entryAt history k)

variable {R} {table : HashMap κ ε} {history : List (Observation κ φ)}

theorem represents_empty : Represents R (∅ : HashMap κ ε) [] := by
  intro k
  rw [AList.lookup_empty, entryAt]
  exact .none

/-- Inserting the counted entry under its key keeps the table in step. -/
theorem Represents.insert (h : Represents R table history) {o : Observation κ φ} {entry : ε}
    (hentry : R entry (((entryAt history o.key).getD ⟨o.kind, 0, 0⟩).count o)) :
    Represents R (table.insert o.key entry) (o :: history) := by
  intro k
  rw [entryAt]
  by_cases hk : o.key = k
  · subst hk
    rw [if_pos rfl, AList.lookup_insert]
    exact .some hentry
  · rw [if_neg hk, AList.lookup_insert_ne (Ne.symm hk)]
    exact h k

theorem Represents.isSome (h : Represents R table history) (k : κ) :
    (table.lookup k).isSome = (entryAt history k).isSome := by
  have hk := h k
  generalize table.lookup k = found at hk ⊢
  generalize Tally.entryAt history k = kept at hk ⊢
  cases hk <;> rfl

theorem Represents.exists_of_lookup (h : Represents R table history) {k : κ} {entry : ε}
    (hk : table.lookup k = some entry) : ∃ e, entryAt history k = some e ∧ R entry e := by
  have hrel := h k
  rw [hk] at hrel
  generalize Tally.entryAt history k = kept at hrel ⊢
  cases hrel with
  | some hR => exact ⟨_, rfl, hR⟩

theorem Represents.exists_of_entryAt (h : Represents R table history) {k : κ} {e : Entry φ}
    (hk : entryAt history k = some e) : ∃ entry, table.lookup k = some entry ∧ R entry e := by
  have hrel := h k
  rw [hk] at hrel
  generalize table.lookup k = found at hrel ⊢
  cases hrel with
  | some hR => exact ⟨_, rfl, hR⟩

theorem Represents.length (h : Represents R table history) :
    table.keys.length = distinct (history.map (·.key)) := by
  have hmem : ∀ k, k ∈ table.keys ↔ k ∈ (history.map (·.key)).dedup := by
    intro k
    rw [← AList.mem_keys, ← AList.lookup_isSome, h.isSome, entryAt_isSome_iff, List.mem_dedup,
      List.mem_map]
  exact ((List.perm_ext_iff_of_nodup table.keys_nodup (List.nodup_dedup _)).mpr hmem).length_eq

end Tables

/-! ### When counting by key counts the kinds -/

/-- The keys tell apart just what the kinds tell apart. -/
def Agrees (history : List (Observation κ φ)) : Prop :=
  ∀ o ∈ history, ∀ o' ∈ history, o.key = o'.key ↔ o.kind = o'.kind

/-- The new observation has the key of an earlier one just if it has its kind. -/
def Fits (history : List (Observation κ φ)) (o : Observation κ φ) : Prop :=
  ∀ o' ∈ history, o.key = o'.key ↔ o.kind = o'.kind

theorem agrees_nil : Agrees ([] : List (Observation κ φ)) := by
  intro o ho
  cases ho

theorem Agrees.cons {history : List (Observation κ φ)} {o : Observation κ φ}
    (h : Agrees history) (hfits : Fits history o) : Agrees (o :: history) := by
  intro o₁ h₁ o₂ h₂
  rcases List.mem_cons.mp h₁ with rfl | h₁' <;> rcases List.mem_cons.mp h₂ with rfl | h₂'
  · simp
  · exact hfits o₂ h₂'
  · rw [eq_comm, hfits o₁ h₁', eq_comm]
  · exact h o₁ h₁' o₂ h₂'

variable [DecidableEq κ] [DecidableEq φ]

section Exact

variable (shows : ℕ → ℤ)

/-- There is one entry for each kind, and every kind has an entry whose counters show its
amounts. -/
structure Exact (history : List (Observation κ φ)) : Prop where
  size : distinct (history.map (·.key)) = distinct (history.map (·.kind))
  amounts : ∀ o ∈ history, ∃ k e, entryAt history k = some e ∧ e.kind = o.kind ∧
    shows e.sent = total (·.kind = o.kind) true history ∧
    shows e.received = total (·.kind = o.kind) false history

/-- A counter that has counted a kind shows its amount. -/
def Countable (history : List (Observation κ φ)) : Prop :=
  ∀ o ∈ history, ∀ outbound, shows (total (·.kind = o.kind) outbound history) =
    total (·.kind = o.kind) outbound history

end Exact

section Agreement

variable {history : List (Observation κ φ)}

theorem Agrees.distinct (h : Agrees history) :
    distinct (history.map (·.key)) = Tally.distinct (history.map (·.kind)) := by
  induction history with
  | nil => rfl
  | cons o history ih =>
    have hrest : Agrees history := fun o₁ h₁ o₂ h₂ =>
      h o₁ (List.mem_cons_of_mem o h₁) o₂ (List.mem_cons_of_mem o h₂)
    have hmem : o.key ∈ history.map (·.key) ↔ o.kind ∈ history.map (·.kind) := by
      simp only [List.mem_map]
      refine exists_congr fun o' => and_congr_right fun ho' => ?_
      exact h o' (List.mem_cons_of_mem o ho') o List.mem_cons_self
    rw [List.map_cons, List.map_cons, distinct_cons, distinct_cons, ih hrest, if_congr hmem rfl rfl]

/-- While keys and kinds agree, the entry under a key is the one of its kind. -/
theorem Agrees.entryAt (h : Agrees history) {o : Observation κ φ} (ho : o ∈ history) :
    entryAt history o.key = some ⟨o.kind, total (·.kind = o.kind) true history,
      total (·.kind = o.kind) false history⟩ := by
  obtain ⟨e, he⟩ := Option.isSome_iff_exists.mp
    ((entryAt_isSome_iff history o.key).mpr ⟨o, ho, rfl⟩)
  obtain ⟨hs, hr, o', ho', hk, hkind⟩ := entryAt_eq_some he
  have hsame : ∀ o' ∈ history, o'.key = o.key ↔ o'.kind = o.kind := fun o' ho' => h o' ho' o ho
  rw [he, Option.some.injEq]
  ext
  · rw [← hkind, (hsame o' ho').mp hk]
  · rw [hs, total_congr hsame]
  · rw [hr, total_congr hsame]

variable {shows : ℕ → ℤ}

theorem Agrees.exact (h : Agrees history) (hcount : Countable shows history) :
    Exact shows history where
  size := h.distinct
  amounts o ho := ⟨o.key, _, h.entryAt ho, rfl, hcount o ho true, hcount o ho false⟩

/-- A new observation under the key of another kind spoils that kind's amounts, if no counter
shows the same as before it. -/
theorem not_exact_of_taken (h : Agrees history) (hcount : Countable shows history)
    {o o' : Observation κ φ} (ho : ∀ n : ℕ, shows n = n → shows (n + o.amount) ≠ n)
    (ho' : o' ∈ history) (hkey : o.key = o'.key) (hkind : o.kind ≠ o'.kind) :
    ¬ Exact shows (o :: history) := by
  intro hexact
  obtain ⟨k, e, he, hek, hs, hr⟩ := hexact.amounts o' (List.mem_cons_of_mem o ho')
  rw [total_cons, if_neg fun h => hkind h.1, zero_add] at hs hr
  rw [Tally.entryAt] at he
  by_cases hk : o.key = k
  · -- the entry of the kind has the new amount too
    rw [if_pos hk, ← hk, hkey, h.entryAt ho', Option.getD_some, Option.some.injEq] at he
    subst he
    cases hout : o.outbound with
    | true =>
      simp only [Entry.count, hout, if_true] at hs
      exact ho _ (hcount o' ho' true) hs
    | false =>
      simp only [Entry.count, hout, Bool.false_eq_true, if_false] at hr
      exact ho _ (hcount o' ho' false) hr
  · -- any other entry is of another kind
    rw [if_neg hk] at he
    obtain ⟨-, -, o₃, ho₃, hk₃, hkind₃⟩ := entryAt_eq_some he
    have : o₃.key = o'.key := (h o₃ ho₃ o' ho').mpr (hkind₃.trans hek)
    exact hk (hkey.trans (this.symm.trans hk₃))

/-- Agreement is also what exact answers need. -/
theorem Agrees.fits_of_exact (h : Agrees history) (hcount : Countable shows history)
    {o : Observation κ φ} (ho : ∀ n : ℕ, shows n = n → shows (n + o.amount) ≠ n)
    (hexact : Exact shows (o :: history)) : Fits history o := by
  -- the number of entries grows just if the number of kinds does
  have hmem : (∃ o₁ ∈ history, o₁.key = o.key) ↔ ∃ o₁ ∈ history, o₁.kind = o.kind := by
    have hsize := hexact.size
    rw [List.map_cons, List.map_cons, distinct_cons, distinct_cons, h.distinct] at hsize
    simp only [List.mem_map] at hsize
    split_ifs at hsize with h₁ h₂ h₂
    · exact iff_of_true h₁ h₂
    · omega
    · omega
    · exact iff_of_false h₁ h₂
  by_cases hkey : ∃ o₁ ∈ history, o₁.key = o.key
  · obtain ⟨o₁, ho₁, hk₁⟩ := hkey
    have hkind : o.kind = o₁.kind := by
      by_contra hne
      exact not_exact_of_taken h hcount ho ho₁ hk₁.symm hne hexact
    intro o' ho'
    rw [← hk₁, hkind]
    exact h o₁ ho₁ o' ho'
  · intro o' ho'
    refine iff_of_false (fun hk => hkey ⟨o', ho', hk.symm⟩) fun hk => ?_
    exact hkey (hmem.mpr ⟨o', ho', hk.symm⟩)

/-- While keys and kinds agree, exact answers are those that the counters can show. -/
theorem Agrees.exact_iff (h : Agrees history) : Exact shows history ↔ Countable shows history := by
  refine ⟨fun hexact o ho outbound => ?_, h.exact⟩
  obtain ⟨k, e, he, hkind, hs, hr⟩ := hexact.amounts o ho
  obtain ⟨hsent, hreceived, o', ho', hk, hkind'⟩ := entryAt_eq_some he
  have hsame : ∀ o'' ∈ history, o''.key = k ↔ o''.kind = o.kind := by
    intro o'' ho''
    rw [← hk, h o'' ho'' o' ho', hkind', hkind]
  cases outbound with
  | true => rw [← hs, hsent, total_congr hsame]
  | false => rw [← hr, hreceived, total_congr hsame]

theorem Agrees.exact_cons_iff (h : Agrees history) (hcount : Countable shows history)
    {o : Observation κ φ} (ho : ∀ n : ℕ, shows n = n → shows (n + o.amount) ≠ n) :
    Exact shows (o :: history) ↔ Fits history o ∧ Countable shows (o :: history) := by
  constructor
  · intro hexact
    have hfits := h.fits_of_exact hcount ho hexact
    exact ⟨hfits, (h.cons hfits).exact_iff.mp hexact⟩
  · rintro ⟨hfits, hnext⟩
    exact (h.cons hfits).exact hnext

end Agreement

end XnetZt.Tally
