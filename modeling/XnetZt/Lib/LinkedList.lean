import Mathlib.Data.Fintype.Card
import Mathlib.Tactic

/-!
# Singly linked lists in memory

Memory gives every node a pointer `next`, and a list is a pointer to its first node. A list
whose pointers were overwritten may run in a circle, and then the loop

  `for (q = p; q != NULL; q = q->next) if (stop(q)) break;`

need not end. `seek` runs it for a given number of nodes. The nodes that the loop visits are
pairwise distinct, so of finitely many nodes their number is always enough: a loop that has
not ended by then never does.
-/

namespace XnetZt.LinkedList

variable {α : Type*}

/-- The loop over the list at `p`, for at most `fuel` nodes: the node at which it breaks, or
the null pointer at the end of the list. -/
def seek (next : α → Option α) (stop : α → Bool) : ℕ → Option α → Option (Option α)
  | _, none => some none
  | 0, some _ => none
  | fuel + 1, some q => if stop q then some (some q) else seek next stop fuel (next q)

/-- The nodes that the loop visits, the one at which it breaks included, and how it ends. -/
inductive Trail (next : α → Option α) (stop : α → Bool) : Option α → List α → Option α → Prop
  | null : Trail next stop none [] none
  | stop {q : α} (h : stop q = true) : Trail next stop (some q) [q] (some q)
  | pass {q : α} {l : List α} {r : Option α} (h : stop q = false)
      (hl : Trail next stop (next q) l r) : Trail next stop (some q) (q :: l) r

/-- The list at `p` ends, after the nodes `l`. -/
inductive Chain (next : α → Option α) : Option α → List α → Prop
  | null : Chain next none []
  | node {q : α} {l : List α} (hl : Chain next (next q) l) : Chain next (some q) (q :: l)

/-- The node `q` is on the list at `p`. -/
inductive Reaches (next : α → Option α) : Option α → α → Prop
  | here {q : α} : Reaches next (some q) q
  | there {a q : α} (h : Reaches next (next a) q) : Reaches next (some a) q

def Ends (next : α → Option α) (p : Option α) : Prop := ∃ l, Chain next p l

variable {next next' : α → Option α} {stop : α → Bool} {p r : Option α} {l : List α}

/-! ### Loops that end -/

theorem Trail.unique {l' : List α} {r' : Option α} (h : Trail next stop p l r)
    (h' : Trail next stop p l' r') : l = l' ∧ r = r' := by
  induction h generalizing l' r' with
  | null =>
    cases h'
    exact ⟨rfl, rfl⟩
  | stop hq =>
    cases h' with
    | stop => exact ⟨rfl, rfl⟩
    | pass hq' => simp [hq] at hq'
  | pass hq _ ih =>
    cases h' with
    | stop hq' => simp [hq] at hq'
    | pass _ hl' =>
      obtain ⟨rfl, rfl⟩ := ih hl'
      exact ⟨rfl, rfl⟩

/-- From every node that it visits the loop goes on in the same way. -/
theorem Trail.of_mem {a : α} (h : Trail next stop p l r) (ha : a ∈ l) :
    ∃ l', Trail next stop (some a) l' r ∧ l'.length ≤ l.length := by
  induction h with
  | null => cases ha
  | stop hq =>
    obtain rfl := List.mem_singleton.mp ha
    exact ⟨_, .stop hq, le_rfl⟩
  | pass hq hl ih =>
    rcases List.mem_cons.mp ha with rfl | ha
    · exact ⟨_, .pass hq hl, le_rfl⟩
    · obtain ⟨l', hl', hle⟩ := ih ha
      exact ⟨l', hl', hle.trans (Nat.le_succ _)⟩

/-- The loop comes back to no node, for it would then go on for ever. -/
theorem Trail.nodup (h : Trail next stop p l r) : l.Nodup := by
  induction h with
  | null => exact List.nodup_nil
  | stop => exact List.nodup_singleton _
  | pass hq hl ih =>
    refine List.nodup_cons.mpr ⟨fun hmem => ?_, ih⟩
    obtain ⟨l', hl', hle⟩ := hl.of_mem hmem
    rw [(hl'.unique (.pass hq hl)).1] at hle
    exact absurd hle (Nat.not_succ_le_self _)

theorem seek_eq_some_iff {fuel : ℕ} :
    seek next stop fuel p = some r ↔ ∃ l, Trail next stop p l r ∧ l.length ≤ fuel := by
  constructor
  · intro h
    induction fuel generalizing p with
    | zero =>
      cases p with
      | none =>
        obtain rfl := Option.some.inj h
        exact ⟨[], .null, le_rfl⟩
      | some q => cases h
    | succ fuel ih =>
      cases p with
      | none =>
        obtain rfl := Option.some.inj h
        exact ⟨[], .null, Nat.zero_le _⟩
      | some q =>
        rw [seek] at h
        split_ifs at h with hq
        · obtain rfl := Option.some.inj h
          exact ⟨[q], .stop hq, Nat.succ_le_succ (Nat.zero_le _)⟩
        · obtain ⟨l, hl, hle⟩ := ih h
          exact ⟨q :: l, .pass (by simpa using hq) hl, Nat.succ_le_succ hle⟩
  · rintro ⟨l, h, hle⟩
    induction h generalizing fuel with
    | null => cases fuel <;> rfl
    | stop hq =>
      obtain ⟨fuel, rfl⟩ := Nat.exists_eq_add_of_le' hle
      simp [seek, hq]
    | pass hq hl ih =>
      obtain ⟨fuel, rfl⟩ := Nat.exists_eq_add_of_le' ((Nat.le_add_left 1 _).trans hle)
      simp [seek, hq, ih (Nat.le_of_succ_le_succ hle)]

/-- As many turns as there are nodes are enough for every loop that ends. -/
theorem Trail.seek_eq [Fintype α] (h : Trail next stop p l r) {fuel : ℕ}
    (hfuel : Fintype.card α ≤ fuel) : seek next stop fuel p = some r :=
  seek_eq_some_iff.mpr ⟨l, h, h.nodup.length_le_card.trans hfuel⟩

theorem seek_of_exists [Fintype α] {fuel fuel' : ℕ} (h : seek next stop fuel p = some r)
    (hfuel : Fintype.card α ≤ fuel') : seek next stop fuel' p = some r := by
  obtain ⟨l, hl, -⟩ := seek_eq_some_iff.mp h
  exact hl.seek_eq hfuel

/-! ### Lists that end -/

theorem Chain.congr (h : Chain next p l) (hl : ∀ q ∈ l, next' q = next q) : Chain next' p l := by
  induction h with
  | null => exact .null
  | @node q l _ ih =>
    refine .node ?_
    rw [hl q List.mem_cons_self]
    exact ih fun a ha => hl a (List.mem_cons_of_mem q ha)

theorem Chain.trail (h : Chain next p l) (hl : ∀ q ∈ l, stop q = false) :
    Trail next stop p l none := by
  induction h with
  | null => exact .null
  | @node q l _ ih =>
    exact .pass (hl q List.mem_cons_self) (ih fun a ha => hl a (List.mem_cons_of_mem q ha))

theorem Trail.chain (h : Trail next stop p l none) :
    Chain next p l ∧ ∀ q ∈ l, stop q = false := by
  generalize hr : (none : Option α) = r at h
  induction h with
  | null => exact ⟨.null, fun q hq => by cases hq⟩
  | stop => cases hr
  | pass hq _ ih => exact ⟨.node (ih hr).1, List.forall_mem_cons.mpr ⟨hq, (ih hr).2⟩⟩

theorem Chain.nodup (h : Chain next p l) : l.Nodup := by
  have htrail : Trail next (fun _ => false) p l none := h.trail fun _ _ => rfl
  exact htrail.nodup

/-- Every loop over a list that ends, ends. -/
theorem Chain.exists_trail (h : Chain next p l) (stop : α → Bool) :
    ∃ l' r, Trail next stop p l' r := by
  induction h with
  | null => exact ⟨_, _, .null⟩
  | @node q l _ ih =>
    obtain ⟨l', r, hl'⟩ := ih
    cases hq : stop q with
    | true => exact ⟨_, _, .stop hq⟩
    | false => exact ⟨_, _, .pass hq hl'⟩

theorem Chain.reaches_iff {q : α} (h : Chain next p l) : Reaches next p q ↔ q ∈ l := by
  induction h with
  | null =>
    refine ⟨fun hr => ?_, fun hq => by cases hq⟩
    cases hr
  | @node a l _ ih =>
    rw [List.mem_cons, ← ih]
    constructor
    · intro hr
      cases hr with
      | here => exact Or.inl rfl
      | there hr => exact Or.inr hr
    · rintro (rfl | hr)
      · exact .here
      · exact .there hr

theorem Trail.reaches {q : α} (h : Trail next stop p l (some q)) : Reaches next p q := by
  generalize hr : some q = r at h
  induction h with
  | null => cases hr
  | stop =>
    obtain rfl := Option.some.inj hr
    exact .here
  | pass _ _ ih => exact .there (ih hr)

theorem Reaches.exists_trail [DecidableEq α] {q : α} (h : Reaches next p q) :
    ∃ l, Trail next (· == q) p l (some q) := by
  induction h with
  | here => exact ⟨_, .stop (beq_self_eq_true _)⟩
  | @there a q _ ih =>
    obtain ⟨l, hl⟩ := ih
    cases ha : a == q with
    | true =>
      obtain rfl := beq_iff_eq.mp ha
      exact ⟨_, .stop ha⟩
    | false => exact ⟨_, .pass ha hl⟩

/-! ### Evaluation -/

section Decide

variable [Fintype α]

theorem ends_iff : Ends next p ↔ seek next (fun _ => false) (Fintype.card α) p = some none := by
  constructor
  · rintro ⟨l, hl⟩
    exact (hl.trail fun _ _ => rfl).seek_eq le_rfl
  · intro h
    obtain ⟨l, hl, -⟩ := seek_eq_some_iff.mp h
    exact ⟨l, hl.chain.1⟩

theorem reaches_iff [DecidableEq α] {q : α} :
    Reaches next p q ↔ seek next (· == q) (Fintype.card α) p = some (some q) := by
  constructor
  · intro h
    obtain ⟨l, hl⟩ := h.exists_trail
    exact hl.seek_eq le_rfl
  · intro h
    obtain ⟨l, hl, -⟩ := seek_eq_some_iff.mp h
    exact hl.reaches

instance [DecidableEq α] : Decidable (Ends next p) := decidable_of_iff' _ ends_iff

instance [DecidableEq α] (q : α) : Decidable (Reaches next p q) := decidable_of_iff' _ reaches_iff

end Decide

end XnetZt.LinkedList
