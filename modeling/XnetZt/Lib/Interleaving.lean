import Mathlib.Data.List.Basic
import Mathlib.Tactic

/-!
# Interleavings of two threads

`Interleaving l r s` says that the schedule `s` executes the atomic steps of two
threads `l` and `r`, each in its own order, under some scheduler. A fact about the
steps that touch one shared object is read off the schedule filtered to that object,
which is again an interleaving of the two filtered threads.
-/

namespace XnetZt

variable {α : Type*}

inductive Interleaving : List α → List α → List α → Prop
  | nil : Interleaving [] [] []
  | left {a : α} {l r s : List α} : Interleaving l r s → Interleaving (a :: l) r (a :: s)
  | right {a : α} {l r s : List α} : Interleaving l r s → Interleaving l (a :: r) (a :: s)

namespace Interleaving

variable {l r s : List α}

/-- Restricting a schedule restricts both threads. -/
theorem filter (p : α → Bool) (h : Interleaving l r s) :
    Interleaving (l.filter p) (r.filter p) (s.filter p) := by
  induction h with
  | nil => exact .nil
  | @left a l r s _ ih =>
    cases hp : p a
    · simpa [List.filter_cons, hp] using ih
    · simpa [List.filter_cons, hp] using ih.left
  | @right a l r s _ ih =>
    cases hp : p a
    · simpa [List.filter_cons, hp] using ih
    · simpa [List.filter_cons, hp] using ih.right

theorem eq_of_nil_right (h : Interleaving l [] s) : s = l := by
  generalize hr : ([] : List α) = r at h
  induction h with
  | nil => rfl
  | left _ ih => rw [ih hr]
  | right _ _ => cases hr

theorem eq_of_nil_left (h : Interleaving [] r s) : s = r := by
  generalize hl : ([] : List α) = l at h
  induction h with
  | nil => rfl
  | left _ _ => cases hl
  | right _ ih => rw [ih hl]

/-- Two threads with one step each have two schedules. -/
theorem singleton_cases {a b : α} (h : Interleaving [a] [b] s) :
    s = [a, b] ∨ s = [b, a] := by
  cases h with
  | left h => exact Or.inl (by rw [h.eq_of_nil_left])
  | right h => exact Or.inr (by rw [h.eq_of_nil_right])

end Interleaving
end XnetZt
