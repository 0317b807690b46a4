import Mathlib.Data.List.Basic
import Mathlib.Tactic

/-!
# Statements one after another

A script runs until one of its statements fails, and what was done before the failure stays.
The process may also end between two statements, so a script may be cut anywhere.
-/

namespace XnetZt.Script

variable {σ α : Type*} (execute : σ → α → Option σ)

/-- The statements in order; the first that fails ends the script. -/
def perform : σ → List α → σ
  | s, [] => s
  | s, a :: rest =>
    match execute s a with
    | none => s
    | some s' => perform s' rest

/-- What is done of a script. `none` means that the process does not end before. -/
def cut (k : Option ℕ) (script : List α) : List α :=
  match k with
  | none => script
  | some k => script.take k

/-- How far a script gets whose last statements follow after `n` others. -/
inductive Progress
  | before
  | between
  | through
  deriving DecidableEq

/-- `between` is after the first of two last statements. -/
def progress (k : Option ℕ) (n : ℕ) : Progress :=
  match k with
  | none => .through
  | some m => if m ≤ n then .before else if m = n + 1 then .between else .through

variable {execute} {s s' : σ} {a : α} {script rest : List α}

@[simp] theorem perform_nil : perform execute s [] = s := rfl

theorem perform_cons (h : execute s a = some s') :
    perform execute s (a :: rest) = perform execute s' rest := by
  rw [perform, h]

theorem perform_cons_none (h : execute s a = none) : perform execute s (a :: rest) = s := by
  rw [perform, h]

@[simp] theorem cut_nil (k : Option ℕ) : cut k ([] : List α) = [] := by
  cases k with
  | none => rfl
  | some k => exact List.take_nil

theorem cut_singleton {k : Option ℕ} (hk : k ≠ some 0) : cut k [a] = [a] := by
  cases k with
  | none => rfl
  | some k =>
    cases k with
    | zero => exact absurd rfl hk
    | succ k => exact List.take_of_length_le (Nat.succ_le_succ k.zero_le)

/-- Statements that cannot fail. -/
theorem perform_append {f : σ → α → σ} (h : ∀ a ∈ script, ∀ s, execute s a = some (f s a)) :
    perform execute s (script ++ rest) = perform execute (script.foldl f s) rest := by
  induction script generalizing s with
  | nil => rfl
  | cons a script ih =>
    obtain ⟨ha, hscript⟩ := List.forall_mem_cons.mp h
    rw [List.cons_append, perform_cons (ha s), ih hscript, List.foldl_cons]

/-- A script that ends with two statements may be cut before them, between them, or not at
all. -/
theorem perform_cut_pair {f : σ → α → σ} (h : ∀ a ∈ script, ∀ s, execute s a = some (f s a))
    (s : σ) (k : Option ℕ) (a b : α) :
    (progress k script.length = .before ∧ ∃ n,
        perform execute s (cut k (script ++ [a, b])) = (script.take n).foldl f s) ∨
      progress k script.length = .between ∧ perform execute s (cut k (script ++ [a, b])) =
        perform execute (script.foldl f s) [a] ∨
      progress k script.length = .through ∧ perform execute s (cut k (script ++ [a, b])) =
        perform execute (script.foldl f s) [a, b] := by
  cases k with
  | none => exact Or.inr (Or.inr ⟨rfl, perform_append h⟩)
  | some n =>
    rw [progress]
    rcases Nat.lt_trichotomy n (script.length + 1) with hn | rfl | hn
    · have hrun : perform execute s (script.take n ++ []) = (script.take n).foldl f s :=
        perform_append fun a ha => h a (List.mem_of_mem_take ha)
      refine Or.inl ⟨if_pos (by omega), n, ?_⟩
      rw [cut, List.take_append_of_le_length (by omega), ← hrun, List.append_nil]
    · refine Or.inr (Or.inl ⟨by rw [if_neg (by omega), if_pos rfl], ?_⟩)
      rw [cut, List.take_append, List.take_of_length_le (by omega), perform_append h,
        Nat.add_sub_cancel_left]
      rfl
    · refine Or.inr (Or.inr ⟨by rw [if_neg (by omega), if_neg (by omega)], ?_⟩)
      rw [cut, List.take_of_length_le (by rw [List.length_append]; exact hn), perform_append h]

end XnetZt.Script
