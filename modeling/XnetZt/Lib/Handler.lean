import Mathlib.Logic.Basic
import Mathlib.Tactic

/-!
# Programs with a state and exceptions

What a program of `EStateM` leaves behind, whether it returns or throws, and the rules for
a property of the state that a program keeps in both cases. The rules in the second half
are about two runs: from related states they end in the same way, in related states.
-/

namespace XnetZt.Handler

variable {ε σ α β : Type}

/-! ### Runs -/

/-- A step that returns, and what comes after it. -/
theorem run_bind_ok {x : EStateM ε σ α} {s s' : σ} {a : α} (h : x.run s = .ok a s')
    (f : α → EStateM ε σ β) : (x >>= f).run s = (f a).run s' := by
  rw [EStateM.run_bind, h]

theorem run_bind_error {x : EStateM ε σ α} {s s' : σ} {e : ε} (h : x.run s = .error e s')
    (f : α → EStateM ε σ β) : (x >>= f).run s = .error e s' := by
  rw [EStateM.run_bind, h]

theorem run_get_bind (f : σ → EStateM ε σ β) (s : σ) : (get >>= f).run s = (f s).run s := rfl

/-- The handler runs in the state that the exception left. -/
theorem run_tryCatch (x : EStateM ε σ α) (f : ε → EStateM ε σ α) (s : σ) :
    (tryCatch x f).run s = match x.run s with
      | .ok a s' => .ok a s'
      | .error e s' => (f e).run s' := by
  change (EStateM.tryCatch x f).run s = _
  unfold EStateM.run EStateM.tryCatch
  cases x s <;> rfl

/-- The state after a run, also one that ends in an exception. -/
def after (x : EStateM ε σ α) (s : σ) : σ :=
  match x.run s with
  | .ok _ s' => s'
  | .error _ s' => s'

theorem after_ok {x : EStateM ε σ α} {s s' : σ} {a : α} (h : x.run s = .ok a s') :
    after x s = s' := by
  rw [after, h]

theorem after_bind_ok {x : EStateM ε σ α} {s s' : σ} {a : α} (h : x.run s = .ok a s')
    (f : α → EStateM ε σ β) : after (x >>= f) s = after (f a) s' := by
  rw [after, run_bind_ok h, after]

theorem after_get_bind (f : σ → EStateM ε σ β) (s : σ) : after (get >>= f) s = after (f s) s := rfl

theorem after_bind_error {x : EStateM ε σ α} {s s' : σ} {e : ε} (h : x.run s = .error e s')
    (f : α → EStateM ε σ β) : after (x >>= f) s = s' := by
  rw [after, EStateM.run_bind, h]

/-- A run that returns, cut after its first step. -/
theorem run_bind_eq_ok {x : EStateM ε σ α} {f : α → EStateM ε σ β} {s s' : σ} {b : β}
    (h : (x >>= f).run s = .ok b s') : ∃ a t, x.run s = .ok a t ∧ (f a).run t = .ok b s' := by
  rw [EStateM.run_bind] at h
  cases hx : x.run s with
  | ok a t =>
    rw [hx] at h
    exact ⟨a, t, rfl, h⟩
  | error e t =>
    rw [hx] at h
    cases h

theorem after_tryCatch (x : EStateM ε σ α) (f : ε → EStateM ε σ α) (s : σ) :
    (∃ a, x.run s = .ok a (after (tryCatch x f) s)) ∨
      ∃ e, x.run s = .error e (after x s) ∧ after (tryCatch x f) s = after (f e) (after x s) := by
  unfold after
  rw [run_tryCatch]
  cases x.run s with
  | ok a s' => exact Or.inl ⟨a, rfl⟩
  | error e s' => exact Or.inr ⟨e, rfl, rfl⟩

theorem after_tryCatch_ok {x : EStateM ε σ α} {s s' : σ} {a : α} (h : x.run s = .ok a s')
    (f : ε → EStateM ε σ α) : after (tryCatch x f) s = s' := by
  rw [after, run_tryCatch, h]

theorem after_tryCatch_error {x : EStateM ε σ α} {s s' : σ} {e : ε} (h : x.run s = .error e s')
    (f : ε → EStateM ε σ α) : after (tryCatch x f) s = after (f e) s' := by
  rw [after, run_tryCatch, h, after]

/-- Every run of `x` from a state with `I` leaves a state with `I`. -/
def Keeps (I : σ → Prop) (x : EStateM ε σ α) : Prop := ∀ s, I s → I (after x s)

variable {I : σ → Prop}

theorem keeps_pure (a : α) : Keeps I (pure a : EStateM ε σ α) := fun _ h => h

theorem keeps_bind {x : EStateM ε σ α} {f : α → EStateM ε σ β} (hx : Keeps I x)
    (hf : ∀ a, Keeps I (f a)) : Keeps I (x >>= f) := by
  intro s hs
  have hs' := hx s hs
  cases hrun : x.run s with
  | ok a s' =>
    rw [after_ok hrun] at hs'
    rw [after_bind_ok hrun]
    exact hf a s' hs'
  | error e s' =>
    rw [after, hrun] at hs'
    rw [after_bind_error hrun]
    exact hs'

/-- What is read has the property. -/
theorem keeps_get_bind {f : σ → EStateM ε σ β} (h : ∀ s, I s → I (after (f s) s)) :
    Keeps I (get >>= f) := h

theorem keeps_modify {g : σ → σ} (h : ∀ s, I s → I (g s)) :
    Keeps I (modify g : EStateM ε σ PUnit) := h

theorem keeps_ite {p : Prop} [Decidable p] {x y : EStateM ε σ α} (hx : p → Keeps I x)
    (hy : ¬ p → Keeps I y) : Keeps I (if p then x else y) := by
  split_ifs with hp
  · exact hx hp
  · exact hy hp

/-! ### Two runs -/

/-- Both runs return or both throw the same exception, and the states are related. -/
inductive Matching (R : σ → σ → Prop) (Q : α → β → Prop) :
    EStateM.Result ε σ α → EStateM.Result ε σ β → Prop
  | ok {a : α} {b : β} {s t : σ} (hQ : Q a b) (hR : R s t) : Matching R Q (.ok a s) (.ok b t)
  | error {e : ε} {s t : σ} (hR : R s t) : Matching R Q (.error e s) (.error e t)

/-- Runs from related states match. -/
def Relates (R : σ → σ → Prop) (Q : α → β → Prop) (x : EStateM ε σ α) (y : EStateM ε σ β) :
    Prop :=
  ∀ s t, R s t → Matching R Q (x.run s) (y.run t)

variable {R : σ → σ → Prop} {γ δ : Type}

theorem Relates.after {Q : α → β → Prop} {x : EStateM ε σ α} {y : EStateM ε σ β}
    (hxy : Relates R Q x y) {s t : σ} (hR : R s t) : R (after x s) (after y t) := by
  have hm := hxy s t hR
  unfold Handler.after
  generalize x.run s = rx at hm
  generalize y.run t = ry at hm
  cases hm with
  | ok _ hR' => exact hR'
  | error hR' => exact hR'

theorem relates_pure {Q : α → β → Prop} {a : α} {b : β} (h : Q a b) :
    Relates R Q (pure a : EStateM ε σ α) (pure b) :=
  fun _ _ hR => .ok h hR

theorem relates_bind {Q : α → β → Prop} {Q' : γ → δ → Prop} {x : EStateM ε σ α}
    {y : EStateM ε σ β} {f : α → EStateM ε σ γ} {g : β → EStateM ε σ δ} (hxy : Relates R Q x y)
    (hfg : ∀ a b, Q a b → Relates R Q' (f a) (g b)) : Relates R Q' (x >>= f) (y >>= g) := by
  intro s t hR
  have hm := hxy s t hR
  rw [EStateM.run_bind, EStateM.run_bind]
  generalize x.run s = rx at hm
  generalize y.run t = ry at hm
  cases hm with
  | ok hQ hR' => exact hfg _ _ hQ _ _ hR'
  | error hR' => exact .error hR'

/-- What is read is related. -/
theorem relates_get : Relates R R (get : EStateM ε σ σ) get := fun _ _ hR => .ok hR hR

theorem relates_set {s t : σ} (h : R s t) :
    Relates R Eq (set s : EStateM ε σ PUnit) (set t) :=
  fun _ _ _ => .ok rfl h

theorem relates_modify {f g : σ → σ} (h : ∀ s t, R s t → R (f s) (g t)) :
    Relates R Eq (modify f : EStateM ε σ PUnit) (modify g) :=
  fun s t hR => .ok rfl (h s t hR)

theorem relates_modifyGet {f g : σ → α × σ}
    (h : ∀ s t, R s t → (f s).1 = (g t).1 ∧ R (f s).2 (g t).2) :
    Relates R Eq (modifyGet f : EStateM ε σ α) (modifyGet g) :=
  fun s t hR => .ok (h s t hR).1 (h s t hR).2

theorem relates_tryCatch {Q : α → β → Prop} {x : EStateM ε σ α} {y : EStateM ε σ β}
    {f : ε → EStateM ε σ α} {g : ε → EStateM ε σ β} (hxy : Relates R Q x y)
    (hfg : ∀ e, Relates R Q (f e) (g e)) : Relates R Q (tryCatch x f) (tryCatch y g) := by
  intro s t hR
  have hm := hxy s t hR
  rw [run_tryCatch, run_tryCatch]
  generalize x.run s = rx at hm
  generalize y.run t = ry at hm
  cases hm with
  | ok hQ hR' => exact .ok hQ hR'
  | error hR' => exact hfg _ _ _ hR'

theorem relates_ite {Q : α → β → Prop} {p : Prop} [Decidable p] {x x' : EStateM ε σ α}
    {y y' : EStateM ε σ β} (h : Relates R Q x y) (h' : Relates R Q x' y') :
    Relates R Q (if p then x else x') (if p then y else y') := by
  split_ifs
  · exact h
  · exact h'

end XnetZt.Handler
