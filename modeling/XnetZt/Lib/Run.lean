import Mathlib.Data.List.Basic
import Mathlib.Tactic

/-!
# Runs of a deterministic step function

A run is a list of actions folded over a state. `Along P` says that every action
meets `P` in the state it is applied to; `Throughout Q` says that `Q` holds in every
state reached, the first one included. The two rules below turn facts about one step
into facts about whole runs. The second is an equivalence: it applies when a step
that misses the guard breaks the property at once.
-/

namespace XnetZt.Run

variable {σ α : Type*} (step : σ → α → σ)

/-- Every action of the run meets `P` in the state before it. -/
def Along (P : σ → α → Prop) : σ → List α → Prop
  | _, [] => True
  | s, a :: as => P s a ∧ Along P (step s a) as

/-- `Q` holds in every state the run reaches. -/
def Throughout (Q : σ → Prop) (s : σ) (as : List α) : Prop :=
  ∀ n, Q ((as.take n).foldl step s)

variable {step} {P : σ → α → Prop} {Q Inv : σ → Prop} {s : σ}

@[simp] theorem throughout_nil : Throughout step Q s [] ↔ Q s := by
  simp [Throughout]

theorem throughout_cons {a : α} {as : List α} :
    Throughout step Q s (a :: as) ↔ Q s ∧ Throughout step Q (step s a) as := by
  constructor
  · intro h
    exact ⟨by simpa using h 0, fun n => by simpa using h (n + 1)⟩
  · rintro ⟨h0, h⟩ n
    cases n with
    | zero => simpa using h0
    | succ n => simpa using h n

theorem Throughout.last {as : List α} (h : Throughout step Q s as) :
    Q (as.foldl step s) := by
  simpa using h as.length

theorem Throughout.mono {R : σ → Prop} {as : List α} (hQR : ∀ s, Q s → R s)
    (h : Throughout step Q s as) : Throughout step R s as :=
  fun n => hQR _ (h n)

@[simp] theorem along_nil : Along step P s [] := trivial

@[simp] theorem along_cons {a : α} {as : List α} :
    Along step P s (a :: as) ↔ P s a ∧ Along step P (step s a) as := Iff.rfl

theorem along_append {as bs : List α} :
    Along step P s (as ++ bs) ↔ Along step P s as ∧ Along step P (as.foldl step s) bs := by
  induction as generalizing s with
  | nil => simp
  | cons a as ih => simp [ih, and_assoc]

/-- A guard is met at every place where the run can be cut. -/
theorem along_iff_forall {as : List α} :
    Along step P s as ↔
      ∀ before a after, as = before ++ a :: after → P (before.foldl step s) a := by
  constructor
  · rintro h before a after rfl
    exact (along_append.mp h).2.1
  · intro h
    induction as generalizing s with
    | nil => trivial
    | cons a as ih =>
      refine ⟨h [] a as rfl, ih fun before b after has => ?_⟩
      exact h (a :: before) b after (congrArg (a :: ·) has)

/-- A guard that does not look at the state. -/
theorem along_forall {G : α → Prop} {as : List α} :
    Along step (fun _ => G) s as ↔ ∀ a ∈ as, G a := by
  induction as generalizing s with
  | nil => simp
  | cons a as ih => rw [along_cons, ih, List.forall_mem_cons]

/-- What no step restores holds throughout a run if it holds in its last state. -/
theorem throughout_iff_last (hback : ∀ s a, Q (step s a) → Q s) {s : σ} {as : List α} :
    Throughout step Q s as ↔ Q (as.foldl step s) := by
  refine ⟨Throughout.last, fun h => ?_⟩
  induction as generalizing s with
  | nil => exact throughout_nil.mpr h
  | cons a as ih =>
    have hrest := ih h
    refine throughout_cons.mpr ⟨hback s a ?_, hrest⟩
    simpa using hrest 0

/-- Guarded steps keep an invariant, so it holds in every state of a guarded run. The guard
is one of the actions alone and one of the state and the action. -/
theorem throughout_of_forall_of_along {G : α → Prop}
    (hstep : ∀ s a, G a → Inv s → P s a → Inv (step s a)) {s : σ} {as : List α} (hs : Inv s)
    (hG : ∀ a ∈ as, G a) (h : Along step P s as) : Throughout step Inv s as := by
  induction as generalizing s with
  | nil => simpa using hs
  | cons a as ih =>
    rw [throughout_cons]
    obtain ⟨ha, has⟩ := List.forall_mem_cons.mp hG
    exact ⟨hs, ih (hstep s a ha hs h.1) has h.2⟩

theorem throughout_of_along (hstep : ∀ s a, Inv s → P s a → Inv (step s a))
    {s : σ} {as : List α} (hs : Inv s) (h : Along step P s as) :
    Throughout step Inv s as :=
  throughout_of_forall_of_along (G := fun _ => True) (fun s a _ => hstep s a) hs
    (fun _ _ => trivial) h

/-- Steps that need no guard keep an invariant through every run. -/
theorem throughout_of_step (hstep : ∀ s a, Inv s → Inv (step s a))
    {s : σ} (as : List α) (hs : Inv s) : Throughout step Inv s as := by
  induction as generalizing s with
  | nil => simpa using hs
  | cons a as ih =>
    rw [throughout_cons]
    exact ⟨hs, ih (hstep s a hs)⟩

/-- A guard that does not look at the state is one of the actions alone. -/
theorem throughout_of_forall {G : α → Prop} (hstep : ∀ s a, Inv s → G a → Inv (step s a))
    {s : σ} {as : List α} (hs : Inv s) (h : ∀ a ∈ as, G a) : Throughout step Inv s as := by
  induction as generalizing s with
  | nil => simpa using hs
  | cons a as ih =>
    rw [throughout_cons]
    obtain ⟨ha, has⟩ := List.forall_mem_cons.mp h
    exact ⟨hs, ih (hstep s a hs ha) has⟩

/-- What some steps bring about and others undo: it was there before and has not been undone, or
some step has brought it about and none has undone it since. -/
theorem foldl_iff_along_since {R : σ → α → Prop} (hinv : ∀ s a, Inv s → Inv (step s a))
    (hstep : ∀ s a, Inv s → (Q (step s a) ↔ Q s ∧ ¬ R s a ∨ P s a)) {s : σ} (as : List α)
    (hs : Inv s) :
    Q (as.foldl step s) ↔ (Q s ∧ Along step (fun s a => ¬ R s a) s as) ∨
      ∃ before a after, as = before ++ a :: after ∧ P (before.foldl step s) a ∧
        Along step (fun s a => ¬ R s a) (step (before.foldl step s) a) after := by
  induction as generalizing s with
  | nil => simp
  | cons a as ih =>
    rw [List.foldl_cons, ih (hinv s a hs), hstep s a hs]
    constructor
    · rintro (⟨⟨hQ, hR⟩ | hP, has⟩ | ⟨before, a', after, rfl, hP, hafter⟩)
      · exact Or.inl ⟨hQ, hR, has⟩
      · exact Or.inr ⟨[], a, as, rfl, hP, has⟩
      · exact Or.inr ⟨a :: before, a', after, rfl, hP, hafter⟩
    · rintro (⟨hQ, hR, has⟩ | ⟨before, a', after, heq, hP, hafter⟩)
      · exact Or.inl ⟨Or.inl ⟨hQ, hR⟩, has⟩
      · cases before with
        | nil =>
          obtain ⟨rfl, rfl⟩ := List.cons.inj heq
          exact Or.inl ⟨Or.inr hP, hafter⟩
        | cons b before =>
          obtain ⟨rfl, rfl⟩ := List.cons.inj heq
          exact Or.inr ⟨before, a', after, rfl, hP, hafter⟩

/-- The same where the steps that undo it do so in every state. -/
theorem foldl_iff_since {R : α → Prop} (hinv : ∀ s a, Inv s → Inv (step s a))
    (hstep : ∀ s a, Inv s → (Q (step s a) ↔ Q s ∧ ¬ R a ∨ P s a)) {s : σ} (as : List α)
    (hs : Inv s) :
    Q (as.foldl step s) ↔ (Q s ∧ ∀ a ∈ as, ¬ R a) ∨
      ∃ before a after, as = before ++ a :: after ∧ P (before.foldl step s) a ∧
        ∀ a' ∈ after, ¬ R a' := by
  have hsince := foldl_iff_along_since (R := fun _ => R) hinv hstep as hs
  simpa only [along_forall] using hsince

/-- What a step can only add, it was there before or some step has added it. -/
theorem foldl_iff_exists (hinv : ∀ s a, Inv s → Inv (step s a))
    (hstep : ∀ s a, Inv s → (Q (step s a) ↔ Q s ∨ P s a)) {s : σ} (as : List α) (hs : Inv s) :
    Q (as.foldl step s) ↔
      Q s ∨ ∃ before a after, as = before ++ a :: after ∧ P (before.foldl step s) a := by
  have hsince := foldl_iff_since (R := fun _ => False) hinv
    (fun s a hs => by simpa using hstep s a hs) as hs
  simpa using hsince

/-- What an invariant gives of every step holds along every run. -/
theorem along_of_step (hstep : ∀ s a, Inv s → Inv (step s a)) (hP : ∀ s a, Inv s → P s a)
    {s : σ} (as : List α) (hs : Inv s) : Along step P s as := by
  induction as generalizing s with
  | nil => trivial
  | cons a as ih => exact ⟨hP s a hs, ih (hstep s a hs)⟩

/-- The same for the steps of a guarded run. -/
theorem along_of_along {G : σ → α → Prop} (hkeep : ∀ s a, Inv s → G s a → Inv (step s a))
    (hP : ∀ s a, Inv s → G s a → P s a) {s : σ} {as : List α} (hs : Inv s)
    (h : Along step G s as) : Along step P s as := by
  induction as generalizing s with
  | nil => trivial
  | cons a as ih => exact ⟨hP s a hs h.1, ih (hkeep s a hs h.1) h.2⟩

/-- Two guards that agree on the invariant states of guarded runs admit the same runs. -/
theorem along_congr {G P' : σ → α → Prop} (hkeep : ∀ s a, Inv s → G s a → Inv (step s a))
    (hiff : ∀ s a, Inv s → G s a → (P s a ↔ P' s a)) {s : σ} {as : List α} (hs : Inv s)
    (h : Along step G s as) : Along step P s as ↔ Along step P' s as := by
  induction as generalizing s with
  | nil => rfl
  | cons a as ih =>
    rw [along_cons, along_cons, hiff s a hs h.1, ih (hkeep s a hs h.1) h.2]

/-- The same for an invariant that every step keeps. -/
theorem along_congr_of_step {P' : σ → α → Prop} (hstep : ∀ s a, Inv s → Inv (step s a))
    (hiff : ∀ s a, Inv s → (P s a ↔ P' s a)) {s : σ} (as : List α) (hs : Inv s) :
    Along step P s as ↔ Along step P' s as :=
  along_congr (fun s a h _ => hstep s a h) (fun s a h _ => hiff s a h) hs
    (along_of_step hstep (fun _ _ _ => trivial) as hs)

/-- Steps of two machines that keep a relation keep it through every run. -/
theorem foldl_simulation {τ : Type*} {step' : τ → α → τ} {R : σ → τ → Prop}
    (hstep : ∀ s t a, R s t → R (step s a) (step' t a)) {s : σ} {t : τ} (as : List α)
    (h : R s t) : R (as.foldl step s) (as.foldl step' t) := by
  induction as generalizing s t with
  | nil => exact h
  | cons a as ih => exact ih (hstep s t a h)

/-- The same for guarded runs of the first machine. -/
theorem foldl_simulation_of_along {τ : Type*} {step' : τ → α → τ} {R : σ → τ → Prop}
    (hstep : ∀ s t a, R s t → P s a → R (step s a) (step' t a)) {s : σ} {t : τ} {as : List α}
    (h : R s t) (hP : Along step P s as) : R (as.foldl step s) (as.foldl step' t) := by
  induction as generalizing s t with
  | nil => exact h
  | cons a as ih => exact ih (hstep s t a h hP.1) hP.2

/-- Each step of a guarded run is some steps of another machine, or none. -/
theorem exists_foldl_simulation {τ β : Type*} {step' : τ → β → τ} {R : σ → τ → Prop}
    (hstep : ∀ s t a, R s t → P s a → ∃ bs : List β, R (step s a) (bs.foldl step' t)) {s : σ}
    {t : τ} {as : List α} (h : R s t) (hP : Along step P s as) :
    ∃ bs : List β, R (as.foldl step s) (bs.foldl step' t) := by
  induction as generalizing s t with
  | nil => exact ⟨[], h⟩
  | cons a as ih =>
    obtain ⟨bs, hbs⟩ := hstep s t a h hP.1
    obtain ⟨bs', hbs'⟩ := ih hbs hP.2
    exact ⟨bs ++ bs', by rwa [List.foldl_append]⟩

/-- Exactness: when guarded steps keep the invariant, the invariant gives the
property, and a step that misses the guard loses the property, the runs with the
property throughout are exactly the guarded ones. Only the actions with `G` count. -/
theorem throughout_iff_along_of_forall {G : α → Prop} (hQ : ∀ s, Inv s → Q s)
    (hkeep : ∀ s a, G a → Inv s → P s a → Inv (step s a))
    (hlose : ∀ s a, G a → Inv s → ¬ P s a → ¬ Q (step s a))
    {s : σ} {as : List α} (hG : ∀ a ∈ as, G a) (hs : Inv s) :
    Throughout step Q s as ↔ Along step P s as := by
  induction as generalizing s with
  | nil => exact iff_of_true (throughout_nil.mpr (hQ s hs)) trivial
  | cons a as ih =>
    obtain ⟨ha, has⟩ := List.forall_mem_cons.mp hG
    rw [throughout_cons, along_cons]
    by_cases hP : P s a
    · rw [ih has (hkeep s a ha hs hP)]
      exact and_congr (iff_of_true (hQ s hs) hP) Iff.rfl
    · refine iff_of_false (fun h => hlose s a ha hs hP ?_) fun h => hP h.1
      simpa using h.2 0

/-- The same when all actions count. -/
theorem throughout_iff_along (hQ : ∀ s, Inv s → Q s)
    (hkeep : ∀ s a, Inv s → P s a → Inv (step s a))
    (hlose : ∀ s a, Inv s → ¬ P s a → ¬ Q (step s a))
    {s : σ} {as : List α} (hs : Inv s) :
    Throughout step Q s as ↔ Along step P s as :=
  throughout_iff_along_of_forall (G := fun _ => True) hQ (fun s a _ => hkeep s a)
    (fun s a _ => hlose s a) (fun _ _ => trivial) hs

/-- The same from one equivalence for each step: beside the property the steps keep an
invariant that needs no guard. -/
theorem throughout_iff_along_of_step_iff (hstep : ∀ s a, Inv s → Q s → Inv (step s a))
    (hiff : ∀ s a, Inv s → Q s → (Q (step s a) ↔ P s a)) {s : σ} (as : List α) (hs : Inv s)
    (hq : Q s) : Throughout step Q s as ↔ Along step P s as := by
  have hkeep : ∀ s a, Inv s ∧ Q s → P s a → Inv (step s a) ∧ Q (step s a) :=
    fun s a h hP => ⟨hstep s a h.1 h.2, (hiff s a h.1 h.2).mpr hP⟩
  have hlose : ∀ s a, Inv s ∧ Q s → ¬ P s a → ¬ Q (step s a) :=
    fun s a h hP hQ => hP ((hiff s a h.1 h.2).mp hQ)
  exact throughout_iff_along (fun _ h => h.2) hkeep hlose ⟨hs, hq⟩

end XnetZt.Run
