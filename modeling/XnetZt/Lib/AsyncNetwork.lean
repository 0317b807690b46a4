import XnetZt.Lib.Run

/-!
# Asynchronous networks

Nodes that act on their own and exchange messages. A message stays in the outbox of its
sender: the network may deliver it to any other node that accepts it at any time, again and
again, in any order, or never. So loss, duplication and reordering need no steps of their own.
An invariant of single nodes that also bounds what they send holds in every state of every such
network. What the network can be brought to is a game against everything that may happen in
between.
-/

namespace XnetZt

/-- What a node does on an event of its own, and on a message it accepts. -/
structure Protocol (ι ε δ σ μ : Type*) where
  act : ι → ε → σ → σ
  receive : ι → δ → μ → σ → σ
  /-- Every message a node has sent. -/
  outbox : σ → List μ
  accepts : ι → μ → Bool

namespace Protocol

variable {ι ε δ σ μ : Type*}

inductive Event (ι ε δ : Type*)
  | act (i : ι) (e : ε)
  /-- The message with the number `k` in the outbox of `j` arrives at `i`. -/
  | deliver (i j : ι) (k : ℕ) (d : δ)

variable [DecidableEq ι] (P : Protocol ι ε δ σ μ)

def step (w : ι → σ) : Event ι ε δ → ι → σ
  | .act i e => Function.update w i (P.act i e (w i))
  | .deliver i j k d =>
    match (P.outbox (w j))[k]? with
    | none => w
    | some m =>
      if i ≠ j ∧ P.accepts i m then Function.update w i (P.receive i d m (w i)) else w

/-- Every event of a node itself is a good one. -/
def Good (good : ι → ε → Prop) : Event ι ε δ → Prop
  | .act i e => good i e
  | .deliver _ _ _ _ => True

section Steps

variable {P} {w : ι → σ} {i j : ι} {k : ℕ} {d : δ} {m : μ}

theorem step_act (e : ε) : P.step w (.act i e) = Function.update w i (P.act i e (w i)) := rfl

theorem step_deliver (hm : (P.outbox (w j))[k]? = some m) (hne : i ≠ j)
    (haccepts : P.accepts i m = true) :
    P.step w (.deliver i j k d) = Function.update w i (P.receive i d m (w i)) := by
  rw [step, hm]
  exact if_pos ⟨hne, haccepts⟩

/-- A delivery does nothing, or a message of the sender arrives at another node. -/
theorem step_deliver_cases (w : ι → σ) (i j : ι) (k : ℕ) (d : δ) :
    P.step w (.deliver i j k d) = w ∨
      i ≠ j ∧ ∃ m ∈ P.outbox (w j), P.accepts i m = true ∧
        P.step w (.deliver i j k d) = Function.update w i (P.receive i d m (w i)) := by
  cases hm : (P.outbox (w j))[k]? with
  | none => exact Or.inl (by rw [step, hm])
  | some m =>
    by_cases h : i ≠ j ∧ P.accepts i m = true
    · exact Or.inr ⟨h.1, m, List.mem_of_getElem? hm, h.2, step_deliver hm h.1 h.2⟩
    · exact Or.inl (by rw [step, hm]; exact if_neg h)

end Steps

/-- Each node keeps its invariant and sends only sound messages, if it acts on good events and
receives sound messages of others. -/
theorem throughout_of_node {Inv : ι → σ → Prop} {Sound : ι → μ → Prop} {good : ι → ε → Prop}
    (hsent : ∀ i s, Inv i s → ∀ m ∈ P.outbox s, Sound i m)
    (hact : ∀ i e s, good i e → Inv i s → Inv i (P.act i e s))
    (hreceive : ∀ i j d m s, j ≠ i → P.accepts i m = true → Sound j m → Inv i s →
      Inv i (P.receive i d m s))
    {w : ι → σ} (hw : ∀ i, Inv i (w i)) {events : List (Event ι ε δ)}
    (hgood : ∀ e ∈ events, Good good e) :
    Run.Throughout P.step (fun w => ∀ i, Inv i (w i)) w events := by
  have hupdate : ∀ (w : ι → σ) i s, (∀ i, Inv i (w i)) → Inv i s →
      ∀ i', Inv i' (Function.update w i s i') := by
    intro w i s hw hs i'
    by_cases h : i' = i
    · subst h
      rw [Function.update_self]
      exact hs
    · rw [Function.update_of_ne h]
      exact hw i'
  have hstep : ∀ w (e : Event ι ε δ), (∀ i, Inv i (w i)) → Good good e →
      ∀ i, Inv i (P.step w e i) := by
    intro w e hw he
    cases e with
    | act i e => exact hupdate w i _ hw (hact i e _ he (hw i))
    | deliver i j k d =>
      rcases step_deliver_cases (P := P) w i j k d with h | ⟨hne, m, hm, haccepts, h⟩ <;> rw [h]
      · exact hw
      · exact hupdate w i _ hw
          (hreceive i j d m _ hne.symm haccepts (hsent j _ (hw j) m hm) (hw i))
  exact Run.throughout_of_forall hstep hw hgood

/-- Moves of these kinds, in this order, lead to `Q`, whatever happens between them. A move is
chosen before it is known what happens first, and the last ones may not be needed. -/
inductive Attains {κ : Type*} (between : Event ι ε δ → Prop) (move : κ → Event ι ε δ → Prop)
    (Q : (ι → σ) → Prop) : List κ → (ι → σ) → Prop
  | done {kinds : List κ} {w : ι → σ} (h : Q w) : Attains between move Q kinds w
  | move {kind : κ} {kinds : List κ} {w : ι → σ} (e : Event ι ε δ) (he : move kind e)
      (h : ∀ es : List (Event ι ε δ), (∀ x ∈ es, between x) →
        Attains between move Q kinds (P.step (es.foldl P.step w) e)) :
      Attains between move Q (kind :: kinds) w

end Protocol

end XnetZt
