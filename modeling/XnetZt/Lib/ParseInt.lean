import XnetZt.Lib.Text

/-!
# `Integer.parseInt`

An optional sign and at least one digit, in the range of an `int`. The digits are those of
`Character.digit`, which knows more than the ASCII ones; which ones is a parameter.
-/

namespace XnetZt

/-- `Character.digit(c, 10)` -/
structure DigitTable where
  digit : Char → Option ℕ
  ascii : ∀ c : Char, c.toNat < 128 →
    digit c = if c.isDigit then some (c.toNat - '0'.toNat) else none

namespace DigitTable

def asciiOnly : DigitTable where
  digit c := if c.isDigit then some (c.toNat - '0'.toNat) else none
  ascii _ _ := rfl

variable (d : DigitTable)

/-- The number that the digits stand for. -/
def magnitude (text : Text) : Option ℕ :=
  if text = [] then none
  else text.foldlM (fun n c => (d.digit c).map (10 * n + ·)) 0

/-- `none` is a `NumberFormatException`. -/
def parseInt (text : Text) : Option Int32 :=
  match text with
  | '-' :: digits => (d.magnitude digits).bind fun n =>
    if n ≤ 2 ^ 31 then some (Int32.ofInt (-n)) else none
  | '+' :: digits => (d.magnitude digits).bind fun n =>
    if n < 2 ^ 31 then some (Int32.ofNat n) else none
  | digits => (d.magnitude digits).bind fun n =>
    if n < 2 ^ 31 then some (Int32.ofNat n) else none

theorem toNat_lt_of_isDigit {c : Char} (h : c.isDigit = true) : c.toNat < 128 := by
  rw [Char.isDigit, Bool.and_eq_true, decide_eq_true_eq, decide_eq_true_eq] at h
  exact lt_of_le_of_lt h.2 (by decide)

theorem digit_of_isDigit {c : Char} (h : c.isDigit = true) :
    d.digit c = some (c.toNat - '0'.toNat) := by
  rw [d.ascii c (toNat_lt_of_isDigit h), if_pos h]

variable {text : Text}

theorem magnitude_digits (hne : text ≠ []) (h : ∀ c ∈ text, c.isDigit = true) :
    d.magnitude text = some (Nat.ofDigitChars 10 text 0) := by
  have hfold : ∀ (l : Text) (n : ℕ), (∀ c ∈ l, c.isDigit = true) →
      l.foldlM (fun n c => (d.digit c).map (10 * n + ·)) n = some (Nat.ofDigitChars 10 l n) := by
    intro l
    induction l with
    | nil => exact fun n _ => rfl
    | cons c l ih =>
      intro n hl
      rw [List.foldlM_cons, d.digit_of_isDigit (hl c List.mem_cons_self)]
      exact ih _ fun c' hc' => hl c' (List.mem_cons_of_mem c hc')
  rw [magnitude, if_neg hne, hfold text 0 h]

/-- A character that is no digit. -/
theorem magnitude_eq_none {c : Char} (hc : c ∈ text) (h : d.digit c = none) :
    d.magnitude text = none := by
  have hfold : ∀ (l : Text) (n : ℕ), c ∈ l →
      l.foldlM (fun n c => (d.digit c).map (10 * n + ·)) n = none := by
    intro l
    induction l with
    | nil => exact fun n hmem => absurd hmem List.not_mem_nil
    | cons a l ih =>
      intro n hmem
      rw [List.foldlM_cons]
      rcases List.mem_cons.mp hmem with rfl | hl
      · rw [h]
        rfl
      · cases d.digit a with
        | none => rfl
        | some k => exact ih _ hl
  rw [magnitude, if_neg (List.ne_nil_of_mem hc), hfold text 0 hc]

/-- A text without a sign. -/
theorem parseInt_of_head {c : Char} {rest : Text} (h : c.isDigit = true) :
    d.parseInt (c :: rest) = (d.magnitude (c :: rest)).bind fun n =>
      if n < 2 ^ 31 then some (Int32.ofNat n) else none := by
  have hminus : c ≠ '-' := by
    rintro rfl
    cases h
  have hplus : c ≠ '+' := by
    rintro rfl
    cases h
  rw [parseInt]
  · exact fun _ heq => hminus (List.cons.inj heq).1
  · exact fun _ heq => hplus (List.cons.inj heq).1

theorem parseInt_digits (hne : text ≠ []) (h : ∀ c ∈ text, c.isDigit = true)
    (hlt : Nat.ofDigitChars 10 text 0 < 2 ^ 31) :
    d.parseInt text = some (Int32.ofNat (Nat.ofDigitChars 10 text 0)) := by
  cases text with
  | nil => exact absurd rfl hne
  | cons c rest =>
    rw [d.parseInt_of_head (h c List.mem_cons_self), d.magnitude_digits hne h, Option.bind_some,
      if_pos hlt]

end DigitTable

end XnetZt
