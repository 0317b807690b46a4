import Mathlib.Data.Nat.ModEq
import Mathlib.Tactic

/-!
# One's-complement sums of 16-bit words

The Internet checksum adds big-endian 16-bit words and feeds the carries back into
the low 16 bits. `foldCarry` is that end-around-carry loop, `wordSum` the plain sum of
the words. Everything below rests on one closed form: folding a positive sum gives
its representative modulo `65535` in the range `1..65535`.
-/

namespace XnetZt.OnesComplement

/-- `while (sum >> 16) != 0 do sum := (sum & 0xFFFF) + (sum >> 16)`. -/
def foldCarry (sum : ℕ) : ℕ :=
  if sum / 65536 = 0 then sum else foldCarry (sum % 65536 + sum / 65536)
termination_by sum
decreasing_by omega

/-- The sum of the big-endian 16-bit words of a byte string; a last odd byte is
padded with zero on the right. -/
def wordSum : List (BitVec 8) → ℕ
  | [] => 0
  | [b] => 256 * b.toNat
  | a :: b :: rest => 256 * a.toNat + b.toNat + wordSum rest

/-- A byte string verifies when the folded sum of its words is all ones. -/
def Verifies (sum : ℕ) : Prop := foldCarry sum = 65535

theorem foldCarry_of_lt {n : ℕ} (h : n < 65536) : foldCarry n = n := by
  rw [foldCarry, if_pos (by omega)]

theorem foldCarry_eq (n : ℕ) (hn : 0 < n) : foldCarry n = (n - 1) % 65535 + 1 := by
  induction n using Nat.strong_induction_on with
  | _ n ih =>
    rw [foldCarry]
    split_ifs with h
    · omega
    · rw [ih (n % 65536 + n / 65536) (by omega) (by omega)]
      omega

theorem foldCarry_zero : foldCarry 0 = 0 := foldCarry_of_lt (by omega)

theorem foldCarry_le (n : ℕ) : foldCarry n ≤ 65535 := by
  rcases Nat.eq_zero_or_pos n with rfl | hn
  · simp [foldCarry_zero]
  · rw [foldCarry_eq n hn]
    omega

theorem foldCarry_modEq (n : ℕ) : foldCarry n ≡ n [MOD 65535] := by
  rcases Nat.eq_zero_or_pos n with rfl | hn
  · rw [foldCarry_zero]
  · rw [foldCarry_eq n hn]
    unfold Nat.ModEq
    omega

/-- A sum verifies exactly when it is a positive multiple of `65535`. -/
theorem verifies_iff (n : ℕ) : Verifies n ↔ 0 < n ∧ n ≡ 0 [MOD 65535] := by
  unfold Verifies Nat.ModEq
  rcases Nat.eq_zero_or_pos n with rfl | hn
  · simp [foldCarry_zero]
  · rw [foldCarry_eq n hn]
    omega

instance (n : ℕ) : Decidable (Verifies n) :=
  decidable_of_iff _ (verifies_iff n).symm

/-- Adding the complement of the folded sum makes any sum verify. -/
theorem verifies_add_complement (n : ℕ) : Verifies (n + (65535 - foldCarry n)) := by
  rw [verifies_iff]
  have hle := foldCarry_le n
  have hmod := foldCarry_modEq n
  constructor
  · rcases Nat.eq_zero_or_pos n with rfl | hn
    · simp [foldCarry_zero]
    · omega
  · have h : n + (65535 - foldCarry n) ≡ foldCarry n + (65535 - foldCarry n) [MOD 65535] :=
      hmod.symm.add_right _
    refine h.trans ?_
    rw [Nat.add_sub_cancel' hle]
    rfl

/-- Once one of two sums with a common part verifies, the other verifies exactly
when the parts that differ have the same residue. -/
theorem verifies_replace {c m n : ℕ} (hc : 0 < c) (h : Verifies (c + m)) :
    Verifies (c + n) ↔ m ≡ n [MOD 65535] := by
  rw [verifies_iff] at h ⊢
  constructor
  · rintro ⟨-, hn⟩
    exact Nat.ModEq.add_left_cancel' c (h.2.trans hn.symm)
  · intro hmn
    exact ⟨by omega, ((hmn.add_left c).symm).trans h.2⟩

@[simp] theorem wordSum_nil : wordSum [] = 0 := rfl

@[simp] theorem wordSum_cons_cons (a b : BitVec 8) (l : List (BitVec 8)) :
    wordSum (a :: b :: l) = 256 * a.toNat + b.toNat + wordSum l := rfl

/-- Words do not straddle a split at an even offset. -/
theorem wordSum_append {l : List (BitVec 8)} (r : List (BitVec 8)) (h : Even l.length) :
    wordSum (l ++ r) = wordSum l + wordSum r := by
  induction l using wordSum.induct with
  | case1 => simp
  | case2 b => simp at h
  | case3 a b rest ih =>
    have hrest : Even rest.length := by
      simpa [Nat.even_add_one] using h
    simp only [List.cons_append, wordSum_cons_cons, ih hrest]
    omega

/-- What a byte counts in the sum: the first one of a word is its high byte. -/
def byteWeight (i : ℕ) : ℕ := if i % 2 = 0 then 256 else 1

@[simp] theorem byteWeight_add_two (i : ℕ) : byteWeight (i + 2) = byteWeight i := by
  simp [byteWeight]

/-- Replacing one byte. -/
theorem wordSum_set {l : List (BitVec 8)} {i : ℕ} (h : i < l.length) (b : BitVec 8) :
    wordSum (l.set i b) + byteWeight i * (l.getD i 0).toNat =
      wordSum l + byteWeight i * b.toNat := by
  induction l using wordSum.induct generalizing i with
  | case1 => simp at h
  | case2 a =>
    obtain rfl : i = 0 := by simpa using h
    simp [wordSum, byteWeight]
    omega
  | case3 a c rest ih =>
    match i with
    | 0 =>
      simp [byteWeight]
      omega
    | 1 =>
      simp [byteWeight]
      omega
    | i + 2 =>
      have hrest := ih (show i < rest.length by simpa using h)
      simp only [List.set_cons_succ, wordSum_cons_cons, List.getD_cons_succ, byteWeight_add_two]
      omega

/-- A sum may be folded on the way. -/
theorem foldCarry_add (m n : ℕ) : foldCarry (foldCarry m + n) = foldCarry (m + n) := by
  rcases Nat.eq_zero_or_pos m with rfl | hm
  · rw [foldCarry_zero]
  · have hfold := foldCarry_eq m hm
    rw [foldCarry_eq (m + n) (by omega), foldCarry_eq _ (by omega)]
    omega

end XnetZt.OnesComplement
