import Mathlib.Data.List.GetD
import Mathlib.Tactic

/-!
# Big-endian byte strings

`toNat` reads a byte string as a big-endian number and `ofNat n` writes a number as
`n` bytes. The two are inverse up to the modulus, and bitwise conjunction can be taken
byte by byte. Programs that shift and mask machine words do the same: `pack` shifts the
bytes of a string into a word, and a mask takes one byte out of it.
-/

namespace XnetZt.BigEndian

/-- The number a byte string denotes, most significant byte first. -/
def toNat : List (BitVec 8) → ℕ
  | [] => 0
  | b :: l => b.toNat * 256 ^ l.length + toNat l

/-- The `n` low-order bytes of a number, most significant byte first. -/
def ofNat : ℕ → ℕ → List (BitVec 8)
  | 0, _ => []
  | n + 1, x => BitVec.ofNat 8 (x / 256 ^ n) :: ofNat n x

/-- The 16-bit number at an offset of a byte string. -/
def word16 (l : List (BitVec 8)) (i : ℕ) : ℕ := 256 * (l.getD i 0).toNat + (l.getD (i + 1) 0).toNat

@[simp] theorem length_ofNat (n x : ℕ) : (ofNat n x).length = n := by
  induction n with
  | zero => rfl
  | succ n ih => simp [ofNat, ih]

theorem toNat_lt (l : List (BitVec 8)) : toNat l < 256 ^ l.length := by
  induction l with
  | nil => simp [toNat]
  | cons b l ih =>
    have hb := b.isLt
    simp only [toNat, List.length_cons, pow_succ]
    nlinarith

theorem toNat_append (l r : List (BitVec 8)) :
    toNat (l ++ r) = toNat l * 256 ^ r.length + toNat r := by
  induction l with
  | nil => simp [toNat]
  | cons b l ih =>
    simp only [List.cons_append, toNat, ih, List.length_append, pow_add]
    ring

theorem toNat_ofNat (n x : ℕ) : toNat (ofNat n x) = x % 256 ^ n := by
  induction n with
  | zero => simp [ofNat, toNat, Nat.mod_one]
  | succ n ih =>
    simp only [ofNat, toNat, length_ofNat, ih, BitVec.toNat_ofNat]
    rw [show (2 : ℕ) ^ 8 = 256 from rfl, pow_succ, Nat.mod_mul, Nat.mul_comm, Nat.add_comm]

theorem ofNat_mod (n x m : ℕ) (h : n ≤ m) : ofNat n (x % 256 ^ m) = ofNat n x := by
  induction n with
  | zero => rfl
  | succ n ih =>
    simp only [ofNat]
    rw [ih (by omega)]
    congr 1
    apply BitVec.eq_of_toNat_eq
    obtain ⟨k, rfl⟩ : ∃ k, m = n + (k + 1) := ⟨m - n - 1, by omega⟩
    simp only [BitVec.toNat_ofNat]
    rw [pow_add, Nat.mod_mul_right_div_self, pow_succ', show 2 ^ 8 = 256 from rfl,
      Nat.mod_mul_right_mod]

theorem ofNat_toNat (l : List (BitVec 8)) : ofNat l.length (toNat l) = l := by
  induction l with
  | nil => rfl
  | cons b l ih =>
    have hl := toNat_lt l
    simp only [List.length_cons, ofNat, toNat]
    congr 1
    · apply BitVec.eq_of_toNat_eq
      rw [BitVec.toNat_ofNat, Nat.add_comm, Nat.add_mul_div_right _ _ (by positivity),
        Nat.div_eq_of_lt hl, Nat.zero_add]
      exact Nat.mod_eq_of_lt b.isLt
    · rw [← ofNat_mod _ _ l.length le_rfl, Nat.add_comm, Nat.add_mul_mod_self_right,
        ofNat_mod _ _ l.length le_rfl, ih]

theorem word16_lt (l : List (BitVec 8)) (i : ℕ) : word16 l i < 65536 := by
  have hhi := (l.getD i 0).isLt
  have hlo := (l.getD (i + 1) 0).isLt
  unfold word16
  omega

theorem toNat_pair (l : List (BitVec 8)) (i : ℕ) :
    toNat [l.getD i 0, l.getD (i + 1) 0] = word16 l i := by
  simp [word16, toNat, Nat.mul_comm]

theorem ofNat_word16 {l : List (BitVec 8)} {i : ℕ} (h : i + 2 ≤ l.length) :
    ofNat 2 (word16 l i) = (l.drop i).take 2 := by
  have hparts : (l.drop i).take 2 = [l.getD i 0, l.getD (i + 1) 0] := by
    rw [List.drop_eq_getElem_cons (by omega), List.drop_eq_getElem_cons (by omega),
      List.getD_eq_getElem _ _ (by omega), List.getD_eq_getElem _ _ (by omega)]
    rfl
  rw [← toNat_pair, hparts]
  exact ofNat_toNat [l.getD i 0, l.getD (i + 1) 0]

theorem pow_eq_two_pow (n : ℕ) : 256 ^ n = 2 ^ (8 * n) := by
  rw [pow_mul]
  rfl

/-- Bytewise conjunction is conjunction of the numbers. -/
theorem zipWith_and_ofNat (n x y : ℕ) :
    List.zipWith (· &&& ·) (ofNat n x) (ofNat n y) = ofNat n (x &&& y) := by
  induction n with
  | zero => rfl
  | succ n ih =>
    simp only [ofNat, List.zipWith_cons_cons, ih]
    congr 1
    rw [pow_eq_two_pow, ← Nat.shiftRight_eq_div_pow, ← Nat.shiftRight_eq_div_pow,
      ← Nat.shiftRight_eq_div_pow, Nat.shiftRight_and_distrib, BitVec.ofNat_and]

theorem getMsbD_ofNat (w x i : ℕ) :
    (BitVec.ofNat w x).getMsbD i = (decide (i < w) && x.testBit (w - 1 - i)) := by
  rw [BitVec.getMsbD, BitVec.getLsbD_ofNat]
  by_cases hi : i < w
  · have hlow : w - 1 - i < w := by omega
    simp [hi, hlow]
  · simp [hi]

/-- Bit `i` of a byte string, counted from the most significant one, is bit `i % 8` of
byte `i / 8`. -/
theorem getMsbD_toNat {w : ℕ} {l : List (BitVec 8)} (hw : w = 8 * l.length) (i : ℕ) :
    (BitVec.ofNat w (toNat l)).getMsbD i = (l.getD (i / 8) 0).getMsbD (i % 8) := by
  subst hw
  induction l generalizing i with
  | nil => simp
  | cons b l ih =>
    have hl : toNat l < 2 ^ (8 * l.length) := pow_eq_two_pow l.length ▸ toNat_lt l
    have hval : toNat (b :: l) = 2 ^ (8 * l.length) * b.toNat + toNat l := by
      rw [toNat, pow_eq_two_pow, Nat.mul_comm]
    rw [getMsbD_ofNat, hval, Nat.testBit_two_pow_mul_add _ hl, List.length_cons]
    rcases Nat.lt_or_ge i 8 with hi | hi
    · -- the first byte
      have hlow : ¬ 8 * (l.length + 1) - 1 - i < 8 * l.length := by omega
      have hbit : 8 * (l.length + 1) - 1 - i - 8 * l.length = 7 - i := by omega
      have hin : i < 8 * (l.length + 1) := by omega
      rw [if_neg hlow, hbit, Nat.div_eq_of_lt hi, Nat.mod_eq_of_lt hi, List.getD_cons_zero,
        BitVec.getMsbD, BitVec.getLsbD]
      simp [hin, hi]
    · -- a later byte holds the same bit of the tail
      obtain ⟨j, rfl⟩ : ∃ j, i = j + 8 := ⟨i - 8, by omega⟩
      rw [Nat.add_div_right _ (by omega), Nat.add_mod_right, List.getD_cons_succ, ← ih j,
        getMsbD_ofNat]
      by_cases hj : j < 8 * l.length
      · have hlow : 8 * (l.length + 1) - 1 - (j + 8) < 8 * l.length := by omega
        have hbit : 8 * (l.length + 1) - 1 - (j + 8) = 8 * l.length - 1 - j := by omega
        have hin : j + 8 < 8 * (l.length + 1) := by omega
        rw [if_pos hlow, hbit]
        simp [hin, hj]
      · have hout : ¬ j + 8 < 8 * (l.length + 1) := by omega
        simp [hout, hj]

/-! ### Machine words -/

/-- The bytes of a string, shifted to their places in a word. -/
def pack (w : ℕ) : List (BitVec 8) → BitVec w
  | [] => 0
  | b :: l => b.setWidth w <<< (8 * l.length) ||| pack w l

/-- A byte above the `k` bytes that a word has so far. -/
theorem toNat_shiftLeft_or {w k : ℕ} (b : BitVec 8) {x : BitVec w} (hx : x.toNat < 256 ^ k)
    (hw : 8 * (k + 1) ≤ w) :
    (b.setWidth w <<< (8 * k) ||| x).toNat = b.toNat * 256 ^ k + x.toNat := by
  have hfits : b.toNat * 2 ^ (8 * k) < 2 ^ w := by
    calc b.toNat * 2 ^ (8 * k) < 2 ^ 8 * 2 ^ (8 * k) :=
          Nat.mul_lt_mul_of_pos_right b.isLt (by positivity)
      _ = 2 ^ (8 * (k + 1)) := by rw [← pow_add, Nat.mul_succ, Nat.add_comm]
      _ ≤ 2 ^ w := Nat.pow_le_pow_right (by omega) hw
  have hb : b.toNat < 2 ^ w := lt_of_le_of_lt (Nat.le_mul_of_pos_right _ (by positivity)) hfits
  rw [pow_eq_two_pow] at hx ⊢
  rw [BitVec.toNat_or, BitVec.toNat_shiftLeft, BitVec.toNat_setWidth, Nat.mod_eq_of_lt hb,
    Nat.shiftLeft_eq, Nat.mod_eq_of_lt hfits, ← Nat.shiftLeft_eq,
    ← Nat.shiftLeft_add_eq_or_of_lt hx]

theorem toNat_pack {w : ℕ} {l : List (BitVec 8)} (hw : 8 * l.length ≤ w) :
    (pack w l).toNat = toNat l := by
  induction l with
  | nil => rfl
  | cons b l ih =>
    rw [List.length_cons] at hw
    have hrest := ih (by omega)
    have hlt : (pack w l).toNat < 256 ^ l.length := hrest ▸ toNat_lt l
    rw [pack, toNat_shiftLeft_or b hlt hw, hrest, toNat]

theorem setWidth_shiftRight_and {w : ℕ} (hw : 8 ≤ w) (x : BitVec w) (k : ℕ) :
    ((x >>> (8 * k)) &&& 255#w).setWidth 8 = BitVec.ofNat 8 (x.toNat / 256 ^ k) := by
  have hmask : 255 < 2 ^ w := lt_of_lt_of_le (by norm_num) (Nat.pow_le_pow_right (by omega) hw)
  apply BitVec.eq_of_toNat_eq
  rw [BitVec.toNat_setWidth, BitVec.toNat_and, BitVec.toNat_ofNat, Nat.mod_eq_of_lt hmask,
    BitVec.toNat_ushiftRight, Nat.shiftRight_eq_div_pow, ← pow_eq_two_pow,
    show 255 = 2 ^ 8 - 1 from rfl, Nat.and_two_pow_sub_one_eq_mod, BitVec.toNat_ofNat,
    Nat.mod_mod]

end XnetZt.BigEndian
