import XnetZt.Net.IPPacket

/-!
# The checksum loop in machine words

`calculateChecksum` shifts signed bytes, adds an `int` to a `long` and looks for a carry
with a mask that is extended by its sign. As long as the sum is below `2 ^ 16` before an
addition there is at most one carry, and adding it back keeps the sum below `2 ^ 16`. So the
loop computes the one's-complement sum, as the model over natural numbers does.
-/

namespace XnetZt.IPPacketUtils.Words

open OnesComplement

/-- `(65280 & (hi << 8)) | (lo & 255)`; the bytes are promoted to `int`. -/
def word (hi lo : Byte) : BitVec 32 :=
  (65280#32 &&& (hi.signExtend 32 <<< 8)) ||| (lo.signExtend 32 &&& 255#32)

/-- `(b << 8) & 65280` -/
def highByte (b : Byte) : BitVec 32 := (b.signExtend 32 <<< 8) &&& 65280#32

/-- `-65536`, with all bits of a `long` but the low sixteen. -/
def carryMask : BitVec 64 := -65536#64

/-- `j += w`, and the test for a carry. -/
def add (j : BitVec 64) (w : BitVec 32) : BitVec 64 :=
  let j := j + w.signExtend 64
  if BitVec.slt 0#64 (carryMask &&& j) then (j &&& 65535#64) + 1#64 else j

/-- The values of `j` from the start of the loop on, one for each word. -/
def accumulators (bArr : Bytes) :
    (i3 i : ℕ) → BitVec 64 → Except JavaException (List (BitVec 64))
  | 0, _, j => return [j]
  | 1, i, j => do
    let b ← bArr.read i
    return [j, add j (highByte b)]
  | i3 + 2, i, j => do
    let hi ← bArr.read i
    let lo ← bArr.read (i + 1)
    return j :: (← accumulators bArr i3 (i + 2) (add j (word hi lo)))

def calculateChecksum (bArr : Bytes) (j : BitVec 64) (i i2 : ℕ) :
    Except JavaException (BitVec 64) := do
  let js ← accumulators bArr (i2 - i) i j
  return ~~~(js.getLastD j) &&& 65535#64

/-! ### One addition -/

theorem highByte_eq : ∀ b : Byte, highByte b = BigEndian.pack 32 [b, 0] := by
  decide +kernel

theorem lowByte_eq : ∀ b : Byte, b.signExtend 32 &&& 255#32 = b.setWidth 32 := by
  decide +kernel

theorem toNat_highByte (b : Byte) : (highByte b).toNat = 256 * b.toNat := by
  rw [highByte_eq, BigEndian.toNat_pack (by simp)]
  simp [BigEndian.toNat, Nat.mul_comm]

theorem toNat_word (hi lo : Byte) : (word hi lo).toNat = 256 * hi.toNat + lo.toNat := by
  have hpack : word hi lo = BigEndian.pack 32 [hi, lo] := by
    rw [word, BitVec.and_comm 65280#32, lowByte_eq]
    change highByte hi ||| lo.setWidth 32 = _
    rw [highByte_eq]
    simp [BigEndian.pack]
  rw [hpack, BigEndian.toNat_pack (by simp)]
  simp [BigEndian.toNat, Nat.mul_comm]

theorem carryMask_and (j : BitVec 64) : carryMask &&& j = (j >>> 16) <<< 16 := by
  have hmask : ∀ k < 64, carryMask.getLsbD k = decide (16 ≤ k) := by decide
  apply BitVec.eq_of_getLsbD_eq
  intro k hk
  rw [BitVec.getLsbD_and, hmask k hk, BitVec.getLsbD_shiftLeft, BitVec.getLsbD_ushiftRight]
  by_cases hhigh : 16 ≤ k
  · have hindex : 16 + (k - 16) = k := by omega
    simp [hhigh, hk, hindex]
  · simp [hhigh]

theorem toNat_and_65535 (j : BitVec 64) : (j &&& 65535#64).toNat = j.toNat % 65536 := by
  rw [BitVec.toNat_and]
  exact Nat.and_two_pow_sub_one_eq_mod j.toNat 16

/-- The mask finds the bits above the sixteenth, unless the sum is negative. -/
theorem slt_mask {j : BitVec 64} (h : j.toNat < 2 ^ 32) :
    BitVec.slt 0#64 (carryMask &&& j) = decide (65536 ≤ j.toNat) := by
  have hnat : (carryMask &&& j).toNat = j.toNat / 65536 * 65536 := by
    rw [carryMask_and, BitVec.toNat_shiftLeft, BitVec.toNat_ushiftRight, Nat.shiftRight_eq_div_pow,
      Nat.shiftLeft_eq]
    omega
  have hint : (carryMask &&& j).toInt = (j.toNat / 65536 * 65536 : ℕ) := by
    rw [BitVec.toInt_eq_toNat_of_lt (by omega), hnat]
  rw [BitVec.slt, hint, BitVec.toInt_zero]
  exact decide_eq_decide.mpr (by omega)

/-- One addition is that of the model over natural numbers. -/
theorem toNat_add {j : BitVec 64} {w : BitVec 32} (hj : j.toNat ≤ 65535) (hw : w.toNat ≤ 65535) :
    (add j w).toNat = addWord j.toNat w.toNat := by
  have hextend : (w.signExtend 64).toNat = w.toNat := by
    have hmsb : w.msb = false := BitVec.msb_eq_false_iff_two_mul_lt.mpr (by omega)
    rw [BitVec.signExtend_eq_setWidth_of_msb_false hmsb, BitVec.toNat_setWidth,
      Nat.mod_eq_of_lt (by omega)]
  have hsum : (j + w.signExtend 64).toNat = j.toNat + w.toNat := by
    rw [BitVec.toNat_add, hextend, Nat.mod_eq_of_lt (by omega)]
  unfold add addWord
  dsimp only
  rw [slt_mask (by omega), hsum]
  by_cases hcarry : 65536 ≤ j.toNat + w.toNat
  · rw [if_pos (decide_eq_true hcarry), if_pos hcarry, BitVec.toNat_add, toNat_and_65535, hsum]
    simp
    omega
  · rw [if_neg (by simpa using hcarry), if_neg hcarry, hsum]

theorem toNat_add_le {j : BitVec 64} {w : BitVec 32} (hj : j.toNat ≤ 65535)
    (hw : w.toNat ≤ 65535) : (add j w).toNat ≤ 65535 := by
  rw [toNat_add hj hw, addWord_eq hj hw]
  exact foldCarry_le _

/-! ### The loop -/

/-- All values of `j` have sixteen bits, and the last one is the sum over natural numbers. -/
theorem exists_accumulators {bArr : Bytes} (i3 i : ℕ) {j : BitVec 64}
    (h : i + i3 ≤ bArr.length) (hj : j.toNat ≤ 65535) :
    ∃ js, accumulators bArr i3 i j = .ok js ∧ js ≠ [] ∧ (∀ x ∈ js, x.toNat ≤ 65535) ∧
      sumBytes bArr i3 i j.toNat = .ok (js.getLastD j).toNat := by
  induction i3 using Nat.twoStepInduction generalizing i j with
  | zero => exact ⟨[j], rfl, by simp, by simpa using hj, rfl⟩
  | one =>
    have hb := (bArr.getD i 0).isLt
    have hword := toNat_highByte (bArr.getD i 0)
    have hle : (highByte (bArr.getD i 0)).toNat ≤ 65535 := by omega
    have hread := Bytes.read_eq_ok (show i < bArr.length by omega)
    refine ⟨[j, add j (highByte (bArr.getD i 0))], ?_, by simp, ?_, ?_⟩
    · rw [accumulators, hread]
      rfl
    · simpa using ⟨hj, toNat_add_le hj hle⟩
    · rw [sumBytes, hread, ok_bind, ← hword, ← toNat_add hj hle]
      rfl
  | more i3 ih _ =>
    have hhi := (bArr.getD i 0).isLt
    have hlo := (bArr.getD (i + 1) 0).isLt
    have hword := toNat_word (bArr.getD i 0) (bArr.getD (i + 1) 0)
    have hle : (word (bArr.getD i 0) (bArr.getD (i + 1) 0)).toNat ≤ 65535 := by omega
    have hread := Bytes.read_eq_ok (show i < bArr.length by omega)
    have hread' := Bytes.read_eq_ok (show i + 1 < bArr.length by omega)
    obtain ⟨js, hjs, hne, hall, hlast⟩ := ih (i + 2) (by omega) (toNat_add_le hj hle)
    refine ⟨j :: js, ?_, by simp, ?_, ?_⟩
    · rw [accumulators, hread, ok_bind, hread', ok_bind, hjs]
      rfl
    · simpa using ⟨hj, hall⟩
    · obtain ⟨x, js, rfl⟩ := List.exists_cons_of_ne_nil hne
      rw [sumBytes, hread, ok_bind, hread', ok_bind, ← hword, ← toNat_add hj hle, hlast]
      rfl

theorem toNat_complement {j : BitVec 64} (hj : j.toNat ≤ 65535) :
    (~~~j &&& 65535#64).toNat = 65535 - j.toNat := by
  rw [toNat_and_65535, BitVec.toNat_not]
  omega

/-- The loop in machine words is the one over natural numbers. -/
theorem calculateChecksum_refines {bArr : Bytes} {j : BitVec 64} {i i2 : ℕ}
    (hj : j.toNat ≤ 65535) (hi : i ≤ i2) (hi2 : i2 ≤ bArr.length) :
    ∃ c, calculateChecksum bArr j i i2 = .ok c ∧
      IPPacketUtils.calculateChecksum bArr j.toNat i i2 = .ok c.toNat := by
  obtain ⟨js, hjs, hne, hall, hlast⟩ :=
    exists_accumulators (i2 - i) i (show i + (i2 - i) ≤ bArr.length by omega) hj
  have hmem : js.getLastD j ∈ js := by
    rw [List.getLastD_eq_getLast?, List.getLast?_eq_getLast_of_ne_nil hne]
    exact List.getLast_mem hne
  have hle := hall _ hmem
  refine ⟨~~~(js.getLastD j) &&& 65535#64, ?_, ?_⟩
  · rw [calculateChecksum, hjs]
    rfl
  · rw [IPPacketUtils.calculateChecksum, hlast, ok_bind, toNat_complement hle,
      Nat.mod_eq_of_lt (by omega)]
    rfl

theorem calculateChecksum_eq {bArr : Bytes} {j : BitVec 64} {i i2 : ℕ}
    (hj : j.toNat ≤ 65535) (hi : i ≤ i2) (hi2 : i2 ≤ bArr.length) :
    calculateChecksum bArr j i i2 = .ok (BitVec.ofNat 64
      (65535 - foldCarry (j.toNat + wordSum (bArr.slice i (i2 - i))))) := by
  obtain ⟨c, hc, hnat⟩ := calculateChecksum_refines hj hi hi2
  rw [calculateChecksum_range hj hi hi2] at hnat
  rw [hc, Except.ok.inj hnat, BitVec.ofNat_toNat, BitVec.setWidth_eq]

/-- The checksum is the complement of the one's-complement sum, no value on the way has more
than sixteen bits, and a range may be summed up in two parts, of which the first is even. -/
theorem calculateChecksum_rfc1071 {bArr : Bytes} {j : BitVec 64} {i i2 : ℕ}
    (hj : j.toNat ≤ 65535) (hi : i ≤ i2) (hi2 : i2 ≤ bArr.length) :
    calculateChecksum bArr j i i2 = .ok (BitVec.ofNat 64
      (65535 - foldCarry (j.toNat + wordSum (bArr.slice i (i2 - i))))) ∧
    (∃ js, accumulators bArr (i2 - i) i j = .ok js ∧ ∀ x ∈ js, x.toNat ≤ 65535) ∧
    ∀ k, Even k → i + k ≤ i2 → ∃ c, calculateChecksum bArr j i (i + k) = .ok c ∧
      calculateChecksum bArr (~~~c &&& 65535#64) (i + k) i2 = calculateChecksum bArr j i i2 := by
  refine ⟨calculateChecksum_eq hj hi hi2, ?_, ?_⟩
  · obtain ⟨js, hjs, -, hall, -⟩ :=
      exists_accumulators (i2 - i) i (show i + (i2 - i) ≤ bArr.length by omega) hj
    exact ⟨js, hjs, hall⟩
  · intro k hk hki
    refine ⟨_, calculateChecksum_eq hj (by omega) (by omega), ?_⟩
    have hfold := foldCarry_le (j.toNat + wordSum (bArr.slice i (i + k - i)))
    -- the complement of the complement is the sum of the first part
    have hcomplement : (~~~(BitVec.ofNat 64 (65535 -
        foldCarry (j.toNat + wordSum (bArr.slice i (i + k - i))))) &&& 65535#64).toNat =
          foldCarry (j.toNat + wordSum (bArr.slice i (i + k - i))) := by
      rw [toNat_complement (by rw [BitVec.toNat_ofNat]; omega), BitVec.toNat_ofNat]
      omega
    have hparts : bArr.slice i (i2 - i) =
        bArr.slice i (i + k - i) ++ bArr.slice (i + k) (i2 - (i + k)) := by
      rw [Bytes.slice, Bytes.slice, Bytes.slice, Nat.add_sub_cancel_left, ← List.drop_drop,
        ← List.take_add]
      congr 1
      omega
    have hlength : (bArr.slice i (i + k - i)).length = k := by
      rw [Bytes.length_slice (by omega), Nat.add_sub_cancel_left]
    rw [calculateChecksum_eq (by omega) hki hi2, calculateChecksum_eq hj hi hi2, hcomplement,
      foldCarry_add, hparts, wordSum_append _ (by rwa [hlength]), Nat.add_assoc]

/-- Five bytes, with a carry on the way. -/
theorem calculateChecksum_rfc1071_odd :
    calculateChecksum [0xff, 0xff, 0x80, 0x01, 0x7f] 1 0 5 = .ok 0xfd := by
  have hj : (1 : BitVec 64).toNat ≤ 65535 := by decide
  rw [(calculateChecksum_rfc1071 hj (Nat.zero_le 5) (by decide)).1, foldCarry_eq _ (by decide)]
  decide

end XnetZt.IPPacketUtils.Words
