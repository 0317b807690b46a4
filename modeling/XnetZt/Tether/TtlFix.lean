import XnetZt.Tether.NatEngine

/-!
# The header checksum under the TTL fix

`NatEngine.fixTtl` replaces the TTL and moves the header checksum by the difference, where
`TetherL3Bridge.fixIpChecksum` adds up the whole header. The update keeps the residue of
the header sum modulo `65535`, so a header verifies after it exactly if it did before. It
is not always the checksum that a new sum gives: one's complement has two zeros, and an
update that lands on `0xffff` stays there, where the new sum gives `0`.
-/

namespace XnetZt

namespace NatEngine

open OnesComplement BigEndian

/-! ### The update in closed form -/

/-- The number that `fixTtl` stores. -/
def newChecksum (oldTtl oldChecksum : ℕ) : ℤ :=
  foldOnce (foldOnce (oldChecksum + ((oldTtl : ℤ) - defaultTtl) * 256))

/-- Two rounds of carries bring every sum back into 16 bits, and one of them is enough. -/
theorem newChecksum_cases {oldTtl oldChecksum : ℕ} (httl : oldTtl < 256)
    (hsum : oldChecksum < 65536) :
    (oldChecksum + 256 * oldTtl < 16384 ∧
        newChecksum oldTtl oldChecksum = oldChecksum + 256 * oldTtl - 16384 + 65535) ∨
      (16384 ≤ oldChecksum + 256 * oldTtl ∧ oldChecksum + 256 * oldTtl ≤ 81919 ∧
        newChecksum oldTtl oldChecksum = oldChecksum + 256 * oldTtl - 16384) ∨
      (81919 < oldChecksum + 256 * oldTtl ∧
        newChecksum oldTtl oldChecksum = oldChecksum + 256 * oldTtl - 16384 - 65535) := by
  simp only [newChecksum, foldOnce, defaultTtl]
  omega

/-- The packet after the fix. -/
def fixedTtl (packet : Bytes) : Bytes :=
  let checksum := newChecksum (packet.getD 8 0).toNat (word16 packet 10)
  ((packet.set 8 (BitVec.ofNat 8 defaultTtl)).set 10 (BitVec.ofInt 8 (checksum / 256))).set 11
    (BitVec.ofInt 8 checksum)

section Fixed

theorem newChecksum_range (packet : Bytes) :
    0 ≤ newChecksum (packet.getD 8 0).toNat (word16 packet 10) ∧
      newChecksum (packet.getD 8 0).toNat (word16 packet 10) ≤ 65535 := by
  have hsum := word16_lt packet 10
  have hcases := newChecksum_cases (packet.getD 8 0).isLt hsum
  omega

/-- A 16-bit number is stored without loss. -/
theorem toNat_ofInt_bytes {n : ℤ} (h0 : 0 ≤ n) (h : n ≤ 65535) :
    (256 * (BitVec.ofInt 8 (n / 256)).toNat + (BitVec.ofInt 8 n).toNat : ℤ) = n := by
  have hhi : (BitVec.ofInt 8 (n / 256)).toNat = (n / 256 % 256).toNat := BitVec.toNat_ofInt _
  have hlo : (BitVec.ofInt 8 n).toNat = (n % 256).toNat := BitVec.toNat_ofInt _
  omega

theorem set_getD_self (packet : Bytes) (i : ℕ) : packet.set i (packet.getD i 0) = packet := by
  by_cases hi : i < packet.length
  · rw [List.getD_eq_getElem _ _ hi, List.set_getElem_self]
  · exact List.set_eq_of_length_le (by omega)

variable {packet : Bytes}

/-- A TTL of 64 is left alone, which is what the update amounts to there. -/
theorem fixedTtl_eq_self (h : (packet.getD 8 0).toNat = defaultTtl) :
    fixedTtl packet = packet := by
  have hword : word16 packet 10 = 256 * (packet.getD 10 0).toNat + (packet.getD 11 0).toNat := rfl
  have hsum := word16_lt packet 10
  have hnew : newChecksum (packet.getD 8 0).toNat (word16 packet 10) = word16 packet 10 := by
    have hcases := newChecksum_cases (packet.getD 8 0).isLt hsum
    rw [h, defaultTtl] at hcases ⊢
    omega
  have hstored := toNat_ofInt_bytes (newChecksum_range packet).1 (newChecksum_range packet).2
  have hhi := (packet.getD 10 0).isLt
  have hlo := (packet.getD 11 0).isLt
  have hlo' := (BitVec.ofInt 8 (word16 packet 10)).isLt
  rw [hnew] at hstored
  have httl : BitVec.ofNat 8 defaultTtl = packet.getD 8 0 := by
    rw [← h, BitVec.ofNat_toNat, BitVec.setWidth_eq]
  have hten : BitVec.ofInt 8 ((word16 packet 10 : ℤ) / 256) = packet.getD 10 0 := by
    apply BitVec.eq_of_toNat_eq
    omega
  have heleven : BitVec.ofInt 8 (word16 packet 10 : ℤ) = packet.getD 11 0 := by
    apply BitVec.eq_of_toNat_eq
    omega
  unfold fixedTtl
  dsimp only
  rw [hnew, httl, hten, heleven, set_getD_self, set_getD_self, set_getD_self]

theorem fixTtl_eq (h : 12 ≤ packet.length) : fixTtl packet = .ok (fixedTtl packet) := by
  have hten : (packet.set 8 (BitVec.ofNat 8 defaultTtl)).getD 10 0 = packet.getD 10 0 := by
    simp [List.getD_eq_getElem?_getD]
  have heleven : (packet.set 8 (BitVec.ofNat 8 defaultTtl)).getD 11 0 = packet.getD 11 0 := by
    simp [List.getD_eq_getElem?_getD]
  unfold fixTtl
  rw [Bytes.read_eq_ok (by omega), ok_bind]
  dsimp only
  split_ifs with httl
  · rw [fixedTtl_eq_self httl]
    rfl
  · rw [Bytes.write_eq_ok _ (by omega), ok_bind, Bytes.read_eq_ok (by simp; omega), ok_bind,
      Bytes.read_eq_ok (by simp; omega), ok_bind, hten, heleven,
      Bytes.write_eq_ok _ (by simp; omega), ok_bind, Bytes.write_eq_ok _ (by simp; omega)]
    rfl

theorem length_fixedTtl (packet : Bytes) : (fixedTtl packet).length = packet.length := by
  simp [fixedTtl]

theorem getElem?_fixedTtl {i : ℕ} (h8 : i ≠ 8) (h10 : i ≠ 10) (h11 : i ≠ 11) :
    (fixedTtl packet)[i]? = packet[i]? := by
  unfold fixedTtl
  dsimp only
  rw [List.getElem?_set_ne h11.symm, List.getElem?_set_ne h10.symm, List.getElem?_set_ne h8.symm]

theorem headerLength_fixedTtl (packet : Bytes) :
    IPv4.headerLength (fixedTtl packet) = IPv4.headerLength packet := by
  rw [IPv4.headerLength, IPv4.headerLength, List.getD_eq_getElem?_getD,
    List.getD_eq_getElem?_getD, getElem?_fixedTtl (by omega) (by omega) (by omega)]

theorem word16_fixedTtl (h : 12 ≤ packet.length) :
    (word16 (fixedTtl packet) 10 : ℤ) =
      newChecksum (packet.getD 8 0).toNat (word16 packet 10) := by
  rw [← toNat_ofInt_bytes (newChecksum_range packet).1 (newChecksum_range packet).2]
  simp [word16, fixedTtl, List.getD_eq_getElem?_getD, show 10 < packet.length by omega,
    show 11 < packet.length by omega]

/-- The sum gains the new TTL and checksum and loses the old ones. -/
theorem wordSum_take_fixedTtl {n : ℕ} (hn : 12 ≤ n) (hlen : n ≤ packet.length) :
    (wordSum ((fixedTtl packet).take n) + 256 * (packet.getD 8 0).toNat + word16 packet 10 : ℤ) =
      wordSum (packet.take n) + 16384 +
        newChecksum (packet.getD 8 0).toNat (word16 packet 10) := by
  have hrange := newChecksum_range packet
  have hstored := toNat_ofInt_bytes hrange.1 hrange.2
  have htake : (packet.take n).length = n := by simp [hlen]
  have hget : ∀ i < n, (packet.take n).getD i 0 = packet.getD i 0 := by
    intro i hi
    rw [List.getD_eq_getElem?_getD, List.getElem?_take_of_lt hi, List.getD_eq_getElem?_getD]
  obtain ⟨checksum, hchecksum⟩ :
      ∃ c, c = newChecksum (packet.getD 8 0).toNat (word16 packet 10) := ⟨_, rfl⟩
  obtain ⟨header, hheader⟩ : ∃ header, header = packet.take n := ⟨_, rfl⟩
  rw [← hchecksum] at hstored
  -- one byte after the other
  have h8 := wordSum_set (l := header) (i := 8) (by rw [hheader]; omega)
    (BitVec.ofNat 8 defaultTtl)
  have h10 := wordSum_set (l := header.set 8 (BitVec.ofNat 8 defaultTtl)) (i := 10)
    (by rw [List.length_set, hheader]; omega) (BitVec.ofInt 8 (checksum / 256))
  have h11 := wordSum_set (l := (header.set 8 (BitVec.ofNat 8 defaultTtl)).set 10
    (BitVec.ofInt 8 (checksum / 256))) (i := 11)
    (by rw [List.length_set, List.length_set, hheader]; omega) (BitVec.ofInt 8 checksum)
  have hfixed : (fixedTtl packet).take n = ((header.set 8 (BitVec.ofNat 8 defaultTtl)).set 10
      (BitVec.ofInt 8 (checksum / 256))).set 11 (BitVec.ofInt 8 checksum) := by
    rw [hheader, hchecksum]
    simp [fixedTtl, List.take_set]
  have hword : word16 packet 10 = 256 * (header.getD 10 0).toNat + (header.getD 11 0).toNat := by
    rw [hheader, hget 10 (by omega), hget 11 (by omega)]
    rfl
  have httl : (BitVec.ofNat 8 defaultTtl).toNat = 64 := rfl
  have hold10 : (header.set 8 (BitVec.ofNat 8 defaultTtl)).getD 10 0 = header.getD 10 0 := by
    simp [List.getD_eq_getElem?_getD]
  have hold11 : ((header.set 8 (BitVec.ofNat 8 defaultTtl)).set 10
      (BitVec.ofInt 8 (checksum / 256))).getD 11 0 = header.getD 11 0 := by
    simp [List.getD_eq_getElem?_getD]
  have heven : byteWeight 8 = 256 ∧ byteWeight 10 = 256 ∧ byteWeight 11 = 1 := by decide
  rw [heven.1, httl] at h8
  rw [heven.2.1, hold10] at h10
  rw [heven.2.2, hold11] at h11
  rw [← hchecksum, hfixed, hword, ← hget 8 (by omega), ← hheader]
  omega

/-- The first byte of a header of version 4 is not zero. -/
theorem wordSum_pos (hv : IPv4.version packet = 4) {n : ℕ} (hn : 2 ≤ n) (hlen : n ≤ packet.length) :
    16384 ≤ wordSum (packet.take n) := by
  obtain ⟨a, b, rest, rfl⟩ : ∃ a b rest, packet = a :: b :: rest := by
    match packet with
    | [] => simp at hlen; omega
    | [_] => simp at hlen; omega
    | a :: b :: rest => exact ⟨a, b, rest, rfl⟩
  have ha : a.toNat / 16 = 4 := hv
  obtain ⟨m, rfl⟩ : ∃ m, n = m + 1 + 1 := ⟨n - 2, by omega⟩
  rw [List.take_succ_cons, List.take_succ_cons, wordSum_cons_cons]
  omega

end Fixed

/-! ### What the fix preserves -/

/-- A packet and what the fix makes of it. -/
structure TtlFixed (p p' : Bytes) : Prop where
  ttl : (p'.getD 8 0).toNat = 64
  unchanged : ∀ i, i ≠ 8 → i ≠ 10 → i ≠ 11 → p'[i]? = p[i]?
  /-- The number that is stored has 16 bits, so that none is lost. -/
  checksum : newChecksum (p.getD 8 0).toNat (word16 p 10) = word16 p' 10 ∧ word16 p' 10 < 65536
  residue : 20 ≤ IPv4.headerLength p → IPv4.headerLength p ≤ p.length →
    wordSum (p'.take (IPv4.headerLength p)) ≡ wordSum (p.take (IPv4.headerLength p)) [MOD 65535]
  verifies : 20 ≤ IPv4.headerLength p → IPv4.headerLength p ≤ p.length →
    (IPv4.HeaderChecksumValid p' ↔ IPv4.HeaderChecksumValid p)

theorem modEq_wordSum_fixedTtl {packet : Bytes} {n : ℕ} (hn : 12 ≤ n) (hlen : n ≤ packet.length) :
    wordSum ((fixedTtl packet).take n) ≡ wordSum (packet.take n) [MOD 65535] := by
  have hsum := wordSum_take_fixedTtl hn hlen
  have hcases := newChecksum_cases (packet.getD 8 0).isLt (word16_lt packet 10)
  unfold Nat.ModEq
  omega

/-- For every packet, whatever its TTL and its checksum, right or wrong. -/
theorem fixTtl_preserves_residue {packet : Bytes} (h20 : 20 ≤ packet.length)
    (hv : IPv4.version packet = 4) : ∃ p', fixTtl packet = .ok p' ∧ TtlFixed packet p' := by
  refine ⟨_, fixTtl_eq (by omega), ?_⟩
  have hresidue : 20 ≤ IPv4.headerLength packet → IPv4.headerLength packet ≤ packet.length →
      wordSum ((fixedTtl packet).take (IPv4.headerLength packet)) ≡
        wordSum (packet.take (IPv4.headerLength packet)) [MOD 65535] :=
    fun h hle => modEq_wordSum_fixedTtl (by omega) hle
  constructor
  case ttl =>
    have h8 : 8 < packet.length := by omega
    simp [fixedTtl, List.getD_eq_getElem?_getD, h8, defaultTtl]
  case unchanged => exact fun i h8 h10 h11 => getElem?_fixedTtl h8 h10 h11
  case checksum => exact ⟨(word16_fixedTtl (by omega)).symm, word16_lt _ _⟩
  case residue => exact hresidue
  case verifies =>
    intro h hle
    have hv' : IPv4.version (fixedTtl packet) = 4 := by
      rw [← hv, IPv4.version, IPv4.version, List.getD_eq_getElem?_getD,
        List.getD_eq_getElem?_getD, getElem?_fixedTtl (by omega) (by omega) (by omega)]
    have hpos := wordSum_pos hv (show 2 ≤ IPv4.headerLength packet by omega) hle
    have hpos' := wordSum_pos hv' (show 2 ≤ IPv4.headerLength packet by omega)
      (by rw [length_fixedTtl]; exact hle)
    have hmod := hresidue h hle
    rw [IPv4.HeaderChecksumValid, IPv4.HeaderChecksumValid, headerLength_fixedTtl, verifies_iff,
      verifies_iff]
    constructor
    · rintro ⟨-, hzero⟩
      exact ⟨by omega, hmod.symm.trans hzero⟩
    · rintro ⟨-, hzero⟩
      exact ⟨by omega, hmod.trans hzero⟩

/-- A header whose checksum is off by one, with a TTL of 1. -/
theorem fixTtl_preserves_residue_corrupted :
    let packet : Bytes :=
      [0x45, 0, 0, 20, 0, 0, 0, 0, 1, 17, 0xfa, 0x0a, 192, 168, 42, 10, 10, 0, 0, 1]
    20 ≤ packet.length ∧ IPv4.version packet = 4 ∧
      ∃ p', fixTtl packet = .ok p' ∧ TtlFixed packet p' :=
  ⟨by decide, by decide, fixTtl_preserves_residue (by decide) (by decide)⟩

/-! ### The update and a new sum -/

def setTtl (packet : Bytes) : Bytes := packet.set 8 (BitVec.ofNat 8 defaultTtl)

/-- The TTL is set, and the checksum is computed anew. -/
def recomputeChecksum (packet : Bytes) : Except JavaException Bytes := do
  let packet ← packet.write 8 (BitVec.ofNat 8 defaultTtl)
  TetherL3Bridge.fixIpChecksum packet

section Recompute

@[simp] theorem length_setTtl (packet : Bytes) : (setTtl packet).length = packet.length :=
  List.length_set

@[simp] theorem headerLength_setTtl (packet : Bytes) :
    IPv4.headerLength (setTtl packet) = IPv4.headerLength packet := by
  simp [setTtl, IPv4.headerLength, List.getD_eq_getElem?_getD]

@[simp] theorem version_setTtl (packet : Bytes) :
    IPv4.version (setTtl packet) = IPv4.version packet := by
  simp [setTtl, IPv4.version, List.getD_eq_getElem?_getD]

variable {packet : Bytes}

/-- The sum of the header without its checksum. -/
def sumWithoutChecksum (packet : Bytes) : ℕ :=
  wordSum (((packet.set 10 0).set 11 0).take (IPv4.headerLength packet))

/-- The checksum that `fixIpChecksum` computes. -/
def computedChecksum (packet : Bytes) : ℕ := 65535 - foldCarry (sumWithoutChecksum packet)

theorem computedChecksum_eq (hpos : 0 < sumWithoutChecksum packet) :
    computedChecksum packet = 65534 - (sumWithoutChecksum packet - 1) % 65535 := by
  rw [computedChecksum, foldCarry_eq _ hpos]
  omega

theorem fixIpChecksum_eq_ok (h : 12 ≤ packet.length)
    (hlen : IPv4.headerLength packet ≤ packet.length) :
    TetherL3Bridge.fixIpChecksum packet =
      .ok ((packet.set 10 (BitVec.ofNat 8 (computedChecksum packet / 256))).set 11
        (BitVec.ofNat 8 (computedChecksum packet))) := by
  rw [TetherL3Bridge.fixIpChecksum_eq h, if_pos hlen]
  rfl

theorem word16_set_checksum (h : 12 ≤ packet.length) {c : ℕ} (hc : c ≤ 65535) :
    word16 ((packet.set 10 (BitVec.ofNat 8 (c / 256))).set 11 (BitVec.ofNat 8 c)) 10 = c := by
  have hbytes : 256 * (BitVec.ofNat 8 (c / 256)).toNat + (BitVec.ofNat 8 c).toNat = c := by
    rw [BitVec.toNat_ofNat, BitVec.toNat_ofNat]
    omega
  calc
    _ = 256 * (BitVec.ofNat 8 (c / 256)).toNat + (BitVec.ofNat 8 c).toNat := by
      simp [word16, List.getD_eq_getElem?_getD, show 10 < packet.length by omega,
        show 11 < packet.length by omega]
    _ = c := hbytes

theorem computedChecksum_le (packet : Bytes) : computedChecksum packet ≤ 65535 := Nat.sub_le _ _

/-- A header that the computation leaves alone has the computed checksum. -/
theorem word16_of_fixIpChecksum_eq_self (h : 12 ≤ packet.length)
    (hlen : IPv4.headerLength packet ≤ packet.length)
    (hsum : TetherL3Bridge.fixIpChecksum packet = .ok packet) :
    word16 packet 10 = computedChecksum packet := by
  rw [fixIpChecksum_eq_ok h hlen, Except.ok.injEq] at hsum
  have hword := word16_set_checksum h (computedChecksum_le packet)
  rwa [hsum] at hword

theorem sumWithoutChecksum_setTtl (h : 12 ≤ IPv4.headerLength packet)
    (hlen : IPv4.headerLength packet ≤ packet.length) :
    sumWithoutChecksum (setTtl packet) + 256 * (packet.getD 8 0).toNat =
      sumWithoutChecksum packet + 16384 := by
  obtain ⟨zeroed, hzeroed⟩ : ∃ zeroed, zeroed =
      ((packet.set 10 0).set 11 0).take (IPv4.headerLength packet) := ⟨_, rfl⟩
  have hset : (((setTtl packet).set 10 0).set 11 0).take (IPv4.headerLength packet) =
      zeroed.set 8 (BitVec.ofNat 8 defaultTtl) := by
    rw [setTtl, List.set_comm _ _ (show 8 ≠ 10 by decide),
      List.set_comm _ _ (show 8 ≠ 11 by decide), List.take_set, hzeroed]
  have hlength : 8 < zeroed.length := by
    simp [hzeroed]
    omega
  have hget : zeroed.getD 8 0 = packet.getD 8 0 := by
    rw [hzeroed, List.getD_eq_getElem?_getD, List.getElem?_take_of_lt (by omega)]
    simp [List.getD_eq_getElem?_getD]
  have hweight : byteWeight 8 = 256 := rfl
  have httl : (BitVec.ofNat 8 defaultTtl).toNat = 64 := rfl
  have hsum := wordSum_set hlength (BitVec.ofNat 8 defaultTtl)
  rw [hget, hweight, httl] at hsum
  rw [sumWithoutChecksum, headerLength_setTtl, hset, sumWithoutChecksum, ← hzeroed]
  omega

theorem sumWithoutChecksum_pos (hv : IPv4.version packet = 4) (h : 2 ≤ IPv4.headerLength packet)
    (hlen : IPv4.headerLength packet ≤ packet.length) : 16384 ≤ sumWithoutChecksum packet := by
  apply wordSum_pos
  · rw [← hv]
    simp [IPv4.version, List.getD_eq_getElem?_getD]
  · exact h
  · simpa using hlen

/-- Both ways give the same bytes if they give the same checksum. -/
theorem fixTtl_eq_recompute_iff_checksum (h : 12 ≤ IPv4.headerLength packet)
    (hlen : IPv4.headerLength packet ≤ packet.length) :
    fixTtl packet = recomputeChecksum packet ↔
      newChecksum (packet.getD 8 0).toNat (word16 packet 10) =
        computedChecksum (setTtl packet) := by
  have hlength := length_setTtl packet
  have hheader := headerLength_setTtl packet
  obtain ⟨c, hc⟩ : ∃ c, c = computedChecksum (setTtl packet) := ⟨_, rfl⟩
  have hrecompute : recomputeChecksum packet =
      .ok (((setTtl packet).set 10 (BitVec.ofNat 8 (c / 256))).set 11 (BitVec.ofNat 8 c)) := by
    rw [recomputeChecksum, Bytes.write_eq_ok _ (by omega), ok_bind, ← setTtl,
      fixIpChecksum_eq_ok (by omega) (by omega), hc]
  rw [fixTtl_eq (by omega), hrecompute, Except.ok.injEq, ← hc]
  constructor
  · intro heq
    have hold := word16_fixedTtl (show 12 ≤ packet.length by omega)
    rw [heq, word16_set_checksum (by omega) (hc ▸ computedChecksum_le _)] at hold
    exact hold.symm
  · intro heq
    have hdiv : (c : ℤ) / 256 = ((c / 256 : ℕ) : ℤ) := by norm_num
    unfold fixedTtl
    dsimp only
    rw [heq, hdiv, BitVec.ofInt_natCast, BitVec.ofInt_natCast, setTtl]

/-- For a header with the checksum that `fixIpChecksum` computes, the update gives what a
new sum gives unless it lands on the other zero. -/
theorem fixTtl_eq_recompute_iff (hv : IPv4.version packet = 4)
    (hihl : 20 ≤ IPv4.headerLength packet) (hlen : IPv4.headerLength packet ≤ packet.length)
    (hsum : TetherL3Bridge.fixIpChecksum packet = .ok packet) :
    fixTtl packet = recomputeChecksum packet ↔
      256 * (packet.getD 8 0).toNat + word16 packet 10 ≠ 256 * 64 + 65535 := by
  have hword := word16_of_fixIpChecksum_eq_self (by omega) hlen hsum
  have hpos := sumWithoutChecksum_pos hv (by omega) hlen
  have hmove := sumWithoutChecksum_setTtl (by omega) hlen
  have hold := computedChecksum_eq (show 0 < sumWithoutChecksum packet by omega)
  have hpos' : 16384 ≤ sumWithoutChecksum (setTtl packet) := by
    apply sumWithoutChecksum_pos
    · rw [version_setTtl, hv]
    · rw [headerLength_setTtl]
      omega
    · rw [headerLength_setTtl, length_setTtl]
      exact hlen
  have hnew := computedChecksum_eq (show 0 < sumWithoutChecksum (setTtl packet) by omega)
  have hcases := newChecksum_cases (packet.getD 8 0).isLt (word16_lt packet 10)
  rw [fixTtl_eq_recompute_iff_checksum (by omega) hlen, hnew]
  omega

end Recompute

/-- A header of a tether client whose TTL is 65, with this identification and checksum. -/
def headerWith (id0 id1 c0 c1 : Byte) : Bytes :=
  [0x45, 0, 0, 20, id0, id1, 0, 0, 65, 17, c0, c1, 192, 168, 42, 10, 10, 0, 0, 1]

/-- What there is to add up in such a header. -/
theorem fixIpChecksum_headerWith {id0 id1 c0 c1 : Byte} (sum : ℕ)
    (hsum : sumWithoutChecksum (headerWith id0 id1 c0 c1) = sum + 1)
    (hc : 256 * c0.toNat + c1.toNat = 65534 - sum % 65535) :
    TetherL3Bridge.fixIpChecksum (headerWith id0 id1 c0 c1) =
      .ok (headerWith id0 id1 c0 c1) := by
  have h0 := c0.isLt
  have h1 := c1.isLt
  have hcomputed : computedChecksum (headerWith id0 id1 c0 c1) = 256 * c0.toNat + c1.toNat := by
    rw [computedChecksum_eq (by omega), hsum, Nat.add_sub_cancel, hc]
  have hlength : 12 ≤ (headerWith id0 id1 c0 c1).length := by simp [headerWith]
  have hheader : IPv4.headerLength (headerWith id0 id1 c0 c1) ≤
      (headerWith id0 id1 c0 c1).length := by
    simp [headerWith, IPv4.headerLength]
  rw [fixIpChecksum_eq_ok hlength hheader, hcomputed]
  have hhi : BitVec.ofNat 8 ((256 * c0.toNat + c1.toNat) / 256) = c0 := by
    apply BitVec.eq_of_toNat_eq
    rw [BitVec.toNat_ofNat]
    omega
  have hlo : BitVec.ofNat 8 (256 * c0.toNat + c1.toNat) = c1 := by
    apply BitVec.eq_of_toNat_eq
    rw [BitVec.toNat_ofNat]
    omega
  rw [hhi, hlo]
  rfl

theorem fixTtl_eq_recompute_identified :
    let packet := headerWith 0 0 0x85 0x26
    TetherL3Bridge.fixIpChecksum packet = .ok packet ∧
      (fixTtl packet = recomputeChecksum packet ↔
        256 * (packet.getD 8 0).toNat + word16 packet 10 ≠ 256 * 64 + 65535) := by
  have hsum : TetherL3Bridge.fixIpChecksum (headerWith 0 0 0x85 0x26) =
      .ok (headerWith 0 0 0x85 0x26) :=
    fixIpChecksum_headerWith 96983 (by decide) (by decide)
  exact ⟨hsum, fixTtl_eq_recompute_iff (by decide) (by decide) (by decide) hsum⟩

/-- With the identification `0x8626` the checksum is `0xfeff`, and one TTL less makes it
`0xffff`, where a new sum gives `0`. -/
theorem fixTtl_ne_recompute :
    let packet := headerWith 0x86 0x26 0xfe 0xff
    TetherL3Bridge.fixIpChecksum packet = .ok packet ∧
      fixTtl packet ≠ recomputeChecksum packet := by
  refine ⟨fixIpChecksum_headerWith 131325 (by decide) (by decide), ?_⟩
  rw [ne_eq, fixTtl_eq_recompute_iff_checksum (by decide) (by decide)]
  have hsum : sumWithoutChecksum (setTtl (headerWith 0x86 0x26 0xfe 0xff)) = 131070 := by decide
  rw [computedChecksum_eq (by rw [hsum]; decide), hsum]
  decide

end NatEngine

end XnetZt
