import XnetZt.Net.Route

/-!
# Network prefixes, bit by bit

An address is read here as its bits, the most significant one first. The IPv4 mask of
a prefix length keeps exactly the leading bits. The IPv6 mask does so only at byte
boundaries and in the first byte: its padding repeats the first byte of the shifted
mask, so a length that ends inside a byte also drops the low bits of every byte before.
-/

namespace XnetZt

namespace InetAddress

/-- The number of bits of an address. -/
def width : InetAddress → ℕ
  | inet4 _ => 32
  | inet6 _ _ => 128

/-- Bit `i` of an address; `false` beyond its width. -/
def bit : InetAddress → ℕ → Bool
  | inet4 raw, i => raw.getMsbD i
  | inet6 raw _, i => raw.getMsbD i

/-- Two addresses of one family with the same first `p` bits. -/
structure AgreeOn (p : ℕ) (a b : InetAddress) : Prop where
  family : a.isInet4 = b.isInet4
  bits : ∀ i < p, a.bit i = b.bit i

/-- `r` has the first `p` bits of `a` and zeros after them. -/
structure IsNetworkPrefix (r a : InetAddress) (p : ℕ) : Prop where
  family : r.isInet4 = a.isInet4
  kept : ∀ i < p, r.bit i = a.bit i
  cleared : ∀ i, p ≤ i → r.bit i = false

/-- A bit before the end of the prefix that the netmask nevertheless clears. -/
def DroppedBit (a : InetAddress) (p i : ℕ) : Prop :=
  a.isInet6 = true ∧ p % 8 ≠ 0 ∧ i / 8 < p / 8 ∧ p % 8 ≤ i % 8

instance (a : InetAddress) (p i : ℕ) : Decidable (DroppedBit a p i) :=
  inferInstanceAs (Decidable (_ ∧ _))

theorem DroppedBit.lt {a : InetAddress} {p i : ℕ} (h : a.DroppedBit p i) : i < p := by
  obtain ⟨-, -, hlt, -⟩ := h
  omega

theorem not_droppedBit_inet4 (raw : BitVec 32) (p i : ℕ) : ¬ (inet4 raw).DroppedBit p i := by
  simp [DroppedBit, isInet6, isInet4]

theorem droppedBit_congr {a b : InetAddress} (h : a.isInet4 = b.isInet4) (p i : ℕ) :
    a.DroppedBit p i ↔ b.DroppedBit p i := by
  unfold DroppedBit isInet6
  rw [h]

/-- An address is determined by its family and its bits. -/
theorem ext_bit {a b : InetAddress} (hfamily : a.isInet4 = b.isInet4)
    (hbits : ∀ i, a.bit i = b.bit i) : a = b := by
  cases a with
  | inet4 x =>
    cases b with
    | inet4 y =>
      have hxy : x = y := BitVec.eq_of_getMsbD_eq fun i _ => hbits i
      rw [hxy]
    | inet6 y hy => cases hfamily
  | inet6 x hx =>
    cases b with
    | inet4 y => cases hfamily
    | inet6 y hy =>
      have hxy : x = y := BitVec.eq_of_getMsbD_eq fun i _ => hbits i
      subst hxy
      rfl

end InetAddress

/-! ### The bits of the netmasks -/

theorem getMsbD_prefixMask {p : ℕ} (hpos : p ≠ 0) (hp : p ≤ 32) (i : ℕ) :
    (prefixMask p).getMsbD i = decide (i < p) := by
  have hcount : shiftCount (32 - p) = 32 - p := by
    unfold shiftCount
    omega
  have hones : (BitVec.allOnes 32).sshiftRight (32 - p) = BitVec.allOnes 32 := by
    apply BitVec.eq_of_getLsbD_eq
    intro j hj
    rw [BitVec.getLsbD_sshiftRight, BitVec.getLsbD_allOnes, BitVec.getLsbD_allOnes,
      BitVec.msb_allOnes (by omega)]
    simp [hj]
  rw [prefixMask, hcount, hones, BitVec.getMsbD_shiftLeft, BitVec.getMsbD_allOnes,
    decide_eq_decide]
  omega

/-- A byte whose `k` low bits are clear. -/
theorem getMsbD_maskByte {k j : ℕ} (hk : k < 8) (hj : j < 8) :
    (BitVec.ofNat 8 (256 - 2 ^ k)).getMsbD j = decide (j < 8 - k) := by
  have h : ∀ k < 8, ∀ j < 8, (BitVec.ofNat 8 (256 - 2 ^ k)).getMsbD j = decide (j < 8 - k) := by
    decide
  exact h k hk j hj

theorem getMsbD_netmask_inet6 {raw : BitVec 128} {h : ¬ IsIPv4Mapped raw} {p : ℕ} (hpos : p ≠ 0)
    (hp : p ≤ 128) (i : ℕ) :
    (BitVec.ofNat 128 (BigEndian.toNat (addressToNetmask (.inet6 raw h) p))).getMsbD i =
      decide (i < p ∧ ¬ (InetAddress.inet6 raw h).DroppedBit p i) := by
  have hj : i % 8 < 8 := Nat.mod_lt _ (by omega)
  have hdropped : (InetAddress.inet6 raw h).DroppedBit p i ↔
      p % 8 ≠ 0 ∧ i / 8 < p / 8 ∧ p % 8 ≤ i % 8 := by
    simp [InetAddress.DroppedBit, InetAddress.isInet6, InetAddress.isInet4]
  rw [BigEndian.getMsbD_toNat (by simp), netmask_inet6 hpos]
  rcases Nat.lt_or_ge (i / 8) (16 - (128 - p) / 8) with hlt | hge
  · -- one of the repeated bytes
    rw [List.getD_append _ _ _ _ (by simpa using hlt), List.getD_replicate _ hlt,
      getMsbD_maskByte (Nat.mod_lt _ (by omega)) hj, decide_eq_decide, hdropped]
    omega
  · have hzero : ∀ n j : ℕ, (List.replicate n (0 : BitVec 8)).getD j 0 = 0 := by
      intro n j
      rw [List.getD_eq_getElem?_getD, List.getElem?_replicate]
      split_ifs <;> rfl
    rw [List.getD_append_right _ _ _ _ (by simpa using hge), hzero]
    have hout : ¬ (i < p ∧ ¬ (InetAddress.inet6 raw h).DroppedBit p i) := by
      rw [hdropped]
      omega
    rw [decide_eq_false hout]
    simp

/-- Masking byte by byte is masking the whole word. -/
theorem ofNat_toNat_masked (raw : BitVec 128) (h : ¬ IsIPv4Mapped raw) (p : ℕ) :
    BitVec.ofNat 128 (BigEndian.toNat (List.zipWith (· &&& ·)
        (InetAddress.inet6 raw h).getAddress (addressToNetmask (.inet6 raw h) p))) =
      raw &&& BitVec.ofNat 128 (BigEndian.toNat (addressToNetmask (.inet6 raw h) p)) := by
  have hmask := BigEndian.ofNat_toNat (addressToNetmask (.inet6 raw h) p)
  have hlt := BigEndian.toNat_lt (addressToNetmask (.inet6 raw h) p)
  rw [length_netmask_inet6] at hmask hlt
  generalize BigEndian.toNat (addressToNetmask (.inet6 raw h) p) = mask at hmask hlt
  have hand : raw.toNat &&& mask < 256 ^ 16 := Nat.lt_of_le_of_lt Nat.and_le_right hlt
  rw [← hmask, InetAddress.getAddress, BigEndian.zipWith_and_ofNat, BigEndian.toNat_ofNat,
    Nat.mod_eq_of_lt hand, BitVec.ofNat_and, BitVec.ofNat_toNat, BitVec.setWidth_eq]

/-! ### The computed prefix -/

/-- What `addressToRoute` computes, bit by bit. -/
theorem addressToRoute_bit {a : InetAddress} {p : ℕ} (hp : p ≤ a.width) :
    ∃ r, addressToRoute a p = some r ∧ r.isInet4 = a.isInet4 ∧
      ∀ i, r.bit i = (decide (i < p ∧ ¬ a.DroppedBit p i) && a.bit i) := by
  rcases Nat.eq_zero_or_pos p with rfl | hpos
  · cases a with
    | inet4 raw => exact ⟨_, addressToRoute_inet4_zero raw, rfl, by simp [InetAddress.bit]⟩
    | inet6 raw h => exact ⟨_, addressToRoute_inet6_zero raw h, rfl, by simp [InetAddress.bit]⟩
  · have hne : p ≠ 0 := by omega
    unfold addressToRoute
    rw [if_neg hne]
    cases a with
    | inet4 raw =>
      refine ⟨_, addressToRouteNo0Route_inet4 raw p, rfl, ?_⟩
      intro i
      have hkeep := InetAddress.not_droppedBit_inet4 raw p i
      simp [InetAddress.bit, getMsbD_prefixMask hne hp, hkeep, Bool.and_comm]
    | inet6 raw h =>
      refine ⟨_, addressToRouteNo0Route_inet6_eq raw h p, rfl, ?_⟩
      intro i
      rw [InetAddress.bit, ofNat_toNat_masked, BitVec.getMsbD_and, getMsbD_netmask_inet6 hne hp,
        Bool.and_comm, InetAddress.bit]

variable {a b r : InetAddress} {p : ℕ}

theorem width_eq_of_family (h : a.isInet4 = b.isInet4) : a.width = b.width := by
  cases a <;> cases b <;> first | rfl | cases h

theorem bit_of_addressToRoute (hp : p ≤ b.width) (hr : addressToRoute b p = some r) :
    r.isInet4 = b.isInet4 ∧
      ∀ i, r.bit i = (decide (i < p ∧ ¬ b.DroppedBit p i) && b.bit i) := by
  obtain ⟨r', hr', hfamily, hbits⟩ := addressToRoute_bit hp
  rw [hr, Option.some.injEq] at hr'
  rw [hr']
  exact ⟨hfamily, hbits⟩

/-- Taking the prefix twice is taking it once. -/
theorem addressToRoute_idempotent (hp : p ≤ b.width) (hr : addressToRoute b p = some r) :
    addressToRoute r p = some r := by
  obtain ⟨hfamily, hbits⟩ := bit_of_addressToRoute hp hr
  have hp' : p ≤ r.width := by
    rw [width_eq_of_family hfamily]
    exact hp
  obtain ⟨r', hr', hfamily', hbits'⟩ := addressToRoute_bit hp'
  have heq : r' = r := by
    apply InetAddress.ext_bit hfamily'
    intro i
    rw [hbits', hbits]
    by_cases hkeep : i < p ∧ ¬ b.DroppedBit p i
    · have hkeep' : i < p ∧ ¬ r.DroppedBit p i := by
        rwa [InetAddress.droppedBit_congr hfamily]
      simp [hkeep, hkeep']
    · simp [hkeep]
  rw [hr', heq]

/-- An address belongs to the route of `b`'s prefix if it agrees with `b` on the bits that
the netmask keeps. -/
theorem belongsToRoute_iff {gateway : Option InetAddress} (hp : p ≤ b.width)
    (hr : addressToRoute b p = some r) :
    Route.belongsToRoute ⟨r, p, gateway⟩ a = true ↔
      a.isInet4 = b.isInet4 ∧ ∀ i < p, ¬ b.DroppedBit p i → a.bit i = b.bit i := by
  obtain ⟨hfamily, hbits⟩ := bit_of_addressToRoute hp hr
  constructor
  · intro hbelongs
    have hab : a.isInet4 = b.isInet4 := by
      have h : r.isInet4 = a.isInet4 := Route.isInet4_of_belongsToRoute hbelongs
      rw [← h, hfamily]
    have ha : addressToRoute a p = some r := by
      simpa [Route.belongsToRoute] using hbelongs
    obtain ⟨-, habits⟩ := bit_of_addressToRoute (by rw [width_eq_of_family hab]; exact hp) ha
    refine ⟨hab, ?_⟩
    intro i hi hkeep
    have hbit := (habits i).symm.trans (hbits i)
    have hkeep' : ¬ a.DroppedBit p i := by rwa [InetAddress.droppedBit_congr hab]
    simpa [hi, hkeep, hkeep'] using hbit
  · rintro ⟨hab, hagree⟩
    obtain ⟨r', hr', hfamily', hbits'⟩ :=
      addressToRoute_bit (show p ≤ a.width by rw [width_eq_of_family hab]; exact hp)
    have heq : r' = r := by
      apply InetAddress.ext_bit (by rw [hfamily', hab, hfamily])
      intro i
      rw [hbits', hbits]
      by_cases hkeep : i < p ∧ ¬ b.DroppedBit p i
      · have hkeep' : i < p ∧ ¬ a.DroppedBit p i := by
          rwa [InetAddress.droppedBit_congr hab]
        simp [hkeep, hkeep', hagree i hkeep.1 hkeep.2]
      · have hkeep' : ¬ (i < p ∧ ¬ a.DroppedBit p i) := by
          rwa [InetAddress.droppedBit_congr hab]
        simp [hkeep, hkeep']
    simp [Route.belongsToRoute, hr', heq]

theorem isNetworkPrefix_iff (hp : p ≤ b.width) (hr : addressToRoute b p = some r) :
    r.IsNetworkPrefix b p ↔ ∀ i, b.DroppedBit p i → b.bit i = false := by
  obtain ⟨hfamily, hbits⟩ := bit_of_addressToRoute hp hr
  constructor
  · intro h i hi
    have hkept := h.kept i hi.lt
    rw [hbits] at hkept
    simpa [hi] using hkept.symm
  · intro hdropped
    refine ⟨hfamily, ?_, ?_⟩
    · intro i hi
      rw [hbits]
      by_cases hkeep : b.DroppedBit p i
      · simp [hdropped i hkeep]
      · simp [hi, hkeep]
    · intro i hi
      rw [hbits]
      have hlt : ¬ i < p := by omega
      simp [hlt]

/-- `addressToRoute(b, p)` is the prefix of `b`, taking it again changes nothing, and `a`
belongs to its route if and only if it agrees with `b` on the first `p` bits. -/
def NetworkPrefixCorrect (a b : InetAddress) (p : ℕ) : Prop :=
  ∃ r, addressToRoute b p = some r ∧ r.IsNetworkPrefix b p ∧ addressToRoute r p = some r ∧
    ∀ gateway, Route.belongsToRoute ⟨r, p, gateway⟩ a = true ↔ a.AgreeOn p b

/-- The prefix code is right exactly where no dropped bit matters: none is set in `b`, and
`a` does not differ from `b` in dropped bits alone. -/
theorem networkPrefixCorrect_iff (hp : p ≤ b.width) :
    NetworkPrefixCorrect a b p ↔
      (∀ i, b.DroppedBit p i → b.bit i = false) ∧
      (a.isInet4 = b.isInet4 → (∀ i < p, ¬ b.DroppedBit p i → a.bit i = b.bit i) →
        ∀ i, b.DroppedBit p i → a.bit i = b.bit i) := by
  obtain ⟨r, hr, -⟩ := addressToRoute_bit hp
  have hagree : (∀ gateway, Route.belongsToRoute ⟨r, p, gateway⟩ a = true ↔ a.AgreeOn p b) ↔
      (a.isInet4 = b.isInet4 → (∀ i < p, ¬ b.DroppedBit p i → a.bit i = b.bit i) →
        ∀ i, b.DroppedBit p i → a.bit i = b.bit i) := by
    simp only [belongsToRoute_iff hp hr, forall_const]
    constructor
    · intro h hab hkept i hi
      exact (h.mp ⟨hab, hkept⟩).bits i hi.lt
    · intro h
      constructor
      · rintro ⟨hab, hkept⟩
        refine ⟨hab, ?_⟩
        intro i hi
        by_cases hdropped : b.DroppedBit p i
        · exact h hab hkept i hdropped
        · exact hkept i hi hdropped
      · rintro ⟨hab, hbits⟩
        exact ⟨hab, fun i hi _ => hbits i hi⟩
  constructor
  · rintro ⟨r', hr', hnetwork, -, hbelongs⟩
    obtain rfl : r = r' := by simpa [hr] using hr'
    exact ⟨(isNetworkPrefix_iff hp hr).mp hnetwork, hagree.mp hbelongs⟩
  · rintro ⟨hnetwork, hbelongs⟩
    exact ⟨r, hr, (isNetworkPrefix_iff hp hr).mpr hnetwork, addressToRoute_idempotent hp hr,
      hagree.mpr hbelongs⟩

/-- At a byte boundary nothing is dropped. -/
theorem networkPrefixCorrect_64 :
    NetworkPrefixCorrect (.inet6 0x20010db8000100020000000000000007 (by decide))
      (.inet6 0x20010db8000100020000000000000009 (by decide)) 64 := by
  refine (networkPrefixCorrect_iff (by decide)).mpr ⟨?_, ?_⟩
  · rintro i ⟨-, hmod, -⟩
    exact absurd rfl hmod
  · rintro - - i ⟨-, hmod, -⟩
    exact absurd rfl hmod

/-- The prefix `2001:db8:1::/60` comes out as `2000:b0::/60`. -/
theorem not_networkPrefixCorrect_60 :
    addressToRoute (.inet6 0x20010db8000100000000000000000000 (by decide)) 60 =
      some (.inet6 0x200000b0000000000000000000000000 (by decide)) ∧
    ¬ NetworkPrefixCorrect (.inet6 0x20010db8000100000000000000000000 (by decide))
      (.inet6 0x20010db8000100000000000000000000 (by decide)) 60 := by
  refine ⟨by decide +kernel, ?_⟩
  rintro ⟨r, hr, hnetwork, -⟩
  -- bit 15 is the last one of the byte `0x01`
  have h15 := (isNetworkPrefix_iff (by decide) hr).mp hnetwork 15 (by decide)
  exact absurd h15 (by decide)

end XnetZt
