import XnetZt.Lib.BigEndian
import XnetZt.Lib.Java

/-!
# IP addresses and network prefixes

`InetAddress` follows `java.net`: an address is an `Inet4Address` or an
`Inet6Address`, and an IPv4-mapped IPv6 address is never built, since
`InetAddress.getByAddress` turns it into an `Inet4Address`. The constructor `inet6`
carries that fact. The remaining definitions are those of `InetAddressUtils`.
-/

namespace XnetZt

/-- Ten zero bytes, two bytes `0xff`, then an IPv4 address. -/
def IsIPv4Mapped (raw : BitVec 128) : Prop := raw.toNat / 256 ^ 4 = 0xffff

instance (raw : BitVec 128) : Decidable (IsIPv4Mapped raw) :=
  inferInstanceAs (Decidable (_ = _))

inductive InetAddress
  | inet4 (raw : BitVec 32)
  | inet6 (raw : BitVec 128) (unmapped : ¬ IsIPv4Mapped raw)
  deriving DecidableEq

namespace InetAddress

/-- `instanceof Inet4Address` -/
def isInet4 : InetAddress → Bool
  | inet4 _ => true
  | inet6 _ _ => false

/-- `instanceof Inet6Address` -/
def isInet6 (a : InetAddress) : Bool := !a.isInet4

def getAddress : InetAddress → Bytes
  | inet4 raw => BigEndian.ofNat 4 raw.toNat
  | inet6 raw _ => BigEndian.ofNat 16 raw.toNat

/-- `none` stands for the `UnknownHostException` of an illegal length. -/
def getByAddress (addr : Bytes) : Option InetAddress :=
  if addr.length = 4 then some (inet4 (BitVec.ofNat 32 (BigEndian.toNat addr)))
  else if addr.length = 16 then
    let raw := BitVec.ofNat 128 (BigEndian.toNat addr)
    if h : IsIPv4Mapped raw then some (inet4 (raw.setWidth 32)) else some (inet6 raw h)
  else none

theorem isInet4_inet4 (raw : BitVec 32) : (inet4 raw).isInet4 = true := rfl

@[simp] theorem length_getAddress_inet4 (raw : BitVec 32) : (inet4 raw).getAddress.length = 4 := by
  simp [getAddress]

@[simp] theorem length_getAddress_inet6 (raw : BitVec 128) (h : ¬ IsIPv4Mapped raw) :
    (inet6 raw h).getAddress.length = 16 := by
  simp [getAddress]

theorem length_getAddress (a : InetAddress) :
    a.getAddress.length = if a.isInet4 then 4 else 16 := by
  cases a <;> simp [isInet4]

@[simp] theorem ofNat_toNat_getAddress (raw : BitVec 32) :
    BitVec.ofNat 32 (BigEndian.toNat (inet4 raw).getAddress) = raw := by
  have hlt := raw.isLt
  rw [getAddress, BigEndian.toNat_ofNat, Nat.mod_eq_of_lt (by omega), BitVec.ofNat_toNat,
    BitVec.setWidth_eq]

theorem getByAddress_getAddress (a : InetAddress) : getByAddress a.getAddress = some a := by
  cases a with
  | inet4 raw => simp [getByAddress]
  | inet6 raw h =>
    have hraw : BitVec.ofNat 128 (BigEndian.toNat (inet6 raw h).getAddress) = raw := by
      have hlt := raw.isLt
      rw [getAddress, BigEndian.toNat_ofNat, Nat.mod_eq_of_lt (by omega), BitVec.ofNat_toNat,
        BitVec.setWidth_eq]
    simp [getByAddress, hraw, h]

theorem getByAddress_four {addr : Bytes} (h : addr.length = 4) :
    getByAddress addr = some (inet4 (BitVec.ofNat 32 (BigEndian.toNat addr))) :=
  if_pos h

/-- Sixteen bytes always denote an address. -/
theorem getByAddress_sixteen_isSome {addr : Bytes} (h : addr.length = 16) :
    (getByAddress addr).isSome := by
  unfold getByAddress
  rw [if_neg (by omega), if_pos h]
  dsimp only
  split_ifs <;> rfl

end InetAddress

/-! ### `java.math.BigInteger`, as far as the netmask code uses it -/

namespace BigInteger

/-- `x.shiftRight(n)`; a negative count shifts left. -/
def shiftRight (x n : ℤ) : ℤ := if 0 ≤ n then x / 2 ^ n.toNat else x * 2 ^ (-n).toNat

def shiftLeft (x n : ℤ) : ℤ := shiftRight x (-n)

/-- The bits of the minimal two's-complement form, the sign bit left out. -/
def bitLength (x : ℤ) : ℕ :=
  let y := if x < 0 then (-x - 1).toNat else x.toNat
  if y = 0 then 0 else y.log2 + 1

/-- Big-endian two's complement in the minimal number of bytes. -/
def toByteArray (x : ℤ) : Bytes :=
  let length := bitLength x / 8 + 1
  BigEndian.ofNat length (x % 256 ^ length).toNat

theorem shiftRight_natCast (x : ℤ) (k : ℕ) : shiftRight x k = x / 2 ^ k := by
  rw [shiftRight, if_pos (by omega), Int.toNat_natCast]

theorem shiftRight_neg_natCast (x : ℤ) (k : ℕ) : shiftRight x (-k) = x * 2 ^ k := by
  rcases Nat.eq_zero_or_pos k with rfl | hk
  · simp [shiftRight]
  · rw [shiftRight, if_neg (by omega), neg_neg, Int.toNat_natCast]

/-- Shifting the all-ones mask out and back clears its low bits; a prefix longer than
the address clears none. -/
theorem shiftLeft_shiftRight_neg_one (cidr : ℕ) :
    shiftLeft (shiftRight (-1) (128 - cidr)) (128 - cidr) = -(2 ^ (128 - cidr) : ℕ) := by
  rcases Nat.lt_or_ge 128 cidr with h | h
  · obtain ⟨m, rfl⟩ : ∃ m, cidr = 128 + m := ⟨cidr - 128, by omega⟩
    have hm : (128 - ((128 + m : ℕ) : ℤ)) = -(m : ℤ) := by push_cast; ring
    rw [hm, shiftLeft, shiftRight_neg_natCast, neg_neg, shiftRight_natCast,
      Int.mul_ediv_cancel _ (by positivity)]
    simp
  · have hk : (128 - (cidr : ℤ)) = ((128 - cidr : ℕ) : ℤ) := by omega
    rw [hk, shiftLeft, shiftRight_natCast, shiftRight_neg_natCast]
    generalize 128 - cidr = k
    have hone : (-1 : ℤ) / 2 ^ k = -1 := by
      have hpos : (1 : ℤ) ≤ 2 ^ k := one_le_pow₀ (by norm_num)
      rw [Int.ediv_eq_iff_of_pos (by omega)]
      constructor <;> nlinarith
    rw [hone]
    push_cast
    ring

theorem bitLength_neg_two_pow (k : ℕ) : bitLength (-(2 ^ k : ℕ)) = k := by
  have hpos : 0 < 2 ^ k := by positivity
  have hy : (- -((2 ^ k : ℕ) : ℤ) - 1).toNat = 2 ^ k - 1 := by omega
  have hneg : -((2 ^ k : ℕ) : ℤ) < 0 := by omega
  simp only [bitLength, if_pos hneg, hy]
  rcases Nat.eq_zero_or_pos k with rfl | hk
  · rfl
  · have hge : 2 ≤ 2 ^ k := by
      calc 2 = 2 ^ 1 := rfl
        _ ≤ 2 ^ k := Nat.pow_le_pow_right (by omega) hk
    have hlog : (2 ^ k - 1).log2 = k - 1 := by
      rw [Nat.log2_eq_iff (by omega)]
      have hs : 2 ^ k = 2 * 2 ^ (k - 1) := by rw [← pow_succ', Nat.sub_add_cancel hk]
      have hp : 0 < 2 ^ (k - 1) := by positivity
      rw [Nat.sub_add_cancel hk]
      omega
    rw [if_neg (by omega), hlog]
    omega

theorem ofNat_mul_pow (q y : ℕ) : BigEndian.ofNat q (256 ^ q * y) = List.replicate q 0 := by
  rw [← BigEndian.ofNat_mod q _ q le_rfl, Nat.mul_mod_right]
  induction q with
  | zero => rfl
  | succ q ih => simp [BigEndian.ofNat, List.replicate_succ, ih]

/-- A power of two, negated: one byte with its `k % 8` low bits clear, then zeros. -/
theorem toByteArray_neg_two_pow (k : ℕ) :
    toByteArray (-(2 ^ k : ℕ)) =
      BitVec.ofNat 8 (256 - 2 ^ (k % 8)) :: List.replicate (k / 8) 0 := by
  have hr : 2 ^ (k % 8) ≤ 256 := by
    calc 2 ^ (k % 8) ≤ 2 ^ 8 := Nat.pow_le_pow_right (by omega) (by omega)
      _ = 256 := rfl
  have hr0 : 0 < 2 ^ (k % 8) := by positivity
  have hk : 2 ^ k = 256 ^ (k / 8) * 2 ^ (k % 8) := by
    rw [BigEndian.pow_eq_two_pow, ← pow_add, Nat.div_add_mod]
  have hmod : (-((2 ^ k : ℕ) : ℤ) % 256 ^ (k / 8 + 1)).toNat =
      256 ^ (k / 8) * (256 - 2 ^ (k % 8)) := by
    have hq : 0 < 256 ^ (k / 8) := by positivity
    have e : (-((2 ^ k : ℕ) : ℤ)) =
        ((256 ^ (k / 8) * (256 - 2 ^ (k % 8)) : ℕ) : ℤ) + 256 ^ (k / 8 + 1) * (-1) := by
      rw [hk]
      push_cast [Nat.cast_sub hr]
      ring
    have hlt : 256 ^ (k / 8) * (256 - 2 ^ (k % 8)) < 256 ^ (k / 8 + 1) := by
      rw [pow_succ]
      exact Nat.mul_lt_mul_of_pos_left (by omega) hq
    rw [e, Int.add_mul_emod_self_left, Int.emod_eq_of_lt (by positivity) (by exact_mod_cast hlt),
      Int.toNat_natCast]
  unfold toByteArray
  rw [bitLength_neg_two_pow]
  dsimp only
  rw [hmod, BigEndian.ofNat, Nat.mul_div_cancel_left _ (by positivity), ofNat_mul_pow]

end BigInteger

/-! ### `InetAddressUtils` -/

def broadcastMacAddress : BitVec 64 := 0xffffffffffff

/-- The netmask of a prefix length. A prefix length is a port of an
`InetSocketAddress`, hence not negative, so the shifted mask never has more than
sixteen bytes. -/
def addressToNetmask (address : InetAddress) (cidr : ℕ) : Bytes :=
  match address with
  | .inet4 _ =>
    let subnetLength := shiftCount (32 - cidr)
    BigEndian.ofNat 4 (((BitVec.allOnes 32).sshiftRight subnetLength) <<< subnetLength).toNat
  | .inet6 _ _ =>
    if cidr = 0 then List.replicate 16 0
    else
      let subnetLength : ℤ := 128 - cidr
      let shiftedAddress := BigInteger.toByteArray
        (BigInteger.shiftLeft (BigInteger.shiftRight (-1) subnetLength) subnetLength)
      if shiftedAddress.length = 16 then shiftedAddress
      -- the padding repeats the first byte of the mask, not `0xff`
      else List.replicate (16 - shiftedAddress.length) (shiftedAddress.headD 0) ++ shiftedAddress

/-- The network prefix of an address; `none` stands for `null`. -/
def addressToRouteNo0Route (address : InetAddress) (cidr : ℕ) : Option InetAddress :=
  InetAddress.getByAddress
    (List.zipWith (· &&& ·) address.getAddress (addressToNetmask address cidr))

def addressToRoute (inetAddress : InetAddress) (i : ℕ) : Option InetAddress :=
  if i = 0 then
    match inetAddress with
    | .inet4 _ => InetAddress.getByAddress (List.replicate 4 0)
    | .inet6 _ _ => InetAddress.getByAddress (List.replicate 16 0)
  else addressToRouteNo0Route inetAddress i

/-- The solicited-node multicast MAC; `0` for an address that is not IPv6. -/
def ipv6ToMulticastAddress (inetAddress : InetAddress) : BitVec 64 :=
  let address := inetAddress.getAddress
  if address.length ≠ 16 then 0
  else BitVec.ofNat 64 (BigEndian.toNat
    [0, 0, 51, 51, 0xff, address.getD 13 0, address.getD 14 0, address.getD 15 0])

theorem netmask_inet6 {raw : BitVec 128} {h : ¬ IsIPv4Mapped raw} {cidr : ℕ} (hc : cidr ≠ 0) :
    addressToNetmask (.inet6 raw h) cidr =
      List.replicate (16 - (128 - cidr) / 8) (BitVec.ofNat 8 (256 - 2 ^ ((128 - cidr) % 8))) ++
        List.replicate ((128 - cidr) / 8) 0 := by
  simp only [addressToNetmask, if_neg hc, BigInteger.shiftLeft_shiftRight_neg_one,
    BigInteger.toByteArray_neg_two_pow, List.length_cons, List.length_replicate, List.headD_cons]
  obtain ⟨k, hk⟩ : ∃ k, 128 - cidr = k := ⟨_, rfl⟩
  rw [hk]
  split_ifs with h16
  · have h1 : 16 - k / 8 = 1 := by omega
    simp [h1]
  · have h1 : 16 - k / 8 = (16 - (k / 8 + 1)) + 1 := by omega
    rw [h1, List.replicate_succ']
    simp

@[simp] theorem length_netmask_inet6 (raw : BitVec 128) (h : ¬ IsIPv4Mapped raw) (cidr : ℕ) :
    (addressToNetmask (.inet6 raw h) cidr).length = 16 := by
  rcases Nat.eq_zero_or_pos cidr with rfl | hc
  · simp [addressToNetmask]
  · rw [netmask_inet6 (by omega)]
    simp
    omega

@[simp] theorem length_netmask_inet4 (raw : BitVec 32) (cidr : ℕ) :
    (addressToNetmask (.inet4 raw) cidr).length = 4 := by
  simp [addressToNetmask]

/-! ### A prefix keeps the family of its address -/

theorem isIPv4Mapped_iff {l : Bytes} (h : l.length = 16) :
    IsIPv4Mapped (BitVec.ofNat 128 (BigEndian.toNat l)) ↔
      l.take 12 = [0, 0, 0, 0, 0, 0, 0, 0, 0, 0, 0xff, 0xff] := by
  have hlt : BigEndian.toNat l < 2 ^ 128 := by
    have := BigEndian.toNat_lt l
    rwa [h] at this
  have hsplit : BigEndian.toNat l / 256 ^ 4 = BigEndian.toNat (l.take 12) := by
    have hd := BigEndian.toNat_lt (l.drop 12)
    have hl : (l.drop 12).length = 4 := by simp [h]
    rw [hl] at hd
    conv_lhs => rw [← List.take_append_drop 12 l]
    rw [BigEndian.toNat_append, hl, Nat.add_comm, Nat.add_mul_div_right _ _ (by positivity),
      Nat.div_eq_of_lt hd, Nat.zero_add]
  unfold IsIPv4Mapped
  rw [BitVec.toNat_ofNat, Nat.mod_eq_of_lt hlt, hsplit]
  constructor
  · intro hv
    have hlen : (l.take 12).length = 12 := by simp [h]
    rw [← BigEndian.ofNat_toNat (l.take 12), hlen, hv]
    decide
  · intro hv
    rw [hv]
    decide

/-- Sixteen bytes that do not start with zero are those of an IPv6 address. -/
theorem InetAddress.getAddress_of_getByAddress {l : Bytes} {a : InetAddress} (h : l.length = 16)
    (hfirst : l.getD 0 0 ≠ 0) (ha : getByAddress l = some a) : a.getAddress = l := by
  have hmapped : ¬ IsIPv4Mapped (BitVec.ofNat 128 (BigEndian.toNat l)) := by
    rw [isIPv4Mapped_iff h]
    intro htake
    apply hfirst
    rw [← Bytes.getD_take (show 0 < 12 by omega), htake]
    rfl
  have hlt := BigEndian.toNat_lt l
  have hround := BigEndian.ofNat_toNat l
  rw [h] at hlt hround
  rw [getByAddress, if_neg (by omega), if_pos h, dif_neg hmapped] at ha
  cases ha
  rw [getAddress, BitVec.toNat_ofNat, Nat.mod_eq_of_lt (by omega), hround]

theorem eq_ones_of_and_eq_ones {x y : Byte} (h : x &&& y = BitVec.allOnes 8) :
    y = BitVec.allOnes 8 := by
  apply BitVec.eq_of_getLsbD_eq
  intro i hi
  have hbit := congrArg (fun z => z.getLsbD i) h
  simp only [BitVec.getLsbD_and, BitVec.getLsbD_allOnes, hi, decide_true, Bool.and_eq_true] at hbit
  simp only [hbit.2, BitVec.getLsbD_allOnes, hi, decide_true]

theorem zipWith_and_ones (l : Bytes) :
    List.zipWith (· &&& ·) l (List.replicate l.length (BitVec.allOnes 8)) = l := by
  induction l with
  | nil => rfl
  | cons b l ih =>
    simp only [List.length_cons, List.replicate_succ, List.zipWith_cons_cons, ih,
      BitVec.and_allOnes]

/-- A masked address can only look IPv4-mapped if the mask kept all of its first
twelve bytes, and then the address itself was mapped. -/
theorem not_isIPv4Mapped_masked {raw : BitVec 128} (h : ¬ IsIPv4Mapped raw) (cidr : ℕ) :
    ¬ IsIPv4Mapped (BitVec.ofNat 128 (BigEndian.toNat (List.zipWith (· &&& ·)
      (InetAddress.inet6 raw h).getAddress (addressToNetmask (.inet6 raw h) cidr)))) := by
  have hA : (InetAddress.inet6 raw h).getAddress.length = 16 := by simp
  have hraw : BitVec.ofNat 128 (BigEndian.toNat (InetAddress.inet6 raw h).getAddress) = raw := by
    have hlt := raw.isLt
    rw [InetAddress.getAddress, BigEndian.toNat_ofNat, Nat.mod_eq_of_lt (by omega),
      BitVec.ofNat_toNat, BitVec.setWidth_eq]
  rw [isIPv4Mapped_iff (by simp), List.take_zipWith]
  intro hmapped
  rcases Nat.eq_zero_or_pos cidr with rfl | hc
  · have h11 := congrArg (fun l => l.getD 11 0) hmapped
    simp [addressToNetmask, List.getD_eq_getElem?_getD] at h11
  · rw [netmask_inet6 (by omega)] at hmapped
    obtain ⟨q, hq⟩ : ∃ q, (128 - cidr) / 8 = q := ⟨_, rfl⟩
    obtain ⟨b, hb⟩ : ∃ b, BitVec.ofNat 8 (256 - 2 ^ ((128 - cidr) % 8)) = b := ⟨_, rfl⟩
    rw [hq, hb] at hmapped
    have hq16 : q < 16 := by omega
    have h11 := congrArg (fun l => l.getD 11 0) hmapped
    -- byte 11 of the mask decides: it is `b` before position `16 - q` and zero after it
    have hkeep : 11 < 16 - q ∧ b = BitVec.allOnes 8 := by
      by_cases hlt : 11 < 16 - q
      · refine ⟨hlt, ?_⟩
        have : (InetAddress.inet6 raw h).getAddress.getD 11 0 &&& b = BitVec.allOnes 8 := by
          simpa [List.getD_eq_getElem?_getD, List.getElem?_zipWith, List.getElem?_append, hlt,
            List.getElem?_replicate, hA] using h11
        exact eq_ones_of_and_eq_ones this
      · exfalso
        have hlt' : 11 - (16 - q) < q := by omega
        simp [List.getD_eq_getElem?_getD, List.getElem?_zipWith, List.getElem?_append, hlt,
          hA, hlt'] at h11
    have htake : List.take 12 (List.replicate (16 - q) b ++ List.replicate q 0) =
        List.replicate (List.take 12 (InetAddress.inet6 raw h).getAddress).length
          (BitVec.allOnes 8) := by
      have h12 : min 12 (16 - q) = 12 := by omega
      have h0 : 12 - (16 - q) = 0 := by omega
      simp [List.take_append, hA, h12, h0, hkeep.2]
    rw [htake, zipWith_and_ones, ← isIPv4Mapped_iff hA, hraw] at hmapped
    exact h hmapped

theorem addressToRouteNo0Route_inet6_eq (raw : BitVec 128) (h : ¬ IsIPv4Mapped raw) (cidr : ℕ) :
    addressToRouteNo0Route (.inet6 raw h) cidr =
      some (.inet6 _ (not_isIPv4Mapped_masked h cidr)) := by
  have hlen : (List.zipWith (· &&& ·) (InetAddress.inet6 raw h).getAddress
      (addressToNetmask (.inet6 raw h) cidr)).length = 16 := by simp
  unfold addressToRouteNo0Route InetAddress.getByAddress
  rw [if_neg (by omega), if_pos hlen]
  exact dif_neg (not_isIPv4Mapped_masked h cidr)

theorem addressToRouteNo0Route_inet6 (raw : BitVec 128) (h : ¬ IsIPv4Mapped raw) (cidr : ℕ) :
    ∃ raw' h', addressToRouteNo0Route (.inet6 raw h) cidr = some (.inet6 raw' h') :=
  ⟨_, _, addressToRouteNo0Route_inet6_eq raw h cidr⟩

/-- The IPv4 mask of a prefix length as one word. -/
def prefixMask (cidr : ℕ) : BitVec 32 :=
  ((BitVec.allOnes 32).sshiftRight (shiftCount (32 - cidr))) <<< shiftCount (32 - cidr)

theorem addressToRouteNo0Route_inet4 (raw : BitVec 32) (cidr : ℕ) :
    addressToRouteNo0Route (.inet4 raw) cidr = some (.inet4 (raw &&& prefixMask cidr)) := by
  unfold addressToRouteNo0Route
  rw [InetAddress.getByAddress_four (by simp)]
  simp only [InetAddress.getAddress, addressToNetmask, BigEndian.zipWith_and_ofNat,
    BigEndian.toNat_ofNat]
  congr 2
  apply BitVec.eq_of_toNat_eq
  have hlt : raw.toNat &&& (prefixMask cidr).toNat < 2 ^ 32 :=
    Nat.lt_of_le_of_lt Nat.and_le_left raw.isLt
  rw [BitVec.toNat_ofNat, BitVec.toNat_and]
  exact (Nat.mod_mod_of_dvd _ (by decide)).trans (Nat.mod_eq_of_lt hlt)

/-- Every netmask has its top bit, also the one for prefix length zero. -/
theorem getElem_prefixMask (cidr : ℕ) : (prefixMask cidr)[31] = true := by
  have hk : shiftCount (32 - cidr) ≤ 31 := by
    unfold shiftCount
    omega
  simp [prefixMask, BitVec.getElem_sshiftRight, hk]

/-- Addresses that differ in the top bit are in no common network. -/
theorem addressToRouteNo0Route_flip (raw : BitVec 32) (cidr : ℕ) :
    addressToRouteNo0Route (.inet4 raw) cidr ≠
      addressToRouteNo0Route (.inet4 (raw ^^^ 0x80000000)) cidr := by
  rw [addressToRouteNo0Route_inet4, addressToRouteNo0Route_inet4]
  intro h
  have hraw : raw &&& prefixMask cidr = (raw ^^^ 0x80000000) &&& prefixMask cidr := by
    simpa using h
  have hbit := congrArg (fun x : BitVec 32 => x[31]) hraw
  simp [getElem_prefixMask] at hbit

/-- The IPv4 default prefix. -/
theorem addressToRoute_inet4_zero (raw : BitVec 32) :
    addressToRoute (.inet4 raw) 0 = some (.inet4 0) := by
  have h : InetAddress.getByAddress (List.replicate 4 0) = some (.inet4 0) := by decide
  simpa [addressToRoute] using h

theorem addressToRoute_inet6_zero (raw : BitVec 128) (h : ¬ IsIPv4Mapped raw) :
    addressToRoute (.inet6 raw h) 0 = some (.inet6 0 (by decide)) := by
  have hz : InetAddress.getByAddress (List.replicate 16 0) = some (.inet6 0 (by decide)) := by
    decide
  simpa [addressToRoute] using hz

/-- A network prefix always exists and is of the family of its address. -/
theorem addressToRoute_family (a : InetAddress) (cidr : ℕ) :
    ∃ r, addressToRoute a cidr = some r ∧ r.isInet4 = a.isInet4 := by
  rcases Nat.eq_zero_or_pos cidr with rfl | hc
  · cases a with
    | inet4 raw => exact ⟨_, addressToRoute_inet4_zero raw, rfl⟩
    | inet6 raw h => exact ⟨_, addressToRoute_inet6_zero raw h, rfl⟩
  · unfold addressToRoute
    rw [if_neg (by omega)]
    cases a with
    | inet4 raw => exact ⟨_, addressToRouteNo0Route_inet4 raw cidr, rfl⟩
    | inet6 raw h =>
      obtain ⟨raw', h', he⟩ := addressToRouteNo0Route_inet6 raw h cidr
      exact ⟨_, he, rfl⟩

end XnetZt
