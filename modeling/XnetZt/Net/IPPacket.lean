import XnetZt.Lib.OnesComplement
import XnetZt.Net.InetAddress

/-!
# IP packets

First the frames that the node is handed and the functions of `IPPacketUtils`. Then,
independent of the code, the fields of an IPv4 header and what it means for the two
checksums of a packet to be valid: the one over the header, and the one over a TCP or
UDP segment and its pseudo-header.
-/

namespace XnetZt

/-- The arguments of `Node.processVirtualNetworkFrame`. -/
structure Frame where
  networkId : BitVec 64
  srcMac : BitVec 64
  destMac : BitVec 64
  etherType : ℕ
  vlanId : ℕ := 0
  frameData : Bytes
  deriving DecidableEq

def arpPacket : ℕ := 2054

def ipv4Packet : ℕ := 2048

def ipv6Packet : ℕ := 34525

inductive ResultCode
  | resultOk
  | failure
  deriving DecidableEq

namespace IPPacketUtils

open OnesComplement

/-- The shift is on a signed byte, so a version nibble of 8 and above comes out negative. -/
def getIPVersion (bArr : Bytes) : Except JavaException Byte := do
  let b ← bArr.read 0
  return b.sshiftRight 4

/-- The address at one offset of an IPv4 header or another of an IPv6 header; `none`
stands for `null`. -/
def addressAt (offset4 offset6 : ℕ) (bArr : Bytes) :
    Except JavaException (Option InetAddress) := do
  let iPVersion ← getIPVersion bArr
  if iPVersion = 4 then
    let raw ← Bytes.arraycopy bArr offset4 (.zeros 4) 0 4
    return InetAddress.getByAddress raw
  else if iPVersion = 6 then
    let raw ← Bytes.arraycopy bArr offset6 (.zeros 16) 0 16
    return InetAddress.getByAddress raw
  else return none

def getSourceIP (bArr : Bytes) : Except JavaException (Option InetAddress) := addressAt 12 8 bArr

def getDestIP (bArr : Bytes) : Except JavaException (Option InetAddress) := addressAt 16 24 bArr

/-- One addition of `calculateChecksum`: a carry out of 16 bits is added back as one. -/
def addWord (j word : ℕ) : ℕ :=
  let j := j + word
  if 65536 ≤ j then j % 65536 + 1 else j

/-- The loop over the `remaining` bytes from `i` on. -/
def sumBytes (bArr : Bytes) : (remaining i j : ℕ) → Except JavaException ℕ
  | 0, _, j => return j
  | 1, i, j => do
    let b ← bArr.read i
    return addWord j (256 * b.toNat)
  | remaining + 2, i, j => do
    let hi ← bArr.read i
    let lo ← bArr.read (i + 1)
    sumBytes bArr remaining (i + 2) (addWord j (256 * hi.toNat + lo.toNat))

def calculateChecksum (bArr : Bytes) (j i i2 : ℕ) : Except JavaException ℕ := do
  let j ← sumBytes bArr (i2 - i) i j
  return 65535 - j % 65536

theorem sumBytes_eq_ok {bArr : Bytes} (remaining i j : ℕ) (h : i + remaining ≤ bArr.length) :
    ∃ r, sumBytes bArr remaining i j = .ok r := by
  induction remaining using Nat.strong_induction_on generalizing i j with
  | _ remaining ih =>
    match remaining with
    | 0 => exact ⟨j, rfl⟩
    | 1 => exact ⟨_, by rw [sumBytes, Bytes.read_eq_ok (by omega)]; rfl⟩
    | remaining + 2 =>
      rw [sumBytes, Bytes.read_eq_ok (by omega), ok_bind, Bytes.read_eq_ok (by omega), ok_bind]
      exact ih remaining (by omega) _ _ (by omega)

theorem calculateChecksum_eq_ok {bArr : Bytes} {i i2 : ℕ} (j : ℕ) (hi : i ≤ i2)
    (h : i2 ≤ bArr.length) : ∃ r, calculateChecksum bArr j i i2 = .ok r := by
  obtain ⟨r, hr⟩ := sumBytes_eq_ok (i2 - i) i j (show i + (i2 - i) ≤ bArr.length by omega)
  exact ⟨_, by rw [calculateChecksum, hr]; rfl⟩

/-- The version is in the first byte. -/
theorem getIPVersion_congr {bArr bArr' : Bytes} (h : 0 < bArr.length) (h' : 0 < bArr'.length)
    (hfirst : bArr.getD 0 0 = bArr'.getD 0 0) : getIPVersion bArr = getIPVersion bArr' := by
  rw [getIPVersion, getIPVersion, Bytes.read_eq_ok h, Bytes.read_eq_ok h', hfirst]

theorem addressAt_four {bArr : Bytes} {offset4 offset6 : ℕ} (hv : getIPVersion bArr = .ok 4)
    (h : offset4 + 4 ≤ bArr.length) :
    addressAt offset4 offset6 bArr =
      .ok (some (.inet4 (BitVec.ofNat 32 (BigEndian.toNat (bArr.slice offset4 4))))) := by
  have hlen := Bytes.length_slice h
  simp [addressAt, hv, Bytes.arraycopy_new h, InetAddress.getByAddress_four hlen]

theorem addressAt_four_short {bArr : Bytes} {offset4 offset6 : ℕ}
    (hv : getIPVersion bArr = .ok 4) (h : bArr.length < offset4 + 4) :
    addressAt offset4 offset6 bArr = .error .arrayIndexOutOfBounds := by
  simp [addressAt, hv, Bytes.arraycopy_eq_error h]

theorem addressAt_six {bArr : Bytes} {offset4 offset6 : ℕ} (hv : getIPVersion bArr = .ok 6)
    (h : offset6 + 16 ≤ bArr.length) :
    addressAt offset4 offset6 bArr = .ok (InetAddress.getByAddress (bArr.slice offset6 16)) := by
  simp [addressAt, hv, Bytes.arraycopy_new h]

theorem addressAt_six_short {bArr : Bytes} {offset4 offset6 : ℕ} (hv : getIPVersion bArr = .ok 6)
    (h : bArr.length < offset6 + 16) :
    addressAt offset4 offset6 bArr = .error .arrayIndexOutOfBounds := by
  simp [addressAt, hv, Bytes.arraycopy_eq_error h]

/-! ### The checksum loop -/

theorem addWord_eq {j word : ℕ} (hj : j ≤ 65535) (hword : word ≤ 65535) :
    addWord j word = foldCarry (j + word) := by
  unfold addWord
  dsimp only
  split_ifs with hcarry
  · rw [foldCarry_eq _ (by omega)]
    omega
  · rw [foldCarry_of_lt (by omega)]

theorem sumBytes_eq {bArr : Bytes} (l rest : Bytes) (i j : ℕ) (hi : bArr.drop i = l ++ rest)
    (hj : j ≤ 65535) : sumBytes bArr l.length i j = .ok (foldCarry (j + wordSum l)) := by
  induction l using wordSum.induct generalizing i j with
  | case1 => simp [sumBytes, foldCarry_of_lt (show j < 65536 by omega)]
  | case2 b =>
    have hb := b.isLt
    obtain ⟨hread, -⟩ := Bytes.read_of_drop hi
    simp only [List.length_singleton, sumBytes, hread, ok_bind, wordSum]
    rw [addWord_eq hj (by omega)]
    rfl
  | case3 a b l ih =>
    have ha := a.isLt
    have hb := b.isLt
    obtain ⟨hread, hnext⟩ := Bytes.read_of_drop hi
    obtain ⟨hread', hlater⟩ := Bytes.read_of_drop hnext
    have hword : addWord j (256 * a.toNat + b.toNat) = _ := addWord_eq hj (by omega)
    simp only [List.length_cons, sumBytes, hread, hread', ok_bind, wordSum_cons_cons, hword]
    rw [ih (i + 2) _ hlater (foldCarry_le _), foldCarry_add, Nat.add_assoc]

/-- The checksum of the bytes from `i` up to `i2`. -/
theorem calculateChecksum_range {bArr : Bytes} {j i i2 : ℕ} (hj : j ≤ 65535) (hi : i ≤ i2)
    (hi2 : i2 ≤ bArr.length) :
    calculateChecksum bArr j i i2 =
      .ok (65535 - foldCarry (j + wordSum (bArr.slice i (i2 - i)))) := by
  have hle := foldCarry_le (j + wordSum (bArr.slice i (i2 - i)))
  have hlength : (bArr.slice i (i2 - i)).length = i2 - i := Bytes.length_slice (by omega)
  have hsplit : bArr.drop i = bArr.slice i (i2 - i) ++ (bArr.drop i).drop (i2 - i) :=
    (List.take_append_drop _ _).symm
  have hsum := sumBytes_eq _ _ i j hsplit hj
  rw [hlength] at hsum
  rw [calculateChecksum, hsum, ok_bind, Nat.mod_eq_of_lt (by omega)]
  rfl

/-- The checksum of a whole array. -/
theorem calculateChecksum_eq (bArr : Bytes) :
    calculateChecksum bArr 0 0 bArr.length = .ok (65535 - foldCarry (wordSum bArr)) := by
  rw [calculateChecksum_range (Nat.zero_le _) (Nat.zero_le _) le_rfl, Nat.sub_zero,
    Bytes.slice_all rfl, Nat.zero_add]

end IPPacketUtils

/-! ### The IPv4 header -/

namespace IPv4

open OnesComplement BigEndian

section Fields

variable (p : Bytes)

def version : ℕ := (p.getD 0 0).toNat / 16

/-- Four times the IHL nibble. -/
def headerLength : ℕ := (p.getD 0 0).toNat % 16 * 4

def totalLength : ℕ := word16 p 2

/-- The more-fragments flag and the fragment offset. -/
def fragmentBits : ℕ := word16 p 6 % 2 ^ 14

def protocol : ℕ := (p.getD 9 0).toNat

def source : Bytes := p.slice 12 4

def destination : Bytes := p.slice 16 4

/-- What the packet carries behind its header. -/
def segment : Bytes := (p.take (totalLength p)).drop (headerLength p)

def pseudoHeaderSum : ℕ :=
  wordSum (source p) + wordSum (destination p) + protocol p + (segment p).length

def HeaderChecksumValid : Prop := Verifies (wordSum (p.take (headerLength p)))

/-- A UDP checksum field of zero says that the sender computed none. -/
def NoChecksum : Prop := protocol p = 17 ∧ word16 (segment p) 6 = 0

def TransportChecksumValid : Prop :=
  NoChecksum p ∨ Verifies (pseudoHeaderSum p + wordSum (segment p))

/-- A well-formed, unfragmented TCP or UDP packet. -/
structure IsTransport : Prop where
  version : version p = 4
  headerLength : 20 ≤ headerLength p
  totalLength : totalLength p ≤ p.length
  unfragmented : fragmentBits p = 0
  transport : (protocol p = 6 ∧ 20 ≤ (segment p).length) ∨
    (protocol p = 17 ∧ 8 ≤ (segment p).length ∧ word16 (segment p) 4 = (segment p).length)

end Fields

instance (p : Bytes) : Decidable (NoChecksum p) := inferInstanceAs (Decidable (_ ∧ _))

instance (p : Bytes) : Decidable (HeaderChecksumValid p) :=
  inferInstanceAs (Decidable (Verifies _))

instance (p : Bytes) : Decidable (TransportChecksumValid p) :=
  inferInstanceAs (Decidable (_ ∨ _))

theorem headerLength_take {p : Bytes} {n : ℕ} (hn : 0 < n) :
    headerLength (p.take n) = headerLength p := by
  simp [headerLength, List.getD_eq_getElem?_getD, hn]

/-- A packet cut at its checksum and its source address: ten bytes, the checksum, the
source, the rest. -/
def assemble (pre : Bytes) (c0 c1 : Byte) (src post : Bytes) : Bytes :=
  pre ++ c0 :: c1 :: (src ++ post)

theorem exists_assemble {p : Bytes} (h : 16 ≤ p.length) :
    ∃ pre c0 c1 src post, p = assemble pre c0 c1 src post ∧ pre.length = 10 ∧ src.length = 4 := by
  refine ⟨p.take 10, p.getD 10 0, p.getD 11 0, p.slice 12 4, p.drop 16, ?_, by simp; omega,
    Bytes.length_slice (by omega)⟩
  have h16 : p.slice 12 4 ++ p.drop 16 = p.drop 12 := by
    rw [Bytes.slice, show p.drop 16 = (p.drop 12).drop 4 by simp, List.take_append_drop]
  have h10 : p.getD 10 0 :: p.getD 11 0 :: p.drop 12 = p.drop 10 := by
    rw [List.drop_eq_getElem_cons (show 10 < p.length by omega),
      List.drop_eq_getElem_cons (show 11 < p.length by omega)]
    simp [show 10 < p.length by omega, show 11 < p.length by omega]
  rw [assemble, h16, h10, List.take_append_drop]

section Assemble

variable {pre src post : Bytes} {c0 c1 : Byte}

theorem length_assemble (hpre : pre.length = 10) (hsrc : src.length = 4) :
    (assemble pre c0 c1 src post).length = 16 + post.length := by
  simp [assemble, hpre, hsrc]
  omega

theorem getD_assemble (hpre : pre.length = 10) {i : ℕ} (hi : i < 10) :
    (assemble pre c0 c1 src post).getD i 0 = pre.getD i 0 :=
  List.getD_append _ _ _ _ (by omega)

theorem word16_assemble (hpre : pre.length = 10) {i : ℕ} (hi : i + 1 < 10) :
    word16 (assemble pre c0 c1 src post) i = word16 pre i := by
  simp only [word16, getD_assemble hpre hi, getD_assemble hpre (show i < 10 by omega)]

theorem headerLength_assemble (hpre : pre.length = 10) :
    headerLength (assemble pre c0 c1 src post) = headerLength pre := by
  rw [headerLength, getD_assemble hpre (by omega), headerLength]

theorem protocol_assemble (hpre : pre.length = 10) :
    protocol (assemble pre c0 c1 src post) = protocol pre := by
  rw [protocol, getD_assemble hpre (by omega), protocol]

theorem drop_assemble (hpre : pre.length = 10) (hsrc : src.length = 4) (n : ℕ) :
    (assemble pre c0 c1 src post).drop (16 + n) = post.drop n := by
  have h : 16 + n - pre.length = 6 + n - 2 + 1 + 1 := by omega
  rw [assemble, List.drop_append, List.drop_of_length_le (by omega), h]
  simp only [List.drop_succ_cons, List.nil_append, List.drop_append]
  rw [List.drop_of_length_le (by omega), List.nil_append]
  congr 1
  omega

theorem take_assemble (hpre : pre.length = 10) (hsrc : src.length = 4) (n : ℕ) :
    (assemble pre c0 c1 src post).take (16 + n) = assemble pre c0 c1 src (post.take n) := by
  have h : 16 + n - pre.length = 6 + n - 2 + 1 + 1 := by omega
  rw [assemble, List.take_append, List.take_of_length_le (by omega), h, assemble]
  simp only [List.take_succ_cons, List.take_append]
  rw [List.take_of_length_le (by omega)]
  congr 6
  omega

theorem source_assemble (hpre : pre.length = 10) (hsrc : src.length = 4) :
    source (assemble pre c0 c1 src post) = src := by
  have h : (assemble pre c0 c1 src post).drop 12 = src ++ post := by
    simp [assemble, List.drop_append, hpre]
  simp [source, Bytes.slice, h, hsrc]

theorem destination_assemble (hpre : pre.length = 10) (hsrc : src.length = 4) :
    destination (assemble pre c0 c1 src post) = post.take 4 := by
  have h : (assemble pre c0 c1 src post).drop 16 = post := drop_assemble hpre hsrc 0
  rw [destination, Bytes.slice, h]

theorem wordSum_assemble (hpre : pre.length = 10) (hsrc : src.length = 4) :
    wordSum (assemble pre c0 c1 src post) =
      wordSum pre + (256 * c0.toNat + c1.toNat) + (wordSum src + wordSum post) := by
  rw [assemble, wordSum_append _ (by rw [hpre]; decide), wordSum_cons_cons,
    wordSum_append _ (by rw [hsrc]; decide)]
  omega

/-- The segment lies behind the source address, so it does not depend on it. -/
theorem segment_assemble (hpre : pre.length = 10) (hsrc : src.length = 4)
    (hh : 16 ≤ headerLength pre) :
    segment (assemble pre c0 c1 src post) =
      (post.take (totalLength pre - 16)).drop (headerLength pre - 16) := by
  obtain ⟨k, hk⟩ : ∃ k, headerLength pre = 16 + k := ⟨headerLength pre - 16, by omega⟩
  rw [segment, headerLength_assemble hpre, totalLength, word16_assemble hpre (by omega), hk,
    ← totalLength, List.drop_take, drop_assemble hpre hsrc, List.drop_take]
  congr 1
  · omega
  · congr 1
    omega

theorem noChecksum_assemble (hpre : pre.length = 10) (hsrc : src.length = 4)
    (hh : 16 ≤ headerLength pre) :
    NoChecksum (assemble pre c0 c1 src post) ↔
      protocol pre = 17 ∧
        word16 ((post.take (totalLength pre - 16)).drop (headerLength pre - 16)) 6 = 0 := by
  rw [NoChecksum, protocol_assemble hpre, segment_assemble hpre hsrc hh]

/-- The part of the transport sum that does not depend on the source address. -/
def sumWithoutSource (pre post : Bytes) : ℕ :=
  let segment := (post.take (totalLength pre - 16)).drop (headerLength pre - 16)
  wordSum (post.take 4) + protocol pre + segment.length + wordSum segment

theorem transportChecksumValid_assemble (hpre : pre.length = 10) (hsrc : src.length = 4)
    (hh : 16 ≤ headerLength pre) :
    TransportChecksumValid (assemble pre c0 c1 src post) ↔
      NoChecksum (assemble pre c0 c1 src post) ∨
        Verifies (sumWithoutSource pre post + wordSum src) := by
  rw [TransportChecksumValid, pseudoHeaderSum, source_assemble hpre hsrc,
    destination_assemble hpre hsrc, protocol_assemble hpre, segment_assemble hpre hsrc hh,
    sumWithoutSource]
  ring_nf

end Assemble

end IPv4

end XnetZt
