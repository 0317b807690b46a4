import XnetZt.Service.NeighborPackets

/-!
# An exchange of ARP packets

The fields of an ARP packet for IPv4 over Ethernet, and the two functions of `ARPTable`
that write and read them, in terms of these fields. A request with its reply then enters
the address of each end in the table of the other, and touches no entry beside these two.
-/

namespace XnetZt

open BigEndian

/-! ### The fields -/

namespace ArpPacket

section Fields

variable (p : Bytes)

def opcode : ℕ := word16 p 6

def senderMac : Mac := BitVec.ofNat 64 (toNat (p.slice 8 6))

def senderAddress : InetAddress := .inet4 (BitVec.ofNat 32 (toNat (p.slice 14 4)))

def targetMac : Mac := BitVec.ofNat 64 (toNat (p.slice 18 6))

def targetAddress : InetAddress := .inet4 (BitVec.ofNat 32 (toNat (p.slice 24 4)))

/-- A field of six bytes holds a MAC of 48 bits. -/
theorem toNat_senderMac_lt : (senderMac p).toNat < 2 ^ 48 := by
  have hlt := toNat_lt (p.slice 8 6)
  have hle : 256 ^ (p.slice 8 6).length ≤ 256 ^ 6 := by
    apply Nat.pow_le_pow_right (by omega)
    simp [Bytes.slice]
  rw [senderMac, BitVec.toNat_ofNat]
  omega

theorem opcode_eq_one_iff : opcode p = 1 ↔ p.getD 6 0 = 0 ∧ p.getD 7 0 = 1 := by
  have hopcode : opcode p = 256 * (p.getD 6 0).toNat + (p.getD 7 0).toNat := rfl
  have hhigh : p.getD 6 0 = 0 ↔ (p.getD 6 0).toNat = 0 := BitVec.toNat_inj.symm
  have hlow : p.getD 7 0 = 1 ↔ (p.getD 7 0).toNat = 1 := BitVec.toNat_inj.symm
  rw [hopcode, hhigh, hlow]
  omega

end Fields

end ArpPacket

namespace ARPTable

/-- An ARP packet in one piece. -/
def packetOf (i : Byte) (j j2 : Mac) (a a2 : BitVec 32) : Bytes :=
  [0, 1, 8, 0, 6, 4, 0, i] ++ (longToBytes j).slice 2 6 ++ (InetAddress.inet4 a).getAddress ++
    (longToBytes j2).slice 2 6 ++ (InetAddress.inet4 a2).getAddress

theorem length_longToBytes (j : Mac) : (longToBytes j).length = 8 := length_ofNat _ _

theorem length_macBytes (j : Mac) : ((longToBytes j).slice 2 6).length = 6 :=
  Bytes.length_slice (by rw [length_longToBytes])

theorem getARPPacket_eq (i : Byte) (j j2 : Mac) (a a2 : BitVec 32) :
    getARPPacket i j j2 (.inet4 a) (.inet4 a2) = .ok (packetOf i j j2 a a2) := by
  have hj := length_longToBytes j
  have hj2 := length_longToBytes j2
  have hm := length_macBytes j
  have hm2 := length_macBytes j2
  have hslice : ∀ a : BitVec 32, (InetAddress.inet4 a).getAddress.slice 0 4 =
      (InetAddress.inet4 a).getAddress := fun a => Bytes.slice_all (by simp)
  unfold getARPPacket
  dsimp only
  rw [Bytes.arraycopy_eq_ok (by omega) (by simp), ok_bind,
    Bytes.splice_append (by simp)]
  rw [Bytes.arraycopy_eq_ok (by simp) (by simp [hm]), ok_bind, hslice,
    Bytes.splice_append (by simp [hm])]
  rw [Bytes.arraycopy_eq_ok (by omega) (by simp [hm]), ok_bind, Bytes.splice_append (by simp [hm])]
  rw [Bytes.arraycopy_eq_ok (by simp) (by simp [hm, hm2]), hslice,
    Bytes.splice_append (by simp [hm, hm2])]
  simp [packetOf, hm, hm2, Bytes.zeros]

/-- The six bytes of a MAC denote it. -/
theorem ofNat_toNat_macBytes {j : Mac} (h : j.toNat < 2 ^ 48) :
    BitVec.ofNat 64 (toNat ((longToBytes j).slice 2 6)) = j := by
  have hsplit : longToBytes j = (longToBytes j).take 2 ++ (longToBytes j).slice 2 6 := by
    have hdrop : (longToBytes j).slice 2 6 = (longToBytes j).drop 2 := by
      rw [Bytes.slice, List.take_of_length_le (by rw [List.length_drop, length_longToBytes])]
    rw [hdrop, List.take_append_drop]
  have hvalue : toNat (longToBytes j) = j.toNat := by
    have hlt := j.isLt
    rw [longToBytes, toNat_ofNat, Nat.mod_eq_of_lt (by omega)]
  have hlt := toNat_lt ((longToBytes j).slice 2 6)
  rw [hsplit, toNat_append, length_macBytes] at hvalue
  rw [length_macBytes] at hlt
  have hzero : toNat ((longToBytes j).take 2) = 0 := by
    by_contra hne
    have hone : 1 ≤ toNat ((longToBytes j).take 2) := Nat.one_le_iff_ne_zero.mpr hne
    have : 256 ^ 6 ≤ toNat ((longToBytes j).take 2) * 256 ^ 6 := Nat.le_mul_of_pos_left _ hone
    omega
  rw [hzero, Nat.zero_mul, Nat.zero_add] at hvalue
  rw [hvalue, BitVec.ofNat_toNat, BitVec.setWidth_eq]

section Packet

variable (i : Byte) (j j2 : Mac) (a a2 : BitVec 32)

theorem length_packetOf : (packetOf i j j2 a a2).length = 28 := by
  simp [packetOf, length_macBytes]

theorem getD_packetOf : (packetOf i j j2 a a2).getD 7 0 = i := by
  simp [packetOf]

theorem slice_packetOf_sender :
    (packetOf i j j2 a a2).slice 8 6 = (longToBytes j).slice 2 6 ∧
      (packetOf i j j2 a a2).slice 14 4 = (InetAddress.inet4 a).getAddress := by
  have hm := length_macBytes j
  constructor
  · have hcut : packetOf i j j2 a a2 = [0, 1, 8, 0, 6, 4, 0, i] ++ (longToBytes j).slice 2 6 ++
        ((InetAddress.inet4 a).getAddress ++ (longToBytes j2).slice 2 6 ++
          (InetAddress.inet4 a2).getAddress) := by
      simp [packetOf]
    rw [hcut, Bytes.slice_append (by simp) hm]
  · have hcut : packetOf i j j2 a a2 = ([0, 1, 8, 0, 6, 4, 0, i] ++ (longToBytes j).slice 2 6) ++
        (InetAddress.inet4 a).getAddress ++
        ((longToBytes j2).slice 2 6 ++ (InetAddress.inet4 a2).getAddress) := by
      simp [packetOf]
    rw [hcut, Bytes.slice_append (by simp [hm]) (by simp)]

theorem slice_packetOf_target :
    (packetOf i j j2 a a2).slice 18 6 = (longToBytes j2).slice 2 6 ∧
      (packetOf i j j2 a a2).slice 24 4 = (InetAddress.inet4 a2).getAddress := by
  have hm := length_macBytes j
  have hm2 := length_macBytes j2
  constructor
  · rw [packetOf, Bytes.slice_append (by simp [hm]) hm2]
  · have hcut : packetOf i j j2 a a2 = ([0, 1, 8, 0, 6, 4, 0, i] ++ (longToBytes j).slice 2 6 ++
        (InetAddress.inet4 a).getAddress ++ (longToBytes j2).slice 2 6) ++
        (InetAddress.inet4 a2).getAddress ++ [] := by
      simp [packetOf]
    rw [hcut, Bytes.slice_append (by simp [hm, hm2]) (by simp)]

end Packet

section Written

open ArpPacket

variable (i : Byte) {j j2 : Mac} (a a2 : BitVec 32)

/-- A MAC of 48 bits is what is read from the field it was written to. -/
theorem senderMac_packetOf (hj : j.toNat < 2 ^ 48) (j2 : Mac) :
    senderMac (packetOf i j j2 a a2) = j := by
  rw [senderMac, (slice_packetOf_sender ..).1, ofNat_toNat_macBytes hj]

theorem targetMac_packetOf (j : Mac) (hj2 : j2.toNat < 2 ^ 48) :
    targetMac (packetOf i j j2 a a2) = j2 := by
  rw [targetMac, (slice_packetOf_target ..).1, ofNat_toNat_macBytes hj2]

theorem senderAddress_packetOf (j j2 : Mac) :
    senderAddress (packetOf i j j2 a a2) = .inet4 a := by
  rw [senderAddress, (slice_packetOf_sender ..).2, InetAddress.ofNat_toNat_getAddress]

theorem targetAddress_packetOf (j j2 : Mac) :
    targetAddress (packetOf i j j2 a a2) = .inet4 a2 := by
  rw [targetAddress, (slice_packetOf_target ..).2, InetAddress.ofNat_toNat_getAddress]

theorem opcode_packetOf (j j2 : Mac) : opcode (packetOf i j j2 a a2) = i.toNat := by
  simp [opcode, word16, packetOf]

end Written

/-! ### Reading a packet -/

section Process

variable {p : Bytes}

/-- Six bytes at the end of eight denote the same number. -/
theorem toNat_splice_two (b : Bytes) (h : b.length = 6) :
    toNat ((Bytes.zeros 8).splice 2 b) = toNat b := by
  have hsplice : (Bytes.zeros 8).splice 2 b = [0, 0] ++ b := by
    simp [Bytes.splice, Bytes.zeros, h]
  rw [hsplice, toNat_append]
  simp [BigEndian.toNat]

open ArpPacket in
theorem processARPPacket_eq_ok (t : NeighborTable) (now : ℕ) (h : 28 ≤ p.length) :
    processARPPacket t now p =
      .ok (setAddressIfKnown (setAddressIfKnown t now (senderMac p) (some (senderAddress p))) now
          (targetMac p) (some (targetAddress p)),
        if p.getD 7 0 = request then some ⟨senderMac p, some (senderAddress p)⟩ else none) := by
  have hslice : ∀ i n, i + n ≤ 28 → (p.slice i n).length = n :=
    fun i n hi => Bytes.length_slice (by omega)
  unfold processARPPacket
  rw [Bytes.arraycopy_eq_ok (by omega) (by simp), ok_bind, Bytes.arraycopy_new (by omega), ok_bind,
    Bytes.arraycopy_eq_ok (by omega) (by simp), ok_bind, Bytes.arraycopy_new (by omega), ok_bind]
  dsimp only
  rw [Bytes.read_eq_ok (by omega), ok_bind, toNat_splice_two _ (hslice 8 6 (by omega)),
    toNat_splice_two _ (hslice 18 6 (by omega)),
    InetAddress.getByAddress_four (hslice 14 4 (by omega)),
    InetAddress.getByAddress_four (hslice 24 4 (by omega))]
  split_ifs <;> rfl

/-- A packet that is too short raises an exception before the table is touched. -/
theorem processARPPacket_eq_error (t : NeighborTable) (now : ℕ) (h : p.length < 28) :
    processARPPacket t now p = .error .arrayIndexOutOfBounds := by
  unfold processARPPacket
  by_cases h14 : p.length < 14
  · rw [Bytes.arraycopy_eq_error h14, error_bind]
  rw [Bytes.arraycopy_eq_ok (by omega) (by simp), ok_bind]
  by_cases h18 : p.length < 18
  · rw [Bytes.arraycopy_eq_error h18, error_bind]
  rw [Bytes.arraycopy_new (by omega), ok_bind]
  by_cases h24 : p.length < 24
  · rw [Bytes.arraycopy_eq_error h24, error_bind]
  rw [Bytes.arraycopy_eq_ok (by omega) (by simp), ok_bind, Bytes.arraycopy_eq_error h, error_bind]

end Process

/-! ### Request and reply -/

/-- A node asks for `b`, and the peer that has it answers. The result is what the peer read
from the request, and the tables of the node and of the peer. -/
def exchange (node peer : NeighborTable) (now now' : ℕ) (ma mb : Mac) (a b : InetAddress) :
    Except JavaException (Option ARPReplyData × NeighborTable × NeighborTable) := do
  let packetData ← getRequestPacket ma a b
  let (peer, d) ← processARPPacket peer now packetData
  match d with
  | some ⟨destMac, some destAddress⟩ =>
    let packetData ← getReplyPacket mb b destMac destAddress
    let (node, _) ← processARPPacket node now' packetData
    return (d, node, peer)
  | _ => return (d, node, peer)

/-- The table has an entry with this MAC for an address. -/
structure Maps (t : NeighborTable) (a : InetAddress) (m : Mac) : Prop where
  mac : t.inetAddressToMacAddress.lookup a = some m
  entry : (t.ipEntriesMap.lookup a).map (·.mac) = some m

/-- Both maps with addresses as keys have the entry for `k` that they had. -/
structure SameAt (t t' : NeighborTable) (k : InetAddress) : Prop where
  mac : t'.inetAddressToMacAddress.lookup k = t.inetAddressToMacAddress.lookup k
  entry : t'.ipEntriesMap.lookup k = t.ipEntriesMap.lookup k

section SetAddress

variable (t : NeighborTable) (now : ℕ) {a k : InetAddress} {m : Mac}

theorem setAddressIfKnown_of_ne (hm : m ≠ 0) :
    setAddressIfKnown t now m (some a) = t.setAddress now a m :=
  if_pos hm

theorem setAddressIfKnown_zero : setAddressIfKnown t now 0 (some a) = t := by
  simp [setAddressIfKnown]

theorem maps_setAddress : Maps (t.setAddress now a m) a m := by
  constructor <;> simp

theorem sameAt_setAddress (hk : k ≠ a) : SameAt t (t.setAddress now a m) k := by
  constructor <;> simp [hk]

end SetAddress

theorem Maps.of_sameAt {t t' : NeighborTable} {a : InetAddress} {m : Mac} (h : Maps t a m)
    (hsame : SameAt t t' a) : Maps t' a m :=
  ⟨hsame.mac.trans h.mac, (congrArg _ hsame.entry).trans h.entry⟩

theorem SameAt.trans {t t' t'' : NeighborTable} {k : InetAddress} (h : SameAt t t' k)
    (h' : SameAt t' t'' k) : SameAt t t'' k :=
  ⟨h'.mac.trans h.mac, h'.entry.trans h.entry⟩

/-- A MAC that is not zero, of 48 bits. -/
structure IsMac (m : Mac) : Prop where
  ne_zero : m ≠ 0
  lt : m.toNat < 2 ^ 48

/-- Each end learns the other, whatever the two tables held, and nothing else changes; the
node also enters its own address. -/
theorem exchange_resolves {a b : BitVec 32} {ma mb : Mac} (hab : a ≠ b) (hma : IsMac ma)
    (hmb : IsMac mb) (node peer : NeighborTable) (now now' : ℕ) :
    ∃ node' peer', exchange node peer now now' ma mb (.inet4 a) (.inet4 b) =
        .ok (some ⟨ma, some (.inet4 a)⟩, node', peer') ∧
      Maps peer' (.inet4 a) ma ∧ Maps node' (.inet4 b) mb ∧ Maps node' (.inet4 a) ma ∧
      (∀ k, k ≠ .inet4 a → SameAt peer peer' k) ∧
      (∀ k, k ≠ .inet4 a → k ≠ .inet4 b → SameAt node node' k) := by
  have hne : InetAddress.inet4 b ≠ .inet4 a := fun h => hab (InetAddress.inet4.inj h).symm
  have hzero : (0 : Mac).toNat < 2 ^ 48 := by decide
  -- the peer enters the sender of the request, which names no MAC for its target
  have hrequest : processARPPacket peer now (packetOf 1 ma 0 a b) =
      .ok (peer.setAddress now (.inet4 a) ma, some ⟨ma, some (.inet4 a)⟩) := by
    rw [processARPPacket_eq_ok _ _ (by rw [length_packetOf]), senderMac_packetOf _ _ _ hma.lt,
      senderAddress_packetOf, targetMac_packetOf _ _ _ _ hzero, targetAddress_packetOf,
      setAddressIfKnown_of_ne _ _ hma.ne_zero, setAddressIfKnown_zero, getD_packetOf,
      if_pos (by decide)]
  -- the node enters both ends of the reply
  have hreply : processARPPacket node now' (packetOf 2 mb ma b a) =
      .ok ((node.setAddress now' (.inet4 b) mb).setAddress now' (.inet4 a) ma, none) := by
    rw [processARPPacket_eq_ok _ _ (by rw [length_packetOf]), senderMac_packetOf _ _ _ hmb.lt,
      senderAddress_packetOf, targetMac_packetOf _ _ _ _ hma.lt, targetAddress_packetOf,
      setAddressIfKnown_of_ne _ _ hmb.ne_zero, setAddressIfKnown_of_ne _ _ hma.ne_zero,
      getD_packetOf, if_neg (by decide)]
  refine ⟨(node.setAddress now' (.inet4 b) mb).setAddress now' (.inet4 a) ma,
    peer.setAddress now (.inet4 a) ma, ?_, maps_setAddress .., ?_, maps_setAddress .., ?_, ?_⟩
  · rw [exchange, getRequestPacket, getARPPacket_eq, ok_bind, hrequest, ok_bind]
    dsimp only
    rw [getReplyPacket, getARPPacket_eq, ok_bind, hreply]
    rfl
  · exact (maps_setAddress ..).of_sameAt (sameAt_setAddress _ _ hne)
  · exact fun k hk => sameAt_setAddress _ _ hk
  · exact fun k hk hk' => (sameAt_setAddress _ _ hk').trans (sameAt_setAddress _ _ hk)

/-- The peer has heard of `10.0.0.1` under another MAC before. -/
theorem exchange_resolves_moved :
    let peer := NeighborTable.empty.setAddress 0 (.inet4 0x0a000001) 7
    IsMac 1 ∧ IsMac 2 ∧ ∃ node' peer',
      exchange .empty peer 1 2 1 2 (.inet4 0x0a000001) (.inet4 0x0a000002) =
        .ok (some ⟨1, some (.inet4 0x0a000001)⟩, node', peer') ∧
      Maps peer' (.inet4 0x0a000001) 1 ∧ Maps node' (.inet4 0x0a000002) 2 ∧
      Maps node' (.inet4 0x0a000001) 1 ∧ (∀ k, k ≠ .inet4 0x0a000001 → SameAt peer peer' k) ∧
      (∀ k, k ≠ .inet4 0x0a000001 → k ≠ .inet4 0x0a000002 → SameAt .empty node' k) :=
  ⟨⟨by decide, by decide⟩, ⟨by decide, by decide⟩,
    exchange_resolves (by decide) ⟨by decide, by decide⟩ ⟨by decide, by decide⟩ ..⟩

end ARPTable

end XnetZt
