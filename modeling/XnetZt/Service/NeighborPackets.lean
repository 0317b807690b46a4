import XnetZt.Net.IPPacket
import XnetZt.Service.NeighborTable

/-!
# ARP and neighbour solicitation packets

The packets that the adapter sends to find a MAC. An ARP packet copies the first four
bytes of each address and can be built for addresses of either family; a neighbour
solicitation copies sixteen bytes and throws for an IPv4 address.
-/

namespace XnetZt

namespace ARPTable

def longToBytes (j : BitVec 64) : Bytes := BigEndian.ofNat 8 j.toNat

def getARPPacket (i : Byte) (j j2 : Mac) (inetAddress inetAddress2 : InetAddress) :
    Except JavaException Bytes := do
  let bArr : Bytes := [0, 1, 8, 0, 6, 4, 0, i] ++ Bytes.zeros 20
  let bArr ← Bytes.arraycopy (longToBytes j) 2 bArr 8 6
  let bArr ← Bytes.arraycopy inetAddress.getAddress 0 bArr 14 4
  let bArr ← Bytes.arraycopy (longToBytes j2) 2 bArr 18 6
  Bytes.arraycopy inetAddress2.getAddress 0 bArr 24 4

def getRequestPacket (j : Mac) (inetAddress inetAddress2 : InetAddress) :
    Except JavaException Bytes :=
  getARPPacket 1 j 0 inetAddress inetAddress2

def getReplyPacket (j : Mac) (inetAddress : InetAddress) (j2 : Mac) (inetAddress2 : InetAddress) :
    Except JavaException Bytes :=
  getARPPacket 2 j j2 inetAddress inetAddress2

theorem four_le_length_getAddress (a : InetAddress) : 4 ≤ a.getAddress.length := by
  rw [InetAddress.length_getAddress]
  split_ifs <;> omega

theorem getARPPacket_eq_ok (i : Byte) (j j2 : Mac) (a a2 : InetAddress) :
    ∃ p, getARPPacket i j j2 a a2 = .ok p := by
  have h1 := four_le_length_getAddress a
  have h2 := four_le_length_getAddress a2
  have hj : ∀ j, (longToBytes j).length = 8 := fun j => BigEndian.length_ofNat _ _
  have hb : ([0, 1, 8, 0, 6, 4, 0, i] ++ Bytes.zeros 20).length = 28 := by simp
  refine Bytes.arraycopy_bind_eq_ok (by rw [hj]) (by omega) fun b1 l1 => ?_
  refine Bytes.arraycopy_bind_eq_ok (by omega) (by omega) fun b2 l2 => ?_
  refine Bytes.arraycopy_bind_eq_ok (by rw [hj]) (by omega) fun b3 l3 => ?_
  exact ⟨_, Bytes.arraycopy_eq_ok (by omega) (by omega)⟩

/-- The sender fields of a packet. -/
theorem getARPPacket_sender {i : Byte} {j j2 : Mac} {a a2 : InetAddress} {p : Bytes}
    (h : getARPPacket i j j2 a a2 = .ok p) :
    p.slice 8 6 = (longToBytes j).slice 2 6 ∧ p.slice 14 4 = a.getAddress.slice 0 4 := by
  simp only [getARPPacket, bind_eq_ok] at h
  obtain ⟨b1, h1, b2, h2, b3, h3, h4⟩ := h
  constructor
  · rw [Bytes.slice_arraycopy_below h4 (by omega), Bytes.slice_arraycopy_below h3 (by omega),
      Bytes.slice_arraycopy_below h2 (by omega), Bytes.slice_arraycopy h1]
  · rw [Bytes.slice_arraycopy_below h4 (by omega), Bytes.slice_arraycopy_below h3 (by omega),
      Bytes.slice_arraycopy h2]

/-- The target address of a packet. -/
theorem getARPPacket_target {i : Byte} {j j2 : Mac} {a a2 : InetAddress} {p : Bytes}
    (h : getARPPacket i j j2 a a2 = .ok p) : p.slice 24 4 = a2.getAddress.slice 0 4 := by
  simp only [getARPPacket, bind_eq_ok] at h
  obtain ⟨b1, -, b2, -, b3, -, h4⟩ := h
  exact Bytes.slice_arraycopy h4

/-- Of the target the first four bytes count. -/
theorem getARPPacket_congr {a2 a2' : InetAddress}
    (h : a2.getAddress.slice 0 4 = a2'.getAddress.slice 0 4) (i : Byte) (j j2 : Mac)
    (a : InetAddress) : getARPPacket i j j2 a a2 = getARPPacket i j j2 a a2' := by
  have hcopy : ∀ bArr, Bytes.arraycopy a2.getAddress 0 bArr 24 4 =
      Bytes.arraycopy a2'.getAddress 0 bArr 24 4 := by
    intro bArr
    have hl := four_le_length_getAddress a2
    have hl' := four_le_length_getAddress a2'
    have hbounds : (0 + 4 ≤ a2.getAddress.length ∧ 24 + 4 ≤ bArr.length) ↔
        (0 + 4 ≤ a2'.getAddress.length ∧ 24 + 4 ≤ bArr.length) := by omega
    rw [Bytes.arraycopy, Bytes.arraycopy, h, if_congr hbounds rfl rfl]
  simp only [getARPPacket, hcopy]

theorem getRequestPacket_eq_ok (j : Mac) (a a2 : InetAddress) :
    ∃ p, getRequestPacket j a a2 = .ok p :=
  getARPPacket_eq_ok 1 j 0 a a2

end ARPTable

namespace NDPTable

def getNeighborSolicitationPacket (inetAddress inetAddress2 : InetAddress) (j : Mac) :
    Except JavaException Bytes := do
  -- the pseudo-header and the message, over which the checksum is taken
  let bArr ← Bytes.arraycopy inetAddress.getAddress 0 (.zeros 72) 0 16
  let bArr ← Bytes.arraycopy inetAddress2.getAddress 0 bArr 16 16
  let bArr ← Bytes.arraycopy (BigEndian.ofNat 4 32) 0 bArr 32 4
  let bArr ← bArr.write 39 58
  let bArr ← bArr.write 40 (-121)
  let bArr ← Bytes.arraycopy inetAddress2.getAddress 0 bArr 48 16
  let array := BigEndian.ofNat 8 j.toNat
  let bArr ← bArr.write 64 1
  let bArr ← bArr.write 65 1
  let bArr ← Bytes.arraycopy array 2 bArr 66 6
  let checksum ← IPPacketUtils.calculateChecksum bArr 0 0 72
  let bArr ← Bytes.arraycopy (BigEndian.ofNat 2 checksum) 0 bArr 42 2
  -- the IPv6 header takes the place of the pseudo-header
  let bArr := bArr.splice 0 (.zeros 40)
  let bArr ← bArr.write 0 96
  let bArr ← Bytes.arraycopy (BigEndian.ofNat 2 32) 0 bArr 4 2
  let bArr ← bArr.write 6 58
  let bArr ← bArr.write 7 (-1)
  let bArr ← Bytes.arraycopy inetAddress.getAddress 0 bArr 8 16
  Bytes.arraycopy inetAddress2.getAddress 0 bArr 24 16

theorem getNeighborSolicitationPacket_eq_ok {a a2 : InetAddress} (j : Mac)
    (h : a.isInet4 = false) (h2 : a2.isInet4 = false) :
    ∃ p, getNeighborSolicitationPacket a a2 j = .ok p := by
  have ha : a.getAddress.length = 16 := by simp [InetAddress.length_getAddress, h]
  have ha2 : a2.getAddress.length = 16 := by simp [InetAddress.length_getAddress, h2]
  have hz : (Bytes.zeros 72).length = 72 := Bytes.length_zeros 72
  refine Bytes.arraycopy_bind_eq_ok (by omega) (by omega) fun b1 l1 => ?_
  refine Bytes.arraycopy_bind_eq_ok (by omega) (by omega) fun b2 l2 => ?_
  refine Bytes.arraycopy_bind_eq_ok (by simp) (by omega) fun b3 l3 => ?_
  refine Bytes.write_bind_eq_ok (by omega) fun b4 l4 => ?_
  refine Bytes.write_bind_eq_ok (by omega) fun b5 l5 => ?_
  refine Bytes.arraycopy_bind_eq_ok (by omega) (by omega) fun b6 l6 => ?_
  refine Bytes.write_bind_eq_ok (by omega) fun b7 l7 => ?_
  refine Bytes.write_bind_eq_ok (by omega) fun b8 l8 => ?_
  refine Bytes.arraycopy_bind_eq_ok (by simp) (by omega) fun b9 l9 => ?_
  obtain ⟨checksum, hc⟩ := IPPacketUtils.calculateChecksum_eq_ok 0 (show 0 ≤ 72 by omega)
    (show 72 ≤ b9.length by omega)
  rw [hc, ok_bind]
  refine Bytes.arraycopy_bind_eq_ok (by simp) (by omega) fun b10 l10 => ?_
  have l11 : (b10.splice 0 (.zeros 40)).length = b10.length :=
    Bytes.length_splice (by rw [Bytes.length_zeros]; omega)
  refine Bytes.write_bind_eq_ok (by omega) fun b12 l12 => ?_
  refine Bytes.arraycopy_bind_eq_ok (by simp) (by omega) fun b13 l13 => ?_
  refine Bytes.write_bind_eq_ok (by omega) fun b14 l14 => ?_
  refine Bytes.write_bind_eq_ok (by omega) fun b15 l15 => ?_
  refine Bytes.arraycopy_bind_eq_ok (by omega) (by omega) fun b16 l16 => ?_
  exact ⟨_, Bytes.arraycopy_eq_ok (by omega) (by omega)⟩

/-- The packet is an ICMPv6 message of type 135. -/
theorem getNeighborSolicitationPacket_type {a a2 : InetAddress} {j : Mac} {p : Bytes}
    (h : getNeighborSolicitationPacket a a2 j = .ok p) :
    p.getD 6 0 = 58 ∧ p.getD 40 0 = -121 := by
  simp only [getNeighborSolicitationPacket, bind_eq_ok] at h
  obtain ⟨b1, h1, b2, h2, b3, h3, b4, h4, b5, h5, b6, h6, b7, h7, b8, h8, b9, h9, c, hc, b10, h10,
    b11, h11, b12, h12, b13, h13, b14, h14, b15, h15, h16⟩ := h
  constructor
  · rw [Bytes.getD_arraycopy h16 (by omega), Bytes.getD_arraycopy h15 (by omega),
      Bytes.getD_write h14, Bytes.getD_write h13]
    rfl
  · have hheader : p.getD 40 0 = b10.getD 40 0 := by
      rw [Bytes.getD_arraycopy h16 (by omega), Bytes.getD_arraycopy h15 (by omega),
        Bytes.getD_write h14, Bytes.getD_write h13, Bytes.getD_arraycopy h12 (by omega),
        Bytes.getD_write h11]
      exact Bytes.getD_splice (by omega) (by simp)
    rw [hheader, Bytes.getD_arraycopy h10 (by omega), Bytes.getD_arraycopy h9 (by omega),
      Bytes.getD_write h8, Bytes.getD_write h7, Bytes.getD_arraycopy h6 (by omega),
      Bytes.getD_write h5]
    rfl

/-- For an IPv4 address there are not sixteen bytes to copy. -/
theorem getNeighborSolicitationPacket_eq_error {a a2 : InetAddress} (j : Mac)
    (h : a.isInet4 = true ∨ a2.isInet4 = true) :
    getNeighborSolicitationPacket a a2 j = .error .arrayIndexOutOfBounds := by
  have hshort : ∀ a : InetAddress, a.isInet4 = true → a.getAddress.length < 0 + 16 := by
    intro a h
    simp [InetAddress.length_getAddress, h]
  unfold getNeighborSolicitationPacket
  by_cases ha : a.isInet4 = true
  · rw [Bytes.arraycopy_eq_error (hshort a ha), error_bind]
  · have hlen : a.getAddress.length = 16 := by simp [InetAddress.length_getAddress, ha]
    rw [Bytes.arraycopy_eq_ok (by omega) (by simp), ok_bind,
      Bytes.arraycopy_eq_error (hshort a2 (h.resolve_left ha)), error_bind]

end NDPTable

end XnetZt
