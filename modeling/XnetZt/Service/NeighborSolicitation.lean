import XnetZt.Net.IPv6Packet
import XnetZt.Service.NeighborPackets

/-!
# Neighbour solicitations verify

The buffer of a solicitation is laid out twice. First its forty bytes of header hold the
pseudo-header, and the checksum is taken over the whole buffer; then the IPv6 header takes
their place. Both layouts are filled from the left, so each assignment extends a part that
is done.
-/

namespace XnetZt

open OnesComplement BigEndian

namespace NDPTable

/-! ### The two layouts -/

def solicitation (dest linkLayer checksum : Bytes) : Bytes :=
  [135, 0] ++ checksum ++ Bytes.zeros 4 ++ dest ++ [1, 1] ++ linkLayer

def pseudoHeader (src dest : Bytes) : Bytes := src ++ dest ++ ofNat 4 32 ++ ofNat 4 58

def header (src dest : Bytes) : Bytes :=
  [96, 0, 0, 0] ++ ofNat 2 32 ++ [58, 255] ++ src ++ dest

section Layout

variable {src dest linkLayer : Bytes} (hsrc : src.length = 16) (hdest : dest.length = 16)

include hsrc hdest

/-- The assignments before the checksum. -/
theorem layout_pseudoHeader {array : Bytes} (harray : array.length = 8) {α : Type}
    (f : Bytes → Except JavaException α) :
    (do
      let bArr ← Bytes.arraycopy src 0 (Bytes.zeros 72) 0 16
      let bArr ← Bytes.arraycopy dest 0 bArr 16 16
      let bArr ← Bytes.arraycopy (ofNat 4 32) 0 bArr 32 4
      let bArr ← bArr.write 39 58
      let bArr ← bArr.write 40 (-121)
      let bArr ← Bytes.arraycopy dest 0 bArr 48 16
      let bArr ← bArr.write 64 1
      let bArr ← bArr.write 65 1
      let bArr ← Bytes.arraycopy array 2 bArr 66 6
      f bArr) = f (pseudoHeader src dest ++ solicitation dest (Bytes.slice array 2 6) [0, 0]) := by
  have hs := Bytes.slice_all hsrc
  have hd := Bytes.slice_all hdest
  have hlength : Bytes.slice (ofNat 4 32) 0 4 = ofNat 4 32 := rfl
  have hstart : Bytes.zeros 72 = [] ++ (Bytes.zeros 72 ++ []) := by simp
  rw [hstart, Bytes.arraycopy_fill (k := 0) (r := 56) (by omega) (by simp) (by rfl), ok_bind, hs,
    Bytes.arraycopy_fill (k := 0) (r := 40) (by omega) (by simp [hsrc]) (by rfl), ok_bind, hd,
    Bytes.arraycopy_fill (k := 0) (r := 36) (by simp) (by simp [hsrc, hdest]) (by rfl), ok_bind,
    hlength, Bytes.write_fill (k := 3) (r := 32) 58 (by simp [hsrc, hdest]) (by rfl), ok_bind,
    Bytes.write_fill (k := 0) (r := 31) (-121) (by simp [hsrc, hdest]) (by rfl), ok_bind,
    Bytes.arraycopy_fill (k := 7) (r := 8) (by omega) (by simp [hsrc, hdest]) (by rfl), ok_bind,
    hd, Bytes.write_fill (k := 0) (r := 7) 1 (by simp [hsrc, hdest]) (by rfl), ok_bind,
    Bytes.write_fill (k := 0) (r := 6) 1 (by simp [hsrc, hdest]) (by rfl), ok_bind,
    Bytes.arraycopy_fill (k := 0) (r := 0) (by omega) (by simp [hsrc, hdest]) (by rfl), ok_bind]
  apply congrArg f
  simp [pseudoHeader, solicitation, ofNat, Bytes.zeros, List.replicate]

/-- The checksum goes into its field. -/
theorem layout_checksum {linkLayer checksum : Bytes} (hchecksum : checksum.length = 2) :
    Bytes.arraycopy checksum 0 (pseudoHeader src dest ++ solicitation dest linkLayer [0, 0]) 42 2 =
      .ok (pseudoHeader src dest ++ solicitation dest linkLayer checksum) := by
  have hparts : ∀ c : Bytes, pseudoHeader src dest ++ solicitation dest linkLayer c =
      (pseudoHeader src dest ++ [135, 0]) ++
        (c ++ (Bytes.zeros 4 ++ dest ++ [1, 1] ++ linkLayer)) := by
    simp [solicitation]
  have hlen : (pseudoHeader src dest ++ [135, 0]).length = 42 := by
    simp [pseudoHeader, hsrc, hdest]
  have hall := Bytes.slice_all hchecksum
  rw [hparts, hparts, Bytes.arraycopy_eq_ok (by omega)
    (by rw [List.length_append, hlen]; simp; omega), hall,
    Bytes.splice_append hlen, hchecksum, List.append_assoc]
  rfl

/-- The assignments after the checksum, with the IPv6 header in place of the pseudo-header. -/
theorem layout_header (message : Bytes) :
    (do
      let bArr := Bytes.splice (pseudoHeader src dest ++ message) 0 (.zeros 40)
      let bArr ← bArr.write 0 96
      let bArr ← Bytes.arraycopy (ofNat 2 32) 0 bArr 4 2
      let bArr ← bArr.write 6 58
      let bArr ← bArr.write 7 (-1)
      let bArr ← Bytes.arraycopy src 0 bArr 8 16
      Bytes.arraycopy dest 0 bArr 24 16) = .ok (header src dest ++ message) := by
  have hs := Bytes.slice_all hsrc
  have hd := Bytes.slice_all hdest
  have hlength : Bytes.slice (ofNat 2 32) 0 2 = ofNat 2 32 := rfl
  have hlen : (pseudoHeader src dest).length = 40 := by simp [pseudoHeader, hsrc, hdest]
  have hcleared : Bytes.splice (pseudoHeader src dest ++ message) 0 (.zeros 40) =
      [] ++ (Bytes.zeros 40 ++ message) := by
    simp [Bytes.splice, List.drop_left' hlen]
  rw [hcleared]
  dsimp only
  rw [Bytes.write_fill (k := 0) (r := 39) 96 (by simp) (by rfl), ok_bind,
    Bytes.arraycopy_fill (k := 3) (r := 34) (by simp) (by simp) (by rfl), ok_bind, hlength,
    Bytes.write_fill (k := 0) (r := 33) 58 (by simp) (by rfl), ok_bind,
    Bytes.write_fill (k := 0) (r := 32) (-1) (by simp) (by rfl), ok_bind,
    Bytes.arraycopy_fill (k := 0) (r := 16) (by omega) (by simp) (by rfl), ok_bind, hs,
    Bytes.arraycopy_fill (k := 0) (r := 0) (by omega) (by simp [hsrc]) (by rfl), hd]
  simp [header, ofNat, Bytes.zeros, List.replicate]

end Layout

/-- The packet in one piece. -/
theorem getNeighborSolicitationPacket_eq {a a2 : InetAddress} (ha : a.getAddress.length = 16)
    (ha2 : a2.getAddress.length = 16) (j : Mac) :
    let linkLayer := (ofNat 8 j.toNat).drop 2
    let sum := wordSum (pseudoHeader a.getAddress a2.getAddress ++
      solicitation a2.getAddress linkLayer [0, 0])
    getNeighborSolicitationPacket a a2 j = .ok (header a.getAddress a2.getAddress ++
      solicitation a2.getAddress linkLayer (ofNat 2 (65535 - foldCarry sum))) := by
  intro linkLayer sum
  have harray : (ofNat 8 j.toNat).length = 8 := length_ofNat 8 _
  have hlinkLayer : Bytes.slice (ofNat 8 j.toNat) 2 6 = linkLayer := by
    rw [Bytes.slice, List.take_of_length_le (by simp)]
  have hlen : (pseudoHeader a.getAddress a2.getAddress ++
      solicitation a2.getAddress linkLayer [0, 0]).length = 72 := by
    simp [pseudoHeader, solicitation, linkLayer, ha, ha2]
  have hchecksum := IPPacketUtils.calculateChecksum_eq
    (pseudoHeader a.getAddress a2.getAddress ++ solicitation a2.getAddress linkLayer [0, 0])
  rw [hlen] at hchecksum
  unfold getNeighborSolicitationPacket
  dsimp only
  rw [layout_pseudoHeader ha ha2 harray, hlinkLayer, hchecksum, ok_bind,
    layout_checksum ha ha2 (length_ofNat 2 _), ok_bind]
  exact layout_header ha ha2 _

/-! ### Fields and checksum of the packet -/

section Fields

variable {src dest linkLayer checksum : Bytes}

theorem packet_eq (message : Bytes) : header src dest ++ message =
    [96, 0, 0, 0, 0, 32, 58, 255] ++ (src ++ (dest ++ message)) := by
  simp [header, ofNat]

variable (hsrc : src.length = 16) (hdest : dest.length = 16)

include hsrc

theorem source_packet (message : Bytes) : IPv6.source (header src dest ++ message) = src := by
  rw [packet_eq, IPv6.source, ← List.append_assoc, Bytes.slice_append (by simp) hsrc]

include hdest

theorem payload_packet (message : Bytes) : IPv6.payload (header src dest ++ message) = message := by
  rw [IPv6.payload, List.drop_left' (by simp [header, hsrc, hdest])]

theorem destination_packet (message : Bytes) :
    IPv6.destination (header src dest ++ message) = dest := by
  have hlen : ([96, 0, 0, 0] ++ ofNat 2 32 ++ [58, 255] ++ src).length = 24 := by simp [hsrc]
  rw [IPv6.destination, header, Bytes.slice_append hlen hdest]

/-- The pseudo-header the receiver makes up is the one the sender had in the buffer. -/
theorem pseudoHeader_packet {message : Bytes} (hmessage : message.length = 32) :
    IPv6.pseudoHeader (header src dest ++ message) = pseudoHeader src dest := by
  have hnext : IPv6.nextHeader (header src dest ++ message) = 58 := by
    rw [packet_eq, IPv6.nextHeader]
    rfl
  rw [IPv6.pseudoHeader, source_packet hsrc, destination_packet hsrc hdest,
    payload_packet hsrc hdest, hmessage, hnext, pseudoHeader]

end Fields

/-- The checksum adds itself to the sum over a message without one. -/
theorem wordSum_solicitation {src dest : Bytes} (hsrc : src.length = 16) (hdest : dest.length = 16)
    (linkLayer : Bytes) {c : ℕ} (hc : c ≤ 65535) :
    wordSum (pseudoHeader src dest ++ solicitation dest linkLayer (ofNat 2 c)) =
      wordSum (pseudoHeader src dest ++ solicitation dest linkLayer [0, 0]) + c := by
  have hparts : ∀ c0 c1 : Byte, wordSum (pseudoHeader src dest ++
      solicitation dest linkLayer [c0, c1]) =
      wordSum (pseudoHeader src dest ++ [135, 0]) + (256 * c0.toNat + c1.toNat +
        wordSum (Bytes.zeros 4 ++ dest ++ [1, 1] ++ linkLayer)) := by
    intro c0 c1
    have hlen : (pseudoHeader src dest ++ [135, 0]).length = 42 := by
      simp [pseudoHeader, hsrc, hdest]
    rw [← wordSum_cons_cons, ← wordSum_append _ (by rw [hlen]; decide)]
    simp [solicitation]
  have hbytes : ofNat 2 c = [BitVec.ofNat 8 (c / 256), BitVec.ofNat 8 c] := by simp [ofNat]
  rw [hbytes, hparts, hparts]
  have hzero : (0 : Byte).toNat = 0 := rfl
  simp only [BitVec.toNat_ofNat, hzero]
  omega

/-- A solicitation between two IPv6 addresses is a packet its receiver accepts. The option
holds the 48 low-order bits of `j`, the MAC. -/
theorem getNeighborSolicitationPacket_solicits {a a2 : InetAddress} (h : a.isInet4 = false)
    (h2 : a2.isInet4 = false) (j : Mac) :
    ∃ p, getNeighborSolicitationPacket a a2 j = .ok p ∧ p.length = 72 ∧
      IPv6.Solicits p a.getAddress a2.getAddress (ofNat 6 j.toNat) := by
  have ha : a.getAddress.length = 16 := by simp [InetAddress.length_getAddress, h]
  have ha2 : a2.getAddress.length = 16 := by simp [InetAddress.length_getAddress, h2]
  have hlinkLayer : (ofNat 8 j.toNat).drop 2 = ofNat 6 j.toNat := rfl
  have hpacket := getNeighborSolicitationPacket_eq ha ha2 j
  simp only [hlinkLayer] at hpacket
  refine ⟨_, hpacket, by simp [header, solicitation, ha, ha2], ?_⟩
  have hmessage : ∀ c, (solicitation a2.getAddress (ofNat 6 j.toNat) (ofNat 2 c)).length = 32 := by
    simp [solicitation, ha2]
  constructor
  · simp [packet_eq, IPv6.version]
  · rw [List.length_append, hmessage, packet_eq, IPv6.payloadLength]
    simp [header, ha, ha2, word16]
  · rw [packet_eq, IPv6.payloadLength]
    rfl
  · rw [packet_eq, IPv6.nextHeader]
    rfl
  · rw [packet_eq, IPv6.hopLimit]
    rfl
  · exact source_packet ha _
  · exact destination_packet ha ha2 _
  · rw [payload_packet ha ha2]
    exact ⟨_, length_ofNat 2 _, rfl⟩
  · rw [IPv6.ChecksumValid, pseudoHeader_packet ha ha2 (hmessage _), payload_packet ha ha2,
      wordSum_solicitation ha ha2 _ (by omega)]
    exact verifies_add_complement _

/-- From `fe80::1` to `fe80::2`. -/
theorem getNeighborSolicitationPacket_solicits_linkLocal :
    let a : InetAddress := .inet6 0xfe800000000000000000000000000001 (by decide)
    let a2 : InetAddress := .inet6 0xfe800000000000000000000000000002 (by decide)
    ∃ p, getNeighborSolicitationPacket a a2 0x020000000001 = .ok p ∧ p.length = 72 ∧
      IPv6.Solicits p a.getAddress a2.getAddress [2, 0, 0, 0, 0, 1] :=
  getNeighborSolicitationPacket_solicits rfl rfl 0x020000000001

end NDPTable

end XnetZt
