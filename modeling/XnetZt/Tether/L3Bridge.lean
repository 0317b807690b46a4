import XnetZt.Net.IPPacket

/-!
# The L3 bridge of the tether

`TetherL3Bridge` takes the IPv4 packets of tether clients off the tunnel, rewrites the
source to the address of the phone and hands the packet to the node. The rewrite
touches two checksums. The one of the header is computed anew; the one of the TCP or
UDP segment covers the source address too and is left as it was, which is right only
when the two addresses have the same sum.
-/

namespace XnetZt

open OnesComplement

/-- `0xFFFFFFFF << (32 - prefix)`, and `0` for the prefix `0`. -/
def subnetMask (prefixLength : ℤ) : BitVec 32 :=
  if prefixLength = 0 then 0 else BitVec.allOnes 32 <<< shiftCount (32 - prefixLength)

/-- A configured bridge. The service configures it with IPv4 addresses only. -/
structure TetherL3Bridge where
  hasNode : Bool
  networkId : BitVec 64
  localMac : BitVec 64
  gatewayMac : BitVec 64
  localZtIp : Bytes
  tetherSubnet : Bytes
  tetherPrefix : ℤ
  active : Bool
  length_localZtIp : localZtIp.length = 4
  length_tetherSubnet : tetherSubnet.length = 4

namespace TetherL3Bridge

def configure (hasNode : Bool) (networkId localMac gatewayMac : BitVec 64)
    (localZtAddr tetherAddr : InetAddress) (tetherPrefix : ℤ) (hz : localZtAddr.isInet4 = true)
    (ht : tetherAddr.isInet4 = true) : TetherL3Bridge where
  hasNode := hasNode
  networkId := networkId
  localMac := localMac
  gatewayMac := gatewayMac
  localZtIp := localZtAddr.getAddress
  tetherSubnet := tetherAddr.getAddress
  tetherPrefix := tetherPrefix
  active := true
  length_localZtIp := by simp [InetAddress.length_getAddress, hz]
  length_tetherSubnet := by simp [InetAddress.length_getAddress, ht]

def stop (b : TetherL3Bridge) : TetherL3Bridge := { b with active := false }

def isInTetherSubnet (b : TetherL3Bridge) (pkt : Bytes) (offset : ℕ) :
    Except JavaException Bool := do
  if offset + 4 > pkt.length then return false
  let mask := subnetMask b.tetherPrefix
  let addr ← pkt.getInt offset
  let subnet ← b.tetherSubnet.getInt 0
  return addr &&& mask == subnet &&& mask

/-- One round of the loop over the header. -/
def addHeaderWord (pkt : Bytes) (sum i : ℕ) : Except JavaException ℕ := do
  let hi ← pkt.read i
  let lo ← pkt.read (i + 1)
  return sum + (256 * hi.toNat + lo.toNat)

def fixIpChecksum (pkt : Bytes) : Except JavaException Bytes := do
  let b ← pkt.read 0
  let ihl := b.toNat % 16 * 4
  let pkt ← pkt.write 10 0
  let pkt ← pkt.write 11 0
  -- `for (i = 0; i < ihl; i += 2)`
  let sum ← (List.range' 0 (ihl / 2) 2).foldlM (addHeaderWord pkt) 0
  let checksum := 65535 - foldCarry sum
  let pkt ← pkt.write 10 (BitVec.ofNat 8 (checksum / 256))
  pkt.write 11 (BitVec.ofNat 8 checksum)

/-- The frame that carries a packet to the gateway. -/
def frame (b : TetherL3Bridge) (pkt : Bytes) : Frame where
  networkId := b.networkId
  srcMac := b.localMac
  destMac := b.gatewayMac
  etherType := ipv4Packet
  frameData := pkt

/-- The frame handed to the node, if any, and the result: whether the packet was taken. -/
def processOutbound (b : TetherL3Bridge) (node : Frame → ResultCode) (packet : Bytes)
    (length : ℕ) : Except JavaException (Option Frame × Bool) := do
  if !b.active || !b.hasNode then return (none, false)
  if length < 20 then return (none, false)
  if !(← b.isInTetherSubnet packet 12) then return (none, false)
  let pkt ← Bytes.arraycopy packet 0 (.zeros length) 0 length
  let pkt ← Bytes.arraycopy b.localZtIp 0 pkt 12 4
  let pkt ← fixIpChecksum pkt
  return (some (b.frame pkt), node (b.frame pkt) == .resultOk)

/-! ### The header checksum -/

/-- The loop sums the words it can read and fails at the end of the array. -/
theorem foldlM_addHeaderWord (pkt : Bytes) (n i sum : ℕ) (hi : i ≤ pkt.length) :
    (List.range' i n 2).foldlM (addHeaderWord pkt) sum =
      if i + 2 * n ≤ pkt.length then .ok (sum + wordSum (pkt.slice i (2 * n)))
      else .error .arrayIndexOutOfBounds := by
  induction n generalizing i sum with
  | zero => simp [Bytes.slice, hi]
  | succ n ih =>
    rw [List.range'_succ, List.foldlM_cons]
    by_cases h0 : i < pkt.length
    · by_cases h1 : i + 1 < pkt.length
      · have hstep : addHeaderWord pkt sum i =
            .ok (sum + (256 * (pkt.getD i 0).toNat + (pkt.getD (i + 1) 0).toNat)) := by
          simp [addHeaderWord, Bytes.read_eq_ok h0, Bytes.read_eq_ok h1]
        have hslice : pkt.slice i (2 * (n + 1)) =
            pkt.getD i 0 :: pkt.getD (i + 1) 0 :: pkt.slice (i + 2) (2 * n) := by
          unfold Bytes.slice
          rw [List.drop_eq_getElem_cons h0, List.drop_eq_getElem_cons h1,
            show 2 * (n + 1) = 2 * n + 1 + 1 by omega, List.take_succ_cons, List.take_succ_cons]
          simp [h0, h1]
        rw [hstep, ok_bind, ih _ _ (by omega), hslice, wordSum_cons_cons]
        simp only [show i + 2 + 2 * n = i + 2 * (n + 1) by omega, ← Nat.add_assoc]
      · have hstep : addHeaderWord pkt sum i = .error .arrayIndexOutOfBounds := by
          simp [addHeaderWord, Bytes.read_eq_ok h0, Bytes.read_eq_error (Nat.le_of_not_lt h1)]
        rw [hstep, error_bind, if_neg (by omega)]
    · have hstep : addHeaderWord pkt sum i = .error .arrayIndexOutOfBounds := by
        simp [addHeaderWord, Bytes.read_eq_error (Nat.le_of_not_lt h0)]
      rw [hstep, error_bind, if_neg (by omega)]

/-- The complement of the folded sum of the first `n` bytes. -/
def checksumOf (pkt : Bytes) (n : ℕ) : ℕ := 65535 - foldCarry (wordSum (pkt.take n))

theorem fixIpChecksum_eq {pkt : Bytes} (h : 12 ≤ pkt.length) :
    fixIpChecksum pkt =
      if IPv4.headerLength pkt ≤ pkt.length then
        let checksum := checksumOf ((pkt.set 10 0).set 11 0) (IPv4.headerLength pkt)
        .ok ((pkt.set 10 (BitVec.ofNat 8 (checksum / 256))).set 11 (BitVec.ofNat 8 checksum))
      else .error .arrayIndexOutOfBounds := by
  have hloop := foldlM_addHeaderWord ((pkt.set 10 0).set 11 0) (IPv4.headerLength pkt / 2) 0 0
    (by omega)
  have heven : 0 + 2 * (IPv4.headerLength pkt / 2) = IPv4.headerLength pkt := by
    unfold IPv4.headerLength
    omega
  rw [heven] at hloop
  simp only [List.length_set, Nat.zero_add] at hloop
  simp only [fixIpChecksum, Bytes.read_eq_ok (show 0 < pkt.length by omega), ok_bind,
    Bytes.write_eq_ok _ (show 10 < pkt.length by omega)]
  rw [Bytes.write_eq_ok _ (by simp; omega), ok_bind]
  change (List.foldlM _ 0 (List.range' 0 (IPv4.headerLength pkt / 2) 2) >>= _) = _
  rw [hloop]
  split_ifs with hle
  · rw [ok_bind, Bytes.write_eq_ok _ (by simp; omega), ok_bind,
      Bytes.write_eq_ok _ (by simp; omega)]
    have hset : ∀ x y : Byte, (((pkt.set 10 0).set 11 0).set 10 x).set 11 y =
        (pkt.set 10 x).set 11 y := by
      intro x y
      rw [List.set_comm _ _ (show 11 ≠ 10 by decide), List.set_set, List.set_set]
    simp only [hset, checksumOf, Bytes.slice, List.drop_zero]
    rw [← Nat.zero_add (2 * _), heven]
  · rfl

/-- The checksum field after the repair. -/
theorem fixIpChecksum_assemble {pre src post : Bytes} {c0 c1 : Byte} (hpre : pre.length = 10)
    (hsrc : src.length = 4) (hh : IPv4.headerLength pre ≤ 16 + post.length) :
    ∃ k0 k1, fixIpChecksum (IPv4.assemble pre c0 c1 src post) =
        .ok (IPv4.assemble pre k0 k1 src post) ∧
      256 * k0.toNat + k1.toNat =
        checksumOf (IPv4.assemble pre 0 0 src post) (IPv4.headerLength pre) := by
  have hlen : (IPv4.assemble pre c0 c1 src post).length = 16 + post.length :=
    IPv4.length_assemble hpre hsrc
  have hset : ∀ x y : Byte, ((IPv4.assemble pre c0 c1 src post).set 10 x).set 11 y =
      IPv4.assemble pre x y src post := by
    intro x y
    simp [IPv4.assemble, hpre]
  rw [fixIpChecksum_eq (by omega), IPv4.headerLength_assemble hpre, if_pos (by omega)]
  simp only [hset]
  refine ⟨_, _, rfl, ?_⟩
  have hle : checksumOf (IPv4.assemble pre 0 0 src post) (IPv4.headerLength pre) ≤ 65535 :=
    Nat.sub_le _ _
  rw [BitVec.toNat_ofNat, BitVec.toNat_ofNat]
  omega

/-- The repaired header verifies. -/
theorem headerChecksumValid_assemble {pre src post : Bytes} {k0 k1 : Byte}
    (hpre : pre.length = 10) (hsrc : src.length = 4) (hh : 16 ≤ IPv4.headerLength pre)
    (hk : 256 * k0.toNat + k1.toNat =
      checksumOf (IPv4.assemble pre 0 0 src post) (IPv4.headerLength pre)) :
    IPv4.HeaderChecksumValid (IPv4.assemble pre k0 k1 src post) := by
  obtain ⟨n, hn⟩ : ∃ n, IPv4.headerLength pre = 16 + n := ⟨IPv4.headerLength pre - 16, by omega⟩
  rw [checksumOf, hn, IPv4.take_assemble hpre hsrc, IPv4.wordSum_assemble hpre hsrc] at hk
  rw [IPv4.HeaderChecksumValid, IPv4.headerLength_assemble hpre, hn,
    IPv4.take_assemble hpre hsrc, IPv4.wordSum_assemble hpre hsrc, hk]
  have h := verifies_add_complement
    (wordSum pre + (256 * (0 : Byte).toNat + (0 : Byte).toNat) +
      (wordSum src + wordSum (post.take n)))
  convert h using 1
  simp
  omega

/-! ### Source NAT -/

/-- The packets in a buffer that the bridge takes for its own. -/
structure Intercepts (b : TetherL3Bridge) (packet : Bytes) (length : ℕ) : Prop where
  active : b.active = true
  hasNode : b.hasNode = true
  twenty_le : 20 ≤ length
  source : b.isInTetherSubnet packet 12 = .ok true

theorem isInTetherSubnet_eq_ok (b : TetherL3Bridge) (pkt : Bytes) (offset : ℕ) :
    ∃ r, b.isInTetherSubnet pkt offset = .ok r := by
  unfold isInTetherSubnet
  split_ifs with h
  · exact ⟨false, rfl⟩
  · rw [Bytes.getInt_eq_ok (by omega), Bytes.getInt_eq_ok (by rw [b.length_tetherSubnet])]
    exact ⟨_, rfl⟩

/-- A packet that is not intercepted is left alone. An intercepted one is handed to the
node with the source of the bridge, if its header checksum can be computed. -/
theorem processOutbound_eq (b : TetherL3Bridge) (node : Frame → ResultCode) {packet : Bytes}
    {length : ℕ} (hlen : length ≤ packet.length) :
    (¬ b.Intercepts packet length ∧ b.processOutbound node packet length = .ok (none, false)) ∨
      (b.Intercepts packet length ∧ b.processOutbound node packet length =
        (fixIpChecksum (Bytes.splice (packet.take length) 12 b.localZtIp) >>= fun pkt =>
          .ok (some (b.frame pkt), node (b.frame pkt) == .resultOk))) := by
  obtain ⟨r, hr⟩ := b.isInTetherSubnet_eq_ok packet 12
  unfold processOutbound
  by_cases ha : b.active = true ∧ b.hasNode = true
  · by_cases h20 : length < 20
    · exact Or.inl ⟨fun h => absurd h.twenty_le (by omega), by simp [ha, h20]⟩
    · cases r with
      | false => exact Or.inl ⟨fun h => by simpa [hr] using h.source, by simp [ha, h20, hr]⟩
      | true =>
        refine Or.inr ⟨⟨ha.1, ha.2, by omega, hr⟩, ?_⟩
        have hslice := Bytes.slice_all b.length_localZtIp
        have htake : (packet.slice 0 length).length = length := Bytes.length_slice (by omega)
        have hcopy : Bytes.arraycopy b.localZtIp 0 (packet.slice 0 length) 12 4 =
            .ok (Bytes.splice (packet.take length) 12 b.localZtIp) := by
          rw [Bytes.arraycopy_eq_ok (by rw [b.length_localZtIp]) (by omega), hslice]
          simp [Bytes.slice]
        simp [ha, h20, hr, Bytes.arraycopy_new (show 0 + length ≤ packet.length by omega), hcopy]
  · refine Or.inl ⟨fun h => ha ⟨h.active, h.hasNode⟩, ?_⟩
    have hoff : (!b.active || !b.hasNode) = true := by
      revert ha
      cases b.active <;> cases b.hasNode <;> simp
    simp [hoff]

/-- A frame handed to the node comes from the MAC of the bridge. -/
theorem frame_of_processOutbound {b : TetherL3Bridge} {node : Frame → ResultCode} {packet : Bytes}
    {length : ℕ} {f : Frame} {r : Bool} (hlen : length ≤ packet.length)
    (h : b.processOutbound node packet length = .ok (some f, r)) :
    f.srcMac = b.localMac ∧ f.etherType = ipv4Packet := by
  rcases b.processOutbound_eq node hlen with ⟨-, heq⟩ | ⟨-, heq⟩
  · rw [heq] at h
    cases h
  · rw [heq, bind_eq_ok] at h
    obtain ⟨pkt, -, hpkt⟩ := h
    cases hpkt
    exact ⟨rfl, rfl⟩

/-- The three ways through `processOutbound`. -/
theorem processOutbound_cases (b : TetherL3Bridge) (node : Frame → ResultCode) {packet : Bytes}
    {length : ℕ} (hlen : length ≤ packet.length) :
    (¬ b.Intercepts packet length ∧ b.processOutbound node packet length = .ok (none, false)) ∨
      (b.Intercepts packet length ∧ IPv4.headerLength packet ≤ length ∧
        ∃ f, b.processOutbound node packet length = .ok (some f, node f == .resultOk)) ∨
      (b.Intercepts packet length ∧ length < IPv4.headerLength packet ∧
        b.processOutbound node packet length = .error .arrayIndexOutOfBounds) := by
  rcases b.processOutbound_eq node hlen with h | ⟨hi, h⟩
  · exact Or.inl h
  right
  have h20 := hi.twenty_le
  have hz := b.length_localZtIp
  have hl : (Bytes.splice (packet.take length) 12 b.localZtIp).length = length := by
    rw [Bytes.length_splice (by simp; omega), List.length_take, Nat.min_eq_left hlen]
  have hhead : IPv4.headerLength (Bytes.splice (packet.take length) 12 b.localZtIp) =
      IPv4.headerLength packet := by
    simp only [IPv4.headerLength, Bytes.splice, List.getD_eq_getElem?_getD]
    rw [List.append_assoc, List.getElem?_append_left (by simp; omega)]
    simp [show 0 < length by omega]
  rw [h, fixIpChecksum_eq (by omega), hl, hhead]
  split_ifs with hle
  · exact Or.inl ⟨hi, hle, _, rfl⟩
  · exact Or.inr ⟨hi, by omega, rfl⟩

/-- An accepted packet: intercepted, inside the buffer, with its whole header. -/
structure Accepts (b : TetherL3Bridge) (packet : Bytes) (length : ℕ) : Prop
    extends b.Intercepts packet length where
  length_le : length ≤ packet.length
  header_le : IPv4.headerLength packet ≤ length

/-- Of an accepted packet the source and the header checksum are replaced. -/
theorem processOutbound_of_accepts {b : TetherL3Bridge} {packet : Bytes} {length : ℕ}
    (h : b.Accepts packet length) (node : Frame → ResultCode) :
    ∃ pre c0 c1 src post k0 k1 handled,
      packet.take length = IPv4.assemble pre c0 c1 src post ∧ pre.length = 10 ∧ src.length = 4 ∧
      b.processOutbound node packet length =
        .ok (some (b.frame (IPv4.assemble pre k0 k1 b.localZtIp post)), handled) ∧
      256 * k0.toNat + k1.toNat =
        checksumOf (IPv4.assemble pre 0 0 b.localZtIp post) (IPv4.headerLength pre) := by
  have h20 := h.twenty_le
  have hlen : (packet.take length).length = length := by simp [h.length_le]
  obtain ⟨pre, c0, c1, src, post, hp, hpre, hsrc⟩ :=
    IPv4.exists_assemble (p := packet.take length) (by omega)
  have hplen : length = 16 + post.length := by
    rw [← hlen, hp, IPv4.length_assemble hpre hsrc]
  have hhead : IPv4.headerLength pre ≤ 16 + post.length := by
    have e := IPv4.headerLength_take (p := packet) (show 0 < length by omega)
    rw [hp, IPv4.headerLength_assemble hpre] at e
    have := h.header_le
    omega
  have hsplice : Bytes.splice (packet.take length) 12 b.localZtIp =
      IPv4.assemble pre c0 c1 b.localZtIp post := by
    have htake : pre.take 12 = pre := List.take_of_length_le (by omega)
    have hdrop : pre.drop 16 = [] := List.drop_of_length_le (by omega)
    rw [hp]
    simp [Bytes.splice, IPv4.assemble, hpre, hsrc, b.length_localZtIp, List.take_append,
      List.drop_append, htake, hdrop]
  obtain ⟨k0, k1, hfix, hk⟩ := fixIpChecksum_assemble hpre b.length_localZtIp hhead
  rcases b.processOutbound_eq node h.length_le with ⟨hn, -⟩ | ⟨-, he⟩
  · exact absurd h.toIntercepts hn
  · rw [hsplice, hfix, ok_bind] at he
    exact ⟨pre, c0, c1, src, post, k0, k1, _, hp, hpre, hsrc, he, hk⟩

/-- Source and header checksum are always right. The segment is not touched, so its
checksum stays valid exactly when there is none, or when the two source addresses have
the same sum modulo `65535`. -/
theorem processOutbound_checksums {b : TetherL3Bridge} {packet : Bytes} {length : ℕ}
    (h : b.Accepts packet length) (ht : IPv4.IsTransport (packet.take length))
    (hv : IPv4.TransportChecksumValid (packet.take length)) (node : Frame → ResultCode) :
    ∃ f handled, b.processOutbound node packet length = .ok (some f, handled) ∧
      IPv4.source f.frameData = b.localZtIp ∧ IPv4.HeaderChecksumValid f.frameData ∧
      (IPv4.TransportChecksumValid f.frameData ↔
        IPv4.NoChecksum (packet.take length) ∨
          wordSum (IPv4.source (packet.take length)) ≡ wordSum b.localZtIp [MOD 65535]) := by
  obtain ⟨pre, c0, c1, src, post, k0, k1, handled, hp, hpre, hsrc, he, hk⟩ :=
    processOutbound_of_accepts h node
  have hzt := b.length_localZtIp
  rw [hp] at ht hv ⊢
  have hh : 16 ≤ IPv4.headerLength pre := by
    have := ht.headerLength
    rw [IPv4.headerLength_assemble hpre] at this
    omega
  have hpos : 0 < IPv4.sumWithoutSource pre post := by
    have hproto : 0 < IPv4.protocol pre := by
      rcases ht.transport with ⟨hproto, -⟩ | ⟨hproto, -⟩ <;>
        rw [IPv4.protocol_assemble hpre] at hproto <;> omega
    dsimp only [IPv4.sumWithoutSource]
    omega
  have hno : IPv4.NoChecksum (IPv4.assemble pre k0 k1 b.localZtIp post) ↔
      IPv4.NoChecksum (IPv4.assemble pre c0 c1 src post) := by
    rw [IPv4.noChecksum_assemble hpre hzt hh, IPv4.noChecksum_assemble hpre hsrc hh]
  refine ⟨_, _, he, IPv4.source_assemble hpre hzt, headerChecksumValid_assemble hpre hzt hh hk, ?_⟩
  rw [IPv4.transportChecksumValid_assemble hpre hsrc hh] at hv
  rw [frame, IPv4.transportChecksumValid_assemble hpre hzt hh, hno, IPv4.source_assemble hpre hsrc]
  by_cases hc : IPv4.NoChecksum (IPv4.assemble pre c0 c1 src post)
  · simp [hc]
  · simp only [hc, false_or]
    exact verifies_replace hpos (hv.resolve_left hc)

/-- The packet handed to the node carries the address of the phone and two valid
checksums. -/
def SourceNatValid (b : TetherL3Bridge) (node : Frame → ResultCode) (packet : Bytes)
    (length : ℕ) : Prop :=
  ∃ f handled, b.processOutbound node packet length = .ok (some f, handled) ∧
    IPv4.source f.frameData = b.localZtIp ∧ IPv4.HeaderChecksumValid f.frameData ∧
    IPv4.TransportChecksumValid f.frameData

/-- Source NAT is valid exactly for packets without a transport checksum and for source
addresses that the checksum cannot tell from the address of the phone. -/
theorem sourceNatValid_iff (b : TetherL3Bridge) (node : Frame → ResultCode) (packet : Bytes)
    (length : ℕ) (h : b.Accepts packet length) (ht : IPv4.IsTransport (packet.take length))
    (hv : IPv4.TransportChecksumValid (packet.take length)) :
    b.SourceNatValid node packet length ↔
      IPv4.NoChecksum (packet.take length) ∨
        wordSum (IPv4.source (packet.take length)) ≡ wordSum b.localZtIp [MOD 65535] := by
  obtain ⟨f, handled, he, hsource, hheader, htransport⟩ := processOutbound_checksums h ht hv node
  rw [← htransport]
  constructor
  · rintro ⟨f', handled', he', -, -, hvalid⟩
    rw [he, Except.ok.injEq, Prod.mk.injEq, Option.some.injEq] at he'
    rwa [he'.1]
  · intro hvalid
    exact ⟨f, handled, he, hsource, hheader, hvalid⟩

/-- A bridge for the tether subnet `192.168.42.0/24`. -/
def bridgeAt (localZtAddr : BitVec 32) : TetherL3Bridge :=
  configure true 1 2 broadcastMacAddress (.inet4 localZtAddr) (.inet4 0xc0a82a00) 24 rfl rfl

/-- A UDP packet from `192.168.42.10` to `10.0.0.1` without payload. -/
def clientPacket : Bytes :=
  [0x45, 0, 0, 28, 0, 0, 0, 0, 64, 17, 0, 0, 192, 168, 42, 10, 10, 0, 0, 1,
    0, 1, 0, 2, 0, 8, 0x0b, 0x28]

theorem clientPacket_accepted (localZtAddr : BitVec 32) :
    (bridgeAt localZtAddr).Accepts clientPacket 28 := by
  refine ⟨⟨rfl, rfl, by decide, ?_⟩, by decide, by decide⟩
  have h : (bridgeAt 0).isInTetherSubnet clientPacket 12 = .ok true := by decide
  exact h

theorem clientPacket_isTransport : IPv4.IsTransport (clientPacket.take 28) :=
  ⟨by decide, by decide, by decide, by decide, by decide⟩

/-- The address `42.10.192.168` has the same sum as the client's. -/
theorem sourceNatValid_swapped :
    (bridgeAt 0x2a0ac0a8).SourceNatValid (fun _ => .resultOk) clientPacket 28 :=
  (sourceNatValid_iff _ _ clientPacket 28 (clientPacket_accepted _) clientPacket_isTransport
    (by decide)).mpr (Or.inr (by decide))

/-- With `10.0.0.2` as the new source the UDP checksum is wrong. -/
theorem not_sourceNatValid_udp :
    (bridgeAt 0x0a000002).Accepts clientPacket 28 ∧ IPv4.IsTransport (clientPacket.take 28) ∧
      IPv4.TransportChecksumValid (clientPacket.take 28) ∧
      ¬ (bridgeAt 0x0a000002).SourceNatValid (fun _ => .resultOk) clientPacket 28 := by
  have hv : IPv4.TransportChecksumValid (clientPacket.take 28) := by decide
  refine ⟨clientPacket_accepted _, clientPacket_isTransport, hv, ?_⟩
  rintro ⟨f', handled', he', -, -, hvalid⟩
  obtain ⟨f, handled, he, -, -, htransport⟩ := processOutbound_checksums
    (clientPacket_accepted 0x0a000002) clientPacket_isTransport hv (fun _ => .resultOk)
  rw [he, Except.ok.injEq, Prod.mk.injEq, Option.some.injEq] at he'
  rw [← he'.1, htransport] at hvalid
  revert hvalid
  decide

end TetherL3Bridge

end XnetZt
