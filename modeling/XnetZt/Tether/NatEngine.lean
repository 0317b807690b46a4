import XnetZt.Net.IPPacket
import XnetZt.Tether.L3Bridge

/-!
# Connection tracking for tethered traffic

`NatEngine` sees every IPv4 packet read from the tunnel. Packets from a tether subnet
get a TTL of 64, with an incremental update of the header checksum, and are counted
per connection. The packet buffer is changed in place, so `processOutbound` returns it.
The main result is that no packet inside its buffer makes it throw, and that of the
buffer only the TTL and the header checksum change.
-/

namespace XnetZt

/-- An interface found by `TetherDetector`, which reports IPv4 addresses only. -/
structure TetherInterface where
  address : InetAddress
  prefixLength : ℤ
  isInet4 : address.isInet4 = true

def TetherInterface.inet4 (raw : BitVec 32) (prefixLength : ℤ) : TetherInterface :=
  ⟨.inet4 raw, prefixLength, InetAddress.isInet4_inet4 raw⟩

namespace TetherBridge

/-- The arguments are the `int`s that `ByteBuffer.wrap(..).getInt()` reads. -/
def isInSubnet (addr subnet : BitVec 32) (prefixLength : ℤ) : Bool :=
  addr &&& subnetMask prefixLength == subnet &&& subnetMask prefixLength

def isTetherSubnetAddress (interfaces : List TetherInterface) (ipv4Bytes : Bytes) :
    Except JavaException Bool :=
  interfaces.foldlM (fun found iface => do
    if found then return true
    let addr ← ipv4Bytes.getInt 0
    let subnet ← iface.address.getAddress.getInt 0
    return isInSubnet addr subnet iface.prefixLength) false

end TetherBridge

structure ConnectionEntry where
  srcAddr : Bytes
  dstAddr : Bytes
  srcPort : ℕ
  dstPort : ℕ
  protocol : ℕ
  lastSeen : ℕ
  bytesOut : BitVec 64
  bytesIn : BitVec 64
  deriving DecidableEq

structure NatEngine where
  ttlFixEnabled : Bool
  bytesForwarded : BitVec 64
  packetsForwarded : BitVec 64
  connectionTable : HashMap (BitVec 32) ConnectionEntry

namespace NatEngine

def defaultTtl : ℕ := 64

/-- `(x & 0xFFFF) + (x >> 16)` on a signed `int`. -/
def foldOnce (x : ℤ) : ℤ := x % 65536 + x / 65536

def fixTtl (packet : Bytes) : Except JavaException Bytes := do
  let oldTtl := (← packet.read 8).toNat
  if oldTtl = defaultTtl then return packet
  let packet ← packet.write 8 (BitVec.ofNat 8 defaultTtl)
  let hi ← packet.read 10
  let lo ← packet.read 11
  let oldChecksum := 256 * hi.toNat + lo.toNat
  let diff : ℤ := oldTtl - defaultTtl
  let newChecksum := foldOnce (foldOnce (oldChecksum + diff * 256))
  let packet ← packet.write 10 (BitVec.ofInt 8 (newChecksum / 256))
  packet.write 11 (BitVec.ofInt 8 newChecksum)

/-- `h * 31 + packet[i]` in 32-bit arithmetic, with signed bytes, over the eight address
bytes and then the two ports. -/
def hashConnection (packet : Bytes) (srcPort dstPort protocol : ℕ) :
    Except JavaException (BitVec 32) := do
  let h ← (List.range' 12 8).foldlM (fun (h : BitVec 32) i => do
    let b ← packet.read i
    return h * 31 + b.signExtend 32) (BitVec.ofNat 32 protocol)
  let h := h * 31 + BitVec.ofNat 32 srcPort
  return h * 31 + BitVec.ofNat 32 dstPort

/-- The big-endian port at an offset. -/
def readPort (packet : Bytes) (i : ℕ) : Except JavaException ℕ := do
  let hi ← packet.read i
  let lo ← packet.read (i + 1)
  return 256 * hi.toNat + lo.toNat

/-- The entry of a flow; a new one starts without traffic. -/
def flowEntry (e : NatEngine) (now : ℕ) (packet : Bytes) (key : BitVec 32)
    (srcPort dstPort protocol : ℕ) : Except JavaException ConnectionEntry :=
  match e.connectionTable.lookup key with
  | some entry => return entry
  | none => do
    let src ← Bytes.arraycopy packet 12 (.zeros 4) 0 4
    let dst ← Bytes.arraycopy packet 16 (.zeros 4) 0 4
    return ⟨src, dst, srcPort, dstPort, protocol, now, 0, 0⟩

/-- The entry after one more packet of `length` bytes. -/
def countPacket (entry : ConnectionEntry) (now length : ℕ) (outbound : Bool) : ConnectionEntry :=
  if outbound then
    { entry with lastSeen := now, bytesOut := entry.bytesOut + BitVec.ofNat 64 length }
  else { entry with lastSeen := now, bytesIn := entry.bytesIn + BitVec.ofNat 64 length }

def trackConnection (e : NatEngine) (now : ℕ) (packet : Bytes) (length : ℕ) (outbound : Bool) :
    Except JavaException NatEngine := do
  let ihl := (← packet.read 0).toNat % 16 * 4
  if length < ihl + 4 then return e
  let protocol := (← packet.read 9).toNat
  if protocol ≠ 6 ∧ protocol ≠ 17 then return e
  let srcPort ← readPort packet ihl
  let dstPort ← readPort packet (ihl + 2)
  let key ← hashConnection packet srcPort dstPort protocol
  let entry ← e.flowEntry now packet key srcPort dstPort protocol
  return { e with
    connectionTable := e.connectionTable.insert key (countPacket entry now length outbound) }

def fixTtlIfEnabled (e : NatEngine) (packet : Bytes) : Except JavaException Bytes :=
  if e.ttlFixEnabled then fixTtl packet else return packet

/-- The result, the engine and the packet buffer after the call. -/
def processOutbound (e : NatEngine) (now : ℕ) (interfaces : List TetherInterface) (packet : Bytes)
    (length : ℕ) : Except JavaException (Bool × NatEngine × Bytes) := do
  if length < 20 then return (false, e, packet)
  if (← packet.read 0).toNat / 16 ≠ 4 then return (false, e, packet)
  let srcIp ← Bytes.arraycopy packet 12 (.zeros 4) 0 4
  if !(← TetherBridge.isTetherSubnetAddress interfaces srcIp) then return (false, e, packet)
  let packet ← e.fixTtlIfEnabled packet
  let e ← e.trackConnection now packet length true
  return (true, { e with
    packetsForwarded := e.packetsForwarded + 1
    bytesForwarded := e.bytesForwarded + BitVec.ofNat 64 length }, packet)

/-! ### Totality -/

/-- `p'` is `p` up to the TTL and the header checksum. -/
def SameButTtl (p p' : Bytes) : Prop :=
  p' = p ∨ ∃ ttl hi lo, p' = ((p.set 8 ttl).set 10 hi).set 11 lo

section SameButTtl

variable {p p' : Bytes} (h : SameButTtl p p')

include h

theorem SameButTtl.length : p'.length = p.length := by
  rcases h with rfl | ⟨ttl, hi, lo, rfl⟩
  · rfl
  · simp

theorem SameButTtl.drop : p'.drop 12 = p.drop 12 := by
  rcases h with rfl | ⟨ttl, hi, lo, rfl⟩
  · rfl
  · rw [List.drop_set_of_lt (by omega), List.drop_set_of_lt (by omega),
      List.drop_set_of_lt (by omega)]

theorem SameButTtl.head : p'.getD 0 0 = p.getD 0 0 := by
  rcases h with rfl | ⟨ttl, hi, lo, rfl⟩
  · rfl
  · simp [List.getD_eq_getElem?_getD]

theorem SameButTtl.getD {i : ℕ} (hi : 12 ≤ i) : p'.getD i 0 = p.getD i 0 := by
  have hdrop : ∀ q : Bytes, q.getD i 0 = (q.drop 12).getD (i - 12) 0 := by
    intro q
    simp [List.getD_eq_getElem?_getD, show 12 + (i - 12) = i by omega]
  rw [hdrop, hdrop, h.drop]

theorem SameButTtl.slice {i : ℕ} (hi : 12 ≤ i) (n : ℕ) : p'.slice i n = p.slice i n := by
  have hdrop : ∀ q : Bytes, q.drop i = (q.drop 12).drop (i - 12) := by
    intro q
    rw [List.drop_drop, show 12 + (i - 12) = i by omega]
  rw [Bytes.slice, Bytes.slice, hdrop, hdrop p, h.drop]

end SameButTtl

theorem isTetherSubnetAddress_eq_ok (interfaces : List TetherInterface) {ipv4Bytes : Bytes}
    (h : ipv4Bytes.length = 4) :
    ∃ r, TetherBridge.isTetherSubnetAddress interfaces ipv4Bytes = .ok r := by
  refine exists_foldlM_eq_ok (fun iface _ found => ?_) false
  have hi : iface.address.getAddress.length = 4 := by
    rw [InetAddress.length_getAddress, if_pos iface.isInet4]
  cases found with
  | true => exact ⟨true, rfl⟩
  | false =>
    rw [Bytes.getInt_eq_ok (by omega), Bytes.getInt_eq_ok (by omega)]
    exact ⟨_, rfl⟩

theorem fixTtl_eq_ok {packet : Bytes} (h : 12 ≤ packet.length) :
    ∃ p', fixTtl packet = .ok p' ∧ SameButTtl packet p' := by
  unfold fixTtl
  rw [Bytes.read_eq_ok (by omega), ok_bind]
  dsimp only
  split_ifs
  · exact ⟨packet, rfl, Or.inl rfl⟩
  · rw [Bytes.write_eq_ok _ (by omega), ok_bind, Bytes.read_eq_ok (by simp; omega), ok_bind,
      Bytes.read_eq_ok (by simp; omega), ok_bind, Bytes.write_eq_ok _ (by simp; omega), ok_bind,
      Bytes.write_eq_ok _ (by simp; omega)]
    exact ⟨_, rfl, Or.inr ⟨_, _, _, rfl⟩⟩

theorem fixTtlIfEnabled_eq_ok (e : NatEngine) {packet : Bytes} (h : 12 ≤ packet.length) :
    ∃ p', e.fixTtlIfEnabled packet = .ok p' ∧ SameButTtl packet p' := by
  unfold fixTtlIfEnabled
  split_ifs
  · exact fixTtl_eq_ok h
  · exact ⟨packet, rfl, Or.inl rfl⟩

theorem hashConnection_eq_ok {packet : Bytes} (h : 20 ≤ packet.length)
    (srcPort dstPort protocol : ℕ) :
    ∃ key, hashConnection packet srcPort dstPort protocol = .ok key := by
  have hloop : ∃ k, (List.range' 12 8).foldlM (fun (h : BitVec 32) i => do
      let b ← packet.read i
      return h * 31 + b.signExtend 32) (BitVec.ofNat 32 protocol) = .ok k := by
    refine exists_foldlM_eq_ok (fun i hi k => ?_) _
    rw [List.mem_range'] at hi
    rw [Bytes.read_eq_ok (by omega)]
    exact ⟨_, rfl⟩
  obtain ⟨k, hk⟩ := hloop
  exact ⟨_, by rw [hashConnection, hk]; rfl⟩

theorem readPort_eq_ok {packet : Bytes} {i : ℕ} (h : i + 2 ≤ packet.length) :
    ∃ port, readPort packet i = .ok port := by
  unfold readPort
  rw [Bytes.read_eq_ok (by omega), ok_bind, Bytes.read_eq_ok (by omega)]
  exact ⟨_, rfl⟩

theorem flowEntry_eq_ok (e : NatEngine) (now : ℕ) {packet : Bytes} (h : 20 ≤ packet.length)
    (key : BitVec 32) (srcPort dstPort protocol : ℕ) :
    ∃ entry, e.flowEntry now packet key srcPort dstPort protocol = .ok entry := by
  unfold flowEntry
  cases e.connectionTable.lookup key with
  | some entry => exact ⟨entry, rfl⟩
  | none =>
    dsimp only
    rw [Bytes.arraycopy_new (by omega), ok_bind, Bytes.arraycopy_new (by omega)]
    exact ⟨_, rfl⟩

theorem trackConnection_eq_ok (e : NatEngine) (now : ℕ) {packet : Bytes} {length : ℕ}
    (h20 : 20 ≤ packet.length) (hlen : length ≤ packet.length) (outbound : Bool) :
    ∃ e', e.trackConnection now packet length outbound = .ok e' := by
  unfold trackConnection
  rw [Bytes.read_eq_ok (by omega), ok_bind]
  dsimp only
  split_ifs with hl
  · exact ⟨e, rfl⟩
  rw [Bytes.read_eq_ok (by omega), ok_bind]
  split_ifs with hproto
  · exact ⟨e, rfl⟩
  have hports : (packet.getD 0 0).toNat % 16 * 4 + 4 ≤ packet.length := by omega
  obtain ⟨srcPort, hs⟩ := readPort_eq_ok
    (show (packet.getD 0 0).toNat % 16 * 4 + 2 ≤ packet.length by omega)
  obtain ⟨dstPort, hd⟩ := readPort_eq_ok
    (show (packet.getD 0 0).toNat % 16 * 4 + 2 + 2 ≤ packet.length by omega)
  obtain ⟨key, hk⟩ := hashConnection_eq_ok h20 srcPort dstPort (packet.getD 9 0).toNat
  obtain ⟨entry, he⟩ := e.flowEntry_eq_ok now h20 key srcPort dstPort (packet.getD 9 0).toNat
  rw [hs, ok_bind, hd, ok_bind, hk, ok_bind, he]
  exact ⟨_, rfl⟩

/-- No packet inside its buffer makes the engine throw, and the buffer keeps its length,
its first byte and everything from the source address on. -/
theorem processOutbound_eq_ok (e : NatEngine) (now : ℕ) (interfaces : List TetherInterface)
    {packet : Bytes} {length : ℕ} (hlen : length ≤ packet.length) :
    ∃ r e' p', e.processOutbound now interfaces packet length = .ok (r, e', p') ∧
      SameButTtl packet p' := by
  unfold processOutbound
  split_ifs with h20
  · exact ⟨_, _, _, rfl, Or.inl rfl⟩
  rw [Bytes.read_eq_ok (by omega), ok_bind]
  split_ifs with hv
  · exact ⟨_, _, _, rfl, Or.inl rfl⟩
  obtain ⟨tether, ht⟩ := isTetherSubnetAddress_eq_ok interfaces
    (Bytes.length_slice (show 12 + 4 ≤ packet.length by omega))
  rw [Bytes.arraycopy_new (by omega), ok_bind, ht, ok_bind]
  cases tether with
  | false => exact ⟨_, _, _, rfl, Or.inl rfl⟩
  | true =>
    obtain ⟨p', hp, hsame⟩ := e.fixTtlIfEnabled_eq_ok (show 12 ≤ packet.length by omega)
    have hp' := hsame.length
    obtain ⟨e', he⟩ := e.trackConnection_eq_ok now (show 20 ≤ p'.length by omega)
      (show length ≤ p'.length by omega) true
    rw [if_neg (by simp), hp, ok_bind, he]
    exact ⟨_, _, _, rfl, hsame⟩

end NatEngine

end XnetZt
