import XnetZt.Lib.Run
import XnetZt.Lib.Tally
import XnetZt.Tether.TtlFix
import Mathlib.Data.Sym.Sym2

/-!
# Connections and the table that counts them

`trackConnection` keeps its entries under a 32-bit hash of the protocol, the addresses and
the ports in the order in which the packet has them. A flow has no such order: both
directions of a conversation belong to it. The table has one entry for each flow, with its
traffic, exactly on the runs in which every tracked packet has the hash of an earlier one
just if it is of the same flow, and no flow has more traffic than a `long` counts. A reply
as a rule has another hash than what it answers, and two flows may share one.
-/

namespace XnetZt

/-- A TCP or UDP conversation: the protocol and its two ends, in no order. -/
@[ext] structure Flow where
  protocol : ℕ
  endpoints : Sym2 (Bytes × ℕ)

instance : DecidableEq Flow := fun _ _ => decidable_of_iff _ Flow.ext_iff.symm

namespace NatEngine

open BigEndian Tally

/-- A new engine. -/
def new : NatEngine := ⟨true, 0, 0, ∅⟩

def setTtlFixEnabled (e : NatEngine) (enabled : Bool) : NatEngine :=
  { e with ttlFixEnabled := enabled }

def processInbound (e : NatEngine) (now : ℕ) (interfaces : List TetherInterface) (packet : Bytes)
    (length : ℕ) : Except JavaException (Bool × NatEngine) := do
  if length < 20 then return (false, e)
  if (← packet.read 0).toNat / 16 ≠ 4 then return (false, e)
  let dstIp ← Bytes.arraycopy packet 16 (.zeros 4) 0 4
  if !(← TetherBridge.isTetherSubnetAddress interfaces dstIp) then return (false, e)
  let e ← e.trackConnection now packet length false
  return (true, { e with bytesForwarded := e.bytesForwarded + BitVec.ofNat 64 length })

def getActiveConnections (e : NatEngine) : ℕ := e.connectionTable.keys.length

def reset (e : NatEngine) : NatEngine :=
  { e with bytesForwarded := 0, packetsForwarded := 0, connectionTable := ∅ }

/-! ### What a packet says of its connection -/

section Packets

variable (packet : Bytes)

def srcPort : ℕ := word16 packet (IPv4.headerLength packet)

def dstPort : ℕ := word16 packet (IPv4.headerLength packet + 2)

/-- The flow of a packet, whichever way it goes. -/
def flow : Flow where
  protocol := IPv4.protocol packet
  endpoints := s((IPv4.source packet, srcPort packet), (IPv4.destination packet, dstPort packet))

/-- The part of the hash that the two addresses make, from a start value. -/
def addressHash (start : BitVec 32) : BitVec 32 :=
  (List.range' 12 8).foldl (fun h i => h * 31 + (packet.getD i 0).signExtend 32) start

/-- The hash of a packet that has all its fields. -/
def connectionKey : BitVec 32 :=
  (addressHash packet (BitVec.ofNat 32 (IPv4.protocol packet)) * 31 +
    BitVec.ofNat 32 (srcPort packet)) * 31 + BitVec.ofNat 32 (dstPort packet)

/-- What there is to count of a packet: it is TCP or UDP and long enough for both ports. -/
def observation (length : ℕ) (outbound : Bool) : Option (Observation (BitVec 32) Flow) :=
  if length < IPv4.headerLength packet + 4 then none
  else if IPv4.protocol packet ≠ 6 ∧ IPv4.protocol packet ≠ 17 then none
  else some ⟨connectionKey packet, flow packet, length, outbound⟩

end Packets

/-- The flow of an entry. -/
def entryFlow (entry : ConnectionEntry) : Flow :=
  ⟨entry.protocol, s((entry.srcAddr, entry.srcPort), (entry.dstAddr, entry.dstPort))⟩

/-- The entry is of the flow, with its traffic as far as a `long` holds it. -/
structure StandsFor (entry : ConnectionEntry) (e : Entry Flow) : Prop where
  flow : entryFlow entry = e.kind
  bytesOut : entry.bytesOut = BitVec.ofNat 64 e.sent
  bytesIn : entry.bytesIn = BitVec.ofNat 64 e.received

theorem StandsFor.countPacket {entry : ConnectionEntry} {e : Entry Flow} (h : StandsFor entry e)
    (now : ℕ) (o : Observation (BitVec 32) Flow) :
    StandsFor (countPacket entry now o.amount o.outbound) (e.count o) := by
  obtain ⟨hflow, hout, hin⟩ := h
  cases ho : o.outbound with
  | true =>
    simp only [NatEngine.countPacket, Entry.count, ho, if_true]
    exact ⟨hflow, by rw [hout, ← BitVec.ofNat_add], hin⟩
  | false =>
    simp only [NatEngine.countPacket, Entry.count, ho, Bool.false_eq_true, if_false]
    exact ⟨hflow, hout, by rw [hin, ← BitVec.ofNat_add]⟩

section Tracking

variable {packet : Bytes} {length : ℕ}

theorem hashConnection_eq (h : 20 ≤ packet.length) (srcPort dstPort protocol : ℕ) :
    hashConnection packet srcPort dstPort protocol =
      .ok ((addressHash packet (BitVec.ofNat 32 protocol) * 31 + BitVec.ofNat 32 srcPort) * 31 +
        BitVec.ofNat 32 dstPort) := by
  have hloop : (List.range' 12 8).foldlM (fun (h : BitVec 32) i => do
      let b ← packet.read i
      return h * 31 + b.signExtend 32) (BitVec.ofNat 32 protocol) =
        Except.ok (ε := JavaException) (addressHash packet (BitVec.ofNat 32 protocol)) := by
    apply foldlM_eq_foldl
    intro i hi k
    rw [List.mem_range'] at hi
    rw [Bytes.read_eq_ok (by omega)]
    rfl
  rw [hashConnection, hloop]
  rfl

/-- Only the eight bytes of the addresses count. -/
theorem addressHash_congr {packet' : Bytes}
    (h : ∀ i, 12 ≤ i → i < 20 → packet.getD i 0 = packet'.getD i 0) (start : BitVec 32) :
    addressHash packet start = addressHash packet' start := by
  apply List.foldl_ext
  intro k i hi
  rw [List.mem_range'] at hi
  rw [h i (by omega) (by omega)]

theorem readPort_eq {i : ℕ} (h : i + 2 ≤ packet.length) :
    readPort packet i = .ok (word16 packet i) := by
  unfold readPort
  rw [Bytes.read_eq_ok (by omega), ok_bind, Bytes.read_eq_ok (by omega)]
  rfl

/-- Counting a packet in its entry, new or not, is counting the observation. -/
theorem flowEntry_eq {e : NatEngine} {history : List (Observation (BitVec 32) Flow)}
    (hrep : Represents StandsFor e.connectionTable history) (now : ℕ) (h : 20 ≤ packet.length) :
    ∃ entry, e.flowEntry now packet (connectionKey packet) (srcPort packet) (dstPort packet)
        (IPv4.protocol packet) = .ok entry ∧
      StandsFor entry ((entryAt history (connectionKey packet)).getD ⟨flow packet, 0, 0⟩) := by
  unfold flowEntry
  cases hlookup : e.connectionTable.lookup (connectionKey packet) with
  | some entry =>
    obtain ⟨kept, hkept, hstands⟩ := hrep.exists_of_lookup hlookup
    rw [hkept]
    exact ⟨entry, rfl, hstands⟩
  | none =>
    have hnone : entryAt history (connectionKey packet) = none := by
      rw [← Option.isNone_iff_eq_none, ← Option.not_isSome, ← hrep.isSome, hlookup]
      rfl
    dsimp only
    rw [Bytes.arraycopy_new (by omega), ok_bind, Bytes.arraycopy_new (by omega), hnone]
    exact ⟨_, rfl, rfl, rfl, rfl⟩

/-- `trackConnection` adds what there is to count to what the table stands for. -/
theorem trackConnection_represents {e : NatEngine}
    {history : List (Observation (BitVec 32) Flow)}
    (hrep : Represents StandsFor e.connectionTable history) (now : ℕ) (h20 : 20 ≤ packet.length)
    (hlen : length ≤ packet.length) (outbound : Bool) :
    ∃ e', e.trackConnection now packet length outbound = .ok e' ∧
      Represents StandsFor e'.connectionTable
        ((observation packet length outbound).toList ++ history) := by
  have hihl : IPv4.headerLength packet = (packet.getD 0 0).toNat % 16 * 4 := rfl
  unfold NatEngine.trackConnection observation
  rw [Bytes.read_eq_ok (by omega), ok_bind]
  dsimp only
  rw [← hihl]
  by_cases hports : length < IPv4.headerLength packet + 4
  · rw [if_pos hports, if_pos hports]
    exact ⟨e, rfl, hrep⟩
  have hproto : IPv4.protocol packet = (packet.getD 9 0).toNat := rfl
  rw [if_neg hports, if_neg hports, Bytes.read_eq_ok (by omega), ok_bind, ← hproto]
  by_cases hother : IPv4.protocol packet ≠ 6 ∧ IPv4.protocol packet ≠ 17
  · rw [if_pos hother, if_pos hother]
    exact ⟨e, rfl, hrep⟩
  have hsrc : readPort packet (IPv4.headerLength packet) = .ok (srcPort packet) :=
    readPort_eq (by omega)
  have hdst : readPort packet (IPv4.headerLength packet + 2) = .ok (dstPort packet) :=
    readPort_eq (by omega)
  obtain ⟨entry, hentry, hstands⟩ := flowEntry_eq hrep now h20
  rw [if_neg hother, if_neg hother, hsrc, ok_bind, hdst, ok_bind, hashConnection_eq h20, ok_bind]
  change ∃ e', (flowEntry e now packet (connectionKey packet) _ _ _ >>= _) = _ ∧ _
  rw [hentry]
  exact ⟨_, rfl, hrep.insert (hstands.countPacket now
    ⟨connectionKey packet, flow packet, length, outbound⟩)⟩

end Tracking

/-! ### Calls -/

/-- The packet as the engine lets it pass. -/
def forwarded (e : NatEngine) (packet : Bytes) : Bytes :=
  if e.ttlFixEnabled then fixedTtl packet else packet

theorem length_forwarded (e : NatEngine) (packet : Bytes) :
    (e.forwarded packet).length = packet.length := by
  unfold forwarded
  split_ifs
  · exact length_fixedTtl packet
  · rfl

theorem fixTtlIfEnabled_eq (e : NatEngine) {packet : Bytes} (h : 12 ≤ packet.length) :
    e.fixTtlIfEnabled packet = .ok (e.forwarded packet) := by
  unfold fixTtlIfEnabled forwarded
  split_ifs
  · exact fixTtl_eq h
  · rfl

theorem getD_forwarded (e : NatEngine) (packet : Bytes) {i : ℕ} (h8 : i ≠ 8) (h10 : i ≠ 10)
    (h11 : i ≠ 11) : (e.forwarded packet).getD i 0 = packet.getD i 0 := by
  unfold forwarded
  split_ifs
  · rw [List.getD_eq_getElem?_getD, getElem?_fixedTtl h8 h10 h11, List.getD_eq_getElem?_getD]
  · rfl

/-- The TTL fix is of no concern to the connection if the ports are not where the TTL and
the checksum are, as in every header of at least 20 bytes. -/
theorem observation_forwarded (e : NatEngine) {packet : Bytes} (h12 : 12 ≤ packet.length)
    (h : IPv4.headerLength packet ≠ 8) (length : ℕ) (outbound : Bool) :
    observation (e.forwarded packet) length outbound = observation packet length outbound := by
  obtain ⟨p', hp', hsame⟩ := e.fixTtlIfEnabled_eq_ok h12
  rw [fixTtlIfEnabled_eq e h12, Except.ok.injEq] at hp'
  rw [← hp'] at hsame
  have hihl : IPv4.headerLength (e.forwarded packet) = IPv4.headerLength packet := by
    rw [IPv4.headerLength, hsame.head, IPv4.headerLength]
  have hproto : IPv4.protocol (e.forwarded packet) = IPv4.protocol packet := by
    rw [IPv4.protocol, getD_forwarded e packet (by omega) (by omega) (by omega), IPv4.protocol]
  have hfour : IPv4.headerLength packet % 4 = 0 := by
    unfold IPv4.headerLength
    omega
  have hsrc : srcPort (e.forwarded packet) = srcPort packet := by
    rw [srcPort, hihl, word16, getD_forwarded e packet (by omega) (by omega) (by omega),
      getD_forwarded e packet (by omega) (by omega) (by omega), srcPort, word16]
  have hdst : dstPort (e.forwarded packet) = dstPort packet := by
    rw [dstPort, hihl, word16, getD_forwarded e packet (by omega) (by omega) (by omega),
      getD_forwarded e packet (by omega) (by omega) (by omega), dstPort, word16]
  have hflow : flow (e.forwarded packet) = flow packet := by
    rw [flow, hproto, hsrc, hdst, IPv4.source, IPv4.destination, hsame.slice (by omega),
      hsame.slice (by omega), flow, IPv4.source, IPv4.destination]
  have hkey : connectionKey (e.forwarded packet) = connectionKey packet := by
    have hhash := addressHash_congr fun i h12 _ => hsame.getD h12
    rw [connectionKey, hproto, hsrc, hdst, hhash, connectionKey]
  rw [observation, hihl, hproto, hflow, hkey, observation]

/-- A packet in its buffer, with an `int` as its length. -/
structure Packet where
  bytes : Bytes
  length : ℕ
  length_le : length ≤ bytes.length
  length_lt : length < 2 ^ 31

/-- A call of the engine, at its time and with the tether interfaces of that time. -/
inductive Call where
  | outbound (now : ℕ) (interfaces : List TetherInterface) (packet : Packet)
  | inbound (now : ℕ) (interfaces : List TetherInterface) (packet : Packet)
  | setTtlFixEnabled (enabled : Bool)
  | reset

/-- The engine after a call. -/
def call (e : NatEngine) : Call → NatEngine
  | .outbound now interfaces packet =>
    match e.processOutbound now interfaces packet.bytes packet.length with
    | .ok (_, e', _) => e'
    | .error _ => e
  | .inbound now interfaces packet =>
    match e.processInbound now interfaces packet.bytes packet.length with
    | .ok (_, e') => e'
    | .error _ => e
  | .setTtlFixEnabled enabled => e.setTtlFixEnabled enabled
  | .reset => e.reset

/-- What a call shows of a flow: an IPv4 packet from a tether client, or to one. -/
def seen (e : NatEngine) : Call → Option (Observation (BitVec 32) Flow)
  | .outbound _ interfaces packet =>
    if 20 ≤ packet.length ∧ IPv4.version packet.bytes = 4 ∧
        TetherBridge.isTetherSubnetAddress interfaces (IPv4.source packet.bytes) = .ok true then
      observation (e.forwarded packet.bytes) packet.length true
    else none
  | .inbound _ interfaces packet =>
    if 20 ≤ packet.length ∧ IPv4.version packet.bytes = 4 ∧
        TetherBridge.isTetherSubnetAddress interfaces (IPv4.destination packet.bytes) =
          .ok true then
      observation packet.bytes packet.length false
    else none
  | _ => none

/-- Both directions begin with the same questions, about the source or the destination. -/
theorem tetherGuard_eq {α : Type} (interfaces : List TetherInterface) (p : Packet) {pos : ℕ}
    (hpos : pos + 4 ≤ 20) (other : α) (go : Except JavaException α) :
    (do
      if p.length < 20 then return other
      if (← p.bytes.read 0).toNat / 16 ≠ 4 then return other
      let ip ← Bytes.arraycopy p.bytes pos (.zeros 4) 0 4
      if !(← TetherBridge.isTetherSubnetAddress interfaces ip) then return other
      go) =
    if 20 ≤ p.length ∧ IPv4.version p.bytes = 4 ∧
        TetherBridge.isTetherSubnetAddress interfaces (p.bytes.slice pos 4) = .ok true then go
      else .ok other := by
  have hlen := p.length_le
  by_cases h20 : p.length < 20
  · rw [if_pos h20, if_neg (by omega)]
    rfl
  rw [if_neg h20, Bytes.read_eq_ok (by omega), ok_bind]
  by_cases hv : (p.bytes.getD 0 0).toNat / 16 ≠ 4
  · rw [if_pos hv, if_neg fun h => hv h.2.1]
    rfl
  obtain ⟨tether, ht⟩ := isTetherSubnetAddress_eq_ok interfaces
    (Bytes.length_slice (show pos + 4 ≤ p.bytes.length by omega))
  rw [if_neg hv, Bytes.arraycopy_new (by omega), ok_bind, ht, ok_bind]
  cases tether with
  | false =>
    rw [if_pos (by simp), if_neg (by simp)]
    rfl
  | true => rw [if_neg (by simp), if_pos ⟨by omega, not_not.mp hv, rfl⟩]

/-- What the engine does with a tether packet, it does to what its table stands for. -/
theorem processOutbound_represents {e : NatEngine}
    {history : List (Observation (BitVec 32) Flow)}
    (hrep : Represents StandsFor e.connectionTable history) (now : ℕ)
    (interfaces : List TetherInterface) (p : Packet) :
    ∃ r e' bytes, e.processOutbound now interfaces p.bytes p.length = .ok (r, e', bytes) ∧
      Represents StandsFor e'.connectionTable
        ((e.seen (.outbound now interfaces p)).toList ++ history) := by
  have hlen := p.length_le
  rw [processOutbound, tetherGuard_eq interfaces p (by omega), seen, IPv4.source]
  split_ifs with htether
  · have hforwarded := e.length_forwarded p.bytes
    obtain ⟨e', he', hrep'⟩ := trackConnection_represents hrep now
      (show 20 ≤ (e.forwarded p.bytes).length by omega)
      (show p.length ≤ (e.forwarded p.bytes).length by omega) true
    rw [fixTtlIfEnabled_eq e (by omega), ok_bind, he']
    exact ⟨_, _, _, rfl, hrep'⟩
  · exact ⟨_, _, _, rfl, hrep⟩

theorem processInbound_represents {e : NatEngine}
    {history : List (Observation (BitVec 32) Flow)}
    (hrep : Represents StandsFor e.connectionTable history) (now : ℕ)
    (interfaces : List TetherInterface) (p : Packet) :
    ∃ r e', e.processInbound now interfaces p.bytes p.length = .ok (r, e') ∧
      Represents StandsFor e'.connectionTable
        ((e.seen (.inbound now interfaces p)).toList ++ history) := by
  rw [processInbound, tetherGuard_eq interfaces p (by omega), seen, IPv4.destination]
  split_ifs with htether
  · have hlen := p.length_le
    obtain ⟨e', he', hrep'⟩ := trackConnection_represents hrep now
      (show 20 ≤ p.bytes.length by omega) hlen false
    rw [he']
    exact ⟨_, _, rfl, hrep'⟩
  · exact ⟨_, _, rfl, hrep⟩

theorem amount_observation {packet : Bytes} {length : ℕ} {outbound : Bool}
    {o : Observation (BitVec 32) Flow} (h : o ∈ observation packet length outbound) :
    o.amount = length := by
  unfold observation at h
  split_ifs at h
  · cases h
  · cases h
  · cases h
    rfl

/-- Only packets of at least 20 bytes are counted. -/
theorem amount_of_mem_seen {e : NatEngine} {c : Call} {o : Observation (BitVec 32) Flow}
    (h : o ∈ e.seen c) : 0 < o.amount ∧ o.amount < 2 ^ 31 := by
  cases c with
  | outbound now interfaces p =>
    have hlt := p.length_lt
    rw [seen] at h
    split_ifs at h with hp
    · rw [amount_observation h]
      omega
    · cases h
  | inbound now interfaces p =>
    have hlt := p.length_lt
    rw [seen] at h
    split_ifs at h with hp
    · rw [amount_observation h]
      omega
    · cases h
  | setTtlFixEnabled enabled => cases h
  | reset => cases h

/-! ### Counters -/

/-- What a `long` shows that has counted `n`. -/
def shown (n : ℕ) : ℤ := (BitVec.ofNat 64 n).toInt

theorem shown_eq_iff (n : ℕ) : shown n = n ↔ n < 2 ^ 63 := by
  unfold shown
  rw [BitVec.toInt_eq_toNat_cond, BitVec.toNat_ofNat]
  constructor
  · intro h
    split_ifs at h <;> omega
  · intro h
    split_ifs <;> omega

/-- No packet takes a counter once around. -/
theorem shown_add_ne {n amount : ℕ} (hn : shown n = n) (hpos : 0 < amount)
    (hlt : amount < 2 ^ 31) : shown (n + amount) ≠ n := by
  have hn' := (shown_eq_iff n).mp hn
  unfold shown
  rw [BitVec.toInt_eq_toNat_cond, BitVec.toNat_ofNat]
  split_ifs <;> omega

/-- One more observation only concerns the counter of its flow and direction. -/
theorem countable_cons_iff {history : List (Observation (BitVec 32) Flow)}
    (h : Countable shown history) (o : Observation (BitVec 32) Flow) :
    Countable shown (o :: history) ↔
      total (·.kind = o.kind) o.outbound history + o.amount < 2 ^ 63 := by
  have hown : total (·.kind = o.kind) o.outbound (o :: history) =
      total (·.kind = o.kind) o.outbound history + o.amount := by
    rw [total_cons, if_pos ⟨rfl, rfl⟩, add_comm]
  constructor
  · intro hnext
    have ho := hnext o List.mem_cons_self o.outbound
    rwa [hown, shown_eq_iff] at ho
  · intro hlt o' ho' outbound
    rw [shown_eq_iff]
    by_cases hsame : o.kind = o'.kind ∧ o.outbound = outbound
    · obtain ⟨hkind, rfl⟩ := hsame
      rw [← hkind, hown]
      exact hlt
    · rw [total_cons, if_neg hsame, zero_add]
      by_cases hseen : ∃ o₁ ∈ history, o₁.kind = o'.kind
      · obtain ⟨o₁, ho₁, hkind⟩ := hseen
        rw [← hkind]
        exact (shown_eq_iff _).mp (h o₁ ho₁ outbound)
      · rw [total_eq_zero fun o₁ ho₁ hkind => hseen ⟨o₁, ho₁, hkind⟩]
        decide

/-! ### Whole runs -/

/-- The engine, and everything it has been shown since construction or `reset`, the
newest first. -/
structure Observed where
  engine : NatEngine
  history : List (Observation (BitVec 32) Flow)

namespace Observed

def new : Observed := ⟨.new, []⟩

def step (t : Observed) (c : Call) : Observed where
  engine := t.engine.call c
  history := match c with
    | .reset => []
    | c => (t.engine.seen c).toList ++ t.history

/-- One connection for each flow, and an entry with its traffic. -/
structure ExactPerFlow (t : Observed) : Prop where
  active : t.engine.getActiveConnections = distinct (t.history.map (·.kind))
  traffic : ∀ o ∈ t.history, ∃ key entry, t.engine.connectionTable.lookup key = some entry ∧
    entryFlow entry = o.kind ∧
    entry.bytesOut.toInt = total (·.kind = o.kind) true t.history ∧
    entry.bytesIn.toInt = total (·.kind = o.kind) false t.history

/-- What the call shows has the hash of something shown before just if it is of its flow. -/
def TellsApart (t : Observed) (c : Call) : Prop :=
  ∀ o ∈ t.engine.seen c, Fits t.history o

/-- With what the call shows, a `long` still holds the traffic of its flow and direction. -/
def HoldsTraffic (t : Observed) (c : Call) : Prop :=
  ∀ o ∈ t.engine.seen c, total (·.kind = o.kind) o.outbound t.history + o.amount < 2 ^ 63

/-- The table stands for the history, in which hashes and flows agree and no flow has more
traffic than its counters hold. -/
structure InStep (t : Observed) : Prop where
  represents : Represents StandsFor t.engine.connectionTable t.history
  agrees : Agrees t.history
  countable : Countable shown t.history

variable {t : Observed}

/-- While the table stands for the history, its answers are those of the history. -/
theorem exactPerFlow_iff (hrep : Represents StandsFor t.engine.connectionTable t.history) :
    t.ExactPerFlow ↔ Exact shown t.history := by
  have hactive : t.engine.getActiveConnections = distinct (t.history.map (·.key)) := hrep.length
  constructor
  · intro h
    refine ⟨by rw [← hactive, h.active], fun o ho => ?_⟩
    obtain ⟨key, entry, hentry, hkind, hout, hin⟩ := h.traffic o ho
    obtain ⟨e, he, hstands⟩ := hrep.exists_of_lookup hentry
    rw [hstands.bytesOut] at hout
    rw [hstands.bytesIn] at hin
    exact ⟨key, e, he, hstands.flow.symm.trans hkind, hout, hin⟩
  · intro h
    refine ⟨by rw [hactive, h.size], fun o ho => ?_⟩
    obtain ⟨key, e, he, hkind, hout, hin⟩ := h.amounts o ho
    obtain ⟨entry, hentry, hstands⟩ := hrep.exists_of_entryAt he
    refine ⟨key, entry, hentry, hstands.flow.trans hkind, ?_, ?_⟩
    · rw [hstands.bytesOut]
      exact hout
    · rw [hstands.bytesIn]
      exact hin

theorem represents_step (hrep : Represents StandsFor t.engine.connectionTable t.history)
    (c : Call) : Represents StandsFor (t.step c).engine.connectionTable (t.step c).history := by
  cases c with
  | outbound now interfaces p =>
    obtain ⟨r, e', bytes, he', hrep'⟩ := processOutbound_represents hrep now interfaces p
    simp only [step, call, he']
    exact hrep'
  | inbound now interfaces p =>
    obtain ⟨r, e', he', hrep'⟩ := processInbound_represents hrep now interfaces p
    simp only [step, call, he']
    exact hrep'
  | setTtlFixEnabled enabled => exact hrep
  | reset => exact represents_empty

/-- `reset` shows nothing and forgets; every other call adds what it shows. -/
theorem history_step (t : Observed) (c : Call) :
    t.engine.seen c = none ∧ (t.step c).history = [] ∨
      (t.step c).history = (t.engine.seen c).toList ++ t.history := by
  cases c with
  | outbound now interfaces p => exact Or.inr rfl
  | inbound now interfaces p => exact Or.inr rfl
  | setTtlFixEnabled enabled => exact Or.inr rfl
  | reset => exact Or.inl ⟨rfl, rfl⟩

/-- What a call adds to the history it adds to the agreement. -/
theorem InStep.step (h : t.InStep) {c : Call} (hc : t.TellsApart c ∧ t.HoldsTraffic c) :
    (t.step c).InStep := by
  refine ⟨represents_step h.represents c, ?_, ?_⟩
  · rcases history_step t c with ⟨-, hhistory⟩ | hhistory
    · rw [hhistory]
      exact agrees_nil
    · rw [hhistory]
      cases hseen : t.engine.seen c with
      | none => exact h.agrees
      | some o => exact h.agrees.cons (hc.1 o hseen)
  · rcases history_step t c with ⟨-, hhistory⟩ | hhistory
    · rw [hhistory]
      exact fun o ho => by cases ho
    · rw [hhistory]
      cases hseen : t.engine.seen c with
      | none => exact h.countable
      | some o => exact (countable_cons_iff h.countable o).mpr (hc.2 o hseen)

/-- Exact answers after a call need that it tells flows apart and does not wrap around. -/
theorem InStep.of_exact (h : t.InStep) {c : Call} (hexact : Exact shown (t.step c).history) :
    t.TellsApart c ∧ t.HoldsTraffic c := by
  have hseen : ∀ o ∈ t.engine.seen c, Fits t.history o ∧
      total (·.kind = o.kind) o.outbound t.history + o.amount < 2 ^ 63 := by
    intro o ho
    rcases history_step t c with ⟨hnone, -⟩ | hhistory
    · rw [hnone] at ho
      cases ho
    · rw [hhistory, Option.mem_def.mp ho] at hexact
      obtain ⟨hpos, hlt⟩ := amount_of_mem_seen ho
      rw [← countable_cons_iff h.countable]
      exact (h.agrees.exact_cons_iff h.countable fun n hn => shown_add_ne hn hpos hlt).mp hexact
  exact ⟨fun o ho => (hseen o ho).1, fun o ho => (hseen o ho).2⟩

/-- An empty UDP datagram. -/
def udpBetween (src dst : Bytes) (srcPort dstPort : Byte × Byte) : Bytes :=
  [0x45, 0, 0, 28, 0, 0, 0, 0, 64, 17, 0, 0] ++ src ++ dst ++
    [srcPort.1, srcPort.2, dstPort.1, dstPort.2, 0, 8, 0, 0]

def client : Bytes := [192, 168, 42, 10]

def server : Bytes := [10, 0, 0, 1]

/-- The interface 192.168.42.129/24 that the client is behind. -/
def usb : List TetherInterface := [.inet4 0xc0a82a81 24]

def request : Packet :=
  ⟨udpBetween client server (0x03, 0xe8) (0, 80), 28, by decide, by decide⟩

def reply : Packet :=
  ⟨udpBetween server client (0, 80) (0x03, 0xe8), 28, by decide, by decide⟩

/-- From port 999 to port 111: `31 * 999 + 111` is `31 * 1000 + 80`, so the hash is that of
`request`. -/
def collidingRequest : Packet :=
  ⟨udpBetween client server (0x03, 0xe7) (0, 111), 28, by decide, by decide⟩

end Observed

end NatEngine

end XnetZt
