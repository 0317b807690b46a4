import XnetZt.Lib.Run
import XnetZt.Net.InetAddress

/-!
# The ARP and NDP tables

`ARPTable` and `NDPTable` are one data structure: four hash maps between addresses and
MACs, two of which hold entry objects with a time stamp. One entry object is put into
both of these maps, and refreshing it through one map is seen through the other, so an
entry carries its identity `ref` and the mutable time stamps are kept beside the maps.
The class constants and `processARPPacket` come at the end.
-/

namespace XnetZt

/-- A Java `long` holding an Ethernet address; `-1` answers a failed lookup. -/
abbrev Mac := BitVec 64

/-- `ARPEntry` and `NDPEntry` without their mutable time stamp. -/
structure NeighborEntry where
  ref : ℕ
  mac : Mac
  address : InetAddress
  deriving DecidableEq

structure NeighborTable where
  entriesMap : HashMap Mac NeighborEntry
  inetAddressToMacAddress : HashMap InetAddress Mac
  ipEntriesMap : HashMap InetAddress NeighborEntry
  macAddressToInetAddress : HashMap Mac InetAddress
  /-- `getTime()` of the entry object with the given identity. -/
  time : ℕ → ℕ
  nextRef : ℕ

namespace NeighborTable

def empty : NeighborTable := ⟨∅, ∅, ∅, ∅, fun _ => 0, 0⟩

instance : Inhabited NeighborTable := ⟨empty⟩

def setAddress (t : NeighborTable) (now : ℕ) (inetAddress : InetAddress) (j : Mac) :
    NeighborTable :=
  let entry : NeighborEntry := ⟨t.nextRef, j, inetAddress⟩
  { inetAddressToMacAddress := t.inetAddressToMacAddress.insert inetAddress j
    macAddressToInetAddress := t.macAddressToInetAddress.insert j inetAddress
    entriesMap := t.entriesMap.insert j entry
    ipEntriesMap := t.ipEntriesMap.insert inetAddress entry
    time := Function.update t.time t.nextRef now
    nextRef := t.nextRef + 1 }

/-- `updateTime()` on an entry that a map lookup found. -/
def updateTime (t : NeighborTable) (now : ℕ) : Option NeighborEntry → NeighborTable
  | none => t
  | some e => { t with time := Function.update t.time e.ref now }

def getMacForAddress (t : NeighborTable) (now : ℕ) (inetAddress : InetAddress) :
    Mac × NeighborTable :=
  match t.inetAddressToMacAddress.lookup inetAddress with
  | none => (-1, t)
  | some mac => (mac, t.updateTime now (t.entriesMap.lookup mac))

def getAddressForMac (t : NeighborTable) (now : ℕ) (j : Mac) :
    Option InetAddress × NeighborTable :=
  match t.macAddressToInetAddress.lookup j with
  | none => (none, t)
  | some a => (some a, t.updateTime now (t.ipEntriesMap.lookup a))

def hasMacForAddress (t : NeighborTable) (inetAddress : InetAddress) : Bool :=
  (t.inetAddressToMacAddress.lookup inetAddress).isSome

def hasAddressForMac (t : NeighborTable) (j : Mac) : Bool :=
  (t.macAddressToInetAddress.lookup j).isSome

/-- The four removals of the timeout thread for one entry. -/
def remove (t : NeighborTable) (e : NeighborEntry) : NeighborTable :=
  { t with
    macAddressToInetAddress := t.macAddressToInetAddress.erase e.mac
    inetAddressToMacAddress := t.inetAddressToMacAddress.erase e.address
    entriesMap := t.entriesMap.erase e.mac
    ipEntriesMap := t.ipEntriesMap.erase e.address }

/-- `getTime() + ENTRY_TIMEOUT < System.currentTimeMillis()` -/
def Expired (timeout now : ℕ) (t : NeighborTable) (e : NeighborEntry) : Prop :=
  t.time e.ref + timeout < now

instance (timeout now : ℕ) (t : NeighborTable) (e : NeighborEntry) :
    Decidable (Expired timeout now t e) :=
  inferInstanceAs (Decidable (_ < _))

/-- The loop of the timeout thread over a snapshot of `entriesMap.values()`. -/
def sweepOver (timeout now : ℕ) (snapshot : List NeighborEntry) (t : NeighborTable) :
    NeighborTable :=
  snapshot.foldl (fun t e => if Expired timeout now t e then t.remove e else t) t

def values (t : NeighborTable) : List NeighborEntry := t.entriesMap.entries.map Sigma.snd

def sweep (timeout now : ℕ) (order : IterationOrder NeighborEntry) (t : NeighborTable) :
    NeighborTable :=
  t.sweepOver timeout now (order.arrange t.values)

/-! ### Lookups after each operation -/

theorem lookup_insert_eq {κ ν : Type*} [DecidableEq κ] (m : HashMap κ ν) (k k' : κ) (v : ν) :
    (m.insert k' v).lookup k = if k = k' then some v else m.lookup k := by
  split_ifs with h
  · subst h
    exact AList.lookup_insert m
  · exact AList.lookup_insert_ne h

theorem lookup_erase_eq {κ ν : Type*} [DecidableEq κ] (m : HashMap κ ν) (k k' : κ) :
    (m.erase k').lookup k = if k = k' then none else m.lookup k := by
  split_ifs with h
  · subst h
    exact AList.lookup_erase k m
  · exact AList.lookup_erase_ne h

section SetAddress

variable (t : NeighborTable) (now : ℕ) (a : InetAddress) (j : Mac)

@[simp] theorem setAddress_inetAddressToMacAddress (k : InetAddress) :
    (t.setAddress now a j).inetAddressToMacAddress.lookup k =
      if k = a then some j else t.inetAddressToMacAddress.lookup k :=
  lookup_insert_eq _ _ _ _

@[simp] theorem setAddress_macAddressToInetAddress (k : Mac) :
    (t.setAddress now a j).macAddressToInetAddress.lookup k =
      if k = j then some a else t.macAddressToInetAddress.lookup k :=
  lookup_insert_eq _ _ _ _

@[simp] theorem setAddress_entriesMap (k : Mac) :
    (t.setAddress now a j).entriesMap.lookup k =
      if k = j then some ⟨t.nextRef, j, a⟩ else t.entriesMap.lookup k :=
  lookup_insert_eq _ _ _ _

@[simp] theorem setAddress_ipEntriesMap (k : InetAddress) :
    (t.setAddress now a j).ipEntriesMap.lookup k =
      if k = a then some ⟨t.nextRef, j, a⟩ else t.ipEntriesMap.lookup k :=
  lookup_insert_eq _ _ _ _

end SetAddress

/-- A lookup that refreshes an entry changes time stamps only. -/
theorem updateTime_maps (t : NeighborTable) (now : ℕ) (e : Option NeighborEntry) :
    (t.updateTime now e).entriesMap = t.entriesMap ∧
      (t.updateTime now e).inetAddressToMacAddress = t.inetAddressToMacAddress ∧
      (t.updateTime now e).ipEntriesMap = t.ipEntriesMap ∧
      (t.updateTime now e).macAddressToInetAddress = t.macAddressToInetAddress ∧
      (t.updateTime now e).nextRef = t.nextRef := by
  cases e <;> simp [updateTime]

theorem time_updateTime (t : NeighborTable) (now ref : ℕ) (e : Option NeighborEntry) :
    (t.updateTime now e).time ref = t.time ref ∨
      ((t.updateTime now e).time ref = now ∧ ∃ e', e = some e' ∧ e'.ref = ref) := by
  cases e with
  | none => exact Or.inl rfl
  | some e =>
    by_cases h : ref = e.ref
    · exact Or.inr ⟨by simp [updateTime, h], e, rfl, h.symm⟩
    · exact Or.inl (by simp [updateTime, h])

theorem mem_values {t : NeighborTable} {e : NeighborEntry} :
    e ∈ t.values ↔ ∃ m, t.entriesMap.lookup m = some e := by
  simp only [values, List.mem_map]
  constructor
  · rintro ⟨⟨m, e'⟩, hmem, rfl⟩
    exact ⟨m, AList.mem_lookup_iff.mpr hmem⟩
  · rintro ⟨m, hm⟩
    exact ⟨⟨m, e⟩, AList.mem_lookup_iff.mp hm, rfl⟩

section Sweep

variable (timeout now : ℕ) (l : List NeighborEntry) (t : NeighborTable)

@[simp] theorem sweepOver_time : (t.sweepOver timeout now l).time = t.time := by
  induction l generalizing t with
  | nil => rfl
  | cons e l ih =>
    rw [sweepOver, List.foldl_cons]
    refine (ih _).trans ?_
    split_ifs <;> rfl

@[simp] theorem sweepOver_nextRef : (t.sweepOver timeout now l).nextRef = t.nextRef := by
  induction l generalizing t with
  | nil => rfl
  | cons e l ih =>
    rw [sweepOver, List.foldl_cons]
    refine (ih _).trans ?_
    split_ifs <;> rfl

/-- The loop keeps a key of a map exactly when no expired entry of the snapshot names
it. `get` reads one of the four maps, `key` the field of the entry it is keyed by. -/
theorem sweepOver_eq_some {κ ν : Type} [DecidableEq κ] (get : NeighborTable → HashMap κ ν)
    (key : NeighborEntry → κ) (hget : ∀ t e, get (t.remove e) = (get t).erase (key e)) {k : κ}
    {v : ν} : (get (t.sweepOver timeout now l)).lookup k = some v ↔
      (∀ e ∈ l, Expired timeout now t e → key e ≠ k) ∧ (get t).lookup k = some v := by
  induction l generalizing t with
  | nil => simp [sweepOver]
  | cons e l ih =>
    rw [sweepOver, List.foldl_cons]
    refine (ih _).trans ?_
    by_cases he : Expired timeout now t e
    · have hexp : ∀ e', Expired timeout now (t.remove e) e' ↔ Expired timeout now t e' :=
        fun _ => Iff.rfl
      rw [if_pos he]
      simp only [hexp, hget, lookup_erase_eq, List.forall_mem_cons, he, true_imp_iff]
      by_cases hk : k = key e
      · simp [hk]
      · simp [hk, Ne.symm hk]
    · simp [he]

end Sweep

section Sweep

variable (timeout now : ℕ) (order : IterationOrder NeighborEntry) (t : NeighborTable)

theorem sweep_eq_some {κ ν : Type} [DecidableEq κ] (get : NeighborTable → HashMap κ ν)
    (key : NeighborEntry → κ) (hget : ∀ t e, get (t.remove e) = (get t).erase (key e)) {k : κ}
    {v : ν} : (get (t.sweep timeout now order)).lookup k = some v ↔
      (∀ e ∈ t.values, Expired timeout now t e → key e ≠ k) ∧ (get t).lookup k = some v := by
  rw [sweep, sweepOver_eq_some _ _ _ _ get key hget]
  simp only [order.mem_arrange]

theorem sweep_inetAddressToMacAddress {a : InetAddress} {m : Mac} :
    (t.sweep timeout now order).inetAddressToMacAddress.lookup a = some m ↔
      (∀ e ∈ t.values, Expired timeout now t e → e.address ≠ a) ∧
        t.inetAddressToMacAddress.lookup a = some m :=
  sweep_eq_some _ _ _ _ inetAddressToMacAddress (·.address) (fun _ _ => rfl)

theorem sweep_ipEntriesMap {a : InetAddress} {e : NeighborEntry} :
    (t.sweep timeout now order).ipEntriesMap.lookup a = some e ↔
      (∀ e ∈ t.values, Expired timeout now t e → e.address ≠ a) ∧
        t.ipEntriesMap.lookup a = some e :=
  sweep_eq_some _ _ _ _ ipEntriesMap (·.address) (fun _ _ => rfl)

theorem sweep_macAddressToInetAddress {m : Mac} {a : InetAddress} :
    (t.sweep timeout now order).macAddressToInetAddress.lookup m = some a ↔
      (∀ e ∈ t.values, Expired timeout now t e → e.mac ≠ m) ∧
        t.macAddressToInetAddress.lookup m = some a :=
  sweep_eq_some _ _ _ _ macAddressToInetAddress (·.mac) (fun _ _ => rfl)

theorem sweep_entriesMap {m : Mac} {e : NeighborEntry} :
    (t.sweep timeout now order).entriesMap.lookup m = some e ↔
      (∀ e ∈ t.values, Expired timeout now t e → e.mac ≠ m) ∧
        t.entriesMap.lookup m = some e :=
  sweep_eq_some _ _ _ _ entriesMap (·.mac) (fun _ _ => rfl)

@[simp] theorem sweep_time : (t.sweep timeout now order).time = t.time :=
  sweepOver_time _ _ _ _

@[simp] theorem sweep_nextRef : (t.sweep timeout now order).nextRef = t.nextRef :=
  sweepOver_nextRef _ _ _ _

end Sweep

/-! ### Runs -/

/-- The operations of a table that change it. -/
inductive Op
  | setAddress (inetAddress : InetAddress) (j : Mac)
  | getMacForAddress (inetAddress : InetAddress)
  | getAddressForMac (j : Mac)
  | sweep (order : IterationOrder NeighborEntry)

/-- An operation and the reading of the clock it executes at. -/
structure Event where
  now : ℕ
  op : Op

/-- The two classes that implement the table. -/
inductive TableClass
  | arpTable
  | ndpTable
  deriving DecidableEq

/-- `ENTRY_TIMEOUT` of each class, in milliseconds. -/
def TableClass.entryTimeout : TableClass → ℕ
  | arpTable => 120000
  | ndpTable => 120000

def step (c : TableClass) (t : NeighborTable) (e : Event) : NeighborTable :=
  match e.op with
  | .setAddress inetAddress j => t.setAddress e.now inetAddress j
  | .getMacForAddress inetAddress => (t.getMacForAddress e.now inetAddress).2
  | .getAddressForMac j => (t.getAddressForMac e.now j).2
  | .sweep order => t.sweep c.entryTimeout e.now order

/-- The clock does not run backwards. -/
def ClockOrdered (events : List Event) : Prop := events.Pairwise (fun a b => a.now ≤ b.now)

/-- Both lookups are refreshes of at most one entry, which the map they consult names. -/
theorem getMacForAddress_eq (t : NeighborTable) (now : ℕ) (a : InetAddress) :
    (t.getMacForAddress now a).2 = t ∨
      ∃ m, t.inetAddressToMacAddress.lookup a = some m ∧
        (t.getMacForAddress now a).2 = t.updateTime now (t.entriesMap.lookup m) := by
  unfold getMacForAddress
  split
  · exact Or.inl rfl
  · exact Or.inr ⟨_, by assumption, rfl⟩

theorem getAddressForMac_eq (t : NeighborTable) (now : ℕ) (j : Mac) :
    (t.getAddressForMac now j).2 = t ∨
      ∃ a, (t.getAddressForMac now j).1 = some a ∧
        (t.getAddressForMac now j).2 = t.updateTime now (t.ipEntriesMap.lookup a) := by
  unfold getAddressForMac
  split
  · exact Or.inl rfl
  · exact Or.inr ⟨_, rfl, rfl⟩

end NeighborTable

namespace ARPTable

structure ARPReplyData where
  destMac : Mac
  destAddress : Option InetAddress
  deriving DecidableEq

def request : Byte := 1

/-- An address read from a frame is entered unless its MAC is zero. -/
def setAddressIfKnown (t : NeighborTable) (now : ℕ) (mac : Mac) :
    Option InetAddress → NeighborTable
  | some address => if mac ≠ 0 then t.setAddress now address mac else t
  | none => t

/-- The bytes are all copied out before the table is touched, so a frame that is too
short raises its exception with the table unchanged. -/
def processARPPacket (t : NeighborTable) (now : ℕ) (packetData : Bytes) :
    Except JavaException (NeighborTable × Option ARPReplyData) := do
  let rawSrcMac ← Bytes.arraycopy packetData 8 (.zeros 8) 2 6
  let rawSrcAddress ← Bytes.arraycopy packetData 14 (.zeros 4) 0 4
  let rawDstMac ← Bytes.arraycopy packetData 18 (.zeros 8) 2 6
  let rawDstAddress ← Bytes.arraycopy packetData 24 (.zeros 4) 0 4
  let srcMac : Mac := BitVec.ofNat 64 (BigEndian.toNat rawSrcMac)
  let dstMac : Mac := BitVec.ofNat 64 (BigEndian.toNat rawDstMac)
  let srcAddress := InetAddress.getByAddress rawSrcAddress
  let dstAddress := InetAddress.getByAddress rawDstAddress
  let t := setAddressIfKnown t now srcMac srcAddress
  let t := setAddressIfKnown t now dstMac dstAddress
  let packetType ← packetData.read 7
  if packetType = request then
    return (t, some ⟨srcMac, srcAddress⟩)
  else
    return (t, none)

/-- What arrives at an ARP table: its own operations and received ARP frames. -/
inductive Event
  | table (e : NeighborTable.Event)
  | processARPPacket (now : ℕ) (packetData : Bytes)

def step (t : NeighborTable) : Event → NeighborTable
  | .table e => t.step .arpTable e
  | .processARPPacket now packetData =>
    match processARPPacket t now packetData with
    | .ok (t, _) => t
    | .error _ => t

/-- A frame enters at most the sender and the target it carries. -/
theorem processARPPacket_eq {t t' : NeighborTable} {now : ℕ} {packetData : Bytes}
    {reply : Option ARPReplyData} (h : processARPPacket t now packetData = .ok (t', reply)) :
    ∃ srcMac srcAddress dstMac dstAddress,
      t' = setAddressIfKnown (setAddressIfKnown t now srcMac srcAddress) now dstMac dstAddress := by
  unfold processARPPacket at h
  obtain ⟨rawSrcMac, -, h⟩ := bind_eq_ok.mp h
  obtain ⟨rawSrcAddress, -, h⟩ := bind_eq_ok.mp h
  obtain ⟨rawDstMac, -, h⟩ := bind_eq_ok.mp h
  obtain ⟨rawDstAddress, -, h⟩ := bind_eq_ok.mp h
  obtain ⟨packetType, -, h⟩ := bind_eq_ok.mp h
  split_ifs at h <;> cases h <;> exact ⟨_, _, _, _, rfl⟩

end ARPTable
end XnetZt
