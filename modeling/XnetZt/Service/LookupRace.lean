import XnetZt.Lib.Handler
import XnetZt.Service.MulticastPackets

/-!
# Lookups that race with the timeout threads

A handler asks a table for a MAC in two calls, `hasMacForAddress` and `getMacForAddress`,
and each of them locks the table for itself; one path makes the second call without the
first. `TunTapAdapter` has the handlers up to `getMacForAddress` and goes on at once; here
they stop there, so that other threads may use the tables in between. The answer to a failed
lookup, `-1`, gets into a frame or into the cache exactly if at some `getMacForAddress` the
address is not in the table.
-/

namespace XnetZt

open NeighborTable (TableClass)
open AdapterM

namespace TunTapAdapter

/-! ### MACs of 48 bits -/

/-- All MACs of a table have 48 bits. -/
def HoldsMacs (t : NeighborTable) : Prop :=
  ∀ a m, t.inetAddressToMacAddress.lookup a = some m → m.toNat < 2 ^ 48

/-- What the frames and the cache are about. -/
structure SendsMacs (s : TunTapAdapter) : Prop where
  sent : ∀ f ∈ s.sent, f.destMac.toNat < 2 ^ 48
  cached : s.cachedDestValid = true → s.cachedDestMac.toNat < 2 ^ 48

/-- Where the MACs come from. -/
structure KnowsMacs (s : TunTapAdapter) : Prop where
  arp : HoldsMacs s.arpTable
  ndp : HoldsMacs s.ndpTable
  bridge : ∀ b, s.tetherL3Bridge = some b → b.gatewayMac.toNat < 2 ^ 48

/-- All of it. -/
def HasMacs (s : TunTapAdapter) : Prop := s.KnowsMacs ∧ s.SendsMacs

section Keeps

open Handler

theorem HasMacs.emit {s : TunTapAdapter} (h : s.HasMacs) {frames : List Frame}
    (hframes : ∀ f ∈ frames, f.destMac.toNat < 2 ^ 48) : (s.emit frames).HasMacs := by
  refine ⟨⟨h.1.arp, h.1.ndp, h.1.bridge⟩, fun f hf => ?_, h.2.cached⟩
  rcases List.mem_append.mp hf with hf | hf
  · exact h.2.sent f hf
  · exact hframes f hf

theorem keeps_send {f : Frame} (hf : f.destMac.toNat < 2 ^ 48) : Keeps HasMacs (send f) :=
  keeps_modify fun _ hs => hs.emit (by simpa using hf)

theorem keeps_call {α : Type} (x : Except JavaException α) : Keeps HasMacs (call x) := by
  intro s hs
  cases x <;> exact hs

theorem keeps_subscribeTo (isMulticast : Bool) (destIP : InetAddress) :
    Keeps HasMacs (subscribeTo isMulticast destIP) := by
  intro s hs
  obtain ⟨macs, hrun⟩ := subscribeTo_run s isMulticast destIP
  rw [after_ok hrun]
  exact ⟨⟨hs.1.arp, hs.1.ndp, hs.1.bridge⟩, hs.2.sent, hs.2.cached⟩

/-- What the bridge sends goes to its gateway. -/
theorem destMac_of_bridgeResult {env : Environment} {s : TunTapAdapter} {buffer : Bytes}
    {length : ℕ} {f : Frame} {handled : Bool}
    (h : s.bridgeResult env buffer length = .ok (some f, handled)) :
    ∃ b, s.tetherL3Bridge = some b ∧ f.destMac = b.gatewayMac := by
  unfold bridgeResult at h
  cases hb : s.tetherL3Bridge with
  | none =>
    rw [hb] at h
    exact nomatch h
  | some b =>
    rw [hb] at h
    dsimp only at h
    refine ⟨b, rfl, ?_⟩
    unfold TetherL3Bridge.processOutbound at h
    by_cases hoff : (!b.active || !b.hasNode) = true
    · rw [if_pos hoff] at h
      cases h
    rw [if_neg hoff] at h
    by_cases hshort : length < 20
    · rw [if_pos hshort] at h
      cases h
    rw [if_neg hshort] at h
    obtain ⟨inSubnet, -, h⟩ := bind_eq_ok.mp h
    cases inSubnet with
    | false => cases h
    | true =>
      obtain ⟨pkt, -, h⟩ := bind_eq_ok.mp h
      obtain ⟨pkt, -, h⟩ := bind_eq_ok.mp h
      obtain ⟨pkt, -, h⟩ := bind_eq_ok.mp h
      cases h
      rfl

theorem keeps_bridgeOutbound (env : Environment) (buffer : Bytes) (length : ℕ) :
    Keeps HasMacs (bridgeOutbound env buffer length) := by
  intro s hs
  rw [after, bridgeOutbound_run]
  rcases hres : s.bridgeResult env buffer length with e | ⟨_ | f, handled⟩
  · exact hs
  · exact hs.emit (by simp)
  · obtain ⟨b, hb, hf⟩ := destMac_of_bridgeResult hres
    have hmac := hs.1.bridge b hb
    rw [← hf] at hmac
    exact hs.emit (by simpa using hmac)

theorem keeps_natOutbound (env : Environment) (buffer : Bytes) (length : ℕ) :
    Keeps HasMacs (natOutbound env buffer length) := by
  refine keeps_get_bind fun s hs => ?_
  cases s.natEngine with
  | none => exact hs
  | some natEngine =>
    refine keeps_bind (keeps_call _) (fun r => ?_) s hs
    refine keeps_bind (keeps_modify fun t ht => ?_) fun _ => keeps_pure _
    exact ⟨⟨ht.1.arp, ht.1.ndp, ht.1.bridge⟩, ht.2.sent, ht.2.cached⟩

theorem keeps_loadConfig (env : Environment) : Keeps HasMacs (loadConfig env) := by
  intro s hs
  rcases loadConfig_cases env s with ⟨hrun, -⟩ | ⟨hrun, -⟩ | ⟨config, hrun, -⟩
  · rw [after_ok hrun]
    exact hs
  · rw [after_ok hrun]
    exact hs
  · rw [after_ok hrun]
    exact ⟨⟨hs.1.arp, hs.1.ndp, hs.1.bridge⟩, hs.2.sent, hs.2.cached⟩

theorem keeps_prepareIPv4 (env : Environment) (buffer : Bytes) (length : ℕ) :
    Keeps HasMacs (prepareIPv4 env buffer length) := by
  refine keeps_bind (keeps_bridgeOutbound env buffer length) fun handled => ?_
  refine keeps_ite (fun _ => keeps_pure _) fun _ => ?_
  refine keeps_bind (keeps_natOutbound env buffer length) fun buffer => ?_
  refine keeps_bind (keeps_loadConfig env) fun hasConfig => ?_
  refine keeps_ite (fun _ => keeps_pure _) fun _ => ?_
  exact keeps_get_bind fun s hs => hs

theorem keeps_sendCached (buffer : Bytes) (length : ℕ) (s : TunTapAdapter) (hs : s.HasMacs)
    (hvalid : s.cachedDestValid = true) : (after (sendCached buffer length) s).HasMacs := by
  rw [after_ok (sendCached_run s buffer length)]
  have hemit : (s.emit [⟨s.networkId, s.cachedLocalMac, s.cachedDestMac, ipv4Packet, 0,
      buffer.copyOf length⟩]).HasMacs := hs.emit (by simpa using hs.2.cached hvalid)
  exact ⟨⟨hemit.1.arp, hemit.1.ndp, hemit.1.bridge⟩, hemit.2.sent, hemit.2.cached⟩

theorem toNat_broadcastMacAddress_lt : broadcastMacAddress.toNat < 2 ^ 48 := by decide

theorem keeps_handleIPv4PacketArp (localV4 destIP : InetAddress) :
    Keeps HasMacs (handleIPv4PacketArp localV4 destIP) :=
  keeps_get_bind fun s hs =>
    keeps_bind (keeps_call _) (fun _ => keeps_send toNat_broadcastMacAddress_lt) s hs

theorem keeps_resolveUntil (localV4 : InetAddress) (buffer : Bytes) (length : ℕ)
    (destIpRaw : BitVec 32) (destIP : InetAddress) :
    Keeps HasMacs (resolveUntil localV4 buffer length destIpRaw destIP) := by
  refine keeps_get_bind fun s hs => ?_
  refine keeps_ite (fun _ => keeps_pure _) (fun _ => ?_) s hs
  exact keeps_bind (keeps_handleIPv4PacketArp localV4 destIP) fun _ => keeps_pure _

theorem keeps_cacheMissUntil (localV4 : InetAddress) (buffer : Bytes) (length : ℕ)
    (destIpRaw : BitVec 32) : Keeps HasMacs (cacheMissUntil localV4 buffer length destIpRaw) := by
  refine keeps_bind (keeps_call _) fun ipBuf4 => ?_
  cases InetAddress.getByAddress ipBuf4 with
  | none => exact keeps_pure _
  | some destIP =>
    refine keeps_get_bind fun s hs => ?_
    cases routeForDestination s.routeOrder s.routeMap destIP with
    | none => exact hs
    | some route =>
      dsimp only
      cases route.gateway with
      | none => exact keeps_resolveUntil localV4 buffer length destIpRaw destIP s hs
      | some gateway =>
        refine keeps_bind (keeps_call _) (fun ipBuf4 => ?_) s hs
        cases InetAddress.getByAddress ipBuf4 with
        | none => exact keeps_pure _
        | some sourceIP => exact keeps_resolveUntil localV4 buffer length destIpRaw _

theorem keeps_sendIPv4Until (localMac : Mac) (localV4 : InetAddress) (isMulticast : Bool)
    (packetData : Bytes) (destIP : InetAddress) :
    Keeps HasMacs (sendIPv4Until localMac localV4 isMulticast packetData destIP) := by
  refine keeps_get_bind fun s hs => ?_
  refine keeps_ite (fun _ => ?_) (fun _ => ?_) s hs
  · refine keeps_ite (fun _ => ?_) (fun _ => keeps_pure _)
    exact keeps_bind (keeps_send (toNat_multicastAddressToMAC destIP).2) fun _ => keeps_pure _
  · refine keeps_bind (keeps_call _) fun request => ?_
    exact keeps_bind (keeps_send toNat_broadcastMacAddress_lt) fun _ => keeps_pure _

theorem keeps_handleIPv4PacketDataUntil (env : Environment) (packetData : Bytes) :
    Keeps HasMacs (handleIPv4PacketDataUntil env packetData) := by
  refine keeps_bind (keeps_call _) fun destIP => ?_
  refine keeps_bind (keeps_call _) fun sourceIP => ?_
  split
  · rename_i config destIP sourceIP _
    refine keeps_bind (keeps_subscribeTo _ destIP) fun _ => ?_
    refine keeps_get_bind fun s hs => ?_
    dsimp only
    split
    · exact hs
    · exact keeps_sendIPv4Until _ _ _ _ _ s hs
  · exact keeps_pure _

theorem keeps_handleIPv4PacketUntil (env : Environment) (buffer : Bytes) (length : ℕ) :
    Keeps HasMacs (handleIPv4PacketUntil env buffer length) := by
  refine keeps_bind (keeps_prepareIPv4 env buffer length) fun prepared => ?_
  cases prepared with
  | none => exact keeps_pure _
  | some prepared =>
    obtain ⟨localV4, buffer⟩ := prepared
    refine keeps_bind (keeps_call _) fun first => ?_
    refine keeps_ite (fun _ => keeps_handleIPv4PacketDataUntil env _) fun _ => ?_
    refine keeps_bind (keeps_call _) fun destIpRaw => ?_
    refine keeps_get_bind fun s hs => ?_
    split_ifs with hhit
    · have hvalid : s.cachedDestValid = true := (Bool.and_eq_true_iff.mp hhit).1
      exact keeps_sendCached buffer length s hs hvalid
    · exact keeps_cacheMissUntil localV4 buffer length destIpRaw s hs

theorem toNat_ipv6ToMulticastAddress_lt (a : InetAddress) :
    (ipv6ToMulticastAddress a).toNat < 2 ^ 48 := by
  have hbyte : ∀ b : Byte, b.toNat < 256 := fun b => b.isLt
  unfold ipv6ToMulticastAddress
  dsimp only
  split_ifs
  · decide
  · have h13 := hbyte (a.getAddress.getD 13 0)
    have h14 := hbyte (a.getAddress.getD 14 0)
    have h15 := hbyte (a.getAddress.getD 15 0)
    rw [BitVec.toNat_ofNat]
    simp [BigEndian.toNat] at h13 h14 h15 ⊢
    omega

theorem keeps_sendMacIPv6 (destIP sourceIP : InetAddress) (localMac : Mac) (packetData : Bytes)
    {destMac : Mac} (h : destMac.toNat < 2 ^ 48) (sendNSPacket : Bool) :
    Keeps HasMacs
      (sendMacIPv6 destIP sourceIP localMac packetData destMac sendNSPacket) := by
  refine keeps_bind (keeps_ite (fun _ => keeps_pure _) fun _ => ?_) fun _ => ?_
  · exact keeps_get_bind fun s hs => keeps_send h s hs
  · refine keeps_ite (fun _ => ?_) fun _ => keeps_pure _
    refine keeps_bind (keeps_call _) fun packetData => ?_
    refine keeps_get_bind fun s hs => keeps_send ?_ s hs
    dsimp only
    split_ifs
    · exact toNat_ipv6ToMulticastAddress_lt destIP
    · exact h

/-- The choice of a MAC changes nothing, and a MAC that is not looked up has 48 bits. -/
theorem destMacIPv6Until_run (packetData : Bytes) (destIP : InetAddress) (s : TunTapAdapter) :
    (∃ e, (destMacIPv6Until packetData destIP).run s = .error e s) ∨
      ∃ chosen, (destMacIPv6Until packetData destIP).run s = .ok chosen s ∧
        ∀ mac, chosen.1 = some mac → mac.toNat < 2 ^ 48 := by
  have hmulticast := (toNat_multicastAddressToMAC destIP).2
  have hsolicited := toNat_ipv6ToMulticastAddress_lt destIP
  unfold destMacIPv6Until
  rw [Handler.run_get_bind]
  cases isNeighborSolicitation packetData with
  | error e => exact Or.inl ⟨e, rfl⟩
  | ok solicitation =>
    rw [run_call_bind]
    cases solicitation with
    | true =>
      right
      cases s.ndpTable.hasMacForAddress destIP
      · exact ⟨_, rfl, by rintro mac ⟨⟩; exact hsolicited⟩
      · exact ⟨_, rfl, by rintro mac ⟨⟩⟩
    | false =>
      cases isIPv6Multicast destIP with
      | true => exact Or.inr ⟨_, rfl, by rintro mac ⟨⟩; exact hmulticast⟩
      | false =>
        rw [if_neg Bool.false_ne_true, if_neg Bool.false_ne_true]
        cases isNeighborAdvertisement packetData with
        | error e => exact Or.inl ⟨e, rfl⟩
        | ok advertisement =>
          right
          rw [run_call_bind]
          cases advertisement <;> cases s.ndpTable.hasMacForAddress destIP
          · exact ⟨_, rfl, by rintro mac ⟨⟩; decide⟩
          · exact ⟨_, rfl, by rintro mac ⟨⟩⟩
          · exact ⟨_, rfl, by rintro mac ⟨⟩; decide⟩
          · exact ⟨_, rfl, by rintro mac ⟨⟩⟩

theorem keeps_sendIPv6Until (localMac : Mac) (packetData : Bytes) (sourceIP destIP : InetAddress) :
    Keeps HasMacs (sendIPv6Until localMac packetData sourceIP destIP) := by
  intro s hs
  unfold sendIPv6Until
  rcases destMacIPv6Until_run packetData destIP s with ⟨e, hrun⟩ | ⟨⟨destMac, ns⟩, hrun, hmac⟩
  · rw [after_bind_error hrun]
    exact hs
  rw [after_bind_ok hrun]
  cases destMac with
  | none => exact hs
  | some destMac =>
    have hsend := keeps_sendMacIPv6 destIP sourceIP localMac packetData (hmac destMac rfl) ns
    exact keeps_bind hsend (fun _ => keeps_pure _) s hs

theorem keeps_handleIPv6PacketUntil (env : Environment) (packetData : Bytes) :
    Keeps HasMacs (handleIPv6PacketUntil env packetData) := by
  refine keeps_bind (keeps_call _) fun destIP => ?_
  refine keeps_bind (keeps_call _) fun sourceIP => ?_
  split
  · rename_i config destIP sourceIP _
    refine keeps_bind (keeps_subscribeTo _ destIP) fun _ => ?_
    refine keeps_get_bind fun s hs => ?_
    dsimp only
    split
    · exact hs
    · exact keeps_sendIPv6Until _ _ _ _ s hs
  · exact keeps_pure _

/-- With a MAC of 48 bits the rest of a handler does no harm. -/
theorem keeps_resume {mac : Mac} (h : mac.toNat < 2 ^ 48) (l : Lookup) :
    Keeps HasMacs (l.resume mac) := by
  cases l with
  | fast destIP destIpRaw packetData =>
    refine keeps_bind (keeps_modify fun s hs => ?_) fun _ =>
      keeps_get_bind fun s hs => keeps_send h s hs
    exact ⟨⟨hs.1.arp, hs.1.ndp, hs.1.bridge⟩, hs.2.sent, fun _ => h⟩
  | full destIP localMac packetData => exact keeps_get_bind fun s hs => keeps_send h s hs
  | ipv6 destIP sourceIP localMac packetData sendNSPacket =>
    exact keeps_sendMacIPv6 destIP sourceIP localMac packetData h sendNSPacket

/-- The sentinel becomes a destination, whichever handler goes on with it. -/
theorem not_sendsMacs_resume (l : Lookup) (s : TunTapAdapter) :
    ¬ (after (l.resume (-1)) s).SendsMacs := by
  have hwide : ¬ (-1 : Mac).toNat < 2 ^ 48 := by decide
  cases l with
  | fast destIP destIpRaw packetData => exact fun h => hwide (h.cached rfl)
  | full destIP localMac packetData =>
    intro h
    exact hwide (h.sent _ (List.mem_append_right _ (List.mem_singleton_self _)))
  | ipv6 destIP sourceIP localMac packetData sendNSPacket =>
    have hsend : (sendKnown localMac (-1) packetData).run s =
        .ok () (s.emit [⟨s.networkId, localMac, -1, ipv6Packet, 0, packetData⟩]) := rfl
    intro h
    rw [Lookup.resume, sendMacIPv6, after_bind_ok hsend] at h
    apply hwide
    cases sendNSPacket with
    | false => exact h.sent _ (List.mem_append_right _ (List.mem_singleton_self _))
    | true =>
      rw [if_pos rfl, solicit] at h
      cases hp : NDPTable.getNeighborSolicitationPacket sourceIP destIP localMac with
      | error e =>
        rw [hp] at h
        exact h.sent _ (List.mem_append_right _ (List.mem_singleton_self _))
      | ok p =>
        rw [hp] at h
        exact h.sent _ (List.mem_append_left _
          (List.mem_append_right _ (List.mem_singleton_self _)))

end Keeps

/-! ### The tables -/

def table (s : TunTapAdapter) : TableClass → NeighborTable
  | .arpTable => s.arpTable
  | .ndpTable => s.ndpTable

def setTable (s : TunTapAdapter) (c : TableClass) (t : NeighborTable) : TunTapAdapter :=
  match c with
  | .arpTable => { s with arpTable := t }
  | .ndpTable => { s with ndpTable := t }

theorem KnowsMacs.table {s : TunTapAdapter} (h : s.KnowsMacs) (c : TableClass) :
    HoldsMacs (s.table c) := by
  cases c
  · exact h.arp
  · exact h.ndp

theorem HasMacs.setTable {s : TunTapAdapter} (h : s.HasMacs) (c : TableClass) {t : NeighborTable}
    (ht : HoldsMacs t) : (s.setTable c t).HasMacs := by
  cases c
  · exact ⟨⟨ht, h.1.ndp, h.1.bridge⟩, h.2.sent, h.2.cached⟩
  · exact ⟨⟨h.1.arp, ht, h.1.bridge⟩, h.2.sent, h.2.cached⟩

theorem getMac_run (env : Environment) (l : Lookup) (s : TunTapAdapter) :
    (l.getMac env).run s =
      .ok (((s.table l.table).inetAddressToMacAddress.lookup l.address).getD (-1))
        (s.setTable l.table ((s.table l.table).getMacForAddress env.now l.address).2) := by
  rw [← fst_getMacForAddress _ env.now]
  cases l <;> rfl

end TunTapAdapter

namespace NeighborTable

/-- A table operation; what it enters has 48 bits. -/
structure MacEvent extends Event where
  mac : ∀ a j, op = .setAddress a j → j.toNat < 2 ^ 48

open TunTapAdapter

variable {t : NeighborTable}

theorem holdsMacs_updateTime (h : HoldsMacs t) (now : ℕ) (e : Option NeighborEntry) :
    HoldsMacs (t.updateTime now e) := by
  rw [HoldsMacs, (updateTime_maps ..).2.1]
  exact h

theorem holdsMacs_getMacForAddress (h : HoldsMacs t) (now : ℕ) (a : InetAddress) :
    HoldsMacs (t.getMacForAddress now a).2 := by
  rcases t.getMacForAddress_eq now a with heq | ⟨m, -, heq⟩
  · rw [heq]
    exact h
  · rw [heq]
    exact holdsMacs_updateTime h now _

theorem holdsMacs_getAddressForMac (h : HoldsMacs t) (now : ℕ) (j : Mac) :
    HoldsMacs (t.getAddressForMac now j).2 := by
  rcases t.getAddressForMac_eq now j with heq | ⟨a, -, heq⟩
  · rw [heq]
    exact h
  · rw [heq]
    exact holdsMacs_updateTime h now _

theorem holdsMacs_step (h : HoldsMacs t) (c : TableClass) (e : MacEvent) :
    HoldsMacs (t.step c e.toEvent) := by
  obtain ⟨⟨now, op⟩, hmac⟩ := e
  cases op with
  | setAddress a j =>
    intro a' m hm
    simp only [step, setAddress_inetAddressToMacAddress] at hm
    split_ifs at hm
    · cases hm
      exact hmac a j rfl
    · exact h a' m hm
  | getMacForAddress a => exact holdsMacs_getMacForAddress h now a
  | getAddressForMac j => exact holdsMacs_getAddressForMac h now j
  | sweep order =>
    intro a m hm
    exact h a m ((sweep_inetAddressToMacAddress ..).mp hm).2

end NeighborTable

/-! ### Runs -/

/-- The thread of the tunnel, and the call that it is about to make. -/
structure TunThread where
  adapter : TunTapAdapter
  lookup : Option Lookup

namespace TunThread

open TunTapAdapter NeighborTable Handler

/-- A packet for a thread that waits for one. -/
def handle (t : TunThread) (x : AdapterM (Option Lookup)) : TunThread :=
  match t.lookup with
  | some _ => t
  | none =>
    match x.run t.adapter with
    | .ok lookup s => ⟨s, lookup⟩
    | .error _ s => ⟨s, none⟩

/-- A packet for one of the handlers, the call of `getMacForAddress` that one of them is
about to make, or a table operation of another thread. -/
inductive Action
  | handleIPv4Packet (env : Environment) (buffer : Bytes) (length : ℕ)
  | handleIPv4PacketData (env : Environment) (packetData : Bytes)
  | handleIPv6Packet (env : Environment) (packetData : Bytes)
  | getMacForAddress (env : Environment)
  | table (c : TableClass) (e : MacEvent)

def step (t : TunThread) : Action → TunThread
  | .handleIPv4Packet env buffer length => t.handle (handleIPv4PacketUntil env buffer length)
  | .handleIPv4PacketData env packetData => t.handle (handleIPv4PacketDataUntil env packetData)
  | .handleIPv6Packet env packetData => t.handle (handleIPv6PacketUntil env packetData)
  | .getMacForAddress env =>
    match t.lookup with
    | none => t
    | some l => ⟨after (l.complete env) t.adapter, none⟩
  | .table c e =>
    { t with adapter := t.adapter.setTable c ((t.adapter.table c).step c e.toEvent) }

/-- The address that is looked up is in the table. -/
def Finds (t : TunThread) : Action → Prop
  | .getMacForAddress _ => ∀ l, t.lookup = some l →
    (t.adapter.table l.table).hasMacForAddress l.address = true
  | _ => True

variable {t : TunThread}

theorem hasMacs_handle (h : t.adapter.HasMacs) {x : AdapterM (Option Lookup)}
    (hx : Keeps HasMacs x) : (t.handle x).adapter.HasMacs := by
  have hafter := hx t.adapter h
  unfold handle
  cases t.lookup with
  | some _ => exact h
  | none =>
    dsimp only
    cases hrun : x.run t.adapter with
    | ok lookup s => rwa [after, hrun] at hafter
    | error e s => rwa [after, hrun] at hafter

/-- A handler that goes on at once, as two steps. -/
theorem getMacForAddress_handle (hidle : t.lookup = none) (env : Environment)
    (x : AdapterM (Option Lookup)) :
    (t.handle x).step (.getMacForAddress env) = ⟨after (atOnce env x) t.adapter, none⟩ := by
  unfold handle
  rw [hidle]
  dsimp only
  cases hrun : x.run t.adapter with
  | ok lookup s =>
    rw [atOnce, after_bind_ok hrun]
    cases lookup <;> rfl
  | error e s =>
    rw [atOnce, after_bind_error hrun]
    rfl

/-- Without a turn of another thread in between, these are the handlers of the adapter. -/
theorem step_atOnce (hidle : t.lookup = none) (env : Environment) :
    (∀ buffer length,
      (t.step (.handleIPv4Packet env buffer length)).step (.getMacForAddress env) =
        ⟨after (handleIPv4Packet env buffer length) t.adapter, none⟩) ∧
    (∀ packetData,
      (t.step (.handleIPv4PacketData env packetData)).step (.getMacForAddress env) =
        ⟨after (handleIPv4PacketData env packetData) t.adapter, none⟩) ∧
    (∀ packetData,
      (t.step (.handleIPv6Packet env packetData)).step (.getMacForAddress env) =
        ⟨after (handleIPv6Packet env packetData) t.adapter, none⟩) := by
  refine ⟨fun buffer length => ?_, fun packetData => ?_, fun packetData => ?_⟩
  · exact getMacForAddress_handle hidle env (handleIPv4PacketUntil env buffer length)
  · exact getMacForAddress_handle hidle env (handleIPv4PacketDataUntil env packetData)
  · exact getMacForAddress_handle hidle env (handleIPv6PacketUntil env packetData)

theorem after_complete (env : Environment) (l : Lookup) (s : TunTapAdapter) :
    after (l.complete env) s =
      after (l.resume (((s.table l.table).inetAddressToMacAddress.lookup l.address).getD (-1)))
        (s.setTable l.table ((s.table l.table).getMacForAddress env.now l.address).2) :=
  after_bind_ok (getMac_run env l s) _

/-- A lookup that finds its address gets a MAC of 48 bits. -/
theorem hasMacs_step (h : t.adapter.HasMacs) {a : Action} (ha : t.Finds a) :
    (t.step a).adapter.HasMacs := by
  cases a with
  | handleIPv4Packet env buffer length =>
    exact hasMacs_handle h (keeps_handleIPv4PacketUntil env buffer length)
  | handleIPv4PacketData env packetData =>
    exact hasMacs_handle h (keeps_handleIPv4PacketDataUntil env packetData)
  | handleIPv6Packet env packetData =>
    exact hasMacs_handle h (keeps_handleIPv6PacketUntil env packetData)
  | getMacForAddress env =>
    unfold step
    cases hl : t.lookup with
    | none => exact h
    | some l =>
      obtain ⟨mac, hmac⟩ := Option.isSome_iff_exists.mp (ha l hl)
      dsimp only
      rw [after_complete, hmac, Option.getD_some]
      refine keeps_resume (h.1.table l.table l.address mac hmac) l _ ?_
      exact h.setTable l.table (holdsMacs_getMacForAddress (h.1.table l.table) _ _)
  | table c e => exact h.setTable c (holdsMacs_step (h.1.table c) c e)

theorem not_sendsMacs_step {a : Action} (ha : ¬ t.Finds a) : ¬ (t.step a).adapter.SendsMacs := by
  cases a with
  | getMacForAddress env =>
    obtain ⟨l, hne⟩ := Classical.not_forall.mp ha
    obtain ⟨hl, hmiss⟩ := Classical.not_imp.mp hne
    have hnone : (t.adapter.table l.table).inetAddressToMacAddress.lookup l.address = none := by
      simpa [NeighborTable.hasMacForAddress] using hmiss
    unfold step
    rw [hl]
    dsimp only
    rw [after_complete, hnone, Option.getD_none]
    exact not_sendsMacs_resume l _
  | handleIPv4Packet => exact absurd trivial ha
  | handleIPv4PacketData => exact absurd trivial ha
  | handleIPv6Packet => exact absurd trivial ha
  | table => exact absurd trivial ha

/-- The frames of the handlers, and the cache. -/
def Sound (t : TunThread) : Prop := t.adapter.SendsMacs

/-- The tables and the bridge as well. -/
def Consistent (t : TunThread) : Prop := t.adapter.HasMacs

/-- In whatever order the threads take their turns: the frames of the handlers go to MACs of
48 bits, and such a MAC is in the cache, exactly if every lookup finds its address. -/
theorem throughout_sound_iff_finds (h : t.Consistent) (actions : List Action) :
    Run.Throughout step Sound t actions ↔ Run.Along step Finds t actions := by
  have hsound : ∀ t : TunThread, t.Consistent → t.Sound := fun _ h => h.2
  have hkeep : ∀ (t : TunThread) a, t.Consistent → t.Finds a → (t.step a).Consistent :=
    fun _ _ h ha => hasMacs_step h ha
  have hlose : ∀ (t : TunThread) a, t.Consistent → ¬ t.Finds a → ¬ (t.step a).Sound :=
    fun _ _ _ ha => not_sendsMacs_step ha
  exact Run.throughout_iff_along hsound hkeep hlose h

/-- A packet of `10.147.17.5` to `10.147.17.2`. -/
def unicast : Bytes :=
  [0x45, 0, 0, 20, 0, 0, 0, 0, 64, 17, 0, 0, 10, 147, 17, 5, 10, 147, 17, 2]

/-- A thread that waits for a packet, with a route to `10.147.17.0/24`. -/
def waiting : TunThread :=
  ⟨(start 1 none none).addRouteAndNetwork ⟨.inet4 0x0a931100, 24, none⟩ 1 default, none⟩

/-- The MAC of `10.147.17.2` is learnt, then a packet to it is handled, `events` take place
at the ARP table, and the lookup of the packet comes last. -/
def lookupAfter (events : List MacEvent) : List Action :=
  [.table .arpTable ⟨⟨0, .setAddress (.inet4 0x0a931102) 0x22⟩, by rintro _ _ ⟨⟩; decide⟩,
    .handleIPv4Packet connected unicast 20] ++ events.map (.table .arpTable) ++
    [.getMacForAddress connected]

theorem consistent_waiting : waiting.Consistent := by
  refine ⟨⟨?_, ?_, ?_⟩, ?_, ?_⟩
  · intro a m h
    exact nomatch h
  · intro a m h
    exact nomatch h
  · intro b h
    exact nomatch h
  · intro f h
    exact nomatch h
  · exact nofun

/-- Nothing happens between the two calls. -/
theorem sound_lookupAfter_nil : Run.Throughout step Sound waiting (lookupAfter []) := by
  refine (throughout_sound_iff_finds consistent_waiting _).mpr
    ⟨trivial, trivial, fun l hl => ?_, trivial⟩
  cases hl
  rfl

/-- The timeout thread runs between the two calls, more than two minutes after the entry
was made; or a packet to a group is sent by way of a gateway nobody has asked for. -/
theorem not_sound_lookupAfter_sweep :
    ¬ Run.Throughout step Sound waiting (lookupAfter [⟨⟨120001, .sweep default⟩, nofun⟩]) ∧
      ¬ Run.Throughout step Sound ⟨behindGateway, none⟩
        [.handleIPv4Packet connected mdnsIPv4 20, .getMacForAddress connected] := by
  constructor
  · intro h
    have hlast : TunTapAdapter.SendsMacs _ := h.last
    exact absurd (hlast.cached rfl) (by decide)
  · intro h
    have hlast : TunTapAdapter.SendsMacs _ := h.last
    have hmac := hlast.sent ⟨1, 0x55, -1, ipv4Packet, 0, mdnsIPv4⟩ (List.mem_singleton_self _)
    exact absurd hmac (by decide)

end TunThread

end XnetZt
