import XnetZt.Lib.Run
import XnetZt.Service.TunTapAdapter

/-!
# Coherence of the cached destination

The fast path of `handleIPv4Packet` remembers the MAC of one destination. The full lookup
depends on more than the destination: on the routes, on the ARP table, and through the
gateway also on the source of the packet. The cache agrees with it for every packet
exactly if the destination is routed, and the destination and the gateway of its route,
if there is one, both have the remembered MAC. From this follows which step of a run
makes the cache stale.
-/

namespace XnetZt

namespace TunTapAdapter

open AdapterM

/-- A packet at the front of the buffer of the receive thread. -/
structure TunPacket where
  buffer : Bytes
  length : ℕ
  length_buffer : buffer.length = 1500
  length_le : length ≤ 1500

namespace TunPacket

def source (p : TunPacket) : BitVec 32 := rawAt p.buffer 12

def dest (p : TunPacket) : BitVec 32 := rawAt p.buffer 16

def IsMulticast (p : TunPacket) : Prop := p.buffer.getD 16 0 &&& 0xf0 = 0xe0

instance (p : TunPacket) : Decidable p.IsMulticast := inferInstanceAs (Decidable (_ = _))

end TunPacket

/-! ### The addresses the lookup may ask for -/

/-- The destination, and the gateway of its route. -/
def Target (s : TunTapAdapter) (raw : BitVec 32) (a : InetAddress) : Prop :=
  a = .inet4 raw ∨ ∃ route, routeForDestination s.routeOrder s.routeMap (.inet4 raw) = some route ∧
    route.gateway = some a

/-- The destination has a route, and all its targets have this MAC. -/
structure Resolves (s : TunTapAdapter) (raw : BitVec 32) (mac : Mac) : Prop where
  route : (routeForDestination s.routeOrder s.routeMap (.inet4 raw)).isSome = true
  arp : ∀ a, s.Target raw a → s.arpTable.inetAddressToMacAddress.lookup a = some mac

section Target

variable {s : TunTapAdapter} {raw : BitVec 32}

theorem target_congr {t : TunTapAdapter} (hmap : t.routeMap = s.routeMap)
    (horder : t.routeOrder = s.routeOrder) {a : InetAddress} : t.Target raw a ↔ s.Target raw a := by
  rw [Target, Target, hmap, horder]

/-- What a destination resolves to depends on the routes and on one map of the ARP table. -/
theorem resolves_congr {t : TunTapAdapter} (hmap : t.routeMap = s.routeMap)
    (horder : t.routeOrder = s.routeOrder)
    (harp : t.arpTable.inetAddressToMacAddress = s.arpTable.inetAddressToMacAddress) {mac : Mac} :
    t.Resolves raw mac ↔ s.Resolves raw mac := by
  have htarget : ∀ a, t.Target raw a ↔ s.Target raw a := fun a => target_congr hmap horder
  constructor
  · rintro ⟨hroute, h⟩
    rw [hmap, horder] at hroute
    exact ⟨hroute, fun a ha => by rw [← harp]; exact h a ((htarget a).mpr ha)⟩
  · rintro ⟨hroute, h⟩
    rw [← hmap, ← horder] at hroute
    exact ⟨hroute, fun a ha => by rw [harp]; exact h a ((htarget a).mp ha)⟩

theorem target_of_hopTo {sourceIP hop : InetAddress}
    (h : s.hopTo (.inet4 raw) sourceIP = some hop) : s.Target raw hop := by
  obtain ⟨route, hroute, rfl⟩ := Option.map_eq_some_iff.mp h
  cases hg : route.gateway with
  | none => exact Or.inl rfl
  | some gateway =>
    unfold nextHop
    dsimp only
    split_ifs
    · exact Or.inr ⟨route, hroute, hg⟩
    · exact Or.inl rfl

/-- Each target is the hop of a packet from some source: the destination itself, or an
address in the other half of the address space, which no netmask joins with it. -/
theorem hopTo_of_target (hroute : (routeForDestination s.routeOrder s.routeMap (.inet4 raw)).isSome)
    {a : InetAddress} (h : s.Target raw a) :
    ∃ source : BitVec 32, ∀ s' : TunTapAdapter, s'.routeMap = s.routeMap →
      s'.routeOrder = s.routeOrder → s'.hopTo (.inet4 raw) (.inet4 source) = some a := by
  rcases h with rfl | ⟨route, hr, hg⟩
  · obtain ⟨route, hr⟩ := Option.isSome_iff_exists.mp hroute
    refine ⟨raw, fun s' hmap horder => ?_⟩
    rw [hopTo, hmap, horder, hr, Option.map_some]
    cases route.gateway <;> simp [nextHop]
  · refine ⟨raw ^^^ 0x80000000, fun s' hmap horder => ?_⟩
    rw [hopTo, hmap, horder, hr, Option.map_some, hg, nextHop]
    exact congrArg some (if_pos (addressToRouteNo0Route_flip raw _))

end Target

/-! ### A packet with and without the cache -/

/-- A packet is read into the buffer. -/
def load (s : TunTapAdapter) (p : TunPacket) : TunTapAdapter := { s with buffer := p.buffer }

def transmit (s : TunTapAdapter) (env : Environment) (p : TunPacket) :
    EStateM.Result JavaException TunTapAdapter Unit :=
  (handleIPv4Packet env p.buffer p.length).run (s.load p)

/-- The same adapter, which has to look up the next destination. -/
def uncached (s : TunTapAdapter) : TunTapAdapter := { s with cachedDestValid := false }

structure Hits (s : TunTapAdapter) (p : TunPacket) : Prop where
  valid : s.cachedDestValid = true
  dest : p.dest = s.cachedDestIpRaw
  unicast : ¬ p.IsMulticast

/-- The bridge leaves a packet to the adapter. -/
def LeftByBridge (s : TunTapAdapter) (env : Environment) (p : TunPacket) : Prop :=
  ∃ frame, s.bridgeResult env p.buffer p.length = .ok (frame, false)

/-- After the same frames, the adapter sends an IPv4 frame to the MAC that the full lookup
sends one to. -/
def SameChoice (s : TunTapAdapter) (env : Environment) (p : TunPacket) : Prop :=
  ∃ s₁ s₂ before f g, s.transmit env p = .ok () s₁ ∧ s.uncached.transmit env p = .ok () s₂ ∧
    s₁.sent = before ++ [f] ∧ s₂.sent = before ++ [g] ∧
    f.etherType = ipv4Packet ∧ g.etherType = ipv4Packet ∧ f.destMac = g.destMac

/-- Every packet that hits the cache goes where the full lookup sends it. -/
def CacheCoherent (s : TunTapAdapter) : Prop :=
  ∀ env (p : TunPacket), 20 ≤ p.length → s.Hits p → s.LeftByBridge env p → s.SameChoice env p

/-- A stage that does not look at the cached destination. -/
def IgnoresCache {α : Type} (m : AdapterM α) : Prop :=
  ∀ s : TunTapAdapter, m.run s.uncached =
    match m.run s with
    | .ok a t => .ok a t.uncached
    | .error e t => .error e t.uncached

theorem IgnoresCache.bind {α β : Type} {m : AdapterM α} {f : α → AdapterM β}
    (hm : IgnoresCache m) (hf : ∀ a, IgnoresCache (f a)) : IgnoresCache (m >>= f) := by
  intro s
  rw [EStateM.run_bind, EStateM.run_bind, hm]
  cases m.run s with
  | error e t => rfl
  | ok a t => exact hf a t

theorem ignoresCache_natOutbound (env : Environment) (buffer : Bytes) (length : ℕ) :
    IgnoresCache (natOutbound env buffer length) := by
  intro s
  have hengine : s.uncached.natEngine = s.natEngine := rfl
  unfold natOutbound
  simp only [EStateM.run_bind, EStateM.run_get, hengine]
  cases s.natEngine with
  | none => rfl
  | some engine =>
    dsimp only
    cases engine.processOutbound env.now env.interfaces buffer length <;> rfl

theorem ignoresCache_loadConfig (env : Environment) : IgnoresCache (loadConfig env) := by
  intro s
  have hneeds : s.uncached.NeedsConfig ↔ s.NeedsConfig := Iff.rfl
  unfold loadConfig
  simp only [EStateM.run_bind, EStateM.run_get, hneeds]
  split_ifs
  · cases env.config <;> rfl
  · rfl

theorem ignoresCache_trackAndLoad (env : Environment) (buffer : Bytes) (length : ℕ) :
    IgnoresCache (trackAndLoad env buffer length) := by
  refine (ignoresCache_natOutbound env buffer length).bind fun buffer' => ?_
  refine (ignoresCache_loadConfig env).bind fun loaded s => ?_
  cases loaded <;> rfl

section Hit

variable {s : TunTapAdapter} {env : Environment} {p : TunPacket}

theorem localV4_of_configCached (h : s.ConfigCached) (env : Environment) :
    s.localV4 env = s.cachedLocalV4 := by
  refine if_neg ?_
  rintro (hnone | hid)
  · have hsome := h.config
    simp [Option.isNone_iff_eq_none.mp hnone] at hsome
  · exact hid h.network

theorem prepareIPv4_left {frame : Option Frame}
    (hleft : s.bridgeResult env p.buffer p.length = .ok (frame, false)) :
    (prepareIPv4 env p.buffer p.length).run (s.load p) =
      (trackAndLoad env p.buffer p.length).run ((s.load p).emit frame.toList) := by
  have hres : (s.load p).bridgeResult env p.buffer p.length = .ok (frame, false) := hleft
  rw [prepareIPv4_run, hres]

/-- Both runs of a packet that hits the cache get to the lookup in the same state. -/
theorem exists_lookup_of_hits (hc : s.ConfigCached) (hits : s.Hits p)
    (hleft : s.LeftByBridge env p) :
    ∃ t localV4 buffer', (s.load p).KeepsLookup t ∧ rawAt buffer' 16 = p.dest ∧
      rawAt buffer' 12 = p.source ∧
      s.transmit env p = (sendCached buffer' p.length).run t ∧
      s.uncached.transmit env p =
        match t.hopFor buffer' with
        | none => .ok () t.uncached
        | some hop => (resolveAndSend env localV4 buffer' p.length p.dest hop).run t.uncached := by
  obtain ⟨frame, hleft⟩ := hleft
  have hl := p.length_buffer
  have hle := p.length_le
  obtain ⟨t, hkeep, -, hrun⟩ := trackAndLoad_cases env ((s.load p).emit frame.toList)
    (show p.length ≤ p.buffer.length by omega) rfl
  have hkeep' := (keepsLookup_emit (s.load p) frame.toList).trans hkeep
  rcases hrun with ⟨-, hnone⟩ | ⟨a, buffer', hrun, -, -, -, hsame⟩
  · have hv4 : s.cachedLocalV4 = none := (localV4_of_configCached hc env).symm.trans hnone
    have hsome := hc.address
    simp [hv4] at hsome
  have hbl := hsame.length
  have hdest : rawAt buffer' 16 = p.dest := rawAt_sameButTtl hsame (by omega)
  have hunicast : ¬ (buffer'.getD 16 0 &&& 0xf0 = 0xe0) := by
    rw [hsame.getD (by omega)]
    exact hits.unicast
  refine ⟨t, a, buffer', hkeep', hdest, rawAt_sameButTtl hsame (by omega), ?_, ?_⟩
  · have hhit : t.cachedDestValid = true ∧ rawAt buffer' 16 = t.cachedDestIpRaw :=
      ⟨hkeep'.cachedDestValid.trans hits.valid,
        hdest.trans (hits.dest.trans hkeep'.cachedDestIpRaw.symm)⟩
    rw [transmit, handleIPv4Packet_eq, EStateM.run_bind, prepareIPv4_left hleft, hrun]
    dsimp only
    rw [forwardIPv4_run t (by omega), if_neg hunicast, if_pos hhit]
  · have hmiss : ¬ (t.uncached.cachedDestValid = true ∧
        rawAt buffer' 16 = t.uncached.cachedDestIpRaw) := by simp [uncached]
    have hrun' : (trackAndLoad env p.buffer p.length).run
        ((s.uncached.load p).emit frame.toList) = .ok (some (a, buffer')) t.uncached := by
      have h := ignoresCache_trackAndLoad env p.buffer p.length ((s.load p).emit frame.toList)
      rw [hrun] at h
      exact h
    have hleft' : s.uncached.bridgeResult env p.buffer p.length = .ok (frame, false) := hleft
    rw [transmit, handleIPv4Packet_eq, EStateM.run_bind, prepareIPv4_left hleft', hrun']
    dsimp only
    rw [forwardIPv4_run t.uncached (by omega), if_neg hunicast, if_neg hmiss, hdest]
    rfl

/-- Comparing two runs after the frames they share. -/
theorem sameChoice_iff_of_sent {s₁ s₂ : TunTapAdapter} {before frames : List Frame} {f : Frame}
    (h₁ : s.transmit env p = .ok () s₁) (hsent₁ : s₁.sent = before ++ [f])
    (hf : f.etherType = ipv4Packet) (h₂ : s.uncached.transmit env p = .ok () s₂)
    (hsent₂ : s₂.sent = before ++ frames) :
    s.SameChoice env p ↔ ∃ g, frames = [g] ∧ g.etherType = ipv4Packet ∧ f.destMac = g.destMac := by
  constructor
  · rintro ⟨u₁, u₂, before', f', g, hu₁, hu₂, hf', hg, -, htype, hmac⟩
    obtain rfl : s₁ = u₁ := by simpa [h₁] using hu₁
    obtain rfl : s₂ = u₂ := by simpa [h₂] using hu₂
    obtain ⟨rfl, hff⟩ := List.append_inj' (hsent₁.symm.trans hf') rfl
    obtain rfl : f = f' := by simpa using hff
    exact ⟨g, List.append_cancel_left (hsent₂.symm.trans hg), htype, hmac⟩
  · rintro ⟨g, rfl, htype, hmac⟩
    exact ⟨s₁, s₂, before, f, g, h₁, h₂, hsent₁, hsent₂, hf, htype, hmac⟩

/-- On a hit the two runs agree exactly if the hop of the packet has the cached MAC. -/
theorem sameChoice_iff (hc : s.ConfigCached) (hits : s.Hits p) (hleft : s.LeftByBridge env p) :
    ∃ t : TunTapAdapter, t.routeMap = s.routeMap ∧ t.routeOrder = s.routeOrder ∧
      (s.SameChoice env p ↔
        ∃ hop, t.hopTo (.inet4 s.cachedDestIpRaw) (.inet4 p.source) = some hop ∧
          s.arpTable.inetAddressToMacAddress.lookup hop = some s.cachedDestMac) := by
  obtain ⟨t, a, buffer', hkeep, hdest, hsource, hfast, hslow⟩ := exists_lookup_of_hits hc hits hleft
  have harp : t.uncached.arpTable.inetAddressToMacAddress =
      s.arpTable.inetAddressToMacAddress := hkeep.arp
  have hmac : t.cachedDestMac = s.cachedDestMac := hkeep.cachedDestMac
  have hhop : t.hopFor buffer' =
      t.hopTo (.inet4 s.cachedDestIpRaw) (.inet4 p.source) := by
    rw [hopFor, hdest, hsource, hits.dest]
  rw [sendCached_run] at hfast
  refine ⟨t, hkeep.routeMap, hkeep.routeOrder, ?_⟩
  -- what the full lookup sends comes after the same frames
  have hsame : ∀ {s₂ frames}, s.uncached.transmit env p = .ok () s₂ →
      s₂.sent = t.sent ++ frames → (s.SameChoice env p ↔
        ∃ g, frames = [g] ∧ g.etherType = ipv4Packet ∧ s.cachedDestMac = g.destMac) := by
    intro s₂ frames hs₂ hsent
    rw [sameChoice_iff_of_sent hfast rfl rfl hs₂ hsent, ← hmac]
  rw [hhop] at hslow
  cases h : t.hopTo (.inet4 s.cachedDestIpRaw) (.inet4 p.source) with
  | none =>
    rw [h] at hslow
    rw [hsame hslow (List.append_nil _).symm]
    simp
  | some hop =>
    rw [h] at hslow
    dsimp only at hslow
    cases hl : s.arpTable.inetAddressToMacAddress.lookup hop with
    | none =>
      obtain ⟨request, -, hrun⟩ := resolveAndSend_unknown (harp ▸ hl) a p.dest
      rw [hrun] at hslow
      rw [hsame hslow rfl]
      simp [hl, arpPacket, ipv4Packet]
    | some mac =>
      rw [resolveAndSend_known (harp ▸ hl)] at hslow
      rw [hsame hslow rfl]
      simp [hl, eq_comm]

end Hit

/-! ### Coherence of a state -/

/-- The address bytes of a buffer, read as a number and written back. -/
theorem getAddress_rawAt {buffer : Bytes} {i : ℕ} (h : i + 4 ≤ buffer.length) :
    (InetAddress.inet4 (rawAt buffer i)).getAddress = buffer.slice i 4 := by
  have hlen := Bytes.length_slice h
  have hlt := BigEndian.toNat_lt (buffer.slice i 4)
  rw [hlen] at hlt
  rw [InetAddress.getAddress, rawAt, BitVec.toNat_ofNat, Nat.mod_eq_of_lt (by omega)]
  have hround := BigEndian.ofNat_toNat (buffer.slice i 4)
  rwa [hlen] at hround

theorem rawAt_of_slice {buffer : Bytes} {i : ℕ} {raw : BitVec 32}
    (h : buffer.slice i 4 = (InetAddress.inet4 raw).getAddress) : rawAt buffer i = raw := by
  rw [rawAt, h, InetAddress.ofNat_toNat_getAddress]

theorem isIPv4Multicast_rawAt {buffer : Bytes} (h : 20 ≤ buffer.length) :
    isIPv4Multicast (.inet4 (rawAt buffer 16)) = true ↔ buffer.getD 16 0 &&& 0xf0 = 0xe0 := by
  have hd : (buffer.slice 16 4).getD 0 0 = buffer.getD 16 0 := by
    simp [Bytes.slice, List.getD_eq_getElem?_getD]
  rw [isIPv4Multicast, getAddress_rawAt (by omega), hd, beq_iff_eq]

namespace TunPacket

theorem isMulticast_iff (p : TunPacket) :
    p.IsMulticast ↔ isIPv4Multicast (.inet4 p.dest) = true :=
  (isIPv4Multicast_rawAt (by rw [p.length_buffer]; omega)).symm

/-- A header without options, and nothing else. -/
def bare (source dest : BitVec 32) : TunPacket where
  buffer := (0x45 :: Bytes.zeros 11) ++ (InetAddress.inet4 source).getAddress ++
    (InetAddress.inet4 dest).getAddress ++ Bytes.zeros 1480
  length := 20
  length_buffer := by simp
  length_le := by omega

theorem source_bare (source dest : BitVec 32) : (bare source dest).source = source := by
  apply rawAt_of_slice
  dsimp only [bare]
  rw [List.append_assoc (_ ++ _)]
  exact Bytes.slice_append (by simp) (by simp)

theorem dest_bare (source dest : BitVec 32) : (bare source dest).dest = dest := by
  apply rawAt_of_slice
  exact Bytes.slice_append (by simp) (by simp)

end TunPacket

/-- The node that refuses every frame, so that the bridge keeps none. -/
def refusing : Environment := ⟨0, none, [], fun _ => .failure⟩

theorem leftByBridge_bare (s : TunTapAdapter) (source dest : BitVec 32) :
    s.LeftByBridge refusing (.bare source dest) := by
  have hheader : IPv4.headerLength (TunPacket.bare source dest).buffer = 20 := by
    simp [IPv4.headerLength, TunPacket.bare, List.getD_eq_getElem?_getD]
  rcases bridgeResult_cases refusing s (show (TunPacket.bare source dest).length ≤
      (TunPacket.bare source dest).buffer.length by simp [TunPacket.bare]) with
    ⟨-, h⟩ | ⟨-, -, f, h⟩ | ⟨-, hlt, -⟩
  · exact ⟨none, h⟩
  · exact ⟨some f, h⟩
  · rw [hheader] at hlt
    exact absurd hlt (lt_irrefl 20)

/-- The cached destination can be sent to. -/
structure Ready (s : TunTapAdapter) : Prop where
  config : s.ConfigCached
  unicast : isIPv4Multicast (.inet4 s.cachedDestIpRaw) = false

/-- The cache agrees with the routes and the ARP table. -/
def CacheResolves (s : TunTapAdapter) : Prop :=
  s.cachedDestValid = true → s.Resolves s.cachedDestIpRaw s.cachedDestMac

theorem cacheCoherent_iff {s : TunTapAdapter} (hready : s.cachedDestValid = true → s.Ready) :
    s.CacheCoherent ↔ s.CacheResolves := by
  constructor
  · intro hcoh hvalid
    -- every source has a packet that hits the cache and gets past the bridge
    have hhop : ∀ source, ∃ t : TunTapAdapter, t.routeMap = s.routeMap ∧
        t.routeOrder = s.routeOrder ∧
        ∃ hop, t.hopTo (.inet4 s.cachedDestIpRaw) (.inet4 source) = some hop ∧
          s.arpTable.inetAddressToMacAddress.lookup hop = some s.cachedDestMac := by
      intro source
      have hdest := TunPacket.dest_bare source s.cachedDestIpRaw
      have hits : s.Hits (.bare source s.cachedDestIpRaw) := by
        refine ⟨hvalid, hdest, ?_⟩
        rw [TunPacket.isMulticast_iff, hdest, (hready hvalid).unicast]
        decide
      have hleft := s.leftByBridge_bare source s.cachedDestIpRaw
      obtain ⟨t, hmap, horder, hiff⟩ := sameChoice_iff (hready hvalid).config hits hleft
      rw [TunPacket.source_bare] at hiff
      exact ⟨t, hmap, horder, hiff.mp (hcoh refusing _ (le_refl 20) hits hleft)⟩
    obtain ⟨t, hmap, horder, hop, h, -⟩ := hhop 0
    have hroute : (routeForDestination s.routeOrder s.routeMap
        (.inet4 s.cachedDestIpRaw)).isSome = true := by
      rw [hopTo, hmap, horder] at h
      obtain ⟨route, hr, -⟩ := Option.map_eq_some_iff.mp h
      simp [hr]
    refine ⟨hroute, fun a ha => ?_⟩
    obtain ⟨source, hsource⟩ := hopTo_of_target hroute ha
    obtain ⟨t, hmap, horder, hop, h, hl⟩ := hhop source
    rw [hsource t hmap horder, Option.some.injEq] at h
    exact h ▸ hl
  · intro hres env p _ hits hleft
    obtain ⟨hroute, harp⟩ := hres hits.valid
    obtain ⟨t, hmap, horder, hiff⟩ := sameChoice_iff (hready hits.valid).config hits hleft
    refine hiff.mpr ?_
    obtain ⟨route, hr⟩ := Option.isSome_iff_exists.mp hroute
    obtain ⟨hop, h⟩ : ∃ hop,
        t.hopTo (.inet4 s.cachedDestIpRaw) (.inet4 p.source) = some hop := by
      rw [hopTo, hmap, horder, hr]
      exact ⟨_, rfl⟩
    exact ⟨hop, h, harp hop ((target_congr hmap horder).mp (target_of_hopTo h))⟩

/-! ### What a packet does to the cache -/

/-- The state after a handler, whether or not it threw. -/
def resultState {α : Type} : EStateM.Result JavaException TunTapAdapter α → TunTapAdapter
  | .ok _ s => s
  | .error _ s => s

/-- The hop of a packet once the config is loaded. -/
def hopOf (s : TunTapAdapter) (env : Environment) (p : TunPacket) : Option InetAddress :=
  (routeForDestination s.routeOrder s.routeMap (.inet4 p.dest)).map fun route =>
    nextHop route.gateway (.inet4 p.dest) (.inet4 p.source) (s.cidr env)

/-- The packets that get to the lookup. -/
structure Reaches (s : TunTapAdapter) (env : Environment) (p : TunPacket) : Prop where
  left : s.LeftByBridge env p
  address : (s.localV4 env).isSome = true

/-- The packets that fill the cache with a MAC. -/
structure Fills (s : TunTapAdapter) (env : Environment) (p : TunPacket) (mac : Mac) : Prop where
  reaches : s.Reaches env p
  unicast : ¬ p.IsMulticast
  miss : ¬ (s.cachedDestValid = true ∧ p.dest = s.cachedDestIpRaw)
  resolved : ∃ hop, s.hopOf env p = some hop ∧
    s.arpTable.inetAddressToMacAddress.lookup hop = some mac

/-- The cache holds a new destination, and the lookup is as before. -/
structure Filled (s : TunTapAdapter) (raw : BitVec 32) (mac : Mac) (t : TunTapAdapter) : Prop where
  routeMap : t.routeMap = s.routeMap
  routeOrder : t.routeOrder = s.routeOrder
  arp : t.arpTable.inetAddressToMacAddress = s.arpTable.inetAddressToMacAddress
  cachedDestIpRaw : t.cachedDestIpRaw = raw
  cachedDestMac : t.cachedDestMac = mac
  cachedDestValid : t.cachedDestValid = true
  configCached : t.ConfigCached

section Packet

variable {s : TunTapAdapter} {env : Environment} {p : TunPacket} {buffer : Bytes} {length : ℕ}

theorem Fills.unique {m m' : Mac} (h : s.Fills env p m) (h' : s.Fills env p m') : m' = m := by
  obtain ⟨hop, hhop, hm⟩ := h.resolved
  obtain ⟨hop', hhop', hm'⟩ := h'.resolved
  obtain rfl : hop = hop' := Option.some.inj (hhop.symm.trans hhop')
  exact Option.some.inj (hm'.symm.trans hm)

/-- The destination that fills the cache has a route. -/
theorem Fills.route {mac : Mac} (h : s.Fills env p mac) :
    (routeForDestination s.routeOrder s.routeMap (.inet4 p.dest)).isSome = true := by
  obtain ⟨hop, hhop, -⟩ := h.resolved
  obtain ⟨route, hr, -⟩ := Option.map_eq_some_iff.mp hhop
  exact Option.isSome_iff_exists.mpr ⟨route, hr⟩

theorem sends_load (s : TunTapAdapter) (p : TunPacket) : s.Sends [] (s.load p) :=
  ⟨rfl, rfl, rfl, rfl, rfl, (List.append_nil _).symm⟩

/-- The first half of the handler, for the packets that get to the lookup and the others. -/
theorem prepareIPv4_cases (env : Environment) (s : TunTapAdapter) (p : TunPacket) :
    (¬ s.Reaches env p ∧ ∃ r t, (prepareIPv4 env p.buffer p.length).run (s.load p) = r ∧
        ((∃ e, r = .error e t) ∨ r = .ok none t) ∧ (s.load p).KeepsLookup t ∧
        (s.Sends (s.bridgeFrames env p.buffer p.length) t ∨
          (s.loaded env).Sends (s.bridgeFrames env p.buffer p.length) t)) ∨
      (s.Reaches env p ∧ ∃ localV4 buffer t,
        (prepareIPv4 env p.buffer p.length).run (s.load p) = .ok (some (localV4, buffer)) t ∧
          s.localV4 env = some localV4 ∧ (s.load p).KeepsLookup t ∧
          (s.loaded env).Sends (s.bridgeFrames env p.buffer p.length) t ∧
          t.cachedCidr = s.cidr env ∧ t.ConfigCached ∧
          NatEngine.SameButTtl p.buffer buffer) := by
  have hl := p.length_buffer
  have hle := p.length_le
  have hload : (s.load p).bridgeResult env p.buffer p.length =
      s.bridgeResult env p.buffer p.length := rfl
  have hsends : ∀ frame : Option Frame, s.Sends frame.toList ((s.load p).emit frame.toList) :=
    fun frame => (s.sends_load p).trans (sends_emit ..)
  rw [prepareIPv4_run, hload, bridgeFrames]
  rcases hres : s.bridgeResult env p.buffer p.length with e | ⟨frame, _ | _⟩
  · refine Or.inl ⟨fun ⟨⟨f, hf⟩, _⟩ => ?_, _, _, rfl, Or.inl ⟨e, rfl⟩, .refl _,
      Or.inl (s.sends_load p)⟩
    rw [hres] at hf
    cases hf
  · obtain ⟨t, hkeep, hloaded, hrun⟩ := trackAndLoad_cases env ((s.load p).emit frame.toList)
      (show p.length ≤ p.buffer.length by omega) rfl
    have hkeep' := (keepsLookup_emit (s.load p) frame.toList).trans hkeep
    have hsent : (s.loaded env).Sends frame.toList t := by
      simpa using ((hsends frame).loaded env).trans hloaded
    rcases hrun with ⟨hrun, hnone⟩ | ⟨a, buffer', hrun, hsome, hcidr, hc, hsame⟩
    · have hv4 : s.localV4 env = none := hnone
      refine Or.inl ⟨fun h => ?_, _, t, hrun, Or.inr rfl, hkeep', Or.inr hsent⟩
      have := h.address
      simp [hv4] at this
    · have hv4 : s.localV4 env = some a := hsome
      exact Or.inr ⟨⟨⟨frame, hres⟩, by simp [hv4]⟩, a, buffer', t, hrun, hv4, hkeep', hsent,
        hcidr, hc, hsame⟩
  · refine Or.inl ⟨fun ⟨⟨f, hf⟩, _⟩ => ?_, _, _, rfl, Or.inr rfl, keepsLookup_emit ..,
      Or.inl (hsends frame)⟩
    rw [hres] at hf
    cases hf

/-- The packet `p` has got to the lookup, as `buffer` and in the state `t`. -/
structure AtLookup (s : TunTapAdapter) (env : Environment) (p : TunPacket) (buffer : Bytes)
    (t : TunTapAdapter) : Prop where
  keeps : (s.load p).KeepsLookup t
  sends : (s.loaded env).Sends (s.bridgeFrames env p.buffer p.length) t
  configCached : t.ConfigCached
  twenty_le : 20 ≤ buffer.length
  dest : rawAt buffer 16 = p.dest
  first : buffer.getD 16 0 = p.buffer.getD 16 0
  hop : t.hopFor buffer = s.hopOf env p

section AtLookup

variable {t : TunTapAdapter} (h : s.AtLookup env p buffer t)

include h

theorem AtLookup.arp :
    t.arpTable.inetAddressToMacAddress = s.arpTable.inetAddressToMacAddress :=
  h.keeps.arp

theorem AtLookup.cachedDestIpRaw : t.cachedDestIpRaw = s.cachedDestIpRaw :=
  h.keeps.cachedDestIpRaw

theorem AtLookup.cachedDestValid : t.cachedDestValid = s.cachedDestValid :=
  h.keeps.cachedDestValid

end AtLookup

/-- The second half: a resolved hop fills the cache, everything else leaves it alone. -/
theorem forwardIPv4_cases (h20 : 20 ≤ buffer.length) (hc : s.ConfigCached) (env : Environment)
    (length : ℕ) (localV4 : InetAddress) :
    let s' := resultState ((forwardIPv4 env localV4 buffer length).run s)
    if buffer.getD 16 0 &&& 0xf0 = 0xe0 ∨
        (s.cachedDestValid = true ∧ rawAt buffer 16 = s.cachedDestIpRaw) then s.KeepsLookup s'
    else match (s.hopFor buffer).bind s.arpTable.inetAddressToMacAddress.lookup with
      | none => s.KeepsLookup s'
      | some mac => s.Filled (rawAt buffer 16) mac s' := by
  dsimp only
  rw [forwardIPv4_run s h20]
  by_cases hmulti : buffer.getD 16 0 &&& 0xf0 = 0xe0
  · rw [if_pos hmulti, if_pos (Or.inl hmulti)]
    rcases handleIPv4PacketData_cases env s (buffer.copyOf length) with
      ⟨e, he, -⟩ | ⟨t, -, ht, hkeep, -⟩
    · rw [he]
      exact .refl s
    · rw [ht]
      exact hkeep
  by_cases hhit : s.cachedDestValid = true ∧ rawAt buffer 16 = s.cachedDestIpRaw
  · rw [if_neg hmulti, if_pos hhit, if_pos (Or.inr hhit), sendCached_run]
    exact ⟨rfl, rfl, rfl, rfl, rfl, rfl, rfl, fun h => ⟨h.config, h.network, h.address⟩⟩
  rw [if_neg hmulti, if_neg hhit, if_neg (not_or.mpr ⟨hmulti, hhit⟩)]
  cases s.hopFor buffer with
  | none => exact .refl s
  | some hop =>
    dsimp only [Option.bind_some]
    cases hlook : s.arpTable.inetAddressToMacAddress.lookup hop with
    | none =>
      obtain ⟨request, -, hrun⟩ := resolveAndSend_unknown hlook localV4 (rawAt buffer 16)
      rw [hrun]
      exact keepsLookup_emit ..
    | some mac =>
      rw [resolveAndSend_known hlook]
      exact ⟨rfl, rfl, (keepsLookup_getMacForAddress s env.now hop).arp, rfl, rfl, rfl,
        ⟨hc.1, hc.2, hc.3⟩⟩

/-- Up to the lookup: a packet that gets there is forwarded in a state with the same lookup. -/
theorem transmit_forward (env : Environment) (s : TunTapAdapter) (p : TunPacket) :
    (¬ s.Reaches env p ∧ (s.load p).KeepsLookup (resultState (s.transmit env p)) ∧
        (s.Sends (s.bridgeFrames env p.buffer p.length) (resultState (s.transmit env p)) ∨
          (s.loaded env).Sends (s.bridgeFrames env p.buffer p.length)
            (resultState (s.transmit env p)))) ∨
      (s.Reaches env p ∧ ∃ localV4 buffer t, s.localV4 env = some localV4 ∧
        s.transmit env p = (forwardIPv4 env localV4 buffer p.length).run t ∧
          s.AtLookup env p buffer t) := by
  have hl := p.length_buffer
  rcases prepareIPv4_cases env s p with ⟨hnot, r, t, hrun, hend, hkeep, hsends⟩ |
    ⟨hreach, a, buffer, t, hrun, hv4, hkeep, hsends, hcidr, hc, hsame⟩
  · have hstate : resultState (s.transmit env p) = t := by
      rw [transmit, handleIPv4Packet_eq, EStateM.run_bind, hrun]
      rcases hend with ⟨e, rfl⟩ | rfl <;> rfl
    rw [hstate]
    exact Or.inl ⟨hnot, hkeep, hsends⟩
  have hbl := hsame.length
  have hdest : rawAt buffer 16 = p.dest := rawAt_sameButTtl hsame (by omega)
  have hsource : rawAt buffer 12 = p.source := rawAt_sameButTtl hsame (by omega)
  refine Or.inr ⟨hreach, a, buffer, t, hv4, ?_, hkeep, hsends, hc, by omega, hdest,
    hsame.getD (by omega), ?_⟩
  · rw [transmit, handleIPv4Packet_eq, EStateM.run_bind, hrun]
  · rw [hopFor, hopTo, hdest, hsource, hkeep.routeMap, hkeep.routeOrder, hcidr]
    rfl

/-- A packet leaves the lookup as it is or fills the cache with its destination. -/
theorem transmit_cases (env : Environment) (s : TunTapAdapter) (p : TunPacket) :
    ((s.load p).KeepsLookup (resultState (s.transmit env p)) ∧ ∀ mac, ¬ s.Fills env p mac) ∨
      ∃ mac, s.Fills env p mac ∧ s.Filled p.dest mac (resultState (s.transmit env p)) := by
  rcases transmit_forward env s p with ⟨hnot, hkeep, -⟩ | ⟨hreach, a, buffer, t, -, hrun, ht⟩
  · exact Or.inl ⟨hkeep, fun mac h => hnot h.reaches⟩
  have hkeep := ht.keeps
  have hforward := forwardIPv4_cases ht.twenty_le ht.configCached env p.length a
  dsimp only at hforward
  rw [← hrun, ht.hop, ht.arp, ht.dest, ht.cachedDestIpRaw, ht.cachedDestValid, ht.first]
    at hforward
  split_ifs at hforward with hskip
  · refine Or.inl ⟨hkeep.trans hforward, fun mac h => ?_⟩
    rcases hskip with hmulti | hhit
    · exact h.unicast hmulti
    · exact h.miss hhit
  obtain ⟨hunicast, hmiss⟩ := not_or.mp hskip
  cases hmac : (s.hopOf env p).bind s.arpTable.inetAddressToMacAddress.lookup with
  | none =>
    rw [hmac] at hforward
    refine Or.inl ⟨hkeep.trans hforward, fun mac h => ?_⟩
    rw [Option.bind_eq_some_iff.mpr h.resolved] at hmac
    cases hmac
  | some mac =>
    rw [hmac] at hforward
    refine Or.inr ⟨mac, ⟨hreach, hunicast, hmiss, Option.bind_eq_some_iff.mp hmac⟩, ?_⟩
    exact ⟨hforward.routeMap.trans hkeep.routeMap, hforward.routeOrder.trans hkeep.routeOrder,
      hforward.arp.trans hkeep.arp, hforward.cachedDestIpRaw, hforward.cachedDestMac,
      hforward.cachedDestValid, hforward.configCached⟩

end Packet

/-! ### Runs -/

/-- What happens to an adapter while it runs. -/
inductive Action
  | addRouteAndNetwork (route : Route) (networkId : BitVec 64) (order : IterationOrder Route)
  | clearRouteMap
  | setAddress (now : ℕ) (inetAddress : InetAddress) (mac : Mac)
  | sweep (now : ℕ) (order : IterationOrder NeighborEntry)
  | packet (env : Environment) (p : TunPacket)

def step (s : TunTapAdapter) : Action → TunTapAdapter
  | .addRouteAndNetwork route networkId order => s.addRouteAndNetwork route networkId order
  | .clearRouteMap => s.clearRouteMap
  | .setAddress now inetAddress mac =>
    { s with arpTable := s.arpTable.setAddress now inetAddress mac }
  | .sweep now order => { s with
      arpTable := s.arpTable.sweep NeighborTable.TableClass.arpTable.entryTimeout now order }
  | .packet env p => resultState (s.transmit env p)

/-- The steps that keep the cache coherent. While a destination is cached, its route does
not go away and does not get a gateway with another MAC, and the ARP entries of its targets
neither change nor expire. A packet that fills the cache finds one MAC for all targets. -/
def KeepsCoherence (s : TunTapAdapter) : Action → Prop
  | .addRouteAndNetwork route networkId order => s.cachedDestValid = true →
    ∀ r gateway, routeForDestination order (s.routeMap.insert route networkId)
      (.inet4 s.cachedDestIpRaw) = some r → r.gateway = some gateway →
      s.arpTable.inetAddressToMacAddress.lookup gateway = some s.cachedDestMac
  | .clearRouteMap => s.cachedDestValid = false
  | .setAddress _ inetAddress mac => s.cachedDestValid = true →
    s.Target s.cachedDestIpRaw inetAddress → mac = s.cachedDestMac
  | .sweep now _ => s.cachedDestValid = true → ∀ e ∈ s.arpTable.values,
    NeighborTable.Expired NeighborTable.TableClass.arpTable.entryTimeout now s.arpTable e →
      ¬ s.Target s.cachedDestIpRaw e.address
  | .packet env p => ∀ mac, s.Fills env p mac → ∀ a, s.Target p.dest a →
    s.arpTable.inetAddressToMacAddress.lookup a = some mac

section Step

variable {s : TunTapAdapter}

theorem ready_step (h : s.cachedDestValid = true → s.Ready) (action : Action) :
    (s.step action).cachedDestValid = true → (s.step action).Ready := by
  have hsame : ∀ t : TunTapAdapter, t.cachedDestValid = s.cachedDestValid →
      t.cachedDestIpRaw = s.cachedDestIpRaw → (s.ConfigCached → t.ConfigCached) →
      t.cachedDestValid = true → t.Ready := by
    intro t hvalid hraw hconfig ht
    have hs := h (hvalid ▸ ht)
    exact ⟨hconfig hs.config, by rw [hraw]; exact hs.unicast⟩
  cases action with
  | addRouteAndNetwork route networkId order =>
    exact hsame _ rfl rfl fun hc => ⟨hc.config, hc.network, hc.address⟩
  | clearRouteMap => exact hsame _ rfl rfl fun hc => ⟨hc.config, hc.network, hc.address⟩
  | setAddress now a mac => exact hsame _ rfl rfl fun hc => ⟨hc.config, hc.network, hc.address⟩
  | sweep now order => exact hsame _ rfl rfl fun hc => ⟨hc.config, hc.network, hc.address⟩
  | packet env p =>
    rcases transmit_cases env s p with ⟨hkeep, -⟩ | ⟨mac, hfills, hfilled⟩
    · exact hsame _ hkeep.cachedDestValid hkeep.cachedDestIpRaw
        fun hc => hkeep.configCached ⟨hc.config, hc.network, hc.address⟩
    · intro _
      refine ⟨hfilled.configCached, ?_⟩
      rw [step, hfilled.cachedDestIpRaw]
      rw [← Bool.not_eq_true, ← TunPacket.isMulticast_iff]
      exact hfills.unicast

variable (h : s.CacheResolves)

include h

theorem cacheResolves_addRouteAndNetwork (route : Route) (networkId : BitVec 64)
    (order : IterationOrder Route) :
    (s.step (.addRouteAndNetwork route networkId order)).CacheResolves ↔
      s.KeepsCoherence (.addRouteAndNetwork route networkId order) := by
  constructor
  · intro hnew hvalid r gateway hr hg
    exact (hnew hvalid).arp gateway (Or.inr ⟨r, hr, hg⟩)
  · intro hkeep hvalid
    obtain ⟨hroute, harp⟩ := h hvalid
    obtain ⟨r, hr⟩ := Option.isSome_iff_exists.mp hroute
    obtain ⟨hmem, hb⟩ := mem_of_routeForDestination hr
    refine ⟨routeForDestination_isSome ((AList.mem_insert _).mpr (Or.inr hmem)) hb, ?_⟩
    rintro a (rfl | ⟨r, hr, hg⟩)
    · exact harp _ (Or.inl rfl)
    · exact hkeep hvalid r a hr hg

omit h in
theorem cacheResolves_clearRouteMap :
    (s.step .clearRouteMap).CacheResolves ↔ s.KeepsCoherence .clearRouteMap := by
  have hnone : ∀ raw mac, ¬ (s.step .clearRouteMap).Resolves raw mac := by
    rintro raw mac ⟨hroute, -⟩
    simp [step, clearRouteMap, routeForDestination_empty] at hroute
  constructor
  · intro hnew
    exact Bool.eq_false_iff.mpr fun hvalid => hnone _ _ (hnew hvalid)
  · intro hkeep hvalid
    exact absurd hvalid (Bool.eq_false_iff.mp hkeep)

theorem cacheResolves_setAddress (now : ℕ) (a : InetAddress) (mac : Mac) :
    (s.step (.setAddress now a mac)).CacheResolves ↔
      s.KeepsCoherence (.setAddress now a mac) := by
  constructor
  · intro hnew hvalid htarget
    have hlook := (hnew hvalid).arp a htarget
    simpa [step] using hlook
  · intro hkeep hvalid
    obtain ⟨hroute, harp⟩ := h hvalid
    refine ⟨hroute, fun b hb => ?_⟩
    by_cases hab : b = a
    · have hmac := hkeep hvalid (hab ▸ hb)
      simp [step, hab, hmac]
    · have hlook := harp b hb
      simpa [step, hab] using hlook

theorem cacheResolves_sweep (now : ℕ) (order : IterationOrder NeighborEntry) :
    (s.step (.sweep now order)).CacheResolves ↔ s.KeepsCoherence (.sweep now order) := by
  constructor
  · intro hnew hvalid e he hexp htarget
    have hlook := (hnew hvalid).arp e.address htarget
    exact ((NeighborTable.sweep_inetAddressToMacAddress ..).mp hlook).1 e he hexp rfl
  · intro hkeep hvalid
    obtain ⟨hroute, harp⟩ := h hvalid
    refine ⟨hroute, fun b hb => ?_⟩
    refine (NeighborTable.sweep_inetAddressToMacAddress ..).mpr ⟨?_, harp b hb⟩
    rintro e he hexp rfl
    exact hkeep hvalid e he hexp hb

theorem cacheResolves_packet (env : Environment) (p : TunPacket) :
    (s.step (.packet env p)).CacheResolves ↔ s.KeepsCoherence (.packet env p) := by
  rcases transmit_cases env s p with ⟨hkeep, hnot⟩ | ⟨mac, hfills, hfilled⟩
  · refine iff_of_true (fun hvalid => ?_) fun mac hf => absurd hf (hnot mac)
    have hres := h (hkeep.cachedDestValid ▸ hvalid)
    rw [step, hkeep.cachedDestIpRaw, hkeep.cachedDestMac]
    exact (resolves_congr (s := s) hkeep.routeMap hkeep.routeOrder hkeep.arp).mpr hres
  · have hres : (s.step (.packet env p)).CacheResolves ↔ s.Resolves p.dest mac := by
      rw [CacheResolves, step, hfilled.cachedDestValid, hfilled.cachedDestIpRaw,
        hfilled.cachedDestMac, resolves_congr hfilled.routeMap hfilled.routeOrder hfilled.arp]
      simp
    rw [hres]
    constructor
    · intro hr mac' hfills'
      rw [hfills.unique hfills']
      exact hr.arp
    · intro hkeep
      exact ⟨hfills.route, hkeep mac hfills⟩

/-- The step lemma, exact: a coherent cache stays coherent under the steps that keep it,
and under no others. -/
theorem cacheResolves_step (action : Action) :
    (s.step action).CacheResolves ↔ s.KeepsCoherence action := by
  cases action with
  | addRouteAndNetwork route networkId order =>
    exact cacheResolves_addRouteAndNetwork h route networkId order
  | clearRouteMap => exact cacheResolves_clearRouteMap
  | setAddress now a mac => exact cacheResolves_setAddress h now a mac
  | sweep now order => exact cacheResolves_sweep h now order
  | packet env p => exact cacheResolves_packet h env p

end Step

/-- An adapter whose cache is empty or agrees with the lookup. -/
structure Inv (s : TunTapAdapter) : Prop where
  resolves : s.CacheResolves
  ready : s.cachedDestValid = true → s.Ready

theorem inv_start (networkId : BitVec 64) (bridge : Option TetherL3Bridge)
    (natEngine : Option NatEngine) : (start networkId bridge natEngine).Inv :=
  ⟨fun h => by simp [start] at h, fun h => by simp [start] at h⟩

theorem throughout_iff_of_inv {s : TunTapAdapter} (hs : s.Inv) (actions : List Action) :
    Run.Throughout step CacheCoherent s actions ↔ Run.Along step KeepsCoherence s actions := by
  refine Run.throughout_iff_along (fun s h => (cacheCoherent_iff h.ready).mpr h.resolves) ?_ ?_ hs
  · intro s action h hkeep
    exact ⟨(cacheResolves_step h.resolves action).mpr hkeep, ready_step h.ready action⟩
  · intro s action h hlose hcoh
    have hres := (cacheCoherent_iff (ready_step h.ready action)).mp hcoh
    exact hlose ((cacheResolves_step h.resolves action).mp hres)

/-- In a run of a new adapter, every packet that hits the cache goes where the full lookup
sends it if and only if every step keeps the cache coherent. -/
theorem cacheCoherent_throughout_iff (networkId : BitVec 64) (bridge : Option TetherL3Bridge)
    (natEngine : Option NatEngine) (actions : List Action) :
    Run.Throughout step CacheCoherent (start networkId bridge natEngine) actions ↔
      Run.Along step KeepsCoherence (start networkId bridge natEngine) actions :=
  throughout_iff_of_inv (inv_start networkId bridge natEngine) actions

/-- A network in which this node is `10.0.0.2/24`. -/
def homeNetwork : Environment :=
  ⟨0, some ⟨1, 7, [⟨.inet4 0x0a000002, 24⟩], []⟩, [], fun _ => .resultOk⟩

/-- The first packet to `10.0.0.1` fills the cache, and then the host gets another MAC. -/
def macChange : List Action :=
  [.addRouteAndNetwork ⟨.inet4 0x0a000000, 8, none⟩ 1 default,
    .setAddress 0 (.inet4 0x0a000001) 1,
    .packet homeNetwork (.bare 0x0a000002 0x0a000001),
    .setAddress 1000 (.inet4 0x0a000001) 2]

theorem not_cacheCoherent_after_macChange :
    ¬ Run.Throughout step CacheCoherent (start 1 none none) macChange := by
  rw [throughout_iff_of_inv (inv_start 1 none none)]
  rintro ⟨-, -, -, hkeep, -⟩
  have h := hkeep (by decide +kernel) (Or.inl (by decide +kernel))
  exact absurd h (by decide +kernel)

end TunTapAdapter

end XnetZt
