import XnetZt.Service.DestinationCache

/-!
# The remembered network config

`handleIPv4Packet` fetches the network config once and remembers its MAC and its first
IPv4 address. The service stores a new config, or none, at any time and restarts the
receive thread of the same adapter; the remembered config outlives both. The frames of an
adapter follow the stored config exactly if no packet is sent with a remembered MAC or
address that the stored config no longer has. Multicast packets read the stored config
again, and the L3 bridge has a MAC of its own.
-/

namespace XnetZt

/-- The part of the service that gives an adapter its network config. -/
structure ZeroTierOneService where
  tunTapAdapter : TunTapAdapter
  /-- `getVirtualNetworkConfig` for the network of the adapter -/
  virtualNetworkConfig : Option VirtualNetworkConfig
  /-- The receive thread of the adapter is running. -/
  receiving : Bool

namespace TunTapAdapter

/-! ### The frames of a packet -/

/-- The destination of a packet is the cached one. -/
def DestCached (s : TunTapAdapter) (p : TunPacket) : Prop :=
  s.cachedDestValid = true ∧ p.dest = s.cachedDestIpRaw

instance (s : TunTapAdapter) (p : TunPacket) : Decidable (s.DestCached p) :=
  inferInstanceAs (Decidable (_ ∧ _))

/-- The unicast packets for which the adapter sends a frame of its own. -/
structure SendsUnicast (s : TunTapAdapter) (env : Environment) (p : TunPacket) : Prop where
  reaches : s.Reaches env p
  unicast : ¬ p.IsMulticast
  routed : s.DestCached p ∨ (s.hopOf env p).isSome = true

/-- The packets in whose place an ARP request is sent. -/
def Asks (s : TunTapAdapter) (env : Environment) (p : TunPacket) : Prop :=
  ¬ s.DestCached p ∧
    ∃ hop, s.hopOf env p = some hop ∧ s.arpTable.inetAddressToMacAddress.lookup hop = none

section Frames

variable {s : TunTapAdapter} {env : Environment} {p : TunPacket} {buffer : Bytes} {length : ℕ}

/-- The frame of the bridge, if it takes a packet whose header it can checksum. -/
theorem mem_bridgeFrames (env : Environment) (s : TunTapAdapter) (p : TunPacket) :
    (∀ f ∈ s.bridgeFrames env p.buffer p.length, f.etherType = ipv4Packet ∧
        ∃ bridge, s.tetherL3Bridge = some bridge ∧ bridge.Intercepts p.buffer p.length ∧
          IPv4.headerLength p.buffer ≤ p.length ∧ f.srcMac = bridge.localMac) ∧
      ∀ bridge, s.tetherL3Bridge = some bridge → bridge.Intercepts p.buffer p.length →
        IPv4.headerLength p.buffer ≤ p.length →
        ∃ f ∈ s.bridgeFrames env p.buffer p.length, f.srcMac = bridge.localMac := by
  have hlen : p.length ≤ p.buffer.length := by
    rw [p.length_buffer]
    exact p.length_le
  cases hb : s.tetherL3Bridge with
  | none => simp [bridgeFrames, bridgeResult, hb]
  | some bridge =>
    rcases bridge.processOutbound_cases env.node hlen with ⟨hnot, h⟩ | ⟨hi, hhead, f, h⟩ |
      ⟨hi, hlt, h⟩
    · have hframes : s.bridgeFrames env p.buffer p.length = [] := by
        simp [bridgeFrames, bridgeResult, hb, h]
      rw [hframes]
      exact ⟨by simp, fun b hsome hi => absurd (Option.some.inj hsome ▸ hi) hnot⟩
    · have hframes : s.bridgeFrames env p.buffer p.length = [f] := by
        simp [bridgeFrames, bridgeResult, hb, h]
      obtain ⟨hmac, htype⟩ := TetherL3Bridge.frame_of_processOutbound hlen h
      rw [hframes]
      constructor
      · intro g hg
        obtain rfl : g = f := by simpa using hg
        exact ⟨htype, bridge, rfl, hi, hhead, hmac⟩
      · intro b hsome _ _
        exact ⟨f, by simp, Option.some.inj hsome ▸ hmac⟩
    · have hframes : s.bridgeFrames env p.buffer p.length = [] := by
        simp [bridgeFrames, bridgeResult, hb, h]
      rw [hframes]
      exact ⟨by simp, fun b _ _ hhead => absurd hhead (by omega)⟩

/-- What the second half sends. -/
theorem forwardIPv4_sends (s : TunTapAdapter) (h20 : 20 ≤ buffer.length) (env : Environment)
    (length : ℕ) (localV4 : InetAddress) :
    ∃ frames, s.Sends frames (resultState ((forwardIPv4 env localV4 buffer length).run s)) ∧
      if buffer.getD 16 0 &&& 0xf0 = 0xe0 then ∀ f ∈ frames, SentUnder f env.config
      else if s.cachedDestValid = true ∧ rawAt buffer 16 = s.cachedDestIpRaw then
        ∃ f, frames = [f] ∧ SentBy f s.cachedLocalMac localV4 ∧ f.etherType = ipv4Packet
      else match s.hopFor buffer with
        | none => frames = []
        | some hop => ∃ f, frames = [f] ∧ SentBy f s.cachedLocalMac localV4 ∧
          (f.etherType = arpPacket ↔ s.arpTable.inetAddressToMacAddress.lookup hop = none) := by
  rw [forwardIPv4_run s h20]
  split_ifs with hmulti hhit
  · rcases handleIPv4PacketData_cases env s (buffer.copyOf length) with
      ⟨e, he, -⟩ | ⟨t, frames, ht, -, hsends, hunder⟩
    · rw [he]
      exact ⟨[], .refl s, by simp⟩
    · rw [ht]
      exact ⟨frames, hsends, hunder⟩
  · rw [sendCached_run]
    exact ⟨_, ⟨rfl, rfl, rfl, rfl, rfl, rfl⟩, _, rfl, sentBy_ipv4 rfl _, rfl⟩
  cases s.hopFor buffer with
  | none => exact ⟨[], .refl s, rfl⟩
  | some hop =>
    dsimp only
    cases hlook : s.arpTable.inetAddressToMacAddress.lookup hop with
    | none =>
      obtain ⟨request, hrequest, hrun⟩ := resolveAndSend_unknown hlook localV4 (rawAt buffer 16)
      rw [hrun]
      exact ⟨_, sends_emit .., _, rfl, sentBy_request hrequest _, iff_of_true rfl rfl⟩
    | some mac =>
      rw [resolveAndSend_known hlook]
      exact ⟨_, ⟨rfl, rfl, rfl, rfl, rfl, rfl⟩, _, rfl, sentBy_ipv4 rfl _, by
        simp [ipv4Packet, arpPacket]⟩

/-- The frames of a packet: first those of the bridge, and then, if the packet gets to the
lookup, those of a multicast packet or the one frame of a unicast packet. -/
theorem transmit_sends (env : Environment) (s : TunTapAdapter) (p : TunPacket) :
    ∃ frames, (s.Sends (s.bridgeFrames env p.buffer p.length ++ frames)
          (resultState (s.transmit env p)) ∨
        (s.loaded env).Sends (s.bridgeFrames env p.buffer p.length ++ frames)
          (resultState (s.transmit env p))) ∧
      (¬ s.SendsUnicast env p → ∀ f ∈ frames, SentUnder f env.config) ∧
      (s.SendsUnicast env p → ∃ f localV4, frames = [f] ∧ s.localV4 env = some localV4 ∧
        SentBy f (s.loaded env).cachedLocalMac localV4 ∧
        (f.etherType = arpPacket ↔ s.Asks env p)) := by
  rcases transmit_forward env s p with ⟨hnot, -, hsends⟩ | ⟨hreach, a, buffer, t, hv4, hrun, ht⟩
  · exact ⟨[], by simpa using hsends, by simp, fun h => absurd h.reaches hnot⟩
  obtain ⟨frames, hforward, hframes⟩ := forwardIPv4_sends t ht.twenty_le env p.length a
  rw [ht.hop, ht.arp, ht.dest, ht.cachedDestIpRaw, ht.cachedDestValid, ht.first,
    ht.sends.cachedLocalMac] at hframes
  rw [hrun]
  refine ⟨frames, Or.inr (ht.sends.trans hforward), ?_⟩
  split_ifs at hframes with hmulti hhit
  · exact ⟨fun _ => hframes, fun h => absurd hmulti h.unicast⟩
  · obtain ⟨f, rfl, hsent, htype⟩ := hframes
    refine ⟨fun h => absurd ⟨hreach, hmulti, Or.inl hhit⟩ h, fun _ => ⟨f, a, rfl, hv4, hsent, ?_⟩⟩
    exact iff_of_false (by simp [htype, ipv4Packet, arpPacket]) fun h => h.1 hhit
  cases hop : s.hopOf env p with
  | none =>
    rw [hop] at hframes
    refine ⟨fun _ => by simp [hframes], fun h => ?_⟩
    rcases h.routed with h | h
    · exact absurd h hhit
    · simp [hop] at h
  | some hop' =>
    rw [hop] at hframes
    obtain ⟨f, rfl, hsent, htype⟩ := hframes
    refine ⟨fun h => absurd ⟨hreach, hmulti, Or.inr (by simp [hop])⟩ h, fun _ =>
      ⟨f, a, rfl, hv4, hsent, htype.trans ⟨fun h => ⟨hhit, hop', hop, h⟩, ?_⟩⟩⟩
    rintro ⟨-, hop'', hsome, hnone⟩
    rw [hop, Option.some.injEq] at hsome
    rwa [hsome]

end Frames

/-! ### The remembered config -/

/-- While no config is remembered there is no address; a remembered address is IPv4. -/
structure RemembersConfig (s : TunTapAdapter) : Prop where
  cachedLocalV4_eq_none : s.NeedsConfig → s.cachedLocalV4 = none
  isInet4 : ∀ a, s.cachedLocalV4 = some a → a.isInet4 = true

section Remembered

variable {s t : TunTapAdapter} {env : Environment}

theorem RemembersConfig.of_sends {frames : List Frame} (h : s.RemembersConfig)
    (hsends : s.Sends frames t) : t.RemembersConfig := by
  constructor
  · rw [hsends.needsConfig_iff, hsends.cachedLocalV4]
    exact h.cachedLocalV4_eq_none
  · rw [hsends.cachedLocalV4]
    exact h.isInet4

/-- What is remembered of a config that is loaded now. -/
theorem cachedLocalV4_cacheConfig (h : s.RemembersConfig) (hneeds : s.NeedsConfig)
    (config : VirtualNetworkConfig) : (s.cacheConfig config).cachedLocalV4 =
      (config.assignedAddresses.find? (·.address.isInet4)).map (·.address) := by
  simp [cacheConfig, h.cachedLocalV4_eq_none hneeds]

theorem RemembersConfig.loaded (h : s.RemembersConfig) (env : Environment) :
    (s.loaded env).RemembersConfig := by
  unfold TunTapAdapter.loaded
  split_ifs with hneeds
  · cases env.config with
    | none => exact h
    | some config =>
      constructor
      · -- the config that has just been loaded is remembered
        rintro (hnone | hid)
        · exact absurd hnone (by simp [cacheConfig])
        · exact absurd rfl hid
      · intro a ha
        rw [Option.elim_some, cachedLocalV4_cacheConfig h hneeds, Option.map_eq_some_iff] at ha
        obtain ⟨b, hb, rfl⟩ := ha
        simpa using List.find?_some hb
  · exact h

theorem sent_loaded (s : TunTapAdapter) (env : Environment) : (s.loaded env).sent = s.sent := by
  unfold TunTapAdapter.loaded
  split_ifs
  · cases env.config <;> rfl
  · rfl

theorem RemembersConfig.transmit (h : s.RemembersConfig) (env : Environment) (p : TunPacket) :
    (resultState (s.transmit env p)).RemembersConfig := by
  obtain ⟨frames, hsends | hsends, -⟩ := transmit_sends env s p
  · exact h.of_sends hsends
  · exact (h.loaded env).of_sends hsends

theorem localV4_isInet4 (h : s.RemembersConfig) {a : InetAddress} (ha : s.localV4 env = some a) :
    a.isInet4 = true := by
  rcases loadConfig_cases env s with ⟨-, -, hnone⟩ | ⟨-, -, hv4, -⟩ | ⟨config, -, hs, hv4, -⟩
  · rw [hnone] at ha
    cases ha
  · exact h.isInet4 a (hv4.symm.trans ha)
  · rw [← hs] at hv4
    exact (h.loaded env).isInet4 a (hv4.symm.trans ha)

end Remembered

/-- Four bytes are a whole IPv4 address. -/
theorem slice_getAddress_inj {a b : InetAddress} (ha : a.isInet4 = true) (hb : b.isInet4 = true)
    (h : a.getAddress.slice 0 4 = b.getAddress.slice 0 4) : a = b := by
  have hwhole : ∀ c : InetAddress, c.isInet4 = true → c.getAddress.slice 0 4 = c.getAddress := by
    intro c hc
    have hlen : c.getAddress.length = 4 := by simp [InetAddress.length_getAddress, hc]
    simp [Bytes.slice, hlen]
  rw [hwhole a ha, hwhole b hb] at h
  have hget := InetAddress.getByAddress_getAddress a
  rw [h, InetAddress.getByAddress_getAddress, Option.some.injEq] at hget
  exact hget.symm

/-- The stored config has this MAC and a first IPv4 address. -/
def Assigns (config : Option VirtualNetworkConfig) (mac : Mac) (address : InetAddress) : Prop :=
  ∃ c a, config = some c ∧ c.assignedAddresses.find? (·.address.isInet4) = some a ∧
    c.mac = mac ∧ a.address = address

/-- Which configs a frame can be sent under: those that assign its source MAC and, for an
ARP request, its sender address. -/
theorem sentUnder_iff {f : Frame} {mac : Mac} {a : InetAddress} (h : SentBy f mac a)
    (ha : a.isInet4 = true) (config : Option VirtualNetworkConfig) :
    SentUnder f config ↔ ∃ b, Assigns config mac b ∧ (f.etherType = arpPacket → b = a) := by
  constructor
  · rintro ⟨c, b, hc, hb, hsent⟩
    refine ⟨b.address, ⟨c, b, hc, hb, hsent.srcMac.symm.trans h.srcMac, rfl⟩, fun harp => ?_⟩
    have hslice := (hsent.senderAddress harp).symm.trans (h.senderAddress harp)
    exact slice_getAddress_inj (by simpa using List.find?_some hb) ha hslice
  · rintro ⟨_, ⟨c, b, hc, hb, rfl, rfl⟩, harp⟩
    refine ⟨c, b, hc, hb, h.srcMac, h.senderMac, fun htype => ?_⟩
    rw [harp htype]
    exact h.senderAddress htype

theorem sentUnder_ipv4_iff {f : Frame} (h : f.etherType = ipv4Packet)
    (config : Option VirtualNetworkConfig) :
    SentUnder f config ↔ ∃ a, Assigns config f.srcMac a := by
  rw [sentUnder_iff (sentBy_ipv4 h (.inet4 0)) rfl]
  simp [h, ipv4Packet, arpPacket]

section Packet

variable {s : TunTapAdapter} {env : Environment} {p : TunPacket}

theorem bridgeFrames_sentUnder_iff (config : Option VirtualNetworkConfig) :
    (∀ f ∈ s.bridgeFrames env p.buffer p.length, SentUnder f config) ↔
      ∀ bridge, s.tetherL3Bridge = some bridge → bridge.Intercepts p.buffer p.length →
        IPv4.headerLength p.buffer ≤ p.length → ∃ a, Assigns config bridge.localMac a := by
  obtain ⟨hfrom, hto⟩ := mem_bridgeFrames env s p
  constructor
  · intro h bridge hb hi hhead
    obtain ⟨f, hf, hmac⟩ := hto bridge hb hi hhead
    rw [← hmac, ← sentUnder_ipv4_iff (hfrom f hf).1]
    exact h f hf
  · intro h f hf
    obtain ⟨htype, bridge, hb, hi, hhead, hmac⟩ := hfrom f hf
    rw [sentUnder_ipv4_iff htype, hmac]
    exact h bridge hb hi hhead

/-- A config that is loaded for the packet is the one it is sent under. -/
theorem assigns_loaded (h : s.RemembersConfig) (hneeds : s.NeedsConfig) {a : InetAddress}
    (ha : s.localV4 env = some a) : Assigns env.config (s.loaded env).cachedLocalMac a := by
  rw [localV4, if_pos hneeds, Option.bind_eq_some_iff] at ha
  obtain ⟨config, hconfig, ha⟩ := ha
  rw [cachedLocalV4_cacheConfig h hneeds, Option.map_eq_some_iff] at ha
  obtain ⟨b, hb, hba⟩ := ha
  refine ⟨config, b, hconfig, hb, ?_, hba⟩
  rw [loaded, if_pos hneeds, hconfig]
  rfl

/-- The frames of a packet are current exactly if the bridge has the MAC of the config, and
what a unicast packet uses of the remembered config is in it. -/
theorem transmit_sentUnder_iff (h : s.RemembersConfig) (env : Environment) (p : TunPacket) :
    ∃ frames, (resultState (s.transmit env p)).sent = s.sent ++ frames ∧
      ((∀ f ∈ frames, SentUnder f env.config) ↔
        (∀ bridge, s.tetherL3Bridge = some bridge → bridge.Intercepts p.buffer p.length →
          IPv4.headerLength p.buffer ≤ p.length → ∃ a, Assigns env.config bridge.localMac a) ∧
        (¬ s.NeedsConfig → s.SendsUnicast env p → ∃ a, Assigns env.config s.cachedLocalMac a ∧
          (s.Asks env p → s.cachedLocalV4 = some a))) := by
  obtain ⟨frames, hsends, hother, hunicast⟩ := transmit_sends env s p
  have hsent : (resultState (s.transmit env p)).sent =
      s.sent ++ (s.bridgeFrames env p.buffer p.length ++ frames) := by
    rcases hsends with hsends | hsends
    · exact hsends.sent
    · rw [hsends.sent, sent_loaded]
  refine ⟨_, hsent, ?_⟩
  rw [List.forall_mem_append, bridgeFrames_sentUnder_iff]
  refine and_congr_right fun _ => ?_
  by_cases huni : s.SendsUnicast env p
  swap
  · exact iff_of_true (hother huni) fun _ h => absurd h huni
  obtain ⟨f, a, rfl, ha, hby, harp⟩ := hunicast huni
  rw [List.forall_mem_singleton, sentUnder_iff hby (localV4_isInet4 h ha), harp]
  by_cases hneeds : s.NeedsConfig
  · exact iff_of_true ⟨a, assigns_loaded h hneeds ha, fun _ => rfl⟩ fun hnot => absurd hneeds hnot
  · rw [localV4, if_neg hneeds] at ha
    have hloaded : s.loaded env = s := if_neg hneeds
    simp [hloaded, ha, hneeds, huni, eq_comm]

end Packet

end TunTapAdapter

namespace ZeroTierOneService

open TunTapAdapter

/-- A service whose adapter has been created and has not been started. -/
def start (networkId : BitVec 64) (natEngine : Option NatEngine) : ZeroTierOneService where
  tunTapAdapter := .start networkId none natEngine
  virtualNetworkConfig := none
  receiving := false

/-- The adapter after the old receive thread has ended and a new one, with tables of its own,
may be started. The fields that remember a config are not touched. What the tables already
hold when the first thread starts is a matter of `setAddress` steps after it. -/
def restarted (s : TunTapAdapter) : TunTapAdapter :=
  { s.clearRouteMap with arpTable := .empty, ndpTable := .empty, buffer := .zeros 1500 }

/-- `updateTunnelConfig`; `established` says that `establish()` gave a socket. After an
exception no thread is started, so that the routes added before it are not looked at. -/
def updateTunnelConfig (s : ZeroTierOneService) (builder : TunnelConfig.Builder)
    (disableIPv6 isRouteViaZeroTier : Bool) (order : IterationOrder Route) (established : Bool) :
    ZeroTierOneService :=
  match s.virtualNetworkConfig with
  | none => s
  | some config =>
    let adapter := restarted s.tunTapAdapter
    match TunnelConfig.updateTunnelConfig builder disableIPv6 isRouteViaZeroTier adapter.networkId
        order config with
    | .error _ => { s with tunTapAdapter := adapter, receiving := false }
    | .ok routeMap => { s with
        tunTapAdapter := { adapter with routeMap := routeMap, routeOrder := order }
        receiving := established }

/-- One packet of the receive thread, which ends with an exception of the handler. -/
def receive (s : ZeroTierOneService) (env : Environment) (p : TunPacket) : ZeroTierOneService :=
  match s.tunTapAdapter.transmit { env with config := s.virtualNetworkConfig } p with
  | .ok _ adapter => { s with tunTapAdapter := adapter }
  | .error _ adapter => { s with tunTapAdapter := adapter, receiving := false }

/-- What happens to the network of the adapter. The config of an `Environment` plays no part:
the service has it. -/
inductive Action
  | setVirtualNetworkConfig (config : VirtualNetworkConfig)
  | clearVirtualNetworkConfig
  | updateTunnelConfig (builder : TunnelConfig.Builder) (disableIPv6 isRouteViaZeroTier : Bool)
      (order : IterationOrder Route) (established : Bool)
  | setTetherL3Bridge (bridge : Option TetherL3Bridge)
  | setAddress (now : ℕ) (inetAddress : InetAddress) (mac : Mac)
  | sweep (now : ℕ) (order : IterationOrder NeighborEntry)
  | packet (env : Environment) (p : TunPacket)

def step (s : ZeroTierOneService) : Action → ZeroTierOneService
  | .setVirtualNetworkConfig config => { s with virtualNetworkConfig := some config }
  | .clearVirtualNetworkConfig => { s with virtualNetworkConfig := none }
  | .updateTunnelConfig builder disableIPv6 isRouteViaZeroTier order established =>
    s.updateTunnelConfig builder disableIPv6 isRouteViaZeroTier order established
  | .setTetherL3Bridge bridge =>
    { s with tunTapAdapter := { s.tunTapAdapter with tetherL3Bridge := bridge } }
  | .setAddress now inetAddress mac =>
    { s with tunTapAdapter := s.tunTapAdapter.step (.setAddress now inetAddress mac) }
  | .sweep now order => { s with tunTapAdapter := s.tunTapAdapter.step (.sweep now order) }
  | .packet env p => if s.receiving then s.receive env p else s

/-- Every frame of the packet is one of the config stored at that time. -/
def FramesCurrent (s : ZeroTierOneService) : Action → Prop
  | .packet env p => ∀ frames,
    (s.step (.packet env p)).tunTapAdapter.sent = s.tunTapAdapter.sent ++ frames →
      ∀ f ∈ frames, SentUnder f s.virtualNetworkConfig
  | _ => True

/-- A packet taken by the bridge finds the bridge with the MAC of the stored config. A unicast
packet that is sent with the remembered config finds its MAC in the stored config, and if it
needs an ARP request, also its address as the first one. -/
def KeepsCurrent (s : ZeroTierOneService) : Action → Prop
  | .packet env p => s.receiving = true →
    (∀ bridge, s.tunTapAdapter.tetherL3Bridge = some bridge →
      bridge.Intercepts p.buffer p.length → IPv4.headerLength p.buffer ≤ p.length →
      ∃ address, Assigns s.virtualNetworkConfig bridge.localMac address) ∧
    (¬ s.tunTapAdapter.NeedsConfig →
      s.tunTapAdapter.SendsUnicast { env with config := s.virtualNetworkConfig } p →
      ∃ address, Assigns s.virtualNetworkConfig s.tunTapAdapter.cachedLocalMac address ∧
        (s.tunTapAdapter.Asks { env with config := s.virtualNetworkConfig } p →
          s.tunTapAdapter.cachedLocalV4 = some address))
  | _ => True

section Step

variable {s : ZeroTierOneService}

theorem tunTapAdapter_receive (s : ZeroTierOneService) (env : Environment) (p : TunPacket) :
    (s.receive env p).tunTapAdapter =
      resultState (s.tunTapAdapter.transmit { env with config := s.virtualNetworkConfig } p) := by
  unfold receive
  cases s.tunTapAdapter.transmit { env with config := s.virtualNetworkConfig } p <;> rfl

theorem remembersConfig_updateTunnelConfig (h : s.tunTapAdapter.RemembersConfig)
    (builder : TunnelConfig.Builder) (disableIPv6 isRouteViaZeroTier : Bool)
    (order : IterationOrder Route) (established : Bool) :
    (s.updateTunnelConfig builder disableIPv6 isRouteViaZeroTier order
      established).tunTapAdapter.RemembersConfig := by
  unfold updateTunnelConfig
  dsimp only
  split
  · exact h
  · split <;> exact ⟨h.cachedLocalV4_eq_none, h.isInet4⟩

theorem remembersConfig_step (action : Action) (h : s.tunTapAdapter.RemembersConfig) :
    (s.step action).tunTapAdapter.RemembersConfig := by
  cases action with
  | setVirtualNetworkConfig config => exact h
  | clearVirtualNetworkConfig => exact h
  | updateTunnelConfig builder disableIPv6 isRouteViaZeroTier order established =>
    exact remembersConfig_updateTunnelConfig h ..
  | setTetherL3Bridge bridge => exact ⟨h.cachedLocalV4_eq_none, h.isInet4⟩
  | setAddress now inetAddress mac => exact ⟨h.cachedLocalV4_eq_none, h.isInet4⟩
  | sweep now order => exact ⟨h.cachedLocalV4_eq_none, h.isInet4⟩
  | packet env p =>
    dsimp only [step]
    split_ifs
    · rw [tunTapAdapter_receive]
      exact h.transmit _ p
    · exact h

/-- The step lemma: with the remembered config as the invariant says, the frames of a step
are current exactly if the step meets the guard. -/
theorem framesCurrent_step (h : s.tunTapAdapter.RemembersConfig) (action : Action) :
    s.FramesCurrent action ↔ s.KeepsCurrent action := by
  cases action with
  | packet env p =>
    dsimp only [FramesCurrent, KeepsCurrent, step]
    by_cases hreceiving : s.receiving = true
    · obtain ⟨frames, hsent, hiff⟩ :=
        transmit_sentUnder_iff h { env with config := s.virtualNetworkConfig } p
      rw [if_pos hreceiving, tunTapAdapter_receive, hsent]
      simp only [hreceiving, forall_const]
      rw [← hiff]
      constructor
      · intro hall
        exact hall frames rfl
      · intro hall frames' heq
        rwa [← List.append_cancel_left heq]
    · rw [if_neg hreceiving]
      refine iff_of_true (fun frames heq => ?_) fun hr => absurd hr hreceiving
      have hnil : frames = [] := by simpa using heq
      simp [hnil]
  | _ => exact Iff.rfl

end Step

theorem remembersConfig_start (networkId : BitVec 64) (natEngine : Option NatEngine) :
    (start networkId natEngine).tunTapAdapter.RemembersConfig :=
  ⟨fun _ => rfl, fun a h => by cases h⟩

theorem along_iff_of_remembersConfig {s : ZeroTierOneService}
    (hs : s.tunTapAdapter.RemembersConfig) (actions : List Action) :
    Run.Along step FramesCurrent s actions ↔ Run.Along step KeepsCurrent s actions :=
  Run.along_congr_of_step (fun _ action => remembersConfig_step action)
    (fun _ action h => framesCurrent_step h action) actions hs

/-- In every run of a service, each packet sends only frames of the stored config if and only
if each packet finds what it uses, the MAC of the bridge or the remembered config, in the
stored config. -/
theorem framesCurrent_along_iff (networkId : BitVec 64) (natEngine : Option NatEngine)
    (actions : List Action) :
    Run.Along step FramesCurrent (start networkId natEngine) actions ↔
      Run.Along step KeepsCurrent (start networkId natEngine) actions :=
  along_iff_of_remembersConfig (remembersConfig_start networkId natEngine) actions

/-- A config with one address in a network with a prefix of 24 bits is stored, and the tunnel
restarted with it. -/
def reconfigure (raw : BitVec 32) : List Action :=
  [.setVirtualNetworkConfig ⟨1, 7, [⟨.inet4 raw, 24⟩], []⟩,
    .updateTunnelConfig TunnelConfig.permissive false false default true]

/-- The node asks for `10.0.0.1` as `10.0.0.2`, gets the address `10.0.0.3` and asks again. -/
def newAddress : List Action :=
  reconfigure 0x0a000002 ++ [.packet homeNetwork (.bare 0x0a000002 0x0a000001)] ++
    reconfigure 0x0a000003 ++ [.packet homeNetwork (.bare 0x0a000003 0x0a000001)]

theorem not_framesCurrent_newAddress :
    ¬ Run.Along step FramesCurrent (start 1 none) newAddress := by
  rw [along_iff_of_remembersConfig (remembersConfig_start 1 none)]
  rintro ⟨-, -, -, -, -, hkeep, -⟩
  obtain ⟨a, ⟨c, b, hc, hb, -, rfl⟩, hasks⟩ := (hkeep (by decide +kernel)).2 (by decide +kernel)
    ⟨⟨⟨none, by decide +kernel⟩, by decide +kernel⟩, by decide +kernel, Or.inr (by decide +kernel)⟩
  obtain rfl := Option.some.inj hc
  obtain rfl := Option.some.inj hb
  have hold := hasks ⟨by decide +kernel, .inet4 0x0a000001, by decide +kernel, by decide +kernel⟩
  exact absurd hold (by decide +kernel)

end ZeroTierOneService

end XnetZt
