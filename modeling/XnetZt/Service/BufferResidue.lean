import XnetZt.Lib.Handler
import XnetZt.Service.DestinationCache
import XnetZt.Service.ReceiveThread
import XnetZt.Tether.ConnectionTable

/-!
# What an earlier packet leaves in the buffer

The receive thread reads every packet into the same buffer and hands on the buffer with
the length. Of an IPv4 packet of at least 20 bytes no handler looks behind the length: two
buffers with the same packet give the same frames and the same adapter. The lookup reads the
addresses at their offsets whatever the length is, so for a shorter packet it reads what an
earlier one has left there.
-/

namespace XnetZt

/-- Two buffers with the same first `n` bytes. -/
structure SamePacket (n : ℕ) (b b' : Bytes) : Prop where
  take_eq : b.take n = b'.take n
  le_length : n ≤ b.length
  le_length' : n ≤ b'.length

namespace SamePacket

variable {n : ℕ} {b b' : Bytes} (h : SamePacket n b b')

include h

theorem getD {i : ℕ} (hi : i < n) : b.getD i 0 = b'.getD i 0 := by
  rw [← Bytes.getD_take hi, h.take_eq, Bytes.getD_take hi]

theorem slice {pos length : ℕ} (hi : pos + length ≤ n) :
    b.slice pos length = b'.slice pos length := by
  rw [← Bytes.slice_take hi, h.take_eq, Bytes.slice_take hi]

theorem read {i : ℕ} (hi : i < n) : b.read i = b'.read i := by
  have hl := h.le_length
  have hl' := h.le_length'
  rw [Bytes.read_eq_ok (by omega), Bytes.read_eq_ok (by omega), h.getD hi]

theorem getInt {i : ℕ} (hi : i + 4 ≤ n) : b.getInt i = b'.getInt i := by
  have hl := h.le_length
  have hl' := h.le_length'
  rw [Bytes.getInt_eq_ok (by omega), Bytes.getInt_eq_ok (by omega), h.slice hi]

theorem arraycopy {pos length : ℕ} (hi : pos + length ≤ n) :
    Bytes.arraycopy b pos (.zeros length) 0 length =
      Bytes.arraycopy b' pos (.zeros length) 0 length := by
  have hl := h.le_length
  have hl' := h.le_length'
  rw [Bytes.arraycopy_new (by omega), Bytes.arraycopy_new (by omega), h.slice hi]

theorem copyOf : b.copyOf n = b'.copyOf n := by
  rw [Bytes.copyOf_eq_take h.le_length, Bytes.copyOf_eq_take h.le_length', h.take_eq]

theorem set (i : ℕ) (x : Byte) : SamePacket n (b.set i x) (b'.set i x) where
  take_eq := by rw [List.take_set, List.take_set, h.take_eq]
  le_length := by rw [List.length_set]; exact h.le_length
  le_length' := by rw [List.length_set]; exact h.le_length'

end SamePacket

/-! ### The engine and the bridge -/

namespace NatEngine

open BigEndian

variable {n : ℕ} {b b' : Bytes}

theorem samePacket_forwarded (h : SamePacket n b b') (h20 : 20 ≤ n) (e : NatEngine) :
    SamePacket n (e.forwarded b) (e.forwarded b') := by
  unfold forwarded
  split_ifs
  · have hsum : word16 b 10 = word16 b' 10 := by
      rw [word16, word16, h.getD (by omega), h.getD (by omega)]
    unfold fixedTtl
    rw [h.getD (by omega), hsum]
    exact ((h.set _ _).set _ _).set _ _
  · exact h

theorem trackConnection_samePacket (h : SamePacket n b b') (h20 : 20 ≤ n) (e : NatEngine)
    (now : ℕ) (outbound : Bool) :
    e.trackConnection now b n outbound = e.trackConnection now b' n outbound := by
  have hl := h.le_length
  have hl' := h.le_length'
  have hport : ∀ i, i + 2 ≤ n → readPort b i = readPort b' i := by
    intro i hi
    rw [readPort, readPort, h.read (by omega), h.read (by omega)]
  have hhash : ∀ s d p, hashConnection b s d p = hashConnection b' s d p := by
    intro s d p
    have haddress := addressHash_congr fun i _ (h20' : i < 20) => h.getD (i := i) (by omega)
    rw [hashConnection_eq (by omega), hashConnection_eq (by omega), haddress]
  have hentry : ∀ k s d p, e.flowEntry now b k s d p = e.flowEntry now b' k s d p := by
    intro k s d p
    rw [flowEntry, flowEntry, h.arraycopy (by omega), h.arraycopy (by omega)]
  unfold trackConnection
  rw [h.read (by omega), Bytes.read_eq_ok (by omega), ok_bind, ok_bind]
  dsimp only
  by_cases hports : n < (b'.getD 0 0).toNat % 16 * 4 + 4
  · rw [if_pos hports, if_pos hports]
  · rw [if_neg hports, if_neg hports, h.read (by omega), hport _ (by omega), hport _ (by omega)]
    simp only [hhash, hentry]

/-- The engine does the same with both packets, and they stay the same. -/
theorem processOutbound_samePacket (h : SamePacket n b b') (h20 : 20 ≤ n) (e : NatEngine)
    (now : ℕ) (interfaces : List TetherInterface) :
    ∃ r e' p p', e.processOutbound now interfaces b n = .ok (r, e', p) ∧
      e.processOutbound now interfaces b' n = .ok (r, e', p') ∧ SamePacket n p p' := by
  have hl := h.le_length
  have hl' := h.le_length'
  unfold processOutbound
  rw [if_neg (by omega), if_neg (by omega), h.read (by omega), Bytes.read_eq_ok (by omega),
    ok_bind, ok_bind]
  by_cases hv : (b'.getD 0 0).toNat / 16 ≠ 4
  · rw [if_pos hv, if_pos hv]
    exact ⟨_, _, _, _, rfl, rfl, h⟩
  obtain ⟨tether, ht⟩ := isTetherSubnetAddress_eq_ok interfaces
    (Bytes.length_slice (show 12 + 4 ≤ b'.length by omega))
  rw [if_neg hv, if_neg hv, h.arraycopy (by omega), Bytes.arraycopy_new (by omega), ok_bind, ht,
    ok_bind, ok_bind, ht, ok_bind]
  cases tether with
  | false => exact ⟨_, _, _, _, rfl, rfl, h⟩
  | true =>
    have hfwd := samePacket_forwarded h h20 e
    have hlf := hfwd.le_length'
    obtain ⟨e', he'⟩ := e.trackConnection_eq_ok now (show 20 ≤ (e.forwarded b').length by omega)
      hlf true
    rw [if_neg (by simp), if_neg (by simp), fixTtlIfEnabled_eq e (by omega),
      fixTtlIfEnabled_eq e (by omega), ok_bind, ok_bind, trackConnection_samePacket hfwd h20, he']
    exact ⟨_, _, _, _, rfl, rfl, hfwd⟩

end NatEngine

namespace TetherL3Bridge

theorem processOutbound_samePacket {n : ℕ} {b b' : Bytes} (h : SamePacket n b b')
    (bridge : TetherL3Bridge) (node : Frame → ResultCode) :
    bridge.processOutbound node b n = bridge.processOutbound node b' n := by
  have hl := h.le_length
  have hl' := h.le_length'
  unfold processOutbound
  by_cases h20 : n < 20
  · rw [if_pos h20, if_pos h20]
  · have hsubnet : bridge.isInTetherSubnet b 12 = bridge.isInTetherSubnet b' 12 := by
      rw [isInTetherSubnet, isInTetherSubnet, if_neg (by omega), if_neg (by omega),
        h.getInt (by omega)]
    rw [hsubnet, h.arraycopy (by omega)]

end TetherL3Bridge

namespace TunTapAdapter

open AdapterM Handler

/-! ### Nothing but the buffer differs -/

/-- The same adapter with another buffer. -/
def SameButBuffer (s t : TunTapAdapter) : Prop := ∃ buffer, t = { s with buffer := buffer }

/-- Two runs return or throw alike, and leave the same adapter but for the buffer. -/
def SameEffect : EStateM.Result JavaException TunTapAdapter Unit →
    EStateM.Result JavaException TunTapAdapter Unit → Prop :=
  Matching SameButBuffer Eq

theorem SameEffect.symm {r r' : EStateM.Result JavaException TunTapAdapter Unit}
    (h : SameEffect r r') : SameEffect r' r := by
  cases h with
  | ok _ hR =>
    obtain ⟨buffer, rfl⟩ := hR
    exact .ok rfl ⟨_, rfl⟩
  | error hR =>
    obtain ⟨buffer, rfl⟩ := hR
    exact .error ⟨_, rfl⟩

theorem SameEffect.states {t t' : TunTapAdapter} (h : SameEffect (.ok () t) (.ok () t')) :
    t.sent = t'.sent ∧ t.cachedDestIpRaw = t'.cachedDestIpRaw := by
  cases h with
  | ok _ hR =>
    obtain ⟨buffer, rfl⟩ := hR
    exact ⟨rfl, rfl⟩

section Blind

variable {α : Type} {n : ℕ} {b b' : Bytes} (env : Environment)

theorem relates_call (x : Except JavaException α) :
    Relates SameButBuffer Eq (call x) (call x) := by
  intro s t hst
  cases x with
  | ok a => exact .ok rfl hst
  | error e => exact .error hst

/-- Other fields are set to what does not depend on the buffer. -/
theorem relates_update {f : TunTapAdapter → TunTapAdapter}
    (h : ∀ s buffer, f { s with buffer := buffer } = { f s with buffer := buffer }) :
    Relates SameButBuffer Eq (modify f : AdapterM PUnit) (modify f) := by
  apply relates_modify
  rintro s t ⟨buffer, rfl⟩
  exact ⟨buffer, h s buffer⟩

theorem relates_send (frame : Frame) : Relates SameButBuffer Eq (send frame) (send frame) :=
  relates_update fun _ _ => rfl

theorem relates_arpGetMacForAddress (a : InetAddress) :
    Relates SameButBuffer Eq (arpGetMacForAddress env a) (arpGetMacForAddress env a) := by
  apply relates_modifyGet
  rintro s t ⟨buffer, rfl⟩
  exact ⟨rfl, buffer, rfl⟩

theorem relates_ndpGetMacForAddress (a : InetAddress) :
    Relates SameButBuffer Eq (ndpGetMacForAddress env a) (ndpGetMacForAddress env a) := by
  apply relates_modifyGet
  rintro s t ⟨buffer, rfl⟩
  exact ⟨rfl, buffer, rfl⟩

theorem relates_subscribeTo (isMulticast : Bool) (a : InetAddress) :
    Relates SameButBuffer Eq (subscribeTo isMulticast a) (subscribeTo isMulticast a) := by
  apply relates_ite
  · exact relates_update fun _ _ => rfl
  · exact relates_pure rfl

/-- A program that goes on with fields other than the buffer. -/
theorem relates_get_bind {β : Type} {Q : α → β → Prop} {f : TunTapAdapter → AdapterM α}
    {g : TunTapAdapter → AdapterM β}
    (h : ∀ s buffer, Relates SameButBuffer Q (f s) (g { s with buffer := buffer })) :
    Relates SameButBuffer Q (get >>= f) (get >>= g) := by
  apply relates_bind relates_get
  rintro s t ⟨buffer, rfl⟩
  exact h s buffer

/-- The same program goes on in both runs. -/
theorem relates_then {β γ δ : Type} {Q : γ → δ → Prop} {x y : AdapterM β}
    {f : β → AdapterM γ} {g : β → AdapterM δ} (hxy : Relates SameButBuffer Eq x y)
    (h : ∀ a, Relates SameButBuffer Q (f a) (g a)) :
    Relates SameButBuffer Q (x >>= f) (y >>= g) := by
  apply relates_bind hxy
  rintro a _ rfl
  exact h a

theorem relates_handleIPv4PacketArp (localV4 destIP : InetAddress) :
    Relates SameButBuffer Eq (handleIPv4PacketArp localV4 destIP)
      (handleIPv4PacketArp localV4 destIP) := by
  apply relates_get_bind
  intro s buffer
  apply relates_then (relates_call _)
  intro request
  exact relates_send _

theorem relates_sendCached (h : SamePacket n b b') :
    Relates SameButBuffer Eq (sendCached b n) (sendCached b' n) := by
  unfold sendCached
  rw [h.copyOf]
  apply relates_get_bind
  intro s buffer
  apply relates_then (relates_send _)
  intro _
  exact relates_update fun _ _ => rfl

theorem relates_resolveUntil (h : SamePacket n b b') (localV4 destIP : InetAddress)
    (raw : BitVec 32) :
    Relates SameButBuffer Eq (resolveUntil localV4 b n raw destIP)
      (resolveUntil localV4 b' n raw destIP) := by
  unfold resolveUntil
  rw [h.copyOf]
  apply relates_get_bind
  intro s buffer
  apply relates_ite
  · exact relates_pure rfl
  · exact relates_then (relates_handleIPv4PacketArp localV4 destIP) fun _ => relates_pure rfl

theorem relates_cacheMissUntil (h : SamePacket n b b') (h20 : 20 ≤ n) (localV4 : InetAddress)
    (raw : BitVec 32) :
    Relates SameButBuffer Eq (cacheMissUntil localV4 b n raw)
      (cacheMissUntil localV4 b' n raw) := by
  unfold cacheMissUntil
  rw [h.arraycopy (by omega), h.arraycopy (by omega)]
  apply relates_then (relates_call _)
  intro ipBuf4
  cases InetAddress.getByAddress ipBuf4 with
  | none => exact relates_pure rfl
  | some destIP =>
    apply relates_get_bind
    intro s buffer
    dsimp only
    cases routeForDestination s.routeOrder s.routeMap destIP with
    | none => exact relates_pure rfl
    | some route =>
      dsimp only
      cases route.gateway with
      | none => exact relates_resolveUntil h localV4 destIP raw
      | some gateway =>
        apply relates_then (relates_call _)
        intro ipBuf4
        cases InetAddress.getByAddress ipBuf4 with
        | none => exact relates_pure rfl
        | some sourceIP => exact relates_resolveUntil h localV4 _ raw

theorem relates_sendIPv4Until (localMac : Mac) (localV4 : InetAddress) (isMulticast : Bool)
    (packetData : Bytes) (destIP : InetAddress) :
    Relates SameButBuffer Eq (sendIPv4Until localMac localV4 isMulticast packetData destIP)
      (sendIPv4Until localMac localV4 isMulticast packetData destIP) := by
  apply relates_get_bind
  intro s buffer
  apply relates_ite
  · apply relates_ite
    · exact relates_then (relates_send _) fun _ => relates_pure rfl
    · exact relates_pure rfl
  · apply relates_then (relates_call _)
    intro request
    exact relates_then (relates_send _) fun _ => relates_pure rfl

theorem relates_handleIPv4PacketDataUntil (packetData : Bytes) :
    Relates SameButBuffer Eq (handleIPv4PacketDataUntil env packetData)
      (handleIPv4PacketDataUntil env packetData) := by
  apply relates_then (relates_call _)
  intro destIP
  apply relates_then (relates_call _)
  intro sourceIP
  split
  · apply relates_then (relates_subscribeTo _ _)
    intro _
    apply relates_get_bind
    intro s buffer
    dsimp only
    split
    · exact relates_pure rfl
    · exact relates_sendIPv4Until _ _ _ _ _
  · exact relates_pure rfl

theorem relates_forwardIPv4Until (h : SamePacket n b b') (h20 : 20 ≤ n) (localV4 : InetAddress) :
    Relates SameButBuffer Eq (forwardIPv4Until env localV4 b n)
      (forwardIPv4Until env localV4 b' n) := by
  unfold forwardIPv4Until
  rw [h.read (by omega), h.getInt (by omega), h.copyOf]
  apply relates_then (relates_call _)
  intro first
  apply relates_ite
  · exact relates_handleIPv4PacketDataUntil env _
  · apply relates_then (relates_call _)
    intro destIpRaw
    apply relates_get_bind
    intro s buffer
    apply relates_ite
    · exact relates_then (relates_sendCached h) fun _ => relates_pure rfl
    · exact relates_cacheMissUntil h h20 localV4 destIpRaw

/-- A lookup and what follows it know only the packet that was copied from the buffer. -/
theorem relates_complete (l : Lookup) :
    Relates SameButBuffer Eq (l.complete env) (l.complete env) := by
  have hsend : ∀ (frame : BitVec 64 → Frame),
      Relates SameButBuffer Eq (do send (frame (← get).networkId))
        (do send (frame (← get).networkId)) := by
    intro frame
    exact relates_get_bind fun s buffer => relates_send _
  cases l with
  | fast destIP destIpRaw packetData =>
    apply relates_then (relates_arpGetMacForAddress env destIP)
    intro destMac
    apply relates_then (relates_update fun _ _ => rfl)
    intro _
    exact relates_get_bind fun s buffer => relates_send _
  | full destIP localMac packetData =>
    exact relates_then (relates_arpGetMacForAddress env destIP) fun destMac =>
      hsend (⟨·, localMac, destMac, ipv4Packet, 0, packetData⟩)
  | ipv6 destIP sourceIP localMac packetData sendNSPacket =>
    apply relates_then (relates_ndpGetMacForAddress env destIP)
    intro destMac
    have hknown : Relates SameButBuffer Eq (sendKnown localMac destMac packetData)
        (sendKnown localMac destMac packetData) :=
      relates_ite (relates_pure rfl) (hsend (⟨·, localMac, destMac, ipv6Packet, 0, packetData⟩))
    apply relates_then hknown
    intro _
    apply relates_ite _ (relates_pure rfl)
    apply relates_then (relates_call _)
    intro solicitation
    exact relates_get_bind fun s buffer => relates_send _

theorem relates_atOnce {x x' : AdapterM (Option Lookup)} (h : Relates SameButBuffer Eq x x') :
    Relates SameButBuffer Eq (atOnce env x) (atOnce env x') := by
  apply relates_then h
  intro lookup
  cases lookup with
  | none => exact relates_pure rfl
  | some l => exact relates_complete env l

theorem relates_bridgeOutbound (h : SamePacket n b b') :
    Relates SameButBuffer Eq (bridgeOutbound env b n) (bridgeOutbound env b' n) := by
  apply relates_get_bind
  intro s buffer
  dsimp only
  cases s.tetherL3Bridge with
  | none => exact relates_pure rfl
  | some bridge =>
    dsimp only
    rw [bridge.processOutbound_samePacket h]
    apply relates_ite
    · apply relates_then (relates_call _)
      rintro ⟨frame, handled⟩
      apply relates_then (relates_update fun _ _ => rfl)
      intro _
      exact relates_pure rfl
    · exact relates_pure rfl

theorem relates_natOutbound (h : SamePacket n b b') (h20 : 20 ≤ n) :
    Relates SameButBuffer (SamePacket n) (natOutbound env b n) (natOutbound env b' n) := by
  apply relates_get_bind
  intro s buffer
  dsimp only
  cases s.natEngine with
  | none => exact relates_pure h
  | some engine =>
    obtain ⟨r, engine', p, p', hrun, hrun', hpacket⟩ :=
      engine.processOutbound_samePacket h h20 env.now env.interfaces
    dsimp only
    rw [hrun, hrun']
    -- the two calls return their own buffers, so they are taken apart by hand
    rintro s t ⟨buffer, rfl⟩
    exact .ok hpacket ⟨p', rfl⟩

theorem relates_loadConfig : Relates SameButBuffer Eq (loadConfig env) (loadConfig env) := by
  apply relates_get_bind
  intro s buffer
  apply relates_ite
  · cases env.config with
    | none => exact relates_pure rfl
    | some config =>
      apply relates_then (relates_set ⟨buffer, rfl⟩)
      intro _
      exact relates_pure rfl
  · exact relates_pure rfl

/-- Of a packet that holds its header nothing behind its length is used. -/
theorem relates_handleIPv4Packet (h : SamePacket n b b') (h20 : 20 ≤ n) :
    Relates SameButBuffer Eq (handleIPv4Packet env b n) (handleIPv4Packet env b' n) := by
  have htrack : Relates SameButBuffer
      (Option.Rel fun p p' => p.1 = p'.1 ∧ SamePacket n p.2 p'.2)
      (trackAndLoad env b n) (trackAndLoad env b' n) := by
    apply relates_bind (relates_natOutbound env h h20)
    intro p p' hp
    apply relates_then (relates_loadConfig env)
    intro loaded
    apply relates_ite
    · exact relates_pure .none
    · apply relates_get_bind
      intro s buffer
      apply relates_pure
      dsimp only
      cases s.cachedLocalV4 with
      | none => exact .none
      | some localV4 => exact .some ⟨rfl, hp⟩
  have hprepare : Relates SameButBuffer
      (Option.Rel fun p p' => p.1 = p'.1 ∧ SamePacket n p.2 p'.2)
      (prepareIPv4 env b n) (prepareIPv4 env b' n) := by
    apply relates_then (relates_bridgeOutbound env h)
    intro taken
    apply relates_ite
    · exact relates_pure .none
    · exact htrack
  apply relates_atOnce
  apply relates_bind hprepare
  intro r r' hr
  cases hr with
  | none => exact relates_pure rfl
  | @some p p' hp =>
    obtain ⟨localV4, q⟩ := p
    obtain ⟨localV4', q'⟩ := p'
    obtain ⟨rfl, hq⟩ : localV4 = localV4' ∧ SamePacket n q q' := hp
    exact relates_forwardIPv4Until env hq h20 localV4

end Blind

/-! ### Packets without their header -/

/-- What becomes of a packet of less than 20 bytes, by what stands where the header would be:
a multicast address throws, an address without a route is dropped, one that is resolved or
cached is sent to, and for any other an ARP request goes out. -/
inductive Fate where
  | throws
  | drops
  | sends
  | asks (target : BitVec 32)
  deriving DecidableEq

def fate (s : TunTapAdapter) (header : Bytes) : Fate :=
  if header.getD 16 0 &&& 0xf0 = 0xe0 then .throws
  else if s.cachedDestValid = true ∧ rawAt header 16 = s.cachedDestIpRaw then .sends
  else match s.hopFor header with
    | none => .drops
    | some hop =>
      if s.arpTable.hasMacForAddress hop then .sends else .asks (rawAt hop.getAddress 0)

/-- However the header of the packet is completed, one and the same thing becomes of it, and
it is not sent. -/
def Foreseen (s : TunTapAdapter) (packet : Bytes) : Prop :=
  ∃ f, f ≠ .sends ∧ ∀ rest : Bytes, packet.length + rest.length = 20 → s.fate (packet ++ rest) = f

/-- Whatever stands behind the packet in the buffer, handling it has the same effect. -/
def IgnoresResidue (s : TunTapAdapter) (env : Environment) (packet : Bytes) : Prop :=
  ∀ b b' : Bytes, b.length = 1500 → b'.length = 1500 → b.take packet.length = packet →
    b'.take packet.length = packet →
    SameEffect ((handleIPv4Packet env b packet.length).run { s with buffer := b })
      ((handleIPv4Packet env b' packet.length).run { s with buffer := b' })

section Short

variable {s : TunTapAdapter} {env : Environment} {b : Bytes} {n : ℕ}

theorem loaded_buffer (s : TunTapAdapter) (env : Environment) (b : Bytes) :
    loaded { s with buffer := b } env = { s.loaded env with buffer := b } := by
  unfold loaded
  by_cases h : s.NeedsConfig
  · rw [if_pos h, if_pos (show NeedsConfig { s with buffer := b } from h)]
    cases env.config <;> rfl
  · rw [if_neg h, if_neg (show ¬ NeedsConfig { s with buffer := b } from h)]

/-- Neither the bridge nor the engine looks at a short packet. -/
theorem prepareIPv4_short (env : Environment) (hn : n < 20) (hlen : n ≤ s.buffer.length) :
    (prepareIPv4 env s.buffer n).run s =
      .ok ((s.localV4 env).map (·, s.buffer)) (s.loaded env) := by
  have hbridge : ¬ s.Bridged s.buffer n := by
    rintro ⟨bridge, -, hi⟩
    have := hi.twenty_le
    omega
  have hnat : (natOutbound env s.buffer n).run s = .ok s.buffer s := by
    cases h : s.natEngine with
    | none => simp [natOutbound, h]
    | some engine =>
      have hrun : engine.processOutbound env.now env.interfaces s.buffer n =
          .ok (false, engine, s.buffer) := by
        rw [NatEngine.processOutbound, if_pos hn]
        rfl
      have hsame : { s with natEngine := some engine, buffer := s.buffer } = s := by
        rw [← h]
      simp [natOutbound, h, hrun, hsame, -bind_pure_comp]
  rw [prepareIPv4_of_not_bridged env hlen hbridge]
  rcases loadConfig_cases env s with ⟨hload, ht, hnone⟩ | ⟨hload, ht, hv4, -⟩ |
    ⟨config, hload, ht, hv4, -⟩
  · simp [trackAndLoad, hnat, hload, ht, hnone]
  · simp [trackAndLoad, hnat, hload, ht, hv4, -bind_pure_comp]
  · simp [trackAndLoad, hnat, hload, ht, hv4, -bind_pure_comp]

theorem handleIPv4Packet_short (env : Environment) (hn : n < 20) (hlen : n ≤ b.length) :
    (handleIPv4Packet env b n).run { s with buffer := b } =
      match s.localV4 env with
      | none => .ok () { s.loaded env with buffer := b }
      | some localV4 => (forwardIPv4 env localV4 b n).run { s.loaded env with buffer := b } := by
  have hprep : (prepareIPv4 env b n).run { s with buffer := b } =
      .ok ((s.localV4 env).map (·, b)) { s.loaded env with buffer := b } := by
    rw [← loaded_buffer]
    exact prepareIPv4_short (s := { s with buffer := b }) env hn hlen
  rw [handleIPv4Packet_eq, EStateM.run_bind, hprep]
  cases s.localV4 env <;> rfl

/-- The end of a packet that is not sent. -/
def outcome (s : TunTapAdapter) (localV4 : InetAddress) :
    Fate → EStateM.Result JavaException TunTapAdapter Unit
  | .throws => .error .arrayIndexOutOfBounds s
  | .asks target => (handleIPv4PacketArp localV4 (.inet4 target)).run s
  | _ => .ok () s

/-- An ARP request has room for four bytes of its target. -/
theorem resolveAndSend_asks {hop : InetAddress}
    (h : s.arpTable.inetAddressToMacAddress.lookup hop = none) (localV4 : InetAddress)
    (raw : BitVec 32) :
    (resolveAndSend env localV4 b n raw hop).run s =
      s.outcome localV4 (.asks (rawAt hop.getAddress 0)) := by
  have htarget : hop.getAddress.slice 0 4 =
      (InetAddress.inet4 (rawAt hop.getAddress 0)).getAddress.slice 0 4 := by
    have hfour := ARPTable.four_le_length_getAddress hop
    rw [getAddress_rawAt hfour, Bytes.slice_all (Bytes.length_slice (by omega))]
  have hrequest : ARPTable.getRequestPacket s.cachedLocalMac localV4 hop =
      ARPTable.getRequestPacket s.cachedLocalMac localV4 (.inet4 (rawAt hop.getAddress 0)) :=
    ARPTable.getARPPacket_congr htarget ..
  have hmac : s.arpTable.hasMacForAddress hop = false := by
    rw [NeighborTable.hasMacForAddress, h]
    rfl
  rw [resolveAndSend, resolveUntil, atOnce_bind, Handler.run_get_bind, hmac,
    if_neg Bool.false_ne_true, atOnce_none, outcome, handleIPv4PacketArp, handleIPv4PacketArp,
    Handler.run_get_bind, Handler.run_get_bind, hrequest]

/-- A short packet whose buffer has something to read for the header. -/
theorem forwardIPv4_short (env : Environment) (localV4 : InetAddress) (h20 : 20 ≤ b.length)
    (hn : n < 20) (hpos : 0 < n) (hv : IPPacketUtils.getIPVersion b = .ok 4) :
    (s.fate b ≠ .sends ∧
        (forwardIPv4 env localV4 b n).run s = s.outcome localV4 (s.fate b)) ∨
      (s.fate b = .sends ∧ ∃ s' f, (forwardIPv4 env localV4 b n).run s = .ok () s' ∧
        s'.cachedDestIpRaw = rawAt b 16 ∧ s'.sent = s.sent ++ [f] ∧ f.etherType = ipv4Packet) := by
  by_cases hmulti : b.getD 16 0 &&& 0xf0 = 0xe0
  · rw [forwardIPv4_throws localV4 h20 hn hpos hv hmulti, fate, if_pos hmulti]
    exact Or.inl ⟨by decide, rfl⟩
  rw [fate, if_neg hmulti, forwardIPv4_run s h20, if_neg hmulti]
  by_cases hhit : s.cachedDestValid = true ∧ rawAt b 16 = s.cachedDestIpRaw
  · rw [if_pos hhit, if_pos hhit]
    exact Or.inr ⟨rfl, _, _, sendCached_run .., hhit.2.symm, rfl, rfl⟩
  rw [if_neg hhit, if_neg hhit]
  cases s.hopFor b with
  | none => exact Or.inl ⟨Fate.noConfusion, rfl⟩
  | some hop =>
    dsimp only
    cases hmac : s.arpTable.inetAddressToMacAddress.lookup hop with
    | some mac =>
      rw [NeighborTable.hasMacForAddress, hmac, resolveAndSend_known hmac]
      exact Or.inr ⟨rfl, _, _, rfl, rfl, rfl, rfl⟩
    | none =>
      rw [NeighborTable.hasMacForAddress, hmac, resolveAndSend_asks hmac]
      exact Or.inl ⟨by simp, rfl⟩

theorem sameEffect_outcome (s : TunTapAdapter) (localV4 : InetAddress) (b b' : Bytes)
    (f : Fate) :
    SameEffect (outcome { s with buffer := b } localV4 f)
      (outcome { s with buffer := b' } localV4 f) := by
  have hstates : SameButBuffer { s with buffer := b } { s with buffer := b' } := ⟨b', rfl⟩
  cases f with
  | throws => exact .error hstates
  | drops => exact .ok rfl hstates
  | sends => exact .ok rfl hstates
  | asks target => exact relates_handleIPv4PacketArp localV4 (.inet4 target) _ _ hstates

/-- What can be told of a packet that is not sent: whether it throws, and the frames. -/
theorem outcome_cases (s : TunTapAdapter) (localV4 : InetAddress) {f : Fate} (hf : f ≠ .sends) :
    (f = .throws ∧ s.outcome localV4 f = .error .arrayIndexOutOfBounds s) ∨
      (f = .drops ∧ s.outcome localV4 f = .ok () s) ∨
      ∃ target request, f = .asks target ∧ rawAt request 24 = target ∧
        s.outcome localV4 f = .ok () (s.emit
          [⟨s.networkId, s.cachedLocalMac, broadcastMacAddress, arpPacket, 0, request⟩]) := by
  cases f with
  | throws => exact Or.inl ⟨rfl, rfl⟩
  | drops => exact Or.inr (Or.inl ⟨rfl, rfl⟩)
  | sends => exact absurd rfl hf
  | asks target =>
    obtain ⟨request, hrequest⟩ :=
      ARPTable.getRequestPacket_eq_ok s.cachedLocalMac localV4 (.inet4 target)
    refine Or.inr (Or.inr ⟨target, request, rfl, ?_, ?_⟩)
    · apply rawAt_of_slice
      rw [ARPTable.getARPPacket_target hrequest, Bytes.slice_all (by simp)]
    · simp [outcome, handleIPv4PacketArp, hrequest, send]

/-- Packets that are not sent and have the same effect have the same fate. -/
theorem outcome_injective {b' : Bytes} {localV4 : InetAddress} {f f' : Fate} (hf : f ≠ .sends)
    (hf' : f' ≠ .sends)
    (h : SameEffect (outcome { s with buffer := b } localV4 f)
      (outcome { s with buffer := b' } localV4 f')) : f = f' := by
  rcases outcome_cases { s with buffer := b } localV4 hf with
    ⟨hf, hout⟩ | ⟨hf, hout⟩ | ⟨target, request, hf, htarget, hout⟩ <;>
  rcases outcome_cases { s with buffer := b' } localV4 hf' with
    ⟨hf', hout'⟩ | ⟨hf', hout'⟩ | ⟨target', request', hf', htarget', hout'⟩ <;>
  rw [hout, hout'] at h
  · rw [hf, hf']
  · cases h
  · cases h
  · cases h
  · rw [hf, hf']
  · -- a frame more in the second run
    have hsent := h.states.1
    simp [emit] at hsent
  · cases h
  · have hsent := h.states.1
    simp [emit] at hsent
  · -- two requests, which differ in the target at most
    have hsent := h.states.1
    have hrequest : request = request' := by simpa [emit] using hsent
    rw [hf, hf', ← htarget, ← htarget', hrequest]

/-- A packet that is sent cannot be taken for one that is not. -/
theorem not_sameEffect_outcome {t : TunTapAdapter} {localV4 : InetAddress} {f : Fate}
    {frame : Frame} (hf : f ≠ .sends) (hsent : t.sent = s.sent ++ [frame])
    (hframe : frame.etherType = ipv4Packet) : ¬ SameEffect (.ok () t) (s.outcome localV4 f) := by
  intro h
  rcases outcome_cases s localV4 hf with ⟨-, hout⟩ | ⟨-, hout⟩ | ⟨target, request, -, -, hout⟩ <;>
  rw [hout] at h
  · cases h
  · have hsame := h.states.1
    simp [hsent] at hsame
  · have hsame := h.states.1
    rw [hsent, emit, List.append_cancel_left_eq, List.singleton_inj] at hsame
    rw [hsame] at hframe
    exact absurd hframe (show arpPacket ≠ ipv4Packet by decide)

/-- Runs with the same effect come from the same fate, and those that send from the same
address. -/
theorem fate_of_sameEffect {b' : Bytes} {localV4 : InetAddress} (hb : 20 ≤ b.length)
    (hb' : 20 ≤ b'.length) (hn : n < 20) (hpos : 0 < n)
    (hv : IPPacketUtils.getIPVersion b = .ok 4) (hv' : IPPacketUtils.getIPVersion b' = .ok 4)
    (h : SameEffect ((forwardIPv4 env localV4 b n).run { s with buffer := b })
      ((forwardIPv4 env localV4 b' n).run { s with buffer := b' })) :
    s.fate b = s.fate b' ∧ (s.fate b = .sends → rawAt b 16 = rawAt b' 16) := by
  rcases forwardIPv4_short (s := { s with buffer := b }) env localV4 hb hn hpos hv with
    ⟨hf, hrun⟩ | ⟨hf, t, frame, hrun, hraw, hsent, hframe⟩ <;>
  rcases forwardIPv4_short (s := { s with buffer := b' }) env localV4 hb' hn hpos hv' with
    ⟨hf', hrun'⟩ | ⟨hf', t', frame', hrun', hraw', hsent', hframe'⟩ <;>
  rw [hrun, hrun'] at h
  · exact ⟨outcome_injective hf hf' h, fun hsends => absurd hsends hf⟩
  · exact absurd h.symm (not_sameEffect_outcome hf hsent' hframe')
  · exact absurd h (not_sameEffect_outcome hf' hsent hframe)
  · have hf0 : s.fate b = .sends := hf
    have hf0' : s.fate b' = .sends := hf'
    exact ⟨hf0.trans hf0'.symm, fun _ => by rw [← hraw, ← hraw', h.states.2]⟩

end Short

/-- The lookup does not read behind the header. -/
theorem fate_take (s : TunTapAdapter) (b : Bytes) : s.fate (b.take 20) = s.fate b := by
  have hraw : ∀ i, i + 4 ≤ 20 → rawAt (b.take 20) i = rawAt b i := by
    intro i hi
    rw [rawAt, Bytes.slice_take hi, rawAt]
  rw [fate, fate, hopFor, hopFor, hraw 16 (by omega), hraw 12 (by omega),
    Bytes.getD_take (by omega)]

/-! ### All packets -/

section Packets

variable {s : TunTapAdapter} {env : Environment} {packet : Bytes}

theorem samePacket_of_take {b : Bytes} (hb : b.take packet.length = packet) :
    SamePacket packet.length b packet where
  take_eq := by rw [hb, List.take_length]
  le_length := by
    have := congrArg List.length hb
    rw [List.length_take] at this
    omega
  le_length' := le_rfl

theorem pos_of_getIPVersion {v : Byte} (hv : IPPacketUtils.getIPVersion packet = .ok v) :
    0 < packet.length := by
  by_contra hpos
  rw [IPPacketUtils.getIPVersion, Bytes.read_eq_error (by omega)] at hv
  cases hv

theorem getIPVersion_of_take {b : Bytes} {v : Byte} (hb : b.take packet.length = packet)
    (hv : IPPacketUtils.getIPVersion packet = .ok v) : IPPacketUtils.getIPVersion b = .ok v := by
  have hpos := pos_of_getIPVersion hv
  have hsame := samePacket_of_take hb
  rw [← hv]
  exact IPPacketUtils.getIPVersion_congr (hpos.trans_le hsame.le_length) hpos (hsame.getD hpos)

/-- A buffer completes the header of the packet in it. -/
theorem take_eq_append {b : Bytes} (hb : b.length = 1500) (hp : b.take packet.length = packet)
    (hn : packet.length < 20) :
    ∃ rest, packet.length + rest.length = 20 ∧ b.take 20 = packet ++ rest := by
  refine ⟨(b.take 20).drop packet.length, ?_, ?_⟩
  · simp [hb]
    omega
  · have htake : (b.take 20).take packet.length = packet := by
      rw [List.take_take, min_eq_left hn.le, hp]
    nth_rewrite 1 [← List.take_append_drop packet.length (b.take 20)]
    rw [htake]

/-- Every completion of the header may be in the buffer. -/
def bufferWith (packet rest : Bytes) : Bytes := packet ++ rest ++ Bytes.zeros 1480

section BufferWith

variable {rest : Bytes} (h : packet.length + rest.length = 20)

include h

theorem length_bufferWith : (bufferWith packet rest).length = 1500 := by
  simp [bufferWith]
  omega

theorem fate_bufferWith (s : TunTapAdapter) :
    s.fate (bufferWith packet rest) = s.fate (packet ++ rest) := by
  rw [← fate_take, bufferWith, List.take_append_of_le_length (by simp; omega),
    List.take_of_length_le (by simp; omega)]

end BufferWith

theorem take_bufferWith (packet rest : Bytes) :
    (bufferWith packet rest).take packet.length = packet := by
  rw [bufferWith, List.append_assoc, List.take_left]

theorem rawAt_append_singleton {q : Bytes} (hq : q.length = 19) {x y : Byte}
    (h : rawAt (q ++ [x] ++ Bytes.zeros 1480) 16 = rawAt (q ++ [y] ++ Bytes.zeros 1480) 16) :
    x = y := by
  have hslice : ∀ x : Byte, Bytes.slice (q ++ [x] ++ Bytes.zeros 1480) 16 4 = q.drop 16 ++ [x] := by
    intro x
    rw [Bytes.slice, List.append_assoc, List.drop_append_of_le_length (by omega),
      ← List.append_assoc, List.take_append_of_le_length (by simp; omega),
      List.take_of_length_le (by simp; omega)]
  have haddress := congrArg (fun raw => (InetAddress.inet4 raw).getAddress) h
  rw [getAddress_rawAt (by simp), getAddress_rawAt (by simp), hslice, hslice,
    List.append_cancel_left_eq, List.singleton_inj] at haddress
  exact haddress

section Short

variable {localV4 : InetAddress} (hn : packet.length < 20)
  (hv : IPPacketUtils.getIPVersion packet = .ok 4) (hlocal : s.localV4 env = some localV4)

include hn hv hlocal

theorem run_handleIPv4Packet_short {b : Bytes} (hb : b.length = 1500) :
    (handleIPv4Packet env b packet.length).run { s with buffer := b } =
      (forwardIPv4 env localV4 b packet.length).run { s.loaded env with buffer := b } := by
  have hpos := pos_of_getIPVersion hv
  rw [handleIPv4Packet_short env hn (by omega), hlocal]

/-- Two completions of the header have the same fate, and the same destination if they are
sent. -/
theorem fate_of_ignoresResidue (h : s.IgnoresResidue env packet) {rest rest' : Bytes}
    (hrest : packet.length + rest.length = 20) (hrest' : packet.length + rest'.length = 20) :
    (s.loaded env).fate (packet ++ rest) = (s.loaded env).fate (packet ++ rest') ∧
      ((s.loaded env).fate (packet ++ rest) = .sends →
        rawAt (bufferWith packet rest) 16 = rawAt (bufferWith packet rest') 16) := by
  have hpos := pos_of_getIPVersion hv
  have hlength := length_bufferWith hrest
  have hlength' := length_bufferWith hrest'
  have heffect := h _ _ hlength hlength' (take_bufferWith packet rest)
    (take_bufferWith packet rest')
  rw [run_handleIPv4Packet_short hn hv hlocal hlength,
    run_handleIPv4Packet_short hn hv hlocal hlength'] at heffect
  have hfate := fate_of_sameEffect (by omega) (by omega) hn hpos
    (getIPVersion_of_take (take_bufferWith packet rest) hv)
    (getIPVersion_of_take (take_bufferWith packet rest') hv) heffect
  rwa [fate_bufferWith hrest, fate_bufferWith hrest'] at hfate

theorem foreseen_of_ignoresResidue (h : s.IgnoresResidue env packet) :
    (s.loaded env).Foreseen packet := by
  -- two completions with different addresses
  have hlast : ∀ x : Byte,
      packet.length + (Bytes.zeros (19 - packet.length) ++ [x]).length = 20 := by
    intro x
    simp
    omega
  refine ⟨(s.loaded env).fate (packet ++ (Bytes.zeros (19 - packet.length) ++ [0])), ?_, ?_⟩
  · intro hsends
    have hraw := (fate_of_ignoresResidue hn hv hlocal h (hlast 0) (hlast 1)).2 hsends
    rw [bufferWith, bufferWith, ← List.append_assoc, ← List.append_assoc] at hraw
    exact absurd (rawAt_append_singleton (by simp; omega) hraw) (by decide)
  · intro rest hrest
    exact (fate_of_ignoresResidue hn hv hlocal h hrest (hlast 0)).1

theorem ignoresResidue_of_foreseen (h : (s.loaded env).Foreseen packet) :
    s.IgnoresResidue env packet := by
  obtain ⟨f, hf, hfate⟩ := h
  have hpos := pos_of_getIPVersion hv
  have hout : ∀ b : Bytes, b.length = 1500 → b.take packet.length = packet →
      (forwardIPv4 env localV4 b packet.length).run { s.loaded env with buffer := b } =
        outcome { s.loaded env with buffer := b } localV4 f := by
    intro b hb hp
    obtain ⟨rest, hrest, htake⟩ := take_eq_append hb hp hn
    have hfate' : fate { s.loaded env with buffer := b } b = f := by
      rw [← hfate rest hrest, ← htake, fate_take]
      rfl
    rcases forwardIPv4_short (s := { s.loaded env with buffer := b }) env localV4 (by omega) hn
      hpos (getIPVersion_of_take hp hv) with ⟨-, hrun⟩ | ⟨hsends, -⟩
    · rw [hrun, hfate']
    · exact absurd (hfate'.symm.trans hsends) hf
  intro b b' hb hb' hp hp'
  rw [run_handleIPv4Packet_short hn hv hlocal hb, run_handleIPv4Packet_short hn hv hlocal hb',
    hout b hb hp, hout b' hb' hp']
  exact sameEffect_outcome ..

/-- A short packet for which there is a local address. -/
theorem ignoresResidue_short_iff :
    s.IgnoresResidue env packet ↔ (s.loaded env).Foreseen packet :=
  ⟨foreseen_of_ignoresResidue hn hv hlocal, ignoresResidue_of_foreseen hn hv hlocal⟩

end Short

/-- What an earlier packet has left in the buffer has no influence if the packet holds its
header, or there is no address to send from, or one and the same thing becomes of the packet
whatever the rest of the header is, and in no other case. -/
theorem ignoresResidue_iff (hlen : packet.length ≤ 1500)
    (hv : IPPacketUtils.getIPVersion packet = .ok 4) :
    s.IgnoresResidue env packet ↔
      20 ≤ packet.length ∨ s.localV4 env = none ∨ (s.loaded env).Foreseen packet := by
  by_cases hn : packet.length < 20
  · cases hlocal : s.localV4 env with
    | none =>
      refine iff_of_true ?_ (Or.inr (Or.inl rfl))
      intro b b' hb hb' hp hp'
      have hl : packet.length ≤ b.length := by omega
      have hl' : packet.length ≤ b'.length := by omega
      rw [handleIPv4Packet_short env hn hl, handleIPv4Packet_short env hn hl', hlocal]
      exact .ok rfl ⟨b', rfl⟩
    | some localV4 =>
      rw [ignoresResidue_short_iff hn hv hlocal]
      simp
      omega
  · refine iff_of_true ?_ (Or.inl (by omega))
    intro b b' hb hb' hp hp'
    have hsame : SamePacket packet.length b b' := ⟨hp.trans hp'.symm, by omega, by omega⟩
    exact relates_handleIPv4Packet env hsame (by omega) _ _ ⟨b', rfl⟩

end Packets

/-- All of `10.0.0.0/8` is on the link, and no MAC is known. -/
def onLink : TunTapAdapter :=
  (start 1 none none).addRouteAndNetwork ⟨.inet4 0x0a000000, 8, none⟩ 1 default

/-- A header from `10.0.0.2` to `10.0.0.1`. -/
def header : Bytes :=
  [0x45, 0, 0, 20, 0, 0, 0, 0, 64, 17, 0, 0, 10, 0, 0, 2, 10, 0, 0, 1]

theorem ignoresResidue_header : onLink.IgnoresResidue homeNetwork header :=
  (ignoresResidue_iff (by decide) (by decide)).mpr (Or.inl (by decide))

/-- The first byte of a packet leads to an ARP request for whatever address is left over. -/
theorem not_ignoresResidue_firstByte : ¬ onLink.IgnoresResidue homeNetwork [0x45] := by
  have hlocal : onLink.localV4 homeNetwork = some (.inet4 0x0a000002) := by decide
  rw [ignoresResidue_short_iff (by decide) (by decide) hlocal]
  rintro ⟨f, -, hfate⟩
  have hone := hfate (Bytes.zeros 15 ++ [10, 0, 0, 1]) (by decide)
  have hnine := hfate (Bytes.zeros 15 ++ [10, 0, 0, 9]) (by decide)
  exact absurd (hone.trans hnine.symm) (by decide)

end TunTapAdapter

end XnetZt
