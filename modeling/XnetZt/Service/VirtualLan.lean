import XnetZt.Lib.AsyncNetwork
import XnetZt.Service.DestinationCache
import XnetZt.Service.MulticastPackets
import XnetZt.Service.NeighborSolicitation
import XnetZt.Service.VirtualNetworkFrame

/-!
# The adapters of one network together

Any number of phones are members of one virtual network. Each has an adapter: its receive
thread takes packets from the kernel, and its ZeroTier thread takes frames from the network.
The network delivers a frame to the other member whose MAC it names, or to any other member if
it names a group, at any time, any number of times, or never; tables expire in between.

If the kernels send from their own addresses only, every entry of every ARP and NDP table is
right, whatever the order of events. So a packet goes to the owner of its address and to no
one else, and what a kernel gets is what another one sent. And from every state that can be
reached one exchange resolves the address of a neighbour.
-/

namespace XnetZt

open NeighborTable (TableClass)
open TunTapAdapter (rawAt)

/-- The address is one of those assigned to this node. -/
def VirtualNetworkConfig.Assigns (config : VirtualNetworkConfig) (a : InetAddress) : Prop :=
  ∃ x ∈ config.assignedAddresses, x.address = a

/-- What the controller has handed out. Members have MACs of their own, which name no group,
and addresses of their own. -/
structure Lan (H : Type) where
  networkId : BitVec 64
  config : H → VirtualNetworkConfig
  routeMap : H → RouteMap
  routeOrder : H → IterationOrder Route
  mac_ne_zero : ∀ h, (config h).mac ≠ 0
  mac_lt : ∀ h, (config h).mac.toNat < 2 ^ 48
  mac_unicast : ∀ h, (config h).mac.getLsbD 40 = false
  mac_injective : Function.Injective fun h => (config h).mac
  owner_unique : ∀ g h a, (config g).Assigns a → (config h).Assigns a → g = h

namespace FrameReceiver

/-- The branches for IPv4 and IPv6 without the tables. Only a packet from a group gets past the
call of `setAddress`; that the table is null is caught as any other exception. -/
def handleIPWithoutTables (isMulticast : InetAddress → Bool) (env : Environment) (f : Frame)
    (s : FrameReceiver) : FrameReceiver :=
  match IPPacketUtils.getSourceIP f.frameData with
  | .error _ => s
  | .ok none => s.write env f
  | .ok (some sourceIP) =>
    if isMulticast sourceIP then
      { s with subscriptions := s.subscriptions ++ [multicastAddressToMAC sourceIP] }.write env f
    else s

/-- `onVirtualNetworkFrame` when the receive thread has ended and set the tables to null. -/
def afterWithoutTables (env : Environment) (f : Frame) (s : FrameReceiver) : FrameReceiver :=
  if f.etherType = arpPacket then s
  else if f.etherType = ipv4Packet then s.handleIPWithoutTables isIPv4Multicast env f
  else if f.etherType = ipv6Packet then s.handleIPWithoutTables isIPv6Multicast env f
  else s

end FrameReceiver

/-- A member: the adapter, whether its receive thread still runs, and what has been written to
its tunnel. The tables are those of the receive thread; when it has ended nothing uses them. -/
structure Member where
  adapter : TunTapAdapter
  listening : Bool
  written : List Bytes

namespace Member

/-- The kernel sends a packet. An exception ends the receive thread. -/
def send (env : Environment) (bytes : Bytes) (m : Member) : Member :=
  if m.listening then
    match (TunTapAdapter.receive env bytes).run m.adapter with
    | .ok _ adapter => { m with adapter := adapter }
    | .error _ adapter => { m with adapter := adapter, listening := false }
  else m

def tables (m : Member) : TableClass → NeighborTable
  | .arpTable => m.adapter.arpTable
  | .ndpTable => m.adapter.ndpTable

/-- The adapter as `onVirtualNetworkFrame` sees it. -/
def receiver (m : Member) : FrameReceiver where
  networkId := m.adapter.networkId
  vpnSocket := true
  hasIn := true
  hasOut := true
  tables := m.tables
  subscriptions := m.adapter.subscriptions
  written := m.written
  sent := m.adapter.sent

/-- The fields that `onVirtualNetworkFrame` may have changed. -/
def update (m : Member) (r : FrameReceiver) : Member :=
  { m with
    adapter := { m.adapter with
      arpTable := r.tables .arpTable
      ndpTable := r.tables .ndpTable
      subscriptions := r.subscriptions
      sent := r.sent }
    written := r.written }

/-- A frame arrives while the receive thread runs. -/
def receive (env : FrameReceiver.Environment) (f : Frame) (m : Member) : Member :=
  m.update (m.receiver.after env f)

def deliver (env : FrameReceiver.Environment) (f : Frame) (m : Member) : Member :=
  if m.listening then m.receive env f else m.update (m.receiver.afterWithoutTables env f)

/-- The timeout thread of one of the tables. -/
def sweep (c : TableClass) (now : ℕ) (order : IterationOrder NeighborEntry) (m : Member) :
    Member :=
  match c with
  | .arpTable =>
    { m with adapter := { m.adapter with
        arpTable := m.adapter.arpTable.sweep c.entryTimeout now order } }
  | .ndpTable =>
    { m with adapter := { m.adapter with
        ndpTable := m.adapter.ndpTable.sweep c.entryTimeout now order } }

end Member

namespace Lan

variable {H : Type} (lan : Lan H)

/-- What happens at one member. -/
inductive Event
  | packet (now : ℕ) (interfaces : List TetherInterface) (node : Frame → ResultCode)
      (bytes : Bytes)
  | sweep (c : TableClass) (now : ℕ) (order : IterationOrder NeighborEntry)

/-- When a frame arrives, and whether the tunnel can be written to. -/
structure Arrival where
  now : ℕ
  writable : Bool

def environment (h : H) (now : ℕ) (interfaces : List TetherInterface)
    (node : Frame → ResultCode) : Environment where
  now := now
  config := some (lan.config h)
  interfaces := interfaces
  node := node

def act (h : H) (e : Event) (m : Member) : Member :=
  match e with
  | .packet now interfaces node bytes => m.send (lan.environment h now interfaces node) bytes
  | .sweep c now order => m.sweep c now order

/-- The MAC of a group has the lowest bit of its first byte set. -/
def accepts (h : H) (f : Frame) : Bool :=
  f.networkId == lan.networkId && (f.destMac == (lan.config h).mac || f.destMac.getLsbD 40)

def protocol : Protocol H Event Arrival Member Frame where
  act := lan.act
  receive h arrival f m := m.deliver ⟨arrival.now, lan.config h, arrival.writable⟩ f
  outbox m := m.adapter.sent
  accepts := lan.accepts

/-- The tunnels have just been configured, and nothing is tethered. -/
def start (natEngine : H → Option NatEngine) : H → Member := fun h =>
  { adapter := { TunTapAdapter.start lan.networkId none (natEngine h) with
      routeMap := lan.routeMap h
      routeOrder := lan.routeOrder h }
    listening := true
    written := [] }

/-! ### Truth -/

/-- The address belongs to the member with this MAC. -/
def Binds (a : InetAddress) (mac : Mac) : Prop :=
  ∃ h, (lan.config h).Assigns a ∧ (lan.config h).mac = mac

/-- `h` reaches this address without a gateway. -/
def Direct (h : H) (a : InetAddress) : Prop :=
  ∃ route, routeForDestination (lan.routeOrder h) (lan.routeMap h) a = some route ∧
    route.gateway = none

/-- A packet of the kernel of `h` has one of the addresses of `h` as its source. -/
structure Honest (h : H) (bytes : Bytes) : Prop where
  length_le : bytes.length ≤ 1500
  header : IPv4.version bytes = 4 → 20 ≤ bytes.length
  source : ∀ a, IPPacketUtils.getSourceIP bytes = .ok (some a) → (lan.config h).Assigns a

/-- What a member had done at some time before. It has still sent and written this, and these
neighbours are in its tables. -/
structure Past where
  outbox : List Frame
  known : TableClass → InetAddress → Prop
  written : List Bytes

def Past.none : Past := ⟨[], fun _ _ => False, []⟩

/-- The kernels send honest packets, and only those that `sends` allows. A table that is to
remember its neighbours is not swept. -/
def Follows (sends : H → Bytes → Prop) (past : H → Past) (h : H) : Event → Prop
  | .packet _ _ _ bytes => sends h bytes ∧ lan.Honest h bytes
  | .sweep c _ _ => ∀ a, ¬ (past h).known c a

abbrev NetworkEvent (H : Type) := Protocol.Event H Event Arrival

/-- Every packet of a kernel is honest. -/
def HonestRun (events : List (NetworkEvent H)) : Prop :=
  ∀ h now interfaces node bytes, .act h (.packet now interfaces node bytes) ∈ events →
    lan.Honest h bytes

/-- The kernel of `h` has sent this packet. -/
def SentIn (events : List (NetworkEvent H)) (h : H) (bytes : Bytes) : Prop :=
  ∃ now interfaces node, .act h (.packet now interfaces node bytes) ∈ events

/-- The kernel of `h` sends IPv6 packets. -/
def Speaks (sends : H → Bytes → Prop) (h : H) : Prop :=
  ∃ bytes, sends h bytes ∧ IPv4.version bytes = 6

/-- The address belongs to the member with this MAC, whose kernel sends IPv6 packets: there is
no one else to learn it from, since adapters do not answer solicitations. -/
def Heard (sends : H → Bytes → Prop) (a : InetAddress) (mac : Mac) : Prop :=
  ∃ h, (lan.config h).Assigns a ∧ (lan.config h).mac = mac ∧ Speaks sends h

/-- What an entry of a table stands for. -/
def Learnt (sends : H → Bytes → Prop) : TableClass → InetAddress → Mac → Prop
  | .arpTable => lan.Binds
  | .ndpTable => lan.Heard sends

theorem Learnt.binds {sends : H → Bytes → Prop} {c : TableClass} {a : InetAddress} {mac : Mac}
    (h : lan.Learnt sends c a mac) : lan.Binds a mac := by
  cases c with
  | arpTable => exact h
  | ndpTable =>
    obtain ⟨owner, howns, hmac, -⟩ := h
    exact ⟨owner, howns, hmac⟩

/-- An ARP packet names its sender, and its target if it names one. -/
structure GenuineArp (g : H) (p : Bytes) : Prop where
  length : 28 ≤ p.length
  senderMac : ArpPacket.senderMac p = (lan.config g).mac
  senderAddress : (lan.config g).Assigns (ArpPacket.senderAddress p)
  target : ArpPacket.targetMac p ≠ 0 → lan.Binds (ArpPacket.targetAddress p) (ArpPacket.targetMac p)

/-- A packet of the kernel of `g`, sent to the owner of its address if that is reached without a
gateway. A solicitation by the kernel may go to a group instead. -/
inductive Packet (sends : H → Bytes → Prop) (g : H) (destMac : Mac) : ℕ → Bytes → Prop
  | ipv4 {bytes p : Bytes} (hsends : sends g bytes) (hhonest : lan.Honest g bytes)
      (hversion : IPv4.version bytes = 4) (hsame : NatEngine.SameButTtl bytes p)
      (hdest : bytes.getD 16 0 &&& 0xf0 ≠ 0xe0 → lan.Direct g (.inet4 (rawAt bytes 16)) →
        lan.Binds (.inet4 (rawAt bytes 16)) destMac) : Packet sends g destMac ipv4Packet p
  | ipv6 {bytes : Bytes} (hsends : sends g bytes) (hhonest : lan.Honest g bytes)
      (hversion : IPv4.version bytes = 6)
      (hdest : ∀ a, IPPacketUtils.getDestIP bytes = .ok (some a) → isIPv6Multicast a = false →
        TunTapAdapter.hasICMPv6Type (-121) bytes = false → lan.Direct g a →
        lan.Heard sends a destMac) :
      Packet sends g destMac ipv6Packet bytes

/-- A solicitation that the adapter of `g` has made up for a packet of its kernel. -/
structure Solicitation (sends : H → Bytes → Prop) (g : H) (p : Bytes) : Prop where
  speaks : Speaks sends g
  made : ∃ source dest, (lan.config g).Assigns source ∧
    NDPTable.getNeighborSolicitationPacket source dest (lan.config g).mac = .ok p

/-- What the member `g` sends. -/
inductive Genuine (sends : H → Bytes → Prop) (g : H) (f : Frame) : Prop
  | arp (hsrc : f.srcMac = (lan.config g).mac) (htype : f.etherType = arpPacket)
      (h : lan.GenuineArp g f.frameData)
  | packet (hsrc : f.srcMac = (lan.config g).mac)
      (h : lan.Packet sends g f.destMac f.etherType f.frameData)
  | solicitation (hsrc : f.srcMac = (lan.config g).mac) (htype : f.etherType = ipv6Packet)
      (h : lan.Solicitation sends g f.frameData)

/-- What every adapter of the network looks like. -/
structure Sound (sends : H → Bytes → Prop) (past : Past) (h : H) (s : TunTapAdapter) : Prop where
  networkId : s.networkId = lan.networkId
  length_buffer : s.buffer.length = 1500
  bridge : s.tetherL3Bridge = none
  routeMap : s.routeMap = lan.routeMap h
  routeOrder : s.routeOrder = lan.routeOrder h
  arp : ∀ a m, s.arpTable.inetAddressToMacAddress.lookup a = some m → lan.Binds a m
  ndp : ∀ a m, s.ndpTable.inetAddressToMacAddress.lookup a = some m → lan.Heard sends a m
  localMac : ¬ s.NeedsConfig → s.cachedLocalMac = (lan.config h).mac
  localV4 : ∀ a, s.cachedLocalV4 = some a → a.isInet4 = true ∧ (lan.config h).Assigns a
  isSome_localV4 : ¬ s.NeedsConfig → ∀ raw, (lan.config h).Assigns (.inet4 raw) →
    s.cachedLocalV4.isSome = true
  cached : s.cachedDestValid = true → lan.Direct h (.inet4 s.cachedDestIpRaw) →
    lan.Binds (.inet4 s.cachedDestIpRaw) s.cachedDestMac
  sent : ∀ f ∈ s.sent, lan.Genuine sends h f
  outbox : past.outbox <+: s.sent
  knownArp : ∀ a, past.known .arpTable a →
    (s.arpTable.inetAddressToMacAddress.lookup a).isSome = true
  knownNdp : ∀ a, past.known .ndpTable a →
    (s.ndpTable.inetAddressToMacAddress.lookup a).isSome = true

namespace Sound

variable {lan} {sends : H → Bytes → Prop} {past : Past} {h : H} {s : TunTapAdapter}

theorem emit (hs : lan.Sound sends past h s) {f : Frame} (hf : lan.Genuine sends h f) :
    lan.Sound sends past h (s.emit [f]) := by
  refine { hs with
    sent := fun f' hf' => ?_, outbox := hs.outbox.trans (List.prefix_append s.sent [f]) }
  rcases List.mem_append.mp hf' with hf' | hf'
  · exact hs.sent f' hf'
  · rw [List.mem_singleton.mp hf']
    exact hf

theorem subscribe (hs : lan.Sound sends past h s) (macs : List Mac) :
    lan.Sound sends past h { s with subscriptions := macs } :=
  { hs with }

theorem cacheConfig (hs : lan.Sound sends past h s) :
    lan.Sound sends past h (s.cacheConfig (lan.config h)) := by
  have hsome : ∀ raw, (lan.config h).Assigns (.inet4 raw) →
      (s.cacheConfig (lan.config h)).cachedLocalV4.isSome = true := by
    rintro raw ⟨x, hx, hraw⟩
    have hfind : ((lan.config h).assignedAddresses.find? (·.address.isInet4)).isSome = true :=
      List.find?_isSome.mpr ⟨x, hx, by rw [hraw]; rfl⟩
    simp [TunTapAdapter.cacheConfig, Option.isSome_or, hfind]
  refine { hs with localMac := fun _ => rfl, localV4 := ?_, isSome_localV4 := fun _ => hsome }
  intro a ha
  cases hfind : (lan.config h).assignedAddresses.find? (·.address.isInet4) with
  | none =>
    simp only [TunTapAdapter.cacheConfig, hfind, Option.map_none, Option.none_or] at ha
    exact hs.localV4 a ha
  | some x =>
    simp only [TunTapAdapter.cacheConfig, hfind, Option.map_some, Option.some_or,
      Option.some.injEq] at ha
    subst ha
    exact ⟨by simpa using List.find?_some hfind, x, List.mem_of_find?_eq_some hfind, rfl⟩

theorem load (hs : lan.Sound sends past h s) {env : Environment}
    (henv : env.config = some (lan.config h)) :
    lan.Sound sends past h (s.loaded env) := by
  unfold TunTapAdapter.loaded
  split_ifs
  · rw [henv]
    exact hs.cacheConfig
  · exact hs

end Sound

/-! ### Requests -/

section Requests

variable {lan} {g : H} {raw : BitVec 32}

theorem getRequestPacket_eq (mac : Mac) (raw : BitVec 32) (hop : InetAddress) :
    ARPTable.getRequestPacket mac (.inet4 raw) hop =
      .ok (ARPTable.packetOf 1 mac 0 raw (rawAt hop.getAddress 0)) := by
  have hfour := ARPTable.four_le_length_getAddress hop
  have haddress :=
    TunTapAdapter.getAddress_rawAt (show 0 + 4 ≤ hop.getAddress.length by omega)
  have hlen : (hop.getAddress.slice 0 4).length = 4 := Bytes.length_slice (by omega)
  have hfirst : hop.getAddress.slice 0 4 =
      (InetAddress.inet4 (rawAt hop.getAddress 0)).getAddress.slice 0 4 := by
    rw [haddress, Bytes.slice_all hlen]
  rw [ARPTable.getRequestPacket, ARPTable.getARPPacket_congr hfirst, ARPTable.getARPPacket_eq]

theorem genuineArp_packetOf (i : Byte) {mac : Mac} {a : BitVec 32} (hmac : mac.toNat < 2 ^ 48)
    (hraw : (lan.config g).Assigns (.inet4 raw)) (htarget : mac ≠ 0 → lan.Binds (.inet4 a) mac) :
    lan.GenuineArp g (ARPTable.packetOf i (lan.config g).mac mac raw a) where
  length := (ARPTable.length_packetOf ..).ge
  senderMac := ARPTable.senderMac_packetOf _ _ _ (lan.mac_lt g) _
  senderAddress := by
    rw [ARPTable.senderAddress_packetOf]
    exact hraw
  target := by
    rw [ARPTable.targetMac_packetOf _ _ _ _ hmac, ARPTable.targetAddress_packetOf]
    exact htarget

theorem genuine_request (sends : H → Bytes → Prop) (hraw : (lan.config g).Assigns (.inet4 raw))
    (networkId : BitVec 64) (a : BitVec 32) :
    lan.Genuine sends g ⟨networkId, (lan.config g).mac, broadcastMacAddress, arpPacket, 0,
      ARPTable.packetOf 1 (lan.config g).mac 0 raw a⟩ :=
  .arp rfl rfl (genuineArp_packetOf 1 (by decide) hraw fun h => absurd rfl h)

theorem genuine_packet {sends : H → Bytes → Prop} {mac : Mac} {etherType : ℕ} {p : Bytes}
    (hp : lan.Packet sends g mac etherType p) {networkId : BitVec 64} :
    lan.Genuine sends g ⟨networkId, (lan.config g).mac, mac, etherType, 0, p⟩ :=
  .packet rfl hp

end Requests

/-! ### Packets of the kernel -/

section IPv4

open TunTapAdapter AdapterM

variable {lan} {sends : H → Bytes → Prop} {past : Past} {h : H} {s : TunTapAdapter}
  {env : Environment} {buffer bytes : Bytes} {length : ℕ}

theorem loadConfig_run (henv : env.config = some (lan.config h)) (s : TunTapAdapter) :
    (loadConfig env).run s = .ok true (s.loaded env) := by
  unfold loadConfig loaded
  rw [Handler.run_get_bind]
  split_ifs
  · rw [henv]
    rfl
  · rfl

theorem not_needsConfig_loaded (henv : env.config = some (lan.config h)) (s : TunTapAdapter) :
    ¬ (s.loaded env).NeedsConfig := by
  unfold loaded
  split_ifs with hload
  · rw [henv]
    rintro (hnone | hid)
    · exact nomatch hnone
    · exact hid rfl
  · exact hload

/-- Connection tracking and the config leave a sound adapter, and a packet of the same
addresses. -/
theorem trackAndLoad_sound (hs : lan.Sound sends past h s)
    (henv : env.config = some (lan.config h)) (hlen : length ≤ buffer.length)
    (hbuf : buffer.length = 1500) :
    ∃ t buffer', (trackAndLoad env buffer length).run s =
        .ok (t.cachedLocalV4.map (·, buffer')) t ∧ lan.Sound sends past h t ∧ ¬ t.NeedsConfig ∧
      t.sent = s.sent ∧ t.arpTable = s.arpTable ∧ NatEngine.SameButTtl buffer buffer' := by
  obtain ⟨t, buffer', hnat, ht, hsent, harp, hsame⟩ : ∃ t buffer',
      (natOutbound env buffer length).run s = .ok buffer' t ∧ lan.Sound sends past h t ∧
        t.sent = s.sent ∧ t.arpTable = s.arpTable ∧ NatEngine.SameButTtl buffer buffer' := by
    rcases natOutbound_cases env s hlen with hrun | ⟨engine, buffer', hrun, hsame⟩
    · exact ⟨s, buffer, hrun, hs, rfl, rfl, Or.inl rfl⟩
    · exact ⟨_, buffer', hrun, { hs with length_buffer := hsame.length.trans hbuf }, rfl, rfl,
        hsame⟩
  obtain ⟨hsent', harp'⟩ : (t.loaded env).sent = t.sent ∧ (t.loaded env).arpTable = t.arpTable := by
    rw [loaded, henv]
    split_ifs <;> exact ⟨rfl, rfl⟩
  refine ⟨t.loaded env, buffer', ?_, ht.load henv, not_needsConfig_loaded henv t,
    hsent'.trans hsent, harp'.trans harp, hsame⟩
  rw [trackAndLoad, Handler.run_bind_ok hnat, Handler.run_bind_ok (loadConfig_run henv t)]
  rfl

theorem hopTo_of_direct (hs : lan.Sound sends past h s) {dest source hop : InetAddress}
    (hhop : s.hopTo dest source = some hop) (hdirect : lan.Direct h dest) : hop = dest := by
  obtain ⟨route, hroute, hgateway⟩ := hdirect
  rw [hopTo, hs.routeOrder, hs.routeMap, hroute, Option.map_some, hgateway] at hhop
  exact (Option.some.inj hhop).symm

theorem Sound.getMacForAddress (hs : lan.Sound sends past h s) (now : ℕ) (a : InetAddress) :
    lan.Sound sends past h { s with arpTable := (s.arpTable.getMacForAddress now a).2 } := by
  refine { hs with arp := ?_, knownArp := ?_ }
  · intro a' m hm
    rw [(keepsLookup_getMacForAddress s now a).arp] at hm
    exact hs.arp a' m hm
  · intro a' ha
    rw [(keepsLookup_getMacForAddress s now a).arp]
    exact hs.knownArp a' ha

theorem sendIPv4_sound (hs : lan.Sound sends past h s) {packetData : Bytes}
    (hpacket : ∀ mac, lan.Packet sends h mac ipv4Packet packetData) (localV4 hop : InetAddress) :
    lan.Sound sends past h
      (Handler.after (sendIPv4 env (lan.config h).mac localV4 true packetData hop) s) := by
  unfold sendIPv4 sendIPv4Until
  rw [atOnce_bind, Handler.after, Handler.run_get_bind, Bool.true_or, if_pos rfl]
  split_ifs
  · exact hs.emit (genuine_packet (hpacket _))
  · exact (hs.getMacForAddress env.now hop).emit (genuine_packet (hpacket _))

/-- A packet to a group goes to the MAC of the group, or to a gateway. -/
theorem handleIPv4PacketData_sound (hs : lan.Sound sends past h s)
    (henv : env.config = some (lan.config h)) {packetData : Bytes} {destIP sourceIP : InetAddress}
    (hdest : IPPacketUtils.getDestIP packetData = .ok (some destIP))
    (hsource : IPPacketUtils.getSourceIP packetData = .ok (some sourceIP))
    (hgroup : isIPv4Multicast destIP = true)
    (hpacket : ∀ mac, lan.Packet sends h mac ipv4Packet packetData) :
    lan.Sound sends past h (Handler.after (handleIPv4PacketData env packetData) s) := by
  obtain ⟨macs, hsub⟩ := subscribeTo_run s (isIPv4Multicast destIP) destIP
  unfold handleIPv4PacketData handleIPv4PacketDataUntil
  rw [hdest, hsource, atOnce_bind, Handler.after_bind_ok (run_call_ok (some destIP) s),
    atOnce_bind, Handler.after_bind_ok (run_call_ok (some sourceIP) s), henv]
  dsimp only
  rw [atOnce_bind, Handler.after_bind_ok hsub, hgroup, atOnce_bind, Handler.after_get_bind]
  cases (lan.config h).assignedAddresses.find? (·.address.isInet4) with
  | none => exact hs.subscribe macs
  | some localV4 => exact sendIPv4_sound (hs.subscribe macs) hpacket localV4.address _

/-- What is known about the packet in the buffer when the lookup begins. -/
structure Buffered (lan : Lan H) (sends : H → Bytes → Prop) (h : H) (bytes buffer : Bytes) :
    Prop where
  sends : sends h bytes
  honest : lan.Honest h bytes
  version : IPv4.version bytes = 4
  length_buffer : buffer.length = 1500
  same : NatEngine.SameButTtl bytes (buffer.copyOf bytes.length)

theorem Buffered.rawAt (hb : Buffered lan sends h bytes buffer) {i : ℕ} (h12 : 12 ≤ i)
    (hi : i + 4 ≤ bytes.length) : rawAt buffer i = rawAt bytes i := by
  have hle := hb.honest.length_le
  have hlen := hb.length_buffer
  rw [← rawAt_sameButTtl hb.same h12, TunTapAdapter.rawAt, TunTapAdapter.rawAt,
    Bytes.copyOf_eq_take (by omega), Bytes.slice_take hi]

theorem Buffered.getD (hb : Buffered lan sends h bytes buffer) :
    buffer.getD 16 0 = bytes.getD 16 0 := by
  have hle := hb.honest.length_le
  have h20 := hb.honest.header hb.version
  have hlen := hb.length_buffer
  rw [← hb.same.getD (show 12 ≤ 16 by omega), Bytes.getD_copyOf (by omega) (by omega)]

theorem Buffered.packet (hb : Buffered lan sends h bytes buffer) {mac : Mac}
    (hdest : bytes.getD 16 0 &&& 0xf0 ≠ 0xe0 →
      lan.Direct h (.inet4 (TunTapAdapter.rawAt bytes 16)) →
      lan.Binds (.inet4 (TunTapAdapter.rawAt bytes 16)) mac) :
    lan.Packet sends h mac ipv4Packet (buffer.copyOf bytes.length) :=
  .ipv4 hb.sends hb.honest hb.version hb.same hdest

theorem Buffered.getIPVersion (hb : Buffered lan sends h bytes buffer) :
    IPPacketUtils.getIPVersion (buffer.copyOf bytes.length) = .ok 4 := by
  have h20 := hb.honest.header hb.version
  rw [← getIPVersion_eq_four (show 0 < bytes.length by omega) hb.version]
  exact IPPacketUtils.getIPVersion_congr (by simp; omega) (by omega) hb.same.head

/-- What `h` sends for the packet `bytes` once it has the MAC of the hop. -/
def dataFrame (lan : Lan H) (h : H) (mac : Mac) (p : Bytes) : Frame :=
  ⟨lan.networkId, (lan.config h).mac, mac, ipv4Packet, 0, p⟩

/-- What `h` sends to find out the MAC of `dest`. -/
def requestFrame (lan : Lan H) (h : H) (source dest : BitVec 32) : Frame :=
  ⟨lan.networkId, (lan.config h).mac, broadcastMacAddress, arpPacket, 0,
    ARPTable.packetOf 1 (lan.config h).mac 0 source dest⟩

/-- The packet goes to the owner of its address, or its address is asked for. -/
inductive Forwards (lan : Lan H) (h : H) (bytes : Bytes) (s t : TunTapAdapter) : Prop
  | data (mac : Mac) (p : Bytes) (hsame : NatEngine.SameButTtl bytes p)
      (hbinds : lan.Binds (.inet4 (rawAt bytes 16)) mac)
      (hsent : t.sent = s.sent ++ [dataFrame lan h mac p])
  | request (source : BitVec 32)
      (hmac : s.arpTable.inetAddressToMacAddress.lookup (.inet4 (rawAt bytes 16)) = none)
      (hsource : (lan.config h).Assigns (.inet4 source))
      (hsent : t.sent = s.sent ++ [requestFrame lan h source (rawAt bytes 16)])

/-- Once the hop is chosen, its MAC is in the table or is asked for. -/
theorem resolveAndSend_unicast (hs : lan.Sound sends past h s) (hconfig : ¬ s.NeedsConfig)
    (hb : Buffered lan sends h bytes buffer) {localV4 : InetAddress}
    (hlocal : s.cachedLocalV4 = some localV4) {hop : InetAddress}
    (hhop : lan.Direct h (.inet4 (rawAt bytes 16)) → hop = .inet4 (rawAt bytes 16)) :
    ∃ t, (resolveAndSend env localV4 buffer bytes.length (rawAt bytes 16) hop).run s = .ok () t ∧
      lan.Sound sends past h t ∧
      (lan.Direct h (.inet4 (rawAt bytes 16)) → Forwards lan h bytes s t) := by
  have hmac := hs.localMac hconfig
  have hid := hs.networkId
  obtain ⟨hinet4, hassigns⟩ := hs.localV4 localV4 hlocal
  cases hlookup : s.arpTable.inetAddressToMacAddress.lookup hop with
  | none =>
    obtain ⟨raw, rfl⟩ : ∃ raw, localV4 = .inet4 raw := by
      cases localV4 with
      | inet4 raw => exact ⟨raw, rfl⟩
      | inet6 raw hraw => cases hinet4
    obtain ⟨request, hrequest, hrun⟩ :=
      resolveAndSend_unknown hlookup (.inet4 raw) (TunTapAdapter.rawAt bytes 16)
    rw [getRequestPacket_eq] at hrequest
    rw [hrun, ← Except.ok.inj hrequest, hmac, hid]
    refine ⟨_, rfl, hs.emit (genuine_request sends hassigns _ _), fun hdirect => ?_⟩
    rw [hhop hdirect] at hlookup ⊢
    exact .request raw hlookup hassigns (by
      rw [rawAt_of_slice (Bytes.slice_all (by simp))]
      rfl)
  | some mac =>
    rw [resolveAndSend_known hlookup]
    have hbinds : lan.Direct h (.inet4 (TunTapAdapter.rawAt bytes 16)) →
        lan.Binds (.inet4 (TunTapAdapter.rawAt bytes 16)) mac := by
      intro hdirect
      rw [← hhop hdirect]
      exact hs.arp hop mac hlookup
    have hcached : lan.Sound sends past h { s with
        arpTable := (s.arpTable.getMacForAddress env.now hop).2
        cachedDestIpRaw := TunTapAdapter.rawAt bytes 16
        cachedDestMac := mac
        cachedDestValid := true } :=
      { hs.getMacForAddress env.now hop with cached := fun _ => hbinds }
    refine ⟨_, rfl, hcached.emit ?_, fun hdirect => .data mac _ hb.same (hbinds hdirect) ?_⟩
    · rw [hmac]
      exact genuine_packet (hb.packet fun _ => hbinds)
    · rw [dataFrame, ← hmac, ← hid]
      rfl

theorem forwardIPv4_unicast (hs : lan.Sound sends past h s) (hconfig : ¬ s.NeedsConfig)
    (hb : Buffered lan sends h bytes buffer) {localV4 : InetAddress}
    (hlocal : s.cachedLocalV4 = some localV4) (hunicast : bytes.getD 16 0 &&& 0xf0 ≠ 0xe0) :
    ∃ t, (forwardIPv4 env localV4 buffer bytes.length).run s = .ok () t ∧
      lan.Sound sends past h t ∧
      (lan.Direct h (.inet4 (rawAt bytes 16)) → Forwards lan h bytes s t) := by
  have hlen := hb.length_buffer
  have h20 := hb.honest.header hb.version
  have hraw : TunTapAdapter.rawAt buffer 16 = TunTapAdapter.rawAt bytes 16 :=
    hb.rawAt (by omega) (by omega)
  rw [forwardIPv4_run s (by omega), hb.getD, hraw, if_neg hunicast]
  split_ifs with hhit
  · have hbinds : lan.Direct h (.inet4 (TunTapAdapter.rawAt bytes 16)) →
        lan.Binds (.inet4 (TunTapAdapter.rawAt bytes 16)) s.cachedDestMac := by
      intro hdirect
      rw [hhit.2] at hdirect ⊢
      exact hs.cached hhit.1 hdirect
    have hpacket := hb.packet fun _ => hbinds
    rw [sendCached_run, hs.localMac hconfig, hs.networkId]
    exact ⟨_, rfl, { hs.emit (genuine_packet hpacket) with },
      fun hdirect => .data _ _ hb.same (hbinds hdirect) rfl⟩
  · cases hhop : s.hopFor buffer with
    | none =>
      refine ⟨s, rfl, hs, fun hdirect => ?_⟩
      obtain ⟨route, hroute, -⟩ := hdirect
      rw [hopFor, hopTo, hs.routeOrder, hs.routeMap, hraw, hroute] at hhop
      cases hhop
    | some hop =>
      refine resolveAndSend_unicast hs hconfig hb hlocal ?_
      rw [hopFor, hraw] at hhop
      exact hopTo_of_direct hs hhop

theorem forwardIPv4_sound (hs : lan.Sound sends past h s) (hconfig : ¬ s.NeedsConfig)
    (henv : env.config = some (lan.config h)) (hb : Buffered lan sends h bytes buffer)
    {localV4 : InetAddress} (hlocal : s.cachedLocalV4 = some localV4) :
    lan.Sound sends past h (Handler.after (forwardIPv4 env localV4 buffer bytes.length) s) := by
  have hlen := hb.length_buffer
  have h20 := hb.honest.header hb.version
  by_cases hmulti : bytes.getD 16 0 &&& 0xf0 = 0xe0
  · have hv := hb.getIPVersion
    rw [Handler.after, forwardIPv4_run s (by omega), hb.getD, if_pos hmulti]
    refine handleIPv4PacketData_sound hs henv (IPPacketUtils.addressAt_four hv (by simp; omega))
      (IPPacketUtils.addressAt_four hv (by simp; omega)) ?_
      fun mac => hb.packet fun hne => absurd hmulti hne
    have hgroup : (buffer.copyOf bytes.length).getD 16 0 &&& 0xf0 = 0xe0 := by
      rw [hb.same.getD (by omega), hmulti]
    exact (isIPv4Multicast_rawAt (by simpa using h20)).mpr hgroup
  · obtain ⟨t, hrun, ht, -⟩ := forwardIPv4_unicast hs hconfig hb hlocal hmulti
    rw [Handler.after_ok hrun]
    exact ht

/-- An honest packet gets to the lookup if the config has an IPv4 address. -/
theorem handleIPv4Packet_run (hs : lan.Sound sends past h s)
    (henv : env.config = some (lan.config h)) (hsends : sends h bytes)
    (hhonest : lan.Honest h bytes) (hversion : IPv4.version bytes = 4)
    (hlen : buffer.length = 1500) (hcopy : buffer.copyOf bytes.length = bytes) :
    ∃ t buffer', lan.Sound sends past h t ∧ ¬ t.NeedsConfig ∧ Buffered lan sends h bytes buffer' ∧
      t.sent = s.sent ∧ t.arpTable = s.arpTable ∧
      (handleIPv4Packet env buffer bytes.length).run s =
        match t.cachedLocalV4 with
        | none => .ok () t
        | some localV4 => (forwardIPv4 env localV4 buffer' bytes.length).run t := by
  have hle := hhonest.length_le
  have hleft : ¬ s.Bridged buffer bytes.length := by
    rintro ⟨bridge, hbridge, -⟩
    exact nomatch hs.bridge.symm.trans hbridge
  obtain ⟨t, buffer', hrun, ht, hconfig, hsent, harp, hsame⟩ :=
    trackAndLoad_sound hs henv (show bytes.length ≤ buffer.length by omega) hlen
  have hprepare := (prepareIPv4_of_not_bridged env (by omega) hleft).trans hrun
  have hsame' := sameButTtl_copyOf hsame (show bytes.length ≤ buffer.length by omega)
  rw [hcopy] at hsame'
  refine ⟨t, buffer', ht, hconfig, ⟨hsends, hhonest, hversion, hsame.length.trans hlen, hsame'⟩,
    hsent, harp, ?_⟩
  rw [handleIPv4Packet_eq, Handler.run_bind_ok hprepare]
  cases t.cachedLocalV4 <;> rfl

theorem handleIPv4Packet_sound (hs : lan.Sound sends past h s)
    (henv : env.config = some (lan.config h)) (hsends : sends h bytes)
    (hhonest : lan.Honest h bytes) (hversion : IPv4.version bytes = 4)
    (hlen : buffer.length = 1500) (hcopy : buffer.copyOf bytes.length = bytes) :
    lan.Sound sends past h (Handler.after (handleIPv4Packet env buffer bytes.length) s) := by
  obtain ⟨t, buffer', ht, hconfig, hb, -, -, hrun⟩ :=
    handleIPv4Packet_run hs henv hsends hhonest hversion hlen hcopy
  rw [Handler.after, hrun]
  cases hlocal : t.cachedLocalV4 with
  | none => exact ht
  | some localV4 => exact forwardIPv4_sound ht hconfig henv hb hlocal

end IPv4

section IPv6

open TunTapAdapter AdapterM

variable {lan} {sends : H → Bytes → Prop} {past : Past} {h : H} {s : TunTapAdapter}
  {env : Environment} {bytes : Bytes} {hop : InetAddress}

/-- The MAC for a packet that is neither a solicitation nor for a group is that of the hop. -/
theorem destMacIPv6_sound (hs : lan.Sound sends past h s) (h7 : 7 ≤ bytes.length)
    (hicmp : bytes.getD 6 0 = 58 → 41 ≤ bytes.length) (env : Environment) (hop : InetAddress) :
    ∃ mac needed t, (destMacIPv6 env bytes hop).run s = .ok (mac, needed) t ∧
      lan.Sound sends past h t ∧ (hasICMPv6Type (-121) bytes = false → isIPv6Multicast hop = false →
        mac ≠ 0 → lan.Heard sends hop mac) := by
  have hmap : (s.ndpTable.getMacForAddress env.now hop).2.inetAddressToMacAddress =
      s.ndpTable.inetAddressToMacAddress := by
    rcases s.ndpTable.getMacForAddress_eq env.now hop with hsame | ⟨m', -, hsame⟩
    · rw [hsame]
    · rw [hsame, (NeighborTable.updateTime_maps ..).2.1]
  have hget : lan.Sound sends past h
      { s with ndpTable := (s.ndpTable.getMacForAddress env.now hop).2 } :=
    { hs with ndp := hmap ▸ hs.ndp, knownNdp := hmap ▸ hs.knownNdp }
  unfold destMacIPv6 destMacIPv6Until isNeighborSolicitation isNeighborAdvertisement
  rw [isICMPv6_eq_ok _ h7 hicmp, isICMPv6_eq_ok _ h7 hicmp, bind_assoc, Handler.run_get_bind,
    bind_assoc, run_call_bind, NeighborTable.hasMacForAddress]
  cases hmac : s.ndpTable.inetAddressToMacAddress.lookup hop with
  | none =>
    cases hasICMPv6Type (-121) bytes <;> cases isIPv6Multicast hop <;>
      cases hasICMPv6Type (-120) bytes <;> exact ⟨_, _, s, rfl, hs, by simp⟩
  | some mac =>
    have hbinds : lan.Heard sends hop (s.ndpTable.getMacForAddress env.now hop).1 := by
      rw [fst_getMacForAddress, hmac]
      exact hs.ndp hop mac hmac
    -- for a group the table is not asked
    cases hasICMPv6Type (-121) bytes <;> cases isIPv6Multicast hop <;>
      cases hasICMPv6Type (-120) bytes <;>
      first
      | exact ⟨_, _, _, rfl, hget, fun _ _ _ => hbinds⟩
      | exact ⟨_, _, s, rfl, hs, by simp⟩

theorem solicit_sound (hs : lan.Sound sends past h s) (hspeaks : Speaks sends h)
    {sourceIP : InetAddress}
    (hsource : (lan.config h).Assigns sourceIP) (destMac : Mac) :
    lan.Sound sends past h
      (Handler.after (solicit (lan.config h).mac destMac sourceIP hop) s) := by
  unfold solicit
  cases hp : NDPTable.getNeighborSolicitationPacket sourceIP hop (lan.config h).mac with
  | error e => exact hs
  | ok p => exact hs.emit (.solicitation rfl rfl ⟨hspeaks, sourceIP, hop, hsource, hp⟩)

theorem sendIPv6_sound (hs : lan.Sound sends past h s) (hspeaks : Speaks sends h)
    (h7 : 7 ≤ bytes.length)
    {sourceIP : InetAddress} (hsource : (lan.config h).Assigns sourceIP)
    (hpacket : ∀ mac, (hasICMPv6Type (-121) bytes = false → isIPv6Multicast hop = false →
      lan.Heard sends hop mac) → lan.Packet sends h mac ipv6Packet bytes) :
    lan.Sound sends past h
      (Handler.after (sendIPv6 env (lan.config h).mac bytes sourceIP hop) s) := by
  rw [sendIPv6_eq]
  by_cases hicmp : bytes.getD 6 0 = 58 → 41 ≤ bytes.length
  · obtain ⟨mac, needed, t, hrun, ht, hbinds⟩ := destMacIPv6_sound hs h7 hicmp env hop
    obtain ⟨u, hsend, hu⟩ : ∃ u, (sendKnown (lan.config h).mac mac bytes).run t = .ok () u ∧
        lan.Sound sends past h u := by
      unfold sendKnown
      split_ifs with hzero
      · exact ⟨t, rfl, ht⟩
      · exact ⟨_, rfl, ht.emit (genuine_packet (hpacket mac fun h1 h2 => hbinds h1 h2 hzero))⟩
    rw [Handler.after_bind_ok hrun, sendMacIPv6, Handler.after_bind_ok hsend]
    cases needed with
    | false => exact hu
    | true => exact solicit_sound hu hspeaks hsource mac
  · obtain ⟨h58, hshort⟩ := Classical.not_imp.mp hicmp
    unfold destMacIPv6 destMacIPv6Until isNeighborSolicitation
    rw [isICMPv6_eq_error _ h7 h58 (by omega)]
    exact hs

theorem handleIPv6Packet_sound (hs : lan.Sound sends past h s)
    (henv : env.config = some (lan.config h)) (hsends : sends h bytes)
    (hhonest : lan.Honest h bytes) (hversion : IPv4.version bytes = 6) (hpos : 0 < bytes.length) :
    lan.Sound sends past h (Handler.after (handleIPv6Packet env bytes) s) := by
  have hv := getIPVersion_eq_six hpos hversion
  by_cases h40 : bytes.length < 40
  · unfold handleIPv6Packet handleIPv6PacketUntil
    rw [IPPacketUtils.getDestIP, IPPacketUtils.addressAt_six_short hv (by omega)]
    exact hs
  obtain ⟨destIP, hdest⟩ := Option.isSome_iff_exists.mp (InetAddress.getByAddress_sixteen_isSome
    (Bytes.length_slice (show 24 + 16 ≤ bytes.length by omega)))
  obtain ⟨sourceIP, hsource⟩ := Option.isSome_iff_exists.mp
    (InetAddress.getByAddress_sixteen_isSome
      (Bytes.length_slice (show 8 + 16 ≤ bytes.length by omega)))
  have hdest' : IPPacketUtils.getDestIP bytes = .ok (some destIP) := by
    rw [IPPacketUtils.getDestIP, IPPacketUtils.addressAt_six hv (by omega), hdest]
  have hsource' : IPPacketUtils.getSourceIP bytes = .ok (some sourceIP) := by
    rw [IPPacketUtils.getSourceIP, IPPacketUtils.addressAt_six hv (by omega), hsource]
  cases hv6 : (lan.config h).assignedAddresses.find? (·.address.isInet6) with
  | none =>
    obtain ⟨macs, hsub⟩ := subscribeTo_run s (isIPv6Multicast destIP) destIP
    unfold handleIPv6Packet handleIPv6PacketUntil
    rw [hdest', hsource', henv, atOnce_bind, Handler.after_bind_ok (run_call_ok (some destIP) s),
      atOnce_bind, Handler.after_bind_ok (run_call_ok (some sourceIP) s)]
    dsimp only
    rw [atOnce_bind, Handler.after_bind_ok hsub, hv6]
    exact hs.subscribe macs
  | some v6 =>
    obtain ⟨macs, hrun⟩ := handleIPv6Packet_run s henv hdest' hsource' hv6
    rw [Handler.after, hrun]
    refine sendIPv6_sound (hs.subscribe macs) ⟨bytes, hsends, hversion⟩ (by omega)
      (hhonest.source _ hsource') ?_
    intro mac hbinds
    refine .ipv6 hsends hhonest hversion fun a ha hgroup hsol hdirect => ?_
    obtain rfl : destIP = a := Option.some.inj (Except.ok.inj (hdest'.symm.trans ha))
    obtain ⟨route, hroute, hgateway⟩ := hdirect
    have hhop : s.hopWithCidr v6.port destIP sourceIP = destIP := by
      rw [hopWithCidr, hs.routeOrder, hs.routeMap, hroute, Option.bind_some, hgateway]
      rfl
    rw [hhop] at hbinds
    exact hbinds hsol hgroup

end IPv6

/-- A packet of the kernel. -/
theorem receive_sound {lan : Lan H} {sends : H → Bytes → Prop} {past : Past} {h : H}
    {s : TunTapAdapter} {env : Environment} {bytes : Bytes} (hs : lan.Sound sends past h s)
    (henv : env.config = some (lan.config h)) (hsends : sends h bytes)
    (hhonest : lan.Honest h bytes) :
    lan.Sound sends past h (Handler.after (TunTapAdapter.receive env bytes) s) := by
  have hle := hhonest.length_le
  rcases Nat.eq_zero_or_pos bytes.length with hzero | hpos
  · unfold TunTapAdapter.receive
    rw [if_pos hzero]
    exact hs
  have hlen : (s.buffer.splice 0 bytes).length = 1500 := by
    rw [Bytes.length_splice (by rw [hs.length_buffer]; omega), hs.length_buffer]
  have hs' : lan.Sound sends past h { s with buffer := s.buffer.splice 0 bytes } :=
    { hs with length_buffer := hlen }
  rw [Handler.after, TunTapAdapter.receive_run env hs.length_buffer hpos hle]
  split_ifs with h4 h6
  · exact handleIPv4Packet_sound hs' henv hsends hhonest h4 hlen
      (TunTapAdapter.copyOf_splice (by rw [hs.length_buffer]; exact hle))
  · exact handleIPv6Packet_sound hs' henv hsends hhonest h6 hpos
  · exact hs'

/-! ### Frames of the network -/

/-- What the kernel of `h` may get from the tunnel: a packet of another kernel, or a solicitation
of another adapter. A packet for one address that its sender reaches without a gateway is for an
address of `h`, unless it is a solicitation, which goes to a group. And then, if it is an IPv6
packet, the kernel of `h` has sent IPv6 packets too. -/
inductive Delivered (sends : H → Bytes → Prop) (h : H) (p : Bytes) : Prop
  | ipv4 (g : H) (hother : g ≠ h) {bytes : Bytes} (hsends : sends g bytes)
      (hversion : IPv4.version bytes = 4)
      (hsame : NatEngine.SameButTtl bytes p)
      (hdest : bytes.getD 16 0 &&& 0xf0 ≠ 0xe0 → lan.Direct g (.inet4 (rawAt bytes 16)) →
        (lan.config h).Assigns (.inet4 (rawAt bytes 16)))
  | ipv6 (g : H) (hother : g ≠ h) (hsends : sends g p)
      (hdest : ∀ a, IPPacketUtils.getDestIP p = .ok (some a) → isIPv6Multicast a = false →
        TunTapAdapter.hasICMPv6Type (-121) p = false → lan.Direct g a →
        (lan.config h).Assigns a ∧ Speaks sends h)
  | solicitation (g : H) (hother : g ≠ h) (hp : lan.Solicitation sends g p)

structure SoundMember (sends : H → Bytes → Prop) (past : Past) (h : H) (m : Member) : Prop where
  adapter : lan.Sound sends past h m.adapter
  written : ∀ p ∈ m.written, lan.Delivered sends h p
  stays : past.written <+: m.written

section Deliver

variable {lan} {sends : H → Bytes → Prop} {g h : H} {f : Frame} {p : Bytes}

theorem eq_of_accepts (hf : lan.accepts h f = true) {owner : H}
    (hmac : (lan.config owner).mac = f.destMac) : owner = h := by
  simp only [accepts, Bool.and_eq_true, Bool.or_eq_true, beq_iff_eq] at hf
  rcases hf.2 with hself | hgroup
  · exact lan.mac_injective (hmac.trans hself)
  · rw [← hmac, lan.mac_unicast] at hgroup
    exact nomatch hgroup

theorem assigns_of_accepts (hf : lan.accepts h f = true) {a : InetAddress}
    (hbinds : lan.Binds a f.destMac) : (lan.config h).Assigns a := by
  obtain ⟨owner, howns, hmac⟩ := hbinds
  obtain rfl := eq_of_accepts hf hmac
  exact howns

theorem speaks_of_accepts (hf : lan.accepts h f = true) {a : InetAddress}
    (hheard : lan.Heard sends a f.destMac) : (lan.config h).Assigns a ∧ Speaks sends h := by
  obtain ⟨owner, howns, hmac, hspeaks⟩ := hheard
  obtain rfl := eq_of_accepts hf hmac
  exact ⟨howns, hspeaks⟩

theorem Packet.delivered (hother : g ≠ h) (hf : lan.accepts h f = true)
    (hp : lan.Packet sends g f.destMac f.etherType f.frameData) :
    lan.Delivered sends h f.frameData := by
  generalize hmac : f.destMac = mac at hp
  generalize f.etherType = etherType at hp
  generalize f.frameData = p at hp
  subst hmac
  cases hp with
  | ipv4 hsends _ hversion hsame hdest =>
    exact .ipv4 g hother hsends hversion hsame fun hgroup hdirect =>
      assigns_of_accepts hf (hdest hgroup hdirect)
  | ipv6 hsends _ _ hdest =>
    exact .ipv6 g hother hsends fun a ha hgroup hsol hdirect =>
      speaks_of_accepts hf (hdest a ha hgroup hsol hdirect)

/-- The source of a packet on the network is an address of its sender. -/
theorem Packet.source {mac : Mac} {etherType : ℕ} (hp : lan.Packet sends g mac etherType p)
    {a : InetAddress} (ha : IPPacketUtils.getSourceIP p = .ok (some a)) :
    (lan.config g).Assigns a := by
  cases hp with
  | ipv6 _ hhonest _ _ => exact hhonest.source a ha
  | @ipv4 bytes _ _ hhonest hversion hsame _ =>
    have h20 := hhonest.header hversion
    have hlen := hsame.length
    have hv := TunTapAdapter.getIPVersion_eq_four (show 0 < bytes.length by omega) hversion
    have hv' : IPPacketUtils.getIPVersion p = .ok 4 := by
      rw [← hv]
      exact IPPacketUtils.getIPVersion_congr (by omega) (by omega) hsame.head
    refine hhonest.source a ?_
    rw [← ha, IPPacketUtils.getSourceIP, IPPacketUtils.getSourceIP,
      IPPacketUtils.addressAt_four hv (by omega), IPPacketUtils.addressAt_four hv' (by omega),
      hsame.slice (by omega)]

/-- A solicitation has the source that it was made for. -/
theorem getSourceIP_solicitation {source dest : InetAddress} {mac : Mac}
    (hp : NDPTable.getNeighborSolicitationPacket source dest mac = .ok p) :
    IPPacketUtils.getSourceIP p = .ok (some source) := by
  have h6 : source.isInet4 = false ∧ dest.isInet4 = false := by
    by_contra hne
    rw [NDPTable.getNeighborSolicitationPacket_eq_error] at hp
    · exact nomatch hp
    · revert hne
      cases source.isInet4 <;> cases dest.isInet4 <;> simp
  have hlen : source.getAddress.length = 16 := by simp [InetAddress.length_getAddress, h6.1]
  have hlen' : dest.getAddress.length = 16 := by simp [InetAddress.length_getAddress, h6.2]
  have heq := NDPTable.getNeighborSolicitationPacket_eq hlen hlen' mac
  obtain ⟨message, rfl⟩ : ∃ message,
      p = NDPTable.header source.getAddress dest.getAddress ++ message :=
    ⟨_, Except.ok.inj (hp.symm.trans heq)⟩
  have hslice : IPv6.source (NDPTable.header source.getAddress dest.getAddress ++ message) =
      source.getAddress :=
    NDPTable.source_packet hlen message
  have hheader : (NDPTable.header source.getAddress dest.getAddress).length = 40 := by
    simp [NDPTable.header, hlen, hlen']
  have hv : IPPacketUtils.getIPVersion
      (NDPTable.header source.getAddress dest.getAddress ++ message) = .ok 6 :=
    TunTapAdapter.getIPVersion_eq_six (by rw [List.length_append]; omega)
      (by simp [NDPTable.packet_eq, IPv4.version])
  rw [IPv6.source] at hslice
  rw [IPPacketUtils.getSourceIP,
    IPPacketUtils.addressAt_six hv (by rw [List.length_append]; omega), hslice,
    InetAddress.getByAddress_getAddress]

theorem Solicitation.source (hp : lan.Solicitation sends g p) {a : InetAddress}
    (ha : IPPacketUtils.getSourceIP p = .ok (some a)) : (lan.config g).Assigns a := by
  obtain ⟨source, dest, hsource, hp⟩ := hp.made
  obtain rfl := Option.some.inj (Except.ok.inj ((getSourceIP_solicitation hp).symm.trans ha))
  exact hsource

theorem isSome_setAddress {t : NeighborTable} {x : InetAddress}
    (hx : (t.inetAddressToMacAddress.lookup x).isSome = true) (now : ℕ) (a : InetAddress)
    (mac : Mac) :
    ((t.setAddress now a mac).inetAddressToMacAddress.lookup x).isSome = true := by
  rw [NeighborTable.setAddress_inetAddressToMacAddress]
  split_ifs
  · rfl
  · exact hx

theorem isSome_setAddressIfKnown {t : NeighborTable} {x : InetAddress}
    (hx : (t.inetAddressToMacAddress.lookup x).isSome = true) (now : ℕ) (mac : Mac)
    (a : InetAddress) :
    ((ARPTable.setAddressIfKnown t now mac (some a)).inetAddressToMacAddress.lookup x).isSome =
      true := by
  by_cases hmac : mac = 0
  · rw [ARPTable.setAddressIfKnown, if_neg (not_not.mpr hmac)]
    exact hx
  · rw [ARPTable.setAddressIfKnown, if_pos hmac]
    exact isSome_setAddress hx now a mac

theorem lookup_setAddressIfKnown {t : NeighborTable} {now : ℕ} {mac m : Mac} {a x : InetAddress}
    (hm : (ARPTable.setAddressIfKnown t now mac (some a)).inetAddressToMacAddress.lookup x =
      some m) :
    (mac ≠ 0 ∧ x = a ∧ m = mac) ∨ t.inetAddressToMacAddress.lookup x = some m := by
  by_cases hmac : mac = 0
  · rw [ARPTable.setAddressIfKnown, if_neg (not_not.mpr hmac)] at hm
    exact Or.inr hm
  · rw [ARPTable.setAddressIfKnown, if_pos hmac,
      NeighborTable.setAddress_inetAddressToMacAddress] at hm
    split_ifs at hm with hx
    · exact Or.inl ⟨hmac, hx, (Option.some.inj hm).symm⟩
    · exact Or.inr hm

variable {past : Past} {m : Member} {env : FrameReceiver.Environment}

/-- The receiver has forgotten nothing. -/
structure Grows (r r' : FrameReceiver) : Prop where
  sent : r.sent <+: r'.sent
  written : r.written <+: r'.written
  known : ∀ c a, ((r.tables c).inetAddressToMacAddress.lookup a).isSome = true →
    ((r'.tables c).inetAddressToMacAddress.lookup a).isSome = true

theorem Grows.refl (r : FrameReceiver) : Grows r r :=
  ⟨List.prefix_rfl, List.prefix_rfl, fun _ _ ha => ha⟩

theorem isSome_update {tables : TableClass → NeighborTable} {c : TableClass} {t : NeighborTable}
    (ht : ∀ a, ((tables c).inetAddressToMacAddress.lookup a).isSome = true →
      (t.inetAddressToMacAddress.lookup a).isSome = true) (c' : TableClass) (a : InetAddress)
    (ha : ((tables c').inetAddressToMacAddress.lookup a).isSome = true) :
    ((Function.update tables c t c').inetAddressToMacAddress.lookup a).isSome = true := by
  by_cases hc : c' = c
  · subst hc
    rw [Function.update_self]
    exact ht a ha
  · rw [Function.update_of_ne hc]
    exact ha

theorem grows_learn (r : FrameReceiver) (c : TableClass) (isMulticast : InetAddress → Bool)
    (env : FrameReceiver.Environment) (f : Frame) (a : InetAddress) :
    Grows r (r.learn c isMulticast env f a) := by
  unfold FrameReceiver.learn
  split_ifs
  · exact { Grows.refl r with }
  · exact { Grows.refl r with
      known := isSome_update fun x hx => isSome_setAddress hx env.now a f.srcMac }

theorem grows_learnARP (r : FrameReceiver) (env : FrameReceiver.Environment) (f : Frame) :
    Grows r { r.learnARP env f with sent := r.sent ++ FrameReceiver.answers env f } where
  sent := List.prefix_append r.sent _
  written := List.prefix_rfl
  known := isSome_update fun _ ha =>
    isSome_setAddressIfKnown (isSome_setAddressIfKnown ha env.now _ _) env.now _ _

/-- The receiver keeps what the member had and learns true things. -/
theorem SoundMember.update (hm : lan.SoundMember sends past h m) {r : FrameReceiver}
    (hgrows : Grows m.receiver r)
    (htables : ∀ c a mac, (r.tables c).inetAddressToMacAddress.lookup a = some mac →
      lan.Learnt sends c a mac) (hsent : ∀ f ∈ r.sent, lan.Genuine sends h f)
    (hwritten : ∀ p ∈ r.written, lan.Delivered sends h p) :
    lan.SoundMember sends past h (m.update r) where
  adapter := { hm.adapter with
    arp := htables .arpTable
    ndp := htables .ndpTable
    sent := hsent
    outbox := hm.adapter.outbox.trans hgrows.sent
    knownArp := fun a ha => hgrows.known .arpTable a (hm.adapter.knownArp a ha)
    knownNdp := fun a ha => hgrows.known .ndpTable a (hm.adapter.knownNdp a ha) }
  written := hwritten
  stays := hm.stays.trans hgrows.written

theorem SoundMember.tables (hm : lan.SoundMember sends past h m) (c : TableClass) {a : InetAddress}
    {mac : Mac} (hmac : (m.tables c).inetAddressToMacAddress.lookup a = some mac) :
    lan.Learnt sends c a mac := by
  cases c with
  | arpTable => exact hm.adapter.arp a mac hmac
  | ndpTable => exact hm.adapter.ndp a mac hmac

theorem learnt_update (hm : lan.SoundMember sends past h m) {c : TableClass} {t : NeighborTable}
    (ht : ∀ a mac, t.inetAddressToMacAddress.lookup a = some mac → lan.Learnt sends c a mac)
    (c' : TableClass) (a : InetAddress) (mac : Mac)
    (hmac : (Function.update m.tables c t c').inetAddressToMacAddress.lookup a = some mac) :
    lan.Learnt sends c' a mac := by
  by_cases hc : c' = c
  · subst hc
    rw [Function.update_self] at hmac
    exact ht a mac hmac
  · rw [Function.update_of_ne hc] at hmac
    exact hm.tables c' hmac

theorem receiver_connected (m : Member) : m.receiver.Connected := ⟨rfl, rfl, rfl⟩

theorem after_arp {f : Frame} (htype : f.etherType = arpPacket) (hlen : 28 ≤ f.frameData.length) :
    m.receiver.after env f =
      { m.receiver.learnARP env f with
        sent := m.receiver.sent ++ FrameReceiver.answers env f } := by
  rw [FrameReceiver.after, Handler.after,
    FrameReceiver.run_onVirtualNetworkFrame env f _ (receiver_connected m), if_pos htype,
    FrameReceiver.handleARP_run env f _ hlen]

theorem genuine_answers (hp : lan.GenuineArp g f.frameData)
    (henv : env.networkConfig = lan.config h) :
    ∀ answer ∈ FrameReceiver.answers env f, lan.Genuine sends h answer := by
  unfold FrameReceiver.answers FrameReceiver.replies
  split_ifs
  · split
    · rename_i localV4 hlocal
      rw [henv] at hlocal
      obtain ⟨x, hx, hxa⟩ := List.mem_map.mp (List.mem_of_find?_eq_some hlocal)
      refine List.forall_mem_singleton.mpr (.arp (congrArg VirtualNetworkConfig.mac henv) rfl ?_)
      rw [FrameReceiver.reply, henv]
      exact genuineArp_packetOf 2 (ArpPacket.toNat_senderMac_lt f.frameData) ⟨x, hx, hxa⟩
        fun _ => ⟨g, hp.senderAddress, hp.senderMac.symm⟩
    · simp
  · simp

theorem SoundMember.receive_arp (hm : lan.SoundMember sends past h m)
    (hp : lan.GenuineArp g f.frameData) (htype : f.etherType = arpPacket)
    (henv : env.networkConfig = lan.config h) : lan.SoundMember sends past h (m.receive env f) := by
  rw [Member.receive, after_arp htype hp.length]
  refine hm.update (grows_learnARP m.receiver env f) (learnt_update hm fun a mac hmac => ?_)
    (fun f' hf' => ?_) hm.written
  · rcases lookup_setAddressIfKnown hmac with ⟨hne, rfl, rfl⟩ | hmac
    · exact hp.target hne
    rcases lookup_setAddressIfKnown hmac with ⟨-, rfl, rfl⟩ | hmac
    · exact ⟨g, hp.senderAddress, hp.senderMac.symm⟩
    · exact hm.adapter.arp a mac hmac
  · rcases List.mem_append.mp hf' with hf' | hf'
    · exact hm.adapter.sent f' hf'
    · exact genuine_answers hp henv f' hf'

theorem soundMember_write {r : FrameReceiver} (hr : lan.SoundMember sends past h (m.update r))
    (hp : lan.Delivered sends h f.frameData) :
    lan.SoundMember sends past h (m.update (r.write env f)) := by
  unfold FrameReceiver.write
  split_ifs
  · refine ⟨hr.adapter, fun p hp' => ?_, hr.stays.trans (List.prefix_append r.written _)⟩
    rcases List.mem_append.mp hp' with hp' | hp'
    · exact hr.written p hp'
    · rw [List.mem_singleton.mp hp']
      exact hp
  · exact hr

theorem SoundMember.receive_ip (hm : lan.SoundMember sends past h m)
    (hsrc : f.srcMac = (lan.config g).mac)
    (htype : f.etherType = ipv4Packet ∨ f.etherType = ipv6Packet ∧ Speaks sends g)
    (hsource : ∀ a, IPPacketUtils.getSourceIP f.frameData = .ok (some a) →
      (lan.config g).Assigns a)
    (hp : lan.Delivered sends h f.frameData) : lan.SoundMember sends past h (m.receive env f) := by
  obtain ⟨c, isMulticast, hafter, hlearnt⟩ : ∃ c isMulticast, m.receiver.after env f =
      Handler.after (FrameReceiver.handleIP c isMulticast env f) m.receiver ∧
      ∀ a, (lan.config g).Assigns a → lan.Learnt sends c a f.srcMac := by
    rw [FrameReceiver.after, Handler.after,
      FrameReceiver.run_onVirtualNetworkFrame env f _ (receiver_connected m), hsrc]
    rcases htype with htype | ⟨htype, hspeaks⟩
    · rw [htype, if_neg (by decide), if_pos rfl]
      exact ⟨_, _, rfl, fun a ha => ⟨g, ha, rfl⟩⟩
    · rw [htype, if_neg (by decide), if_neg (by decide), if_pos rfl]
      exact ⟨_, _, rfl, fun a ha => ⟨g, ha, rfl, hspeaks⟩⟩
  have hself : lan.SoundMember sends past h (m.update m.receiver) :=
    hm.update (Grows.refl m.receiver) (fun c a mac => hm.tables c) hm.adapter.sent hm.written
  rw [Member.receive, hafter, Handler.after_ok (FrameReceiver.handleIP_run env f _ c _)]
  cases hsource' : IPPacketUtils.getSourceIP f.frameData with
  | error e => exact hself
  | ok sourceIP =>
    cases sourceIP with
    | none => exact soundMember_write hself hp
    | some sourceIP =>
      refine soundMember_write ?_ hp
      have hgrows := grows_learn m.receiver c isMulticast env f sourceIP
      unfold FrameReceiver.learn at hgrows ⊢
      split_ifs at hgrows ⊢
      · exact hm.update hgrows (fun c a mac => hm.tables c) hm.adapter.sent hm.written
      · refine hm.update hgrows (learnt_update hm fun a mac hmac => ?_) hm.adapter.sent hm.written
        rw [NeighborTable.setAddress_inetAddressToMacAddress] at hmac
        split_ifs at hmac with ha
        · rw [ha, ← Option.some.inj hmac]
          exact hlearnt sourceIP (hsource sourceIP hsource')
        · exact hm.tables c hmac

theorem SoundMember.receive (hm : lan.SoundMember sends past h m) (hother : g ≠ h)
    (hf : lan.accepts h f = true) (hgenuine : lan.Genuine sends g f)
    (henv : env.networkConfig = lan.config h) :
    lan.SoundMember sends past h (m.receive env f) := by
  cases hgenuine with
  | arp hsrc htype hp => exact hm.receive_arp hp htype henv
  | packet hsrc hp =>
    refine hm.receive_ip hsrc ?_ (fun a => hp.source) (hp.delivered hother hf)
    generalize f.etherType = etherType at hp
    cases hp with
    | ipv4 => exact Or.inl rfl
    | ipv6 hsends _ hversion => exact Or.inr ⟨rfl, _, hsends, hversion⟩
  | solicitation hsrc htype hp =>
    exact hm.receive_ip hsrc (Or.inr ⟨htype, hp.speaks⟩) (fun a => hp.source)
      (.solicitation g hother hp)

theorem handleIPWithoutTables_cases (isMulticast : InetAddress → Bool)
    (env : FrameReceiver.Environment) (f : Frame) (r : FrameReceiver) :
    r.handleIPWithoutTables isMulticast env f = r ∨
      ∃ macs, r.handleIPWithoutTables isMulticast env f =
        { r with subscriptions := macs }.write env f := by
  unfold FrameReceiver.handleIPWithoutTables
  rcases IPPacketUtils.getSourceIP f.frameData with e | _ | sourceIP
  · exact Or.inl rfl
  · exact Or.inr ⟨_, rfl⟩
  · dsimp only
    split_ifs
    · exact Or.inr ⟨_, rfl⟩
    · exact Or.inl rfl

/-- Without the tables there may be a subscription and a write, and only for a packet. -/
theorem afterWithoutTables_cases (env : FrameReceiver.Environment) (f : Frame) (r : FrameReceiver) :
    r.afterWithoutTables env f = r ∨ f.etherType ≠ arpPacket ∧
      ∃ macs, r.afterWithoutTables env f = { r with subscriptions := macs }.write env f := by
  unfold FrameReceiver.afterWithoutTables
  split_ifs with harp
  · exact Or.inl rfl
  · exact (handleIPWithoutTables_cases _ env f r).imp_right fun hwrite => ⟨harp, hwrite⟩
  · exact (handleIPWithoutTables_cases _ env f r).imp_right fun hwrite => ⟨harp, hwrite⟩
  · exact Or.inl rfl

theorem SoundMember.deliver (hm : lan.SoundMember sends past h m) (hother : g ≠ h)
    (hf : lan.accepts h f = true) (hgenuine : lan.Genuine sends g f)
    (henv : env.networkConfig = lan.config h) :
    lan.SoundMember sends past h (m.deliver env f) := by
  have hself : ∀ macs, lan.SoundMember sends past h
      (m.update { m.receiver with subscriptions := macs }) := fun macs =>
    hm.update { Grows.refl m.receiver with } (fun c a mac => hm.tables c) hm.adapter.sent hm.written
  rw [Member.deliver]
  split_ifs
  · exact hm.receive hother hf hgenuine henv
  · rcases afterWithoutTables_cases env f m.receiver with hsame | ⟨harp, macs, hwrite⟩
    · rw [hsame]
      exact hself _
    · rw [hwrite]
      refine soundMember_write (hself macs) ?_
      cases hgenuine with
      | arp hsrc htype hp => exact absurd htype harp
      | packet hsrc hp => exact hp.delivered hother hf
      | solicitation hsrc htype hp => exact .solicitation g hother hp

end Deliver

/-! ### Every run -/

section Runs

variable {lan} {sends : H → Bytes → Prop} {past : Past} {h : H} {m : Member}

theorem SoundMember.act (hm : lan.SoundMember sends past h m) {e : Event}
    (he : lan.Follows sends (fun _ => past) h e) :
    lan.SoundMember sends past h (lan.act h e m) := by
  cases e with
  | packet now interfaces node bytes =>
    have hsound : lan.Sound sends past h (Handler.after
        (TunTapAdapter.receive (lan.environment h now interfaces node) bytes) m.adapter) :=
      receive_sound hm.adapter rfl he.1 he.2
    unfold Lan.act Member.send
    dsimp only
    rw [Handler.after] at hsound
    split_ifs
    · split
      · rename_i heq
        rw [heq] at hsound
        exact ⟨hsound, hm.written, hm.stays⟩
      · rename_i heq
        rw [heq] at hsound
        exact ⟨hsound, hm.written, hm.stays⟩
    · exact hm
  | sweep c now order =>
    cases c with
    | arpTable =>
      refine ⟨{ hm.adapter with
        arp := fun a mac hmac => ?_, knownArp := fun a ha => absurd ha (he a) },
        hm.written, hm.stays⟩
      exact hm.adapter.arp a mac ((NeighborTable.sweep_inetAddressToMacAddress ..).mp hmac).2
    | ndpTable =>
      refine ⟨{ hm.adapter with
        ndp := fun a mac hmac => ?_, knownNdp := fun a ha => absurd ha (he a) },
        hm.written, hm.stays⟩
      exact hm.adapter.ndp a mac ((NeighborTable.sweep_inetAddressToMacAddress ..).mp hmac).2

theorem soundMember_start (natEngine : H → Option NatEngine) (h : H) :
    lan.SoundMember sends .none h (lan.start natEngine h) where
  adapter :=
    { networkId := rfl
      length_buffer := Bytes.length_zeros 1500
      bridge := rfl
      routeMap := rfl
      routeOrder := rfl
      arp := fun _ _ hm => nomatch hm
      ndp := fun _ _ hm => nomatch hm
      localMac := fun hneeds => absurd (Or.inl rfl) hneeds
      localV4 := fun _ ha => nomatch ha
      isSome_localV4 := fun hneeds => absurd (Or.inl rfl) hneeds
      cached := fun hvalid => nomatch hvalid
      sent := fun _ hf => nomatch hf
      outbox := List.nil_prefix
      knownArp := fun _ ha => ha.elim
      knownNdp := fun _ ha => ha.elim }
  written := fun _ hp => nomatch hp
  stays := List.nil_prefix

variable [DecidableEq H]

/-- Whatever the order of packets, deliveries and sweeps, every member stays sound. -/
theorem throughout_soundMember {past : H → Past} {w : H → Member}
    (hw : ∀ h, lan.SoundMember sends (past h) h (w h)) {events : List (NetworkEvent H)}
    (hevents : ∀ e ∈ events, Protocol.Good (lan.Follows sends past) e) :
    Run.Throughout lan.protocol.step (fun w => ∀ h, lan.SoundMember sends (past h) h (w h)) w
      events :=
  lan.protocol.throughout_of_node (fun _ _ hm => hm.adapter.sent)
    (fun _ _ _ he hm => hm.act he)
    (fun _ _ _ _ _ hother hf hgenuine hm => hm.deliver hother hf hgenuine rfl) hw hevents

theorem throughout_soundMember_start (natEngine : H → Option NatEngine)
    {events : List (NetworkEvent H)} (hhonest : lan.HonestRun events)
    (hsends : ∀ h bytes, SentIn events h bytes → sends h bytes) :
    Run.Throughout lan.protocol.step (fun w => ∀ h, lan.SoundMember sends .none h (w h))
      (lan.start natEngine) events := by
  refine throughout_soundMember (soundMember_start natEngine) fun e he => ?_
  rcases e with ⟨h, _ | _⟩ | _
  · exact ⟨hsends _ _ ⟨_, _, _, he⟩, hhonest _ _ _ _ _ he⟩
  · exact fun _ ha => ha
  · trivial

/-- Every entry of every ARP and NDP table names the owner of its address, in every state of
every run. -/
theorem throughout_tables_bind (natEngine : H → Option NatEngine)
    {events : List (NetworkEvent H)} (hhonest : lan.HonestRun events) :
    Run.Throughout lan.protocol.step
      (fun w => ∀ h c a mac, ((w h).tables c).inetAddressToMacAddress.lookup a = some mac →
        lan.Binds a mac)
      (lan.start natEngine) events :=
  (throughout_soundMember_start natEngine hhonest fun _ _ h => h).mono
    fun _ hw h c _ _ hmac => ((hw h).tables c hmac).binds

/-- Two phones in `10.0.0.0/24`. -/
def pair : Lan Bool where
  networkId := 1
  config h :=
    ⟨1, if h then 0x020000000002 else 0x020000000001,
      [⟨.inet4 (if h then 0x0a000002 else 0x0a000001), 24⟩], []⟩
  routeMap _ := (∅ : RouteMap).insert ⟨.inet4 0x0a000000, 24, none⟩ 1
  routeOrder _ := .id
  mac_ne_zero := by decide
  mac_lt := by decide
  mac_unicast := by decide
  mac_injective := by decide
  owner_unique := by
    rintro (_ | _) (_ | _) a ⟨x, hx, rfl⟩ ⟨y, hy, hxy⟩
    all_goals simp_all

/-- A packet from the first of them to the second. -/
def pairPacket : Bytes :=
  [0x45, 0, 0, 20, 0, 0, 0, 0, 64, 17, 0, 0, 10, 0, 0, 1, 10, 0, 0, 2]

theorem honest_pairPacket : pair.Honest false pairPacket where
  length_le := by decide
  header := by decide
  source := by
    rintro a ha
    refine ⟨⟨.inet4 0x0a000001, 24⟩, List.mem_singleton.mpr rfl, ?_⟩
    exact Option.some.inj (Except.ok.inj ((show _ = _ by decide).trans ha))

/-- The packet is sent twice, the request and its answer in between. -/
def pairRun : List (NetworkEvent Bool) :=
  let send : NetworkEvent Bool := .act false (.packet 0 [] (fun _ => .resultOk) pairPacket)
  [send, .deliver true false 0 ⟨1, true⟩, .deliver false true 0 ⟨2, true⟩, send,
    .deliver true false 1 ⟨3, true⟩]

theorem honestRun_pairRun : pair.HonestRun pairRun := by
  intro h now interfaces node bytes hmem
  simp only [pairRun, List.mem_cons, List.not_mem_nil, or_false, reduceCtorEq, false_or,
    Protocol.Event.act.injEq, Event.packet.injEq] at hmem
  rcases hmem with ⟨rfl, -, -, -, rfl⟩ | ⟨rfl, -, -, -, rfl⟩ <;> exact honest_pairPacket

theorem throughout_tables_bind_pair :
    pair.HonestRun pairRun ∧ Run.Throughout pair.protocol.step
      (fun w => ∀ h c a mac, ((w h).tables c).inetAddressToMacAddress.lookup a = some mac →
        pair.Binds a mac)
      (pair.start fun _ => none) pairRun :=
  ⟨honestRun_pairRun, throughout_tables_bind _ honestRun_pairRun⟩

/-- What is written to a tunnel was sent by another kernel, or is a solicitation of another
adapter, and a packet for one address that needs no gateway and is no solicitation is for the
member that gets it, in every state of every run of honest kernels. -/
theorem throughout_written_delivered (natEngine : H → Option NatEngine)
    {events : List (NetworkEvent H)} (hhonest : lan.HonestRun events) :
    Run.Throughout lan.protocol.step
      (fun w => ∀ h, ∀ p ∈ (w h).written, lan.Delivered (SentIn events) h p)
      (lan.start natEngine) events :=
  (throughout_soundMember_start natEngine hhonest fun _ _ h => h).mono fun _ hw h => (hw h).written

theorem throughout_written_delivered_pair :
    pair.HonestRun pairRun ∧ Run.Throughout pair.protocol.step
      (fun w => ∀ h, ∀ p ∈ (w h).written, pair.Delivered (SentIn pairRun) h p)
      (pair.start fun _ => none) pairRun :=
  ⟨honestRun_pairRun, throughout_written_delivered _ honestRun_pairRun⟩

end Runs

end Lan

end XnetZt
