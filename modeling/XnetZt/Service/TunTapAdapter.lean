import XnetZt.Lib.Handler
import XnetZt.Net.Route
import XnetZt.Service.NeighborPackets
import XnetZt.Service.TunnelConfig
import XnetZt.Tether.NatEngine

/-!
# The transmit path of `TunTapAdapter`

The receive thread reads packets from the tunnel into one buffer and hands them to the
node as Ethernet frames. The handlers run in a state monad with Java exceptions: an
exception ends the handler, and what it did before stays done. What the outside world
contributes to one packet (the clock, the network config, the tether interfaces, the
answers of the node) is an `Environment`.

The fast path for IPv4 keeps the network config and the MAC of one destination in
fields of the adapter. The branch taken when that cache does not apply is `cacheMissUntil`.
-/

namespace XnetZt

structure TunTapAdapter where
  networkId : BitVec 64
  routeMap : RouteMap
  /-- The order in which `routeMap` hands out its keys. -/
  routeOrder : IterationOrder Route
  arpTable : NeighborTable
  ndpTable : NeighborTable
  tetherL3Bridge : Option TetherL3Bridge
  /-- `ztService.getNatEngine()` -/
  natEngine : Option NatEngine
  cachedConfig : Option VirtualNetworkConfig
  cachedConfigNetworkId : BitVec 64
  cachedLocalMac : BitVec 64
  cachedLocalV4 : Option InetAddress
  cachedCidr : ℕ
  cachedDestIpRaw : BitVec 32
  cachedDestMac : Mac
  cachedDestValid : Bool
  txCount : ℕ
  /-- The buffer of the receive thread. -/
  buffer : Bytes
  /-- The frames handed to the node. -/
  sent : List Frame
  /-- The MACs of `node.multicastSubscribe`. -/
  subscriptions : List Mac

structure Environment where
  now : ℕ
  /-- `ztService.getVirtualNetworkConfig(networkId)` -/
  config : Option VirtualNetworkConfig
  interfaces : List TetherInterface
  node : Frame → ResultCode

abbrev AdapterM := EStateM JavaException TunTapAdapter

namespace AdapterM

/-- A call that may throw and does not touch the adapter. -/
def call {α : Type} (x : Except JavaException α) : AdapterM α := fun s =>
  match x with
  | .ok a => .ok a s
  | .error e => .error e s

@[simp] theorem run_call_ok {α : Type} (a : α) (s : TunTapAdapter) :
    (call (.ok a)).run s = .ok a s := rfl

theorem run_call_bind {α β : Type} (a : α) (f : α → AdapterM β) (s : TunTapAdapter) :
    (call (.ok a) >>= f).run s = (f a).run s := rfl

@[simp] theorem run_call_error {α : Type} (e : JavaException) (s : TunTapAdapter) :
    (call (.error e) : AdapterM α).run s = .error e s := rfl

end AdapterM

open AdapterM

/-- `multicastAddressToMAC`, as the 64-bit number read from eight bytes. -/
def multicastAddressToMAC (inetAddress : InetAddress) : Mac :=
  let address := inetAddress.getAddress
  BitVec.ofNat 64 (BigEndian.toNat
    (if inetAddress.isInet4 then
      [0, 0, 1, 0, 94, address.getD 1 0 &&& 127, address.getD 2 0, address.getD 3 0]
    else
      [0, 0, 51, 51, address.getD 12 0, address.getD 13 0, address.getD 14 0, address.getD 15 0]))

def isIPv4Multicast (inetAddress : InetAddress) : Bool :=
  inetAddress.getAddress.getD 0 0 &&& 0xf0 == 0xe0

def isIPv6Multicast (inetAddress : InetAddress) : Bool :=
  inetAddress.getAddress.getD 0 0 == 0xff

/-- The address to resolve: the gateway, if there is one and the destination is not in
the network of the source. -/
def nextHop (gateway : Option InetAddress) (destIP sourceIP : InetAddress) (cidr : ℕ) :
    InetAddress :=
  match gateway with
  | none => destIP
  | some gateway =>
    if addressToRouteNo0Route destIP cidr ≠ addressToRouteNo0Route sourceIP cidr then gateway
    else destIP

/-- `packetData[6] == 58 && packetData[40] == type` -/
def isICMPv6 (type : Byte) (packetData : Bytes) : Except JavaException Bool := do
  if (← packetData.read 6) ≠ 58 then return false
  return (← packetData.read 40) == type

def isNeighborSolicitation (packetData : Bytes) : Except JavaException Bool :=
  isICMPv6 (-121) packetData

def isNeighborAdvertisement (packetData : Bytes) : Except JavaException Bool :=
  isICMPv6 (-120) packetData

namespace TunTapAdapter

/-- A new adapter whose receive thread has just started. -/
def start (networkId : BitVec 64) (tetherL3Bridge : Option TetherL3Bridge)
    (natEngine : Option NatEngine) : TunTapAdapter where
  networkId := networkId
  routeMap := ∅
  routeOrder := default
  arpTable := .empty
  ndpTable := .empty
  tetherL3Bridge := tetherL3Bridge
  natEngine := natEngine
  cachedConfig := none
  cachedConfigNetworkId := 0
  cachedLocalMac := 0
  cachedLocalV4 := none
  cachedCidr := 0
  cachedDestIpRaw := 0
  cachedDestMac := 0
  cachedDestValid := false
  txCount := 0
  buffer := .zeros 1500
  sent := []
  subscriptions := []

def addRouteAndNetwork (s : TunTapAdapter) (route : Route) (networkId : BitVec 64)
    (order : IterationOrder Route) : TunTapAdapter :=
  { s with routeMap := s.routeMap.insert route networkId, routeOrder := order }

def clearRouteMap (s : TunTapAdapter) : TunTapAdapter := { s with routeMap := ∅ }

def emit (s : TunTapAdapter) (frames : List Frame) : TunTapAdapter :=
  { s with sent := s.sent ++ frames }

@[simp] theorem emit_nil (s : TunTapAdapter) : s.emit [] = s := by
  simp [emit]

/-- `node.processVirtualNetworkFrame`; its result only decides about a deadline. -/
def send (frame : Frame) : AdapterM Unit := modify (·.emit [frame])

def multicastSubscribe (mac : Mac) : AdapterM Unit :=
  modify fun s => { s with subscriptions := s.subscriptions ++ [mac] }

/-- A packet to a multicast address subscribes to its group. -/
def subscribeTo (isMulticast : Bool) (destIP : InetAddress) : AdapterM Unit :=
  if isMulticast then multicastSubscribe (multicastAddressToMAC destIP) else pure ()

def arpGetMacForAddress (env : Environment) (inetAddress : InetAddress) : AdapterM Mac :=
  modifyGet fun s =>
    let (mac, arpTable) := s.arpTable.getMacForAddress env.now inetAddress
    (mac, { s with arpTable := arpTable })

def ndpGetMacForAddress (env : Environment) (inetAddress : InetAddress) : AdapterM Mac :=
  modifyGet fun s =>
    let (mac, ndpTable) := s.ndpTable.getMacForAddress env.now inetAddress
    (mac, { s with ndpTable := ndpTable })

/-- The packet itself, if its MAC is known. -/
def sendKnown (localMac destMac : Mac) (packetData : Bytes) : AdapterM Unit := do
  if destMac = 0 then return
  send ⟨(← get).networkId, localMac, destMac, ipv6Packet, 0, packetData⟩

/-- The neighbor solicitation, to a multicast MAC if the neighbor is not known. -/
def solicit (localMac destMac : Mac) (sourceIP destIP : InetAddress) : AdapterM Unit := do
  let destMac := if destMac = 0 then ipv6ToMulticastAddress destIP else destMac
  let packetData ← call (NDPTable.getNeighborSolicitationPacket sourceIP destIP localMac)
  send ⟨(← get).networkId, localMac, destMac, ipv6Packet, 0, packetData⟩

/-- The end of `handleIPv6Packet`, once the MAC is chosen. -/
def sendMacIPv6 (destIP sourceIP : InetAddress) (localMac : Mac) (packetData : Bytes)
    (destMac : Mac) (sendNSPacket : Bool) : AdapterM Unit := do
  sendKnown localMac destMac packetData
  if sendNSPacket then solicit localMac destMac sourceIP destIP

end TunTapAdapter

/-! ### Lookups

A handler asks a table for a MAC in two calls, `hasMacForAddress` and `getMacForAddress`,
and each of them locks the table for itself. Each handler is therefore written up to the
second call, under a name that ends in `Until`: its result is the call to come, or `none` if
the packet is done with. The handler itself goes on at once. -/

/-- A call of `getMacForAddress` that a handler is about to make, and what it needs to go on. -/
inductive Lookup
  /-- By `handleIPv4Packet(byte[], int)`, which caches the MAC. -/
  | fast (destIP : InetAddress) (destIpRaw : BitVec 32) (packetData : Bytes)
  /-- By `handleIPv4Packet(byte[])`. -/
  | full (destIP : InetAddress) (localMac : Mac) (packetData : Bytes)
  /-- By `handleIPv6Packet`. -/
  | ipv6 (destIP sourceIP : InetAddress) (localMac : Mac) (packetData : Bytes)
    (sendNSPacket : Bool)

namespace Lookup

open TunTapAdapter
open NeighborTable (TableClass)

def table : Lookup → TableClass
  | fast .. => .arpTable
  | full .. => .arpTable
  | ipv6 .. => .ndpTable

def address : Lookup → InetAddress
  | fast destIP .. => destIP
  | full destIP .. => destIP
  | ipv6 destIP .. => destIP

/-- The rest of the handler. -/
def resume (destMac : Mac) : Lookup → AdapterM Unit
  | fast _ destIpRaw packetData => do
    modify fun s => { s with
      cachedDestIpRaw := destIpRaw, cachedDestMac := destMac, cachedDestValid := true }
    let s ← get
    send ⟨s.networkId, s.cachedLocalMac, destMac, ipv4Packet, 0, packetData⟩
  | full _ localMac packetData => do
    send ⟨(← get).networkId, localMac, destMac, ipv4Packet, 0, packetData⟩
  | ipv6 destIP sourceIP localMac packetData sendNSPacket =>
    sendMacIPv6 destIP sourceIP localMac packetData destMac sendNSPacket

def getMac (env : Environment) (l : Lookup) : AdapterM Mac :=
  match l.table with
  | .arpTable => arpGetMacForAddress env l.address
  | .ndpTable => ndpGetMacForAddress env l.address

/-- The call, and the rest of the handler. -/
def complete (env : Environment) (l : Lookup) : AdapterM Unit := do
  l.resume (← l.getMac env)

end Lookup

namespace TunTapAdapter

/-- A handler that does not stop. -/
def atOnce (env : Environment) (x : AdapterM (Option Lookup)) : AdapterM Unit := do
  match ← x with
  | none => return
  | some l => l.complete env

section AtOnce

variable (env : Environment)

theorem atOnce_bind {α : Type} (x : AdapterM α) (f : α → AdapterM (Option Lookup)) :
    atOnce env (x >>= f) = x >>= fun a => atOnce env (f a) :=
  bind_assoc x f _

theorem atOnce_none (x : AdapterM Unit) : atOnce env (do x; return none) = x := by
  rw [atOnce_bind]
  exact bind_pure_unit

end AtOnce

/-! ### IPv4 -/

/-- The detour through the L3 bridge; the result says that the packet was taken. -/
def bridgeOutbound (env : Environment) (buffer : Bytes) (length : ℕ) : AdapterM Bool := do
  match (← get).tetherL3Bridge with
  | none => return false
  | some bridge =>
    if bridge.active then
      let (frame, handled) ← call (bridge.processOutbound env.node buffer length)
      modify (·.emit frame.toList)
      return handled
    else return false

/-- Connection tracking, which may change the buffer. -/
def natOutbound (env : Environment) (buffer : Bytes) (length : ℕ) : AdapterM Bytes := do
  match (← get).natEngine with
  | none => return buffer
  | some natEngine =>
    let (_, natEngine, buffer) ←
      call (natEngine.processOutbound env.now env.interfaces buffer length)
    modify fun s => { s with natEngine := some natEngine, buffer := buffer }
    return buffer

/-- The fields that remember a network config. -/
def cacheConfig (s : TunTapAdapter) (config : VirtualNetworkConfig) : TunTapAdapter :=
  let localV4 := config.assignedAddresses.find? (·.address.isInet4)
  { s with
    cachedConfig := some config
    cachedConfigNetworkId := s.networkId
    cachedLocalMac := config.mac
    cachedLocalV4 := (localV4.map (·.address)).or s.cachedLocalV4
    cachedCidr := (localV4.map (·.port)).getD s.cachedCidr }

/-- `config == null || this.cachedConfigNetworkId != this.networkId` -/
def NeedsConfig (s : TunTapAdapter) : Prop :=
  s.cachedConfig.isNone = true ∨ s.cachedConfigNetworkId ≠ s.networkId

instance (s : TunTapAdapter) : Decidable s.NeedsConfig := inferInstanceAs (Decidable (_ ∨ _))

/-- The network config is fetched once; the result says that there is one. -/
def loadConfig (env : Environment) : AdapterM Bool := do
  let s ← get
  if s.NeedsConfig then
    match env.config with
    | none => return false
    | some config =>
      set (s.cacheConfig config)
      return true
  else return true

/-- `localV4` is the value of `cachedLocalV4`. -/
def handleIPv4PacketArp (localV4 destIP : InetAddress) : AdapterM Unit := do
  let s ← get
  let packetData ← call (ARPTable.getRequestPacket s.cachedLocalMac localV4 destIP)
  send ⟨s.networkId, s.cachedLocalMac, broadcastMacAddress, arpPacket, 0, packetData⟩

/-- The destination hits the cache. -/
def sendCached (buffer : Bytes) (length : ℕ) : AdapterM Unit := do
  let s ← get
  send ⟨s.networkId, s.cachedLocalMac, s.cachedDestMac, ipv4Packet, 0, buffer.copyOf length⟩
  modify fun s => { s with txCount := s.txCount + 1 }

/-- The end of the full lookup: a known MAC is cached and used, an unknown one asked for. -/
def resolveUntil (localV4 : InetAddress) (buffer : Bytes) (length : ℕ) (destIpRaw : BitVec 32)
    (destIP : InetAddress) : AdapterM (Option Lookup) := do
  if (← get).arpTable.hasMacForAddress destIP then
    return some (.fast destIP destIpRaw (buffer.copyOf length))
  else
    handleIPv4PacketArp localV4 destIP
    return none

def resolveAndSend (env : Environment) (localV4 : InetAddress) (buffer : Bytes) (length : ℕ)
    (destIpRaw : BitVec 32) (destIP : InetAddress) : AdapterM Unit :=
  atOnce env (resolveUntil localV4 buffer length destIpRaw destIP)

/-- The full lookup. -/
def cacheMissUntil (localV4 : InetAddress) (buffer : Bytes) (length : ℕ)
    (destIpRaw : BitVec 32) : AdapterM (Option Lookup) := do
  let ipBuf4 ← call (Bytes.arraycopy buffer 16 (.zeros 4) 0 4)
  match InetAddress.getByAddress ipBuf4 with
  | none => return none
  | some destIP =>
    let s ← get
    match routeForDestination s.routeOrder s.routeMap destIP with
    | none => return none
    | some route =>
      match route.gateway with
      | none => resolveUntil localV4 buffer length destIpRaw destIP
      | some gateway =>
        let ipBuf4 ← call (Bytes.arraycopy buffer 12 (.zeros 4) 0 4)
        match InetAddress.getByAddress ipBuf4 with
        | none => return none
        | some sourceIP =>
          resolveUntil localV4 buffer length destIpRaw
            (nextHop (some gateway) destIP sourceIP s.cachedCidr)

/-- The end of `handleIPv4Packet(byte[])`: the packet goes out, or an ARP request. A packet
to a group that is sent by way of a gateway is looked up without having been found. -/
def sendIPv4Until (localMac : Mac) (localV4 : InetAddress) (isMulticast : Bool)
    (packetData : Bytes) (destIP : InetAddress) : AdapterM (Option Lookup) := do
  let s ← get
  if isMulticast || s.arpTable.hasMacForAddress destIP then
    if isIPv4Multicast destIP then
      send ⟨s.networkId, localMac, multicastAddressToMAC destIP, ipv4Packet, 0, packetData⟩
      return none
    else return some (.full destIP localMac packetData)
  else
    let packetData ← call (ARPTable.getRequestPacket localMac localV4 destIP)
    send ⟨s.networkId, localMac, broadcastMacAddress, arpPacket, 0, packetData⟩
    return none

def sendIPv4 (env : Environment) (localMac : Mac) (localV4 : InetAddress) (isMulticast : Bool)
    (packetData : Bytes) (destIP : InetAddress) : AdapterM Unit :=
  atOnce env (sendIPv4Until localMac localV4 isMulticast packetData destIP)

/-- `handleIPv4Packet(byte[])`, the path of multicast packets. -/
def handleIPv4PacketDataUntil (env : Environment) (packetData : Bytes) :
    AdapterM (Option Lookup) := do
  let destIP ← call (IPPacketUtils.getDestIP packetData)
  let sourceIP ← call (IPPacketUtils.getSourceIP packetData)
  match env.config, destIP, sourceIP with
  | some config, some destIP, some sourceIP =>
    let isMulticast := isIPv4Multicast destIP
    subscribeTo isMulticast destIP
    let s ← get
    let gateway := (routeForDestination s.routeOrder s.routeMap destIP).bind (·.gateway)
    let localV4 := config.assignedAddresses.find? (·.address.isInet4)
    let destIP := nextHop gateway destIP sourceIP (localV4.elim 0 (·.port))
    match localV4 with
    | none => return none
    | some localV4 => sendIPv4Until config.mac localV4.address isMulticast packetData destIP
  | _, _, _ => return none

def handleIPv4PacketData (env : Environment) (packetData : Bytes) : AdapterM Unit :=
  atOnce env (handleIPv4PacketDataUntil env packetData)

/-- Multicast packets leave the fast path; the others use the cache or fill it. -/
def forwardIPv4Until (env : Environment) (localV4 : InetAddress) (buffer : Bytes) (length : ℕ) :
    AdapterM (Option Lookup) := do
  if (← call (buffer.read 16)) &&& 0xf0 = 0xe0 then
    handleIPv4PacketDataUntil env (buffer.copyOf length)
  else
    let destIpRaw ← call (buffer.getInt 16)
    let s ← get
    if s.cachedDestValid && destIpRaw == s.cachedDestIpRaw then
      sendCached buffer length
      return none
    else cacheMissUntil localV4 buffer length destIpRaw

def forwardIPv4 (env : Environment) (localV4 : InetAddress) (buffer : Bytes) (length : ℕ) :
    AdapterM Unit :=
  atOnce env (forwardIPv4Until env localV4 buffer length)

/-- Connection tracking and the config. A packet for which there is a local address goes
on with that address and the buffer. -/
def trackAndLoad (env : Environment) (buffer : Bytes) (length : ℕ) :
    AdapterM (Option (InetAddress × Bytes)) := do
  let buffer ← natOutbound env buffer length
  if !(← loadConfig env) then return none
  return (← get).cachedLocalV4.map (·, buffer)

/-- `handleIPv4Packet` up to the lookup. -/
def prepareIPv4 (env : Environment) (buffer : Bytes) (length : ℕ) :
    AdapterM (Option (InetAddress × Bytes)) := do
  if ← bridgeOutbound env buffer length then return none
  trackAndLoad env buffer length

/-- `handleIPv4Packet(byte[], int)` -/
def handleIPv4PacketUntil (env : Environment) (buffer : Bytes) (length : ℕ) :
    AdapterM (Option Lookup) := do
  match ← prepareIPv4 env buffer length with
  | none => return none
  | some (localV4, buffer) => forwardIPv4Until env localV4 buffer length

def handleIPv4Packet (env : Environment) (buffer : Bytes) (length : ℕ) : AdapterM Unit :=
  atOnce env (handleIPv4PacketUntil env buffer length)

theorem handleIPv4Packet_eq (env : Environment) (buffer : Bytes) (length : ℕ) :
    handleIPv4Packet env buffer length = prepareIPv4 env buffer length >>= fun prepared =>
      match prepared with
      | none => pure ()
      | some (localV4, buffer) => forwardIPv4 env localV4 buffer length := by
  unfold handleIPv4Packet handleIPv4PacketUntil
  rw [atOnce_bind]
  congr 1
  funext prepared
  cases prepared <;> rfl

/-! ### IPv6 -/

/-- The MAC for a packet, zero if it is not known and `none` if it is looked up, and whether
to solicit the neighbor. -/
def destMacIPv6Until (packetData : Bytes) (destIP : InetAddress) :
    AdapterM (Option Mac × Bool) := do
  let known := (← get).ndpTable.hasMacForAddress destIP
  if ← call (isNeighborSolicitation packetData) then
    if known then return (none, false)
    else return (some (ipv6ToMulticastAddress destIP), false)
  else if isIPv6Multicast destIP then return (some (multicastAddressToMAC destIP), false)
  else if ← call (isNeighborAdvertisement packetData) then
    if known then return (none, true)
    else return (some 0, true)
  else
    if known then return (none, false)
    else return (some 0, true)

/-- The end of `handleIPv6Packet`. -/
def sendIPv6Until (localMac : Mac) (packetData : Bytes) (sourceIP destIP : InetAddress) :
    AdapterM (Option Lookup) := do
  match ← destMacIPv6Until packetData destIP with
  | (none, sendNSPacket) => return some (.ipv6 destIP sourceIP localMac packetData sendNSPacket)
  | (some destMac, sendNSPacket) =>
    sendMacIPv6 destIP sourceIP localMac packetData destMac sendNSPacket
    return none

def sendIPv6 (env : Environment) (localMac : Mac) (packetData : Bytes)
    (sourceIP destIP : InetAddress) : AdapterM Unit :=
  atOnce env (sendIPv6Until localMac packetData sourceIP destIP)

/-- The MAC and whether to solicit the neighbor, with the lookup. -/
def destMacIPv6 (env : Environment) (packetData : Bytes) (destIP : InetAddress) :
    AdapterM (Mac × Bool) := do
  match ← destMacIPv6Until packetData destIP with
  | (none, sendNSPacket) => return (← ndpGetMacForAddress env destIP, sendNSPacket)
  | (some destMac, sendNSPacket) => return (destMac, sendNSPacket)

theorem sendIPv6_eq (env : Environment) (localMac : Mac) (packetData : Bytes)
    (sourceIP destIP : InetAddress) :
    sendIPv6 env localMac packetData sourceIP destIP =
      destMacIPv6 env packetData destIP >>= fun chosen =>
        sendMacIPv6 destIP sourceIP localMac packetData chosen.1 chosen.2 := by
  unfold sendIPv6 sendIPv6Until destMacIPv6
  rw [atOnce_bind, bind_assoc]
  congr 1
  funext chosen
  obtain ⟨destMac, sendNSPacket⟩ := chosen
  cases destMac with
  | none => rfl
  | some destMac => exact atOnce_none env _

def handleIPv6PacketUntil (env : Environment) (packetData : Bytes) :
    AdapterM (Option Lookup) := do
  let destIP ← call (IPPacketUtils.getDestIP packetData)
  let sourceIP ← call (IPPacketUtils.getSourceIP packetData)
  match env.config, destIP, sourceIP with
  | some config, some destIP, some sourceIP =>
    subscribeTo (isIPv6Multicast destIP) destIP
    let s ← get
    let gateway := (routeForDestination s.routeOrder s.routeMap destIP).bind (·.gateway)
    let localV6 := config.assignedAddresses.find? (·.address.isInet6)
    let destIP := nextHop gateway destIP sourceIP (localV6.elim 0 (·.port))
    match localV6 with
    | none => return none
    | some _ => sendIPv6Until config.mac packetData sourceIP destIP
  | _, _, _ => return none

def handleIPv6Packet (env : Environment) (packetData : Bytes) : AdapterM Unit :=
  atOnce env (handleIPv6PacketUntil env packetData)

/-! ### The receive thread -/

/-- One successful `read(buffer)`. What an earlier read left behind the new bytes stays. -/
def receive (env : Environment) (bytes : Bytes) : AdapterM Unit := do
  if bytes.length = 0 then return
  modify fun s => { s with buffer := s.buffer.splice 0 bytes }
  let buffer := (← get).buffer
  let iPVersion ← call (IPPacketUtils.getIPVersion buffer)
  if iPVersion = 4 then handleIPv4Packet env buffer bytes.length
  else if iPVersion = 6 then handleIPv6Packet env (buffer.copyOf bytes.length)

/-- What a turn of the receive loop meets. -/
inductive TunRead
  | bytes (env : Environment) (bytes : Bytes)
  | endOfStream
  | ioException
  | interrupted

/-- Why the receive thread ended. -/
inductive Ending
  | endOfStream
  | ioException
  | interrupted
  | exception (e : JavaException)
  deriving DecidableEq

/-- The receive loop; without an ending it waits for the next read. -/
def receiveLoop : List TunRead → TunTapAdapter → Option Ending × TunTapAdapter
  | [], s => (none, s)
  | .endOfStream :: _, s => (some .endOfStream, s)
  | .ioException :: _, s => (some .ioException, s)
  | .interrupted :: _, s => (some .interrupted, s)
  | .bytes env bytes :: reads, s =>
    match (receive env bytes).run s with
    | .ok _ s => receiveLoop reads s
    | .error e s => (some (.exception e), s)

/-! ### What the stages do -/

/-- What the bridge makes of a packet; an inactive bridge leaves it alone by itself. -/
def bridgeResult (s : TunTapAdapter) (env : Environment) (buffer : Bytes) (length : ℕ) :
    Except JavaException (Option Frame × Bool) :=
  match s.tetherL3Bridge with
  | none => .ok (none, false)
  | some bridge => bridge.processOutbound env.node buffer length

/-- The frames the bridge hands to the node. -/
def bridgeFrames (s : TunTapAdapter) (env : Environment) (buffer : Bytes) (length : ℕ) :
    List Frame :=
  match s.bridgeResult env buffer length with
  | .ok (frame, _) => frame.toList
  | .error _ => []

/-- The bridge takes a packet for its own. -/
def Bridged (s : TunTapAdapter) (buffer : Bytes) (length : ℕ) : Prop :=
  ∃ bridge, s.tetherL3Bridge = some bridge ∧ bridge.Intercepts buffer length

/-- The local address once the config is loaded. -/
def localV4 (s : TunTapAdapter) (env : Environment) : Option InetAddress :=
  if s.NeedsConfig then
    env.config.bind fun config => (s.cacheConfig config).cachedLocalV4
  else s.cachedLocalV4

/-- The prefix length that goes with it. -/
def cidr (s : TunTapAdapter) (env : Environment) : ℕ :=
  if s.NeedsConfig then
    env.config.elim s.cachedCidr fun config => (s.cacheConfig config).cachedCidr
  else s.cachedCidr

/-- A frame of a node with this MAC and address: an ARP packet names both as its sender. -/
structure SentBy (f : Frame) (mac : Mac) (address : InetAddress) : Prop where
  srcMac : f.srcMac = mac
  senderMac : f.etherType = arpPacket →
    f.frameData.slice 8 6 = (ARPTable.longToBytes mac).slice 2 6
  senderAddress : f.etherType = arpPacket →
    f.frameData.slice 14 4 = address.getAddress.slice 0 4

/-- A frame of this node as a network config describes it. -/
def SentUnder (f : Frame) (config : Option VirtualNetworkConfig) : Prop :=
  ∃ c a, config = some c ∧ c.assignedAddresses.find? (·.address.isInet4) = some a ∧
    SentBy f c.mac a.address

/-- The adapter once the config is loaded. -/
def loaded (s : TunTapAdapter) (env : Environment) : TunTapAdapter :=
  if s.NeedsConfig then env.config.elim s s.cacheConfig else s

/-- The address in the four bytes of a buffer from `i` on. -/
def rawAt (buffer : Bytes) (i : ℕ) : BitVec 32 :=
  BitVec.ofNat 32 (BigEndian.toNat (buffer.slice i 4))

/-- The address whose MAC the full lookup asks for. -/
def hopTo (s : TunTapAdapter) (destIP sourceIP : InetAddress) : Option InetAddress :=
  (routeForDestination s.routeOrder s.routeMap destIP).map fun route =>
    nextHop route.gateway destIP sourceIP s.cachedCidr

/-- The same for the packet in a buffer. -/
def hopFor (s : TunTapAdapter) (buffer : Bytes) : Option InetAddress :=
  s.hopTo (.inet4 (rawAt buffer 16)) (.inet4 (rawAt buffer 12))

/-- Everything that is needed to send is cached. -/
structure ConfigCached (s : TunTapAdapter) : Prop where
  config : s.cachedConfig.isSome = true
  network : s.cachedConfigNetworkId = s.networkId
  address : s.cachedLocalV4.isSome = true

/-- What the full lookup reads, and the cached destination, stay as they are. -/
structure KeepsLookup (s s' : TunTapAdapter) : Prop where
  routeMap : s'.routeMap = s.routeMap
  routeOrder : s'.routeOrder = s.routeOrder
  arp : s'.arpTable.inetAddressToMacAddress = s.arpTable.inetAddressToMacAddress
  cachedDestIpRaw : s'.cachedDestIpRaw = s.cachedDestIpRaw
  cachedDestMac : s'.cachedDestMac = s.cachedDestMac
  cachedDestValid : s'.cachedDestValid = s.cachedDestValid
  length_buffer : s'.buffer.length = s.buffer.length
  configCached : s.ConfigCached → s'.ConfigCached

/-- The remembered config stays as it is, and some frames are handed to the node. -/
structure Sends (s : TunTapAdapter) (frames : List Frame) (s' : TunTapAdapter) : Prop where
  networkId : s'.networkId = s.networkId
  cachedConfig : s'.cachedConfig = s.cachedConfig
  cachedConfigNetworkId : s'.cachedConfigNetworkId = s.cachedConfigNetworkId
  cachedLocalMac : s'.cachedLocalMac = s.cachedLocalMac
  cachedLocalV4 : s'.cachedLocalV4 = s.cachedLocalV4
  sent : s'.sent = s.sent ++ frames

theorem Sends.refl (s : TunTapAdapter) : s.Sends [] s :=
  ⟨rfl, rfl, rfl, rfl, rfl, (List.append_nil _).symm⟩

theorem Sends.trans {s t u : TunTapAdapter} {frames frames' : List Frame}
    (h : s.Sends frames t) (h' : t.Sends frames' u) : s.Sends (frames ++ frames') u where
  networkId := h'.networkId.trans h.networkId
  cachedConfig := h'.cachedConfig.trans h.cachedConfig
  cachedConfigNetworkId := h'.cachedConfigNetworkId.trans h.cachedConfigNetworkId
  cachedLocalMac := h'.cachedLocalMac.trans h.cachedLocalMac
  cachedLocalV4 := h'.cachedLocalV4.trans h.cachedLocalV4
  sent := by rw [h'.sent, h.sent, List.append_assoc]

theorem sends_emit (s : TunTapAdapter) (frames : List Frame) : s.Sends frames (s.emit frames) :=
  ⟨rfl, rfl, rfl, rfl, rfl, rfl⟩

theorem Sends.needsConfig_iff {s t : TunTapAdapter} {frames : List Frame}
    (h : s.Sends frames t) : t.NeedsConfig ↔ s.NeedsConfig := by
  rw [NeedsConfig, NeedsConfig, h.cachedConfig, h.cachedConfigNetworkId, h.networkId]

/-- Loading reads only the remembered config and keeps the rest. -/
theorem Sends.loaded {s t : TunTapAdapter} {frames : List Frame} (h : s.Sends frames t)
    (env : Environment) : (s.loaded env).Sends frames (t.loaded env) := by
  unfold TunTapAdapter.loaded
  rw [if_congr h.needsConfig_iff rfl rfl]
  split_ifs
  · cases env.config with
    | none => exact h
    | some config =>
      refine ⟨h.networkId, rfl, h.networkId, rfl, ?_, h.sent⟩
      exact congrArg (Option.or _) h.cachedLocalV4
  · exact h

/-- Connection tracking leaves the addresses where they are. -/
theorem rawAt_sameButTtl {buffer buffer' : Bytes} (h : NatEngine.SameButTtl buffer buffer') {i : ℕ}
    (hi : 12 ≤ i) : rawAt buffer' i = rawAt buffer i := by
  rw [rawAt, rawAt, h.slice hi]

theorem KeepsLookup.refl (s : TunTapAdapter) : s.KeepsLookup s :=
  ⟨rfl, rfl, rfl, rfl, rfl, rfl, rfl, id⟩

theorem KeepsLookup.trans {s t u : TunTapAdapter} (h : s.KeepsLookup t) (h' : t.KeepsLookup u) :
    s.KeepsLookup u where
  routeMap := h'.routeMap.trans h.routeMap
  routeOrder := h'.routeOrder.trans h.routeOrder
  arp := h'.arp.trans h.arp
  cachedDestIpRaw := h'.cachedDestIpRaw.trans h.cachedDestIpRaw
  cachedDestMac := h'.cachedDestMac.trans h.cachedDestMac
  cachedDestValid := h'.cachedDestValid.trans h.cachedDestValid
  length_buffer := h'.length_buffer.trans h.length_buffer
  configCached hc := h'.configCached (h.configCached hc)

theorem keepsLookup_emit (s : TunTapAdapter) (frames : List Frame) :
    s.KeepsLookup (s.emit frames) :=
  ⟨rfl, rfl, rfl, rfl, rfl, rfl, rfl, fun h => ⟨h.config, h.network, h.address⟩⟩

theorem subscribeTo_run (s : TunTapAdapter) (isMulticast : Bool) (destIP : InetAddress) :
    ∃ macs, (subscribeTo isMulticast destIP).run s = .ok () { s with subscriptions := macs } := by
  cases isMulticast
  · exact ⟨s.subscriptions, rfl⟩
  · exact ⟨_, rfl⟩

theorem keepsLookup_subscribe (s : TunTapAdapter) (macs : List Mac) :
    s.KeepsLookup { s with subscriptions := macs } :=
  ⟨rfl, rfl, rfl, rfl, rfl, rfl, rfl, fun h => ⟨h.config, h.network, h.address⟩⟩

theorem sends_subscribe (s : TunTapAdapter) (macs : List Mac) :
    s.Sends [] { s with subscriptions := macs } :=
  ⟨rfl, rfl, rfl, rfl, rfl, (List.append_nil _).symm⟩

theorem keepsLookup_cacheConfig (s : TunTapAdapter) (config : VirtualNetworkConfig) :
    s.KeepsLookup (s.cacheConfig config) := by
  refine ⟨rfl, rfl, rfl, rfl, rfl, rfl, rfl, fun h => ⟨rfl, rfl, ?_⟩⟩
  simp [cacheConfig, Option.isSome_or, h.address]

theorem keepsLookup_getMacForAddress (s : TunTapAdapter) (now : ℕ) (a : InetAddress) :
    s.KeepsLookup { s with arpTable := (s.arpTable.getMacForAddress now a).2 } := by
  refine ⟨rfl, rfl, ?_, rfl, rfl, rfl, rfl, fun h => ⟨h.config, h.network, h.address⟩⟩
  rcases s.arpTable.getMacForAddress_eq now a with h | ⟨m, -, h⟩
  · rw [h]
  · rw [h, (NeighborTable.updateTime_maps ..).2.1]

section Stages

variable {env : Environment} {buffer : Bytes} {length : ℕ} {s : TunTapAdapter}

theorem bridgeOutbound_run (s : TunTapAdapter) (env : Environment) (buffer : Bytes) (length : ℕ) :
    (bridgeOutbound env buffer length).run s =
      match s.bridgeResult env buffer length with
      | .ok (frame, handled) => .ok handled (s.emit frame.toList)
      | .error e => .error e s := by
  cases h : s.tetherL3Bridge with
  | none => simp [bridgeOutbound, bridgeResult, h]
  | some bridge =>
    by_cases hactive : bridge.active = true
    · cases hrun : bridge.processOutbound env.node buffer length <;>
        simp [bridgeOutbound, bridgeResult, h, hactive, hrun, -bind_pure_comp]
    · have hoff : bridge.processOutbound env.node buffer length = .ok (none, false) := by
        simp [TetherL3Bridge.processOutbound, hactive]
      simp [bridgeOutbound, bridgeResult, h, hactive, hoff]

/-- Connection tracking does not throw, and leaves the addresses in the buffer alone. -/
theorem natOutbound_cases (env : Environment) (s : TunTapAdapter) (hlen : length ≤ buffer.length) :
    (natOutbound env buffer length).run s = .ok buffer s ∨
      ∃ engine buffer', (natOutbound env buffer length).run s =
          .ok buffer' { s with natEngine := some engine, buffer := buffer' } ∧
        NatEngine.SameButTtl buffer buffer' := by
  cases h : s.natEngine with
  | none => exact Or.inl (by simp [natOutbound, h])
  | some engine =>
    obtain ⟨r, engine', buffer', hrun, hsame⟩ :=
      engine.processOutbound_eq_ok env.now env.interfaces hlen
    exact Or.inr ⟨engine', buffer', by simp [natOutbound, h, hrun, -bind_pure_comp], hsame⟩

/-- Loading ends with a cached config, or there is none. -/
theorem loadConfig_cases (env : Environment) (s : TunTapAdapter) :
    ((loadConfig env).run s = .ok false s ∧ s.loaded env = s ∧ s.localV4 env = none) ∨
      ((loadConfig env).run s = .ok true s ∧ s.loaded env = s ∧
        s.localV4 env = s.cachedLocalV4 ∧ s.cidr env = s.cachedCidr ∧
        s.cachedConfig.isSome = true ∧ s.cachedConfigNetworkId = s.networkId) ∨
      ∃ config, (loadConfig env).run s = .ok true (s.cacheConfig config) ∧
        s.loaded env = s.cacheConfig config ∧
        s.localV4 env = (s.cacheConfig config).cachedLocalV4 ∧
        s.cidr env = (s.cacheConfig config).cachedCidr := by
  by_cases hload : s.NeedsConfig
  · cases hc : env.config with
    | none =>
      exact Or.inl ⟨by simp [loadConfig, hload, hc], by simp [loaded, hc],
        by simp [localV4, hload, hc]⟩
    | some config =>
      refine Or.inr (Or.inr ⟨config, ?_, ?_, ?_, ?_⟩)
      · simp [loadConfig, hload, hc, -bind_pure_comp]
      · rw [loaded, if_pos hload, hc, Option.elim_some]
      · rw [localV4, if_pos hload, hc, Option.bind_some]
      · rw [cidr, if_pos hload, hc, Option.elim_some]
  · refine Or.inr (Or.inl ⟨by simp [loadConfig, hload], by rw [loaded, if_neg hload],
      by rw [localV4, if_neg hload], by rw [cidr, if_neg hload], ?_⟩)
    obtain ⟨hsome, hid⟩ := not_or.mp hload
    exact ⟨by simpa [Option.isSome_iff_ne_none] using hsome, not_not.mp hid⟩

theorem bridgeResult_cases (env : Environment) (s : TunTapAdapter) (hlen : length ≤ buffer.length) :
    (¬ s.Bridged buffer length ∧ s.bridgeResult env buffer length = .ok (none, false)) ∨
      (s.Bridged buffer length ∧ IPv4.headerLength buffer ≤ length ∧
        ∃ f, s.bridgeResult env buffer length = .ok (some f, env.node f == .resultOk)) ∨
      (s.Bridged buffer length ∧ length < IPv4.headerLength buffer ∧
        s.bridgeResult env buffer length = .error .arrayIndexOutOfBounds) := by
  cases h : s.tetherL3Bridge with
  | none => exact Or.inl ⟨by simp [Bridged, h], by simp [bridgeResult, h]⟩
  | some bridge => simpa [Bridged, bridgeResult, h] using bridge.processOutbound_cases env.node hlen

/-- The packet goes on if there is a local address to send from. -/
theorem trackAndLoad_cases (env : Environment) (s : TunTapAdapter)
    (hlen : length ≤ buffer.length) (hbuf : s.buffer.length = buffer.length) :
    ∃ s', s.KeepsLookup s' ∧ (s.loaded env).Sends [] s' ∧
      (((trackAndLoad env buffer length).run s = .ok none s' ∧ s.localV4 env = none) ∨
        ∃ localV4 buffer',
          (trackAndLoad env buffer length).run s = .ok (some (localV4, buffer')) s' ∧
            s.localV4 env = some localV4 ∧ s'.cachedCidr = s.cidr env ∧ s'.ConfigCached ∧
            NatEngine.SameButTtl buffer buffer') := by
  obtain ⟨t, buffer', hnat, hkeep, hsends, hlocal, hcidr, hsame⟩ : ∃ t buffer',
      (natOutbound env buffer length).run s = .ok buffer' t ∧ s.KeepsLookup t ∧ s.Sends [] t ∧
        t.localV4 env = s.localV4 env ∧ t.cidr env = s.cidr env ∧
        NatEngine.SameButTtl buffer buffer' := by
    rcases natOutbound_cases env s hlen with h | ⟨engine, buffer', h, hsame⟩
    · exact ⟨s, buffer, h, .refl s, .refl s, rfl, rfl, Or.inl rfl⟩
    · refine ⟨_, buffer', h, ⟨rfl, rfl, rfl, rfl, rfl, rfl, ?_, ?_⟩, ?_, rfl, rfl, hsame⟩
      · exact hsame.length.trans hbuf.symm
      · exact fun hc => ⟨hc.config, hc.network, hc.address⟩
      · exact ⟨rfl, rfl, rfl, rfl, rfl, (List.append_nil _).symm⟩
  -- from here on the packet is `buffer'` and the state is `t`
  have hgo : ∀ t', (loadConfig env).run t = .ok true t' →
      (trackAndLoad env buffer length).run s = .ok (t'.cachedLocalV4.map (·, buffer')) t' := by
    intro t' hload
    simp [trackAndLoad, hnat, hload, -bind_pure_comp]
  have hloaded := hsends.loaded env
  rcases loadConfig_cases env t with ⟨hload, ht, hnone⟩ | ⟨hload, ht, hv4, hcidr', hc, hid⟩ |
    ⟨config, hload, ht, hv4, hcidr'⟩ <;> rw [ht] at hloaded
  · exact ⟨t, hkeep, hloaded, Or.inl ⟨by simp [trackAndLoad, hnat, hload], hlocal ▸ hnone⟩⟩
  · refine ⟨t, hkeep, hloaded, ?_⟩
    cases hv : t.cachedLocalV4 with
    | none => exact Or.inl ⟨by rw [hgo t hload, hv]; rfl, by rw [← hlocal, hv4, hv]⟩
    | some a =>
      exact Or.inr ⟨a, buffer', by rw [hgo t hload, hv]; rfl, by rw [← hlocal, hv4, hv],
        hcidr'.symm.trans hcidr, ⟨hc, hid, by simp [hv]⟩, hsame⟩
  · refine ⟨_, hkeep.trans (keepsLookup_cacheConfig t config), hloaded, ?_⟩
    cases hv : (t.cacheConfig config).cachedLocalV4 with
    | none => exact Or.inl ⟨by rw [hgo _ hload, hv]; rfl, by rw [← hlocal, hv4, hv]⟩
    | some a =>
      exact Or.inr ⟨a, buffer', by rw [hgo _ hload, hv]; rfl, by rw [← hlocal, hv4, hv],
        hcidr'.symm.trans hcidr, ⟨rfl, rfl, by simp [hv]⟩, hsame⟩

/-- A packet the bridge does not take is tracked; one it cannot checksum throws. -/
theorem prepareIPv4_run (env : Environment) (s : TunTapAdapter) (buffer : Bytes) (length : ℕ) :
    (prepareIPv4 env buffer length).run s =
      match s.bridgeResult env buffer length with
      | .ok (frame, true) => .ok none (s.emit frame.toList)
      | .ok (frame, false) => (trackAndLoad env buffer length).run (s.emit frame.toList)
      | .error e => .error e s := by
  rw [prepareIPv4, EStateM.run_bind, bridgeOutbound_run]
  rcases s.bridgeResult env buffer length with e | ⟨frame, _ | _⟩ <;> simp

theorem prepareIPv4_of_not_bridged (env : Environment) (hlen : length ≤ buffer.length)
    (h : ¬ s.Bridged buffer length) :
    (prepareIPv4 env buffer length).run s = (trackAndLoad env buffer length).run s := by
  rcases bridgeResult_cases env s hlen with ⟨-, hres⟩ | ⟨hb, -⟩ | ⟨hb, -⟩
  · rw [prepareIPv4_run, hres]
    exact congrArg (trackAndLoad env buffer length).run (emit_nil s)
  · exact absurd hb h
  · exact absurd hb h

theorem sentBy_ipv4 {f : Frame} (h : f.etherType = ipv4Packet) (address : InetAddress) :
    SentBy f f.srcMac address := by
  have harp : f.etherType ≠ arpPacket := by
    rw [h]
    decide
  exact ⟨rfl, fun h => absurd h harp, fun h => absurd h harp⟩

theorem sentBy_request {mac : Mac} {address destIP : InetAddress} {request : Bytes}
    (h : ARPTable.getRequestPacket mac address destIP = .ok request) (networkId : BitVec 64) :
    SentBy ⟨networkId, mac, broadcastMacAddress, arpPacket, 0, request⟩ mac address :=
  ⟨rfl, fun _ => (ARPTable.getARPPacket_sender h).1, fun _ => (ARPTable.getARPPacket_sender h).2⟩

theorem sendIPv4_cases (s : TunTapAdapter) (localMac : Mac) (localV4 : InetAddress)
    (isMulticast : Bool) (packetData : Bytes) (destIP : InetAddress) :
    ∃ s' f, (sendIPv4 env localMac localV4 isMulticast packetData destIP).run s = .ok () s' ∧
      s.KeepsLookup s' ∧ s.Sends [f] s' ∧ SentBy f localMac localV4 := by
  obtain ⟨request, hrequest⟩ := ARPTable.getRequestPacket_eq_ok localMac localV4 destIP
  unfold sendIPv4 sendIPv4Until
  rw [atOnce_bind, Handler.run_get_bind]
  split_ifs with hknown hmulti
  · exact ⟨_, _, rfl, keepsLookup_emit .., sends_emit .., sentBy_ipv4 rfl _⟩
  · refine ⟨_, _, rfl, ?_, ⟨rfl, rfl, rfl, rfl, rfl, rfl⟩, sentBy_ipv4 rfl _⟩
    exact (keepsLookup_getMacForAddress s env.now destIP).trans (keepsLookup_emit ..)
  · refine ⟨_, ⟨s.networkId, localMac, broadcastMacAddress, arpPacket, 0, request⟩, ?_,
      keepsLookup_emit .., sends_emit .., sentBy_request hrequest ..⟩
    rw [hrequest]
    rfl

/-- The multicast path throws where the addresses cannot be read, and nowhere else. -/
theorem handleIPv4PacketData_cases (env : Environment) (s : TunTapAdapter) (packetData : Bytes) :
    (∃ e, (handleIPv4PacketData env packetData).run s = .error e s ∧
        (IPPacketUtils.getDestIP packetData = .error e ∨
          IPPacketUtils.getSourceIP packetData = .error e)) ∨
      ∃ s' frames, (handleIPv4PacketData env packetData).run s = .ok () s' ∧ s.KeepsLookup s' ∧
        s.Sends frames s' ∧ ∀ f ∈ frames, SentUnder f env.config := by
  unfold handleIPv4PacketData handleIPv4PacketDataUntil
  cases IPPacketUtils.getDestIP packetData with
  | error e => exact Or.inl ⟨e, rfl, Or.inl rfl⟩
  | ok destIP =>
    cases IPPacketUtils.getSourceIP packetData with
    | error e => exact Or.inl ⟨e, rfl, Or.inr rfl⟩
    | ok sourceIP =>
      right
      rw [atOnce_bind, run_call_bind, atOnce_bind, run_call_bind]
      split
      · rename_i config destIP sourceIP hconfig
        obtain ⟨macs, hsub⟩ := subscribeTo_run s (isIPv4Multicast destIP) destIP
        rw [atOnce_bind, Handler.run_bind_ok hsub, atOnce_bind, Handler.run_get_bind]
        dsimp only
        split
        · exact ⟨_, [], rfl, keepsLookup_subscribe .., sends_subscribe .., by simp⟩
        · rename_i localV4 hv4
          obtain ⟨s', f, hrun, hkeep, hsends, hsent⟩ :=
            sendIPv4_cases _ config.mac localV4.address _ packetData _
          refine ⟨s', [f], hrun, (keepsLookup_subscribe ..).trans hkeep,
            (sends_subscribe ..).trans hsends, ?_⟩
          simpa using ⟨config, localV4, hconfig, hv4, hsent⟩
      · exact ⟨s, [], rfl, .refl s, .refl s, by simp⟩

theorem sendCached_run (s : TunTapAdapter) (buffer : Bytes) (length : ℕ) :
    (sendCached buffer length).run s = .ok () { s.emit [⟨s.networkId, s.cachedLocalMac,
      s.cachedDestMac, ipv4Packet, 0, buffer.copyOf length⟩] with txCount := s.txCount + 1 } :=
  rfl

/-- A resolved hop is cached, whatever the address of the packet is. -/
theorem resolveAndSend_known {hop : InetAddress} {mac : Mac}
    (h : s.arpTable.inetAddressToMacAddress.lookup hop = some mac) (localV4 : InetAddress)
    (raw : BitVec 32) :
    (resolveAndSend env localV4 buffer length raw hop).run s =
      .ok () (emit { s with
        arpTable := (s.arpTable.getMacForAddress env.now hop).2
        cachedDestIpRaw := raw
        cachedDestMac := mac
        cachedDestValid := true }
        [⟨s.networkId, s.cachedLocalMac, mac, ipv4Packet, 0, buffer.copyOf length⟩]) := by
  have hmac : (s.arpTable.getMacForAddress env.now hop).1 = mac := by
    simp [NeighborTable.getMacForAddress, h]
  have hknown : s.arpTable.hasMacForAddress hop = true := by
    simp [NeighborTable.hasMacForAddress, h]
  unfold resolveAndSend resolveUntil
  rw [atOnce_bind, Handler.run_get_bind, if_pos hknown, ← hmac]
  rfl

theorem resolveAndSend_unknown {hop : InetAddress}
    (h : s.arpTable.inetAddressToMacAddress.lookup hop = none) (localV4 : InetAddress)
    (raw : BitVec 32) :
    ∃ request, ARPTable.getRequestPacket s.cachedLocalMac localV4 hop = .ok request ∧
      (resolveAndSend env localV4 buffer length raw hop).run s =
      .ok () (s.emit
        [⟨s.networkId, s.cachedLocalMac, broadcastMacAddress, arpPacket, 0, request⟩]) := by
  obtain ⟨request, hrequest⟩ := ARPTable.getRequestPacket_eq_ok s.cachedLocalMac localV4 hop
  have hunknown : ¬ s.arpTable.hasMacForAddress hop = true := by
    simp [NeighborTable.hasMacForAddress, h]
  refine ⟨request, hrequest, ?_⟩
  unfold resolveAndSend resolveUntil
  rw [atOnce_bind, Handler.run_get_bind, if_neg hunknown, atOnce_none, handleIPv4PacketArp,
    Handler.run_get_bind, hrequest]
  rfl

theorem cacheMissUntil_run (s : TunTapAdapter) {destIP sourceIP : InetAddress}
    (h : 20 ≤ buffer.length)
    (hdest : InetAddress.getByAddress (buffer.slice 16 4) = some destIP)
    (hsource : InetAddress.getByAddress (buffer.slice 12 4) = some sourceIP)
    (localV4 : InetAddress) (raw : BitVec 32) :
    (atOnce env (cacheMissUntil localV4 buffer length raw)).run s =
      match s.hopTo destIP sourceIP with
      | none => .ok () s
      | some hop => (resolveAndSend env localV4 buffer length raw hop).run s := by
  unfold cacheMissUntil
  rw [atOnce_bind, Bytes.arraycopy_new (by omega), run_call_bind]
  rw [hdest]
  dsimp only
  rw [atOnce_bind, Handler.run_get_bind]
  cases hroute : routeForDestination s.routeOrder s.routeMap destIP with
  | none => rw [hopTo, hroute]; rfl
  | some route =>
    dsimp only
    cases hg : route.gateway with
    | none => rw [hopTo, hroute, Option.map_some, hg]; rfl
    | some gateway =>
      dsimp only
      rw [atOnce_bind, Bytes.arraycopy_new (by omega), run_call_bind]
      rw [hsource]
      dsimp only
      rw [hopTo, hroute, Option.map_some, hg]
      rfl

/-- What happens to a packet after the config is loaded. -/
theorem forwardIPv4_run (s : TunTapAdapter) (h : 20 ≤ buffer.length) (localV4 : InetAddress) :
    (forwardIPv4 env localV4 buffer length).run s =
      if buffer.getD 16 0 &&& 0xf0 = 0xe0 then
        (handleIPv4PacketData env (buffer.copyOf length)).run s
      else if s.cachedDestValid = true ∧ rawAt buffer 16 = s.cachedDestIpRaw then
        (sendCached buffer length).run s
      else match s.hopFor buffer with
        | none => .ok () s
        | some hop => (resolveAndSend env localV4 buffer length (rawAt buffer 16) hop).run s := by
  have hdest := InetAddress.getByAddress_four
    (Bytes.length_slice (show 16 + 4 ≤ buffer.length by omega))
  have hsource := InetAddress.getByAddress_four
    (Bytes.length_slice (show 12 + 4 ≤ buffer.length by omega))
  have hint : buffer.getInt 16 = .ok (rawAt buffer 16) := Bytes.getInt_eq_ok (by omega)
  unfold forwardIPv4 forwardIPv4Until
  rw [atOnce_bind, Bytes.read_eq_ok (by omega), run_call_bind]
  split_ifs with hmulti hhit
  · rfl
  all_goals
    rw [atOnce_bind, hint, run_call_bind, atOnce_bind, Handler.run_get_bind]
  · rw [if_pos (by simpa using hhit), atOnce_none]
  · rw [if_neg (by simpa using hhit), cacheMissUntil_run s h hdest hsource]
    rfl

end Stages

end TunTapAdapter

end XnetZt
