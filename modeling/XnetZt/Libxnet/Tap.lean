import XnetZt.Lib.Run
import XnetZt.Net.IPPacket

/-!
# The tap registry of libxnet

`xnet_service.c` keeps one tap for each joined network in the array `g_taps`, and
`xnet_tap.c` embeds the lwIP `struct netif` of a network in its tap. lwIP itself keeps
the addresses of the netifs it was given, so a tap must not move while its netif is
registered. The model has the array with its embedded netifs and, beside it, what
lwIP has registered: for each slot whose netif it holds, the network it was added for.
Adding and removing a netif always returns here. The list that lwIP walks for it, and the
calls that never return, are in `NetifList` and `TapStack`.
-/

namespace XnetZt.Libxnet

def maxTaps : ℕ := 4

def maxTapAddrs : ℕ := 4

/-- An element of `g_taps`, and also a pointer to it. -/
abbrev Slot := Fin maxTaps

/-- The events of `xnet.h` that the modelled code reports. -/
inductive XnetEvent
  | nodeOnline
  | nodeOffline
  | networkOk
  | networkDenied
  | networkNotFound
  | networkDown
  | networkReadyIp4
  | addrAddedIp4
  | addrAddedIp6
  | stackUp
  | stackDown
  deriving DecidableEq

/-- The fields of lwIP's `struct netif` that libxnet sets or reads. -/
structure Netif where
  state : Option Slot
  ipAddr : BitVec 32
  hwaddr : Bytes
  mtu : ℕ
  ip6Addrs : List (BitVec 128)

structure XnetTap where
  nwid : BitVec 64
  mac : BitVec 64
  mtu : ℕ
  hasIp4 : Bool
  hasIp6 : Bool
  ip4Addr : BitVec 32
  ip6Addr : BitVec 128
  netif : Netif
  netifUp : Bool

/-- `memset(tap, 0, sizeof(*tap))` -/
def XnetTap.zero : XnetTap := ⟨0, 0, 0, false, false, 0, 0, ⟨none, 0, [], 0, []⟩, false⟩

structure Registry where
  gTaps : Slot → XnetTap
  gTapCount : ℕ
  /-- The netifs lwIP holds, each with the network it was added for. -/
  netifList : Slot → Option (BitVec 64)
  /-- A registered netif was overwritten by `memset` or by a struct copy. -/
  overwritten : Bool
  /-- The calls of `g_callback`, which is set before the service thread starts. -/
  emitted : List XnetEvent
  gTapCount_le : gTapCount ≤ maxTaps

namespace Registry

def empty : Registry := ⟨fun _ => .zero, 0, fun _ => none, false, [], by decide⟩

def emit (r : Registry) (e : XnetEvent) : Registry := { r with emitted := r.emitted ++ [e] }

/-- An assignment to fields of the tap in a slot. -/
def modify (r : Registry) (i : Slot) (f : XnetTap → XnetTap) : Registry :=
  { r with gTaps := Function.update r.gTaps i (f (r.gTaps i)) }

/-- A write to the whole slot, the embedded netif included. -/
def overwrite (r : Registry) (i : Slot) (tap : XnetTap) : Registry :=
  { r with
    gTaps := Function.update r.gTaps i tap
    overwritten := r.overwritten || (r.netifList i).isSome }

def tapFind (r : Registry) (nwid : BitVec 64) : Option Slot :=
  (List.finRange maxTaps).find? fun i => decide (i.val < r.gTapCount) && (r.gTaps i).nwid == nwid

/-! ### `xnet_tap.c` -/

def macToBytes (mac : BitVec 64) : Bytes := BigEndian.ofNat 6 mac.toNat

def bytesToMac (b : Bytes) : BitVec 64 := BitVec.ofNat 64 (BigEndian.toNat b)

inductive ErrT
  | errOk
  | errIf
  | errBuf
  deriving DecidableEq

/-- What lwIP's output of a frame on the netif in slot `i` injects into the node. -/
def netifLinkoutput (r : Registry) (gNode : Bool) (i : Slot) (p : Bytes) : ErrT × Option Frame :=
  match (r.gTaps i).netif.state with
  | none => (.errIf, none)
  | some tap =>
    if !gNode then (.errIf, none)
    else if p.length > 2048 ∨ p.length < 14 then (.errBuf, none)
    else
      (.errOk, some
        { networkId := (r.gTaps tap).nwid
          srcMac := bytesToMac (p.slice 6 6)
          destMac := bytesToMac (p.slice 0 6)
          etherType := BigEndian.word16 p 12
          frameData := p.drop 14 })

/-- `netif_init_cb` on a netif whose `state` is `tap`; the MTU field has 16 bits. -/
def netifInitCb (tap : XnetTap) (nif : Netif) : Netif :=
  { nif with
    hwaddr := macToBytes tap.mac
    mtu := (if tap.mtu ≠ 0 then tap.mtu else 1400) % 2 ^ 16 }

/-- `netif_add(&tap->netif, &ip, &mask, &gw, tap, netif_init_cb, tcpip_input)`, as the
registration of a slot. -/
def netifAdd (r : Registry) (i : Slot) : Registry :=
  { r.modify i (fun tap =>
      { tap with netif := netifInitCb tap ⟨some i, tap.ip4Addr, [], 0, []⟩ }) with
    netifList := Function.update r.netifList i (some (r.gTaps i).nwid) }

def netifRemove (r : Registry) (i : Slot) : Registry :=
  { r with netifList := Function.update r.netifList i none }

inductive Family
  | inet
  | inet6
  deriving DecidableEq

def setupIp4 (r : Registry) (i : Slot) (family : Family) : Registry :=
  if family = .inet ∧ (r.gTaps i).hasIp4 = true then
    (r.netifAdd i).modify i fun tap => { tap with netifUp := true }
  else r

def setupIp6 (r : Registry) (i : Slot) (family : Family) : Registry :=
  if family = .inet6 ∧ (r.gTaps i).hasIp6 = true ∧ (r.gTaps i).netifUp = true then
    r.modify i fun tap =>
      { tap with netif := { tap.netif with ip6Addrs := tap.netif.ip6Addrs ++ [tap.ip6Addr] } }
  else r

/-- The IPv6 branch asks for a netif that is up, which the first line excludes. -/
def xnetTapSetupNetif (r : Registry) (i : Slot) (family : Family) : Registry :=
  if (r.gTaps i).netifUp then r else (r.setupIp4 i family).setupIp6 i family

def xnetTapTeardown (r : Registry) (i : Slot) : Registry :=
  if !(r.gTaps i).netifUp then r
  else (r.netifRemove i).modify i fun tap =>
    { tap with netifUp := false, hasIp4 := false, hasIp6 := false }

/-! ### `cb_vnet_config` -/

inductive SockAddr
  | inet (sAddr : BitVec 32)
  | inet6 (sin6Addr : BitVec 128)
  | other
  deriving DecidableEq

inductive NetworkStatus
  | ok
  | accessDenied
  | notFound
  | other
  deriving DecidableEq

structure VirtualNetworkConfig where
  mac : BitVec 64
  mtu : ℕ
  assignedAddresses : List SockAddr
  status : NetworkStatus

inductive ConfigOperation
  | up
  | configUpdate
  | down
  | destroy
  deriving DecidableEq

/-- One round of the loop over the assigned addresses. -/
def assignAddress (i : Slot) (r : Registry) (sa : SockAddr) : Registry :=
  match sa with
  | .inet sAddr =>
    if (r.gTaps i).hasIp4 then r
    else
      (((r.modify i fun tap => { tap with ip4Addr := sAddr, hasIp4 := true }).xnetTapSetupNetif i
        .inet).emit .addrAddedIp4).emit .networkReadyIp4
  | .inet6 sin6Addr =>
    if (r.gTaps i).hasIp6 then r
    else
      ((r.modify i fun tap => { tap with ip6Addr := sin6Addr, hasIp6 := true }).xnetTapSetupNetif i
        .inet6).emit .addrAddedIp6
  | .other => r

def emitStatus (r : Registry) : NetworkStatus → Registry
  | .ok => r.emit .networkOk
  | .accessDenied => r.emit .networkDenied
  | .notFound => r.emit .networkNotFound
  | .other => r

/-- The tap of a network; a new slot is taken while there is one. -/
def findOrAdd (r : Registry) (nwid : BitVec 64) : Registry × Option Slot :=
  match r.tapFind nwid with
  | some i => (r, some i)
  | none =>
    if h : r.gTapCount < maxTaps then
      let i : Slot := ⟨r.gTapCount, h⟩
      let r := r.overwrite i { XnetTap.zero with nwid := nwid }
      ({ r with gTapCount := r.gTapCount + 1, gTapCount_le := h }, some i)
    else (r, none)

def applyConfig (r : Registry) (i : Slot) (cfg : VirtualNetworkConfig) : Registry :=
  let r := r.modify i fun tap => { tap with mac := cfg.mac, mtu := cfg.mtu }
  let r := (cfg.assignedAddresses.take maxTapAddrs).foldl (assignAddress i) r
  r.emitStatus cfg.status

/-- `&g_taps[g_tap_count - 1]` -/
def lastSlot (r : Registry) : Slot :=
  ⟨r.gTapCount - 1, by have := r.gTapCount_le; unfold maxTaps at *; omega⟩

/-- `if (idx < g_tap_count - 1) g_taps[idx] = g_taps[g_tap_count - 1]` -/
def moveLast (r : Registry) (idx : Slot) : Registry :=
  if idx.val < r.gTapCount - 1 then r.overwrite idx (r.gTaps r.lastSlot) else r

def dropLast (r : Registry) : Registry :=
  { r with gTapCount := r.gTapCount - 1, gTapCount_le := (Nat.sub_le _ _).trans r.gTapCount_le }

def removeTap (r : Registry) (idx : Slot) : Registry :=
  ((r.xnetTapTeardown idx).moveLast idx).dropLast

/-- The cases `UP` and `CONFIG_UPDATE`. -/
def configureNetwork (r : Registry) (nwid : BitVec 64) (cfg : Option VirtualNetworkConfig) :
    Registry :=
  match (r.findOrAdd nwid).2, cfg with
  | some i, some cfg => (r.findOrAdd nwid).1.applyConfig i cfg
  | _, _ => (r.findOrAdd nwid).1

/-- The cases `DOWN` and `DESTROY`. -/
def removeNetwork (r : Registry) (nwid : BitVec 64) : Registry :=
  match r.tapFind nwid with
  | some idx => (r.removeTap idx).emit .networkDown
  | none => r

def cbVnetConfig (r : Registry) (nwid : BitVec 64) (op : ConfigOperation)
    (cfg : Option VirtualNetworkConfig) : Registry :=
  match op with
  | .up => r.configureNetwork nwid cfg
  | .configUpdate => r.configureNetwork nwid cfg
  | .down => r.removeNetwork nwid
  | .destroy => r.removeNetwork nwid

/-- One call of `cb_vnet_config`. -/
structure Event where
  nwid : BitVec 64
  op : ConfigOperation
  cfg : Option VirtualNetworkConfig

def step (r : Registry) (e : Event) : Registry := r.cbVnetConfig e.nwid e.op e.cfg

end Registry

end XnetZt.Libxnet
