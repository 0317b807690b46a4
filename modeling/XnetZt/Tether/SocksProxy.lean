import XnetZt.Lib.SocketSession
import XnetZt.Lib.Text
import XnetZt.Net.Socks

/-!
# The SOCKS proxy

`handleClient` negotiates a method, checks the credentials if there are any, and carries
out the request of the client. All of it is one session: an exception anywhere ends it with
the client's connection closed, and nothing more is written.
-/

namespace XnetZt

open SocketSession

/-- What the proxy asks other components for. -/
inductive SocksCall
  | connectUpstream (address : InetAddress) (port : ℕ)
  | createUpstreamDatagramSocket
  | relay
  | relayDatagrams
  deriving DecidableEq

/-- A call that reaches the upstream network. -/
def SocksCall.IsUpstream : SocksCall → Prop
  | connectUpstream _ _ => True
  | createUpstreamDatagramSocket => True
  | relay => False
  | relayDatagrams => False

/-- The proxy with what it depends on outside of the program: the default charset, the
resolver, and the sockets it gets, by their local address and port. `none` stands for an
exception, and for `null` in the credentials. -/
structure SocksProxy where
  decode : Bytes → Text
  authUser : Option Text
  authPass : Option Text
  getByName : Text → Option InetAddress
  connectUpstream : InetAddress → ℕ → Option (InetAddress × ℕ)
  createUpstreamDatagramSocket : Option Unit
  bindDatagramSocket : Option (InetAddress × ℕ)

namespace SocksProxy

abbrev SocksM := SocketM SocksCall

def sendReply (status : Byte) : SocksM Unit := write [5, status, 0, 1, 0, 0, 0, 0, 0, 0]

/-- The reply of success. Four bytes are copied from the address of either family. -/
def boundReply (boundAddr : Bytes) (boundPort : ℕ) : Except JavaException Bytes := do
  let reply ← Bytes.arraycopy boundAddr 0 ([5, 0, 0, 1] ++ Bytes.zeros 6) 4 4
  let reply ← reply.write 8 (BitVec.ofNat 8 (boundPort / 256))
  reply.write 9 (BitVec.ofNat 8 boundPort)

section Handle

variable (p : SocksProxy)

/-- `authUser.equals(..) && authPass.equals(..)` -/
def accepts (user pass : Bytes) : SocksM Bool := do
  let authUser ← outcome .nullPointer p.authUser
  if authUser ≠ p.decode user then return false
  let authPass ← outcome .nullPointer p.authPass
  return authPass = p.decode pass

def authenticateClient : SocksM Bool := do
  let _authVer ← read
  let user ← readCounted
  let pass ← readCounted
  let ok ← p.accepts user pass
  write [1, if ok then 0 else 1]
  return ok

/-- The bytes of the address; `none` for an unknown type. -/
def readAddressBytes : SocksM (Option Bytes) := do
  let atype ← read
  if atype = some 1 then return some (← readFully 4)
  else if atype = some 3 then
    let domain ← readCounted
    let address ← outcome .unknownHost (p.getByName (p.decode domain))
    return some address.getAddress
  else if atype = some 4 then return some (← readFully 16)
  else return none

/-- A port byte that is missing counts as `0xff`. -/
def readAddress : SocksM (Option (InetAddress × ℕ)) := do
  match ← p.readAddressBytes with
  | none => return none
  | some addr =>
    let hi ← read
    let lo ← read
    let port := 256 * (hi.getD 0xff).toNat + (lo.getD 0xff).toNat
    let address ← outcome .unknownHost (InetAddress.getByAddress addr)
    return some (address, port)

def handleConnect : SocksM Unit := do
  match ← p.readAddress with
  | none =>
    sendReply 4
    close
  | some (address, port) =>
    call (.connectUpstream address port)
    let (boundAddr, boundPort) ← outcome .io (p.connectUpstream address port)
    let reply ← compute (boundReply boundAddr.getAddress boundPort)
    write reply
    call .relay
    close

def handleUdpAssociate : SocksM Unit := do
  let _ ← p.readAddress
  call .createUpstreamDatagramSocket
  outcome .io p.createUpstreamDatagramSocket
  let (boundAddr, boundPort) ← outcome .io p.bindDatagramSocket
  let reply ← compute (boundReply boundAddr.getAddress boundPort)
  write reply
  call .relayDatagrams
  drain
  close

/-- `handleClient` from the request on. -/
def handleRequest : SocksM Unit := do
  let _cmdVer ← read
  let cmd ← read
  let _reserved ← read
  if cmd = some 1 then p.handleConnect
  else if cmd = some 3 then p.handleUdpAssociate
  else
    sendReply 7
    close

/-- The body of the `try` in `handleClient`. -/
def negotiate : SocksM Unit := do
  let ver ← read
  if ver ≠ some 5 then close
  else
    let _methods ← readCounted
    if p.authUser.isSome then
      write [5, 2]
      if ← p.authenticateClient then p.handleRequest else close
    else
      write [5, 0]
      p.handleRequest

def handleClient : SocksM Unit := tryCatch p.negotiate fun _ => close

/-- The session with a client that sends the chunks. -/
def serve (chunks : List Bytes) (fails : Bool) : SocketSession SocksCall :=
  Handler.after p.handleClient (start chunks fails)

end Handle

/-! ### Properties of the whole proxy -/

section Compositional

variable {φ : SocketAction SocksCall → Prop} {G : ∀ α : Type, SocksM α → Prop} (p : SocksProxy)
  (h : Compositional φ G)

include h

theorem compositional_readAddressBytes : G _ p.readAddressBytes := by
  have hraw : ∀ n, G _ (do return some (← readFully n) : SocksM (Option Bytes)) := by
    intro n
    apply h.bind (h.readFully n)
    intro bytes
    exact h.pure _
  apply h.bind h.read
  intro atype
  apply h.ite (hraw 4)
  apply h.ite
  · apply h.bind h.readCounted
    intro domain
    apply h.bind (h.outcome _ _)
    intro address
    exact h.pure _
  · exact h.ite (hraw 16) (h.pure _)

theorem compositional_readAddress : G _ p.readAddress := by
  apply h.bind (p.compositional_readAddressBytes h)
  intro addr
  cases addr with
  | none => exact h.pure _
  | some addr =>
    apply h.bind h.read
    intro hi
    apply h.bind h.read
    intro lo
    apply h.bind (h.outcome _ _)
    intro address
    exact h.pure _

theorem compositional_accepts (user pass : Bytes) : G _ (p.accepts user pass) := by
  apply h.bind (h.outcome _ _)
  intro authUser
  apply h.ite (h.pure _)
  apply h.bind (h.outcome _ _)
  intro authPass
  exact h.pure _

theorem compositional_authenticateClient (hwrote : ∀ bytes, φ (.wrote bytes)) :
    G _ p.authenticateClient := by
  apply h.bind h.read
  intro _
  apply h.bind h.readCounted
  intro user
  apply h.bind h.readCounted
  intro pass
  apply h.bind (p.compositional_accepts h user pass)
  intro ok
  apply h.bind (h.act _ (hwrote _))
  intro _
  exact h.pure ok

variable (hφ : ∀ a, φ a)

include hφ

theorem compositional_handleConnect : G _ p.handleConnect := by
  apply h.bind (p.compositional_readAddress h)
  intro dest
  cases dest with
  | none =>
    apply h.bind (h.act _ (hφ _))
    intro _
    exact h.act _ (hφ _)
  | some dest =>
    apply h.bind (h.act _ (hφ _))
    intro _
    apply h.bind (h.outcome _ _)
    intro bound
    apply h.bind (h.compute _)
    intro reply
    apply h.bind (h.act _ (hφ _))
    intro _
    apply h.bind (h.act _ (hφ _))
    intro _
    exact h.act _ (hφ _)

theorem compositional_handleUdpAssociate : G _ p.handleUdpAssociate := by
  apply h.bind (p.compositional_readAddress h)
  intro _
  apply h.bind (h.act _ (hφ _))
  intro _
  apply h.bind (h.outcome _ _)
  intro _
  apply h.bind (h.outcome _ _)
  intro bound
  apply h.bind (h.compute _)
  intro reply
  apply h.bind (h.act _ (hφ _))
  intro _
  apply h.bind (h.act _ (hφ _))
  intro _
  apply h.bind h.drain
  intro _
  exact h.act _ (hφ _)

theorem compositional_handleRequest : G _ p.handleRequest := by
  apply h.bind h.read
  intro _
  apply h.bind h.read
  intro cmd
  apply h.bind h.read
  intro _
  apply h.ite (p.compositional_handleConnect h hφ)
  apply h.ite (p.compositional_handleUdpAssociate h hφ)
  apply h.bind (h.act _ (hφ _))
  intro _
  exact h.act _ (hφ _)

theorem compositional_negotiate : G _ p.negotiate := by
  apply h.bind h.read
  intro ver
  apply h.ite (h.act _ (hφ _))
  apply h.bind h.readCounted
  intro methods
  apply h.ite
  · apply h.bind (h.act _ (hφ _))
    intro _
    apply h.bind (p.compositional_authenticateClient h fun _ => hφ _)
    intro ok
    exact h.ite (p.compositional_handleRequest h hφ) (h.act _ (hφ _))
  · apply h.bind (h.act _ (hφ _))
    intro _
    exact p.compositional_handleRequest h hφ

end Compositional

section Serve

variable (p : SocksProxy)

/-- Every chunking of a stream gives the same session. -/
theorem sameStream_serve (chunks : List Bytes) (fails : Bool) :
    SameStream (p.serve chunks fails) (p.serve [chunks.flatten] fails) := by
  have hnegotiate := p.compositional_negotiate compositional_ignoresChunks fun _ => trivial
  have hclose := compositional_ignoresChunks.act (.closed : SocketAction SocksCall) trivial
  exact IgnoresChunks.after_start (Handler.relates_tryCatch hnegotiate fun _ => hclose) chunks fails

theorem closing_handleConnect : Closing p.handleConnect := by
  apply closing_bind
  intro dest
  cases dest with
  | none => exact closing_bind fun _ => closing_close
  | some dest =>
    apply closing_bind
    intro _
    apply closing_bind
    intro bound
    apply closing_bind
    intro reply
    apply closing_bind
    intro _
    exact closing_bind fun _ => closing_close

theorem closing_handleUdpAssociate : Closing p.handleUdpAssociate := by
  repeat
    apply closing_bind
    intro _
  exact closing_close

theorem closing_handleRequest : Closing p.handleRequest := by
  apply closing_bind
  intro _
  apply closing_bind
  intro cmd
  apply closing_bind
  intro _
  apply closing_ite p.closing_handleConnect
  apply closing_ite p.closing_handleUdpAssociate
  exact closing_bind fun _ => closing_close

theorem closing_negotiate : Closing p.negotiate := by
  apply closing_bind
  intro ver
  apply closing_ite closing_close
  apply closing_bind
  intro methods
  apply closing_ite
  · apply closing_bind
    intro _
    apply closing_bind
    intro ok
    exact closing_ite p.closing_handleRequest closing_close
  · exact closing_bind fun _ => p.closing_handleRequest

/-- Every session ends with the connection closed. -/
theorem serve_closed (chunks : List Bytes) (fails : Bool) :
    (p.serve chunks fails).actions.getLast? = some .closed :=
  p.closing_negotiate.after_tryCatch _

end Serve

end SocksProxy

end XnetZt
