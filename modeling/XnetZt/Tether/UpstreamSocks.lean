import XnetZt.Tether.SocksRequest

/-!
# Connecting through a SOCKS proxy

`connectViaSocks5` is a client of the protocol: it greets without credentials, asks for a
connection and skips the bound address of the reply. After that its socket is the tunnel.
Against the proxy of this program it gets the connection that it asks for. How much of the
reply it skips is up to `InputStream.skip`, which may skip less than it is asked for.
-/

namespace XnetZt

open SocketSession Handler BigEndian

/-- The address in a request for a host. -/
def Socks.Address.ofInetAddress : InetAddress → Socks.Address
  | .inet4 raw => .ipv4 raw
  | .inet6 raw _ => .ipv6 raw

/-- What follows the type of the address in a message, with the port. -/
def Socks.Address.tailLength : Socks.Address → ℕ
  | ipv4 _ => 4 + 2
  | domain name _ => name.length + 2
  | ipv6 _ => 16 + 2

namespace TetherBridge

/-- The `CONNECT` request. -/
def connectRequest (host : InetAddress) (port : ℕ) : Except JavaException Bytes := do
  let addr := host.getAddress
  let req := Bytes.zeros (4 + addr.length + 2)
  let req ← req.write 0 5
  let req ← req.write 1 1
  let req ← req.write 2 0
  let req ← req.write 3 (if addr.length = 4 then 1 else 4)
  let req ← Bytes.arraycopy addr 0 req 4 addr.length
  let req ← req.write (req.length - 2) (BitVec.ofNat 8 (port / 256))
  req.write (req.length - 1) (BitVec.ofNat 8 port)

/-- The bound address of the reply, of the type `atype`. A length that is missing counts
as `-1`. -/
def skipBoundAddress (limit : ℕ) (atype : Byte) : SocketM Empty Unit := do
  if atype = 1 then skip limit (4 + 2)
  else if atype = 4 then skip limit (16 + 2)
  else if atype = 3 then
    match ← read with
    | some len => skip limit (len.toNat + 2)
    | none => skip limit 1

/-- The `CONNECT` response. -/
def awaitConnection (limit : ℕ) : SocketM Empty Unit := do
  let connResp ← readFully 4
  if connResp.getD 1 0 ≠ 0 then
    close
    throw .io
  else skipBoundAddress limit (connResp.getD 3 0)

/-- The server response to the greeting, and the request. -/
def awaitMethod (limit : ℕ) (host : InetAddress) (port : ℕ) : SocketM Empty Unit := do
  let resp ← readFully 2
  if resp.getD 0 0 ≠ 5 ∨ resp.getD 1 0 ≠ 0 then
    close
    throw .io
  else
    let req ← compute (connectRequest host port)
    write req
    awaitConnection limit

/-- On a socket that is connected to the proxy. The one call of `skip` skips `limit` bytes at
most. -/
def connectViaSocks5 (limit : ℕ) (host : InetAddress) (port : ℕ) : SocketM Empty Unit := do
  write [5, 1, 0]
  awaitMethod limit host port

/-! ### The request -/

theorem encode_ofInetAddress (host : InetAddress) :
    (Socks.Address.ofInetAddress host).encode =
      (if host.getAddress.length = 4 then 1 else 4) :: host.getAddress := by
  cases host with
  | inet4 raw => simp [Socks.Address.ofInetAddress, Socks.Address.encode, InetAddress.getAddress]
  | inet6 raw h => simp [Socks.Address.ofInetAddress, Socks.Address.encode, InetAddress.getAddress]

/-- The request for the host. -/
def request (host : InetAddress) (port : ℕ) : Socks.Message :=
  ⟨1, .ofInetAddress host, BitVec.ofNat 16 port⟩

theorem connectRequest_eq (host : InetAddress) (port : ℕ) :
    connectRequest host port = .ok (request host port).encode := by
  rw [request, Socks.Message.encode, encode_ofInetAddress, Socks.ofNat_port]
  unfold connectRequest
  generalize host.getAddress = addr
  have hstart : Bytes.zeros (4 + addr.length + 2) =
      [] ++ (Bytes.zeros (4 + addr.length + 2) ++ []) := by
    simp
  have hall : Bytes.slice addr 0 addr.length = addr := Bytes.slice_all rfl
  dsimp only
  rw [hstart, Bytes.write_fill (k := 0) (r := addr.length + 5) 5 (by simp) (by omega), ok_bind,
    Bytes.write_fill (k := 0) (r := addr.length + 4) 1 (by simp) (by omega), ok_bind,
    Bytes.write_fill (k := 0) (r := addr.length + 3) 0 (by simp) (by omega), ok_bind,
    Bytes.write_fill (k := 0) (r := addr.length + 2) _ (by simp) (by omega), ok_bind,
    Bytes.arraycopy_fill (k := 0) (r := 2) (by simp) (by simp) (by omega), ok_bind, hall,
    Bytes.write_fill (k := 0) (r := 1) _ (by simp) (by rfl), ok_bind,
    Bytes.write_fill (k := 0) (r := 0) _ (by simp) (by rfl)]
  simp [Bytes.zeros]

/-- The proxy gets the host back. -/
theorem resolve_ofInetAddress (p : SocksProxy) (host : InetAddress) :
    p.resolve (.ofInetAddress host) = some host := by
  cases host with
  | inet4 raw => rfl
  | inet6 raw h => exact InetAddress.getByAddress_getAddress (.inet6 raw h)

/-! ### Properties of the client -/

section Compositional

variable {φ : SocketAction Empty → Prop} {G : ∀ α : Type, SocketM Empty α → Prop}
  (h : Compositional φ G)

include h

theorem compositional_skipBoundAddress (limit : ℕ) (atype : Byte) :
    G _ (skipBoundAddress limit atype) := by
  apply h.ite (h.skip _ _)
  apply h.ite (h.skip _ _)
  apply h.ite
  · apply h.bind h.read
    intro len
    cases len with
    | some len => exact h.skip _ _
    | none => exact h.skip _ _
  · exact h.pure _

theorem compositional_reject {c : Prop} [Decidable c] {x : SocketM Empty Unit} (hx : G _ x)
    (hclosed : φ .closed) :
    G _ (if c then do close; throw .io else x : SocketM Empty Unit) := by
  apply h.ite
  · apply h.bind (h.act _ hclosed)
    intro _
    exact h.throw _
  · exact hx

theorem compositional_awaitConnection (limit : ℕ) (hclosed : φ .closed) :
    G _ (awaitConnection limit) := by
  apply h.bind (h.readFully _)
  intro connResp
  exact compositional_reject h (compositional_skipBoundAddress h _ _) hclosed

variable (hφ : ∀ a, φ a)

include hφ

theorem compositional_awaitMethod (limit : ℕ) (host : InetAddress) (port : ℕ) :
    G _ (awaitMethod limit host port) := by
  apply h.bind (h.readFully _)
  intro resp
  apply compositional_reject h _ (hφ _)
  apply h.bind (h.compute _)
  intro req
  apply h.bind (h.act _ (hφ _))
  intro _
  exact compositional_awaitConnection h limit (hφ _)

theorem compositional_connectViaSocks5 (limit : ℕ) (host : InetAddress) (port : ℕ) :
    G _ (connectViaSocks5 limit host port) := by
  apply h.bind (h.act _ (hφ _))
  intro _
  exact compositional_awaitMethod h hφ limit host port

end Compositional

/-! ### A client and a proxy -/

section Run

variable (limit : ℕ) (host : InetAddress) (port : ℕ)

/-- A proxy that selects to go without credentials gets the request. -/
theorem run_connectViaSocks5 (stream : Bytes) (fails : Bool) :
    (connectViaSocks5 limit host port).run (flat ([5, 0] ++ stream) fails []) =
      (awaitConnection limit).run
        (flat stream fails [.wrote [5, 1, 0], .wrote (request host port).encode]) := by
  rw [connectViaSocks5, run_bind_ok (run_write _ _ _ _), awaitMethod,
    run_bind_ok (run_readFully _ _ _ (by rfl)), if_neg (by decide),
    run_bind_ok (run_compute (connectRequest_eq host port) _), run_bind_ok (run_write _ _ _ _)]
  rfl

/-- The greeting comes first, whatever the proxy sends. -/
theorem written_greeting (chunks : List Bytes) (fails : Bool) :
    ∃ rest, written (after (connectViaSocks5 limit host port)
      (SocketSession.start chunks fails)).actions = Socks.greeting [0] ++ rest := by
  have hemits := compositional_awaitMethod (compositional_emits fun _ => True) (fun _ => trivial)
    limit host port
  obtain ⟨added, hadded, -⟩ := hemits ⟨⟨chunks, fails⟩, [.wrote [5, 1, 0]]⟩
  refine ⟨written added, ?_⟩
  have hwrite : (write [5, 1, 0]).run (SocketSession.start chunks fails) =
      .ok () (⟨⟨chunks, fails⟩, [.wrote [5, 1, 0]]⟩ : SocketSession Empty) := rfl
  rw [connectViaSocks5, after_bind_ok hwrite, hadded, written_append]
  rfl

/-- If the proxy selects to go without credentials, the greeting and the request are written
and nothing else. -/
theorem written_connectViaSocks5 {chunks : List Bytes} {stream : Bytes}
    (hchunks : chunks.flatten = [5, 0] ++ stream) (fails : Bool) :
    written (after (connectViaSocks5 limit host port) (SocketSession.start chunks fails)).actions =
      Socks.greeting [0] ++ (request host port).encode := by
  have hemits := compositional_awaitConnection (compositional_emits fun a => a.bytes = []) limit rfl
  obtain ⟨added, hadded, hnone⟩ := hemits
    (flat stream fails [.wrote [5, 1, 0], .wrote (request host port).encode])
  have hchunked := compositional_connectViaSocks5 compositional_ignoresChunks (fun _ => trivial)
    limit host port
  rw [(IgnoresChunks.after_start hchunked chunks fails).actions, hchunks, after,
    run_connectViaSocks5, ← after, hadded, written_append, written_eq_nil hnone]
  simp [written, flat, SocketAction.bytes, Socks.greeting, Socks.counted]

end Run

/-- The client and the proxy on the two ends of a connection: each reads what the other one
writes, in whatever chunks, with `payload` and `answer` behind it. The proxy selects to go
without credentials, asks for the connection that the client wants and reads nothing of the
payload. -/
theorem connectViaSocks5_drives {p : SocksProxy} (hauth : p.authUser = none) (limit : ℕ)
    (host : InetAddress) {port : ℕ} (hport : port < 65536) {toClient toProxy : List Bytes}
    {payload answer : Bytes} {fails fails' : Bool}
    (hproxy : toProxy.flatten = written (after (connectViaSocks5 limit host port)
      (SocketSession.start toClient fails)).actions ++ payload)
    (hclient : toClient.flatten = written (p.serve toProxy fails').actions ++ answer) :
    [.wrote [5, 0], .called (.connectUpstream host port)] <+: (p.serve toProxy fails').actions ∧
      (p.serve toProxy fails').input.stream = payload := by
  -- The greeting reaches the proxy first, so its selection reaches the client.
  have hselects : ∃ rest, toClient.flatten = [5, 0] ++ rest := by
    obtain ⟨rest, hgreeting⟩ := written_greeting limit host port toClient fails
    have hstream : toProxy.flatten = Socks.greeting [0] ++ (rest ++ payload) := by
      rw [hproxy, hgreeting, List.append_assoc]
    have hhead := p.head_serve (by decide) hstream fails'
    obtain ⟨tail, htail⟩ := List.head?_eq_some_iff.mp hhead
    refine ⟨written tail ++ answer, ?_⟩
    rw [hclient, htail, SocksProxy.method, hauth]
    rfl
  obtain ⟨rest, hrest⟩ := hselects
  rw [written_connectViaSocks5 limit host port hrest fails, List.append_assoc] at hproxy
  have hgreets : p.Greets (Socks.greeting [0]) [.wrote [5, 0]] := .open (by decide) hauth
  have hconnect := SocksProxy.serve_connect hgreets hproxy fails' (resolve_ofInetAddress p host) rfl
  have hsame : (request host port).port.toNat = port := Nat.mod_eq_of_lt hport
  rw [hsame] at hconnect
  exact hconnect

/-- A connection to an IPv6 address. Both ends get small chunks. -/
theorem connectViaSocks5_drives_ipv6 :
    let p := SocksProxy.reachingAll none none
    let host : InetAddress := .inet6 0x20010db8000000000000000000000001 (by decide)
    let toClient : List Bytes := [[5], [0, 5, 0], [0, 1, 10, 0, 0, 2, 156, 64]]
    let toProxy : List Bytes :=
      [[5, 1], [0, 5, 1, 0, 4, 0x20, 1, 0xd, 0xb8, 0],
        [0, 0, 0, 0, 0, 0, 0, 0, 0, 0, 1, 1, 0xbb, 7]]
    toClient.flatten = written (p.serve toProxy false).actions ∧
      [.wrote [5, 0], .called (.connectUpstream host 443)] <+: (p.serve toProxy false).actions ∧
      (p.serve toProxy false).input.stream = [7] := by
  intro p host toClient toProxy
  have hproxy : toProxy.flatten = written (after (connectViaSocks5 6 host 443)
      (SocketSession.start toClient false)).actions ++ [7] := by decide
  have hclient : toClient.flatten = written (p.serve toProxy false).actions := by decide
  exact ⟨hclient, connectViaSocks5_drives rfl 6 host (by decide) hproxy
    (hclient.trans (List.append_nil _).symm)⟩

/-! ### The reply -/

/-- Behind the type of the address, the client reads what `skip` leaves. -/
theorem run_awaitConnection (limit : ℕ) {reply : Socks.Message} (hcode : reply.code = 0)
    (payload : Bytes) (fails : Bool) (actions : List (SocketAction Empty)) :
    ∃ bound : Bytes, bound.length = reply.address.tailLength ∧
      (awaitConnection limit).run (flat (reply.encode ++ payload) fails actions) =
        .ok () (flat (bound.drop limit ++ payload) fails actions) := by
  obtain ⟨code, address, port⟩ := reply
  obtain rfl : code = 0 := hcode
  have hstart : ∀ (atype : Byte) (tail : Bytes),
      (awaitConnection limit).run (flat ([5, 0, 0, atype] ++ tail) fails actions) =
        (skipBoundAddress limit atype).run (flat tail fails actions) := by
    intro atype tail
    rw [awaitConnection, run_bind_ok (run_readFully _ _ _ (by rfl)), if_neg (by simp)]
    rfl
  cases address with
  | ipv4 raw =>
    refine ⟨ofNat 4 raw.toNat ++ ofNat 2 port.toNat, by simp [Socks.Address.tailLength], ?_⟩
    have hrun := hstart 1 (ofNat 4 raw.toNat ++ ofNat 2 port.toNat ++ payload)
    rw [skipBoundAddress, if_pos rfl, run_skip _ _ _ (by simp)] at hrun
    simpa [Socks.Message.encode, Socks.Address.encode] using hrun
  | domain name short =>
    refine ⟨name ++ ofNat 2 port.toNat, by simp [Socks.Address.tailLength], ?_⟩
    have hrun := hstart 3 (BitVec.ofNat 8 name.length :: (name ++ ofNat 2 port.toNat ++ payload))
    rw [skipBoundAddress, if_neg (by decide), if_neg (by decide), if_pos rfl,
      run_bind_ok (run_read_cons _ _ _ _)] at hrun
    dsimp only at hrun
    rw [run_skip _ _ _ (by simp [Socks.toNat_counted short])] at hrun
    simpa [Socks.Message.encode, Socks.Address.encode, Socks.counted] using hrun
  | ipv6 raw =>
    refine ⟨ofNat 16 raw.toNat ++ ofNat 2 port.toNat, by simp [Socks.Address.tailLength], ?_⟩
    have hrun := hstart 4 (ofNat 16 raw.toNat ++ ofNat 2 port.toNat ++ payload)
    rw [skipBoundAddress, if_neg (by decide), if_pos rfl, run_skip _ _ _ (by simp)] at hrun
    simpa [Socks.Message.encode, Socks.Address.encode] using hrun

/-- For every reply of success the client returns, and what it leaves to read is the payload
exactly if its call of `skip` skips all it is asked for. -/
theorem connectViaSocks5_leaves_payload_iff (limit : ℕ) (host : InetAddress) (port : ℕ)
    {reply : Socks.Message} (hcode : reply.code = 0) {payload : Bytes} {chunks : List Bytes}
    (hchunks : chunks.flatten = [5, 0] ++ (reply.encode ++ payload)) (fails : Bool) :
    ∃ s, (connectViaSocks5 limit host port).run (SocketSession.start chunks fails) = .ok () s ∧
      (s.input.stream = payload ↔ reply.address.tailLength ≤ limit) := by
  have hchunked := compositional_connectViaSocks5 compositional_ignoresChunks (fun _ => trivial)
    limit host port
  obtain ⟨bound, hbound, hrun⟩ := run_awaitConnection limit hcode payload fails
    [.wrote [5, 1, 0], .wrote (request host port).encode]
  rw [← run_connectViaSocks5 limit host port, ← hchunks] at hrun
  obtain ⟨s, hs, hsame⟩ := IgnoresChunks.run_start hchunked hrun
  refine ⟨s, hs, ?_⟩
  have hstream : (flat (bound.drop limit ++ payload) fails
      [.wrote [5, 1, 0], .wrote (request host port).encode] : SocketSession Empty).input.stream =
        bound.drop limit ++ payload := List.append_nil _
  rw [hsame.stream, hstream, ← hbound, List.append_left_eq_self, List.drop_eq_nil_iff]

/-- A socket that skips all it is asked for, and a reply with a name. -/
theorem connectViaSocks5_leaves_payload_domain :
    ∃ s, (connectViaSocks5 8 (.inet4 0x0a000001) 80).run
        (SocketSession.start [[5, 0, 5], [0, 0, 3, 3, 0x61], [0x62, 0x63, 0, 80, 7]] false) =
          .ok () s ∧
      s.input.stream = [7] := by
  have hchunks : [[5, 0, 5], [0, 0, 3, 3, 0x61], [0x62, 0x63, 0, 80, 7]].flatten = [5, 0] ++
      (Socks.Message.encode ⟨0, .domain [0x61, 0x62, 0x63] (by decide), 80⟩ ++ [7]) := by
    decide
  obtain ⟨s, hrun, hpayload⟩ :=
    connectViaSocks5_leaves_payload_iff 8 (.inet4 0x0a000001) 80 rfl hchunks false
  exact ⟨s, hrun, hpayload.mpr (by decide)⟩

/-- A socket that skips the part of the bound address that has arrived. The rest of it
comes before the payload. -/
theorem connectViaSocks5_leaves_address :
    let s := after (connectViaSocks5 4 (.inet4 0x0a000001) 80)
      (SocketSession.start [[5, 0], [5, 0, 0, 1, 10, 0, 0, 2], [156, 64, 7]] false)
    s.input.stream = [156, 64] ++ [7] ∧ s.input.stream ≠ [7] := by
  decide

end TetherBridge

end XnetZt
