import XnetZt.Tether.SocksSession

/-!
# Requests to the SOCKS proxy

A client that has greeted and logged in sends its request. The proxy answers with one reply
unless the upstream throws: then the exception goes up to `handleClient`, which closes the
connection without a reply.
-/

namespace XnetZt

namespace SocksProxy

open SocketSession Handler

variable (p : SocksProxy)

/-- A client that greets and, if it has to, sends the right credentials, and what the proxy
answers to that. -/
inductive Greets : Bytes → List (SocketAction SocksCall) → Prop
  | open {methods : Bytes} (hmethods : methods.length ≤ 255) (hauth : p.authUser = none) :
      Greets (Socks.greeting methods) [.wrote [5, 0]]
  | login {methods user pass : Bytes} (version : Byte) (hmethods : methods.length ≤ 255)
      (huser : user.length ≤ 255) (hpass : pass.length ≤ 255)
      (hauthUser : p.authUser = some (p.decode user))
      (hauthPass : p.authPass = some (p.decode pass)) :
      Greets (Socks.greeting methods ++ Socks.credentials version user pass)
        [.wrote [5, 2], .wrote [1, 0]]

theorem run_authenticateClient {user pass : Bytes} (version : Byte) (huser : user.length ≤ 255)
    (hpass : pass.length ≤ 255) (hauthUser : p.authUser = some (p.decode user))
    (hauthPass : p.authPass = some (p.decode pass)) (rest : Bytes) (fails : Bool)
    (actions : List (SocketAction SocksCall)) :
    p.authenticateClient.run (flat (Socks.credentials version user pass ++ rest) fails actions) =
      .ok true (flat rest fails (actions ++ [.wrote [1, 0]])) := by
  have haccepts : (p.accepts user pass).run (flat rest fails actions) =
      .ok true (flat rest fails actions) := by
    simp [accepts, hauthUser, hauthPass, outcome]
  rw [Socks.credentials, List.cons_append, List.append_assoc, authenticateClient,
    run_bind_ok (run_read_cons _ _ _ _), run_bind_ok (run_readCounted huser _ _ _),
    run_bind_ok (run_readCounted hpass _ _ _), run_bind_ok haccepts,
    run_bind_ok (run_write _ _ _ _)]
  rfl

variable {p} in
theorem Greets.run_negotiate {hello : Bytes} {negotiation : List (SocketAction SocksCall)}
    (h : p.Greets hello negotiation) (rest : Bytes) (fails : Bool) :
    p.negotiate.run (flat (hello ++ rest) fails []) =
      p.handleRequest.run (flat rest fails negotiation) := by
  cases h with
  | «open» hmethods hauth =>
    rw [p.run_negotiate hmethods, proceed, method, hauth]
    rfl
  | login version hmethods huser hpass hauthUser hauthPass =>
    rw [List.append_assoc, p.run_negotiate hmethods, proceed, method, hauthUser]
    rw [if_pos (by rfl), run_bind_ok
      (p.run_authenticateClient version huser hpass hauthUser hauthPass _ _ _)]
    rfl

/-! ### The address of a request -/

/-- The address a request is for. -/
def resolve : Socks.Address → Option InetAddress
  | .ipv4 raw => some (.inet4 raw)
  | .domain name _ => p.getByName (p.decode name)
  | .ipv6 raw => InetAddress.getByAddress (BigEndian.ofNat 16 raw.toNat)

section Address

variable {p} {address : Socks.Address} {a : InetAddress} (h : p.resolve address = some a)
  (rest : Bytes) (fails : Bool) (actions : List (SocketAction SocksCall))

include h

theorem run_readAddressBytes :
    ∃ addr, p.readAddressBytes.run (flat (address.encode ++ rest) fails actions) =
        .ok (some addr) (flat rest fails actions) ∧ InetAddress.getByAddress addr = some a := by
  cases address with
  | ipv4 raw =>
    obtain rfl : .inet4 raw = a := Option.some.inj h
    refine ⟨BigEndian.ofNat 4 raw.toNat, ?_, ?_⟩
    · rw [Socks.Address.encode, List.cons_append, readAddressBytes,
        run_bind_ok (run_read_cons _ _ _ _), if_pos rfl,
        run_bind_ok (run_readFully _ _ _ (by simp))]
      rfl
    · exact InetAddress.getByAddress_getAddress (.inet4 raw)
  | domain name short =>
    refine ⟨a.getAddress, ?_, InetAddress.getByAddress_getAddress a⟩
    rw [Socks.Address.encode, List.cons_append, readAddressBytes,
      run_bind_ok (run_read_cons _ _ _ _), if_neg (by decide), if_pos rfl,
      run_bind_ok (run_readCounted short _ _ _)]
    have hname : p.getByName (p.decode name) = some a := h
    rw [run_bind_ok (run_outcome_some hname _ _)]
    rfl
  | ipv6 raw =>
    refine ⟨BigEndian.ofNat 16 raw.toNat, ?_, h⟩
    rw [Socks.Address.encode, List.cons_append, readAddressBytes,
      run_bind_ok (run_read_cons _ _ _ _), if_neg (by decide), if_neg (by decide), if_pos rfl,
      run_bind_ok (run_readFully _ _ _ (by simp))]
    rfl

theorem run_readAddress (port : BitVec 16) :
    p.readAddress.run
        (flat (address.encode ++ BigEndian.ofNat 2 port.toNat ++ rest) fails actions) =
      .ok (some (a, port.toNat)) (flat rest fails actions) := by
  obtain ⟨hi, lo, hbytes, hport⟩ := Socks.port_eq port
  rw [hbytes, List.append_assoc]
  obtain ⟨addr, hread, haddr⟩ := run_readAddressBytes h ([hi, lo] ++ rest) fails actions
  rw [readAddress, run_bind_ok hread]
  dsimp only
  rw [List.cons_append, run_bind_ok (run_read_cons _ _ _ _), List.cons_append,
    run_bind_ok (run_read_cons _ _ _ _), run_bind_ok (run_outcome_some haddr _ _), ← hport]
  rfl

end Address

/-! ### Replies -/

/-- The reply of success is a reply, with the address of either family. -/
theorem boundReply_eq (a : InetAddress) (port : ℕ) :
    ∃ reply : Socks.Message, boundReply a.getAddress port = .ok reply.encode ∧
      reply.code = 0 := by
  have hlength : 4 ≤ a.getAddress.length := by
    rw [a.length_getAddress]
    split_ifs <;> omega
  obtain ⟨b₀, b₁, b₂, b₃, tail, haddr⟩ :
      ∃ b₀ b₁ b₂ b₃ tail, a.getAddress = b₀ :: b₁ :: b₂ :: b₃ :: tail := by
    generalize a.getAddress = addr at hlength
    obtain _ | ⟨b₀, _ | ⟨b₁, _ | ⟨b₂, _ | ⟨b₃, tail⟩⟩⟩⟩ := addr
    all_goals simp at hlength ⊢
  have hraw : BigEndian.ofNat 4 (BitVec.ofNat 32 (BigEndian.toNat [b₀, b₁, b₂, b₃])).toNat =
      [b₀, b₁, b₂, b₃] := by
    rw [BitVec.toNat_ofNat]
    exact (BigEndian.ofNat_mod 4 _ 4 le_rfl).trans (BigEndian.ofNat_toNat [b₀, b₁, b₂, b₃])
  refine ⟨⟨0, .ipv4 (BitVec.ofNat 32 (BigEndian.toNat [b₀, b₁, b₂, b₃])), BitVec.ofNat 16 port⟩,
    ?_, rfl⟩
  rw [Socks.Message.encode, Socks.Address.encode, hraw, Socks.ofNat_port, haddr, boundReply,
    Bytes.arraycopy_eq_ok (by simp) (by simp)]
  simp [Bytes.splice, Bytes.slice, Bytes.zeros, Bytes.write]

/-- The connection or the association of a request is made. -/
def Makes (m : Socks.Message) (a : InetAddress) : Prop :=
  m.code = 1 ∧ (p.connectUpstream a m.port.toNat).isSome ∨
    m.code = 3 ∧ p.createUpstreamDatagramSocket.isSome ∧ p.bindDatagramSocket.isSome

/-- The upstream throws. -/
def Throws (m : Socks.Message) (a : InetAddress) : Prop :=
  m.code = 1 ∧ p.connectUpstream a m.port.toNat = none ∨
    m.code = 3 ∧ (p.createUpstreamDatagramSocket = none ∨ p.bindDatagramSocket = none)

/-- After the negotiation there is one reply, which says whether what was asked for was
made, with nothing but calls of the upstream before it and no write after it. -/
def RepliesOnce (negotiation : List (SocketAction SocksCall)) (made : Prop)
    (actions : List (SocketAction SocksCall)) : Prop :=
  ∃ (calls : List SocksCall) (reply : Socks.Message) (after : List (SocketAction SocksCall)),
    actions = negotiation ++ calls.map .called ++ .wrote reply.encode :: after ∧
      (∀ k ∈ calls, k.IsUpstream) ∧ (∀ bytes, .wrote bytes ∉ after) ∧
      (reply.code = 0 ↔ made)

theorem repliesOnce_called {negotiation rest : List (SocketAction SocksCall)} {k : SocksCall}
    {reply : Socks.Message} {made : Prop} (hk : k.IsUpstream) (hrest : ∀ bytes, .wrote bytes ∉ rest)
    (hmade : reply.code = 0 ↔ made) :
    RepliesOnce negotiation made (negotiation ++ .called k :: .wrote reply.encode :: rest) :=
  ⟨[k], reply, rest, by simp, by simpa using hk, hrest, hmade⟩

theorem not_repliesOnce {negotiation : List (SocketAction SocksCall)} {k : SocksCall}
    {made : Prop} :
    ¬ RepliesOnce negotiation made (negotiation ++ [.called k, .closed]) := by
  rintro ⟨calls, reply, after, hactions, -⟩
  rw [List.append_assoc] at hactions
  have hmem : .wrote reply.encode ∈ [.called k, (.closed : SocketAction SocksCall)] := by
    rw [List.append_cancel_left hactions]
    simp
  simp at hmem

theorem run_handleRequest (m : Socks.Message) (rest : Bytes) (fails : Bool)
    (actions : List (SocketAction SocksCall)) :
    p.handleRequest.run (flat (m.encode ++ rest) fails actions) =
      (if m.code = 1 then p.handleConnect
        else if m.code = 3 then p.handleUdpAssociate
        else do sendReply 7; close : SocksM Unit).run
        (flat (m.address.encode ++ BigEndian.ofNat 2 m.port.toNat ++ rest) fails actions) := by
  rw [Socks.Message.encode, handleRequest]
  simp only [List.cons_append, List.nil_append, List.append_assoc]
  rw [run_bind_ok (run_read_cons _ _ _ _), run_bind_ok (run_read_cons _ _ _ _),
    run_bind_ok (run_read_cons _ _ _ _)]
  simp only [Option.some.injEq]

section Request

variable {p} {m : Socks.Message} {a : InetAddress} (h : p.resolve m.address = some a)
  (rest : Bytes) (fails : Bool) (actions : List (SocketAction SocksCall))

include h

theorem run_handleConnect {bound : InetAddress × ℕ}
    (hbound : p.connectUpstream a m.port.toNat = some bound) :
    ∃ reply : Socks.Message, reply.code = 0 ∧ p.handleConnect.run
        (flat (m.address.encode ++ BigEndian.ofNat 2 m.port.toNat ++ rest) fails actions) =
      .ok () (flat rest fails (actions ++ [.called (.connectUpstream a m.port.toNat),
        .wrote reply.encode, .called .relay, .closed])) := by
  obtain ⟨reply, hreply, hcode⟩ := boundReply_eq bound.1 bound.2
  refine ⟨reply, hcode, ?_⟩
  rw [handleConnect, run_bind_ok (run_readAddress h _ _ _ _)]
  dsimp only
  rw [run_bind_ok (run_call _ _ _ _), run_bind_ok (run_outcome_some hbound _ _),
    run_bind_ok (run_compute hreply _), run_bind_ok (run_write _ _ _ _),
    run_bind_ok (run_call _ _ _ _), run_close]
  simp only [List.append_assoc, List.cons_append, List.nil_append]

theorem run_handleConnect_throws (hbound : p.connectUpstream a m.port.toNat = none) :
    p.handleConnect.run
        (flat (m.address.encode ++ BigEndian.ofNat 2 m.port.toNat ++ rest) fails actions) =
      .error .io (flat rest fails (actions ++ [.called (.connectUpstream a m.port.toNat)])) := by
  rw [handleConnect, run_bind_ok (run_readAddress h _ _ _ _)]
  dsimp only
  rw [run_bind_ok (run_call _ _ _ _), run_bind_error (run_outcome_none hbound _ _)]

theorem run_handleUdpAssociate {bound : InetAddress × ℕ}
    (hsocket : p.createUpstreamDatagramSocket = some ())
    (hbound : p.bindDatagramSocket = some bound) :
    ∃ reply : Socks.Message, reply.code = 0 ∧ p.handleUdpAssociate.run
        (flat (m.address.encode ++ BigEndian.ofNat 2 m.port.toNat ++ rest) fails actions) =
      .ok () ⟨⟨[], fails⟩, actions ++ [.called .createUpstreamDatagramSocket,
        .wrote reply.encode, .called .relayDatagrams, .closed]⟩ := by
  have hdrain : ∀ done : List (SocketAction SocksCall),
      (do drain; close : SocksM Unit).run (flat rest fails done) =
        .ok () ⟨⟨[], fails⟩, done ++ [.closed]⟩ := fun _ => rfl
  obtain ⟨reply, hreply, hcode⟩ := boundReply_eq bound.1 bound.2
  refine ⟨reply, hcode, ?_⟩
  rw [handleUdpAssociate, run_bind_ok (run_readAddress h _ _ _ _),
    run_bind_ok (run_call _ _ _ _), run_bind_ok (run_outcome_some hsocket _ _),
    run_bind_ok (run_outcome_some hbound _ _), run_bind_ok (run_compute hreply _),
    run_bind_ok (run_write _ _ _ _), run_bind_ok (run_call _ _ _ _), hdrain]
  simp only [List.append_assoc, List.cons_append, List.nil_append]

theorem run_handleUdpAssociate_throws
    (hbound : p.createUpstreamDatagramSocket = none ∨ p.bindDatagramSocket = none) :
    p.handleUdpAssociate.run
        (flat (m.address.encode ++ BigEndian.ofNat 2 m.port.toNat ++ rest) fails actions) =
      .error .io (flat rest fails (actions ++ [.called .createUpstreamDatagramSocket])) := by
  rw [handleUdpAssociate, run_bind_ok (run_readAddress h _ _ _ _), run_bind_ok (run_call _ _ _ _)]
  by_cases hsocket : p.createUpstreamDatagramSocket = none
  · rw [run_bind_error (run_outcome_none hsocket _ _)]
  · obtain ⟨socket, hsocket'⟩ := Option.ne_none_iff_exists'.mp hsocket
    rw [run_bind_ok (run_outcome_some hsocket' _ _),
      run_bind_error (run_outcome_none (hbound.resolve_left hsocket) _ _)]

end Request

section Serve

variable {p} {hello : Bytes} {negotiation : List (SocketAction SocksCall)}
  (hgreets : p.Greets hello negotiation) {m : Socks.Message} {rest : Bytes} {chunks : List Bytes}
  (hchunks : chunks.flatten = hello ++ (m.encode ++ rest)) (fails : Bool)

include hgreets hchunks

theorem sameStream_request : SameStream (p.serve chunks fails)
    (after (tryCatch p.handleRequest fun _ => close)
      (flat (m.encode ++ rest) fails negotiation)) := by
  have hserve : p.serve [chunks.flatten] fails =
      after (tryCatch p.handleRequest fun _ => close)
        (flat (m.encode ++ rest) fails negotiation) := by
    change after p.handleClient (flat chunks.flatten fails []) = _
    rw [hchunks, handleClient, after, after, run_tryCatch, run_tryCatch, hgreets.run_negotiate]
  rw [← hserve]
  exact p.sameStream_serve chunks fails

theorem actions_serve_ok {t : SocketSession SocksCall}
    (hrun : p.handleRequest.run (flat (m.encode ++ rest) fails negotiation) = .ok () t) :
    (p.serve chunks fails).actions = t.actions := by
  rw [(sameStream_request hgreets hchunks fails).actions, after_tryCatch_ok hrun]

theorem actions_serve_error {k : SocksCall} {e : SessionException}
    (hrun : p.handleRequest.run (flat (m.encode ++ rest) fails negotiation) =
      .error e (flat rest fails (negotiation ++ [.called k]))) :
    (p.serve chunks fails).actions = negotiation ++ [.called k, .closed] := by
  rw [(sameStream_request hgreets hchunks fails).actions, after_tryCatch_error hrun,
    after_ok (run_close _ _ _)]
  exact List.append_assoc ..

/-- A request for a connection asks the upstream for it and is read to its end. -/
theorem serve_connect {a : InetAddress} (h : p.resolve m.address = some a) (hcode : m.code = 1) :
    negotiation ++ [.called (.connectUpstream a m.port.toNat)] <+: (p.serve chunks fails).actions ∧
      (p.serve chunks fails).input.stream = rest := by
  have hserve := sameStream_request hgreets hchunks fails
  have hrequest := p.run_handleRequest m rest fails negotiation
  rw [if_pos hcode] at hrequest
  rw [hserve.actions, hserve.stream]
  cases hbound : p.connectUpstream a m.port.toNat with
  | some bound =>
    obtain ⟨reply, -, hrun⟩ := run_handleConnect h rest fails negotiation hbound
    rw [after_tryCatch_ok (hrequest.trans hrun)]
    exact ⟨⟨_, List.append_assoc ..⟩, List.append_nil _⟩
  | none =>
    have hrun := run_handleConnect_throws h rest fails negotiation hbound
    rw [after_tryCatch_error (hrequest.trans hrun), after_ok (run_close _ _ _)]
    exact ⟨⟨_, rfl⟩, List.append_nil _⟩

section Replies

variable {a : InetAddress} (h : p.resolve m.address = some a)

include h

theorem repliesOnce_iff_of_connect (hconnect : m.code = 1) :
    RepliesOnce negotiation (p.Makes m a) (p.serve chunks fails).actions ↔ ¬ p.Throws m a := by
  have hrequest := p.run_handleRequest m rest fails negotiation
  rw [if_pos hconnect] at hrequest
  cases hbound : p.connectUpstream a m.port.toNat with
  | some bound =>
    obtain ⟨reply, hcode, hrun⟩ := run_handleConnect h rest fails negotiation hbound
    rw [actions_serve_ok hgreets hchunks fails (hrequest.trans hrun)]
    apply iff_of_true
    · apply repliesOnce_called
      · trivial
      · simp
      · simp [Makes, hconnect, hbound, hcode]
    · simp [Throws, hconnect, hbound]
  | none =>
    rw [actions_serve_error hgreets hchunks fails
      (hrequest.trans (run_handleConnect_throws h rest fails negotiation hbound))]
    exact iff_of_false not_repliesOnce (not_not.mpr (Or.inl ⟨hconnect, hbound⟩))

theorem repliesOnce_iff_of_associate (hassociate : m.code = 3) :
    RepliesOnce negotiation (p.Makes m a) (p.serve chunks fails).actions ↔ ¬ p.Throws m a := by
  have hconnect : m.code ≠ 1 := by
    rw [hassociate]
    decide
  have hrequest := p.run_handleRequest m rest fails negotiation
  rw [if_neg hconnect, if_pos hassociate] at hrequest
  by_cases hnone : p.createUpstreamDatagramSocket = none ∨ p.bindDatagramSocket = none
  · rw [actions_serve_error hgreets hchunks fails
      (hrequest.trans (run_handleUdpAssociate_throws h rest fails negotiation hnone))]
    exact iff_of_false not_repliesOnce (not_not.mpr (Or.inr ⟨hassociate, hnone⟩))
  · obtain ⟨hsocket, hbound⟩ := not_or.mp hnone
    obtain ⟨socket, hsocket⟩ := Option.ne_none_iff_exists'.mp hsocket
    obtain ⟨bound, hbound⟩ := Option.ne_none_iff_exists'.mp hbound
    obtain ⟨reply, hcode, hrun⟩ := run_handleUdpAssociate h rest fails negotiation hsocket hbound
    rw [actions_serve_ok hgreets hchunks fails (hrequest.trans hrun)]
    apply iff_of_true
    · apply repliesOnce_called
      · trivial
      · simp
      · simp [Makes, hassociate, hsocket, hbound, hcode]
    · simp [Throws, hassociate, hsocket, hbound]

omit h in
/-- Any other command is refused. -/
theorem repliesOnce_of_unsupported (hconnect : m.code ≠ 1) (hassociate : m.code ≠ 3) :
    RepliesOnce negotiation False (p.serve chunks fails).actions := by
  have hrequest := p.run_handleRequest m rest fails negotiation
  rw [if_neg hconnect, if_neg hassociate] at hrequest
  rw [actions_serve_ok hgreets hchunks fails hrequest]
  refine ⟨[], ⟨7, .ipv4 0, 0⟩, [.closed], ?_, by simp, by simp, iff_of_false (by decide) id⟩
  rw [List.map_nil, List.append_nil]
  exact List.append_assoc ..

/-- There is one reply to a request exactly if the upstream does not throw. -/
theorem repliesOnce_iff :
    RepliesOnce negotiation (p.Makes m a) (p.serve chunks fails).actions ↔ ¬ p.Throws m a := by
  by_cases hconnect : m.code = 1
  · exact repliesOnce_iff_of_connect hgreets hchunks fails h hconnect
  by_cases hassociate : m.code = 3
  · exact repliesOnce_iff_of_associate hgreets hchunks fails h hassociate
  have hmakes : ¬ p.Makes m a := by
    rintro (⟨hcode, -⟩ | ⟨hcode, -⟩)
    · exact hconnect hcode
    · exact hassociate hcode
  have hthrows : ¬ p.Throws m a := by
    rintro (⟨hcode, -⟩ | ⟨hcode, -⟩)
    · exact hconnect hcode
    · exact hassociate hcode
  rw [eq_false hmakes]
  exact iff_of_true (repliesOnce_of_unsupported hgreets hchunks fails hconnect hassociate) hthrows

end Replies

end Serve

/-- A proxy that connects to nothing. -/
def reachingNone : SocksProxy := { reachingAll none none with connectUpstream := fun _ _ => none }

/-- `CONNECT` to an IPv6 address, in small pieces. -/
theorem repliesOnce_ipv6 :
    let m : Socks.Message := ⟨1, .ipv6 0x20010db8000000000000000000000001, 443⟩
    let chunks := [[5, 1], 0 :: m.encode]
    ∃ a, (reachingAll none none).resolve m.address = some a ∧
      RepliesOnce [.wrote [5, 0]] ((reachingAll none none).Makes m a)
        ((reachingAll none none).serve chunks false).actions := by
  intro m chunks
  refine ⟨.inet6 0x20010db8000000000000000000000001 (by decide), by decide, ?_⟩
  have hgreets : (reachingAll none none).Greets (Socks.greeting [0]) [.wrote [5, 0]] :=
    .open (by decide) rfl
  have hchunks : chunks.flatten = Socks.greeting [0] ++ (m.encode ++ []) := by
    simp [chunks, Socks.greeting, Socks.counted]
  exact (repliesOnce_iff hgreets hchunks false (by decide)).mpr (by simp [Throws, reachingAll])

/-- When the connection is refused the client gets no reply. -/
theorem not_repliesOnce_refused :
    let m : Socks.Message := ⟨1, .ipv4 0x0a000001, 80⟩
    ¬ RepliesOnce [.wrote [5, 0]] (reachingNone.Makes m (.inet4 0x0a000001))
        (reachingNone.serve [Socks.greeting [0] ++ m.encode] false).actions := by
  intro m
  have hactions : (reachingNone.serve [Socks.greeting [0] ++ m.encode] false).actions =
      [.wrote [5, 0]] ++ [.called (.connectUpstream (.inet4 0x0a000001) 80), .closed] := by
    decide
  rw [hactions]
  exact not_repliesOnce

end SocksProxy

end XnetZt
