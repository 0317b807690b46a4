import XnetZt.Tether.SocksProxy

/-!
# Sessions of the SOCKS proxy

The proxy selects its method without looking at the methods the client offers, so a client
that does not offer it is answered as if it had. No request is carried out before the
credentials were accepted.
-/

namespace XnetZt

namespace SocksProxy

open SocketSession Handler

variable (p : SocksProxy)

/-! ### Reading a byte string with its length -/

section Counted

variable {bytes stream : Bytes} {fails : Bool} {actions : List (SocketAction SocksCall)}

theorem run_readCounted (h : bytes.length ≤ 255) (rest : Bytes) (fails : Bool)
    (actions : List (SocketAction SocksCall)) :
    readCounted.run (flat (Socks.counted bytes ++ rest) fails actions) =
      .ok bytes (flat rest fails actions) := by
  have hlength : (arrayLength (some (BitVec.ofNat 8 bytes.length)) : SocksM ℕ).run
      (flat (bytes ++ rest) fails actions) =
        .ok bytes.length (flat (bytes ++ rest) fails actions) := by
    rw [arrayLength, Socks.toNat_counted h]
    rfl
  rw [Socks.counted, List.cons_append, readCounted, run_bind_ok (run_read_cons _ _ _ _),
    run_bind_ok hlength, run_readFully _ _ _ rfl]

theorem of_run_readCounted {t : SocketSession SocksCall}
    (h : readCounted.run (flat stream fails actions) = .ok bytes t) :
    ∃ rest, bytes.length ≤ 255 ∧ stream = Socks.counted bytes ++ rest ∧
      t = flat rest fails actions := by
  obtain ⟨n, s1, hread, h1⟩ := run_bind_eq_ok h
  obtain ⟨k, s2, harray, hfully⟩ := run_bind_eq_ok h1
  obtain ⟨b, rfl, rfl, rfl⟩ := of_run_arrayLength harray
  obtain ⟨hfirst, rfl⟩ := of_run_read hread
  obtain ⟨rest, hrest, hlength, rfl⟩ := of_run_readFully hfully
  have hb := b.isLt
  refine ⟨rest, by omega, ?_, rfl⟩
  rw [← List.cons_head?_tail hfirst.symm, hrest, Socks.counted, hlength, BitVec.ofNat_toNat,
    BitVec.setWidth_eq, List.cons_append]

end Counted

/-! ### Method selection -/

/-- The method the proxy wants: user name and password if it has credentials, or none. -/
def method : Byte := if p.authUser.isSome then 2 else 0

/-- What follows the method selection. -/
def proceed : SocksM Unit :=
  if p.authUser.isSome then do
    if ← p.authenticateClient then p.handleRequest else close
  else p.handleRequest

/-- The greeting is read, and whatever it says the proxy selects its method. -/
theorem run_negotiate {methods : Bytes} (h : methods.length ≤ 255) (rest : Bytes) (fails : Bool)
    (actions : List (SocketAction SocksCall)) :
    p.negotiate.run (flat (Socks.greeting methods ++ rest) fails actions) =
      p.proceed.run (flat rest fails (actions ++ [.wrote [5, p.method]])) := by
  rw [Socks.greeting, List.cons_append, negotiate, run_bind_ok (run_read_cons _ _ _ _),
    if_neg (by simp), run_bind_ok (run_readCounted h _ _ _)]
  unfold proceed method
  by_cases hauth : p.authUser.isSome = true
  · rw [if_pos hauth, if_pos hauth, if_pos hauth, run_bind_ok (run_write _ _ _ _)]
  · rw [if_neg hauth, if_neg hauth, if_neg hauth, run_bind_ok (run_write _ _ _ _)]

/-- The client offers the method the proxy selects, or it is told that there is none, and
its request is not read. -/
def SelectsOffered (methods rest : Bytes) (s : SocketSession SocksCall) : Prop :=
  if p.method ∈ methods then s.actions.head? = some (.wrote [5, p.method])
  else s.actions = [.wrote [5, 0xff], .closed] ∧ s.input.stream = rest

theorem compositional_proceed {φ : SocketAction SocksCall → Prop} {G : ∀ α : Type, SocksM α → Prop}
    (h : Compositional φ G) (hφ : ∀ a, φ a) : G _ p.proceed := by
  apply h.ite
  · apply h.bind (p.compositional_authenticateClient h fun _ => hφ _)
    intro ok
    exact h.ite (p.compositional_handleRequest h hφ) (h.act _ (hφ _))
  · exact p.compositional_handleRequest h hφ

/-- The first thing the proxy does is to select its method. -/
theorem head_serve {methods rest : Bytes} (h : methods.length ≤ 255) {chunks : List Bytes}
    (hchunks : chunks.flatten = Socks.greeting methods ++ rest) (fails : Bool) :
    (p.serve chunks fails).actions.head? = some (.wrote [5, p.method]) := by
  have hproceed := p.compositional_proceed (compositional_emits fun _ => True) fun _ => trivial
  obtain ⟨added, hadded, -⟩ := hproceed (flat rest fails [.wrote [5, p.method]])
  have hrun := p.run_negotiate h rest fails []
  have hafter : (after p.negotiate (flat (Socks.greeting methods ++ rest) fails [])).actions =
      [.wrote [5, p.method]] ++ added := by
    rw [after, hrun]
    exact hadded
  rw [(p.sameStream_serve chunks fails).actions, hchunks]
  obtain hserve | hserve := actions_after_tryCatch p.negotiate
    (flat (Socks.greeting methods ++ rest) fails [])
  · change List.head? (after _ (flat _ _ _)).actions = _
    rw [handleClient, hserve, hafter]
    rfl
  · change List.head? (after _ (flat _ _ _)).actions = _
    rw [handleClient, hserve, hafter]
    rfl

/-- The method selected is one the client offered, or the client is turned away, exactly if
the client offers the method the proxy wants. -/
theorem selectsOffered_iff {methods rest : Bytes} (h : methods.length ≤ 255) {chunks : List Bytes}
    (hchunks : chunks.flatten = Socks.greeting methods ++ rest) (fails : Bool) :
    p.SelectsOffered methods rest (p.serve chunks fails) ↔ p.method ∈ methods := by
  have hhead := p.head_serve h hchunks fails
  unfold SelectsOffered
  split_ifs with hoffered
  · exact iff_of_true hhead hoffered
  · refine iff_of_false ?_ hoffered
    rintro ⟨hactions, -⟩
    have hmethod : p.method ≠ 0xff := by
      unfold method
      split_ifs <;> decide
    rw [hactions] at hhead
    simp at hhead
    exact hmethod hhead.symm

instance (methods rest : Bytes) (s : SocketSession SocksCall) :
    Decidable (p.SelectsOffered methods rest s) :=
  inferInstanceAs (Decidable (ite _ _ _))

/-- A proxy that connects to everything, from one address. -/
def reachingAll (authUser authPass : Option Text) : SocksProxy where
  decode := fun bytes => bytes.map fun b => Char.ofNat b.toNat
  authUser := authUser
  authPass := authPass
  getByName _ := some (.inet4 0x0a000001)
  connectUpstream _ _ := some (.inet4 0x0a000002, 40000)
  createUpstreamDatagramSocket := some ()
  bindDatagramSocket := some (.inet4 0x0a000002, 40001)

/-- A client that offers both methods. -/
theorem selectsOffered_both :
    (reachingAll none none).SelectsOffered [0, 2] [] ((reachingAll none none).serve
      [[5, 2], [0, 2]] false) :=
  ((reachingAll none none).selectsOffered_iff (by decide) rfl false).mpr (by decide)

/-- A client that offers user name and password only is told to send none. -/
theorem not_selectsOffered_password :
    ¬ (reachingAll none none).SelectsOffered [2] []
      ((reachingAll none none).serve [Socks.greeting [2]] false) := by
  decide

/-! ### Authentication -/

/-- The stream begins with a greeting and then has the user name and the password of the
proxy. -/
def Authenticated (stream : Bytes) : Prop :=
  ∃ methods version user pass rest, stream =
      Socks.greeting methods ++ Socks.credentials version user pass ++ rest ∧
    methods.length ≤ 255 ∧ user.length ≤ 255 ∧ pass.length ≤ 255 ∧
    p.authUser = some (p.decode user) ∧ p.authPass = some (p.decode pass)

theorem of_run_accepts {user pass : Bytes} {s t : SocketSession SocksCall}
    (h : (p.accepts user pass).run s = .ok true t) :
    p.authUser = some (p.decode user) ∧ p.authPass = some (p.decode pass) := by
  obtain ⟨authUser, s1, huser, h1⟩ := run_bind_eq_ok h
  have huser := (of_run_outcome huser).1
  by_cases hne : authUser ≠ p.decode user
  · rw [if_pos hne] at h1
    cases h1
  · rw [if_neg hne] at h1
    obtain ⟨authPass, s2, hpass, h2⟩ := run_bind_eq_ok h1
    have hpass := (of_run_outcome hpass).1
    have hequal : decide (authPass = p.decode pass) = true := (EStateM.Result.ok.inj h2).1
    rw [huser, hpass, not_not.mp hne, of_decide_eq_true hequal]
    exact ⟨rfl, rfl⟩

/-- `authenticateClient` returns `true` only for the right credentials. -/
theorem of_run_authenticateClient {stream : Bytes} {fails : Bool}
    {actions : List (SocketAction SocksCall)} {t : SocketSession SocksCall}
    (h : p.authenticateClient.run (flat stream fails actions) = .ok true t) :
    ∃ version user pass rest, stream = Socks.credentials version user pass ++ rest ∧
      user.length ≤ 255 ∧ pass.length ≤ 255 ∧
      p.authUser = some (p.decode user) ∧ p.authPass = some (p.decode pass) := by
  obtain ⟨authVer, s1, hread, h1⟩ := run_bind_eq_ok h
  obtain ⟨-, rfl⟩ := of_run_read hread
  obtain ⟨user, s2, hread, h2⟩ := run_bind_eq_ok h1
  obtain ⟨rest, huser, htail, rfl⟩ := of_run_readCounted hread
  obtain ⟨pass, s3, hread', h3⟩ := run_bind_eq_ok h2
  obtain ⟨rest', hpass, rfl, rfl⟩ := of_run_readCounted hread'
  obtain ⟨ok, s4, haccepts, h4⟩ := run_bind_eq_ok h3
  obtain ⟨-, s5, -, h5⟩ := run_bind_eq_ok h4
  obtain rfl : ok = true := (EStateM.Result.ok.inj h5).1
  cases stream with
  | nil => simp [Socks.counted] at htail
  | cons version stream =>
    obtain rfl : stream = _ := htail
    exact ⟨version, user, pass, rest', by simp [Socks.credentials], huser, hpass,
      p.of_run_accepts haccepts⟩

/-- A call is only made after the credentials were accepted. -/
theorem authenticated_of_called (hauth : p.authUser.isSome = true) {stream : Bytes} {fails : Bool}
    {k : SocksCall}
    (h : .called k ∈ (after p.negotiate (flat stream fails [])).actions) :
    p.Authenticated stream := by
  have hemits := compositional_emits fun a : SocketAction SocksCall => a ≠ .called k
  have hclose := hemits.act .closed (by simp)
  obtain ⟨ver, s1, hread, hs1, h1⟩ := mem_after_bind hemits.read List.not_mem_nil h
  obtain ⟨hver, rfl⟩ := of_run_read hread
  by_cases hne : ver ≠ some 5
  · rw [if_pos hne] at h1
    exact absurd h1 (not_mem_after hclose hs1)
  · rw [if_neg hne] at h1
    obtain ⟨methods, s2, hread', hs2, h2⟩ := mem_after_bind hemits.readCounted hs1 h1
    obtain ⟨rest, hmethods, htail, rfl⟩ := of_run_readCounted hread'
    rw [if_pos hauth] at h2
    obtain ⟨_, s3, hwrite, hs3, h3⟩ := mem_after_bind (hemits.act (.wrote _) (by simp)) hs2 h2
    cases hwrite
    obtain ⟨ok, s4, hauthenticate, hs4, h4⟩ := mem_after_bind
      (p.compositional_authenticateClient hemits (by simp)) hs3 h3
    cases ok with
    | false => exact absurd h4 (not_mem_after hclose hs4)
    | true =>
      obtain ⟨version, user, pass, rest', rfl, hcredentials⟩ :=
        p.of_run_authenticateClient hauthenticate
      refine ⟨methods, version, user, pass, rest', ?_, hmethods, hcredentials⟩
      rw [← List.cons_head?_tail (hver.symm.trans (not_not.mp hne)), htail]
      simp [Socks.greeting]

/-- With credentials configured, the upstream is only asked for anything if the client sent
them right after its greeting. Otherwise the session ends without. -/
theorem serve_authenticated (hauth : p.authUser.isSome = true) (chunks : List Bytes)
    (fails : Bool) :
    p.Authenticated chunks.flatten ∨
      (∀ k : SocksCall, k.IsUpstream → .called k ∉ (p.serve chunks fails).actions) ∧
        (p.serve chunks fails).actions.getLast? = some .closed := by
  by_cases hcalled : ∃ k : SocksCall, .called k ∈ (p.serve chunks fails).actions
  · obtain ⟨k, hk⟩ := hcalled
    rw [(p.sameStream_serve chunks fails).actions] at hk
    have hnegotiate : .called k ∈ (after p.negotiate (flat chunks.flatten fails [])).actions := by
      obtain hserve | hserve := actions_after_tryCatch p.negotiate (flat chunks.flatten fails [])
      · exact hserve ▸ hk
      · have hk' : .called k ∈ (after p.negotiate (flat chunks.flatten fails [])).actions ++
            [.closed] := hserve ▸ hk
        simpa using hk'
    exact Or.inl (p.authenticated_of_called hauth hnegotiate)
  · exact Or.inr ⟨fun k _ hk => hcalled ⟨k, hk⟩, p.serve_closed chunks fails⟩

/-- The password is cut off. -/
theorem serve_authenticated_truncated :
    let p := reachingAll (some ['u']) (some ['p'])
    let chunks : List Bytes := [[5, 1, 2, 1], [1, 0x75, 2, 0x70]]
    p.authUser.isSome = true ∧ (p.Authenticated chunks.flatten ∨
      (∀ k : SocksCall, k.IsUpstream → .called k ∉ (p.serve chunks false).actions) ∧
        (p.serve chunks false).actions.getLast? = some .closed) := by
  intro p chunks
  exact ⟨rfl, p.serve_authenticated rfl chunks false⟩

end SocksProxy

end XnetZt
