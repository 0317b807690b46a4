import XnetZt.Lib.Run
import XnetZt.Lib.Text
import XnetZt.Net.DnsMessage
import XnetZt.Net.InetAddress

/-!
# The DNS proxy and its cache

`DnsProxy` answers a query from its cache if it holds an answer for the name, with the
transaction id of the query written over that of the cached one, and asks the upstream
otherwise. The key of the cache is the name as a dotted string only. So a query is
answered with another question when the cached one had another type or class, or labels
that give the same string. Four threads handle queries, so a query that waits for the
upstream can be overtaken; looking up the cache and storing an answer are two steps.

Strings are decoded with the default charset, here a parameter.
-/

namespace XnetZt

open Dns

structure CacheEntry where
  response : Bytes
  expiry : ℕ

def CacheEntry.isExpired (e : CacheEntry) (now : ℕ) : Bool := now > e.expiry

/-- Where the answer goes. -/
structure DnsClient where
  clientAddr : InetAddress
  clientPort : ℕ

/-- A query that found no answer in the cache. -/
structure DnsJob where
  query : Message
  client : DnsClient
  name : Text

/-- A datagram sent in answer to a query. -/
structure DnsReply where
  query : Message
  client : DnsClient
  datagram : Bytes

structure DnsProxy where
  cache : HashMap Text CacheEntry
  resolving : List DnsJob
  sent : List DnsReply

namespace DnsProxy

def cacheTtlMs : ℕ := 300000

/-! ### Parsing -/

/-- `while (pos < pkt.length && pkt[pos] != 0)` over the name of a question, with the rest
of the packet from `pos` on; a compression pointer ends the name. -/
def skipQuestionName : Bytes → Bytes
  | [] => []
  | b :: rest =>
    if b = 0 then b :: rest
    else if b &&& 0xc0 = 0xc0 then rest.drop 1
    else skipQuestionName (rest.drop b.toNat)
termination_by l => l.length
decreasing_by simp

def skipQuestions : ℕ → Bytes → Bytes
  | 0, rest => rest
  | _ + 1, [] => []
  | n + 1, b :: rest =>
    let rest := skipQuestionName (b :: rest)
    let rest := if rest.head? = some 0 then rest.drop 1 else rest
    skipQuestions n (rest.drop 4)

/-- The loop over the name of an answer; it stops at the zero byte. -/
def skipAnswerName : Bytes → Bytes
  | [] => []
  | b :: rest => if b = 0 then b :: rest else skipAnswerName (rest.drop b.toNat)
termination_by l => l.length
decreasing_by simp

def extractTtlMs (response : Bytes) : ℕ :=
  if response.length < 12 then cacheTtlMs
  else
    let rest := skipQuestions (BigEndian.word16 response 4) (response.drop 12)
    if 10 < rest.length then
      let rest := if rest.getD 0 0 &&& 0xc0 = 0xc0 then rest.drop 2 else skipAnswerName rest
      let rest := rest.drop 4
      if 4 ≤ rest.length then max (BigEndian.toNat (rest.take 4) * 1000) 60000 else cacheTtlMs
    else cacheTtlMs

def patchTransactionId (response query : Bytes) : Except JavaException Bytes := do
  let patched ← response.write 0 (← query.read 0)
  patched.write 1 (← query.read 1)

section Handle

variable (decode : Bytes → Text)

/-- `if (sb.length() > 0) sb.append('.')`, then the label. -/
def appendLabel (sb : Text) (label : Bytes) : Text :=
  (if sb = [] then sb else sb ++ ['.']) ++ decode label

/-- The loop of `extractQueryName` on the packet from `pos` on; `none` is `null`. -/
def extractLabels : Bytes → Text → Option Text
  | [], sb => some sb
  | len :: rest, sb =>
    if len = 0 then some sb
    else if rest.length < len.toNat then none
    else extractLabels (rest.drop len.toNat) (appendLabel decode sb (rest.take len.toNat))
termination_by l => l.length
decreasing_by simp

def extractQueryName (pkt : Bytes) : Option Text :=
  if pkt.length < 12 then none else extractLabels decode (pkt.drop 12) []

/-! ### Handling queries -/

/-- `handleQuery` up to the call of the upstream. An exception ends it. -/
def handleQuery (d : DnsProxy) (q : Message) (client : DnsClient) (now : ℕ) : DnsProxy :=
  let query := q.encode
  match extractQueryName decode query with
  | none => d
  | some name =>
    match (d.cache.lookup name).filter fun cached => !cached.isExpired now with
    | some cached =>
      match patchTransactionId cached.response query with
      | .ok response => { d with sent := ⟨q, client, response⟩ :: d.sent }
      | .error _ => d
    | none => { d with resolving := d.resolving ++ [⟨q, client, name⟩] }

/-- What an honest upstream is free to choose in its answer. -/
structure Answer where
  flags : BitVec 16
  counts : BitVec 48
  records : Bytes

/-- The answer has the id and the question of the query. -/
def Answer.message (a : Answer) (q : Message) : Message where
  id := q.id
  flags := a.flags
  counts := a.counts
  question := q.question
  records := a.records

/-- `handleQuery` after the upstream, with `none` for no answer. -/
def resolved (d : DnsProxy) (i : ℕ) (answer : Option Answer) (now : ℕ) : DnsProxy :=
  match d.resolving[i]?, answer with
  | some job, some a =>
    let response := (a.message job.query).encode
    { cache := d.cache.insert job.name ⟨response, now + extractTtlMs response⟩
      resolving := d.resolving.eraseIdx i
      sent := ⟨job.query, job.client, response⟩ :: d.sent }
  | some _, none => { d with resolving := d.resolving.eraseIdx i }
  | none, _ => d

inductive Event
  | query (q : Message) (client : DnsClient) (now : ℕ)
  | resolved (i : ℕ) (answer : Option Answer) (now : ℕ)

def step (d : DnsProxy) : Event → DnsProxy
  | .query q client now => d.handleQuery decode q client now
  | .resolved i answer now => d.resolved i answer now

def initial : DnsProxy := ⟨∅, [], []⟩

end Handle

/-! ### Names, ids and lifetimes -/

/-- The name of a question as the cache knows it. -/
def dottedName (decode : Bytes → Text) (qname : List Label) : Text :=
  qname.foldl (fun sb label => appendLabel decode sb label.bytes) []

theorem extractLabels_encodeName (decode : Bytes → Text) (qname : List Label) (rest : Bytes)
    (sb : Text) :
    extractLabels decode (encodeName qname ++ rest) sb =
      some (qname.foldl (fun sb label => appendLabel decode sb label.bytes) sb) := by
  induction qname generalizing sb with
  | nil => simp [encodeName, extractLabels]
  | cons label qname ih =>
    rw [encodeName_cons, List.append_assoc, Label.encode, List.cons_append, extractLabels,
      if_neg label.length_ne_zero, label.toNat_length, if_neg (by simp), List.drop_left,
      List.take_left, ih, List.foldl_cons]

/-- Every query with one question has a name, so none is dropped. -/
theorem extractQueryName_encode (decode : Bytes → Text) (q : Message) :
    extractQueryName decode q.encode = some (dottedName decode q.question.qname) := by
  have hhead : (BigEndian.ofNat 2 q.id.toNat ++ q.header).length = 12 := by
    simp [q.length_header]
  have hsplit : q.encode = (BigEndian.ofNat 2 q.id.toNat ++ q.header) ++
      (encodeName q.question.qname ++ (BigEndian.ofNat 2 q.question.qtype.toNat ++
        (BigEndian.ofNat 2 q.question.qclass.toNat ++ q.records))) := by
    simp [Message.encode, Question.encode]
  rw [extractQueryName, hsplit, if_neg (by rw [List.length_append]; omega), ← hhead,
    List.drop_left, extractLabels_encodeName, dottedName]

/-- The id is in the first two bytes, so the patched response is a message again. -/
theorem patchTransactionId_encode (m q : Message) :
    patchTransactionId m.encode q.encode = .ok { m with id := q.id }.encode := by
  simp [patchTransactionId, Message.encode, BigEndian.ofNat, Bytes.read, Bytes.write,
    Message.header]

/-- Answers stay in the cache for a minute at least. -/
theorem le_extractTtlMs (response : Bytes) : 60000 ≤ extractTtlMs response := by
  unfold extractTtlMs
  dsimp only
  split_ifs <;> simp [cacheTtlMs]

/-! ### Answering the question asked -/

/-- The datagram has the id and the question of the query. -/
def Answers (datagram : Bytes) (q : Message) : Prop :=
  ∃ m : Message, datagram = m.encode ∧ m.id = q.id ∧ m.question = q.question

def AnswersAsked (d : DnsProxy) : Prop := ∀ r ∈ d.sent, Answers r.datagram r.query

theorem answers_encode_iff {m q : Message} :
    Answers m.encode q ↔ m.id = q.id ∧ m.question = q.question := by
  constructor
  · rintro ⟨m', hm, hid, hquestion⟩
    obtain ⟨hid', hquestion'⟩ := Message.encode_inj hm
    exact ⟨hid'.trans hid, hquestion'.trans hquestion⟩
  · exact fun h => ⟨m, rfl, h⟩

section Cache

variable (decode : Bytes → Text)

/-- An answer the cache would give, by the name of the query, is to the same question. -/
def HitsSameQuestion (d : DnsProxy) : Event → Prop
  | .query q _ now => ∀ cached, d.cache.lookup (dottedName decode q.question.qname) = some cached →
    cached.isExpired now = false → ∀ m : Message, cached.response = m.encode →
      m.question = q.question
  | .resolved _ _ _ => True

/-- The cache holds messages. -/
structure Sound (d : DnsProxy) : Prop where
  answers : d.AnswersAsked
  cached : ∀ name entry, d.cache.lookup name = some entry → ∃ m : Message, entry.response = m.encode

variable {decode} {d : DnsProxy}

theorem handleQuery_hit {q m : Message} {now : ℕ} {cached : CacheEntry}
    (hlookup : d.cache.lookup (dottedName decode q.question.qname) = some cached)
    (hlive : cached.isExpired now = false) (hm : cached.response = m.encode) (client : DnsClient) :
    d.handleQuery decode q client now =
      { d with sent := ⟨q, client, { m with id := q.id }.encode⟩ :: d.sent } := by
  unfold handleQuery
  simp [extractQueryName_encode, hlookup, Option.filter_some, hlive, hm, patchTransactionId_encode]

theorem handleQuery_miss {q : Message} {now : ℕ}
    (hmiss : ∀ cached, d.cache.lookup (dottedName decode q.question.qname) = some cached →
      cached.isExpired now = true) (client : DnsClient) :
    d.handleQuery decode q client now =
      { d with resolving := d.resolving ++ [⟨q, client, dottedName decode q.question.qname⟩] } := by
  unfold handleQuery
  cases hlookup : d.cache.lookup (dottedName decode q.question.qname) with
  | none => simp [extractQueryName_encode, hlookup]
  | some cached => simp [extractQueryName_encode, hlookup, Option.filter_some, hmiss cached hlookup]

theorem Sound.query_iff (h : d.Sound) (q : Message) (client : DnsClient) (now : ℕ) :
    (d.handleQuery decode q client now).AnswersAsked ↔
      d.HitsSameQuestion decode (.query q client now) := by
  by_cases hhit : ∃ cached, d.cache.lookup (dottedName decode q.question.qname) = some cached ∧
      cached.isExpired now = false
  · obtain ⟨cached, hlookup, hlive⟩ := hhit
    obtain ⟨m, hm⟩ := h.cached _ _ hlookup
    rw [handleQuery_hit hlookup hlive hm]
    have hsent : Answers { m with id := q.id }.encode q ↔ m.question = q.question := by
      simp [answers_encode_iff]
    constructor
    · intro hall cached' hlookup' _ m' hm'
      obtain rfl := Option.some.inj (hlookup.symm.trans hlookup')
      rw [← (Message.encode_inj (hm.symm.trans hm')).2]
      exact hsent.mp (hall _ List.mem_cons_self)
    · intro hsame r hr
      obtain rfl | hr := List.mem_cons.mp hr
      · exact hsent.mpr (hsame cached hlookup hlive m hm)
      · exact h.answers r hr
  · have hmiss : ∀ cached, d.cache.lookup (dottedName decode q.question.qname) = some cached →
        cached.isExpired now = true := by
      intro cached hlookup
      by_contra hlive
      exact hhit ⟨cached, hlookup, by simpa using hlive⟩
    rw [handleQuery_miss hmiss]
    refine iff_of_true h.answers fun cached hlookup hlive => ?_
    rw [hmiss cached hlookup] at hlive
    cases hlive

/-- Queries leave the cache as it is. -/
theorem cache_handleQuery (q : Message) (client : DnsClient) (now : ℕ) :
    (d.handleQuery decode q client now).cache = d.cache := by
  unfold handleQuery
  dsimp only
  split
  · rfl
  · split
    · split <;> rfl
    · rfl

theorem Sound.resolved (h : d.Sound) (i : ℕ) (answer : Option Answer) (now : ℕ) :
    (d.resolved i answer now).Sound := by
  unfold DnsProxy.resolved
  split
  · next job a hjob =>
    constructor
    · intro r hr
      obtain rfl | hr := List.mem_cons.mp hr
      · exact answers_encode_iff.mpr ⟨rfl, rfl⟩
      · exact h.answers r hr
    · intro name entry hentry
      by_cases hname : name = job.name
      · subst hname
        rw [AList.lookup_insert] at hentry
        obtain rfl := Option.some.inj hentry
        exact ⟨_, rfl⟩
      · rw [AList.lookup_insert_ne hname] at hentry
        exact h.cached name entry hentry
  · exact ⟨h.answers, h.cached⟩
  · exact h

theorem Sound.answers_step_iff (h : d.Sound) (e : Event) :
    (d.step decode e).AnswersAsked ↔ d.HitsSameQuestion decode e := by
  cases e with
  | query q client now => exact h.query_iff q client now
  | resolved i answer now => exact iff_of_true (h.resolved i answer now).answers trivial

theorem Sound.step (h : d.Sound) {e : Event} (he : d.HitsSameQuestion decode e) :
    (d.step decode e).Sound := by
  refine ⟨(h.answers_step_iff e).mpr he, ?_⟩
  cases e with
  | query q client now =>
    rw [DnsProxy.step, cache_handleQuery]
    exact h.cached
  | resolved i answer now => exact (h.resolved i answer now).cached

theorem sound_initial : initial.Sound := by
  refine ⟨fun r hr => absurd hr List.not_mem_nil, fun name entry hentry => ?_⟩
  rw [initial, AList.lookup_empty] at hentry
  cases hentry

theorem Sound.throughout_answersAsked (h : d.Sound) {events : List Event} :
    Run.Throughout (DnsProxy.step decode) AnswersAsked d events ↔
      Run.Along (DnsProxy.step decode) (HitsSameQuestion decode) d events :=
  Run.throughout_iff_along (fun _ hd => hd.answers) (fun _ _ hd he => hd.step he)
    (fun _ e hd he hq => he ((hd.answers_step_iff e).mp hq)) h

end Cache

/-- Every datagram answers the question it was sent for exactly in the runs in which no
query finds a live answer to another question under its name. -/
theorem answersAsked_throughout_iff (decode : Bytes → Text) (events : List Event) :
    Run.Throughout (step decode) AnswersAsked initial events ↔
      Run.Along (step decode) (HitsSameQuestion decode) initial events :=
  sound_initial.throughout_answersAsked

/-- The address record of the name `a`, then its IPv6 address a minute later: the second
query gets the answer to the first. -/
theorem not_answersAsked_otherType :
    let decode : Bytes → Text := fun bytes => bytes.map fun b => Char.ofNat b.toNat
    let name : List Label := [⟨[0x61], by decide, by decide⟩]
    let client : DnsClient := ⟨.inet4 0xc0a82a0a, 5353⟩
    let queryA : Message := ⟨1, 0x0100, 0, ⟨name, 1, 1⟩, []⟩
    let queryAAAA : Message := ⟨2, 0x0100, 0, ⟨name, 28, 1⟩, []⟩
    ¬ Run.Throughout (step decode) AnswersAsked initial
      [.query queryA client 0, .resolved 0 (some ⟨0x8180, 0, []⟩) 0,
        .query queryAAAA client 60000] := by
  intro decode name client queryA queryAAAA h
  have hnone : ∀ cached, initial.cache.lookup (dottedName decode name) = some cached →
      cached.isExpired 0 = true := fun _ hlookup => by simp [initial] at hlookup
  have hmiss : initial.step decode (.query queryA client 0) =
      ⟨∅, [⟨queryA, client, dottedName decode name⟩], []⟩ := handleQuery_miss hnone client
  have hfirst : DnsProxy.Sound ⟨∅, [⟨queryA, client, dottedName decode name⟩], []⟩ :=
    ⟨sound_initial.answers, sound_initial.cached⟩
  have hlast := h.last
  rw [List.foldl_cons, hmiss] at hlast
  have hsecond := hfirst.resolved 0 (some ⟨0x8180, 0, []⟩) 0
  have hhit := (hsecond.query_iff queryAAAA client 60000).mp hlast
  have hquestion := hhit _ (AList.lookup_insert _)
    (by simpa [CacheEntry.isExpired] using le_extractTtlMs _) _ rfl
  revert hquestion
  decide

/-! ### Queries that collide -/

section Collisions

variable (decode : Bytes → Text)

/-- The event stores an answer under the name. -/
def StoresUnder (name : Text) (d : DnsProxy) : Event → Prop
  | .resolved i (some _) _ => ∃ job, d.resolving[i]? = some job ∧ job.name = name
  | _ => False

/-- The event stores this entry under the name. -/
def Stores (name : Text) (entry : CacheEntry) (d : DnsProxy) : Event → Prop
  | .resolved i (some a) now => ∃ job, d.resolving[i]? = some job ∧ job.name = name ∧
    entry = ⟨(a.message job.query).encode, now + extractTtlMs (a.message job.query).encode⟩
  | _ => False

/-- After these events the query `q` finds the answer to `earlier`: a query before it whose
name gives the same string, the last one with that string to be answered, and not so long ago
that the answer has expired. -/
inductive FindsAnswerTo (events : List Event) (q : Message) (now : ℕ) (earlier : Message) : Prop
  | intro (before later : List Event) (i : ℕ) (a : Answer) (time asked : ℕ) (client : DnsClient)
      (hevents : events = before ++ .resolved i (some a) time :: later)
      (hquery : .query earlier client asked ∈ before)
      (hname : dottedName decode earlier.question.qname = dottedName decode q.question.qname)
      (hjob : (before.foldl (step decode) initial).resolving[i]? =
        some ⟨earlier, client, dottedName decode q.question.qname⟩)
      (hlast : Run.Along (step decode)
        (fun d e => ¬ d.StoresUnder (dottedName decode q.question.qname) e)
        ((before.foldl (step decode) initial).step decode (.resolved i (some a) time)) later)
      (hfresh : now ≤ time + extractTtlMs (a.message earlier).encode)

variable {decode} {d : DnsProxy}

theorem lookup_step_iff (d : DnsProxy) (e : Event) (name : Text) (entry : CacheEntry) :
    (d.step decode e).cache.lookup name = some entry ↔
      d.cache.lookup name = some entry ∧ ¬ d.StoresUnder name e ∨ d.Stores name entry e := by
  cases e with
  | query q client now => simp [step, cache_handleQuery, StoresUnder, Stores]
  | resolved i answer now =>
    cases hjob : d.resolving[i]? with
    | none => cases answer <;> simp [step, resolved, StoresUnder, Stores, hjob]
    | some job =>
      cases answer with
      | none => simp [step, resolved, StoresUnder, Stores, hjob]
      | some a =>
        by_cases hname : name = job.name
        · subst hname
          simp [step, resolved, StoresUnder, Stores, hjob, eq_comm]
        · simp [step, resolved, StoresUnder, Stores, hjob, hname, Ne.symm hname]

/-- An entry comes from the last event that stored one under its name. -/
theorem lookup_foldl_iff (events : List Event) (name : Text) (entry : CacheEntry) :
    (events.foldl (step decode) initial).cache.lookup name = some entry ↔
      ∃ before e later, events = before ++ e :: later ∧
        (before.foldl (step decode) initial).Stores name entry e ∧
        Run.Along (step decode) (fun d e => ¬ d.StoresUnder name e)
          ((before.foldl (step decode) initial).step decode e) later := by
  have hinv : ∀ (_ : DnsProxy) (_ : Event), True → True := fun _ _ h => h
  refine (Run.foldl_iff_along_since (Q := fun d : DnsProxy => d.cache.lookup name = some entry)
    hinv (fun d e _ => lookup_step_iff d e name entry) events trivial).trans
    (or_iff_right fun h => ?_)
  exact nomatch (AList.lookup_empty name).symm.trans h.1

theorem mem_resolving_step {e : Event} {job : DnsJob} (h : job ∈ (d.step decode e).resolving) :
    job ∈ d.resolving ∨ ∃ now, e = .query job.query job.client now ∧
      job.name = dottedName decode job.query.question.qname := by
  cases e with
  | query q client now =>
    rw [step, handleQuery] at h
    simp only [extractQueryName_encode] at h
    split at h
    · split at h
      · exact Or.inl h
      · exact Or.inl h
    · rcases List.mem_append.mp h with h | h
      · exact Or.inl h
      · obtain rfl := List.mem_singleton.mp h
        exact Or.inr ⟨now, rfl, rfl⟩
  | resolved i answer now =>
    unfold step resolved at h
    dsimp only at h
    split at h
    · exact Or.inl (List.mem_of_mem_eraseIdx h)
    · exact Or.inl (List.mem_of_mem_eraseIdx h)
    · exact Or.inl h

/-- What waits for the upstream has been asked before. -/
theorem asked_of_mem_resolving {events : List Event} {job : DnsJob}
    (h : job ∈ (events.foldl (step decode) initial).resolving) :
    job.name = dottedName decode job.query.question.qname ∧
      ∃ now, .query job.query job.client now ∈ events := by
  induction events using List.reverseRecOn with
  | nil => exact absurd h List.not_mem_nil
  | append_singleton events e ih =>
    rw [List.foldl_append, List.foldl_cons, List.foldl_nil] at h
    rcases mem_resolving_step h with h | ⟨now, rfl, hname⟩
    · obtain ⟨hname, now, hmem⟩ := ih h
      exact ⟨hname, now, List.mem_append_left _ hmem⟩
    · exact ⟨hname, now, by simp⟩

theorem hitsSameQuestion_iff (events : List Event) (q : Message) (client : DnsClient) (now : ℕ) :
    (events.foldl (step decode) initial).HitsSameQuestion decode (.query q client now) ↔
      ∀ earlier, FindsAnswerTo decode events q now earlier → earlier.question = q.question := by
  constructor
  · rintro h earlier ⟨before, later, i, a, time, asked, client', rfl, -, -, hjob, hlast, hfresh⟩
    refine h ⟨(a.message earlier).encode, time + extractTtlMs (a.message earlier).encode⟩ ?_ ?_
      (a.message earlier) rfl
    · exact (lookup_foldl_iff ..).mpr ⟨before, _, later, rfl, ⟨_, hjob, rfl, rfl⟩, hlast⟩
    · simpa [CacheEntry.isExpired] using hfresh
  · intro h cached hlookup hlive m hm
    obtain ⟨before, e, later, rfl, hstores, hlast⟩ := (lookup_foldl_iff ..).mp hlookup
    cases e with
    | query q' client' now' => exact hstores.elim
    | resolved i answer time =>
      cases answer with
      | none => exact hstores.elim
      | some a =>
        obtain ⟨⟨earlier, client', name⟩, hjob, rfl, rfl⟩ := hstores
        obtain ⟨hname, asked, hquery⟩ := asked_of_mem_resolving (List.mem_of_getElem? hjob)
        have hfresh : now ≤ time + extractTtlMs (a.message earlier).encode := by
          simpa [CacheEntry.isExpired] using hlive
        rw [← (Message.encode_inj hm).2]
        exact h earlier ⟨before, later, i, a, time, asked, client', rfl, hquery, hname.symm, hjob,
          hlast, hfresh⟩

/-- No query finds the answer to an earlier one that asked for something else. -/
theorem along_hitsSameQuestion_iff (decode : Bytes → Text) (events : List Event) :
    Run.Along (step decode) (HitsSameQuestion decode) initial events ↔
      ∀ before q client now later, events = before ++ .query q client now :: later →
        ∀ earlier, FindsAnswerTo decode before q now earlier →
          earlier.question = q.question := by
  rw [Run.along_iff_forall]
  constructor
  · intro h before q client now later hevents
    exact (hitsSameQuestion_iff before q client now).mp (h before _ later hevents)
  · intro h before e later hevents
    cases e with
    | query q client now =>
      exact (hitsSameQuestion_iff before q client now).mpr (h before q client now later hevents)
    | resolved i answer now => trivial

theorem sent_step (d : DnsProxy) (e : Event) : d.sent ⊆ (d.step decode e).sent := by
  cases e with
  | query q client now =>
    rw [step, handleQuery]
    split
    · exact List.Subset.refl _
    · split
      · split
        · exact List.subset_cons_self _ _
        · exact List.Subset.refl _
      · exact List.Subset.refl _
  | resolved i answer now =>
    unfold step resolved
    dsimp only
    split
    · exact List.subset_cons_self _ _
    · exact List.Subset.refl _
    · exact List.Subset.refl _

/-- The datagrams sent until the end say it all. -/
theorem answersAsked_foldl_iff (decode : Bytes → Text) (events : List Event) :
    (events.foldl (step decode) initial).AnswersAsked ↔
      Run.Along (step decode) (HitsSameQuestion decode) initial events := by
  rw [← sound_initial.throughout_answersAsked]
  exact (Run.throughout_iff_last fun d e h r hr => h r (sent_step d e hr)).symm

end Collisions

end DnsProxy

end XnetZt
