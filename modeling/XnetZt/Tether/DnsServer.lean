import XnetZt.Tether.DnsProxy

/-!
# The DNS proxy as a server

The listening thread copies each datagram, cut to 512 bytes, into a task of a pool of four
threads. Queries and answers are any bytes here. A thread that waits for the upstream cannot be
interrupted, so `stop` leaves it: its answer still gets into the cache, and is sent if the server
has been started again in the meantime.

Whatever the order of events, every datagram sent to a client is the answer of the upstream to
its own query, or an answer that the upstream has given for the same name not longer ago than
its lifetime, and no query is answered twice.
-/

namespace XnetZt

structure DnsQuery where
  /-- The number of the datagram. -/
  id : ℕ
  bytes : Bytes
  client : DnsClient

/-- A thread of a pool that waits for the upstream. -/
structure DnsWorker where
  pool : ℕ
  query : DnsQuery
  name : Text

/-- A datagram sent to the client of a query. -/
structure DnsDatagram where
  query : DnsQuery
  datagram : Bytes
  time : ℕ

structure DnsServer where
  running : Bool
  received : ℕ
  /-- The number of the current pool. -/
  executor : ℕ
  tasks : List DnsQuery
  workers : List DnsWorker
  cache : HashMap Text CacheEntry
  sent : List DnsDatagram

namespace DnsServer

open DnsProxy

def initial : DnsServer := ⟨false, 0, 0, [], [], ∅, []⟩

def maxPacket : ℕ := 512

def poolSize : ℕ := 4

variable (decode : Bytes → Text) (d : DnsServer)

/-- A new pool, with threads of its own. -/
def start : DnsServer :=
  if d.running then d else { d with running := true, executor := d.executor + 1 }

/-- `shutdownNow` drops the tasks that wait. -/
def stop : DnsServer := { d with running := false, tasks := [], cache := ∅ }

/-- One round of the loop of `runServer`. -/
def receive (datagram : Bytes) (client : DnsClient) : DnsServer :=
  if d.running then
    { d with
      received := d.received + 1
      tasks := d.tasks ++ [⟨d.received, datagram.take maxPacket, client⟩] }
  else d

/-- On a socket that has been closed `send` throws, which is caught. -/
def sendResponse (query : DnsQuery) (response : Bytes) (now : ℕ) : DnsServer :=
  if d.running then { d with sent := ⟨query, response, now⟩ :: d.sent } else d

/-- `handleQuery` up to the call of the upstream. -/
def handleQuery (q : DnsQuery) (now : ℕ) : DnsServer :=
  match extractQueryName decode q.bytes with
  | none => d
  | some name =>
    match (d.cache.lookup name).filter fun cached => !cached.isExpired now with
    | some cached =>
      match patchTransactionId cached.response q.bytes with
      | .ok response => d.sendResponse q response now
      | .error _ => d
    | none => { d with workers := d.workers ++ [⟨d.executor, q, name⟩] }

/-- A free thread of the pool takes the next task. -/
def take (now : ℕ) : DnsServer :=
  match d.tasks with
  | [] => d
  | q :: tasks =>
    if d.workers.countP (·.pool = d.executor) < poolSize then
      { d with tasks := tasks }.handleQuery decode q now
    else d

/-- `handleQuery` after the upstream. There is no response if the request fails. -/
def resolved (i : ℕ) (response : Option Bytes) (now : ℕ) : DnsServer :=
  match d.workers[i]? with
  | none => d
  | some worker =>
    let d := { d with workers := d.workers.eraseIdx i }
    match response with
    | none => d
    | some response =>
      { d with
        cache := d.cache.insert worker.name ⟨response, now + extractTtlMs response⟩ }.sendResponse
        worker.query response now

inductive Event
  | start
  | stop
  | receive (datagram : Bytes) (client : DnsClient)
  | take (now : ℕ)
  | resolved (i : ℕ) (response : Option Bytes) (now : ℕ)

def step (d : DnsServer) : Event → DnsServer
  | .start => d.start
  | .stop => d.stop
  | .receive datagram client => d.receive datagram client
  | .take now => d.take decode now
  | .resolved i response now => d.resolved i response now

/-- The state after these events. -/
def after (events : List Event) : DnsServer := events.foldl (step decode) initial

/-! ### Where datagrams come from -/

/-- The upstream has given this response for the name at this time, and the cache has not been
cleared since. -/
def Stored (events : List Event) (name : Text) (response : Bytes) (time : ℕ) : Prop :=
  ∃ before i later worker, events = before ++ .resolved i (some response) time :: later ∧
    (after decode before).workers[i]? = some worker ∧ worker.name = name ∧
    ∀ e ∈ later, e ≠ .stop

inductive Source (events : List Event) (r : DnsDatagram) : Prop
  /-- The answer to the query itself, just received. -/
  | upstream (before later : List Event) (i : ℕ) (worker : DnsWorker)
      (hevents : events = before ++ .resolved i (some r.datagram) r.time :: later)
      (hworker : (after decode before).workers[i]? = some worker) (hquery : worker.query = r.query)
  /-- An answer for the same name that has not expired, with the id of the query. -/
  | cache (before later : List Event) (name : Text) (response : Bytes) (time : ℕ)
      (hevents : events = before ++ .take r.time :: later)
      (hname : extractQueryName decode r.query.bytes = some name)
      (hstored : Stored decode before name response time)
      (hfresh : r.time ≤ time + extractTtlMs response)
      (hpatched : patchTransactionId response r.query.bytes = .ok r.datagram)

/-- What the events so far say about the state. -/
structure Explained (events : List Event) (d : DnsServer) : Prop where
  cached : ∀ name entry, d.cache.lookup name = some entry →
    ∃ time, Stored decode events name entry.response time ∧
      entry.expiry = time + extractTtlMs entry.response
  sent : ∀ r ∈ d.sent, Source decode events r

variable {decode d} {events : List Event}

theorem Stored.append {name : Text} {response : Bytes} {time : ℕ}
    (h : Stored decode events name response time) {e : Event} (he : e ≠ .stop) :
    Stored decode (events ++ [e]) name response time := by
  obtain ⟨before, i, later, worker, rfl, hworker, hname, hlater⟩ := h
  refine ⟨before, i, later ++ [e], worker, by simp, hworker, hname, fun x hx => ?_⟩
  rcases List.mem_append.mp hx with hx | hx
  · exact hlater x hx
  · rw [List.mem_singleton.mp hx]
    exact he

theorem Source.append {r : DnsDatagram} (h : Source decode events r) (e : Event) :
    Source decode (events ++ [e]) r := by
  cases h with
  | upstream before later i worker hevents hworker hquery =>
    exact .upstream before (later ++ [e]) i worker (by simp [hevents]) hworker hquery
  | cache before later name response time hevents hname hstored hfresh hpatched =>
    exact .cache before (later ++ [e]) name response time (by simp [hevents]) hname hstored hfresh
      hpatched

/-- A step that leaves the cache and sends nothing. -/
theorem Explained.append (h : Explained decode events d) {e : Event} (he : e ≠ .stop)
    {d' : DnsServer} (hcache : d'.cache = d.cache) (hsent : d'.sent = d.sent) :
    Explained decode (events ++ [e]) d' where
  cached name entry hentry := by
    rw [hcache] at hentry
    obtain ⟨time, hstored, hexpiry⟩ := h.cached name entry hentry
    exact ⟨time, hstored.append he, hexpiry⟩
  sent r hr := by
    rw [hsent] at hr
    exact (h.sent r hr).append e

theorem Explained.sendResponse (h : Explained decode events d) {query : DnsQuery}
    {response : Bytes} {now : ℕ} (hsource : Source decode events ⟨query, response, now⟩) :
    Explained decode events (d.sendResponse query response now) := by
  unfold DnsServer.sendResponse
  split_ifs
  · refine ⟨h.cached, fun r hr => ?_⟩
    rcases List.mem_cons.mp hr with rfl | hr
    · exact hsource
    · exact h.sent r hr
  · exact h

theorem Explained.take (h : Explained decode events d) (now : ℕ) :
    Explained decode (events ++ [.take now]) (d.take decode now) := by
  have hkeep : ∀ d' : DnsServer, d'.cache = d.cache → d'.sent = d.sent →
      Explained decode (events ++ [.take now]) d' := fun d' => h.append (by simp)
  unfold DnsServer.take
  cases d.tasks with
  | nil => exact hkeep d rfl rfl
  | cons q tasks =>
    dsimp only
    split_ifs
    · unfold DnsServer.handleQuery
      cases hname : extractQueryName decode q.bytes with
      | none => exact hkeep _ rfl rfl
      | some name =>
        dsimp only
        cases hcached : (d.cache.lookup name).filter fun cached => !cached.isExpired now with
        | none => exact hkeep _ rfl rfl
        | some cached =>
          dsimp only
          obtain ⟨hlookup, hlive⟩ := Option.filter_eq_some_iff.mp hcached
          cases hpatched : patchTransactionId cached.response q.bytes with
          | error e => exact hkeep _ rfl rfl
          | ok response =>
            obtain ⟨time, hstored, hexpiry⟩ := h.cached name cached hlookup
            refine (hkeep { d with tasks := tasks } rfl rfl).sendResponse ?_
            refine .cache events [] name cached.response time rfl hname hstored ?_ hpatched
            rw [← hexpiry]
            simpa [CacheEntry.isExpired] using hlive
    · exact hkeep d rfl rfl

theorem Explained.resolved (h : Explained decode events d) (hd : d = after decode events) (i : ℕ)
    (response : Option Bytes) (now : ℕ) :
    Explained decode (events ++ [.resolved i response now]) (d.resolved i response now) := by
  have hkeep : ∀ d' : DnsServer, d'.cache = d.cache → d'.sent = d.sent →
      Explained decode (events ++ [.resolved i response now]) d' :=
    fun d' => h.append (by simp)
  unfold DnsServer.resolved
  cases hworker : d.workers[i]? with
  | none => exact hkeep d rfl rfl
  | some worker =>
    cases response with
    | none => exact hkeep _ rfl rfl
    | some response =>
      dsimp only
      have hworker' : (after decode events).workers[i]? = some worker := by rw [← hd, hworker]
      have hstored : Stored decode (events ++ [.resolved i (some response) now]) worker.name
          response now :=
        ⟨events, i, [], worker, rfl, hworker', rfl, fun _ h => nomatch h⟩
      have hinserted : Explained decode (events ++ [.resolved i (some response) now]) { d with
          workers := d.workers.eraseIdx i
          cache := d.cache.insert worker.name ⟨response, now + extractTtlMs response⟩ } := by
        refine ⟨fun name entry hentry => ?_, (hkeep d rfl rfl).sent⟩
        by_cases hname : name = worker.name
        · subst hname
          rw [AList.lookup_insert] at hentry
          obtain rfl := Option.some.inj hentry
          exact ⟨now, hstored, rfl⟩
        · rw [AList.lookup_insert_ne hname] at hentry
          exact (hkeep d rfl rfl).cached name entry hentry
      exact hinserted.sendResponse (.upstream events [] i worker rfl hworker' rfl)

theorem Explained.step (h : Explained decode events d) (hd : d = after decode events) (e : Event) :
    Explained decode (events ++ [e]) (d.step decode e) := by
  cases e with
  | start =>
    unfold DnsServer.step DnsServer.start
    dsimp only
    split_ifs
    · exact h.append (by simp) rfl rfl
    · exact h.append (by simp) rfl rfl
  | stop => exact ⟨fun _ _ h => (nomatch h), fun r hr => (h.sent r hr).append .stop⟩
  | receive datagram client =>
    unfold DnsServer.step DnsServer.receive
    dsimp only
    split_ifs
    · exact h.append (by simp) rfl rfl
    · exact h.append (by simp) rfl rfl
  | take now => exact h.take now
  | resolved i response now => exact h.resolved hd i response now

/-- Every datagram sent is the answer of the upstream to its query, or an answer for the same
name from the cache that has been there no longer than its lifetime, and since the last stop. -/
theorem source_of_mem_sent (decode : Bytes → Text) (events : List Event) :
    ∀ r ∈ (after decode events).sent, Source decode events r := by
  have hexplained : Explained decode events (after decode events) := by
    induction events using List.reverseRecOn with
    | nil => exact ⟨fun _ _ h => (nomatch h), fun _ h => (nomatch h)⟩
    | append_singleton events e ih =>
      have hafter : after decode (events ++ [e]) = (after decode events).step decode e := by
        simp [after]
      rw [hafter]
      exact ih.step rfl e
  exact hexplained.sent

/-- A query for the root, twice; the second is answered from the cache. -/
def rootQueries : List Event :=
  let query := Event.receive (Bytes.zeros 12) ⟨.inet4 0x0a000001, 5353⟩
  [.start, query, .take 0, .resolved 0 (some [1, 2, 3]) 1, query, .take 300001]

theorem sent_rootQueries : (after (fun _ => []) rootQueries).sent =
    [⟨⟨1, Bytes.zeros 12, ⟨.inet4 0x0a000001, 5353⟩⟩, [0, 0, 3], 300001⟩,
      ⟨⟨0, Bytes.zeros 12, ⟨.inet4 0x0a000001, 5353⟩⟩, [1, 2, 3], 1⟩] := by
  have hname : extractQueryName (fun _ => []) (Bytes.zeros 12) = some [] := by
    simp [extractQueryName, extractLabels, Bytes.zeros]
  have htake : (Bytes.zeros 12).take maxPacket = Bytes.zeros 12 := by decide
  have hlookup : ∀ e : CacheEntry,
      (AList.singleton [] e : HashMap Text CacheEntry).lookup [] = some e := fun _ => rfl
  have hpatched : patchTransactionId [1#8, 2#8, 3#8] (Bytes.zeros 12) = .ok [0, 0, 3] := rfl
  simp [after, rootQueries, step, start, receive, take, handleQuery, resolved, sendResponse,
    initial, hname, htake, hlookup, poolSize, extractTtlMs, cacheTtlMs, CacheEntry.isExpired,
    Option.filter, hpatched]

theorem source_of_mem_sent_rootQueries :
    let r : DnsDatagram := ⟨⟨1, Bytes.zeros 12, ⟨.inet4 0x0a000001, 5353⟩⟩, [0, 0, 3], 300001⟩
    r ∈ (after (fun _ => []) rootQueries).sent ∧ Source (fun _ => []) rootQueries r := by
  have hsent : ⟨⟨1, Bytes.zeros 12, ⟨.inet4 0x0a000001, 5353⟩⟩, [0, 0, 3], 300001⟩ ∈
      (after (fun _ => []) rootQueries).sent := by
    rw [sent_rootQueries]
    exact List.mem_cons_self
  exact ⟨hsent, source_of_mem_sent _ _ _ hsent⟩

/-! ### One answer at most -/

/-- The datagrams that are in some place. -/
def ids (d : DnsServer) : List ℕ :=
  d.tasks.map (·.id) ++ (d.workers.map (·.query.id) ++ d.sent.map (·.query.id))

structure Numbered (d : DnsServer) : Prop where
  lt : ∀ n ∈ d.ids, n < d.received
  nodup : d.ids.Nodup
  pools : ∀ p, d.workers.countP (·.pool = p) ≤ poolSize

/-- No datagram comes into a second place. -/
theorem Numbered.of_count_le (h : d.Numbered) {d' : DnsServer}
    (hreceived : d'.received = d.received) (hids : ∀ n, d'.ids.count n ≤ d.ids.count n)
    (hpools : ∀ p, d'.workers.countP (·.pool = p) ≤ poolSize) : d'.Numbered where
  lt n hn := by
    rw [hreceived]
    exact h.lt n (List.count_pos_iff.mp ((List.count_pos_iff.mpr hn).trans_le (hids n)))
  nodup := List.nodup_iff_count_le_one.mpr fun n =>
    (hids n).trans (List.nodup_iff_count_le_one.mp h.nodup n)
  pools := hpools

theorem count_ids (d : DnsServer) (n : ℕ) :
    d.ids.count n = (d.tasks.map (·.id)).count n + ((d.workers.map (·.query.id)).count n +
      (d.sent.map (·.query.id)).count n) := by
  simp [ids]

/-- What is sent was in another place before. -/
theorem Numbered.sendResponse (h : d.Numbered) (d' : DnsServer) {query : DnsQuery}
    (hreceived : d'.received = d.received)
    (hids : ∀ n, d'.ids.count n + [query.id].count n ≤ d.ids.count n)
    (hpools : ∀ p, d'.workers.countP (·.pool = p) ≤ poolSize) (response : Bytes) (now : ℕ) :
    (d'.sendResponse query response now).Numbered := by
  unfold DnsServer.sendResponse
  split_ifs
  · refine h.of_count_le hreceived (fun n => ?_) hpools
    have hn := hids n
    simp only [count_ids, List.map_cons, List.count_cons, List.count_nil] at hn ⊢
    omega
  · exact h.of_count_le hreceived (fun n => (Nat.le_add_right _ _).trans (hids n)) hpools

theorem Numbered.take (h : d.Numbered) (now : ℕ) : (d.take decode now).Numbered := by
  unfold DnsServer.take
  cases htasks : d.tasks with
  | nil => exact h
  | cons q tasks =>
    dsimp only
    split_ifs with hfree
    · have hids : ∀ n, (ids { d with tasks := tasks }).count n + [q.id].count n ≤
          d.ids.count n := by
        intro n
        simp only [count_ids, htasks, List.map_cons, List.count_cons, List.count_nil]
        omega
      have hdropped : Numbered { d with tasks := tasks } :=
        h.of_count_le rfl (fun n => (Nat.le_add_right _ _).trans (hids n)) h.pools
      unfold DnsServer.handleQuery
      split
      · exact hdropped
      · split
        · split
          · exact h.sendResponse { d with tasks := tasks } rfl hids h.pools _ now
          · exact hdropped
        · rename_i name _ _
          -- the thread was free, so its pool has room
          refine h.of_count_le rfl (fun n => ?_) fun p => ?_
          · have hn := hids n
            simp only [count_ids, List.map_append, List.map_cons, List.map_nil,
              List.count_append] at hn ⊢
            omega
          · have hp := h.pools p
            rw [List.countP_append, List.countP_singleton]
            by_cases hpool : d.executor = p
            · subst hpool
              simpa using hfree
            · simpa [hpool] using hp
    · exact h

theorem Numbered.resolved (h : d.Numbered) (i : ℕ) (response : Option Bytes) (now : ℕ) :
    (d.resolved i response now).Numbered := by
  unfold DnsServer.resolved
  cases hworker : d.workers[i]? with
  | none => exact h
  | some worker =>
    obtain ⟨hi, rfl⟩ := List.getElem?_eq_some_iff.mp hworker
    have hperm := List.getElem_cons_eraseIdx_perm hi
    have hcount : ∀ n, ((d.workers.eraseIdx i).map (·.query.id)).count n +
        [d.workers[i].query.id].count n = (d.workers.map (·.query.id)).count n := by
      intro n
      rw [← (hperm.map (·.query.id)).count_eq n, List.map_cons, List.count_cons]
      simp [List.count_cons]
    have hpools : ∀ p, (d.workers.eraseIdx i).countP (·.pool = p) ≤ poolSize := fun p =>
      ((List.eraseIdx_sublist d.workers i).countP_le).trans (h.pools p)
    cases response with
    | none =>
      refine h.of_count_le rfl (fun n => ?_) hpools
      have hn := hcount n
      simp only [count_ids]
      omega
    | some response =>
      refine h.sendResponse { d with
        workers := d.workers.eraseIdx i
        cache := d.cache.insert d.workers[i].name ⟨response, now + extractTtlMs response⟩ } rfl
        (fun n => ?_) hpools response now
      have hn := hcount n
      simp only [count_ids]
      omega

theorem Numbered.receive (h : d.Numbered) (datagram : Bytes) (client : DnsClient) :
    (d.receive datagram client).Numbered := by
  unfold DnsServer.receive
  split_ifs
  · have hnew : d.received ∉ d.ids := fun hmem => lt_irrefl _ (h.lt _ hmem)
    have hids : (ids { d with
        received := d.received + 1
        tasks := d.tasks ++ [⟨d.received, datagram.take maxPacket, client⟩] }).Perm
          (d.received :: d.ids) := by
      simp only [ids, List.map_append, List.map_cons, List.map_nil, List.append_assoc,
        List.singleton_append]
      exact List.perm_middle
    refine ⟨fun n hn => ?_, hids.nodup_iff.mpr (List.nodup_cons.mpr ⟨hnew, h.nodup⟩), h.pools⟩
    rcases List.mem_cons.mp (hids.mem_iff.mp hn) with rfl | hn
    · exact Nat.lt_succ_self _
    · exact Nat.lt_succ_of_lt (h.lt n hn)
  · exact h

theorem Numbered.step (h : d.Numbered) (e : Event) : (d.step decode e).Numbered := by
  cases e with
  | start =>
    unfold DnsServer.step DnsServer.start
    dsimp only
    split_ifs
    · exact h
    · exact { h with }
  | stop =>
    refine h.of_count_le rfl (fun n => ?_) h.pools
    simp only [DnsServer.step, DnsServer.stop, count_ids, List.map_nil, List.count_nil]
    omega
  | receive datagram client => exact h.receive datagram client
  | take now => exact h.take now
  | resolved i response now => exact h.resolved i response now

/-- In every state of every run, a query that has been answered is in no other place and has
been answered once, and no pool has more than its four threads at work. -/
theorem throughout_answered_once (decode : Bytes → Text) (events : List Event) :
    Run.Throughout (step decode)
      (fun d => (d.sent.map (·.query.id)).Nodup ∧
        (∀ r ∈ d.sent, r.query.id ∉ d.tasks.map (·.id) ∧
          r.query.id ∉ d.workers.map (·.query.id)) ∧
        ∀ p, d.workers.countP (·.pool = p) ≤ poolSize)
      initial events := by
  have hinitial : initial.Numbered :=
    ⟨fun _ h => (nomatch h), List.nodup_nil, fun _ => Nat.zero_le _⟩
  have hnumbered : Run.Throughout (step decode) Numbered initial events :=
    Run.throughout_of_step (fun _ e h => h.step e) events hinitial
  refine hnumbered.mono fun d h => ?_
  obtain ⟨-, hrest, htasks⟩ := List.nodup_append.mp h.nodup
  obtain ⟨-, hsent, hworkers⟩ := List.nodup_append.mp hrest
  refine ⟨hsent, fun r hr => ?_, h.pools⟩
  have hmem : r.query.id ∈ d.sent.map (·.query.id) := List.mem_map_of_mem hr
  exact ⟨fun ht => htasks _ ht _ (List.mem_append_right _ hmem) rfl,
    fun hw => hworkers _ hw _ hmem rfl⟩

/-! ### Well-formed messages

Where clients send queries with one question and the upstream answers what it is asked, the
server is the proxy of messages, as long as it runs. -/

/-- The proxy of messages is in the same state. -/
structure Matches (d : DnsServer) (p : DnsProxy) : Prop where
  running : d.running = true
  tasks : ∀ q ∈ d.tasks, ∃ m : Dns.Message, q.bytes = m.encode
  cache : d.cache = p.cache
  workers : List.Forall₂ (fun w job => w.query.bytes = job.query.encode ∧
    w.query.client = job.client ∧ w.name = job.name) d.workers p.resolving
  sent : List.Forall₂ (fun r reply => r.query.bytes = reply.query.encode ∧
    r.query.client = reply.client ∧ r.datagram = reply.datagram) d.sent p.sent

variable {p : DnsProxy}

theorem Matches.sendResponse (h : d.Matches p) {query : DnsQuery} {m : Dns.Message}
    (hquery : query.bytes = m.encode) (response : Bytes) (now : ℕ) :
    (d.sendResponse query response now).Matches
      { p with sent := ⟨m, query.client, response⟩ :: p.sent } := by
  rw [DnsServer.sendResponse, if_pos h.running]
  exact { h with sent := .cons ⟨hquery, rfl, rfl⟩ h.sent }

/-- On well-formed queries the server does what the proxy of messages does. -/
theorem Matches.handleQuery (h : d.Matches p) {q : DnsQuery} {m : Dns.Message}
    (hq : q.bytes = m.encode) (now : ℕ) :
    (d.handleQuery decode q now).Matches (p.handleQuery decode m q.client now) := by
  have hlookup : ∀ name, d.cache.lookup name = p.cache.lookup name := fun _ => by rw [h.cache]
  unfold DnsServer.handleQuery DnsProxy.handleQuery
  rw [hq]
  dsimp only
  cases extractQueryName decode m.encode with
  | none => exact h
  | some name =>
    dsimp only
    rw [hlookup]
    cases (p.cache.lookup name).filter fun cached => !cached.isExpired now with
    | none =>
      exact { h with
        workers := List.rel_append h.workers (.cons ⟨hq, rfl, rfl⟩ .nil) }
    | some cached =>
      dsimp only
      cases patchTransactionId cached.response m.encode with
      | error e => exact h
      | ok response => exact h.sendResponse hq response now

theorem forall₂_eraseIdx {α β : Type} {R : α → β → Prop} {l : List α} {l' : List β}
    (h : List.Forall₂ R l l') {i : ℕ} {b : β} (hb : l'[i]? = some b) :
    (∃ a, l[i]? = some a ∧ R a b) ∧ List.Forall₂ R (l.eraseIdx i) (l'.eraseIdx i) := by
  induction h generalizing i with
  | nil => exact nomatch hb
  | @cons a b' l l' hab hrest ih =>
    cases i with
    | zero =>
      obtain rfl := Option.some.inj hb
      exact ⟨⟨a, rfl, hab⟩, hrest⟩
    | succ i =>
      obtain ⟨hget, herase⟩ := ih hb
      exact ⟨hget, .cons hab herase⟩

/-- So it does on answers of an honest upstream. -/
theorem Matches.resolved (h : d.Matches p) {i : ℕ} {job : DnsJob}
    (hjob : p.resolving[i]? = some job) (answer : Option Answer) (now : ℕ) :
    (d.resolved i (answer.map fun a => (a.message job.query).encode) now).Matches
      (p.resolved i answer now) := by
  obtain ⟨⟨worker, hworker, hquery, hclient, hname⟩, hrest⟩ := forall₂_eraseIdx h.workers hjob
  unfold DnsServer.resolved DnsProxy.resolved
  rw [hworker, hjob]
  cases answer with
  | none => exact { h with workers := hrest }
  | some a =>
    have hstored : Matches
        { d with
          workers := d.workers.eraseIdx i
          cache := d.cache.insert worker.name
            ⟨(a.message job.query).encode, now + extractTtlMs (a.message job.query).encode⟩ }
        { p with
          cache := p.cache.insert job.name
            ⟨(a.message job.query).encode, now + extractTtlMs (a.message job.query).encode⟩
          resolving := p.resolving.eraseIdx i } :=
      { h with workers := hrest, cache := by rw [hname, h.cache] }
    have hsent := hstored.sendResponse hquery (a.message job.query).encode now
    rw [hclient] at hsent
    exact hsent

/-- A query, or an answer to a query, as it should be. The server is not stopped. -/
def WellFormed (d : DnsServer) : Event → Prop
  | .stop => False
  | .receive datagram _ => ∃ m : Dns.Message, datagram.take maxPacket = m.encode
  | .resolved i response _ => ∀ worker ∈ d.workers[i]?, ∀ m : Dns.Message,
    worker.query.bytes = m.encode →
      ∃ answer : Option Answer, response = answer.map fun a => (a.message m).encode
  | _ => True

theorem Matches.take (h : d.Matches p) (now : ℕ) :
    ∃ events : List DnsProxy.Event,
      (d.take decode now).Matches (events.foldl (DnsProxy.step decode) p) := by
  unfold DnsServer.take
  cases htasks : d.tasks with
  | nil => exact ⟨[], h⟩
  | cons q tasks =>
    dsimp only
    split_ifs
    · have hall := h.tasks
      rw [htasks] at hall
      obtain ⟨⟨m, hm⟩, hrest⟩ := List.forall_mem_cons.mp hall
      have htaken : Matches { d with tasks := tasks } p := { h with tasks := hrest }
      exact ⟨[.query m q.client now], htaken.handleQuery hm now⟩
    · exact ⟨[], h⟩

/-- A step of the server is one of the proxy, or none. -/
theorem Matches.step (h : d.Matches p) {e : Event} (he : d.WellFormed e) :
    ∃ events : List DnsProxy.Event,
      (d.step decode e).Matches (events.foldl (DnsProxy.step decode) p) := by
  cases e with
  | start =>
    refine ⟨[], ?_⟩
    rw [DnsServer.step, DnsServer.start, if_pos h.running]
    exact h
  | stop => exact he.elim
  | receive datagram client =>
    refine ⟨[], ?_⟩
    rw [DnsServer.step, DnsServer.receive, if_pos h.running]
    refine { h with tasks := fun q hq => ?_ }
    rcases List.mem_append.mp hq with hq | hq
    · exact h.tasks q hq
    · obtain rfl := List.mem_singleton.mp hq
      exact he
  | take now => exact h.take now
  | resolved i response now =>
    cases hjob : p.resolving[i]? with
    | none =>
      have hworker : d.workers[i]? = none := by
        rw [List.getElem?_eq_none_iff] at hjob ⊢
        rwa [h.workers.length_eq]
      refine ⟨[], ?_⟩
      rw [DnsServer.step, DnsServer.resolved, hworker]
      exact h
    | some job =>
      obtain ⟨⟨worker, hworker, hquery, -⟩, -⟩ := forall₂_eraseIdx h.workers hjob
      obtain ⟨answer, rfl⟩ := he worker hworker job.query hquery
      exact ⟨[.resolved i answer now], h.resolved hjob answer now⟩

theorem matches_start : initial.start.Matches DnsProxy.initial :=
  ⟨rfl, fun _ h => absurd h List.not_mem_nil, rfl, .nil, .nil⟩

/-- The datagrams have the ids and the questions of their queries. -/
def AnswersAsked (d : DnsServer) : Prop :=
  ∀ r ∈ d.sent, ∀ m : Dns.Message, r.query.bytes = m.encode → Answers r.datagram m

theorem forall_mem_iff_of_forall₂ {α β : Type} {R : α → β → Prop} {P : α → Prop} {P' : β → Prop}
    (hR : ∀ a b, R a b → (P a ↔ P' b)) {l : List α} {l' : List β} (h : List.Forall₂ R l l') :
    (∀ a ∈ l, P a) ↔ ∀ b ∈ l', P' b := by
  induction h with
  | nil => simp
  | cons hab _ ih => rw [List.forall_mem_cons, List.forall_mem_cons, hR _ _ hab, ih]

theorem Matches.answersAsked_iff (h : d.Matches p) : d.AnswersAsked ↔ p.AnswersAsked := by
  refine forall_mem_iff_of_forall₂ (fun r reply => ?_) h.sent
  rintro ⟨hquery, -, hdatagram⟩
  rw [hdatagram]
  constructor
  · intro hall
    exact hall reply.query hquery
  · rintro ⟨answer, hanswer, hid, hquestion⟩ m hm
    -- the id and the question can be read off the query
    obtain ⟨hid', hquestion'⟩ := Dns.Message.encode_inj (hquery.symm.trans hm)
    exact ⟨answer, hanswer, hid.trans hid', hquestion.trans hquestion'⟩

/-- A run of the server from its start on well-formed queries and answers is a run of the proxy
of messages. So its datagrams answer what was asked exactly if no query of that run finds the
answer to an earlier one that asked for something else. -/
theorem exists_proxyRun (decode : Bytes → Text) {events : List Event}
    (h : Run.Along (step decode) WellFormed initial.start events) :
    ∃ messages : List DnsProxy.Event,
      (events.foldl (step decode) initial.start).Matches
        (messages.foldl (DnsProxy.step decode) DnsProxy.initial) ∧
      ((events.foldl (step decode) initial.start).AnswersAsked ↔
        ∀ before q client now later, messages = before ++ .query q client now :: later →
          ∀ earlier, FindsAnswerTo decode before q now earlier →
            earlier.question = q.question) := by
  obtain ⟨messages, hmatch⟩ := Run.exists_foldl_simulation (fun _ _ _ hd he => hd.step he)
    matches_start h
  refine ⟨messages, hmatch, ?_⟩
  rw [hmatch.answersAsked_iff, answersAsked_foldl_iff, along_hitsSameQuestion_iff]

end DnsServer

end XnetZt
