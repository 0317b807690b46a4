import XnetZt.Lib.Java
import XnetZt.Lib.Run

/-!
# Relaying between two sockets

`SocksProxy.relay`, `HttpProxy.relay` and the two `pipe`s of `PortForwarder` copy bytes in
both directions, one thread a direction, and close both sockets. They differ in the size of
the buffer, in how long a read waits, and in who closes: the relays wait for the upload
thread only, a pipe closes both sockets as soon as its own direction ends. Either way the
end of one direction closes the sockets of the other, whose bytes may be unsent, in flight
or in the thread's buffer.

A thread ends when it reads the end of its stream, when one of its sockets is closed under
it, or when a read has waited too long. What it had to deliver is delivered in the first
case only. So nothing is lost where both threads have ended before a socket is closed, and
a client that stays silent for too long loses the rest of what it sends.
-/

namespace XnetZt

inductive Peer
  | client
  | upstream
  deriving DecidableEq

inductive Direction
  | upload
  | download
  deriving DecidableEq

namespace Direction

def source : Direction → Peer
  | upload => .client
  | download => .upstream

def target : Direction → Peer
  | upload => .upstream
  | download => .client

theorem forall_iff {P : Direction → Prop} : (∀ d, P d) ↔ P .upload ∧ P .download :=
  ⟨fun h => ⟨h _, h _⟩, fun h d => by cases d; exacts [h.1, h.2]⟩

end Direction

/-! ### One direction -/

/-- Where a copy thread is in its loop. -/
inductive CopyThread
  | reading
  | writing (chunk : Bytes)
  | done
  deriving DecidableEq

/-- A direction: what the sender has yet to send, what waits in the socket of the relay,
whether the end of the stream was sent, the thread, and what it wrote to the receiver. -/
structure Pipe where
  unsent : Bytes
  inFlight : Bytes
  ended : Bool
  thread : CopyThread
  written : Bytes
  deriving DecidableEq

namespace Pipe

def start (data : Bytes) : Pipe := ⟨data, [], false, .reading, []⟩

/-- The sender sends up to `n` bytes. -/
def send (p : Pipe) (n : ℕ) : Pipe :=
  { p with unsent := p.unsent.drop n, inFlight := p.inFlight ++ p.unsent.take n }

/-- The sender ends its stream after the last byte. -/
def finish (p : Pipe) : Pipe :=
  if p.unsent = [] then { p with ended := true } else p

/-- The next `read` or `write` of `copy`. A read returns between one byte and a buffer full
and blocks on an empty open stream. On a closed socket both throw, and the thread ends. -/
def copy (p : Pipe) (bufferSize n : ℕ) (fromClosed toClosed : Bool) : Pipe :=
  match p.thread with
  | .done => p
  | .reading =>
    if fromClosed then { p with thread := .done }
    else if p.inFlight ≠ [] then
      let n := min (max n 1) bufferSize
      { p with thread := .writing (p.inFlight.take n), inFlight := p.inFlight.drop n }
    else if p.ended then { p with thread := .done }
    else p
  | .writing chunk =>
    if toClosed then { p with thread := .done }
    else { p with thread := .reading, written := p.written ++ chunk }

/-- A read that has waited for the time set on its socket throws, and the thread ends. -/
def timeout (p : Pipe) : Pipe :=
  if p.thread = .reading ∧ p.inFlight = [] ∧ p.ended = false then { p with thread := .done }
  else p

/-- The bytes read and not yet written. -/
def held (p : Pipe) : Bytes :=
  match p.thread with
  | .writing chunk => chunk
  | _ => []

/-- Nothing is left to deliver. -/
structure Drained (p : Pipe) : Prop where
  unsent : p.unsent = []
  inFlight : p.inFlight = []
  held : p.held = []

/-- All bytes of the direction that are not lost, in order. -/
def bytes (p : Pipe) : Bytes := p.written ++ p.held ++ p.inFlight ++ p.unsent

variable {p : Pipe}

theorem written_eq_bytes_iff : p.written = p.bytes ↔ p.Drained := by
  unfold bytes
  simp only [List.append_assoc, List.self_eq_append_right, List.append_eq_nil_iff]
  exact ⟨fun h => ⟨h.2.2, h.2.1, h.1⟩, fun h => ⟨h.held, h.inFlight, h.unsent⟩⟩

theorem written_isPrefix_bytes : p.written <+: p.bytes := by
  simp only [bytes, List.append_assoc]
  exact List.prefix_append _ _

@[simp] theorem bytes_start (data : Bytes) : (start data).bytes = data := rfl

@[simp] theorem bytes_send (n : ℕ) : (p.send n).bytes = p.bytes := by
  have hsent : (p.inFlight ++ p.unsent.take n) ++ p.unsent.drop n = p.inFlight ++ p.unsent := by
    simp
  calc (p.send n).bytes
      = p.written ++ p.held ++ (p.inFlight ++ p.unsent.take n) ++ p.unsent.drop n := rfl
    _ = p.written ++ p.held ++ (p.inFlight ++ p.unsent) := by rw [List.append_assoc, hsent]
    _ = p.bytes := (List.append_assoc _ _ _).symm

@[simp] theorem written_send (n : ℕ) : (p.send n).written = p.written := rfl

@[simp] theorem bytes_finish : p.finish.bytes = p.bytes := by
  unfold finish
  split_ifs <;> rfl

@[simp] theorem written_finish : p.finish.written = p.written := by
  unfold finish
  split_ifs <;> rfl

/-- A thread loses bytes only if it holds some when the receiver's socket is closed. -/
theorem bytes_copy {bufferSize n : ℕ} {fromClosed toClosed : Bool}
    (h : toClosed = true → p.held = []) :
    (p.copy bufferSize n fromClosed toClosed).bytes = p.bytes := by
  unfold copy
  cases hthread : p.thread with
  | done => rfl
  | reading =>
    dsimp only
    split_ifs
    · simp [bytes, held, hthread]
    · simp [bytes, held, hthread]
    · simp [bytes, held, hthread]
    · rfl
  | writing chunk =>
    have hheld : p.held = chunk := by simp [held, hthread]
    dsimp only
    split_ifs with hto
    · have hnil : chunk = [] := hheld ▸ h hto
      simp [bytes, held, hthread, hnil]
    · simp [bytes, held, hthread]

/-- With both sockets open the thread goes on until the end of the stream. -/
theorem copy_open (hended : p.ended = false) (hthread : p.thread ≠ .done) (bufferSize n : ℕ) :
    (p.copy bufferSize n false false).ended = false ∧
      (p.copy bufferSize n false false).thread ≠ .done := by
  unfold copy
  cases ht : p.thread with
  | done => exact absurd ht hthread
  | reading =>
    simp only [Bool.false_eq_true, if_false, hended]
    split_ifs
    · exact ⟨rfl, by simp⟩
    · exact ⟨hended, hthread⟩
  | writing chunk => exact ⟨hended, by simp⟩

@[simp] theorem written_timeout : p.timeout.written = p.written := by
  unfold timeout
  split_ifs <;> rfl

@[simp] theorem bytes_timeout : p.timeout.bytes = p.bytes := by
  unfold timeout
  split_ifs with h
  · simp [bytes, held, h.1]
  · rfl

/-- A thread that has ended does nothing. -/
theorem copy_done (h : p.thread = .done) (bufferSize n : ℕ) (fromClosed toClosed : Bool) :
    p.copy bufferSize n fromClosed toClosed = p := by
  rw [copy, h]

theorem timeout_of_done (h : p.thread = .done) : p.timeout = p := by
  simp [timeout, h]

/-- No byte was lost so far, and the thread has ended at the end of its stream only. -/
structure Lossless (data : Bytes) (p : Pipe) : Prop where
  bytes : p.bytes = data
  ended : p.ended = true → p.unsent = []
  done : p.thread = .done → p.Drained

section Lossless

variable {data : Bytes}

theorem lossless_start (data : Bytes) : (start data).Lossless data :=
  ⟨rfl, by simp [start], by simp [start]⟩

theorem Lossless.written_of_done (h : p.Lossless data) (hdone : p.thread = .done) :
    p.written = data := by
  rw [written_eq_bytes_iff.mpr (h.done hdone), h.bytes]

theorem Lossless.send (h : p.Lossless data) (n : ℕ) : (p.send n).Lossless data := by
  refine ⟨by rw [bytes_send, h.bytes], fun hended => ?_, fun hdone => ?_⟩
  · simp [Pipe.send, h.ended hended]
  · obtain ⟨hunsent, hinFlight, hheld⟩ := h.done hdone
    exact ⟨by simp [Pipe.send, hunsent], by simp [Pipe.send, hunsent, hinFlight], hheld⟩

theorem Lossless.finish (h : p.Lossless data) : p.finish.Lossless data := by
  refine ⟨by rw [bytes_finish, h.bytes], ?_, ?_⟩
  · unfold Pipe.finish
    split_ifs with hunsent
    · exact fun _ => hunsent
    · exact h.ended
  · unfold Pipe.finish
    split_ifs with hunsent
    · exact fun hdone => ⟨hunsent, (h.done hdone).inFlight, (h.done hdone).held⟩
    · exact h.done

/-- With both sockets open the thread ends where nothing is left to read. -/
theorem Lossless.copy (h : p.Lossless data) (bufferSize n : ℕ) :
    (p.copy bufferSize n false false).Lossless data := by
  refine ⟨by rw [bytes_copy (by simp), h.bytes], ?_, ?_⟩
  · unfold Pipe.copy
    cases p.thread with
    | done => exact h.ended
    | reading =>
      simp only [Bool.false_eq_true, if_false]
      split_ifs <;> exact h.ended
    | writing chunk => exact h.ended
  · unfold Pipe.copy
    cases hthread : p.thread with
    | done => exact h.done
    | reading =>
      simp only [Bool.false_eq_true, if_false]
      split_ifs with hinFlight hended
      · simp
      · exact fun _ => ⟨h.ended hended, not_not.mp hinFlight, rfl⟩
      · exact h.done
    | writing chunk => simp

end Lossless

/-- Copying one byte takes a read and a write. -/
theorem copy_copy {bufferSize : ℕ} (hsize : 0 < bufferSize) {b : Byte} {rest : Bytes}
    (hthread : p.thread = .reading) (hbytes : p.inFlight = b :: rest) :
    (p.copy bufferSize 1 false false).copy bufferSize 1 false false =
      { p with inFlight := rest, written := p.written ++ [b] } := by
  have hone : min 1 bufferSize = 1 := by omega
  simp [copy, hthread, hbytes, hone]

end Pipe

/-! ### The relays -/

/-- A relay is given by the size of its buffers, by the milliseconds a read from a peer may
wait, and by the sockets that are closed, in order, once the thread of a direction has
ended. -/
structure Relay where
  bufferSize : ℕ
  soTimeout : Peer → Option ℕ
  closes : Direction → List Peer

/-- `t1.join()`, then `client.close()` and `upstream.close()`; the download thread just
ends. The timeout was set on the client's socket by `handleClient`. -/
def SocksProxy.relay : Relay where
  bufferSize := 16384
  soTimeout
    | .client => some 60000
    | .upstream => none
  closes
    | .upload => [.client, .upstream]
    | .download => []

def HttpProxy.relay : Relay where
  bufferSize := 16384
  soTimeout
    | .client => some 30000
    | .upstream => none
  closes
    | .upload => [.client, .upstream]
    | .download => []

/-- `pipe(in, out)` and `pipe(out, in)`: the `finally` block closes `from`, then `to`. -/
def PortForwarder.pipes : Relay where
  bufferSize := 8192
  soTimeout _ := none
  closes d := [d.source, d.target]

/-- `pending` are the sockets left to close when the thread of a direction has ended. -/
structure RelayState where
  pipe : Direction → Pipe
  pending : Direction → List Peer
  closed : Peer → Bool

/-- The next `close` after the end of a thread. -/
def RelayState.close (s : RelayState) (d : Direction) : RelayState :=
  match (s.pipe d).thread, s.pending d with
  | .done, peer :: rest =>
    { s with
      pending := Function.update s.pending d rest
      closed := Function.update s.closed peer true }
  | _, _ => s

namespace Relay

/-- What the two peers send. -/
def payload (fromClient fromUpstream : Bytes) : Direction → Bytes
  | .upload => fromClient
  | .download => fromUpstream

def start (r : Relay) (data : Direction → Bytes) : RelayState where
  pipe d := .start (data d)
  pending := r.closes
  closed _ := false

inductive Action
  | send (d : Direction) (n : ℕ)
  | finish (d : Direction)
  | copy (d : Direction) (n : ℕ)
  | timeout (d : Direction)
  | close (d : Direction)

def step (r : Relay) (s : RelayState) : Action → RelayState
  | .send d n => { s with pipe := Function.update s.pipe d ((s.pipe d).send n) }
  | .finish d => { s with pipe := Function.update s.pipe d (s.pipe d).finish }
  | .copy d n =>
    let p := (s.pipe d).copy r.bufferSize n (s.closed d.source) (s.closed d.target)
    { s with pipe := Function.update s.pipe d p }
  | .timeout d =>
    if (r.soTimeout d.source).isSome then
      { s with pipe := Function.update s.pipe d (s.pipe d).timeout }
    else s
  | .close d => s.close d

/-! ### Delivery -/

/-- Whatever was meant for a peer whose socket is closed was written to it. -/
def Delivered (data : Direction → Bytes) (s : RelayState) : Prop :=
  ∀ d, s.closed d.target = true → (s.pipe d).written = data d

/-- Both threads have ended when a socket is closed. -/
def ClosesEnded (s : RelayState) : Action → Prop
  | .close d => (s.pipe d).thread = .done → s.pending d ≠ [] → ∀ d', (s.pipe d').thread = .done
  | _ => True

/-- No byte was lost so far, and a socket is closed only if both threads have ended. -/
structure Lossless (data : Direction → Bytes) (s : RelayState) : Prop where
  pipe : ∀ d, (s.pipe d).Lossless (data d)
  closed : ∀ peer, s.closed peer = true → ∀ d, (s.pipe d).thread = .done

section Step

variable {r : Relay} {data : Direction → Bytes} {s : RelayState}

theorem lossless_start : Lossless data (r.start data) :=
  ⟨fun d => Pipe.lossless_start (data d), fun _ h => absurd h (by simp [start])⟩

theorem Lossless.delivered (h : Lossless data s) : Delivered data s :=
  fun d hclosed => (h.pipe d).written_of_done (h.closed d.target hclosed d)

/-- A step in one direction after which the thread has ended if it had before. -/
theorem Lossless.update (h : Lossless data s) {d : Direction} {p : Pipe}
    (hp : p.Lossless (data d)) (hdone : (s.pipe d).thread = .done → p.thread = .done) :
    Lossless data { s with pipe := Function.update s.pipe d p } := by
  have hpipe : ∀ d', Function.update s.pipe d p d' = if d' = d then p else s.pipe d' :=
    fun d' => Function.update_apply s.pipe d p d'
  constructor
  · intro d'
    dsimp only
    rw [hpipe]
    split_ifs with hd
    · exact hd ▸ hp
    · exact h.pipe d'
  · intro peer hclosed d'
    dsimp only
    rw [hpipe]
    split_ifs with hd
    · exact hdone (h.closed peer hclosed d)
    · exact h.closed peer hclosed d'

theorem Lossless.copy (h : Lossless data s) (d : Direction) (n : ℕ) :
    Lossless data (r.step s (.copy d n)) := by
  by_cases hdone : (s.pipe d).thread = .done
  · refine h.update ?_ fun _ => ?_
    · rw [Pipe.copy_done hdone]
      exact h.pipe d
    · rw [Pipe.copy_done hdone]
      exact hdone
  · -- a thread that goes on has both its sockets open
    have hopen : ∀ peer, s.closed peer = false := fun peer => by
      by_contra hclosed
      exact hdone (h.closed peer (by simpa using hclosed) d)
    refine h.update ?_ fun hdone' => absurd hdone' hdone
    rw [hopen, hopen]
    exact (h.pipe d).copy r.bufferSize n

theorem pipe_close (s : RelayState) (d : Direction) : (s.close d).pipe = s.pipe := by
  unfold RelayState.close
  split <;> rfl

theorem Lossless.close (h : Lossless data s) {d : Direction} (hd : ClosesEnded s (.close d)) :
    Lossless data (s.close d) := by
  refine ⟨by rw [pipe_close]; exact h.pipe, ?_⟩
  rw [pipe_close]
  unfold RelayState.close
  split
  · next peer rest hthread hpending =>
    intro _ _
    exact hd hthread (by rw [hpending]; simp)
  · exact h.closed

theorem Lossless.step (h : Lossless data s) {a : Action} (htime : ∀ d, a ≠ .timeout d)
    (ha : ClosesEnded s a) : Lossless data (r.step s a) := by
  cases a with
  | send d n => exact h.update ((h.pipe d).send n) id
  | finish d =>
    refine h.update (h.pipe d).finish fun hdone => ?_
    unfold Pipe.finish
    split_ifs <;> exact hdone
  | copy d n => exact h.copy d n
  | timeout d => exact absurd rfl (htime d)
  | close d => exact h.close ha

end Step

/-- Without timeouts, each of the three programs delivers everything before it closes a socket
in all runs in which a socket is closed after both threads have read the end of their
streams. -/
theorem delivered_of_closesEnded (fromClient fromUpstream : Bytes) (actions : List Action)
    (htime : ∀ d, .timeout d ∉ actions) :
    let data := payload fromClient fromUpstream
    let Delivers (r : Relay) := Run.Throughout r.step (Delivered data) (r.start data) actions
    let Ends (r : Relay) := Run.Along r.step ClosesEnded (r.start data) actions
    (Ends SocksProxy.relay → Delivers SocksProxy.relay) ∧
    (Ends HttpProxy.relay → Delivers HttpProxy.relay) ∧
    (Ends PortForwarder.pipes → Delivers PortForwarder.pipes) := by
  intro data Delivers Ends
  have hdelivers : ∀ r, Ends r → Delivers r := by
    intro r hends
    have hlossless : Run.Throughout r.step (Lossless data) (r.start data) actions :=
      Run.throughout_of_forall_of_along (G := fun a => ∀ d, a ≠ .timeout d)
        (fun _ _ ha hs hends => hs.step ha hends) lossless_start
        (fun a ha d heq => htime d (heq ▸ ha)) hends
    exact hlossless.mono fun _ hs => hs.delivered
  exact ⟨hdelivers _, hdelivers _, hdelivers _⟩

/-- The client ends its stream after the upstream has, and after all of it was copied. -/
theorem delivered_afterEnd :
    let actions : List Action := [.send .download 1, .finish .download, .copy .download 1,
      .copy .download 1, .copy .download 1, .finish .upload, .copy .upload 1, .close .upload,
      .close .upload]
    let data := payload [] [0x41]
    let Delivers (r : Relay) := Run.Throughout r.step (Delivered data) (r.start data) actions
    (∀ d, .timeout d ∉ actions) ∧
      Delivers SocksProxy.relay ∧ Delivers HttpProxy.relay ∧ Delivers PortForwarder.pipes := by
  intro actions data Delivers
  have htime : ∀ d, .timeout d ∉ actions := by simp [actions]
  have hends : ∀ r : Relay, 0 < r.bufferSize →
      Run.Along r.step ClosesEnded (r.start data) actions := by
    intro r hsize
    have hone : min 1 r.bufferSize = 1 := by omega
    simp [actions, ClosesEnded, step, start, data, payload, Pipe.start, Pipe.send, Pipe.finish,
      Pipe.copy, hone, pipe_close, Direction.forall_iff]
  obtain ⟨hsocks, hhttp, hpipes⟩ := delivered_of_closesEnded [] [0x41] actions htime
  exact ⟨htime, hsocks (hends _ (by decide)), hhttp (hends _ (by decide)),
    hpipes (hends _ (by decide))⟩

/-- The answer waits in the relay's socket when the client ends its stream: the client's
socket is closed without it. -/
theorem not_delivered_halfClose :
    let data := payload [] [0x41]
    let Delivers (r : Relay) := Run.Throughout r.step (Delivered data) (r.start data)
      [.send .download 1, .finish .download, .finish .upload, .copy .upload 1, .close .upload]
    ¬ Delivers SocksProxy.relay ∧ ¬ Delivers HttpProxy.relay ∧ ¬ Delivers PortForwarder.pipes := by
  intro data Delivers
  have hlast : ∀ r : Relay, r.closes .upload = [.client, .upstream] → ¬ Delivers r := by
    intro r hr h
    have hclosed := h.last .download
    simp [step, start, Pipe.start, Pipe.send, Pipe.finish, Pipe.copy, RelayState.close, hr, data,
      payload, Direction.target] at hclosed
  exact ⟨hlast _ rfl, hlast _ rfl, hlast _ rfl⟩

/-! ### A client that keeps its connection open -/

/-- A prefix of `data` was written to the upstream, and the rest can follow. -/
def CanComplete (r : Relay) (data : Bytes) (s : RelayState) : Prop :=
  (s.pipe .upload).written <+: data ∧
    ∃ actions : List Action, .finish .upload ∉ actions ∧
      ((actions.foldl r.step s).pipe .upload).Drained ∧
      ((actions.foldl r.step s).pipe .upload).written = data

/-- A read from the client times out only if the client has nothing more to send. -/
def SendsInTime (s : RelayState) : Action → Prop
  | .timeout .upload => (s.pipe .upload).thread = .reading → (s.pipe .upload).inFlight = [] →
    (s.pipe .upload).unsent = []
  | _ => True

section Open

variable {r : Relay} {data : Bytes} {s : RelayState}

/-- The client has not ended its stream, so nothing is closed. -/
structure StaysOpen (data : Bytes) (s : RelayState) : Prop where
  closed : ∀ peer, s.closed peer = false
  pending : s.pending .download = []
  ended : (s.pipe .upload).ended = false
  thread : (s.pipe .upload).thread ≠ .done
  bytes : (s.pipe .upload).bytes = data

/-- The upload thread has ended, and `written` is what it leaves. -/
structure IsOver (data written : Bytes) (s : RelayState) : Prop where
  thread : (s.pipe .upload).thread = .done
  bytes : (s.pipe .upload).bytes = data
  written_eq : (s.pipe .upload).written = written

theorem staysOpen_start (hr : r.closes .download = []) (fromClient fromUpstream : Bytes) :
    StaysOpen fromClient (r.start (payload fromClient fromUpstream)) :=
  ⟨fun _ => rfl, hr, rfl, by simp [start, Pipe.start], rfl⟩

theorem StaysOpen.updateDownload (h : StaysOpen data s) (p : Pipe) :
    StaysOpen data { s with pipe := Function.update s.pipe .download p } := by
  have hsame : Function.update s.pipe .download p .upload = s.pipe .upload :=
    Function.update_of_ne (by decide) p s.pipe
  refine ⟨h.closed, h.pending, ?_, ?_, ?_⟩
  · simpa only [hsame] using h.ended
  · simpa only [hsame] using h.thread
  · simpa only [hsame] using h.bytes

theorem StaysOpen.updateUpload (h : StaysOpen data s) {p : Pipe} (hended : p.ended = false)
    (hthread : p.thread ≠ .done) (hbytes : p.bytes = (s.pipe .upload).bytes) :
    StaysOpen data { s with pipe := Function.update s.pipe .upload p } :=
  ⟨h.closed, h.pending, by simpa using hended, by simpa using hthread,
    by simpa [hbytes] using h.bytes⟩

theorem StaysOpen.close (h : StaysOpen data s) (d : Direction) : s.close d = s := by
  unfold RelayState.close
  split
  · next peer rest hthread hpending =>
    cases d with
    | upload => exact absurd hthread h.thread
    | download =>
      rw [h.pending] at hpending
      cases hpending
  · rfl

/-- The action gives up a client from which nothing has come for too long. -/
structure GivesUp (r : Relay) (s : RelayState) (a : Action) : Prop where
  timeout : a = .timeout .upload
  isSome : (r.soTimeout .client).isSome = true
  reading : (s.pipe .upload).thread = .reading
  inFlight : (s.pipe .upload).inFlight = []

theorem StaysOpen.isOver (h : StaysOpen data s) {a : Action} (ha : GivesUp r s a) :
    IsOver data (s.pipe .upload).written (r.step s a) := by
  obtain ⟨rfl, hsome, hthread, hinFlight⟩ := ha
  have hstep : (r.step s (.timeout .upload)).pipe .upload = (s.pipe .upload).timeout := by
    simp [Relay.step, Direction.source, hsome]
  refine ⟨?_, ?_, ?_⟩
  · rw [hstep]
    simp [Pipe.timeout, hthread, hinFlight, h.ended]
  · rw [hstep, Pipe.bytes_timeout, h.bytes]
  · rw [hstep, Pipe.written_timeout]

/-- What else happens to an open connection leaves it open. -/
theorem StaysOpen.step (h : StaysOpen data s) {a : Action} (hfinish : a ≠ .finish .upload)
    (ha : ¬ GivesUp r s a) : StaysOpen data (r.step s a) := by
  cases a with
  | send d n =>
    cases d with
    | upload => exact h.updateUpload h.ended h.thread (Pipe.bytes_send n)
    | download => exact h.updateDownload _
  | finish d =>
    cases d with
    | upload => exact absurd rfl hfinish
    | download => exact h.updateDownload _
  | copy d n =>
    cases d with
    | upload =>
      simp only [Relay.step, h.closed]
      obtain ⟨hended, hthread⟩ := Pipe.copy_open h.ended h.thread r.bufferSize n
      exact h.updateUpload hended hthread (Pipe.bytes_copy (by simp))
    | download => exact h.updateDownload _
  | timeout d =>
    simp only [Relay.step]
    split_ifs with hsome
    · cases d with
      | upload =>
        have hsame : (s.pipe .upload).timeout = s.pipe .upload :=
          if_neg fun hidle => ha ⟨rfl, hsome, hidle.1, hidle.2.1⟩
        rw [hsame]
        exact h.updateUpload h.ended h.thread rfl
      | download => exact h.updateDownload _
    · exact h
  | close d =>
    rw [Relay.step, h.close d]
    exact h

/-- A thread that has ended has its pipe changed by its sender only. -/
theorem pipe_step_of_done {d : Direction} (h : (s.pipe d).thread = .done) (a : Action) :
    (r.step s a).pipe d = s.pipe d ∨ (∃ n, (r.step s a).pipe d = (s.pipe d).send n) ∨
      (r.step s a).pipe d = (s.pipe d).finish := by
  cases a with
  | send d' n =>
    by_cases hd : d = d'
    · subst hd
      exact Or.inr (Or.inl ⟨n, by simp [Relay.step]⟩)
    · exact Or.inl (by simp [Relay.step, hd])
  | finish d' =>
    by_cases hd : d = d'
    · subst hd
      exact Or.inr (Or.inr (by simp [Relay.step]))
    · exact Or.inl (by simp [Relay.step, hd])
  | copy d' n =>
    refine Or.inl ?_
    by_cases hd : d = d'
    · subst hd
      simp [Relay.step, Pipe.copy_done h]
    · simp [Relay.step, hd]
  | timeout d' =>
    refine Or.inl ?_
    simp only [Relay.step]
    split_ifs
    · by_cases hd : d = d'
      · subst hd
        simp [Pipe.timeout_of_done h]
      · simp [hd]
    · rfl
  | close d' => exact Or.inl (by rw [Relay.step, pipe_close])

theorem IsOver.step {written : Bytes} (h : IsOver data written s) (a : Action) :
    IsOver data written (r.step s a) := by
  obtain ⟨hthread, hbytes, hwritten⟩ := h
  rcases pipe_step_of_done (r := r) hthread a with hpipe | ⟨n, hpipe⟩ | hpipe
  · exact ⟨by rw [hpipe, hthread], by rw [hpipe, hbytes], by rw [hpipe, hwritten]⟩
  · exact ⟨by rw [hpipe]; exact hthread, by rw [hpipe, Pipe.bytes_send, hbytes],
      by rw [hpipe, Pipe.written_send, hwritten]⟩
  · refine ⟨?_, by rw [hpipe, Pipe.bytes_finish, hbytes],
      by rw [hpipe, Pipe.written_finish, hwritten]⟩
    rw [hpipe, Pipe.finish]
    split_ifs <;> exact hthread

theorem IsOver.run {written : Bytes} (h : IsOver data written s) (actions : List Action) :
    IsOver data written (actions.foldl r.step s) :=
  (Run.throughout_of_step (fun _ a hs => hs.step a) actions h).last

/-- As long as the client does not end its stream, each of its bytes is written, held, in
flight or unsent. -/
theorem StaysOpen.bytes_run (h : StaysOpen data s) {actions : List Action}
    (hfinish : .finish .upload ∉ actions) :
    ((actions.foldl r.step s).pipe .upload).bytes = data := by
  induction actions generalizing s with
  | nil => exact h.bytes
  | cons a actions ih =>
    rw [List.mem_cons, not_or] at hfinish
    by_cases ha : GivesUp r s a
    · exact ((h.isOver ha).run actions).bytes
    · exact ih (h.step (Ne.symm hfinish.1) ha) hfinish.2

/-! ### All of the upload -/

/-- Byte by byte, everything in flight can be delivered. -/
theorem StaysOpen.exists_drained_of_reading (hsize : 0 < r.bufferSize) (h : StaysOpen data s)
    (hthread : (s.pipe .upload).thread = .reading) (hunsent : (s.pipe .upload).unsent = []) :
    ∃ actions : List Action, .finish .upload ∉ actions ∧
      ((actions.foldl r.step s).pipe .upload).Drained := by
  induction hl : (s.pipe .upload).inFlight generalizing s with
  | nil =>
    exact ⟨[], by simp, hunsent, hl, by simp [Pipe.held, hthread]⟩
  | cons b rest ih =>
    have htwo : ((r.step (r.step s (.copy .upload 1)) (.copy .upload 1)).pipe .upload) =
        { s.pipe .upload with inFlight := rest, written := (s.pipe .upload).written ++ [b] } := by
      simp only [Relay.step, h.closed, Function.update_self]
      exact Pipe.copy_copy hsize hthread hl
    have hcopy : ∀ s, ¬ GivesUp r s (.copy .upload 1) := fun _ ha => by cases ha.timeout
    have hopen : StaysOpen data (r.step (r.step s (.copy .upload 1)) (.copy .upload 1)) :=
      (h.step (by simp) (hcopy s)).step (by simp) (hcopy _)
    obtain ⟨actions, hfinish, hdrained⟩ :=
      ih hopen (by rw [htwo]; exact hthread) (by rw [htwo]; exact hunsent) (by rw [htwo])
    exact ⟨.copy .upload 1 :: .copy .upload 1 :: actions, by simpa using hfinish, hdrained⟩

/-- First the thread writes what it holds, and the client sends the rest. -/
theorem StaysOpen.exists_drained (hsize : 0 < r.bufferSize) (h : StaysOpen data s) :
    ∃ actions : List Action, .finish .upload ∉ actions ∧
      ((actions.foldl r.step s).pipe .upload).Drained := by
  have hsend : ∀ {s}, StaysOpen data s → (s.pipe .upload).thread = .reading →
      ∃ actions : List Action, .finish .upload ∉ actions ∧
        ((actions.foldl r.step s).pipe .upload).Drained := by
    intro s h hthread
    have hopen : StaysOpen data (r.step s (.send .upload (s.pipe .upload).unsent.length)) :=
      h.step (by simp) fun ha => by cases ha.timeout
    obtain ⟨actions, hfinish, hdrained⟩ := hopen.exists_drained_of_reading hsize
      (by simpa [Relay.step, Pipe.send] using hthread) (by simp [Relay.step, Pipe.send])
    exact ⟨_ :: actions, by simpa using hfinish, hdrained⟩
  cases hthread : (s.pipe .upload).thread with
  | done => exact absurd hthread h.thread
  | reading => exact hsend h hthread
  | writing chunk =>
    have hopen : StaysOpen data (r.step s (.copy .upload 1)) :=
      h.step (by simp) fun ha => by cases ha.timeout
    obtain ⟨actions, hfinish, hdrained⟩ := hsend hopen
      (by simp [Relay.step, Pipe.copy, hthread, h.closed])
    exact ⟨_ :: actions, by simpa using hfinish, hdrained⟩

theorem StaysOpen.canComplete (hsize : 0 < r.bufferSize) (h : StaysOpen data s) :
    r.CanComplete data s := by
  obtain ⟨actions, hfinish, hdrained⟩ := h.exists_drained hsize
  refine ⟨?_, actions, hfinish, hdrained, ?_⟩
  · have hwritten : (s.pipe .upload).written <+: (s.pipe .upload).bytes :=
      Pipe.written_isPrefix_bytes
    rwa [h.bytes] at hwritten
  · rw [Pipe.written_eq_bytes_iff.mpr hdrained, h.bytes_run hfinish]

theorem IsOver.canComplete_iff {written : Bytes} (h : IsOver data written s) :
    r.CanComplete data s ↔ written = data := by
  constructor
  · rintro ⟨-, actions, -, -, hwritten⟩
    rw [← (h.run actions).written_eq, hwritten]
  · rintro rfl
    have hdrained : (s.pipe .upload).Drained := by
      rw [← Pipe.written_eq_bytes_iff, h.bytes, h.written_eq]
    exact ⟨by rw [h.written_eq], [], by simp, hdrained, h.written_eq⟩

/-- The upload is on its way or complete. -/
def Uploads (data : Bytes) (s : RelayState) : Prop := StaysOpen data s ∨ IsOver data data s

theorem StaysOpen.written_eq_iff (h : StaysOpen data s) {a : Action} (ha : GivesUp r s a) :
    (s.pipe .upload).written = data ↔ SendsInTime s a := by
  have hheld : (s.pipe .upload).held = [] := by simp [Pipe.held, ha.reading]
  rw [← h.bytes, Pipe.written_eq_bytes_iff, ha.timeout]
  exact ⟨fun hdrained _ _ => hdrained.unsent,
    fun hunsent => ⟨hunsent ha.reading ha.inFlight, ha.inFlight, hheld⟩⟩

theorem Uploads.step (h : Uploads data s) {a : Action} (hfinish : a ≠ .finish .upload)
    (ha : SendsInTime s a) : Uploads data (r.step s a) := by
  rcases h with h | h
  · by_cases hup : GivesUp r s a
    · have hover := h.isOver hup
      rw [(h.written_eq_iff hup).mpr ha] at hover
      exact Or.inr hover
    · exact Or.inl (h.step hfinish hup)
  · exact Or.inr (h.step a)

/-- A client that stays silent although it has more to send is given up before that. -/
theorem Uploads.not_canComplete (hsome : (r.soTimeout .client).isSome = true)
    (h : Uploads data s) {a : Action} (ha : ¬ SendsInTime s a) :
    ¬ r.CanComplete data (r.step s a) := by
  obtain ⟨rfl, hthread, hinFlight, hunsent⟩ : a = .timeout .upload ∧
      (s.pipe .upload).thread = .reading ∧ (s.pipe .upload).inFlight = [] ∧
      (s.pipe .upload).unsent ≠ [] := by
    unfold SendsInTime at ha
    split at ha
    · next => exact ⟨rfl, by simpa using ha⟩
    · exact absurd trivial ha
  rcases h with h | h
  · have hup : GivesUp r s (.timeout .upload) := ⟨rfl, hsome, hthread, hinFlight⟩
    rw [(h.isOver hup).canComplete_iff, h.written_eq_iff hup]
    exact ha
  · rw [h.thread] at hthread
    cases hthread

/-- While the client keeps its connection open, the upload of just `body` stays possible in
exactly the runs that have nothing else to upload and in which no read times out before all of
it was sent. -/
theorem throughout_canComplete_iff (hsize : 0 < r.bufferSize) (hr : r.closes .download = [])
    (hsome : (r.soTimeout .client).isSome = true) (fromClient fromUpstream body : Bytes)
    {actions : List Action} (hfinish : .finish .upload ∉ actions) :
    Run.Throughout r.step (r.CanComplete body) (r.start (payload fromClient fromUpstream)) actions ↔
      fromClient = body ∧
        Run.Along r.step SendsInTime (r.start (payload body fromUpstream)) actions := by
  have hopen := staysOpen_start hr fromClient fromUpstream
  by_cases hbody : fromClient = body
  · subst hbody
    have hcomplete : ∀ s, Uploads fromClient s → r.CanComplete fromClient s := fun s hs =>
      hs.elim (fun h => h.canComplete hsize) fun h => h.canComplete_iff.mpr rfl
    have hkeep : ∀ s a, a ≠ .finish .upload → Uploads fromClient s → SendsInTime s a →
        Uploads fromClient (r.step s a) := fun _ _ ha hs hin => hs.step ha hin
    have hiff := Run.throughout_iff_along_of_forall hcomplete hkeep
      (fun _ _ _ hs => hs.not_canComplete hsome) (fun a ha heq => hfinish (heq ▸ ha))
      (Or.inl hopen)
    rw [hiff]
    simp
  · refine iff_of_false (fun h => hbody ?_) fun h => hbody h.1
    obtain ⟨-, actions', hfinish', hdrained, hwritten⟩ := h 0
    rw [← hwritten, Pipe.written_eq_bytes_iff.mpr hdrained]
    exact (hopen.bytes_run hfinish').symm

end Open

end Relay

end XnetZt
