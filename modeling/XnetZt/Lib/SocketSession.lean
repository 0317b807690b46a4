import XnetZt.Lib.Handler
import XnetZt.Lib.Java

/-!
# Sessions on a socket

A program that reads from a socket and acts on what it reads. The socket hands out its
stream in chunks, one for each read at most. After the last chunk a read returns `-1`, or
it throws, when the peer is silent for too long or resets the connection. A session is
what is left to read together with the actions of the program so far.

Of the chunks only the bytes matter: two sessions with the same stream that run the same
program end in the same way. So a program can be followed on a stream in one chunk, for
which the reads have simple equations.
-/

namespace XnetZt

inductive SessionException
  | io
  | negativeArraySize
  | unknownHost
  | nullPointer
  | runtime (e : JavaException)
  deriving DecidableEq

/-- `fails` says that a read after the last chunk throws. -/
structure InputStream where
  chunks : List Bytes
  fails : Bool
  deriving DecidableEq

/-- What a program does besides reading; `κ` are the calls of other components. -/
inductive SocketAction (κ : Type)
  | wrote (bytes : Bytes)
  | called (call : κ)
  | closed
  deriving DecidableEq

def SocketAction.bytes {κ : Type} : SocketAction κ → Bytes
  | wrote bytes => bytes
  | called _ => []
  | closed => []

structure SocketSession (κ : Type) where
  input : InputStream
  actions : List (SocketAction κ)
  deriving DecidableEq

abbrev SocketM (κ : Type) := EStateM SessionException (SocketSession κ)

namespace InputStream

/-- Reading `n` bytes, a chunk or a part of one at a time; `none` if the stream ends. -/
def readChunks : ℕ → List Bytes → Option (Bytes × List Bytes)
  | 0, chunks => some ([], chunks)
  | _ + 1, [] => none
  | n + 1, chunk :: chunks =>
    if n + 1 ≤ chunk.length then some (chunk.take (n + 1), chunk.drop (n + 1) :: chunks)
    else
      match readChunks (n + 1 - chunk.length) chunks with
      | some (bytes, rest) => some (chunk ++ bytes, rest)
      | none => none

def stream (input : InputStream) : Bytes := input.chunks.flatten

theorem readChunks_eq_some {n : ℕ} {chunks : List Bytes} (h : n ≤ chunks.flatten.length) :
    ∃ rest, readChunks n chunks = some (chunks.flatten.take n, rest) ∧
      rest.flatten = chunks.flatten.drop n := by
  induction chunks generalizing n with
  | nil =>
    obtain rfl : n = 0 := by simpa using h
    exact ⟨[], rfl, rfl⟩
  | cons chunk chunks ih =>
    cases n with
    | zero => exact ⟨chunk :: chunks, by simp [readChunks], by simp⟩
    | succ n =>
      rw [List.flatten_cons] at h ⊢
      rw [readChunks]
      by_cases hin : n + 1 ≤ chunk.length
      · refine ⟨chunk.drop (n + 1) :: chunks, ?_, ?_⟩
        · rw [if_pos hin, List.take_append_of_le_length hin]
        · rw [List.flatten_cons, List.drop_append_of_le_length hin]
      · have hrest : n + 1 - chunk.length ≤ chunks.flatten.length := by
          rw [List.length_append] at h
          omega
        have hall : chunk.length ≤ n + 1 := by omega
        obtain ⟨rest, hread, hflat⟩ := ih hrest
        refine ⟨rest, ?_, ?_⟩
        · rw [if_neg hin, hread, List.take_append, List.take_of_length_le hall]
        · rw [hflat, List.drop_append, List.drop_of_length_le hall, List.nil_append]

theorem readChunks_singleton {n : ℕ} {stream : Bytes} (h : n ≤ stream.length) :
    readChunks n [stream] = some (stream.take n, [stream.drop n]) := by
  cases n with
  | zero => rfl
  | succ n => rw [readChunks, if_pos h]

theorem readChunks_eq_none {n : ℕ} {chunks : List Bytes} (h : chunks.flatten.length < n) :
    readChunks n chunks = none := by
  induction chunks generalizing n with
  | nil =>
    obtain ⟨n, rfl⟩ : ∃ k, n = k + 1 := ⟨n - 1, by omega⟩
    rfl
  | cons chunk chunks ih =>
    rw [List.flatten_cons, List.length_append] at h
    obtain ⟨n, rfl⟩ : ∃ k, n = k + 1 := ⟨n - 1, by omega⟩
    rw [readChunks, if_neg (by omega), ih (by omega)]

end InputStream

namespace SocketSession

variable {κ : Type}

def start (chunks : List Bytes) (fails : Bool) : SocketSession κ := ⟨⟨chunks, fails⟩, []⟩

/-- A session with its stream in one chunk. -/
def flat (stream : Bytes) (fails : Bool) (actions : List (SocketAction κ)) : SocketSession κ :=
  ⟨⟨[stream], fails⟩, actions⟩

/-- What is written in the course of the actions. -/
def written (actions : List (SocketAction κ)) : Bytes := actions.flatMap SocketAction.bytes

theorem written_append (l r : List (SocketAction κ)) : written (l ++ r) = written l ++ written r :=
  List.flatMap_append

theorem written_eq_nil {actions : List (SocketAction κ)} (h : ∀ a ∈ actions, a.bytes = []) :
    written actions = [] :=
  List.flatMap_eq_nil_iff.mpr h

def act (a : SocketAction κ) : SocketM κ Unit :=
  modify fun s => { s with actions := s.actions ++ [a] }

def write (bytes : Bytes) : SocketM κ Unit := act (.wrote bytes)

def call (k : κ) : SocketM κ Unit := act (.called k)

def close : SocketM κ Unit := act .closed

/-- `in.read()`; `none` is `-1`. -/
def read : SocketM κ (Option Byte) := fun s =>
  match InputStream.readChunks 1 s.input.chunks with
  | some (bytes, rest) => .ok bytes.head? { s with input := { s.input with chunks := rest } }
  | none => if s.input.fails then .error .io s else .ok none s

/-- `new byte[n]` followed by `readFully`. -/
def readFully (n : ℕ) : SocketM κ Bytes := fun s =>
  match InputStream.readChunks n s.input.chunks with
  | some (bytes, rest) => .ok bytes { s with input := { s.input with chunks := rest } }
  | none => .error .io { s with input := { s.input with chunks := [] } }

/-- `while (in.read() != -1) {}`, with exceptions ignored. -/
def drain : SocketM κ Unit := modify fun s => { s with input := { s.input with chunks := [] } }

/-- `in.skip(n)`. A call may skip less than it is asked for; this one skips `limit` bytes at
most. -/
def skip (limit n : ℕ) : SocketM κ Unit := fun s =>
  match InputStream.readChunks (min limit n) s.input.chunks with
  | some (_, rest) => .ok () { s with input := { s.input with chunks := rest } }
  | none =>
    if s.input.fails then .error .io { s with input := { s.input with chunks := [] } }
    else .ok () { s with input := { s.input with chunks := [] } }

/-- The length of an array, as `in.read()` returned it. -/
def arrayLength : Option Byte → SocketM κ ℕ
  | some b => pure b.toNat
  | none => throw .negativeArraySize

/-- `new byte[in.read()]` followed by `readFully`. -/
def readCounted : SocketM κ Bytes := do
  let n ← arrayLength (← read)
  readFully n

/-- A computation on arrays. -/
def compute {α : Type} : Except JavaException α → SocketM κ α
  | .ok a => pure a
  | .error e => throw (.runtime e)

/-- Code outside of the program, with `none` for an exception. -/
def outcome {α : Type} (e : SessionException) : Option α → SocketM κ α
  | some a => pure a
  | none => throw e

theorem run_compute {α : Type} {x : Except JavaException α} {a : α} (h : x = .ok a)
    (s : SocketSession κ) : (compute x).run s = .ok a s := by
  subst h
  rfl

theorem run_outcome_some {α : Type} {x : Option α} {a : α} (h : x = some a) (e : SessionException)
    (s : SocketSession κ) : (outcome e x).run s = .ok a s := by
  subst h
  rfl

theorem run_outcome_none {α : Type} {x : Option α} (h : x = none) (e : SessionException)
    (s : SocketSession κ) : (outcome e x).run s = .error e s := by
  subst h
  rfl

/-! ### Streams in one chunk -/

section Flat

variable (stream : Bytes) (fails : Bool) (actions : List (SocketAction κ))

@[simp] theorem run_act (a : SocketAction κ) :
    (act a).run (flat stream fails actions) = .ok () (flat stream fails (actions ++ [a])) := rfl

@[simp] theorem run_write (bytes : Bytes) :
    (write bytes).run (flat stream fails actions) =
      .ok () (flat stream fails (actions ++ [.wrote bytes])) := rfl

@[simp] theorem run_call (k : κ) :
    (call k).run (flat stream fails actions) =
      .ok () (flat stream fails (actions ++ [.called k])) := rfl

@[simp] theorem run_close :
    close.run (flat stream fails actions) = .ok () (flat stream fails (actions ++ [.closed])) := rfl

@[simp] theorem run_read_cons (b : Byte) :
    read.run (flat (b :: stream) fails actions) = .ok (some b) (flat stream fails actions) := rfl

theorem run_read_nil :
    read.run (flat [] fails actions) =
      if fails then .error .io (flat [] fails actions) else .ok none (flat [] fails actions) := rfl

theorem run_readFully {n : ℕ} {bytes : Bytes} (h : bytes.length = n) :
    (readFully n).run (flat (bytes ++ stream) fails actions) =
      .ok bytes (flat stream fails actions) := by
  subst h
  have hread : InputStream.readChunks bytes.length [bytes ++ stream] = _ :=
    InputStream.readChunks_singleton (by simp)
  simp [EStateM.run, readFully, flat, hread]

theorem run_readFully_short {n : ℕ} (h : stream.length < n) :
    (readFully n).run (flat stream fails actions) =
      .error .io ⟨⟨[], fails⟩, actions⟩ := by
  have hnone : InputStream.readChunks n [stream] = none :=
    InputStream.readChunks_eq_none (by simpa using h)
  simp [EStateM.run, readFully, flat, hnone]

/-- What is left of the bytes that were to be skipped. -/
theorem run_skip {n : ℕ} {bytes : Bytes} (h : bytes.length = n) (limit : ℕ) :
    (skip limit n).run (flat (bytes ++ stream) fails actions) =
      .ok () (flat (bytes.drop limit ++ stream) fails actions) := by
  subst h
  have hle : min limit bytes.length ≤ bytes.length := Nat.min_le_right ..
  have hread : InputStream.readChunks (min limit bytes.length) [bytes ++ stream] = _ :=
    InputStream.readChunks_singleton (hle.trans (by simp))
  have hdrop : (bytes ++ stream).drop (min limit bytes.length) = bytes.drop limit ++ stream := by
    rw [List.drop_append_of_le_length hle]
    rcases Nat.le_total limit bytes.length with hlimit | hlimit
    · rw [Nat.min_eq_left hlimit]
    · rw [Nat.min_eq_right hlimit, List.drop_length, List.drop_of_length_le hlimit]
  simp only [EStateM.run, skip, flat, hread, hdrop]

variable {stream fails actions}

theorem of_run_read {r : Option Byte} {s : SocketSession κ}
    (h : read.run (flat stream fails actions) = .ok r s) :
    r = stream.head? ∧ s = flat stream.tail fails actions := by
  cases stream with
  | nil =>
    rw [run_read_nil] at h
    split_ifs at h
    cases h
    exact ⟨rfl, rfl⟩
  | cons b rest =>
    rw [run_read_cons] at h
    cases h
    exact ⟨rfl, rfl⟩

theorem of_run_readFully {n : ℕ} {bytes : Bytes} {s : SocketSession κ}
    (h : (readFully n).run (flat stream fails actions) = .ok bytes s) :
    ∃ rest, stream = bytes ++ rest ∧ bytes.length = n ∧ s = flat rest fails actions := by
  rcases Nat.lt_or_ge stream.length n with hn | hn
  · rw [run_readFully_short _ _ _ hn] at h
    cases h
  · have hsplit := List.take_append_drop n stream
    have hlen : (stream.take n).length = n := by simp [hn]
    rw [← hsplit, run_readFully _ _ _ hlen] at h
    cases h
    exact ⟨stream.drop n, hsplit.symm, hlen, rfl⟩

theorem of_run_arrayLength {n : Option Byte} {k : ℕ} {s t : SocketSession κ}
    (h : (arrayLength n : SocketM κ ℕ).run s = .ok k t) :
    ∃ b, n = some b ∧ k = b.toNat ∧ t = s := by
  cases n with
  | none => cases h
  | some b =>
    cases h
    exact ⟨b, rfl, rfl, rfl⟩

theorem of_run_outcome {α : Type} {e : SessionException} {x : Option α} {a : α}
    {s t : SocketSession κ} (h : (outcome e x : SocketM κ α).run s = .ok a t) :
    x = some a ∧ t = s := by
  cases x with
  | none => cases h
  | some b =>
    cases h
    exact ⟨rfl, rfl⟩

end Flat

/-! ### Properties of programs -/

/-- A property that the operations above have, as far as their actions are in `φ`, and that
is kept when programs are put together. -/
structure Compositional (φ : SocketAction κ → Prop) (G : ∀ α : Type, SocketM κ α → Prop) :
    Prop where
  pure : ∀ {α : Type} (a : α), G α (pure a)
  throw : ∀ {α : Type} (e : SessionException), G α (throw e)
  read : G _ read
  readFully : ∀ n, G _ (readFully n)
  drain : G _ drain
  skip : ∀ limit n, G _ (skip limit n)
  act : ∀ a, φ a → G _ (act a)
  bind : ∀ {α β : Type} {x : SocketM κ α} {f : α → SocketM κ β}, G α x → (∀ a, G β (f a)) →
    G β (x >>= f)

namespace Compositional

variable {φ : SocketAction κ → Prop} {G : ∀ α : Type, SocketM κ α → Prop}

theorem ite (_ : Compositional φ G) {α : Type} {c : Prop} [Decidable c] {x y : SocketM κ α}
    (hx : G α x) (hy : G α y) : G α (if c then x else y) := by
  split_ifs
  · exact hx
  · exact hy

variable (h : Compositional φ G)

include h

theorem arrayLength (n : Option Byte) : G _ (arrayLength n) := by
  cases n with
  | none => exact h.throw _
  | some b => exact h.pure _

theorem readCounted : G _ readCounted := by
  apply h.bind h.read
  intro n
  apply h.bind (h.arrayLength n)
  intro k
  exact h.readFully k

theorem compute {α : Type} (x : Except JavaException α) : G _ (compute x) := by
  cases x with
  | error e => exact h.throw _
  | ok a => exact h.pure _

theorem outcome {α : Type} (e : SessionException) (x : Option α) : G _ (outcome e x) := by
  cases x with
  | none => exact h.throw _
  | some a => exact h.pure _

end Compositional

open Handler

/-! ### Only the bytes matter -/

/-- The sessions have the same bytes to read and did the same. -/
structure SameStream (s t : SocketSession κ) : Prop where
  stream : s.input.stream = t.input.stream
  fails : s.input.fails = t.input.fails
  actions : s.actions = t.actions

theorem sameStream_start (chunks : List Bytes) (fails : Bool) :
    SameStream (start chunks fails : SocketSession κ) (flat chunks.flatten fails []) :=
  ⟨by simp [flat, start, InputStream.stream], rfl, rfl⟩

/-- The program does the same with every chunking of a stream. -/
def IgnoresChunks (α : Type) (x : SocketM κ α) : Prop := Relates SameStream Eq x x

theorem readChunks_sameStream {s t : SocketSession κ} (h : SameStream s t) (n : ℕ) :
    (InputStream.readChunks n s.input.chunks = none ∧
      InputStream.readChunks n t.input.chunks = none) ∨
    ∃ bytes rest rest', InputStream.readChunks n s.input.chunks = some (bytes, rest) ∧
      InputStream.readChunks n t.input.chunks = some (bytes, rest') ∧
      rest.flatten = rest'.flatten := by
  have hstream : s.input.chunks.flatten = t.input.chunks.flatten := h.stream
  rcases Nat.lt_or_ge t.input.chunks.flatten.length n with hn | hn
  · exact Or.inl ⟨InputStream.readChunks_eq_none (hstream ▸ hn), InputStream.readChunks_eq_none hn⟩
  · obtain ⟨rest', ht, hrest'⟩ := InputStream.readChunks_eq_some hn
    rw [← hstream] at hn ht hrest'
    obtain ⟨rest, hs, hrest⟩ := InputStream.readChunks_eq_some hn
    exact Or.inr ⟨_, rest, rest', hs, ht, hrest.trans hrest'.symm⟩

theorem ignoresChunks_read : IgnoresChunks _ (read : SocketM κ (Option Byte)) := by
  intro s t h
  unfold EStateM.run read
  obtain ⟨hs, ht⟩ | ⟨bytes, rest, rest', hs, ht, hrest⟩ := readChunks_sameStream h 1
  · rw [hs, ht, h.fails]
    dsimp only
    split_ifs
    · exact .error h
    · exact .ok rfl h
  · rw [hs, ht]
    exact .ok rfl ⟨hrest, h.fails, h.actions⟩

theorem ignoresChunks_readFully (n : ℕ) : IgnoresChunks _ (readFully n : SocketM κ Bytes) := by
  intro s t h
  unfold EStateM.run readFully
  obtain ⟨hs, ht⟩ | ⟨bytes, rest, rest', hs, ht, hrest⟩ := readChunks_sameStream h n
  · rw [hs, ht]
    exact .error ⟨rfl, h.fails, h.actions⟩
  · rw [hs, ht]
    exact .ok rfl ⟨hrest, h.fails, h.actions⟩

theorem ignoresChunks_skip (limit n : ℕ) : IgnoresChunks _ (skip limit n : SocketM κ Unit) := by
  intro s t h
  unfold EStateM.run skip
  obtain ⟨hs, ht⟩ | ⟨bytes, rest, rest', hs, ht, hrest⟩ := readChunks_sameStream h (min limit n)
  · rw [hs, ht, h.fails]
    dsimp only
    split_ifs
    · exact .error ⟨rfl, h.fails, h.actions⟩
    · exact .ok rfl ⟨rfl, h.fails, h.actions⟩
  · rw [hs, ht]
    exact .ok rfl ⟨hrest, h.fails, h.actions⟩

theorem compositional_ignoresChunks :
    Compositional (fun _ => True) (IgnoresChunks : ∀ α : Type, SocketM κ α → Prop) := by
  constructor
  · intro α a
    exact relates_pure rfl
  · intro α e s t h
    exact .error h
  · exact ignoresChunks_read
  · exact ignoresChunks_readFully
  · apply relates_modify
    intro s t h
    exact ⟨rfl, h.fails, h.actions⟩
  · exact ignoresChunks_skip
  · intro a _
    apply relates_modify
    intro s t h
    exact ⟨h.stream, h.fails, by simp [h.actions]⟩
  · intro α β x f hx hf
    apply relates_bind hx
    rintro a b rfl
    exact hf a

/-- What such a program leaves can be read off a run on the stream in one chunk. -/
theorem IgnoresChunks.after_start {α : Type} {x : SocketM κ α} (hx : IgnoresChunks α x)
    (chunks : List Bytes) (fails : Bool) :
    SameStream (after x (start chunks fails)) (after x (flat chunks.flatten fails [])) :=
  Relates.after hx (sameStream_start chunks fails)

theorem IgnoresChunks.run_start {α : Type} {x : SocketM κ α} (hx : IgnoresChunks α x)
    {chunks : List Bytes} {fails : Bool} {a : α} {t : SocketSession κ}
    (h : x.run (flat chunks.flatten fails []) = .ok a t) :
    ∃ s, x.run (start chunks fails) = .ok a s ∧ SameStream s t := by
  have hm := hx _ _ (sameStream_start chunks fails)
  rw [h] at hm
  generalize x.run (start chunks fails) = r at hm
  cases hm with
  | ok hQ hR =>
    subst hQ
    exact ⟨_, rfl, hR⟩

/-! ### What a program adds to the actions -/

section Emits

variable {φ : SocketAction κ → Prop}

/-- Whether it returns or throws, the program only adds actions with `φ`. -/
def Emits (φ : SocketAction κ → Prop) (α : Type) (x : SocketM κ α) : Prop :=
  ∀ s, ∃ added, (after x s).actions = s.actions ++ added ∧ ∀ a ∈ added, φ a

theorem emits_of_actions_eq {α : Type} {x : SocketM κ α}
    (h : ∀ s, (after x s).actions = s.actions) : Emits φ α x :=
  fun s => ⟨[], by simp [h s], by simp⟩

theorem actions_read (s : SocketSession κ) : (after read s).actions = s.actions := by
  unfold after EStateM.run read
  cases InputStream.readChunks 1 s.input.chunks with
  | some r => rfl
  | none =>
    dsimp only
    split_ifs <;> rfl

theorem actions_readFully (n : ℕ) (s : SocketSession κ) :
    (after (readFully n) s).actions = s.actions := by
  unfold after EStateM.run readFully
  cases InputStream.readChunks n s.input.chunks <;> rfl

theorem actions_skip (limit n : ℕ) (s : SocketSession κ) :
    (after (skip limit n) s).actions = s.actions := by
  unfold after EStateM.run skip
  cases InputStream.readChunks (min limit n) s.input.chunks with
  | some r => rfl
  | none =>
    dsimp only
    split_ifs <;> rfl

theorem emits_bind {α β : Type} {x : SocketM κ α} {f : α → SocketM κ β} (hx : Emits φ α x)
    (hf : ∀ a, Emits φ β (f a)) : Emits φ β (x >>= f) := by
  intro s
  obtain ⟨added, hadded, hφ⟩ := hx s
  cases hrun : x.run s with
  | ok a t =>
    rw [after_ok hrun] at hadded
    obtain ⟨more, hmore, hφ'⟩ := hf a t
    refine ⟨added ++ more, ?_, ?_⟩
    · rw [after_bind_ok hrun, hmore, hadded, List.append_assoc]
    · intro b hb
      exact (List.mem_append.mp hb).elim (hφ b) (hφ' b)
  | error e t =>
    rw [after, hrun] at hadded
    exact ⟨added, by rw [after_bind_error hrun, hadded], hφ⟩

theorem compositional_emits (φ : SocketAction κ → Prop) : Compositional φ (Emits φ) := by
  constructor
  · intro α a
    exact emits_of_actions_eq fun _ => rfl
  · intro α e
    exact emits_of_actions_eq fun _ => rfl
  · exact emits_of_actions_eq actions_read
  · intro n
    exact emits_of_actions_eq (actions_readFully n)
  · exact emits_of_actions_eq fun _ => rfl
  · intro limit n
    exact emits_of_actions_eq (actions_skip limit n)
  · intro a ha s
    exact ⟨[a], rfl, by simpa using ha⟩
  · intro α β x f hx hf
    exact emits_bind hx hf

theorem not_mem_after {α : Type} {x : SocketM κ α} {a : SocketAction κ} {s : SocketSession κ}
    (hx : Emits (· ≠ a) α x) (hs : a ∉ s.actions) : a ∉ (after x s).actions := by
  obtain ⟨added, hadded, hne⟩ := hx s
  rw [hadded]
  intro ha
  exact (List.mem_append.mp ha).elim hs fun hin => hne a hin rfl

/-- An action that the first part of a program does not do is done by the rest. -/
theorem mem_after_bind {α β : Type} {x : SocketM κ α} {f : α → SocketM κ β} {a : SocketAction κ}
    {s : SocketSession κ} (hx : Emits (· ≠ a) α x) (hs : a ∉ s.actions)
    (h : a ∈ (after (x >>= f) s).actions) :
    ∃ r t, x.run s = .ok r t ∧ a ∉ t.actions ∧ a ∈ (after (f r) t).actions := by
  have hnot := not_mem_after hx hs
  cases hrun : x.run s with
  | ok r t =>
    rw [after_ok hrun] at hnot
    rw [after_bind_ok hrun] at h
    exact ⟨r, t, rfl, hnot, h⟩
  | error e t =>
    rw [after, hrun] at hnot
    rw [after_bind_error hrun] at h
    exact absurd h hnot

end Emits

/-! ### Closing the connection -/

/-- A program that closes the connection before it returns. -/
def Closing (x : SocketM κ Unit) : Prop :=
  ∀ s s', x.run s = .ok () s' → s'.actions.getLast? = some .closed

theorem closing_close : Closing (close : SocketM κ Unit) := by
  intro s s' h
  cases h
  exact List.getLast?_concat ..

theorem closing_bind {α : Type} {x : SocketM κ α} {f : α → SocketM κ Unit}
    (hf : ∀ a, Closing (f a)) : Closing (x >>= f) := by
  intro s s' h
  obtain ⟨a, t, -, hrun⟩ := run_bind_eq_ok h
  exact hf a t s' hrun

theorem closing_ite {c : Prop} [Decidable c] {x y : SocketM κ Unit} (hx : Closing x)
    (hy : Closing y) : Closing (if c then x else y) := by
  split_ifs
  · exact hx
  · exact hy

/-- A handler that closes the connection adds to what was done. -/
theorem actions_after_tryCatch (x : SocketM κ Unit) (s : SocketSession κ) :
    (after (tryCatch x fun _ => close) s).actions = (after x s).actions ∨
      (after (tryCatch x fun _ => close) s).actions = (after x s).actions ++ [.closed] := by
  obtain ⟨a, h⟩ | ⟨e, -, h⟩ := Handler.after_tryCatch x (fun _ => close) s
  · exact Or.inl (by rw [after_ok h])
  · exact Or.inr (by rw [h]; rfl)

/-- With a handler that closes it, the connection is closed in every case. -/
theorem Closing.after_tryCatch {x : SocketM κ Unit} (hx : Closing x) (s : SocketSession κ) :
    (after (tryCatch x fun _ => close) s).actions.getLast? = some .closed := by
  obtain ⟨a, h⟩ | ⟨e, -, h⟩ := Handler.after_tryCatch x (fun _ => close) s
  · exact hx s _ h
  · rw [h]
    exact List.getLast?_concat ..

end SocketSession

end XnetZt
