import Mathlib.Data.List.TakeWhile
import XnetZt.Lib.Java
import XnetZt.Lib.Text

/-!
# `java.io.BufferedReader` over a socket

Chunks of a stream arrive at a socket and wait there. A reader that needs more takes at
least one of the bytes that wait, and as many more as it likes: how many depends on its own
buffer of 8192 characters, on the 8192 bytes of the decoder below it, and on what has
arrived by then. So it can hold bytes beyond the line it returns, and they are gone for
anybody who reads the socket itself. A read that waits too long ends in an exception.
`Reading` says how far a reader is: which bytes of the stream it has used, and that it made
no read it did not need.

A line ends with LF, CR or both. On a CR the reader returns at once and skips an LF that
follows when it is used again. CR and LF are bytes of their own in the charsets at hand,
so lines are cut as bytes and decoded then.
-/

namespace XnetZt

/-- Decoding, which leaves nothing of nothing only. -/
structure Charset where
  decode : Bytes → Text
  decode_eq_nil : ∀ b, decode b = [] ↔ b = []

def lf : Byte := 0x0a

def cr : Byte := 0x0d

def IsLineEnd (b : Byte) : Prop := b = lf ∨ b = cr

instance (b : Byte) : Decidable (IsLineEnd b) := inferInstanceAs (Decidable (_ ∨ _))

/-! ### Sockets -/

/-- What a read comes to: some bytes, the end of the stream, or a `SocketTimeoutException`. -/
inductive Outcome
  | data (bytes : Bytes)
  | eof
  | timeout

/-- A read to come: the chunks that arrive before it returns or gives up, and how many of the
bytes that wait then it takes. -/
structure Fill where
  arriving : List Bytes
  count : ℕ

/-- `waiting` is what has arrived and was not read. The stream ends when all reads to come are
made. -/
structure Socket where
  waiting : Bytes
  fills : List Fill

namespace Socket

/-- Without waiting bytes a read blocks, until it gives up or the stream ends. -/
def read (s : Socket) : Outcome × Socket :=
  match s.fills with
  | [] => if s.waiting = [] then (.eof, s) else (.data s.waiting, ⟨[], []⟩)
  | fill :: fills =>
    let waiting := s.waiting ++ fill.arriving.flatten
    let n := max fill.count 1
    if waiting = [] then (.timeout, ⟨[], fills⟩)
    else (.data (waiting.take n), ⟨waiting.drop n, fills⟩)

/-- The bytes of the stream that were not read. -/
def rest (s : Socket) : Bytes := s.waiting ++ s.fills.flatMap fun fill => fill.arriving.flatten

def size (s : Socket) : ℕ := s.rest.length + s.fills.length

variable {s s' s₁ s₂ : Socket} {bytes : Bytes}

theorem of_eof (h : s.read = (.eof, s')) : s' = s ∧ s.rest = [] := by
  rcases s with ⟨waiting, _ | ⟨fill, fills⟩⟩
  · simp only [read] at h
    split_ifs at h with hwaiting
    · cases h
      exact ⟨rfl, by simp [rest, hwaiting]⟩
    · simp at h
  · simp only [read] at h
    split_ifs at h <;> simp at h

/-- A read takes a first part of the stream. -/
theorem of_data (h : s.read = (.data bytes, s')) :
    bytes ≠ [] ∧ s.rest = bytes ++ s'.rest ∧ s'.fills.length ≤ s.fills.length := by
  rcases s with ⟨waiting, _ | ⟨fill, fills⟩⟩
  · simp only [read] at h
    split_ifs at h with hwaiting
    · simp at h
    · cases h
      exact ⟨hwaiting, by simp [rest], le_rfl⟩
  · simp only [read] at h
    split_ifs at h with hwaiting
    · simp at h
    · cases h
      refine ⟨?_, ?_, by simp⟩
      · rw [Ne, List.take_eq_nil_iff, not_or]
        exact ⟨by omega, hwaiting⟩
      · simp only [rest, List.flatMap_cons]
        rw [← List.append_assoc, ← List.append_assoc, List.take_append_drop]

theorem size_of_data (h : s.read = (.data bytes, s')) :
    bytes.length + s'.size ≤ s.size ∧ 0 < bytes.length := by
  obtain ⟨hne, hrest, hfills⟩ := of_data h
  have hlength := congrArg List.length hrest
  rw [List.length_append] at hlength
  unfold size
  exact ⟨by omega, List.length_pos_iff.mpr hne⟩

/-- The reads that return `taken`, one after the other. -/
inductive Takes : Socket → List Bytes → Socket → Prop
  | nil (s : Socket) : Takes s [] s
  | cons {s s₁ s₂ : Socket} {bytes : Bytes} {taken : List Bytes} :
    s.read = (.data bytes, s₁) → Takes s₁ taken s₂ → Takes s (bytes :: taken) s₂

section Takes

variable {taken taken' : List Bytes}

theorem Takes.rest_eq (h : Takes s taken s') : s.rest = taken.flatten ++ s'.rest := by
  induction h with
  | nil s => rfl
  | cons hread _ ih => rw [(of_data hread).2.1, ih, List.flatten_cons, List.append_assoc]

theorem Takes.append (h : Takes s taken s₁) (h' : Takes s₁ taken' s₂) :
    Takes s (taken ++ taken') s₂ := by
  induction h with
  | nil s => exact h'
  | cons hread _ ih => exact .cons hread (ih h')

/-- There is one sequence of reads: a longer one goes on from where a shorter one is. -/
theorem Takes.of_append (h : Takes s taken s₁) (h' : Takes s (taken ++ taken') s₂) :
    Takes s₁ taken' s₂ := by
  induction h with
  | nil s => exact h'
  | cons hread _ ih =>
    cases h' with
    | cons hread' h' =>
      cases hread.symm.trans hread'
      exact ih h'

theorem Takes.comparable (h : Takes s taken s₁) (h' : Takes s taken' s₂) :
    taken <+: taken' ∨ taken' <+: taken := by
  induction h generalizing taken' s₂ with
  | nil s => exact Or.inl ⟨_, rfl⟩
  | cons hread _ ih =>
    cases h' with
    | nil s => exact Or.inr ⟨_, rfl⟩
    | cons hread' h' =>
      cases hread.symm.trans hread'
      exact (ih h').imp (List.prefix_cons_inj _).mpr (List.prefix_cons_inj _).mpr

end Takes

/-- A read gives up before `n` bytes were taken. -/
def TimesOut (s : Socket) (n : ℕ) : Prop :=
  ∃ taken s₁ s₂, Takes s taken s₁ ∧ s₁.read = (.timeout, s₂) ∧ taken.flatten.length < n

/-- Some read ends just after `bytes`, and it takes `n` of them or more. -/
def EndsRead (s : Socket) (bytes : Bytes) (n : ℕ) (s' : Socket) : Prop :=
  ∃ init last, Takes s (init ++ [last]) s' ∧ init.flatten ++ last = bytes ∧ n ≤ last.length

theorem TimesOut.mono {n m : ℕ} (h : s.TimesOut n) (hle : n ≤ m) : s.TimesOut m := by
  obtain ⟨taken, s₁, s₂, htakes, hread, hlt⟩ := h
  exact ⟨taken, s₁, s₂, htakes, hread, hlt.trans_le hle⟩

theorem TimesOut.pos {n : ℕ} (h : s.TimesOut n) : 0 < n := by
  obtain ⟨_, _, _, _, _, hlt⟩ := h
  omega

theorem Takes.timesOut {taken : List Bytes} {n : ℕ} (h : Takes s taken s') (h' : s'.TimesOut n) :
    s.TimesOut (taken.flatten.length + n) := by
  obtain ⟨more, s₁, s₂, htakes, hread, hlt⟩ := h'
  refine ⟨taken ++ more, s₁, s₂, h.append htakes, hread, ?_⟩
  rw [List.flatten_append, List.length_append]
  omega

theorem Takes.not_timesOut {taken : List Bytes} {n : ℕ} (h : Takes s taken s')
    (hle : n ≤ taken.flatten.length) : ¬ s.TimesOut n := by
  rintro ⟨taken', s₁, s₂, htakes, hread, hlt⟩
  rcases h.comparable htakes with ⟨more, rfl⟩ | ⟨more, rfl⟩
  · simp only [List.flatten_append, List.length_append] at hlt
    omega
  · cases htakes.of_append h with
    | nil s =>
      rw [List.append_nil] at hle
      omega
    | cons hread' _ => cases hread.symm.trans hread'

end Socket

/-! ### The reader -/

/-- `buffer` is what was read from the socket and not used. -/
structure BufferedReader where
  buffer : Bytes
  skipLF : Bool
  socket : Socket

namespace BufferedReader

open Socket

def create (socket : Socket) : BufferedReader := ⟨[], false, socket⟩

/-- The buffer up to the next line end, without an LF that is to be skipped. -/
def scan (omitLF : Bool) (buffer : Bytes) : Bytes × Bytes :=
  (if omitLF ∧ buffer.head? = some lf then buffer.tail else buffer).span (¬ IsLineEnd ·)

/-- The loop of `readLine`; `line` is the part of the line found so far. -/
def readLineFrom (line : Bytes) (omitLF : Bool) (buffer : Bytes) (socket : Socket) :
    Outcome × BufferedReader :=
  match scan omitLF buffer with
  | (text, eol :: rest) => (.data (line ++ text), ⟨rest, eol = cr, socket⟩)
  | (text, []) =>
    match _h : socket.read with
    | (.data bytes, socket') =>
      readLineFrom (line ++ text) (omitLF && buffer.isEmpty) bytes socket'
    | (.eof, socket') =>
      (if line ++ text = [] then .eof else .data (line ++ text), ⟨[], false, socket'⟩)
    | (.timeout, socket') => (.timeout, ⟨[], omitLF && buffer.isEmpty, socket'⟩)
termination_by socket.size
decreasing_by
  have hsize := size_of_data _h
  omega

/-- `eof` is `null`, at the end of the stream. -/
def readLine (r : BufferedReader) : Outcome × BufferedReader :=
  readLineFrom [] r.skipLF r.buffer r.socket

section Unfold

variable {line text rest buffer bytes : Bytes} {omitLF : Bool} {eol : Byte} {s s' : Socket}

theorem readLineFrom_of_lineEnd (h : scan omitLF buffer = (text, eol :: rest)) :
    readLineFrom line omitLF buffer s = (.data (line ++ text), ⟨rest, eol = cr, s⟩) := by
  rw [readLineFrom, h]

theorem readLineFrom_of_data (h : scan omitLF buffer = (text, []))
    (hread : s.read = (.data bytes, s')) :
    readLineFrom line omitLF buffer s =
      readLineFrom (line ++ text) (omitLF && buffer.isEmpty) bytes s' := by
  rw [readLineFrom, h]
  dsimp only
  split <;> simp_all

theorem readLineFrom_of_timeout (h : scan omitLF buffer = (text, []))
    (hread : s.read = (.timeout, s')) :
    readLineFrom line omitLF buffer s = (.timeout, ⟨[], omitLF && buffer.isEmpty, s'⟩) := by
  rw [readLineFrom, h]
  dsimp only
  split <;> simp_all

theorem readLineFrom_of_eof (h : scan omitLF buffer = (text, []))
    (hread : s.read = (.eof, s')) :
    readLineFrom line omitLF buffer s =
      (if line ++ text = [] then .eof else .data (line ++ text), ⟨[], false, s'⟩) := by
  rw [readLineFrom, h]
  dsimp only
  split <;> simp_all

end Unfold

/-! ### Reading ends -/

/-- The bytes the reader has not used. -/
def size (r : BufferedReader) : ℕ := r.buffer.length + r.socket.size

theorem length_scan_le {omitLF : Bool} {buffer text rest : Bytes}
    (h : scan omitLF buffer = (text, rest)) : text.length + rest.length ≤ buffer.length := by
  unfold scan at h
  rw [List.span_eq_takeWhile_dropWhile, Prod.mk.injEq] at h
  obtain ⟨rfl, rfl⟩ := h
  rw [← List.length_append, List.takeWhile_append_dropWhile]
  split_ifs <;> simp

theorem size_readLineFrom_le {line text : Bytes} {omitLF : Bool} {buffer : Bytes} {s : Socket}
    {r : BufferedReader} (h : readLineFrom line omitLF buffer s = (.data text, r)) :
    text.length + r.size ≤ line.length + buffer.length + s.size := by
  induction hn : s.size using Nat.strong_induction_on generalizing line omitLF buffer s with
  | _ n ih =>
  subst hn
  rcases hscan : scan omitLF buffer with ⟨part, _ | ⟨eol, rest⟩⟩
  · have hlength := length_scan_le hscan
    rcases hread : s.read with ⟨bytes | _ | _, s'⟩
    · rw [readLineFrom_of_data hscan hread] at h
      have hsize := size_of_data hread
      have hle := ih s'.size (by omega) h rfl
      simp only [List.length_append, List.length_nil] at hle hlength
      omega
    · rw [readLineFrom_of_eof hscan hread, Prod.mk.injEq] at h
      obtain ⟨htext, rfl⟩ := h
      split_ifs at htext
      cases htext
      simp only [size, (of_eof hread).1, List.length_append, List.length_nil] at hlength ⊢
      omega
    · rw [readLineFrom_of_timeout hscan hread] at h
      simp at h
  · have hlength := length_scan_le hscan
    rw [readLineFrom_of_lineEnd hscan] at h
    cases h
    simp only [size, List.length_append, List.length_cons] at hlength ⊢
    omega

theorem size_readLine_lt {r r' : BufferedReader} {text : Bytes}
    (h : r.readLine = (.data text, r')) (htext : text ≠ []) : r'.size < r.size := by
  have hle := size_readLineFrom_le h
  have hpos := List.length_pos_iff.mpr htext
  simp only [List.length_nil, Nat.zero_add] at hle
  unfold size at hle ⊢
  omega

/-! ### Reading a line -/

/-- Where a reader is in a stream: it used the bytes `done`, and unless it made no read at
all, it used a byte of what the last one took. -/
def Reading (s : Socket) (done : Bytes) (r : BufferedReader) : Prop :=
  ∃ taken, Takes s taken r.socket ∧ taken.flatten = done ++ r.buffer ∧
    ∀ init last, taken = init ++ [last] → r.buffer.length < last.length

theorem reading_create (s : Socket) : Reading s [] (create s) :=
  ⟨[], .nil s, rfl, fun _ _ h => absurd h.symm (by simp)⟩

section Line

variable {content rest tail : Bytes} {eol : Byte}

theorem scan_of_lineEnd (hcontent : ∀ b ∈ content, ¬ IsLineEnd b) (heol : IsLineEnd eol) :
    scan false (content ++ eol :: rest) = (content, eol :: rest) := by
  have hpos : ∀ b ∈ content, decide (¬ IsLineEnd b) = true := fun b hb => by simp [hcontent b hb]
  simp only [scan, Bool.false_eq_true, false_and, if_false, List.span_eq_takeWhile_dropWhile]
  rw [List.takeWhile_append_of_pos hpos, List.dropWhile_append_of_pos hpos]
  simp [heol]

theorem scan_of_no_lineEnd (hcontent : ∀ b ∈ content, ¬ IsLineEnd b) :
    scan false content = (content, []) := by
  simp only [scan, Bool.false_eq_true, false_and, if_false, List.span_eq_takeWhile_dropWhile,
    Prod.mk.injEq, List.takeWhile_eq_self_iff, List.dropWhile_eq_nil_iff]
  simpa using hcontent

theorem scan_skip (buffer : Bytes) : scan true (lf :: buffer) = scan false buffer := by
  simp [scan]

/-- A search in a buffer and in what is read next that ended at a line end: the bytes before
it, what is left of the buffer, and the reads that were made, all of them needed. -/
structure Found (used : Bytes) (eol : Byte) (buffer : Bytes) (s : Socket)
    (r : BufferedReader) (taken : List Bytes) : Prop where
  skipLF : r.skipLF = decide (eol = cr)
  takes : Takes s taken r.socket
  bytes : buffer ++ taken.flatten = used ++ eol :: r.buffer
  needed : taken = [] ∧ r.buffer.length < buffer.length ∨
    ∃ init last, taken = init ++ [last] ∧ r.buffer.length < last.length

section Found

variable {used buffer bytes : Bytes} {s s' : Socket} {taken : List Bytes} {r : BufferedReader}

theorem Found.read (h : Found used eol bytes s' r taken) (hread : s.read = (.data bytes, s'))
    (buffer : Bytes) : Found (buffer ++ used) eol buffer s r (bytes :: taken) := by
  refine ⟨h.skipLF, .cons hread h.takes, by simp [h.bytes], .inr ?_⟩
  obtain ⟨rfl, hlt⟩ | ⟨init, last, rfl, hlt⟩ := h.needed
  · exact ⟨[], bytes, rfl, hlt⟩
  · exact ⟨bytes :: init, last, rfl, hlt⟩

theorem Found.cons (h : Found used eol buffer s r taken) (b : Byte) :
    Found (b :: used) eol (b :: buffer) s r taken := by
  refine ⟨h.skipLF, h.takes, by simp [h.bytes], ?_⟩
  exact h.needed.imp (fun hb => ⟨hb.1, hb.2.trans (by simp)⟩) id

theorem found_in_buffer (used rest : Bytes) (eol : Byte) (s : Socket) :
    Found used eol (used ++ eol :: rest) s ⟨rest, eol = cr, s⟩ [] :=
  ⟨rfl, .nil s, by simp, .inl ⟨rfl, by simp; omega⟩⟩

end Found

/-- The line `text` is returned after the bytes `used`, or a read gives up before. -/
def FindsOrTimesOut (text used : Bytes) (eol : Byte) (buffer : Bytes) (s : Socket)
    (result : Outcome × BufferedReader) : Prop :=
  (∃ r taken, result = (.data text, r) ∧ Found used eol buffer s r taken) ∨
    result.1 = .timeout ∧ s.TimesOut (used.length + 1 - buffer.length)

section FindsOrTimesOut

variable {text used bytes buffer : Bytes} {s s' : Socket} {result : Outcome × BufferedReader}

theorem FindsOrTimesOut.read (h : FindsOrTimesOut text used eol bytes s' result)
    (hread : s.read = (.data bytes, s')) (buffer : Bytes) :
    FindsOrTimesOut text (buffer ++ used) eol buffer s result := by
  rcases h with ⟨r, taken, hresult, hfound⟩ | ⟨hresult, htime⟩
  · exact Or.inl ⟨r, bytes :: taken, hresult, hfound.read hread buffer⟩
  · have hpos := htime.pos
    refine Or.inr ⟨hresult, ((Takes.cons hread (.nil s')).timesOut htime).mono ?_⟩
    simp only [List.flatten_singleton, List.length_append]
    omega

theorem FindsOrTimesOut.cons (h : FindsOrTimesOut text used eol buffer s result) (b : Byte) :
    FindsOrTimesOut text (b :: used) eol (b :: buffer) s result := by
  rcases h with ⟨r, taken, hresult, hfound⟩ | ⟨hresult, htime⟩
  · exact Or.inl ⟨r, taken, hresult, hfound.cons b⟩
  · exact Or.inr ⟨hresult, by simpa using htime⟩

theorem findsOrTimesOut_of_timeout (hread : s.read = (.timeout, s')) (hresult : result.1 = .timeout)
    (hle : buffer.length ≤ used.length) : FindsOrTimesOut text used eol buffer s result := by
  refine Or.inr ⟨hresult, [], s, s', .nil s, hread, ?_⟩
  simp only [List.flatten_nil, List.length_nil]
  omega

end FindsOrTimesOut

/-- The loop finds a line that is spread over the buffer and the bytes to come. -/
theorem readLineFrom_line (hcontent : ∀ b ∈ content, ¬ IsLineEnd b) (heol : IsLineEnd eol)
    (line buffer : Bytes) (s : Socket) (h : buffer ++ s.rest = content ++ eol :: tail) :
    FindsOrTimesOut (line ++ content) content eol buffer s
      (readLineFrom line false buffer s) := by
  induction hn : s.size using Nat.strong_induction_on generalizing line buffer content s with
  | _ n ih =>
  subst hn
  by_cases hin : ∃ rest, buffer = content ++ eol :: rest
  · obtain ⟨rest, rfl⟩ := hin
    rw [readLineFrom_of_lineEnd (scan_of_lineEnd hcontent heol)]
    exact Or.inl ⟨_, _, rfl, found_in_buffer content rest eol s⟩
  · -- the buffer is the first part of the line
    obtain ⟨later, rfl, hlater⟩ : ∃ later, content = buffer ++ later ∧
        s.rest = later ++ eol :: tail := by
      obtain ⟨later, hl, hr⟩ | ⟨c, hl, hr⟩ := List.append_eq_append_iff.mp h
      · exact ⟨later, hl, hr⟩
      · cases c with
        | nil => exact ⟨[], by simpa using hl.symm, by simpa using hr.symm⟩
        | cons b rest =>
          obtain ⟨rfl, -⟩ := List.cons.inj hr
          exact absurd ⟨rest, hl⟩ hin
    have hscan : scan false buffer = (buffer, []) :=
      scan_of_no_lineEnd fun b hb => hcontent b (List.mem_append_left later hb)
    rcases hread : s.read with ⟨bytes | _ | _, s'⟩
    · have hsize := size_of_data hread
      have hrest : bytes ++ s'.rest = later ++ eol :: tail := by
        rw [← hlater, (of_data hread).2.1]
      have hfinds := ih s'.size (by omega)
        (fun b hb => hcontent b (List.mem_append_right buffer hb)) (line ++ buffer) bytes s' hrest
        rfl
      rw [readLineFrom_of_data hscan hread, ← List.append_assoc]
      exact hfinds.read hread buffer
    · rw [(of_eof hread).2] at hlater
      simp at hlater
    · exact findsOrTimesOut_of_timeout hread (by rw [readLineFrom_of_timeout hscan hread]) (by simp)

/-- What a reader passes over before a line. -/
def skipped (omitLF : Bool) : Bytes := if omitLF then [lf] else []

theorem readLineFrom_skip (line buffer : Bytes) (s : Socket) :
    readLineFrom line true (lf :: buffer) s = readLineFrom line false buffer s := by
  rcases hscan : scan false buffer with ⟨text, _ | ⟨eol, rest⟩⟩
  · have hskip : scan true (lf :: buffer) = (text, []) := by rw [scan_skip, hscan]
    rcases hread : s.read with ⟨bytes | _ | _, s'⟩
    · rw [readLineFrom_of_data hskip hread, readLineFrom_of_data hscan hread]
      rfl
    · rw [readLineFrom_of_eof hskip hread, readLineFrom_of_eof hscan hread]
    · rw [readLineFrom_of_timeout hskip hread, readLineFrom_of_timeout hscan hread]
      rfl
  · rw [readLineFrom_of_lineEnd hscan, readLineFrom_of_lineEnd (by rw [scan_skip, hscan])]

/-- The same when an LF comes before the line, in the buffer or in a later read. -/
theorem readLineFrom_skipped (hcontent : ∀ b ∈ content, ¬ IsLineEnd b) (heol : IsLineEnd eol)
    (line buffer : Bytes) (omitLF : Bool) (s : Socket)
    (h : buffer ++ s.rest = skipped omitLF ++ content ++ eol :: tail) :
    FindsOrTimesOut (line ++ content) (skipped omitLF ++ content) eol buffer s
      (readLineFrom line omitLF buffer s) := by
  cases omitLF with
  | false => exact readLineFrom_line hcontent heol line buffer s h
  | true =>
    have hskip : ∀ buffer s, buffer ++ Socket.rest s = content ++ eol :: tail →
        FindsOrTimesOut (line ++ content) (lf :: content) eol (lf :: buffer) s
          (readLineFrom line true (lf :: buffer) s) := by
      intro buffer s hrest
      rw [readLineFrom_skip]
      exact (readLineFrom_line hcontent heol line buffer s hrest).cons lf
    cases buffer with
    | cons b buffer =>
      obtain ⟨rfl, hrest⟩ := List.cons.inj h
      exact hskip buffer s hrest
    | nil =>
      have hscan : scan true [] = ([], []) := rfl
      rcases hread : s.read with ⟨bytes | _ | _, s'⟩
      · obtain ⟨hne, hbytes, -⟩ := of_data hread
        obtain ⟨b, buffer, rfl⟩ := List.exists_cons_of_ne_nil hne
        rw [List.nil_append, hbytes] at h
        obtain ⟨rfl, hrest⟩ := List.cons.inj h
        rw [readLineFrom_of_data hscan hread, List.append_nil]
        exact (hskip buffer s' hrest).read hread []
      · rw [List.nil_append, (of_eof hread).2] at h
        exact absurd h.symm (by simp)
      · exact findsOrTimesOut_of_timeout hread (by rw [readLineFrom_of_timeout hscan hread])
          (Nat.zero_le _)

/-- Reading a line of a stream, from where the reader is. -/
theorem Reading.readLine {s : Socket} {done : Bytes} {r : BufferedReader} (hr : Reading s done r)
    (hcontent : ∀ b ∈ content, ¬ IsLineEnd b) (heol : IsLineEnd eol)
    (h : s.rest = done ++ (skipped r.skipLF ++ content ++ eol :: tail)) :
    (∃ r', r.readLine = (.data content, r') ∧ r'.skipLF = decide (eol = cr) ∧
        Reading s (done ++ (skipped r.skipLF ++ content ++ [eol])) r') ∨
      r.readLine.1 = .timeout ∧
        s.TimesOut (done ++ (skipped r.skipLF ++ content ++ [eol])).length := by
  obtain ⟨taken, htakes, htaken, hlast⟩ := hr
  have hrest : r.buffer ++ r.socket.rest = skipped r.skipLF ++ content ++ eol :: tail := by
    rw [htakes.rest_eq, htaken, List.append_assoc] at h
    exact List.append_cancel_left h
  rcases readLineFrom_skipped hcontent heol [] r.buffer r.skipLF r.socket hrest with
    ⟨r', more, hread, hfound⟩ | ⟨hread, htime⟩
  · refine Or.inl ⟨r', hread, hfound.skipLF, taken ++ more, htakes.append hfound.takes, ?_, ?_⟩
    · rw [List.flatten_append, htaken, List.append_assoc, hfound.bytes]
      simp
    · intro init last heq
      obtain ⟨rfl, hlt⟩ | ⟨init', last', rfl, hlt⟩ := hfound.needed
      · exact hlt.trans (hlast init last (by simpa using heq))
      · rw [← List.append_assoc] at heq
        obtain rfl : last' = last := by simpa using List.append_inj_right' heq rfl
        exact hlt
  · have hpos := htime.pos
    refine Or.inr ⟨hread, (htakes.timesOut htime).mono ?_⟩
    rw [htaken]
    simp only [List.length_append, List.length_singleton] at hpos ⊢
    omega

end Line

/-- Two cuts of a sequence of reads are one if each starts its last read before the other
ends. -/
theorem cut_unique {init init' after after' : List Bytes} {last last' : Bytes}
    (h : init ++ last :: after = init' ++ last' :: after')
    (hlt : init.flatten.length < init'.flatten.length + last'.length)
    (hlt' : init'.flatten.length < init.flatten.length + last.length) :
    init = init' ∧ last = last' ∧ after = after' := by
  -- a read between the two cuts would be the last one of the shorter cut
  obtain ⟨between, rfl, hr⟩ | ⟨between, rfl, hr⟩ := List.append_eq_append_iff.mp h
  · cases between with
    | nil =>
      obtain ⟨rfl, rfl⟩ := List.cons.inj hr
      simp
    | cons c between =>
      obtain ⟨rfl, -⟩ := List.cons.inj hr
      simp only [List.flatten_append, List.flatten_cons, List.length_append] at hlt'
      omega
  · cases between with
    | nil =>
      obtain ⟨rfl, rfl⟩ := List.cons.inj hr
      simp
    | cons c between =>
      obtain ⟨rfl, -⟩ := List.cons.inj hr
      simp only [List.flatten_append, List.flatten_cons, List.length_append] at hlt
      omega

/-- A reader leaves just the bytes after `done ++ pending` in the socket when a read ends
there that takes a byte before `pending` too. -/
theorem Reading.endsRead_iff {s left : Socket} {done pending body : Bytes} {r : BufferedReader}
    (hr : Reading s done r) (hdone : done ≠ []) (h : s.rest = done ++ (pending ++ body)) :
    s.EndsRead (done ++ pending) (pending.length + 1) left ↔
      left = r.socket ∧ r.socket.rest = body := by
  obtain ⟨taken, htakes, htaken, hlast⟩ := hr
  obtain ⟨init, last, rfl⟩ : ∃ init last, taken = init ++ [last] := by
    cases List.eq_nil_or_concat taken with
    | inl hnil =>
      rw [hnil] at htaken
      exact absurd (List.append_eq_nil_iff.mp htaken.symm).1 hdone
    | inr hconcat => simpa using hconcat
  have hbuffer := hlast init last rfl
  have hrest : r.buffer ++ r.socket.rest = pending ++ body := by
    rw [htakes.rest_eq, htaken, List.append_assoc] at h
    exact List.append_cancel_left h
  simp only [List.flatten_append, List.flatten_singleton] at htaken
  have hlength := congrArg List.length htaken
  constructor
  · rintro ⟨init', last', htakes', hpending, hlt⟩
    have hlength' := congrArg List.length hpending
    simp only [List.length_append] at hlength hlength'
    obtain ⟨more, more', hmore⟩ : ∃ more more', init ++ last :: more = init' ++ last' :: more' := by
      rcases htakes.comparable htakes' with ⟨more, hmore⟩ | ⟨more, hmore⟩
      · exact ⟨more, [], by simpa using hmore⟩
      · exact ⟨[], more, by simpa using hmore.symm⟩
    obtain ⟨rfl, rfl, rfl⟩ := cut_unique hmore (by omega) (by omega)
    have hbytes : r.buffer = pending := List.append_cancel_left (htaken.symm.trans hpending)
    rw [hbytes] at hrest
    refine ⟨?_, List.append_cancel_left hrest⟩
    have hsame : Takes s (init ++ [last] ++ []) left := by simpa using htakes'
    cases htakes.of_append hsame
    rfl
  · rintro ⟨rfl, hbody⟩
    rw [hbody] at hrest
    obtain rfl := List.append_cancel_right hrest
    exact ⟨init, last, htakes, htaken, hbuffer⟩

/-- What a reader has used, it did not wait for in vain. -/
theorem Reading.not_timesOut {s : Socket} {done : Bytes} {r : BufferedReader}
    (hr : Reading s done r) : ¬ s.TimesOut done.length := by
  obtain ⟨taken, htakes, htaken, -⟩ := hr
  refine htakes.not_timesOut ?_
  rw [htaken, List.length_append]
  omega

end BufferedReader

/-- Before a read that gives up, no read ends beyond. -/
theorem Socket.TimesOut.not_endsRead {s left : Socket} {n m : ℕ} {bytes : Bytes}
    (h : s.TimesOut n) (hle : n ≤ bytes.length) : ¬ s.EndsRead bytes m left := by
  rintro ⟨init, last, htakes, rfl, -⟩
  exact htakes.not_timesOut (by simpa using hle) h

end XnetZt
