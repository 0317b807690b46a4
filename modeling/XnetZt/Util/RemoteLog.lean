import XnetZt.Lib.RingBuffer
import XnetZt.Lib.Text

/-!
# The log that is read over HTTP

`RemoteLog` keeps its lines in a ring buffer of 2000 slots. A request with the key gets them
or clears them. `Journal` is what the log is for: all the lines since the latest clear.
Every run of the code refines it, with a dump that shows the last 2000 of its lines.
-/

namespace XnetZt

open Text

structure RemoteLog where
  /-- `lines`, `head` and `count` -/
  lines : RingBuffer Text
  apiKey : Option Text
  /-- Whether `server` is not `null`. -/
  server : Bool

namespace RemoteLog

def tag : Text := "RemoteLog".toList

def maxLines : ℕ := 2000

def initial : RemoteLog := ⟨.empty maxLines, none, false⟩

/-- The text of a line; `now` is the clock in milliseconds. -/
def line (now : ℤ) (tag msg : Option Text) : Text :=
  (toString now).toList ++ " ".toList ++ orNull tag ++ " ".toList ++ orNull msg

def log (s : RemoteLog) (now : ℤ) (tag msg : Option Text) : Except JavaException RemoteLog := do
  let lines ← s.lines.push maxLines (line now tag msg)
  return { s with lines }

def dump (s : RemoteLog) : Except JavaException Text := do
  let lines ← s.lines.toList maxLines
  return lines.flatMap fun line => orNull line ++ ['\n']

def startMessage (key : Text) : Text := "Remote log started, key=".toList ++ key

/-- `start` in the calling thread, with a random `key`. -/
def start (s : RemoteLog) (now : ℤ) (key : Text) : Except JavaException RemoteLog :=
  if s.server then return s
  else { s with apiKey := some key }.log now (some tag) (some (startMessage key))

/-- `reqLine.contains(path) && reqLine.contains("key=" + apiKey)` -/
def asksFor (apiKey : Option Text) (reqLine path : Text) : Bool :=
  reqLine.contains path && reqLine.contains ("key=".toList ++ orNull apiKey)

/-- One connection of the server thread, and what it answers. -/
def handleRequest (s : RemoteLog) (reqLine : Text) : Except JavaException (RemoteLog × Text) :=
  if asksFor s.apiKey reqLine "/logs".toList then do
    let body ← s.dump
    return (s, "HTTP/1.1 200 OK\r\nContent-Type: text/plain\r\nContent-Length: ".toList ++
      decimal body.utf16Length ++ "\r\n\r\n".toList ++ body)
  else if asksFor s.apiKey reqLine "/clear".toList then
    return ({ s with lines := s.lines.clear },
      "HTTP/1.1 200 OK\r\nContent-Length: 7\r\n\r\ncleared".toList)
  else
    return (s, "HTTP/1.1 401 Unauthorized\r\nContent-Length: 12\r\n\r\nunauthorized".toList)

/-- The methods are synchronized, so a run is a sequence of these. -/
inductive Event
  | log (now : ℤ) (tag msg : Option Text)
  | start (now : ℤ) (key : Text)
  /-- The server thread has its socket. -/
  | opened
  | stop
  | request (reqLine : Text)

def step (s : RemoteLog) : Event → Except JavaException RemoteLog
  | .log now tag msg => s.log now tag msg
  | .start now key => s.start now key
  | .opened => return { s with server := true }
  | .stop => return { s with server := false }
  | .request reqLine => do
    let (s, _) ← s.handleRequest reqLine
    return s

def run (events : List Event) : Except JavaException RemoteLog := events.foldlM step initial

/-! ### What is logged -/

/-- The lines since the latest clear, or since the start. -/
structure Journal where
  lines : List Text
  apiKey : Option Text
  server : Bool

/-- A request to clear is one with the key that does not ask for the lines. -/
def clears (apiKey : Option Text) (reqLine : Text) : Bool :=
  !asksFor apiKey reqLine "/logs".toList && asksFor apiKey reqLine "/clear".toList

def Journal.step (j : Journal) : Event → Journal
  | .log now tag msg => { j with lines := j.lines ++ [line now tag msg] }
  | .start now key =>
    if j.server then j
    else ⟨j.lines ++ [line now (some tag) (some (startMessage key))], some key, j.server⟩
  | .opened => { j with server := true }
  | .stop => { j with server := false }
  | .request reqLine => if clears j.apiKey reqLine then { j with lines := [] } else j

def journal (events : List Event) : Journal := events.foldl Journal.step ⟨[], none, false⟩

/-- The code's state for a journal. -/
structure Refines (s : RemoteLog) (j : Journal) : Prop where
  lines : s.lines.Holds maxLines j.lines
  apiKey : s.apiKey = j.apiKey
  server : s.server = j.server

theorem maxLines_pos : 0 < maxLines := by decide

variable {s : RemoteLog} {j : Journal}

theorem Refines.log (h : s.Refines j) (now : ℤ) (tag msg : Option Text) :
    ∃ s', s.log now tag msg = .ok s' ∧
      s'.Refines { j with lines := j.lines ++ [line now tag msg] } := by
  obtain ⟨lines, hpush, hlines⟩ := h.lines.push maxLines_pos (line now tag msg)
  refine ⟨{ s with lines }, ?_, hlines, h.apiKey, h.server⟩
  rw [RemoteLog.log, hpush]
  rfl

theorem Refines.dump (h : s.Refines j) :
    s.dump = .ok ((j.lines.rtake maxLines).flatMap (· ++ ['\n'])) := by
  rw [RemoteLog.dump, h.lines.toList maxLines_pos, ok_bind, List.flatMap_map]
  rfl

theorem Refines.request (h : s.Refines j) (reqLine : Text) :
    ∃ s', s.step (.request reqLine) = .ok s' ∧ s'.Refines (j.step (.request reqLine)) := by
  rw [RemoteLog.step, handleRequest, Journal.step, clears, h.apiKey]
  cases hlogs : asksFor j.apiKey reqLine "/logs".toList with
  | true =>
    rw [h.dump]
    exact ⟨s, rfl, h⟩
  | false =>
    cases hclear : asksFor j.apiKey reqLine "/clear".toList with
    | true => exact ⟨_, rfl, h.lines.clear, rfl, h.server⟩
    | false => exact ⟨s, rfl, h⟩

theorem Refines.step (h : s.Refines j) (e : Event) :
    ∃ s', s.step e = .ok s' ∧ s'.Refines (j.step e) := by
  cases e with
  | log now tag msg => exact h.log now tag msg
  | start now key =>
    rw [RemoteLog.step, RemoteLog.start, Journal.step]
    by_cases hserver : s.server
    · rw [if_pos hserver, if_pos (h.server ▸ hserver)]
      exact ⟨s, rfl, h⟩
    · rw [if_neg hserver, if_neg (h.server ▸ hserver)]
      have hkey : Refines { s with apiKey := some key } { j with apiKey := some key } :=
        ⟨h.lines, rfl, h.server⟩
      exact hkey.log now (some tag) (some (startMessage key))
  | opened => exact ⟨_, rfl, h.lines, h.apiKey, rfl⟩
  | stop => exact ⟨_, rfl, h.lines, h.apiKey, rfl⟩
  | request reqLine => exact h.request reqLine

/-- No run fails, and a dump at its end has the last lines since the latest clear. -/
theorem dump_run (events : List Event) :
    ∃ s, run events = .ok s ∧
      s.dump = .ok (((journal events).lines.rtake maxLines).flatMap (· ++ ['\n'])) := by
  have hinitial : initial.Refines ⟨[], none, false⟩ := ⟨RingBuffer.holds_empty, rfl, rfl⟩
  obtain ⟨s, hrun, hs⟩ :=
    foldlM_simulation (R := Refines) (fun _ _ e h => h.step e) events hinitial
  exact ⟨s, hrun, hs.dump⟩

end RemoteLog

end XnetZt
