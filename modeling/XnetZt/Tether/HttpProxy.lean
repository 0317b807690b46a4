import XnetZt.Lib.BufferedReader
import XnetZt.Lib.ParseInt
import XnetZt.Net.InetAddress
import XnetZt.Tether.Relay

/-!
# The HTTP proxy

`handleClient` reads the head of a request through a `BufferedReader`, and then `relay`
reads the socket itself. What the reader holds beyond the head is lost, and the LF of the
last CRLF is relayed when the reader did not take it with the CR. A read gives up after 30
seconds, in `handleClient` as in the relay. The main result says in which cases the rest of
the client's stream is delivered, over all ways in which the stream arrives and is read.
-/

namespace XnetZt

/-- The proxy with what its answers depend on outside of the program: the default charset
and locale, the digits of `Integer.parseInt`, the resolver, and whether a connection to the
upstream can be made. `none` stands for an exception. -/
structure HttpProxy where
  charset : Charset
  toUpperCase : Text → Text
  toLowerCase : Text → Text
  digits : DigitTable
  getByName : Text → Option InetAddress
  connectUpstream : InetAddress → ℤ → Option Unit
  bindAddress : Option Text
  port : ℕ

namespace HttpProxy

/-- `getBytes(StandardCharsets.US_ASCII)` -/
def asciiBytes (text : Text) : Bytes :=
  text.map fun c => if c.toNat < 128 then BitVec.ofNat 8 c.toNat else 0x3f

theorem asciiBytes_append (text text' : Text) :
    asciiBytes (text ++ text') = asciiBytes text ++ asciiBytes text' :=
  List.map_append

theorem of_mem_asciiBytes {text : Text} {b : Byte} (h : b ∈ asciiBytes text) :
    (∃ c ∈ text, c.toNat < 128 ∧ b.toNat = c.toNat) ∨ b = 0x3f := by
  obtain ⟨c, hc, rfl⟩ := List.mem_map.mp h
  split_ifs with hascii
  · refine Or.inl ⟨c, hc, hascii, ?_⟩
    rw [BitVec.toNat_ofNat, Nat.mod_eq_of_lt (by omega)]
  · exact Or.inr rfl

/-- What the proxy does with a client: it closes the connection, with a reply or without,
or it connects to an upstream, writes something to both sides and relays. -/
inductive Response
  | close
  | reply (toClient : Bytes)
  | relay (address : InetAddress) (port : ℤ) (toClient toUpstream : Bytes)
  deriving DecidableEq

def Response.Relays : Response → Prop
  | relay _ _ _ _ => True
  | close => False
  | reply _ => False

instance : DecidablePred Response.Relays
  | .relay _ _ _ _ => isTrue trivial
  | .close => isFalse id
  | .reply _ => isFalse id

def crlf : Text := ['\r', '\n']

def sendError (code : ℕ) (msg : Text) : Response :=
  .reply (asciiBytes ("HTTP/1.1 ".toList ++ Text.decimal code ++ [' '] ++ msg ++ crlf ++
    "Content-Length: 0".toList ++ crlf ++ "Connection: close".toList ++ crlf ++ crlf))

section Respond

variable (p : HttpProxy)

def parseInt (text : Text) : Option ℤ := (p.digits.parseInt text).map Int32.toInt

/-- The page is ASCII, as is the text of an address. -/
def serveWpad : Response :=
  let addr := p.bindAddress.getD "192.168.49.1".toList
  let pac := "function FindProxyForURL(url, host) \x7b\n".toList ++
    "  if (isPlainHostName(host) || host == \"localhost\") return \"DIRECT\";\n".toList ++
    "  return \"PROXY ".toList ++ addr ++ [':'] ++ Text.decimal p.port ++ "; SOCKS5 ".toList ++
    addr ++ ":1080; DIRECT\";\n".toList ++ "\x7d\n".toList
  let body := asciiBytes pac
  let response := "HTTP/1.1 200 OK".toList ++ crlf ++
    "Content-Type: application/x-ns-proxy-autoconfig".toList ++ crlf ++
    "Content-Length: ".toList ++ Text.decimal body.length ++ crlf ++
    "Connection: close".toList ++ crlf ++ crlf
  .reply (asciiBytes response ++ body)

def handleConnect (target : Text) : Option Response := do
  let hp := Text.split ':' target
  let host ← hp[0]?
  let port ← if hp.length > 1 then hp[1]?.bind p.parseInt else some 443
  let address ← p.getByName host
  p.connectUpstream address port
  return .relay address port
    (asciiBytes ("HTTP/1.1 200 Connection Established".toList ++ crlf ++ crlf)) []

/-- The path of a target, without scheme and host. -/
def path (target : Text) : Text :=
  if target.startsWith "http://".toList then
    match (target.drop 7).dropWhile (· ≠ '/') with
    | [] => ['/']
    | rest => rest
  else target

def handleForward (method target : Text) (host : Option Text) : Option Response := do
  match host with
  | none => return sendError 400 "Bad Request".toList
  | some host =>
    let (connectHost, connectPort) ←
      if ':' ∈ host then do
        let hp := Text.split ':' host
        let connectHost ← hp[0]?
        let connectPort ← hp[1]?.bind p.parseInt
        pure (connectHost, connectPort)
      else pure (host, 80)
    let address ← p.getByName connectHost
    p.connectUpstream address connectPort
    return .relay address connectPort []
      (asciiBytes (method ++ [' '] ++ path target ++ " HTTP/1.1".toList ++ crlf ++
        "Host: ".toList ++ host ++ crlf ++ "Connection: close".toList ++ crlf ++ crlf))

/-- The branches at the end of `handleClient`; an exception closes the connection. -/
def respond (method target : Text) (host : Option Text) : Response :=
  if method = "CONNECT".toList then (p.handleConnect target).getD .close
  else if target = "/wpad.dat".toList ∨ target = "/proxy.pac".toList then p.serveWpad
  else (p.handleForward method target host).getD .close

/-- Only a handler that does not throw relays. -/
theorem eq_some_of_getD_close {handled : Option Response} {a : InetAddress} {port : ℤ}
    {toClient toUpstream : Bytes} (h : handled.getD .close = .relay a port toClient toUpstream) :
    handled = some (.relay a port toClient toUpstream) := by
  cases handled with
  | none => cases h
  | some response => exact congrArg some h

/-- One round of the loop over the headers. -/
def hostHeader (host : Option Text) (line : Text) : Option Text :=
  if (p.toLowerCase line).startsWith "host:".toList then some (Text.trim (line.drop 5)) else host

/-- `none` is the exception of a read that has waited too long. -/
def readHeaders (host : Option Text) (r : BufferedReader) : Option (Option Text) × BufferedReader :=
  match _hread : r.readLine with
  | (.eof, r') => (some host, r')
  | (.timeout, r') => (none, r')
  | (.data bytes, r') =>
    let line := p.charset.decode bytes
    if _hline : line = [] then (some host, r') else readHeaders (p.hostHeader host line) r'
termination_by r.size
decreasing_by
  exact BufferedReader.size_readLine_lt _hread (mt (p.charset.decode_eq_nil bytes).mpr _hline)

/-- What becomes of a client, and its socket with the bytes that are left there. -/
def handleClient (client : Socket) : Response × Socket :=
  match (BufferedReader.create client).readLine with
  | (.eof, r) => (.close, r.socket)
  | (.timeout, r) => (.close, r.socket)
  | (.data bytes, r) =>
    match (p.charset.decode bytes).splitLimit ' ' 2 with
    | method :: target :: _ =>
      match p.readHeaders none r with
      | (some host, r) => (p.respond (p.toUpperCase method) target host, r.socket)
      | (none, r) => (.close, r.socket)
    | _ => (.close, r.socket)

end Respond

/-! ### Request heads -/

inductive Eol
  | lf
  | crlf
  deriving DecidableEq

namespace Eol

/-- The byte at which a reader returns the line. -/
def first : Eol → Byte
  | lf => XnetZt.lf
  | crlf => XnetZt.cr

/-- What of the line end it leaves. -/
def pending : Eol → Bytes
  | lf => []
  | crlf => [XnetZt.lf]

def bytes (e : Eol) : Bytes := e.first :: e.pending

theorem isLineEnd_first (e : Eol) : IsLineEnd e.first := by
  cases e <;> decide

theorem skipped_first (e : Eol) : BufferedReader.skipped (decide (e.first = cr)) = e.pending := by
  cases e <;> rfl

end Eol

structure Line where
  content : Bytes
  eol : Eol
  clean : ∀ b ∈ content, ¬ IsLineEnd b

def Line.bytes (l : Line) : Bytes := l.content ++ l.eol.bytes

/-- A request line and headers, ended by an empty line. -/
structure Head where
  requestLine : Line
  headers : List Line
  nonempty : ∀ l ∈ headers, l.content ≠ []
  last : Eol

namespace Head

variable (head : Head)

def bytes : Bytes := head.requestLine.bytes ++ head.headers.flatMap Line.bytes ++ head.last.bytes

/-- The head up to the byte at which the empty line is returned. -/
def used : Bytes :=
  head.requestLine.bytes ++ head.headers.flatMap Line.bytes ++ [head.last.first]

theorem bytes_eq : head.bytes = head.used ++ head.last.pending := by
  simp [bytes, used, Eol.bytes]

/-- Some read ends with the head and takes the whole of its last line end. -/
def EndsRead (client left : Socket) : Prop :=
  client.EndsRead head.bytes head.last.bytes.length left

end Head

/-- What the proxy answers to a head. -/
def answer (p : HttpProxy) (head : Head) : Response :=
  match (p.charset.decode head.requestLine.content).splitLimit ' ' 2 with
  | method :: target :: _ =>
    p.respond (p.toUpperCase method) target
      (head.headers.foldl (fun host l => p.hostHeader host (p.charset.decode l.content)) none)
  | _ => .close

section Read

open BufferedReader

variable (p : HttpProxy) {client : Socket} {done pending : Bytes} {r : BufferedReader}

/-- A reader that is to read a line after the LF left from the line before. -/
structure AtLine (client : Socket) (done pending : Bytes) (r : BufferedReader) : Prop where
  reading : Reading client done r
  pending_eq : skipped r.skipLF = pending

theorem atLine_create (client : Socket) : AtLine client [] [] (create client) :=
  ⟨reading_create client, rfl⟩

theorem AtLine.readLine (h : AtLine client done pending r) (l : Line) (rest : Bytes)
    (hstream : client.rest = done ++ (pending ++ l.bytes ++ rest)) :
    (∃ r', r.readLine = (.data l.content, r') ∧
        AtLine client (done ++ (pending ++ l.content ++ [l.eol.first])) l.eol.pending r') ∨
      r.readLine.1 = .timeout ∧
        client.TimesOut (done ++ (pending ++ l.content ++ [l.eol.first])).length := by
  obtain ⟨hr, rfl⟩ := h
  have hline : client.rest =
      done ++ (skipped r.skipLF ++ l.content ++ l.eol.first :: (l.eol.pending ++ rest)) := by
    rw [hstream]
    simp [Line.bytes, Eol.bytes]
  rcases hr.readLine l.clean l.eol.isLineEnd_first hline with ⟨r', hread, hskip, hr'⟩ | htime
  · exact Or.inl ⟨r', hread, hr', by rw [hskip, l.eol.skipped_first]⟩
  · exact Or.inr htime

/-- One round of the loop. -/
theorem readHeaders_of_read {host : Option Text} {bytes : Bytes} {r' : BufferedReader}
    (hread : r.readLine = (.data bytes, r')) :
    p.readHeaders host r =
      if p.charset.decode bytes = [] then (some host, r')
      else p.readHeaders (p.hostHeader host (p.charset.decode bytes)) r' := by
  rw [readHeaders]
  split
  next heq => cases hread.symm.trans heq
  next heq => cases hread.symm.trans heq
  next heq =>
    cases hread.symm.trans heq
    rfl

theorem readHeaders_of_line {host : Option Text} {bytes : Bytes} {r' : BufferedReader}
    (hread : r.readLine = (.data bytes, r')) (hbytes : bytes ≠ []) :
    p.readHeaders host r = p.readHeaders (p.hostHeader host (p.charset.decode bytes)) r' := by
  have hline : p.charset.decode bytes ≠ [] := mt (p.charset.decode_eq_nil bytes).mp hbytes
  rw [p.readHeaders_of_read hread, if_neg hline]

theorem readHeaders_of_empty {host : Option Text} {r' : BufferedReader}
    (hread : r.readLine = (.data [], r')) : p.readHeaders host r = (some host, r') := by
  rw [p.readHeaders_of_read hread, if_pos ((p.charset.decode_eq_nil []).mpr rfl)]

theorem readHeaders_of_timeout {host : Option Text} (hread : r.readLine.1 = .timeout) :
    (p.readHeaders host r).1 = none := by
  rw [readHeaders]
  split
  next heq => simp [heq] at hread
  next heq => rfl
  next heq => simp [heq] at hread

/-- The loop reads all headers and the empty line, or gives up. -/
theorem AtLine.readHeaders (h : AtLine client done pending r) (host : Option Text)
    {headers : List Line} (hne : ∀ l ∈ headers, l.content ≠ []) (last : Eol) (rest : Bytes)
    (hstream : client.rest =
      done ++ (pending ++ headers.flatMap Line.bytes ++ last.bytes ++ rest)) :
    (∃ r', p.readHeaders host r =
        (some (headers.foldl (fun host l => p.hostHeader host (p.charset.decode l.content)) host),
          r') ∧
        Reading client (done ++ (pending ++ headers.flatMap Line.bytes ++ [last.first])) r') ∨
      (p.readHeaders host r).1 = none ∧
        client.TimesOut
          (done ++ (pending ++ headers.flatMap Line.bytes ++ [last.first])).length := by
  induction headers generalizing done pending r host with
  | nil =>
    rcases h.readLine ⟨[], last, by simp⟩ rest (by rw [hstream]; simp [Line.bytes]) with
      ⟨r', hread, hat⟩ | ⟨hread, htime⟩
    · exact Or.inl ⟨r', p.readHeaders_of_empty hread, by simpa using hat.reading⟩
    · exact Or.inr ⟨p.readHeaders_of_timeout hread, by simpa using htime⟩
  | cons l headers ih =>
    rcases h.readLine l (headers.flatMap Line.bytes ++ last.bytes ++ rest)
      (by rw [hstream]; simp) with ⟨r', hread, hat⟩ | ⟨hread, htime⟩
    · have hrest := ih hat (p.hostHeader host (p.charset.decode l.content))
        (fun l hl => hne l (List.mem_cons_of_mem _ hl))
        (by rw [hstream]; simp [Line.bytes, Eol.bytes])
      rw [p.readHeaders_of_line hread (hne l List.mem_cons_self), List.foldl_cons]
      simpa [Line.bytes, Eol.bytes] using hrest
    · refine Or.inr ⟨p.readHeaders_of_timeout hread, htime.mono ?_⟩
      simp [Line.bytes, Eol.bytes]

/-- A head is answered as its lines say, and read up to the end of its empty line, unless a
read gives up before. -/
theorem handleClient_head (head : Head) {body : Bytes}
    (hstream : client.rest = head.bytes ++ body) (hrelay : (p.answer head).Relays) :
    (∃ r, p.handleClient client = (p.answer head, r.socket) ∧ Reading client head.used r) ∨
      (p.handleClient client).1 = .close ∧ client.TimesOut head.used.length := by
  unfold handleClient
  rcases (atLine_create client).readLine head.requestLine
    (head.headers.flatMap Line.bytes ++ head.last.bytes ++ body)
    (by rw [hstream]; simp [Head.bytes]) with ⟨r, hread, hat⟩ | ⟨hread, htime⟩
  · have hheaders := hat.readHeaders p none head.nonempty head.last body
      (by rw [hstream]; simp [Head.bytes, Line.bytes, Eol.bytes])
    have hused : [] ++ ([] ++ head.requestLine.content ++ [head.requestLine.eol.first]) ++
        (head.requestLine.eol.pending ++ head.headers.flatMap Line.bytes ++ [head.last.first]) =
        head.used := by
      simp [Head.used, Line.bytes, Eol.bytes]
    rw [hused] at hheaders
    unfold answer at hrelay ⊢
    rw [hread]
    dsimp only
    split
    · rcases hheaders with ⟨r', hheaders, hr'⟩ | ⟨hheaders, htime⟩
      · rw [hheaders]
        exact Or.inl ⟨r', rfl, hr'⟩
      · rcases hresult : p.readHeaders none r with ⟨host | _, r'⟩
        · exact Or.inr ⟨rfl, htime⟩
        · rw [hresult] at hheaders
          cases hheaders
    · next hparts =>
      split at hrelay
      · next heq => exact absurd heq (hparts _ _ _)
      · exact absurd hrelay id
  · rcases hresult : (create client).readLine with ⟨bytes | _ | _, r⟩
    · rw [hresult] at hread
      cases hread
    · rw [hresult] at hread
      cases hread
    · refine Or.inr ⟨rfl, htime.mono ?_⟩
      simp [Head.used, Line.bytes, Eol.bytes]

end Read

/-! ### Delivery of the body -/

/-- A client that is relayed with `body` to come has it delivered: in every state of the relay
a prefix of the body was written to the upstream, the rest of it can follow, and nothing
else. A client that is not relayed has nothing delivered. -/
def Delivers (body fromUpstream : Bytes) (actions : List Relay.Action) : Response × Socket → Prop
  | (.relay _ _ _ _, left) =>
    Run.Throughout relay.step (relay.CanComplete body)
      (relay.start (Relay.payload left.rest fromUpstream))
      (.send .upload left.waiting.length :: actions)
  | (.close, _) => body = []
  | (.reply _, _) => body = []

/-- The client sends all of the body in time for the relay, which starts with `arrived` bytes of
it in the socket. -/
def SendsInTime (body fromUpstream : Bytes) (arrived : ℕ) (actions : List Relay.Action) : Prop :=
  Run.Along relay.step Relay.SendsInTime (relay.start (Relay.payload body fromUpstream))
    (.send .upload arrived :: actions)

theorem delivers_iff_of_relays {response : Response} (hrelay : response.Relays)
    (body fromUpstream : Bytes) {actions : List Relay.Action} (hopen : .finish .upload ∉ actions)
    (left : Socket) : Delivers body fromUpstream actions (response, left) ↔
      left.rest = body ∧ SendsInTime body fromUpstream left.waiting.length actions := by
  cases response with
  | close => exact absurd hrelay id
  | reply _ => exact absurd hrelay id
  | relay _ _ _ _ =>
    exact Relay.throughout_canComplete_iff (by decide) rfl rfl left.rest fromUpstream body
      (by simpa using hopen)

/-- What a reader leaves after a head is the body when a read ends with the head. -/
theorem endsRead_iff_of_reading {client : Socket} {head : Head} {body : Bytes} {r : BufferedReader}
    (hr : BufferedReader.Reading client head.used r) (hstream : client.rest = head.bytes ++ body)
    (left : Socket) : head.EndsRead client left ↔ left = r.socket ∧ r.socket.rest = body := by
  rw [head.bytes_eq, List.append_assoc] at hstream
  rw [← hr.endsRead_iff (by simp [Head.used]) hstream, Head.EndsRead, head.bytes_eq]
  rfl

/-- In the two branches that relay, and as long as the client keeps its connection open, the
rest of its stream is delivered exactly when a read ends with the head and takes the whole of
its last line end, and the relay does not give up on the client before it has sent
everything. If there is nothing to deliver, `handleClient` may give up on it. -/
theorem delivers_iff (p : HttpProxy) (head : Head) (body : Bytes) (client : Socket)
    (hstream : client.rest = head.bytes ++ body) (hrelay : (p.answer head).Relays)
    (fromUpstream : Bytes) (actions : List Relay.Action) (hopen : .finish .upload ∉ actions) :
    (¬ client.TimesOut head.used.length → (p.handleClient client).1 = p.answer head) ∧
      (Delivers body fromUpstream actions (p.handleClient client) ↔
        (∃ left, head.EndsRead client left ∧
          SendsInTime body fromUpstream left.waiting.length actions) ∨
        body = [] ∧ client.TimesOut head.used.length) := by
  have hlength : head.used.length ≤ head.bytes.length := by simp [head.bytes_eq]
  rcases p.handleClient_head head hstream hrelay with ⟨r, hclient, hr⟩ | ⟨hclose, htime⟩
  · rw [hclient]
    refine ⟨fun _ => rfl, ?_⟩
    rw [delivers_iff_of_relays hrelay body fromUpstream hopen]
    simp only [endsRead_iff_of_reading hr hstream, hr.not_timesOut, and_false, or_false]
    constructor
    · rintro ⟨hrest, hsends⟩
      exact ⟨r.socket, ⟨rfl, hrest⟩, hsends⟩
    · rintro ⟨left, ⟨rfl, hrest⟩, hsends⟩
      exact ⟨hrest, hsends⟩
  · refine ⟨fun h => absurd htime h, ?_⟩
    rcases hresult : p.handleClient client with ⟨response, left⟩
    rw [hresult] at hclose
    subst hclose
    constructor
    · exact fun hbody => Or.inr ⟨hbody, htime⟩
    · rintro (⟨left, hends, -⟩ | ⟨hbody, -⟩)
      · exact absurd hends (htime.not_endsRead hlength)
      · exact hbody

/-- A proxy that reaches every host. -/
def reachingAll : HttpProxy where
  charset := ⟨fun bytes => bytes.map fun b => Char.ofNat b.toNat, by simp⟩
  toUpperCase := id
  toLowerCase := id
  digits := .asciiOnly
  getByName _ := some (.inet4 0x0a000001)
  connectUpstream _ _ := some ()
  bindAddress := none
  port := 8080

def connectHead : Head where
  requestLine := ⟨asciiBytes "CONNECT a HTTP/1.1".toList, .crlf, by decide +kernel⟩
  headers := []
  nonempty := by simp
  last := .crlf

/-- The client waits for the reply before it sends. -/
theorem delivers_afterHead :
    let client : Socket := ⟨[], [⟨[connectHead.bytes], 8192⟩, ⟨[[0x41]], 8192⟩]⟩
    (reachingAll.answer connectHead).Relays ∧
      Delivers [0x41] [] [.send .upload 1, .copy .upload 1, .copy .upload 1]
        (reachingAll.handleClient client) := by
  intro client
  have hrelay : (reachingAll.answer connectHead).Relays := by decide
  have hiff := delivers_iff reachingAll connectHead [0x41] client rfl hrelay []
    [.send .upload 1, .copy .upload 1, .copy .upload 1] (by simp)
  refine ⟨hrelay, hiff.2.mpr (Or.inl ⟨⟨[], [⟨[[0x41]], 8192⟩]⟩, ?_, ?_⟩)⟩
  · refine ⟨[], connectHead.bytes, .cons rfl (.nil _), rfl, by decide⟩
  · simp [SendsInTime, Relay.SendsInTime]

/-- Head and body have both arrived when the reader reads, and it takes them in one read. -/
theorem not_delivers_withHead :
    let client : Socket := ⟨[], [⟨[connectHead.bytes, [0x41]], 8192⟩]⟩
    (reachingAll.answer connectHead).Relays ∧
      ¬ Delivers [0x41] [] [] (reachingAll.handleClient client) := by
  intro client
  have hrelay : (reachingAll.answer connectHead).Relays := by decide
  have hstream : client.rest = connectHead.bytes ++ [0x41] := by decide +kernel
  refine ⟨hrelay, ?_⟩
  rcases reachingAll.handleClient_head connectHead hstream hrelay with
    ⟨r, hclient, hr⟩ | ⟨hclose, -⟩
  · rw [hclient, delivers_iff_of_relays hrelay [0x41] [] (by simp)]
    rintro ⟨hrest, -⟩
    obtain ⟨init, last, htakes, hbytes, -⟩ :=
      (endsRead_iff_of_reading hr hstream r.socket).mpr ⟨rfl, hrest⟩
    -- the first read takes more than the head
    have hread : client.read = (.data (connectHead.bytes ++ [0x41]), ⟨[], []⟩) := rfl
    have hlength := congrArg List.length hbytes
    cases init with
    | nil =>
      cases htakes with
      | cons hread' _ =>
        cases hread.symm.trans hread'
        simp at hlength
    | cons bytes init =>
      cases htakes with
      | cons hread' _ =>
        cases hread.symm.trans hread'
        simp at hlength
  · rcases hresult : reachingAll.handleClient client with ⟨response, left⟩
    rw [hresult] at hclose
    subst hclose
    exact List.cons_ne_nil _ _

end HttpProxy

end XnetZt
