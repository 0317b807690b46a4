import Mathlib.Data.Bool.AllAny
import XnetZt.Net.Uri
import XnetZt.Tether.HttpProxy

/-!
# Where the HTTP proxy connects to

`handleForward` takes the endpoint from the `Host` header and only the path from the target
of the request. `handleConnect` cuts its target at every colon. So a request goes where its
target says if the header agrees with the target, and no IPv6 literal is involved.
-/

namespace XnetZt

open Text

/-- A scheme in lower case, and no query without a path. -/
def HttpUri.Plain (uri : HttpUri) : Prop :=
  uri.scheme = "http".toList ∧ (uri.path = [] → uri.query = none)

instance (uri : HttpUri) : Decidable uri.Plain := inferInstanceAs (Decidable (_ ∧ _))

namespace HttpProxy

/-- What the proxy relies on in the Java runtime: a text that begins with a bracket is a host
for `InetAddress.getByName` only if it ends with one. -/
structure Runtime (p : HttpProxy) : Prop where
  getByName_unclosed : ∀ text : Text, text.getLast? ≠ some ']' → p.getByName ('[' :: text) = none

theorem parseInt_nil (p : HttpProxy) : p.parseInt [] = none := rfl

theorem parseInt_port (p : HttpProxy) (port : Uri.Port) :
    p.parseInt port.digits = some (port.number : ℤ) := by
  have hlt : port.number < 2 ^ 31 := lt_of_le_of_lt port.le (by norm_num)
  have hint : (Int32.ofNat port.number).toInt = port.number := Int32.toInt_ofNat_of_lt hlt
  rw [parseInt, p.digits.parseInt_digits port.nonempty port.isDigit hlt, Option.map_some]
  exact congrArg some hint

/-! ### The path of a URI -/

section Path

variable {uri : HttpUri}

/-- In a scheme of lower case the search for the path passes the host and the port. -/
theorem path_of_scheme (h : uri.scheme = "http".toList) :
    path uri.text = if (uri.path ++ uri.queryText).dropWhile (· ≠ '/') = [] then ['/']
      else (uri.path ++ uri.queryText).dropWhile (· ≠ '/') := by
  have hauthority : '/' ∉ uri.host.text ++ uri.portText := by
    intro hslash
    rcases List.mem_append.mp hslash with hslash | hslash
    · exact uri.host.notMem_text (by decide) (by decide) hslash
    · exact uri.notMem_portText (by decide) (by decide) hslash
  have hdrop : uri.text.drop 7 =
      uri.host.text ++ uri.portText ++ (uri.path ++ uri.queryText) := by
    rw [HttpUri.text, h]
    rfl
  have hstart : uri.text.startsWith "http://".toList = true := by
    rw [HttpUri.text, h]
    rfl
  rw [path, if_pos hstart, hdrop, List.dropWhile_append_of_pos (ne_of_notMem hauthority)]
  cases (uri.path ++ uri.queryText).dropWhile (· ≠ '/') <;> rfl

theorem path_of_not_scheme (h : uri.scheme ≠ "http".toList) : path uri.text = uri.text := by
  refine if_neg fun hstart => h ?_
  obtain ⟨rest, hrest⟩ := List.isPrefixOf_iff_prefix.mp hstart
  have htake := congrArg (List.take 4) hrest
  rw [HttpUri.text, List.append_assoc, List.take_append_of_le_length uri.length_scheme.ge,
    ← uri.length_scheme, List.take_length] at htake
  rw [← htake, uri.length_scheme]
  rfl

theorem path_text (h : uri.Plain) : path uri.text = uri.requestTarget := by
  obtain ⟨hscheme, hquery⟩ := h
  rw [path_of_scheme hscheme, HttpUri.requestTarget]
  rcases uri.absolute with hpath | hpath
  · rw [if_pos hpath, hpath, HttpUri.queryText, hquery hpath]
    rfl
  · obtain ⟨rest, hrest⟩ := List.head?_eq_some_iff.mp hpath
    rw [hrest, if_neg (by simp), if_neg (by simp)]
    rfl

/-- Otherwise what is sent is too long or too short. -/
theorem length_path_text (h : ¬ uri.Plain) :
    (path uri.text).length ≠ uri.requestTarget.length := by
  by_cases hscheme : uri.scheme = "http".toList
  · obtain ⟨hpath, hquery⟩ : uri.path = [] ∧ uri.query ≠ none := by
      simpa [HttpUri.Plain, hscheme] using h
    obtain ⟨q, hq⟩ := Option.ne_none_iff_exists'.mp hquery
    have hsuffix := (List.dropWhile_suffix (fun c => decide (c ≠ '/')) (l := q)).length_le
    have hskip : ('?' :: q).dropWhile (· ≠ '/') = q.dropWhile (· ≠ '/') := rfl
    rw [path_of_scheme hscheme, HttpUri.requestTarget, if_pos hpath, hpath, HttpUri.queryText, hq,
      Option.elim_some, List.nil_append, hskip]
    split_ifs
    · simp
    · simp only [List.length_append, List.length_cons, List.length_nil]
      omega
  · rw [path_of_not_scheme hscheme, HttpUri.requestTarget, HttpUri.text]
    have hlength := uri.length_scheme
    split_ifs with hpath
    · simp
      omega
    · simp
      omega

end Path

/-! ### The endpoint of a header -/

/-- The host in a `Host` header, up to the first colon. -/
def hostName (host : Text) : Text := host.takeWhile (· ≠ ':')

/-- The port behind that colon. -/
def hostPort (p : HttpProxy) (host : Text) : Option ℤ :=
  if ':' ∈ host then p.parseInt ((host.dropWhile (· ≠ ':')).tail.takeWhile (· ≠ ':')) else some 80

def forwardedHead (method target host : Text) : Text :=
  method ++ [' '] ++ path target ++ " HTTP/1.1".toList ++ crlf ++ "Host: ".toList ++ host ++ crlf ++
    "Connection: close".toList ++ crlf ++ crlf

theorem forwardedHead_eq (method target host : Text) :
    ∃ rest, forwardedHead method target host = method ++ ' ' :: (path target ++ ' ' :: rest) := by
  refine ⟨"HTTP/1.1".toList ++ crlf ++ "Host: ".toList ++ host ++ crlf ++
    "Connection: close".toList ++ crlf ++ crlf, ?_⟩
  have hversion : " HTTP/1.1".toList = ' ' :: "HTTP/1.1".toList := rfl
  simp only [forwardedHead, hversion, List.append_assoc, List.cons_append, List.nil_append]

theorem mem_path {target : Text} {c : Char} (h : c ∈ path target) : c ∈ target ∨ c = '/' := by
  unfold path at h
  split_ifs at h
  · split at h
    · exact Or.inr (List.mem_singleton.mp h)
    · have hsuffix := (List.dropWhile_suffix _).subset h
      exact Or.inl (List.mem_of_mem_drop hsuffix)
  · exact Or.inl h

variable {p : HttpProxy}

theorem handleForward_some (method target host : Text) :
    p.handleForward method target (some host) = (do
      let connectPort ← p.hostPort host
      let address ← p.getByName (hostName host)
      p.connectUpstream address connectPort
      return .relay address connectPort [] (asciiBytes (forwardedHead method target host))) := by
  unfold handleForward hostPort hostName
  by_cases hcolon : ':' ∈ host
  · obtain ⟨first, rest, rfl, hfirst⟩ := List.eq_append_cons_of_mem hcolon
    have hsecond : (split ':' (first ++ ':' :: rest))[1]?.bind p.parseInt = _ :=
      split_second p.parseInt_nil hfirst
    simp only [if_pos hcolon, takeWhile_append_cons hfirst, dropWhile_append_cons hfirst,
      List.tail_cons, hsecond]
    by_cases hempty : rest.takeWhile (· ≠ ':') = []
    · rw [hempty, parseInt_nil]
      cases (split ':' (first ++ ':' :: rest))[0]? <;> rfl
    · rw [split_first hfirst hempty]
      cases p.parseInt (rest.takeWhile (· ≠ ':')) <;> rfl
  · have hname : host.takeWhile (· ≠ ':') = host :=
      List.takeWhile_eq_self_iff.mpr (ne_of_notMem hcolon)
    simp only [if_neg hcolon, hname]
    rfl

theorem of_forward_eq_relay {host head : Text} {a : InetAddress} {port : ℤ}
    {toClient toUpstream : Bytes}
    (h : (do
      let connectPort ← p.hostPort host
      let address ← p.getByName (hostName host)
      p.connectUpstream address connectPort
      return .relay address connectPort [] (asciiBytes head) : Option Response).getD .close =
        .relay a port toClient toUpstream) :
    p.getByName (hostName host) = some a ∧ p.hostPort host = some port ∧
      toUpstream = asciiBytes head := by
  have h := eq_some_of_getD_close h
  obtain ⟨connectPort, hport, h⟩ := Option.bind_eq_some_iff.mp h
  obtain ⟨address, hname, h⟩ := Option.bind_eq_some_iff.mp h
  obtain ⟨_, -, h⟩ := Option.bind_eq_some_iff.mp h
  obtain ⟨rfl, rfl, -, rfl⟩ := Response.relay.inj (Option.some.inj h)
  exact ⟨hname, hport, rfl⟩

/-! ### Requests for a URI -/

/-- The target in a request line, between the first two blanks. -/
def sentTarget (bytes : Bytes) : Bytes :=
  ((bytes.dropWhile (· ≠ 0x20)).drop 1).takeWhile (· ≠ 0x20)

theorem blank_notMem_asciiBytes {text : Text} (h : ' ' ∉ text) : 0x20 ∉ asciiBytes text := by
  intro hblank
  rcases of_mem_asciiBytes hblank with ⟨c, hc, -, hcode⟩ | hmark
  · have hspace : c = ' ' := by
      rw [← Char.ofNat_toNat c, ← hcode]
      rfl
    exact h (hspace ▸ hc)
  · exact absurd hmark (by decide)

theorem sentTarget_asciiBytes {method target : Text} (hmethod : ' ' ∉ method)
    (htarget : ' ' ∉ target) (rest : Text) :
    sentTarget (asciiBytes (method ++ ' ' :: (target ++ ' ' :: rest))) = asciiBytes target := by
  have hsplit : asciiBytes (method ++ ' ' :: (target ++ ' ' :: rest)) =
      asciiBytes method ++ 0x20 :: (asciiBytes target ++ 0x20 :: asciiBytes rest) := by
    simp [asciiBytes]
  rw [sentTarget, hsplit, dropWhile_append_cons (blank_notMem_asciiBytes hmethod)]
  exact takeWhile_append_cons (blank_notMem_asciiBytes htarget)

/-- The request is sent to the host and the port of the URI, with its path and query as the
target. -/
def ForwardsTo (p : HttpProxy) (uri : HttpUri) (method : Text) (host : Option Text) : Prop :=
  ∃ a toUpstream, p.getByName uri.host.text = some a ∧
    p.respond method uri.text host = .relay a uri.portNumber [] toUpstream ∧
    sentTarget toUpstream = asciiBytes uri.requestTarget

/-- The header names an endpoint. -/
def Names (p : HttpProxy) (host : Text) (a : InetAddress) (port : ℤ) : Prop :=
  p.getByName (hostName host) = some a ∧ p.hostPort host = some port

theorem respond_text {method : Text} (hmethod : method ≠ "CONNECT".toList) (uri : HttpUri)
    (host : Option Text) :
    p.respond method uri.text host = (p.handleForward method uri.text host).getD .close := by
  rw [respond, if_neg hmethod, if_neg]
  rintro (h | h)
  · exact uri.head_text_ne rfl h
  · exact uri.head_text_ne rfl h

theorem sentTarget_forwardedHead {method : Text} (hblank : ' ' ∉ method) (uri : HttpUri)
    (host : Text) :
    sentTarget (asciiBytes (forwardedHead method uri.text host)) =
      asciiBytes (path uri.text) := by
  have hpath : ' ' ∉ path uri.text := by
    intro h
    rcases mem_path h with h | h
    · exact uri.blank_notMem_text h
    · cases h
  obtain ⟨rest, hrest⟩ := forwardedHead_eq method uri.text host
  rw [hrest]
  exact sentTarget_asciiBytes hblank hpath rest

theorem forwardsTo_iff {uri : HttpUri} {a : InetAddress}
    (hresolve : p.getByName uri.host.text = some a)
    (hreach : p.connectUpstream a uri.portNumber = some ()) {method : Text}
    (hblank : ' ' ∉ method) (hmethod : method ≠ "CONNECT".toList) (host : Option Text) :
    p.ForwardsTo uri method host ↔
      (∃ h, host = some h ∧ p.Names h a uri.portNumber) ∧ uri.Plain := by
  unfold ForwardsTo
  rw [respond_text hmethod]
  cases host with
  | none => simp [handleForward, sendError]
  | some host =>
    rw [handleForward_some]
    constructor
    · rintro ⟨a', toUpstream, hresolve', hrelay, hsent⟩
      obtain rfl : a = a' := Option.some.inj (hresolve.symm.trans hresolve')
      obtain ⟨hname, hport, rfl⟩ := of_forward_eq_relay hrelay
      refine ⟨⟨host, rfl, hname, hport⟩, ?_⟩
      by_contra hplain
      apply length_path_text hplain
      rw [sentTarget_forwardedHead hblank] at hsent
      simpa [asciiBytes] using congrArg List.length hsent
    · rintro ⟨⟨h, heq, hname, hport⟩, hplain⟩
      obtain rfl : host = h := Option.some.inj heq
      refine ⟨a, asciiBytes (forwardedHead method uri.text host), hresolve, ?_, ?_⟩
      · rw [hname, hport]
        change ((p.connectUpstream a uri.portNumber).bind _).getD _ = _
        rw [hreach]
        rfl
      · rw [sentTarget_forwardedHead hblank, path_text hplain]

/-! ### `CONNECT` requests -/

/-- The proxy connects to the host and the port of a `CONNECT` request. -/
def ConnectsTo (p : HttpProxy) (name : Uri.Host) (port : Uri.Port) (host : Option Text) : Prop :=
  ∃ a toClient toUpstream, p.getByName name.text = some a ∧
    p.respond "CONNECT".toList (Uri.authority name port) host =
      .relay a port.number toClient toUpstream

theorem handleConnect_name {text : Text} (htext : ':' ∉ text) (port : Uri.Port)
    {a : InetAddress} (hresolve : p.getByName text = some a)
    (hreach : p.connectUpstream a port.number = some ()) :
    p.handleConnect (text ++ ':' :: port.digits) = some (.relay a port.number
      (asciiBytes ("HTTP/1.1 200 Connection Established".toList ++ crlf ++ crlf)) []) := by
  have hdigits : ':' ∉ port.digits := port.notMem_digits (by decide)
  rw [handleConnect, split_pair htext hdigits port.nonempty]
  change (p.parseInt port.digits).bind _ = _
  rw [parseInt_port]
  change (p.getByName text).bind _ = _
  rw [hresolve]
  change (p.connectUpstream a port.number).bind _ = _
  rw [hreach]
  rfl

/-- What is left of an IPv6 literal before its first colon is not a host. -/
theorem handleConnect_ipv6 (hp : p.Runtime) {literal : Text} (hcolon : ':' ∈ literal)
    (hclean : ∀ c ∈ literal, c ∈ Uri.ipv6Chars) (rest : Text) :
    p.handleConnect ('[' :: (literal ++ rest)) = none := by
  obtain ⟨first, second, rfl, hfirst⟩ := List.eq_append_cons_of_mem hcolon
  have hcut : '[' :: (first ++ ':' :: second ++ rest) =
      ('[' :: first) ++ ':' :: (second ++ rest) := by simp
  have hfirst' : ':' ∉ '[' :: first := by simpa using hfirst
  have hlast : first.getLast? ≠ some ']' := by
    intro hlast
    have hmem := hclean ']' (List.mem_append_left _ (List.mem_of_getLast? hlast))
    revert hmem
    decide
  rw [hcut, handleConnect]
  apply Option.bind_eq_none_iff.mpr
  intro part hpart
  obtain rfl := eq_first_of_split hfirst' hpart
  split_ifs
  all_goals
    apply Option.bind_eq_none_iff.mpr
    intro port _
    change (p.getByName ('[' :: first)).bind _ = none
    rw [hp.getByName_unclosed first hlast]
    rfl

theorem connectsTo_iff (hp : p.Runtime) {name : Uri.Host} {port : Uri.Port} {a : InetAddress}
    (hresolve : p.getByName name.text = some a)
    (hreach : p.connectUpstream a port.number = some ()) (host : Option Text) :
    p.ConnectsTo name port host ↔ ¬ name.IsIPv6 := by
  have hrespond : p.respond "CONNECT".toList (Uri.authority name port) host =
      (p.handleConnect (Uri.authority name port)).getD .close := if_pos rfl
  unfold ConnectsTo
  rw [hrespond, Uri.authority]
  cases name with
  | name text clean =>
    have htext : ':' ∉ text := fun hcolon => clean ':' hcolon (by decide)
    have hconnect := handleConnect_name htext port hresolve hreach
    apply iff_of_true _ id
    rw [Uri.Host.text, hconnect]
    exact ⟨a, _, [], hresolve, rfl⟩
  | ipv6 literal colon clean =>
    have hconnect := handleConnect_ipv6 hp colon clean (']' :: ':' :: port.digits)
    have htext : (Uri.Host.ipv6 literal colon clean).text ++ ':' :: port.digits =
        '[' :: (literal ++ ']' :: ':' :: port.digits) := by
      simp [Uri.Host.text]
    rw [htext, hconnect]
    refine iff_of_false ?_ (not_not.mpr trivial)
    rintro ⟨_, _, _, -, hclose⟩
    cases hclose

/-- A request goes where its URI says exactly if the `Host` header is there and names the
endpoint of the URI, the scheme is in lower case and there is no query without a path. A
`CONNECT` request does exactly if its host is not an IPv6 literal. -/
theorem forwardsTo_iff_and_connectsTo_iff (hp : p.Runtime) :
    (∀ (uri : HttpUri) (a : InetAddress) (method : Text) (host : Option Text),
      p.getByName uri.host.text = some a → p.connectUpstream a uri.portNumber = some () →
      ' ' ∉ method → method ≠ "CONNECT".toList →
      (p.ForwardsTo uri method host ↔
        (∃ h, host = some h ∧ p.Names h a uri.portNumber) ∧ uri.Plain)) ∧
    (∀ (name : Uri.Host) (port : Uri.Port) (a : InetAddress) (host : Option Text),
      p.getByName name.text = some a → p.connectUpstream a port.number = some () →
      (p.ConnectsTo name port host ↔ ¬ name.IsIPv6)) :=
  ⟨fun _ _ _ host hresolve hreach hblank hmethod =>
    forwardsTo_iff hresolve hreach hblank hmethod host,
    fun _ _ _ host hresolve hreach => connectsTo_iff hp hresolve hreach host⟩

/-- A proxy that knows three hosts. -/
def knowing : HttpProxy :=
  { reachingAll with
    getByName := fun text =>
      if text = ['a'] then some (.inet4 0x0a000001)
      else if text = ['b'] then some (.inet4 0x0a000002)
      else if text = "[::1]".toList then some (.inet6 1 (by decide))
      else none }

theorem runtime_knowing : knowing.Runtime where
  getByName_unclosed text h := by
    have hliteral : '[' :: text ≠ "[::1]".toList := by
      intro heq
      obtain ⟨-, rfl⟩ := List.cons.inj heq
      exact h rfl
    rw [knowing]
    dsimp only
    rw [if_neg (by simp), if_neg (by simp), if_neg hliteral]

def uriOfA : HttpUri where
  scheme := "http".toList
  isHttp := by decide
  host := .name ['a'] (List.forall_mem_singleton.mpr (by decide))
  port := none
  path := ['/']
  absolute := by decide
  pathClean := List.forall_mem_singleton.mpr (by decide)
  query := none
  queryClean := by decide

def port443 : Uri.Port := ⟨"443".toList, by decide, List.all_eq_true.mp rfl, by decide⟩

theorem forwardsTo_agreeing :
    knowing.ForwardsTo uriOfA "GET".toList (some "a:80".toList) ∧
      knowing.ConnectsTo uriOfA.host port443 none := by
  obtain ⟨hforward, hconnect⟩ := forwardsTo_iff_and_connectsTo_iff runtime_knowing
  constructor
  · refine (hforward uriOfA (.inet4 0x0a000001) _ _ rfl rfl (by decide) (by decide)).mpr ?_
    exact ⟨⟨_, rfl, rfl, rfl⟩, rfl, fun _ => rfl⟩
  · exact (hconnect _ port443 (.inet4 0x0a000001) none rfl rfl).mpr id

def loopback : Uri.Host := .ipv6 "::1".toList (by decide) (List.all_iff_forall_prop.mp (by decide))

/-- A header with another host is believed, and an IPv6 literal is cut. -/
theorem not_forwardsTo_disagreeing :
    ¬ knowing.ForwardsTo uriOfA "GET".toList (some ['b']) ∧
      knowing.getByName loopback.text = some (.inet6 1 (by decide)) ∧
      ¬ knowing.ConnectsTo loopback port443 none := by
  have hforward : ∃ toUpstream, knowing.respond "GET".toList uriOfA.text (some ['b']) =
      .relay (.inet4 0x0a000002) 80 [] toUpstream := ⟨_, rfl⟩
  have hconnect : knowing.respond "CONNECT".toList (Uri.authority loopback port443) none =
      .close := rfl
  refine ⟨?_, rfl, ?_⟩
  · rintro ⟨a, toUpstream, hresolve, hrelay, -⟩
    obtain ⟨_, hforward⟩ := hforward
    obtain ⟨rfl, -⟩ := Response.relay.inj (hforward.symm.trans hrelay)
    revert hresolve
    decide
  · rintro ⟨a, toClient, toUpstream, -, hrelay⟩
    cases hconnect.symm.trans hrelay

end HttpProxy

end XnetZt
