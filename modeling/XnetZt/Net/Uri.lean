import XnetZt.Lib.Text

/-!
# HTTP URIs

URIs of the scheme `http` in absolute form, and the authority `host:port` of a `CONNECT`
request. A host is a name, an IPv4 literal or an IPv6 literal in brackets. Schemes may be
written in any case.
-/

namespace XnetZt

namespace Uri

/-- The characters that end a host, and blanks. -/
def delimiters : Text := " /?#[]@:".toList

def ipv6Chars : Text := "0123456789abcdefABCDEF:.".toList

inductive Host
  | name (text : Text) (clean : ∀ c ∈ text, c ∉ delimiters)
  | ipv6 (literal : Text) (colon : ':' ∈ literal) (clean : ∀ c ∈ literal, c ∈ ipv6Chars)

namespace Host

def text : Host → Text
  | name text _ => text
  | ipv6 literal _ _ => '[' :: (literal ++ [']'])

def IsIPv6 : Host → Prop
  | name _ _ => False
  | ipv6 _ _ _ => True

instance : DecidablePred IsIPv6
  | name _ _ => isFalse id
  | ipv6 _ _ _ => isTrue trivial

theorem notMem_text (host : Host) {c : Char} (hdelimiter : c ∈ delimiters)
    (hliteral : c ∉ '[' :: ']' :: ipv6Chars) : c ∉ host.text := by
  cases host with
  | name text clean => exact fun hc => clean c hc hdelimiter
  | ipv6 literal colon clean =>
    have hclean := clean c
    simp only [List.mem_cons, not_or] at hliteral
    simp only [text, List.mem_cons, List.mem_append, List.not_mem_nil, or_false]
    rintro (hc | hc | hc)
    · exact hliteral.1 hc
    · exact hliteral.2.2 (hclean hc)
    · exact hliteral.2.1 hc

end Host

structure Port where
  digits : Text
  nonempty : digits ≠ []
  isDigit : ∀ c ∈ digits, c.isDigit = true
  le : Nat.ofDigitChars 10 digits 0 ≤ 65535

namespace Port

def number (port : Port) : ℕ := Nat.ofDigitChars 10 port.digits 0

theorem notMem_digits (port : Port) {c : Char} (h : c.isDigit = false) : c ∉ port.digits := by
  intro hc
  rw [port.isDigit c hc] at h
  cases h

end Port

/-- The target of a `CONNECT` request. -/
def authority (host : Host) (port : Port) : Text := host.text ++ ':' :: port.digits

end Uri

/-- A path is empty or begins with a slash. -/
structure HttpUri where
  scheme : Text
  isHttp : scheme.map Char.toLower = "http".toList
  host : Uri.Host
  port : Option Uri.Port
  path : Text
  absolute : path = [] ∨ path.head? = some '/'
  pathClean : ∀ c ∈ path, c ∉ " ?#".toList
  query : Option Text
  queryClean : ∀ q ∈ query, ∀ c ∈ q, c ∉ " #".toList

namespace HttpUri

variable (uri : HttpUri)

def portText : Text := uri.port.elim [] fun port => ':' :: port.digits

def queryText : Text := uri.query.elim [] fun q => '?' :: q

def text : Text :=
  uri.scheme ++ "://".toList ++ (uri.host.text ++ uri.portText ++ (uri.path ++ uri.queryText))

def portNumber : ℕ := uri.port.elim 80 Uri.Port.number

/-- The target of the request line for the origin server. -/
def requestTarget : Text := (if uri.path = [] then ['/'] else uri.path) ++ uri.queryText

theorem length_scheme : uri.scheme.length = 4 := by
  rw [← List.length_map Char.toLower, uri.isHttp]
  rfl

/-- A URI is not a path. -/
theorem head_text_ne {target : Text} (h : target.head? = some '/') : uri.text ≠ target := by
  intro htext
  have hlength := uri.length_scheme
  have hhttp := uri.isHttp
  cases hscheme : uri.scheme with
  | nil => simp [hscheme] at hlength
  | cons c scheme =>
    rw [← htext, text, hscheme] at h
    obtain rfl : c = '/' := by simpa using h
    rw [hscheme] at hhttp
    simp at hhttp

theorem notMem_portText {c : Char} (hdigit : c.isDigit = false) (hcolon : c ≠ ':') :
    c ∉ uri.portText := by
  unfold portText
  cases uri.port with
  | none => simp
  | some port => simp [hcolon, port.notMem_digits hdigit]

theorem blank_notMem_queryText : ' ' ∉ uri.queryText := by
  have hclean := uri.queryClean
  unfold queryText
  cases h : uri.query with
  | none => simp
  | some q =>
    have hq : ' ' ∉ q := fun hblank => hclean q h ' ' hblank (by decide)
    simpa using hq

theorem blank_notMem_scheme : ' ' ∉ uri.scheme := by
  intro hblank
  have hmem : Char.toLower ' ' ∈ "http".toList := uri.isHttp ▸ List.mem_map_of_mem hblank
  revert hmem
  decide

theorem blank_notMem_text : ' ' ∉ uri.text := by
  have hhost : ' ' ∉ uri.host.text := uri.host.notMem_text (by decide) (by decide)
  have hport : ' ' ∉ uri.portText := uri.notMem_portText (by decide) (by decide)
  have hpath : ' ' ∉ uri.path := fun hblank => uri.pathClean ' ' hblank (by decide)
  simp only [text, List.mem_append, not_or]
  exact ⟨⟨uri.blank_notMem_scheme, by decide⟩, ⟨hhost, hport⟩, hpath, uri.blank_notMem_queryText⟩

end HttpUri

end XnetZt
