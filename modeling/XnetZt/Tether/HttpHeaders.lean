import XnetZt.Net.HttpMessage
import XnetZt.Tether.HttpForwarding

/-!
# What the HTTP proxy forwards of a request

`handleForward` writes a head of its own with the `Host` field of the client and a
`Connection` field. The method is taken to upper case. So the request is preserved if its
method is in upper case and no other field is end-to-end.
-/

namespace XnetZt.HttpProxy

open Text Http

/-- What the proxy relies on in the default charset and locale, in which ASCII stays what
it is. -/
structure TextRuntime (p : HttpProxy) : Prop where
  decode_ascii : ∀ ascii rest : Bytes, (∀ b ∈ ascii, b.toNat < 128) →
    p.charset.decode (ascii ++ rest) = toText ascii ++ p.charset.decode rest
  toLowerCase_host : ∀ (name : Bytes) (rest : Text), (∀ b ∈ name, IsVisible b ∧ b ≠ 0x3a) →
    ((p.toLowerCase (toText name ++ ':' :: rest)).startsWith "host:".toList = true ↔
      name.map lower = Http.host)
  toUpperCase_eq : ∀ method : Bytes, (∀ b ∈ method, IsVisible b) →
    (∀ b ∈ method, ¬ (97 ≤ b.toNat ∧ b.toNat ≤ 122)) →
    p.toUpperCase (toText method) = toText method
  toUpperCase_upper : ∀ method : Bytes, (∀ b ∈ method, IsVisible b) →
    ∀ c ∈ p.toUpperCase (toText method), 33 ≤ c.toNat ∧ ¬ (97 ≤ c.toNat ∧ c.toNat ≤ 122)

/-! ### ASCII -/

theorem asciiBytes_toText {bytes : Bytes} (h : ∀ b ∈ bytes, b.toNat < 128) :
    asciiBytes (toText bytes) = bytes := by
  induction bytes with
  | nil => rfl
  | cons b bytes ih =>
    have hrest := ih fun b hb => h b (List.mem_cons_of_mem _ hb)
    have hbyte : (if (Char.ofNat b.toNat).toNat < 128 then
        BitVec.ofNat 8 (Char.ofNat b.toNat).toNat else 0x3f) = b := by
      rw [toNat_ofNat_byte, if_pos (h b List.mem_cons_self), BitVec.ofNat_toNat,
        BitVec.setWidth_eq]
    exact congrArg₂ List.cons hbyte hrest

section Read

variable {p : HttpProxy} (hp : p.TextRuntime)

include hp

theorem decode_eq {bytes : Bytes} (h : ∀ b ∈ bytes, b.toNat < 128) :
    p.charset.decode bytes = toText bytes := by
  have hdecode := hp.decode_ascii bytes [] h
  rwa [List.append_nil, (p.charset.decode_eq_nil []).mpr rfl, List.append_nil] at hdecode

theorem hostHeader_content (f : Field) (host : Option Text) :
    p.hostHeader host (p.charset.decode f.content) =
      if f.Is Http.host then some (trim (p.charset.decode (f.before ++ f.value ++ f.after)))
      else host := by
  have hascii : ∀ b ∈ f.name ++ [0x3a], b.toNat < 128 := by
    intro b hb
    rcases List.mem_append.mp hb with hb | hb
    · exact (f.token b hb).1.toNat_lt
    · rw [List.mem_singleton.mp hb]
      decide
  have hcontent : f.content = (f.name ++ [0x3a]) ++ (f.before ++ f.value ++ f.after) := by
    simp [Field.content]
  have hline : p.charset.decode f.content =
      toText f.name ++ ':' :: p.charset.decode (f.before ++ f.value ++ f.after) := by
    rw [hcontent, hp.decode_ascii _ _ hascii]
    simp [toText]
  rw [hostHeader, hline]
  by_cases his : f.Is Http.host
  · have hlength : (toText f.name).length = 4 := by
      have hlength := congrArg List.length his
      rw [List.length_map] at hlength
      rw [toText, List.length_map, hlength]
      rfl
    have hdrop : ∀ rest, (toText f.name ++ ':' :: rest).drop 5 = rest := by
      intro rest
      rw [List.append_cons]
      exact List.drop_left' (by simp [hlength])
    rw [if_pos ((hp.toLowerCase_host _ _ f.token).mpr his), if_pos his, hdrop]
  · rw [if_neg (mt (hp.toLowerCase_host _ _ f.token).mp his), if_neg his]

theorem trim_value (f : Field) (hvalue : ∀ b ∈ f.value, IsVisible b) :
    trim (p.charset.decode (f.before ++ f.value ++ f.after)) = toText f.value := by
  have hblank : ∀ {bytes : Bytes}, (∀ b ∈ bytes, IsBlank b) → ∀ c ∈ toText bytes, c ≤ ' ' := by
    intro bytes hbytes c hc
    obtain ⟨b, hb, rfl⟩ := List.mem_map.mp hc
    rcases hbytes b hb with rfl | rfl
    · decide
    · decide
  have hbefore : ∀ b ∈ f.before, IsBlank b := fun b hb => f.blanks b (List.mem_append_left _ hb)
  have hafter : ∀ b ∈ f.after, IsBlank b := fun b hb => f.blanks b (List.mem_append_right _ hb)
  have hascii : ∀ b ∈ f.before ++ f.value ++ f.after, b.toNat < 128 := by
    intro b hb
    rcases List.mem_append.mp hb with hb | hb
    · rcases List.mem_append.mp hb with hb | hb
      · exact (hbefore b hb).toNat_lt
      · exact (hvalue b hb).toNat_lt
    · exact (hafter b hb).toNat_lt
  have hparts : toText (f.before ++ f.value ++ f.after) =
      toText f.before ++ toText f.value ++ toText f.after := by
    simp [toText]
  rw [decode_eq hp hascii, hparts]
  apply trim_append (hblank hbefore) _ (hblank hafter)
  intro c hc
  obtain ⟨b, hb, rfl⟩ := List.mem_map.mp hc
  intro hle
  have hcode : (Char.ofNat b.toNat).toNat ≤ 32 := hle
  rw [toNat_ofNat_byte] at hcode
  have hvisible := (hvalue b hb).1
  omega

/-- The last `Host` field counts. -/
theorem foldl_hostHeader {fields : List Field} {h : Field}
    (hhost : fields.filter (·.Is Http.host) = [h]) (hvalue : ∀ b ∈ h.value, IsVisible b) :
    (fields.map Field.content).foldl
      (fun host line => p.hostHeader host (p.charset.decode line)) none =
        some (toText h.value) := by
  have hstep : (fun host (f : Field) => p.hostHeader host (p.charset.decode f.content)) =
      fun host f => if (decide (f.Is Http.host)) = true then
        some (trim (p.charset.decode (f.before ++ f.value ++ f.after))) else host := by
    funext host f
    rw [hostHeader_content hp]
    simp
  rw [List.foldl_map, hstep, ← List.foldl_filter, hhost]
  exact congrArg some (trim_value hp h hvalue)

/-- The head of a request reads as its lines. -/
def Sends (head : Head) (r : Request) : Prop :=
  head.requestLine.content :: head.headers.map Line.content = r.lines

theorem answer_eq {head : Head} {r : Request} (hsends : Sends head r) {h : Field}
    (hhost : r.fields.filter (·.Is Http.host) = [h]) (hvalue : ∀ b ∈ h.value, IsVisible b) :
    p.answer head = p.respond (p.toUpperCase (toText r.method)) (toText r.target)
      (some (toText h.value)) := by
  obtain ⟨hline, hheaders⟩ := List.cons.inj hsends
  have hblank : ∀ {bytes : Bytes}, (∀ b ∈ bytes, IsVisible b) → ' ' ∉ toText bytes := by
    intro bytes hbytes
    apply notMem_toText
    intro b hb hcode
    have hvisible := (hbytes b hb).1
    have hspace : ' '.toNat = 32 := rfl
    omega
  have htext : p.charset.decode r.line =
      toText r.method ++ ' ' :: (toText r.target ++ ' ' :: toText r.version) := by
    rw [decode_eq hp r.line_ascii]
    simp [toText, Request.line]
  have hfields : head.headers.foldl (fun host l => p.hostHeader host (p.charset.decode l.content))
      none = some (toText h.value) := by
    rw [← foldl_hostHeader hp hhost hvalue, ← hheaders, List.foldl_map]
  rw [answer, hline, htext, splitLimit_append (hblank r.methodVisible),
    splitLimit_append (hblank r.targetVisible), splitLimit, hfields]

end Read

/-! ### The head that is forwarded -/

section Forward

variable {p : HttpProxy} {method target host : Text} {a : InetAddress} {port : ℤ}
  {toClient toUpstream : Bytes}

theorem toUpstream_of_connected {connectHost : Text} {connectPort : ℤ}
    {toClient' toUpstream' : Bytes}
    (h : (do
      let address ← p.getByName connectHost
      p.connectUpstream address connectPort
      return .relay address connectPort toClient' toUpstream' : Option Response) =
        some (.relay a port toClient toUpstream)) : toUpstream = toUpstream' := by
  obtain ⟨_, -, h⟩ := Option.bind_eq_some_iff.mp h
  obtain ⟨_, -, h⟩ := Option.bind_eq_some_iff.mp h
  exact (Response.relay.inj (Option.some.inj h)).2.2.2.symm

theorem toUpstream_of_handleForward
    (h : p.handleForward method target (some host) = some (.relay a port toClient toUpstream)) :
    toUpstream = asciiBytes (forwardedHead method target host) := by
  unfold handleForward at h
  dsimp only at h
  split_ifs at h
  · obtain ⟨connectHost, -, h⟩ := Option.bind_eq_some_iff.mp h
    obtain ⟨connectPort, -, h⟩ := Option.bind_eq_some_iff.mp h
    obtain ⟨endpoint, -, h⟩ := Option.bind_eq_some_iff.mp h
    exact toUpstream_of_connected h
  · obtain ⟨endpoint, -, h⟩ := Option.bind_eq_some_iff.mp h
    exact toUpstream_of_connected h

theorem toUpstream_of_handleConnect
    (h : p.handleConnect target = some (.relay a port toClient toUpstream)) :
    toUpstream = [] := by
  unfold handleConnect at h
  obtain ⟨name, -, h⟩ := Option.bind_eq_some_iff.mp h
  split_ifs at h
  · obtain ⟨number, -, h⟩ := Option.bind_eq_some_iff.mp h
    exact toUpstream_of_connected h
  · obtain ⟨number, -, h⟩ := Option.bind_eq_some_iff.mp h
    exact toUpstream_of_connected h

theorem toUpstream_of_respond
    (h : p.respond method target (some host) = .relay a port toClient toUpstream) :
    method = "CONNECT".toList ∧ toUpstream = [] ∨
      toUpstream = asciiBytes (forwardedHead method target host) := by
  unfold respond at h
  split_ifs at h with hmethod htarget
  · refine Or.inl ⟨hmethod, ?_⟩
    exact toUpstream_of_handleConnect (eq_some_of_getD_close h)
  · cases h
  · exact Or.inr (toUpstream_of_handleForward (eq_some_of_getD_close h))

end Forward

/-- The two fields of the proxy. -/
def hostField (value : Bytes) (h : ∀ b ∈ value, IsVisible b) : Field where
  name := [0x48, 0x6f, 0x73, 0x74]
  token := List.all_iff_forall_prop.mp (by decide)
  before := [0x20]
  value := value
  after := []
  blanks := List.all_iff_forall_prop.mp (by decide)
  clean b hb := (h b hb).not_isLineEnd
  trimmed b hb := by
    have hmem : b ∈ value := hb.elim List.mem_of_head? List.mem_of_getLast?
    exact (h b hmem).not_isBlank

def connectionField : Field where
  name := [0x43, 0x6f, 0x6e, 0x6e, 0x65, 0x63, 0x74, 0x69, 0x6f, 0x6e]
  token := List.all_iff_forall_prop.mp (by decide)
  before := [0x20]
  value := [0x63, 0x6c, 0x6f, 0x73, 0x65]
  after := []
  blanks := List.all_iff_forall_prop.mp (by decide)
  clean := List.all_iff_forall_prop.mp (by decide)
  trimmed := by decide +kernel

/-- The lines that are forwarded. -/
theorem asciiBytes_forwardedHead (method target : Text) {value : Bytes}
    (h : ∀ b ∈ value, IsVisible b) :
    asciiBytes (forwardedHead method target (toText value)) = encode
      [asciiBytes method ++ 0x20 :: (asciiBytes (path target) ++ 0x20 ::
        asciiBytes "HTTP/1.1".toList), (hostField value h).content, connectionField.content] := by
  have hvalue : asciiBytes (toText value) = value := asciiBytes_toText fun b hb => (h b hb).toNat_lt
  have hcrlf : asciiBytes crlf = Http.crlf := rfl
  have hblank : asciiBytes [' '] = [0x20] := rfl
  have hversion : asciiBytes " HTTP/1.1".toList = 0x20 :: asciiBytes "HTTP/1.1".toList := rfl
  have hhost : asciiBytes "Host: ".toList = [0x48, 0x6f, 0x73, 0x74] ++ 0x3a :: [0x20] := rfl
  have hconnection : asciiBytes "Connection: close".toList = connectionField.content := rfl
  have hfield : (hostField value h).content = [0x48, 0x6f, 0x73, 0x74] ++ 0x3a :: [0x20] ++ value :=
    congrArg ([0x48, 0x6f, 0x73, 0x74, 0x3a, 0x20] ++ ·) (List.append_nil value)
  rw [forwardedHead]
  simp only [asciiBytes_append, hvalue, hcrlf, hblank, hversion, hhost, hconnection, hfield]
  simp only [encode, List.flatMap_cons, List.flatMap_nil, List.append_assoc, List.cons_append,
    List.nil_append, List.append_nil]

theorem le_of_mem_asciiBytes {text : Text} (htext : ∀ c ∈ text, 33 ≤ c.toNat) {b : Byte}
    (h : b ∈ asciiBytes text) : 33 ≤ b.toNat := by
  rcases of_mem_asciiBytes h with ⟨c, hc, -, hcode⟩ | rfl
  · rw [hcode]
    exact htext c hc
  · decide

theorem isVisible_version : ∀ b ∈ asciiBytes "HTTP/1.1".toList, IsVisible b :=
  List.all_iff_forall_prop.mp (by decide)

/-- The path of a target is visible. -/
theorem isVisible_path {target : Bytes} (h : ∀ b ∈ target, IsVisible b) :
    ∀ b ∈ asciiBytes (path (toText target)), IsVisible b := by
  intro b hb
  rcases of_mem_asciiBytes hb with ⟨c, hc, -, hcode⟩ | rfl
  · rcases mem_path hc with hc | rfl
    · obtain ⟨b', hb', rfl⟩ := List.mem_map.mp hc
      rw [toNat_ofNat_byte] at hcode
      rw [BitVec.eq_of_toNat_eq hcode]
      exact h b' hb'
    · have hslash : b = 0x2f := BitVec.eq_of_toNat_eq hcode
      rw [hslash]
      decide
  · decide

theorem exists_mem_of_sublistForall₂ {α β : Type*} {R : α → β → Prop} {l : List α} {l' : List β}
    (h : List.SublistForall₂ R l l') {a : α} (ha : a ∈ l) : ∃ b ∈ l', R a b := by
  induction h with
  | nil => cases ha
  | cons hR _ ih =>
    rcases List.mem_cons.mp ha with rfl | ha
    · exact ⟨_, List.mem_cons_self, hR⟩
    · obtain ⟨b, hb, hR'⟩ := ih ha
      exact ⟨b, List.mem_cons_of_mem _ hb, hR'⟩
  | cons_right _ ih =>
    obtain ⟨b, hb, hR'⟩ := ih ha
    exact ⟨b, List.mem_cons_of_mem _ hb, hR'⟩

section Preserves

variable {r : Request} {method : Text} {value : Bytes} (hvalue : ∀ b ∈ value, IsVisible b)

/-- A head with these lines. -/
def forwardedLines (r : Request) (method : Text) (hvalue : ∀ b ∈ value, IsVisible b) :
    List Bytes :=
  [asciiBytes method ++ 0x20 :: (asciiBytes (path (toText r.target)) ++ 0x20 ::
    asciiBytes "HTTP/1.1".toList), (hostField value hvalue).content, connectionField.content]

theorem preserves_forwardedLines (hmethod : asciiBytes method = r.method) {h : Field}
    (hh : h.value = value) (hhost : r.fields.filter (·.Is Http.host) = [h])
    (hfields : ∀ f ∈ endToEnd r.fields, f.Is Http.host) :
    Preserves r (encode (forwardedLines r method hvalue)) := by
  refine ⟨⟨asciiBytes method, hmethod ▸ r.methodVisible, asciiBytes (path (toText r.target)),
    isVisible_path r.targetVisible, asciiBytes "HTTP/1.1".toList, isVisible_version,
    [hostField value hvalue, connectionField]⟩, rfl, hmethod, ?_⟩
  -- Of the one `Host` field, at most one is end-to-end.
  have hsub : (endToEnd r.fields).Sublist [h] := by
    have hself : (endToEnd r.fields).filter (·.Is Http.host) = endToEnd r.fields :=
      List.filter_eq_self.mpr fun f hf => decide_eq_true (hfields f hf)
    rw [← hself, ← hhost]
    exact List.filter_sublist.filter _
  rcases List.sublist_singleton.mp hsub with hnone | hone
  · rw [hnone]
    exact .nil
  · have hname : h.Is Http.host := hfields h (hone ▸ List.mem_singleton_self h)
    rw [hone]
    exact .cons ⟨hname, hh⟩ .nil

theorem isLine_of_mem_forwardedLines (hmethod : ∀ c ∈ method, 33 ≤ c.toNat) :
    ∀ line ∈ forwardedLines r method hvalue, IsLine line := by
  intro line hline
  simp only [forwardedLines, List.mem_cons, List.not_mem_nil, or_false] at hline
  rcases hline with rfl | rfl | rfl
  · refine ⟨by simp, ?_⟩
    intro b hb
    simp only [List.mem_append, List.mem_cons] at hb
    rcases hb with hb | rfl | hb | rfl | hb
    · exact not_isLineEnd_of_le (le_of_mem_asciiBytes hmethod hb)
    · decide
    · exact (isVisible_path r.targetVisible b hb).not_isLineEnd
    · decide
    · exact (isVisible_version b hb).not_isLineEnd
  · exact ⟨by simp [Field.content], Field.content_clean _⟩
  · exact ⟨by simp [Field.content], Field.content_clean _⟩

theorem of_preserves_forwardedLines (hmethod : ∀ c ∈ method, 33 ≤ c.toNat)
    (h : Preserves r (encode (forwardedLines r method hvalue))) :
    asciiBytes method = r.method ∧ ∀ f ∈ endToEnd r.fields, f.Is Http.host := by
  obtain ⟨sent, hlines, hsent, hsublist⟩ := h
  have hblank : 0x20 ∉ asciiBytes method := by
    intro hmem
    exact absurd (le_of_mem_asciiBytes hmethod hmem) (by decide)
  have hisLine := isLine_of_mem_forwardedLines (r := r) hvalue hmethod
  obtain ⟨hline, hcontents⟩ :=
    List.cons.inj (encode_inj hisLine sent.isLine_of_mem_lines hlines)
  refine ⟨(Request.method_eq hblank hline.symm).symm.trans hsent, ?_⟩
  intro f hf
  obtain ⟨g, hg, hname, -⟩ := exists_mem_of_sublistForall₂ hsublist hf
  have hcontent : g.content ∈ [(hostField value hvalue).content, connectionField.content] :=
    hcontents ▸ List.mem_map_of_mem hg
  rcases List.mem_pair.mp hcontent with hcontent | hcontent
  · rw [Field.Is, hname, Field.name_eq hcontent]
    rfl
  · have hconnection : f.Is connection := by
      rw [Field.Is, hname, Field.name_eq hcontent]
      rfl
    have hnot := (List.mem_filter.mp hf).2
    exact absurd (Or.inl (Or.inl hconnection)) (of_decide_eq_true hnot)

end Preserves

/-- The proxy preserves a request exactly if there is no lower-case letter in its method and
no end-to-end field but `Host`. -/
theorem preserves_iff {p : HttpProxy} (hp : p.TextRuntime) {head : Head} {r : Request}
    (hsends : Sends head r) (hconnect : r.method ≠ asciiBytes "CONNECT".toList) {h : Field}
    (hhost : r.fields.filter (·.Is Http.host) = [h]) (hvalue : ∀ b ∈ h.value, IsVisible b)
    {a : InetAddress} {port : ℤ} {toClient toUpstream : Bytes}
    (hanswer : p.answer head = .relay a port toClient toUpstream) :
    Preserves r toUpstream ↔
      (∀ b ∈ r.method, ¬ (97 ≤ b.toNat ∧ b.toNat ≤ 122)) ∧
        ∀ f ∈ endToEnd r.fields, f.Is Http.host := by
  have hascii : asciiBytes (toText r.method) = r.method :=
    asciiBytes_toText fun b hb => (r.methodVisible b hb).toNat_lt
  have hupper := hp.toUpperCase_upper r.method r.methodVisible
  have hsame := hp.toUpperCase_eq r.method r.methodVisible
  rw [answer_eq hp hsends hhost hvalue] at hanswer
  rcases toUpstream_of_respond hanswer with ⟨hmethod, rfl⟩ | rfl
  · refine iff_of_false ?_ ?_
    · rintro ⟨sent, hsent, -⟩
      simp [encode, Http.crlf] at hsent
    · rintro ⟨hplain, -⟩
      apply hconnect
      rw [← hascii, ← hsame hplain, hmethod]
  · rw [asciiBytes_forwardedHead _ _ hvalue]
    constructor
    · intro hpreserves
      obtain ⟨hmethod, hfields⟩ := of_preserves_forwardedLines hvalue
        (fun c hc => (hupper c hc).1) hpreserves
      refine ⟨?_, hfields⟩
      intro b hb
      rw [← hmethod] at hb
      rcases of_mem_asciiBytes hb with ⟨c, hc, -, hcode⟩ | rfl
      · rw [hcode]
        exact (hupper c hc).2
      · decide
    · rintro ⟨hplain, hfields⟩
      have hmethod : asciiBytes (p.toUpperCase (toText r.method)) = r.method := by
        rw [hsame hplain, hascii]
      exact preserves_forwardedLines hvalue hmethod rfl hhost hfields

/-! ### A proxy with the charset and the locale of ASCII -/

def ascii : HttpProxy :=
  { knowing with
    toUpperCase := fun text => text.map Char.toUpper
    toLowerCase := fun text => text.map Char.toLower }

theorem toLower_byte : ∀ b : Byte, (Char.ofNat b.toNat).toLower = Char.ofNat (lower b).toNat := by
  decide +kernel

theorem toUpper_byte : ∀ b : Byte, ¬ (97 ≤ b.toNat ∧ b.toNat ≤ 122) →
    (Char.ofNat b.toNat).toUpper = Char.ofNat b.toNat := by
  decide +kernel

theorem toUpper_visible : ∀ b : Byte, IsVisible b → 33 ≤ (Char.ofNat b.toNat).toUpper.toNat ∧
    ¬ (97 ≤ (Char.ofNat b.toNat).toUpper.toNat ∧ (Char.ofNat b.toNat).toUpper.toNat ≤ 122) := by
  decide +kernel

theorem lower_eq_colon : ∀ b : Byte, lower b = 0x3a → b = 0x3a := by
  decide +kernel

theorem textRuntime_ascii : ascii.TextRuntime where
  decode_ascii ascii rest _ := List.map_append
  toLowerCase_host name rest htoken := by
    have hname : (toText name).map Char.toLower = toText (name.map lower) := by
      simp [toText, toLower_byte]
    have hcolon : ':' ∉ toText (name.map lower) := by
      apply notMem_toText
      intro b hb hcode
      obtain ⟨b', hb', rfl⟩ := List.mem_map.mp hb
      exact (htoken b' hb').2 (lower_eq_colon b' (BitVec.eq_of_toNat_eq hcode))
    have htext : ascii.toLowerCase (toText name ++ ':' :: rest) =
        toText (name.map lower) ++ ':' :: rest.map Char.toLower := by
      rw [← hname]
      exact List.map_append
    have hhost : ':' ∉ toText Http.host := by decide
    rw [htext]
    exact (startsWith_append_cons hcolon hhost).trans toText_injective.eq_iff
  toUpperCase_eq method _ hplain := by
    change (toText method).map Char.toUpper = toText method
    rw [toText, List.map_map]
    exact List.map_congr_left fun b hb => toUpper_byte b (hplain b hb)
  toUpperCase_upper method hvisible := by
    intro c hc
    obtain ⟨c', hc', rfl⟩ := List.mem_map.mp hc
    obtain ⟨b, hb, rfl⟩ := List.mem_map.mp hc'
    exact toUpper_visible b (hvisible b hb)

/-- A field without blanks behind its value. -/
def field (name value : Bytes) (htoken : ∀ b ∈ name, IsVisible b ∧ b ≠ 0x3a)
    (hvalue : ∀ b ∈ value, IsVisible b) : Field :=
  { hostField value hvalue with name := name, token := htoken }

/-- `GET / HTTP/1.1` with some fields. -/
def getRequest (fields : List Field) : Request where
  method := asciiBytes "GET".toList
  methodVisible := List.all_iff_forall_prop.mp (by decide)
  target := asciiBytes "/".toList
  targetVisible := List.all_iff_forall_prop.mp (by decide)
  version := asciiBytes "HTTP/1.1".toList
  versionVisible := isVisible_version
  fields := fields

/-- The head of a request, in lines that end with CRLF. -/
def headOf (r : Request) : Head where
  requestLine := ⟨r.line, .crlf, r.line_clean⟩
  headers := r.fields.map fun f => ⟨f.content, .crlf, f.content_clean⟩
  nonempty := by
    intro l hl
    obtain ⟨f, -, rfl⟩ := List.mem_map.mp hl
    simp [Field.content]
  last := .crlf

theorem sends_headOf (r : Request) : Sends (headOf r) r := by
  simp [Sends, headOf, Request.lines]

def hostA : Field :=
  field (asciiBytes "Host".toList) (asciiBytes "a".toList)
    (List.all_iff_forall_prop.mp (by decide)) (List.all_iff_forall_prop.mp (by decide))

def contentLength : Field :=
  field (asciiBytes "Content-Length".toList) (asciiBytes "3".toList)
    (List.all_iff_forall_prop.mp (by decide)) (List.all_iff_forall_prop.mp (by decide))

theorem preserves_host :
    let r := getRequest [hostA]
    ∃ toUpstream, ascii.answer (headOf r) = .relay (.inet4 0x0a000001) 80 [] toUpstream ∧
      Preserves r toUpstream := by
  intro r
  refine ⟨_, rfl, ?_⟩
  have hhost : r.fields.filter (·.Is Http.host) = [hostA] := rfl
  have hvalue : ∀ b ∈ hostA.value, IsVisible b := List.all_iff_forall_prop.mp (by decide)
  exact (preserves_iff textRuntime_ascii (sends_headOf r) (by decide +kernel) hhost hvalue rfl).mpr
    ⟨by decide +kernel, by decide +kernel⟩

/-- The length of the body is lost. -/
theorem not_preserves_contentLength :
    let r := getRequest [hostA, contentLength]
    ∃ toUpstream, ascii.answer (headOf r) = .relay (.inet4 0x0a000001) 80 [] toUpstream ∧
      ¬ Preserves r toUpstream := by
  intro r
  have hvalue : ∀ b ∈ hostA.value, IsVisible b := List.all_iff_forall_prop.mp (by decide)
  have hforward : ascii.answer (headOf r) = .relay (.inet4 0x0a000001) 80 []
      (encode (forwardedLines r "GET".toList hvalue)) := rfl
  refine ⟨_, hforward, ?_⟩
  intro hpreserves
  have hfields := (of_preserves_forwardedLines hvalue
    (List.all_iff_forall_prop.mp (by decide)) hpreserves).2
  revert hfields
  decide +kernel

end XnetZt.HttpProxy
