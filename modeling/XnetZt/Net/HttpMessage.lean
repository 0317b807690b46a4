import Mathlib.Data.List.Forall2
import XnetZt.Lib.BufferedReader

/-!
# Heads of HTTP requests

A request line and header fields. The lines of a head can be told from its bytes, as none
of them has a line end inside. Fields that only concern one connection are not meant for
the server behind a proxy: `Connection`, `Proxy-Connection` and those they name. All other
fields are end-to-end.
-/

namespace XnetZt.Http

/-- The text of ASCII bytes. -/
def toText (bytes : Bytes) : Text := bytes.map fun b => Char.ofNat b.toNat

def IsVisible (b : Byte) : Prop := 33 ≤ b.toNat ∧ b.toNat < 127

def IsBlank (b : Byte) : Prop := b = 0x20 ∨ b = 0x09

instance : DecidablePred IsVisible := fun _ => inferInstanceAs (Decidable (_ ∧ _))

instance : DecidablePred IsBlank := fun _ => inferInstanceAs (Decidable (_ ∨ _))

def lower (b : Byte) : Byte := if 65 ≤ b.toNat ∧ b.toNat ≤ 90 then b + 32 else b

def crlf : Bytes := [cr, lf]

/-- A name, a colon and a value with blanks around it. -/
structure Field where
  name : Bytes
  token : ∀ b ∈ name, IsVisible b ∧ b ≠ 0x3a
  before : Bytes
  value : Bytes
  after : Bytes
  blanks : ∀ b ∈ before ++ after, IsBlank b
  clean : ∀ b ∈ value, ¬ IsLineEnd b
  trimmed : ∀ b, value.head? = some b ∨ value.getLast? = some b → ¬ IsBlank b

namespace Field

variable (f g : Field)

def content : Bytes := f.name ++ 0x3a :: (f.before ++ f.value ++ f.after)

/-- Names are compared in lower case. -/
def Is (name : Bytes) : Prop := f.name.map lower = name

instance (name : Bytes) : Decidable (f.Is name) := inferInstanceAs (Decidable (_ = _))

/-- The same field, whatever blanks are around its value. -/
def Same : Prop := f.name.map lower = g.name.map lower ∧ f.value = g.value

end Field

def host : Bytes := [0x68, 0x6f, 0x73, 0x74]

def connection : Bytes := [0x63, 0x6f, 0x6e, 0x6e, 0x65, 0x63, 0x74, 0x69, 0x6f, 0x6e]

def proxyConnection : Bytes := [0x70, 0x72, 0x6f, 0x78, 0x79, 0x2d] ++ connection

namespace Field

/-- A field that is about the connection. -/
def OfConnection (f : Field) : Prop := f.Is connection ∨ f.Is proxyConnection

instance (f : Field) : Decidable f.OfConnection := inferInstanceAs (Decidable (_ ∨ _))

/-- The names in the value of a field, between commas. -/
def options (f : Field) : List Bytes :=
  (f.value.splitOn 0x2c).map fun option =>
    ((option.dropWhile (IsBlank ·)).rdropWhile (IsBlank ·)).map lower

end Field

def HopByHop (fields : List Field) (f : Field) : Prop :=
  f.OfConnection ∨ ∃ g ∈ fields, g.OfConnection ∧ f.name.map lower ∈ g.options

instance (fields : List Field) (f : Field) : Decidable (HopByHop fields f) :=
  inferInstanceAs (Decidable (_ ∨ _))

def endToEnd (fields : List Field) : List Field := fields.filter (¬ HopByHop fields ·)

structure Request where
  method : Bytes
  methodVisible : ∀ b ∈ method, IsVisible b
  target : Bytes
  targetVisible : ∀ b ∈ target, IsVisible b
  version : Bytes
  versionVisible : ∀ b ∈ version, IsVisible b
  fields : List Field

namespace Request

variable (r : Request)

def line : Bytes := r.method ++ 0x20 :: (r.target ++ 0x20 :: r.version)

def lines : List Bytes := r.line :: r.fields.map Field.content

end Request

/-- Lines, ended by an empty one. -/
def encode (lines : List Bytes) : Bytes := lines.flatMap (· ++ crlf) ++ crlf

/-- The head carries the method of the request and all its end-to-end fields, in order. -/
def Preserves (r : Request) (head : Bytes) : Prop :=
  ∃ sent : Request, head = encode sent.lines ∧ sent.method = r.method ∧
    List.SublistForall₂ Field.Same (endToEnd r.fields) sent.fields

/-! ### Text -/

theorem toNat_ofNat_byte {b : Byte} : (Char.ofNat b.toNat).toNat = b.toNat := by
  have hb := b.isLt
  have hvalid : b.toNat.isValidChar := Or.inl (by omega)
  rw [Char.ofNat, dif_pos hvalid]
  rfl

theorem notMem_toText {bytes : Bytes} {c : Char} (h : ∀ b ∈ bytes, b.toNat ≠ c.toNat) :
    c ∉ toText bytes := by
  intro hc
  obtain ⟨b, hb, rfl⟩ := List.mem_map.mp hc
  exact h b hb toNat_ofNat_byte.symm

theorem toText_injective : Function.Injective toText := by
  apply List.map_injective_iff.mpr
  intro b b' h
  have hcode := congrArg Char.toNat h
  dsimp only at hcode
  rw [toNat_ofNat_byte, toNat_ofNat_byte] at hcode
  exact BitVec.eq_of_toNat_eq hcode

/-! ### Lines -/

theorem IsVisible.toNat_lt {b : Byte} (h : IsVisible b) : b.toNat < 128 := by
  have hlt := h.2
  omega

theorem not_isLineEnd_of_le {b : Byte} (h : 33 ≤ b.toNat) : ¬ IsLineEnd b := by
  rintro (rfl | rfl)
  · exact absurd h (by decide)
  · exact absurd h (by decide)

theorem IsVisible.not_isLineEnd {b : Byte} (h : IsVisible b) : ¬ IsLineEnd b :=
  not_isLineEnd_of_le h.1

theorem IsVisible.not_isBlank {b : Byte} (h : IsVisible b) : ¬ IsBlank b := by
  rintro (rfl | rfl)
  · exact absurd h (by decide)
  · exact absurd h (by decide)

theorem IsBlank.toNat_lt {b : Byte} (h : IsBlank b) : b.toNat < 128 := by
  rcases h with rfl | rfl
  · decide
  · decide

theorem IsBlank.not_isLineEnd {b : Byte} (h : IsBlank b) : ¬ IsLineEnd b := by
  rcases h with rfl | rfl
  · decide
  · decide

theorem Field.content_clean (f : Field) : ∀ b ∈ f.content, ¬ IsLineEnd b := by
  intro b hb
  simp only [Field.content, List.mem_append, List.mem_cons] at hb
  rcases hb with hb | rfl | (hb | hb) | hb
  · exact (f.token b hb).1.not_isLineEnd
  · decide
  · exact (f.blanks b (List.mem_append_left _ hb)).not_isLineEnd
  · exact f.clean b hb
  · exact (f.blanks b (List.mem_append_right _ hb)).not_isLineEnd

theorem Request.line_clean (r : Request) : ∀ b ∈ r.line, ¬ IsLineEnd b := by
  intro b hb
  simp only [Request.line, List.mem_append, List.mem_cons] at hb
  rcases hb with hb | rfl | hb | rfl | hb
  · exact (r.methodVisible b hb).not_isLineEnd
  · decide
  · exact (r.targetVisible b hb).not_isLineEnd
  · decide
  · exact (r.versionVisible b hb).not_isLineEnd

theorem Request.line_ascii (r : Request) : ∀ b ∈ r.line, b.toNat < 128 := by
  intro b hb
  simp only [Request.line, List.mem_append, List.mem_cons] at hb
  rcases hb with hb | rfl | hb | rfl | hb
  · exact (r.methodVisible b hb).toNat_lt
  · decide
  · exact (r.targetVisible b hb).toNat_lt
  · decide
  · exact (r.versionVisible b hb).toNat_lt

/-- A line that is not empty and has no line end inside. -/
def IsLine (line : Bytes) : Prop := line ≠ [] ∧ ∀ b ∈ line, ¬ IsLineEnd b

theorem Request.isLine_of_mem_lines (r : Request) : ∀ line ∈ r.lines, IsLine line := by
  intro line hline
  simp only [Request.lines, List.mem_cons, List.mem_map] at hline
  rcases hline with rfl | ⟨f, -, rfl⟩
  · exact ⟨by simp [Request.line], r.line_clean⟩
  · exact ⟨by simp [Field.content], f.content_clean⟩

theorem encode_cons (line : Bytes) (l : List Bytes) :
    encode (line :: l) = line ++ cr :: lf :: encode l := by
  simp [encode, crlf]

theorem IsLine.cr_notMem {line : Bytes} (h : IsLine line) : cr ∉ line :=
  fun hcr => h.2 cr hcr (Or.inr rfl)

theorem encode_nil_ne {line : Bytes} {l : List Bytes} (h : IsLine line) :
    encode (line :: l) ≠ encode [] := by
  intro heq
  rw [encode_cons] at heq
  exact h.1 (Text.append_cons_inj h.cr_notMem List.not_mem_nil heq).1

/-- The bytes determine the lines. -/
theorem encode_inj {l l' : List Bytes} (hl : ∀ line ∈ l, IsLine line)
    (hl' : ∀ line ∈ l', IsLine line) (h : encode l = encode l') : l = l' := by
  induction l generalizing l' with
  | nil =>
    cases l' with
    | nil => rfl
    | cons line' l' => exact absurd h.symm (encode_nil_ne (hl' line' List.mem_cons_self))
  | cons line l ih =>
    cases l' with
    | nil => exact absurd h (encode_nil_ne (hl line List.mem_cons_self))
    | cons line' l' =>
      rw [encode_cons, encode_cons] at h
      obtain ⟨rfl, hrest⟩ := Text.append_cons_inj (hl line List.mem_cons_self).cr_notMem
        (hl' line' List.mem_cons_self).cr_notMem h
      rw [ih (fun line hline => hl line (List.mem_cons_of_mem _ hline))
        (fun line hline => hl' line (List.mem_cons_of_mem _ hline)) (List.cons.inj hrest).2]

/-- The content of a field determines its name. -/
theorem Field.name_eq {f g : Field} (h : f.content = g.content) : f.name = g.name := by
  have hcolon : ∀ f : Field, 0x3a ∉ f.name := fun f hmem => (f.token 0x3a hmem).2 rfl
  exact (Text.append_cons_inj (hcolon f) (hcolon g) h).1

/-- The request line determines the method. -/
theorem Request.method_eq {r : Request} {method rest : Bytes} (hmethod : 0x20 ∉ method)
    (h : r.line = method ++ 0x20 :: rest) : r.method = method := by
  have hblank : 0x20 ∉ r.method := by
    intro hmem
    exact absurd (r.methodVisible 0x20 hmem) (by decide)
  exact (Text.append_cons_inj hblank hmethod h).1

end XnetZt.Http
