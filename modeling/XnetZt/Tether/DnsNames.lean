import XnetZt.Lib.Utf8
import XnetZt.Tether.DnsProxy

/-!
# The names under which answers are cached

The key of a query is its labels, decoded and joined by dots. A dot inside a label looks like
the boundary between two, and all malformed bytes look like the replacement character. Two
names get the same key exactly if these are the only places where they differ. Names of
well-formed UTF-8 without dots are kept apart.
-/

namespace XnetZt

open Dns

namespace DnsProxy

variable {malformed : Bytes → ℕ}

theorem foldl_appendLabel (qname : List Label) {sb : Text} (hsb : sb ≠ []) :
    qname.foldl (fun sb label => appendLabel (Utf8.decode malformed) sb label.bytes) sb =
      ['.'].intercalate (sb :: qname.map fun label => Utf8.decode malformed label.bytes) := by
  induction qname generalizing sb with
  | nil => simp
  | cons label qname ih =>
    rw [List.foldl_cons, appendLabel, if_neg hsb, ih (by simp), Text.intercalate_append_cons,
      List.map_cons, List.intercalate_cons_cons]

theorem decode_label_ne_nil (label : Label) : Utf8.decode malformed label.bytes ≠ [] :=
  fun h => label.nonempty (Utf8.decode_eq_nil.mp h)

/-- The labels joined by dots. None of them is empty, so there is a dot before each but the
first. -/
theorem dottedName_eq_intercalate (qname : List Label) :
    dottedName (Utf8.decode malformed) qname =
      ['.'].intercalate (qname.map fun label => Utf8.decode malformed label.bytes) := by
  cases qname with
  | nil => rfl
  | cons label qname =>
    rw [dottedName, List.foldl_cons, appendLabel, if_pos rfl, List.nil_append,
      foldl_appendLabel qname (decode_label_ne_nil label), List.map_cons]

/-- Only the root has the empty key. -/
theorem dottedName_cons_ne_nil (label : Label) (qname : List Label) :
    dottedName (Utf8.decode malformed) (label :: qname) ≠ [] := by
  rw [dottedName_eq_intercalate, List.map_cons, ← List.append_nil (Utf8.decode _ _),
    Text.intercalate_append_cons]
  exact List.append_ne_nil_of_left_ne_nil (decode_label_ne_nil label) _

/-- A name cut at every dot, between its labels and within them. -/
def nameParts (malformed : Bytes → ℕ) (qname : List Label) : List Text :=
  qname.flatMap fun label => (Utf8.decode malformed label.bytes).splitOn '.'

/-- The parts are found in the key. -/
theorem splitOn_dottedName {qname : List Label} (h : qname ≠ []) :
    (dottedName (Utf8.decode malformed) qname).splitOn '.' = nameParts malformed qname := by
  rw [dottedName_eq_intercalate, Text.splitOn_intercalate_eq_flatMap (by simpa using h), nameParts,
    List.flatMap_map]

theorem intercalate_nameParts (qname : List Label) :
    ['.'].intercalate (nameParts malformed qname) = dottedName (Utf8.decode malformed) qname := by
  cases qname with
  | nil => rfl
  | cons label qname =>
    rw [← splitOn_dottedName (List.cons_ne_nil label qname)]
    exact List.intercalate_splitOn '.'

/-- Two names have one key if they have the same parts. -/
theorem dottedName_eq_iff (qname qname' : List Label) :
    dottedName (Utf8.decode malformed) qname = dottedName (Utf8.decode malformed) qname' ↔
      nameParts malformed qname = nameParts malformed qname' := by
  refine ⟨fun h => ?_, fun h => ?_⟩
  · match qname, qname', h with
    | [], [], _ => rfl
    | [], label :: qname', h => exact absurd h.symm (dottedName_cons_ne_nil label qname')
    | label :: qname, [], h => exact absurd h (dottedName_cons_ne_nil label qname)
    | label :: qname, label' :: qname', h =>
      rw [← splitOn_dottedName (List.cons_ne_nil _ _), h,
        splitOn_dottedName (List.cons_ne_nil _ _)]
  · rw [← intercalate_nameParts, h, intercalate_nameParts]

/-- Well-formed UTF-8 without a dot. -/
def PlainLabel (label : Label) : Prop :=
  (∃ text, label.bytes = Utf8.encode text) ∧ 0x2e ∉ label.bytes

/-- Such a label is one part, and its bytes are found again. -/
theorem PlainLabel.splitOn_decode {label : Label} (h : PlainLabel label) :
    (Utf8.decode malformed label.bytes).splitOn '.' = [Utf8.decode malformed label.bytes] ∧
      Utf8.encode (Utf8.decode malformed label.bytes) = label.bytes := by
  obtain ⟨⟨text, htext⟩, hdot⟩ := h
  rw [htext] at hdot ⊢
  rw [Utf8.decode_encode]
  exact ⟨List.splitOn_eq_singleton fun hmem => hdot (Utf8.mem_encode rfl hmem), rfl⟩

theorem nameParts_plain {qname : List Label} (h : ∀ label ∈ qname, PlainLabel label) :
    nameParts malformed qname = qname.map fun label => Utf8.decode malformed label.bytes := by
  rw [nameParts, List.map_eq_flatMap]
  exact List.flatMap_congr fun label hlabel => (h label hlabel).splitOn_decode.1

theorem bytes_injective : Function.Injective Label.bytes := by
  rintro ⟨bytes, _, _⟩ ⟨_, _, _⟩ rfl
  rfl

theorem nameParts_injOn :
    Set.InjOn (nameParts malformed) {qname | ∀ label ∈ qname, PlainLabel label} := by
  intro qname h qname' h' hparts
  have hbytes {names : List Label} (hnames : ∀ label ∈ names, PlainLabel label) :
      (nameParts malformed names).map Utf8.encode = names.map Label.bytes := by
    rw [nameParts_plain hnames, List.map_map]
    exact List.map_congr_left fun label hlabel => (hnames label hlabel).splitOn_decode.2
  apply List.map_injective_iff.mpr bytes_injective
  rw [← hbytes h, hparts, hbytes h']

/-! ### Where two names differ -/

/-- What stands in a name: a character of a label, or the boundary of two labels. -/
inductive Symbol
  | char (c : Char)
  | boundary
  deriving DecidableEq

def Symbol.toChar : Symbol → Char
  | char c => c
  | boundary => '.'

def symbols (malformed : Bytes → ℕ) (qname : List Label) : List Symbol :=
  [Symbol.boundary].intercalate
    (qname.map fun label => (Utf8.decode malformed label.bytes).map .char)

/-- The difference of these symbols is lost: a boundary against a dot within a label. -/
inductive Confused : Symbol → Symbol → Prop
  | same (x : Symbol) : Confused x x
  | boundaryDot : Confused .boundary (.char '.')
  | dotBoundary : Confused (.char '.') .boundary

theorem confused_iff (x y : Symbol) : Confused x y ↔ x.toChar = y.toChar := by
  constructor
  · intro h
    cases h <;> rfl
  · intro h
    cases x with
    | char c =>
      cases y with
      | char c' =>
        obtain rfl : c = c' := h
        exact .same _
      | boundary =>
        obtain rfl : c = '.' := h
        exact .dotBoundary
    | boundary =>
      cases y with
      | char c' =>
        obtain rfl : '.' = c' := h
        exact .boundaryDot
      | boundary => exact .same _

/-- Two names that are not the same and differ, symbol by symbol, only where a boundary of one
is a dot within a label of the other, or in bytes that are decoded alike. -/
structure Collide (malformed : Bytes → ℕ) (qname qname' : List Label) : Prop where
  ne : qname ≠ qname'
  symbols : List.Forall₂ Confused (symbols malformed qname) (symbols malformed qname')

/-- The key shows a dot for each boundary. -/
theorem map_toChar_symbols (qname : List Label) :
    (symbols malformed qname).map Symbol.toChar = dottedName (Utf8.decode malformed) qname := by
  have htext (text : Text) : (text.map Symbol.char).map Symbol.toChar = text := by
    rw [List.map_map]
    exact List.map_id text
  rw [dottedName_eq_intercalate, symbols]
  induction qname with
  | nil => rfl
  | cons label qname ih =>
    cases qname with
    | nil => simp [htext]
    | cons label' qname =>
      simp only [List.map_cons, List.intercalate_cons_cons, List.map_append, htext] at ih ⊢
      rw [ih]
      rfl

theorem dottedName_eq_iff_symbols (qname qname' : List Label) :
    dottedName (Utf8.decode malformed) qname = dottedName (Utf8.decode malformed) qname' ↔
      List.Forall₂ Confused (symbols malformed qname) (symbols malformed qname') := by
  have hconfused : Confused = fun x y => x.toChar = y.toChar := by
    ext x y
    exact confused_iff x y
  rw [← map_toChar_symbols, ← map_toChar_symbols, ← List.forall₂_eq_eq_eq,
    List.forall₂_map_left_iff, List.forall₂_map_right_iff, hconfused]

/-- Queries for the name of the labels `x` and `y`, and of the one label `x.y`. -/
def twoLabels : Message :=
  ⟨1, 0x0100, 0, ⟨[⟨[0x78], by decide, by decide⟩, ⟨[0x79], by decide, by decide⟩], 1, 1⟩, []⟩

def dottedLabel : Message :=
  ⟨2, 0x0100, 0, ⟨[⟨[0x78, 0x2e, 0x79], by decide, by decide⟩], 1, 1⟩, []⟩

theorem plain_twoLabels : ∀ label ∈ twoLabels.question.qname, PlainLabel label :=
  List.forall_mem_cons.mpr ⟨⟨⟨['x'], rfl⟩, by decide⟩,
    List.forall_mem_singleton.mpr ⟨⟨['y'], rfl⟩, by decide⟩⟩

end DnsProxy

end XnetZt
