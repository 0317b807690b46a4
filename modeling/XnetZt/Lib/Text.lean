import Mathlib.Data.List.Basic
import Mathlib.Data.List.DropRight
import Mathlib.Tactic

/-!
# Character strings

Strings are lists of characters. A separator that does not occur in the parts of a text
can be found again, so a text made of such parts determines them.
-/

namespace XnetZt

abbrev Text := List Char

namespace Text

section Separator

variable {α : Type*} {sep : α} {l l' r r' : List α}

/-- Two texts cut at the first separator have the same parts. -/
theorem append_cons_inj (hl : sep ∉ l) (hl' : sep ∉ l') (h : l ++ sep :: r = l' ++ sep :: r') :
    l = l' ∧ r = r' := by
  induction l generalizing l' with
  | nil =>
    cases l' with
    | nil => simpa using h
    | cons a l' =>
      obtain ⟨rfl, -⟩ := List.cons.inj h
      exact absurd List.mem_cons_self hl'
  | cons a l ih =>
    cases l' with
    | nil =>
      obtain ⟨rfl, -⟩ := List.cons.inj h
      exact absurd List.mem_cons_self hl
    | cons b l' =>
      obtain ⟨rfl, htail⟩ := List.cons.inj h
      obtain ⟨rfl, hr⟩ := ih (fun hm => hl (List.mem_cons_of_mem _ hm))
        (fun hm => hl' (List.mem_cons_of_mem _ hm)) htail
      exact ⟨rfl, hr⟩

variable [DecidableEq α]

theorem ne_of_notMem (h : sep ∉ l) : ∀ c ∈ l, decide (c ≠ sep) = true := by
  intro c hc
  rw [decide_eq_true_eq]
  rintro rfl
  exact h hc

theorem takeWhile_append_cons (h : sep ∉ l) : (l ++ sep :: r).takeWhile (· ≠ sep) = l := by
  rw [List.takeWhile_append_of_pos (ne_of_notMem h)]
  simp

theorem dropWhile_append_cons (h : sep ∉ l) :
    (l ++ sep :: r).dropWhile (· ≠ sep) = sep :: r := by
  rw [List.dropWhile_append_of_pos (ne_of_notMem h)]
  simp

end Separator

/-- `%u` -/
def decimal (n : ℕ) : Text := Nat.toDigits 10 n

theorem decimal_injective : Function.Injective decimal := by
  intro m n h
  calc m = Nat.ofDigitChars 10 (decimal m) 0 := Nat.ofDigitChars_ten_toDigits.symm
    _ = Nat.ofDigitChars 10 (decimal n) 0 := by rw [h]
    _ = n := Nat.ofDigitChars_ten_toDigits

theorem isDigit_of_mem_decimal {n : ℕ} {c : Char} (h : c ∈ decimal n) : c.isDigit = true :=
  Nat.isDigit_of_mem_toDigits (by decide) le_rfl h

/-- `%0<width>x` -/
def hex (width n : ℕ) : Text := (Nat.toDigits 16 n).leftpad width '0'

/-- The number a hexadecimal digit stands for. -/
def hexDigit (c : Char) : ℕ := "0123456789abcdef".toList.idxOf c

theorem hexDigit_digitChar {d : ℕ} (h : d < 16) : hexDigit (Nat.digitChar d) = d := by
  revert d
  decide

theorem foldl_toDigits (n : ℕ) :
    (Nat.toDigits 16 n).foldl (fun m c => 16 * m + hexDigit c) 0 = n := by
  induction n using Nat.strong_induction_on with
  | _ n ih =>
    by_cases hn : n < 16
    · rw [Nat.toDigits_of_lt_base hn]
      simpa using hexDigit_digitChar hn
    · rw [Nat.toDigits_of_base_le (by omega) (by omega), List.foldl_append, ih _ (by omega),
        List.foldl_cons, List.foldl_nil, hexDigit_digitChar (by omega)]
      omega

/-- Leading zeros do not change the number. -/
theorem foldl_hex (width n : ℕ) : (hex width n).foldl (fun m c => 16 * m + hexDigit c) 0 = n := by
  have hzeros : ∀ k, (List.replicate k '0').foldl (fun m c => 16 * m + hexDigit c) 0 = 0 := by
    intro k
    induction k with
    | zero => rfl
    | succ k ih => exact ih
  rw [hex, List.leftpad, List.foldl_append, hzeros, foldl_toDigits]

theorem hex_injective (width : ℕ) : Function.Injective (hex width) := by
  intro m n h
  rw [← foldl_hex width m, h, foldl_hex]

/-- Texts of one format with different numbers differ. -/
theorem eq_of_format_eq {start ending : Text} {width m n : ℕ}
    (h : start ++ (hex width m ++ ending) = start ++ (hex width n ++ ending)) : m = n :=
  hex_injective width (List.append_cancel_right (List.append_cancel_left h))

theorem length_hex_le {width n k : ℕ} (hk : 0 < k) (h : n < 16 ^ k) :
    (hex width n).length ≤ max width k := by
  rw [hex, List.length_leftpad]
  exact max_le_max le_rfl ((Nat.length_toDigits_le_iff (by omega) hk).mpr h)

/-! ### Methods of `java.lang.String` -/

/-- `split(sep, n + 1)`: at most `n` cuts. -/
def splitLimit (sep : Char) : ℕ → Text → List Text
  | 0, text => [text]
  | n + 1, text =>
    match text.span (· ≠ sep) with
    | (part, _ :: rest) => part :: splitLimit sep n rest
    | (part, []) => [part]

/-- `split(sep)`: trailing empty parts are dropped, unless there is nothing to cut. -/
def split (sep : Char) (text : Text) : List Text :=
  if sep ∈ text then (text.splitOn sep).rdropWhile (· = []) else [text]

/-- The class `\\s` of regular expressions. -/
def isSpace (c : Char) : Bool := c ∈ [' ', '\t', '\n', '\x0b', '\x0c', '\r']

/-- `split("\\s+", -1)`: spaces at the start or at the end leave an empty part there. -/
def splitSpaces (text : Text) : List Text :=
  match _h : text.dropWhile (!isSpace ·) with
  | [] => [text.takeWhile (!isSpace ·)]
  | _ :: rest => text.takeWhile (!isSpace ·) :: splitSpaces (rest.dropWhile isSpace)
termination_by text.length
decreasing_by
  have hrest := (List.dropWhile_suffix (l := rest) isSpace).length_le
  have htext := (List.dropWhile_suffix (l := text) (!isSpace ·)).length_le
  rw [_h, List.length_cons] at htext
  omega

def trim (text : Text) : Text := (text.dropWhile (· ≤ ' ')).rdropWhile (· ≤ ' ')

def startsWith (text start : Text) : Bool := start.isPrefixOf text

def contains (text part : Text) : Bool := part <:+: text

/-- `length()`, in units of UTF-16. -/
def utf16Length (text : Text) : ℕ := (text.map fun c => if c.toNat < 0x10000 then 1 else 2).sum

/-- A reference in a concatenation of strings. -/
def orNull : Option Text → Text
  | some text => text
  | none => "null".toList

section Split

variable {sep : Char} {first rest : Text}

theorem splitLimit_append (hfirst : sep ∉ first) (n : ℕ) :
    splitLimit sep (n + 1) (first ++ sep :: rest) = first :: splitLimit sep n rest := by
  rw [splitLimit, List.span_eq_takeWhile_dropWhile, takeWhile_append_cons hfirst,
    dropWhile_append_cons hfirst]

theorem splitOn_append (hfirst : sep ∉ first) :
    (first ++ sep :: rest).splitOn sep = first :: rest.splitOn sep := by
  rw [List.splitOn_append_cons_self, List.splitOn_eq_singleton hfirst]
  rfl

/-- Joined texts fall apart at the separators between them and at those within them. -/
theorem splitOn_intercalate_eq_flatMap {texts : List Text} (h : texts ≠ []) :
    ([sep].intercalate texts).splitOn sep = texts.flatMap (·.splitOn sep) := by
  induction texts with
  | nil => exact absurd rfl h
  | cons text texts ih =>
    cases texts with
    | nil => simp
    | cons next texts =>
      rw [List.intercalate_cons_cons, List.append_assoc, List.singleton_append,
        List.splitOn_append_cons_self, ih (by simp)]
      rfl

/-- Text in front of joined texts belongs to the first of them. -/
theorem intercalate_append_cons (start text : Text) (texts : List Text) :
    [sep].intercalate ((start ++ text) :: texts) = start ++ [sep].intercalate (text :: texts) := by
  cases texts with
  | nil => simp
  | cons next texts => simp [List.intercalate_cons_cons]

/-- The text up to the separator is the first part. -/
theorem exists_splitOn (sep : Char) (text : Text) :
    ∃ parts, text.splitOn sep = text.takeWhile (· ≠ sep) :: parts := by
  induction text with
  | nil => exact ⟨[], rfl⟩
  | cons c text ih =>
    obtain ⟨parts, hparts⟩ := ih
    rw [List.splitOn, List.splitOnP_cons_eq_if_modifyHead, ← List.splitOn, hparts]
    by_cases hc : c = sep
    · simp [hc]
    · simp [hc]

/-- A part that is not empty is kept, with all before it. -/
theorem rdropWhile_cons_cons {second : Text} (hsecond : second ≠ []) (parts : List Text) :
    (first :: second :: parts).rdropWhile (· = []) =
      first :: second :: parts.rdropWhile (· = []) := by
  induction parts using List.reverseRecOn with
  | nil => simp [List.rdropWhile, hsecond]
  | append_singleton parts last ih =>
    rw [← List.cons_append, ← List.cons_append]
    by_cases hlast : last = []
    · rw [List.rdropWhile_concat_pos _ _ _ (by simpa using hlast), ih,
        List.rdropWhile_concat_pos _ _ _ (by simpa using hlast)]
    · rw [List.rdropWhile_concat_neg _ _ _ (by simpa using hlast),
        List.rdropWhile_concat_neg _ _ _ (by simpa using hlast)]
      rfl

/-- What a parser that refuses the empty text makes of the second part. An empty part
may be dropped or not. -/
theorem split_second {β : Type*} {f : Text → Option β} (hf : f [] = none)
    (hfirst : sep ∉ first) :
    (split sep (first ++ sep :: rest))[1]?.bind f = f (rest.takeWhile (· ≠ sep)) := by
  obtain ⟨parts, hparts⟩ := exists_splitOn sep rest
  rw [split, if_pos (by simp), splitOn_append hfirst, hparts]
  by_cases hsecond : rest.takeWhile (· ≠ sep) = []
  · rw [hsecond, hf]
    obtain ⟨dropped, hdropped⟩ :=
      List.rdropWhile_prefix (fun part : Text => decide (part = [])) (first :: [] :: parts)
    generalize (first :: [] :: parts).rdropWhile (· = []) = kept at hdropped
    obtain _ | ⟨_, _ | ⟨second, kept⟩⟩ := kept
    · rfl
    · rfl
    · obtain rfl : second = [] := (List.cons.inj (List.cons.inj hdropped).2).1
      exact hf
  · rw [rdropWhile_cons_cons hsecond]
    rfl

theorem split_first (hfirst : sep ∉ first) (hsecond : rest.takeWhile (· ≠ sep) ≠ []) :
    (split sep (first ++ sep :: rest))[0]? = some first := by
  obtain ⟨parts, hparts⟩ := exists_splitOn sep rest
  rw [split, if_pos (by simp), splitOn_append hfirst, hparts, rdropWhile_cons_cons hsecond]
  rfl

/-- The first part, if it was not dropped. -/
theorem eq_first_of_split (hfirst : sep ∉ first) {part : Text}
    (h : (split sep (first ++ sep :: rest))[0]? = some part) : part = first := by
  rw [split, if_pos (by simp), splitOn_append hfirst] at h
  obtain ⟨dropped, hdropped⟩ :=
    List.rdropWhile_prefix (fun part : Text => decide (part = [])) (first :: rest.splitOn sep)
  generalize (first :: rest.splitOn sep).rdropWhile (· = []) = kept at h hdropped
  cases kept with
  | nil => cases h
  | cons _ kept =>
    cases h
    exact (List.cons.inj hdropped).1

theorem split_pair (hfirst : sep ∉ first) (hrest : sep ∉ rest) (hne : rest ≠ []) :
    split sep (first ++ sep :: rest) = [first, rest] := by
  rw [split, if_pos (by simp), splitOn_append hfirst, List.splitOn_eq_singleton hrest,
    rdropWhile_cons_cons hne]
  rfl

/-- Texts that are not empty and without the separator are found again. -/
theorem split_intercalate {texts : List Text} (hne : texts ≠ []) (hsep : ∀ text ∈ texts, sep ∉ text)
    (hparts : ∀ text ∈ texts, text ≠ []) : split sep ([sep].intercalate texts) = texts := by
  have hsplit : ([sep].intercalate texts).splitOn sep = texts :=
    List.splitOn_intercalate sep hsep hne
  rw [split]
  split_ifs with hmem
  · rw [hsplit, List.rdropWhile_eq_self_iff]
    intro hl
    simpa using hparts _ (List.getLast_mem hl)
  · rw [← List.splitOn_eq_singleton hmem, hsplit]

end Split

section Spaces

variable {word spaces rest : Text}

theorem exists_splitSpaces (text : Text) :
    ∃ parts, splitSpaces text = text.takeWhile (!isSpace ·) :: parts := by
  rw [splitSpaces]
  split
  · exact ⟨[], rfl⟩
  · exact ⟨_, rfl⟩

theorem splitSpaces_of_dropWhile {text : Text} {c : Char}
    (h : text.dropWhile (!isSpace ·) = c :: rest) :
    splitSpaces text = text.takeWhile (!isSpace ·) :: splitSpaces (rest.dropWhile isSpace) := by
  rw [splitSpaces]
  split
  · rename_i hnil
    rw [h] at hnil
    cases hnil
  · rename_i hcons
    rw [h] at hcons
    cases hcons
    rfl

/-- The first two parts, of which the first one may be empty. -/
theorem exists_splitSpaces_append (hword : ∀ c ∈ word, isSpace c = false) (hspaces : spaces ≠ [])
    (hspace : ∀ c ∈ spaces, isSpace c = true) (hrest : rest.dropWhile isSpace = rest) :
    ∃ parts, splitSpaces (word ++ spaces ++ rest) =
      word :: rest.takeWhile (!isSpace ·) :: parts := by
  obtain ⟨c, spaces, rfl⟩ := List.exists_cons_of_ne_nil hspaces
  have hpass : ∀ a ∈ word, (!isSpace a) = true := fun a ha => by simp [hword a ha]
  have hc : isSpace c = true := hspace c List.mem_cons_self
  have hdrop : (word ++ (c :: spaces) ++ rest).dropWhile (!isSpace ·) = c :: (spaces ++ rest) := by
    rw [List.append_assoc, List.dropWhile_append_of_pos hpass]
    simp [hc]
  have htake : (word ++ (c :: spaces) ++ rest).takeWhile (!isSpace ·) = word := by
    rw [List.append_assoc, List.takeWhile_append_of_pos hpass]
    simp [hc]
  have hnext : (spaces ++ rest).dropWhile isSpace = rest := by
    rw [List.dropWhile_append_of_pos fun a ha => hspace a (List.mem_cons_of_mem c ha), hrest]
  obtain ⟨parts, hparts⟩ := exists_splitSpaces rest
  exact ⟨parts, by rw [splitSpaces_of_dropWhile hdrop, htake, hnext, hparts]⟩

end Spaces

/-- A visible character is not trimmed. -/
theorem trim_ne_nil {text : Text} {c : Char} (hmem : c ∈ text) (hc : ¬ c ≤ ' ') :
    trim text ≠ [] := by
  intro htrim
  have hblank := List.rdropWhile_eq_nil_iff.mp htrim
  rw [← List.takeWhile_append_dropWhile (p := fun c : Char => decide (c ≤ ' ')) (l := text),
    List.mem_append] at hmem
  rcases hmem with hmem | hmem
  · have hpass := List.mem_takeWhile_imp hmem
    exact hc (of_decide_eq_true hpass)
  · exact hc (of_decide_eq_true (hblank c hmem))

/-- Blanks around visible characters are trimmed. -/
theorem trim_append {before value after : Text} (hbefore : ∀ c ∈ before, c ≤ ' ')
    (hvalue : ∀ c ∈ value, ¬ c ≤ ' ') (hafter : ∀ c ∈ after, c ≤ ' ') :
    trim (before ++ value ++ after) = value := by
  have hpass : ∀ {text : Text}, (∀ c ∈ text, c ≤ ' ') → ∀ c ∈ text, decide (c ≤ ' ') = true :=
    fun h c hc => decide_eq_true (h c hc)
  have hstop : ∀ {text : Text}, (∀ c ∈ text, ¬ c ≤ ' ') → text.dropWhile (· ≤ ' ') = text := by
    intro text htext
    cases text with
    | nil => rfl
    | cons c text => exact List.dropWhile_cons_of_neg (by simpa using htext c List.mem_cons_self)
  have hlast : ∀ c ∈ value.reverse, ¬ c ≤ ' ' := fun c hc => hvalue c (List.mem_reverse.mp hc)
  have hend : ∀ c ∈ after.reverse, c ≤ ' ' := fun c hc => hafter c (List.mem_reverse.mp hc)
  rw [trim, List.append_assoc, List.dropWhile_append_of_pos (hpass hbefore)]
  cases value with
  | nil =>
    rw [List.nil_append, List.dropWhile_eq_nil_iff.mpr (hpass hafter)]
    rfl
  | cons c value =>
    rw [List.cons_append, List.dropWhile_cons_of_neg (by simpa using hvalue c List.mem_cons_self),
      ← List.cons_append, List.rdropWhile, List.reverse_append,
      List.dropWhile_append_of_pos (hpass hend), hstop hlast, List.reverse_reverse]

/-- A start that ends with the separator is the first part. -/
theorem startsWith_append_cons {sep : Char} {first start rest : Text} (hfirst : sep ∉ first)
    (hstart : sep ∉ start) :
    (first ++ sep :: rest).startsWith (start ++ [sep]) = true ↔ first = start := by
  rw [startsWith, List.isPrefixOf_iff_prefix]
  constructor
  · rintro ⟨tail, htail⟩
    rw [List.append_assoc] at htail
    exact (append_cons_inj hstart hfirst htail).1.symm
  · rintro rfl
    exact ⟨rest, by simp⟩

end Text

end XnetZt
