import XnetZt.Lib.Java
import XnetZt.Lib.ParseInt
import XnetZt.Net.Uri

/-!
# Port forwarding

`parsePorts` reads a list of ports and ranges. It does not know the form `listen:target`, with
which the service itself calls it: a colon is no digit. The loop over a range that ends at the
largest `int` is never left, as its counter wraps around. `startForDevice` stops the forwards of
a host before it parses the new ones, so after a spec that is refused they are gone.
-/

namespace XnetZt

open Text

/-! ### Parsing -/

namespace PortForwarder

/-- `unfinished` is a loop that still runs when the rounds it is given are used up. -/
inductive Failure
  | numberFormat
  | unfinished
  deriving DecidableEq, Repr

/-- `for (int p = lo; p <= hi; p++) ports.add(new int[]{p, p})` -/
def addRange : ℕ → Int32 → Int32 → Except Failure (List (Int32 × Int32))
  | 0, _, _ => .error .unfinished
  | fuel + 1, p, hi => do
    if p ≤ hi then
      let ports ← addRange fuel (p + 1) hi
      return (p, p) :: ports
    else return []

section Parse

variable (d : DigitTable)

def parseInt (text : Text) : Except Failure Int32 :=
  match d.parseInt text with
  | some n => .ok n
  | none => .error .numberFormat

/-- One round of the loop over the parts, after `part = part.trim()`. -/
def parsePart (fuel : ℕ) (part : Text) : Except Failure (List (Int32 × Int32)) :=
  if '-' ∈ part then do
    -- `part.split("-", 2)`: the texts before and after the first dash
    let lo ← parseInt d (trim (part.takeWhile (· ≠ '-')))
    let hi ← parseInt d (trim ((part.dropWhile (· ≠ '-')).drop 1))
    addRange fuel lo hi
  else do
    let p ← parseInt d part
    return [(p, p)]

def parsePorts (fuel : ℕ) (spec : Option Text) : Except Failure (List (Int32 × Int32)) :=
  match spec with
  | none => return []
  | some spec =>
    if trim spec = [] then return []
    else do
      let ports ← (split ',' spec).mapM fun part => parsePart d fuel (trim part)
      return ports.flatten

end Parse

/-! ### Specs -/

structure SpecPort extends Uri.Port where
  pos : 1 ≤ toPort.number

inductive Entry
  | port (p : SpecPort)
  | range (lo hi : SpecPort) (le : lo.number ≤ hi.number)
  | mapping (listen target : SpecPort)

namespace Entry

def text : Entry → Text
  | port p => p.digits
  | range lo hi _ => lo.digits ++ '-' :: hi.digits
  | mapping listen target => listen.digits ++ ':' :: target.digits

/-- The ports to listen on, each with its target. -/
def ports : Entry → List (Int32 × Int32)
  | port p => [(Int32.ofNat p.number, Int32.ofNat p.number)]
  | range lo hi _ => (List.range' lo.number (hi.number + 1 - lo.number)).map fun p =>
    (Int32.ofNat p, Int32.ofNat p)
  | mapping listen target => [(Int32.ofNat listen.number, Int32.ofNat target.number)]

def isMapping : Entry → Bool
  | mapping _ _ => true
  | _ => false

end Entry

/-- An entry with the spaces around it. -/
structure Item where
  before : ℕ
  entry : Entry
  after : ℕ

def Item.text (item : Item) : Text :=
  List.replicate item.before ' ' ++ item.entry.text ++ List.replicate item.after ' '

def specText (items : List Item) : Text := [','].intercalate (items.map Item.text)

/-! ### What is read -/

/-- Below the largest `int` the counter goes on by one. -/
theorem toInt_add_one {p : Int32} (h : p.toInt < 2 ^ 31 - 1) : (p + 1).toInt = p.toInt + 1 := by
  have hmin := p.le_toInt
  rw [Int32.toInt_add]
  exact Int.bmod_eq_of_le (by simp; omega) (by simp; omega)

/-- The `int`s from `lo` to `hi`. -/
def interval (lo hi : Int32) : List Int32 :=
  (List.range (hi.toInt - lo.toInt + 1).toNat).map fun k => lo + Int32.ofNat k

theorem interval_of_lt {lo hi : Int32} (h : hi.toInt < lo.toInt) : interval lo hi = [] := by
  rw [interval, Int.toNat_of_nonpos (by omega)]
  rfl

theorem interval_of_le {lo hi : Int32} (h : lo.toInt ≤ hi.toInt) (hhi : hi.toInt < 2 ^ 31 - 1) :
    interval lo hi = lo :: interval (lo + 1) hi := by
  have hlength : (hi.toInt - lo.toInt + 1).toNat = (hi.toInt - (lo + 1).toInt + 1).toNat + 1 := by
    rw [toInt_add_one (by omega)]
    omega
  have hnext (k : ℕ) : lo + Int32.ofNat (k + 1) = lo + 1 + Int32.ofNat k := by
    rw [Int32.ofNat_add, Int32.add_comm (Int32.ofNat k), ← Int32.add_assoc]
    rfl
  rw [interval, hlength, List.range_succ_eq_map, List.map_cons, List.map_map, interval]
  congr 1
  · exact Int32.add_zero lo
  · exact List.map_congr_left fun k _ => hnext k

theorem length_interval (lo hi : Int32) :
    (interval lo hi).length = (hi.toInt - lo.toInt + 1).toNat := by
  rw [interval, List.length_map, List.length_range]

theorem interval_ofNat {lo hi : ℕ} (hlo : lo < 2 ^ 31) (hhi : hi < 2 ^ 31) :
    interval (Int32.ofNat lo) (Int32.ofNat hi) =
      (List.range' lo (hi + 1 - lo)).map Int32.ofNat := by
  have hlength : ((hi : ℤ) - lo + 1).toNat = hi + 1 - lo := by omega
  rw [interval, Int32.toInt_ofNat_of_lt hlo, Int32.toInt_ofNat_of_lt hhi, hlength,
    List.range'_eq_map_range, List.map_map]
  exact List.map_congr_left fun k _ => (Int32.ofNat_add lo k).symm

theorem toInt_lt_of_ne_maxValue {hi : Int32} (h : hi ≠ Int32.maxValue) :
    hi.toInt < 2 ^ 31 - 1 := by
  have hle := hi.toInt_le
  have hne := mt Int32.toInt_inj.mp h
  rw [Int32.toInt_maxValue] at hle hne
  omega

/-- The loop over a range whose end is not the largest `int`. -/
theorem addRange_eq {fuel : ℕ} {lo hi : Int32} (hhi : hi ≠ Int32.maxValue)
    (hfuel : (interval lo hi).length < fuel) :
    addRange fuel lo hi = .ok ((interval lo hi).map fun p => (p, p)) := by
  have hmax := toInt_lt_of_ne_maxValue hhi
  induction fuel generalizing lo with
  | zero => exact absurd hfuel (Nat.not_lt_zero _)
  | succ fuel ih =>
    rw [addRange]
    by_cases hle : lo ≤ hi
    · rw [interval_of_le (Int32.le_iff_toInt_le.mp hle) hmax] at hfuel ⊢
      rw [if_pos hle, ih (Nat.lt_of_succ_lt_succ hfuel)]
      rfl
    · have hlt : hi.toInt < lo.toInt := not_le.mp (mt Int32.le_iff_toInt_le.mpr hle)
      rw [if_neg hle, interval_of_lt hlt]
      rfl

variable {d : DigitTable}

theorem parseInt_port (p : SpecPort) : parseInt d p.digits = .ok (Int32.ofNat p.number) := by
  have hle := p.le
  rw [parseInt, d.parseInt_digits p.nonempty p.isDigit (by omega)]
  rfl

/-- A character of an entry is not a blank. -/
theorem not_le_space {c : Char} (h : c.isDigit = true ∨ c = '-' ∨ c = ':') : ¬ c ≤ ' ' := by
  rcases h with h | rfl | rfl
  · intro hle
    rw [Char.isDigit, Bool.and_eq_true, decide_eq_true_eq] at h
    have hge : '0' ≤ c := h.1
    exact absurd (Char.le_trans hge hle) (by decide)
  · decide
  · decide

theorem trim_digits (p : SpecPort) : trim p.digits = p.digits := by
  have htrim : trim ([] ++ p.digits ++ []) = p.digits :=
    trim_append (by simp) (fun c hc => not_le_space (Or.inl (p.isDigit c hc))) (by simp)
  rwa [List.nil_append, List.append_nil] at htrim

namespace Entry

/-- Entries are made of digits, dashes and colons. -/
theorem of_mem_text {e : Entry} {c : Char} (h : c ∈ e.text) :
    c.isDigit = true ∨ c = '-' ∨ c = ':' := by
  cases e with
  | port p => exact Or.inl (p.isDigit c h)
  | range lo hi _ =>
    rcases List.mem_append.mp h with h | h
    · exact Or.inl (lo.isDigit c h)
    · rcases List.mem_cons.mp h with rfl | h
      · exact Or.inr (Or.inl rfl)
      · exact Or.inl (hi.isDigit c h)
  | mapping listen target =>
    rcases List.mem_append.mp h with h | h
    · exact Or.inl (listen.isDigit c h)
    · rcases List.mem_cons.mp h with rfl | h
      · exact Or.inr (Or.inr rfl)
      · exact Or.inl (target.isDigit c h)

theorem text_ne_nil (e : Entry) : e.text ≠ [] := by
  cases e with
  | port p => exact p.nonempty
  | range lo hi _ => exact List.append_ne_nil_of_left_ne_nil lo.nonempty _
  | mapping listen target => exact List.append_ne_nil_of_left_ne_nil listen.nonempty _

end Entry

theorem trim_text (item : Item) : trim item.text = item.entry.text := by
  apply trim_append
  · intro c hc
    exact List.eq_of_mem_replicate hc ▸ Char.le_refl ' '
  · exact fun c hc => not_le_space (Entry.of_mem_text hc)
  · intro c hc
    exact List.eq_of_mem_replicate hc ▸ Char.le_refl ' '

/-- A colon is no digit, so a mapping is not a number. -/
theorem parseInt_mapping (listen target : SpecPort) :
    parseInt d (listen.digits ++ ':' :: target.digits) = .error .numberFormat := by
  obtain ⟨c, rest, hdigits⟩ := List.exists_cons_of_ne_nil listen.nonempty
  have hc : c.isDigit = true := listen.isDigit c (hdigits ▸ List.mem_cons_self)
  have hcolon : d.digit ':' = none := d.ascii ':' (by decide)
  rw [hdigits, List.cons_append, parseInt, d.parseInt_of_head hc,
    d.magnitude_eq_none (by simp) hcolon]
  rfl

theorem parsePart_text {fuel : ℕ} (hfuel : 65536 ≤ fuel) (e : Entry) :
    parsePart d fuel e.text = if e.isMapping then .error .numberFormat else .ok e.ports := by
  cases e with
  | port p =>
    have hdash : '-' ∉ p.digits := p.notMem_digits (by decide)
    rw [Entry.text, parsePart, if_neg hdash, parseInt_port]
    rfl
  | range lo hi hle =>
    have hdash : '-' ∉ lo.digits := lo.notMem_digits (by decide)
    have hmin := lo.pos
    have hmax : hi.number ≤ 65535 := hi.le
    have hne : Int32.ofNat hi.number ≠ Int32.maxValue := by
      intro heq
      have hint := congrArg Int32.toInt heq
      rw [Int32.toInt_ofNat_of_lt (by omega), Int32.toInt_maxValue] at hint
      omega
    have hinterval : interval (Int32.ofNat lo.number) (Int32.ofNat hi.number) =
        (List.range' lo.number (hi.number + 1 - lo.number)).map Int32.ofNat :=
      interval_ofNat (by omega) (by omega)
    rw [Entry.text, parsePart, if_pos (by simp), takeWhile_append_cons hdash,
      dropWhile_append_cons hdash, List.drop_one, List.tail_cons, trim_digits, trim_digits,
      parseInt_port, ok_bind, parseInt_port, ok_bind, addRange_eq hne, hinterval, List.map_map]
    · rfl
    · rw [hinterval, List.length_map, List.length_range']
      omega
  | mapping listen target =>
    have hdash : '-' ∉ listen.digits ++ ':' :: target.digits := by
      have hlisten : '-' ∉ listen.digits := listen.notMem_digits (by decide)
      have htarget : '-' ∉ target.digits := target.notMem_digits (by decide)
      simp [hlisten, htarget]
    rw [Entry.text, parsePart, if_neg hdash, parseInt_mapping]
    rfl

/-- A character that is neither in an entry nor a space. -/
theorem notMem_text (item : Item) {c : Char} (hc : c ≠ ' ') (hdigit : c.isDigit = false)
    (hdash : c ≠ '-') (hcolon : c ≠ ':') : c ∉ item.text := by
  intro hmem
  rw [Item.text, List.mem_append, List.mem_append] at hmem
  rcases hmem with (hspace | htext) | hspace
  · exact hc (List.eq_of_mem_replicate hspace)
  · rcases Entry.of_mem_text htext with h | h | h
    · exact absurd h (by simp [hdigit])
    · exact hdash h
    · exact hcolon h
  · exact hc (List.eq_of_mem_replicate hspace)

theorem text_ne_nil (item : Item) : item.text ≠ [] := by
  intro h
  have htrim := trim_text item
  rw [h] at htrim
  exact item.entry.text_ne_nil htrim.symm

theorem split_specText {items : List Item} (h : items ≠ []) :
    split ',' (specText items) = items.map Item.text := by
  apply split_intercalate (by simpa using h)
  · exact List.forall_mem_map.mpr fun item _ =>
      notMem_text item (by decide) (by decide) (by decide) (by decide)
  · exact List.forall_mem_map.mpr fun item _ => text_ne_nil item

theorem trim_specText (item : Item) (items : List Item) : trim (specText (item :: items)) ≠ [] := by
  obtain ⟨c, hc⟩ := List.exists_mem_of_ne_nil _ item.entry.text_ne_nil
  refine trim_ne_nil ?_ (not_le_space (Entry.of_mem_text hc))
  rw [specText, List.map_cons, ← List.append_nil item.text, intercalate_append_cons, Item.text]
  simp [hc]

theorem parsePorts_cons (d : DigitTable) (fuel : ℕ) (item : Item) (items : List Item) :
    parsePorts d fuel (some (specText (item :: items))) = do
      let ports ← (item :: items).mapM fun item => parsePart d fuel item.entry.text
      return ports.flatten := by
  have htrim : (fun part => parsePart d fuel (trim part)) ∘ Item.text =
      fun item => parsePart d fuel item.entry.text :=
    funext fun item => congrArg (parsePart d fuel) (trim_text item)
  rw [parsePorts, if_neg (trim_specText item items), split_specText (by simp), List.mapM_map,
    htrim]

/-- A spec is read as it is meant exactly if it has no mapping. -/
theorem parsePorts_specText_iff (d : DigitTable) (items : List Item) :
    (∀ fuel, 65536 ≤ fuel →
      parsePorts d fuel (some (specText items)) = .ok (items.flatMap (·.entry.ports))) ↔
    ∀ item ∈ items, item.entry.isMapping = false := by
  cases items with
  | nil => exact iff_of_true (fun _ _ => rfl) (by simp)
  | cons first items =>
    simp only [parsePorts_cons]
    refine ⟨fun h item hitem => ?_, fun h fuel hfuel => ?_⟩
    · obtain ⟨ports, hports, -⟩ := bind_eq_ok.mp (h 65536 le_rfl)
      obtain ⟨_, hpart⟩ := exists_of_mapM_eq_ok hports item hitem
      rw [parsePart_text le_rfl] at hpart
      by_contra hmapping
      rw [if_pos (by simpa using hmapping)] at hpart
      cases hpart
    · have hparts : ∀ item ∈ first :: items,
          parsePart d fuel item.entry.text = .ok item.entry.ports := by
        intro item hitem
        rw [parsePart_text hfuel, if_neg (by simp [h item hitem])]
      rw [mapM_eq_map hparts]
      rfl

/-- The spec the service starts with: listen on 2222 for port 22. -/
def serviceItem : Item where
  before := 0
  entry := .mapping
    { digits := "2222".toList
      nonempty := by decide
      isDigit := List.all_eq_true.mp rfl
      le := by decide
      pos := by decide }
    { digits := "22".toList
      nonempty := by decide
      isDigit := List.all_eq_true.mp rfl
      le := by decide
      pos := by decide }
  after := 0

theorem parsePorts_serviceItem (d : DigitTable) {fuel : ℕ} (hfuel : 65536 ≤ fuel) :
    parsePorts d fuel (some (specText [serviceItem])) = .error .numberFormat := by
  rw [parsePorts_cons, List.mapM_cons, parsePart_text hfuel]
  rfl

theorem parsePorts_serviceSpec : specText [serviceItem] = "2222:22".toList ∧
    parsePorts .asciiOnly 65536 (some (specText [serviceItem])) = .error .numberFormat ∧
    serviceItem.entry.ports = [(2222, 22)] :=
  ⟨by decide, parsePorts_serviceItem .asciiOnly le_rfl, by decide⟩

/-! ### Termination -/

/-- What a part of a spec is read as. -/
inductive Parsed
  | port (p : Int32)
  | range (lo hi : Int32)

namespace Parsed

def ports : Parsed → List (Int32 × Int32)
  | port p => [(p, p)]
  | range lo hi => (interval lo hi).map fun p => (p, p)

/-- The body of the loop over the parts once the numbers are read. -/
def add (fuel : ℕ) : Parsed → Except Failure (List (Int32 × Int32))
  | port p => .ok [(p, p)]
  | range lo hi => addRange fuel lo hi

end Parsed

/-- The parts of a spec that are parsed. -/
def parts : Option Text → List Text
  | none => []
  | some spec => if trim spec = [] then [] else (split ',' spec).map trim

section Read

variable (d : DigitTable)

/-- `none` if a number of the part is refused. -/
def readPart (part : Text) : Option Parsed :=
  if '-' ∈ part then do
    let lo ← d.parseInt (trim (part.takeWhile (· ≠ '-')))
    let hi ← d.parseInt (trim ((part.dropWhile (· ≠ '-')).drop 1))
    return .range lo hi
  else (d.parseInt part).map .port

/-- The parts up to the first that is refused. -/
def accepted : List Text → List Parsed
  | [] => []
  | part :: parts =>
    match readPart d part with
    | none => []
    | some parsed => parsed :: accepted parts

/-- An exception if a part is refused, and the ports of all parts otherwise. -/
def expected (spec : Option Text) : Except Failure (List (Int32 × Int32)) :=
  match (parts spec).mapM (readPart d) with
  | none => .error .numberFormat
  | some parsed => .ok (parsed.flatMap Parsed.ports)

theorem parsePorts_eq_mapM (fuel : ℕ) (spec : Option Text) :
    parsePorts d fuel spec = (parts spec).mapM (parsePart d fuel) >>= fun ports =>
      return ports.flatten := by
  cases spec with
  | none => rfl
  | some spec =>
    rw [parsePorts, parts]
    split_ifs
    · rfl
    · rw [List.mapM_map]
      rfl

theorem parsePart_eq_add (fuel : ℕ) (part : Text) :
    parsePart d fuel part =
      match readPart d part with
      | none => .error .numberFormat
      | some parsed => parsed.add fuel := by
  unfold parsePart readPart parseInt
  split_ifs
  · cases d.parseInt (trim (part.takeWhile (· ≠ '-'))) with
    | none => rfl
    | some lo => cases d.parseInt (trim ((part.dropWhile (· ≠ '-')).drop 1)) <;> rfl
  · cases d.parseInt part <;> rfl

end Read

/-- The counter is never above the largest `int`. -/
theorem addRange_maxValue (fuel : ℕ) (lo : Int32) :
    addRange fuel lo Int32.maxValue = .error .unfinished := by
  induction fuel generalizing lo with
  | zero => rfl
  | succ fuel ih =>
    have hle : lo ≤ Int32.maxValue := Int32.le_iff_toInt_le.mpr lo.toInt_le
    rw [addRange, if_pos hle, ih]
    rfl

theorem addRange_ne_numberFormat (fuel : ℕ) (lo hi : Int32) :
    addRange fuel lo hi = .error .unfinished ∨ ∃ ports, addRange fuel lo hi = .ok ports := by
  induction fuel generalizing lo with
  | zero => exact .inl rfl
  | succ fuel ih =>
    rw [addRange]
    split_ifs
    · rcases ih (lo + 1) with hrest | ⟨ports, hrest⟩
      · exact .inl (by rw [hrest]; rfl)
      · exact .inr ⟨(lo, lo) :: ports, by rw [hrest]; rfl⟩
    · exact .inr ⟨[], rfl⟩

/-- Such a range has fewer entries than there are `int`s. -/
theorem Parsed.add_eq {parsed : Parsed} (h : ∀ lo, parsed ≠ .range lo Int32.maxValue) {fuel : ℕ}
    (hfuel : 2 ^ 32 ≤ fuel) : parsed.add fuel = .ok parsed.ports := by
  cases parsed with
  | port p => rfl
  | range lo hi =>
    have hhi : hi ≠ Int32.maxValue := fun heq => h lo (by rw [heq])
    have hmax := toInt_lt_of_ne_maxValue hhi
    have hmin := lo.le_toInt
    refine addRange_eq hhi ?_
    rw [length_interval]
    omega

theorem Parsed.add_cases (parsed : Parsed) (fuel : ℕ) :
    parsed.add fuel = .error .unfinished ∨ ∃ ports, parsed.add fuel = .ok ports := by
  cases parsed with
  | port p => exact .inr ⟨_, rfl⟩
  | range lo hi => exact addRange_ne_numberFormat fuel lo hi

/-- Without an endless range, the loop over the parts does what each part asks for, up to the
first that is refused. -/
theorem mapM_parsePart {fuel : ℕ} (hfuel : 2 ^ 32 ≤ fuel) {texts : List Text}
    (h : ∀ lo, .range lo Int32.maxValue ∉ accepted d texts) :
    texts.mapM (parsePart d fuel) =
      match texts.mapM (readPart d) with
      | none => .error .numberFormat
      | some parsed => .ok (parsed.map Parsed.ports) := by
  induction texts with
  | nil => rfl
  | cons text texts ih =>
    rw [List.mapM_cons, List.mapM_cons, parsePart_eq_add]
    rw [accepted] at h
    cases hread : readPart d text with
    | none => rfl
    | some parsed =>
      simp only [hread, List.mem_cons, not_or] at h
      have hadd : parsed.add fuel = .ok parsed.ports :=
        Parsed.add_eq (fun lo heq => (h lo).1 heq.symm) hfuel
      simp only [hadd, ok_bind, ih fun lo => (h lo).2, Option.bind_eq_bind, Option.bind_some]
      cases texts.mapM (readPart d) <;> rfl

/-- The loop does not get past an endless range that it gets to. -/
theorem mapM_parsePart_unfinished {lo : Int32} {texts : List Text}
    (h : .range lo Int32.maxValue ∈ accepted d texts) (fuel : ℕ) :
    texts.mapM (parsePart d fuel) = .error .unfinished := by
  induction texts with
  | nil => exact absurd h List.not_mem_nil
  | cons text texts ih =>
    rw [List.mapM_cons, parsePart_eq_add]
    rw [accepted] at h
    cases hread : readPart d text with
    | none =>
      rw [hread] at h
      exact absurd h List.not_mem_nil
    | some parsed =>
      rw [hread] at h
      rcases List.mem_cons.mp h with rfl | hrest
      · have hadd : (Parsed.range lo Int32.maxValue).add fuel = .error .unfinished :=
          addRange_maxValue fuel lo
        simp only [hadd, error_bind]
      · rcases parsed.add_cases fuel with hadd | ⟨ports, hadd⟩
        · simp only [hadd, error_bind]
        · simp only [hadd, ok_bind, ih hrest, error_bind]

theorem parsePorts_eq_expected {spec : Option Text}
    (h : ∀ lo, .range lo Int32.maxValue ∉ accepted d (parts spec)) {fuel : ℕ}
    (hfuel : 2 ^ 32 ≤ fuel) : parsePorts d fuel spec = expected d spec := by
  rw [parsePorts_eq_mapM, mapM_parsePart hfuel h, expected]
  cases (parts spec).mapM (readPart d) with
  | none => rfl
  | some parsed => rfl

theorem parsePorts_unfinished {spec : Option Text} {lo : Int32}
    (h : .range lo Int32.maxValue ∈ accepted d (parts spec)) (fuel : ℕ) :
    parsePorts d fuel spec = .error .unfinished := by
  rw [parsePorts_eq_mapM, mapM_parsePart_unfinished h, error_bind]

theorem expected_ne_unfinished (spec : Option Text) : expected d spec ≠ .error .unfinished := by
  unfold expected
  split
  · exact fun h => nomatch h
  · exact fun h => nomatch h

theorem not_exists_enough {spec : Option Text} {lo : Int32}
    (h : .range lo Int32.maxValue ∈ accepted d (parts spec)) :
    ¬ ∃ enough, ∀ fuel, enough ≤ fuel → parsePorts d fuel spec = expected d spec := by
  rintro ⟨enough, hend⟩
  exact expected_ne_unfinished spec
    ((hend enough le_rfl).symm.trans (parsePorts_unfinished h enough))

/-- When the parser comes to an end, by a NumberFormatException or with the entries of each
range: exactly if no range that it gets to ends at the largest `int`. It does not come to an end
otherwise. -/
theorem parsePorts_terminates_iff (d : DigitTable) (spec : Option Text) :
    ((∃ enough, ∀ fuel, enough ≤ fuel → parsePorts d fuel spec = expected d spec) ↔
      ∀ lo, .range lo Int32.maxValue ∉ accepted d (parts spec)) ∧
    (∀ lo, .range lo Int32.maxValue ∈ accepted d (parts spec) →
      ∀ fuel, parsePorts d fuel spec = .error .unfinished) ∧
    ∀ lo hi : Int32, ((Parsed.range lo hi).ports.length : ℤ) = max 0 (hi.toInt - lo.toInt + 1) := by
  refine ⟨⟨?_, ?_⟩, fun _ => parsePorts_unfinished, fun lo hi => ?_⟩
  · exact fun hend lo hendless => not_exists_enough hendless hend
  · exact fun h => ⟨2 ^ 32, fun _ => parsePorts_eq_expected h⟩
  · rw [Parsed.ports, List.length_map, length_interval]
    omega

/-- A range with the largest `int` for no upper bound. -/
theorem parsePorts_endless :
    parts (some "1024-2147483647".toList) = ["1024-2147483647".toList] ∧
      readPart .asciiOnly "1024-2147483647".toList = some (.range 1024 Int32.maxValue) ∧
      ¬ ∃ enough, ∀ fuel, enough ≤ fuel →
        parsePorts .asciiOnly fuel (some "1024-2147483647".toList) =
          expected .asciiOnly (some "1024-2147483647".toList) := by
  have hparts : parts (some "1024-2147483647".toList) = ["1024-2147483647".toList] := by decide
  have hread : readPart .asciiOnly "1024-2147483647".toList =
      some (.range 1024 Int32.maxValue) := by rfl
  have hendless : .range 1024 Int32.maxValue ∈
      accepted .asciiOnly (parts (some "1024-2147483647".toList)) := by
    rw [hparts, accepted, hread]
    exact List.mem_cons_self
  exact ⟨hparts, hread, not_exists_enough hendless⟩

end PortForwarder

/-! ### Starting and stopping -/

/-- The static fields, for services `V` and networks `N`. Listening sockets are numbered as
they are opened, `opened` of them so far. -/
structure PortForwarder (V N : Type) where
  activeForwards : Text → Option (List ℕ)
  vpn : Option V
  tetherNet : Option N
  opened : ℕ
  isOpen : ℕ → Bool

namespace PortForwarder

variable {V N : Type}

/-- What the calls to the system do: which sockets `close()` closes, and for which of the
parsed ports `new ServerSocket` succeeds. -/
structure System (V N : Type) where
  findTetherNetwork : Option V → Option N
  closes : ℕ → Bool
  binds : ℕ → Bool

def stopForDevice (sys : System V N) (s : PortForwarder V N) (targetHost : Text) :
    PortForwarder V N :=
  match s.activeForwards targetHost with
  | none => s
  | some servers =>
    { s with
      activeForwards := Function.update s.activeForwards targetHost none
      isOpen := fun ss => s.isOpen ss && !(servers.contains ss && sys.closes ss) }

/-- One round of the loop over the ports, with the sockets opened before it. A port that
cannot be bound is left out. -/
def listen (sys : System V N) (acc : PortForwarder V N × List ℕ)
    (pp : (Int32 × Int32) × ℕ) : PortForwarder V N × List ℕ :=
  let (s, servers) := acc
  if sys.binds pp.2 then
    ({ s with opened := s.opened + 1, isOpen := Function.update s.isOpen s.opened true },
      servers ++ [s.opened])
  else (s, servers)

def startForDevice (sys : System V N) (d : DigitTable) (fuel : ℕ) (s : PortForwarder V N)
    (targetHost : Text) (portSpec : Option Text) (vpnService : Option V) :
    PortForwarder V N × Except Failure Unit :=
  let s := { s.stopForDevice sys targetHost with
    vpn := vpnService
    tetherNet := sys.findTetherNetwork vpnService }
  match parsePorts d fuel portSpec with
  | .error e => (s, .error e)
  | .ok ports =>
    let (s, servers) := ports.zipIdx.foldl (listen sys) (s, [])
    ({ s with activeForwards := Function.update s.activeForwards targetHost (some servers) },
      .ok ())

/-- The same forwards, and the same sockets open. -/
def SameForwards (s s' : PortForwarder V N) : Prop :=
  s'.activeForwards = s.activeForwards ∧ s'.isOpen = s.isOpen

theorem sameForwards_stopForDevice_iff {sys : System V N} {s : PortForwarder V N}
    {targetHost : Text} :
    s.SameForwards (s.stopForDevice sys targetHost) ↔ s.activeForwards targetHost = none := by
  unfold stopForDevice
  cases hactive : s.activeForwards targetHost with
  | none => exact iff_of_true ⟨rfl, rfl⟩ rfl
  | some servers =>
    refine iff_of_false (fun h => ?_) (by simp)
    have hgone := congrFun h.1 targetHost
    rw [hactive] at hgone
    simp at hgone

/-- A spec that is refused leaves everything as it was exactly if the host had no forwards. -/
theorem startForDevice_rejected (sys : System V N) {d : DigitTable} {fuel : ℕ}
    {portSpec : Option Text} (h : parsePorts d fuel portSpec = .error .numberFormat)
    (s : PortForwarder V N) (targetHost : Text) (vpnService : Option V) :
    (s.startForDevice sys d fuel targetHost portSpec vpnService).2 = .error .numberFormat ∧
      (s.SameForwards (s.startForDevice sys d fuel targetHost portSpec vpnService).1 ↔
        s.activeForwards targetHost = none) := by
  rw [startForDevice, h]
  exact ⟨rfl, sameForwards_stopForDevice_iff⟩

def exampleSystem : System Unit Unit := ⟨fun _ => none, fun _ => true, fun _ => true⟩

def exampleHost : Text := "10.92.246.91".toList

/-- Nothing was forwarded before. -/
theorem startForDevice_rejected_idle :
    let s : PortForwarder Unit Unit := ⟨fun _ => none, none, none, 0, fun _ => false⟩
    parsePorts .asciiOnly 65536 (some (specText [serviceItem])) = .error .numberFormat ∧
      s.SameForwards (s.startForDevice exampleSystem .asciiOnly 65536 exampleHost
        (some (specText [serviceItem])) none).1 :=
  ⟨parsePorts_serviceItem .asciiOnly le_rfl,
    (startForDevice_rejected exampleSystem (parsePorts_serviceItem .asciiOnly le_rfl) _ _ _).2.mpr
      rfl⟩

/-- The host had a forward; it is stopped, and its socket closed. -/
theorem startForDevice_rejected_active :
    let s : PortForwarder Unit Unit :=
      ⟨fun host => if host = exampleHost then some [0] else none, none, none, 1, fun _ => true⟩
    let r := s.startForDevice exampleSystem .asciiOnly 65536 exampleHost
      (some (specText [serviceItem])) none
    r.2 = .error .numberFormat ∧ s.activeForwards exampleHost = some [0] ∧ s.isOpen 0 = true ∧
      r.1.activeForwards exampleHost = none ∧ r.1.isOpen 0 = false := by
  intro s r
  have hr : r = ({ s.stopForDevice exampleSystem exampleHost with
      vpn := none
      tetherNet := none }, .error .numberFormat) := by
    simp only [r, startForDevice, parsePorts_serviceItem .asciiOnly le_rfl]
    rfl
  rw [hr]
  exact ⟨rfl, rfl, rfl, rfl, rfl⟩

end PortForwarder

end XnetZt
