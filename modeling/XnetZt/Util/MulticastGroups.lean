import XnetZt.Lib.Java
import XnetZt.Lib.Text

/-!
# Multicast groups of an interface

`listMulticastGroupOnInterface` looks for a line with the name of the interface in its second
field and takes the second fields of the indented lines that follow. That is the layout of
`/proc/net/igmp`, where it goes wrong only for a name that the kernel does not separate from
the colon or that stands in the second field of another line. In `/proc/net/igmp6` no line is
indented, so there it never finds a group.
-/

namespace XnetZt

open Text

namespace NetworkInfoUtils

/-- One round of the loop: `foundTargetInterface` and `groups`. -/
def step (interfaceName : Text) (s : Bool × List Text) (line : Text) :
    Except JavaException (Bool × List Text) :=
  let row := splitSpaces line
  if s.1 = false then return (row[1]? = some interfaceName, s.2)
  else if row[0]? = some [] then
    match row[1]? with
    | some group => return (true, s.2 ++ [group])
    | none => .error .arrayIndexOutOfBounds
  else return (false, s.2)

/-- With the lines of the file up to its end or to an `IOException`, or no file. -/
def listMulticastGroupOnInterface (interfaceName : Text) (igmpInfo : Option (List Text)) :
    Except JavaException (List Text) := do
  match igmpInfo with
  | none => return []
  | some lines =>
    let (_, groups) ← lines.foldlM (step interfaceName) (false, [])
    return groups

/-! ### Kernel listings -/

structure Word where
  text : Text
  nonempty : text ≠ []
  noSpace : ∀ c ∈ text, isSpace c = false

structure Spaces where
  text : Text
  nonempty : text ≠ []
  isSpace : ∀ c ∈ text, isSpace c = true

structure InterfaceName extends Word where
  noColon : ':' ∉ text

/-- Empty, or the field before it has come to its end. -/
def Ends (tail : Text) : Prop := tail.takeWhile (!isSpace ·) = []

structure GroupLine where
  indent : Spaces
  group : Word
  tail : Text
  ends : Ends tail

def GroupLine.text (g : GroupLine) : Text := [] ++ g.indent.text ++ (g.group.text ++ g.tail)

/-- The kernel pads the name to ten characters, so a longer one is followed by the colon. -/
structure Interface where
  index : Word
  sep : Spaces
  name : InterfaceName
  gap : Text
  isGap : ∀ c ∈ gap, isSpace c = true
  padded : gap ≠ [] ∨ 10 ≤ name.text.length
  rest : Text
  groups : List GroupLine

namespace Interface

def text (i : Interface) : Text :=
  i.index.text ++ i.sep.text ++ (i.name.text ++ (i.gap ++ ':' :: i.rest))

def lines (i : Interface) : List Text := i.text :: i.groups.map GroupLine.text

def groupTexts (i : Interface) : List Text := i.groups.map (·.group.text)

end Interface

/-- `/proc/net/igmp` -/
structure Igmp where
  interfaces : List Interface
  nodup : (interfaces.map (·.name.text)).Nodup

def igmpHeader : Text :=
  "Idx".toList ++ ['\t'] ++ ("Device".toList ++
    "    : Count Querier\tGroup    Users Timer\tReporter".toList)

def Igmp.lines (l : Igmp) : List Text := igmpHeader :: l.interfaces.flatMap Interface.lines

/-- The groups of one interface, in the order of the file. -/
def groupsOf (name : Text) (interfaces : List Interface) : List Text :=
  (interfaces.filter (·.name.text = name)).flatMap Interface.groupTexts

/-- The texts after the first one that is the name. -/
def following (name : Text) (texts : List Text) : List Text := (texts.dropWhile (· ≠ name)).tail

/-- A line of `/proc/net/igmp6` -/
structure Igmp6Line where
  index : Word
  sep : Spaces
  name : InterfaceName
  gap : Spaces
  group : Word
  tail : Text
  ends : Ends tail

def Igmp6Line.text (l : Igmp6Line) : Text :=
  l.index.text ++ l.sep.text ++ (l.name.text ++ (l.gap.text ++ (l.group.text ++ l.tail)))

def groupsOf6 (name : Text) (lines : List Igmp6Line) : List Text :=
  (lines.filter (·.name.text = name)).map (·.group.text)

/-! ### The fields of a line -/

/-- The first field starts the line, or spaces do and it is empty. -/
theorem Word.dropWhile_append (w : Word) (tail : Text) :
    (w.text ++ tail).dropWhile isSpace = w.text ++ tail := by
  obtain ⟨c, rest, htext⟩ := List.exists_cons_of_ne_nil w.nonempty
  have hc : ¬ isSpace c = true := by simp [w.noSpace c (htext ▸ List.mem_cons_self)]
  rw [htext, List.cons_append, List.dropWhile_cons_of_neg hc]

theorem Word.takeWhile_append (w : Word) (tail : Text) :
    (w.text ++ tail).takeWhile (!isSpace ·) = w.text ++ tail.takeWhile (!isSpace ·) :=
  List.takeWhile_append_of_pos fun c hc => by simp [w.noSpace c hc]

/-- The first two fields of a line. -/
theorem exists_row {first : Text} (hfirst : ∀ c ∈ first, isSpace c = false) (sep : Spaces)
    (second : Word) (tail : Text) :
    ∃ parts, splitSpaces (first ++ sep.text ++ (second.text ++ tail)) =
      first :: (second.text ++ tail.takeWhile (!isSpace ·)) :: parts := by
  rw [← second.takeWhile_append]
  exact exists_splitSpaces_append hfirst sep.nonempty sep.isSpace (second.dropWhile_append tail)

theorem noSpace_nil : ∀ c ∈ ([] : Text), isSpace c = false := by simp

section Step

variable {name : Text} {groups : List Text}

/-- Before the interface is found, the second field is compared with its name. -/
theorem step_searching {first : Text} (hfirst : ∀ c ∈ first, isSpace c = false) (sep : Spaces)
    (second : Word) (tail : Text) :
    step name (false, groups) (first ++ sep.text ++ (second.text ++ tail)) =
      .ok (second.text ++ tail.takeWhile (!isSpace ·) = name, groups) := by
  obtain ⟨parts, hrow⟩ := exists_row hfirst sep second tail
  rw [step, hrow]
  simp

/-- A line that is not indented ends the groups of the interface, whatever it says. -/
theorem step_end (first : Word) (sep : Spaces) (second : Word) (tail : Text) :
    step name (true, groups) (first.text ++ sep.text ++ (second.text ++ tail)) =
      .ok (false, groups) := by
  obtain ⟨parts, hrow⟩ := exists_row first.noSpace sep second tail
  rw [step, hrow]
  simp [first.nonempty]

theorem step_group (g : GroupLine) :
    step name (true, groups) g.text = .ok (true, groups ++ [g.group.text]) := by
  obtain ⟨parts, hrow⟩ := exists_row noSpace_nil g.indent g.group g.tail
  rw [g.ends, List.append_nil] at hrow
  rw [step, GroupLine.text, hrow]
  simp

theorem step_group_searching (g : GroupLine) :
    step name (false, groups) g.text = .ok (g.group.text = name, groups) := by
  rw [GroupLine.text, step_searching noSpace_nil, g.ends, List.append_nil]

theorem foldlM_groups (gs : List GroupLine) :
    (gs.map GroupLine.text).foldlM (step name) (true, groups) =
      .ok (true, groups ++ gs.map (·.group.text)) := by
  induction gs generalizing groups with
  | nil => simp
  | cons g gs ih =>
    rw [List.map_cons, List.foldlM_cons, step_group, ok_bind, ih]
    simp

/-- A group that reads as the name is taken for the line of the interface. -/
theorem foldlM_groups_searching (gs : List GroupLine) :
    (gs.map GroupLine.text).foldlM (step name) (false, groups) =
      .ok (name ∈ gs.map (·.group.text), groups ++ following name (gs.map (·.group.text))) := by
  induction gs with
  | nil => simp [following, pure, Except.pure]
  | cons g gs ih =>
    rw [List.map_cons, List.foldlM_cons, step_group_searching, ok_bind]
    by_cases hg : g.group.text = name
    · rw [decide_eq_true hg, foldlM_groups]
      simp [following, hg]
    · rw [decide_eq_false hg, ih]
      simp [following, hg, Ne.symm hg]

end Step

/-! ### `/proc/net/igmp` -/

namespace Interface

/-- The second field of the line of an interface. -/
def field (i : Interface) : Text := i.name.text ++ (i.gap ++ ':' :: i.rest).takeWhile (!isSpace ·)

/-- It is a name without a colon only if it ends before the colon. -/
theorem field_eq_iff (i : Interface) (name : InterfaceName) :
    i.field = name.text ↔ i.name.text = name.text ∧ i.gap ≠ [] := by
  cases hgap : i.gap with
  | nil =>
    have hcolon : isSpace ':' = false := by decide
    refine iff_of_false (fun h => name.noColon ?_) (by simp)
    rw [← h, field, hgap]
    simp [hcolon]
  | cons c gap =>
    have hc : isSpace c = true := i.isGap c (hgap ▸ List.mem_cons_self)
    rw [field, hgap]
    simp [hc]

theorem step_text (i : Interface) (name : InterfaceName) (groups : List Text) :
    step name.text (false, groups) i.text = .ok (i.field = name.text, groups) :=
  step_searching i.index.noSpace i.sep i.name.toWord _

variable {i : Interface} {name : InterfaceName} {groups : List Text}

/-- Another interface, in front of the one that is looked for or behind it. -/
theorem foldlM_lines_other (found : Bool) (hname : i.name.text ≠ name.text) :
    i.lines.foldlM (step name.text) (found, groups) =
      .ok (name.text ∈ i.groupTexts, groups ++ following name.text i.groupTexts) := by
  have hfirst : step name.text (found, groups) i.text = .ok (false, groups) := by
    cases found with
    | false =>
      rw [step_text, decide_eq_false fun h => hname ((i.field_eq_iff name).mp h).1]
    | true => exact step_end i.index i.sep i.name.toWord _
  rw [lines, List.foldlM_cons, hfirst, ok_bind, foldlM_groups_searching]
  rfl

/-- The interface itself. Right after a second field with its name its line is not read. -/
theorem foldlM_lines_self (found : Bool) (groups : List Text) (hname : i.name.text = name.text) :
    ∃ found', i.lines.foldlM (step name.text) (found, groups) = .ok (found', groups ++
      if found = false ∧ i.gap ≠ [] then i.groupTexts else following name.text i.groupTexts) := by
  rw [lines, List.foldlM_cons]
  cases found with
  | true =>
    have hend : step name.text (true, groups) i.text = .ok (false, groups) :=
      step_end i.index i.sep i.name.toWord _
    rw [hend, ok_bind, foldlM_groups_searching, if_neg (by simp)]
    exact ⟨_, rfl⟩
  | false =>
    rw [step_text, ok_bind]
    by_cases hgap : i.gap ≠ []
    · rw [decide_eq_true ((i.field_eq_iff name).mpr ⟨hname, hgap⟩), foldlM_groups,
        if_pos ⟨rfl, hgap⟩]
      exact ⟨_, rfl⟩
    · rw [decide_eq_false fun h => hgap ((i.field_eq_iff name).mp h).2, foldlM_groups_searching,
        if_neg fun h => hgap h.2]
      exact ⟨_, rfl⟩

end Interface

/-- The second fields that are compared with the name right before the next interface: those of
the groups of the last one, or that of the header. -/
def fieldsBefore (interfaces : List Interface) : List Text :=
  interfaces.getLast?.elim ["Device".toList] Interface.groupTexts

/-- The texts that are taken for groups of the interface wherever it is not found. -/
def strays (name : Text) (interfaces : List Interface) : List Text :=
  interfaces.flatMap fun i => following name i.groupTexts

/-- Interfaces with other names, after some that have been read. -/
theorem foldlM_interfaces {name : InterfaceName} {interfaces : List Interface}
    (h : ∀ i ∈ interfaces, i.name.text ≠ name.text) (found : Bool) (groups : List Text) :
    (interfaces.flatMap Interface.lines).foldlM (step name.text) (found, groups) =
      .ok (interfaces.getLast?.elim found fun i => name.text ∈ i.groupTexts,
        groups ++ strays name.text interfaces) := by
  induction interfaces generalizing found groups with
  | nil => simp [strays, pure, Except.pure]
  | cons i interfaces ih =>
    obtain ⟨hi, hrest⟩ := List.forall_mem_cons.mp h
    rw [List.flatMap_cons, List.foldlM_append, Interface.foldlM_lines_other found hi, ok_bind,
      ih hrest, strays, strays, List.flatMap_cons, List.append_assoc, List.getLast?_cons]
    cases interfaces.getLast? <;> rfl

theorem noSpace_of_all {text : Text} (h : text.all (!isSpace ·) = true) :
    ∀ c ∈ text, isSpace c = false := by
  intro c hc
  simpa using List.all_eq_true.mp h c hc

def tab : Spaces := ⟨['\t'], by decide, List.all_eq_true.mp rfl⟩

def deviceWord : Word := ⟨"Device".toList, by decide, noSpace_of_all rfl⟩

/-- The second field of the header. -/
theorem step_igmpHeader (name : Text) (groups : List Text) :
    step name (false, groups) igmpHeader = .ok ("Device".toList = name, groups) := by
  have hfirst : ∀ c ∈ "Idx".toList, isSpace c = false := noSpace_of_all rfl
  exact step_searching hfirst tab deviceWord
    "    : Count Querier\tGroup    Users Timer\tReporter".toList

def Igmp.Lists (l : Igmp) (name : Text) : Prop :=
  listMulticastGroupOnInterface name (some l.lines) = .ok (groupsOf name l.interfaces)

/-- The line of the interface is read as such: the name is separated from the colon, and is in
no second field right before it. -/
def Igmp.Finds (l : Igmp) (name : Text) : Prop :=
  ∃ before i after, l.interfaces = before ++ i :: after ∧ i.name.text = name ∧ i.gap ≠ [] ∧
    name ∉ fieldsBefore before

section Igmp

variable {name : InterfaceName} {l : Igmp} {before after : List Interface} {i : Interface}

theorem list_igmp {b : Bool} {result : List Text}
    (h : (l.interfaces.flatMap Interface.lines).foldlM (step name.text)
      (decide ("Device".toList = name.text), []) = .ok (b, result)) :
    listMulticastGroupOnInterface name.text (some l.lines) = .ok result := by
  rw [listMulticastGroupOnInterface, Igmp.lines, List.foldlM_cons, step_igmpHeader, ok_bind, h]
  rfl

/-- The result on a listing without the interface. -/
theorem list_igmp_of_absent (h : ∀ i ∈ l.interfaces, i.name.text ≠ name.text) :
    listMulticastGroupOnInterface name.text (some l.lines) =
      .ok (strays name.text l.interfaces) := by
  exact list_igmp (foldlM_interfaces h _ [])

/-- The result on a listing with it. -/
theorem list_igmp_of_present (hl : l.interfaces = before ++ i :: after)
    (hname : i.name.text = name.text) (hbefore : ∀ j ∈ before, j.name.text ≠ name.text)
    (hafter : ∀ j ∈ after, j.name.text ≠ name.text) :
    listMulticastGroupOnInterface name.text (some l.lines) = .ok (strays name.text before ++
      ((if name.text ∉ fieldsBefore before ∧ i.gap ≠ [] then i.groupTexts
        else following name.text i.groupTexts) ++ strays name.text after)) := by
  have hfound : (before.getLast?.elim (decide ("Device".toList = name.text)) fun j =>
      decide (name.text ∈ j.groupTexts)) = decide (name.text ∈ fieldsBefore before) := by
    rw [fieldsBefore]
    cases before.getLast? with
    | none => simp [eq_comm]
    | some j => rfl
  obtain ⟨found, hself⟩ := Interface.foldlM_lines_self
    (decide (name.text ∈ fieldsBefore before)) (strays name.text before) hname
  refine list_igmp (b := after.getLast?.elim found fun j => name.text ∈ j.groupTexts) ?_
  rw [hl, List.flatMap_append, List.flatMap_cons, List.foldlM_append, foldlM_interfaces hbefore,
    ok_bind, hfound, List.nil_append, List.foldlM_append, hself, ok_bind,
    foldlM_interfaces hafter, List.append_assoc]
  simp only [decide_eq_false_iff_not]

/-- Names occur once, so the groups of an interface are those of one block. -/
theorem Igmp.split_nodup (hl : l.interfaces = before ++ i :: after)
    (hname : i.name.text = name.text) :
    (∀ j ∈ before, j.name.text ≠ name.text) ∧ (∀ j ∈ after, j.name.text ≠ name.text) ∧
      groupsOf name.text l.interfaces = i.groupTexts := by
  have hnodup := l.nodup
  rw [hl, List.map_append, List.map_cons] at hnodup
  obtain ⟨-, hrest, hdisjoint⟩ := List.nodup_append.mp hnodup
  have hbefore : ∀ j ∈ before, j.name.text ≠ name.text := by
    intro j hj heq
    exact hdisjoint _ (List.mem_map_of_mem hj) _ List.mem_cons_self (heq.trans hname.symm)
  have hafter : ∀ j ∈ after, j.name.text ≠ name.text := by
    intro j hj heq
    exact (List.nodup_cons.mp hrest).1 (List.mem_map.mpr ⟨j, hj, heq.trans hname.symm⟩)
  refine ⟨hbefore, hafter, ?_⟩
  have hnone : ∀ js : List Interface, (∀ j ∈ js, j.name.text ≠ name.text) →
      js.filter (·.name.text = name.text) = [] := by
    intro js hjs
    simpa using hjs
  rw [groupsOf, hl, List.filter_append, hnone before hbefore, List.nil_append,
    List.filter_cons_of_pos (by simpa using hname), hnone after hafter, List.flatMap_singleton]

/-- Where the line of the interface is read, its groups are taken, and they are all unless some
stray in from another interface. -/
theorem Igmp.Finds.lists_iff_forall (h : l.Finds name.text) :
    l.Lists name.text ↔ ∀ i ∈ l.interfaces, i.name.text ≠ name.text →
      following name.text i.groupTexts = [] := by
  obtain ⟨before, i, after, hl, hname, hgap, hfields⟩ := h
  obtain ⟨hbefore, hafter, hgroups⟩ := Igmp.split_nodup hl hname
  have hmem : (∀ j ∈ l.interfaces, j.name.text ≠ name.text →
      following name.text j.groupTexts = []) ↔
      strays name.text before = [] ∧ strays name.text after = [] := by
    simp only [strays, List.flatMap_eq_nil_iff, hl, List.forall_mem_append, List.forall_mem_cons]
    constructor
    · rintro ⟨hb, -, ha⟩
      exact ⟨fun j hj => hb j hj (hbefore j hj), fun j hj => ha j hj (hafter j hj)⟩
    · rintro ⟨hb, ha⟩
      exact ⟨fun j hj _ => hb j hj, fun hne => absurd hname hne, fun j hj _ => ha j hj⟩
  rw [Igmp.Lists, list_igmp_of_present hl hname hbefore hafter, if_pos ⟨hfields, hgap⟩, hgroups,
    hmem, Except.ok.injEq]
  constructor
  · intro heq
    have hlength := congrArg List.length heq
    simp only [List.length_append] at hlength
    exact ⟨List.length_eq_zero_iff.mp (by omega), List.length_eq_zero_iff.mp (by omega)⟩
  · rintro ⟨hb, ha⟩
    rw [hb, ha, List.nil_append, List.append_nil]

/-- Where it is not read, only what strays in can make up for its groups. -/
theorem Igmp.lists_iff_of_not_finds (h : ¬ l.Finds name.text) :
    l.Lists name.text ↔
      strays name.text l.interfaces = groupsOf name.text l.interfaces := by
  have hrun : listMulticastGroupOnInterface name.text (some l.lines) =
      .ok (strays name.text l.interfaces) := by
    by_cases hpresent : ∃ i ∈ l.interfaces, i.name.text = name.text
    · obtain ⟨i, hi, hname⟩ := hpresent
      obtain ⟨before, after, hl⟩ := List.append_of_mem hi
      obtain ⟨hbefore, hafter, -⟩ := Igmp.split_nodup hl hname
      have hmissed : ¬ (name.text ∉ fieldsBefore before ∧ i.gap ≠ []) := by
        rintro ⟨hfields, hgap⟩
        exact h ⟨before, i, after, hl, hname, hgap, hfields⟩
      rw [list_igmp_of_present hl hname hbefore hafter, if_neg hmissed, hl]
      simp [strays]
    · push Not at hpresent
      exact list_igmp_of_absent hpresent
  rw [Igmp.Lists, hrun, Except.ok.injEq]

theorem following_of_notMem {texts : List Text} (h : name.text ∉ texts) :
    following name.text texts = [] := by
  have hall : ∀ text ∈ texts, decide (text ≠ name.text) = true := by
    intro text htext
    have hne : text ≠ name.text := fun heq => h (heq ▸ htext)
    simpa using hne
  rw [following, List.dropWhile_eq_nil_iff.mpr hall, List.tail_nil]

end Igmp

/-- The name stands in the second field of its own line, and in that of no other line the
code looks at. -/
structure Distinct (name : Text) (interfaces : List Interface) : Prop where
  header : name ≠ "Device".toList
  separated : ∀ i ∈ interfaces, i.name.text = name → i.gap ≠ []
  groups : ∀ i ∈ interfaces, i.name.text ≠ name → ∀ g ∈ i.groups, g.group.text ≠ name

/-- The groups of the interface, in the layout of `/proc/net/igmp`. -/
theorem listMulticastGroupOnInterface_igmp (name : InterfaceName) (l : Igmp)
    (h : Distinct name.text l.interfaces) : l.Lists name.text := by
  have hother : ∀ i ∈ l.interfaces, i.name.text ≠ name.text → name.text ∉ i.groupTexts := by
    intro i hi hname hmem
    obtain ⟨g, hg, heq⟩ := List.mem_map.mp hmem
    exact h.groups i hi hname g hg heq
  by_cases hpresent : ∃ i ∈ l.interfaces, i.name.text = name.text
  · obtain ⟨i, hi, hname⟩ := hpresent
    obtain ⟨before, after, hl⟩ := List.append_of_mem hi
    obtain ⟨hbefore, -⟩ := Igmp.split_nodup hl hname
    have hfields : name.text ∉ fieldsBefore before := by
      rw [fieldsBefore]
      cases hlast : before.getLast? with
      | none => simpa using h.header
      | some j =>
        have hj := List.mem_of_getLast? hlast
        exact hother j (hl ▸ List.mem_append_left _ hj) (hbefore j hj)
    have hfinds : l.Finds name.text :=
      ⟨before, i, after, hl, hname, h.separated i hi hname, hfields⟩
    exact hfinds.lists_iff_forall.mpr fun j hj hne => following_of_notMem (hother j hj hne)
  · push Not at hpresent
    have hnone : ¬ l.Finds name.text := by
      rintro ⟨before, i, after, hl, hname, -⟩
      exact hpresent i (by rw [hl]; simp) hname
    have hempty : groupsOf name.text l.interfaces = [] := by
      rw [groupsOf, List.filter_eq_nil_iff.mpr (by simpa using hpresent), List.flatMap_nil]
    rw [Igmp.lists_iff_of_not_finds hnone, hempty, strays, List.flatMap_eq_nil_iff]
    exact fun j hj => following_of_notMem (hother j hj (hpresent j hj))

/-! ### `/proc/net/igmp6` -/

theorem step_igmp6 (name : Text) (found : Bool) (groups : List Text) (l : Igmp6Line) :
    ∃ found', step name (found, groups) l.text = .ok (found', groups) := by
  cases found with
  | false => exact ⟨_, step_searching l.index.noSpace l.sep l.name.toWord _⟩
  | true => exact ⟨_, step_end l.index l.sep l.name.toWord _⟩

/-- No line is indented, so no group is found. -/
theorem listMulticastGroupOnInterface_igmp6 (name : Text) (lines : List Igmp6Line) :
    listMulticastGroupOnInterface name (some (lines.map Igmp6Line.text)) = .ok [] := by
  have hrun : ∀ found, ∃ found',
      (lines.map Igmp6Line.text).foldlM (step name) (found, []) = .ok (found', []) := by
    induction lines with
    | nil => exact fun found => ⟨found, rfl⟩
    | cons l lines ih =>
      intro found
      obtain ⟨found₁, hstep⟩ := step_igmp6 name found [] l
      rw [List.map_cons, List.foldlM_cons, hstep, ok_bind]
      exact ih found₁
  obtain ⟨found', hrun⟩ := hrun false
  rw [listMulticastGroupOnInterface, hrun]
  rfl

/-! ### For which names the groups are found -/

/-- A group as the kernel writes it. -/
def IsHexGroup (text : Text) : Prop :=
  text.length = 8 ∧ text.all (· ∈ "0123456789ABCDEF".toList)

def Igmp.HexGroups (l : Igmp) : Prop :=
  ∀ i ∈ l.interfaces, ∀ g ∈ i.groups, IsHexGroup g.group.text

/-- The only interface of a listing. -/
def Igmp.only (i : Interface) : Igmp := ⟨[i], List.nodup_singleton _⟩

theorem finds_only {i : Interface} {name : Text} (h : (Igmp.only i).Finds name) :
    i.name.text = name ∧ i.gap ≠ [] ∧ name ≠ "Device".toList := by
  obtain ⟨before, j, after, hl, hname, hgap, hfields⟩ := h
  obtain ⟨rfl, hj⟩ : before = [] ∧ [j] ++ after = [i] := by
    have hlength := congrArg List.length hl
    simp only [Igmp.only, List.length_append, List.length_cons, List.length_nil] at hlength
    have hnil : before = [] := List.length_eq_zero_iff.mp (by omega)
    subst hnil
    exact ⟨rfl, hl.symm⟩
  obtain ⟨rfl, -⟩ := List.cons.inj hj
  exact ⟨hname, hgap, by simpa [fieldsBefore] using hfields⟩

theorem groupsOf_only {i : Interface} {name : Text} :
    groupsOf name (Igmp.only i).interfaces = if i.name.text = name then i.groupTexts else [] := by
  by_cases h : i.name.text = name <;> simp [groupsOf, Igmp.only, h]

section Only

variable {name : InterfaceName} {i : Interface}

/-- The groups of an interface whose line is not read are not found. -/
theorem not_lists_of_not_finds (hname : i.name.text = name.text)
    (hfinds : ¬ (Igmp.only i).Finds name.text) (hgroups : name.text ∉ i.groupTexts)
    (hne : i.groupTexts ≠ []) : ¬ (Igmp.only i).Lists name.text := by
  rw [Igmp.lists_iff_of_not_finds hfinds, groupsOf_only, if_pos hname, strays, Igmp.only,
    List.flatMap_singleton, following_of_notMem hgroups]
  exact hne.symm

/-- A group of another interface is taken for the interface, and what follows for its groups. -/
theorem not_lists_of_group (hname : i.name.text ≠ name.text) {texts : List Text}
    (hgroups : i.groupTexts = name.text :: texts) (hne : texts ≠ []) :
    ¬ (Igmp.only i).Lists name.text := by
  have hfinds : ¬ (Igmp.only i).Finds name.text := fun h => hname (finds_only h).1
  rw [Igmp.lists_iff_of_not_finds hfinds, groupsOf_only, if_neg hname, strays, Igmp.only,
    List.flatMap_singleton, hgroups]
  simpa [following] using hne

end Only

/-- The line of an interface with the given groups. -/
def listed (name : InterfaceName) (gap : Text) (isGap : ∀ c ∈ gap, isSpace c = true)
    (padded : gap ≠ [] ∨ 10 ≤ name.text.length) (groups : List GroupLine) : Interface :=
  ⟨⟨['1'], by decide, noSpace_of_all rfl⟩, tab, name, gap, isGap, padded,
    "     1      V3".toList, groups⟩

def groupLine (group : Word) : GroupLine := ⟨tab, group, [], rfl⟩

/-- The group `224.0.0.1` of all hosts. -/
def allHosts : Word := ⟨"010000E0".toList, by decide, noSpace_of_all rfl⟩

theorem isHexGroup_allHosts : IsHexGroup allHosts.text := ⟨by decide, by decide⟩

def loopback : InterfaceName where
  text := "lo".toList
  nonempty := by decide
  noSpace := noSpace_of_all rfl
  noColon := by decide

theorem ne_of_length_ne {text text' : Text} (h : text.length ≠ text'.length) : text ≠ text' :=
  fun heq => h (congrArg List.length heq)

/-- For every name that another second field can have, a listing in which the groups of the
interface are not found. -/
theorem exists_not_lists (name : InterfaceName)
    (h : 10 ≤ name.text.length ∨ "Device".toList = name.text ∨ IsHexGroup name.text) :
    ∃ l : Igmp, l.HexGroups ∧ ¬ l.Lists name.text := by
  have hall : ∀ g ∈ [groupLine allHosts], IsHexGroup g.group.text :=
    List.forall_mem_singleton.mpr isHexGroup_allHosts
  have hlength : allHosts.text.length = 8 := by decide
  have hdevice : "Device".toList.length = 6 := by decide
  rcases h with hlong | heq | hhex
  · have hgroup : allHosts.text ≠ name.text := ne_of_length_ne (by omega)
    refine ⟨.only (listed name [] (by simp) (Or.inr hlong) [groupLine allHosts]),
      List.forall_mem_singleton.mpr hall, ?_⟩
    refine not_lists_of_not_finds rfl (fun h => (finds_only h).2.1 rfl) ?_ (List.cons_ne_nil _ _)
    exact fun hmem => hgroup (List.mem_singleton.mp hmem).symm
  · have hgroup : allHosts.text ≠ name.text := by
      rw [← heq]
      exact ne_of_length_ne (by omega)
    refine ⟨.only (listed name [' '] (List.all_eq_true.mp rfl) (Or.inl (by simp))
      [groupLine allHosts]), List.forall_mem_singleton.mpr hall, ?_⟩
    refine not_lists_of_not_finds rfl (fun h => (finds_only h).2.2 heq.symm) ?_
      (List.cons_ne_nil _ _)
    exact fun hmem => hgroup (List.mem_singleton.mp hmem).symm
  · have hloopback : loopback.text ≠ name.text := ne_of_length_ne (by rw [hhex.1]; decide)
    exact ⟨.only (listed loopback [' '] (List.all_eq_true.mp rfl) (Or.inl (by simp))
        [groupLine name.toWord, groupLine allHosts]),
      List.forall_mem_singleton.mpr (List.forall_mem_cons.mpr ⟨hhex, hall⟩),
      not_lists_of_group hloopback rfl (List.cons_ne_nil _ _)⟩

/-- A short name that is in no second field by its form is in none of a listing. -/
theorem distinct_of_hexGroups {name : InterfaceName} {l : Igmp} (hl : l.HexGroups)
    (hshort : name.text.length < 10) (hdevice : name.text ≠ "Device".toList)
    (hgroup : ¬ IsHexGroup name.text) : Distinct name.text l.interfaces where
  header := hdevice
  separated i _ hname := i.padded.resolve_right (by rw [hname]; omega)
  groups i hi _ g hg heq := hgroup (heq ▸ hl i hi g hg)

/-- When the groups of an interface are listed: in the layout for IPv6 only if there are none.
In that for IPv4, if the line of the interface is read, unless another interface has a group
that reads as the name with further groups behind it, and if it is not, only if the groups
that stray in are just those that are missing. For a name that is in no second field by its
form the groups are always listed. -/
theorem lists_iff (name : InterfaceName) :
    (∀ lines : List Igmp6Line,
      listMulticastGroupOnInterface name.text (some (lines.map Igmp6Line.text)) =
        .ok (groupsOf6 name.text lines) ↔ groupsOf6 name.text lines = []) ∧
    (∀ l : Igmp, Distinct name.text l.interfaces → l.Lists name.text) ∧
    (∀ l : Igmp, l.Finds name.text → (l.Lists name.text ↔
      ∀ i ∈ l.interfaces, i.name.text ≠ name.text → following name.text i.groupTexts = [])) ∧
    (∀ l : Igmp, ¬ l.Finds name.text → (l.Lists name.text ↔
      strays name.text l.interfaces = groupsOf name.text l.interfaces)) ∧
    ((∀ l : Igmp, l.HexGroups → l.Lists name.text) ↔
      name.text.length < 10 ∧ name.text ≠ "Device".toList ∧ ¬ IsHexGroup name.text) := by
  refine ⟨fun lines => ?_, fun l => listMulticastGroupOnInterface_igmp name l,
    fun l h => h.lists_iff_forall, fun l h => Igmp.lists_iff_of_not_finds h, fun h => ?_, ?_⟩
  · rw [listMulticastGroupOnInterface_igmp6]
    exact ⟨fun h => (Except.ok.inj h).symm, fun h => congrArg Except.ok h.symm⟩
  · by_contra hname
    have hbad : 10 ≤ name.text.length ∨ "Device".toList = name.text ∨ IsHexGroup name.text := by
      by_contra hnone
      push Not at hnone
      exact hname ⟨hnone.1, hnone.2.1.symm, hnone.2.2⟩
    obtain ⟨l, hl, hnot⟩ := exists_not_lists name hbad
    exact hnot (h l hl)
  · rintro ⟨hshort, hdevice, hgroup⟩ l hl
    exact listMulticastGroupOnInterface_igmp name l (distinct_of_hexGroups hl hshort hdevice hgroup)

/-- A line for the group `ff02::1`. -/
def wlanLine : Igmp6Line where
  index := ⟨"30".toList, by decide, noSpace_of_all rfl⟩
  sep := ⟨"   ".toList, by decide, List.all_eq_true.mp rfl⟩
  name := ⟨⟨"wlan0".toList, by decide, noSpace_of_all rfl⟩, by decide⟩
  gap := ⟨"           ".toList, by decide, List.all_eq_true.mp rfl⟩
  group := ⟨"ff020000000000000000000000000001".toList, by decide, noSpace_of_all rfl⟩
  tail := "     1 0000000C 0".toList
  ends := rfl

theorem listMulticastGroupOnInterface_wlanLine :
    listMulticastGroupOnInterface "wlan0".toList (some [wlanLine.text]) = .ok [] ∧
      groupsOf6 "wlan0".toList [wlanLine] = ["ff020000000000000000000000000001".toList] :=
  ⟨listMulticastGroupOnInterface_igmp6 _ [wlanLine], rfl⟩

end NetworkInfoUtils

end XnetZt
