import Mathlib.Data.List.Basic
import Mathlib.Logic.Function.Basic
import Mathlib.Tactic

/-!
# Tables, rows and the statements that change them

A database maps table names to tables. A table lists its columns and its rows; a row
assigns a value to each column, and nothing to any other name. The statements are those
of SQL that a schema migration uses, each with the errors it can raise. Besides what a
statement does to one table there are two notions for whole migrations: the schema a
database has, up to the order of columns, and the function by which rows have changed.
-/

namespace XnetZt.Relational

variable {τ κ ν : Type*}

/-- `none` is `NULL`. -/
abbrev Row (κ ν : Type*) := κ → Option ν

structure Column (κ : Type*) where
  name : κ
  notNull : Bool
  deriving DecidableEq

/-- A table whose rows have values in its columns only, and in those that must have one. -/
structure Table (κ ν : Type*) where
  columns : List (Column κ)
  rows : List (Row κ ν)
  absent : ∀ row ∈ rows, ∀ c, (∀ column ∈ columns, column.name ≠ c) → row c = none
  present : ∀ row ∈ rows, ∀ column ∈ columns, column.notNull = true → row column.name ≠ none

abbrev Database (τ κ ν : Type*) := τ → Option (Table κ ν)

inductive SQLError
  | noSuchTable
  | noSuchColumn
  | tableExists
  | duplicateColumnName
  | notNullWithoutDefault
  deriving DecidableEq

namespace Table

def Has (T : Table κ ν) (c : κ) : Prop := ∃ column ∈ T.columns, column.name = c

variable [DecidableEq κ]

instance (T : Table κ ν) (c : κ) : Decidable (T.Has c) :=
  inferInstanceAs (Decidable (∃ column ∈ T.columns, column.name = c))

def empty (columns : List (Column κ)) : Table κ ν where
  columns := columns
  rows := []
  absent := by simp
  present := by simp

/-- The new column comes last and has its default in every row. -/
def addColumn (T : Table κ ν) (column : Column κ) (default : Option ν) (hnew : ¬ T.Has column.name)
    (hnull : ¬ (column.notNull = true ∧ default = none)) : Table κ ν where
  columns := T.columns ++ [column]
  rows := T.rows.map fun row => Function.update row column.name default
  absent := by
    intro row' hrow' c hc
    obtain ⟨row, hrow, rfl⟩ := List.mem_map.mp hrow'
    have hne : c ≠ column.name := fun h => hc column (by simp) h.symm
    rw [Function.update_of_ne hne]
    exact T.absent row hrow c fun other hother => hc other (by simp [hother])
  present := by
    intro row' hrow' other hother hn
    obtain ⟨row, hrow, rfl⟩ := List.mem_map.mp hrow'
    rcases List.mem_append.mp hother with hother | hother
    · have hne : other.name ≠ column.name := fun h => hnew ⟨other, hother, h⟩
      rw [Function.update_of_ne hne]
      exact T.present row hrow other hother hn
    · obtain rfl := List.mem_singleton.mp hother
      rw [Function.update_self]
      exact fun h => hnull ⟨hn, h⟩

/-- `SET c = v WHERE w = x` -/
def setWhere [DecidableEq ν] (T : Table κ ν) (c : κ) (v : ν) (w : κ) (x : ν) (hc : T.Has c) :
    Table κ ν where
  columns := T.columns
  rows := T.rows.map fun row =>
    if row w = some x then Function.update row c (some v) else row
  absent := by
    intro row' hrow' c' hc'
    obtain ⟨row, hrow, rfl⟩ := List.mem_map.mp hrow'
    split_ifs with hw
    · obtain ⟨column, hcolumn, rfl⟩ := hc
      rw [Function.update_of_ne (hc' column hcolumn).symm]
      exact T.absent row hrow c' hc'
    · exact T.absent row hrow c' hc'
  present := by
    intro row' hrow' column hcolumn hn
    obtain ⟨row, hrow, rfl⟩ := List.mem_map.mp hrow'
    split_ifs with hw
    · by_cases heq : column.name = c
      · rw [heq, Function.update_self]
        exact Option.some_ne_none v
      · rw [Function.update_of_ne heq]
        exact T.present row hrow column hcolumn hn
    · exact T.present row hrow column hcolumn hn

end Table

/-! ### Statements -/

section Statements

variable [DecidableEq τ] [DecidableEq κ] [DecidableEq ν]

/-- `ALTER TABLE t ADD COLUMN column DEFAULT default` -/
def alterTableAddColumn (t : τ) (column : Column κ) (default : Option ν) (db : Database τ κ ν) :
    Except SQLError (Database τ κ ν) :=
  match db t with
  | none => .error .noSuchTable
  | some T =>
    if hhas : T.Has column.name then .error .duplicateColumnName
    else if hnull : column.notNull = true ∧ default = none then .error .notNullWithoutDefault
    else .ok (Function.update db t (some (T.addColumn column default hhas hnull)))

/-- `UPDATE t SET c = v WHERE w = x` -/
def updateSet (t : τ) (c : κ) (v : ν) (w : κ) (x : ν) (db : Database τ κ ν) :
    Except SQLError (Database τ κ ν) :=
  match db t with
  | none => .error .noSuchTable
  | some T =>
    if hc : T.Has c then
      if T.Has w then .ok (Function.update db t (some (T.setWhere c v w x hc)))
      else .error .noSuchColumn
    else .error .noSuchColumn

/-- `CREATE TABLE [IF NOT EXISTS] t columns` -/
def createTable (t : τ) (ifNotExists : Bool) (columns : List (Column κ)) (db : Database τ κ ν) :
    Except SQLError (Database τ κ ν) :=
  match db t with
  | none => .ok (Function.update db t (some (Table.empty columns)))
  | some _ => if ifNotExists then .ok db else .error .tableExists

end Statements

/-! ### Schemas -/

abbrev Schema (τ κ : Type*) := τ → Option (List (Column κ))

/-- The tables of the schema with its columns, in any order. -/
def HasSchema (db : Database τ κ ν) (schema : Schema τ κ) : Prop :=
  ∀ t, (db t).map (fun T => {column | column ∈ T.columns}) =
    (schema t).map fun columns => {column | column ∈ columns}

/-- The rows of every table are those of the other database, changed by a function. -/
def RowsMapped (f : τ → Row κ ν → Row κ ν) (db db' : Database τ κ ν) : Prop :=
  ∀ t T, db t = some T → ∃ T', db' t = some T' ∧ T'.rows = T.rows.map (f t)

section Schema

variable {db db' : Database τ κ ν} {schema : Schema τ κ} {t : τ} {columns : List (Column κ)}

theorem HasSchema.exists_table (h : HasSchema db schema) (ht : schema t = some columns) :
    ∃ T, db t = some T ∧ ∀ column, column ∈ T.columns ↔ column ∈ columns := by
  have hmap := h t
  rw [ht, Option.map_some, Option.map_eq_some_iff] at hmap
  obtain ⟨T, hT, hcolumns⟩ := hmap
  exact ⟨T, hT, fun column => Set.ext_iff.mp hcolumns column⟩

theorem HasSchema.has_iff (h : HasSchema db schema) (ht : schema t = some columns)
    {T : Table κ ν} (hT : db t = some T) (c : κ) :
    T.Has c ↔ ∃ column ∈ columns, column.name = c := by
  obtain ⟨T', hT', hcolumns⟩ := h.exists_table ht
  rw [hT, Option.some.injEq] at hT'
  subst hT'
  exact exists_congr fun column => and_congr_left fun _ => hcolumns column

theorem HasSchema.no_table (h : HasSchema db schema) (ht : schema t = none) : db t = none := by
  have hmap := h t
  rwa [ht, Option.map_none, Option.map_eq_none_iff] at hmap

theorem RowsMapped.trans {f g : τ → Row κ ν → Row κ ν} {db'' : Database τ κ ν}
    (h : RowsMapped f db db') (h' : RowsMapped g db' db'') :
    RowsMapped (fun t row => g t (f t row)) db db'' := by
  intro t T hT
  obtain ⟨T', hT', hrows⟩ := h t T hT
  obtain ⟨T'', hT'', hrows'⟩ := h' t T' hT'
  refine ⟨T'', hT'', ?_⟩
  rw [hrows', hrows, List.map_map]
  rfl

variable [DecidableEq τ]

/-- Replacing one table. -/
theorem HasSchema.update (h : HasSchema db schema) {T : Table κ ν}
    (hT : ∀ column, column ∈ T.columns ↔ column ∈ columns) :
    HasSchema (Function.update db t (some T)) (Function.update schema t (some columns)) := by
  intro t'
  by_cases ht : t' = t
  · subst ht
    rw [Function.update_self, Function.update_self, Option.map_some, Option.map_some]
    exact congrArg some (Set.ext hT)
  · rw [Function.update_of_ne ht, Function.update_of_ne ht]
    exact h t'

/-- A statement that only touches the rows of one table. -/
theorem rowsMapped_update {T T' : Table κ ν} {f : Row κ ν → Row κ ν} (hT : db t = some T)
    (hrows : T'.rows = T.rows.map f) :
    RowsMapped (fun t' row => if t' = t then f row else row) db
      (Function.update db t (some T')) := by
  intro t' S hS
  by_cases ht : t' = t
  · subst ht
    rw [hT, Option.some.injEq] at hS
    subst hS
    exact ⟨T', Function.update_self .., by simpa using hrows⟩
  · exact ⟨S, by rw [Function.update_of_ne ht, hS], by simp [ht]⟩

/-- Creating a table that the schema does not have. -/
theorem HasSchema.createTable (h : HasSchema db schema) (ht : schema t = none) (ifNotExists : Bool)
    (columns : List (Column κ)) :
    ∃ db', Relational.createTable t ifNotExists columns db = .ok db' ∧
      HasSchema db' (Function.update schema t (some columns)) ∧
      RowsMapped (fun _ row => row) db db' := by
  have hnone := h.no_table ht
  refine ⟨Function.update db t (some (Table.empty columns)), ?_, ?_, ?_⟩
  · rw [Relational.createTable, hnone]
  · exact h.update fun column => Iff.rfl
  · intro t' T hT
    have hne : t' ≠ t := by
      rintro rfl
      rw [hnone] at hT
      cases hT
    exact ⟨T, by rw [Function.update_of_ne hne, hT], by simp⟩

variable [DecidableEq κ]

/-- Adding a column that the schema does not have. -/
theorem HasSchema.alterTableAddColumn (h : HasSchema db schema) (ht : schema t = some columns)
    (column : Column κ) (v : ν) (hnew : ∀ other ∈ columns, other.name ≠ column.name) :
    ∃ db', Relational.alterTableAddColumn t column (some v) db = .ok db' ∧
      HasSchema db' (Function.update schema t (some (columns ++ [column]))) ∧
      RowsMapped (fun t' row => if t' = t then Function.update row column.name (some v) else row)
        db db' := by
  obtain ⟨T, hT, hcolumns⟩ := h.exists_table ht
  have hhas : ¬ T.Has column.name := by
    rintro ⟨other, hother, heq⟩
    exact hnew other ((hcolumns other).mp hother) heq
  have hnull : ¬ (column.notNull = true ∧ some v = none) := fun h => Option.some_ne_none v h.2
  refine ⟨Function.update db t (some (T.addColumn column (some v) hhas hnull)), ?_, ?_, ?_⟩
  · rw [Relational.alterTableAddColumn, hT]
    simp [hhas]
  · refine h.update fun other => ?_
    rw [Table.addColumn, List.mem_append, List.mem_append, hcolumns]
  · exact rowsMapped_update hT rfl

/-- Adding a column that the schema has. -/
theorem HasSchema.alterTableAddColumn_duplicate (h : HasSchema db schema)
    (ht : schema t = some columns) (column : Column κ) (default : Option ν)
    (hold : ∃ other ∈ columns, other.name = column.name) :
    Relational.alterTableAddColumn t column default db = .error .duplicateColumnName := by
  obtain ⟨T, hT, hcolumns⟩ := h.exists_table ht
  have hhas : T.Has column.name := by
    obtain ⟨other, hother, heq⟩ := hold
    exact ⟨other, (hcolumns other).mpr hother, heq⟩
  rw [Relational.alterTableAddColumn, hT]
  simp [hhas]

theorem HasSchema.updateSet [DecidableEq ν] (h : HasSchema db schema)
    (ht : schema t = some columns) {c w : κ} (v x : ν) (hc : ∃ column ∈ columns, column.name = c)
    (hw : ∃ column ∈ columns, column.name = w) :
    ∃ db', Relational.updateSet t c v w x db = .ok db' ∧ HasSchema db' schema ∧
      RowsMapped (fun t' row => if t' = t then
        if row w = some x then Function.update row c (some v) else row else row) db db' := by
  obtain ⟨T, hT, hcolumns⟩ := h.exists_table ht
  have hhas : ∀ c, (∃ column ∈ columns, column.name = c) → T.Has c := by
    rintro c ⟨column, hcolumn, heq⟩
    exact ⟨column, (hcolumns column).mpr hcolumn, heq⟩
  refine ⟨Function.update db t (some (T.setWhere c v w x (hhas c hc))), ?_, ?_, ?_⟩
  · rw [Relational.updateSet, hT]
    simp [hhas c hc, hhas w hw]
  · have hsame : Function.update schema t (some columns) = schema := by
      rw [← ht, Function.update_eq_self]
    rw [← hsame]
    exact h.update hcolumns
  · exact rowsMapped_update hT rfl

end Schema

end XnetZt.Relational
