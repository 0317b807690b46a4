import XnetZt.Lib.Java
import XnetZt.Lib.Relational
import XnetZt.Lib.Text

/-!
# Schema migrations

`ZTOpenHelper.onUpgrade` brings a database of an older version to version 22 by running
the migrations above its version in order. Each of them is written for the schema its
predecessors leave, except that the table of orbits is created from the entity of today,
which has the column that the migration after it adds. The upgrade therefore succeeds
from version 21 and from no earlier one; what the earlier migrations do is right.
-/

namespace XnetZt

open Relational

namespace ZTOpenHelper

inductive TableName
  | network
  | networkConfig
  | assignedAddress
  | dnsServer
  | appNode
  | moonOrbit
  deriving DecidableEq

inductive ColumnName
  | networkId
  | networkIdStr
  | networkName
  | useDefaultRoute
  | lastActivated
  | networkConfigId
  | id
  | type
  | status
  | mac
  | mtu
  | broadcast
  | bridging
  | routeViaZeroTier
  | useCustomDNS
  | dnsMode
  | addressBytes
  | addressString
  | prefixLength
  | nameserver
  | nodeId
  | nodeIdStr
  | moonWorldId
  | moonSeed
  | fromFile
  deriving DecidableEq

inductive SqlValue
  | integer (n : ℤ)
  | text (t : Text)
  | blob (b : Bytes)
  deriving DecidableEq

abbrev ZtTable := Table ColumnName SqlValue

abbrev ZtDatabase := Database TableName ColumnName SqlValue

/-- A primitive Java field is stored in a column that is `NOT NULL`. -/
def required (c : ColumnName) : Column ColumnName := ⟨c, true⟩

def optional (c : ColumnName) : Column ColumnName := ⟨c, false⟩

/-! ### The migrations -/

/-- The columns of the entity `MoonOrbit`; `cacheFile` is transient. -/
def moonOrbitColumns : List (Column ColumnName) :=
  [optional .moonWorldId, optional .moonSeed, required .fromFile]

structure Migration where
  getVersion : ℤ
  runMigration : ZtDatabase → Except SQLError ZtDatabase

def migrationV18 : Migration where
  getVersion := 18
  runMigration := alterTableAddColumn .network (required .lastActivated) (some (.integer 0))

def migrationV19 : Migration where
  getVersion := 19
  runMigration := alterTableAddColumn .networkConfig (required .dnsMode) (some (.integer 0))

def migrationV20 : Migration where
  getVersion := 20
  runMigration := updateSet .networkConfig .dnsMode (.integer 2) .useCustomDNS (.integer 1)

def migrationV21 : Migration where
  getVersion := 21
  runMigration := createTable .moonOrbit true moonOrbitColumns

def migrationV22 : Migration where
  getVersion := 22
  runMigration := alterTableAddColumn .moonOrbit (required .fromFile) (some (.integer 0))

def getMigrations : List Migration :=
  [migrationV18, migrationV19, migrationV20, migrationV21, migrationV22].insertionSort
    fun a b => a.getVersion ≤ b.getVersion

def onUpgrade (db : ZtDatabase) (oldVersion _newVersion : ℤ) : Except SQLError ZtDatabase :=
  getMigrations.foldlM (fun db migration =>
    if oldVersion < migration.getVersion then migration.runMigration db else return db) db

/-! ### The schemas of the versions -/

def schema (version : ℤ) : Schema TableName ColumnName
  | .network => some ([optional .networkId, optional .networkIdStr, optional .networkName,
      required .useDefaultRoute, required .networkConfigId] ++
      if 18 ≤ version then [required .lastActivated] else [])
  | .networkConfig => some ([optional .id, optional .type, optional .status, optional .mac,
      optional .mtu, required .broadcast, required .bridging, required .routeViaZeroTier,
      required .useCustomDNS] ++ if 19 ≤ version then [required .dnsMode] else [])
  | .assignedAddress => some [optional .id, required .networkId, optional .type,
      optional .addressBytes, optional .addressString, required .prefixLength]
  | .dnsServer => some [optional .id, optional .networkId, optional .nameserver]
  | .appNode => some [optional .nodeId, optional .nodeIdStr]
  | .moonOrbit =>
    if 21 ≤ version then
      some ([optional .moonWorldId, optional .moonSeed] ++
        if 22 ≤ version then [required .fromFile] else [])
    else none

/-- What the upgrade owes a row of a table of the old database. -/
structure RowUpgraded (oldVersion : ℤ) (t : TableName) (T : ZtTable)
    (row row' : Row ColumnName SqlValue) : Prop where
  kept : ∀ c, T.Has c → ¬ (t = .networkConfig ∧ c = .dnsMode) → row' c = row c
  dnsModeSet : t = .networkConfig → oldVersion < 20 → row .useCustomDNS = some (.integer 1) →
    row' .dnsMode = some (.integer 2)
  dnsModeKept : t = .networkConfig → T.Has .dnsMode →
    20 ≤ oldVersion ∨ row .useCustomDNS ≠ some (.integer 1) → row' .dnsMode = row .dnsMode
  dnsModeNew : t = .networkConfig → ¬ T.Has .dnsMode → row .useCustomDNS ≠ some (.integer 1) →
    row' .dnsMode ≠ some (.integer 2)

/-- Every row is still there, in its place. -/
def RowsUpgraded (oldVersion : ℤ) (db db' : ZtDatabase) : Prop :=
  ∀ t T, db t = some T → ∃ T', db' t = some T' ∧
    List.Forall₂ (RowUpgraded oldVersion t T) T.rows T'.rows

/-- The upgrade ends without an error, in the schema of version 22 and with all rows. -/
def Upgrades (db : ZtDatabase) (oldVersion : ℤ) : Prop :=
  ∃ db', onUpgrade db oldVersion 22 = .ok db' ∧ HasSchema db' (schema 22) ∧
    RowsUpgraded oldVersion db db'

/-! ### One migration after the other -/

/-- What the migrations above `oldVersion` make of a row. -/
def upgradedRow (oldVersion : ℤ) (t : TableName) (row : Row ColumnName SqlValue) :
    Row ColumnName SqlValue :=
  match t with
  | .network =>
    if oldVersion < 18 then Function.update row .lastActivated (some (.integer 0)) else row
  | .networkConfig =>
    let row :=
      if oldVersion < 19 then Function.update row .dnsMode (some (.integer 0)) else row
    if oldVersion < 20 ∧ row .useCustomDNS = some (.integer 1) then
      Function.update row .dnsMode (some (.integer 2))
    else row
  | .moonOrbit =>
    if 20 < oldVersion then Function.update row .fromFile (some (.integer 0)) else row
  | _ => row

/-- A migration takes databases of one version to the next; what the later ones do to the
rows after it is what all of them do. -/
def Advances (m : Migration) (version next : ℤ) : Prop :=
  ∀ db, HasSchema db (schema version) → ∃ db', m.runMigration db = .ok db' ∧
    HasSchema db' (schema next) ∧
    ∀ db'', RowsMapped (upgradedRow next) db' db'' → RowsMapped (upgradedRow version) db db''

/-- A computation brings databases of a version to the schema of version 22. -/
def Completes (run : ZtDatabase → Except SQLError ZtDatabase) (version : ℤ) : Prop :=
  ∀ db, HasSchema db (schema version) → ∃ db', run db = .ok db' ∧ HasSchema db' (schema 22) ∧
    RowsMapped (upgradedRow version) db db'

theorem Completes.bind {m : Migration} {version next : ℤ}
    {run : ZtDatabase → Except SQLError ZtDatabase} (hrun : Completes run next)
    (hm : Advances m version next) :
    Completes (fun db => m.runMigration db >>= run) version := by
  intro db h
  obtain ⟨db₁, hok, hschema, hrows⟩ := hm db h
  obtain ⟨db', hok', hschema', hrows'⟩ := hrun db₁ hschema
  exact ⟨db', bind_eq_ok.mpr ⟨db₁, hok, hok'⟩, hschema', hrows db' hrows'⟩

section Statement

variable {m : Migration} {version next : ℤ} {after : Schema TableName ColumnName}
  {f : TableName → Row ColumnName SqlValue → Row ColumnName SqlValue}

/-- One statement that changes the schema and the rows as the next version needs it. -/
theorem advances_of
    (hrun : ∀ db, HasSchema db (schema version) → ∃ db', m.runMigration db = .ok db' ∧
      HasSchema db' after ∧ RowsMapped f db db')
    (hschema : ∀ t, after t = schema next t)
    (hrows : ∀ t row, upgradedRow next t (f t row) = upgradedRow version t row) :
    Advances m version next := by
  intro db h
  obtain ⟨db', hok, hafter, hmapped⟩ := hrun db h
  refine ⟨db', hok, funext hschema ▸ hafter, ?_⟩
  intro db'' h''
  convert hmapped.trans h'' using 1
  funext t row
  exact (hrows t row).symm

/-- One statement that leads to version 22. -/
theorem completes_of
    (hrun : ∀ db, HasSchema db (schema version) → ∃ db', m.runMigration db = .ok db' ∧
      HasSchema db' after ∧ RowsMapped f db db')
    (hschema : ∀ t, after t = schema 22 t)
    (hrows : ∀ t row, f t row = upgradedRow version t row) :
    Completes m.runMigration version := by
  intro db h
  obtain ⟨db', hok, hafter, hmapped⟩ := hrun db h
  refine ⟨db', hok, funext hschema ▸ hafter, ?_⟩
  convert hmapped using 1
  funext t row
  exact (hrows t row).symm

end Statement

theorem migrationV18_advances : Advances migrationV18 17 18 := by
  apply advances_of
  · intro db h
    exact h.alterTableAddColumn (t := .network) rfl (required .lastActivated)
      (SqlValue.integer 0) (by decide)
  · intro t
    cases t <;> rfl
  · intro t row
    cases t <;> simp [upgradedRow, required]

theorem migrationV19_advances : Advances migrationV19 18 19 := by
  apply advances_of
  · intro db h
    exact h.alterTableAddColumn (t := .networkConfig) rfl (required .dnsMode)
      (SqlValue.integer 0) (by decide)
  · intro t
    cases t <;> rfl
  · intro t row
    cases t <;> simp [upgradedRow, required]

theorem migrationV20_advances : Advances migrationV20 19 20 := by
  apply advances_of
  · intro db h
    exact h.updateSet (t := .networkConfig) rfl (SqlValue.integer 2) (.integer 1) (c := .dnsMode)
      (w := .useCustomDNS) (by decide) (by decide)
  · intro t
    cases t <;> rfl
  · intro t row
    cases t <;> simp [upgradedRow]

/-- The created table has the columns of version 22 already. -/
theorem migrationV21_completes : Completes migrationV21.runMigration 20 := by
  apply completes_of
  · intro db h
    exact h.createTable (t := .moonOrbit) rfl true moonOrbitColumns
  · intro t
    cases t <;> rfl
  · intro t row
    cases t <;> simp [upgradedRow]

theorem migrationV22_completes : Completes migrationV22.runMigration 21 := by
  apply completes_of
  · intro db h
    exact h.alterTableAddColumn (t := .moonOrbit) rfl (required .fromFile)
      (SqlValue.integer 0) (by decide)
  · intro t
    cases t <;> rfl
  · intro t row
    cases t <;> simp [upgradedRow, required]

theorem migrationV22_duplicate {db : ZtDatabase} (h : HasSchema db (schema 22)) :
    migrationV22.runMigration db = .error .duplicateColumnName := by
  have ht : schema 22 .moonOrbit = some moonOrbitColumns := rfl
  exact h.alterTableAddColumn_duplicate ht (required .fromFile) _ (by decide)

/-- The migrations below 22. -/
def upgradeTo21 (oldVersion : ℤ) (db : ZtDatabase) : Except SQLError ZtDatabase :=
  [migrationV18, migrationV19, migrationV20, migrationV21].foldlM (fun db migration =>
    if oldVersion < migration.getVersion then migration.runMigration db else return db) db

theorem onUpgrade_eq (db : ZtDatabase) (oldVersion newVersion : ℤ) :
    onUpgrade db oldVersion newVersion =
      (upgradeTo21 oldVersion db >>= fun db =>
        if oldVersion < 22 then migrationV22.runMigration db else return db) := by
  have hsorted : getMigrations =
      [migrationV18, migrationV19, migrationV20, migrationV21] ++ [migrationV22] := rfl
  rw [onUpgrade, hsorted, List.foldlM_append, upgradeTo21]
  refine bind_congr fun db => ?_
  rw [List.foldlM_cons]
  exact bind_pure _

/-- From every version below 21 the first four migrations do what they should. -/
theorem upgradeTo21_completes {oldVersion : ℤ} (hmin : 17 ≤ oldVersion) (hmax : oldVersion ≤ 20) :
    Completes (upgradeTo21 oldVersion) oldVersion := by
  have h19 := migrationV21_completes.bind migrationV20_advances
  have h18 := h19.bind migrationV19_advances
  have h17 := h18.bind migrationV18_advances
  unfold upgradeTo21
  simp only [List.foldlM_cons, List.foldlM_nil, bind_pure]
  interval_cases oldVersion
  · simpa [migrationV18, migrationV19, migrationV20, migrationV21] using h17
  · simpa [migrationV18, migrationV19, migrationV20, migrationV21] using h18
  · simpa [migrationV18, migrationV19, migrationV20, migrationV21] using h19
  · simpa [migrationV18, migrationV19, migrationV20, migrationV21] using migrationV21_completes

/-! ### The rows -/

section Rows

variable {db : ZtDatabase} {oldVersion : ℤ} {T : ZtTable}

theorem has_lastActivated_iff (h : HasSchema db (schema oldVersion)) (hT : db .network = some T) :
    T.Has .lastActivated ↔ 18 ≤ oldVersion := by
  rw [h.has_iff (t := .network) rfl hT]
  by_cases hv : 18 ≤ oldVersion <;> simp [hv, required, optional]

theorem has_dnsMode_iff (h : HasSchema db (schema oldVersion)) (hT : db .networkConfig = some T) :
    T.Has .dnsMode ↔ 19 ≤ oldVersion := by
  rw [h.has_iff (t := .networkConfig) rfl hT]
  by_cases hv : 19 ≤ oldVersion <;> simp [hv, required, optional]

theorem not_has_fromFile (h : HasSchema db (schema 21)) (hT : db .moonOrbit = some T) :
    ¬ T.Has .fromFile := by
  rw [h.has_iff (t := .moonOrbit) rfl hT]
  decide

theorem rowUpgraded_upgradedRow (hmax : oldVersion ≤ 21) (h : HasSchema db (schema oldVersion))
    {t : TableName} (hT : db t = some T) (row : Row ColumnName SqlValue) :
    RowUpgraded oldVersion t T row (upgradedRow oldVersion t row) := by
  cases t with
  | network =>
    refine ⟨?_, nofun, nofun, nofun⟩
    intro c hc _
    have hlast := has_lastActivated_iff h hT
    simp only [upgradedRow]
    split_ifs with hv
    · rw [Function.update_of_ne]
      rintro rfl
      exact absurd (hlast.mp hc) (by omega)
    · rfl
  | networkConfig =>
    have hdns := has_dnsMode_iff h hT
    refine ⟨?_, ?_, ?_, ?_⟩
    · intro c _ hc
      have hne : c ≠ .dnsMode := fun h => hc ⟨rfl, h⟩
      simp only [upgradedRow]
      split_ifs <;> simp [hne]
    · intro _ hv hcustom
      simp only [upgradedRow]
      split_ifs <;> simp_all
    · intro _ hhas hor
      rw [hdns] at hhas
      simp only [upgradedRow]
      split_ifs <;> simp_all <;> omega
    · intro _ hhas hcustom
      rw [hdns] at hhas
      simp only [upgradedRow]
      split_ifs <;> simp_all
  | moonOrbit =>
    refine ⟨?_, nofun, nofun, nofun⟩
    intro c hc _
    simp only [upgradedRow]
    split_ifs with hv
    · obtain rfl : oldVersion = 21 := by omega
      rw [Function.update_of_ne]
      rintro rfl
      exact not_has_fromFile h hT hc
    · rfl
  | assignedAddress => exact ⟨fun _ _ _ => rfl, nofun, nofun, nofun⟩
  | dnsServer => exact ⟨fun _ _ _ => rfl, nofun, nofun, nofun⟩
  | appNode => exact ⟨fun _ _ _ => rfl, nofun, nofun, nofun⟩

theorem rowsUpgraded_of_rowsMapped (hmax : oldVersion ≤ 21)
    (h : HasSchema db (schema oldVersion)) {db' : ZtDatabase}
    (hrows : RowsMapped (upgradedRow oldVersion) db db') : RowsUpgraded oldVersion db db' := by
  intro t T hT
  obtain ⟨T', hT', heq⟩ := hrows t T hT
  refine ⟨T', hT', ?_⟩
  rw [heq, List.forall₂_map_right_iff, List.forall₂_same]
  intro row _
  exact rowUpgraded_upgradedRow hmax h hT row

end Rows

/-- Below version 21 the upgrade fails in its last step, after the first four migrations
have brought every row where it should be. -/
theorem onUpgrade_duplicate {db : ZtDatabase} {oldVersion : ℤ} (hmin : 17 ≤ oldVersion)
    (hmax : oldVersion ≤ 20) (h : HasSchema db (schema oldVersion)) :
    (∃ db', upgradeTo21 oldVersion db = .ok db' ∧ RowsUpgraded oldVersion db db') ∧
      onUpgrade db oldVersion 22 = .error .duplicateColumnName := by
  obtain ⟨db', hok, hschema, hrows⟩ := upgradeTo21_completes hmin hmax db h
  refine ⟨⟨db', hok, rowsUpgraded_of_rowsMapped (by omega) h hrows⟩, ?_⟩
  rw [onUpgrade_eq, hok, ok_bind, if_pos (by omega), migrationV22_duplicate hschema]

/-- The upgrade to version 22 is right exactly from version 21. -/
theorem upgrades_iff {db : ZtDatabase} {oldVersion : ℤ} (hmin : 17 ≤ oldVersion)
    (hmax : oldVersion ≤ 21) (h : HasSchema db (schema oldVersion)) :
    Upgrades db oldVersion ↔ oldVersion = 21 := by
  constructor
  · rintro ⟨db', hok, -⟩
    by_contra hne
    rw [(onUpgrade_duplicate hmin (by omega) h).2] at hok
    cases hok
  · rintro rfl
    obtain ⟨db', hok, hschema, hrows⟩ := migrationV22_completes db h
    have hup : upgradeTo21 21 db = .ok db := rfl
    refine ⟨db', ?_, hschema, rowsUpgraded_of_rowsMapped le_rfl h hrows⟩
    rw [onUpgrade_eq, hup, ok_bind, if_pos (by norm_num), hok]

/-- The tables of a version without rows. -/
def newDatabase (version : ℤ) : ZtDatabase := fun t => (schema version t).map Table.empty

theorem hasSchema_newDatabase (version : ℤ) : HasSchema (newDatabase version) (schema version) := by
  intro t
  rw [newDatabase, Option.map_map]
  rfl

theorem upgrades_newDatabase_21 : Upgrades (newDatabase 21) 21 :=
  (upgrades_iff (by norm_num) le_rfl (hasSchema_newDatabase 21)).mpr rfl

/-- A database of version 20: the migration to 21 creates the column that the one to 22
adds. -/
theorem not_upgrades_newDatabase_20 :
    HasSchema (newDatabase 20) (schema 20) ∧
      onUpgrade (newDatabase 20) 20 22 = .error .duplicateColumnName ∧
      ¬ Upgrades (newDatabase 20) 20 := by
  have herror := (onUpgrade_duplicate (by norm_num) le_rfl (hasSchema_newDatabase 20)).2
  refine ⟨hasSchema_newDatabase 20, herror, ?_⟩
  rintro ⟨db', hok, -⟩
  rw [herror] at hok
  cases hok

end ZTOpenHelper

end XnetZt
