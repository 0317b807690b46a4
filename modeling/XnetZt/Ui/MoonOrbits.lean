import Mathlib.Data.List.Nodup
import Mathlib.Logic.Function.Basic
import XnetZt.Lib.Java
import XnetZt.Lib.Run
import XnetZt.Lib.Text

/-!
# Moons and their files

A moon is a row of the `MOON_ORBIT` table. A moon imported from a file also has its world in
the directory `moons.d`. The fragment changes the table and the files one after the other, and
it ignores the failures of the file system. No operation takes the file away from an imported
moon that stays in the table. But an import whose `renameTo` fails still adds the row.
-/

namespace XnetZt

structure MoonOrbit where
  moonWorldId : BitVec 64
  moonSeed : BitVec 64
  fromFile : Bool
  deriving DecidableEq

namespace MoonOrbit

/-- `MOON_FILE_PATH` is `moons.d/%016x.moon`. -/
def moonFile (moonWorldId : BitVec 64) : Text :=
  "moons.d/".toList ++ (Text.hex 16 moonWorldId.toNat ++ ".moon".toList)

theorem moonFile_injective : Function.Injective moonFile := by
  intro a b h
  exact BitVec.eq_of_toNat_eq (Text.eq_of_format_eq h)

end MoonOrbit

/-- The table; `moonWorldId` is its primary key. -/
structure MoonTable where
  rows : List MoonOrbit
  nodup : (rows.map (·.moonWorldId)).Nodup

namespace MoonTable

/-- `existCount > 0` -/
def has (t : MoonTable) (moonWorldId : BitVec 64) : Bool :=
  t.rows.any (·.moonWorldId = moonWorldId)

theorem notMem_of_has_eq_false {t : MoonTable} {moonWorldId : BitVec 64}
    (h : t.has moonWorldId = false) : moonWorldId ∉ t.rows.map (·.moonWorldId) := by
  simpa [has] using h

def insert (t : MoonTable) (row : MoonOrbit) (h : t.has row.moonWorldId = false) : MoonTable where
  rows := t.rows ++ [row]
  nodup := by
    rw [List.map_append, List.map_singleton, ← List.concat_eq_append]
    exact t.nodup.concat (notMem_of_has_eq_false h)

/-- A row is deleted by its key. -/
def delete (t : MoonTable) (row : MoonOrbit) : MoonTable where
  rows := t.rows.filter (·.moonWorldId ≠ row.moonWorldId)
  nodup := t.nodup.sublist (List.filter_sublist.map _)

theorem mem_delete {t : MoonTable} {row row' : MoonOrbit} :
    row' ∈ (t.delete row).rows ↔ row' ∈ t.rows ∧ row'.moonWorldId ≠ row.moonWorldId := by
  simp [delete]

theorem insert_ne {t : MoonTable} {row : MoonOrbit} (h : t.has row.moonWorldId = false) :
    t.insert row h ≠ t := by
  intro heq
  have hlength := congrArg (fun t => t.rows.length) heq
  simp [insert] at hlength

theorem row_eq {t : MoonTable} {row row' : MoonOrbit} (h : row ∈ t.rows) (h' : row' ∈ t.rows)
    (hkey : row.moonWorldId = row'.moonWorldId) : row = row' :=
  List.inj_on_of_nodup_map t.nodup h h' hkey

end MoonTable

/-- Whether the file operations of one event succeed. No event needs more than one of each. -/
structure FileCalls where
  renameTo : Bool
  delete : Bool

/-- What the user does with the fragment. -/
inductive MoonEvent
  /-- A file has been selected and copied to the temporary file, unless that failed. -/
  | selectFile (content : Bytes) (copied : Bool)
  | addOrbit (moonWorldId moonSeed : BitVec 64)
  | removeOrbit (moonWorldId moonSeed : BitVec 64)
  /-- The menu of a moon was opened to delete its cached file. The list saw whether there is
  one when it showed the moon. -/
  | deleteCache (moonWorldId : BitVec 64) (cacheFile : Bool)

structure MoonOrbitFragment where
  table : MoonTable
  files : Text → Option Bytes
  tempFile : Option Bytes

namespace MoonOrbitFragment

def hasFile (s : MoonOrbitFragment) (moonWorldId : BitVec 64) : Bool :=
  (s.files (MoonOrbit.moonFile moonWorldId)).isSome

def clearTempFile (calls : FileCalls) (s : MoonOrbitFragment) : MoonOrbitFragment :=
  if calls.delete then { s with tempFile := none } else s

def renameTempFile (calls : FileCalls) (dest : Text) (s : MoonOrbitFragment) :
    MoonOrbitFragment :=
  match s.tempFile with
  | none => s
  | some content =>
    if calls.renameTo then
      { s with files := Function.update s.files dest (some content), tempFile := none }
    else s

def deleteCacheFile (calls : FileCalls) (moonOrbit : MoonOrbit) (s : MoonOrbitFragment) :
    MoonOrbitFragment :=
  if calls.delete then
    { s with files := Function.update s.files (MoonOrbit.moonFile moonOrbit.moonWorldId) none }
  else s

/-- The address in the header of a moon file, or `-1`. -/
def checkTempMoonFile (content : Bytes) : BitVec 64 :=
  if content.length < 9 then -1
  else if content.head? ≠ some 0x7f then -1
  else ((content.drop 1).take 8).foldl (fun id b => (id <<< 8) + b.setWidth 64) 0

/-- The files when the row is inserted. A failed `renameTo` only shows a message. -/
def moveTempFile (calls : FileCalls) (moonWorldId : BitVec 64) (fromFile : Bool)
    (s : MoonOrbitFragment) : MoonOrbitFragment :=
  if fromFile then
    clearTempFile calls (renameTempFile calls (MoonOrbit.moonFile moonWorldId) s)
  else s

def onAddMoonOrbitEvent (calls : FileCalls) (moonWorldId moonSeed : BitVec 64) (fromFile : Bool)
    (s : MoonOrbitFragment) : MoonOrbitFragment :=
  if h : s.table.has moonWorldId = false then
    { moveTempFile calls moonWorldId fromFile s with
      table := s.table.insert ⟨moonWorldId, moonSeed, fromFile⟩ h }
  else clearTempFile calls s

/-- `none` is the `NullPointerException` if there is no such moon. -/
def onRemoveMoonOrbitEvent (calls : FileCalls) (moonWorldId moonSeed : BitVec 64)
    (s : MoonOrbitFragment) : Option MoonOrbitFragment := do
  let moonOrbit ← s.table.rows.find? fun row =>
    row.moonWorldId = moonWorldId ∧ row.moonSeed = moonSeed
  return { deleteCacheFile calls moonOrbit s with table := s.table.delete moonOrbit }

/-- The callback of the file selection. -/
def onSelectFile (calls : FileCalls) (content : Bytes) (copied : Bool) (s : MoonOrbitFragment) :
    MoonOrbitFragment :=
  if copied = false ∨ (checkTempMoonFile content).toInt < 0 then
    clearTempFile calls { s with tempFile := some content }
  else
    onAddMoonOrbitEvent calls (checkTempMoonFile content) (checkTempMoonFile content) true
      { s with tempFile := some content }

/-- The menu only offers to delete the cached file of a moon that is not from a file. -/
def onLongClick (calls : FileCalls) (moonWorldId : BitVec 64) (cacheFile : Bool)
    (s : MoonOrbitFragment) : MoonOrbitFragment :=
  match s.table.rows.find? (·.moonWorldId = moonWorldId) with
  | none => s
  | some mItem => if cacheFile && !mItem.fromFile then deleteCacheFile calls mItem s else s

/-- An event whose handler throws leaves everything as it is. -/
def step (s : MoonOrbitFragment) : MoonEvent × FileCalls → MoonOrbitFragment
  | (.selectFile content copied, calls) => onSelectFile calls content copied s
  | (.addOrbit moonWorldId moonSeed, calls) =>
    onAddMoonOrbitEvent calls moonWorldId moonSeed false s
  | (.removeOrbit moonWorldId moonSeed, calls) =>
    (onRemoveMoonOrbitEvent calls moonWorldId moonSeed s).getD s
  | (.deleteCache moonWorldId cacheFile, calls) => onLongClick calls moonWorldId cacheFile s

/-- The moon for which an event calls `renameTo`. -/
def renameTarget (s : MoonOrbitFragment) : MoonEvent → Option (BitVec 64)
  | .selectFile content true =>
    if 0 ≤ (checkTempMoonFile content).toInt ∧ s.table.has (checkTempMoonFile content) = false then
      some (checkTempMoonFile content)
    else none
  | _ => none

def RenameFails (s : MoonOrbitFragment) (e : MoonEvent × FileCalls) : Prop :=
  (renameTarget s e.1).isSome ∧ e.2.renameTo = false

/-- The imported moons in the table after an event have their files, if these were there
before or the event has moved them there. -/
def KeepsFiles (s : MoonOrbitFragment) (e : MoonEvent × FileCalls) : Prop :=
  ∀ row ∈ (step s e).table.rows, row.fromFile = true →
    s.hasFile row.moonWorldId ∨
      (renameTarget s e.1 = some row.moonWorldId ∧ e.2.renameTo = true) →
    (step s e).hasFile row.moonWorldId

/-- If this event is an import whose `renameTo` fails, it does not change the table. -/
def LeavesTable (s : MoonOrbitFragment) (e : MoonEvent × FileCalls) : Prop :=
  RenameFails s e → (step s e).table = s.table

/-- Every imported moon has its file. -/
def Backed (s : MoonOrbitFragment) : Prop :=
  ∀ row ∈ s.table.rows, row.fromFile = true → s.hasFile row.moonWorldId

section Handlers

variable {s : MoonOrbitFragment} {calls : FileCalls}

@[simp] theorem table_clearTempFile : (clearTempFile calls s).table = s.table := by
  unfold clearTempFile
  split <;> rfl

@[simp] theorem files_clearTempFile : (clearTempFile calls s).files = s.files := by
  unfold clearTempFile
  split <;> rfl

@[simp] theorem table_deleteCacheFile {moonOrbit : MoonOrbit} :
    (deleteCacheFile calls moonOrbit s).table = s.table := by
  unfold deleteCacheFile
  split <;> rfl

theorem hasFile_congr {s' : MoonOrbitFragment} (h : s'.files = s.files) (moonWorldId : BitVec 64) :
    s'.hasFile moonWorldId = s.hasFile moonWorldId := by
  rw [hasFile, hasFile, h]

theorem files_deleteCacheFile_of_ne {moonOrbit : MoonOrbit} {moonWorldId : BitVec 64}
    (hne : moonWorldId ≠ moonOrbit.moonWorldId) :
    (deleteCacheFile calls moonOrbit s).files (MoonOrbit.moonFile moonWorldId) =
      s.files (MoonOrbit.moonFile moonWorldId) := by
  unfold deleteCacheFile
  split
  · exact Function.update_of_ne (MoonOrbit.moonFile_injective.ne hne) _ _
  · rfl

theorem hasFile_moveTempFile {moonWorldId moonWorldId' : BitVec 64} {fromFile : Bool}
    (h : s.hasFile moonWorldId' ∨
      (fromFile = true ∧ s.tempFile.isSome ∧ calls.renameTo = true ∧ moonWorldId' = moonWorldId)) :
    (moveTempFile calls moonWorldId fromFile s).hasFile moonWorldId' := by
  cases fromFile with
  | false => simpa [moveTempFile] using h
  | true =>
    rw [moveTempFile, if_pos rfl, hasFile_congr files_clearTempFile, renameTempFile]
    cases htemp : s.tempFile with
    | none => simpa [htemp] using h
    | some content =>
      by_cases hrename : calls.renameTo = true
      · by_cases hid : moonWorldId' = moonWorldId
        · simp [hasFile, hrename, hid]
        · have hfile := MoonOrbit.moonFile_injective.ne hid
          simpa [hasFile, hrename, hid, hfile] using h
      · simpa [hrename] using h

theorem table_onAddMoonOrbitEvent {moonWorldId moonSeed : BitVec 64} {fromFile : Bool}
    (h : s.table.has moonWorldId = false) :
    (onAddMoonOrbitEvent calls moonWorldId moonSeed fromFile s).table =
      s.table.insert ⟨moonWorldId, moonSeed, fromFile⟩ h := by
  rw [onAddMoonOrbitEvent, dif_pos h]

theorem hasFile_onAddMoonOrbitEvent {moonWorldId moonSeed moonWorldId' : BitVec 64}
    {fromFile : Bool} (h : s.hasFile moonWorldId' ∨
      (s.table.has moonWorldId = false ∧ fromFile = true ∧ s.tempFile.isSome ∧
        calls.renameTo = true ∧ moonWorldId' = moonWorldId)) :
    (onAddMoonOrbitEvent calls moonWorldId moonSeed fromFile s).hasFile moonWorldId' := by
  unfold onAddMoonOrbitEvent
  split
  next hnew => exact hasFile_moveTempFile (h.imp_right And.right)
  next hold =>
    rw [hasFile_congr files_clearTempFile]
    exact h.resolve_right fun hnew => hold hnew.1

theorem mem_onAddMoonOrbitEvent {moonWorldId moonSeed : BitVec 64} {fromFile : Bool}
    {row : MoonOrbit}
    (h : row ∈ (onAddMoonOrbitEvent calls moonWorldId moonSeed fromFile s).table.rows) :
    row ∈ s.table.rows ∨
      (s.table.has moonWorldId = false ∧ row = ⟨moonWorldId, moonSeed, fromFile⟩) := by
  by_cases hnew : s.table.has moonWorldId = false
  · rw [table_onAddMoonOrbitEvent hnew] at h
    exact (List.mem_append.mp h).imp_right fun hrow => ⟨hnew, List.mem_singleton.mp hrow⟩
  · rw [onAddMoonOrbitEvent, dif_neg hnew, table_clearTempFile] at h
    exact .inl h

theorem onRemoveMoonOrbitEvent_cases (calls : FileCalls) (moonWorldId moonSeed : BitVec 64)
    (s : MoonOrbitFragment) :
    (onRemoveMoonOrbitEvent calls moonWorldId moonSeed s).getD s = s ∨
      ∃ moonOrbit, (onRemoveMoonOrbitEvent calls moonWorldId moonSeed s).getD s =
        { deleteCacheFile calls moonOrbit s with table := s.table.delete moonOrbit } := by
  unfold onRemoveMoonOrbitEvent
  cases s.table.rows.find? fun row => row.moonWorldId = moonWorldId ∧ row.moonSeed = moonSeed with
  | none => exact .inl rfl
  | some moonOrbit => exact .inr ⟨moonOrbit, rfl⟩

theorem onLongClick_cases (calls : FileCalls) (moonWorldId : BitVec 64) (cacheFile : Bool)
    (s : MoonOrbitFragment) :
    onLongClick calls moonWorldId cacheFile s = s ∨
      ∃ mItem ∈ s.table.rows, mItem.fromFile = false ∧
        onLongClick calls moonWorldId cacheFile s = deleteCacheFile calls mItem s := by
  unfold onLongClick
  cases hfind : s.table.rows.find? (·.moonWorldId = moonWorldId) with
  | none => exact .inl rfl
  | some mItem =>
    by_cases hoffer : (cacheFile && !mItem.fromFile) = true
    · have hfromFile : mItem.fromFile = false := by
        simpa using (Bool.and_eq_true_iff.mp hoffer).2
      exact .inr ⟨mItem, List.mem_of_find?_eq_some hfind, hfromFile, if_pos hoffer⟩
    · exact .inl (if_neg hoffer)

end Handlers

section Step

variable {s : MoonOrbitFragment}

theorem renameTarget_eq_some {event : MoonEvent} {moonWorldId : BitVec 64}
    (h : renameTarget s event = some moonWorldId) :
    s.table.has moonWorldId = false ∧ ∃ content, ∀ calls, step s (event, calls) =
      onAddMoonOrbitEvent calls moonWorldId moonWorldId true
        { s with tempFile := some content } := by
  match event with
  | .selectFile content true =>
    rw [renameTarget, Option.ite_none_right_eq_some, Option.some.injEq] at h
    obtain ⟨⟨hpos, hnew⟩, rfl⟩ := h
    refine ⟨hnew, content, fun calls => ?_⟩
    rw [step, onSelectFile, if_neg (by simpa using hpos)]

theorem mem_rows_step {e : MoonEvent × FileCalls} {row : MoonOrbit}
    (hrow : row ∈ (step s e).table.rows) (hfromFile : row.fromFile = true) :
    row ∈ s.table.rows ∨ renameTarget s e.1 = some row.moonWorldId := by
  obtain ⟨event, calls⟩ := e
  cases event with
  | selectFile content copied =>
    rw [step, onSelectFile] at hrow
    split at hrow
    next => exact .inl (by simpa using hrow)
    next hok =>
      obtain ⟨hcopied, hpos⟩ : copied = true ∧ 0 ≤ (checkTempMoonFile content).toInt := by
        simpa using hok
      rcases mem_onAddMoonOrbitEvent hrow with hold | ⟨hnew, rfl⟩
      · exact .inl hold
      · exact .inr (by rw [hcopied, renameTarget, if_pos ⟨hpos, hnew⟩])
  | addOrbit moonWorldId moonSeed =>
    rcases mem_onAddMoonOrbitEvent hrow with hold | ⟨-, rfl⟩
    · exact .inl hold
    · exact nomatch hfromFile
  | removeOrbit moonWorldId moonSeed =>
    rw [step] at hrow
    rcases onRemoveMoonOrbitEvent_cases calls moonWorldId moonSeed s with hsame | ⟨_, hremoved⟩
    · exact .inl (hsame ▸ hrow)
    · rw [hremoved] at hrow
      exact .inl (MoonTable.mem_delete.mp hrow).1
  | deleteCache moonWorldId cacheFile =>
    rw [step] at hrow
    rcases onLongClick_cases calls moonWorldId cacheFile s with hsame | ⟨_, _, _, hdeleted⟩
    · exact .inl (hsame ▸ hrow)
    · rw [hdeleted, table_deleteCacheFile] at hrow
      exact .inl hrow

theorem keepsFiles (s : MoonOrbitFragment) (e : MoonEvent × FileCalls) : KeepsFiles s e := by
  intro row hrow hfromFile hfile
  rcases hfile with hfile | ⟨htarget, hrename⟩
  · obtain ⟨event, calls⟩ := e
    cases event with
    | selectFile content copied =>
      rw [step, onSelectFile]
      split
      · exact (hasFile_congr files_clearTempFile _).trans hfile
      · exact hasFile_onAddMoonOrbitEvent (.inl hfile)
    | addOrbit moonWorldId moonSeed => exact hasFile_onAddMoonOrbitEvent (.inl hfile)
    | removeOrbit moonWorldId moonSeed =>
      rw [step] at hrow ⊢
      rcases onRemoveMoonOrbitEvent_cases calls moonWorldId moonSeed s with hsame | ⟨_, hremoved⟩
      · rwa [hsame]
      · rw [hremoved] at hrow ⊢
        -- a row that is left has another key than the deleted one
        have hne := (MoonTable.mem_delete.mp hrow).2
        rwa [hasFile, files_deleteCacheFile_of_ne hne]
    | deleteCache moonWorldId cacheFile =>
      rw [step] at hrow ⊢
      rcases onLongClick_cases calls moonWorldId cacheFile s with
        hsame | ⟨mItem, hmem, hmItem, hdel⟩
      · rwa [hsame]
      · rw [hdel, table_deleteCacheFile] at hrow
        -- the moon of the menu is not from a file, so this row is another one
        have hne : row.moonWorldId ≠ mItem.moonWorldId := by
          intro hkey
          rw [MoonTable.row_eq hrow hmem hkey, hmItem] at hfromFile
          exact nomatch hfromFile
        rwa [hdel, hasFile, files_deleteCacheFile_of_ne hne]
  · obtain ⟨hnew, content, hstep⟩ := renameTarget_eq_some htarget
    rw [hstep]
    exact hasFile_onAddMoonOrbitEvent (.inr ⟨hnew, rfl, rfl, hrename, rfl⟩)

theorem leavesTable_iff {e : MoonEvent × FileCalls} : LeavesTable s e ↔ ¬ RenameFails s e := by
  constructor
  · intro hleaves hfails
    obtain ⟨moonWorldId, htarget⟩ := Option.isSome_iff_exists.mp hfails.1
    obtain ⟨hnew, content, hstep⟩ := renameTarget_eq_some htarget
    have htable := hleaves hfails
    rw [hstep, table_onAddMoonOrbitEvent (s := { s with tempFile := some content }) hnew] at htable
    exact MoonTable.insert_ne hnew htable
  · intro hfails h
    exact absurd h hfails

theorem backed_step {e : MoonEvent × FileCalls} (h : Backed s) (he : ¬ RenameFails s e) :
    Backed (step s e) := by
  intro row hrow hfromFile
  apply keepsFiles s e row hrow hfromFile
  rcases mem_rows_step hrow hfromFile with hold | htarget
  · exact .inl (h row hold hfromFile)
  · right
    have hrename : e.2.renameTo ≠ false := fun hfalse => he ⟨by rw [htarget]; rfl, hfalse⟩
    exact ⟨htarget, by simpa using hrename⟩

end Step

/-- Through every sequence of events the moons from files keep their files, and these are there
if `renameTo` has succeeded. The failed imports leave the table as it was exactly if there are
none. Without them, every moon from a file always has its file. -/
theorem importedMoons_iff (s : MoonOrbitFragment) (events : List (MoonEvent × FileCalls)) :
    Run.Along step KeepsFiles s events ∧
      (Run.Along step LeavesTable s events ↔
        Run.Along step (fun s e => ¬ RenameFails s e) s events) ∧
      (Backed s → Run.Along step (fun s e => ¬ RenameFails s e) s events →
        Run.Throughout step Backed s events) := by
  have hkeeps : ∀ s e, True → KeepsFiles s e := fun s e _ => keepsFiles s e
  have hleaves : ∀ s e, True → (LeavesTable s e ↔ ¬ RenameFails s e) :=
    fun _ _ _ => leavesTable_iff
  refine ⟨?_, ?_, ?_⟩
  · exact Run.along_of_step (fun _ _ _ => trivial) hkeeps events trivial
  · exact Run.along_congr_of_step (fun _ _ _ => trivial) hleaves events trivial
  · exact Run.throughout_of_along fun _ _ => backed_step

/-- A moon file is selected for an empty table, and `renameTo` fails. The table has the moon
then, but there is no file. -/
theorem onSelectFile_renameFails :
    let s : MoonOrbitFragment := ⟨⟨[], List.nodup_nil⟩, fun _ => none, none⟩
    let e : MoonEvent × FileCalls :=
      (.selectFile [0x7f, 0, 0, 0, 1, 2, 3, 4, 5] true, ⟨false, true⟩)
    RenameFails s e ∧ (step s e).table.rows = [⟨0x0102030405, 0x0102030405, true⟩] ∧
      (step s e).hasFile 0x0102030405 = false ∧ ¬ LeavesTable s e := by
  have hfails : RenameFails ⟨⟨[], List.nodup_nil⟩, fun _ => none, none⟩
      (.selectFile [0x7f, 0, 0, 0, 1, 2, 3, 4, 5] true, ⟨false, true⟩) := ⟨by decide, rfl⟩
  exact ⟨hfails, by decide, by decide, fun h => leavesTable_iff.mp h hfails⟩

end MoonOrbitFragment

end XnetZt
