import Mathlib.Logic.Function.Basic
import XnetZt.Lib.Java
import XnetZt.Lib.Text

/-!
# The files of the ZeroTier core

`onDataStorePut` creates the directories of a file, opens it for writing, which empties it, and
writes the new content. Each of these can fail. If it reports a failure, the old content is
still there only if the file was not opened, or if what reached it happens to be the same.
-/

namespace XnetZt

inductive Node
  | file (content : Bytes)
  | directory
  deriving DecidableEq

/-- How names become files. Different names may stand for one file; every directory above a
file has a name of its own. -/
structure Layout (Path : Type) where
  resolve : Text → Path
  parents : Path → List Path
  notMem_parents : ∀ p, p ∉ parents p
  exists_name : ∀ p, ∀ q ∈ parents p, ∃ name, name ≠ "planet".toList ∧ resolve name = q

/-- How far the system calls of one `onDataStorePut` get: how many of the missing directories
are made, whether the file can be opened, after how many bytes the write fails, if it does,
and whether the file can be closed. -/
structure Disk where
  made : ℕ
  opens : Bool
  writeFails : Option ℕ
  closes : Bool

namespace DataStore

section Files

variable {Path : Type} [DecidableEq Path] (layout : Layout Path)

/-- The directories `mkdirs` makes. -/
def newDirectories (disk : Disk) (files : Path → Option Node) (target : Path) : List Path :=
  ((layout.parents target).filter (files · = none)).take disk.made

def mkdirs (disk : Disk) (files : Path → Option Node) (target : Path) : Path → Option Node :=
  fun p => if p ∈ newDirectories layout disk files target then some .directory else files p

/-- `new FileOutputStream(target)` needs the directories, and a target that is not one. -/
def opens (disk : Disk) (files : Path → Option Node) (target : Path) : Bool :=
  disk.opens && (layout.parents target).all (files · = some .directory) &&
    files target ≠ some .directory

/-- What of the buffer is in the file afterwards. -/
def written (disk : Disk) (buffer : Bytes) : Bytes :=
  match disk.writeFails with
  | none => buffer
  | some n => buffer.take n

def onDataStorePut (disk : Disk) (files : Path → Option Node) (name : Text) (buffer : Bytes) :
    (Path → Option Node) × ℤ :=
  if name = "planet".toList then (files, 0)
  else
    let target := layout.resolve name
    let files := mkdirs layout disk files target
    if opens layout disk files target then
      let files := Function.update files target (some (.file (written disk buffer)))
      if disk.writeFails = none ∧ disk.closes then (files, 0) else (files, -1)
    else (files, -1)

/-- The result and the bytes put into a buffer of `size` bytes. -/
def readFileInto (file : Option Node) (size : ℕ) : ℤ × Bytes :=
  match file with
  | none => (-1, [])
  | some .directory => (-2, [])
  | some (.file content) =>
    if size = 0 then (0, [])
    else if content = [] then (-1, [])
    else ((content.take size).length, content.take size)

def onDataStoreGet (files : Path → Option Node) (name : Text) (size : ℕ) : ℤ × Bytes :=
  if name = "planet".toList ∧ files (layout.resolve "mars".toList) ≠ none then
    readFileInto (files (layout.resolve "mars".toList)) size
  else readFileInto (files (layout.resolve name)) size

end Files

/-! ### What a get shows of a file -/

theorem readFileInto_file (content : Bytes) (n : ℕ) :
    (readFileInto (some (.file content)) (n + 1)).2 = content.take (n + 1) := by
  cases content <;> rfl

/-- Gets with buffers of all sizes tell all nodes apart. -/
theorem eq_of_readFileInto {file file' : Option Node}
    (h : ∀ size, readFileInto file size = readFileInto file' size) : file = file' := by
  have hkind := congrArg Prod.fst (h 0)
  match file, file' with
  | none, none => rfl
  | some .directory, some .directory => rfl
  | some (.file content), some (.file content') =>
    have hcontent := congrArg Prod.snd (h (content.length + content'.length + 1))
    rw [readFileInto_file, readFileInto_file, List.take_of_length_le (by omega),
      List.take_of_length_le (by omega)] at hcontent
    rw [hcontent]
  | none, some .directory => cases hkind
  | none, some (.file _) => cases hkind
  | some .directory, none => cases hkind
  | some .directory, some (.file _) => cases hkind
  | some (.file _), none => cases hkind
  | some (.file _), some .directory => cases hkind

section Get

variable {Path : Type} {layout : Layout Path} {files files' : Path → Option Node} {name : Text}

theorem onDataStoreGet_of_ne (h : name ≠ "planet".toList) (size : ℕ) :
    onDataStoreGet layout files name size = readFileInto (files (layout.resolve name)) size :=
  if_neg fun hplanet => h hplanet.1

/-- Gets of all names return the same. -/
def SameGets (layout : Layout Path) (files files' : Path → Option Node) : Prop :=
  ∀ name size, onDataStoreGet layout files' name size = onDataStoreGet layout files name size

/-- Together they show every file that has a name. -/
theorem SameGets.eq (h : SameGets layout files files') (hname : name ≠ "planet".toList) :
    files' (layout.resolve name) = files (layout.resolve name) := by
  apply eq_of_readFileInto
  intro size
  rw [← onDataStoreGet_of_ne hname, ← onDataStoreGet_of_ne hname, h]

end Get

/-! ### Failed puts -/

section Put

variable {Path : Type} [DecidableEq Path] {layout : Layout Path}

/-- Every system call succeeds. -/
def Succeeds (layout : Layout Path) (disk : Disk) (files : Path → Option Node) (target : Path) :
    Prop :=
  opens layout disk (mkdirs layout disk files target) target = true ∧ disk.writeFails = none ∧
    disk.closes = true

/-- No directory is made, and the file is not opened or gets its old content. -/
def Untouched (layout : Layout Path) (disk : Disk) (files : Path → Option Node) (target : Path)
    (buffer : Bytes) : Prop :=
  newDirectories layout disk files target = [] ∧
    (opens layout disk files target = true → files target = some (.file (written disk buffer)))

variable {disk : Disk} {files : Path → Option Node} {name : Text} {buffer : Bytes}

theorem onDataStorePut_snd (hname : name ≠ "planet".toList) :
    (onDataStorePut layout disk files name buffer).2 = -1 ↔
      ¬ Succeeds layout disk files (layout.resolve name) := by
  unfold onDataStorePut Succeeds
  rw [if_neg hname]
  dsimp only
  split_ifs with hopens hwritten <;> simp_all

/-- The files after the target was opened and written, as far as that went. -/
def stored (layout : Layout Path) (disk : Disk) (files : Path → Option Node) (target : Path)
    (buffer : Bytes) : Path → Option Node :=
  if opens layout disk files target then
    Function.update files target (some (.file (written disk buffer)))
  else files

theorem onDataStorePut_fst (hname : name ≠ "planet".toList) :
    (onDataStorePut layout disk files name buffer).1 =
      stored layout disk (mkdirs layout disk files (layout.resolve name)) (layout.resolve name)
        buffer := by
  unfold onDataStorePut stored
  rw [if_neg hname]
  dsimp only
  split_ifs <;> rfl

theorem mkdirs_eq_self {target : Path} (h : newDirectories layout disk files target = []) :
    mkdirs layout disk files target = files := by
  unfold mkdirs
  rw [h]
  simp

/-- A directory that was made is still there. -/
theorem onDataStorePut_newDirectory (hname : name ≠ "planet".toList) {q : Path}
    (hq : q ∈ newDirectories layout disk files (layout.resolve name)) :
    (onDataStorePut layout disk files name buffer).1 q = some .directory := by
  have hparent : q ∈ layout.parents (layout.resolve name) :=
    List.mem_of_mem_filter (List.mem_of_mem_take hq)
  have hne : q ≠ layout.resolve name := fun heq => layout.notMem_parents _ (heq ▸ hparent)
  have hmade : mkdirs layout disk files (layout.resolve name) q = some .directory := if_pos hq
  rw [onDataStorePut_fst hname, stored]
  split_ifs
  · rw [Function.update_of_ne hne, hmade]
  · exact hmade

theorem sameGets_onDataStorePut_iff (hname : name ≠ "planet".toList) :
    SameGets layout files (onDataStorePut layout disk files name buffer).1 ↔
      Untouched layout disk files (layout.resolve name) buffer := by
  constructor
  · intro h
    have hnone : newDirectories layout disk files (layout.resolve name) = [] := by
      refine List.eq_nil_iff_forall_not_mem.mpr fun q hq => ?_
      obtain ⟨hparent, hmissing⟩ := List.mem_filter.mp (List.mem_of_mem_take hq)
      obtain ⟨name', hname', rfl⟩ := layout.exists_name _ q hparent
      have hsame := h.eq hname'
      rw [onDataStorePut_newDirectory hname hq, of_decide_eq_true hmissing] at hsame
      cases hsame
    refine ⟨hnone, fun hopens => ?_⟩
    have hsame := h.eq hname
    rw [onDataStorePut_fst hname, mkdirs_eq_self hnone, stored, if_pos hopens,
      Function.update_self] at hsame
    exact hsame.symm
  · rintro ⟨hnone, hcontent⟩
    have hfiles : (onDataStorePut layout disk files name buffer).1 = files := by
      rw [onDataStorePut_fst hname, mkdirs_eq_self hnone, stored]
      split_ifs with hopens
      · rw [← hcontent hopens, Function.update_eq_self]
      · rfl
    rw [hfiles]
    exact fun _ _ => rfl

/-- A put that reports a failure leaves everything as it was exactly if it left the file alone. -/
theorem onDataStorePut_atomic_iff (layout : Layout Path) (disk : Disk) (files : Path → Option Node)
    {name : Text} (hname : name ≠ "planet".toList) (buffer : Bytes) :
    ((onDataStorePut layout disk files name buffer).2 = -1 →
        SameGets layout files (onDataStorePut layout disk files name buffer).1) ↔
      Succeeds layout disk files (layout.resolve name) ∨
        Untouched layout disk files (layout.resolve name) buffer := by
  rw [onDataStorePut_snd hname, sameGets_onDataStorePut_iff hname, or_iff_not_imp_left]

end Put

/-- A directory without subdirectories. -/
def flat : Layout Text where
  resolve := id
  parents _ := []
  notMem_parents _ := List.not_mem_nil
  exists_name _ _ hq := absurd hq List.not_mem_nil

/-- The only file, with some content. -/
def secretFile : Text → Option Node :=
  fun p => if p = "identity.secret".toList then some (.file [1, 2, 3]) else none

/-- The file cannot be opened. -/
theorem onDataStorePut_atomic_unopened : "identity.secret".toList ≠ "planet".toList ∧
    SameGets flat secretFile
      (onDataStorePut flat ⟨0, false, none, true⟩ secretFile "identity.secret".toList [4]).1 :=
  ⟨by decide, (onDataStorePut_atomic_iff flat ⟨0, false, none, true⟩ secretFile (by decide) [4]).mpr
    (Or.inr ⟨rfl, fun h => absurd h (by decide)⟩) rfl⟩

/-- The file is opened, and the write fails before the first byte. -/
theorem onDataStorePut_truncates :
    let r := onDataStorePut flat ⟨0, true, some 0, true⟩ secretFile "identity.secret".toList [4]
    r.2 = -1 ∧ onDataStoreGet flat secretFile "identity.secret".toList 64 = (3, [1, 2, 3]) ∧
      onDataStoreGet flat r.1 "identity.secret".toList 64 = (-1, []) := by
  decide

end DataStore

end XnetZt
