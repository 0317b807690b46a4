import Mathlib.Logic.Function.Basic
import XnetZt.Lib.Java
import XnetZt.Lib.Text

/-!
# State objects in files

The core keeps its identity, network configurations and peers through two callbacks, which
store each object in a file of its own. The path of a file determines the object, so the files
are a map. To delete an object the core puts the null pointer with a negative length. The
callback does not look at the sign, but `fopen` has emptied the file before `fwrite` fails
on the null pointer, and an empty file is read as none.
-/

namespace XnetZt.Libxnet

/-- `enum ZT_StateObjectType`; the types without a file are `other`. -/
inductive StateObjectType
  | identityPublic
  | identitySecret
  | planet
  | networkConfig
  | peer
  | other
  deriving DecidableEq

/-- The contents of the files by path. -/
abbrev Files := Text → Option Bytes

/-- What is in a buffer of `sz` bytes before the terminating zero. -/
def snprintf (sz : ℕ) (text : Text) : Text := text.take (sz - 1)

/-- The path for a type and `id[0]`. -/
def makeStatePath (gHome : Text) (sz : ℕ) (type : StateObjectType) (id : BitVec 64) : Text :=
  match type with
  | .identityPublic => snprintf sz (gHome ++ "/identity.public".toList)
  | .identitySecret => snprintf sz (gHome ++ "/identity.secret".toList)
  | .planet => snprintf sz (gHome ++ "/planet".toList)
  | .networkConfig =>
    snprintf sz (gHome ++ ("/networks.d/".toList ++ (Text.hex 16 id.toNat ++ ".conf".toList)))
  | .peer =>
    snprintf sz (gHome ++ ("/peers.d/".toList ++ (Text.hex 10 id.toNat ++ ".peer".toList)))
  | .other => []

/-- What `fwrite(data, 1, len, f)` puts into an empty file, with `len` as a `size_t`. From the
null pointer nothing is written, because `write` fails with `EFAULT`. There is no result if
the length is more than the data has. -/
def fwrite (data : Option Bytes) (len : ℤ) : Option Bytes :=
  match data with
  | none => some []
  | some data =>
    let count := (len % 2 ^ 64).toNat
    if count ≤ data.length then some (data.take count) else none

/-- With `mkdir` and `fopen` that succeed; the data may be the null pointer. -/
def cbStatePut (gHome : Text) (files : Files) (type : StateObjectType) (id : BitVec 64)
    (data : Option Bytes) (len : ℤ) : Option Files :=
  let path := makeStatePath gHome 512 type id
  if path = [] then some files
  else (fwrite data len).map fun content => Function.update files path (some content)

/-- `fread` from a file if there is one, with its result as an `int`. -/
def readInto (file : Option Bytes) (maxlen : ℕ) : ℤ × Bytes :=
  match file with
  | none => (-1, [])
  | some content =>
    let n := Int.bmod (content.take maxlen).length (2 ^ 32)
    (if 0 < n then n else -1, content.take maxlen)

def cbStateGet (gHome : Text) (files : Files) (type : StateObjectType) (id : BitVec 64)
    (maxlen : ℕ) : ℤ × Bytes :=
  let path := makeStatePath gHome 512 type id
  if path = [] then (-1, [])
  else
    let mars := readInto (files (snprintf 512 (gHome ++ "/mars".toList))) maxlen
    if type = .planet ∧ 0 < mars.1 then mars else readInto (files path) maxlen

/-! ### Objects and their files -/

/-- An identity is one object, whatever the id. -/
inductive StateObject
  | identityPublic
  | identitySecret
  | networkConfig (id : BitVec 64)
  | peer (id : BitVec 64)
  deriving DecidableEq

/-- A type with a file, other than the planet, and an id. -/
structure StateKey where
  type : StateObjectType
  id : BitVec 64
  stored : type ≠ .planet ∧ type ≠ .other

def StateKey.object (k : StateKey) : StateObject :=
  match k.type with
  | .identitySecret => .identitySecret
  | .networkConfig => .networkConfig k.id
  | .peer => .peer k.id
  | _ => .identityPublic

def StateKey.path (gHome : Text) (k : StateKey) : Text := makeStatePath gHome 512 k.type k.id

/-- The path within the home directory. -/
def StateObject.relativePath : StateObject → Text
  | identityPublic => "/identity.public".toList
  | identitySecret => "/identity.secret".toList
  | networkConfig id => "/networks.d/".toList ++ (Text.hex 16 id.toNat ++ ".conf".toList)
  | peer id => "/peers.d/".toList ++ (Text.hex 10 id.toNat ++ ".peer".toList)

namespace StateObject

theorem length_format_le {start ending : Text} {width : ℕ} (hwidth : width ≤ 16)
    (id : BitVec 64) : (start ++ (Text.hex width id.toNat ++ ending)).length ≤
      start.length + (16 + ending.length) := by
  have hid : id.toNat < 16 ^ 16 := lt_of_lt_of_eq id.isLt (by norm_num)
  have hhex : (Text.hex width id.toNat).length ≤ max width 16 :=
    Text.length_hex_le (by decide) hid
  rw [List.length_append, List.length_append]
  omega

theorem length_relativePath (o : StateObject) : o.relativePath.length ≤ 33 := by
  cases o with
  | identityPublic => decide
  | identitySecret => decide
  | networkConfig id => exact (length_format_le (by decide) id).trans (by decide)
  | peer id => exact (length_format_le (by decide) id).trans (by decide)

/-- Two paths with different second letters, or two of the same form. -/
theorem relativePath_injective : Function.Injective relativePath := by
  intro o o' h
  have hletter : o.relativePath.getD 1 ' ' = o'.relativePath.getD 1 ' ' := by rw [h]
  cases o with
  | identityPublic =>
    cases o' with
    | identityPublic => rfl
    | identitySecret => exact absurd h (by decide)
    | networkConfig id' => exact absurd hletter (by decide : 'i' ≠ 'n')
    | peer id' => exact absurd hletter (by decide : 'i' ≠ 'p')
  | identitySecret =>
    cases o' with
    | identityPublic => exact absurd h (by decide)
    | identitySecret => rfl
    | networkConfig id' => exact absurd hletter (by decide : 'i' ≠ 'n')
    | peer id' => exact absurd hletter (by decide : 'i' ≠ 'p')
  | networkConfig id =>
    cases o' with
    | identityPublic => exact absurd hletter (by decide : 'n' ≠ 'i')
    | identitySecret => exact absurd hletter (by decide : 'n' ≠ 'i')
    | networkConfig id' =>
      unfold relativePath at h
      exact congrArg networkConfig (BitVec.eq_of_toNat_eq (Text.eq_of_format_eq h))
    | peer id' => exact absurd hletter (by decide : 'n' ≠ 'p')
  | peer id =>
    cases o' with
    | identityPublic => exact absurd hletter (by decide : 'p' ≠ 'i')
    | identitySecret => exact absurd hletter (by decide : 'p' ≠ 'i')
    | networkConfig id' => exact absurd hletter (by decide : 'p' ≠ 'n')
    | peer id' =>
      unfold relativePath at h
      exact congrArg peer (BitVec.eq_of_toNat_eq (Text.eq_of_format_eq h))

end StateObject

section Path

variable {gHome : Text} (hhome : gHome.length < 256)

include hhome

/-- The home directory is short enough for every path. -/
theorem StateKey.path_eq (k : StateKey) : k.path gHome = gHome ++ k.object.relativePath := by
  have hfits : snprintf 512 (gHome ++ k.object.relativePath) = gHome ++ k.object.relativePath := by
    have hlength := k.object.length_relativePath
    apply List.take_of_length_le
    rw [List.length_append]
    omega
  rw [← hfits]
  obtain ⟨type, id, hplanet, hother⟩ := k
  cases type with
  | identityPublic => rfl
  | identitySecret => rfl
  | planet => exact absurd rfl hplanet
  | networkConfig => rfl
  | peer => rfl
  | other => exact absurd rfl hother

theorem StateKey.path_eq_iff (k k' : StateKey) :
    k.path gHome = k'.path gHome ↔ k.object = k'.object := by
  rw [k.path_eq hhome, k'.path_eq hhome, List.append_right_inj,
    StateObject.relativePath_injective.eq_iff]

theorem StateKey.path_ne_nil (k : StateKey) : k.path gHome ≠ [] := by
  rw [k.path_eq hhome]
  apply List.append_ne_nil_of_right_ne_nil
  cases k.object <;> exact List.cons_ne_nil _ _

theorem cbStateGet_eq (files : Files) (k : StateKey) (maxlen : ℕ) :
    cbStateGet gHome files k.type k.id maxlen = readInto (files (k.path gHome)) maxlen := by
  have hpath : makeStatePath gHome 512 k.type k.id ≠ [] := k.path_ne_nil hhome
  rw [cbStateGet, if_neg hpath, if_neg fun hplanet => k.stored.1 hplanet.1]
  rfl

end Path

/-! ### The map -/

/-- The arguments of a put: data of at least the length, or the null pointer, which the core
puts with a negative length. -/
structure Payload where
  data : Option Bytes
  len : ℤ
  isInt : -2 ^ 31 ≤ len ∧ len < 2 ^ 31
  len_le : len ≤ (data.getD []).length
  null_of_neg : len < 0 → data = none

/-- What the object is to be. A negative length asks to delete it. -/
def Payload.content (p : Payload) : Option Bytes :=
  if 0 ≤ p.len then some ((p.data.getD []).take p.len.toNat) else none

inductive StateCall
  | put (k : StateKey) (p : Payload)
  | get (k : StateKey) (maxlen : ℕ)

/-- What a get may answer for the latest content of an object. -/
def Answers (content : Option Bytes) (maxlen : ℕ) (r : ℤ × Bytes) : Prop :=
  match content with
  | none => r.1 = -1
  | some content =>
    1 ≤ content.length → content.length ≤ maxlen → r = ((content.length : ℤ), content)

/-- The calls answer as a map with the contents `m` does, and a put of one object leaves the
others alone. -/
def Implements (gHome : Text) : Files → (StateObject → Option Bytes) → List StateCall → Prop
  | _, _, [] => True
  | files, m, .get k maxlen :: calls =>
    Answers (m k.object) maxlen (cbStateGet gHome files k.type k.id maxlen) ∧
      Implements gHome files m calls
  | files, m, .put k p :: calls =>
    ∃ files', cbStatePut gHome files k.type k.id p.data p.len = some files' ∧
      (∀ k' : StateKey, k'.object ≠ k.object → ∀ maxlen,
        cbStateGet gHome files' k'.type k'.id maxlen =
          cbStateGet gHome files k'.type k'.id maxlen) ∧
      Implements gHome files' (Function.update m k.object p.content) calls

/-- What the file of an object holds: its content, or nothing if it was deleted. -/
inductive FileOf : Option Bytes → Option Bytes → Prop
  | same (content : Option Bytes) : FileOf content content
  | emptied : FileOf none (some [])

/-- The files hold the contents of the map, which fit into an `int`. -/
structure Holds (gHome : Text) (files : Files) (m : StateObject → Option Bytes) : Prop where
  file : ∀ k : StateKey, FileOf (m k.object) (files (k.path gHome))
  length_lt : ∀ o content, m o = some content → content.length < 2 ^ 31

/-- A put leaves the content in the file, which a deletion only empties. -/
theorem exists_fwrite (p : Payload) :
    ∃ content, fwrite p.data p.len = some content ∧ FileOf p.content (some content) := by
  have hint := p.isInt
  have hle := p.len_le
  by_cases hlen : 0 ≤ p.len
  · refine ⟨(p.data.getD []).take p.len.toNat, ?_, ?_⟩
    · cases hdata : p.data with
      | none => simp [fwrite]
      | some data =>
        rw [hdata, Option.getD_some] at hle
        have hcount : (p.len % 2 ^ 64).toNat = p.len.toNat := by omega
        have hfits : p.len.toNat ≤ data.length := by omega
        rw [fwrite, hcount, if_pos hfits, Option.getD_some]
    · rw [Payload.content, if_pos hlen]
      exact .same _
  · refine ⟨[], ?_, ?_⟩
    · rw [p.null_of_neg (not_le.mp hlen), fwrite]
    · rw [Payload.content, if_neg hlen]
      exact .emptied

theorem Payload.length_content_lt (p : Payload) {content : Bytes} (h : p.content = some content) :
    content.length < 2 ^ 31 := by
  have hint := p.isInt
  obtain ⟨hlen, hcontent⟩ := Option.ite_none_right_eq_some.mp h
  rw [← Option.some.inj hcontent, List.length_take]
  omega

theorem readInto_eq {content : Bytes} {maxlen : ℕ} (hlt : content.length < 2 ^ 31)
    (hpos : 1 ≤ content.length) (hle : content.length ≤ maxlen) :
    readInto (some content) maxlen = ((content.length : ℤ), content) := by
  have htake := List.take_of_length_le hle
  have hint : Int.bmod (content.length : ℤ) (2 ^ 32) = content.length := by
    rw [Int.bmod_def]
    split_ifs <;> omega
  have hpos' : (0 : ℤ) < content.length := by omega
  unfold readInto
  simp only [htake, hint, if_pos hpos']

theorem readInto_nil (maxlen : ℕ) : readInto (some []) maxlen = (-1, []) := by
  have hmod : Int.bmod (([] : Bytes).length : ℤ) (2 ^ 32) = 0 := Int.zero_bmod
  unfold readInto
  simp only [List.take_nil, hmod, if_neg (lt_irrefl (0 : ℤ))]

theorem FileOf.answers {content file : Option Bytes} (h : FileOf content file)
    (hlt : ∀ c, content = some c → c.length < 2 ^ 31) (maxlen : ℕ) :
    Answers content maxlen (readInto file maxlen) := by
  cases h with
  | same =>
    cases content with
    | none => rfl
    | some content =>
      intro hpos hle
      exact readInto_eq (hlt content rfl) hpos hle
  | emptied => exact congrArg Prod.fst (readInto_nil maxlen)

section Run

variable {gHome : Text} (hhome : gHome.length < 256) {files : Files}
  {m : StateObject → Option Bytes}

include hhome

theorem Holds.put (h : Holds gHome files m) (k : StateKey) {p : Payload} {content : Bytes}
    (hp : FileOf p.content (some content)) :
    Holds gHome (Function.update files (k.path gHome) (some content))
      (Function.update m k.object p.content) where
  file k' := by
    by_cases hobject : k'.object = k.object
    · rw [(k'.path_eq_iff hhome k).mpr hobject, hobject, Function.update_self,
        Function.update_self]
      exact hp
    · rw [Function.update_of_ne (mt (k'.path_eq_iff hhome k).mp hobject),
        Function.update_of_ne hobject]
      exact h.file k'
  length_lt o c hc := by
    by_cases hobject : o = k.object
    · rw [hobject, Function.update_self] at hc
      exact p.length_content_lt hc
    · rw [Function.update_of_ne hobject] at hc
      exact h.length_lt o c hc

/-- From files that hold the contents of a map, the callbacks are that map. -/
theorem Holds.implements (h : Holds gHome files m) (calls : List StateCall) :
    Implements gHome files m calls := by
  induction calls generalizing files m with
  | nil => trivial
  | cons call calls ih =>
    cases call with
    | get k maxlen =>
      refine ⟨?_, ih h⟩
      rw [cbStateGet_eq hhome]
      exact (h.file k).answers (h.length_lt k.object) maxlen
    | put k p =>
      obtain ⟨content, hwrite, hcontent⟩ := exists_fwrite p
      have hpath : makeStatePath gHome 512 k.type k.id ≠ [] := k.path_ne_nil hhome
      refine ⟨Function.update files (k.path gHome) (some content), ?_, fun k' hobject maxlen => ?_,
        ih (h.put hhome k hcontent)⟩
      · rw [cbStatePut, if_neg hpath, hwrite]
        rfl
      · rw [cbStateGet_eq hhome, cbStateGet_eq hhome,
          Function.update_of_ne (mt (k'.path_eq_iff hhome k).mp hobject)]

end Run

/-- From a home directory without the files of any object, the callbacks are a map that is
empty at first. -/
theorem stateCallbacks_implement_map {gHome : Text} (hhome : gHome.length < 256) {files : Files}
    (hfresh : ∀ k : StateKey, files (k.path gHome) = none) (calls : List StateCall) :
    Implements gHome files (fun _ => none) calls := by
  have hholds : Holds gHome files fun _ => none := by
    refine ⟨fun k => ?_, fun _ _ hc => by cases hc⟩
    rw [hfresh k]
    exact .same none
  exact hholds.implements hhome calls

def exampleHome : Text := "/data/zt".toList

def exampleConfig : StateKey := ⟨.networkConfig, 0x8056c2e21c000001, by decide⟩

def examplePeer : StateKey := ⟨.peer, 0x8056c2e21c, by decide⟩

/-- The core stores two objects, and deletes one of them again. -/
theorem stateCallbacks_implement_map_deletion : exampleHome.length < 256 ∧
    Implements exampleHome (fun _ => none) (fun _ => none)
      [.put exampleConfig ⟨some [1, 2, 3], 3, by decide, by decide, by decide⟩,
        .put examplePeer ⟨some [4], 1, by decide, by decide, by decide⟩,
        .put exampleConfig ⟨none, -1, by decide, by decide, by decide⟩,
        .get exampleConfig 4096] :=
  ⟨by decide, stateCallbacks_implement_map (by decide) (fun _ => rfl) _⟩

end XnetZt.Libxnet
