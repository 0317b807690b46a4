import Mathlib.Data.List.AList
import Mathlib.Data.List.GetD
import Mathlib.Tactic
import XnetZt.Lib.BigEndian

/-!
# Java arrays, exceptions and hash maps

Byte arrays are lists of 8-bit words. A read, a write or a `System.arraycopy` outside
an array raises an exception, so each of these returns in `Except`. A `HashMap` is an
association list without duplicate keys; its iteration order is unspecified, so code
that iterates takes the order as a parameter.
-/

namespace XnetZt

abbrev Byte := BitVec 8

abbrev Bytes := List Byte

/-- The runtime exceptions the modelled code can raise. -/
inductive JavaException
  | arrayIndexOutOfBounds
  | illegalArgument
  deriving DecidableEq, Repr

section Except

variable {ε α β : Type}

@[simp] theorem ok_bind (a : α) (f : α → Except ε β) : (Except.ok a >>= f) = f a := rfl

@[simp] theorem error_bind (e : ε) (f : α → Except ε β) :
    (Except.error e >>= f) = Except.error e := rfl

@[simp] theorem pure_eq_ok (a : α) : (pure a : Except ε α) = Except.ok a := rfl

theorem bind_eq_ok {x : Except ε α} {f : α → Except ε β} {b : β} :
    x >>= f = Except.ok b ↔ ∃ a, x = Except.ok a ∧ f a = Except.ok b := by
  cases x <;> simp

/-- What every round of a loop adds to a relation, the loop adds up. -/
theorem foldlM_iff {ρ : Type} {f : β → α → Except ε β} {R : β → ρ → Prop} {Q : α → ρ → Prop}
    (hstep : ∀ s a s', f s a = .ok s' → ∀ r, R s' r ↔ R s r ∨ Q a r) {l : List α} {s s' : β}
    (h : l.foldlM f s = .ok s') (r : ρ) : R s' r ↔ R s r ∨ ∃ a ∈ l, Q a r := by
  induction l generalizing s with
  | nil =>
    cases h
    simp
  | cons a l ih =>
    rw [List.foldlM_cons, bind_eq_ok] at h
    obtain ⟨t, ht, h⟩ := h
    rw [ih h, hstep s a t ht, or_assoc, List.exists_mem_cons_iff]

/-- A loop all of whose rounds succeed succeeds. -/
theorem exists_foldlM_eq_ok {f : β → α → Except ε β} {l : List α}
    (h : ∀ a ∈ l, ∀ s, ∃ s', f s a = .ok s') (s : β) : ∃ s', l.foldlM f s = .ok s' := by
  induction l generalizing s with
  | nil => exact ⟨s, rfl⟩
  | cons a l ih =>
    obtain ⟨t, ht⟩ := h a List.mem_cons_self s
    rw [List.foldlM_cons, ht, ok_bind]
    exact ih (fun b hb => h b (List.mem_cons_of_mem _ hb)) t

theorem mapM_eq_map {f : α → Except ε β} {g : α → β} {l : List α}
    (h : ∀ a ∈ l, f a = .ok (g a)) : l.mapM f = .ok (l.map g) := by
  induction l with
  | nil => rfl
  | cons a l ih =>
    rw [List.mapM_cons, h a List.mem_cons_self, ok_bind,
      ih fun b hb => h b (List.mem_cons_of_mem a hb)]
    rfl

/-- A loop all of whose rounds compute `g` folds `g`. -/
theorem foldlM_eq_foldl {f : β → α → Except ε β} {g : β → α → β} {l : List α}
    (h : ∀ a ∈ l, ∀ s, f s a = .ok (g s a)) (s : β) : l.foldlM f s = .ok (l.foldl g s) := by
  induction l generalizing s with
  | nil => rfl
  | cons a l ih =>
    rw [List.foldlM_cons, h a List.mem_cons_self, ok_bind, List.foldl_cons]
    exact ih (fun b hb => h b (List.mem_cons_of_mem _ hb)) (g s a)

theorem exists_of_mapM_eq_ok {f : α → Except ε β} {l : List α} {r : List β}
    (h : l.mapM f = .ok r) : ∀ a ∈ l, ∃ b, f a = .ok b := by
  induction l generalizing r with
  | nil => exact fun a ha => absurd ha List.not_mem_nil
  | cons a l ih =>
    rw [List.mapM_cons, bind_eq_ok] at h
    obtain ⟨b, hb, h⟩ := h
    obtain ⟨r', hr', -⟩ := bind_eq_ok.mp h
    exact List.forall_mem_cons.mpr ⟨⟨b, hb⟩, ih hr'⟩

/-- A loop whose rounds do not fail and keep a relation to the rounds of another. -/
theorem foldlM_simulation {τ : Type} {f : β → α → Except ε β} {g : τ → α → τ} {R : β → τ → Prop}
    (hstep : ∀ s t a, R s t → ∃ s', f s a = .ok s' ∧ R s' (g t a)) (l : List α) {s : β} {t : τ}
    (h : R s t) : ∃ s', l.foldlM f s = .ok s' ∧ R s' (l.foldl g t) := by
  induction l generalizing s t with
  | nil => exact ⟨s, rfl, h⟩
  | cons a l ih =>
    obtain ⟨s', hf, hs'⟩ := hstep s t a h
    rw [List.foldlM_cons, hf, ok_bind]
    exact ih hs'

/-- A loop that searches and, once it has found something, does nothing more. -/
theorem foldlM_eq_any {f : Bool → α → Except ε Bool} {p : α → Bool} {l : List α}
    (hfound : ∀ a, f true a = .ok true) (hlook : ∀ a ∈ l, f false a = .ok (p a)) :
    l.foldlM f false = .ok (l.any p) := by
  have htrue : ∀ l : List α, l.foldlM f true = .ok true := by
    intro l
    induction l with
    | nil => rfl
    | cons a l ih => rw [List.foldlM_cons, hfound, ok_bind, ih]
  induction l with
  | nil => rfl
  | cons a l ih =>
    rw [List.foldlM_cons, hlook a List.mem_cons_self, ok_bind, List.any_cons]
    cases p a with
    | true => exact htrue l
    | false => exact ih fun b hb => hlook b (List.mem_cons_of_mem _ hb)

end Except

namespace Bytes

/-- `new byte[n]` -/
def zeros (n : ℕ) : Bytes := List.replicate n 0

@[simp] theorem length_zeros (n : ℕ) : (zeros n).length = n := by
  simp [zeros]

/-- `a[i]` -/
def read (a : Bytes) (i : ℕ) : Except JavaException Byte :=
  if i < a.length then .ok (a.getD i 0) else .error .arrayIndexOutOfBounds

/-- `a[i] = b` -/
def write (a : Bytes) (i : ℕ) (b : Byte) : Except JavaException Bytes :=
  if i < a.length then .ok (a.set i b) else .error .arrayIndexOutOfBounds

theorem read_eq_ok {a : Bytes} {i : ℕ} (h : i < a.length) : a.read i = .ok (a.getD i 0) :=
  if_pos h

theorem read_eq_error {a : Bytes} {i : ℕ} (h : a.length ≤ i) :
    a.read i = .error .arrayIndexOutOfBounds :=
  if_neg (by omega)

theorem write_eq_ok {a : Bytes} {i : ℕ} (b : Byte) (h : i < a.length) :
    a.write i b = .ok (a.set i b) :=
  if_pos h

/-- `length` bytes of an array from position `pos` on. -/
def slice (a : Bytes) (pos length : ℕ) : Bytes := (a.drop pos).take length

theorem length_slice {a : Bytes} {pos length : ℕ} (h : pos + length ≤ a.length) :
    (a.slice pos length).length = length := by
  simp [slice]
  omega

theorem slice_all {a : Bytes} {length : ℕ} (h : a.length = length) : a.slice 0 length = a := by
  rw [slice, List.drop_zero, List.take_of_length_le h.le]

theorem slice_append {l m r : Bytes} {pos length : ℕ} (hpos : l.length = pos)
    (hlength : m.length = length) : Bytes.slice (l ++ m ++ r) pos length = m := by
  simp [slice, ← hpos, ← hlength]

/-- A window in front of the cut. -/
theorem slice_take {a : Bytes} {n pos length : ℕ} (h : pos + length ≤ n) :
    Bytes.slice (a.take n) pos length = a.slice pos length := by
  rw [slice, slice, List.drop_take, List.take_take, min_eq_left (by omega)]

theorem getD_take {a : Bytes} {n i : ℕ} (h : i < n) : (a.take n).getD i 0 = a.getD i 0 := by
  simp [List.getD_eq_getElem?_getD, h]

/-- Overwriting a window of an array. -/
def splice (a : Bytes) (pos : ℕ) (b : Bytes) : Bytes :=
  a.take pos ++ b ++ a.drop (pos + b.length)

theorem length_splice {a b : Bytes} {pos : ℕ} (h : pos + b.length ≤ a.length) :
    (a.splice pos b).length = a.length := by
  simp [splice]
  omega

/-- The window behind a part that is already there. -/
theorem splice_append {l m b : Bytes} {pos : ℕ} (hpos : l.length = pos) :
    Bytes.splice (l ++ m) pos b = l ++ b ++ m.drop b.length := by
  subst hpos
  simp [splice, List.drop_append]

/-- The bytes outside of the window stay. -/
theorem getD_splice {a b : Bytes} {pos i : ℕ} (h : pos ≤ a.length)
    (hi : i < pos ∨ pos + b.length ≤ i) : (a.splice pos b).getD i 0 = a.getD i 0 := by
  have htake : (a.take pos).length = pos := by
    rw [List.length_take]
    omega
  rw [splice]
  rcases hi with hi | hi
  · rw [List.append_assoc, List.getD_append _ _ _ _ (by omega)]
    simp [List.getD_eq_getElem?_getD, hi]
  · rw [List.getD_append_right _ _ _ _ (by rw [List.length_append]; omega), List.length_append,
      htake, List.getD_eq_getElem?_getD, List.getElem?_drop, List.getD_eq_getElem?_getD]
    congr 2
    omega

/-- `System.arraycopy(src, srcPos, dst, dstPos, length)` -/
def arraycopy (src : Bytes) (srcPos : ℕ) (dst : Bytes) (dstPos length : ℕ) :
    Except JavaException Bytes :=
  if srcPos + length ≤ src.length ∧ dstPos + length ≤ dst.length then
    .ok (dst.splice dstPos (src.slice srcPos length))
  else .error .arrayIndexOutOfBounds

theorem arraycopy_eq_ok {src dst : Bytes} {srcPos dstPos length : ℕ}
    (hs : srcPos + length ≤ src.length) (hd : dstPos + length ≤ dst.length) :
    arraycopy src srcPos dst dstPos length =
      .ok (dst.splice dstPos (src.slice srcPos length)) :=
  if_pos ⟨hs, hd⟩

theorem arraycopy_eq_error {src dst : Bytes} {srcPos dstPos length : ℕ}
    (hs : src.length < srcPos + length) :
    arraycopy src srcPos dst dstPos length = .error .arrayIndexOutOfBounds :=
  if_neg (by omega)

theorem slice_splice {a b : Bytes} {pos length : ℕ} (hpos : pos ≤ a.length)
    (hlength : b.length = length) : (a.splice pos b).slice pos length = b :=
  slice_append (by simpa using hpos) hlength

theorem slice_splice_below {a b : Bytes} {pos i length : ℕ} (hpos : pos ≤ a.length)
    (hi : i + length ≤ pos) : (a.splice pos b).slice i length = a.slice i length := by
  have hdrop : i ≤ (a.take pos).length := by
    rw [List.length_take]
    omega
  have htake : length ≤ ((a.take pos).drop i).length := by
    rw [List.length_drop, List.length_take]
    omega
  rw [slice, slice, splice, List.append_assoc, List.drop_append_of_le_length hdrop,
    List.take_append_of_le_length htake, List.drop_take, List.take_take]
  congr 1
  omega

section Copied

variable {src dst b : Bytes} {srcPos dstPos length : ℕ}
  (h : arraycopy src srcPos dst dstPos length = .ok b)

include h

theorem of_arraycopy_eq_ok : srcPos + length ≤ src.length ∧ dstPos + length ≤ dst.length ∧
    b = dst.splice dstPos (src.slice srcPos length) := by
  unfold arraycopy at h
  split_ifs at h with hb
  exact ⟨hb.1, hb.2, (Except.ok.inj h).symm⟩

/-- The copied window of the target. -/
theorem slice_arraycopy : b.slice dstPos length = src.slice srcPos length := by
  obtain ⟨hs, hd, rfl⟩ := of_arraycopy_eq_ok h
  exact slice_splice (by omega) (length_slice hs)

/-- The target before that window. -/
theorem slice_arraycopy_below {i n : ℕ} (hi : i + n ≤ dstPos) : b.slice i n = dst.slice i n := by
  obtain ⟨-, hd, rfl⟩ := of_arraycopy_eq_ok h
  exact slice_splice_below (by omega) hi

theorem getD_arraycopy {i : ℕ} (hi : i < dstPos ∨ dstPos + length ≤ i) :
    b.getD i 0 = dst.getD i 0 := by
  obtain ⟨hs, hd, rfl⟩ := of_arraycopy_eq_ok h
  rw [← length_slice hs] at hi
  exact getD_splice (by omega) hi

end Copied

theorem getD_write {a b : Bytes} {i k : ℕ} {x : Byte} (h : a.write i x = .ok b) :
    b.getD k 0 = if k = i then x else a.getD k 0 := by
  unfold write at h
  split_ifs at h with hi
  cases h
  split_ifs with hk
  · subst hk
    simp [hi]
  · simp [List.getD_eq_getElem?_getD, List.getElem?_set_ne (Ne.symm hk)]

section Chains

variable {α : Type} {f : Bytes → Except JavaException α}

/-- A copy within bounds keeps the length of its target, and the code after it goes on. -/
theorem arraycopy_bind_eq_ok {src dst : Bytes} {srcPos dstPos length : ℕ}
    (hs : srcPos + length ≤ src.length) (hd : dstPos + length ≤ dst.length)
    (hf : ∀ b : Bytes, b.length = dst.length → ∃ r, f b = .ok r) :
    ∃ r, (arraycopy src srcPos dst dstPos length >>= f) = .ok r := by
  rw [arraycopy_eq_ok hs hd, ok_bind]
  exact hf _ (length_splice (by rw [length_slice hs]; exact hd))

theorem write_bind_eq_ok {a : Bytes} {i : ℕ} {x : Byte} (h : i < a.length)
    (hf : ∀ b : Bytes, b.length = a.length → ∃ r, f b = .ok r) :
    ∃ r, (a.write i x >>= f) = .ok r := by
  rw [write_eq_ok x h, ok_bind]
  exact hf _ List.length_set

end Chains

theorem splice_zeros {n : ℕ} {b : Bytes} (h : b.length = n) : (zeros n).splice 0 b = b := by
  simp [splice, h, zeros]

/-- Copying into a new array of the copied length. -/
theorem arraycopy_new {src : Bytes} {srcPos length : ℕ} (h : srcPos + length ≤ src.length) :
    arraycopy src srcPos (zeros length) 0 length = .ok (src.slice srcPos length) := by
  rw [arraycopy_eq_ok h (by simp), splice_zeros (length_slice h)]

/-- The big-endian `int` assembled from `a[i]`, `a[i+1]`, `a[i+2]` and `a[i+3]`. -/
def getInt (a : Bytes) (i : ℕ) : Except JavaException (BitVec 32) :=
  if i + 4 ≤ a.length then .ok (BitVec.ofNat 32 (BigEndian.toNat (a.slice i 4)))
  else .error .arrayIndexOutOfBounds

theorem getInt_eq_ok {a : Bytes} {i : ℕ} (h : i + 4 ≤ a.length) :
    a.getInt i = .ok (BitVec.ofNat 32 (BigEndian.toNat (a.slice i 4))) :=
  if_pos h

/-- `java.util.Arrays.copyOf(a, length)` -/
def copyOf (a : Bytes) (length : ℕ) : Bytes :=
  a.take length ++ List.replicate (length - a.length) 0

@[simp] theorem length_copyOf (a : Bytes) (length : ℕ) : (a.copyOf length).length = length := by
  simp [copyOf]
  omega

theorem copyOf_eq_take {a : Bytes} {length : ℕ} (h : length ≤ a.length) :
    a.copyOf length = a.take length := by
  simp [copyOf, Nat.sub_eq_zero_of_le h]

theorem getD_copyOf {a : Bytes} {length i : ℕ} (h : length ≤ a.length) (hi : i < length) :
    (a.copyOf length).getD i 0 = a.getD i 0 := by
  rw [copyOf_eq_take h, getD_take hi]

/-- A position where the array goes on with `b`. -/
theorem read_of_drop {bArr l : Bytes} {b : Byte} {i : ℕ} (h : bArr.drop i = b :: l) :
    bArr.read i = .ok b ∧ bArr.drop (i + 1) = l := by
  have hi : i < bArr.length := by
    by_contra hi
    rw [List.drop_of_length_le (by omega)] at h
    cases h
  have hcons := List.drop_eq_getElem_cons hi
  rw [h] at hcons
  obtain ⟨hb, hl⟩ := List.cons.inj hcons
  constructor
  · rw [read_eq_ok hi, List.getD_eq_getElem _ _ hi, hb]
  · exact hl.symm

/-! ### Filling an array from the left -/

section Fill

variable {l tail : Bytes} {pos n k r : ℕ}

theorem zeros_add (m n : ℕ) : zeros (m + n) = zeros m ++ zeros n := by
  simp [zeros, List.replicate_append_replicate]

/-- Behind the part `l` that is done, `k` bytes are left out. -/
theorem arraycopy_fill {src : Bytes} {srcPos length : ℕ} (hs : srcPos + length ≤ src.length)
    (hpos : l.length + k = pos) (hn : n = k + (length + r)) :
    arraycopy src srcPos (l ++ (zeros n ++ tail)) pos length =
      .ok (l ++ zeros k ++ src.slice srcPos length ++ (zeros r ++ tail)) := by
  subst hn
  have hparts : l ++ (zeros (k + (length + r)) ++ tail) =
      (l ++ zeros k) ++ (zeros length ++ (zeros r ++ tail)) := by
    simp [zeros_add]
  rw [arraycopy_eq_ok hs (by simp; omega), hparts, splice_append (by simp [hpos]),
    length_slice hs, List.drop_left' (length_zeros length)]

theorem write_fill (x : Byte) (hpos : l.length + k = pos) (hn : n = k + (1 + r)) :
    Bytes.write (l ++ (zeros n ++ tail)) pos x =
      .ok (l ++ zeros k ++ [x] ++ (zeros r ++ tail)) := by
  subst hn
  have hone : zeros 1 = [0] := rfl
  have hparts : l ++ (zeros (k + (1 + r)) ++ tail) =
      (l ++ zeros k) ++ (0 :: (zeros r ++ tail)) := by
    simp [zeros_add, hone]
  have hlen : pos = (l ++ zeros k).length := by simp [hpos]
  rw [hparts, write_eq_ok x (by simp; omega), hlen, List.set_append_right _ _ le_rfl]
  simp

end Fill

end Bytes

/-! ### `int` -/

section Int32

variable {x : Int32} {n : ℕ}

theorem toInt_add_of_lt (hx : 0 ≤ x.toInt) (h : x.toInt + n < 2 ^ 31) :
    (x + Int32.ofNat n).toInt = x.toInt + n := by
  have hn : (Int32.ofNat n).toInt = n := Int32.toInt_ofNat_of_lt (by omega)
  rw [Int32.toInt_add, hn]
  exact Int.bmod_eq_of_le (by omega) (by omega)

/-- A sum that wraps around is negative. -/
theorem toInt_add_neg (hx : 0 ≤ x.toInt) (hn : n < 2 ^ 31) (h : 2 ^ 31 ≤ x.toInt + n) :
    (x + Int32.ofNat n).toInt < 0 := by
  have hlt := x.toInt_lt
  have hn : (Int32.ofNat n).toInt = n := Int32.toInt_ofNat_of_lt hn
  rw [Int32.toInt_add, hn, Int.bmod_def]
  split_ifs <;> omega

end Int32

namespace Bytes

/-- `a[i]` for an `int` -/
def readInt (a : Bytes) (i : Int32) : Except JavaException Byte :=
  if 0 ≤ i.toInt then a.read i.toInt.toNat else .error .arrayIndexOutOfBounds

/-- The bytes of `new String(a, offset, length)`. A window that is not within the array is
reported as any other index outside of it. -/
def window (a : Bytes) (offset : Int32) (length : ℕ) : Except JavaException Bytes :=
  if 0 ≤ offset.toInt ∧ offset.toInt + length ≤ a.length then
    .ok (a.slice offset.toInt.toNat length)
  else .error .arrayIndexOutOfBounds

theorem readInt_eq {a : Bytes} {i : Int32} {k : ℕ} (h : i.toInt = k) : a.readInt i = a.read k := by
  rw [readInt, if_pos (by omega), h, Int.toNat_natCast]

theorem readInt_neg {a : Bytes} {i : Int32} (h : i.toInt < 0) :
    a.readInt i = .error .arrayIndexOutOfBounds :=
  if_neg (by omega)

theorem of_readInt {a : Bytes} {i : Int32} {b : Byte} (h : a.readInt i = .ok b) :
    0 ≤ i.toInt ∧ i.toInt < a.length := by
  unfold readInt read at h
  split_ifs at h with hnonneg hlt
  omega

end Bytes

/-- `int << n` and `int >> n` use the five low-order bits of the count. -/
def shiftCount (n : ℤ) : ℕ := (n % 32).toNat

abbrev HashMap (κ ν : Type*) := AList fun _ : κ => ν

/-- An order in which a hash map may hand out its keys. -/
structure IterationOrder (α : Type*) where
  arrange : List α → List α
  perm : ∀ l, (arrange l).Perm l

namespace IterationOrder

variable {α : Type*}

@[simp] theorem mem_arrange (o : IterationOrder α) (l : List α) (a : α) :
    a ∈ o.arrange l ↔ a ∈ l :=
  (o.perm l).mem_iff

protected def id : IterationOrder α := ⟨fun l => l, fun _ => .refl _⟩

instance : Inhabited (IterationOrder α) := ⟨IterationOrder.id⟩

/-- The order that hands out `a` last. -/
def last [DecidableEq α] (a : α) : IterationOrder α where
  arrange l := l.filter (· ≠ a) ++ l.filter (· = a)
  perm l := by
    have h := List.filter_append_perm (fun x => decide (x ≠ a)) l
    simpa using h

/-- The order that hands out `a` first. -/
def first [DecidableEq α] (a : α) : IterationOrder α where
  arrange l := if a ∈ l then a :: l.erase a else l
  perm l := by
    split_ifs with h
    · exact (List.perm_cons_erase h).symm
    · exact .refl _

theorem arrange_first [DecidableEq α] {a : α} {l : List α} (h : a ∈ l) :
    (first a).arrange l = a :: l.erase a :=
  if_pos h

end IterationOrder

end XnetZt
