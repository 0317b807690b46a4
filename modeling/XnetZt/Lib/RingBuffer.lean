import Mathlib.Data.List.DropRight
import XnetZt.Lib.Java

/-!
# Ring buffers

An array of fixed length, the index to write next and the number of elements there are. A
buffer that is full loses its oldest element to a new one. `Holds` relates the array to the
history of what was written since the buffer was last empty: the latest `capacity` elements
are in it, each at its number modulo the capacity. What an emptied buffer has in its slots
does not matter.
-/

namespace XnetZt

structure RingBuffer (α : Type) where
  slots : List (Option α)
  head : ℕ
  count : ℕ

namespace RingBuffer

variable {α : Type} (capacity : ℕ)

def empty : RingBuffer α := ⟨List.replicate capacity none, 0, 0⟩

def read (r : RingBuffer α) (i : ℕ) : Except JavaException (Option α) :=
  if i < r.slots.length then .ok (r.slots.getD i none) else .error .arrayIndexOutOfBounds

def push (r : RingBuffer α) (a : α) : Except JavaException (RingBuffer α) :=
  if r.head < r.slots.length then
    .ok ⟨r.slots.set r.head (some a), (r.head + 1) % capacity,
      if r.count < capacity then r.count + 1 else r.count⟩
  else .error .arrayIndexOutOfBounds

def clear (r : RingBuffer α) : RingBuffer α := { r with head := 0, count := 0 }

/-- The elements from the oldest on. -/
def toList (r : RingBuffer α) : Except JavaException (List (Option α)) :=
  let start := if r.count < capacity then 0 else r.head
  (List.range r.count).mapM fun i => r.read ((start + i) % capacity)

/-- The buffer has the latest elements of the history `l`. -/
structure Holds (r : RingBuffer α) (l : List α) : Prop where
  length : r.slots.length = capacity
  head : r.head = l.length % capacity
  count : r.count = min l.length capacity
  slot : ∀ k < l.length, l.length ≤ k + capacity → r.slots.getD (k % capacity) none = l[k]?

variable {capacity} {r : RingBuffer α} {l : List α}

theorem holds_empty : Holds capacity (empty capacity : RingBuffer α) [] where
  length := List.length_replicate
  head := (Nat.zero_mod capacity).symm
  count := (Nat.zero_min capacity).symm
  slot k hk := absurd hk (Nat.not_lt_zero k)

/-- The old elements stay in their slots, but are not counted. -/
theorem Holds.clear (h : Holds capacity r l) : Holds capacity r.clear [] where
  length := h.length
  head := (Nat.zero_mod capacity).symm
  count := (Nat.zero_min capacity).symm
  slot k hk := absurd hk (Nat.not_lt_zero k)

/-- Two numbers less than the capacity apart have different slots. -/
theorem mod_ne_mod {k n : ℕ} (hk : k < n) (hn : n < k + capacity) :
    k % capacity ≠ n % capacity := by
  intro heq
  have hdvd : capacity ∣ n - k := (Nat.modEq_iff_dvd' hk.le).mp heq
  have := Nat.le_of_dvd (by omega) hdvd
  omega

theorem Holds.push (hcapacity : 0 < capacity) (h : Holds capacity r l) (a : α) :
    ∃ r', r.push capacity a = .ok r' ∧ Holds capacity r' (l ++ [a]) := by
  have hhead : r.head < r.slots.length := by
    rw [h.head, h.length]
    exact Nat.mod_lt _ hcapacity
  refine ⟨_, if_pos hhead, ?_⟩
  constructor
  case length => rw [List.length_set, h.length]
  case head => rw [h.head, Nat.mod_add_mod, List.length_append, List.length_singleton]
  case count =>
    rw [h.count, List.length_append, List.length_singleton]
    dsimp only
    split_ifs <;> omega
  case slot =>
    intro k hk hwindow
    rw [List.length_append, List.length_singleton] at hk hwindow
    rcases Nat.lt_succ_iff_lt_or_eq.mp hk with hold | rfl
    · have hne : r.head ≠ k % capacity := by
        rw [h.head]
        exact (mod_ne_mod hold (by omega)).symm
      rw [List.getD_eq_getElem?_getD, List.getElem?_set_ne hne, ← List.getD_eq_getElem?_getD,
        h.slot k hold (by omega), List.getElem?_append_left hold]
    · rw [← h.head, List.getD_eq_getElem?_getD, List.getElem?_set_self hhead]
      simp

/-- Where the element number `n - capacity + i` is found from the head. -/
theorem start_add_mod {n i : ℕ} :
    ((if min n capacity < capacity then 0 else n % capacity) + i) % capacity =
      (n - capacity + i) % capacity := by
  split_ifs with hfull
  · rw [show n - capacity = 0 by omega]
  · rw [Nat.mod_add_mod, ← Nat.add_mod_right (n - capacity + i)]
    congr 1
    omega

theorem Holds.toList (hcapacity : 0 < capacity) (h : Holds capacity r l) :
    r.toList capacity = .ok ((l.rtake capacity).map some) := by
  have hread : ∀ i ∈ List.range r.count,
      r.read (((if r.count < capacity then 0 else r.head) + i) % capacity) =
        .ok l[l.length - capacity + i]? := by
    intro i hi
    rw [List.mem_range, h.count] at hi
    rw [h.count, h.head, start_add_mod, read, h.length,
      if_pos (Nat.mod_lt _ hcapacity), h.slot _ (by omega) (by omega)]
  have hcount : r.count = l.length - (l.length - capacity) := by
    rw [h.count]
    omega
  rw [RingBuffer.toList, mapM_eq_map hread, List.rtake]
  congr 1
  refine List.ext_getElem (by simp [hcount]) fun i hi _ => ?_
  simp only [List.length_map, List.length_range, hcount] at hi
  simp only [List.getElem_map, List.getElem_range, List.getElem_drop]
  exact List.getElem?_eq_getElem (by omega)

end RingBuffer

end XnetZt
