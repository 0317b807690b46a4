import XnetZt.Lib.LinkedList
import XnetZt.Libxnet.Tap

/-!
# The list of netifs

The registry of taps treats what lwIP holds as a set of slots. In `netif.c` it is a linked
list that runs through the netifs themselves, and so through the taps: `memset` of a tap
ends the list at its netif, and copying a tap makes its netif point to where the other one
pointed. `netif_add` gives a new netif a number that no listed one has. For a netif that
is on the list already, or if the list does not end, the loop that looks for the number
goes on for ever, because lwIP is built without assertions.
-/

namespace XnetZt.Libxnet

/-- The netifs that can be on the list: the loopback interface, and the one of each tap. -/
inductive NetifPtr
  | loop
  | tap (i : Slot)
  deriving DecidableEq, Fintype

/-- The variables of `netif.c`, and the fields of the netifs that its list is made of. -/
structure Netifs where
  netifList : Option NetifPtr
  netifNum : BitVec 8
  next : NetifPtr → Option NetifPtr
  num : NetifPtr → BitVec 8

namespace Netifs

open LinkedList

/-- What `netif_init` leaves. -/
def netifInit : Netifs := ⟨some .loop, 1, fun _ => none, fun _ => 0⟩

def setNum (n : Netifs) (netif : NetifPtr) (num : BitVec 8) : Netifs :=
  { n with num := Function.update n.num netif num }

/-- `memset` of the tap with this netif. -/
def memset (n : Netifs) (netif : NetifPtr) : Netifs :=
  { n with next := Function.update n.next netif none, num := Function.update n.num netif 0 }

/-- The copy of the tap with the netif `source` onto the one with the netif `target`. -/
def copy (n : Netifs) (target source : NetifPtr) : Netifs :=
  { n with
    next := Function.update n.next target (n.next source)
    num := Function.update n.num target (n.num source) }

/-- `if (netif->num == 255) netif->num = 0` -/
def wrapNum (n : Netifs) (netif : NetifPtr) : Netifs :=
  if n.num netif = 255 then n.setNum netif 0 else n

/-- The `for` loop of `netif_add`, which stops at a netif with the same number. -/
def findNum (n : Netifs) (netif : NetifPtr) (fuel : ℕ) : Option (Option NetifPtr) :=
  seek n.next (fun netif2 => n.num netif2 == n.num netif) fuel n.netifList

/-- The `do` loop of `netif_add`, which counts up until no listed netif has the number. The
result is `none` if the fuel does not last. -/
def assignNum (netif : NetifPtr) : ℕ → Netifs → Option Netifs
  | 0, _ => none
  | fuel + 1, n =>
    match (n.wrapNum netif).findNum netif fuel with
    | none => none
    | some none => some (n.wrapNum netif)
    | some (some _) =>
      assignNum netif fuel ((n.wrapNum netif).setNum netif ((n.wrapNum netif).num netif + 1))

/-- Enough turns for every loop that ends. -/
def turns : ℕ := 12

/-- `netif_add`; `none` if it never returns. -/
def netifAdd (n : Netifs) (netif : NetifPtr) : Option Netifs :=
  (assignNum netif turns (n.setNum netif n.netifNum)).map fun n =>
    { n with
      netifNum := if n.num netif = 254 then 0 else n.num netif + 1
      next := Function.update n.next netif n.netifList
      netifList := some netif }

-- `netif_init` adds the loopback interface to variables that are zero
example : netifAdd ⟨none, 0, fun _ => none, fun _ => 0⟩ .loop = some netifInit := by
  simp [netifAdd, turns, assignNum, findNum, seek, wrapNum, setNum, netifInit]

/-- `netif_remove`; `none` if it never returns. -/
def netifRemove (n : Netifs) (netif : NetifPtr) : Option Netifs :=
  if n.netifList = some netif then some { n with netifList := n.next netif }
  else
    match seek n.next (fun tmp => n.next tmp == some netif) turns n.netifList with
    | none => none
    | some none => some n
    | some (some tmp) => some { n with next := Function.update n.next tmp (n.next netif) }

/-- The netif is on the list. -/
def Listed (n : Netifs) (netif : NetifPtr) : Prop := Reaches n.next n.netifList netif

/-- The list ends. -/
def Ends (n : Netifs) : Prop := LinkedList.Ends n.next n.netifList

instance (n : Netifs) (netif : NetifPtr) : Decidable (n.Listed netif) :=
  inferInstanceAs (Decidable (Reaches _ _ _))

instance (n : Netifs) : Decidable n.Ends := inferInstanceAs (Decidable (LinkedList.Ends _ _))

/-- The list ends without the netif. -/
def Without (n : Netifs) (netif : NetifPtr) : Prop :=
  ∃ l, Chain n.next n.netifList l ∧ netif ∉ l

variable {n m : Netifs} {netif : NetifPtr}

theorem without_iff : n.Without netif ↔ n.Ends ∧ ¬ n.Listed netif := by
  constructor
  · rintro ⟨l, hl, hnot⟩
    exact ⟨⟨l, hl⟩, fun h => hnot (hl.reaches_iff.mp h)⟩
  · rintro ⟨⟨l, hl⟩, hnot⟩
    exact ⟨l, hl, fun h => hnot (hl.reaches_iff.mpr h)⟩

/-- What is written to a netif that is not on the list does not change the list. -/
theorem without_congr (hlist : m.netifList = n.netifList)
    (hnext : ∀ q, q ≠ netif → m.next q = n.next q) : m.Without netif ↔ n.Without netif := by
  constructor
  · rintro ⟨l, hl, hnot⟩
    exact ⟨l, hlist ▸ hl.congr fun q hq => (hnext q fun e => hnot (e ▸ hq)).symm, hnot⟩
  · rintro ⟨l, hl, hnot⟩
    rw [← hlist] at hl
    exact ⟨l, hl.congr fun q hq => hnext q fun e => hnot (e ▸ hq), hnot⟩

theorem without_memset : (n.memset netif).Without netif ↔ n.Without netif :=
  without_congr rfl fun _ hq => Function.update_of_ne hq _ _

/-! ### The number of a new netif -/

/-- The number at which a turn of the loop looks. -/
def candidate (num : BitVec 8) : BitVec 8 := if num = 255 then 0 else num

/-- The number of the turn after `k` others. -/
def candidateAt (num : BitVec 8) : ℕ → BitVec 8
  | 0 => candidate num
  | k + 1 => candidateAt (candidate num + 1) k

theorem toNat_candidate_succ (num : BitVec 8) :
    (candidate (candidate num + 1)).toNat = ((candidate num).toNat + 1) % 255 := by
  revert num
  decide

theorem toNat_candidateAt (num : BitVec 8) (k : ℕ) :
    (candidateAt num k).toNat = ((candidate num).toNat + k) % 255 := by
  induction k generalizing num with
  | zero =>
    have hlt : (candidate num).toNat < 255 := by
      revert num
      decide
    rw [candidateAt, Nat.add_zero, Nat.mod_eq_of_lt hlt]
  | succ k ih =>
    rw [candidateAt, ih, toNat_candidate_succ, Nat.mod_add_mod]
    congr 1
    omega

/-- Fewer than 255 numbers do not take all the candidates. -/
theorem exists_candidateAt_notMem (num : BitVec 8) {nums : List (BitVec 8)}
    (h : nums.length < 255) : ∃ k ≤ nums.length, candidateAt num k ∉ nums := by
  have hinj : Set.InjOn (candidateAt num) (Finset.range (nums.length + 1)) := by
    intro a ha b hb hab
    have hmod := congrArg BitVec.toNat hab
    rw [toNat_candidateAt, toNat_candidateAt] at hmod
    have ha' := Finset.mem_range.mp (Finset.mem_coe.mp ha)
    have hb' := Finset.mem_range.mp (Finset.mem_coe.mp hb)
    omega
  have hcard : nums.toFinset.card <
      ((Finset.range (nums.length + 1)).image (candidateAt num)).card := by
    rw [Finset.card_image_of_injOn hinj, Finset.card_range]
    exact Nat.lt_succ_of_le nums.toFinset_card_le
  obtain ⟨c, hc, hnot⟩ := Finset.exists_mem_notMem_of_card_lt_card hcard
  obtain ⟨k, hk, rfl⟩ := Finset.mem_image.mp hc
  exact ⟨k, Nat.le_of_lt_succ (Finset.mem_range.mp hk),
    fun hmem => hnot (List.mem_toFinset.mpr hmem)⟩

section WrapNum

@[simp] theorem next_wrapNum : (n.wrapNum netif).next = n.next := by
  unfold wrapNum
  split_ifs <;> rfl

@[simp] theorem netifList_wrapNum : (n.wrapNum netif).netifList = n.netifList := by
  unfold wrapNum
  split_ifs <;> rfl

@[simp] theorem num_wrapNum : (n.wrapNum netif).num netif = candidate (n.num netif) := by
  unfold wrapNum candidate
  split_ifs <;> simp [setNum]

theorem num_wrapNum_of_ne {q : NetifPtr} (h : q ≠ netif) :
    (n.wrapNum netif).num q = n.num q := by
  unfold wrapNum
  split_ifs
  · exact Function.update_of_ne h _ _
  · rfl

end WrapNum

/-- If the loop ends then at the end of the list, on which it has not come across the netif. -/
theorem without_of_assignNum {fuel : ℕ} (h : assignNum netif fuel n = some m) :
    n.Without netif ∧ m.next = n.next ∧ m.netifList = n.netifList := by
  induction fuel generalizing n with
  | zero => cases h
  | succ fuel ih =>
    rw [assignNum] at h
    split at h
    · cases h
    · next hfind =>
      obtain rfl := Option.some.inj h
      obtain ⟨l, hl, -⟩ := seek_eq_some_iff.mp hfind
      obtain ⟨hchain, hnum⟩ := hl.chain
      rw [next_wrapNum, netifList_wrapNum] at hchain
      refine ⟨⟨l, hchain, fun hmem => ?_⟩, next_wrapNum, netifList_wrapNum⟩
      simpa using hnum netif hmem
    · obtain ⟨hwithout, hnext, hlist⟩ := ih h
      refine ⟨(without_congr ?_ ?_).mp hwithout, hnext.trans next_wrapNum,
        hlist.trans netifList_wrapNum⟩
      · exact netifList_wrapNum
      · exact fun q _ => congrFun next_wrapNum q

/-- The loop ends at the latest with a candidate that no listed netif has. -/
theorem isSome_assignNum {l : List NetifPtr} (hl : Chain n.next n.netifList l) (hnot : netif ∉ l)
    {k fuel : ℕ} (hk : candidateAt (n.num netif) k ∉ l.map n.num)
    (hfuel : k + Fintype.card NetifPtr < fuel) : (assignNum netif fuel n).isSome = true := by
  induction k generalizing n fuel with
  | zero =>
    obtain ⟨fuel, rfl⟩ := Nat.exists_eq_add_of_le' (Nat.lt_of_le_of_lt (Nat.zero_le _) hfuel)
    have hfind : (n.wrapNum netif).findNum netif fuel = some none := by
      unfold findNum
      rw [next_wrapNum, netifList_wrapNum]
      refine (hl.trail fun q hq => ?_).seek_eq (by omega)
      have hne : q ≠ netif := fun e => hnot (e ▸ hq)
      rw [num_wrapNum, num_wrapNum_of_ne hne, beq_eq_false_iff_ne]
      exact fun e => hk (List.mem_map.mpr ⟨q, hq, e⟩)
    rw [assignNum, hfind]
    rfl
  | succ k ih =>
    obtain ⟨fuel, rfl⟩ := Nat.exists_eq_add_of_le' (Nat.lt_of_le_of_lt (Nat.zero_le _) hfuel)
    have hwrap : Chain (n.wrapNum netif).next (n.wrapNum netif).netifList l := by
      rwa [next_wrapNum, netifList_wrapNum]
    obtain ⟨l', r, htrail⟩ := hwrap.exists_trail fun netif2 =>
      (n.wrapNum netif).num netif2 == (n.wrapNum netif).num netif
    have hfind : (n.wrapNum netif).findNum netif fuel = some r := htrail.seek_eq (by omega)
    rw [assignNum, hfind]
    cases r with
    | none => rfl
    | some q =>
      have hless : k + Fintype.card NetifPtr < fuel := by omega
      refine ih (n := (n.wrapNum netif).setNum netif _) hwrap ?_ hless
      have hmap : l.map ((n.wrapNum netif).setNum netif ((n.wrapNum netif).num netif + 1)).num =
          l.map n.num := by
        refine List.map_congr_left fun a ha => ?_
        have hne : a ≠ netif := fun e => hnot (e ▸ ha)
        exact (Function.update_of_ne hne _ _).trans (num_wrapNum_of_ne hne)
      rw [hmap]
      simpa [setNum, candidateAt] using hk

theorem card_netifPtr : Fintype.card NetifPtr = maxTaps + 1 := by decide

/-- The four other netifs leave one of five candidates free. -/
theorem Without.isSome_assignNum (h : n.Without netif) :
    (assignNum netif turns n).isSome = true := by
  obtain ⟨l, hl, hnot⟩ := h
  have hlen : l.length ≤ maxTaps := by
    have := (List.nodup_cons.mpr ⟨hnot, hl.nodup⟩).length_le_card
    rw [card_netifPtr] at this
    exact Nat.le_of_succ_le_succ this
  have hmaps : (l.map n.num).length < 255 := by
    rw [List.length_map]
    exact hlen.trans_lt (by decide)
  obtain ⟨k, hk, hfree⟩ := exists_candidateAt_notMem (n.num netif) hmaps
  rw [List.length_map] at hk
  refine Netifs.isSome_assignNum hl hnot hfree ?_
  rw [card_netifPtr]
  unfold turns
  unfold maxTaps at hlen ⊢
  omega

/-- A loop that does not end within the turns of the model never does. -/
theorem exists_assignNum_iff : (∃ fuel, (assignNum netif fuel n).isSome = true) ↔
    (assignNum netif turns n).isSome = true := by
  constructor
  · rintro ⟨fuel, h⟩
    obtain ⟨m, hm⟩ := Option.isSome_iff_exists.mp h
    exact (without_of_assignNum hm).1.isSome_assignNum
  · exact fun h => ⟨turns, h⟩

theorem isSome_netifAdd_iff : (n.netifAdd netif).isSome = true ↔ n.Without netif := by
  have hset : (n.setNum netif n.netifNum).Without netif ↔ n.Without netif :=
    without_congr rfl fun _ _ => rfl
  rw [netifAdd, Option.isSome_map, ← hset]
  constructor
  · intro h
    obtain ⟨m, hm⟩ := Option.isSome_iff_exists.mp h
    exact (without_of_assignNum hm).1
  · exact Without.isSome_assignNum

theorem listed_of_netifAdd (h : n.netifAdd netif = some m) : m.Listed netif := by
  obtain ⟨m', -, rfl⟩ := Option.map_eq_some_iff.mp h
  exact .here

/-! ### Removal -/

/-- A removal that does not return within the turns of the model never does. -/
theorem seek_eq_none_of_netifRemove (h : n.netifRemove netif = none) (fuel : ℕ) :
    seek n.next (fun tmp => n.next tmp == some netif) fuel n.netifList = none := by
  unfold netifRemove at h
  split_ifs at h
  rw [Option.eq_none_iff_forall_ne_some]
  intro r hr
  rw [seek_of_exists hr (by decide)] at h
  cases r <;> cases h

theorem Ends.isSome_netifRemove (h : n.Ends) (netif : NetifPtr) :
    (n.netifRemove netif).isSome = true := by
  obtain ⟨l, hl⟩ := h
  unfold netifRemove
  split_ifs
  · rfl
  · obtain ⟨l', r, htrail⟩ := hl.exists_trail fun tmp => n.next tmp == some netif
    rw [htrail.seek_eq (by decide)]
    cases r <;> rfl

end Netifs

end XnetZt.Libxnet
