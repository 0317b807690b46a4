import Mathlib.Data.Finset.Basic
import XnetZt.Lib.Run
import XnetZt.Lib.Text
import XnetZt.Service.TunTapAdapter

/-!
# The multicast scanners

Each scanner thread lists the multicast groups of the tunnel interface once a second and
subscribes or unsubscribes the differences to the list before. The lists are compared as
strings, but what is subscribed are MAC addresses, and many groups share one. A group
that is left takes the MAC of every other group with it, also of those still joined.
-/

namespace XnetZt

/-! ### Reading a group -/

/-- `Character.digit(c, 16)`; the kernel writes ASCII. -/
def hexDigit (c : Char) : ℤ :=
  if c.isDigit then c.toNat - '0'.toNat
  else if 'a' ≤ c ∧ c ≤ 'f' then 10 + c.toNat - 'a'.toNat
  else if 'A' ≤ c ∧ c ≤ 'F' then 10 + c.toNat - 'A'.toNat
  else -1

/-- `none` stands for the exception on a string of odd length. -/
def hexStringToBytes : Text → Option Bytes
  | [] => some []
  | [_] => none
  | high :: low :: hex =>
    (hexStringToBytes hex).map (BitVec.ofInt 8 (hexDigit high * 16 + hexDigit low) :: ·)

/-- One round of the loop that turns an array around. -/
def swapEnds (bytes : Bytes) (i : ℕ) : Bytes :=
  let b := bytes.getD i 0
  let bytes := bytes.set i (bytes.getD (bytes.length - i - 1) 0)
  bytes.set (bytes.length - i - 1) b

def reverseInPlace (bytes : Bytes) : Bytes := (List.range (bytes.length / 2)).foldl swapEnds bytes

/-- The invariant of the loop: the outer `k` bytes of both ends are exchanged. -/
theorem getElem?_foldl_swapEnds (bytes : Bytes) {k : ℕ} (hk : k ≤ bytes.length / 2) :
    ((List.range k).foldl swapEnds bytes).length = bytes.length ∧
      ∀ j < bytes.length, ((List.range k).foldl swapEnds bytes)[j]? =
        if j < k ∨ bytes.length - k ≤ j then bytes[bytes.length - 1 - j]? else bytes[j]? := by
  induction k with
  | zero =>
    refine ⟨rfl, ?_⟩
    intro j hj
    rw [if_neg (by omega)]
    rfl
  | succ k ih =>
    obtain ⟨hlength, hget⟩ := ih (by omega)
    rw [List.range_succ, List.foldl_append, List.foldl_cons, List.foldl_nil]
    generalize (List.range k).foldl swapEnds bytes = done at hlength hget
    have hlow : done.getD k 0 = bytes.getD k 0 := by
      rw [List.getD_eq_getElem?_getD, hget k (by omega), if_neg (by omega),
        List.getD_eq_getElem?_getD]
    have hhigh : done.getD (bytes.length - k - 1) 0 = bytes.getD (bytes.length - 1 - k) 0 := by
      rw [List.getD_eq_getElem?_getD, hget _ (by omega), if_neg (by omega),
        List.getD_eq_getElem?_getD, Nat.sub_right_comm]
    refine ⟨by simp [swapEnds, hlength], ?_⟩
    intro j hj
    simp only [swapEnds, hlow, hhigh, List.length_set, hlength, List.getElem?_set]
    have hin : ∀ i, i < bytes.length → bytes[i]? = some (bytes.getD i 0) := by
      intro i hi
      simp [hi]
    by_cases hjhigh : bytes.length - k - 1 = j
    · rw [if_pos hjhigh, if_pos (by omega), if_pos (by omega), hin _ (by omega)]
      congr 2
      omega
    · rw [if_neg hjhigh]
      by_cases hjlow : k = j
      · rw [if_pos hjlow, if_pos (by omega), if_pos (by omega), hin _ (by omega), hjlow]
      · rw [if_neg hjlow, hget j hj]
        split_ifs <;> first | rfl | omega

theorem reverseInPlace_eq (bytes : Bytes) : reverseInPlace bytes = bytes.reverse := by
  obtain ⟨hlength, hget⟩ := getElem?_foldl_swapEnds bytes le_rfl
  apply List.ext_getElem?
  intro j
  by_cases hj : j < bytes.length
  · rw [reverseInPlace, hget j hj, List.getElem?_reverse hj]
    split_ifs with hend
    · rfl
    · -- the byte in the middle stays
      congr 1
      omega
  · rw [List.getElem?_eq_none (by rw [reverseInPlace, hlength]; omega),
      List.getElem?_eq_none (by rw [List.length_reverse]; omega)]

/-! ### The scanners -/

/-- The two scanner threads. -/
inductive MulticastScanner
  | v4MulticastScanner
  | v6MulticastScanner
  deriving DecidableEq

namespace MulticastScanner

/-- The bytes of the address in the order the kernel does not use for IPv4. -/
def addressBytes : MulticastScanner → Bytes → Bytes
  | v4MulticastScanner, bytes => reverseInPlace bytes
  | v6MulticastScanner, bytes => bytes

/-- The MAC that is subscribed for a group; a group that raises an exception is skipped. -/
def macOf (scanner : MulticastScanner) (str : Text) : Option Mac := do
  let bytes ← hexStringToBytes str
  let address ← InetAddress.getByAddress (scanner.addressBytes bytes)
  return multicastAddressToMAC address

/-- `subscriptions` is the list of the last scan; `subscribed` are the MACs of the node that
this scanner has subscribed. -/
structure State where
  subscriptions : List Text
  subscribed : Finset Mac

def State.initial : State := ⟨[], ∅⟩

variable (scanner : MulticastScanner)

def multicastSubscribe (subscribed : Finset Mac) (str : Text) : Finset Mac :=
  match scanner.macOf str with
  | some mac => insert mac subscribed
  | none => subscribed

def multicastUnsubscribe (subscribed : Finset Mac) (str : Text) : Finset Mac :=
  match scanner.macOf str with
  | some mac => subscribed.erase mac
  | none => subscribed

/-- `java.util.ArrayList.removeAll` -/
def removeAll (list removed : List Text) : List Text := list.filter (· ∉ removed)

/-- One round of the loop of the thread; `groups` is what the kernel lists. -/
def scan (s : State) (groups : List Text) : State :=
  let joined := removeAll groups s.subscriptions
  let subscribed := joined.foldl scanner.multicastSubscribe s.subscribed
  let left := removeAll s.subscriptions groups
  let subscribed := left.foldl scanner.multicastUnsubscribe subscribed
  ⟨groups, subscribed⟩

/-! ### What is subscribed -/

/-- The MAC of a group: that of its address, whose bytes are reversed for IPv4. -/
def groupMAC (str : Text) : Option Mac :=
  match scanner with
  | v4MulticastScanner => (hexStringToBytes str).bind fun bytes =>
      (InetAddress.getByAddress bytes.reverse).map multicastAddressToMAC
  | v6MulticastScanner => (hexStringToBytes str).bind fun bytes =>
      (InetAddress.getByAddress bytes).map multicastAddressToMAC

theorem macOf_eq_groupMAC (str : Text) : scanner.macOf str = scanner.groupMAC str := by
  cases scanner with
  | v4MulticastScanner =>
    simp [macOf, groupMAC, addressBytes, reverseInPlace_eq, Option.map_eq_bind]
  | v6MulticastScanner => simp [macOf, groupMAC, addressBytes, Option.map_eq_bind]

/-- The image of a list of groups. -/
def macs (groups : List Text) : Finset Mac := (groups.filterMap scanner.groupMAC).toFinset

theorem mem_macs {groups : List Text} {mac : Mac} :
    mac ∈ scanner.macs groups ↔ ∃ g ∈ groups, scanner.groupMAC g = some mac := by
  simp [macs]

theorem mem_foldl_multicastSubscribe {groups : List Text} {subscribed : Finset Mac} {mac : Mac} :
    mac ∈ groups.foldl scanner.multicastSubscribe subscribed ↔
      mac ∈ subscribed ∨ mac ∈ scanner.macs groups := by
  induction groups generalizing subscribed with
  | nil => simp [macs]
  | cons g groups ih =>
    rw [List.foldl_cons, ih, mem_macs, mem_macs, List.exists_mem_cons_iff, multicastSubscribe,
      macOf_eq_groupMAC]
    cases scanner.groupMAC g with
    | none => simp
    | some m =>
      simp only [Finset.mem_insert, Option.some.injEq]
      tauto

theorem mem_foldl_multicastUnsubscribe {groups : List Text} {subscribed : Finset Mac} {mac : Mac} :
    mac ∈ groups.foldl scanner.multicastUnsubscribe subscribed ↔
      mac ∈ subscribed ∧ mac ∉ scanner.macs groups := by
  induction groups generalizing subscribed with
  | nil => simp [macs]
  | cons g groups ih =>
    rw [List.foldl_cons, ih, mem_macs, mem_macs, List.exists_mem_cons_iff, multicastUnsubscribe,
      macOf_eq_groupMAC]
    cases scanner.groupMAC g with
    | none => simp
    | some m =>
      simp only [Finset.mem_erase, Option.some.injEq, not_or, ne_comm (a := mac)]
      tauto

/-- The subscribed MACs are those of the groups of the last scan. -/
def Tracks (s : State) : Prop := s.subscribed = scanner.macs s.subscriptions

/-- No group that is left shares its MAC with one that is listed. -/
def KeepsShared (s : State) (groups : List Text) : Prop :=
  ∀ g' ∈ s.subscriptions, g' ∉ groups → ∀ g ∈ groups, ∀ mac, scanner.groupMAC g' = some mac →
    scanner.groupMAC g ≠ some mac

theorem tracks_initial : scanner.Tracks .initial := rfl

theorem tracks_scan_iff {s : State} (h : scanner.Tracks s) (groups : List Text) :
    scanner.Tracks (scanner.scan s groups) ↔ scanner.KeepsShared s groups := by
  have hmem : ∀ mac, mac ∈ (scanner.scan s groups).subscribed ↔
      (mac ∈ scanner.macs s.subscriptions ∨ mac ∈ scanner.macs groups) ∧
        mac ∉ scanner.macs (removeAll s.subscriptions groups) := by
    intro mac
    have hjoined : mac ∈ scanner.macs s.subscriptions ∨
        mac ∈ scanner.macs (removeAll groups s.subscriptions) ↔
        mac ∈ scanner.macs s.subscriptions ∨ mac ∈ scanner.macs groups := by
      simp only [mem_macs, removeAll, List.mem_filter, decide_eq_true_eq]
      constructor
      · rintro (h | ⟨g, ⟨hg, -⟩, hmac⟩)
        · exact Or.inl h
        · exact Or.inr ⟨g, hg, hmac⟩
      · rintro (h | ⟨g, hg, hmac⟩)
        · exact Or.inl h
        · by_cases hold : g ∈ s.subscriptions
          · exact Or.inl ⟨g, hold, hmac⟩
          · exact Or.inr ⟨g, ⟨hg, hold⟩, hmac⟩
    rw [scan, mem_foldl_multicastUnsubscribe, mem_foldl_multicastSubscribe, h, hjoined]
  constructor
  · intro htracks g' hg' hleft g hg mac hmac' hmac
    have hin : mac ∈ (scanner.scan s groups).subscribed := by
      rw [htracks]
      exact scanner.mem_macs.mpr ⟨g, hg, hmac⟩
    apply ((hmem mac).mp hin).2
    exact scanner.mem_macs.mpr ⟨g', List.mem_filter.mpr ⟨hg', by simpa using hleft⟩, hmac'⟩
  · intro hkeeps
    ext mac
    rw [hmem mac]
    constructor
    · rintro ⟨hold | hnew, hnot⟩
      · -- a group of the last scan whose MAC stays is listed again
        obtain ⟨g, hg, hmac⟩ := scanner.mem_macs.mp hold
        by_cases hagain : g ∈ groups
        · exact scanner.mem_macs.mpr ⟨g, hagain, hmac⟩
        · refine absurd (scanner.mem_macs.mpr ⟨g, ?_, hmac⟩) hnot
          exact List.mem_filter.mpr ⟨hg, by simpa using hagain⟩
      · exact hnew
    · intro hnew
      refine ⟨Or.inr hnew, ?_⟩
      intro hleft
      obtain ⟨g, hg, hmac⟩ := scanner.mem_macs.mp hnew
      obtain ⟨g', hg', hmac'⟩ := scanner.mem_macs.mp hleft
      obtain ⟨hg', hnot⟩ := List.mem_filter.mp hg'
      exact hkeeps g' hg' (by simpa using hnot) g hg mac hmac' hmac

/-- The subscriptions follow the kernel's groups through exactly the histories in which no
group is left while another one with its MAC is listed. -/
theorem throughout_tracks_iff (scans : List (List Text)) :
    Run.Throughout scanner.scan scanner.Tracks .initial scans ↔
      Run.Along scanner.scan scanner.KeepsShared .initial scans := by
  have hstep : ∀ s groups, True → scanner.Tracks s →
      (scanner.Tracks (scanner.scan s groups) ↔ scanner.KeepsShared s groups) :=
    fun s groups _ h => scanner.tracks_scan_iff h groups
  exact Run.throughout_iff_along_of_step_iff (fun _ _ _ _ => trivial) hstep scans trivial
    scanner.tracks_initial

/-- `224.0.0.1` and `225.0.0.1` have the same MAC. Leaving the second unsubscribes it. -/
theorem not_tracks_shared :
    let scans : List (List Text) := ["010000E0".toList, "010000E1".toList] :: [["010000E0".toList]]
    let s := scans.foldl v4MulticastScanner.scan .initial
    s.subscriptions = ["010000E0".toList] ∧ s.subscribed = ∅ ∧
      v4MulticastScanner.macs s.subscriptions = {0x01005e000001} ∧
      ¬ Run.Throughout v4MulticastScanner.scan v4MulticastScanner.Tracks .initial scans := by
  refine ⟨by decide +kernel, by decide +kernel, by decide +kernel, ?_⟩
  intro h
  exact absurd h.last (by unfold Tracks; decide +kernel)

end MulticastScanner

end XnetZt
