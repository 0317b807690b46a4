import XnetZt.Libxnet.TapIsolation

/-!
# The tap registry as a bounded map

A callback writes to one slot of `g_taps` only. What it writes there is a function of
the tap alone, `XnetTap.configure`, so the registry can be read as a map from network ids
to taps: a callback for one network leaves the taps found under all other ids as they are,
also when a removal moves the last tap into the hole.
-/

namespace XnetZt.Libxnet

/-! ### What a config does to a tap -/

def Registry.SockAddr.ip4 : Registry.SockAddr → Option (BitVec 32)
  | .inet sAddr => some sAddr
  | _ => none

def Registry.SockAddr.ip6 : Registry.SockAddr → Option (BitVec 128)
  | .inet6 sin6Addr => some sin6Addr
  | _ => none

namespace Registry.SockAddr

theorem findSome?_ip4_isSome_iff {sas : List SockAddr} :
    (sas.findSome? ip4).isSome = true ↔ ∃ sAddr, .inet sAddr ∈ sas := by
  rw [List.findSome?_isSome_iff]
  constructor
  · rintro ⟨sa, hmem, hsa⟩
    cases sa with
    | inet sAddr => exact ⟨sAddr, hmem⟩
    | inet6 sin6Addr => cases hsa
    | other => cases hsa
  · rintro ⟨sAddr, hmem⟩
    exact ⟨_, hmem, rfl⟩

theorem findSome?_ip6_isSome_iff {sas : List SockAddr} :
    (sas.findSome? ip6).isSome = true ↔ ∃ sin6Addr, .inet6 sin6Addr ∈ sas := by
  rw [List.findSome?_isSome_iff]
  constructor
  · rintro ⟨sa, hmem, hsa⟩
    cases sa with
    | inet sAddr => cases hsa
    | inet6 sin6Addr => exact ⟨sin6Addr, hmem⟩
    | other => cases hsa
  · rintro ⟨sin6Addr, hmem⟩
    exact ⟨_, hmem, rfl⟩

theorem mem_of_findSome?_ip4 {sas : List SockAddr} {sAddr : BitVec 32}
    (h : sas.findSome? ip4 = some sAddr) : .inet sAddr ∈ sas := by
  obtain ⟨sa, hmem, hsa⟩ := List.exists_of_findSome?_eq_some h
  cases sa with
  | inet a => rwa [← Option.some.inj hsa]
  | inet6 a => cases hsa
  | other => cases hsa

end Registry.SockAddr

namespace XnetTap

open Registry

/-- The address a tap has, once it has one. -/
def ip4 (tap : XnetTap) : Option (BitVec 32) := if tap.hasIp4 then some tap.ip4Addr else none

def ip6 (tap : XnetTap) : Option (BitVec 128) := if tap.hasIp6 then some tap.ip6Addr else none

@[simp] theorem isSome_ip4 (tap : XnetTap) : tap.ip4.isSome = tap.hasIp4 := by
  cases h : tap.hasIp4 <;> simp [ip4, h]

@[simp] theorem isSome_ip6 (tap : XnetTap) : tap.ip6.isSome = tap.hasIp6 := by
  cases h : tap.hasIp6 <;> simp [ip6, h]

/-- One assigned address, on the tap in slot `i`. -/
def assign (i : Slot) (tap : XnetTap) : SockAddr → XnetTap
  | .inet sAddr =>
    if tap.hasIp4 then tap
    else if tap.netifUp then { tap with ip4Addr := sAddr, hasIp4 := true }
    else
      { tap with
        ip4Addr := sAddr
        hasIp4 := true
        netif := netifInitCb tap ⟨some i, sAddr, [], 0, []⟩
        netifUp := true }
  | .inet6 sin6Addr =>
    if tap.hasIp6 then tap else { tap with ip6Addr := sin6Addr, hasIp6 := true }
  | .other => tap

def configure (i : Slot) (cfg : VirtualNetworkConfig) (tap : XnetTap) : XnetTap :=
  (cfg.assignedAddresses.take maxTapAddrs).foldl (assign i)
    { tap with mac := cfg.mac, mtu := cfg.mtu }

/-- The tap a network starts with. -/
def fresh (nwid : BitVec 64) : XnetTap := { zero with nwid := nwid }

section Assign

variable (i : Slot) (tap : XnetTap)

@[simp] theorem nwid_assign (sa : SockAddr) : (tap.assign i sa).nwid = tap.nwid := by
  cases sa with
  | inet sAddr =>
    dsimp only [assign]
    split_ifs <;> rfl
  | inet6 sin6Addr =>
    dsimp only [assign]
    split_ifs <;> rfl
  | other => rfl

theorem ip4_assign (sa : SockAddr) : (tap.assign i sa).ip4 = tap.ip4.or sa.ip4 := by
  cases sa with
  | inet sAddr =>
    dsimp only [assign]
    split_ifs with h <;> simp [ip4, SockAddr.ip4, h]
  | inet6 sin6Addr =>
    dsimp only [assign]
    split_ifs <;> simp [ip4, SockAddr.ip4]
  | other => simp [assign, SockAddr.ip4]

theorem ip6_assign (sa : SockAddr) : (tap.assign i sa).ip6 = tap.ip6.or sa.ip6 := by
  cases sa with
  | inet sAddr =>
    dsimp only [assign]
    split_ifs <;> simp [ip6, SockAddr.ip6]
  | inet6 sin6Addr =>
    dsimp only [assign]
    split_ifs with h <;> simp [ip6, SockAddr.ip6, h]
  | other => simp [assign, SockAddr.ip6]

/-- What holds between the flags of a tap and its netif, whatever happens to it. -/
structure Steady (tap : XnetTap) : Prop where
  netifUp : tap.netifUp = tap.hasIp4
  ipAddr : tap.netifUp = true → tap.netif.ipAddr = tap.ip4Addr
  ip6Addrs : tap.netif.ip6Addrs = []

theorem steady_fresh (nwid : BitVec 64) : (fresh nwid).Steady :=
  ⟨rfl, fun h => by simp [fresh, zero] at h, rfl⟩

variable {tap}

theorem Steady.assign (h : tap.Steady) (sa : SockAddr) : (tap.assign i sa).Steady := by
  cases sa with
  | inet sAddr =>
    dsimp only [XnetTap.assign]
    split_ifs with h4 hup
    · exact h
    · exact absurd (h.netifUp ▸ hup) h4
    · exact ⟨rfl, fun _ => rfl, rfl⟩
  | inet6 sin6Addr =>
    dsimp only [XnetTap.assign]
    split_ifs with h6
    · exact h
    · exact ⟨h.netifUp, h.ipAddr, h.ip6Addrs⟩
  | other => exact h

end Assign

section Configure

variable (i : Slot)

theorem nwid_foldl_assign (sas : List SockAddr) (tap : XnetTap) :
    (sas.foldl (assign i) tap).nwid = tap.nwid := by
  induction sas generalizing tap with
  | nil => rfl
  | cons sa sas ih => rw [List.foldl_cons, ih, nwid_assign]

theorem ip4_foldl_assign (sas : List SockAddr) (tap : XnetTap) :
    (sas.foldl (assign i) tap).ip4 = tap.ip4.or (sas.findSome? SockAddr.ip4) := by
  induction sas generalizing tap with
  | nil => simp
  | cons sa sas ih =>
    rw [List.foldl_cons, ih, ip4_assign, List.findSome?_cons]
    cases tap.ip4 <;> cases sa.ip4 <;> rfl

theorem ip6_foldl_assign (sas : List SockAddr) (tap : XnetTap) :
    (sas.foldl (assign i) tap).ip6 = tap.ip6.or (sas.findSome? SockAddr.ip6) := by
  induction sas generalizing tap with
  | nil => simp
  | cons sa sas ih =>
    rw [List.foldl_cons, ih, ip6_assign, List.findSome?_cons]
    cases tap.ip6 <;> cases sa.ip6 <;> rfl

theorem Steady.foldl_assign {tap : XnetTap} (h : tap.Steady) (sas : List SockAddr) :
    (sas.foldl (XnetTap.assign i) tap).Steady := by
  induction sas generalizing tap with
  | nil => exact h
  | cons sa sas ih => exact ih (h.assign i sa)

variable (cfg : VirtualNetworkConfig) (tap : XnetTap)

@[simp] theorem nwid_configure : (tap.configure i cfg).nwid = tap.nwid :=
  nwid_foldl_assign i _ _

/-- A tap keeps the address it has; a tap without one takes the first of the config. -/
theorem ip4_configure : (tap.configure i cfg).ip4 =
    tap.ip4.or ((cfg.assignedAddresses.take maxTapAddrs).findSome? SockAddr.ip4) :=
  ip4_foldl_assign i _ _

theorem ip6_configure : (tap.configure i cfg).ip6 =
    tap.ip6.or ((cfg.assignedAddresses.take maxTapAddrs).findSome? SockAddr.ip6) :=
  ip6_foldl_assign i _ _

theorem hasIp4_configure : (tap.configure i cfg).hasIp4 = true ↔
    tap.hasIp4 = true ∨ ∃ sAddr, .inet sAddr ∈ cfg.assignedAddresses.take maxTapAddrs := by
  rw [← isSome_ip4, ip4_configure, Option.isSome_or, Bool.or_eq_true, isSome_ip4,
    SockAddr.findSome?_ip4_isSome_iff]

theorem hasIp6_configure : (tap.configure i cfg).hasIp6 = true ↔
    tap.hasIp6 = true ∨ ∃ sin6Addr, .inet6 sin6Addr ∈ cfg.assignedAddresses.take maxTapAddrs := by
  rw [← isSome_ip6, ip6_configure, Option.isSome_or, Bool.or_eq_true, isSome_ip6,
    SockAddr.findSome?_ip6_isSome_iff]

variable {tap}

theorem Steady.configure (h : tap.Steady) : (tap.configure i cfg).Steady := by
  have hbase : ({ tap with mac := cfg.mac, mtu := cfg.mtu } : XnetTap).Steady :=
    ⟨h.netifUp, h.ipAddr, h.ip6Addrs⟩
  exact hbase.foldl_assign i _

end Configure

end XnetTap

namespace Registry

/-! ### What a callback does to the slots -/

theorem gTaps_assignAddress (r : Registry) (i : Slot) (sa : SockAddr) :
    (r.assignAddress i sa).gTaps = Function.update r.gTaps i ((r.gTaps i).assign i sa) := by
  cases sa with
  | inet sAddr =>
    dsimp only [assignAddress, XnetTap.assign]
    split_ifs with h4 hup
    · rw [Function.update_eq_self]
    · simp [emit, xnetTapSetupNetif, modify, hup]
    · simp [emit, xnetTapSetupNetif, setupIp4, setupIp6, netifAdd, netifInitCb, modify, hup]
  | inet6 sin6Addr =>
    dsimp only [assignAddress, XnetTap.assign]
    split_ifs with h6
    · rw [Function.update_eq_self]
    · -- the early return makes sure that the netif is down where the branch asks for it up
      by_cases hup : (r.gTaps i).netifUp = true
      · simp [emit, xnetTapSetupNetif, modify, hup]
      · simp [emit, xnetTapSetupNetif, setupIp4, setupIp6, modify, hup]
  | other => rw [assignAddress, XnetTap.assign, Function.update_eq_self]

theorem gTaps_foldl_assignAddress (r : Registry) (i : Slot) (sas : List SockAddr) :
    (sas.foldl (assignAddress i) r).gTaps =
      Function.update r.gTaps i (sas.foldl (XnetTap.assign i) (r.gTaps i)) := by
  induction sas generalizing r with
  | nil => rw [List.foldl_nil, List.foldl_nil, Function.update_eq_self]
  | cons sa sas ih =>
    rw [List.foldl_cons, List.foldl_cons, ih, gTaps_assignAddress, Function.update_self,
      Function.update_idem]

theorem gTapCount_foldl_assignAddress (r : Registry) (i : Slot) (sas : List SockAddr) :
    (sas.foldl (assignAddress i) r).gTapCount = r.gTapCount := by
  induction sas generalizing r with
  | nil => rfl
  | cons sa sas ih => rw [List.foldl_cons, ih, gTapCount_assignAddress]

/-- The event for the status of a config. -/
def statusEvents : NetworkStatus → List XnetEvent
  | .ok => [.networkOk]
  | .accessDenied => [.networkDenied]
  | .notFound => [.networkNotFound]
  | .other => []

theorem emitStatus_eq (r : Registry) (status : NetworkStatus) :
    r.emitStatus status = { r with emitted := r.emitted ++ statusEvents status } := by
  cases status with
  | other => simp [emitStatus, statusEvents]
  | ok | accessDenied | notFound => rfl

/-- A config changes the tap it is for, and nothing else in the array. -/
theorem gTaps_applyConfig (r : Registry) (i : Slot) (cfg : VirtualNetworkConfig) :
    (r.applyConfig i cfg).gTaps = Function.update r.gTaps i ((r.gTaps i).configure i cfg) ∧
      (r.applyConfig i cfg).gTapCount = r.gTapCount := by
  unfold applyConfig
  rw [emitStatus_eq]
  dsimp only
  rw [gTaps_foldl_assignAddress, gTapCount_foldl_assignAddress]
  simp [modify, XnetTap.configure]

/-- Where a config for a network goes: to its tap, or to a new one while there is room. -/
inductive Target (r : Registry) (nwid : BitVec 64) : Slot → XnetTap → ℕ → Prop
  | found {i : Slot} (h : r.tapFind nwid = some i) : Target r nwid i (r.gTaps i) r.gTapCount
  | added (h : r.tapFind nwid = none) (hlt : r.gTapCount < maxTaps) :
      Target r nwid ⟨r.gTapCount, hlt⟩ (.fresh nwid) (r.gTapCount + 1)

/-- A network without a tap finds no room. -/
def Refused (r : Registry) (nwid : BitVec 64) : Prop :=
  r.tapFind nwid = none ∧ r.gTapCount = maxTaps

instance (r : Registry) (nwid : BitVec 64) : Decidable (r.Refused nwid) :=
  inferInstanceAs (Decidable (_ ∧ _))

theorem Target.not_refused {r : Registry} {nwid : BitVec 64} {i : Slot} {base : XnetTap} {count : ℕ}
    (h : r.Target nwid i base count) : ¬ r.Refused nwid := by
  rintro ⟨hnone, hfull⟩
  cases h with
  | found hf => simp [hnone] at hf
  | added _ hlt => omega

theorem refused_or_target (r : Registry) (nwid : BitVec 64) :
    r.Refused nwid ∨ ∃ i base count, r.Target nwid i base count := by
  cases h : r.tapFind nwid with
  | some i => exact Or.inr ⟨i, _, _, .found h⟩
  | none =>
    rcases r.gTapCount_le.lt_or_eq with hlt | heq
    · exact Or.inr ⟨_, _, _, .added h hlt⟩
    · exact Or.inl ⟨h, heq⟩

theorem configureNetwork_refused {r : Registry} {nwid : BitVec 64} (h : r.Refused nwid)
    (cfg : Option VirtualNetworkConfig) : r.configureNetwork nwid cfg = r := by
  have hfull : ¬ r.gTapCount < maxTaps := by
    rw [h.2]
    exact lt_irrefl _
  simp [configureNetwork, findOrAdd, h.1, hfull]

/-- The registry with the tap a config goes to. -/
structure Prepared (r s : Registry) (i : Slot) (base : XnetTap) (count : ℕ) : Prop where
  gTaps : s.gTaps = Function.update r.gTaps i base
  gTapCount : s.gTapCount = count
  emitted : s.emitted = r.emitted

theorem findOrAdd_prepared {r : Registry} {nwid : BitVec 64} {i : Slot} {base : XnetTap}
    {count : ℕ} (h : r.Target nwid i base count) :
    ∃ s, r.findOrAdd nwid = (s, some i) ∧ r.Prepared s i base count := by
  cases h with
  | found h =>
    exact ⟨r, by simp [findOrAdd, h], by rw [Function.update_eq_self], rfl, rfl⟩
  | added h hlt =>
    refine ⟨{ r.overwrite ⟨r.gTapCount, hlt⟩ (.fresh nwid) with
      gTapCount := r.gTapCount + 1, gTapCount_le := hlt }, ?_, rfl, rfl, rfl⟩
    simp only [findOrAdd, h, hlt, dif_pos]
    rfl

theorem configureNetwork_eq {r s : Registry} {nwid : BitVec 64} {i : Slot}
    (h : r.findOrAdd nwid = (s, some i)) (cfg : Option VirtualNetworkConfig) :
    r.configureNetwork nwid cfg = cfg.elim s (s.applyConfig i) := by
  cases cfg <;> simp [configureNetwork, h]

theorem configureNetwork_target {r : Registry} {nwid : BitVec 64} {i : Slot} {base : XnetTap}
    {count : ℕ} (h : r.Target nwid i base count) (cfg : Option VirtualNetworkConfig) :
    (r.configureNetwork nwid cfg).gTaps =
        Function.update r.gTaps i (cfg.elim base (base.configure i)) ∧
      (r.configureNetwork nwid cfg).gTapCount = count := by
  obtain ⟨s, hfind, hs⟩ := findOrAdd_prepared h
  rw [configureNetwork_eq hfind]
  cases cfg with
  | none => exact ⟨hs.gTaps, hs.gTapCount⟩
  | some cfg =>
    rw [Option.elim_some, (gTaps_applyConfig ..).1, (gTaps_applyConfig ..).2, hs.gTaps,
      Function.update_self, Function.update_idem, hs.gTapCount]
    exact ⟨rfl, rfl⟩

/-- The slot whose tap is in slot `j` once the tap in `idx` is removed. -/
def origin (r : Registry) (idx j : Slot) : Slot := if j = idx then r.lastSlot else j

/-- The last tap fills the hole that a removed one leaves. -/
theorem gTaps_removeTap (r : Registry) {idx j : Slot} (hj : j.val < r.gTapCount - 1) :
    (r.removeTap idx).gTaps j = r.gTaps (r.origin idx j) := by
  have hlast : r.lastSlot ≠ j := fun e => absurd (congrArg Fin.val e) (Nat.ne_of_gt hj)
  change ((r.xnetTapTeardown idx).moveLast idx).gTaps j = _
  unfold moveLast origin
  rw [gTapCount_xnetTapTeardown, lastSlot_xnetTapTeardown]
  by_cases hji : j = idx
  · subst hji
    rw [if_pos hj, if_pos rfl, (xnetTapTeardown_of_ne hlast).1]
    simp [overwrite]
  · rw [if_neg hji]
    split_ifs
    · simp [overwrite, hji, (xnetTapTeardown_of_ne hji).1]
    · exact (xnetTapTeardown_of_ne hji).1

theorem gTapCount_removeTap (r : Registry) (idx : Slot) :
    (r.removeTap idx).gTapCount = r.gTapCount - 1 := by
  change ((r.xnetTapTeardown idx).moveLast idx).gTapCount - 1 = _
  rw [gTapCount_moveLast, gTapCount_xnetTapTeardown]

/-! ### The registry as a map -/

/-- The tap found under a network id. -/
def lookup (r : Registry) (nwid : BitVec 64) : Option XnetTap := (r.tapFind nwid).map r.gTaps

/-- No network has two live taps. -/
def Distinct (r : Registry) : Prop :=
  ∀ i j : Slot, i.val < r.gTapCount → j.val < r.gTapCount →
    (r.gTaps i).nwid = (r.gTaps j).nwid → i = j

section Lookup

variable {r : Registry} {nwid : BitVec 64}

theorem tapFind_eq_none_iff :
    r.tapFind nwid = none ↔ ∀ i : Slot, i.val < r.gTapCount → (r.gTaps i).nwid ≠ nwid := by
  simp [tapFind, List.find?_eq_none]

theorem Distinct.tapFind_eq_some_iff (h : r.Distinct) {i : Slot} :
    r.tapFind nwid = some i ↔ i.val < r.gTapCount ∧ (r.gTaps i).nwid = nwid := by
  constructor
  · exact lt_of_tapFind
  · rintro ⟨hlive, hnwid⟩
    cases hf : r.tapFind nwid with
    | none => exact absurd hnwid (tapFind_eq_none_iff.mp hf i hlive)
    | some j =>
      obtain ⟨hj, hjn⟩ := lt_of_tapFind hf
      rw [h j i hj hlive (hjn.trans hnwid.symm)]

theorem Distinct.lookup_eq_some_iff (h : r.Distinct) {tap : XnetTap} :
    r.lookup nwid = some tap ↔
      ∃ i : Slot, i.val < r.gTapCount ∧ (r.gTaps i).nwid = nwid ∧ r.gTaps i = tap := by
  simp only [lookup, Option.map_eq_some_iff, h.tapFind_eq_some_iff, and_assoc]

theorem lookup_isSome : (r.lookup nwid).isSome = (r.tapFind nwid).isSome := by
  simp [lookup]

end Lookup

section Step

variable {r : Registry} {nwid : BitVec 64} {i : Slot} {base : XnetTap} {count : ℕ}

/-- The slots that are live after a config are the ones before it and its own. -/
theorem Target.lt_count_iff (h : r.Target nwid i base count) {j : Slot} (hj : j ≠ i) :
    j.val < count ↔ j.val < r.gTapCount := by
  cases h with
  | found h => rfl
  | added h hlt =>
    have : j.val ≠ r.gTapCount := fun e => hj (Fin.ext e)
    omega

theorem Target.lt_count (h : r.Target nwid i base count) : i.val < count := by
  cases h with
  | found h => exact (lt_of_tapFind h).1
  | added h hlt => exact Nat.lt_succ_self _

theorem Target.nwid_base (h : r.Target nwid i base count) : base.nwid = nwid := by
  cases h with
  | found h => exact (lt_of_tapFind h).2
  | added h hlt => rfl

/-- No other live slot belongs to the network. -/
theorem Target.nwid_ne (h : r.Target nwid i base count) (hd : r.Distinct) {j : Slot} (hj : j ≠ i)
    (hlive : j.val < r.gTapCount) : (r.gTaps j).nwid ≠ nwid := by
  intro hn
  cases h with
  | found h =>
    obtain ⟨hi, hin⟩ := lt_of_tapFind h
    exact hj (hd j i hlive hi (hn.trans hin.symm))
  | added h hlt => exact tapFind_eq_none_iff.mp h j hlive hn

theorem nwid_elim_configure (cfg : Option VirtualNetworkConfig) (base : XnetTap) (i : Slot) :
    (cfg.elim base (base.configure i)).nwid = base.nwid := by
  cases cfg with
  | none => rfl
  | some cfg => exact XnetTap.nwid_configure i cfg base

theorem Distinct.configureNetwork (hd : r.Distinct) (nwid : BitVec 64)
    (cfg : Option VirtualNetworkConfig) : (r.configureNetwork nwid cfg).Distinct := by
  rcases r.refused_or_target nwid with h | ⟨i, base, count, h⟩
  · rwa [configureNetwork_refused h]
  obtain ⟨htaps, hcount⟩ := configureNetwork_target h cfg
  intro j k hj hk e
  rw [hcount] at hj hk
  rw [htaps] at e
  have hown : (cfg.elim base (base.configure i)).nwid = nwid := by
    rw [nwid_elim_configure, h.nwid_base]
  by_cases hji : j = i
  · by_cases hki : k = i
    · rw [hji, hki]
    · rw [hji, Function.update_self, Function.update_of_ne hki, hown] at e
      exact absurd e.symm (h.nwid_ne hd hki ((h.lt_count_iff hki).mp hk))
  · by_cases hki : k = i
    · rw [hki, Function.update_self, Function.update_of_ne hji, hown] at e
      exact absurd e (h.nwid_ne hd hji ((h.lt_count_iff hji).mp hj))
    · rw [Function.update_of_ne hji, Function.update_of_ne hki] at e
      exact hd j k ((h.lt_count_iff hji).mp hj) ((h.lt_count_iff hki).mp hk) e

theorem Distinct.tapFind_configureNetwork (hd : r.Distinct) (h : r.Target nwid i base count)
    (cfg : Option VirtualNetworkConfig) : (r.configureNetwork nwid cfg).tapFind nwid = some i := by
  obtain ⟨htaps, hcount⟩ := configureNetwork_target h cfg
  rw [(hd.configureNetwork nwid cfg).tapFind_eq_some_iff, hcount, htaps, Function.update_self,
    nwid_elim_configure, h.nwid_base]
  exact ⟨h.lt_count, rfl⟩

/-- Writing to one live slot changes what is found under its network only. -/
theorem Distinct.lookup_update (hd : r.Distinct) {s : Registry} {tap : XnetTap}
    (hi : i.val < r.gTapCount) (htaps : s.gTaps = Function.update r.gTaps i tap)
    (hcount : s.gTapCount = r.gTapCount) (hnwid : tap.nwid = (r.gTaps i).nwid) :
    s.Distinct ∧
      ∀ m, s.lookup m = if m = (r.gTaps i).nwid then some tap else r.lookup m := by
  have hsame : ∀ j, (s.gTaps j).nwid = (r.gTaps j).nwid := by
    intro j
    rw [htaps]
    by_cases hj : j = i
    · rw [hj, Function.update_self, hnwid]
    · rw [Function.update_of_ne hj]
  have hd' : s.Distinct := by
    intro j k hj hk e
    rw [hcount] at hj hk
    rw [hsame, hsame] at e
    exact hd j k hj hk e
  refine ⟨hd', fun m => ?_⟩
  have hfind : s.tapFind m = r.tapFind m := by
    ext j
    rw [hd'.tapFind_eq_some_iff, hd.tapFind_eq_some_iff, hcount, hsame]
  rw [lookup, hfind, htaps]
  split_ifs with hm
  · rw [hm, hd.tapFind_eq_some_iff.mpr ⟨hi, rfl⟩, Option.map_some, Function.update_self]
  · cases hf : r.tapFind m with
    | none => rw [lookup, hf]; rfl
    | some j =>
      have hj : j ≠ i := fun e => hm (e ▸ (lt_of_tapFind hf).2.symm)
      rw [lookup, hf, Option.map_some, Option.map_some, Function.update_of_ne hj]

/-- A config is found under its own network, and the others find what they found before. -/
theorem Distinct.lookup_configureNetwork (hd : r.Distinct) (h : r.Target nwid i base count)
    (cfg : Option VirtualNetworkConfig) (m : BitVec 64) :
    (r.configureNetwork nwid cfg).lookup m =
      if m = nwid then some (cfg.elim base (base.configure i)) else r.lookup m := by
  obtain ⟨htaps, hcount⟩ := configureNetwork_target h cfg
  have hd' := hd.configureNetwork nwid cfg
  have hown : (cfg.elim base (base.configure i)).nwid = nwid := by
    rw [nwid_elim_configure, h.nwid_base]
  split_ifs with hm
  · rw [hm, hd'.lookup_eq_some_iff, hcount, htaps]
    exact ⟨i, h.lt_count, by simp [hown], by simp⟩
  · ext tap
    rw [hd'.lookup_eq_some_iff, hd.lookup_eq_some_iff, hcount, htaps]
    constructor
    · rintro ⟨j, hj, hjn, hjt⟩
      have hji : j ≠ i := by
        rintro rfl
        rw [Function.update_self, hown] at hjn
        exact hm hjn.symm
      rw [Function.update_of_ne hji] at hjn hjt
      exact ⟨j, (h.lt_count_iff hji).mp hj, hjn, hjt⟩
    · rintro ⟨j, hj, hjn, hjt⟩
      have hji : j ≠ i := by
        rintro rfl
        cases h with
        | found h => exact hm (hjn.symm.trans (lt_of_tapFind h).2)
        | added h hlt => exact lt_irrefl _ hj
      exact ⟨j, (h.lt_count_iff hji).mpr hj, by rwa [Function.update_of_ne hji],
        by rwa [Function.update_of_ne hji]⟩

section Origin

variable {idx j k : Slot}

theorem origin_live (idx : Slot) (hj : j.val < r.gTapCount - 1) :
    (r.origin idx j).val < r.gTapCount ∧ r.origin idx j ≠ idx := by
  have hlast : r.lastSlot.val = r.gTapCount - 1 := rfl
  unfold origin
  split_ifs with hji
  · refine ⟨by omega, fun e => ?_⟩
    rw [hji, ← e] at hj
    omega
  · exact ⟨by omega, hji⟩

theorem origin_injective (hj : j.val < r.gTapCount - 1) (hk : k.val < r.gTapCount - 1)
    (h : r.origin idx j = r.origin idx k) : j = k := by
  have hlast : r.lastSlot.val = r.gTapCount - 1 := rfl
  unfold origin at h
  split_ifs at h with hji hki hki
  · rw [hji, hki]
  · rw [← h] at hk
    omega
  · rw [h] at hj
    omega
  · exact h

/-- Every live slot but the removed one is where some slot comes from. -/
theorem exists_origin (hidx : idx.val < r.gTapCount) (hk : k.val < r.gTapCount) (hki : k ≠ idx) :
    ∃ j : Slot, j.val < r.gTapCount - 1 ∧ r.origin idx j = k := by
  by_cases hkl : k = r.lastSlot
  · have : idx.val ≠ r.gTapCount - 1 := by
      intro e
      exact hki (by rw [hkl]; exact Fin.ext e.symm)
    exact ⟨idx, by omega, by rw [origin, if_pos rfl, hkl]⟩
  · have : k.val ≠ r.gTapCount - 1 := fun e => hkl (Fin.ext e)
    exact ⟨k, by omega, if_neg hki⟩

end Origin

theorem Distinct.removeTap (hd : r.Distinct) (idx : Slot) : (r.removeTap idx).Distinct := by
  intro j k hj hk e
  rw [gTapCount_removeTap] at hj hk
  rw [r.gTaps_removeTap hj, r.gTaps_removeTap hk] at e
  exact origin_injective hj hk (hd _ _ (origin_live idx hj).1 (origin_live idx hk).1 e)

theorem Distinct.lookup_removeTap (hd : r.Distinct) {idx : Slot} (h : r.tapFind nwid = some idx)
    (m : BitVec 64) : (r.removeTap idx).lookup m = if m = nwid then none else r.lookup m := by
  obtain ⟨hidx, hown⟩ := lt_of_tapFind h
  ext tap
  rw [(hd.removeTap idx).lookup_eq_some_iff, gTapCount_removeTap]
  constructor
  · rintro ⟨j, hj, hjn, hjt⟩
    obtain ⟨hlive, hne⟩ := origin_live idx hj
    rw [r.gTaps_removeTap hj] at hjn hjt
    have hm : m ≠ nwid := by
      rintro rfl
      exact hne (hd _ _ hlive hidx (hjn.trans hown.symm))
    rw [if_neg hm, hd.lookup_eq_some_iff]
    exact ⟨_, hlive, hjn, hjt⟩
  · split_ifs with hm
    · intro ht
      cases ht
    · rw [hd.lookup_eq_some_iff]
      rintro ⟨k, hk, hkn, hkt⟩
      have hki : k ≠ idx := by
        rintro rfl
        exact hm (hkn.symm.trans hown)
      obtain ⟨j, hj, rfl⟩ := exists_origin hidx hk hki
      exact ⟨j, hj, by rwa [r.gTaps_removeTap hj], by rwa [r.gTaps_removeTap hj]⟩

theorem Distinct.removeNetwork (hd : r.Distinct) (nwid : BitVec 64) :
    (r.removeNetwork nwid).Distinct := by
  unfold Registry.removeNetwork
  cases h : r.tapFind nwid with
  | none => exact hd
  | some idx => exact hd.removeTap idx

/-- A removed network is not found any more, and the others find what they found before. -/
theorem Distinct.lookup_removeNetwork (hd : r.Distinct) (nwid m : BitVec 64) :
    (r.removeNetwork nwid).lookup m = if m = nwid then none else r.lookup m := by
  unfold Registry.removeNetwork
  cases h : r.tapFind nwid with
  | none =>
    split_ifs with hm
    · rw [hm, lookup, h, Option.map_none]
    · rfl
  | some idx => exact hd.lookup_removeTap h m

theorem gTapCount_removeNetwork (r : Registry) (nwid : BitVec 64) :
    (r.removeNetwork nwid).gTapCount =
      if (r.tapFind nwid).isSome = true then r.gTapCount - 1 else r.gTapCount := by
  unfold Registry.removeNetwork
  cases h : r.tapFind nwid with
  | none => rfl
  | some idx => exact gTapCount_removeTap r idx

theorem Distinct.step (hd : r.Distinct) (e : Event) : (r.step e).Distinct := by
  obtain ⟨nwid, op, cfg⟩ := e
  cases op with
  | up => exact hd.configureNetwork nwid cfg
  | configUpdate => exact hd.configureNetwork nwid cfg
  | down => exact hd.removeNetwork nwid
  | destroy => exact hd.removeNetwork nwid

end Step

theorem distinct_empty : empty.Distinct := fun _ _ hi => absurd hi (Nat.not_lt_zero _)

/-- A callback for one network leaves what is found under the other ids as it is. -/
def KeepsOthers (r : Registry) (e : Event) : Prop :=
  ∀ m, m ≠ e.nwid → (r.step e).lookup m = r.lookup m

theorem Distinct.keepsOthers {r : Registry} (hd : r.Distinct) (e : Event) : r.KeepsOthers e := by
  obtain ⟨nwid, op, cfg⟩ := e
  intro m hm
  have hconfigure : (r.configureNetwork nwid cfg).lookup m = r.lookup m := by
    rcases r.refused_or_target nwid with h | ⟨i, base, count, h⟩
    · rw [configureNetwork_refused h]
    · rw [hd.lookup_configureNetwork h cfg, if_neg hm]
  have hremove : (r.removeNetwork nwid).lookup m = r.lookup m := by
    rw [hd.lookup_removeNetwork, if_neg hm]
  cases op with
  | up => exact hconfigure
  | configUpdate => exact hconfigure
  | down => exact hremove
  | destroy => exact hremove

/-! ### The bounded set of networks -/

/-- The networks that are up, with room for four. -/
def networksStep (S : Finset (BitVec 64)) (e : Event) : Finset (BitVec 64) :=
  match e.op with
  | .up => if e.nwid ∈ S ∨ S.card < 4 then insert e.nwid S else S
  | .configUpdate => if e.nwid ∈ S ∨ S.card < 4 then insert e.nwid S else S
  | .down => S.erase e.nwid
  | .destroy => S.erase e.nwid

/-- The registry holds one tap for each of the networks, and no others. -/
structure Represents (r : Registry) (S : Finset (BitVec 64)) : Prop where
  count : r.gTapCount = S.card
  distinct : r.Distinct
  find : ∀ nwid, (r.tapFind nwid).isSome = true ↔ nwid ∈ S

theorem represents_empty : empty.Represents ∅ := by
  refine ⟨rfl, distinct_empty, fun nwid => ?_⟩
  have hnone : empty.tapFind nwid = none :=
    tapFind_eq_none_iff.mpr fun i hi => absurd hi (Nat.not_lt_zero _)
  simp [hnone]

section Represents

variable {r : Registry} {S : Finset (BitVec 64)}

theorem Represents.refused_iff (h : r.Represents S) (nwid : BitVec 64) :
    r.Refused nwid ↔ ¬ (nwid ∈ S ∨ S.card < 4) := by
  have hle : S.card ≤ 4 := h.count ▸ r.gTapCount_le
  have hfind : r.tapFind nwid = none ↔ nwid ∉ S := by
    rw [← h.find, Bool.not_eq_true, Option.isSome_eq_false_iff, Option.isNone_iff_eq_none]
  rw [Refused, hfind, h.count, not_or, maxTaps]
  exact and_congr_right fun _ => by omega

theorem Represents.configureNetwork (h : r.Represents S) (nwid : BitVec 64)
    (cfg : Option VirtualNetworkConfig) :
    (r.configureNetwork nwid cfg).Represents
      (if nwid ∈ S ∨ S.card < 4 then insert nwid S else S) := by
  rcases r.refused_or_target nwid with hr | ⟨i, base, count, ht⟩
  · rwa [configureNetwork_refused hr, if_neg ((h.refused_iff nwid).mp hr)]
  have hadmit : nwid ∈ S ∨ S.card < 4 := by
    by_contra hno
    exact ht.not_refused ((h.refused_iff nwid).mpr hno)
  rw [if_pos hadmit]
  refine ⟨?_, h.distinct.configureNetwork nwid cfg, fun m => ?_⟩
  · rw [(configureNetwork_target ht cfg).2]
    cases ht with
    | found hf =>
      have hmem : nwid ∈ S := (h.find nwid).mp (by simp [hf])
      rw [h.count, Finset.insert_eq_of_mem hmem]
    | added hf hlt =>
      have hmem : nwid ∉ S := fun hm => by simpa [hf] using (h.find nwid).mpr hm
      rw [h.count, Finset.card_insert_of_notMem hmem]
  · rw [← lookup_isSome, h.distinct.lookup_configureNetwork ht cfg, Finset.mem_insert]
    split_ifs with hm
    · simp [hm]
    · rw [lookup_isSome, h.find]
      simp [hm]

theorem Represents.removeNetwork (h : r.Represents S) (nwid : BitVec 64) :
    (r.removeNetwork nwid).Represents (S.erase nwid) := by
  refine ⟨?_, h.distinct.removeNetwork nwid, fun m => ?_⟩
  · rw [gTapCount_removeNetwork, h.count]
    split_ifs with hf
    · rw [Finset.card_erase_of_mem ((h.find nwid).mp hf)]
    · rw [Finset.erase_eq_of_notMem fun hm => hf ((h.find nwid).mpr hm)]
  · rw [← lookup_isSome, h.distinct.lookup_removeNetwork, Finset.mem_erase]
    split_ifs with hm
    · simp [hm]
    · rw [lookup_isSome, h.find]
      simp [hm]

theorem Represents.step (h : r.Represents S) (e : Event) :
    (r.step e).Represents (networksStep S e) := by
  obtain ⟨nwid, op, cfg⟩ := e
  cases op with
  | up => exact h.configureNetwork nwid cfg
  | configUpdate => exact h.configureNetwork nwid cfg
  | down => exact h.removeNetwork nwid
  | destroy => exact h.removeNetwork nwid

end Represents

/-- Where every callback returns, the registry finds exactly the networks that are up. -/
theorem represents_foldl (events : List Event) :
    (events.foldl step empty).Represents (events.foldl networksStep ∅) :=
  Run.foldl_simulation (fun _ _ e h => h.step e) events represents_empty

end Registry

end XnetZt.Libxnet
