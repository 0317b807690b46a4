import XnetZt.Libxnet.Tap

/-!
# Isolation of the taps

A registered netif must stay where lwIP knows it, in a live slot that belongs to the
network it was added for; otherwise frames of one network are injected into another.
Leaving a network copies the last tap over the removed one while lwIP still holds the
address of the last slot. Isolation therefore lasts through a run exactly as long as
every removal is of the last tap, or leaves a last tap without a netif to be moved.
-/

namespace XnetZt.Libxnet.Registry

/-- What lwIP relies on. -/
structure Isolated (r : Registry) : Prop where
  live : ∀ i nwid, r.netifList i = some nwid → i.val < r.gTapCount
  ownState : ∀ i nwid, r.netifList i = some nwid → (r.gTaps i).netif.state = some i
  ownNetwork : ∀ i nwid, r.netifList i = some nwid → (r.gTaps i).nwid = nwid
  injected : ∀ i nwid, r.netifList i = some nwid → ∀ gNode p f,
    (r.netifLinkoutput gNode i p).2 = some f → f.networkId = nwid
  intact : r.overwritten = false

/-- The invariant behind isolation: lwIP holds exactly the netifs of the live slots that
are up. -/
structure Tidy (r : Registry) : Prop where
  registered : ∀ i nwid, r.netifList i = some nwid ↔
    i.val < r.gTapCount ∧ (r.gTaps i).netifUp = true ∧ (r.gTaps i).nwid = nwid
  ownState : ∀ i, i.val < r.gTapCount → (r.gTaps i).netifUp = true →
    (r.gTaps i).netif.state = some i
  intact : r.overwritten = false

theorem Tidy.isolated {r : Registry} (h : r.Tidy) : r.Isolated := by
  have hstate : ∀ i nwid, r.netifList i = some nwid → (r.gTaps i).netif.state = some i := by
    intro i nwid hi
    obtain ⟨hlive, hup, -⟩ := (h.registered i nwid).mp hi
    exact h.ownState i hlive hup
  refine ⟨fun i nwid hi => ((h.registered i nwid).mp hi).1, hstate,
    fun i nwid hi => ((h.registered i nwid).mp hi).2.2, ?_, h.intact⟩
  intro i nwid hi gNode p f hf
  simp only [netifLinkoutput, hstate i nwid hi] at hf
  split_ifs at hf
  rw [← Option.some.inj hf]
  exact ((h.registered i nwid).mp hi).2.2

theorem tidy_empty : empty.Tidy :=
  ⟨fun i nwid => by simp [empty], fun i hi => by simp [empty] at hi, rfl⟩

/-! ### The operations on one slot -/

variable {r : Registry} {i : Slot}

theorem Tidy.emit (h : r.Tidy) (e : XnetEvent) : (r.emit e).Tidy :=
  ⟨h.registered, h.ownState, h.intact⟩

/-- Assignments that leave network, netif state and status of a tap alone. -/
theorem Tidy.modify (h : r.Tidy) {f : XnetTap → XnetTap}
    (hnwid : (f (r.gTaps i)).nwid = (r.gTaps i).nwid)
    (hup : (f (r.gTaps i)).netifUp = (r.gTaps i).netifUp)
    (hstate : (f (r.gTaps i)).netif.state = (r.gTaps i).netif.state) : (r.modify i f).Tidy := by
  have hsame : ∀ j, ((r.modify i f).gTaps j).nwid = (r.gTaps j).nwid ∧
      ((r.modify i f).gTaps j).netifUp = (r.gTaps j).netifUp ∧
      ((r.modify i f).gTaps j).netif.state = (r.gTaps j).netif.state := by
    intro j
    by_cases hj : j = i
    · subst hj
      simp [Registry.modify, hnwid, hup, hstate]
    · simp [Registry.modify, hj]
  refine ⟨fun j nwid => ?_, fun j => ?_, h.intact⟩
  · rw [(hsame j).1, (hsame j).2.1]
    exact h.registered j nwid
  · rw [(hsame j).2.1, (hsame j).2.2]
    exact h.ownState j

/-- A whole slot may be written while lwIP does not hold its netif. -/
theorem Tidy.overwrite (h : r.Tidy) (hfree : r.netifList i = none) {tap : XnetTap}
    (hdown : tap.netifUp = false) : (r.overwrite i tap).Tidy := by
  refine ⟨fun j nwid => ?_, fun j hj hup => ?_, by simp [Registry.overwrite, h.intact, hfree]⟩
  · by_cases hj : j = i
    · subst hj
      simp [Registry.overwrite, hfree, hdown]
    · simpa [Registry.overwrite, hj] using h.registered j nwid
  · by_cases hji : j = i
    · subst hji
      simp [Registry.overwrite, hdown] at hup
    · simp only [Registry.overwrite, Function.update_of_ne hji] at hup ⊢
      exact h.ownState j hj hup

/-- The count may change by slots whose netif is down. -/
theorem Tidy.setCount (h : r.Tidy) {count : ℕ} (hle : count ≤ maxTaps)
    (hsame : ∀ j : Slot, (r.gTaps j).netifUp = true → (j.val < count ↔ j.val < r.gTapCount)) :
    Tidy { r with gTapCount := count, gTapCount_le := hle } := by
  refine ⟨fun j nwid => ?_, fun j hj hup => ?_, h.intact⟩
  · rw [h.registered j nwid]
    by_cases hup : (r.gTaps j).netifUp = true
    · simp only [hup, hsame j hup]
    · simp [hup]
  · exact h.ownState j ((hsame j hup).mp hj) hup

theorem Tidy.addNetif (h : r.Tidy) (hi : i.val < r.gTapCount) :
    ((r.netifAdd i).modify i fun tap => { tap with netifUp := true }).Tidy := by
  refine ⟨fun j nwid => ?_, fun j hj hup => ?_, h.intact⟩
  · by_cases hj : j = i
    · subst hj
      simp [Registry.modify, netifAdd, hi]
    · simpa [Registry.modify, netifAdd, hj] using h.registered j nwid
  · by_cases hji : j = i
    · subst hji
      simp [Registry.modify, netifAdd, netifInitCb]
    · simp only [Registry.modify, netifAdd, Function.update_of_ne hji] at hup ⊢
      exact h.ownState j hj hup

theorem Tidy.xnetTapSetupNetif (h : r.Tidy) (hi : i.val < r.gTapCount) (family : Family) :
    (r.xnetTapSetupNetif i family).Tidy := by
  have h4 : (r.setupIp4 i family).Tidy := by
    unfold setupIp4
    split_ifs
    · exact h.addNetif hi
    · exact h
  unfold Registry.xnetTapSetupNetif setupIp6
  split_ifs
  · exact h
  · exact h4.modify rfl rfl rfl
  · exact h4

theorem gTapCount_xnetTapSetupNetif (r : Registry) (i : Slot) (family : Family) :
    (r.xnetTapSetupNetif i family).gTapCount = r.gTapCount := by
  unfold xnetTapSetupNetif setupIp6 setupIp4
  split_ifs <;> rfl

/-- A torn down netif is no longer registered, and the slot can be written to. -/
theorem Tidy.xnetTapTeardown (h : r.Tidy) (i : Slot) : (r.xnetTapTeardown i).Tidy := by
  unfold Registry.xnetTapTeardown
  split_ifs with hup
  · exact h
  refine ⟨fun j nwid => ?_, fun j hj hup => ?_, h.intact⟩
  · by_cases hj : j = i
    · subst hj
      simp [Registry.modify, netifRemove]
    · simpa [Registry.modify, netifRemove, hj] using h.registered j nwid
  · by_cases hji : j = i
    · subst hji
      simp [Registry.modify, netifRemove] at hup
    · simp only [Registry.modify, netifRemove, Function.update_of_ne hji] at hup ⊢
      exact h.ownState j hj hup

theorem netifUp_xnetTapTeardown (r : Registry) (i : Slot) :
    ((r.xnetTapTeardown i).gTaps i).netifUp = false := by
  unfold xnetTapTeardown
  split_ifs with hup
  · simpa using hup
  · simp [Registry.modify]

/-- A teardown does not touch the other slots. -/
theorem xnetTapTeardown_of_ne {r : Registry} {i j : Slot} (hj : j ≠ i) :
    (r.xnetTapTeardown i).gTaps j = r.gTaps j ∧
      (r.xnetTapTeardown i).netifList j = r.netifList j := by
  unfold xnetTapTeardown
  split_ifs with hup
  · exact ⟨rfl, rfl⟩
  · simp [Registry.modify, netifRemove, hj]

@[simp] theorem gTapCount_xnetTapTeardown (r : Registry) (i : Slot) :
    (r.xnetTapTeardown i).gTapCount = r.gTapCount := by
  unfold xnetTapTeardown
  split_ifs <;> rfl

/-! ### `UP` and `CONFIG_UPDATE` -/

theorem Tidy.assignAddress (h : r.Tidy) (hi : i.val < r.gTapCount) (sa : SockAddr) :
    (r.assignAddress i sa).Tidy := by
  cases sa with
  | inet sAddr =>
    dsimp only [Registry.assignAddress]
    split_ifs
    · exact h
    · exact (((h.modify rfl rfl rfl).xnetTapSetupNetif hi _).emit _).emit _
  | inet6 sin6Addr =>
    dsimp only [Registry.assignAddress]
    split_ifs
    · exact h
    · exact ((h.modify rfl rfl rfl).xnetTapSetupNetif hi _).emit _
  | other => exact h

theorem gTapCount_assignAddress (r : Registry) (i : Slot) (sa : SockAddr) :
    (r.assignAddress i sa).gTapCount = r.gTapCount := by
  cases sa with
  | inet sAddr =>
    dsimp only [assignAddress]
    split_ifs
    · rfl
    · exact gTapCount_xnetTapSetupNetif _ _ _
  | inet6 sin6Addr =>
    dsimp only [assignAddress]
    split_ifs
    · rfl
    · exact gTapCount_xnetTapSetupNetif _ _ _
  | other => rfl

theorem Tidy.foldl_assignAddress (h : r.Tidy) (hi : i.val < r.gTapCount) (sas : List SockAddr) :
    (sas.foldl (Registry.assignAddress i) r).Tidy := by
  induction sas generalizing r with
  | nil => exact h
  | cons sa sas ih =>
    apply ih (h.assignAddress hi sa)
    rwa [gTapCount_assignAddress]

theorem Tidy.applyConfig (h : r.Tidy) (hi : i.val < r.gTapCount) (cfg : VirtualNetworkConfig) :
    (r.applyConfig i cfg).Tidy := by
  have hloop : ((cfg.assignedAddresses.take maxTapAddrs).foldl (Registry.assignAddress i)
      (r.modify i fun tap => { tap with mac := cfg.mac, mtu := cfg.mtu })).Tidy :=
    Tidy.foldl_assignAddress (h.modify rfl rfl rfl) hi _
  unfold Registry.applyConfig emitStatus
  dsimp only
  cases cfg.status with
  | other => exact hloop
  | ok | accessDenied | notFound => exact hloop.emit _

theorem lt_of_tapFind {nwid : BitVec 64} (h : r.tapFind nwid = some i) :
    i.val < r.gTapCount ∧ (r.gTaps i).nwid = nwid := by
  have := List.find?_some h
  simpa using this

theorem Tidy.netifList_eq_none (h : r.Tidy)
    (hi : i.val < r.gTapCount → (r.gTaps i).netifUp = false) : r.netifList i = none := by
  rw [Option.eq_none_iff_forall_ne_some]
  intro nwid hn
  obtain ⟨hlive, hup, -⟩ := (h.registered i nwid).mp hn
  simp [hi hlive] at hup

/-- The new slot is past the live ones, so lwIP does not hold it. -/
theorem Tidy.findOrAdd (h : r.Tidy) (nwid : BitVec 64) :
    (r.findOrAdd nwid).1.Tidy ∧
      ∀ i, (r.findOrAdd nwid).2 = some i → i.val < (r.findOrAdd nwid).1.gTapCount := by
  unfold Registry.findOrAdd
  cases hf : r.tapFind nwid with
  | some i =>
    refine ⟨h, fun j hj => ?_⟩
    rw [← Option.some.inj hj]
    exact (lt_of_tapFind hf).1
  | none =>
    dsimp only
    split_ifs with hlt
    · refine ⟨Tidy.setCount (h.overwrite (h.netifList_eq_none ?_) rfl) hlt fun j hup => ?_,
        fun j hj => ?_⟩
      · exact fun hlive => absurd hlive (lt_irrefl _)
      · have hj : j.val ≠ r.gTapCount := by
          intro hj
          simp [Registry.overwrite, show j = ⟨r.gTapCount, hlt⟩ from Fin.ext hj,
        XnetTap.zero] at hup
        change j.val < r.gTapCount + 1 ↔ j.val < r.gTapCount
        omega
      · rw [← Option.some.inj hj]
        exact Nat.lt_succ_self _
    · exact ⟨h, fun j hj => by simp at hj⟩

theorem Tidy.configureNetwork (h : r.Tidy) (nwid : BitVec 64)
    (cfg : Option VirtualNetworkConfig) : (r.configureNetwork nwid cfg).Tidy := by
  obtain ⟨hadd, hlive⟩ := h.findOrAdd nwid
  unfold Registry.configureNetwork
  split
  · rename_i i cfg hi
    exact hadd.applyConfig (hlive i hi) cfg
  · exact hadd

/-! ### `DOWN` and `DESTROY` -/

/-- The copy moves no registered netif: it is not made, or the last tap has none. -/
def SafeRemoval (r : Registry) (idx : Slot) : Prop :=
  idx.val = r.gTapCount - 1 ∨ (r.gTaps r.lastSlot).netifUp = false

theorem lastSlot_xnetTapTeardown (r : Registry) (i : Slot) :
    (r.xnetTapTeardown i).lastSlot = r.lastSlot :=
  Fin.ext (by simp [lastSlot])

theorem gTapCount_moveLast (r : Registry) (idx : Slot) :
    (r.moveLast idx).gTapCount = r.gTapCount := by
  unfold moveLast
  split_ifs <;> rfl

theorem netifList_moveLast (r : Registry) (idx : Slot) :
    (r.moveLast idx).netifList = r.netifList := by
  unfold moveLast
  split_ifs <;> rfl

theorem gTaps_moveLast_lastSlot (r : Registry) (idx : Slot) :
    (r.moveLast idx).gTaps r.lastSlot = r.gTaps r.lastSlot := by
  unfold moveLast
  split_ifs with hlt
  · have hne : r.lastSlot ≠ idx := fun e => absurd (congrArg Fin.val e) (Nat.ne_of_gt hlt)
    simp [overwrite, hne]
  · rfl

theorem Tidy.moveLast (h : r.Tidy) {idx : Slot} (hfree : r.netifList idx = none)
    (hlast : (r.gTaps r.lastSlot).netifUp = false) : (r.moveLast idx).Tidy := by
  unfold Registry.moveLast
  split_ifs
  · exact h.overwrite hfree hlast
  · exact h

theorem Tidy.dropLast (h : r.Tidy) (hlast : (r.gTaps r.lastSlot).netifUp = false) :
    r.dropLast.Tidy := by
  refine h.setCount _ fun j hup => ?_
  have hj : j.val ≠ r.gTapCount - 1 := by
    intro hj
    rw [show j = r.lastSlot from Fin.ext hj, hlast] at hup
    cases hup
  omega

theorem Tidy.removeTap (h : r.Tidy) {idx : Slot} (hsafe : r.SafeRemoval idx) :
    (r.removeTap idx).Tidy := by
  have htear := h.xnetTapTeardown idx
  have hdown := netifUp_xnetTapTeardown r idx
  have hlast : ((r.xnetTapTeardown idx).gTaps (r.xnetTapTeardown idx).lastSlot).netifUp =
      false := by
    rw [lastSlot_xnetTapTeardown]
    by_cases hne : r.lastSlot = idx
    · rw [hne, hdown]
    · rw [(xnetTapTeardown_of_ne hne).1]
      exact hsafe.resolve_left fun e => hne (Fin.ext e.symm)
  apply Tidy.dropLast (htear.moveLast (htear.netifList_eq_none fun _ => hdown) hlast)
  rw [show ((r.xnetTapTeardown idx).moveLast idx).lastSlot = (r.xnetTapTeardown idx).lastSlot from
    Fin.ext (congrArg (· - 1) (gTapCount_moveLast _ _)), gTaps_moveLast_lastSlot]
  exact hlast

/-- The last tap is copied, but lwIP goes on using the slot it was in, which is no
longer live. -/
theorem Tidy.not_isolated_removeTap (h : r.Tidy) {idx : Slot} (hidx : idx.val < r.gTapCount)
    (hsafe : ¬ r.SafeRemoval idx) : ¬ (r.removeTap idx).Isolated := by
  obtain ⟨hidx', hup⟩ := not_or.mp hsafe
  have hne : r.lastSlot ≠ idx := fun e => hidx' (congrArg Fin.val e).symm
  have hreg : r.netifList r.lastSlot = some (r.gTaps r.lastSlot).nwid :=
    (h.registered _ _).mpr ⟨Nat.sub_lt (by omega) Nat.one_pos, by simpa using hup, rfl⟩
  have hkept : (r.removeTap idx).netifList r.lastSlot = some (r.gTaps r.lastSlot).nwid := by
    rw [Registry.removeTap, Registry.dropLast, netifList_moveLast, (xnetTapTeardown_of_ne hne).2,
      hreg]
  have hcount : (r.removeTap idx).gTapCount = r.gTapCount - 1 := by
    change ((r.xnetTapTeardown idx).moveLast idx).gTapCount - 1 = _
    rw [gTapCount_moveLast, gTapCount_xnetTapTeardown]
  intro hiso
  have hlive := hiso.live _ _ hkept
  rw [hcount] at hlive
  exact lt_irrefl _ hlive

/-- A network can be left safely when it has no tap or its tap can be removed. -/
def SafeToLeave (r : Registry) (nwid : BitVec 64) : Prop :=
  ∀ idx, r.tapFind nwid = some idx → r.SafeRemoval idx

theorem Tidy.removeNetwork (h : r.Tidy) {nwid : BitVec 64} (hsafe : r.SafeToLeave nwid) :
    (r.removeNetwork nwid).Tidy := by
  unfold Registry.removeNetwork
  cases hf : r.tapFind nwid with
  | some idx => exact (h.removeTap (hsafe idx hf)).emit _
  | none => exact h

theorem Tidy.not_isolated_removeNetwork (h : r.Tidy) {nwid : BitVec 64}
    (hsafe : ¬ r.SafeToLeave nwid) : ¬ (r.removeNetwork nwid).Isolated := by
  obtain ⟨idx, hf, hbad⟩ : ∃ idx, r.tapFind nwid = some idx ∧ ¬ r.SafeRemoval idx := by
    simpa [SafeToLeave] using hsafe
  intro hiso
  simp only [Registry.removeNetwork, hf] at hiso
  exact h.not_isolated_removeTap (lt_of_tapFind hf).1 hbad
    ⟨hiso.live, hiso.ownState, hiso.ownNetwork, hiso.injected, hiso.intact⟩

/-! ### Runs -/

/-- The callbacks that keep the taps apart. -/
def KeepsIsolation (r : Registry) (e : Event) : Prop :=
  match e.op with
  | .up => True
  | .configUpdate => True
  | .down => r.SafeToLeave e.nwid
  | .destroy => r.SafeToLeave e.nwid

theorem Tidy.step (h : r.Tidy) (e : Event) (hkeep : r.KeepsIsolation e) : (r.step e).Tidy := by
  obtain ⟨nwid, op, cfg⟩ := e
  cases op with
  | up => exact h.configureNetwork nwid cfg
  | configUpdate => exact h.configureNetwork nwid cfg
  | down => exact h.removeNetwork hkeep
  | destroy => exact h.removeNetwork hkeep

theorem Tidy.not_isolated_step (h : r.Tidy) (e : Event) (hkeep : ¬ r.KeepsIsolation e) :
    ¬ (r.step e).Isolated := by
  obtain ⟨nwid, op, cfg⟩ := e
  cases op with
  | up => exact absurd trivial hkeep
  | configUpdate => exact absurd trivial hkeep
  | down => exact h.not_isolated_removeNetwork hkeep
  | destroy => exact h.not_isolated_removeNetwork hkeep

/-- In a run from the empty registry the taps stay isolated exactly as long as no removal
moves a tap whose netif is registered. -/
theorem isolated_throughout_iff (events : List Event) :
    Run.Throughout step Isolated empty events ↔ Run.Along step KeepsIsolation empty events :=
  Run.throughout_iff_along (fun _ => Tidy.isolated) (fun _ e h => h.step e)
    (fun _ e h => h.not_isolated_step e) tidy_empty

/-- A network that comes up with one IPv4 address. -/
def upWithIp4 (nwid : BitVec 64) (sAddr : BitVec 32) : Event :=
  ⟨nwid, .up, some ⟨nwid, 2800, [.inet sAddr], .ok⟩⟩

/-- Two networks come up and the first goes down: lwIP keeps the second netif in slot 1,
which is not live any more. -/
theorem not_isolated_after_leave :
    ¬ Isolated ([upWithIp4 1 0x0100000a, upWithIp4 2 0x0200000a, ⟨1, .down, none⟩].foldl step
      empty) := by
  intro h
  have hlive := h.live ⟨1, by decide⟩ 2 (by decide)
  revert hlive
  decide

end XnetZt.Libxnet.Registry
