import XnetZt.Libxnet.TapRegistry

/-!
# The addresses of the taps

`cb_vnet_config` takes an IPv4 and an IPv6 address from a config only while the tap has
none, and `xnet_tap_setup_netif` does nothing once the netif is up. So an IPv6 address is
never installed: the branch that would do it asks for a netif that is up, behind an early
return for netifs that are up.
-/

namespace XnetZt.Libxnet.Registry

/-! ### Address query -/

def xnetHasAddr (r : Registry) (nwid : BitVec 64) (family : Family) : Bool :=
  match r.tapFind nwid with
  | none => false
  | some i => if family = .inet then (r.gTaps i).hasIp4 else (r.gTaps i).hasIp6

/-- The address `xnet_get_addr` stores; `none` is an error. -/
def xnetGetAddr (r : Registry) (nwid : BitVec 64) (family : Family) : Option SockAddr :=
  match r.tapFind nwid with
  | none => none
  | some i =>
    match family with
    | .inet => if (r.gTaps i).hasIp4 then some (.inet (r.gTaps i).ip4Addr) else none
    | .inet6 => if (r.gTaps i).hasIp6 then some (.inet6 (r.gTaps i).ip6Addr) else none

section Query

variable (r : Registry) (nwid : BitVec 64)

theorem xnetHasAddr_inet :
    r.xnetHasAddr nwid .inet = ((r.lookup nwid).bind XnetTap.ip4).isSome := by
  unfold xnetHasAddr lookup
  cases r.tapFind nwid with
  | none => rfl
  | some i => simp

theorem xnetHasAddr_inet6 :
    r.xnetHasAddr nwid .inet6 = ((r.lookup nwid).bind XnetTap.ip6).isSome := by
  unfold xnetHasAddr lookup
  cases r.tapFind nwid with
  | none => rfl
  | some i => simp

theorem xnetGetAddr_inet :
    r.xnetGetAddr nwid .inet = ((r.lookup nwid).bind XnetTap.ip4).map .inet := by
  unfold xnetGetAddr lookup
  cases r.tapFind nwid with
  | none => rfl
  | some i =>
    simp only [Option.map_some, Option.bind_some, XnetTap.ip4]
    split_ifs <;> rfl

end Query

/-! ### An invariant of all runs -/

/-- The registry is a map, and flags and netif of every tap in it agree. -/
structure WellFormed (r : Registry) : Prop where
  distinct : r.Distinct
  steady : ∀ nwid tap, r.lookup nwid = some tap → tap.Steady

theorem lookup_empty (nwid : BitVec 64) : empty.lookup nwid = none := by
  rw [lookup, tapFind_eq_none_iff.mpr fun i hi => absurd hi (Nat.not_lt_zero _), Option.map_none]

theorem wellFormed_empty : empty.WellFormed :=
  ⟨distinct_empty, fun nwid tap h => by simp [lookup_empty] at h⟩

section WellFormed

variable {r : Registry} {nwid : BitVec 64} {i : Slot} {base : XnetTap} {count : ℕ}

/-- The tap a config starts from: the one found, or a fresh one. -/
theorem Target.base_eq (h : r.Target nwid i base count) :
    base = (r.lookup nwid).getD (.fresh nwid) := by
  cases h with
  | found h => simp [lookup, h]
  | added h hlt => simp [lookup, h]

theorem WellFormed.steady_base (h : r.WellFormed) (ht : r.Target nwid i base count) :
    base.Steady := by
  rw [ht.base_eq]
  cases hl : r.lookup nwid with
  | none => exact XnetTap.steady_fresh nwid
  | some tap => exact h.steady nwid tap hl

theorem WellFormed.configureNetwork (h : r.WellFormed) (nwid : BitVec 64)
    (cfg : Option VirtualNetworkConfig) : (r.configureNetwork nwid cfg).WellFormed := by
  refine ⟨h.distinct.configureNetwork nwid cfg, fun m tap hm => ?_⟩
  rcases r.refused_or_target nwid with hr | ⟨i, base, count, ht⟩
  · rw [configureNetwork_refused hr] at hm
    exact h.steady m tap hm
  · rw [h.distinct.lookup_configureNetwork ht cfg] at hm
    split_ifs at hm with hown
    · rw [← Option.some.inj hm]
      have hbase := h.steady_base ht
      cases cfg with
      | none => exact hbase
      | some cfg => exact hbase.configure i cfg
    · exact h.steady m tap hm

theorem WellFormed.removeNetwork (h : r.WellFormed) (nwid : BitVec 64) :
    (r.removeNetwork nwid).WellFormed := by
  refine ⟨h.distinct.removeNetwork nwid, fun m tap hm => ?_⟩
  rw [h.distinct.lookup_removeNetwork] at hm
  split_ifs at hm
  exact h.steady m tap hm

theorem WellFormed.step (h : r.WellFormed) (e : Event) : (r.step e).WellFormed := by
  obtain ⟨nwid, op, cfg⟩ := e
  cases op with
  | up => exact h.configureNetwork nwid cfg
  | configUpdate => exact h.configureNetwork nwid cfg
  | down => exact h.removeNetwork nwid
  | destroy => exact h.removeNetwork nwid

end WellFormed

/-! ### What lwIP and the application are told -/

/-- The events of one assigned address. -/
def announce (tap : XnetTap) : SockAddr → List XnetEvent
  | .inet _ => if tap.hasIp4 then [] else [.addrAddedIp4, .networkReadyIp4]
  | .inet6 _ => if tap.hasIp6 then [] else [.addrAddedIp6]
  | .other => []

theorem emitted_assignAddress (r : Registry) (i : Slot) (sa : SockAddr) :
    (r.assignAddress i sa).emitted = r.emitted ++ announce (r.gTaps i) sa := by
  have hsetup : ∀ (s : Registry) family, (s.xnetTapSetupNetif i family).emitted = s.emitted := by
    intro s family
    unfold xnetTapSetupNetif setupIp6 setupIp4
    split_ifs <;> rfl
  cases sa with
  | inet sAddr =>
    dsimp only [assignAddress, announce]
    split_ifs
    · simp
    · simp [emit, hsetup, modify]
  | inet6 sin6Addr =>
    dsimp only [assignAddress, announce]
    split_ifs
    · simp
    · simp [emit, hsetup, modify]
  | other => simp [assignAddress, announce]

/-! ### IPv6 -/

/-- An IPv6 address that a tap has is on its netif, once that is up. -/
structure Ip6Usable (r : Registry) : Prop where
  installed : ∀ i : Slot, i.val < r.gTapCount → (r.gTaps i).hasIp6 = true →
    (r.gTaps i).netifUp = true → (r.gTaps i).ip6Addr ∈ (r.gTaps i).netif.ip6Addrs
  reported : ∀ nwid i, r.xnetHasAddr nwid .inet6 = true → r.tapFind nwid = some i →
    (r.gTaps i).netifUp = true → (r.gTaps i).ip6Addr ∈ (r.gTaps i).netif.ip6Addrs

/-- The events a callback reports. -/
def reports (r : Registry) (e : Event) : List XnetEvent :=
  (r.step e).emitted.drop r.emitted.length

/-- An address that is reported as added is on the netif of its network, if that is up. -/
def ReportsUsable (r : Registry) (e : Event) : Prop :=
  .addrAddedIp6 ∈ r.reports e → ∀ i, (r.step e).tapFind e.nwid = some i →
    ((r.step e).gTaps i).netifUp = true →
      ((r.step e).gTaps i).ip6Addr ∈ ((r.step e).gTaps i).netif.ip6Addrs

/-- With the config a network has addresses of both families. -/
structure BothFamilies (r : Registry) (nwid : BitVec 64) (cfg : VirtualNetworkConfig) : Prop where
  room : ¬ r.Refused nwid
  ip4 : r.xnetHasAddr nwid .inet = true ∨
    ∃ sAddr, .inet sAddr ∈ cfg.assignedAddresses.take maxTapAddrs
  ip6 : r.xnetHasAddr nwid .inet6 = true ∨
    ∃ sin6Addr, .inet6 sin6Addr ∈ cfg.assignedAddresses.take maxTapAddrs

def SingleFamily (r : Registry) (e : Event) : Prop :=
  e.op = .up ∨ e.op = .configUpdate → ∀ cfg, e.cfg = some cfg → ¬ r.BothFamilies e.nwid cfg

section Ip6

variable {r : Registry} {nwid : BitVec 64} {i : Slot} {base : XnetTap} {count : ℕ}

/-- Nothing is ever installed, so usable means that no tap has both families. -/
theorem WellFormed.ip6Usable_iff (h : r.WellFormed) :
    r.Ip6Usable ↔
      ∀ nwid tap, r.lookup nwid = some tap → ¬ (tap.hasIp4 = true ∧ tap.hasIp6 = true) := by
  have hsteady : ∀ i : Slot, i.val < r.gTapCount → (r.gTaps i).Steady := by
    intro i hi
    exact h.steady _ _ (h.distinct.lookup_eq_some_iff.mpr ⟨i, hi, rfl, rfl⟩)
  constructor
  · rintro hu nwid tap hl ⟨h4, h6⟩
    obtain ⟨i, hi, -, rfl⟩ := h.distinct.lookup_eq_some_iff.mp hl
    have hmem := hu.installed i hi h6 ((hsteady i hi).netifUp.trans h4)
    rw [(hsteady i hi).ip6Addrs] at hmem
    cases hmem
  · intro hno
    have hinst : ∀ i : Slot, i.val < r.gTapCount → (r.gTaps i).hasIp6 = true →
        (r.gTaps i).netifUp = true → (r.gTaps i).ip6Addr ∈ (r.gTaps i).netif.ip6Addrs := by
      intro i hi h6 hup
      rw [(hsteady i hi).netifUp] at hup
      exact absurd ⟨hup, h6⟩
        (hno _ _ (h.distinct.lookup_eq_some_iff.mpr ⟨i, hi, rfl, rfl⟩))
    refine ⟨hinst, fun nwid i hhas hi => hinst i (lt_of_tapFind hi).1 ?_⟩
    rw [xnetHasAddr_inet6, lookup, hi] at hhas
    simpa using hhas

theorem Target.bothFamilies_iff (ht : r.Target nwid i base count) (cfg : VirtualNetworkConfig) :
    r.BothFamilies nwid cfg ↔
      (base.configure i cfg).hasIp4 = true ∧ (base.configure i cfg).hasIp6 = true := by
  have hhas : r.xnetHasAddr nwid .inet = base.hasIp4 ∧ r.xnetHasAddr nwid .inet6 = base.hasIp6 := by
    cases ht with
    | found hf => simp [xnetHasAddr, hf]
    | added hf hlt => simp [xnetHasAddr, hf, XnetTap.fresh, XnetTap.zero]
  rw [XnetTap.hasIp4_configure, XnetTap.hasIp6_configure, ← hhas.1, ← hhas.2]
  exact ⟨fun h => ⟨h.ip4, h.ip6⟩, fun h => ⟨ht.not_refused, h.1, h.2⟩⟩

theorem Ip6Usable.configureNetwork_iff (hu : r.Ip6Usable) (h : r.WellFormed) (nwid : BitVec 64)
    (cfg : Option VirtualNetworkConfig) :
    (r.configureNetwork nwid cfg).Ip6Usable ↔ ∀ c, cfg = some c → ¬ r.BothFamilies nwid c := by
  rcases r.refused_or_target nwid with hr | ⟨i, base, count, ht⟩
  · rw [configureNetwork_refused hr]
    exact iff_of_true hu fun c _ hb => hb.room hr
  have hsingle := h.ip6Usable_iff.mp hu
  have hbase : ¬ (base.hasIp4 = true ∧ base.hasIp6 = true) := by
    rw [ht.base_eq]
    cases hl : r.lookup nwid with
    | none => simp [XnetTap.fresh, XnetTap.zero]
    | some tap => exact hsingle nwid tap hl
  rw [(h.configureNetwork nwid cfg).ip6Usable_iff]
  have hconfigured : (∀ m tap, (r.configureNetwork nwid cfg).lookup m = some tap →
      ¬ (tap.hasIp4 = true ∧ tap.hasIp6 = true)) ↔
        ¬ ((cfg.elim base (base.configure i)).hasIp4 = true ∧
          (cfg.elim base (base.configure i)).hasIp6 = true) := by
    constructor
    · intro hall
      exact hall nwid _ (by rw [h.distinct.lookup_configureNetwork ht, if_pos rfl])
    · intro hown m tap hl
      rw [h.distinct.lookup_configureNetwork ht] at hl
      split_ifs at hl
      · rwa [← Option.some.inj hl]
      · exact hsingle m tap hl
  rw [hconfigured]
  cases cfg with
  | none => exact iff_of_true hbase fun c hc => by cases hc
  | some cfg =>
    rw [Option.elim_some, ← ht.bothFamilies_iff]
    exact ⟨fun hno c hc => Option.some.inj hc ▸ hno, fun hno => hno cfg rfl⟩

theorem Ip6Usable.removeNetwork (hu : r.Ip6Usable) (h : r.WellFormed) (nwid : BitVec 64) :
    (r.removeNetwork nwid).Ip6Usable := by
  rw [(h.removeNetwork nwid).ip6Usable_iff]
  intro m tap hl
  rw [h.distinct.lookup_removeNetwork] at hl
  split_ifs at hl
  exact h.ip6Usable_iff.mp hu m tap hl

/-- A callback keeps the addresses usable exactly if it leaves no network with both
families. -/
theorem Ip6Usable.step_iff (hu : r.Ip6Usable) (h : r.WellFormed) (e : Event) :
    (r.step e).Ip6Usable ↔ r.SingleFamily e := by
  obtain ⟨nwid, op, cfg⟩ := e
  cases op with
  | up =>
    refine (hu.configureNetwork_iff h nwid cfg).trans ⟨fun hs _ => hs, fun hs => hs (Or.inl rfl)⟩
  | configUpdate =>
    refine (hu.configureNetwork_iff h nwid cfg).trans ⟨fun hs _ => hs, fun hs => hs (Or.inr rfl)⟩
  | down => exact iff_of_true (hu.removeNetwork h nwid) fun hop => by simp at hop
  | destroy => exact iff_of_true (hu.removeNetwork h nwid) fun hop => by simp at hop

/-- The loop reports an IPv6 address only if it comes across one. -/
theorem emitted_foldl_assignAddress (r : Registry) (i : Slot) (sas : List SockAddr) :
    ∃ news, (sas.foldl (assignAddress i) r).emitted = r.emitted ++ news ∧
      (.addrAddedIp6 ∈ news → ∃ sin6Addr, .inet6 sin6Addr ∈ sas) := by
  induction sas generalizing r with
  | nil => exact ⟨[], by simp, fun h => by cases h⟩
  | cons sa sas ih =>
    obtain ⟨news, hnews, hmem⟩ := ih (r.assignAddress i sa)
    refine ⟨announce (r.gTaps i) sa ++ news, ?_, fun h => ?_⟩
    · rw [List.foldl_cons, hnews, emitted_assignAddress, List.append_assoc]
    · rcases List.mem_append.mp h with hsa | hlater
      · cases sa with
        | inet sAddr =>
          dsimp only [announce] at hsa
          split_ifs at hsa <;> simp at hsa
        | inet6 sin6Addr => exact ⟨sin6Addr, List.mem_cons_self⟩
        | other => cases hsa
      · obtain ⟨sin6Addr, hs⟩ := hmem hlater
        exact ⟨sin6Addr, List.mem_cons_of_mem _ hs⟩

theorem emitted_applyConfig (r : Registry) (i : Slot) (cfg : VirtualNetworkConfig) :
    ∃ news, (r.applyConfig i cfg).emitted = r.emitted ++ news ∧
      (.addrAddedIp6 ∈ news →
        ∃ sin6Addr, .inet6 sin6Addr ∈ cfg.assignedAddresses.take maxTapAddrs) := by
  obtain ⟨news, hnews, hmem⟩ := emitted_foldl_assignAddress
    (r.modify i fun tap => { tap with mac := cfg.mac, mtu := cfg.mtu }) i
    (cfg.assignedAddresses.take maxTapAddrs)
  refine ⟨news ++ statusEvents cfg.status, ?_, fun h => hmem ?_⟩
  · unfold applyConfig
    rw [emitStatus_eq]
    dsimp only
    rw [hnews, List.append_assoc]
    rfl
  · refine (List.mem_append.mp h).resolve_right ?_
    cases cfg.status <;> simp [statusEvents]

theorem reports_configure (ht : r.Target nwid i base count) {cfg : Option VirtualNetworkConfig}
    (h : .addrAddedIp6 ∈ (r.configureNetwork nwid cfg).emitted.drop r.emitted.length) :
    (cfg.elim base (base.configure i)).hasIp6 = true := by
  obtain ⟨s, hfind, hs⟩ := findOrAdd_prepared ht
  rw [configureNetwork_eq hfind] at h
  cases cfg with
  | none => simp [hs.emitted] at h
  | some cfg =>
    obtain ⟨news, hnews, hmem⟩ := emitted_applyConfig s i cfg
    rw [Option.elim_some, hnews, hs.emitted, List.drop_left] at h
    exact (XnetTap.hasIp6_configure i cfg base).mpr (Or.inr (hmem h))

theorem not_mem_reports_remove (r : Registry) (nwid : BitVec 64) {event : XnetEvent}
    (h : event ≠ .networkDown) :
    event ∉ (r.removeNetwork nwid).emitted.drop r.emitted.length := by
  have htear : ∀ idx, (r.removeTap idx).emitted = r.emitted := by
    intro idx
    unfold removeTap dropLast moveLast xnetTapTeardown
    split_ifs <;> rfl
  unfold removeNetwork
  cases r.tapFind nwid with
  | none => simp
  | some idx => simp [emit, htear, h]

/-- A network of which an IPv6 address is reported has one. -/
theorem WellFormed.hasIp6_of_reported (h : r.WellFormed) {e : Event}
    (hrep : .addrAddedIp6 ∈ r.reports e) (hi : (r.step e).tapFind e.nwid = some i) :
    ((r.step e).gTaps i).hasIp6 = true := by
  have hconfigure : ∀ nwid cfg,
      .addrAddedIp6 ∈ (r.configureNetwork nwid cfg).emitted.drop r.emitted.length →
      (r.configureNetwork nwid cfg).tapFind nwid = some i →
      ((r.configureNetwork nwid cfg).gTaps i).hasIp6 = true := by
    intro nwid cfg hrep hi
    rcases r.refused_or_target nwid with hr | ⟨j, base, count, ht⟩
    · rw [configureNetwork_refused hr] at hrep
      simp at hrep
    · obtain rfl : j = i :=
        Option.some.inj ((h.distinct.tapFind_configureNetwork ht cfg).symm.trans hi)
      rw [(configureNetwork_target ht cfg).1, Function.update_self]
      exact reports_configure ht hrep
  obtain ⟨nwid, op, cfg⟩ := e
  cases op with
  | up => exact hconfigure nwid cfg hrep hi
  | configUpdate => exact hconfigure nwid cfg hrep hi
  | down => exact absurd hrep (not_mem_reports_remove r nwid (by decide))
  | destroy => exact absurd hrep (not_mem_reports_remove r nwid (by decide))

end Ip6

/-- Announced IPv6 addresses are usable through a run exactly when no callback leaves a
network with addresses of both families. -/
theorem ip6Usable_throughout_iff (events : List Event) :
    (Run.Throughout step Ip6Usable empty events ∧ Run.Along step ReportsUsable empty events) ↔
      Run.Along step SingleFamily empty events := by
  have hempty : empty.Ip6Usable :=
    wellFormed_empty.ip6Usable_iff.mpr fun nwid tap hl => by simp [lookup_empty] at hl
  have hformed : ∀ (r : Registry) e, r.WellFormed → r.Ip6Usable → (r.step e).WellFormed :=
    fun r e hr _ => hr.step e
  have hiff : Run.Throughout step Ip6Usable empty events ↔
      Run.Along step SingleFamily empty events :=
    Run.throughout_iff_along_of_step_iff hformed (fun _ e hr hu => hu.step_iff hr e) events
      wellFormed_empty hempty
  have hkeep : ∀ (r : Registry) e, r.WellFormed ∧ r.Ip6Usable → r.SingleFamily e →
      (r.step e).WellFormed ∧ (r.step e).Ip6Usable :=
    fun r e hr hs => ⟨hr.1.step e, (hr.2.step_iff hr.1 e).mpr hs⟩
  refine ⟨fun h => hiff.mp h.1, fun h => ⟨hiff.mpr h, ?_⟩⟩
  refine Run.along_of_along hkeep (fun r e hr hs hrep i hi hup => ?_) ⟨wellFormed_empty, hempty⟩ h
  exact (hkeep r e hr hs).2.installed i (lt_of_tapFind hi).1 (hr.1.hasIp6_of_reported hrep hi) hup

/-- A network comes up with an IPv4 and an IPv6 address: both are announced, and the netif
that is up has only the first. -/
theorem not_ip6Usable_bothFamilies :
    ¬ Ip6Usable ([⟨1, .up, some ⟨1, 2800, [.inet 0x0100000a, .inet6 1], .ok⟩⟩].foldl step
      empty) := by
  intro h
  have hmem := h.installed ⟨0, by decide⟩ (by decide) (by decide) (by decide)
  revert hmem
  decide

end XnetZt.Libxnet.Registry
