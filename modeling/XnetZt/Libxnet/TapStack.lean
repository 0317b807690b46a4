import XnetZt.Lib.Handler
import XnetZt.Libxnet.NetifList
import XnetZt.Libxnet.TapAddresses

/-!
# Taps over the list of netifs

The callbacks once more, with the list that lwIP walks. A call of `netif_add` or of
`netif_remove` that never returns leaves its callback in possession of `g_lock`, and no
later callback gets beyond its first line. A callback that returns does to the taps what
it does in the registry.
-/

namespace XnetZt.Libxnet

/-- The taps and the netifs of lwIP. -/
structure Stack where
  registry : Registry
  netifs : Netifs
  /-- A callback is in a loop that does not end, and holds `g_lock`. -/
  looping : Bool

/-- A loop of lwIP that does not end. -/
inductive Unending
  | netifAdd
  | netifRemove
  deriving DecidableEq

abbrev Callback := EStateM Unending Stack

namespace Stack

open Registry

def start : Stack := ⟨.empty, .netifInit, false⟩

def modifyRegistry (f : Registry → Registry) : Callback Unit :=
  modify fun s => { s with registry := f s.registry }

/-- `netif_add` sets the fields of the netif first, and then puts it on the list. -/
def netifAdd (i : Slot) : Callback Unit := do
  modifyRegistry (·.netifAdd i)
  let s ← get
  match s.netifs.netifAdd (.tap i) with
  | some netifs => set { s with netifs := netifs }
  | none => throw .netifAdd

def netifRemove (i : Slot) : Callback Unit := do
  let s ← get
  match s.netifs.netifRemove (.tap i) with
  | some netifs => set { s with registry := s.registry.netifRemove i, netifs := netifs }
  | none => throw .netifRemove

def setupIp4 (i : Slot) (family : Family) : Callback Unit := do
  let tap := (← get).registry.gTaps i
  if family = .inet ∧ tap.hasIp4 = true then
    netifAdd i
    modifyRegistry (·.modify i fun tap => { tap with netifUp := true })
  else pure ()

def xnetTapSetupNetif (i : Slot) (family : Family) : Callback Unit := do
  let tap := (← get).registry.gTaps i
  if tap.netifUp then pure ()
  else
    setupIp4 i family
    modifyRegistry (·.setupIp6 i family)

def xnetTapTeardown (i : Slot) : Callback Unit := do
  let tap := (← get).registry.gTaps i
  if !tap.netifUp then pure ()
  else
    netifRemove i
    modifyRegistry (·.modify i fun tap =>
      { tap with netifUp := false, hasIp4 := false, hasIp6 := false })

def assignAddress (i : Slot) (sa : SockAddr) : Callback Unit := do
  let tap := (← get).registry.gTaps i
  match sa with
  | .inet sAddr =>
    if tap.hasIp4 then pure ()
    else
      modifyRegistry (·.modify i fun tap => { tap with ip4Addr := sAddr, hasIp4 := true })
      xnetTapSetupNetif i .inet
      modifyRegistry fun r => (r.emit .addrAddedIp4).emit .networkReadyIp4
  | .inet6 sin6Addr =>
    if tap.hasIp6 then pure ()
    else
      modifyRegistry (·.modify i fun tap => { tap with ip6Addr := sin6Addr, hasIp6 := true })
      xnetTapSetupNetif i .inet6
      modifyRegistry (·.emit .addrAddedIp6)
  | .other => pure ()

/-- The tap of a network; `memset` of a new one reaches its netif. -/
def findOrAdd (nwid : BitVec 64) : Callback (Option Slot) := do
  let s ← get
  let netifs :=
    match s.registry.tapFind nwid, (s.registry.findOrAdd nwid).2 with
    | none, some i => s.netifs.memset (.tap i)
    | _, _ => s.netifs
  set { s with registry := (s.registry.findOrAdd nwid).1, netifs := netifs }
  return (s.registry.findOrAdd nwid).2

def applyConfig (i : Slot) (cfg : VirtualNetworkConfig) : Callback Unit := do
  modifyRegistry (·.modify i fun tap => { tap with mac := cfg.mac, mtu := cfg.mtu })
  (cfg.assignedAddresses.take maxTapAddrs).forM (assignAddress i)
  modifyRegistry (·.emitStatus cfg.status)

/-- The copy of the last tap takes the pointer and the number of its netif along. -/
def copyLast (r : Registry) (idx : Slot) (netifs : Netifs) : Netifs :=
  if idx.val < r.gTapCount - 1 then netifs.copy (.tap idx) (.tap r.lastSlot) else netifs

def moveLast (idx : Slot) : Callback Unit :=
  modify fun s =>
    { s with
      registry := s.registry.moveLast idx
      netifs := copyLast s.registry idx s.netifs }

def configureNetwork (nwid : BitVec 64) (cfg : Option VirtualNetworkConfig) : Callback Unit := do
  match ← findOrAdd nwid, cfg with
  | some i, some cfg => applyConfig i cfg
  | _, _ => pure ()

def removeNetwork (nwid : BitVec 64) : Callback Unit := do
  match (← get).registry.tapFind nwid with
  | some idx =>
    xnetTapTeardown idx
    moveLast idx
    modifyRegistry fun r => r.dropLast.emit .networkDown
  | none => pure ()

def cbVnetConfig (e : Event) : Callback Unit :=
  match e.op with
  | .up => configureNetwork e.nwid e.cfg
  | .configUpdate => configureNetwork e.nwid e.cfg
  | .down => removeNetwork e.nwid
  | .destroy => removeNetwork e.nwid

/-- One call of `cb_vnet_config`. One that never returns keeps the later ones out. -/
def step (s : Stack) (e : Event) : Stack :=
  if s.looping then s
  else
    match (cbVnetConfig e).run s with
    | .ok _ s => s
    | .error _ s => { s with looping := true }

/-! ### What a callback does to taps and netifs -/

/-- The run of `x` from `s` returns with this registry and these netifs. Without netifs it
does not return. -/
def Yields (x : Callback Unit) (s : Stack) (r : Registry) : Option Netifs → Prop
  | some netifs => x.run s = .ok () ⟨r, netifs, s.looping⟩
  | none => ∃ e t, x.run s = .error e t

section Yields

variable {x y : Callback Unit} {s : Stack} {r r' : Registry} {n : Option Netifs}

theorem Yields.bind {g : Netifs → Option Netifs} (hx : Yields x s r n)
    (hy : ∀ m, n = some m → Yields y ⟨r, m, s.looping⟩ r' (g m)) :
    Yields (x >>= fun _ => y) s r' (n.bind g) := by
  cases n with
  | none =>
    obtain ⟨e, t, h⟩ := hx
    exact ⟨e, t, Handler.run_bind_error h _⟩
  | some m =>
    have hrun := Handler.run_bind_ok hx fun _ => y
    have hm := hy m rfl
    rw [Option.bind_some]
    cases hg : g m with
    | none =>
      rw [hg] at hm
      obtain ⟨e, t, h⟩ := hm
      exact ⟨e, t, hrun.trans h⟩
    | some m' =>
      rw [hg] at hm
      exact hrun.trans hm

theorem Yields.bind_some {m : Netifs} (hx : Yields x s r (some m))
    (hy : Yields y ⟨r, m, s.looping⟩ r' n) : Yields (x >>= fun _ => y) s r' n :=
  hx.bind (g := fun _ => n) fun _ hm => Option.some.inj hm ▸ hy

theorem Yields.of_run {t : Stack} (hy : Yields y t r n) (hrun : x.run s = y.run t)
    (hloop : t.looping = s.looping) : Yields x s r n := by
  cases n with
  | none =>
    obtain ⟨e, t', h⟩ := hy
    exact ⟨e, t', hrun.trans h⟩
  | some m => exact hrun.trans (hloop ▸ hy)

theorem yields_pure (s : Stack) : Yields (pure ()) s s.registry (some s.netifs) := rfl

theorem yields_modifyRegistry (f : Registry → Registry) (s : Stack) :
    Yields (modifyRegistry f) s (f s.registry) (some s.netifs) := rfl

theorem Yields.bind_modifyRegistry (hx : Yields x s r n) (f : Registry → Registry) :
    Yields (x >>= fun _ => modifyRegistry f) s (f r) n := by
  have h : Yields (x >>= fun _ => modifyRegistry f) s (f r) (n.bind some) :=
    hx.bind fun m _ => yields_modifyRegistry f ⟨r, m, s.looping⟩
  rwa [Option.bind_fun_some] at h

theorem yields_netifAdd (i : Slot) (s : Stack) :
    Yields (netifAdd i) s (s.registry.netifAdd i) (s.netifs.netifAdd (.tap i)) := by
  refine (yields_modifyRegistry _ s).bind_some ?_
  cases h : s.netifs.netifAdd (.tap i) with
  | none =>
    refine ⟨.netifAdd, ⟨s.registry.netifAdd i, s.netifs, s.looping⟩, ?_⟩
    rw [Handler.run_get_bind]
    simp only [h]
    rfl
  | some m =>
    unfold Yields
    rw [Handler.run_get_bind]
    simp only [h]
    rfl

theorem yields_netifRemove (i : Slot) (s : Stack) :
    Yields (netifRemove i) s (s.registry.netifRemove i) (s.netifs.netifRemove (.tap i)) := by
  unfold netifRemove
  cases h : s.netifs.netifRemove (.tap i) with
  | none =>
    refine ⟨.netifRemove, s, ?_⟩
    rw [Handler.run_get_bind]
    simp only [h]
    rfl
  | some m =>
    unfold Yields
    rw [Handler.run_get_bind]
    simp only [h]
    rfl

/-- What reads the state first. -/
theorem yields_get_bind {f : Stack → Callback Unit} (h : Yields (f s) s r n) :
    Yields (get >>= f) s r n := by
  cases n <;> exact h

theorem yields_setupIp4 (i : Slot) (family : Family) (s : Stack) :
    Yields (setupIp4 i family) s (s.registry.setupIp4 i family)
      (if family = .inet ∧ (s.registry.gTaps i).hasIp4 = true then s.netifs.netifAdd (.tap i)
        else some s.netifs) := by
  refine yields_get_bind ?_
  dsimp only
  unfold Registry.setupIp4
  split_ifs
  · exact (yields_netifAdd i s).bind_modifyRegistry _
  · exact yields_pure s

theorem yields_xnetTapSetupNetif (i : Slot) (family : Family) (s : Stack) :
    Yields (xnetTapSetupNetif i family) s (s.registry.xnetTapSetupNetif i family)
      (if (s.registry.gTaps i).netifUp = false ∧ family = .inet ∧
          (s.registry.gTaps i).hasIp4 = true then s.netifs.netifAdd (.tap i)
        else some s.netifs) := by
  refine yields_get_bind ?_
  dsimp only
  unfold Registry.xnetTapSetupNetif
  cases hup : (s.registry.gTaps i).netifUp with
  | true => simpa using yields_pure s
  | false => simpa using (yields_setupIp4 i family s).bind_modifyRegistry (·.setupIp6 i family)

theorem yields_xnetTapTeardown (i : Slot) (s : Stack) :
    Yields (xnetTapTeardown i) s (s.registry.xnetTapTeardown i)
      (if (s.registry.gTaps i).netifUp = true then s.netifs.netifRemove (.tap i)
        else some s.netifs) := by
  refine yields_get_bind ?_
  dsimp only
  unfold Registry.xnetTapTeardown
  cases hup : (s.registry.gTaps i).netifUp with
  | true => simpa using (yields_netifRemove i s).bind_modifyRegistry _
  | false => simpa using yields_pure s

theorem gTaps_modify_self (r : Registry) (i : Slot) (f : XnetTap → XnetTap) :
    (r.modify i f).gTaps i = f (r.gTaps i) := Function.update_self ..

/-- An address brings up the netif of a tap that has none. -/
theorem yields_assignAddress {i : Slot} (h : (s.registry.gTaps i).Steady) (sa : SockAddr) :
    Yields (assignAddress i sa) s (s.registry.assignAddress i sa)
      (if (s.registry.gTaps i).hasIp4 = false ∧ sa.ip4.isSome = true then
        s.netifs.netifAdd (.tap i) else some s.netifs) := by
  refine yields_get_bind ?_
  cases sa with
  | inet sAddr =>
    dsimp only [Registry.assignAddress]
    cases h4 : (s.registry.gTaps i).hasIp4 with
    | true => simpa using yields_pure s
    | false =>
      have hset := yields_xnetTapSetupNetif i .inet
        ⟨s.registry.modify i fun tap => { tap with ip4Addr := sAddr, hasIp4 := true }, s.netifs,
          s.looping⟩
      rw [gTaps_modify_self, if_pos ⟨h.netifUp.trans h4, rfl, rfl⟩] at hset
      simpa [SockAddr.ip4] using
        (yields_modifyRegistry _ s).bind_some (hset.bind_modifyRegistry _)
  | inet6 sin6Addr =>
    dsimp only [Registry.assignAddress]
    have hno : ¬ ((s.registry.gTaps i).hasIp4 = false ∧
        (SockAddr.inet6 sin6Addr).ip4.isSome = true) := by simp [SockAddr.ip4]
    rw [if_neg hno]
    cases h6 : (s.registry.gTaps i).hasIp6 with
    | true => simpa using yields_pure s
    | false =>
      have hset := yields_xnetTapSetupNetif i .inet6
        ⟨s.registry.modify i fun tap => { tap with ip6Addr := sin6Addr, hasIp6 := true }, s.netifs,
          s.looping⟩
      rw [if_neg (by simp)] at hset
      simpa using (yields_modifyRegistry _ s).bind_some (hset.bind_modifyRegistry _)
  | other =>
    rw [if_neg (by simp [SockAddr.ip4])]
    exact yields_pure s

/-- The loop over the addresses adds the netif of a tap that has no address and is given
one. -/
theorem yields_forM_assignAddress {i : Slot} (h : (s.registry.gTaps i).Steady)
    (sas : List SockAddr) :
    Yields (sas.forM (assignAddress i)) s (sas.foldl (Registry.assignAddress i) s.registry)
      (if (s.registry.gTaps i).hasIp4 = false ∧ (sas.findSome? SockAddr.ip4).isSome = true then
        s.netifs.netifAdd (.tap i) else some s.netifs) := by
  induction sas generalizing s with
  | nil =>
    rw [if_neg (by simp)]
    exact yields_pure s
  | cons sa sas ih =>
    have hnext : ((s.registry.assignAddress i sa).gTaps i) = (s.registry.gTaps i).assign i sa := by
      rw [gTaps_assignAddress, Function.update_self]
    have hhas : ((s.registry.gTaps i).assign i sa).hasIp4 =
        ((s.registry.gTaps i).hasIp4 || sa.ip4.isSome) := by
      rw [← XnetTap.isSome_ip4, XnetTap.ip4_assign, Option.isSome_or, XnetTap.isSome_ip4]
    have hrest : ∀ m : Netifs, Yields (sas.forM (assignAddress i))
        ⟨s.registry.assignAddress i sa, m, s.looping⟩
        (sas.foldl (Registry.assignAddress i) (s.registry.assignAddress i sa))
        (if ((s.registry.gTaps i).hasIp4 || sa.ip4.isSome) = false ∧
            (sas.findSome? SockAddr.ip4).isSome = true then
          m.netifAdd (.tap i) else some m) := by
      intro m
      have hsteady := h.assign i sa
      rw [← hnext] at hsteady
      rw [← hhas, ← hnext]
      exact ih (s := ⟨s.registry.assignAddress i sa, m, s.looping⟩) hsteady
    have hstep := (yields_assignAddress h sa).bind fun m _ => hrest m
    change Yields (assignAddress i sa >>= fun _ => sas.forM (assignAddress i)) s _ _
    rw [List.foldl_cons, List.findSome?_cons]
    cases h4 : (s.registry.gTaps i).hasIp4 <;> cases hsa : sa.ip4 <;> simpa [h4, hsa] using hstep

theorem yields_applyConfig {i : Slot} (h : (s.registry.gTaps i).Steady)
    (cfg : VirtualNetworkConfig) :
    Yields (applyConfig i cfg) s (s.registry.applyConfig i cfg)
      (if (s.registry.gTaps i).hasIp4 = false ∧
          ((cfg.assignedAddresses.take maxTapAddrs).findSome? SockAddr.ip4).isSome = true then
        s.netifs.netifAdd (.tap i) else some s.netifs) := by
  have hsteady : ((s.registry.modify i fun tap =>
      { tap with mac := cfg.mac, mtu := cfg.mtu }).gTaps i).Steady := by
    rw [gTaps_modify_self]
    exact ⟨h.netifUp, h.ipAddr, h.ip6Addrs⟩
  have hloop := yields_forM_assignAddress
    (s := ⟨s.registry.modify i fun tap => { tap with mac := cfg.mac, mtu := cfg.mtu }, s.netifs,
      s.looping⟩) hsteady (cfg.assignedAddresses.take maxTapAddrs)
  rw [gTaps_modify_self] at hloop
  exact (yields_modifyRegistry _ s).bind_some (hloop.bind_modifyRegistry _)

end Yields

/-- The netifs once a config has found its slot: `memset` of a new tap reaches its netif. -/
def prepare (s : Stack) (nwid : BitVec 64) (i : Slot) : Netifs :=
  if s.registry.tapFind nwid = none then s.netifs.memset (.tap i) else s.netifs

section Callback

variable {s : Stack} {nwid : BitVec 64} {i : Slot} {base : XnetTap} {count : ℕ}

theorem run_findOrAdd {r : Registry} (h : s.registry.findOrAdd nwid = (r, some i)) :
    (findOrAdd nwid).run s = .ok (some i) ⟨r, s.prepare nwid i, s.looping⟩ := by
  unfold findOrAdd prepare
  rw [Handler.run_get_bind]
  simp only [h]
  cases s.registry.tapFind nwid <;> rfl

theorem yields_configureNetwork_none (ht : s.registry.Target nwid i base count) :
    Yields (configureNetwork nwid none) s (s.registry.configureNetwork nwid none)
      (some (s.prepare nwid i)) := by
  obtain ⟨r, hfind, -⟩ := findOrAdd_prepared ht
  rw [configureNetwork_eq hfind]
  exact Handler.run_bind_ok (run_findOrAdd hfind) _

/-- A config registers the netif of its tap if that has no address and is given one. -/
theorem yields_configureNetwork (h : s.registry.WellFormed)
    (ht : s.registry.Target nwid i base count) (cfg : VirtualNetworkConfig) :
    Yields (configureNetwork nwid (some cfg)) s (s.registry.configureNetwork nwid (some cfg))
      (if base.hasIp4 = false ∧
          ((cfg.assignedAddresses.take maxTapAddrs).findSome? SockAddr.ip4).isSome = true then
        (s.prepare nwid i).netifAdd (.tap i) else some (s.prepare nwid i)) := by
  obtain ⟨r, hfind, hr⟩ := findOrAdd_prepared ht
  have hbase : r.gTaps i = base := by rw [hr.gTaps, Function.update_self]
  have happly := yields_applyConfig (s := ⟨r, s.prepare nwid i, s.looping⟩)
    (hbase ▸ h.steady_base ht) cfg
  rw [hbase] at happly
  rw [configureNetwork_eq hfind, Option.elim_some]
  exact happly.of_run (Handler.run_bind_ok (run_findOrAdd hfind) _) rfl

/-- A network that finds no room changes nothing. -/
theorem yields_configureNetwork_refused (h : s.registry.Refused nwid)
    (cfg : Option VirtualNetworkConfig) :
    Yields (configureNetwork nwid cfg) s s.registry (some s.netifs) := by
  have hfull : ¬ s.registry.gTapCount < maxTaps := by
    rw [h.2]
    exact lt_irrefl _
  have hfind : s.registry.findOrAdd nwid = (s.registry, none) := by
    simp [Registry.findOrAdd, h.1, hfull]
  have hrun : (findOrAdd nwid).run s = .ok none s := by
    unfold findOrAdd
    rw [Handler.run_get_bind]
    simp only [hfind, h.1]
    rfl
  exact Handler.run_bind_ok hrun _

/-- Removing a tap removes its netif, and the last tap fills the hole. -/
theorem yields_removeNetwork {idx : Slot} (h : s.registry.tapFind nwid = some idx) :
    Yields (removeNetwork nwid) s (s.registry.removeNetwork nwid)
      ((if (s.registry.gTaps idx).netifUp = true then s.netifs.netifRemove (.tap idx)
        else some s.netifs).map (copyLast (s.registry.xnetTapTeardown idx) idx)) := by
  have hmove : ∀ m, Yields (moveLast idx) ⟨s.registry.xnetTapTeardown idx, m, s.looping⟩
      ((s.registry.xnetTapTeardown idx).moveLast idx)
      (some (copyLast (s.registry.xnetTapTeardown idx) idx m)) := fun m => rfl
  have hrun := (yields_xnetTapTeardown idx s).bind fun m _ =>
    (hmove m).bind_modifyRegistry fun r => r.dropLast.emit .networkDown
  refine yields_get_bind ?_
  simp only [h, Registry.removeNetwork]
  rw [Option.map_eq_bind]
  exact hrun

theorem yields_removeNetwork_none (h : s.registry.tapFind nwid = none) :
    Yields (removeNetwork nwid) s (s.registry.removeNetwork nwid) (some s.netifs) := by
  refine yields_get_bind ?_
  simp only [h, Registry.removeNetwork]
  exact yields_pure s

theorem without_prepare :
    (s.prepare nwid i).Without (.tap i) ↔ s.netifs.Without (.tap i) := by
  unfold prepare
  split_ifs
  · exact Netifs.without_memset
  · rfl

end Callback

/-! ### The registry as a map -/

/-- The callback gives the tap in slot `i` an IPv4 address, and it has none yet. -/
structure GivesIp4 (r : Registry) (e : Event) (i : Slot) : Prop where
  op : e.op = .up ∨ e.op = .configUpdate
  target : ∃ base count, r.Target e.nwid i base count ∧ base.hasIp4 = false
  assigns : ∃ cfg sAddr, e.cfg = some cfg ∧ .inet sAddr ∈ cfg.assignedAddresses.take maxTapAddrs

/-- The list of lwIP ends, and no tap in a slot that it still lists is given its IPv4
address. -/
structure FindsFree (s : Stack) (e : Event) : Prop where
  ends : s.netifs.Ends
  unlisted : ∀ i, GivesIp4 s.registry e i → ¬ s.netifs.Listed (.tap i)

section Returns

variable {s : Stack} {e : Event}

theorem exists_yields_configureNetwork (h : s.registry.WellFormed)
    (hop : e.op = .up ∨ e.op = .configUpdate) :
    ∃ n, Yields (configureNetwork e.nwid e.cfg) s (s.registry.configureNetwork e.nwid e.cfg) n ∧
      (s.FindsFree e → n.isSome = true) := by
  rcases s.registry.refused_or_target e.nwid with hr | ⟨i, base, count, ht⟩
  · rw [configureNetwork_refused hr]
    exact ⟨_, yields_configureNetwork_refused hr e.cfg, fun _ => rfl⟩
  cases hcfg : e.cfg with
  | none => exact ⟨_, yields_configureNetwork_none ht, fun _ => rfl⟩
  | some cfg =>
    refine ⟨_, yields_configureNetwork h ht cfg, fun hfree => ?_⟩
    split_ifs with hnew
    · obtain ⟨sAddr, hs⟩ := SockAddr.findSome?_ip4_isSome_iff.mp hnew.2
      have hgives : GivesIp4 s.registry e i :=
        ⟨hop, ⟨base, count, ht, hnew.1⟩, ⟨cfg, sAddr, hcfg, hs⟩⟩
      rw [Netifs.isSome_netifAdd_iff, without_prepare, Netifs.without_iff]
      exact ⟨hfree.ends, hfree.unlisted i hgives⟩
    · rfl

theorem exists_yields_removeNetwork (s : Stack) (nwid : BitVec 64) :
    ∃ n, Yields (removeNetwork nwid) s (s.registry.removeNetwork nwid) n ∧
      (s.netifs.Ends → n.isSome = true) := by
  cases h : s.registry.tapFind nwid with
  | none => exact ⟨_, yields_removeNetwork_none h, fun _ => rfl⟩
  | some idx =>
    refine ⟨_, yields_removeNetwork h, fun hends => ?_⟩
    rw [Option.isSome_map]
    split_ifs
    · exact hends.isSome_netifRemove (.tap idx)
    · rfl

/-- A callback that returns has done to the taps what it does in the registry. It does
return on a list that ends, if it registers no listed netif. -/
theorem exists_yields (h : s.registry.WellFormed) (e : Event) :
    ∃ n, Yields (cbVnetConfig e) s (s.registry.step e) n ∧ (s.FindsFree e → n.isSome = true) := by
  unfold cbVnetConfig
  cases hop : e.op with
  | up =>
    simp only [Registry.step, Registry.cbVnetConfig, hop]
    exact exists_yields_configureNetwork h (Or.inl hop)
  | configUpdate =>
    simp only [Registry.step, Registry.cbVnetConfig, hop]
    exact exists_yields_configureNetwork h (Or.inr hop)
  | down =>
    simp only [Registry.step, Registry.cbVnetConfig, hop]
    obtain ⟨n, hn, hsome⟩ := exists_yields_removeNetwork s e.nwid
    exact ⟨n, hn, fun hfree => hsome hfree.ends⟩
  | destroy =>
    simp only [Registry.step, Registry.cbVnetConfig, hop]
    obtain ⟨n, hn, hsome⟩ := exists_yields_removeNetwork s e.nwid
    exact ⟨n, hn, fun hfree => hsome hfree.ends⟩

theorem step_of_yields {r : Registry} {m : Netifs} (hloop : s.looping = false)
    (h : Yields (cbVnetConfig e) s r (some m)) : s.step e = ⟨r, m, false⟩ := by
  unfold Yields at h
  simp [step, hloop, h]

theorem looping_of_yields {r : Registry} (h : Yields (cbVnetConfig e) s r none) :
    (s.step e).looping = true := by
  obtain ⟨err, t, hrun⟩ := h
  cases hloop : s.looping with
  | true => simp [step, hloop]
  | false => simp [step, hloop, hrun]

/-- No callback is stuck, and the registry is the one of the callbacks that return. -/
structure Refines (s : Stack) (r : Registry) : Prop where
  registry : s.registry = r
  looping : s.looping = false
  wellFormed : r.WellFormed

theorem refines_start : start.Refines empty := ⟨rfl, rfl, wellFormed_empty⟩

theorem Refines.step {r : Registry} (h : s.Refines r) (hfree : s.FindsFree e) :
    (s.step e).Refines (r.step e) := by
  obtain ⟨rfl, hloop, hwf⟩ := h
  obtain ⟨n, hn, hsome⟩ := exists_yields hwf e
  obtain ⟨m, rfl⟩ := Option.isSome_iff_exists.mp (hsome hfree)
  rw [step_of_yields hloop hn]
  exact ⟨rfl, rfl, hwf.step e⟩

end Returns

/-- A callback for one network leaves what is found under the other ids as it is. -/
def KeepsOthers (s : Stack) (e : Event) : Prop :=
  ∀ m, m ≠ e.nwid → (s.step e).registry.lookup m = s.registry.lookup m

theorem Refines.keepsOthers {s : Stack} {r : Registry} {e : Event} (h : s.Refines r)
    (hfree : s.FindsFree e) : s.KeepsOthers e := by
  intro m hm
  rw [(h.step hfree).registry, h.registry]
  exact h.wellFormed.distinct.keepsOthers e m hm

/-- While lwIP's list ends and no tap in a slot on it is given its first IPv4 address, the
registry is a map with room for four networks: it finds exactly the networks that are up,
each once, and every callback leaves the taps of all other networks as they are. -/
theorem represents_networks_of_findsFree (events : List Event)
    (h : Run.Along step FindsFree start events) :
    (events.foldl step start).registry.gTapCount ≤ maxTaps ∧
      (events.foldl step start).registry.Represents (events.foldl networksStep ∅) ∧
      Run.Along step KeepsOthers start events := by
  have hrefines : (events.foldl step start).Refines (events.foldl Registry.step empty) :=
    Run.foldl_simulation_of_along (fun _ _ _ hr hfree => hr.step hfree) refines_start h
  refine ⟨Registry.gTapCount_le _, ?_, ?_⟩
  · rw [hrefines.registry]
    exact represents_foldl events
  · have hkeep : ∀ (s : Stack) e, (∃ r, s.Refines r) → s.FindsFree e → ∃ r, (s.step e).Refines r :=
      fun s e hs hfree => hs.imp' (·.step e) fun r hr => hr.step hfree
    exact Run.along_of_along hkeep (fun s e hs hfree => hs.elim fun r hr => hr.keepsOthers hfree)
      ⟨empty, refines_start⟩ h

theorem represents_networks_reconfigured :
    Run.Along step FindsFree start [upWithIp4 1 0x0100000a, ⟨1, .down, none⟩] ∧
      ([upWithIp4 1 0x0100000a, ⟨1, .down, none⟩].foldl step start).registry.Represents
        ([upWithIp4 1 0x0100000a, ⟨1, .down, none⟩].foldl networksStep ∅) := by
  have hfree : Run.Along step FindsFree start [upWithIp4 1 0x0100000a, ⟨1, .down, none⟩] := by
    have hnone : ∀ i, ¬ start.netifs.Listed (.tap i) := by decide
    refine ⟨⟨by decide, fun i _ => hnone i⟩, ⟨by decide, fun i hi => ?_⟩, trivial⟩
    rcases hi.op with h | h <;> cases h
  exact ⟨hfree, (represents_networks_of_findsFree _ hfree).2.1⟩

/-- Network 3 comes up in the slot that network 2 has left, with its netif still on the list
of lwIP. `netif_add` never returns, and the network is not removed any more. -/
theorem not_represents_networks_listedSlot :
    ¬ ([upWithIp4 1 0x0100000a, upWithIp4 2 0x0200000a, ⟨1, .down, none⟩, upWithIp4 3 0x0300000a,
        ⟨3, .down, none⟩].foldl step start).registry.Represents
      ([upWithIp4 1 0x0100000a, upWithIp4 2 0x0200000a, ⟨1, .down, none⟩, upWithIp4 3 0x0300000a,
        ⟨3, .down, none⟩].foldl networksStep ∅) := by
  intro h
  have hmem := (h.find 3).mp (by decide)
  revert hmem
  decide

/-! ### Taps follow the config -/

/-- lwIP lists the netif of a tap, with this address. -/
def RegisteredWith (s : Stack) (i : Slot) (sAddr : BitVec 32) : Prop :=
  s.netifs.Listed (.tap i) ∧ (s.registry.gTaps i).netif.ipAddr = sAddr

/-- The network has an IPv4 address of the config. -/
def HoldsAddressOf (s : Stack) (nwid : BitVec 64) (cfg : VirtualNetworkConfig) : Prop :=
  ∃ i sAddr, s.registry.tapFind nwid = some i ∧ (s.registry.gTaps i).hasIp4 = true ∧
    (s.registry.gTaps i).ip4Addr = sAddr ∧ .inet sAddr ∈ cfg.assignedAddresses ∧
    s.RegisteredWith i sAddr ∧ s.registry.xnetGetAddr nwid .inet = some (.inet sAddr)

/-- A config update that assigns an IPv4 address. -/
structure UpdatesIp4 (e : Event) (cfg : VirtualNetworkConfig) : Prop where
  op : e.op = .configUpdate
  cfg_eq : e.cfg = some cfg
  assigns : ∃ sAddr, .inet sAddr ∈ cfg.assignedAddresses

/-- The update returns, and the network has an address of the new config. -/
def AddressFollows (s : Stack) (e : Event) : Prop :=
  ∀ cfg, UpdatesIp4 e cfg → (s.step e).looping = false ∧ (s.step e).HoldsAddressOf e.nwid cfg

/-- At most four networks are up, with at most four addresses each. -/
structure WithinLimits (s : Stack) (e : Event) : Prop where
  networks : e.op = .up ∨ e.op = .configUpdate → ¬ s.registry.Refused e.nwid
  addresses : ∀ cfg, e.cfg = some cfg → cfg.assignedAddresses.length ≤ maxTapAddrs

/-- No callback is stuck. A tap without an address is in a slot that is not on lwIP's list,
and the list ends; a tap with an address finds it in the config, and is on the list. -/
structure CanFollow (s : Stack) (nwid : BitVec 64) (cfg : VirtualNetworkConfig) : Prop where
  unlocked : s.looping = false
  newAddress : ∀ i base count, s.registry.Target nwid i base count → base.ip4 = none →
    s.netifs.Ends ∧ ¬ s.netifs.Listed (.tap i)
  sameAddress : ∀ i base count sAddr, s.registry.Target nwid i base count →
    base.ip4 = some sAddr → .inet sAddr ∈ cfg.assignedAddresses ∧ s.netifs.Listed (.tap i)

def KeepsAddress (s : Stack) (e : Event) : Prop :=
  ∀ cfg, UpdatesIp4 e cfg → s.CanFollow e.nwid cfg

section Follow

variable {s : Stack} {e : Event} {nwid : BitVec 64} {i : Slot} {base : XnetTap} {count : ℕ}
  {cfg : VirtualNetworkConfig}

/-- Where the config goes, and the tap it finds there, are determined. -/
theorem target_unique {r : Registry} {j : Slot} {base' : XnetTap} {count' : ℕ}
    (h : r.Target nwid i base count) (h' : r.Target nwid j base' count') :
    i = j ∧ base = base' := by
  cases h with
  | found hf =>
    cases h' with
    | found hf' =>
      obtain rfl := Option.some.inj (hf.symm.trans hf')
      exact ⟨rfl, rfl⟩
    | added hf' => simp [hf] at hf'
  | added hf =>
    cases h' with
    | found hf' => simp [hf] at hf'
    | added => exact ⟨rfl, rfl⟩

theorem canFollow_iff (ht : s.registry.Target nwid i base count) :
    s.CanFollow nwid cfg ↔ s.looping = false ∧
      (base.ip4 = none → s.netifs.Without (.tap i)) ∧
      ∀ sAddr, base.ip4 = some sAddr →
        .inet sAddr ∈ cfg.assignedAddresses ∧ s.netifs.Listed (.tap i) := by
  constructor
  · intro h
    exact ⟨h.unlocked, fun hn => Netifs.without_iff.mpr (h.newAddress i base count ht hn),
      fun a ha => h.sameAddress i base count a ht ha⟩
  · rintro ⟨hloop, hnew, hsame⟩
    refine ⟨hloop, fun j b c hj hb => ?_, fun j b c a hj hb => ?_⟩
    · obtain ⟨rfl, rfl⟩ := target_unique ht hj
      exact Netifs.without_iff.mp (hnew hb)
    · obtain ⟨rfl, rfl⟩ := target_unique ht hj
      exact hsame a hb

theorem holdsAddressOf_configured (h : s.registry.WellFormed)
    (ht : s.registry.Target nwid i base count) {m : Netifs} {sAddr : BitVec 32}
    (hip4 : (base.configure i cfg).ip4 = some sAddr) :
    HoldsAddressOf ⟨s.registry.configureNetwork nwid (some cfg), m, false⟩ nwid cfg ↔
      .inet sAddr ∈ cfg.assignedAddresses ∧ m.Listed (.tap i) := by
  have hslot : (s.registry.configureNetwork nwid (some cfg)).gTaps i = base.configure i cfg := by
    rw [(configureNetwork_target ht _).1, Function.update_self, Option.elim_some]
  have hfind := h.distinct.tapFind_configureNetwork ht (some cfg)
  obtain ⟨hhas, haddr⟩ : (base.configure i cfg).hasIp4 = true ∧
      (base.configure i cfg).ip4Addr = sAddr := by
    simpa [XnetTap.ip4, Option.ite_none_right_eq_some] using hip4
  constructor
  · rintro ⟨j, a, hj, -, ha, hmem, ⟨hlisted, -⟩, -⟩
    obtain rfl : i = j := Option.some.inj (hfind.symm.trans hj)
    dsimp only at ha
    rw [hslot] at ha
    exact ⟨haddr.symm.trans ha ▸ hmem, hlisted⟩
  · rintro ⟨hmem, hlisted⟩
    have hsteady := (h.steady_base ht).configure i cfg
    refine ⟨i, sAddr, hfind, by rw [hslot, hhas], by rw [hslot, haddr], hmem, ⟨hlisted, ?_⟩, ?_⟩
    · rw [hslot, hsteady.ipAddr (hsteady.netifUp.trans hhas), haddr]
    · rw [xnetGetAddr_inet, lookup, hfind, Option.map_some, hslot, Option.bind_some, hip4]
      rfl

/-- The slot of a tap with an address is not a new one. -/
theorem prepare_of_ip4 (ht : s.registry.Target nwid i base count) {sAddr : BitVec 32}
    (h : base.ip4 = some sAddr) : s.prepare nwid i = s.netifs := by
  cases ht with
  | found hf => simp [prepare, hf]
  | added => cases h

/-- An update that assigns IPv4 addresses can be followed exactly if it returns with the
network at one of them. -/
theorem addressFollows_iff (hwf : s.looping = false → s.registry.WellFormed)
    (hlim : s.WithinLimits e) :
    s.AddressFollows e ↔ s.KeepsAddress e := by
  refine forall_congr' fun cfg => imp_congr_right fun hu => ?_
  obtain ⟨i, base, count, ht⟩ :=
    (s.registry.refused_or_target e.nwid).resolve_left (hlim.networks (Or.inr hu.op))
  rw [canFollow_iff ht]
  cases hloop : s.looping with
  | true => simp [step, hloop]
  | false =>
    have h := hwf hloop
    have htake : cfg.assignedAddresses.take maxTapAddrs = cfg.assignedAddresses :=
      List.take_of_length_le (hlim.addresses cfg hu.cfg_eq)
    obtain ⟨first, hfirst⟩ :=
      Option.isSome_iff_exists.mp (SockAddr.findSome?_ip4_isSome_iff.mpr hu.assigns)
    have hip4 : (base.configure i cfg).ip4 = base.ip4.or (some first) := by
      rw [XnetTap.ip4_configure, htake, hfirst]
    have hyields : Yields (cbVnetConfig e) s (s.registry.configureNetwork e.nwid (some cfg))
        (if base.hasIp4 = false then (s.prepare e.nwid i).netifAdd (.tap i)
          else some (s.prepare e.nwid i)) := by
      have hconfigure := yields_configureNetwork h ht cfg
      rw [htake, hfirst] at hconfigure
      simpa [cbVnetConfig, hu.op, hu.cfg_eq] using hconfigure
    cases hbase : base.ip4 with
    | none =>
      -- the tap takes the first address, and lwIP is given its netif
      have hno : base.hasIp4 = false := by rw [← XnetTap.isSome_ip4, hbase]; rfl
      rw [if_pos hno] at hyields
      rw [hbase] at hip4
      cases hadd : (s.prepare e.nwid i).netifAdd (.tap i) with
      | none =>
        rw [hadd] at hyields
        have hlisted : ¬ s.netifs.Without (.tap i) := by
          rw [← without_prepare, ← Netifs.isSome_netifAdd_iff, hadd]
          simp
        simp [looping_of_yields hyields, hlisted]
      | some m =>
        rw [hadd] at hyields
        have hwithout : s.netifs.Without (.tap i) := by
          rw [← without_prepare, ← Netifs.isSome_netifAdd_iff, hadd]
          rfl
        rw [step_of_yields hloop hyields, holdsAddressOf_configured h ht hip4]
        simp [hwithout, SockAddr.mem_of_findSome?_ip4 hfirst, Netifs.listed_of_netifAdd hadd]
    | some sAddr =>
      -- nothing is added, and the address that the tap has stays
      have hhas : base.hasIp4 ≠ false := by
        rw [← XnetTap.isSome_ip4, hbase]
        simp
      rw [if_neg hhas, prepare_of_ip4 ht hbase] at hyields
      rw [hbase] at hip4
      rw [step_of_yields hloop hyields, holdsAddressOf_configured h ht hip4]
      simp

end Follow

/-- A callback that returns leaves the registry well formed. -/
theorem wellFormed_step {s : Stack} {e : Event} (h : s.looping = false → s.registry.WellFormed)
    (hreturns : (s.step e).looping = false) : (s.step e).registry.WellFormed := by
  cases hloop : s.looping with
  | true => simp [step, hloop] at hreturns
  | false =>
    obtain ⟨n, hn, -⟩ := exists_yields (h hloop) e
    cases n with
    | none => simp [looping_of_yields hn] at hreturns
    | some m =>
      rw [step_of_yields hloop hn]
      exact (h hloop).step e

/-- Within the limits of the registry, the addresses follow the configs through a run
exactly when every update of a network without an address finds its slot off the list of
lwIP, and every other one assigns the address again that the network has, with its netif on
the list. -/
theorem addressFollows_along_iff (events : List Event)
    (h : Run.Along step WithinLimits start events) :
    Run.Along step AddressFollows start events ↔ Run.Along step KeepsAddress start events := by
  have hkeep : ∀ (s : Stack) e, (s.looping = false → s.registry.WellFormed) → s.WithinLimits e →
      (s.step e).looping = false → (s.step e).registry.WellFormed :=
    fun _ _ hs _ => wellFormed_step hs
  exact Run.along_congr hkeep (fun _ _ hs hlim => addressFollows_iff hs hlim)
    (fun _ => wellFormed_empty) h

/-- A config with one IPv4 address, for a network that is up. -/
def updateWithIp4 (nwid : BitVec 64) (sAddr : BitVec 32) : Event :=
  ⟨nwid, .configUpdate, some ⟨nwid, 2800, [.inet sAddr], .ok⟩⟩

theorem withinLimits_withIp4 (s : Stack) (nwid : BitVec 64) (sAddr : BitVec 32)
    (op : ConfigOperation) (h : s.registry.gTapCount < maxTaps) :
    s.WithinLimits ⟨nwid, op, some ⟨nwid, 2800, [.inet sAddr], .ok⟩⟩ := by
  refine ⟨fun _ hr => absurd hr.2 h.ne, fun cfg hcfg => ?_⟩
  rw [← Option.some.inj hcfg]
  exact Nat.succ_le_succ (Nat.zero_le _)

theorem addressFollows_sameAddress :
    Run.Along step AddressFollows start [upWithIp4 1 0x0100000a, updateWithIp4 1 0x0100000a] := by
  have hlim : Run.Along step WithinLimits start
      [upWithIp4 1 0x0100000a, updateWithIp4 1 0x0100000a] :=
    ⟨withinLimits_withIp4 _ _ _ _ (by decide), withinLimits_withIp4 _ _ _ _ (by decide), trivial⟩
  refine (addressFollows_along_iff _ hlim).mpr ⟨?_, ?_, trivial⟩
  · intro cfg hu
    cases hu.op
  · intro cfg hu
    obtain rfl := Option.some.inj hu.cfg_eq
    have htarget : (start.step (upWithIp4 1 0x0100000a)).registry.Target 1 ⟨0, by decide⟩ _ _ :=
      .found (by decide)
    refine (canFollow_iff htarget).mpr ⟨by decide, fun hn => ?_, fun sAddr ha => ?_⟩
    · cases (show some (0x0100000a : BitVec 32) = none from .trans (by decide) hn)
    · obtain rfl : (0x0100000a : BitVec 32) = sAddr := Option.some.inj (.trans (by decide) ha)
      exact ⟨List.mem_cons_self, by decide⟩

-- network 3 stays without a netif in a slot that is listed; the one of network 4 is added
example :
    let s := [upWithIp4 1 0x0100000a, upWithIp4 2 0x0200000a, ⟨1, .down, none⟩,
      ⟨3, .up, some ⟨3, 2800, [.inet6 1], .ok⟩⟩, updateWithIp4 4 0x0400000a].foldl step start
    s.netifs.Listed (.tap ⟨1, by decide⟩) ∧ s.netifs.Listed (.tap ⟨2, by decide⟩) ∧
      s.looping = false := by
  decide

/-- The address of a network changes from 10.0.0.1 to 10.0.0.2, and the tap keeps the
first one. -/
theorem not_addressFollows_newAddress :
    Run.Along step WithinLimits start [upWithIp4 1 0x0100000a, updateWithIp4 1 0x0200000a] ∧
      ¬ Run.Along step AddressFollows start
        [upWithIp4 1 0x0100000a, updateWithIp4 1 0x0200000a] := by
  refine ⟨⟨?_, ?_, trivial⟩, fun h => ?_⟩
  · exact withinLimits_withIp4 _ _ _ _ (by decide)
  · exact withinLimits_withIp4 _ _ _ _ (by decide)
  · obtain ⟨i, sAddr, hi, -, ha, hmem, -⟩ := (h.2.1 _ ⟨rfl, rfl, _, List.mem_cons_self⟩).2
    obtain rfl : (⟨0, by decide⟩ : Slot) = i := Option.some.inj (.trans (by decide) hi)
    rw [← ha] at hmem
    revert hmem
    decide

end Stack

end XnetZt.Libxnet
