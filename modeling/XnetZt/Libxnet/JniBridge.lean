import XnetZt.Lib.Text
import XnetZt.Libxnet.Lifecycle
import XnetZt.Libxnet.TapAddresses

/-!
# The JNI bridge

`jni_bridge.c` answers the address queries of Java from two globals: the id of the network
joined last, and one address, which `xnet_cb` replaces whenever any network is given an
IPv4 address and the network joined last has one. The queries of `xnet_service.c` look into
the tap registry instead. The callback runs inside `cb_vnet_config`, right after the tap was
written, so each round of the address loop is followed by the events it reports.
-/

namespace XnetZt.Libxnet

open Registry

/-- `inet_ntop(AF_INET, ...)`; the first byte in memory is the low-order one. -/
def inetNtop (sAddr : BitVec 32) : Text :=
  let octet (i : ℕ) := Text.decimal (sAddr.toNat / 256 ^ i % 256)
  octet 0 ++ '.' :: (octet 1 ++ '.' :: (octet 2 ++ '.' :: octet 3))

theorem inetNtop_ne_nil (sAddr : BitVec 32) : inetNtop sAddr ≠ [] := by
  simp [inetNtop]

theorem inetNtop_injective : Function.Injective inetNtop := by
  intro a b h
  have hdot : ∀ n, '.' ∉ Text.decimal n := by
    intro n hm
    have := Text.isDigit_of_mem_decimal hm
    revert this
    decide
  obtain ⟨h0, h⟩ := Text.append_cons_inj (hdot _) (hdot _) h
  obtain ⟨h1, h⟩ := Text.append_cons_inj (hdot _) (hdot _) h
  obtain ⟨h2, h3⟩ := Text.append_cons_inj (hdot _) (hdot _) h
  have e0 := Text.decimal_injective h0
  have e1 := Text.decimal_injective h1
  have e2 := Text.decimal_injective h2
  have e3 := Text.decimal_injective h3
  apply BitVec.eq_of_toNat_eq
  have ha := a.isLt
  have hb := b.isLt
  norm_num at e0 e1 e2 e3
  omega

/-- What the Java callback is told. -/
inductive JavaCall
  | onEvent (event : XnetEvent)
  | onAddress (address : Text)
  deriving DecidableEq

/-- The globals of `jni_bridge.c`, over those of the library. -/
structure JniBridge where
  service : Service
  gAddr : Text
  gNwid : BitVec 64
  calls : List JavaCall

namespace JniBridge

def initial : JniBridge := ⟨.initial, [], 0, []⟩

/-- The part of `xnet_cb` that captures an address. -/
def captureAddr (b : JniBridge) (event : XnetEvent) : JniBridge :=
  if event = .addrAddedIp4 ∧ b.gNwid ≠ 0 then
    match b.service.registry.xnetGetAddr b.gNwid .inet with
    | some (.inet sAddr) => { b with gAddr := inetNtop sAddr }
    | _ => b
  else b

def xnetCb (b : JniBridge) (event : XnetEvent) : JniBridge :=
  let b := b.captureAddr event
  { b with
    calls := b.calls ++ .onEvent event ::
      if event = .addrAddedIp4 ∧ b.gAddr ≠ [] then [.onAddress b.gAddr] else [] }

/-- The library gets to a new state and then reports the events that are new in it. -/
def deliver (b : JniBridge) (service : Service) : JniBridge :=
  (service.registry.emitted.drop b.service.registry.emitted.length).foldl xnetCb
    { b with service := service }

def setRegistry (b : JniBridge) (r : Registry) : JniBridge :=
  { b with service := { b.service with registry := r } }

/-- `deliver` for a change of the registry. -/
def deliverRegistry (b : JniBridge) (r : Registry) : JniBridge :=
  b.deliver { b.service with registry := r }

/-- One round of the address loop of `cb_vnet_config`. -/
def assignAddress (i : Slot) (b : JniBridge) (sa : SockAddr) : JniBridge :=
  b.deliverRegistry (b.service.registry.assignAddress i sa)

def applyConfig (b : JniBridge) (i : Slot) (cfg : Registry.VirtualNetworkConfig) : JniBridge :=
  let b := b.setRegistry
    (b.service.registry.modify i fun tap => { tap with mac := cfg.mac, mtu := cfg.mtu })
  let b := (cfg.assignedAddresses.take maxTapAddrs).foldl (assignAddress i) b
  b.deliverRegistry (b.service.registry.emitStatus cfg.status)

def configureNetwork (b : JniBridge) (nwid : BitVec 64)
    (cfg : Option Registry.VirtualNetworkConfig) : JniBridge :=
  match (b.service.registry.findOrAdd nwid).2, cfg with
  | some i, some cfg => (b.setRegistry (b.service.registry.findOrAdd nwid).1).applyConfig i cfg
  | _, _ => b.setRegistry (b.service.registry.findOrAdd nwid).1

def cbVnetConfig (b : JniBridge) (e : Event) : JniBridge :=
  match e.op with
  | .up => b.configureNetwork e.nwid e.cfg
  | .configUpdate => b.configureNetwork e.nwid e.cfg
  | .down => b.deliverRegistry (b.service.registry.removeNetwork e.nwid)
  | .destroy => b.deliverRegistry (b.service.registry.removeNetwork e.nwid)

/-! ### The methods of `ZtSocket` -/

def start (b : JniBridge) : JniBridge := b.deliver (b.service.xnetStart true true true).2

/-- Callbacks that the service thread makes before it is joined come before the stop. -/
def stop (b : JniBridge) : JniBridge := b.deliver (b.service.xnetStop []).2

/-- The node answers a `join` or a `leave` later, with callbacks. -/
def join (b : JniBridge) (nwid : BitVec 64) : JniBridge := { b with gNwid := nwid }

def leave (b : JniBridge) (_nwid : BitVec 64) : JniBridge := b

def hasAddress (b : JniBridge) (_nwid : BitVec 64) : ℕ := if b.gAddr ≠ [] then 1 else 0

def getAddress (b : JniBridge) (_nwid : BitVec 64) : Text := b.gAddr

inductive Action
  | start
  | stop
  | join (nwid : BitVec 64)
  | leave (nwid : BitVec 64)
  | callback (e : Event)

def step (b : JniBridge) : Action → JniBridge
  | .start => b.start
  | .stop => b.stop
  | .join nwid => b.join nwid
  | .leave nwid => b.leave nwid
  | .callback e => if b.service.gRunning then b.cbVnetConfig e else b

/-! ### What a callback captures -/

/-- The IPv4 address the library has for a network. -/
def addr (b : JniBridge) (nwid : BitVec 64) : Option (BitVec 32) :=
  (b.service.registry.lookup nwid).bind XnetTap.ip4

/-- The address of the network joined last. -/
def joined (b : JniBridge) : Option (BitVec 32) := if b.gNwid = 0 then none else b.addr b.gNwid

/-- The bridge after it has captured an address, or found none. -/
def captureText (b : JniBridge) (captured : Option (BitVec 32)) : Text :=
  captured.elim b.gAddr inetNtop

theorem gAddr_captureAddr (b : JniBridge) :
    (b.captureAddr .addrAddedIp4).gAddr = b.captureText b.joined := by
  unfold captureAddr joined captureText
  by_cases h0 : b.gNwid = 0
  · simp [h0]
  · rw [if_pos ⟨rfl, h0⟩, if_neg h0, xnetGetAddr_inet, addr]
    cases (b.service.registry.lookup b.gNwid).bind XnetTap.ip4 <;> rfl

theorem captureAddr_of_ne {b : JniBridge} {event : XnetEvent} (h : event ≠ .addrAddedIp4) :
    b.captureAddr event = b := by
  simp [captureAddr, h]

/-- What callbacks leave of a bridge, as far as the queries read it: a new state of the
library, and an address. -/
structure Becomes (b : JniBridge) (service : Service) (gAddr : Text) (c : JniBridge) : Prop where
  service : c.service = service
  gNwid : c.gNwid = b.gNwid
  gAddr : c.gAddr = gAddr

theorem becomes_xnetCb (b : JniBridge) (event : XnetEvent) :
    b.Becomes b.service (if event = .addrAddedIp4 then b.captureText b.joined else b.gAddr)
      (b.xnetCb event) := by
  have hcapture : (b.captureAddr event).service = b.service ∧
      (b.captureAddr event).gNwid = b.gNwid := by
    unfold captureAddr
    split_ifs
    · split <;> exact ⟨rfl, rfl⟩
    · exact ⟨rfl, rfl⟩
  refine ⟨hcapture.1, hcapture.2, ?_⟩
  split_ifs with he
  · rw [he]
    exact gAddr_captureAddr b
  · change (b.captureAddr event).gAddr = b.gAddr
    rw [captureAddr_of_ne he]

theorem becomes_foldl_xnetCb (b : JniBridge) (events : List XnetEvent) :
    b.Becomes b.service (if .addrAddedIp4 ∈ events then b.captureText b.joined else b.gAddr)
      (events.foldl xnetCb b) := by
  induction events generalizing b with
  | nil => exact ⟨rfl, rfl, rfl⟩
  | cons event events ih =>
    obtain ⟨hservice, hnwid, haddr⟩ := becomes_xnetCb b event
    obtain ⟨ihservice, ihnwid, ihaddr⟩ := ih (b.xnetCb event)
    have hjoined : (b.xnetCb event).joined = b.joined := by
      rw [joined, joined, addr, addr, hservice, hnwid]
    refine ⟨ihservice.trans hservice, ihnwid.trans hnwid, ?_⟩
    rw [List.foldl_cons, ihaddr, captureText, hjoined, haddr]
    -- a second capture finds what the first one found
    by_cases he : event = .addrAddedIp4
    · subst he
      cases b.joined <;> simp [captureText]
    · simp [he, Ne.symm he, captureText]

theorem becomes_deliver (b : JniBridge) (service : Service) :
    b.Becomes service
      (if .addrAddedIp4 ∈ service.registry.emitted.drop b.service.registry.emitted.length then
        b.captureText { b with service := service }.joined
      else b.gAddr) (b.deliver service) := by
  obtain ⟨hservice, hnwid, haddr⟩ := becomes_foldl_xnetCb { b with service := service }
    (service.registry.emitted.drop b.service.registry.emitted.length)
  exact ⟨hservice, hnwid, haddr⟩

/-- Events without a new IPv4 address leave the address as it is. -/
theorem becomes_deliver_quiet (b : JniBridge) (service : Service) (h : .addrAddedIp4 ∉
    service.registry.emitted.drop b.service.registry.emitted.length) :
    b.Becomes service b.gAddr (b.deliver service) := by
  have hdeliver := b.becomes_deliver service
  rwa [if_neg h] at hdeliver

section Loop

variable {b : JniBridge} {i : Slot}

theorem becomes_assignAddress (b : JniBridge) (i : Slot) (sa : SockAddr) :
    b.Becomes { b.service with registry := b.service.registry.assignAddress i sa }
      (if (b.service.registry.gTaps i).hasIp4 = false ∧ sa.ip4.isSome = true then
        b.captureText (b.setRegistry (b.service.registry.assignAddress i sa)).joined
      else b.gAddr) (b.assignAddress i sa) := by
  obtain ⟨hservice, hnwid, haddr⟩ :=
    b.becomes_deliver { b.service with registry := b.service.registry.assignAddress i sa }
  refine ⟨hservice, hnwid, haddr.trans (if_congr ?_ rfl rfl)⟩
  dsimp only
  rw [emitted_assignAddress, List.drop_left]
  cases sa with
  | inet sAddr => cases h : (b.service.registry.gTaps i).hasIp4 <;> simp [announce, SockAddr.ip4, h]
  | inet6 sin6Addr =>
    cases h : (b.service.registry.gTaps i).hasIp6 <;> simp [announce, SockAddr.ip4, h]
  | other => simp [announce, SockAddr.ip4]

/-- The address of the network joined last, once a network has the address `sAddr`. -/
def joinedAfter (b : JniBridge) (nwid : BitVec 64) (sAddr : BitVec 32) : Option (BitVec 32) :=
  if b.gNwid = 0 then none else if b.gNwid = nwid then some sAddr else b.addr b.gNwid

theorem joined_assignAddress (hd : b.service.registry.Distinct)
    (hi : i.val < b.service.registry.gTapCount)
    (hno : (b.service.registry.gTaps i).hasIp4 = false) (sAddr : BitVec 32) :
    (b.setRegistry (b.service.registry.assignAddress i (.inet sAddr))).joined =
      b.joinedAfter (b.service.registry.gTaps i).nwid sAddr := by
  have hlookup := (hd.lookup_update hi (gTaps_assignAddress _ i (.inet sAddr))
    (gTapCount_assignAddress ..) (XnetTap.nwid_assign ..)).2
  have hip4 : ((b.service.registry.gTaps i).assign i (.inet sAddr)).ip4 = some sAddr := by
    have hnone : (b.service.registry.gTaps i).ip4 = none := by simp [XnetTap.ip4, hno]
    rw [XnetTap.ip4_assign, hnone]
    rfl
  unfold joined joinedAfter addr setRegistry
  dsimp only
  rw [hlookup]
  split_ifs with h0 hn
  · rfl
  · rw [Option.bind_some, hip4]
  · rfl

/-- What is joined after an assignment to a network depends on the other networks only. -/
theorem joinedAfter_congr {c : JniBridge} {nwid : BitVec 64} (hnwid : c.gNwid = b.gNwid)
    (haddr : ∀ m, m ≠ nwid → c.addr m = b.addr m) (sAddr : BitVec 32) :
    c.joinedAfter nwid sAddr = b.joinedAfter nwid sAddr := by
  unfold joinedAfter
  rw [hnwid]
  split_ifs with h0 hn
  · rfl
  · rfl
  · exact haddr _ hn

theorem joinedAfter_assignAddress (hd : b.service.registry.Distinct)
    (hi : i.val < b.service.registry.gTapCount) (sa : SockAddr) (sAddr : BitVec 32) :
    (b.assignAddress i sa).joinedAfter (b.service.registry.gTaps i).nwid sAddr =
      b.joinedAfter (b.service.registry.gTaps i).nwid sAddr := by
  obtain ⟨hservice, hnwid, -⟩ := b.becomes_assignAddress i sa
  have hlookup := (hd.lookup_update hi (gTaps_assignAddress _ i sa)
    (gTapCount_assignAddress ..) (XnetTap.nwid_assign ..)).2
  refine joinedAfter_congr hnwid (fun m hm => ?_) sAddr
  rw [addr, addr, hservice, hlookup, if_neg hm]

/-- The address of the bridge after a tap has been offered its first IPv4 address. -/
def capturedBy (b : JniBridge) (i : Slot) (sAddr : Option (BitVec 32)) : Text :=
  if (b.service.registry.gTaps i).hasIp4 = true then b.gAddr
  else sAddr.elim b.gAddr fun sAddr =>
    b.captureText (b.joinedAfter (b.service.registry.gTaps i).nwid sAddr)

/-- The loop captures once, when it comes to the first IPv4 address of a tap without one. -/
theorem becomes_foldl_assignAddress (hd : b.service.registry.Distinct)
    (hi : i.val < b.service.registry.gTapCount) (sas : List SockAddr) :
    b.Becomes
      { b.service with registry := sas.foldl (Registry.assignAddress i) b.service.registry }
      (b.capturedBy i (sas.findSome? SockAddr.ip4)) (sas.foldl (assignAddress i) b) := by
  induction sas generalizing b with
  | nil => exact ⟨rfl, rfl, by simp [capturedBy]⟩
  | cons sa sas ih =>
    obtain ⟨hservice, hnwid, haddr⟩ := b.becomes_assignAddress i sa
    have hr : (b.assignAddress i sa).service.registry =
        b.service.registry.assignAddress i sa := by rw [hservice]
    have hd' : (b.assignAddress i sa).service.registry.Distinct := by
      rw [hr]
      exact (hd.lookup_update hi (gTaps_assignAddress ..) (gTapCount_assignAddress ..)
        (XnetTap.nwid_assign ..)).1
    obtain ⟨ihservice, ihnwid, ihaddr⟩ := ih hd' (by rwa [hr, gTapCount_assignAddress])
    refine ⟨?_, ihnwid.trans hnwid, ?_⟩
    · rw [List.foldl_cons, ihservice, hservice]
      rfl
    · have htap : (b.assignAddress i sa).service.registry.gTaps i =
          (b.service.registry.gTaps i).assign i sa := by
        rw [hr, gTaps_assignAddress, Function.update_self]
      have hhas : ((b.service.registry.gTaps i).assign i sa).hasIp4 =
          ((b.service.registry.gTaps i).hasIp4 || sa.ip4.isSome) := by
        rw [← XnetTap.isSome_ip4, XnetTap.ip4_assign, Option.isSome_or, XnetTap.isSome_ip4]
      rw [List.foldl_cons, ihaddr, capturedBy, capturedBy, htap, hhas, XnetTap.nwid_assign, haddr,
        List.findSome?_cons]
      cases h4 : (b.service.registry.gTaps i).hasIp4 with
      | true => simp
      | false =>
        cases hsa : sa.ip4 with
        | some a =>
          cases sa with
          | inet sAddr =>
            obtain rfl : sAddr = a := Option.some.inj hsa
            simp [joined_assignAddress hd hi h4]
          | inet6 sin6Addr => cases hsa
          | other => cases hsa
        | none =>
          have hsame : (b.assignAddress i sa).gAddr = b.gAddr := by simp [haddr, hsa]
          simp [captureText, hsame, joinedAfter_assignAddress hd hi sa]

theorem becomes_applyConfig (hd : b.service.registry.Distinct)
    (hi : i.val < b.service.registry.gTapCount) (cfg : Registry.VirtualNetworkConfig) :
    b.Becomes { b.service with registry := b.service.registry.applyConfig i cfg }
      (b.capturedBy i ((cfg.assignedAddresses.take maxTapAddrs).findSome? SockAddr.ip4))
      (b.applyConfig i cfg) := by
  -- the bridge after the MAC and the MTU are set, and after the loop
  set c := b.setRegistry (b.service.registry.modify i fun tap =>
    { tap with mac := cfg.mac, mtu := cfg.mtu }) with hc
  set d := (cfg.assignedAddresses.take maxTapAddrs).foldl (assignAddress i) c with hdef
  have hupdate := hd.lookup_update (s := c.service.registry) hi rfl rfl rfl
  obtain ⟨hservice, hnwid, haddr⟩ := becomes_foldl_assignAddress hupdate.1 hi
    (cfg.assignedAddresses.take maxTapAddrs)
  have htap : c.service.registry.gTaps i =
      { b.service.registry.gTaps i with mac := cfg.mac, mtu := cfg.mtu } := by
    simp [hc, setRegistry, Registry.modify]
  have hjoined : ∀ sAddr, c.joinedAfter (b.service.registry.gTaps i).nwid sAddr =
      b.joinedAfter (b.service.registry.gTaps i).nwid sAddr := by
    refine joinedAfter_congr rfl fun m hm => ?_
    rw [addr, addr, hupdate.2, if_neg hm]
  have hquiet : .addrAddedIp4 ∉ (d.service.registry.emitStatus cfg.status).emitted.drop
      d.service.registry.emitted.length := by
    rw [emitStatus_eq, List.drop_left]
    cases cfg.status <;> simp [statusEvents]
  obtain ⟨hservice', hnwid', haddr'⟩ := d.becomes_deliver_quiet
    { d.service with registry := d.service.registry.emitStatus cfg.status } hquiet
  refine ⟨?_, hnwid'.trans hnwid, ?_⟩
  · refine hservice'.trans ?_
    rw [hservice]
    rfl
  · refine haddr'.trans (haddr.trans ?_)
    rw [capturedBy, capturedBy, htap]
    simp only [captureText, hjoined]
    rfl

end Loop

section Callback

variable {b : JniBridge} {nwid : BitVec 64}

/-- The first IPv4 address that a config brings to a network without one. -/
def newIp4 (b : JniBridge) (nwid : BitVec 64) (cfg : Option Registry.VirtualNetworkConfig) :
    Option (BitVec 32) :=
  if b.service.registry.Refused nwid ∨ (b.addr nwid).isSome = true then none
  else cfg.bind fun cfg => (cfg.assignedAddresses.take maxTapAddrs).findSome? SockAddr.ip4

theorem configureNetwork_eq {r : Registry} {i : Slot}
    (h : b.service.registry.findOrAdd nwid = (r, some i))
    (cfg : Option Registry.VirtualNetworkConfig) :
    b.configureNetwork nwid cfg =
      cfg.elim (b.setRegistry r) ((b.setRegistry r).applyConfig i) := by
  cases cfg <;> simp [configureNetwork, h]

/-- A config is written to the registry, and a new IPv4 address lets the bridge capture
the one of the network joined last. -/
theorem becomes_configureNetwork (hd : b.service.registry.Distinct)
    (cfg : Option Registry.VirtualNetworkConfig) :
    b.Becomes { b.service with registry := b.service.registry.configureNetwork nwid cfg }
      ((b.newIp4 nwid cfg).elim b.gAddr fun sAddr => b.captureText (b.joinedAfter nwid sAddr))
      (b.configureNetwork nwid cfg) := by
  rcases b.service.registry.refused_or_target nwid with hr | ⟨i, base, count, ht⟩
  · have hfull : ¬ b.service.registry.gTapCount < maxTaps := by
      rw [hr.2]
      exact lt_irrefl _
    have hsame : b.configureNetwork nwid cfg = b := by
      simp [configureNetwork, findOrAdd, hr.1, hfull, setRegistry]
    rw [configureNetwork_refused hr, newIp4, if_pos (Or.inl hr), hsame]
    exact ⟨rfl, rfl, rfl⟩
  obtain ⟨r, hfind, hr⟩ := findOrAdd_prepared ht
  have hnone : b.service.registry.configureNetwork nwid none = r :=
    Registry.configureNetwork_eq hfind none
  cases cfg with
  | none =>
    have hnew : b.newIp4 nwid none = none := by simp [newIp4]
    rw [hnone, hnew, configureNetwork_eq hfind]
    exact ⟨rfl, rfl, rfl⟩
  | some cfg =>
    set c := b.setRegistry r with hc
    have hbase : c.service.registry.gTaps i = base := by
      rw [hc, setRegistry, hr.gTaps, Function.update_self]
    have hcd : c.service.registry.Distinct := by
      rw [show c.service.registry = _ from hnone.symm]
      exact hd.configureNetwork nwid none
    have hlive : i.val < c.service.registry.gTapCount := hr.gTapCount.symm ▸ ht.lt_count
    have hhas : base.hasIp4 = (b.addr nwid).isSome := by
      rw [ht.base_eq, addr]
      cases b.service.registry.lookup nwid <;> simp [XnetTap.fresh, XnetTap.zero]
    have hjoined : ∀ sAddr, c.joinedAfter nwid sAddr = b.joinedAfter nwid sAddr := by
      refine joinedAfter_congr rfl fun m hm => ?_
      rw [addr, addr, show c.service.registry = _ from hnone.symm,
        hd.lookup_configureNetwork ht, if_neg hm]
    obtain ⟨hservice, hnwid, haddr⟩ := becomes_applyConfig hcd hlive cfg
    rw [capturedBy, hbase, ht.nwid_base] at haddr
    rw [Registry.configureNetwork_eq hfind, configureNetwork_eq hfind]
    refine ⟨hservice, hnwid, haddr.trans ?_⟩
    rw [newIp4, hhas]
    simp only [ht.not_refused, false_or, captureText, hjoined, Option.bind_some]
    split_ifs <;> rfl

theorem becomes_removeNetwork (b : JniBridge) (nwid : BitVec 64) :
    b.Becomes { b.service with registry := b.service.registry.removeNetwork nwid } b.gAddr
      (b.deliverRegistry (b.service.registry.removeNetwork nwid)) :=
  b.becomes_deliver_quiet _ (not_mem_reports_remove _ nwid (by decide))

/-- A network takes the first address a config brings, if it has none. -/
theorem addr_configureNetwork (hd : b.service.registry.Distinct)
    (cfg : Option Registry.VirtualNetworkConfig) (m : BitVec 64) :
    (b.configureNetwork nwid cfg).addr m =
      if m = nwid then (b.addr nwid).or (b.newIp4 nwid cfg) else b.addr m := by
  rw [addr, (becomes_configureNetwork hd cfg).service]
  rcases b.service.registry.refused_or_target nwid with hr | ⟨i, base, count, ht⟩
  · rw [configureNetwork_refused hr, newIp4, if_pos (Or.inl hr), Option.or_none]
    split_ifs with hm
    · rw [hm, addr]
    · rfl
  · rw [hd.lookup_configureNetwork ht]
    split_ifs with hm
    · have hbase : base.ip4 = b.addr nwid := by
        rw [ht.base_eq, addr]
        cases b.service.registry.lookup nwid <;> simp [XnetTap.fresh, XnetTap.zero, XnetTap.ip4]
      rw [Option.bind_some, newIp4, ← hbase]
      simp only [ht.not_refused, false_or]
      cases cfg with
      | none => simp
      | some cfg =>
        rw [Option.elim_some, XnetTap.ip4_configure]
        cases base.ip4 <;> simp
    · rfl

theorem addr_removeNetwork (hd : b.service.registry.Distinct) (nwid m : BitVec 64) :
    (b.deliverRegistry (b.service.registry.removeNetwork nwid)).addr m =
      if m = nwid then none else b.addr m := by
  rw [addr, (becomes_removeNetwork b nwid).service, hd.lookup_removeNetwork]
  split_ifs <;> rfl

end Callback

/-! ### Start and stop -/

section Service

variable {b : JniBridge}

theorem start_fields (b : JniBridge) :
    b.start.gAddr = b.gAddr ∧ (∀ m, b.start.addr m = b.addr m) ∧
      (b.service.registry.Distinct → b.start.service.registry.Distinct) := by
  obtain ⟨news, hregistry, hnews⟩ : ∃ news : List XnetEvent,
      (b.service.xnetStart true true true).2.registry =
        { b.service.registry with emitted := b.service.registry.emitted ++ news } ∧
      .addrAddedIp4 ∉ news := by
    unfold Service.xnetStart Service.xnetLwipInit Service.tcpipInitDone
    cases b.service.gRunning with
    | true => exact ⟨[], by simp, by simp⟩
    | false =>
      cases b.service.lwipInited with
      | true => exact ⟨[], by simp, by simp⟩
      | false => exact ⟨[.stackUp], by simp [emit], by simp⟩
  obtain ⟨hservice, -, haddr⟩ := b.becomes_deliver_quiet
    (b.service.xnetStart true true true).2 (by rwa [hregistry, List.drop_left])
  refine ⟨haddr, fun m => ?_, fun hd => ?_⟩
  · rw [addr, start, hservice, hregistry]
    rfl
  · rw [start, hservice, hregistry]
    exact hd

theorem emitted_teardownAll (r : Registry) : (Service.teardownAll r).emitted = r.emitted := by
  have hround : ∀ (l : List Slot) (s : Registry),
      (l.foldl (fun s i => if i.val < s.gTapCount then s.xnetTapTeardown i else s) s).emitted =
        s.emitted := by
    intro l
    induction l with
    | nil => exact fun s => rfl
    | cons i l ih =>
      intro s
      rw [List.foldl_cons, ih]
      unfold xnetTapTeardown
      split_ifs <;> rfl
  exact hround _ _

/-- After a stop the library has no taps, and the bridge its old address. -/
theorem stop_fields (h : b.service.gRunning = true) :
    b.stop.gAddr = b.gAddr ∧ b.stop.service.registry.gTapCount = 0 := by
  have hquiet : .addrAddedIp4 ∉ (b.service.xnetStop []).2.registry.emitted.drop
      b.service.registry.emitted.length := by
    simp [Service.xnetStop, h, Service.xnetLwipShutdown, emitted_teardownAll, emit]
  obtain ⟨hservice, -, haddr⟩ := b.becomes_deliver_quiet _ hquiet
  refine ⟨haddr, ?_⟩
  rw [stop, hservice]
  simp [Service.xnetStop, h]

theorem stop_of_not_running (h : b.service.gRunning = false) : b.stop = b := by
  have hsame : (b.service.xnetStop []).2 = b.service := by simp [Service.xnetStop, h]
  rw [stop, hsame, deliver, List.drop_length, List.foldl_nil]

end Service

/-! ### Queries for one network -/

/-- Java is told of a network what the library knows. -/
structure Agrees (nwid : BitVec 64) (b : JniBridge) : Prop where
  has : b.hasAddress nwid = 1 ↔ b.service.registry.xnetHasAddr nwid .inet = true
  get : b.hasAddress nwid = 1 → ∃ sAddr,
    b.service.registry.xnetGetAddr nwid .inet = some (.inet sAddr) ∧
      b.getAddress nwid = inetNtop sAddr

/-- A new address of the network `m` makes the bridge capture the one of `nwid`, or none
that differs from it. -/
def CapturesFor (nwid : BitVec 64) (b : JniBridge) (m : BitVec 64) (sAddr : BitVec 32) : Prop :=
  if nwid = m then b.joinedAfter m sAddr = some sAddr
  else b.joinedAfter m sAddr = none ∨ b.joinedAfter m sAddr = b.addr nwid

/-- What may happen while the network has an address, or gets one. -/
def KeepsAgreement (nwid : BitVec 64) (b : JniBridge) : Action → Prop
  | .start => True
  | .stop => b.service.gRunning = true → b.addr nwid = none
  | .join _ => True
  | .leave _ => True
  | .callback e => b.service.gRunning = true →
    match e.op with
    | .up => ∀ sAddr, b.newIp4 e.nwid e.cfg = some sAddr → b.CapturesFor nwid e.nwid sAddr
    | .configUpdate => ∀ sAddr, b.newIp4 e.nwid e.cfg = some sAddr → b.CapturesFor nwid e.nwid sAddr
    | .down => e.nwid = nwid → b.addr nwid = none
    | .destroy => e.nwid = nwid → b.addr nwid = none

/-- The address in text, empty if there is none. -/
def text (address : Option (BitVec 32)) : Text := address.elim [] inetNtop

theorem text_injective : Function.Injective text := by
  intro x y h
  cases x with
  | none =>
    cases y with
    | none => rfl
    | some b => exact absurd h.symm (inetNtop_ne_nil b)
  | some a =>
    cases y with
    | none => exact absurd h (inetNtop_ne_nil a)
    | some b => rw [inetNtop_injective h]

section Agreement

variable {b : JniBridge} {nwid : BitVec 64}

theorem agrees_iff : b.Agrees nwid ↔ b.gAddr = text (b.addr nwid) := by
  have hhas : b.hasAddress nwid = 1 ↔ b.gAddr ≠ [] := by
    unfold hasAddress
    split_ifs with h <;> simp [h]
  have hlib : b.service.registry.xnetHasAddr nwid .inet = (b.addr nwid).isSome :=
    xnetHasAddr_inet ..
  have hget : b.service.registry.xnetGetAddr nwid .inet = (b.addr nwid).map .inet :=
    xnetGetAddr_inet ..
  constructor
  · intro h
    cases haddr : b.addr nwid with
    | none =>
      have hno : ¬ b.hasAddress nwid = 1 := by simp [h.has, hlib, haddr]
      simpa [hhas, text] using hno
    | some sAddr =>
      obtain ⟨a, ha, htext⟩ := h.get (h.has.mpr (by simp [hlib, haddr]))
      rw [hget, haddr] at ha
      obtain rfl : sAddr = a := by simpa using ha
      exact htext
  · intro h
    refine ⟨?_, fun h1 => ?_⟩
    · rw [hhas, h, hlib]
      cases b.addr nwid with
      | none => simp [text]
      | some sAddr => simp [text, inetNtop_ne_nil]
    · rw [hhas, h] at h1
      cases haddr : b.addr nwid with
      | none => simp [text, haddr] at h1
      | some sAddr => exact ⟨sAddr, by rw [hget, haddr]; rfl, by rw [getAddress, h, haddr]; rfl⟩

/-- The bridge goes on agreeing exactly if what it captures is right for the network. -/
theorem Agrees.configureNetwork_iff (h : b.Agrees nwid) (hd : b.service.registry.Distinct)
    (m : BitVec 64) (cfg : Option Registry.VirtualNetworkConfig) :
    (b.configureNetwork m cfg).Agrees nwid ↔
      ∀ sAddr, b.newIp4 m cfg = some sAddr → b.CapturesFor nwid m sAddr := by
  rw [agrees_iff] at h
  rw [agrees_iff, (becomes_configureNetwork hd cfg).gAddr, addr_configureNetwork hd]
  cases hnew : b.newIp4 m cfg with
  | none =>
    refine iff_of_true ?_ fun sAddr hs => by cases hs
    rw [Option.elim_none, Option.or_none, h]
    split_ifs with hm
    · rw [hm]
    · rfl
  | some sAddr =>
    have hcapture : b.captureText (b.joinedAfter m sAddr) =
        text ((b.joinedAfter m sAddr).or (b.addr nwid)) := by
      rw [captureText, h]
      cases b.joinedAfter m sAddr <;> rfl
    have hnone : b.addr m = none := by
      by_contra hsome
      rw [newIp4, if_pos (Or.inr (Option.isSome_iff_ne_none.mpr hsome))] at hnew
      cases hnew
    have hone : (∀ a, some sAddr = some a → b.CapturesFor nwid m a) ↔
        b.CapturesFor nwid m sAddr :=
      ⟨fun hall => hall sAddr rfl, fun hs a ha => Option.some.inj ha ▸ hs⟩
    rw [Option.elim_some, hcapture, text_injective.eq_iff, hone, CapturesFor]
    split_ifs with hm
    · rw [hm, hnone, Option.or_none, Option.none_or]
    · cases b.joinedAfter m sAddr with
      | none => simp
      | some a => simp [eq_comm]

theorem Agrees.removeNetwork_iff (h : b.Agrees nwid) (hd : b.service.registry.Distinct)
    (m : BitVec 64) :
    (b.deliverRegistry (b.service.registry.removeNetwork m)).Agrees nwid ↔
      (m = nwid → b.addr nwid = none) := by
  rw [agrees_iff] at h
  rw [agrees_iff, (becomes_removeNetwork b m).gAddr, addr_removeNetwork hd, h,
    text_injective.eq_iff]
  split_ifs with hm
  · simp [hm]
  · simp [Ne.symm hm]

theorem Agrees.stop_iff (h : b.Agrees nwid) :
    b.stop.Agrees nwid ↔ (b.service.gRunning = true → b.addr nwid = none) := by
  cases hr : b.service.gRunning with
  | false =>
    rw [stop_of_not_running hr]
    exact iff_of_true h fun hr' => by cases hr'
  | true =>
    obtain ⟨haddr, hcount⟩ := stop_fields hr
    have hnone : b.stop.addr nwid = none := by
      rw [addr, lookup, tapFind_eq_none_iff.mpr fun i hi => by simp [hcount] at hi]
      rfl
    rw [agrees_iff] at h
    rw [agrees_iff, haddr, hnone, h, text_injective.eq_iff]
    simp

theorem Agrees.step_iff (h : b.Agrees nwid) (hd : b.service.registry.Distinct) (a : Action) :
    (b.step a).Agrees nwid ↔ b.KeepsAgreement nwid a := by
  cases a with
  | start =>
    refine iff_of_true ?_ trivial
    obtain ⟨haddr, hlookup, -⟩ := b.start_fields
    rw [agrees_iff] at h
    rw [step, agrees_iff, haddr, hlookup, h]
  | stop => exact h.stop_iff
  | join m => exact iff_of_true ⟨h.has, h.get⟩ trivial
  | leave m => exact iff_of_true h trivial
  | callback e =>
    obtain ⟨m, op, cfg⟩ := e
    dsimp only [step, KeepsAgreement]
    cases b.service.gRunning with
    | false => exact iff_of_true h fun hr => by cases hr
    | true =>
      rw [if_pos rfl]
      refine Iff.trans ?_ ⟨fun hk _ => hk, fun hk => hk rfl⟩
      cases op with
      | up => exact h.configureNetwork_iff hd m cfg
      | configUpdate => exact h.configureNetwork_iff hd m cfg
      | down => exact h.removeNetwork_iff hd m
      | destroy => exact h.removeNetwork_iff hd m

theorem distinct_step (hd : b.service.registry.Distinct) (a : Action) :
    (b.step a).service.registry.Distinct := by
  cases a with
  | start => exact b.start_fields.2.2 hd
  | stop =>
    cases hr : b.service.gRunning with
    | false => rwa [step, stop_of_not_running hr]
    | true =>
      have hcount := (stop_fields hr).2
      exact fun i j hi => by simp [step, hcount] at hi
  | join m => exact hd
  | leave m => exact hd
  | callback e =>
    obtain ⟨m, op, cfg⟩ := e
    dsimp only [step]
    split_ifs
    · cases op with
      | up =>
        rw [cbVnetConfig, (becomes_configureNetwork hd cfg).service]
        exact hd.configureNetwork m cfg
      | configUpdate =>
        rw [cbVnetConfig, (becomes_configureNetwork hd cfg).service]
        exact hd.configureNetwork m cfg
      | down =>
        rw [cbVnetConfig, (becomes_removeNetwork b m).service]
        exact hd.removeNetwork m
      | destroy =>
        rw [cbVnetConfig, (becomes_removeNetwork b m).service]
        exact hd.removeNetwork m
    · exact hd

end Agreement

end JniBridge

end XnetZt.Libxnet
