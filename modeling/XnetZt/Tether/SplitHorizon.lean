import XnetZt.Service.RouteLookup
import XnetZt.Tether.NatEngine

/-!
# Split-horizon routing of proxied connections

In `BYPASS` mode a proxied connection leaves the VPN unless its destination is in a
subnet of the ZeroTier network. `isZtSubnet` compares the first four bytes of every
route it was given, under a mask whose shift count is taken modulo 32. IPv4 routes are
compared as they should be; an IPv6 route of prefix length `p` stands for an IPv4
prefix of length `(p - 1) % 32 + 1`, and `::/0` for all of IPv4.
-/

namespace XnetZt

/-- Bit `i` of a byte array. -/
def Bytes.bit (a : Bytes) (i : ℕ) : Bool := (a.getD (i / 8) 0).getMsbD (i % 8)

theorem Bytes.getMsbD_getInt {a : Bytes} (h : 4 ≤ a.length) {i : ℕ} (hi : i < 32) :
    (BitVec.ofNat 32 (BigEndian.toNat (a.slice 0 4))).getMsbD i = a.bit i := by
  have hlen : (a.slice 0 4).length = 4 := Bytes.length_slice (by omega)
  have hbyte : i / 8 < 4 := by omega
  rw [BigEndian.getMsbD_toNat (by omega), Bytes.bit, Bytes.slice, List.drop_zero,
    List.getD_eq_getElem?_getD, List.getD_eq_getElem?_getD, List.getElem?_take_of_lt hbyte]

/-- The prefix length for which `0xFFFFFFFF << (32 - p)` is the IPv4 mask. -/
def effectivePrefix (p : ℕ) : ℕ := if p = 0 then 0 else (p - 1) % 32 + 1

theorem effectivePrefix_le (p : ℕ) : effectivePrefix p ≤ 32 := by
  unfold effectivePrefix
  split_ifs <;> omega

theorem effectivePrefix_eq {p : ℕ} (h : p ≤ 32) : effectivePrefix p = p := by
  unfold effectivePrefix
  split_ifs <;> omega

theorem getMsbD_subnetMask (p i : ℕ) :
    (subnetMask p).getMsbD i = decide (i < effectivePrefix p) := by
  unfold subnetMask
  by_cases hp : p = 0
  · simp [hp, effectivePrefix]
  · have hcount : shiftCount (32 - p) + effectivePrefix p = 32 := by
      rw [effectivePrefix, if_neg hp, shiftCount]
      omega
    rw [if_neg (by omega), BitVec.getMsbD_shiftLeft, BitVec.getMsbD_allOnes, decide_eq_decide]
    omega

namespace TetherBridge

theorem isInSubnet_iff (addr subnet : BitVec 32) (p : ℕ) :
    isInSubnet addr subnet p = true ↔
      ∀ i < effectivePrefix p, addr.getMsbD i = subnet.getMsbD i := by
  have hmasked : ∀ (x : BitVec 32) (i : ℕ),
      (x &&& subnetMask p).getMsbD i = (x.getMsbD i && decide (i < effectivePrefix p)) := by
    intro x i
    rw [BitVec.getMsbD_and, getMsbD_subnetMask]
  rw [isInSubnet, beq_iff_eq]
  constructor
  · intro h i hi
    have hbit := congrArg (fun x => x.getMsbD i) h
    simpa [hmasked, hi] using hbit
  · intro h
    apply BitVec.eq_of_getMsbD_eq
    intro i _
    rw [hmasked, hmasked]
    by_cases hi : i < effectivePrefix p
    · rw [h i hi]
    · simp [hi]

structure ZtRoute where
  address : Bytes
  prefixLength : ℕ
  deriving DecidableEq

def isZtSubnet (ztRoutes : List ZtRoute) (addr : InetAddress) : Except JavaException Bool := do
  let b := addr.getAddress
  if b.length ≠ 4 then return false
  ztRoutes.foldlM (fun found entry => do
    if found then return true
    let a ← b.getInt 0
    let s ← entry.address.getInt 0
    return isInSubnet a s entry.prefixLength) false

/-- The entries that `updateTunnelConfig` makes of the route map of the adapter. -/
def ztRoutesOf (order : IterationOrder Route) (routeMap : RouteMap) : List ZtRoute :=
  (order.arrange routeMap.keys).map fun entry => ⟨entry.address.getAddress, entry.prefixLength⟩

/-- Four bytes with a prefix length up to 32, or sixteen with one up to 128. -/
def ZtRoute.InRange (r : ZtRoute) : Prop :=
  r.address.length = 4 ∧ r.prefixLength ≤ 32 ∨ r.address.length = 16 ∧ r.prefixLength ≤ 128

theorem inRange_of_mem_ztRoutesOf {order : IterationOrder Route} {routeMap : RouteMap}
    (hmap : ∀ r ∈ routeMap, r.IsPrefixRoute) {r : ZtRoute} (hr : r ∈ ztRoutesOf order routeMap) :
    r.InRange := by
  obtain ⟨entry, hentry, rfl⟩ := List.mem_map.mp hr
  obtain ⟨x, hp, hx⟩ := hmap entry (AList.mem_keys.mpr ((order.mem_arrange _ _).mp hentry))
  obtain ⟨hfamily, -⟩ := bit_of_addressToRoute hp hx
  rw [← width_eq_of_family hfamily] at hp
  cases haddress : entry.address with
  | inet4 raw =>
    rw [haddress] at hp
    exact Or.inl ⟨by simp, hp⟩
  | inet6 raw h =>
    rw [haddress] at hp
    exact Or.inr ⟨by simp, hp⟩

/-- An IPv4 route to which `addr` belongs. -/
def ZtRoute.Covers (r : ZtRoute) (addr : InetAddress) : Prop :=
  r.address.length = 4 ∧ ∀ i < r.prefixLength, r.address.bit i = addr.getAddress.bit i

/-- An IPv6 route whose first bits happen to be those of `addr`. -/
def ZtRoute.Mistaken (r : ZtRoute) (addr : InetAddress) : Prop :=
  r.address.length = 16 ∧
    ∀ i < effectivePrefix r.prefixLength, r.address.bit i = addr.getAddress.bit i

/-- What one round of the loop finds. -/
theorem isInSubnet_entry {r : ZtRoute} (hr : r.InRange) (raw : BitVec 32) :
    isInSubnet (BitVec.ofNat 32 (BigEndian.toNat ((InetAddress.inet4 raw).getAddress.slice 0 4)))
        (BitVec.ofNat 32 (BigEndian.toNat (r.address.slice 0 4))) r.prefixLength = true ↔
      r.Covers (.inet4 raw) ∨ r.Mistaken (.inet4 raw) := by
  have hlen : 4 ≤ r.address.length := by
    rcases hr with ⟨h, -⟩ | ⟨h, -⟩ <;> omega
  have hbits : isInSubnet
      (BitVec.ofNat 32 (BigEndian.toNat ((InetAddress.inet4 raw).getAddress.slice 0 4)))
      (BitVec.ofNat 32 (BigEndian.toNat (r.address.slice 0 4))) r.prefixLength = true ↔
      ∀ i < effectivePrefix r.prefixLength,
        r.address.bit i = (InetAddress.inet4 raw).getAddress.bit i := by
    rw [isInSubnet_iff]
    refine forall₂_congr fun i hi => ?_
    have hi32 : i < 32 := hi.trans_le (effectivePrefix_le _)
    rw [Bytes.getMsbD_getInt (by simp) hi32, Bytes.getMsbD_getInt hlen hi32, eq_comm]
  rw [hbits]
  rcases hr with ⟨h4, hp⟩ | ⟨h16, -⟩
  · simp [ZtRoute.Covers, ZtRoute.Mistaken, h4, effectivePrefix_eq hp]
  · simp [ZtRoute.Covers, ZtRoute.Mistaken, h16]

theorem isZtSubnet_eq_ok_true_iff {ztRoutes : List ZtRoute} (hroutes : ∀ r ∈ ztRoutes, r.InRange)
    (raw : BitVec 32) :
    isZtSubnet ztRoutes (.inet4 raw) = .ok true ↔
      ∃ r ∈ ztRoutes, r.Covers (.inet4 raw) ∨ r.Mistaken (.inet4 raw) := by
  have hloop : isZtSubnet ztRoutes (.inet4 raw) = .ok (ztRoutes.any fun r => isInSubnet
      (BitVec.ofNat 32 (BigEndian.toNat ((InetAddress.inet4 raw).getAddress.slice 0 4)))
      (BitVec.ofNat 32 (BigEndian.toNat (r.address.slice 0 4))) r.prefixLength) := by
    unfold isZtSubnet
    rw [if_neg (by simp)]
    refine foldlM_eq_any (fun _ => rfl) fun r hr => ?_
    have hlen : 4 ≤ r.address.length := by
      rcases hroutes r hr with ⟨h, -⟩ | ⟨h, -⟩ <;> omega
    rw [if_neg (by simp), Bytes.getInt_eq_ok (by simp), Bytes.getInt_eq_ok hlen]
    rfl
  rw [hloop, Except.ok.injEq, List.any_eq_true]
  refine exists_congr fun r => and_congr_right fun hr => ?_
  exact isInSubnet_entry (hroutes r hr) raw

/-- The classification is right exactly if an IPv4 route covers the address anyway or no
IPv6 route is mistaken for one that does. -/
theorem isZtSubnet_correct_iff {ztRoutes : List ZtRoute} (hroutes : ∀ r ∈ ztRoutes, r.InRange)
    (raw : BitVec 32) :
    (isZtSubnet ztRoutes (.inet4 raw) = .ok true ↔ ∃ r ∈ ztRoutes, r.Covers (.inet4 raw)) ↔
      (∃ r ∈ ztRoutes, r.Covers (.inet4 raw)) ∨ ∀ r ∈ ztRoutes, ¬ r.Mistaken (.inet4 raw) := by
  rw [isZtSubnet_eq_ok_true_iff hroutes]
  constructor
  · intro h
    by_cases hcovers : ∃ r ∈ ztRoutes, r.Covers (.inet4 raw)
    · exact Or.inl hcovers
    · exact Or.inr fun r hr hm => hcovers (h.mp ⟨r, hr, Or.inr hm⟩)
  · rintro h
    constructor
    · rintro ⟨r, hr, hc | hm⟩
      · exact ⟨r, hr, hc⟩
      · rcases h with h | h
        · exact h
        · exact absurd hm (h r hr)
    · rintro ⟨r, hr, hc⟩
      exact ⟨r, hr, Or.inl hc⟩

/-- `10.147.17.0/24` and `fd00::/64`, which stands for `253.0.0.0/32`. -/
theorem isZtSubnet_mixed :
    let ztRoutes : List ZtRoute :=
      [⟨[10, 147, 17, 0], 24⟩, ⟨[0xfd, 0, 0, 0, 0, 0, 0, 0, 0, 0, 0, 0, 0, 0, 0, 0], 64⟩]
    (∀ r ∈ ztRoutes, r.InRange) ∧
      (isZtSubnet ztRoutes (.inet4 0x08080808) = .ok true ↔
        ∃ r ∈ ztRoutes, r.Covers (.inet4 0x08080808)) := by
  have hroutes : ∀ r ∈ [(⟨[10, 147, 17, 0], 24⟩ : ZtRoute),
      ⟨[0xfd, 0, 0, 0, 0, 0, 0, 0, 0, 0, 0, 0, 0, 0, 0, 0], 64⟩], r.InRange := by
    simp [ZtRoute.InRange]
  refine ⟨hroutes, (isZtSubnet_correct_iff hroutes 0x08080808).mpr (Or.inr ?_)⟩
  intro r hr hm
  simp only [List.mem_cons, List.not_mem_nil, or_false] at hr
  rcases hr with rfl | rfl
  · exact absurd hm.1 (by decide)
  · exact absurd (hm.2 0 (by decide)) (by decide)

/-- With `2000::/3` among the routes, `44.1.1.1` counts as an address of the network. -/
theorem isZtSubnet_global6 :
    let ztRoutes : List ZtRoute := [⟨0x20 :: List.replicate 15 0, 3⟩]
    (∀ r ∈ ztRoutes, r.InRange) ∧ isZtSubnet ztRoutes (.inet4 0x2c010101) = .ok true ∧
      ¬ ∃ r ∈ ztRoutes, r.Covers (.inet4 0x2c010101) := by
  refine ⟨by simp [ZtRoute.InRange], by decide, ?_⟩
  rintro ⟨r, hr, hcovers⟩
  obtain rfl := List.mem_singleton.mp hr
  exact absurd hcovers.1 (by decide)

end TetherBridge

end XnetZt
