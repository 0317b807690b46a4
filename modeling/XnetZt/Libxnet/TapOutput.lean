import XnetZt.Libxnet.TapRegistry

/-!
# Frames that lwIP sends on a tap

lwIP sends Ethernet frames that carry up to the MTU of a netif, which is the MTU of the
network config from which the netif was set up. `netif_linkoutput` copies a frame into a
buffer of 2048 bytes and refuses a longer one. So the frames of a network all get through
exactly if its MTU is at most 2034.
-/

namespace XnetZt.Libxnet

structure EthernetFrame where
  dest : BitVec 48
  src : BitVec 48
  etherType : BitVec 16
  payload : Bytes

namespace EthernetFrame

variable (f : EthernetFrame)

def encode : Bytes :=
  BigEndian.ofNat 6 f.dest.toNat ++ BigEndian.ofNat 6 f.src.toNat ++
    BigEndian.ofNat 2 f.etherType.toNat ++ f.payload

theorem length_encode : f.encode.length = 14 + f.payload.length := by
  simp [encode]
  omega

theorem drop_encode : f.encode.drop 14 = f.payload :=
  List.drop_left' (by simp)

theorem bytesToMac_ofNat (mac : BitVec 48) :
    Registry.bytesToMac (BigEndian.ofNat 6 mac.toNat) = mac.setWidth 64 := by
  have hmac := mac.isLt
  rw [Registry.bytesToMac, BigEndian.toNat_ofNat, Nat.mod_eq_of_lt (by omega), BitVec.ofNat_toNat]

theorem dest_encode : Registry.bytesToMac (f.encode.slice 0 6) = f.dest.setWidth 64 := by
  have hparts : f.encode = [] ++ BigEndian.ofNat 6 f.dest.toNat ++
      (BigEndian.ofNat 6 f.src.toNat ++ BigEndian.ofNat 2 f.etherType.toNat ++ f.payload) := by
    simp [encode]
  rw [hparts, Bytes.slice_append (by simp) (by simp), bytesToMac_ofNat]

theorem src_encode : Registry.bytesToMac (f.encode.slice 6 6) = f.src.setWidth 64 := by
  have hparts : f.encode = BigEndian.ofNat 6 f.dest.toNat ++ BigEndian.ofNat 6 f.src.toNat ++
      (BigEndian.ofNat 2 f.etherType.toNat ++ f.payload) := by
    simp [encode]
  rw [hparts, Bytes.slice_append (by simp) (by simp), bytesToMac_ofNat]

theorem etherType_encode : BigEndian.word16 f.encode 12 = f.etherType.toNat := by
  have htype := f.etherType.isLt
  have hparts : f.encode = (BigEndian.ofNat 6 f.dest.toNat ++ BigEndian.ofNat 6 f.src.toNat) ++
      BitVec.ofNat 8 (f.etherType.toNat / 256) :: BitVec.ofNat 8 f.etherType.toNat ::
        f.payload := by
    simp [encode, BigEndian.ofNat]
  have hlen : (BigEndian.ofNat 6 f.dest.toNat ++ BigEndian.ofNat 6 f.src.toNat).length = 12 := by
    simp
  rw [hparts, BigEndian.word16, List.getD_append_right _ _ _ _ (by omega),
    List.getD_append_right _ _ _ _ (by omega), hlen]
  simp
  omega

end EthernetFrame

/-- A chain of pbufs, by the bytes in each. -/
abbrev Pbuf := List Bytes

/-- `pbuf_copy_partial(p, buf, p->tot_len, 0)` -/
def Pbuf.copy (p : Pbuf) : Bytes := p.flatten

/-- The MTU of a netif for a network with MTU `mtu`. -/
def netifMtu (mtu : ℕ) : ℕ := if mtu = 0 then 1400 else mtu

namespace Registry

/-- lwIP may send the frame on the netif in slot `i`. -/
def MaySend (r : Registry) (i : Slot) (f : EthernetFrame) : Prop :=
  f.encode.length ≤ 14 + (r.gTaps i).netif.mtu

/-- The node is given the payload of the frame with its addresses and its type. -/
def Injects (r : Registry) (i : Slot) (p : Pbuf) (f : EthernetFrame) : Prop :=
  r.netifLinkoutput true i p.copy = (.errOk, some
    { networkId := (r.gTaps i).nwid
      srcMac := f.src.setWidth 64
      destMac := f.dest.setWidth 64
      etherType := f.etherType.toNat
      frameData := f.payload })

/-- Every frame that lwIP may send is injected, in whatever pbufs it is. -/
def InjectsAll (r : Registry) (i : Slot) : Prop :=
  ∀ f p, Pbuf.copy p = f.encode → r.MaySend i f → r.Injects i p f

section Output

variable {r : Registry} {i : Slot}

/-- The length is all that counts. -/
theorem injects_iff (hstate : (r.gTaps i).netif.state = some i) {p : Pbuf} {f : EthernetFrame}
    (hp : p.copy = f.encode) : r.Injects i p f ↔ f.encode.length ≤ 2048 := by
  have hmin := f.length_encode
  rw [Injects, hp, netifLinkoutput, hstate]
  by_cases hlong : f.encode.length > 2048
  · simp [hlong]
  · have hfits : ¬ (f.encode.length > 2048 ∨ f.encode.length < 14) := by omega
    simp [hfits, f.dest_encode, f.src_encode, f.etherType_encode, f.drop_encode]
    omega

theorem injectsAll_iff (hstate : (r.gTaps i).netif.state = some i) :
    r.InjectsAll i ↔ (r.gTaps i).netif.mtu ≤ 2034 := by
  constructor
  · intro hall
    -- a frame as long as lwIP may send
    let f : EthernetFrame := ⟨0, 0, 0, .zeros (r.gTaps i).netif.mtu⟩
    have hlength : f.encode.length = 14 + (r.gTaps i).netif.mtu := by
      rw [f.length_encode, Bytes.length_zeros]
    have hinjects := hall f [f.encode] (by simp [Pbuf.copy]) (by rw [MaySend, hlength])
    rw [injects_iff hstate (by simp [Pbuf.copy]), hlength] at hinjects
    omega
  · intro hmtu f p hp hsend
    rw [MaySend] at hsend
    exact (injects_iff hstate hp).mpr (by omega)

end Output

end Registry

/-! ### The netif of a config -/

namespace XnetTap

variable {tap : XnetTap} (i : Slot)

/-- A netif that is up keeps its state and its MTU. -/
theorem netif_foldl_assign_of_up (hup : tap.netifUp = true) (sas : List Registry.SockAddr) :
    (sas.foldl (assign i) tap).netif = tap.netif := by
  induction sas generalizing tap with
  | nil => rfl
  | cons sa sas ih =>
    have hnext : (tap.assign i sa).netifUp = true ∧ (tap.assign i sa).netif = tap.netif := by
      cases sa with
      | inet sAddr =>
        unfold assign
        split_ifs <;> exact ⟨hup, rfl⟩
      | inet6 sin6Addr =>
        unfold assign
        split_ifs <;> exact ⟨hup, rfl⟩
      | other => exact ⟨hup, rfl⟩
    rw [List.foldl_cons, ih hnext.1, hnext.2]

/-- The first IPv4 address of a tap without one sets up the netif. -/
theorem netif_foldl_assign (h4 : tap.hasIp4 = false) (hdown : tap.netifUp = false)
    {sas : List Registry.SockAddr} (hsas : ∃ sAddr, .inet sAddr ∈ sas) :
    (sas.foldl (assign i) tap).netif.state = some i ∧
      (sas.foldl (assign i) tap).netif.mtu = netifMtu tap.mtu % 2 ^ 16 := by
  induction sas generalizing tap with
  | nil => simp at hsas
  | cons sa sas ih =>
    rw [List.foldl_cons]
    have hlater : (∀ sAddr, sa ≠ .inet sAddr) → ∃ sAddr, .inet sAddr ∈ sas := by
      intro hsa
      obtain ⟨sAddr, hmem⟩ := hsas
      obtain heq | hmem := List.mem_cons.mp hmem
      · exact absurd heq.symm (hsa sAddr)
      · exact ⟨sAddr, hmem⟩
    cases sa with
    | inet sAddr =>
      have hassign : tap.assign i (.inet sAddr) =
          { tap with
            ip4Addr := sAddr
            hasIp4 := true
            netif := Registry.netifInitCb tap ⟨some i, sAddr, [], 0, []⟩
            netifUp := true } := by
        simp [assign, h4, hdown]
      rw [hassign, netif_foldl_assign_of_up i rfl]
      by_cases hmtu : tap.mtu = 0 <;> simp [Registry.netifInitCb, netifMtu, hmtu]
    | inet6 sin6Addr =>
      obtain ⟨hsame4, hsameUp, hsameMtu⟩ :
          (tap.assign i (.inet6 sin6Addr)).hasIp4 = tap.hasIp4 ∧
            (tap.assign i (.inet6 sin6Addr)).netifUp = tap.netifUp ∧
            (tap.assign i (.inet6 sin6Addr)).mtu = tap.mtu := by
        dsimp only [assign]
        split_ifs <;> exact ⟨rfl, rfl, rfl⟩
      have hrest := ih (hsame4.trans h4) (hsameUp.trans hdown) (hlater (by simp))
      rwa [hsameMtu] at hrest
    | other => exact ih h4 hdown (hlater (by simp))

end XnetTap

namespace Registry

/-- A callback by which the netif in slot `i` is set up: it is for a tap without an IPv4
address, and assigns one. -/
structure SetsUp (r : Registry) (nwid : BitVec 64) (cfg : VirtualNetworkConfig) (i : Slot) :
    Prop where
  target : ∃ base count, r.Target nwid i base count ∧ base.hasIp4 = false ∧ base.netifUp = false
  assigns : ∃ sAddr, .inet sAddr ∈ cfg.assignedAddresses.take maxTapAddrs

theorem SetsUp.netif {r : Registry} {nwid : BitVec 64} {cfg : VirtualNetworkConfig} {i : Slot}
    (h : r.SetsUp nwid cfg i) (hmtu : cfg.mtu < 2 ^ 16) :
    ((r.configureNetwork nwid (some cfg)).gTaps i).netif.state = some i ∧
      ((r.configureNetwork nwid (some cfg)).gTaps i).netif.mtu = netifMtu cfg.mtu := by
  obtain ⟨base, count, ht, h4, hdown⟩ := h.target
  have hslot : (r.configureNetwork nwid (some cfg)).gTaps i = base.configure i cfg := by
    rw [(configureNetwork_target ht _).1, Function.update_self, Option.elim_some]
  have hbase : ({ base with mac := cfg.mac, mtu := cfg.mtu } : XnetTap).hasIp4 = false := h4
  have hnetif := XnetTap.netif_foldl_assign i hbase hdown h.assigns
  have hsmall : netifMtu cfg.mtu % 2 ^ 16 = netifMtu cfg.mtu := by
    apply Nat.mod_eq_of_lt
    unfold netifMtu
    split_ifs <;> omega
  rw [hslot, XnetTap.configure]
  exact ⟨hnetif.1, hnetif.2.trans hsmall⟩

/-- As long as the netif that a config with MTU `cfg.mtu` sets up is in place, a frame that
lwIP may send is injected exactly if it has at most 2048 bytes, and all of them are exactly
if the MTU of the netif is at most 2034. -/
theorem injectsAll_iff_mtu {r s : Registry} {nwid : BitVec 64} {cfg : VirtualNetworkConfig}
    {i : Slot} (hup : r.SetsUp nwid cfg i) (hmtu : cfg.mtu ≤ 65521)
    (hs : (s.gTaps i).netif = ((r.configureNetwork nwid (some cfg)).gTaps i).netif) :
    (∀ f p, Pbuf.copy p = f.encode → f.encode.length ≤ 14 + netifMtu cfg.mtu →
        (s.Injects i p f ↔ f.encode.length ≤ 2048)) ∧
      (s.InjectsAll i ↔ netifMtu cfg.mtu ≤ 2034) := by
  obtain ⟨hstate, hnetif⟩ := hup.netif (by omega)
  rw [← hs] at hstate hnetif
  constructor
  · intro f p hp _
    exact injects_iff hstate hp
  · rw [injectsAll_iff hstate, hnetif]

/-- A config with one IPv4 address. -/
def configOf (mtu : ℕ) : VirtualNetworkConfig := ⟨0x020000000001, mtu, [.inet 0x0a000001], .ok⟩

theorem setsUp_configOf (mtu : ℕ) : empty.SetsUp 1 (configOf mtu) ⟨0, by decide⟩ := by
  have hnone : empty.tapFind 1 = none :=
    tapFind_eq_none_iff.mpr fun i hi => absurd hi (Nat.not_lt_zero _)
  exact ⟨⟨_, _, .added hnone (by decide), rfl, rfl⟩, ⟨0x0a000001, by simp [configOf, maxTapAddrs]⟩⟩

/-- An Ethernet MTU of 1500 is small enough. -/
theorem injectsAll_mtu1500 :
    empty.SetsUp 1 (configOf 1500) ⟨0, by decide⟩ ∧
      (empty.configureNetwork 1 (some (configOf 1500))).InjectsAll ⟨0, by decide⟩ := by
  have hup := setsUp_configOf 1500
  exact ⟨hup, (injectsAll_iff_mtu hup (by decide) rfl).2.mpr (by decide)⟩

/-- In a network with an MTU of 2800 a frame that carries as much is refused. -/
theorem not_injects_mtu2800 :
    let r := empty.configureNetwork 1 (some (configOf 2800))
    let f : EthernetFrame := ⟨0x020000000002, 0x020000000001, 0x0800, .zeros 2800⟩
    empty.SetsUp 1 (configOf 2800) ⟨0, by decide⟩ ∧ r.MaySend ⟨0, by decide⟩ f ∧
      r.netifLinkoutput true ⟨0, by decide⟩ (Pbuf.copy [f.encode]) = (.errBuf, none) := by
  intro r f
  have hup := setsUp_configOf 2800
  obtain ⟨hstate, hmtu⟩ := hup.netif (by decide)
  have hlength : f.encode.length = 2814 := by
    rw [f.length_encode, Bytes.length_zeros]
  refine ⟨hup, ?_, ?_⟩
  · rw [MaySend, hmtu, hlength]
    decide
  · have hcopy : Pbuf.copy [f.encode] = f.encode := by simp [Pbuf.copy]
    have hlong : f.encode.length > 2048 ∨ f.encode.length < 14 := by omega
    rw [hcopy, netifLinkoutput, hstate]
    simp [hlong]

end Registry

end XnetZt.Libxnet
