import XnetZt.Libxnet.TapOutput

/-!
# Ethernet headers in machine words

`xnet_tap_rx` writes the header of a frame from the node in front of its payload, and
`netif_linkoutput` takes the header of a frame from lwIP apart. Both shift and mask the bytes of
the addresses in 64-bit words and keep lengths in 16 bits. One writes frames as the other reads
them, in both directions.
-/

namespace XnetZt.Libxnet.Words

open Registry

def macToBytes (mac : BitVec 64) : Bytes :=
  [((mac >>> 40) &&& 0xff).setWidth 8, ((mac >>> 32) &&& 0xff).setWidth 8,
    ((mac >>> 24) &&& 0xff).setWidth 8, ((mac >>> 16) &&& 0xff).setWidth 8,
    ((mac >>> 8) &&& 0xff).setWidth 8, (mac &&& 0xff).setWidth 8]

def bytesToMac (b : Bytes) : BitVec 64 :=
  (b.getD 0 0).setWidth 64 <<< 40 ||| (b.getD 1 0).setWidth 64 <<< 32 |||
    (b.getD 2 0).setWidth 64 <<< 24 ||| (b.getD 3 0).setWidth 64 <<< 16 |||
    (b.getD 4 0).setWidth 64 <<< 8 ||| (b.getD 5 0).setWidth 64

/-- `((uint16_t)buf[12] << 8) | buf[13]`, an `int` that is cut to 16 bits. -/
def etype (buf : Bytes) : BitVec 16 :=
  ((buf.getD 12 0).setWidth 32 <<< 8 ||| (buf.getD 13 0).setWidth 32).setWidth 16

/-- The field `tot_len`. -/
def totLen (p : Pbuf) : BitVec 16 := BitVec.ofNat 16 p.copy.length

def netifLinkoutput (r : Registry) (gNode : Bool) (i : Slot) (p : Pbuf) : ErrT × Option Frame :=
  match (r.gTaps i).netif.state with
  | none => (.errIf, none)
  | some tap =>
    if !gNode then (.errIf, none)
    else if (totLen p).toNat > 2048 ∨ (totLen p).toNat < 14 then (.errBuf, none)
    else
      -- `pbuf_copy_partial(p, buf, total, 0)`
      let buf := p.copy.take (totLen p).toNat
      (.errOk, some
        { networkId := (r.gTaps tap).nwid
          srcMac := bytesToMac (buf.drop 6)
          destMac := bytesToMac buf
          etherType := (etype buf).toNat
          frameData := (buf.drop 14).take ((totLen p).toNat - 14) })

/-- What is assumed of lwIP: a new pbuf has the length that was asked for, in one or several
pieces and with any content, and bytes that fit are stored where they should be. -/
structure PbufPool where
  alloc : BitVec 16 → Option Pbuf
  length_alloc : ∀ total p, alloc total = some p → p.copy.length = total.toNat
  takeAt : Pbuf → Bytes → ℕ → Pbuf
  copy_takeAt : ∀ p data offset, offset + data.length ≤ p.copy.length →
    (takeAt p data offset).copy = p.copy.splice offset data

def header (srcMac dstMac : BitVec 64) (etherType : BitVec 32) : Bytes :=
  macToBytes dstMac ++ macToBytes srcMac ++
    [((etherType >>> 8) &&& 0xff).setWidth 8, (etherType &&& 0xff).setWidth 8]

/-- The `uint16_t` with the length of a frame for `len` bytes. -/
def frameLength (len : BitVec 32) : BitVec 16 := (14 + len).setWidth 16

/-- What `xnet_tap_rx` hands to lwIP for `len` bytes at `data`. The length parameter of
`pbuf_take_at` has 16 bits. -/
def xnetTapRx (pool : PbufPool) (tap : XnetTap) (gLwipUp : Bool) (srcMac dstMac : BitVec 64)
    (etherType : BitVec 32) (data : Bytes) : Option Pbuf :=
  if !tap.netifUp || !gLwipUp then none
  else do
    let len := BitVec.ofNat 32 data.length
    let p ← pool.alloc (frameLength len)
    let p := pool.takeAt p (header srcMac dstMac etherType) 0
    return pool.takeAt p (data.take (len.setWidth 16).toNat) 14

/-! ### Addresses and types -/

theorem macToBytes_eq (mac : BitVec 64) : macToBytes mac = Registry.macToBytes mac := by
  have hbyte := BigEndian.setWidth_shiftRight_and (by decide) mac
  simp only [Registry.macToBytes, BigEndian.ofNat, ← hbyte]
  rfl

/-- The six bytes at the front. -/
theorem bytesToMac_eq {buf : Bytes} (h : 6 ≤ buf.length) :
    bytesToMac buf = Registry.bytesToMac (buf.take 6) := by
  obtain ⟨b₀, b₁, b₂, b₃, b₄, b₅, rest, rfl⟩ :
      ∃ b₀ b₁ b₂ b₃ b₄ b₅ rest, buf = b₀ :: b₁ :: b₂ :: b₃ :: b₄ :: b₅ :: rest := by
    obtain _ | ⟨b₀, _ | ⟨b₁, _ | ⟨b₂, _ | ⟨b₃, _ | ⟨b₄, _ | ⟨b₅, rest⟩⟩⟩⟩⟩⟩ := buf
    all_goals simp at h ⊢
  have hpack : bytesToMac (b₀ :: b₁ :: b₂ :: b₃ :: b₄ :: b₅ :: rest) =
      BigEndian.pack 64 [b₀, b₁, b₂, b₃, b₄, b₅] := by
    simp [bytesToMac, BigEndian.pack, BitVec.or_assoc]
  have hword : BitVec.ofNat 64 (BigEndian.toNat [b₀, b₁, b₂, b₃, b₄, b₅]) =
      BigEndian.pack 64 [b₀, b₁, b₂, b₃, b₄, b₅] := by
    rw [← BigEndian.toNat_pack (w := 64) (by simp), BitVec.ofNat_toNat, BitVec.setWidth_eq]
  exact hpack.trans hword.symm

theorem toNat_etype (buf : Bytes) : (etype buf).toNat = BigEndian.word16 buf 12 := by
  have hpack : (buf.getD 12 0).setWidth 32 <<< 8 ||| (buf.getD 13 0).setWidth 32 =
      BigEndian.pack 32 [buf.getD 12 0, buf.getD (12 + 1) 0] := by
    simp [BigEndian.pack]
  rw [etype, hpack, BitVec.toNat_setWidth, BigEndian.toNat_pack (by simp), BigEndian.toNat_pair]
  exact Nat.mod_eq_of_lt (BigEndian.word16_lt buf 12)

theorem header_eq (srcMac dstMac : BitVec 64) (etherType : BitVec 32) :
    header srcMac dstMac etherType = BigEndian.ofNat 6 dstMac.toNat ++
      BigEndian.ofNat 6 srcMac.toNat ++ BigEndian.ofNat 2 etherType.toNat := by
  have hbyte := BigEndian.setWidth_shiftRight_and (by decide) etherType
  have htype : [((etherType >>> 8) &&& 0xff).setWidth 8, (etherType &&& 0xff).setWidth 8] =
      BigEndian.ofNat 2 etherType.toNat := by
    simp only [BigEndian.ofNat, ← hbyte]
    rfl
  rw [header, macToBytes_eq, macToBytes_eq, htype, Registry.macToBytes, Registry.macToBytes]

/-- Taking a header apart and writing it again. -/
theorem header_of_bytes {buf : Bytes} (h : 14 ≤ buf.length) :
    header (Registry.bytesToMac (buf.slice 6 6)) (Registry.bytesToMac (buf.slice 0 6))
      (BitVec.ofNat 32 (BigEndian.word16 buf 12)) = buf.take 14 := by
  have hmac {b : Bytes} (hb : b.length = 6) :
      BigEndian.ofNat 6 (Registry.bytesToMac b).toNat = b := by
    have hlt := BigEndian.toNat_lt b
    rw [hb] at hlt
    rw [Registry.bytesToMac, BitVec.toNat_ofNat, Nat.mod_eq_of_lt (by omega), ← hb,
      BigEndian.ofNat_toNat]
  have htype : BigEndian.ofNat 2 (BitVec.ofNat 32 (BigEndian.word16 buf 12)).toNat =
      buf.slice 12 2 := by
    have hlt := BigEndian.word16_lt buf 12
    rw [BitVec.toNat_ofNat, Nat.mod_eq_of_lt (by omega), BigEndian.ofNat_word16 (by omega)]
    rfl
  rw [header_eq, hmac (Bytes.length_slice (by omega)), hmac (Bytes.length_slice (by omega)), htype,
    Bytes.slice, Bytes.slice, Bytes.slice, List.drop_zero, ← List.take_add, ← List.take_add]

/-! ### The two functions -/

theorem netifLinkoutput_eq {p : Pbuf} (h : p.copy.length < 2 ^ 16) (r : Registry) (gNode : Bool)
    (i : Slot) : netifLinkoutput r gNode i p = r.netifLinkoutput gNode i p.copy := by
  have htotal : (totLen p).toNat = p.copy.length := by
    rw [totLen, BitVec.toNat_ofNat, Nat.mod_eq_of_lt h]
  unfold netifLinkoutput Registry.netifLinkoutput
  rw [htotal, List.take_length]
  cases (r.gTaps i).netif.state with
  | none => rfl
  | some tap =>
    split_ifs with hnode hlength
    · rfl
    · rfl
    · have hsrc : 6 ≤ (p.copy.drop 6).length := by
        rw [List.length_drop]
        omega
      have hdata : (p.copy.drop 14).take (p.copy.length - 14) = p.copy.drop 14 :=
        List.take_of_length_le (by rw [List.length_drop])
      simp only [bytesToMac_eq hsrc, bytesToMac_eq (show 6 ≤ p.copy.length by omega), toNat_etype,
        hdata]
      rfl

theorem of_netifLinkoutput {r : Registry} {gNode : Bool} {i : Slot} {p : Bytes} {frame : Frame}
    (h : r.netifLinkoutput gNode i p = (.errOk, some frame)) :
    frame.srcMac = Registry.bytesToMac (p.slice 6 6) ∧
      frame.destMac = Registry.bytesToMac (p.slice 0 6) ∧
      frame.etherType = BigEndian.word16 p 12 ∧ frame.frameData = p.drop 14 := by
  unfold Registry.netifLinkoutput at h
  cases hstate : (r.gTaps i).netif.state with
  | none =>
    rw [hstate] at h
    cases h
  | some tap =>
    simp only [hstate] at h
    split_ifs at h with hnode hlength <;> cases h
    exact ⟨rfl, rfl, rfl, rfl⟩

section Rx

variable {pool : PbufPool} {tap : XnetTap} {gLwipUp : Bool} {srcMac dstMac : BitVec 64}
  {etherType : BitVec 32} {data : Bytes}

theorem length_header : (header srcMac dstMac etherType).length = 14 := rfl

theorem isSome_xnetTapRx :
    (xnetTapRx pool tap gLwipUp srcMac dstMac etherType data).isSome ↔
      tap.netifUp = true ∧ gLwipUp = true ∧
        (pool.alloc (frameLength (BitVec.ofNat 32 data.length))).isSome := by
  unfold xnetTapRx
  cases hup : tap.netifUp with
  | false => simp
  | true =>
    cases gLwipUp with
    | false => simp
    | true =>
      cases halloc : pool.alloc (frameLength (BitVec.ofNat 32 data.length)) with
      | none => simp [halloc]
      | some p => simp [halloc]

theorem toNat_frameLength (hlen : data.length ≤ 2034) :
    (frameLength (BitVec.ofNat 32 data.length)).toNat = 14 + data.length := by
  have hdata : (BitVec.ofNat 32 data.length).toNat = data.length := by
    rw [BitVec.toNat_ofNat, Nat.mod_eq_of_lt (by omega)]
  have hheader : (14 : BitVec 32).toNat = 14 := rfl
  rw [frameLength, BitVec.toNat_setWidth, BitVec.toNat_add, hdata, hheader,
    Nat.mod_eq_of_lt (by omega), Nat.mod_eq_of_lt (by omega)]

/-- A payload that keeps the length within 16 bits is written behind the header, and together
they fill the pbuf. -/
theorem copy_xnetTapRx (hlen : data.length ≤ 2034) {p : Pbuf}
    (h : xnetTapRx pool tap gLwipUp srcMac dstMac etherType data = some p) :
    p.copy = header srcMac dstMac etherType ++ data := by
  unfold xnetTapRx at h
  split at h
  · cases h
  · obtain ⟨fresh, halloc, hp⟩ := Option.bind_eq_some_iff.mp h
    cases hp
    have hfresh : fresh.copy.length = 14 + data.length := by
      rw [pool.length_alloc _ _ halloc, toNat_frameLength hlen]
    have hdata : data.take ((BitVec.ofNat 32 data.length).setWidth 16).toNat = data := by
      apply List.take_of_length_le
      rw [BitVec.toNat_setWidth, BitVec.toNat_ofNat]
      omega
    have hfirst : (pool.takeAt fresh (header srcMac dstMac etherType) 0).copy =
        header srcMac dstMac etherType ++ fresh.copy.drop 14 := by
      rw [pool.copy_takeAt _ _ _ (by rw [length_header]; omega), Bytes.splice, length_header,
        List.take_zero, List.nil_append, Nat.zero_add]
    have hrest : (fresh.copy.drop 14).drop data.length = [] := by
      rw [List.drop_drop]
      exact List.drop_eq_nil_of_le (by omega)
    rw [hdata, pool.copy_takeAt, hfirst, Bytes.splice_append length_header, hrest, List.append_nil]
    rw [hfirst, List.length_append, length_header, List.length_drop]
    omega

end Rx

/-! ### Both ways -/

theorem header_append_payload (f : EthernetFrame) :
    header (f.src.setWidth 64) (f.dest.setWidth 64) (f.etherType.setWidth 32) ++ f.payload =
      f.encode := by
  rw [header_eq, BitVec.toNat_setWidth_of_le (by decide), BitVec.toNat_setWidth_of_le (by decide),
    BitVec.toNat_setWidth_of_le (by decide)]
  rfl

/-- A frame of the node that `xnet_tap_rx` has built is read by `netif_linkoutput` as it was, and
a frame that `netif_linkoutput` has read is built by `xnet_tap_rx` as it was. There is a frame
unless the netif or lwIP is down or there is no pbuf. -/
theorem ethernetHeader_agrees (pool : PbufPool) (r : Registry) (i : Slot) (tap : XnetTap)
    (gLwipUp : Bool) :
    (∀ (f : EthernetFrame) (p : Pbuf), f.payload.length ≤ 2034 →
      xnetTapRx pool tap gLwipUp (f.src.setWidth 64) (f.dest.setWidth 64)
        (f.etherType.setWidth 32) f.payload = some p →
      ∀ t, (r.gTaps i).netif.state = some t →
        netifLinkoutput r true i p = (.errOk, some
          { networkId := (r.gTaps t).nwid
            srcMac := f.src.setWidth 64
            destMac := f.dest.setWidth 64
            etherType := f.etherType.toNat
            frameData := f.payload })) ∧
    (∀ (p p' : Pbuf) (gNode : Bool) (frame : Frame), 14 ≤ p.copy.length → p.copy.length ≤ 2048 →
      netifLinkoutput r gNode i p = (.errOk, some frame) →
      xnetTapRx pool tap gLwipUp frame.srcMac frame.destMac (BitVec.ofNat 32 frame.etherType)
        frame.frameData = some p' →
      p'.copy = p.copy) ∧
    (∀ srcMac dstMac etherType data,
      (xnetTapRx pool tap gLwipUp srcMac dstMac etherType data).isSome ↔
        tap.netifUp = true ∧ gLwipUp = true ∧
          (pool.alloc (frameLength (BitVec.ofNat 32 data.length))).isSome) := by
  refine ⟨?_, ?_, fun _ _ _ _ => isSome_xnetTapRx⟩
  · intro f p hlen hrx t hstate
    have hcopy : p.copy = f.encode := by
      rw [copy_xnetTapRx hlen hrx, header_append_payload]
    have hlength := f.length_encode
    have hfits : ¬ (f.encode.length > 2048 ∨ f.encode.length < 14) := by omega
    rw [netifLinkoutput_eq (by rw [hcopy]; omega), hcopy, Registry.netifLinkoutput, hstate]
    simp [hfits, f.dest_encode, f.src_encode, f.etherType_encode, f.drop_encode]
  · intro p p' gNode frame hmin hmax hout hrx
    rw [netifLinkoutput_eq (by omega)] at hout
    obtain ⟨hsrc, hdest, htype, hdata⟩ := of_netifLinkoutput hout
    have hlen : frame.frameData.length ≤ 2034 := by
      rw [hdata, List.length_drop]
      omega
    rw [copy_xnetTapRx hlen hrx, hsrc, hdest, htype, hdata, header_of_bytes hmin,
      List.take_append_drop]

/-- Pbufs in one piece. -/
def contiguous : PbufPool where
  alloc total := some [.zeros total.toNat]
  length_alloc total p h := by
    cases h
    simp [Pbuf.copy]
  takeAt p data offset := [p.copy.splice offset data]
  copy_takeAt p data offset _ := by simp [Pbuf.copy]

/-- A frame of four bytes comes back from the tap that it was given to. -/
theorem ethernetHeader_agrees_contiguous :
    let r := empty.configureNetwork 1 (some (configOf 1500))
    let f : EthernetFrame := ⟨0x020000000002, 0x020000000001, 0x0800, [1, 2, 3, 4]⟩
    ∃ p, xnetTapRx contiguous (r.gTaps ⟨0, by decide⟩) true (f.src.setWidth 64)
        (f.dest.setWidth 64) (f.etherType.setWidth 32) f.payload = some p ∧
      netifLinkoutput r true ⟨0, by decide⟩ p = (.errOk, some
        { networkId := 1
          srcMac := 0x020000000001
          destMac := 0x020000000002
          etherType := 0x0800
          frameData := [1, 2, 3, 4] }) := by
  intro r f
  obtain ⟨hread, -, hsome⟩ :=
    ethernetHeader_agrees contiguous r ⟨0, by decide⟩ (r.gTaps ⟨0, by decide⟩) true
  obtain ⟨p, hp⟩ := Option.isSome_iff_exists.mp ((hsome (f.src.setWidth 64) (f.dest.setWidth 64)
    (f.etherType.setWidth 32) f.payload).mpr ⟨by decide, rfl, rfl⟩)
  have hstate := ((setsUp_configOf 1500).netif (by decide)).1
  exact ⟨p, hp, hread f p (by decide) hp _ hstate⟩

end XnetZt.Libxnet.Words
