import XnetZt.Tether.SplitHorizon
import XnetZt.Tether.TetherBridge

/-!
# Which addresses count as tether clients

`isTetherSubnetAddress` asks the list of the detector, and each round of `pollLoop` puts
what it has detected into that list if it is not equal to it. Equality of interfaces
compares names. After every round the answers are those for the interfaces just detected,
except where an interface comes back under its name with another subnet.
-/

namespace XnetZt

/-- The address agrees with that of the interface on the first `prefixLength` bits. -/
def TetherInterface.Covers (iface : TetherInterface) (a : InetAddress) : Prop :=
  ∀ i : ℕ, i < iface.prefixLength → a.getAddress.bit i = iface.address.getAddress.bit i

/-- What `detectTetherInterfaces` returns: one IPv4 address for each interface. -/
structure Detection where
  interfaces : List NamedInterface
  inRange : ∀ iface ∈ interfaces, 0 ≤ iface.prefixLength ∧ iface.prefixLength ≤ 32
  nodup_names : (interfaces.map (·.name)).Nodup

namespace Detection

def names (d : Detection) : List Text := d.interfaces.map (·.name)

def Covers (d : Detection) (a : InetAddress) : Prop :=
  ∃ iface ∈ d.interfaces, iface.Covers a

/-- No interface. -/
def nothing : Detection := ⟨[], by simp, by simp⟩

/-- A result with the names of the one before it covers the addresses of the one before it. -/
def Confirms (d d' : Detection) : Prop :=
  d'.names = d.names → ∀ raw : BitVec 32, d'.Covers (.inet4 raw) ↔ d.Covers (.inet4 raw)

end Detection

namespace TetherBridge

/-! ### The answer for a list of interfaces -/

theorem isInSubnet_iff_covers {iface : TetherInterface}
    (h : 0 ≤ iface.prefixLength ∧ iface.prefixLength ≤ 32) (raw : BitVec 32) :
    isInSubnet (BitVec.ofNat 32 (BigEndian.toNat ((InetAddress.inet4 raw).getAddress.slice 0 4)))
        (BitVec.ofNat 32 (BigEndian.toNat (iface.address.getAddress.slice 0 4)))
        iface.prefixLength = true ↔ iface.Covers (.inet4 raw) := by
  obtain ⟨p, hp⟩ := Int.eq_ofNat_of_zero_le h.1
  have hlength : 4 ≤ iface.address.getAddress.length := by
    rw [InetAddress.length_getAddress, if_pos iface.isInet4]
  rw [hp, isInSubnet_iff, effectivePrefix_eq (by omega), TetherInterface.Covers, hp]
  constructor
  · intro hbits i hi
    have hbit := hbits i (by exact_mod_cast hi)
    rwa [Bytes.getMsbD_getInt (by simp) (by omega), Bytes.getMsbD_getInt hlength (by omega)]
      at hbit
  · intro hbits i hi
    rw [Bytes.getMsbD_getInt (by simp) (by omega), Bytes.getMsbD_getInt hlength (by omega)]
    exact hbits i (by exact_mod_cast hi)

/-- The loop finds an interface exactly if there is one that covers the address. -/
theorem isTetherSubnetAddress_iff_covers {interfaces : List TetherInterface}
    (h : ∀ iface ∈ interfaces, 0 ≤ iface.prefixLength ∧ iface.prefixLength ≤ 32)
    (raw : BitVec 32) :
    isTetherSubnetAddress interfaces (InetAddress.inet4 raw).getAddress = .ok true ↔
      ∃ iface ∈ interfaces, iface.Covers (.inet4 raw) := by
  have hloop : isTetherSubnetAddress interfaces (InetAddress.inet4 raw).getAddress =
      .ok (interfaces.any fun iface => isInSubnet
        (BitVec.ofNat 32 (BigEndian.toNat ((InetAddress.inet4 raw).getAddress.slice 0 4)))
        (BitVec.ofNat 32 (BigEndian.toNat (iface.address.getAddress.slice 0 4)))
        iface.prefixLength) := by
    unfold isTetherSubnetAddress
    refine foldlM_eq_any (fun _ => rfl) fun iface _ => ?_
    have hlength : 4 ≤ iface.address.getAddress.length := by
      rw [InetAddress.length_getAddress, if_pos iface.isInet4]
    rw [if_neg (by simp), Bytes.getInt_eq_ok (by simp), Bytes.getInt_eq_ok hlength]
    rfl
  rw [hloop, Except.ok.injEq, List.any_eq_true]
  refine exists_congr fun iface => and_congr_right fun hmem => ?_
  exact isInSubnet_iff_covers (h iface hmem) raw

/-! ### The list after a round -/

/-- Lists of interfaces are equal if the names in them are. -/
theorem isEqv_equals_iff (l l' : List NamedInterface) :
    l.isEqv l' NamedInterface.equals = true ↔ l.map (·.name) = l'.map (·.name) := by
  induction l generalizing l' with
  | nil => cases l' <;> simp [List.isEqv]
  | cons a l ih =>
    cases l' with
    | nil => simp [List.isEqv]
    | cons b l' => simp [List.isEqv, NamedInterface.equals, ih]

section Poll

variable {σ : Type*} {onStateChanged : State → List NamedInterface → σ → σ} {b : TetherBridge σ}

theorem detector_onTetherInterfacesChanged (interfaces : List NamedInterface) :
    (b.onTetherInterfacesChanged onStateChanged interfaces).detector = b.detector := by
  unfold onTetherInterfacesChanged
  split_ifs
  · exact detector_setState ..
  · rfl
  · exact detector_setState ..
  · rfl

theorem poll_of_running (onStateChanged : State → List NamedInterface → σ → σ)
    (h : b.detector.running = true) (detected : List NamedInterface) :
    (b.poll onStateChanged detected).detector =
      ⟨true, if detected.map (·.name) = b.detector.activeInterfaces.map (·.name) then
        b.detector.activeInterfaces else detected⟩ := by
  have hchanged : b.detector.Changed detected ↔
      ¬ detected.map (·.name) = b.detector.activeInterfaces.map (·.name) := by
    rw [TetherDetector.Changed, isEqv_equals_iff]
  unfold poll
  rw [if_pos h, if_congr hchanged rfl rfl, ite_not]
  split_ifs with hnames
  · rw [← h]
  · dsimp only
    rw [detector_onTetherInterfacesChanged, ← h]

end Poll

/-! ### Runs -/

section Runs

variable {σ : Type*} (onStateChanged : State → List NamedInterface → σ → σ)

def pollDetection (b : TetherBridge σ) (d : Detection) : TetherBridge σ :=
  b.poll onStateChanged d.interfaces

/-- `isTetherSubnetAddress` answers for the interfaces of a detection. -/
def MembershipCurrent (b : TetherBridge σ) (d : Detection) : Prop :=
  ∀ raw : BitVec 32,
    isTetherSubnetAddress (b.detector.activeInterfaces.map (·.toTetherInterface))
        (InetAddress.inet4 raw).getAddress = .ok true ↔
      d.Covers (.inet4 raw)

/-- The detector runs, and its list stands for a detection, with the same names. -/
structure StandsFor (b : TetherBridge σ) (d : Detection) : Prop where
  running : b.detector.running = true
  names : b.detector.activeInterfaces.map (·.name) = d.names
  inRange : ∀ iface ∈ b.detector.activeInterfaces,
    0 ≤ iface.prefixLength ∧ iface.prefixLength ≤ 32
  current : b.MembershipCurrent d

variable {onStateChanged} {b : TetherBridge σ} {d : Detection}

theorem membershipCurrent_iff
    (h : ∀ iface ∈ b.detector.activeInterfaces, 0 ≤ iface.prefixLength ∧ iface.prefixLength ≤ 32) :
    b.MembershipCurrent d ↔
      ∀ raw : BitVec 32, (∃ iface ∈ b.detector.activeInterfaces, iface.Covers (.inet4 raw)) ↔
        d.Covers (.inet4 raw) := by
  refine forall_congr' fun raw => ?_
  rw [isTetherSubnetAddress_iff_covers (by simpa using h)]
  simp

/-- One round: the answers are right unless the names hide a change. -/
theorem StandsFor.pollDetection_iff (h : b.StandsFor d)
    (onStateChanged : State → List NamedInterface → σ → σ) (d' : Detection) :
    ((b.pollDetection onStateChanged d').MembershipCurrent d' ↔ d.Confirms d') ∧
      ((b.pollDetection onStateChanged d').MembershipCurrent d' →
        (b.pollDetection onStateChanged d').StandsFor d') := by
  have hpoll := poll_of_running onStateChanged h.running d'.interfaces
  have hrange : ∀ iface ∈ (b.pollDetection onStateChanged d').detector.activeInterfaces,
      0 ≤ iface.prefixLength ∧ iface.prefixLength ≤ 32 := by
    rw [pollDetection, hpoll]
    dsimp only
    split_ifs
    · exact h.inRange
    · exact d'.inRange
  have hnames : (b.pollDetection onStateChanged d').detector.activeInterfaces.map (·.name) =
      d'.names := by
    rw [pollDetection, hpoll]
    dsimp only
    split_ifs with heq
    · exact heq.symm
    · rfl
  refine ⟨?_, fun hcurrent => ⟨by rw [pollDetection, hpoll], hnames, hrange, hcurrent⟩⟩
  rw [membershipCurrent_iff hrange, pollDetection, hpoll, Detection.Confirms, ← h.names]
  dsimp only
  split_ifs with heq
  · -- the old list stays, which stands for `d`
    have hold := (membershipCurrent_iff h.inRange).mp h.current
    have hsame : d'.names = b.detector.activeInterfaces.map (·.name) := heq
    constructor
    · intro hnew _ raw
      rw [← hnew raw, hold raw]
    · intro hconfirms raw
      rw [hold raw, hconfirms hsame raw]
  · have hdiffer : ¬ d'.names = b.detector.activeInterfaces.map (·.name) := heq
    exact iff_of_true (fun raw => Iff.rfl) fun hsame => absurd hsame hdiffer

theorem along_membershipCurrent_iff_of_standsFor (h : b.StandsFor d) (detections : List Detection) :
    Run.Along (pollDetection onStateChanged)
        (fun b d => (b.pollDetection onStateChanged d).MembershipCurrent d) b detections ↔
      List.IsChain Detection.Confirms (d :: detections) := by
  induction detections generalizing b d with
  | nil => simp
  | cons d' detections ih =>
    obtain ⟨hiff, hkeep⟩ := h.pollDetection_iff onStateChanged d'
    rw [Run.along_cons, List.isChain_cons_cons, ← hiff]
    exact and_congr_right fun hcurrent => ih (hkeep hcurrent)

/-- Right after every round the membership is current, exactly if every result that has the
names of the one before it covers the same addresses. -/
theorem along_membershipCurrent_iff (cellularPreferred : Bool) (l : σ)
    (detections : List Detection) :
    Run.Along (pollDetection onStateChanged)
        (fun b d => (b.pollDetection onStateChanged d).MembershipCurrent d)
        ((create cellularPreferred l).start onStateChanged) detections ↔
      List.IsChain Detection.Confirms (.nothing :: detections) := by
  apply along_membershipCurrent_iff_of_standsFor
  have hempty : ((create cellularPreferred l).start onStateChanged).detector.activeInterfaces =
      [] := by
    simp [start, create]
  have hrunning : ((create cellularPreferred l).start onStateChanged).detector.running =
      true := by
    simp [start, create]
  refine ⟨hrunning, by rw [hempty]; rfl, by simp [hempty], fun raw => ?_⟩
  rw [hempty]
  simp [isTetherSubnetAddress, Detection.Covers, Detection.nothing]

end Runs

/-- One interface with this address and a prefix length of 24. -/
def rndis0 (raw : BitVec 32) : Detection where
  interfaces := [⟨.inet4 raw 24, ['r', 'n', 'd', 'i', 's', '0']⟩]
  inRange := by simp [TetherInterface.inet4]
  nodup_names := by simp

/-- The USB interface comes back with another address between two rounds. -/
theorem not_membershipCurrent_readdressed :
    ¬ Run.Along (pollDetection fun _ _ (_ : Unit) => ())
      (fun b d => (b.pollDetection (fun _ _ _ => ()) d).MembershipCurrent d)
      ((create false ()).start fun _ _ _ => ()) [rndis0 0xc0a82a81, rndis0 0xc0a82b01] := by
  rintro ⟨-, hcurrent, -⟩
  have hcovers : (rndis0 0xc0a82b01).Covers (.inet4 0xc0a82b01) :=
    ⟨_, List.mem_singleton_self _, fun _ _ => rfl⟩
  have hanswer := (hcurrent 0xc0a82b01).mpr hcovers
  revert hanswer
  decide

end TetherBridge

end XnetZt
