import XnetZt.Tether.DnsProxy

/-!
# The DNS parsers by index

`extractQueryName` and `extractTtlMs` walk through a packet with an `int` index. Here they
are as they compute, with every read checked against the array and every sum in 32 bits.
An index may get ahead of the end of the packet by at most 263, so there is no wrap-around
in packets of up to `2 ^ 31 - 264` bytes, and the parsers are the ones over the rest of the
packet. In longer ones the index can become negative.
-/

namespace XnetZt

open Dns

namespace DnsParser

/-- How far an index can still go; a negative one fails at once. -/
def room (pkt : Bytes) (pos : Int32) : ℕ :=
  if pos.toInt < 0 then 0 else (pkt.length - pos.toInt).toNat + 1

/-- Going on from an index within the packet. -/
theorem room_add_lt {pkt : Bytes} {pos : Int32} {b : Byte} (hread : pkt.readInt pos = .ok b)
    {n : ℕ} (hpos : 0 < n) (hn : n ≤ 256) : room pkt (pos + Int32.ofNat n) < room pkt pos := by
  obtain ⟨hnonneg, hlt⟩ := Bytes.of_readInt hread
  unfold room
  rw [if_neg (by omega : ¬ pos.toInt < 0)]
  by_cases hwrap : pos.toInt + n < 2 ^ 31
  · rw [toInt_add_of_lt hnonneg hwrap]
    split_ifs <;> omega
  · rw [if_pos (toInt_add_neg hnonneg (by omega) (by omega))]
    omega

/-- `while (pos < response.length && (response[pos] & 0xFF) != 0)` in a question. -/
def skipQuestionName (response : Bytes) (pos : Int32) : Except JavaException Int32 :=
  if pos.toInt < response.length then
    match _hread : response.readInt pos with
    | .error e => .error e
    | .ok b =>
      if b = 0 then .ok pos
      else if b &&& 0xc0 = 0xc0 then .ok (pos + 2)
      else skipQuestionName response (pos + Int32.ofNat (b.toNat + 1))
  else .ok pos
termination_by room response pos
decreasing_by exact room_add_lt _hread (by omega) (by have := b.isLt; omega)

/-- `if (pos < response.length && response[pos] == 0) pos++` -/
def skipZero (response : Bytes) (pos : Int32) : Except JavaException Int32 := do
  if pos.toInt < response.length then
    let b ← response.readInt pos
    return if b = 0 then pos + 1 else pos
  else return pos

/-- The loop over the questions, of which `n` are left. -/
def skipQuestions (response : Bytes) : ℕ → Int32 → Except JavaException Int32
  | 0, pos => return pos
  | n + 1, pos => do
    if pos.toInt < response.length then
      let pos ← skipQuestionName response pos
      let pos ← skipZero response pos
      skipQuestions response n (pos + 4)
    else return pos

/-- `while (pos < response.length && response[pos] != 0)` in an answer. -/
def skipAnswerName (response : Bytes) (pos : Int32) : Except JavaException Int32 :=
  if pos.toInt < response.length then
    match _hread : response.readInt pos with
    | .error e => .error e
    | .ok b =>
      if b = 0 then .ok pos
      else skipAnswerName response (pos + Int32.ofNat (b.toNat + 1))
  else .ok pos
termination_by room response pos
decreasing_by exact room_add_lt _hread (by omega) (by have := b.isLt; omega)

/-- The four bytes of the TTL. -/
def readTtl (response : Bytes) (pos : Int32) : Except JavaException ℕ := do
  let b₀ ← response.readInt pos
  let b₁ ← response.readInt (pos + 1)
  let b₂ ← response.readInt (pos + 2)
  let b₃ ← response.readInt (pos + 3)
  return BigEndian.toNat [b₀, b₁, b₂, b₃]

/-- The name of the first answer: a pointer, or labels. -/
def skipName (response : Bytes) (pos : Int32) : Except JavaException Int32 := do
  let b ← response.readInt pos
  if b &&& 0xc0 = 0xc0 then return pos + 2 else skipAnswerName response pos

def extractTtlMs (response : Bytes) : Except JavaException ℕ := do
  if response.length < 12 then return DnsProxy.cacheTtlMs
  let hi ← response.readInt 4
  let lo ← response.readInt 5
  let pos ← skipQuestions response (256 * hi.toNat + lo.toNat) 12
  if (pos + 10).toInt < response.length then
    let pos ← skipName response pos
    let pos := pos + 4
    if (pos + 4).toInt ≤ response.length then
      let ttl ← readTtl response pos
      return max (ttl * 1000) 60000
  return DnsProxy.cacheTtlMs

section Name

variable (decode : Bytes → Text)

/-- The loop over the labels; `none` is `null`. -/
def extractLabels (pkt : Bytes) (pos : Int32) (sb : Text) : Except JavaException (Option Text) :=
  if pos.toInt < pkt.length then
    match _hread : pkt.readInt pos with
    | .error e => .error e
    | .ok len =>
      if len = 0 then .ok (some sb)
      else if pkt.length < (pos + 1 + Int32.ofNat len.toNat).toInt then .ok none
      else
        match pkt.window (pos + 1) len.toNat with
        | .error e => .error e
        | .ok label =>
          extractLabels pkt (pos + 1 + Int32.ofNat len.toNat)
            (DnsProxy.appendLabel decode sb label)
  else .ok (some sb)
termination_by room pkt pos
decreasing_by
  have hlen := len.isLt
  have hsum : pos + 1 + Int32.ofNat len.toNat = pos + Int32.ofNat (len.toNat + 1) := by
    rw [Int32.ofNat_add, Int32.add_assoc, Int32.add_comm 1]
    rfl
  rw [hsum]
  exact room_add_lt _hread (by omega) (by omega)

def extractQueryName (pkt : Bytes) : Except JavaException (Option Text) :=
  if pkt.length < 12 then return none else extractLabels decode pkt 12 []

end Name

/-! ### One round of each loop -/

section Rounds

variable {pkt : Bytes} {pos : Int32} {b : Byte} (hread : pkt.readInt pos = .ok b)

include hread

theorem skipQuestionName_of_read : skipQuestionName pkt pos =
    if b = 0 then .ok pos
    else if b &&& 0xc0 = 0xc0 then .ok (pos + 2)
    else skipQuestionName pkt (pos + Int32.ofNat (b.toNat + 1)) := by
  rw [skipQuestionName, if_pos (Bytes.of_readInt hread).2]
  split
  next e he => cases hread.symm.trans he
  next b' hb' =>
    cases hread.symm.trans hb'
    rfl

theorem skipAnswerName_of_read : skipAnswerName pkt pos =
    if b = 0 then .ok pos else skipAnswerName pkt (pos + Int32.ofNat (b.toNat + 1)) := by
  rw [skipAnswerName, if_pos (Bytes.of_readInt hread).2]
  split
  next e he => cases hread.symm.trans he
  next b' hb' =>
    cases hread.symm.trans hb'
    rfl

theorem extractLabels_of_read (decode : Bytes → Text) (sb : Text) :
    extractLabels decode pkt pos sb =
      if b = 0 then .ok (some sb)
      else if pkt.length < (pos + 1 + Int32.ofNat b.toNat).toInt then .ok none
      else pkt.window (pos + 1) b.toNat >>= fun label =>
        extractLabels decode pkt (pos + 1 + Int32.ofNat b.toNat)
          (DnsProxy.appendLabel decode sb label) := by
  rw [extractLabels, if_pos (Bytes.of_readInt hread).2]
  split
  next e he => cases hread.symm.trans he
  next b' hb' =>
    cases hread.symm.trans hb'
    cases pkt.window (pos + 1) b.toNat <;> rfl

end Rounds

/-! ### Packets without wrap-around -/

theorem toNat_lt_of_not_pointer : ∀ b : Byte, b &&& 0xc0 ≠ 0xc0 → b.toNat < 192 := by
  decide +kernel

section Short

variable {pkt : Bytes} (hlen : pkt.length + 264 ≤ 2 ^ 31) {pos : Int32} {p : ℕ}
  (hp : pos.toInt = p)

theorem readInt_of_drop {b : Byte} {rest : Bytes} (hp : pos.toInt = p)
    (hdrop : pkt.drop p = b :: rest) : pkt.readInt pos = .ok b ∧ rest = pkt.drop (p + 1) := by
  obtain ⟨hread, hrest⟩ := Bytes.read_of_drop hdrop
  exact ⟨(Bytes.readInt_eq hp).trans hread, hrest.symm⟩

theorem toInt_add_eq {n : ℕ} (hp : pos.toInt = p) (h : p + n < 2 ^ 31) :
    (pos + Int32.ofNat n).toInt = (p + n : ℕ) := by
  rw [toInt_add_of_lt (by omega) (by omega), hp]
  rfl

include hlen hp

/-- The index after the name of a question, and the rest of the packet from there. -/
theorem skipQuestionName_eq (hle : p ≤ pkt.length + 195) :
    ∃ (pos' : Int32) (p' : ℕ), skipQuestionName pkt pos = .ok pos' ∧ pos'.toInt = p' ∧
      p' ≤ max p (pkt.length + 191) ∧
      pkt.drop p' = DnsProxy.skipQuestionName (pkt.drop p) := by
  induction hroom : pkt.length - p using Nat.strong_induction_on generalizing pos p with
  | _ k ih =>
    cases hdrop : pkt.drop p with
    | nil =>
      have hend : pkt.length ≤ p := List.drop_eq_nil_iff.mp hdrop
      refine ⟨pos, p, ?_, hp, le_max_left _ _, ?_⟩
      · rw [skipQuestionName, if_neg (by omega)]
      · rw [hdrop, DnsProxy.skipQuestionName]
    | cons b rest =>
      obtain ⟨hread, rfl⟩ := readInt_of_drop hp hdrop
      have hlt := (Bytes.of_readInt hread).2
      have hb := b.isLt
      rw [skipQuestionName_of_read hread, DnsProxy.skipQuestionName]
      split_ifs with hzero hpointer
      · exact ⟨pos, p, rfl, hp, le_max_left _ _, hdrop⟩
      · refine ⟨pos + 2, p + 2, rfl, toInt_add_eq (n := 2) hp (by omega), by omega, ?_⟩
        rw [List.drop_drop]
      · have hsmall := toNat_lt_of_not_pointer b hpointer
        have hnext := toInt_add_eq (n := b.toNat + 1) hp (by omega)
        obtain ⟨pos', p', hskip, hp', hle', hrest⟩ :=
          ih _ (by omega) hnext (by omega) rfl
        refine ⟨pos', p', hskip, hp', by omega, ?_⟩
        rw [hrest, List.drop_drop]
        congr 2
        omega

theorem skipAnswerName_eq (hle : p ≤ pkt.length + 255) :
    ∃ (pos' : Int32) (p' : ℕ), skipAnswerName pkt pos = .ok pos' ∧ pos'.toInt = p' ∧
      p' ≤ pkt.length + 255 ∧ pkt.drop p' = DnsProxy.skipAnswerName (pkt.drop p) := by
  induction hroom : pkt.length - p using Nat.strong_induction_on generalizing pos p with
  | _ k ih =>
    cases hdrop : pkt.drop p with
    | nil =>
      have hend : pkt.length ≤ p := List.drop_eq_nil_iff.mp hdrop
      refine ⟨pos, p, ?_, hp, hle, ?_⟩
      · rw [skipAnswerName, if_neg (by omega)]
      · rw [hdrop, DnsProxy.skipAnswerName]
    | cons b rest =>
      obtain ⟨hread, rfl⟩ := readInt_of_drop hp hdrop
      have hlt := (Bytes.of_readInt hread).2
      have hb := b.isLt
      rw [skipAnswerName_of_read hread, DnsProxy.skipAnswerName]
      split_ifs with hzero
      · exact ⟨pos, p, rfl, hp, hle, hdrop⟩
      · have hnext := toInt_add_eq (n := b.toNat + 1) hp (by omega)
        obtain ⟨pos', p', hskip, hp', hle', hrest⟩ := ih _ (by omega) hnext (by omega) rfl
        refine ⟨pos', p', hskip, hp', hle', ?_⟩
        rw [hrest, List.drop_drop]
        congr 2
        omega

theorem skipZero_eq (hle : p ≤ pkt.length + 195) :
    ∃ (pos' : Int32) (p' : ℕ), skipZero pkt pos = .ok pos' ∧ pos'.toInt = p' ∧
      p' ≤ max p pkt.length ∧ pkt.drop p' =
        if (pkt.drop p).head? = some 0 then (pkt.drop p).drop 1 else pkt.drop p := by
  cases hdrop : pkt.drop p with
  | nil =>
    have hend : pkt.length ≤ p := List.drop_eq_nil_iff.mp hdrop
    refine ⟨pos, p, ?_, hp, le_max_left _ _, by simpa using hdrop⟩
    rw [skipZero, if_neg (by omega)]
    rfl
  | cons b rest =>
    obtain ⟨hread, rfl⟩ := readInt_of_drop hp hdrop
    have hlt := (Bytes.of_readInt hread).2
    rw [skipZero, if_pos hlt, hread, ok_bind]
    by_cases hzero : b = 0
    · refine ⟨pos + 1, p + 1, by rw [if_pos hzero]; rfl, toInt_add_eq (n := 1) hp (by omega),
        by omega, ?_⟩
      rw [hzero]
      rfl
    · refine ⟨pos, p, by rw [if_neg hzero]; rfl, hp, le_max_left _ _, ?_⟩
      rw [hdrop, if_neg (by simpa using hzero)]

theorem skipQuestions_eq (n : ℕ) (hle : p ≤ pkt.length + 195) :
    ∃ (pos' : Int32) (p' : ℕ), skipQuestions pkt n pos = .ok pos' ∧ pos'.toInt = p' ∧
      p' ≤ pkt.length + 195 ∧ pkt.drop p' = DnsProxy.skipQuestions n (pkt.drop p) := by
  induction n generalizing pos p with
  | zero => exact ⟨pos, p, rfl, hp, hle, rfl⟩
  | succ n ih =>
    cases hdrop : pkt.drop p with
    | nil =>
      have hend : pkt.length ≤ p := List.drop_eq_nil_iff.mp hdrop
      refine ⟨pos, p, ?_, hp, hle, hdrop⟩
      rw [skipQuestions, if_neg (by omega)]
      rfl
    | cons b rest =>
      have hlt := (Bytes.of_readInt (readInt_of_drop hp hdrop).1).2
      obtain ⟨pos₁, p₁, hname, hp₁, hle₁, hdrop₁⟩ := skipQuestionName_eq hlen hp hle
      obtain ⟨pos₂, p₂, hzero, hp₂, hle₂, hdrop₂⟩ := skipZero_eq hlen hp₁ (by omega)
      have hnext : (pos₂ + 4).toInt = (p₂ + 4 : ℕ) := toInt_add_eq (n := 4) hp₂ (by omega)
      obtain ⟨pos', p', hskip, hp', hle', hrest⟩ := ih hnext (by omega)
      refine ⟨pos', p', ?_, hp', hle', ?_⟩
      · rw [skipQuestions, if_pos hlt, hname, ok_bind, hzero, ok_bind, hskip]
      · rw [hrest, ← List.drop_drop, hdrop₂, hdrop₁, hdrop]
        rfl

theorem readTtl_eq (hle : p + 4 ≤ pkt.length) :
    readTtl pkt pos = .ok (BigEndian.toNat ((pkt.drop p).take 4)) := by
  obtain ⟨b₀, b₁, b₂, b₃, rest, hdrop⟩ :
      ∃ b₀ b₁ b₂ b₃ rest, pkt.drop p = b₀ :: b₁ :: b₂ :: b₃ :: rest := by
    have hlength : 4 ≤ (pkt.drop p).length := by
      rw [List.length_drop]
      omega
    generalize pkt.drop p = tail at hlength
    obtain _ | ⟨b₀, _ | ⟨b₁, _ | ⟨b₂, _ | ⟨b₃, rest⟩⟩⟩⟩ := tail
    all_goals simp at hlength ⊢
  obtain ⟨hread₀, hdrop₁⟩ := readInt_of_drop hp hdrop
  have hp₁ : (pos + 1).toInt = (p + 1 : ℕ) := toInt_add_eq (n := 1) hp (by omega)
  obtain ⟨hread₁, hdrop₂⟩ := readInt_of_drop hp₁ hdrop₁.symm
  have hp₂ : (pos + 2).toInt = (p + 1 + 1 : ℕ) := toInt_add_eq (n := 2) hp (by omega)
  obtain ⟨hread₂, hdrop₃⟩ := readInt_of_drop hp₂ hdrop₂.symm
  have hp₃ : (pos + 3).toInt = (p + 1 + 1 + 1 : ℕ) := toInt_add_eq (n := 3) hp (by omega)
  obtain ⟨hread₃, -⟩ := readInt_of_drop hp₃ hdrop₃.symm
  rw [readTtl, hread₀, ok_bind, hread₁, ok_bind, hread₂, ok_bind, hread₃, ok_bind, hdrop]
  rfl

theorem skipName_eq (hlt : p < pkt.length) :
    ∃ (pos' : Int32) (p' : ℕ), skipName pkt pos = .ok pos' ∧ pos'.toInt = p' ∧
      p' ≤ pkt.length + 255 ∧ pkt.drop p' =
        if (pkt.drop p).getD 0 0 &&& 0xc0 = 0xc0 then (pkt.drop p).drop 2
        else DnsProxy.skipAnswerName (pkt.drop p) := by
  obtain ⟨b, rest, hdrop⟩ := List.exists_cons_of_length_pos
    (show 0 < (pkt.drop p).length by rw [List.length_drop]; omega)
  have hfirst : (pkt.drop p).getD 0 0 = b := by rw [hdrop]; rfl
  rw [skipName, (readInt_of_drop hp hdrop).1, ok_bind, hfirst]
  split_ifs with hpointer
  · exact ⟨pos + 2, p + 2, rfl, toInt_add_eq (n := 2) hp (by omega), by omega,
      List.drop_drop.symm⟩
  · exact skipAnswerName_eq hlen hp (by omega)

omit hp in
/-- The lifetime, by index and from the rest of the packet. -/
theorem extractTtlMs_eq : extractTtlMs pkt = .ok (DnsProxy.extractTtlMs pkt) := by
  rw [extractTtlMs, DnsProxy.extractTtlMs]
  by_cases hshort : pkt.length < 12
  · rw [if_pos hshort, if_pos hshort]
    rfl
  · have hhi : pkt.readInt 4 = .ok (pkt.getD 4 0) :=
      (Bytes.readInt_eq (k := 4) rfl).trans (Bytes.read_eq_ok (by omega))
    have hlo : pkt.readInt 5 = .ok (pkt.getD 5 0) :=
      (Bytes.readInt_eq (k := 5) rfl).trans (Bytes.read_eq_ok (by omega))
    have hstart : (12 : Int32).toInt = (12 : ℕ) := rfl
    obtain ⟨pos, p, hskip, hp, hle, hdrop⟩ := skipQuestions_eq hlen hstart
      (256 * (pkt.getD 4 0).toNat + (pkt.getD 5 0).toNat) (by omega)
    have hten : (pos + 10).toInt = (p + 10 : ℕ) := toInt_add_eq (n := 10) hp (by omega)
    rw [if_neg hshort, if_neg hshort, hhi, ok_bind, hlo, ok_bind, hskip, ok_bind,
      BigEndian.word16, ← hdrop, hten]
    dsimp only
    rw [List.length_drop]
    by_cases hanswer : 10 < pkt.length - p
    · obtain ⟨pos₁, p₁, hname, hp₁, hle₁, hdrop₁⟩ := skipName_eq hlen hp (by omega)
      have hfour : (pos₁ + 4).toInt = (p₁ + 4 : ℕ) := toInt_add_eq (n := 4) hp₁ (by omega)
      have height : (pos₁ + 4 + 4).toInt = (p₁ + 4 + 4 : ℕ) :=
        toInt_add_eq (n := 4) hfour (by omega)
      rw [if_pos (by omega), if_pos hanswer, hname, ok_bind, height, ← hdrop₁, List.drop_drop,
        List.length_drop]
      by_cases httl : p₁ + 4 + 4 ≤ pkt.length
      · rw [if_pos (by omega), if_pos (by omega), readTtl_eq hlen hfour httl]
        rfl
      · rw [if_neg (by omega), if_neg (by omega)]
        rfl
    · rw [if_neg (by omega), if_neg hanswer]
      rfl

theorem extractLabels_eq (decode : Bytes → Text) (sb : Text) (hle : p ≤ pkt.length) :
    extractLabels decode pkt pos sb =
      .ok (DnsProxy.extractLabels decode (pkt.drop p) sb) := by
  induction hroom : pkt.length - p using Nat.strong_induction_on generalizing pos p sb with
  | _ k ih =>
    cases hdrop : pkt.drop p with
    | nil =>
      have hend : pkt.length ≤ p := List.drop_eq_nil_iff.mp hdrop
      rw [extractLabels, if_neg (by omega), DnsProxy.extractLabels]
    | cons b rest =>
      obtain ⟨hread, rfl⟩ := readInt_of_drop hp hdrop
      have hlt := (Bytes.of_readInt hread).2
      have hb := b.isLt
      have hone : (pos + 1).toInt = (p + 1 : ℕ) := toInt_add_eq (n := 1) hp (by omega)
      have hnext := toInt_add_eq (n := b.toNat) hone (by omega)
      rw [extractLabels_of_read hread, DnsProxy.extractLabels, hnext, List.length_drop]
      by_cases hzero : b = 0
      · rw [if_pos hzero, if_pos hzero]
      · rw [if_neg hzero, if_neg hzero]
        by_cases hlong : pkt.length - (p + 1) < b.toNat
        · rw [if_pos (by omega), if_pos hlong]
        · have hwindow : pkt.window (pos + 1) b.toNat = .ok ((pkt.drop (p + 1)).take b.toNat) := by
            rw [Bytes.window, if_pos (by omega), hone, Int.toNat_natCast]
            rfl
          rw [if_neg (by omega), if_neg hlong, hwindow, ok_bind,
            ih _ (by omega) hnext _ (by omega) rfl, List.drop_drop]

omit hp in
theorem extractQueryName_eq (decode : Bytes → Text) :
    extractQueryName decode pkt = .ok (DnsProxy.extractQueryName decode pkt) := by
  rw [extractQueryName, DnsProxy.extractQueryName]
  by_cases hshort : pkt.length < 12
  · rw [if_pos hshort, if_pos hshort]
    rfl
  · rw [if_neg hshort, if_neg hshort]
    exact extractLabels_eq (p := 12) hlen rfl decode [] (by omega)

end Short

/-! ### Packets that wrap around -/

/-- The labels of one byte, `j` of them, bring the index to the last byte of the packet. -/
theorem skipAnswerName_labels {pkt : Bytes} {pos : Int32} {p j : ℕ} (hlen : pkt.length < 2 ^ 31)
    (hp : pos.toInt = p) (hdrop : pkt.drop p = List.replicate (2 * j) 1 ++ [0xff]) :
    ∃ last : Int32, last.toInt = pkt.length - 1 ∧
      skipAnswerName pkt pos = skipAnswerName pkt (last + Int32.ofNat 256) := by
  induction j generalizing pos p with
  | zero =>
    have hread := (readInt_of_drop hp hdrop).1
    have hlength := congrArg List.length hdrop
    rw [List.length_drop] at hlength
    refine ⟨pos, ?_, ?_⟩
    · simp at hlength
      omega
    · rw [skipAnswerName_of_read hread]
      rfl
  | succ j ih =>
    have htwo : List.replicate (2 * (j + 1)) (1 : Byte) = 1 :: 1 :: List.replicate (2 * j) 1 := rfl
    rw [htwo] at hdrop
    obtain ⟨hread, hrest⟩ := readInt_of_drop hp hdrop
    have hlt := (Bytes.of_readInt hread).2
    have hrest' : pkt.drop (p + 2) = List.replicate (2 * j) 1 ++ [0xff] := by
      rw [← List.drop_drop, hdrop]
      rfl
    have hlength := congrArg List.length hrest'
    rw [List.length_drop] at hlength
    simp at hlength
    have hnext : (pos + Int32.ofNat 2).toInt = (p + 2 : ℕ) := toInt_add_eq hp (by omega)
    obtain ⟨last, hlast, hskip⟩ := ih hnext hrest'
    refine ⟨last, hlast, ?_⟩
    rw [skipAnswerName_of_read hread]
    exact hskip

/-- No question, and an answer whose name is one label of `b` bytes, `j` labels of one byte and,
at the last byte of the packet, the length of a label of 255 bytes. -/
def hostile (b : Byte) (j : ℕ) : Bytes :=
  List.replicate 12 0 ++ b :: (List.replicate b.toNat 1 ++ (List.replicate (2 * j) 1 ++ [0xff]))

theorem length_hostile (b : Byte) (j : ℕ) : (hostile b j).length = b.toNat + 2 * j + 14 := by
  simp [hostile]
  omega

theorem skipName_hostile {b : Byte} {j : ℕ} (hb : b ≠ 0) (hpointer : b &&& 0xc0 ≠ 0xc0)
    (hlen : (hostile b j).length < 2 ^ 31) :
    ∃ last : Int32, last.toInt = (hostile b j).length - 1 ∧
      skipName (hostile b j) 12 = skipAnswerName (hostile b j) (last + Int32.ofNat 256) := by
  have hstart : (12 : Int32).toInt = (12 : ℕ) := rfl
  have hdrop : (hostile b j).drop 12 =
      b :: (List.replicate b.toNat 1 ++ (List.replicate (2 * j) 1 ++ [0xff])) := rfl
  obtain ⟨hread, hrest⟩ := readInt_of_drop hstart hdrop
  have hlabels : (hostile b j).drop (12 + (b.toNat + 1)) = List.replicate (2 * j) 1 ++ [0xff] := by
    rw [show 12 + (b.toNat + 1) = 12 + 1 + b.toNat by omega, ← List.drop_drop, ← hrest,
      List.drop_left' List.length_replicate]
  have hlength := length_hostile b j
  have hnext := toInt_add_eq (n := b.toNat + 1) hstart (by omega)
  obtain ⟨last, hlast, hskip⟩ := skipAnswerName_labels hlen hnext hlabels
  refine ⟨last, hlast, ?_⟩
  rw [skipName, hread, ok_bind, if_neg hpointer, skipAnswerName_of_read hread, if_neg hb, hskip]

/-- A negative index, or one behind the end. -/
theorem readInt_eq_error {pkt : Bytes} {pos : Int32} (h : pos.toInt < 0 ∨ pkt.length ≤ pos.toInt) :
    pkt.readInt pos = .error .arrayIndexOutOfBounds := by
  rcases h with h | h
  · exact Bytes.readInt_neg h
  · obtain ⟨p, hp⟩ := Int.eq_ofNat_of_zero_le (show 0 ≤ pos.toInt by omega)
    rw [Bytes.readInt_eq hp, Bytes.read_eq_error (by omega)]

theorem skipAnswerName_neg {pkt : Bytes} {pos : Int32} (h : pos.toInt < 0) :
    skipAnswerName pkt pos = .error .arrayIndexOutOfBounds := by
  rw [skipAnswerName, if_pos (by omega)]
  split
  · rename_i e he
    rw [Bytes.readInt_neg h] at he
    cases he
    rfl
  · rename_i b hb
    rw [Bytes.readInt_neg h] at hb
    cases hb

/-- The test `pos + 4 <= response.length` passes when the sum wraps around. -/
theorem readTtl_eq_error {pkt : Bytes} {pos : Int32} (hend : pkt.length ≤ pos.toInt)
    (hwrap : 2 ^ 31 ≤ pos.toInt + 8) :
    (pos + 4 + 4).toInt < 0 ∧ readTtl pkt (pos + 4) = .error .arrayIndexOutOfBounds := by
  have hlt := pos.toInt_lt
  have height : pos + 4 + 4 = pos + Int32.ofNat 8 := by
    rw [Int32.add_assoc]
    rfl
  refine ⟨?_, ?_⟩
  · rw [height]
    exact toInt_add_neg (by omega) (by omega) hwrap
  · have hfour : (pos + 4).toInt < 0 ∨ pkt.length ≤ (pos + 4).toInt := by
      by_cases h : pos.toInt + (4 : ℕ) < 2 ^ 31
      · have hsum : (pos + 4).toInt = pos.toInt + (4 : ℕ) := toInt_add_of_lt (by omega) h
        right
        omega
      · exact Or.inl (toInt_add_neg (n := 4) (by omega) (by omega) (by omega))
    rw [readTtl, readInt_eq_error hfour]
    rfl

/-- The index is so far ahead of the end that `pos + 8` wraps around, if not `pos` itself. -/
theorem extractTtlMs_hostile {b : Byte} {j : ℕ} (hb : b ≠ 0) (hpointer : b &&& 0xc0 ≠ 0xc0)
    (hlen : (hostile b j).length < 2 ^ 31) (hwrap : 2 ^ 31 < (hostile b j).length + 264) :
    extractTtlMs (hostile b j) = .error .arrayIndexOutOfBounds := by
  have hhi : (hostile b j).readInt 4 = .ok 0 := (readInt_of_drop (p := 4) rfl rfl).1
  have hlo : (hostile b j).readInt 5 = .ok 0 := (readInt_of_drop (p := 5) rfl rfl).1
  have hquestions : skipQuestions (hostile b j) (256 * (0 : Byte).toNat + (0 : Byte).toNat) 12 =
      .ok 12 := rfl
  have hten : (12 + 10 : Int32).toInt = 22 := rfl
  obtain ⟨last, hlast, hname⟩ := skipName_hostile hb hpointer hlen
  rw [extractTtlMs, if_neg (by omega), hhi, ok_bind, hlo, ok_bind, hquestions, ok_bind, hten,
    if_pos (by omega), hname]
  by_cases hend : last.toInt + (256 : ℕ) < 2 ^ 31
  · have hpos := toInt_add_of_lt (by omega) hend
    have hbehind : (hostile b j).length ≤ (last + Int32.ofNat 256).toInt := by omega
    obtain ⟨hneg, hread⟩ := readTtl_eq_error hbehind (by omega)
    rw [skipAnswerName, if_neg (by omega), ok_bind, if_pos (by omega), hread]
    rfl
  · have hnext : (last + Int32.ofNat 256).toInt < 0 :=
      toInt_add_neg (by omega) (by omega) (by omega)
    rw [skipAnswerName_neg hnext]
    rfl

/-! ### The parsers on arbitrary bytes -/

/-- Both parsers come to an end without an access outside of the array, and the lifetime is
between a minute and what 32 bits of seconds can say. -/
structure Parses (decode : Bytes → Text) (pkt : Bytes) : Prop where
  name : ∃ name, extractQueryName decode pkt = .ok name
  ttl : ∃ ttl, extractTtlMs pkt = .ok ttl ∧ 60000 ≤ ttl ∧ ttl ≤ 1000 * (2 ^ 32 - 1)

theorem extractTtlMs_le (response : Bytes) :
    DnsProxy.extractTtlMs response ≤ 1000 * (2 ^ 32 - 1) := by
  have hread (l : Bytes) : max (BigEndian.toNat (l.take 4) * 1000) 60000 ≤ 1000 * (2 ^ 32 - 1) := by
    have hlt : BigEndian.toNat (l.take 4) < 256 ^ 4 := by
      refine (BigEndian.toNat_lt _).trans_le (Nat.pow_le_pow_right (by omega) ?_)
      rw [List.length_take]
      omega
    omega
  have hdefault : DnsProxy.cacheTtlMs ≤ 1000 * (2 ^ 32 - 1) := by decide
  unfold DnsProxy.extractTtlMs
  dsimp only
  split_ifs <;> first | exact hdefault | exact hread _

theorem parses_of_length_le (decode : Bytes → Text) {pkt : Bytes}
    (hlen : pkt.length + 264 ≤ 2 ^ 31) : Parses decode pkt where
  name := ⟨_, extractQueryName_eq hlen decode⟩
  ttl := ⟨_, extractTtlMs_eq hlen, DnsProxy.le_extractTtlMs pkt, extractTtlMs_le pkt⟩

/-- An array of `n` bytes on which `extractTtlMs` throws. -/
theorem exists_throws {n : ℕ} (hn : n < 2 ^ 31) (hwrap : 2 ^ 31 < n + 264) :
    ∃ pkt : Bytes, pkt.length = n ∧ extractTtlMs pkt = .error .arrayIndexOutOfBounds := by
  rcases Nat.even_or_odd' n with ⟨k, rfl | rfl⟩
  · have hk : (hostile 2 (k - 8)).length = 2 * k := by
      rw [length_hostile]
      simp
      omega
    exact ⟨_, hk, extractTtlMs_hostile (by decide) (by decide) (by omega) (by omega)⟩
  · have hk : (hostile 1 (k - 7)).length = 2 * k + 1 := by
      rw [length_hostile]
      simp
      omega
    exact ⟨_, hk, extractTtlMs_hostile (by decide) (by decide) (by omega) (by omega)⟩

/-- For arrays of which lengths the parsers are total. -/
theorem parses_iff_length_le (decode : Bytes → Text) {n : ℕ} (hn : n < 2 ^ 31) :
    (∀ pkt : Bytes, pkt.length = n → Parses decode pkt) ↔ n ≤ 2 ^ 31 - 264 := by
  refine ⟨fun h => ?_, fun hle pkt hpkt => parses_of_length_le decode (by omega)⟩
  by_contra hlong
  obtain ⟨pkt, hpkt, herror⟩ := exists_throws hn (by omega)
  obtain ⟨ttl, httl, -⟩ := (h pkt hpkt).ttl
  rw [herror] at httl
  cases httl

/-- A datagram is well below that. -/
theorem parses_datagram : (65535 < 2 ^ 31) ∧
    ∀ pkt : Bytes, pkt.length = 65535 → Parses (fun _ => []) pkt :=
  ⟨by decide, (parses_iff_length_le (fun _ => []) (by decide)).mpr (by decide)⟩

/-- The longest answer that `readAllBytes` returns, filled with labels up to its end. -/
theorem extractTtlMs_longestAnswer : (hostile 1 (2 ^ 30 - 12)).length = 2 ^ 31 - 9 ∧
    extractTtlMs (hostile 1 (2 ^ 30 - 12)) = .error .arrayIndexOutOfBounds := by
  have hlength : (hostile 1 (2 ^ 30 - 12)).length = 2 ^ 31 - 9 := length_hostile 1 _
  exact ⟨hlength, extractTtlMs_hostile (by decide) (by decide) (by omega) (by omega)⟩

end DnsParser

end XnetZt
