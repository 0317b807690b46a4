import XnetZt.Net.DnsRecord
import XnetZt.Tether.DnsProxy

/-!
# How long the DNS proxy caches a response

`extractTtlMs` reads the TTL of the first answer only. It finds it if the name of that
answer is a pointer. Labels are skipped up to their zero byte, but not beyond it, so
everything behind them is read one byte too early, and a pointer behind labels is taken
for the length of a label.
-/

namespace XnetZt

open Dns BigEndian

/-- Bytes that are read as labels up to a zero byte, or beyond their end. -/
inductive LabelsEndAt : Bytes → Bytes → Prop
  | overrun : LabelsEndAt [] []
  | zero (rest : Bytes) : LabelsEndAt (0 :: rest) (0 :: rest)
  | label {b : Byte} {rest tail : Bytes} (hb : b ≠ 0) (h : LabelsEndAt (rest.drop b.toNat) tail) :
      LabelsEndAt (b :: rest) tail

/-- What is found in place of the TTL stands for the same lifetime as `t` seconds. -/
def Dns.Response.FindsTtl (r : Response) (t : ℕ) : Prop :=
  match r.first.name with
  | ⟨[], .pointer _⟩ => r.first.ttl.toNat = t ∨ r.first.ttl.toNat ≤ 60
  | ⟨_, .root⟩ => max 60 (r.first.rclass.toNat % 256 * 2 ^ 24 + r.first.ttl.toNat / 256) = max 60 t
  | ⟨_ :: _, .pointer offset⟩ =>
    ∃ tail, LabelsEndAt ((NameEnd.pointer offset).encode ++ (r.first.fields ++ r.rest)) tail ∧
      if 8 ≤ tail.length then max 60 (toNat (tail.slice 4 4)) = max 60 t else t = 300

namespace DnsProxy

/-- The lifetime that is read behind a name, with type and class before it. -/
def ttlAt (rest : Bytes) : ℕ :=
  if 4 ≤ (rest.drop 4).length then max (toNat ((rest.drop 4).take 4) * 1000) 60000 else cacheTtlMs

/-! ### Names -/

theorem labelsEndAt_skipAnswerName (bytes : Bytes) : LabelsEndAt bytes (skipAnswerName bytes) := by
  induction bytes using skipAnswerName.induct with
  | case1 =>
    rw [skipAnswerName]
    exact .overrun
  | case2 rest =>
    rw [skipAnswerName, if_pos rfl]
    exact .zero rest
  | case3 b rest hb ih =>
    rw [skipAnswerName, if_neg hb]
    exact .label hb ih

theorem labelsEndAt_unique {bytes tail tail' : Bytes} (h : LabelsEndAt bytes tail)
    (h' : LabelsEndAt bytes tail') : tail = tail' := by
  induction h with
  | overrun =>
    cases h'
    rfl
  | zero rest =>
    cases h' with
    | zero => rfl
    | label hb => exact absurd rfl hb
  | label hb _ ih =>
    cases h' with
    | zero => exact absurd rfl hb
    | label _ h' => exact ih h'

theorem label_and_ne (l : Label) : BitVec.ofNat 8 l.bytes.length &&& 0xc0 ≠ 0xc0 := by
  have hshort : ∀ n : Fin 64, BitVec.ofNat 8 n.val &&& 0xc0 ≠ 0xc0 := by decide
  exact hshort ⟨l.bytes.length, by have := l.short; omega⟩

theorem skipAnswerName_labels (labels : List Label) (rest : Bytes) :
    skipAnswerName (labels.flatMap Label.encode ++ rest) = skipAnswerName rest := by
  induction labels with
  | nil => rfl
  | cons l labels ih =>
    rw [List.flatMap_cons, List.append_assoc, Label.encode, List.cons_append, skipAnswerName,
      if_neg l.length_ne_zero, l.toNat_length, List.drop_left, ih]

theorem skipQuestionName_encodeName (qname : List Label) (rest : Bytes) :
    skipQuestionName (encodeName qname ++ rest) = 0 :: rest := by
  induction qname with
  | nil =>
    change skipQuestionName (0 :: rest) = 0 :: rest
    rw [skipQuestionName, if_pos rfl]
  | cons l qname ih =>
    rw [encodeName_cons, List.append_assoc, Label.encode, List.cons_append, skipQuestionName,
      if_neg l.length_ne_zero, if_neg (label_and_ne l), l.toNat_length, List.drop_left, ih]

theorem skipQuestions_encode (q : Question) (rest : Bytes) :
    skipQuestions 1 (q.encode ++ rest) = rest := by
  have hname : q.encode ++ rest = encodeName q.qname ++
      (ofNat 2 q.qtype.toNat ++ ofNat 2 q.qclass.toNat ++ rest) := by
    simp [Question.encode]
  have hskip := skipQuestionName_encodeName q.qname
    (ofNat 2 q.qtype.toNat ++ ofNat 2 q.qclass.toNat ++ rest)
  rw [← hname] at hskip
  cases hbytes : q.encode ++ rest with
  | nil => simp [Question.encode, encodeName] at hbytes
  | cons b tail =>
    rw [hbytes] at hskip
    rw [skipQuestions, hskip]
    rfl

theorem extractTtlMs_encode {m : Message} (h : 10 < m.records.length) :
    extractTtlMs m.encode = ttlAt (if m.records.getD 0 0 &&& 0xc0 = 0xc0 then m.records.drop 2
      else skipAnswerName m.records) := by
  have hlength : (ofNat 2 m.id.toNat ++ m.header).length = 12 := by simp [Message.length_header]
  have hencode : m.encode =
      (ofNat 2 m.id.toNat ++ m.header) ++ (m.question.encode ++ m.records) := by
    simp [Message.encode]
  have hcount : word16 m.encode 4 = 1 := by
    simp [Message.encode, Message.header, word16, BigEndian.ofNat]
  have hrest : skipQuestions 1 (m.encode.drop 12) = m.records := by
    rw [hencode, List.drop_left' hlength, skipQuestions_encode]
  have hlong : ¬ m.encode.length < 12 := by
    rw [hencode, List.length_append, hlength]
    omega
  rw [extractTtlMs, if_neg hlong, hcount, hrest]
  dsimp only
  rw [if_pos h, ttlAt]

/-! ### The first answer -/

theorem ttlAt_append {before ttl rest : Bytes} (hbefore : before.length = 4)
    (httl : ttl.length = 4) : ttlAt (before ++ (ttl ++ rest)) = max (toNat ttl * 1000) 60000 := by
  have hle : 4 ≤ (ttl ++ rest).length := by
    rw [List.length_append]
    omega
  rw [ttlAt, List.drop_left' hbefore, if_pos hle, List.take_left' httl]

theorem ttlAt_eq_iff (tail : Bytes) (t : ℕ) : ttlAt tail = max 60000 (1000 * t) ↔
    if 8 ≤ tail.length then max 60 (toNat (tail.slice 4 4)) = max 60 t else t = 300 := by
  rw [ttlAt, List.length_drop, Bytes.slice]
  by_cases hlength : 8 ≤ tail.length
  · rw [if_pos (by omega), if_pos hlength]
    omega
  · rw [if_neg (by omega), if_neg hlength, cacheTtlMs]
    omega

/-- Labels with their zero byte: the low byte of the class is taken for the high byte of the
TTL. -/
theorem ttlAt_fields (record : Record) (rest : Bytes) :
    ttlAt (0 :: (record.fields ++ rest)) =
      max ((record.rclass.toNat % 256 * 2 ^ 24 + record.ttl.toNat / 256) * 1000) 60000 := by
  have hparts : 0 :: (record.fields ++ rest) =
      (0 :: ofNat 2 record.rtype.toNat ++ [BitVec.ofNat 8 (record.rclass.toNat / 256)]) ++
        ((BitVec.ofNat 8 record.rclass.toNat :: ofNat 3 (record.ttl.toNat / 256)) ++
          (BitVec.ofNat 8 record.ttl.toNat :: (record.data ++ rest))) := by
    simp [Record.fields, BigEndian.ofNat, Nat.div_div_eq_div_mul]
  have hvalue : toNat (BitVec.ofNat 8 record.rclass.toNat :: ofNat 3 (record.ttl.toNat / 256)) =
      record.rclass.toNat % 256 * 2 ^ 24 + record.ttl.toNat / 256 := by
    have hlt : record.ttl.toNat / 256 < 256 ^ 3 := by
      have := record.ttl.isLt
      omega
    rw [BigEndian.toNat, toNat_ofNat, length_ofNat, BitVec.toNat_ofNat, Nat.mod_eq_of_lt hlt]
    rfl
  rw [hparts, ttlAt_append (by simp) (by simp), hvalue]

theorem ttlAt_fields_pointer (record : Record) (rest : Bytes) :
    ttlAt (record.fields ++ rest) = max (record.ttl.toNat * 1000) 60000 := by
  have hparts : record.fields ++ rest =
      (ofNat 2 record.rtype.toNat ++ ofNat 2 record.rclass.toNat) ++
        (ofNat 4 record.ttl.toNat ++ (record.data ++ rest)) := by
    simp [Record.fields]
  have hvalue : toNat (ofNat 4 record.ttl.toNat) = record.ttl.toNat := by
    rw [toNat_ofNat]
    exact Nat.mod_eq_of_lt record.ttl.isLt
  rw [hparts, ttlAt_append (by simp) (by simp), hvalue]

/-- Names that begin with a label or are empty are not taken for pointers. -/
theorem getD_and_ne {labels : List Label} {ending : NameEnd}
    (h : labels ≠ [] ∨ ending = .root) (rest : Bytes) :
    (Name.encode ⟨labels, ending⟩ ++ rest).getD 0 0 &&& 0xc0 ≠ 0xc0 := by
  cases labels with
  | nil =>
    obtain rfl := h.resolve_left (by simp)
    change (0 : Byte) &&& 0xc0 ≠ 0xc0
    decide
  | cons l labels => exact label_and_ne l

theorem pointer_and_eq (offset : BitVec 14) (rest : Bytes) :
    (Name.encode ⟨[], .pointer offset⟩ ++ rest).getD 0 0 &&& 0xc0 = 0xc0 := by
  have hhigh : ∀ n : Fin 64, BitVec.ofNat 8 (192 + n.val) &&& 0xc0 = 0xc0 := by decide
  have hlt := offset.isLt
  have hbyte : (49152 + offset.toNat) / 256 = 192 + offset.toNat / 256 := by omega
  change BitVec.ofNat 8 ((49152 + offset.toNat) / 256 ^ 1) &&& 0xc0 = 0xc0
  rw [pow_one, hbyte]
  exact hhigh ⟨offset.toNat / 256, by omega⟩

section First

variable {r : Response} {labels : List Label} {offset : BitVec 14}

theorem extractTtlMs_first {name : Name} (h : r.first.name = name) :
    extractTtlMs r.encode =
      ttlAt (if (name.encode ++ (r.first.fields ++ r.rest)).getD 0 0 &&& 0xc0 = 0xc0 then
          (name.encode ++ (r.first.fields ++ r.rest)).drop 2
        else skipAnswerName (name.encode ++ (r.first.fields ++ r.rest))) := by
  subst h
  have hrecords : r.toMessage.records = r.first.name.encode ++ (r.first.fields ++ r.rest) :=
    List.append_assoc ..
  have hlong : 10 < r.toMessage.records.length := by
    have hname := r.first.name.length_encode_pos
    rw [hrecords]
    simp only [Record.fields, Record.data, List.length_append, length_ofNat]
    omega
  rw [Response.encode, extractTtlMs_encode hlong, hrecords]

theorem extractTtlMs_root (h : r.first.name = ⟨labels, .root⟩) :
    extractTtlMs r.encode =
      max ((r.first.rclass.toNat % 256 * 2 ^ 24 + r.first.ttl.toNat / 256) * 1000) 60000 := by
  have hskip : skipAnswerName (Name.encode ⟨labels, .root⟩ ++ (r.first.fields ++ r.rest)) =
      0 :: (r.first.fields ++ r.rest) := by
    rw [Name.encode, List.append_assoc, skipAnswerName_labels]
    change skipAnswerName (0 :: (r.first.fields ++ r.rest)) = _
    rw [skipAnswerName, if_pos rfl]
  rw [extractTtlMs_first h, if_neg (getD_and_ne (Or.inr rfl) _), hskip, ttlAt_fields]

theorem extractTtlMs_pointer (h : r.first.name = ⟨[], .pointer offset⟩) :
    extractTtlMs r.encode = max (r.first.ttl.toNat * 1000) 60000 := by
  have hdrop : (Name.encode ⟨[], .pointer offset⟩ ++ (r.first.fields ++ r.rest)).drop 2 =
      r.first.fields ++ r.rest := List.drop_left' (by simp [Name.encode, NameEnd.encode])
  rw [extractTtlMs_first h, if_pos (pointer_and_eq offset _), hdrop, ttlAt_fields_pointer]

theorem extractTtlMs_labels_pointer {l : Label}
    (h : r.first.name = ⟨l :: labels, .pointer offset⟩) :
    extractTtlMs r.encode =
      ttlAt (skipAnswerName ((NameEnd.pointer offset).encode ++ (r.first.fields ++ r.rest))) := by
  rw [extractTtlMs_first h, if_neg (getD_and_ne (Or.inl (by simp)) _), Name.encode,
    List.append_assoc, skipAnswerName_labels]

end First

/-- The lifetime is the least TTL of the answers exactly if what is found in the place where
the TTL of the first one is looked for stands for it. -/
theorem extractTtlMs_eq_iff (r : Response) {t : ℕ} (ht : IsLeast r.ttls t) :
    extractTtlMs r.encode = max 60000 (1000 * t) ↔ r.FindsTtl t := by
  have hle := r.le_ttl_first ht
  rw [Response.FindsTtl]
  cases hname : r.first.name with
  | mk labels ending =>
    cases ending with
    | root =>
      rw [extractTtlMs_root hname]
      cases labels <;> dsimp only <;> omega
    | pointer offset =>
      cases labels with
      | nil =>
        rw [extractTtlMs_pointer hname]
        dsimp only
        omega
      | cons l labels =>
        rw [extractTtlMs_labels_pointer hname, ttlAt_eq_iff]
        have hends := labelsEndAt_skipAnswerName
          ((NameEnd.pointer offset).encode ++ (r.first.fields ++ r.rest))
        constructor
        · intro h
          exact ⟨_, hends, h⟩
        · rintro ⟨tail, htail, h⟩
          rwa [labelsEndAt_unique hends htail]

/-- A response with one answer, for the address of a host. -/
def oneAnswer (name : Name) (ttl : BitVec 32) : Response where
  id := 1
  flags := 0x8180
  question := ⟨[⟨[0x61], by decide, by decide⟩], 1, 1⟩
  first := ⟨name, 1, 1, ttl, [10, 0, 0, 1], by decide⟩
  others := []
  authority := []
  additional := []
  few := by decide

theorem isLeast_ttls_oneAnswer (name : Name) (ttl : BitVec 32) :
    IsLeast (oneAnswer name ttl).ttls ttl.toNat := by
  refine ⟨⟨_, List.mem_cons_self, rfl⟩, ?_⟩
  rintro t ⟨record, hrecord, rfl⟩
  rw [List.mem_singleton.mp hrecord]
  exact le_rfl

/-- The answer has the name of the question, by a pointer. -/
theorem extractTtlMs_oneAnswer_pointer :
    let r := oneAnswer ⟨[], .pointer 12⟩ 300
    IsLeast r.ttls 300 ∧ extractTtlMs r.encode = max 60000 (1000 * 300) := by
  intro r
  have hleast : IsLeast r.ttls 300 := isLeast_ttls_oneAnswer _ 300
  exact ⟨hleast, (extractTtlMs_eq_iff r hleast).mpr (Or.inl rfl)⟩

/-- The same answer with its name written out is cached for 194 days. -/
theorem extractTtlMs_oneAnswer_labels :
    let r := oneAnswer ⟨[⟨[0x61], by decide, by decide⟩], .root⟩ 300
    IsLeast r.ttls 300 ∧ extractTtlMs r.encode = 16777217000 ∧
      extractTtlMs r.encode ≠ max 60000 (1000 * 300) := by
  intro r
  have hname : r.first.name = ⟨[⟨[0x61], by decide, by decide⟩], .root⟩ := rfl
  have hroot : extractTtlMs r.encode = 16777217000 := (extractTtlMs_root hname).trans (by decide)
  refine ⟨isLeast_ttls_oneAnswer _ 300, hroot, ?_⟩
  rw [hroot]
  decide

end DnsProxy

end XnetZt
