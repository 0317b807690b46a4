import XnetZt.Lib.Java

/-!
# DNS messages with one question

A message is a header of twelve bytes with the transaction id first, the question, and
the records. A name is a sequence of labels, each preceded by its length, and ends with a
zero byte. So no encoded name is a proper prefix of another, and a message determines its
id and its question.
-/

namespace XnetZt

namespace Dns

structure Label where
  bytes : Bytes
  nonempty : bytes ≠ []
  short : bytes.length ≤ 63
  deriving DecidableEq

structure Question where
  qname : List Label
  qtype : BitVec 16
  qclass : BitVec 16
  deriving DecidableEq

/-- `counts` are those of the answer, authority and additional records; the number of
questions is one. -/
structure Message where
  id : BitVec 16
  flags : BitVec 16
  counts : BitVec 48
  question : Question
  records : Bytes
  deriving DecidableEq

def Label.encode (l : Label) : Bytes := BitVec.ofNat 8 l.bytes.length :: l.bytes

def encodeName (qname : List Label) : Bytes := qname.flatMap Label.encode ++ [0]

def Question.encode (q : Question) : Bytes :=
  encodeName q.qname ++ BigEndian.ofNat 2 q.qtype.toNat ++ BigEndian.ofNat 2 q.qclass.toNat

/-- The ten bytes of the header after the id. -/
def Message.header (m : Message) : Bytes :=
  BigEndian.ofNat 2 m.flags.toNat ++ BigEndian.ofNat 2 1 ++ BigEndian.ofNat 6 m.counts.toNat

def Message.encode (m : Message) : Bytes :=
  BigEndian.ofNat 2 m.id.toNat ++ m.header ++ m.question.encode ++ m.records

/-! ### What a message determines -/

theorem encodeName_cons (l : Label) (qname : List Label) :
    encodeName (l :: qname) = l.encode ++ encodeName qname := by
  simp [encodeName]

theorem Label.toNat_length (l : Label) :
    (BitVec.ofNat 8 l.bytes.length).toNat = l.bytes.length := by
  have := l.short
  simp
  omega

theorem Label.length_ne_zero (l : Label) : BitVec.ofNat 8 l.bytes.length ≠ 0 := by
  intro h
  have hlen := l.toNat_length
  rw [h] at hlen
  exact l.nonempty (List.length_eq_zero_iff.mp hlen.symm)

theorem encodeName_append_inj {qname qname' : List Label} {r r' : Bytes}
    (h : encodeName qname ++ r = encodeName qname' ++ r') : qname = qname' ∧ r = r' := by
  induction qname generalizing qname' with
  | nil =>
    cases qname' with
    | nil => exact ⟨rfl, by simpa [encodeName] using h⟩
    | cons l' qname' =>
      rw [encodeName_cons] at h
      exact absurd (List.cons.inj h).1.symm l'.length_ne_zero
  | cons l qname ih =>
    cases qname' with
    | nil =>
      rw [encodeName_cons] at h
      exact absurd (List.cons.inj h).1 l.length_ne_zero
    | cons l' qname' =>
      rw [encodeName_cons, encodeName_cons, List.append_assoc, List.append_assoc] at h
      -- the first byte gives the length, and so where the label ends
      obtain ⟨hlen, htail⟩ := List.cons.inj h
      have hlength : l.bytes.length = l'.bytes.length := by
        rw [← l.toNat_length, hlen, l'.toNat_length]
      obtain ⟨hbytes, hrest⟩ := List.append_inj htail hlength
      obtain ⟨rfl, hr⟩ := ih hrest
      obtain rfl : l = l' := by
        cases l
        cases l'
        simpa using hbytes
      exact ⟨rfl, hr⟩

theorem ofNat_append_inj {x y : BitVec 16} {r r' : Bytes}
    (h : BigEndian.ofNat 2 x.toNat ++ r = BigEndian.ofNat 2 y.toNat ++ r') : x = y ∧ r = r' := by
  obtain ⟨hxy, hr⟩ := List.append_inj h (by simp)
  refine ⟨BitVec.eq_of_toNat_eq ?_, hr⟩
  have hbound : ∀ z : BitVec 16, z.toNat < 256 ^ 2 := fun z => z.isLt
  have hmod := congrArg BigEndian.toNat hxy
  rw [BigEndian.toNat_ofNat, BigEndian.toNat_ofNat] at hmod
  rwa [Nat.mod_eq_of_lt (hbound x), Nat.mod_eq_of_lt (hbound y)] at hmod

theorem Question.encode_append_inj {q q' : Question} {r r' : Bytes}
    (h : q.encode ++ r = q'.encode ++ r') : q = q' := by
  obtain ⟨qname, qtype, qclass⟩ := q
  obtain ⟨qname', qtype', qclass'⟩ := q'
  simp only [Question.encode, List.append_assoc] at h
  obtain ⟨rfl, htype⟩ := encodeName_append_inj h
  obtain ⟨rfl, hclass⟩ := ofNat_append_inj htype
  obtain ⟨rfl, -⟩ := ofNat_append_inj hclass
  rfl

theorem Message.length_header (m : Message) : m.header.length = 10 := by
  simp [header]

theorem Message.encode_inj {m m' : Message} (h : m.encode = m'.encode) :
    m.id = m'.id ∧ m.question = m'.question := by
  simp only [encode, List.append_assoc] at h
  obtain ⟨hid, hrest⟩ := ofNat_append_inj h
  obtain ⟨-, hquestion⟩ := List.append_inj hrest (by rw [length_header, length_header])
  exact ⟨hid, Question.encode_append_inj hquestion⟩

end Dns

end XnetZt
