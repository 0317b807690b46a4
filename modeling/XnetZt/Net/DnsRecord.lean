import XnetZt.Net.DnsMessage

/-!
# DNS responses with their records

The name of a record is a sequence of labels that ends with a zero byte, or with a pointer
to a name that came before. A pointer takes two bytes and begins with two bits that no
length of a label has.
-/

namespace XnetZt.Dns

inductive NameEnd
  | root
  | pointer (offset : BitVec 14)
  deriving DecidableEq

def NameEnd.encode : NameEnd → Bytes
  | root => [0]
  | pointer offset => BigEndian.ofNat 2 (0xc000 + offset.toNat)

structure Name where
  labels : List Label
  ending : NameEnd
  deriving DecidableEq

def Name.encode (n : Name) : Bytes := n.labels.flatMap Label.encode ++ n.ending.encode

theorem Name.length_encode_pos (n : Name) : 0 < n.encode.length := by
  have hending : 0 < n.ending.encode.length := by
    cases n.ending <;> simp [NameEnd.encode]
  rw [Name.encode, List.length_append]
  omega

structure Record where
  name : Name
  rtype : BitVec 16
  rclass : BitVec 16
  ttl : BitVec 32
  rdata : Bytes
  short : rdata.length ≤ 65535
  deriving DecidableEq

namespace Record

variable (r : Record)

/-- What follows the TTL. -/
def data : Bytes := BigEndian.ofNat 2 r.rdata.length ++ r.rdata

/-- What follows the name. -/
def fields : Bytes :=
  BigEndian.ofNat 2 r.rtype.toNat ++ BigEndian.ofNat 2 r.rclass.toNat ++
    BigEndian.ofNat 4 r.ttl.toNat ++ r.data

def encode : Bytes := r.name.encode ++ r.fields

end Record

/-- A response with one question and at least one answer. -/
structure Response where
  id : BitVec 16
  flags : BitVec 16
  question : Question
  first : Record
  others : List Record
  authority : List Record
  additional : List Record
  few : others.length < 65535 ∧ authority.length < 65536 ∧ additional.length < 65536

namespace Response

variable (r : Response)

def answers : List Record := r.first :: r.others

/-- The records behind the first one. -/
def rest : Bytes := (r.others ++ r.authority ++ r.additional).flatMap Record.encode

def toMessage : Message where
  id := r.id
  flags := r.flags
  counts := BitVec.ofNat 48 (r.answers.length * 2 ^ 32 + r.authority.length * 2 ^ 16 +
    r.additional.length)
  question := r.question
  records := r.first.encode ++ r.rest

def encode : Bytes := r.toMessage.encode

/-- The TTLs of the answers. -/
def ttls : Set ℕ := {t | ∃ record ∈ r.answers, record.ttl.toNat = t}

theorem le_ttl_first {t : ℕ} (h : IsLeast r.ttls t) : t ≤ r.first.ttl.toNat :=
  h.2 ⟨r.first, List.mem_cons_self, rfl⟩

end Response

end XnetZt.Dns
