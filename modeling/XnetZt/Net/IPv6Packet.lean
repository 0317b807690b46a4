import XnetZt.Lib.OnesComplement
import XnetZt.Net.InetAddress

/-!
# IPv6 packets with an ICMPv6 message

The fields of an IPv6 header, and what makes a packet a neighbour solicitation that its
receiver accepts. The checksum of an ICMPv6 message covers a pseudo-header which is not
sent: the two addresses, the length of the message and the number of the protocol.
-/

namespace XnetZt

namespace IPv6

open OnesComplement BigEndian

section Fields

variable (p : Bytes)

def version : ℕ := (p.getD 0 0).toNat / 16

def payloadLength : ℕ := word16 p 4

def nextHeader : ℕ := (p.getD 6 0).toNat

def hopLimit : ℕ := (p.getD 7 0).toNat

def source : Bytes := p.slice 8 16

def destination : Bytes := p.slice 24 16

def payload : Bytes := p.drop 40

/-- Length and protocol are numbers of four bytes. -/
def pseudoHeader : Bytes :=
  source p ++ destination p ++ ofNat 4 (payload p).length ++ ofNat 4 (nextHeader p)

def ChecksumValid : Prop := Verifies (wordSum (pseudoHeader p ++ payload p))

end Fields

/-- An ICMPv6 message of type 135 and code 0 with four reserved bytes, the target, and one
option of eight bytes: the link-layer address of the sender. -/
def IsSolicitation (message target linkLayer : Bytes) : Prop :=
  ∃ checksum : Bytes, checksum.length = 2 ∧
    message = [135, 0] ++ checksum ++ Bytes.zeros 4 ++ target ++ [1, 1] ++ linkLayer

/-- A packet by which the owner of `src` and `linkLayer` asks for the link-layer address
of `dest`. -/
structure Solicits (p src dest linkLayer : Bytes) : Prop where
  version : version p = 6
  length : p.length = 40 + payloadLength p
  payloadLength : payloadLength p = 32
  nextHeader : nextHeader p = 58
  hopLimit : hopLimit p = 255
  source : source p = src
  destination : destination p = dest
  message : IsSolicitation (payload p) dest linkLayer
  checksum : ChecksumValid p

end IPv6

end XnetZt
