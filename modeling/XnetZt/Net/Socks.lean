import XnetZt.Net.InetAddress

/-!
# Messages of SOCKS 5

The greeting of a client with the authentication methods it offers, its user name and
password, and its request. Requests and replies have the same form: the version, a command
or a reply code, a reserved byte, an address and a port.
-/

namespace XnetZt.Socks

/-- A byte string with its length in front. -/
def counted (bytes : Bytes) : Bytes := BitVec.ofNat 8 bytes.length :: bytes

def greeting (methods : Bytes) : Bytes := 5 :: counted methods

def credentials (version : Byte) (user pass : Bytes) : Bytes :=
  version :: (counted user ++ counted pass)

inductive Address
  | ipv4 (raw : BitVec 32)
  | domain (name : Bytes) (short : name.length ≤ 255)
  | ipv6 (raw : BitVec 128)

def Address.encode : Address → Bytes
  | ipv4 raw => 1 :: BigEndian.ofNat 4 raw.toNat
  | domain name _ => 3 :: counted name
  | ipv6 raw => 4 :: BigEndian.ofNat 16 raw.toNat

structure Message where
  code : Byte
  address : Address
  port : BitVec 16

def Message.encode (m : Message) : Bytes :=
  [5, m.code, 0] ++ m.address.encode ++ BigEndian.ofNat 2 m.port.toNat

theorem toNat_counted {bytes : Bytes} (h : bytes.length ≤ 255) :
    (BitVec.ofNat 8 bytes.length).toNat = bytes.length := by
  rw [BitVec.toNat_ofNat, Nat.mod_eq_of_lt (by omega)]

/-- The two bytes of a port. -/
theorem port_eq (port : BitVec 16) :
    ∃ hi lo : Byte, BigEndian.ofNat 2 port.toNat = [hi, lo] ∧
      256 * hi.toNat + lo.toNat = port.toNat := by
  have hport := port.isLt
  refine ⟨_, _, rfl, ?_⟩
  simp only [BitVec.toNat_ofNat]
  omega

theorem ofNat_port (port : ℕ) :
    BigEndian.ofNat 2 (BitVec.ofNat 16 port).toNat =
      [BitVec.ofNat 8 (port / 256), BitVec.ofNat 8 port] := by
  rw [BitVec.toNat_ofNat]
  exact (BigEndian.ofNat_mod 2 port 2 le_rfl).trans (by simp [BigEndian.ofNat])

end XnetZt.Socks
