import VendorCli.Number.Decimal
/-!
# IPv4 addresses

An address is a word of thirty-two bits. Its text is four decimal octets between points, and only
that: no sign, no leading zero, no octet above 255.
-/

namespace VendorCli

/-- An IPv4 address. -/
structure Ipv4 where
  /-- The address as one word, the first octet in the highest bits. -/
  bits : BitVec 32
deriving DecidableEq, Repr

namespace Ipv4

/-- The address with these four octets, the first one highest. -/
def ofOctets (a b c d : Nat) : Ipv4 :=
  ⟨BitVec.ofNat 32 (((a * 256 + b) * 256 + c) * 256 + d)⟩

/-- The octets from the highest down. -/
def octets (ip : Ipv4) : List Nat :=
  let n := ip.bits.toNat
  [n / 16777216 % 256, n / 65536 % 256, n / 256 % 256, n % 256]

/-- The dotted text of an address. -/
def toText (ip : Ipv4) : Text :=
  Text.join ['.'] (ip.octets.map Decimal.digitsOf)

/-- One octet: one to three digits, no superfluous zero in front, at most 255. -/
def octet? (t : Text) : Option Nat :=
  if t.length ≤ 3 ∧ (t.length = 1 ∨ t.head? ≠ some '0') ∧ t ≠ [] ∧ t.head? ≠ some '+' then
    Decimal.nat? Decimal.max8 t
  else none

/-- The address that a dotted text stands for. -/
def ofText? (t : Text) : Option Ipv4 :=
  match (Text.splitOn '.' t).map octet? with
  | [some a, some b, some c, some d] => some (ofOctets a b c d)
  | _ => none

/-- The address `255.255.255.255`. -/
def broadcast : Ipv4 := ⟨BitVec.allOnes 32⟩

/-- The address `0.0.0.0`. -/
def unspecified : Ipv4 := ⟨0⟩

end VendorCli.Ipv4
