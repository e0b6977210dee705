import VendorCli.Ipv4.Address
/-!
# Network masks

A mask of prefix length `p` has exactly its first `p` bits set. `netmask?` and `wildcard?` give
the mask and its complement; `prefixLength?` reads a dotted mask back, and refuses any in which a
set bit follows a cleared one.

A word cannot be shifted by all its bits at once (`shiftLeft?`), so the mask without a set bit and
the one without a cleared bit need care.
-/

namespace VendorCli.Ipv4

/-- A word shifted to the left by fewer bits than it has. -/
def shiftLeft? (w : BitVec 32) (n : Nat) : Option (BitVec 32) :=
  if n < 32 then some (w <<< n) else none

/-- The word whose first `p` bits are set, for `p` up to thirty-two. -/
def maskBits (p : Nat) : BitVec 32 :=
  BitVec.allOnes 32 <<< (32 - p)

/-- The mask of a prefix length; there is none above thirty-two. -/
def netmask? (p : Nat) : Option Ipv4 :=
  if p = 0 then some unspecified
  else if p ≤ 32 then (shiftLeft? (BitVec.allOnes 32) (32 - p)).map Ipv4.mk
  else none

/-- The complement of the mask of a prefix length. -/
def wildcard? (p : Nat) : Option Ipv4 :=
  (netmask? p).map fun m => ⟨~~~m.bits⟩

/-- How many bits are set before the first cleared one. -/
def leadingOnes (w : BitVec 32) : Nat :=
  ((List.range 32).takeWhile fun i => w.getMsbD i).length

/-- The prefix length of a dotted mask with blanks around it at most; `none` unless the text is an
address whose set bits come before all others, so that nothing is left once they are shifted out. -/
def prefixLength? (t : Text) : Option Nat :=
  match ofText? (Text.trim t) with
  | none => none
  | some ip =>
    let ones := leadingOnes ip.bits
    if (shiftLeft? ip.bits ones).getD 0 = 0 then some ones else none

end VendorCli.Ipv4
