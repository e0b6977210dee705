import VendorCli.Json.Basic
/-!
# Plain scalars

A scalar written without quotes in a data file has the meaning that its text suggests: nothing,
a truth value, a whole number, a real number, or else itself. `resolve` makes that decision; the
writer of such files asks it too, to know which texts need quotes.

* Whole numbers are decimal, or have a mark `0x`, `0o` or `0b`; a decimal with a superfluous zero in
  front is a text.
* Real numbers are decimals with a point or an exponent, and the words for infinity and for an
  undefined number.
-/

namespace VendorCli.Scalar

/-- What a plain scalar means. -/
inductive Meaning where
  | null
  | bool (value : Bool)
  | integer (value : Int)
  | real (bits : UInt64)
  | text
deriving DecidableEq, Repr

/-- The digits of a number in base sixteen, eight or two, with no sign. -/
def basedNat? (base : Nat) (t : Text) : Option Nat :=
  if t = [] then none
  else t.foldl (fun acc c => do
    let n ← acc
    let d ← digitIn? c
    if d < base then some (base * n + d) else none) (some 0)
where
  digitIn? (c : Char) : Option Nat :=
    if '0' ≤ c ∧ c ≤ '9' then some (c.toNat - 48)
    else if 'a' ≤ c ∧ c ≤ 'f' then some (c.toNat - 87)
    else if 'A' ≤ c ∧ c ≤ 'F' then some (c.toNat - 55)
    else none

/-- The base that a mark in front of the digits announces, and the digits. -/
def based? (t : Text) : Option Nat :=
  match t with
  | '0' :: 'x' :: ds => basedNat? 16 ds
  | '0' :: 'o' :: ds => basedNat? 8 ds
  | '0' :: 'b' :: ds => basedNat? 2 ds
  | _ => none

/-- The text without one sign in front. -/
def unsigned (t : Text) : Text :=
  match t with
  | '-' :: ds => ds
  | '+' :: ds => ds
  | _ => t

/-- Digits with a superfluous zero in front, a sign aside. -/
def hasLeadingZero (t : Text) : Bool :=
  match unsigned t with
  | '0' :: d :: ds => (d :: ds).all Char.isDigit
  | _ => false

/-- A run of at least one decimal digit. -/
def decimalNat? (t : Text) : Option Nat :=
  basedNat? 10 t

/-- The whole number that a plain scalar stands for. -/
def integer? (t : Text) : Option Int :=
  match t with
  | '-' :: ds =>
    match based? ds with
    | some n => some (-(n : Int))
    | none => if hasLeadingZero t then none else (decimalNat? ds).map fun n => -(n : Int)
  | _ =>
    let ds := match t with
      | '+' :: more => more
      | _ => t
    match based? ds with
    | some n => some n
    | none => if hasLeadingZero t then none else (decimalNat? ds).map Int.ofNat

/-- The real number that a plain scalar stands for. -/
def real? (t : Text) : Option UInt64 :=
  let positive : Text := match t with
    | '+' :: more => more
    | _ => t
  if positive ∈ [(".inf" : Text), ".Inf", ".INF"] then some 0x7FF0000000000000
  else if t ∈ [("-.inf" : Text), "-.Inf", "-.INF"] then some 0xFFF0000000000000
  else if t ∈ [(".nan" : Text), ".NaN", ".NAN"] then some 0x7FF8000000000000
  else match t, positive with
    | '+' :: _, '+' :: _ => none
    | '+' :: _, '-' :: _ => none
    | _, _ => (Real.ofText? positive).filter Real.isFinite

/-- The meaning of a plain scalar. A number too long for a whole number of 128 bits is a real
one. -/
def resolve (t : Text) : Meaning :=
  if t.isEmpty || [("null" : Text), "Null", "NULL", "~"].contains t then .null
  else if [("true" : Text), "True", "TRUE"].contains t then .bool true
  else if [("false" : Text), "False", "FALSE"].contains t then .bool false
  else
    let whole := (integer? t).filter fun i =>
      Decimal.isSigned Decimal.maxSigned128 i || (0 ≤ i && i ≤ Decimal.max128)
    match whole with
    | some i => .integer i
    | none =>
      if hasLeadingZero t then .text
      else match real? t with
        | some bits => .real bits
        | none => .text

/-- Whether a whole number fits a word of sixty-four bits, with or without a sign. -/
def isWord (i : Int) : Bool :=
  Decimal.isSigned Decimal.maxSigned64 i || (0 ≤ i && i ≤ Decimal.max64)

end VendorCli.Scalar
