import VendorCli.Number.Decimal
/-!
# Numbers with a fraction

A real number is kept as the sixty-four bits of its binary form. It is written with the fewest
digits that read back as the same number, the nearest such if there are two; all of it is exact
arithmetic on natural numbers, by taking the bits apart into `mantissa * 2 ^ exponent`.

* `shortestDigits` finds those digits and the power of ten of the first one;
* `scientificText` is the usual written form (positional up to `10 ^ 16`, an exponent beyond);
* `positionalText` never writes an exponent;
* `ofDecimal` reads a decimal exactly, `scaledOnce?` reads one the quick way, as a product or a
  quotient of two rounded numbers.
-/

namespace VendorCli.Real

/-! ### Taking the bits apart -/

/-- What the sign bit counts for: two to the power of sixty-three. -/
def signUnit : Nat := 0x8000000000000000

/-- What the last bit of the exponent counts for: two to the power of fifty-two. -/
def exponentUnit : Nat := 0x10000000000000

/-- Whether the sign bit is set. -/
def isNegative (bits : UInt64) : Bool :=
  bits.toNat / signUnit = 1

/-- The eleven bits of the exponent. -/
def exponentField (bits : UInt64) : Nat :=
  bits.toNat / exponentUnit % 2048

/-- The fifty-two bits of the fraction. -/
def fractionField (bits : UInt64) : Nat :=
  bits.toNat % exponentUnit

/-- Whether the bits stand for a number, neither infinite nor undefined. -/
def isFinite (bits : UInt64) : Bool :=
  exponentField bits < 2047

/-- Whether the bits stand for no number at all. -/
def isUndefined (bits : UInt64) : Bool :=
  exponentField bits = 2047 ∧ fractionField bits ≠ 0

/-- Whether the bits are zero of either sign. -/
def isZero (bits : UInt64) : Bool :=
  exponentField bits = 0 ∧ fractionField bits = 0

/-- The integer mantissa `m` and exponent `q` with value `m * 2 ^ q`. -/
def mantissa (bits : UInt64) : Nat × Int :=
  if exponentField bits = 0 then (fractionField bits, -1074)
  else (exponentUnit + fractionField bits, (exponentField bits : Int) - 1075)

/-- The whole number that the bits stand for, if it is one. -/
def toInt? (bits : UInt64) : Option Int :=
  if isFinite bits then
    let (m, q) := mantissa bits
    let size : Option Nat :=
      if 0 ≤ q then some (m * Nat.pow 2 q.toNat)
      else if m % Nat.pow 2 (-q).toNat = 0 then some (m / Nat.pow 2 (-q).toNat) else none
    size.map fun n => if isNegative bits then -(n : Int) else (n : Int)
  else none

/-- The bits of a machine number. -/
def ofFloat (x : Float) : UInt64 := x.toBits

/-- The machine number of the bits. -/
def toFloat (bits : UInt64) : Float := Float.ofBits bits

/-! ### Fewest digits -/

/-- A positive rational number and the interval of rationals that round to the same binary number,
over one denominator. The ends belong to the interval if `closed`. -/
private structure Rounding where
  value : Nat
  low : Nat
  high : Nat
  denominator : Nat
  closed : Bool

private def roundingOf (bits : UInt64) : Rounding :=
  let (m, q) := mantissa bits
  -- The neighbour below is half as far away at a power of two, except among the smallest numbers.
  let narrow := fractionField bits = 0 ∧ 1 < exponentField bits
  let up := Nat.pow 2 q.toNat
  { value := 4 * m * up
    low := (4 * m - if narrow then 1 else 2) * up
    high := (4 * m + 2) * up
    denominator := 4 * Nat.pow 2 (-q).toNat
    closed := m % 2 = 0 }

/-- The least `k ≤ fuel` with `den ≤ num * 10 ^ k`. -/
private def firstScale (num den : Nat) : Nat → Nat
  | 0 => 0
  | fuel + 1 => if den ≤ num then 0 else firstScale (num * 10) den fuel + 1

/-- The power of ten of the first digit of `num / den`. -/
private def leadingPower (num den : Nat) : Int :=
  if den ≤ num then (Decimal.digitsOf (num / den)).length - 1
  else -(firstScale num den 400 : Int)

/-- Whether `d * 10 ^ unit` lies in the interval. -/
private def Rounding.holds (r : Rounding) (d : Nat) (unit : Int) : Bool :=
  let x := d * Nat.pow 10 unit.toNat * r.denominator
  let s := Nat.pow 10 (-unit).toNat
  if r.closed then r.low * s ≤ x && x ≤ r.high * s else r.low * s < x && x < r.high * s

/-- The nearer of the two neighbours of the value on the grid of `10 ^ unit`, if it lies in the
interval, else the other one if that does. -/
private def Rounding.neighbour? (r : Rounding) (unit : Int) : Option Nat :=
  let num := r.value * Nat.pow 10 (-unit).toNat
  let den := r.denominator * Nat.pow 10 unit.toNat
  let below := num / den
  let rest := num % den
  -- Half way between two neighbours the even one is tried first.
  let belowFirst := 2 * rest < den || (2 * rest = den && below % 2 = 0)
  let (a, b) := if belowFirst then (below, below + 1) else (below + 1, below)
  if r.holds a unit then some a else if r.holds b unit then some b else none

private def Rounding.search (r : Rounding) (top : Int) : Nat → Nat → Nat × Int
  | 0, count => (0, top - count)
  | fuel + 1, count =>
    let unit := top - count
    match r.neighbour? unit with
    | some d => (d, unit)
    | none => r.search top fuel (count + 1)

private def stripZeros : Nat → Nat → Int → Nat × Int
  | 0, d, unit => (d, unit)
  | fuel + 1, d, unit =>
    if d % 10 = 0 ∧ d ≠ 0 then stripZeros fuel (d / 10) (unit + 1) else (d, unit)

/-- The digits of a positive number without trailing zeros, and the power of ten of the last one. -/
def shortestDigits (bits : UInt64) : Nat × Int :=
  let r := roundingOf bits
  let (d, unit) := r.search (leadingPower r.value r.denominator) 18 0
  stripZeros 20 d unit

/-! ### Written forms -/

private def zeros (n : Nat) : Text := List.replicate n '0'

private def signText (bits : UInt64) : Text := if isNegative bits then ['-'] else []

/-- Digits with the point placed so that the last one has the power `unit`; at least one digit on
either side of the point. -/
private def positional (digits : Text) (unit : Int) : Text :=
  let point := (digits.length : Int) + unit
  if 0 ≤ unit then digits ++ zeros unit.toNat ++ ".0"
  else if 0 < point then digits.take point.toNat ++ '.' :: digits.drop point.toNat
  else "0." ++ zeros (-point).toNat ++ digits

/-- The usual form of a finite number: positional while the first digit stands for a power of ten
between `10 ^ -5` and `10 ^ 15`, else one digit before the point and an exponent. -/
def scientificText (bits : UInt64) : Text :=
  if isZero bits then signText bits ++ "0.0"
  else
    let (d, unit) := shortestDigits bits
    let digits := Decimal.digitsOf d
    let point := (digits.length : Int) + unit
    let size : Text :=
      if -5 < point ∧ point ≤ 16 then positional digits unit
      else
        let mantissaText := match digits with
          | [only] => [only]
          | first :: others => first :: '.' :: others
          | [] => []
        mantissaText ++ 'e' :: Decimal.ofInt (point - 1)
    signText bits ++ size

/-- The form that never has an exponent, and always a point. -/
def positionalText (bits : UInt64) : Text :=
  if isZero bits then signText bits ++ "0.0"
  else
    let (d, unit) := shortestDigits bits
    signText bits ++ positional (Decimal.digitsOf d) unit

/-! ### Reading -/

/-- The number nearest to `digits * 10 ^ power`. -/
def ofDecimal (negative : Bool) (digits : Nat) (power : Int) : UInt64 :=
  let size :=
    -- Beyond this power even one digit is infinite; the bound keeps the arithmetic small.
    if digits = 0 then 0
    else if 400 < power then Float.ofBits 0x7FF0000000000000
    else Float.ofScientific digits (power < 0) power.natAbs
  ofFloat (if negative then -size else size)

private def powerOfTen (n : Nat) : Float := Float.ofScientific 1 false n

/-- The number `digits * 10 ^ power` got by rounding the digits first and then multiplying or
dividing once by a rounded power of ten, in steps of `10 ^ 308` for very small numbers; `none` if
that is infinite. -/
def scaledOnce? (negative : Bool) (digits : Nat) (power : Int) : Option UInt64 :=
  let start := Float.ofNat digits
  let size : Float :=
    if 308 < power then (if digits = 0 then 0 else Float.ofBits 0x7FF0000000000000)
    else if 0 ≤ power then start * powerOfTen power.toNat
    else if -308 ≤ power then start / powerOfTen power.natAbs
    else if -616 ≤ power then start / powerOfTen 308 / powerOfTen (power.natAbs - 308)
    else 0
  if size.isInf then none else some (ofFloat (if negative then -size else size))

/-- A run of decimal digits as a number, with its length. -/
private def digitRun (t : Text) : Nat × Nat × Text :=
  let ds := t.takeWhile Char.isDigit
  (ds.foldl (fun n c => 10 * n + (c.toNat - 48)) 0, ds.length, t.dropWhile Char.isDigit)

/-- A decimal with an optional sign, point and exponent, as the nearest number. At least one digit
has to stand before or after the point, and the exponent needs one if its mark is there. -/
def ofText? (t : Text) : Option UInt64 :=
  let (negative, t) : Bool × Text := match t with
    | '-' :: rest => (true, rest)
    | '+' :: rest => (false, rest)
    | _ => (false, t)
  let (whole, wholeLength, t) := digitRun t
  let (fraction, fractionLength, t) : Nat × Nat × Text := match t with
    | '.' :: rest => digitRun rest
    | _ => (0, 0, t)
  if wholeLength + fractionLength = 0 then none
  else
    let digits := whole * Nat.pow 10 fractionLength + fraction
    let finish (power : Int) := some (ofDecimal negative digits (power - fractionLength))
    match t with
    | [] => finish 0
    | mark :: rest =>
      if mark = 'e' ∨ mark = 'E' then
        let (down, rest) : Bool × Text := match rest with
          | '-' :: more => (true, more)
          | '+' :: more => (false, more)
          | _ => (false, rest)
        match digitRun rest with
        | (n, length, []) =>
          if length = 0 then none
          else if length > 6 then
            -- No number that can be told from zero or infinity has so long an exponent.
            some (ofDecimal negative (if down then 0 else digits) (if down then 0 else 401))
          else finish (if down then -(n : Int) else n)
        | _ => none
      else none

end VendorCli.Real
