import VendorCli.Text.Basic
/-!
# Decimal numbers in text

Reading and writing whole numbers. A reader takes the text as a whole: an optional plus sign (or,
where negative numbers are allowed, a minus sign), then ASCII digits and nothing else. Leading
zeros are allowed. The digits are taken from the left, so of two faults in one text the one that
shows first is reported: `99x` is too large for a limit of 9, `9x` has a bad digit.

* `digitsOf` writes a number; `readDigits` reads digits from the left.
* `readNat` and `readInt` read against a limit and say what is wrong.
-/

namespace VendorCli.Decimal

/-! ### Digits -/

/-- The digit that a character stands for. -/
def digit? (c : Char) : Option Nat :=
  if '0' ≤ c ∧ c ≤ '9' then some (c.toNat - 48) else none

/-- The character of a digit below ten. -/
def digitChar (d : Nat) : Char :=
  Char.ofNat (48 + d)

/-- The decimal digits of a number, without leading zeros. -/
def digitsOf (n : Nat) : Text :=
  if n < 10 then [digitChar n] else digitsOf (n / 10) ++ [digitChar (n % 10)]

theorem digitsOf_of_lt {n : Nat} (h : n < 10) : digitsOf n = [digitChar n] := by
  rw [digitsOf, if_pos h]

theorem digitsOf_of_ge {n : Nat} (h : 10 ≤ n) :
    digitsOf n = digitsOf (n / 10) ++ [digitChar (n % 10)] := by
  rw [digitsOf, if_neg (by omega)]

/-- A whole number, with a minus sign if it is negative. -/
def ofInt (i : Int) : Text :=
  if i < 0 then '-' :: digitsOf i.natAbs else digitsOf i.natAbs

/-! ### Reading -/

/-- What can be wrong with a number. -/
inductive Fault where
  | empty
  | invalidDigit
  | tooLarge
  | tooSmall
deriving DecidableEq, Repr

/-- The fault in words. -/
def Fault.message : Fault → Text
  | .empty => "cannot parse integer from empty string"
  | .invalidDigit => "invalid digit found in string"
  | .tooLarge => "number too large to fit in target type"
  | .tooSmall => "number too small to fit in target type"

/-- Digits read from the left onto `acc`, which may never pass `limit`. -/
def readDigits (limit : Nat) (excess : Fault) : Nat → Text → Except Fault Nat
  | acc, [] => .ok acc
  | acc, c :: rest =>
    match digit? c with
    | none => .error .invalidDigit
    | some d =>
      if 10 * acc + d ≤ limit then readDigits limit excess (10 * acc + d) rest
      else .error excess

/-- A natural number of at most `limit`. -/
def readNat (limit : Nat) : Text → Except Fault Nat
  | [] => .error .empty
  | ['+'] => .error .invalidDigit
  | '+' :: rest => readDigits limit .tooLarge 0 rest
  | t => readDigits limit .tooLarge 0 t

/-- A whole number between `-(limit + 1)` and `limit`. -/
def readInt (limit : Nat) : Text → Except Fault Int
  | [] => .error .empty
  | ['+'] => .error .invalidDigit
  | ['-'] => .error .invalidDigit
  | '+' :: rest => (readDigits limit .tooLarge 0 rest).map Int.ofNat
  | '-' :: rest => (readDigits (limit + 1) .tooSmall 0 rest).map fun n => -(n : Int)
  | t => (readDigits limit .tooLarge 0 t).map Int.ofNat

/-- The largest value of an unsigned word of eight bits. -/
def max8 : Nat := 255

/-- The largest value of an unsigned word of sixteen bits. -/
def max16 : Nat := 65535

/-- The largest value of an unsigned word of thirty-two bits. -/
def max32 : Nat := 4294967295

/-- The largest value of an unsigned word of sixty-four bits. -/
def max64 : Nat := 18446744073709551615

/-- The largest value of a signed word of sixty-four bits. -/
def maxSigned64 : Nat := 9223372036854775807

/-- The largest signed number of thirty-two bits. -/
def maxSigned32 : Nat := 2147483647

/-- The largest number of 128 bits. -/
def max128 : Nat := 340282366920938463463374607431768211455

/-- The largest signed number of 128 bits. -/
def maxSigned128 : Nat := 170141183460469231731687303715884105727

/-- Whether a whole number is at most `bound` and at least `-bound - 1`, as signed numbers of a
fixed width are. -/
def isSigned (bound : Nat) (i : Int) : Bool :=
  -(bound : Int) - 1 ≤ i && i ≤ bound

/-- A natural number of at most `limit`, without the reason for a failure. -/
def nat? (limit : Nat) (t : Text) : Option Nat :=
  (readNat limit t).toOption

/-- A signed word of sixty-four bits, without the reason for a failure. -/
def int64? (t : Text) : Option Int :=
  (readInt maxSigned64 t).toOption

end VendorCli.Decimal
