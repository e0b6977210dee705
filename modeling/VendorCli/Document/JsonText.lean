import VendorCli.Document.Basic
/-!
# Reading JSON

A reader for JSON text. White space is the space, the tab and the two line controls; a document is
one value with nothing but white space around it, at most 127 brackets deep. Fields keep their
order and their repetitions.

A whole number within sixty-four bits is exact. Any other number is real: its digits, as far as
they fit sixty-four bits, are rounded, and then scaled once by a power of ten.

The recursion is on a bound for the steps that is derived from the length of the text: every step
consumes a character.
-/

namespace VendorCli.JsonText

/-- White space between the tokens. -/
def isSpace (c : Char) : Bool :=
  c = ' ' || c = '\n' || c = '\t' || c = '\r'

/-- The text without white space in front. -/
def skip (t : Text) : Text :=
  t.dropWhile isSpace

/-! ### Strings -/

/-- The value of four hexadecimal digits at the front. -/
def hex4? : Text → Option (Nat × Text)
  | a :: b :: c :: d :: rest => (Scalar.basedNat? 16 [a, b, c, d]).map (·, rest)
  | _ => none

/-- The character of an escape after its backslash. Two escapes of surrogates in a row are one
character; a surrogate on its own is none. -/
def escape? : Text → Option (Char × Text)
  | '"' :: rest => some ('"', rest)
  | '\\' :: rest => some ('\\', rest)
  | '/' :: rest => some ('/', rest)
  | 'b' :: rest => some ('\x08', rest)
  | 'f' :: rest => some ('\x0c', rest)
  | 'n' :: rest => some ('\n', rest)
  | 'r' :: rest => some ('\r', rest)
  | 't' :: rest => some ('\t', rest)
  | 'u' :: rest => do
    let (n, rest) ← hex4? rest
    if 0xD800 ≤ n ∧ n < 0xDC00 then
      match rest with
      | '\\' :: 'u' :: more => do
        let (m, more) ← hex4? more
        if 0xDC00 ≤ m ∧ m < 0xE000 then
          some (Char.ofNat (0x10000 + (n - 0xD800) * 1024 + (m - 0xDC00)), more)
        else none
      | _ => none
    else if 0xDC00 ≤ n ∧ n < 0xE000 then none
    else some (Char.ofNat n, rest)
  | _ => none

/-- The rest of a string after its opening quote, onto the characters read so far, last one
first. -/
def string? : Nat → Text → Text → Option (Text × Text)
  | 0, _, _ => none
  | _ + 1, _, [] => none
  | steps + 1, acc, c :: rest =>
    if c = '"' then some (acc.reverse, rest)
    else if c = '\\' then do
      let (d, rest) ← escape? rest
      string? steps (d :: acc) rest
    else if c.toNat < 32 then none
    else string? steps (c :: acc) rest

/-! ### Numbers -/

/-- Digits onto a number as long as it stays within sixty-four bits; with the digits left over. -/
def takeWord : Nat → Text → Nat × Text
  | n, [] => (n, [])
  | n, c :: rest =>
    match Decimal.digit? c with
    | none => (n, c :: rest)
    | some d => if 10 * n + d ≤ Decimal.max64 then takeWord (10 * n + d) rest else (n, c :: rest)

/-- The exponent after its mark, and the rest. -/
def exponent? (t : Text) : Option (Bool × Nat × Text) :=
  let (down, t) : Bool × Text := match t with
    | '-' :: rest => (true, rest)
    | '+' :: rest => (false, rest)
    | _ => (false, t)
  let ds := t.takeWhile Char.isDigit
  match Decimal.nat? 2147483647 ds with
  | some n => some (down, n, t.dropWhile Char.isDigit)
  | none => if ds = [] then none else some (down, 2147483647, t.dropWhile Char.isDigit)

/-- A number without its sign, with the rest of the text. -/
def number? (negative : Bool) (t : Text) : Option (Number × Text) := do
  let whole := t.takeWhile Char.isDigit
  let t := t.dropWhile Char.isDigit
  match whole with
  | [] => none
  | '0' :: _ :: _ => none
  | _ =>
    let (n, excess) := takeWord 0 whole
    let (digits, places, t, hasPoint) ← match t with
      | '.' :: rest =>
        let fraction := rest.takeWhile Char.isDigit
        if fraction = [] then none
        else
          let (m, left) := if excess = [] then takeWord n fraction else (n, fraction)
          some (m, fraction.length - left.length, rest.dropWhile Char.isDigit, true)
      | _ => some (n, 0, t, false)
    let scale (power : Int) := Real.scaledOnce? negative digits (power + excess.length - places)
    let plain : Option (Number × Text) :=
      if hasPoint ∨ excess ≠ [] then (scale 0).map (.real ·, t)
      else if negative then
        if n = 0 ∨ Decimal.maxSigned64 + 1 < n then (scale 0).map (.real ·, t)
        else some (.integer (-(n : Int)), t)
      else some (.integer n, t)
    match t with
    | c :: rest =>
      if c = 'e' ∨ c = 'E' then do
        let (down, e, rest) ← exponent? rest
        let bits ← scale (if down then -(e : Int) else e)
        return (.real bits, rest)
      else plain
    | [] => plain

/-! ### Values -/

mutual

/-- A value at the front of a text, inside at most `depth` further brackets. -/
def value? : Nat → Nat → Text → Option (Document × Text)
  | 0, _, _ => none
  | steps + 1, depth, t =>
    match skip t with
    | 'n' :: 'u' :: 'l' :: 'l' :: rest => some (.null, rest)
    | 't' :: 'r' :: 'u' :: 'e' :: rest => some (.bool true, rest)
    | 'f' :: 'a' :: 'l' :: 's' :: 'e' :: rest => some (.bool false, rest)
    | '"' :: rest => (string? (rest.length + 1) [] rest).map fun r => (.string r.1, r.2)
    | '-' :: rest => (number? true rest).map fun r => (.number r.1, r.2)
    | '[' :: rest =>
      match depth with
      | 0 => none
      | depth + 1 =>
        match skip rest with
        | ']' :: rest => some (.sequence [], rest)
        | rest => (items? steps depth rest).map fun r => (.sequence r.1, r.2)
    | '\x7b' :: rest =>
      match depth with
      | 0 => none
      | depth + 1 =>
        match skip rest with
        | '\x7d' :: rest => some (.mapping [], rest)
        | rest => (fields? steps depth rest).map fun r => (.mapping r.1, r.2)
    | t => (number? false t).map fun r => (.number r.1, r.2)

/-- The items of an array, up to its closing bracket. -/
def items? : Nat → Nat → Text → Option (List Document × Text)
  | 0, _, _ => none
  | steps + 1, depth, t => do
    let (first, t) ← value? steps depth t
    match skip t with
    | ']' :: rest => some ([first], rest)
    | ',' :: rest => do
      let (others, rest) ← items? steps depth rest
      return (first :: others, rest)
    | _ => none

/-- The fields of an object, up to its closing brace. -/
def fields? : Nat → Nat → Text → Option (List (Text × Document) × Text)
  | 0, _, _ => none
  | steps + 1, depth, t =>
    match skip t with
    | '"' :: rest => do
      let (name, t) ← string? (rest.length + 1) [] rest
      match skip t with
      | ':' :: rest => do
        let (value, t) ← value? steps depth rest
        match skip t with
        | '\x7d' :: rest => some ([(name, value)], rest)
        | ',' :: rest => do
          let (others, rest) ← fields? steps depth rest
          return ((name, value) :: others, rest)
        | _ => none
      | _ => none
    | _ => none

end

end JsonText

/-- The document that a JSON text holds. -/
def Document.ofJsonText? (t : Text) : Option Document := do
  let (d, rest) ← JsonText.value? (2 * t.length + 2) 127 t
  if JsonText.skip rest = [] then some d else none

/-- The structured value that a JSON text holds. -/
def Json.ofText? (t : Text) : Option Json :=
  (Document.ofJsonText? t).bind Document.toJson?

end VendorCli
