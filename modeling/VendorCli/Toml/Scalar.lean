import VendorCli.Document.Basic
/-!
# Scalars in TOML

Keys, strings, numbers and dates as TOML writes them. Each reader takes a text and gives what stands
at its front together with the rest, or nothing if that is malformed.

* `key?` reads a key: names with dots between them;
* `string?` reads a string of any of the four forms;
* `word?` reads a truth value, a number or a date, which are words without quotes.
-/

namespace VendorCli.Toml

/-! ### White space -/

/-- A blank within a line. -/
def isBlank (x : Char) : Bool :=
  x = ' ' || x = '\t'

/-- The text without the blanks in front. -/
def skipBlanks (t : Text) : Text :=
  t.dropWhile isBlank

/-- Characters that may stand in comments and on the lines of strings. -/
def isTextChar (x : Char) : Bool :=
  x = '\t' || (' ' ≤ x && x.toNat ≠ 127)

/-- The text behind a comment, if there is one in front. -/
def skipComment (t : Text) : Text :=
  if t.head? = some '#' then t.dropWhile isTextChar else t

/-- The text behind a line break. -/
def lineBreak? : Text → Option Text
  | '\n' :: rest => some rest
  | '\r' :: '\n' :: rest => some rest
  | _ => none

/-- The text behind blanks, comments and line breaks. -/
def skipLines : Nat → Text → Text
  | 0, t => t
  | steps + 1, t =>
    let t := skipComment (skipBlanks t)
    match lineBreak? t with
    | some rest => skipLines steps rest
    | none => t

/-- The text behind the end of a line: blanks, perhaps a comment, and a line break or the end. -/
def lineEnd? (t : Text) : Option Text :=
  let t := skipComment (skipBlanks t)
  if t = [] then some [] else lineBreak? t

/-! ### Strings -/

/-- The character of an escape behind its backslash, with the rest. -/
def escape? : Text → Option (Char × Text)
  | [] => none
  | x :: rest =>
    let hex (width : Nat) : Option (Char × Text) :=
      if rest.length < width then none
      else do
        let n ← Scalar.basedNat? 16 (rest.take width)
        if h : n.isValidChar then some (Char.ofNatAux n h, rest.drop width) else none
    match x with
    | 'b' => some ('\x08', rest)
    | 't' => some ('\t', rest)
    | 'n' => some ('\n', rest)
    | 'f' => some ('\x0c', rest)
    | 'r' => some ('\r', rest)
    | '"' => some ('"', rest)
    | '\\' => some ('\\', rest)
    | 'u' => hex 4
    | 'U' => hex 8
    | _ => none

/-- The rest of a string of one line, onto its characters so far, last one first. Only between
double quotes does a backslash begin an escape. -/
def lineString? (quote : Char) : Nat → Text → Text → Option (Text × Text)
  | 0, _, _ => none
  | _ + 1, _, [] => none
  | steps + 1, acc, x :: rest =>
    if x = quote then some (acc.reverse, rest)
    else if x = '\\' ∧ quote = '"' then do
      let (y, rest) ← escape? rest
      lineString? quote steps (y :: acc) rest
    else if isTextChar x then lineString? quote steps (x :: acc) rest
    else none

/-- The text behind a backslash at the end of a line: behind all white space, of which the first
part up to a line break is given. -/
def joinedLine? (t : Text) : Option Text :=
  match lineBreak? (skipBlanks t) with
  | some rest => some (rest.dropWhile fun x => isBlank x || x = '\n' || x = '\r')
  | none => none

/-- The rest of a string of several lines, onto its characters so far, last one first. It ends at
three quotes; one or two quotes right before them belong to it. -/
def linesString? (quote : Char) : Nat → Text → Text → Option (Text × Text)
  | 0, _, _ => none
  | _ + 1, _, [] => none
  | steps + 1, acc, x :: rest =>
    let quotes := ((x :: rest).takeWhile (· = quote)).length
    if 3 ≤ quotes then
      if 5 < quotes then none
      else some (acc.reverse ++ List.replicate (quotes - 3) quote, (x :: rest).drop quotes)
    else if x = '\\' ∧ quote = '"' then
      match joinedLine? rest with
      | some rest => linesString? quote steps acc rest
      | none => do
        let (y, rest) ← escape? rest
        linesString? quote steps (y :: acc) rest
    else match lineBreak? (x :: rest) with
      | some rest => linesString? quote steps ('\n' :: acc) rest
      | none => if isTextChar x then linesString? quote steps (x :: acc) rest else none

/-- A string of one line, at its quote. -/
def shortString? : Text → Option (Text × Text)
  | '"' :: rest => lineString? '"' (rest.length + 1) [] rest
  | '\'' :: rest => lineString? '\'' (rest.length + 1) [] rest
  | _ => none

/-- A string, at its quote. A line break right behind three quotes is no part of it. -/
def string? (t : Text) : Option (Text × Text) :=
  let opening := t.take 3
  if opening = ['"', '"', '"'] ∨ opening = ['\'', '\'', '\''] then
    let rest := t.drop 3
    let rest := (lineBreak? rest).getD rest
    linesString? (opening.headD '"') (rest.length + 1) [] rest
  else shortString? t

/-! ### Keys -/

/-- Characters of names without quotes. -/
def isNameChar (x : Char) : Bool :=
  x.isAlphanum || x = '_' || x = '-'

/-- A name, with or without quotes. -/
def name? (t : Text) : Option (Text × Text) :=
  if t.head? = some '"' ∨ t.head? = some '\'' then shortString? t
  else
    let name := t.takeWhile isNameChar
    if name = [] then none else some (name, t.drop name.length)

/-- A key: names with dots between them, and blanks around the dots. -/
def keySteps : Nat → Text → Option (List Text × Text)
  | 0, _ => none
  | steps + 1, t => do
    let (name, rest) ← name? (skipBlanks t)
    match skipBlanks rest with
    | '.' :: rest => do
      let (others, rest) ← keySteps steps rest
      return (name :: others, rest)
    | rest => return ([name], rest)

/-- A key, with the rest behind the blanks after it. -/
def key? (t : Text) : Option (List Text × Text) :=
  keySteps (t.length + 1) t

/-! ### Words -/

/-- The digits of a number without the underscores, each of which has to stand between two
digits. -/
def digits? (isDigit : Char → Bool) : Text → Option Text
  | [] => none
  | [x] => if isDigit x then some [x] else none
  | x :: '_' :: rest => if isDigit x then (digits? isDigit rest).map (x :: ·) else none
  | x :: rest => if isDigit x then (digits? isDigit rest).map (x :: ·) else none

/-- A number with a mark for its base. -/
def based? (t : Text) : Option Nat :=
  let read (base : Nat) (isDigit : Char → Bool) (ds : Text) : Option Nat :=
    (digits? isDigit ds).bind (Scalar.basedNat? base)
  match t with
  | '0' :: 'x' :: ds =>
    read 16 (fun x => x.isDigit || ('a' ≤ x && x ≤ 'f') || ('A' ≤ x && x ≤ 'F')) ds
  | '0' :: 'o' :: ds => read 8 (fun x => '0' ≤ x && x ≤ '7') ds
  | '0' :: 'b' :: ds => read 2 (fun x => x = '0' || x = '1') ds
  | _ => none

/-- The digits of a decimal, which has no superfluous zero in front. -/
def whole? (t : Text) : Option Text := do
  let ds ← digits? Char.isDigit t
  match ds with
  | '0' :: _ :: _ => none
  | _ => some ds

/-- A whole number. -/
def integer? (t : Text) : Option Int :=
  let value : Option Int :=
    match based? t with
    | some n => some n
    | none =>
      match t with
      | '-' :: ds => (whole? ds).bind fun ds => (Scalar.basedNat? 10 ds).map fun n => -(n : Int)
      | '+' :: ds => (whole? ds).bind fun ds => (Scalar.basedNat? 10 ds).map Int.ofNat
      | ds => (whole? ds).bind fun ds => (Scalar.basedNat? 10 ds).map Int.ofNat
  value.filter (Decimal.isSigned Decimal.maxSigned64)

/-- The written form of a real number without underscores: a decimal with a fraction, an exponent or
both. -/
def realText? (t : Text) : Option Text := do
  let sign : Text := if t.head? = some '-' then ['-'] else []
  let t := if t.head? = some '-' ∨ t.head? = some '+' then t.drop 1 else t
  let isMantissa (x : Char) : Bool := x ≠ 'e' && x ≠ 'E'
  let mantissa := t.takeWhile isMantissa
  let exponent ← match t.dropWhile isMantissa with
    | [] => some []
    | _ :: '-' :: ds => (digits? Char.isDigit ds).map fun ds => 'e' :: '-' :: ds
    | _ :: '+' :: ds => (digits? Char.isDigit ds).map ('e' :: ·)
    | _ :: ds => (digits? Char.isDigit ds).map ('e' :: ·)
  match Text.splitOnce? '.' mantissa with
  | some (whole, fraction) => do
    let whole ← whole? whole
    let fraction ← digits? Char.isDigit fraction
    return sign ++ whole ++ '.' :: fraction ++ exponent
  | none => do
    let whole ← whole? mantissa
    if exponent = [] then none else return sign ++ whole ++ exponent

/-- A real number. -/
def real? (t : Text) : Option UInt64 :=
  let unsigned := if t.head? = some '-' ∨ t.head? = some '+' then t.drop 1 else t
  if unsigned = ("inf" : Text) then
    some (if t.head? = some '-' then 0xFFF0000000000000 else 0x7FF0000000000000)
  else if unsigned = ("nan" : Text) then some 0x7FF8000000000000
  else (realText? t).bind fun t => (Real.ofText? t).filter Real.isFinite

/-! ### Dates -/

/-- A number of exactly so many digits at the front, with the rest. -/
def field? (width : Nat) (t : Text) : Option (Nat × Text) :=
  let ds := t.take width
  if ds.length = width ∧ ds.all Char.isDigit then
    (Scalar.basedNat? 10 ds).map (·, t.drop width)
  else none

/-- The number of days of a month. -/
def daysIn (year month : Nat) : Nat :=
  if month = 2 then
    if year % 4 = 0 ∧ (year % 100 ≠ 0 ∨ year % 400 = 0) then 29 else 28
  else if month ∈ [4, 6, 9, 11] then 30
  else 31

/-- The text behind a character. -/
def behind? (x : Char) (t : Text) : Option Text :=
  Text.dropLead? [x] t

/-- The text behind a date. -/
def afterDate? (t : Text) : Option Text := do
  let (year, t) ← field? 4 t
  let t ← behind? '-' t
  let (month, t) ← field? 2 t
  let t ← behind? '-' t
  let (day, t) ← field? 2 t
  if 1 ≤ month ∧ month ≤ 12 ∧ 1 ≤ day ∧ day ≤ daysIn year month then some t else none

/-- The text behind a time of day. -/
def afterTime? (t : Text) : Option Text := do
  let (hour, t) ← field? 2 t
  let t ← behind? ':' t
  let (minute, t) ← field? 2 t
  let t ← behind? ':' t
  let (second, t) ← field? 2 t
  if 23 < hour ∨ 59 < minute ∨ 60 < second then none
  else match t with
    | '.' :: rest =>
      let ds := rest.takeWhile Char.isDigit
      if ds = [] then none else some (rest.drop ds.length)
    | _ => some t

/-- Whether a text is the distance of a time zone. -/
def isZone (t : Text) : Bool :=
  match t with
  | [] => true
  | ['Z'] => true
  | ['z'] => true
  | x :: rest =>
    if x = '+' ∨ x = '-' then
      (do
        let (hour, t) ← field? 2 rest
        let t ← behind? ':' t
        let (minute, t) ← field? 2 t
        return hour ≤ 23 && minute ≤ 59 && t = []) = some true
    else false

/-- Whether a text is a date, a time of day, or both. -/
def isDate (t : Text) : Bool :=
  match afterDate? t with
  | some [] => true
  | some (x :: rest) =>
    if x = 'T' ∨ x = 't' ∨ x = ' ' then (afterTime? rest).any isZone else false
  | none => afterTime? t = some []

/-- The name of the only field of a date. -/
def dateField : Text := "$__toml_private_datetime"

/-- Characters of words. -/
def isWordChar (x : Char) : Bool :=
  x.isAlphanum || x ∈ ['+', '-', '_', '.', ':']

/-- The word at the front of a text. A blank between a date and a time of day is part of it. -/
def wordText (t : Text) : Text :=
  let word := t.takeWhile isWordChar
  match t.drop word.length with
  | ' ' :: x :: rest =>
    if (afterDate? word = some []) ∧ x.isDigit then
      word ++ ' ' :: (x :: rest).takeWhile isWordChar
    else word
  | _ => word

/-- A truth value, a number or a date at the front of a text, with the rest. -/
def word? (t : Text) : Option (Document × Text) :=
  let word := wordText t
  let rest := t.drop word.length
  if word = ("true" : Text) then some (.bool true, rest)
  else if word = ("false" : Text) then some (.bool false, rest)
  else match integer? word, real? word with
    | some i, _ => some (.number (.integer i), rest)
    | none, some bits => some (.number (.real bits), rest)
    | none, none =>
      if isDate word then some (.mapping [(dateField, .string word)], rest) else none

end VendorCli.Toml
