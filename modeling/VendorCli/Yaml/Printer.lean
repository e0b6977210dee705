import VendorCli.Json.Printer
import VendorCli.Yaml.Scalar
/-!
# Writing YAML

Structured values as block collections, indented by two spaces for each level. The items of a
sequence in a mapping stand in the column of the keys; a collection inside a sequence begins on the
line of its dash. Empty collections are written between brackets.

A text is written plain if it then reads back as itself (`Style.ofText`). Texts that look like
something else, and texts with marks in places where they mean something, stand between single
quotes; texts of several lines are blocks; what none of these can carry stands between double
quotes.
-/

namespace VendorCli.Yaml

/-! ### Styles -/

/-- A way to write a text. -/
inductive Style where
  | plain
  | singleQuoted
  | doubleQuoted
  | block
deriving DecidableEq, Repr

/-- Characters that can be written as they are. The byte order mark and the characters beyond the
first 65536 are not among them. -/
def isPrintable (x : Char) : Bool :=
  x = '\n' || (' ' ≤ x && x ≤ '~')
    || ('\u00a0' ≤ x && x ≤ '\ufffd' && x ≠ '\ufeff')

/-- Characters that mean something at the beginning of a text. -/
def isLeadMark (x : Char) : Bool :=
  x ∈ ['#', ',', '[', ']', '\x7b', '\x7d', '&', '*', '!', '|', '>', '\'', '"', '%', '@', '`']

/-- Whether a mark inside a text begins a comment or ends a key: a number sign behind white space,
or a colon before white space or the end. -/
def hasInnerMark : Option Char → Text → Bool
  | _, [] => false
  | previous, x :: rest =>
    (x = '#' && previous.any (endsToken ∘ some)) || (x = ':' && endsToken rest.head?)
      || hasInnerMark (some x) rest

/-- Whether marks keep a text from being plain. -/
def hasMark (t : Text) : Bool :=
  match t with
  | [] => false
  | x :: rest =>
    t.take 3 = ['-', '-', '-'] || t.take 3 = ['.', '.', '.'] || isLeadMark x
      || ((x = '?' || x = ':' || x = '-') && endsToken rest.head?)
      || hasInnerMark (some x) rest

/-- Whether a space stands right before or right after a line break, in this order. -/
def hasSpacedBreak (spaceFirst : Bool) : Text → Bool
  | x :: y :: rest =>
    (if spaceFirst then x = ' ' && isBreak y else isBreak x && y = ' ')
      || hasSpacedBreak spaceFirst (y :: rest)
  | _ => false

/-- Whether a text without line breaks reads back as itself if it is written plain. -/
def isSafePlain (t : Text) : Bool :=
  !(t.any isBreak) && t.head? ≠ some ' ' && t.getLast? ≠ some ' ' && !hasMark t

/-- Whether a plain text would be taken for something else: for nothing, a truth value or a number,
or for a number by people. -/
def isAmbiguous (t : Text) : Bool :=
  match Scalar.resolve t with
  | .text => Scalar.hasLeadingZero t
  | _ => true

/-- The style of a text. -/
def Style.ofText (t : Text) : Style :=
  -- Only double quotes have escapes, and only they keep blanks at the end of a line.
  let special := !(t.all isPrintable) || hasSpacedBreak true t
  if special then .doubleQuoted
  else if t.contains '\n' then
    if t.getLast? = some ' ' then .doubleQuoted else .block
  else if isAmbiguous t || !isSafePlain t then
    if hasSpacedBreak false t then .doubleQuoted else .singleQuoted
  else .plain

/-! ### Texts -/

/-- The letters of escapes. -/
def escapeLetters : List (Char × Char) :=
  [('\x00', '0'), ('\x07', 'a'), ('\x08', 'b'), ('\t', 't'), ('\n', 'n'), ('\x0b', 'v'),
   ('\x0c', 'f'), ('\r', 'r'), ('\x1b', 'e'), ('"', '"'), ('\\', '\\'), ('\u0085', 'N'),
   ('\u00a0', '_'), ('\u2028', 'L'), ('\u2029', 'P')]

/-- The last `width` digits of a number in base sixteen, in upper case. -/
def hexText : Nat → Nat → Text
  | 0, _ => []
  | width + 1, n => hexText width (n / 16) ++ [(Json.hexDigit (n % 16)).toUpper]

/-- A character between double quotes. -/
def escapedChar (x : Char) : Text :=
  if isPrintable x && !isBreak x && x ≠ '"' && x ≠ '\\' then [x]
  else match escapeLetters.lookup x with
    | some y => ['\\', y]
    | none =>
      if x.toNat ≤ 0xFF then '\\' :: 'x' :: hexText 2 x.toNat
      else if x.toNat ≤ 0xFFFF then '\\' :: 'u' :: hexText 4 x.toNat
      else '\\' :: 'U' :: hexText 8 x.toNat

/-- The marks of a block behind its opening character: the indentation if the block begins with
white space, and what becomes of the line breaks at its end. -/
def blockMarks (t : Text) : Text :=
  let width : Text := if t.head?.any fun x => x = ' ' || isBreak x then ['2'] else []
  let chomping : Text := match t.reverse with
    | [] => ['-']
    | x :: before =>
      if !isBreak x then ['-']
      else match before with
        | [] => ['+']
        | y :: _ => if isBreak y then ['+'] else []
  width ++ chomping

/-- The lines of a block; each but an empty one is indented. -/
def blockLines (indent : Nat) (t : Text) : Text :=
  let lines := Text.splitOn '\n' (if t.getLast? = some '\n' then t.dropLast else t)
  Text.join ['\n'] (lines.map fun l => if l = [] then [] else Text.spaces indent ++ l)

/-- A text in a style, with the lines of a block indented by `indent`. -/
def textIn (style : Style) (indent : Nat) (t : Text) : Text :=
  match style with
  | .plain => t
  | .singleQuoted => '\'' :: Text.replaceChar '\'' ['\'', '\''] t ++ ['\'']
  | .doubleQuoted => '"' :: t.flatMap escapedChar ++ ['"']
  | .block => '|' :: blockMarks t ++ '\n' :: blockLines indent t

/-- A number. -/
def numberText : Number → Text
  | .integer i => Decimal.ofInt i
  | .real bits => Real.scientificText bits

/-! ### Values -/

/-- Whether a key can stand on one line with its colon. -/
def isShortKey (t : Text) : Bool :=
  Text.byteLength t ≤ 128 && !t.any isBreak

/-- A key with its colon. A long key has a question mark before it and its colon on the next
line. -/
def keyText (indent : Nat) (name : Text) : Text :=
  let text := textIn (Style.ofText name) (indent + 2) name
  if isShortKey name then text ++ [':']
  else ['?', ' '] ++ text ++ '\n' :: Text.spaces indent ++ [':']

/-- A line break with indentation behind it. -/
def newLine (indent : Nat) : Text :=
  '\n' :: Text.spaces indent

mutual

/-- A value whose lines after the first are indented by `indent`. -/
def valueText (indent : Nat) : Json → Text
  | .null => "null"
  | .bool true => "true"
  | .bool false => "false"
  | .number n => numberText n
  | .string t => textIn (Style.ofText t) indent t
  | .array items => if items.isEmpty then ['[', ']'] else
      Text.join (newLine indent) (itemTexts indent items)
  | .object fields => if fields.isEmpty then ['\x7b', '\x7d'] else
      Text.join (newLine indent) (fieldTexts indent fields)

/-- The items of a sequence, each behind a dash. -/
def itemTexts (indent : Nat) : List Json → List Text
  | [] => []
  | item :: rest => ('-' :: ' ' :: valueText (indent + 2) item) :: itemTexts indent rest

/-- The fields of a mapping. -/
def fieldTexts (indent : Nat) : List (Text × Json) → List Text
  | [] => []
  | (name, value) :: rest =>
    let sameLine := ' ' :: valueText (indent + 2) value
    let text := match value with
      | .array (_ :: _) =>
        if isShortKey name then newLine indent ++ valueText indent value else sameLine
      | .object (_ :: _) =>
        if isShortKey name then newLine (indent + 2) ++ valueText (indent + 2) value else sameLine
      | _ => sameLine
    (keyText indent name ++ text) :: fieldTexts indent rest

end

/-- A structured value as a YAML text. -/
def print (v : Json) : Text :=
  let indent := match v with
    | .string _ => 2
    | _ => 0
  valueText indent v ++ ['\n']

end VendorCli.Yaml
