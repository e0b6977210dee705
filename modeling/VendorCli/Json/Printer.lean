import VendorCli.Json.Basic
/-!
# Writing structured values

Two forms of the same grammar: `compact` on one line without spaces, and `pretty`, one item a
line, indented by two spaces for each level (`prettyBy` takes any number of them). In both a string
escapes the quote, the backslash and the control characters below the space, and nothing else.

The printers take the fields of an object in the order given, so that a value assembled for output
keeps its own order.
-/

namespace VendorCli.Json

/-- A digit of base sixteen, in lower case. -/
def hexDigit (d : Nat) : Char :=
  if d < 10 then Char.ofNat (48 + d) else Char.ofNat (87 + d)

/-- A character as it stands inside a string. -/
def escapeChar (c : Char) : Text :=
  if c = '"' then ['\\', '"']
  else if c = '\\' then ['\\', '\\']
  else if c = '\n' then ['\\', 'n']
  else if c = '\r' then ['\\', 'r']
  else if c = '\t' then ['\\', 't']
  else if c.toNat = 8 then ['\\', 'b']
  else if c.toNat = 12 then ['\\', 'f']
  else if c.toNat < 32 then ['\\', 'u', '0', '0', hexDigit (c.toNat / 16), hexDigit (c.toNat % 16)]
  else [c]

/-- A string between quotes. -/
def quoted (t : Text) : Text :=
  '"' :: t.flatMap escapeChar ++ ['"']

/-- A number in its shortest form. -/
def numberText : Number → Text
  | .integer i => Decimal.ofInt i
  | .real bits => Real.scientificText bits

mutual

/-- The form on one line. -/
def compact : Json → Text
  | .null => "null"
  | .bool true => "true"
  | .bool false => "false"
  | .number n => numberText n
  | .string s => quoted s
  | .array items => '[' :: Text.join [','] (compactItems items) ++ [']']
  | .object fields => '\x7b' :: Text.join [','] (compactFields fields) ++ ['\x7d']

/-- The items of an array, each on one line. -/
def compactItems : List Json → List Text
  | [] => []
  | item :: rest => compact item :: compactItems rest

/-- The fields of an object, each on one line. -/
def compactFields : List (Text × Json) → List Text
  | [] => []
  | (name, value) :: rest => (quoted name ++ ':' :: compact value) :: compactFields rest

end

/-- Items between brackets, one a line, at the given depth, with so many spaces for each level. -/
private def bracketed (step depth : Nat) (opening closing : Char) (items : List Text) : Text :=
  match items with
  | [] => [opening, closing]
  | _ =>
    let margin := '\n' :: Text.spaces (step * (depth + 1))
    opening :: margin ++ Text.join (',' :: margin) items ++ '\n' :: Text.spaces (step * depth)
      ++ [closing]

mutual

/-- The form on several lines, inside `depth` levels of brackets. -/
def prettyAt (step depth : Nat) : Json → Text
  | .array items => bracketed step depth '[' ']' (prettyItems step (depth + 1) items)
  | .object fields => bracketed step depth '\x7b' '\x7d' (prettyFields step (depth + 1) fields)
  | .null => "null"
  | .bool true => "true"
  | .bool false => "false"
  | .number n => numberText n
  | .string s => quoted s

/-- The items of an array on several lines. -/
def prettyItems (step depth : Nat) : List Json → List Text
  | [] => []
  | item :: rest => prettyAt step depth item :: prettyItems step depth rest

/-- The fields of an object on several lines. -/
def prettyFields (step depth : Nat) : List (Text × Json) → List Text
  | [] => []
  | (name, value) :: rest =>
    (quoted name ++ ':' :: ' ' :: prettyAt step depth value) :: prettyFields step depth rest

end

/-- The form on several lines, with so many spaces for each level. -/
def prettyBy (step : Nat) (v : Json) : Text :=
  prettyAt step 0 v

/-- The form on several lines. -/
def pretty (v : Json) : Text :=
  prettyBy 2 v

end VendorCli.Json
