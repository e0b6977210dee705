import VendorCli.Number.Real
/-!
# Tokens of templates

A template is text with tags in it: `{{ value }}`, `{% statement %}` and `{# comment #}`. Reading it
into tokens settles the white space.

* One line break after a statement or a comment is dropped, and so are the blanks before one that
  stands first in its line.
* `-` at either side of a tag drops all blanks there, `+` keeps them all.
* One line break at the very end of the template is dropped.
* Between `{% raw %}` and `{% endraw %}` there are no tags.

A fault in the text becomes a token of its own, so that whoever takes the tokens one by one meets
the faults of a template in their order.
-/

namespace VendorCli.Template

/-- What can be wrong with the text of a template. -/
inductive ReadFault where
  /-- It does not follow the grammar. -/
  | grammar
  /-- A text literal has an unknown escape. -/
  | escape
deriving DecidableEq, Repr

/-- Punctuation and operators. -/
inductive Symbol where
  | plus
  | minus
  | star
  | slash
  | floorSlash
  | percent
  | power
  | dot
  | comma
  | colon
  | tilde
  | pipe
  | assign
  | bang
  | equal
  | notEqual
  | less
  | lessEqual
  | greater
  | greaterEqual
  | parenOpen
  | parenClose
  | bracketOpen
  | bracketClose
  | braceOpen
  | braceClose
deriving DecidableEq, Repr

/-- A token. -/
inductive Token where
  /-- Text outside of tags. -/
  | data (t : Text)
  | valueStart
  | valueEnd
  | statementStart
  | statementEnd
  | name (t : Text)
  | literal (t : Text)
  | integer (n : Nat)
  | real (bits : UInt64)
  | symbol (s : Symbol)
  | fault (f : ReadFault)
deriving DecidableEq, Repr

namespace Token

/-! ### White space around tags -/

/-- The kinds of tags. -/
inductive Tag where
  | value
  | statement
  | comment
deriving DecidableEq, Repr

/-- What a tag says about the blanks beside it. -/
inductive Blanks where
  | usual
  | drop
  | keep
deriving DecidableEq, Repr

/-- What a sign next to the bracket of a tag says. -/
def Blanks.ofChar? : Char → Option Blanks
  | '-' => some .drop
  | '+' => some .keep
  | _ => none

/-- The sign at the start of a tag, and what follows. -/
def leadSign : Text → Blanks × Text
  | [] => (.usual, [])
  | c :: rest =>
    match Blanks.ofChar? c with
    | some b => (b, rest)
    | none => (.usual, c :: rest)

/-- The text up to the first tag, and the tag with what follows it. -/
def untilTag : Text → Text × Option (Tag × Text)
  | [] => ([], none)
  | '\x7b' :: '\x7b' :: rest => ([], some (.value, rest))
  | '\x7b' :: '%' :: rest => ([], some (.statement, rest))
  | '\x7b' :: '#' :: rest => ([], some (.comment, rest))
  | c :: rest =>
    let (lead, tag) := untilTag rest
    (c :: lead, tag)

/-- Whether a character ends a line. -/
def isBreak (c : Char) : Bool :=
  c = '\n' ∨ c = '\r'

/-- Whether only blanks stand between the start of a line and the end of a text, if that holds of
what comes before the text. -/
def opensLine (before : Bool) (t : Text) : Bool :=
  t.foldl (fun opens c => if isBreak c then true else Text.isBlank c && opens) before

/-- The text without the blanks at its end that belong to its last line. -/
def dropLastIndent (t : Text) : Text :=
  (t.reverse.dropWhile fun c => Text.isBlank c && !isBreak c).reverse

/-- The text before a tag without the blanks that go with the tag. -/
def beforeTag (tag : Tag) (blanks : Blanks) (opens : Bool) (lead : Text) : Text :=
  match blanks, tag with
  | .drop, _ => Text.trimEnd lead
  | .keep, _ => lead
  | .usual, .value => lead
  | .usual, _ => if opensLine opens lead then dropLastIndent lead else lead

/-- What follows a line break at the start of a text, and whether there is one. -/
def afterBreak : Text → Bool × Text
  | '\r' :: '\n' :: rest => (true, rest)
  | '\r' :: rest => (true, rest)
  | '\n' :: rest => (true, rest)
  | rest => (false, rest)

/-- What follows the closing bracket of a statement or a comment: whether a line starts there, and
the text. -/
def afterTag (blanks : Blanks) (rest : Text) : Bool × Text :=
  match blanks with
  | .usual => afterBreak rest
  | .keep => (false, rest)
  | .drop =>
    let blank := rest.takeWhile Text.isBlank
    (opensLine false blank, rest.dropWhile Text.isBlank)

/-- Text outside of tags as a token, unless it is empty. -/
def ofData (t : Text) : List Token :=
  if t.isEmpty then [] else [data t]

/-! ### Comments and raw text -/

/-- The inside of a comment, and what follows the comment. -/
def untilCommentEnd : Text → Option (Text × Text)
  | [] => none
  | '#' :: '\x7d' :: rest => some ([], rest)
  | c :: rest => (untilCommentEnd rest).map fun s => (c :: s.1, s.2)

/-- Blanks of ASCII, the ones that may stand inside a tag. -/
def isInnerBlank (c : Char) : Bool :=
  c = ' ' ∨ c = '\t' ∨ c = '\n' ∨ c = '\r' ∨ c = '\x0c'

/-- What follows the rest of a statement tag that says only `word`, and the sign at its end. -/
def bareTag? (word t : Text) : Option (Blanks × Text) := do
  let t ← Text.dropLead? word (t.dropWhile isInnerBlank)
  let (blanks, t) := leadSign (t.dropWhile isInnerBlank)
  let t ← Text.dropLead? ['%', '\x7d'] t
  return (blanks, t)

/-- Raw text up to the tag that ends it, the sign at the start of that tag, the sign at its end, and
what follows. -/
def untilRawEnd : Text → Option (Text × Blanks × Blanks × Text)
  | [] => none
  | '\x7b' :: '%' :: rest =>
    let (start, inner) := leadSign rest
    match bareTag? "endraw" inner with
    | some (stop, rest) => some ([], start, stop, rest)
    | none => (untilRawEnd ('%' :: rest)).map fun s => ('\x7b' :: s.1, s.2)
  | c :: rest => (untilRawEnd rest).map fun s => (c :: s.1, s.2)
termination_by structural t => t

/-! ### Inside of tags -/

/-- An operator of two characters at the start of a text. -/
def symbol2? : Char → Char → Option Symbol
  | '/', '/' => some .floorSlash
  | '*', '*' => some .power
  | '=', '=' => some .equal
  | '!', '=' => some .notEqual
  | '>', '=' => some .greaterEqual
  | '<', '=' => some .lessEqual
  | _, _ => none

/-- An operator of one character. -/
def symbol1? : Char → Option Symbol
  | '+' => some .plus
  | '-' => some .minus
  | '*' => some .star
  | '/' => some .slash
  | '%' => some .percent
  | '!' => some .bang
  | '.' => some .dot
  | ',' => some .comma
  | ':' => some .colon
  | '~' => some .tilde
  | '|' => some .pipe
  | '=' => some .assign
  | '>' => some .greater
  | '<' => some .less
  | '(' => some .parenOpen
  | ')' => some .parenClose
  | '[' => some .bracketOpen
  | ']' => some .bracketClose
  | '\x7b' => some .braceOpen
  | '\x7d' => some .braceClose
  | _ => none

/-- An operator at the start of a text. -/
def operator? : Text → Option (Symbol × Text)
  | [] => none
  | [c] => (symbol1? c).map fun s => (s, [])
  | c :: d :: rest =>
    match symbol2? c d with
    | some s => some (s, rest)
    | none => (symbol1? c).map fun s => (s, d :: rest)

/-- The inside of a text literal, still with its escapes, and what follows the literal. -/
def untilQuote (quote : Char) : Text → Option (Text × Text)
  | [] => none
  | '\\' :: c :: rest => (untilQuote quote rest).map fun s => ('\\' :: c :: s.1, s.2)
  | c :: rest =>
    if c = quote then some ([], rest)
    else if c = '\\' then none
    else (untilQuote quote rest).map fun s => (c :: s.1, s.2)

/-- The value of a digit in a base of at most sixteen. -/
def digitIn? (base : Nat) (c : Char) : Option Nat :=
  let d : Option Nat :=
    if '0' ≤ c ∧ c ≤ '9' then some (c.toNat - 48)
    else if 'a' ≤ c ∧ c ≤ 'f' then some (c.toNat - 87)
    else if 'A' ≤ c ∧ c ≤ 'F' then some (c.toNat - 55)
    else none
  d.filter (· < base)

/-- The number of some digits in a base. -/
def numberIn? (base : Nat) : Nat → Text → Option Nat
  | n, [] => some n
  | n, c :: rest => (digitIn? base c).bind fun d => numberIn? base (base * n + d) rest

/-- The characters that a list of units of sixteen bits stands for, where two units of a pair make
one character. -/
def ofUnits : List Nat → Option Text
  | [] => some []
  | u :: rest =>
    if 0xD800 ≤ u ∧ u < 0xDC00 then
      match rest with
      | v :: rest =>
        if 0xDC00 ≤ v ∧ v < 0xE000 then
          (ofUnits rest).map (Char.ofNat (0x10000 + (u - 0xD800) * 1024 + (v - 0xDC00)) :: ·)
        else none
      | [] => none
    else if 0xDC00 ≤ u ∧ u < 0xE000 then none
    else (ofUnits rest).map (Char.ofNat u :: ·)

/-- A text literal with its escapes resolved, as units: a character below `0x10000` is one. -/
def unitsOf : Nat → Text → Option (List Nat)
  | 0, _ => none
  | _, [] => some []
  | steps + 1, '\\' :: 'u' :: a :: b :: c :: d :: rest => do
    let n ← numberIn? 16 0 [a, b, c, d]
    return n :: (← unitsOf steps rest)
  | steps + 1, '\\' :: 'x' :: a :: b :: rest => do
    let n ← numberIn? 16 0 [a, b]
    return n :: (← unitsOf steps rest)
  | steps + 1, '\\' :: c :: rest =>
    let plain (d : Char) : Option (List Nat) := (unitsOf steps rest).map (d.toNat :: ·)
    match c with
    | '"' => plain '"'
    | '\'' => plain '\''
    | '\\' => plain '\\'
    | '/' => plain '/'
    | 'b' => plain '\x08'
    | 'f' => plain '\x0c'
    | 'n' => plain '\n'
    | 'r' => plain '\r'
    | 't' => plain '\t'
    | _ =>
      -- Up to three digits of base eight.
      let run := (c :: rest).take 3 |>.takeWhile fun d => (digitIn? 8 d).isSome
      match run with
      | [] => none
      | _ => do
        let n ← numberIn? 8 0 run
        if n < 256 then return n :: (← unitsOf steps ((c :: rest).drop run.length)) else none
  | steps + 1, c :: rest =>
    if c = '\\' then none
    else
      let units :=
        if c.toNat < 0x10000 then [c.toNat]
        else [0xD800 + (c.toNat - 0x10000) / 1024, 0xDC00 + (c.toNat - 0x10000) % 1024]
      (unitsOf steps rest).map (units ++ ·)

/-- The text that a literal stands for. -/
def unescape (t : Text) : Token :=
  if '\\' ∈ t then
    match (unitsOf (t.length + 1) t).bind ofUnits with
    | some s => literal s
    | none => fault .escape
  else literal t

/-- The largest whole number that can be written down. -/
def maxInteger : Nat := Decimal.max128

/-- A number in a base other than ten, after its mark. -/
def basedNumber (base : Nat) (t : Text) : Token × Text :=
  let run := t.takeWhile fun c => (digitIn? base c).isSome || c = '_' || c.isDigit
  let rest := t.drop run.length
  if run.getLast? = some '_' then (fault .grammar, rest)
  else match numberIn? base 0 (run.filter (· ≠ '_')) with
    | some n => if run.isEmpty ∨ maxInteger < n then (fault .grammar, rest) else (integer n, rest)
    | none => (fault .grammar, rest)

/-- What has been read of a decimal number. -/
inductive NumberPart where
  | whole
  | fraction
  | exponent
  | signedExponent
deriving DecidableEq, Repr

/-- The part of a number that a further character belongs to, if it belongs to the number. -/
def NumberPart.next? (part : NumberPart) (c : Char) : Option NumberPart :=
  if c = '.' then (if part = .whole then some .fraction else none)
  else if c = 'e' ∨ c = 'E' then
    (if part = .whole ∨ part = .fraction then some .exponent else none)
  else if c = '+' ∨ c = '-' then (if part = .exponent then some .signedExponent else none)
  else if c.isDigit then (if part = .exponent then some .signedExponent else some part)
  else if c = '_' then some part
  else none

/-- The characters of a decimal number, the part that it ends in, and what follows. -/
def decimalRun : NumberPart → Text → Text × NumberPart × Text
  | part, [] => ([], part, [])
  | part, c :: rest =>
    match part.next? c with
    | none => ([], part, c :: rest)
    | some next =>
      let (run, last, rest) := decimalRun next rest
      (c :: run, last, rest)

/-- A decimal number. -/
def decimalNumber (t : Text) : Token × Text :=
  let (run, last, rest) := decimalRun .whole t
  let digits := run.filter (· ≠ '_')
  if run.getLast? = some '_' then (fault .grammar, rest)
  else if last = .whole then
    match Decimal.nat? maxInteger digits with
    | some n => (integer n, rest)
    | none => (fault .grammar, rest)
  else match Real.ofText? digits with
    | some bits => (real bits, rest)
    | none => (fault .grammar, rest)

/-- A number at the start of a text. -/
def number (t : Text) : Token × Text :=
  match t with
  | '0' :: 'b' :: rest => basedNumber 2 rest
  | '0' :: 'B' :: rest => basedNumber 2 rest
  | '0' :: 'o' :: rest => basedNumber 8 rest
  | '0' :: 'O' :: rest => basedNumber 8 rest
  | '0' :: 'x' :: rest => basedNumber 16 rest
  | '0' :: 'X' :: rest => basedNumber 16 rest
  | _ => decimalNumber t

/-- Whether a character can be the first of a name. -/
def startsName (c : Char) : Bool :=
  c.isAlpha || c = '_'

/-- Whether a character can be in a name. -/
def inName (c : Char) : Bool :=
  c.isAlphanum || c = '_'

/-- The token at the start of a text that is not blank, and what follows it. A faulty one has
nothing after it. -/
def next (t : Text) : Token × Text :=
  match operator? t with
  | some (s, rest) => (symbol s, rest)
  | none =>
    match t with
    | [] => (fault .grammar, [])
    | c :: rest =>
      if c = '\'' ∨ c = '"' then
        match untilQuote c rest with
        | some (inner, rest) => (unescape inner, rest)
        | none => (fault .grammar, [])
      else if c.isDigit then number (c :: rest)
      else if startsName c then (name ((c :: rest).takeWhile inName), rest.dropWhile inName)
      else (fault .grammar, [])

/-- The end of a tag at the start of a text: the sign before the bracket, and what follows. -/
def tagEnd? (tag : Tag) (t : Text) : Option (Blanks × Text) :=
  let (blanks, rest) := leadSign t
  let bracket : Text := if tag = .value then ['\x7d', '\x7d'] else ['%', '\x7d']
  (Text.dropLead? bracket rest).map fun rest => (blanks, rest)

/-! ### The whole text -/

/-- Where the reading of a template stands. -/
inductive Place where
  /-- Outside of tags, and whether only blanks precede in the line. -/
  | outside (opens : Bool)
  | inside (tag : Tag)

/-- The place after a tag, and the text there. After a value only the sign `-` drops anything. -/
def leave (tag : Tag) (blanks : Blanks) (rest : Text) : Place × Text :=
  match tag, blanks with
  | .value, .usual => (.outside false, rest)
  | .value, .keep => (.outside false, rest)
  | _, .keep => (.outside false, rest)
  | _, _ =>
    let (opens, rest) := afterTag blanks rest
    (.outside opens, rest)

/-- The tokens of a text from a place on. -/
def readFrom : Nat → Place → Text → List Token
  | 0, _, _ => [fault .grammar]
  | _, _, [] => []
  | steps + 1, .outside opens, t =>
    let (lead, found) := untilTag t
    match found with
    | none => ofData lead
    | some (tag, rest) =>
      let (blanks, rest) := leadSign rest
      let lead := ofData (beforeTag tag blanks opens lead)
      match tag with
      | .value => lead ++ valueStart :: readFrom steps (.inside .value) rest
      | .comment =>
        -- The sign at the end of a comment is the last character inside of it.
        match untilCommentEnd rest with
        | none => lead ++ [fault .grammar]
        | some (inner, rest) =>
          let stop := (inner.getLast?.bind Blanks.ofChar?).getD .usual
          let (opens, rest) := afterTag stop rest
          lead ++ readFrom steps (.outside opens) rest
      | .statement =>
        match bareTag? "raw" rest with
        | none => lead ++ statementStart :: readFrom steps (.inside .statement) rest
        | some (stop, rest) =>
          match untilRawEnd rest with
          | none => lead ++ [fault .grammar]
          | some (raw, start, last, rest) =>
            -- Raw text loses blanks to both of its tags, as text between any two statements does.
            let (opens, raw) := afterTag stop raw
            let raw := beforeTag .statement start opens raw
            let (opens, rest) := afterTag last rest
            lead ++ data raw :: readFrom steps (.outside opens) rest
  | steps + 1, .inside tag, c :: rest =>
    if isInnerBlank c then readFrom steps (.inside tag) rest
    else match tagEnd? tag (c :: rest) with
      | some (blanks, rest) =>
        let (place, rest) := leave tag blanks rest
        (if tag = .value then valueEnd else statementEnd) :: readFrom steps place rest
      | none =>
        match next (c :: rest) with
        -- Nothing can be said about what follows a fault.
        | (fault f, _) => [fault f]
        | (token, rest) => token :: readFrom steps (.inside tag) rest

/-- A template without one line break at its end. -/
def withoutLastBreak (t : Text) : Text :=
  let t := if t.getLast? = some '\n' then t.dropLast else t
  if t.getLast? = some '\r' then t.dropLast else t

/-- The tokens of a template. -/
def ofText (t : Text) : List Token :=
  let t := withoutLastBreak t
  readFrom (t.length + 1) (.outside true) t

end Token

end VendorCli.Template
