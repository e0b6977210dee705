import VendorCli.Text.Basic
/-!
# Places in a YAML text

YAML gives meaning to lines and columns, so a reader of it moves a `Cursor` that counts both. A line
ends with any of five breaks (`isBreak`), of which all but two are the same break (`breakText`); the
carriage return with a line feed behind it counts as one.

`Cursor.toToken` passes over what stands between tokens: blanks, comments and line breaks.
-/

namespace VendorCli.Yaml

/-- A character that ends a line. -/
def isBreak (c : Char) : Bool :=
  c = '\n' || c = '\r' || c = '\u0085' || c = '\u2028' || c = '\u2029'

/-- A blank within a line. -/
def isBlank (c : Char) : Bool :=
  c = ' ' || c = '\t'

/-- Whether a token ends where this character comes next, or nothing. -/
def endsToken : Option Char → Bool
  | none => true
  | some c => isBlank c || isBreak c

/-- A line break as part of a value. -/
def breakText (c : Char) : Text :=
  if c = '\u2028' ∨ c = '\u2029' then [c] else ['\n']

/-- A place in a text: what comes next, and the line and column of it, both from zero on. -/
structure Cursor where
  rest : Text
  line : Nat
  column : Nat
deriving DecidableEq, Repr

namespace Cursor

/-- The beginning of a text. -/
def ofText (t : Text) : Cursor :=
  ⟨t, 0, 0⟩

/-- The next character. -/
def head? (c : Cursor) : Option Char :=
  c.rest.head?

/-- The character after the next one. -/
def second? (c : Cursor) : Option Char :=
  (c.rest.drop 1).head?

/-- The place `n` characters further on the same line. -/
def advance (n : Nat) (c : Cursor) : Cursor :=
  ⟨c.rest.drop n, c.line, c.column + n⟩

/-- The beginning of the next line, from a place right before a line break. -/
def nextLine (c : Cursor) : Cursor :=
  match c.rest with
  | '\r' :: '\n' :: rest => ⟨rest, c.line + 1, 0⟩
  | _ :: rest => ⟨rest, c.line + 1, 0⟩
  | [] => c

/-- Whether nothing comes next. -/
def atEnd (c : Cursor) : Bool :=
  c.rest.isEmpty

/-- Whether an indicator comes next, with a blank, a line break or nothing behind it. -/
def atIndicator (indicator : Char) (c : Cursor) : Bool :=
  c.head? = some indicator && endsToken c.second?

/-- Whether a line with a document mark begins here. -/
def atDocumentMark (c : Cursor) : Bool :=
  c.column = 0 && (c.rest.take 3 = ['-', '-', '-'] || c.rest.take 3 = ['.', '.', '.'])
    && endsToken (c.rest.drop 3).head?

/-- Whether the block content of a document ends here. -/
def atDocumentEnd (c : Cursor) : Bool :=
  c.atEnd || c.atDocumentMark

/-- The end of the line. -/
def lineEnd (c : Cursor) : Cursor :=
  c.advance (c.rest.takeWhile (fun x => !isBreak x)).length

/-- The place behind the blanks that come next. -/
def skipBlanks (c : Cursor) : Cursor :=
  c.advance (c.rest.takeWhile isBlank).length

/-- Pass over blanks, comments and line breaks, in as many steps as the bound allows. A tab is a
blank only where no block may begin. -/
def skipSteps (inFlow : Bool) : Nat → Bool → Cursor → Cursor
  | 0, _, c => c
  | steps + 1, fresh, c =>
    match c.head? with
    | some ' ' => skipSteps inFlow steps fresh (c.advance 1)
    | some '\t' =>
      if fresh && !inFlow then c else skipSteps inFlow steps fresh (c.advance 1)
    | some '#' => skipSteps inFlow steps fresh c.lineEnd
    | some x => if isBreak x then skipSteps inFlow steps true c.nextLine else c
    | none => c

/-- The next token of block content. `fresh` says whether a block may begin here. -/
def toToken (fresh : Bool) (c : Cursor) : Cursor :=
  skipSteps false (c.rest.length + 1) fresh c

/-- The next token between brackets. -/
def toFlowToken (c : Cursor) : Cursor :=
  skipSteps true (c.rest.length + 1) false c

end Cursor

end VendorCli.Yaml
