import VendorCli.Document.Scalar
import VendorCli.Yaml.Cursor
/-!
# Scalars in YAML

The four ways to write a scalar: plain, between single or double quotes, and as an indented block.
Each reader starts at the first character behind the opening mark and gives the text of the scalar
with the place after it, or nothing if the scalar is malformed.

White space inside a scalar is a `Gap`. On one line it stands for itself. A line break folds to a
space, and breaks of empty lines stand for themselves (`Gap.text`).

The recursion is on a bound for the steps; every step consumes a character.
-/

namespace VendorCli.Yaml

/-! ### White space inside scalars -/

/-- White space inside a scalar. -/
structure Gap where
  /-- The blanks before the first line break. -/
  blanks : Text
  /-- The line breaks, as parts of a value. -/
  breaks : List Text
  /-- The smallest column of a tab that follows a line break. -/
  tab : Option Nat
deriving DecidableEq, Repr

namespace Gap

/-- What a gap contributes to the text of a scalar. -/
def text (g : Gap) : Text :=
  match g.breaks with
  | [] => g.blanks
  | first :: more =>
    if first = ['\n'] then if more = [] then [' '] else more.flatten
    else first ++ more.flatten

/-- One more white space character, at a column. -/
def push (g : Gap) (x : Char) (column : Nat) : Gap :=
  if isBreak x then { g with breaks := g.breaks ++ [breakText x] }
  else if g.breaks = [] then { g with blanks := g.blanks ++ [x] }
  else if x = '\t' then { g with tab := some (min column (g.tab.getD column)) }
  else g

/-- Read white space, in as many steps as the bound allows. -/
def readSteps : Nat → Gap → Cursor → Gap × Cursor
  | 0, g, c => (g, c)
  | steps + 1, g, c =>
    match c.head? with
    | none => (g, c)
    | some x =>
      if isBreak x then readSteps steps (g.push x c.column) c.nextLine
      else if isBlank x then readSteps steps (g.push x c.column) (c.advance 1)
      else (g, c)

/-- Read white space. -/
def read (c : Cursor) : Gap × Cursor :=
  readSteps (c.rest.length + 1) ⟨[], [], none⟩ c

end Gap

namespace Scalar

/-! ### Plain scalars -/

/-- The brackets and the comma, which end a plain scalar between brackets. -/
def isFlowMark (x : Char) : Bool :=
  x = ',' || x = '[' || x = ']' || x = '\x7b' || x = '\x7d'

/-- Characters that begin something other than a plain scalar. -/
def isIndicator (x : Char) : Bool :=
  x ∈ ['-', '?', ':', ',', '[', ']', '\x7b', '\x7d', '#', '&', '*', '!', '|', '>', '\'', '"', '%',
    '@', '`']

/-- Whether a plain scalar begins here. -/
def startsPlain (inFlow : Bool) (c : Cursor) : Bool :=
  match c.head? with
  | none => false
  | some x =>
    if x = '-' then !endsToken c.second?
    else if x = '?' ∨ x = ':' then !inFlow && !endsToken c.second?
    else !endsToken (some x) && !isIndicator x

/-- The characters of a plain scalar up to white space or the mark that ends it. Between brackets a
colon right before a bracket, a comma or a question mark is malformed. -/
def plainRun? (inFlow : Bool) : Text → Option Text
  | [] => some []
  | x :: rest =>
    if endsToken (some x) then some []
    else if x = ':' then
      if inFlow && rest.head?.any (fun y => isFlowMark y || y = '?') then none
      else if endsToken rest.head? then some []
      else (plainRun? inFlow rest).map (x :: ·)
    else if inFlow && isFlowMark x then some []
    else (plainRun? inFlow rest).map (x :: ·)

/-- The rest of a plain scalar, onto its text so far. Outside brackets lines must be indented to the
margin, and tabs may not stand in the indentation. -/
def plainSteps (inFlow : Bool) (margin : Nat) : Nat → Text → Gap → Cursor → Option (Text × Cursor)
  | 0, _, _, _ => none
  | steps + 1, t, gap, c =>
    if c.atDocumentMark || c.head? = some '#' then some (t, c)
    else do
      let run ← plainRun? inFlow c.rest
      if run = [] then return (t, c)
      let t := t ++ gap.text ++ run
      let c := c.advance run.length
      let (gap, next) := Gap.read c
      if gap.tab.any (· < margin) then none
      else if next.rest.length = c.rest.length then return (t, c)
      else if !inFlow && next.column < margin then return (t, next)
      else plainSteps inFlow margin steps t gap next

/-- A plain scalar. -/
def plain? (inFlow : Bool) (margin : Nat) (c : Cursor) : Option (Text × Cursor) :=
  plainSteps inFlow margin (c.rest.length + 1) [] ⟨[], [], none⟩ c

/-! ### Quoted scalars -/

/-- The rest of a scalar between single quotes, onto its characters so far, last one first. A quote
of its own is written twice. -/
def singleQuotedSteps : Nat → Text → Cursor → Option (Text × Cursor)
  | 0, _, _ => none
  | steps + 1, acc, c =>
    if c.atDocumentMark then none
    else match c.rest with
      | [] => none
      | '\'' :: '\'' :: _ => singleQuotedSteps steps ('\'' :: acc) (c.advance 2)
      | '\'' :: _ => some (acc.reverse, c.advance 1)
      | x :: _ =>
        if endsToken (some x) then
          let (gap, next) := Gap.read c
          singleQuotedSteps steps (gap.text.reverse ++ acc) next
        else singleQuotedSteps steps (x :: acc) (c.advance 1)

/-- A scalar between single quotes. -/
def singleQuoted? (c : Cursor) : Option (Text × Cursor) :=
  singleQuotedSteps (c.rest.length + 1) [] c

/-- The characters that escapes of one letter stand for. -/
def escapes : List (Char × Char) :=
  [('0', '\x00'), ('a', '\x07'), ('b', '\x08'), ('t', '\t'), ('\t', '\t'), ('n', '\n'),
   ('v', '\x0b'), ('f', '\x0c'), ('r', '\r'), ('e', '\x1b'), (' ', ' '), ('"', '"'), ('/', '/'),
   ('\\', '\\'), ('N', '\u0085'), ('_', '\u00a0'), ('L', '\u2028'), ('P', '\u2029')]

/-- How many hexadecimal digits an escape has behind its letter. -/
def escapeWidth? : Char → Option Nat
  | 'x' => some 2
  | 'u' => some 4
  | 'U' => some 8
  | _ => none

/-- The character of an escape behind its backslash, with the length of the escape. -/
def escape? (t : Text) : Option (Char × Nat) :=
  match t with
  | [] => none
  | x :: rest =>
    match escapes.lookup x with
    | some y => some (y, 1)
    | none => do
      let width ← escapeWidth? x
      if rest.length < width then none
      else
        let n ← Scalar.basedNat? 16 (rest.take width)
        if h : n.isValidChar then some (Char.ofNatAux n h, width + 1) else none

/-- The rest of a scalar between double quotes, onto its characters so far, last one first. A
backslash at the end of a line joins the line with the next one. -/
def doubleQuotedSteps : Nat → Text → Cursor → Option (Text × Cursor)
  | 0, _, _ => none
  | steps + 1, acc, c =>
    if c.atDocumentMark then none
    else match c.rest with
      | [] => none
      | '"' :: _ => some (acc.reverse, c.advance 1)
      | '\\' :: x :: rest =>
        if isBreak x then
          let (gap, next) := Gap.read (c.advance 1).nextLine
          doubleQuotedSteps steps (gap.breaks.flatten.reverse ++ acc) next
        else do
          let (y, n) ← escape? (x :: rest)
          doubleQuotedSteps steps (y :: acc) (c.advance (n + 1))
      | x :: _ =>
        if endsToken (some x) then
          let (gap, next) := Gap.read c
          doubleQuotedSteps steps (gap.text.reverse ++ acc) next
        else doubleQuotedSteps steps (x :: acc) (c.advance 1)

/-- A scalar between double quotes. -/
def doubleQuoted? (c : Cursor) : Option (Text × Cursor) :=
  doubleQuotedSteps (c.rest.length + 1) [] c

/-! ### Block scalars -/

/-- What becomes of the line breaks at the end of a block. -/
inductive Chomping where
  /-- All go. -/
  | strip
  /-- The first stays. -/
  | clip
  /-- All stay. -/
  | keep
deriving DecidableEq, Repr

/-- The marks behind the opening character of a block: how to chomp, and the indentation if it is
given. -/
def blockHeader? (t : Text) : Option (Chomping × Option Nat × Nat) :=
  let chomping? : Char → Option Chomping
    | '-' => some .strip
    | '+' => some .keep
    | _ => none
  let width? (x : Char) : Option Nat := if x.isDigit then some (x.toNat - 48) else none
  let checked (ch : Chomping) (n : Nat) (used : Nat) : Option (Chomping × Option Nat × Nat) :=
    if n = 0 then none else some (ch, some n, used)
  match t.head?, (t.drop 1).head? with
  | none, _ => some (.clip, none, 0)
  | some x, second =>
    match chomping? x, width? x with
    | some ch, _ =>
      match second.bind width? with
      | some n => checked ch n 2
      | none => some (ch, none, 1)
    | none, some n =>
      match second.bind chomping? with
      | some ch => checked ch n 2
      | none => checked .clip n 1
    | none, none => some (.clip, none, 0)

/-- The empty lines at the beginning of a block, and the largest indentation among them. A tab where
indentation is expected is malformed. -/
def leadingSteps : Nat → Nat → Text → Cursor → Option (Nat × Text × Cursor)
  | 0, _, _, _ => none
  | steps + 1, widest, breaks, c =>
    let c := c.advance (c.rest.takeWhile (· = ' ')).length
    let widest := max widest c.column
    match c.head? with
    | some '\t' => none
    | some x =>
      if isBreak x then leadingSteps steps widest (breaks ++ breakText x) c.nextLine
      else some (widest, breaks, c)
    | none => some (widest, breaks, c)

/-- The empty lines between the lines of a block, less indented than it or blank up to its
indentation. -/
def betweenSteps (indent : Nat) : Nat → Text → Cursor → Option (Text × Cursor)
  | 0, _, _ => none
  | steps + 1, breaks, c =>
    let here := (c.rest.takeWhile (· = ' ')).length
    let c := c.advance (min here (indent - c.column))
    match c.head? with
    | some x =>
      if x = '\t' ∧ c.column < indent then none
      else if isBreak x then betweenSteps indent steps (breaks ++ breakText x) c.nextLine
      else some (breaks, c)
    | none => some (breaks, c)

/-- What a block is made of, as far as it is read: its text without the last line break, that break,
the breaks of the empty lines after it, and whether its last line starts with a blank. -/
structure BlockText where
  text : Text
  lastBreak : Text
  emptyLines : Text
  blankStart : Bool

/-- The text of a block with one more line. Where a block is folded, the break between two lines
that both start without a blank becomes a space, or nothing before empty lines. -/
def BlockText.push (b : BlockText) (folded : Bool) (line lineBreak : Text) : BlockText :=
  let blankStart := line.head?.any isBlank
  let joint :=
    if folded && b.lastBreak = ['\n'] && !b.blankStart && !blankStart then
      if b.emptyLines = [] then [' '] else b.emptyLines
    else b.lastBreak ++ b.emptyLines
  ⟨b.text ++ joint ++ line, lineBreak, [], blankStart⟩

/-- The text of a block in the end. -/
def BlockText.chomped (b : BlockText) : Chomping → Text
  | .strip => b.text
  | .clip => b.text ++ b.lastBreak
  | .keep => b.text ++ b.lastBreak ++ b.emptyLines

/-- The lines of a block at its indentation. -/
def blockSteps (folded : Bool) (indent : Nat) : Nat → BlockText → Cursor →
    Option (BlockText × Cursor)
  | 0, _, _ => none
  | steps + 1, b, c =>
    if c.column = indent ∧ !c.atEnd then
      let stop := c.lineEnd
      let line := c.rest.take (stop.column - c.column)
      let b := b.push folded line ((stop.head?.map breakText).getD [])
      match betweenSteps indent (c.rest.length + 1) [] stop.nextLine with
      | none => none
      | some (breaks, next) =>
        blockSteps folded indent steps { b with emptyLines := breaks } next
    else some (b, c)

/-- A block scalar, from behind its opening character. Its lines are indented to the margin at
least; unless the indentation is given, the first line that is not empty tells it. -/
def block? (folded : Bool) (margin : Nat) (c : Cursor) : Option (Text × Cursor) := do
  let (chomping, width?, used) ← blockHeader? c.rest
  let c := (c.advance used).skipBlanks
  let c := if c.head? = some '#' then c.lineEnd else c
  if !(c.head?.all isBreak) then none
  else
    let c := c.nextLine
    let (indent, breaks, c) ← match width? with
      | some n => do
        let indent := (margin - 1) + n
        let (breaks, c) ← betweenSteps indent (c.rest.length + 1) [] c
        some (indent, breaks, c)
      | none => do
        let (widest, breaks, c) ← leadingSteps (c.rest.length + 1) 0 [] c
        some (max (max widest margin) 1, breaks, c)
    let (b, c) ← blockSteps folded indent (c.rest.length + 1) ⟨[], [], breaks, false⟩ c
    return (b.chomped chomping, c)

end Scalar

end VendorCli.Yaml
