import VendorCli.Pattern.ClassReader
import VendorCli.Number.Decimal
/-!
# Reading patterns

A reader for the text of a regular expression. It goes through the text once and keeps the groups
that are still open, each with the branches and the parts that it has so far; a repetition mark
applies to the latest part. A text that is no regular expression has no reading.

Two limits keep patterns small: groups and classes may be nested 250 deep, and the machine that a
pattern describes may have no more than ten mebibytes.

The second limit is on an estimate (`Part.size`), since no machine is ever built here. A state is
taken for 32 bytes; a character needs a state for each byte that it is written in, and a set needs
states for the sequences of bytes of its ranges. How many ranges a set of the character tables has
is rounded, so a pattern whose machine comes close to the limit may be judged otherwise than by
counting its states. That takes a property repeated a few hundred times, or nested repetitions with
large bounds; a pattern for the lines of a device stays far below.

The recursion is on a number of steps; each step consumes a character of the text.
-/

namespace VendorCli

namespace PatternText

/-- A pattern with the estimated size of its machine in bytes. -/
structure Part where
  pattern : Pattern
  size : Nat
deriving Repr

/-- A part of a sequence, or a change of mode, which cannot be repeated. -/
inductive Item where
  | part (p : Part)
  | directive
deriving Repr

/-- A group that is still open. -/
structure OpenGroup where
  /-- Its number, if it captures. -/
  index : Option Nat
  /-- The mode to return to when it is closed. -/
  outerMode : Mode
  /-- The finished branches, the latest first. -/
  branches : List Part
  /-- The parts of the branch at hand, the latest first. -/
  items : List Item
deriving Repr

/-- How far the reading has come. -/
structure Reading where
  mode : Mode
  groups : Nat
  names : List (Nat × Text)
  inner : OpenGroup
  outer : List OpenGroup
deriving Repr

/-- The most bytes that a machine may have, ten mebibytes. -/
def sizeLimit : Nat := 10485760

/-- The deepest nesting of groups. -/
def nestLimit : Nat := 250

/-- The part of an ordinary set. -/
private def setPart (s : CharClass) (size : Nat) : Part := ⟨.set s, size⟩

/-- The estimated size of a set's machine, 32 bytes for a state. -/
def setSize : CharClass → Nat
  | .none => 32
  -- About a dozen states, for the sequences of one to four bytes that write a character.
  | .any => 400
  | .char c => 32 * c.utf8Size
  -- Two states, the bounds as one range of one or two bytes.
  | .range _ _ => 64
  -- Some sixty ranges of ten digits, two states for each.
  | .digit => 4000
  -- More than seven hundred ranges, which share most of their first bytes.
  | .word => 30000
  -- Ten ranges, about twenty states.
  | .blank => 600
  -- A property may be as large as the class of word characters, so it counts as much.
  | .property _ => 30000
  | .union a b => setSize a + setSize b
  | .inter a b => setSize a + setSize b
  | .diff a b => setSize a + setSize b
  | .symmDiff a b => setSize a + setSize b
  -- The gaps between the ranges of the set, and the last sequences of bytes behind them.
  | .compl a => setSize a + 600
  -- Each letter in both of its cases.
  | .folded a => 2 * setSize a

/-- A set as a part. -/
def partOf (s : CharClass) : Part := setPart s (setSize s)

/-- A literal character as a part. -/
def literal (m : Mode) (c : Char) : Part :=
  if m.caseless then
    if m.unicode then partOf (.folded (.char c))
    else partOf (.union (.char c.toLower) (.char c.toUpper))
  else partOf (.char c)

/-- The size of several parts together. -/
def totalSize : List Part → Nat
  | [] => 0
  | p :: rest => p.size + totalSize rest

/-- The parts of a branch as one part. -/
def joinItems (items : List Item) : Part :=
  let parts := items.reverse.filterMap fun
    | .part p => some p
    | .directive => none
  ⟨Pattern.sequence (parts.map (·.pattern)), totalSize parts⟩

namespace OpenGroup

/-- Everything in the group as one part. The choice between its branches adds a state and a half. -/
def content (g : OpenGroup) : Part :=
  let branches := (joinItems g.items :: g.branches).reverse
  ⟨Pattern.choice (branches.map (·.pattern)), totalSize branches + 48⟩

end OpenGroup

namespace Reading

/-- A reading with one more part. -/
def push (r : Reading) (p : Part) : Reading :=
  { r with inner := { r.inner with items := .part p :: r.inner.items } }

/-- A reading with the latest part repeated. Its machine is copied as often as the bounds say, each
time with the states that enter and leave it. -/
def repeat? (r : Reading) (greedy : Bool) (min : Nat) (max : Option Nat) : Option Reading :=
  match r.inner.items with
  | .part p :: rest =>
    let size := (p.size + 48) * (max.getD (Nat.max min 1)) + 32
    if size ≤ sizeLimit then
      let greedy := greedy != r.mode.swapGreed
      some { r with
        inner := { r.inner with items := .part ⟨p.pattern.repeated greedy min max, size⟩ :: rest } }
    else none
  | _ => none

/-- A reading inside one more group. -/
def openGroup? (r : Reading) (index : Option Nat) (mode : Mode) : Option Reading :=
  if r.outer.length + 1 < nestLimit then
    some { r with mode := mode, inner := ⟨index, r.mode, [], []⟩, outer := r.inner :: r.outer }
  else none

/-- A reading with a group closed. -/
def closeGroup? (r : Reading) : Option Reading :=
  match r.outer with
  | [] => none
  | enclosing :: more =>
    let content := r.inner.content
    -- A group that captures has two more states, which note where it begins and where it ends.
    let part : Part := match r.inner.index with
      | some i => ⟨.group i content.pattern, content.size + 64⟩
      | none => content
    some { r with
      mode := r.inner.outerMode
      inner := { enclosing with items := .part part :: enclosing.items }
      outer := more }

/-- A reading that goes on with another branch. -/
def nextBranch (r : Reading) : Reading :=
  { r with
    inner := { r.inner with branches := joinItems r.inner.items :: r.inner.branches, items := [] } }

end Reading

/-! ### Groups and modes -/

/-- The mode after one flag. -/
def setFlag? (on : Bool) (c : Char) (m : Mode) : Option Mode :=
  match c with
  | 'i' => some { m with caseless := on }
  | 'm' => some { m with multiLine := on }
  | 's' => some { m with dotAll := on }
  | 'U' => some { m with swapGreed := on }
  | 'u' => some { m with unicode := on }
  | 'R' => some { m with returns := on }
  | 'x' => some { m with spaced := on }
  | _ => none

/-- The mode after several flags, each at most once, of which those after a hyphen are off. -/
def setFlags? : Bool → List Char → Text → Mode → Option Mode
  | _, _, [], m => some m
  | on, seen, c :: rest, m =>
    if c ∈ seen then none
    else if c = '-' then (if rest = [] then none else setFlags? false (c :: seen) rest m)
    else do
      let m ← setFlag? on c m
      setFlags? on (c :: seen) rest m

/-- A character of a group's name. -/
def isNameChar (first : Bool) (c : Char) : Bool :=
  let letter := Text.isWord c && !Text.isDigit c
  if first then c = '_' || letter
  else c = '_' || c = '.' || c = '[' || c = ']' || letter || Text.isDigit c

/-- A group's name. -/
def isName : Text → Bool
  | [] => false
  | c :: rest => isNameChar true c && rest.all (isNameChar false)

/-- A named group, after the bracket that opens its name. -/
def namedGroup? (r : Reading) (t : Text) : Option (Reading × Text) := do
  let (name, rest) ← Text.splitOnce? '>' t
  if isName name ∧ r.names.all (·.2 ≠ name) then
    let index := r.groups + 1
    let opened ← r.openGroup? (some index) r.mode
    return ({ opened with groups := index, names := r.names ++ [(index, name)] }, rest)
  else none

/-- A group or a change of mode, after its opening parenthesis. -/
def group? (r : Reading) (t : Text) : Option (Reading × Text) :=
  match r.mode.skip t with
  | '?' :: '=' :: _ => none
  | '?' :: '!' :: _ => none
  | '?' :: '<' :: '=' :: _ => none
  | '?' :: '<' :: '!' :: _ => none
  | '?' :: 'P' :: '<' :: rest => namedGroup? r rest
  | '?' :: '<' :: rest => namedGroup? r rest
  | '?' :: rest =>
    let flags := rest.takeWhile fun c => c ≠ ':' ∧ c ≠ ')'
    match rest.dropWhile fun c => c ≠ ':' ∧ c ≠ ')' with
    | ':' :: after => do
      let m ← setFlags? true [] flags r.mode
      return (← r.openGroup? none m, after)
    | _ :: after => do
      if flags = [] then none
      else
        let m ← setFlags? true [] flags r.mode
        return (
          { r with mode := m, inner := { r.inner with items := .directive :: r.inner.items } },
          after)
    | [] => none
  | rest => do
    let index := r.groups + 1
    let opened ← r.openGroup? (some index) r.mode
    return ({ opened with groups := index }, rest)

/-! ### Repetitions -/

/-- A bound of a repetition, with blanks around it. -/
def bound? (t : Text) : Option (Nat × Text) := do
  let t := t.dropWhile Text.isBlank
  let n ← Decimal.nat? Decimal.max32 (t.takeWhile Char.isDigit)
  return (n, (t.dropWhile Char.isDigit).dropWhile Text.isBlank)

/-- The bounds of a repetition, after the opening brace. -/
def bounds? (m : Mode) (t : Text) : Option ((Nat × Option Nat) × Text) := do
  let (min, t) ← bound? (m.skip t)
  match m.skip t with
  | '\x7d' :: rest => some ((min, some min), rest)
  | ',' :: rest =>
    match m.skip rest with
    | '\x7d' :: rest => some ((min, none), rest)
    | t => do
      let (max, t) ← bound? t
      match m.skip t with
      | '\x7d' :: rest => if min ≤ max then some ((min, some max), rest) else none
      | _ => none
  | _ => none

/-- Whether a repetition is greedy, by the mark that may follow it. -/
def greed (t : Text) : Bool × Text :=
  match t with
  | '?' :: rest => (false, rest)
  | _ => (true, t)

/-- Repeat the latest part. -/
def repetition? (r : Reading) (min : Nat) (max : Option Nat) (t : Text) : Option (Reading × Text) :=
  let (greedy, rest) := greed t
  (r.repeat? greedy min max).map (·, rest)

/-! ### The whole pattern -/

/-- A part that is a condition on its position. -/
def anchorPart (a : Anchor) : Part := ⟨.anchor a, 32⟩

/-- What the dot stands for. -/
def dot? (m : Mode) : Option CharClass :=
  if !m.unicode then none
  else if m.dotAll then some .any
  else if m.returns then some (.compl (.union (.char '\r') (.char '\n')))
  else some (.compl (.char '\n'))

/-- One step through a text that is not at its end. -/
def step? (r : Reading) (c : Char) (rest : Text) : Option (Reading × Text) :=
  let m := r.mode
  match c with
  | '(' => group? r rest
  | ')' => (r.closeGroup?).map (·, rest)
  | '|' => some (r.nextBranch, rest)
  | '[' => (readClass? m rest).map fun s => (r.push (partOf s.1), s.2)
  | '?' => repetition? r 0 (some 1) rest
  | '*' => repetition? r 0 none rest
  | '+' => repetition? r 1 none rest
  | '\x7b' => do
    let ((min, max), rest) ← bounds? m rest
    repetition? r min max (m.skip rest)
  | '.' => (dot? m).map fun s => (r.push (partOf s), rest)
  | '^' =>
    let a : Anchor :=
      if m.multiLine then (if m.returns then .startLineReturn else .startLine) else .startText
    some (r.push (anchorPart a), rest)
  | '$' =>
    let a : Anchor :=
      if m.multiLine then (if m.returns then .endLineReturn else .endLine) else .endText
    some (r.push (anchorPart a), rest)
  | '\\' => do
    let (e, rest) ← escape? m rest
    match e with
    | .literal c => if m.unicode ∨ c.toNat < 128 then some (r.push (literal m c), rest) else none
    | .set s => some (r.push (partOf s), rest)
    | .anchor a => some (r.push (anchorPart a), rest)
  | _ => some (r.push (literal m c), rest)

/-- Read a text to its end. -/
def run? : Nat → Reading → Text → Option Reading
  | 0, _, _ => none
  | steps + 1, r, t =>
    match r.mode.skip t with
    | [] => if r.outer.isEmpty then some r else none
    | c :: rest => do
      let (r, rest) ← step? r c rest
      run? steps r rest

end PatternText

/-- The numbers of the groups of a pattern. -/
def Pattern.groupIndices : Pattern → List Nat
  | empty => []
  | set _ => []
  | anchor _ => []
  | seq p q => p.groupIndices ++ q.groupIndices
  | alt p q => p.groupIndices ++ q.groupIndices
  | group i p => i :: p.groupIndices
  | opt _ p => p.groupIndices
  | plus _ p => p.groupIndices

/-- The regular expression that a text stands for. A group that the pattern never uses has no
name. -/
def Regex.ofText? (t : Text) : Option Regex := do
  let start : PatternText.Reading := ⟨Mode.initial, 0, [], ⟨none, Mode.initial, [], []⟩, []⟩
  let r ← PatternText.run? (t.length + 1) start t
  let content := r.inner.content
  if content.size ≤ PatternText.sizeLimit then
    let used := content.pattern.groupIndices
    return ⟨content.pattern, r.names.filter fun n => n.1 ∈ used⟩
  else none

end VendorCli
