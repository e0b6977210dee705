import VendorCli.Pattern.Basic
import VendorCli.Document.Scalar
/-!
# Reading classes and escapes

The parts of a pattern whose syntax stands on its own: escapes after a backslash, and classes
between square brackets with ranges, named classes, nested classes and set operations. The mode
(`Mode`) says how they are to be understood.

The recursion is on a number of steps; each step consumes a character of the text.
-/

namespace VendorCli

/-- How the parts of a pattern are to be understood. -/
structure Mode where
  caseless : Bool := false
  multiLine : Bool := false
  dotAll : Bool := false
  swapGreed : Bool := false
  unicode : Bool := true
  returns : Bool := false
  spaced : Bool := false
deriving DecidableEq, Repr

namespace Mode

/-- The mode of a pattern that says nothing about it. -/
def initial : Mode := {}

/-- The text without what a mode lets stand between the parts: blanks, and comments to the end of
the line. -/
def skip (m : Mode) (t : Text) : Text :=
  if m.spaced then go (t.length + 1) t else t
where
  go : Nat → Text → Text
    | 0, t => t
    | steps + 1, t =>
      match t.dropWhile Text.isBlank with
      | '#' :: rest => go steps (rest.dropWhile (· ≠ '\n'))
      | t => t

end Mode

namespace PatternText

/-! ### Escapes -/

/-- What an escape stands for. -/
inductive Escape where
  | literal (c : Char)
  | set (s : CharClass)
  | anchor (a : Anchor)
deriving DecidableEq, Repr

/-- The character of a code point, if there is one. -/
def scalar? (n : Nat) : Option Char :=
  if n < 0xD800 ∨ (0xDFFF < n ∧ n < 0x110000) then some (Char.ofNat n) else none

/-- What stands between braces, without the blanks that the mode lets stand there. -/
def braced (m : Mode) (body : Text) : Text :=
  if m.spaced then body.filter fun c => !Text.isBlank c else body

/-- A code point in base sixteen: so many digits, or any number of them between braces. -/
def hex? (m : Mode) (width : Nat) (t : Text) : Option (Char × Text) :=
  match m.skip t with
  | '\x7b' :: rest => do
    let (body, after) ← Text.splitOnce? '\x7d' rest
    let n ← Scalar.basedNat? 16 (braced m body)
    return (← scalar? n, after)
  | t =>
    let digits := t.take width
    if digits.length = width then do
      let n ← Scalar.basedNat? 16 digits
      return (← scalar? n, t.drop width)
    else none

/-- The kinds of word boundary that have a name. -/
def namedEdges : List (Text × Anchor) :=
  [("start", .wordStart), ("end", .wordEnd), ("start-half", .wordStartHalf),
   ("end-half", .wordEndHalf)]

/-- What follows the escape of a word boundary: its kind between braces, unless the brace belongs
to a repetition. -/
def edge? (m : Mode) (t : Text) : Option (Anchor × Text) :=
  let plain : Anchor := if m.unicode then .wordEdge else .asciiWordEdge
  match t with
  | '\x7b' :: rest =>
    match (m.skip rest).head? with
    | some c =>
      if c.isAlpha ∨ c = '-' then do
        let (body, after) ← Text.splitOnce? '\x7d' rest
        let kind ← lookup? (braced m body) namedEdges
        return (kind, after)
      else some (plain, t)
    | none => none
  | _ => some (plain, t)

/-- A class in the mode's alphabet. -/
def inMode (m : Mode) (s : CharClass) : CharClass :=
  if m.unicode then s else .inter s .ascii

/-- The complement of a class; there is none where the alphabet is bytes. -/
def complement? (m : Mode) (s : CharClass) : Option CharClass :=
  if m.unicode then some (.compl s) else none

/-- Every letter in either case, if the mode says so. -/
def withCase (m : Mode) (s : CharClass) : CharClass :=
  if m.caseless then .folded s else s

/-- The property that a name between braces stands for, and whether it is denied there: a name
alone, or a kind of property and its value. -/
def propertyOf? (name : Text) : Option (Property × Bool) :=
  match Text.splitOnce? '!' name with
  | some (kind, '=' :: value) => (Property.ofValue? kind value).map fun p => (p, true)
  | _ =>
    match (Text.splitOnce? ':' name).or (Text.splitOnce? '=' name) with
    | some (kind, value) => (Property.ofValue? kind value).map fun p => (p, false)
    | none => (Property.named? name).map fun p => (p, false)

/-- The characters with a property, which is named by one character or between braces. Only the
full alphabet has them. -/
def property? (m : Mode) (negated : Bool) (t : Text) : Option (CharClass × Text) :=
  if m.unicode then
    match m.skip t with
    | [] => none
    | '\\' :: _ => none
    | '\x7b' :: rest => do
      let (body, after) ← Text.splitOnce? '\x7d' rest
      let (p, denied) ← propertyOf? (braced m body)
      return (deny (negated != denied) (.property p), after)
    | c :: rest => (Property.named? [c]).map fun p => (deny negated (.property p), rest)
  else none
where
  deny (negated : Bool) (s : CharClass) : CharClass :=
    if negated then .compl (withCase m s) else withCase m s

/-- What an escape stands for, after its backslash. -/
def escape? (m : Mode) : Text → Option (Escape × Text)
  | [] => none
  | c :: rest =>
    match c with
    | 'd' => some (.set (inMode m .digit), rest)
    | 's' => some (.set (inMode m .blank), rest)
    | 'w' => some (.set (inMode m .word), rest)
    | 'D' => (complement? m .digit).map fun s => (.set s, rest)
    | 'S' => (complement? m .blank).map fun s => (.set s, rest)
    | 'W' => (complement? m .word).map fun s => (.set s, rest)
    | 'n' => some (.literal '\n', rest)
    | 't' => some (.literal '\t', rest)
    | 'r' => some (.literal '\r', rest)
    | 'a' => some (.literal '\x07', rest)
    | 'f' => some (.literal '\x0c', rest)
    | 'v' => some (.literal '\x0b', rest)
    | 'p' => (property? m false rest).map fun r => (.set r.1, r.2)
    | 'P' => (property? m true rest).map fun r => (.set r.1, r.2)
    | 'x' => literal (hex? m 2 rest)
    | 'u' => literal (hex? m 4 rest)
    | 'U' => literal (hex? m 8 rest)
    | 'A' => some (.anchor .startText, rest)
    | 'z' => some (.anchor .endText, rest)
    | 'b' => (edge? m rest).map fun r => (.anchor r.1, r.2)
    | 'B' => some (.anchor (if m.unicode then .notWordEdge else .notAsciiWordEdge), rest)
    | '<' => some (.anchor .wordStart, rest)
    | '>' => some (.anchor .wordEnd, rest)
    | _ => if c.toNat < 128 ∧ ¬ c.isAlphanum then some (.literal c, rest) else none
where
  literal (r : Option (Char × Text)) : Option (Escape × Text) :=
    r.map fun r => (.literal r.1, r.2)

/-! ### Classes -/

/-- The operations between sets. -/
inductive SetOp where
  | inter
  | diff
  | symmDiff
deriving DecidableEq, Repr

/-- The set that an operation makes of two sets. -/
def SetOp.apply : SetOp → CharClass → CharClass → CharClass
  | .inter, a, b => .inter a b
  | .diff, a, b => .diff a b
  | .symmDiff, a, b => .symmDiff a b

/-- A class that is still open: whether it is negated, what stands before the latest operation, and
the members since. -/
structure OpenClass where
  negated : Bool
  left : Option (CharClass × SetOp)
  members : List CharClass
deriving Repr

/-- What the class amounts to so far. -/
def OpenClass.value (m : Mode) (o : OpenClass) : CharClass :=
  let right := CharClass.unions o.members.reverse
  match o.left with
  | none => right
  | some (left, op) => op.apply (withCase m left) (withCase m right)

/-- The set that a class amounts to when it is closed. -/
def OpenClass.close? (m : Mode) (o : OpenClass) : Option CharClass :=
  let s := withCase m (o.value m)
  if o.negated then complement? m s else some s

/-- One member of a class: a literal that can begin a range, or a set. -/
def member? (m : Mode) : Text → Option ((Char ⊕ CharClass) × Text)
  | [] => none
  | '\\' :: rest => do
    let (e, after) ← escape? m rest
    match e with
    | .literal c => some (.inl c, after)
    | .set s => some (.inr s, after)
    | .anchor _ => none
  | c :: rest => if m.unicode ∨ c.toNat < 128 then some (.inl c, rest) else none

/-- A member or a range at the front of a text. -/
def memberOrRange? (m : Mode) (t : Text) : Option (CharClass × Text) := do
  let (first, after) ← member? m t
  let single : CharClass := match first with
    | .inl c => .char c
    | .inr s => s
  match m.skip after with
  | [] => none
  | '-' :: more =>
    match m.skip more with
    | [] => none
    | ']' :: _ => some (single, m.skip after)
    | '-' :: _ => some (single, m.skip after)
    | more => do
      let (last, rest) ← member? m more
      match first, last with
      | .inl a, .inl b => if a ≤ b then some (.range a b, rest) else none
      | _, _ => none
  | t => some (single, t)

/-- A class by name, after its opening bracket and colon. -/
def named? (t : Text) : Option (CharClass × Text) := do
  let (negated, t) : Bool × Text := match t with
    | '^' :: rest => (true, rest)
    | _ => (false, t)
  let (name, after) ← Text.splitOnce? ':' t
  match after with
  | ']' :: rest => do
    let s ← CharClass.named? name
    return (if negated then .compl s else s, rest)
  | _ => none

/-- The start of a class, after its bracket: negation, and the hyphens and the bracket that stand
for themselves there. -/
def opening (m : Mode) (t : Text) : OpenClass × Text :=
  let (negated, t) : Bool × Text := match m.skip t with
    | '^' :: rest => (true, m.skip rest)
    | t => (false, t)
  let hyphens := t.takeWhile (· = '-')
  let t := m.skip (t.dropWhile (· = '-'))
  let members := hyphens.map fun _ => CharClass.char '-'
  match members, t with
  | [], ']' :: rest => (⟨negated, none, [.char ']']⟩, rest)
  | _, _ => (⟨negated, none, members⟩, t)

/-- The rest of a class, inside the classes of `outer`. -/
def class? (m : Mode) : Nat → OpenClass → List OpenClass → Text → Option (CharClass × Text)
  | 0, _, _, _ => none
  | steps + 1, o, outer, t =>
    match m.skip t with
    | [] => none
    | '[' :: rest =>
      let byName : Option (CharClass × Text) := match rest with
        | ':' :: more => named? more
        | _ => none
      match byName with
      | some (s, after) => class? m steps { o with members := s :: o.members } outer after
      | none =>
        let (inner, after) := opening m rest
        class? m steps inner (o :: outer) after
    | ']' :: rest => do
      let s ← o.close? m
      match outer with
      | [] => some (s, rest)
      | enclosing :: more =>
        class? m steps { enclosing with members := s :: enclosing.members } more rest
    | '&' :: '&' :: rest => class? m steps ⟨o.negated, some (o.value m, .inter), []⟩ outer rest
    | '-' :: '-' :: rest => class? m steps ⟨o.negated, some (o.value m, .diff), []⟩ outer rest
    | '~' :: '~' :: rest => class? m steps ⟨o.negated, some (o.value m, .symmDiff), []⟩ outer rest
    | t => do
      let (s, after) ← memberOrRange? m t
      class? m steps { o with members := s :: o.members } outer after

/-- A class at the front of a text, after its opening bracket. -/
def readClass? (m : Mode) (t : Text) : Option (CharClass × Text) :=
  let (o, after) := opening m t
  class? m (t.length + 1) o [] after

end PatternText

end VendorCli
