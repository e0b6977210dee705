import VendorCli.Pattern.Basic
/-!
# Matching

How a pattern matches: `outcomes p s` lists the places where a match of `p` that starts at `s` can
end, the preferred one first and no place twice. Since only the place decides how a match can go
on, the first of several ways to a place is all that counts.

A repetition goes on only after an iteration that consumed something. An empty iteration counts
only as the first one; that is how `(?:a*)+` matches the empty text.

* `captures?` finds the leftmost match and its groups: at the first place where the pattern matches
  at all, its preferred outcome.
* `outcomes_empty`, `outcomes_set` and `outcomes_anchor` say how the patterns without parts match:
  where they start, after one character, or where they start if the condition holds there.
-/

namespace VendorCli

/-- A place in a line. -/
structure Place where
  /-- The character before. -/
  before : Option Char
  /-- What follows. -/
  rest : Text
  /-- How many characters precede. -/
  offset : Nat
  /-- What the groups have matched, the latest first. -/
  groups : List (Nat × Text)
deriving DecidableEq, Repr

namespace Place

/-- The start of a text. -/
def start (t : Text) : Place := ⟨none, t, 0, []⟩

/-- The place after the next character, if that is in a set. -/
def take? (s : CharClass) (at_ : Place) : Option Place :=
  match at_.rest with
  | [] => none
  | c :: rest => if s.contains c then some ⟨some c, rest, at_.offset + 1, at_.groups⟩ else none

/-- Whether the character before is a word character. -/
def wordBefore (at_ : Place) : Bool :=
  (at_.before.map Text.isWord).getD false

/-- Whether the next character is a word character. -/
def wordAfter (at_ : Place) : Bool :=
  (at_.rest.head?.map Text.isWord).getD false

private def asciiWord (c : Char) : Bool :=
  c.isAlphanum || c = '_'

/-- Whether a condition holds at a place. -/
def fits (at_ : Place) : Anchor → Bool
  | .startText => at_.before.isNone
  | .endText => at_.rest.isEmpty
  | .startLine => at_.before.isNone || at_.before = some '\n'
  | .endLine => at_.rest.isEmpty || at_.rest.head? = some '\n'
  | .startLineReturn =>
    at_.before.isNone || at_.before = some '\n'
      || (at_.before = some '\r' && at_.rest.head? ≠ some '\n')
  | .endLineReturn =>
    at_.rest.isEmpty || at_.rest.head? = some '\r'
      || (at_.rest.head? = some '\n' && at_.before ≠ some '\r')
  | .wordEdge => at_.wordBefore != at_.wordAfter
  | .notWordEdge => at_.wordBefore == at_.wordAfter
  | .wordStart => !at_.wordBefore && at_.wordAfter
  | .wordEnd => at_.wordBefore && !at_.wordAfter
  | .wordStartHalf => !at_.wordBefore
  | .wordEndHalf => !at_.wordAfter
  | .asciiWordEdge =>
    (at_.before.map asciiWord).getD false != (at_.rest.head?.map asciiWord).getD false
  | .notAsciiWordEdge =>
    (at_.before.map asciiWord).getD false == (at_.rest.head?.map asciiWord).getD false

/-- Whether a list of places has one this far along. -/
def reached (offset : Nat) (places : List Place) : Bool :=
  places.any fun p => p.offset == offset

/-- The list without later ways to a place. -/
def firstArrivals : List Place → List Place → List Place
  | acc, [] => acc
  | acc, p :: rest =>
    if reached p.offset acc then firstArrivals acc rest else firstArrivals (acc ++ [p]) rest

end Place

namespace Pattern

/-- The places that further iterations of a repetition lead to, after those in `acc`. Each
iteration but the `first` has to consume something. -/
def iterate (greedy : Bool) (body : Place → List Place) :
    Nat → Bool → Place → List Place → List Place
  | 0, _, _, acc => acc
  | steps + 1, first, at_, acc =>
    (body at_).foldl (fun acc p =>
      -- A place that an earlier way has reached is settled, with all that follows from it.
      if Place.reached p.offset acc then acc
      else if p.offset = at_.offset then (if first then acc ++ [p] else acc)
      else if greedy then iterate greedy body steps false p acc ++ [p]
      else iterate greedy body steps false p (acc ++ [p])) acc

/-- The places where a match that starts at a place can end, the preferred one first. -/
def outcomes : Pattern → Place → List Place
  | empty, at_ => [at_]
  | set s, at_ => (at_.take? s).toList
  | anchor a, at_ => if at_.fits a then [at_] else []
  | seq p q, at_ => Place.firstArrivals [] ((outcomes p at_).flatMap (outcomes q))
  | alt p q, at_ => Place.firstArrivals [] (outcomes p at_ ++ outcomes q at_)
  | group index p, at_ =>
    (outcomes p at_).map fun e =>
      { e with groups := (index, at_.rest.take (e.offset - at_.offset)) :: e.groups }
  | opt greedy p, at_ =>
    if greedy then Place.firstArrivals [] (outcomes p at_ ++ [at_])
    else Place.firstArrivals [] (at_ :: outcomes p at_)
  | plus greedy p, at_ => iterate greedy (outcomes p) (at_.rest.length + 1) true at_ []

@[simp] theorem outcomes_empty (at_ : Place) : outcomes empty at_ = [at_] := rfl

@[simp] theorem outcomes_set (s : CharClass) (at_ : Place) :
    outcomes (set s) at_ = (at_.take? s).toList := rfl

@[simp] theorem outcomes_anchor (a : Anchor) (at_ : Place) :
    outcomes (anchor a) at_ = if at_.fits a then [at_] else [] := rfl

end Pattern

/-- The texts of a match by group; group 0 is the whole match. -/
abbrev Captures := List (Nat × Text)

/-- What a group has matched, if it took part in the match. -/
def Captures.get? (c : Captures) (index : Nat) : Option Text :=
  (c.find? fun g => g.1 = index).map (·.2)

namespace Pattern

/-- The leftmost match in what follows a place. -/
def searchFrom (p : Pattern) (before : Option Char) (offset : Nat) : Text → Option Captures
  | [] => ((outcomes p ⟨before, [], offset, []⟩).head?).map fun e => (0, []) :: e.groups
  | c :: rest =>
    match (outcomes p ⟨before, c :: rest, offset, []⟩).head? with
    | some e => some ((0, (c :: rest).take (e.offset - offset)) :: e.groups)
    | none => searchFrom p (some c) (offset + 1) rest

end Pattern

namespace Regex

/-- The groups of the leftmost match in a text. -/
def captures? (r : Regex) (t : Text) : Option Captures :=
  r.pattern.searchFrom none 0 t

/-- Whether the pattern matches somewhere in a text. -/
def isMatch (r : Regex) (t : Text) : Bool :=
  (r.captures? t).isSome

/-- The number of the group of a name. -/
def indexOf? (r : Regex) (name : Text) : Option Nat :=
  (r.names.find? fun n => n.2 = name).map (·.1)

/-- What the group of a name has matched. -/
def named? (r : Regex) (c : Captures) (name : Text) : Option Text :=
  (r.indexOf? name).bind c.get?

end VendorCli.Regex
