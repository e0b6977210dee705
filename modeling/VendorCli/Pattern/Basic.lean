import VendorCli.Pattern.CharClass
/-!
# Patterns

The syntax of regular expressions after reading: sets of characters, positions (`Anchor`),
sequences, ordered choices, numbered groups, and the two repetitions that the others are made of.
A pattern prefers the first branch of a choice, and of a greedy repetition the longer run.

* `Pattern.repeated` is repetition between two bounds;
* `Regex` is a pattern with the names of its groups.
-/

namespace VendorCli

/-- A condition on a position between two characters. -/
inductive Anchor where
  | startText
  | endText
  | startLine
  | endLine
  /-- The start of a line, where a carriage return ends lines too. -/
  | startLineReturn
  | endLineReturn
  | wordEdge
  | notWordEdge
  | wordStart
  | wordEnd
  /-- No word character before. -/
  | wordStartHalf
  /-- No word character after. -/
  | wordEndHalf
  | asciiWordEdge
  | notAsciiWordEdge
deriving DecidableEq, Repr

/-- A regular expression. -/
inductive Pattern where
  | empty
  | set (s : CharClass)
  | anchor (a : Anchor)
  | seq (p q : Pattern)
  | alt (p q : Pattern)
  | group (index : Nat) (p : Pattern)
  /-- At most once. -/
  | opt (greedy : Bool) (p : Pattern)
  /-- At least once. -/
  | plus (greedy : Bool) (p : Pattern)
deriving DecidableEq, Repr

namespace Pattern

/-- Several patterns one after the other. -/
def sequence : List Pattern → Pattern
  | [] => empty
  | p :: rest => rest.foldl seq p

/-- The first of several patterns that fits. -/
def choice : List Pattern → Pattern
  | [] => empty
  | [p] => p
  | p :: rest => alt p (choice rest)

/-- Any number of times. -/
def star (greedy : Bool) (p : Pattern) : Pattern :=
  opt greedy (plus greedy p)

/-- At most `n` times, each time only after the one before. -/
def atMost (greedy : Bool) (p : Pattern) : Nat → Pattern
  | 0 => empty
  | n + 1 => opt greedy (seq p (atMost greedy p n))

/-- At least `min` times, and at most `max` times if there is a bound. -/
def repeated (greedy : Bool) (p : Pattern) (min : Nat) (max : Option Nat) : Pattern :=
  match max with
  | some m => sequence (List.replicate min p ++ if m ≤ min then [] else [atMost greedy p (m - min)])
  | none =>
    match min with
    | 0 => star greedy p
    | n + 1 => sequence (List.replicate n p ++ [plus greedy p])

end Pattern

/-- A pattern with the names of its groups. -/
structure Regex where
  pattern : Pattern
  /-- The number of each group that has a name, and the name, in the order of the numbers. -/
  names : List (Nat × Text)
deriving DecidableEq, Repr

end VendorCli
