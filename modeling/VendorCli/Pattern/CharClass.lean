import VendorCli.Pattern.Property
import VendorCli.Text.Case
/-!
# Classes of characters

The sets of characters that a pattern can ask for, as expressions: single characters and ranges,
the Unicode classes of digits, words and blanks, the characters with a property, and the set
operations on them. `contains` decides
membership; `folded` adds to a set every character that differs from one of its members only in
case.
-/

namespace VendorCli

/-- A set of characters. -/
inductive CharClass where
  | none
  | any
  | char (c : Char)
  | range (first last : Char)
  | digit
  | word
  | blank
  | property (p : Property)
  | union (a b : CharClass)
  | inter (a b : CharClass)
  | diff (a b : CharClass)
  | symmDiff (a b : CharClass)
  | compl (a : CharClass)
  | folded (a : CharClass)
deriving DecidableEq, Repr

namespace CharClass

/-- The characters that fold to the same letter as `c`. -/
def sameLetter (c : Char) : List Char :=
  let f := Text.foldChar c
  let outside := Text.foldRows.filterMap fun r =>
    let n := ((f.toNat : Int) - r.2.2.2).toNat
    if r.1 ≤ n && n ≤ r.2.1 && (n - r.1) % r.2.2.1 == 0 && n != f.toNat then some (Char.ofNat n)
    else Option.none
  f :: (if 'a' ≤ f ∧ f ≤ 'z' then [f.toUpper] else []) ++ outside

/-- Whether a character is in the set. -/
def contains : CharClass → Char → Bool
  | none, _ => false
  | any, _ => true
  | char d, c => c = d
  | range first last, c => first ≤ c && c ≤ last
  | digit, c => Text.isDigit c
  | word, c => Text.isWord c
  | blank, c => Text.isBlank c
  | property p, c => p.holds c
  | union a b, c => a.contains c || b.contains c
  | inter a b, c => a.contains c && b.contains c
  | diff a b, c => a.contains c && !b.contains c
  | symmDiff a b, c => a.contains c != b.contains c
  | compl a, c => !a.contains c
  | folded a, c => a.contains c || (sameLetter c).any a.contains

@[simp] theorem contains_any (c : Char) : any.contains c = true := rfl

@[simp] theorem contains_char (c d : Char) : (char d).contains c = decide (c = d) := rfl

@[simp] theorem contains_digit (c : Char) : digit.contains c = Text.isDigit c := rfl

@[simp] theorem contains_compl (a : CharClass) (c : Char) :
    (compl a).contains c = !a.contains c := rfl

/-- The union of several sets. -/
def unions : List CharClass → CharClass
  | [] => none
  | [a] => a
  | a :: rest => union a (unions rest)

/-- The characters of ASCII. -/
def ascii : CharClass := range '\x00' '\x7f'

/-- The classes that have a name between `[:` and `:]`. -/
def named? (name : Text) : Option CharClass :=
  let digits := range '0' '9'
  let lower := range 'a' 'z'
  let upper := range 'A' 'Z'
  let alpha := union upper lower
  let alnum := union digits alpha
  lookup? name
    [("alnum", alnum), ("alpha", alpha), ("ascii", ascii),
     ("blank", union (char '\t') (char ' ')),
     ("cntrl", union (range '\x00' '\x1f') (char '\x7f')),
     ("digit", digits), ("graph", range '!' '~'), ("lower", lower), ("print", range ' ' '~'),
     ("punct", unions [range '!' '/', range ':' '@', range '[' '`', range '\x7b' '~']),
     ("space", union (range '\t' '\r') (char ' ')),
     ("upper", upper), ("word", union alnum (char '_')),
     ("xdigit", unions [digits, range 'A' 'F', range 'a' 'f'])]

end VendorCli.CharClass
