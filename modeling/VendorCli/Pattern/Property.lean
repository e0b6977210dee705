import VendorCli.Text.Letter
/-!
# Properties of characters

The properties that a pattern can ask for by name: general categories and their groups, scripts,
and a few properties that cut across them. Names are matched loosely (`key`): case, spaces,
underscores and hyphens do not count, and neither does a leading `is`.

* `Property.named?` — the property of a name that stands alone;
* `Property.ofValue?` — the property of a category or script that is said to be one.
-/

namespace VendorCli

/-- A property that a character has or lacks. -/
inductive Property where
  | any
  | ascii
  | assigned
  | letter
  | capital
  | small
  | blank
  | category (among : List Text.Category)
  | script (ranges : List (Nat × Nat))
deriving DecidableEq, Repr

namespace Property

/-- Whether a character has the property. -/
def holds : Property → Char → Bool
  | any, _ => true
  | ascii, c => c.toNat < 128
  | assigned, c => Text.Category.ofChar c ≠ .unassigned
  | letter, c => Text.isLetter c
  | capital, c => Text.isCapital c
  | small, c => Text.isSmall c
  | blank, c => Text.isBlank c
  | category among, c => among.contains (Text.Category.ofChar c)
  | script ranges, c => Text.inRanges ranges c.toNat

/-- A name without the differences that do not count. -/
def key (name : Text) : Text :=
  match name with
  | i :: s :: rest =>
    if i.toLower = 'i' ∧ s.toLower = 's' then
      let short := plain rest
      if short = ['c'] then "isc" else short
    else plain name
  | _ => plain name
where
  plain (t : Text) : Text :=
    Text.asciiLower (t.filter fun c => c.toNat < 128 && c ≠ ' ' && c ≠ '_' && c ≠ '-')

/-- The properties that are neither categories nor scripts, by the keys of their names. -/
def others : List (Text × Property) :=
  [("alpha", letter), ("alphabetic", letter), ("upper", capital), ("uppercase", capital),
   ("lower", small), ("lowercase", small), ("space", blank), ("whitespace", blank),
   ("wspace", blank)]

/-- The property of a category's name; three names stand for what no category says. -/
def categoryNamed? (name : Text) : Option Property :=
  match lookup? name [("any", any), ("assigned", assigned), ("ascii", ascii)] with
  | some p => some p
  | none => (Text.Category.named? name).map category

/-- The property of a script's name. -/
def scriptNamed? (name : Text) : Option Property :=
  (Text.Script.named? name).map script

/-- The property of a name that stands alone. -/
def named? (name : Text) : Option Property :=
  let name := key name
  (lookup? name others).or ((categoryNamed? name).or (scriptNamed? name))

/-- The property of having a value, in the kind of property that is said before it. -/
def ofValue? (kind value : Text) : Option Property :=
  let kind := key kind
  if ([("gc" : Text), "generalcategory"]).contains kind then categoryNamed? (key value)
  else if ([("sc" : Text), "script"]).contains kind then scriptNamed? (key value)
  else none

end Property

end VendorCli
