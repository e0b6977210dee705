import VendorCli.Template.Filter.Basic
import VendorCli.Text.Case
/-!
# Filters on texts

Case, blanks, replacement, margins, parts, and the escapes of markup. Every filter here takes a
value of any kind by its printed form.
-/

namespace VendorCli.Template.Filter

/-- Punctuation of ASCII. -/
def isPunctuation (c : Char) : Bool :=
  33 ≤ c.toNat && c.toNat < 127 && !c.isAlphanum

/-- Every word with a capital and else in lower case; `start` says whether a word begins. -/
def title : Bool → Text → Text
  | _, [] => []
  | start, c :: rest =>
    if isPunctuation c || Text.isBlank c then c :: title true rest
    else (if start then Text.upperChar c else Text.lowerChar c) ++ title false rest

/-- The first character as a capital, the others in lower case. -/
def capitalize : Text → Text
  | [] => []
  | c :: rest => Text.upperChar c ++ Text.lower rest

/-- A text without the characters of a set at either end. -/
def trimSet (set : Text) (t : Text) : Text :=
  ((t.dropWhile fun c => set.contains c).reverse.dropWhile fun c => set.contains c).reverse

/-- Blanks at both ends dropped, or the characters given. -/
def trim : Filter := fun v args => do
  let given ← args.upTo 1
  match Arguments.optional given 0 with
  | none => .ok (Value.ofText (Text.trim v.display))
  | some set => .ok (Value.ofText (trimSet set.display v.display))

/-- Every occurrence of a text replaced. -/
def replace : Filter := fun v args => do
  let given ← args.upTo 2
  let piece ← Arguments.text given 0
  let by_ ← Arguments.text given 1
  .ok (Value.ofText (Text.replace piece by_ v.display))

/-- The characters of text that have a meaning in markup, written out. -/
def markupChar (c : Char) : Text :=
  match c with
  | '<' => "&lt;"
  | '>' => "&gt;"
  | '&' => "&amp;"
  | '"' => "&quot;"
  | '\'' => "&#x27;"
  | '/' => "&#x2f;"
  | c => [c]

/-- A value as it is printed into markup. -/
def markup (v : Value) : Text :=
  match v with
  | .text t true => t
  | v => v.display.flatMap markupChar

/-- A value as it is printed into markup, marked as safe. -/
def escape : Filter :=
  simple fun v => .ok (.text (markup v) true)

/-- A text marked as safe. -/
def safe : Filter :=
  simple fun v => .ok (.text v.display true)

/-- Text without one line break at its end. -/
def withoutBreak (t : Text) : Text :=
  let t := if t.getLast? = some '\n' then t.dropLast else t
  if t.getLast? = some '\r' then t.dropLast else t

/-- Every line but the first indented. -/
def indent : Filter := fun v args => do
  let given ← args.upTo 3
  let width ← Arguments.count given 0
  let first ← Arguments.flag given 1
  let blank ← Arguments.flag given 2
  let margin := Text.spaces (min width 100000)
  let shift (line : Text) : Text :=
    if line.isEmpty then (if blank then margin else []) else margin ++ line
  let lines := Text.splitOn '\n' (withoutBreak v.display)
  let lines := match lines with
    | [] => []
    | line :: rest => (if first then shift line else line) :: rest.map shift
  .ok (Value.ofText (withoutBreak (Text.unlines lines)))

/-- The parts of a text between the occurrences of a piece, at most `most` of them. -/
def partsAt (piece : Text) : Nat → Option Nat → Text → Text → List Text
  | 0, _, here, t => [here.reverse ++ t]
  | _, _, here, [] => [here.reverse]
  | steps + 1, most, here, c :: rest =>
    if most = some 1 then [here.reverse ++ c :: rest]
    else match Text.dropLead? piece (c :: rest) with
      | some after => here.reverse :: partsAt piece steps (most.map (· - 1)) [] after
      | none => partsAt piece steps most (c :: here) rest

/-- The parts of a text at an empty piece, at most `most` of them: it occurs before every character
and at the end. -/
def apart (most : Option Nat) (t : Text) : List Text :=
  let parts := [] :: t.map (fun c => [c]) ++ [[]]
  match most with
  | none => parts
  | some 0 => []
  | some (n + 1) =>
    if parts.length ≤ n + 1 then parts else parts.take n ++ [(parts.drop n).flatten]

/-- The words of a text, at most `most` of them, the last one with all that follows. -/
def wordsAtMost : Nat → Text → List Text
  | 0, _ => []
  | 1, t =>
    let rest := Text.trimStart t
    if rest.isEmpty then [] else [rest]
  | most + 1, t =>
    let rest := Text.trimStart t
    if rest.isEmpty then []
    else rest.takeWhile (fun c => !Text.isBlank c)
      :: wordsAtMost most (rest.dropWhile fun c => !Text.isBlank c)

/-- A text cut at a piece, or at blanks. -/
def split : Filter := fun v args => do
  let given ← args.upTo 2
  let limit : Option Nat := ((Arguments.optional given 1).bind Value.asInt64?).bind fun i =>
    if 0 ≤ i then some (i.toNat + 1) else none
  let t := v.display
  let parts := match Arguments.optional given 0, limit with
    | none, none => Text.words t
    | none, some most => wordsAtMost most t
    | some piece, most =>
      if piece.display.isEmpty then apart most t
      else partsAt piece.display (t.length + 1) most [] t
  .ok (.list (parts.map Value.ofText))

end VendorCli.Template.Filter
