import VendorCli.Pattern.Match
import VendorCli.Pattern.Reader
/-!
# Blocks

Output that repeats a header line for each of its entries falls into blocks: a header with the
lines up to the next header. Lines before the first header belong to no block.

`Block.ofLines` is the list of blocks of some lines, and `Block.split` that of an output. Lines are
matched without the blanks around them, and kept with them.
-/

namespace VendorCli

/-- The lowest numbered group that took part in a match. -/
def Captures.firstGroup? (c : Captures) : Option Text :=
  (((c.map (·.1)).filter (0 < ·)).min?).bind c.get?

/-- A header line with what follows it. -/
structure Block where
  /-- The first group of the header that took part in its match, or else the whole match. -/
  key : Text
  /-- The header line without the blanks around it. -/
  header : Text
  /-- The header line and its body as they stand in the output. -/
  text : Text
deriving DecidableEq, Repr

namespace Block

/-- The key of a block by the match of its header. -/
def keyOf (c : Captures) : Text :=
  (c.firstGroup?.or (c.get? 0)).getD []

/-- Whether a line is a header. -/
def isHeader (header : Regex) (line : Text) : Bool :=
  (header.captures? (Text.trim line)).isSome

/-- The blocks of some lines. -/
def ofLines (header : Regex) : List Text → List Block
  | [] => []
  | line :: rest =>
    match header.captures? (Text.trim line) with
    | none => ofLines header rest
    | some c =>
      { key := keyOf c
        header := Text.trim line
        text := Text.unlines (line :: rest.takeWhile fun l => !isHeader header l) }
        :: ofLines header rest

/-- The blocks of an output. -/
def split (header : Regex) (output : Text) : List Block :=
  ofLines header (Text.lines output)

end VendorCli.Block
