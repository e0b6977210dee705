import VendorCli.Diff.Align
/-!
# Moving edits together

An inserted run can slide over the kept lines next to it when its own end repeats them: inserting
`b c` after `c` is inserting `c b` before it. `compact` slides every inserted run up as far as it
goes and then down as far as it goes, and joins it with the edits that it meets, so that a change
shows as few pieces as possible. Deleted runs only change places with inserted ones.

A script under change is held open at one run: the runs before it, nearest first, the run itself,
and the runs after it.
-/

namespace VendorCli.Diff

/-- A script held open at a run. -/
structure Cursor where
  /-- The runs before the one in focus, nearest first. -/
  above : Script
  focus : Run
  below : Script

namespace Cursor

/-- The whole script. -/
def script (c : Cursor) : Script :=
  c.above.reverse ++ c.focus :: c.below

end Cursor

/-- Kept lines in front of a script, joined with the kept run that it starts with. -/
def pushKept (lines : List Text) : Script → Script
  | ⟨.keep, first⟩ :: rest => ⟨.keep, lines ++ first⟩ :: rest
  | s => ⟨.keep, lines⟩ :: s

/-- Kept lines after a script that is given backwards, joined with the kept run that it ends
with. -/
def pushKeptAbove (lines : List Text) : Script → Script
  | ⟨.keep, last⟩ :: rest => ⟨.keep, last ++ lines⟩ :: rest
  | s => ⟨.keep, lines⟩ :: s

/-- Slide the run in focus up, at most `steps` times. -/
def slideUp : Nat → Cursor → Cursor
  | 0, c => c
  | steps + 1, c =>
    match c.above with
    | [] => c
    | r :: above =>
      match c.focus.fate, r.fate with
      | .insert, .keep =>
        -- The end that both runs share moves from above the inserted run to below it.
        let n := commonBack r.lines c.focus.lines
        if n = 0 then c
        else
          let size := c.focus.lines.length
          let tail := c.focus.lines.drop (size - n)
          let focus : Run := ⟨.insert, tail ++ c.focus.lines.take (size - n)⟩
          let left := r.lines.take (r.lines.length - n)
          slideUp steps ⟨Script.run .keep left ++ above, focus, pushKept tail c.below⟩
      | .delete, .keep => c
      | .keep, _ => c
      | fate, other =>
        -- An edit of the same kind is joined, one of the other kind stepped over.
        if fate = other then slideUp steps ⟨above, ⟨fate, r.lines ++ c.focus.lines⟩, c.below⟩
        else slideUp steps ⟨above, c.focus, r :: c.below⟩

/-- Slide the run in focus down, at most `steps` times. -/
def slideDown : Nat → Cursor → Cursor
  | 0, c => c
  | steps + 1, c =>
    match c.below with
    | [] => c
    | r :: below =>
      match c.focus.fate, r.fate with
      | .insert, .keep =>
        -- The start that both runs share moves from below the inserted run to above it.
        let n := commonFront r.lines c.focus.lines
        if n = 0 then c
        else
          let head := c.focus.lines.take n
          let focus : Run := ⟨.insert, c.focus.lines.drop n ++ head⟩
          let left := r.lines.drop n
          slideDown steps ⟨pushKeptAbove head c.above, focus, Script.run .keep left ++ below⟩
      | .delete, .keep => c
      | .keep, _ => c
      | fate, other =>
        if fate = other then slideDown steps ⟨c.above, ⟨fate, c.focus.lines ++ r.lines⟩, below⟩
        else slideDown steps ⟨r :: c.above, c.focus, below⟩

/-- How many runs and lines a script has; sliding past them takes no more steps. -/
def weight : Script → Nat
  | [] => 0
  | r :: rest => r.lines.length + 1 + weight rest

/-- Slide every run of a fate up and then down, from the first to the last. -/
def slideAll (fate : Fate) : Nat → Script → Script → Script
  | 0, above, below => above.reverse ++ below
  | _ + 1, above, [] => above.reverse
  | steps + 1, above, r :: below =>
    if r.fate = fate then
      let up := slideUp (weight above) ⟨above, r, below⟩
      let down := slideDown (weight up.below) up
      slideAll fate steps (down.focus :: down.above) down.below
    else slideAll fate steps (r :: above) below

/-- The script with its edits moved together: first the deletions, then the insertions. -/
def compact (s : Script) : Script :=
  let bound := 2 * weight s + 1
  let s := slideAll .delete bound [] s
  slideAll .insert bound [] s

end VendorCli.Diff
