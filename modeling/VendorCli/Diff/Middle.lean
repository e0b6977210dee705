import VendorCli.Diff.Script
/-!
# Where a shortest script passes

A script from `old` to `new` is a path through the grid of their positions, one step right a
deletion, one step down an insertion, one step along the diagonal a line in common. `middle?` finds
a point about half way on a path with the fewest deletions and insertions. Two searches, from the
first corner and from the last, go on by one edit at a time and remember for every diagonal how far
they have come; the point is where they meet.

Whatever point comes out, a script that is put together from the two halves is an edit script; the
choice of the point decides only which one.
-/

namespace VendorCli.Diff

/-- How far a search has come on each diagonal; diagonals are numbered from `-offset` up. -/
structure Frontier where
  offset : Nat
  reach : Array Nat

namespace Frontier

/-- A frontier with room for the diagonals up to `size` on either side. -/
def new (size : Nat) : Frontier :=
  ⟨size + 1, Array.replicate (2 * size + 3) 0⟩

/-- How far the search has come on a diagonal. -/
def get (f : Frontier) (k : Int) : Nat :=
  f.reach.getD (k + f.offset).toNat 0

/-- Note how far the search has come on a diagonal. -/
def set (f : Frontier) (k : Int) (x : Nat) : Frontier :=
  { f with reach := f.reach.setIfInBounds (k + f.offset).toNat x }

/-- Where the next step reaches diagonal `k`: from the neighbour that is further on. -/
def step (f : Frontier) (edits : Nat) (k : Int) : Nat :=
  if k = -(edits : Int) ∨ (k ≠ edits ∧ f.get (k - 1) < f.get (k + 1)) then f.get (k + 1)
  else f.get (k - 1) + 1

end Frontier

/-- The diagonals reached with so many edits, from the highest down. -/
def diagonals (edits : Nat) : List Int :=
  (List.range (edits + 1)).map fun (i : Nat) => (edits : Int) - 2 * (i : Int)

/-- How many lines follow in common at two positions, going forward. -/
def matchForward (old new : Array Text) : Nat → Nat → Nat → Nat
  | 0, _, _ => 0
  | steps + 1, x, y =>
    match old[x]?, new[y]? with
    | some a, some b => if a = b then matchForward old new steps (x + 1) (y + 1) + 1 else 0
    | _, _ => 0

/-- How many lines come in common before two positions counted from the ends. -/
def matchBackward (old new : Array Text) : Nat → Nat → Nat → Nat
  | 0, _, _ => 0
  | steps + 1, x, y =>
    if x < old.size ∧ y < new.size then
      match old[old.size - 1 - x]?, new[new.size - 1 - y]? with
      | some a, some b => if a = b then matchBackward old new steps (x + 1) (y + 1) + 1 else 0
      | _, _ => 0
    else 0

section

variable (old new : Array Text)

/-- By how much the number of the last corner's diagonal exceeds that of the first. -/
private def delta : Int := (old.size : Int) - new.size

/-- One more edit of the search from the first corner, diagonal by diagonal; it ends early at a
point where it meets the other search. -/
private def advanceForward (backward : Frontier) (edits : Nat) :
    Frontier → List Int → Frontier ⊕ (Nat × Nat)
  | forward, [] => .inl forward
  | forward, k :: more =>
    let x := forward.step edits k
    let y := ((x : Int) - k).toNat
    let x' := x + matchForward old new old.size x y
    let δ := delta old new
    let opposite := k - δ
    -- With an odd `δ` the two searches can only meet right after a step of this one.
    if δ % 2 ≠ 0 ∧ opposite.natAbs + 1 ≤ edits ∧ old.size ≤ x' + backward.get (-opposite) then
      .inr (x, y)
    else advanceForward backward edits (forward.set k x') more

/-- One more edit of the search from the last corner. -/
private def advanceBackward (forward : Frontier) (edits : Nat) :
    Frontier → List Int → Frontier ⊕ (Nat × Nat)
  | backward, [] => .inl backward
  | backward, k :: more =>
    let x := backward.step edits k
    let y := ((x : Int) - k).toNat
    let common := matchBackward old new old.size x y
    let δ := delta old new
    let opposite := k - δ
    -- With an even `δ` they can only meet right after a step of this one.
    if δ % 2 = 0 ∧ opposite.natAbs ≤ edits
        ∧ old.size ≤ x + common + forward.get (-opposite) then
      .inr (old.size - (x + common), new.size - (y + common))
    else advanceBackward forward edits (backward.set k (x + common)) more

/-- Both searches, edit by edit, until they meet. -/
private def searchMiddle : Nat → Nat → Frontier → Frontier → Option (Nat × Nat)
  | 0, _, _, _ => none
  | rounds + 1, edits, forward, backward =>
    match advanceForward old new backward edits forward (diagonals edits) with
    | .inr point => some point
    | .inl forward =>
      match advanceBackward old new forward edits backward (diagonals edits) with
      | .inr point => some point
      | .inl backward => searchMiddle rounds (edits + 1) forward backward

end

/-- The positions in both lists where a shortest script can be divided. -/
def middle? (old new : List Text) : Option (Nat × Nat) :=
  let a := old.toArray
  let b := new.toArray
  -- Each search makes at most half of the edits.
  let rounds := (a.size + b.size + 1) / 2 + 1
  searchMiddle a b rounds 0 (Frontier.new rounds) (Frontier.new rounds)

end VendorCli.Diff
