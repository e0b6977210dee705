import VendorCli.Text.Basic
/-!
# Edit scripts

An edit script turns one list of lines into another. It is a list of runs: lines that both sides
have, lines of the old side only, and lines of the new side only. Read without its insertions a
script is the old list (`before`), read without its deletions it is the new one (`after`), and
every step of the construction of a script is judged by these two readings.

* `gather` brings a script into the form in which it is shown: between lines that are kept, all
  deletions come before all insertions.
-/

namespace VendorCli.Diff

/-- What becomes of a run of lines. -/
inductive Fate where
  | keep
  | delete
  | insert
deriving DecidableEq, Repr

/-- Consecutive lines of the same fate. -/
structure Run where
  fate : Fate
  lines : List Text
deriving DecidableEq, Repr

/-- An edit script. -/
abbrev Script := List Run

namespace Run

/-- The lines of the old side. -/
def before (r : Run) : List Text :=
  match r.fate with
  | .insert => []
  | _ => r.lines

/-- The lines of the new side. -/
def after (r : Run) : List Text :=
  match r.fate with
  | .delete => []
  | _ => r.lines

end Run

namespace Script

/-- The old list. -/
def before (s : Script) : List Text :=
  s.flatMap Run.before

/-- The new list. -/
def after (s : Script) : List Text :=
  s.flatMap Run.after

/-- A run, unless it has no lines. -/
def run (fate : Fate) (lines : List Text) : Script :=
  if lines = [] then [] else [⟨fate, lines⟩]

/-- The script with all deletions before all insertions wherever no kept line stands between, given
the deleted and the inserted lines that are still to be placed. -/
def gatherFrom (deleted inserted : List Text) : Script → Script
  | [] => run .delete deleted ++ run .insert inserted
  | r :: rest =>
    match r.fate with
    | .keep => run .delete deleted ++ run .insert inserted ++ r :: gatherFrom [] [] rest
    | .delete => gatherFrom (deleted ++ r.lines) inserted rest
    | .insert => gatherFrom deleted (inserted ++ r.lines) rest

/-- The script in the form in which it is shown. -/
def gather (s : Script) : Script :=
  gatherFrom [] [] s

/-- How many lines of a fate a script has. -/
def count (fate : Fate) : Script → Nat
  | [] => 0
  | r :: rest => (if r.fate = fate then r.lines.length else 0) + count fate rest

@[simp] theorem before_append (s t : Script) : (s ++ t).before = s.before ++ t.before :=
  List.flatMap_append

@[simp] theorem after_append (s t : Script) : (s ++ t).after = s.after ++ t.after :=
  List.flatMap_append

@[simp] theorem before_run (fate : Fate) (lines : List Text) :
    (run fate lines).before = (Run.mk fate lines).before := by
  rw [run]
  split
  · next h =>
    subst h
    cases fate <;> rfl
  · exact List.append_nil _

@[simp] theorem after_run (fate : Fate) (lines : List Text) :
    (run fate lines).after = (Run.mk fate lines).after := by
  rw [run]
  split
  · next h =>
    subst h
    cases fate <;> rfl
  · exact List.append_nil _

end Script

/-! ### Common ends -/

/-- How many lines two lists have in common at the front. -/
def commonFront : List Text → List Text → Nat
  | a :: as, b :: bs => if a = b then commonFront as bs + 1 else 0
  | _, _ => 0

/-- How many lines two lists have in common at the back. -/
def commonBack (as bs : List Text) : Nat :=
  commonFront as.reverse bs.reverse

/-- The lines that two lists have in common at their fronts. -/
theorem take_commonFront (as bs : List Text) :
    as.take (commonFront as bs) = bs.take (commonFront as bs) := by
  induction as generalizing bs with
  | nil => simp [commonFront]
  | cons a as ih =>
    cases bs with
    | nil => simp [commonFront]
    | cons b bs =>
      rw [commonFront]
      split
      · next h => rw [List.take_succ_cons, List.take_succ_cons, ih, h]
      · rfl

/-- The lines that two lists have in common at their ends. -/
theorem drop_commonBack (as bs : List Text) :
    as.drop (as.length - commonBack as bs) = bs.drop (bs.length - commonBack as bs) := by
  have h := take_commonFront as.reverse bs.reverse
  rw [List.take_reverse, List.take_reverse] at h
  exact List.reverse_inj.mp h

end VendorCli.Diff
