import VendorCli.Diff.Report
/-!
# Both sides of an edit script

A script is judged by what is left of it without the lines of one fate (`Script.without`): without
the insertions that is the old list, without the deletions the new one. Every step on the way to the
script that is shown keeps both readings.

* A slide moves lines that two runs share from one side of an inserted run to the other
  (`without_shift_up`, `without_shift_down`), joins two runs of the same fate (`without_join`) or
  lets a deletion and an insertion change places (`without_swap`). So `compact`, which is nothing
  but slides, changes neither reading (`without_compact`).
* Gathering puts deletions before insertions and changes neither reading (`without_gather`).
* Together with the readings of the alignment this says what the script between two texts leads from
  and to (`without_insert_script`, `without_delete_script`). Between equal texts it has no edit
  (`script_self`).
-/

namespace VendorCli.Diff

namespace Script

/-! ### Readings -/

/-- The lines of a script but those of one fate. -/
def without (fate : Fate) (s : Script) : List Text :=
  s.flatMap fun r => if r.fate = fate then [] else r.lines

variable {fate : Fate} {r : Run} {s t : Script}

-- a reading is taken run by run
@[simp] theorem without_nil : without fate [] = [] := rfl

@[simp] theorem without_cons :
    without fate (r :: s) = (if r.fate = fate then [] else r.lines) ++ without fate s := rfl

@[simp] theorem without_append : without fate (s ++ t) = without fate s ++ without fate t :=
  List.flatMap_append

@[simp] theorem without_run (other : Fate) (lines : List Text) :
    without fate (run other lines) = if other = fate then [] else lines := by
  rw [run]
  split
  · next h => rw [h, ite_self, without_nil]
  · rw [without_cons, without_nil, List.append_nil]

/-- The old side of a script is what is left without its insertions. -/
theorem before_eq (s : Script) : s.before = s.without .insert := by
  have hrun : Run.before = fun r => if r.fate = .insert then [] else r.lines := by
    funext ⟨fate, lines⟩
    cases fate <;> rfl
  rw [before, hrun, without]

/-- The new side of a script is what is left without its deletions. -/
theorem after_eq (s : Script) : s.after = s.without .delete := by
  have hrun : Run.after = fun r => if r.fate = .delete then [] else r.lines := by
    funext ⟨fate, lines⟩
    cases fate <;> rfl
  rw [after, hrun, without]

/-- A run without lines or with them is the same backwards. -/
theorem reverse_run (other : Fate) (lines : List Text) :
    (run other lines).reverse = run other lines := by
  rw [run]
  split <;> rfl

end Script

open Script

/-! ### Slides -/

section Slides

variable {skipped : Fate} {lines : List Text} {s : Script} {c : Cursor}

/-- Of a deletion and an insertion, a reading skips one. -/
theorem eq_or_eq_of_ne {fate other : Fate} (hskipped : skipped ≠ .keep) (hfate : fate ≠ .keep)
    (hother : other ≠ .keep) (hne : fate ≠ other) : fate = skipped ∨ other = skipped := by
  cases skipped <;> cases fate <;> cases other <;> simp_all

/-- Lines that are kept are read before what they are put in front of. -/
theorem without_pushKept (hskipped : skipped ≠ .keep) :
    without skipped (pushKept lines s) = lines ++ without skipped s := by
  unfold pushKept
  split <;> simp [hskipped.symm]

/-- Lines that are kept below the runs above are read after them. -/
theorem without_reverse_pushKeptAbove (hskipped : skipped ≠ .keep) :
    without skipped (pushKeptAbove lines s).reverse = without skipped s.reverse ++ lines := by
  unfold pushKeptAbove
  split <;> simp [hskipped.symm]

/-- What is read of a script that is held open: the runs above, the run in focus, the runs below. -/
theorem without_script (c : Cursor) : without skipped c.script
    = without skipped c.above.reverse ++ ((if c.focus.fate = skipped then [] else c.focus.lines)
        ++ without skipped c.below) :=
  without_append

variable {above below : Script} {left rest shared : List Text}

/-- Lines that end both a kept run and the inserted run below it move from above the insertion to
below it. -/
theorem without_shift_up (hskipped : skipped ≠ .keep) :
    without skipped
        (Cursor.mk (run .keep left ++ above) ⟨.insert, shared ++ rest⟩
          (pushKept shared below)).script
      = without skipped
        (Cursor.mk (⟨.keep, left ++ shared⟩ :: above) ⟨.insert, rest ++ shared⟩ below).script := by
  rw [without_script, without_script, without_pushKept hskipped]
  by_cases h : Fate.insert = skipped <;> simp [reverse_run, hskipped.symm, h]

/-- Lines that begin both a kept run and the inserted run above it move from below the insertion to
above it. -/
theorem without_shift_down (hskipped : skipped ≠ .keep) :
    without skipped (Cursor.mk (pushKeptAbove shared above) ⟨.insert, rest ++ shared⟩
        (run .keep left ++ below)).script
      = without skipped (Cursor.mk above ⟨.insert, shared ++ rest⟩
        (⟨.keep, shared ++ left⟩ :: below)).script := by
  rw [without_script, without_script, without_reverse_pushKeptAbove hskipped]
  by_cases h : Fate.insert = skipped <;> simp [hskipped.symm, h]

/-- Two neighbours of the same fate are read as one run of it. -/
theorem without_join (fate : Fate) (upper lower : List Text) (s : Script) :
    without skipped (⟨fate, upper ++ lower⟩ :: s)
      = without skipped (⟨fate, upper⟩ :: ⟨fate, lower⟩ :: s) := by
  by_cases h : fate = skipped <;> simp [h]

/-- A deletion and an insertion are read the same in either order. -/
theorem without_swap (hskipped : skipped ≠ .keep) {q r : Run} (hq : q.fate ≠ .keep)
    (hr : r.fate ≠ .keep) (hne : q.fate ≠ r.fate) (s : Script) :
    without skipped (q :: r :: s) = without skipped (r :: q :: s) := by
  rcases eq_or_eq_of_ne hskipped hq hr hne with h | h <;> simp [h]

/-- What stops no edit of either kind is no kept run. -/
theorem ne_keep_of_edit {fate other : Fate} (hkept : fate ≠ .keep)
    (hinsert : fate = .insert → other ≠ .keep) (hdelete : fate = .delete → other ≠ .keep) :
    other ≠ .keep := by
  cases fate with
  | keep => exact absurd rfl hkept
  | insert => exact hinsert rfl
  | delete => exact hdelete rfl

/-- The runs above are kept backwards, so the nearest one stands before the focus. -/
theorem script_cons (r focus : Run) :
    (Cursor.mk (r :: above) focus below).script = above.reverse ++ r :: focus :: below := by
  rw [Cursor.script, List.reverse_cons, List.append_assoc]
  rfl

/-- **A slide up** changes neither reading. -/
theorem without_slideUp (hskipped : skipped ≠ .keep) (steps : Nat) (c : Cursor) :
    without skipped (slideUp steps c).script = without skipped c.script := by
  -- on the steps, each of which is one of the moves above
  induction steps generalizing c with
  | zero => rfl
  | succ steps ih =>
    obtain ⟨above, ⟨fate, lower⟩, below⟩ := c
    match above with
    | [] => rfl
    | ⟨other, upper⟩ :: above =>
      rw [slideUp]
      dsimp only
      split
      · -- an insertion below a kept run moves by the lines that end both
        split
        · rfl
        · -- the shared lines stand at both ends before and after, so that both texts fit together
          have hshared := drop_commonBack upper lower
          have hupper := List.take_append_drop (upper.length - commonBack upper lower) upper
          have hlower := List.take_append_drop (lower.length - commonBack upper lower) lower
          rw [ih, without_shift_up hskipped, ← hshared, hupper, hshared, hlower]
      · rfl
      · rfl
      · next hkept hinsert hdelete =>
        have hother := ne_keep_of_edit hkept hinsert hdelete
        split
        · -- a run of the same fate is joined
          next heq =>
          subst heq
          rw [ih, script_cons, Cursor.script, without_append, without_append, without_join]
        · -- an edit of the other kind changes places with the run
          next hne =>
          rw [ih, script_cons, Cursor.script, without_append, without_append,
            without_swap hskipped hkept hother hne]

/-- **A slide down** changes neither reading. -/
theorem without_slideDown (hskipped : skipped ≠ .keep) (steps : Nat) (c : Cursor) :
    without skipped (slideDown steps c).script = without skipped c.script := by
  -- on the steps, as for a slide up
  induction steps generalizing c with
  | zero => rfl
  | succ steps ih =>
    obtain ⟨above, ⟨fate, upper⟩, below⟩ := c
    match below with
    | [] => rfl
    | ⟨other, lower⟩ :: below =>
      rw [slideDown]
      dsimp only
      split
      · -- an insertion above a kept run moves by the lines that begin both
        split
        · rfl
        -- the shared lines stand at both ends, as above
        · have hshared := take_commonFront lower upper
          have hlower := List.take_append_drop (commonFront lower upper) lower
          have hupper := List.take_append_drop (commonFront lower upper) upper
          rw [ih, without_shift_down hskipped, hupper, ← hshared, hlower]
      · rfl
      · rfl
      · next hkept hinsert hdelete =>
        have hother := ne_keep_of_edit hkept hinsert hdelete
        split
        · next heq =>
          subst heq
          rw [ih, Cursor.script, Cursor.script, without_append, without_append, without_join]
        · next hne =>
          rw [ih, script_cons, Cursor.script, without_append, without_append,
            without_swap hskipped hother hkept (Ne.symm hne)]

/-- **Compaction** changes neither reading. -/
theorem without_slideAll (hskipped : skipped ≠ .keep) (fate : Fate) (steps : Nat)
    (above below : Script) :
    without skipped (slideAll fate steps above below)
      = without skipped (above.reverse ++ below) := by
  -- the runs above have been slid already, those below are still to be slid
  induction steps generalizing above below with
  | zero => rfl
  | succ steps ih =>
    cases below with
    | nil => rw [slideAll, List.append_nil]
    | cons r below =>
      rw [slideAll]
      split
      · -- the run is slid up and then down, and the slides go on below it
        extract_lets up down
        calc without skipped (slideAll fate steps (down.focus :: down.above) down.below)
          _ = without skipped down.script := by
            rw [ih, List.reverse_cons, List.append_assoc, Cursor.script]
            rfl
          _ = without skipped (above.reverse ++ r :: below) := by
            rw [without_slideDown hskipped, without_slideUp hskipped, Cursor.script]
      · rw [ih, List.reverse_cons, List.append_assoc]
        rfl

/-- Both passes of slides change neither reading. -/
theorem without_compact (hskipped : skipped ≠ .keep) (s : Script) :
    without skipped (compact s) = without skipped s := by
  rw [compact, without_slideAll hskipped, List.reverse_nil, List.nil_append,
    without_slideAll hskipped, List.reverse_nil, List.nil_append]

end Slides

/-! ### The script that is shown -/

/-- Deletions and insertions that are still to be placed are read before what follows. -/
theorem without_gatherFrom {skipped : Fate} (hskipped : skipped ≠ .keep)
    (deleted inserted : List Text) (s : Script) :
    without skipped (gatherFrom deleted inserted s)
      = (if Fate.delete = skipped then [] else deleted)
        ++ ((if Fate.insert = skipped then [] else inserted) ++ without skipped s) := by
  -- on the runs, deletions and insertions being put aside until a kept run comes
  induction s generalizing deleted inserted with
  | nil => rw [gatherFrom, without_append, without_run, without_run, without_nil, List.append_nil]
  | cons r s ih =>
    obtain ⟨fate, lines⟩ := r
    cases fate with
    | keep => simp [gatherFrom, ih]
    | delete =>
      rw [gatherFrom, ih]
      cases skipped <;> simp_all
    | insert =>
      rw [gatherFrom, ih]
      cases skipped <;> simp_all

/-- **Gathering** changes neither reading. -/
theorem without_gather {skipped : Fate} (hskipped : skipped ≠ .keep) (s : Script) :
    without skipped (gather s) = without skipped s := by
  rw [gather, without_gatherFrom hskipped, ite_self, ite_self]
  rfl

/-- **The old side.** Without its insertions, the script between two texts is the lines of the old
one. -/
theorem without_insert_script (before after : Text) :
    without .insert (script before after) = fullLines before := by
  rw [script, without_gather (by decide), without_compact (by decide), ← before_eq, before_align]

/-- **The new side.** Without its deletions, the script between two texts is the lines of the new
one. -/
theorem without_delete_script (before after : Text) :
    without .delete (script before after) = fullLines after := by
  rw [script, without_gather (by decide), without_compact (by decide), ← after_eq, after_align]

/-! ### Equal texts -/

/-- A list begins as it does itself, to its end. -/
theorem commonFront_self (ls : List Text) : commonFront ls ls = ls.length := by
  induction ls with
  | nil => rfl
  | cons l ls ih => rw [commonFront, if_pos rfl, ih, List.length_cons]

/-- A list is aligned with itself by keeping it. -/
theorem align_self (ls : List Text) : align ls ls = run .keep ls := by
  rw [align, alignWithin]
  simp [commonFront_self, run]

/-- Kept runs are not slid. -/
theorem slideAll_of_keep {fate : Fate} (hfate : fate ≠ .keep) {below : Script}
    (hbelow : ∀ r ∈ below, r.fate = .keep) (steps : Nat) (above : Script) :
    slideAll fate steps above below = above.reverse ++ below := by
  induction below generalizing steps above with
  | nil => cases steps <;> simp [slideAll]
  | cons r below ih =>
    rw [List.forall_mem_cons] at hbelow
    cases steps with
    | zero => rfl
    | succ steps =>
      rw [slideAll, if_neg (by rw [hbelow.1]; exact hfate.symm), ih hbelow.2, List.reverse_cons,
        List.append_assoc]
      rfl

/-- Kept runs stay where they are. -/
theorem gather_of_keep {s : Script} (h : ∀ r ∈ s, r.fate = .keep) : gather s = s := by
  rw [gather]
  induction s with
  | nil => rfl
  | cons r s ih =>
    rw [List.forall_mem_cons] at h
    rw [gatherFrom, h.1, ih h.2]
    rfl

/-- **Equal texts** have a script that only keeps lines. -/
theorem script_self (t : Text) : script t t = run .keep (fullLines t) := by
  have hkeep : ∀ r ∈ run .keep (fullLines t), r.fate = .keep := by
    intro r hr
    rw [run] at hr
    split at hr
    · cases hr
    · rw [List.mem_singleton.mp hr]
  rw [script, align_self, compact, slideAll_of_keep (by decide) hkeep, List.reverse_nil,
    List.nil_append, slideAll_of_keep (by decide) hkeep, List.reverse_nil, List.nil_append,
    gather_of_keep hkeep]

end VendorCli.Diff
