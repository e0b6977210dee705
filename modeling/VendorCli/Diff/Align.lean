import VendorCli.Diff.Middle
/-!
# Aligning two lists of lines

`align` makes an edit script with few edits. Lines in common at both ends are kept; what is left is
divided where a shortest script passes, and the two parts are aligned on their own.

* `before_align`, `after_align` — whatever the dividing points are, the script leads from the one
  list to the other.
-/

namespace VendorCli.Diff

/-- An edit script, dividing at most `depth` times. -/
def alignWithin : Nat → List Text → List Text → Script
  | 0, old, new => Script.run .delete old ++ Script.run .insert new
  | depth + 1, old, new =>
    let front := commonFront old new
    let old' := old.drop front
    let new' := new.drop front
    let back := commonBack old' new'
    let oldMiddle := old'.take (old'.length - back)
    let newMiddle := new'.take (new'.length - back)
    let inner : Script :=
      if oldMiddle = [] ∨ newMiddle = [] then
        Script.run .delete oldMiddle ++ Script.run .insert newMiddle
      else match middle? oldMiddle newMiddle with
        | some (x, y) =>
          alignWithin depth (oldMiddle.take x) (newMiddle.take y)
            ++ alignWithin depth (oldMiddle.drop x) (newMiddle.drop y)
        | none => Script.run .delete oldMiddle ++ Script.run .insert newMiddle
    Script.run .keep (old.take front) ++ inner
      ++ Script.run .keep (old'.drop (old'.length - back))

/-- An edit script from one list to another. -/
def align (old new : List Text) : Script :=
  alignWithin (old.length + new.length + 1) old new

theorem readings_alignWithin (depth : Nat) (old new : List Text) :
    (alignWithin depth old new).before = old ∧ (alignWithin depth old new).after = new := by
  -- one list deleted and the other inserted
  have hreplace : ∀ old new : List Text,
      (Script.run .delete old ++ Script.run .insert new).before = old ∧
        (Script.run .delete old ++ Script.run .insert new).after = new := by
    intro old new
    simp [Run.before, Run.after]
  induction depth generalizing old new with
  | zero => exact hreplace old new
  | succ depth ih =>
    generalize hs : alignWithin (depth + 1) old new = s
    unfold alignWithin at hs
    extract_lets front old' new' back oldMiddle newMiddle inner at hs
    subst hs
    have hinner : inner.before = oldMiddle ∧ inner.after = newMiddle := by
      dsimp only [inner]
      split
      · exact hreplace oldMiddle newMiddle
      · split
        · next x y _ =>
          obtain ⟨hold₁, hnew₁⟩ := ih (oldMiddle.take x) (newMiddle.take y)
          obtain ⟨hold₂, hnew₂⟩ := ih (oldMiddle.drop x) (newMiddle.drop y)
          simp only [Script.before_append, Script.after_append, hold₁, hnew₁, hold₂, hnew₂,
            List.take_append_drop, and_self]
        · exact hreplace oldMiddle newMiddle
    have hfront : old.take front = new.take front := take_commonFront old new
    have hback : old'.drop (old'.length - back) = new'.drop (new'.length - back) :=
      drop_commonBack old' new'
    constructor
    · calc
        _ = old.take front ++ oldMiddle ++ old'.drop (old'.length - back) := by
          rw [Script.before_append, Script.before_append, Script.before_run,
            Script.before_run, hinner.1]
          rfl
        _ = old := by rw [List.append_assoc, List.take_append_drop, List.take_append_drop]
    · calc
        _ = new.take front ++ newMiddle ++ new'.drop (new'.length - back) := by
          rw [Script.after_append, Script.after_append, Script.after_run, Script.after_run,
            hinner.2,
            hfront, hback]
          rfl
        _ = new := by rw [List.append_assoc, List.take_append_drop, List.take_append_drop]

/-- Read without its insertions, the script is the old list. -/
theorem before_align (old new : List Text) : (align old new).before = old :=
  (readings_alignWithin _ old new).1

/-- Read without its deletions, it is the new list. -/
theorem after_align (old new : List Text) : (align old new).after = new :=
  (readings_alignWithin _ old new).2

end VendorCli.Diff
