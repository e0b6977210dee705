import VendorCli.Output.Lines
import VendorCli.Proofs.Section.Nesting
/-!
# All lines of sections

Nesting loses no line and changes the order of none: from the top down, the outline of the sections
that lines are nested into has exactly these lines (`map_snd_outlineAll_nest`). What is looked for
in an output line by line, whatever the nesting, is therefore looked for in the lines of its
sections at every depth (`findSome?_allLines`).
-/

namespace VendorCli.Section

@[simp] theorem outlineAll_nil (depth : Nat) : outlineAll depth [] = [] := by
  rw [outlineAll]

/-- A section's own line comes first, then what is nested under it, then the other sections. -/
theorem outlineAll_cons (depth : Nat) (s : Section) (rest : List Section) :
    outlineAll depth (s :: rest)
      = (depth, s.indent, s.line)
        :: (outlineAll (depth + 1) s.children ++ outlineAll depth rest) := by
  obtain ⟨line, indent, children⟩ := s
  rw [outlineAll, outline, List.cons_append]

/-- **Nesting is lossless.** The outline of nested lines has them all, each once and in order. -/
theorem map_snd_outlineAll_nest (depth : Nat) (ls : List KeptLine) :
    (outlineAll depth (nest ls)).map (·.2) = ls := by
  -- what a line takes and what it leaves are nested apart, and are the rest when put together again
  induction ls using nest.induct generalizing depth with
  | case1 => rw [nest_nil, outlineAll_nil, List.map_nil]
  | case2 indent line rest ihtake ihdrop =>
    rw [nest, outlineAll_cons, List.map_cons, List.map_append, ihtake, ihdrop,
      List.takeWhile_append_dropWhile]

/-- The lines of sections at every depth, from the top down. -/
def allLines (sections : List Section) : List Text :=
  (outlineAll 0 sections).map (·.2.2)

/-- The sections of a configuration have its kept lines. -/
theorem allLines_ofConfig (config : Text) :
    allLines (ofConfig config) = (keptLines config).map (·.2) := by
  have hlines := congrArg (List.map Prod.snd) (map_snd_outlineAll_nest 0 (keptLines config))
  rw [List.map_map] at hlines
  exact hlines

/-- **Searching by line.** What only lines that count can hold is found at some depth in the
sections of a configuration, and the first that is found is the first in the text. -/
theorem findSome?_allLines {α : Type} {f : Text → Option α}
    (hf : ∀ l, isKept l = false → f l = none) (config : Text) :
    (allLines (ofConfig config)).findSome? f = (Output.trimmedLines 0 config).findSome? f := by
  rw [allLines_ofConfig, keptLines_eq, Output.trimmedLines, List.drop_zero]
  -- on the lines of the text; one that does not count is not in the outline and tells nothing
  induction Text.lines config with
  | nil => rfl
  | cons l ls ih =>
    rw [List.map_cons, List.findSome?_cons, ← ih]
    cases hkept : isKept (Text.trim l) with
    | true => rw [List.filterMap_cons_some (keptLine?_of_kept hkept), List.map_cons,
        List.findSome?_cons]
    | false => rw [List.filterMap_cons_none (keptLine?_of_not_kept hkept), hf _ hkept]

end VendorCli.Section
