import VendorCli.Text.Basic
/-!
# Sections of a configuration

A section is a configuration line with the sections nested under it. `flatten` writes a section
with one space of indentation a level; `outline` lists its lines from the top down with their
depth.
-/

namespace VendorCli

/-- A configuration line, trimmed, with its indentation in the source and what is nested under
it. -/
structure Section where
  line : Text
  indent : Nat
  children : List Section
deriving Repr

namespace Section

mutual

/-- The lines of a section, each one space further in than its parent. -/
def flatten (base : Nat) : Section → List Text
  | ⟨line, _, children⟩ => (Text.spaces base ++ line) :: flattenAll (base + 1) children

/-- The lines of several sections. -/
def flattenAll (base : Nat) : List Section → List Text
  | [] => []
  | s :: rest => flatten base s ++ flattenAll base rest

end

/-- The lines of a section without its own, one space further in than it. -/
def bodyLines (s : Section) : List Text :=
  flattenAll 1 s.children

mutual

/-- A section's lines from the top down, each with its depth and its indentation in the source. -/
def outline (depth : Nat) : Section → List (Nat × Nat × Text)
  | ⟨line, indent, children⟩ => (depth, indent, line) :: outlineAll (depth + 1) children

/-- The lines of several sections from the top down. -/
def outlineAll (depth : Nat) : List Section → List (Nat × Nat × Text)
  | [] => []
  | s :: rest => outline depth s ++ outlineAll depth rest

end

end VendorCli.Section
