import VendorCli.Section.Reader
/-!
# Looking for a section

A section is named by the chain of lines that leads to it, from the top. At each step the first
section with the line is taken, and no other is tried.
-/

namespace VendorCli.Section

/-- The first of several sections whose line is this one, blanks around it aside. -/
def findLine? (line : Text) (sections : List Section) : Option Section :=
  sections.find? fun s => s.line = Text.trim line

/-- The section that a chain of lines leads to. -/
def find? (sections : List Section) : List Text → Option Section
  | [] => none
  | [line] => findLine? line sections
  | line :: more => (findLine? line sections).bind fun s => find? s.children more

/-- The direct sub-commands of a section, each on a line of its own behind one space. Of a nested
section only its first line is there, so that its settings are not taken for those of the section
around it. -/
def body (s : Section) : Text :=
  Text.unlines (s.children.map fun c => ' ' :: c.line)

/-- The direct sub-commands of the first top-level section with this line. -/
def bodyOf? (config header : Text) : Option Text :=
  (find? (ofConfig config) [header]).map body

end VendorCli.Section
