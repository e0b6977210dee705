import VendorCli.Section.Basic
/-!
# Reading sections from indentation

Running configurations nest lines by indentation: a line belongs to the closest line before it that
is indented less. Blank lines and separators (lines that start with `!` or `#`) count for nothing.

* `keptLines` are the lines that count, with their indentation in bytes;
* `nest` turns them into sections: a line takes all lines up to the next one that is not indented
  further.
-/

namespace VendorCli.Section

/-- A line that counts, trimmed, with its indentation. -/
abbrev KeptLine := Nat × Text

/-- How far a line is indented, in bytes. -/
def indentation (line : Text) : Nat :=
  Text.byteLength (line.takeWhile Text.isBlank)

/-- Whether a trimmed line counts. -/
def isKept (line : Text) : Bool :=
  match line with
  | [] => false
  | c :: _ => c ≠ '!' && c ≠ '#'

/-- The lines of a text that count. -/
def keptLines (config : Text) : List KeptLine :=
  (Text.lines config).filterMap fun line =>
    let t := Text.trim line
    if isKept t then some (indentation line, t) else none

/-- Nest lines by their indentation. -/
def nest : List KeptLine → List Section
  | [] => []
  | (indent, line) :: rest =>
    -- What is indented further belongs to the line, up to the first line that is not.
    ⟨line, indent, nest (rest.takeWhile fun l => indent < l.1)⟩
      :: nest (rest.dropWhile fun l => indent < l.1)
termination_by ls => ls.length
decreasing_by
  · have := (List.takeWhile_sublist (l := rest) fun l : KeptLine => indent < l.1).length_le
    simp only [List.length_cons]
    omega
  · have := (List.dropWhile_sublist (l := rest) fun l : KeptLine => indent < l.1).length_le
    simp only [List.length_cons]
    omega

/-- The top-level sections of a configuration. -/
def ofConfig (config : Text) : List Section :=
  nest (keptLines config)

end VendorCli.Section
