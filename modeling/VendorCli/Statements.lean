import VendorCli.Text.Basic
/-!
# Set statements

A configuration in `set` form is a list of statements, one a line. `under` selects those of one
subtree and keeps what they say about it.
-/

namespace VendorCli.Statements

/-- What the statements of a configuration set under `subtree`, one text a statement. A statement
that names the subtree and nothing else says nothing about it. -/
def under (subtree config : Text) : List Text :=
  let lead : Text := "set " ++ Text.trim subtree ++ [' ']
  (Text.lines config).filterMap fun line =>
    match Text.dropLead? lead (Text.trim line) with
    | some rest =>
      let t := Text.trim rest
      if t = [] then none else some t
    | none => none

end VendorCli.Statements
