import VendorCli.Path.Basic
/-!
# Reading a path

The written form of a path is a slash followed by elements with one slash between neighbours. An
element is a name and any number of keys `[name=value]`. A value may hold slashes, so the text is
first cut at the slashes outside brackets; each piece is then read on its own, from the left, and
the first fault met is the one reported.
-/

namespace VendorCli

/-- What can be wrong with the text of a path. -/
inductive PathFault where
  | noLeadingSlash
  | emptyElement
  | unclosedBracket
  | keyWithoutValue
  | keyWithoutElement
  | textAfterKey
  | trailingSlash
deriving DecidableEq, Repr

/-- The fault in words. -/
def PathFault.message : PathFault → Text
  | .noLeadingSlash => "must start with '/'"
  | .emptyElement => "empty element"
  | .unclosedBracket => "unclosed '['"
  | .keyWithoutValue => "key must be name=value"
  | .keyWithoutElement => "key without element"
  | .textAfterKey => "unexpected text after key"
  | .trailingSlash => "trailing '/'"

namespace ConfigPath

/-- Cut a text at the slashes that stand outside brackets. The flag says whether a bracket is
open; a bracket opened inside another is ordinary text. -/
def pieces : Bool → Text → List Text
  | _, [] => [[]]
  | inKey, c :: rest =>
    if c = '/' ∧ inKey = false then [] :: pieces false rest
    else
      let inKey' := if inKey then c ≠ ']' else c = '['
      match pieces inKey' rest with
      | [] => [[c]]
      | first :: others => (c :: first) :: others

/-- The keys written after an element's name. -/
def readKeys (name : Text) (t : Text) : Except PathFault (List (Text × Text)) :=
  match t with
  | [] => .ok []
  | c :: rest =>
    if c = '[' then
      match _hsplit : Text.splitOnce? ']' rest with
      | none => .error .unclosedBracket
      | some (body, after) =>
        match Text.splitOnce? '=' body with
        | none => .error .keyWithoutValue
        | some (k, v) =>
          if name = [] then .error .keyWithoutElement
          else (readKeys name after).map fun more => (Text.trim k, Text.trim v) :: more
    else .error .textAfterKey
termination_by t.length
decreasing_by
  have := Text.splitOnce?_length _hsplit
  simp only [List.length_cons]
  omega

/-- One element. Only a piece without keys can lack a name and still come this far; `missing` says
what that means where the piece stands. -/
def readElement (missing : PathFault) (piece : Text) : Except PathFault PathElement :=
  let name := piece.takeWhile (· ≠ '[')
  match readKeys name (piece.dropWhile (· ≠ '[')) with
  | .error fault => .error fault
  | .ok keys => if name = [] then .error missing else .ok ⟨name, keys⟩

/-- The elements of the pieces, the first fault winning. An empty piece is a missing element, at
the end a slash too many. -/
def readElements : List Text → Except PathFault (List PathElement)
  | [] => .ok []
  | [last] => (readElement .trailingSlash last).map ([·])
  | piece :: rest =>
    match readElement .emptyElement piece with
    | .error fault => .error fault
    | .ok e => (readElements rest).map (e :: ·)

/-- The path that a text stands for, blanks around it aside. -/
def ofText (t : Text) : Except PathFault ConfigPath :=
  match Text.trim t with
  | '/' :: [] => .ok root
  | '/' :: body => (readElements (pieces false body)).map (⟨·⟩)
  | _ => .error .noLeadingSlash

end VendorCli.ConfigPath
