import VendorCli.Text.Basic
/-!
# Words of a command line

A line is cut into words as a shell does it: at blanks, except inside quotes or behind a backslash.
Inside double quotes a backslash only counts before `$`, a backquote, a double quote, a backslash
or a line break. A `#` at the start of a word begins a comment.

`Words.split?` gives the words; a quote that is never closed is a fault.
-/

namespace VendorCli.Words

/-- Where the reading of a line stands. -/
inductive Place where
  /-- Between words. -/
  | between
  /-- Between words, behind a backslash. -/
  | betweenEscaped
  | inWord
  | inWordEscaped
  | inSingle
  | inDouble
  | inDoubleEscaped
  | inComment
deriving DecidableEq, Repr

/-- Whether a character separates words. -/
def isSeparator (c : Char) : Bool :=
  c = ' ' ∨ c = '\t' ∨ c = '\n'

/-- The words from a place on, given the word that has begun. -/
def from? : Place → Text → Text → Option (List Text)
  | .between, _, [] => some []
  | .betweenEscaped, _, [] => some [['\\']]
  | .inWord, word, [] => some [word]
  | .inWordEscaped, word, [] => some [word ++ ['\\']]
  | .inComment, _, [] => some []
  | .inSingle, _, [] => none
  | .inDouble, _, [] => none
  | .inDoubleEscaped, _, [] => none
  | .between, _, c :: rest =>
    if c = '\'' then from? .inSingle [] rest
    else if c = '"' then from? .inDouble [] rest
    else if c = '\\' then from? .betweenEscaped [] rest
    else if c = '#' then from? .inComment [] rest
    else if isSeparator c then from? .between [] rest
    else from? .inWord [c] rest
  | .betweenEscaped, _, c :: rest =>
    if c = '\n' then from? .between [] rest else from? .inWord [c] rest
  | .inWord, word, c :: rest =>
    if c = '\'' then from? .inSingle word rest
    else if c = '"' then from? .inDouble word rest
    else if c = '\\' then from? .inWordEscaped word rest
    else if isSeparator c then (from? .between [] rest).map (word :: ·)
    else from? .inWord (word ++ [c]) rest
  | .inWordEscaped, word, c :: rest =>
    from? .inWord (if c = '\n' then word else word ++ [c]) rest
  | .inSingle, word, c :: rest =>
    if c = '\'' then from? .inWord word rest else from? .inSingle (word ++ [c]) rest
  | .inDouble, word, c :: rest =>
    if c = '"' then from? .inWord word rest
    else if c = '\\' then from? .inDoubleEscaped word rest
    else from? .inDouble (word ++ [c]) rest
  | .inDoubleEscaped, word, c :: rest =>
    if c = '\n' then from? .inDouble word rest
    else if c = '$' ∨ c = '`' ∨ c = '"' ∨ c = '\\' then from? .inDouble (word ++ [c]) rest
    else from? .inDouble (word ++ ['\\', c]) rest
  | .inComment, _, c :: rest =>
    if c = '\n' then from? .between [] rest else from? .inComment [] rest

/-- The words of a line, if all its quotes are closed. -/
def split? (line : Text) : Option (List Text) :=
  from? .between [] line

end VendorCli.Words
