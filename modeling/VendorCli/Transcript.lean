import VendorCli.Text.Basic
/-!
# Transcripts

What a device sends back when a command is typed at it: the echo of the command, the answer, and
then a prompt. `clean` recovers the answer. It drops the first line if that ends with the command,
and from the end all blank lines and all lines that look like a prompt: no blank inside, `#` or
`>` at the end, and more than that one character.
-/

namespace VendorCli.Transcript

/-- Whether a trimmed line looks like a prompt. -/
def isPrompt (line : Text) : Bool :=
  !line.any Text.isBlank && (Text.endsWith ['#'] line || Text.endsWith ['>'] line)
    && decide (1 < line.length)

/-- Whether a line at the end of a transcript is no part of the answer. -/
def isTrailer (line : Text) : Bool :=
  let t := Text.trim line
  t.isEmpty || isPrompt t

/-- The lines without the echo of a command. An empty command has no echo. -/
def dropEcho (command : Text) : List Text → List Text
  | [] => []
  | first :: rest =>
    if !command.isEmpty && Text.endsWith (Text.trim command) (Text.trim first) then rest
    else first :: rest

/-- The lines without blank lines and prompts at the end. -/
def dropTrailers (ls : List Text) : List Text :=
  (ls.reverse.dropWhile isTrailer).reverse

/-- The answer to a command within a transcript. -/
def clean (command output : Text) : Text :=
  Text.unlines (dropTrailers (dropEcho command (Text.lines output)))

end VendorCli.Transcript
