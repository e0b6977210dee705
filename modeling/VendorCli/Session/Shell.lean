import VendorCli.Number.Decimal
/-!
# Programs

Models of the few programs that a session can run without leaving the library: `echo`, `printf`,
`true`, `false`, `cat` and a small `sh`. A program is a function from its arguments to what it
writes and the status it exits with, so a session over programs can be run and compared. No result
of the library rests on what these models answer: what is said about sessions is said of any answer.

They stand for the programs of their names only as far as this:

* A program has no process of its own. There is no time (`sleep` does nothing), no environment, no
  working directory (`cd` always succeeds) and no file: a script in a file cannot be opened, and
  `/dev/null` is the only target of a redirection. The input is empty, so `cat` writes nothing, and
  it does not look at its arguments.
* What is written is a text and not bytes. An escape in base eight gives the character of its
  number, where the program would write the byte, so from 128 on the two differ.
* `printf` knows the directives `%s`, `%b`, `%c`, `%d`, `%i` and `%%`, without flags, widths or
  precisions, and refuses every other one with a fixed message. For a number that it cannot read, or
  that has no place in 64 bits, it prints zero and does not complain.
* The shell knows lists of commands with `;`, `&&` and `||`, quotes, comments, the parameters `$0`,
  `$1`, …, `$@`, `$*` and `$#`, redirection of the two output streams to each other and to
  `/dev/null`, and the commands above besides `exit`, `:`, `cd` and `sleep`. It has no pipes, no
  jobs in the background, no conditionals, loops or functions, no assignments (a parameter with a
  name is empty), no substitution of commands and no patterns for names of files; a script that uses
  them is read as if their marks were ordinary characters.
* A name that is not listed here is not found: with the status 127 inside a script, and outside of
  one because there is no such program.
-/

namespace VendorCli.Shell

/-- What a program leaves behind. -/
structure Outcome where
  status : Nat
  output : Text
  errors : Text
deriving DecidableEq, Repr

/-- A program that succeeds with some output. -/
def Outcome.ofOutput (t : Text) : Outcome :=
  ⟨0, t, []⟩

/-- A program that does nothing but exit. -/
def Outcome.exit (status : Nat) : Outcome :=
  ⟨status, [], []⟩

/-! ### Escapes -/

/-- The value of some digits of base eight. -/
def octal (t : Text) : Nat :=
  t.foldl (fun n c => 8 * n + (c.toNat - 48)) 0

/-- Whether a character is a digit of base eight. -/
def isOctal (c : Char) : Bool :=
  '0' ≤ c && c ≤ '7'

/-- The character of an escape of one letter. -/
def escapeOf? (c : Char) : Option Char :=
  match c with
  | 'a' => some '\x07'
  | 'b' => some '\x08'
  | 'e' => some '\x1b'
  | 'f' => some '\x0c'
  | 'n' => some '\n'
  | 'r' => some '\r'
  | 't' => some '\t'
  | 'v' => some '\x0b'
  | '\\' => some '\\'
  | _ => none

/-- A text with its escapes resolved, and whether `\c` has cut it off. Codes of base eight start
with a zero if `leadingZero` says so. -/
def unescape (leadingZero : Bool) : Nat → Text → Text × Bool
  | 0, t => (t, false)
  | _, [] => ([], false)
  | steps + 1, '\\' :: c :: rest =>
    if c = 'c' then ([], true)
    else match escapeOf? c with
      | some d =>
        let (t, cut) := unescape leadingZero steps rest
        (d :: t, cut)
      | none =>
        let digits := if leadingZero then rest else c :: rest
        let run := (digits.take 3).takeWhile isOctal
        if (leadingZero ∧ c = '0') ∨ (¬ leadingZero ∧ isOctal c) then
          let (t, cut) := unescape leadingZero steps (digits.drop run.length)
          (Char.ofNat (octal run % 256) :: t, cut)
        else
          let (t, cut) := unescape leadingZero steps rest
          ('\\' :: c :: t, cut)
  | steps + 1, c :: rest =>
    let (t, cut) := unescape leadingZero steps rest
    (c :: t, cut)

/-- A text with its escapes resolved. -/
def unescaped (leadingZero : Bool) (t : Text) : Text × Bool :=
  unescape leadingZero (t.length + 1) t

/-! ### Single programs -/

/-- Whether an argument holds options of `echo`. -/
def isEchoOption (letters : Text) (t : Text) : Bool :=
  match t with
  | '-' :: c :: rest => (c :: rest).all fun d => letters.contains d
  | _ => false

/-- The arguments in one line. Options are `n` against the line break and `e` for escapes; which of
them there are is said by `letters`. -/
def echo (letters : Text) (escapes : Bool) (args : List Text) : Outcome :=
  let options := (args.takeWhile (isEchoOption letters)).flatten
  let words := args.dropWhile (isEchoOption letters)
  let escapes : Bool := match (options.filter fun c => c = 'e' || c = 'E').getLast? with
    | some c => c = 'e'
    | none => escapes
  let line := Text.unwords words
  let (t, cut) := if escapes then unescaped true line else (line, false)
  .ofOutput (if cut || options.contains 'n' then t else t ++ ['\n'])

/-- A number as `printf` reads it. -/
def printedNumber (t : Text) : Text :=
  match (Decimal.readInt Decimal.maxSigned64 (Text.trim t)).toOption with
  | some i => Decimal.ofInt i
  | none => ['0']

/-- One pass over a format: what is printed, the arguments left, whether any was asked for, and
whether printing ends here. A directive that does not exist gives none. -/
def formatOnce : Nat → Text → List Text → Option (Text × List Text × Bool × Bool)
  | 0, _, args => some ([], args, false, true)
  | _, [], args => some ([], args, false, false)
  | steps + 1, '%' :: '%' :: rest, args => do
    let (t, args, asked, ends) ← formatOnce steps rest args
    return ('%' :: t, args, asked, ends)
  | steps + 1, '%' :: c :: rest, args => do
    let arg := args.headD []
    let (piece, cut) ← match c with
      | 's' => some (arg, false)
      | 'b' => some (unescaped true arg)
      | 'c' => some (arg.take 1, false)
      | 'd' => some (printedNumber arg, false)
      | 'i' => some (printedNumber arg, false)
      | _ => none
    if cut then return (piece, args.drop 1, true, true)
    else
      let (t, args, _, ends) ← formatOnce steps rest (args.drop 1)
      return (piece ++ t, args, true, ends)
  | _ + 1, ['%'], _ => none
  | steps + 1, c :: rest, args => do
    let (t, args, asked, ends) ← formatOnce steps rest args
    return (c :: t, args, asked, ends)

/-- A format printed again and again until the arguments are used up. -/
def formatAll (format : Text) : Nat → List Text → Option Text
  | 0, _ => some []
  | rounds + 1, args => do
    let (t, left, asked, ends) ← formatOnce (format.length + 1) format args
    if ends || !asked || left.isEmpty then return t
    else return t ++ (← formatAll format rounds left)

/-- Print arguments in a format. -/
def printf (args : List Text) : Outcome :=
  match args with
  | [] => ⟨1, [], "printf: missing operand\n"⟩
  | format :: rest =>
    let (format, _) := unescaped false format
    match formatAll format (rest.length + 1) rest with
    | some t => .ofOutput t
    | none => ⟨1, [], "printf: invalid directive\n"⟩

/-! ### The shell -/

/-- What joins a command to the one before it. -/
inductive Joint where
  | always
  | ifSucceeded
  | ifFailed
deriving DecidableEq, Repr

/-- A part of a script. -/
inductive Token where
  | word (t : Text)
  | joint (j : Joint)
  | lineBreak
  /-- Send a stream where the other one goes, or nowhere. -/
  | redirect (stream : Nat) (target : Option Nat)
deriving DecidableEq, Repr

/-- The value of a parameter by its name. -/
def parameter (args : List Text) (name : Text) : Text :=
  if name = "@" ∨ name = "*" then Text.unwords (args.drop 1)
  else if name = "#" then Decimal.digitsOf (args.length - 1)
  else match Decimal.nat? Decimal.max32 name with
    | some i => args.getD i []
    | none => []

/-- The name of a parameter behind a dollar sign, and what follows. -/
def parameterName? (t : Text) : Option (Text × Text) :=
  match t with
  | '\x7b' :: rest =>
    (Text.splitOnce? '\x7d' rest).map fun parts => (parts.1, parts.2)
  | c :: rest =>
    if c.isDigit || c = '@' || c = '*' || c = '#' then some ([c], rest)
    else if c.isAlpha || c = '_' then
      let run := (c :: rest).takeWhile fun d => d.isAlphanum || d = '_'
      some (run, (c :: rest).drop run.length)
    else none
  | [] => none

/-- The redirection at the start of a text. -/
def redirection? (t : Text) : Option (Token × Text) :=
  let (stream, t) : Nat × Text := match t with
    | '1' :: '>' :: rest => (1, '>' :: rest)
    | '2' :: '>' :: rest => (2, '>' :: rest)
    | t => (1, t)
  match t with
  | '>' :: '&' :: '1' :: rest => some (.redirect stream (some 1), rest)
  | '>' :: '&' :: '2' :: rest => some (.redirect stream (some 2), rest)
  | '>' :: rest =>
    (Text.dropLead? "/dev/null" (rest.dropWhile fun c => c = ' ')).map fun rest =>
      (.redirect stream none, rest)
  | _ => none

/-- A word that is complete. -/
def finished (word : Option Text) : List Token :=
  match word with
  | some t => [.word t]
  | none => []

/-- The tokens of a script, given the word that has begun. Inside quotes `quote` is the mark that
ends them. None if a quote is never closed. -/
def tokens (args : List Text) : Nat → Option Char → Option Text → Text → Option (List Token)
  | 0, _, _, _ => none
  | _ + 1, none, word, [] => some (finished word)
  | _ + 1, some _, _, [] => none
  | steps + 1, some quote, word, c :: rest =>
    let sofar := word.getD []
    if c = quote then tokens args steps none (some sofar) rest
    else if quote = '"' ∧ c = '\\' then
      match rest with
      | d :: rest =>
        let kept : Text := if d = '"' ∨ d = '\\' ∨ d = '$' ∨ d = '`' then [d] else ['\\', d]
        tokens args steps (some quote) (some (sofar ++ kept)) rest
      | [] => none
    else if quote = '"' ∧ c = '$' then
      match parameterName? rest with
      | some (name, rest) =>
        tokens args steps (some quote) (some (sofar ++ parameter args name)) rest
      | none => tokens args steps (some quote) (some (sofar ++ [c])) rest
    else tokens args steps (some quote) (some (sofar ++ [c])) rest
  | steps + 1, none, word, c :: rest =>
    let break_ (t : List Token) (rest : Text) : Option (List Token) :=
      (tokens args steps none none rest).map fun more => finished word ++ t ++ more
    match if word.isNone || c = '>' then redirection? (c :: rest) else none with
    | some (r, rest) => break_ [r] rest
    | none =>
      match c, rest with
      | '&', '&' :: rest => break_ [.joint .ifSucceeded] rest
      | '|', '|' :: rest => break_ [.joint .ifFailed] rest
      | _, _ =>
        if c = ';' then break_ [.joint .always] rest
        else if c = '\n' then break_ [.joint .always, .lineBreak] rest
        else if c = ' ' ∨ c = '\t' then break_ [] rest
        else if c = '\'' ∨ c = '"' then tokens args steps (some c) (some (word.getD [])) rest
        else if c = '#' ∧ word.isNone then
          tokens args steps none none (rest.dropWhile fun d => d ≠ '\n')
        else if c = '\\' then
          match rest with
          | d :: rest => tokens args steps none (some (word.getD [] ++ [d])) rest
          | [] => some [.word (word.getD [] ++ [c])]
        else if c = '$' then
          match parameterName? rest with
          | some (name, rest) =>
            -- The value falls into words of its own.
            match Text.words (parameter args name) with
            | [] => tokens args steps none word rest
            | first :: more =>
              let words := (word.getD [] ++ first) :: more
              (tokens args steps none (words.getLast?) rest).map fun later =>
                words.dropLast.map Token.word ++ later
          | none => tokens args steps none (some (word.getD [] ++ [c])) rest
        else tokens args steps none (some (word.getD [] ++ [c])) rest

/-- One command of a script: what joins it to the one before, the line it is on, its words and its
redirections. -/
structure Simple where
  joint : Joint
  line : Nat
  words : List Text
  redirects : List (Nat × Option Nat)
deriving Repr

/-- The commands of a script. -/
def commands : List Token → Simple → List Simple
  | [], s => [s]
  | .word t :: rest, s => commands rest { s with words := s.words ++ [t] }
  | .redirect stream target :: rest, s =>
    commands rest { s with redirects := s.redirects ++ [(stream, target)] }
  | .joint j :: rest, s => s :: commands rest ⟨j, s.line, [], []⟩
  | .lineBreak :: rest, s => commands rest { s with line := s.line + 1 }

/-- What a command writes, after its redirections. -/
def redirected (redirects : List (Nat × Option Nat)) (o : Outcome) : Outcome :=
  let place : List (Nat × Option Nat) := redirects.foldl (fun place r =>
    let target := r.2.bind fun t => ((place.find? fun p => p.1 = t).bind (·.2))
    place.map fun p => if p.1 = r.1 then (p.1, target) else p) [(1, some 1), (2, some 2)]
  let goes (stream target : Nat) : Bool :=
    (place.find? fun p => p.1 = stream).bind (·.2) = some target
  { o with
    output := (if goes 1 1 then o.output else []) ++ (if goes 2 1 then o.errors else [])
    errors := (if goes 1 2 then o.output else []) ++ (if goes 2 2 then o.errors else []) }

/-- What a command of the shell does. -/
def builtin (line : Nat) (name : Text) (args : List Text) : Outcome :=
  if name = "echo" then echo "n" true args
  else if name = "printf" then printf args
  else if name = "false" then .exit 1
  else if name = "true" ∨ name = ":" ∨ name = "cat" ∨ name = "cd" ∨ name = "sleep" then .exit 0
  else ⟨127, [], "sh: " ++ Decimal.digitsOf line ++ ": " ++ name ++ ": not found\n"⟩

/-- Run commands one after the other, given what was written so far and the last status. -/
def runAll : List Simple → Outcome → Outcome
  | [], o => o
  | s :: rest, o =>
    let runs : Bool := match s.joint with
      | .always => true
      | .ifSucceeded => o.status = 0
      | .ifFailed => o.status ≠ 0
    if !runs then runAll rest o
    else match s.words with
      | [] => runAll rest o
      | name :: args =>
        if name = "exit" then
          { o with status := match args with
              | [] => o.status
              | t :: _ => ((Decimal.nat? Decimal.max32 t).getD 2) % 256 }
        else
          let r := redirected s.redirects (builtin s.line name args)
          runAll rest ⟨r.status, o.output ++ r.output, o.errors ++ r.errors⟩

/-- Run a script with arguments, the name of the shell first. -/
def runScript (script : Text) (args : List Text) : Outcome :=
  match tokens args (2 * script.length + 2) none none script with
  | some ts => runAll (commands ts ⟨.always, 1, [], []⟩) (.exit 0)
  | none => ⟨2, [], "sh: 1: Syntax error: Unterminated quoted string\n"⟩

/-- The shell as a program. -/
def shell (args : List Text) : Outcome :=
  match args with
  | ['-', 'c'] :: script :: [] => runScript script ["sh"]
  | ['-', 'c'] :: script :: rest => runScript script rest
  | [['-', 'c']] => ⟨2, [], "sh: 0: -c requires an argument\n"⟩
  | file :: _ => ⟨2, [], "sh: 0: cannot open " ++ file ++ ": No such file\n"⟩
  | [] => .exit 0

/-- The outcome of a program, if there is one of the name. -/
def run? (program : Text) (args : List Text) : Option Outcome :=
  if program = "echo" then some (echo "neE" false args)
  else if program = "printf" then some (printf args)
  else if program = "false" then some (.exit 1)
  else if program = "true" then some (.exit 0)
  else if program = "cat" then some (.exit 0)
  else if program = "sh" then some (shell args)
  else none

end VendorCli.Shell
