import VendorCli.Template.Syntax
import VendorCli.Template.Token
import VendorCli.Text.Table
/-!
# Reading templates

The grammar of templates as functions from tokens to expressions and statements. Operators bind,
from the loosest to the tightest: `… if … else …`, `or`, `and`, `not`, comparisons and `in`, `+` and
`-`, `~`, the multiplications, `**`, and then a sign, what follows an operand (`.name`, `[index]`, a
call), filters and tests.

The functions call each other in depth, with a bound on the number of calls that grows with the
number of tokens; `Template.read` is the whole of it.
-/

namespace VendorCli.Template

namespace Reader

/-! ### Single tokens -/

/-- What is wrong where the next token does not fit. -/
def fault {α : Type} : List Token → Except ReadFault α
  | .fault f :: _ => .error f
  | _ => .error .grammar

/-- The tokens after a symbol, if they start with it. -/
def skip? (s : Symbol) : List Token → Option (List Token)
  | .symbol t :: rest => if t = s then some rest else none
  | _ => none

/-- The tokens after a word, if they start with it. -/
def skipWord? (word : Text) : List Token → Option (List Token)
  | .name t :: rest => if t = word then some rest else none
  | _ => none

/-- The tokens after a symbol that has to be there. -/
def expect (s : Symbol) (ts : List Token) : Except ReadFault (List Token) :=
  match skip? s ts with
  | some rest => .ok rest
  | none => fault ts

/-- The tokens after a word that has to be there. -/
def expectWord (word : Text) (ts : List Token) : Except ReadFault (List Token) :=
  match skipWord? word ts with
  | some rest => .ok rest
  | none => fault ts

/-- The tokens after the end of a statement tag. -/
def expectEnd : List Token → Except ReadFault (List Token)
  | .statementEnd :: rest => .ok rest
  | ts => fault ts

/-- A name. -/
def anyName : List Token → Except ReadFault (Text × List Token)
  | .name t :: rest => .ok (t, rest)
  | ts => fault ts

/-! ### Operators -/

/-- Operators that are symbols, with their levels. -/
def symbolOps : List (Symbol × Nat × BinaryOp) :=
  [(.equal, 3, .equal), (.notEqual, 3, .notEqual), (.less, 3, .less), (.lessEqual, 3, .lessEqual),
   (.greater, 3, .greater), (.greaterEqual, 3, .greaterEqual), (.plus, 4, .add), (.minus, 4, .sub),
   (.tilde, 5, .concat), (.star, 6, .mul), (.slash, 6, .div), (.floorSlash, 6, .floorDiv),
   (.percent, 6, .rem), (.power, 7, .pow)]

/-- Operators that are words, with their levels. -/
def wordOps : List (Text × Nat × BinaryOp) :=
  [("or", 0, .or), ("and", 1, .and), ("in", 3, .isIn)]

/-- The operator of a level at the start of the tokens, whether its result is negated, and the
tokens after it. -/
def operator? (level : Nat) : List Token → Option (BinaryOp × Bool × List Token)
  | .symbol s :: rest =>
    match symbolOps.find? fun o => o.1 = s with
    | some (_, l, op) => if l = level then some (op, false, rest) else none
    | none => none
  | .name w :: rest =>
    match lookup? w wordOps with
    | some (l, op) => if l = level then some (op, false, rest) else none
    | none =>
      if w = "not" ∧ level = 3 then
        (skipWord? "in" rest).map fun rest => (.isIn, true, rest)
      else none
  | _ => none

/-- The level of `not`. -/
def notLevel : Nat := 2

/-- The level of operands. -/
def operandLevel : Nat := 8

/-- The constants that are words. -/
def constants : List (Text × Value) :=
  [("true", .bool true), ("True", .bool true), ("false", .bool false), ("False", .bool false),
   ("none", .none), ("None", .none)]

/-- Words that end a test without an argument. -/
def testEnds : List Text := ["and", "or", "else", "is"]

/-- Whether an argument of a test without parentheses starts here. -/
def startsTestArgument : List Token → Bool
  | .name w :: _ => !testEnds.contains w
  | .literal _ :: _ => true
  | .integer _ :: _ => true
  | .real _ :: _ => true
  | .symbol s :: _ => s = .plus || s = .minus || s = .bracketOpen || s = .braceOpen
  | _ => false

/-! ### Expressions -/

mutual

/-- An expression. -/
def expr : Nat → List Token → Except ReadFault (Expr × List Token)
  | 0, ts => fault ts
  | n + 1, ts => do
    let (e, ts) ← level n 0 ts
    choices n e ts

/-- What follows an expression with `if`. -/
def choices : Nat → Expr → List Token → Except ReadFault (Expr × List Token)
  | 0, _, ts => fault ts
  | n + 1, e, ts =>
    match skipWord? "if" ts with
    | none => .ok (e, ts)
    | some ts => do
      let (condition, ts) ← level n 0 ts
      match skipWord? "else" ts with
      | none => choices n (.choice condition e (.const .undefined)) ts
      | some ts => do
        let (no, ts) ← expr n ts
        choices n (.choice condition e no) ts

/-- An expression with operators of a level and tighter ones. -/
def level : Nat → Nat → List Token → Except ReadFault (Expr × List Token)
  | 0, _, ts => fault ts
  | n + 1, l, ts =>
    if l = operandLevel then operand n ts
    else if l = notLevel then
      match skipWord? "not" ts with
      | some ts => do
        let (e, ts) ← level n notLevel ts
        .ok (.unary .not e, ts)
      | none => level n (l + 1) ts
    else do
      let (e, ts) ← level n (l + 1) ts
      operations n l e ts

/-- Operators of a level after their first operand. -/
def operations : Nat → Nat → Expr → List Token → Except ReadFault (Expr × List Token)
  | 0, _, _, ts => fault ts
  | n + 1, l, e, ts =>
    match operator? l ts with
    | none => .ok (e, ts)
    | some (op, negated, ts) => do
      let (r, ts) ← level n (l + 1) ts
      let both := Expr.binary op e r
      operations n l (if negated then .unary .not both else both) ts

/-- An operand with what follows it, filters and tests. -/
def operand : Nat → List Token → Except ReadFault (Expr × List Token)
  | 0, ts => fault ts
  | n + 1, ts => do
    let (e, ts) ← signed n ts
    let (e, ts) ← suffixes n e ts
    filters n e ts

/-- A primary expression with signs before it. -/
def signed : Nat → List Token → Except ReadFault (Expr × List Token)
  | 0, ts => fault ts
  | n + 1, ts =>
    match skip? .minus ts with
    | some ts => do
      let (e, ts) ← signed n ts
      .ok (.unary .neg e, ts)
    | none => primary n ts

/-- What follows a primary expression: attributes, indices and calls. -/
def suffixes : Nat → Expr → List Token → Except ReadFault (Expr × List Token)
  | 0, _, ts => fault ts
  | n + 1, e, .symbol .dot :: ts =>
    match ts with
    | .name a :: ts => suffixes n (.member e a) ts
    | .integer i :: ts => suffixes n (.item e (.const (.integer i))) ts
    | ts => fault ts
  | n + 1, e, .symbol .bracketOpen :: ts => do
    let (e, ts) ← subscript n e ts
    suffixes n e ts
  | n + 1, e, .symbol .parenOpen :: ts => do
    let (args, ts) ← arguments n false true ts
    suffixes n (.call e args) ts
  | _ + 1, e, ts => .ok (e, ts)

/-- The inside of an index, with its closing bracket. -/
def subscript : Nat → Expr → List Token → Except ReadFault (Expr × List Token)
  | 0, _, ts => fault ts
  | n + 1, e, ts => do
    let (start, ts) ← bound n ts
    match skip? .colon ts with
    | none => do
      let ts ← expect .bracketClose ts
      match start with
      | some i => .ok (.item e i, ts)
      | none => .error .grammar
    | some ts => do
      let (stop, ts) ← bound n ts
      let (step, ts) ← match skip? .colon ts with
        | some ts => bound n ts
        | none => .ok (none, ts)
      let ts ← expect .bracketClose ts
      let given (o : Option Expr) : Expr := o.getD (.const .none)
      .ok (.slice e (given start) (given stop) (given step), ts)

/-- An expression between colons and brackets, which may be left out. -/
def bound : Nat → List Token → Except ReadFault (Option Expr × List Token)
  | 0, ts => fault ts
  | n + 1, ts =>
    if (skip? .colon ts).isSome || (skip? .bracketClose ts).isSome then .ok (none, ts)
    else do
      let (e, ts) ← expr n ts
      .ok (some e, ts)

/-- Arguments up to the closing parenthesis: positional ones, then named ones. -/
def arguments :
    Nat → Bool → Bool → List Token → Except ReadFault (List (Option Text × Expr) × List Token)
  | 0, _, _, ts => fault ts
  | n + 1, named, first, ts =>
    match skip? .parenClose ts with
    | some ts => .ok ([], ts)
    | none => do
      let ts ← if first then .ok ts else expect .comma ts
      match skip? .parenClose ts with
      | some ts => .ok ([], ts)
      | none => do
        let (e, ts) ← expr n ts
        match e, skip? .assign ts with
        -- A variable before an equals sign was the name of an argument.
        | .var name, some ts => do
          let (value, ts) ← level n 0 ts
          let (rest, ts) ← arguments n true false ts
          .ok ((some name, value) :: rest, ts)
        | _, _ =>
          if named then .error .grammar
          else do
            let (rest, ts) ← arguments n named false ts
            .ok ((none, e) :: rest, ts)

/-- Filters and tests after an operand. -/
def filters : Nat → Expr → List Token → Except ReadFault (Expr × List Token)
  | 0, _, ts => fault ts
  | n + 1, e, ts =>
    match skip? .pipe ts with
    | some ts => do
      let (name, ts) ← anyName ts
      let (args, ts) ← argumentsIfAny n ts
      filters n (.filter name e args) ts
    | none =>
      match skipWord? "is" ts with
      | none => .ok (e, ts)
      | some ts => do
        let (negated, ts) := match skipWord? "not" ts with
          | some ts => (true, ts)
          | none => (false, ts)
        let (name, ts) ← anyName ts
        let (args, ts) ←
          if startsTestArgument ts then do
            let (a, ts) ← signed n ts
            let (a, ts) ← suffixes n a ts
            .ok ([((none : Option Text), a)], ts)
          else argumentsIfAny n ts
        let test := Expr.test name e args
        filters n (if negated then .unary .not test else test) ts

/-- Arguments in parentheses, or none. -/
def argumentsIfAny : Nat → List Token → Except ReadFault (List (Option Text × Expr) × List Token)
  | 0, ts => fault ts
  | n + 1, ts =>
    match skip? .parenOpen ts with
    | some ts => arguments n false true ts
    | none => .ok ([], ts)

/-- A constant, a variable, or something in brackets. -/
def primary : Nat → List Token → Except ReadFault (Expr × List Token)
  | _ + 1, .name w :: ts =>
    match lookup? w constants with
    | some v => .ok (.const v, ts)
    | none => .ok (.var w, ts)
  | _ + 1, .literal t :: ts => .ok (.const (.ofText t), ts)
  | _ + 1, .integer i :: ts => .ok (.const (.integer i), ts)
  | _ + 1, .real bits :: ts => .ok (.const (.real bits), ts)
  | n + 1, .symbol .parenOpen :: ts =>
    match skip? .parenClose ts with
    | some ts => .ok (.list [], ts)
    | none => do
      let (e, ts) ← expr n ts
      match skip? .comma ts with
      | none => do
        let ts ← expect .parenClose ts
        .ok (e, ts)
      | some ts => do
        let (rest, ts) ← listItems n .parenClose true ts
        .ok (.list (e :: rest), ts)
  | n + 1, .symbol .bracketOpen :: ts => do
    let (items, ts) ← listItems n .bracketClose true ts
    .ok (.list items, ts)
  | n + 1, .symbol .braceOpen :: ts => do
    let (entries, ts) ← mapEntries n true ts
    .ok (.map entries, ts)
  | _, ts => fault ts

/-- Items up to a closing bracket. -/
def listItems : Nat → Symbol → Bool → List Token → Except ReadFault (List Expr × List Token)
  | 0, _, _, ts => fault ts
  | n + 1, close, first, ts =>
    match skip? close ts with
    | some ts => .ok ([], ts)
    | none => do
      let ts ← if first then .ok ts else expect .comma ts
      match skip? close ts with
      | some ts => .ok ([], ts)
      | none => do
        let (e, ts) ← expr n ts
        let (rest, ts) ← listItems n close false ts
        .ok (e :: rest, ts)

/-- Entries up to the closing brace. -/
def mapEntries : Nat → Bool → List Token → Except ReadFault (List (Expr × Expr) × List Token)
  | 0, _, ts => fault ts
  | n + 1, first, ts =>
    match skip? .braceClose ts with
    | some ts => .ok ([], ts)
    | none => do
      let ts ← if first then .ok ts else expect .comma ts
      match skip? .braceClose ts with
      | some ts => .ok ([], ts)
      | none => do
        let (k, ts) ← expr n ts
        let ts ← expect .colon ts
        let (v, ts) ← expr n ts
        let (rest, ts) ← mapEntries n false ts
        .ok ((k, v) :: rest, ts)

end

/-! ### Targets of assignments -/

/-- Names that cannot be assigned to. -/
def reserved : List Text :=
  ["true", "True", "false", "False", "none", "None", "loop", "self"]

/-- A name that can be assigned to. -/
def targetName (ts : List Token) : Except ReadFault (Text × List Token) := do
  let (name, rest) ← anyName ts
  if reserved.contains name then .error .grammar else .ok (name, rest)

/-- Attributes after the name of a target. -/
def targetAttributes : Expr → Target → List Token → Except ReadFault (Target × List Token)
  | e, _, .symbol .dot :: .name a :: ts => targetAttributes (.member e a) (.member e a) ts
  | _, _, .symbol .dot :: ts => fault ts
  | _, target, ts => .ok (target, ts)

/-- Whether no further target can follow. -/
def endsTargets : List Token → Bool
  | .symbol .parenClose :: _ => true
  | .valueEnd :: _ => true
  | .statementEnd :: _ => true
  | .name w :: _ => w = "in"
  | _ => false

mutual

/-- One target, or several in a row. -/
def targets : Nat → List Token → Except ReadFault (Target × List Token)
  | 0, ts => fault ts
  | n + 1, ts => do
    let ((all, several), ts) ← targetList n ts
    match all, several with
    | [t], false => .ok (t, ts)
    | _, _ => .ok (.several all, ts)

/-- Targets with commas between them, and whether there is a comma at all. -/
def targetList : Nat → List Token → Except ReadFault ((List Target × Bool) × List Token)
  | 0, ts => fault ts
  | n + 1, ts =>
    if endsTargets ts then .ok (([], false), ts)
    else do
      let (first, ts) ← target n ts
      match skip? .comma ts with
      | none => .ok (([first], false), ts)
      | some ts => do
        let ((rest, _), ts) ← targetList n ts
        .ok ((first :: rest, true), ts)

/-- One target: a name, or targets in parentheses. -/
def target : Nat → List Token → Except ReadFault (Target × List Token)
  | 0, ts => fault ts
  | n + 1, ts =>
    match skip? .parenOpen ts with
    | some ts => do
      let (t, ts) ← targets n ts
      let ts ← expect .parenClose ts
      .ok (t, ts)
    | none => do
      let (name, ts) ← targetName ts
      .ok (.var name, ts)

end

/-! ### Statements -/

/-- The words that statements begin with. -/
inductive Keyword where
  | forWord
  | ifWord
  | withWord
  | setWord
  | autoescapeWord
  | filterWord
  | includeWord
  | doWord
deriving DecidableEq, Repr

/-- The keywords by their spelling. -/
def keywords : List (Text × Keyword) :=
  [("for", .forWord), ("if", .ifWord), ("with", .withWord), ("set", .setWord),
   ("autoescape", .autoescapeWord), ("filter", .filterWord), ("include", .includeWord),
   ("do", .doWord)]

/-- Bindings up to the end of the tag. -/
def bindings : Nat → Bool → List Token → Except ReadFault (List (Target × Expr) × List Token)
  | 0, _, ts => fault ts
  | _ + 1, _, .statementEnd :: ts => .ok ([], ts)
  | n + 1, first, ts => do
    let ts ← if first then .ok ts else expect .comma ts
    let (t, ts) ← target n ts
    let ts ← expect .assign ts
    let (e, ts) ← expr n ts
    let (rest, ts) ← bindings n false ts
    .ok ((t, e) :: rest, ts)

/-- Filters with their arguments up to the end of the tag; at least one. -/
def chain : Nat → Bool → List Token → Except ReadFault (FilterChain × List Token)
  | 0, _, ts => fault ts
  | _ + 1, first, .statementEnd :: ts => if first then .error .grammar else .ok ([], ts)
  | n + 1, first, ts => do
    let ts ← if first then .ok ts else expect .pipe ts
    let (name, ts) ← anyName ts
    let (args, ts) ← argumentsIfAny n ts
    let (rest, ts) ← chain n false ts
    .ok ((name, args) :: rest, ts)

/-- The tokens after the word that has ended a body. -/
def afterWord (ts : List Token) : List Token :=
  ts.drop 1

mutual

/-- Statements up to one of some words at the start of a tag, or the end of the template. -/
def statements : Nat → List Text → List Token → Except ReadFault (List Stmt × List Token)
  | 0, _, ts => fault ts
  | _ + 1, _, [] => .ok ([], [])
  | n + 1, ends, .data t :: ts => do
    let (rest, ts) ← statements n ends ts
    .ok (.text t :: rest, ts)
  | n + 1, ends, .valueStart :: ts => do
    let (e, ts) ← expr n ts
    match ts with
    | .valueEnd :: ts => do
      let (rest, ts) ← statements n ends ts
      .ok (.print e :: rest, ts)
    | ts => fault ts
  | n + 1, ends, .statementStart :: .name w :: ts =>
    if ends.contains w then .ok ([], .name w :: ts)
    else match lookup? w keywords with
      | none => .error .grammar
      | some k => do
        let (s, ts) ← statement n k ts
        let ts ← expectEnd ts
        let (rest, ts) ← statements n ends ts
        .ok (s :: rest, ts)
  | _ + 1, _, .statementStart :: ts => fault ts
  | _ + 1, _, ts => fault ts

/-- The rest of a statement after its first word, without the end of its last tag. -/
def statement : Nat → Keyword → List Token → Except ReadFault (Stmt × List Token)
  | 0, _, ts => fault ts
  | n + 1, .forWord, ts => do
    let (t, ts) ← targets n ts
    let ts ← expectWord "in" ts
    let (source, ts) ← level n 0 ts
    let (condition, ts) ← match skipWord? "if" ts with
      | some ts => do
        let (e, ts) ← expr n ts
        .ok (some e, ts)
      | none => .ok (none, ts)
    let ts ← expectEnd ((skipWord? "recursive" ts).getD ts)
    let (body, ts) ← statements n ["endfor", "else"] ts
    match skipWord? "else" ts with
    | none => .ok (.loop t source condition body [], afterWord ts)
    | some ts => do
      let ts ← expectEnd ts
      let (otherwise, ts) ← statements n ["endfor"] ts
      .ok (.loop t source condition body otherwise, afterWord ts)
  | n + 1, .ifWord, ts => do
    let (condition, ts) ← expr n ts
    let ts ← expectEnd ts
    let (yes, ts) ← statements n ["endif", "else", "elif"] ts
    match ts with
    | .name w :: rest =>
      if w = "else" then do
        let ts ← expectEnd rest
        let (no, ts) ← statements n ["endif"] ts
        .ok (.branch condition yes no, afterWord ts)
      else if w = "elif" then do
        let (s, ts) ← statement n .ifWord rest
        .ok (.branch condition yes [s], ts)
      else .ok (.branch condition yes [], rest)
    | ts => fault ts
  | n + 1, .withWord, ts => do
    let (all, ts) ← bindings n true ts
    let (body, ts) ← statements n ["endwith"] ts
    .ok (.scope all body, afterWord ts)
  | n + 1, .setWord, ts => do
    let inParens := (skip? .parenOpen ts).isSome
    let (t, ts) ←
      if inParens then target n ts
      else do
        let (name, ts) ← targetName ts
        targetAttributes (.var name) (.var name) ts
    match inParens, ts with
    | false, .statementEnd :: ts => do
      let (body, ts) ← statements n ["endset"] ts
      .ok (.capture t [] body, afterWord ts)
    | false, .symbol .pipe :: ts => do
      let (filters, ts) ← chain n true ts
      let (body, ts) ← statements n ["endset"] ts
      .ok (.capture t filters body, afterWord ts)
    | _, ts => do
      let ts ← expect .assign ts
      let (e, ts) ← expr n ts
      .ok (.assign t e, ts)
  | n + 1, .autoescapeWord, ts => do
    let (mode, ts) ← expr n ts
    let ts ← expectEnd ts
    let (body, ts) ← statements n ["endautoescape"] ts
    .ok (.escaping mode body, afterWord ts)
  | n + 1, .filterWord, ts => do
    let (filters, ts) ← chain n true ts
    let (body, ts) ← statements n ["endfilter"] ts
    .ok (.filtered filters body, afterWord ts)
  | n + 1, .includeWord, ts => do
    let (name, ts) ← expr n ts
    match skipWord? "ignore" ts with
    | none => .ok (.insertion name false, ts)
    | some ts => do
      let ts ← expectWord "missing" ts
      .ok (.insertion name true, ts)
  | n + 1, .doWord, ts => do
    let (e, ts) ← expr n ts
    match e with
    | .call _ _ => .ok (.perform e, ts)
    | _ => .error .grammar

end

end Reader

/-- The statements of a template. -/
def read (source : Text) : Except ReadFault (List Stmt) := do
  let tokens := Token.ofText source
  let (body, _) ← Reader.statements (16 * (tokens.length + 1)) [] tokens
  return body

end VendorCli.Template
