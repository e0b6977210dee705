import VendorCli.Template.Filter
import VendorCli.Template.Function
import VendorCli.Text.Table
/-!
# Rendering

Expressions are evaluated in a scope: the frames of the loops and blocks around them, innermost
first, then the variables that the template was given, then the functions. A missing variable, a
missing attribute and an attribute of either are undefined, which prints as nothing.

* `Expr.eval` is the value of an expression;
* `Stmt.run` carries out a statement: it adds to the output and to the innermost frame.
-/

namespace VendorCli.Template

/-- The variables of one loop or block. -/
structure Frame where
  locals : List (Text × Value)
  /-- The state of the loop that the frame belongs to. -/
  loop : Option Value
  /-- The names of the tables whose entries can be assigned. -/
  assignable : List Text := []

/-- Where names are looked up. -/
structure Scope where
  frames : List Frame
  /-- What the template was given. -/
  given : Value

namespace Scope

/-- The value of a name in some frames. -/
def inFrames? (name : Text) : List Frame → Option Value
  | [] => none
  | f :: rest =>
    match lookup? name f.locals, f.loop with
    | some v, _ => some v
    | none, some state => if name = "loop" then some state else inFrames? name rest
    | none, none => inFrames? name rest

/-- The value of a name among those that the template was given. -/
def given? (name : Text) : Value → Option Value
  | .map entries => Value.field? name entries
  | _ => none

/-- The value of a name. -/
def find? (s : Scope) (name : Text) : Option Value :=
  match inFrames? name s.frames with
  | some v => some v
  | none =>
    match given? name s.given with
    | some v => some v
    | none => (Function.named? name).map fun _ => .function name

end Scope

/-! ### Expressions -/

/-- The value of a call of a value. -/
def callValue (v : Value) (args : Arguments) : Except RenderFault Value :=
  match v with
  | .function name =>
    match Function.named? name with
    | some f => f args
    | none => .error (.unknownFunction name)
  | _ => .error .notCallable

/-- The value of a call of a method. -/
def callMethod (v : Value) (name : Text) (args : Arguments) : Except RenderFault Value :=
  match v with
  | .map entries =>
    match Value.field? name entries with
    | some f => callValue f args
    | none => .error (.unknownMethod name)
  | .loop round .. =>
    if name = "cycle" then
      match args.positional with
      | [] => .ok .undefined
      | v :: rest => .ok ((v :: rest).getD (round % (rest.length + 1)) .undefined)
    else .error (.unknownMethod name)
  | _ => .error (.unknownMethod name)

/-- Evaluated arguments, the positional ones and the named ones apart. -/
def Arguments.ofPairs (pairs : List (Option Text × Value)) : Arguments where
  positional := pairs.filterMap fun a => if a.1.isNone then some a.2 else none
  named := pairs.filterMap fun a => a.1.map fun name => (name, a.2)

namespace Expr

mutual

/-- The value of an expression. The operands of `and` and `or` and the branches of a choice are
evaluated only if they count. -/
def eval (s : Scope) : Expr → Except RenderFault Value
  | const v => .ok v
  | var name => .ok ((s.find? name).getD .undefined)
  | list items => (evalAll s items).map .list
  | map entries => (evalEntries s entries).map Value.tableOf
  | unary op e => do
    let v ← eval s e
    Value.unary op v
  | binary op l r => do
    let a ← eval s l
    match op, a.isTrue with
    | .and, false => .ok a
    | .or, true => .ok a
    | _, _ => do
      let b ← eval s r
      Value.binary op a b
  | choice condition yes no => do
    let c ← eval s condition
    if c.isTrue then eval s yes else eval s no
  | member e name => do
    let v ← eval s e
    .ok (Value.member v name)
  | item e index => do
    let v ← eval s e
    let i ← eval s index
    .ok (Value.item v i)
  | slice e start stop step => do
    let v ← eval s e
    let i ← eval s start
    let j ← eval s stop
    let k ← eval s step
    Value.slice v i j k
  | filter name e args => do
    let v ← eval s e
    let given ← evalArguments s args
    Filter.apply name v (.ofPairs given)
  | test name e args => do
    let v ← eval s e
    let given ← evalArguments s args
    (Condition.holds name v (.ofPairs given)).map .bool
  | call (var name) args => do
    let given ← evalArguments s args
    match s.find? name with
    | some f => callValue f (.ofPairs given)
    | none => .error (.unknownFunction name)
  | call (member e name) args => do
    let v ← eval s e
    let given ← evalArguments s args
    callMethod v name (.ofPairs given)
  | call callee args => do
    let f ← eval s callee
    let given ← evalArguments s args
    callValue f (.ofPairs given)

/-- The values of several expressions. -/
def evalAll (s : Scope) : List Expr → Except RenderFault (List Value)
  | [] => .ok []
  | e :: rest => do
    let v ← eval s e
    let others ← evalAll s rest
    .ok (v :: others)

/-- The entries of a table. -/
def evalEntries (s : Scope) : List (Expr × Expr) → Except RenderFault (List (Value × Value))
  | [] => .ok []
  | (k, e) :: rest => do
    let key ← eval s k
    let v ← eval s e
    let others ← evalEntries s rest
    .ok ((key, v) :: others)

/-- The values of arguments. -/
def evalArguments (s : Scope) :
    List (Option Text × Expr) → Except RenderFault (List (Option Text × Value))
  | [] => .ok []
  | (name, e) :: rest => do
    let v ← eval s e
    let others ← evalArguments s rest
    .ok ((name, v) :: others)

end

end Expr

/-! ### Output -/

/-- How values are printed. -/
inductive Mode where
  /-- As they are. -/
  | plain
  /-- With the characters written out that have a meaning in markup. -/
  | markup
  /-- As structured text. -/
  | structured
deriving DecidableEq, Repr

namespace Mode

/-- How a template of a name prints: by the ending of its name, before the ending `.j2`. -/
def ofName (name : Text) : Mode :=
  let name := (Text.dropTail? ".j2" name).getD name
  let ending := ((Text.splitOn '.' name).getLast?).getD []
  let among (endings : List Text) : Bool := endings.contains ending
  if among ["html", "htm", "xml"] then .markup
  else if among ["json", "json5", "js", "yaml", "yml"] then .structured
  else .plain

/-- A value as it is printed. -/
def write (m : Mode) (v : Value) : Text :=
  match m, v with
  | _, .text t true => t
  | .plain, v => v.display
  | .markup, v => Filter.markup v
  | .structured, v => v.toJson.compact

/-- The mode that a value asks for inside one that started as `initial`. -/
def ofValue (initial : Mode) (v : Value) : Except RenderFault Mode :=
  match v with
  | .text t _ =>
    if t = "html" then .ok .markup
    else if t = "json" then .ok .structured
    else if t = "none" then .ok .plain
    else .error .invalidOperation
  | v =>
    if Value.same v (.bool true) then .ok (if initial = .plain then .markup else initial)
    else .ok .plain

end Mode

/-- How far rendering has come. -/
structure State where
  frames : List Frame
  output : Text

namespace State

/-- Before anything is printed. -/
def start : State := ⟨[⟨[], none, []⟩], []⟩

/-- Print a text. -/
def print (s : State) (t : Text) : State :=
  { s with output := s.output ++ t }

/-- Enter a frame. -/
def enter (s : State) (loop : Option Value) : State :=
  { s with frames := ⟨[], loop, []⟩ :: s.frames }

/-- Leave the innermost frame. -/
def leave (s : State) : State :=
  { s with frames := s.frames.drop 1 }

/-- Give the loop of the innermost frame a new state. -/
def setLoop (s : State) (loop : Value) : State :=
  match s.frames with
  | [] => s
  | f :: rest => { s with frames := { f with loop := some loop } :: rest }

/-- Give a name a value in the innermost frame. -/
def set (s : State) (name : Text) (v : Value) : State :=
  match s.frames with
  | [] => s
  | f :: rest =>
    { s with
      frames := { f with
        locals := insertLast name v f.locals
        assignable := f.assignable.filter (· ≠ name) } :: rest }

/-- Let the entries of the table of a name be assigned, in the innermost frame. -/
def letAssign (s : State) (name : Text) : State :=
  match s.frames with
  | [] => s
  | f :: rest => { s with frames := { f with assignable := name :: f.assignable } :: rest }

/-- Give an entry of the table of a name a value, in the first frame that has the name. -/
def setInFrames (name field : Text) (v : Value) : List Frame → Except RenderFault (List Frame)
  | [] => .error .invalidOperation
  | f :: rest =>
    match lookup? name f.locals with
    | none => (setInFrames name field v rest).map (f :: ·)
    | some (.map entries) =>
      if f.assignable.contains name then
        let entries := Value.insertEntry (Value.ofText field) v entries
        .ok ({ f with locals := insertLast name (.map entries) f.locals } :: rest)
      else .error .invalidOperation
    | some _ => .error .invalidOperation

/-- Give an entry of the table of a name a value. -/
def setEntry (s : State) (name field : Text) (v : Value) : Except RenderFault State :=
  (setInFrames name field v s.frames).map fun frames => { s with frames := frames }

end State

namespace Target

mutual

/-- Assign a value. -/
def assign : Target → Value → State → Except RenderFault State
  | var name, v, s => .ok (s.set name v)
  | several targets, v, s =>
    match v with
    | .list items => assignAll targets items s
    | .map entries => assignAll targets (entries.map (·.1)) s
    | _ => .error .cannotUnpack
  | member (.var name) field, v, s => s.setEntry name field v
  | member _ _, _, _ => .error .invalidOperation

/-- Assign values to as many targets. -/
def assignAll : List Target → List Value → State → Except RenderFault State
  | [], [], s => .ok s
  | t :: rest, v :: values, s => do
    let s ← assign t v s
    assignAll rest values s
  | _, _, _ => .error .cannotUnpack

end

end Target

/-- The name of a variable that is a target of its own. -/
def Target.name? : Target → Option Text
  | var name => some name
  | _ => none

/-- Whether an expression makes a table with assignable entries. -/
def Expr.makesNamespace : Expr → Bool
  | call (var name) _ => name = Function.namespaceName
  | _ => false

/-! ### Statements -/

/-- What a template is rendered with. -/
structure Env where
  given : Value
  mode : Mode
  /-- The mode that the template started in. -/
  initial : Mode
  /-- Carry out another template, if there is one of the name. -/
  insert? : Text → State → Except RenderFault (Option State)

/-- The scope of expressions. -/
def Env.scope (env : Env) (s : State) : Scope :=
  ⟨s.frames, env.given⟩

/-- Text that has been printed, as a value. -/
def Env.captured (env : Env) (t : Text) : Value :=
  .text t (env.mode ≠ .plain)

/-- The rounds of a loop, given how many there are, how many are over, and the last item. -/
def rounds (target : Target) (body : State → Except RenderFault State) (count : Nat) :
    Nat → Value → List Value → State → Except RenderFault State
  | _, _, [], s => .ok s
  | round, previous, v :: rest, s => do
    let s := s.setLoop (.loop round count previous (rest.head?.getD .undefined))
    let s ← target.assign v s
    let s ← body s
    rounds target body count (round + 1) v rest s

/-- The items that pass the condition of a loop. -/
def passing (target : Target) (condition : State → Except RenderFault Value) :
    List Value → State → Except RenderFault (List Value)
  | [], _ => .ok []
  | v :: rest, s => do
    let s ← target.assign v s
    let c ← condition s
    let others ← passing target condition rest s
    .ok (if c.isTrue then v :: others else others)

/-- A value after the filters of a chain. -/
def applyChain (scope : Scope) : FilterChain → Value → Except RenderFault Value
  | [], v => .ok v
  | (name, args) :: rest, v => do
    let given ← Expr.evalArguments scope args
    let v ← Filter.apply name v (.ofPairs given)
    applyChain scope rest v

/-- Carry out the first template that exists. -/
def insertFirst (env : Env) (ignoreMissing : Bool) :
    List Value → Option Text → State → Except RenderFault State
  | [], missing, s =>
    match missing with
    | some name => if ignoreMissing then .ok s else .error (.templateNotFound name)
    | none => .ok s
  | v :: rest, _, s =>
    match v with
    | .text name _ => do
      match ← env.insert? name s with
      | some s => .ok s
      | none => insertFirst env ignoreMissing rest (some name) s
    | _ => .error .invalidOperation

/-- Assign the values of expressions, each seeing the assignments before it. -/
def bindAll (env : Env) : List (Target × Expr) → State → Except RenderFault State
  | [], s => .ok s
  | (t, e) :: rest, s => do
    let v ← e.eval (env.scope s)
    let s ← t.assign v s
    bindAll env rest s

namespace Stmt

mutual

/-- Carry out a statement. -/
def run (env : Env) : Stmt → State → Except RenderFault State
  | text t, s => .ok (s.print t)
  | print e, s => do
    let v ← e.eval (env.scope s)
    .ok (s.print (env.mode.write v))
  | branch condition yes no, s => do
    let c ← condition.eval (env.scope s)
    if c.isTrue then runAll env yes s else runAll env no s
  | loop target source condition body otherwise, s => do
    let v ← source.eval (env.scope s)
    let items ← v.items
    -- The condition is asked of all items first, so that the loop knows how many there are.
    let items ← match condition with
      | none => .ok items
      | some c => passing target (fun s => c.eval (env.scope s)) items (s.enter none)
    let s ← rounds target (runAll env body) items.length 0 .undefined items
      (s.enter (some .undefined))
    if items.isEmpty then runAll env otherwise s.leave else .ok s.leave
  | assign target e, s => do
    let v ← e.eval (env.scope s)
    let s ← target.assign v s
    match e.makesNamespace, target.name? with
    | true, some name => .ok (s.letAssign name)
    | _, _ => .ok s
  | capture target filters body, s => do
    let inner ← runAll env body { s with output := [] }
    let s := { inner with output := s.output }
    let v ← applyChain (env.scope s) filters (env.captured inner.output)
    target.assign v s
  | scope bindings body, s => do
    let s ← bindAll env bindings (s.enter none)
    let s ← runAll env body s
    .ok s.leave
  | filtered filters body, s => do
    let inner ← runAll env body { s with output := [] }
    let s := { inner with output := s.output }
    let v ← applyChain (env.scope s) filters (env.captured inner.output)
    .ok (s.print (env.mode.write v))
  | escaping mode body, s => do
    let v ← mode.eval (env.scope s)
    let mode ← Mode.ofValue env.initial v
    runAll { env with mode := mode } body s
  | insertion name ignoreMissing, s => do
    let v ← name.eval (env.scope s)
    match v with
    | .list names => insertFirst env ignoreMissing names none s
    | v => insertFirst env ignoreMissing [v] none s
  | perform e, s => do
    let _ ← e.eval (env.scope s)
    .ok s

/-- Carry out statements one after the other. -/
def runAll (env : Env) : List Stmt → State → Except RenderFault State
  | [], s => .ok s
  | first :: rest, s => do
    let s ← run env first s
    runAll env rest s

end

end Stmt

end VendorCli.Template
