import VendorCli.Template.Value
/-!
# The syntax of templates

Expressions and statements after reading. Arguments are pairs: a name or none, and an expression.
-/

namespace VendorCli.Template

/-- Operators between two expressions. -/
inductive BinaryOp where
  | or
  | and
  | equal
  | notEqual
  | less
  | lessEqual
  | greater
  | greaterEqual
  | isIn
  | add
  | sub
  | concat
  | mul
  | div
  | floorDiv
  | rem
  | pow
deriving DecidableEq, Repr

/-- Operators before an expression. -/
inductive UnaryOp where
  | not
  | neg
deriving DecidableEq, Repr

/-- An expression. -/
inductive Expr where
  | const (v : Value)
  | var (name : Text)
  | list (items : List Expr)
  | map (entries : List (Expr × Expr))
  | unary (op : UnaryOp) (e : Expr)
  | binary (op : BinaryOp) (l r : Expr)
  /-- The second expression if the first is true, else the third. -/
  | choice (condition yes no : Expr)
  | member (e : Expr) (name : Text)
  | item (e index : Expr)
  /-- A part of a list or text; a bound that is left out is the constant none. -/
  | slice (e start stop step : Expr)
  | filter (name : Text) (e : Expr) (args : List (Option Text × Expr))
  | test (name : Text) (e : Expr) (args : List (Option Text × Expr))
  | call (callee : Expr) (args : List (Option Text × Expr))
deriving Repr, Inhabited

/-- What a value is assigned to. -/
inductive Target where
  | var (name : Text)
  /-- The items of a list, one by one. -/
  | several (targets : List Target)
  /-- The attribute of a value; only tables that a template has made for it let theirs be set. -/
  | member (e : Expr) (name : Text)
deriving Repr

/-- Filters to be applied one after the other, with their arguments. -/
abbrev FilterChain := List (Text × List (Option Text × Expr))

/-- A statement. -/
inductive Stmt where
  /-- Text of the output. -/
  | text (t : Text)
  /-- The value of an expression, printed. -/
  | print (e : Expr)
  | branch (condition : Expr) (yes no : List Stmt)
  /-- A round for each item of a value that passes the condition; `otherwise` if there is none. -/
  | loop (target : Target) (source : Expr) (condition : Option Expr) (body otherwise : List Stmt)
  | assign (target : Target) (e : Expr)
  /-- Assign what a body prints. -/
  | capture (target : Target) (filters : FilterChain) (body : List Stmt)
  /-- Variables that exist in a body only. -/
  | scope (bindings : List (Target × Expr)) (body : List Stmt)
  /-- Print what a body prints, filtered. -/
  | filtered (filters : FilterChain) (body : List Stmt)
  /-- Switch the escapes of the output on or off in a body. -/
  | escaping (mode : Expr) (body : List Stmt)
  /-- Print another template. -/
  | insertion (name : Expr) (ignoreMissing : Bool)
  /-- Evaluate an expression and drop its value. -/
  | perform (e : Expr)
deriving Repr, Inhabited

end VendorCli.Template
