import VendorCli.Template.Syntax
/-!
# Operations on values

Arithmetic is on whole numbers of 128 bits, or on real numbers as soon as one operand is real; a
division by `/` is always real. Truth values count as 0 and 1. An operation that has no result is a
fault.

* `RenderFault` lists the faults of rendering, `RenderFault.message` puts them into words;
* `Value.binary` is an operation on two values, `Value.item` a part of a value.
-/

namespace VendorCli.Template

/-- Why a template cannot be rendered. -/
inductive RenderFault where
  /-- Values that an operation is not made for, or whose result is out of range. -/
  | invalidOperation
  /-- The number of bits of a network mask that does not exist. -/
  | prefixLength (length : Nat)
  /-- A text that is no network mask. -/
  | netmask (mask : Text)
  /-- Too many arguments, or too few, or of another type. -/
  | arguments
  | unknownFilter (name : Text)
  | unknownTest (name : Text)
  | unknownFunction (name : Text)
  | unknownMethod (name : Text)
  | notCallable
  | notIterable
  /-- A value that does not have as many items as there are targets. -/
  | cannotUnpack
  | templateNotFound (name : Text)
  /-- The failure of a template that was included. -/
  | included (name : Text)
  /-- Templates include each other too deeply. -/
  | tooDeep
  /-- A text literal has an unknown escape. -/
  | badEscape
  /-- A part of an undefined value is asked for where there has to be one. -/
  | undefinedValue
deriving DecidableEq, Repr

/-- The fault in words. -/
def RenderFault.message : RenderFault → Text
  | invalidOperation => "invalid operation"
  | prefixLength n => "invalid operation: invalid prefix length " ++ Decimal.digitsOf n
  | netmask mask => "invalid operation: invalid netmask " ++ Text.inQuotes mask
  | arguments => "invalid arguments"
  | unknownFilter name => "unknown filter: " ++ name
  | unknownTest name => "unknown test: " ++ name
  | unknownFunction name => "unknown function: " ++ name
  | unknownMethod name => "unknown method: " ++ name
  | notCallable => "value is not callable"
  | notIterable => "value is not iterable"
  | cannotUnpack => "cannot unpack"
  | templateNotFound name => "template not found: " ++ name
  | included name => "could not render include: error in " ++ Text.shown name
  | tooDeep => "recursion limit exceeded"
  | badEscape => "bad string escape"
  | undefinedValue => "undefined value"

namespace Value

/-- A whole number as the result of an operation. -/
def ofWide (i : Int) : Except RenderFault Value :=
  if isWide i then .ok (integer i) else .error .invalidOperation

/-- A real number as the result of an operation. -/
def ofFloat (x : Float) : Value :=
  real (Real.ofFloat x)

/-! ### Arithmetic -/

/-- An operation on numbers, given for whole and for real ones. -/
def arithmetic (whole : Int → Int → Except RenderFault Value) (real : Float → Float → Float)
    (a b : Value) : Except RenderFault Value :=
  match operands? true a b with
  | some (.integers x y) => whole x y
  | some (.reals x y) => .ok (ofFloat (real (Real.toFloat x) (Real.toFloat y)))
  | _ => .error .invalidOperation

/-- A sum; texts and lists are put together. -/
def add (a b : Value) : Except RenderFault Value :=
  match a, b with
  | list xs, list ys => .ok (list (xs ++ ys))
  | text s _, text t _ => .ok (ofText (s ++ t))
  | a, b => arithmetic (fun x y => ofWide (x + y)) (· + ·) a b

/-- A difference. -/
def sub (a b : Value) : Except RenderFault Value :=
  arithmetic (fun x y => ofWide (x - y)) (· - ·) a b

/-- A number of repetitions. -/
def times? (v : Value) : Except RenderFault Nat :=
  match v.asIntBetween? 0 100000 with
  | some n => .ok n.toNat
  | Option.none => .error .invalidOperation

/-- A product; a text or a list is repeated. -/
def mul (a b : Value) : Except RenderFault Value :=
  match a, b with
  | text s _, n => (n.times?).map fun n => ofText (List.replicate n s).flatten
  | n, text s _ => (n.times?).map fun n => ofText (List.replicate n s).flatten
  | list xs, n => (n.times?).map fun n => list (List.replicate n xs).flatten
  | n, list xs => (n.times?).map fun n => list (List.replicate n xs).flatten
  | a, b => arithmetic (fun x y => ofWide (x * y)) (· * ·) a b

/-- A real quotient. -/
def div (a b : Value) : Except RenderFault Value :=
  match a.asReal? true, b.asReal? true with
  | some x, some y => .ok (ofFloat (Real.toFloat x / Real.toFloat y))
  | _, _ => .error .invalidOperation

/-- The number toward zero. -/
def truncated (x : Float) : Float :=
  if x < 0 then x.ceil else x.floor

/-- The remainder of a division of real numbers, with the sign of the first. -/
def realRemainder (x y : Float) : Float :=
  x - y * truncated (x / y)

/-- The quotient that leaves a remainder which is not negative. -/
def floorDiv (a b : Value) : Except RenderFault Value :=
  arithmetic (fun x y => if y = 0 then .error .invalidOperation else ofWide (x / y))
    (fun x y =>
      let q := truncated (x / y)
      if realRemainder x y < 0 then (if 0 < y then q - 1 else q + 1) else q) a b

/-- The remainder that is not negative. -/
def rem (a b : Value) : Except RenderFault Value :=
  arithmetic (fun x y => if y = 0 then .error .invalidOperation else ofWide (x % y))
    (fun x y =>
      let r := realRemainder x y
      if r < 0 then r + y.abs else r) a b

/-- A power, by multiplications that stop once the result is out of range. -/
def powerFrom (x : Int) : Nat → Int → Option Int
  | 0, acc => some acc
  | n + 1, acc => if isWide acc then powerFrom x n (acc * x) else Option.none

/-- A power of whole numbers. The exponent is a natural number of thirty-two bits. -/
def wholePower (x y : Int) : Except RenderFault Value :=
  if y < 0 ∨ Decimal.max32 < y then .error .invalidOperation
  else if x = 0 ∨ x = 1 then ofWide (if y = 0 then 1 else x)
  else if x = -1 then ofWide (if y % 2 = 0 then 1 else -1)
  else if 128 < y then .error .invalidOperation
  else match powerFrom x y.toNat 1 with
    | some r => ofWide r
    | Option.none => .error .invalidOperation

/-- A power. -/
def pow (a b : Value) : Except RenderFault Value :=
  arithmetic wholePower (fun x y => x.pow y) a b

/-- The number with the other sign. -/
def neg (v : Value) : Except RenderFault Value :=
  match v with
  | integer i => ofWide (-i)
  | real bits => .ok (ofFloat (-(Real.toFloat bits)))
  | _ => .error .invalidOperation

/-- The printed forms of two values, one after the other. -/
def concat (a b : Value) : Value :=
  ofText (display a ++ display b)

/-- Whether a value is in a text, a list or a table. -/
def contains (container v : Value) : Except RenderFault Bool :=
  match container with
  | undefined => .ok false
  | text t _ => .ok (Text.occursIn v.display t)
  | list items => .ok (items.any fun w => same w v)
  | map entries => .ok (valueAt? v entries).isSome
  | function _ => .ok false
  | loop .. => .ok false
  | _ => .error .invalidOperation

/-- A comparison by the order of values. -/
def ordered (holds : Ordering → Bool) (a b : Value) : Value :=
  bool (holds (order a b))

/-- The result of an operator on two values. Both operands of `and` and `or` have been evaluated
here. -/
def binary (op : BinaryOp) (a b : Value) : Except RenderFault Value :=
  match op with
  | .or => .ok (if a.isTrue then a else b)
  | .and => .ok (if a.isTrue then b else a)
  | .equal => .ok (bool (same a b))
  | .notEqual => .ok (bool (!same a b))
  | .less => .ok (ordered Ordering.isLT a b)
  | .lessEqual => .ok (ordered Ordering.isLE a b)
  | .greater => .ok (ordered Ordering.isGT a b)
  | .greaterEqual => .ok (ordered Ordering.isGE a b)
  | .isIn => (contains b a).map bool
  | .add => add a b
  | .sub => sub a b
  | .concat => .ok (concat a b)
  | .mul => mul a b
  | .div => div a b
  | .floorDiv => floorDiv a b
  | .rem => rem a b
  | .pow => pow a b

/-- The result of an operator before a value. -/
def unary (op : UnaryOp) (v : Value) : Except RenderFault Value :=
  match op with
  | .not => .ok (bool (!v.isTrue))
  | .neg => neg v

/-! ### Parts -/

/-- The place that an index stands for among `count` items; a negative one counts from the end. -/
def place? (index : Value) (count : Nat) : Option Nat :=
  match index.asInt64? with
  | Option.none => Option.none
  | some i =>
    if 0 ≤ i then some i.toNat
    else if i.natAbs ≤ count then some (count - i.natAbs) else Option.none

/-- The attribute of a loop. -/
def loopField? (name : Text) (round count : Nat) (previous next : Value) : Option Value :=
  let fields : List (Text × Value) :=
    [("index0", ofNat round), ("index", ofNat (round + 1)), ("length", ofNat count),
     ("revindex", ofNat (count - round)), ("revindex0", ofNat (count - round - 1)),
     ("first", bool (round = 0)), ("last", bool (round + 1 = count)),
     ("depth", ofNat 1), ("depth0", ofNat 0), ("previtem", previous),
     ("nextitem", next)]
  (fields.find? fun f => f.1 = name).map (·.2)

/-- The attribute of a value, undefined if it has none. -/
def member (v : Value) (name : Text) : Value :=
  match v with
  | map entries => (field? name entries).getD undefined
  | loop round count previous next =>
    (loopField? name round count previous next).getD undefined
  | _ => undefined

/-- The item of a value at an index, undefined if it has none. -/
def item (v index : Value) : Value :=
  match v with
  | map entries => (valueAt? index entries).getD undefined
  | list items => ((place? index items.length).bind fun i => items[i]?).getD undefined
  | text t _ =>
    ((place? index t.length).bind fun i => (t[i]?).map fun c => ofText [c]).getD undefined
  | loop .. =>
    match index.asText? with
    | some name => member v name
    | Option.none => undefined
  | _ => undefined

/-- Every `step`-th item, from the first on. -/
def everyNth {α : Type} (step : Nat) : Nat → List α → List α
  | _, [] => []
  | 0, a :: rest => a :: everyNth step (step - 1) rest
  | skip + 1, _ :: rest => everyNth step skip rest

/-- The items from `start` to before `stop`; negative bounds count from the end. -/
def between {α : Type} (start : Int) (stop : Option Int) (items : List α) : List α :=
  let fromEnd (i : Int) : Nat := if i < 0 then (items.length + i).toNat else i.toNat
  let first := fromEnd start
  let last := match stop with
    | some i => fromEnd i
    | Option.none => items.length
  (items.drop first).take (last - first)

/-- The items from `start` down to before `stop`, every `step`-th one. -/
def backwards {α : Type} (start stop : Option Int) (step : Nat) (items : List α) : List α :=
  let count : Int := items.length
  let clip (i : Int) : Int := max (-1) (min (count - 1) (if i < 0 then count + i else i))
  let first := (start.map clip).getD (count - 1)
  let last := (stop.map clip).getD (-1)
  everyNth step 0 ((items.take (first + 1).toNat).drop (last + 1).toNat).reverse

/-- A bound of a slice. -/
def bound? (v : Value) : Except RenderFault (Option Int) :=
  match v with
  | none => .ok Option.none
  | v =>
    match v.asInt64? with
    | some i => .ok (some i)
    | Option.none => .error .invalidOperation

/-- A slice of a list of items. -/
def sliceItems {α : Type} (start stop step : Option Int) (items : List α) : List α :=
  let by_ := step.getD 1
  if by_ < 0 then backwards start stop by_.natAbs items
  else everyNth by_.toNat 0 (between (start.getD 0) stop items)

/-- A slice of a text or a list. -/
def slice (v start stop step : Value) : Except RenderFault Value := do
  let start ← bound? start
  let stop ← bound? stop
  let step ← bound? step
  if step = some 0 then .error .invalidOperation
  else match v with
    | text t _ => .ok (ofText (sliceItems start stop step t))
    | list items => .ok (list (sliceItems start stop step items))
    | undefined => .ok (list [])
    | none => .ok (list [])
    | _ => .error .invalidOperation

/-- The items that a loop over a value takes. -/
def items (v : Value) : Except RenderFault (List Value) :=
  match v with
  | undefined => .ok []
  | none => .ok []
  | text t _ => .ok (t.map fun c => ofText [c])
  | list items => .ok items
  | map entries => .ok (entries.map (·.1))
  | _ => .error .notIterable

end Value

end VendorCli.Template
