import VendorCli.Template.Filter.Basic
/-!
# Filters on numbers

Conversions to whole and to real numbers, the size of a number, and rounding. Whole numbers stay
within 128 bits.
-/

namespace VendorCli.Template.Filter

/-- The size of a number. -/
def absolute : Filter :=
  simple fun v =>
    match v with
    | .integer i => .ok (.integer i.natAbs)
    | .real bits => .ok (Value.ofFloat (Real.toFloat bits).abs)
    | _ => .error .invalidOperation

/-- The least signed number of 128 bits. -/
def leastWhole : Int := -(Decimal.maxSigned128 : Int) - 1

/-- The whole number nearest to a real one toward zero, within 128 bits. -/
def wholeOf (bits : UInt64) : Int :=
  if Real.isUndefined bits then 0
  else match Real.toInt? (Real.ofFloat (Value.truncated (Real.toFloat bits))) with
    | some i => max leastWhole (min Decimal.maxSigned128 i)
    | none => if Real.isNegative bits then leastWhole else Decimal.maxSigned128

/-- A value as a whole number. -/
def toInteger : Filter :=
  simple fun v =>
    match v with
    | .undefined => .ok (.integer 0)
    | .none => .ok (.integer 0)
    | .bool b => .ok (.integer (if b then 1 else 0))
    | .integer i => .ok (.integer i)
    | .real bits => .ok (.integer (wholeOf bits))
    | .text t _ =>
      match (Decimal.readInt Decimal.maxSigned128 t).toOption with
      | some i => .ok (.integer i)
      | none =>
        match Real.ofText? t with
        | some bits => .ok (.integer (wholeOf bits))
        | none => .error .invalidOperation
    | _ => .error .invalidOperation

/-- A value as a real number. -/
def toReal : Filter :=
  simple fun v =>
    match v with
    | .undefined => .ok (Value.ofFloat 0)
    | .none => .ok (Value.ofFloat 0)
    | .text t _ =>
      match Real.ofText? t with
      | some bits => .ok (.real bits)
      | none => .error .invalidOperation
    | v =>
      match v.asReal? true with
      | some bits => .ok (.real bits)
      | none => .error .invalidOperation

/-- A real number with so many places kept. -/
def round : Filter := fun v args => do
  let given ← args.upTo 1
  match v with
  | .integer i => .ok (.integer i)
  | .real bits => do
    let places ← match Arguments.optional given 0 with
      | none => .ok 0
      | some w =>
        match w.asInt?.filter (Decimal.isSigned Decimal.maxSigned32) with
        | some places => .ok places
        | none => .error .arguments
    let scale := Float.pow 10 (Float.ofInt places)
    .ok (Value.ofFloat ((Real.toFloat bits * scale).round / scale))
  | _ => .error .invalidOperation

end VendorCli.Template.Filter
