import VendorCli.Template.Arguments
/-!
# Functions of a value

The shape of all filters: a value and the arguments of the call give a value or a fault. `simple`
makes one of a function that takes no arguments, and `ofText` one of a function of texts.
-/

namespace VendorCli.Template

/-- A function of a value with arguments. -/
abbrev Filter := Value → Arguments → Except RenderFault Value

namespace Filter

/-- A filter without arguments. -/
def simple (f : Value → Except RenderFault Value) : Filter := fun v args =>
  if args.isEmpty then f v else .error .arguments

/-- A filter of a text without arguments. -/
def ofText (f : Text → Text) : Filter :=
  simple fun v => .ok (Value.ofText (f v.display))

end Filter

end VendorCli.Template
