import VendorCli.Record.Interface
import VendorCli.Registry.Handler
/-!
# Interfaces: paths and checks

The schema paths of interfaces, and the checks that every change of an interface passes: the record
is about the interface that the path names, and a physical interface, which is there whatever the
configuration says, is neither created nor deleted.
-/

namespace VendorCli.Interfaces

/-- The list of interfaces. -/
def listPath : Text := "/interfaces/interface"

/-- The configuration of an interface. -/
def configPath : Text := "/interfaces/interface/config"

/-- The name of the interface at a path, which has to be that of a record. -/
def keyOf (path : ConfigPath) (i : Interface) : Except Error Text := do
  let name ← path.requireKey "name"
  if name = i.name then .ok name
  else .error (.invalidArgument (.interfaceMismatch i.name path.toText))

/-- Refuse an action on a physical interface. -/
def ensureVirtual (name action : Text) : Except Error Unit :=
  if (InterfaceKind.ofName name).isPhysical then
    .error (.invalidArgument (.physicalInterface name action))
  else .ok ()

/-- The name of the subinterface at a path; that of index 0 is the interface itself. -/
def subinterfaceName (path : ConfigPath) : Except Error Text := do
  let name ← path.requireKey "name"
  match path.key? "index" with
  | none => .ok name
  | some index => .ok (if index = ['0'] then name else name ++ '.' :: index)

/-- The MTU in a record that was found in output. -/
def mtuOf (path : ConfigPath) (value : Option Json) : Except Error (Option UInt16) :=
  match value.bind Json.nat? with
  | none => .ok none
  | some n =>
    if n ≤ Decimal.max16 then .ok (some (UInt16.ofNat n))
    else .error (.parse (.mtuOutOfRange path.toText n))

/-- How a platform writes interfaces: the lines that take a record to another one, from nothing if
there is none before, and the line that removes an interface. -/
structure Style where
  commands : Option Interface → Interface → Except Error (List Text)
  removal : Text → Text

/-- The writer of interfaces in a style. -/
def writer (s : Style) : RecordWriter Interface where
  required := ["name"]
  decode := Interface.ofJson
  create path i := do
    let name ← keyOf path i
    ensureVirtual name "created"
    s.commands none i
  update path before after := do
    let _ ← keyOf path after
    s.commands (some before) after
  delete path i := do
    let name ← keyOf path i
    ensureVirtual name "deleted"
    .ok [s.removal name]

end VendorCli.Interfaces
