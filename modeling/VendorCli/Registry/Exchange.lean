import VendorCli.Device
import VendorCli.Registry.Basic
/-!
# Reading and writing nodes

The operations on a node of a device's configuration: `read` its value, `list` the entries of a
list, `write` a change. Each finds the handler of the path and does with the device what the
handler says: reading sends at most one command, and writing at most one block.
-/

namespace VendorCli.Registry

/-- The value of the node at a path, if the device has it. -/
def read (r : Registry) (path : ConfigPath) (d : Device) (c : ReadContext) :
    Except Error (Option Json) × Device × ReadContext :=
  match r.reader path d.platform with
  | .error e => (.error e, d, c)
  | .ok reader =>
    match reader.query path with
    | .error e => (.error e, d, c)
    | .ok none => (.ok none, d, c)
    | .ok (some command) =>
      match d.fetch command c with
      | (.error e, d, c) => (.error e, d, c)
      | (.ok output, d, c) => (reader.interpret path output, d, c)

/-- The paths of the entries of the list at a path. -/
def list (r : Registry) (path : ConfigPath) (d : Device) (c : ReadContext) :
    Except Error (List ConfigPath) × Device × ReadContext :=
  match r.lister path d.platform with
  | .error e => (.error e, d, c)
  | .ok lister =>
    match lister.query path with
    | .error e => (.error e, d, c)
    | .ok command =>
      match d.fetch command c with
      | (.error e, d, c) => (.error e, d, c)
      | (.ok output, d, c) =>
        (.ok ((lister.keys path output).map fun key => path.withKey lister.keyName key), d, c)

/-- Apply a change to the node at a path. -/
def write (r : Registry) (path : ConfigPath) (change : Change) (d : Device) (c : WriteContext) :
    Except Error Unit × Device × WriteContext :=
  match r.writer path d.platform with
  | .error e => (.error e, d, c)
  | .ok writer =>
    match writer.plan path change with
    | .error e => (.error e, d, c)
    | .ok lines =>
      match d.apply path lines c with
      | (.error e, d, c) => (.error e, d, c)
      | (.ok _, d, c) => (.ok (), d, c)

end VendorCli.Registry
