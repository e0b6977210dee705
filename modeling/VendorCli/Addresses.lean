import VendorCli.Interfaces.Reading
import VendorCli.Record.HostAddress
/-!
# IPv4 addresses of interfaces

The primary address of a subinterface. A line with an address, a mask and nothing more is the
primary one; secondary addresses have more in their line. A path may name the address that it is
about by the key `ip`.
-/

namespace VendorCli.Addresses

/-- The list of addresses of a subinterface. -/
def listPath : Text :=
  "/interfaces/interface/subinterfaces/subinterface/ipv4/addresses/address"

/-- The configuration of an address. -/
def configPath : Text :=
  "/interfaces/interface/subinterfaces/subinterface/ipv4/addresses/address/config"

/-- The line of a primary address, `ip` being the word that it begins with. -/
def primaryLine (ip : Text) : Regex :=
  Interfaces.regexOf ("^" ++ ip ++ " address (?P<ip>\\S+) (?P<mask>\\S+)$")

/-- The primary address in the body of a section. -/
def primary? (line : Regex) (body : Text) : Option HostAddress :=
  Output.firstValue? line (fun c => do
    HostAddress.ofNetmask? (← line.named? c "ip") (← line.named? c "mask")) 0 body

/-- The command that shows the subinterface at a path. -/
def query (path : ConfigPath) : Except Error Text :=
  (Interfaces.subinterfaceName path).map ("show running-config interface " ++ ·)

/-- The primary address of a subinterface in an output, if it is the one that the path names. -/
def found? (line : Regex) (path : ConfigPath) (name output : Text) : Option HostAddress :=
  let address := (Section.bodyOf? output ("interface " ++ name)).bind (primary? line)
  address.filter fun a => (path.key? "ip").all fun ip => a.ip.toText = ip

/-- The primary address of the subinterface at a path in an output. -/
def interpret (line : Regex) (path : ConfigPath) (output : Text) :
    Except Error (Option HostAddress) :=
  (Interfaces.subinterfaceName path).map fun name => found? line path name output

/-- The reader of primary addresses. -/
def reader (line : Regex) : RecordReader HostAddress where
  query path := (query path).map some
  interpret := interpret line
  encode := HostAddress.toJson

/-- The lister of primary addresses. -/
def lister (line : Regex) : Lister where
  keyName := "ip"
  query := query
  keys path output :=
    match interpret line path output with
    | .ok (some a) => [a.ip.toText]
    | _ => []

/-- Refuse a record of another address than the path names. -/
def checkKey (path : ConfigPath) (a : HostAddress) : Except Error Unit :=
  match path.key? "ip" with
  | some ip =>
    if ip = a.ip.toText then .ok ()
    else .error (.invalidArgument (.addressMismatch a.ip.toText path.toText))
  | none => .ok ()

/-- The lines of a command about the address of the subinterface at a path. -/
def commands (lead : Text) (path : ConfigPath) (a : HostAddress) : Except Error (List Text) := do
  checkKey path a
  let name ← Interfaces.subinterfaceName path
  .ok ["interface " ++ name, lead ++ a.ip.toText ++ ' ' :: a.netmask.toText]

/-- The writer of primary addresses. An address takes the place of the one before. -/
def writer : RecordWriter HostAddress where
  required := ["ip", "prefix_length"]
  decode := HostAddress.ofJson
  create := commands "ip address "
  update path _ after := commands "ip address " path after
  delete := commands "no ip address "

end VendorCli.Addresses
