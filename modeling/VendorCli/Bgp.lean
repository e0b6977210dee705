import VendorCli.Interfaces.Writing
import VendorCli.Record.BgpGlobal
/-!
# BGP

The global settings of the BGP process. There is one process, in the default network instance; its
autonomous system cannot be changed, only its router identifier.
-/

namespace VendorCli.Bgp

/-- The global settings of a BGP process. -/
def configPath : Text :=
  "/network-instances/network-instance/protocols/protocol/bgp/global/config"

/-- The command that shows the process. -/
def showCommand : Text :=
  "show running-config | section router bgp"

/-- The line that opens the section of the process. -/
def processLine : Regex :=
  Interfaces.regexOf "^router bgp (?P<as>\\d+)$"

/-- The line of the router identifier. -/
def routerIdLine : Regex :=
  Interfaces.regexOf "^bgp router-id (?P<id>\\S+)$"

/-- The settings in an output: the first number of an autonomous system and the first router
identifier. -/
def found? (output : Text) : Option BgpGlobal := do
  let system ← Output.firstValue? processLine (fun c =>
    (processLine.named? c "as").bind (Decimal.nat? Decimal.max32)) 0 output
  let routerId := Output.firstValue? routerIdLine (fun c =>
    (routerIdLine.named? c "id").bind Ipv4.ofText?) 0 output
  return ⟨UInt32.ofNat system, routerId⟩

/-- The network instance that is supported. -/
def defaultInstance : Text := "default"

/-- Whether a path is about the default network instance. -/
def isDefaultInstance (path : ConfigPath) : Bool :=
  (path.elementKey? "network-instance" "name").all fun name => name = defaultInstance

/-- Refuse a path about another network instance. -/
def ensureDefaultInstance (path : ConfigPath) : Except Error Unit :=
  if isDefaultInstance path then .ok ()
  else .error (.invalidArgument (.unsupportedInstance defaultInstance path.toText))

/-- The reader of the settings; other instances than the default one have none. -/
def reader : RecordReader BgpGlobal where
  query path := .ok (if isDefaultInstance path then some showCommand else none)
  interpret _ output := .ok (found? output)
  encode := BgpGlobal.toJson

/-- The template of the commands of the process. -/
def commandTemplate : Text :=
  "router bgp \x7b\x7b data['as'] \x7d\x7d\n"
    ++ "\x7b\x7b update(before.router_id, data.router_id, "
    ++ "'bgp router-id ' ~ data.router_id, 'no bgp router-id') \x7d\x7d\n"

/-- The lines that take the settings from one record to another. -/
def commands (before : Option BgpGlobal) (after : BgpGlobal) : Except Error (List Text) :=
  Interfaces.renderedLines commandTemplate (before.map BgpGlobal.toJson) after.toJson

/-- The writer of the settings. -/
def writer : RecordWriter BgpGlobal where
  required := ["as"]
  decode := BgpGlobal.ofJson
  create path b := do
    ensureDefaultInstance path
    commands none b
  update path before after := do
    ensureDefaultInstance path
    if before.system = after.system then commands (some before) after
    else .error (.invalidArgument (.systemChange before.system.toNat after.system.toNat))
  delete path b := do
    ensureDefaultInstance path
    .ok ["no router bgp " ++ Decimal.digitsOf b.system.toNat]

end VendorCli.Bgp
