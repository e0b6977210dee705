import VendorCli.Addresses
import VendorCli.Bgp
import VendorCli.Registry.Basic
/-!
# Built-in units

The units of the supported platforms: interfaces on all of them, IPv4 addresses on IOS and IOS-XR,
and BGP on IOS.
-/

namespace VendorCli.Units

/-- A lister of interfaces: the command that shows them, and the lines that name them. -/
def interfaceLister (command : Text) (line : Regex) : Lister where
  keyName := "name"
  query _ := .ok command
  keys _ output := Interfaces.namesIn line output

/-- A reader of interfaces: the command that shows one, and how its output is read. -/
def interfaceReader (command : Text → Text)
    (read : ConfigPath → Text → Text → Except Error (Option Interface)) :
    RecordReader Interface where
  query path := (path.requireKey "name").map fun name => some (command name)
  interpret path output := do
    let name ← path.requireKey "name"
    read path name output
  encode := Interface.toJson

/-- The command that shows an interface on IOS and IOS-XR. -/
def showInterface (name : Text) : Text :=
  "show running-config interface " ++ name

/-- How IOS and IOS-XR write interfaces. -/
def iosStyle : Interfaces.Style where
  commands := Interfaces.templateCommands
  removal name := "no interface " ++ name

/-- Interfaces and addresses of IOS. -/
def iosInterfaces : HandlerUnit where
  name := "ios-interfaces"
  platform := .ciscoIos
  handlers :=
    Handlers.empty
      |>.addLister Interfaces.listPath
          (interfaceLister "show running-config | include ^interface" Interfaces.sectionLine)
      |>.addReader Interfaces.configPath
          (interfaceReader showInterface Interfaces.fromSections).toReader
      |>.addWriter Interfaces.configPath (Interfaces.writer iosStyle).toWriter
      |>.addLister Addresses.listPath (Addresses.lister (Addresses.primaryLine "ip"))
      |>.addReader Addresses.configPath (Addresses.reader (Addresses.primaryLine "ip")).toReader
      |>.addWriter Addresses.configPath Addresses.writer.toWriter

/-- BGP of IOS. -/
def iosBgp : HandlerUnit where
  name := "ios-bgp"
  platform := .ciscoIos
  handlers :=
    Handlers.empty
      |>.addReader Bgp.configPath Bgp.reader.toReader
      |>.addWriter Bgp.configPath Bgp.writer.toWriter

/-- Interfaces and addresses of IOS-XR. -/
def iosXrInterfaces : HandlerUnit where
  name := "iosxr-interfaces"
  platform := .ciscoIosXr
  handlers :=
    Handlers.empty
      |>.addLister Interfaces.listPath
          (interfaceLister "show running-config interface | include ^interface"
            Interfaces.sectionLine)
      |>.addReader Interfaces.configPath
          (interfaceReader showInterface Interfaces.fromSections).toReader
      |>.addWriter Interfaces.configPath (Interfaces.writer iosStyle).toWriter
      |>.addReader Addresses.configPath (Addresses.reader (Addresses.primaryLine "ipv4")).toReader

/-- The command that shows all interfaces on Junos. -/
def showStatements : Text :=
  "show configuration interfaces | display set"

/-- How Junos writes interfaces. -/
def junosStyle : Interfaces.Style where
  commands before after := .ok (Interfaces.statementCommands before after)
  removal name := "delete interfaces " ++ name

/-- Interfaces of Junos. -/
def junosInterfaces : HandlerUnit where
  name := "junos-interfaces"
  platform := .juniperJunos
  handlers :=
    Handlers.empty
      |>.addLister Interfaces.listPath (interfaceLister showStatements Interfaces.statementLine)
      |>.addReader Interfaces.configPath
          (interfaceReader (fun _ => showStatements) Interfaces.fromStatements).toReader
      |>.addWriter Interfaces.configPath (Interfaces.writer junosStyle).toWriter

/-- How VRP writes interfaces. -/
def vrpStyle : Interfaces.Style where
  commands before after := .ok (Interfaces.directCommands "undo" before after)
  removal name := "undo interface " ++ name

/-- Interfaces of VRP. -/
def vrpInterfaces : HandlerUnit where
  name := "huawei-interfaces"
  platform := .huawei
  handlers :=
    Handlers.empty
      |>.addLister Interfaces.listPath
          (interfaceLister "display current-configuration | include ^interface"
            Interfaces.sectionLine)
      |>.addReader Interfaces.configPath
          (interfaceReader ("display current-configuration interface " ++ ·)
            Interfaces.fromSections).toReader
      |>.addWriter Interfaces.configPath (Interfaces.writer vrpStyle).toWriter

/-- All built-in units. -/
def builtin : List HandlerUnit :=
  [iosInterfaces, iosBgp, iosXrInterfaces, junosInterfaces, vrpInterfaces]

end VendorCli.Units

/-- The registry of all built-in units. -/
def VendorCli.Registry.builtin : VendorCli.Registry :=
  ⟨VendorCli.Units.builtin⟩
