import VendorCli.Error
import VendorCli.Text.Case
/-!
# Platforms

The kinds of devices, and their three spellings: the one a person may type (`ofText`, forgiving
about case and hyphens), the one a data file uses (`ofDocument`), and the ones that are printed.
-/

namespace VendorCli

/-- A kind of device, by the command language it speaks. -/
inductive Platform where
  | ciscoIos
  | ciscoIosXr
  | juniperJunos
  | huawei
  /-- A device of unknown make, taken to speak the language of IOS. -/
  | generic
deriving DecidableEq, Repr

namespace Platform

/-- The platform's name. -/
def name : Platform → Text
  | ciscoIos => "cisco_ios"
  | ciscoIosXr => "cisco_iosxr"
  | juniperJunos => "juniper_junos"
  | huawei => "huawei"
  | generic => "generic"

/-- The platform's name in data files. -/
def tag : Platform → Text
  | ciscoIos => "ciscoios"
  | ciscoIosXr => "ciscoiosxr"
  | juniperJunos => "juniperjunos"
  | huawei => "huawei"
  | generic => "generic"

/-- The platform's name as a value of a program. -/
def symbol : Platform → Text
  | ciscoIos => "CiscoIos"
  | ciscoIosXr => "CiscoIosXr"
  | juniperJunos => "JuniperJunos"
  | huawei => "Huawei"
  | generic => "Generic"

/-- The spellings of a platform that people type, in lower case and with underscores. -/
def spellings : List (Text × Platform) :=
  [("cisco_ios", ciscoIos), ("ciscoios", ciscoIos), ("ios", ciscoIos), ("ios_xe", ciscoIos),
   ("iosxe", ciscoIos),
   ("cisco_iosxr", ciscoIosXr), ("ciscoiosxr", ciscoIosXr), ("iosxr", ciscoIosXr),
   ("ios_xr", ciscoIosXr),
   ("juniper_junos", juniperJunos), ("juniperjunos", juniperJunos), ("junos", juniperJunos),
   ("juniper", juniperJunos),
   ("huawei", huawei), ("vrp", huawei),
   ("generic", generic), ("auto", generic)]

/-- The platform that a person means. -/
def ofText? (t : Text) : Option Platform :=
  lookup? (Text.replaceChar '-' ['_'] (Text.lower t)) spellings

/-- The platform that a person means, with the reason if there is none. -/
def parse (t : Text) : Except Error Platform :=
  match ofText? t with
  | some p => .ok p
  | none => .error (.invalidArgument (.unknownPlatform t))

/-- The spellings of a platform in data files. -/
def tags : List (Text × Platform) :=
  [("cisco_ios", ciscoIos), ("ciscoios", ciscoIos), ("ios", ciscoIos),
   ("cisco_iosxr", ciscoIosXr), ("ciscoiosxr", ciscoIosXr), ("iosxr", ciscoIosXr),
   ("juniper_junos", juniperJunos), ("juniperjunos", juniperJunos), ("junos", juniperJunos),
   ("huawei", huawei), ("vrp", huawei), ("generic", generic)]

/-- The platform that a data file names. -/
def ofDocument (d : Document) : Decoded Platform :=
  d.toVariant tags

end VendorCli.Platform
