import VendorCli.Document.Decode
/-!
# Kinds of interfaces

What an interface is can be told from its name. Physical interfaces exist whatever the configuration
says; all other kinds come and go with it.
-/

namespace VendorCli

/-- The kind of an interface. -/
inductive InterfaceKind where
  /-- A physical Ethernet interface. -/
  | ethernet
  | loopback
  | tunnel
  /-- A routed interface of a VLAN. -/
  | routedVlan
  | other
deriving DecidableEq, Repr

namespace InterfaceKind

/-- The kind's name. -/
def name : InterfaceKind → Text
  | ethernet => "ethernet-csmacd"
  | loopback => "software-loopback"
  | tunnel => "tunnel"
  | routedVlan => "l3-ipvlan"
  | other => "other"

/-- The kinds by name. -/
def names : List (Text × InterfaceKind) :=
  [ethernet, loopback, tunnel, routedVlan, other].map fun k => (k.name, k)

/-- Whether a text starts with one of several pieces. -/
private def startsWithAny (leads : List Text) (t : Text) : Bool :=
  leads.any fun lead => Text.startsWith lead t

/-- Names of physical interfaces, in lower case: the long and short forms of Cisco, the two-letter
names of Junos, and the names of Huawei with the speed in front, where a digit has to follow. -/
def isEthernetName (lower : Text) : Bool :=
  Text.occursIn "ethernet" lower || Text.occursIn "gige" lower
    || startsWithAny ["ge-", "xe-", "et-", "fe-", "gi", "te", "fa", "hu", "fo", "twe"] lower
    || [("ge" : Text), "xge", "multige", "eth"].any fun lead =>
      match Text.dropLead? lead (lower.dropWhile Char.isDigit) with
      | some rest => (rest.head?.map Char.isDigit).getD false
      | none => false

/-- The kind that an interface's name tells. -/
def ofName (t : Text) : InterfaceKind :=
  let lower := Text.asciiLower t
  if startsWithAny ["loopback", "lo0"] lower then loopback
  else if startsWithAny ["tunnel", "tun"] lower then tunnel
  else if startsWithAny ["vlan", "bdi", "irb"] lower then routedVlan
  else if isEthernetName lower then ethernet
  else other

/-- Whether interfaces of this kind exist regardless of configuration. -/
def isPhysical : InterfaceKind → Bool
  | ethernet => true
  | _ => false

/-- The kind that a data file names. -/
def ofDocument (d : Document) : Decoded InterfaceKind :=
  d.toVariant names

end VendorCli.InterfaceKind
