import VendorCli.Record.InterfaceKind
/-!
# Interface records

The configuration of one interface, as read from a device and as written to it. A description or
an MTU that is not configured is absent; an interface is enabled unless it says otherwise.
-/

namespace VendorCli

/-- The configuration of an interface. -/
structure Interface where
  /-- The name as the device spells it. -/
  name : Text
  kind : InterfaceKind
  description : Option Text
  mtu : Option UInt16
  enabled : Bool
deriving DecidableEq, Repr

namespace Interface

/-- An enabled interface of the kind that its name tells, with nothing configured. -/
def named (name : Text) : Interface where
  name := name
  kind := InterfaceKind.ofName name
  description := none
  mtu := none
  enabled := true

/-- The value under a name, if there is one, as a list of at most one field. -/
def optionalField (name : Text) (value : Option Json) : List (Text × Json) :=
  match value with
  | some v => [(name, v)]
  | none => []

/-- The record as a structured value. -/
def toJson (i : Interface) : Json :=
  let identity : List (Text × Json) := [("name", .string i.name), ("type", .string i.kind.name)]
  let state : List (Text × Json) := [("enabled", .bool i.enabled)]
  Json.ofFields <|
    identity ++ optionalField "description" (i.description.map .string)
      ++ optionalField "mtu" (i.mtu.map fun m => Json.ofNat m.toNat) ++ state

/-- A word of sixteen bits. -/
def mtuOfDocument (d : Document) : Decoded UInt16 :=
  (d.toNat Decimal.max16 "u16").map UInt16.ofNat

/-- The fields of the record in data files. -/
def shape : Shape where
  name := "InterfaceConfig"
  fields :=
    [.required "name" Document.toText,
     .optionally "type" InterfaceKind.ofDocument,
     .optionally "description" (Document.toOption Document.toText),
     .optionally "mtu" (Document.toOption mtuOfDocument),
     .optionally "enabled" Document.toBool]

/-- The record that a document holds. -/
def ofDocument (d : Document) : Decoded Interface := do
  let fields ← shape.select d
  let name ← fields.get "name" Document.toText
  let kind ← fields.getD "type" InterfaceKind.ofDocument .other
  let description ← fields.getD "description" (Document.toOption Document.toText) none
  let mtu ← fields.getD "mtu" (Document.toOption mtuOfDocument) none
  let enabled ← fields.getD "enabled" Document.toBool true
  return { name, kind, description, mtu, enabled }

/-- The record that a structured value holds. -/
def ofJson (v : Json) : Decoded Interface :=
  ofDocument v.toDocument

end VendorCli.Interface
