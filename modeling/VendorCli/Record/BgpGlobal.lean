import VendorCli.Record.HostAddress
/-!
# BGP records

The global settings of a BGP process: the number of its autonomous system and, where configured,
its router identifier.
-/

namespace VendorCli

/-- The global settings of a BGP process. -/
structure BgpGlobal where
  system : UInt32
  routerId : Option Ipv4
deriving DecidableEq, Repr

namespace BgpGlobal

/-- The record as a structured value. -/
def toJson (b : BgpGlobal) : Json :=
  Json.ofFields <|
    ("as", Json.ofNat b.system.toNat) ::
      match b.routerId with
      | some id => [("router_id", .string id.toText)]
      | none => []

/-- A word of thirty-two bits. -/
def systemOfDocument (d : Document) : Decoded UInt32 :=
  (d.toNat Decimal.max32 "u32").map UInt32.ofNat

/-- The fields of the record in data files. -/
def shape : Shape where
  name := "BgpGlobalConfig"
  fields :=
    [.required "as" systemOfDocument,
     .optionally "router_id" (Document.toOption Ipv4.ofDocument)]

/-- The record that a document holds. -/
def ofDocument (d : Document) : Decoded BgpGlobal := do
  let fields ← shape.select d
  let system ← fields.get "as" systemOfDocument
  let routerId ← fields.getD "router_id" (Document.toOption Ipv4.ofDocument) none
  return { system, routerId }

/-- The record that a structured value holds. -/
def ofJson (v : Json) : Decoded BgpGlobal :=
  ofDocument v.toDocument

end VendorCli.BgpGlobal
