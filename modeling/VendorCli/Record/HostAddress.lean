import VendorCli.Ipv4.Mask
import VendorCli.Document.Decode
/-!
# Address records

An IPv4 address of an interface with the length of its network prefix, in its three written forms:
`a.b.c.d/n`, an address beside a dotted mask, and a structured value.
-/

namespace VendorCli

namespace Ipv4

/-- What is wrong with the text of an address. -/
def malformed : Text := "invalid IPv4 address syntax"

/-- The address that a document holds. -/
def ofDocument (d : Document) : Decoded Ipv4 := do
  let t ← d.toTextAs "IPv4 address"
  match ofText? t with
  | some ip => .ok ip
  | none => .error (.refused malformed)

end Ipv4

/-- An address with the length of its network prefix. -/
structure HostAddress where
  ip : Ipv4
  prefixLength : UInt8
deriving DecidableEq, Repr

namespace HostAddress

/-- The mask of the prefix; a length that no mask has counts as the longest. -/
def netmask (a : HostAddress) : Ipv4 :=
  (Ipv4.netmask? a.prefixLength.toNat).getD Ipv4.broadcast

/-- The address, a slash and the length. -/
def toText (a : HostAddress) : Text :=
  a.ip.toText ++ '/' :: Decimal.digitsOf a.prefixLength.toNat

/-- The record of an address beside a dotted mask. -/
def ofNetmask? (ip mask : Text) : Option HostAddress := do
  let ip ← Ipv4.ofText? ip
  let p ← Ipv4.prefixLength? mask
  return ⟨ip, UInt8.ofNat p⟩

/-- What can be wrong with the text of an address and a prefix length. -/
inductive Fault where
  | noSlash (text : Text)
  | address (text : Text)
  | length (text : Text) (fault : Decimal.Fault)
  | outOfRange (length : Nat)
deriving DecidableEq, Repr

/-- The fault in words. -/
def Fault.message : Fault → Text
  | .noSlash t => Text.inQuotes t ++ " is not in address/prefix form"
  | .address t => "invalid address " ++ Text.inQuotes t ++ ": " ++ Ipv4.malformed
  | .length t fault => "invalid prefix " ++ Text.inQuotes t ++ ": " ++ fault.message
  | .outOfRange n => "prefix length " ++ Decimal.digitsOf n ++ " out of range"

/-- The record that a text of the form `a.b.c.d/n` stands for. -/
def ofText (t : Text) : Except Fault HostAddress :=
  match Text.splitOnce? '/' t with
  | none => .error (.noSlash t)
  | some (address, length) =>
    match Ipv4.ofText? address with
    | none => .error (.address address)
    | some ip =>
      match Decimal.readNat Decimal.max8 length with
      | .error fault => .error (.length length fault)
      | .ok n => if n ≤ 32 then .ok ⟨ip, UInt8.ofNat n⟩ else .error (.outOfRange n)

/-- The record as a structured value. -/
def toJson (a : HostAddress) : Json :=
  Json.ofFields [("ip", .string a.ip.toText), ("prefix_length", Json.ofNat a.prefixLength.toNat)]

/-- A word of eight bits. -/
def lengthOfDocument (d : Document) : Decoded UInt8 :=
  (d.toNat Decimal.max8 "u8").map UInt8.ofNat

/-- The fields of the record in data files. -/
def shape : Shape where
  name := "Ipv4Address"
  fields := [.required "ip" Ipv4.ofDocument, .required "prefix_length" lengthOfDocument]

/-- The record that a document holds. -/
def ofDocument (d : Document) : Decoded HostAddress := do
  let fields ← shape.select d
  let ip ← fields.get "ip" Ipv4.ofDocument
  let prefixLength ← fields.get "prefix_length" lengthOfDocument
  return { ip, prefixLength }

/-- The record that a structured value holds. -/
def ofJson (v : Json) : Decoded HostAddress :=
  ofDocument v.toDocument

end VendorCli.HostAddress
