import VendorCli.Ipv4.Mask
import VendorCli.Template.Filter.Basic
/-!
# Filters for network devices

`maskBy` and `prefixLength` convert between prefix lengths and masks, and `quote` puts a text with
blanks in it between double quotes, as device commands take it.
-/

namespace VendorCli.Template.Filter

/-- The mask of a prefix length, by a function from lengths to masks. -/
def maskBy (mask? : Nat → Option Ipv4) : Filter :=
  simple fun v =>
    match v.asUInt32? with
    | none => .error .arguments
    | some p =>
      match mask? p with
      | some m => .ok (Value.ofText m.toText)
      | none => .error (.prefixLength p)

/-- The prefix length of a mask. -/
def prefixLength : Filter :=
  simple fun v =>
    match Ipv4.prefixLength? v.display with
    | some p => .ok (Value.ofNat p)
    | none => .error (.netmask v.display)

/-- A text with blanks in it between double quotes, and a backslash before each double quote of its
own; other texts as they are. -/
def quote (t : Text) : Text :=
  if t.any Text.isBlank then '"' :: Text.replaceChar '"' ['\\', '"'] t ++ ['"'] else t

end VendorCli.Template.Filter
