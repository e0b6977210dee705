import VendorCli.Proofs.Interfaces.Execution
import VendorCli.Proofs.Ipv4.Notation
/-!
# Changes of addresses

What the writer of IPv4 addresses does with a change, from the values before and after it to the
line with an address and a mask in the block that is sent.

* `requested?` is the value that a change is about, with the words that its command begins with;
* `plan_writer` says which lines a change that is not refused has, and `plan_create` that creating
  an address is refused on account of its path alone;
* the address and the mask of a block are read back as the record that was asked for, its prefix cut
  down to thirty-two bits (`written_mask_read_iff`). A record with a longer prefix is not refused,
  and what is written for it is a host address (`long_prefix_written`).
-/

namespace VendorCli.Addresses

open Text
open Interfaces hiding pathOf

/-- The value that a change is about, with the words that stand before its address in a command. -/
def requested? (change : Change) : Option (Text × Json) :=
  match change.after, change.before with
  | some after, _ => some ("ip address ", after)
  | none, some before => some ("no ip address ", before)
  | none, none => none

/-- The path of the configuration of an address of an interface. -/
def pathOf (name ip : Text) : ConfigPath :=
  ⟨[⟨"interfaces", []⟩, ⟨"interface", [("name", name)]⟩, ⟨"subinterfaces", []⟩,
    ⟨"subinterface", [("index", "0")]⟩, ⟨"ipv4", []⟩, ⟨"addresses", []⟩,
    ⟨"address", [("ip", ip)]⟩, ⟨"config", []⟩]⟩

/-- The line with the address and the mask of a record. -/
def addressLine (lead : Text) (a : HostAddress) : Text :=
  lead ++ a.ip.toText ++ ' ' :: a.netmask.toText

/-! ### Plans -/

section Plans

variable {path : ConfigPath} {change : Change} {lines : List Text} {lead name : Text} {v : Json}
  {a : HostAddress}

/-- Commands are made only of a record that the path admits. -/
theorem commands_eq_ok (h : commands lead path a = .ok lines) :
    checkKey path a = .ok () ∧ ∃ name, subinterfaceName path = .ok name ∧
      lines = ["interface " ++ name, addressLine lead a] := by
  obtain ⟨⟨⟩, hkey, h⟩ := exists_of_bind_eq_ok h
  obtain ⟨name, hname, h⟩ := exists_of_bind_eq_ok h
  cases h
  exact ⟨hkey, name, hname, rfl⟩

/-- A record that the path admits has commands. -/
theorem commands_of_ok (hkey : checkKey path a = .ok ())
    (hname : subinterfaceName path = .ok name) :
    commands lead path a = .ok ["interface " ++ name, addressLine lead a] := by
  rw [commands, hkey, hname]
  rfl

/-- **The plan of a change.** If the writer does not refuse a change, there are no lines, or there
is the line of the subinterface and the line of the record that the change is about. -/
theorem plan_writer (h : writer.plan path change = .ok lines) :
    lines = [] ∨ ∃ lead v a name, requested? change = some (lead, v) ∧
      writer.record path v = .ok a ∧ subinterfaceName path = .ok name ∧
      lines = ["interface " ++ name, addressLine lead a] := by
  -- each kind of change is a chain of steps, and the last one makes the commands
  obtain ⟨before, after⟩ := change
  cases after with
  | none =>
    cases before with
    | none =>
      cases h
      exact .inl rfl
    | some before =>
      obtain ⟨a, ha, h⟩ := exists_of_bind_eq_ok h
      obtain ⟨-, name, hname, rfl⟩ := commands_eq_ok h
      exact .inr ⟨_, before, a, name, rfl, ha, hname, rfl⟩
  | some after =>
    cases before with
    | none =>
      obtain ⟨a, ha, h⟩ := exists_of_bind_eq_ok h
      obtain ⟨-, name, hname, rfl⟩ := commands_eq_ok h
      exact .inr ⟨_, after, a, name, rfl, ha, hname, rfl⟩
    | some before =>
      obtain ⟨b, -, h⟩ := exists_of_bind_eq_ok h
      obtain ⟨a, ha, h⟩ := exists_of_bind_eq_ok h
      -- an update between equal records has no lines
      split at h
      · cases h
        exact .inl rfl
      · obtain ⟨-, name, hname, rfl⟩ := commands_eq_ok h
        exact .inr ⟨_, after, a, name, rfl, ha, hname, rfl⟩

/-- Creating an address is planned for every record that the path admits. -/
theorem plan_create (ha : writer.record path v = .ok a) (hkey : checkKey path a = .ok ())
    (hname : subinterfaceName path = .ok name) :
    writer.plan path ⟨none, some v⟩ = .ok ["interface " ++ name, addressLine "ip address " a] := by
  change (writer.record path v >>= fun a => commands "ip address " path a) = _
  rw [ha]
  exact commands_of_ok hkey hname

end Plans

/-! ### Blocks -/

/-- The line of a record begins as the words before its address do. -/
theorem begins_addressLine {lead : Text} (hlead : Begins lead) (a : HostAddress) :
    Begins (addressLine lead a) := by
  obtain ⟨c, s, rfl, hc⟩ := hlead
  exact ⟨c, _, rfl, hc⟩

/-- A command for an address either sets or removes it. -/
theorem lead_of_requested? {change : Change} {lead : Text} {v : Json}
    (h : requested? change = some (lead, v)) : lead = "ip address " ∨ lead = "no ip address " := by
  unfold requested? at h
  split at h
  · cases h
    exact .inl rfl
  · cases h
    exact .inr rfl
  · cases h

theorem ends_toText (ip : Ipv4) : Ends ip.toText :=
  (((ends_digitsOf _).append _).append _).append _

/-- The line of a record begins with a letter and ends with a digit, so it is sent as it is. -/
theorem trim_addressLine {lead : Text} (hlead : Begins lead) (a : HostAddress) :
    trim (addressLine lead a) = addressLine lead a := by
  have hends : Ends (' ' :: a.netmask.toText) := (ends_toText a.netmask).append [' ']
  exact trim_of_ends (begins_addressLine hlead a) (hends.append _)

/-- The line of a record has no line feed. -/
theorem endedLines_addressLine {lead : Text} (hlead : Begins lead) (hfeed : '\n' ∉ lead)
    (a : HostAddress) : endedLines (addressLine lead a) = [addressLine lead a] := by
  -- an address is made of digits and dots
  have haddress : ∀ ip : Ipv4, '\n' ∉ ip.toText := by
    intro ip hmem
    rcases Ipv4.eq_or_isDigit_of_mem_toText hmem with h | h <;> cases h
  have hline : '\n' ∉ addressLine lead a := by
    simp [addressLine, hfeed, haddress]
  rw [← trim_addressLine hlead a]
  exact endedLines_of_oneLine (.of_not_mem hline)

/-- The lines that are sent for a record. -/
theorem effectiveLines_address {lead name : Text} (hlead : Begins lead) (a : HostAddress) :
    Device.effectiveLines ["interface " ++ name, addressLine lead a]
      = [trim ("interface " ++ name), addressLine lead a] := by
  have hbegins : ∀ l ∈ ["interface " ++ name, addressLine lead a], Begins l :=
    List.forall_mem_cons.mpr
      ⟨⟨'i', _, rfl, rfl⟩, List.forall_mem_singleton.mpr (begins_addressLine hlead a)⟩
  rw [effectiveLines_of_begins hbegins, List.map_cons, List.map_singleton,
    trim_addressLine hlead]

/-- **The lines of a block.** Between the lines that enter and leave configuration mode stand those
of the subinterface, its name as the path has it, and the line of the record. -/
theorem lines_blockOf_address (d : Device) {lead name : Text} (hlead : Begins lead)
    (hfeed : '\n' ∉ lead) (a : HostAddress) :
    lines (d.blockOf (Device.effectiveLines ["interface " ++ name, addressLine lead a]))
      = d.platform.dialect.wrap
          (endedLines (trim ("interface " ++ name)) ++ [addressLine lead a]) := by
  rw [effectiveLines_address hlead, lines_blockOf, List.flatMap_cons, List.flatMap_singleton,
    endedLines_addressLine hlead hfeed]

/-! ### Registries -/

/-- The writer of addresses serves IOS, and devices of unknown make. -/
theorem writer_configPath {path : ConfigPath} (h : path.schema = configPath) {p : Platform}
    (hp : p = .ciscoIos ∨ p = .generic) :
    Registry.builtin.writer path p = .ok writer.toWriter := by
  rw [Registry.writer, Registry.find, h]
  rcases hp with rfl | rfl <;> rfl

/-- **Written masks.** The block of a change that is accepted has one line of the record that was
asked for. The address and the mask in it are read back as the address of the record and its prefix
length, or thirty-two if that is longer; so they are read back as the record exactly if its prefix
length is at most thirty-two.

A longer prefix is no reason to refuse a record: creating an address leaves a block for every record
that the path admits. -/
theorem written_mask_read_iff {r : Registry} {path : ConfigPath} {d : Device}
    (hw : r.writer path d.platform = .ok writer.toWriter) (c : WriteContext) :
    (∀ change block, (r.write path change d c).2.2 = c.record block →
      ∃ lead v a name, requested? change = some (lead, v) ∧ HostAddress.ofJson v = .ok a ∧
        subinterfaceName path = .ok name ∧
        lines block = d.platform.dialect.wrap (endedLines (trim ("interface " ++ name))
          ++ [lead ++ a.ip.toText ++ ' ' :: a.netmask.toText]) ∧
        HostAddress.ofNetmask? a.ip.toText a.netmask.toText
          = some ⟨a.ip, UInt8.ofNat (min a.prefixLength.toNat 32)⟩ ∧
        (HostAddress.ofNetmask? a.ip.toText a.netmask.toText = some a
          ↔ a.prefixLength.toNat ≤ 32)) ∧
    ∀ v a name, writer.record path v = .ok a → checkKey path a = .ok () →
      subinterfaceName path = .ok name →
      ∃ block, (r.write path ⟨none, some v⟩ d c).2.2 = c.record block ∧
        lines block = d.platform.dialect.wrap (endedLines (trim ("interface " ++ name))
          ++ ["ip address " ++ a.ip.toText ++ ' ' :: a.netmask.toText]) := by
  have hplan : ∀ change, r.plan path d.platform change = writer.plan path change := by
    intro change
    rw [Registry.plan, hw]
    rfl
  constructor
  · intro change block hblock
    -- a block in the context was planned, and the plan has a line for one record
    obtain ⟨lines, hlines, hne, rfl⟩ := exists_recorded hblock
    rw [hplan] at hlines
    rcases plan_writer hlines with rfl | ⟨lead, v, a, name, hrequested, hrecord, hname, rfl⟩
    · exact absurd rfl hne
    · obtain ⟨hbegins, hfeed⟩ : Begins lead ∧ '\n' ∉ lead := by
        rcases lead_of_requested? hrequested with rfl | rfl
        · exact ⟨⟨'i', _, rfl, rfl⟩, by decide⟩
        · exact ⟨⟨'n', _, rfl, rfl⟩, by decide⟩
      exact ⟨lead, v, a, name, hrequested, decode_of_record path hrecord, hname,
        lines_blockOf_address d hbegins hfeed a, a.ofNetmask?_toText, a.ofNetmask?_eq_self_iff⟩
  · intro v a name hrecord hkey hname
    have hbegins : Begins "ip address " := ⟨'i', _, rfl, rfl⟩
    have hlines := (hplan ⟨none, some v⟩).trans (plan_create hrecord hkey hname)
    -- the line of the subinterface is never blank, so there is something to send
    have hne : Device.effectiveLines ["interface " ++ name, addressLine "ip address " a] ≠ [] := by
      rw [effectiveLines_address hbegins]
      exact List.cons_ne_nil _ _
    exact ⟨_, Registry.recorded_of_ok hlines hne c,
      lines_blockOf_address d hbegins (by decide) a⟩

/-- An address with a prefix of twenty-eight bits, on a router with IOS. -/
theorem written_mask_read_port :
    let a : HostAddress := ⟨Ipv4.ofOctets 10 0 0 1, 28⟩
    ∃ block, (Registry.builtin.write (pathOf "Gi0/1" "10.0.0.1") ⟨none, some a.toJson⟩
        ⟨.replay (.named "router"), .ciscoIos, "router"⟩ .sending).2.2
          = WriteContext.sending.record block ∧
      lines block = Dialect.ios.wrap ["interface Gi0/1", "ip address 10.0.0.1 255.255.255.240"] ∧
      HostAddress.ofNetmask? "10.0.0.1" "255.255.255.240" = some a := by
  intro a
  have hw : Registry.builtin.writer (pathOf "Gi0/1" "10.0.0.1") .ciscoIos = .ok writer.toWriter :=
    writer_configPath (by decide) (.inl rfl)
  obtain ⟨hread, hwritten⟩ := written_mask_read_iff
    (d := ⟨.replay (.named "router"), .ciscoIos, "router"⟩) hw .sending
  obtain ⟨block, hblock, hlines⟩ :=
    hwritten a.toJson a "Gi0/1" (by decide +kernel) (by decide +kernel) (by decide +kernel)
  refine ⟨block, hblock, hlines.trans (by decide +kernel), ?_⟩
  -- the record that the block is about is the one that was to be created
  obtain ⟨lead, v, b, name, hrequested, hb, -, -, -, hiff⟩ := hread _ block hblock
  cases hrequested
  cases (show HostAddress.ofJson a.toJson = .ok a by decide +kernel).symm.trans hb
  have htexts : a.ip.toText = "10.0.0.1" ∧ a.netmask.toText = "255.255.255.240" := by
    decide +kernel
  rw [← htexts.1, ← htexts.2]
  exact hiff.mpr (by decide)

/-- **A prefix that no mask has** is written with the mask of a single host, although the record is
another one. -/
theorem long_prefix_written :
    let a : HostAddress := ⟨Ipv4.ofOctets 10 0 0 1, 33⟩
    let (result, _, c) := Registry.builtin.write (pathOf "Gi0/1" "10.0.0.1")
      ⟨none, some a.toJson⟩ ⟨.replay (.named "router"), .ciscoIos, "router"⟩ .sending
    let block : Text :=
      "configure terminal\ninterface Gi0/1\nip address 10.0.0.1 255.255.255.255\nend"
    HostAddress.ofJson a.toJson = .ok a ∧ result.isOk = true ∧ c.blocks = [block] ∧
      HostAddress.ofNetmask? "10.0.0.1" "255.255.255.255" ≠ some a := by
  refine ⟨?_, ?_, ?_, ?_⟩
  all_goals decide +kernel

end VendorCli.Addresses
