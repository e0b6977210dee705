import VendorCli.Proofs.Record.Decoding
import VendorCli.Proofs.Registry.Nodes
/-!
# Writing back what was read

A reader and a writer at one node have to agree on two things: the writer decodes the value of a
record as that record (`Units.Node.record_encode`), and the reader returns only records that are
about what the path names (`Units.Node.check_of_interpret`). Then a value that was read is known to
the writer, whatever the device has shown, and putting it in the place of itself is a change that
needs nothing (`Registry.read_written_back`).
-/

namespace VendorCli

open Interfaces hiding configPath

/-! ### Records -/

/-- The value of an address is that address for the writer. -/
theorem HostAddress.record_toJson (path : ConfigPath) (a : HostAddress) :
    Addresses.writer.record path a.toJson = .ok a := by
  have hdecode : Addresses.writer.decode a.toJson = .ok a := a.ofJson_toJson
  rw [RecordWriter.record, hdecode]
  rfl

/-- The value of a BGP process is that process for the writer, which requires a field. -/
theorem BgpGlobal.record_toJson (path : ConfigPath) (b : BgpGlobal) :
    Bgp.writer.record path b.toJson = .ok b := by
  have hdecode : Bgp.writer.decode b.toJson = .ok b := b.ofJson_toJson
  -- the field that is required is there, with a router id or without
  have hrequired : RecordWriter.missingField? Bgp.writer.required b.toJson = none := by
    obtain ⟨system, routerId⟩ := b
    cases routerId <;> rfl
  rw [RecordWriter.record, hrequired, hdecode]

/-- Between equal records there is nothing to do. -/
theorem RecordWriter.plan_same {α : Type} [DecidableEq α] {w : RecordWriter α} {path : ConfigPath}
    {v : Json} {a : α} (h : w.record path v = .ok a) : w.plan path ⟨some v, some v⟩ = .ok [] := by
  change (w.record path v >>= fun before => w.record path v >>= fun after =>
    if before = after then .ok [] else w.update path before after) = _
  rw [h]
  exact if_pos rfl

/-- The value that a reader returns is that of a record which it has found. -/
theorem RecordReader.exists_record {α : Type} {r : RecordReader α} {path : ConfigPath}
    {output : Text} {v : Json} (h : r.toReader.interpret path output = .ok (some v)) :
    ∃ a, r.interpret path output = .ok (some a) ∧ v = r.encode a := by
  change (r.interpret path output).map _ = _ at h
  cases hfound : r.interpret path output with
  | error e =>
    rw [hfound] at h
    cases h
  | ok found =>
    rw [hfound] at h
    obtain ⟨a, rfl, ha⟩ := Option.map_eq_some_iff.mp (Except.ok.inj h)
    exact ⟨a, rfl, ha.symm⟩

/-! ### Nodes -/

namespace Units.Node

variable {n : Node} {p : Platform} {path : ConfigPath} {a : n.Record}

/-- **Values of records** are those records for the writer. -/
theorem record_encode (n : Node) (p : Platform) (path : ConfigPath) (a : n.Record) :
    (n.writer p).record path ((n.reader p).encode a) = .ok a := by
  cases n with
  | interface =>
    -- all platforms write a record as the same value
    have hencode : (readerOf p).encode a = Interface.toJson a := by cases p <;> rfl
    exact hencode ▸ Interface.record_eq_ok_iff.mpr (Interface.ofJson_toJson a)
  | address => exact HostAddress.record_toJson path a
  | bgpGlobal => exact BgpGlobal.record_toJson path a

/-- An address that is found is the one that the path names, if it names one. -/
theorem checkKey_of_interpret {line : Regex} {output : Text} {a : HostAddress}
    (h : Addresses.interpret line path output = .ok (some a)) :
    Addresses.checkKey path a = .ok () := by
  rw [Addresses.interpret] at h
  cases hname : Interfaces.subinterfaceName path with
  | error e =>
    rw [hname] at h
    cases h
  | ok name =>
    rw [hname] at h
    have hfound : Addresses.found? line path name output = some a := Except.ok.inj h
    rw [Addresses.found?, Option.filter_eq_some_iff] at hfound
    rw [Addresses.checkKey]
    cases hip : path.key? "ip" with
    | none => rfl
    | some ip =>
      -- what was found has passed the same comparison
      rw [hip] at hfound
      exact if_pos (by simpa [eq_comm] using hfound.2)

/-- **Records that are read** are about what the path names. -/
theorem check_of_interpret {command output : Text}
    (hquery : (n.reader p).query path = .ok (some command))
    (h : (n.reader p).interpret path output = .ok (some a)) : n.check path a = .ok () := by
  cases n with
  | interface =>
    have hkey := requireKey_eq_ok_iff.mp (Interfaces.readable_of_interpret h).1
    exact congrArg (Except.map _) (Interfaces.keyOf_of_key? hkey)
  | address => exact checkKey_of_interpret h
  | bgpGlobal =>
    -- there is a command only for the network instance that is supported
    have hinstance : Bgp.isDefaultInstance path = true := by
      by_contra hother
      simp [reader, Bgp.reader, hother] at hquery
    exact if_pos hinstance

end Units.Node

/-! ### Registries -/

namespace Registry

variable {path : ConfigPath} {d : Device} {c : ReadContext} {v : Json}

/-- A value that was read comes from the output of the command that the reader asks for. -/
theorem exists_output_of_read {r : Registry} (h : (r.read path d c).1 = .ok (some v)) :
    ∃ reader command output, r.reader path d.platform = .ok reader ∧
      reader.query path = .ok (some command) ∧ (d.fetch command c).1 = .ok output ∧
      reader.interpret path output = .ok (some v) := by
  -- a read fails with its lookup, its path or its command, or it interprets the output
  rw [read] at h
  split at h
  · cases h
  · next reader hreader =>
    split at h
    · cases h
    · cases h
    · next command hquery =>
      split at h
      · cases h
      · next output d' c' hfetch =>
        exact ⟨reader, command, output, hreader, hquery, congrArg Prod.fst hfetch, h⟩

/-- **What is read can be written back.** A node that has a writer is one of those of the built-in
units. The value that is read of it, whatever the device shows, is that of a record which its reader
has found. The writer decodes it as that record, which passes the check of the path, and a change
from the value to itself succeeds on every device of the platform, without recording or sending
anything. -/
theorem read_written_back {w : Writer} (hw : builtin.writer path d.platform = .ok w)
    (hread : (builtin.read path d c).1 = .ok (some v)) :
    ∃ (n : Units.Node) (command output : Text) (a : n.Record),
      path.schema = n.schema ∧
      builtin.reader path d.platform = .ok (n.reader d.platform).toReader ∧
      w = (n.writer d.platform).toWriter ∧
      (n.reader d.platform).query path = .ok (some command) ∧
      (d.fetch command c).1 = .ok output ∧
      (n.reader d.platform).interpret path output = .ok (some a) ∧
      v = (n.reader d.platform).encode a ∧
      (n.writer d.platform).record path v = .ok a ∧
      n.check path a = .ok () ∧
      ∀ (d' : Device) (c' : WriteContext), d'.platform = d.platform →
        builtin.write path ⟨some v, some v⟩ d' c' = (.ok (), d', c') := by
  obtain ⟨n, hn, rfl⟩ := Units.exists_node_of_writer hw
  obtain ⟨reader, command, output, hreader, hquery, hfetch, hinterpret⟩ :=
    exists_output_of_read hread
  obtain rfl := Units.reader_eq_of_node hn hreader
  obtain ⟨a, ha, rfl⟩ := RecordReader.exists_record hinterpret
  have hrecord := n.record_encode d.platform path a
  refine ⟨n, command, output, a, hn, hreader, rfl, hquery, hfetch, ha, rfl, hrecord,
    Units.Node.check_of_interpret hquery ha, ?_⟩
  intro d' c' hd'
  -- the two values decode as one record, so nothing is planned
  have hplan := RecordWriter.plan_same hrecord
  exact write_of_blank (by rw [plan, hd', hw]; exact hplan) rfl c'

/-- On Junos, an interface with a description and an MTU. -/
theorem uplink_written_back :
    let r := (Replay.named "r1").withResponse Units.showStatements
      "set interfaces ge-0/0/0 description \"to core\"\nset interfaces ge-0/0/0 mtu 9000"
    let d : Device := ⟨.replay r, .juniperJunos, "r1"⟩
    let i := { Interface.named "ge-0/0/0" with description := some "to core", mtu := some 9000 }
    (builtin.read (Interfaces.pathOf "ge-0/0/0") d .empty).1 = .ok (some i.toJson) ∧
      builtin.write (Interfaces.pathOf "ge-0/0/0") ⟨some i.toJson, some i.toJson⟩ d .sending
        = (.ok (), d, .sending) := by
  intro r d i
  have hread : (builtin.read (Interfaces.pathOf "ge-0/0/0") d .empty).1 = .ok (some i.toJson) :=
    rfl
  have hpath : (Interfaces.pathOf "ge-0/0/0").schema = Interfaces.configPath := by decide
  have hw := Units.writer_configPath hpath d.platform
  obtain ⟨n, command, output, a, -, -, -, -, -, -, -, -, -, hwrite⟩ := read_written_back hw hread
  exact ⟨hread, hwrite d .sending rfl⟩

end Registry

end VendorCli
