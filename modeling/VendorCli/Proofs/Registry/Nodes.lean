import VendorCli.Proofs.Interfaces.Changes
import VendorCli.Proofs.Interfaces.Reading
/-!
# The nodes of the built-in units

The built-in units have handlers for three nodes of the configuration tree, each with records of its
own: an interface, an IPv4 address and the BGP process. `Units.Node` lists them, with the reader and
the writer that a platform has for each, and with the check whether a record is about what a path
names. Where a registry finds a handler, it is that of a node (`Units.exists_node_of_writer`,
`Units.reader_eq_of_node`).
-/

namespace VendorCli.Units

/-- A node of the configuration tree that the built-in units write. -/
inductive Node where
  | interface
  | address
  | bgpGlobal
deriving DecidableEq, Repr

namespace Node

/-- The schema path of a node. -/
def schema : Node → Text
  | interface => Interfaces.configPath
  | address => Addresses.configPath
  | bgpGlobal => Bgp.configPath

/-- The records of a node. -/
def Record : Node → Type
  | interface => Interface
  | address => HostAddress
  | bgpGlobal => BgpGlobal

instance (n : Node) : DecidableEq n.Record :=
  match n with
  | interface => inferInstanceAs (DecidableEq Interface)
  | address => inferInstanceAs (DecidableEq HostAddress)
  | bgpGlobal => inferInstanceAs (DecidableEq BgpGlobal)

/-- The reader of a node on a platform. -/
def reader (n : Node) (p : Platform) : RecordReader n.Record :=
  match n with
  | interface => readerOf p
  | address => Addresses.reader (Addresses.primaryLine (if p = .ciscoIosXr then "ipv4" else "ip"))
  | bgpGlobal => Bgp.reader

/-- The writer of a node on a platform. -/
def writer (n : Node) (p : Platform) : RecordWriter n.Record :=
  match n with
  | interface => Interfaces.writer (styleOf p)
  | address => Addresses.writer
  | bgpGlobal => Bgp.writer

/-- Refuse a record that is not about what a path names. -/
def check (n : Node) (path : ConfigPath) (a : n.Record) : Except Error Unit :=
  match n with
  | interface => (Interfaces.keyOf path a).map fun _ => ()
  | address => Addresses.checkKey path a
  | bgpGlobal => Bgp.ensureDefaultInstance path

end Node

/-- The built-in units have writers at the schema paths of nodes alone. -/
theorem exists_node_of_mem_writers {u : HandlerUnit} (hu : u ∈ builtin) {schema : Text}
    (h : schema ∈ u.handlers.writers.map (·.1)) : ∃ n : Node, schema = n.schema := by
  -- the schema paths of all writers are a computation on the units
  have hschemas : ∀ u ∈ builtin, ∀ schema ∈ u.handlers.writers.map (·.1),
      schema ∈ [Node.interface, .address, .bgpGlobal].map Node.schema := by
    decide +kernel
  obtain ⟨n, -, hn⟩ := List.mem_map.mp (hschemas u hu schema h)
  exact ⟨n, hn.symm⟩

variable {path : ConfigPath} {p : Platform}

/-- A writer that is found is that of a node. -/
theorem exists_node_of_writer {w : Writer} (h : Registry.builtin.writer path p = .ok w) :
    ∃ n : Node, path.schema = n.schema ∧ w = (n.writer p).toWriter := by
  obtain ⟨u, hu, hmem⟩ := Registry.exists_unit_of_writer h
  obtain ⟨n, hn⟩ : ∃ n : Node, path.schema = n.schema :=
    exists_node_of_mem_writers hu (List.mem_map_of_mem hmem)
  refine ⟨n, hn, ?_⟩
  rw [Registry.writer, Registry.find, hn] at h
  -- with node and platform known, the search in the units is a computation
  cases n <;> cases p <;> cases h <;> rfl

/-- A reader that is found at the schema path of a node is that of the node. -/
theorem reader_eq_of_node {n : Node} (hn : path.schema = n.schema) {r : Reader}
    (h : Registry.builtin.reader path p = .ok r) : r = (n.reader p).toReader := by
  rw [Registry.reader, Registry.find, hn] at h
  cases n <;> cases p <;> cases h <;> rfl

end VendorCli.Units
