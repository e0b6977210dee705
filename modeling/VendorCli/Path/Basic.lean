import VendorCli.Text.Basic
/-!
# Paths into the configuration tree

A path addresses one node of the configuration tree: a list of elements from the root down, each
with the keys that select an entry of a list, as in
`/interfaces/interface[name=GigabitEthernet0/1]/config`. Without its keys it is the *schema* under
which handlers are registered.

* `key?` looks for a key from the last element backwards, and inside one element forwards;
* `child` appends an element, `withKey` sets a key of the last one;
* `toText` writes the path.
-/

namespace VendorCli

/-- One element of a path, with its list keys in the order written. -/
structure PathElement where
  name : Text
  keys : List (Text × Text)
deriving DecidableEq, Repr

/-- The address of a node: elements from the root down. The root itself has none. -/
structure ConfigPath where
  elements : List PathElement
deriving DecidableEq, Repr

namespace PathElement

/-- The value of the first key of this name. -/
def key? (e : PathElement) (name : Text) : Option Text :=
  (e.keys.find? fun kv => kv.1 = name).map (·.2)

/-- Give the first key of this name a value; a name that is not there yet is appended. -/
def setKey (name value : Text) : List (Text × Text) → List (Text × Text)
  | [] => [(name, value)]
  | kv :: rest => if kv.1 = name then (kv.1, value) :: rest else kv :: setKey name value rest

/-- The element as a path shows it: its name, then each key between brackets. -/
def toText (e : PathElement) : Text :=
  e.name ++ e.keys.flatMap fun kv => '[' :: kv.1 ++ '=' :: kv.2 ++ [']']

end PathElement

namespace ConfigPath

/-- The root of the tree. -/
def root : ConfigPath := ⟨[]⟩

/-- The path without its keys. -/
def schema (p : ConfigPath) : Text :=
  match p.elements with
  | [] => ['/']
  | es => es.flatMap fun e => '/' :: e.name

/-- The path in its written form. -/
def toText (p : ConfigPath) : Text :=
  match p.elements with
  | [] => ['/']
  | es => es.flatMap fun e => '/' :: e.toText

/-- The value of the nearest key of this name: the last element that has it decides, and within
that element its first occurrence. -/
def key? (p : ConfigPath) (name : Text) : Option Text :=
  p.elements.reverse.findSome? (·.key? name)

/-- The value of a key on the nearest element called `element`; elements of that name further up
are not consulted. -/
def elementKey? (p : ConfigPath) (element name : Text) : Option Text :=
  (p.elements.reverse.find? fun e => e.name = element).bind (·.key? name)

/-- The path one element further down. -/
def child (p : ConfigPath) (name : Text) : ConfigPath :=
  ⟨p.elements ++ [⟨name, []⟩]⟩

/-- The path with a key of its last element set. The root has no element to carry a key. -/
def withKey (p : ConfigPath) (name value : Text) : ConfigPath :=
  match p.elements.getLast? with
  | none => p
  | some e => ⟨p.elements.dropLast ++ [⟨e.name, PathElement.setKey name value e.keys⟩]⟩

end VendorCli.ConfigPath
