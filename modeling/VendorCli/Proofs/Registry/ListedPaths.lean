import VendorCli.Proofs.Interfaces.Statements
import VendorCli.Proofs.Ipv4.Notation
import VendorCli.Proofs.Path.RoundTrip
/-!
# Paths of list entries

The entries of a list are paths that are derived from the path of the list, by a key whose value is
a text that a device has shown. Such a path can be handed on in its written form only if that is
read back, and a value stands between brackets as it is.

* Lists are at two schema paths (`Units.lister_of_mem_builtin`). Their keys have names that are
  written as they are, and the values that are found have no blanks around them: names are words,
  and addresses are points and digits (`Units.plain_of_mem_builtin`).
* So a closing bracket is all that can stand in the way of reading the path of an entry back
  (`ConfigPath.parse_withKey_iff`).
* `Registry.listed_path_read_back_iff`: the key of an entry is always what the device has shown, and
  the written form of its path is read back exactly if that has no closing bracket in it.
-/

namespace VendorCli

open Text

/-! ### Listers -/

/-- A lister whose key has a name that is written as it is, and values that have no blanks around
them. -/
structure Lister.Plain (l : Lister) : Prop where
  name_legible : LegibleKey (l.keyName, [])
  trim_key : ∀ path output, ∀ k ∈ l.keys path output, trim k = k

namespace Units

/-- The key of an interface has a name that is written as it is. -/
theorem legible_name : LegibleKey ("name", []) :=
  ⟨by decide, by decide, by decide, by decide, by decide⟩

/-- So has the key of an address. -/
theorem legible_ip : LegibleKey ("ip", []) :=
  ⟨by decide, by decide, by decide, by decide, by decide⟩

/-- Interfaces are listed by the words that lines go on with. -/
theorem plain_interfaceLister (command lead : Text) :
    (interfaceLister command (Interfaces.nameLine lead)).Plain where
  name_legible := legible_name
  trim_key _ _ _ hk :=
    trim_of_not_isBlank (Interfaces.mem_namesIn_nameLine_iff.mp hk).1.blankless

/-- Addresses are listed as they are written. -/
theorem plain_addressLister (line : Regex) : (Addresses.lister line).Plain where
  name_legible := legible_ip
  trim_key path output k hk := by
    unfold Addresses.lister at hk
    dsimp only at hk
    split at hk
    · next a _ =>
      rw [List.mem_singleton.mp hk]
      exact Ipv4.trim_toText a.ip
    · cases hk

/-- Built-in units have lists of interfaces and of addresses. -/
theorem lister_of_mem_builtin {u : HandlerUnit} (hu : u ∈ builtin) {schema : Text} {l : Lister}
    (h : (schema, l) ∈ u.handlers.listers) :
    (schema = Interfaces.listPath ∧
      ∃ command lead, l = interfaceLister command (Interfaces.nameLine lead)) ∨
    (schema = Addresses.listPath ∧ l = Addresses.lister (Addresses.primaryLine "ip")) := by
  -- what each unit registers as lists; the units are gone through in the same order
  have hios : iosInterfaces.handlers.listers
      = [(Interfaces.listPath, interfaceLister "show running-config | include ^interface"
            (Interfaces.nameLine "interface ")),
          (Addresses.listPath, Addresses.lister (Addresses.primaryLine "ip"))] := rfl
  have hxr : iosXrInterfaces.handlers.listers
      = [(Interfaces.listPath, interfaceLister
            "show running-config interface | include ^interface"
            (Interfaces.nameLine "interface "))] := rfl
  have hjunos : junosInterfaces.handlers.listers
      = [(Interfaces.listPath,
            interfaceLister showStatements (Interfaces.nameLine "set interfaces "))] := rfl
  have hvrp : vrpInterfaces.handlers.listers
      = [(Interfaces.listPath, interfaceLister
            "display current-configuration | include ^interface"
            (Interfaces.nameLine "interface "))] := rfl
  simp only [builtin, List.mem_cons, List.not_mem_nil, or_false] at hu
  rcases hu with rfl | rfl | rfl | rfl | rfl
  · rw [hios, List.mem_cons, List.mem_singleton] at h
    rcases h with h | h
    · cases h
      exact .inl ⟨rfl, _, _, rfl⟩
    · cases h
      exact .inr ⟨rfl, rfl⟩
  · -- the BGP process is no list
    cases h
  · rw [hxr, List.mem_singleton] at h
    cases h
    exact .inl ⟨rfl, _, _, rfl⟩
  · rw [hjunos, List.mem_singleton] at h
    cases h
    exact .inl ⟨rfl, _, _, rfl⟩
  · rw [hvrp, List.mem_singleton] at h
    cases h
    exact .inl ⟨rfl, _, _, rfl⟩

/-- The lists of built-in units have keys without blanks around them. -/
theorem plain_of_mem_builtin {u : HandlerUnit} (hu : u ∈ builtin) {schema : Text} {l : Lister}
    (h : (schema, l) ∈ u.handlers.listers) :
    (schema = Interfaces.listPath ∨ schema = Addresses.listPath) ∧ l.Plain := by
  rcases lister_of_mem_builtin hu h with ⟨hschema, command, lead, rfl⟩ | ⟨hschema, rfl⟩
  · exact ⟨.inl hschema, plain_interfaceLister command lead⟩
  · exact ⟨.inr hschema, plain_addressLister _⟩

end Units

/-! ### Written forms -/

namespace ConfigPath

variable {p : ConfigPath} {name value : Text}

/-- A path with a new key is read back exactly if the value of the key does not close its
bracket. -/
theorem parse_withKey_iff (hp : p.Legible) (hroot : p ≠ root) (hname : LegibleKey (name, []))
    (hvalue : trim value = value) :
    parse (p.withKey name value).toText = .ok (p.withKey name value) ↔ ']' ∉ value := by
  rw [parse_eq_ok_iff]
  constructor
  · -- what is read is legible, and the key is one of those of the last element
    intro hread
    have hlegible : (p.withKey name value).Legible := legible_of_ofText hread
    obtain ⟨front, e, rfl⟩ := exists_last hroot
    rw [withKey_last] at hlegible
    have hmem : (name, value) ∈ PathElement.setKey name value e.keys := by
      rw [PathElement.setKey_eq]
      exact mem_of_lookup? (lookup?_insertLast_self name value e.keys)
    have hlast : LegibleElement ⟨e.name, PathElement.setKey name value e.keys⟩ :=
      hlegible.elements _ (List.mem_append_right front List.mem_cons_self)
    exact (hlast.keys _ hmem).bracket_not_mem_value
  · intro hbracket
    have hkey : LegibleKey (name, value) :=
      ⟨hname.trim_name, hvalue, hname.equals_not_mem_name, hname.bracket_not_mem_name, hbracket⟩
    exact ofText_toText (hp.withKey hkey)

end ConfigPath

/-! ### Lists -/

namespace Registry

variable {r : Registry} {p : ConfigPath} {d : Device} {c : ReadContext} {entries : List ConfigPath}

/-- A list was made of the keys in what its command shows. -/
theorem exists_keys_of_list (h : (r.list p d c).1 = .ok entries) :
    ∃ l command output, r.lister p d.platform = .ok l ∧ l.query p = .ok command ∧
      (d.fetch command c).1 = .ok output ∧
      entries = (l.keys p output).map fun k => p.withKey l.keyName k := by
  -- a list fails with its lookup, its path or its command, or it has the keys of the output
  unfold list at h
  split at h
  · cases h
  · next l hl =>
    split at h
    · cases h
    · next command hquery =>
      split at h
      · cases h
      · next output d' c' hfetch =>
        cases h
        exact ⟨l, command, output, hl, hquery, congrArg Prod.fst hfetch, rfl⟩

/-- **Listed paths.** Whatever a device shows, the entries of a list are made of the keys that are
found in it. Each entry has the key as it was found. Its written form is read back as the same path
exactly if no closing bracket is in the key. -/
theorem listed_path_read_back_iff (hr : ∀ u ∈ r.units, u ∈ Units.builtin) {t : Text}
    (hp : ConfigPath.parse t = .ok p) (hlist : (r.list p d c).1 = .ok entries) :
    ∃ l command output, r.lister p d.platform = .ok l ∧ l.query p = .ok command ∧
      (d.fetch command c).1 = .ok output ∧
      entries = (l.keys p output).map (fun k => p.withKey l.keyName k) ∧
      ∀ k ∈ l.keys p output, (p.withKey l.keyName k).key? l.keyName = some k ∧
        (ConfigPath.parse (p.withKey l.keyName k).toText = .ok (p.withKey l.keyName k) ↔
          ']' ∉ k) := by
  obtain ⟨l, command, output, hl, hquery, hfetch, hentries⟩ := exists_keys_of_list hlist
  obtain ⟨u, hu, hmem⟩ := exists_unit_of_find hl
  obtain ⟨hschema, hplain⟩ := Units.plain_of_mem_builtin (hr u hu) hmem
  -- the root has another schema path than the lists
  have hroot : p ≠ .root := by
    rintro rfl
    exact absurd hschema (by decide)
  have hlegible : p.Legible := ConfigPath.legible_of_ofText (ConfigPath.parse_eq_ok_iff.mp hp)
  refine ⟨l, command, output, hl, hquery, hfetch, hentries, fun k hk => ⟨?_, ?_⟩⟩
  · exact ConfigPath.key?_withKey_self hroot l.keyName k
  · exact ConfigPath.parse_withKey_iff hlegible hroot hplain.name_legible
      (hplain.trim_key p output k hk)

/-- On Junos, names with an opening bracket, an equality sign and a slash. -/
theorem bracket_opened_read_back :
    let s := (Replay.named "r1").withResponse Units.showStatements
      "set interfaces ge-0/0/0 mtu 9000\nset interfaces x[name=/ unit 0"
    let d : Device := ⟨.replay s, .juniperJunos, "r1"⟩
    let p : ConfigPath := ⟨[⟨"interfaces", []⟩, ⟨"interface", []⟩]⟩
    let port := p.withKey "name" "ge-0/0/0"
    let other := p.withKey "name" "x[name=/"
    (builtin.list p d .empty).1 = .ok [port, other] ∧
      ConfigPath.parse other.toText = .ok other := by
  intro s d p port other
  have hlist : (builtin.list p d .empty).1 = .ok [port, other] := by decide +kernel
  have hp : ConfigPath.parse "/interfaces/interface" = .ok p := by decide +kernel
  obtain ⟨l, command, output, hl, -, -, hentries, hkeys⟩ :=
    listed_path_read_back_iff (fun u hu => hu) hp hlist
  have hother : other ∈ (l.keys p output).map fun k => p.withKey l.keyName k := by
    rw [← hentries]
    exact List.mem_cons_of_mem _ List.mem_cons_self
  -- the path of the entry tells the key, which is the name that was shown
  obtain ⟨k, hk, hpath⟩ := List.mem_map.mp hother
  obtain ⟨hkey, hread⟩ := hkeys k hk
  have hname : l.keyName = "name" := by
    cases hl
    rfl
  have hvalue : k = "x[name=/" := by
    rw [hpath, hname] at hkey
    have hown : other.key? "name" = some "x[name=/" := by decide
    exact Option.some.inj (hkey.symm.trans hown)
  refine ⟨hlist, ?_⟩
  rw [hpath] at hread
  exact hread.mpr (by rw [hvalue]; decide)

/-- The name of a range of ports ends with a closing bracket. The path of its entry is not read back
in its written form. -/
theorem port_range_not_read_back :
    let s := (Replay.named "r1").withResponse Units.showStatements
      "set interfaces ge-0/0/[0-3] mtu 9000"
    let d : Device := ⟨.replay s, .juniperJunos, "r1"⟩
    let p : ConfigPath := ⟨[⟨"interfaces", []⟩, ⟨"interface", []⟩]⟩
    let entry := p.withKey "name" "ge-0/0/[0-3]"
    (builtin.list p d .empty).1 = .ok [entry] ∧
      ConfigPath.parse entry.toText ≠ .ok entry := by
  decide +kernel

end Registry

end VendorCli
