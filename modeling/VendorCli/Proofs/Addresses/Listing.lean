import VendorCli.Proofs.Path.Keys
import VendorCli.Proofs.Registry.Refusals
import VendorCli.Proofs.Registry.Transactions
/-!
# Listed addresses

On IOS the list of addresses of a subinterface and the configuration of an address are two handlers
over one command. A path that is derived from the path of the list, by the key `ip` or by another
element, addresses the same subinterface (`subinterfaceName_congr`), so its command is in the cache
once the list was made, and its output is the one that the list was made of.

What may differ is the address that a path names. `found?_of_named` says what naming one does to an
output: the address that is found is kept if it is the one. So an entry of the list is always found
under its own key, and the whole list is empty exactly if nothing is found without a key
(`listed_address_read`).
-/

namespace VendorCli

/-! ### Paths of one subinterface -/

namespace Interfaces

variable {path path' : ConfigPath}

/-- A path with a name addresses a subinterface, with an index or without. -/
theorem exists_subinterfaceName {name : Text} (h : path.key? "name" = some name) :
    ∃ sub, subinterfaceName path = .ok sub := by
  have hname : path.requireKey "name" = .ok name := requireKey_eq_ok_iff.mpr h
  rw [subinterfaceName, hname]
  cases path.key? "index" with
  | none => exact ⟨name, rfl⟩
  | some index => exact ⟨if index = ['0'] then name else name ++ '.' :: index, rfl⟩

/-- Two paths with the same name and the same index address the same subinterface. -/
theorem subinterfaceName_congr (hname : path'.key? "name" = path.key? "name")
    (hindex : path'.key? "index" = path.key? "index") {sub : Text}
    (h : subinterfaceName path = .ok sub) : subinterfaceName path' = .ok sub := by
  obtain ⟨name, hkey, h⟩ := exists_of_bind_eq_ok h
  have hkey' : path'.requireKey "name" = .ok name :=
    requireKey_eq_ok_iff.mpr (hname.trans (requireKey_eq_ok_iff.mp hkey))
  rw [subinterfaceName, hkey']
  simp only [bind, Except.bind, hindex]
  exact h

end Interfaces

namespace Addresses

open Interfaces (subinterfaceName subinterfaceName_congr exists_subinterfaceName)

variable {path path' : ConfigPath} {line : Regex} {sub output : Text}

/-! ### Addresses in an output -/

/-- Of its path, a search looks at the address alone. -/
theorem found?_congr (h : path'.key? "ip" = path.key? "ip") :
    found? line path' sub output = found? line path sub output := by
  rw [found?, found?, h]

/-- **Naming an address** keeps what is found without a name if that is the address. -/
theorem found?_of_named {ip : Text} (hnone : path.key? "ip" = none)
    (hnamed : path'.key? "ip" = some ip) :
    found? line path' sub output
      = (found? line path sub output).filter fun a => a.ip.toText = ip := by
  rw [found?, found?, hnone, hnamed]
  -- both look at the same section, and differ in the last step
  generalize (Section.bodyOf? output ("interface " ++ sub)).bind (primary? line) = address
  cases address with
  | none => rfl
  | some a => simp

/-- The address that is found is found under its own name. -/
theorem found?_of_own {a : HostAddress} (hnone : path.key? "ip" = none)
    (hfound : found? line path sub output = some a)
    (hnamed : path'.key? "ip" = some a.ip.toText) : found? line path' sub output = some a := by
  rw [found?_of_named hnone hnamed, hfound]
  simp

/-! ### The handlers of IOS -/

variable {d d' : Device} {c c' : ReadContext}

/-- A platform that the units for IOS serve. -/
def ServedByIos (p : Platform) : Prop :=
  p = .ciscoIos ∨ p = .generic

/-- The handlers for the list of addresses and for an address, where IOS is served. -/
theorem lister_listPath (h : path.schema = listPath) {p : Platform} (hp : ServedByIos p) :
    Registry.builtin.lister path p = .ok (lister (primaryLine "ip")) := by
  rw [Registry.lister, Registry.find, h]
  rcases hp with rfl | rfl <;> rfl

theorem reader_configPath (h : path.schema = configPath) {p : Platform} (hp : ServedByIos p) :
    Registry.builtin.reader path p = .ok (reader (primaryLine "ip")).toReader := by
  rw [Registry.reader, Registry.find, h]
  rcases hp with rfl | rfl <;> rfl

/-- The command is about the subinterface, whatever address the path has. -/
theorem query_of_subinterface (h : subinterfaceName path = .ok sub) :
    query path = .ok (Units.showInterface sub) := by
  rw [query, h]
  rfl

/-- The list of addresses has the one that is found. -/
theorem list_of_subinterface (hpath : path.schema = listPath) (hp : ServedByIos d.platform)
    (hsub : subinterfaceName path = .ok sub)
    (hfetch : d.fetch (Units.showInterface sub) c = (.ok output, d', c')) :
    Registry.builtin.list path d c
      = (.ok ((found? (primaryLine "ip") path sub output).map
          fun a => path.withKey "ip" a.ip.toText).toList, d', c') := by
  rw [Registry.list_of_fetch (lister_listPath hpath hp) (query_of_subinterface hsub) hfetch]
  have hinterpret : interpret (primaryLine "ip") path output
      = .ok (found? (primaryLine "ip") path sub output) := by
    rw [interpret, hsub]
    rfl
  simp only [lister, hinterpret]
  cases found? (primaryLine "ip") path sub output <;> rfl

/-- With the command in the cache, the configuration of an address is read as it is found. -/
theorem read_of_subinterface (hpath : path.schema = configPath) (hp : ServedByIos d.platform)
    (hsub : subinterfaceName path = .ok sub)
    (hcached : c.cached? (Units.showInterface sub) = some output) :
    Registry.builtin.read path d c
      = (.ok ((found? (primaryLine "ip") path sub output).map HostAddress.toJson), d, c) := by
  have hquery : (reader (primaryLine "ip")).toReader.query path
      = .ok (some (Units.showInterface sub)) := by
    change (query path).map some = _
    rw [query_of_subinterface hsub]
    rfl
  rw [Registry.read_of_cached (reader_configPath hpath hp) hquery hcached]
  change ((interpret (primaryLine "ip") path output).map fun found =>
    found.map HostAddress.toJson, d, c) = _
  rw [interpret, hsub]
  rfl

/-- **Listing and reading agree.** On a device that is served by the units for IOS, let a path of
the list of addresses have a name and no address, and let the command about its subinterface show
something. Then, whatever is cached before:

* listing succeeds, with one entry at most;
* the configuration of an entry is read as a record of the address that is the key of the entry;
* the list is empty exactly if reading the configuration without a key finds nothing;
* none of these reads sends a command or changes the cache. -/
theorem listed_address_read (hpath : path.schema = listPath) (hp : ServedByIos d.platform)
    {name : Text} (hname : path.key? "name" = some name) (hip : path.key? "ip" = none)
    (hshows : ∀ sub, subinterfaceName path = .ok sub → d.shows (Units.showInterface sub) = true)
    (c : ReadContext) :
    ∃ entries d' c', Registry.builtin.list path d c = (.ok entries, d', c') ∧
      entries.length ≤ 1 ∧
      (∀ entry ∈ entries, ∃ a : HostAddress, entry = path.withKey "ip" a.ip.toText ∧
        entry.key? "ip" = some a.ip.toText ∧
        Registry.builtin.read (entry.child "config") d' c' = (.ok (some a.toJson), d', c')) ∧
      ∃ value, Registry.builtin.read (path.child "config") d' c' = (.ok value, d', c') ∧
        (entries = [] ↔ value = none) := by
  -- a path with a name has a subinterface, so there is a command and an output to it
  obtain ⟨sub, hsub⟩ := exists_subinterfaceName hname
  obtain ⟨output, d', c', hfetch, hcached⟩ := Device.exists_fetch_of_shows (hshows sub hsub) c
  have hp' : ServedByIos d'.platform := by
    have hplatform := Device.platform_fetch d (Units.showInterface sub) c
    rw [hfetch] at hplatform
    rwa [hplatform]
  have hroot : path ≠ .root := by
    rintro rfl
    cases hname
  refine ⟨_, d', c', list_of_subinterface hpath hp hsub hfetch, ?_, ?_, ?_⟩
  · exact Option.length_toList_le
  · -- an entry names the address that was found, and nothing else about it differs from the list
    intro entry hentry
    rw [Option.mem_toList, Option.map_eq_some_iff] at hentry
    obtain ⟨a, hfound, rfl⟩ := hentry
    have hne : path.withKey "ip" a.ip.toText ≠ .root :=
      ConfigPath.withKey_ne_root hroot "ip" a.ip.toText
    have hown : (path.withKey "ip" a.ip.toText).key? "ip" = some a.ip.toText :=
      ConfigPath.key?_withKey_self hroot "ip" a.ip.toText
    have hschema : ((path.withKey "ip" a.ip.toText).child "config").schema = configPath := by
      rw [ConfigPath.schema_child hne, ConfigPath.schema_withKey, hpath]
      rfl
    -- both paths of the handlers ask for the same subinterface, so the output is in the cache
    have hsub' : subinterfaceName ((path.withKey "ip" a.ip.toText).child "config") = .ok sub := by
      refine subinterfaceName_congr ?_ ?_ hsub
      · rw [ConfigPath.key?_child, ConfigPath.key?_withKey_of_ne (by decide)]
      · rw [ConfigPath.key?_child, ConfigPath.key?_withKey_of_ne (by decide)]
    refine ⟨a, rfl, hown, ?_⟩
    rw [read_of_subinterface hschema hp' hsub' hcached, found?_of_own hip hfound]
    · rfl
    · rwa [ConfigPath.key?_child]
  · -- without a key, the reader looks at the same output and finds what the list was made of
    have hschema : (path.child "config").schema = configPath := by
      rw [ConfigPath.schema_child hroot, hpath]
      rfl
    have hsub' : subinterfaceName (path.child "config") = .ok sub :=
      subinterfaceName_congr (ConfigPath.key?_child _ _) (ConfigPath.key?_child _ _) hsub
    refine ⟨_, read_of_subinterface hschema hp' hsub' hcached, ?_⟩
    rw [found?_congr (ConfigPath.key?_child _ _), Option.toList_eq_nil_iff,
      Option.map_eq_none_iff, Option.map_eq_none_iff]

/-- The path of the list of addresses of an interface. -/
def listPathOf (name : Text) : ConfigPath :=
  ⟨[⟨"interfaces", []⟩, ⟨"interface", [("name", name)]⟩, ⟨"subinterfaces", []⟩,
    ⟨"subinterface", [("index", "0")]⟩, ⟨"ipv4", []⟩, ⟨"addresses", []⟩, ⟨"address", []⟩]⟩

/-- On IOS, an interface with one address. -/
theorem uplink_listed :
    let path := listPathOf "Gi0/1"
    let entry := path.withKey "ip" "10.0.0.1"
    let s := (Replay.named "r1").withResponse "show running-config interface Gi0/1"
      "interface Gi0/1\n ip address 10.0.0.1 255.255.255.0\nend"
    let d : Device := ⟨.replay s, .ciscoIos, "r1"⟩
    ∃ d' c', Registry.builtin.list path d .empty = (.ok [entry], d', c') ∧
      ∃ a : HostAddress, a.ip.toText = "10.0.0.1" ∧
        Registry.builtin.read (entry.child "config") d' c' = (.ok (some a.toJson), d', c') := by
  intro path entry s d
  have hentries : (Registry.builtin.list path d .empty).1.toOption = some [entry] := by
    decide +kernel
  have hpath : path.schema = listPath := by decide
  have hserved : ServedByIos d.platform := .inl rfl
  have hname : path.key? "name" = some "Gi0/1" := by decide
  have hshows : ∀ sub, subinterfaceName path = .ok sub →
      d.shows (Units.showInterface sub) = true := by
    intro sub hsub
    cases hsub
    decide +kernel
  obtain ⟨entries, d', c', hlist, -, hread, -⟩ :=
    listed_address_read hpath hserved hname (by decide) hshows .empty
  rw [hlist] at hentries
  cases hentries
  obtain ⟨a, -, hkey, hvalue⟩ := hread entry List.mem_cons_self
  have hown : entry.key? "ip" = some "10.0.0.1" := by decide
  exact ⟨d', c', hlist, a, Option.some.inj (hkey.symm.trans hown), hvalue⟩

end Addresses

end VendorCli
