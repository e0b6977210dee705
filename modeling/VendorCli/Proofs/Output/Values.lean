import VendorCli.Proofs.Output.FieldOrder
import VendorCli.Proofs.Registry.ListedPaths
/-!
# First values and distinct values

Three functions search the lines of an output: one gives the values of all lines, one gives each
value once, and one gives the first value. The first value is the head of the list of all values
(`Output.firstValue?_eq_head?_values`), and of the values without repetitions, which begin with the
same one (`firstValue?_eq_head?_distinctValues`). The distinct values are those of all lines
(`mem_distinctValues`) in the order in which they first occur (`idxOf_distinctValues_lt_iff`).

Interfaces are listed by the distinct values of the lines that name them
(`Registry.exists_line_of_lister`), so no interface is listed twice, whatever a device shows
(`Registry.nodup_names_of_list`). `Registry.values_and_names_distinct` says all of this.
-/

namespace VendorCli

theorem head?_distinct {α : Type} [DecidableEq α] (l : List α) : (distinct l).head? = l.head? := by
  cases l <;> rfl

namespace Output

variable {α : Type} [DecidableEq α] (pattern : Regex) (extract : Captures → Option α) (skip : Nat)
  (output : Text)

/-! ### Values of lines -/

/-- The first value is the first of the distinct ones. -/
theorem firstValue?_eq_head?_distinctValues : firstValue? pattern extract skip output
    = (distinctValues pattern extract skip output).head? := by
  rw [distinctValues, head?_distinct, firstValue?_eq_head?_values]

theorem nodup_distinctValues : (distinctValues pattern extract skip output).Nodup :=
  nodup_distinct _

theorem mem_distinctValues {a : α} :
    a ∈ distinctValues pattern extract skip output ↔ a ∈ values pattern extract skip output :=
  mem_distinct

/-- Of two values the one that occurs first comes first among the distinct values. -/
theorem idxOf_distinctValues_lt_iff {a b : α} :
    (distinctValues pattern extract skip output).idxOf a
        < (distinctValues pattern extract skip output).idxOf b
      ↔ (values pattern extract skip output).idxOf a
        < (values pattern extract skip output).idxOf b :=
  idxOf_distinct_lt_iff

end Output

/-! ### Names of interfaces -/

namespace Registry

variable {r : Registry} {p : ConfigPath} {d : Device} {c : ReadContext} {entries : List ConfigPath}

/-- Built-in units list interfaces by the lines that name them. -/
theorem exists_line_of_lister (hr : ∀ u ∈ r.units, u ∈ Units.builtin)
    (hp : p.schema = Interfaces.listPath) {platform : Platform} {l : Lister}
    (h : r.lister p platform = .ok l) :
    ∃ command line, l = Units.interfaceLister command line := by
  obtain ⟨u, hu, hmem⟩ := exists_unit_of_find h
  rcases Units.lister_of_mem_builtin (hr u hu) hmem with ⟨-, command, lead, hl⟩ | ⟨hschema, -⟩
  · exact ⟨command, _, hl⟩
  · rw [hp] at hschema
    exact absurd hschema (by decide)

/-- Each platform has a lister of interfaces. -/
theorem exists_lister_listPath (hp : p.schema = Interfaces.listPath) (platform : Platform) :
    ∃ l, builtin.lister p platform = .ok l := by
  rw [lister, find, hp]
  cases platform <;> exact ⟨_, rfl⟩

/-- The entries of a list of interfaces have names that are pairwise distinct. -/
theorem nodup_names_of_list (hr : ∀ u ∈ r.units, u ∈ Units.builtin)
    (hp : p.schema = Interfaces.listPath) (h : (r.list p d c).1 = .ok entries) :
    (entries.map (·.key? "name")).Nodup := by
  obtain ⟨l, command, output, hl, -, -, rfl⟩ := exists_keys_of_list h
  obtain ⟨_, line, rfl⟩ := exists_line_of_lister hr hp hl
  -- a path with keys is not the root
  have hroot : p ≠ .root := by
    rintro rfl
    exact absurd hp (by decide)
  -- the key of an entry is the name that it was made of
  have hnames : ((Interfaces.namesIn line output).map fun k => p.withKey "name" k).map
      (·.key? "name") = (Interfaces.namesIn line output).map some := by
    rw [List.map_map]
    exact List.map_congr_left fun k _ => ConfigPath.key?_withKey_self hroot "name" k
  exact hnames ▸ (nodup_distinct _).map (Option.some_injective _)

/-- **The searches agree**, for every pattern and every extractor, whatever lines it rejects. The
first value is the head of all values; each value is among the distinct ones exactly once, and those
are in the order in which the values first occur.

So it is with the names of interfaces. Every platform has a lister of them, whose keys are the
distinct values of some pattern in what the device shows; and the entries of a list that was made by
built-in units have pairwise distinct names. -/
theorem values_and_names_distinct {α : Type} [DecidableEq α] (pattern : Regex)
    (extract : Captures → Option α) (skip : Nat) (output : Text) :
    let all := Output.values pattern extract skip output
    let once := Output.distinctValues pattern extract skip output
    (Output.firstValue? pattern extract skip output = all.head? ∧
      Output.firstValue? pattern extract skip output = once.head?) ∧
    once.Nodup ∧ (∀ a, a ∈ once ↔ a ∈ all) ∧
    (∀ a b, once.idxOf a < once.idxOf b ↔ all.idxOf a < all.idxOf b) ∧
    (∀ platform p, p.schema = Interfaces.listPath → ∃ l line,
      builtin.lister p platform = .ok l ∧ l.keyName = "name" ∧ ∀ shown,
        l.keys p shown = Output.distinctValues line (fun c => line.named? c "name") 0 shown ∧
        (l.keys p shown).Nodup) ∧
    ∀ r : Registry, (∀ u ∈ r.units, u ∈ Units.builtin) → ∀ p d c entries,
      p.schema = Interfaces.listPath → (r.list p d c).1 = .ok entries →
        (entries.map (·.key? "name")).Nodup := by
  intro all once
  refine ⟨⟨Output.firstValue?_eq_head?_values .., Output.firstValue?_eq_head?_distinctValues ..⟩,
    Output.nodup_distinctValues .., fun a => Output.mem_distinctValues ..,
    fun a b => Output.idxOf_distinctValues_lt_iff .., fun platform p hp => ?_,
    fun r hr p d c entries hp h => nodup_names_of_list hr hp h⟩
  -- the names of a list are the distinct values of the lines that name interfaces
  obtain ⟨l, hl⟩ := exists_lister_listPath hp platform
  obtain ⟨command, line, rfl⟩ := exists_line_of_lister (fun u hu => hu) hp hl
  exact ⟨_, line, hl, rfl, fun shown => ⟨rfl, Output.nodup_distinctValues ..⟩⟩

/-- On Junos, two interfaces whose statements are mixed. -/
theorem mixed_statements_listed_once :
    let s := (Replay.named "r1").withResponse Units.showStatements
      "set interfaces xe-1 mtu 9000\nset interfaces lo0 disable\nset interfaces xe-1 disable"
    let d : Device := ⟨.replay s, .juniperJunos, "r1"⟩
    let p : ConfigPath := ⟨[⟨"interfaces", []⟩, ⟨"interface", []⟩]⟩
    let entries := [p.withKey "name" "xe-1", p.withKey "name" "lo0"]
    p.schema = Interfaces.listPath ∧ (builtin.list p d .empty).1 = .ok entries ∧
      (entries.map (·.key? "name")).Nodup := by
  intro s d p entries
  have hp : p.schema = Interfaces.listPath := by decide
  have hlist : (builtin.list p d .empty).1 = .ok entries := by decide +kernel
  obtain ⟨-, -, -, -, -, hnames⟩ := values_and_names_distinct Interfaces.statementLine
    (fun c => Interfaces.statementLine.named? c "name") 0 []
  exact ⟨hp, hlist, hnames builtin (fun u hu => hu) p d .empty entries hp hlist⟩

end Registry

end VendorCli
