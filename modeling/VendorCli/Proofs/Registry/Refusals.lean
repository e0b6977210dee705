import VendorCli.Registry.Exchange
import VendorCli.Proofs.Template.Commands
import VendorCli.Units
/-!
# Refused changes

A change is refused when no handler serves its path, when a value is no record of the kind that the
path holds, or when an argument is not acceptable. `RefusesOnly` says that a computation fails in no
other way. It passes through every step from which the writers of the built-in units are made, so
planning a change has no other failure (`Units.refuseOnly_of_mem_builtin`): in particular, rendering
the commands of a change never fails.
-/

namespace VendorCli

/-- A computation in two steps succeeds if both steps do. -/
theorem exists_of_bind_eq_ok {ε α β : Type} {r : Except ε α} {f : α → Except ε β} {b : β}
    (h : (r >>= f) = .ok b) : ∃ a, r = .ok a ∧ f a = .ok b := by
  cases r with
  | error e => cases h
  | ok a => exact ⟨a, rfl, h⟩

/-- A value that is only wrapped comes from a value. -/
theorem exists_of_map_some_eq_ok {ε α : Type} {r : Except ε α} {o : Option α}
    (h : r.map some = .ok o) : ∃ a, o = some a ∧ r = .ok a := by
  cases r with
  | error e => cases h
  | ok a =>
    cases h
    exact ⟨a, rfl, rfl⟩

/-- The failures that refuse a change before anything is done about it. -/
inductive Error.IsRefusal : Error → Prop
  | handlerNotFound (kind : HandlerKind) (path platform : Text) :
      IsRefusal (.handlerNotFound kind path platform)
  | missingField (path field : Text) : IsRefusal (.missingField path field)
  | invalidData (path : Text) (fault : DecodeFault) : IsRefusal (.invalidData path fault)
  | invalidArgument (fault : ArgumentFault) : IsRefusal (.invalidArgument fault)

/-- **Refusals only.** A computation that fails in no other way than by refusing a change. -/
def RefusesOnly {α : Type} (r : Except Error α) : Prop :=
  ∀ e, r = .error e → e.IsRefusal

namespace RefusesOnly

variable {α β : Type}

/-- A computation that succeeds has no failure at all. -/
theorem ok (a : α) : RefusesOnly (.ok a : Except Error α) := by
  intro e h
  cases h

/-- A refusal is one. -/
theorem error {e : Error} (h : e.IsRefusal) : RefusesOnly (.error e : Except Error α) := by
  intro e' he
  cases he
  exact h

/-- **Two steps** refuse only, if each of them does. -/
theorem bind {r : Except Error α} {f : α → Except Error β} (hr : RefusesOnly r)
    (hf : ∀ a, RefusesOnly (f a)) : RefusesOnly (r >>= f) := by
  cases r with
  | ok a => exact hf a
  | error e => exact error (hr e rfl)

end RefusesOnly

/-! ### Steps of writers -/

section Steps

variable (path : ConfigPath)

/-- A path without a key is refused as an argument. -/
theorem refusesOnly_requireKey (name : Text) : RefusesOnly (path.requireKey name) := by
  unfold ConfigPath.requireKey
  split
  · exact .ok _
  · exact .error (.invalidArgument _)

/-- A value that is no record is refused for a field that is missing or for what it holds. -/
theorem refusesOnly_record {α : Type} (w : RecordWriter α) (v : Json) :
    RefusesOnly (w.record path v) := by
  unfold RecordWriter.record
  split
  · exact .error (.missingField _ _)
  · split
    · exact .ok _
    · exact .error (.invalidData _ _)

/-- A key that is required is the one that the path has. -/
theorem requireKey_eq_ok_iff {path : ConfigPath} {name value : Text} :
    path.requireKey name = .ok value ↔ path.key? name = some value := by
  unfold ConfigPath.requireKey
  split
  · next v hv => rw [hv, Except.ok.injEq, Option.some.injEq]
  · next hnone =>
    rw [hnone]
    exact iff_of_false nofun nofun

/-- A record that a writer takes is the one that the value holds. -/
theorem decode_of_record {α : Type} {w : RecordWriter α} {v : Json} {a : α}
    (h : w.record path v = .ok a) : w.decode v = .ok a := by
  unfold RecordWriter.record at h
  split at h
  · cases h
  · split at h
    · next hdecode =>
      cases h
      exact hdecode
    · cases h

/-- A writer of records refuses as its three operations do. -/
theorem refusesOnly_plan {α : Type} [DecidableEq α] {w : RecordWriter α}
    (hcreate : ∀ a, RefusesOnly (w.create path a))
    (hupdate : ∀ a b, RefusesOnly (w.update path a b))
    (hdelete : ∀ a, RefusesOnly (w.delete path a)) (change : Change) :
    RefusesOnly (w.plan path change) := by
  unfold RecordWriter.plan
  split
  -- nothing, a creation, a deletion and an update, by the values that the change has
  · exact .ok _
  · exact (refusesOnly_record path w _).bind hcreate
  · exact (refusesOnly_record path w _).bind hdelete
  · refine (refusesOnly_record path w _).bind fun before => ?_
    refine (refusesOnly_record path w _).bind fun after => ?_
    split
    · exact .ok _
    · exact hupdate before after

/-- A record that is not about the interface of the path is refused. -/
theorem refusesOnly_keyOf (i : Interface) : RefusesOnly (Interfaces.keyOf path i) := by
  refine (refusesOnly_requireKey path _).bind fun name => ?_
  split
  · exact .ok _
  · exact .error (.invalidArgument _)

/-- So is a physical interface that would be created or deleted. -/
theorem refusesOnly_ensureVirtual (name action : Text) :
    RefusesOnly (Interfaces.ensureVirtual name action) := by
  unfold Interfaces.ensureVirtual
  split
  · exact .error (.invalidArgument _)
  · exact .ok _

/-- The writer of interfaces refuses as its style does. -/
theorem refusesOnly_interfaces {s : Interfaces.Style}
    (hs : ∀ before after, RefusesOnly (s.commands before after)) (change : Change) :
    RefusesOnly ((Interfaces.writer s).plan path change) := by
  refine refusesOnly_plan path ?_ ?_ ?_ change
  · intro i
    refine (refusesOnly_keyOf path i).bind fun name => ?_
    exact (refusesOnly_ensureVirtual name _).bind fun _ => hs _ _
  · intro before after
    exact (refusesOnly_keyOf path after).bind fun _ => hs _ _
  · intro i
    refine (refusesOnly_keyOf path i).bind fun name => ?_
    exact (refusesOnly_ensureVirtual name _).bind fun _ => .ok _

/-- The writer of addresses refuses a record for another address, and a path without a name. -/
theorem refusesOnly_addresses (change : Change) :
    RefusesOnly (Addresses.writer.plan path change) := by
  -- all three operations are the same two checks with another lead
  have hcommands : ∀ lead a, RefusesOnly (Addresses.commands lead path a) := by
    intro lead a
    have hkey : RefusesOnly (Addresses.checkKey path a) := by
      unfold Addresses.checkKey
      split
      · split
        · exact .ok _
        · exact .error (.invalidArgument _)
      · exact .ok _
    have hname : RefusesOnly (Interfaces.subinterfaceName path) := by
      refine (refusesOnly_requireKey path _).bind fun name => ?_
      split <;> exact .ok _
    exact hkey.bind fun _ => hname.bind fun _ => .ok _
  exact refusesOnly_plan path (hcommands _) (fun _ => hcommands _) (hcommands _) change

/-- The writer of the BGP process refuses another instance, and a change of the number of the
system. -/
theorem refusesOnly_bgp (change : Change) : RefusesOnly (Bgp.writer.plan path change) := by
  have hinstance : RefusesOnly (Bgp.ensureDefaultInstance path) := by
    unfold Bgp.ensureDefaultInstance
    split
    · exact .ok _
    · exact .error (.invalidArgument _)
  -- the commands are rendered from a template, which never fails
  have hcommands : ∀ before after, RefusesOnly (Bgp.commands before after) := by
    intro before after
    rw [Bgp.commands_eq]
    exact .ok _
  refine refusesOnly_plan path ?_ ?_ ?_ change
  · intro b
    exact hinstance.bind fun _ => hcommands _ _
  · intro before after
    refine hinstance.bind fun _ => ?_
    split
    · exact hcommands _ _
    · exact .error (.invalidArgument _)
  · intro b
    exact hinstance.bind fun _ => .ok _

end Steps

/-! ### Units -/

/-- Handlers whose writers plan changes or refuse them. -/
def Handlers.RefuseOnly (h : Handlers) : Prop :=
  ∀ schema w, (schema, w) ∈ h.writers → ∀ path change, RefusesOnly (w.plan path change)

namespace Handlers.RefuseOnly

variable {h : Handlers}

/-- A unit without handlers has no writer. -/
theorem empty : Handlers.empty.RefuseOnly := by
  intro schema w hw
  cases hw

/-- A lister is no writer. -/
theorem addLister (hh : h.RefuseOnly) (path : Text) (l : Lister) :
    (h.addLister path l).RefuseOnly :=
  hh

/-- Neither is a reader. -/
theorem addReader (hh : h.RefuseOnly) (path : Text) (r : Reader) :
    (h.addReader path r).RefuseOnly :=
  hh

/-- A writer that refuses only may be added. -/
theorem addWriter (hh : h.RefuseOnly) (schema : Text) {w : Writer}
    (hw : ∀ path change, RefusesOnly (w.plan path change)) : (h.addWriter schema w).RefuseOnly := by
  intro n v hmem
  -- the writers are the one that is added and those that are there
  rcases eq_or_mem_of_mem_insertLast hmem with hnew | hold
  · cases hnew
    exact hw
  · exact hh n v hold

end Handlers.RefuseOnly

/-- The commands on IOS come from a template whose rendering never fails. -/
theorem Units.iosStyle_commands (before : Option Interface) (after : Interface) :
    iosStyle.commands before after
      = .ok ((Interfaces.directCommands "no" before after).flatMap Template.commandLines) := by
  simp only [iosStyle, Interfaces.templateCommands_eq]

/-- So they are refused for nothing. -/
theorem Units.refusesOnly_iosStyle (before : Option Interface) (after : Interface) :
    RefusesOnly (iosStyle.commands before after) := by
  rw [iosStyle_commands]
  exact .ok _

/-- Every writer of a built-in unit plans changes or refuses them. -/
theorem Units.refuseOnly_of_mem_builtin {u : HandlerUnit} (hu : u ∈ builtin) :
    u.handlers.RefuseOnly := by
  simp only [builtin, List.mem_cons, List.not_mem_nil, or_false] at hu
  -- IOS, its BGP process, IOS-XR, Junos and VRP, the handlers of each in the order of registration
  rcases hu with rfl | rfl | rfl | rfl | rfl
  · refine .addWriter (.addReader (.addLister (.addWriter (.addReader (.addLister .empty _ _) _ _)
      _ ?_) _ _) _ _) _ ?_
    · exact fun path => refusesOnly_interfaces path refusesOnly_iosStyle
    · exact refusesOnly_addresses
  · exact .addWriter (.addReader .empty _ _) _ refusesOnly_bgp
  · exact .addReader (.addWriter (.addReader (.addLister .empty _ _) _ _) _
      fun path => refusesOnly_interfaces path refusesOnly_iosStyle) _ _
  · exact .addWriter (.addReader (.addLister .empty _ _) _ _) _
      fun path => refusesOnly_interfaces path fun _ _ => .ok _
  · exact .addWriter (.addReader (.addLister .empty _ _) _ _) _
      fun path => refusesOnly_interfaces path fun _ _ => .ok _

/-! ### Registries -/

/-- A handler that a registry finds belongs to one of its units. -/
theorem Registry.exists_unit_of_find {α : Type} {r : Registry} {kind : HandlerKind}
    {path : ConfigPath} {p : Platform} {pick : Handlers → List (Text × α)} {handler : α}
    (h : r.find kind path p pick = .ok handler) :
    ∃ u ∈ r.units, (path.schema, handler) ∈ pick u.handlers := by
  rw [Registry.find] at h
  split at h
  · next found hfound =>
    cases h
    obtain ⟨u, hu, hlookup⟩ := List.exists_of_findSome?_eq_some hfound
    exact ⟨u, List.mem_of_mem_filter hu, mem_of_lookup? hlookup⟩
  · cases h

/-- A writer that a registry finds belongs to one of its units. -/
theorem Registry.exists_unit_of_writer {r : Registry} {path : ConfigPath} {p : Platform}
    {w : Writer} (h : r.writer path p = .ok w) :
    ∃ u ∈ r.units, (path.schema, w) ∈ u.handlers.writers :=
  exists_unit_of_find h

/-- A path without a writer is refused. -/
theorem Registry.refusesOnly_writer (r : Registry) (path : ConfigPath) (p : Platform) :
    RefusesOnly (r.writer path p) := by
  rw [Registry.writer, Registry.find]
  split
  · exact .ok _
  · exact .error (.handlerNotFound _ _ _)

end VendorCli
