import VendorCli.Registry.Basic
import Mathlib.Data.List.Induction
/-!
# Looking handlers up

A unit registers handlers one after the other, and a registry takes units one after the other. What
is found for a path depends on the order in both:

* in a unit the handler that was registered last counts (`Handlers.lookup?_ofRegistrations_iff`);
* of the units for a platform the one that was registered first counts
  (`Registry.handler_ofDeclarations_iff`).

So a lookup that succeeds is settled by the units up to the one that it finds, and further units
make no difference to it (`Registry.handler_append`). There is one way in which they can: a device
of unknown make is served by the units for IOS only as long as there is no unit of its own
(`Registry.effectivePlatform_append`). `paths_agree_with_lookups` puts this together with the list
of the paths that are served.
-/

namespace VendorCli

/-! ### Handlers of a kind -/

/-- The handlers of a kind. -/
def HandlerKind.Handler : HandlerKind → Type
  | reader => Reader
  | listReader => Lister
  | writer => Writer

/-- The handlers of one kind by schema path. -/
def Handlers.ofKind (h : Handlers) : (k : HandlerKind) → List (Text × k.Handler)
  | .reader => h.readers
  | .listReader => h.listers
  | .writer => h.writers

/-- A unit lists a path if it has a handler of some kind there. -/
theorem Handlers.mem_paths_iff {h : Handlers} {schema : Text} :
    schema ∈ h.paths ↔ ∃ k, schema ∈ (h.ofKind k).map (·.1) := by
  rw [paths, mem_distinct, List.mem_append, List.mem_append]
  -- the three lists are put together in the order of listers, readers and writers
  constructor
  · rintro ((hl | hr) | hw)
    · exact ⟨.listReader, hl⟩
    · exact ⟨.reader, hr⟩
    · exact ⟨.writer, hw⟩
  · rintro ⟨k, hk⟩
    cases k with
    | reader => exact .inl (.inr hk)
    | listReader => exact .inl (.inl hk)
    | writer => exact .inr hk

/-! ### Registering handlers -/

/-- A handler with the schema path that it is registered for. -/
structure Registration where
  kind : HandlerKind
  schema : Text
  handler : kind.Handler

namespace Registration

variable {g : Registration} {k : HandlerKind} {schema : Text} {x : k.Handler}

/-- The handler that is registered, if it is of this kind and for this path. -/
def handlerAt? (g : Registration) (k : HandlerKind) (schema : Text) : Option k.Handler :=
  if h : g.kind = k ∧ g.schema = schema then some (h.1 ▸ g.handler) else none

/-- A registration gives the handler that it has, for its own kind and path. -/
theorem handlerAt?_eq_some_iff : g.handlerAt? k schema = some x ↔ g = ⟨k, schema, x⟩ := by
  obtain ⟨kind, other, y⟩ := g
  unfold handlerAt?
  split
  · next h =>
    obtain ⟨rfl, rfl⟩ : kind = k ∧ other = schema := h
    simp
  · next h =>
    refine iff_of_false nofun ?_
    rintro ⟨rfl⟩
    exact h ⟨rfl, rfl⟩

/-- It gives none for another kind or another path. -/
theorem handlerAt?_eq_none_iff :
    g.handlerAt? k schema = none ↔ (g.kind = k → g.schema ≠ schema) := by
  unfold handlerAt?
  split
  · next h => exact iff_of_false nofun fun hne => hne h.1 h.2
  · next h => exact iff_of_true rfl fun hkind hschema => h ⟨hkind, hschema⟩

end Registration

namespace Handlers

variable {k : HandlerKind} {schema : Text}

/-- Register a handler of any kind. -/
def add (h : Handlers) : Registration → Handlers
  | ⟨.reader, schema, r⟩ => h.addReader schema r
  | ⟨.listReader, schema, l⟩ => h.addLister schema l
  | ⟨.writer, schema, w⟩ => h.addWriter schema w

/-- The handlers of a unit that registers them one after the other. -/
def ofRegistrations (gs : List Registration) : Handlers :=
  gs.foldl add empty

/-- **One registration.** It counts at its own path and for its own kind, and changes nothing
else. -/
theorem lookup?_add (h : Handlers) (g : Registration) :
    lookup? schema ((h.add g).ofKind k)
      = (g.handlerAt? k schema).or (lookup? schema (h.ofKind k)) := by
  obtain ⟨kind, other, y⟩ := g
  -- the registration is of this kind or of another, and for this path or for another
  by_cases hk : kind = k
  · subst hk
    by_cases hschema : other = schema
    · subst hschema
      rw [Registration.handlerAt?_eq_some_iff.mpr rfl, Option.some_or]
      cases kind <;> exact lookup?_insertLast_self other y _
    · rw [Registration.handlerAt?_eq_none_iff.mpr fun _ => hschema, Option.none_or]
      cases kind <;> exact lookup?_insertLast_of_ne (Ne.symm hschema) y _
  · -- each kind has a list of its own, and only that of the registration has changed
    rw [Registration.handlerAt?_eq_none_iff.mpr fun h => absurd h hk, Option.none_or]
    cases kind <;> cases k <;> first | rfl | exact absurd rfl hk

/-- A lookup searches the registrations from the last one back. -/
theorem lookup?_ofRegistrations (gs : List Registration) :
    lookup? schema ((ofRegistrations gs).ofKind k)
      = gs.reverse.findSome? fun g => g.handlerAt? k schema := by
  -- from the end, as the last registration was put on top of all others
  induction gs using List.reverseRecOn with
  | nil => cases k <;> rfl
  | append_singleton gs g ih =>
    rw [ofRegistrations, List.foldl_append, List.foldl_cons, List.foldl_nil, lookup?_add,
      List.reverse_append, List.reverse_singleton, List.singleton_append, List.findSome?_cons]
    change (g.handlerAt? k schema).or (lookup? schema ((ofRegistrations gs).ofKind k)) = _
    rw [ih]
    cases g.handlerAt? k schema <;> rfl

/-- **The last registration counts.** -/
theorem lookup?_ofRegistrations_iff {gs : List Registration} {x : k.Handler} :
    lookup? schema ((ofRegistrations gs).ofKind k) = some x ↔
      ∃ front back, gs = front ++ ⟨k, schema, x⟩ :: back ∧
        ∀ g ∈ back, g.kind = k → g.schema ≠ schema := by
  rw [lookup?_ofRegistrations, List.findSome?_eq_some_iff]
  -- the search is split where it ends, and turned around
  constructor
  · rintro ⟨back, g, front, hsplit, hg, hback⟩
    obtain rfl := Registration.handlerAt?_eq_some_iff.mp hg
    refine ⟨front.reverse, back.reverse, ?_, fun g hg => ?_⟩
    · rw [← List.reverse_reverse gs, hsplit]
      simp
    · exact Registration.handlerAt?_eq_none_iff.mp (hback g (List.mem_reverse.mp hg))
  · rintro ⟨front, back, rfl, hback⟩
    refine ⟨back.reverse, _, front.reverse, by simp,
      Registration.handlerAt?_eq_some_iff.mpr rfl, fun g hg => ?_⟩
    exact Registration.handlerAt?_eq_none_iff.mpr (hback g (List.mem_reverse.mp hg))

/-- Nothing is found if nothing was registered. -/
theorem lookup?_ofRegistrations_eq_none_iff {gs : List Registration} :
    lookup? schema ((ofRegistrations gs).ofKind k) = none ↔
      ∀ g ∈ gs, g.kind = k → g.schema ≠ schema := by
  rw [lookup?_ofRegistrations, List.findSome?_eq_none_iff]
  simp only [List.mem_reverse, Registration.handlerAt?_eq_none_iff]

end Handlers

/-! ### Registering units -/

/-- A unit as it is declared: it registers handlers one after the other. -/
structure UnitDeclaration where
  name : Text
  platform : Platform
  registrations : List Registration

namespace UnitDeclaration

variable {u : UnitDeclaration} {k : HandlerKind} {schema : Text}

/-- The unit with the handlers that it registers. -/
def toUnit (u : UnitDeclaration) : HandlerUnit :=
  ⟨u.name, u.platform, .ofRegistrations u.registrations⟩

/-- A unit registers a handler, and no other one of its kind for its path after it. -/
def Registers (u : UnitDeclaration) (k : HandlerKind) (schema : Text) (x : k.Handler) : Prop :=
  ∃ front back, u.registrations = front ++ ⟨k, schema, x⟩ :: back ∧
    ∀ g ∈ back, g.kind = k → g.schema ≠ schema

/-- A unit registers no handler of a kind for a path. -/
def Lacks (u : UnitDeclaration) (k : HandlerKind) (schema : Text) : Prop :=
  ∀ g ∈ u.registrations, g.kind = k → g.schema ≠ schema

/-- The handlers of a unit are those that it registers last. -/
theorem lookup?_toUnit_iff {x : k.Handler} :
    lookup? schema (u.toUnit.handlers.ofKind k) = some x ↔ u.Registers k schema x :=
  Handlers.lookup?_ofRegistrations_iff

/-- A unit has no handler where it registers none. -/
theorem lookup?_toUnit_eq_none_iff :
    lookup? schema (u.toUnit.handlers.ofKind k) = none ↔ u.Lacks k schema :=
  Handlers.lookup?_ofRegistrations_eq_none_iff

end UnitDeclaration

namespace Registry

variable {r : Registry} {k : HandlerKind} {path : ConfigPath} {p : Platform} {x : k.Handler}

/-- The registry of some units, registered one after the other. -/
def ofDeclarations (us : List UnitDeclaration) : Registry :=
  us.foldl (fun r u => r.register u.toUnit) empty

/-- The handler of a kind that a registry finds. -/
def handler (r : Registry) : (k : HandlerKind) → ConfigPath → Platform → Except Error k.Handler
  | .reader => r.reader
  | .listReader => r.lister
  | .writer => r.writer

/-- The three lookups are one search, in the lists of their kind. -/
theorem handler_eq : r.handler k path p = r.find k path p fun h => h.ofKind k := by
  cases k <;> rfl

/-- A registry has the units that were registered, in that order. -/
theorem units_foldl (r : Registry) (us : List UnitDeclaration) :
    (us.foldl (fun r u => r.register u.toUnit) r).units
      = r.units ++ us.map UnitDeclaration.toUnit := by
  induction us generalizing r with
  | nil => exact (List.append_nil _).symm
  | cons u us ih =>
    rw [List.foldl_cons, ih, register, List.map_cons, List.append_assoc, List.singleton_append]

/-- The units of a registry are those that were declared, in that order. -/
theorem units_ofDeclarations (us : List UnitDeclaration) :
    (ofDeclarations us).units = us.map UnitDeclaration.toUnit := by
  rw [ofDeclarations, units_foldl, empty, List.nil_append]

/-- Units that are registered later stand behind those that are there. -/
theorem units_ofDeclarations_append (us more : List UnitDeclaration) :
    (ofDeclarations (us ++ more)).units
      = (ofDeclarations us).units ++ (ofDeclarations more).units := by
  rw [units_ofDeclarations, units_ofDeclarations, units_ofDeclarations, List.map_append]

/-! ### Lookups -/

/-- A lookup goes through the units for the platform. -/
theorem handler_eq_ok_iff_findSome? : r.handler k path p = .ok x ↔
    (r.unitsFor p).findSome? (fun u => lookup? path.schema (u.handlers.ofKind k)) = some x := by
  rw [handler_eq, find]
  split
  · next y hy => rw [hy, Except.ok.injEq, Option.some.injEq]
  · next hnone =>
    rw [hnone]
    exact iff_of_false nofun nofun

/-- A lookup that fails says that there is no handler of the kind. -/
theorem handler_eq_error (h : ∀ x, r.handler k path p ≠ .ok x) :
    r.handler k path p = .error (.handlerNotFound k path.schema p.name) := by
  rw [handler_eq] at h ⊢
  unfold find at h ⊢
  split
  · next y hy =>
    rw [hy] at h
    exact absurd rfl (h y)
  · rfl

/-- A registry lists a path if a unit for the platform has a handler of some kind there. -/
theorem mem_paths_iff {schema : Text} : schema ∈ r.paths p ↔
    ∃ k, ∃ u ∈ r.unitsFor p, ∃ x, lookup? schema (u.handlers.ofKind k) = some x := by
  -- a unit has a path in a list exactly if a lookup there finds something
  have hfound : ∀ (u : HandlerUnit) (k : HandlerKind), schema ∈ (u.handlers.ofKind k).map (·.1) ↔
      ∃ x, lookup? schema (u.handlers.ofKind k) = some x := by
    intro u k
    rw [← Option.isSome_iff_exists, Option.isSome_iff_ne_none, Ne, lookup?_eq_none_iff, not_not]
  simp only [paths, mem_distinct, List.mem_flatMap, Handlers.mem_paths_iff, hfound]
  exact ⟨fun ⟨u, hu, k, hx⟩ => ⟨k, u, hu, hx⟩, fun ⟨k, u, hu, hx⟩ => ⟨u, hu, k, hx⟩⟩

/-- **What is listed is found.** -/
theorem schema_mem_paths_iff :
    path.schema ∈ r.paths p ↔ ∃ k x, r.handler k path p = .ok x := by
  rw [mem_paths_iff]
  refine exists_congr fun k => ?_
  simp only [handler_eq_ok_iff_findSome?, ← Option.isSome_iff_exists, List.findSome?_isSome_iff]

/-! ### The order of units -/

/-- A search among some entries passes over the others. -/
theorem findSome?_filter {α β : Type} (q : α → Bool) (f : α → Option β) (l : List α) :
    (l.filter q).findSome? f = l.findSome? fun a => if q a then f a else none := by
  induction l with
  | nil => rfl
  | cons a l ih =>
    rw [List.filter_cons, List.findSome?_cons]
    by_cases h : q a = true
    · rw [if_pos h, if_pos h, List.findSome?_cons, ih]
    · rw [if_neg h, if_neg h, ih]

/-- **The first unit counts.** The handler that is found is that of the earliest unit for the
platform that has one. -/
theorem handler_ofDeclarations_iff {us : List UnitDeclaration} :
    (ofDeclarations us).handler k path p = .ok x ↔ ∃ before u after, us = before ++ u :: after ∧
      u.platform = (ofDeclarations us).effectivePlatform p ∧ u.Registers k path.schema x ∧
      ∀ v ∈ before, v.platform = (ofDeclarations us).effectivePlatform p →
        v.Lacks k path.schema := by
  -- the units of other platforms are passed over in the search instead of being left out before it
  rw [handler_eq_ok_iff_findSome?, unitsFor, findSome?_filter, units_ofDeclarations,
    List.findSome?_map, List.findSome?_eq_some_iff]
  generalize (ofDeclarations us).effectivePlatform p = q
  refine exists_congr fun before => exists_congr fun u => exists_congr fun after =>
    and_congr_right fun _ => ?_
  rw [← and_assoc]
  refine and_congr ?_ (forall_congr' fun v => imp_congr_right fun _ => ?_)
  -- the unit that is found is for the platform and registers the handler
  · rw [Function.comp_apply, Option.ite_none_right_eq_some, UnitDeclaration.lookup?_toUnit_iff,
      decide_eq_true_iff]
    rfl
  -- no unit before it is for the platform and has one
  · rw [Function.comp_apply, ite_eq_right_iff, UnitDeclaration.lookup?_toUnit_eq_none_iff,
      decide_eq_true_iff]
    rfl

/-- The units for IOS serve devices of unknown make as long as no other unit does. -/
theorem effectivePlatform_ofDeclarations (us : List UnitDeclaration) (p : Platform) :
    (ofDeclarations us).effectivePlatform p
      = if p = .generic ∧ ∀ u ∈ us, u.platform ≠ .generic then .ciscoIos else p := by
  rw [effectivePlatform, units_ofDeclarations]
  refine if_congr (and_congr_right fun _ => ?_) rfl rfl
  rw [Bool.not_eq_true, List.any_eq_false, List.forall_mem_map]
  simp only [decide_eq_true_iff]
  rfl

/-! ### Further units -/

/-- Among the units that are registered later is the first one for devices of unknown make, and the
platform is that of such devices. -/
def EndsFallback (us more : List UnitDeclaration) (p : Platform) : Prop :=
  p = .generic ∧ (∀ u ∈ us, u.platform ≠ .generic) ∧ ∃ u ∈ more, u.platform = .generic

/-- The platform of a device stays what it is, unless the fallback ends. -/
theorem effectivePlatform_append {us more : List UnitDeclaration}
    (h : ¬ EndsFallback us more p) :
    (ofDeclarations (us ++ more)).effectivePlatform p
      = (ofDeclarations us).effectivePlatform p := by
  rw [effectivePlatform_ofDeclarations, effectivePlatform_ofDeclarations]
  refine if_congr (and_congr_right fun hp => ?_) rfl rfl
  rw [List.forall_mem_append, and_iff_left_iff_imp]
  -- none of the further units is for devices of unknown make, or the fallback would end
  intro hus u hu hgeneric
  exact h ⟨hp, hus, u, hu, hgeneric⟩

/-- **Lookups are stable.** A lookup that succeeds gives the same when more units are registered. -/
theorem handler_append {us more : List UnitDeclaration} (hends : ¬ EndsFallback us more p)
    (h : (ofDeclarations us).handler k path p = .ok x) :
    (ofDeclarations (us ++ more)).handler k path p = .ok x := by
  rw [handler_eq_ok_iff_findSome?] at h ⊢
  -- what is found among the units so far is found first
  rw [unitsFor, effectivePlatform_append hends, units_ofDeclarations_append, List.filter_append,
    List.findSome?_append]
  rw [unitsFor] at h
  rw [h, Option.some_or]

/-- Once there is a unit for devices of unknown make, those from before make no difference to such
devices. -/
theorem handler_of_endsFallback {us more : List UnitDeclaration} (h : EndsFallback us more p) :
    (ofDeclarations (us ++ more)).handler k path p = (ofDeclarations more).handler k path p := by
  obtain ⟨rfl, hus, u, hu, hgeneric⟩ := h
  -- with the new unit such devices are served as what they are
  have hserved : ∀ us : List UnitDeclaration, u ∈ us →
      (ofDeclarations us).effectivePlatform .generic = .generic := by
    intro us hmem
    rw [effectivePlatform_ofDeclarations, if_neg]
    rintro ⟨-, hnone⟩
    exact hnone u hmem hgeneric
  -- no unit from before is for such devices; they were served by those for IOS
  have hunits : (ofDeclarations (us ++ more)).unitsFor .generic
      = (ofDeclarations more).unitsFor .generic := by
    rw [unitsFor, unitsFor, hserved _ (List.mem_append_right us hu), hserved _ hu,
      units_ofDeclarations_append, List.filter_append, List.filter_eq_nil_iff.mpr, List.nil_append]
    intro v hv
    rw [units_ofDeclarations] at hv
    obtain ⟨w, hw, rfl⟩ := List.mem_map.mp hv
    exact fun hplatform => hus w hw (of_decide_eq_true hplatform)
  rw [handler_eq, handler_eq, find, find, hunits]

/-- **Listing and lookup agree.** For units that were registered one after the other, each with
handlers that it registers one after the other, and for every platform and path:

* no path is listed twice, and a path is listed exactly if it has a handler of some kind; for any
  kind of which it has none, the lookup says so;
* the handler of a kind is that of the earliest unit for the effective platform that registers one
  for the path, and of several that this unit registers, the last one;
* registering more units leaves every lookup that succeeds as it is, unless they have the first unit
  for devices of unknown make and the device is one of those. Then they alone count. -/
theorem paths_agree_with_lookups (us : List UnitDeclaration) (p : Platform) (path : ConfigPath) :
    let r := ofDeclarations us
    (r.paths p).Nodup ∧
    (path.schema ∈ r.paths p ↔ ∃ k x, r.handler k path p = .ok x) ∧
    (∀ k, (∀ x, r.handler k path p ≠ .ok x) →
      r.handler k path p = .error (.handlerNotFound k path.schema p.name)) ∧
    (∀ k x, r.handler k path p = .ok x ↔ ∃ before u after, us = before ++ u :: after ∧
      u.platform = r.effectivePlatform p ∧ u.Registers k path.schema x ∧
      ∀ v ∈ before, v.platform = r.effectivePlatform p → v.Lacks k path.schema) ∧
    ∀ more, let r' := ofDeclarations (us ++ more)
      (¬ EndsFallback us more p → ∀ k x, r.handler k path p = .ok x →
        r'.handler k path p = .ok x) ∧
      (EndsFallback us more p → ∀ k,
        r'.handler k path p = (ofDeclarations more).handler k path p) := by
  intro r
  refine ⟨nodup_distinct _, schema_mem_paths_iff, fun _ => handler_eq_error,
    fun _ _ => handler_ofDeclarations_iff, fun more => ⟨?_, ?_⟩⟩
  · intro hends k x hx
    exact handler_append hends hx
  · intro hends k
    exact handler_of_endsFallback hends

end Registry

end VendorCli
