import VendorCli.Registry.Handler
import VendorCli.Platform
import VendorCli.Text.Escape
/-!
# Registries

Handlers are bundled in units, each for one platform, and a registry is a list of units. A handler
is found by its kind and the schema of a path: of all units of the platform the earliest that has
one counts. A generic device is served by the units for IOS, unless there is a unit for generic
devices.

* `Handlers.paths` and `Registry.paths` list what is served;
* `Registry.find` looks a handler up.
-/

namespace VendorCli

/-- The handlers of a unit by schema path, each kind in the order of registration. -/
structure Handlers where
  listers : List (Text × Lister)
  readers : List (Text × Reader)
  writers : List (Text × Writer)

namespace Handlers

/-- No handlers. -/
def empty : Handlers := ⟨[], [], []⟩

/-- Register a lister. -/
def addLister (h : Handlers) (path : Text) (l : Lister) : Handlers :=
  { h with listers := insertLast path l h.listers }

/-- Register a reader. -/
def addReader (h : Handlers) (path : Text) (r : Reader) : Handlers :=
  { h with readers := insertLast path r h.readers }

/-- Register a writer. -/
def addWriter (h : Handlers) (path : Text) (w : Writer) : Handlers :=
  { h with writers := insertLast path w h.writers }

/-- The schema paths with a handler: those of listers, readers and writers, each once. -/
def paths (h : Handlers) : List Text :=
  distinct (h.listers.map (·.1) ++ h.readers.map (·.1) ++ h.writers.map (·.1))

/-- The kinds of handlers at a schema path. -/
def kinds (h : Handlers) (path : Text) : List Text :=
  let named (present : Bool) (name : Text) : List Text := if present then [name] else []
  named (lookup? path h.listers).isSome "list" ++ named (lookup? path h.readers).isSome "reader"
    ++ named (lookup? path h.writers).isSome "writer"

/-- The schema paths with the kinds of handlers there. -/
def summary (h : Handlers) : List (Text × List Text) :=
  h.paths.map fun path => (path, h.kinds path)

/-- The handlers as a value of a program. -/
def shown (h : Handlers) : Text :=
  "HandlerRegistry \x7b paths: [" ++ Text.join ", " (h.paths.map Text.shown) ++ "] \x7d"

end Handlers

/-- A bundle of handlers for one platform. -/
structure HandlerUnit where
  name : Text
  platform : Platform
  handlers : Handlers

/-- A list of units. -/
structure Registry where
  units : List HandlerUnit

namespace Registry

/-- A registry without units. -/
def empty : Registry := ⟨[]⟩

/-- Register a unit after all others. -/
def register (r : Registry) (u : HandlerUnit) : Registry :=
  ⟨r.units ++ [u]⟩

/-- The platform whose units serve a platform. -/
def effectivePlatform (r : Registry) (p : Platform) : Platform :=
  if p = .generic ∧ ¬ r.units.any (fun u => u.platform = .generic) then .ciscoIos else p

/-- The units that serve a platform. -/
def unitsFor (r : Registry) (p : Platform) : List HandlerUnit :=
  r.units.filter fun u => u.platform = r.effectivePlatform p

/-- The schema paths served for a platform, each once. -/
def paths (r : Registry) (p : Platform) : List Text :=
  distinct ((r.unitsFor p).flatMap fun u => u.handlers.paths)

/-- The handler of the earliest unit that has one, by a function that picks it. -/
def find {α : Type} (r : Registry) (kind : HandlerKind) (path : ConfigPath) (p : Platform)
    (pick : Handlers → List (Text × α)) : Except Error α :=
  match (r.unitsFor p).findSome? fun u => lookup? path.schema (pick u.handlers) with
  | some handler => .ok handler
  | none => .error (.handlerNotFound kind path.schema p.name)

/-- The lister of a path. -/
def lister (r : Registry) (path : ConfigPath) (p : Platform) : Except Error Lister :=
  r.find .listReader path p Handlers.listers

/-- The reader of a path. -/
def reader (r : Registry) (path : ConfigPath) (p : Platform) : Except Error Reader :=
  r.find .reader path p Handlers.readers

/-- The writer of a path. -/
def writer (r : Registry) (path : ConfigPath) (p : Platform) : Except Error Writer :=
  r.find .writer path p Handlers.writers

end Registry

end VendorCli
