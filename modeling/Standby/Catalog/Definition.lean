import Standby.Catalog.Basic
set_option autoImplicit false

/-!
# Definitions of component types

A program declares component types ahead of time as definitions. A catalog made from definitions
holds, for each name, the definition that comes first.

## Main definitions

* `Standby.Definition` — a name and a constructor, not yet a type.
* `Standby.TypeTable.ofDefinitions` — a fresh handle for the first definition of each name.
* `Standby.Catalog.ofDefinitions` — the catalog of these handles.
-/

namespace Standby

/-- A component type declared ahead of time. -/
structure Definition where
  name : String
  constructor : Constructor
  deriving Repr, DecidableEq, Inhabited

namespace Definition

/-- A handle to the type that is defined, told apart from all others by `mark`. -/
def handle (d : Definition) (mark : Nat) : TypeHandle := ⟨mark, ⟨d.name, d.constructor⟩⟩

end Definition

namespace TypeTable

/-- Holds a definition unless an earlier one has its name. -/
def putFirst (table : TypeTable) (entry : Definition × Nat) : TypeTable :=
  match table.find? entry.1.name with
  | some _ => table
  | none => table.put (entry.1.handle entry.2)

/-- A handle for the first definition of each name. The handles take their marks from `mark` on. -/
def ofDefinitions (definitions : List Definition) (mark : Nat) : TypeTable :=
  (definitions.zipIdx mark).foldl putFirst []

end TypeTable

/-- The catalog of the definitions, of which the first of each name counts. -/
def Catalog.ofDefinitions (definitions : List Definition) (mark : Nat) : Catalog :=
  { types := TypeTable.ofDefinitions definitions mark }

end Standby
