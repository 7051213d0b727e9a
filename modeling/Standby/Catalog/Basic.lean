import Standby.Shared
import Standby.Error
set_option autoImplicit false

/-!
# Catalogs of component types

A catalog holds component types by name and is nested in a chain of enclosing catalogs. Looking a
name up finds the nearest catalog of the chain that holds it.

## Main definitions

* `Standby.ComponentType`, `Standby.TypeHandle` — a name bound to a constructor, and a shared
  handle to it.
* `Standby.TypeTable` — the types that one catalog holds itself, at most one per name.
* `Standby.Catalog` — a table and the tables of the enclosing catalogs, nearest first.
* `Standby.Catalog.lookup` — the nearest type of a name.

## Main results

* `Standby.TypeTable.find?_put` — after `put`, the name of the new type finds it and every other
  name finds what it found before.
* `Standby.Catalog.name_of_lookup` — a type that is found has the name that was looked up.

## Design

A catalog is the list of the tables on its chain rather than a tree of catalogs: a catalog never
changes once something is nested in it, so a copy of the tables above it is all that a lookup needs.
-/

namespace Standby

/-! ## Types and handles -/

/-- A reference to the code that builds products of a type. -/
structure Constructor where
  code : Nat
  deriving Repr, DecidableEq, Inhabited

/-- A component type: a name bound to a constructor. -/
structure ComponentType where
  name : String
  constructor : Constructor
  deriving Repr, DecidableEq, Inhabited

/-- A shared handle to a component type. Two types of one name are told apart by their handles. -/
abbrev TypeHandle := Shared ComponentType

/-- The name of the type behind a handle. -/
def TypeHandle.name (h : TypeHandle) : String := h.value.name

/-! ## Tables -/

/-- The types that a catalog holds itself, at most one per name. -/
abbrev TypeTable := List TypeHandle

namespace TypeTable

/-- The type held under a name. -/
def find? (table : TypeTable) (name : String) : Option TypeHandle :=
  List.find? (fun h => TypeHandle.name h == name) table

/-- Holds `h` under its own name, in the place of a type of that name if there is one. -/
def put (h : TypeHandle) : TypeTable → TypeTable
  | [] => [h]
  | x :: rest => if TypeHandle.name x = TypeHandle.name h then h :: rest else x :: put h rest

/-- Of a table in which a type was put under its name, this name gives the type and every other name
what it gave before.

**Proof sketch.** Induction on the table. The first entry either bears the name of the type, and is
replaced, or it stays in front and the type is put behind it, where the induction hypothesis says
what is found. -/
theorem find?_put (h : TypeHandle) (table : TypeTable) (name : String) :
    find? (put h table) name =
      if TypeHandle.name h = name then some h else find? table name := by
  induction table with
  | nil => by_cases hn : TypeHandle.name h = name <;> simp [put, find?, hn]
  | cons x rest ih =>
    by_cases hx : TypeHandle.name x = TypeHandle.name h
    · by_cases hn : TypeHandle.name h = name <;> simp [put, find?, hx, hn]
    · rw [put, if_neg hx]
      unfold find? at ih ⊢
      by_cases hxn : TypeHandle.name x = name
      · have hn : TypeHandle.name h ≠ name := fun e => hx (hxn.trans e.symm)
        simp [hxn, hn]
      · simpa [List.find?_cons, hxn] using ih

/-- What a table has under a name is called that. -/
theorem name_of_find? {table : TypeTable} {name : String} {h : TypeHandle}
    (found : find? table name = some h) : TypeHandle.name h = name := by
  simpa using List.find?_some found

end TypeTable

/-! ## Catalogs -/

/-- A set of component types, nested in the catalogs whose tables are `enclosing`, nearest first. -/
structure Catalog where
  types : TypeTable := []
  enclosing : List TypeTable := []
  deriving Repr, DecidableEq, Inhabited

namespace Catalog

/-- A catalog that holds nothing and is nested in nothing. -/
def empty : Catalog := {}

/-- Nests the catalog in `parent`, whatever it was nested in before. -/
def within (c parent : Catalog) : Catalog :=
  { c with enclosing := parent.types :: parent.enclosing }

/-- Holds a type under its own name, and gives the type of this very catalog that it replaces. -/
def register (c : Catalog) (h : TypeHandle) : Option TypeHandle × Catalog :=
  (c.types.find? (TypeHandle.name h), { c with types := c.types.put h })

/-- The catalog with one more type, the replaced one forgotten. -/
def withType (c : Catalog) (h : TypeHandle) : Catalog := (c.register h).2

/-- The type of the nearest table on the chain that holds the name. -/
def lookup (c : Catalog) (name : String) : Option TypeHandle :=
  (c.types :: c.enclosing).findSome? (fun table => table.find? name)

/-- Whether a name is found, here or in an enclosing catalog. -/
def contains (c : Catalog) (name : String) : Bool := (c.lookup name).isSome

/-- How many types the catalog holds itself. -/
def size (c : Catalog) : Nat := c.types.length

/-- Whether the catalog holds no type itself. -/
def isEmpty (c : Catalog) : Bool := c.types.isEmpty

/-- Turns a name into a type through this catalog. -/
def resolve (c : Catalog) (name : String) : Except NotFound TypeHandle :=
  match c.lookup name with
  | some h => .ok h
  | none => .error (.unknown name)

/-- What a catalog finds under a name is called that, in whichever of the enclosing catalogs it was
found. -/
theorem name_of_lookup {c : Catalog} {name : String} {h : TypeHandle}
    (found : c.lookup name = some h) : TypeHandle.name h = name := by
  obtain ⟨table, _, hit⟩ := List.exists_of_findSome?_eq_some found
  exact TypeTable.name_of_find? hit

end Catalog

end Standby
