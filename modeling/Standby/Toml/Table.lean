import Standby.Toml.Value
set_option autoImplicit false

/-!
# TOML tables in the making

A table may be written in several places of a document: under its own header, under the headers of
its subtables, by dotted keys, or as the next element of an array of tables. Which of these may be
combined depends on how a table came about, so that is kept while the document is put together.

## Main definitions

* `Standby.Toml.Origin` — how a table came about.
* `Standby.Toml.Node`, `Standby.Toml.Branches` — a value in the making, and a table in the making.
* `Standby.Toml.assign` — sets a dotted key.
* `Standby.Toml.Header`, `Standby.Toml.place` — puts a section of the document where its header
  says.
* `Standby.Toml.Node.value` — the finished value.

## Design

Each function gives nothing where the document contradicts itself: a key is set twice, a table is
defined twice, or a table is extended from a place from which it must not be.
-/

namespace Standby.Toml

/-- How a table came about. -/
inductive Origin where
  /-- A header names something inside it. -/
  | passing
  /-- A dotted key sets something inside it. -/
  | dotted
  /-- It has a header of its own. -/
  | header
  deriving Repr, DecidableEq, Inhabited

/-- A value in the making. -/
inductive Node where
  /-- A value that was written out and is complete. -/
  | leaf (v : Value)
  | table (origin : Origin) (entries : List (String × Node))
  /-- An array of tables that each have a header; never empty. -/
  | sections (tables : List (List (String × Node)))
  deriving Inhabited

/-- A table in the making: its keys in the order in which they first appear. -/
abbrev Branches := List (String × Node)

/-- Replaces what stands under a key, or what is missing there, by what `f` makes of it. -/
def alter (key : String) (f : Option Node → Option Node) : Branches → Option Branches
  | [] => (f none).map fun n => [(key, n)]
  | (k, n) :: rest =>
    if k = key then (f (some n)).map fun n => (k, n) :: rest
    else (alter key f rest).map fun rest => (k, n) :: rest

/-- Replaces the last of several tables by what `f` makes of it. -/
def alterLast (f : Branches → Option Branches) : List Branches → Option (List Branches)
  | [] => none
  | [last] => (f last).map fun last => [last]
  | first :: rest => (alterLast f rest).map fun rest => first :: rest

/-! ## Keys -/

/-- What may stand under a key that is set: nothing yet. -/
def setLeaf (v : Value) : Option Node → Option Node
  | none => some (.leaf v)
  | some _ => none

/-- Sets a dotted key in a table. A table on the way is made if it is missing, and must not have a
header of its own; one that a header passed through counts as made by dotted keys from then on. The
way may lead through the last table of an array, but not end there. -/
def assign : List String → Value → Branches → Option Branches
  | [], _, _ => none
  | [key], v, entries => alter key (setLeaf v) entries
  | key :: next :: path, v, entries =>
    alter key
      (fun
        | none => (assign (next :: path) v []).map (.table .dotted)
        | some (.table .header _) => none
        | some (.table _ entries) => (assign (next :: path) v entries).map (.table .dotted)
        | some (.sections tables) =>
          if path.isEmpty then none
          else (alterLast (assign (next :: path) v) tables).map .sections
        | some (.leaf _) => none)
      entries

/-- A dotted key and the value that it is set to. -/
abbrev Assignment := List String × Value

/-- Sets dotted keys in a table, one after the other. -/
def fill (assignments : List Assignment) (entries : Branches) : Option Branches :=
  assignments.foldlM (fun entries a => assign a.1 a.2 entries) entries

/-! ## Headers -/

/-- What the keys of a section are set in. -/
inductive Header where
  /-- The document itself. -/
  | document
  /-- The table with this dotted name. -/
  | table (path : List String)
  /-- A new table at the end of the array with this dotted name. -/
  | element (path : List String)
  deriving Repr, DecidableEq, Inhabited

/-- A part of a document: a header, and the keys that are set under it. -/
structure Section where
  header : Header
  assignments : List Assignment

/-- Changes what the last part of a dotted name stands for. Tables on the way are made if they are
missing, and an array of tables stands for its last element. -/
def within (f : Option Node → Option Node) : List String → Branches → Option Branches
  | [], _ => none
  | [key], entries => alter key f entries
  | key :: path, entries =>
    alter key
      (fun
        | none => (within f path []).map (.table .passing)
        | some (.table origin entries) => (within f path entries).map (.table origin)
        | some (.sections tables) => (alterLast (within f path) tables).map .sections
        | some (.leaf _) => none)
      entries

/-- What a table with a header of its own holds. The table may have been passed through before, but
not otherwise begun. -/
def defineTable (assignments : List Assignment) : Option Node → Option Node
  | none => (fill assignments []).map (.table .header)
  | some (.table .passing entries) => (fill assignments entries).map (.table .header)
  | some _ => none

/-- An array of tables with one more table. -/
def addElement (assignments : List Assignment) : Option Node → Option Node
  | none => (fill assignments []).map fun table => .sections [table]
  | some (.sections tables) => (fill assignments []).map fun table => .sections (tables ++ [table])
  | some _ => none

/-- Puts a section where its header says. -/
def place (document : Branches) (s : Section) : Option Branches :=
  match s.header with
  | .document => fill s.assignments document
  | .table path => within (defineTable s.assignments) path document
  | .element path => within (addElement s.assignments) path document

/-! ## Finished values -/

mutual

/-- The finished value. -/
def Node.value : Node → Value
  | .leaf v => v
  | .table _ entries => .table (finished entries)
  | .sections tables => .array (finishedAll tables)

/-- The finished values of a table. -/
def finished : List (String × Node) → List (String × Value)
  | [] => []
  | (key, node) :: rest => (key, node.value) :: finished rest

/-- The finished tables of an array. -/
def finishedAll : List (List (String × Node)) → List Value
  | [] => []
  | entries :: rest => .table (finished entries) :: finishedAll rest

end

/-- The table of a document that is made of sections. -/
def ofSections? (sections : List Section) : Option Entries :=
  (sections.foldlM place []).map finished

/-- The table of keys that are set in one pair of braces. -/
def ofAssignments? (assignments : List Assignment) : Option Entries :=
  (fill assignments []).map finished

end Standby.Toml
