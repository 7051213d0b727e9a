import Standby.Manifest.Basic
import Standby.Manifest.Error
set_option autoImplicit false

/-!
# Documents that are manifests

A document is a manifest if its only key is `component` and that key holds an array of declarations.
A declaration is a table with a `name` and perhaps a `start` mark, or an array that begins with
these. The first problem that is met is the one reported.

## Main definitions

* `Standby.Declaration.ofValue` — the declaration that a value stands for.
* `Standby.Manifest.ofEntries` — the manifest that a document stands for.

## Design

The keys of a table are visited in the order of their characters' code points and not in the order
of the document, so what is reported does not depend on how the document is arranged.
-/

namespace Standby

open Toml (Value Entries)

/-- The entries of a table in ascending order of their keys. -/
def ascending (entries : Entries) : Entries :=
  entries.mergeSort (fun a b => decide (a.1 ≤ b.1))

/-! ## Parts of a declaration -/

/-- The name that a value stands for. -/
def Declaration.nameOf : Value → Except SchemaError String
  | .text s => .ok s
  | v => .error (.unexpected v .name)

/-- The start mark that a value stands for. -/
def Declaration.startOf : Value → Except SchemaError Bool
  | .boolean b => .ok b
  | v => .error (.unexpected v .start)

/-- What is known of a declaration while the keys of its table are visited. -/
structure PartialDeclaration where
  name : Option String := none
  start : Option Bool := none
  deriving Repr, DecidableEq, Inhabited

/-- Takes one more key of a table into account.

What is reported of an entry depends on this entry alone. A key of another name is refused, whatever
its value is. -/
def PartialDeclaration.add (d : PartialDeclaration) (entry : String × Value) :
    Except SchemaError PartialDeclaration :=
  if entry.1 = "name" then do
    let name ← Declaration.nameOf entry.2
    pure { d with name := some name }
  else if entry.1 = "start" then do
    let start ← Declaration.startOf entry.2
    pure { d with start := some start }
  else .error (.unknownField entry.1)

/-- The declaration, if its name is known. A start mark that is left out is none. -/
def PartialDeclaration.complete (d : PartialDeclaration) : Except SchemaError Declaration :=
  match d.name with
  | some name => .ok { name, start := d.start.getD false }
  | none => .error .missingName

/-! ## Declarations -/

/-- The one key of a date or time when it is read as a table. -/
def momentKey : String := "$__toml_private_datetime"

/-- The declaration that a value stands for. An array gives the name and the start mark by position,
and what stands after them is not looked at. -/
def Declaration.ofValue : Value → Except SchemaError Declaration
  | .table entries => do
    let d ← (ascending entries).foldlM PartialDeclaration.add {}
    d.complete
  | .array [] => .error .emptyDeclaration
  | .array [name] => do
    let name ← nameOf name
    pure { name }
  | .array (name :: start :: _) => do
    let name ← nameOf name
    let start ← startOf start
    pure { name, start }
  | .moment => .error (.unknownField momentKey)
  | v => .error (.unexpected v .declaration)

/-- The declarations that the value of `component` stands for. -/
def declarationsOf : Value → Except SchemaError (List Declaration)
  | .array items => items.mapM Declaration.ofValue
  | v => .error (.unexpected v .components)

/-! ## Manifests -/

namespace Manifest

/-- Takes one more key of a document into account. -/
def add (_ : Manifest) (entry : String × Value) : Except SchemaError Manifest :=
  if entry.1 = "component" then do
    let components ← declarationsOf entry.2
    pure { components }
  else .error (.unknownKey entry.1)

/-- The manifest that a document stands for. A document without any key declares nothing. -/
def ofEntries (document : Entries) : Except SchemaError Manifest :=
  (ascending document).foldlM add {}

end Manifest

end Standby
