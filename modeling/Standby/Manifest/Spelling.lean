import Standby.Manifest.Basic
import Standby.Toml.BasicString
set_option autoImplicit false

/-!
# Spellings of a manifest

The ways in which a manifest can be written down as a document.

## Main definitions

* `Standby.Manifest.Key`, `Standby.Manifest.KeyStyle` — the keys of a declaration; which of them are
  written, and in which order.
* `Standby.Manifest.Layout` — how declarations are laid out.
* `Standby.Manifest.Spelling` — a layout, and how the characters of names are escaped.
* `Standby.Manifest.write` — the document.
-/

namespace Standby.Manifest

open Toml (EscapeForm)

/-- The keys of a declaration. -/
inductive Key where
  | name | start
  deriving Repr, DecidableEq, Inhabited

/-- The text of a key. -/
def Key.text : Key → String
  | .name => "name"
  | .start => "start"

/-- Which keys of a declaration are written, and in which order. -/
structure KeyStyle where
  nameFirst : Bool := true
  /-- Whether a component that is not to be started has no `start` key. -/
  omitFalse : Bool := false
  deriving Repr, DecidableEq, Inhabited

/-- How declarations are laid out. -/
inductive Layout where
  /-- Each declaration under a header of its own. -/
  | sections (style : Declaration → KeyStyle)
  /-- One array of tables in braces. -/
  | tables (style : Declaration → KeyStyle)
  /-- One array of arrays, each with a name and whether the component is to be started. -/
  | arrays

/-- How a manifest is written down. -/
structure Spelling where
  layout : Layout
  /-- How the characters of a name are written that do not stand for themselves. -/
  form : Declaration → Char → EscapeForm := fun _ _ => .letter

/-- The keys of a declaration that are written, in order. -/
def KeyStyle.keys (style : KeyStyle) (d : Declaration) : List Key :=
  if style.omitFalse && !d.start then [.name]
  else if style.nameFirst then [.name, .start]
  else [.start, .name]

/-! ## Pieces of a document -/

/-- A key without quotes and its value. -/
def writeAssignment (key : String) (value : List Char) : List Char :=
  key.toList ++ (" = ".toList ++ value)

/-- Items between brackets or braces. -/
def enclose (opening closing : Char) (items : List (List Char)) : List Char :=
  opening :: (", ".toList).intercalate items ++ [closing]

/-- A flag as a document has it. -/
def writeFlag (b : Bool) : List Char := if b then "true".toList else "false".toList

/-! ## Declarations -/

section Declarations

variable (form : Declaration → Char → EscapeForm) (d : Declaration)

/-- The value of a key as a document has it. -/
def writeValue : Key → List Char
  | .name => Toml.BasicString.write (form d) d.name
  | .start => writeFlag d.start

/-- A key of a declaration with its value. -/
def writeKey (key : Key) : List Char := writeAssignment key.text (writeValue form d key)

/-- A declaration under a header of its own, with a line for each key. -/
def writeSection (style : KeyStyle) : List Char :=
  "[[component]]\n".toList ++ (style.keys d).flatMap fun key => writeKey form d key ++ ['\n']

/-- A declaration in braces. -/
def writeTable (style : KeyStyle) : List Char :=
  enclose '\x7b' '\x7d' ((style.keys d).map (writeKey form d))

/-- A declaration as an array. -/
def writeArray : List Char := enclose '[' ']' ([Key.name, .start].map (writeValue form d))

end Declarations

/-! ## Documents -/

/-- The one line of a document that has all declarations in one array. -/
def writeComponents (items : List (List Char)) : List Char :=
  writeAssignment "component" (enclose '[' ']' items) ++ ['\n']

/-- A manifest written down as a document. -/
def write (m : Manifest) (spelling : Spelling) : String :=
  String.ofList <| match spelling.layout with
  | .sections style => m.components.flatMap fun d => writeSection spelling.form d (style d)
  | .tables style =>
    writeComponents (m.components.map fun d => writeTable spelling.form d (style d))
  | .arrays => writeComponents (m.components.map (writeArray spelling.form))

end Standby.Manifest
