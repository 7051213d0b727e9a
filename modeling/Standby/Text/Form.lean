import Standby.Text.Quoted
set_option autoImplicit false

/-!
# Record notation

A notation for nested values: names with parts in parentheses, records with named fields, lists and
maps, written on one line or spread over several.

## Main definitions

* `Standby.Text.Form` — a value in record notation.
* `Standby.Text.Form.compact` — written on one line.
* `Standby.Text.Form.spread` — written with one part per line, each level indented by four spaces.
-/

namespace Standby.Text

/-- A value in record notation. -/
inductive Form where
  /-- A text that stands for itself. -/
  | word (text : String)
  | tuple (name : String) (parts : List Form)
  /-- A record; one that is not `complete` has fields that are not shown. -/
  | record (name : String) (fields : List (String × Form)) (complete : Bool)
  | list (items : List Form)
  | map (entries : List (Form × Form))
  deriving Inhabited

namespace Form

/-! ## Common values -/

/-- A text between quotes. -/
def quote (s : String) : Form := word (quoted s)

/-- A truth value. -/
def flag (b : Bool) : Form := word (if b then "true" else "false")

/-- A value that may be absent. -/
def optional : Option Form → Form
  | none => word "None"
  | some f => tuple "Some" [f]

/-! ## On one line -/

mutual

/-- The notation on one line. -/
def compact : Form → String
  | word text => text
  | tuple name parts => name ++ "(" ++ ", ".intercalate (compactAll parts) ++ ")"
  | record name fields complete =>
    let shown := compactFields fields ++ (if complete then [] else [".."])
    if shown.isEmpty then name else name ++ " \x7b " ++ ", ".intercalate shown ++ " \x7d"
  | list items => "[" ++ ", ".intercalate (compactAll items) ++ "]"
  | map entries => "\x7b" ++ ", ".intercalate (compactEntries entries) ++ "\x7d"

/-- The parts of a value, each on one line. -/
def compactAll : List Form → List String
  | [] => []
  | f :: rest => f.compact :: compactAll rest

/-- The fields of a record, each on one line. -/
def compactFields : List (String × Form) → List String
  | [] => []
  | (name, f) :: rest => (name ++ ": " ++ f.compact) :: compactFields rest

/-- The entries of a map, each on one line. -/
def compactEntries : List (Form × Form) → List String
  | [] => []
  | (key, f) :: rest => (key.compact ++ ": " ++ f.compact) :: compactEntries rest

end

/-! ## Over several lines -/

/-- The beginning of a line at a level of nesting. -/
def indent (level : Nat) : String := String.ofList (List.replicate (4 * level) ' ')

/-- Writes each part on a line of its own, between an opening and a closing mark, at a level of
nesting. -/
def block (level : Nat) (opening closing : String) (lines : List String) : String :=
  opening ++ "\n" ++ String.join (lines.map fun line => indent (level + 1) ++ line ++ "\n") ++
    indent level ++ closing

mutual

/-- The notation over several lines, where the first line is at a level of nesting already. -/
def spreadAt (level : Nat) : Form → String
  | word text => text
  | tuple name parts =>
    if parts.isEmpty then name ++ "()"
    else block level (name ++ "(") ")" (spreadAll (level + 1) parts)
  | record name fields complete =>
    let shown := spreadFields (level + 1) fields ++ (if complete then [] else [".."])
    if shown.isEmpty then name else block level (name ++ " \x7b") "\x7d" shown
  | list items =>
    if items.isEmpty then "[]" else block level "[" "]" (spreadAll (level + 1) items)
  | map entries =>
    if entries.isEmpty then "\x7b\x7d"
    else block level "\x7b" "\x7d" (spreadEntries (level + 1) entries)

/-- The parts of a value, each with the comma that follows it. -/
def spreadAll (level : Nat) : List Form → List String
  | [] => []
  | f :: rest => (f.spreadAt level ++ ",") :: spreadAll level rest

/-- The fields of a record, each with the comma that follows it. -/
def spreadFields (level : Nat) : List (String × Form) → List String
  | [] => []
  | (name, f) :: rest => (name ++ ": " ++ f.spreadAt level ++ ",") :: spreadFields level rest

/-- The entries of a map, each with the comma that follows it. -/
def spreadEntries (level : Nat) : List (Form × Form) → List String
  | [] => []
  | (key, f) :: rest =>
    (key.spreadAt level ++ ": " ++ f.spreadAt level ++ ",") :: spreadEntries level rest

end

/-- The notation over several lines. -/
def spread (f : Form) : String := f.spreadAt 0

end Form

end Standby.Text
