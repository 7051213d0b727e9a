import Standby.Toml.Scalar
import Standby.Toml.Table
import Standby.Toml.Token
set_option autoImplicit false

/-!
# TOML documents

The second reading of a document: tokens become values, keys that are set, and sections, and these
become the table that the document stands for.

## Main definitions

* `Standby.Toml.value?` — the value that tokens begin with.
* `Standby.Toml.assignment?` — the key that is set, and its value.
* `Standby.Toml.sections?` — the sections of a document.
* `Standby.Toml.read?` — the table that a text stands for.

## Design

Brackets and braces may be nested `depthLimit` deep and no deeper, and a dotted key has no more
parts than that. Values are read by recursion on the depth that is left. Within one pair of
brackets, and from one line to the next, each step uses up a token, so the number of tokens bounds
the number of steps.
-/

namespace Standby.Toml

/-- The greatest number of brackets and braces that may be open at a time, and of parts of a dotted
key. -/
def depthLimit : Nat := 80

/-! ## Gaps -/

/-- Leaves out a gap. -/
def skipGap : List Token → List Token
  | .gap _ :: rest => rest
  | ts => ts

/-- Leaves out gaps and line ends. -/
def skipBlank : List Token → List Token
  | .gap _ :: rest => skipBlank rest
  | .newline :: rest => skipBlank rest
  | ts => ts

/-! ## Keys -/

/-- The characters of a key that is written without quotes. -/
def isKeyChar (c : Char) : Bool :=
  ('a' ≤ c && c ≤ 'z') || ('A' ≤ c && c ≤ 'Z') || ('0' ≤ c && c ≤ '9') || c == '_' || c == '-'

/-- One part of a dotted key. -/
def keyPart? : List Token → Option (String × List Token)
  | .bare cs :: rest => if cs.all isKeyChar then some (String.ofList cs, rest) else none
  | .quoted false s :: rest => some (s, rest)
  | _ => none

/-- A dotted key, with gaps between its parts and around it left out. At most `bound` parts are
read. -/
def keyUpTo? : Nat → List Token → Option (List String × List Token)
  | 0, _ => none
  | bound + 1, ts =>
    match keyPart? (skipGap ts) with
    | none => none
    | some (part, rest) =>
      match skipGap rest with
      | .dot :: rest => (keyUpTo? bound rest).map fun read => (part :: read.1, read.2)
      | rest => some ([part], rest)

/-- A dotted key, with gaps between its parts and around it left out. -/
def key? (ts : List Token) : Option (List String × List Token) := keyUpTo? depthLimit ts

/-! ## Scalars -/

/-- The text of the runs and dots that tokens begin with, and of the gaps that another run
follows. -/
def scalarText : List Token → List Char × List Token
  | .bare cs :: rest =>
    let read := scalarText rest
    (cs ++ read.1, read.2)
  | .dot :: rest =>
    let read := scalarText rest
    ('.' :: read.1, read.2)
  | .gap gap :: .bare cs :: rest =>
    let read := scalarText rest
    (gap ++ cs ++ read.1, read.2)
  | ts => ([], ts)

/-- The scalar that tokens begin with. -/
def scalar? (ts : List Token) : Option (Value × List Token) :=
  let (text, rest) := scalarText ts
  (Scalar.value? text).map (·, rest)

/-! ## Values -/

/-- Items separated by commas up to the token `close`, read after the opening one. Gaps and line
ends may stand around each item, and a comma after the last. At most `bound` items are read. -/
def itemsUpTo? {α : Type} (item? : List Token → Option (α × List Token)) (close : Token) :
    Nat → List Token → Option (List α × List Token)
  | 0, _ => none
  | bound + 1, ts =>
    match skipBlank ts with
    | [] => none
    | t :: rest =>
      if t = close then some ([], rest)
      else
        match item? (t :: rest) with
        | none => none
        | some (a, rest) =>
          match skipBlank rest with
          | .comma :: rest =>
            (itemsUpTo? item? close bound rest).map fun read => (a :: read.1, read.2)
          | t :: rest => if t = close then some ([a], rest) else none
          | [] => none

/-- Items separated by commas up to the token `close`, read after the opening one. -/
def items? {α : Type} (item? : List Token → Option (α × List Token)) (close : Token)
    (ts : List Token) : Option (List α × List Token) :=
  itemsUpTo? item? close (ts.length + 1) ts

/-- A key and the value that it is set to, where `value?` reads the value, and `skip` leaves out
what may stand around the sign between them. -/
def assignmentWith? (skip : List Token → List Token)
    (value? : List Token → Option (Value × List Token)) (ts : List Token) :
    Option (Assignment × List Token) :=
  match key? ts with
  | none => none
  | some (path, rest) =>
    match skip rest with
    | .equals :: rest => (value? (skip rest)).map fun read => ((path, read.1), read.2)
    | _ => none

/-- The value that tokens begin with, where `depth` more brackets or braces may be opened. -/
def valueWithin? : Nat → List Token → Option (Value × List Token)
  | _, .quoted _ s :: rest => some (.text s, rest)
  | 0, ts => scalar? ts
  | depth + 1, .openBracket :: rest =>
    (items? (valueWithin? depth) .closeBracket rest).map fun read => (.array read.1, read.2)
  | depth + 1, .openBrace :: rest =>
    match items? (assignmentWith? skipBlank (valueWithin? depth)) .closeBrace rest with
    | none => none
    | some (assignments, rest) =>
      (ofAssignments? assignments).map fun entries => (.table entries, rest)
  | _ + 1, ts => scalar? ts

/-- The value that tokens begin with. -/
def value? (ts : List Token) : Option (Value × List Token) := valueWithin? depthLimit ts

/-- The key that tokens begin with, and the value that it is set to, on one line. -/
def assignment? (ts : List Token) : Option (Assignment × List Token) :=
  assignmentWith? skipGap value? ts

/-! ## Lines -/

/-- The header that tokens begin with, and what follows it. -/
def header? : List Token → Option (Header × List Token)
  | .openBracket :: .openBracket :: rest =>
    match key? rest with
    | some (path, .closeBracket :: .closeBracket :: rest) => some (.element path, rest)
    | _ => none
  | .openBracket :: rest =>
    match key? rest with
    | some (path, .closeBracket :: rest) => some (.table path, rest)
    | _ => none
  | _ => none

/-- What follows the end of a line. -/
def endLine? (ts : List Token) : Option (List Token) :=
  match skipGap ts with
  | [] => some []
  | .newline :: rest => some rest
  | _ => none

/-- A line that says something. -/
inductive Line where
  | header (h : Header)
  | assignment (a : Assignment)

/-- The line that tokens begin with, up to its end. -/
def line? (ts : List Token) : Option (Line × List Token) :=
  match ts with
  | .openBracket :: _ =>
    (header? ts).bind fun read => (endLine? read.2).map (.header read.1, ·)
  | _ => (assignment? ts).bind fun read => (endLine? read.2).map (.assignment read.1, ·)

/-- The lines that say something, at most `bound` of them. -/
def linesUpTo? : Nat → List Token → Option (List Line)
  | 0, _ => none
  | bound + 1, ts =>
    match skipBlank ts with
    | [] => some []
    | ts =>
      match line? ts with
      | none => none
      | some (line, rest) => (linesUpTo? bound rest).map (line :: ·)

/-- The lines that say something. -/
def lines? (ts : List Token) : Option (List Line) := linesUpTo? (ts.length + 1) ts

/-! ## Documents -/

/-- The keys that are set before the next header, and the sections from there on. -/
def sectionsOf : List Line → List Assignment × List Section
  | [] => ([], [])
  | .assignment a :: rest =>
    let read := sectionsOf rest
    (a :: read.1, read.2)
  | .header h :: rest =>
    let read := sectionsOf rest
    ([], ⟨h, read.1⟩ :: read.2)

/-- The sections of a document, first the keys that stand before all headers. -/
def sections? (ts : List Token) : Option (List Section) :=
  (lines? ts).map fun lines =>
    let read := sectionsOf lines
    ⟨.document, read.1⟩ :: read.2

/-- Leaves out a byte order mark at the beginning of a text. -/
def dropMark : List Char → List Char
  | c :: rest => if c = '\ufeff' then rest else c :: rest
  | [] => []

/-- The table that a text stands for, or nothing if it is not a document. -/
def read? (text : String) : Option Entries := do
  let tokens ← Token.all? (dropMark text.toList)
  ofSections? (← sections? tokens)

end Standby.Toml
