import Standby.Decimal.Shortest
import Standby.Text.Quoted
import Standby.Toml.Value
set_option autoImplicit false

/-!
# Failures of reading a manifest

## Main definitions

* `Standby.SchemaError` — a document that is not a manifest: what is wrong first.
* `Standby.ManifestError` — everything that can be wrong with a manifest.
* `message` — the text of a failure.

## Design

Which rule a text that is no document breaks is not part of the answer, so that failure has no
message.
-/

namespace Standby

/-- What a place of a manifest must hold. -/
inductive Expectation where
  | components
  | declaration
  | name
  | start
  deriving Repr, DecidableEq, Inhabited

namespace Expectation

/-- What a place must hold, in words. -/
def text : Expectation → String
  | components => "a sequence"
  | declaration => "struct ComponentDecl"
  | name => "a string"
  | start => "a boolean"

end Expectation

/-- The values that integers of at most 64 bits take, with or without a sign. -/
def isWord (n : Int) : Bool := -0x8000000000000000 ≤ n && n ≤ 0xFFFFFFFFFFFFFFFF

/-- The values that integers of 128 bits with a sign take. -/
def isSignedDoubleWord (n : Int) : Bool :=
  -0x80000000000000000000000000000000 ≤ n && n ≤ 0x7FFFFFFFFFFFFFFFFFFFFFFFFFFFFFFF

/-- What is found where something else is expected, in words. The kind of an integer is told only if
it is beyond 64 bits. -/
def describe : Toml.Value → String
  | .text s => s!"string {Text.quoted s}"
  | .integer n =>
    if isWord n then s!"integer `{n}`"
    else if isSignedDoubleWord n then s!"integer `{n}` as i128"
    else s!"integer `{n}` as u128"
  | .float x => s!"floating point `{x.text}`"
  | .unreadable => "number"
  | .boolean b => s!"boolean `{b}`"
  | .array _ => "sequence"
  | .moment | .table _ => "map"

/-- The first thing that is wrong with a document that is not a manifest. -/
inductive SchemaError where
  /-- The document has a key that manifests do not have. -/
  | unknownKey (key : String)
  /-- A declaration has a key that declarations do not have. -/
  | unknownField (key : String)
  /-- A declaration does not say its name. -/
  | missingName
  /-- A declaration is written as an array and the array is empty. -/
  | emptyDeclaration
  /-- A value stands where something else is expected. -/
  | unexpected (found : Toml.Value) (expected : Expectation)

namespace SchemaError

/-- The text of what is wrong. -/
def message : SchemaError → String
  | unknownKey key => s!"unknown field `{key}`, expected `component`"
  | unknownField key => s!"unknown field `{key}`, expected `name` or `start`"
  | missingName => "missing field `name`"
  | emptyDeclaration => "invalid length 0, expected struct ComponentDecl with 2 elements"
  | unexpected found expected => s!"invalid type: {describe found}, expected {expected.text}"

end SchemaError

/-- Why a file cannot be read as text. -/
inductive ReadFailure where
  | noSuchFile
  | isDirectory
  | nameTooLong
  | notText
  | zeroInPath
  deriving Repr, DecidableEq, Inhabited

namespace ReadFailure

/-- The reason in words. -/
def reason : ReadFailure → String
  | noSuchFile => "No such file or directory (os error 2)"
  | isDirectory => "Is a directory (os error 21)"
  | nameTooLong => "File name too long (os error 36)"
  | notText => "stream did not contain valid UTF-8"
  | zeroInPath => "file name contained an unexpected NUL byte"

end ReadFailure

/-- Everything that can be wrong with a manifest.

They come up in this order: the file is read, then the text, then the document is taken for a
manifest, and the names are checked last. -/
inductive ManifestError where
  /-- The file at the path cannot be read. -/
  | unreadable (path : String) (failure : ReadFailure)
  /-- The text is no document, or holds a number that cannot be read where one looks at it. -/
  | notADocument
  /-- The document is not a manifest. -/
  | schema (e : SchemaError)
  /-- A name is declared more than once. -/
  | duplicateName (name : String)
  /-- A declared name is blank. -/
  | emptyName

namespace ManifestError

/-- What is wrong with a text whose document is not a manifest. A number that cannot be read, where
one looks at it, makes the text no document. -/
def ofSchema : SchemaError → ManifestError
  | .unexpected .unreadable _ => notADocument
  | e => schema e

/-- The text of what is wrong, where it has one. -/
def message? : ManifestError → Option String
  | unreadable path failure => some s!"failed to read manifest {path}: {failure.reason}"
  | notADocument => none
  | schema e => some e.message
  | duplicateName name => some s!"component `{name}` is declared more than once"
  | emptyName => some "component name must not be empty"

end ManifestError

end Standby
