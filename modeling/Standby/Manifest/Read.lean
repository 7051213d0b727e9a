import Standby.Manifest.Names
import Standby.Manifest.Schema
import Standby.Toml.Document
set_option autoImplicit false

/-!
# Reading manifests

## Main definitions

* `Standby.Manifest.read` — the manifest that a text stands for.
* `Standby.FileEntry` — what is found under a path.
* `Standby.Manifest.load` — the manifest in a file.

## Design

A problem of the text comes before any problem of the document, and that before any problem of the
names, wherever they stand.
-/

namespace Standby

namespace Manifest

/-- The manifest that a text stands for.

Three steps follow one another, and the first failure is reported: the text is parsed, the document
is taken for declarations, and their names are checked. -/
def read (text : String) : Except ManifestError Manifest :=
  match Toml.read? text with
  | none => .error .notADocument
  | some document =>
    match ofEntries document with
    | .error e => .error (.ofSchema e)
    | .ok m =>
      match m.checkNames with
      | .error e => .error e
      | .ok () => .ok m

end Manifest

/-! ## Files -/

/-- What is found under a path. -/
inductive FileEntry where
  | file (content : ByteArray)
  | directory

/-- The longest name that a directory can hold, in bytes. -/
def longestName : Nat := 255

/-- The longest path that can be looked up, in bytes. -/
def longestPath : Nat := 4095

/-- Why a path under which nothing was put leads to no file, starting from a directory that is
empty. The path of a directory that is there leads to a directory; the first other name on it is
refused if it is too long, and missing if not. -/
def absence (path : String) : ReadFailure :=
  if path.isEmpty then .noSuchFile
  else if longestPath < path.utf8ByteSize then .nameTooLong
  else
    match (path.splitOn "/").find? (fun name => name != "" && name != "." && name != "..") with
    | none => .isDirectory
    | some name => if longestName < name.utf8ByteSize then .nameTooLong else .noSuchFile

/-- The text of a file, or why there is none. -/
def readText (path : String) (entry : Option FileEntry) : Except ReadFailure String :=
  if path.contains '\x00' then .error .zeroInPath
  else
    match entry with
    | none => .error (absence path)
    | some .directory => .error .isDirectory
    | some (.file content) =>
      match String.fromUTF8? content with
      | some text => .ok text
      | none => .error .notText

/-- The manifest in the file at a path, where `entry` is what is found there. -/
def Manifest.load (path : String) (entry : Option FileEntry) : Except ManifestError Manifest :=
  match readText path entry with
  | .error failure => .error (.unreadable path failure)
  | .ok text => Manifest.read text

end Standby
