import Standby.Manifest.Basic
import Standby.Manifest.Error
import Standby.Text.Blank
set_option autoImplicit false

/-!
# The names of a manifest

Each declared name must hold something other than white space, and no name may be declared twice.
Names are compared character by character.

## Main definitions

* `Standby.Manifest.checkNames` — the first declaration whose name is refused, if there is one.
-/

namespace Standby.Manifest

/-- Checks the names of declarations in order, where `seen` are the names declared before. -/
def checkFrom (seen : List String) : List Declaration → Except ManifestError Unit
  | [] => .ok ()
  | d :: rest =>
    if Text.isBlank d.name then .error .emptyName
    else if seen.contains d.name then .error (.duplicateName d.name)
    else checkFrom (d.name :: seen) rest

/-- Checks the names of all declarations, in order. -/
def checkNames (m : Manifest) : Except ManifestError Unit := checkFrom [] m.components

end Standby.Manifest
