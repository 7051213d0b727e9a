set_option autoImplicit false

/-!
# Manifests

A manifest declares the components that a program registers when it starts, and which of them are to
run.

## Main definitions

* `Standby.Declaration` — a name, and whether the component is to be started.
* `Standby.Manifest` — the declarations in order.
-/

namespace Standby

/-- One declared component. -/
structure Declaration where
  name : String
  start : Bool := false
  deriving Repr, DecidableEq, Inhabited

/-- The declared components, in order. -/
structure Manifest where
  components : List Declaration := []
  deriving Repr, DecidableEq, Inhabited

end Standby
