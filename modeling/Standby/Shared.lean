set_option autoImplicit false

/-!
# Shared values

A value that several holders refer to, with an identity of its own: two handles refer to the same
thing when their marks agree, whatever the value looks like.

## Main definitions

* `Standby.Shared` — a value together with the mark that tells it from all others.
* `Standby.Shared.same` — whether two handles refer to one and the same value.
-/

namespace Standby

/-- A value with an identity: `mark` tells it from every other shared value of its kind. -/
structure Shared (α : Type) where
  mark : Nat
  value : α
  deriving Repr, DecidableEq, Inhabited

namespace Shared

variable {α : Type}

/-- Two handles are the same when their marks are; their values are not looked at. -/
def same (a b : Shared α) : Bool := a.mark == b.mark

end Shared

end Standby
