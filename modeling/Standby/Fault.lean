set_option autoImplicit false

/-!
# Faults

What foreign code (a constructor, a component) reports when it fails: a message, and the messages
of the causes behind it, outermost first.

## Main definitions

* `Standby.Fault` — a message and its causes.
* `Standby.Fault.chain` — all messages of a fault, its own first.
-/

namespace Standby

/-- A failure of foreign code: its message, and the messages of its causes, outermost first. -/
structure Fault where
  message : String
  causes : List String := []
  deriving Repr, DecidableEq, Inhabited

namespace Fault

/-- All messages of a fault, from its own to its innermost cause. -/
def chain (f : Fault) : List String := f.message :: f.causes

/-- A fault with a message and no cause. -/
def plain (message : String) : Fault := ⟨message, []⟩

end Fault

end Standby
