import Standby.Catalog.Basic
set_option autoImplicit false

/-!
# The current catalog of a thread

Each thread has at most one current catalog. Entering a catalog makes it current and gives a guard
that remembers what was current before; the guard puts that back when it is released.

## Main definitions

* `Standby.Context` — what is current on a thread.
* `Standby.Guard` — what an entered catalog displaced.
* `Standby.Context.enter`, `Standby.Guard.release` — make a catalog current, and put back.
* `Standby.Context.resolve` — turn a name into a type through the current catalog.
-/

namespace Standby

/-- What is current on a thread: nothing at first, else the catalog entered there. -/
abbrev Context := Option (Shared Catalog)

/-- The other side of an entered catalog: what was current when it was entered. -/
structure Guard where
  displaced : Context
  deriving Repr, DecidableEq, Inhabited

namespace Context

/-- Makes a catalog current. The guard remembers what it displaces. -/
def enter (context : Context) (c : Shared Catalog) : Guard × Context := (⟨context⟩, some c)

/-- Turns a name into a type through the current catalog, and through nothing else. -/
def resolve (context : Context) (name : String) : Except NotFound TypeHandle :=
  match context with
  | none => .error (.noContext name)
  | some c => c.value.resolve name

end Context

/-- What is current after the guard is released, whatever was current before. -/
def Guard.release (g : Guard) : Context := g.displaced

end Standby
