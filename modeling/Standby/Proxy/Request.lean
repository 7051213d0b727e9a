import Standby.Catalog.Basic
import Standby.Dialogue
set_option autoImplicit false

/-!
# What a proxy asks of its collaborators

A proxy drives code that is not its own: a resolver, a factory, and the products that the factory
builds. Each call of such code is a request with an answer.

## Main definitions

* `Standby.Product` — a component built by a factory, known by its identity alone.
* `Standby.Request`, `Standby.Request.Answer` — the calls that a proxy makes, and what they give.
* `Standby.Talk` — a computation over these requests.
-/

namespace Standby

/-- A component built by a factory. A proxy knows nothing of it but which one it is. -/
structure Product where
  mark : Nat
  deriving Repr, DecidableEq, Inhabited

/-- A call that a proxy makes.

These are all the calls that an operation makes. What is behind them is the business of the proxy's
resolver, of its factory and of the products. -/
inductive Request where
  /-- Asks the resolver for the type behind a name. -/
  | resolve (name : String)
  /-- Asks the factory for a product of a type. -/
  | create (type : TypeHandle)
  /-- Asks a product whether it can be started and stopped. -/
  | capability (product : Product)
  /-- Starts a product. -/
  | start (product : Product)
  /-- Stops a product. -/
  | stop (product : Product)
  deriving Repr, DecidableEq

/-- What a call gives back. -/
def Request.Answer : Request → Type
  | .resolve _ => Except NotFound TypeHandle
  | .create _ => Except ConstructionError Product
  | .capability _ => Bool
  | .start _ | .stop _ => Except LifecycleError Unit

/-- A computation that makes calls of a proxy's collaborators. -/
abbrev Talk := Dialogue Request Request.Answer

namespace Talk

/-- The type that the resolver gives for a name. -/
def resolve (name : String) : Talk (Except NotFound TypeHandle) :=
  Dialogue.query (Request.resolve name)

/-- The product that the factory gives for a type. -/
def create (type : TypeHandle) : Talk (Except ConstructionError Product) :=
  Dialogue.query (Request.create type)

/-- Whether a product can be started and stopped, as it says now. -/
def capability (product : Product) : Talk Bool := Dialogue.query (Request.capability product)

/-- The outcome of a product's own start. -/
def start (product : Product) : Talk (Except LifecycleError Unit) :=
  Dialogue.query (Request.start product)

/-- The outcome of a product's own stop. -/
def stop (product : Product) : Talk (Except LifecycleError Unit) :=
  Dialogue.query (Request.stop product)

end Talk

end Standby
