import Standby.World.Activity
set_option autoImplicit false

/-!
# Hosts

A host is the code around the library: the constructors of the component types, the products that
they build, and the resolvers and factories of the clients. Each may do anything that a client may
do, so each call of such code is an activity.

## Main definitions

* `Standby.Host` — the code of all collaborators.
* `Standby.Host.serve` — the activity that answers a request of a proxy.
-/

namespace Standby

/-- The code of all collaborators, with `σ` for the state that they share. -/
structure Host (σ : Type) where
  /-- The client's resolver with this reference, asked for a name. -/
  resolve : Nat → String → Activity σ (Except NotFound TypeHandle)
  /-- The client's factory with this reference, asked for a product. -/
  create : Nat → TypeHandle → Activity σ (Except ConstructionError Product)
  /-- A constructor, run once. -/
  construct : Constructor → Activity σ (Except Fault Product)
  /-- A product, asked whether it can be started and stopped. -/
  capability : Product → Activity σ Bool
  /-- A product's own start. -/
  start : Product → Activity σ (Except LifecycleError Unit)
  /-- A product's own stop. -/
  stop : Product → Activity σ (Except LifecycleError Unit)

namespace Host

variable {σ : Type}

/-- The type that a resolver gives for a name. -/
def resolveWith (H : Host σ) (resolver : Resolver) (name : String) :
    Activity σ (Except NotFound TypeHandle) :=
  match resolver with
  | .ambient => do pure (Context.resolve (← Activity.current) name)
  | .catalog c => pure (c.resolve name)
  | .custom reference => H.resolve reference name

/-- The product that a factory gives for a type. -/
def createWith (H : Host σ) (factory : Factory) (type : TypeHandle) :
    Activity σ (Except ConstructionError Product) :=
  match factory with
  | .direct => Activity.build type
  | .custom reference => H.create reference type

/-- The activity that answers a request of a proxy with these collaborators. -/
def serve (H : Host σ) (resolver : Resolver) (factory : Factory) :
    (q : Request) → Activity σ q.Answer
  | .resolve name => H.resolveWith resolver name
  | .create type => H.createWith factory type
  | .capability product => H.capability product
  | .start product => H.start product
  | .stop product => H.stop product

end Host

end Standby
