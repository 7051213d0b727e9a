import Standby.World.Basic
set_option autoImplicit false

/-!
# Activities

What clients do: a computation that calls the library's operations, keeps a state of its own and
starts threads that it waits for. What a collaborator does while it is called is an activity too, so
an operation may be called from within another.

## Main definitions

* `Standby.Call`, `Standby.Call.Answer` — the calls of the library, and what they give.
* `Standby.Activity` — a computation over these calls.
* `Standby.Activity.build` — a product from a type's own constructor.
* `Standby.Activity.scope` — a part of an activity that runs with a catalog entered.
* `Standby.Activity.untilFailure` — one after the other, up to the first that fails.
* `Standby.Activity.run` — an activity carried out in a world, given how calls are.
-/

namespace Standby

/-! ## Calls -/

/-- A call of the library. -/
inductive Call where
  /-- Makes a registry. -/
  | establish (resolver : Resolver) (factory : Factory)
  /-- The proxy of a name, registered if need be. -/
  | obtain (registry : RegistryId) (name : String)
  /-- The entries of a registry, in the order of registration. -/
  | entries (registry : RegistryId)
  /-- An operation on a proxy. -/
  | operate (proxy : ProxyId) (operation : Proxy.Operation)
  /-- The name that a proxy stands for. -/
  | nameOf (proxy : ProxyId)
  /-- The state of a proxy. -/
  | observe (proxy : ProxyId)
  /-- Stops and forgets all proxies of a registry. -/
  | reset (registry : RegistryId)
  /-- Installs a registry for everyone. -/
  | install (registry : RegistryId)
  /-- The registry installed for everyone. -/
  | installed
  /-- Runs the constructor of a type once. -/
  | construct (type : TypeHandle)
  /-- Makes a catalog current on this thread. -/
  | enter (catalog : Shared Catalog)
  /-- Puts back what a guard remembers. -/
  | leave (guard : Guard)
  /-- What is current on this thread. -/
  | current
  deriving Repr, DecidableEq

/-- What a call gives back. -/
def Call.Answer : Call → Type
  | .establish _ _ => RegistryId
  | .obtain _ _ => ProxyId
  | .entries _ => List Entry
  | .operate _ _ => Except ProxyError Unit
  | .nameOf _ => String
  | .observe _ => Proxy.State
  | .reset _ => Unit
  | .install _ => Bool
  | .installed => Option RegistryId
  | .construct _ => Except Fault Product
  | .enter _ => Guard
  | .leave _ => Unit
  | .current => Context

/-! ## Activities -/

/-- A computation of a client with a state of its own. -/
inductive Activity (σ : Type) : Type → Type 1 where
  /-- Ends with a result. -/
  | done {α : Type} (a : α) : Activity σ α
  /-- Reads the client's state. -/
  | get {α : Type} (next : σ → Activity σ α) : Activity σ α
  /-- Replaces the client's state. -/
  | put {α : Type} (s : σ) (next : Activity σ α) : Activity σ α
  /-- Calls the library. -/
  | call {α : Type} (c : Call) (next : c.Answer → Activity σ α) : Activity σ α
  /-- Runs the body on a new thread and waits for it. -/
  | thread {α β : Type} (body : Activity σ β) (next : β → Activity σ α) : Activity σ α

namespace Activity

variable {σ α β ε : Type}

/-- Goes on with the result of an activity. -/
def bind : {α : Type} → Activity σ α → (α → Activity σ β) → Activity σ β
  | _, done a, f => f a
  | _, get next, f => get (fun s => (next s).bind f)
  | _, put s next, f => put s (next.bind f)
  | _, call c next, f => call c (fun answer => (next answer).bind f)
  | _, thread body next, f => thread body (fun b => (next b).bind f)

/-- Activities are put together one after the other, so that what is done later may depend on
earlier results. -/
instance : Monad (Activity σ) where
  pure := done
  bind := bind

/-- The client's state. -/
def read : Activity σ σ := get done

/-- Replaces the client's state by what `f` makes of it, and gives the other result of `f`. -/
def update (f : σ → α × σ) : Activity σ α := get (fun s => put (f s).2 (done (f s).1))

/-- Replaces the client's state by what `f` makes of it. -/
def modify (f : σ → σ) : Activity σ Unit := get (fun s => put (f s) (done ()))

/-- Runs the body on a new thread, waits for it, and gives its result. -/
def onThread (body : Activity σ α) : Activity σ α := thread body done

/-- A new registry with these collaborators. -/
def establish (resolver : Resolver) (factory : Factory) : Activity σ RegistryId :=
  call (.establish resolver factory) done

/-- The proxy of a name, registered if need be. -/
def obtain (r : RegistryId) (name : String) : Activity σ ProxyId := call (.obtain r name) done

/-- The entries of a registry, in the order of registration. -/
def entries (r : RegistryId) : Activity σ (List Entry) := call (.entries r) done

/-- An operation on a proxy. -/
def operate (p : ProxyId) (operation : Proxy.Operation) : Activity σ (Except ProxyError Unit) :=
  call (.operate p operation) done

/-- The name that a proxy stands for. -/
def nameOf (p : ProxyId) : Activity σ String := call (.nameOf p) done

/-- The state of a proxy. -/
def observe (p : ProxyId) : Activity σ Proxy.State := call (.observe p) done

/-- Stops and forgets all proxies of a registry. -/
def reset (r : RegistryId) : Activity σ Unit := call (.reset r) done

/-- Installs a registry for everyone, and says whether it is the one that is installed now. -/
def install (r : RegistryId) : Activity σ Bool := call (.install r) done

/-- The registry installed for everyone. -/
def installed : Activity σ (Option RegistryId) := call .installed done

/-- Runs the constructor of a type once. -/
def construct (type : TypeHandle) : Activity σ (Except Fault Product) := call (.construct type) done

/-- Makes a catalog current on this thread. -/
def enter (c : Shared Catalog) : Activity σ Guard := call (.enter c) done

/-- Puts back what a guard remembers. -/
def leave (g : Guard) : Activity σ Unit := call (.leave g) done

/-- What is current on this thread. -/
def current : Activity σ Context := call .current done

/-- A product from the type's own constructor. What the constructor reports is wrapped together with
the name of the type. -/
def build (type : TypeHandle) : Activity σ (Except ConstructionError Product) := do
  match ← construct type with
  | .ok product => pure (.ok product)
  | .error fault => pure (.error ⟨type.name, fault⟩)

/-- Runs the body with a catalog entered, and puts back what was current before. -/
def scope (c : Shared Catalog) (body : Activity σ α) : Activity σ α := do
  let g ← enter c
  let a ← body
  leave g
  pure a

/-- Carries out one activity after the other, up to the first that fails, and gives its failure. -/
def untilFailure : List (Activity σ (Except ε Unit)) → Activity σ (Except ε Unit)
  | [] => pure (.ok ())
  | first :: rest => do
    match ← first with
    | .ok () => untilFailure rest
    | .error e => pure (.error e)

/-! ## Carrying out -/

/-- How calls are carried out in a world. -/
abbrev Performance (σ : Type) := (c : Call) → World σ → Except Halt (c.Answer × World σ)

/-- Carries out an activity. A new thread starts with nothing current, and what is current on this
thread waits for it unchanged. -/
def run (perform : Performance σ) : {α : Type} → Activity σ α → World σ → Except Halt (α × World σ)
  | _, done a, w => .ok (a, w)
  | _, get next, w => (next w.host).run perform w
  | _, put s next, w => next.run perform { w with host := s }
  | _, call c next, w =>
    match perform c w with
    | .error h => .error h
    | .ok (answer, w) => (next answer).run perform w
  | _, thread body next, w =>
    match body.run perform { w with context := none } with
    | .error h => .error h
    | .ok (b, w') => (next b).run perform { w' with context := w.context }

end Activity

end Standby
