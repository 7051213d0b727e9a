import Standby.Catalog.Context
import Standby.Proxy.Operation
import Standby.Registry.Basic
set_option autoImplicit false

/-!
# The world

All that the library's operations act on: the proxies, the registries that hold them, the current
catalog of the calling thread, the installed registry, the collaborators' own state, and a journal
of what crossed the border between the library and its collaborators.

## Main definitions

* `Standby.Proxy` — a proxy with its collaborators and its state.
* `Standby.Event` — an entry of the journal.
* `Standby.World` — everything that operations act on.
* `Standby.World.establish`, `Standby.World.obtain`, `Standby.World.remove`,
  `Standby.World.install` — the steps that run no code of a collaborator's.

## Design

A proxy is never deleted here, since clients may hold on to it: a registry forgets it, the world
does not. The identity of a proxy is its place among all proxies ever made, so two registrations of
a name are told apart.

The world does not know who else holds a proxy. A proxy that a registry has forgotten and that
nobody else holds is destroyed together with the product that it holds; this runs no operation on
it, nobody is left who could observe it, and the journal does not tell of it. What the journal does
tell is when a registry forgets a proxy, and a proxy does not come to its end before that. So
whatever is said of a proxy in a later world is said of one that somebody still holds.

The collaborators' state `σ` is the clients' business. The library hands it through and never looks
at it.
-/

namespace Standby

/-- A proxy: the name it stands for, its collaborators, its state, and whether an operation is in
progress on it. -/
structure Proxy where
  name : String
  resolver : Resolver
  factory : Factory
  state : Proxy.State := {}
  busy : Bool := false

/-- What the journal records, at the moment it happens. -/
inductive Event where
  /-- A new proxy was registered under a name. -/
  | registered (registry : RegistryId) (name : String) (proxy : ProxyId)
  /-- A sweep of the registry is about to stop a proxy. -/
  | swept (registry : RegistryId) (proxy : ProxyId)
  /-- A sweep of the registry removed the entries of these proxies. -/
  | removed (registry : RegistryId) (proxies : List ProxyId)
  /-- An operation on a proxy began. -/
  | began (proxy : ProxyId) (operation : Proxy.Operation)
  /-- A proxy made a call of a collaborator. -/
  | asked (proxy : ProxyId) (request : Request)
  /-- The call of a collaborator gave its answer. -/
  | answered (proxy : ProxyId) (exchange : Dialogue.Exchange Request Request.Answer)
  /-- An operation on a proxy ended. -/
  | ended (proxy : ProxyId) (operation : Proxy.Operation) (result : Except ProxyError Unit)

/-- Everything that operations act on. -/
structure World (σ : Type) where
  /-- All proxies ever made, in the order in which they were made. -/
  proxies : List Proxy := []
  /-- All registries ever made, in the order in which they were made. -/
  registries : List Registry := []
  /-- What is current on the calling thread. -/
  context : Context := none
  /-- The registry installed for everyone, once one is. -/
  installed : Option RegistryId := none
  /-- The collaborators' own state. -/
  host : σ
  /-- What happened so far, latest first. -/
  journal : List Event := []

/-- Why a run ends without an answer. -/
inductive Halt where
  /-- An operation was called on a proxy from within an operation on that very proxy, which waits
  for itself forever. -/
  | reentered (proxy : ProxyId)
  /-- An identity was used that no proxy or registry of this world has. -/
  | dangling
  /-- The bound on nested operations and passes was reached. -/
  | exhausted
  deriving Repr, DecidableEq, Inhabited

namespace World

variable {σ : Type}

/-- The proxy with an identity. -/
def proxy? (w : World σ) (p : ProxyId) : Option Proxy := w.proxies[p.index]?

/-- The registry with an identity. -/
def registry? (w : World σ) (r : RegistryId) : Option Registry := w.registries[r.index]?

/-- Puts a proxy in the place of the one with the same identity. -/
def setProxy (w : World σ) (p : ProxyId) (proxy : Proxy) : World σ :=
  { w with proxies := w.proxies.set p.index proxy }

/-- Puts a registry in the place of the one with the same identity. -/
def setRegistry (w : World σ) (r : RegistryId) (registry : Registry) : World σ :=
  { w with registries := w.registries.set r.index registry }

/-- Adds an event to the journal. -/
def record (w : World σ) (e : Event) : World σ := { w with journal := e :: w.journal }

/-- A new registry with these collaborators and no entry. -/
def establish (w : World σ) (resolver : Resolver) (factory : Factory) : RegistryId × World σ :=
  (⟨w.registries.length⟩,
    { w with registries := w.registries ++ [⟨resolver, factory, []⟩] })

/-- The proxy registered under a name. A name that is not registered gets a new proxy, made with the
registry's collaborators and registered after all others. -/
def obtain (w : World σ) (r : RegistryId) (name : String) : Except Halt (ProxyId × World σ) :=
  match w.registry? r with
  | none => .error .dangling
  | some registry =>
    match registry.find? name with
    | some p => .ok (p, w)
    | none =>
      let p : ProxyId := ⟨w.proxies.length⟩
      let proxy : Proxy := { name, resolver := registry.resolver, factory := registry.factory }
      let w := { w with proxies := w.proxies ++ [proxy] }
      .ok (p, (w.setRegistry r (registry.insert name p)).record (.registered r name p))

/-- Removes the entries of these proxies from a registry. The proxies themselves stay for those who
hold them, and in the world; those that nobody else holds come to their end here, and of this
nothing is recorded but that the registry forgot them. -/
def remove (w : World σ) (r : RegistryId) (gone : List ProxyId) : World σ :=
  match w.registry? r with
  | none => w
  | some registry => (w.setRegistry r (registry.remove gone)).record (.removed r gone)

/-- Installs a registry for everyone, unless one is installed already. -/
def install (w : World σ) (r : RegistryId) : Bool × World σ :=
  match w.installed with
  | some _ => (false, w)
  | none => (true, { w with installed := some r })

end World

end Standby
