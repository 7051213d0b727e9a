import Standby.Manifest.Basic
import Standby.Proxy.Operation
set_option autoImplicit false

/-!
# Scripts

A script describes a run of the library: component types that behave as told, resolvers and
factories that answer as told, and the steps that clients take. A component may take steps of its
own while it is built, started or stopped.

## Main definitions

* `Standby.Scenario.Failure` — a failure that a component is told to report.
* `Standby.Scenario.TypeScript`, `Standby.Scenario.CatalogPlan`, `Standby.Scenario.RegistryPlan` —
  how a scripted type behaves, and how catalogs and registries are put together.
* `Standby.Scenario.Step` — one step.
* `Standby.Scenario.countSteps` — how many steps there are, those within others included.

## Design

Steps name things by identifiers of their own, separately for each kind of thing. What an identifier
stands for is looked up when the step is taken, and in the tables of scripted resolvers and
factories when the table is read.
-/

namespace Standby.Scenario

/-! ## Outcomes -/

/-- A failure that a component is told to report. -/
inductive Failure where
  /-- A message with nothing behind it. -/
  | plain (message : String)
  /-- A message with causes behind it. -/
  | caused (fault : Fault)
  deriving Repr, DecidableEq, Inhabited

namespace Failure

/-- The failure as a constructor reports it. -/
def fault : Failure → Fault
  | plain message => .plain message
  | caused fault => fault

/-- The failure as a start or a stop reports it. -/
def report : Failure → LifecycleError
  | plain message => .ofMessage message
  | caused fault => .ofFault fault

end Failure

/-- The outcome of a call that was preceded by `count` calls: each call takes the next of the list,
the last of the list serves all later calls, and an empty list is success. -/
def outcome {α : Type} (outcomes : List (Option α)) (count : Nat) : Option α :=
  match outcomes[count]? with
  | some o => o
  | none => outcomes.getLast?.join

/-- What a scripted product shows to observers. -/
inductive ViewKind where
  | stats
  | text
  deriving Repr, DecidableEq, Inhabited

/-- How the products of a scripted type behave, where `S` are the steps that they may take. -/
structure TypeScript (S : Type) where
  construct : List (Option Failure) := []
  start : List (Option Failure) := []
  stop : List (Option Failure) := []
  onConstruct : List (List S) := []
  onStart : List (List S) := []
  onStop : List (List S) := []
  /-- How often a product says that it can be driven, before it denies it; without a limit
  always. -/
  capability : Option Nat := none
  view : Option ViewKind := none
  /-- A plain product can never be driven and shows nothing. -/
  plain : Bool := false
  deriving Inhabited

/-! ## Catalogs, resolvers and registries -/

/-- How a catalog is put together. -/
structure CatalogPlan where
  /-- Whether it starts out with the types that are defined ahead of time. -/
  fromDefinitions : Bool := false
  types : List String := []
  parents : List String := []
  register : List String := []
  deriving Repr, DecidableEq, Inhabited

/-- What a scripted resolver has under a name. -/
inductive TableEntry where
  /-- The type that the identifier stands for when the resolver is asked. -/
  | type (id : String)
  | fails (e : NotFound)
  deriving Repr, DecidableEq, Inhabited

/-- The resolver of a registry. -/
inductive ResolverChoice where
  | ambient
  | scripted (id : String)
  | catalog (plan : CatalogPlan)
  deriving Repr, DecidableEq, Inhabited

/-- What a scripted factory does at a call that fails. -/
structure FactoryFailure where
  /-- The type name that it blames, if not the type that it was asked for. -/
  typeName : Option String := none
  failure : Failure
  deriving Repr, DecidableEq, Inhabited

/-- The factory of a registry. -/
inductive FactoryChoice where
  | direct
  /-- Fails as told, and else builds the type that `swap` names for the type it is asked for, as it
  stands when the factory is asked. -/
  | scripted (outcomes : List (Option FactoryFailure)) (swap : List (String × String))
  deriving Repr, DecidableEq, Inhabited

/-- How a registry is put together. -/
structure RegistryPlan where
  resolver : ResolverChoice := .ambient
  factory : FactoryChoice := .direct
  deriving Repr, DecidableEq, Inhabited

/-! ## Steps -/

/-- The products that definitions made ahead of time build. -/
inductive DefinedProduct where
  | exporter
  | inert
  | broken
  deriving Repr, DecidableEq, Inhabited

/-- A proxy that a step is about. -/
inductive ProxyRef where
  /-- One that was kept earlier. -/
  | kept (id : String)
  /-- The one that a registry has for a name. -/
  | named (registry name : String)
  deriving Repr, DecidableEq, Inhabited

/-- A type that a step builds a product of. -/
inductive TypeRef where
  | kept (id : String)
  /-- The one that the current catalog has for a name. -/
  | named (name : String)
  deriving Repr, DecidableEq, Inhabited

/-- The manifest that a step applies. -/
inductive ManifestSource where
  | text (toml : String)
  | declared (m : Manifest)
  deriving Repr, DecidableEq, Inhabited

/-- What a step describes in record notation. -/
inductive Subject where
  | registry (id : String)
  | proxy (p : ProxyRef)
  | lastError (p : ProxyRef)
  | status (p : ProxyRef)
  | handle (id : String)
  | catalog (id : String)
  | type (id : String)
  deriving Repr, DecidableEq, Inhabited

/-- How an observer wants to see an instance. -/
inductive ViewRequest where
  | stats
  | text
  /-- The component itself, which is never shown. -/
  | self
  deriving Repr, DecidableEq, Inhabited

/-- One step of a script. -/
inductive Step where
  | defineType (id name : String) (script : TypeScript Step)
  | declareType (id name : String) (product : DefinedProduct)
  | makeCatalog (id : String) (plan : CatalogPlan)
  | makeResolver (id : String) (table : List (String × TableEntry))
    (onResolve : List (String × List (List Step)))
  | setEntry (resolver name : String) (entry : Option TableEntry)
  | makeRegistry (id : String) (plan : RegistryPlan)
  | lookup (catalog name : String)
  | resolveType (name : String) (catalog : Option String)
  | build (type : TypeRef) (raw : Bool)
  | sameType (a b : String)
  | current
  | enter (catalog guard : String)
  | leave (guard : String)
  | scope (catalog : String) (steps : List Step)
  | thread (steps : List Step)
  | install (id : String) (plan : RegistryPlan)
  | installed (keep : Option String)
  | obtain (registry name : String) (keep : Option String)
  | find (registry name : String) (keep : Option String)
  | contains (registry name : String)
  | names (registry : String)
  | size (registry : String)
  | snapshots (registry : String)
  | resolveAll (registry : String)
  | reset (registry : String)
  | apply (registry : String) (source : ManifestSource)
  | operate (proxy : ProxyRef) (operation : Proxy.Operation)
  | inspect (proxy : ProxyRef)
  | liveInstance (proxy : ProxyRef) (keep : Option String)
  | view (id : String) (kind : ViewRequest)
  | sameInstance (a b : String)
  | describe (subject : Subject) (pretty : Bool)
  deriving Inhabited

/-! ## How much there is to do -/

mutual

/-- How many steps a step holds, itself included. -/
def Step.count : Step → Nat
  | .defineType _ _ script => 1 + countScript script
  | .makeResolver _ _ onResolve => 1 + countTable onResolve
  | .scope _ steps | .thread steps => 1 + countSteps steps
  | _ => 1

/-- How many steps the products of a scripted type may take. -/
def countScript : TypeScript Step → Nat
  | ⟨_, _, _, onConstruct, onStart, onStop, _, _, _⟩ =>
    countLists onConstruct + countLists onStart + countLists onStop

/-- How many steps these steps hold, themselves included. -/
def countSteps : List Step → Nat
  | [] => 0
  | step :: rest => step.count + countSteps rest

/-- How many steps these lists hold. -/
def countLists : List (List Step) → Nat
  | [] => 0
  | steps :: rest => countSteps steps + countLists rest

/-- How many steps a resolver may take when it is asked for one name. -/
def countEntry : String × List (List Step) → Nat
  | (_, lists) => countLists lists

/-- How many steps a resolver may take. -/
def countTable : List (String × List (List Step)) → Nat
  | [] => 0
  | entry :: rest => countEntry entry + countTable rest

end

end Standby.Scenario
