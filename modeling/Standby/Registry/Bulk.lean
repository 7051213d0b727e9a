import Standby.Manifest.Basic
import Standby.World.Activity
set_option autoImplicit false

/-!
# Operations on a whole registry

## Main definitions

* `Standby.Registry.resolveAll` — resolve every registered proxy, up to the first failure.
* `Standby.Registry.apply` — register what a manifest declares, and start what it marks.
* `Standby.Registry.snapshots` — the records of all proxies, sorted by name.
* `Standby.Registry.namesOf`, `Standby.Registry.findIn`, `Standby.Registry.holds`,
  `Standby.Registry.count`, `Standby.Registry.vacant` — what is registered.

## Design

These operations have no state of their own: they are activities over the calls that any client may
make. What they leave after a failure is what the calls before it left.
-/

namespace Standby.Registry

variable {σ : Type}

/-- Resolves the proxies that are registered now, in the order of registration. The first failure
ends the pass and is returned; later proxies are not touched. -/
def resolveAll (r : RegistryId) : Activity σ (Except ProxyError Unit) := do
  let entries ← Activity.entries r
  Activity.untilFailure (entries.map fun e => Activity.operate e.proxy .resolve)

/-- Registers a declared component, and starts it if it is marked. -/
def declare (r : RegistryId) (d : Declaration) : Activity σ (Except ProxyError Unit) := do
  let p ← Activity.obtain r d.name
  if d.start then Activity.operate p .start else pure (.ok ())

/-- Registers all declared components in order and starts those that are marked. The first start
that fails ends this and is returned; what is declared after it is not registered. -/
def apply (r : RegistryId) (m : Manifest) : Activity σ (Except ProxyError Unit) :=
  Activity.untilFailure (m.components.map (declare r))

/-- Sorts records by name, in the order of the characters' code points. -/
def sorted (records : List Status) : List Status :=
  records.mergeSort (fun a b => decide (a.name ≤ b.name))

/-- The record of a proxy. -/
def statusOf (p : ProxyId) : Activity σ Status := do
  let name ← Activity.nameOf p
  let s ← Activity.observe p
  pure (s.status name)

/-- The records of all registered proxies, sorted by name. -/
def snapshots (r : RegistryId) : Activity σ (List Status) := do
  let entries ← Activity.entries r
  pure (sorted (← entries.mapM fun e => statusOf e.proxy))

/-- The registered names, in the order of registration. -/
def namesOf (r : RegistryId) : Activity σ (List String) := do
  pure ((← Activity.entries r).map Entry.name)

/-- The proxy registered under a name, and nothing registered on account of asking. -/
def findIn (r : RegistryId) (name : String) : Activity σ (Option ProxyId) := do
  pure (((← Activity.entries r).find? (fun e => e.name == name)).map Entry.proxy)

/-- Whether a name is registered. -/
def holds (r : RegistryId) (name : String) : Activity σ Bool := do
  pure (← findIn r name).isSome

/-- The number of registered names. -/
def count (r : RegistryId) : Activity σ Nat := do
  pure (← Activity.entries r).length

/-- Whether no name is registered. -/
def vacant (r : RegistryId) : Activity σ Bool := do
  pure (← Activity.entries r).isEmpty

end Standby.Registry
