import Standby.Catalog.Basic
set_option autoImplicit false

/-!
# Registries

A registry keeps one proxy for each registered name, in the order in which the names were
registered. All its proxies share one resolver and one factory.

## Main definitions

* `Standby.ProxyId`, `Standby.RegistryId` — the identity of a proxy and of a registry.
* `Standby.Resolver`, `Standby.Factory` — who turns names into types and types into products.
* `Standby.Registry` — the entries of a registry and its collaborators.
* `Standby.Registry.find?`, `Standby.Registry.insert`, `Standby.Registry.remove` — read, extend and
  shrink the entries.
-/

namespace Standby

/-- The identity of a proxy. -/
structure ProxyId where
  index : Nat
  deriving Repr, DecidableEq, Inhabited

/-- The identity of a registry. -/
structure RegistryId where
  index : Nat
  deriving Repr, DecidableEq, Inhabited

/-- Who turns a name into a type. -/
inductive Resolver where
  /-- The catalog that is current on the calling thread. -/
  | ambient
  /-- One catalog, whatever is current. -/
  | catalog (c : Catalog)
  /-- Code of the client's, known by a reference. -/
  | custom (reference : Nat)
  deriving Repr, DecidableEq, Inhabited

/-- Who builds a product of a type. -/
inductive Factory where
  /-- The type's own constructor. -/
  | direct
  /-- Code of the client's, known by a reference. -/
  | custom (reference : Nat)
  deriving Repr, DecidableEq, Inhabited

/-- A name and the proxy that is registered under it. -/
structure Entry where
  name : String
  proxy : ProxyId
  deriving Repr, DecidableEq, Inhabited

/-- The proxies registered by name, in the order of registration, and their collaborators. -/
structure Registry where
  resolver : Resolver := .ambient
  factory : Factory := .direct
  entries : List Entry := []
  deriving Repr, DecidableEq, Inhabited

namespace Registry

/-- The proxy registered under a name. -/
def find? (r : Registry) (name : String) : Option ProxyId :=
  (r.entries.find? (fun e => e.name == name)).map Entry.proxy

/-- The registered proxies, in the order of registration. -/
def proxies (r : Registry) : List ProxyId := r.entries.map Entry.proxy

/-- Registers a proxy under a name, after all names that are registered. -/
def insert (r : Registry) (name : String) (p : ProxyId) : Registry :=
  { r with entries := r.entries ++ [⟨name, p⟩] }

/-- Removes the entries of these proxies and keeps the others, in order. -/
def remove (r : Registry) (gone : List ProxyId) : Registry :=
  { r with entries := r.entries.filter (fun e => !gone.contains e.proxy) }

end Registry

end Standby
