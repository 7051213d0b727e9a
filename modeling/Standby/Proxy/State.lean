import Standby.Proxy.Request
set_option autoImplicit false

/-!
# The state of a proxy

What a proxy knows of its component, and what an observer is shown of it.

## Main definitions

* `Standby.Proxy.State` — type, product, intent, success and failure of the latest attempt.
* `Standby.Status` — the record shown to monitors.
* `Standby.Instance` — the handle to a live product.

## Design

The fields are independent as far as the type goes. Which combinations occur is a property of the
operations, not of the record.
-/

namespace Standby

namespace Proxy

/-- What a proxy knows: all absent for a proxy that was just registered.

It is what the lock of a proxy protects. An operation takes it as it is, and it is written back when
the operation ends. -/
structure State where
  /-- The type behind the name, once it was resolved. -/
  type : Option TypeHandle := none
  /-- The product that is held, from the first successful build until the next stop. -/
  product : Option Product := none
  /-- Whether the latest request was to run. -/
  startRequested : Bool := false
  /-- Whether the latest attempt succeeded and was not followed by a stop. -/
  running : Bool := false
  /-- The failure of the latest attempt, if it failed. -/
  lastError : Option ProxyError := none
  deriving Repr, DecidableEq, Inhabited

/-- The state of a proxy that was just registered. -/
def State.initial : State := {}

end Proxy

/-! ## What observers see -/

/-- The record of a proxy that monitors are shown. -/
structure Status where
  name : String
  resolved : Bool
  startRequested : Bool
  running : Bool
  lastError : Option String
  deriving Repr, DecidableEq, Inhabited

/-- A handle to the live product of a proxy, and the type it was built from. -/
structure Instance where
  type : TypeHandle
  product : Product
  deriving Repr, DecidableEq, Inhabited

namespace Instance

/-- The name of the type that the product was built from. -/
def typeName (i : Instance) : String := i.type.name

/-- Whether two handles refer to the same product. -/
def same (i j : Instance) : Bool := i.product == j.product

end Instance

namespace Proxy.State

/-- The record that monitors are shown of a proxy in this state. -/
def status (s : State) (name : String) : Status where
  name := name
  resolved := s.type.isSome
  startRequested := s.startRequested
  running := s.running
  lastError := s.lastError.map ProxyError.message

/-- The live product, if one was built and not stopped. -/
def liveInstance (s : State) : Option Instance :=
  match s.type, s.product with
  | some type, some product => some ⟨type, product⟩
  | _, _ => none

end Proxy.State

end Standby
