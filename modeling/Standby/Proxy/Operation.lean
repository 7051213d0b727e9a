import Standby.Proxy.State
set_option autoImplicit false

/-!
# The operations of a proxy

A proxy accepts requests to start and to stop from the moment its name is registered. As long as the
type behind the name is unknown a request is only recorded; resolving the name finds the type once
and for all and then acts on the latest request.

## Main definitions

* `Standby.Proxy.attempt` — build if needed, then start, with a resolved type.
* `Standby.Proxy.start`, `Standby.Proxy.stop`, `Standby.Proxy.resolve` — the operations.
* `Standby.Proxy.Operation` — the three operations as data.

## Design

An operation is a dialogue with the collaborators that ends in a result and a state. It sees the
state before and the answers it is given, and nothing else: what collaborators do meanwhile cannot
reach it.
-/

namespace Standby.Proxy

/-- What an operation returns, and the state that it leaves. -/
abbrev Outcome := Except ProxyError Unit × State

/-- A failed attempt: the failure is returned, kept, and nothing runs. -/
def failed (e : ProxyError) (s : State) : Outcome :=
  (.error e, { s with running := false, lastError := some e })

/-- The failure of a product of this type that does not have the capability. -/
def mismatch (type : TypeHandle) : ProxyError :=
  .capabilityMismatch type.name lifecycleCapability

/-- A new product of the type. It is asked for the capability once; one that says no is dropped. -/
def build (type : TypeHandle) : Talk (Except ProxyError Product) := do
  match ← Talk.create type with
  | .error e => pure (.error (.construction e))
  | .ok product =>
    if ← Talk.capability product then
      pure (.ok product)
    else
      pure (.error (mismatch type))

/-- Starts the product that the state holds, if it says once more that it can be started. -/
def launch (name : String) (type : TypeHandle) (product : Product) (s : State) : Talk Outcome := do
  if ← Talk.capability product then
    match ← Talk.start product with
    | .ok () => pure (.ok (), { s with running := true, lastError := none })
    | .error e => pure (failed (.start name e) s)
  else
    pure (failed (mismatch type) s)

/-- An attempt to run the component of a resolved type: the product that is held is started, and
without one a new product is built, held and started. -/
def attempt (name : String) (type : TypeHandle) (s : State) : Talk Outcome :=
  match s.product with
  | some product => launch name type product s
  | none => do
    match ← build type with
    | .error e => pure (failed e s)
    | .ok product => launch name type product { s with product := some product }

/-- Requests the component to run. With the type unknown the request is recorded and nothing more
happens; else an attempt is made. -/
def start (name : String) (s : State) : Talk Outcome :=
  let s := { s with startRequested := true }
  match s.type with
  | none => pure (.ok (), s)
  | some type => attempt name type s

/-- Withdraws the request to run and gives up the product. The product is stopped if it says that it
can be; when its stop fails it is given up all the same. -/
def stop (name : String) (s : State) : Talk Outcome :=
  let released := { s with startRequested := false, running := false, product := none }
  match s.product with
  | none => pure (.ok (), released)
  | some product => do
    if ← Talk.capability product then
      match ← Talk.stop product with
      | .ok () => pure (.ok (), released)
      | .error e => pure (.error (.stop name e), released)
    else
      pure (.ok (), released)

/-- Finds the type behind the name, unless it is known already. A resolver that does not find it
leaves the state as it was; one that does is followed by an attempt if a start was requested. -/
def resolve (name : String) (s : State) : Talk Outcome :=
  match s.type with
  | some _ => pure (.ok (), s)
  | none => do
    match ← Talk.resolve name with
    | .error e => pure (.error (.notFound e), s)
    | .ok type =>
      let s := { s with type := some type }
      if s.startRequested then attempt name type s else pure (.ok (), s)

/-! ## Operations as data -/

/-- The operations that clients may call on a proxy. -/
inductive Operation where
  | start
  | stop
  | resolve
  deriving Repr, DecidableEq, Inhabited

/-- The dialogue of an operation. -/
def Operation.talk : Operation → String → State → Talk Outcome
  | start => Proxy.start
  | stop => Proxy.stop
  | resolve => Proxy.resolve

end Standby.Proxy
