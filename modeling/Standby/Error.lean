import Standby.Fault
set_option autoImplicit false

/-!
# Failures of the library's operations

Every way in which resolving, building, starting and stopping a component can fail, the text of
each failure, and the chain of causes that it carries.

## Main definitions

* `Standby.NotFound` — a name that could not be resolved.
* `Standby.ConstructionError` — a product that could not be built.
* `Standby.LifecycleError` — what a component's own start or stop reports.
* `Standby.ProxyError` — what an operation on a proxy reports.
* `message`, `causes` — the text of a failure, and the messages of its causes.

## Design

A failure wraps the one below it in one of two ways. `ProxyError.notFound` and
`ProxyError.construction` are transparent: their text and causes are those of the failure that they
carry. `ProxyError.start` and `ProxyError.stop` add a text of their own and put the component's
report in front of its causes.
-/

namespace Standby

/-! ## Resolution -/

/-- A name that could not be turned into a component type. -/
inductive NotFound where
  /-- The catalogs that were searched hold no type of this name. -/
  | unknown (name : String)
  /-- The search goes through the current catalog, and none is current. -/
  | noContext (name : String)
  deriving Repr, DecidableEq, Inhabited

namespace NotFound

/-- The text of a failed resolution. -/
def message : NotFound → String
  | unknown name => s!"no component type named `{name}` is visible from the current context"
  | noContext name => s!"cannot resolve `{name}`: no type catalog entered on this thread"

end NotFound

/-! ## Construction -/

/-- The capability that a product needs to be driven by a proxy. -/
def lifecycleCapability : String := "Lifecycle"

/-- A product of the named type could not be built. -/
structure ConstructionError where
  typeName : String
  source : Fault
  deriving Repr, DecidableEq, Inhabited

namespace ConstructionError

/-- The text of a failed construction names the type and ends with the constructor's message. -/
def message (e : ConstructionError) : String :=
  s!"failed to construct `{e.typeName}`: {e.source.message}"

/-- The causes of a failed construction are all messages of the constructor's fault. -/
def causes (e : ConstructionError) : List String := e.source.chain

end ConstructionError

/-! ## Start and stop -/

/-- What a component's own start or stop reports: a message, and the fault behind it if any. -/
structure LifecycleError where
  message : String
  source : Option Fault := none
  deriving Repr, DecidableEq, Inhabited

namespace LifecycleError

/-- A report with a message and nothing behind it. -/
def ofMessage (message : String) : LifecycleError := ⟨message, none⟩

/-- A report that takes its message from the fault behind it, and keeps that fault. -/
def ofFault (f : Fault) : LifecycleError := ⟨f.message, some f⟩

/-- The messages behind a report: all messages of its source. -/
def causes (e : LifecycleError) : List String :=
  match e.source with
  | none => []
  | some f => f.chain

end LifecycleError

/-! ## Operations on a proxy -/

/-- A failure of an operation on a proxy.

The first two are failures of a collaborator that are handed on as they are. The last two wrap what
the component said, with the name of the proxy. Only the third is the proxy's own. -/
inductive ProxyError where
  | notFound (e : NotFound)
  | construction (e : ConstructionError)
  /-- The product of type `typeName` does not have the capability that a proxy needs. -/
  | capabilityMismatch (typeName capability : String)
  /-- The start of the component behind the proxy `name` failed. -/
  | start (name : String) (source : LifecycleError)
  /-- The stop of the component behind the proxy `name` failed. -/
  | stop (name : String) (source : LifecycleError)
  deriving Repr, DecidableEq, Inhabited

namespace ProxyError

/-- The text of a failed operation. -/
def message : ProxyError → String
  | notFound e => e.message
  | construction e => e.message
  | capabilityMismatch typeName capability =>
    s!"component type `{typeName}` does not provide the {capability} capability"
  | start name e => s!"component `{name}` failed to start: {e.message}"
  | stop name e => s!"component `{name}` failed to stop: {e.message}"

/-- The messages behind a failed operation, outermost first. -/
def causes : ProxyError → List String
  | notFound _ => []
  | construction e => e.causes
  | capabilityMismatch _ _ => []
  | start _ e | stop _ e => e.message :: e.causes

end ProxyError

end Standby
