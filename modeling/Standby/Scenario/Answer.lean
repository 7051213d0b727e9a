import Standby.Manifest.Error
import Standby.Proxy.State
set_option autoImplicit false

/-!
# Answers

What a script's steps give back, and what its components report meanwhile.

## Main definitions

* `Standby.Scenario.Problem` — a failure that a step can answer.
* `Standby.Scenario.Answer` — the answer of a step.
* `Standby.Scenario.Report` — what a component, resolver or factory reports when it is called.
* `Standby.Scenario.StepAnswer` — an answer with the reports that came while the step was taken.

## Design

Handles are shown by the identifiers under which a script knows them: the first identifier that
stands for the very thing, or none.
-/

namespace Standby.Scenario

/-- A failure that a step can answer. -/
inductive Problem where
  | operation (e : ProxyError)
  /-- What a constructor reports, not wrapped. -/
  | raw (fault : Fault)
  | alreadyInstalled
  | manifest (e : ManifestError)

/-- The text of a refused installation. -/
def alreadyInstalledMessage : String := "a shared proxy registry is already installed"

/-- How an operation ended. -/
abbrev Result := Except ProxyError Unit

/-- A type as a script knows it. -/
structure TypeView where
  id : Option String
  name : String
  deriving Repr, DecidableEq, Inhabited

/-- A catalog as a script knows it. -/
structure CatalogView where
  id : Option String
  size : Nat
  deriving Repr, DecidableEq, Inhabited

/-- The counters of a product. -/
structure Stats where
  label : String
  running : Bool
  starts : Nat
  stops : Nat
  deriving Repr, DecidableEq, Inhabited

/-- An instance as a script knows it. -/
structure InstanceView where
  typeName : String
  sameAs : Option String
  stats : Option Stats
  deriving Repr, DecidableEq, Inhabited

/-- All that can be observed of a proxy. -/
structure Inspection where
  name : String
  type : Option TypeView
  startRequested : Bool
  running : Bool
  lastError : Option ProxyError
  live : Option InstanceView
  deriving Repr, DecidableEq, Inhabited

mutual

/-- The answer of a step. -/
inductive Answer where
  | nothing
  | flag (b : Bool)
  | text (s : String)
  | texts (ss : List String)
  | size (size : Nat) (empty : Bool)
  | type (t : TypeView)
  | catalog (replaced : List (Option TypeView)) (size : Nat) (empty : Bool)
  | declared (name : String) (failure : Option String)
  | found (type : Option TypeView) (contains : Bool)
  | built (lifecycle view : Bool)
  | current (c : Option CatalogView)
  | proxy (name : String) (sameAs : Option String)
  | installed (sameAs : Option String) (names : List String)
  | status (s : Status)
  | statuses (ss : List Status)
  | result (r : Result)
  | operated (r : Result) (s : Status)
  | swept (r : Result) (names : List String) (snapshots : List Status)
  | inspected (i : Inspection)
  | live (i : InstanceView)
  | stats (s : Stats)
  | problem (p : Problem)
  | steps (answers : List StepAnswer)
  /-- The step names something that does not exist. -/
  | refused (message : String)

/-- What a component, resolver or factory reports when it is called. -/
inductive Report where
  | constructed (label : String)
  | started (label : String)
  | stopped (label : String)
  | resolved (resolver name : String)
  | created (typeName : String)
  /-- The answers to the steps that it took itself. -/
  | took (answers : List StepAnswer)

/-- The answer of a step, and the reports that came while it was taken, in order. -/
inductive StepAnswer where
  | mk (answer : Answer) (reports : List Report)

end

end Standby.Scenario
