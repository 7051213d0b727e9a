import Standby.Scenario.Answer
import Standby.Scenario.Script
import Standby.World.Activity
set_option autoImplicit false

/-!
# The stage of a scenario

What a running script knows: the things it has named, how often each scripted component was called,
and what was reported during the current step.

## Main definitions

* `Standby.Scenario.Names` — things by identifier, in the order in which the identifiers came up.
* `Standby.Scenario.Stage` — the state of a running script.
* `Standby.Scenario.Player` — an activity of a running script.
-/

namespace Standby.Scenario

/-! ## Named things -/

/-- Things by identifier. An identifier keeps its place when it gets a new meaning. -/
abbrev Names (α : Type) := List (String × α)

namespace Names

variable {α : Type}

/-- Lets an identifier stand for a thing. -/
def put (id : String) (a : α) : Names α → Names α
  | [] => [(id, a)]
  | (k, b) :: rest => if k = id then (id, a) :: rest else (k, b) :: put id a rest

/-- What an identifier stands for. -/
def get? (names : Names α) (id : String) : Option α := List.lookup id names

/-- The first identifier that stands for a thing with a property. -/
def idOf? (names : Names α) (p : α → Bool) : Option String :=
  (List.find? (fun e => p e.2) names).map Prod.fst

/-- Takes an identifier out where it first occurs. -/
def drop (id : String) : Names α → Names α
  | [] => []
  | (k, a) :: rest => if k = id then rest else (k, a) :: drop id rest

end Names

/-! ## Scripted things -/

/-- A scripted type and how often it and its products were called. -/
structure PlayedType where
  id : String
  script : TypeScript Step
  constructs : Nat := 0
  starts : Nat := 0
  stops : Nat := 0
  deriving Inhabited

/-- What a product was made of. -/
inductive Make where
  /-- The scripted type with this number. -/
  | scripted (index : Nat)
  | exporter
  | inert
  deriving Repr, DecidableEq, Inhabited

/-- A product and how often it was called. -/
structure PlayedProduct where
  make : Make
  label : String
  asked : Nat := 0
  running : Bool := false
  starts : Nat := 0
  stops : Nat := 0
  deriving Repr, DecidableEq, Inhabited

/-- The counters of a product, for observers. -/
def PlayedProduct.stats (p : PlayedProduct) : Stats := ⟨p.label, p.running, p.starts, p.stops⟩

/-- A scripted resolver, and how often it was asked for each name. -/
structure PlayedResolver where
  id : String
  table : Names TableEntry
  onResolve : Names (List (List Step))
  asked : Names Nat := []
  deriving Inhabited

/-- A scripted factory, and how often it was called. -/
structure PlayedFactory where
  outcomes : List (Option FactoryFailure)
  swap : Names String
  calls : Nat := 0
  deriving Repr, DecidableEq, Inhabited

/-! ## The stage -/

/-- The state of a running script. -/
structure Stage where
  playedTypes : List PlayedType := []
  products : List PlayedProduct := []
  playedResolvers : List PlayedResolver := []
  playedFactories : List PlayedFactory := []
  types : Names TypeHandle := []
  catalogs : Names (Shared Catalog) := []
  resolvers : Names Nat := []
  registries : Names RegistryId := []
  proxies : Names ProxyId := []
  instances : Names Instance := []
  /-- The guards of the calling thread, in the order in which they were made. -/
  guards : Names Guard := []
  /-- The mark that the next shared thing gets. -/
  nextMark : Nat := 0
  /-- The reports of the current step, latest first. -/
  reports : List Report := []
  deriving Inhabited

/-- An activity of a running script. -/
abbrev Player := Activity Stage

/-- Adds a report to those of the current step. -/
def report (r : Report) : Player Unit :=
  Activity.modify fun s => { s with reports := r :: s.reports }

/-- Takes `n` marks, and gives the first of them. -/
def takeMarks (n : Nat) : Player Nat :=
  Activity.update fun s => (s.nextMark, { s with nextMark := s.nextMark + n })

/-- Carries out a part of a script with its own reports, and gives these too, in order. -/
def withReports {α : Type} (body : Player α) : Player (α × List Report) := do
  let outer ← Activity.update fun s => (s.reports, { s with reports := [] })
  let a ← body
  let own ← Activity.update fun s => (s.reports, { s with reports := outer })
  pure (a, own.reverse)

/-- Carries out a part of a script on a new thread, which starts without guards. The guards that it
makes end with it. -/
def onThread {α : Type} (body : Player α) : Player α := do
  let outer ← Activity.update fun s => (s.guards, { s with guards := [] })
  let a ← Activity.onThread body
  Activity.modify fun s => { s with guards := outer }
  pure a

end Standby.Scenario
