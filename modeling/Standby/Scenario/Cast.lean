import Standby.Scenario.Play
import Standby.World.Host
set_option autoImplicit false

/-!
# The cast of a scenario

How the scripted components, resolvers and factories of a scenario behave when they are called. Each
call is counted, then reported, then the steps that belong to it are taken, and then it has the
outcome that the script tells.

## Main definitions

* `Standby.Scenario.cast` — the host that a script describes.
-/

namespace Standby.Scenario

/-! ## Steps of components -/

/-- Takes the steps that belong to the call with a number, if there are any, and reports their
answers. -/
def takeSteps (lists : List (List Step)) (number : Nat) : Player Unit :=
  match lists[number]? with
  | none | some [] => pure ()
  | some steps => do
    let answers ← playAll true steps
    report (.took answers)

/-! ## Types and products -/

/-- Changes what is known of a scripted type. -/
def changeType (index : Nat) (f : PlayedType → PlayedType) : Player Unit :=
  Activity.modify fun s => { s with playedTypes := s.playedTypes.modify index f }

/-- A scripted type is asked for its next product. -/
def constructScripted (index : Nat) : Player (Except Fault Product) := do
  match (← Activity.read).playedTypes[index]? with
  | none => pure (.error (.plain "unknown type"))
  | some type =>
    let label := s!"{type.id}#{type.constructs + 1}"
    changeType index fun type => { type with constructs := type.constructs + 1 }
    report (.constructed label)
    takeSteps type.script.onConstruct type.constructs
    match outcome type.script.construct type.constructs with
    | some failure => pure (.error failure.fault)
    | none => do pure (.ok (← makeProduct (.scripted index) label))

/-- A constructor is run. -/
def construct (c : Constructor) : Player (Except Fault Product) :=
  if c = DefinedProduct.exporter.constructor then do
    pure (.ok (← makeProduct .exporter definedLabel))
  else if c = DefinedProduct.inert.constructor then do
    pure (.ok (← makeProduct .inert definedLabel))
  else if c = DefinedProduct.broken.constructor then pure (.error definedFault)
  else constructScripted (c.code - 3)

/-- A product is started. It runs from then on if that succeeds, and goes on as it was if not. -/
def start (p : Product) : Player (Except LifecycleError Unit) := do
  match (← Activity.read).product? p with
  | none => pure (.error (.ofMessage "unknown product"))
  | some (played, known) =>
    changeProduct p fun played => { played with starts := played.starts + 1 }
    let result ←
      match played.make, known with
      | .scripted index, some type => do
        changeType index fun type => { type with starts := type.starts + 1 }
        report (.started played.label)
        takeSteps type.script.onStart type.starts
        pure (outcome type.script.start played.starts)
      | _, _ => pure none
    match result with
    | some failure => pure (.error failure.report)
    | none =>
      changeProduct p fun played => { played with running := true }
      pure (.ok ())

/-- A product is stopped. It runs no more, whether that succeeds or not. -/
def stop (p : Product) : Player (Except LifecycleError Unit) := do
  match (← Activity.read).product? p with
  | none => pure (.error (.ofMessage "unknown product"))
  | some (played, known) =>
    changeProduct p fun played => { played with stops := played.stops + 1, running := false }
    match played.make, known with
    | .scripted index, some type => do
      changeType index fun type => { type with stops := type.stops + 1 }
      report (.stopped played.label)
      takeSteps type.script.onStop type.stops
      match outcome type.script.stop played.stops with
      | some failure => pure (.error failure.report)
      | none => pure (.ok ())
    | _, _ => pure (.ok ())

/-! ## Resolvers and factories -/

/-- What an entry of a resolver's table gives for a name, by what identifiers stand for now. -/
def Stage.entryResult (s : Stage) (name : String) : TableEntry → Except NotFound TypeHandle
  | .type id => ((s.types.get? id).map .ok).getD (.error (.unknown name))
  | .fails e => .error e

/-- The type that a factory builds instead of another, by what identifiers stand for now. -/
def Stage.swapped (s : Stage) (swap : Names String) (type : TypeHandle) : TypeHandle :=
  ((swap.get? type.name).bind s.types.get?).getD type

/-- A scripted resolver is asked for a name. Its table is read after its steps are taken. -/
def resolve (index : Nat) (name : String) : Player (Except NotFound TypeHandle) := do
  match (← Activity.read).playedResolvers[index]? with
  | none => pure (.error (.unknown name))
  | some resolver =>
    let number := (resolver.asked.get? name).getD 0
    Activity.modify fun s => { s with
      playedResolvers := s.playedResolvers.modify index fun r =>
        { r with asked := r.asked.put name (number + 1) } }
    report (.resolved resolver.id name)
    takeSteps ((resolver.onResolve.get? name).getD []) number
    let s ← Activity.read
    match (s.playedResolvers[index]?).bind (·.table.get? name) with
    | none => pure (.error (.unknown name))
    | some entry => pure (s.entryResult name entry)

/-- A scripted factory is asked for a product. -/
def create (index : Nat) (type : TypeHandle) : Player (Except ConstructionError Product) := do
  match (← Activity.read).playedFactories[index]? with
  | none => pure (.error ⟨type.name, .plain "unknown factory"⟩)
  | some factory =>
    Activity.modify fun s => { s with
      playedFactories := s.playedFactories.modify index fun f => { f with calls := f.calls + 1 } }
    report (.created type.name)
    match outcome factory.outcomes factory.calls with
    | some f => pure (.error ⟨f.typeName.getD type.name, f.failure.fault⟩)
    | none => Activity.build ((← Activity.read).swapped factory.swap type)

/-- The host that a script describes. -/
def cast : Host Stage where
  resolve := resolve
  create := create
  construct := construct
  capability := capability
  start := start
  stop := stop

end Standby.Scenario
