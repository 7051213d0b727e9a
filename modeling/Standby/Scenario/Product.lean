import Standby.Catalog.Definition
import Standby.Scenario.Stage
set_option autoImplicit false

/-!
# Scripted products

The definitions made ahead of time, and what the products of a script tell about themselves.

## Main definitions

* `Standby.Scenario.definitions` — the types that are defined ahead of time.
* `Standby.Scenario.makeProduct` — a new product.
* `Standby.Scenario.capability` — whether a product can be driven, as it says when asked.
* `Standby.Scenario.Stage.viewOf`, `Standby.Scenario.Stage.statsOf` — what a product shows to
  observers.
-/

namespace Standby.Scenario

/-! ## Definitions made ahead of time -/

/-- The constructor of a product that is defined ahead of time. -/
def DefinedProduct.constructor : DefinedProduct → Constructor
  | exporter => ⟨0⟩
  | inert => ⟨1⟩
  | broken => ⟨2⟩

/-- The constructor of the scripted type with a number. -/
def scriptedConstructor (index : Nat) : Constructor := ⟨index + 3⟩

/-- The types that are defined ahead of time. One of them is defined twice. -/
def definitions : List Definition :=
  [⟨"static.exporter", DefinedProduct.exporter.constructor⟩,
    ⟨"static.inert", DefinedProduct.inert.constructor⟩,
    ⟨"static.broken", DefinedProduct.broken.constructor⟩,
    ⟨"static.dup", DefinedProduct.exporter.constructor⟩,
    ⟨"static.dup", DefinedProduct.exporter.constructor⟩]

/-- The label of the products that are defined ahead of time. -/
def definedLabel : String := "static#1"

/-- What the broken constructor reports. -/
def definedFault : Fault := .plain "static construction failed"

/-! ## Products -/

/-- A new product. -/
def makeProduct (make : Make) (label : String) : Player Product :=
  Activity.update fun s =>
    (⟨s.products.length⟩, { s with products := s.products ++ [{ make, label }] })

/-- Changes what is known of a product. -/
def changeProduct (p : Product) (f : PlayedProduct → PlayedProduct) : Player Unit :=
  Activity.modify fun s => { s with products := s.products.modify p.mark f }

/-- What is known of a product, and the script of its type where it has one. -/
def Stage.product? (s : Stage) (p : Product) : Option (PlayedProduct × Option PlayedType) :=
  (s.products[p.mark]?).map fun played =>
    (played,
      match played.make with
      | .scripted index => s.playedTypes[index]?
      | .exporter | .inert => none)

/-- Whether a product that was asked `asked` times before says that it can be driven. -/
def saysYes (make : Make) (type : Option PlayedType) (asked : Nat) : Bool :=
  match make, type with
  | .exporter, _ => true
  | .inert, _ => false
  | .scripted _, none => false
  | .scripted _, some type =>
    !type.script.plain &&
      match type.script.capability with
      | none => true
      | some limit => asked < limit

/-- Whether a product can be driven, as it says when asked. Each time it is asked counts. -/
def capability (p : Product) : Player Bool := do
  match (← Activity.read).product? p with
  | none => pure false
  | some (played, type) =>
    changeProduct p fun played => { played with asked := played.asked + 1 }
    pure (saysYes played.make type played.asked)

/-- What a product shows to observers, if anything. -/
def Stage.viewOf (s : Stage) (p : Product) : Option ViewKind :=
  match s.product? p with
  | none => none
  | some (played, type) =>
    match played.make, type with
    | .exporter, _ => some .stats
    | .inert, _ => none
    | .scripted _, none => none
    | .scripted _, some type => if type.script.plain then none else type.script.view

/-- The counters of a product, if it shows them. -/
def Stage.statsOf (s : Stage) (p : Product) : Option Stats :=
  match s.viewOf p with
  | some .stats => (s.product? p).map fun known => known.1.stats
  | _ => none

/-- The text of a product, if it shows one. -/
def Stage.textOf (s : Stage) (p : Product) : Option String :=
  match s.viewOf p with
  | some .text => (s.product? p).map fun known => s!"text of {known.1.label}"
  | _ => none

end Standby.Scenario
