import Standby.Scenario.Cast
import Standby.World.Perform
set_option autoImplicit false

/-!
# Running a script

## Main definitions

* `Standby.Scenario.run` — the answers of a script, from a world in which nothing has happened.

## Design

Every step is taken at most once, whoever takes it. So operations within operations are never deeper
than there are steps, and each depth takes at most an operation and a construction from the bound; a
reset has one pass at the beginning and at most one more for each step that registers a name.
-/

namespace Standby.Scenario

/-- The world in which a script starts: nothing is defined, registered, current or installed. -/
def opening : World Stage := { host := {} }

/-- The bound on nested operations and passes that a script cannot reach. -/
def bound (steps : List Step) : Nat := 3 * (countSteps steps + 1)

/-- The answers of a script. -/
def run (steps : List Step) : Except Halt (List StepAnswer) :=
  match (playAll false steps).perform cast (bound steps) opening with
  | .ok (answers, _) => .ok answers
  | .error h => .error h

end Standby.Scenario
