import Standby.Proofs.World.Calls
import Standby.Proofs.World.Course
set_option autoImplicit false

/-!
# The current catalog of a thread that nests its scopes

A thread that releases its guards in the reverse order of their making always has the innermost
catalog current that it entered and did not leave. What happens on other threads is not seen, and a
scope gives back what it found, whatever is done in it.

## Main definitions

* `Standby.Entered` — a catalog that was entered, with its guard.
* `Standby.Moment`, `Standby.Course.moments` — the moments at which calls are made.
* `Standby.Moment.Nested` — a guard is released that was made last.

## Main results

* `Standby.Activity.run_scope` — a scope puts back what was current before it.
* `Standby.Course.Flows.follows` — where guards are nested, the innermost catalog is current.
* `Standby.current_is_innermost` — both of any activity, on all threads and at every moment.

## Design

What is nested is a run and not a program: a guard may be kept anywhere between its making and its
release, and code of the collaborators may enter catalogs and leave them in other calls, as long as
all that happens on one thread is nested. Guards are told apart by what they put back. Two guards
that put back the same may be released one in the place of the other.
-/

namespace Standby

variable {σ : Type}

/-! ## What is entered -/

/-- A catalog that was entered, and the guard that was given for it. -/
structure Entered where
  catalog : Shared Catalog
  guard : Guard
  deriving Repr, DecidableEq

/-- What is current on a thread according to what was entered there and not left, innermost first.
`start` was current at the beginning. -/
def innermost (start : Context) : List Entered → Context
  | [] => start
  | e :: _ => some e.catalog

/-- What is entered and not left after a call that is made while `context` is current. -/
def Call.entered (c : Call) (context : Context) (entered : List Entered) : List Entered :=
  match c with
  | .enter catalog => ⟨catalog, (Context.enter context catalog).1⟩ :: entered
  | .leave guard => entered.eraseP fun e => e.guard = guard
  | _ => entered

/-- A moment at which a call is made. -/
structure Moment where
  /-- What was current at the beginning on the thread that makes the call. -/
  start : Context
  /-- What was entered on this thread since and not left, innermost first. -/
  entered : List Entered
  call : Call
  /-- What is current when the call is made. -/
  context : Context
  deriving Repr, DecidableEq

namespace Moment

/-- If the call releases a guard, it is that of the catalog that was entered last. -/
def Nested : Moment → Prop
  | ⟨_, entered, .leave guard, _⟩ => entered.head?.map Entered.guard = some guard
  | _ => True

/-- Whether the steps of a client are nested can be found out step by step. -/
instance : DecidablePred Nested
  | ⟨_, entered, .leave guard, _⟩ =>
    inferInstanceAs (Decidable (entered.head?.map Entered.guard = some guard))
  | ⟨_, _, .establish _ _, _⟩ | ⟨_, _, .obtain _ _, _⟩ | ⟨_, _, .entries _, _⟩
  | ⟨_, _, .operate _ _, _⟩ | ⟨_, _, .nameOf _, _⟩ | ⟨_, _, .observe _, _⟩ | ⟨_, _, .reset _, _⟩
  | ⟨_, _, .install _, _⟩ | ⟨_, _, .installed, _⟩ | ⟨_, _, .construct _, _⟩ | ⟨_, _, .enter _, _⟩
  | ⟨_, _, .current, _⟩ => .isTrue trivial

/-- The innermost catalog is current. -/
def Follows (m : Moment) : Prop := m.context = innermost m.start m.entered

end Moment

namespace Course

/-- The moments of a course, those on other threads included. A new thread starts with nothing
current and nothing entered. -/
def moments (start : Context) (entered : List Entered) : Course → List Moment
  | nil => []
  | call c context rest =>
    ⟨start, entered, c, context⟩ :: rest.moments start (c.entered context entered)
  | thread body rest => body.moments none [] ++ rest.moments start entered

/-- What is entered and not left after a course. -/
def entered (before : List Entered) : Course → List Entered
  | nil => before
  | call c context rest => rest.entered (c.entered context before)
  | thread _ rest => rest.entered before

end Course

/-! ## Nested guards -/

/-- Each guard puts back what is innermost without its own catalog. -/
def Stacked (start : Context) : List Entered → Prop
  | [] => True
  | e :: outer => e.guard.displaced = innermost start outer ∧ Stacked start outer

/-- Without guards there is nothing to put back. -/
lemma stacked_nil {start : Context} : Stacked start [] := trivial

/-- A call that finds the innermost catalog current leaves it so, if guards are stacked and, should
the call release one, it is the innermost.

**Proof sketch.** By cases on the call. Only two of them touch what is current. A catalog that is
entered becomes the innermost one, and a guard that is released is the innermost by assumption, so
what it displaced is the innermost of the others. -/
private lemma Call.shift_innermost {c : Call} {start : Context} {entered : List Entered}
    (stacked : Stacked start entered)
    (nested : Moment.Nested ⟨start, entered, c, innermost start entered⟩) :
    c.shift (innermost start entered) =
        innermost start (c.entered (innermost start entered) entered) ∧
      Stacked start (c.entered (innermost start entered) entered) := by
  cases c with
  | enter catalog => exact ⟨rfl, rfl, stacked⟩
  | leave guard =>
    cases entered with
    | nil => cases nested
    | cons e outer =>
      obtain rfl : e.guard = guard := Option.some.inj nested
      have left : (Call.leave e.guard).entered (innermost start (e :: outer)) (e :: outer) =
          outer := by
        simp [Call.entered]
      rw [left]
      exact ⟨stacked.1, stacked.2⟩
  | establish _ _ | obtain _ _ | entries _ | operate _ _ | nameOf _ | observe _ | reset _
  | install _ | installed | construct _ | current => exact ⟨rfl, stacked⟩

/-- Where all guards are nested, the innermost catalog is current at every moment and in the end.

**Proof sketch.** Induction on the course. The invariant is that the guards are stacked: what a
guard puts back is what was innermost when it was made, and this is innermost again when everything
entered later was left. Another thread has a stack of its own, which is empty at first. -/
theorem Course.Flows.follows {context context' start : Context} {course : Course}
    {entered : List Entered} (flows : Flows context course context')
    (current : context = innermost start entered) (stacked : Stacked start entered)
    (nested : ∀ m ∈ course.moments start entered, m.Nested) :
    (∀ m ∈ course.moments start entered, m.Follows) ∧
      context' = innermost start (course.entered entered) := by
  induction flows generalizing start entered with
  | nil => exact ⟨by simp [moments], current⟩
  | @call c context context' rest _ ih =>
    subst current
    rw [moments, List.forall_mem_cons] at nested
    obtain ⟨shifted, stacked'⟩ := Call.shift_innermost stacked nested.1
    obtain ⟨follows, ends⟩ := ih shifted stacked' nested.2
    refine ⟨?_, ends⟩
    rw [moments, List.forall_mem_cons]
    exact ⟨rfl, follows⟩
  | @thread context context' left body rest _ _ ihBody ih =>
    rw [moments, List.forall_mem_append] at nested
    obtain ⟨during, -⟩ := ihBody rfl stacked_nil nested.1
    obtain ⟨follows, ends⟩ := ih current stacked nested.2
    refine ⟨?_, ends⟩
    rw [moments, List.forall_mem_append]
    exact ⟨during, follows⟩

/-! ## Scopes -/

/-- A scope runs its body with the catalog entered and then puts back what was current before,
whatever the body did. It does not return only if the body does not.

**Proof sketch.** A scope is three activities in a row, and neither to enter nor to leave can fail.
So what is left is the run of the body, with what was current before put back in its world. -/
lemma Activity.run_scope {α : Type} {H : Host σ} {bound : Nat} (c : Shared Catalog)
    (body : Activity σ α) (w : World σ) :
    (Activity.scope c body).perform H bound w =
      (body.perform H bound { w with context := some c }).map
        fun (x, v) => (x, { v with context := w.context }) := by
  have entered : World.perform H bound (.enter c) w =
      .ok (⟨w.context⟩, { w with context := some c }) := by
    cases bound <;> rfl
  have run : (Activity.scope c body).perform H bound w =
      (body >>= fun x => Activity.leave ⟨w.context⟩ >>= fun _ => pure x).run
        (World.perform H bound) { w with context := some c } :=
    Activity.run_call entered
  rw [run, Activity.run_bind, Activity.perform]
  cases body.run (World.perform H bound) { w with context := some c } with
  | error halt => rfl
  | ok outcome =>
    have left : World.perform H bound (.leave ⟨w.context⟩) outcome.2 =
        .ok ((), { outcome.2 with context := w.context }) := by
      cases bound <;> rfl
    exact Activity.run_call left

/-! ## All together -/

/-- **Nested scopes.** If at every moment of a run, on every thread, a guard that is released is the
one that was made last, then the innermost catalog that was entered on a thread and not left is
current there, at every moment and when the run is over; without one, it is what was current at the
beginning, and that is nothing on a new thread. And whatever is done in a scope, what was current
before the scope is current after it.

**Proof sketch.** What is current flows from one call to the next along the course of the run. As
guards are stacked at the beginning and a nested release keeps them so, every moment finds the
innermost catalog. The scope is `Activity.run_scope`. -/
theorem current_is_innermost {α : Type} (a : Activity σ α) (H : Host σ) (bound : Nat)
    (w : World σ) :
    ((∀ m ∈ (a.courseOf H bound w).moments w.context [], m.Nested) →
      (∀ m ∈ (a.courseOf H bound w).moments w.context [], m.Follows) ∧
        ∀ x w', a.perform H bound w = .ok (x, w') →
          w'.context = innermost w.context ((a.courseOf H bound w).entered [])) ∧
    ∀ c, (Activity.scope c a).perform H bound w =
      (a.perform H bound { w with context := some c }).map
        fun (x, v) => (x, { v with context := w.context }) := by
  refine ⟨fun nested => ?_, fun c => Activity.run_scope c a w⟩
  obtain ⟨context', flows, ends⟩ := Course.leads a H bound w
  obtain ⟨follows, rfl⟩ := flows.follows rfl stacked_nil nested
  exact ⟨follows, ends⟩

/-! ## An excursion -/

/-- A catalog with nothing in it. -/
def plains : Shared Catalog := ⟨0, .empty⟩

/-- Another catalog with nothing in it, told apart from the plains by its mark. -/
def hills : Shared Catalog := ⟨1, .empty⟩

/-- A host whose components go to the hills while they start. -/
def wandering : Host Nat :=
  { Host.counting (fun _ => .ok ()) (fun _ => pure ()) with
    start := fun _ => Activity.scope hills (pure (.ok ())) }

/-- A client that goes to the plains and further to the hills, sends another thread to the plains,
and on the way back has a component started. -/
def excursion : Activity Nat Context := do
  let r ← Activity.establish (.custom 0) (.custom 0)
  let p ← Activity.obtain r "walker"
  let _ ← Activity.operate p .start
  let outer ← Activity.enter plains
  Activity.scope hills do
    Activity.onThread do
      let _ ← Activity.enter plains
      pure ()
  let _ ← Activity.operate p .resolve
  let there ← Activity.current
  Activity.leave outer
  pure there

/-- Everyone finds current what they entered last, and in the end nothing is current, as before. -/
theorem current_is_innermost_excursion : ∃ w,
    excursion.perform wandering 2 { host := 0 } = .ok (some plains, w) ∧ w.context = none ∧
    (∀ m ∈ (excursion.courseOf wandering 2 { host := 0 }).moments none [], m.Nested) ∧
    (∀ m ∈ (excursion.courseOf wandering 2 { host := 0 }).moments none [], m.Follows) ∧
    ((excursion.courseOf wandering 2 { host := 0 }).moments none []).map Moment.context =
      [none, none, none, none, some plains, none, some hills, some plains, some plains, some hills,
        some plains, some plains] := by
  have nested : ∀ m ∈ (excursion.courseOf wandering 2 { host := 0 }).moments none [], m.Nested := by
    decide +kernel
  have returns : (excursion.perform wandering 2 { host := 0 }).toOption.map Prod.fst =
      some (some plains) := by
    decide +kernel
  cases run : excursion.perform wandering 2 { host := 0 } with
  | error halt => rw [run] at returns; cases returns
  | ok outcome =>
    obtain ⟨there, w⟩ := outcome
    rw [run] at returns
    obtain rfl : there = some plains := Option.some.inj returns
    obtain ⟨follows, ends⟩ := (current_is_innermost excursion wandering 2 { host := 0 }).1 nested
    have left : innermost none ((excursion.courseOf wandering 2 { host := 0 }).entered []) =
        none := by
      decide +kernel
    exact ⟨w, rfl, (ends _ w run).trans left, nested, follows, by decide +kernel⟩

end Standby
