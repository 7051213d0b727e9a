import Standby.Proofs.Nesting
set_option autoImplicit false

/-!
# Guards that are dropped in any order

A guard puts back what was current when it was made, and does not ask whether that is still entered.
So a thread that drops its guards in another order than the reverse of their making can be left with
a current catalog none of whose guards is alive.

## Main definitions

* `Standby.Motion` — a catalog is entered, or any of the guards that are alive is dropped.
* `Standby.handle` — motions as an activity, which holds the guards that are alive.
* `Standby.Standing.Backed` — the current catalog, if there is one, has a guard that is alive.
* `Standby.Standing.Outlived` — a guard is dropped while what it puts back is still entered.

## Main results

* `Standby.backed_iff_outlived` — when a catalog is current only while one of its guards is alive.
* `Standby.not_backed_crossed` — two guards that are dropped in the order of their making.
-/

namespace Standby

variable {σ : Type}

/-! ## Motions -/

/-- What a thread does with guards. -/
inductive Motion where
  /-- Enters a catalog. The new guard comes after all that are alive. -/
  | enter (catalog : Shared Catalog)
  /-- Drops the guard at a place among those that are alive, in the order of their making. -/
  | drop (place : Nat)
  deriving Repr, DecidableEq

/-- Carries out motions, with the guards that are alive at their beginning, and gives those that are
alive in the end. A guard is given up when it is dropped, so none is dropped twice, and to drop one
that is not there does nothing. -/
def handle : List Motion → List Entered → Activity σ (List Entered)
  | [], alive => pure alive
  | .enter catalog :: rest, alive => do
    let guard ← Activity.enter catalog
    handle rest (alive ++ [⟨catalog, guard⟩])
  | .drop place :: rest, alive =>
    match alive[place]? with
    | none => handle rest alive
    | some e => do
      Activity.leave e.guard
      handle rest (alive.eraseIdx place)

/-- The guards of a thread that are alive, each with the catalog it was given for, in the order of
their making, and what is current. -/
structure Standing where
  alive : List Entered := []
  context : Context := none
  deriving Repr, DecidableEq

namespace Standing

/-- How a thread stands after a motion. -/
def move (s : Standing) : Motion → Standing
  | .enter catalog =>
    ⟨s.alive ++ [⟨catalog, (s.context.enter catalog).1⟩], (s.context.enter catalog).2⟩
  | .drop place =>
    match s.alive[place]? with
    | none => s
    | some e => ⟨s.alive.eraseIdx place, e.guard.release⟩

/-- How a thread stands after motions, if nothing was current on it before. -/
def after (motions : List Motion) : Standing := motions.foldl move {}

/-- One motion later. -/
private lemma after_take_succ (motions : List Motion) (k : Nat) :
    after (motions.take (k + 1)) =
      match motions[k]? with
      | none => after (motions.take k)
      | some m => (after (motions.take k)).move m := by
  rw [List.take_add_one, after, List.foldl_append]
  cases motions[k]? <;> rfl

/-- The catalogs of the guards that are alive. -/
def catalogs (alive : List Entered) : List (Shared Catalog) := alive.map Entered.catalog

/-- The current catalog, if there is one, is that of a guard that is alive. Without a guard, nothing
is current. -/
def Backed (s : Standing) : Prop := ∀ catalog ∈ s.context, catalog ∈ catalogs s.alive

/-- Whether what is current has a guard that is alive can be found out from the list of guards. -/
instance : DecidablePred Backed
  | ⟨_, none⟩ => .isTrue fun _ h => nomatch h
  | ⟨alive, some catalog⟩ => decidable_of_iff (catalog ∈ catalogs alive) (by simp [Backed])

/-- If the guard at this place put back a catalog, a guard of this catalog would be left. -/
def Outlived (s : Standing) (place : Nat) : Prop :=
  ∀ e ∈ s.alive[place]?, ∀ catalog ∈ e.guard.displaced, catalog ∈ catalogs (s.alive.eraseIdx place)

/-! ## One motion -/

/-- What was just entered has a guard. -/
private lemma backed_enter (s : Standing) (catalog : Shared Catalog) :
    (s.move (.enter catalog)).Backed := by
  rintro _ ⟨⟩
  simp [move, catalogs]

/-- After a guard was dropped the current catalog has a guard exactly if what was dropped was
outlived. -/
private lemma backed_drop {s : Standing} (backed : s.Backed) (place : Nat) :
    (s.move (.drop place)).Backed ↔ s.Outlived place := by
  cases dropped : s.alive[place]? with
  | none => simpa [move, Outlived, dropped] using backed
  | some e => simp [move, Outlived, dropped, Backed, Guard.release]

/-! ## All motions -/

/-- The activity comes to its end, with the guards and the current catalog that its motions lead to,
and leaves everything else as it is.

**Proof sketch.** Induction on the motions. Entering and leaving run no code of a collaborator's,
and do to the current catalog what the motion does to the standing. -/
private lemma handle_run (H : Host σ) (bound : Nat) (motions : List Motion) (s : Standing)
    (w : World σ) :
    (handle motions s.alive).perform H bound { w with context := s.context } =
      .ok ((motions.foldl move s).alive, { w with context := (motions.foldl move s).context }) := by
  induction motions generalizing s with
  | nil => rfl
  | cons m rest ih =>
    cases m with
    | enter catalog =>
      have entered : World.perform H bound (.enter catalog) { w with context := s.context } =
          .ok ((s.context.enter catalog).1, { w with context := (s.context.enter catalog).2 }) := by
        cases bound <;> rfl
      exact (Activity.run_call entered).trans (ih (s.move (.enter catalog)))
    | drop place =>
      rw [handle, List.foldl_cons]
      cases dropped : s.alive[place]? with
      | none => simpa only [move, dropped] using ih s
      | some e =>
        have left : World.perform H bound (.leave e.guard) { w with context := s.context } =
            .ok ((), { w with context := e.guard.release }) := by
          cases bound <;> rfl
        simp only [move, dropped]
        exact (Activity.run_call left).trans (ih ⟨s.alive.eraseIdx place, e.guard.release⟩)

/-- The current catalog has a guard at every point exactly if every guard that is dropped is
outlived.

**Proof sketch.** What a guard puts back is current right after it is dropped, which gives one
direction. For the other, induction on the number of motions up to the point. -/
private lemma backed_iff (motions : List Motion) :
    (∀ k, (after (motions.take k)).Backed) ↔
      ∀ k place, motions[k]? = some (.drop place) →
        (after (motions.take k)).Outlived place := by
  constructor
  · intro backed k place next
    have dropped := backed (k + 1)
    rw [after_take_succ, next] at dropped
    exact (backed_drop (backed k) place).mp dropped
  · intro outlived k
    induction k with
    | zero => rintro _ ⟨⟩
    | succ k ih =>
      rw [after_take_succ]
      cases next : motions[k]? with
      | none => exact ih
      | some m =>
        cases m with
        | enter catalog => exact backed_enter _ catalog
        | drop place => exact (backed_drop ih place).mpr (outlived k place next)

/-! ## Guards that are dropped in the reverse order -/

/-- The last guard put back what is innermost without it. -/
private lemma displaced_of_stacked {alive : List Entered} {e : Entered}
    (stacked : Stacked none (alive ++ [e]).reverse) :
    e.guard.displaced = innermost none alive.reverse ∧ Stacked none alive.reverse := by
  rw [List.reverse_concat] at stacked
  exact stacked

/-- What is innermost was entered. -/
private lemma mem_catalogs_of_innermost {alive : List Entered} {catalog : Shared Catalog}
    (found : catalog ∈ innermost none alive.reverse) : catalog ∈ catalogs alive := by
  rw [catalogs, ← List.mem_reverse, ← List.map_reverse]
  cases reversed : alive.reverse with
  | nil => rw [reversed] at found; cases found
  | cons e outer =>
    rw [reversed] at found
    obtain rfl : e.catalog = catalog := Option.some.inj found
    exact List.mem_cons_self

/-- Where only the last guard is ever dropped, guards are stacked at every point, and the innermost
catalog is current.

**Proof sketch.** Induction on the number of motions. Entering puts one more guard on the stack.
Dropping takes the last one away, which puts back what was current when it was made, and this is the
innermost of the others. -/
private lemma stacked_of_last {motions : List Motion}
    (last : ∀ k place, motions[k]? = some (.drop place) →
      (after (motions.take k)).alive.length = place + 1) (k : Nat) :
    (after (motions.take k)).context = innermost none (after (motions.take k)).alive.reverse ∧
      Stacked none (after (motions.take k)).alive.reverse := by
  induction k with
  | zero => exact ⟨rfl, stacked_nil⟩
  | succ k ih =>
    rw [after_take_succ]
    cases next : motions[k]? with
    | none => exact ih
    | some m =>
      obtain ⟨current, stacked⟩ := ih
      cases m with
      | enter catalog =>
        simp only [move, List.reverse_concat]
        exact ⟨rfl, current, stacked⟩
      | drop place =>
        have length := last k place next
        generalize after (motions.take k) = s at length stacked
        obtain ⟨init, e, alive⟩ :=
          (List.eq_nil_or_concat s.alive).resolve_left fun none => by simp [none] at length
        rw [List.concat_eq_append] at alive
        obtain rfl : init.length = place := by simpa [alive] using length
        have moved : s.move (.drop init.length) = ⟨init, e.guard.displaced⟩ := by
          simp [move, alive, Guard.release, List.eraseIdx_append_of_length_le]
        rw [alive] at stacked
        simp only [moved]
        exact displaced_of_stacked stacked

/-- Where only the last guard is ever dropped, the current catalog has a guard at every point. -/
private lemma backed_of_last {motions : List Motion}
    (last : ∀ k place, motions[k]? = some (.drop place) →
      (after (motions.take k)).alive.length = place + 1) (k : Nat) :
    (after (motions.take k)).Backed := by
  intro catalog current
  rw [(stacked_of_last last k).1] at current
  exact mem_catalogs_of_innermost current

end Standing

/-- **Guards and the current catalog.** A thread on which nothing is current enters catalogs and
drops guards in any order. This always comes to its end and changes nothing but what is current. The
current catalog, if there is one, is at every point that of a guard that is alive exactly if no
guard is ever dropped that was made while a catalog was current all of whose guards are gone. To
drop guards in the reverse order of their making is enough for that.

**Proof sketch.** Standings follow the motions, so that the first part is a run of `handle`. The
other two parts are facts on standings, by what one motion does to a standing that is backed. -/
theorem backed_iff_outlived (H : Host σ) (bound : Nat) (w : World σ) (nothing : w.context = none)
    (motions : List Motion) :
    (handle motions []).perform H bound w =
        .ok ((Standing.after motions).alive,
          { w with context := (Standing.after motions).context }) ∧
      ((∀ k, (Standing.after (motions.take k)).Backed) ↔
        ∀ k place, motions[k]? = some (.drop place) →
          (Standing.after (motions.take k)).Outlived place) ∧
      ((∀ k place, motions[k]? = some (.drop place) →
          (Standing.after (motions.take k)).alive.length = place + 1) →
        ∀ k, (Standing.after (motions.take k)).Backed) := by
  have start : w = { w with context := none } := by rw [← nothing]
  have run := Standing.handle_run H bound motions {} w
  rw [← start] at run
  exact ⟨run, Standing.backed_iff motions, Standing.backed_of_last⟩

/-! ## Guards that cross -/

/-- Two catalogs are entered, and of their guards first the one at `place` is dropped and then the
other. -/
def travels (place : Nat) : List Motion :=
  [.enter plains, .enter hills, .drop place, .drop 0]

/-- The way to the hills and back, with the guards dropped in the reverse order of their making. -/
theorem backed_travels :
    ({ host := 0 } : World Nat).context = none ∧
      (∀ k place, (travels 1)[k]? = some (.drop place) →
        (Standing.after ((travels 1).take k)).alive.length = place + 1) ∧
      ∀ k, (Standing.after ((travels 1).take k)).Backed := by
  have last : ∀ k place, (travels 1)[k]? = some (.drop place) →
      (Standing.after ((travels 1).take k)).alive.length = place + 1
    | 2, _, rfl => rfl
    | 3, _, rfl => rfl
  exact ⟨rfl, last, (backed_iff_outlived wandering 0 { host := 0 } rfl (travels 1)).2.2 last⟩

/-- If the guards are dropped in the order of their making, the plains are current in the end, and
no guard is left. -/
theorem not_backed_crossed :
    (handle (travels 0) []).perform wandering 0 { host := 0 } =
        .ok ([], { host := 0, context := some plains }) ∧
      ¬ (Standing.after (travels 0)).Backed := by
  constructor
  · rfl
  · decide

end Standby
