import Standby.Proofs.World.Unseen
set_option autoImplicit false

/-!
# Nobody reads the journal

The journal tells what happened, and nothing that happens depends on it. Whatever happened before,
an activity does the same and adds the same to the journal.

## Main definitions

* `Standby.World.atop` — the world in which something else happened before everything that happened.
* `Standby.World.told` — the world in which the journal tells something else.

## Main results

* `Standby.World.perform_atop`, `Standby.World.run_atop` — calls and activities do the same whatever
  happened before.
* `Standby.World.exists_news` — an activity adds the same to every journal.
-/

namespace Standby.World

variable {σ : Type} {H : Host σ} {α : Type} {w v : World σ} {p : ProxyId} {r : RegistryId}
  (j : List Event)

/-! ## Other journals -/

/-- The world in which `j` happened before everything that happened. -/
def atop (w : World σ) (j : List Event) : World σ := { w with journal := w.journal ++ j }

/-- The world in which the journal is `j`. -/
def told (w : World σ) (j : List Event) : World σ := { w with journal := j }

/-- What happened is what happened in a world with no past, after that past. -/
private lemma atop_told : (w.told []).atop w.journal = w := rfl

/-- The library does not see what happened before. -/
private lemma unseen_atop : Unseen (atop (σ := σ) · j) where
  proxies _ := rfl
  registries _ := rfl
  installed _ := rfl
  putProxies _ _ := rfl
  putRegistries _ _ := rfl
  putInstalled _ _ := rfl
  record _ _ := rfl

/-! ## Every call -/

section Calls

variable {perform : Activity.Performance σ}
  (calls : ∀ (c : Call) (w : World σ), perform c (w.atop j) = along (atop · j) (perform c w))
include calls

/-- An activity does the same whatever happened before if all calls do.

**Proof sketch.** Induction on the activity. -/
private lemma run_atop_of_calls (a : Activity σ α) (w : World σ) :
    a.run perform (w.atop j) = along (atop · j) (a.run perform w) := by
  induction a generalizing w with
  | done a => rfl
  | get next ih => exact ih w.host w
  | put s next ih => exact ih { w with host := s }
  | call c next ih =>
    rw [Activity.run, Activity.run, calls]
    cases perform c w with
    | error h => rfl
    | ok outcome => exact ih outcome.1 outcome.2
  | thread body next ihBody ihNext =>
    have during : body.run perform { w.atop j with context := none } =
        along (atop · j) (body.run perform { w with context := none }) :=
      ihBody { w with context := none }
    rw [Activity.run, Activity.run, during]
    cases body.run perform { w with context := none } with
    | error h => rfl
    | ok outcome => exact ihNext outcome.1 { outcome.2 with context := w.context }

/-- A dialogue does the same whatever happened before if all calls do. -/
private lemma converse_atop {resolver : Resolver} {factory : Factory} (t : Talk α) (w : World σ) :
    converse perform H p resolver factory t (w.atop j) =
      along (atop · j) (converse perform H p resolver factory t w) := by
  induction t generalizing w with
  | done a => rfl
  | ask q next ih =>
    rw [converse, converse, (unseen_atop j).record, run_atop_of_calls j calls]
    cases (H.serve resolver factory q).run perform (w.record (.asked p q)) with
    | error h => rfl
    | ok outcome => exact ih outcome.1 (outcome.2.record (.answered p ⟨q, outcome.1⟩))

/-- An operation does the same whatever happened before if all calls do. -/
private lemma operate_atop (operation : Proxy.Operation) (w : World σ) :
    operate perform H p operation (w.atop j) = along (atop · j) (operate perform H p operation w) :=
  operate_unseen (unseen_atop j) fun _ _ _ => converse_atop j calls _ _

/-- A sweep does the same whatever happened before if all calls do. -/
private lemma sweep_atop (ps : List ProxyId) (w : World σ) :
    sweep perform H r ps (w.atop j) = (sweep perform H r ps w).map (atop · j) := by
  induction ps generalizing w with
  | nil => rfl
  | cons p rest ih =>
    rw [sweep, sweep, (unseen_atop j).record, operate_atop j calls]
    cases operate perform H p .stop (w.record (.swept r p)) with
    | error h => rfl
    | ok outcome => exact ih outcome.2

end Calls

/-- A call that runs no code of a collaborator's does the same whatever happened before. -/
private lemma plain_atop {bound : Nat} {c : Call} (plain : c.Plain) :
    perform H bound c (w.atop j) = along (atop · j) (perform H bound c w) := by
  cases c with
  | enter _ | leave _ | current =>
    rw [perform, perform]
    rfl
  | establish _ _ | obtain _ _ | entries _ | nameOf _ | observe _ | install _ | installed =>
    exact plain_unseen (unseen_atop j) trivial trivial
  | operate _ _ | reset _ | construct _ => exact plain.elim

/-- A call does the same whatever happened before.

**Proof sketch.** Induction on the bound, as for everything that is true of calls. -/
theorem perform_atop (bound : Nat) (c : Call) (w : World σ) :
    perform H bound c (w.atop j) = along (atop · j) (perform H bound c w) := by
  induction bound generalizing c w with
  | zero =>
    cases c with
    | operate _ _ | reset _ | construct _ => rfl
    | establish _ _ | obtain _ _ | entries _ | nameOf _ | observe _ | install _ | installed
    | enter _ | leave _ | current => exact plain_atop j trivial
  | succ bound ih =>
    cases c with
    | operate p operation => exact operate_atop j ih operation w
    | construct type => exact run_atop_of_calls j ih _ w
    | reset r =>
      exact reset_unseen (unseen_atop j) (fun _ _ _ => sweep_atop j ih _ _) fun _ _ _ _ _ => ih _ _
    | establish _ _ | obtain _ _ | entries _ | nameOf _ | observe _ | install _ | installed
    | enter _ | leave _ | current => exact plain_atop j trivial

/-! ## Activities -/

/-- An activity does the same whatever happened before. -/
theorem run_atop (a : Activity σ α) (bound : Nat) (w : World σ) :
    a.run (perform H bound) (w.atop j) = along (atop · j) (a.run (perform H bound) w) :=
  run_atop_of_calls j (perform_atop j bound) a w

/-- **Nobody reads the journal.** What an activity adds to the journal, and everything else that
comes of it, is the same whatever the journal tells before. -/
theorem exists_news {a : Activity σ α} {bound : Nat} {x : α}
    (h : a.run (perform H bound) w = .ok (x, v)) :
    ∃ news, v.journal = news ++ w.journal ∧
      ∀ j, a.run (perform H bound) (w.told j) = .ok (x, v.told (news ++ j)) := by
  have split := run_atop w.journal a (H := H) bound (w.told [])
  rw [atop_told, h] at split
  cases fresh : a.run (perform H bound) (w.told []) with
  | error halt =>
    rw [fresh] at split
    cases split
  | ok outcome =>
    rw [fresh] at split
    obtain ⟨rfl, rfl⟩ := Prod.mk.inj (Except.ok.inj split)
    refine ⟨outcome.2.journal, rfl, fun j => ?_⟩
    change a.run (perform H bound) ((w.told []).atop j) = _
    rw [run_atop, fresh]
    rfl

end Standby.World
