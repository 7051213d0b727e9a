import Standby.Proofs.World.Passage
set_option autoImplicit false

/-!
# What holds in the middle of a call

A relation that holds across every call that is over says nothing yet about the worlds that a call
goes through while it runs code of a collaborator's. The way to such a world is made of calls that
are over and of the first steps of those that are not.

## Main definitions

* `Standby.World.Stepwise` — relations that hold across the first steps of an operation as well.
* `Standby.World.Follows` — relations to the worlds that a call goes through.

## Main results

* `Standby.World.Follows.inside` — what follows from the steps holds in every world that a call goes
  through.
* `Standby.World.Follows.reachable` — and in every world that a run goes through.

## Design

Two relations take part. `C` is what the steps and the calls that are over do, and `R` is what is
known of a world in the middle: it holds at the beginning, and `C` may be put in front of it. A
sweep is left to the relation itself, since it may know something about the proxies that it is going
to stop.
-/

namespace Standby.World

variable {σ : Type} {H : Host σ} {C R : World σ → World σ → Prop}

/-- A relation that holds across every elementary step, the first steps of an operation included. -/
structure Stepwise (H : Host σ) (C : World σ → World σ → Prop) : Prop extends Closed H C where
  began {w : World σ} {p : ProxyId} {proxy : Proxy} (operation : Proxy.Operation) :
    w.proxy? p = some proxy → proxy.busy = false →
    C w ((w.setProxy p { proxy with busy := true }).record (.began p operation))
  asked (w : World σ) (p : ProxyId) (q : Request) : C w (w.record (.asked p q))
  answered (w : World σ) (p : ProxyId) (x : Exchange) : C w (w.record (.answered p x))

/-- A relation to the worlds that a call goes through. The steps on the way there hold `C`. -/
structure Follows (H : Host σ) (C R : World σ → World σ → Prop) : Prop extends Stepwise H C where
  here (w : World σ) : R w w
  after {u v w : World σ} : C u v → R v w → R u w
  sweeping {bound : Nat} {r : RegistryId} {registry : Registry} {w v : World σ} :
    (∀ {c u v}, Inside H bound c u v → R u v) → w.registry? r = some registry →
    SweepPasses (perform H bound) (Inside H bound) H r registry.proxies w v → R w v

section Passes

variable {perform : Activity.Performance σ} {inside : Call → World σ → World σ → Prop}
  (stepwise : Stepwise H C) (here : ∀ w, R w w) (after : ∀ {u v w}, C u v → R v w → R u w)
  (calls : ∀ {c u answer v}, perform c u = .ok (answer, v) → C u v)
  (within : ∀ {c u v}, inside c u v → R u v)
include stepwise here after calls within

/-- An activity goes through worlds that follow, if the calls that it makes do. -/
private lemma Stepwise.passes {α : Type} {a : Activity σ α} {w v : World σ}
    (h : a.Passes perform inside w v) : R w v := by
  have silent := stepwise.toSilent
  induction h with
  | here => exact here _
  | get _ ih => exact ih
  | put _ ih => exact after (silent.host _ _) ih
  | within during => exact within during
  | after ended _ ih => exact after (calls ended) ih
  | body _ ih => exact after (silent.context _ none) ih
  | joined ended _ ih =>
    have finished := silent.trans (silent.context _ none) (silent.run calls ended)
    exact after finished (after (silent.context _ _) ih)

/-- A dialogue goes through worlds that follow. -/
lemma Stepwise.talkPasses {α : Type} {t : Talk α} {p : ProxyId} {resolver : Resolver}
    {factory : Factory} {w v : World σ}
    (h : TalkPasses perform inside H p resolver factory t w v) : R w v := by
  induction h with
  | here => exact here _
  | within during =>
    exact after (stepwise.asked _ p _) (stepwise.passes here after calls within during)
  | after ended _ ih =>
    have asked := stepwise.trans (stepwise.asked _ p _) (stepwise.toSilent.run calls ended)
    exact after asked (after (stepwise.answered _ p _) ih)

/-- An operation goes through worlds that follow. -/
lemma Stepwise.operatePasses {p : ProxyId} {operation : Proxy.Operation} {w v : World σ}
    (h : OperatePasses perform inside H p operation w v) : R w v := by
  obtain ⟨proxy, known, idle, h⟩ := h
  exact after (stepwise.began operation known idle)
    (stepwise.talkPasses here after calls within h)

/-- A sweep goes through worlds that follow, if that it reaches a proxy is a step like others. -/
private lemma Stepwise.sweepPasses (swept : ∀ w r p, C w (w.record (.swept r p))) {r : RegistryId}
    {ps : List ProxyId} {w v : World σ} (h : SweepPasses perform inside H r ps w v) : R w v := by
  induction h with
  | here => exact here _
  | within during =>
    exact after (swept _ r _) (stepwise.operatePasses here after calls within during)
  | after ended _ ih =>
    exact after (stepwise.trans (swept _ r _) (stepwise.operate calls ended)) ih

end Passes

/-- What holds across the steps of a sweep too follows itself. -/
lemma Stepwise.follows (stepwise : Stepwise H C) (swept : ∀ w r p, C w (w.record (.swept r p))) :
    Follows H C C where
  toStepwise := stepwise
  here := stepwise.refl
  after := stepwise.trans
  sweeping within _ h :=
    stepwise.sweepPasses stepwise.refl stepwise.trans stepwise.toClosed.perform within swept h

namespace Follows

variable (follows : Follows H C R)
include follows

/-- What follows from the steps holds in every world that a call goes through.

**Proof sketch.** Induction on the bound, as for calls that are over. In the middle of a reset the
way goes on from the steps of its sweep, or from the pass that is over. -/
theorem inside {bound : Nat} {c : Call} {w v : World σ} (h : Inside H bound c w v) : R w v := by
  induction bound generalizing c w v with
  | zero => cases c <;> exact h.elim
  | succ bound ih =>
    have calls {c u answer v} (hc : World.perform H bound c u = .ok (answer, v)) : C u v :=
      follows.toClosed.perform hc
    cases c with
    | operate p operation =>
      exact follows.toStepwise.operatePasses follows.here follows.after calls ih h
    | construct type => exact follows.toStepwise.passes follows.here follows.after calls ih h
    | reset r =>
      obtain ⟨registry, known, -, h | ⟨w', hsweep, h⟩⟩ := h
      · exact follows.sweeping ih known h
      · have removed := follows.pass calls known hsweep
        rcases h with rfl | h
        · exact follows.after removed (follows.here _)
        · exact follows.after removed (ih h)
    | establish _ _ | obtain _ _ | entries _ | nameOf _ | observe _ | install _ | installed
    | enter _ | leave _ | current => exact h.elim

/-- What follows from the steps holds in every world that an activity goes through. -/
theorem passes {bound : Nat} {α : Type} {a : Activity σ α} {w v : World σ}
    (h : a.Passes (perform H bound) (Inside H bound) w v) : R w v :=
  follows.toStepwise.passes follows.here follows.after follows.toClosed.perform follows.inside h

/-- What follows from the steps holds in every world that a run goes through. -/
theorem reachable {v : World σ} (h : Reachable H v) :
    ∃ (host : σ) (context : Context), R { host, context } v := by
  obtain ⟨α, client, bound, host, context, h⟩ := h
  exact ⟨host, context, follows.passes h⟩

end Follows

end Standby.World
