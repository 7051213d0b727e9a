import Standby.Proofs.World.Roster
set_option autoImplicit false

/-!
# Code that resets nothing

Entries are removed by a reset and by nothing else. Where neither a client nor the code around the
library calls a reset of a registry, whatever it is told and whatever else it calls, nothing is
removed from this registry: not at the end of a run, and not in the middle of a call.

## Main definitions

* `Standby.Activity.Forgoes`, `Standby.Host.Forgoes` — code that never calls a reset of a registry.
* `Standby.World.Retains` — nothing was removed from a registry.

## Main results

* `Standby.World.retains_perform` — every call but this reset retains all entries.
* `Standby.World.retains_run` — and so does every run, at every moment.

## Design

What an activity calls depends on the answers that it gets, so that it never calls the reset is said
of all answers. The relation does not hold across a pass of this reset, so it is not one that every
step keeps; the inductions here follow the calls that are made.
-/

namespace Standby

variable {σ : Type}

/-! ## Code that forgoes a reset -/

/-- The activity never calls a reset of the registry `r`, whatever answers it gets. -/
def Activity.Forgoes (r : RegistryId) : {α : Type} → Activity σ α → Prop
  | _, done _ => True
  | _, get next => ∀ s, (next s).Forgoes r
  | _, put _ next => next.Forgoes r
  | _, call c next => c ≠ .reset r ∧ ∀ answer, (next answer).Forgoes r
  | _, thread body next => body.Forgoes r ∧ ∀ b, (next b).Forgoes r

/-- None of the collaborators ever calls a reset of the registry `r`. -/
structure Host.Forgoes (H : Host σ) (r : RegistryId) : Prop where
  resolve : ∀ reference name, (H.resolve reference name).Forgoes r
  create : ∀ reference type, (H.create reference type).Forgoes r
  construct : ∀ constructor, (H.construct constructor).Forgoes r
  capability : ∀ product, (H.capability product).Forgoes r
  start : ∀ product, (H.start product).Forgoes r
  stop : ∀ product, (H.stop product).Forgoes r

/-- What answers the requests of a proxy does not call the reset either.

**Proof sketch.** By cases on the request. The built-in resolvers and the built-in factory call no
reset, and the other code is that of the host. -/
private lemma Host.Forgoes.serve {H : Host σ} {r : RegistryId} (forgoes : H.Forgoes r)
    {resolver : Resolver} {factory : Factory} (q : Request) :
    (H.serve resolver factory q).Forgoes r := by
  cases q with
  | resolve name =>
    cases resolver with
    | ambient => exact ⟨by simp, fun _ => trivial⟩
    | catalog c => trivial
    | custom reference => exact forgoes.resolve reference name
  | create type =>
    cases factory with
    | direct =>
      refine ⟨by simp, fun answer => ?_⟩
      cases answer <;> trivial
    | custom reference => exact forgoes.create reference type
  | capability product => exact forgoes.capability product
  | start product => exact forgoes.start product
  | stop product => exact forgoes.stop product

namespace Activity.Forgoes

variable {α β ε : Type} {r : RegistryId}

/-- Activities that forgo the reset forgo it one after the other. -/
private lemma bind {a : Activity σ α} {f : α → Activity σ β} (ha : a.Forgoes r)
    (hf : ∀ x, (f x).Forgoes r) : (a >>= f).Forgoes r := by
  change (a.bind f).Forgoes r
  induction a with
  | done x => exact hf x
  | get next ih => exact fun s => ih s (ha s) hf
  | put s next ih => exact ih ha hf
  | call c next ih => exact ⟨ha.1, fun answer => ih answer (ha.2 answer) hf⟩
  | thread body next _ ih => exact ⟨ha.1, fun b => ih b (ha.2 b) hf⟩

/-- And so do several of them up to the first that fails. -/
private lemma untilFailure {as : List (Activity σ (Except ε Unit))} (h : ∀ a ∈ as, a.Forgoes r) :
    (Activity.untilFailure as).Forgoes r := by
  induction as with
  | nil => exact trivial
  | cons a as ih =>
    refine (h a List.mem_cons_self).bind fun result => ?_
    cases result with
    | ok => exact ih fun b hb => h b (List.mem_cons_of_mem _ hb)
    | error e => exact trivial

end Activity.Forgoes

/-- To resolve all proxies of a registry resets nothing. -/
lemma Registry.forgoes_resolveAll (r s : RegistryId) :
    (Registry.resolveAll r : Activity σ _).Forgoes s := by
  refine ⟨by simp, fun entries => .untilFailure fun a ha => ?_⟩
  obtain ⟨e, -, rfl⟩ := List.mem_map.1 ha
  exact ⟨by simp, fun _ => trivial⟩

/-- To apply a manifest resets nothing. -/
lemma Registry.forgoes_apply (r s : RegistryId) (m : Manifest) :
    (Registry.apply r m : Activity σ _).Forgoes s := by
  refine .untilFailure fun a ha => ?_
  obtain ⟨d, -, rfl⟩ := List.mem_map.1 ha
  refine ⟨by simp, fun p => ?_⟩
  cases d.start with
  | false => exact trivial
  | true => exact ⟨by simp, fun _ => trivial⟩

namespace World

variable {H : Host σ} {w w' v : World σ} {r : RegistryId} {p : ProxyId}
  {operation : Proxy.Operation}
  {ps : List ProxyId}

/-- Between two worlds nothing was removed from the registry `r`. -/
def Retains (r : RegistryId) (w w' : World σ) : Prop :=
  ∃ news, w'.journal = news ++ w.journal ∧ removedFrom r news = []

/-- Where the journal stays as it is nothing is removed. -/
private lemma retains_of_eq (hjournal : w'.journal = w.journal) : Retains r w w' :=
  ⟨[], hjournal, rfl⟩

/-- An event that is no removal from the registry removes nothing from it. -/
private lemma retains_record {e : Event} (h : removedFrom r [e] = []) : Retains r w (w.record e) :=
  ⟨[e], rfl, h⟩

/-- Retaining composes, and neither the collaborators' state nor what is current matters to it. -/
private lemma retains_silent (r : RegistryId) : Silent (Retains (σ := σ) r) where
  refl _ := retains_of_eq rfl
  trans := by
    rintro u v w ⟨news, hv, hnews⟩ ⟨later, hw, hlater⟩
    exact ⟨later ++ news, journal_trans hv hw, by simp [hnews, hlater]⟩
  host _ _ := retains_of_eq rfl
  context _ _ := retains_of_eq rfl

/-- What is done to a proxy removes nothing. -/
private lemma retains_put {e : Event} (proxy : Proxy) (h : removedFrom r [e] = []) :
    Retains r w ((w.setProxy p proxy).record e) := ⟨[e], rfl, h⟩

section Calls

variable {perform : Activity.Performance σ}
  (calls : ∀ {c u answer v}, c ≠ .reset r → perform c u = .ok (answer, v) → Retains r u v)
include calls

/-- Nothing is removed by an activity that forgoes the reset.

**Proof sketch.** Induction on the activity, across each call that it makes. -/
private lemma retains_run_of_calls {α : Type} {a : Activity σ α} {x : α} (ha : a.Forgoes r)
    (h : a.run perform w = .ok (x, w')) : Retains r w w' := by
  have silent := retains_silent (σ := σ) r
  induction a generalizing w w' with
  | done a =>
    obtain ⟨rfl, rfl⟩ : a = x ∧ w = w' := by simpa [Activity.run] using h
    exact silent.refl w
  | get next ih => exact ih w.host (ha w.host) h
  | put s next ih => exact silent.trans (silent.host w s) (ih ha h)
  | call c next ih =>
    obtain ⟨answer, v, hcall, h⟩ := Activity.run_call_ok h
    exact silent.trans (calls ha.1 hcall) (ih answer (ha.2 answer) h)
  | thread body next ihBody ihNext =>
    obtain ⟨b, v, hbody, h⟩ := Activity.run_thread_ok h
    have finished := silent.trans (silent.context w none) (ihBody ha.1 hbody)
    exact silent.trans finished (silent.trans (silent.context v _) (ihNext b (ha.2 b) h))

variable (forgoes : H.Forgoes r)
include forgoes

/-- Nothing is removed by a dialogue.

**Proof sketch.** Induction on the dialogue. Its questions and answers are not removals, and the
code that serves them forgoes the reset. -/
private lemma retains_converse {α : Type} {t : Talk α} {x : α} {resolver : Resolver}
    {factory : Factory}
    (h : converse perform H p resolver factory t w = .ok (x, w')) : Retains r w w' := by
  have silent := retains_silent (σ := σ) r
  induction t generalizing w with
  | done a =>
    obtain ⟨rfl, rfl⟩ : a = x ∧ w = w' := by simpa [converse] using h
    exact silent.refl w
  | ask q next ih =>
    obtain ⟨answer, u, hserve, h⟩ := converse_ask_ok h
    have served := retains_run_of_calls calls (forgoes.serve q) hserve
    have asked := silent.trans (retains_record (e := .asked p q) rfl) served
    exact silent.trans asked (silent.trans (retains_record rfl) (ih answer h))

/-- Nothing is removed by an operation on a proxy. -/
private lemma retains_operate {result : Except ProxyError Unit}
    (h : operate perform H p operation w = .ok (result, w')) : Retains r w w' := by
  have silent := retains_silent (σ := σ) r
  obtain ⟨proxy, state, v, -, -, hconverse, rfl⟩ := operate_ok h
  have talked := retains_converse calls forgoes hconverse
  exact silent.trans (retains_put _ rfl) (silent.trans talked (retains_put _ rfl))

/-- Nothing is removed by the stops of a sweep. -/
private lemma retains_sweep {r' : RegistryId}
    (h : sweep perform H r' ps w = .ok w') : Retains r w w' :=
  (retains_silent r).sweep (fun _ _ => retains_record rfl)
    (fun h => retains_operate calls forgoes h) h

variable {inside : Call → World σ → World σ → Prop}
  (within : ∀ {c u v}, c ≠ .reset r → inside c u v → Retains r u v)
include within

omit forgoes in
/-- An activity that forgoes the reset goes through worlds in which nothing is removed.

**Proof sketch.** Induction on the way through the activity. -/
private lemma retains_passes {α : Type} {a : Activity σ α} (ha : a.Forgoes r)
    (h : a.Passes perform inside w v) : Retains r w v := by
  have silent := retains_silent (σ := σ) r
  induction h with
  | here => exact silent.refl _
  | get _ ih => exact ih (ha _)
  | put _ ih => exact silent.trans (silent.host _ _) (ih ha)
  | within during => exact within ha.1 during
  | after ended _ ih => exact silent.trans (calls ha.1 ended) (ih (ha.2 _))
  | body _ ih => exact silent.trans (silent.context _ none) (ih ha.1)
  | joined ended _ ih =>
    have finished := silent.trans (silent.context _ none) (retains_run_of_calls calls ha.1 ended)
    exact silent.trans finished (silent.trans (silent.context _ _) (ih (ha.2 _)))

/-- A dialogue goes through worlds in which nothing is removed. -/
private lemma retains_talkPasses {α : Type} {t : Talk α} {resolver : Resolver} {factory : Factory}
    (h : TalkPasses perform inside H p resolver factory t w v) : Retains r w v := by
  have silent := retains_silent (σ := σ) r
  induction h with
  | here => exact silent.refl _
  | within during =>
    exact silent.trans (retains_record rfl) (retains_passes calls within (forgoes.serve _) during)
  | after ended _ ih =>
    have served := retains_run_of_calls calls (forgoes.serve _) ended
    exact silent.trans (silent.trans (retains_record rfl) served)
      (silent.trans (retains_record rfl) ih)

/-- An operation goes through worlds in which nothing is removed. -/
private lemma retains_operatePasses (h : OperatePasses perform inside H p operation w v) :
    Retains r w v := by
  obtain ⟨proxy, -, -, h⟩ := h
  exact (retains_silent r).trans (retains_put _ rfl) (retains_talkPasses calls forgoes within h)

/-- A sweep goes through worlds in which nothing is removed. -/
private lemma retains_sweepPasses {r' : RegistryId} (h : SweepPasses perform inside H r' ps w v) :
    Retains r w v := by
  have silent := retains_silent (σ := σ) r
  induction h with
  | here => exact silent.refl _
  | within during =>
    exact silent.trans (retains_record rfl) (retains_operatePasses calls forgoes within during)
  | after ended _ ih =>
    exact silent.trans (silent.trans (retains_record rfl) (retains_operate calls forgoes ended)) ih

end Calls

/-! ## Calls and runs -/

/-- What another registry loses this one retains. -/
private lemma retains_remove {r' : RegistryId} (h : r' ≠ r) (gone : List ProxyId) :
    Retains r w (w.remove r' gone) := by
  rcases remove_cases (w := w) r' gone with same | told
  · rw [same]
    exact retains_of_eq rfl
  · exact ⟨_, told, by simp [removedFrom, h]⟩

section Runs

variable (forgoes : H.Forgoes r) {bound : Nat} {c : Call}
include forgoes

/-- Every call but its reset retains all that is registered in `r`.

**Proof sketch.** Induction on the bound: a nested call has less of it, and the collaborators do not
call the reset. -/
theorem retains_perform (hc : c ≠ .reset r) {answer : c.Answer}
    (h : perform H bound c w = .ok (answer, w')) : Retains r w w' := by
  have silent := retains_silent (σ := σ) r
  induction bound using Nat.strongRecOn generalizing c w w' with
  | _ bound ih =>
  have calls {b : Nat} (hb : b < bound) {c u} {answer : c.Answer} {v} (hc : c ≠ .reset r)
      (ended : perform H b c u = .ok (answer, v)) : Retains r u v :=
    ih b hb hc ended
  cases c with
  | operate p operation =>
    cases bound with
    | zero => cases h
    | succ bound => exact retains_operate (calls bound.lt_succ_self) forgoes h
  | reset r' =>
    have hr : r' ≠ r := fun e => hc (congrArg Call.reset e)
    cases bound with
    | zero => cases h
    | succ bound =>
      obtain ⟨registry, -, ⟨-, rfl⟩ | ⟨-, v, hsweep, h⟩⟩ := perform_reset_ok h
      · exact silent.refl w'
      · have swept := retains_sweep (calls bound.lt_succ_self) forgoes hsweep
        exact silent.trans (silent.trans swept (retains_remove hr _))
          (ih bound bound.lt_succ_self hc h)
  | construct type =>
    cases bound with
    | zero => cases h
    | succ bound =>
      exact retains_run_of_calls (calls bound.lt_succ_self) (forgoes.construct _) h
  | establish _ _ | obtain _ _ | entries _ | nameOf _ | observe _ | install _ | installed
  | enter _ | leave _ | current =>
    refine silent.plain (fun _ _ _ => retains_of_eq rfl) (fun hobtain => ?_)
      (fun _ r => retains_of_eq (journal_install r)) h trivial
    rcases obtain_registers hobtain with ⟨rfl, -⟩ | registers
    · exact silent.refl _
    · exact ⟨[_], registers.journal, rfl⟩

/-- Every call but its reset goes through worlds that retain all that is registered in `r`.

**Proof sketch.** Induction on the bound. The reset of another registry removes from that one only,
and all else is code of the host, which forgoes the reset of this one. -/
theorem retains_inside (hc : c ≠ .reset r) (h : Inside H bound c w v) : Retains r w v := by
  have silent := retains_silent (σ := σ) r
  induction bound generalizing c w v with
  | zero => cases c <;> exact h.elim
  | succ bound ih =>
    have calls {c u answer v} (hc : c ≠ .reset r) (ended : perform H bound c u = .ok (answer, v)) :
        Retains r u v :=
      retains_perform forgoes hc ended
    cases c with
    | operate p operation => exact retains_operatePasses calls forgoes ih h
    | construct type => exact retains_passes calls ih (forgoes.construct _) h
    | reset r' =>
      have hr : r' ≠ r := fun e => hc (congrArg Call.reset e)
      obtain ⟨registry, -, -, h | ⟨w', hsweep, h⟩⟩ := h
      · exact retains_sweepPasses calls forgoes ih h
      · have swept : Retains r w w' := retains_sweep calls forgoes hsweep
        have removed := silent.trans swept (retains_remove hr registry.proxies)
        rcases h with rfl | h
        · exact removed
        · exact silent.trans removed (ih hc h)
    | establish _ _ | obtain _ _ | entries _ | nameOf _ | observe _ | install _ | installed
    | enter _ | leave _ | current => exact h.elim

/-- **Only a reset removes entries.** Where nobody calls a reset of `r`, nothing is removed from it
at any moment of a run. -/
theorem retains_run {α : Type} {a : Activity σ α} (ha : a.Forgoes r)
    (h : a.Passes (perform H bound) (Inside H bound) w v) : Retains r w v :=
  retains_passes (fun hc ended => retains_perform forgoes hc ended)
    (fun hc during => retains_inside forgoes hc during) ha h

end Runs

end World

end Standby
