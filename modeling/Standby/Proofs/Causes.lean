import Standby.Proofs.Failures
import Standby.Proofs.World.Bound
set_option autoImplicit false

/-!
# Causes survive

Code that fails says why: a message and the messages of the causes behind it. On its way to whoever
called an operation this passes through the failures of the library, which wrap each other, and a
copy of it is kept by the proxy. All messages arrive, in order, at both places.

## Main definitions

* `Standby.Activity.Makes` — an activity makes a call, and the world in which it does.
* `Standby.Activity.Abrupt` — an activity ends where an operation that it calls fails.
* `Standby.Registry.Reporting` — the operations that report failures, on a proxy and on a registry.
* `Standby.World.Unbuilt`, `Standby.World.Unstarted`, `Standby.World.Unstopped` — a constructor, a
  product's start and a product's stop that fail in the course of an operation.
* `Standby.World.Delivers` — a failure that is returned, and kept by the proxy.

## Main results

* `Standby.World.ends_of_failed` — an operation in which a call fails returns its failure.
* `Standby.Activity.Abrupt.untilFailure` — one abrupt activity after the other is abrupt.
* `Standby.World.causes_survive` — the messages that are returned and kept.

## Design

That an operation returns is part of what is proved: after a call that failed no further call is
made that could keep it from returning.
-/

namespace Standby

open Dialogue

variable {σ : Type} {H : Host σ}

/-! ## The calls of an activity -/

/-- Carried out from `w` on, the activity makes the call `c`, and it does so in the world `u`. -/
inductive Activity.Makes (H : Host σ) : {α : Type} → Activity σ α → World σ → Call → World σ → Prop
  | get {α : Type} {next : σ → Activity σ α} {w u : World σ} {c : Call}
    (makes : Makes H (next w.host) w c u) : Makes H (.get next) w c u
  | put {α : Type} {s : σ} {next : Activity σ α} {w u : World σ} {c : Call}
    (makes : Makes H next { w with host := s } c u) : Makes H (.put s next) w c u
  | now {α : Type} (c : Call) (next : c.Answer → Activity σ α) (w : World σ) :
    Makes H (.call c next) w c w
  | later {α : Type} {c c' : Call} {next : c.Answer → Activity σ α} {w v u : World σ}
    {answer : c.Answer} (bound : Nat) (ended : World.perform H bound c w = .ok (answer, v))
    (makes : Makes H (next answer) v c' u) : Makes H (.call c next) w c' u
  | body {α β : Type} {body : Activity σ β} {next : β → Activity σ α} {w u : World σ} {c : Call}
    (makes : Makes H body { w with context := none } c u) : Makes H (.thread body next) w c u
  | joined {α β : Type} {body : Activity σ β} {next : β → Activity σ α} {w v u : World σ} {c : Call}
    {b : β} (bound : Nat)
    (ended : body.run (World.perform H bound) { w with context := none } = .ok (b, v))
    (makes : Makes H (next b) { v with context := w.context } c u) :
    Makes H (.thread body next) w c u

namespace Activity

variable {α β : Type} {w u v : World σ} {c : Call}

/-- An activity that is over makes no call. -/
private lemma not_makes_done {a : α} : ¬ (Activity.done a).Makes H w c u := nofun

/-- The calls of one activity after the other are those of the first, and those of the second in the
world that the first leaves.

**Proof sketch.** Induction on the first activity. Where it has ended the call belongs to the second
one; where it makes a call, this is the one that is looked for, or a later one is, with a bound that
is large enough for both. -/
private lemma Makes.of_bind {a : Activity σ α} {f : α → Activity σ β}
    (makes : (a >>= f).Makes H w c u) :
    a.Makes H w c u ∨
      ∃ bound x v, a.run (World.perform H bound) w = .ok (x, v) ∧ (f x).Makes H v c u := by
  change (a.bind f).Makes H w c u at makes
  induction a generalizing w with
  | done a => exact .inr ⟨0, a, w, rfl, makes⟩
  | get next ih =>
    cases makes with
    | get makes => exact (ih w.host makes).imp_left .get
  | put s next ih =>
    cases makes with
    | put makes => exact (ih makes).imp_left .put
  | call c next ih =>
    cases makes with
    | now => exact .inl (.now ..)
    | @later _ _ _ _ _ _ _ answer bound ended makes =>
      refine (ih answer makes).imp (.later bound ended) ?_
      rintro ⟨bound', x, v, ran, makes⟩
      refine ⟨max bound bound', x, v, ?_, makes⟩
      rw [run_call (World.perform_mono (Nat.le_max_left ..) ended)]
      exact run_mono (World.perform_mono (Nat.le_max_right ..)) ran
  | thread body next _ ih =>
    cases makes with
    | body makes => exact .inl (.body makes)
    | @joined _ _ _ _ _ _ _ _ b bound ended makes =>
      refine (ih b makes).imp (.joined bound ended) ?_
      rintro ⟨bound', x, v, ran, makes⟩
      refine ⟨max bound bound', x, v, ?_, makes⟩
      rw [run, run_mono (World.perform_mono (Nat.le_max_left ..)) ended]
      exact run_mono (World.perform_mono (Nat.le_max_right ..)) ran

/-! ## Activities that end where an operation fails -/

/-- Where an operation on a proxy fails that the activity calls, the activity is over: it returns
the failure, and leaves the world that the operation left. -/
def Abrupt (a : Activity σ (Except ProxyError Unit)) (H : Host σ) : Prop :=
  ∀ ⦃w u v : World σ⦄ ⦃p : ProxyId⦄ ⦃operation : Proxy.Operation⦄ ⦃err : ProxyError⦄ ⦃bound : Nat⦄,
    a.Makes H w (.operate p operation) u →
    World.perform H bound (.operate p operation) u = .ok (.error err, v) →
    ∃ bound, a.run (World.perform H bound) w = .ok (.error err, v)

namespace Abrupt

variable {first : Activity σ (Except ProxyError Unit)}

/-- An activity that calls nothing is abrupt. -/
private lemma done (result : Except ProxyError Unit) : (Activity.done result).Abrupt H :=
  fun _ _ _ _ _ _ _ makes => absurd makes not_makes_done

/-- What comes after a call that is no operation on a proxy. -/
private lemma call {c : Call} {next : c.Answer → Activity σ (Except ProxyError Unit)}
    (other : ∀ p operation, c ≠ .operate p operation) (h : ∀ answer, (next answer).Abrupt H) :
    (Activity.call c next).Abrupt H := by
  intro w u v p operation err bound makes fails
  cases makes with
  | now => exact absurd rfl (other p operation)
  | @later _ _ _ _ _ _ _ answer bound' ended makes =>
    obtain ⟨bound, ran⟩ := h answer makes fails
    refine ⟨max bound' bound, ?_⟩
    rw [run_call (World.perform_mono (Nat.le_max_left ..) ended)]
    exact run_mono (World.perform_mono (Nat.le_max_right ..)) ran

/-- An operation ends where it fails. -/
private lemma operate (p : ProxyId) (operation : Proxy.Operation) :
    (Activity.operate p operation : Activity σ _).Abrupt H := by
  intro w u v q operation' err bound makes fails
  cases makes with
  | now => exact ⟨bound, run_call fails⟩
  | later _ _ makes => exact absurd makes not_makes_done

/-- One abrupt activity after the other, up to the first that fails, is abrupt.

**Proof sketch.** Induction on the activities. An operation that fails is called by the first
activity, which ends with it then, or by the others after the first did not fail. -/
theorem untilFailure {as : List (Activity σ (Except ProxyError Unit))}
    (h : ∀ a ∈ as, a.Abrupt H) : (Activity.untilFailure as).Abrupt H := by
  induction as with
  | nil => exact done (.ok ())
  | cons first rest ih =>
    intro w u v p operation err bound makes fails
    rw [Activity.untilFailure] at makes ⊢
    rcases makes.of_bind with makes | ⟨bound', _ | ⟨⟩, v', ran, makes⟩
    · obtain ⟨bound, ran⟩ := h first (by simp) makes fails
      refine ⟨bound, ?_⟩
      rw [run_bind, ran]
      rfl
    · exact absurd makes not_makes_done
    · obtain ⟨bound, others⟩ := ih (fun a ha => h a (by simp [ha])) makes fails
      refine ⟨max bound' bound, ?_⟩
      rw [run_bind, run_mono (World.perform_mono (Nat.le_max_left ..)) ran]
      exact run_mono (World.perform_mono (Nat.le_max_right ..)) others

end Abrupt

end Activity

namespace Registry

/-- The operations that report failures: those on a proxy, the resolution of a whole registry, and
the application of a manifest. -/
inductive Reporting : Activity σ (Except ProxyError Unit) → Prop
  | operate (p : ProxyId) (operation : Proxy.Operation) : Reporting (.operate p operation)
  | resolveAll (r : RegistryId) : Reporting (resolveAll r)
  | apply (r : RegistryId) (m : Manifest) : Reporting (apply r m)

/-- They all end where an operation on a proxy fails.

**Proof sketch.** By cases on the activity. All of them are put together from operations on proxies
by going on up to the first failure, and this keeps them abrupt. -/
private lemma Reporting.abrupt {a : Activity σ (Except ProxyError Unit)} (reporting : Reporting a) :
    a.Abrupt H := by
  cases reporting with
  | operate p operation => exact .operate p operation
  | resolveAll r =>
    refine .call (by simp) fun entries => .untilFailure fun a ha => ?_
    obtain ⟨e, -, rfl⟩ := List.mem_map.1 ha
    exact .operate e.proxy .resolve
  | apply r m =>
    refine .untilFailure fun a ha => ?_
    obtain ⟨d, -, rfl⟩ := List.mem_map.1 ha
    refine .call (by simp) fun p => ?_
    change (if d.start then Activity.operate p .start else pure (.ok ()) : Activity σ _).Abrupt H
    split
    · exact .operate p .start
    · exact .done (.ok ())

end Registry

/-! ## Operations in which a call fails -/

/-- The only calls of a stop ask a product for its capability and stop it. -/
private lemma Proxy.OperationPath.calls_of_stop {name : String} {s : State} {es : List Exchange}
    {o : Outcome} (path : OperationPath name .stop s es o) :
    ∀ e ∈ es, (∃ product, e.1 = .capability product) ∨ ∃ product, e.1 = .stop product := by
  cases path <;> simp

namespace World

variable {w u v : World σ} {p : ProxyId} {proxy : Proxy} {operation : Proxy.Operation} {q : Request}
  {answer : q.Answer} {bound : Nat} {resolver : Resolver} {factory : Factory}

/-- A dialogue makes the calls that it makes after its first call is answered, within this bound. -/
private lemma Awaits.next {α : Type} {q' : Request} {next : q.Answer → Talk α} (bound : Nat)
    (served : (H.serve resolver factory q).run (perform H bound) (w.record (.asked p q)) =
      .ok (answer, v))
    (goes : Awaits H p resolver factory (next answer) (v.record (.answered p ⟨q, answer⟩)) q' u) :
    Awaits H p resolver factory (.ask q next) w q' u :=
  .later served goes

/-- A call that a dialogue makes and that is answered leads to the rest of the dialogue. If this is
its end, then the dialogue comes to it.

**Proof sketch.** Induction on the way to the call. Each call on the way takes a bound of its own,
and the largest is enough for all of them. -/
private lemma Awaits.answered {α : Type} {t : Talk α} (awaits : Awaits H p resolver factory t w q u)
    (served : (H.serve resolver factory q).run (perform H bound) u = .ok (answer, v)) :
    ∃ es rest, Reaches t (es ++ [⟨q, answer⟩]) rest ∧ ∀ a, rest = .done a → ∃ bound,
      converse (perform H bound) H p resolver factory t w =
        .ok (a, v.record (.answered p ⟨q, answer⟩)) := by
  induction awaits with
  | now q next w =>
    refine ⟨[], next answer, .ask q next answer _ _ (.refl _), fun a ends => ⟨bound, ?_⟩⟩
    rw [converse, served]
    dsimp only
    rw [ends, converse]
  | @later q₁ q next w v₁ u answer₁ bound₁ served₁ _ ih =>
    obtain ⟨es, rest, reaches, ends⟩ := ih served
    refine ⟨⟨q₁, answer₁⟩ :: es, rest, .ask q₁ next answer₁ _ _ reaches, fun a hrest => ?_⟩
    obtain ⟨bound₂, hconverse⟩ := ends a hrest
    refine ⟨max bound₁ bound₂, ?_⟩
    rw [converse, Activity.run_mono (perform_mono (Nat.le_max_left ..)) served₁]
    exact converse_mono (perform_mono (Nat.le_max_right ..)) hconverse

/-- **An operation in which a call fails returns its failure.** It makes no call after that one, and
so nothing keeps it from returning.

**Proof sketch.** A dialogue that goes on after a call went on after one that did not fail. So this
one is over, with the failure as its result, and to write back a state needs no answer. -/
theorem ends_of_failed (known : w.proxy? p = some proxy) (idle : proxy.busy = false)
    (makes : Makes H p operation w q u)
    (served : (H.serve proxy.resolver proxy.factory q).run (perform H bound) u = .ok (answer, v))
    (failed : Exchange.Failed operation ⟨q, answer⟩) :
    ∃ bound err state w' es, perform H bound (.operate p operation) w = .ok (.error err, w') ∧
      w'.proxy? p = some { proxy with state } ∧
      Exchange.Fails proxy.name state.type operation ⟨q, answer⟩ err ∧ ⟨q, answer⟩ ∈ es ∧
      Proxy.OperationPath proxy.name operation proxy.state es (.error err, state) := by
  obtain ⟨proxy', known', awaits⟩ := makes
  obtain rfl : proxy = proxy' := Option.some.inj (known.symm.trans known')
  obtain ⟨es, rest, reaches, ends⟩ := awaits.answered served
  -- a dialogue that went on after this call would have gone on after a failure
  obtain ⟨⟨result, state⟩, rfl⟩ : ∃ outcome, rest = .done outcome := by
    cases rest with
    | done outcome => exact ⟨outcome, rfl⟩
    | ask q' next => exact absurd failed (not_failed_of_reaches reaches _ (by simp))
  have path := Proxy.path_talk_iff.1 (path_iff_reaches.2 reaches)
  obtain ⟨err, fails⟩ := path.reports.noticed ⟨q, answer⟩ (by simp) failed
  obtain rfl : result = .error err := (path.reports.returned err).2 ⟨_, by simp, fails⟩
  obtain ⟨bound, hconverse⟩ := ends _ rfl
  have ran : operate (perform H bound) H p operation w = .ok (.error err, ((v.record
      (.answered p ⟨q, answer⟩)).setProxy p { proxy with state }).record
        (.ended p operation (.error err))) := by
    simp only [operate, known, idle, hconverse, Bool.false_eq_true, if_false]
  obtain ⟨state', left, -⟩ := operate_path known ran
  refine ⟨bound + 1, err, state, _, es ++ [⟨q, answer⟩], ran, ?_, fails, by simp, path⟩
  cases there : v.proxy? p with
  | some _ => exact proxy?_setProxy_self there
  | none =>
    have out : v.proxies.length ≤ p.index := List.getElem?_eq_none_iff.1 there
    have inside := (List.getElem?_eq_some_iff.1 left).1
    simp only [setProxy, record, List.length_set] at inside
    omega

/-! ## Messages -/

section Fails

variable (H : Host σ) (p : ProxyId) (operation : Proxy.Operation) (w : World σ)

/-- In the course of the operation a constructor is run for a product of the type, and fails. -/
def Unbuilt (type : TypeHandle) (f : Fault) : Prop :=
  ∃ u bound v, Makes H p operation w (.create type) u ∧
    perform H bound (.construct type) u = .ok (.error f, v)

/-- In the course of the operation a product is started, and its start fails. -/
def Unstarted (e : LifecycleError) : Prop :=
  ∃ product u bound v, Makes H p operation w (.start product) u ∧
    (H.start product).run (perform H bound) u = .ok (.error e, v)

/-- In the course of the operation a product is stopped, and its stop fails. -/
def Unstopped (e : LifecycleError) : Prop :=
  ∃ product u bound v, Makes H p operation w (.stop product) u ∧
    (H.stop product).run (perform H bound) u = .ok (.error e, v)

end Fails

/-- Carried out in `w`, the activity returns the failure, and the proxy `p` keeps it. -/
def Delivers (H : Host σ) (a : Activity σ (Except ProxyError Unit)) (w : World σ) (p : ProxyId)
    (err : ProxyError) : Prop :=
  ∃ bound w' proxy, a.run (perform H bound) w = .ok (.error err, w') ∧
    w'.proxy? p = some proxy ∧ proxy.state.lastError = some err

/-- What a constructor reports is wrapped together with the name of the type. -/
private lemma run_build {type : TypeHandle} {f : Fault}
    (failed : perform H bound (.construct type) u = .ok (.error f, v)) :
    (Activity.build type).run (perform H bound) u = .ok (.error ⟨type.name, f⟩, v) :=
  Activity.run_call failed

section Reporting

variable {a : Activity σ (Except ProxyError Unit)}

/-- A failed call of an attempt is returned and kept.

**Proof sketch.** The operation ends with the failure, and so does the activity, which is abrupt.
The call belongs to an attempt, so that the operation is no stop and the call no look-up; and what
an attempt reports is kept. -/
private lemma delivers_of_failed (reporting : Registry.Reporting a)
    (makes : a.Makes H w (.operate p operation) u) (known : u.proxy? p = some proxy)
    (idle : proxy.busy = false) {t v : World σ} {err : ProxyError}
    (asks : Makes H p operation u q t)
    (attempt : (∃ type, q = .create type) ∨ ∃ product, q = .start product)
    (served : (H.serve proxy.resolver proxy.factory q).run (perform H bound) t = .ok (answer, v))
    (fails : ∀ type, Exchange.Fails proxy.name type operation ⟨q, answer⟩ err) :
    Delivers H a w p err := by
  obtain ⟨bound, err', state, w', es, ended, left, fails', mem, path⟩ :=
    ends_of_failed known idle asks served (fails none).failed
  obtain rfl : err = err' := (fails state.type).unique fails'
  obtain ⟨bound, ran⟩ := reporting.abrupt makes ended
  have other : operation ≠ .stop ∧ ∀ name, q ≠ .resolve name := by
    constructor
    · rintro rfl
      rcases attempt with ⟨type, rfl⟩ | ⟨product, rfl⟩ <;> simpa using path.calls_of_stop _ mem
    · rcases attempt with ⟨type, rfl⟩ | ⟨product, rfl⟩ <;> simp
  have kept := (path.reports.attempt _ mem err fails' other.1 other.2).1
  exact ⟨bound, w', _, ran, left, kept⟩

/-- A constructor that fails is reported and kept as a failed construction of the type.

**Proof sketch.** The direct factory carries out the constructor and passes on what it reports,
together with the name of the type. -/
private lemma delivers_of_unbuilt (reporting : Registry.Reporting a)
    (makes : a.Makes H w (.operate p operation) u) (known : u.proxy? p = some proxy)
    (idle : proxy.busy = false) (direct : proxy.factory = .direct) {type : TypeHandle} {f : Fault}
    (unbuilt : Unbuilt H p operation u type f) :
    Delivers H a w p (.construction ⟨type.name, f⟩) := by
  obtain ⟨t, bound, v, asks, failed⟩ := unbuilt
  have served : (H.serve proxy.resolver proxy.factory (.create type)).run (perform H bound) t =
      .ok (.error ⟨type.name, f⟩, v) := by
    rw [direct]
    exact run_build failed
  exact delivers_of_failed reporting makes known idle asks (.inl ⟨type, rfl⟩) served
    fun _ => .factory type _

/-- A product's start that fails is reported and kept as a failed start of the proxy. -/
private lemma delivers_of_unstarted (reporting : Registry.Reporting a)
    (makes : a.Makes H w (.operate p operation) u) (known : u.proxy? p = some proxy)
    (idle : proxy.busy = false) {e : LifecycleError} (unstarted : Unstarted H p operation u e) :
    Delivers H a w p (.start proxy.name e) := by
  obtain ⟨product, t, bound, v, asks, failed⟩ := unstarted
  exact delivers_of_failed reporting makes known idle asks (.inr ⟨product, rfl⟩) failed
    fun _ => .start product e

/-- A product's stop that fails is reported as a failed stop of the proxy.

**Proof sketch.** The operation ends with the failure of the stop, and so does the activity, which
is abrupt. Nothing is said of what is kept, since a stop keeps no failure. -/
private lemma returns_of_unstopped (reporting : Registry.Reporting a)
    (makes : a.Makes H w (.operate p operation) u) (known : u.proxy? p = some proxy)
    (idle : proxy.busy = false) {e : LifecycleError} (unstopped : Unstopped H p operation u e) :
    ∃ bound w', a.run (perform H bound) w = .ok (.error (.stop proxy.name e), w') := by
  obtain ⟨product, t, bound, v, asks, failed⟩ := unstopped
  have fails (type : Option TypeHandle) : Exchange.Fails proxy.name type operation
      ⟨.stop product, .error e⟩ (.stop proxy.name e) := .stop product e
  obtain ⟨bound, err, state, w', es, ended, -, fails', -, -⟩ :=
    ends_of_failed known idle asks failed (fails none).failed
  obtain rfl : .stop proxy.name e = err := (fails state.type).unique fails'
  obtain ⟨bound, ran⟩ := reporting.abrupt makes ended
  exact ⟨bound, w', ran⟩

end Reporting

/-! ## The causes -/

/-- The text in the record of a proxy is the message of the failure that the latest attempt
returned, if this one failed. -/
private lemma status_lastError_iff (reachable : Reachable H w) (known : w.proxy? p = some proxy)
    (text : String) : (proxy.state.status proxy.name).lastError = some text ↔ ∃ err : ProxyError,
      err.message = text ∧ Since (fun t => t.Attempts ∧ t.result = .error err) Proxy.Turn.Attempts
        (w.chronicle p).turns := by
  have said := (reachable.run known).determined.lastError
  simp only [Proxy.State.status, Option.map_eq_some_iff, said]
  exact exists_congr fun err => and_comm

/-- **Causes survive.** Let an operation on a proxy, the resolution of a registry or the application
of a manifest come to an operation on `p`. If a constructor fails in it, with a message and causes,
and the factory is the direct one, then the failure that is returned, and kept by `p`, has the text
of the failed construction, and its causes are exactly the messages of the constructor. If a
product's start fails, then what is returned and kept has the message of the start's report and the
messages behind it as its causes, and so has what is returned if a stop fails. The text that an
observer of a proxy is shown is the message of the failure that the latest attempt returned.

**Proof sketch.** The operation in question ends with the failure of the call, wrapped once or
twice. What is left is to read message and causes off the wrapping. For observers, the failure that
is kept is the one of the latest attempt. -/
theorem causes_survive :
    (∀ {σ : Type} {H : Host σ} {a : Activity σ (Except ProxyError Unit)} {w u : World σ}
        {p : ProxyId} {proxy : Proxy} {operation : Proxy.Operation}, Registry.Reporting a →
      a.Makes H w (.operate p operation) u → u.proxy? p = some proxy → proxy.busy = false →
      (∀ type m ms, proxy.factory = .direct → Unbuilt H p operation u type ⟨m, ms⟩ →
        ∃ (e : ConstructionError) (err : ProxyError), e = ⟨type.name, m, ms⟩ ∧
          Delivers H a w p err ∧
          err.message = e.message ∧ err.causes = e.causes ∧ err.causes = m :: ms) ∧
      (∀ m ms, Unstarted H p operation u (.ofFault ⟨m, ms⟩) →
        ∃ err, Delivers H a w p err ∧ err.causes = m :: m :: ms) ∧
      (∀ m, Unstarted H p operation u (.ofMessage m) →
        ∃ err, Delivers H a w p err ∧ err.causes = [m]) ∧
      (∀ m ms, Unstopped H p operation u (.ofFault ⟨m, ms⟩) → ∃ bound err w',
        a.run (perform H bound) w = .ok (.error err, w') ∧ err.causes = m :: m :: ms) ∧
      ∀ m, Unstopped H p operation u (.ofMessage m) → ∃ bound err w',
        a.run (perform H bound) w = .ok (.error err, w') ∧ err.causes = [m]) ∧
    ∀ {σ : Type} {H : Host σ} {w : World σ} {p : ProxyId} {proxy : Proxy},
      Reachable H w → w.proxy? p = some proxy → ∀ text,
      ((proxy.state.status proxy.name).lastError = some text ↔ ∃ err : ProxyError,
        err.message = text ∧ Since (fun t => t.Attempts ∧ t.result = .error err)
          Proxy.Turn.Attempts (w.chronicle p).turns) := by
  refine ⟨?causes, status_lastError_iff⟩
  case causes =>
    intro σ H a w u p proxy operation reporting makes known idle
    refine ⟨?unbuilt, ?unstarted, ?refused, ?unstopped, ?unwilling⟩
    case unbuilt =>
      intro type m ms direct unbuilt
      exact ⟨_, _, rfl, delivers_of_unbuilt reporting makes known idle direct unbuilt, rfl,
        rfl, rfl⟩
    case unstarted =>
      intro m ms unstarted
      exact ⟨_, delivers_of_unstarted reporting makes known idle unstarted, rfl⟩
    case refused =>
      intro m unstarted
      exact ⟨_, delivers_of_unstarted reporting makes known idle unstarted, rfl⟩
    case unstopped =>
      intro m ms unstopped
      obtain ⟨bound, w', ran⟩ := returns_of_unstopped reporting makes known idle unstopped
      exact ⟨bound, _, w', ran, rfl⟩
    case unwilling =>
      intro m unstopped
      obtain ⟨bound, w', ran⟩ := returns_of_unstopped reporting makes known idle unstopped
      exact ⟨bound, _, w', ran, rfl⟩

/-- A host with a constructor that fails, and whose products fail to start and to stop. -/
def defective : Host Nat where
  __ := Host.counting (fun _ => .error (.ofFault ⟨"no route", ["unplugged"]⟩)) fun _ => pure ()
  resolve _ name := .done (.ok ⟨0, ⟨name, ⟨if name = "a" then 0 else 1⟩⟩⟩)
  construct c :=
    if c.code = 0 then .done (.error ⟨"no disk", ["full", "old"]⟩)
    else .update fun n => (.ok ⟨n⟩, n + 1)
  stop _ := .done (.error (.ofMessage "stuck"))

/-- A client that requests one component, and knows the type of another one. -/
def faulty : Activity Nat Unit := do
  let r ← Activity.establish (.custom 0) .direct
  let a ← Activity.obtain r "a"
  let _ ← Activity.operate a .start
  let b ← Activity.obtain r "b"
  let _ ← Activity.operate b .resolve

/-- What declares the second of the components, and starts it. -/
def wanted : Manifest := ⟨[⟨"b", true⟩]⟩

/-- The constructor's messages come back from the resolution of the registry, those of the start
from the application of the manifest, and that of the stop from the stop. -/
theorem causes_survive_defective : ∃ w v : World Nat, ∃ proxy,
    (∃ err, Delivers defective (Registry.resolveAll ⟨0⟩) w ⟨0⟩ err ∧
      err.causes = ["no disk", "full", "old"]) ∧
    (∃ err, Delivers defective (Registry.apply ⟨0⟩ wanted) w ⟨1⟩ err ∧
      err.causes = ["no route", "no route", "unplugged"]) ∧
    (∃ bound err v', (Activity.operate ⟨1⟩ .stop).run (perform defective bound) v =
      .ok (.error err, v') ∧ err.causes = ["stuck"]) ∧
    v.proxy? ⟨1⟩ = some proxy ∧ ∃ err : ProxyError,
      err.message = "component `b` failed to start: no route" ∧
      Since (fun t => t.Attempts ∧ t.result = .error err) Proxy.Turn.Attempts
        (v.chronicle ⟨1⟩).turns := by
  obtain ⟨w, v, a, b, b', -, ran, knownA, knownB, knownB', idleA, idleB, idleB', direct, makesA,
      unbuilt, makesB, unstarted, unstopped, text⟩ : ∃ w v a b b',
      faulty.perform defective 1 { host := 0 } = .ok ((), w) ∧
      (faulty >>= fun _ => Registry.apply ⟨0⟩ wanted).perform defective 2 { host := 0 } =
        .ok (.error (.start "b" (.ofFault ⟨"no route", ["unplugged"]⟩)), v) ∧
      w.proxy? ⟨0⟩ = some a ∧ w.proxy? ⟨1⟩ = some b ∧ v.proxy? ⟨1⟩ = some b' ∧
      a.busy = false ∧ b.busy = false ∧ b'.busy = false ∧ a.factory = .direct ∧
      (Registry.resolveAll ⟨0⟩).Makes defective w (.operate ⟨0⟩ .resolve) w ∧
      Unbuilt defective ⟨0⟩ .resolve w ⟨0, ⟨"a", ⟨0⟩⟩⟩ ⟨"no disk", ["full", "old"]⟩ ∧
      (Registry.apply ⟨0⟩ wanted).Makes defective w (.operate ⟨1⟩ .start) w ∧
      Unstarted defective ⟨1⟩ .start w (.ofFault ⟨"no route", ["unplugged"]⟩) ∧
      Unstopped defective ⟨1⟩ .stop v (.ofMessage "stuck") ∧
      (b'.state.status b'.name).lastError =
        some "component `b` failed to start: no route" := by
    refine ⟨_, _, _, _, _, rfl, rfl, rfl, rfl, rfl, rfl, rfl, rfl, rfl, .later 0 rfl (.now ..), ?_,
      .later 0 rfl (.now ..), ?_, ?_, rfl⟩
    · exact ⟨_, 1, _, ⟨_, rfl, .next 0 rfl (.now ..)⟩, rfl⟩
    · exact ⟨⟨0⟩, _, 0, _, ⟨_, rfl, .next 1 rfl (.next 0 rfl (.next 0 rfl (.now ..)))⟩, rfl⟩
    · exact ⟨⟨0⟩, _, 0, _, ⟨_, rfl, .next 0 rfl (.now ..)⟩, rfl⟩
  have makesB' : (Activity.operate ⟨1⟩ .stop).Makes defective v (.operate ⟨1⟩ .stop) v := .now ..
  refine ⟨w, v, b', ?_, ?_, ?_, knownB', ?_⟩
  · obtain ⟨_, err, -, delivers, -, -, causes⟩ :=
      (causes_survive.1 (.resolveAll ⟨0⟩) makesA knownA idleA).1 _ _ _ direct unbuilt
    exact ⟨err, delivers, causes⟩
  · exact (causes_survive.1 (.apply ⟨0⟩ wanted) makesB knownB idleB).2.1 _ _ unstarted
  · exact (causes_survive.1 (.operate ⟨1⟩ .stop) makesB' knownB' idleB').2.2.2.2 _ unstopped
  · exact (causes_survive.2 (.of_run ran) knownB' _).1 text

end World

end Standby
