import Standby.Proofs.World.Chronicle
import Standby.World.Perform
set_option autoImplicit false

/-!
# The worlds that a run goes through

Carrying out an activity gives the world at its end. On its way there it goes through others:
between two calls, and within each call, whenever an operation runs code of a collaborator's. A run
that never ends, because an operation waits for itself or a reset finds new entries forever, goes
through worlds all the same.

## Main definitions

* `Standby.Activity.Passes` — the worlds that an activity goes through.
* `Standby.Call.Plain` — calls that run no code of a collaborator's.
* `Standby.World.Inside` — the worlds that a call goes through before it is over.
* `Standby.World.Reachable` — the worlds that some run of some client goes through.
* `Standby.World.Silent` — relations between worlds that compose.
* `Standby.World.Closed` — relations between worlds that hold across every elementary step.
* `Standby.Host.counting` — a small host.

## Main results

* `Standby.World.operate_ok`, `Standby.World.sweep_cons_ok`, `Standby.World.perform_reset_ok` — what
  an operation, a sweep and a reset did that are over.
* `Standby.World.Silent.run`, `Standby.World.Silent.operate`, `Standby.World.Silent.sweep` — what
  holds across the calls that are made holds across an activity, an operation and a sweep.
* `Standby.World.Silent.plain`, `Standby.World.Closed.perform` — what holds across every elementary
  step holds across every call that is over.

## Design

The definitions follow those of `Activity.run` and `World.perform` clause by clause. Where an
activity goes on after a call, the world in between is the one that the call itself leaves.
-/

namespace Standby

variable {σ : Type}

/-! ## What is over, step by step -/

section Steps

variable {α β : Type} {perform : Activity.Performance σ} {H : Host σ} {p : ProxyId}
  {resolver : Resolver} {factory : Factory} {operation : Proxy.Operation} {r : RegistryId}
  {w w' : World σ}

/-- An activity that starts with a call made the call and went on from there. -/
lemma Activity.run_call_ok {c : Call} {next : c.Answer → Activity σ α} {x : α}
    (h : (Activity.call c next).run perform w = .ok (x, w')) :
    ∃ answer v, perform c w = .ok (answer, v) ∧ (next answer).run perform v = .ok (x, w') := by
  rw [Activity.run] at h
  split at h
  · cases h
  next answer v hcall => exact ⟨answer, v, hcall, h⟩

/-- An activity that starts with a call and does not end did not get its answer, or it did not end
after that. -/
lemma Activity.run_call_error {c : Call} {next : c.Answer → Activity σ α} {halt : Halt}
    (h : (Activity.call c next).run perform w = .error halt) :
    perform c w = .error halt ∨
      ∃ answer v, perform c w = .ok (answer, v) ∧ (next answer).run perform v = .error halt := by
  rw [Activity.run] at h
  split at h
  next halt' hcall => exact .inl (Except.error.inj h ▸ hcall)
  next answer v hcall => exact .inr ⟨answer, v, hcall, h⟩

/-- An activity that starts with a call goes on from what the call leaves. -/
lemma Activity.run_call {c : Call} {next : c.Answer → Activity σ α} {answer : c.Answer}
    (h : perform c w = .ok (answer, w')) :
    (Activity.call c next).run perform w = (next answer).run perform w' := by
  rw [Activity.run, h]

/-- An activity that starts with a thread waited for it and went on from there. -/
lemma Activity.run_thread_ok {body : Activity σ β} {next : β → Activity σ α} {x : α}
    (h : (Activity.thread body next).run perform w = .ok (x, w')) :
    ∃ b v, body.run perform { w with context := none } = .ok (b, v) ∧
      (next b).run perform { v with context := w.context } = .ok (x, w') := by
  rw [Activity.run] at h
  split at h
  · cases h
  next b v hbody => exact ⟨b, v, hbody, h⟩

namespace World

/-- The world at the end of a call that is over. -/
lemma world_eq_of_ok {a b : α} (h : (.ok (a, w) : Except Halt (α × World σ)) = .ok (b, w')) :
    w = w' :=
  (Prod.mk.inj (Except.ok.inj h)).2

/-- A dialogue that starts with a request was given an answer and went on from there. -/
lemma converse_ask_ok {q : Request} {next : q.Answer → Talk α} {x : α}
    (h : converse perform H p resolver factory (.ask q next) w = .ok (x, w')) :
    ∃ answer v, (H.serve resolver factory q).run perform (w.record (.asked p q)) = .ok (answer, v) ∧
      converse perform H p resolver factory (next answer) (v.record (.answered p ⟨q, answer⟩)) =
        .ok (x, w') := by
  rw [converse] at h
  split at h
  · cases h
  next answer v hserve => exact ⟨answer, v, hserve, h⟩

/-- An operation found its proxy idle, carried out its dialogue, and wrote the state back.

**Proof sketch.** An operation can be over in one way only. The proxy was known, it was idle, and
the dialogue came to an end. -/
lemma operate_ok {result : Except ProxyError Unit}
    (h : operate perform H p operation w = .ok (result, w')) :
    ∃ proxy state v, w.proxy? p = some proxy ∧ proxy.busy = false ∧
      converse perform H p proxy.resolver proxy.factory (operation.talk proxy.name proxy.state)
        ((w.setProxy p { proxy with busy := true }).record (.began p operation)) =
          .ok ((result, state), v) ∧
      w' = (v.setProxy p { proxy with state }).record (.ended p operation result) := by
  rw [operate] at h
  split at h
  · cases h
  next proxy known =>
    split at h
    · cases h
    next idle =>
      dsimp only at h
      split at h
      · cases h
      next state v hconverse =>
        obtain ⟨rfl, rfl⟩ := Prod.mk.inj (Except.ok.inj h)
        exact ⟨proxy, state, v, known, Bool.eq_false_iff.2 idle, hconverse, rfl⟩

/-- A sweep stopped the first proxy and went on with the others. -/
lemma sweep_cons_ok {rest : List ProxyId} (h : sweep perform H r (p :: rest) w = .ok w') :
    ∃ result v, operate perform H p .stop (w.record (.swept r p)) = .ok (result, v) ∧
      sweep perform H r rest v = .ok w' := by
  rw [sweep] at h
  split at h
  · cases h
  next result v hstop => exact ⟨result, v, hstop, h⟩

/-- A reset found no entry, or it made a pass and went on from there.

**Proof sketch.** By cases on whether the registry is known and has entries, and on whether the
sweep is over. -/
lemma perform_reset_ok {bound : Nat}
    (h : World.perform H (bound + 1) (.reset r) w = .ok ((), w')) :
    ∃ registry, w.registry? r = some registry ∧
      (registry.entries.isEmpty = true ∧ w' = w ∨
        registry.entries.isEmpty = false ∧
          ∃ v, sweep (World.perform H bound) H r registry.proxies w = .ok v ∧
            World.perform H bound (.reset r) (v.remove r registry.proxies) = .ok ((), w')) := by
  rw [World.perform] at h
  split at h
  · cases h
  next registry known =>
    refine ⟨registry, known, ?_⟩
    split at h
    next none => exact .inl ⟨none, (world_eq_of_ok h).symm⟩
    next some =>
      split at h
      · cases h
      next v hsweep => exact .inr ⟨Bool.eq_false_iff.2 some, v, hsweep, h⟩

end World

end Steps

/-! ## Going through a world -/

section Passes

variable (perform : Activity.Performance σ) (inside : Call → World σ → World σ → Prop)

/-- `a.Passes w v`: carried out in `w`, the activity `a` goes through `v`. Calls are carried out by
`perform`, and go through the worlds of `inside` before they are over. -/
inductive Activity.Passes : {α : Type} → Activity σ α → World σ → World σ → Prop
  | here {α : Type} (a : Activity σ α) (w : World σ) : Passes a w w
  | get {α : Type} {next : σ → Activity σ α} {w v : World σ} (later : Passes (next w.host) w v) :
    Passes (.get next) w v
  | put {α : Type} {s : σ} {next : Activity σ α} {w v : World σ}
    (later : Passes next { w with host := s } v) : Passes (.put s next) w v
  | within {α : Type} {c : Call} {next : c.Answer → Activity σ α} {w v : World σ}
    (during : inside c w v) : Passes (.call c next) w v
  | after {α : Type} {c : Call} {next : c.Answer → Activity σ α} {w w' v : World σ}
    {answer : c.Answer} (ended : perform c w = .ok (answer, w'))
    (later : Passes (next answer) w' v) : Passes (.call c next) w v
  | body {α β : Type} {body : Activity σ β} {next : β → Activity σ α} {w v : World σ}
    (during : Passes body { w with context := none } v) : Passes (.thread body next) w v
  | joined {α β : Type} {body : Activity σ β} {next : β → Activity σ α} {w w' v : World σ} {b : β}
    (ended : body.run perform { w with context := none } = .ok (b, w'))
    (later : Passes (next b) { w' with context := w.context } v) : Passes (.thread body next) w v

namespace World

variable (H : Host σ) (p : ProxyId) (resolver : Resolver) (factory : Factory)

/-- The worlds that a dialogue of the proxy `p` goes through.

A dialogue goes through the worlds in the middle of its calls, and through the worlds between them.
It may have an end or not: the last call may be one that does not return. -/
inductive TalkPasses {α : Type} : Talk α → World σ → World σ → Prop
  | here (t : Talk α) (w : World σ) : TalkPasses t w w
  | within {q : Request} {next : q.Answer → Talk α} {w v : World σ}
    (during : (H.serve resolver factory q).Passes perform inside (w.record (.asked p q)) v) :
    TalkPasses (.ask q next) w v
  | after {q : Request} {next : q.Answer → Talk α} {w w' v : World σ} {answer : q.Answer}
    (ended : (H.serve resolver factory q).run perform (w.record (.asked p q)) = .ok (answer, w'))
    (later : TalkPasses (next answer) (w'.record (.answered p ⟨q, answer⟩)) v) :
    TalkPasses (.ask q next) w v

/-- The worlds that an operation on the proxy `p` goes through. -/
def OperatePasses (operation : Proxy.Operation) (w v : World σ) : Prop :=
  ∃ proxy, w.proxy? p = some proxy ∧ proxy.busy = false ∧
    TalkPasses perform inside H p proxy.resolver proxy.factory
      (operation.talk proxy.name proxy.state)
      ((w.setProxy p { proxy with busy := true }).record (.began p operation)) v

/-- The worlds that a sweep of the registry `r` goes through. -/
inductive SweepPasses (r : RegistryId) : List ProxyId → World σ → World σ → Prop
  | here (ps : List ProxyId) (w : World σ) : SweepPasses r ps w w
  | within {p : ProxyId} {rest : List ProxyId} {w v : World σ}
    (during : OperatePasses perform inside H p .stop (w.record (.swept r p)) v) :
    SweepPasses r (p :: rest) w v
  | after {p : ProxyId} {rest : List ProxyId} {w w' v : World σ} {result : Except ProxyError Unit}
    (ended : operate perform H p .stop (w.record (.swept r p)) = .ok (result, w'))
    (later : SweepPasses r rest w' v) : SweepPasses r (p :: rest) w v

end World

end Passes

/-- The call runs no code of a collaborator's. -/
def Call.Plain : Call → Prop
  | .operate _ _ | .reset _ | .construct _ => False
  | _ => True

namespace World

/-- The worlds that a call goes through before it is over. Calls that run no code of a
collaborator's are over at once. -/
def Inside (H : Host σ) : Nat → Call → World σ → World σ → Prop
  | bound + 1, .operate p operation, w, v =>
    OperatePasses (perform H bound) (Inside H bound) H p operation w v
  | bound + 1, .reset r, w, v =>
    ∃ registry, w.registry? r = some registry ∧ registry.entries.isEmpty = false ∧
      (SweepPasses (perform H bound) (Inside H bound) H r registry.proxies w v ∨
        ∃ w', sweep (perform H bound) H r registry.proxies w = .ok w' ∧
          (v = w'.remove r registry.proxies ∨
            Inside H bound (.reset r) (w'.remove r registry.proxies) v))
  | bound + 1, .construct type, w, v =>
    (H.construct type.value.constructor).Passes (perform H bound) (Inside H bound) w v
  | _, _, _, _ => False

/-- The worlds that some run of some client goes through. It starts in a world in which nothing has
happened, with anything or nothing current. -/
def Reachable (H : Host σ) (v : World σ) : Prop :=
  ∃ (α : Type) (client : Activity σ α) (bound : Nat) (host : σ) (context : Context),
    client.Passes (perform H bound) (Inside H bound) { host, context } v

/-- A run that is over went through the world that it ends in.

**Proof sketch.** Induction on the activity. -/
lemma passes_of_run {perform : Activity.Performance σ} {inside : Call → World σ → World σ → Prop}
    {α : Type} {a : Activity σ α} {x : α} {w w' : World σ} (h : a.run perform w = .ok (x, w')) :
    a.Passes perform inside w w' := by
  induction a generalizing w w' with
  | done a =>
    obtain ⟨rfl, rfl⟩ : a = x ∧ w = w' := by simpa [Activity.run] using h
    exact .here _ w
  | get next ih => exact .get (ih w.host h)
  | put s next ih => exact .put (ih h)
  | call c next ih =>
    obtain ⟨answer, v, hcall, h⟩ := Activity.run_call_ok h
    exact .after hcall (ih answer h)
  | thread body next _ ih =>
    obtain ⟨b, v, hbody, h⟩ := Activity.run_thread_ok h
    exact .joined hbody (ih b h)

/-- The world that a run of a client ends in is reachable. -/
lemma Reachable.of_run {H : Host σ} {α : Type} {client : Activity σ α} {bound : Nat} {host : σ}
    {context : Context} {x : α} {w : World σ}
    (h : client.perform H bound { host, context } = .ok (x, w)) : Reachable H w :=
  ⟨α, client, bound, host, context, passes_of_run h⟩

/-! ## Relations across calls -/

/-- A relation between worlds that composes, and that does not depend on the collaborators' state
and on what is current. -/
structure Silent (R : World σ → World σ → Prop) : Prop where
  refl (w : World σ) : R w w
  trans {u v w : World σ} : R u v → R v w → R u w
  host (w : World σ) (s : σ) : R w { w with host := s }
  context (w : World σ) (c : Context) : R w { w with context := c }

/-- A relation between worlds that holds across every elementary step. Across an operation and
across a pass of a reset it has to hold if it holds across the calls that are made meanwhile. -/
structure Closed (H : Host σ) (R : World σ → World σ → Prop) : Prop extends Silent R where
  establish (w : World σ) (resolver : Resolver) (factory : Factory) :
    R w (w.establish resolver factory).2
  obtain {w w' : World σ} {r : RegistryId} {name : String} {p : ProxyId} :
    w.obtain r name = .ok (p, w') → R w w'
  install (w : World σ) (r : RegistryId) : R w (w.install r).2
  operate {perform : Activity.Performance σ} {p : ProxyId} {operation : Proxy.Operation}
    {w w' : World σ} {result : Except ProxyError Unit} :
    (∀ {c u answer v}, perform c u = .ok (answer, v) → R u v) →
    operate perform H p operation w = .ok (result, w') → R w w'
  pass {perform : Activity.Performance σ} {r : RegistryId} {registry : Registry} {w w' : World σ} :
    (∀ {c u answer v}, perform c u = .ok (answer, v) → R u v) →
    w.registry? r = some registry → sweep perform H r registry.proxies w = .ok w' →
    R w (w'.remove r registry.proxies)

namespace Silent

variable {H : Host σ} {R : World σ → World σ → Prop} {perform : Activity.Performance σ}
  (silent : Silent R) (calls : ∀ {c u answer v}, perform c u = .ok (answer, v) → R u v)
include silent calls

/-- A relation that holds across all calls holds across every activity that is over.

**Proof sketch.** Induction on the activity. The relation composes, and it holds across everything
but calls by assumption. -/
theorem run {α : Type} {a : Activity σ α} {x : α} {w w' : World σ}
    (h : a.run perform w = .ok (x, w')) : R w w' := by
  induction a generalizing w w' with
  | done a =>
    obtain ⟨rfl, rfl⟩ : a = x ∧ w = w' := by simpa [Activity.run] using h
    exact silent.refl w
  | get next ih => exact ih w.host h
  | put s next ih => exact silent.trans (silent.host w s) (ih h)
  | call c next ih =>
    obtain ⟨answer, v, hcall, h⟩ := Activity.run_call_ok h
    exact silent.trans (calls hcall) (ih answer h)
  | thread body next ihBody ihNext =>
    obtain ⟨b, v, hbody, h⟩ := Activity.run_thread_ok h
    have hthread := silent.trans (silent.context w none) (ihBody hbody)
    exact silent.trans hthread (silent.trans (silent.context v w.context) (ihNext b h))

/-- A relation that holds across all calls, and across the exchanges of the proxy `p`, holds across
the dialogues of this proxy.

**Proof sketch.** Induction on the dialogue. A question is recorded, then served, and its answer is
recorded. -/
theorem converse {p : ProxyId} (asked : ∀ w q, R w (w.record (.asked p q)))
    (answered : ∀ w x, R w (w.record (.answered p x))) {resolver : Resolver} {factory : Factory}
    {α : Type} {t : Talk α} {x : α} {w w' : World σ}
    (h : World.converse perform H p resolver factory t w = .ok (x, w')) : R w w' := by
  induction t generalizing w with
  | done a =>
    obtain ⟨rfl, rfl⟩ : a = x ∧ w = w' := by simpa [World.converse] using h
    exact silent.refl w
  | ask q next ih =>
    obtain ⟨answer, v, hserve, h⟩ := converse_ask_ok h
    have hasked := silent.trans (asked w q) (silent.run calls hserve)
    exact silent.trans hasked (silent.trans (answered v ⟨q, answer⟩) (ih answer h))

/-- A relation that holds across all calls, and across all that is done to the proxy `p` itself,
holds across the operations on this proxy. -/
theorem operate {p : ProxyId} (put : ∀ w proxy, R w (w.setProxy p proxy))
    (note : ∀ w e, Event.IsOf p e → R w (w.record e)) {operation : Proxy.Operation}
    {result : Except ProxyError Unit} {w w' : World σ}
    (h : World.operate perform H p operation w = .ok (result, w')) : R w w' := by
  obtain ⟨proxy, state, v, -, -, hconverse, rfl⟩ := operate_ok h
  have hbegun := silent.trans (put w { proxy with busy := true }) (note _ (.began p operation) rfl)
  have htalk := silent.converse calls (fun w q => note w (.asked p q) rfl)
    (fun w x => note w (.answered p x) rfl) hconverse
  have hended := silent.trans (put v { proxy with state }) (note _ (.ended p operation result) rfl)
  exact silent.trans hbegun (silent.trans htalk hended)

omit calls in
/-- A relation that holds across all stops, and across what is recorded before each, holds across a
sweep. -/
theorem sweep {r : RegistryId} (swept : ∀ w p, R w (w.record (.swept r p)))
    (stopped : ∀ {p w result w'}, World.operate perform H p .stop w = .ok (result, w') → R w w')
    {ps : List ProxyId} {w w' : World σ} (h : World.sweep perform H r ps w = .ok w') : R w w' := by
  induction ps generalizing w with
  | nil =>
    obtain rfl : w = w' := by simpa [World.sweep] using h
    exact silent.refl w
  | cons p rest ih =>
    obtain ⟨result, v, hstop, h⟩ := sweep_cons_ok h
    exact silent.trans (swept w p) (silent.trans (stopped hstop) (ih h))

omit calls in
/-- A relation that holds across the elementary steps holds across every call that runs no code of a
collaborator's.

**Proof sketch.** By cases on the call. Most of them change nothing. -/
theorem plain (establish : ∀ w resolver factory, R w (w.establish resolver factory).2)
    (obtained : ∀ {w r name p w'}, w.obtain r name = .ok (p, w') → R w w')
    (install : ∀ w r, R w (w.install r).2) {bound : Nat} {c : Call} {answer : c.Answer}
    {w w' : World σ} (h : World.perform H bound c w = .ok (answer, w')) (hc : c.Plain) :
    R w w' := by
  cases c with
  | establish resolver factory =>
    rw [World.perform] at h
    obtain rfl := world_eq_of_ok h
    exact establish w resolver factory
  | obtain r name =>
    rw [World.perform] at h
    exact obtained h
  | entries r =>
    rw [World.perform] at h
    split at h
    · cases h
    · obtain rfl := world_eq_of_ok h
      exact silent.refl w
  | nameOf p =>
    rw [World.perform] at h
    split at h
    · cases h
    · obtain rfl := world_eq_of_ok h
      exact silent.refl w
  | observe p =>
    rw [World.perform, World.observe] at h
    split at h
    · cases h
    · split at h
      · cases h
      · obtain rfl := world_eq_of_ok h
        exact silent.refl w
  | install r =>
    rw [World.perform] at h
    obtain rfl := world_eq_of_ok h
    exact install w r
  | installed | current =>
    rw [World.perform] at h
    obtain rfl := world_eq_of_ok h
    exact silent.refl w
  | enter catalog =>
    rw [World.perform] at h
    obtain rfl := world_eq_of_ok h
    exact silent.context w _
  | leave guard =>
    rw [World.perform] at h
    obtain rfl := world_eq_of_ok h
    exact silent.context w _
  | operate _ _ | reset _ | construct _ => exact hc.elim

end Silent

namespace Closed

variable {H : Host σ} {R : World σ → World σ → Prop} (closed : Closed H R)
include closed

/-- A relation that holds across every elementary step holds across every call that is over.

**Proof sketch.** Strong induction on the bound. An operation and a construction run code whose
calls have a smaller bound, and a reset is a pass and a reset with a smaller bound. -/
theorem perform {bound : Nat} {c : Call} {answer : c.Answer} {w w' : World σ}
    (h : perform H bound c w = .ok (answer, w')) : R w w' := by
  -- only operations, resets and constructions use up the bound; all other calls are single steps
  induction bound using Nat.strongRecOn generalizing c w w' with
  | _ bound ih =>
  cases c with
  | operate p operation =>
    cases bound with
    | zero => cases h
    | succ bound => exact closed.operate (ih bound bound.lt_succ_self) h
  | reset r =>
    cases bound with
    | zero => cases h
    | succ bound =>
      obtain ⟨registry, known, ⟨-, rfl⟩ | ⟨-, v, hsweep, h⟩⟩ := perform_reset_ok h
      · exact closed.refl w'
      · exact closed.trans (closed.pass (ih bound bound.lt_succ_self) known hsweep)
          (ih bound bound.lt_succ_self h)
  | construct type =>
    cases bound with
    | zero => cases h
    | succ bound => exact closed.toSilent.run (ih bound bound.lt_succ_self) h
  | establish _ _ | obtain _ _ | entries _ | nameOf _ | observe _ | install _ | installed
  | enter _ | leave _ | current =>
    exact closed.toSilent.plain closed.establish closed.obtain closed.install h trivial

end Closed

end World

/-! ## A small host -/

/-- Code around the library that is fit for small runs. Every name is the name of a type, each
product is one that was not handed out before, and all products can be started and stopped. -/
def Host.counting (start : Product → Except LifecycleError Unit)
    (stop : Product → Activity Nat Unit) : Host Nat where
  resolve _ name := .done (.ok ⟨0, ⟨name, ⟨0⟩⟩⟩)
  create _ _ := .update fun n => (.ok ⟨n⟩, n + 1)
  construct _ := .update fun n => (.ok ⟨n⟩, n + 1)
  capability _ := .done true
  start product := .done (start product)
  stop product := do
    stop product
    pure (.ok ())

end Standby
