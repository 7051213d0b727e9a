import Standby.Proofs.World.Passage
set_option autoImplicit false

/-!
# What is current when a thread makes a call

The course of a thread is the list of the calls that it makes, at whatever depth, each together with
what is current when it is made. Threads that it starts have courses of their own.

## Main definitions

* `Standby.Course` — the calls of a thread, and the courses of the threads that it starts.
* `Standby.Activity.course`, `Standby.World.course` — the course of an activity and of a call.
* `Standby.Course.Flows` — what is current passes from each call to the next.
* `Standby.Course.Still` — no catalog is entered and no guard released.

## Main results

* `Standby.Course.leads` — the course of every activity flows, and ends with what is current in the
  world that the activity leaves.

## Design

The definitions follow those of `Activity.run` and `World.perform` clause by clause. A call of the
library comes before the calls that are made on its account, since code of a collaborator's runs on
the thread that called. A run that does not come to its end has a course all the same: it ends with
the calls that were made.
-/

namespace Standby

variable {σ : Type}

/-- What a thread does, in order. -/
inductive Course where
  /-- Nothing more happens. -/
  | nil
  /-- A call is made while `context` is current. -/
  | call (c : Call) (context : Context) (rest : Course)
  /-- A new thread is started and waited for. -/
  | thread (body rest : Course)

/-- What is current after a call, as far as the call itself is concerned. Only entering a catalog
and releasing a guard change it. -/
def Call.shift (c : Call) (context : Context) : Context :=
  match c with
  | .enter catalog => (Context.enter context catalog).2
  | .leave guard => guard.release
  | _ => context

namespace Course

/-- One course after the other, on the same thread. -/
def append : Course → Course → Course
  | nil, later => later
  | call c context rest, later => call c context (rest.append later)
  | thread body rest, later => thread body (rest.append later)

/-- On a thread on which `context` is current, each call of the course finds current what the calls
before it leave, and the last one leaves `context'`. A new thread starts with nothing current, and
what it does is not seen. -/
inductive Flows : Context → Course → Context → Prop
  | nil (context : Context) : Flows context .nil context
  | call {c : Call} {context context' : Context} {rest : Course}
    (later : Flows (c.shift context) rest context') : Flows context (.call c context rest) context'
  | thread {context context' left : Context} {body rest : Course} (during : Flows none body left)
    (later : Flows context rest context') : Flows context (.thread body rest) context'

/-- What flows first and what flows from there on flow together. -/
private lemma Flows.append {context middle context' : Context} {first later : Course}
    (h : Flows context first middle) (h' : Flows middle later context') :
    Flows context (first.append later) context' := by
  induction h with
  | nil => exact h'
  | call _ ih => exact .call (ih h')
  | thread during _ _ ih => exact .thread during (ih h')

/-- On the thread no catalog is entered and no guard released. What threads do that it starts is
their own affair. -/
def Still : Course → Prop
  | nil => True
  | call (.enter _) _ _ | call (.leave _) _ _ => False
  | call _ _ rest => rest.Still
  | thread _ rest => rest.Still

/-- Whether a course is still can be found out constructor by constructor. -/
instance decidableStill : DecidablePred Still
  | nil => .isTrue trivial
  | call (.enter _) _ _ | call (.leave _) _ _ => .isFalse id
  | call (.establish _ _) _ rest | call (.obtain _ _) _ rest | call (.entries _) _ rest
  | call (.operate _ _) _ rest | call (.nameOf _) _ rest | call (.observe _) _ rest
  | call (.reset _) _ rest | call (.install _) _ rest | call .installed _ rest
  | call (.construct _) _ rest | call .current _ rest | thread _ rest => decidableStill rest

/-- One course after the other is still if both are. -/
private lemma still_append {first later : Course} :
    (first.append later).Still ↔ first.Still ∧ later.Still := by
  induction first with
  | nil => simp [append, Still]
  | call c context rest ih => cases c <;> simp [append, Still, ih]
  | thread body rest _ ih => exact ih

/-- What is current stays current on a thread that is still. -/
private lemma Flows.eq_of_still {context context' : Context} {course : Course}
    (flows : Flows context course context') (still : course.Still) : context' = context := by
  induction flows with
  | nil => rfl
  | @call c _ _ _ _ ih =>
    cases c with
    | enter _ | leave _ => exact still.elim
    | establish _ _ | obtain _ _ | entries _ | operate _ _ | nameOf _ | observe _ | reset _
    | install _ | installed | construct _ | current => exact ih still
  | thread _ _ _ ih => exact ih still

end Course

/-! ## The courses of activities and calls -/

section Definitions

variable (perform : Activity.Performance σ) (inner : Call → World σ → Course)

/-- The course of an activity. The calls that are made on account of a call are those of `inner`. -/
def Activity.course : {α : Type} → Activity σ α → World σ → Course
  | _, done _, _ => .nil
  | _, get next, w => (next w.host).course w
  | _, put s next, w => next.course { w with host := s }
  | _, call c next, w =>
    .call c w.context ((inner c w).append
      (match perform c w with
      | .error _ => .nil
      | .ok (answer, w) => (next answer).course w))
  | _, thread body next, w =>
    .thread (body.course { w with context := none })
      (match body.run perform { w with context := none } with
      | .error _ => .nil
      | .ok (b, w') => (next b).course { w' with context := w.context })

namespace World

variable (H : Host σ)

/-- The course of a dialogue of the proxy `p`: that of the code that answers its requests. -/
def talkCourse {α : Type} (p : ProxyId) (resolver : Resolver) (factory : Factory) :
    Talk α → World σ → Course
  | .done _, _ => .nil
  | .ask q next, w =>
    ((H.serve resolver factory q).course perform inner (w.record (.asked p q))).append
      (match (H.serve resolver factory q).run perform (w.record (.asked p q)) with
      | .error _ => .nil
      | .ok (answer, w) =>
        talkCourse p resolver factory (next answer) (w.record (.answered p ⟨q, answer⟩)))

/-- The course of an operation on the proxy `p`. -/
def operateCourse (p : ProxyId) (operation : Proxy.Operation) (w : World σ) : Course :=
  match w.proxy? p with
  | none => .nil
  | some proxy =>
    if proxy.busy then .nil
    else
      talkCourse perform inner H p proxy.resolver proxy.factory
        (operation.talk proxy.name proxy.state)
        ((w.setProxy p { proxy with busy := true }).record (.began p operation))

/-- The course of a sweep. -/
def sweepCourse (r : RegistryId) : List ProxyId → World σ → Course
  | [], _ => .nil
  | p :: rest, w =>
    (operateCourse perform inner H p .stop (w.record (.swept r p))).append
      (match operate perform H p .stop (w.record (.swept r p)) with
      | .error _ => .nil
      | .ok (_, w) => sweepCourse r rest w)

end World

end Definitions

/-- The calls that are made on account of a call.

It follows the definition of `World.perform`. Only the calls that run code of a collaborator's lead
to further calls. -/
def World.course (H : Host σ) : Nat → Call → World σ → Course
  | bound + 1, .operate p operation, w =>
    operateCourse (perform H bound) (World.course H bound) H p operation w
  | bound + 1, .reset r, w =>
    match w.registry? r with
    | none => .nil
    | some registry =>
      if registry.entries.isEmpty then .nil
      else
        (sweepCourse (perform H bound) (World.course H bound) H r registry.proxies w).append
          (match sweep (perform H bound) H r registry.proxies w with
          | .error _ => .nil
          | .ok w => World.course H bound (.reset r) (w.remove r registry.proxies))
  | bound + 1, .construct type, w =>
    (H.construct type.value.constructor).course (perform H bound) (World.course H bound) w
  | _, _, _ => .nil

/-! ## Courses flow -/

namespace Course

open World

/-- A thread that is still is so on account of its first call, and after that. -/
lemma still_call {perform : Activity.Performance σ} {inner : Call → World σ → Course} {α : Type}
    {c : Call} {next : c.Answer → Activity σ α} {w : World σ}
    (still : ((Activity.call c next).course perform inner w).Still) (answer : c.Answer)
    (v : World σ) : (inner c w).Still ∧
      (perform c w = .ok (answer, v) → ((next answer).course perform inner v).Still) := by
  rw [Activity.course] at still
  have rest : ∀ {context : Context} {course : Course}, (Course.call c context course).Still →
      course.Still := by
    intro context course still
    cases c with
    | enter _ | leave _ => exact still.elim
    | establish _ _ | obtain _ _ | entries _ | operate _ _ | nameOf _ | observe _ | reset _
    | install _ | installed | construct _ | current => exact still
  obtain ⟨during, after⟩ := still_append.1 (rest still)
  refine ⟨during, fun returns => ?_⟩
  rwa [returns] at after

/-- The course flows from `context`, and if what it is the course of comes to an end, it leaves what
is current in the world there. -/
def Leads {α : Type} (context : Context) (course : Course) (outcome : Except Halt (α × World σ)) :
    Prop :=
  ∃ context', Flows context course context' ∧
    ∀ x w', outcome = .ok (x, w') → w'.context = context'

/-- Where everything is still, what was current is current in the end. -/
lemma Leads.eq_of_still {α : Type} {context : Context} {course : Course} {x : α} {w : World σ}
    (leads : Leads context course (.ok (x, w))) (still : course.Still) : w.context = context := by
  obtain ⟨context', flows, ends⟩ := leads
  exact (ends x w rfl).trans (flows.eq_of_still still)

/-- What comes to its end at once leaves what is current. -/
private lemma leads_nil {α : Type} {x : α} {w : World σ} : Leads w.context .nil (.ok (x, w)) :=
  ⟨w.context, .nil _, by rintro _ _ ⟨⟩; rfl⟩

/-- What does not come to its end leads nowhere. -/
private lemma leads_error {α : Type} {context : Context} {halt : Halt} :
    Leads context .nil (.error halt : Except Halt (α × World σ)) :=
  ⟨context, .nil _, by rintro _ _ ⟨⟩⟩

section Calls

variable {perform : Activity.Performance σ} {inner : Call → World σ → Course} {H : Host σ}
  (calls : ∀ c w, Leads (c.shift w.context) (inner c w) (perform c w))
include calls

/-- The course of an activity flows, if those of the calls that it makes do.

**Proof sketch.** Induction on the activity. A call shifts what is current, and the calls on its
account lead from there to the world that it leaves. A thread starts with nothing, and what was
current before it is put back when it has come to its end. -/
private lemma flows_run {α : Type} (a : Activity σ α) (w : World σ) :
    Leads w.context (a.course perform inner w) (a.run perform w) := by
  induction a generalizing w with
  | done a => exact leads_nil
  | get next ih => exact ih w.host w
  | put s next ih => exact ih { w with host := s }
  | call c next ih =>
    obtain ⟨middle, flows, ends⟩ := calls c w
    rw [Activity.course, Activity.run]
    cases hcall : perform c w with
    | error halt =>
      refine ⟨middle, .call (flows.append (.nil _)), ?_⟩
      rintro _ _ ⟨⟩
    | ok outcome =>
      obtain ⟨answer, v⟩ := outcome
      obtain rfl : v.context = middle := ends answer v hcall
      obtain ⟨context', later, ends⟩ := ih answer v
      exact ⟨context', .call (flows.append later), ends⟩
  | thread body next ihBody ihNext =>
    obtain ⟨left, during, -⟩ := ihBody { w with context := none }
    rw [Activity.course, Activity.run]
    cases hbody : body.run perform { w with context := none } with
    | error halt =>
      refine ⟨w.context, .thread during (.nil _), ?_⟩
      rintro _ _ ⟨⟩
    | ok outcome =>
      obtain ⟨b, v⟩ := outcome
      obtain ⟨context', later, ends⟩ := ihNext b { v with context := w.context }
      exact ⟨context', .thread during later, ends⟩

/-- The course of a dialogue flows. -/
private lemma flows_converse {α : Type} (p : ProxyId) (resolver : Resolver) (factory : Factory)
    (t : Talk α) (w : World σ) : Leads w.context (talkCourse perform inner H p resolver factory t w)
      (converse perform H p resolver factory t w) := by
  induction t generalizing w with
  | done a => exact leads_nil
  | ask q next ih =>
    obtain ⟨middle, flows, ends⟩ :=
      flows_run calls (H.serve resolver factory q) (w.record (.asked p q))
    rw [talkCourse, converse]
    cases hserve : (H.serve resolver factory q).run perform (w.record (.asked p q)) with
    | error halt =>
      refine ⟨middle, flows.append (.nil _), ?_⟩
      rintro _ _ ⟨⟩
    | ok outcome =>
      obtain ⟨answer, v⟩ := outcome
      obtain rfl : v.context = middle := ends answer v hserve
      obtain ⟨context', later, ends⟩ := ih answer (v.record (.answered p ⟨q, answer⟩))
      exact ⟨context', flows.append later, ends⟩

/-- The course of an operation flows. -/
private lemma flows_operate (p : ProxyId) (operation : Proxy.Operation) (w : World σ) :
    Leads w.context (operateCourse perform inner H p operation w)
      (operate perform H p operation w) := by
  rw [operateCourse, operate]
  cases known : w.proxy? p with
  | none => exact leads_error
  | some proxy =>
    by_cases busy : proxy.busy
    · simp only [busy, if_true]
      exact leads_error
    · simp only [busy, Bool.false_eq_true, if_false]
      obtain ⟨context', flows, ends⟩ := flows_converse calls (H := H) p proxy.resolver
        proxy.factory (operation.talk proxy.name proxy.state)
        ((w.setProxy p { proxy with busy := true }).record (.began p operation))
      refine ⟨context', flows, fun result w' h => ?_⟩
      split at h
      · cases h
      next state v hconverse =>
        obtain rfl := world_eq_of_ok h
        exact ends _ v hconverse

/-- The course of a sweep flows. -/
private lemma flows_sweep (r : RegistryId) (ps : List ProxyId) (w : World σ) :
    ∃ context', Flows w.context (sweepCourse perform inner H r ps w) context' ∧
      ∀ w', sweep perform H r ps w = .ok w' → w'.context = context' := by
  induction ps generalizing w with
  | nil => exact ⟨w.context, .nil _, by rintro _ ⟨⟩; rfl⟩
  | cons p rest ih =>
    obtain ⟨middle, flows, ends⟩ := flows_operate calls (H := H) p .stop (w.record (.swept r p))
    rw [sweepCourse, sweep]
    cases hstop : operate perform H p .stop (w.record (.swept r p)) with
    | error halt =>
      refine ⟨middle, flows.append (.nil _), ?_⟩
      rintro _ ⟨⟩
    | ok outcome =>
      obtain ⟨result, v⟩ := outcome
      obtain rfl : v.context = middle := ends result v hstop
      obtain ⟨context', later, ends⟩ := ih v
      exact ⟨context', flows.append later, ends⟩

end Calls

/-- To remove entries changes nothing of what is current. -/
private lemma context_remove {w : World σ} (r : RegistryId) (gone : List ProxyId) :
    (w.remove r gone).context = w.context := by
  rw [World.remove]
  split <;> rfl

/-- On account of calls that run no code of a collaborator's no call is made. -/
private lemma course_plain {H : Host σ} {bound : Nat} {c : Call} (hc : c.Plain) (w : World σ) :
    World.course H bound c w = .nil := by
  cases c with
  | operate _ _ | reset _ | construct _ => exact hc.elim
  | establish _ _ | obtain _ _ | entries _ | nameOf _ | observe _ | install _ | installed
  | enter _ | leave _ | current => cases bound <;> rfl

/-- Calls that run no code of a collaborator's shift what is current and do nothing else to it. -/
private lemma leads_plain {H : Host σ} {bound : Nat} {c : Call} (hc : c.Plain) (w : World σ) :
    Leads (c.shift w.context) (World.course H bound c w) (perform H bound c w) := by
  rw [course_plain hc]
  refine ⟨c.shift w.context, .nil _, fun answer w' h => ?_⟩
  cases c with
  | obtain r name =>
    rw [perform, World.obtain] at h
    split at h
    · cases h
    · split at h <;> (obtain rfl := world_eq_of_ok h; rfl)
  | entries r | nameOf p =>
    rw [perform] at h
    split at h
    · cases h
    · obtain rfl := world_eq_of_ok h
      rfl
  | observe p =>
    rw [perform, World.observe] at h
    split at h
    · cases h
    · split at h
      · cases h
      · obtain rfl := world_eq_of_ok h
        rfl
  | install r =>
    rw [perform] at h
    obtain rfl := world_eq_of_ok h
    split <;> rfl
  | establish _ _ | installed | enter _ | leave _ | current =>
    rw [perform] at h
    obtain rfl := world_eq_of_ok h
    rfl
  | operate _ _ | reset _ | construct _ => exact hc.elim

/-- The calls that are made on account of a call lead to the world that it leaves.

**Proof sketch.** Induction on the bound, as for everything that is true of calls: what runs code of
a collaborator's uses up some of it. -/
theorem leads_perform (H : Host σ) (bound : Nat) (c : Call) (w : World σ) :
    Leads (c.shift w.context) (World.course H bound c w) (perform H bound c w) := by
  induction bound generalizing c w with
  | zero =>
    cases c with
    | operate _ _ | reset _ | construct _ => exact leads_error
    | establish _ _ | obtain _ _ | entries _ | nameOf _ | observe _ | install _ | installed
    | enter _ | leave _ | current =>
      apply leads_plain
      trivial
  | succ bound ih =>
    cases c with
    | operate p operation => exact flows_operate ih p operation w
    | construct type => exact flows_run ih (H.construct type.value.constructor) w
    | reset r =>
      rw [World.course, perform]
      cases known : w.registry? r with
      | none => exact leads_error
      | some registry =>
        by_cases none : registry.entries.isEmpty
        · simp only [none, if_true]
          exact leads_nil
        · simp only [none, Bool.false_eq_true, if_false]
          obtain ⟨middle, flows, ends⟩ := flows_sweep ih (H := H) r registry.proxies w
          cases hsweep : sweep (perform H bound) H r registry.proxies w with
          | error halt =>
            refine ⟨middle, flows.append (.nil _), ?_⟩
            rintro _ _ ⟨⟩
          | ok v =>
            obtain rfl : v.context = middle := ends v hsweep
            obtain ⟨context', later, ends⟩ := ih (.reset r) (v.remove r registry.proxies)
            rw [context_remove] at later
            exact ⟨context', flows.append later, ends⟩
    | establish _ _ | obtain _ _ | entries _ | nameOf _ | observe _ | install _ | installed
    | enter _ | leave _ | current =>
      apply leads_plain
      trivial

end Course

/-- The course of a client. -/
def Activity.courseOf {α : Type} (a : Activity σ α) (H : Host σ) (bound : Nat)
    (w : World σ) : Course :=
  a.course (World.perform H bound) (World.course H bound) w

/-- What is current passes from each call of a client to the next, and from the last one to the
world that the client leaves. -/
theorem Course.leads {α : Type} (a : Activity σ α) (H : Host σ) (bound : Nat) (w : World σ) :
    Course.Leads w.context (a.courseOf H bound w) (a.perform H bound w) :=
  Course.flows_run (Course.leads_perform H bound) a w

end Standby
