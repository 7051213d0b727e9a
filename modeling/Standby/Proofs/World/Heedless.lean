import Standby.Proofs.World.Unseen
set_option autoImplicit false

/-!
# Code that does not heed what is current

What is current on a thread matters to a resolve of a proxy whose type is unknown, and to nothing
else that the library does. Where the code around the library neither asks for it nor changes it, a
call that does not come to such a resolve does the same whatever is current, and leaves it as it is.

## Main definitions

* `Standby.Activity.Heedless`, `Standby.Host.Heedless` — code that neither reads nor changes what is
  current on its thread.
* `Standby.World.Consults` — on account of a call, and on the thread that makes it, a proxy of
  unknown type is resolved.
* `Standby.World.under` — a world in which something else is current.

## Main results

* `Standby.World.perform_under` — a call that consults nothing does the same whatever is current.

## Design

Threads that the code starts begin with nothing current, whoever starts them, so what they do is
left out of both notions. Nothing is asked of the clients' resolvers either, since they only run
where a type is unknown.
-/

namespace Standby

variable {σ : Type}

/-! ## Code that does not heed what is current -/

/-- On its own thread the activity neither reads nor changes what is current, whatever answers it
gets. -/
def Activity.Heedless : {α : Type} → Activity σ α → Prop
  | _, done _ => True
  | _, get next => ∀ s, (next s).Heedless
  | _, put _ next => next.Heedless
  | _, call c next => c.Heedless ∧ ∀ answer, (next answer).Heedless
  | _, thread _ next => ∀ b, (next b).Heedless

/-- No factory, no constructor and no product reads or changes what is current. -/
structure Host.Heedless (H : Host σ) : Prop where
  create : ∀ reference type, (H.create reference type).Heedless
  construct : ∀ constructor, (H.construct constructor).Heedless
  capability : ∀ product, (H.capability product).Heedless
  start : ∀ product, (H.start product).Heedless
  stop : ∀ product, (H.stop product).Heedless

/-- The request is one for a type. -/
def Request.IsResolve : Request → Prop
  | .resolve _ => True
  | _ => False

/-- What answers the other requests of a proxy does not heed what is current either.

**Proof sketch.** By cases on the request. Only a look-up could be served by what is current. -/
private lemma Host.Heedless.serve {H : Host σ} (heedless : H.Heedless) (resolver : Resolver)
    (factory : Factory) {q : Request} (other : ¬ q.IsResolve) :
    (H.serve resolver factory q).Heedless := by
  cases q with
  | resolve name => exact absurd trivial other
  | create type =>
    cases factory with
    | direct =>
      refine ⟨trivial, fun answer => ?_⟩
      cases answer <;> trivial
    | custom reference => exact heedless.create reference type
  | capability product => exact heedless.capability product
  | start product => exact heedless.start product
  | stop product => exact heedless.stop product

/-! ## Dialogues that spare the resolver -/

namespace Talk

variable {α β : Type}

/-- Whatever answers it gets, the dialogue never asks for a type. -/
def Sparing : Talk α → Prop
  | .done _ => True
  | .ask q next => ¬ q.IsResolve ∧ ∀ answer, Sparing (next answer)

/-- One after the other spares the resolver if both do. -/
private lemma Sparing.bind {t : Talk α} {f : α → Talk β} (first : t.Sparing)
    (later : ∀ a, (f a).Sparing) : Sparing (t >>= f) := by
  induction t with
  | done a => exact later a
  | ask q next ih => exact ⟨first.1, fun answer => ih answer (first.2 answer)⟩

/-- One request spares the resolver if it is another one. -/
private lemma sparing_query {q : Request} (other : ¬ q.IsResolve) :
    Sparing (Dialogue.query q : Talk q.Answer) :=
  ⟨other, fun _ => trivial⟩

end Talk

namespace Proxy

open Talk

/-- To launch a product no type is asked for. -/
private lemma sparing_launch (name : String) (type : TypeHandle) (product : Product) (s : State) :
    (launch name type product s).Sparing := by
  refine (sparing_query id).bind fun able => ?_
  cases able with
  | false => trivial
  | true =>
    refine (sparing_query id).bind fun started => ?_
    cases started <;> trivial

/-- An attempt asks for no type.

**Proof sketch.** By cases on what the attempt does next. It asks for a product, for what the
product can do, and for its start. -/
private lemma sparing_attempt (name : String) (type : TypeHandle) (s : State) :
    (attempt name type s).Sparing := by
  unfold attempt
  cases s.product with
  | some product => exact sparing_launch name type product s
  | none =>
    refine Sparing.bind (Sparing.bind (sparing_query id) fun created => ?_) fun built => ?_
    · cases created with
      | error e => trivial
      | ok product =>
        refine (sparing_query id).bind fun able => ?_
        cases able <;> trivial
    · cases built with
      | error e => trivial
      | ok product => exact sparing_launch name type product _

/-- An operation asks for a type only if it is a resolve and the type is unknown.

**Proof sketch.** By cases on the operation, and on the type and the product of the state. -/
private lemma sparing_talk {operation : Operation} {s : State}
    (known : ¬ (operation = .resolve ∧ s.type = none)) (name : String) :
    (operation.talk name s).Sparing := by
  cases operation with
  | start =>
    change (Proxy.start name s).Sparing
    unfold Proxy.start
    cases type : s.type with
    | none => trivial
    | some type' => exact sparing_attempt name type' _
  | stop =>
    change (Proxy.stop name s).Sparing
    unfold Proxy.stop
    cases s.product with
    | none => trivial
    | some product =>
      refine (sparing_query id).bind fun able => ?_
      cases able with
      | false => trivial
      | true =>
        refine (sparing_query id).bind fun stopped => ?_
        cases stopped <;> trivial
  | resolve =>
    change (Proxy.resolve name s).Sparing
    unfold Proxy.resolve
    cases type : s.type with
    | none => exact absurd ⟨rfl, type⟩ known
    | some type => trivial

end Proxy

/-! ## Calls that consult what is current -/

section Consults

variable (perform : Activity.Performance σ) (inner : Call → World σ → Prop)

/-- On its own thread the activity comes to a resolve of a proxy whose type is unknown, by way of a
call that does so according to `inner`. -/
inductive Activity.Consults : {α : Type} → Activity σ α → World σ → Prop
  | get {α : Type} {next : σ → Activity σ α} {w : World σ} (later : Consults (next w.host) w) :
    Consults (.get next) w
  | put {α : Type} {s : σ} {next : Activity σ α} {w : World σ}
    (later : Consults next { w with host := s }) : Consults (.put s next) w
  | within {α : Type} {c : Call} {next : c.Answer → Activity σ α} {w : World σ}
    (during : inner c w) : Consults (.call c next) w
  | after {α : Type} {c : Call} {next : c.Answer → Activity σ α} {w w' : World σ}
    {answer : c.Answer} (ended : perform c w = .ok (answer, w'))
    (later : Consults (next answer) w') :
    Consults (.call c next) w
  | joined {α β : Type} {body : Activity σ β} {next : β → Activity σ α} {w w' : World σ} {b : β}
    (ended : body.run perform { w with context := none } = .ok (b, w'))
    (later : Consults (next b) { w' with context := w.context }) : Consults (.thread body next) w

namespace World

variable (H : Host σ) (p : ProxyId) (resolver : Resolver) (factory : Factory)

/-- So does the code that answers a dialogue of the proxy `p`. -/
inductive TalkConsults {α : Type} : Talk α → World σ → Prop
  | within {q : Request} {next : q.Answer → Talk α} {w : World σ}
    (during : (H.serve resolver factory q).Consults perform inner (w.record (.asked p q))) :
    TalkConsults (.ask q next) w
  | after {q : Request} {next : q.Answer → Talk α} {w w' : World σ} {answer : q.Answer}
    (ended : (H.serve resolver factory q).run perform (w.record (.asked p q)) = .ok (answer, w'))
    (later : TalkConsults (next answer) (w'.record (.answered p ⟨q, answer⟩))) :
    TalkConsults (.ask q next) w

/-- So does an operation on the proxy `p`: it is itself the resolve of a proxy whose type is
unknown, or the code that it runs comes to one. -/
def OperateConsults (operation : Proxy.Operation) (w : World σ) : Prop :=
  ∃ proxy, w.proxy? p = some proxy ∧ proxy.busy = false ∧
    (operation = .resolve ∧ proxy.state.type = none ∨
      TalkConsults perform inner H p proxy.resolver proxy.factory
        (operation.talk proxy.name proxy.state)
        ((w.setProxy p { proxy with busy := true }).record (.began p operation)))

/-- So does a sweep of the registry `r`. -/
inductive SweepConsults (r : RegistryId) : List ProxyId → World σ → Prop
  | within {p : ProxyId} {rest : List ProxyId} {w : World σ}
    (during : OperateConsults perform inner H p .stop (w.record (.swept r p))) :
    SweepConsults r (p :: rest) w
  | after {p : ProxyId} {rest : List ProxyId} {w w' : World σ} {result : Except ProxyError Unit}
    (ended : operate perform H p .stop (w.record (.swept r p)) = .ok (result, w'))
    (later : SweepConsults r rest w') : SweepConsults r (p :: rest) w

end World

end Consults

namespace World

/-- On account of the call, and on the thread that makes it, a proxy whose type is unknown is
resolved. -/
def Consults (H : Host σ) : Nat → Call → World σ → Prop
  | bound + 1, .operate p operation, w =>
    OperateConsults (perform H bound) (Consults H bound) H p operation w
  | bound + 1, .reset r, w =>
    ∃ registry, w.registry? r = some registry ∧ registry.entries.isEmpty = false ∧
      (SweepConsults (perform H bound) (Consults H bound) H r registry.proxies w ∨
        ∃ w', sweep (perform H bound) H r registry.proxies w = .ok w' ∧
          Consults H bound (.reset r) (w'.remove r registry.proxies))
  | bound + 1, .construct type, w =>
    (H.construct type.value.constructor).Consults (perform H bound) (Consults H bound) w
  | _, _, _ => False

/-! ## What is current does not matter -/

/-- The world in which `x` is current. -/
def under (w : World σ) (x : Context) : World σ := { w with context := x }

/-- What comes to an end comes to it while `x` is current. -/
def outcomeUnder {α : Type} (x : Context) (outcome : Except Halt (α × World σ)) :
    Except Halt (α × World σ) :=
  outcome.map fun o => (o.1, o.2.under x)

variable {H : Host σ} {α : Type} {w : World σ} {p : ProxyId} {r : RegistryId}
  {operation : Proxy.Operation} (x : Context)

/-- The library does not see what is current. -/
private lemma unseen_under : Unseen (under (σ := σ) · x) where
  proxies _ := rfl
  registries _ := rfl
  installed _ := rfl
  putProxies _ _ := rfl
  putRegistries _ _ := rfl
  putInstalled _ _ := rfl
  record _ _ := rfl

section Calls

variable {perform : Activity.Performance σ} {inner : Call → World σ → Prop}
  (calls : ∀ {c : Call} {w : World σ}, c.Heedless → ¬ inner c w →
    perform c (w.under x) = outcomeUnder x (perform c w))
include calls

/-- An activity that does not heed what is current does the same whatever is current.

**Proof sketch.** Induction on the activity. A thread starts in the same world, whatever is current
on the thread that waits for it. -/
private lemma run_under {a : Activity σ α} (heedless : a.Heedless)
    (silent : ¬ a.Consults perform inner w) :
    a.run perform (w.under x) = outcomeUnder x (a.run perform w) := by
  induction a generalizing w with
  | done a => rfl
  | get next ih => exact ih w.host (heedless w.host) fun later => silent (.get later)
  | put s next ih => exact ih (w := { w with host := s }) heedless fun later => silent (.put later)
  | call c next ih =>
    rw [Activity.run, Activity.run, calls heedless.1 fun during => silent (.within during)]
    cases hcall : perform c w with
    | error h => rfl
    | ok outcome =>
      exact ih outcome.1 (heedless.2 outcome.1) fun later => silent (.after hcall later)
  | thread body next _ ih =>
    have begun : { w.under x with context := none } = { w with context := none } := rfl
    rw [Activity.run, Activity.run, begun]
    cases hbody : body.run perform { w with context := none } with
    | error h => rfl
    | ok outcome =>
      exact ih outcome.1 (w := { outcome.2 with context := w.context }) (heedless outcome.1)
        fun later => silent (.joined hbody later)

variable (heedless : H.Heedless)
include heedless

/-- A dialogue that asks for no type does the same whatever is current.

**Proof sketch.** Induction on the dialogue. None of its questions is a look-up, and the code that
serves the others does not heed what is current. -/
private lemma converse_under {resolver : Resolver} {factory : Factory} {t : Talk α}
    (sparing : t.Sparing) (silent : ¬ TalkConsults perform inner H p resolver factory t w) :
    converse perform H p resolver factory t (w.under x) =
      outcomeUnder x (converse perform H p resolver factory t w) := by
  induction t generalizing w with
  | done a => rfl
  | ask q next ih =>
    rw [converse, converse, (unseen_under x).record,
      run_under x calls (heedless.serve resolver factory sparing.1) fun during =>
        silent (.within during)]
    cases hserve : (H.serve resolver factory q).run perform (w.record (.asked p q)) with
    | error h => rfl
    | ok outcome =>
      exact ih outcome.1 (sparing.2 outcome.1) fun later => silent (.after hserve later)

/-- An operation does the same whatever is current. -/
private lemma operate_under (silent : ¬ OperateConsults perform inner H p operation w) :
    operate perform H p operation (w.under x) =
      outcomeUnder x (operate perform H p operation w) := by
  refine operate_unseen (unseen_under x) fun proxy known idle => ?_
  have spared : ¬ (operation = .resolve ∧ proxy.state.type = none) :=
    fun asks => silent ⟨proxy, known, idle, .inl asks⟩
  exact converse_under x calls heedless (Proxy.sparing_talk spared proxy.name)
    fun later => silent ⟨proxy, known, idle, .inr later⟩

/-- A sweep does the same whatever is current. -/
private lemma sweep_under {ps : List ProxyId} (silent : ¬ SweepConsults perform inner H r ps w) :
    sweep perform H r ps (w.under x) = (sweep perform H r ps w).map (under · x) := by
  induction ps generalizing w with
  | nil => rfl
  | cons p rest ih =>
    rw [sweep, sweep, (unseen_under x).record,
      operate_under x calls heedless fun during => silent (.within during)]
    cases hstop : operate perform H p .stop (w.record (.swept r p)) with
    | error h => rfl
    | ok outcome => exact ih fun later => silent (.after hstop later)

end Calls

/-- A call on account of which no proxy of unknown type is resolved on its thread does the same
whatever is current, and leaves it as it is.

**Proof sketch.** Induction on the bound, as for everything that is true of calls. -/
theorem perform_under (heedless : H.Heedless) {bound : Nat} {c : Call} (hc : c.Heedless)
    (silent : ¬ Consults H bound c w) :
    perform H bound c (w.under x) = outcomeUnder x (perform H bound c w) := by
  induction bound generalizing c w with
  | zero =>
    cases c with
    | operate _ _ | reset _ | construct _ => rfl
    | establish _ _ | obtain _ _ | entries _ | nameOf _ | observe _ | install _ | installed
    | enter _ | leave _ | current => exact plain_unseen (unseen_under x) trivial hc
  | succ bound ih =>
    cases c with
    | operate p operation => exact operate_under x ih heedless silent
    | construct type => exact run_under x ih (heedless.construct _) silent
    | reset r =>
      refine reset_unseen (unseen_under x) (fun registry known some => ?_)
        fun registry v known some swept => ?_
      · exact sweep_under x ih heedless fun during => silent ⟨registry, known, some, .inl during⟩
      · exact ih hc fun later => silent ⟨registry, known, some, .inr ⟨v, swept, later⟩⟩
    | establish _ _ | obtain _ _ | entries _ | nameOf _ | observe _ | install _ | installed
    | enter _ | leave _ | current => exact plain_unseen (unseen_under x) trivial hc

end World

end Standby
