import Standby.Proofs.Proxy.Phase
set_option autoImplicit false

/-!
# How a proxy uses its products

A proxy gets its products from a factory and calls them. The calls that go to one product have an
order: it is asked for its capability, started, perhaps more than once, and given up; and all of
this is over before the factory is asked for the next product.

## Main definitions

* `Standby.Proxy.Contact` — a call of a proxy and the operation that made it.
* `Standby.Proxy.Usage` — the calls that a product gets, from first to last.
* `Standby.Proxy.Lives` — products that were used and given up, one after the other.
* `Standby.Proxy.Orderly` — what this order means for each product.

## Main results

* `Standby.Proxy.Run.holding` — a run makes its calls in this order.
* `Standby.Proxy.Run.orderly` — so each product gets its own calls, as long as none is handed out
  twice.

## Design

That a proxy keeps the order does not depend on what its factory hands out. It is said about the
calls in the sequence in which they are made, where the calls that go to one product are next to
each other. Only when they are told apart by the product that they go to, no product may be handed
out twice.
-/

namespace Standby

/-- The product that a call goes to. -/
def Request.product? : Request → Option Product
  | .capability product | .start product | .stop product => some product
  | .resolve _ | .create _ => none

/-- The product that a call gave: the answer of a factory, if it was a success. -/
def Exchange.given? : Exchange → Option Product
  | ⟨.create _, answer⟩ => Except.toOption (ε := ConstructionError) answer
  | _ => none

namespace Proxy

variable {name : String} {type : TypeHandle} {x y : Product} {operation : Operation} {s : State}
  {es : List Exchange} {o : Outcome}

/-! ## Calls and whom they go to -/

/-- A call of a proxy with its answer, and the operation that made the call. -/
structure Contact where
  operation : Operation
  exchange : Exchange

namespace Contact

/-- The product that the call goes to. -/
def product? (c : Contact) : Option Product := c.exchange.1.product?

/-- The product that the call gave. -/
def given? (c : Contact) : Option Product := c.exchange.given?

/-- The call asks the factory for a product. -/
def Asks (c : Contact) : Prop := ∃ type, c.exchange.1 = .create type

/-- A factory is no product. -/
private lemma Asks.product?_eq_none {c : Contact} (asks : c.Asks) : c.product? = none := by
  obtain ⟨type, h⟩ := asks
  rw [product?, h]
  rfl

end Contact

variable {cs us ts : List Contact} {c : Contact}

/-- The calls that go to the product `x`. -/
def received (x : Product) (cs : List Contact) : List Contact :=
  cs.filter fun c => c.product? = some x

/-- The products that the calls gave. -/
def given (cs : List Contact) : List Product := cs.filterMap Contact.given?

/-- The calls that a product received in two stretches, earlier stretch first. -/
@[simp] lemma received_append : received x (cs ++ us) = received x cs ++ received x us :=
  List.filter_append ..

/-- The products that were given in two stretches, earlier stretch first. -/
@[simp] lemma given_append : given (cs ++ us) = given cs ++ given us := List.filterMap_append

/-- A product that the factory gave is the first of those that are given from there on. -/
@[simp] lemma given_cons_create :
    given (⟨operation, .create type, .ok x⟩ :: cs) = x :: given cs := rfl

/-- A call that goes to no product is none that a product received. -/
private lemma received_cons_of_none (h : c.product? = none) :
    received x (c :: cs) = received x cs := by
  simp [received, h]

/-- The calls of a turn. -/
def Turn.contacts (t : Turn) : List Contact := t.exchanges.map (Contact.mk t.operation)

/-- The calls of a history. -/
def contacts (h : List Turn) : List Contact := h.flatMap Turn.contacts

/-! ## The calls of one product -/

/-- A start attempt: the product is asked for its capability, and it is started exactly if it says
yes. -/
inductive Try (x : Product) : List Contact → Prop
  | refused {operation : Operation} (ho : operation ≠ .stop) :
    Try x [⟨operation, .capability x, false⟩]
  | made {operation : Operation} (ho : operation ≠ .stop) (result : Except LifecycleError Unit) :
    Try x [⟨operation, .capability x, true⟩, ⟨operation, .start x, result⟩]

/-- A release: the product is asked for its capability, and it is stopped exactly if it says yes. -/
inductive Release (x : Product) : List Contact → Prop
  | refused : Release x [⟨.stop, .capability x, false⟩]
  | made (result : Except LifecycleError Unit) :
    Release x [⟨.stop, .capability x, true⟩, ⟨.stop, .stop x, result⟩]

/-- Whether a product may get more calls. -/
inductive Standing where
  | held
  | gone
  deriving DecidableEq

/-- The calls that a product gets, from first to last. It is asked for its capability once, and if
it says no that was all. If it says yes it gets one start attempt or more, and after them at most
one release. -/
inductive Usage (x : Product) : Standing → List Contact → Prop
  | unfit {operation : Operation} (ho : operation ≠ .stop) :
    Usage x .gone [⟨operation, .capability x, false⟩]
  | first {operation : Operation} {ts : List Contact} (ho : operation ≠ .stop) (tried : Try x ts) :
    Usage x .held (⟨operation, .capability x, true⟩ :: ts)
  | again {us ts : List Contact} (used : Usage x .held us) (tried : Try x ts) :
    Usage x .held (us ++ ts)
  | released {us ts : List Contact} (used : Usage x .held us) (release : Release x ts) :
    Usage x .gone (us ++ ts)

/-- All calls of a start attempt go to its product. -/
private lemma Try.product? (tried : Try x ts) : ∀ c ∈ ts, c.product? = some x := by
  cases tried <;> simp [Contact.product?, Request.product?]

/-- All calls of a release go to its product. -/
private lemma Release.product? (release : Release x ts) : ∀ c ∈ ts, c.product? = some x := by
  cases release <;> simp [Contact.product?, Request.product?]

namespace Usage

variable {standing : Standing}

/-- All calls that a product gets go to this product. -/
private lemma product? (used : Usage x standing us) : ∀ c ∈ us, c.product? = some x := by
  induction used with
  | unfit => simp [Contact.product?, Request.product?]
  | first _ tried => simpa [Contact.product?, Request.product?] using tried.product?
  | again _ tried ih => simpa [or_imp, forall_and] using ⟨ih, tried.product?⟩
  | released _ release ih => simpa [or_imp, forall_and] using ⟨ih, release.product?⟩

/-- All calls of the usage of a product go to this product. -/
private lemma received_self (used : Usage x standing us) : received x us = us :=
  List.filter_eq_self.2 fun c hc => by simp [used.product? c hc]

/-- No call of the usage of a product goes to another one. -/
private lemma received_of_ne (used : Usage x standing us) (h : y ≠ x) : received y us = [] :=
  List.filter_eq_nil_iff.2 fun c hc => by simp [used.product? c hc, h.symm]

/-- No product gives another one. -/
private lemma given_eq_nil (used : Usage x standing us) : given us = [] := by
  refine List.filterMap_eq_nil_iff.2 fun c hc => ?_
  have hproduct := used.product? c hc
  obtain ⟨operation, q, answer⟩ := c
  cases q with
  | create type => simp [Contact.product?, Request.product?] at hproduct
  | resolve _ | capability _ | start _ | stop _ => rfl

end Usage

/-! ## One product after the other -/

/-- The calls of products that were used and given up, one after the other, and in between calls
that have to do with no product. -/
inductive Lives : List Contact → Prop
  | nil : Lives []
  | aside {cs : List Contact} {c : Contact} (lives : Lives cs) (hproduct : c.product? = none)
    (hgiven : c.given? = none) : Lives (cs ++ [c])
  | life {cs us : List Contact} {operation : Operation} {type : TypeHandle} {x : Product}
    (lives : Lives cs) (used : Usage x .gone us) :
    Lives (cs ++ ⟨operation, .create type, .ok x⟩ :: us)

/-- The calls of a proxy that holds a product, or none: all products before were given up, and the
one that is held came last. -/
def Holding (cs : List Contact) : Option Product → Prop
  | none => Lives cs
  | some x => ∃ past operation type us,
      cs = past ++ ⟨operation, .create type, .ok x⟩ :: us ∧ Lives past ∧ Usage x .held us

/-- The calls of `launch` are a start attempt, and the product stays. -/
private lemma LaunchPath.tried (h : LaunchPath name type x s es o) (ho : operation ≠ .stop) :
    Try x (es.map (Contact.mk operation)) ∧ o.2.product = s.product := by
  cases h with
  | refused => exact ⟨.refused ho, rfl⟩
  | startFailed e => exact ⟨.made ho _, rfl⟩
  | started => exact ⟨.made ho _, rfl⟩

/-- One more start attempt on the product that is held. -/
private lemma Holding.again (holding : Holding cs (some x)) (tried : Try x ts) :
    Holding (cs ++ ts) (some x) := by
  obtain ⟨past, operation, type, us, rfl, lives, used⟩ := holding
  exact ⟨past, operation, type, us ++ ts, by simp, lives, used.again tried⟩

/-- The product that is held is released. -/
private lemma Holding.released (holding : Holding cs (some x)) (release : Release x ts) :
    Holding (cs ++ ts) none := by
  obtain ⟨past, operation, type, us, rfl, lives, used⟩ := holding
  simpa [Holding] using lives.life (used.released release)

/-- An attempt keeps the order of calls.

**Proof sketch.** By cases on the way in which the attempt went. A launch adds to the calls of the
product that is held, an attempt that builds nothing fit adds a closed life or none, and one that
builds a product opens the life of this one. -/
private lemma AttemptPath.holding (h : AttemptPath name type s es o) (ho : operation ≠ .stop)
    (holding : Holding cs s.product) :
    Holding (cs ++ es.map (Contact.mk operation)) o.2.product := by
  cases h with
  | held hs launched =>
    obtain ⟨tried, hproduct⟩ := launched.tried ho
    rw [hs] at holding hproduct
    rw [hproduct]
    exact holding.again tried
  | unbuilt e hs =>
    rw [hs] at holding
    simpa [failed, hs, Holding] using Lives.aside holding rfl rfl
  | unfit x hs =>
    rw [hs] at holding
    simpa [failed, hs, Holding] using Lives.life holding (.unfit ho)
  | built hs launched =>
    obtain ⟨tried, hproduct⟩ := launched.tried ho
    rw [hs] at holding
    rw [hproduct]
    exact ⟨cs, operation, type, _, rfl, holding, .first ho tried⟩

/-- An operation keeps the order of calls.

**Proof sketch.** One case for each way in which an operation ends. The resolver is called only
while the type is unknown, and in a sound state no product is held then, so this call is between two
products. -/
theorem OperationPath.holding (h : OperationPath name operation s es o) (sound : s.Sound name)
    (holding : Holding cs s.product) :
    Holding (cs ++ es.map (Contact.mk operation)) o.2.product := by
  cases h with
  | deferred | known => simpa using holding
  | start _ tried => exact tried.holding (by simp) holding
  | nothingHeld hs => simpa [State.released, hs] using holding
  | unstoppable hs =>
    rw [hs] at holding
    exact holding.released .refused
  | stopFailed _ hs | stopped hs =>
    rw [hs] at holding
    exact holding.released (.made _)
  | missing _ hs | found _ hs _ =>
    have hproduct := (sound.unresolved hs).1
    simp only [hproduct] at holding ⊢
    exact Lives.aside holding rfl rfl
  | @foundPending s type es o hs _ tried =>
    have hproduct := (sound.unresolved hs).1
    rw [hproduct] at holding
    have asked : Lives (cs ++ [⟨.resolve, .resolve name, .ok type⟩]) := .aside holding rfl rfl
    have order : Holding (cs ++ [⟨.resolve, .resolve name, .ok type⟩]) s.product := by
      rwa [hproduct]
    have step := tried.holding (by simp : Operation.resolve ≠ .stop) order
    rwa [List.append_assoc] at step

/-- A run makes its calls in order. -/
theorem Run.holding {h : List Turn} (run : Run name h s) : Holding (contacts h) s.product := by
  induction run with
  | new => exact Lives.nil
  | turn run path ih =>
    have step := (path_talk_iff.1 path).holding run.sound ih
    simpa [contacts, Turn.contacts] using step

/-! ## Each product by itself -/

/-- Whether a product may get more calls from a proxy that holds what it holds. -/
def standing (held : Option Product) (x : Product) : Standing :=
  if held = some x then .held else .gone

/-- What the order of the calls means for each product by itself, for a proxy that holds a product
or none. -/
structure Orderly (cs : List Contact) (held : Option Product) : Prop where
  /-- Each product gets its calls, and the one that is held may get more. -/
  usage : ∀ x ∈ given cs, Usage x (standing held x) (received x cs)
  /-- A call goes to a product that an earlier call gave. -/
  known : ∀ before c after x, cs = before ++ c :: after → c.product? = some x → x ∈ given before
  /-- When the factory is asked, all products that it gave are given up, and they get no call
  later. -/
  handover : ∀ before c after, cs = before ++ c :: after → c.Asks → ∀ x ∈ given before,
    Usage x .gone (received x before) ∧ received x after = []

namespace Orderly

variable {held : Option Product}

/-- A product that was not given gets no call. -/
lemma received_eq_nil (orderly : Orderly cs held) (hx : x ∉ given cs) : received x cs = [] := by
  refine List.filter_eq_nil_iff.2 fun c hc => ?_
  obtain ⟨before, after, rfl⟩ := List.append_of_mem hc
  intro hproduct
  exact hx (by simp [orderly.known before c after x rfl (by simpa using hproduct)])

/-- A call that has to do with no product.

**Proof sketch.** The call comes last, so it is the last one before which something is to be shown,
and it concerns no product. Everything else is known of the earlier calls. -/
private lemma aside (orderly : Orderly cs none) (hproduct : c.product? = none)
    (hgiven : c.given? = none) : Orderly (cs ++ [c]) none where
  usage x hx := by
    have hx : x ∈ given cs := by simpa [given, hgiven] using hx
    simpa [received, hproduct] using orderly.usage x hx
  known before d after x h hd := by
    rcases snoc_eq_append_cons h with ⟨-, rfl, -⟩ | ⟨rest, hcs, -⟩
    · simp [hproduct] at hd
    · exact orderly.known before d rest x hcs hd
  handover before d after h asks x hx := by
    rcases snoc_eq_append_cons h with ⟨rfl, rfl, rfl⟩ | ⟨rest, hcs, rfl⟩
    · exact ⟨orderly.usage x hx, rfl⟩
    · obtain ⟨gone, later⟩ := orderly.handover before d rest hcs asks x hx
      exact ⟨gone, by simpa [received, hproduct] using later⟩

/-- A new product, after all others were given up.

**Proof sketch.** The product is new, so the earlier calls are none of its own, and those of its
life are none of another's. Each of the three parts is therefore known of the earlier calls, or of
the life by itself. -/
private lemma life {type : TypeHandle} (orderly : Orderly cs none) (fresh : x ∉ given cs)
    (used : Usage x (standing held x) us) (hheld : ∀ y, held = some y → y = x) :
    Orderly (cs ++ ⟨operation, .create type, .ok x⟩ :: us) held := by
  have hgiven : given (⟨operation, .create type, .ok x⟩ :: us) = [x] := by
    rw [given_cons_create, used.given_eq_nil]
  -- what was given before is another product, so nothing of the block goes to it
  have other {y : Product} (hy : y ∈ given cs) : y ≠ x := fun h => fresh (h ▸ hy)
  have quiet {y : Product} (hy : y ∈ given cs) :
      received y (⟨operation, .create type, .ok x⟩ :: us) = [] := by
    rw [received_cons_of_none rfl, used.received_of_ne (other hy)]
  constructor
  case usage =>
    intro y hy
    rw [given_append, hgiven, List.mem_append, List.mem_singleton] at hy
    rcases hy with hy | rfl
    · have hgone : standing held y = .gone := if_neg fun h => other hy (hheld y h)
      rw [received_append, quiet hy, List.append_nil, hgone]
      exact orderly.usage y hy
    · rw [received_append, orderly.received_eq_nil fresh, received_cons_of_none rfl,
        used.received_self, List.nil_append]
      exact used
  case known =>
    intro before c after y h hc
    rcases append_cons_eq_append_cons h with ⟨rest, hcs, -⟩ | ⟨-, rfl, -⟩ | ⟨rest, rfl, rfl⟩
    · exact orderly.known before c rest y hcs hc
    · simp [Contact.product?, Request.product?] at hc
    · obtain rfl : x = y := by simpa [used.product? c (by simp)] using hc
      simp
  case handover =>
    intro before c after h asks y hy
    rcases append_cons_eq_append_cons h with ⟨rest, hcs, rfl⟩ | ⟨rfl, -, rfl⟩ | ⟨rest, rfl, rfl⟩
    · obtain ⟨gone, later⟩ := orderly.handover before c rest hcs asks y hy
      have hy : y ∈ given cs := by simp [hcs, hy]
      exact ⟨gone, by rw [received_append, later, quiet hy, List.append_nil]⟩
    · exact ⟨orderly.usage y hy, used.received_of_ne (other hy)⟩
    · have hproduct := used.product? c (by simp)
      simp [asks.product?_eq_none] at hproduct

end Orderly

/-- What is given later is new, if no product is given twice. -/
private lemma not_mem_given {type : TypeHandle}
    (fresh : (given (cs ++ ⟨operation, .create type, .ok x⟩ :: us)).Nodup) : x ∉ given cs := by
  rw [given_append, given_cons_create, List.nodup_append] at fresh
  exact fun hx => fresh.2.2 x hx x List.mem_cons_self rfl

/-- Lives one after the other are lives of one product each, as long as no product is given twice.
-/
private lemma Lives.orderly (lives : Lives cs) (fresh : (given cs).Nodup) : Orderly cs none := by
  induction lives with
  | nil => exact ⟨by simp [given], by simp, by simp⟩
  | aside _ hproduct hgiven ih =>
    rw [given_append, List.nodup_append] at fresh
    exact (ih fresh.1).aside hproduct hgiven
  | life _ used ih =>
    have new := not_mem_given fresh
    rw [given_append, List.nodup_append] at fresh
    exact (ih fresh.1).life new used (by simp)

/-- Each product of a run gets its own calls, as long as no product is given twice.

**Proof sketch.** The calls of a run are the lives of products one after the other, the last of them
open if one is held. The lives are orderly if no product was given twice, and an open one is a
beginning of a life. -/
theorem Run.orderly {h : List Turn} (run : Run name h s) (fresh : (given (contacts h)).Nodup) :
    Orderly (contacts h) s.product := by
  have holding := run.holding
  cases hs : s.product with
  | none =>
    rw [hs] at holding
    exact Lives.orderly holding fresh
  | some x =>
    rw [hs] at holding
    obtain ⟨past, operation, type, us, hcs, lives, used⟩ := holding
    rw [hcs] at fresh ⊢
    have new := not_mem_given fresh
    rw [given_append, List.nodup_append] at fresh
    have past := lives.orderly fresh.1
    exact past.life new (by simpa [standing] using used) (by simp [eq_comm])

end Proxy

end Standby
