import Mathlib.Data.List.Nodup
import Mathlib.Data.List.Pairwise
import Standby.Proofs.Proxy.Usage
import Standby.Proofs.World.Coherence
set_option autoImplicit false

/-!
# The discipline of a world's proxies

Every product is driven by the proxy that it was given to, in the order that its life has, and by no
other. This is said about every moment of every run: also about an operation that is under way, and
about a call that waits for its answer.

## Main definitions

* `Standby.Chronicle.Calls` — the calls that a proxy made so far.
* `Standby.World.gifts` — the products that factories gave to all proxies.
* `Standby.Proxy.Disciplined` — what the calls of a proxy mean for each product.

## Main results

* `Standby.World.Coherent.completes` — the calls that a proxy made so far are the beginning of those
  of a run.
* `Standby.World.calls_disciplined` — the calls of each proxy are disciplined, and no proxy calls
  the product of another one.
-/

namespace Standby

open Dialogue Proxy

variable {σ : Type} {H : Host σ} {w : World σ} {p q : ProxyId} {x : Product}
  {cs more : List Contact}

/-! ## The calls of a proxy -/

namespace Chronicle

variable {c : Chronicle}

/-- The calls that are answered: those of the turns, and those of the operation under way. -/
def contacts (c : Chronicle) : List Contact :=
  Proxy.contacts c.turns ++ c.exchanges.map (Contact.mk c.operation)

/-- The calls so far: all that are answered, and the one that waits for its answer with any answer
that is no new product. -/
inductive Calls (c : Chronicle) : List Contact → Prop
  | answered : Calls c c.contacts
  | pending {q : Request} (asked : c.pending = some q) (answer : q.Answer)
    (nothing : Exchange.given? ⟨q, answer⟩ = none) :
    Calls c (c.contacts ++ [⟨c.operation, q, answer⟩])

/-- The call that waits for its answer has given nothing. -/
private lemma Calls.given_eq (calls : c.Calls cs) : given cs = given c.contacts := by
  cases calls with
  | answered => rfl
  | pending _ answer nothing =>
    rw [given_append]
    simp [given, Contact.given?, nothing]

end Chronicle

/-! ## Gifts -/

/-- The product that a factory gave, according to an event. -/
def Event.gift? : Event → Option Product
  | .answered _ exchange => Exchange.given? exchange
  | _ => none

/-- The product that a factory gave to the proxy `p`, according to an event. -/
def Event.giftTo? (p : ProxyId) : Event → Option Product
  | .answered q exchange => if q = p then Exchange.given? exchange else none
  | _ => none

/-- The products that factories gave, latest first. -/
def World.gifts (w : World σ) : List Product := w.journal.filterMap Event.gift?

/-- A gift to a proxy is a gift, and the event is about this proxy. -/
private lemma Event.gift?_of_giftTo? {e : Event} (h : e.giftTo? p = some x) :
    e.gift? = some x ∧ ∃ exchange, e = .answered p exchange := by
  cases e with
  | answered q exchange =>
    rw [giftTo?] at h
    split at h
    next hq => exact ⟨h, exchange, by rw [hq]⟩
    · cases h
  | registered _ _ _ | swept _ _ | removed _ _ | began _ _ | asked _ _ | ended _ _ _ => cases h

/-- What the calls of an operation give does not depend on the operation. -/
lemma Proxy.given_map {operation : Operation} {es : List Exchange} :
    given (es.map (Contact.mk operation)) = es.filterMap Exchange.given? := by
  rw [given, List.filterMap_map]
  rfl

/-- The products that a proxy was given are the gifts to it.

**Proof sketch.** Induction on the journal. Only an answer can give a product, and it gives it to
the proxy that asked. -/
private lemma Chronicle.given_contacts (journal : List Event) :
    given (ofJournal p journal).contacts = journal.reverse.filterMap (Event.giftTo? p) := by
  induction journal with
  | nil => rfl
  | cons e journal ih =>
    rw [List.reverse_cons, List.filterMap_append, ← ih, ofJournal_cons]
    generalize ofJournal p journal = c
    by_cases he : e.IsOf p
    · cases e with
      | began q operation =>
        obtain rfl : q = p := he
        simp [contacts, given_map, Event.giftTo?]
      | asked q request =>
        obtain rfl : q = p := he
        simp [contacts, Event.giftTo?]
      | answered q exchange =>
        obtain rfl : q = p := he
        cases hgift : Exchange.given? exchange <;>
          simp [contacts, given, Contact.given?, Event.giftTo?, hgift]
      | ended q operation result =>
        obtain rfl : q = p := he
        simp [contacts, Proxy.contacts, Turn.contacts, given_map, Event.giftTo?]
      | registered _ _ _ | swept _ _ | removed _ _ => exact he.elim
    · have hnone : e.giftTo? p = none := by
        cases hgift : e.giftTo? p with
        | none => rfl
        | some y =>
          obtain ⟨-, exchange, rfl⟩ := Event.gift?_of_giftTo? hgift
          exact absurd rfl he
      rw [note_of_not_isOf he]
      simp [hnone]

section Fresh

variable (fresh : w.gifts.Nodup)
include fresh

/-- A proxy is given no product twice, if no product is given twice. -/
private lemma World.nodup_given : (given (w.chronicle p).contacts).Nodup := by
  rw [chronicle, Chronicle.given_contacts, List.filterMap_reverse, List.nodup_reverse]
  rw [gifts, List.Nodup, List.pairwise_filterMap] at fresh
  rw [List.Nodup, List.pairwise_filterMap]
  refine fresh.imp fun hne y hy z hz => ?_
  exact hne y (Event.gift?_of_giftTo? hy).1 z (Event.gift?_of_giftTo? hz).1

/-- There is one gift of a product, if no product is given twice. -/
private lemma World.eq_of_gift {e e' : Event} (he : e ∈ w.journal) (he' : e' ∈ w.journal)
    (hgift : e.gift? = some x) (hgift' : e'.gift? = some x) : e = e' := by
  rw [gifts, List.Nodup, List.pairwise_filterMap] at fresh
  by_contra hne
  have symm : Std.Symm fun a b : Event => ∀ y, a.gift? = some y → ∀ z, b.gift? = some z → y ≠ z :=
    ⟨fun _ _ h y hy z hz => (h z hz y hy).symm⟩
  exact fresh.forall he he' hne x hgift x hgift' rfl

/-- No two proxies are given the same product, if no product is given twice. -/
private lemma World.not_mem_given (hpq : p ≠ q) (hp : x ∈ given (w.chronicle p).contacts) :
    x ∉ given (w.chronicle q).contacts := by
  intro hq
  rw [chronicle, Chronicle.given_contacts, List.mem_filterMap] at hp hq
  obtain ⟨e, he, hp⟩ := hp
  obtain ⟨e', he', hq⟩ := hq
  obtain ⟨hgift, exchange, rfl⟩ := Event.gift?_of_giftTo? hp
  obtain ⟨hgift', exchange', rfl⟩ := Event.gift?_of_giftTo? hq
  have same := eq_of_gift fresh (List.mem_reverse.1 he) (List.mem_reverse.1 he') hgift hgift'
  exact hpq (Event.answered.inj same).1

end Fresh

/-! ## What is left of an operation -/

/-- An answer that gives nothing. -/
def Request.refusal : (q : Request) → q.Answer
  | .resolve name => Except.error (ε := NotFound) (.noContext name)
  | .create type => Except.error (ε := ConstructionError) ⟨type.name, default⟩
  | .capability _ => false
  | .start _ | .stop _ => Except.ok (ε := LifecycleError) ()

/-- Refusals give no product. -/
private lemma Exchange.given?_refusal (q : Request) : Exchange.given? ⟨q, q.refusal⟩ = none := by
  cases q <;> rfl

/-- While no operation is under way, the calls so far are those of the turns. -/
lemma Proxy.Agrees.calls_eq {proxy : Proxy} {c : Chronicle} (agrees : proxy.Agrees c)
    (idle : proxy.busy = false) (calls : c.Calls cs) : cs = Proxy.contacts c.turns := by
  obtain ⟨hexchanges, hpending⟩ := agrees.idle idle
  cases calls with
  | answered => simp [Chronicle.contacts, hexchanges]
  | pending asked => simp [hpending] at asked

/-- The calls of an operation that is under way are the beginning of those of a turn, and what is
left need not give a product.

**Proof sketch.** What is left of a dialogue can always be ended by refusing everything, and a
refusal gives no product. A proxy that is idle has nothing left to end. -/
private lemma Proxy.Agrees.completes {proxy : Proxy} {c : Chronicle} (agrees : proxy.Agrees c)
    (calls : c.Calls cs) :
    ∃ more h s, Run proxy.name h s ∧ Proxy.contacts h = cs ++ more ∧ given more = [] := by
  have finish {es : List Exchange} {rest : Talk Outcome}
      (reaches : Reaches (c.operation.talk proxy.name proxy.state) es rest) :
      ∃ more h s, Run proxy.name h s ∧
        Proxy.contacts h = Proxy.contacts c.turns ++ es.map (Contact.mk c.operation) ++ more ∧
        given more = [] := by
    obtain ⟨es', ⟨result, s⟩, path, refusals⟩ := exists_path Request.refusal rest
    refine ⟨es'.map (Contact.mk c.operation), c.turns ++ [⟨c.operation, es ++ es', result⟩], s,
      agrees.run.turn (reaches.path path), by simp [Proxy.contacts, Turn.contacts], ?_⟩
    rw [given_map, List.filterMap_eq_nil_iff]
    rintro ⟨q, answer⟩ he
    obtain rfl : answer = q.refusal := refusals _ he
    exact Exchange.given?_refusal q
  cases hbusy : proxy.busy with
  | false =>
    obtain rfl := agrees.calls_eq hbusy calls
    exact ⟨[], c.turns, proxy.state, agrees.run, by simp, rfl⟩
  | true =>
    obtain ⟨rest, reaches, waits⟩ := agrees.underway hbusy
    cases calls with
    | answered => exact finish reaches
    | @pending q asked answer _ =>
      obtain ⟨next, rfl⟩ := waits q asked
      simpa [Chronicle.contacts] using finish (reaches.snoc answer)

/-- The calls that a proxy made so far are the beginning of those of a run, which need not be given
more products. -/
lemma World.Coherent.completes (coherent : w.Coherent) (calls : (w.chronicle p).Calls cs) :
    ∃ more name h s, Run name h s ∧ Proxy.contacts h = cs ++ more ∧ given more = [] := by
  cases hp : w.proxy? p with
  | some proxy =>
    obtain ⟨more, h, s, rest⟩ := (coherent.agrees p proxy hp).completes calls
    exact ⟨more, proxy.name, h, s, rest⟩
  | none =>
    rw [coherent.unknown p hp] at calls
    cases calls with
    | answered => exact ⟨[], "", [], .initial, .new, rfl, rfl⟩
    | pending asked => cases asked

/-! ## Discipline -/

/-- What the calls that a proxy made so far mean for each product.

A life begins with the call that gives the product. It goes on with starts, each after the product
was asked whether it can be started, and it ends with one stop at most. No call concerns a product
before or after its life. -/
structure Proxy.Disciplined (cs : List Contact) : Prop where
  /-- A product that the proxy was given gets the calls of a life, up to now. -/
  usage : ∀ x ∈ given cs, ∃ standing rest, Usage x standing (received x cs ++ rest)
  /-- A call goes to a product that an earlier call gave. -/
  known : ∀ before c after x, cs = before ++ c :: after → c.product? = some x → x ∈ given before
  /-- When the factory is asked, all products that it gave are given up, and they get no call
  later. -/
  handover : ∀ before c after, cs = before ++ c :: after → c.Asks → ∀ x ∈ given before,
    Usage x .gone (received x before) ∧ received x after = []

/-- The beginning of orderly calls is disciplined.

**Proof sketch.** All three conditions speak of what comes before a call, so that what comes after
all of them may be left away. -/
private lemma Proxy.Orderly.disciplined {held : Option Product}
    (orderly : Orderly (cs ++ more) held) : Disciplined cs where
  usage x hx := by
    have used := orderly.usage x (by simp [hx])
    exact ⟨_, received x more, by rwa [← received_append]⟩
  known before c after x h := by
    subst h
    exact orderly.known before c (after ++ more) x (by simp)
  handover before c after h asks x hx := by
    subst h
    obtain ⟨gone, later⟩ := orderly.handover before c (after ++ more) (by simp) asks x hx
    rw [received_append, List.append_eq_nil_iff] at later
    exact ⟨gone, later.1⟩

/-- The calls that a proxy made so far are the beginning of orderly ones, if no product is given
twice. -/
private lemma World.Coherent.orderly (coherent : w.Coherent) (fresh : w.gifts.Nodup)
    (calls : (w.chronicle p).Calls cs) :
    ∃ more held, Orderly (cs ++ more) held ∧ given more = [] := by
  obtain ⟨more, name, h, s, run, hcontacts, nothing⟩ := coherent.completes calls
  have nodup : (given (contacts h)).Nodup := by
    rw [hcontacts, given_append, nothing, List.append_nil, calls.given_eq]
    exact nodup_given fresh
  exact ⟨more, s.product, hcontacts ▸ run.orderly nodup, nothing⟩

/-- **The discipline of products.** As long as no product is given twice, at every moment of every
run, the calls that a proxy made so far are disciplined; a product that the proxy was given gets no
call of another proxy; and while no operation on the proxy is under way each product was given up,
except for the one that the proxy holds.

**Proof sketch.** By coherence the calls so far are the beginning of those of a run of the proxy. A
run makes its calls in order, and since gifts to one proxy and to different proxies are different
products, this order is the one of each product. -/
theorem World.calls_disciplined (reachable : Reachable H w) (fresh : w.gifts.Nodup)
    (calls : (w.chronicle p).Calls cs) :
    Disciplined cs ∧
      (∀ q cs', p ≠ q → (w.chronicle q).Calls cs' → ∀ x ∈ given cs, received x cs' = []) ∧
      ∀ proxy, w.proxy? p = some proxy → proxy.busy = false →
        ∀ x ∈ given cs, Usage x (standing proxy.state.product x) (received x cs) := by
  have coherent := reachable.coherent
  refine ⟨?disciplined, ?others, ?idle⟩
  case disciplined =>
    obtain ⟨more, held, orderly, -⟩ := coherent.orderly fresh calls
    exact orderly.disciplined
  case others =>
    intro q cs' hpq calls' x hx
    obtain ⟨more, held, orderly, nothing⟩ := coherent.orderly fresh calls'
    have unknown : x ∉ given (cs' ++ more) := by
      rw [given_append, nothing, List.append_nil, calls'.given_eq]
      rw [calls.given_eq] at hx
      exact not_mem_given fresh hpq hx
    have none := orderly.received_eq_nil unknown
    rw [received_append, List.append_eq_nil_iff] at none
    exact none.1
  case idle =>
    intro proxy known idle
    have agrees := coherent.agrees p proxy known
    have nodup := nodup_given (p := p) fresh
    rw [← calls.given_eq] at nodup
    obtain rfl := agrees.calls_eq idle calls
    exact (agrees.run.orderly nodup).usage

/-- A client that has a component run twice. -/
def cycle : Activity Nat Unit := do
  let r ← Activity.establish (.custom 0) (.custom 0)
  let p ← Activity.obtain r "a"
  let _ ← Activity.operate p .resolve
  let _ ← Activity.operate p .start
  let _ ← Activity.operate p .stop
  let _ ← Activity.operate p .start

/-- The proxy was given two products, and gave up the first one before it asked for the second. -/
theorem calls_disciplined_cycle : ∃ w,
    World.Reachable (.counting (fun _ => .ok ()) fun _ => pure ()) w ∧ w.gifts.Nodup ∧
    given (w.chronicle ⟨0⟩).contacts = [⟨0⟩, ⟨1⟩] ∧ Disciplined (w.chronicle ⟨0⟩).contacts := by
  obtain ⟨w, ended, gifts, gave⟩ : ∃ w,
      cycle.perform (.counting (fun _ => .ok ()) fun _ => pure ()) 1 { host := 0 } = .ok ((), w) ∧
      w.gifts = [⟨1⟩, ⟨0⟩] ∧ given (w.chronicle ⟨0⟩).contacts = [⟨0⟩, ⟨1⟩] := by
    refine ⟨_, rfl, rfl, rfl⟩
  have fresh : w.gifts.Nodup := by
    rw [gifts]
    decide
  have reachable := World.Reachable.of_run ended
  exact ⟨w, reachable, fresh, gave, (World.calls_disciplined reachable fresh .answered).1⟩

end Standby
