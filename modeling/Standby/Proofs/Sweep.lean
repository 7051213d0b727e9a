import Standby.Proofs.Reset
import Standby.Proofs.World.Entries
import Standby.Registry.Bulk
set_option autoImplicit false

/-!
# A reset stops every proxy once

While a reset runs, code that it stops may register further names, operate other proxies and fail.
None of this changes what the reset does: it stops every proxy that is registered when it is called
or registered meanwhile, each of them once, in the order of registration, and removes exactly these.

## Main definitions

* `Standby.sweptIn`, `Standby.removedFrom` — what a journal tells of the sweeps of a registry.
* `Standby.Pending` — a sweep reached a proxy and its stop has not ended.
* `Standby.World.Engaged` — a registered proxy on which an operation is under way.
* `Standby.World.Guards` — while a proxy is engaged, its registry only grows.
* `Standby.World.Shows` — a proxy is found under its name.
* `Standby.World.Thorough` — all that is to be said of a reset that is over.

## Main results

* `Standby.World.guards_stepwise` — every step leaves the registry of an engaged proxy in place.
* `Standby.World.exposes_follows` — a proxy whose stop a sweep waits for is engaged.
* `Standby.World.reset_sweeps_once` — a reset that is over was thorough.

## Design

A sweep works on the proxies that it found at its beginning. That none of them gets lost before it
is reached, and that none is registered anew before the pass removes it, comes from the proxy whose
stop is under way: it is busy and registered, so another sweep of the same registry would wait for
it forever. What a pass leaves registered is therefore what was registered in the course of it.
-/

namespace Standby

open Chronicle (Ends)

variable {σ : Type} {H : Host σ}

/-! ## What a journal tells of sweeps -/

/-- The proxies that sweeps of the registry `r` reached, in the order in which they were. -/
def sweptIn (r : RegistryId) (news : List Event) : List ProxyId :=
  news.reverse.flatMap fun
    | .swept r' p => if r' = r then [p] else []
    | _ => []

/-- The proxies that sweeps removed from the registry `r`, in the order in which they were. -/
def removedFrom (r : RegistryId) (news : List Event) : List ProxyId :=
  news.reverse.flatMap fun
    | .removed r' gone => if r' = r then gone else []
    | _ => []

/-- A sweep of the registry `r` reached the proxy `p`, and the stop of this proxy has not ended. -/
def Pending (r : RegistryId) (p : ProxyId) (news : List Event) : Prop :=
  Since (· = .swept r p) (Ends p .stop) news.reverse

/-- What the journal tells of a stop of `p` on account of a sweep of `r`, with what happened
`during` it. -/
def stopping (r : RegistryId) (p : ProxyId) (result : Except ProxyError Unit)
    (during : List Event) : List Event :=
  [.ended p .stop result] ++ during ++ [.began p .stop, .swept r p]

/-- The event is a step of a sweep of the registry `r`, or an operation on the proxy `p` begins or
ends with it. -/
def Event.Disturbs (r : RegistryId) (p : ProxyId) : Event → Prop
  | .swept r' _ | .removed r' _ => r' = r
  | .began q _ | .ended q _ _ => q = p
  | .registered _ _ _ | .asked _ _ | .answered _ _ => False

section Journal

variable {r : RegistryId} {p : ProxyId} {news later : List Event} {e : Event}

/-- Where nothing happened no sweep reached anything. -/
@[simp] lemma sweptIn_nil : sweptIn r [] = [] := rfl

/-- The proxies that sweeps reached in two stretches of a journal, earlier stretch first. -/
@[simp] lemma sweptIn_append : sweptIn r (later ++ news) = sweptIn r news ++ sweptIn r later := by
  simp [sweptIn]

/-- The proxies that sweeps removed in two stretches of a journal, earlier stretch first. -/
@[simp] lemma removedFrom_append :
    removedFrom r (later ++ news) = removedFrom r news ++ removedFrom r later := by
  simp [removedFrom]

/-- What sweeps removed is what they told of, pass by pass.

**Proof sketch.** By cases on the event. Only a removal from this registry adds anything. -/
lemma mem_removedFrom : p ∈ removedFrom r news ↔ ∃ gone, .removed r gone ∈ news ∧ p ∈ gone := by
  simp only [removedFrom, List.mem_flatMap, List.mem_reverse]
  constructor
  · rintro ⟨e, he, hp⟩
    cases e with
    | removed r' gone =>
      by_cases hr : r' = r
      · subst hr
        exact ⟨gone, he, by simpa using hp⟩
      · simp [hr] at hp
    | registered _ _ _ | swept _ _ | began _ _ | asked _ _ | answered _ _ | ended _ _ _ =>
      simp at hp
  · rintro ⟨gone, he, hp⟩
    exact ⟨.removed r gone, he, by simpa using hp⟩

/-- Where nothing is disturbed no sweep took a step. -/
private lemma sweptIn_of_undisturbed (h : ∀ e ∈ news, ¬ e.Disturbs r p) : sweptIn r news = [] := by
  rw [sweptIn, List.flatMap_eq_nil_iff]
  intro e he
  have none := h e (List.mem_reverse.1 he)
  cases e with
  | swept r' q => exact if_neg none
  | registered _ _ _ | removed _ _ | began _ _ | asked _ _ | answered _ _ | ended _ _ _ => rfl

/-- Where nothing is disturbed no sweep removed anything. -/
private lemma removedFrom_of_undisturbed (h : ∀ e ∈ news, ¬ e.Disturbs r p) :
    removedFrom r news = [] := by
  rw [removedFrom, List.flatMap_eq_nil_iff]
  intro e he
  have none := h e (List.mem_reverse.1 he)
  cases e with
  | removed r' gone => exact if_neg none
  | registered _ _ _ | swept _ _ | began _ _ | asked _ _ | answered _ _ | ended _ _ _ => rfl

/-- A stop that is not disturbed is one step of a sweep. -/
private lemma sweptIn_stopping {result : Except ProxyError Unit} {during : List Event}
    (h : ∀ e ∈ during, ¬ e.Disturbs r p) : sweptIn r (stopping r p result during) = [p] := by
  rw [stopping, sweptIn_append, sweptIn_append, sweptIn_of_undisturbed h]
  simp [sweptIn]

/-- A stop that is not disturbed removes nothing: that is done after all stops of the pass. -/
private lemma removedFrom_stopping {result : Except ProxyError Unit} {during : List Event}
    (h : ∀ e ∈ during, ¬ e.Disturbs r p) : removedFrom r (stopping r p result during) = [] := by
  rw [stopping, removedFrom_append, removedFrom_append, removedFrom_of_undisturbed h]
  simp [removedFrom]

/-- What is registered while a sweep stops a proxy is registered in the course of the stop. -/
@[simp] lemma registeredIn_stopping (result : Except ProxyError Unit) (during : List Event) :
    registeredIn r (stopping r p result during) = registeredIn r during := by
  rw [stopping, registeredIn_append, registeredIn_append, registeredIn_cons_of_none rfl,
    registeredIn_cons_of_none rfl, registeredIn_cons_of_none rfl]
  simp

/-- Where nothing happened no sweep waits for a stop. -/
@[simp] lemma not_pending_nil : ¬ Pending r p [] := by simp [Pending]

/-- A stop that a sweep waits for is one that the sweep has just begun, or one that it waited for
already and that has not just ended. -/
private lemma pending_cons :
    Pending r p (e :: news) ↔ e = .swept r p ∨ Pending r p news ∧ ¬ Ends p .stop e := by
  rw [Pending, List.reverse_cons, since_snoc, Pending]

/-- A stop that a sweep waits for after two stretches of a journal was begun in the later one, or in
the earlier one and did not end in the later. -/
private lemma pending_append : Pending r p (later ++ news) ↔
    Pending r p later ∨ Pending r p news ∧ ∀ e ∈ later, ¬ Ends p .stop e := by
  simp [Pending, since_append]

/-- A stop that ended is not pending, and no other one is on its account. -/
private lemma not_pending_stopping {r' : RegistryId} {q : ProxyId} {result : Except ProxyError Unit}
    {during : List Event} (h : ¬ Pending r' q during) :
    ¬ Pending r' q (stopping r p result during) := by
  intro pending
  rcases pending_append.1 pending with pending | ⟨pending, running⟩
  · rcases pending_append.1 pending with pending | ⟨pending, -⟩
    · simp [pending_cons] at pending
    · exact h pending
  · obtain ⟨⟨rfl, rfl⟩, -⟩ : (r = r' ∧ p = q) ∧ ¬ Ends q .stop (.began p .stop) := by
      simpa [pending_cons] using pending
    exact running (.ended p .stop result) (by simp) ⟨result, rfl⟩

end Journal

namespace World

variable {w w' : World σ} {r r' : RegistryId} {p q : ProxyId} {news earlier later : List Event}

/-! ## The registry of an engaged proxy only grows -/

/-- The proxy `p` is registered in `r`, and an operation on it is under way. -/
def Engaged (w : World σ) (r : RegistryId) (p : ProxyId) : Prop :=
  p ∈ w.members r ∧ ∃ proxy, w.proxy? p = some proxy ∧ proxy.busy = true

/-- Between two worlds the entries of `r` got more by those that the journal tells of, no sweep of
`r` took a step, and no operation on `p` began or ended. -/
def Grows (r : RegistryId) (p : ProxyId) (w w' : World σ) : Prop :=
  ∃ news new, w'.journal = news ++ w.journal ∧ (∀ e ∈ news, ¬ e.Disturbs r p) ∧
    w'.entriesOf r = w.entriesOf r ++ new ∧ registeredIn r news = new.map Entry.proxy

/-- If the proxy `p` is engaged in `w`, then it still is in `w'`, and `r` only grew. -/
def Guards (r : RegistryId) (p : ProxyId) (w w' : World σ) : Prop :=
  w.Engaged r p → w'.Engaged r p ∧ Grows r p w w'

/-- Where neither the journal nor the entries change a registry grew by nothing. -/
private lemma grows_of_eq (hjournal : w'.journal = w.journal)
    (hentries : w'.entriesOf r = w.entriesOf r) : Grows r p w w' :=
  ⟨[], [], hjournal, by simp, by simp [hentries], rfl⟩

/-- A registry that grew in each of two stretches grew in both together. -/
private lemma Grows.trans {u v w : World σ} (huv : Grows r p u v) (hvw : Grows r p v w) :
    Grows r p u w := by
  obtain ⟨news, new, hv, quiet, hnew, registered⟩ := huv
  obtain ⟨later, more, hw, quiet', hmore, registered'⟩ := hvw
  refine ⟨later ++ news, new ++ more, journal_trans hv hw, fun e he => ?_,
    by rw [hmore, hnew, List.append_assoc], by simp [registered, registered']⟩
  exact (List.mem_append.1 he).elim (quiet' e) (quiet e)

/-- Where a busy proxy stays as it is and its registry grows, it is guarded. -/
private lemma guards_of_grows
    (known : ∀ proxy, w.proxy? p = some proxy → proxy.busy = true → w'.proxy? p = some proxy)
    (grows : Grows r p w w') : Guards r p w w' := by
  rintro ⟨member, proxy, hp, busy⟩
  refine ⟨⟨?_, proxy, known proxy hp busy, busy⟩, grows⟩
  obtain ⟨news, new, -, -, hentries, -⟩ := grows
  rw [members, hentries, List.map_append]
  exact List.mem_append_left _ member

/-- An event that does not disturb the proxy, and is no registration, leaves it guarded. -/
private lemma guards_record {e : Event} (undisturbed : ¬ e.Disturbs r p)
    (h : e.registration? = none) : Guards r p w (w.record e) :=
  guards_of_grows (fun _ known _ => known)
    ⟨[e], [], rfl, by simpa using undisturbed, by simp, by simp [registeredIn_cons_of_none h]⟩

/-- Guarding composes, and neither the collaborators' state nor what is current matters to it. -/
private lemma guards_silent (r : RegistryId) (p : ProxyId) : Silent (Guards (σ := σ) r p) where
  refl _ engaged := ⟨engaged, grows_of_eq rfl rfl⟩
  trans huv hvw engaged := by
    obtain ⟨engaged, grows⟩ := huv engaged
    obtain ⟨engaged, grows'⟩ := hvw engaged
    exact ⟨engaged, grows.trans grows'⟩
  host _ _ := guards_of_grows (fun _ known _ => known) (grows_of_eq rfl rfl)
  context _ _ := guards_of_grows (fun _ known _ => known) (grows_of_eq rfl rfl)

section Calls

variable {perform : Activity.Performance σ}
  (calls : ∀ {c u answer v}, perform c u = .ok (answer, v) → Guards r p u v)
include calls

/-- An operation that is over was not one on a proxy that is engaged.

**Proof sketch.** The operation was one on another proxy, for the engaged one would have been found
in use. So nothing that it records disturbs the engaged one. -/
private lemma guards_operate {operation : Proxy.Operation} {result : Except ProxyError Unit}
    (h : operate perform H q operation w = .ok (result, w')) : Guards r p w w' := by
  intro engaged
  obtain ⟨-, proxy, known, busy⟩ := id engaged
  have hqp : q ≠ p := by
    rintro rfl
    simp [operate, known, busy] at h
  refine (guards_silent r p).operate calls (fun w proxy => ?_) (fun w e he => ?_) h engaged
  · exact guards_of_grows (fun _ known _ => (proxy?_setProxy_of_ne hqp).trans known)
      (grows_of_eq rfl rfl)
  · refine guards_record ?_ he.registration?_eq
    cases e with
    | began _ _ | ended _ _ _ => rwa [← he] at hqp
    | asked _ _ | answered _ _ => exact id
    | registered _ _ _ | swept _ _ | removed _ _ => exact he.elim

/-- A sweep that has an engaged proxy to stop waits for it forever.

**Proof sketch.** Induction on the proxies that are left to sweep. An operation on another proxy
leaves the engaged one engaged, and the stop of the engaged one waits. -/
private lemma not_sweep_of_engaged {ps : List ProxyId} (engaged : w.Engaged r p) (hp : p ∈ ps) :
    sweep perform H r ps w ≠ .ok w' := by
  intro h
  induction ps generalizing w with
  | nil => simp at hp
  | cons q rest ih =>
    obtain ⟨result, v, hstop, h⟩ := sweep_cons_ok h
    by_cases hqp : p = q
    · subst hqp
      obtain ⟨-, proxy, known, busy⟩ := engaged
      simp [operate, known, busy] at hstop
    · have hrest := (List.mem_cons.1 hp).resolve_left hqp
      have still : (w.record (.swept r q)).Engaged r p := engaged
      exact ih (guards_operate calls hstop still).1 hrest h

end Calls

/-- Every step leaves the registry of an engaged proxy in place, and adds to it at most.

**Proof sketch.** Step by step. A registration adds an entry. A pass removes the members that it
found, and a pass over this registry would have had to stop the engaged member, for which it waits
forever. -/
theorem guards_stepwise (H : Host σ) (r : RegistryId) (p : ProxyId) :
    Stepwise H (Guards r p) where
  toSilent := guards_silent r p
  establish _ _ _ := guards_of_grows (fun _ known _ => known)
    (grows_of_eq rfl (entriesOf_establish ..))
  obtain {w w' r' name q} h := by
    refine guards_of_grows (fun _ known _ => proxy?_obtain h known) ?_
    rcases obtain_registers h with ⟨rfl, -⟩ | registers
    · exact grows_of_eq rfl rfl
    · by_cases hr : r' = r
      · subst hr
        exact ⟨[.registered r' name q], [⟨name, q⟩], registers.journal, by simp [Event.Disturbs],
          registers.entries, by simp [registeredIn, registrations, Event.registration?]⟩
      · exact ⟨[.registered r' name q], [], registers.journal, by simp [Event.Disturbs],
          by simp [registers.others r (Ne.symm hr)],
          by simp [registeredIn, registrations, Event.registration?, hr]⟩
  install w r' := guards_of_grows (fun _ known _ => (proxy?_install r').trans known)
    (grows_of_eq (journal_install r') (entriesOf_install r'))
  operate calls h := guards_operate calls h
  pass {perform r' registry w w'} calls known h := by
    by_cases hr : r' = r
    · subst hr
      intro engaged
      rw [Engaged, members_eq known] at engaged
      refine absurd h (not_sweep_of_engaged calls ?_ engaged.1)
      rwa [Engaged, members_eq known]
    · have hsweep := (guards_silent r p).sweep (fun _ _ => guards_record hr rfl)
        (fun h => guards_operate calls h) h
      refine (guards_silent r p).trans hsweep ?_
      refine guards_of_grows (fun _ known _ => (proxy?_remove r' _).trans known) ?_
      have hentries : (w'.remove r' registry.proxies).entriesOf r = w'.entriesOf r :=
        entriesOf_remove_of_ne _ (Ne.symm hr)
      rcases remove_cases (w := w') r' registry.proxies with same | told
      · exact grows_of_eq (by rw [same]) hentries
      · exact ⟨_, [], told, by simpa [Event.Disturbs] using hr, by simp [hentries], rfl⟩
  began {w q proxy} operation known idle engaged := by
    obtain ⟨-, proxy', known', busy⟩ := id engaged
    have hqp : q ≠ p := by
      rintro rfl
      obtain rfl : proxy = proxy' := Option.some.inj (known.symm.trans known')
      simp [idle] at busy
    refine (guards_silent r p).trans (v := w.setProxy q { proxy with busy := true }) ?_
      (guards_record hqp rfl) engaged
    exact guards_of_grows (fun _ known _ => (proxy?_setProxy_of_ne hqp).trans known)
      (grows_of_eq rfl rfl)
  asked _ _ _ := guards_record id rfl
  answered _ _ _ := guards_record id rfl

/-- A proxy that is engaged is engaged in every world that a call goes through.

**Proof sketch.** By the step lemma it is enough to look at what a sweep goes through. Induction on
the sweep: every stop that ends leaves the proxy engaged, and in the middle of a stop it is so by
the steps. -/
theorem engaged_follows (H : Host σ) (r : RegistryId) (p : ProxyId) :
    Follows H (Guards r p) fun w v => w.Engaged r p → v.Engaged r p where
  toStepwise := guards_stepwise H r p
  here _ := id
  after guards later engaged := later (guards engaged).1
  sweeping {bound r' registry w v} within known h engaged := by
    clear known
    have stepwise := guards_stepwise H r p
    have calls {c u answer v} (hc : World.perform H bound c u = .ok (answer, v)) : Guards r p u v :=
      stepwise.toClosed.perform hc
    generalize registry.proxies = ps at h
    -- what a sweep records of the proxies that it reaches changes neither entries nor proxies
    have recorded {u : World σ} {q : ProxyId} (engaged : u.Engaged r p) :
        (u.record (.swept r' q)).Engaged r p := engaged
    induction h with
    | here => exact engaged
    | within during =>
      exact stepwise.operatePasses (R := fun w v => w.Engaged r p → v.Engaged r p) (fun _ => id)
        (fun guards later engaged => later (guards engaged).1) calls within during
          (recorded engaged)
    | after ended _ ih => exact ih (guards_operate calls ended (recorded engaged)).1

/-! ## What a sweep does -/

/-- The operation on a proxy that is registered begins, and the proxy is engaged. -/
private lemma engaged_of_began {proxy : Proxy} {operation : Proxy.Operation}
    (member : p ∈ w.members r) (known : w.proxy? p = some proxy) :
    ((w.setProxy p { proxy with busy := true }).record (.began p operation)).Engaged r p :=
  ⟨member, _, proxy?_setProxy_self known, rfl⟩

/-- A proxy that is registered is engaged in every world that an operation on it goes through. -/
private lemma engaged_of_operatePasses {bound : Nat} {operation : Proxy.Operation} {v : World σ}
    (member : p ∈ w.members r)
    (h : OperatePasses (perform H bound) (Inside H bound) H p operation w v) : v.Engaged r p := by
  obtain ⟨proxy, known, -, h⟩ := h
  have follows := engaged_follows H r p
  exact follows.toStepwise.talkPasses (R := fun w v => w.Engaged r p → v.Engaged r p)
    follows.here follows.after follows.toClosed.perform follows.inside h
    (engaged_of_began member known)

/-- While an operation on a registered proxy is under way its registry only grows.

**Proof sketch.** The proxy is engaged as soon as the operation begins. The dialogue consists of
steps, so it leaves it engaged and the registry in place, apart from what it adds. -/
lemma grows_operate {bound : Nat} {operation : Proxy.Operation} {result : Except ProxyError Unit}
    (member : p ∈ w.members r) (h : operate (perform H bound) H p operation w = .ok (result, w')) :
    ∃ during new,
      w'.journal = .ended p operation result :: during ++ .began p operation :: w.journal ∧
        (∀ e ∈ during, ¬ e.Disturbs r p) ∧ w'.entriesOf r = w.entriesOf r ++ new ∧
          registeredIn r during = new.map Entry.proxy := by
  obtain ⟨proxy, state, v, known, -, hconverse, rfl⟩ := operate_ok h
  have stepwise := guards_stepwise H r p
  have htalk := stepwise.toSilent.converse stepwise.toClosed.perform (stepwise.asked · p)
    (stepwise.answered · p) hconverse
  obtain ⟨-, during, new, hv, quiet, hentries, registered⟩ :=
    htalk (engaged_of_began member known)
  exact ⟨during, new, by simp [record, setProxy, hv], quiet, hentries, registered⟩

/-- On the way that `news` tells of, from `w` through worlds of `passes`, a sweep of `r` stopped
`p`: it reached the proxy, the stop began, and it ended with some result. Meanwhile no other proxy
was swept from `r`, nothing was removed from it, and no other operation on `p` began. -/
def Stops (r : RegistryId) (p : ProxyId) (w : World σ) (passes : World σ → Prop)
    (news : List Event) : Prop :=
  ∃ before v during result after, passes v ∧
    v.journal = .began p .stop :: .swept r p :: before ++ w.journal ∧
    news = after ++ stopping r p result during ++ before ∧ ∀ e ∈ during, ¬ e.Disturbs r p

/-- What was stopped on a part of the way was stopped on the whole of it. -/
private lemma Stops.mono {u : World σ} {passes passes' : World σ → Prop}
    (stops : Stops r p u passes news) (happened : u.journal = earlier ++ w.journal)
    (within : ∀ v, passes v → passes' v) (later : List Event) :
    Stops r p w passes' (later ++ news ++ earlier) := by
  obtain ⟨before, v, during, result, after, hv, hjournal, rfl, quiet⟩ := stops
  exact ⟨before ++ earlier, v, during, result, later ++ after, within v hv,
    by simp [hjournal, happened], by simp, quiet⟩

/-- **What a sweep does.** A sweep of registered proxies stops them in order, removes nothing, and
leaves the entries that were there together with those that were added meanwhile.

**Proof sketch.** Induction on the proxies. While one of them is stopped it is engaged, so the
registry only grows, and those that the sweep has yet to reach are still registered. -/
private lemma sweep_stops {bound : Nat} {ps : List ProxyId} (members : ∀ p ∈ ps, p ∈ w.members r)
    (h : sweep (perform H bound) H r ps w = .ok w') :
    ∃ news new, w'.journal = news ++ w.journal ∧ sweptIn r news = ps ∧ removedFrom r news = [] ∧
      w'.entriesOf r = w.entriesOf r ++ new ∧ registeredIn r news = new.map Entry.proxy ∧
      ∀ p ∈ ps, Stops r p w (SweepPasses (perform H bound) (Inside H bound) H r ps w) news := by
  induction ps generalizing w with
  | nil =>
    obtain rfl : w = w' := by simpa [World.sweep] using h
    exact ⟨[], [], rfl, rfl, rfl, by simp, rfl, by simp⟩
  | cons p rest ih =>
    obtain ⟨result, v, hstop, h⟩ := sweep_cons_ok h
    have member : p ∈ w.members r := members p (by simp)
    obtain ⟨during, new, hv, quiet, hentries, registered⟩ :=
      grows_operate (w := w.record (.swept r p)) member hstop
    have hrest : ∀ q ∈ rest, q ∈ v.members r := fun q hq => by
      rw [World.members, hentries, List.map_append]
      exact List.mem_append_left _ (members q (by simp [hq]))
    obtain ⟨later, more, hw', swept, removed, hmore, registered', stops⟩ := ih hrest h
    have happened : v.journal = stopping r p result during ++ w.journal := by
      simp [hv, stopping, record]
    refine ⟨later ++ stopping r p result during, new ++ more, journal_trans happened hw', ?_,
      ?_, ?_, ?_, fun q hq => ?_⟩
    · rw [sweptIn_append, sweptIn_stopping quiet, swept, List.singleton_append]
    · rw [removedFrom_append, removedFrom_stopping quiet, removed, List.nil_append]
    · rw [hmore, hentries, List.append_assoc, entriesOf_record]
    · rw [registeredIn_append, registeredIn_stopping, registered, registered', List.map_append]
    · rcases List.mem_cons.1 hq with rfl | hq
      · obtain ⟨proxy, -, -, known, idle, -⟩ := operate_ok hstop
        exact ⟨[], _, during, result, later, .within ⟨proxy, known, idle, .here _ _⟩, rfl,
          by simp, quiet⟩
      · simpa using (stops q hq).mono happened (fun _ hu => .after hstop hu) []

/-! ## What a reset does -/

/-- What a reset of `r` does on its way from `w` to `w'`, through worlds of `passes`. -/
structure Empties (r : RegistryId) (passes : World σ → Prop) (w w' : World σ) (news : List Event) :
    Prop where
  /-- The registry is there at the end, and nothing is registered in it. -/
  empty : ∃ registry, w'.registry? r = some registry ∧ registry.entries = []
  /-- The sweeps reach what is registered at the beginning and what is registered meanwhile. -/
  order : sweptIn r news = w.members r ++ registeredIn r news
  /-- What the sweeps reach is what they remove. -/
  removed : removedFrom r news = sweptIn r news
  /-- What the sweeps reach they stop. -/
  stopped : ∀ p ∈ sweptIn r news, Stops r p w passes news

/-- A pass of a reset stops what it finds registered and removes it. What it leaves is what was
registered in the course of it.

**Proof sketch.** The sweep stops the members one by one, and none of its stops removes anything
from the registry. So the members are still there when it is over, with the newcomers behind them,
and the removal takes away the former. -/
lemma pass_empties {bound : Nat} {registry : Registry} {v : World σ} (kept : w.Kept)
    (known : w.registry? r = some registry)
    (h : sweep (perform H bound) H r registry.proxies w = .ok v) :
    ∃ news, (v.remove r registry.proxies).journal = news ++ w.journal ∧
      sweptIn r news = w.members r ∧ removedFrom r news = w.members r ∧
      (v.remove r registry.proxies).members r = registeredIn r news ∧
      ∀ p ∈ w.members r,
        Stops r p w (SweepPasses (perform H bound) (Inside H bound) H r registry.proxies w)
          news := by
  rw [← members_eq known] at h ⊢
  obtain ⟨news, new, hv, swept, removed, hentries, registered, stops⟩ :=
    sweep_stops (fun _ hp => hp) h
  have keeping : Keeping w v := keeping_silent.sweep (fun _ _ => keeping_record _)
    (fun h => keeping_operate (keeping_stepwise H).toClosed.perform h) h
  obtain ⟨registry', known', -⟩ := keeping.persists.registry r registry known
  refine ⟨.removed r (w.members r) :: news, by simp [remove, known', record, setRegistry, hv],
    ?_, ?_, ?_, fun p hp => ?_⟩
  · rw [← List.singleton_append, sweptIn_append, swept]
    simp [sweptIn]
  · rw [← List.singleton_append, removedFrom_append, removed]
    simp [removedFrom]
  · rw [registeredIn_cons_of_none rfl, registered, World.members, entriesOf_remove_self, hentries,
      List.filter_append]
    -- no proxy is registered twice, so what the sweep found and what came new are apart
    have apart := (keeping.kept kept).nodup_members r
    rw [World.members, hentries, List.map_append, List.nodup_append] at apart
    have old : (w.entriesOf r).filter (fun e => !(w.members r).contains e.proxy) = [] := by
      simpa [List.filter_eq_nil_iff, World.members] using fun e he => ⟨e, he, rfl⟩
    have more : new.filter (fun e => !(w.members r).contains e.proxy) = new := by
      rw [List.filter_eq_self]
      intro e he
      have fresh : e.proxy ∉ w.members r := fun hp =>
        apart.2.2 e.proxy hp e.proxy (List.mem_map_of_mem he) rfl
      simpa using fresh
    rw [old, more, List.nil_append]
  · simpa using (stops p hp).mono (List.nil_append _).symm (fun _ => id) [.removed r (w.members r)]

/-- A reset stops what is registered at its beginning and what is registered meanwhile, in order.

**Proof sketch.** Induction on the bound. A pass sweeps the entries that it finds and removes them,
so what the next pass finds is what was registered in the course of this one. -/
lemma reset_empties {bound : Nat} (kept : w.Kept)
    (h : perform H bound (.reset r) w = .ok ((), w')) : ∃ news, w'.journal = news ++ w.journal ∧
      Empties r (Inside H bound (.reset r) w) w w' news := by
  induction bound generalizing w with
  | zero => cases h
  | succ bound ih =>
    obtain ⟨registry, known, ⟨none, rfl⟩ | ⟨some, v, hsweep, h⟩⟩ := perform_reset_ok h
    · rw [List.isEmpty_iff] at none
      refine ⟨[], rfl, ⟨registry, known, none⟩, ?_, rfl, by simp⟩
      simp [members_eq known, Registry.proxies, none]
    · obtain ⟨first, hpass, swept, removed, left, stops⟩ := pass_empties kept known hsweep
      have keeping := (keeping_stepwise H).pass (keeping_stepwise H).toClosed.perform known hsweep
      obtain ⟨later, hw', empties⟩ := ih (keeping.kept kept) h
      refine ⟨later ++ first, journal_trans hpass hw', empties.empty, ?_, ?_,
        fun p hp => ?_⟩
      · rw [sweptIn_append, registeredIn_append, swept, empties.order, left]
      · rw [sweptIn_append, removedFrom_append, swept, removed, empties.removed]
      · rw [sweptIn_append, List.mem_append, swept] at hp
        rcases hp with hp | hp
        · simpa using (stops p hp).mono (List.nil_append _).symm
            (fun u hu => ⟨registry, known, some, .inl hu⟩) later
        · simpa using (empties.stopped p hp).mono hpass
            (fun u hu => ⟨registry, known, some, .inr ⟨v, hsweep, .inr hu⟩⟩) []

/-! ## What is visible meanwhile -/

/-- Between two worlds the journal only grows, and each stop that a sweep began has ended. -/
def Finishes (w w' : World σ) : Prop :=
  ∃ news, w'.journal = news ++ w.journal ∧ ∀ r p, ¬ Pending r p news

/-- Where the journal stays as it is no stop was begun. -/
private lemma finishes_of_eq (h : w'.journal = w.journal) : Finishes w w' := ⟨[], h, by simp⟩

/-- An event by which no sweep reaches a proxy leaves no stop pending. -/
private lemma finishes_record {e : Event} (h : ∀ r p, e ≠ .swept r p) : Finishes w (w.record e) :=
  ⟨[e], rfl, fun r p => by simp [pending_cons, h r p]⟩

/-- Stretches in which all stops ended compose, and neither the collaborators' state nor what is
current matters. -/
private lemma finishes_silent : Silent (Finishes (σ := σ)) where
  refl _ := finishes_of_eq rfl
  trans := by
    rintro u v w ⟨news, hv, hnews⟩ ⟨later, hw, hlater⟩
    refine ⟨later ++ news, journal_trans hv hw, fun r p => ?_⟩
    simp [pending_append, hnews r p, hlater r p]
  host _ _ := finishes_of_eq rfl
  context _ _ := finishes_of_eq rfl

section Calls

variable {perform : Activity.Performance σ}
  (calls : ∀ {c u answer v}, perform c u = .ok (answer, v) → Finishes u v)
include calls

/-- In the course of an operation all stops that sweeps began end, if they do in the calls that it
makes. -/
private lemma finishes_operate {operation : Proxy.Operation} {result : Except ProxyError Unit}
    (h : operate perform H p operation w = .ok (result, w')) : Finishes w w' := by
  refine finishes_silent.operate calls (fun _ _ => finishes_of_eq rfl)
    (fun w e he => finishes_record ?_) h
  rintro r q rfl
  exact he.elim

/-- A stop that a sweep began ends. -/
private lemma finishes_stop {result : Except ProxyError Unit}
    (h : operate perform H p .stop (w.record (.swept r p)) = .ok (result, w')) :
    Finishes w w' := by
  obtain ⟨proxy, state, v, -, -, hconverse, rfl⟩ := operate_ok h
  obtain ⟨during, hv, hduring⟩ := finishes_silent.converse calls
    (fun _ _ => finishes_record (by simp)) (fun _ _ => finishes_record (by simp)) hconverse
  exact ⟨stopping r p result during, by simp [stopping, hv, record, setProxy],
    fun r' q => not_pending_stopping (hduring r' q)⟩

/-- In the course of a sweep each stop ends before the next one begins, and so all have ended when
it is over. -/
private lemma finishes_sweep {ps : List ProxyId}
    (h : sweep perform H r ps w = .ok w') : Finishes w w' := by
  induction ps generalizing w with
  | nil =>
    obtain rfl : w = w' := by simpa [World.sweep] using h
    exact finishes_silent.refl w
  | cons p rest ih =>
    obtain ⟨result, v, hstop, h⟩ := sweep_cons_ok h
    exact finishes_silent.trans (finishes_stop calls hstop) (ih h)

end Calls

/-- Across every step each stop that a sweep began ends.

**Proof sketch.** Step by step. Only a sweep tells that it reached a proxy, and each time it does
the end of the stop comes after it. -/
theorem finishes_stepwise (H : Host σ) : Stepwise H Finishes where
  toSilent := finishes_silent
  establish _ _ _ := finishes_of_eq rfl
  obtain {w w' r name p} h := by
    rcases obtain_registers h with ⟨rfl, -⟩ | registers
    · exact finishes_silent.refl _
    · exact ⟨[.registered r name p], registers.journal, by simp [pending_cons]⟩
  install _ r := finishes_of_eq (journal_install r)
  operate calls h := finishes_operate calls h
  pass {perform r registry w w'} calls _ h := by
    refine finishes_silent.trans (finishes_sweep calls h) ?_
    rcases remove_cases (w := w') r registry.proxies with same | told
    · exact finishes_of_eq (by rw [same])
    · exact ⟨_, told, by simp [pending_cons]⟩
  began _ _ _ := finishes_record (w := World.setProxy ..) (by simp)
  asked _ _ _ := finishes_record (by simp)
  answered _ _ _ := finishes_record (by simp)

/-- On the way from `w` to `v` every proxy whose stop a sweep waits for is engaged. -/
def Exposes (w v : World σ) : Prop :=
  ∃ news, v.journal = news ++ w.journal ∧ ∀ r p, Pending r p news → v.Engaged r p

/-- Before anything happens no sweep waits for a stop. -/
private lemma exposes_here (w : World σ) : Exposes w w := ⟨[], rfl, by simp⟩

/-- What comes before, and leaves no stop pending, does not matter. -/
private lemma exposes_after {u v : World σ} (finishes : Finishes u v) (exposes : Exposes v w) :
    Exposes u w := by
  obtain ⟨news, hv, finished⟩ := finishes
  obtain ⟨later, hw, engaged⟩ := exposes
  refine ⟨later ++ news, journal_trans hv hw, fun r p pending => ?_⟩
  rcases pending_append.1 pending with pending | ⟨pending, -⟩
  · exact engaged r p pending
  · exact absurd pending (finished r p)

/-- In every world that a call goes through, a proxy whose stop a sweep waits for is engaged.

**Proof sketch.** Calls that are over leave no stop pending, so it is enough to look at the sweeps
that are not. They reach proxies that are registered, and a proxy is busy from the beginning of its
stop. -/
theorem exposes_follows (H : Host σ) : Follows H Finishes Exposes where
  toStepwise := finishes_stepwise H
  here := exposes_here
  after := exposes_after
  sweeping {bound r registry w v} within known h := by
    have stepwise := finishes_stepwise H
    have members : ∀ p ∈ registry.proxies, p ∈ w.members r := by simp [members_eq known]
    clear known
    generalize registry.proxies = ps at h members
    induction h with
    | here => exact exposes_here _
    | @within p rest w v during =>
      have member : p ∈ (w.record (.swept r p)).members r := members p (by simp)
      have engaged : v.Engaged r p := engaged_of_operatePasses member during
      obtain ⟨news, hv, hnews⟩ := stepwise.operatePasses exposes_here exposes_after
        stepwise.toClosed.perform within during
      refine ⟨news ++ [.swept r p], by simp [hv, record], fun r' q pending => ?_⟩
      rcases pending_append.1 pending with pending | ⟨pending, -⟩
      · exact hnews r' q pending
      · obtain ⟨rfl, rfl⟩ : r = r' ∧ p = q := by simpa [pending_cons] using pending
        exact engaged
    | @after p rest w u v result ended _ ih =>
      have member : p ∈ (w.record (.swept r p)).members r := members p (by simp)
      obtain ⟨-, new, -, -, hentries, -⟩ := grows_operate member ended
      refine exposes_after (finishes_stop stepwise.toClosed.perform ended) (ih fun q hq => ?_)
      rw [World.members, hentries, List.map_append]
      exact List.mem_append_left _ (members q (by simp [hq]))

/-- The proxy `p` is registered in `r` under its name, and whoever asks for the name gets `p`: by a
look-up as well as by a registration of the name, which changes nothing then. -/
structure Shows (H : Host σ) (w : World σ) (r : RegistryId) (p : ProxyId)
    (proxy : Proxy) : Prop where
  known : w.proxy? p = some proxy
  entry : ⟨proxy.name, p⟩ ∈ w.entriesOf r
  found (bound : Nat) : (Registry.findIn r proxy.name).perform H bound w = .ok (some p, w)
  obtained (bound : Nat) : (Activity.obtain r proxy.name).perform H bound w = .ok (p, w)

/-- In a world whose registries are in order, a proxy that is registered is found under its name.

**Proof sketch.** A member of a registry in order has an entry, which bears the name of the proxy,
and names are not repeated. -/
private lemma Kept.shows {proxy : Proxy} (kept : w.Kept) (member : p ∈ w.members r)
    (known : w.proxy? p = some proxy) : Shows H w r p proxy := by
  cases registered : w.registry? r with
  | none => simp [World.members, entriesOf, registered] at member
  | some registry =>
    have find := kept.find?_eq registered member known
    have entry : ⟨proxy.name, p⟩ ∈ w.entriesOf r := (kept.find?_eq_iff registered).1 find
    have entries (bound : Nat) := perform_entries H bound registered
    exact {
      known := known
      entry := entry
      found := fun bound => by
        rw [← find]
        exact Activity.run_call (entries bound)
      obtained := fun bound => Activity.run_call (kept.obtain_of_mem registered entry) }

/-! ## A reset is thorough -/

/-- All that is to be said of a reset of `r` that led from `w` to `w'`, and of which `news`
tells. -/
structure Thorough (H : Host σ) (bound : Nat) (r : RegistryId) (w w' : World σ)
    (news : List Event) : Prop extends Empties r (Inside H bound (.reset r) w) w w' news where
  /-- No proxy is stopped twice. -/
  once : (sweptIn r news).Nodup
  /-- Proxies are stopped in the order in which the journal tells of their registration. -/
  registration : (sweptIn r news).Sublist (registeredIn r w'.journal)
  /-- While the sweep waits for the stop of a proxy, this proxy is found under its name. -/
  visible : ∀ v before p, Inside H bound (.reset r) w v → v.journal = before ++ w.journal →
    Pending r p before → ∃ proxy, Shows H v r p proxy

/-- **A reset stops every proxy once.** In every world that a run goes through, if a reset of a
registry returns, then nothing is registered in it at the end; its sweeps stopped those proxies that
were registered at the beginning and those that were registered meanwhile, whatever these stops did
and gave, each of them once and in the order of registration; they removed exactly these; and while
the stop of one of them ran, it was still found under its name.

**Proof sketch.** Each pass leaves what was registered in the course of it, so the passes together
reach all that was ever registered. A proxy that is registered is new, hence none is reached twice.
And the proxy whose stop a sweep waits for is engaged, so it is registered. -/
theorem reset_sweeps_once {bound : Nat} (reachable : Reachable H w)
    (ended : perform H bound (.reset r) w = .ok ((), w'))
    (happened : w'.journal = news ++ w.journal) : Thorough H bound r w w' news := by
  have kept := reachable.kept
  have empties : Empties r (Inside H bound (.reset r) w) w w' news := by
    obtain ⟨news', happened', empties⟩ := reset_empties kept ended
    rwa [List.append_cancel_right (happened.symm.trans happened')]
  obtain ⟨nodup, fresh⟩ := new_members r ended happened
  refine { empties with
    once := ?_
    registration := ?_
    visible := fun v before p passed hv pending => ?_ }
  · rw [empties.order, List.nodup_append]
    refine ⟨kept.nodup_members r, nodup, ?_⟩
    rintro p old _ new rfl
    exact absurd (kept.index_lt old) (Nat.not_lt.2 (fresh p new))
  · rw [empties.order, happened, registeredIn_append]
    exact (reachable.members_sublist r).append_right _
  · obtain ⟨before', hv', engaged⟩ := (exposes_follows H).inside passed
    obtain rfl : before = before' := List.append_cancel_right (hv.symm.trans hv')
    obtain ⟨member, proxy, known, -⟩ := engaged r p pending
    have keeping := ((keeping_stepwise H).follows fun _ _ _ => keeping_record _).inside passed
    exact ⟨proxy, (keeping.kept kept).shows member known⟩

/-! ## A reset that meets a failure and a registration -/

/-- A host in which the stop of the first component registers and starts a third one, and fails. -/
def troubled : Host Nat where
  __ := Host.counting (fun _ => .ok ()) fun _ => pure ()
  stop product := do
    if product = ⟨0⟩ then
      let c ← Activity.obtain ⟨0⟩ "c"
      let _ ← Activity.operate c .start
      pure (.error (.ofMessage "not now"))
    else
      pure (.ok ())

/-- The reset is over, and all three were stopped: the third one in a pass of its own. -/
theorem reset_sweeps_once_troubled : ∃ w w' news, Reachable troubled w ∧
    perform troubled 3 (.reset ⟨0⟩) w = .ok ((), w') ∧ w'.journal = news ++ w.journal ∧
    w.members ⟨0⟩ = [⟨0⟩, ⟨1⟩] ∧ sweptIn ⟨0⟩ news = [⟨0⟩, ⟨1⟩, ⟨2⟩] ∧
    Thorough troubled 3 ⟨0⟩ w w' news := by
  obtain ⟨w, ready, w', ended, happened, members, swept⟩ :
      ∃ w, couple.perform troubled 2 { host := 0 } = .ok (⟨0⟩, w) ∧
        ∃ w', perform troubled 3 (.reset ⟨0⟩) w = .ok ((), w') ∧
          w'.journal = w'.journal.take 22 ++ w.journal ∧ w.members ⟨0⟩ = [⟨0⟩, ⟨1⟩] ∧
          sweptIn ⟨0⟩ (w'.journal.take 22) = [⟨0⟩, ⟨1⟩, ⟨2⟩] := by
    refine ⟨_, rfl, _, rfl, rfl, rfl, rfl⟩
  have reachable : Reachable troubled w := .of_run ready
  exact ⟨w, w', _, reachable, ended, happened, members, swept,
    reset_sweeps_once reachable ended happened⟩

end World

end Standby
