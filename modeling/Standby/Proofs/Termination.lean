import Mathlib.Algebra.BigOperators.Group.List.Basic
import Standby.Proofs.Sweep
import Standby.Proofs.World.Bound
set_option autoImplicit false

/-!
# A reset comes to an end

A reset makes passes until nothing is registered, and the code that it stops may register further
names in every pass. This module says when there is a last pass: if every call of a component that
the reset waits for returns, and if no more than `m` names are registered on the way, then there are
at most `m + 1` passes.

## Main definitions

* `Standby.removals` — the snapshots that the passes of the resets of a registry removed.
* `Standby.World.Sweeps` — passes one after the other, with the snapshot of each.
* `Standby.World.Yields` — the stops return, and they register no more than so many names.
* `Standby.World.Dwindles` — how a reset gets to its end, pass by pass.

## Main results

* `Standby.World.Sweeps.balances` — what was ever registered was swept or is still registered.
* `Standby.World.Balances.length_le` — how many passes there can be.
* `Standby.World.sweep_returns` — a pass whose stops return does.
* `Standby.World.yields_of_returned` — a reset that returns meets what is asked of it here.
* `Standby.World.reset_terminates` — a reset whose stops return comes to an end.

## Design

The entries of a registry are no measure for what is left to do, since each pass may add to them.
What decreases is the number of names that may still be registered: a pass removes all that it
finds, so the next one finds new entries only. `World.Sweeps` describes passes without a bound on
them, so that it can be said of a reset that has not returned what its stops do.
-/

namespace Standby

variable {σ : Type} {H : Host σ}

/-! ## What a journal tells of removals -/

/-- The lists of proxies that were removed from the registry `r`, each by one pass, in the order in
which they were. -/
def removals (r : RegistryId) (news : List Event) : List (List ProxyId) :=
  news.reverse.flatMap fun
    | .removed r' gone => if r' = r then [gone] else []
    | _ => []

section Journal

variable {r : RegistryId} {p : ProxyId} {news later : List Event}

/-- The removals of two stretches of a journal, earlier stretch first. -/
@[simp] lemma removals_append :
    removals r (later ++ news) = removals r news ++ removals r later := by
  simp [removals]

/-- Where nothing is disturbed nothing is removed. -/
private lemma removals_of_undisturbed (h : ∀ e ∈ news, ¬ e.Disturbs r p) :
    removals r news = [] := by
  rw [removals, List.flatMap_eq_nil_iff]
  intro e he
  have none := h e (List.mem_reverse.1 he)
  cases e with
  | removed r' gone => exact if_neg none
  | registered _ _ _ | swept _ _ | began _ _ | asked _ _ | answered _ _ | ended _ _ _ => rfl

/-- A stop that is not disturbed removes nothing. -/
private lemma removals_stopping {result : Except ProxyError Unit} {during : List Event}
    (h : ∀ e ∈ during, ¬ e.Disturbs r p) : removals r (stopping r p result during) = [] := by
  rw [stopping, removals_append, removals_append, removals_of_undisturbed h]
  simp [removals]

end Journal

namespace World

variable {w w' u v : World σ} {r : RegistryId} {p : ProxyId} {m : Nat}
  {snapshots : List (List ProxyId)} {news : List Event}

/-! ## Who is busy -/

/-- Whoever is busy was busy before. -/
def Calms (w w' : World σ) : Prop :=
  ∀ p proxy', w'.proxy? p = some proxy' → proxy'.busy = true →
    ∃ proxy, w.proxy? p = some proxy ∧ proxy.busy = true

/-- Where all proxies stay as they are no operation is under way that was not under way before. -/
private lemma calms_of_eq (h : ∀ p, w'.proxy? p = w.proxy? p) : Calms w w' :=
  fun p proxy known busy => ⟨proxy, (h p).symm.trans known, busy⟩

/-- Being calm composes, and neither the collaborators' state nor what is current matters to it. -/
private lemma calms_silent : Silent (Calms (σ := σ)) where
  refl _ := calms_of_eq fun _ => rfl
  trans huv hvw p proxy known busy := by
    obtain ⟨proxy', known', busy'⟩ := hvw p proxy known busy
    exact huv p proxy' known' busy'
  host _ _ := calms_of_eq fun _ => rfl
  context _ _ := calms_of_eq fun _ => rfl

/-- An operation finds its proxy idle and leaves it idle.

**Proof sketch.** Its own proxy is idle when the operation ends, so a busy one is another one, and
this was busy when the dialogue ended, hence before it. -/
private lemma calms_operate {perform : Activity.Performance σ} {operation : Proxy.Operation}
    {result : Except ProxyError Unit}
    (calls : ∀ {c u answer v}, perform c u = .ok (answer, v) → Calms u v)
    (h : operate perform H p operation w = .ok (result, w')) : Calms w w' := by
  obtain ⟨proxy, state, v, known, idle, hconverse, rfl⟩ := operate_ok h
  have htalk := calms_silent.converse calls (fun _ _ => calms_of_eq fun _ => rfl)
    (fun _ _ => calms_of_eq fun _ => rfl) hconverse
  intro q found there busy
  rw [proxy?_record] at there
  by_cases hpq : p = q
  · subst hpq
    have hlt : p.index < v.proxies.length := by
      simpa [setProxy, World.proxy?] using (List.getElem?_eq_some_iff.1 there).1
    obtain rfl : found = { proxy with state } := by
      simpa [setProxy, World.proxy?, hlt] using there.symm
    simp [idle] at busy
  · rw [proxy?_setProxy_of_ne hpq] at there
    obtain ⟨old, hold, busy⟩ := htalk q found there busy
    exact ⟨old, (proxy?_setProxy_of_ne hpq).symm.trans hold, busy⟩

/-- Across every call that is over, whoever is busy was busy before.

**Proof sketch.** Step by step. A new proxy is idle, an operation is `calms_operate`, and a pass is
a sequence of stops and a removal that touches no proxy. -/
theorem calms_closed (H : Host σ) : Closed H Calms where
  toSilent := calms_silent
  establish _ _ _ := calms_of_eq fun _ => rfl
  obtain {w w' r name q} h := by
    rcases obtain_registers h with ⟨rfl, -⟩ | registers
    · exact calms_silent.refl _
    · obtain ⟨registry, -, hproxies⟩ := registers.made
      intro p proxy there busy
      rw [proxy?, hproxies, List.getElem?_append] at there
      split at there
      · exact ⟨proxy, there, busy⟩
      · obtain rfl : proxy =
          { name, resolver := registry.resolver, factory := registry.factory } := by
          simpa using (List.mem_of_getElem? there)
        simp at busy
  install _ r := calms_of_eq fun _ => proxy?_install r
  operate calls h := calms_operate calls h
  pass calls _ h := calms_silent.trans
    (calms_silent.sweep (fun _ _ => calms_of_eq fun _ => rfl) (fun h => calms_operate calls h) h)
    (calms_of_eq fun _ => proxy?_remove ..)

/-- No operation is in progress on a proxy that is registered in `r`. -/
def Free (r : RegistryId) (w : World σ) : Prop :=
  ∀ p ∈ w.members r, ∀ proxy, w.proxy? p = some proxy → proxy.busy = false

/-- A proxy that was idle when it was registered is idle later on. -/
private lemma Free.idle (free : Free r w) (calms : Calms w v) {proxy : Proxy} (hp : p ∈ w.members r)
    (known : v.proxy? p = some proxy) : proxy.busy = false := by
  by_contra busy
  obtain ⟨old, hold, busy⟩ := calms p proxy known (by simpa using busy)
  simp [free p hp old hold] at busy

/-! ## Passes one after the other -/

/-- Passes of a reset of `r` lead from one world to another. Each of them finds entries, and the
list has the proxies that each of them found. -/
inductive Sweeps (H : Host σ) (r : RegistryId) : World σ → List (List ProxyId) → World σ → Prop
  | none (w : World σ) : Sweeps H r w [] w
  | pass {bound : Nat} {registry : Registry} {w v u : World σ} {snapshots : List (List ProxyId)}
    (known : w.registry? r = some registry) (some : registry.entries.isEmpty = false)
    (swept : sweep (perform H bound) H r registry.proxies w = .ok v)
    (later : Sweeps H r (v.remove r registry.proxies) snapshots u) :
    Sweeps H r w (registry.proxies :: snapshots) u

namespace Sweeps

/-- Passes that are made one after the other are one chain of passes. -/
private lemma trans {later : List (List ProxyId)} (first : Sweeps H r w snapshots u)
    (second : Sweeps H r u later w') : Sweeps H r w (snapshots ++ later) w' := by
  induction first with
  | none _ => exact second
  | pass known some swept _ ih => exact .pass known some swept (ih second)

/-- The passes up to one of them, and those from there on. -/
private lemma split {before after : List (List ProxyId)} (h : Sweeps H r w (before ++ after) u) :
    ∃ v, Sweeps H r w before v ∧ Sweeps H r v after u := by
  induction before generalizing w with
  | nil => exact ⟨w, .none w, h⟩
  | cons s before ih =>
    cases h with
    | pass known some swept later =>
      obtain ⟨v, first, second⟩ := ih later
      exact ⟨v, .pass known some swept first, second⟩

end Sweeps

/-- No stop of a sweep removes anything from its registry.

**Proof sketch.** Induction on the proxies that are left. While a member is being stopped its
registry only grows, so those that are left are members still. -/
private lemma sweep_removes_none {bound : Nat} {ps : List ProxyId}
    (members : ∀ p ∈ ps, p ∈ w.members r) (h : sweep (perform H bound) H r ps w = .ok w') :
    ∃ news, w'.journal = news ++ w.journal ∧ removals r news = [] := by
  induction ps generalizing w with
  | nil =>
    obtain rfl : w = w' := by simpa [World.sweep] using h
    exact ⟨[], rfl, rfl⟩
  | cons p rest ih =>
    obtain ⟨result, v, hstop, h⟩ := sweep_cons_ok h
    obtain ⟨during, new, hv, quiet, hentries, -⟩ :=
      grows_operate (w := w.record (.swept r p)) (members p (by simp)) hstop
    have hrest : ∀ q ∈ rest, q ∈ v.members r := fun q hq => by
      rw [World.members, hentries, List.map_append]
      exact List.mem_append_left _ (members q (by simp [hq]))
    obtain ⟨later, hw', none⟩ := ih hrest h
    have happened : v.journal = stopping r p result during ++ w.journal := by
      simp [hv, stopping, record]
    exact ⟨later ++ stopping r p result during, journal_trans happened hw',
      by rw [removals_append, removals_stopping quiet, none, List.nil_append]⟩

/-- What one pass does to the registry that it empties. -/
structure Passed (r : RegistryId) (w w' : World σ) (news : List Event) : Prop where
  journal : w'.journal = news ++ w.journal
  removal : removals r news = [w.members r]
  left : w'.members r = registeredIn r news
  gone : ∀ p ∈ w.members r, p ∉ w'.members r
  free : Free r w'
  keeping : Keeping w w'
  calms : Calms w w'

/-- A sweep that is over, with the removal after it, is a pass, and what it registered is told
of.

**Proof sketch.** What the pass swept, removed and left is known from `pass_empties`. None of the
removed proxies is a newcomer, because these are numbered from the next one on. -/
private lemma passed_of_sweep {bound : Nat} {registry : Registry} (kept : w.Kept)
    (known : w.registry? r = some registry)
    (h : sweep (perform H bound) H r registry.proxies w = .ok v) :
    ∃ news, Passed r w (v.remove r registry.proxies) news := by
  obtain ⟨news, happened, -, -, left, -⟩ := pass_empties kept known h
  have keeping : Keeping w v := keeping_silent.sweep (fun _ _ => keeping_record _)
    (fun h => keeping_operate (keeping_stepwise H).toClosed.perform h) h
  obtain ⟨registry', known', -⟩ := keeping.persists.registry r registry known
  have calms : Calms w (v.remove r registry.proxies) :=
    (calms_closed H).pass (calms_closed H).perform known h
  refine ⟨news, happened, ?_, left, fun p hp => ?_, fun p hp proxy known' => ?_,
    (keeping_stepwise H).pass (keeping_stepwise H).toClosed.perform known h, calms⟩
  · obtain ⟨swept, hv, none⟩ := sweep_removes_none (fun p hp => by rwa [members_eq known]) h
    have told : (v.remove r registry.proxies).journal =
        .removed r registry.proxies :: swept ++ w.journal := by
      simp [remove, known', record, setRegistry, hv]
    obtain rfl := List.append_cancel_right (happened.symm.trans told)
    rw [← List.singleton_append, removals_append, none, members_eq known]
    simp [removals]
  · rw [World.members, entriesOf_remove_self, ← members_eq known]
    intro still
    obtain ⟨e, he, rfl⟩ := List.mem_map.1 still
    simp [hp] at he
  · -- what is registered now is new, so it was not there to be busy
    rw [left] at hp
    have numbers : Numbers w (v.remove r registry.proxies) :=
      (numbers_closed H).pass (numbers_closed H).perform known h
    have new := (numbers.new r happened).2 p hp
    by_contra busy
    obtain ⟨old, hold, -⟩ := calms p proxy known' (by simpa using busy)
    exact absurd (List.getElem?_eq_some_iff.1 hold).1 (Nat.not_lt.2 new)

/-- What is known of passes that led from `w` to `u`.

It is the invariant of the passes of one reset. What was registered while they went on is counted in
the journal, so it bounds how many passes there can be. -/
structure Balances (r : RegistryId) (w u : World σ) (snapshots : List (List ProxyId))
    (news : List Event) : Prop where
  journal : u.journal = news ++ w.journal
  removal : removals r news = snapshots
  /-- What was there and what was registered since was swept, or it is registered still. -/
  all : snapshots.flatten ++ u.members r = w.members r ++ registeredIn r news
  /-- The first pass swept what there was at the beginning. -/
  first : ∀ s rest, snapshots = s :: rest → s = w.members r
  /-- No pass swept nothing. -/
  found : ∀ s ∈ snapshots, s ≠ []
  free : Free r w → Free r u
  keeping : Keeping w u
  calms : Calms w u

/-- **What was ever registered was swept or is still registered.**

**Proof sketch.** Induction on the passes. A pass leaves what was registered in the course of it, so
what it finds and what is registered meanwhile is its snapshot and what it leaves. -/
theorem Sweeps.balances (kept : w.Kept) (h : Sweeps H r w snapshots u) :
    ∃ news, Balances r w u snapshots news := by
  induction h with
  | none w =>
    exact ⟨[], rfl, rfl, by simp, by simp, by simp, id, keeping_silent.refl w,
      calms_silent.refl w⟩
  | @pass bound registry w v u snapshots known some swept _ ih =>
    obtain ⟨first, passed⟩ := passed_of_sweep kept known swept
    obtain ⟨later, rest⟩ := ih (passed.keeping.kept kept)
    refine ⟨later ++ first, journal_trans passed.journal rest.journal, ?_, ?_,
      fun s _ same => (members_eq known).symm ▸ (List.cons.inj same).1.symm, ?_,
      fun _ => rest.free passed.free, keeping_silent.trans passed.keeping rest.keeping,
      calms_silent.trans passed.calms rest.calms⟩
    · rw [removals_append, passed.removal, rest.removal, members_eq known, List.singleton_append]
    · rw [List.flatten_cons, List.append_assoc, rest.all, passed.left, registeredIn_append,
        members_eq known]
    · intro s hs
      rcases List.mem_cons.1 hs with rfl | hs
      · simpa [Registry.proxies] using some
      · exact rest.found s hs

/-- There are no more passes than one for the entries at the beginning and one for each name that
was registered since.

**Proof sketch.** The first pass sweeps the entries at the beginning. All others sweep what was
registered since, at least one entry each. -/
theorem Balances.length_le (balances : Balances r w u snapshots news) :
    snapshots.length ≤ (registeredIn r news).length + 1 := by
  cases split : snapshots with
  | nil => simp
  | cons s rest =>
    have fewer : rest.length ≤ rest.flatten.length := by
      rw [List.length_flatten, ← List.length_map (f := List.length)]
      refine List.length_le_sum_of_one_le _ fun n hn => ?_
      obtain ⟨t, ht, rfl⟩ := List.mem_map.1 hn
      exact List.length_pos_iff.2 (balances.found t (by simp [split, ht]))
    have new : rest.flatten ++ u.members r = registeredIn r news := by
      have all := balances.all
      rw [split, List.flatten_cons, balances.first s rest split, List.append_assoc] at all
      exact List.append_cancel_left all
    have total := congrArg List.length new
    rw [List.length_append] at total
    simp only [List.length_cons]
    omega

/-- Each pass finds entries, and removes all that it finds.

**Proof sketch.** The passes are split at the one in question. It found members, and what it found
is gone when it is over. -/
private lemma Sweeps.removes {before after : List (List ProxyId)} {s : List ProxyId} (kept : w.Kept)
    (h : Sweeps H r w (before ++ s :: after) w') : s ≠ [] ∧
      ∃ u v, Sweeps H r w before u ∧ u.members r = s ∧ Sweeps H r u [s] v ∧
        (∀ p ∈ s, p ∉ v.members r) ∧ Sweeps H r v after w' := by
  obtain ⟨_, balances⟩ := h.balances kept
  obtain ⟨u, first, rest⟩ := h.split
  obtain ⟨_, sofar⟩ := first.balances kept
  cases rest with
  | pass known some swept later =>
    obtain ⟨_, passed⟩ := passed_of_sweep (sofar.keeping.kept kept) known swept
    refine ⟨balances.found _ (by simp), u, _, first, members_eq known,
      .pass known some swept (.none _), fun p hp => passed.gone p ?_, later⟩
    rwa [members_eq known]

/-! ## Sweeps and resets that return -/

/-- A sweep of two lists is a sweep of the first and then one of the second. -/
private lemma sweep_append_ok {perform : Activity.Performance σ} {ps qs : List ProxyId}
    (first : sweep perform H r ps w = .ok v) (second : sweep perform H r qs v = .ok u) :
    sweep perform H r (ps ++ qs) w = .ok u := by
  induction ps generalizing w with
  | nil =>
    obtain rfl : w = v := by simpa [World.sweep] using first
    exact second
  | cons p rest ih =>
    obtain ⟨result, v', hstop, first⟩ := sweep_cons_ok first
    rw [List.cons_append, World.sweep, hstop]
    exact ih first

/-- A sweep that returned returned from its first part, and from the second part after that. -/
private lemma sweep_append_split {perform : Activity.Performance σ} {ps qs : List ProxyId}
    (h : sweep perform H r (ps ++ qs) w = .ok u) :
    ∃ v, sweep perform H r ps w = .ok v ∧ sweep perform H r qs v = .ok u := by
  induction ps generalizing w with
  | nil => exact ⟨w, rfl, h⟩
  | cons p rest ih =>
    obtain ⟨result, v, hstop, h⟩ := sweep_cons_ok h
    obtain ⟨v', first, second⟩ := ih h
    exact ⟨v', by rw [World.sweep, hstop]; exact first, second⟩

/-- Any two bounds within which a sweep returns give the same. -/
private lemma sweep_unique {bound bound' : Nat} {ps : List ProxyId}
    (h : sweep (perform H bound) H r ps w = .ok v)
    (h' : sweep (perform H bound') H r ps w = .ok u) : v = u := by
  have one := sweep_mono (perform_mono (Nat.le_max_left bound bound')) h
  have other := sweep_mono (perform_mono (Nat.le_max_right bound bound')) h'
  exact Except.ok.inj (one.symm.trans other)

/-- **A pass returns if its stops do**, and if it finds no proxy on which an operation is in
progress.

**Proof sketch.** Induction on the proxies that the sweep has yet to reach. Whoever was idle when
the pass began is idle when it is reached, and each stop has a bound within which it returns. -/
theorem sweep_returns {done todo : List ProxyId} {bound : Nat} (free : Free r w)
    (kept : w.Kept) (members : ∀ p ∈ todo, p ∈ w.members r)
    (served : ∀ before p after, todo = before ++ p :: after → ∀ bound v,
      sweep (perform H bound) H r (done ++ before) w = .ok v →
        Served H p .stop (v.record (.swept r p)))
    (swept : sweep (perform H bound) H r done w = .ok v) :
    ∃ bound u, sweep (perform H bound) H r (done ++ todo) w = .ok u := by
  induction todo generalizing done bound v with
  | nil => exact ⟨bound, v, by rwa [List.append_nil]⟩
  | cons p rest ih =>
    have member := members p (by simp)
    have persists : Persists w v := persists_silent.sweep (fun _ _ => persists_record _)
      (fun h => persists_operate (persists_stepwise H).toClosed.perform h) swept
    have calms : Calms w v := calms_silent.sweep (fun _ _ => calms_of_eq fun _ => rfl)
      (fun h => calms_operate (calms_closed H).perform h) swept
    obtain ⟨e, he, rfl⟩ := List.mem_map.1 member
    obtain ⟨proxy, -, known, -⟩ := kept.known_of_persists persists he
    have stops := served [] e.proxy rest rfl bound v (by rwa [List.append_nil])
    obtain ⟨more, result, v', hstop⟩ :=
      operate_returns (w := v.record (.swept r e.proxy)) known (free.idle calms member known) stops
    -- one more proxy is done, within the larger of the two bounds
    have one : sweep (perform H (max bound more)) H r (done ++ [e.proxy]) w = .ok v' := by
      refine sweep_append_ok (sweep_mono (perform_mono (Nat.le_max_left ..)) swept) ?_
      rw [World.sweep, operate_mono (perform_mono (Nat.le_max_right ..)) hstop]
      rfl
    have rest := ih (fun q hq => members q (by simp [hq]))
      (fun before q after split b v' h => served (e.proxy :: before) q after (by simp [split]) b v'
        (by simpa using h)) one
    simpa using rest

/-- Passes after which nothing is registered are a reset that returned, within every large bound.

**Proof sketch.** Induction on the passes. With no pass left the registry is empty, and the reset
returns at once. Otherwise the first pass is over within its own bound, and the rest returns within
every larger one. -/
private lemma Sweeps.reset {registry : Registry} (h : Sweeps H r w snapshots u)
    (known : u.registry? r = some registry) (empty : registry.entries = []) :
    ∃ enough, ∀ bound, enough ≤ bound → perform H bound (.reset r) w = .ok ((), u) := by
  induction h with
  | none w =>
    refine ⟨1, fun bound le => ?_⟩
    obtain ⟨bound, rfl⟩ : ∃ b, bound = b + 1 := ⟨bound - 1, by omega⟩
    simp [perform, known, empty]
  | @pass needed registry' w v u snapshots known' some swept _ ih =>
    obtain ⟨enough, returns⟩ := ih known
    refine ⟨max needed enough + 1, fun bound le => ?_⟩
    obtain ⟨bound, rfl⟩ : ∃ b, bound = b + 1 := ⟨bound - 1, by omega⟩
    have swept : sweep (perform H bound) H r registry'.proxies w = .ok v :=
      sweep_mono (perform_mono (by omega)) swept
    simp only [perform, known', some, swept, Bool.false_eq_true, if_false]
    exact returns bound (by omega)

/-- A reset that returns does so from wherever its passes get to.

**Proof sketch.** Induction on the passes. A sweep ends in one world only, so the reset made the
same passes. -/
private lemma Sweeps.resume {bound : Nat} (h : Sweeps H r w snapshots u)
    (ended : perform H bound (.reset r) w = .ok ((), w')) :
    ∃ bound, perform H bound (.reset r) u = .ok ((), w') := by
  induction h generalizing bound with
  | none w => exact ⟨bound, ended⟩
  | pass known some swept _ ih =>
    cases bound with
    | zero => cases ended
    | succ bound =>
      obtain ⟨registry, known', ⟨none, -⟩ | ⟨-, v, swept', ended⟩⟩ := perform_reset_ok ended
      · obtain rfl := Option.some.inj (known.symm.trans known')
        simp [none] at some
      · obtain rfl := Option.some.inj (known.symm.trans known')
        obtain rfl := sweep_unique swept swept'
        exact ih ended

/-! ## A reset whose stops return -/

/-- What a reset of `r` that is called in `w` asks of the components. Whichever passes were made,
and whichever proxies of the next pass were stopped, every call that the stop of the next proxy
makes is answered. And however many passes were made, no more than `m` names were registered
meanwhile. -/
structure Yields (H : Host σ) (r : RegistryId) (m : Nat) (w : World σ) : Prop where
  served : ∀ snapshots u before p after bound v, Sweeps H r w snapshots u →
    u.members r = before ++ p :: after → sweep (perform H bound) H r before u = .ok v →
      Served H p .stop (v.record (.swept r p))
  few : ∀ snapshots u news, Sweeps H r w snapshots u → u.journal = news ++ w.journal →
    (registeredIn r news).length ≤ m

/-- How a reset of `r` gets from `w` to its end in `w'`, as the journal tells of it. -/
structure Dwindles (H : Host σ) (r : RegistryId) (m : Nat) (w w' : World σ) (news : List Event) :
    Prop where
  /-- The snapshots of the passes are what the journal tells of removals. -/
  passes : Sweeps H r w (removals r news) w'
  /-- There are no more than `m + 1` passes. -/
  few : (removals r news).length ≤ m + 1
  /-- Each pass finds entries, and removes all that it finds. -/
  removes : ∀ before s after, removals r news = before ++ s :: after → s ≠ [] ∧
    ∃ u v, Sweeps H r w before u ∧ u.members r = s ∧ Sweeps H r u [s] v ∧
      (∀ p ∈ s, p ∉ v.members r) ∧ Sweeps H r v after w'
  /-- No pass is spent on what was swept before. -/
  once : (removals r news).flatten.Nodup
  /-- All that was registered is swept. -/
  all : (removals r news).flatten = w.members r ++ registeredIn r news
  /-- Nothing is registered at the end. -/
  empty : w'.entriesOf r = []

/-- A reset that returns asked nothing of the components that they did not do.

**Proof sketch.** The reset returns from wherever its passes get to. In particular it returns from
the pass in which the proxy is to be stopped, and hence this stop ends. What was registered on the
way is among all that was registered. -/
theorem yields_of_returned {bound : Nat} (ended : perform H bound (.reset r) w = .ok ((), w'))
    (happened : w'.journal = news ++ w.journal) : Yields H r (registeredIn r news).length w where
  served snapshots u before p after bound' v sweeps members swept := by
    obtain ⟨enough, ended⟩ := sweeps.resume ended
    cases enough with
    | zero => cases ended
    | succ enough =>
      obtain ⟨registry, known, ⟨none, -⟩ | ⟨-, v', whole, -⟩⟩ := perform_reset_ok ended
      · simp [members_eq known, Registry.proxies, List.isEmpty_iff.1 none] at members
      · rw [← members_eq known, members] at whole
        obtain ⟨v'', first, rest⟩ := sweep_append_split whole
        obtain rfl := sweep_unique swept first
        obtain ⟨result, _, hstop, -⟩ := sweep_cons_ok rest
        exact served_of_ok hstop
  few snapshots u earlier sweeps hu := by
    obtain ⟨enough, ended⟩ := sweeps.resume ended
    obtain ⟨later, -, hw', -⟩ := (numbers_closed H).perform ended
    obtain rfl := List.append_cancel_right (happened.symm.trans (journal_trans hu hw'))
    simp

/-- There are no more than `m + 1` passes. -/
private lemma Yields.length_le (yields : Yields H r m w) (kept : w.Kept)
    (sweeps : Sweeps H r w snapshots u) : snapshots.length ≤ m + 1 := by
  obtain ⟨news, balances⟩ := sweeps.balances kept
  have few := yields.few snapshots u news sweeps balances.journal
  have bounded := balances.length_le
  omega

/-- As long as entries are left there is one more pass. -/
private lemma Yields.pass {registry : Registry} (yields : Yields H r m w) (kept : w.Kept)
    (free : Free r w) (sweeps : Sweeps H r w snapshots u) (known : u.registry? r = some registry)
    (some : registry.entries.isEmpty = false) :
    ∃ v, Sweeps H r w (snapshots ++ [registry.proxies]) v := by
  obtain ⟨news, balances⟩ := sweeps.balances kept
  have swept : sweep (perform H 0) H r [] u = .ok u := rfl
  obtain ⟨bound, v, swept⟩ := sweep_returns (balances.free free) (balances.keeping.kept kept)
    (fun p (hp : p ∈ registry.proxies) => by rwa [members_eq known])
    (fun before p after split bound v => yields.served snapshots u before p after bound v sweeps
      ((members_eq known).trans split)) swept
  exact ⟨_, sweeps.trans (.pass known some swept (.none _))⟩

/-- Passes lead to a world in which nothing is registered.

**Proof sketch.** As long as entries are left there is one more pass, and there are no more than
`m + 1` of them. -/
private lemma Yields.ends {registry : Registry} (yields : Yields H r m w) (kept : w.Kept)
    (free : Free r w) (known : w.registry? r = some registry) :
    ∃ snapshots u registry, Sweeps H r w snapshots u ∧ u.registry? r = some registry ∧
      registry.entries = [] := by
  by_contra none
  -- so there would be as many passes as one likes
  have longer : ∀ n, ∃ snapshots u, Sweeps H r w snapshots u ∧ snapshots.length = n := by
    intro n
    induction n with
    | zero => exact ⟨[], w, .none w, rfl⟩
    | succ n ih =>
      obtain ⟨snapshots, u, sweeps, length⟩ := ih
      obtain ⟨news, balances⟩ := sweeps.balances kept
      obtain ⟨registry, known', -⟩ := balances.keeping.persists.registry r registry known
      have some : registry.entries.isEmpty = false := by
        by_contra empty
        exact none ⟨snapshots, u, registry, sweeps, known', by simpa using empty⟩
      obtain ⟨v, more⟩ := yields.pass kept free sweeps known' some
      exact ⟨_, v, more, by simp [length]⟩
  obtain ⟨snapshots, u, sweeps, length⟩ := longer (m + 2)
  have few := yields.length_le kept sweeps
  omega

/-- **A reset whose stops return comes to an end.** In every world that a run goes through, let no
operation be in progress on a registered proxy, let every call that a stop makes on account of the
reset be answered, and let no more than `m` names be registered in the course of the passes. Then
the reset returns, within every large enough bound. It takes at most `m + 1` passes, each of which
finds entries and removes all that it finds, and no proxy is swept twice.

**Proof sketch.** A pass returns since its stops do. What it leaves was registered in the course of
it, so all passes but the first sweep new names only, and each of them sweeps one at least. -/
theorem reset_terminates {registry : Registry} (reachable : Reachable H w)
    (known : w.registry? r = some registry) (free : Free r w) (yields : Yields H r m w) :
    ∃ enough w' news, (∀ bound, enough ≤ bound → perform H bound (.reset r) w = .ok ((), w')) ∧
      w'.journal = news ++ w.journal ∧ Dwindles H r m w w' news := by
  have kept := reachable.kept
  obtain ⟨snapshots, w', registry, sweeps, known', empty⟩ := yields.ends kept free known
  obtain ⟨enough, returns⟩ := sweeps.reset known' empty
  obtain ⟨news, balances⟩ := sweeps.balances kept
  have none : w'.entriesOf r = [] := (entriesOf_eq known').trans empty
  have all : snapshots.flatten = w.members r ++ registeredIn r news := by
    rw [← balances.all, World.members, none, List.map_nil, List.append_nil]
  refine ⟨enough, w', news, returns, balances.journal, ?_⟩
  rw [← balances.removal] at sweeps all
  exact {
    passes := sweeps
    few := yields.length_le kept sweeps
    removes := fun before s after split => (split ▸ sweeps).removes kept
    once := by
      obtain ⟨nodup, fresh⟩ := new_members r (returns enough (Nat.le_refl _)) balances.journal
      rw [all, List.nodup_append]
      refine ⟨kept.nodup_members r, nodup, ?_⟩
      rintro p old _ new rfl
      exact absurd (kept.index_lt old) (Nat.not_lt.2 (fresh p new))
    all := all
    empty := none }

/-- The reset of a registry whose first component registers and starts a third one when it is
stopped, and fails, takes two passes. -/
theorem reset_terminates_troubled : ∃ w registry, Reachable troubled w ∧
    w.registry? ⟨0⟩ = some registry ∧ Free ⟨0⟩ w ∧ Yields troubled ⟨0⟩ 1 w ∧
    ∃ enough w' news,
      (∀ bound, enough ≤ bound → perform troubled bound (.reset ⟨0⟩) w = .ok ((), w')) ∧
        w'.journal = news ++ w.journal ∧ Dwindles troubled ⟨0⟩ 1 w w' news := by
  obtain ⟨w, registry, ready, known, idle, w', ended, happened, registered⟩ :
      ∃ w registry, couple.perform troubled 2 { host := 0 } = .ok (⟨0⟩, w) ∧
        w.registry? ⟨0⟩ = some registry ∧
        ((w.members ⟨0⟩).all fun p => (w.proxy? p).all fun proxy => !proxy.busy) = true ∧
        ∃ w', perform troubled 3 (.reset ⟨0⟩) w = .ok ((), w') ∧
          w'.journal = w'.journal.take 22 ++ w.journal ∧
          (registeredIn ⟨0⟩ (w'.journal.take 22)).length = 1 := by
    refine ⟨_, _, rfl, rfl, rfl, _, rfl, rfl, rfl⟩
  have reachable : Reachable troubled w := .of_run ready
  have free : Free ⟨0⟩ w := fun p hp proxy known => by
    have idle := List.all_eq_true.1 idle p hp
    simpa [known] using idle
  have yields : Yields troubled ⟨0⟩ 1 w := registered ▸ yields_of_returned ended happened
  exact ⟨w, registry, reachable, known, free, yields, reset_terminates reachable known free yields⟩

end World

end Standby
