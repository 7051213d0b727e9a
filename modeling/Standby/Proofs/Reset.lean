import Standby.Proofs.Proxy.Phase
import Standby.Proofs.World.Coherence
import Standby.Proofs.World.Within
set_option autoImplicit false

/-!
# What a reset leaves of the proxies that it removed

A pass of a reset stops the proxies of its registry one after the other and removes them afterwards.
A component that is stopped late in a pass may start one that was stopped early in it. That one is
removed all the same, and runs on with no registry that knows it.

## Main definitions

* `Standby.Proxy.State.AtRest` — nothing runs, is held or is requested.
* `Standby.World.Swept` — a sweep reached a proxy and stopped it.
* `Standby.World.Restarted` — a proxy was started after a sweep reached it, and not stopped since.

## Main results

* `Standby.World.tidy_closed` — whatever happens, what is removed was swept.
* `Standby.World.atRest_iff_not_restarted` — a proxy that a reset removed is at rest at the end of
  the reset, unless it was restarted.
-/

namespace Standby

/-- Nothing runs, no product is held, and no start is requested. -/
structure Proxy.State.AtRest (s : Proxy.State) : Prop where
  running : s.running = false
  startRequested : s.startRequested = false
  product : s.product = none

/-- In a sound state nothing is left where no start is requested.

**Proof sketch.** A sound state holds a product only where a start is requested, and runs only where
it holds one. -/
private lemma Proxy.State.Sound.atRest_iff {name : String} {s : Proxy.State}
    (sound : s.Sound name) : s.AtRest ↔ ¬ s.startRequested = true := by
  constructor
  · intro h
    simp [h.startRequested]
  · intro h
    have released : s.product = none := by
      by_contra held
      exact h (sound.held (Option.isSome_iff_ne_none.2 held)).2
    refine ⟨?_, Bool.eq_false_iff.2 h, released⟩
    by_contra running
    have held := (sound.running (by simpa using running)).1
    simp [released] at held

namespace World

open Chronicle

variable {σ : Type} {H : Host σ} {w w' : World σ} {r : RegistryId} {p : ProxyId}
  {news earlier later : List Event}

/-! ## What is removed was swept -/

/-- A sweep of the registry `r` reached the proxy `p`, and a stop of this proxy ended after that.
The latest event comes first. -/
def Swept (r : RegistryId) (p : ProxyId) (news : List Event) : Prop :=
  ∃ after before, news = after ++ .swept r p :: before ∧ ∃ e ∈ after, Ends p .stop e

/-- All that was removed had been swept. -/
def Tidy (news : List Event) : Prop :=
  ∀ r gone, .removed r gone ∈ news → ∀ p ∈ gone, Swept r p news

/-- What was swept stays swept, whatever else happened before and after. -/
private lemma Swept.mono (swept : Swept r p news) (later earlier : List Event) :
    Swept r p (later ++ news ++ earlier) := by
  obtain ⟨after, before, rfl, e, he, ends⟩ := swept
  exact ⟨later ++ after, before ++ earlier, by simp, e, by simp [he], ends⟩

/-- Two stretches of a journal in which all that was removed had been swept are one. -/
private lemma Tidy.append (hlater : Tidy later) (hnews : Tidy news) : Tidy (later ++ news) := by
  intro r gone removed p hp
  rcases List.mem_append.1 removed with removed | removed
  · simpa using (hlater r gone removed p hp).mono [] news
  · simpa using (hnews r gone removed p hp).mono later []

/-- An event that is no removal leaves nothing to be swept. -/
private lemma Tidy.cons {e : Event} (he : ∀ r gone, e ≠ .removed r gone) (hnews : Tidy news) :
    Tidy (e :: news) := by
  have single : Tidy [e] := fun r gone removed =>
    absurd (List.mem_singleton.1 removed).symm (he r gone)
  exact single.append hnews

/-- Where nothing happened nothing was removed. -/
@[simp] lemma tidy_nil : Tidy [] := by simp [Tidy]

/-- Between two worlds the journal only grows, and all that was removed had been swept. -/
def Tidies (w w' : World σ) : Prop := ∃ news, w'.journal = news ++ w.journal ∧ Tidy news

/-- Where the journal stays as it is nothing was removed. -/
private lemma tidies_of_eq (h : w'.journal = w.journal) : Tidies w w' := ⟨[], h, tidy_nil⟩

/-- An event that is no removal keeps the journal tidy. -/
private lemma tidies_record {e : Event} (he : ∀ r gone, e ≠ .removed r gone) :
    Tidies w (w.record e) :=
  ⟨[e], rfl, tidy_nil.cons he⟩

/-- Stretches that are tidy compose, and neither the collaborators' state nor what is current
matters. -/
private lemma tidies_silent : Silent (Tidies (σ := σ)) where
  refl _ := tidies_of_eq rfl
  trans := by
    rintro u v w ⟨news, hv, hnews⟩ ⟨later, hw, hlater⟩
    exact ⟨later ++ news, by rw [hw, hv, List.append_assoc], hlater.append hnews⟩
  host _ _ := tidies_of_eq rfl
  context _ _ := tidies_of_eq rfl

section Calls

variable {perform : Activity.Performance σ}
  (calls : ∀ {c u answer v}, perform c u = .ok (answer, v) → Tidies u v)
include calls

/-- The last that happens in an operation is that it ends. -/
private lemma tidies_until_ended {operation : Proxy.Operation} {result : Except ProxyError Unit}
    (h : operate perform H p operation w = .ok (result, w')) :
    ∃ v, Tidies w v ∧ w'.journal = .ended p operation result :: v.journal := by
  obtain ⟨proxy, state, v, -, -, hconverse, rfl⟩ := operate_ok h
  have hbegun : Tidies w ((w.setProxy p { proxy with busy := true }).record (.began p operation)) :=
    tidies_record (w := w.setProxy p _) (by simp)
  have htalk := tidies_silent.converse calls (fun _ _ => tidies_record (by simp))
    (fun _ _ => tidies_record (by simp)) hconverse
  exact ⟨v, tidies_silent.trans hbegun htalk, rfl⟩

/-- An operation keeps the journal tidy, if the calls that it makes do. -/
private lemma tidies_operate {operation : Proxy.Operation} {result : Except ProxyError Unit}
    (h : operate perform H p operation w = .ok (result, w')) : Tidies w w' := by
  obtain ⟨v, ⟨news, hv, tidy⟩, hended⟩ := tidies_until_ended calls h
  refine ⟨.ended p operation result :: news, ?_, tidy.cons (by simp)⟩
  rw [hended, hv, List.cons_append]

/-- A sweep reaches all proxies that it is given, and stops them.

**Proof sketch.** Induction on the proxies. What happens first is that the sweep reaches the first
of them, and the end of its stop comes before everything that happens on account of the others. -/
private lemma tidies_sweep {ps : List ProxyId} (h : sweep perform H r ps w = .ok w') :
    ∃ news, w'.journal = news ++ w.journal ∧ Tidy news ∧ ∀ p ∈ ps, Swept r p news := by
  induction ps generalizing w with
  | nil =>
    obtain rfl : w = w' := by simpa [World.sweep] using h
    exact ⟨[], rfl, tidy_nil, by simp⟩
  | cons p rest ih =>
    obtain ⟨result, v, hstop, h⟩ := sweep_cons_ok h
    obtain ⟨u, ⟨during, hu, hduring⟩, hv⟩ := tidies_until_ended calls hstop
    obtain ⟨later, hw', hlater, swept⟩ := ih h
    have hjournal : w'.journal =
        later ++ (.ended p .stop result :: during ++ [.swept r p]) ++ w.journal := by
      simp [hw', hv, hu, record]
    have first : Swept r p (.ended p .stop result :: during ++ [.swept r p]) :=
      ⟨.ended p .stop result :: during, [], rfl, _, List.mem_cons_self, result, rfl⟩
    refine ⟨_, hjournal, hlater.append ?_, fun q hq => ?_⟩
    · exact (hduring.append (tidy_nil.cons (by simp))).cons (by simp)
    · rcases List.mem_cons.1 hq with rfl | hq
      · simpa using first.mono later []
      · exact (swept q hq).mono [] _

end Calls

/-- Whatever happens, all that is removed had been swept.

**Proof sketch.** By cases on what the world can do. Only a pass removes anything, and it removes
the members that it found, each of which it had swept. -/
theorem tidy_closed (H : Host σ) : Closed H Tidies where
  toSilent := tidies_silent
  establish _ _ _ := tidies_of_eq rfl
  obtain h := by
    rcases obtain_cases h with rfl | ⟨registry, -, -, rfl⟩
    · exact tidies_of_eq rfl
    · exact ⟨[_], rfl, tidy_nil.cons (by simp)⟩
  install w r := tidies_of_eq (by rw [World.install]; split <;> rfl)
  operate calls h := tidies_operate calls h
  pass {perform r registry w w'} calls _ h := by
    obtain ⟨news, hnews, tidy, swept⟩ := tidies_sweep calls h
    rw [remove]
    split
    · exact ⟨news, hnews, tidy⟩
    · refine ⟨.removed r registry.proxies :: news, by simp [record, setRegistry, hnews], ?_⟩
      intro r' gone removed p hp
      have hswept : Swept r' p news := by
        rcases List.mem_cons.1 removed with heq | removed
        · obtain ⟨rfl, rfl⟩ := Event.removed.inj heq
          exact swept p hp
        · exact tidy r' gone removed p hp
      simpa using hswept.mono [.removed r registry.proxies] []

/-- And this is so in the middle of a call as well: what else happens is no removal. -/
private lemma tidies_stepwise (H : Host σ) : Stepwise H Tidies where
  toClosed := tidy_closed H
  began _ _ _ := tidies_record (w := World.setProxy ..) (by simp)
  asked _ _ _ := tidies_record (by simp)
  answered _ _ _ := tidies_record (by simp)

/-- All that was removed by any moment of a run had been swept. -/
lemma Reachable.tidy (reachable : Reachable H w) : Tidy w.journal := by
  have follows := (tidies_stepwise H).follows fun _ _ _ => tidies_record (by simp)
  obtain ⟨host, context, news, happened, tidy⟩ := follows.reachable reachable
  rw [happened]
  exact tidy.append tidy_nil

/-! ## What is removed is at rest -/

/-- The proxy `p` was started after a sweep of the registry `r` reached it, and not stopped since.
The latest event comes first. -/
def Restarted (r : RegistryId) (p : ProxyId) (news : List Event) : Prop :=
  ∃ after before, news = after ++ .swept r p :: before ∧
    Since (Ends p .start) (Ends p .stop) after.reverse

/-- Of a proxy that was swept, a start is in force only if it was restarted.

**Proof sketch.** The proxy was stopped when it was swept. So what is in force now was in force
after the sweep already, and whatever went on before it does not matter. -/
lemma Swept.since_iff (swept : Swept r p news) :
    Since (Ends p .start) (Ends p .stop) (news ++ earlier).reverse ↔ Restarted r p news := by
  obtain ⟨after, before, rfl, e, he, ends⟩ := swept
  have split {after before : List Event} : (after ++ .swept r p :: before ++ earlier).reverse =
      (.swept r p :: before ++ earlier).reverse ++ after.reverse := by simp
  constructor
  · intro since
    rw [split, since_append] at since
    rcases since with since | ⟨-, none⟩
    · exact ⟨after, before, rfl, since⟩
    · exact absurd ends (none e (List.mem_reverse.2 he))
  · rintro ⟨after', before', heq, since⟩
    rw [heq, split, since_append]
    exact .inl since

/-- What was swept by a later moment was stopped since an earlier one, or it had been swept by
then. -/
lemma Swept.stopped_or_earlier (swept : Swept r p (news ++ earlier)) :
    (∃ e ∈ news, Ends p .stop e) ∨ Swept r p earlier := by
  obtain ⟨after, before, split, e, he, ends⟩ := swept
  rcases List.append_eq_append_iff.1 split with ⟨rest, rfl, rfl⟩ | ⟨rest, rfl, -⟩
  · -- the sweep reached the proxy by the earlier moment, and its stop came before or after that
    rcases List.mem_append.1 he with he | he
    · exact .inl ⟨e, he, ends⟩
    · exact .inr ⟨rest, before, rfl, e, he, ends⟩
  · exact .inl ⟨e, List.mem_append_left _ he, ends⟩

/-- **What a reset leaves.** A proxy that a reset removed is at rest when the reset is over, unless
it was started after the sweep reached it and not stopped since.

**Proof sketch.** The journal of the reset has a stop of the proxy after the sweep reached it. So
the latest request by the whole journal is one that came since, and by coherence the state of the
proxy says the same as the journal. -/
theorem atRest_iff_not_restarted {bound : Nat} {gone : List ProxyId} (reachable : Reachable H w)
    (ended : perform H bound (.reset r) w = .ok ((), w'))
    (happened : w'.journal = news ++ w.journal) (removed : .removed r gone ∈ news) (hp : p ∈ gone) :
    ∃ proxy, w'.proxy? p = some proxy ∧ (proxy.state.AtRest ↔ ¬ Restarted r p news) := by
  have coherent := reachable.coherent.perform ended
  have swept : Swept r p news := by
    obtain ⟨news', happened', tidy⟩ := (tidy_closed H).perform ended
    obtain rfl : news = news' := List.append_cancel_right (happened.symm.trans happened')
    exact tidy r gone removed p hp
  obtain ⟨proxy, known⟩ : ∃ proxy, w'.proxy? p = some proxy := by
    obtain ⟨after, before, rfl, _, he, result, rfl⟩ := swept
    have stopped : .ended p .stop result ∈ w'.journal := by simp [happened, he]
    exact coherent.known_of_ended stopped
  have run := (coherent.agrees p proxy known).run
  refine ⟨proxy, known, ?_⟩
  rw [run.sound.atRest_iff, run.determined.startRequested, chronicle, since_turns_iff, happened,
    swept.since_iff]

/-! ## A reset that leaves a proxy running -/

/-- A host in which the stop of the second component starts the first one again. -/
def restarting : Host Nat :=
  .counting (fun _ => .ok ()) fun product => do
    if product = ⟨1⟩ then
      let _ ← Activity.operate ⟨0⟩ .start

/-- A client that has two components run. -/
def couple : Activity Nat RegistryId := do
  let r ← Activity.establish (.custom 0) (.custom 0)
  let a ← Activity.obtain r "a"
  let b ← Activity.obtain r "b"
  let _ ← Activity.operate a .start
  let _ ← Activity.operate b .start
  let _ ← Activity.operate a .resolve
  let _ ← Activity.operate b .resolve
  pure r

/-- The reset of the registry is over, and it removed both. -/
private lemma couple_reset : ∃ w w' proxy later, Reachable restarting w ∧
    perform restarting 3 (.reset ⟨0⟩) w = .ok ((), w') ∧ w'.journal = later ++ w.journal ∧
    .removed ⟨0⟩ [⟨0⟩, ⟨1⟩] ∈ later ∧ w'.proxy? ⟨0⟩ = some proxy ∧
    proxy.state.running = true ∧ proxy.state.startRequested = true ∧
    proxy.state.product = some ⟨2⟩ := by
  obtain ⟨w, ready, rest⟩ : ∃ w, couple.perform restarting 2 { host := 0 } = .ok (⟨0⟩, w) ∧
      ∃ w' proxy, perform restarting 3 (.reset ⟨0⟩) w = .ok ((), w') ∧
        w'.journal = w'.journal.take 25 ++ w.journal ∧
        .removed ⟨0⟩ [⟨0⟩, ⟨1⟩] ∈ w'.journal.take 25 ∧ w'.proxy? ⟨0⟩ = some proxy ∧
        proxy.state.running = true ∧ proxy.state.startRequested = true ∧
        proxy.state.product = some ⟨2⟩ := by
    refine ⟨_, rfl, _, _, rfl, rfl, .head _, rfl, rfl, rfl, rfl⟩
  obtain ⟨w', proxy, ended, happened, rest⟩ := rest
  exact ⟨w, w', proxy, _, .of_run ready, ended, happened, rest⟩

/-- **A reset can leave a proxy running.** The second component's stop starts the first one, which
the sweep reached already. -/
theorem not_atRest_of_restarting : ∃ w w' proxy later, Reachable restarting w ∧
    perform restarting 3 (.reset ⟨0⟩) w = .ok ((), w') ∧ w'.journal = later ++ w.journal ∧
    .removed ⟨0⟩ [⟨0⟩, ⟨1⟩] ∈ later ∧ w'.proxy? ⟨0⟩ = some proxy ∧
    proxy.state.running = true ∧ proxy.state.startRequested = true ∧
    proxy.state.product.isSome := by
  obtain ⟨w, w', proxy, later, reachable, ended, happened, removed, known, running, requested,
    held⟩ := couple_reset
  exact ⟨w, w', proxy, later, reachable, ended, happened, removed, known, running, requested,
    by rw [held]; rfl⟩

/-- So that proxy was restarted. -/
theorem restarted_of_restarting : ∃ w w' later, Reachable restarting w ∧
    perform restarting 3 (.reset ⟨0⟩) w = .ok ((), w') ∧ w'.journal = later ++ w.journal ∧
    .removed ⟨0⟩ [⟨0⟩, ⟨1⟩] ∈ later ∧ Restarted ⟨0⟩ ⟨0⟩ later := by
  obtain ⟨w, w', proxy, later, reachable, ended, happened, removed, known, running, -⟩ :=
    couple_reset
  obtain ⟨proxy', known', rest⟩ :=
    atRest_iff_not_restarted reachable ended happened removed (.head _)
  obtain rfl : proxy = proxy' := Option.some.inj (known.symm.trans known')
  refine ⟨w, w', later, reachable, ended, happened, removed, ?_⟩
  by_contra none
  simp [(rest.2 none).running] at running

end World

end Standby
