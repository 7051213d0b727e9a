import Standby.Proofs.Proxy.Usage
import Standby.Proofs.World.Roster
set_option autoImplicit false

/-!
# How a proxy gives up a product

As long as a proxy is kept, a product that it holds is given up by a stop and by nothing else.
Before it is given up it is asked for its capability once more, and it is stopped exactly if it says
yes. A product that ran and says no now is given up without being stopped.

A reset forgets the proxies that it removes, and a proxy that nobody else keeps comes to its end
then, with what it holds. What it held when the sweep reached it was given up by the stop of the
sweep.

## Main definitions

* `Standby.World.LetsGo` — a proxy gave up a product, or a reset removed the proxy.
* `Standby.World.Releases` — the first stop between two moments released a product.

## Main results

* `Standby.Proxy.Run.gives_up` — the turn in which a product is given up.
* `Standby.World.given_up_by_release` — the same for everything that may happen in a world.
* `Standby.World.given_up_unstopped` — a product that is given up need not have been stopped.

## Design

A world keeps all proxies that were ever made, and does not know who else does. So it cannot tell
when a proxy comes to its end. It tells when a registry forgets the proxy, which is not later than
that, and this is what is taken for the end here. A proxy that was started again after the sweep
reached it is the exception: its registry forgets it although nothing has stopped it since, and what
becomes of its product then depends on who else keeps the proxy.
-/

namespace Standby

namespace Proxy

variable {name : String} {x : Product} {operation : Operation} {s s' : State} {es : List Exchange}
  {result : Except ProxyError Unit} {h : List Turn}

/-- An attempt keeps the product that is held. -/
private lemma AttemptPath.keeps {type : TypeHandle} {o : Outcome}
    (tried : AttemptPath name type s es o) (held : s.product = some x) : o.2.product = some x := by
  cases tried with
  | held _ launched =>
    rw [launched.settled, ← held]
    cases o.1 <;> rfl
  | unbuilt _ none | unfit _ none | built none _ => simp [held] at none

/-- An operation keeps the product that is held, or it is a stop and releases the product.

**Proof sketch.** By cases on the way in which the operation went. Attempts use what is held, and
the ways of a stop are the ways of a release. -/
private lemma OperationPath.keeps_or_releases
    (path : OperationPath name operation s es (result, s')) (held : s.product = some x) :
    operation ≠ .stop ∧ s'.product = some x ∨
      Release x (Turn.contacts ⟨operation, es, result⟩) := by
  generalize ho : (result, s') = o at path
  obtain rfl : s' = o.2 := congrArg Prod.snd ho
  cases path with
  | deferred | known | missing | found => exact .inl ⟨by simp, held⟩
  | start _ tried | foundPending _ _ tried => exact .inl ⟨by simp, tried.keeps held⟩
  | nothingHeld none => simp [held] at none
  | unstoppable hs =>
    obtain rfl : x = _ := Option.some.inj (held.symm.trans hs)
    exact .inr .refused
  | stopFailed e hs =>
    obtain rfl : x = _ := Option.some.inj (held.symm.trans hs)
    exact .inr (.made (.error e))
  | stopped hs =>
    obtain rfl : x = _ := Option.some.inj (held.symm.trans hs)
    exact .inr (.made (.ok ()))

/-- A turn that releases a product is a stop. -/
private lemma Release.operation_eq {t : Turn} (release : Release x t.contacts) :
    t.operation = .stop := by
  generalize hc : t.contacts = contacts at release
  cases release with
  | refused | made =>
    cases he : t.exchanges with
    | nil => simp [Turn.contacts, he] at hc
    | cons e es =>
      rw [Turn.contacts, he, List.map_cons] at hc
      exact congrArg Contact.operation (List.cons.inj hc).1

/-- A product that a proxy held is still held and no stop was made since, or the first stop since
then released it.

**Proof sketch.** Induction on the turns since then. Up to the first stop the product is held. -/
private lemma Run.keeps_or_gives_up {more : List Turn} (run : Run name h s)
    (held : s.product = some x) (run' : Run name (h ++ more) s') :
    (s'.product = some x ∧ ∀ u ∈ more, u.operation ≠ .stop) ∨
      ∃ between t after, more = between ++ t :: after ∧ (∀ u ∈ between, u.operation ≠ .stop) ∧
        Release x t.contacts := by
  induction more using List.reverseRecOn generalizing s' with
  | nil =>
    rw [List.append_nil] at run'
    exact .inl ⟨run.unique run' ▸ held, by simp⟩
  | append_singleton more t ih =>
    rw [← List.append_assoc] at run'
    obtain ⟨u, runBefore, path⟩ := run'.last
    rcases ih runBefore with ⟨held, none⟩ | ⟨between, t', after, rfl, none, release⟩
    · rcases path.keeps_or_releases held with ⟨noStop, kept⟩ | release
      · refine .inl ⟨kept, fun u hu => ?_⟩
        rcases List.mem_append.1 hu with hu | hu
        · exact none u hu
        · exact List.mem_singleton.1 hu ▸ noStop
      · exact .inr ⟨more, t, [], rfl, none, release⟩
    · exact .inr ⟨between, t', after ++ [t], by simp, none, release⟩

/-- **The turn in which a product is given up.** If a proxy held a product and does not hold it any
more, or was stopped since, then the first stop since then released it. -/
theorem Run.gives_up {more : List Turn} (run : Run name h s) (held : s.product = some x)
    (run' : Run name (h ++ more) s')
    (gone : s'.product ≠ some x ∨ ∃ u ∈ more, u.operation = .stop) :
    ∃ between t after, more = between ++ t :: after ∧ (∀ u ∈ between, u.operation ≠ .stop) ∧
      Release x t.contacts := by
  refine (run.keeps_or_gives_up held run').resolve_left ?_
  rintro ⟨still, none⟩
  rcases gone with gone | ⟨u, hu, stop⟩
  · exact gone still
  · exact none u hu stop

end Proxy

namespace World

open Chronicle (Ends)

variable {σ : Type} {H : Host σ} {w v : World σ} {p : ProxyId} {proxy : Proxy} {x : Product}
  {news : List Event}

/-- From the world `w` to the world `v`, of which `news` tells, the proxy `p` lets go of the product
`x`: it gave it up, or a reset removed the proxy from its registry. A proxy that in `w` runs again
since the sweep reached it is not removed on account of its stop, and this does not count. -/
inductive LetsGo (w v : World σ) (news : List Event) (p : ProxyId) (x : Product) : Prop
  | gaveUp {proxy : Proxy} (known : v.proxy? p = some proxy) (gone : proxy.state.product ≠ some x)
  | removed {r : RegistryId} (removed : p ∈ removedFrom r news) (first : ¬ Restarted r p w.journal)

/-- Of the turns that the proxy `p` took between the worlds `w` and `v`, the first stop released the
product `x`. -/
def Releases (w v : World σ) (p : ProxyId) (x : Product) : Prop :=
  ∃ between t after, (v.chronicle p).turns = (w.chronicle p).turns ++ between ++ t :: after ∧
    (∀ u ∈ between, u.operation ≠ .stop) ∧ t.operation = .stop ∧ Proxy.Release x t.contacts

/-- A proxy that a sweep reached and that holds a product was restarted.

**Proof sketch.** Where a product is held a start is requested, so a start came after the last stop;
and a stop came after the sweep reached the proxy. -/
private lemma restarted_of_swept {r : RegistryId} (reachable : Reachable H w)
    (known : w.proxy? p = some proxy) (held : proxy.state.product = some x)
    (swept : Swept r p w.journal) : Restarted r p w.journal := by
  have run := reachable.run known
  have requested : proxy.state.startRequested = true := (run.sound.held (by simp [held])).2
  rw [run.determined.startRequested, chronicle, Chronicle.since_turns_iff] at requested
  have since : Since (Ends p .start) (Ends p .stop) (w.journal ++ []).reverse := by
    rwa [List.append_nil]
  exact swept.since_iff.1 since

/-- A proxy that a reset removed since was stopped since, unless it was restarted by then.

**Proof sketch.** What is removed was swept. If it was swept by then, and holds a product now, then
it was restarted. -/
private lemma stopped_of_removed {r : RegistryId} (earlier : Reachable H w) (later : Reachable H v)
    (happened : v.journal = news ++ w.journal) (known : w.proxy? p = some proxy)
    (held : proxy.state.product = some x) (removed : p ∈ removedFrom r news)
    (first : ¬ Restarted r p w.journal) : ∃ e ∈ news, Ends p .stop e := by
  obtain ⟨gone, told, hp⟩ := mem_removedFrom.1 removed
  have swept : Swept r p (news ++ w.journal) := by
    have tidy := later.tidy
    rw [happened] at tidy
    exact tidy r gone (List.mem_append_left _ told) p hp
  refine swept.stopped_or_earlier.resolve_right fun before => ?_
  exact first (restarted_of_swept earlier known held before)

/-- Where no sweep reached anything nothing was restarted. -/
private lemma not_restarted_of_unswept {r : RegistryId} (unswept : sweptIn r news = []) :
    ¬ Restarted r p news := by
  rintro ⟨after, before, rfl, -⟩
  simp [sweptIn] at unswept

/-- **A product is given up by a release.** Take any two moments of a run, in the middle of a reset
or wherever else. If a proxy held a product at the first and does not hold it at the second, or was
removed by a reset in between, then the first stop of the proxy in between released it: it asked the
product for its capability, once, and it called the stop of the product, once, if the product said
yes, and not at all if it said no. Only a proxy that at the first moment runs again since the sweep
reached it may be removed without this.

**Proof sketch.** By coherence the states of the proxy are those to which its turns lead, and the
turns by the second moment continue those by the first. If the product is not held any more, or
there is a stop among them, then the first stop released it. A proxy that is removed is stopped by
the sweep before, and the stop is one of them unless the sweep came earlier and the proxy was
restarted. -/
theorem given_up_by_release (earlier : Reachable H w) (later : Reachable H v)
    (happened : v.journal = news ++ w.journal) (known : w.proxy? p = some proxy)
    (held : proxy.state.product = some x) (gone : LetsGo w v news p x) : Releases w v p x := by
  obtain ⟨more, hmore, ends⟩ : ∃ more : List Proxy.Turn,
      (v.chronicle p).turns = (w.chronicle p).turns ++ more ∧
        ∀ operation, (∃ t ∈ more, t.operation = operation) ↔ ∃ e ∈ news, Ends p operation e := by
    rw [chronicle, chronicle, happened]
    exact Chronicle.turns_append_eq news
  have run := earlier.run known
  obtain ⟨proxy', known', hname⟩ := earlier.still_known later happened known
  have run' : Proxy.Run proxy.name ((w.chronicle p).turns ++ more) proxy'.state := by
    rw [← hmore, ← hname]
    exact later.run known'
  have ended : proxy'.state.product ≠ some x ∨ ∃ u ∈ more, u.operation = .stop := by
    cases gone with
    | gaveUp known'' gone =>
      obtain rfl := Option.some.inj (known'.symm.trans known'')
      exact .inl gone
    | removed removed first =>
      have stopped := stopped_of_removed earlier later happened known held removed first
      exact .inr ((ends .stop).2 stopped)
  obtain ⟨between, t, after, rfl, none, release⟩ := run.gives_up held run' ended
  exact ⟨between, t, after, by rw [hmore, List.append_assoc], none, release.operation_eq, release⟩

/-! ## A product that changes its mind -/

/-- A client that has a component run. -/
def brief : Activity Nat Unit := do
  let r ← Activity.establish (.custom 0) (.custom 0)
  let p ← Activity.obtain r "a"
  let _ ← Activity.operate p .start
  let _ ← Activity.operate p .resolve

/-- A host whose products all do what they are asked to. -/
def obliging : Host Nat := .counting (fun _ => .ok ()) fun _ => pure ()

/-- A product that says yes whenever it is asked is stopped when it is given up, whether its proxy
is stopped or removed by a reset. -/
theorem given_up_by_release_brief : ∃ (w v u : World Nat) (proxy proxy' : Proxy)
    (news later : List Event),
    Reachable obliging w ∧ Reachable obliging v ∧ Reachable obliging u ∧
    w.proxy? ⟨0⟩ = some proxy ∧ proxy.state.product = some ⟨0⟩ ∧
    v.journal = news ++ w.journal ∧ v.proxy? ⟨0⟩ = some proxy' ∧ proxy'.state.product = none ∧
    u.journal = later ++ w.journal ∧ .removed ⟨0⟩ [⟨0⟩] ∈ later ∧ ¬ Restarted ⟨0⟩ ⟨0⟩ w.journal ∧
    Releases w v ⟨0⟩ ⟨0⟩ ∧ Releases w u ⟨0⟩ ⟨0⟩ := by
  obtain ⟨w, ready, unswept, proxy, known, held, v, stopped, happened, proxy', known', gone,
      u, reset, happened', removed⟩ :
      ∃ w, brief.perform obliging 1 { host := 0 } = .ok ((), w) ∧ sweptIn ⟨0⟩ w.journal = [] ∧
        ∃ proxy, w.proxy? ⟨0⟩ = some proxy ∧ proxy.state.product = some ⟨0⟩ ∧
        ∃ v, (do brief; let _ ← Activity.operate ⟨0⟩ .stop).perform obliging 1 { host := 0 } =
          .ok ((), v) ∧ v.journal = v.journal.take 6 ++ w.journal ∧
        ∃ proxy', v.proxy? ⟨0⟩ = some proxy' ∧ proxy'.state.product = none ∧
        ∃ u, (do brief; Activity.reset ⟨0⟩).perform obliging 3 { host := 0 } = .ok ((), u) ∧
          u.journal = u.journal.take 8 ++ w.journal ∧
          .removed ⟨0⟩ [⟨0⟩] ∈ u.journal.take 8 := by
    refine ⟨_, rfl, rfl, _, rfl, rfl, _, rfl, rfl, _, rfl, rfl, _, rfl, rfl, .head _⟩
  have earlier : Reachable obliging w := .of_run ready
  have later : Reachable obliging v := .of_run stopped
  have later' : Reachable obliging u := .of_run reset
  have first : ¬ Restarted ⟨0⟩ ⟨0⟩ w.journal := not_restarted_of_unswept unswept
  have gaveUp : LetsGo w v (v.journal.take 6) ⟨0⟩ ⟨0⟩ := .gaveUp known' (by simp [gone])
  have forgotten : LetsGo w u (u.journal.take 8) ⟨0⟩ ⟨0⟩ :=
    .removed (mem_removedFrom.2 ⟨_, removed, List.mem_singleton.2 rfl⟩) first
  exact ⟨w, v, u, proxy, proxy', _, _, earlier, later, later', known, held, happened, known', gone,
    happened', removed, first, given_up_by_release earlier later happened known held gaveUp,
    given_up_by_release earlier later' happened' known held forgotten⟩

/-- A host with one product, which says yes when it is asked for its capability the first two times,
and no from then on. -/
def fickle : Host Nat where
  __ := Host.counting (fun _ => .ok ()) fun _ => pure ()
  create _ _ := .done (.ok ⟨0⟩)
  capability _ := .update fun asked => (decide (asked < 2), asked + 1)

/-- **A product that ran can be given up without being stopped.** Its start succeeded, and when its
proxy is stopped it says no. -/
theorem given_up_unstopped : ∃ (w v : World Nat) (proxy proxy' : Proxy) (result : _),
    Reachable fickle w ∧
    w.proxy? ⟨0⟩ = some proxy ∧ proxy.state.product = some ⟨0⟩ ∧ proxy.state.running = true ∧
    ⟨.start ⟨0⟩, .ok ()⟩ ∈ (w.chronicle ⟨0⟩).turns.flatMap Proxy.Turn.exchanges ∧
    (Activity.operate ⟨0⟩ .stop).perform fickle 1 w = .ok (result, v) ∧
    v.proxy? ⟨0⟩ = some proxy' ∧ proxy'.state.product = none ∧
    ∀ e ∈ (v.chronicle ⟨0⟩).turns.flatMap Proxy.Turn.exchanges, e.1 ≠ .stop ⟨0⟩ := by
  obtain ⟨w, ready, proxy, known, held, running, started, result, v, stopped, proxy', known', gone,
      asked⟩ :
      ∃ w, brief.perform fickle 1 { host := 0 } = .ok ((), w) ∧
        ∃ proxy, w.proxy? ⟨0⟩ = some proxy ∧ proxy.state.product = some ⟨0⟩ ∧
        proxy.state.running = true ∧
        (w.chronicle ⟨0⟩).turns.flatMap Proxy.Turn.exchanges =
          [⟨.resolve "a", .ok ⟨0, ⟨"a", ⟨0⟩⟩⟩⟩, ⟨.create ⟨0, ⟨"a", ⟨0⟩⟩⟩, .ok ⟨0⟩⟩,
            ⟨.capability ⟨0⟩, true⟩, ⟨.capability ⟨0⟩, true⟩, ⟨.start ⟨0⟩, .ok ()⟩] ∧
        ∃ result v, (Activity.operate ⟨0⟩ .stop).perform fickle 1 w = .ok (result, v) ∧
        ∃ proxy', v.proxy? ⟨0⟩ = some proxy' ∧ proxy'.state.product = none ∧
        (v.chronicle ⟨0⟩).turns.flatMap Proxy.Turn.exchanges =
          (w.chronicle ⟨0⟩).turns.flatMap Proxy.Turn.exchanges ++ [⟨.capability ⟨0⟩, false⟩] := by
    refine ⟨_, rfl, _, rfl, rfl, rfl, rfl, _, _, rfl, _, rfl, rfl, rfl⟩
  refine ⟨w, v, proxy, proxy', result, .of_run ready, known, held, running, ?_, stopped,
    known', gone, ?_⟩
  · simp [started]
  · simp [asked, started]

end World

end Standby
