import Standby.Proofs.Discipline
import Standby.Proofs.Observables
set_option autoImplicit false

/-!
# Which instance a proxy shows

An observer of a proxy gets a handle to the live product, if there is one. Two handles that are got
at different times refer to the same product exactly if the proxy was not stopped in between: what
starts and resolutions did, and whether they failed, does not matter.

## Main definitions

* `Standby.Proxy.Turn.Obtains` — in a turn the factory gave a product that said at once that it can
  be driven.
* `Standby.World.instanceOf` — the handle that an observer of a proxy gets.

## Main results

* `Standby.Proxy.Run.liveInstance_iff` — which handle is shown after a run.
* `Standby.Proxy.Run.same_iff` — when the handles that are shown before and after some turns refer
  to the same product.
* `Standby.instance_identity` — both, for whoever observes a proxy in the course of a run.

## Design

Which handle is shown depends on the turns alone and not on what the factory hands out. Only that
two products which were obtained at different times are different has to be assumed of the factory.
-/

namespace Standby

namespace Proxy

variable {name : String} {type : TypeHandle} {operation : Operation} {s s' : State}
  {es : List Exchange} {r : Except ProxyError Unit} {o : Outcome} {i j : Instance}
  {h later : List Turn} {t : Turn}

/-! ## Obtaining a product -/

/-- In the turn the factory gave the product of `i`, made of the type of `i`, and the first answer
of this product was that it can be driven. -/
def Turn.Obtains (i : Instance) (t : Turn) : Prop :=
  ∃ before after, t.exchanges =
    before ++ ⟨.create i.type, .ok i.product⟩ :: ⟨.capability i.product, true⟩ :: after

/-- A product that was obtained was given. -/
private lemma Turn.Obtains.mem_given (obtains : t.Obtains i) : i.product ∈ given t.contacts := by
  obtain ⟨before, after, hes⟩ := obtains
  rw [contacts, hes, given_map, List.filterMap_append]
  exact List.mem_append_right _ List.mem_cons_self

/-- A product is live whose type is known and which is held. -/
private lemma State.liveInstance_eq_some :
    s.liveInstance = some i ↔ s.type = some i.type ∧ s.product = some i.product := by
  obtain ⟨type, product⟩ := i
  unfold liveInstance
  split
  next type' product' htype hproduct => simp [htype, hproduct]
  next absent =>
    constructor
    · exact fun h => nomatch h
    · rintro ⟨htype, hproduct⟩
      exact absurd hproduct (absent type product htype)

/-- Starting a product changes neither the product that is held nor its type, and asks the factory
for nothing. -/
private lemma LaunchPath.kept {product : Product} (path : LaunchPath name type product s es o) :
    o.2.type = s.type ∧ o.2.product = s.product ∧ ∀ e ∈ es, ∀ type, e.1 ≠ .create type := by
  cases path <;> simp [failed]

/-- Where the factory is asked for nothing no product is obtained. -/
private lemma Turn.not_obtains_of_no_create (quiet : ∀ e ∈ es, ∀ type, e.1 ≠ .create type) :
    ¬ Turn.Obtains i ⟨operation, es, r⟩ := by
  rintro ⟨before, after, rfl⟩
  exact quiet ⟨.create i.type, .ok i.product⟩ (by simp) i.type rfl

/-- The first call of a turn is no request for a product that is given. -/
private lemma Turn.obtains_cons_of_not_given {e : Exchange} (he : Exchange.given? e = none) :
    Turn.Obtains i ⟨operation, e :: es, r⟩ ↔ Turn.Obtains i ⟨operation, es, r⟩ := by
  constructor
  · rintro ⟨before, after, hes⟩
    cases before with
    | nil =>
      obtain ⟨rfl, -⟩ := List.cons.inj hes
      cases he
    | cons first before => exact ⟨before, after, (List.cons.inj hes).2⟩
  · rintro ⟨before, after, hes⟩
    exact ⟨e :: before, after, congrArg (e :: ·) hes⟩

/-- A product that is built, and then started, is the only one that is obtained.

**Proof sketch.** The events of the turn begin with the creation. If the product was obtained there,
the two agree, and if it was obtained later then there was another creation, which is excluded. -/
private lemma Turn.obtains_built {product : Product}
    (quiet : ∀ e ∈ es, ∀ type, e.1 ≠ .create type) :
    Turn.Obtains i ⟨operation, ⟨.create type, .ok product⟩ :: ⟨.capability product, true⟩ ::
      es, r⟩ ↔
      i = ⟨type, product⟩ := by
  constructor
  · rintro ⟨before, after, hes⟩
    cases before with
    | nil =>
      obtain ⟨first, -⟩ := List.cons.inj hes
      cases i
      cases first
      rfl
    | cons first before =>
      have quiet' : ∀ e ∈ ⟨.capability product, true⟩ :: es, ∀ type, e.1 ≠ Request.create type := by
        simpa using quiet
      have later : Turn.Obtains i ⟨operation, ⟨.capability product, true⟩ :: es, r⟩ :=
        ⟨before, after, (List.cons.inj hes).2⟩
      exact absurd later (not_obtains_of_no_create quiet')
  · rintro rfl
    exact ⟨[], es, rfl⟩

/-! ## What each operation does to the handle -/

/-- An attempt shows what was shown before, or the product that it obtained.

**Proof sketch.** By cases on the way in which the attempt went. One that starts what is held
obtains nothing and keeps it. One that builds nothing fit obtains nothing and holds nothing before
or after. One that builds something obtains this. -/
private lemma AttemptPath.liveInstance_iff (tried : AttemptPath name type s es o)
    (known : s.type = some type) (operation : Operation) (r : Except ProxyError Unit) :
    o.2.liveInstance = some i ↔ Turn.Obtains i ⟨operation, es, r⟩ ∨ s.liveInstance = some i := by
  cases tried with
  | held hs launched =>
    obtain ⟨htype, hproduct, quiet⟩ := launched.kept
    simp [State.liveInstance_eq_some, htype, hproduct, Turn.not_obtains_of_no_create quiet]
  | unbuilt e hs =>
    have nothing : ¬ Turn.Obtains i ⟨operation, [⟨.create type, .error e⟩], r⟩ := by
      rw [Turn.obtains_cons_of_not_given rfl]
      exact Turn.not_obtains_of_no_create (by simp)
    simp [State.liveInstance_eq_some, failed, nothing]
  | unfit product hs =>
    have nothing : ¬ Turn.Obtains i
        ⟨operation, [⟨.create type, .ok product⟩, ⟨.capability product, false⟩], r⟩ := by
      rintro ⟨before, after, hes⟩
      cases before with
      | nil => cases hes
      | cons first before =>
        have later : Turn.Obtains i ⟨operation, [⟨.capability product, false⟩], r⟩ :=
          ⟨before, after, (List.cons.inj hes).2⟩
        exact Turn.not_obtains_of_no_create (by simp) later
    simp [State.liveInstance_eq_some, failed, nothing]
  | built hs launched =>
    obtain ⟨htype, hproduct, quiet⟩ := launched.kept
    rw [Turn.obtains_built quiet, State.liveInstance_eq_some, State.liveInstance_eq_some, htype,
      hproduct, known, hs]
    cases i
    simp [eq_comm]

/-- **The step of a handle.** An operation shows the product that it obtained, and unless it is a
stop it shows what was shown before.

**Proof sketch.** By cases on the way in which the operation went. An operation without an attempt
obtains nothing, and it lets go of what is held only if it is a stop. The others are their attempt,
and where the name is only resolved now nothing was held before. -/
theorem OperationPath.liveInstance_iff (path : OperationPath name operation s es (r, s'))
    (sound : s.Sound name) :
    s'.liveInstance = some i ↔
      Turn.Obtains i ⟨operation, es, r⟩ ∨ s.liveInstance = some i ∧ operation ≠ .stop := by
  cases path with
  | deferred | nothingHeld | unstoppable | stopFailed | stopped | known =>
    simp [State.liveInstance_eq_some, State.released, Turn.not_obtains_of_no_create]
  | start hs tried =>
    simpa [State.liveInstance_eq_some] using tried.liveInstance_iff hs .start r
  | missing e hs =>
    simp [Turn.not_obtains_of_no_create]
  | found type hs idle =>
    have hproduct := (sound.unresolved hs).1
    simp [State.liveInstance_eq_some, hs, hproduct, Turn.not_obtains_of_no_create]
  | foundPending hs requested tried =>
    have hproduct := (sound.unresolved hs).1
    rw [Turn.obtains_cons_of_not_given rfl, tried.liveInstance_iff rfl .resolve r]
    simp [State.liveInstance_eq_some, hs, hproduct]

/-! ## Runs -/

/-- **The handle after a run.** A handle is shown after a run if its product was obtained in a turn,
and no stop came after it.

**Proof sketch.** Induction on the run. The state before each turn is sound, so one step decides. -/
theorem Run.liveInstance_iff (run : Run name h s) :
    s.liveInstance = some i ↔ Since (Turn.Obtains i) (·.operation = .stop) h := by
  induction run with
  | new => simp [State.liveInstance_eq_some, State.initial]
  | @turn h s s' t run path ih =>
    rw [since_snoc, ← ih]
    exact (path_talk_iff.1 path).liveInstance_iff run.sound

/-- A handle that is shown was obtained. -/
private lemma Run.mem_given (run : Run name h s) (live : s.liveInstance = some i) :
    i.product ∈ given (contacts h) := by
  obtain ⟨before, t, after, rfl, obtains, -⟩ := run.liveInstance_iff.1 live
  simp [contacts, obtains.mem_given]

/-- **Two handles.** Where no product is given twice, the handles that a proxy shows before and
after some turns refer to the same product exactly if none of these turns is a stop.

**Proof sketch.** Without a stop what was shown before is shown after. With a stop what is shown
after was obtained in these turns, and what was shown before had been obtained earlier. -/
theorem Run.same_iff {name' : String} (run : Run name h s) (run' : Run name' (h ++ later) s')
    (fresh : (given (contacts (h ++ later))).Nodup) (before : s.liveInstance = some i)
    (after : s'.liveInstance = some j) :
    i.same j = true ↔ ∀ t ∈ later, t.operation ≠ .stop := by
  constructor
  case mp =>
    intro same
    have hproduct : i.product = j.product := by simpa [Instance.same] using same
    rcases since_append.1 (run'.liveInstance_iff.1 after) with
      ⟨past, t, rest, rfl, obtains, -⟩ | kept
    · have given₁ := run.mem_given before
      have given₂ : j.product ∈ given (contacts (past ++ t :: rest)) := by
        simp [contacts, obtains.mem_given]
      rw [contacts, List.flatMap_append, given_append, List.nodup_append] at fresh
      exact absurd hproduct (fresh.2.2 _ given₁ _ given₂)
    · exact kept.2
  case mpr =>
    intro unstopped
    have kept : s'.liveInstance = some i :=
      run'.liveInstance_iff.2 (since_append.2 (.inr ⟨run.liveInstance_iff.1 before, unstopped⟩))
    obtain rfl : i = j := Option.some.inj (kept.symm.trans after)
    simp [Instance.same]

/-- A handle is shown after a run if since the latest stop a product was obtained. -/
private lemma Run.isSome_liveInstance_iff (run : Run name h s) :
    s.liveInstance.isSome = true ↔
      Since (fun t => ∃ i, Turn.Obtains i t) (·.operation = .stop) h := by
  rw [Option.isSome_iff_exists, since_exists]
  exact exists_congr fun i => run.liveInstance_iff

/-- A handle that is shown has the name of the type that was found. -/
private lemma Run.typeName_eq (run : Run name h s) (live : s.liveInstance = some i) :
    (firstType h).map TypeHandle.name = some i.typeName := by
  rw [← run.determined.type, (State.liveInstance_eq_some.1 live).1]
  rfl

end Proxy

/-! ## Observers -/

open Proxy

namespace World

variable {σ : Type} {H : Host σ} {w v : World σ} {p : ProxyId} {proxy : Proxy} {i j : Instance}

/-- The handle to the live product of a proxy, as an observer gets it now. -/
def instanceOf (w : World σ) (p : ProxyId) : Except Halt (Option Instance) :=
  (w.observe p).map fun observed => observed.1.liveInstance

/-- What an observer gets is what the proxy shows while no operation is under way. -/
private lemma instanceOf_eq_ok {shown : Option Instance} :
    w.instanceOf p = .ok shown ↔
      ∃ proxy, w.proxy? p = some proxy ∧ proxy.busy = false ∧ proxy.state.liveInstance = shown := by
  unfold instanceOf observe
  cases known : w.proxy? p with
  | none => simp [Except.map]
  | some proxy => cases busy : proxy.busy <;> simp [Except.map, busy]

/-- At a later moment of a run a proxy has the turns that it had, and those that ended meanwhile. -/
private lemma turns_eq_append (p : ProxyId) {news : List Event}
    (happened : v.journal = news ++ w.journal) : ∃ later : List Turn,
      (v.chronicle p).turns = (w.chronicle p).turns ++ later ∧
        ∀ operation, (∃ t ∈ later, t.operation = operation) ↔
          ∃ e ∈ news, Chronicle.Ends p operation e := by
  rw [chronicle, chronicle, happened]
  exact Chronicle.turns_append_eq news

/-- While no operation on a proxy is under way, the calls that it made are those of its turns. -/
private lemma Reachable.contacts_eq (reachable : Reachable H w) (known : w.proxy? p = some proxy)
    (idle : proxy.busy = false) : (w.chronicle p).contacts = Proxy.contacts (w.chronicle p).turns :=
  (reachable.coherent.agrees p proxy known).calls_eq idle .answered

end World

/-- **The identity of instances.** Whoever observes a proxy gets a handle exactly if since its
latest stop a start attempt obtained a product that said at once that it can be driven, and the
handle has the name of the type that was found. Handles that are got at two moments of a run refer
to the same product exactly if no stop of the proxy, on its own or in a reset, ended in between;
this as long as the factory gave the proxy no product twice.

**Proof sketch.** What an observer sees is the product of the state, and the states of a proxy are
those of the run that its turns make. So both parts are facts of such runs. For the second one, the
turns at the later moment are those at the earlier one and some more, and the events in between tell
of the stops among these. -/
theorem instance_identity :
    (∀ {σ : Type} {H : Host σ} {w : World σ} {p : ProxyId} {shown : Option Instance},
        World.Reachable H w → w.instanceOf p = .ok shown →
          (shown.isSome = true ↔
            Since (fun t => ∃ i, Turn.Obtains i t) (·.operation = .stop) (w.chronicle p).turns) ∧
          ∀ i, shown = some i →
            (firstType (w.chronicle p).turns).map TypeHandle.name = some i.typeName) ∧
      ∀ {σ : Type} {H : Host σ} {w v : World σ} {p : ProxyId} {news : List Event} {i j : Instance},
        World.Reachable H w → World.Reachable H v → v.journal = news ++ w.journal →
        (given (v.chronicle p).contacts).Nodup →
        w.instanceOf p = .ok (some i) → v.instanceOf p = .ok (some j) →
          (i.same j = true ↔ ∀ e ∈ news, ¬ Chronicle.Ends p .stop e) := by
  refine ⟨?shown, ?same⟩
  case shown =>
    intro σ H w p shown reachable observed
    obtain ⟨proxy, known, -, rfl⟩ := World.instanceOf_eq_ok.1 observed
    have run := reachable.run known
    exact ⟨run.isSome_liveInstance_iff, fun i live => run.typeName_eq live⟩
  case same =>
    intro σ H w v p news i j reachable reachable' happened fresh observed observed'
    obtain ⟨proxy, known, -, before⟩ := World.instanceOf_eq_ok.1 observed
    obtain ⟨proxy', known', idle, after⟩ := World.instanceOf_eq_ok.1 observed'
    obtain ⟨later, grown, ended⟩ := World.turns_eq_append p happened
    rw [reachable'.contacts_eq known' idle, grown] at fresh
    have run' := reachable'.run known'
    rw [grown] at run'
    rw [(reachable.run known).same_iff run' fresh before after]
    simpa using not_congr (ended .stop)

/-- A client that has a component started as soon as its type is known, and then goes on. -/
def insistent (more : List Operation) : Activity Nat Unit := do
  let r ← Activity.establish (.custom 0) (.custom 0)
  let p ← Activity.obtain r "a"
  let _ ← Activity.operate p .start
  let _ ← Activity.operate p .resolve
  more.forM fun operation => do
    let _ ← Activity.operate p operation

/-- After one more failed start the same product is shown, and after a stop and one more failed
start it is another one. -/
theorem instance_identity_failing : ∃ u v w : World Nat, ∃ i j k : Instance,
    World.Reachable failing u ∧ World.Reachable failing v ∧ World.Reachable failing w ∧
    u.instanceOf ⟨0⟩ = .ok (some i) ∧ v.instanceOf ⟨0⟩ = .ok (some j) ∧
    w.instanceOf ⟨0⟩ = .ok (some k) ∧ (given (w.chronicle ⟨0⟩).contacts).Nodup ∧
    i.same j = true ∧ ¬ i.same k = true ∧
    (firstType (w.chronicle ⟨0⟩).turns).map TypeHandle.name = some k.typeName := by
  obtain ⟨u, v, w, i, j, k, ranU, ranV, ranW, atU, atV, atW, givenV, givenW, soon, late⟩ :
      ∃ u v w : World Nat, ∃ i j k : Instance,
        (insistent []).perform failing 1 { host := 0 } = .ok ((), u) ∧
        (insistent [.start]).perform failing 1 { host := 0 } = .ok ((), v) ∧
        (insistent [.start, .stop, .start]).perform failing 1 { host := 0 } = .ok ((), w) ∧
        u.instanceOf ⟨0⟩ = .ok (some i) ∧ v.instanceOf ⟨0⟩ = .ok (some j) ∧
        w.instanceOf ⟨0⟩ = .ok (some k) ∧
        given (v.chronicle ⟨0⟩).contacts = [⟨0⟩] ∧ given (w.chronicle ⟨0⟩).contacts = [⟨0⟩, ⟨1⟩] ∧
        v.journal = [.ended ⟨0⟩ .start (.error (.start "a" (.ofMessage "no"))),
          .answered ⟨0⟩ ⟨.start ⟨0⟩, .error (.ofMessage "no")⟩, .asked ⟨0⟩ (.start ⟨0⟩),
          .answered ⟨0⟩ ⟨.capability ⟨0⟩, true⟩, .asked ⟨0⟩ (.capability ⟨0⟩),
          .began ⟨0⟩ .start] ++ u.journal ∧
        ∃ before after, w.journal =
          (before ++ .ended ⟨0⟩ .stop (.ok ()) :: after) ++ u.journal := by
    refine ⟨_, _, _, _, _, _, rfl, rfl, rfl, rfl, rfl, rfl, rfl, rfl, rfl, ?_⟩
    -- ten events of the last start, and eleven of the stop and of the start before it
    exact ⟨[_, _, _, _, _, _, _, _, _, _], [_, _, _, _, _, _, _, _, _, _, _], rfl⟩
  have reachedU := World.Reachable.of_run ranU
  have reachedV := World.Reachable.of_run ranV
  have reachedW := World.Reachable.of_run ranW
  have freshV : (given (v.chronicle ⟨0⟩).contacts).Nodup := by simp [givenV]
  have freshW : (given (w.chronicle ⟨0⟩).contacts).Nodup := by simp [givenW]
  obtain ⟨before, after, late⟩ := late
  refine ⟨u, v, w, i, j, k, reachedU, reachedV, reachedW, atU, atV, atW, freshW, ?_, ?_, ?_⟩
  · exact (instance_identity.2 reachedU reachedV soon freshV atU atV).2 (by simp [Chronicle.Ends])
  · intro same
    exact (instance_identity.2 reachedU reachedW late freshW atU atW).1 same
      (.ended ⟨0⟩ .stop (.ok ())) (by simp) ⟨_, rfl⟩
  · exact (instance_identity.1 reachedW atW).2 k rfl

end Standby
