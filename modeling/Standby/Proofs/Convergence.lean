import Standby.Proofs.Subruns
import Standby.Proofs.World.Conversation
set_option autoImplicit false

/-!
# Initialization converges

A registry is initialized again and again. Each time it is gone through from the beginning, up to
the first failure. Where all names are found, a component whose deferred start failed does not stand
in the way the next time: it is resolved, and nothing is done about it again. So with each failure
fewer components are left, and in the end initialization is successful and has nothing to do.

## Main definitions

* `Standby.Proxy.Pursues` — what several resolutions do, one after the other.
* `Standby.AlwaysFound` — the resolver found every name that it was asked for.
* `Standby.Registry.again` — several initializations, one after the other.
* `Standby.World.Complete` — all components are resolved, and none is busy.
* `Standby.World.Advances`, `Standby.World.Rounds` — what one initialization does, and what several
  do.
* `Standby.World.Converges` — how a series of initializations ends.

## Main results

* `Standby.Proxy.Run.pursues` — of several resolutions one makes the attempt that was requested.
* `Standby.World.Rounds.failures` — there are no more failures than components that were unresolved.
* `Standby.World.resolving_of_complete` — where everything is resolved initialization does nothing.
* `Standby.World.initialization_converges` — all of this, from every world that a run goes through.

## Design

What one initialization does is a relation between the worlds before and after it, and all that is
said of several is said by induction on a chain of these. Which attempts are made is not followed
through the passes: the turns of a proxy are resolutions and nothing else, and its history says the
rest.
-/

namespace Standby

variable {σ : Type} {H : Host σ}

/-! ## Several resolutions of one proxy -/

namespace Proxy

variable {name : String} {s s' : State} {es : List Exchange} {h ts : List Turn}

/-- The turns `ts` are resolutions and nothing else, and they lead from the state `s` to the state
`s'`. -/
structure Pursues (s s' : State) (ts : List Turn) : Prop where
  only : ∀ t ∈ ts, t.operation = .resolve
  /-- Where the type is known nothing is done. -/
  idle : s.type.isSome → s' = s ∧ ∀ t ∈ ts, t.exchanges = [] ∧ t.result = .ok ()
  /-- A start that was requested is attempted once if the type is found. -/
  once : s.type = none → s'.type.isSome → s.startRequested = true →
    ∃ before t after, ts = before ++ t :: after ∧ t.Attempts ∧ ∀ u ∈ before ++ after, ¬ u.Attempts
  /-- Nothing is attempted if none was requested, or as long as the type is not found. -/
  never : s.type.isSome ∨ s'.type = none ∨ s.startRequested = false → ∀ t ∈ ts, ¬ t.Attempts

/-- Where a type was found there is a first turn in which it was.

**Proof sketch.** Induction on the turns, from the last one backwards. Either the type was found
before the last turn, or the last turn found it. -/
private lemma exists_finds (found : (firstType ts).isSome) :
    ∃ before t after, ts = before ++ t :: after ∧ t.Finds before := by
  induction ts using List.reverseRecOn with
  | nil => cases found
  | append_singleton ts t ih =>
    rw [firstType_append, Option.isSome_or, Bool.or_eq_true] at found
    cases earlier : firstType ts with
    | none =>
      rw [earlier] at found
      exact ⟨ts, t, [], rfl, earlier, found.resolve_left (by simp)⟩
    | some type =>
      obtain ⟨before, t', after, rfl, finds⟩ := ih (by simp [earlier])
      exact ⟨before, t', after ++ [t], by simp, finds⟩

/-- The type is not found twice. -/
private lemma Turn.Finds.unique {before after : List Turn} {t u : Turn} (finds : t.Finds before)
    (mem : t ∈ after) (hu : u.Finds after) : False := by
  obtain ⟨b, a, rfl⟩ := List.append_of_mem mem
  have later := hu.1
  rw [← List.singleton_append, firstType_append, firstType_append, Option.or_eq_none_iff,
    Option.or_eq_none_iff] at later
  simpa [later.2.1] using finds.2

namespace Run

/-- Among resolutions an attempt is made in the one that finds the type, if a start was requested.

**Proof sketch.** What is requested is decided before, since resolutions request nothing. So an
attempt is made in the turn in which the type gets known, and not in one before or after it. -/
private lemma attempts_iff_finds {before after : List Turn} {t : Turn} {u : State}
    (run : Run name h u) (later : Run name (h ++ ts) s) (only : ∀ t ∈ ts, t.operation = .resolve)
    (split : ts = before ++ t :: after) :
    t.Attempts ↔ t.Finds (h ++ before) ∧ u.startRequested = true := by
  subst split
  have here := only t (by simp)
  have quiet : ∀ f ∈ before, f.operation = .resolve := fun f hf => only f (by simp [hf])
  have silent : ¬ Since (·.operation = .start) (·.operation = .stop) before := by
    rintro ⟨b, f, a, rfl, starts, -⟩
    rw [quiet f (by simp)] at starts
    cases starts
  have kept : ∀ f ∈ before, ¬ f.operation = .stop := fun f hf => by simp [quiet f hf]
  rw [later.attempts_iff (List.append_assoc h before (t :: after)).symm, since_append,
    run.determined.startRequested, Turn.Finds]
  simp only [here, silent, false_or, true_and, and_assoc]
  constructor
  · rintro (⟨starts, -⟩ | ⟨none, found, requested, -⟩)
    · cases starts
    · exact ⟨none, found, requested⟩
  · rintro ⟨none, found, requested⟩
    exact .inr ⟨none, found, requested, kept⟩

/-- Where the type is known resolutions do nothing.

**Proof sketch.** Induction on the turns. A resolution of what is known makes no call and leaves the
state as it is. -/
private lemma idle (run : Run name h s) (known : s.type.isSome) (later : Run name (h ++ ts) s')
    (only : ∀ t ∈ ts, t.operation = .resolve) :
    s' = s ∧ ∀ t ∈ ts, t.exchanges = [] ∧ t.result = .ok () := by
  induction ts using List.reverseRecOn generalizing s' with
  | nil =>
    rw [List.append_nil] at later
    exact ⟨later.unique run, by simp⟩
  | append_singleton ts t ih =>
    rw [← List.append_assoc] at later
    obtain ⟨u, earlier, path⟩ := later.last
    obtain ⟨rfl, quiet⟩ := ih earlier fun t' ht' => only t' (by simp [ht'])
    rw [only t (by simp)] at path
    obtain ⟨silent, fine, rfl⟩ := path.of_known known
    refine ⟨rfl, fun t' ht' => ?_⟩
    rcases List.mem_append.1 ht' with ht' | ht'
    · exact quiet t' ht'
    · obtain rfl := List.mem_singleton.1 ht'
      exact ⟨silent, fine⟩

/-- **What several resolutions do.** One of them makes the attempt that was requested, namely the
one that finds the type, and all others make none.

**Proof sketch.** If the type was unknown and was found, then it was found in some turn for the
first time, and this turn made the attempt. Another attempt would be another first time. -/
theorem pursues (run : Run name h s) (later : Run name (h ++ ts) s')
    (only : ∀ t ∈ ts, t.operation = .resolve) : Pursues s s' ts where
  only := only
  idle known := run.idle known later only
  once unknown found requested := by
    have before : firstType h = none := run.determined.type.symm.trans unknown
    have sought := later.determined.type
    rw [firstType_append, before, Option.none_or] at sought
    rw [sought] at found
    obtain ⟨b, t, a, split, finds⟩ := exists_finds found
    have early : firstType (h ++ b) = none := by rw [firstType_append, before, finds.1]; rfl
    have attempts : t.Attempts :=
      (run.attempts_iff_finds later only split).2 ⟨⟨early, finds.2⟩, requested⟩
    refine ⟨b, t, a, split, attempts, fun u hu again => ?_⟩
    -- Another attempt would be one more turn that finds the type.
    rcases List.mem_append.1 hu with hu | hu
    · obtain ⟨b', a', rfl⟩ := List.append_of_mem hu
      have parts : ts = b' ++ u :: (a' ++ t :: a) := by rw [split, List.append_assoc]; rfl
      have first := ((run.attempts_iff_finds later only parts).1 again).1
      exact first.unique (by simp) ⟨early, finds.2⟩
    · obtain ⟨b', a', rfl⟩ := List.append_of_mem hu
      have parts : ts = (b ++ t :: b') ++ u :: a' := by rw [split, List.append_assoc]; rfl
      have second := ((run.attempts_iff_finds later only parts).1 again).1
      exact finds.unique (by simp) second
  never none t ht attempts := by
    obtain ⟨b, a, split⟩ := List.append_of_mem ht
    obtain ⟨finds, requested⟩ := (run.attempts_iff_finds later only split).1 attempts
    rcases none with known | unknown | idle
    · have before := finds.1
      rw [firstType_append, ← run.determined.type, Option.or_eq_none_iff] at before
      simp [before.1] at known
    · have sought := later.determined.type
      rw [unknown, split, ← List.singleton_append, firstType_append, firstType_append,
        firstType_append] at sought
      have here := (Option.or_eq_none_iff.1 (Option.or_eq_none_iff.1
        (Option.or_eq_none_iff.1 sought.symm).2).2).1
      simpa [here] using finds.2
    · simp [idle] at requested

end Run

end Proxy

/-! ## What was found -/

/-- Whenever one of the proxies `ps` asked the resolver, it was given a type. -/
def AlwaysFound (ps : List ProxyId) (news : List Event) : Prop :=
  ∀ told ∈ conversation ps news, told.2.1.lookup?.isSome → told.2.handle?.isSome

/-- Whether all look-ups of a journal found their type can be read off it, event by event. -/
instance {ps : List ProxyId} : DecidablePred (AlwaysFound ps) := fun news =>
  inferInstanceAs (Decidable (∀ told ∈ conversation ps news, _ → _))

/-- What was always found was always found on each part of the way. -/
private lemma AlwaysFound.parts {ps : List ProxyId} {news later : List Event}
    (found : AlwaysFound ps (later ++ news)) : AlwaysFound ps later ∧ AlwaysFound ps news := by
  simp only [AlwaysFound, conversation_append, List.forall_mem_append] at found
  exact ⟨found.2, found.1⟩

/-- A resolution that reports that the type was not found was told so. -/
private lemma Proxy.OperationPath.of_notFound {name : String} {s s' : State} {es : List Exchange}
    {e : NotFound} (path : OperationPath name .resolve s es (.error (.notFound e), s')) :
    es = [⟨.resolve name, .error e⟩] := by
  generalize ho : ((.error (.notFound e), s') : Outcome) = o at path
  cases path with
  | known | found => cases ho
  | missing => cases ho; rfl
  | foundPending _ _ tried => exact absurd (congrArg Prod.fst ho).symm (tried.ne_notFound e)

/-- Several initializations of the registry, one after the other. -/
def Registry.again (r : RegistryId) (k : Nat) : Activity σ (List (Except ProxyError Unit)) :=
  Activity.each (fun _ : Unit => resolveAll r) (List.replicate k ())

namespace World

variable {w v w' : World σ} {p q : ProxyId} {r : RegistryId} {proxy : Proxy} {bound : Nat}
  {ps : List ProxyId} {news : List Event} {result : Except ProxyError Unit}
  {results : List (Except ProxyError Unit)}

/-! ## One resolution -/

/-- Between the two worlds the proxy was resolved, any number of times, and nothing else was done to
it. -/
def OnlyResolved (q : ProxyId) (w w' : World σ) : Prop :=
  ∃ ts, (w'.chronicle q).turns = (w.chronicle q).turns ++ ts ∧ ∀ t ∈ ts, t.operation = .resolve

/-- Where nothing happens a proxy was at most resolved. -/
private lemma OnlyResolved.refl (q : ProxyId) (w : World σ) : OnlyResolved q w w :=
  ⟨[], by simp, by simp⟩

/-- If a proxy was at most resolved in each of two stretches, then it was in both together. -/
private lemma OnlyResolved.trans {u : World σ} (h : OnlyResolved q u v) (h' : OnlyResolved q v w) :
    OnlyResolved q u w := by
  obtain ⟨ts, turns, only⟩ := h
  obtain ⟨ts', turns', only'⟩ := h'
  exact ⟨ts ++ ts', by rw [turns', turns, List.append_assoc],
    List.forall_mem_append.2 ⟨only, only'⟩⟩

/-- The chronicle of a proxy to which nothing happened is the same. -/
private lemma chronicle_of_quiet (happened : w'.journal = news ++ w.journal)
    (quiet : ∀ e ∈ news, ¬ e.IsOf q) : w'.chronicle q = w.chronicle q := by
  rw [chronicle, happened, chronicle]
  clear happened
  induction news with
  | nil => rfl
  | cons e news ih =>
    obtain ⟨others, quiet⟩ := List.forall_mem_cons.1 quiet
    rw [List.cons_append, Chronicle.ofJournal_cons, Chronicle.note_of_not_isOf others, ih quiet]

/-- A resolution is a turn of its proxy, and of no other if everyone keeps aloof.

**Proof sketch.** The proxy itself has one turn more, which is a resolution. The others are quiet if
everyone keeps aloof. -/
private lemma onlyResolved_operate (coherent : w.Coherent) (hp : p ∈ ps)
    (known : ∀ q ∈ ps, ∃ proxy, w.proxy? q = some proxy)
    (h : operate (perform H bound) H p .resolve w = .ok (result, w'))
    (happened : w'.journal = news ++ w.journal) (aloof : Aloof r ps news) (hq : q ∈ ps) :
    OnlyResolved q w w' := by
  obtain ⟨proxy, there⟩ := known q hq
  by_cases hqp : q = p
  · subst hqp
    exact ⟨_, turns_operate coherent there h, by simp⟩
  · obtain ⟨-, quiet⟩ := quiet_of_aloof hp h happened aloof hq hqp there
    rw [OnlyResolved, chronicle_of_quiet happened quiet]
    exact ⟨[], by simp, by simp⟩

/-- Where everything is found no resolution reports otherwise. -/
private lemma ne_notFound_of_operate (hp : p ∈ ps)
    (known : ∀ q ∈ ps, ∃ proxy, w.proxy? q = some proxy)
    (h : operate (perform H bound) H p .resolve w = .ok (result, w'))
    (happened : w'.journal = news ++ w.journal) (aloof : Aloof r ps news)
    (found : AlwaysFound ps news) (e : NotFound) : result ≠ .error (.notFound e) := by
  rintro rfl
  obtain ⟨proxy, there⟩ := known p hp
  obtain ⟨state, -, path⟩ := operate_path there h
  have told := conversation_of_aloof hp known h happened aloof
  rw [path.of_notFound] at told
  have given := found (p, ⟨.resolve proxy.name, .error e⟩) (by simp [told]) rfl
  cases given

/-- Where the type is known, a resolution of an idle proxy does nothing.

**Proof sketch.** The dialogue of the resolution ends at once and gives the state back that it was
given. So the proxy is put where it was, and only the journal grew. -/
private lemma operate_of_known (known : w.proxy? p = some proxy) (idle : proxy.busy = false)
    (found : proxy.state.type.isSome) : operate (perform H bound) H p .resolve w =
      .ok (.ok (), w.told ([.ended p .resolve (.ok ()), .began p .resolve] ++ w.journal)) := by
  have finished : Proxy.Operation.resolve.talk proxy.name proxy.state =
      .done (.ok (), proxy.state) := by
    obtain ⟨type, htype⟩ := Option.isSome_iff_exists.1 found
    rw [Proxy.Operation.talk, Proxy.resolve]
    simp only [htype]
    rfl
  have same := congrArg
    (·.told ([.ended p .resolve (.ok ()), .began p .resolve] ++ w.journal)) (disguised_self known)
  rw [operate_eq_conclude known idle, finished, conclude_done, disguised_disguised, ← same]
  rfl

/-! ## One initialization -/

/-- All components of the registry are resolved, and no operation on any of them is under way. -/
def Complete (r : RegistryId) (w : World σ) : Prop :=
  ∀ e ∈ w.entriesOf r, ∃ proxy, w.proxy? e.proxy = some proxy ∧ proxy.busy = false ∧
    proxy.state.type.isSome

/-- What one initialization of the registry does, with the result that it has, on the way from `w`
to `v`. -/
structure Advances (r : RegistryId) (w v : World σ) (result : Except ProxyError Unit) : Prop where
  entries : v.entriesOf r = w.entriesOf r
  /-- Nothing happens to what is resolved. -/
  kept : ∀ e ∈ w.entriesOf r, w.unresolved e = false → v.proxy? e.proxy = w.proxy? e.proxy
  /-- The components are resolved, and nothing else is done to them. -/
  only : ∀ q ∈ w.members r, OnlyResolved q w v
  /-- A failure resolves one component at least. -/
  fails : ∀ err, result = .error err →
    ∃ e ∈ w.entriesOf r, w.unresolved e = true ∧ v.unresolved e = false
  /-- A success resolves all. -/
  succeeds : result = .ok () → Complete r v

section Pass

variable {todo : List Entry}

/-- Going through entries resolves their proxies and does nothing else to any of `ps`; it does not
report that a name was not found; and if it is successful none of the proxies is busy.

**Proof sketch.** Induction on the entries. -/
private lemma resolving_ends (coherent : w.Coherent) (members : ∀ e ∈ todo, e.proxy ∈ ps)
    (known : ∀ q ∈ ps, ∃ proxy, w.proxy? q = some proxy)
    (h : (resolving todo).run (perform H (bound + 1)) w = .ok (result, w'))
    (happened : w'.journal = news ++ w.journal) (aloof : Aloof r ps news)
    (found : AlwaysFound ps news) :
    (∀ q ∈ ps, OnlyResolved q w w') ∧ (∀ e, result ≠ .error (.notFound e)) ∧
      (result = .ok () → ∀ e ∈ todo, ∃ proxy, w'.proxy? e.proxy = some proxy ∧
        proxy.busy = false) := by
  induction todo generalizing w news with
  | nil =>
    obtain ⟨rfl, rfl⟩ : .ok () = result ∧ w = w' := by
      simpa [resolving, Activity.untilFailure, pure, Activity.run] using h
    exact ⟨fun q _ => .refl q w, by simp, by simp⟩
  | cons e todo ih =>
    obtain ⟨first, v, hfirst, h⟩ := resolving_cons_ok h
    have member : e.proxy ∈ ps := members e (by simp)
    rcases h with ⟨err, rfl, rfl, rfl⟩ | ⟨rfl, h⟩
    · exact ⟨fun q hq => onlyResolved_operate coherent member known hfirst happened aloof hq,
        ne_notFound_of_operate member known hfirst happened aloof found, by simp⟩
    · have closed := frames_closed H e.proxy
      obtain ⟨earlier, hv, -⟩ := closed.operate closed.perform hfirst
      obtain ⟨later, hw', -⟩ := closed.toSilent.run closed.perform h
      obtain rfl : news = later ++ earlier :=
        List.append_cancel_right (happened.symm.trans (journal_trans hv hw'))
      have respects := (respects_closed H).operate (respects_closed H).perform hfirst
      have persists := (persists_stepwise H).toClosed.operate (persists_stepwise H).toClosed.perform
        hfirst
      obtain ⟨only, honest, idle⟩ := ih (respects.coherent coherent)
        (fun e' he' => members e' (by simp [he']))
        (fun q hq => by
          obtain ⟨proxy, there⟩ := known q hq
          obtain ⟨proxy', there', -⟩ := persists.proxy q proxy there
          exact ⟨proxy', there'⟩)
        h hw' aloof.parts.1 found.parts.1
      refine ⟨fun q hq => ?_, honest, fun fine => List.forall_mem_cons.2 ⟨?_, idle fine⟩⟩
      · exact (onlyResolved_operate coherent member known hfirst hv aloof.parts.2 hq).trans
          (only q hq)
      · obtain ⟨proxy, -, -, there, free, -, -⟩ := operate_ok hfirst
        obtain ⟨state, left, -⟩ := operate_path there hfirst
        obtain ⟨proxy', there', same⟩ :=
          (settles_silent _).run (settles_closed H e.proxy).perform h _ left
        exact ⟨proxy', there', same.trans free⟩

/-- Where everything is resolved, going through entries does nothing.

**Proof sketch.** Induction on the entries. The resolution of the first one leaves the world as it
was but for the journal, so all others are resolved still. -/
lemma resolving_of_complete
    (complete : ∀ e ∈ todo, ∃ proxy, w.proxy? e.proxy = some proxy ∧ proxy.busy = false ∧
      proxy.state.type.isSome) :
    ∃ notes, (∀ n ∈ notes, ∃ e ∈ todo, n.brackets e.proxy = true) ∧
      (resolving todo).run (perform H (bound + 1)) w =
        .ok (.ok (), w.told (notes ++ w.journal)) := by
  induction todo generalizing w with
  | nil => exact ⟨[], by simp, rfl⟩
  | cons e todo ih =>
    obtain ⟨⟨proxy, known, idle, found⟩, complete⟩ := List.forall_mem_cons.1 complete
    let own : List Event := [.ended e.proxy .resolve (.ok ()), .began e.proxy .resolve]
    have first : perform H (bound + 1) (.operate e.proxy .resolve) w =
        .ok (.ok (), w.told (own ++ w.journal)) := operate_of_known known idle found
    obtain ⟨notes, noted, later⟩ := ih (w := w.told (own ++ w.journal)) complete
    refine ⟨notes ++ own, List.forall_mem_append.2 ⟨fun n hn => ?_, by simp [own]⟩, ?_⟩
    · obtain ⟨e', he', brackets⟩ := noted n hn
      exact ⟨e', by simp [he'], brackets⟩
    · rw [resolving_cons, List.append_assoc]
      exact (Activity.run_call first).trans later

end Pass

/-- To initialize a registry is to go through its entries. -/
private lemma run_resolveAll {registry : Registry} (registered : w.registry? r = some registry) :
    (Registry.resolveAll r).run (perform H bound) w =
      (resolving (w.entriesOf r)).run (perform H bound) w := by
  rw [entriesOf_eq registered]
  exact Activity.run_call (perform_entries H bound registered)

/-- Whether an entry is unresolved is read off the state of its proxy. -/
private lemma unresolved_eq {e : Entry} (known : w.proxy? e.proxy = some proxy) :
    w.unresolved e = proxy.state.type.isNone := by
  simp [unresolved, known]

/-- Going through a prefix of the entries leaves what is resolved as it is.

**Proof sketch.** An entry that was not visited is untouched. One that was visited without a failure
is filled, which changes nothing where it was resolved; and one that failed was not resolved. -/
private lemma Initializes.kept {done rest : List Entry} {e : Entry}
    (initializes : Initializes r (w.members r) (w.entriesOf r) w v news result done rest)
    (he : e ∈ w.entriesOf r) (resolved : w.unresolved e = false) :
    v.proxy? e.proxy = w.proxy? e.proxy := by
  by_cases visited : e.proxy ∈ (done ++ rest.take 1).map Entry.proxy
  · obtain ⟨e', he', same⟩ := List.mem_map.1 visited
    rcases List.mem_append.1 he' with hdone | hrest
    · obtain ⟨proxy, state, known, left, filled⟩ := initializes.filled e' hdone
      rw [same] at known left
      rw [unresolved_eq known, Option.isNone_eq_false_iff] at resolved
      rw [left, known, filled.kept resolved]
    · cases rest with
      | nil => cases hrest
      | cons f after =>
        obtain rfl : e' = f := by simpa using hrest
        obtain ⟨err, -, proxy, state, known, -, stuck⟩ := initializes.failed e' after rfl
        rw [same] at known
        simp [unresolved_eq known, stuck.unresolved] at resolved
  · exact initializes.untouched e.proxy (List.mem_map_of_mem he) visited

/-- **What one initialization does**, where everything is found and all others keep aloof.

**Proof sketch.** The initialization goes through a prefix of the entries and meets a failure at the
next one, if at any. Where everything is found a failure comes from a start, and so the entry is
resolved now. -/
private lemma advances_of_aloof {registry : Registry} (kept : w.Kept) (coherent : w.Coherent)
    (registered : w.registry? r = some registry)
    (h : (Registry.resolveAll r).run (perform H (bound + 1)) w = .ok (result, v))
    (happened : v.journal = news ++ w.journal) (aloof : Aloof r (w.members r) news)
    (found : AlwaysFound (w.members r) news) : Advances r w v result := by
  rw [run_resolveAll registered] at h
  have members : ∀ e ∈ w.entriesOf r, e.proxy ∈ w.members r := fun e he => List.mem_map_of_mem he
  have known : ∀ q ∈ w.members r, ∃ proxy, w.proxy? q = some proxy := by
    intro q hq
    obtain ⟨e, he, rfl⟩ := List.mem_map.1 hq
    obtain ⟨proxy, -, known, -⟩ := kept.known r e he
    exact ⟨proxy, known⟩
  obtain ⟨done, rest, initializes⟩ := initializes_of_aloof members (kept.nodup_members r) known
    (fun e he proxy hp => kept.name_eq he hp) h happened aloof
  obtain ⟨only, honest, idle⟩ := resolving_ends coherent members known h happened aloof found
  refine {
    entries := initializes.entries
    kept := fun e he resolved => initializes.kept he resolved
    only := only
    fails := fun err failed => ?fails
    succeeds := fun fine e he => ?succeeds }
  case fails =>
    cases rest with
    | nil => cases failed.symm.trans (initializes.complete rfl)
    | cons e after =>
      obtain ⟨err', same, proxy, state, known, left, stuck⟩ := initializes.failed e after rfl
      -- The name was found, so what failed is the start, and that leaves the type known.
      have known' : state.type.isSome := by
        rcases stuck.cause with ⟨-, missing, rfl⟩ | ⟨-, known', -⟩
        · exact absurd same (honest missing)
        · exact known'
      have he : e ∈ w.entriesOf r := by simp [initializes.split]
      exact ⟨e, he, by simp [unresolved_eq known, stuck.unresolved],
        by simpa [unresolved_eq left] using known'⟩
  case succeeds =>
    cases rest with
    | nil =>
      rw [initializes.entries] at he
      obtain ⟨proxy', there, free⟩ := idle fine e he
      rw [initializes.split, List.append_nil] at he
      obtain ⟨proxy, state, -, left, filled⟩ := initializes.filled e he
      obtain rfl : proxy' = { proxy with state } := Option.some.inj (there.symm.trans left)
      exact ⟨_, left, free, filled.resolved⟩
    | cons f after =>
      obtain ⟨err, failed, -⟩ := initializes.failed f after rfl
      cases failed.symm.trans fine

/-! ## Several initializations -/

/-- The entries of the registry whose proxies are unresolved. -/
def unresolvedIn (w : World σ) (r : RegistryId) : List Entry := (w.entriesOf r).filter w.unresolved

namespace Advances

/-- What is resolved stays resolved. -/
private lemma unresolvedIn_eq (advances : Advances r w v result) :
    v.unresolvedIn r = (w.unresolvedIn r).filter v.unresolved := by
  rw [unresolvedIn, unresolvedIn, advances.entries, List.filter_filter]
  refine List.filter_congr fun e he => ?_
  cases before : w.unresolved e with
  | true => simp
  | false => simp [← before, unresolved, advances.kept e he before]

/-- After an initialization that fails fewer entries are unresolved. -/
private lemma length_lt {err : ProxyError} (advances : Advances r w v (.error err)) :
    (v.unresolvedIn r).length < (w.unresolvedIn r).length := by
  obtain ⟨e, he, before, after⟩ := advances.fails err rfl
  rw [advances.unresolvedIn_eq, List.length_filter_lt_length_iff_exists]
  exact ⟨e, List.mem_filter.2 ⟨he, before⟩, by simp [after]⟩

/-- Once all components are resolved they stay so. -/
private lemma complete (advances : Advances r w v result)
    (complete : Complete r w) : Complete r v := by
  intro e he
  rw [advances.entries] at he
  obtain ⟨proxy, known, idle, found⟩ := complete e he
  have resolved : w.unresolved e = false := by simpa [unresolved_eq known] using found
  exact ⟨proxy, (advances.kept e he resolved).trans known, idle, found⟩

end Advances

/-- Where all components are resolved none is left. -/
private lemma Complete.unresolvedIn (complete : Complete r w) : w.unresolvedIn r = [] := by
  refine List.filter_eq_nil_iff.2 fun e he => ?_
  obtain ⟨proxy, known, -, found⟩ := complete e he
  rw [unresolved_eq known, Option.isNone_eq_false_iff.2 found]
  simp

/-- Initializations with these results, one after the other, lead from one world to the other, and
each of them does what an initialization does. -/
inductive Rounds (H : Host σ) (bound : Nat) (r : RegistryId) :
    World σ → List (Except ProxyError Unit) → World σ → Prop
  | nil (w : World σ) : Rounds H bound r w [] w
  | cons {w v u : World σ} {x : Except ProxyError Unit} {xs : List (Except ProxyError Unit)}
    (first : (Registry.resolveAll r).perform H bound w = .ok (x, v)) (advances : Advances r w v x)
    (later : Rounds H bound r v xs u) : Rounds H bound r w (x :: xs) u

namespace Rounds

/-- Through all rounds the entries are the same and their proxies are resolved only. -/
private lemma only (rounds : Rounds H bound r w results w') :
    w'.entriesOf r = w.entriesOf r ∧ ∀ q ∈ w.members r, OnlyResolved q w w' := by
  induction rounds with
  | nil w => exact ⟨rfl, fun q _ => .refl q w⟩
  | cons _ advances _ ih =>
    refine ⟨ih.1.trans advances.entries, fun q hq => (advances.only q hq).trans (ih.2 q ?_)⟩
    rwa [members, advances.entries]

/-- Once all components are resolved there are no more failures, and they stay resolved. -/
private lemma of_complete (rounds : Rounds H bound r w results w') (complete : Complete r w) :
    results = List.replicate results.length (.ok ()) ∧ Complete r w' := by
  induction rounds with
  | nil => exact ⟨rfl, complete⟩
  | @cons w v u x xs _ advances _ ih =>
    rcases x with err | ⟨⟩
    -- A failure would leave fewer unresolved, and there is none.
    · have fewer := advances.length_lt
      simp [complete.unresolvedIn] at fewer
    · obtain ⟨fine, left⟩ := ih (advances.complete complete)
      exact ⟨by rw [List.length_cons, List.replicate_succ, ← fine], left⟩

/-- **Failures come first, and there are no more of them than unresolved entries.**

**Proof sketch.** Induction on the rounds. A failure leaves fewer entries unresolved, and after a
success none is left. -/
theorem failures (rounds : Rounds H bound r w results w') : ∃ (errs : List ProxyError) (n : Nat),
    results = errs.map .error ++ List.replicate n (.ok ()) ∧
      errs.length + (w'.unresolvedIn r).length ≤ (w.unresolvedIn r).length ∧
      (0 < n → Complete r w') := by
  induction rounds with
  | nil => exact ⟨[], 0, rfl, by simp, by simp⟩
  | @cons w v u x xs _ advances later ih =>
    rcases x with err | ⟨⟩
    · obtain ⟨errs, n, rfl, bounded, complete⟩ := ih
      have fewer := advances.length_lt
      exact ⟨err :: errs, n, rfl, by rw [List.length_cons]; omega, complete⟩
    · obtain ⟨fine, complete⟩ := later.of_complete (advances.succeeds rfl)
      refine ⟨[], xs.length + 1, ?_, ?_, fun _ => complete⟩
      · rw [List.replicate_succ, ← fine]
        rfl
      · simp [complete.unresolvedIn]

end Rounds

section Series

variable {registry : Registry} {k : Nat}

/-- One more initialization comes before the others.

**Proof sketch.** By definition, after the first initialization returned or did not. -/
lemma again_succ : (Registry.again r (k + 1)).run (perform H bound) w =
    match (Registry.resolveAll r).run (perform H bound) w with
    | .error halt => .error halt
    | .ok (x, v) =>
      match (Registry.again r k).run (perform H bound) v with
      | .error halt => .error halt
      | .ok (xs, u) => .ok (x :: xs, u) := by
  rw [Registry.again, Registry.again, List.replicate_succ, Activity.run_each_cons]
  cases (Registry.resolveAll r).run (perform H bound) w with
  | error halt => rfl
  | ok outcome =>
    dsimp only
    cases (Activity.each (fun _ : Unit => Registry.resolveAll r) (List.replicate k ())).run
      (perform H bound) outcome.2 <;> rfl

/-- If several initializations return, then the first does and so do the others. -/
private lemma again_succ_ok
    (h : (Registry.again r (k + 1)).run (perform H bound) w = .ok (results, w')) :
    ∃ x xs v, results = x :: xs ∧ (Registry.resolveAll r).run (perform H bound) w = .ok (x, v) ∧
      (Registry.again r k).run (perform H bound) v = .ok (xs, w') := by
  rw [again_succ] at h
  split at h
  · cases h
  next x v first =>
    split at h
    · cases h
    next xs u others =>
      obtain ⟨rfl, rfl⟩ := Prod.mk.inj (Except.ok.inj h)
      exact ⟨x, xs, v, rfl, first, others⟩

/-- If several initializations do not return, then the first does not, or the others do not after
it. -/
private lemma again_succ_error {halt : Halt}
    (h : (Registry.again r (k + 1)).run (perform H bound) w = .error halt) :
    (Registry.resolveAll r).run (perform H bound) w = .error halt ∨
      ∃ x v, (Registry.resolveAll r).run (perform H bound) w = .ok (x, v) ∧
        (Registry.again r k).run (perform H bound) v = .error halt := by
  rw [again_succ] at h
  split at h
  next halt' first =>
    obtain rfl := Except.error.inj h
    exact .inl first
  next x v first =>
    split at h
    next halt' others =>
      obtain rfl := Except.error.inj h
      exact .inr ⟨x, v, first, others⟩
    next => cases h

/-- There are as many results as initializations. -/
private lemma length_again (h : (Registry.again r k).run (perform H bound) w = .ok (results, w')) :
    results.length = k := by
  induction k generalizing w results with
  | zero =>
    obtain ⟨rfl, -⟩ := Prod.mk.inj (Except.ok.inj h)
    rfl
  | succ k ih =>
    obtain ⟨x, xs, v, rfl, -, others⟩ := again_succ_ok h
    rw [List.length_cons, ih others]

/-- Several initializations are rounds, if everything is found and all others keep aloof.

**Proof sketch.** Induction on their number. Between two of them the registries are in order, as in
every world that a run goes through. -/
private lemma rounds_of_aloof (kept : w.Kept) (coherent : w.Coherent)
    (registered : w.registry? r = some registry)
    (h : (Registry.again r k).run (perform H (bound + 1)) w = .ok (results, w'))
    (happened : w'.journal = news ++ w.journal) (aloof : Aloof r (w.members r) news)
    (found : AlwaysFound (w.members r) news) : Rounds H (bound + 1) r w results w' := by
  induction k generalizing w registry news results with
  | zero =>
    obtain ⟨rfl, rfl⟩ := Prod.mk.inj (Except.ok.inj h)
    exact .nil w
  | succ k ih =>
    obtain ⟨x, xs, v, rfl, first, others⟩ := again_succ_ok h
    have continues := leaves_closed H r
    obtain ⟨earlier, hv, -⟩ := continues.toSilent.run continues.perform first
    obtain ⟨later, hu, -⟩ := continues.toSilent.run continues.perform others
    obtain rfl : news = later ++ earlier :=
      List.append_cancel_right (happened.symm.trans (journal_trans hv hu))
    have advances := advances_of_aloof kept coherent registered first hv aloof.parts.2 found.parts.2
    have keeping := keeping_silent.run (keeping_stepwise H).toClosed.perform first
    have respects := respects_silent.run (respects_closed H).perform first
    obtain ⟨registry', registered', -⟩ := keeping.persists.registry r registry registered
    have same : v.members r = w.members r := congrArg (List.map Entry.proxy) advances.entries
    exact .cons first advances (ih (keeping.kept kept) (respects.coherent coherent) registered'
      others hu (same ▸ aloof.parts.1) (same ▸ found.parts.1))

/-- If several initializations do not return, then some of them do, and in the next one a resolution
is hindered.

**Proof sketch.** Induction on the number of initializations. If the first one does not return, then
no other has been made and some resolution in it is hindered. If it returns, then registries are in
order in the world that it leaves, and the others do not return from there. -/
private lemma again_halts {halt : Halt} (kept : w.Kept) (registered : w.registry? r = some registry)
    (h : (Registry.again r k).run (perform H (bound + 1)) w = .error halt) :
    ∃ i results v, i < k ∧ (Registry.again r i).run (perform H (bound + 1)) w = .ok (results, v) ∧
      (Registry.resolveAll r).run (perform H (bound + 1)) v = .error halt ∧
      ∃ e ∈ v.entriesOf r, Hindered H bound e.proxy v
        ((resolving (v.entriesOf r)).Passes (perform H (bound + 1)) (Inside H (bound + 1)) v)
          halt := by
  induction k generalizing w registry with
  | zero => cases h
  | succ k ih =>
    rcases again_succ_error h with first | ⟨x, v, first, others⟩
    · refine ⟨0, [], w, k.succ_pos, rfl, first, ?_⟩
      rw [run_resolveAll registered] at first
      refine resolving_halts (fun e he => ?_) first
      obtain ⟨proxy, -, known, -⟩ := kept.known r e he
      exact ⟨proxy, known⟩
    · have keeping := keeping_silent.run (keeping_stepwise H).toClosed.perform first
      obtain ⟨registry', registered', -⟩ := keeping.persists.registry r registry registered
      obtain ⟨i, xs, u, less, some, stuck, hindered⟩ := ih (keeping.kept kept) registered' others
      refine ⟨i + 1, x :: xs, u, by omega, ?_, stuck, hindered⟩
      rw [again_succ, first]
      dsimp only
      rw [some]

/-- Once all components are resolved they stay so, whatever is done, as long as nothing is
registered and the registry is not reset.

**Proof sketch.** The entries are the same, the proxies are as busy as they were, and their
histories only grow. -/
private lemma Complete.run {α : Type} {a : Activity σ α} {x : α} (complete : Complete r w)
    (coherent : w.Coherent) (h : a.run (perform H bound) w = .ok (x, v))
    (happened : v.journal = news ++ w.journal) (unaltered : ∀ e ∈ news, ¬ e.Alters r) :
    Complete r v := by
  intro e he
  obtain ⟨news', happened', left⟩ := (leaves_silent r).run (leaves_closed H r).perform h
  obtain rfl : news = news' := List.append_cancel_right (happened.symm.trans happened')
  rw [left unaltered] at he
  obtain ⟨proxy, known, idle, found⟩ := complete e he
  obtain ⟨proxy', known', same⟩ :=
    (settles_silent e.proxy).run (settles_closed H e.proxy).perform h proxy known
  refine ⟨proxy', known', same.trans idle, ?_⟩
  have respects := respects_silent.run (respects_closed H).perform h
  have before := (coherent.agrees e.proxy proxy known).run
  have after := ((respects.coherent coherent).agrees e.proxy proxy' known').run
  obtain ⟨ts, grown⟩ : (w.chronicle e.proxy).turns <+: (v.chronicle e.proxy).turns := by
    rw [World.chronicle, World.chronicle, happened]
    exact Chronicle.turns_append news
  rw [after.determined.type, ← grown, Proxy.firstType_append, ← before.determined.type,
    Option.isSome_or, found, Bool.true_or]

end Series

/-! ## Convergence -/

/-- An initialization of the registry is successful here and does nothing: no call of a collaborator
is made, and but for the journal the world is the same. -/
def Quiescent (H : Host σ) (r : RegistryId) (w : World σ) : Prop :=
  ∀ bound, ∃ notes, (∀ n ∈ notes, ∃ p ∈ w.members r, n.brackets p = true) ∧
    (Registry.resolveAll r).perform H (bound + 1) w = .ok (.ok (), w.told (notes ++ w.journal))

/-- Initialization does nothing where all components are resolved. -/
private lemma Complete.quiescent {registry : Registry} (complete : Complete r w)
    (registered : w.registry? r = some registry) : Quiescent H r w := by
  intro bound
  obtain ⟨notes, noted, run⟩ := resolving_of_complete complete
  refine ⟨notes, fun n hn => ?_, (run_resolveAll registered).trans run⟩
  obtain ⟨e, he, brackets⟩ := noted n hn
  exact ⟨e.proxy, List.mem_map_of_mem he, brackets⟩

/-- How `k` initializations of the registry end, one after the other, that lead from `w` to `w'`
with these results. -/
structure Converges (H : Host σ) (bound : Nat) (r : RegistryId) (k : Nat) (w w' : World σ)
    (results : List (Except ProxyError Unit)) : Prop where
  /-- Each of them does what an initialization does: if it fails, then it resolves another
  component. -/
  rounds : Rounds H bound r w results w'
  /-- Failures come first, and there are no more of them than components that were unresolved. -/
  failures : ∃ (errs : List ProxyError) (n : Nat), errs.length + n = k ∧
    results = errs.map .error ++ List.replicate n (.ok ()) ∧
      errs.length + (w'.unresolvedIn r).length ≤ (w.unresolvedIn r).length
  /-- As many initializations later as components were unresolved, all are successful. -/
  soon : ∀ i, (w.unresolvedIn r).length ≤ i → i < k → results[i]? = some (.ok ())
  /-- In all of them together the components are resolved and nothing else, and every start that was
  requested is attempted once. -/
  attempts : ∀ e ∈ w.entriesOf r, ∃ proxy proxy' ts,
    w.proxy? e.proxy = some proxy ∧ w'.proxy? e.proxy = some proxy' ∧
      (w'.chronicle e.proxy).turns = (w.chronicle e.proxy).turns ++ ts ∧
      Proxy.Pursues proxy.state proxy'.state ts ∧ (.ok () ∈ results → proxy'.state.type.isSome)
  /-- From the first success on initialization does nothing, whatever is done, until something is
  registered or the registry is reset. -/
  afterwards : .ok () ∈ results → ∀ {α : Type} (a : Activity σ α) (b : Nat) (x : α) (v : World σ)
    (later : List Event), a.perform H b w' = .ok (x, v) → v.journal = later ++ w'.journal →
      (∀ e ∈ later, ¬ e.Alters r) → Quiescent H r v

section Main

variable {registry : Registry} {k : Nat}

/-- What the rounds did to a proxy of the registry.

**Proof sketch.** The proxy is known before and after, since proxies persist. Its turns make a run
at both moments, and by assumption the new ones are resolutions alone. The rest is what such a run
does to a state. -/
private lemma Rounds.pursues (rounds : Rounds H bound r w results w') (kept : w.Kept)
    (coherent : w.Coherent) (coherent' : w'.Coherent) (persists : Persists w w') {e : Entry}
    (he : e ∈ w.entriesOf r) : ∃ proxy proxy' ts,
      w.proxy? e.proxy = some proxy ∧ w'.proxy? e.proxy = some proxy' ∧
        (w'.chronicle e.proxy).turns = (w.chronicle e.proxy).turns ++ ts ∧
        Proxy.Pursues proxy.state proxy'.state ts := by
  obtain ⟨proxy, -, known, -⟩ := kept.known r e he
  obtain ⟨proxy', known', hname, -⟩ := persists.proxy e.proxy proxy known
  obtain ⟨ts, turns, only⟩ := rounds.only.2 e.proxy (List.mem_map_of_mem he)
  have before := (coherent.agrees e.proxy proxy known).run
  have after := (coherent'.agrees e.proxy proxy' known').run
  rw [turns, hname] at after
  exact ⟨proxy, proxy', ts, known, known', turns, before.pursues after only⟩

/-- Rounds converge.

**Proof sketch.** The failures come first and the successes last, which gives the split of the
results. Once there is a success the registry is complete, and it stays so as long as nobody alters
it. What each proxy went through is `Rounds.pursues`. -/
private lemma Rounds.converges (rounds : Rounds H (bound + 1) r w results w') (kept : w.Kept)
    (coherent : w.Coherent) (registered : w.registry? r = some registry)
    (h : (Registry.again r k).run (perform H (bound + 1)) w = .ok (results, w')) :
    Converges H (bound + 1) r k w w' results := by
  obtain ⟨errs, n, split, bounded, complete⟩ := rounds.failures
  have number : errs.length + n = k := by
    rw [← length_again h, split, List.length_append, List.length_map, List.length_replicate]
  have complete : .ok () ∈ results → Complete r w' := by
    intro fine
    rw [split, List.mem_append, List.mem_replicate] at fine
    rcases fine with fine | ⟨some, -⟩
    · obtain ⟨err, -, absurd⟩ := List.mem_map.1 fine
      cases absurd
    · exact complete (Nat.pos_of_ne_zero some)
  have persists := persists_silent.run (persists_stepwise H).toClosed.perform h
  have respects := respects_silent.run (respects_closed H).perform h
  have coherent' := respects.coherent coherent
  refine {
    rounds := rounds
    failures := ⟨errs, n, number, split, bounded⟩
    soon := fun i late less => ?soon
    attempts := fun e he => ?attempts
    afterwards := fun fine {α} a b x v later run happened unaltered => ?afterwards }
  case soon =>
    rw [split, List.getElem?_append_right (by rw [List.length_map]; omega),
      List.getElem?_replicate_of_lt (by rw [List.length_map]; omega)]
  case attempts =>
    obtain ⟨proxy, proxy', ts, known, known', turns, pursues⟩ :=
      rounds.pursues kept coherent coherent' persists he
    refine ⟨proxy, proxy', ts, known, known', turns, pursues, fun fine => ?_⟩
    rw [← rounds.only.1] at he
    obtain ⟨proxy'', there, -, found⟩ := complete fine e he
    obtain rfl := Option.some.inj (known'.symm.trans there)
    exact found
  case afterwards =>
    obtain ⟨registry', registered', -⟩ := persists.registry r registry registered
    obtain ⟨_, registered'', -⟩ := (persists_silent.run (persists_stepwise H).toClosed.perform
      run).registry r registry' registered'
    exact ((complete fine).run coherent' run happened unaltered).quiescent registered''

/-- **Initialization converges.** A registry is initialized `k` times, from any world that a run
goes through. Either one of these initializations does not return, because a resolution is hindered:
an operation on that proxy was under way already, or a call of a collaborator does not return. Or
all of them return; and if the collaborators kept aloof from the registry and its proxies, and the
resolver found every name that it was asked for, then each failure resolved another component, there
are no more failures than components that were unresolved, every start that was requested is
attempted once, and from the first success on there is nothing more to do.

**Proof sketch.** Each initialization is a round, and a failure leaves fewer components unresolved.
What was done to a proxy is read off its history, which is one of resolutions. -/
theorem initialization_converges (reachable : Reachable H w)
    (registered : w.registry? r = some registry) (bound k : Nat) :
    (∃ halt, (Registry.again r k).perform H (bound + 1) w = .error halt ∧
      ∃ i results v, i < k ∧ (Registry.again r i).perform H (bound + 1) w = .ok (results, v) ∧
      (Registry.resolveAll r).perform H (bound + 1) v = .error halt ∧
      ∃ e ∈ v.entriesOf r, Hindered H bound e.proxy v
        ((resolving (v.entriesOf r)).Passes (perform H (bound + 1)) (Inside H (bound + 1)) v)
          halt) ∨
    ∃ results w' news, (Registry.again r k).perform H (bound + 1) w = .ok (results, w') ∧
      w'.journal = news ++ w.journal ∧ (Aloof r (w.members r) news →
        AlwaysFound (w.members r) news → Converges H (bound + 1) r k w w' results) := by
  have kept := reachable.kept
  have coherent := reachable.coherent
  cases h : (Registry.again r k).run (perform H (bound + 1)) w with
  | error halt =>
    obtain ⟨i, results, v, less, some, stuck, hindered⟩ := again_halts kept registered h
    exact .inl ⟨halt, h, i, results, v, less, some, stuck, hindered⟩
  | ok outcome =>
    obtain ⟨results, w'⟩ := outcome
    obtain ⟨news, happened, -⟩ := (leaves_silent r).run (leaves_closed H r).perform h
    refine .inr ⟨results, w', news, h, happened, fun aloof found => ?_⟩
    exact (rounds_of_aloof kept coherent registered h happened aloof found).converges kept coherent
      registered h

/-- The failure that the start of a component reports where none starts. -/
def tooEarly (name : String) : Except ProxyError Unit := .error (.start name (.ofMessage "not yet"))

/-- Three of four components are unresolved, and two are to be started. Both starts fail, each in an
initialization of its own, and those after them are successful. -/
theorem initialization_converges_mixed : ∃ w w' news, Reachable reluctant w ∧
    (w.unresolvedIn ⟨0⟩).length = 3 ∧
    (Registry.again ⟨0⟩ 4).perform reluctant 2 w =
      .ok ([tooEarly "b", tooEarly "c", .ok (), .ok ()], w') ∧
    w'.journal = news ++ w.journal ∧ Aloof ⟨0⟩ (w.members ⟨0⟩) news ∧
    AlwaysFound (w.members ⟨0⟩) news ∧
    Converges reluctant 2 ⟨0⟩ 4 w w' [tooEarly "b", tooEarly "c", .ok (), .ok ()] := by
  obtain ⟨w, ready, registry, registered, three, w', run, happened, aloof, found⟩ :
      ∃ w, mixed.perform reluctant 2 { host := 0 } = .ok (⟨0⟩, w) ∧
        ∃ registry, w.registry? ⟨0⟩ = some registry ∧ (w.unresolvedIn ⟨0⟩).length = 3 ∧
        ∃ w', (Registry.again ⟨0⟩ 4).perform reluctant 2 w =
            .ok ([tooEarly "b", tooEarly "c", .ok (), .ok ()], w') ∧
          w'.journal = w'.journal.take 48 ++ w.journal ∧
          decide (Aloof ⟨0⟩ (w.members ⟨0⟩) (w'.journal.take 48)) = true ∧
          decide (AlwaysFound (w.members ⟨0⟩) (w'.journal.take 48)) = true :=
    ⟨_, rfl, _, rfl, rfl, _, rfl, rfl, rfl, rfl⟩
  have reachable : Reachable reluctant w := .of_run ready
  have aloof := of_decide_eq_true aloof
  have found := of_decide_eq_true found
  rcases initialization_converges reachable registered 1 4 with
    ⟨halt, stuck, -⟩ | ⟨results, w'', news, run', happened', converges⟩
  · rw [run] at stuck
    cases stuck
  · obtain ⟨rfl, rfl⟩ := Prod.mk.inj (Except.ok.inj (run.symm.trans run'))
    obtain rfl := List.append_cancel_right (happened.symm.trans happened')
    exact ⟨w, w', _, reachable, three, run, happened, aloof, found, converges aloof found⟩

end Main

end World

end Standby
