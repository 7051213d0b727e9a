import Standby.Proofs.Preparation
import Standby.Proofs.Representation
import Standby.Proofs.World.Distance
import Standby.Proofs.World.Unread
set_option autoImplicit false

/-!
# Applying a manifest

A manifest is applied declaration by declaration: the name is registered unless it is, and a marked
component is started. The first start that fails ends this. The registry may hold some of the names
already, with proxies in any state, and a start may be deferred, succeed or fail. What comes of it
is said for every run in which the code that is called keeps away from the registry and its proxies.

## Main definitions

* `Standby.World.Enters`, `Standby.World.Applies` — what one declaration does, and what several do.
* `Standby.World.Bare` — nothing is resolved of what is registered under some names.

## Main results

* `Standby.World.applies_at_distance` — declarations are carried out up to the first failure.
* `Standby.World.applying_halts` — what keeps an application from returning.
* `Standby.World.applying_bare` — where nothing is resolved all is recorded and nobody is called.
* `Standby.World.application_is_prefix` — all of this for a manifest.

## Design

The proxy of a name is given by a function that the statements about several declarations share: the
one that finds names in the registry at the end. Since nobody else touches the registry, a name that
is registered on the way still has the same proxy there.
-/

namespace Standby

variable {σ : Type} {H : Host σ}

namespace World

variable {w w' v : World σ} {r : RegistryId} {p q : ProxyId} {ps : List ProxyId} {proxy : Proxy}
  {news : List Event} {bound : Nat} {result : Except ProxyError Unit}

/-! ## One declaration -/

/-- The first of several declarations was carried out: its name has the proxy `p`, which was started
if the declaration is marked. If that gave no failure so were the others.

**Proof sketch.** The application is put as one call after the other. Its first call asks for the
proxy, its second one is the start if there is any, and a start that fails ends it. -/
private lemma applying_cons_ok {d : Declaration} {rest : List Declaration}
    (h : (applying r (d :: rest)).run (perform H (bound + 1)) w = .ok (result, w')) :
    ∃ p v first u, w.obtain r d.name = .ok (p, v) ∧
      (d.start = false ∧ first = .ok () ∧ u = v ∨
        d.start = true ∧ operate (perform H bound) H p .start v = .ok (first, u)) ∧
      ((∃ err, first = .error err ∧ result = .error err ∧ w' = u) ∨
        first = .ok () ∧ (applying r rest).run (perform H (bound + 1)) u = .ok (result, w')) := by
  rw [applying_cons] at h
  obtain ⟨p, v, hobtain, h⟩ := Activity.run_call_ok h
  refine ⟨p, v, ?_⟩
  cases marked : d.start with
  | false =>
    simp only [marked, Bool.false_eq_true, if_false] at h
    exact ⟨.ok (), v, hobtain, .inl ⟨rfl, rfl, rfl⟩, .inr ⟨rfl, h⟩⟩
  | true =>
    simp only [marked, if_true] at h
    obtain ⟨first, u, hstart, h⟩ := Activity.run_call_ok h
    refine ⟨first, u, hobtain, .inr ⟨rfl, hstart⟩, ?_⟩
    rcases first with err | ⟨⟩
    · obtain ⟨rfl, rfl⟩ := Prod.mk.inj (Except.ok.inj h)
      exact .inl ⟨err, rfl, rfl, rfl⟩
    · exact .inr ⟨rfl, h⟩

/-- What one declaration does on the way that `news` tells of, if everybody keeps away from the
registry `r` and its proxies `ps`. -/
structure Enters (r : RegistryId) (ps : List ProxyId) (d : Declaration) (p : ProxyId)
    (w w' : World σ) (news : List Event) (result : Except ProxyError Unit) : Prop where
  entries : w'.entriesOf r = w.entriesOf r ++ if d.name ∈ w.names r then [] else [⟨d.name, p⟩]
  entry : ⟨d.name, p⟩ ∈ w'.entriesOf r
  registered : registeredIn r news = if d.name ∈ w.names r then [] else [p]
  beginnings : beginnings ps news = if d.start then [(p, .start)] else []
  endings : endings ps news = if d.start then [(p, .start, result)] else []
  unmarked : d.start = false → result = .ok ()
  others : ∀ q ∈ ps, (q = p → d.start = false) → ∀ proxy, w.proxy? q = some proxy →
    w'.proxy? q = some proxy
  fresh : d.start = false → d.name ∉ w.names r → ∃ registry, w.registry? r = some registry ∧
    w'.proxy? p =
      some { name := d.name, resolver := registry.resolver, factory := registry.factory }
  keeping : Keeping w w'

/-- What it does to ask for the proxy of a name.

**Proof sketch.** Asking for a name changes nothing, and then the name was registered, or it
registers the name, and then the name was free and its proxy is new. -/
private lemma enters_of_obtain (H : Host σ) (ps : List ProxyId) {name : String}
    (h : w.obtain r name = .ok (p, v)) :
    ∃ news, v.journal = news ++ w.journal ∧ Enters r ps ⟨name, false⟩ p w v news (.ok ()) := by
  have keeping : Keeping w v := (keeping_stepwise H).obtain h
  have others : ∀ q ∈ ps, (q = p → (⟨name, false⟩ : Declaration).start = false) → ∀ proxy,
      w.proxy? q = some proxy → v.proxy? q = some proxy :=
        fun _ _ _ _ known => proxy?_obtain h known
  rcases obtain_registers h with ⟨rfl, entry⟩ | registers
  · have held : name ∈ v.names r := List.mem_map.2 ⟨_, entry, rfl⟩
    exact ⟨[], rfl, {
      entries := by simp [held]
      entry := entry
      registered := by simp [held]
      beginnings := rfl
      endings := rfl
      unmarked := fun _ => rfl
      others := others
      fresh := fun _ new => absurd held new
      keeping := keeping }⟩
  · have new : name ∉ w.names r := fun held => by
      obtain ⟨e, he, same⟩ := List.mem_map.1 held
      exact registers.free e he same
    obtain ⟨registry, known, made⟩ := registers.made
    exact ⟨[.registered r name p], registers.journal, {
      entries := by simp [new, registers.entries]
      entry := by simp [registers.entries]
      registered := by simp [new, registeredIn, registrations, Event.registration?]
      beginnings := rfl
      endings := rfl
      unmarked := fun _ => rfl
      others := others
      fresh := fun _ _ => ⟨registry, known, by simp [proxy?, made, registers.new]⟩
      keeping := keeping }⟩

namespace Enters

variable {d : Declaration}

/-- What is registered was registered before, or it is registered now. -/
private lemma members (enters : Enters r ps d p w w' news result) :
    w'.members r = w.members r ++ registeredIn r news := by
  rw [World.members, enters.entries, enters.registered, List.map_append, ← World.members]
  split <;> rfl

/-- If the proxies that were registered before and those that are registered now are among `ps`,
then so is all that is registered after the declaration. -/
private lemma mem (enters : Enters r ps d p w w' news result) (old : ∀ q ∈ w.members r, q ∈ ps)
    (new : ∀ q ∈ registeredIn r news, q ∈ ps) : ∀ q ∈ w'.members r, q ∈ ps := by
  intro q hq
  rw [enters.members, List.mem_append] at hq
  exact hq.elim (old q) (new q)

/-- A declaration takes no entry away and leaves those that there are in their places. -/
private lemma kept (enters : Enters r ps d p w w' news result) : w.entriesOf r <+: w'.entriesOf r :=
  ⟨_, enters.entries.symm⟩

/-- The names that are registered after a declaration: those from before and, unless it was one of
them, the one declared, at the end. -/
private lemma names (enters : Enters r ps d p w w' news result) :
    w'.names r = w.names r ++ if d.name ∈ w.names r then [] else [d.name] := by
  rw [World.names, enters.entries, List.map_append, ← World.names]
  split <;> rfl

/-- What is registered now and was not before is the name of the declaration. -/
private lemma eq_of_new (enters : Enters r ps d p w w' news result) {e : Entry}
    (he : e ∈ w'.entriesOf r) (new : e ∉ w.entriesOf r) : e = ⟨d.name, p⟩ ∧ d.name ∉ w.names r := by
  rw [enters.entries, List.mem_append] at he
  rcases he with he | he
  · exact absurd he new
  · split at he
    · cases he
    next free => exact ⟨List.mem_singleton.1 he, free⟩

/-- A proxy that was registered and is not to be started is left alone.

**Proof sketch.** The entry has a proxy other than that of the declaration: if the two were the
same, then their names would be, and the declaration is marked. -/
private lemma untouched (enters : Enters r ps d p w w' news result) (kept : w.Kept)
    (members : ∀ q ∈ w.members r, q ∈ ps) {e : Entry} (he : e ∈ w.entriesOf r)
    (other : d.start = true → d.name ≠ e.name) : w'.proxy? e.proxy = w.proxy? e.proxy := by
  obtain ⟨proxy, -, known, hname, -⟩ := kept.known r e he
  refine (enters.others e.proxy (members _ (List.mem_map_of_mem he)) (fun same => ?_) proxy
    known).trans known.symm
  -- two entries of one proxy have one name
  have kept' := enters.keeping.kept kept
  obtain ⟨proxy', -, known', hname', -⟩ := kept'.known r _ (enters.kept.subset he)
  have same' : proxy'.name = d.name := kept'.name_eq enters.entry (same ▸ known')
  by_contra marked
  exact other (by simpa using marked) (same'.symm.trans hname')

end Enters

/-- What one declaration does, be it marked or not.

**Proof sketch.** The start of a marked component comes after the registration of its name. It
leaves the registry and all other proxies alone. -/
private lemma enters_at_distance {d : Declaration} {first : Except ProxyError Unit} {u : World σ}
    (members : ∀ q ∈ w.members r, q ∈ ps) (hobtain : w.obtain r d.name = .ok (p, v))
    (started : d.start = false ∧ first = .ok () ∧ u = v ∨
      d.start = true ∧ operate (perform H bound) H p .start v = .ok (first, u))
    (happened : u.journal = news ++ w.journal) (new : ∀ q ∈ registeredIn r news, q ∈ ps)
    (distant : Distant r ps news) : Enters r ps d p w u news first := by
  obtain ⟨name, marked⟩ := d
  obtain ⟨named, hv, enters⟩ := enters_of_obtain H ps hobtain
  rcases started with ⟨rfl, rfl, rfl⟩ | ⟨rfl, hstart⟩
  · obtain rfl := List.append_cancel_right (happened.symm.trans hv)
    exact enters
  · obtain ⟨during, hu, -⟩ := (leaves_closed H r).operate (leaves_closed H r).perform hstart
    obtain rfl := List.append_cancel_right (happened.symm.trans (journal_trans hv hu))
    have hp : p ∈ ps := enters.mem members (fun q hq => new q (by simp [hq])) p
      (List.mem_map_of_mem enters.entry)
    have alone := operate_at_distance hp hstart hu distant.parts.1
    exact {
      entries := alone.entries.trans enters.entries
      entry := alone.entries ▸ enters.entry
      registered := by simp [alone.registered, enters.registered]
      beginnings := by simp [alone.beginnings, enters.beginnings]
      endings := by simp [alone.endings, enters.endings]
      unmarked := by simp
      others := fun q hq other proxy known => by
        have hqp : q ≠ p := fun same => by simpa using other same
        exact alone.others q hq hqp proxy (enters.others q hq (fun _ => rfl) proxy known)
      fresh := by simp
      keeping := keeping_silent.trans enters.keeping
        (keeping_operate (keeping_stepwise H).toClosed.perform hstart) }

/-! ## One declaration after the other -/

/-- The declarations `todo` were carried out on the way from `w` to `w'` that `news` tells of: those
of `done` without a failure, and `rest` begins with the first whose start failed. The proxy of a
name is the one that `owner` gives. -/
structure Applies (r : RegistryId) (ps : List ProxyId) (owner : String → ProxyId)
    (todo : List Declaration) (w w' : World σ) (news : List Event) (result : Except ProxyError Unit)
    (done rest : List Declaration) : Prop where
  split : todo = done ++ rest
  /-- Without a failure none is returned. -/
  complete : rest = [] → result = .ok ()
  /-- The first failure is returned. -/
  failed : ∀ d after, rest = d :: after → d.start = true ∧ ∃ err, result = .error err
  /-- What was registered is registered still, with the same proxies. -/
  kept : w.entriesOf r <+: w'.entriesOf r
  /-- The names that were not registered are registered now, up to the first failure, in the order
  of their declaration and each of them once. -/
  names : w'.names r = w.names r ++
    (((done ++ rest.take 1).map Declaration.name).filter (· ∉ w.names r)).eraseDups
  owned : ∀ d ∈ done ++ rest.take 1, ⟨d.name, owner d.name⟩ ∈ w'.entriesOf r
  /-- Each marked declaration up to the first failure led to a start, in order, and nothing else was
  done to the proxies of the registry. -/
  beginnings : beginnings ps news =
    ((done ++ rest.take 1).filter Declaration.start).map fun d => (owner d.name, .start)
  /-- The last of these starts failed if any did. -/
  endings : endings ps news =
    (done.filter Declaration.start).map (fun d => (owner d.name, .start, .ok ())) ++
      (rest.take 1).map fun d => (owner d.name, .start, result)
  /-- A proxy that was registered and was not to be started is as it was. -/
  untouched : ∀ e ∈ w.entriesOf r, (∀ d ∈ done ++ rest.take 1, d.start = true → d.name ≠ e.name) →
    w'.proxy? e.proxy = w.proxy? e.proxy
  /-- A proxy that is registered now and was not to be started is as a new proxy is. -/
  fresh : ∀ e ∈ w'.entriesOf r, e ∉ w.entriesOf r →
    (∀ d ∈ done ++ rest.take 1, d.start = true → d.name ≠ e.name) →
      ∃ registry, w.registry? r = some registry ∧ w'.proxy? e.proxy =
        some { name := e.name, resolver := registry.resolver, factory := registry.factory }

section Run

variable {owner : String → ProxyId} {todo done rest : List Declaration}

/-- To apply no declarations does nothing. -/
private lemma Applies.nil : Applies r ps owner [] w w [] (.ok ()) [] [] where
  split := rfl
  complete _ := rfl
  failed := by simp
  kept := List.prefix_rfl
  names := by simp
  owned := by simp
  beginnings := rfl
  endings := rfl
  untouched _ _ _ := rfl
  fresh e he new := absurd he new

/-- Names that are added one after the other are added at once, without those that were there and
each of them once.

**Proof sketch.** Either the name is there already, and adding it changes nothing, or it is not, and
then it is the first that stays when repetitions are taken away. -/
private lemma append_eraseDups_filter (names more : List String) (name : String) :
    names ++ (if name ∈ names then [] else [name]) ++
        (more.filter (· ∉ names ++ if name ∈ names then [] else [name])).eraseDups =
      names ++ ((name :: more).filter (· ∉ names)).eraseDups := by
  by_cases held : name ∈ names
  · simp [held]
  · have apart : more.filter (· ∉ names ++ [name]) =
        (more.filter (· ∉ names)).filter (fun other => !other == name) := by
      rw [List.filter_filter]
      refine List.filter_congr fun other _ => ?_
      by_cases same : other = name <;> simp [same]
    simp only [held, if_false, apart, List.filter_cons, not_false_eq_true, decide_true, if_true,
      List.eraseDups_cons, List.append_assoc, List.singleton_append]

/-- A start that fails ends it all.

**Proof sketch.** Only a marked declaration can fail, so it is the first and last that is carried
out. -/
private lemma Enters.applies {d : Declaration} {err : ProxyError} (kept : w.Kept)
    (members : ∀ q ∈ w.members r, q ∈ ps) (enters : Enters r ps d p w w' news (.error err))
    (owns : owner d.name = p) :
    Applies r ps owner (d :: rest) w w' news (.error err) [] (d :: rest) := by
  have marked : d.start = true := by
    by_contra unmarked
    simpa using enters.unmarked (by simpa using unmarked)
  exact {
    split := rfl
    complete := by simp
    failed := by
      rintro _ _ ⟨⟩
      exact ⟨marked, err, rfl⟩
    kept := enters.kept
    names := by simpa [enters.names] using append_eraseDups_filter (w.names r) [] d.name
    owned := by simpa [owns] using enters.entry
    beginnings := by simp [enters.beginnings, marked, owns]
    endings := by simp [enters.endings, marked, owns]
    untouched := fun e he other => enters.untouched kept members he (by simpa using other)
    fresh := fun e he new other => by
      obtain ⟨rfl, -⟩ := enters.eq_of_new he new
      exact absurd rfl (other d (by simp) marked) }

/-- A declaration that does not fail makes the prefix longer.

**Proof sketch.** Field by field: what is said of the declaration comes before what is said of the
others. An entry that is new in the end was made by the declaration or is new for the others. -/
private lemma Applies.cons {d : Declaration} {registry : Registry} {later : List Event}
    (kept : w.Kept) (known : w.registry? r = some registry) (members : ∀ q ∈ w.members r, q ∈ ps)
    (applies : Applies r ps owner todo v w' later result done rest)
    (enters : Enters r ps d p w v news (.ok ())) (owns : owner d.name = p) :
    Applies r ps owner (d :: todo) w w' (later ++ news) result (d :: done) rest where
  split := by simp [applies.split]
  complete := applies.complete
  failed := applies.failed
  kept := enters.kept.trans applies.kept
  names := by
    rw [applies.names, enters.names]
    exact append_eraseDups_filter _ _ _
  owned := by
    refine List.forall_mem_cons.2 ⟨?_, applies.owned⟩
    rw [owns]
    exact applies.kept.subset enters.entry
  beginnings := by
    rw [beginnings_append, enters.beginnings, applies.beginnings, List.cons_append,
      List.filter_cons]
    split <;> simp [owns]
  endings := by
    rw [endings_append, enters.endings, applies.endings, List.filter_cons]
    split <;> simp [owns]
  untouched e he other := by
    obtain ⟨here, others⟩ := List.forall_mem_cons.1 other
    exact (applies.untouched e (enters.kept.subset he) others).trans
      (enters.untouched kept members he here)
  fresh e he new other := by
    obtain ⟨here, others⟩ := List.forall_mem_cons.1 other
    by_cases first : e ∈ v.entriesOf r
    · obtain ⟨rfl, free⟩ := enters.eq_of_new first new
      have unmarked : d.start = false := by
        by_contra marked
        exact here (by simpa using marked) rfl
      obtain ⟨registry, known, there⟩ := enters.fresh unmarked free
      exact ⟨registry, known, (applies.untouched _ first others).trans there⟩
    · obtain ⟨registry', known', there⟩ := applies.fresh e he first others
      obtain ⟨registry'', known'', hresolver, hfactory⟩ :=
        enters.keeping.persists.registry r registry known
      obtain rfl := Option.some.inj (known'.symm.trans known'')
      exact ⟨registry, known, by rw [there, hresolver, hfactory]⟩

/-- **Declarations are carried out up to the first failure.** What was done of them is a prefix, and
if there is a next declaration it is marked and its start failed.

**Proof sketch.** Induction on the declarations. One declaration leaves all proxies alone but the
one that it is to start, so what is known of them at the beginning is still true when their turn
comes. -/
theorem applies_at_distance (owner : String → ProxyId) {registry : Registry} (kept : w.Kept)
    (known : w.registry? r = some registry) (members : ∀ q ∈ w.members r, q ∈ ps)
    (h : (applying r todo).run (perform H (bound + 1)) w = .ok (result, w'))
    (happened : w'.journal = news ++ w.journal) (new : ∀ q ∈ registeredIn r news, q ∈ ps)
    (owns : ∀ e ∈ w'.entriesOf r, owner e.name = e.proxy) (distant : Distant r ps news) :
    ∃ done rest, Applies r ps owner todo w w' news result done rest := by
  induction todo generalizing w news registry with
  | nil =>
    obtain ⟨rfl, rfl⟩ : .ok () = result ∧ w = w' := by
      simpa [applying, Activity.untilFailure, pure, Activity.run] using h
    obtain rfl : news = [] := by simpa using happened
    exact ⟨[], [], .nil⟩
  | cons d todo ih =>
    obtain ⟨p, v, first, u, hobtain, started, h⟩ := applying_cons_ok h
    have obtained := (leaves_closed H r).obtain hobtain
    rcases h with ⟨err, rfl, rfl, rfl⟩ | ⟨rfl, h⟩
    · have enters := enters_at_distance members hobtain started happened new distant
      exact ⟨[], d :: todo, enters.applies kept members (owns _ enters.entry)⟩
    · obtain ⟨earlier, hu, -⟩ : Leaves r w u := by
        rcases started with ⟨-, -, rfl⟩ | ⟨-, hstart⟩
        · exact obtained
        · exact (leaves_silent r).trans obtained
            ((leaves_closed H r).operate (leaves_closed H r).perform hstart)
      obtain ⟨later, hw', -⟩ := (leaves_silent r).run (leaves_closed H r).perform h
      obtain rfl := List.append_cancel_right (happened.symm.trans (journal_trans hu hw'))
      have enters := enters_at_distance members hobtain started hu
        (fun q hq => new q (by simp [hq])) distant.parts.2
      obtain ⟨registry', known', -⟩ := enters.keeping.persists.registry r registry known
      have members' := enters.mem members fun q hq => new q (by simp [hq])
      obtain ⟨done, rest, applies⟩ := ih (enters.keeping.kept kept) known' members' h hw'
        (fun q hq => new q (by simp [hq])) distant.parts.1
      exact ⟨d :: done, rest, applies.cons kept known members enters
        (owns _ (applies.kept.subset enters.entry))⟩

/-! ## What can keep it from returning -/

/-- What hinders an operation on its way hinders it on a longer one. -/
private lemma Hindered.mono {halt : Halt} {passes passes' : World σ → Prop}
    (hindered : Hindered H bound p w passes halt) (within : ∀ u, passes u → passes' u) :
    Hindered H bound p w passes' halt := by
  obtain ⟨proxy, known, cause⟩ := hindered
  exact ⟨proxy, known, cause.imp_right fun ⟨u, before, request, passed, rest⟩ =>
    ⟨u, before, request, within u passed, rest⟩⟩

/-- Something keeps the start of one of the declared components from returning: in a world of
`passes`, in which the component is registered with the proxy `p`, an operation on `p` is under way
already, or a call that its start makes does not return. -/
def Stalls (H : Host σ) (bound : Nat) (r : RegistryId) (todo : List Declaration)
    (passes : World σ → Prop) (halt : Halt) : Prop :=
  ∃ d ∈ todo, d.start = true ∧ ∃ p v, passes v ∧ ⟨d.name, p⟩ ∈ v.entriesOf r ∧
    Hindered H bound p v passes halt

/-- What keeps an application from returning still does so when one more declaration is carried out
in front of it. -/
private lemma Stalls.later {halt : Halt} {passes passes' : World σ → Prop} {d : Declaration}
    (stalls : Stalls H bound r todo passes halt) (within : ∀ u, passes u → passes' u) :
    Stalls H bound r (d :: todo) passes' halt := by
  obtain ⟨d', hd', marked, p, v, passed, entry, hindered⟩ := stalls
  exact ⟨d', by simp [hd'], marked, p, v, within v passed, entry, hindered.mono within⟩

/-- If an application does not return, then the start of one of the marked components stalls.

**Proof sketch.** Induction on the declarations. To register a name always returns. -/
theorem applying_halts {registry : Registry} {halt : Halt} (kept : w.Kept)
    (known : w.registry? r = some registry)
    (h : (applying r todo).run (perform H (bound + 1)) w = .error halt) :
    Stalls H bound r todo
      ((applying r todo).Passes (perform H (bound + 1)) (Inside H (bound + 1)) w) halt := by
  induction todo generalizing w registry with
  | nil => simp [applying, Activity.untilFailure, pure, Activity.run] at h
  | cons d todo ih =>
    rw [applying_cons] at h ⊢
    rcases Activity.run_call_error h with hobtain | ⟨p, v, hobtain, h⟩
    · simp only [perform, World.obtain, known] at hobtain
      split at hobtain <;> cases hobtain
    have hobtain' : w.obtain r d.name = .ok (p, v) := hobtain
    obtain ⟨named, -, enters⟩ := enters_of_obtain H [] hobtain'
    obtain ⟨registry', known', -⟩ := enters.keeping.persists.registry r registry known
    have kept' := enters.keeping.kept kept
    cases marked : d.start with
    | false =>
      simp only [marked, Bool.false_eq_true, if_false] at h
      exact (ih kept' known' h).later fun u passed =>
        .after hobtain (by simpa [marked] using passed)
    | true =>
      simp only [marked, if_true] at h
      rcases Activity.run_call_error h with hstart | ⟨first, u, hstart, h⟩
      · have hstart : operate (perform H bound) H p .start v = .error halt := hstart
        obtain ⟨proxy, -, there, -⟩ := kept'.known r _ enters.entry
        refine ⟨d, by simp, marked, p, v, .after hobtain (.here _ _), enters.entry,
          (operate_halts there hstart).mono fun u passed => .after hobtain ?_⟩
        rw [if_pos rfl]
        exact .within passed
      · rcases first with err | ⟨⟩
        · cases h
        have keeping := (keeping_stepwise H).toClosed.perform hstart
        obtain ⟨registry'', known'', -⟩ := keeping.persists.registry r registry' known'
        refine (ih (keeping.kept kept') known'' h).later fun u passed => .after hobtain ?_
        rw [if_pos rfl]
        exact .after hstart passed

end Run

/-! ## Where nothing is resolved -/

/-- What is registered in `r` under one of the names is not resolved, and no operation on it is
under way. -/
def Bare (r : RegistryId) (names : List String) (w : World σ) : Prop :=
  ∀ e ∈ w.entriesOf r, e.name ∈ names → ∀ proxy, w.proxy? e.proxy = some proxy →
    proxy.state.type = none ∧ proxy.busy = false

/-- The declaration is registered in `r` and unresolved, and if it is marked its start is
requested. -/
def Noted (r : RegistryId) (d : Declaration) (w : World σ) : Prop :=
  ∃ p proxy, ⟨d.name, p⟩ ∈ w.entriesOf r ∧ w.proxy? p = some proxy ∧ proxy.state.type = none ∧
    proxy.busy = false ∧ (d.start = true → proxy.state.startRequested = true)

/-- Between two worlds requests are recorded and nobody is called. -/
structure Defers (r : RegistryId) (names : List String) (declared : List Declaration)
    (w w' : World σ) : Prop where
  told : ∃ news, w'.journal = news ++ w.journal ∧ ∀ e ∈ news, ∀ p, ¬ e.Asks p
  host : w'.host = w.host
  keeping : Keeping w w'
  bare : Bare r names w'
  noted : ∀ d, d ∈ declared ∨ Noted r d w → Noted r d w'

/-- To apply no declarations defers nothing and changes nothing. -/
private lemma Defers.nil {names : List String} (bare : Bare r names w) : Defers r names [] w w where
  told := ⟨[], rfl, by simp⟩
  host := rfl
  keeping := keeping_silent.refl w
  bare := bare
  noted d h := by simpa using h

/-- Declarations that are deferred one after the other are deferred altogether.

**Proof sketch.** What was noted by the first ones is noted after the later ones too, since they
keep what is noted. -/
private lemma Defers.trans {names : List String} {declared more : List Declaration}
    (first : Defers r names declared w v) (later : Defers r names more v w') :
    Defers r names (declared ++ more) w w' where
  told := by
    obtain ⟨news, hv, quiet⟩ := first.told
    obtain ⟨more, hw', quiet'⟩ := later.told
    refine ⟨more ++ news, journal_trans hv hw', fun e he => ?_⟩
    exact (List.mem_append.mp he).elim (quiet' e) (quiet e)
  host := later.host.trans first.host
  keeping := keeping_silent.trans first.keeping later.keeping
  bare := later.bare
  noted d h := by
    rcases h with hd | h
    · rcases List.mem_append.1 hd with hd | hd
      · exact later.noted d (.inr (first.noted d (.inl hd)))
      · exact later.noted d (.inl hd)
    · exact later.noted d (.inr (first.noted d (.inr h)))

/-- To ask for the proxy of a name records nothing but the name.

**Proof sketch.** Either nothing changes, or a new entry comes with a new proxy, of which nothing is
resolved and which is idle. -/
private lemma defers_of_obtain (H : Host σ) {names : List String} {name : String} (kept : w.Kept)
    (bare : Bare r names w) (h : w.obtain r name = .ok (p, v)) :
    Defers r names [] w v ∧ ⟨name, p⟩ ∈ v.entriesOf r := by
  obtain ⟨_, -, enters⟩ := enters_of_obtain H (w.members r) h
  refine ⟨{
    told := ?told
    host := ?host
    keeping := enters.keeping
    bare := fun e he hname proxy known => ?bare
    noted := ?noted }, enters.entry⟩
  case told =>
    rcases obtain_cases h with rfl | ⟨_, -, -, rfl⟩
    · exact ⟨[], rfl, by simp⟩
    · exact ⟨[.registered r name p], rfl, by simp [Event.Asks]⟩
  case host => rcases obtain_cases h with rfl | ⟨_, -, -, rfl⟩ <;> rfl
  case bare =>
    by_cases old : e ∈ w.entriesOf r
    · obtain ⟨proxy', -, known', -⟩ := kept.known r e old
      obtain rfl := Option.some.inj ((proxy?_obtain h known').symm.trans known)
      exact bare e old hname proxy' known'
    · obtain ⟨rfl, free⟩ := enters.eq_of_new he old
      obtain ⟨registry, -, there⟩ := enters.fresh rfl free
      obtain rfl := Option.some.inj (there.symm.trans known)
      exact ⟨rfl, rfl⟩
  case noted =>
    rintro d (hd | ⟨q, proxy, entry, known, rest⟩)
    · cases hd
    · exact ⟨q, proxy, enters.kept.subset entry, proxy?_obtain h known, rest⟩

/-- The world after the start of a proxy whose type is unknown. -/
def requested (w : World σ) (p : ProxyId) (proxy : Proxy) : World σ :=
  (((w.setProxy p { proxy with busy := true }).record (.began p .start)).setProxy p
    { proxy with state := { proxy.state with startRequested := true } }).record
      (.ended p .start (.ok ()))

/-- A proxy on which a start was deferred is as before but for the start that is requested. -/
private lemma proxy?_requested_self (known : w.proxy? p = some proxy) :
    (w.requested p proxy).proxy? p =
    some { proxy with state := { proxy.state with startRequested := true } } :=
  proxy?_setProxy_self (w := (w.setProxy p _).record _) (proxy?_setProxy_self known)

/-- A start that is deferred on one proxy leaves all others as they are. -/
private lemma proxy?_requested_of_ne (h : p ≠ q) : (w.requested p proxy).proxy? q = w.proxy? q :=
  (proxy?_setProxy_of_ne (w := (w.setProxy p _).record _) h).trans (proxy?_setProxy_of_ne h)

/-- A start that is requested already changes nothing but the journal. -/
private lemma requested_eq (known : w.proxy? p = some proxy)
    (already : proxy.state.startRequested = true) :
    w.requested p proxy =
      w.told ([.ended p .start (.ok ()), .began p .start] ++ w.journal) := by
  have same : { proxy with state := { proxy.state with startRequested := true } } = proxy := by
    rw [← already]
  have put : (w.proxies.set p.index { proxy with busy := true }).set p.index proxy = w.proxies := by
    obtain ⟨hlt, there⟩ := List.getElem?_eq_some_iff.1 known
    rw [List.set_set, ← there, List.set_getElem_self]
  rw [requested, same]
  exact congrArg (fun proxies => ({ w with proxies, journal := _ } : World σ)) put

/-- The start of a component that is registered and unresolved is recorded.

**Proof sketch.** The journal tells of the start that it began and ended, with no question in
between. Of all proxies only this one changes, and of this one only that a start is requested. -/
private lemma defers_of_requested {names : List String} {d : Declaration} (bare : Bare r names w)
    (entry : ⟨d.name, p⟩ ∈ w.entriesOf r) (known : w.proxy? p = some proxy)
    (unresolved : proxy.state.type = none) (idle : proxy.busy = false) :
    Defers r names [d] w (w.requested p proxy) where
  told := ⟨[.ended p .start (.ok ()), .began p .start], rfl, by simp [Event.Asks]⟩
  host := rfl
  keeping := keeping_of_eq (persists_silent.trans (persists_began .start known)
    (persists_ended known (persists_silent.refl _))) fun _ => rfl
  bare e he hname proxy' known' := by
    by_cases same : p = e.proxy
    · subst same
      obtain rfl := Option.some.inj ((proxy?_requested_self known).symm.trans known')
      exact ⟨unresolved, idle⟩
    · exact bare e he hname proxy' ((proxy?_requested_of_ne same).symm.trans known')
  noted := by
    rintro d' (hd | ⟨q, proxy', entry', known', unresolved', idle', noted⟩)
    · obtain rfl := List.mem_singleton.1 hd
      exact ⟨p, _, entry, proxy?_requested_self known, unresolved, idle, fun _ => rfl⟩
    · by_cases same : p = q
      · subst same
        exact ⟨p, _, entry', proxy?_requested_self known, unresolved, idle, fun _ => rfl⟩
      · exact ⟨q, proxy', entry', (proxy?_requested_of_ne same).trans known', unresolved', idle',
          noted⟩

section Deferred

variable {d : Declaration} {names : List String} {todo : List Declaration} {registry : Registry}

/-- The declaration of a component that is not resolved is recorded, and the others come next.

**Proof sketch.** The proxy of the name, old or new, is not resolved and idle. So a start of it is
deferred, and the application goes on with the declarations after it. -/
private lemma declare_bare (bound : Nat) (kept : w.Kept) (known : w.registry? r = some registry)
    (bare : Bare r names w) (hd : d.name ∈ names) :
    ∃ u, (∀ rest, (applying r (d :: rest)).run (perform H (bound + 1)) w =
      (applying r rest).run (perform H (bound + 1)) u) ∧ Defers r names [d] w u := by
  obtain ⟨p, v, hobtain⟩ : ∃ p v, w.obtain r d.name = .ok (p, v) := by
    rw [World.obtain, known]
    dsimp only
    split
    · exact ⟨_, _, rfl⟩
    · exact ⟨_, _, rfl⟩
  have obtained : perform H (bound + 1) (.obtain r d.name) w = .ok (p, v) := hobtain
  obtain ⟨defers, entry⟩ := defers_of_obtain H kept bare hobtain
  obtain ⟨proxy, -, there, -⟩ := (defers.keeping.kept kept).known r _ entry
  obtain ⟨unresolved, idle⟩ := defers.bare _ entry hd proxy there
  cases marked : d.start with
  | false =>
    refine ⟨v, fun rest => ?_, { defers with noted := ?_ }⟩
    · rw [applying_cons, Activity.run_call obtained]
      simp only [marked, Bool.false_eq_true, if_false]
    · rintro d' (hd' | noted)
      · obtain rfl := List.mem_singleton.1 hd'
        exact ⟨p, proxy, entry, there, unresolved, idle, by simp [marked]⟩
      · exact defers.noted d' (.inr noted)
  | true =>
    have started : perform H (bound + 1) (.operate p .start) v =
        .ok (.ok (), v.requested p proxy) :=
      operate_start_deferred there idle unresolved
    have recorded := defers_of_requested (d := d) defers.bare entry there unresolved idle
    refine ⟨v.requested p proxy, fun rest => ?_, defers.trans recorded⟩
    rw [applying_cons, Activity.run_call obtained]
    simp only [marked, if_true]
    exact Activity.run_call started

/-- **Where nothing is resolved all is recorded and nobody is called.**

**Proof sketch.** Induction on the declarations. None of them resolves anything, and what is
recorded of one stays so. -/
theorem applying_bare (bound : Nat) (kept : w.Kept) (known : w.registry? r = some registry)
    (bare : Bare r names w) (declared : ∀ d ∈ todo, d.name ∈ names) :
    ∃ w', (applying r todo).run (perform H (bound + 1)) w = .ok (.ok (), w') ∧
      Defers r names todo w w' := by
  induction todo generalizing w registry with
  | nil => exact ⟨w, rfl, .nil bare⟩
  | cons d rest ih =>
    obtain ⟨here, later⟩ := List.forall_mem_cons.1 declared
    obtain ⟨u, run, first⟩ := declare_bare (H := H) bound kept known bare here
    obtain ⟨registry', known', -⟩ := first.keeping.persists.registry r registry known
    obtain ⟨w', hrest, others⟩ := ih (first.keeping.kept kept) known' first.bare later
    exact ⟨w', (run rest).trans hrest, first.trans others⟩

/-- To apply once more what is recorded already changes nothing but the journal.

**Proof sketch.** Induction on the declarations. The name of the first one is registered and its
start is requested, so that to ask for the name changes nothing, and to start it again writes back
the state that the proxy has. -/
theorem applying_noted (bound : Nat) (kept : w.Kept) (known : w.registry? r = some registry)
    (noted : ∀ d ∈ todo, Noted r d w) :
    ∃ news, (applying r todo).run (perform H (bound + 1)) w =
      .ok (.ok (), w.told (news ++ w.journal)) := by
  induction todo generalizing w with
  | nil => exact ⟨[], rfl⟩
  | cons d rest ih =>
    obtain ⟨⟨p, proxy, entry, there, unresolved, idle, already⟩, later⟩ :=
      List.forall_mem_cons.1 noted
    have obtained : perform H (bound + 1) (.obtain r d.name) w = .ok (p, w) :=
      kept.obtain_of_mem known entry
    rw [applying_cons, Activity.run_call obtained]
    cases marked : d.start with
    | false =>
      simp only [Bool.false_eq_true, if_false]
      exact ih kept known later
    | true =>
      have started : perform H (bound + 1) (.operate p .start) w =
          .ok (.ok (), w.told ([.ended p .start (.ok ()), .began p .start] ++ w.journal)) := by
        rw [← requested_eq there (already marked)]
        exact operate_start_deferred there idle unresolved
      obtain ⟨news, hrest⟩ := ih (w := w.told ([.ended p .start (.ok ()), .began p .start] ++
        w.journal)) ⟨kept.names, kept.known⟩ known later
      refine ⟨news ++ [.ended p .start (.ok ()), .began p .start], ?_⟩
      rw [if_pos rfl, List.append_assoc]
      exact (Activity.run_call started).trans hrest

end Deferred

/-! ## A manifest -/

/-- What applying a manifest does where nothing is resolved: it returns no failure, calls nobody,
and does nothing when it is done once more. -/
structure Postponed (H : Host σ) (bound : Nat) (r : RegistryId) (m : Manifest) (w w' : World σ)
    (news : List Event) : Prop where
  run : (Registry.apply r m).perform H (bound + 1) w = .ok (.ok (), w')
  happened : w'.journal = news ++ w.journal
  /-- No collaborator is called, so all of them keep away and none of them changes its state. -/
  unasked : ∀ e ∈ news, ∀ p, ¬ e.Asks p
  distant : Distant r (w.members r ++ registeredIn r news) news
  host : w'.host = w.host
  again : ∃ more, (Registry.apply r m).perform H (bound + 1) w' =
    .ok (.ok (), w'.told (more ++ w'.journal))

/-- To apply a manifest of which nothing is resolved is to postpone all of it.

**Proof sketch.** The first application notes everything, by `applying_bare`. A second one finds it
noted, by `applying_noted`. -/
private lemma postponed_of_bare {registry : Registry} {m : Manifest} (bound : Nat) (kept : w.Kept)
    (registered : w.registry? r = some registry)
    (bare : Bare r (m.components.map Declaration.name) w) :
    ∃ w' news, Postponed H bound r m w w' news := by
  obtain ⟨w', run, defers⟩ := applying_bare (H := H) bound kept registered bare
    fun d hd => List.mem_map_of_mem hd
  obtain ⟨news, happened, unasked⟩ := defers.told
  obtain ⟨registry', registered', -⟩ := defers.keeping.persists.registry r registry registered
  exact ⟨w', news, {
    run := run
    happened := happened
    unasked := unasked
    distant := distant_of_unasked unasked
    host := defers.host
    again := applying_noted bound (defers.keeping.kept kept) registered'
      fun d hd => defers.noted d (.inl hd) }⟩

/-- Every name of a registry belongs to one proxy. -/
private lemma Kept.exists_owner {registry : Registry} (kept : w.Kept)
    (registered : w.registry? r = some registry) :
    ∃ owner : String → ProxyId, ∀ e ∈ w.entriesOf r, owner e.name = e.proxy := by
  refine ⟨fun name => (registry.find? name).getD default, fun e he => ?_⟩
  have found := (kept.find?_eq_iff registered).2 he
  simp only [found, Option.getD_some]

/-- **Applying a manifest gets as far as the first start that fails.** In every world that a run
goes through, the application of a manifest to a registry returns, unless one of the starts that it
makes stalls. If it returns, and if the collaborators that it called kept away from the registry and
its proxies, then it carried out a prefix of the declarations, and the first one after this prefix,
if there is one, is marked and its start failed. If nothing is resolved of what is registered under
the declared names, then it returns no failure and calls no collaborator, and to apply the manifest
once more changes nothing but the journal.

**Proof sketch.** One declaration registers its name and starts its component, and leaves all else
alone. The rest is induction on the declarations. -/
theorem application_is_prefix {registry : Registry} (reachable : Reachable H w)
    (registered : w.registry? r = some registry) (m : Manifest) (bound : Nat) :
    ((∃ halt, (Registry.apply r m).perform H (bound + 1) w = .error halt ∧
        Stalls H bound r m.components
          ((Registry.apply r m).Passes (perform H (bound + 1)) (Inside H (bound + 1)) w) halt) ∨
      ∃ result w' news, (Registry.apply r m).perform H (bound + 1) w = .ok (result, w') ∧
        w'.journal = news ++ w.journal ∧ (Distant r (w.members r ++ registeredIn r news) news →
          ∃ owner done rest, Applies r (w.members r ++ registeredIn r news) owner m.components w w'
            news result done rest)) ∧
    (Bare r (m.components.map Declaration.name) w →
      ∃ w' news, Postponed H bound r m w w' news) := by
  have kept := reachable.kept
  constructor
  · cases h : (applying r m.components).run (perform H (bound + 1)) w with
    | error halt => exact .inl ⟨halt, h, applying_halts kept registered h⟩
    | ok outcome =>
      obtain ⟨result, w'⟩ := outcome
      obtain ⟨news, happened, -⟩ := (leaves_silent r).run (leaves_closed H r).perform h
      refine .inr ⟨result, w', news, h, happened, fun distant => ?_⟩
      have keeping : Keeping w w' := keeping_silent.run (keeping_stepwise H).toClosed.perform h
      obtain ⟨registry', registered', -⟩ := keeping.persists.registry r registry registered
      -- a name belongs to the proxy that is found under it in the end
      obtain ⟨owner, owns⟩ := (keeping.kept kept).exists_owner registered'
      obtain ⟨done, rest, applies⟩ := applies_at_distance owner kept registered
        (fun q hq => List.mem_append_left _ hq) h happened (fun q hq => List.mem_append_right _ hq)
        owns distant
      exact ⟨owner, done, rest, applies⟩
  · exact postponed_of_bare bound kept registered

/-! ## An application that fails in the middle -/

/-- A client with a component that runs, one that is resolved, and one that is registered. -/
def advanced : Activity Nat RegistryId := do
  let r ← Activity.establish (.custom 0) (.custom 0)
  let a ← Activity.obtain r "a"
  let b ← Activity.obtain r "b"
  let _ ← Activity.obtain r "e"
  let _ ← Activity.operate a .start
  let _ ← Activity.operate a .resolve
  let _ ← Activity.operate b .resolve
  pure r

/-- A manifest with a new component, the two that are resolved, and another new one. -/
def fourfold : Manifest := ⟨[⟨"c", true⟩, ⟨"a", false⟩, ⟨"b", true⟩, ⟨"d", true⟩]⟩

/-- The start of the first is deferred, the second is left running, the start of the third fails,
and the fourth is not registered. A manifest with a new name and one that is not resolved is
recorded. -/
theorem application_is_prefix_advanced : ∃ w registry result w' news, Reachable flawed w ∧
    w.registry? ⟨0⟩ = some registry ∧
    (Registry.apply ⟨0⟩ fourfold).perform flawed 2 w = .ok (result, w') ∧
    w'.journal = news ++ w.journal ∧ w'.names ⟨0⟩ = ["a", "b", "e", "c"] ∧
    endings (w.members ⟨0⟩ ++ registeredIn ⟨0⟩ news) news = [(⟨3⟩, .start, .ok ()),
      (⟨1⟩, .start, .error (.start "b" (.ofMessage "not now")))] ∧
    (∃ owner done rest, Applies ⟨0⟩ (w.members ⟨0⟩ ++ registeredIn ⟨0⟩ news) owner
      fourfold.components w w' news result done rest) ∧
    Bare ⟨0⟩ ["d", "e", "d"] w ∧ ∃ v later,
      Postponed flawed 1 ⟨0⟩ ⟨[⟨"d", true⟩, ⟨"e", false⟩, ⟨"d", false⟩]⟩ w v later := by
  obtain ⟨w, ready, registry, registered, result, w', run, happened, names, distant, ended, rest⟩ :
      ∃ w, advanced.perform flawed 2 { host := 0 } = .ok (⟨0⟩, w) ∧
        ∃ registry, w.registry? ⟨0⟩ = some registry ∧
        ∃ result w', (Registry.apply ⟨0⟩ fourfold).perform flawed 2 w = .ok (result, w') ∧
          w'.journal = w'.journal.take 13 ++ w.journal ∧ w'.names ⟨0⟩ = ["a", "b", "e", "c"] ∧
          decide (Distant ⟨0⟩ (w.members ⟨0⟩ ++ registeredIn ⟨0⟩ (w'.journal.take 13))
            (w'.journal.take 13)) = true ∧
          endings (w.members ⟨0⟩ ++ registeredIn ⟨0⟩ (w'.journal.take 13)) (w'.journal.take 13) =
            [(⟨3⟩, .start, .ok ()), (⟨1⟩, .start, .error (.start "b" (.ofMessage "not now")))] ∧
          w.entriesOf ⟨0⟩ = [⟨"a", ⟨0⟩⟩, ⟨"b", ⟨1⟩⟩, ⟨"e", ⟨2⟩⟩] ∧
          ∃ proxy, w.proxy? ⟨2⟩ = some proxy ∧ proxy.state.type = none ∧ proxy.busy = false := by
    refine ⟨_, rfl, _, rfl, _, _, rfl, rfl, rfl, rfl, rfl, rfl, _, rfl, rfl, rfl⟩
  have reachable : Reachable flawed w := .of_run ready
  obtain ⟨entries, proxy, known, unresolved⟩ := rest
  have bare : Bare ⟨0⟩ ["d", "e", "d"] w := fun e he hname proxy' known' => by
    simp only [entries, List.mem_cons, List.not_mem_nil, or_false] at he
    rcases he with rfl | rfl | rfl
    · simp at hname
    · simp at hname
    · obtain rfl := Option.some.inj (known.symm.trans known')
      exact unresolved
  have distant := of_decide_eq_true distant
  obtain ⟨applied, -⟩ := application_is_prefix reachable registered fourfold 1
  obtain ⟨-, postponed⟩ := application_is_prefix reachable registered
    ⟨[⟨"d", true⟩, ⟨"e", false⟩, ⟨"d", false⟩]⟩ 1
  rcases applied with ⟨halt, stuck, -⟩ | ⟨result', w'', news, run', happened', applied⟩
  · rw [run] at stuck
    cases stuck
  · obtain ⟨rfl, rfl⟩ := Prod.mk.inj (Except.ok.inj (run.symm.trans run'))
    obtain rfl := List.append_cancel_right (happened.symm.trans happened')
    exact ⟨w, registry, result, w', _, reachable, registered, run, happened, names, ended,
      applied distant, bare, postponed bare⟩

end World

end Standby
