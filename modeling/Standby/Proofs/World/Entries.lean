import Mathlib.Data.List.Nodup
import Standby.Proofs.World.Coherence
import Standby.Proofs.World.Within
set_option autoImplicit false

/-!
# The entries of the registries

Which proxies are registered under which names, and what the steps of a run do to that. Proxies and
registries are never deleted and keep their collaborators, each entry refers to a proxy of its own
name, and a proxy that is registered is always a new one.

## Main definitions

* `Standby.World.entriesOf` — the entries of a registry.
* `Standby.World.Registers` — what registering a new name does.
* `Standby.World.Persists` — proxies and registries are there as they were, up to state and entries.
* `Standby.World.Kept` — the registries of a world are in order.
* `Standby.registrations` — the registrations that a journal tells of.

## Main results

* `Standby.World.persists_stepwise` — no step takes a proxy or a registry away.
* `Standby.World.Reachable.kept` — the registries are in order in every world that a run goes
  through.
* `Standby.World.numbers_closed` — the proxies that are registered are the next ones, in order.
* `Standby.World.Reachable.members_sublist` — entries stand in the order in which they were
  registered.
-/

namespace Standby

variable {σ : Type} {H : Host σ}

namespace World

variable {w w' : World σ} {p q : ProxyId} {r r' : RegistryId} {name : String}

/-! ## The journal, step by step -/

/-- What is told of two parts of the way is told of the whole. -/
lemma journal_trans {u v w : World σ} {news later : List Event}
    (huv : v.journal = news ++ u.journal) (hvw : w.journal = later ++ v.journal) :
    w.journal = later ++ news ++ u.journal := by
  rw [hvw, huv, List.append_assoc]

/-- To install a registry is not told in the journal. -/
@[simp] lemma journal_install (r : RegistryId) : (w.install r).2.journal = w.journal := by
  rw [install]
  split <;> rfl

/-- That entries are removed is told by the journal, unless there is nothing to remove them from. -/
lemma remove_cases (r : RegistryId) (gone : List ProxyId) :
    w.remove r gone = w ∨ (w.remove r gone).journal = [.removed r gone] ++ w.journal := by
  rw [remove]
  split
  · exact .inl rfl
  · exact .inr rfl

/-! ## Entries, step by step -/

/-- The entries of a registry, in the order of registration. A registry that the world does not have
has none. -/
def entriesOf (w : World σ) (r : RegistryId) : List Entry :=
  match w.registry? r with
  | some registry => registry.entries
  | none => []

/-- The proxies registered in a registry, in the order of registration. -/
def members (w : World σ) (r : RegistryId) : List ProxyId := (w.entriesOf r).map Entry.proxy

/-- The entries of a registry that is known are those that it says. -/
lemma entriesOf_eq {registry : Registry} (h : w.registry? r = some registry) :
    w.entriesOf r = registry.entries := by
  rw [entriesOf, h]

/-- The members of a registry that is known are the proxies of its entries. -/
lemma members_eq {registry : Registry} (h : w.registry? r = some registry) :
    w.members r = registry.proxies := by
  rw [members, entriesOf_eq h, Registry.proxies]

/-- The entries of a registry are given to who asks for them. -/
lemma perform_entries (H : Host σ) (bound : Nat) {registry : Registry}
    (registered : w.registry? r = some registry) :
    perform H bound (.entries r) w = .ok (registry.entries, w) := by
  cases bound <;> simp [perform, registered]

/-- To note an event in the journal changes no registry. -/
@[simp] lemma entriesOf_record (e : Event) : (w.record e).entriesOf r = w.entriesOf r := rfl

/-- A registry that was put somewhere is found there. -/
lemma known_setRegistry_self {registry registry' : Registry}
    (h : w.registry? r = some registry) :
    World.registry? (w.setRegistry r registry') r = some registry' := by
  have hlt : r.index < w.registries.length := (List.getElem?_eq_some_iff.1 h).1
  simp [setRegistry, hlt, World.registry?]

/-- All other registries stay where they were. -/
lemma known_setRegistry_of_ne {registry : Registry} (h : r' ≠ r) :
    World.registry? (w.setRegistry r registry) r' = w.registry? r' := by
  have hne : r.index ≠ r'.index := fun e => h (congrArg RegistryId.mk e.symm)
  simp [setRegistry, List.getElem?_set_ne hne, World.registry?]

/-- A registry that is there stays there when another one is made. -/
lemma known_establish {resolver : Resolver} {factory : Factory} {registry : Registry}
    (h : w.registry? r = some registry) :
    World.registry? (w.establish resolver factory).2 r = some registry := by
  have hlt : r.index < w.registries.length := (List.getElem?_eq_some_iff.1 h).1
  simpa [establish, List.getElem?_append_left hlt, World.registry?] using h

/-- A new registry has no entry. -/
@[simp] lemma entriesOf_establish (resolver : Resolver) (factory : Factory) :
    (w.establish resolver factory).2.entriesOf r = w.entriesOf r := by
  cases h : w.registry? r with
  | some registry => rw [entriesOf_eq h, entriesOf_eq (known_establish h)]
  | none =>
    have hge : w.registries.length ≤ r.index := List.getElem?_eq_none_iff.1 h
    have hlast : World.registry? (w.establish resolver factory).2 r =
        [(⟨resolver, factory, []⟩ : Registry)][r.index - w.registries.length]? := by
      simp [establish, List.getElem?_append_right hge, World.registry?]
    rw [entriesOf, entriesOf, h, hlast]
    cases r.index - w.registries.length <;> rfl

/-- To install a registry changes no entry of any registry. -/
@[simp] lemma entriesOf_install (r' : RegistryId) :
    (w.install r').2.entriesOf r = w.entriesOf r := by
  rw [install]
  split <;> rfl

/-- Removing proxies from a registry keeps its other entries. -/
lemma entriesOf_remove_self (gone : List ProxyId) :
    (w.remove r gone).entriesOf r = (w.entriesOf r).filter fun e => !gone.contains e.proxy := by
  rw [remove]
  cases h : w.registry? r with
  | none => simp [entriesOf, h]
  | some registry =>
    rw [entriesOf_record, entriesOf_eq (known_setRegistry_self h),
      entriesOf_eq h, Registry.remove]

/-- Removing proxies from a registry does nothing to other registries. -/
lemma entriesOf_remove_of_ne (gone : List ProxyId) (h : r' ≠ r) :
    (w.remove r gone).entriesOf r' = w.entriesOf r' := by
  rw [remove]
  split
  · rfl
  · rw [entriesOf_record, entriesOf, known_setRegistry_of_ne h, entriesOf]

/-- Removing proxies from a registry adds no entry to any registry, and keeps their order. -/
private lemma entriesOf_remove_sublist (gone : List ProxyId) :
    ((w.remove r gone).entriesOf r').Sublist (w.entriesOf r') := by
  by_cases hr : r' = r
  · subst hr
    rw [entriesOf_remove_self]
    exact List.filter_sublist
  · rw [entriesOf_remove_of_ne _ hr]

/-! ## Registering a name -/

/-- What it does to register a name that is not registered: a new proxy of this name, with the
registry's collaborators, comes after all others, in the world and in its registry. -/
structure Registers (w w' : World σ) (r : RegistryId) (name : String) (p : ProxyId) : Prop where
  free : ∀ e ∈ w.entriesOf r, e.name ≠ name
  new : p = ⟨w.proxies.length⟩
  made : ∃ registry, w.registry? r = some registry ∧ w'.proxies =
    w.proxies ++ [{ name, resolver := registry.resolver, factory := registry.factory }]
  entries : w'.entriesOf r = w.entriesOf r ++ [⟨name, p⟩]
  others : ∀ r', r' ≠ r → w'.entriesOf r' = w.entriesOf r'
  journal : w'.journal = .registered r name p :: w.journal

/-- Asking for the proxy of a name changes nothing, or it registers the name.

**Proof sketch.** By cases on whether the name is found. An entry that is found bears the name. If
none is found, the name is put at the end with a new proxy. -/
lemma obtain_registers (h : w.obtain r name = .ok (p, w')) :
    w' = w ∧ ⟨name, p⟩ ∈ w.entriesOf r ∨ Registers w w' r name p := by
  rw [World.obtain] at h
  split at h
  · cases h
  next registry known =>
    split at h
    next found =>
      obtain ⟨rfl, rfl⟩ := Prod.mk.inj (Except.ok.inj h)
      obtain ⟨e, he, rfl⟩ := Option.map_eq_some_iff.1 found
      have hname : e.name = name := by simpa using List.find?_some he
      refine .inl ⟨rfl, ?_⟩
      rw [entriesOf_eq known, ← hname]
      exact List.mem_of_find?_eq_some he
    next missing =>
      obtain ⟨rfl, rfl⟩ := Prod.mk.inj (Except.ok.inj h)
      refine .inr {
        free := ?_
        new := rfl
        made := ⟨registry, known, rfl⟩
        entries := ?_
        others := fun r' hr => ?_
        journal := rfl }
      · rw [entriesOf_eq known]
        simpa [Registry.find?] using missing
      · rw [entriesOf_eq known, entriesOf_record]
        exact entriesOf_eq (known_setRegistry_self (w := { w with proxies := _ }) known)
      · rw [entriesOf_record, entriesOf, known_setRegistry_of_ne hr]
        rfl

/-- A proxy that is there stays there when others are added. -/
lemma proxy?_of_append {proxy : Proxy} {more : List Proxy} (h : w'.proxies = w.proxies ++ more)
    (hp : w.proxy? p = some proxy) : w'.proxy? p = some proxy := by
  have hlt : p.index < w.proxies.length := (List.getElem?_eq_some_iff.1 hp).1
  rw [proxy?, h, List.getElem?_append_left hlt]
  exact hp

/-! ## Proxies and registries persist -/

/-- All proxies and registries are still there, with the same name and the same collaborators. -/
structure Persists (w w' : World σ) : Prop where
  proxy : ∀ p proxy, w.proxy? p = some proxy → ∃ proxy', w'.proxy? p = some proxy' ∧
    proxy'.name = proxy.name ∧ proxy'.resolver = proxy.resolver ∧ proxy'.factory = proxy.factory
  registry : ∀ r registry, w.registry? r = some registry → ∃ registry',
    w'.registry? r = some registry' ∧ registry'.resolver = registry.resolver ∧
      registry'.factory = registry.factory

/-- What keeps proxies and registries where they are lets them persist. -/
private lemma persists_of_eq
    (hproxy : ∀ p proxy, w.proxy? p = some proxy → w'.proxy? p = some proxy)
    (hregistry : ∀ r registry, w.registry? r = some registry → w'.registry? r = some registry) :
    Persists w w' where
  proxy p proxy h := ⟨proxy, hproxy p proxy h, rfl, rfl, rfl⟩
  registry r registry h := ⟨registry, hregistry r registry h, rfl, rfl⟩

/-- That proxies and registries persist composes, and neither the collaborators' state nor what is
current matters.

**Proof sketch.** What is known at first is known in the middle, and hence in the end. The other two
say that proxies and registries are not looked at. -/
lemma persists_silent : Silent (Persists (σ := σ)) where
  refl _ := persists_of_eq (fun _ _ h => h) fun _ _ h => h
  trans {u v w} huv hvw := by
    constructor
    · intro p proxy h
      obtain ⟨proxy', h', hname, hresolver, hfactory⟩ := huv.proxy p proxy h
      obtain ⟨proxy'', h'', hname', hresolver', hfactory'⟩ := hvw.proxy p proxy' h'
      exact ⟨proxy'', h'', hname'.trans hname, hresolver'.trans hresolver, hfactory'.trans hfactory⟩
    · intro r registry h
      obtain ⟨registry', h', hresolver, hfactory⟩ := huv.registry r registry h
      obtain ⟨registry'', h'', hresolver', hfactory'⟩ := hvw.registry r registry' h'
      exact ⟨registry'', h'', hresolver'.trans hresolver, hfactory'.trans hfactory⟩
  host _ _ := persists_of_eq (fun _ _ h => h) fun _ _ h => h
  context _ _ := persists_of_eq (fun _ _ h => h) fun _ _ h => h

/-- They persist when an event is noted. -/
lemma persists_record (e : Event) : Persists w (w.record e) :=
  persists_of_eq (fun _ _ h => h) fun _ _ h => h

/-- Putting a proxy in the place of one with the same name and collaborators. -/
private lemma persists_setProxy {proxy proxy' : Proxy} (h : w.proxy? p = some proxy)
    (hname : proxy'.name = proxy.name) (hresolver : proxy'.resolver = proxy.resolver)
    (hfactory : proxy'.factory = proxy.factory) : Persists w (w.setProxy p proxy') where
  proxy q old hq := by
    by_cases hpq : p = q
    · subst hpq
      obtain rfl : proxy = old := Option.some.inj (h.symm.trans hq)
      exact ⟨proxy', proxy?_setProxy_self h, hname, hresolver, hfactory⟩
    · exact ⟨old, (proxy?_setProxy_of_ne hpq).trans hq, rfl, rfl, rfl⟩
  registry r registry hr := ⟨registry, hr, rfl, rfl⟩

/-- Putting a registry in the place of one with the same collaborators. -/
private lemma persists_setRegistry {registry registry' : Registry}
    (h : w.registry? r = some registry) (hresolver : registry'.resolver = registry.resolver)
    (hfactory : registry'.factory = registry.factory) :
    Persists w (w.setRegistry r registry') where
  proxy p proxy hp := ⟨proxy, hp, rfl, rfl, rfl⟩
  registry r' old hr := by
    by_cases hrr : r' = r
    · subst hrr
      obtain rfl : registry = old := Option.some.inj (h.symm.trans hr)
      exact ⟨registry', known_setRegistry_self h, hresolver, hfactory⟩
    · exact ⟨old, (known_setRegistry_of_ne hrr).trans hr, rfl, rfl⟩

/-- They persist when entries are removed: the registry has fewer entries, and the proxies are all
there. -/
lemma persists_remove (r : RegistryId) (gone : List ProxyId) : Persists w (w.remove r gone) := by
  rw [remove]
  split
  · exact persists_silent.refl w
  next registry known =>
    have put : Persists w (w.setRegistry r (registry.remove gone)) :=
      persists_setRegistry known rfl rfl
    exact persists_silent.trans put (persists_record _)

/-- They persist when an operation begins, which makes a proxy busy and changes nothing else of
it. -/
lemma persists_began {proxy : Proxy} (operation : Proxy.Operation) (h : w.proxy? p = some proxy) :
    Persists w ((w.setProxy p { proxy with busy := true }).record (.began p operation)) := by
  have put : Persists w (w.setProxy p { proxy with busy := true }) :=
    persists_setProxy h rfl rfl rfl
  exact persists_silent.trans put (persists_record _)

/-- The end of an operation writes the state back, and nothing else. -/
lemma persists_ended {operation : Proxy.Operation} {result : Except ProxyError Unit} {proxy : Proxy}
    {state : Proxy.State} {v : World σ} (h : w.proxy? p = some proxy)
    (meanwhile :
      Persists ((w.setProxy p { proxy with busy := true }).record (.began p operation)) v) :
    Persists v ((v.setProxy p { proxy with state }).record (.ended p operation result)) := by
  obtain ⟨proxy', h', hname, hresolver, hfactory⟩ :=
    meanwhile.proxy p _ (proxy?_setProxy_self h)
  have put : Persists v (v.setProxy p { proxy with state }) :=
    persists_setProxy h' hname.symm hresolver.symm hfactory.symm
  exact persists_silent.trans put (persists_record _)

/-- They persist in the course of an operation, if they do in the calls that it makes. -/
lemma persists_operate {perform : Activity.Performance σ}
    (calls : ∀ {c u answer v}, perform c u = .ok (answer, v) → Persists u v)
    {operation : Proxy.Operation} {result : Except ProxyError Unit}
    (h : operate perform H p operation w = .ok (result, w')) : Persists w w' := by
  obtain ⟨proxy, state, v, known, -, hconverse, rfl⟩ := operate_ok h
  have htalk := persists_silent.converse calls (fun _ _ => persists_record _)
    (fun _ _ => persists_record _) hconverse
  exact persists_silent.trans (persists_began operation known)
    (persists_silent.trans htalk (persists_ended known htalk))

/-- No step takes a proxy or a registry away.

**Proof sketch.** Step by step. A registration puts a proxy behind the others, an operation writes
to the state alone, and a removal touches no proxy. -/
theorem persists_stepwise (H : Host σ) : Stepwise H Persists where
  toSilent := persists_silent
  establish _ _ _ := persists_of_eq (fun _ _ h => h) fun _ _ h => known_establish h
  obtain {w w' r name p} h := by
    rcases obtain_cases h with rfl | ⟨registry, known, -, rfl⟩
    · exact persists_silent.refl _
    · let more : World σ := { w with proxies := w.proxies ++
        [{ name, resolver := registry.resolver, factory := registry.factory }] }
      have added : Persists w more :=
        persists_of_eq (fun _ _ h => proxy?_of_append rfl h) fun _ _ h => h
      have put : Persists more (more.setRegistry r (registry.insert name p)) :=
        persists_setRegistry known rfl rfl
      exact persists_silent.trans added (persists_silent.trans put (persists_record _))
  install w r := by
    rw [install]
    split <;> exact persists_of_eq (fun _ _ h => h) fun _ _ h => h
  operate calls h := persists_operate calls h
  pass {perform r registry w w'} calls _ h := by
    have hsweep := persists_silent.sweep (fun _ _ => persists_record _)
      (fun h => persists_operate calls h) h
    exact persists_silent.trans hsweep (persists_remove r _)
  began operation known _ := persists_began operation known
  asked _ _ _ := persists_record _
  answered _ _ _ := persists_record _

/-! ## Registries in order -/

/-- The registries of the world are in order: no name is registered twice in one of them, and each
entry refers to a proxy of its own name, with the registry's collaborators. -/
structure Kept (w : World σ) : Prop where
  names : ∀ r, ((w.entriesOf r).map Entry.name).Nodup
  known : ∀ r, ∀ e ∈ w.entriesOf r, ∃ proxy registry, w.proxy? e.proxy = some proxy ∧
    proxy.name = e.name ∧ w.registry? r = some registry ∧ proxy.resolver = registry.resolver ∧
      proxy.factory = registry.factory

/-- A world without registries is in order. -/
private lemma kept_opening (host : σ) (context : Context) : Kept { host, context } where
  names r := by simp [entriesOf, registry?]
  known r e he := by simp [entriesOf, registry?] at he

/-- What an entry refers to persists. -/
lemma Kept.known_of_persists (kept : w.Kept) (persists : Persists w w') {e : Entry}
    (he : e ∈ w.entriesOf r) : ∃ proxy registry, w'.proxy? e.proxy = some proxy ∧
      proxy.name = e.name ∧ w'.registry? r = some registry ∧ proxy.resolver = registry.resolver ∧
        proxy.factory = registry.factory := by
  obtain ⟨proxy, registry, hp, hname, hr, hresolver, hfactory⟩ := kept.known r e he
  obtain ⟨proxy', hp', hname', hresolver', hfactory'⟩ := persists.proxy e.proxy proxy hp
  obtain ⟨registry', hr', hresolver'', hfactory''⟩ := persists.registry r registry hr
  exact ⟨proxy', registry', hp', hname'.trans hname, hr',
    hresolver'.trans (hresolver.trans hresolver''.symm),
    hfactory'.trans (hfactory.trans hfactory''.symm)⟩

/-- Registries stay in order where entries are only taken away. -/
private lemma Kept.of_sublist (kept : w.Kept) (persists : Persists w w')
    (hentries : ∀ r, (w'.entriesOf r).Sublist (w.entriesOf r)) : w'.Kept where
  names r := (kept.names r).sublist ((hentries r).map _)
  known r _ he := kept.known_of_persists persists ((hentries r).subset he)

/-- Registries stay in order when a name is registered.

**Proof sketch.** The name was free, so names are still distinct. The new entry refers to the new
proxy, which bears this name, and all other entries are as they were. -/
private lemma Kept.registers (kept : w.Kept) (persists : Persists w w')
    (h : Registers w w' r name p) : w'.Kept := by
  constructor
  case names =>
    intro r'
    by_cases hr : r' = r
    · subst hr
      rw [h.entries, List.map_append, List.nodup_append]
      refine ⟨kept.names r', by simp, ?_⟩
      rintro _ hold _ hnew rfl
      obtain ⟨e, he, rfl⟩ := List.mem_map.1 hold
      exact h.free e he (by simpa using hnew)
    · rw [h.others r' hr]
      exact kept.names r'
  case known =>
    intro r' _ he
    by_cases hr : r' = r
    · subst hr
      rw [h.entries, List.mem_append, List.mem_singleton] at he
      rcases he with he | rfl
      · exact kept.known_of_persists persists he
      · obtain ⟨registry, hr, hproxies⟩ := h.made
        obtain ⟨registry', hr', hresolver, hfactory⟩ := persists.registry r' registry hr
        refine ⟨{ name, resolver := registry.resolver, factory := registry.factory }, registry', ?_,
          rfl, hr', hresolver.symm, hfactory.symm⟩
        simp [proxy?, hproxies, h.new]
    · rw [h.others r' hr] at he
      exact kept.known_of_persists persists he

/-- Between two worlds proxies and registries persist, and registries stay in order. -/
structure Keeping (w w' : World σ) : Prop where
  persists : Persists w w'
  kept : w.Kept → w'.Kept

/-- Where proxies and registries persist, and no entry changes, the registries stay in order. -/
lemma keeping_of_eq (persists : Persists w w') (h : ∀ r, w'.entriesOf r = w.entriesOf r) :
    Keeping w w' :=
  ⟨persists, fun kept => kept.of_sublist persists fun r => by rw [h r]⟩

/-- Keeping order composes, and neither the collaborators' state nor what is current matters to
it. -/
lemma keeping_silent : Silent (Keeping (σ := σ)) where
  refl w := keeping_of_eq (persists_silent.refl w) fun _ => rfl
  trans huv hvw :=
    ⟨persists_silent.trans huv.persists hvw.persists, fun kept => hvw.kept (huv.kept kept)⟩
  host w s := keeping_of_eq (persists_silent.host w s) fun _ => rfl
  context w c := keeping_of_eq (persists_silent.context w c) fun _ => rfl

/-- Order is kept when an event is noted. -/
lemma keeping_record (e : Event) : Keeping w (w.record e) :=
  keeping_of_eq (persists_record e) fun _ => rfl

/-- Order is kept in the course of an operation, if it is in the calls that it makes.

**Proof sketch.** An operation writes its proxy twice and records its beginning and its end, none of
which concerns an entry. In between there are the calls. -/
lemma keeping_operate {perform : Activity.Performance σ}
    (calls : ∀ {c u answer v}, perform c u = .ok (answer, v) → Keeping u v)
    {operation : Proxy.Operation} {result : Except ProxyError Unit}
    (h : operate perform H p operation w = .ok (result, w')) : Keeping w w' := by
  obtain ⟨proxy, state, v, known, -, hconverse, rfl⟩ := operate_ok h
  have hbegun :
      Keeping w ((w.setProxy p { proxy with busy := true }).record (.began p operation)) :=
    keeping_of_eq (persists_began operation known) fun _ => rfl
  have htalk := keeping_silent.converse calls (fun _ _ => keeping_record _)
    (fun _ _ => keeping_record _) hconverse
  have hended :
      Keeping v ((v.setProxy p { proxy with state }).record (.ended p operation result)) :=
    keeping_of_eq (persists_ended known htalk.persists) fun _ => rfl
  exact keeping_silent.trans hbegun (keeping_silent.trans htalk hended)

/-- Every step keeps the registries in order.

**Proof sketch.** Step by step. A registration is `Kept.registers`, and a removal leaves some of the
entries. -/
theorem keeping_stepwise (H : Host σ) : Stepwise H Keeping where
  toSilent := keeping_silent
  establish w resolver factory :=
    keeping_of_eq ((persists_stepwise H).establish w resolver factory) fun _ =>
      entriesOf_establish ..
  obtain {w w' r name p} h := by
    refine ⟨(persists_stepwise H).obtain h, fun kept => ?_⟩
    rcases obtain_registers h with ⟨rfl, -⟩ | registers
    · exact kept
    · exact kept.registers ((persists_stepwise H).obtain h) registers
  install w r :=
    keeping_of_eq ((persists_stepwise H).install w r) fun _ => entriesOf_install r
  operate calls h := keeping_operate calls h
  pass {perform r registry w w'} calls _ h := by
    have hsweep := keeping_silent.sweep (fun _ _ => keeping_record _)
      (fun h => keeping_operate calls h) h
    refine keeping_silent.trans hsweep ⟨persists_remove r _, fun kept => ?_⟩
    exact kept.of_sublist (persists_remove r _) fun _ => entriesOf_remove_sublist _
  began operation known _ := keeping_of_eq (persists_began operation known) fun _ => rfl
  asked _ _ _ := keeping_record _
  answered _ _ _ := keeping_record _

/-- The registries are in order in every world that a run goes through. -/
theorem Reachable.kept (reachable : Reachable H w) : w.Kept := by
  have follows := (keeping_stepwise H).follows fun _ _ _ => keeping_record _
  obtain ⟨host, context, keeping⟩ := follows.reachable reachable
  exact keeping.kept (kept_opening host context)

/-! ## What order is good for -/

namespace Kept

variable (kept : w.Kept) {registry : Registry}
include kept

/-- The proxy that an entry refers to has the name of the entry. -/
lemma name_eq {e : Entry} {proxy : Proxy} (he : e ∈ w.entriesOf r)
    (known : w.proxy? e.proxy = some proxy) : proxy.name = e.name := by
  obtain ⟨proxy', -, known', hname, -⟩ := kept.known r e he
  obtain rfl : proxy = proxy' := Option.some.inj (known.symm.trans known')
  exact hname

/-- No proxy is registered twice in one registry. -/
lemma nodup_members (r : RegistryId) : (w.members r).Nodup := by
  have names := kept.names r
  rw [List.Nodup, List.pairwise_map] at names
  rw [members, List.Nodup, List.pairwise_map]
  refine names.imp_of_mem fun {a b} ha hb hne same => hne ?_
  obtain ⟨proxy, -, known, hname, -⟩ := kept.known r a ha
  exact hname.symm.trans (kept.name_eq hb (same ▸ known))

/-- A proxy that is registered is one of those that the world has. -/
lemma index_lt (h : p ∈ w.members r) : p.index < w.proxies.length := by
  obtain ⟨e, he, rfl⟩ := List.mem_map.1 h
  obtain ⟨proxy, -, known, -⟩ := kept.known r e he
  exact (List.getElem?_eq_some_iff.1 known).1

/-- The entry of a name is the one that is found.

**Proof sketch.** What is found is an entry of the name. Conversely an entry of the name is the one
that is found, since no two have the same name. -/
lemma find?_eq_iff (known : w.registry? r = some registry) :
    registry.find? name = some p ↔ ⟨name, p⟩ ∈ w.entriesOf r := by
  have names := kept.names r
  rw [entriesOf_eq known] at names ⊢
  rw [Registry.find?, Option.map_eq_some_iff]
  constructor
  · rintro ⟨e, found, rfl⟩
    have hname : e.name = name := by simpa using List.find?_some found
    rw [← hname]
    exact List.mem_of_find?_eq_some found
  · intro member
    cases found : registry.entries.find? (fun e => e.name == name) with
    | none => simpa using List.find?_eq_none.1 found _ member
    | some e =>
      have hname : e.name = name := by simpa using List.find?_some found
      have same : e = ⟨name, p⟩ :=
        List.inj_on_of_nodup_map names (List.mem_of_find?_eq_some found) member hname
      exact ⟨e, rfl, by rw [same]⟩

/-- A proxy that is registered is found under its name. -/
lemma find?_eq {proxy : Proxy} (hr : w.registry? r = some registry) (hp : p ∈ w.members r)
    (known : w.proxy? p = some proxy) : registry.find? proxy.name = some p := by
  obtain ⟨e, he, rfl⟩ := List.mem_map.1 hp
  rw [kept.find?_eq_iff hr, kept.name_eq he known]
  exact he

/-- To ask for the proxy of a name that is registered changes nothing. -/
lemma obtain_of_mem {bound : Nat} (known : w.registry? r = some registry)
    (entry : ⟨name, p⟩ ∈ w.entriesOf r) : perform H bound (.obtain r name) w = .ok (p, w) := by
  have found : registry.find? name = some p := (kept.find?_eq_iff known).2 entry
  rw [perform, World.obtain, known]
  dsimp only
  rw [found]
  rfl

end Kept

/-! ## New proxies are new -/

end World

/-- The registry and the proxy of a registration. -/
def Event.registration? : Event → Option (RegistryId × ProxyId)
  | .registered r _ p => some (r, p)
  | _ => none

/-- The registrations that a journal tells of, in the order in which they happened. -/
def registrations (news : List Event) : List (RegistryId × ProxyId) :=
  news.reverse.filterMap Event.registration?

/-- The proxies that were registered in the registry `r`, in the order of registration. -/
def registeredIn (r : RegistryId) (news : List Event) : List ProxyId :=
  ((registrations news).filter (·.1 = r)).map Prod.snd

section Registrations

variable {r : RegistryId} {p : ProxyId} {news later : List Event} {e : Event}

/-- Nothing that happens to a proxy is a registration. -/
lemma Event.IsOf.registration?_eq (h : e.IsOf p) : e.registration? = none := by
  cases e with
  | began _ _ | asked _ _ | answered _ _ | ended _ _ _ => rfl
  | registered _ _ _ | swept _ _ | removed _ _ => exact h.elim

/-- The registrations of two stretches of a journal, earlier stretch first. -/
lemma registrations_append :
    registrations (later ++ news) = registrations news ++ registrations later := by
  simp [registrations]

/-- Where nothing happened nothing was registered. -/
@[simp] lemma registeredIn_nil : registeredIn r [] = [] := rfl

/-- The proxies that were registered in two stretches of a journal, earlier stretch first. -/
@[simp] lemma registeredIn_append :
    registeredIn r (later ++ news) = registeredIn r news ++ registeredIn r later := by
  simp [registeredIn, registrations_append]

/-- An event that is no registration adds none. -/
lemma registeredIn_cons_of_none (h : e.registration? = none) :
    registeredIn r (e :: news) = registeredIn r news := by
  simp [registeredIn, registrations, h]

end Registrations

namespace World

variable {w w' : World σ}

/-- Between two worlds the journal only grows, and the proxies that are registered are the next
ones, in order. -/
def Numbers (w w' : World σ) : Prop :=
  ∃ news n, w'.journal = news ++ w.journal ∧ w'.proxies.length = w.proxies.length + n ∧
    (registrations news).map Prod.snd = (List.range' w.proxies.length n).map ProxyId.mk

/-- Where neither the journal nor the number of proxies changes there is nothing to number. -/
private lemma numbers_of_eq (hjournal : w'.journal = w.journal)
    (hlength : w'.proxies.length = w.proxies.length) : Numbers w w' :=
  ⟨[], 0, hjournal, hlength, rfl⟩

/-- An event that is no registration needs no new proxy. -/
private lemma numbers_record {e : Event} (h : e.registration? = none) : Numbers w (w.record e) :=
  ⟨[e], 0, rfl, rfl, by simp [registrations, h]⟩

/-- Numbering composes, and neither the collaborators' state nor what is current matters to it. -/
private lemma numbers_silent : Silent (Numbers (σ := σ)) where
  refl _ := numbers_of_eq rfl rfl
  trans := by
    rintro u v w ⟨news, n, hv, hvn, hnews⟩ ⟨later, m, hw, hwm, hlater⟩
    refine ⟨later ++ news, n + m, journal_trans hv hw, by omega, ?_⟩
    rw [registrations_append, List.map_append, hnews, hlater, hvn, ← List.map_append,
      List.range'_append_1]
  host _ _ := numbers_of_eq rfl rfl
  context _ _ := numbers_of_eq rfl rfl

/-- In the course of an operation new proxies are numbered one after the other, if they are in the
calls that it makes. -/
private lemma numbers_operate {perform : Activity.Performance σ} {p : ProxyId}
    (calls : ∀ {c u answer v}, perform c u = .ok (answer, v) → Numbers u v)
    {operation : Proxy.Operation} {result : Except ProxyError Unit}
    (h : operate perform H p operation w = .ok (result, w')) : Numbers w w' := by
  refine numbers_silent.operate calls (fun w proxy => ?_)
    (fun w e he => numbers_record he.registration?_eq) h
  exact numbers_of_eq rfl (by simp [setProxy])

/-- The proxies that are registered are the next ones, in order.

**Proof sketch.** Step by step. A registration makes the next proxy, and nothing else makes one. -/
theorem numbers_closed (H : Host σ) : Closed H Numbers where
  toSilent := numbers_silent
  establish _ _ _ := numbers_of_eq rfl rfl
  obtain h := by
    rcases obtain_registers h with ⟨rfl, -⟩ | registers
    · exact numbers_silent.refl _
    · obtain ⟨registry, -, hproxies⟩ := registers.made
      exact ⟨[_], 1, registers.journal, by simp [hproxies],
        by simp [registrations, Event.registration?, registers.new]⟩
  install w r := by
    rw [install]
    split <;> exact numbers_of_eq rfl rfl
  operate calls h := numbers_operate calls h
  pass {perform r registry w w'} calls _ h := by
    have hsweep := numbers_silent.sweep (fun _ _ => numbers_record rfl)
      (fun h => numbers_operate calls h) h
    refine numbers_silent.trans hsweep ?_
    rw [remove]
    split
    · exact numbers_silent.refl w'
    · exact ⟨[_], 0, rfl, rfl, rfl⟩

/-- The proxies that are registered meanwhile are different from each other, and from all that the
world had before.

**Proof sketch.** The registered proxies are numbered one after the other from the number of those
that were there. Those of one registry are some of them, in order. -/
lemma Numbers.new {news : List Event} (numbers : Numbers w w') (r : RegistryId)
    (happened : w'.journal = news ++ w.journal) :
    (registeredIn r news).Nodup ∧ ∀ p ∈ registeredIn r news, w.proxies.length ≤ p.index := by
  obtain ⟨news', n, happened', -, numbers⟩ := numbers
  obtain rfl : news = news' := List.append_cancel_right (happened.symm.trans happened')
  have sublist : (registeredIn r news).Sublist
      ((List.range' w.proxies.length n).map ProxyId.mk) := by
    rw [← numbers]
    exact List.filter_sublist.map _
  refine ⟨.sublist sublist ?_, fun p hp => ?_⟩
  · exact List.Nodup.map (fun _ _ h => congrArg ProxyId.index h) (List.nodup_range' ..)
  · obtain ⟨i, hi, rfl⟩ := List.mem_map.1 (sublist.subset hp)
    exact (List.mem_range'_1.1 hi).1

/-- The proxies that are registered in the course of a call are different from each other, and from
all that the world had before. -/
lemma new_members {bound : Nat} {c : Call} {answer : c.Answer} {news : List Event}
    (r : RegistryId) (ended : perform H bound c w = .ok (answer, w'))
    (happened : w'.journal = news ++ w.journal) :
    (registeredIn r news).Nodup ∧ ∀ p ∈ registeredIn r news, w.proxies.length ≤ p.index :=
  ((numbers_closed H).perform ended).new r happened

/-! ## The order of the entries -/

/-- Between two worlds entries are only added at the end, as the journal tells, and taken away. -/
def Enrolls (w w' : World σ) : Prop :=
  ∃ news, w'.journal = news ++ w.journal ∧
    ∀ r, (w'.members r).Sublist (w.members r ++ registeredIn r news)

/-- Where nothing is told and entries are taken away at most, no entry is added. -/
private lemma enrolls_of_sublist (hjournal : w'.journal = w.journal)
    (h : ∀ r, (w'.entriesOf r).Sublist (w.entriesOf r)) : Enrolls w w' :=
  ⟨[], hjournal, fun r => by simpa [members] using (h r).map Entry.proxy⟩

/-- Where nothing is told and no entry changes, none is added. -/
private lemma enrolls_of_eq (hjournal : w'.journal = w.journal)
    (h : ∀ r, w'.entriesOf r = w.entriesOf r) : Enrolls w w' :=
  enrolls_of_sublist hjournal fun r => by rw [h r]

/-- An event that is no registration adds no entry. -/
private lemma enrolls_record {e : Event} (h : e.registration? = none) : Enrolls w (w.record e) :=
  ⟨[e], rfl, fun r => by
    rw [registeredIn_cons_of_none h, registeredIn_nil, List.append_nil]
    exact .refl _⟩

/-- Adding entries at the end, and taking some away, composes. -/
private lemma enrolls_silent : Silent (Enrolls (σ := σ)) where
  refl _ := enrolls_of_eq rfl fun _ => rfl
  trans := by
    rintro u v w ⟨news, hv, hnews⟩ ⟨later, hw, hlater⟩
    refine ⟨later ++ news, journal_trans hv hw, fun r => (hlater r).trans ?_⟩
    rw [registeredIn_append, ← List.append_assoc]
    exact (hnews r).append_right _
  host _ _ := enrolls_of_eq rfl fun _ => rfl
  context _ _ := enrolls_of_eq rfl fun _ => rfl

/-- An operation adds entries at the end at most, if the calls that it makes do. -/
private lemma enrolls_operate {perform : Activity.Performance σ} {p : ProxyId}
    (calls : ∀ {c u answer v}, perform c u = .ok (answer, v) → Enrolls u v)
    {operation : Proxy.Operation} {result : Except ProxyError Unit}
    (h : operate perform H p operation w = .ok (result, w')) : Enrolls w w' :=
  enrolls_silent.operate calls (fun _ _ => enrolls_of_eq rfl fun _ => rfl)
    (fun _ _ he => enrolls_record he.registration?_eq) h

/-- A removal takes entries away and adds none. -/
private lemma enrolls_remove (r : RegistryId) (gone : List ProxyId) :
    Enrolls w (w.remove r gone) := by
  rcases remove_cases (w := w) r gone with same | told
  · rw [same]
    exact enrolls_silent.refl w
  · refine ⟨_, told, fun r' => ?_⟩
    simpa [members, registeredIn_cons_of_none (e := .removed r gone) rfl] using
      (entriesOf_remove_sublist gone).map Entry.proxy

/-- Every step adds entries at the end or takes entries away.

**Proof sketch.** Step by step. A registration adds its proxy to one registry at the end, and a pass
takes away those that it found. -/
theorem enrolls_stepwise (H : Host σ) : Stepwise H Enrolls where
  toSilent := enrolls_silent
  establish w resolver factory := enrolls_of_eq rfl fun _ => entriesOf_establish ..
  obtain {w w' r name p} h := by
    rcases obtain_registers h with ⟨rfl, -⟩ | registers
    · exact enrolls_silent.refl _
    · refine ⟨[.registered r name p], registers.journal, fun r' => ?_⟩
      by_cases hr : r' = r
      · subst hr
        simp [members, registers.entries, registeredIn, registrations, Event.registration?]
      · simp [members, registers.others r' hr]
  install w r :=
    enrolls_of_eq (journal_install r) fun _ => entriesOf_install r
  operate calls h := enrolls_operate calls h
  pass calls _ h := enrolls_silent.trans
    (enrolls_silent.sweep (fun _ _ => enrolls_record rfl) (fun h => enrolls_operate calls h) h)
    (enrolls_remove ..)
  began operation _ _ := enrolls_record (w := World.setProxy ..) rfl
  asked _ _ _ := enrolls_record rfl
  answered _ _ _ := enrolls_record rfl

/-- The entries of a registry are in the order in which the journal tells of their registration, in
every world that a run goes through. -/
theorem Reachable.members_sublist (reachable : Reachable H w) (r : RegistryId) :
    (w.members r).Sublist (registeredIn r w.journal) := by
  have follows := (enrolls_stepwise H).follows fun _ _ _ => enrolls_record rfl
  obtain ⟨host, context, news, hjournal, hmembers⟩ := follows.reachable reachable
  obtain rfl : w.journal = news := by simpa using hjournal
  simpa [members, entriesOf, registry?] using hmembers r

end World

end Standby
