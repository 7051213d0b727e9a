import Standby.Manifest.Read
import Standby.Proofs.Names
import Standby.Proofs.Nesting
import Standby.Proofs.Preparation
import Standby.Proofs.World.Conversation
set_option autoImplicit false

/-!
# From a manifest to running components

A manifest that was read is applied to a new registry, and then the registry is initialized in the
scope of a catalog. Every declared name is looked up in this catalog, those that are marked are
started, and the first component that cannot be had ends it all.

## Main definitions

* `Standby.heard` — what one proxy was told.
* `Standby.Boots` — the ways in which the resolution of a declared component can end.
* `Standby.World.Fares`, `Standby.World.Booted`, `Standby.World.Bootstraps` — what became of one
  component, what its resolution did, and what several did.
* `Standby.World.Applied` — what applying a manifest to a new registry does.
* `Standby.World.Stalled` — why an initialization does not return.
* `Standby.World.Bootstrapped` — all that is to be said of one that did.

## Main results

* `Standby.Boots.ready` — a component that did not fail runs if it is marked.
* `Standby.World.booted_of_aloof` — a resolution takes one of the ways of `Standby.Boots`.
* `Standby.World.bootstraps_of_aloof` — all components in order, up to the first failure.
* `Standby.World.bootstrap` — the whole way from the text of a manifest.

## Design

The collaborators are the types of the catalog. That they keep away from the registry is read off
the journal, and that they neither enter nor leave a catalog on the thread is read off the course of
the initialization. They may do with everything else what they like.
-/

namespace Standby

variable {σ : Type} {H : Host σ}

/-- The answers that a proxy got, in order and with its calls. -/
def heard (p : ProxyId) (news : List Event) : List Exchange := (conversation [p] news).map Prod.snd

/-- What a proxy heard in the course of two stretches of a journal, earlier stretch first. -/
@[simp] lemma heard_append {p : ProxyId} {news later : List Event} :
    heard p (later ++ news) = heard p news ++ heard p later := by
  simp [heard]

/-! ## What a catalog answers -/

/-- A type is found if it is visible. -/
private lemma Catalog.resolve_eq_ok {c : Catalog} {name : String} {type : TypeHandle} :
    c.resolve name = .ok type ↔ c.lookup name = some type := by
  rw [resolve]
  cases c.lookup name <;> simp

/-- A name is not found if it is not visible, and nothing else goes wrong. -/
private lemma Catalog.resolve_eq_error {c : Catalog} {name : String} {e : NotFound} :
    c.resolve name = .error e ↔ c.lookup name = none ∧ e = .unknown name := by
  rw [resolve]
  cases c.lookup name <;> simp [eq_comm]

/-- The same call, made first in both cases, was given the same answer. -/
private lemma answer_eq {q : Request} {a b : q.Answer} {es es' : List Exchange}
    (h : (⟨q, a⟩ : Exchange) :: es = ⟨q, b⟩ :: es') : a = b :=
  eq_of_heq (Sigma.mk.inj (List.cons.inj h).1).2

/-! ## What a manifest declares -/

/-- A manifest that is accepted declares no name twice.

**Proof sketch.** What is accepted passed the check of its names, and this check accepts no
repetition. -/
private lemma Manifest.nodup_of_read {text : String} {m : Manifest}
    (accepted : Manifest.read text = .ok m) : (m.components.map Declaration.name).Nodup := by
  rw [Manifest.read] at accepted
  split at accepted
  · cases accepted
  split at accepted
  · cases accepted
  split at accepted
  · cases accepted
  next passed =>
    obtain rfl := Except.ok.inj accepted
    exact (checkNames_ok_iff.mp passed).2

/-! ## One declared component -/

/-- The type of which a product has to be made for a declared component, if it is to be started and
its name is visible. -/
def Declaration.construction? (c : Shared Catalog) (d : Declaration) : Option TypeHandle :=
  if d.start then c.value.lookup d.name else none

/-- The ways in which the resolution of a declared component ends while `c` is current: what its
proxy is told, the result, and the state that is left. -/
inductive Boots (c : Shared Catalog) (d : Declaration) :
    List Exchange → Except ProxyError Unit → Proxy.State → Prop
  /-- The name is not visible. -/
  | invisible (hidden : c.value.lookup d.name = none) :
    Boots c d [⟨.resolve d.name, .error (.unknown d.name)⟩] (.error (.notFound (.unknown d.name)))
      { startRequested := d.start }
  /-- The component is not to be started. -/
  | resting {type : TypeHandle} (visible : c.value.lookup d.name = some type)
    (unmarked : d.start = false) :
    Boots c d [⟨.resolve d.name, .ok type⟩] (.ok ()) { type := some type }
  /-- The construction fails. -/
  | unbuilt {type : TypeHandle} (e : ConstructionError)
    (visible : c.value.lookup d.name = some type) (marked : d.start = true) :
    Boots c d [⟨.resolve d.name, .ok type⟩, ⟨.create type, .error e⟩] (.error (.construction e))
      { type := some type, startRequested := true, lastError := some (.construction e) }
  /-- The product says at once that it cannot be started, and is dropped. -/
  | unfit {type : TypeHandle} (product : Product) (visible : c.value.lookup d.name = some type)
    (marked : d.start = true) :
    Boots c d [⟨.resolve d.name, .ok type⟩, ⟨.create type, .ok product⟩,
      ⟨.capability product, false⟩] (.error (Proxy.mismatch type))
      { type := some type, startRequested := true, lastError := some (Proxy.mismatch type) }
  /-- The product says so when it is asked again. -/
  | refused {type : TypeHandle} (product : Product) (visible : c.value.lookup d.name = some type)
    (marked : d.start = true) :
    Boots c d [⟨.resolve d.name, .ok type⟩, ⟨.create type, .ok product⟩,
      ⟨.capability product, true⟩, ⟨.capability product, false⟩] (.error (Proxy.mismatch type))
      { type := some type, product := some product, startRequested := true,
        lastError := some (Proxy.mismatch type) }
  /-- The start fails. -/
  | startFailed {type : TypeHandle} (product : Product) (e : LifecycleError)
    (visible : c.value.lookup d.name = some type) (marked : d.start = true) :
    Boots c d [⟨.resolve d.name, .ok type⟩, ⟨.create type, .ok product⟩,
      ⟨.capability product, true⟩, ⟨.capability product, true⟩, ⟨.start product, .error e⟩]
      (.error (.start d.name e))
      { type := some type, product := some product, startRequested := true,
        lastError := some (.start d.name e) }
  /-- The component runs. -/
  | running {type : TypeHandle} (product : Product) (visible : c.value.lookup d.name = some type)
    (marked : d.start = true) :
    Boots c d [⟨.resolve d.name, .ok type⟩, ⟨.create type, .ok product⟩,
      ⟨.capability product, true⟩, ⟨.capability product, true⟩, ⟨.start product, .ok ()⟩] (.ok ())
      { type := some type, product := some product, startRequested := true, running := true }

namespace Boots

variable {c : Shared Catalog} {d : Declaration} {es : List Exchange} {s : Proxy.State}
  {result : Except ProxyError Unit}

/-- A component that did not fail is resolved to the type of the catalog, and it runs and holds a
product exactly if it is marked. -/
lemma ready (h : Boots c d es (.ok ()) s) : ∃ type, c.value.lookup d.name = some type ∧
    s.type = some type ∧ s.startRequested = d.start ∧ s.running = d.start ∧
      s.product.isSome = d.start ∧ s.lastError = none := by
  cases h with
  | resting visible unmarked =>
    exact ⟨_, visible, rfl, unmarked.symm, unmarked.symm, unmarked.symm, rfl⟩
  | running product visible marked =>
    exact ⟨_, visible, rfl, marked.symm, marked.symm, marked.symm, rfl⟩

/-- One product is made of the type of a component that is to be started, and none of any other. -/
private lemma constructions (h : Boots c d es result s) :
    es.filterMap (fun told => told.1.constructed?) = (d.construction? c).toList := by
  cases h with
  | invisible hidden => simp [Declaration.construction?, hidden, Request.constructed?]
  | resting visible unmarked => simp [Declaration.construction?, unmarked, Request.constructed?]
  | unbuilt _ visible marked | unfit _ visible marked | refused _ visible marked
  | startFailed _ _ visible marked | running _ visible marked =>
    simp [Declaration.construction?, visible, marked, Request.constructed?]

/-- The resolution of a proxy that knows nothing but whether it is to be started takes one of these
ways, if the first answer that it gets is that of the catalog.

**Proof sketch.** By cases on the way that the resolution took. A name that is resolved is excluded,
since the proxy knows nothing. In the other cases the first answer is the catalog's, so it says
whether the name is visible. -/
private lemma of_path {rest : List Exchange}
    (path : Proxy.OperationPath d.name .resolve { startRequested := d.start } es (result, s))
    (asked : es = ⟨.resolve d.name, c.value.resolve d.name⟩ :: rest) : Boots c d es result s := by
  generalize ho : ((result, s) : Proxy.Outcome) = o at path
  cases path with
  | known typed => cases typed
  | missing e =>
    obtain ⟨rfl, rfl⟩ := Prod.mk.inj ho
    obtain ⟨hidden, rfl⟩ := Catalog.resolve_eq_error.1 (answer_eq asked).symm
    exact .invisible hidden
  | found type _ unmarked =>
    obtain ⟨rfl, rfl⟩ := Prod.mk.inj ho
    have visible := Catalog.resolve_eq_ok.1 (answer_eq asked).symm
    have marked : d.start = false := unmarked
    rw [marked]
    exact .resting visible marked
  | @foundPending _ type _ _ _ marked tried =>
    have visible := Catalog.resolve_eq_ok.1 (answer_eq asked).symm
    have marked : d.start = true := marked
    rw [marked] at tried
    cases tried with
    | held held _ => cases held
    | unbuilt e =>
      obtain ⟨rfl, rfl⟩ := Prod.mk.inj ho
      exact .unbuilt e visible marked
    | unfit product =>
      obtain ⟨rfl, rfl⟩ := Prod.mk.inj ho
      exact .unfit product visible marked
    | @built product _ _ _ launched =>
      cases launched with
      | refused =>
        obtain ⟨rfl, rfl⟩ := Prod.mk.inj ho
        exact .refused product visible marked
      | startFailed e =>
        obtain ⟨rfl, rfl⟩ := Prod.mk.inj ho
        exact .startFailed product e visible marked
      | started =>
        obtain ⟨rfl, rfl⟩ := Prod.mk.inj ho
        exact .running product visible marked

end Boots

namespace World

variable {w w' v : World σ} {r : RegistryId} {p : ProxyId} {ps : List ProxyId} {bound : Nat}
  {news later : List Event} {result : Except ProxyError Unit} {c : Shared Catalog} {d : Declaration}

/-- A resolution of a proxy whose type is unknown and that asks what is current asks this first.

**Proof sketch.** The ambient resolver looks at what is current and asks the catalog, neither of
which runs code of a collaborator's. So the first exchange is known, and what comes after it is the
rest. -/
private lemma exchanges_ambient (bound : Nat) {proxy : Proxy} (known : w.proxy? p = some proxy)
    (ambient : proxy.resolver = .ambient) (untyped : proxy.state.type = none)
    (current : w.context = some c) :
    ∃ rest, exchanges (perform H bound) H p .resolve w =
      ⟨.resolve proxy.name, c.value.resolve proxy.name⟩ :: rest := by
  let begun := (w.setProxy p { proxy with busy := true }).record (.began p .resolve)
  let asking := begun.record (.asked p (.resolve proxy.name))
  have serve : (H.serve proxy.resolver proxy.factory (.resolve proxy.name)).run (perform H bound)
      asking = .ok (c.value.resolve proxy.name, asking) := by
    have there : asking.context = some c := current
    have asked : perform H bound .current asking = .ok (some c, asking) := by
      rw [← there]
      cases bound <;> rfl
    rw [ambient]
    exact Activity.run_call asked
  rw [exchanges_eq known]
  simp only [Proxy.Operation.talk, Proxy.resolve, untyped]
  exact ⟨_, conversed_ask serve⟩

/-- How the component `d`, declared for the proxy `p`, fared on the way to `w'` that `news` tells
of: its resolution ended with `result`. -/
def Fares (c : Shared Catalog) (d : Declaration) (p : ProxyId) (w' : World σ) (news : List Event)
    (result : Except ProxyError Unit) : Prop :=
  ∃ s, Boots c d (heard p news) result s ∧
    w'.proxy? p = some { d.proxy .ambient .direct with state := s }

/-- What happens to others does not matter to a component. -/
private lemma Fares.append (h : Fares c d p v news result) (same : w'.proxy? p = v.proxy? p)
    (nothing : heard p later = []) : Fares c d p w' (later ++ news) result := by
  obtain ⟨s, boots, left⟩ := h
  exact ⟨s, by rwa [heard_append, nothing, List.append_nil], same.trans left⟩

/-- What happened before does not matter to how a declaration fares, if the proxy heard nothing
then. -/
private lemma Fares.prepend (h : Fares c d p w' later result) (nothing : heard p news = []) :
    Fares c d p w' (later ++ news) result := by
  obtain ⟨s, boots, left⟩ := h
  exact ⟨s, by rwa [heard_append, nothing, List.nil_append], left⟩

/-- What the resolution of the component `d`, declared for the proxy `p`, did on the way from `w` to
`w'` that `news` tells of, while `c` was current. -/
structure Booted (r : RegistryId) (ps : List ProxyId) (c : Shared Catalog) (d : Declaration)
    (p : ProxyId) (w w' : World σ) (news : List Event)
    (result : Except ProxyError Unit) : Prop where
  fares : Fares c d p w' news result
  /-- The other proxies of the registry are left alone, and they are told nothing. -/
  others : ∀ q ∈ ps, q ≠ p → w'.proxy? q = w.proxy? q ∧ heard q news = []
  constructions : constructions ps news = (d.construction? c).toList
  context : w'.context = some c
  entries : w'.entriesOf r = w.entriesOf r

/-- **One declared component.** Its resolution takes one of the ways of `Boots`, and no notice of it
is taken anywhere else in the registry.

**Proof sketch.** The proxy asks for what is current and gets the answer of the catalog, so the
exits of a resolution are those of `Boots`. What the proxies of the registry were told are the calls
of this operation alone. -/
lemma booted_of_aloof (hp : p ∈ ps) (known : ∀ q ∈ ps, ∃ proxy, w.proxy? q = some proxy)
    (declared : w.proxy? p = some (d.proxy .ambient .direct)) (current : w.context = some c)
    (h : operate (perform H bound) H p .resolve w = .ok (result, w'))
    (happened : w'.journal = news ++ w.journal) (aloof : Aloof r ps news)
    (still : (course H (bound + 1) (.operate p .resolve) w).Still) :
    Booted r ps c d p w w' news result := by
  obtain ⟨s, left, path⟩ := operate_path declared h
  obtain ⟨rest, asked⟩ := exchanges_ambient (H := H) bound declared rfl rfl current
  have own : heard p news = exchanges (perform H bound) H p .resolve w := by
    rw [heard, conversation_operate h happened, List.map_map]
    exact List.map_id _
  have boots : Boots c d (heard p news) result s := own ▸ .of_path path asked
  obtain ⟨proxy, state, resolves⟩ := resolves_of_aloof hp known h happened aloof
  refine {
    fares := ⟨s, boots, left⟩
    others := fun q hq hqp => ?others
    constructions := ?constructions
    context := ?context
    entries := resolves.entries }
  case others =>
    obtain ⟨proxy, known⟩ := known q hq
    obtain ⟨there, quiet⟩ := quiet_of_aloof hp h happened aloof hq hqp known
    exact ⟨there.trans known.symm, by rw [heard, conversation_eq_nil quiet, List.map_nil]⟩
  case constructions =>
    rw [constructions, conversation_of_aloof hp known h happened aloof, List.filterMap_map,
      ← boots.constructions, own]
    rfl
  case context =>
    have leads := Course.leads_perform H (bound + 1) (.operate p .resolve) w
    have returns : perform H (bound + 1) (.operate p .resolve) w = .ok (result, w') := h
    rw [returns] at leads
    exact (leads.eq_of_still still).trans current

/-! ## One declared component after the other -/

/-- The components `todo`, each with its proxy, were gone through on the way from `w` to `w'` that
`news` tells of, while `c` was current: those of `done` did not fail, and `rest` begins with the
first that did. -/
structure Bootstraps (r : RegistryId) (ps : List ProxyId) (c : Shared Catalog)
    (todo : List (Declaration × ProxyId)) (w w' : World σ) (news : List Event)
    (result : Except ProxyError Unit) (done rest : List (Declaration × ProxyId)) : Prop where
  split : todo = done ++ rest
  /-- Before the first failure there is none. -/
  before : ∀ x ∈ done, Fares c x.1 x.2 w' news (.ok ())
  /-- Without a failure none is returned. -/
  complete : rest = [] → result = .ok ()
  /-- The first failure is returned. -/
  failed : ∀ x after, rest = x :: after →
    ∃ err, result = .error err ∧ Fares c x.1 x.2 w' news result
  /-- Proxies that were not gone through are left alone, and they are told nothing. -/
  untouched : ∀ q ∈ ps, q ∉ (done ++ rest.take 1).map Prod.snd →
    w'.proxy? q = w.proxy? q ∧ heard q news = []
  /-- One product is made for each visible component that is to be started, up to the first
  failure. -/
  constructions : constructions ps news =
    (done ++ rest.take 1).filterMap fun x => x.1.construction? c
  /-- The entries of the registry are the same afterwards. -/
  entries : w'.entriesOf r = w.entriesOf r

section Run

variable {x : Declaration × ProxyId} {todo done rest : List (Declaration × ProxyId)}

/-- Where there is nothing to go through nothing happens. -/
private lemma Bootstraps.nil : Bootstraps r ps c [] w w [] (.ok ()) [] [] where
  split := rfl
  before := by simp
  complete _ := rfl
  failed := by simp
  untouched _ _ _ := ⟨rfl, rfl⟩
  constructions := rfl
  entries := rfl

/-- A component that fails ends it all.

**Proof sketch.** Nothing was done before it, and nothing is done after it. -/
private lemma Booted.bootstraps {err : ProxyError}
    (booted : Booted r ps c x.1 x.2 w w' news (.error err)) :
    Bootstraps r ps c (x :: todo) w w' news (.error err) [] (x :: todo) where
  split := rfl
  before := by simp
  complete := by simp
  failed := by
    rintro _ _ ⟨⟩
    exact ⟨err, rfl, booted.fares⟩
  untouched q hq hne := booted.others q hq (by simpa using hne)
  constructions := by
    rw [booted.constructions]
    cases h : x.1.construction? c <;> simp [h]
  entries := booted.entries

/-- A component that does not fail makes the prefix longer.

**Proof sketch.** The proxies are distinct, so that what the others do leaves the first one as it
was, and what the first one heard is not heard by the others. Each field is then put together from
what is said of the first and of the others. -/
private lemma Bootstraps.cons (bootstraps : Bootstraps r ps c todo v w' later result done rest)
    (booted : Booted r ps c x.1 x.2 w v news (.ok ())) (members : ∀ y ∈ x :: todo, y.2 ∈ ps)
    (distinct : ((x :: todo).map Prod.snd).Nodup) :
    Bootstraps r ps c (x :: todo) w w' (later ++ news) result (x :: done) rest := by
  obtain ⟨once, -⟩ := List.nodup_cons.1 distinct
  have split := bootstraps.split
  have visited : done ++ rest.take 1 ⊆ todo := by
    rw [split]
    exact ((List.take_sublist 1 rest).append_left done).subset
  have settled : w'.proxy? x.2 = v.proxy? x.2 ∧ heard x.2 later = [] :=
    bootstraps.untouched x.2 (members x (by simp)) fun again =>
      once (List.map_subset Prod.snd visited again)
  have apart : ∀ y ∈ todo, heard y.2 news = [] := fun y hy =>
    (booted.others y.2 (members y (by simp [hy])) fun same =>
      once (same ▸ List.mem_map_of_mem hy)).2
  refine {
    split := by simp [split]
    before := fun y hy => ?before
    complete := bootstraps.complete
    failed := fun y after hrest => ?failed
    untouched := fun q hq hne => ?untouched
    constructions := ?constructions
    entries := bootstraps.entries.trans booted.entries }
  case before =>
    rcases List.mem_cons.1 hy with rfl | hy
    · exact booted.fares.append settled.1 settled.2
    · exact (bootstraps.before y hy).prepend (apart y (by simp [split, hy]))
  case failed =>
    obtain ⟨err, hresult, fares⟩ := bootstraps.failed y after hrest
    exact ⟨err, hresult, fares.prepend (apart y (by simp [split, hrest]))⟩
  case untouched =>
    rw [List.cons_append, List.map_cons, List.mem_cons, not_or] at hne
    obtain ⟨there, nothing⟩ := booted.others q hq hne.1
    obtain ⟨there', nothing'⟩ := bootstraps.untouched q hq hne.2
    exact ⟨there'.trans there, by rw [heard_append, nothing, nothing', List.append_nil]⟩
  case constructions =>
    rw [constructions_append, booted.constructions, bootstraps.constructions, List.cons_append]
    cases h : x.1.construction? c <;> simp [h]

/-- **All declared components.** Those that are gone through take one of the ways of `Boots`, in
order and up to the first failure.

**Proof sketch.** Induction on the components. A component is left alone until it is its turn and
again after that, so what is known of it at the beginning is true when its resolution begins, and
what this leaves is there in the end. -/
lemma bootstraps_of_aloof (members : ∀ x ∈ todo, x.2 ∈ ps) (distinct : (todo.map Prod.snd).Nodup)
    (known : ∀ q ∈ ps, ∃ proxy, w.proxy? q = some proxy)
    (declared : ∀ x ∈ todo, w.proxy? x.2 = some (x.1.proxy .ambient .direct))
    (current : w.context = some c)
    (h : (resolving (todo.map entryOf)).perform H (bound + 1) w = .ok (result, w'))
    (happened : w'.journal = news ++ w.journal) (aloof : Aloof r ps news)
    (still : ((resolving (todo.map entryOf)).courseOf H (bound + 1) w).Still) :
    ∃ done rest, Bootstraps r ps c todo w w' news result done rest := by
  induction todo generalizing w news with
  | nil =>
    obtain ⟨rfl, rfl⟩ : .ok () = result ∧ w = w' := Prod.mk.inj (Except.ok.inj h)
    obtain rfl : news = [] := by simpa using happened
    exact ⟨[], [], .nil⟩
  | cons x todo ih =>
    obtain ⟨first, v, hfirst, h⟩ := resolving_cons_ok h
    rw [List.map_cons, resolving_cons] at still
    obtain ⟨during, after⟩ := Course.still_call still first v
    have member : x.2 ∈ ps := members x (by simp)
    have here := declared x (by simp)
    rcases h with ⟨err, rfl, rfl, rfl⟩ | ⟨rfl, h⟩
    · have booted := booted_of_aloof member known here current hfirst happened aloof during
      exact ⟨[], x :: todo, booted.bootstraps⟩
    · have closed := frames_closed H x.2
      obtain ⟨earlier, hv, -⟩ := closed.operate closed.perform hfirst
      obtain ⟨later, hw', -⟩ := closed.toSilent.run closed.perform h
      obtain rfl : news = later ++ earlier :=
        List.append_cancel_right (happened.symm.trans (journal_trans hv hw'))
      have booted := booted_of_aloof member known here current hfirst hv aloof.parts.2 during
      obtain ⟨once, distinctLater⟩ := List.nodup_cons.1 distinct
      have knownLater : ∀ q ∈ ps, ∃ proxy, v.proxy? q = some proxy := by
        intro q hq
        by_cases hqx : q = x.2
        · obtain ⟨s, -, left⟩ := booted.fares
          exact ⟨_, hqx ▸ left⟩
        · rw [(booted.others q hq hqx).1]
          exact known q hq
      have declaredLater : ∀ y ∈ todo, v.proxy? y.2 = some (y.1.proxy .ambient .direct) := by
        intro y hy
        have apart : y.2 ≠ x.2 := fun same => once (same ▸ List.mem_map_of_mem hy)
        rw [(booted.others y.2 (members y (by simp [hy])) apart).1]
        exact declared y (by simp [hy])
      obtain ⟨done, rest, bootstraps⟩ := ih (fun y hy => members y (by simp [hy])) distinctLater
        knownLater declaredLater booted.context h hw' aloof.parts.1 (after hfirst)
      exact ⟨x :: done, rest, bootstraps.cons booted members distinct⟩

end Run

/-! ## From the text of a manifest -/

/-- What is current does not matter to what was done. -/
private lemma Bootstraps.elsewhere {todo done rest : List (Declaration × ProxyId)}
    {before after : Context}
    (bootstraps : Bootstraps r ps c todo { w with context := before } w' news result done rest) :
    Bootstraps r ps c todo w { w' with context := after } news result done rest where
  split := bootstraps.split
  before := bootstraps.before
  complete := bootstraps.complete
  failed := bootstraps.failed
  untouched := bootstraps.untouched
  constructions := bootstraps.constructions
  entries := bootstraps.entries

/-- What applying the manifest `m` to the new registry `r` did on the way from `w` to `v`: the
components `todo` that it declares are registered, each with a proxy of its own. -/
structure Applied (r : RegistryId) (m : Manifest) (todo : List (Declaration × ProxyId))
    (w v : World σ) : Prop where
  declared : todo.map Prod.fst = m.components
  distinct : (todo.map Prod.snd).Nodup
  registered : v.registry? r = some ⟨.ambient, .direct, todo.map entryOf⟩
  /-- Of each component nothing is known but whether it is to be started. -/
  waiting : ∀ x ∈ todo, v.proxy? x.2 = some (x.1.proxy .ambient .direct)
  context : v.context = w.context
  host : v.host = w.host
  /-- No collaborator was called. -/
  quiet : ∃ news, v.journal = news ++ w.journal ∧ ∀ e ∈ news, ∀ p, ¬ e.Asks p

/-- Why the initialization of the registry `r` in the scope of `c` does not return: in some world
that it goes through, a call of the proxy `p` does not. It is not the catalog that is called. -/
def Stalled (H : Host σ) (bound : Nat) (r : RegistryId) (c : Shared Catalog) (p : ProxyId)
    (v : World σ) (halt : Halt) : Prop :=
  ∃ u before request,
    (Registry.resolveAll r).Passes (perform H (bound + 1)) (Inside H (bound + 1))
      { v with context := some c } u ∧
    u.journal = .asked p request :: before ∧ (∀ name, request ≠ .resolve name) ∧
    (H.serve .ambient .direct request).run (perform H bound) u = .error halt

/-- What the initialization of the registry `r`, to which the manifest `m` was applied, came to in
the scope of `c`. -/
structure Bootstrapped (H : Host σ) (r : RegistryId) (m : Manifest) (c : Shared Catalog)
    (todo : List (Declaration × ProxyId)) (v w' : World σ) (news : List Event)
    (result : Except ProxyError Unit) (done rest : List (Declaration × ProxyId)) : Prop
    extends Bootstraps r (v.members r) c todo v w' news result done rest where
  names : ∀ bound, (Registry.namesOf r).perform H bound w' =
    .ok (m.components.map Declaration.name, w')
  /-- Before the first failure each component is resolved to its type, and it runs and holds a
  product exactly if it is marked. -/
  ready : ∀ x ∈ done, ∃ type proxy, c.value.lookup x.1.name = some type ∧
    w'.proxy? x.2 = some proxy ∧ proxy.state.type = some type ∧ proxy.state.running = x.1.start ∧
      proxy.state.product.isSome = proxy.state.running
  /-- After the first failure nothing happened to any. -/
  later : ∀ x ∈ rest.drop 1,
    w'.proxy? x.2 = some (x.1.proxy .ambient .direct) ∧ heard x.2 news = []

/-- A manifest that was accepted is applied to a new registry.

**Proof sketch.** The new registry has no entry and the names are distinct, so that each name gets a
new proxy, in order. -/
private lemma applied_of_accepted {text : String} {m : Manifest}
    (accepted : Manifest.read text = .ok m) (H : Host σ) (bound : Nat) {u : World σ}
    (new : w.establish .ambient .direct = (r, u)) :
    ∃ todo v, (Registry.apply r m).perform H (bound + 1) u = .ok (.ok (), v) ∧
      Applied r m todo u v := by
  obtain ⟨rfl, rfl⟩ := Prod.mk.inj new
  have registered : World.registry? (w.establish .ambient .direct).2 ⟨w.registries.length⟩ =
      some ⟨.ambient, .direct, []⟩ := by
    simp [establish, World.registry?]
  obtain ⟨v, run, prepares⟩ := prepares_of_free (H := H) bound registered
    (Manifest.nodup_of_read accepted) (by simp)
  refine ⟨assigned w.proxies.length m.components, v, run, {
    declared := map_fst_assigned
    distinct := nodup_assigned
    registered := prepares.registered
    waiting := fun x hx => ?_
    context := prepares.context
    host := prepares.host
    quiet := prepares.told }⟩
  rw [World.proxy?, prepares.proxies]
  exact getElem?_assigned hx

/-- The catalog always answers. -/
private lemma not_halts_ambient {perform : Activity.Performance σ} {factory : Factory}
    {name : String} {halt : Halt} (asked : perform .current w = .ok (w.context, w)) :
    (H.serve .ambient factory (.resolve name)).run perform w ≠ .error halt := by
  intro h
  rcases Activity.run_call_error h with h | ⟨answer, v, -, h⟩
  · rw [asked] at h
    cases h
  · cases h

/-- If the initialization of a registry to which a manifest was applied does not return, then a call
of one of its proxies does not.

**Proof sketch.** What is applied has a proxy for every entry, and none of them is busy. So the
resolution that does not return waits for a call, and this is not the look-up, which returns at
once. -/
private lemma Applied.stalled {m : Manifest} {todo : List (Declaration × ProxyId)} {halt : Halt}
    (applied : Applied r m todo w v)
    (h : (resolving (todo.map entryOf)).perform H (bound + 1) { v with context := some c } =
      .error halt) : ∃ x ∈ todo, Stalled H bound r c x.2 v halt := by
  let u : World σ := { v with context := some c }
  have known : ∀ e ∈ todo.map entryOf, ∃ proxy, u.proxy? e.proxy = some proxy := by
    intro e he
    obtain ⟨x, hx, rfl⟩ := List.mem_map.mp he
    exact ⟨_, applied.waiting x hx⟩
  have entries := perform_entries H (bound + 1) (w := u) applied.registered
  obtain ⟨e, he, proxy, there, cause⟩ := resolving_halts known h
  obtain ⟨x, hx, rfl⟩ := List.mem_map.mp he
  obtain rfl : proxy = x.1.proxy .ambient .direct :=
    Option.some.inj (there.symm.trans (applied.waiting x hx))
  rcases cause with ⟨busy, -⟩ | ⟨u', before, request, passes, asked, halts⟩
  · cases busy
  · refine ⟨x, hx, u', before, request, .after entries passes, asked, ?_, halts⟩
    rintro name rfl
    exact not_halts_ambient (by cases bound <;> rfl) halts

/-- If it returns, it goes through the declared components in order, up to the first failure.

**Proof sketch.** The entries are those of the manifest, in order, so that going through them is
going through the declarations. What is current stays the same meanwhile, since the course is
still. -/
private lemma Applied.bootstrapped {m : Manifest} {todo : List (Declaration × ProxyId)}
    (applied : Applied r m todo w v)
    (h : (resolving (todo.map entryOf)).perform H (bound + 1) { v with context := some c } =
      .ok (result, w')) (happened : w'.journal = news ++ v.journal)
    (aloof : Aloof r (v.members r) news)
    (still : ((resolving (todo.map entryOf)).courseOf H (bound + 1)
      { v with context := some c }).Still) :
    ∃ done rest,
      Bootstrapped H r m c todo v { w' with context := v.context } news result done rest := by
  let u : World σ := { v with context := some c }
  have entries : v.entriesOf r = todo.map entryOf := entriesOf_eq applied.registered
  have members : v.members r = todo.map Prod.snd := by
    rw [World.members, entries, List.map_map]
    rfl
  have known : ∀ q ∈ v.members r, ∃ proxy, u.proxy? q = some proxy := by
    intro q hq
    obtain ⟨x, hx, rfl⟩ := List.mem_map.mp (members ▸ hq)
    exact ⟨_, applied.waiting x hx⟩
  obtain ⟨done, rest, bootstraps⟩ := bootstraps_of_aloof (w := u)
    (fun x hx => members ▸ List.mem_map_of_mem hx) applied.distinct known applied.waiting rfl h
      happened
    aloof still
  have distinct := applied.distinct
  rw [bootstraps.split, ← List.take_append_drop 1 rest, ← List.append_assoc, List.map_append,
    List.nodup_append] at distinct
  refine ⟨done, rest, { bootstraps.elsewhere with
    names := fun bound' => ?names
    ready := fun x hx => ?ready
    later := fun x hx => ?later }⟩
  case names =>
    have persists := persists_silent.run (persists_stepwise H).toClosed.perform h
    obtain ⟨registry, there, -⟩ := persists.registry r _ applied.registered
    have same : registry.entries = todo.map entryOf :=
      (entriesOf_eq there).symm.trans (bootstraps.entries.trans entries)
    have asked := perform_entries H bound' (w := { w' with context := v.context }) there
    have names : registry.entries.map Entry.name = m.components.map Declaration.name := by
      rw [same, ← applied.declared, List.map_map, List.map_map]
      rfl
    rw [← names]
    exact Activity.run_call asked
  case ready =>
    obtain ⟨s, boots, left⟩ := bootstraps.before x hx
    obtain ⟨type, visible, typed, -, runs, holds, -⟩ := boots.ready
    exact ⟨type, _, visible, left, typed, runs, holds.trans runs.symm⟩
  case later =>
    have hx' : x ∈ todo := bootstraps.split ▸ List.mem_append_right _ (List.mem_of_mem_drop hx)
    obtain ⟨there, nothing⟩ :=
      bootstraps.untouched x.2 (members ▸ List.mem_map_of_mem hx') fun again =>
      distinct.2.2 x.2 again x.2 (List.mem_map_of_mem hx) rfl
    exact ⟨there.trans (applied.waiting x hx'), nothing⟩

/-- **From a manifest to running components.** A manifest that was read is applied to a new registry
that asks the current catalog for types and the types for products, and no collaborator is called.
Then the registry is initialized in the scope of a catalog. That returns, unless a call of a
component's code does not. If it returns, and if the code of the components kept aloof from the
registry and neither entered nor left a catalog on the thread, then the declared components were
gone through in order, up to the first that is not visible or that is to be started and cannot be
built, does not have the capability or does not start: its failure is returned, and nothing happened
to those after it. What was current before is current again in any case.

**Proof sketch.** What was read declares no name twice, so every declaration registers a proxy of
its own. While the initialization is in progress the catalog is current all the time, so each proxy
gets the answer of this catalog, and the rest is induction on the declarations. The scope puts back
what it found. -/
theorem bootstrap {text : String} {m : Manifest} (accepted : Manifest.read text = .ok m)
    (H : Host σ) (w : World σ) {u : World σ} (new : w.establish .ambient .direct = (r, u))
    (c : Shared Catalog) (bound : Nat) :
    ∃ todo v, (Registry.apply r m).perform H (bound + 1) u = .ok (.ok (), v) ∧
      Applied r m todo u v ∧
      ((∃ halt, (Activity.scope c (Registry.resolveAll r)).perform H (bound + 1) v = .error halt ∧
          ∃ x ∈ todo, Stalled H bound r c x.2 v halt) ∨
        ∃ result w' news,
          (Activity.scope c (Registry.resolveAll r)).perform H (bound + 1) v = .ok (result, w') ∧
          w'.journal = news ++ v.journal ∧ w'.context = w.context ∧
          (Aloof r (v.members r) news →
            ((Registry.resolveAll r).courseOf H (bound + 1) { v with context := some c }).Still →
            ∃ done rest, Bootstrapped H r m c todo v w' news result done rest)) := by
  obtain ⟨todo, v, run, applied⟩ := applied_of_accepted accepted H bound new
  refine ⟨todo, v, run, applied, ?_⟩
  have entries :=
    perform_entries H (bound + 1) (w := { v with context := some c }) applied.registered
  have same : (Registry.resolveAll r).perform H (bound + 1) { v with context := some c } =
      (resolving (todo.map entryOf)).perform H (bound + 1) { v with context := some c } :=
    Activity.run_call entries
  rw [Activity.run_scope, same]
  cases h : (resolving (todo.map entryOf)).perform H (bound + 1) { v with context := some c } with
  | error halt => exact .inl ⟨halt, rfl, applied.stalled h⟩
  | ok outcome =>
    obtain ⟨result, w'⟩ := outcome
    obtain ⟨news, happened, -⟩ := (leaves_silent r).run (leaves_closed H r).perform h
    have before : u.context = w.context := (congrArg (fun x => x.2.context) new).symm
    refine .inr ⟨result, { w' with context := v.context }, news, rfl, happened,
      applied.context.trans before, fun aloof still => ?_⟩
    exact applied.bootstrapped h happened aloof ((Course.still_call still _ _).2 entries)

/-! ## A start that ends halfway -/

/-- Four declarations, of which all but the first are marked. -/
def halfway : String := "component = [['a'], ['b', true], ['c', true], ['d', true]]"

/-- What this text declares. -/
def quartet : Manifest := ⟨[⟨"a", false⟩, ⟨"b", true⟩, ⟨"c", true⟩, ⟨"d", true⟩]⟩

/-- A catalog in which all four are visible, two of them in the catalog that it is nested in. -/
def quarters : Shared Catalog where
  mark := 2
  value := {
    types := [⟨1, ⟨"a", ⟨0⟩⟩⟩, ⟨3, ⟨"c", ⟨0⟩⟩⟩]
    enclosing := [[⟨2, ⟨"b", ⟨0⟩⟩⟩, ⟨4, ⟨"d", ⟨0⟩⟩⟩]] }

/-- A new registry, made while another catalog is current. -/
def unsettled : World Nat :=
  (World.establish { host := 0, context := some plains } .ambient .direct).2

/-- The first is resolved, the second runs, the third does not start, and the fourth waits. -/
theorem bootstrap_halfway : Manifest.read halfway = .ok quartet ∧ ∃ todo v w' news done rest,
    (Registry.apply ⟨0⟩ quartet).perform flawed 2 unsettled = .ok (.ok (), v) ∧
    Applied ⟨0⟩ quartet todo unsettled v ∧
    (Activity.scope quarters (Registry.resolveAll ⟨0⟩)).perform flawed 2 v =
      .ok (.error (.start "c" (.ofMessage "not now")), w') ∧
    w'.journal = news ++ v.journal ∧ w'.context = some plains ∧
    Aloof ⟨0⟩ (v.members ⟨0⟩) news ∧
    ((Registry.resolveAll ⟨0⟩).courseOf flawed 2 { v with context := some quarters }).Still ∧
    Bootstrapped flawed ⟨0⟩ quartet quarters todo v w' news
      (.error (.start "c" (.ofMessage "not now"))) done rest := by
  have accepted : Manifest.read halfway = .ok quartet := by
    have read : (Manifest.read halfway).toOption = some quartet := by decide +kernel
    cases h : Manifest.read halfway with
    | error e => rw [h] at read; cases read
    | ok m =>
      rw [h] at read
      exact congrArg _ (Option.some.inj read)
  have still : ∀ applied ∈ ((Registry.apply ⟨0⟩ quartet).perform flawed 2 unsettled).toOption,
      ((Registry.resolveAll ⟨0⟩).courseOf flawed 2
        { applied.2 with context := some quarters }).Still := by
    decide +kernel
  have ends : ∀ applied ∈ ((Registry.apply ⟨0⟩ quartet).perform flawed 2 unsettled).toOption,
      ∃ outcome ∈ ((Activity.scope quarters (Registry.resolveAll ⟨0⟩)).perform flawed 2
        applied.2).toOption, outcome.1 = .error (.start "c" (.ofMessage "not now")) ∧
        Aloof ⟨0⟩ (applied.2.members ⟨0⟩)
          (outcome.2.journal.take (outcome.2.journal.length - applied.2.journal.length)) := by
    decide +kernel
  have new : World.establish { host := 0, context := some plains } .ambient .direct =
      (⟨0⟩, unsettled) := rfl
  obtain ⟨todo, v, run, applied, returns⟩ := bootstrap accepted flawed _ new quarters 1
  have ready : (.ok (), v) ∈
      ((Registry.apply ⟨0⟩ quartet).perform flawed 2 unsettled).toOption := by
    rw [run]
    rfl
  obtain ⟨⟨result, w'⟩, returned, rfl, aloof⟩ := ends _ ready
  rcases returns with ⟨halt, stuck, -⟩ | ⟨result, w'', news, run', happened, context, bootstrapped⟩
  · rw [stuck] at returned
    cases returned
  · rw [run'] at returned
    cases returned
    rw [happened, List.length_append, Nat.add_sub_cancel, List.take_left] at aloof
    obtain ⟨done, rest, bootstrapped⟩ := bootstrapped aloof (still _ ready)
    exact ⟨accepted, todo, v, w', news, done, rest, run, applied, run', happened, context, aloof,
      still _ ready, bootstrapped⟩

end World

end Standby
