import Mathlib.Data.List.Forall2
import Standby.Proofs.World.Entries
set_option autoImplicit false

/-!
# Worlds that differ in identities only

Which proxy and which registry an identity stands for is a matter of the order in which they were
made. Two worlds may have the same proxies and registries, as far as it matters, under other
identities. Code that does the same in both, each time with the identities of its own world, comes
to the same.

## Main definitions

* `Standby.Pairing` — which identities of two worlds stand for each other.
* `Standby.Pairing.Called` — calls that are the same but for the identities in them.
* `Standby.Activity.Alike` — activities that do the same with identities that stand for each other.
* `Standby.Pairing.SameWorld`, `Standby.Pairing.SameOutcome` — worlds and outcomes that are the same
  but for the identities.

## Main results

* `Standby.Activity.Alike.bind` — activities that are put together are alike if their parts are.
* `Standby.Pairing.same_perform` — the same call comes to the same in the same world.
* `Standby.Pairing.same_run` — and so do activities that are alike.

## Design

A pairing is fixed ahead: it also says which identities stand for each other that were not given
yet. An identity need not be paired. Nothing is asked then of what it stands for, and code that is
alike never uses it.
-/

namespace Standby

/-- Which proxies and registries of two worlds stand for each other, one for one. -/
structure Pairing where
  proxies : ProxyId → ProxyId → Prop
  registries : RegistryId → RegistryId → Prop
  proxies_iff : ∀ {p p' q q'}, proxies p p' → proxies q q' → (p = q ↔ p' = q')
  registries_iff : ∀ {r r' s s'}, registries r r' → registries s s' → (r = s ↔ r' = s')

/-! ## What stands for each other -/

namespace Pairing

section Definitions

variable (m : Pairing)

/-- Two entries of the same name, with proxies that stand for each other. -/
structure SameEntry (e e' : Entry) : Prop where
  name : e.name = e'.name
  proxy : m.proxies e.proxy e'.proxy

/-- Two registries with the same collaborators and the same entries. -/
structure SameRegistry (x x' : Registry) : Prop where
  resolver : x.resolver = x'.resolver
  factory : x.factory = x'.factory
  entries : List.Forall₂ m.SameEntry x.entries x'.entries

/-- Two events that are the same but for identities. -/
inductive SameEvent : Event → Event → Prop
  | registered {r r' : RegistryId} {p p' : ProxyId} (name : String) (hr : m.registries r r')
    (hp : m.proxies p p') : SameEvent (.registered r name p) (.registered r' name p')
  | swept {r r' : RegistryId} {p p' : ProxyId} (hr : m.registries r r') (hp : m.proxies p p') :
    SameEvent (.swept r p) (.swept r' p')
  | removed {r r' : RegistryId} {ps ps' : List ProxyId} (hr : m.registries r r')
    (hps : List.Forall₂ m.proxies ps ps') : SameEvent (.removed r ps) (.removed r' ps')
  | began {p p' : ProxyId} (operation : Proxy.Operation) (hp : m.proxies p p') :
    SameEvent (.began p operation) (.began p' operation)
  | asked {p p' : ProxyId} (q : Request) (hp : m.proxies p p') :
    SameEvent (.asked p q) (.asked p' q)
  | answered {p p' : ProxyId} (e : Dialogue.Exchange Request Request.Answer) (hp : m.proxies p p') :
    SameEvent (.answered p e) (.answered p' e)
  | ended {p p' : ProxyId} (operation : Proxy.Operation) (result : Except ProxyError Unit)
    (hp : m.proxies p p') : SameEvent (.ended p operation result) (.ended p' operation result)

/-- Two runs that end without an answer for the same reason. -/
inductive SameHalt : Halt → Halt → Prop
  | reentered {p p' : ProxyId} (hp : m.proxies p p') : SameHalt (.reentered p) (.reentered p')
  | dangling : SameHalt .dangling .dangling
  | exhausted : SameHalt .exhausted .exhausted

/-- Two calls that are the same but for the identities in them, and which of their answers are the
same. -/
inductive Called : (c c' : Call) → (c.Answer → c'.Answer → Prop) → Prop
  | establish (resolver : Resolver) (factory : Factory) :
    Called (.establish resolver factory) (.establish resolver factory) m.registries
  | obtain {r r' : RegistryId} (hr : m.registries r r') (name : String) :
    Called (.obtain r name) (.obtain r' name) m.proxies
  | entries {r r' : RegistryId} (hr : m.registries r r') :
    Called (.entries r) (.entries r') (List.Forall₂ m.SameEntry)
  | operate {p p' : ProxyId} (hp : m.proxies p p') (operation : Proxy.Operation) :
    Called (.operate p operation) (.operate p' operation) Eq
  | nameOf {p p' : ProxyId} (hp : m.proxies p p') : Called (.nameOf p) (.nameOf p') Eq
  | observe {p p' : ProxyId} (hp : m.proxies p p') : Called (.observe p) (.observe p') Eq
  | reset {r r' : RegistryId} (hr : m.registries r r') : Called (.reset r) (.reset r') Eq
  | install {r r' : RegistryId} (hr : m.registries r r') : Called (.install r) (.install r') Eq
  | installed : Called .installed .installed (Option.Rel m.registries)
  | construct (type : TypeHandle) : Called (.construct type) (.construct type) Eq
  | enter (catalog : Shared Catalog) : Called (.enter catalog) (.enter catalog) Eq
  | leave (guard : Guard) : Called (.leave guard) (.leave guard) Eq
  | current : Called .current .current Eq

end Definitions

end Pairing

variable {σ : Type}

/-- Two activities that do the same. They make the same calls, each with the identities of its own
world, go on alike after the same answers, and end in results of the relation. -/
inductive Activity.Alike (m : Pairing) :
    {α β : Type} → (α → β → Prop) → Activity σ α → Activity σ β → Prop
  | done {α β : Type} {R : α → β → Prop} {a : α} {b : β} (same : R a b) :
    Alike m R (.done a) (.done b)
  | get {α β : Type} {R : α → β → Prop} {next : σ → Activity σ α} {next' : σ → Activity σ β}
    (alike : ∀ s, Alike m R (next s) (next' s)) : Alike m R (.get next) (.get next')
  | put {α β : Type} {R : α → β → Prop} {next : Activity σ α} {next' : Activity σ β} (s : σ)
    (alike : Alike m R next next') : Alike m R (.put s next) (.put s next')
  | call {α β : Type} {R : α → β → Prop} {c c' : Call} {A : c.Answer → c'.Answer → Prop}
    {next : c.Answer → Activity σ α} {next' : c'.Answer → Activity σ β} (called : m.Called c c' A)
    (alike : ∀ x x', A x x' → Alike m R (next x) (next' x')) :
    Alike m R (.call c next) (.call c' next')
  | thread {α β γ δ : Type} {R : α → β → Prop} {B : γ → δ → Prop} {body : Activity σ γ}
    {body' : Activity σ δ} {next : γ → Activity σ α} {next' : δ → Activity σ β}
    (alikeBody : Alike m B body body') (alike : ∀ b b', B b b' → Alike m R (next b) (next' b')) :
    Alike m R (.thread body next) (.thread body' next')

namespace Pairing

/-- Two hosts whose code does the same. -/
structure SameHost (m : Pairing) (H K : Host σ) : Prop where
  resolve : ∀ reference name, (H.resolve reference name).Alike m Eq (K.resolve reference name)
  create : ∀ reference type, (H.create reference type).Alike m Eq (K.create reference type)
  construct : ∀ c, (H.construct c).Alike m Eq (K.construct c)
  capability : ∀ product, (H.capability product).Alike m Eq (K.capability product)
  start : ∀ product, (H.start product).Alike m Eq (K.start product)
  stop : ∀ product, (H.stop product).Alike m Eq (K.stop product)

/-- Two worlds that are the same but for identities, after the same happened since the journals were
`j` and `j'`. -/
structure SameWorld (m : Pairing) (j j' : List Event) (w u : World σ) : Prop where
  proxies : ∀ {p p'}, m.proxies p p' → u.proxy? p' = w.proxy? p
  registries : ∀ {r r'}, m.registries r r' →
    Option.Rel m.SameRegistry (w.registry? r) (u.registry? r')
  nextProxies : ∀ k, m.proxies ⟨w.proxies.length + k⟩ ⟨u.proxies.length + k⟩
  nextRegistries : ∀ k, m.registries ⟨w.registries.length + k⟩ ⟨u.registries.length + k⟩
  context : w.context = u.context
  installed : Option.Rel m.registries w.installed u.installed
  host : w.host = u.host
  happened : ∃ news news', w.journal = news ++ j ∧ u.journal = news' ++ j' ∧
    List.Forall₂ m.SameEvent news news'

/-- What two runs come to, if they come to the same: they halt for the same reason, or the answers
are in the relation and the worlds that are left are the same. -/
inductive SameOutcome (m : Pairing) (j j' : List Event) {α β : Type} (R : α → β → Prop) :
    Except Halt (α × World σ) → Except Halt (β × World σ) → Prop
  | halted {h h' : Halt} (same : m.SameHalt h h') : SameOutcome m j j' R (.error h) (.error h')
  | returned {a : α} {b : β} {w u : World σ} (same : R a b) (worlds : m.SameWorld j j' w u) :
    SameOutcome m j j' R (.ok (a, w)) (.ok (b, u))

end Pairing

/-! ## Activities that are alike -/

namespace Activity.Alike

variable {m : Pairing} {α β γ δ : Type} {R : α → β → Prop} {S : γ → δ → Prop}

/-- Activities that are put together are alike if their parts are. -/
lemma bind {a : Activity σ α} {a' : Activity σ β} {f : α → Activity σ γ} {f' : β → Activity σ δ}
    (first : a.Alike m R a') (later : ∀ x x', R x x' → (f x).Alike m S (f' x')) :
    (a >>= f).Alike m S (a' >>= f') := by
  change (a.bind f).Alike m S (a'.bind f')
  induction first generalizing S with
  | done same => exact later _ _ same
  | get _ ih => exact .get fun s => ih s later
  | put s _ ih => exact .put s (ih later)
  | call called _ ih => exact .call called fun x x' same => ih x x' same later
  | thread body _ _ ih => exact .thread body fun b b' same => ih b b' same later

/-- A call by itself is alike if the answers are what they should be. -/
lemma query {c c' : Call} {A : c.Answer → c'.Answer → Prop} (called : m.Called c c' A) :
    (Activity.call c Activity.done : Activity σ _).Alike m A (Activity.call c' Activity.done) :=
  .call called fun _ _ same => .done same

/-- Proxies that stand for each other are asked for their names alike, and have the same name. -/
lemma nameOf {p p' : ProxyId} (hp : m.proxies p p') :
    (Activity.nameOf p : Activity σ _).Alike m Eq (Activity.nameOf p') := by
  have called : m.Called (.nameOf p) (.nameOf p') Eq := .nameOf hp
  exact query called

/-- Proxies that stand for each other are observed alike, and are in the same state. -/
lemma observe {p p' : ProxyId} (hp : m.proxies p p') :
    (Activity.observe p : Activity σ _).Alike m Eq (Activity.observe p') := by
  have called : m.Called (.observe p) (.observe p') Eq := .observe hp
  exact query called

/-- Registries that stand for each other are reset alike. -/
lemma reset {r r' : RegistryId} (hr : m.registries r r') :
    (Activity.reset r : Activity σ _).Alike m Eq (Activity.reset r') := by
  have called : m.Called (.reset r) (.reset r') Eq := .reset hr
  exact query called

/-- One activity after the other, up to the first that fails. -/
lemma untilFailure {ε : Type} {as as' : List (Activity σ (Except ε Unit))}
    (h : List.Forall₂ (fun a a' => a.Alike m Eq a') as as') :
    (Activity.untilFailure as).Alike m Eq (Activity.untilFailure as') := by
  induction h with
  | nil => exact .done rfl
  | cons first _ ih =>
    refine bind first fun x x' same => ?_
    subst same
    cases x with
    | ok => exact ih
    | error e => exact .done rfl

/-- An activity for each of several values, one after the other.

**Proof sketch.** The loop of the library holds the results so far, and these are the same on both
sides. Induction on the two lists with the results free. -/
lemma mapM {ι ι' : Type} {f : ι → Activity σ α} {f' : ι' → Activity σ α} {xs : List ι}
    {xs' : List ι'} (h : List.Forall₂ (fun x x' => (f x).Alike m Eq (f' x')) xs xs') :
    (xs.mapM f).Alike m Eq (xs'.mapM f') := by
  have loop (ys : List α) :
      (List.mapM.loop f xs ys).Alike m Eq (List.mapM.loop f' xs' ys) := by
    induction h generalizing ys with
    | nil => exact .done rfl
    | cons first _ ih =>
      refine bind first fun y y' same => ?_
      subst same
      exact ih (y :: ys)
  exact loop []

end Activity.Alike

namespace Pairing

variable {m : Pairing} {H K : Host σ}

/-- The code that answers a request is alike in hosts whose code is alike.

**Proof sketch.** By cases on the request. The built-in resolvers and the built-in factory are the
same in all hosts. -/
lemma SameHost.serve (hosts : m.SameHost H K) (resolver : Resolver) (factory : Factory)
    (q : Request) : (H.serve resolver factory q).Alike m Eq (K.serve resolver factory q) := by
  cases q with
  | resolve name =>
    cases resolver with
    | ambient =>
      refine .call .current fun x x' same => ?_
      subst same
      exact .done rfl
    | catalog c => exact .done rfl
    | custom reference => exact hosts.resolve reference name
  | create type =>
    cases factory with
    | direct =>
      refine .call (.construct type) fun x x' same => ?_
      subst same
      cases x <;> exact .done rfl
    | custom reference => exact hosts.create reference type
  | capability product => exact hosts.capability product
  | start product => exact hosts.start product
  | stop product => exact hosts.stop product

/-! ## Registries -/

section Registries

variable {x x' : Registry} {p p' : ProxyId} {ps ps' : List ProxyId}

/-- Two proxies are the same if and only if those that stand for them are. -/
private lemma beq_eq {q q' : ProxyId} (hp : m.proxies p p') (hq : m.proxies q q') :
    (p == q) = (p' == q') := by
  rw [Bool.eq_iff_iff, beq_iff_eq, beq_iff_eq]
  exact m.proxies_iff hp hq

/-- Proxies that stand for each other are among proxies that stand for each other, or they are
not. -/
private lemma contains_eq (hp : m.proxies p p') (hps : List.Forall₂ m.proxies ps ps') :
    ps.contains p = ps'.contains p' := by
  induction hps with
  | nil => rfl
  | cons hq _ ih => rw [List.contains_cons, List.contains_cons, ih, beq_eq hp hq]

/-- Proxies that stand for each other have the same place among proxies that stand for each
other. -/
lemma idxOf_eq (hp : m.proxies p p') (hps : List.Forall₂ m.proxies ps ps') :
    ps.idxOf p = ps'.idxOf p' := by
  induction hps with
  | nil => rfl
  | cons hq _ ih => rw [List.idxOf_cons, List.idxOf_cons, ih, beq_eq hq hp]

/-- In lists of proxies that stand for each other one by one, the places correspond. -/
lemma getElem?_rel (hps : List.Forall₂ m.proxies ps ps') (i : Nat) :
    Option.Rel m.proxies ps[i]? ps'[i]? := by
  induction hps generalizing i with
  | nil => exact .none
  | cons hq _ ih =>
    cases i with
    | zero => exact .some hq
    | succ i => exact ih i

namespace SameRegistry

variable (same : m.SameRegistry x x')
include same

/-- Of two registries that stand for each other both are empty or none is. -/
lemma isEmpty : x.entries.isEmpty = x'.entries.isEmpty := by
  rw [Bool.eq_iff_iff, List.isEmpty_iff_length_eq_zero, List.isEmpty_iff_length_eq_zero,
    same.entries.length_eq]

/-- The members of two registries that stand for each other do so one by one. -/
lemma members : List.Forall₂ m.proxies x.proxies x'.proxies := by
  rw [Registry.proxies, Registry.proxies, List.forall₂_map_left_iff, List.forall₂_map_right_iff]
  exact same.entries.imp fun _ _ h => h.proxy

/-- In two registries that stand for each other, a name has proxies that do, or none in either. -/
lemma find? (name : String) : Option.Rel m.proxies (x.find? name) (x'.find? name) := by
  have entries := same.entries
  rw [Registry.find?, Registry.find?]
  generalize x.entries = es, x'.entries = es' at entries
  induction entries with
  | nil => exact .none
  | @cons e e' _ _ he _ ih =>
    rw [List.find?_cons, List.find?_cons, he.name]
    split
    · exact .some he.proxy
    · exact ih

/-- Registries that stand for each other still do when a name is registered in both, with proxies
that stand for each other. -/
private lemma insert (name : String) (hp : m.proxies p p') :
    m.SameRegistry (x.insert name p) (x'.insert name p') where
  resolver := same.resolver
  factory := same.factory
  entries := List.rel_append same.entries (.cons ⟨rfl, hp⟩ .nil)

/-- Registries that stand for each other still do when the same proxies, up to the pairing, are
removed from both. -/
private lemma remove (hps : List.Forall₂ m.proxies ps ps') :
    m.SameRegistry (x.remove ps) (x'.remove ps') where
  resolver := same.resolver
  factory := same.factory
  entries := by
    refine List.rel_filter (fun e e' he => ?_) same.entries
    dsimp only
    rw [contains_eq he.proxy hps]

end SameRegistry

end Registries

/-! ## Steps that run no code of a collaborator's -/

/-- Two lists that hold the same at two places hold the same there after something is added to each,
if the one place is the next one exactly if the other is.

**Proof sketch.** The one place is within its list, right behind it, or beyond, and the other place
is so for its own list. -/
private lemma rel_snoc {α : Type} {R : α → α → Prop} {xs ys : List α} {x y : α} {i k : Nat}
    (known : Option.Rel R xs[i]? ys[k]?) (next : i = xs.length ↔ k = ys.length) (added : R x y) :
    Option.Rel R (xs ++ [x])[i]? (ys ++ [y])[k]? := by
  rcases Nat.lt_trichotomy i xs.length with inside | rfl | beyond
  · rw [List.getElem?_eq_getElem inside] at known
    generalize hy : ys[k]? = z at known
    cases known with
    | some same =>
      have inside' : k < ys.length := (List.getElem?_eq_some_iff.1 hy).1
      rw [List.getElem?_append_left inside, List.getElem?_append_left inside', hy,
        List.getElem?_eq_getElem inside]
      exact .some same
  · obtain rfl := next.1 rfl
    simpa using Option.Rel.some added
  · rw [List.getElem?_eq_none (Nat.le_of_lt beyond)] at known
    generalize hy : ys[k]? = z at known
    cases known with
    | none =>
      have outside : ys.length ≤ k := List.getElem?_eq_none_iff.1 hy
      have beyond' : ys.length + 1 ≤ k := by omega
      rw [List.getElem?_eq_none (by simp; omega), List.getElem?_eq_none (by simp; omega)]
      exact .none

namespace SameWorld

variable {j j' : List Event} {w u : World σ} {p p' : ProxyId} {r r' : RegistryId}
  (same : m.SameWorld j j' w u)
include same

/-- The same is recorded in both worlds. -/
lemma record {e e' : Event} (he : m.SameEvent e e') :
    m.SameWorld j j' (w.record e) (u.record e') where
  proxies := same.proxies
  registries := same.registries
  nextProxies := same.nextProxies
  nextRegistries := same.nextRegistries
  context := same.context
  installed := same.installed
  host := same.host
  happened := by
    obtain ⟨news, news', hw, hu, events⟩ := same.happened
    exact ⟨e :: news, e' :: news', congrArg (e :: ·) hw, congrArg (e' :: ·) hu, .cons he events⟩

/-- The same is made current. -/
lemma putContext (context : Context) : m.SameWorld j j' { w with context } { u with context } where
  proxies := same.proxies
  registries := same.registries
  nextProxies := same.nextProxies
  nextRegistries := same.nextRegistries
  context := rfl
  installed := same.installed
  host := same.host
  happened := same.happened

/-- The collaborators' state becomes the same. -/
lemma putHost (host : σ) : m.SameWorld j j' { w with host } { u with host } where
  proxies := same.proxies
  registries := same.registries
  nextProxies := same.nextProxies
  nextRegistries := same.nextRegistries
  context := same.context
  installed := same.installed
  host := rfl
  happened := same.happened

/-- The same proxy is put in places that stand for each other. -/
lemma setProxy (hp : m.proxies p p') (proxy : Proxy) :
    m.SameWorld j j' (w.setProxy p proxy) (u.setProxy p' proxy) where
  proxies {q q'} hq := by
    have known : u.proxies[p'.index]? = w.proxies[p.index]? := same.proxies hp
    have hlt : p'.index < u.proxies.length ↔ p.index < w.proxies.length := by
      rw [← Nat.not_le, ← Nat.not_le, ← List.getElem?_eq_none_iff,
        ← List.getElem?_eq_none_iff, known]
    by_cases h : p = q
    · obtain rfl := h
      obtain rfl := (m.proxies_iff hp hq).1 rfl
      simp [World.proxy?, World.setProxy, List.getElem?_set, hlt]
    · have h' : p' ≠ q' := fun e => h ((m.proxies_iff hp hq).2 e)
      rw [World.proxy?_setProxy_of_ne h, World.proxy?_setProxy_of_ne h', same.proxies hq]
  registries := same.registries
  nextProxies k := by simpa [World.setProxy] using same.nextProxies k
  nextRegistries := same.nextRegistries
  context := same.context
  installed := same.installed
  host := same.host
  happened := same.happened

/-- Registries that stand for each other are there both, and then they are the same, or neither
is. -/
lemma registry_cases (hr : m.registries r r') :
    w.registry? r = none ∧ u.registry? r' = none ∨
      ∃ x x', w.registry? r = some x ∧ u.registry? r' = some x' ∧ m.SameRegistry x x' := by
  have both := same.registries hr
  generalize w.registry? r = y, u.registry? r' = y' at both ⊢
  cases both with
  | none => exact .inl ⟨rfl, rfl⟩
  | some hx => exact .inr ⟨_, _, rfl, rfl, hx⟩

/-- The same registry is put in places that stand for each other.

**Proof sketch.** By cases on whether the registry is the one that is written. Two registries that
correspond are both written, or neither is. -/
private lemma setRegistry (hr : m.registries r r') {x x' y y' : Registry}
    (hw : w.registry? r = some y) (hu : u.registry? r' = some y') (hx : m.SameRegistry x x') :
    m.SameWorld j j' (w.setRegistry r x) (u.setRegistry r' x') where
  proxies := same.proxies
  registries {s s'} hs := by
    by_cases h : s = r
    · obtain rfl := h
      obtain rfl := (m.registries_iff hr hs).1 rfl
      rw [World.known_setRegistry_self hw, World.known_setRegistry_self hu]
      exact .some hx
    · have h' : s' ≠ r' := fun e => h ((m.registries_iff hs hr).2 e)
      rw [World.known_setRegistry_of_ne h, World.known_setRegistry_of_ne h']
      exact same.registries hs
  nextProxies := same.nextProxies
  nextRegistries k := by simpa [World.setRegistry] using same.nextRegistries k
  context := same.context
  installed := same.installed
  host := same.host
  happened := same.happened

/-- The next proxy is made in both worlds.

**Proof sketch.** The two new proxies correspond, by what is known of the next ones. So the places
of two proxies that correspond are both new or neither is, and `rel_snoc` applies. -/
private lemma addProxy (proxy : Proxy) :
    m.SameWorld j j' { w with proxies := w.proxies ++ [proxy] }
      { u with proxies := u.proxies ++ [proxy] } where
  proxies {p p'} hp := by
    have first : m.proxies ⟨w.proxies.length⟩ ⟨u.proxies.length⟩ := same.nextProxies 0
    have known : Option.Rel Eq w.proxies[p.index]? u.proxies[p'.index]? := by
      rw [← World.proxy?, ← World.proxy?, same.proxies hp]
      cases w.proxy? p <;> constructor
      rfl
    have next : p.index = w.proxies.length ↔ p'.index = u.proxies.length := by
      have both := m.proxies_iff hp first
      obtain ⟨i⟩ := p
      obtain ⟨i'⟩ := p'
      simpa using both
    have added := rel_snoc known next (rfl : proxy = proxy)
    rw [World.proxy?, World.proxy?]
    generalize (w.proxies ++ [proxy])[p.index]? = y,
      (u.proxies ++ [proxy])[p'.index]? = y' at added ⊢
    cases added with
    | none => rfl
    | some h => rw [h]
  registries := same.registries
  nextProxies k := by
    have next := same.nextProxies (k + 1)
    simpa [Nat.add_assoc, Nat.add_comm 1 k] using next
  nextRegistries := same.nextRegistries
  context := same.context
  installed := same.installed
  host := same.host
  happened := same.happened

/-- The next registry is made in both worlds.

**Proof sketch.** The two new registries correspond, and both are empty. The rest is as for a new
proxy. -/
private lemma establish (resolver : Resolver) (factory : Factory) :
    m.registries (w.establish resolver factory).1 (u.establish resolver factory).1 ∧
      m.SameWorld j j' (w.establish resolver factory).2 (u.establish resolver factory).2 := by
  have first : m.registries ⟨w.registries.length⟩ ⟨u.registries.length⟩ := same.nextRegistries 0
  refine ⟨first, ?_⟩
  constructor
  case proxies => exact same.proxies
  case registries =>
    intro r r' hr
    have next : r.index = w.registries.length ↔ r'.index = u.registries.length := by
      have both := m.registries_iff hr first
      obtain ⟨i⟩ := r
      obtain ⟨i'⟩ := r'
      simpa using both
    exact rel_snoc (same.registries hr) next ⟨rfl, rfl, .nil⟩
  case nextProxies => exact same.nextProxies
  case nextRegistries =>
    intro k
    have next := same.nextRegistries (k + 1)
    simpa [World.establish, Nat.add_assoc, Nat.add_comm 1 k] using next
  case context => exact same.context
  case installed => exact same.installed
  case host => exact same.host
  case happened => exact same.happened

/-- Registering the same name.

**Proof sketch.** The name is found in both registries or in neither. In the second case both worlds
get the next proxy and an entry for it. -/
private lemma obtain (hr : m.registries r r') (name : String) :
    m.SameOutcome j j' m.proxies (w.obtain r name) (u.obtain r' name) := by
  rw [World.obtain, World.obtain]
  rcases same.registry_cases hr with ⟨hw, hu⟩ | ⟨x, x', hw, hu, hx⟩
  · rw [hw, hu]
    exact .halted .dangling
  rw [hw, hu]
  dsimp only
  have found := hx.find? name
  generalize x.find? name = y, x'.find? name = y' at found ⊢
  cases found with
  | some hp => exact .returned hp same
  | none =>
    have next : m.proxies ⟨w.proxies.length⟩ ⟨u.proxies.length⟩ := same.nextProxies 0
    have added := same.addProxy { name, resolver := x'.resolver, factory := x'.factory }
    have written := added.setRegistry hr hw hu (hx.insert name next)
    simp only [hx.resolver, hx.factory]
    exact .returned next (written.record (.registered name hr next))

/-- Removing the same entries. -/
lemma remove (hr : m.registries r r') {ps ps' : List ProxyId}
    (hps : List.Forall₂ m.proxies ps ps') : m.SameWorld j j' (w.remove r ps) (u.remove r' ps') := by
  rw [World.remove, World.remove]
  rcases same.registry_cases hr with ⟨hw, hu⟩ | ⟨x, x', hw, hu, hx⟩
  · rw [hw, hu]
    exact same
  · rw [hw, hu]
    exact (same.setRegistry hr hw hu (hx.remove hps)).record (.removed hr hps)

/-- Installing the same registry.

**Proof sketch.** By cases on what is installed, which is something in both worlds or in neither. -/
private lemma install (hr : m.registries r r') :
    (w.install r).1 = (u.install r').1 ∧ m.SameWorld j j' (w.install r).2 (u.install r').2 := by
  have installed := same.installed
  rw [World.install, World.install]
  generalize hw : w.installed = y, hu : u.installed = y' at installed
  cases installed with
  | some _ => exact ⟨rfl, same⟩
  | none =>
    refine ⟨rfl, ?_⟩
    constructor
    case proxies => exact same.proxies
    case registries => exact same.registries
    case nextProxies => exact same.nextProxies
    case nextRegistries => exact same.nextRegistries
    case context => exact same.context
    case installed => exact .some hr
    case host => exact same.host
    case happened => exact same.happened

/-- Observing the same proxy. -/
private lemma observe (hp : m.proxies p p') :
    m.SameOutcome j j' Eq (w.observe p) (u.observe p') := by
  rw [World.observe, World.observe, same.proxies hp]
  cases w.proxy? p with
  | none => exact .halted .dangling
  | some proxy =>
    cases busy : proxy.busy
    · simp only [busy, Bool.false_eq_true, if_false]
      exact .returned rfl same
    · simp only [busy, if_true]
      exact .halted (.reentered hp)

end SameWorld

/-! ## Steps that run code -/

section Calls

variable {perform perform' : Activity.Performance σ} {j j' : List Event} {α β : Type}
  {R : α → β → Prop} {w u : World σ} {p p' : ProxyId} {r r' : RegistryId}
  (calls : ∀ {c c' : Call} {A : c.Answer → c'.Answer → Prop} {w u : World σ}, m.Called c c' A →
    m.SameWorld j j' w u → m.SameOutcome j j' A (perform c w) (perform' c' u))
include calls

/-- Activities that are alike come to the same if the calls that they make do.

**Proof sketch.** Induction on the activities. The collaborators' state and what is current are the
same in both worlds, so a step that reads or writes them is the same step. -/
lemma same_run_of_calls {a : Activity σ α} {b : Activity σ β} (alike : a.Alike m R b)
    (same : m.SameWorld j j' w u) : m.SameOutcome j j' R (a.run perform w) (b.run perform' u) := by
  induction alike generalizing w u with
  | done h => exact .returned h same
  | get _ ih =>
    rw [Activity.run, Activity.run, ← same.host]
    exact ih w.host same
  | put s _ ih => exact ih (same.putHost s)
  | call called _ ih =>
    have first := calls called same
    rw [Activity.run, Activity.run]
    generalize perform _ w = x, perform' _ u = x' at first
    cases first with
    | halted h => exact .halted h
    | returned answers same => exact ih _ _ answers same
  | thread _ _ ihBody ih =>
    have first := ihBody (same.putContext none)
    rw [Activity.run, Activity.run]
    generalize Activity.run perform _ { w with context := none } = x,
      Activity.run perform' _ { u with context := none } = x' at first
    cases first with
    | halted h => exact .halted h
    | returned results same' =>
      rw [← same.context]
      exact ih _ _ results (same'.putContext w.context)

variable {H K : Host σ} (hosts : m.SameHost H K)
include hosts

/-- The same dialogue comes to the same if all calls do.

**Proof sketch.** Induction on the dialogue. The code that serves a question is alike, so the
answers are the same, and so is the rest of the dialogue. -/
private lemma same_converse_of_calls (resolver : Resolver) (factory : Factory) (t : Talk α)
    (hp : m.proxies p p') (same : m.SameWorld j j' w u) :
    m.SameOutcome j j' Eq (World.converse perform H p resolver factory t w)
      (World.converse perform' K p' resolver factory t u) := by
  induction t generalizing w u with
  | done a => exact .returned rfl same
  | ask q next ih =>
    have first :=
      same_run_of_calls calls (hosts.serve resolver factory q) (same.record (.asked q hp))
    rw [World.converse, World.converse]
    generalize (H.serve resolver factory q).run perform _ = x,
      (K.serve resolver factory q).run perform' _ = x' at first
    cases first with
    | halted h => exact .halted h
    | returned answers same =>
      subst answers
      exact ih _ (same.record (.answered _ hp))

/-- The same operation comes to the same if all calls do.

**Proof sketch.** The two proxies are the same, so both operations are refused, or both begin with
the same dialogue. -/
lemma same_operate_of_calls (operation : Proxy.Operation) (hp : m.proxies p p')
    (same : m.SameWorld j j' w u) :
    m.SameOutcome j j' Eq (World.operate perform H p operation w)
      (World.operate perform' K p' operation u) := by
  rw [World.operate, World.operate, same.proxies hp]
  cases w.proxy? p with
  | none => exact .halted .dangling
  | some proxy =>
    cases busy : proxy.busy with
    | true =>
      simp only [busy, if_true]
      exact .halted (.reentered hp)
    | false =>
      have begun := (same.setProxy hp { proxy with busy := true }).record (.began operation hp)
      have talked := same_converse_of_calls calls hosts proxy.resolver proxy.factory
        (operation.talk proxy.name proxy.state) hp begun
      simp only [busy, Bool.false_eq_true, if_false]
      generalize World.converse perform H p _ _ _ _ = x,
        World.converse perform' K p' _ _ _ _ = x' at talked
      cases talked with
      | halted h => exact .halted h
      | @returned outcome _ _ _ results same =>
        subst results
        obtain ⟨result, state⟩ := outcome
        exact .returned rfl ((same.setProxy hp _).record (.ended operation result hp))

/-- The same sweep comes to the same if all calls do.

**Proof sketch.** Induction on the two lists of proxies, a stop at a time. -/
lemma same_sweep_of_calls {ps ps' : List ProxyId} (hr : m.registries r r')
    (hps : List.Forall₂ m.proxies ps ps') (same : m.SameWorld j j' w u) :
    m.SameOutcome j j' Eq ((World.sweep perform H r ps w).map (Prod.mk ()))
      ((World.sweep perform' K r' ps' u).map (Prod.mk ())) := by
  induction hps generalizing w u with
  | nil => exact .returned rfl same
  | cons hp _ ih =>
    have first := same_operate_of_calls calls hosts .stop hp (same.record (.swept hr hp))
    rw [World.sweep, World.sweep]
    generalize World.operate perform H _ .stop _ = x,
      World.operate perform' K _ .stop _ = x' at first
    cases first with
    | halted h => exact .halted h
    | returned _ same => exact ih same

end Calls

section Perform

variable {H K : Host σ} {j j' : List Event} {bound : Nat} {w u : World σ}

/-- The same call comes to the same in the same world, if it runs no code of a collaborator's.

**Proof sketch.** By cases on the call. What such a call reads and writes is the same in both
worlds. -/
private lemma same_plain {c c' : Call} {A : c.Answer → c'.Answer → Prop} (called : m.Called c c' A)
    (plain : c.Plain) (same : m.SameWorld j j' w u) :
    m.SameOutcome j j' A (World.perform H bound c w) (World.perform K bound c' u) := by
  cases called with
  | operate _ _ | reset _ | construct _ => exact plain.elim
  | establish resolver factory =>
    obtain ⟨answers, same⟩ := same.establish resolver factory
    rw [World.perform, World.perform]
    exact .returned answers same
  | obtain hr name =>
    rw [World.perform, World.perform]
    exact same.obtain hr name
  | entries hr =>
    rw [World.perform, World.perform]
    rcases same.registry_cases hr with ⟨hw, hu⟩ | ⟨x, x', hw, hu, hx⟩
    · rw [hw, hu]
      exact .halted .dangling
    · rw [hw, hu]
      exact .returned hx.entries same
  | nameOf hp =>
    rw [World.perform, World.perform, same.proxies hp]
    cases w.proxy? _ with
    | none => exact .halted .dangling
    | some proxy => exact .returned rfl same
  | observe hp =>
    rw [World.perform, World.perform]
    exact same.observe hp
  | install hr =>
    obtain ⟨answers, same⟩ := same.install hr
    rw [World.perform, World.perform]
    exact .returned answers same
  | installed =>
    rw [World.perform, World.perform]
    exact .returned same.installed same
  | enter catalog =>
    rw [World.perform, World.perform, same.context]
    exact .returned rfl (same.putContext _)
  | leave guard =>
    rw [World.perform, World.perform]
    exact .returned rfl (same.putContext _)
  | current =>
    rw [World.perform, World.perform]
    exact .returned same.context same

variable (hosts : m.SameHost H K)
include hosts

/-- **The same call comes to the same in the same world.**

**Proof sketch.** Induction on the bound. A call reads and writes what its identities stand for, and
these are the same in both worlds; the code that it runs makes calls within a smaller bound. -/
theorem same_perform {c c' : Call} {A : c.Answer → c'.Answer → Prop} (called : m.Called c c' A)
    (same : m.SameWorld j j' w u) :
    m.SameOutcome j j' A (World.perform H bound c w) (World.perform K bound c' u) := by
  induction bound generalizing c c' A w u with
  | zero =>
    by_cases plain : c.Plain
    · exact same_plain called plain same
    cases called with
    | operate _ _ | reset _ | construct _ => exact .halted .exhausted
    | establish _ _ | obtain _ _ | entries _ | nameOf _ | observe _ | install _ | installed
    | enter _ | leave _ | current => exact absurd trivial plain
  | succ bound ih =>
    by_cases plain : c.Plain
    · exact same_plain called plain same
    cases called with
    | operate hp operation =>
      rw [World.perform, World.perform]
      exact same_operate_of_calls ih hosts operation hp same
    | construct type =>
      rw [World.perform, World.perform]
      exact same_run_of_calls ih (hosts.construct _) same
    | reset hr =>
      rw [World.perform, World.perform]
      rcases same.registry_cases hr with ⟨hw, hu⟩ | ⟨x, x', hw, hu, hx⟩
      · rw [hw, hu]
        exact .halted .dangling
      rw [hw, hu]
      dsimp only
      rw [hx.isEmpty]
      cases x'.entries.isEmpty with
      | true => exact .returned rfl same
      | false =>
        have swept := same_sweep_of_calls ih hosts hr hx.members same
        simp only [Bool.false_eq_true, if_false]
        generalize World.sweep (World.perform H bound) H _ x.proxies w = y,
          World.sweep (World.perform K bound) K _ x'.proxies u = y' at swept
        have called := Called.reset hr
        rcases y with h | v <;> rcases y' with h' | v' <;> cases swept
        case error.error.halted same => exact .halted same
        case ok.ok.returned _ same => exact ih called (same.remove hr hx.members)
    | establish _ _ | obtain _ _ | entries _ | nameOf _ | observe _ | install _ | installed
    | enter _ | leave _ | current => exact absurd trivial plain

/-- **Activities that are alike come to the same in the same world.** -/
theorem same_run {α β : Type} {R : α → β → Prop} {a : Activity σ α} {b : Activity σ β}
    (alike : a.Alike m R b) (same : m.SameWorld j j' w u) :
    m.SameOutcome j j' R (a.perform H bound w) (b.perform K bound u) :=
  same_run_of_calls (same_perform hosts) alike same

end Perform

end Pairing

end Standby
