import Standby.Proofs.Proxy.Phase
set_option autoImplicit false

/-!
# What the calls of a component decide

Collaborators may look at nothing but the type of a component and the calls that were made for this
type before. Then what becomes of a proxy is a matter of these calls. Two proxies of one name that
are in the same state do the same, even though the products that they hold are not the same ones.

## Main definitions

* `Standby.ComponentCall` — a call for a component, with its outcome.
* `Standby.Ledger` — what a proxy and its collaborators know: a type, and the calls for every type.
* `Standby.Outcomes` — the outcomes of calls, by the name or by the type and the earlier calls.
* `Standby.Proxy.State.SameUpTo` — two states that hold products of the same kind.
* `Standby.Proxy.Parallel` — two dialogues that differ in nothing but the products.

## Main results

* `Standby.Proxy.talk_parallel` — the operations on states of the same kind are parallel.
* `Standby.Proxy.Parallel.devoted` — a dialogue makes calls for one type only.
* `Standby.Proxy.Parallel.agrees` — parallel dialogues have the same outcome.

## Design

A product is known by its identity, and no two products are the same. Runs are therefore compared by
what `naming` tells of a product. It may tell nothing, or it may tell everything.
-/

namespace Standby

variable {ν : Type}

/-! ## Calls for a component -/

/-- A call for a component together with its outcome, where `ν` tells products apart. -/
inductive ComponentCall (ν : Type) where
  | create (outcome : Except ConstructionError ν)
  | capability (product : ν) (able : Bool)
  | start (product : ν) (outcome : Except LifecycleError Unit)
  | stop (product : ν) (outcome : Except LifecycleError Unit)

namespace Exchange

/-- A call for a component. To ask a resolver is none. -/
def componentCall (naming : Product → ν) : Exchange → Option (ComponentCall ν)
  | ⟨.resolve _, _⟩ => none
  | ⟨.create _, answer⟩ => some (.create (Except.map (ε := ConstructionError) naming answer))
  | ⟨.capability product, able⟩ => some (.capability (naming product) able)
  | ⟨.start product, outcome⟩ => some (.start (naming product) outcome)
  | ⟨.stop product, outcome⟩ => some (.stop (naming product) outcome)

/-- The type that a call is made for by a proxy of the type `type`. -/
def servedType (type : Option TypeHandle) : Exchange → Option TypeHandle
  | ⟨.resolve _, _⟩ => none
  | ⟨.create created, _⟩ => some created
  | ⟨.capability _, _⟩ | ⟨.start _, _⟩ | ⟨.stop _, _⟩ => type

end Exchange

/-- What the outcome of a call of a proxy may depend on: the type of the proxy, once it is known,
and the calls that were made for each type so far. -/
structure Ledger (ν : Type) where
  type : Option TypeHandle
  calls : TypeHandle → List (ComponentCall ν)

namespace Ledger

variable (naming : Product → ν)

/-- One more call is made. -/
def note (l : Ledger ν) (e : Exchange) : Ledger ν where
  type := l.type.or e.handle?
  calls t := l.calls t ++
    if e.servedType l.type = some t then (e.componentCall naming).toList else []

/-- Several calls are made, one after the other. -/
def noteAll (l : Ledger ν) (es : List Exchange) : Ledger ν := es.foldl (note naming) l

variable {naming} {l : Ledger ν} {e : Exchange} {found : TypeHandle}

/-- A proxy that has a type keeps it. -/
private lemma note_type (hl : l.type = some found) : (l.note naming e).type = some found := by
  simp [note, hl]

/-- The call of a proxy that has a type is noted for this type. -/
private lemma note_calls (hl : l.type = some found)
    (served : e.servedType (some found) = some found) (t : TypeHandle) : (l.note naming e).calls t =
      l.calls t ++ if found = t then (e.componentCall naming).toList else [] := by
  simp [note, hl, served]

/-- The answer of a resolver is the type from then on, if there was none before. -/
private lemma note_resolve (l : Ledger ν) (naming : Product → ν) (name : String)
    (answer : Except NotFound TypeHandle) (hl : l.type = none) :
    l.note naming ⟨.resolve name, answer⟩ = ⟨answer.toOption, l.calls⟩ := by
  simp [note, hl, Exchange.handle?, Exchange.servedType]

end Ledger

/-! ## Outcomes -/

/-- The outcomes of calls. Those of a resolver are a matter of the name. Those of all other calls
are a matter of the type and of the calls that were made for this type before, for instance of how
many there were. -/
structure Outcomes (ν : Type) where
  resolve : String → Except NotFound TypeHandle
  create : TypeHandle → List (ComponentCall ν) → Except ConstructionError ν
  capability : TypeHandle → List (ComponentCall ν) → Bool
  start : TypeHandle → List (ComponentCall ν) → Except LifecycleError Unit
  stop : TypeHandle → List (ComponentCall ν) → Except LifecycleError Unit

namespace Outcomes

variable (k : Outcomes ν) (naming : Product → ν)

/-- The call of a proxy has the outcome that it must have. -/
def Gives (l : Ledger ν) : Exchange → Prop
  | ⟨.resolve name, answer⟩ => answer = k.resolve name
  | ⟨.create t, answer⟩ =>
    Except.map (ε := ConstructionError) naming answer = k.create t (l.calls t)
  | ⟨.capability _, able⟩ => ∀ t, l.type = some t → able = k.capability t (l.calls t)
  | ⟨.start _, outcome⟩ => ∀ t, l.type = some t → outcome = k.start t (l.calls t)
  | ⟨.stop _, outcome⟩ => ∀ t, l.type = some t → outcome = k.stop t (l.calls t)

/-- All calls have the outcomes that they must have. -/
def Explains : Ledger ν → List Exchange → Prop
  | _, [] => True
  | l, e :: es => k.Gives naming l e ∧ Explains (l.note naming e) es

/-- The type that a proxy of this name and this type has or will ever have. -/
def destiny (name : String) (type : Option TypeHandle) : Option TypeHandle :=
  type.or (k.resolve name).toOption

/-- A proxy that is resolved is destined to keep its type. -/
private lemma destiny_some {name : String} {type : TypeHandle} :
    k.destiny name (some type) = some type := rfl

/-- Asking the resolver does not change what a proxy is destined for. -/
private lemma destiny_resolved {name : String} :
    k.destiny name (k.resolve name).toOption = k.destiny name none := by
  simp [destiny]

end Outcomes

namespace Proxy

open Dialogue

/-! ## States and dialogues of the same kind -/

/-- The states are the same but for the product that is held, and `naming` does not tell the
products apart. -/
structure State.SameUpTo (naming : Product → ν) (s s' : State) : Prop where
  type : s.type = s'.type
  product : s.product.map naming = s'.product.map naming
  startRequested : s.startRequested = s'.startRequested
  running : s.running = s'.running
  lastError : s.lastError = s'.lastError

/-- `Parallel naming name type d d'`: the dialogues `d` and `d'` of a proxy of this name, whose type
is `type` as yet, make calls of the same kind, they go on in parallel after outcomes of the same
kind, and they end with the same result in states of the same kind. -/
inductive Parallel (naming : Product → ν) (name : String) :
    Option TypeHandle → Talk Outcome → Talk Outcome → Prop
  | done {type : Option TypeHandle} (result : Except ProxyError Unit) {s s' : State}
    (known : s.type = type) (same : s.SameUpTo naming s') :
    Parallel naming name type (.done (result, s)) (.done (result, s'))
  | resolve {next next' : Except NotFound TypeHandle → Talk Outcome}
    (later : ∀ answer, Parallel naming name answer.toOption (next answer) (next' answer)) :
    Parallel naming name none (.ask (.resolve name) next) (.ask (.resolve name) next')
  | create {type : TypeHandle} {next next' : Except ConstructionError Product → Talk Outcome}
    (later : ∀ answer answer', answer.map naming = answer'.map naming →
      Parallel naming name (some type) (next answer) (next' answer')) :
    Parallel naming name (some type) (.ask (.create type) next) (.ask (.create type) next')
  | capability {type : TypeHandle} {product product' : Product} {next next' : Bool → Talk Outcome}
    (same : naming product = naming product')
    (later : ∀ able, Parallel naming name (some type) (next able) (next' able)) :
    Parallel naming name (some type) (.ask (.capability product) next)
      (.ask (.capability product') next')
  | start {type : TypeHandle} {product product' : Product}
    {next next' : Except LifecycleError Unit → Talk Outcome}
    (same : naming product = naming product')
    (later : ∀ outcome, Parallel naming name (some type) (next outcome) (next' outcome)) :
    Parallel naming name (some type) (.ask (.start product) next) (.ask (.start product') next')
  | stop {type : TypeHandle} {product product' : Product}
    {next next' : Except LifecycleError Unit → Talk Outcome}
    (same : naming product = naming product')
    (later : ∀ outcome, Parallel naming name (some type) (next outcome) (next' outcome)) :
    Parallel naming name (some type) (.ask (.stop product) next) (.ask (.stop product') next')

section Operations

variable {naming : Product → ν} {name : String} {type : TypeHandle} {product product' : Product}
  {s s' : State}

/-- Every state is the same as itself, whatever products are called. -/
lemma State.SameUpTo.refl (s : State) : s.SameUpTo naming s := ⟨rfl, rfl, rfl, rfl, rfl⟩

/-- A product is held in both states or in none. -/
private lemma State.SameUpTo.none (same : s.SameUpTo naming s') (hs : s.product = none) :
    s'.product = none := by
  simpa [hs, eq_comm] using same.product

/-- Of two states that are the same up to naming, if one holds a product then the other one holds a
product that is called the same. -/
private lemma State.SameUpTo.held (same : s.SameUpTo naming s') (hs : s.product = some product) :
    ∃ product', s'.product = some product' ∧ naming product = naming product' := by
  have products := same.product
  rw [hs, Option.map_some, eq_comm, Option.map_eq_some_iff] at products
  obtain ⟨product', hs', alike⟩ := products
  exact ⟨product', hs', alike.symm⟩

/-- A failed attempt. -/
private lemma parallel_failed {e : ProxyError} (same : s.SameUpTo naming s')
    (known : s.type = some type) :
    Parallel naming name (some type) (.done (failed e s)) (.done (failed e s')) :=
  .done _ known ⟨same.type, same.product, same.startRequested, rfl, rfl⟩

/-- Two products that are called the same are launched alike: the same calls are made of them and
the same states come of it, up to naming. -/
private lemma launch_parallel (same : s.SameUpTo naming s') (known : s.type = some type)
    (alike : naming product = naming product') :
    Parallel naming name (some type) (launch name type product s)
      (launch name type product' s') := by
  refine .capability alike fun able => ?_
  cases able with
  | false => exact parallel_failed same known
  | true =>
    refine .start alike fun outcome => ?_
    rcases outcome with e | _
    · exact parallel_failed same known
    · exact .done _ known ⟨same.type, same.product, same.startRequested, rfl, rfl⟩

/-- In states that are the same up to naming, attempts are made alike: both use the products that
they hold, or both ask for a new one.

**Proof sketch.** By cases on whether a product is held, which is so in both states or in neither.
The products that are built may differ, but the answers are alike, so both attempts fail to build
one, or both go on with products that bear the same name. -/
private lemma attempt_parallel (same : s.SameUpTo naming s') (known : s.type = some type) :
    Parallel naming name (some type) (attempt name type s) (attempt name type s') := by
  cases hs : s.product with
  | some product =>
    obtain ⟨product', hs', alike⟩ := same.held hs
    rw [attempt_of_held hs, attempt_of_held hs']
    exact launch_parallel same known alike
  | none =>
    simp only [attempt, hs, same.none hs]
    refine .create fun answer answer' alike => ?_
    rcases answer with e | product <;> rcases answer' with e' | product'
    · obtain rfl : e = e' := by simpa [Except.map] using alike
      exact parallel_failed same known
    · simp [Except.map] at alike
    · simp [Except.map] at alike
    · have alike : naming product = naming product' := by simpa [Except.map] using alike
      refine .capability alike fun able => ?_
      cases able with
      | false => exact parallel_failed same known
      | true =>
        exact launch_parallel ⟨same.type, congrArg some alike, same.startRequested, same.running,
          same.lastError⟩ known alike

/-- In states that are the same up to naming, starts are carried out alike: both are deferred, or
both lead to an attempt.

**Proof sketch.** Both states know the type or neither does. To note the request keeps them the same
up to naming. -/
private lemma start_parallel (same : s.SameUpTo naming s') :
    Parallel naming name s.type (start name s) (start name s') := by
  have requested : ({ s with startRequested := true } : State).SameUpTo naming
      { s' with startRequested := true } :=
    ⟨same.type, same.product, rfl, same.running, same.lastError⟩
  cases known : s.type with
  | none =>
    rw [start_of_unknown known, start_of_unknown (same.type ▸ known)]
    exact .done _ known requested
  | some type =>
    rw [start_of_known known, start_of_known (same.type ▸ known)]
    exact attempt_parallel requested known

/-- In states that are the same up to naming, stops are carried out alike. A product is held only
where the name is resolved, so that both know by which type it was made.

**Proof sketch.** By cases on whether a product is held. However its stop ends, both states are
released, and released states of that kind are the same up to naming. -/
private lemma stop_parallel (same : s.SameUpTo naming s')
    (held : s.product.isSome → s.type.isSome) :
    Parallel naming name s.type (stop name s) (stop name s') := by
  have released : s.released.SameUpTo naming s'.released :=
    ⟨same.type, rfl, rfl, rfl, same.lastError⟩
  cases hs : s.product with
  | none =>
    rw [stop_of_none hs, stop_of_none (same.none hs)]
    exact .done _ rfl released
  | some product =>
    obtain ⟨product', hs', alike⟩ := same.held hs
    obtain ⟨type, known⟩ := Option.isSome_iff_exists.1 (held (by simp [hs]))
    have ended (result : Except ProxyError Unit) : Parallel naming name (some type)
        (.done (result, s.released)) (.done (result, s'.released)) := .done result known released
    rw [known]
    simp only [stop, hs, hs']
    refine .capability alike fun able => ?_
    cases able with
    | false => exact ended _
    | true =>
      refine .stop alike fun outcome => ?_
      rcases outcome with e | _ <;> exact ended _

/-- In states that are the same up to naming, resolutions are carried out alike: both know the type,
or both look it up.

**Proof sketch.** If the type is known nothing is asked. Otherwise the same name is looked up, and
the type that is found is put in both states. Whether an attempt follows depends on the request,
which both have or neither. -/
private lemma resolve_parallel (same : s.SameUpTo naming s') :
    Parallel naming name s.type (resolve name s) (resolve name s') := by
  cases known : s.type with
  | some type =>
    rw [resolve_of_known known, resolve_of_known (same.type ▸ known)]
    exact .done _ known same
  | none =>
    rw [resolve_of_unknown known, resolve_of_unknown (same.type ▸ known)]
    refine .resolve fun answer => ?_
    rcases answer with e | type
    · exact .done _ known same
    · have found : ({ s with type := some type } : State).SameUpTo naming
          { s' with type := some type } :=
        ⟨rfl, same.product, same.startRequested, same.running, same.lastError⟩
      cases requested : s.startRequested with
      | true =>
        rw [decided_requested requested, decided_requested (same.startRequested ▸ requested)]
        exact attempt_parallel found rfl
      | false =>
        rw [decided_idle requested, decided_idle (same.startRequested ▸ requested)]
        exact .done _ rfl found

/-- **The operations on states of the same kind are parallel**, if a product is held only of a known
type. -/
theorem talk_parallel {operation : Operation} (same : s.SameUpTo naming s')
    (held : s.product.isSome → s.type.isSome) :
    Parallel naming name s.type (operation.talk name s) (operation.talk name s') := by
  cases operation with
  | start => exact start_parallel same
  | stop => exact stop_parallel same held
  | resolve => exact resolve_parallel same

end Operations

/-! ## What parallel dialogues come to -/

section Comparison

variable {k : Outcomes ν} {naming : Product → ν} {name : String} {type : Option TypeHandle}
  {d d' : Talk Outcome} {l l' : Ledger ν} {e e' : Exchange} {es es' : List Exchange}
  {o o' : Outcome}

/-- The calls of a dialogue are for the type that the proxy is destined for, and for no other. -/
structure Devoted (k : Outcomes ν) (naming : Product → ν) (name : String)
    (type : Option TypeHandle) (l : Ledger ν) (es : List Exchange) (o : Outcome) : Prop where
  destiny : k.destiny name o.2.type = k.destiny name type
  others : ∀ t, k.destiny name type ≠ some t → (l.noteAll naming es).calls t = l.calls t

/-- One call for the type comes first. -/
private lemma Devoted.cons {found : TypeHandle} (hl : l.type = some found)
    (served : e.servedType (some found) = some found)
    (rest : Devoted k naming name (some found) (l.note naming e) es o) :
    Devoted k naming name (some found) l (e :: es) o where
  destiny := rest.destiny
  others t ht := by
    have other : found ≠ t := fun h => ht (h ▸ k.destiny_some)
    exact (rest.others t ht).trans (by simp [Ledger.note_calls hl served, other])

/-- A dialogue makes calls for the type that its proxy is destined for, and for no other.

**Proof sketch.** Induction on the parallel. The first look-up says which type the proxy is destined
for, and each of the other calls is noted under the type of the proxy. -/
theorem Parallel.devoted (h : Parallel naming name type d d') (hl : l.type = type)
    (path : Path d es o) (given : k.Explains naming l es) : Devoted k naming name type l es o := by
  induction h generalizing l es with
  | done result known same =>
    obtain ⟨rfl, rfl⟩ := path_done.1 path
    exact ⟨by rw [known], fun _ _ => rfl⟩
  | resolve later ih =>
    obtain ⟨answer, rest, rfl, left⟩ := path_ask.1 path
    obtain ⟨rfl, given⟩ := given
    have found := l.note_resolve naming name (k.resolve name) hl
    obtain ⟨destiny, others⟩ := ih (k.resolve name) (by rw [found]) left given
    rw [k.destiny_resolved] at destiny others
    exact ⟨destiny, fun t ht => (others t ht).trans (by rw [found])⟩
  | create later ih =>
    obtain ⟨answer, rest, rfl, left⟩ := path_ask.1 path
    exact .cons hl rfl (ih answer answer rfl (Ledger.note_type hl) left given.2)
  | capability same later ih | start same later ih | stop same later ih =>
    obtain ⟨answer, rest, rfl, left⟩ := path_ask.1 path
    exact .cons hl rfl (ih answer (Ledger.note_type hl) left given.2)

/-- Two dialogues that were carried out have the same result, and they made the same calls. -/
structure Agreed (k : Outcomes ν) (naming : Product → ν) (name : String)
    (type : Option TypeHandle) (l l' : Ledger ν) (es es' : List Exchange) (o o' : Outcome) :
    Prop where
  result : o.1 = o'.1
  state : o.2.SameUpTo naming o'.2
  calls : ∀ t, k.destiny name type = some t →
    (l.noteAll naming es).calls t = (l'.noteAll naming es').calls t

/-- One call for the type comes first in both. -/
private lemma Agreed.cons {found : TypeHandle} (hl : l.type = some found)
    (hl' : l'.type = some found) (served : e.servedType (some found) = some found)
    (served' : e'.servedType (some found) = some found) (same : l.calls found = l'.calls found)
    (calls : e.componentCall naming = e'.componentCall naming)
    (rest : (l.note naming e).calls found = (l'.note naming e').calls found →
      Agreed k naming name (some found) (l.note naming e) (l'.note naming e') es es' o o') :
    Agreed k naming name (some found) l l' (e :: es) (e' :: es') o o' := by
  obtain ⟨result, state, calls⟩ := rest (by
    rw [Ledger.note_calls hl served, Ledger.note_calls hl' served', same, calls])
  exact ⟨result, state, calls⟩

/-- **Parallel dialogues agree**, if the same calls were made before for the type that their proxy
is destined for.

**Proof sketch.** Induction on the dialogues. The same is known whenever a call is made, so its
outcomes are of the same kind, and the dialogues go on in parallel. -/
theorem Parallel.agrees (h : Parallel naming name type d d') (hl : l.type = type)
    (hl' : l'.type = type) (same : ∀ t, k.destiny name type = some t → l.calls t = l'.calls t)
    (path : Path d es o) (path' : Path d' es' o') (given : k.Explains naming l es)
    (given' : k.Explains naming l' es') : Agreed k naming name type l l' es es' o o' := by
  induction h generalizing l l' es es' with
  | done result known alike =>
    obtain ⟨rfl, rfl⟩ := path_done.1 path
    obtain ⟨rfl, rfl⟩ := path_done.1 path'
    exact ⟨rfl, alike, same⟩
  | resolve later ih =>
    obtain ⟨answer, rest, rfl, left⟩ := path_ask.1 path
    obtain ⟨answer', rest', rfl, left'⟩ := path_ask.1 path'
    obtain ⟨rfl, given⟩ := given
    obtain ⟨rfl, given'⟩ := given'
    have found := l.note_resolve naming name (k.resolve name) hl
    have found' := l'.note_resolve naming name (k.resolve name) hl'
    obtain ⟨result, state, calls⟩ := ih (k.resolve name) (by rw [found]) (by rw [found'])
      (by rwa [found, found', k.destiny_resolved]) left left' given given'
    exact ⟨result, state, k.destiny_resolved ▸ calls⟩
  | @create found _ _ later ih =>
    obtain ⟨answer, rest, rfl, left⟩ := path_ask.1 path
    obtain ⟨answer', rest', rfl, left'⟩ := path_ask.1 path'
    have before := same found k.destiny_some
    have alike : Except.map (ε := ConstructionError) naming answer =
        Except.map (ε := ConstructionError) naming answer' := by
      rw [given.1, given'.1, before]
    refine .cons hl hl' rfl rfl before (by simp [Exchange.componentCall, alike]) fun after => ?_
    exact ih answer answer' alike (Ledger.note_type hl) (Ledger.note_type hl')
      (by simpa [k.destiny_some] using after) left left' given.2 given'.2
  | @capability found _ _ _ _ alike later ih | @start found _ _ _ _ alike later ih
  | @stop found _ _ _ _ alike later ih =>
    obtain ⟨answer, rest, rfl, left⟩ := path_ask.1 path
    obtain ⟨answer', rest', rfl, left'⟩ := path_ask.1 path'
    have before := same found k.destiny_some
    obtain rfl : answer = answer' := by rw [given.1 found hl, given'.1 found hl', before]
    refine .cons hl hl' rfl rfl before (by simp [Exchange.componentCall, alike]) fun after => ?_
    exact ih answer (Ledger.note_type hl) (Ledger.note_type hl')
      (by simpa [k.destiny_some] using after) left left' given.2 given'.2

end Comparison

end Proxy

end Standby
