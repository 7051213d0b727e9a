import Standby.Proofs.Proxy.Paths
import Standby.Proofs.Since
set_option autoImplicit false

/-!
# The history of a proxy

The operations on a proxy that came to an end, with the calls that each made and its result. The
state of a proxy is a matter of its history: what an observer is shown can be said in terms of the
calls alone.

## Main definitions

* `Standby.Proxy.Turn` — an operation that came to an end.
* `Standby.Proxy.Turn.Attempts` — whether an attempt to run the component was made in a turn.
* `Standby.Proxy.Run` — the states that a new proxy reaches, by the history that leads there.
* `Standby.Proxy.Determined` — what a history says about the fields of the state.
* `Standby.Proxy.Explained` — what it says besides, about the attempts and the type.

## Main results

* `Standby.Proxy.Run.determined` — the state after a run is what its history says.
* `Standby.Proxy.Run.attempts_iff` — the turns in which an attempt is made.
* `Standby.Proxy.Run.explained` — both, for every run.
-/

namespace Standby

namespace Exchange

variable {name : String} {type : TypeHandle} {product : Product}

/-- The type that a call found: the answer of a resolver, if it was a success. -/
def handle? : Exchange → Option TypeHandle
  | ⟨.resolve _, answer⟩ => Except.toOption (ε := NotFound) answer
  | _ => none

/-- A look-up that succeeds gives the type that it found. -/
@[simp] lemma handle?_found : handle? ⟨.resolve name, .ok type⟩ = some type := rfl

/-- A look-up that fails gives no type. -/
@[simp] lemma handle?_missing (e : NotFound) : handle? ⟨.resolve name, .error e⟩ = none := rfl

/-- A product that is asked for its capability gives no type. -/
@[simp] lemma handle?_capability (able : Bool) : handle? ⟨.capability product, able⟩ = none := rfl

/-- A product that is stopped gives no type. -/
@[simp] lemma handle?_stop (result : Except LifecycleError Unit) :
    handle? ⟨.stop product, result⟩ = none := rfl

end Exchange

namespace Proxy

open Dialogue

/-- An operation on a proxy that came to an end: the calls that it made, and its result. -/
structure Turn where
  operation : Operation
  exchanges : List Exchange
  result : Except ProxyError Unit

/-- An attempt to run the component is made in a turn that is no stop and calls the factory or a
product. -/
def Turn.Attempts (t : Turn) : Prop :=
  t.operation ≠ .stop ∧ ∃ e ∈ t.exchanges, ∀ name, e.1 ≠ .resolve name

/-- The first type that a resolver found in a history. -/
def firstType (h : List Turn) : Option TypeHandle :=
  (h.flatMap Turn.exchanges).findSome? Exchange.handle?

/-- `Run name h s`: a new proxy of this name comes to the state `s` by the turns of `h`. -/
inductive Run (name : String) : List Turn → State → Prop
  | new : Run name [] .initial
  | turn {h : List Turn} {s s' : State} {t : Turn} (run : Run name h s)
    (path : Path (t.operation.talk name s) t.exchanges (t.result, s')) : Run name (h ++ [t]) s'

/-! ## What an operation does to each field -/

section Fields

variable {name : String} {type : TypeHandle} {product : Product} {operation : Operation}
  {s s' : State} {es : List Exchange} {r : Except ProxyError Unit} {o : Outcome}

/-- The state after an attempt with a result. -/
def State.settled (s : State) : Except ProxyError Unit → State
  | .ok () => { s with running := true, lastError := none }
  | .error e => { s with running := false, lastError := some e }

/-- A launch settles the state by its result: the product runs and the last failure is forgotten, or
it does not run and the failure is kept. -/
lemma LaunchPath.settled (h : LaunchPath name type product s es o) : o.2 = s.settled o.1 := by
  cases h <;> rfl

/-- An attempt changes which product is held, and the two fields that its result settles. -/
lemma AttemptPath.settled (h : AttemptPath name type s es o) :
    ∃ product, o.2 = ({ s with product } : State).settled o.1 := by
  cases h with
  | held hs launched => exact ⟨s.product, launched.settled⟩
  | unbuilt e | unfit product => exact ⟨s.product, rfl⟩
  | built _ launched => exact ⟨_, launched.settled⟩

/-- The calls of an attempt go to the factory and to products only, and there is one at least. -/
lemma AttemptPath.calls (h : AttemptPath name type s es o) :
    es ≠ [] ∧ ∀ e ∈ es, ∀ name, e.1 ≠ .resolve name := by
  have launched {product : Product} {s : State} {es : List Exchange}
      (h : LaunchPath name type product s es o) :
      es ≠ [] ∧ ∀ e ∈ es, ∀ name, e.1 ≠ .resolve name := by
    cases h <;> simp
  cases h with
  | held _ h => exact launched h
  | unbuilt e | unfit product => simp
  | built _ h => simpa using (launched h).2

/-- No type is found by the calls of an attempt. -/
private lemma AttemptPath.handle_eq_none (h : AttemptPath name type s es o) :
    es.findSome? Exchange.handle? = none := by
  rw [List.findSome?_eq_none_iff]
  rintro ⟨q, answer⟩ he
  cases q with
  | resolve name => exact absurd rfl (h.calls.2 _ he name)
  | create _ | capability _ | start _ | stop _ => rfl

/-- An attempt is made in a turn whose calls contain those of one. -/
private lemma AttemptPath.attempts (h : AttemptPath name type s es o) (before : List Exchange)
    (hop : operation ≠ .stop) : Turn.Attempts ⟨operation, before ++ es, r⟩ := by
  obtain ⟨e, he⟩ := List.exists_mem_of_ne_nil es h.calls.1
  exact ⟨hop, e, List.mem_append_right _ he, h.calls.2 e he⟩

namespace OperationPath

/-- A start is requested from a start on, until a stop. -/
private lemma startRequested_iff (h : OperationPath name operation s es o) :
    o.2.startRequested = true ↔
      operation = .start ∨ s.startRequested = true ∧ operation ≠ .stop := by
  cases h with
  | deferred | nothingHeld | unstoppable | stopFailed | stopped | known | missing | found =>
    simp [State.released]
  | start _ tried | foundPending _ _ tried =>
    obtain ⟨product, hsettled⟩ := tried.settled
    rw [hsettled]
    cases o.1 <;> simp [State.settled]

/-- The type of a proxy is the one it had, and else the one that the resolver found.

**Proof sketch.** By cases on the way in which the operation went. The type is put in the state by
the resolution that finds it, and nothing takes it away. -/
lemma type_eq (h : OperationPath name operation s es o) :
    o.2.type = s.type.or (es.findSome? Exchange.handle?) := by
  cases h with
  | deferred | nothingHeld | known => simp [State.released]
  | unstoppable | stopFailed | stopped => simp [State.released, List.findSome?_cons]
  | missing _ hs | found _ hs _ => simp [List.findSome?_cons, hs]
  | start hs tried =>
    obtain ⟨product, hsettled⟩ := tried.settled
    rw [hsettled, tried.handle_eq_none]
    cases o.1 <;> simp [State.settled]
  | foundPending hs _ tried =>
    obtain ⟨product, hsettled⟩ := tried.settled
    rw [hsettled]
    cases o.1 <;> simp [State.settled, List.findSome?_cons, hs]

/-- An attempt settles whether the component runs, and which failure is kept.

**Proof sketch.** By cases on the way in which the operation went. Whatever makes no attempt is
excluded, and an attempt settles the state by its result. -/
lemma of_attempts (h : OperationPath name operation s es (r, s'))
    (attempts : Turn.Attempts ⟨operation, es, r⟩) :
    (s'.running = true ↔ r = .ok ()) ∧ ∀ e, s'.lastError = some e ↔ r = .error e := by
  have of_tried {type : TypeHandle} {s : State} {es : List Exchange}
      (tried : AttemptPath name type s es (r, s')) :
      (s'.running = true ↔ r = .ok ()) ∧ ∀ e, s'.lastError = some e ↔ r = .error e := by
    obtain ⟨product, hsettled⟩ := tried.settled
    change s' = State.settled _ r at hsettled
    rw [hsettled]
    cases r <;> simp [State.settled]
  obtain ⟨hop, e, he, hne⟩ := attempts
  cases h with
  | deferred | known => simp at he
  | nothingHeld | unstoppable | stopFailed | stopped => exact absurd rfl hop
  | missing | found =>
    obtain rfl := List.mem_singleton.1 he
    exact absurd rfl (hne name)
  | start _ tried | foundPending _ _ tried => exact of_tried tried

/-- Without an attempt the failure that is kept stays, and the component runs on unless it is
stopped. -/
private lemma of_not_attempts (h : OperationPath name operation s es (r, s'))
    (quiet : ¬ Turn.Attempts ⟨operation, es, r⟩) :
    (s'.running = true ↔ s.running = true ∧ operation ≠ .stop) ∧ s'.lastError = s.lastError := by
  cases h with
  | deferred | nothingHeld | unstoppable | stopFailed | stopped | known | missing | found =>
    simp [State.released]
  | start _ tried => exact absurd (tried.attempts [] (by simp)) quiet
  | foundPending _ _ tried => exact absurd (tried.attempts [_] (by simp)) quiet

/-- An attempt is made by a start when the type is known, and by the resolution that finds the type
when a start is pending.

**Proof sketch.** By cases on the way in which the operation went. The condition on the right tells
apart the ways that make an attempt from those that make none. -/
private lemma attempts_iff (h : OperationPath name operation s es (r, s')) :
    Turn.Attempts ⟨operation, es, r⟩ ↔
      operation = .start ∧ s.type.isSome ∨
      operation = .resolve ∧ s.type = none ∧ (es.findSome? Exchange.handle?).isSome ∧
        s.startRequested = true := by
  cases h with
  | deferred hs | known hs => simp [Turn.Attempts, hs]
  | nothingHeld | unstoppable | stopFailed | stopped => simp [Turn.Attempts]
  | missing _ hs => simp [Turn.Attempts, List.findSome?_cons]
  | found _ hs idle => simp [Turn.Attempts, idle]
  | start hs tried => simpa [hs] using tried.attempts [] (by simp)
  | foundPending hs requested tried =>
    simpa [hs, requested, List.findSome?_cons] using tried.attempts [_] (by simp)

end OperationPath

end Fields

/-! ## What a history says -/

/-- What a history says about the state that it leads to.

Everything but the product is a function of the history. The product is not among the fields,
because a factory may give any; which one is held is a matter of what the turns obtained. -/
structure Determined (h : List Turn) (s : State) : Prop where
  /-- A start is requested if one was called and no stop came after it. -/
  startRequested :
    s.startRequested = true ↔ Since (·.operation = .start) (·.operation = .stop) h
  /-- The type is the first one that the resolver found. -/
  type : s.type = firstType h
  /-- The failure that is kept is the one of the latest attempt, if that failed. -/
  lastError : ∀ e, s.lastError = some e ↔
    Since (fun t => t.Attempts ∧ t.result = .error e) Turn.Attempts h
  /-- The component runs if the latest attempt succeeded and no stop came after it. -/
  running : s.running = true ↔
    Since (fun t => t.Attempts ∧ t.result = .ok ()) (fun t => t.Attempts ∨ t.operation = .stop) h

/-- A history says everything about the state that it leads to: what the fields are, in which turns
attempts were made, and that the type once found stays. -/
structure Explained (h : List Turn) (s : State) : Prop extends Determined h s where
  /-- An attempt is made by each start after the type was found, and by the resolution that finds
  the type if a start is pending then. -/
  attempts : ∀ before t after, h = before ++ t :: after →
    (t.Attempts ↔
      t.operation = .start ∧ (firstType before).isSome ∨
      t.operation = .resolve ∧ firstType before = none ∧ (firstType [t]).isSome ∧
        Since (·.operation = .start) (·.operation = .stop) before)
  /-- The type that an earlier part of the history found is the type. -/
  lasting : ∀ before after found, h = before ++ after → firstType before = some found →
    s.type = some found

/-- The type that some turns and then some more found first is the one that the former found first,
or else the latter. -/
lemma firstType_append (h h' : List Turn) :
    firstType (h ++ h') = (firstType h).or (firstType h') := by
  simp [firstType, List.findSome?_append]

namespace Run

variable {name : String} {h : List Turn} {s : State}

/-- The state after a run is what its history says.

**Proof sketch.** Induction on the run, a field at a time. What an operation does to the request, to
the type, to the running component and to the failure is known for each operation, and a history
reads the same off its last turn. -/
theorem determined (run : Run name h s) : Determined h s := by
  induction run with
  | new =>
    exact {
      startRequested := by simp [State.initial]
      type := rfl
      lastError := by simp [State.initial]
      running := by simp [State.initial] }
  | @turn h s s' t _ path ih =>
    have path := path_talk_iff.1 path
    constructor
    case startRequested =>
      rw [since_snoc, ← ih.startRequested]
      exact path.startRequested_iff
    case type =>
      rw [firstType_append, ← ih.type]
      simpa [firstType] using path.type_eq
    case lastError =>
      intro e
      rw [since_snoc, ← ih.lastError]
      by_cases ht : t.Attempts
      · simpa [ht] using (path.of_attempts ht).2 e
      · simp [ht, (path.of_not_attempts ht).2]
    case running =>
      rw [since_snoc, ← ih.running]
      by_cases ht : t.Attempts
      · simpa [ht] using (path.of_attempts ht).1
      · simpa [ht] using (path.of_not_attempts ht).1

/-- The state after a run is the one to which its last turn leads. -/
lemma last {t : Turn} (run : Run name (h ++ [t]) s) :
    ∃ u, Run name h u ∧ OperationPath name t.operation u t.exchanges (t.result, s) := by
  generalize hh : h ++ [t] = h' at run
  cases run with
  | new => simp at hh
  | @turn h₁ u _ t₁ run path =>
    obtain ⟨rfl, ⟨⟩⟩ := List.append_inj' hh rfl
    exact ⟨u, run, path_talk_iff.1 path⟩

/-- A history leads to one state. -/
lemma unique {s' : State} (run : Run name h s) (run' : Run name h s') : s = s' := by
  induction run generalizing s' with
  | new =>
    generalize hh : [] = h' at run'
    cases run' with
    | new => rfl
    | turn => simp at hh
  | turn _ path ih =>
    obtain ⟨u, run, path'⟩ := run'.last
    obtain rfl := ih run
    exact (Prod.mk.inj (path.unique (path_talk_iff.2 path'))).2

/-- The turns of a run are made one after the other. -/
lemma split {before after : List Turn} {t : Turn} (run : Run name h s)
    (hh : h = before ++ t :: after) :
    ∃ u u', Run name before u ∧ OperationPath name t.operation u t.exchanges (t.result, u') := by
  induction run generalizing after with
  | new => simp at hh
  | @turn h s s' t' run path ih =>
    rcases snoc_eq_append_cons hh with ⟨rfl, rfl, -⟩ | ⟨rest, rfl, -⟩
    · exact ⟨s, s', run, path_talk_iff.1 path⟩
    · exact ih rfl

/-- In a run an attempt is made by each start after the type was found, and by the resolution that
finds the type if a start is pending then. -/
theorem attempts_iff {before after : List Turn} {t : Turn} (run : Run name h s)
    (hh : h = before ++ t :: after) :
    t.Attempts ↔
      t.operation = .start ∧ (firstType before).isSome ∨
      t.operation = .resolve ∧ firstType before = none ∧ (firstType [t]).isSome ∧
        Since (·.operation = .start) (·.operation = .stop) before := by
  obtain ⟨u, u', runBefore, path⟩ := run.split hh
  have said := runBefore.determined
  rw [← said.type, ← said.startRequested]
  simpa [firstType] using path.attempts_iff

/-- The state after a run is explained by its history. -/
theorem explained (run : Run name h s) : Explained h s where
  toDetermined := run.determined
  attempts _ _ _ := run.attempts_iff
  lasting before after found hh hfound := by
    rw [run.determined.type, hh, firstType_append, hfound, Option.some_or]

end Run

end Proxy

end Standby
