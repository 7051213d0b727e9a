import Standby.Proofs.Dialogue
import Standby.Proxy.Operation
set_option autoImplicit false

/-!
# The exits of a proxy's operations

Each operation can end in a handful of ways, which differ in the calls that were made, in the result
and in the state that is left. They are listed here once, so that facts about operations are read
off this list and not off the dialogues.

## Main definitions

* `Standby.Proxy.LaunchPath` — how starting the product that is held can end.
* `Standby.Proxy.AttemptPath` — how an attempt to run the component can end.
* `Standby.Proxy.OperationPath` — how an operation can end.

## Main results

* `Standby.Proxy.path_talk_iff` — these are all the paths of an operation.
-/

namespace Standby

/-- A call that a proxy made, together with its answer. -/
abbrev Exchange := Dialogue.Exchange Request Request.Answer

namespace Proxy

open Dialogue

/-- The state that a stop leaves. -/
def State.released (s : State) : State :=
  { s with startRequested := false, running := false, product := none }

/-! ## The lists of exits -/

section Exits

variable (name : String)

/-- The ends of `launch`: the product says no, its start fails, or it runs.

There is one constructor for each way in which a launch can go, with the calls that it makes and the
outcome to which it leads. -/
inductive LaunchPath (type : TypeHandle) (product : Product) (s : State) :
    List Exchange → Outcome → Prop
  | refused : LaunchPath type product s [⟨.capability product, false⟩] (failed (mismatch type) s)
  | startFailed (e : LifecycleError) :
    LaunchPath type product s [⟨.capability product, true⟩, ⟨.start product, .error e⟩]
      (failed (.start name e) s)
  | started :
    LaunchPath type product s [⟨.capability product, true⟩, ⟨.start product, .ok ()⟩]
      (.ok (), { s with running := true, lastError := none })

/-- The ends of `attempt`: the product that is held is launched; or no product is held, and a new
one cannot be built, is dropped because it says no, or is held and launched. -/
inductive AttemptPath (type : TypeHandle) (s : State) : List Exchange → Outcome → Prop
  | held {product : Product} {es : List Exchange} {o : Outcome} (hs : s.product = some product)
    (launched : LaunchPath name type product s es o) : AttemptPath type s es o
  | unbuilt (e : ConstructionError) (hs : s.product = none) :
    AttemptPath type s [⟨.create type, .error e⟩] (failed (.construction e) s)
  | unfit (product : Product) (hs : s.product = none) :
    AttemptPath type s [⟨.create type, .ok product⟩, ⟨.capability product, false⟩]
      (failed (mismatch type) s)
  | built {product : Product} {es : List Exchange} {o : Outcome} (hs : s.product = none)
    (launched : LaunchPath name type product { s with product := some product } es o) :
    AttemptPath type s (⟨.create type, .ok product⟩ :: ⟨.capability product, true⟩ :: es) o

/-- The ends of the three operations.

There is one constructor for each way in which an operation can go. All that is shown of single
operations is shown by cases on these constructors, so that the definitions of the operations are
opened once only. -/
inductive OperationPath : Operation → State → List Exchange → Outcome → Prop
  | deferred {s : State} (hs : s.type = none) :
    OperationPath .start s [] (.ok (), { s with startRequested := true })
  | start {s : State} {type : TypeHandle} {es : List Exchange} {o : Outcome}
    (hs : s.type = some type)
    (tried : AttemptPath name type { s with startRequested := true } es o) :
    OperationPath .start s es o
  | nothingHeld {s : State} (hs : s.product = none) : OperationPath .stop s [] (.ok (), s.released)
  | unstoppable {s : State} {product : Product} (hs : s.product = some product) :
    OperationPath .stop s [⟨.capability product, false⟩] (.ok (), s.released)
  | stopFailed {s : State} {product : Product} (e : LifecycleError)
    (hs : s.product = some product) :
    OperationPath .stop s [⟨.capability product, true⟩, ⟨.stop product, .error e⟩]
      (.error (.stop name e), s.released)
  | stopped {s : State} {product : Product} (hs : s.product = some product) :
    OperationPath .stop s [⟨.capability product, true⟩, ⟨.stop product, .ok ()⟩]
      (.ok (), s.released)
  | known {s : State} {type : TypeHandle} (hs : s.type = some type) :
    OperationPath .resolve s [] (.ok (), s)
  | missing {s : State} (e : NotFound) (hs : s.type = none) :
    OperationPath .resolve s [⟨.resolve name, .error e⟩] (.error (.notFound e), s)
  | found {s : State} (type : TypeHandle) (hs : s.type = none) (idle : s.startRequested = false) :
    OperationPath .resolve s [⟨.resolve name, .ok type⟩] (.ok (), { s with type := some type })
  | foundPending {s : State} {type : TypeHandle} {es : List Exchange} {o : Outcome}
    (hs : s.type = none) (requested : s.startRequested = true)
    (tried : AttemptPath name type { s with type := some type } es o) :
    OperationPath .resolve s (⟨.resolve name, .ok type⟩ :: es) o

end Exits

/-! ## The lists are complete and exact -/

variable {name : String} {type : TypeHandle} {product : Product} {s : State} {es : List Exchange}
  {o : Outcome}

/-! ### What the state decides -/

/-- An attempt with a product at hand launches it. -/
lemma attempt_of_held (hs : s.product = some product) :
    attempt name type s = launch name type product s := by
  rw [attempt, hs]

/-- A start before the name is resolved is requested and asks for nothing. -/
lemma start_of_unknown (hs : s.type = none) :
    start name s = done (.ok (), { s with startRequested := true }) := by
  simp only [start, hs]
  rfl

/-- A start after the name is resolved is requested and leads to an attempt. -/
lemma start_of_known (hs : s.type = some type) :
    start name s = attempt name type { s with startRequested := true } := by
  simp only [start, hs]

/-- A stop of a proxy that holds no product withdraws the request and asks for nothing. -/
lemma stop_of_none (hs : s.product = none) : stop name s = done (.ok (), s.released) := by
  simp only [stop, hs]
  rfl

/-- A resolution of a name that is resolved does nothing. -/
lemma resolve_of_known (hs : s.type = some type) : resolve name s = done (.ok (), s) := by
  simp only [resolve, hs]
  rfl

/-- What a resolution does with the answer of the resolver. -/
def decided (name : String) (s : State) : Except NotFound TypeHandle → Talk Outcome
  | .error e => done (.error (.notFound e), s)
  | .ok type =>
    if s.startRequested then attempt name type { s with type := some type }
    else done (.ok (), { s with type := some type })

/-- A resolution looks the name up and goes on with what is found. -/
lemma resolve_of_unknown (hs : s.type = none) :
    resolve name s = ask (.resolve name) (decided name s) := by
  simp only [resolve, hs]
  refine congrArg (ask _) (funext fun answer => ?_)
  rcases answer with e | type <;> rfl

/-- Once the type is found, a start that was requested leads to an attempt. -/
lemma decided_requested (requested : s.startRequested = true) :
    decided name s (.ok type) = attempt name type { s with type := some type } :=
  if_pos requested

/-- Once the type is found, and no start was requested, the resolution is over. -/
lemma decided_idle (idle : s.startRequested = false) :
    decided name s (.ok type) = done (.ok (), { s with type := some type }) :=
  if_neg (by simp [idle])

/-! ### Paths, operation by operation -/

/-- The ways in which a launch can go are those of `LaunchPath`: the product is not able, its start
fails, or its start succeeds.

**Proof sketch.** A launch asks two questions at most. The three cases are the refusal of the first,
and the two answers of the second. -/
private lemma path_launch_iff :
    Path (launch name type product s) es o ↔ LaunchPath name type product s es o := by
  constructor
  · intro h
    obtain ⟨_ | _, _, rfl, able⟩ := path_ask.1 h
    · obtain ⟨rfl, rfl⟩ := path_done.1 able
      exact .refused
    · obtain ⟨e | _, _, rfl, ended⟩ := path_ask.1 able
      · obtain ⟨rfl, rfl⟩ := path_done.1 ended
        exact .startFailed e
      · obtain ⟨rfl, rfl⟩ := path_done.1 ended
        exact .started
  · intro h
    cases h with
    | refused => exact path_ask.2 ⟨false, _, rfl, path_done.2 ⟨rfl, rfl⟩⟩
    | startFailed e =>
      exact path_ask.2 ⟨true, _, rfl, path_ask.2 ⟨.error e, _, rfl, path_done.2 ⟨rfl, rfl⟩⟩⟩
    | started =>
      exact path_ask.2 ⟨true, _, rfl, path_ask.2 ⟨.ok (), _, rfl, path_done.2 ⟨rfl, rfl⟩⟩⟩

/-- The ways in which an attempt can go are those of `AttemptPath`: a product is held and launched,
none can be built, the one that was built is not able, or it is launched.

**Proof sketch.** By cases on whether a product is held. If one is, the attempt is its launch. If
none is, the attempt asks for one and then whether it is able, and what follows is again a
launch. -/
lemma path_attempt_iff : Path (attempt name type s) es o ↔ AttemptPath name type s es o := by
  cases hs : s.product with
  | some product =>
    rw [attempt_of_held hs, path_launch_iff]
    constructor
    · exact .held hs
    · intro h
      cases h with
      | held hs' launched =>
        obtain rfl : product = _ := Option.some.inj (hs.symm.trans hs')
        exact launched
      | unbuilt _ hs' | unfit _ hs' | built hs' _ => simp [hs] at hs'
  | none =>
    simp only [attempt, hs]
    constructor
    · intro h
      obtain ⟨e | product, _, rfl, made⟩ := path_ask.1 h
      · obtain ⟨rfl, rfl⟩ := path_done.1 made
        exact .unbuilt e hs
      · obtain ⟨_ | _, _, rfl, able⟩ := path_ask.1 made
        · obtain ⟨rfl, rfl⟩ := path_done.1 able
          exact .unfit product hs
        · exact .built hs (path_launch_iff.1 able)
    · intro h
      cases h with
      | held hs' _ => simp [hs] at hs'
      | unbuilt e => exact path_ask.2 ⟨.error e, _, rfl, path_done.2 ⟨rfl, rfl⟩⟩
      | unfit product =>
        exact path_ask.2 ⟨.ok product, _, rfl, path_ask.2 ⟨false, _, rfl, path_done.2 ⟨rfl, rfl⟩⟩⟩
      | built _ launched =>
        exact path_ask.2 ⟨.ok _, _, rfl, path_ask.2 ⟨true, _, rfl, path_launch_iff.2 launched⟩⟩

/-- The ways in which a start can go are those of `OperationPath`.

**Proof sketch.** By cases on whether the type is known. A constructor for the other case
contradicts this. -/
private lemma path_start_iff : Path (start name s) es o ↔ OperationPath name .start s es o := by
  cases hs : s.type with
  | none =>
    rw [start_of_unknown hs, path_done]
    constructor
    · rintro ⟨rfl, rfl⟩
      exact .deferred hs
    · intro h
      cases h with
      | deferred => exact ⟨rfl, rfl⟩
      | start hs' _ => simp [hs] at hs'
  | some type =>
    rw [start_of_known hs, path_attempt_iff]
    constructor
    · exact .start hs
    · intro h
      cases h with
      | deferred hs' => simp [hs] at hs'
      | start hs' tried =>
        obtain rfl : type = _ := Option.some.inj (hs.symm.trans hs')
        exact tried

/-- The ways in which a stop can go are those of `OperationPath`.

**Proof sketch.** By cases on whether a product is held, and then on the answers of the two
questions. -/
private lemma path_stop_iff : Path (stop name s) es o ↔ OperationPath name .stop s es o := by
  cases hs : s.product with
  | none =>
    rw [stop_of_none hs, path_done]
    constructor
    · rintro ⟨rfl, rfl⟩
      exact .nothingHeld hs
    · intro h
      cases h with
      | nothingHeld => exact ⟨rfl, rfl⟩
      | unstoppable hs' | stopFailed _ hs' | stopped hs' => simp [hs] at hs'
  | some product =>
    simp only [stop, hs]
    constructor
    · intro h
      obtain ⟨_ | _, _, rfl, able⟩ := path_ask.1 h
      · obtain ⟨rfl, rfl⟩ := path_done.1 able
        exact .unstoppable hs
      · obtain ⟨e | _, _, rfl, ended⟩ := path_ask.1 able
        · obtain ⟨rfl, rfl⟩ := path_done.1 ended
          exact .stopFailed e hs
        · obtain ⟨rfl, rfl⟩ := path_done.1 ended
          exact .stopped hs
    · intro h
      cases h with
      | nothingHeld hs' => simp [hs] at hs'
      | unstoppable hs' =>
        obtain rfl : product = _ := Option.some.inj (hs.symm.trans hs')
        exact path_ask.2 ⟨false, _, rfl, path_done.2 ⟨rfl, rfl⟩⟩
      | stopFailed e hs' =>
        obtain rfl : product = _ := Option.some.inj (hs.symm.trans hs')
        exact path_ask.2 ⟨true, _, rfl, path_ask.2 ⟨.error e, _, rfl, path_done.2 ⟨rfl, rfl⟩⟩⟩
      | stopped hs' =>
        obtain rfl : product = _ := Option.some.inj (hs.symm.trans hs')
        exact path_ask.2 ⟨true, _, rfl, path_ask.2 ⟨.ok (), _, rfl, path_done.2 ⟨rfl, rfl⟩⟩⟩

/-- The ways in which a resolution can go are those of `OperationPath`.

**Proof sketch.** By cases on whether the type is known, on what the look-up answers, and on whether
a start is requested. -/
private lemma path_resolve_iff :
    Path (resolve name s) es o ↔ OperationPath name .resolve s es o := by
  cases hs : s.type with
  | some type =>
    rw [resolve_of_known hs, path_done]
    constructor
    · rintro ⟨rfl, rfl⟩
      exact .known hs
    · intro h
      cases h with
      | known => exact ⟨rfl, rfl⟩
      | missing _ hs' | found _ hs' _ | foundPending hs' _ _ => simp [hs] at hs'
  | none =>
    rw [resolve_of_unknown hs]
    constructor
    · intro h
      obtain ⟨e | type, _, rfl, answered⟩ := path_ask.1 h
      · obtain ⟨rfl, rfl⟩ := path_done.1 answered
        exact .missing e hs
      · cases requested : s.startRequested with
        | true =>
          rw [decided_requested requested] at answered
          exact .foundPending hs requested (path_attempt_iff.1 answered)
        | false =>
          rw [decided_idle requested] at answered
          obtain ⟨rfl, rfl⟩ := path_done.1 answered
          exact .found type hs requested
    · intro h
      cases h with
      | known hs' => simp [hs] at hs'
      | missing e => exact path_ask.2 ⟨.error e, _, rfl, path_done.2 ⟨rfl, rfl⟩⟩
      | found type _ idle =>
        refine path_ask.2 ⟨.ok type, _, rfl, ?_⟩
        rw [decided_idle idle]
        exact path_done.2 ⟨rfl, rfl⟩
      | @foundPending _ type _ _ _ requested tried =>
        refine path_ask.2 ⟨.ok type, _, rfl, ?_⟩
        rw [decided_requested requested]
        exact path_attempt_iff.2 tried

/-- The lists hold exactly the paths of an operation. -/
theorem path_talk_iff {operation : Operation} :
    Path (operation.talk name s) es o ↔ OperationPath name operation s es o := by
  cases operation with
  | start => exact path_start_iff
  | stop => exact path_stop_iff
  | resolve => exact path_resolve_iff

end Proxy

end Standby
