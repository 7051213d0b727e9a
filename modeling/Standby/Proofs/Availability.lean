import Standby.Proofs.World.Coherence
set_option autoImplicit false

/-!
# When the type becomes available does not matter

A request to start that comes before the type of the component is known is recorded and acted upon
later. As long as the collaborators answer alike whenever they are asked, it makes no difference in
the end how much later: the requests alone decide what becomes of the proxy.

## Main definitions

* `Standby.Proxy.Constants` — what the collaborators of a proxy answer, each time they are asked.
* `Standby.Proxy.Constants.attempt` — how every attempt ends then.
* `Standby.Proxy.State.Steady` — what the fields are as long as the collaborators answer alike.
* `Standby.Proxy.requests` — the starts and stops of a history.

## Main results

* `Standby.Proxy.OperationPath.steady` — every operation keeps a state steady.
* `Standby.Proxy.Run.steady` — so every state that a new proxy reaches is steady.
* `Standby.availability_order_blind` — two proxies that were requested the same end alike, wherever
  among the requests their types were found.
-/

namespace Standby

namespace Proxy

/-! ## Collaborators that answer alike -/

/-- What the collaborators of a proxy answer, each time they are asked.

These are the outcomes that do not change in the course of a history. The product itself is left
open, for a factory may well build a new one each time. -/
structure Constants where
  /-- The type that the resolver gives, if it finds the name at all. -/
  type : TypeHandle
  /-- Whether the factory builds a product, and how it fails if it does not. -/
  build : Except ConstructionError Unit
  /-- Whether products say that they can be started and stopped. -/
  able : Bool
  /-- How the start of a product ends. -/
  start : Except LifecycleError Unit

namespace Constants

variable (k : Constants)

/-- A call has the answer that it always has. A resolver may find the name or not, a factory may
build a product that it never built before, and a stop may end in any way. -/
def Fits : Exchange → Prop
  | ⟨.resolve _, answer⟩ => ∀ found, answer = Except.ok (ε := NotFound) found → found = k.type
  | ⟨.create _, answer⟩ => Except.map (ε := ConstructionError) (fun _ => ()) answer = k.build
  | ⟨.capability _, able⟩ => able = k.able
  | ⟨.start _, result⟩ => result = k.start
  | ⟨.stop _, _⟩ => True

section Fits

variable {k} {name : String} {type : TypeHandle} {product : Product}

/-- A look-up that succeeds fits the component of which it gives the type. -/
@[simp] lemma fits_found : k.Fits ⟨.resolve name, .ok type⟩ ↔ type = k.type :=
  ⟨fun h => h type rfl, by rintro rfl _ ⟨⟩; rfl⟩

/-- A look-up that fails fits every component: nothing is known yet of what the name stands for. -/
@[simp] lemma fits_missing (e : NotFound) : k.Fits ⟨.resolve name, .error e⟩ := nofun

/-- A creation that succeeds fits a component that can be built. -/
@[simp] lemma fits_created : k.Fits ⟨.create type, .ok product⟩ ↔ k.build = .ok () := eq_comm

/-- A creation that fails fits a component that cannot be built, for the reason that is given. -/
@[simp] lemma fits_uncreated (e : ConstructionError) :
    k.Fits ⟨.create type, .error e⟩ ↔ k.build = .error e := eq_comm

/-- An answer about the capability fits a component that always gives this answer. -/
@[simp] lemma fits_capability (able : Bool) :
    k.Fits ⟨.capability product, able⟩ ↔ k.able = able := eq_comm

/-- The result of a start fits a component the starts of which always have this result. -/
@[simp] lemma fits_start (result : Except LifecycleError Unit) :
    k.Fits ⟨.start product, result⟩ ↔ k.start = result := eq_comm

end Fits

/-- All calls of a history have the answers that they always have. -/
def FitsAll (h : List Turn) : Prop := ∀ e ∈ h.flatMap Turn.exchanges, k.Fits e

/-- A product is built, and says that it can be started. -/
def Usable : Prop := k.build = .ok () ∧ k.able = true

/-- How the start of a product that is held ends. -/
def launch (name : String) : Except ProxyError Unit :=
  if k.able then k.start.mapError (.start name) else .error (mismatch k.type)

/-- How an attempt ends, whether a product is held before or not. -/
def attempt (name : String) : Except ProxyError Unit :=
  match k.build with
  | .error e => .error (.construction e)
  | .ok () => k.launch name

/-- Where a product can be used, an attempt ends as the start of the product does. -/
private lemma attempt_of_usable {name : String} (usable : k.Usable) :
    k.attempt name = k.launch name := by
  rw [attempt, usable.1]

end Constants

variable {k : Constants} {name : String} {product : Product} {operation : Operation}
  {s s' : State} {es : List Exchange} {o : Outcome}

/-- The start of a product that is held ends as it always does.

**Proof sketch.** By cases on the way in which the launch went. In each of them the answers say
which of the constant outcomes are in force, and these determine the result. -/
private lemma LaunchPath.result_eq (h : LaunchPath name k.type product s es o)
    (fits : ∀ e ∈ es, k.Fits e) : o.1 = k.launch name := by
  cases h with
  | refused =>
    have refused : k.able = false := by simpa using fits
    simp [Constants.launch, refused, failed]
  | startFailed e =>
    obtain ⟨able, result⟩ : k.able = true ∧ k.start = .error e := by simpa using fits
    simp [Constants.launch, able, result, failed, Except.mapError]
  | started =>
    obtain ⟨able, result⟩ : k.able = true ∧ k.start = .ok () := by simpa using fits
    simp [Constants.launch, able, result, Except.mapError]

/-- Starting a product does not change which one is held. -/
private lemma LaunchPath.product_eq {type : TypeHandle} (h : LaunchPath name type product s es o) :
    o.2.product = s.product := by
  cases h <;> rfl

/-- An attempt ends as it always does, and leaves a product exactly if products can be used.

**Proof sketch.** By cases on the way in which the attempt went. A product that is held is usable by
assumption. One that is built anew is usable if and only if it can be built and is able, which is
what the answers say. -/
private lemma AttemptPath.result_eq (h : AttemptPath name k.type s es o) (fits : ∀ e ∈ es, k.Fits e)
    (held : s.product.isSome → k.Usable) :
    o.1 = k.attempt name ∧ (o.2.product.isSome ↔ k.Usable) := by
  cases h with
  | held hs launched =>
    have usable := held (by simp [hs])
    rw [k.attempt_of_usable usable, launched.product_eq, hs]
    exact ⟨launched.result_eq fits, by simp [usable]⟩
  | unbuilt e hs =>
    have build : k.build = .error e := by simpa using fits
    simp [Constants.attempt, Constants.Usable, build, failed, hs]
  | unfit product hs =>
    obtain ⟨build, refused⟩ : k.build = .ok () ∧ k.able = false := by simpa using fits
    simp [Constants.attempt, Constants.launch, Constants.Usable, build, refused, failed, hs]
  | built hs launched =>
    obtain ⟨build, able, fits⟩ := by simpa using fits
    have usable : k.Usable := ⟨build, able⟩
    rw [k.attempt_of_usable usable, launched.product_eq]
    exact ⟨launched.result_eq (by simpa using fits), by simp [usable]⟩

/-! ## Steady states -/

/-- What the fields of a state are as long as the collaborators answer alike: a matter of the type,
the request, and how an attempt ends. -/
structure State.Steady (k : Constants) (name : String) (s : State) : Prop where
  type : ∀ found, s.type = some found → found = k.type
  product : s.product.isSome ↔ s.type.isSome ∧ s.startRequested = true ∧ k.Usable
  running : s.running = true ↔
    s.type.isSome ∧ s.startRequested = true ∧ k.attempt name = .ok ()
  lastError : s.type.isSome → s.startRequested = true →
    ∀ e, s.lastError = some e ↔ k.attempt name = .error e

/-- The state of a new proxy is steady. -/
private lemma State.steady_initial : State.initial.Steady k name where
  type := by simp [State.initial]
  product := by simp [State.initial]
  running := by simp [State.initial]
  lastError := by simp [State.initial]

/-- A stop leaves a steady state of a steady one. -/
private lemma State.Steady.released (steady : s.Steady k name) : s.released.Steady k name where
  type := steady.type
  product := by simp [State.released]
  running := by simp [State.released]
  lastError := by simp [State.released]

/-- An attempt on request leaves a steady state.

**Proof sketch.** The state after an attempt is settled by its result, and the result is the one
that attempts always have. -/
private lemma AttemptPath.steady (h : AttemptPath name k.type s es o) (fits : ∀ e ∈ es, k.Fits e)
    (held : s.product.isSome → k.Usable) (ht : s.type = some k.type)
    (requested : s.startRequested = true) : o.2.Steady k name := by
  obtain ⟨result, usable⟩ := h.result_eq fits held
  obtain ⟨product, hsettled⟩ := h.settled
  rw [hsettled, result] at usable ⊢
  cases hattempt : k.attempt name with
  | ok _ =>
    rw [hattempt] at usable
    exact {
      type := by simp [State.settled, ht]
      product := by simpa [State.settled, ht, requested] using usable
      running := by simp [State.settled, ht, requested, hattempt]
      lastError := by simp [State.settled, hattempt] }
  | error e =>
    rw [hattempt] at usable
    exact {
      type := by simp [State.settled, ht]
      product := by simpa [State.settled, ht, requested] using usable
      running := by simp [State.settled, hattempt]
      lastError := by simp [State.settled, hattempt] }

/-- Every operation keeps a state steady.

**Proof sketch.** By cases on the way in which the operation went. Those that make no attempt change
at most what is requested, or withdraw everything. Those that make one leave what an attempt on
request leaves. -/
theorem OperationPath.steady (h : OperationPath name operation s es o) (fits : ∀ e ∈ es, k.Fits e)
    (steady : s.Steady k name) : o.2.Steady k name := by
  have usable : s.product.isSome → k.Usable := fun held => (steady.product.1 held).2.2
  cases h with
  | deferred ht =>
    exact {
      type := by simp [ht]
      product := by simpa [ht] using steady.product
      running := by simpa [ht] using steady.running
      lastError := by simp [ht] }
  | start ht tried =>
    obtain rfl := steady.type _ ht
    exact tried.steady fits usable ht rfl
  | nothingHeld | unstoppable | stopFailed | stopped => exact steady.released
  | known | missing => exact steady
  | found type ht idle =>
    obtain rfl : type = k.type := by simpa using fits
    exact {
      type := by simp
      product := by simpa [ht, idle] using steady.product
      running := by simpa [ht, idle] using steady.running
      lastError := by simp [idle] }
  | foundPending ht requested tried =>
    obtain ⟨rfl, fits⟩ := by simpa using fits
    exact tried.steady (by simpa using fits) usable rfl requested

/-- Every state that a new proxy reaches is steady, as long as the collaborators answer alike. -/
theorem Run.steady {h : List Turn} (run : Run name h s) (fits : k.FitsAll h) :
    s.Steady k name := by
  induction run with
  | new => exact State.steady_initial
  | turn run path ih =>
    simp only [Constants.FitsAll, List.flatMap_append, List.mem_append, or_imp, forall_and] at fits
    exact (path_talk_iff.1 path).steady (by simpa using fits.2) (ih fits.1)

/-! ## Requests -/

/-- The starts and stops of a history, without the resolutions. -/
def requests (h : List Turn) : List Operation :=
  (h.map Turn.operation).filter (· ≠ .resolve)

/-- A start is in force exactly if the last request is one. -/
private lemma since_start_iff {h : List Turn} :
    Since (·.operation = .start) (·.operation = .stop) h ↔ (requests h).getLast? = some .start := by
  induction h using List.reverseRecOn with
  | nil => simp [requests]
  | append_singleton h t ih =>
    rw [since_snoc, ih]
    cases ht : t.operation <;> simp [requests, ht]

/-! ## Proxies that end alike -/

/-- Two states show the same of type, request and component. Which product is held, and which
failure is kept, may differ. -/
structure State.EndAlike (s s' : State) : Prop where
  type : s.type = s'.type
  startRequested : s.startRequested = s'.startRequested
  running : s.running = s'.running
  held : s.product.isSome = s'.product.isSome

/-- Steady states of the same request on a known type show the same, and they keep the same failure
if a start is requested.

**Proof sketch.** In a steady state type, product, running and failure are functions of whether the
name is resolved and of whether a start is requested, and these two are the same. -/
private lemma State.Steady.endAlike (steady : s.Steady k name) (steady' : s'.Steady k name)
    (known : s.type.isSome) (known' : s'.type.isSome)
    (requested : s.startRequested = s'.startRequested) :
    s.EndAlike s' ∧ (s.startRequested = true → s.lastError = s'.lastError) := by
  obtain ⟨found, ht⟩ := Option.isSome_iff_exists.1 known
  obtain ⟨found', ht'⟩ := Option.isSome_iff_exists.1 known'
  refine ⟨⟨?type, requested, ?running, ?held⟩, fun start => Option.ext fun e => ?lastError⟩
  case type => rw [ht, ht', steady.type found ht, steady'.type found' ht']
  case running => rw [Bool.eq_iff_iff, steady.running, steady'.running, requested, known, known']
  case held => rw [Bool.eq_iff_iff, steady.product, steady'.product, requested, known, known']
  case lastError =>
    rw [steady.lastError known start, steady'.lastError known' (requested ▸ start)]

/-- Two runs with the same requests end alike, if the collaborators answer alike and the type is
found in both.

**Proof sketch.** Both runs end in steady states. The requests determine whether a start is
requested, and the type is known in both, so the states are alike. -/
theorem Run.endAlike {h h' : List Turn} (run : Run name h s) (run' : Run name h' s')
    (fits : k.FitsAll h) (fits' : k.FitsAll h') (found : (firstType h).isSome)
    (found' : (firstType h').isSome) (same : requests h = requests h') :
    s.EndAlike s' ∧ ((requests h).getLast? = some .start → s.lastError = s'.lastError) := by
  have said := run.determined
  have said' := run'.determined
  have requested : s.startRequested = s'.startRequested := by
    rw [Bool.eq_iff_iff, said.startRequested, said'.startRequested, since_start_iff,
      since_start_iff, same]
  rw [← said.type] at found
  rw [← said'.type] at found'
  rw [← since_start_iff, ← said.startRequested]
  exact (run.steady fits).endAlike (run'.steady fits') found found' requested

end Proxy

open Proxy

/-- **The moment of availability does not matter.** Take any two histories of a new proxy with the
same requests to start and to stop, in each of which some resolution finds the type, and let the
collaborators answer alike whenever they are asked. Then type, request, running and holding a
product are the same in the end, and so is the failure that is kept if the last request is a start.
This is said of histories with answers from anywhere, and of proxies of worlds that runs go
through.

**Proof sketch.** For histories this is `Run.endAlike`. The turns of a proxy of a world make a
history, whatever else goes on in the world. -/
theorem availability_order_blind {k : Constants} :
    (∀ {name : String} {h h' : List Turn} {s s' : Proxy.State},
      Run name h s → Run name h' s' → k.FitsAll h → k.FitsAll h' →
      (firstType h).isSome → (firstType h').isSome → requests h = requests h' →
        s.EndAlike s' ∧ ((requests h).getLast? = some .start → s.lastError = s'.lastError)) ∧
      ∀ {σ σ' : Type} {H : Host σ} {H' : Host σ'} {w : World σ} {w' : World σ'} {p p' : ProxyId}
        {proxy proxy' : Proxy},
        World.Reachable H w → World.Reachable H' w' → w.proxy? p = some proxy →
        w'.proxy? p' = some proxy' → proxy.name = proxy'.name →
        k.FitsAll (w.chronicle p).turns → k.FitsAll (w'.chronicle p').turns →
        (firstType (w.chronicle p).turns).isSome → (firstType (w'.chronicle p').turns).isSome →
        requests (w.chronicle p).turns = requests (w'.chronicle p').turns →
          proxy.state.EndAlike proxy'.state ∧
            ((requests (w.chronicle p).turns).getLast? = some .start →
              proxy.state.lastError = proxy'.state.lastError) := by
  refine ⟨Run.endAlike, ?_⟩
  intro σ σ' H H' w w' p p' proxy proxy' reachable reachable' known known' name
  have run' := reachable'.run known'
  rw [← name] at run'
  exact (reachable.run known).endAlike run'

/-- A host whose resolver finds names from the second question on, and whose products fail to
start. -/
def late : Host Nat :=
  { Host.counting (fun _ => .error (.ofMessage "no")) fun _ => pure () with
    resolve := fun _ name => .update fun n =>
      (if n = 0 then .error (.unknown name) else .ok ⟨0, ⟨name, ⟨0⟩⟩⟩, n + 1) }

/-- What this host answers about the name `"a"`. -/
def late.constants : Constants where
  type := ⟨0, ⟨"a", ⟨0⟩⟩⟩
  build := .ok ()
  able := true
  start := .error (.ofMessage "no")

/-- A client that calls these operations on a new proxy. -/
def calling (operations : List Operation) : Activity Nat Unit := do
  let r ← Activity.establish (.custom 0) (.custom 0)
  let p ← Activity.obtain r "a"
  operations.forM fun operation => do
    let _ ← Activity.operate p operation

/-- Two clients make the same two requests. One has the type found at once, and makes two attempts.
The other has it found after both requests, and makes one. -/
theorem availability_order_blind_late : ∃ w w' proxy proxy',
    World.Reachable late w ∧ World.Reachable late w' ∧ w.proxy? ⟨0⟩ = some proxy ∧
    w'.proxy? ⟨0⟩ = some proxy' ∧
    (w.chronicle ⟨0⟩).turns.map Turn.operation = [.resolve, .start, .start] ∧
    (w'.chronicle ⟨0⟩).turns.map Turn.operation = [.start, .resolve, .start, .resolve] ∧
    proxy.state.EndAlike proxy'.state ∧ proxy.state.lastError = proxy'.state.lastError := by
  let type : TypeHandle := late.constants.type
  obtain ⟨w, proxy, ended, known, name, turns, calls⟩ : ∃ w proxy,
      (calling [.resolve, .start, .start]).perform late 1 { host := 1 } = .ok ((), w) ∧
      w.proxy? ⟨0⟩ = some proxy ∧ proxy.name = "a" ∧
      (w.chronicle ⟨0⟩).turns.map Turn.operation = [.resolve, .start, .start] ∧
      (w.chronicle ⟨0⟩).turns.flatMap Turn.exchanges =
        [⟨.resolve "a", .ok type⟩, ⟨.create type, .ok ⟨2⟩⟩, ⟨.capability ⟨2⟩, true⟩,
          ⟨.capability ⟨2⟩, true⟩, ⟨.start ⟨2⟩, .error (.ofMessage "no")⟩,
          ⟨.capability ⟨2⟩, true⟩, ⟨.start ⟨2⟩, .error (.ofMessage "no")⟩] := by
    refine ⟨_, _, rfl, rfl, rfl, rfl, rfl⟩
  obtain ⟨w', proxy', ended', known', name', turns', calls'⟩ : ∃ w proxy,
      (calling [.start, .resolve, .start, .resolve]).perform late 1 { host := 0 } = .ok ((), w) ∧
      w.proxy? ⟨0⟩ = some proxy ∧ proxy.name = "a" ∧
      (w.chronicle ⟨0⟩).turns.map Turn.operation = [.start, .resolve, .start, .resolve] ∧
      (w.chronicle ⟨0⟩).turns.flatMap Turn.exchanges =
        [⟨.resolve "a", .error (.unknown "a")⟩, ⟨.resolve "a", .ok type⟩,
          ⟨.create type, .ok ⟨2⟩⟩, ⟨.capability ⟨2⟩, true⟩,
          ⟨.capability ⟨2⟩, true⟩, ⟨.start ⟨2⟩, .error (.ofMessage "no")⟩] := by
    refine ⟨_, _, rfl, rfl, rfl, rfl, rfl⟩
  have fits : late.constants.FitsAll (w.chronicle ⟨0⟩).turns := by
    rw [Constants.FitsAll, calls]
    simp [late.constants, type]
  have fits' : late.constants.FitsAll (w'.chronicle ⟨0⟩).turns := by
    rw [Constants.FitsAll, calls']
    simp [late.constants, type]
  have same : requests (w.chronicle ⟨0⟩).turns = requests (w'.chronicle ⟨0⟩).turns := by
    rw [requests, requests, turns, turns']
    rfl
  have reached := World.Reachable.of_run ended
  have reached' := World.Reachable.of_run ended'
  obtain ⟨alike, kept⟩ := availability_order_blind.2 reached reached' known known'
    (name.trans name'.symm) fits fits' (by rw [firstType, calls]; rfl)
    (by rw [firstType, calls']; rfl) same
  refine ⟨w, w', proxy, proxy', reached, reached', known, known', turns, turns', alike, kept ?_⟩
  rw [requests, turns]
  rfl

end Standby
