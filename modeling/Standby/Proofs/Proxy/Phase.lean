import Standby.Proofs.Proxy.History
set_option autoImplicit false

/-!
# Which states of a proxy occur

The fields of a proxy's state go together in few ways. The conditions below depend on each other:
each is kept by every operation only because the others hold before it.

## Main definitions

* `Standby.Proxy.State.Sound` — the combinations of fields that occur.

## Main results

* `Standby.Proxy.AttemptPath.sound` — an attempt leads into a sound state from any state at all.
* `Standby.Proxy.OperationPath.sound` — every operation keeps the state sound.
* `Standby.Proxy.Run.sound` — so every state that a new proxy reaches is sound.
-/

namespace Standby.Proxy

/-- The failures that a proxy keeps: of a build, of a product of its type that cannot be driven, and
of a start on its own behalf. -/
inductive Captured (name : String) (type : Option TypeHandle) : ProxyError → Prop
  | construction (e : ConstructionError) : Captured name type (.construction e)
  | mismatch {handle : TypeHandle} (ht : type = some handle) :
    Captured name type (Proxy.mismatch handle)
  | start (e : LifecycleError) : Captured name type (.start name e)

/-- The combinations of fields that occur in the state of a proxy of this name.

It is the invariant of single proxies. The initial state has it, and every operation keeps it,
whatever its calls answer. -/
structure State.Sound (name : String) (s : State) : Prop where
  /-- A product is held only of a known type and on request. -/
  held : s.product.isSome → s.type.isSome ∧ s.startRequested = true
  /-- What runs is a product that is held, and no failure is kept then. -/
  running : s.running = true → s.product.isSome ∧ s.lastError = none
  /-- A request on a known type was acted upon: the component runs or its failure is kept. -/
  answered : s.type.isSome → s.startRequested = true → s.running = true ∨ s.lastError.isSome
  /-- As long as the type is unknown there is nothing to hold, to run or to fail. -/
  unresolved : s.type = none → s.product = none ∧ s.running = false ∧ s.lastError = none
  /-- The failure that is kept is one of an attempt. -/
  captured : ∀ e, s.lastError = some e → Captured name s.type e
  /-- After a failed build no product is held. -/
  unbuilt : ∀ e, s.lastError = some (.construction e) → s.product = none

variable {name : String} {type : TypeHandle} {product : Product} {operation : Operation} {s : State}
  {es : List Exchange} {o : Outcome}

/-- The state of a new proxy is sound. -/
private lemma State.sound_initial : State.initial.Sound name where
  held := by simp [State.initial]
  running := by simp [State.initial]
  answered := by simp [State.initial]
  unresolved := by simp [State.initial]
  captured := by simp [State.initial]
  unbuilt := by simp [State.initial]

/-- A failed attempt leaves a sound state, if its failure is one of an attempt and no product is
held where none was built. -/
private lemma State.sound_failed {e : ProxyError} (ht : s.type = some type)
    (hr : s.startRequested = true) (he : Captured name s.type e)
    (hb : ∀ c, e = .construction c → s.product = none) : (failed e s).2.Sound name where
  held := by simp [failed, ht, hr]
  running := by simp [failed]
  answered := by simp [failed]
  unresolved := by simp [failed, ht]
  captured := by rintro _ ⟨⟩; exact he
  unbuilt := by rintro c ⟨⟩; exact hb c rfl

/-- Starting the product that is held leaves a sound state.

**Proof sketch.** By cases on how the launch went. A launch that fails leaves the failure, which is
one that a start can have, and one that succeeds leaves a product that runs. -/
private lemma LaunchPath.sound (h : LaunchPath name type product s es o) (ht : s.type = some type)
    (hr : s.startRequested = true) (hp : s.product = some product) : o.2.Sound name := by
  cases h with
  | refused => exact State.sound_failed ht hr (.mismatch ht) (by simp [mismatch])
  | startFailed e => exact State.sound_failed ht hr (.start e) (by simp)
  | started =>
    exact {
      held := by simp [ht, hr]
      running := by simp [hp]
      answered := by simp
      unresolved := by simp [ht]
      captured := by simp
      unbuilt := by simp }

/-- An attempt leaves a sound state, whatever was true of the fields that it settles. -/
theorem AttemptPath.sound (h : AttemptPath name type s es o) (ht : s.type = some type)
    (hr : s.startRequested = true) : o.2.Sound name := by
  cases h with
  | held hp launched => exact launched.sound ht hr hp
  | unbuilt e hp => exact State.sound_failed ht hr (.construction e) fun _ _ => hp
  | unfit product hp => exact State.sound_failed ht hr (.mismatch ht) (by simp [mismatch])
  | built _ launched => exact launched.sound ht hr rfl

/-- A stop leaves a sound state of a sound one. -/
private lemma State.Sound.released (h : s.Sound name) : s.released.Sound name where
  held := by simp [State.released]
  running := by simp [State.released]
  answered := by simp [State.released]
  unresolved ht := by simp [State.released, (h.unresolved ht).2.2]
  captured := h.captured
  unbuilt := by simp [State.released]

/-- Every operation keeps the state of a proxy sound.

**Proof sketch.** By cases on the way in which the operation went. What is unresolved holds nothing,
so it stays sound when a start is requested or the type is found. Attempts and stops are known to
leave sound states. -/
theorem OperationPath.sound (h : OperationPath name operation s es o) (hs : s.Sound name) :
    o.2.Sound name := by
  cases h with
  | deferred ht =>
    obtain ⟨hp, hr, he⟩ := hs.unresolved ht
    exact {
      held := by simp [hp]
      running := by simp [hr]
      answered := by simp [ht]
      unresolved := fun _ => ⟨hp, hr, he⟩
      captured := hs.captured
      unbuilt := hs.unbuilt }
  | start ht tried => exact tried.sound ht rfl
  | nothingHeld | unstoppable | stopFailed | stopped => exact hs.released
  | known | missing => exact hs
  | found type ht idle =>
    -- nothing was held and nothing kept, and without a request there is nothing to act upon
    obtain ⟨hp, hr, he⟩ := hs.unresolved ht
    exact {
      held := by simp [hp]
      running := by simp [hr]
      answered := by simp [idle]
      unresolved := by simp
      captured := by simp [he]
      unbuilt := by simp [he] }
  | foundPending _ requested tried => exact tried.sound rfl requested

/-- Every state that a new proxy reaches is sound. -/
theorem Run.sound {h : List Turn} (run : Run name h s) : s.Sound name := by
  induction run with
  | new => exact State.sound_initial
  | turn _ path ih => exact (path_talk_iff.1 path).sound ih

end Standby.Proxy
