import Standby.Proofs.Proxy.History
set_option autoImplicit false

/-!
# The failures of a proxy's operations

Each call that an operation makes may fail. An operation makes no further call then, and it returns
the failure. What it leaves depends on which call it was: a resolver that does not find the name
leaves everything as it was, a failed attempt is kept, and a product whose stop fails is given up
all the same.

## Main definitions

* `Standby.Exchange.Fails` — a call failed, and what an operation reports of it.
* `Standby.Proxy.Surfaces` — how the failures among the calls show in the result.
* `Standby.Proxy.Reports` — all that is to be said of an operation and of the failures in it.

## Main results

* `Standby.Proxy.OperationPath.surfaces` — a failure is the last that happens, and it is returned.
* `Standby.Proxy.OperationPath.reports` — every operation reports its failures.
-/

namespace Standby

open Proxy (Operation mismatch)

/-- `e.Fails name type operation err`: the call `e` failed, and an operation on the proxy of this
name, whose type is `type`, reports it as `err`. A product that is about to be stopped may say that
it cannot be; one that is about to be started may not. -/
inductive Exchange.Fails (name : String) (type : Option TypeHandle) (operation : Operation) :
    Exchange → ProxyError → Prop
  | resolver (asked : String) (e : NotFound) :
    Fails name type operation ⟨.resolve asked, .error e⟩ (.notFound e)
  | factory (made : TypeHandle) (e : ConstructionError) :
    Fails name type operation ⟨.create made, .error e⟩ (.construction e)
  | capability (product : Product) {handle : TypeHandle} (attempt : operation ≠ .stop)
    (known : type = some handle) :
    Fails name type operation ⟨.capability product, false⟩ (mismatch handle)
  | start (product : Product) (e : LifecycleError) :
    Fails name type operation ⟨.start product, .error e⟩ (.start name e)
  | stop (product : Product) (e : LifecycleError) :
    Fails name type operation ⟨.stop product, .error e⟩ (.stop name e)

/-- A call of an operation failed, whatever the proxy is. -/
def Exchange.Failed (operation : Operation) (e : Exchange) : Prop :=
  ∃ name type err, e.Fails name type operation err

namespace Exchange

variable {name : String} {type : Option TypeHandle} {operation : Operation} {e : Exchange}
  {err : ProxyError}

/-- A call that fails an operation with a failure is one that failed. -/
lemma Fails.failed (h : e.Fails name type operation err) : e.Failed operation :=
  ⟨name, type, err, h⟩

/-- A call that failed is reported in one way. -/
lemma Fails.unique {err' : ProxyError} (h : e.Fails name type operation err)
    (h' : e.Fails name type operation err') : err = err' := by
  cases h with
  | resolver | factory | start | stop =>
    cases h'
    rfl
  | capability _ _ known =>
    cases h' with
    | capability _ _ known' => rw [Option.some.inj (known.symm.trans known')]

section Success

variable {asked : String} {found : TypeHandle} {product : Product}

/-- A look-up that gave a type did not fail. -/
@[simp] lemma not_failed_found : ¬ Failed operation ⟨.resolve asked, .ok found⟩ := by
  rintro ⟨_, _, _, h⟩
  cases h

/-- A creation that gave a product did not fail. -/
@[simp] lemma not_failed_created : ¬ Failed operation ⟨.create found, .ok product⟩ := by
  rintro ⟨_, _, _, h⟩
  cases h

/-- A product that says yes when it is asked for its capability fails no operation. -/
@[simp] lemma not_failed_able : ¬ Failed operation ⟨.capability product, true⟩ := by
  rintro ⟨_, _, _, h⟩
  cases h

/-- A start that gave no failure did not fail. -/
@[simp] lemma not_failed_started : ¬ Failed operation ⟨.start product, .ok ()⟩ := by
  rintro ⟨_, _, _, h⟩
  cases h

/-- A stop that gave no failure did not fail. -/
@[simp] lemma not_failed_stopped : ¬ Failed operation ⟨.stop product, .ok ()⟩ := by
  rintro ⟨_, _, _, h⟩
  cases h

/-- A product that says no when it is to be given up has not failed. -/
@[simp] lemma not_failed_unstoppable : ¬ Failed .stop ⟨.capability product, false⟩ := by
  rintro ⟨_, _, _, h⟩
  cases h with
  | capability _ attempt _ => exact attempt rfl

end Success

end Exchange

namespace Proxy

variable {name : String} {type : TypeHandle} {product : Product} {operation : Operation}
  {s s' : State} {es : List Exchange} {result : Except ProxyError Unit} {o : Outcome}

/-! ## Failures come last -/

/-- How the failures among the calls of an operation show in its result: no call failed and no
failure is returned, or the last call is the first that failed and its failure is returned. -/
inductive Surfaces (name : String) (type : Option TypeHandle) (operation : Operation) :
    List Exchange → Except ProxyError Unit → Prop
  | smooth {es : List Exchange} (none : ∀ e ∈ es, ¬ e.Failed operation) :
    Surfaces name type operation es (.ok ())
  | broken (before : List Exchange) {e : Exchange} {err : ProxyError}
    (none : ∀ e ∈ before, ¬ e.Failed operation) (fails : e.Fails name type operation err) :
    Surfaces name type operation (before ++ [e]) (.error err)

namespace Surfaces

variable {type : Option TypeHandle} {before after : List Exchange} {e : Exchange} {err : ProxyError}

/-- Calls that did not fail may come before. -/
private lemma after_smooth (surfaces : Surfaces name type operation es result)
    (before : List Exchange) (none : ∀ e ∈ before, ¬ e.Failed operation) :
    Surfaces name type operation (before ++ es) result := by
  cases surfaces with
  | smooth none' =>
    exact .smooth fun e he => (List.mem_append.1 he).elim (none e) (none' e)
  | broken _ none' fails =>
    rw [← List.append_assoc]
    exact .broken _ (fun e he => (List.mem_append.1 he).elim (none e) (none' e)) fails

/-- A call that failed is the last one, and its failure is returned.

**Proof sketch.** Smooth exchanges have no failure among them. In broken ones there is a failure at
the end only, so the exchange that failed is the one at the end. -/
private lemma of_failed (surfaces : Surfaces name type operation (before ++ e :: after) result)
    (failed : e.Failed operation) :
    after = [] ∧ ∃ err, result = .error err ∧ e.Fails name type operation err := by
  generalize hes : before ++ e :: after = es at surfaces
  cases surfaces with
  | smooth none =>
    refine absurd failed (none e ?_)
    simp [← hes]
  | @broken _ _ err none fails =>
    rcases snoc_eq_append_cons hes.symm with ⟨rfl, rfl, rfl⟩ | ⟨rest, rfl, -⟩
    · exact ⟨rfl, err, rfl, fails⟩
    · exact absurd failed (none e (by simp))

/-- A failure is returned exactly if it is the failure of one of the calls. -/
private lemma returned_iff (surfaces : Surfaces name type operation es result) :
    result = .error err ↔ ∃ e ∈ es, e.Fails name type operation err := by
  constructor
  · rintro rfl
    cases surfaces with
    | broken _ _ fails => exact ⟨_, by simp, fails⟩
  · rintro ⟨e, he, fails⟩
    obtain ⟨before, after, rfl⟩ := List.append_of_mem he
    obtain ⟨-, err', returned, fails'⟩ := surfaces.of_failed fails.failed
    rw [returned, fails.unique fails']

end Surfaces

/-- To launch a product fails with the failure of the call that failed, and only if one did. -/
private lemma LaunchPath.surfaces (h : LaunchPath name type product s es o)
    (ho : operation ≠ .stop) : Surfaces name (some type) operation es o.1 := by
  cases h with
  | refused => exact .broken [] (by simp) (.capability product ho rfl)
  | startFailed e =>
    exact .broken [⟨.capability product, true⟩] (by simp) (.start product e)
  | started => exact .smooth (by simp)

/-- So does an attempt, the creation of its product included. -/
private lemma AttemptPath.surfaces (h : AttemptPath name type s es o) (ho : operation ≠ .stop) :
    Surfaces name (some type) operation es o.1 := by
  cases h with
  | held _ launched => exact launched.surfaces ho
  | unbuilt e => exact .broken [] (by simp) (.factory type e)
  | unfit product =>
    exact .broken [⟨.create type, .ok product⟩] (by simp) (.capability product ho rfl)
  | @built product _ _ _ launched =>
    exact (launched.surfaces ho).after_smooth
      [⟨.create type, .ok product⟩, ⟨.capability product, true⟩] (by simp)

/-- An attempt does not change the type. -/
lemma AttemptPath.type_eq (h : AttemptPath name type s es o) : o.2.type = s.type := by
  obtain ⟨product, hsettled⟩ := h.settled
  rw [hsettled]
  cases o.1 <;> rfl

/-- A failure is the last that happens in an operation, and it is returned.

**Proof sketch.** By cases on the way in which the operation went. Those that fail have their
failing exchange last, with smooth ones before it. An attempt is the same, and a resolution that
found the name puts one more smooth exchange in front of it. -/
theorem OperationPath.surfaces (h : OperationPath name operation s es o) :
    Surfaces name o.2.type operation es o.1 := by
  cases h with
  | deferred | nothingHeld | known => exact .smooth (by simp)
  | start hs tried =>
    rw [tried.type_eq]
    exact hs ▸ tried.surfaces (by simp)
  | unstoppable | stopped => exact .smooth (by simp)
  | @stopFailed _ product e =>
    exact .broken [⟨.capability product, true⟩] (by simp) (.stop product e)
  | missing e => exact .broken [] (by simp) (.resolver name e)
  | found => exact .smooth (by simp)
  | @foundPending _ type _ _ _ _ tried =>
    rw [tried.type_eq]
    exact (tried.surfaces (by simp)).after_smooth [⟨.resolve name, .ok type⟩] (by simp)

/-! ## What a failure leaves -/

/-- All that is to be said of an operation that led from the state `s` to `s'` by the calls `es`,
and of the failures among these calls. -/
structure Reports (name : String) (operation : Operation) (s : State) (es : List Exchange)
    (result : Except ProxyError Unit) (s' : State) : Prop where
  /-- A failure is returned exactly if it is the failure of one of the calls. -/
  returned : ∀ err, result = .error err ↔ ∃ e ∈ es, e.Fails name s'.type operation err
  /-- No call that failed goes without a failure that is returned. -/
  noticed : ∀ e ∈ es, e.Failed operation → ∃ err, e.Fails name s'.type operation err
  /-- No call is made after one that failed. -/
  last : ∀ before e after, es = before ++ e :: after → e.Failed operation → after = []
  /-- The failure of an attempt is kept, and nothing runs. -/
  attempt : ∀ e ∈ es, ∀ err, e.Fails name s'.type operation err → operation ≠ .stop →
    (∀ asked, e.1 ≠ .resolve asked) → s'.lastError = some err ∧ s'.running = false
  /-- A name that is not found leaves the state as it was. -/
  resolver : ∀ asked e, ⟨.resolve asked, .error e⟩ ∈ es → s' = s
  /-- A stop that fails gives up the product all the same. -/
  stop : ∀ product e, ⟨.stop product, .error e⟩ ∈ es →
    s'.startRequested = false ∧ s'.running = false ∧ s'.product = none ∧ s'.type = s.type ∧
      s'.lastError = s.lastError

/-- Every stop releases the state. -/
private lemma OperationPath.released (h : OperationPath name .stop s es o) : o.2 = s.released := by
  cases h <;> rfl

/-- No product is stopped by an attempt. -/
private lemma AttemptPath.not_stop (h : AttemptPath name type s es o) :
    ∀ e ∈ es, ∀ product, e.1 ≠ .stop product := by
  have launched {product : Product} {s : State} {es : List Exchange}
      (h : LaunchPath name type product s es o) : ∀ e ∈ es, ∀ product, e.1 ≠ .stop product := by
    cases h <;> simp
  cases h with
  | held _ h => exact launched h
  | unbuilt e | unfit product => simp
  | built _ h => simpa using launched h

/-- A product is stopped by a stop only. -/
private lemma OperationPath.not_stop (h : OperationPath name operation s es o)
    (ho : operation ≠ .stop) : ∀ e ∈ es, ∀ product, e.1 ≠ .stop product := by
  cases h with
  | nothingHeld | unstoppable | stopFailed | stopped => exact absurd rfl ho
  | deferred | known | missing | found => simp
  | start _ tried => exact tried.not_stop
  | foundPending _ _ tried => simpa using tried.not_stop

/-- A call of the resolver that failed leaves the state as it was.

**Proof sketch.** By cases on the way in which the operation went. Only a resolution that did not
find the name has such an exchange, for an attempt never calls the resolver. -/
private lemma OperationPath.of_missing (h : OperationPath name operation s es o) {asked : String}
    {e : NotFound} (he : ⟨.resolve asked, .error e⟩ ∈ es) : o.2 = s := by
  cases h with
  | missing => rfl
  | deferred | nothingHeld | known => cases he
  | unstoppable | found =>
    cases he with
    | tail _ he => cases he
  | stopFailed | stopped =>
    cases he with
    | tail _ he =>
      cases he with
      | tail _ he => cases he
  | start _ tried => exact absurd rfl (tried.calls.2 _ he asked)
  | foundPending _ _ tried =>
    cases he with
    | tail _ he => exact absurd rfl (tried.calls.2 _ he asked)

/-- Every operation reports its failures.

**Proof sketch.** Everything about the failing exchange follows from `OperationPath.surfaces`: it is
the last, and it is the one that is returned. What the state keeps is known from the way of the
attempt, of the resolution or of the stop. -/
theorem OperationPath.reports (h : OperationPath name operation s es (result, s')) :
    Reports name operation s es result s' where
  returned _ := h.surfaces.returned_iff
  noticed e he failed := by
    obtain ⟨before, after, rfl⟩ := List.append_of_mem he
    obtain ⟨-, err, -, fails⟩ := h.surfaces.of_failed failed
    exact ⟨err, fails⟩
  last before e after hes failed := by
    subst hes
    exact (h.surfaces.of_failed failed).1
  attempt e he err fails ho called := by
    have returned : result = .error err := h.surfaces.returned_iff.2 ⟨e, he, fails⟩
    obtain ⟨running, lastError⟩ := h.of_attempts ⟨ho, e, he, called⟩
    refine ⟨(lastError err).2 returned, Bool.eq_false_iff.2 fun runs => ?_⟩
    simp [running.1 runs] at returned
  resolver _ _ he := h.of_missing he
  stop _ _ he := by
    obtain rfl : operation = .stop := by
      by_contra ho
      exact h.not_stop ho _ he _ rfl
    obtain rfl : s' = s.released := h.released
    exact ⟨rfl, rfl, rfl, rfl, rfl⟩

end Proxy

end Standby
