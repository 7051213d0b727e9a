import Standby.Proofs.World.Passage
set_option autoImplicit false

/-!
# How a proxy comes to be waited for

A run waits for the proxy `p` forever if, in the middle of an operation on `p`, code that is called
operates on `p` or observes it. There is no other way to it: somewhere in the run, at whatever
depth, such a call is made.

## Main definitions

* `Standby.Activity.comesTo` — an activity makes a call that comes to the proxy.
* `Standby.World.operateComesTo` — the code that an operation calls makes such a call.
* `Standby.World.comesTo` — a call comes to the proxy `p`: it operates on `p` or observes it, or
  code that it runs does.

## Main results

* `Standby.World.comesTo_of_reentered` — a call that waits for `p` comes to `p`.

## Design

The definitions follow those of `Activity.run` and `World.perform`, as those of the worlds that a
run goes through do. They can be computed along with the run.
-/

namespace Standby

variable {σ : Type}

section ComesTo

variable (perform : Activity.Performance σ) (comes : Call → World σ → Bool)

/-- Carried out in a world, the activity makes a call that `comes`. Calls are carried out by
`perform`. -/
def Activity.comesTo : {α : Type} → Activity σ α → World σ → Bool
  | _, done _, _ => false
  | _, get next, w => (next w.host).comesTo w
  | _, put s next, w => next.comesTo { w with host := s }
  | _, call c next, w =>
    comes c w ||
      match perform c w with
      | .error _ => false
      | .ok (answer, w) => (next answer).comesTo w
  | _, thread body next, w =>
    body.comesTo { w with context := none } ||
      match body.run perform { w with context := none } with
      | .error _ => false
      | .ok (b, w') => (next b).comesTo { w' with context := w.context }

namespace World

variable (H : Host σ) (p : ProxyId)

/-- The code that a dialogue of the proxy `p` calls makes a call that `comes`. -/
def talkComesTo {α : Type} (resolver : Resolver) (factory : Factory) : Talk α → World σ → Bool
  | .done _, _ => false
  | .ask q next, w =>
    (H.serve resolver factory q).comesTo perform comes (w.record (.asked p q)) ||
      match (H.serve resolver factory q).run perform (w.record (.asked p q)) with
      | .error _ => false
      | .ok (answer, w) =>
        talkComesTo resolver factory (next answer) (w.record (.answered p ⟨q, answer⟩))

/-- The code that an operation on the proxy `p` calls makes a call that `comes`. -/
def operateComesTo (operation : Proxy.Operation) (w : World σ) : Bool :=
  match w.proxy? p with
  | none => false
  | some proxy =>
    talkComesTo perform comes H p proxy.resolver proxy.factory
      (operation.talk proxy.name proxy.state)
      ((w.setProxy p { proxy with busy := true }).record (.began p operation))

/-- A sweep of the registry `r` stops the proxy `p`, or the code that one of its stops calls makes a
call that `comes`. -/
def sweepComesTo (r : RegistryId) : List ProxyId → World σ → Bool
  | [], _ => false
  | q :: rest, w =>
    decide (q = p) || operateComesTo perform comes H q .stop (w.record (.swept r q)) ||
      match operate perform H q .stop (w.record (.swept r q)) with
      | .error _ => false
      | .ok (_, w) => sweepComesTo r rest w

end World

end ComesTo

namespace World

/-- A call comes to the proxy `p`: it is an operation on `p` or an observation of it, or the code
that it runs makes such a call, at any depth. -/
def comesTo (H : Host σ) (p : ProxyId) : Nat → Call → World σ → Bool
  | _, .observe q, _ => decide (q = p)
  | 0, .operate q _, _ => decide (q = p)
  | bound + 1, .operate q operation, w =>
    decide (q = p) || operateComesTo (perform H bound) (comesTo H p bound) H q operation w
  | bound + 1, .reset r, w =>
    match w.registry? r with
    | none => false
    | some registry =>
      if registry.entries.isEmpty then
        false
      else
        sweepComesTo (perform H bound) (comesTo H p bound) H p r registry.proxies w ||
          match sweep (perform H bound) H r registry.proxies w with
          | .error _ => false
          | .ok w => comesTo H p bound (.reset r) (w.remove r registry.proxies)
  | bound + 1, .construct type, w =>
    (H.construct type.value.constructor).comesTo (perform H bound) (comesTo H p bound) w
  | _, _, _ => false

variable {H : Host σ} {p q : ProxyId} {w : World σ} {α : Type}

section Calls

variable {perform : Activity.Performance σ} {comes : Call → World σ → Bool}
  (calls : ∀ {c u}, perform c u = .error (.reentered p) → comes c u = true)
include calls

/-- An activity that waits for `p` makes a call that does.

**Proof sketch.** Induction on the activity. The call that it waits in is the first one that is not
over. -/
private lemma comesTo_of_run {a : Activity σ α} (h : a.run perform w = .error (.reentered p)) :
    a.comesTo perform comes w = true := by
  induction a generalizing w with
  | done a => cases h
  | get next ih => exact ih w.host h
  | put s next ih => exact ih h
  | call c next ih =>
    rw [Activity.comesTo, Bool.or_eq_true]
    rcases Activity.run_call_error h with hcall | ⟨answer, v, hcall, h⟩
    · exact .inl (calls hcall)
    · rw [hcall]
      exact .inr (ih answer h)
  | thread body next ihBody ihNext =>
    rw [Activity.run] at h
    rw [Activity.comesTo, Bool.or_eq_true]
    cases hbody : body.run perform { w with context := none } with
    | error halt =>
      rw [hbody] at h
      obtain rfl : halt = .reentered p := Except.error.inj h
      exact .inl (ihBody hbody)
    | ok outcome =>
      rw [hbody] at h
      exact .inr (ihNext outcome.1 h)

/-- A dialogue that waits for `p` calls code that does.

**Proof sketch.** Induction on the dialogue, as for an activity. -/
lemma comesTo_of_converse {t : Talk α} {resolver : Resolver} {factory : Factory}
    (h : converse perform H q resolver factory t w = .error (.reentered p)) :
    talkComesTo perform comes H q resolver factory t w = true := by
  induction t generalizing w with
  | done a => cases h
  | ask request next ih =>
    rw [converse] at h
    rw [talkComesTo, Bool.or_eq_true]
    cases hserve : (H.serve resolver factory request).run perform (w.record (.asked q request)) with
    | error halt =>
      rw [hserve] at h
      obtain rfl : halt = .reentered p := Except.error.inj h
      exact .inl (comesTo_of_run calls hserve)
    | ok outcome =>
      rw [hserve] at h
      exact .inr (ih outcome.1 h)

/-- An operation that waits for `p` is one on `p`, or it calls code that waits for `p`.

**Proof sketch.** An operation waits for its own proxy if this is in use, and else it waits in its
dialogue. -/
private lemma comesTo_of_operate {operation : Proxy.Operation}
    (h : operate perform H q operation w = .error (.reentered p)) :
    q = p ∨ operateComesTo perform comes H q operation w = true := by
  rw [operate] at h
  split at h
  · cases h
  next proxy known =>
    split at h
    · obtain ⟨⟩ := Except.error.inj h
      exact .inl rfl
    · dsimp only at h
      split at h
      next halt hconverse =>
        obtain rfl := Except.error.inj h
        rw [operateComesTo, known]
        exact .inr (comesTo_of_converse calls hconverse)
      · cases h

/-- A sweep that waits for `p` stops `p`, or one of its stops waits for `p`.

**Proof sketch.** Induction on the proxies that are left to sweep. -/
private lemma comesTo_of_sweep {r : RegistryId} {ps : List ProxyId}
    (h : sweep perform H r ps w = .error (.reentered p)) :
    sweepComesTo perform comes H p r ps w = true := by
  induction ps generalizing w with
  | nil => cases h
  | cons q rest ih =>
    rw [sweep] at h
    rw [sweepComesTo, Bool.or_eq_true, Bool.or_eq_true, decide_eq_true_eq]
    cases hstop : operate perform H q .stop (w.record (.swept r q)) with
    | error halt =>
      rw [hstop] at h
      obtain rfl : halt = .reentered p := Except.error.inj h
      exact .inl (comesTo_of_operate calls hstop)
    | ok outcome =>
      rw [hstop] at h
      exact .inr (ih h)

end Calls

/-- **Waiting for a proxy.** A call that waits for the proxy `p` forever comes to `p`: somewhere in
it an operation on `p` is called, or an observation of it.

**Proof sketch.** Induction on the bound. No other call waits for anything. -/
theorem comesTo_of_reentered {bound : Nat} {c : Call}
    (h : perform H bound c w = .error (.reentered p)) : comesTo H p bound c w = true := by
  induction bound using Nat.strongRecOn generalizing c w with
  | _ bound ih =>
  cases c with
  | observe q =>
    rw [perform, observe] at h
    rw [comesTo, decide_eq_true_eq]
    split at h
    · cases h
    · split at h
      · obtain ⟨⟩ := Except.error.inj h
        rfl
      · cases h
  | operate q operation =>
    cases bound with
    | zero => cases h
    | succ bound =>
      rw [comesTo, Bool.or_eq_true, decide_eq_true_eq]
      exact comesTo_of_operate (ih bound bound.lt_succ_self) h
  | reset r =>
    cases bound with
    | zero => cases h
    | succ bound =>
      rw [perform] at h
      rw [comesTo]
      cases known : w.registry? r with
      | none =>
        rw [known] at h
        cases h
      | some registry =>
        rw [known] at h
        dsimp only at h ⊢
        split at h
        · cases h
        next some =>
          rw [if_neg some, Bool.or_eq_true]
          cases hsweep : sweep (perform H bound) H r registry.proxies w with
          | error halt =>
            rw [hsweep] at h
            obtain rfl : halt = .reentered p := Except.error.inj h
            exact .inl (comesTo_of_sweep (ih bound bound.lt_succ_self) hsweep)
          | ok v =>
            rw [hsweep] at h
            exact .inr (ih bound bound.lt_succ_self h)
  | construct type =>
    cases bound with
    | zero => cases h
    | succ bound => exact comesTo_of_run (ih bound bound.lt_succ_self) h
  | obtain r name =>
    rw [perform, World.obtain] at h
    split at h
    · cases h
    · split at h <;> cases h
  | entries r | nameOf q =>
    rw [perform] at h
    split at h <;> cases h
  | establish _ _ | install _ | installed | enter _ | leave _ | current =>
    rw [perform] at h
    cases h

end World

end Standby
