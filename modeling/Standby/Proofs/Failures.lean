import Standby.Proofs.Discipline
import Standby.Proofs.Initialization
import Standby.Proofs.Proxy.Failure
import Standby.Proofs.Sweep
import Standby.Proofs.World.Calls
set_option autoImplicit false

/-!
# Failures are accounted for

Whatever fails among the calls of an operation is what the operation returns, and an operation
returns a failure for no other reason. The operations on a whole registry hand on the first failure
of those on its proxies. A reset alone goes on whatever the stops report.

## Main definitions

* `Standby.World.Accounts` — all that is to be said of an operation and its failures.
* `Standby.Activity.Candid` — an activity returns the failure of an operation that it calls.
* `Standby.World.Discards` — a reset drops what the stops report.

## Main results

* `Standby.World.accounts` — every operation accounts for its failures.
* `Standby.Activity.Candid.untilFailure` — one candid activity after the other is candid.
* `Standby.World.reset_halts` — a reset that does not return is not ended by a failure.
* `Standby.World.failures_accounted_for` — no failure is swallowed and none is invented.

## Design

An operation need not return: a call that it makes may not. Nothing failed then. So what is said of
an operation that returns is said together with what keeps it from returning.
-/

namespace Standby

open Dialogue

variable {σ : Type} {H : Host σ}

/-! ## Operations on a proxy -/

namespace World

variable {w w' : World σ} {p : ProxyId} {proxy : Proxy} {operation : Proxy.Operation} {bound : Nat}

/-- All that is to be said of an operation on `p` that is called in `w`. An operation on a proxy
that is busy waits for itself. Else it is a turn of the proxy's that reports its failures, or a call
that it makes does not return and none that it made before failed. -/
inductive Accounts (H : Host σ) (bound : Nat) (w : World σ) (p : ProxyId) (proxy : Proxy)
    (operation : Proxy.Operation) : Prop
  | busy (busy : proxy.busy = true)
    (waits : perform H (bound + 1) (.operate p operation) w = .error (.reentered p))
  | returned (idle : proxy.busy = false) {result : Except ProxyError Unit} {state : Proxy.State}
    {w' : World σ} (ended : perform H (bound + 1) (.operate p operation) w = .ok (result, w'))
    (left : w'.proxy? p = some { proxy with state })
    (turn : (w'.chronicle p).turns = (w.chronicle p).turns ++
      [⟨operation, exchanges (perform H bound) H p operation w, result⟩])
    (reports : Proxy.Reports proxy.name operation proxy.state
      (exchanges (perform H bound) H p operation w) result state)
  | stuck (idle : proxy.busy = false) {halt : Halt}
    (halted : perform H (bound + 1) (.operate p operation) w = .error halt)
    (hindered : Hindered H bound p w (Inside H (bound + 1) (.operate p operation) w) halt)
    (none : ∀ e ∈ exchanges (perform H bound) H p operation w, ¬ e.Failed operation)

/-- As long as an operation waits for an answer no call that it made has failed.

**Proof sketch.** The call that it waits for comes after those that it made. However the operation
goes on from there, it is one that reports its failures, and none of them is followed by a call. -/
lemma not_failed_of_reaches {name : String} {s : Proxy.State} {es : List Exchange} {q : Request}
    {next : q.Answer → Talk Proxy.Outcome}
    (h : Reaches (operation.talk name s) es (.ask q next)) : ∀ e ∈ es, ¬ e.Failed operation := by
  intro e he failed
  obtain ⟨rest, ⟨result, state⟩, path, -⟩ := exists_path Request.refusal (next q.refusal)
  have whole := h.path (.ask q next q.refusal rest _ path)
  have reports := (Proxy.path_talk_iff.1 whole).reports
  obtain ⟨before, after, rfl⟩ := List.append_of_mem he
  have last := reports.last before e (after ++ ⟨q, q.refusal⟩ :: rest) (by simp) failed
  simp at last

/-- Every operation accounts for its failures.

**Proof sketch.** By cases: the proxy is busy, or the operation returns, or it waits. If it returns
then its turn is a path through the dialogue, of which it is known how it reports its failures. -/
theorem accounts (coherent : w.Coherent) (known : w.proxy? p = some proxy) :
    Accounts H bound w p proxy operation := by
  cases busy : proxy.busy with
  | true =>
    have waits : operate (perform H bound) H p operation w = .error (.reentered p) := by
      simp [operate, known, busy]
    exact .busy busy waits
  | false =>
    cases h : operate (perform H bound) H p operation w with
    | ok outcome =>
      obtain ⟨result, w'⟩ := outcome
      obtain ⟨state, left, path⟩ := operate_path known h
      exact .returned busy h left (turns_operate coherent known h) path.reports
    | error halt =>
      obtain ⟨q, next, reaches⟩ := operate_stuck known busy h
      exact .stuck busy h (operate_halts known h) (not_failed_of_reaches reaches)

end World

/-! ## Operations on a whole registry -/

namespace Activity

/-- Whatever the world is and however calls are carried out, the activity returns a failure exactly
if one of the operations on proxies that it calls does, and it returns the failure of this
operation. -/
def Candid (a : Activity σ (Except ProxyError Unit)) : Prop :=
  ∀ (perform : Performance σ) (w : World σ) (err : ProxyError),
    (∃ w', a.run perform w = .ok (.error err, w')) ↔
      ∃ p operation, ⟨.operate p operation, .error err⟩ ∈ a.made perform w

namespace Candid

variable {first : Activity σ (Except ProxyError Unit)}

/-- An activity that calls nothing and does not fail is candid. -/
private lemma done : (Activity.done (.ok ()) : Activity σ (Except ProxyError Unit)).Candid := by
  intro perform w err
  simp [run, made]

/-- What comes after a call that is no operation on a proxy.

**Proof sketch.** The call itself is none that could fail, so what is made and what is returned are
those of the rest. -/
private lemma call {c : Call} {next : c.Answer → Activity σ (Except ProxyError Unit)}
    (other : ∀ p operation, c ≠ .operate p operation) (h : ∀ answer, (next answer).Candid) :
    (Activity.call c next).Candid := by
  intro perform w err
  rw [run, made]
  cases perform c w with
  | error halt => simp
  | ok outcome =>
    obtain ⟨answer, v⟩ := outcome
    refine (h answer perform v err).trans ?_
    constructor
    · rintro ⟨p, operation, called⟩
      exact ⟨p, operation, .tail _ called⟩
    · rintro ⟨p, operation, called⟩
      rcases List.mem_cons.1 called with same | called
      · exact absurd (congrArg Sigma.fst same).symm (other p operation)
      · exact ⟨p, operation, called⟩

/-- An operation is candid about itself.

**Proof sketch.** The one call that is made is the operation, and its result is the result of the
activity. -/
private lemma operate (p : ProxyId) (operation : Proxy.Operation) :
    (Activity.operate p operation : Activity σ _).Candid := by
  intro perform w err
  change (∃ w', (Activity.call (.operate p operation) Activity.done).run perform w = _) ↔
    ∃ p' operation', _ ∈ (Activity.call (.operate p operation) Activity.done).made perform w
  rw [run, made]
  cases perform (.operate p operation) w with
  | error halt => simp
  | ok outcome =>
    obtain ⟨result, v⟩ := outcome
    constructor
    · rintro ⟨w', ⟨⟩⟩
      exact ⟨p, operation, .head _⟩
    · rintro ⟨q, operation', called⟩
      cases List.mem_singleton.1 called
      exact ⟨v, rfl⟩

/-- One candid activity after the other, up to the first that fails, is candid.

**Proof sketch.** Induction on the activities. If the first fails nothing is called after it; if it
does not, none of the operations that it called failed. -/
theorem untilFailure {as : List (Activity σ (Except ProxyError Unit))} (h : ∀ a ∈ as, a.Candid) :
    (Activity.untilFailure as).Candid := by
  induction as with
  | nil => exact done
  | cons first rest ih =>
    intro perform w err
    have later := ih fun a ha => h a (by simp [ha])
    have now := h first (by simp) perform w
    rw [Activity.untilFailure, run_bind, made_bind]
    cases hfirst : first.run perform w with
    | error halt => simpa [hfirst] using now err
    | ok outcome =>
      obtain ⟨_ | ⟨⟩, v⟩ := outcome
      case error err' =>
        have ends :
            (pure (.error err') : Activity σ (Except ProxyError Unit)).made perform v = [] :=
          rfl
        have returns : (pure (.error err') : Activity σ (Except ProxyError Unit)).run perform v =
          .ok (.error err', v) := rfl
        simpa [hfirst, ends, returns] using now err
      case ok =>
        have smooth : ¬ ∃ p operation,
            ⟨.operate p operation, .error err⟩ ∈ first.made perform w := by
          rw [← now err, hfirst]
          simp
        refine (later perform v err).trans ?_
        constructor
        · rintro ⟨p, operation, called⟩
          exact ⟨p, operation, List.mem_append_right _ called⟩
        · rintro ⟨p, operation, called⟩
          rcases List.mem_append.1 called with called | called
          · exact absurd ⟨p, operation, called⟩ smooth
          · exact ⟨p, operation, called⟩

end Candid

end Activity

/-- The resolution of a whole registry is candid. -/
private lemma Registry.candid_resolveAll (r : RegistryId) :
    (Registry.resolveAll r : Activity σ _).Candid := by
  refine .call (by simp) fun entries => .untilFailure fun a ha => ?_
  obtain ⟨e, -, rfl⟩ := List.mem_map.1 ha
  exact .operate e.proxy .resolve

/-- The application of a manifest is candid. -/
private lemma Registry.candid_apply (r : RegistryId) (m : Manifest) :
    (Registry.apply r m : Activity σ _).Candid := by
  refine .untilFailure fun a ha => ?_
  obtain ⟨d, -, rfl⟩ := List.mem_map.1 ha
  refine .call (by simp) fun p => ?_
  change (if d.start then Activity.operate p .start else pure (.ok ()) : Activity σ _).Candid
  split
  · exact .operate p .start
  · exact .done

/-! ## Resets -/

namespace World

variable {w w' : World σ} {p : ProxyId} {r : RegistryId} {bound : Nat} {halt : Halt}

/-- A sweep that does not return waits for a stop that does not.

**Proof sketch.** Induction on the proxies. The first stop does not return, or it does and the sweep
waits for one of the others. -/
private lemma sweep_halts {perform : Activity.Performance σ}
    (inside : Call → World σ → World σ → Prop) {ps : List ProxyId}
    (h : sweep perform H r ps w = .error halt) :
    ∃ p v, SweepPasses perform inside H r ps w v ∧
      operate perform H p .stop (v.record (.swept r p)) = .error halt := by
  induction ps generalizing w with
  | nil => simp [sweep] at h
  | cons p rest ih =>
    rw [sweep] at h
    cases hstop : operate perform H p .stop (w.record (.swept r p)) with
    | error halt' =>
      rw [hstop] at h
      obtain rfl : halt' = halt := Except.error.inj h
      exact ⟨p, w, .here _ _, hstop⟩
    | ok outcome =>
      rw [hstop] at h
      obtain ⟨q, v, passed, halted⟩ := ih h
      exact ⟨q, v, .after hstop passed, halted⟩

/-- A reset that does not return is not ended by a failure: it reached the bound, or it waits for a
stop that does not return.

**Proof sketch.** Induction on the bound. Either the sweep of the first pass waits for a stop, or
the passes after it do, with less of the bound. -/
theorem reset_halts {registry : Registry} (known : w.registry? r = some registry)
    (h : perform H bound (.reset r) w = .error halt) :
    halt = .exhausted ∨ ∃ b < bound, ∃ p v, Inside H bound (.reset r) w v ∧
      operate (perform H b) H p .stop (v.record (.swept r p)) = .error halt := by
  induction bound generalizing w registry with
  | zero => exact .inl (Except.error.inj h).symm
  | succ bound ih =>
    simp only [perform, known] at h
    cases some : registry.entries.isEmpty with
    | true => simp [some] at h
    | false =>
      rw [some] at h
      cases hsweep : sweep (perform H bound) H r registry.proxies w with
      | error halt' =>
        simp only [hsweep, Bool.false_eq_true, if_false] at h
        obtain rfl : halt' = halt := Except.error.inj h
        obtain ⟨p, v, passed, halted⟩ := sweep_halts (Inside H bound) hsweep
        exact .inr ⟨bound, bound.lt_succ_self, p, v, ⟨registry, known, some, .inl passed⟩, halted⟩
      | ok v =>
        simp only [hsweep, Bool.false_eq_true, if_false] at h
        have stepwise := persists_stepwise H
        obtain ⟨registry', known', -⟩ :=
          (stepwise.pass stepwise.toClosed.perform known hsweep).registry r registry known
        refine (ih known' h).imp_right ?_
        rintro ⟨b, below, p, u, passed, halted⟩
        have inside : Inside H (bound + 1) (.reset r) w u :=
          ⟨registry, known, some, .inr ⟨v, hsweep, .inr passed⟩⟩
        exact ⟨b, Nat.lt_succ_of_lt below, p, u, inside, halted⟩

/-- What a reset of `r` that is called in `w` makes of failures: nothing. If it returns, then all
that was registered at its beginning and meanwhile was stopped, whatever the stops reported, and
removed. If it does not, then no failure is the reason. -/
inductive Discards (H : Host σ) (bound : Nat) (w : World σ) (r : RegistryId) : Prop
  | returned {w' : World σ} {news : List Event}
    (ended : perform H bound (.reset r) w = .ok ((), w'))
    (happened : w'.journal = news ++ w.journal)
    (all : removedFrom r news = w.members r ++ registeredIn r news)
    (stopped : ∀ p ∈ removedFrom r news, Stops r p w (Inside H bound (.reset r) w) news)
  | stuck {halt : Halt} (halted : perform H bound (.reset r) w = .error halt)
    (cause : halt = .exhausted ∨ ∃ b < bound, ∃ p v, Inside H bound (.reset r) w v ∧
      operate (perform H b) H p .stop (v.record (.swept r p)) = .error halt)

/-- A reset makes nothing of failures. -/
private lemma discards {registry : Registry} (kept : w.Kept)
    (known : w.registry? r = some registry) : Discards H bound w r := by
  cases h : perform H bound (.reset r) w with
  | error halt => exact .stuck h (reset_halts known h)
  | ok outcome =>
    obtain ⟨⟨⟩, w'⟩ := outcome
    obtain ⟨news, happened, empties⟩ := reset_empties kept h
    refine .returned h happened (empties.removed.trans empties.order) fun p hp => ?_
    rw [empties.removed] at hp
    exact empties.stopped p hp

/-! ## No failure is swallowed and none is invented -/

/-- **Failures are accounted for.** In every world that a run goes through, an operation on a proxy
returns a failure exactly if one of the calls that it makes failed, and it returns this failure,
after which it makes no call; what it leaves depends on which call it was. The operations on a whole
registry return a failure exactly if an operation on a proxy does that they call, and return the
same failure. A reset makes nothing of failures. -/
theorem failures_accounted_for (reachable : Reachable H w) (bound : Nat) :
    (∀ p proxy operation, w.proxy? p = some proxy → Accounts H bound w p proxy operation) ∧
      (∀ r, (Registry.resolveAll r : Activity σ _).Candid) ∧
      (∀ r m, (Registry.apply r m : Activity σ _).Candid) ∧
      ∀ r registry, w.registry? r = some registry → Discards H bound w r :=
  ⟨fun _ _ _ known => accounts reachable.coherent known, Registry.candid_resolveAll,
    Registry.candid_apply, fun _ _ known => discards reachable.kept known⟩

/-- A host that does not know one of the names, whose second product does not start, and none of
whose products stops. -/
def obstinate : Host Nat where
  __ := Host.counting
    (fun product => if product = ⟨1⟩ then .error (.ofMessage "not now") else .ok ())
    fun _ => pure ()
  resolve _ name := .done (if name = "lost" then .error (.unknown name) else .ok ⟨0, ⟨name, ⟨0⟩⟩⟩)
  stop _ := .done (.error (.ofMessage "never"))

/-- A client with a component that runs, one that is known, and one that is not. -/
def beset : Activity Nat RegistryId := do
  let r ← Activity.establish (.custom 0) (.custom 0)
  let a ← Activity.obtain r "a"
  let b ← Activity.obtain r "b"
  let _ ← Activity.obtain r "lost"
  let _ ← Activity.operate a .start
  let _ ← Activity.operate a .resolve
  let _ ← Activity.operate b .resolve
  pure r

/-- A stop fails and is reported, a name is not found, a start fails; the reset returns. -/
theorem failures_accounted_for_beset : ∃ w, Reachable obstinate w ∧
    (∃ v, (Activity.operate ⟨0⟩ .stop).perform obstinate 2 w =
      .ok (.error (.stop "a" (.ofMessage "never")), v)) ∧
    (∃ v, (Registry.resolveAll ⟨0⟩).perform obstinate 2 w =
      .ok (.error (.notFound (.unknown "lost")), v)) ∧
    (∃ v, (Registry.apply ⟨0⟩ ⟨[⟨"b", true⟩]⟩).perform obstinate 2 w =
      .ok (.error (.start "b" (.ofMessage "not now")), v)) ∧
    (∃ v, perform obstinate 2 (.reset ⟨0⟩) w = .ok ((), v)) ∧
    ((∀ p proxy operation, w.proxy? p = some proxy → Accounts obstinate 2 w p proxy operation) ∧
      (∀ r, (Registry.resolveAll r : Activity Nat _).Candid) ∧
      (∀ r m, (Registry.apply r m : Activity Nat _).Candid) ∧
      ∀ r registry, w.registry? r = some registry → Discards obstinate 2 w r) := by
  obtain ⟨w, ready, stopped, resolved, applied, emptied⟩ :
      ∃ w, beset.perform obstinate 2 { host := 0 } = .ok (⟨0⟩, w) ∧
        (∃ v, (Activity.operate ⟨0⟩ .stop).perform obstinate 2 w =
          .ok (.error (.stop "a" (.ofMessage "never")), v)) ∧
        (∃ v, (Registry.resolveAll ⟨0⟩).perform obstinate 2 w =
          .ok (.error (.notFound (.unknown "lost")), v)) ∧
        (∃ v, (Registry.apply ⟨0⟩ ⟨[⟨"b", true⟩]⟩).perform obstinate 2 w =
          .ok (.error (.start "b" (.ofMessage "not now")), v)) ∧
        ∃ v, perform obstinate 2 (.reset ⟨0⟩) w = .ok ((), v) := by
    refine ⟨_, rfl, ⟨_, rfl⟩, ⟨_, rfl⟩, ⟨_, rfl⟩, _, rfl⟩
  have reachable : Reachable obstinate w := .of_run ready
  exact ⟨w, reachable, stopped, resolved, applied, emptied, failures_accounted_for reachable 2⟩

end World

end Standby
