import Standby.Proofs.World.Calls
import Standby.Proofs.World.Disguise
import Standby.Proofs.World.Reentry
set_option autoImplicit false

/-!
# Operations are atomic

While an operation on a proxy is under way the code that it calls may do what it likes, other
operations included. Yet the operation is as good as a single step: what it answers and the state
that it leaves depend on the state that it found and on the answers to its calls alone, and all the
rest is left as the code that was called leaves it if nobody but that code does anything.

## Main definitions

* `Standby.Host.serving` — the code that a proxy calls, on its own.
* `Standby.World.Isolated` — all that is to be said of an operation and of what happens meanwhile.

## Main results

* `Standby.World.converse_alone` — the code that a dialogue calls does the same on its own.
* `Standby.World.operation_atomic` — operations are atomic.

## Design

What the code does on its own is a run as well, in the world in which the operation was called.
There the proxy is idle and has the state that it had. That the code does the same in both worlds is
what disguises are about: the proxy that is busy is the one that is idle, disguised.
-/

namespace Standby

open Dialogue

variable {σ : Type} {H : Host σ}

/-- The code that a proxy with these collaborators calls for the requests, on its own. -/
def Host.serving (H : Host σ) (resolver : Resolver) (factory : Factory) :
    List Request → Activity σ (List Exchange) :=
  .each fun q => do
    let answer ← H.serve resolver factory q
    pure ⟨q, answer⟩

namespace World

variable {w w' : World σ} {p : ProxyId} {proxy other : Proxy} {operation : Proxy.Operation}
  {bound : Nat} {j : List Event}

section Serving

variable {perform : Activity.Performance σ} {resolver : Resolver} {factory : Factory} {q : Request}
  {qs : List Request} {es : List Exchange} {answer : q.Answer} {halt : Halt}

/-- Code that does not return keeps the code from returning that is to be called later. -/
private lemma serving_stuck (h : (H.serve resolver factory q).run perform w = .error halt) :
    (H.serving resolver factory (q :: qs)).run perform w = .error halt := by
  rw [Host.serving, Activity.run_each_cons, Activity.run_bind, h]

/-- To serve a request and to note its answer together with it is to serve the request, with the
same effect on the world. -/
private lemma serve_once (h : (H.serve resolver factory q).run perform w = .ok (answer, w')) :
    (do
      let answer ← H.serve resolver factory q
      pure ⟨q, answer⟩ : Activity σ Exchange).run perform w = .ok (⟨q, answer⟩, w') := by
  rw [Activity.run_bind, h]
  rfl

/-- After the code that is called first comes the code that is called later. -/
private lemma serving_cons {v : World σ}
    (h : (H.serve resolver factory q).run perform w = .ok (answer, w'))
    (later : (H.serving resolver factory qs).run perform w' = .ok (es, v)) :
    (H.serving resolver factory (q :: qs)).run perform w = .ok (⟨q, answer⟩ :: es, v) := by
  rw [Host.serving] at later ⊢
  rw [Activity.run_each_cons, serve_once h]
  dsimp only
  rw [later]

/-- Code that is called later and does not return keeps the whole from returning. -/
private lemma serving_cons_stuck (h : (H.serve resolver factory q).run perform w = .ok (answer, w'))
    (later : (H.serving resolver factory qs).run perform w' = .error halt) :
    (H.serving resolver factory (q :: qs)).run perform w = .error halt := by
  rw [Host.serving] at later ⊢
  rw [Activity.run_each_cons, serve_once h]
  dsimp only
  rw [later]

end Serving

section Alone

variable {α : Type} {t : Talk α} {x : α} {resolver : Resolver} {factory : Factory} {halt : Halt}
  (known : w.proxy? p = some proxy) (busy : proxy.busy = true) (hname : other.name = proxy.name)
include known busy hname

/-- What an activity did while a proxy was busy it does as well if the proxy is disguised. -/
private lemma run_alone {a : Activity σ α} (h : a.run (perform H bound) w = .ok (x, w')) :
    w'.proxy? p = some proxy ∧
      ∃ j', a.run (perform H bound) (w.disguised p other j) = .ok (x, w'.disguised p other j') := by
  have both : Matches p proxy other w j (a.run (perform H bound) w)
    (a.run (perform H bound) (w.disguised p other j)) := matches_run known busy hname
  rw [h] at both
  generalize a.run (perform H bound) (w.disguised p other j) = y at both ⊢
  cases both with
  | returned _ news _ known => exact ⟨known, _, rfl⟩

/-- An activity that did not return while a proxy was busy does not return either if the proxy is
disguised, unless it waited for this proxy. -/
private lemma run_alone_stuck {a : Activity σ α} (h : a.run (perform H bound) w = .error halt) :
    halt = .reentered p ∨ a.run (perform H bound) (w.disguised p other j) = .error halt := by
  have both : Matches p proxy other w j (a.run (perform H bound) w)
    (a.run (perform H bound) (w.disguised p other j)) := matches_run known busy hname
  rw [h] at both
  generalize a.run (perform H bound) (w.disguised p other j) = y at both ⊢
  cases both with
  | reentered => exact .inl rfl
  | halted => exact .inr rfl

/-- **The code that is called does the same on its own.** Carried out in the world in which the
proxy is disguised, the code that a dialogue called gives the same answers and leaves the same
world, disguised.

**Proof sketch.** Induction on the dialogue. Each activity that is called finds the world that it
would have found, disguised, so it does the same. -/
lemma converse_alone (h : converse (perform H bound) H p resolver factory t w = .ok (x, w')) :
    w'.proxy? p = some proxy ∧ ∃ j', (H.serving resolver factory
        ((conversed (perform H bound) H p resolver factory t w).map Sigma.fst)).run
          (perform H bound)
          (w.disguised p other j) =
        .ok (conversed (perform H bound) H p resolver factory t w, w'.disguised p other j') := by
  induction t generalizing w j with
  | done a =>
    obtain ⟨rfl, rfl⟩ : a = x ∧ w = w' := by simpa [converse] using h
    exact ⟨known, j, rfl⟩
  | ask q next ih =>
    obtain ⟨answer, v, hserve, h⟩ := converse_ask_ok h
    have asked : (w.record (.asked p q)).proxy? p = some proxy := known
    obtain ⟨there, j', served⟩ := run_alone (j := j) asked busy hname hserve
    obtain ⟨left, j'', later⟩ :=
      ih answer (w := v.record (.answered p ⟨q, answer⟩)) (j := j') there h
    rw [conversed_ask hserve, List.map_cons]
    exact ⟨left, j'', serving_cons served later⟩

/-- If a dialogue does not come to its end, then neither does the code that it called and the code
that it called last, unless it waited for the proxy itself.

**Proof sketch.** Induction on the dialogue. Either the answer of its first question is what it
waits for, and then the code that serves this question alone waits as well, or the answer is there
and the rest of the dialogue waits after it. -/
private lemma converse_alone_stuck
    (h : converse (perform H bound) H p resolver factory t w = .error halt) :
    halt = .reentered p ∨
      ∃ q next, Reaches t (conversed (perform H bound) H p resolver factory t w) (.ask q next) ∧
        (H.serving resolver factory
          ((conversed (perform H bound) H p resolver factory t w).map Sigma.fst ++ [q])).run
            (perform H bound) (w.disguised p other j) = .error halt := by
  induction t generalizing w j with
  | done a => simp [converse] at h
  | ask q next ih =>
    have asked : (w.record (.asked p q)).proxy? p = some proxy := known
    rw [converse] at h
    cases hserve : (H.serve resolver factory q).run (perform H bound) (w.record (.asked p q)) with
    | error halt' =>
      rw [hserve] at h
      obtain rfl : halt' = halt := Except.error.inj h
      refine (run_alone_stuck (j := j) asked busy hname hserve).imp_right fun stuck => ?_
      rw [conversed, hserve]
      exact ⟨q, next, .refl _, serving_stuck stuck⟩
    | ok outcome =>
      obtain ⟨answer, v⟩ := outcome
      rw [hserve] at h
      obtain ⟨there, j', served⟩ := run_alone (j := j) asked busy hname hserve
      refine (ih answer (w := v.record (.answered p ⟨q, answer⟩)) (j := j') there h).imp_right ?_
      rintro ⟨q', next', reaches, later⟩
      rw [conversed_ask hserve, List.map_cons]
      exact ⟨q', next', .ask q next answer _ _ reaches, serving_cons_stuck served later⟩

end Alone

/-! ## Operations are atomic -/

/-- All that is to be said of an operation on the proxy `p` that is called in `w`, and of the code
that it calls. `w'` is the world that the operation leaves, and `v` the one that this code leaves on
its own. -/
inductive Isolated (H : Host σ) (bound : Nat) (w : World σ) (p : ProxyId) (proxy : Proxy)
    (operation : Proxy.Operation) : Prop
  | returned {result : Except ProxyError Unit} {state : Proxy.State} {w' v : World σ}
    (ended : perform H (bound + 1) (.operate p operation) w = .ok (result, w'))
    (path : Proxy.OperationPath proxy.name operation proxy.state
      (exchanges (perform H bound) H p operation w) (result, state))
    (alone : (H.serving proxy.resolver proxy.factory
      ((exchanges (perform H bound) H p operation w).map Sigma.fst)).run (perform H bound) w =
        .ok (exchanges (perform H bound) H p operation w, v))
    (unaltered : v.proxy? p = some proxy)
    (left : w' = { v.setProxy p { proxy with state } with journal := w'.journal })
    (others : ∀ q, q ≠ p → w'.proxy? q = v.proxy? q)
    (entries : ∀ r, w'.entriesOf r = v.entriesOf r)
  | stuck {halt : Halt} {q : Request} {next : q.Answer → Talk Proxy.Outcome}
    (halted : perform H (bound + 1) (.operate p operation) w = .error halt)
    (waits : Reaches (operation.talk proxy.name proxy.state)
      (exchanges (perform H bound) H p operation w) (.ask q next))
    (alone : (H.serving proxy.resolver proxy.factory
      ((exchanges (perform H bound) H p operation w).map Sigma.fst ++ [q])).run
        (perform H bound) w =
        .error halt)

/-- Wherever else the operation is called on a proxy that has the same name and the same state, it
gives the same result and leaves the same state, unless one of the calls that it makes is answered
in another way. -/
def Recurs (H : Host σ) (bound : Nat) (w : World σ) (p : ProxyId) (proxy : Proxy)
    (operation : Proxy.Operation) : Prop :=
  ∀ {τ : Type} {H' : Host τ} {bound' : Nat} {u u' : World τ} {q : ProxyId} {proxy' : Proxy}
    {result result' : Except ProxyError Unit} {w' : World σ},
    u.proxy? q = some proxy' → proxy'.name = proxy.name → proxy'.state = proxy.state →
    perform H (bound + 1) (.operate p operation) w = .ok (result, w') →
    perform H' (bound' + 1) (.operate q operation) u = .ok (result', u') →
    (exchanges (perform H bound) H p operation w = exchanges (perform H' bound') H' q operation u ∧
      result = result' ∧ ∃ state, w'.proxy? p = some { proxy with state } ∧
        u'.proxy? q = some { proxy' with state }) ∨
    ∃ before request x y rest rest', x ≠ y ∧
      exchanges (perform H bound) H p operation w = before ++ ⟨request, x⟩ :: rest ∧
      exchanges (perform H' bound') H' q operation u = before ++ ⟨request, y⟩ :: rest'

/-- The world in which an operation began, with the proxy disguised as it was before. -/
private lemma disguised_began (known : w.proxy? p = some proxy) :
    ((w.setProxy p { proxy with busy := true }).record (.began p operation)).disguised p proxy
      w.journal = w := by
  change (w.disguised p { proxy with busy := true } w.journal).disguised p proxy w.journal = w
  rw [disguised_disguised, disguised_self known]

/-- An operation that returns is isolated from the code that it calls.

**Proof sketch.** The world in which the operation began is the one in which it was called, with the
proxy disguised. So the code that the operation calls does the same if it is called there, and the
operation itself writes to its proxy only. -/
lemma isolated_of_returned {result : Except ProxyError Unit} (known : w.proxy? p = some proxy)
    (h : perform H (bound + 1) (.operate p operation) w = .ok (result, w')) :
    Isolated H bound w p proxy operation := by
  let begun := (w.setProxy p { proxy with busy := true }).record (.began p operation)
  have busy : begun.proxy? p = some { proxy with busy := true } := proxy?_setProxy_self known
  have before : begun.disguised p proxy w.journal = w := disguised_began known
  have hname : proxy.name = ({ proxy with busy := true } : Proxy).name := rfl
  have calls : exchanges (perform H bound) H p operation w = conversed (perform H bound) H p
      proxy.resolver proxy.factory (operation.talk proxy.name proxy.state) begun :=
        exchanges_eq known
  obtain ⟨proxy', state, u, known', -, hconverse, hw'⟩ := operate_ok h
  obtain rfl : proxy = proxy' := Option.some.inj (known.symm.trans known')
  obtain ⟨there, j', alone⟩ := converse_alone (j := w.journal) busy rfl hname hconverse
  have path := converse_path hconverse
  rw [before, ← calls] at alone
  rw [← calls] at path
  have left : w' = (u.disguised p proxy j').disguised p { proxy with state } w'.journal := by
    rw [disguised_disguised, hw']
    rfl
  refine .returned h (Proxy.path_talk_iff.1 path) alone (proxy?_disguised_self there) left
    (fun q hq => ?_) (fun r => ?_)
  · rw [left, proxy?_disguised_of_ne (Ne.symm hq)]
  · rw [left]
    rfl

/-- An operation is isolated from the code that it calls, unless this code comes to the proxy
itself.

**Proof sketch.** The operation returns, or it does not. If it returns, `isolated_of_returned`
applies. If it does not, then it waits in its dialogue, and not for its own proxy, since nobody came
to that. So the code that it called last waits, and does so on its own too. -/
private lemma isolated (known : w.proxy? p = some proxy) (idle : proxy.busy = false)
    (spared : operateComesTo (perform H bound) (comesTo H p bound) H p operation w = false) :
    Isolated H bound w p proxy operation := by
  let begun := (w.setProxy p { proxy with busy := true }).record (.began p operation)
  have busy : begun.proxy? p = some { proxy with busy := true } := proxy?_setProxy_self known
  have before : begun.disguised p proxy w.journal = w := disguised_began known
  have hname : proxy.name = ({ proxy with busy := true } : Proxy).name := rfl
  have calls : exchanges (perform H bound) H p operation w = conversed (perform H bound) H p
      proxy.resolver proxy.factory (operation.talk proxy.name proxy.state) begun :=
        exchanges_eq known
  cases h : operate (perform H bound) H p operation w with
  | ok outcome => exact isolated_of_returned known h
  | error halt =>
    have hconverse := converse_of_operate_error known idle h
    rcases converse_alone_stuck (j := w.journal) busy rfl hname hconverse with rfl | stuck
    · have comes := comesTo_of_converse comesTo_of_reentered hconverse
      rw [operateComesTo, known] at spared
      exact absurd comes (Bool.eq_false_iff.1 spared)
    · obtain ⟨q, next, reaches, alone⟩ := stuck
      rw [before, ← calls] at alone
      rw [← calls] at reaches
      exact .stuck h reaches alone

/-- The same operation on a proxy in the same state recurs. -/
private lemma recurs (known : w.proxy? p = some proxy) : Recurs H bound w p proxy operation := by
  intro τ H' bound' u u' q proxy' result result' w' known' hname hstate ended ended'
  obtain ⟨state, left, path⟩ := operate_path known ended
  obtain ⟨state', left', path'⟩ := operate_path known' ended'
  rw [hname, hstate] at path'
  rcases (Proxy.path_talk_iff.2 path).agrees_or_parts (Proxy.path_talk_iff.2 path') with
    ⟨same, heq⟩ | parts
  · obtain ⟨rfl, rfl⟩ := Prod.mk.inj heq
    exact .inl ⟨same, rfl, state, left, left'⟩
  · exact .inr parts

/-- **Operations are atomic.** Suppose that the code that an operation on an idle proxy calls does
not come to this proxy, at any depth. Then the operation and that code are isolated from each other:
the result and the state that is left depend on the name and the state that the operation found and
on the answers to its calls, and all the rest is left as that code leaves it on its own. -/
theorem operation_atomic (known : w.proxy? p = some proxy) (idle : proxy.busy = false)
    (spared : operateComesTo (perform H bound) (comesTo H p bound) H p operation w = false) :
    Isolated H bound w p proxy operation ∧ Recurs H bound w p proxy operation :=
  ⟨isolated known idle spared, recurs known⟩

/-! ## An operation that much happens in -/

/-- A host whose resolver registers and starts another component, and whose second product empties a
registry, registers a name and enters a catalog when it starts. -/
def meddling : Host Nat where
  __ := Host.counting (fun _ => .ok ()) fun _ => pure ()
  resolve _ name := do
    if name = "a" then
      let x ← Activity.obtain ⟨1⟩ "x"
      let _ ← Activity.operate x .start
      let _ ← Activity.operate x .resolve
      pure (.ok ⟨0, ⟨name, ⟨0⟩⟩⟩)
    else
      pure (.ok ⟨0, ⟨name, ⟨0⟩⟩⟩)
  start product := do
    if product = ⟨1⟩ then
      Activity.reset ⟨1⟩
      let _ ← Activity.obtain ⟨0⟩ "late"
      let _ ← Activity.enter ⟨0, .empty⟩
      pure (.ok ())
    else
      pure (.ok ())

/-- A client with two registries, who requests a component of the first to run. -/
def pair : Activity Nat ProxyId := do
  let r ← Activity.establish (.custom 0) (.custom 0)
  let _ ← Activity.establish (.custom 0) (.custom 0)
  let a ← Activity.obtain r "a"
  let _ ← Activity.operate a .start
  pure a

/-- The component runs, the other one was started and stopped again, and the name and the catalog
are there. -/
theorem operation_atomic_pair : ∃ w proxy w', Reachable meddling w ∧
    w.proxy? ⟨0⟩ = some proxy ∧ proxy.busy = false ∧
    operateComesTo (perform meddling 3) (comesTo meddling ⟨0⟩ 3) meddling ⟨0⟩ .resolve w = false ∧
    perform meddling 4 (.operate ⟨0⟩ .resolve) w = .ok (.ok (), w') ∧
    w'.members ⟨0⟩ = [⟨0⟩, ⟨2⟩] ∧ w'.members ⟨1⟩ = [] ∧ w'.context.isSome ∧
    Isolated meddling 3 w ⟨0⟩ proxy .resolve ∧ Recurs meddling 3 w ⟨0⟩ proxy .resolve := by
  obtain ⟨w, ready, proxy, known, idle, spared, w', rest⟩ :
      ∃ w, pair.perform meddling 2 { host := 0 } = .ok (⟨0⟩, w) ∧
        ∃ proxy, w.proxy? ⟨0⟩ = some proxy ∧ proxy.busy = false ∧
        operateComesTo (perform meddling 3) (comesTo meddling ⟨0⟩ 3) meddling ⟨0⟩ .resolve w =
          false ∧
        ∃ w', perform meddling 4 (.operate ⟨0⟩ .resolve) w = .ok (.ok (), w') ∧
          w'.members ⟨0⟩ = [⟨0⟩, ⟨2⟩] ∧ w'.members ⟨1⟩ = [] ∧ w'.context.isSome := by
    refine ⟨_, rfl, _, rfl, rfl, by decide +kernel, _, rfl, rfl, rfl, rfl⟩
  obtain ⟨ended, first, second, entered⟩ := rest
  obtain ⟨isolated, recurs⟩ := operation_atomic known idle spared
  exact ⟨w, proxy, w', .of_run ready, known, idle, spared, ended, first, second, entered, isolated,
    recurs⟩

end World

end Standby
