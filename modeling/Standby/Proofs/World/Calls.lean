import Standby.Proofs.World.Entries
set_option autoImplicit false

/-!
# The calls that were made

A run ends in a result and a world. What was called on the way, and which answers there were, can be
computed along with it: by an operation of its collaborators, and by an activity of the library.
Only the calls that are made directly are told of, not those that are made on their account.

## Main definitions

* `Standby.Activity.made` — the calls that an activity makes, with their answers.
* `Standby.Activity.each` — an activity for each of several values, one after the other.
* `Standby.World.conversed`, `Standby.World.exchanges` — the calls that a dialogue and an operation
  make, with their answers.

## Main results

* `Standby.Activity.run_bind`, `Standby.Activity.made_bind` — one activity after the other.
* `Standby.World.operate_path` — an operation that is over took a path along these calls.
* `Standby.World.operate_stuck` — one that is not over waits for the answer to a further call.
* `Standby.World.turns_operate` — the chronicle tells of the same calls.
-/

namespace Standby

open Dialogue

variable {σ : Type}

/-- A call of the library together with its answer. -/
abbrev Made := (c : Call) × c.Answer

/-- The calls that an activity makes and that return, in order and with their answers.

It follows the run of the activity, so a call that does not return is not in the list, and nothing
after it is. The calls of a thread stand where it was started, since it is waited for. -/
def Activity.made (perform : Activity.Performance σ) :
    {α : Type} → Activity σ α → World σ → List Made
  | _, done _, _ => []
  | _, get next, w => (next w.host).made perform w
  | _, put s next, w => next.made perform { w with host := s }
  | _, call c next, w =>
    match perform c w with
    | .error _ => []
    | .ok (answer, w) => ⟨c, answer⟩ :: (next answer).made perform w
  | _, thread body next, w =>
    body.made perform { w with context := none } ++
      match body.run perform { w with context := none } with
      | .error _ => []
      | .ok (b, w') => (next b).made perform { w' with context := w.context }

namespace Activity

section Sequences

variable {perform : Performance σ} {α β : Type}

/-- What comes after an activity is carried out in the world that this one leaves.

**Proof sketch.** Induction on the activity that comes first. -/
lemma run_bind (a : Activity σ α) (f : α → Activity σ β) (w : World σ) :
    (a >>= f).run perform w =
      match a.run perform w with
      | .error halt => .error halt
      | .ok (x, v) => (f x).run perform v := by
  change (a.bind f).run perform w = _
  induction a generalizing w with
  | done a => rfl
  | get next ih => exact ih w.host f w
  | put s next ih => exact ih f _
  | call c next ih =>
    rw [bind, run, run]
    cases perform c w with
    | error halt => rfl
    | ok outcome => exact ih outcome.1 f outcome.2
  | thread body next _ ih =>
    rw [bind, run, run]
    cases body.run perform { w with context := none } with
    | error halt => rfl
    | ok outcome => exact ih outcome.1 f { outcome.2 with context := w.context }

/-- What comes after an activity makes its calls after those of this one.

**Proof sketch.** Induction on the activity that comes first, as for its run. -/
lemma made_bind (a : Activity σ α) (f : α → Activity σ β) (w : World σ) :
    (a >>= f).made perform w = a.made perform w ++
      match a.run perform w with
      | .error _ => []
      | .ok (x, v) => (f x).made perform v := by
  change (a.bind f).made perform w = _
  induction a generalizing w with
  | done a => rfl
  | get next ih => exact ih w.host f w
  | put s next ih => exact ih f _
  | call c next ih =>
    rw [bind, made, made, run]
    cases perform c w with
    | error halt => rfl
    | ok outcome => exact congrArg (_ :: ·) (ih outcome.1 f outcome.2)
  | thread body next _ ih =>
    rw [bind, made, made, run, List.append_assoc]
    cases body.run perform { w with context := none } with
    | error halt => simp
    | ok outcome =>
      exact congrArg (_ ++ ·) (ih outcome.1 f { outcome.2 with context := w.context })

/-- Carries out an activity for each of the values, one after the other, and gives all results. -/
def each (f : α → Activity σ β) : List α → Activity σ (List β)
  | [] => pure []
  | x :: xs => do
    let y ← f x
    let ys ← each f xs
    pure (y :: ys)

/-- The activity for the first value is carried out, and then those for the others. -/
lemma run_each_cons (f : α → Activity σ β) (x : α) (xs : List α) (w : World σ) :
    (each f (x :: xs)).run perform w =
      match (f x).run perform w with
      | .error halt => .error halt
      | .ok (y, v) =>
        match (each f xs).run perform v with
        | .error halt => .error halt
        | .ok (ys, u) => .ok (y :: ys, u) := by
  rw [each, run_bind]
  cases (f x).run perform w with
  | error halt => rfl
  | ok outcome =>
    dsimp only
    rw [run_bind]
    cases (each f xs).run perform outcome.2 <;> rfl

/-- To go through a list is to carry out an activity for each of its values.

**Proof sketch.** The loop of the library holds the results so far. Induction on the values with
these free. -/
lemma run_mapM (f : α → Activity σ β) (xs : List α) (w : World σ) :
    (xs.mapM f).run perform w = (each f xs).run perform w := by
  -- The loop holds the results so far in reverse.
  have loop (ys : List β) (w : World σ) : (List.mapM.loop f xs ys).run perform w =
      match (each f xs).run perform w with
      | .error halt => .error halt
      | .ok (zs, v) => .ok (ys.reverse ++ zs, v) := by
    induction xs generalizing ys w with
    | nil =>
      change Except.ok (ys.reverse, w) = .ok (ys.reverse ++ [], w)
      rw [List.append_nil]
    | cons x xs ih =>
      rw [List.mapM.loop, run_bind, run_each_cons]
      cases (f x).run perform w with
      | error halt => rfl
      | ok outcome =>
        dsimp only
        rw [ih]
        cases (each f xs).run perform outcome.2 <;> simp
  rw [List.mapM, loop]
  cases (each f xs).run perform w <;> rfl

/-- Where the activities for the values change nothing, all of them are carried out in the same
world, or all of this ends as one of them does that is not over.

**Proof sketch.** Induction on the values. The first activity does not end, and then none comes
after it, or it ends in the world that it found, and the others begin there. -/
lemma run_each_cases {f : α → Activity σ β} {xs : List α} {w : World σ}
    (reads : ∀ x ∈ xs, ∀ y v, (f x).run perform w = .ok (y, v) → v = w) :
    (∃ ys, (each f xs).run perform w = .ok (ys, w) ∧
      List.Forall₂ (fun x y => (f x).run perform w = .ok (y, w)) xs ys) ∨
    ∃ x ∈ xs, ∃ halt, (f x).run perform w = .error halt ∧
      (each f xs).run perform w = .error halt := by
  induction xs with
  | nil => exact .inl ⟨[], rfl, .nil⟩
  | cons x xs ih =>
    rw [run_each_cons]
    cases first : (f x).run perform w with
    | error halt => exact .inr ⟨x, by simp, halt, first, rfl⟩
    | ok outcome =>
      obtain ⟨y, v⟩ := outcome
      obtain rfl : v = w := reads x (by simp) y v first
      dsimp only
      rcases ih fun x' hx' => reads x' (by simp [hx']) with
        ⟨ys, rest, all⟩ | ⟨x', hx', halt, stuck, rest⟩
      · exact .inl ⟨y :: ys, by rw [rest], .cons first all⟩
      · exact .inr ⟨x', by simp [hx'], halt, stuck, by rw [rest]⟩

/-- If the activities for the first values are carried out, those for the others come next.

**Proof sketch.** Induction on the first values. -/
lemma run_each_append {f : α → Activity σ β} {xs ys : List α} {zs : List β} {w v : World σ}
    (h : (each f xs).run perform w = .ok (zs, v)) :
    (each f (xs ++ ys)).run perform w =
      match (each f ys).run perform v with
      | .error halt => .error halt
      | .ok (more, u) => .ok (zs ++ more, u) := by
  induction xs generalizing w zs with
  | nil =>
    obtain ⟨rfl, rfl⟩ := Prod.mk.inj (Except.ok.inj h)
    rw [List.nil_append]
    cases (each f ys).run perform w <;> rfl
  | cons x xs ih =>
    rw [run_each_cons] at h
    rw [List.cons_append, run_each_cons]
    cases hx : (f x).run perform w with
    | error halt => simp [hx] at h
    | ok outcome =>
      obtain ⟨z, u⟩ := outcome
      rw [hx] at h
      dsimp only at h ⊢
      cases hxs : (each f xs).run perform u with
      | error halt => simp [hxs] at h
      | ok outcome =>
        obtain ⟨more, u'⟩ := outcome
        rw [hxs] at h
        obtain ⟨rfl, rfl⟩ := Prod.mk.inj (Except.ok.inj h)
        rw [ih hxs]
        cases (each f ys).run perform u' <;> rfl

end Sequences

end Activity

namespace World

section Definitions

variable (perform : Activity.Performance σ) (H : Host σ) (p : ProxyId)

/-- The calls that a dialogue of the proxy `p` makes and that return, in order and with their
answers. -/
def conversed {α : Type} (resolver : Resolver) (factory : Factory) :
    Talk α → World σ → List Exchange
  | .done _, _ => []
  | .ask q next, w =>
    match (H.serve resolver factory q).run perform (w.record (.asked p q)) with
    | .error _ => []
    | .ok (answer, w) =>
      ⟨q, answer⟩ ::
        conversed resolver factory (next answer) (w.record (.answered p ⟨q, answer⟩))

/-- The calls that an operation on the proxy `p` makes and that return, in order and with their
answers. -/
def exchanges (operation : Proxy.Operation) (w : World σ) : List Exchange :=
  match w.proxy? p with
  | none => []
  | some proxy =>
    conversed perform H p proxy.resolver proxy.factory (operation.talk proxy.name proxy.state)
      ((w.setProxy p { proxy with busy := true }).record (.began p operation))

end Definitions

variable {H : Host σ} {w w' : World σ} {p : ProxyId} {proxy : Proxy} {operation : Proxy.Operation}
  {result : Except ProxyError Unit}

section Dialogues

variable {perform : Activity.Performance σ} {α : Type} {t : Talk α} {x : α} {resolver : Resolver}
  {factory : Factory}

/-- The first call of a dialogue, if it returns, comes before those that it makes from there on. -/
lemma conversed_ask {q : Request} {next : q.Answer → Talk α} {answer : q.Answer} {v : World σ}
    (h : (H.serve resolver factory q).run perform (w.record (.asked p q)) = .ok (answer, v)) :
    conversed perform H p resolver factory (.ask q next) w = ⟨q, answer⟩ ::
      conversed perform H p resolver factory (next answer)
        (v.record (.answered p ⟨q, answer⟩)) := by
  rw [conversed, h]

/-- A dialogue that is over took a path along its calls. -/
lemma converse_path (h : converse perform H p resolver factory t w = .ok (x, w')) :
    Path t (conversed perform H p resolver factory t w) x := by
  induction t generalizing w with
  | done a =>
    obtain ⟨rfl, rfl⟩ : a = x ∧ w = w' := by simpa [converse] using h
    exact .done a
  | ask q next ih =>
    obtain ⟨answer, v, hserve, h⟩ := converse_ask_ok h
    rw [conversed_ask hserve]
    exact .ask q next answer _ x (ih answer h)

/-- A dialogue that does not come to its end waits for the answer to a further call.

**Proof sketch.** Induction on the dialogue. If the first question has no answer it is the one
waited for, and if it has, the question waited for is one of the rest. -/
private lemma converse_stuck {halt : Halt}
    (h : converse perform H p resolver factory t w = .error halt) :
    ∃ q next, Reaches t (conversed perform H p resolver factory t w) (.ask q next) := by
  induction t generalizing w with
  | done a => simp [converse] at h
  | ask q next ih =>
    rw [converse] at h
    cases hserve : (H.serve resolver factory q).run perform (w.record (.asked p q)) with
    | error halt' =>
      rw [conversed, hserve]
      exact ⟨q, next, .refl _⟩
    | ok outcome =>
      obtain ⟨answer, v⟩ := outcome
      rw [hserve] at h
      obtain ⟨q', next', reaches⟩ := ih answer h
      rw [conversed_ask hserve]
      exact ⟨q', next', .ask q next answer _ _ reaches⟩

end Dialogues

variable {bound : Nat}

/-- An operation that a client calls is carried out. -/
lemma run_operate : (Activity.operate p operation).run (perform H (bound + 1)) w =
    operate (perform H bound) H p operation w := by
  change (Activity.call (.operate p operation) .done).run (perform H (bound + 1)) w =
    perform H (bound + 1) (.operate p operation) w
  rw [Activity.run]
  cases perform H (bound + 1) (.operate p operation) w <;> rfl

/-- The calls of an operation are those of its dialogue. -/
lemma exchanges_eq {perform : Activity.Performance σ} (known : w.proxy? p = some proxy) :
    exchanges perform H p operation w =
      conversed perform H p proxy.resolver proxy.factory (operation.talk proxy.name proxy.state)
        ((w.setProxy p { proxy with busy := true }).record (.began p operation)) := by
  rw [exchanges, known]

/-- An operation that is over found its proxy idle, took one of the ways in which it can end, along
the calls that it made, and left the proxy with the state to which this way leads.

**Proof sketch.** The dialogue of an operation is over with a result and a state, and the calls that
it made are a path to them. The state is written back, and the rest of the proxy is as it was
because it persists. -/
lemma operate_path (known : w.proxy? p = some proxy)
    (h : operate (perform H bound) H p operation w = .ok (result, w')) :
    ∃ state, w'.proxy? p = some { proxy with state } ∧
      Proxy.OperationPath proxy.name operation proxy.state
        (exchanges (perform H bound) H p operation w) (result, state) := by
  obtain ⟨proxy', state, v, known', -, hconverse, rfl⟩ := operate_ok h
  obtain rfl : proxy = proxy' := Option.some.inj (known.symm.trans known')
  have persists := persists_silent.converse (persists_stepwise H).toClosed.perform
    (fun _ _ => persists_record _) (fun _ _ => persists_record _) hconverse
  obtain ⟨_, there, -⟩ := persists.proxy p _ (proxy?_setProxy_self known)
  refine ⟨state, proxy?_setProxy_self there, Proxy.path_talk_iff.1 ?_⟩
  rw [exchanges_eq known]
  exact converse_path hconverse

/-- An operation on an idle proxy that does not return has a dialogue that does not come to its
end. -/
lemma converse_of_operate_error {perform : Activity.Performance σ} {halt : Halt}
    (known : w.proxy? p = some proxy) (idle : proxy.busy = false)
    (h : operate perform H p operation w = .error halt) :
    converse perform H p proxy.resolver proxy.factory (operation.talk proxy.name proxy.state)
      ((w.setProxy p { proxy with busy := true }).record (.began p operation)) = .error halt := by
  rw [operate, known] at h
  dsimp only at h
  rw [if_neg (by simp [idle])] at h
  split at h
  next halt' hconverse => rw [hconverse, Except.error.inj h]
  next => cases h

/-- An operation on an idle proxy that does not return waits for the answer to a further call. -/
lemma operate_stuck {halt : Halt} (known : w.proxy? p = some proxy) (idle : proxy.busy = false)
    (h : operate (perform H bound) H p operation w = .error halt) :
    ∃ q next, Reaches (operation.talk proxy.name proxy.state)
      (exchanges (perform H bound) H p operation w) (.ask q next) := by
  rw [exchanges_eq known]
  exact converse_stuck (converse_of_operate_error known idle h)

/-- While a dialogue is carried out the chronicle of its proxy grows by the calls that it makes.

**Proof sketch.** Induction on the dialogue. While the code of a collaborator runs the chronicle of
a busy proxy stays as it is, so it grows by the exchange alone. -/
private lemma chronicle_converse {α : Type} {t : Talk α} {x : α} {resolver : Resolver}
    {factory : Factory} (known : w.proxy? p = some proxy) (busy : proxy.busy = true)
    (h : converse (perform H bound) H p resolver factory t w = .ok (x, w')) :
    (w'.chronicle p).turns = (w.chronicle p).turns ∧
      (w'.chronicle p).exchanges =
        (w.chronicle p).exchanges ++ conversed (perform H bound) H p resolver factory t w := by
  induction t generalizing w with
  | done a =>
    obtain ⟨rfl, rfl⟩ : a = x ∧ w = w' := by simpa [converse] using h
    simp [conversed]
  | ask q next ih =>
    obtain ⟨answer, v, hserve, h⟩ := converse_ask_ok h
    obtain ⟨there, hchronicle⟩ :=
      (keeps_silent p).run (keeps_closed H p).perform hserve proxy known busy
    obtain ⟨turns, more⟩ := ih answer (w := v.record (.answered p ⟨q, answer⟩)) there h
    rw [conversed_ask hserve, turns, more]
    simp [chronicle_record, hchronicle]

/-- An operation that is over is a turn of its proxy's, and the calls of the turn are those that the
operation made.

**Proof sketch.** The chronicle of an idle proxy has no calls of an unfinished turn. It is followed
from the beginning of the operation through its dialogue to its end, which makes a turn of the
calls. -/
theorem turns_operate (coherent : w.Coherent) (known : w.proxy? p = some proxy)
    (h : operate (perform H bound) H p operation w = .ok (result, w')) :
    (w'.chronicle p).turns = (w.chronicle p).turns ++
      [⟨operation, exchanges (perform H bound) H p operation w, result⟩] := by
  obtain ⟨proxy', state, v, known', idle, hconverse, rfl⟩ := operate_ok h
  obtain rfl : proxy = proxy' := Option.some.inj (known.symm.trans known')
  obtain ⟨nothing, -⟩ := (coherent.agrees p proxy known).idle idle
  have begun : ((w.setProxy p { proxy with busy := true }).record (.began p operation)).proxy? p =
      some { proxy with busy := true } := proxy?_setProxy_self known
  obtain ⟨turns, more⟩ := chronicle_converse begun rfl hconverse
  rw [exchanges_eq known]
  simp [chronicle_record, chronicle_setProxy, turns, more, nothing]

end World

end Standby
