import Standby.Proofs.World.Passage
set_option autoImplicit false

/-!
# Bounds that suffice

Calls are carried out within a bound on nested operations and passes. A call that returns within a
bound does the same within every larger one. An operation therefore returns as soon as the calls
that it makes of its collaborators do, even if each of them takes a bound of its own.

## Main definitions

* `Standby.World.Awaits` — a dialogue makes a call, and the world in which it does.
* `Standby.World.Served` — every call that an operation makes is answered.

## Main results

* `Standby.World.perform_mono` — a larger bound changes nothing.
* `Standby.World.operate_returns` — an operation whose calls are all answered returns.
* `Standby.World.served_of_ok` — all calls of an operation that returns are answered.

## Design

`World.Awaits` goes on after a call in the world that the call leaves, within whichever bound it
returns. Which one it is does not matter, so the worlds in which an operation makes its calls are
those of the operation and not of a bound.
-/

namespace Standby

variable {σ : Type} {H : Host σ}

/-! ## A larger bound -/

section Mono

variable {perform perform' : Activity.Performance σ}
  (more : ∀ {c u x}, perform c u = .ok x → perform' c u = .ok x)
include more

/-- An activity that returns does the same where all calls that return do the same.

**Proof sketch.** Induction on the activity. It returns, so all the calls that it makes on its way
do. -/
lemma Activity.run_mono {α : Type} {a : Activity σ α} {w : World σ} {x : α × World σ}
    (h : a.run perform w = .ok x) : a.run perform' w = .ok x := by
  induction a generalizing w with
  | done a => exact h
  | get next ih => exact ih w.host h
  | put s next ih => exact ih h
  | call c next ih =>
    obtain ⟨answer, v, hcall, h⟩ := Activity.run_call_ok h
    rw [Activity.run_call (more hcall)]
    exact ih answer h
  | thread body next ihBody ihNext =>
    obtain ⟨b, v, hbody, h⟩ := Activity.run_thread_ok h
    rw [Activity.run, ihBody hbody]
    exact ihNext b h

namespace World

/-- A dialogue that comes to its end with one performance of calls does so with every performance
that answers at least as often, and in the same way. -/
lemma converse_mono {p : ProxyId} {resolver : Resolver} {factory : Factory} {α : Type}
    {t : Talk α} {w : World σ} {x : α × World σ}
    (h : converse perform H p resolver factory t w = .ok x) :
    converse perform' H p resolver factory t w = .ok x := by
  induction t generalizing w with
  | done a => exact h
  | ask q next ih =>
    obtain ⟨answer, v, hserve, h⟩ := converse_ask_ok h
    rw [converse, Activity.run_mono more hserve]
    exact ih answer h

/-- The same holds of an operation, which is a dialogue with a beginning and an end. -/
lemma operate_mono {p : ProxyId} {operation : Proxy.Operation} {w : World σ}
    {x : Except ProxyError Unit × World σ} (h : operate perform H p operation w = .ok x) :
    operate perform' H p operation w = .ok x := by
  obtain ⟨result, w'⟩ := x
  obtain ⟨proxy, state, v, known, idle, hconverse, rfl⟩ := operate_ok h
  simp only [operate, known, idle, converse_mono more hconverse, Bool.false_eq_true, if_false]

/-- And of a sweep, which is one stop after the other. -/
lemma sweep_mono {r : RegistryId} {ps : List ProxyId} {w w' : World σ}
    (h : sweep perform H r ps w = .ok w') : sweep perform' H r ps w = .ok w' := by
  induction ps generalizing w with
  | nil => exact h
  | cons p rest ih =>
    obtain ⟨result, v, hstop, h⟩ := sweep_cons_ok h
    rw [sweep, operate_mono more hstop]
    exact ih h

end World

end Mono

namespace World

/-- **A call that returns within a bound does the same within every larger bound.**

**Proof sketch.** Only operations, resets and constructions look at the bound, and what they do
within it is made of calls within a smaller one. -/
theorem perform_mono {bound bound' : Nat} (le : bound ≤ bound') {c : Call} {w : World σ}
    {x : c.Answer × World σ} (h : perform H bound c w = .ok x) : perform H bound' c w = .ok x := by
  induction bound generalizing bound' c w with
  | zero =>
    cases c with
    | operate _ _ | reset _ | construct _ => cases h
    | establish _ _ | obtain _ _ | entries _ | nameOf _ | observe _ | install _ | installed
    | enter _ | leave _ | current => cases bound' <;> exact h
  | succ bound ih =>
    obtain ⟨bound', rfl⟩ : ∃ b, bound' = b + 1 := ⟨bound' - 1, by omega⟩
    have le : bound ≤ bound' := Nat.le_of_succ_le_succ le
    cases c with
    | operate p operation => exact operate_mono (ih le) h
    | construct type => exact Activity.run_mono (ih le) h
    | reset r =>
      obtain ⟨⟨⟩, w'⟩ := x
      obtain ⟨registry, known, ⟨none, rfl⟩ | ⟨some, v, hsweep, h⟩⟩ := perform_reset_ok h
      · simp only [perform, known, none, if_true]
      · simp only [perform, known, some, sweep_mono (ih le) hsweep, Bool.false_eq_true, if_false]
        exact ih le h
    | establish _ _ | obtain _ _ | entries _ | nameOf _ | observe _ | install _ | installed
    | enter _ | leave _ | current => exact h

/-- Any two bounds within which an activity returns give the same. -/
lemma run_unique {bound bound' : Nat} {α : Type} {a : Activity σ α} {w : World σ}
    {x y : α × World σ} (h : a.run (perform H bound) w = .ok x)
    (h' : a.run (perform H bound') w = .ok y) : x = y := by
  have one := Activity.run_mono (perform_mono (Nat.le_max_left bound bound')) h
  have other := Activity.run_mono (perform_mono (Nat.le_max_right bound bound')) h'
  exact Except.ok.inj (one.symm.trans other)

/-! ## The calls of an operation -/

/-- Carried out for the proxy `p` from `w` on, the dialogue makes the call `q`, and it does so in
the world `u`. -/
inductive Awaits (H : Host σ) (p : ProxyId) (resolver : Resolver) (factory : Factory) {α : Type} :
    Talk α → World σ → Request → World σ → Prop
  | now (q : Request) (next : q.Answer → Talk α) (w : World σ) :
    Awaits H p resolver factory (.ask q next) w q (w.record (.asked p q))
  | later {q q' : Request} {next : q.Answer → Talk α} {w v u : World σ} {answer : q.Answer}
    {bound : Nat}
    (served : (H.serve resolver factory q).run (perform H bound) (w.record (.asked p q)) =
      .ok (answer, v))
    (goes : Awaits H p resolver factory (next answer) (v.record (.answered p ⟨q, answer⟩)) q' u) :
    Awaits H p resolver factory (.ask q next) w q' u

/-- An operation on the proxy `p` that is called in `w` makes the call `q` in `u`. -/
def Makes (H : Host σ) (p : ProxyId) (operation : Proxy.Operation) (w : World σ) (q : Request)
    (u : World σ) : Prop :=
  ∃ proxy, w.proxy? p = some proxy ∧
    Awaits H p proxy.resolver proxy.factory (operation.talk proxy.name proxy.state)
      ((w.setProxy p { proxy with busy := true }).record (.began p operation)) q u

/-- Every call that an operation on the proxy `p` makes, called in `w`, is answered within some
bound. -/
def Served (H : Host σ) (p : ProxyId) (operation : Proxy.Operation) (w : World σ) : Prop :=
  ∀ proxy q u, w.proxy? p = some proxy → Makes H p operation w q u →
    ∃ bound answer v,
      (H.serve proxy.resolver proxy.factory q).run (perform H bound) u = .ok (answer, v)

section Calls

variable {p : ProxyId} {resolver : Resolver} {factory : Factory} {w w' : World σ}
  {operation : Proxy.Operation} {proxy : Proxy}

/-- A dialogue whose calls are all answered comes to its end.

**Proof sketch.** Induction on the dialogue. Its first call takes one bound and what follows another
one, so the larger of the two is enough for both. -/
private lemma converse_returns {α : Type} {t : Talk α}
    (served : ∀ q u, Awaits H p resolver factory t w q u → ∃ bound answer v,
      (H.serve resolver factory q).run (perform H bound) u = .ok (answer, v)) :
    ∃ bound x, converse (perform H bound) H p resolver factory t w = .ok x := by
  induction t generalizing w with
  | done a => exact ⟨0, (a, w), rfl⟩
  | ask q next ih =>
    obtain ⟨first, answer, v, hserve⟩ := served q _ (.now q next w)
    obtain ⟨others, x, hrest⟩ := ih answer fun q' u h => served q' u (.later hserve h)
    refine ⟨max first others, x, ?_⟩
    rw [converse, Activity.run_mono (perform_mono (Nat.le_max_left ..)) hserve]
    exact converse_mono (perform_mono (Nat.le_max_right ..)) hrest

/-- **An operation whose calls are all answered returns**, if its proxy is idle. -/
theorem operate_returns (known : w.proxy? p = some proxy) (idle : proxy.busy = false)
    (served : Served H p operation w) :
    ∃ bound result w', operate (perform H bound) H p operation w = .ok (result, w') := by
  obtain ⟨bound, ⟨⟨result, state⟩, v⟩, hconverse⟩ :=
    converse_returns fun q u h => served proxy q u known ⟨proxy, known, h⟩
  refine ⟨bound, result, (v.setProxy p { proxy with state }).record (.ended p operation result), ?_⟩
  simp only [operate, known, idle, hconverse, Bool.false_eq_true, if_false]

/-- A call that a dialogue makes on its way to its end is answered.

**Proof sketch.** Induction on the way to the call. The dialogue comes to its end, so all the
questions on this way are answered, as is the call. -/
private lemma Awaits.served {α : Type} {t : Talk α} {bound : Nat} {x : α × World σ} {q : Request}
    {u : World σ} (h : Awaits H p resolver factory t w q u)
    (ended : converse (perform H bound) H p resolver factory t w = .ok x) :
    ∃ answer v, (H.serve resolver factory q).run (perform H bound) u = .ok (answer, v) := by
  obtain ⟨a, w'⟩ := x
  induction h with
  | now q next w =>
    obtain ⟨answer, v, hserve, -⟩ := converse_ask_ok ended
    exact ⟨answer, v, hserve⟩
  | @later q q' next w v u answer b hserve _ ih =>
    obtain ⟨answer', v', hserve', ended⟩ := converse_ask_ok ended
    obtain ⟨rfl, rfl⟩ := Prod.mk.inj (run_unique hserve hserve')
    exact ih ended

/-- All calls of an operation that returns are answered. -/
theorem served_of_ok {bound : Nat} {result : Except ProxyError Unit}
    (h : operate (perform H bound) H p operation w = .ok (result, w')) :
    Served H p operation w := by
  obtain ⟨proxy, state, v, known, -, hconverse, -⟩ := operate_ok h
  rintro proxy' q u known' ⟨proxy'', known'', awaits⟩
  obtain rfl : proxy = proxy' := Option.some.inj (known.symm.trans known')
  obtain rfl : proxy = proxy'' := Option.some.inj (known.symm.trans known'')
  exact ⟨bound, awaits.served hconverse⟩

end Calls

end World

end Standby
