import Standby.Proofs.Deferral
import Standby.Proofs.Proxy.Failure
import Standby.Proofs.World.Heedless
set_option autoImplicit false

/-!
# What a resolution sees

A proxy whose resolver is the ambient one finds its type in the catalog that is current on the
thread that resolves it, at that moment, and nowhere else. What was current before, and on which
threads all other calls were made, leaves no trace.

## Main definitions

* `Standby.World.LooksUp` — what becomes of a resolution, by what is current.
* `Standby.Step`, `Standby.Activity.steps` — what a client does apart from changing what is current,
  on whatever threads.
* `Standby.Step.Matches`, `Standby.Step.Similar` — two steps do the same thing, and the same comes
  of them.

## Main results

* `Standby.World.looksUp_of_ambient` — a resolution looks up what is current.
* `Standby.World.steps_similar` — two clients that take the same steps see the same.
* `Standby.World.resolution_sees_current` — both, where the code around the library does not heed
  what is current.

## Design

Two clients may differ in when they enter and leave catalogs and in which threads they start, so
they are not compared as programs. What they have in common is the list of their steps, in which
threads and what is current do not occur. Each step starts, but for what is current, in the world
that the one before it leaves.
-/

namespace Standby

variable {σ : Type} {H : Host σ}

/-! ## Looking up -/

namespace Proxy

variable {name : String} {type : TypeHandle} {s : State} {es : List Exchange} {o : Outcome}

/-- An attempt does not fail for want of a type. -/
private lemma LaunchPath.ne_notFound {product : Product} (h : LaunchPath name type product s es o)
    (e : NotFound) : o.1 ≠ .error (.notFound e) := by
  cases h <;> simp [failed, mismatch]

/-- An attempt to start what is resolved does not look the name up, so it never fails because the
name is not found. -/
lemma AttemptPath.ne_notFound (h : AttemptPath name type s es o) (e : NotFound) :
    o.1 ≠ .error (.notFound e) := by
  cases h with
  | held _ launched | built _ launched => exact launched.ne_notFound e
  | unbuilt _ _ | unfit _ _ => simp [failed, mismatch]

end Proxy

namespace World

variable {w w' : World σ} {p : ProxyId} {proxy : Proxy} {bound : Nat}

/-- The world in which the journal tells of the beginning of a resolution, up to the answer of the
resolver. -/
def answered (w : World σ) (p : ProxyId) (name : String) (answer : Except NotFound TypeHandle) :
    World σ :=
  ((w.record (.began p .resolve)).record (.asked p (.resolve name))).record
    (.answered p ⟨.resolve name, answer⟩)

/-- The world in which it tells of a resolution that did not find the name. -/
def missed (w : World σ) (p : ProxyId) (name : String) (e : NotFound) : World σ :=
  (w.answered p name (.error e)).record (.ended p .resolve (.error (.notFound e)))

/-- What becomes of a resolution of an idle proxy in the world `w`. Nothing but what is current
there decides on it. -/
structure LooksUp (H : Host σ) (bound : Nat) (w : World σ) (p : ProxyId)
    (proxy : Proxy) : Prop where
  /-- It is over at once, or goes on, with what is looked up. -/
  exact : perform H (bound + 1) (.operate p .resolve) w =
    conclude (perform H bound) H p proxy .resolve
      (Proxy.found proxy.name proxy.state.startRequested (Context.resolve w.context proxy.name))
      ((w.answered p proxy.name (Context.resolve w.context proxy.name)).setProxy p
        { proxy with busy := true })
  /-- It fails for want of a catalog exactly if none is current. -/
  noContext : (∃ name w', perform H (bound + 1) (.operate p .resolve) w =
    .ok (.error (.notFound (.noContext name)), w')) ↔ w.context = none
  /-- Where nothing is current it returns this failure, and nothing has changed. -/
  bare : w.context = none → perform H (bound + 1) (.operate p .resolve) w =
    .ok (.error (.notFound (.noContext proxy.name)), w.missed p proxy.name (.noContext proxy.name))
  /-- Where the current catalog does not hold the name it says so, and nothing has changed. -/
  unknown : ∀ c, w.context = some c → c.value.lookup proxy.name = none →
    perform H (bound + 1) (.operate p .resolve) w =
      .ok (.error (.notFound (.unknown proxy.name)), w.missed p proxy.name (.unknown proxy.name))
  /-- What the current catalog holds becomes the type of the proxy. -/
  found : ∀ c type, w.context = some c → c.value.lookup proxy.name = some type → ∀ result w',
    perform H (bound + 1) (.operate p .resolve) w = .ok (result, w') →
    (∃ state, w'.proxy? p = some { proxy with state } ∧ state.type = some type) ∧
      ∀ e, result ≠ .error (.notFound e)

/-- The ambient resolver answers with what is current. -/
lemma serve_ambient (bound : Nat) (factory : Factory) (name : String) (w : World σ) :
    (H.serve .ambient factory (.resolve name)).run (perform H bound) w =
      .ok (Context.resolve w.context name, w) := by
  have current : perform H bound .current w = .ok (w.context, w) := by cases bound <;> rfl
  exact Activity.run_call current

/-- What is left of an operation that is over, of which a dialogue was left. -/
private lemma conclude_ok {perform : Activity.Performance σ} {operation : Proxy.Operation}
    {t : Talk Proxy.Outcome} {result : Except ProxyError Unit}
    (h : conclude perform H p proxy operation t w = .ok (result, w')) :
    ∃ state v, converse perform H p proxy.resolver proxy.factory t w = .ok ((result, state), v) ∧
      w' = v.disguised p { proxy with state } (.ended p operation result :: v.journal) := by
  rw [conclude] at h
  split at h
  · cases h
  next result' state v talked =>
    obtain ⟨rfl, rfl⟩ := Prod.mk.inj (Except.ok.inj h)
    exact ⟨state, v, talked, rfl⟩

/-- A proxy that is known in disguise is the one that it is disguised as. -/
private lemma eq_of_disguised {x other : Proxy} {j : List Event}
    (h : (w.disguised p other j).proxy? p = some x) : x = other := by
  obtain ⟨inside, rfl⟩ := List.getElem?_eq_some_iff.mp h
  exact List.getElem_set_self inside

/-- What follows on a name that was found: the type becomes known, and no more failures to find one
are reported. -/
private lemma found_path {name : String} {requested : Bool} {type : TypeHandle} {es : List Exchange}
    {o : Proxy.Outcome} (path : Dialogue.Path (Proxy.found name requested (.ok type)) es o) :
    o.2.type = some type ∧ ∀ e, o.1 ≠ .error (.notFound e) := by
  rw [Proxy.found] at path
  split at path
  · have tried := Proxy.path_attempt_iff.mp path
    exact ⟨tried.type_eq, tried.ne_notFound⟩
  · cases path
    exact ⟨rfl, by simp⟩

/-- **A resolution looks up what is current.**

**Proof sketch.** The resolution is rewritten to what comes after its look-up, since looking up runs
no code of a collaborator's. If nothing is found it is over, and all that is left of it are its
events. If something is found, the path of what comes after it has the type in its last state, and
fails for other reasons at most. -/
theorem looksUp_of_ambient (H : Host σ) (bound : Nat) (known : w.proxy? p = some proxy)
    (idle : proxy.busy = false) (unknown : proxy.state = .waiting proxy.state.startRequested)
    (ambient : proxy.resolver = .ambient) : LooksUp H bound w p proxy := by
  have exact : perform H (bound + 1) (.operate p .resolve) w =
      conclude (perform H bound) H p proxy .resolve
        (Proxy.found proxy.name proxy.state.startRequested (Context.resolve w.context proxy.name))
        ((w.answered p proxy.name (Context.resolve w.context proxy.name)).setProxy p
          { proxy with busy := true }) := by
    have served := serve_ambient (H := H) bound proxy.factory proxy.name
      ((w.disguised p { proxy with busy := true } (.began p .resolve :: w.journal)).record
        (.asked p (.resolve proxy.name)))
    rw [← ambient] at served
    have talk : Proxy.Operation.resolve.talk proxy.name proxy.state =
        .ask (.resolve proxy.name) (Proxy.found proxy.name proxy.state.startRequested) := by
      rw [congrArg (Proxy.Operation.resolve.talk proxy.name) unknown, Proxy.talk_resolve_waiting]
    change operate (perform H bound) H p .resolve w = _
    rw [operate_eq_conclude known idle, talk]
    exact conclude_ask served
  have missing : ∀ e, Context.resolve w.context proxy.name = .error e →
      perform H (bound + 1) (.operate p .resolve) w =
        .ok (.error (.notFound e), w.missed p proxy.name e) := by
    intro e missing
    have same : ({ proxy with state := .waiting proxy.state.startRequested } : Proxy) = proxy := by
      rw [← unknown]
    have restored := disguised_self (w := w.missed p proxy.name e) known
    rw [exact, missing, Proxy.found, conclude_done, same, ← restored]
    simp only [missed, disguised, setProxy, record, answered, List.set_set]
    rfl
  have found : ∀ type, Context.resolve w.context proxy.name = .ok type → ∀ result w',
      perform H (bound + 1) (.operate p .resolve) w = .ok (result, w') →
      (∃ state, w'.proxy? p = some { proxy with state } ∧ state.type = some type) ∧
        ∀ e, result ≠ .error (.notFound e) := by
    intro type hit result w' h
    obtain ⟨left, there, -⟩ := operate_path known h
    rw [exact, hit] at h
    obtain ⟨state, v, talked, rfl⟩ := conclude_ok h
    obtain ⟨typed, honest⟩ := found_path (converse_path talked)
    obtain rfl : left = state := congrArg Proxy.state (eq_of_disguised there)
    exact ⟨⟨left, there, typed⟩, honest⟩
  refine {
    exact := exact
    noContext := ⟨?_, fun none => ⟨_, _, missing _ (by rw [none]; rfl)⟩⟩
    bare := fun none => missing _ (by rw [none]; rfl)
    unknown := fun c current none =>
      missing _ (by simp [current, Context.resolve, Catalog.resolve, none])
    found := fun c type current hit =>
      found type (by simp [current, Context.resolve, Catalog.resolve, hit]) }
  rintro ⟨name, w', failed⟩
  cases looked : Context.resolve w.context proxy.name with
  | ok type => exact absurd rfl ((found type looked _ w' failed).2 _)
  | error e =>
    cases (Prod.mk.inj (Except.ok.inj (failed.symm.trans (missing e looked)))).1
    cases current : w.context with
    | none => rfl
    | some c =>
      rw [current, Context.resolve, Catalog.resolve] at looked
      split at looked <;> cases looked

end World

/-! ## Steps -/

/-- What a client does apart from reading and changing what is current: it replaces its state, or
calls the library. -/
inductive Deed (σ : Type) where
  | put (s : σ)
  | call (c : Call) (heedless : c.Heedless)
  deriving DecidableEq

/-- What a client does, and the world in which it does so. -/
structure Step (σ : Type) where
  deed : Deed σ
  before : World σ

/-- Whether a call is heedless can be read off its constructor. -/
instance : DecidablePred Call.Heedless := fun c =>
  match c with
  | .enter _ | .leave _ | .current => isFalse id
  | .establish _ _ | .obtain _ _ | .entries _ | .operate _ _ | .nameOf _ | .observe _ | .reset _
  | .install _ | .installed | .construct _ => isTrue trivial

/-- The steps of an activity, in order, on whatever threads they are taken.

A call that enters or leaves a catalog or asks what is current is no step, and neither is the
beginning of a thread. Each step goes with the world in which it was taken, so that two clients can
be compared step by step. -/
def Activity.steps (perform : Activity.Performance σ) :
    {α : Type} → Activity σ α → World σ → List (Step σ)
  | _, done _, _ => []
  | _, get next, w => (next w.host).steps perform w
  | _, put s next, w => ⟨.put s, w⟩ :: next.steps perform { w with host := s }
  | _, call c next, w =>
    (if heedless : c.Heedless then [⟨.call c heedless, w⟩] else []) ++
      match perform c w with
      | .error _ => []
      | .ok (answer, w) => (next answer).steps perform w
  | _, thread body next, w =>
    body.steps perform { w with context := none } ++
      match body.run perform { w with context := none } with
      | .error _ => []
      | .ok (b, w') => (next b).steps perform { w' with context := w.context }

/-- What comes of it: the answer of the library if it was called, and the world that is left. -/
def Deed.outcome (perform : Activity.Performance σ) :
    Deed σ → World σ → Except Halt (Option Made × World σ)
  | put s, w => .ok (none, { w with host := s })
  | call c _, w => (perform c w).map fun o => (some ⟨c, o.1⟩, o.2)

namespace World

/-- The worlds are the same but for what is current. -/
def Similar (w v : World σ) : Prop := w.under none = v.under none

end World

namespace Step

variable (H : Host σ) (bound : Nat)

/-- On account of the step, and on the thread that takes it, a proxy whose type is unknown is
resolved. -/
def Consults (s : Step σ) : Prop :=
  ∃ c heedless, s.deed = .call c heedless ∧ World.Consults H bound c s.before

/-- What comes of the step. -/
def outcome (s : Step σ) : Except Halt (Option Made × World σ) :=
  s.deed.outcome (World.perform H bound) s.before

/-- The steps do the same, and if a proxy whose type is unknown is resolved on account of it, then
the same is current. -/
structure Matches (s t : Step σ) : Prop where
  deed : s.deed = t.deed
  context : s.Consults H bound → s.before.context = t.before.context

/-- The same comes of the steps, and they are taken in worlds that are the same but for what is
current: the same answer, or the same halt, and the same proxies, registries and journal. -/
structure Similar (s t : Step σ) : Prop where
  before : s.before.Similar t.before
  outcome : World.outcomeUnder none (s.outcome H bound) =
    World.outcomeUnder none (t.outcome H bound)

end Step

namespace World

variable {w w' v v' : World σ} {bound : Nat}

/-- Likeness goes on from one world to the next. -/
private lemma Similar.trans {u : World σ} (h : u.Similar v) (h' : v.Similar w) : u.Similar w :=
  Eq.trans h h'

/-- Worlds that are alike differ in what is current only. -/
private lemma Similar.eq_under (h : w.Similar v) : v = w.under v.context := by
  have same : (v.under none).under v.context = (w.under none).under v.context :=
    congrArg (·.under v.context) h.symm
  exact same

/-- Of the same deed the same comes in worlds that are alike, if nothing consults what is current or
the same is current.

**Proof sketch.** The two worlds differ in what is current at most. A deed that consults it finds
the same by assumption, and so the worlds are equal. A deed that does not consult it is moved to the
other world by `perform_under`. -/
private lemma outcome_similar (heedless : H.Heedless) {s t : Step σ} (same : s.Matches H bound t)
    (similar : s.before.Similar t.before) :
    outcomeUnder none (s.outcome H bound) = outcomeUnder none (t.outcome H bound) := by
  obtain ⟨deed, w⟩ := s
  obtain ⟨deed', v⟩ := t
  obtain ⟨rfl, context⟩ := same
  have shape : v = w.under v.context := similar.eq_under
  cases deed with
  | put s => exact congrArg (fun u : World σ => Except.ok (none, { u with host := s })) similar
  | call c plain =>
    by_cases consults : Consults H bound c w
    · have same : w.context = v.context := context ⟨c, plain, rfl, consults⟩
      obtain rfl : v = w := shape.trans (congrArg w.under same.symm)
      rfl
    · have moved := perform_under v.context heedless plain consults
      rw [← shape] at moved
      simp only [Step.outcome, Deed.outcome, moved]
      cases perform H bound c w <;> rfl

/-- `w` leads along the steps to an end: each step is taken, but for what is current, in the world
that the one before it leaves, and the last one halts or leaves the world at the end. -/
inductive Traverses (H : Host σ) (bound : Nat) :
    World σ → List (Step σ) → Except Halt (World σ) → Prop
  | ended {w v : World σ} (similar : w.Similar v) : Traverses H bound w [] (.ok v)
  | halted {w : World σ} {s : Step σ} {halt : Halt} (similar : w.Similar s.before)
    (stuck : s.outcome H bound = .error halt) : Traverses H bound w [s] (.error halt)
  | step {w v : World σ} {s : Step σ} {rest : List (Step σ)} {ending : Except Halt (World σ)}
    {answer : Option Made} (similar : w.Similar s.before)
    (taken : s.outcome H bound = .ok (answer, v))
    (later : Traverses H bound v rest ending) : Traverses H bound w (s :: rest) ending

namespace Traverses

variable {first later : List (Step σ)} {ending : Except Halt (World σ)}

/-- What is current at the beginning does not matter. -/
private lemma of_similar (h : Traverses H bound v later ending) (similar : w.Similar v) :
    Traverses H bound w later ending := by
  cases h with
  | ended similar' => exact .ended (similar.trans similar')
  | halted similar' stuck => exact .halted (similar.trans similar') stuck
  | step similar' taken later => exact .step (similar.trans similar') taken later

/-- Steps after others. -/
private lemma append (h : Traverses H bound w first (.ok v))
    (h' : Traverses H bound v later ending) : Traverses H bound w (first ++ later) ending := by
  generalize hend : (Except.ok v : Except Halt (World σ)) = middle at h
  induction h with
  | ended similar =>
    cases hend
    exact h'.of_similar similar
  | halted _ _ => cases hend
  | step similar taken _ ih => exact .step similar taken (ih hend)

/-- After a halt there are no more steps. -/
private lemma append_nil {halt : Halt} (h : Traverses H bound w first (.error halt)) :
    Traverses H bound w (first ++ []) (.error halt) := by
  rwa [List.append_nil]

end Traverses

/-- A call that is about what is current returns, and changes nothing else. -/
private lemma similar_of_not_heedless {c : Call} (about : ¬ c.Heedless) (H : Host σ) (bound : Nat)
    (w : World σ) : ∃ answer v, perform H bound c w = .ok (answer, v) ∧ w.Similar v := by
  cases c with
  | enter _ | leave _ | current => cases bound <;> exact ⟨_, _, rfl, rfl⟩
  | establish _ _ | obtain _ _ | entries _ | operate _ _ | nameOf _ | observe _ | reset _
  | install _ | installed | construct _ => exact absurd trivial about

/-- The steps of an activity lead from its world to its end.

**Proof sketch.** Induction on the activity. Entering, leaving and asking what is current are no
steps, but they leave a world that is alike; so does the beginning and the end of a thread. -/
private lemma traverses_steps {α : Type} (a : Activity σ α) (H : Host σ) (bound : Nat)
    (w : World σ) :
    Traverses H bound w (a.steps (perform H bound) w) ((a.perform H bound w).map Prod.snd) := by
  unfold Activity.perform
  induction a generalizing w with
  | done a => exact .ended rfl
  | get next ih => exact ih w.host w
  | put s next ih => exact .step (s := ⟨.put s, w⟩) rfl rfl (ih { w with host := s })
  | call c next ih =>
    rw [Activity.steps, Activity.run]
    by_cases plain : c.Heedless
    · rw [dif_pos plain]
      cases hcall : perform H bound c w with
      | error halt =>
        have stuck : Step.outcome H bound ⟨.call c plain, w⟩ = .error halt := by
          rw [Step.outcome, Deed.outcome, hcall]
          rfl
        exact .halted rfl stuck
      | ok outcome =>
        have taken : Step.outcome H bound ⟨.call c plain, w⟩ =
            .ok (some ⟨c, outcome.1⟩, outcome.2) := by
          rw [Step.outcome, Deed.outcome, hcall]
          rfl
        exact .step rfl taken (ih outcome.1 outcome.2)
    · rw [dif_neg plain]
      obtain ⟨answer, v, hcall, similar⟩ := similar_of_not_heedless plain H bound w
      rw [hcall]
      exact (ih answer v).of_similar similar
  | thread body next ihBody ihNext =>
    have during := ihBody { w with context := none }
    have begun : w.Similar { w with context := none } := rfl
    rw [Activity.steps, Activity.run]
    cases hbody : body.run (perform H bound) { w with context := none } with
    | error halt =>
      rw [hbody] at during
      exact during.append_nil.of_similar begun
    | ok outcome =>
      rw [hbody] at during
      have after := ihNext outcome.1 { outcome.2 with context := w.context }
      have joined : outcome.2.Similar { outcome.2 with context := w.context } := rfl
      exact (during.append (after.of_similar joined)).of_similar begun

/-- Of steps that match the same comes, one by one, and they lead to the same end.

**Proof sketch.** Induction on the steps: the worlds before them are alike, so the same comes of
them, and they leave worlds that are alike. -/
private lemma Traverses.similar (heedless : H.Heedless) {ss ts : List (Step σ)}
    {ending ending' : Except Halt (World σ)} (h : Traverses H bound w ss ending)
    (h' : Traverses H bound v ts ending') (similar : w.Similar v)
    (same : List.Forall₂ (Step.Matches H bound) ss ts) :
    List.Forall₂ (Step.Similar H bound) ss ts ∧
      ending.map (under · none) = ending'.map (under · none) := by
  induction h generalizing v ts ending' with
  | ended here =>
    cases same
    cases h' with
    | ended there => exact ⟨.nil, congrArg Except.ok (here.symm.trans (similar.trans there))⟩
  | halted here stuck =>
    cases same with
    | cons first rest =>
      cases rest
      cases h' with
      | halted there stuck' =>
        have before := here.symm.trans (similar.trans there)
        have outcome := outcome_similar heedless first before
        refine ⟨.cons ⟨before, outcome⟩ .nil, ?_⟩
        rw [stuck, stuck'] at outcome
        cases outcome
        rfl
      | step there taken _ =>
        have outcome := outcome_similar heedless first (here.symm.trans (similar.trans there))
        rw [stuck, taken] at outcome
        cases outcome
  | step here taken _ ih =>
    cases same with
    | cons first rest =>
      cases h' with
      | halted there stuck' =>
        have outcome := outcome_similar heedless first (here.symm.trans (similar.trans there))
        rw [taken, stuck'] at outcome
        cases outcome
      | step there taken' later =>
        have before := here.symm.trans (similar.trans there)
        have outcome := outcome_similar heedless first before
        have left := outcome
        rw [taken, taken'] at left
        obtain ⟨others, ends⟩ := ih later (Prod.mk.inj (Except.ok.inj left)).2 rest
        exact ⟨.cons ⟨before, outcome⟩ others, ends⟩

/-- **Clients that take the same steps see the same.** If two clients do the same from worlds that
are the same but for what is current, and the same is current wherever a proxy whose type is unknown
is resolved, then the same comes of each step, and the runs end alike. -/
theorem steps_similar (heedless : H.Heedless) {α β : Type} {a : Activity σ α} {b : Activity σ β}
    (similar : w.Similar v)
    (same : List.Forall₂ (Step.Matches H bound) (a.steps (perform H bound) w)
      (b.steps (perform H bound) v)) :
    List.Forall₂ (Step.Similar H bound) (a.steps (perform H bound) w)
      (b.steps (perform H bound) v) ∧
      (a.perform H bound w).map (·.2.under none) = (b.perform H bound v).map (·.2.under none) := by
  obtain ⟨steps, ends⟩ :=
    (traverses_steps a H bound w).similar heedless (traverses_steps b H bound v) similar same
  refine ⟨steps, ?_⟩
  cases ha : a.perform H bound w <;> cases hb : b.perform H bound v <;> rw [ha, hb] at ends <;>
    exact ends

/-- **What a resolution sees.** Where the code around the library does not heed what is current, a
resolution of a proxy whose type is unknown and whose resolver is the ambient one looks up what is
current on its thread at that moment; and two clients whose calls are the same, on whatever threads,
and who differ in what is current except where a proxy whose type is unknown is resolved, get the
same answers and leave the same proxies, registries and journal, call by call. -/
theorem resolution_sees_current (heedless : H.Heedless) (bound : Nat) :
    (∀ {w p proxy}, Reachable H w → w.proxy? p = some proxy → proxy.busy = false →
      proxy.state.type = none → proxy.resolver = .ambient → LooksUp H bound w p proxy) ∧
    ∀ {α β : Type} (a : Activity σ α) (b : Activity σ β) (w v : World σ), w.Similar v →
      List.Forall₂ (Step.Matches H bound) (a.steps (perform H bound) w)
        (b.steps (perform H bound) v) →
      List.Forall₂ (Step.Similar H bound) (a.steps (perform H bound) w)
          (b.steps (perform H bound) v) ∧
        (a.perform H bound w).map (·.2.under none) =
          (b.perform H bound v).map (·.2.under none) := by
  refine ⟨fun reachable known idle unknown ambient => ?_, fun a b w v similar same =>
    steps_similar heedless similar same⟩
  exact looksUp_of_ambient H bound known idle ((reachable.run known).sound.eq_waiting unknown)
    ambient

end World

/-! ## Two ways to the same component -/

/-- A catalog that holds a type. -/
def harbour : Shared Catalog := ⟨1, Catalog.empty.withType ⟨0, ⟨"a", ⟨0⟩⟩⟩⟩

/-- A catalog that holds none. -/
def desert : Shared Catalog := ⟨2, .empty⟩

/-- Code that does not heed what is current. -/
def calm : Host Nat := Host.counting (fun _ => .ok ()) fun _ => pure ()

/-- A client that enters a catalog to resolve a name, and only for that. -/
def straight : Activity Nat (Except ProxyError Unit) := do
  let r ← Activity.establish .ambient (.custom 0)
  let p ← Activity.obtain r "a"
  let _ ← Activity.operate p .start
  Activity.scope harbour (Activity.operate p .resolve)

/-- A client that has the registry made on another thread, and registers and starts the component
while another catalog is current. -/
def roundabout : Activity Nat (Except ProxyError Unit) := do
  let r ← Activity.onThread (Activity.scope desert (Activity.establish .ambient (.custom 0)))
  let outer ← Activity.enter desert
  let p ← Activity.obtain r "a"
  let _ ← Activity.operate p .start
  let _ ← Activity.enter harbour
  let result ← Activity.operate p .resolve
  Activity.leave outer
  pure result

/-- The calm host does not heed what is current. -/
private lemma calm_heedless : calm.Heedless where
  create _ _ := fun _ => trivial
  construct _ := fun _ => trivial
  capability _ := trivial
  start _ := trivial
  stop _ := trivial

/-- The step runs no code of a collaborator's: it is a call that never does, or a request for a
proxy whose type is unknown and that holds no product. -/
def Step.isQuiet (s : Step σ) : Bool :=
  match s.deed with
  | .put _ => true
  | .call (.operate p operation) _ =>
    (s.before.proxy? p).all fun proxy =>
      operation != .resolve && proxy.state.type.isNone && proxy.state.product.isNone
  | .call c _ =>
    match c with
    | .reset _ | .construct _ => false
    | _ => true

/-- Such a step consults nothing.

**Proof sketch.** By cases on the call. Only an operation can look at what is current, and a quiet
one is a start of what is not resolved or a stop of what is not held. Its dialogue ends at once,
without a question. -/
private lemma Step.not_consults {s : Step σ} (quiet : s.isQuiet) (H : Host σ) (bound : Nat) :
    ¬ s.Consults H bound := by
  rintro ⟨c, heedless, called, consults⟩
  cases c with
  | operate p operation =>
    cases bound with
    | zero => exact consults.elim
    | succ bound =>
      obtain ⟨proxy, known, -, asks⟩ := consults
      obtain ⟨⟨early, unknown⟩, empty⟩ : (operation ≠ .resolve ∧ proxy.state.type = none) ∧
          proxy.state.product = none := by
        simpa [isQuiet, called, known] using quiet
      have finished : ∃ o, operation.talk proxy.name proxy.state = .done o := by
        cases operation with
        | start => exact ⟨_, by rw [Proxy.Operation.talk, Proxy.start]; simp only [unknown]; rfl⟩
        | stop => exact ⟨_, by rw [Proxy.Operation.talk, Proxy.stop]; simp only [empty]; rfl⟩
        | resolve => exact absurd rfl early
      obtain ⟨o, finished⟩ := finished
      rw [finished] at asks
      rcases asks with ⟨resolves, -⟩ | asks
      · exact early resolves
      · cases asks
  | reset _ | construct _ => simp [isQuiet, called] at quiet
  | establish _ _ | obtain _ _ | entries _ | nameOf _ | observe _ | install _ | installed
  | enter _ | leave _ | current => cases bound <;> exact consults.elim

/-- Steps that do the same match if the same is current wherever they are not quiet.

**Proof sketch.** The deeds agree in each place. In a place where what is current differs the step
is quiet, and a quiet step consults nothing. -/
private lemma Step.forall_matches {ss ts : List (Step σ)} (deeds : ss.map deed = ts.map deed)
    (current : ∀ x ∈ ss.zip ts, x.1.isQuiet ∨ x.1.before.context = x.2.before.context) (H : Host σ)
    (bound : Nat) : List.Forall₂ (Step.Matches H bound) ss ts := by
  have length : ss.length = ts.length := by simpa using congrArg List.length deeds
  have same : List.Forall₂ (fun s t : Step σ => s.deed = t.deed) ss ts := by
    have mapped : List.Forall₂ (· = ·) (ss.map deed) (ts.map deed) := by
      rw [List.forall₂_eq_eq_eq]
      exact deeds
    exact List.forall₂_map_left_iff.mp (List.forall₂_map_right_iff.mp mapped)
  refine List.forall₂_iff_zip.mpr ⟨length, fun {s t} mem => ?_⟩
  refine ⟨(List.forall₂_iff_zip.mp same).2 mem, fun consults => ?_⟩
  exact (current _ mem).resolve_left fun quiet => not_consults quiet H bound consults

/-- A client that requests a start and then finds itself in the desert. -/
def stranded : Activity Nat Unit := do
  let r ← Activity.establish .ambient (.custom 0)
  let p ← Activity.obtain r "a"
  let _ ← Activity.operate p .start
  let _ ← Activity.enter desert

/-- A resolution in the desert finds nothing, wherever the start was requested. And the same comes
of each step of the two clients, although the same is current only when the name is resolved. -/
theorem resolution_sees_current_roundabout :
    let ss := straight.steps (World.perform calm 1) { host := 0 }
    let ts := roundabout.steps (World.perform calm 1) { host := 0 }
    (∃ w proxy, stranded.perform calm 1 { host := 0 } = .ok ((), w) ∧
      World.LooksUp calm 0 w ⟨0⟩ proxy ∧ World.perform calm 1 (.operate ⟨0⟩ .resolve) w =
        .ok (.error (.notFound (.unknown "a")), w.missed ⟨0⟩ "a" (.unknown "a"))) ∧
    ss.map (·.before.context) = [none, none, none, some harbour] ∧
    ts.map (·.before.context) = [some desert, some desert, some desert, some harbour] ∧
    List.Forall₂ (Step.Similar calm 1) ss ts ∧
    (straight.perform calm 1 { host := 0 }).map (·.2.under none) =
      (roundabout.perform calm 1 { host := 0 }).map (·.2.under none) := by
  intro ss ts
  obtain ⟨w, proxy, ready, known, named, idle, unknown, ambient, there⟩ : ∃ w proxy,
      stranded.perform calm 1 { host := 0 } = .ok ((), w) ∧ w.proxy? ⟨0⟩ = some proxy ∧
      proxy.name = "a" ∧ proxy.busy = false ∧ proxy.state.type = none ∧ proxy.resolver = .ambient ∧
      w.context = some desert :=
    ⟨_, _, rfl, rfl, rfl, rfl, rfl, rfl, rfl⟩
  have looksUp :=
    (World.resolution_sees_current calm_heedless 0).1 (.of_run ready) known idle unknown
    ambient
  have missed := looksUp.unknown desert there rfl
  rw [named] at missed
  have same : List.Forall₂ (Step.Matches calm 1) ss ts :=
    Step.forall_matches (by decide +kernel) (by decide +kernel) calm 1
  obtain ⟨steps, ends⟩ := (World.resolution_sees_current calm_heedless 1).2 straight roundabout
    { host := 0 } { host := 0 } rfl same
  exact ⟨⟨w, proxy, ready, looksUp, missed⟩, by decide +kernel, by decide +kernel, steps, ends⟩

end Standby
