import Standby.Proofs.Ambient
import Standby.Proofs.World.Unread
set_option autoImplicit false

/-!
# Only the resolution that finds the type matters

A proxy asks its resolver until the type is found, and never again. All other resolutions could as
well not have been called: those that come too early find nothing and leave no trace, and those that
come later have nothing to do.

## Main definitions

* `Standby.Proxy.Turn.Finds` — the turn is the first one that finds the type.
* `Standby.Proxy.Thins` — a history without some of the other resolutions.
* `Standby.Proxy.Settled` — what the resolutions of a history come to.
* `Standby.Host.Inert` — a resolver whose calls have no effect.
* `Standby.World.Executes`, `Standby.World.Thinned` — several errands, and what is left of them
  without some of the resolutions that do not find the type.

## Main results

* `Standby.Proxy.Run.settled` — every history asks for the type until it is found, and it leads to
  the same state without the other resolutions.
* `Standby.World.Thinned.executes` — clients that call fewer resolutions get the same results
  otherwise, and leave the same world.
* `Standby.World.first_success_decides` — both, and that histories are what the chronicles tell.

## Design

A history says what the collaborators answered, whoever they are, so leaving out a turn means that
the others get the same answers. In a world the collaborators are code. There it has to be shown
that they answer the same, which they do because all that is missing is something in the journal.
What a resolver answers may be different each time, without any effect that could be seen in the
world; so each errand is carried out with a host of its own.
-/

namespace Standby

open Dialogue

variable {σ : Type}

/-! ## Histories -/

namespace Proxy

variable {name : String} {type : TypeHandle} {operation : Operation} {s s' : State}
  {es : List Exchange} {o : Outcome} {h h' : List Turn}

/-- The names that the resolver is asked for in a turn. -/
def Turn.lookups (t : Turn) : List String := t.exchanges.filterMap fun e => e.1.lookup?

/-- After the turns `before`, the turn is the first one in which the type is found. -/
def Turn.Finds (before : List Turn) (t : Turn) : Prop :=
  firstType before = none ∧ (firstType [t]).isSome

/-- The turns of `h'` are those of `h` without some resolutions, none of which is the first that
found the type. -/
inductive Thins : List Turn → List Turn → Prop
  | new : Thins [] []
  | keep {h h' : List Turn} (t : Turn) (earlier : Thins h h') : Thins (h ++ [t]) (h' ++ [t])
  | skip {h h' : List Turn} {t : Turn} (earlier : Thins h h') (resolves : t.operation = .resolve)
    (idle : ¬ t.Finds h) : Thins (h ++ [t]) h'

/-- What the resolutions of a history that leads to the state `s` come to.

The three parts say the same in three ways: the resolution that finds the type is the only one that
has an effect. -/
structure Settled (name : String) (h : List Turn) (s : State) : Prop where
  /-- A resolution asks for the type, once, as long as it was not found; a start and a stop never
  do. -/
  asks : ∀ before t after, h = before ++ t :: after →
    t.lookups = if t.operation = .resolve ∧ firstType before = none then [name] else []
  /-- Once the type was found resolutions make no call and give no failure. -/
  succeeds : ∀ before t after, h = before ++ t :: after → t.operation = .resolve →
    (firstType before).isSome → t.exchanges = [] ∧ t.result = .ok ()
  /-- All other resolutions can be left out. The turns that are left are the same turns, with the
  same calls, answers and results, and they lead to the same state. -/
  thins : ∀ h', Thins h h' → Run name h' s

/-- An attempt does not ask for the type. -/
private lemma AttemptPath.lookups (tried : AttemptPath name type s es o) :
    es.filterMap (fun e => e.1.lookup?) = [] := by
  rw [List.filterMap_eq_nil_iff]
  rintro ⟨q, answer⟩ he
  cases q with
  | resolve name => exact absurd rfl (tried.calls.2 _ he name)
  | create _ | capability _ | start _ | stop _ => rfl

namespace OperationPath

/-- An operation asks for the type, once, if it is a resolution and the type is unknown. -/
private lemma asks (path : OperationPath name operation s es o) :
    es.filterMap (fun e => e.1.lookup?) =
    if operation = .resolve ∧ s.type = none then [name] else [] := by
  cases path with
  | deferred | nothingHeld | unstoppable | stopFailed | stopped => simp [Request.lookup?]
  | start _ tried => simpa using tried.lookups
  | known hs => simp [hs]
  | missing _ hs | found _ hs _ => simp [hs, Request.lookup?]
  | foundPending hs _ tried =>
    rw [List.filterMap_cons, tried.lookups]
    simp [hs, Request.lookup?]

/-- Where the type is known a resolution has nothing to do. -/
lemma of_known {r : Except ProxyError Unit} (path : OperationPath name .resolve s es (r, s'))
    (known : s.type.isSome) : es = [] ∧ r = .ok () ∧ s' = s := by
  cases path with
  | known => exact ⟨rfl, rfl, rfl⟩
  | missing _ hs | found _ hs _ | foundPending hs _ _ => simp [hs] at known

/-- A resolution leaves the state as it is and calls nobody but the resolver, or it finds the
type. -/
private lemma eq_or_finds {r : Except ProxyError Unit}
    (path : OperationPath name .resolve s es (r, s')) :
    (s' = s ∧ ∀ e ∈ es, e.1.IsResolve) ∨ s.type = none ∧ s'.type.isSome := by
  cases path with
  | known | missing => exact .inl ⟨rfl, by simp [Request.IsResolve]⟩
  | found _ hs _ => exact .inr ⟨hs, rfl⟩
  | foundPending hs _ tried => exact .inr ⟨hs, by simpa using congrArg Option.isSome tried.type_eq⟩

end OperationPath

namespace Run

/-- Without resolutions that do not find the type a history leads to the same state.

**Proof sketch.** Induction on the history, last turn first. A resolution that is left out led from
a state to the same one. -/
private lemma thins (run : Run name h s) (thins : Thins h h') : Run name h' s := by
  induction thins generalizing s with
  | new => exact run
  | keep t _ ih =>
    obtain ⟨u, run, path⟩ := run.last
    exact .turn (ih run) (path_talk_iff.2 path)
  | @skip h h' t _ resolves idle ih =>
    obtain ⟨u, run, path⟩ := run.last
    rw [resolves] at path
    rcases path.eq_or_finds with ⟨rfl, -⟩ | ⟨unknown, found⟩
    · exact ih run
    · have before : firstType h = none := run.determined.type.symm.trans unknown
      have here := path.type_eq
      rw [unknown, Option.none_or] at here
      have finds : (firstType [t]).isSome := by simpa [firstType, ← here] using found
      exact absurd ⟨before, finds⟩ idle

/-- **What the resolutions of a history come to.** The resolver is asked by each resolution up to
the one that finds the type, and never again, and that resolution is the only one that matters.

**Proof sketch.** The run is split at the turn in question. What came before it determines the type,
and with the type the way of the resolution. -/
theorem settled (run : Run name h s) : Settled name h s where
  asks before t after split := by
    obtain ⟨u, u', earlier, path⟩ := run.split split
    rw [← earlier.determined.type]
    exact path.asks
  succeeds before t after split resolves found := by
    obtain ⟨u, u', earlier, path⟩ := run.split split
    rw [resolves] at path
    rw [← earlier.determined.type] at found
    obtain ⟨silent, fine, -⟩ := path.of_known found
    exact ⟨silent, fine⟩
  thins h' := run.thins

end Run

end Proxy

/-! ## Resolvers without effect -/

/-- Whenever the resolver answers it leaves the world as it found it. -/
def Host.Inert (H : Host σ) (resolver : Resolver) : Prop :=
  ∀ bound name w answer v,
    (H.resolveWith resolver name).run (World.perform H bound) w = .ok (answer, v) → v = w

/-- What is current, and a catalog of its own, have no effect when they are asked. -/
private lemma Host.inert_of_not_custom {resolver : Resolver}
    (own : ∀ reference, resolver ≠ .custom reference) (H : Host σ) : H.Inert resolver := by
  intro bound name w answer v h
  cases resolver with
  | ambient =>
    have served := World.serve_ambient (H := H) bound .direct name w
    exact (World.world_eq_of_ok (served.symm.trans h)).symm
  | catalog c => exact (World.world_eq_of_ok h).symm
  | custom reference => exact absurd rfl (own reference)

/-- The event is part of a resolution of the proxy `p`: its beginning or its end, or a call of the
resolver. -/
def Event.ofResolution (p : ProxyId) : Event → Bool
  | .began q .resolve | .asked q (.resolve _) | .answered q ⟨.resolve _, _⟩ | .ended q .resolve _ =>
    decide (q = p)
  | _ => false

/-- An activity that is carried out with a host, and what it results in. -/
structure Errand (σ : Type) where
  host : Host σ
  deed : Activity σ (Except ProxyError Unit)
  result : Except ProxyError Unit

namespace World

variable {H : Host σ} {w u v : World σ} {p : ProxyId} {proxy : Proxy} {bound : Nat}
  {es es' : List (Errand σ)}

/-- The type of a proxy, as far as it is known. -/
def typeOf (w : World σ) (p : ProxyId) : Option TypeHandle :=
  (w.proxy? p).bind fun proxy => proxy.state.type

/-- On the way from `w` to `v` the type of the proxy was found. -/
def Finds (p : ProxyId) (w v : World σ) : Prop := w.typeOf p = none ∧ (v.typeOf p).isSome

/-- Whether a proxy found its type between two worlds can be found out by comparing its states. -/
instance : Decidable (Finds p w v) := inferInstanceAs (Decidable (_ ∧ _))

/-- The errands lead from one world to the other: each is carried out in the world that the one
before it leaves, and has its result. -/
inductive Executes (bound : Nat) : World σ → List (Errand σ) → World σ → Prop
  | nil (w : World σ) : Executes bound w [] w
  | cons {w u v : World σ} {e : Errand σ} {es : List (Errand σ)}
    (first : e.deed.perform e.host bound w = .ok (e.result, u)) (later : Executes bound u es v) :
    Executes bound w (e :: es) v

/-- The errands `es` lead from one world to the other, and `es'` are those without some resolutions
of `p`, none of which is the first that found the type. -/
inductive Thinned (p : ProxyId) (bound : Nat) :
    World σ → List (Errand σ) → List (Errand σ) → World σ → Prop
  | nil (w : World σ) : Thinned p bound w [] [] w
  | keep {w u v : World σ} {e : Errand σ} {es es' : List (Errand σ)}
    (first : e.deed.perform e.host bound w = .ok (e.result, u))
    (later : Thinned p bound u es es' v) :
    Thinned p bound w (e :: es) (e :: es') v
  | skip {w u v : World σ} {H : Host σ} {result : Except ProxyError Unit} {es es' : List (Errand σ)}
    (first : (Activity.operate p .resolve).perform H bound w = .ok (result, u))
    (idle : ¬ Finds p w u)
    (later : Thinned p bound u es es' v) :
    Thinned p bound w (⟨H, Activity.operate p .resolve, result⟩ :: es) es' v

/-! ## Resolutions that do not find the type -/

/-- A dialogue that makes calls of an inert resolver only leaves nothing but a note in the journal.

**Proof sketch.** Induction on the dialogue. An inert resolver answers without a change to the
world, so each question leaves two events, and nothing else. -/
private lemma told_of_converse {α : Type} {resolver : Resolver} {factory : Factory} {t : Talk α}
    {x : α} (inert : H.Inert resolver)
    (h : converse (perform H bound) H p resolver factory t w = .ok (x, v))
    (only : ∀ e ∈ conversed (perform H bound) H p resolver factory t w, e.1.IsResolve) :
    ∃ news, (∀ e ∈ news, e.ofResolution p = true) ∧ v = w.told (news ++ w.journal) := by
  induction t generalizing w with
  | done a => exact ⟨[], by simp, (world_eq_of_ok h).symm⟩
  | ask q next ih =>
    obtain ⟨answer, u, served, h⟩ := converse_ask_ok h
    rw [conversed_ask served] at only
    obtain ⟨resolves, only⟩ := List.forall_mem_cons.1 only
    cases q with
    | resolve name =>
      obtain rfl := inert bound name _ answer u served
      obtain ⟨news, noted, rfl⟩ := ih answer h only
      refine ⟨news ++ [.answered p ⟨.resolve name, answer⟩, .asked p (.resolve name)], ?_, ?_⟩
      · simpa [Event.ofResolution, or_imp, forall_and] using noted
      · rw [List.append_assoc]
        rfl
    | create _ | capability _ | start _ | stop _ => exact resolves.elim

/-- **A resolution that does not find the type leaves no trace** but a note in the journal.

**Proof sketch.** The state is what it was, since the resolution did not find the type, and all that
it asked was the resolver. So the dialogue leaves events alone, and the proxy is put back as it was
found. -/
private lemma told_of_not_finds {result : Except ProxyError Unit} (known : w.proxy? p = some proxy)
    (inert : H.Inert proxy.resolver)
    (h : operate (perform H bound) H p .resolve w = .ok (result, v)) (idle : ¬ Finds p w v) :
    ∃ news, (∀ e ∈ news, e.ofResolution p = true) ∧ v = w.told (news ++ w.journal) := by
  obtain ⟨left, there, path⟩ := operate_path known h
  obtain ⟨proxy', state, u, known', free, talked, rfl⟩ := operate_ok h
  obtain rfl : proxy = proxy' := Option.some.inj (known.symm.trans known')
  have restored : left = proxy.state ∧ ∀ e ∈ exchanges (perform H bound) H p .resolve w,
      e.1.IsResolve :=
    path.eq_or_finds.resolve_right fun ⟨unknown, found⟩ => idle
      ⟨by simpa [typeOf, known] using unknown, by simpa [typeOf, there] using found⟩
  obtain ⟨same, only⟩ := restored
  rw [exchanges_eq known] at only
  obtain ⟨news, noted, rfl⟩ := told_of_converse inert talked only
  let begun := (w.setProxy p { proxy with busy := true }).record (.began p .resolve)
  have busy : begun.proxy? p = some { proxy with busy := true } := proxy?_setProxy_self known
  let after := begun.told (news ++ begun.journal)
  have written : (after.setProxy p { proxy with state }).proxy? p = some { proxy with state } :=
    proxy?_setProxy_self busy
  obtain rfl : left = state := congrArg Proxy.state (Option.some.inj (there.symm.trans written))
  refine ⟨.ended p .resolve result :: news ++ [.began p .resolve], ?_, ?_⟩
  · simpa [Event.ofResolution, or_imp, forall_and] using noted
  · let journal := .ended p .resolve result :: (news ++ .began p .resolve :: w.journal)
    calc _ = (w.disguised p proxy w.journal).told journal := by
          simp [same, disguised, setProxy, record, told, journal]
      _ = w.told (.ended p .resolve result :: news ++ [.began p .resolve] ++ w.journal) := by
          rw [disguised_self known]
          simp [journal]

/-! ## Errands -/

/-- **Clients that call fewer resolutions.** Without resolutions that do not find the type, the
other errands have the same results and leave the same world. All that is missing is in the journal,
and it belongs to the resolutions that were left out.

**Proof sketch.** Induction on the errands. One that is kept does the same, since nobody reads the
journal; one that is left out did not change anything else. -/
theorem Thinned.executes (h : Thinned p bound w es es' v) (known : w.proxy? p = some proxy)
    (inert : ∀ e ∈ es, e.host.Inert proxy.resolver) :
    Executes bound w es v ∧ ∃ news, v.journal = news ++ w.journal ∧ ∀ j, ∃ news',
      Executes bound (w.told j) es' (v.told (news' ++ j)) ∧ news'.Sublist news ∧
        news'.filter (!·.ofResolution p) = news.filter (!·.ofResolution p) := by
  induction h generalizing proxy with
  | nil w => exact ⟨.nil w, [], rfl, fun j => ⟨[], .nil _, .refl _, rfl⟩⟩
  | @keep w u v e es es' first later ih =>
    obtain ⟨own, others⟩ := List.forall_mem_cons.1 inert
    have persists := persists_silent.run (persists_stepwise e.host).toClosed.perform first
    obtain ⟨proxy', known', -, hresolver, -⟩ := persists.proxy p proxy known
    rw [← hresolver] at others
    obtain ⟨whole, news, happened, thinned⟩ := ih known' others
    obtain ⟨early, happened', same⟩ := exists_news first
    refine ⟨.cons first whole, news ++ early, journal_trans happened' happened, fun j => ?_⟩
    obtain ⟨news', executes, sublist, alike⟩ := thinned (early ++ j)
    refine ⟨news' ++ early, ?_, sublist.append (.refl early), ?_⟩
    · rw [List.append_assoc]
      exact .cons (same j) executes
    · rw [List.filter_append, List.filter_append, alike]
  | @skip w u v H result es es' first idle later ih =>
    obtain ⟨own, others⟩ := List.forall_mem_cons.1 inert
    cases bound with
    | zero => cases first
    | succ bound =>
      have ended : operate (perform H bound) H p .resolve w = .ok (result, u) :=
        run_operate.symm.trans first
      obtain ⟨early, noted, rfl⟩ := told_of_not_finds known own ended idle
      obtain ⟨whole, news, happened, thinned⟩ := ih known others
      refine ⟨.cons first whole, news ++ early, by rw [happened, List.append_assoc]; rfl,
        fun j => ?_⟩
      obtain ⟨news', executes, sublist, alike⟩ := thinned j
      have silent : early.filter (!·.ofResolution p) = [] := by simpa using noted
      refine ⟨news', executes, sublist.trans (List.sublist_append_left news early), ?_⟩
      rw [List.filter_append, silent, List.append_nil, alike]

/-- **Only the resolution that finds the type matters.** In every history of a proxy the resolver is
asked by each resolution up to the first that finds the type, and never again; every resolution
after it is successful; and all others can be left out. The chronicles of all worlds that a run goes
through are such histories. Where the resolver has no effect, clients that leave out resolutions
which do not find the type get the same results otherwise, leave the same world, and nothing else is
missing from the journal.

**Proof sketch.** The first part is `settled`, and the second one is what is known of the
chronicles. For the third part, each errand that is left out leaves events alone, and nobody reads
the journal, so the others come to the same without them. -/
theorem first_success_decides :
    (∀ {name h s}, Proxy.Run name h s → Proxy.Settled name h s) ∧
    (∀ {σ : Type} {H : Host σ} {w : World σ} {p proxy}, Reachable H w → w.proxy? p = some proxy →
      Proxy.Run proxy.name (w.chronicle p).turns proxy.state) ∧
    ∀ {σ : Type} {bound : Nat} {p : ProxyId} {w v : World σ} {proxy : Proxy}
        {es es' : List (Errand σ)},
      w.proxy? p = some proxy → (∀ e ∈ es, e.host.Inert proxy.resolver) →
      Thinned p bound w es es' v → Executes bound w es v ∧ ∃ news news',
        v.journal = news ++ w.journal ∧ Executes bound w es' (v.told (news' ++ w.journal)) ∧
        news'.Sublist news ∧
        news'.filter (!·.ofResolution p) = news.filter (!·.ofResolution p) := by
  refine ⟨fun run => run.settled, fun reachable known => reachable.run known,
    fun {_ _ _ w _ _ _ _} known inert h => ?_⟩
  obtain ⟨whole, news, happened, thinned⟩ := h.executes known inert
  obtain ⟨news', executes, sublist, same⟩ := thinned w.journal
  exact ⟨whole, news, news', happened, executes, sublist, same⟩

/-! ## A start that fails -/

/-- A host whose components do not start. -/
def reluctant : Host Nat :=
  .counting (fun _ => .error (.ofMessage "not yet")) fun _ => pure ()

/-- The failure that their starts report. -/
def notYet : Except ProxyError Unit := .error (.start "a" (.ofMessage "not yet"))

/-- A client who has registered a component, to be resolved with what is current. -/
def expectant : Activity Nat ProxyId := do
  let r ← Activity.establish .ambient (.custom 0)
  Activity.obtain r "a"

/-- An operation on the component. -/
def request (operation : Proxy.Operation) (result : Except ProxyError Unit) : Errand Nat :=
  ⟨reluctant, Activity.operate ⟨0⟩ operation, result⟩

/-- The client enters a catalog that holds the type. -/
def arrival : Errand Nat :=
  ⟨reluctant, do
    let _ ← Activity.enter harbour
    pure (.ok ()), .ok ()⟩

/-- The client resolves too early, and again when it is resolved. -/
def eager : List (Errand Nat) :=
  [request .start (.ok ()), request .resolve (.error (.notFound (.noContext "a"))), arrival,
    request .resolve notYet, request .resolve (.ok ()), request .start notYet,
      request .stop (.ok ())]

/-- Such a client, from the beginning. -/
def hasty : Activity Nat Unit := do
  let p ← expectant
  let _ ← Activity.operate p .start
  let _ ← Activity.operate p .resolve
  let _ ← Activity.enter harbour
  let _ ← Activity.operate p .resolve
  let _ ← Activity.operate p .resolve
  let _ ← Activity.operate p .start
  let _ ← Activity.operate p .stop

/-- The client resolves when it is time to. -/
def prompt : List (Errand Nat) :=
  [request .start (.ok ()), arrival, request .resolve notYet, request .start notYet,
    request .stop (.ok ())]

/-- The resolver is asked twice, and the resolution after the deferred start that failed is
successful. Without the one that came too early and the one that came too late the same world is
left. -/
theorem first_success_decides_reluctant : ∃ w v proxy proxy',
    w.proxy? ⟨0⟩ = some proxy ∧ v.proxy? ⟨0⟩ = some proxy' ∧ Thinned ⟨0⟩ 2 w eager prompt v ∧
    (∃ news news', v.journal = news ++ w.journal ∧
      Executes 2 w prompt (v.told (news' ++ w.journal)) ∧
      news'.filter (!·.ofResolution ⟨0⟩) = news.filter (!·.ofResolution ⟨0⟩)) ∧
    (v.chronicle ⟨0⟩).turns.map Proxy.Turn.lookups = [[], ["a"], ["a"], [], [], []] ∧
    Proxy.Settled "a" (v.chronicle ⟨0⟩).turns proxy'.state := by
  obtain ⟨w, -, proxy, known, ambient, v, thinned, reached, proxy', there, hname, asked⟩ :
      ∃ w, expectant.perform reluctant 2 { host := 0 } = .ok (⟨0⟩, w) ∧
        ∃ proxy, w.proxy? ⟨0⟩ = some proxy ∧ proxy.resolver = .ambient ∧
        ∃ v, Thinned ⟨0⟩ 2 w eager prompt v ∧
          (hasty.perform reluctant 2 { host := 0 } = .ok ((), v)) ∧
          ∃ proxy', v.proxy? ⟨0⟩ = some proxy' ∧ proxy'.name = "a" ∧
          (v.chronicle ⟨0⟩).turns.map Proxy.Turn.lookups = [[], ["a"], ["a"], [], [], []] :=
    ⟨_, rfl, _, rfl, rfl, _, .keep rfl (.skip rfl (by decide) (.keep rfl (.keep rfl
      (.skip rfl (by decide) (.keep rfl (.keep rfl (.nil _))))))), rfl, _, rfl, rfl, rfl⟩
  have inert : ∀ e ∈ eager, e.host.Inert proxy.resolver := by
    rw [ambient]
    intro e _
    exact Host.inert_of_not_custom (by simp) e.host
  obtain ⟨settled, histories, thins⟩ := first_success_decides
  obtain ⟨-, news, news', happened, executes, -, same⟩ := thins known inert thinned
  have run := histories (.of_run reached) there
  rw [hname] at run
  exact ⟨w, v, proxy, proxy', known, there, thinned, ⟨news, news', happened, executes, same⟩, asked,
    settled run⟩

end World

end Standby
