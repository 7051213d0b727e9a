import Standby.Proofs.World.Entries
set_option autoImplicit false

/-!
# What nobody can see of a busy proxy

As long as an operation on a proxy is under way nothing else can read its state or change it. So
what happens meanwhile is the same whatever the state is: if the proxy is disguised as another one
of its name, then a call does the same and leaves the world that it would have left, disguised.

## Main definitions

* `Standby.World.disguised` — the world in which a proxy is another one.
* `Standby.World.Matches` — what a run comes to in a world, and in the world disguised.

## Main results

* `Standby.World.matches_perform`, `Standby.World.matches_run` — every call and every activity
  matches itself in the world disguised.
* `Standby.World.matches_converse` — and so does every dialogue.
* `Standby.World.alike_of_matches` — in two worlds that differ in a busy proxy only the same
  happens.

## Design

The disguise may be an idle proxy, and then an operation on it that waits for itself in the one
world goes on in the other. In every other case the two runs come to the same. The journal may be
disguised as well, since nothing that is called reads it.
-/

namespace Standby.World

variable {σ : Type} {H : Host σ} {α : Type} {w w' : World σ} {p q : ProxyId} {r : RegistryId}
  {proxy other : Proxy} {j news : List Event}

/-! ## Disguises -/

/-- The world in which the proxy `p` is another one, and in which the journal tells something
else. -/
def disguised (w : World σ) (p : ProxyId) (other : Proxy) (j : List Event) : World σ :=
  { w.setProxy p other with journal := j }

/-- A disguise on top of another one hides it. -/
@[simp] lemma disguised_disguised {j' : List Event} :
    (w.disguised p other j).disguised p proxy j' = w.disguised p proxy j' := by
  simp [disguised, setProxy]

/-- A proxy disguised as itself is no disguise. -/
lemma disguised_self (known : w.proxy? p = some proxy) : w.disguised p proxy w.journal = w := by
  have same : w.proxies.set p.index proxy = w.proxies := by
    obtain ⟨hlt, rfl⟩ := List.getElem?_eq_some_iff.1 known
    exact List.set_getElem_self hlt
  rw [disguised, setProxy, same]

/-- A disguise changes a proxy, and all registries stay as they are. -/
@[simp] lemma known_disguised : World.registry? (w.disguised p other j) r = w.registry? r := rfl

/-- A disguise does not change which registry is installed. -/
@[simp] lemma installed_disguised : (w.disguised p other j).installed = w.installed := rfl

/-- In the place of a proxy that is disguised the other one is found. -/
lemma proxy?_disguised_self (known : w.proxy? p = some proxy) :
    (w.disguised p other j).proxy? p = some other :=
  proxy?_setProxy_self known

/-- In all other places the same proxies are found. -/
lemma proxy?_disguised_of_ne (h : p ≠ q) : (w.disguised p other j).proxy? q = w.proxy? q :=
  proxy?_setProxy_of_ne h

/-- Another proxy is put in its place whatever the disguise is. -/
private lemma disguised_setProxy (h : p ≠ q) (x : Proxy) :
    (w.setProxy q x).disguised p other j = (w.disguised p other j).setProxy q x := by
  have hne : q.index ≠ p.index := fun e => h (congrArg ProxyId.mk e.symm)
  simp [disguised, setProxy, List.set_comm _ _ hne]

/-! ## Matching results -/

/-- What a run comes to in the world `w`, where the proxy `p` is `proxy`, and in the world where it
is disguised as `other` and the journal is `j`. It waits for `p` forever and nothing is known of the
other; or both come to the same halt; or both give the same answer, `p` is what it was, and what is
left is the same up to the disguise. -/
inductive Matches (p : ProxyId) (proxy other : Proxy) (w : World σ) (j : List Event) :
    Except Halt (α × World σ) → Except Halt (α × World σ) → Prop
  | reentered (y : Except Halt (α × World σ)) : Matches p proxy other w j (.error (.reentered p)) y
  | halted (halt : Halt) : Matches p proxy other w j (.error halt) (.error halt)
  | returned (a : α) (news : List Event) {w' : World σ} (happened : w'.journal = news ++ w.journal)
    (known : w'.proxy? p = some proxy) :
    Matches p proxy other w j (.ok (a, w')) (.ok (a, w'.disguised p other (news ++ j)))

namespace Matches

variable {x y : Except Halt (α × World σ)}

/-- What matches from a later world on matches from the earlier one. -/
private lemma after (h : Matches p proxy other w' (news ++ j) x y)
    (happened : w'.journal = news ++ w.journal) : Matches p proxy other w j x y := by
  cases h with
  | reentered => exact .reentered _
  | halted => exact .halted _
  | returned a later happened' known =>
    rw [← List.append_assoc]
    exact .returned a _ (journal_trans happened happened') known

/-- What matches from a world with the same journal on matches. -/
private lemma of_eq (h : Matches p proxy other w' j x y) (same : w'.journal = w.journal) :
    Matches p proxy other w j x y := by
  rw [← List.nil_append j] at h
  exact h.after same

/-- What matches after one more event matches. -/
private lemma of_record {e : Event} (h : Matches p proxy other (w.record e) (e :: j) x y) :
    Matches p proxy other w j x y := by
  rw [← List.singleton_append] at h
  exact h.after rfl

/-- A step that does not change the journal is over at once. -/
private lemma step {a : α} (happened : w'.journal = w.journal) (known : w'.proxy? p = some proxy) :
    Matches p proxy other w j (.ok (a, w')) (.ok (a, w'.disguised p other j)) :=
  .returned a [] happened known

end Matches

/-! ## Busy proxies -/

section Calls

variable {perform : Activity.Performance σ}
  (calls : ∀ (c : Call) (w : World σ) (j : List Event), w.proxy? p = some proxy →
    Matches p proxy other w j (perform c w) (perform c (w.disguised p other j)))
include calls

/-- An activity matches itself if all calls do.

**Proof sketch.** Induction on the activity. The collaborators' state and what is current are not
disguised, so a step that reads or writes them is the same step. -/
private lemma matches_of_calls {a : Activity σ α} (known : w.proxy? p = some proxy) :
    Matches p proxy other w j (a.run perform w) (a.run perform (w.disguised p other j)) := by
  induction a generalizing w j with
  | done a => exact .step rfl known
  | get next ih => exact ih w.host known
  | put s next ih => exact (ih (w := { w with host := s }) (j := j) known).of_eq rfl
  | call c next ih =>
    have first := calls c w j known
    rw [Activity.run, Activity.run]
    generalize perform c w = x, perform c (w.disguised p other j) = y at first
    cases first with
    | reentered => exact .reentered _
    | halted => exact .halted _
    | returned answer news happened known => exact (ih answer known).after happened
  | thread body next ihBody ihNext =>
    have first : Matches p proxy other w j (body.run perform { w with context := none })
        (body.run perform { w.disguised p other j with context := none }) :=
      (ihBody (w := { w with context := none }) (j := j) known).of_eq rfl
    rw [Activity.run, Activity.run]
    generalize body.run perform { w with context := none } = x,
      body.run perform { w.disguised p other j with context := none } = y at first
    cases first with
    | reentered => exact .reentered _
    | halted => exact .halted _
    | @returned b news v happened known =>
      exact (ihNext b (w := { v with context := w.context }) (j := news ++ j) known).after happened

/-- A dialogue of any proxy matches itself if all calls do. -/
private lemma matches_converse_of_calls {t : Talk α} {resolver : Resolver} {factory : Factory}
    (known : w.proxy? p = some proxy) :
    Matches p proxy other w j (converse perform H q resolver factory t w)
      (converse perform H q resolver factory t (w.disguised p other j)) := by
  induction t generalizing w j with
  | done a => exact .step rfl known
  | ask request next ih =>
    have first : Matches p proxy other w j
        ((H.serve resolver factory request).run perform (w.record (.asked q request)))
        ((H.serve resolver factory request).run perform
          ((w.disguised p other j).record (.asked q request))) :=
      (matches_of_calls calls (w := w.record (.asked q request)) (j := .asked q request :: j)
        known).of_record
    rw [converse, converse]
    generalize (H.serve resolver factory request).run perform (w.record (.asked q request)) = x,
      (H.serve resolver factory request).run perform
        ((w.disguised p other j).record (.asked q request)) = y at first
    cases first with
    | reentered => exact .reentered _
    | halted => exact .halted _
    | @returned answer news v happened known =>
      let e : Event := .answered q ⟨request, answer⟩
      exact (ih answer (w := v.record e) (j := e :: (news ++ j)) known).of_record.after happened

/-- An operation matches itself if all calls do. One on the disguised proxy waits for itself. -/
private lemma matches_operate_of_calls {operation : Proxy.Operation}
    (known : w.proxy? p = some proxy) (busy : proxy.busy = true) :
    Matches p proxy other w j (operate perform H q operation w)
      (operate perform H q operation (w.disguised p other j)) := by
  by_cases hpq : p = q
  · subst hpq
    have waits : operate perform H p operation w = .error (.reentered p) := by
      simp [operate, known, busy]
    rw [waits]
    exact .reentered _
  · rw [operate, operate, proxy?_disguised_of_ne hpq]
    cases hq : w.proxy? q with
    | none => exact .halted _
    | some x =>
      by_cases engaged : x.busy = true
      · dsimp only
        rw [if_pos engaged, if_pos engaged]
        exact .halted _
      · dsimp only
        rw [if_neg engaged, if_neg engaged]
        let begun := (w.setProxy q { x with busy := true }).record (.began q operation)
        have there : begun.proxy? p = some proxy :=
          (proxy?_setProxy_of_ne (Ne.symm hpq)).trans known
        have first : Matches p proxy other w j
            (converse perform H q x.resolver x.factory (operation.talk x.name x.state) begun)
            (converse perform H q x.resolver x.factory (operation.talk x.name x.state)
              (((w.disguised p other j).setProxy q { x with busy := true }).record
                (.began q operation))) := by
          rw [← disguised_setProxy hpq]
          have talks : Matches p proxy other begun (.began q operation :: j)
              (converse perform H q x.resolver x.factory (operation.talk x.name x.state) begun)
              (converse perform H q x.resolver x.factory (operation.talk x.name x.state)
                (begun.disguised p other (.began q operation :: j))) :=
            matches_converse_of_calls calls there
          exact talks.of_record.of_eq rfl
        generalize
          converse perform H q x.resolver x.factory (operation.talk x.name x.state) begun = r,
          converse perform H q x.resolver x.factory (operation.talk x.name x.state)
            (((w.disguised p other j).setProxy q { x with busy := true }).record
              (.began q operation)) = r' at first ⊢
        cases first with
        | reentered => exact .reentered _
        | halted => exact .halted _
        | @returned outcome news v happened known =>
          obtain ⟨result, state⟩ := outcome
          let e : Event := .ended q operation result
          have there : (v.setProxy q { x with state }).proxy? p = some proxy :=
            (proxy?_setProxy_of_ne (Ne.symm hpq)).trans known
          have ends : Matches p proxy other (v.setProxy q { x with state }) (news ++ j)
              (.ok (result, (v.setProxy q { x with state }).record e))
              (.ok (result,
                ((v.setProxy q { x with state }).disguised p other (news ++ j)).record e)) :=
            .returned result [e] rfl there
          rw [disguised_setProxy hpq] at ends
          exact ends.after happened

/-- A sweep matches itself if all calls do. -/
private lemma matches_sweep_of_calls {ps : List ProxyId} (known : w.proxy? p = some proxy)
    (busy : proxy.busy = true) :
    Matches p proxy other w j ((sweep perform H r ps w).map (Prod.mk ()))
      ((sweep perform H r ps (w.disguised p other j)).map (Prod.mk ())) := by
  induction ps generalizing w j with
  | nil => exact .step rfl known
  | cons q rest ih =>
    have first : Matches p proxy other w j
        (operate perform H q .stop (w.record (.swept r q)))
        (operate perform H q .stop ((w.disguised p other j).record (.swept r q))) :=
      (matches_operate_of_calls calls (w := w.record (.swept r q)) (j := .swept r q :: j) known
        busy).of_record
    rw [sweep, sweep]
    generalize operate perform H q .stop (w.record (.swept r q)) = x,
      operate perform H q .stop ((w.disguised p other j).record (.swept r q)) = y at first
    cases first with
    | reentered => exact .reentered _
    | halted => exact .halted _
    | returned result news happened known => exact (ih known).after happened

end Calls

/-! ## Every call -/

/-- Registering a name is the same whatever a proxy is disguised as. -/
private lemma matches_obtain {name : String} (known : w.proxy? p = some proxy) :
    Matches p proxy other w j (w.obtain r name) ((w.disguised p other j).obtain r name) := by
  rw [World.obtain, World.obtain, known_disguised]
  cases w.registry? r with
  | none => exact .halted _
  | some registry =>
    dsimp only
    cases registry.find? name with
    | some found => exact .step rfl known
    | none =>
      dsimp only
      have hlt : p.index < w.proxies.length := (List.getElem?_eq_some_iff.1 known).1
      have length : (w.disguised p other j).proxies.length = w.proxies.length := List.length_set
      have added (x : Proxy) : (w.disguised p other j).proxies ++ [x] =
          (w.proxies ++ [x]).set p.index other := (List.set_append_left _ _ hlt).symm
      rw [length, added]
      exact .returned _ [.registered r name ⟨w.proxies.length⟩] rfl (proxy?_of_append rfl known)

/-- Removing entries is the same whatever a proxy is disguised as. -/
private lemma matches_remove {gone : List ProxyId} (known : w.proxy? p = some proxy) :
    Matches p proxy other w j (.ok ((), w.remove r gone))
      (.ok ((), (w.disguised p other j).remove r gone)) := by
  rw [World.remove, World.remove, known_disguised]
  cases w.registry? r with
  | none => exact .step rfl known
  | some registry => exact .returned () [.removed r gone] rfl known

/-- Installing a registry is the same whatever a proxy is disguised as. -/
private lemma matches_install (known : w.proxy? p = some proxy) :
    Matches p proxy other w j (.ok (w.install r)) (.ok ((w.disguised p other j).install r)) := by
  rw [World.install, World.install, installed_disguised]
  cases w.installed with
  | none => exact .step rfl known
  | some registry => exact .step rfl known

/-- Every call is the same whatever a busy proxy is disguised as.

**Proof sketch.** Induction on the bound. An operation on the proxy or an observation of it waits
for itself, its name is no disguise, and everything else does not look at the proxy. -/
theorem matches_perform {bound : Nat} {c : Call} (known : w.proxy? p = some proxy)
    (busy : proxy.busy = true) (hname : other.name = proxy.name) :
    Matches p proxy other w j (perform H bound c w)
      (perform H bound c (w.disguised p other j)) := by
  induction bound using Nat.strongRecOn generalizing c w j with
  | _ bound ih =>
  cases c with
  | establish resolver factory =>
    rw [perform, perform]
    exact .step rfl known
  | obtain r name =>
    rw [perform, perform]
    exact matches_obtain known
  | entries r =>
    rw [perform, perform, known_disguised]
    cases w.registry? r with
    | none => exact .halted _
    | some registry => exact .step rfl known
  | operate q operation =>
    cases bound with
    | zero => exact .halted _
    | succ bound =>
      rw [perform, perform]
      exact matches_operate_of_calls (fun c w j known => ih bound bound.lt_succ_self known)
        known busy
  | nameOf q =>
    rw [perform, perform]
    by_cases hpq : p = q
    · subst hpq
      rw [known, proxy?_disguised_self known]
      dsimp only
      rw [hname]
      exact .step rfl known
    · rw [proxy?_disguised_of_ne hpq]
      cases w.proxy? q with
      | none => exact .halted _
      | some x => exact .step rfl known
  | observe q =>
    rw [perform, perform]
    by_cases hpq : p = q
    · subst hpq
      have waits : w.observe p = .error (.reentered p) := by simp [observe, known, busy]
      rw [waits]
      exact .reentered _
    · rw [observe, observe, proxy?_disguised_of_ne hpq]
      cases w.proxy? q with
      | none => exact .halted _
      | some x =>
        dsimp only
        split
        · exact .halted _
        · exact .step rfl known
  | reset r =>
    cases bound with
    | zero => exact .halted _
    | succ bound =>
      have calls (c : Call) (w : World σ) (j : List Event) (known : w.proxy? p = some proxy) :
          Matches p proxy other w j (perform H bound c w)
            (perform H bound c (w.disguised p other j)) :=
        ih bound bound.lt_succ_self known
      rw [perform, perform, known_disguised]
      cases w.registry? r with
      | none => exact .halted _
      | some registry =>
        dsimp only
        split
        · exact .step rfl known
        · have swept : Matches p proxy other w j
              ((sweep (perform H bound) H r registry.proxies w).map (Prod.mk ()))
              ((sweep (perform H bound) H r registry.proxies (w.disguised p other j)).map
                (Prod.mk ())) := matches_sweep_of_calls calls known busy
          generalize sweep (perform H bound) H r registry.proxies w = x,
            sweep (perform H bound) H r registry.proxies (w.disguised p other j) = y at swept
          rcases x with halt | v
          · rcases y with halt' | v'
            · cases swept with
              | reentered => exact .reentered _
              | halted => exact .halted _
            · cases swept with
              | reentered => exact .reentered _
          · rcases y with halt' | v'
            · cases swept
            · cases swept with
              | returned _ news happened known =>
                have removed : Matches p proxy other v (news ++ j)
                    (.ok ((), v.remove r registry.proxies))
                    (.ok ((), (v.disguised p other (news ++ j)).remove r registry.proxies)) :=
                  matches_remove known
                dsimp only
                generalize v.remove r registry.proxies = u,
                  (v.disguised p other (news ++ j)).remove r registry.proxies = u' at removed
                cases removed with
                | returned _ later happened' known =>
                  exact ((calls (.reset r) u (later ++ (news ++ j)) known).after happened').after
                    happened
  | install r =>
    rw [perform, perform]
    exact matches_install known
  | installed =>
    rw [perform, perform]
    exact .step rfl known
  | construct type =>
    cases bound with
    | zero => exact .halted _
    | succ bound =>
      rw [perform, perform]
      exact matches_of_calls (fun c w j known => ih bound bound.lt_succ_self known) known
  | enter catalog =>
    rw [perform, perform]
    exact .step rfl known
  | leave guard =>
    rw [perform, perform]
    exact .step rfl known
  | current =>
    rw [perform, perform]
    exact .step rfl known

/-! ## Activities and dialogues -/

section Meanwhile

variable {bound : Nat} (known : w.proxy? p = some proxy) (busy : proxy.busy = true)
  (hname : other.name = proxy.name)
include known busy hname

/-- Every activity is the same whatever a busy proxy is disguised as. -/
theorem matches_run {a : Activity σ α} :
    Matches p proxy other w j (a.run (perform H bound) w)
      (a.run (perform H bound) (w.disguised p other j)) :=
  matches_of_calls (fun _ _ _ known => matches_perform known busy hname) known

/-- Every dialogue is the same whatever a busy proxy is disguised as. -/
theorem matches_converse {t : Talk α} {resolver : Resolver} {factory : Factory} :
    Matches p proxy other w j (converse (perform H bound) H q resolver factory t w)
      (converse (perform H bound) H q resolver factory t (w.disguised p other j)) :=
  matches_converse_of_calls (fun _ _ _ known => matches_perform known busy hname) known

end Meanwhile

/-- **Two busy proxies are alike.** What matches itself whatever a busy proxy is disguised as comes
to the same in two worlds that differ in a busy proxy only: each of them is the other one,
disguised. -/
lemma alike_of_matches {f : World σ → Except Halt (α × World σ)}
    (matching : ∀ {x y : Proxy} {w : World σ} {j : List Event}, w.proxy? p = some x →
      x.busy = true → y.name = x.name → Matches p x y w j (f w) (f (w.disguised p y j)))
    (known : w.proxy? p = some proxy) (busy : proxy.busy = true) (busy' : other.busy = true)
    (hname : other.name = proxy.name) :
    (∃ halt, f w = .error halt ∧ f (w.disguised p other j) = .error halt) ∨
      ∃ a w' news, f w = .ok (a, w') ∧
        f (w.disguised p other j) = .ok (a, w'.disguised p other (news ++ j)) ∧
        w'.journal = news ++ w.journal ∧ w'.proxy? p = some proxy := by
  have there : Matches p proxy other w j (f w) (f (w.disguised p other j)) :=
    matching known busy hname
  have back : Matches p other proxy (w.disguised p other j) w.journal (f (w.disguised p other j))
      (f ((w.disguised p other j).disguised p proxy w.journal)) :=
    matching (proxy?_disguised_self known) busy' hname.symm
  rw [disguised_disguised, disguised_self known] at back
  generalize f w = x, f (w.disguised p other j) = y at there back ⊢
  cases there with
  | reentered =>
    cases back with
    | reentered | halted => exact .inl ⟨_, rfl, rfl⟩
  | halted halt => exact .inl ⟨halt, rfl, rfl⟩
  | returned a news happened known => exact .inr ⟨a, _, news, rfl, rfl, happened, known⟩

end Standby.World
