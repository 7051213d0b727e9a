import Standby.Proofs.World.Pairing
set_option autoImplicit false

/-!
# Runs that are the same at every moment

Two runs that come to the same go the same way. Whatever world the one goes through, the other goes
through one that is the same but for identities, also where neither of them ever returns.

## Main definitions

* `Standby.Pairing.symm` — a pairing, read the other way round.
* `Standby.Pairing.Accompanies` — worlds gone through on the one side and on the other.

## Main results

* `Standby.Activity.Alike.symm`, `Standby.Pairing.SameWorld.symm` — to do the same, and to be the
  same, is symmetric.
* `Standby.Pairing.same_passes` — a run goes through the worlds that a run that is alike goes
  through.
* `Standby.Pairing.accompanies` — and the other way round.

## Design

Only one direction is proved along the runs. The other one is the same statement for the pairing
that is read the other way round.
-/

namespace Standby

variable {σ : Type}

namespace Pairing

/-! ## The other way round -/

/-- The same pairing, read the other way round. -/
def symm (m : Pairing) : Pairing where
  proxies p p' := m.proxies p' p
  registries r r' := m.registries r' r
  proxies_iff hp hq := (m.proxies_iff hp hq).symm
  registries_iff hr hs := (m.registries_iff hr hs).symm

variable {m : Pairing}

/-- What holds of all pairs of two lists holds of them the other way round. -/
private lemma forall₂_symm {α : Type} {R S : α → α → Prop} {xs ys : List α}
    (imp : ∀ x y, R x y → S y x) (h : List.Forall₂ R xs ys) : List.Forall₂ S ys xs :=
  (h.imp imp).flip

/-- What two options have to do with each other can be said the other way round. -/
private lemma rel_symm {α : Type} {R S : α → α → Prop} {x y : Option α} (imp : ∀ x y, R x y → S y x)
    (h : Option.Rel R x y) : Option.Rel S y x := by
  cases h with
  | some h => exact .some (imp _ _ h)
  | none => exact .none

/-- Entries that stand for each other do so the other way round. -/
private lemma SameEntry.symm {e e' : Entry} (h : m.SameEntry e e') : m.symm.SameEntry e' e :=
  ⟨h.name.symm, h.proxy⟩

/-- Registries that stand for each other do so the other way round. -/
private lemma SameRegistry.symm {x x' : Registry} (h : m.SameRegistry x x') :
    m.symm.SameRegistry x' x :=
  ⟨h.resolver.symm, h.factory.symm, forall₂_symm (fun _ _ => SameEntry.symm) h.entries⟩

/-- Events that stand for each other do so the other way round. -/
private lemma SameEvent.symm {e e' : Event} (h : m.SameEvent e e') : m.symm.SameEvent e' e := by
  cases h with
  | registered name hr hp => exact .registered name hr hp
  | swept hr hp => exact .swept hr hp
  | removed hr hps => exact .removed hr hps.flip
  | began operation hp => exact .began operation hp
  | asked q hp => exact .asked q hp
  | answered e hp => exact .answered e hp
  | ended operation result hp => exact .ended operation result hp

/-- Worlds that are the same are the same the other way round.

**Proof sketch.** Each field is turned round by itself. -/
lemma SameWorld.symm {j j' : List Event} {w u : World σ} (same : m.SameWorld j j' w u) :
    m.symm.SameWorld j' j u w where
  proxies hp := (same.proxies hp).symm
  registries hr := rel_symm (fun _ _ => SameRegistry.symm) (same.registries hr)
  nextProxies := same.nextProxies
  nextRegistries := same.nextRegistries
  context := same.context.symm
  installed := rel_symm (fun _ _ h => h) same.installed
  host := same.host.symm
  happened := by
    obtain ⟨news, news', hw, hu, events⟩ := same.happened
    exact ⟨news', news, hu, hw, forall₂_symm (fun _ _ => SameEvent.symm) events⟩

/-- Calls that are the same are the same the other way round, and so are their answers.

**Proof sketch.** By cases on the call. -/
private lemma Called.symm {c c' : Call} {A : c.Answer → c'.Answer → Prop}
    (called : m.Called c c' A) : ∃ B, m.symm.Called c' c B ∧ ∀ x x', B x' x → A x x' := by
  cases called with
  | establish resolver factory => exact ⟨_, .establish resolver factory, fun _ _ h => h⟩
  | obtain hr name => exact ⟨_, .obtain (m := m.symm) hr name, fun _ _ h => h⟩
  | entries hr =>
    have symm : ∀ e e', m.symm.SameEntry e e' → m.SameEntry e' e := fun _ _ => SameEntry.symm
    exact ⟨_, .entries hr, fun _ _ => forall₂_symm symm⟩
  | operate hp operation => exact ⟨_, .operate (m := m.symm) hp operation, fun _ _ => Eq.symm⟩
  | nameOf hp => exact ⟨_, .nameOf hp, fun _ _ => Eq.symm⟩
  | observe hp => exact ⟨_, .observe hp, fun _ _ => Eq.symm⟩
  | reset hr => exact ⟨_, .reset hr, fun _ _ => Eq.symm⟩
  | install hr => exact ⟨_, .install hr, fun _ _ => Eq.symm⟩
  | installed => exact ⟨_, .installed, fun _ _ => rel_symm fun _ _ h => h⟩
  | construct type => exact ⟨_, .construct type, fun _ _ => Eq.symm⟩
  | enter catalog => exact ⟨_, .enter catalog, fun _ _ => Eq.symm⟩
  | leave guard => exact ⟨_, .leave guard, fun _ _ => Eq.symm⟩
  | current => exact ⟨_, .current, fun _ _ => Eq.symm⟩

end Pairing

/-- Activities that do the same do so the other way round.

**Proof sketch.** Induction on the likeness. What answers stand for each other is turned round along
with the calls. -/
theorem Activity.Alike.symm {m : Pairing} {α β : Type} {R : α → β → Prop} {S : β → α → Prop}
    {a : Activity σ α} {b : Activity σ β} (imp : ∀ x y, R x y → S y x) (alike : a.Alike m R b) :
    b.Alike m.symm S a := by
  induction alike with
  | done same => exact .done (imp _ _ same)
  | get _ ih => exact .get fun s => ih s imp
  | put s _ ih => exact .put s (ih imp)
  | call called _ ih =>
    obtain ⟨B, called', answers⟩ := called.symm
    exact .call called' fun x' x same => ih x x' (answers x x' same) imp
  | @thread _ _ _ _ _ B _ _ _ _ _ _ ihBody ih =>
    have body := ihBody (S := fun b' b => B b b') fun _ _ same => same
    exact .thread body fun b' b same => ih b b' same imp

namespace Pairing

variable {m : Pairing} {H K : Host σ}

/-- Hosts whose code does the same do so the other way round. -/
private lemma SameHost.symm (hosts : m.SameHost H K) : m.symm.SameHost K H where
  resolve _ _ := (hosts.resolve _ _).symm fun _ _ => Eq.symm
  create _ _ := (hosts.create _ _).symm fun _ _ => Eq.symm
  construct _ := (hosts.construct _).symm fun _ _ => Eq.symm
  capability _ := (hosts.capability _).symm fun _ _ => Eq.symm
  start _ := (hosts.start _).symm fun _ _ => Eq.symm
  stop _ := (hosts.stop _).symm fun _ _ => Eq.symm

/-! ## The worlds gone through -/

/-- Where one of two outcomes that are the same is a result in a world, the other is one too, with a
result and a world that correspond. -/
private lemma SameOutcome.of_ok {j j' : List Event} {α β : Type} {R : α → β → Prop} {a : α}
    {w : World σ} {y : Except Halt (β × World σ)} (h : m.SameOutcome j j' R (.ok (a, w)) y) :
    ∃ b u, y = .ok (b, u) ∧ R a b ∧ m.SameWorld j j' w u := by
  cases h with
  | returned same worlds => exact ⟨_, _, rfl, same, worlds⟩

section Calls

variable {perform perform' : Activity.Performance σ}
  {inside inside' : Call → World σ → World σ → Prop}
  {j j' : List Event} {α β : Type} {R : α → β → Prop} {w u v : World σ} {p p' : ProxyId}
  {r r' : RegistryId}
  (calls : ∀ {c c' : Call} {A : c.Answer → c'.Answer → Prop} {w u : World σ}, m.Called c c' A →
    m.SameWorld j j' w u → m.SameOutcome j j' A (perform c w) (perform' c' u))
  (within : ∀ {c c' : Call} {A : c.Answer → c'.Answer → Prop} {w u v : World σ}, m.Called c c' A →
    m.SameWorld j j' w u → inside c w v → ∃ v', inside' c' u v' ∧ m.SameWorld j j' v v')
include calls within

/-- Activities that are alike go through the same worlds if the calls that they make do.

**Proof sketch.** Induction on the likeness, by cases on how far the first activity got. -/
private lemma same_passes_of_calls {a : Activity σ α} {b : Activity σ β} (alike : a.Alike m R b)
    (same : m.SameWorld j j' w u) (h : a.Passes perform inside w v) :
    ∃ v', b.Passes perform' inside' u v' ∧ m.SameWorld j j' v v' := by
  induction alike generalizing w u v with
  | done _ =>
    cases h with
    | here => exact ⟨u, .here _ u, same⟩
  | get _ ih =>
    cases h with
    | here => exact ⟨u, .here _ u, same⟩
    | get later =>
      obtain ⟨v', passes, same'⟩ := ih _ same later
      rw [same.host] at passes
      exact ⟨v', .get passes, same'⟩
  | put s _ ih =>
    cases h with
    | here => exact ⟨u, .here _ u, same⟩
    | put later =>
      obtain ⟨v', passes, same'⟩ := ih (same.putHost s) later
      exact ⟨v', .put passes, same'⟩
  | call called _ ih =>
    cases h with
    | here => exact ⟨u, .here _ u, same⟩
    | within during =>
      obtain ⟨v', during', same'⟩ := within called same during
      exact ⟨v', .within during', same'⟩
    | after ended later =>
      have first := calls called same
      rw [ended] at first
      obtain ⟨x', u', ended', answers, same'⟩ := first.of_ok
      obtain ⟨v', passes, same''⟩ := ih _ x' answers same' later
      exact ⟨v', .after ended' passes, same''⟩
  | thread alikeBody _ ihBody ih =>
    cases h with
    | here => exact ⟨u, .here _ u, same⟩
    | body during =>
      obtain ⟨v', passes, same'⟩ := ihBody (same.putContext none) during
      exact ⟨v', .body passes, same'⟩
    | joined ended later =>
      have first := same_run_of_calls calls alikeBody (same.putContext none)
      rw [ended] at first
      obtain ⟨b', u', ended', results, same'⟩ := first.of_ok
      obtain ⟨v', passes, same''⟩ := ih _ b' results (same'.putContext w.context) later
      rw [same.context] at passes
      exact ⟨v', .joined ended' passes, same''⟩

variable {H K : Host σ} (hosts : m.SameHost H K)
include hosts

/-- The same dialogue goes through the same worlds.

**Proof sketch.** Induction on the way through the dialogue. A question that was answered in the
first world is answered in the same way in the second. -/
private lemma same_talkPasses_of_calls {resolver : Resolver} {factory : Factory} {t : Talk α}
    (hp : m.proxies p p') (same : m.SameWorld j j' w u)
    (h : World.TalkPasses perform inside H p resolver factory t w v) :
    ∃ v', World.TalkPasses perform' inside' K p' resolver factory t u v' ∧
      m.SameWorld j j' v v' := by
  induction h generalizing u with
  | here => exact ⟨u, .here _ u, same⟩
  | @within q _ _ _ during =>
    obtain ⟨v', passes, same'⟩ := same_passes_of_calls calls within
      (hosts.serve resolver factory q) (same.record (.asked q hp)) during
    exact ⟨v', .within passes, same'⟩
  | @after q _ _ _ _ answer ended _ ih =>
    have first :=
      same_run_of_calls calls (hosts.serve resolver factory q) (same.record (.asked q hp))
    rw [ended] at first
    obtain ⟨answer', u', ended', rfl, same'⟩ := first.of_ok
    obtain ⟨v', passes, same''⟩ := ih (same'.record (.answered _ hp))
    exact ⟨v', .after ended' passes, same''⟩

/-- The same operation goes through the same worlds. -/
private lemma same_operatePasses_of_calls {operation : Proxy.Operation} (hp : m.proxies p p')
    (same : m.SameWorld j j' w u) (h : World.OperatePasses perform inside H p operation w v) :
    ∃ v', World.OperatePasses perform' inside' K p' operation u v' ∧ m.SameWorld j j' v v' := by
  obtain ⟨proxy, known, idle, h⟩ := h
  have begun := (same.setProxy hp { proxy with busy := true }).record (.began operation hp)
  obtain ⟨v', passes, same'⟩ := same_talkPasses_of_calls calls within hosts hp begun h
  exact ⟨v', ⟨proxy, (same.proxies hp).trans known, idle, passes⟩, same'⟩

/-- The same sweep goes through the same worlds.

**Proof sketch.** Induction on the two lists of proxies. A stop that ended in the first world ended
in the second one too. -/
private lemma same_sweepPasses_of_calls {ps ps' : List ProxyId} (hr : m.registries r r')
    (hps : List.Forall₂ m.proxies ps ps') (same : m.SameWorld j j' w u)
    (h : World.SweepPasses perform inside H r ps w v) :
    ∃ v', World.SweepPasses perform' inside' K r' ps' u v' ∧ m.SameWorld j j' v v' := by
  induction hps generalizing w u with
  | nil =>
    cases h with
    | here => exact ⟨u, .here _ u, same⟩
  | cons hp _ ih =>
    have swept := same.record (.swept hr hp)
    cases h with
    | here => exact ⟨u, .here _ u, same⟩
    | within during =>
      obtain ⟨v', passes, same'⟩ := same_operatePasses_of_calls calls within hosts hp swept during
      exact ⟨v', .within passes, same'⟩
    | after ended later =>
      have first := same_operate_of_calls calls hosts .stop hp swept
      rw [ended] at first
      obtain ⟨result, u', ended', -, same'⟩ := first.of_ok
      obtain ⟨v', passes, same''⟩ := ih same' later
      exact ⟨v', .after ended' passes, same''⟩

end Calls

section Perform

variable {j j' : List Event} {bound : Nat} {w u v : World σ} (hosts : m.SameHost H K)
include hosts

/-- The same sweep returns if the one does.

**Proof sketch.** The two sweeps have the same outcome, and the first of them returned. -/
private lemma same_sweep_ok {r r' : RegistryId} {ps ps' : List ProxyId} (hr : m.registries r r')
    (hps : List.Forall₂ m.proxies ps ps') (same : m.SameWorld j j' w u)
    (ended : World.sweep (World.perform H bound) H r ps w = .ok v) :
    ∃ v', World.sweep (World.perform K bound) K r' ps' u = .ok v' ∧ m.SameWorld j j' v v' := by
  have outcome : m.SameOutcome j j' Eq
      ((World.sweep (World.perform H bound) H r ps w).map (Prod.mk ()))
      ((World.sweep (World.perform K bound) K r' ps' u).map (Prod.mk ())) :=
    same_sweep_of_calls (same_perform hosts) hosts hr hps same
  rw [ended] at outcome
  generalize World.sweep (World.perform K bound) K r' ps' u = y at outcome ⊢
  cases y with
  | error _ => cases outcome
  | ok v' =>
    cases outcome with
    | returned _ worlds => exact ⟨v', rfl, worlds⟩

/-- The same call goes through the same worlds.

**Proof sketch.** Induction on the bound, as for what calls come to. -/
private lemma same_inside {c c' : Call} {A : c.Answer → c'.Answer → Prop} (called : m.Called c c' A)
    (same : m.SameWorld j j' w u) (h : World.Inside H bound c w v) :
    ∃ v', World.Inside K bound c' u v' ∧ m.SameWorld j j' v v' := by
  induction bound generalizing c c' A w u v with
  | zero => cases called <;> exact h.elim
  | succ bound ih =>
    cases called with
    | operate hp operation =>
      exact same_operatePasses_of_calls (same_perform hosts) ih hosts hp same h
    | construct type =>
      exact same_passes_of_calls (same_perform hosts) ih (hosts.construct _) same h
    | reset hr =>
      obtain ⟨x, known, some, h⟩ := h
      rcases same.registry_cases hr with ⟨none, -⟩ | ⟨y, x', known', there, hx⟩
      · cases known.symm.trans none
      obtain rfl := Option.some.inj (known.symm.trans known')
      have some' : x'.entries.isEmpty = false := hx.isEmpty ▸ some
      rcases h with during | ⟨w', swept, later⟩
      · obtain ⟨v', passes, same'⟩ := same_sweepPasses_of_calls (same_perform hosts) ih hosts hr
          hx.members same during
        exact ⟨v', ⟨x', there, some', .inl passes⟩, same'⟩
      · obtain ⟨u', swept', same'⟩ := same_sweep_ok hosts hr hx.members same swept
        have removed := same'.remove hr hx.members
        -- after the first pass the rest is a reset again, within a smaller bound
        rcases later with rfl | later
        · exact ⟨_, ⟨x', there, some', .inr ⟨u', swept', .inl rfl⟩⟩, removed⟩
        · have called := Called.reset hr
          obtain ⟨v', passes, same''⟩ := ih called removed later
          exact ⟨v', ⟨x', there, some', .inr ⟨u', swept', .inr passes⟩⟩, same''⟩
    | establish _ _ | obtain _ _ | entries _ | nameOf _ | observe _ | install _ | installed
    | enter _ | leave _ | current => exact h.elim

/-- **A run goes through the worlds that a run that is alike goes through.** -/
theorem same_passes {α β : Type} {R : α → β → Prop} {a : Activity σ α} {b : Activity σ β}
    (alike : a.Alike m R b) (same : m.SameWorld j j' w u)
    (h : a.Passes (World.perform H bound) (World.Inside H bound) w v) :
    ∃ v', b.Passes (World.perform K bound) (World.Inside K bound) u v' ∧ m.SameWorld j j' v v' :=
  same_passes_of_calls (same_perform hosts) (same_inside hosts) alike same h

end Perform

/-- Whatever world is gone through on the one side, one that is the same is gone through on the
other. -/
structure Accompanies (m : Pairing) (j j' : List Event)
    (passes passes' : World σ → Prop) : Prop where
  there : ∀ v, passes v → ∃ v', passes' v' ∧ m.SameWorld j j' v v'
  back : ∀ v', passes' v' → ∃ v, passes v ∧ m.SameWorld j j' v v'

/-- **Runs that are alike go through the same worlds.** -/
theorem accompanies {α β : Type} {R : α → β → Prop} {a : Activity σ α} {b : Activity σ β}
    {j j' : List Event} {bound : Nat} {w u : World σ} (hosts : m.SameHost H K)
    (alike : a.Alike m R b) (same : m.SameWorld j j' w u) :
    m.Accompanies j j' (a.Passes (World.perform H bound) (World.Inside H bound) w)
      (b.Passes (World.perform K bound) (World.Inside K bound) u) where
  there _ := same_passes hosts alike same
  back v' passes := by
    have alike' : b.Alike m.symm (fun y x => R x y) a := alike.symm fun _ _ h => h
    obtain ⟨v, passes', same'⟩ := same_passes hosts.symm alike' same.symm passes
    exact ⟨v, passes', same'.symm⟩

end Pairing

end Standby
