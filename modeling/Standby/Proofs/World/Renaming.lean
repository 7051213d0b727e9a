import Standby.Proofs.World.Pairing
set_option autoImplicit false

/-!
# One registry in the place of another

Code that knows a registry may be given another one to know in its place. It does the same then, as
far as it can tell, in a world in which the other registry is what the first one was. A registry
with no entry has two such others: the one that is made next, and the first one in a world in which
nothing happened before.

## Main definitions

* `Standby.Renaming` — what each registry is known as, one for one.
* `Standby.Host.renamed` — the code of all collaborators, who know registries under their other
  names.
* `Standby.World.succession`, `Standby.World.succeeded` — the next registry takes the place of
  another, and the world in which it was made.
* `Standby.World.oblivion`, `Standby.World.anew` — nothing but one registry is remembered, and the
  world in which it is the first one.

## Main results

* `Standby.Renaming.same_host` — hosts that know the registries under different names do the same.
* `Standby.World.same_succeeded`, `Standby.World.same_anew` — a registry with no entry is what its
  successor is, and what the first registry in a world with no past is.

## Design

Names are translated where code calls the library: what it passes on, and what it is given. So the
state that the code keeps is the same, and so is what the code makes of it.
-/

namespace Standby

/-- What each registry is known as. No two are known as the same. -/
structure Renaming where
  rename : RegistryId → RegistryId
  restore : RegistryId → RegistryId
  restore_rename : ∀ r, restore (rename r) = r

variable {σ : Type}

/-! ## Code under other names -/

/-- A call, the registries in it known under their other names. -/
def Call.renamed (n : Renaming) : Call → Call
  | .establish resolver factory => .establish resolver factory
  | .obtain r name => .obtain (n.rename r) name
  | .entries r => .entries (n.rename r)
  | .operate p operation => .operate p operation
  | .nameOf p => .nameOf p
  | .observe p => .observe p
  | .reset r => .reset (n.rename r)
  | .install r => .install (n.rename r)
  | .installed => .installed
  | .construct type => .construct type
  | .enter catalog => .enter catalog
  | .leave guard => .leave guard
  | .current => .current

/-- What the caller makes of the answer, who knows the registries under their own names. -/
def Call.restored (n : Renaming) : (c : Call) → (c.renamed n).Answer → c.Answer
  | .establish _ _, r => n.restore r
  | .obtain _ _, p => p
  | .entries _, es => es
  | .operate _ _, result => result
  | .nameOf _, name => name
  | .observe _, s => s
  | .reset _, done => done
  | .install _, now => now
  | .installed, r => r.map n.restore
  | .construct _, product => product
  | .enter _, guard => guard
  | .leave _, done => done
  | .current, context => context

/-- An activity that knows the registries under their other names. -/
def Activity.renamed (n : Renaming) : {α : Type} → Activity σ α → Activity σ α
  | _, done a => done a
  | _, get next => get fun s => (next s).renamed n
  | _, put s next => put s (next.renamed n)
  | _, call c next => call (c.renamed n) fun answer => (next (c.restored n answer)).renamed n
  | _, thread body next => thread (body.renamed n) fun b => (next b).renamed n

/-- The code of all collaborators, who know the registries under their other names. -/
def Host.renamed (n : Renaming) (H : Host σ) : Host σ where
  resolve reference name := (H.resolve reference name).renamed n
  create reference type := (H.create reference type).renamed n
  construct c := (H.construct c).renamed n
  capability product := (H.capability product).renamed n
  start product := (H.start product).renamed n
  stop product := (H.stop product).renamed n

/-! ## The same under other names -/

namespace Renaming

variable (n : Renaming)

/-- Proxies stand for themselves, and a registry for the one that it is known as. -/
def pairing : Pairing where
  proxies p p' := p = p'
  registries r r' := r' = n.rename r
  proxies_iff := by
    rintro p _ q _ rfl rfl
    rfl
  registries_iff := by
    rintro r _ s _ rfl rfl
    refine ⟨congrArg n.rename, fun h => ?_⟩
    rw [← n.restore_rename r, h, n.restore_rename]

/-- The same entries are the same list. -/
private lemma same_entries_iff {es es' : List Entry} :
    List.Forall₂ n.pairing.SameEntry es es' ↔ es = es' := by
  have same : n.pairing.SameEntry = Eq := by
    ext ⟨name, p⟩ ⟨name', p'⟩
    rw [Entry.mk.injEq]
    exact ⟨fun h => ⟨h.name, h.proxy⟩, fun h => ⟨h.1, h.2⟩⟩
  rw [same, List.forall₂_eq_eq_eq]

/-- A registry stands for itself where all proxies stand for themselves. -/
private lemma same_registry (x : Registry) : n.pairing.SameRegistry x x :=
  ⟨rfl, rfl, n.same_entries_iff.2 rfl⟩

/-- Each call is the same under other names, and so is what the caller makes of the answer.

**Proof sketch.** By cases on the call. Only registries and proxies that are told have to be given
their old names. -/
private lemma called (c : Call) :
    ∃ A, n.pairing.Called c (c.renamed n) A ∧ ∀ x x', A x x' → c.restored n x' = x := by
  cases c with
  | establish resolver factory =>
    refine ⟨_, .establish resolver factory, ?_⟩
    rintro r _ rfl
    exact n.restore_rename r
  | obtain r name => exact ⟨_, .obtain rfl name, fun _ _ same => Eq.symm same⟩
  | entries r => exact ⟨_, .entries rfl, fun _ _ same => (n.same_entries_iff.1 same).symm⟩
  | operate p operation => exact ⟨_, .operate rfl operation, fun _ _ same => Eq.symm same⟩
  | nameOf p => exact ⟨_, .nameOf rfl, fun _ _ same => Eq.symm same⟩
  | observe p => exact ⟨_, .observe rfl, fun _ _ same => Eq.symm same⟩
  | reset r => exact ⟨_, .reset rfl, fun _ _ same => Eq.symm same⟩
  | install r => exact ⟨_, .install rfl, fun _ _ same => Eq.symm same⟩
  | installed =>
    refine ⟨_, .installed, ?_⟩
    rintro _ _ (rfl | _)
    · exact congrArg some (n.restore_rename _)
    · rfl
  | construct type => exact ⟨_, .construct type, fun _ _ same => Eq.symm same⟩
  | enter catalog => exact ⟨_, .enter catalog, fun _ _ same => Eq.symm same⟩
  | leave guard => exact ⟨_, .leave guard, fun _ _ same => Eq.symm same⟩
  | current => exact ⟨_, .current, fun _ _ same => Eq.symm same⟩

/-- An activity does the same under other names.

**Proof sketch.** Induction on the activity. -/
private lemma alike {α : Type} (a : Activity σ α) : a.Alike n.pairing Eq (a.renamed n) := by
  induction a with
  | done a => exact .done rfl
  | get next ih => exact .get ih
  | put s next ih => exact .put s ih
  | call c next ih =>
    obtain ⟨A, called, answers⟩ := n.called c
    refine .call called fun x x' same => ?_
    rw [answers x x' same]
    exact ih x
  | thread body next ihBody ih =>
    refine .thread ihBody fun b b' same => ?_
    subst same
    exact ih b

/-- **Hosts that know the registries under different names do the same.** -/
theorem same_host (H : Host σ) : n.pairing.SameHost H (H.renamed n) where
  resolve _ _ := n.alike _
  create _ _ := n.alike _
  construct _ := n.alike _
  capability _ := n.alike _
  start _ := n.alike _
  stop _ := n.alike _

end Renaming

/-! ## Successors -/

namespace World

variable {w : World σ} {r : RegistryId} {x : Registry}

/-- The registry that is made next takes the place of `r`, and those that are made later move up. -/
def succession (w : World σ) (r : RegistryId) : Renaming where
  rename s :=
    if s = r then ⟨w.registries.length⟩
    else if s.index < w.registries.length then s
    else ⟨s.index + 1⟩
  restore s :=
    if s = ⟨w.registries.length⟩ then r
    else if s.index < w.registries.length then s else ⟨s.index - 1⟩
  restore_rename s := by
    obtain ⟨i⟩ := s
    obtain ⟨k⟩ := r
    simp only [RegistryId.mk.injEq]
    grind

/-- The registry that is succeeded gets the place after all others. -/
lemma rename_self : (w.succession r).rename r = ⟨w.registries.length⟩ := if_pos rfl

/-- The other registries that there are keep their places. -/
private lemma rename_earlier {s : RegistryId} (h : s ≠ r)
    (earlier : s.index < w.registries.length) :
    (w.succession r).rename s = s := by simp [succession, h, earlier]

/-- Registries that are made later move one place on, since their place is taken by the
successor. -/
private lemma rename_later {s : RegistryId} (h : s ≠ r) (later : w.registries.length ≤ s.index) :
    (w.succession r).rename s = ⟨s.index + 1⟩ := by simp [succession, h, Nat.not_lt.2 later]

/-- The world in which a new registry was made with the collaborators of `x`. It is installed for
everyone if `r` was. -/
def succeeded (w : World σ) (r : RegistryId) (x : Registry) : World σ :=
  { (w.establish x.resolver x.factory).2 with installed := w.installed.map (w.succession r).rename }

/-- **A registry with no entry is what its successor is.**

**Proof sketch.** The new registry takes the place of the one without entries, and has the same
collaborators. Every other registry and every proxy stands for itself. -/
theorem same_succeeded (known : w.registry? r = some x) (empty : x.entries = []) :
    (w.succession r).pairing.SameWorld w.journal w.journal w (w.succeeded r x) where
  proxies := by
    rintro p _ rfl
    rfl
  registries := by
    rintro s _ rfl
    by_cases h : s = r
    · subst h
      have new : World.registry? (w.succeeded s x) ⟨w.registries.length⟩ =
          some ⟨x.resolver, x.factory, []⟩ := by
        simp [succeeded, establish, registry?]
      rw [known, rename_self, new]
      refine .some ⟨rfl, rfl, ?_⟩
      rw [empty]
      exact .nil
    · rcases Nat.lt_or_ge s.index w.registries.length with earlier | later
      · have old : w.registry? s = some w.registries[s.index] := List.getElem?_eq_getElem earlier
        rw [rename_earlier h earlier, succeeded]
        change Option.Rel _ _ <| World.registry? (w.establish x.resolver x.factory).2 s
        rw [known_establish old, old]
        exact .some (Renaming.same_registry _ _)
      · have none : w.registry? s = none := List.getElem?_eq_none later
        have none' : World.registry? (w.succeeded r x) ⟨s.index + 1⟩ = .none :=
          List.getElem?_eq_none (by simpa [succeeded, establish] using later)
        rw [rename_later h later, none, none']
        exact .none
  nextProxies _ := rfl
  nextRegistries k := by
    have there : r.index < w.registries.length := (List.getElem?_eq_some_iff.1 known).1
    have h : (⟨w.registries.length + k⟩ : RegistryId) ≠ r := by
      rintro rfl
      exact absurd there (by simp)
    change _ = (w.succession r).rename _
    rw [rename_later h (Nat.le_add_right _ _)]
    simp [succeeded, establish, Nat.add_right_comm]
  context := rfl
  installed := by
    change Option.Rel _ w.installed (w.installed.map _)
    cases w.installed with
    | none => exact .none
    | some s => exact .some rfl
  host := rfl
  happened := ⟨[], [], rfl, rfl, .nil⟩

/-! ## Worlds with no past -/

/-- The registry `r` is the first one that there is, and what is made later comes after it. Nothing
stands for what was there besides. -/
def oblivion (w : World σ) (r : RegistryId) : Pairing where
  proxies p p' := p.index = w.proxies.length + p'.index
  registries s s' :=
    if s = r then s'.index = 0 else 0 < s'.index ∧ s.index + 1 = w.registries.length + s'.index
  proxies_iff := by
    rintro ⟨i⟩ ⟨i'⟩ ⟨k⟩ ⟨k'⟩ hp hq
    simp only [ProxyId.mk.injEq] at hp hq ⊢
    omega
  registries_iff := by
    rintro ⟨i⟩ ⟨i'⟩ ⟨k⟩ ⟨k'⟩ hr hs
    obtain ⟨n⟩ := r
    simp only [RegistryId.mk.injEq] at hr hs ⊢
    split at hr <;> split at hs <;> omega

/-- The registry stands for the only one of the world in which nothing has happened. -/
lemma oblivion_first : (w.oblivion r).registries r ⟨0⟩ := by simp [oblivion]

/-- The world in which nothing happened but that a registry was made with the collaborators of `x`.
It is installed for everyone if one was. -/
def anew (w : World σ) (x : Registry) : World σ :=
  { ({ host := w.host, context := w.context : World σ }.establish x.resolver x.factory).2 with
    installed := w.installed.map fun _ => ⟨0⟩ }

/-- **A registry with no entry is what the first one in a world with no past is.**

**Proof sketch.** No proxy that there is has a counterpart, and of the registries only the one
without entries has. What is made later gets numbers that correspond. -/
theorem same_anew (known : w.registry? r = some x) (empty : x.entries = [])
    (only : ∀ s, w.installed = some s → s = r) :
    (w.oblivion r).SameWorld w.journal [] w (w.anew x) where
  proxies {p p'} hp := by
    have none : w.proxy? p = none := List.getElem?_eq_none (Nat.le.intro hp.symm)
    rw [none]
    rfl
  registries {s s'} hs := by
    change if s = r then _ else _ at hs
    split at hs
    next h =>
      obtain ⟨i⟩ := s'
      obtain rfl : i = 0 := hs
      subst h
      rw [known]
      refine .some ⟨rfl, rfl, ?_⟩
      rw [empty]
      exact .nil
    next h =>
      have none : w.registry? s = none := List.getElem?_eq_none (by omega)
      have none' : World.registry? (w.anew x) s' = .none := List.getElem?_eq_none hs.1
      rw [none, none']
      exact .none
  nextProxies k := by simp [oblivion, anew, establish]
  nextRegistries k := by
    have there : r.index < w.registries.length := (List.getElem?_eq_some_iff.1 known).1
    have h : (⟨w.registries.length + k⟩ : RegistryId) ≠ r := by
      rintro rfl
      exact absurd there (by simp)
    simp only [oblivion, h, if_false, anew, establish]
    simp
    omega
  context := rfl
  installed := by
    change Option.Rel _ w.installed (w.installed.map _)
    cases h : w.installed with
    | none => exact .none
    | some s =>
      obtain rfl := only s h
      exact .some oblivion_first
  host := rfl
  happened := ⟨[], [], rfl, rfl, .nil⟩

end World

end Standby
