import Standby.Proofs.World.Passage
set_option autoImplicit false

/-!
# Changes that the library does not see

A world can be changed where the library does not look: another catalog may be current, or the
journal may tell something else. Calls do the same after such a change, as long as the code that
they run does.

## Main definitions

* `Standby.World.Unseen` — a change of worlds that the library does not see.
* `Standby.World.along` — what comes to an end, after a change.

## Main results

* `Standby.World.plain_unseen` — a call that runs no code does the same after the change.
* `Standby.World.operate_unseen`, `Standby.World.reset_unseen` — so do operations and resets, if the
  code that they run does.
-/

namespace Standby

/-- The call neither reads nor changes what is current, as far as the call itself is concerned. -/
def Call.Heedless : Call → Prop
  | .enter _ | .leave _ | .current => False
  | _ => True

namespace World

variable {σ α : Type} {H : Host σ} {f : World σ → World σ} {w : World σ} {p : ProxyId}
  {r : RegistryId} {bound : Nat}

/-- The change leaves proxies and registries as they are, and it does not matter whether it happens
before or after anything is written or recorded. -/
structure Unseen (f : World σ → World σ) : Prop where
  proxies : ∀ w, (f w).proxies = w.proxies
  registries : ∀ w, (f w).registries = w.registries
  installed : ∀ w, (f w).installed = w.installed
  putProxies : ∀ w proxies, { f w with proxies } = f { w with proxies }
  putRegistries : ∀ w registries, { f w with registries } = f { w with registries }
  putInstalled : ∀ w installed, { f w with installed } = f { w with installed }
  record : ∀ w e, (f w).record e = f (w.record e)

/-- What comes to an end, with the change made to the world that it leaves. -/
def along (f : World σ → World σ) (outcome : Except Halt (α × World σ)) :
    Except Halt (α × World σ) :=
  outcome.map fun o => (o.1, f o.2)

namespace Unseen

variable (unseen : Unseen f)
include unseen

/-- A change that nobody sees changes no proxy. -/
private lemma known : (f w).proxy? p = w.proxy? p := by
  rw [proxy?, unseen.proxies, proxy?]

/-- A change that nobody sees changes no registry. -/
private lemma registered : World.registry? (f w) r = w.registry? r := by
  rw [World.registry?, unseen.registries, World.registry?]

/-- A change that nobody sees may come before or after a proxy is replaced. -/
private lemma setProxy {proxy : Proxy} : (f w).setProxy p proxy = f (w.setProxy p proxy) := by
  rw [World.setProxy, unseen.proxies, unseen.putProxies]
  rfl

/-- A change that nobody sees may come before or after a registry is replaced. -/
private lemma setRegistry {registry : Registry} :
    (f w).setRegistry r registry = f (w.setRegistry r registry) := by
  rw [World.setRegistry, unseen.registries, unseen.putRegistries]
  rfl

/-- A change that nobody sees may come before or after a removal. -/
private lemma remove {gone : List ProxyId} : (f w).remove r gone = f (w.remove r gone) := by
  rw [World.remove, World.remove, unseen.registered]
  cases w.registry? r with
  | none => rfl
  | some registry =>
    dsimp only
    rw [unseen.setRegistry, unseen.record]

/-- A change that nobody sees may come before or after a registry is made, which gets the same
identity. -/
private lemma establish (resolver : Resolver) (factory : Factory) :
    (f w).establish resolver factory =
      ((w.establish resolver factory).1, f (w.establish resolver factory).2) := by
  rw [World.establish, World.establish, unseen.registries, unseen.putRegistries]

/-- A change that nobody sees may come before or after a name is registered, which gets the same
proxy. -/
private lemma obtain (name : String) : (f w).obtain r name = along f (w.obtain r name) := by
  rw [World.obtain, World.obtain, unseen.registered]
  cases w.registry? r with
  | none => rfl
  | some registry =>
    cases found : registry.find? name with
    | some p =>
      simp only [found]
      rfl
    | none =>
      simp only [found, unseen.proxies, unseen.putProxies, unseen.setRegistry, unseen.record]
      rfl

/-- A change that nobody sees is not seen by observers of a proxy. -/
private lemma observe : (f w).observe p = along f (w.observe p) := by
  rw [World.observe, World.observe, unseen.known]
  cases w.proxy? p with
  | none => rfl
  | some proxy => cases busy : proxy.busy <;> simp only [busy] <;> rfl

/-- A change that nobody sees may come before or after a registry is installed. -/
private lemma install : (f w).install r = ((w.install r).1, f (w.install r).2) := by
  rw [World.install, World.install, unseen.installed]
  cases w.installed with
  | none =>
    dsimp only
    rw [unseen.putInstalled]
  | some _ => rfl

end Unseen

/-- A call that runs no code of a collaborator's does the same after the change, if it is not itself
about what is current. -/
lemma plain_unseen (unseen : Unseen f) {c : Call} (plain : c.Plain) (heedless : c.Heedless) :
    perform H bound c (f w) = along f (perform H bound c w) := by
  cases c with
  | establish resolver factory =>
    rw [perform, perform, unseen.establish]
    rfl
  | obtain r name =>
    rw [perform, perform]
    exact unseen.obtain name
  | entries r =>
    rw [perform, perform, unseen.registered]
    cases w.registry? r <;> rfl
  | nameOf p =>
    rw [perform, perform, unseen.known]
    cases w.proxy? p <;> rfl
  | observe p =>
    rw [perform, perform]
    exact unseen.observe
  | install r =>
    rw [perform, perform, unseen.install]
    rfl
  | installed =>
    rw [perform, perform, unseen.installed]
    rfl
  | enter _ | leave _ | current => exact heedless.elim
  | operate _ _ | reset _ | construct _ => exact plain.elim

/-- An operation does the same after the change if its dialogue does. -/
lemma operate_unseen (unseen : Unseen f) {perform : Activity.Performance σ}
    {operation : Proxy.Operation}
    (talk : ∀ proxy, w.proxy? p = some proxy → proxy.busy = false →
      let begun := (w.setProxy p { proxy with busy := true }).record (.began p operation)
      converse perform H p proxy.resolver proxy.factory (operation.talk proxy.name proxy.state)
          (f begun) =
        along f (converse perform H p proxy.resolver proxy.factory
          (operation.talk proxy.name proxy.state) begun)) :
    operate perform H p operation (f w) = along f (operate perform H p operation w) := by
  unfold operate
  rw [unseen.known]
  cases known : w.proxy? p with
  | none => rfl
  | some proxy =>
    cases busy : proxy.busy with
    | true =>
      simp only [busy, if_true]
      rfl
    | false =>
      simp only [busy, Bool.false_eq_true, if_false, unseen.setProxy, unseen.record]
      rw [talk proxy known busy]
      cases converse perform H p proxy.resolver proxy.factory
        (operation.talk proxy.name proxy.state)
        ((w.setProxy p { proxy with busy := true }).record (.began p operation)) with
      | error h => rfl
      | ok outcome =>
        simp only [along, Except.map, unseen.setProxy, unseen.record]

/-- A reset does the same after the change if its first sweep does, and what it does after that. -/
lemma reset_unseen (unseen : Unseen f)
    (first : ∀ registry, w.registry? r = some registry → registry.entries.isEmpty = false →
      sweep (perform H bound) H r registry.proxies (f w) =
        (sweep (perform H bound) H r registry.proxies w).map f)
    (later : ∀ registry v, w.registry? r = some registry → registry.entries.isEmpty = false →
      sweep (perform H bound) H r registry.proxies w = .ok v →
      perform H bound (.reset r) (f (v.remove r registry.proxies)) =
        along f (perform H bound (.reset r) (v.remove r registry.proxies))) :
    perform H (bound + 1) (.reset r) (f w) = along f (perform H (bound + 1) (.reset r) w) := by
  rw [perform, perform, unseen.registered]
  cases registered : w.registry? r with
  | none => rfl
  | some registry =>
    cases empty : registry.entries.isEmpty with
    | true =>
      simp only [empty, if_true]
      rfl
    | false =>
      simp only [empty, Bool.false_eq_true, if_false]
      rw [first registry registered empty]
      cases swept : sweep (perform H bound) H r registry.proxies w with
      | error h => rfl
      | ok v =>
        change perform H bound (.reset r) ((f v).remove r registry.proxies) = _
        rw [unseen.remove]
        exact later registry v registered empty swept

end World

end Standby
