import Standby.Proofs.Initialization
import Standby.Proofs.World.Calls
import Standby.Registry.Bulk
set_option autoImplicit false

/-!
# Applying a manifest to a registry that does not know its names

Each declaration registers its name, and one that is marked requests a start. Since nothing is
resolved yet no collaborator is called: the requests are only recorded.

## Main definitions

* `Standby.Declaration.proxy` — the proxy that a declaration leads to.
* `Standby.assigned`, `Standby.entryOf` — the declarations with their proxies, and the entries of
  these.
* `Standby.World.Prepares` — what applying declarations does.

## Main results

* `Standby.World.prepares_of_free` — applying declarations whose names are free comes to its end.
-/

namespace Standby

variable {σ : Type} {H : Host σ}

/-- The proxy that a declaration leads to where its name is free: nothing is known of its component
but whether it is to be started. -/
def Declaration.proxy (resolver : Resolver) (factory : Factory) (d : Declaration) : Proxy where
  name := d.name
  resolver := resolver
  factory := factory
  state := { startRequested := d.start }

/-- The declarations with their proxies where the names are free, if `next` is the number of the
next proxy. -/
def assigned (next : Nat) : List Declaration → List (Declaration × ProxyId)
  | [] => []
  | d :: rest => (d, ⟨next⟩) :: assigned (next + 1) rest

/-- The entry of a declaration with its proxy. -/
def entryOf (x : Declaration × ProxyId) : Entry := ⟨x.1.name, x.2⟩

section Assigned

variable {next : Nat} {declared : List Declaration}

/-- The names that get a proxy assigned are those that are declared, in the same order. -/
@[simp] lemma map_fst_assigned : (assigned next declared).map Prod.fst = declared := by
  induction declared generalizing next with
  | nil => rfl
  | cons d rest ih => rw [assigned, List.map_cons, ih]

/-- Proxies are numbered from `next` on. -/
private lemma le_of_mem_assigned {x : Declaration × ProxyId} (h : x ∈ assigned next declared) :
    next ≤ x.2.index := by
  induction declared generalizing next with
  | nil => cases h
  | cons d rest ih =>
    rcases List.mem_cons.mp h with rfl | h
    · exact Nat.le_refl next
    · exact Nat.le_of_succ_le (ih h)

/-- No two declarations have the same proxy. -/
lemma nodup_assigned : ((assigned next declared).map Prod.snd).Nodup := by
  induction declared generalizing next with
  | nil => exact List.nodup_nil
  | cons d rest ih =>
    refine List.nodup_cons.mpr ⟨fun again => ?_, ih⟩
    obtain ⟨x, hx, same⟩ := List.mem_map.mp again
    have after := le_of_mem_assigned hx
    rw [same] at after
    exact Nat.not_succ_le_self next after

/-- The proxies are where their numbers say. -/
lemma getElem?_assigned {before : List Proxy} {make : Declaration → Proxy}
    {x : Declaration × ProxyId} (h : x ∈ assigned before.length declared) :
    (before ++ declared.map make)[x.2.index]? = some (make x.1) := by
  induction declared generalizing before with
  | nil => cases h
  | cons d rest ih =>
    rcases List.mem_cons.mp h with rfl | h
    · simp
    · have length : (before ++ [make d]).length = before.length + 1 := by simp
      rw [← length] at h
      simpa using ih h

end Assigned

namespace World

variable {w v w' : World σ} {r : RegistryId} {p : ProxyId} {registry : Registry} {proxy : Proxy}

/-- What applying declarations to the registry `r`, to which their names are new, did on the way
from `w` to `w'`: the names are registered in order, the requests are recorded, and no collaborator
is called. -/
structure Prepares (r : RegistryId) (registry : Registry) (declared : List Declaration)
    (w w' : World σ) : Prop where
  registered : w'.registry? r =
    some { registry with
      entries := registry.entries ++ (assigned w.proxies.length declared).map entryOf }
  proxies : w'.proxies = w.proxies ++
    declared.map (Declaration.proxy registry.resolver registry.factory)
  context : w'.context = w.context
  host : w'.host = w.host
  told : ∃ news, w'.journal = news ++ w.journal ∧ ∀ e ∈ news, ∀ p, ¬ e.Asks p

/-- A start of an idle proxy whose type is unknown records the request and calls nobody. -/
lemma operate_start_deferred {perform : Activity.Performance σ} (known : w.proxy? p = some proxy)
    (idle : proxy.busy = false) (unresolved : proxy.state.type = none) :
    operate perform H p .start w = .ok (.ok (),
      ((((w.setProxy p { proxy with busy := true }).record (.began p .start)).setProxy p
        { proxy with state := { proxy.state with startRequested := true } }).record
          (.ended p .start (.ok ())))) := by
  rw [operate, known]
  simp only [idle, Bool.false_eq_true, if_false, Proxy.Operation.talk, Proxy.start, unresolved]
  rfl

/-- A name that is free is registered, and its start requested if it is marked.

**Proof sketch.** The name is free, so the call for a proxy registers a new one, and this is
unresolved. If a start is asked for, it is put down as requested and returns without a call of any
collaborator. -/
private lemma declare_prepares (bound : Nat) (known : w.registry? r = some registry)
    {d : Declaration} (free : ∀ e ∈ registry.entries, e.name ≠ d.name) :
    ∃ w', (Registry.declare r d).run (perform H (bound + 1)) w = .ok (.ok (), w') ∧
      Prepares r registry [d] w w' := by
  let fresh : Proxy :=
    { name := d.name, resolver := registry.resolver, factory := registry.factory }
  let more : World σ := { w with proxies := w.proxies ++ [fresh] }
  let v := (more.setRegistry r (registry.insert d.name ⟨w.proxies.length⟩)).record
    (.registered r d.name ⟨w.proxies.length⟩)
  have missing : registry.find? d.name = none := by simpa [Registry.find?] using free
  have obtained : perform H (bound + 1) (.obtain r d.name) w = .ok (⟨w.proxies.length⟩, v) := by
    simp only [perform, World.obtain, known, missing]
    rfl
  have registered : v.registry? r = some (registry.insert d.name ⟨w.proxies.length⟩) :=
    known_setRegistry_self (w := more) known
  have there : v.proxy? ⟨w.proxies.length⟩ = some fresh := by
    show (w.proxies ++ [fresh])[w.proxies.length]? = some fresh
    simp
  have run : (Registry.declare r d).run (perform H (bound + 1)) w =
      (if d.start then Activity.operate ⟨w.proxies.length⟩ .start else pure (.ok ())).run
        (perform H (bound + 1)) v := Activity.run_call obtained
  rw [run]
  cases marked : d.start with
  | false =>
    refine ⟨v, rfl, {
      registered := registered
      proxies := ?_
      context := rfl
      host := rfl
      told := ⟨[.registered r d.name ⟨w.proxies.length⟩], rfl, by simp [Event.Asks]⟩ }⟩
    rw [List.map_singleton, Declaration.proxy, marked]
    rfl
  | true =>
    rw [if_pos rfl, run_operate, operate_start_deferred there rfl rfl]
    refine ⟨_, rfl, {
      registered := registered
      proxies := ?_
      context := rfl
      host := rfl
      told := ⟨[.ended ⟨w.proxies.length⟩ .start (.ok ()), .began ⟨w.proxies.length⟩ .start,
        .registered r d.name ⟨w.proxies.length⟩], rfl, by simp [Event.Asks]⟩ }⟩
    show ((w.proxies ++ [fresh]).set w.proxies.length _).set w.proxies.length _ = _
    rw [List.map_singleton, Declaration.proxy, marked]
    simp [fresh]

/-- To apply no declarations does nothing. -/
private lemma Prepares.nil (known : w.registry? r = some registry) :
    Prepares r registry [] w w where
  registered := by simp [known, assigned]
  proxies := by simp
  context := rfl
  host := rfl
  told := ⟨[], rfl, by simp⟩

/-- The first declaration is applied, and then the others.

**Proof sketch.** The proxies and the entries of the second part are put behind those of the first,
and their numbers go on where the first part ended. -/
private lemma Prepares.cons {d : Declaration} {rest : List Declaration}
    (first : Prepares r registry [d] w v)
    (later : Prepares r { registry with
      entries := registry.entries ++ (assigned w.proxies.length [d]).map entryOf } rest v w') :
    Prepares r registry (d :: rest) w w' where
  registered := by
    have length : v.proxies.length = w.proxies.length + 1 := by simp [first.proxies]
    rw [later.registered, length]
    simp [assigned]
  proxies := by
    rw [later.proxies, first.proxies]
    simp
  context := later.context.trans first.context
  host := later.host.trans first.host
  told := by
    obtain ⟨news, hv, quiet⟩ := first.told
    obtain ⟨more, hw', quiet'⟩ := later.told
    refine ⟨more ++ news, journal_trans hv hw', fun e he => ?_⟩
    exact (List.mem_append.mp he).elim (quiet' e) (quiet e)

/-- Declarations whose names are free, and none of them declared twice, are applied to the last, and
no collaborator is called.

**Proof sketch.** Induction on the declarations. The names of those that are left stay free, since
another name is registered. -/
lemma prepares_of_free (bound : Nat) (known : w.registry? r = some registry)
    {declared : List Declaration} (distinct : (declared.map Declaration.name).Nodup)
    (free : ∀ d ∈ declared, ∀ e ∈ registry.entries, e.name ≠ d.name) :
    ∃ w', (Activity.untilFailure (declared.map (Registry.declare r))).run
      (perform H (bound + 1)) w =
        .ok (.ok (), w') ∧ Prepares r registry declared w w' := by
  induction declared generalizing w registry with
  | nil => exact ⟨w, rfl, .nil known⟩
  | cons d rest ih =>
    obtain ⟨here, later⟩ := List.forall_mem_cons.mp free
    obtain ⟨once, distinct⟩ := List.nodup_cons.mp distinct
    obtain ⟨v, hfirst, first⟩ := declare_prepares (H := H) bound known here
    have stillFree : ∀ d' ∈ rest,
        ∀ e ∈ registry.entries ++ (assigned w.proxies.length [d]).map entryOf,
          e.name ≠ d'.name := by
      intro d' hd' e he
      rcases List.mem_append.mp he with he | he
      · exact later d' hd' e he
      · obtain rfl : e = ⟨d.name, ⟨w.proxies.length⟩⟩ := by simpa [assigned, entryOf] using he
        exact fun same => once (List.mem_map.mpr ⟨d', hd', same.symm⟩)
    obtain ⟨w', hrest, prepared⟩ := ih first.registered distinct stillFree
    refine ⟨w', ?_, first.cons prepared⟩
    rw [List.map_cons, Activity.untilFailure, Activity.run_bind, hfirst]
    exact hrest

end World

end Standby
