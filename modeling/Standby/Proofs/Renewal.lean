import Standby.Proofs.Atomicity
import Standby.Proofs.World.Companion
import Standby.Proofs.World.Renaming
import Standby.Proofs.World.Roster
import Standby.Registry.Bulk
set_option autoImplicit false

/-!
# A reset makes a registry new

After a reset a registry behaves as one that was just made. Whoever addresses proxies by name cannot
tell the two apart, neither by the answers nor by the calls that collaborators get. The proxies that
the reset removed live on with whoever holds them, and what is done to them by itself concerns
neither the registry nor its proxies.

## Main definitions

* `Standby.Registry.Errand`, `Standby.Registry.errands` — what a client does who addresses proxies
  by name.
* `Standby.collaboration` — the calls of collaborators that a journal tells of.
* `Standby.Pairing.Indistinct`, `Standby.Pairing.Replaces` — activities, and registries, that nobody
  can tell apart.
* `Standby.World.Detached` — all that an operation on a proxy does that is gone from a registry.
* `Standby.World.Renewed` — what a reset makes of a registry.

## Main results

* `Standby.Registry.alike_errands` — errands are alike for clients who hold the same proxies.
* `Standby.Pairing.indistinct` — nobody can tell activities apart that are alike in the same world.
* `Standby.World.detached_of_removed` — operations on removed proxies do nothing by themselves.
* `Standby.World.reset_renews` — a reset makes a registry new.

## Design

A client who addresses proxies by name holds on to those that it was given, and may ask whether two
of them are the same. So it is told each proxy by its place among those that it holds. It may hold
proxies from before the reset as well, and operate on them between its other errands.
-/

namespace Standby

variable {σ : Type}

/-! ## Errands -/

namespace Registry

/-- What a client does with a registry, and with the proxies that it was given, each known by its
place among them. -/
inductive Errand where
  | obtain (name : String)
  | find (name : String)
  | holds (name : String)
  | names
  | count
  | vacant
  | snapshots
  | resolveAll
  | apply (manifest : Manifest)
  | reset
  | operate (place : Nat) (operation : Proxy.Operation)
  | observe (place : Nat)

/-- What the client is told. -/
inductive Reply where
  | proxy (place : Option Nat)
  | flag (b : Bool)
  | names (names : List String)
  | count (n : Nat)
  | records (records : List Status)
  | result (result : Except ProxyError Unit)
  | shown (name : String) (s : Proxy.State)
  | nothing

/-- Does something with the proxy at a place. -/
def withHeld (held : List ProxyId) (place : Nat) (f : ProxyId → Activity σ Reply) :
    Activity σ (Reply × List ProxyId) :=
  match held[place]? with
  | none => pure (.nothing, held)
  | some p => do pure (← f p, held)

/-- Does an errand for a client who holds these proxies, and gives the reply and the proxies that
the client holds then. -/
def Errand.carryOut (r : RegistryId) (held : List ProxyId) :
    Errand → Activity σ (Reply × List ProxyId)
  | .obtain name => do
    let p ← Activity.obtain r name
    pure (.proxy (some (held.idxOf p)), held ++ [p])
  | .find name => do
    let found ← Registry.findIn r name
    pure (.proxy (found.map held.idxOf), held ++ found.toList)
  | .holds name => do pure (.flag (← Registry.holds r name), held)
  | .names => do pure (.names (← Registry.namesOf r), held)
  | .count => do pure (.count (← Registry.count r), held)
  | .vacant => do pure (.flag (← Registry.vacant r), held)
  | .snapshots => do pure (.records (← Registry.snapshots r), held)
  | .resolveAll => do pure (.result (← Registry.resolveAll r), held)
  | .apply manifest => do pure (.result (← Registry.apply r manifest), held)
  | .reset => do
    Activity.reset r
    pure (.nothing, held)
  | .operate place operation => withHeld held place fun p => do
    pure (.result (← Activity.operate p operation))
  | .observe place => withHeld held place fun p => do
    let name ← Activity.nameOf p
    let s ← Activity.observe p
    pure (.shown name s)

/-- Does errands one after the other, and gives all replies. -/
def errands (r : RegistryId) : List ProxyId → List Errand → Activity σ (List Reply)
  | _, [] => pure []
  | held, errand :: rest => do
    let (reply, held) ← errand.carryOut r held
    pure (reply :: (← errands r held rest))

end Registry

/-! ## Errands that are alike -/

section Alike

variable {m : Pairing} {r r' : RegistryId} {held held' : List ProxyId}

namespace Registry

variable (hr : m.registries r r')
include hr

/-- An activity that starts from the entries is alike if it makes the same of the same entries. -/
private lemma alike_of_entries {α β : Type} {R : α → β → Prop} {f : List Entry → Activity σ α}
    {f' : List Entry → Activity σ β}
    (h : ∀ es es', List.Forall₂ m.SameEntry es es' → (f es).Alike m R (f' es')) :
    (Activity.entries r >>= f).Alike m R (Activity.entries r' >>= f') :=
  .bind (.query (.entries hr)) h

/-- To look a name up in two registries that stand for each other is alike, and so are the proxies
that are found. -/
private lemma alike_findIn (name : String) :
    (findIn r name : Activity σ _).Alike m (Option.Rel m.proxies) (findIn r' name) := by
  refine alike_of_entries hr fun es es' same => .done ?_
  have registries : m.SameRegistry { entries := es } { entries := es' } := ⟨rfl, rfl, same⟩
  exact registries.find? name

/-- Two registries that stand for each other hold the same names. -/
private lemma alike_holds (name : String) :
    (holds r name : Activity σ _).Alike m Eq (holds r' name) := by
  refine .bind (alike_findIn hr name) fun found found' same => .done ?_
  cases same <;> rfl

/-- Two registries that stand for each other list the same names in the same order. -/
private lemma alike_namesOf : (namesOf r : Activity σ _).Alike m Eq (namesOf r') := by
  refine alike_of_entries hr fun es es' same => .done ?_
  induction same with
  | nil => rfl
  | cons he _ ih => rw [List.map_cons, List.map_cons, he.name, ih]

/-- Two registries that stand for each other have the same number of entries. -/
private lemma alike_count : (count r : Activity σ _).Alike m Eq (count r') :=
  alike_of_entries hr fun _ _ same => .done same.length_eq

/-- Of two registries that stand for each other, both are vacant or none is. -/
private lemma alike_vacant : (vacant r : Activity σ _).Alike m Eq (vacant r') := by
  refine alike_of_entries hr fun es es' same => .done ?_
  cases same <;> rfl

/-- Two registries that stand for each other show the same records. -/
private lemma alike_snapshots : (snapshots r : Activity σ _).Alike m Eq (snapshots r') := by
  refine alike_of_entries hr fun es es' same => .bind (.mapM (same.imp ?_)) fun _ _ h => .done ?_
  · intro e e' he
    refine .bind (.nameOf he.proxy) fun _ _ names => .bind (.observe he.proxy) fun _ _ states => ?_
    refine .done ?_
    rw [names, states]
  · rw [h]

/-- To resolve all proxies of two registries that stand for each other is alike. -/
private lemma alike_resolveAll : (resolveAll r : Activity σ _).Alike m Eq (resolveAll r') := by
  refine alike_of_entries hr fun es es' same => .untilFailure ?_
  rw [List.forall₂_map_left_iff, List.forall₂_map_right_iff]
  exact same.imp fun _ _ he => .query (.operate he.proxy .resolve)

/-- To apply a manifest to two registries that stand for each other is alike. -/
private lemma alike_apply (manifest : Manifest) :
    (apply r manifest : Activity σ _).Alike m Eq (apply r' manifest) := by
  refine .untilFailure ?_
  rw [List.forall₂_map_left_iff, List.forall₂_map_right_iff, List.forall₂_same]
  intro d _
  refine .bind (.query (.obtain hr d.name)) fun p p' hp => ?_
  cases d.start with
  | true => exact .query (.operate hp .start)
  | false => exact .done rfl

omit hr in
/-- To be told the same is alike. -/
private lemma alike_told {α : Type} {a a' : Activity σ α} (alike : a.Alike m Eq a')
    (reply : α → Reply) (hheld : List.Forall₂ m.proxies held held') :
    (a >>= fun x => pure (reply x, held)).Alike m
      (fun x x' => x.1 = x'.1 ∧ List.Forall₂ m.proxies x.2 x'.2)
      (a' >>= fun x => pure (reply x, held')) :=
  .bind alike fun _ _ same => .done ⟨congrArg reply same, hheld⟩

omit hr in
/-- What is done with a proxy that a client holds is alike, if the clients hold proxies that stand
for each other in the same places and it is alike for all of these. -/
private lemma alike_withHeld {place : Nat} {f : ProxyId → Activity σ Reply}
    (hheld : List.Forall₂ m.proxies held held')
    (h : ∀ p p', m.proxies p p' → (f p).Alike m Eq (f p')) :
    (withHeld held place f).Alike m (fun x x' => x.1 = x'.1 ∧ List.Forall₂ m.proxies x.2 x'.2)
      (withHeld held' place f) := by
  have same := Pairing.getElem?_rel hheld place
  rw [withHeld, withHeld]
  generalize held[place]? = found, held'[place]? = found' at same
  cases same with
  | none => exact .done ⟨rfl, hheld⟩
  | some hp => exact alike_told (h _ _ hp) id hheld

/-- An errand is alike for clients who hold the same proxies, and they hold the same afterwards.

**Proof sketch.** By cases on the errand. Each of them is a query of the registry or of a proxy, for
which likeness is known. A proxy that is got is put at the same place in both lists, and a proxy
that is used is taken from the same place. -/
private lemma Errand.alike (errand : Errand) (hheld : List.Forall₂ m.proxies held held') :
    (errand.carryOut r held : Activity σ _).Alike m
      (fun x x' => x.1 = x'.1 ∧ List.Forall₂ m.proxies x.2 x'.2) (errand.carryOut r' held') := by
  cases errand with
  | obtain name =>
    refine .bind (.query (.obtain hr name)) fun p p' hp => .done ⟨?_, ?_⟩
    · rw [Pairing.idxOf_eq hp hheld]
    · exact List.rel_append hheld (.cons hp .nil)
  | find name =>
    refine .bind (alike_findIn hr name) fun found found' same => .done ?_
    cases same with
    | none => exact ⟨rfl, List.rel_append hheld .nil⟩
    | some hp =>
      refine ⟨?_, List.rel_append hheld (.cons hp .nil)⟩
      rw [Option.map_some, Option.map_some, Pairing.idxOf_eq hp hheld]
  | holds name => exact alike_told (alike_holds hr name) .flag hheld
  | names => exact alike_told (alike_namesOf hr) .names hheld
  | count => exact alike_told (alike_count hr) .count hheld
  | vacant => exact alike_told (alike_vacant hr) .flag hheld
  | snapshots => exact alike_told (alike_snapshots hr) .records hheld
  | resolveAll => exact alike_told (alike_resolveAll hr) .result hheld
  | apply manifest => exact alike_told (alike_apply hr manifest) .result hheld
  | reset => exact alike_told (.reset hr) (fun _ => .nothing) hheld
  | operate place operation =>
    refine alike_withHeld hheld fun p p' hp => ?_
    refine .bind (.query (.operate hp operation)) fun _ _ same => .done ?_
    rw [same]
  | observe place =>
    refine alike_withHeld hheld fun p p' hp => ?_
    refine .bind (.nameOf hp) fun _ _ names => .bind (.observe hp) fun _ _ states => .done ?_
    rw [names, states]

/-- Errands are alike for clients who hold the same proxies. -/
theorem alike_errands (rest : List Errand) (hheld : List.Forall₂ m.proxies held held') :
    (errands r held rest : Activity σ _).Alike m Eq (errands r' held' rest) := by
  induction rest generalizing held held' with
  | nil => exact .done rfl
  | cons errand rest ih =>
    refine .bind (errand.alike hr hheld) fun x x' same => ?_
    refine .bind (ih same.2) fun replies replies' later => .done ?_
    rw [same.1, later]

end Registry

end Alike

/-! ## What clients and collaborators see -/

/-- That a collaborator was called, or what it answered. -/
def Event.contact? : Event → Option (Request ⊕ Exchange)
  | .asked _ q => some (.inl q)
  | .answered _ exchange => some (.inr exchange)
  | .registered _ _ _ | .swept _ _ | .removed _ _ | .began _ _ | .ended _ _ _ => none

/-- The calls of collaborators that a journal tells of, and their answers, in order. -/
def collaboration (news : List Event) : List (Request ⊕ Exchange) :=
  news.reverse.filterMap Event.contact?

/-- One more event adds to the collaboration the contact that it is, if it is one. -/
private lemma collaboration_cons (e : Event) (news : List Event) :
    collaboration (e :: news) = collaboration news ++ e.contact?.toList := by
  cases h : e.contact? <;> simp [collaboration, h]

namespace Pairing

variable {m : Pairing} {H K : Host σ} {r r' : RegistryId} {w u : World σ} {j j' : List Event}
  {α : Type} {a : α}

/-- Where the same happened, collaborators were called alike. -/
private lemma collaboration_eq {news news' : List Event} (h : List.Forall₂ m.SameEvent news news') :
    collaboration news = collaboration news' := by
  induction h with
  | nil => rfl
  | cons same _ ih =>
    rw [collaboration_cons, collaboration_cons, ih]
    cases same <;> rfl

/-- Worlds that nobody can tell apart: they are the same but for identities, and collaborators were
called alike since the journals were `j` and `j'`. -/
structure Accords (m : Pairing) (j j' : List Event) (w u : World σ) : Prop where
  same : m.SameWorld j j' w u
  calls : ∃ news news', w.journal = news ++ j ∧ u.journal = news' ++ j' ∧
    collaboration news = collaboration news'

/-- Worlds that are the same up to the pairing accord with each other, as far as anybody can tell
who addresses proxies by name. -/
private lemma SameWorld.accords (same : m.SameWorld j j' w u) : m.Accords j j' w u := by
  obtain ⟨news, news', hw, hu, events⟩ := same.happened
  exact ⟨same, news, news', hw, hu, collaboration_eq events⟩

/-- What two runs come to that nobody can tell apart: they halt for the same reason, or give the
same answer. -/
inductive Concludes (m : Pairing) (j j' : List Event) {α : Type} :
    Except Halt (α × World σ) → Except Halt (α × World σ) → Prop
  | halted {h h' : Halt} (same : m.SameHalt h h') : Concludes m j j' (.error h) (.error h')
  | returned {a : α} {w u : World σ} (accords : m.Accords j j' w u) :
    Concludes m j j' (.ok (a, w)) (.ok (a, u))

/-- A run that nobody can tell from one that returns gives the same answer. -/
private lemma Concludes.answer {y : Except Halt (α × World σ)}
    (h : m.Concludes j j' (.ok (a, w)) y) : ∃ u, y = .ok (a, u) := by
  cases h with
  | returned => exact ⟨_, rfl⟩

/-- Nobody can tell the activity `a`, carried out in `w` with the collaborators `H`, from `b`,
carried out in `u` with the collaborators `K`, at its end or at any moment before. -/
structure Indistinct (m : Pairing) (H K : Host σ) (a b : Activity σ α) (w u : World σ) : Prop where
  concludes : ∀ bound, m.Concludes w.journal u.journal (a.perform H bound w) (b.perform K bound u)
  there : ∀ bound v, a.Passes (World.perform H bound) (World.Inside H bound) w v →
    ∃ v', b.Passes (World.perform K bound) (World.Inside K bound) u v' ∧
      m.Accords w.journal u.journal v v'
  back : ∀ bound v', b.Passes (World.perform K bound) (World.Inside K bound) u v' →
    ∃ v, a.Passes (World.perform H bound) (World.Inside H bound) w v ∧
      m.Accords w.journal u.journal v v'

/-- **Nobody can tell activities apart that are alike in the same world.**

**Proof sketch.** Alike activities end alike and pass through worlds that correspond, and
corresponding worlds tell the same to whoever looks at them. -/
theorem indistinct {a b : Activity σ α} (hosts : m.SameHost H K) (alike : a.Alike m Eq b)
    (same : m.SameWorld w.journal u.journal w u) : m.Indistinct H K a b w u where
  concludes bound := by
    have outcome : m.SameOutcome w.journal u.journal Eq (a.perform H bound w)
        (b.perform K bound u) :=
      same_run hosts alike same
    generalize a.perform H bound w = x, b.perform K bound u = x' at outcome ⊢
    cases outcome with
    | halted h => exact .halted h
    | returned answers same' =>
      subst answers
      exact .returned same'.accords
  there bound v passes := by
    obtain ⟨v', passes', same'⟩ := (accompanies hosts alike same).there v passes
    exact ⟨v', passes', same'.accords⟩
  back bound v' passes := by
    obtain ⟨v, passes', same'⟩ := (accompanies hosts alike same).back v' passes
    exact ⟨v, passes', same'.accords⟩

/-- Nobody who addresses proxies by name can tell the registry `r` of the world `w` from the
registry `r'` of `u`, where `H` and `K` are the collaborators. -/
def Replaces (m : Pairing) (H K : Host σ) (r r' : RegistryId) (w u : World σ) : Prop :=
  ∀ held held' rest, List.Forall₂ m.proxies held held' →
    m.Indistinct H K (Registry.errands r held rest) (Registry.errands r' held' rest) w u

/-- What stands for a registry in the same world replaces it. -/
private lemma replaces (hosts : m.SameHost H K) (hr : m.registries r r')
    (same : m.SameWorld w.journal u.journal w u) : m.Replaces H K r r' w u :=
  fun _ _ rest hheld => indistinct hosts (Registry.alike_errands hr rest hheld) same

end Pairing

/-! ## Proxies that were removed -/

namespace World

variable {H : Host σ} {w w' : World σ} {r : RegistryId} {p : ProxyId} {operation : Proxy.Operation}
  {result : Except ProxyError Unit} {bound : Nat}

/-- All that an operation does from `w` to `w'` on a proxy that is gone from the registry `r`. What
is registered afterwards, and the state of all other proxies, is what the code that it calls leaves
if this code is carried out on its own. -/
structure Detached (H : Host σ) (bound : Nat) (w w' : World σ) (r : RegistryId) (p : ProxyId)
    (operation : Proxy.Operation) : Prop where
  gone : p ∉ w.members r
  remains : p ∉ w'.members r
  alone : ∃ proxy v, w.proxy? p = some proxy ∧
    (H.serving proxy.resolver proxy.factory
      ((exchanges (perform H bound) H p operation w).map Sigma.fst)).run (perform H bound) w =
        .ok (exchanges (perform H bound) H p operation w, v) ∧
    (∀ s, w'.entriesOf s = v.entriesOf s) ∧ ∀ q, q ≠ p → w'.proxy? q = v.proxy? q

/-- **Operations on removed proxies do nothing by themselves.**

**Proof sketch.** What was removed stays removed, since the journal tells what is registered. And an
operation is isolated from the code that it calls: all that it writes is the state of its proxy. -/
theorem detached_of_removed (reachable : Reachable H w) (removed : p ∈ removedFrom r w.journal)
    (ended : perform H (bound + 1) (.operate p operation) w = .ok (result, w')) :
    Detached H bound w w' r p operation := by
  obtain ⟨⟨news, happened⟩, enlists⟩ := (enlists_stepwise H).toClosed.perform ended
  have still : p ∈ removedFrom r w'.journal := by
    rw [happened, removedFrom_append]
    exact List.mem_append_left _ removed
  refine ⟨reachable.enlisted.not_mem_of_removed removed,
    (enlists reachable.enlisted).not_mem_of_removed still, ?_⟩
  obtain ⟨proxy, -, -, known, -⟩ := operate_ok ended
  -- code that comes back to its proxy waits for it forever, but this operation returned
  cases isolated_of_returned known ended with
  | returned ended' _ alone _ _ others entries =>
    obtain ⟨-, rfl⟩ := Prod.mk.inj (Except.ok.inj (ended.symm.trans ended'))
    exact ⟨proxy, _, known, alone, entries, others⟩
  | stuck halted _ _ => cases ended.symm.trans halted

/-! ## Renewal -/

/-- What a reset makes of the registry `r`, with the collaborators of `x`, that returned in `w`. -/
structure Renewed (H : Host σ) (w : World σ) (r : RegistryId) (x : Registry) : Prop where
  known : w.registry? r = some x
  /-- A new registry replaces it, for code that knows the new one in its place. This may be the same
  code, where it knows neither. -/
  succeeded : ∀ K, (w.succession r).pairing.SameHost H K →
    (w.succession r).pairing.Replaces H K r ⟨w.registries.length⟩ w (w.succeeded r x)
  /-- There is such code. -/
  renamed : (w.succession r).pairing.SameHost H (H.renamed (w.succession r))
  /-- So does the first registry of a world with no past, for code that knows of nothing else. -/
  anew : (∀ s, w.installed = some s → s = r) → ∀ K, (w.oblivion r).SameHost H K →
    (w.oblivion r).Replaces H K r ⟨0⟩ w (w.anew x)

/-- **A reset makes a registry new.** Let a reset return, whatever happened before. Then nobody who
addresses proxies by name can tell the registry from a new one with the same collaborators, where
the code that knows the old one knows the new one in its place; nor from the first registry in a
world in which nothing ever happened, where the code knows of nothing else. And an operation on a
removed proxy leaves what is registered, and the state of all other proxies, as the code that it
calls leaves them on its own.

**Proof sketch.** After the reset the registry has no entry, so the worlds are the same but for
identities, and errands come to the same in them. -/
theorem reset_renews {H : Host σ} {r : RegistryId} :
    (∀ {w w' : World σ} {bound : Nat}, Reachable H w → perform H bound (.reset r) w = .ok ((), w') →
      ∃ x, Renewed H w' r x) ∧
    ∀ {w w' : World σ} {p : ProxyId} {operation : Proxy.Operation} {bound : Nat}
      {result : Except ProxyError Unit}, Reachable H w → p ∈ removedFrom r w.journal →
      perform H (bound + 1) (.operate p operation) w = .ok (result, w') →
        Detached H bound w w' r p operation := by
  refine ⟨?renewed, detached_of_removed⟩
  case renewed =>
    intro w w' bound reachable ended
    obtain ⟨_, _, empties⟩ := reset_empties reachable.kept ended
    obtain ⟨x, known, empty⟩ := empties.empty
    refine ⟨x, known, fun K hosts => ?succeeded, Renaming.same_host _ H, fun only K hosts => ?anew⟩
    case succeeded => exact Pairing.replaces hosts rename_self.symm (same_succeeded known empty)
    case anew => exact Pairing.replaces hosts oblivion_first (same_anew known empty only)

/-! ## A registry that collaborators know -/

/-- A host whose products register a name in the first registry when they start. -/
def enrolling : Host Nat where
  __ := Host.counting (fun _ => .ok ()) fun _ => pure ()
  start _ := do
    let _ ← Activity.obtain ⟨0⟩ "x"
    pure (.ok ())

/-- A client that makes a component run. -/
def guest : Activity Nat RegistryId := do
  let r ← Activity.establish (.custom 0) (.custom 0)
  let a ← Activity.obtain r "a"
  let _ ← Activity.operate a .start
  let _ ← Activity.operate a .resolve
  pure r

/-- What the next client does. -/
def visit : List Registry.Errand :=
  [.obtain "a", .operate 0 .start, .operate 0 .resolve, .names]

/-- What that client is told where the products register the other name. -/
def welcome : List Registry.Reply :=
  [.proxy (some 0), .result (.ok ()), .result (.ok ()), .names ["a", "x"]]

/-- The products may know the first registry of any other world instead. -/
private lemma same_enrolling {m : Pairing} (h : m.registries ⟨0⟩ ⟨0⟩) :
    m.SameHost enrolling enrolling where
  resolve _ _ := .done rfl
  create _ _ := .get fun _ => .put _ (.done rfl)
  construct _ := .get fun _ => .put _ (.done rfl)
  capability _ := .done rfl
  start _ := .bind (.query (.obtain h "x")) fun _ _ _ => .done rfl
  stop _ := .done rfl

/-- The next client is told the same after the reset, by a new registry, and in a world with no
past. And a proxy that was removed is started. -/
theorem reset_renews_enrolling : ∃ (w w' : World Nat) (x : Registry), Reachable enrolling w ∧
    perform enrolling 3 (.reset ⟨0⟩) w = .ok ((), w') ∧ w'.registry? ⟨0⟩ = some x ∧
    (∃ v, (Registry.errands ⟨0⟩ [] visit).perform enrolling 2 w' = .ok (welcome, v)) ∧
    (∃ v, (Registry.errands ⟨1⟩ [] visit).perform (enrolling.renamed (w'.succession ⟨0⟩)) 2
      (w'.succeeded ⟨0⟩ x) = .ok (welcome, v)) ∧
    (∃ v, (Registry.errands ⟨0⟩ [] visit).perform enrolling 2 (w'.anew x) = .ok (welcome, v)) ∧
    ∃ v, perform enrolling 2 (.operate ⟨0⟩ .start) w' = .ok (.ok (), v) ∧
      Detached enrolling 1 w' v ⟨0⟩ ⟨0⟩ .start := by
  obtain ⟨w, w', v, u, ready, left, ended, one, none, told, removed, started⟩ : ∃ w w' v u,
      guest.perform enrolling 2 { host := 0 } = .ok (⟨0⟩, w) ∧
      (guest >>= Activity.reset).perform enrolling 3 { host := 0 } = .ok ((), w') ∧
      perform enrolling 3 (.reset ⟨0⟩) w = .ok ((), w') ∧ w'.registries.length = 1 ∧
      w'.installed = none ∧
      (Registry.errands ⟨0⟩ [] visit).perform enrolling 2 w' = .ok (welcome, v) ∧
      ⟨0⟩ ∈ removedFrom ⟨0⟩ w'.journal ∧
      perform enrolling 2 (.operate ⟨0⟩ .start) w' = .ok (.ok (), u) := by
    refine ⟨_, _, _, _, rfl, rfl, rfl, rfl, rfl, rfl, .head _, rfl⟩
  obtain ⟨x, renewed⟩ := reset_renews.1 (.of_run ready) ended
  have elsewhere := (renewed.succeeded _ renewed.renamed [] [] visit .nil).concludes 2
  have hosts : (w'.oblivion ⟨0⟩).SameHost enrolling enrolling := same_enrolling oblivion_first
  have anew := (renewed.anew (by simp [none]) _ hosts [] [] visit .nil).concludes 2
  rw [told] at elsewhere anew
  rw [one] at elsewhere
  exact ⟨w, w', x, .of_run ready, ended, renewed.known, ⟨v, told⟩, elsewhere.answer, anew.answer,
    u, started, reset_renews.2 (.of_run left) removed started⟩

/-- **Operations on removed proxies may register names,** and so may products that a new registry
builds in the old one: what their code knows is the old registry. -/
theorem removed_enrolls : ∃ (w : World Nat) (x : Registry), Reachable enrolling w ∧
    ⟨0⟩ ∈ removedFrom ⟨0⟩ w.journal ∧ w.registry? ⟨0⟩ = some x ∧ w.entriesOf ⟨0⟩ = [] ∧
    (∃ v, perform enrolling 1 (.operate ⟨0⟩ .start) w = .ok (.ok (), v) ∧
      v.entriesOf ⟨0⟩ = [⟨"x", ⟨2⟩⟩]) ∧
    (∃ v, (Registry.errands ⟨0⟩ [] visit).perform enrolling 2 w = .ok (welcome, v)) ∧
    ∃ v, (Registry.errands ⟨1⟩ [] visit).perform enrolling 2 (w.establish x.resolver x.factory).2 =
      .ok ([.proxy (some 0), .result (.ok ()), .result (.ok ()), .names ["a"]], v) := by
  obtain ⟨w, x, left, rest⟩ : ∃ w x,
      (guest >>= Activity.reset).perform enrolling 3 { host := 0 } = .ok ((), w) ∧
      ⟨0⟩ ∈ removedFrom ⟨0⟩ w.journal ∧ w.registry? ⟨0⟩ = some x ∧ w.entriesOf ⟨0⟩ = [] ∧
      (∃ v, perform enrolling 1 (.operate ⟨0⟩ .start) w = .ok (.ok (), v) ∧
        v.entriesOf ⟨0⟩ = [⟨"x", ⟨2⟩⟩]) ∧
      (∃ v, (Registry.errands ⟨0⟩ [] visit).perform enrolling 2 w = .ok (welcome, v)) ∧
      ∃ v, (Registry.errands ⟨1⟩ [] visit).perform enrolling 2
        (w.establish x.resolver x.factory).2 =
        .ok ([.proxy (some 0), .result (.ok ()), .result (.ok ()), .names ["a"]], v) :=
    ⟨_, _, rfl, .head _, rfl, rfl, ⟨_, rfl, rfl⟩, ⟨_, rfl⟩, _, rfl⟩
  exact ⟨w, x, .of_run left, rest⟩

end World

end Standby
