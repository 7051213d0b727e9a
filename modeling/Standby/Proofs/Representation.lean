import Standby.Proofs.World.Forgoing
import Standby.Registry.Bulk
set_option autoImplicit false

/-!
# Names and proxies

A registry maps names to proxies, in the order in which the names were registered. Whatever calls
are made, and from wherever, a name keeps its proxy until a reset removes it, and gets a new one
after that. Everyone who looks at a registry sees the same, at every moment of every run.

## Main definitions

* `Standby.World.names` — the names that are registered.
* `Standby.World.Observed` — what the observers of a registry say.
* `Standby.World.Refers` — what a reference to a name does.
* `Standby.World.Represented` — all that is to be said of a registry at one moment.
* `Standby.World.Lasts` — what becomes of a registry between two moments.
* `Standby.World.Upholds` — a registry is represented and loses nothing in the course of an
  activity.
* `Standby.World.RefersTo` — an activity asks for the proxy of a name, and this stays the one
  listed.
* `Standby.World.applying` — the application of some declarations.

## Main results

* `Standby.World.observed`, `Standby.World.refers` — what everyone sees, and what references do.
* `Standby.World.represented` — a registry that is in order and enlisted is represented.
* `Standby.World.registry_represented` — registries are represented, always, and they last.
* `Standby.World.bulk_represented` — so it is for manifests, which refer to the names that they
  declare, and for passes that resolve all proxies.

## Design

The journal tells of a reference only if it registers a name. That the others change nothing is said
of the reference itself, so that a name is listed where it was first referred to since it was last
removed. A later moment may be one in the middle of a call, so it is not required that the calls in
between are over.
-/

namespace Standby.World

variable {σ : Type} {H : Host σ} {w v : World σ} {r : RegistryId} {registry : Registry}
  {name : String} {p : ProxyId} {bound : Nat} {news : List Event}

/-- The names that are registered in `r`, in the order of registration. -/
def names (w : World σ) (r : RegistryId) : List String := (w.entriesOf r).map Entry.name

/-! ## Observers -/

/-- The observers of `r` agree: all of them return, they change nothing, and what they give is read
off the entries. -/
structure Observed (H : Host σ) (bound : Nat) (w : World σ) (r : RegistryId) : Prop where
  names : (Registry.namesOf r).perform H bound w = .ok (w.names r, w)
  count : (Registry.count r).perform H bound w = .ok ((w.names r).length, w)
  vacant : (Registry.vacant r).perform H bound w = .ok ((w.names r).isEmpty, w)
  holds : ∀ name, (Registry.holds r name).perform H bound w = .ok (decide (name ∈ w.names r), w)
  found : ∀ name, ∃ answer, (Registry.findIn r name).perform H bound w = .ok (answer, w) ∧
    ∀ p, answer = some p ↔ ⟨name, p⟩ ∈ w.entriesOf r

/-- Who looks a name up finds it if it is there. -/
private lemma find_isSome {entries : List Entry} :
    ((entries.find? (fun e => e.name == name)).map Entry.proxy).isSome =
      decide (name ∈ entries.map Entry.name) := by
  rw [Option.isSome_map, Bool.eq_iff_iff, List.find?_isSome]
  simp

/-- The observers of a registry that is in order agree.

**Proof sketch.** All observers ask for the entries of the registry and read their answer off these.
Since names are not repeated, a look-up finds the one entry of the name. -/
lemma observed (kept : w.Kept) (known : w.registry? r = some registry) : Observed H bound w r := by
  have entries : perform H bound (.entries r) w = .ok (w.entriesOf r, w) := by
    rw [entriesOf_eq known]
    exact perform_entries H bound known
  exact {
    names := Activity.run_call entries
    count := by
      rw [names, List.length_map]
      exact Activity.run_call entries
    vacant := by
      rw [names, List.isEmpty_map]
      exact Activity.run_call entries
    holds := fun name => by
      rw [names, ← find_isSome]
      exact Activity.run_call entries
    found := fun name => ⟨registry.find? name, by
      rw [Registry.find?, ← entriesOf_eq known]
      exact Activity.run_call entries, fun p => kept.find?_eq_iff known⟩ }

/-! ## References -/

/-- What a reference to a name does: either the name is listed, and its proxy is given and nothing
changes; or it is not, and then it comes after all others, with a new proxy, which is none that was
ever registered anywhere and of which nothing is known but its name. -/
inductive Refers (H : Host σ) (bound : Nat) (w : World σ) (r : RegistryId) (name : String) : Prop
  | listed {p : ProxyId} (entry : ⟨name, p⟩ ∈ w.entriesOf r)
    (same : perform H bound (.obtain r name) w = .ok (p, w))
  | first {p : ProxyId} {w' : World σ}
    (ended : perform H bound (.obtain r name) w = .ok (p, w')) (registers : Registers w w' r name p)
    (never : ∀ r', p ∉ registeredIn r' w.journal)
    (initial : ∃ proxy, w'.proxy? p = some proxy ∧ proxy.name = name ∧ proxy.state = {})

/-- What references do in a world whose registries are in order and enlisted.

**Proof sketch.** By cases on whether the name is registered. If it is, its proxy is given and
nothing changes. If not, a proxy is made and registered, and it is new because the registered ones
are numbered below it. -/
lemma refers (kept : w.Kept) (enlisted : w.Enlisted) (known : w.registry? r = some registry) :
    Refers H bound w r name := by
  by_cases listed : name ∈ w.names r
  · obtain ⟨e, entry, rfl⟩ := List.mem_map.1 listed
    exact .listed entry (kept.obtain_of_mem known entry)
  · have missing : registry.find? name = none := by
      rw [Registry.find?, ← entriesOf_eq known, ← Option.not_isSome_iff_eq_none, find_isSome]
      simpa [names] using listed
    obtain ⟨p, w', ended⟩ : ∃ p w', w.obtain r name = .ok (p, w') := by
      rw [World.obtain, known]
      dsimp only
      rw [missing]
      exact ⟨_, _, rfl⟩
    rcases obtain_registers ended with ⟨-, entry⟩ | registers
    · exact absurd (List.mem_map_of_mem (f := Entry.name) entry) listed
    · obtain ⟨registry', -, hproxies⟩ := registers.made
      have made : w'.proxy? p =
          some { name, resolver := registry'.resolver, factory := registry'.factory } := by
        simp [proxy?, hproxies, registers.new]
      rw [← perform] at ended
      exact .first ended registers (fun _ => enlisted.not_mem_of_next registers.new)
        ⟨_, made, rfl, rfl⟩

/-! ## One moment -/

/-- What a registry is at one moment.

It relates three sources of knowledge that do not know of each other: the table of the registry, the
journal, and what observers are told. -/
structure Represented (H : Host σ) (w : World σ) (r : RegistryId) : Prop where
  /-- No name is listed twice. -/
  nodup : (w.names r).Nodup
  /-- Names are listed in the order in which they were registered, without those that were
  removed. -/
  listed : w.entriesOf r = roster r w.journal
  /-- And a name is registered when it is referred to and not listed. -/
  first : ∀ {name p earlier later}, w.journal = later ++ .registered r name p :: earlier →
    name ∉ (roster r earlier).map Entry.name
  /-- The proxy listed under a name carries this name. -/
  named : ∀ e ∈ w.entriesOf r, ∃ proxy, w.proxy? e.proxy = some proxy ∧ proxy.name = e.name
  /-- Two names never share a proxy, and neither do two registries. -/
  unshared : ∀ {r' e e'}, e ∈ w.entriesOf r → e' ∈ w.entriesOf r' → e.proxy = e'.proxy →
    r = r' ∧ e = e'
  observed : ∀ bound, Observed H bound w r
  referred : ∀ bound name, Refers H bound w r name

/-- A registry that is in order and enlisted is represented.

**Proof sketch.** The names and the proxies of a registry in order are distinct, and in an enlisted
world a proxy is a member of one registry only, because its registration was told once. -/
theorem represented (kept : w.Kept) (enlisted : w.Enlisted)
    (known : w.registry? r = some registry) : Represented H w r where
  nodup := kept.names r
  listed := enlisted.entries r
  first split listed := by
    obtain ⟨e, he, hname⟩ := List.mem_map.1 listed
    exact enlisted.free split e he hname
  named e he := by
    obtain ⟨proxy, -, hproxy, hname, -⟩ := kept.known r e he
    exact ⟨proxy, hproxy, hname⟩
  unshared {r' e e'} he he' same := by
    have member : e.proxy ∈ w.members r := List.mem_map_of_mem he
    have member' : e.proxy ∈ w.members r' := by
      rw [same]
      exact List.mem_map_of_mem he'
    obtain rfl := enlisted.registry_unique member member'
    exact ⟨rfl, List.inj_on_of_nodup_map (kept.nodup_members r) he he' same⟩
  observed bound := observed kept known
  referred bound name := refers kept enlisted known

/-! ## Two moments -/

/-- What becomes of a registry from the world `w` to the world `v`, of which `news` tells. -/
structure Lasts (H : Host σ) (r : RegistryId) (w v : World σ) (news : List Event) : Prop where
  happened : v.journal = news ++ w.journal
  /-- What was registered stays where it is, and what is registered comes after it, until it is
  removed. -/
  entries : v.entriesOf r =
    (w.entriesOf r ++ enrolled r news).filter fun e => e.proxy ∉ removedFrom r news
  /-- The proxies that were registered since are new. -/
  fresh : ∀ e ∈ enrolled r news, w.proxies.length ≤ e.proxy.index
  /-- A reference to a name gives the same proxy, unless this was removed. -/
  same : ∀ e ∈ w.entriesOf r, e.proxy ∉ removedFrom r news → ∀ bound,
    perform H bound (.obtain r e.name) v = .ok (e.proxy, v)
  /-- A proxy that was ever removed is not there, and no reference gives it. -/
  gone : ∀ p ∈ removedFrom r v.journal, p ∉ v.members r ∧ ∀ bound name v',
    perform H bound (.obtain r name) v ≠ .ok (p, v')

/-- No reference gives a proxy that was removed. -/
private lemma obtain_ne_of_removed {w' : World σ} (enlisted : w.Enlisted)
    (removed : p ∈ removedFrom r w.journal) :
    perform H bound (.obtain r name) w ≠ .ok (p, w') := by
  intro ended
  rw [perform] at ended
  rcases obtain_registers ended with ⟨-, entry⟩ | registers
  · exact enlisted.not_mem_of_removed removed (List.mem_map_of_mem (f := Entry.proxy) entry)
  · exact enlisted.not_mem_of_next registers.new (enlisted.removed r p removed)

/-- A registry lasts.

**Proof sketch.** In an enlisted world the entries can be read off the journal. What was registered
since is new, and what was removed since is not registered again. -/
private lemma lasts (earlier : w.Enlisted) (kept : v.Kept) (later : v.Enlisted)
    (known : v.registry? r = some registry) (happened : v.journal = news ++ w.journal) :
    Lasts H r w v news where
  happened := happened
  entries := earlier.entriesOf_since later happened r
  fresh e he := by
    refine earlier.le_index later happened (r := r) ?_
    rw [← map_proxy_enrolled]
    exact List.mem_map_of_mem he
  same e he still bound := by
    refine kept.obtain_of_mem known ?_
    rw [earlier.entriesOf_since later happened, List.mem_filter]
    exact ⟨List.mem_append_left _ he, decide_eq_true still⟩
  gone p removed :=
    ⟨later.not_mem_of_removed removed, fun _ _ _ => obtain_ne_of_removed later removed⟩

/-! ## Every moment -/

/-- The registry `r` is there, the registries are in order, and the journal tells what is
registered. -/
structure Ordered (w : World σ) (r : RegistryId) : Prop where
  kept : w.Kept
  enlisted : w.Enlisted
  known : ∃ registry, w.registry? r = some registry

/-- So it is in every world that a run goes through. -/
private lemma Reachable.ordered (reachable : Reachable H w)
    (known : w.registry? r = some registry) : Ordered w r :=
  ⟨reachable.kept, reachable.enlisted, registry, known⟩

namespace Ordered

/-- A registry that is ordered is represented. -/
private lemma represented (ordered : Ordered w r) : Represented H w r := by
  obtain ⟨registry, known⟩ := ordered.known
  exact World.represented ordered.kept ordered.enlisted known

/-- What is ordered stays ordered and lasts, at every moment on the way of an activity.

**Proof sketch.** Both parts of the order are kept at every moment on the way, and so is the
registry. What lasts is then `lasts`, and where everybody forgoes to remove nothing was removed. -/
private lemma passes {α : Type} {a : Activity σ α} (ordered : Ordered w r)
    (h : a.Passes (perform H bound) (Inside H bound) w v) :
    Ordered v r ∧ ∃ news, Lasts H r w v news ∧
      (H.Forgoes r → a.Forgoes r → removedFrom r news = []) := by
  obtain ⟨registry, known⟩ := ordered.known
  have keeping := ((keeping_stepwise H).follows fun _ _ _ => keeping_record _).passes h
  obtain ⟨⟨news, happened⟩, enlists⟩ :=
    ((enlists_stepwise H).follows fun _ _ _ => enlists_record rfl fun _ => rfl).passes h
  have kept : v.Kept := keeping.kept ordered.kept
  have enlisted : v.Enlisted := enlists ordered.enlisted
  obtain ⟨registry', known', -⟩ := keeping.persists.registry r registry known
  refine ⟨⟨kept, enlisted, registry', known'⟩, news,
    lasts ordered.enlisted kept enlisted known' happened, fun forgoes forgoes' => ?_⟩
  obtain ⟨news', happened', none⟩ := retains_run forgoes forgoes' h
  obtain rfl : news = news' := List.append_cancel_right (happened.symm.trans happened')
  exact none

/-- What is ordered is ordered after a call that is over. -/
private lemma of_call {c : Call} {answer : c.Answer} (ordered : Ordered w r)
    (ended : perform H bound c w = .ok (answer, v)) : Ordered v r :=
  (ordered.passes (a := .call c .done) (.after ended (.here _ v))).1

end Ordered

/-- **Names and proxies.** At every moment of every run a registry is what its references and its
resets made of it, and everyone sees the same. At every later moment, in the middle of a call as
well, it is this again: a name keeps its proxy until a reset removes it, a proxy that was removed
never comes back, and where nobody calls a reset nothing is removed. -/
theorem registry_represented (reachable : Reachable H w) (known : w.registry? r = some registry) :
    Represented H w r ∧
      ∀ {α : Type} {a : Activity σ α} {bound : Nat} {v : World σ},
        a.Passes (perform H bound) (Inside H bound) w v →
          Represented H v r ∧ ∃ news, Lasts H r w v news ∧
            (H.Forgoes r → a.Forgoes r → removedFrom r news = []) := by
  have ordered : Ordered w r := reachable.ordered known
  refine ⟨ordered.represented, fun {α a bound v} passes => ?_⟩
  obtain ⟨ordered', lasts⟩ := ordered.passes passes
  exact ⟨ordered'.represented, lasts⟩

/-! ## Manifests and passes -/

/-- At every moment on the way of the activity `a` from the world `w` the registry `r` is
represented, and it holds all that it held in `w` and after that what was registered since. -/
def Upholds {α : Type} (H : Host σ) (a : Activity σ α) (w : World σ) (r : RegistryId) : Prop :=
  ∀ {bound : Nat} {v : World σ}, a.Passes (perform H bound) (Inside H bound) w v →
    Represented H v r ∧ ∃ news, Lasts H r w v news ∧ removedFrom r news = [] ∧
      v.entriesOf r = w.entriesOf r ++ enrolled r news

/-- Code that forgoes the reset of a registry upholds it, if the code that it calls does too. -/
private lemma Ordered.upholds {α : Type} {a : Activity σ α} (ordered : Ordered w r)
    (forgoes : H.Forgoes r) (forgoes' : a.Forgoes r) : Upholds H a w r := by
  intro bound v passes
  obtain ⟨ordered', news, lasts, retained⟩ := ordered.passes passes
  have none : removedFrom r news = [] := retained forgoes forgoes'
  refine ⟨ordered'.represented, news, lasts, none, ?_⟩
  rw [lasts.entries, none]
  simp

/-- On its way from `w` to `v` the activity `a` refers to the name: at some moment it asks for the
proxy of the name, as anybody may, and in `v` this proxy is the one that is listed under it. -/
def RefersTo {α : Type} (H : Host σ) (bound : Nat) (a : Activity σ α) (w v : World σ)
    (r : RegistryId) (name : String) : Prop :=
  ∃ u p u', a.Passes (perform H bound) (Inside H bound) w u ∧ Refers H bound u r name ∧
    perform H bound (.obtain r name) u = .ok (p, u') ∧ ⟨name, p⟩ ∈ v.entriesOf r

/-- What an activity refers to later on it refers to. -/
private lemma RefersTo.after {α : Type} {c : Call} {next : c.Answer → Activity σ α}
    {answer : c.Answer} {u : World σ} (ended : perform H bound c w = .ok (answer, u))
    (refers : RefersTo H bound (next answer) u v r name) :
    RefersTo H bound (.call c next) w v r name := by
  obtain ⟨u₁, p, u₂, passes, rest⟩ := refers
  exact ⟨u₁, p, u₂, .after ended passes, rest⟩

/-- The application of some declarations to the registry `r`. -/
def applying (r : RegistryId) (todo : List Declaration) : Activity σ (Except ProxyError Unit) :=
  Activity.untilFailure (todo.map (Registry.declare r))

/-- What comes after a start with this result. -/
def applyingAfter (r : RegistryId) (rest : List Declaration) :
    Except ProxyError Unit → Activity σ (Except ProxyError Unit)
  | .ok () => applying r rest
  | .error err => .done (.error err)

/-- To apply several declarations is to apply the first and to go on after it. -/
lemma applying_cons (d : Declaration) (rest : List Declaration) :
    (applying r (d :: rest) : Activity σ _) = .call (.obtain r d.name) fun p =>
      if d.start then .call (.operate p .start) (applyingAfter r rest) else applying r rest := by
  rw [applying, List.map_cons, Activity.untilFailure]
  refine congrArg (Activity.call _) (funext fun p => ?_)
  cases d.start with
  | false => rfl
  | true =>
    refine congrArg (Activity.call _) (funext fun first => ?_)
    rcases first with err | _ <;> rfl

/-- An activity that begins with asking for the proxy of a name refers to it, if it returns.

**Proof sketch.** The proxy is registered right after it was asked for. The rest of the activity
begins in a world that is in order too, and since nobody removes anything the entry is there when it
ends. -/
private lemma Ordered.refersTo {α : Type} {next : ProxyId → Activity σ α} {x : α}
    (ordered : Ordered w r) (forgoes : H.Forgoes r)
    (forgoes' : (Activity.call (.obtain r name) next : Activity σ α).Forgoes r)
    (ended : (Activity.call (.obtain r name) next).run (perform H bound) w = .ok (x, v)) :
    RefersTo H bound (.call (.obtain r name) next) w v r name := by
  obtain ⟨registry, known⟩ := ordered.known
  obtain ⟨p, u, asked, ended⟩ := Activity.run_call_ok ended
  have entry : ⟨name, p⟩ ∈ u.entriesOf r := by
    have obtained : w.obtain r name = .ok (p, u) := by rwa [perform] at asked
    rcases obtain_registers obtained with ⟨rfl, entry⟩ | registers
    · exact entry
    · rw [registers.entries]
      exact List.mem_append_right _ (List.mem_singleton.2 rfl)
  have after : Ordered u r := ordered.of_call asked
  obtain ⟨-, news, -, -, entries⟩ := after.upholds forgoes (forgoes'.2 p) (passes_of_run ended)
  refine ⟨w, p, u, .here _ w, refers ordered.kept ordered.enlisted known, asked, ?_⟩
  rw [entries]
  exact List.mem_append_left _ entry

/-- An application of some declarations refers to their names, up to the first failure.

**Proof sketch.** Induction on the declarations that are left. The first one is referred to at once,
and its entry stays since nobody calls a reset; the others are referred to by what comes after
it. -/
private lemma referred_of_applying (forgoes : H.Forgoes r) {todo : List Declaration}
    {result : Except ProxyError Unit} (ordered : Ordered w r)
    (ended : (applying r todo).run (perform H bound) w = .ok (result, v)) :
    ∃ referred rest, todo = referred ++ rest ∧ (result = .ok () → rest = []) ∧
      ∀ d ∈ referred, RefersTo H bound (applying r todo) w v r d.name := by
  induction todo generalizing w with
  | nil => exact ⟨[], [], rfl, fun _ => rfl, by simp⟩
  | cons d todo ih =>
    have forgoes' : (applying r (d :: todo) : Activity σ _).Forgoes r :=
      Registry.forgoes_apply r r ⟨d :: todo⟩
    rw [applying_cons] at ended forgoes' ⊢
    have now := ordered.refersTo forgoes forgoes' ended
    obtain ⟨p, u, asked, ended⟩ := Activity.run_call_ok ended
    cases marked : d.start with
    | false =>
      simp only [marked, Bool.false_eq_true, if_false] at ended now ⊢
      obtain ⟨referred, rest, rfl, complete, later⟩ := ih (ordered.of_call asked) ended
      refine ⟨d :: referred, rest, rfl, complete, fun d' hd => ?_⟩
      rcases List.mem_cons.1 hd with rfl | hd
      · exact now
      · exact (later d' hd).after asked
    | true =>
      simp only [marked, if_true] at ended now ⊢
      obtain ⟨first, u', started, ended⟩ := Activity.run_call_ok ended
      cases first with
      | error err =>
        obtain ⟨rfl, rfl⟩ := Prod.mk.inj (Except.ok.inj ended)
        refine ⟨[d], todo, rfl, by simp, fun d' hd => ?_⟩
        obtain rfl := List.mem_singleton.1 hd
        exact now
      | ok =>
        obtain ⟨referred, rest, rfl, complete, later⟩ :=
          ih ((ordered.of_call asked).of_call started) ended
        refine ⟨d :: referred, rest, rfl, complete, fun d' hd => ?_⟩
        rcases List.mem_cons.1 hd with rfl | hd
        · exact now
        · exact RefersTo.after asked (RefersTo.after started (later d' hd))

/-- **Manifests and passes refer to names like everyone else.** To resolve all proxies of a registry
and to apply a manifest to it upholds the registry, at every moment and whatever is under way. The
application refers to the declared names, one after the other, up to the first failure and to all of
them if there is none; and the proxy that a reference gave is the one that is listed at the end. -/
theorem bulk_represented (reachable : Reachable H w) (known : w.registry? r = some registry)
    (forgoes : H.Forgoes r) (m : Manifest) :
    Upholds H (Registry.resolveAll r) w r ∧ Upholds H (Registry.apply r m) w r ∧
      ∀ {bound result v}, (Registry.apply r m).perform H bound w = .ok (result, v) →
        ∃ referred rest, m.components = referred ++ rest ∧ (result = .ok () → rest = []) ∧
          ∀ d ∈ referred, RefersTo H bound (Registry.apply r m) w v r d.name := by
  have ordered : Ordered w r := reachable.ordered known
  refine ⟨ordered.upholds forgoes (Registry.forgoes_resolveAll r r),
    ordered.upholds forgoes (Registry.forgoes_apply r r m), fun ended => ?_⟩
  exact referred_of_applying forgoes ordered ended

/-! ## A registry that is reset and filled again -/

/-- A host whose components register another name when they are stopped. -/
def rejoining : Host Nat := .counting (fun _ => .ok ()) fun _ => do
  let _ ← Activity.obtain ⟨0⟩ "late"

/-- A client with two components, one of which runs. -/
def two : Activity Nat RegistryId := do
  let r ← Activity.establish (.custom 0) (.custom 0)
  let a ← Activity.obtain r "a"
  let _ ← Activity.obtain r "b"
  let _ ← Activity.operate a .start
  let _ ← Activity.operate a .resolve
  pure r

/-- What a client does who starts again, in the other order. -/
def renewal : Activity Nat (ProxyId × ProxyId) := do
  Activity.reset ⟨0⟩
  let b ← Activity.obtain ⟨0⟩ "b"
  let a ← Activity.obtain ⟨0⟩ "a"
  pure (b, a)

/-- The host does not reset the registry. -/
private lemma rejoining_forgoes (r : RegistryId) : rejoining.Forgoes r where
  resolve _ _ := trivial
  create _ _ _ := trivial
  construct _ _ := trivial
  capability _ := trivial
  start _ := trivial
  stop _ := ⟨by simp, fun _ => trivial⟩

/-- The names get new proxies and stand in the new order. A stop alone only adds an entry. -/
theorem registry_represented_renewal : ∃ w registry v u, Reachable rejoining w ∧
    w.registry? ⟨0⟩ = some registry ∧ w.entriesOf ⟨0⟩ = [⟨"a", ⟨0⟩⟩, ⟨"b", ⟨1⟩⟩] ∧
    renewal.perform rejoining 3 w = .ok ((⟨3⟩, ⟨4⟩), v) ∧
    v.entriesOf ⟨0⟩ = [⟨"b", ⟨3⟩⟩, ⟨"a", ⟨4⟩⟩] ∧
    (Activity.operate ⟨0⟩ .stop).perform rejoining 3 w = .ok (.ok (), u) ∧
    u.names ⟨0⟩ = ["a", "b", "late"] ∧
    Represented rejoining w ⟨0⟩ ∧ Represented rejoining v ⟨0⟩ ∧
    (∃ news, Lasts rejoining ⟨0⟩ w v news) ∧
    ∃ news, Lasts rejoining ⟨0⟩ w u news ∧ removedFrom ⟨0⟩ news = [] := by
  obtain ⟨w, ready, registry, known, before, v, renewed, after, u, stopped, more⟩ :
      ∃ w, two.perform rejoining 2 { host := 0 } = .ok (⟨0⟩, w) ∧
        ∃ registry, w.registry? ⟨0⟩ = some registry ∧
        w.entriesOf ⟨0⟩ = [⟨"a", ⟨0⟩⟩, ⟨"b", ⟨1⟩⟩] ∧
        ∃ v, renewal.perform rejoining 3 w = .ok ((⟨3⟩, ⟨4⟩), v) ∧
        v.entriesOf ⟨0⟩ = [⟨"b", ⟨3⟩⟩, ⟨"a", ⟨4⟩⟩] ∧
        ∃ u, (Activity.operate ⟨0⟩ .stop).perform rejoining 3 w = .ok (.ok (), u) ∧
        u.names ⟨0⟩ = ["a", "b", "late"] := by
    refine ⟨_, rfl, _, rfl, rfl, _, rfl, rfl, _, rfl, rfl⟩
  have reachable : Reachable rejoining w := .of_run ready
  obtain ⟨represented, later⟩ := registry_represented reachable known
  obtain ⟨represented', news, lasts, -⟩ := later (passes_of_run renewed)
  obtain ⟨-, news', lasts', retained⟩ := later (passes_of_run stopped)
  have forgoes : (Activity.operate ⟨0⟩ .stop : Activity Nat _).Forgoes ⟨0⟩ :=
    ⟨by simp, fun _ => trivial⟩
  exact ⟨w, registry, v, u, reachable, known, before, renewed, after, stopped, more, represented,
    represented', ⟨news, lasts⟩, news', lasts', retained (rejoining_forgoes ⟨0⟩) forgoes⟩

end Standby.World
