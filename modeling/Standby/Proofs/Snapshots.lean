import Standby.Proofs.Text.ByteOrder
import Standby.Proofs.World.Calls
import Standby.Proofs.World.Roster
import Standby.Registry.Bulk
set_option autoImplicit false

/-!
# What monitors are shown

Monitors look at a registry in two ways. The names are given in the order in which they were
registered. The records of all proxies are given in the order of the names' bytes, and tell nothing
of when and how the names were registered: the records of two registries, or of one at different
times, are the same exactly if the same is shown of them.

## Main definitions

* `Standby.World.status?` — the record that is shown of a proxy.
* `Standby.World.shown` — the names that are registered, and what is shown of each.
* `Standby.World.Snapshot` — these records, in the order of the names.
* `Standby.World.Monitored` — what monitors of a registry are told.

## Main results

* `Standby.World.Snapshot.unique` — there is at most one snapshot of a registry.
* `Standby.World.Snapshot.shown_perm`, `Standby.World.snapshot_congr` — registries have the same
  snapshot exactly if the same is shown of them.
* `Standby.World.snapshots_cases` — a snapshot is taken, or this waits for an operation to end.
* `Standby.World.Kept.monitored` — what monitors are told of registries that are in order.
* `Standby.World.snapshots_order_blind` — they are told this always, and registries of which the
  same is shown give the same records.

## Design

No name is registered twice, whatever was called before. That makes the order of the names strict,
so that it leaves no choice, and it makes what is shown of a registry a set, so that it is enough
for two registries to agree on what is in it.
-/

namespace Standby.World

variable {σ σ' : Type} {H : Host σ} {w v : World σ} {w' : World σ'} {r r' : RegistryId}
  {p : ProxyId}
  {proxy : Proxy} {registry : Registry} {record : Status} {records records' : List Status}
  {bound : Nat}

/-! ## Records of proxies -/

/-- The record that is shown of a proxy. There is none while an operation is in progress on it,
because an observer has to wait for that. -/
def status? (w : World σ) (p : ProxyId) : Option Status :=
  match w.proxy? p with
  | none => none
  | some proxy => if proxy.busy then none else some (proxy.state.status proxy.name)

/-- To ask a proxy for its record is to observe its state.

**Proof sketch.** The activity asks for the name, which is always told, and then observes. So it
ends as the observation does. -/
private lemma perform_statusOf (known : w.proxy? p = some proxy) :
    (Registry.statusOf p).perform H bound w =
    match w.observe p with
    | .error halt => .error halt
    | .ok (s, v) => .ok (s.status proxy.name, v) := by
  have name : perform H bound (.nameOf p) w = .ok (proxy.name, w) := by
    cases bound <;> simp [perform, known]
  have state : perform H bound (.observe p) w = w.observe p := by
    cases bound <;> rfl
  refine (Activity.run_call name).trans ?_
  change (Activity.call (.observe p) _).run (perform H bound) w = _
  rw [Activity.run, state]
  cases w.observe p <;> rfl

/-- Who asks a proxy for its record is given what it shows, or waits for the operation that is in
progress on it. -/
private lemma perform_statusOf_cases (known : w.proxy? p = some proxy) (H : Host σ) (bound : Nat) :
    (∃ record, w.status? p = some record ∧
      (Registry.statusOf p).perform H bound w = .ok (record, w)) ∨
    proxy.busy = true ∧ w.status? p = none ∧
      (Registry.statusOf p).perform H bound w = .error (.reentered p) := by
  rw [perform_statusOf known, status?, known]
  cases busy : proxy.busy with
  | false =>
    exact .inl ⟨proxy.state.status proxy.name, by simp [busy], by simp [observe, known, busy]⟩
  | true => exact .inr ⟨rfl, by simp [busy], by simp [observe, known, busy]⟩

/-- Who is given a record of a proxy is given what it shows, and changes nothing. -/
private lemma perform_statusOf_ok_iff (known : w.proxy? p = some proxy) :
    (Registry.statusOf p).perform H bound w = .ok (record, v) ↔
      v = w ∧ w.status? p = some record := by
  rcases perform_statusOf_cases known H bound with ⟨given, shows, asked⟩ | ⟨-, nothing, waits⟩
  · rw [shows, asked]
    simp [and_comm, eq_comm]
  · rw [nothing, waits]
    simp

/-! ## Snapshots -/

/-- The names that are registered in `r`, in the order of registration, each with the record that is
shown of its proxy. -/
def shown (w : World σ) (r : RegistryId) : List (String × Option Status) :=
  (w.entriesOf r).map fun e => (e.name, w.status? e.proxy)

/-- The records are a snapshot of the registry `r`. -/
structure Snapshot (w : World σ) (r : RegistryId) (records : List Status) : Prop where
  /-- There is one record for each entry. It has the entry's name and is what the entry's proxy
  shows. -/
  complete : (records.map fun record => (record.name, some record)).Perm (w.shown r)
  /-- The names ascend strictly, byte by byte. -/
  ascending : records.Pairwise fun a b => Text.bytes a.name < Text.bytes b.name

/-- There is at most one snapshot of a registry. -/
lemma Snapshot.unique (one : Snapshot w r records) (other : Snapshot w r records') :
    records = records' := by
  refine Text.eq_of_perm one.ascending other.ascending ?_
  have same := (one.complete.trans other.complete.symm).filterMap Prod.snd
  simpa [List.filterMap_map, Function.comp_def] using same

/-- The same is shown of registries with the same snapshot. -/
lemma Snapshot.shown_perm (one : Snapshot w r records) (other : Snapshot w' r' records) :
    (w.shown r).Perm (w'.shown r') :=
  one.complete.symm.trans other.complete

/-- Where there is a snapshot no operation is in progress on a registered proxy. -/
private lemma Snapshot.not_engaged (snapshot : Snapshot w r records) : ¬ Engaged w r p := by
  rintro ⟨member, proxy, known, busy⟩
  obtain ⟨e, he, rfl⟩ := List.mem_map.1 member
  have nothing : w.status? e.proxy = none := by simp [status?, known, busy]
  have listed : (e.name, w.status? e.proxy) ∈ w.shown r := List.mem_map_of_mem he
  rw [nothing, ← snapshot.complete.mem_iff] at listed
  simp at listed

/-- Nothing is shown twice of a registry that is in order. -/
private lemma Kept.nodup_shown (kept : w.Kept) (r : RegistryId) : (w.shown r).Nodup := by
  have names : ((w.shown r).map Prod.fst).Nodup := by
    simpa [shown, Function.comp_def] using kept.names r
  exact names.of_map

/-- Registries of which the same is shown have the same snapshots. -/
lemma snapshot_congr (kept : w.Kept) (kept' : w'.Kept)
    (same : ∀ x, x ∈ w.shown r ↔ x ∈ w'.shown r') :
    Snapshot w r records ↔ Snapshot w' r' records := by
  have perm : (w.shown r).Perm (w'.shown r') :=
    (List.perm_ext_iff_of_nodup (kept.nodup_shown r) (kept'.nodup_shown r')).2 same
  exact ⟨fun h => ⟨h.complete.trans perm, h.ascending⟩,
    fun h => ⟨h.complete.trans perm.symm, h.ascending⟩⟩

/-- A proxy shows a record with the name of its entry. -/
private lemma Kept.name_of_status {e : Entry} (kept : w.Kept) (he : e ∈ w.entriesOf r)
    (shows : w.status? e.proxy = some record) : record.name = e.name := by
  obtain ⟨proxy, -, known, name, -⟩ := kept.known r e he
  rw [status?, known] at shows
  cases busy : proxy.busy with
  | true => simp [busy] at shows
  | false =>
    obtain rfl : proxy.state.status proxy.name = record := by simpa [busy] using shows
    exact name

/-- What is shown of a registry that is in order are the records of its proxies. -/
private lemma Kept.shown_eq (kept : w.Kept)
    (all : List.Forall₂ (fun e record => e ∈ w.entriesOf r ∧ w.status? e.proxy = some record)
      (w.entriesOf r) records) :
    w.shown r = records.map fun record => (record.name, some record) := by
  rw [shown, ← List.forall₂_eq_eq_eq, List.forall₂_map_left_iff, List.forall₂_map_right_iff]
  refine all.imp fun e record ⟨he, shows⟩ => ?_
  rw [shows, kept.name_of_status he shows]

/-- The records of the proxies are a snapshot once they are sorted.

**Proof sketch.** Sorting permutes the records, so they are still those of the entries. As the names
of a registry are distinct the order is strict. -/
private lemma Kept.snapshot_sorted (kept : w.Kept)
    (all : w.shown r = records.map fun record => (record.name, some record)) :
    Snapshot w r (Registry.sorted records) where
  complete := by
    rw [all]
    exact (List.mergeSort_perm _ _).map _
  ascending := by
    refine Text.pairwise_mergeSort ?_
    have names : records.map Status.name = (w.entriesOf r).map Entry.name := by
      simpa [shown, Function.comp_def] using (congrArg (List.map Prod.fst) all).symm
    rw [names]
    exact kept.names r

/-- To take the records of a registry is to ask its proxies, one after the other, and to sort. -/
private lemma perform_snapshots (known : w.registry? r = some registry) :
    (Registry.snapshots r).perform H bound w =
      match (Activity.each (fun e : Entry => Registry.statusOf e.proxy) (w.entriesOf r)).run
        (perform H bound) w with
      | .error halt => .error halt
      | .ok (records, v) => .ok (Registry.sorted records, v) := by
  rw [← Activity.run_mapM, entriesOf_eq known]
  refine (Activity.run_call (perform_entries H bound known)).trans ?_
  refine (Activity.run_bind (registry.entries.mapM fun e => Registry.statusOf e.proxy) _ w).trans ?_
  cases (registry.entries.mapM fun e => Registry.statusOf e.proxy).run (perform H bound) w <;> rfl

/-- Who takes the records of a registry is given a snapshot, or waits for an operation on one of its
proxies.

**Proof sketch.** The records are asked for one after the other. To ask changes nothing, so all are
asked in the same world. Either all proxies show their states, and then the records are complete and
sorted, or one of them is in use and the one who asks waits for it. -/
lemma snapshots_cases (kept : w.Kept) (known : w.registry? r = some registry) (H : Host σ)
    (bound : Nat) :
    (∃ records, Snapshot w r records ∧
      (Registry.snapshots r).perform H bound w = .ok (records, w)) ∨
    ∃ p, Engaged w r p ∧ (Registry.snapshots r).perform H bound w = .error (.reentered p) := by
  have there : ∀ e ∈ w.entriesOf r, ∃ proxy, w.proxy? e.proxy = some proxy := by
    intro e he
    obtain ⟨proxy, -, known, -⟩ := kept.known r e he
    exact ⟨proxy, known⟩
  have given : ∀ e ∈ w.entriesOf r, ∀ record v,
      (Registry.statusOf e.proxy).run (perform H bound) w = .ok (record, v) →
        v = w ∧ w.status? e.proxy = some record := by
    intro e he record v asked
    obtain ⟨proxy, known⟩ := there e he
    exact (perform_statusOf_ok_iff known).1 asked
  rw [perform_snapshots known]
  -- To ask a proxy changes nothing, so all of them are asked in the world `w`.
  rcases Activity.run_each_cases fun e he record v asked => (given e he record v asked).1 with
    ⟨records, taken, all⟩ | ⟨e, he, halt, asked, waits⟩
  · have registered := (List.forall₂_and_left _ _).2 ⟨fun e (he : e ∈ w.entriesOf r) => he, all⟩
    have shows := kept.shown_eq <| registered.imp fun e record ⟨he, asked⟩ =>
      ⟨he, (given e he record w asked).2⟩
    exact .inl ⟨Registry.sorted records, kept.snapshot_sorted shows, by rw [taken]⟩
  · obtain ⟨proxy, known⟩ := there e he
    rcases perform_statusOf_cases known H bound with ⟨record, -, told⟩ | ⟨busy, -, reentered⟩
    · cases told.symm.trans asked
    · obtain rfl : Halt.reentered e.proxy = halt := Except.error.inj (reentered.symm.trans asked)
      exact .inr ⟨e.proxy, ⟨List.mem_map_of_mem he, proxy, known, busy⟩, by rw [waits]⟩

/-! ## Monitoring -/

/-- All that monitors are told of the registry `r`.

Whoever observes changes nothing. It is only by waiting for an operation on one of the proxies that
a monitor can fail to get an answer. -/
structure Monitored (H : Host σ) (w : World σ) (r : RegistryId) : Prop where
  /-- The names are given in the order in which they were registered, without those that were
  removed, and nothing changes. -/
  names : ∀ bound, (Registry.namesOf r).perform H bound w =
    .ok ((roster r w.journal).map Entry.name, w)
  /-- A proxy that is asked for its record gives what it shows, and nothing changes. -/
  status : ∀ p ∈ w.members r, ∀ bound record v,
    (Registry.statusOf p).perform H bound w = .ok (record, v) ↔ v = w ∧ w.status? p = some record
  /-- The records that are given are the snapshot, and nothing changes. -/
  snapshots : ∀ bound records v, (Registry.snapshots r).perform H bound w = .ok (records, v) ↔
    v = w ∧ Snapshot w r records
  /-- There is a snapshot if no operation is in progress on a registered proxy. -/
  taken : (∀ p, ¬ Engaged w r p) → ∃ records, Snapshot w r records
  /-- Else whoever takes one waits for such an operation. -/
  waits : ∀ p, Engaged w r p → ∀ bound,
    ∃ q, Engaged w r q ∧ (Registry.snapshots r).perform H bound w = .error (.reentered q)

/-- What monitors are told of a registry that is in order and enlisted.

**Proof sketch.** The names are those of the entries, which are always told, in the order in which
they were enrolled. The records are the one snapshot there is, by `snapshots_cases`, or there is
none as one of the proxies is in use. -/
theorem Kept.monitored (kept : w.Kept) (enlisted : w.Enlisted)
    (known : w.registry? r = some registry) : Monitored H w r where
  names bound := by
    rw [← enlisted.entries, entriesOf_eq known]
    exact Activity.run_call (perform_entries H bound known)
  status p member bound record v := by
    obtain ⟨e, he, rfl⟩ := List.mem_map.1 member
    obtain ⟨proxy, -, known, -⟩ := kept.known r e he
    exact perform_statusOf_ok_iff known
  snapshots bound records v := by
    rcases snapshots_cases kept known H bound with ⟨given, snapshot, ended⟩ | ⟨q, engaged, waits⟩
    · rw [ended]
      constructor
      · intro same
        obtain ⟨rfl, rfl⟩ := Prod.mk.inj (Except.ok.inj same)
        exact ⟨rfl, snapshot⟩
      · rintro ⟨rfl, other⟩
        rw [snapshot.unique other]
    · rw [waits]
      exact ⟨fun ended => (by cases ended),
        fun ⟨_, snapshot⟩ => absurd engaged snapshot.not_engaged⟩
  taken free := by
    rcases snapshots_cases kept known H 0 with ⟨records, snapshot, -⟩ | ⟨q, engaged, -⟩
    · exact ⟨records, snapshot⟩
    · exact absurd engaged (free q)
  waits p engaged bound := by
    rcases snapshots_cases kept known H bound with ⟨records, snapshot, -⟩ | waits
    · exact absurd engaged snapshot.not_engaged
    · exact waits

/-- **Snapshots.** At every moment of every run, in the middle of a call as well, the records of a
registry are those of its proxies, one for each entry, in the strictly ascending order of the names'
bytes, and the names stand in the order in which they were registered. So any two registries, or one
at two moments, that have the same names and show the same under each of them give the same records,
whatever the order in which their names were registered.

**Proof sketch.** The first part is `Kept.monitored`. For the second part, the records that a
registry gives are those of which the monitor knows that they are a snapshot, and a snapshot is
determined by what is shown. -/
theorem snapshots_order_blind (reachable : Reachable H w) (known : w.registry? r = some registry) :
    Monitored H w r ∧
      ∀ {σ' : Type} {H' : Host σ'} {w' : World σ'} {r' : RegistryId} {registry' : Registry},
        Reachable H' w' → w'.registry? r' = some registry' →
        (∀ name status, (name, status) ∈ w.shown r ↔ (name, status) ∈ w'.shown r') →
        ∀ bound bound' records, (Registry.snapshots r).perform H bound w = .ok (records, w) ↔
          (Registry.snapshots r').perform H' bound' w' = .ok (records, w') := by
  have monitored : Monitored H w r := reachable.kept.monitored reachable.enlisted known
  refine ⟨monitored, fun {σ' H' w' r' registry'} reachable' known' same bound bound' records => ?_⟩
  have monitored' : Monitored H' w' r' := reachable'.kept.monitored reachable'.enlisted known'
  rw [monitored.snapshots, monitored'.snapshots,
    snapshot_congr reachable.kept reachable'.kept fun x => same x.1 x.2]
  simp

/-! ## The same components by other ways -/

/-- A host that lacks what products of one type are made of. -/
def lacking : Host Nat where
  __ := Host.counting (fun _ => .ok ()) fun _ => pure ()
  create _ type :=
    if type.name = "ﬀ" then .done (.error ⟨type.name, ⟨"no parts", []⟩⟩)
    else .update fun n => (.ok ⟨n⟩, n + 1)

/-- A client with three components: nothing is known of the first, the second runs, the third
failed. -/
def staff : Activity Nat RegistryId := do
  let r ← Activity.establish (.custom 0) (.custom 0)
  let _ ← Activity.obtain r "𝔞"
  let z ← Activity.obtain r "Z"
  let f ← Activity.obtain r "ﬀ"
  let _ ← Activity.operate z .start
  let _ ← Activity.operate z .resolve
  let _ ← Activity.operate f .start
  let _ ← Activity.operate f .resolve
  pure r

/-- A client that resets, and brings the same components back in another order and by other
calls. -/
def restaff : Activity Nat RegistryId := do
  let r ← Activity.establish (.custom 0) (.custom 0)
  let z ← Activity.obtain r "Z"
  let _ ← Activity.operate z .start
  Activity.reset r
  let f ← Activity.obtain r "ﬀ"
  let _ ← Activity.operate f .resolve
  let _ ← Activity.operate f .start
  let a ← Activity.obtain r "𝔞"
  let _ ← Activity.operate a .start
  let _ ← Activity.operate a .stop
  let z ← Activity.obtain r "Z"
  let _ ← Activity.operate z .resolve
  let _ ← Activity.operate z .start
  pure r

/-- What monitors are shown of these components. -/
def board : List Status :=
  [⟨"Z", true, true, true, none⟩,
    ⟨"ﬀ", true, true, false, some "failed to construct `ﬀ`: no parts"⟩,
    ⟨"𝔞", false, false, false, none⟩]

/-- The clients leave the same snapshot, and each leaves its own order of names. -/
theorem snapshots_order_blind_restaff : ∃ w w' registry registry',
    Reachable lacking w ∧ w.registry? ⟨0⟩ = some registry ∧
    Reachable lacking w' ∧ w'.registry? ⟨0⟩ = some registry' ∧
    (∀ name status, (name, status) ∈ w.shown ⟨0⟩ ↔ (name, status) ∈ w'.shown ⟨0⟩) ∧
    Monitored lacking w ⟨0⟩ ∧
    (Registry.namesOf ⟨0⟩).perform lacking 0 w = .ok (["𝔞", "Z", "ﬀ"], w) ∧
    (Registry.namesOf ⟨0⟩).perform lacking 0 w' = .ok (["ﬀ", "𝔞", "Z"], w') ∧
    (Registry.snapshots ⟨0⟩).perform lacking 0 w = .ok (board, w) ∧
    (Registry.snapshots ⟨0⟩).perform lacking 0 w' = .ok (board, w') := by
  obtain ⟨w, ran, registry, known, names, complete⟩ :
      ∃ w, staff.perform lacking 1 { host := 0 } = .ok (⟨0⟩, w) ∧
        ∃ registry, w.registry? ⟨0⟩ = some registry ∧
        (Registry.namesOf ⟨0⟩).perform lacking 0 w = .ok (["𝔞", "Z", "ﬀ"], w) ∧
        (board.map fun record => (record.name, some record)).Perm (w.shown ⟨0⟩) := by
    refine ⟨_, rfl, _, rfl, rfl, by decide⟩
  obtain ⟨w', ran', registry', known', names', complete'⟩ :
      ∃ w, restaff.perform lacking 2 { host := 0 } = .ok (⟨0⟩, w) ∧
        ∃ registry, w.registry? ⟨0⟩ = some registry ∧
        (Registry.namesOf ⟨0⟩).perform lacking 0 w = .ok (["ﬀ", "𝔞", "Z"], w) ∧
        (board.map fun record => (record.name, some record)).Perm (w.shown ⟨0⟩) := by
    refine ⟨_, rfl, _, rfl, rfl, by decide⟩
  have snapshot : Snapshot w ⟨0⟩ board := ⟨complete, by decide⟩
  have snapshot' : Snapshot w' ⟨0⟩ board := ⟨complete', by decide⟩
  have same (name : String) (status : Option Status) :
      (name, status) ∈ w.shown ⟨0⟩ ↔ (name, status) ∈ w'.shown ⟨0⟩ :=
    (snapshot.shown_perm snapshot').mem_iff
  have reachable : Reachable lacking w := .of_run ran
  have reachable' : Reachable lacking w' := .of_run ran'
  obtain ⟨monitored, blind⟩ := snapshots_order_blind reachable known
  have taken : (Registry.snapshots ⟨0⟩).perform lacking 0 w = .ok (board, w) :=
    (monitored.snapshots 0 board w).2 ⟨rfl, snapshot⟩
  exact ⟨w, w', registry, registry', reachable, known, reachable', known', same, monitored, names,
    names', taken, (blind reachable' known' same 0 0 board).1 taken⟩

end Standby.World
