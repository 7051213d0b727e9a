import Standby.Proofs.Sweep
import Standby.Proofs.World.Frame
set_option autoImplicit false

/-!
# What the journal says is registered

The entries of a registry can be read off the journal: they are the entries that registrations made,
in the order in which these happened, without those that a reset removed. This is so at every moment
of every run, whatever calls are under way.

## Main definitions

* `Standby.enrolled` — the entries that registrations made.
* `Standby.roster` — the entries that are left of them.
* `Standby.World.Enlisted` — the journal of a world tells what is registered in it.
* `Standby.World.Titled` — what was registered bears the name under which it was.

## Main results

* `Standby.World.enlists_stepwise` — no step makes the journal and the registries disagree.
* `Standby.World.Reachable.enlisted` — the journal tells what is registered, in every world that a
  run goes through.
* `Standby.World.Enlisted.entriesOf_since` — what is registered later.
* `Standby.World.Reachable.still_known` — a proxy stays there, and bears the same name.

## Design

All proxies that there are were registered, one after the other, and each gets its place among them.
So nothing that was registered once is registered a second time, and to be removed is to be gone for
good.
-/

namespace Standby

variable {σ : Type} {H : Host σ}

/-! ## Rosters -/

/-- The entry that a registration in `r` makes. -/
def Event.enrolled? (r : RegistryId) : Event → Option Entry
  | .registered r' name p => if r' = r then some ⟨name, p⟩ else none
  | .swept _ _ | .removed _ _ | .began _ _ | .asked _ _ | .answered _ _ | .ended _ _ _ => none

/-- The entries that registrations in `r` made, in the order in which they happened. -/
def enrolled (r : RegistryId) (news : List Event) : List Entry :=
  news.reverse.filterMap (Event.enrolled? r)

/-- The entries that registrations in `r` made and whose proxies no sweep removed. -/
def roster (r : RegistryId) (news : List Event) : List Entry :=
  (enrolled r news).filter fun e => e.proxy ∉ removedFrom r news

section Journal

variable {r : RegistryId} {p : ProxyId} {news later : List Event} {e : Event}

/-- The entries that registrations made in two stretches of a journal, earlier stretch first. -/
@[simp] lemma enrolled_append :
    enrolled r (later ++ news) = enrolled r news ++ enrolled r later := by
  simp [enrolled]

/-- One more event adds the entry that it makes, if it is a registration. -/
private lemma enrolled_cons :
    enrolled r (e :: news) = enrolled r news ++ (e.enrolled? r).toList := by
  rw [← List.singleton_append, enrolled_append]
  cases h : e.enrolled? r <;> simp [enrolled, h]

/-- One more event adds the proxies that it removes, if it is a removal. -/
private lemma removedFrom_cons :
    removedFrom r (e :: news) = removedFrom r news ++ removedFrom r [e] := by
  rw [← List.singleton_append, removedFrom_append]

/-- The proxies of the entries that were made are those that were registered. -/
lemma map_proxy_enrolled : (enrolled r news).map Entry.proxy = registeredIn r news := by
  induction news with
  | nil => rfl
  | cons e news ih =>
    rw [enrolled_cons, List.map_append, ih, ← List.singleton_append, registeredIn_append]
    congr 1
    cases e with
    | registered r' name p =>
      by_cases hr : r' = r <;>
        simp [Event.enrolled?, registeredIn, registrations, Event.registration?, hr]
    | swept _ _ | removed _ _ | began _ _ | asked _ _ | answered _ _ | ended _ _ _ => rfl

/-- What was registered in a registry was registered. -/
private lemma mem_registrations (h : p ∈ registeredIn r news) : (r, p) ∈ registrations news := by
  simpa [registeredIn] using h

/-- An event that is no registration and no removal leaves the roster as it is. -/
private lemma roster_cons_of_quiet (h : e.registration? = none) (h' : removedFrom r [e] = []) :
    roster r (e :: news) = roster r news := by
  have none : e.enrolled? r = none := by
    cases e with
    | registered _ _ _ => simp [Event.registration?] at h
    | swept _ _ | removed _ _ | began _ _ | asked _ _ | answered _ _ | ended _ _ _ => rfl
  rw [roster, enrolled_cons, none, removedFrom_cons, h']
  simp [roster]

end Journal

namespace World

variable {w w' u v : World σ} {p : ProxyId} {r : RegistryId} {name : String} {news : List Event}

/-- The journal of a world tells what is registered in it. Its registrations made all proxies, one
after the other; what was removed was registered; and whenever a name was registered, it was not
registered at this moment. -/
structure Enlisted (w : World σ) : Prop where
  entries : ∀ r, w.entriesOf r = roster r w.journal
  numbered : (registrations w.journal).map Prod.snd = (List.range w.proxies.length).map ProxyId.mk
  removed : ∀ r, ∀ p ∈ removedFrom r w.journal, p ∈ registeredIn r w.journal
  free : ∀ {r name p earlier later}, w.journal = later ++ .registered r name p :: earlier →
    ∀ e ∈ roster r earlier, e.name ≠ name

/-- In the beginning nothing is registered. -/
private lemma enlisted_opening (host : σ) (context : Context) : Enlisted { host, context } where
  entries _ := by simp [entriesOf, registry?, roster, enrolled]
  numbered := rfl
  removed _ _ h := by simp [removedFrom] at h
  free h := by simp at h

/-! ## Step by step -/

namespace Enlisted

/-- Where neither a proxy nor an entry is added or taken away, and the journal tells of neither.

**Proof sketch.** The event adds nothing to what the journal tells of registrations and removals, so
each part reads as before. -/
private lemma of_quiet (enlisted : w.Enlisted) {e : Event} (h : e.registration? = none)
    (h' : ∀ r, removedFrom r [e] = []) : (w.record e).Enlisted where
  entries r := (enlisted.entries r).trans (roster_cons_of_quiet h (h' r)).symm
  numbered := by
    have same : registrations (e :: w.journal) = registrations w.journal := by
      simp [registrations, h]
    rw [record, same]
    exact enlisted.numbered
  removed r p hp := by
    rw [record, removedFrom_cons, h' r, List.append_nil] at hp
    rw [record, registeredIn_cons_of_none h]
    exact enlisted.removed r p hp
  free {r name p earlier later} split := by
    cases later with
    | nil =>
      obtain rfl : e = .registered r name p := (List.cons.inj split).1
      simp [Event.registration?] at h
    | cons e' later => exact enlisted.free (List.cons.inj split).2

/-- A proxy that is registered is one of those that there are. -/
private lemma index_lt (enlisted : w.Enlisted) (h : p ∈ registeredIn r w.journal) :
    p.index < w.proxies.length := by
  have told : p ∈ (registrations w.journal).map Prod.snd :=
    List.mem_map_of_mem (f := Prod.snd) (mem_registrations h)
  rw [enlisted.numbered] at told
  obtain ⟨i, hi, rfl⟩ := List.mem_map.1 told
  exact List.mem_range.1 hi

/-- The next proxy was not registered. -/
lemma not_mem_of_next (enlisted : w.Enlisted) (h : p = ⟨w.proxies.length⟩) :
    p ∉ registeredIn r w.journal := by
  intro registered
  have there := enlisted.index_lt registered
  rw [h] at there
  exact Nat.lt_irrefl _ there

/-- What is registered was registered. -/
private lemma mem_registeredIn (enlisted : w.Enlisted) (h : p ∈ w.members r) :
    p ∈ registeredIn r w.journal := by
  rw [members, enlisted.entries] at h
  rw [← map_proxy_enrolled]
  exact (List.filter_sublist.map Entry.proxy).subset h

/-- The name that is registered is registered for the first time since it was removed, if ever it
was, and its proxy is the next one.

**Proof sketch.** The new proxy has the next number, so it was never removed. The roster has one
more entry for this registry, and so has the registry. -/
private lemma registers (enlisted : w.Enlisted) (h : Registers w w' r name p) : w'.Enlisted where
  entries r' := by
    have never : p ∉ removedFrom r w.journal := fun hp =>
      enlisted.not_mem_of_next h.new (enlisted.removed r p hp)
    have same : removedFrom r' w'.journal = removedFrom r' w.journal := by
      rw [h.journal, removedFrom_cons]
      exact List.append_nil _
    rw [roster, same, h.journal, enrolled_cons, List.filter_append]
    by_cases hr : r' = r
    · subst hr
      rw [h.entries, enlisted.entries, roster]
      simp [Event.enrolled?, never]
    · have none : (Event.registered r name p).enrolled? r' = none := if_neg (Ne.symm hr)
      rw [h.others r' hr, enlisted.entries, none]
      simp [roster]
  numbered := by
    obtain ⟨registry, -, hproxies⟩ := h.made
    have more : registrations w'.journal = registrations w.journal ++ [(r, p)] := by
      simp [h.journal, registrations, Event.registration?]
    rw [more, List.map_append, enlisted.numbered, hproxies, h.new]
    simp [List.range_succ]
  removed r' q hq := by
    rw [h.journal, removedFrom_cons] at hq
    rw [h.journal, ← List.singleton_append, registeredIn_append]
    have before : q ∈ removedFrom r' w.journal := by simpa [removedFrom] using hq
    exact List.mem_append_left _ (enlisted.removed r' q before)
  free {r' name' q earlier later} split := by
    rw [h.journal] at split
    cases later with
    | nil =>
      obtain ⟨same, rfl⟩ := List.cons.inj split
      obtain ⟨rfl, rfl, rfl⟩ := Event.registered.inj same
      rw [← enlisted.entries]
      exact h.free
    | cons e later => exact enlisted.free (List.cons.inj split).2

/-- What is removed was registered before.

**Proof sketch.** The roster leaves out what is told to be removed, which is what the removal takes
away. Whoever is removed was registered, and its name may be registered again. -/
private lemma remove (enlisted : w.Enlisted) {gone : List ProxyId}
    (registered : ∀ p ∈ gone, p ∈ registeredIn r w.journal) : (w.remove r gone).Enlisted := by
  rcases remove_cases (w := w) r gone with same | told
  · rw [same]
    exact enlisted
  have now : removedFrom r [.removed r gone] = gone := by simp [removedFrom]
  have elsewhere {r'} (hr : r' ≠ r) : removedFrom r' [.removed r gone] = [] := by
    simp [removedFrom, Ne.symm hr]
  have same (r') : registeredIn r' (w.remove r gone).journal = registeredIn r' w.journal := by
    rw [told]
    exact registeredIn_cons_of_none rfl
  refine ⟨fun r' => ?_, ?_, fun r' p hp => ?_, fun {r' name p earlier later} split => ?_⟩
  · by_cases hr : r' = r
    · subst hr
      have same : enrolled r' ([.removed r' gone] ++ w.journal) = enrolled r' w.journal := by
        rw [enrolled_append]
        exact List.append_nil _
      rw [entriesOf_remove_self, enlisted.entries, told, roster, roster, removedFrom_append,
        now, same, List.filter_filter]
      refine List.filter_congr fun e _ => ?_
      simp [and_comm]
    · rw [entriesOf_remove_of_ne gone hr, enlisted.entries, told]
      exact (roster_cons_of_quiet rfl (elsewhere hr)).symm
  · have hproxies : (w.remove r gone).proxies = w.proxies := by
      rw [World.remove]
      split <;> rfl
    have unchanged : registrations (w.remove r gone).journal = registrations w.journal := by
      rw [told]
      simp [registrations, Event.registration?]
    rw [unchanged, hproxies]
    exact enlisted.numbered
  · rw [same]
    rw [told, removedFrom_append, List.mem_append] at hp
    rcases hp with before | hp
    · exact enlisted.removed r' p before
    · by_cases hr : r' = r
      · subst hr
        rw [now] at hp
        exact registered p hp
      · simp [elsewhere hr] at hp
  · rw [told] at split
    cases later with
    | nil => exact absurd (List.cons.inj split).1 (by simp)
    | cons e later => exact enlisted.free (List.cons.inj split).2

end Enlisted

/-- Between two worlds the journal only grows, and it tells what is registered in the later one if
it does so in the earlier one. -/
def Enlists (w w' : World σ) : Prop := Continues w w' ∧ (w.Enlisted → w'.Enlisted)

/-- Where neither the journal nor the entries nor the number of proxies changes, the journal tells
what is registered as it did.

**Proof sketch.** All four parts speak of the journal, the entries and the number of proxies
alone. -/
private lemma enlists_of_eq (hjournal : w'.journal = w.journal)
    (hentries : ∀ r, w'.entriesOf r = w.entriesOf r)
    (hlength : w'.proxies.length = w.proxies.length) : Enlists w w' := by
  refine ⟨⟨[], hjournal⟩, fun enlisted => ⟨fun r => ?_, ?_, ?_, ?_⟩⟩
  · rw [hentries, hjournal]
    exact enlisted.entries r
  · rw [hjournal, hlength]
    exact enlisted.numbered
  · rw [hjournal]
    exact enlisted.removed
  · rw [hjournal]
    exact enlisted.free

/-- An event that is neither a registration nor a removal leaves the journal as truthful as it
was. -/
lemma enlists_record {e : Event} (h : e.registration? = none) (h' : ∀ r, removedFrom r [e] = []) :
    Enlists w (w.record e) :=
  ⟨continues_record e, fun enlisted => enlisted.of_quiet h h'⟩

/-- Nothing that happens to a proxy is a removal. -/
private lemma enlists_isOf {e : Event} (h : e.IsOf p) : Enlists w (w.record e) := by
  refine enlists_record h.registration?_eq fun r => ?_
  cases e with
  | began _ _ | asked _ _ | answered _ _ | ended _ _ _ => rfl
  | registered _ _ _ | swept _ _ | removed _ _ => exact h.elim

/-- That the journal stays truthful composes, and neither the collaborators' state nor what is
current matters. -/
private lemma enlists_silent : Silent (Enlists (σ := σ)) where
  refl _ := ⟨continues_silent.refl _, id⟩
  trans huv hvw := ⟨continues_silent.trans huv.1 hvw.1, hvw.2 ∘ huv.2⟩
  host _ _ := enlists_of_eq rfl (fun _ => rfl) rfl
  context _ _ := enlists_of_eq rfl (fun _ => rfl) rfl

/-- The journal stays truthful in the course of an operation, if it does in the calls that it
makes. -/
private lemma enlists_operate {perform : Activity.Performance σ}
    (calls : ∀ {c u answer v}, perform c u = .ok (answer, v) → Enlists u v)
    {operation : Proxy.Operation} {result : Except ProxyError Unit}
    (h : operate perform H p operation w = .ok (result, w')) : Enlists w w' :=
  enlists_silent.operate calls
    (fun _ _ => enlists_of_eq rfl (fun _ => rfl) (by simp [setProxy]))
    (fun _ _ he => enlists_isOf he) h

/-- No step makes the journal and the registries disagree.

**Proof sketch.** Step by step. A registration is `registers`, and a pass removes those that were
registered when it began. -/
theorem enlists_stepwise (H : Host σ) : Stepwise H Enlists where
  toSilent := enlists_silent
  establish w resolver factory := enlists_of_eq rfl (fun _ => entriesOf_establish ..) rfl
  obtain {w w' r name p} h := by
    rcases obtain_registers h with ⟨rfl, -⟩ | registers
    · exact enlists_silent.refl _
    · exact ⟨⟨[_], registers.journal⟩, fun enlisted => enlisted.registers registers⟩
  install w r := by
    refine enlists_of_eq (journal_install r) (fun _ => entriesOf_install r) ?_
    rw [install]
    split <;> rfl
  operate calls h := enlists_operate calls h
  pass {perform r registry w w'} calls known h := by
    have hsweep := enlists_silent.sweep (fun _ _ => enlists_record rfl fun _ => rfl)
      (fun h => enlists_operate calls h) h
    refine ⟨continues_silent.trans hsweep.1 ?_, fun enlisted => ?_⟩
    · rcases remove_cases (w := w') r registry.proxies with same | told
      · rw [same]
        exact continues_silent.refl w'
      · exact ⟨_, told⟩
    · refine (hsweep.2 enlisted).remove fun p hp => ?_
      -- What a pass removes was registered when the pass began.
      obtain ⟨news, happened⟩ := hsweep.1
      rw [← members_eq known] at hp
      rw [happened, registeredIn_append]
      exact List.mem_append_left _ (enlisted.mem_registeredIn hp)
  began {w p proxy} operation _ _ := by
    have put : Enlists w (w.setProxy p { proxy with busy := true }) :=
      enlists_of_eq rfl (fun _ => rfl) (by simp [setProxy])
    exact enlists_silent.trans put (enlists_isOf rfl)
  asked _ _ _ := enlists_isOf rfl
  answered _ _ _ := enlists_isOf rfl

/-- The journal tells what is registered, in every world that a run goes through. -/
theorem Reachable.enlisted (reachable : Reachable H w) : w.Enlisted := by
  have follows := (enlists_stepwise H).follows fun _ _ _ => enlists_record rfl fun _ => rfl
  obtain ⟨host, context, -, enlists⟩ := follows.reachable reachable
  exact enlists (enlisted_opening host context)

/-! ## What the journal is good for -/

namespace Enlisted

/-- No proxy was registered twice. -/
private lemma nodup_registrations (enlisted : w.Enlisted) :
    ((registrations w.journal).map Prod.snd).Nodup := by
  rw [enlisted.numbered]
  exact List.nodup_range.map fun _ _ h => congrArg ProxyId.index h

/-- A proxy is registered in one registry at most. -/
lemma registry_unique (enlisted : w.Enlisted) {r' : RegistryId} (h : p ∈ w.members r)
    (h' : p ∈ w.members r') : r = r' := by
  have told := mem_registrations (enlisted.mem_registeredIn h)
  have told' := mem_registrations (enlisted.mem_registeredIn h')
  have same : (r, p) = (r', p) :=
    List.inj_on_of_nodup_map enlisted.nodup_registrations told told' rfl
  exact congrArg Prod.fst same

/-- What was removed is not registered. -/
lemma not_mem_of_removed (enlisted : w.Enlisted) (h : p ∈ removedFrom r w.journal) :
    p ∉ w.members r := by
  intro member
  rw [members, enlisted.entries] at member
  obtain ⟨e, he, rfl⟩ := List.mem_map.1 member
  simpa [h] using (List.mem_filter.1 he).2

/-- What was registered since was not there before. -/
lemma le_index (earlier : u.Enlisted) (later : v.Enlisted)
    (happened : v.journal = news ++ u.journal) (h : p ∈ registeredIn r news) :
    u.proxies.length ≤ p.index := by
  by_contra hlt
  have told : p ∈ (registrations u.journal).map Prod.snd := by
    rw [earlier.numbered]
    exact List.mem_map.2 ⟨p.index, List.mem_range.2 (Nat.lt_of_not_le hlt), rfl⟩
  have told' : p ∈ (registrations news).map Prod.snd :=
    List.mem_map_of_mem (f := Prod.snd) (mem_registrations h)
  have nodup := later.nodup_registrations
  rw [happened, registrations_append, List.map_append, List.nodup_append] at nodup
  exact nodup.2.2 p told p told' rfl

/-- What is registered later was registered before or since, and was not removed since.

**Proof sketch.** The roster at the later moment is split at the earlier one. Whoever was enrolled
since is new, so no earlier removal concerns it. -/
lemma entriesOf_since (earlier : u.Enlisted) (later : v.Enlisted)
    (happened : v.journal = news ++ u.journal) (r : RegistryId) :
    v.entriesOf r =
      (u.entriesOf r ++ enrolled r news).filter fun e => e.proxy ∉ removedFrom r news := by
  rw [later.entries, earlier.entries, happened, roster, roster, enrolled_append, removedFrom_append,
    List.filter_append, List.filter_append, List.filter_filter]
  congr 1
  · refine List.filter_congr fun e _ => ?_
    simp [and_comm]
  · refine List.filter_congr fun e he => ?_
    have never : e.proxy ∉ removedFrom r u.journal := fun removed => by
      have there := earlier.index_lt (earlier.removed r e.proxy removed)
      have new : e.proxy ∈ registeredIn r news := by
        rw [← map_proxy_enrolled]
        exact List.mem_map_of_mem he
      exact absurd there (Nat.not_lt.2 (earlier.le_index later happened new))
    simp [never]

end Enlisted

/-! ## What was registered bears its name -/

/-- Every registration of which the journal tells made a proxy that bears the name, and still
does. -/
def Titled (w : World σ) : Prop :=
  ∀ r name p, .registered r name p ∈ w.journal →
    ∃ proxy, w.proxy? p = some proxy ∧ proxy.name = name

/-- Between two worlds proxies persist, and what was registered still bears its name. -/
structure Titles (w w' : World σ) : Prop where
  persists : Persists w w'
  titled : w.Titled → w'.Titled

/-- Where proxies persist and no registration is told of, names are borne as before. -/
private lemma titles_of_told (persists : Persists w w')
    (told : ∀ r name p, .registered r name p ∈ w'.journal → .registered r name p ∈ w.journal) :
    Titles w w' := by
  refine ⟨persists, fun titled r name p h => ?_⟩
  obtain ⟨proxy, known, rfl⟩ := titled r name p (told r name p h)
  obtain ⟨proxy', known', hname, -⟩ := persists.proxy p proxy known
  exact ⟨proxy', known', hname⟩

/-- An event that is no registration changes no name. -/
private lemma titles_record {e : Event} (h : e.registration? = none) : Titles w (w.record e) := by
  refine titles_of_told (persists_record e) fun r name p told => ?_
  rcases List.mem_cons.1 told with rfl | told
  · simp [Event.registration?] at h
  · exact told

/-- Names that are borne from a first world to a second and from there to a third are borne all the
way. -/
private lemma titles_silent : Silent (Titles (σ := σ)) where
  refl w := titles_of_told (persists_silent.refl w) fun _ _ _ => id
  trans huv hvw := ⟨persists_silent.trans huv.persists hvw.persists, hvw.titled ∘ huv.titled⟩
  host w s := titles_of_told (persists_silent.host w s) fun _ _ _ => id
  context w c := titles_of_told (persists_silent.context w c) fun _ _ _ => id

/-- An operation changes no name: it writes back the state of its proxy, and what else happens is
done by the calls that it makes.

**Proof sketch.** The operation writes its proxy twice and records its beginning and its end, none
of which changes a name or registers one. -/
private lemma titles_operate {perform : Activity.Performance σ}
    (calls : ∀ {c u answer v}, perform c u = .ok (answer, v) → Titles u v)
    {operation : Proxy.Operation} {result : Except ProxyError Unit}
    (h : operate perform H p operation w = .ok (result, w')) : Titles w w' := by
  obtain ⟨proxy, state, v, known, -, hconverse, rfl⟩ := operate_ok h
  have hbegun : Titles w ((w.setProxy p { proxy with busy := true }).record (.began p operation)) :=
    titles_of_told (persists_began operation known) (by simp [record, setProxy])
  have htalk := titles_silent.converse calls (fun _ _ => titles_record rfl)
    (fun _ _ => titles_record rfl) hconverse
  have hended : Titles v ((v.setProxy p { proxy with state }).record (.ended p operation result)) :=
    titles_of_told (persists_ended known htalk.persists) (by simp [record, setProxy])
  exact titles_silent.trans hbegun (titles_silent.trans htalk hended)

/-- Across every step what was registered bears its name.

**Proof sketch.** Step by step. A registration makes the proxy with the name that it tells, and no
step changes the name of a proxy. -/
private lemma titles_stepwise (H : Host σ) : Stepwise H Titles where
  toSilent := titles_silent
  establish w resolver factory :=
    titles_of_told ((persists_stepwise H).establish w resolver factory) fun _ _ _ => id
  obtain {w w' r name p} h := by
    have persists := (persists_stepwise H).obtain h
    rcases obtain_registers h with ⟨rfl, -⟩ | registers
    · exact titles_silent.refl _
    · refine ⟨persists, fun titled r' name' q told => ?_⟩
      rw [registers.journal] at told
      rcases List.mem_cons.1 told with same | told
      · obtain ⟨rfl, rfl, rfl⟩ := Event.registered.inj same
        obtain ⟨registry, -, hproxies⟩ := registers.made
        exact ⟨_, by simp [proxy?, hproxies, registers.new]; rfl, rfl⟩
      · obtain ⟨proxy, known, rfl⟩ := titled r' name' q told
        obtain ⟨proxy', known', hname, -⟩ := persists.proxy q proxy known
        exact ⟨proxy', known', hname⟩
  install w r :=
    titles_of_told ((persists_stepwise H).install w r) (by simp [journal_install])
  operate calls h := titles_operate calls h
  pass {perform r registry w w'} calls _ h := by
    have hsweep := titles_silent.sweep (fun _ _ => titles_record rfl)
      (fun h => titles_operate calls h) h
    refine titles_silent.trans hsweep (titles_of_told (persists_remove r _) ?_)
    rcases remove_cases (w := w') r registry.proxies with same | told
    · simp [same]
    · simp [told]
  began operation known _ :=
    titles_of_told (persists_began operation known) (by simp [record, setProxy])
  asked _ _ _ := titles_record rfl
  answered _ _ _ := titles_record rfl

/-- What was registered bears its name, in every world that a run goes through. -/
private lemma Reachable.titled (reachable : Reachable H w) : w.Titled := by
  have follows := (titles_stepwise H).follows fun _ _ _ => titles_record rfl
  obtain ⟨host, context, titles⟩ := follows.reachable reachable
  exact titles.titled fun r name p told => absurd told List.not_mem_nil

/-- A proxy that there is at one moment of a run is there at every later one, with the same name.

**Proof sketch.** All proxies that there are at the earlier moment were registered by then, and the
journal of the later moment tells of the same registrations. -/
lemma Reachable.still_known {proxy : Proxy} (earlier : Reachable H u) (later : Reachable H v)
    (happened : v.journal = news ++ u.journal) (known : u.proxy? p = some proxy) :
    ∃ proxy', v.proxy? p = some proxy' ∧ proxy'.name = proxy.name := by
  obtain ⟨r, name, told⟩ : ∃ r name, .registered r name p ∈ u.journal := by
    have there : p.index < u.proxies.length := (List.getElem?_eq_some_iff.1 known).1
    have numbered : p ∈ (registrations u.journal).map Prod.snd := by
      rw [earlier.enlisted.numbered]
      exact List.mem_map.2 ⟨p.index, List.mem_range.2 there, rfl⟩
    obtain ⟨⟨r, q⟩, told, rfl⟩ := List.mem_map.1 numbered
    obtain ⟨e, he, made⟩ := List.mem_filterMap.1 told
    cases e with
    | registered r' name q' =>
      obtain ⟨rfl, rfl⟩ := Prod.mk.inj (Option.some.inj made)
      exact ⟨r', name, List.mem_reverse.1 he⟩
    | swept _ _ | removed _ _ | began _ _ | asked _ _ | answered _ _ | ended _ _ _ => cases made
  obtain ⟨x, hx, rfl⟩ := earlier.titled r name p told
  obtain rfl : proxy = x := Option.some.inj (known.symm.trans hx)
  refine later.titled r proxy.name p ?_
  rw [happened]
  exact List.mem_append_right _ told

end World

end Standby
