import Standby.Proofs.World.Entries
set_option autoImplicit false

/-!
# What a run leaves alone

The journal accounts for every change. A proxy on which no operation began is what it was, a
registry of which no registration and no removal is told has the entries that it had, and when a
call is over every proxy is as busy as it was before.

## Main definitions

* `Standby.World.Hushes` — no operation on a proxy takes a step unless one begins.
* `Standby.World.Frames` — a proxy on which no operation began is left alone.
* `Standby.World.Leaves` — a registry that was not altered has the same entries.
* `Standby.World.Settles` — a proxy is as busy as it was.

## Main results

* `Standby.World.hushes_closed`, `Standby.World.frames_closed`, `Standby.World.leaves_closed`,
  `Standby.World.settles_closed` — all of this holds across every call that is over.
-/

namespace Standby

variable {σ : Type} {H : Host σ}

/-- The event tells that entries of the registry `r` were added or removed. -/
def Event.Alters (r : RegistryId) : Event → Prop
  | .registered r' _ _ | .removed r' _ => r' = r
  | .swept _ _ | .began _ _ | .asked _ _ | .answered _ _ | .ended _ _ _ => False

namespace World

variable {w w' : World σ} {p q : ProxyId} {r : RegistryId}

/-! ## The journal grows -/

/-- Between two worlds the journal only grows. -/
def Continues (w w' : World σ) : Prop := ∃ news, w'.journal = news ++ w.journal

/-- The journal goes on with the event that is noted. -/
lemma continues_record (e : Event) : Continues w (w.record e) := ⟨[e], rfl⟩

/-- That the journal goes on composes, and neither the collaborators' state nor what is current
matters. -/
lemma continues_silent : Silent (Continues (σ := σ)) where
  refl _ := ⟨[], rfl⟩
  trans := by
    rintro u v w ⟨news, hv⟩ ⟨later, hw⟩
    exact ⟨later ++ news, journal_trans hv hw⟩
  host _ _ := ⟨[], rfl⟩
  context _ _ := ⟨[], rfl⟩

/-- An operation begins, its dialogue is carried out, and it ends. -/
private lemma continues_operate {perform : Activity.Performance σ}
    (calls : ∀ {c u answer v}, perform c u = .ok (answer, v) → Continues u v)
    {operation : Proxy.Operation} {result : Except ProxyError Unit}
    (h : operate perform H p operation w = .ok (result, w')) :
    ∃ during, w'.journal =
      .ended p operation result :: during ++ .began p operation :: w.journal := by
  obtain ⟨proxy, state, v, -, -, hconverse, rfl⟩ := operate_ok h
  obtain ⟨during, hv⟩ := continues_silent.converse calls (fun _ _ => continues_record _)
    (fun _ _ => continues_record _) hconverse
  exact ⟨during, by simp [record, setProxy, hv]⟩

/-! ## Where no operation begins -/

/-- Between two worlds no operation on `q` took a step unless one began. -/
def Hushes (q : ProxyId) (w w' : World σ) : Prop :=
  ∃ news, w'.journal = news ++ w.journal ∧
    ((∀ operation, .began q operation ∉ news) → ∀ e ∈ news, ¬ e.IsOf q)

/-- Where the journal stays as it is no operation on the proxy took a step. -/
private lemma hushes_of_eq (h : w'.journal = w.journal) : Hushes q w w' := ⟨[], h, by simp⟩

/-- An event that is no step of an operation on the proxy may be noted. -/
lemma hushes_record {e : Event} (h : ¬ e.IsOf q) : Hushes q w (w.record e) :=
  ⟨[e], rfl, fun _ => by simpa using h⟩

/-- That no operation on a proxy took a step composes, and neither the collaborators' state nor what
is current matters. -/
lemma hushes_silent (q : ProxyId) : Silent (Hushes (σ := σ) q) where
  refl _ := hushes_of_eq rfl
  trans := by
    rintro u v w ⟨news, hv, hnews⟩ ⟨later, hw, hlater⟩
    refine ⟨later ++ news, journal_trans hv hw, fun none e he => ?_⟩
    rcases List.mem_append.1 he with he | he
    · exact hlater (fun o began => none o (List.mem_append_left _ began)) e he
    · exact hnews (fun o began => none o (List.mem_append_right _ began)) e he
  host _ _ := hushes_of_eq rfl
  context _ _ := hushes_of_eq rfl

/-- An operation on another proxy takes no step of one on this proxy, if the calls that it makes do
not.

**Proof sketch.** An operation on the proxy itself begins there, so there is nothing to show. One on
another proxy records nothing of this one on its own account. -/
private lemma hushes_operate {perform : Activity.Performance σ}
    (calls : ∀ {c u answer v}, perform c u = .ok (answer, v) → Hushes q u v)
    {operation : Proxy.Operation} {result : Except ProxyError Unit}
    (h : operate perform H p operation w = .ok (result, w')) : Hushes q w w' := by
  by_cases hpq : p = q
  · subst hpq
    have continues {c u answer v} (hc : perform c u = .ok (answer, v)) : Continues u v := by
      obtain ⟨news, hv, -⟩ := calls hc
      exact ⟨news, hv⟩
    obtain ⟨during, happened⟩ := continues_operate continues h
    exact ⟨.ended p operation result :: during ++ [.began p operation], by simp [happened],
      fun none => absurd (by simp) (none operation)⟩
  · exact (hushes_silent q).operate calls (fun _ _ => hushes_of_eq rfl)
      (fun _ _ he => hushes_record fun he' => hpq (he.unique he')) h

/-- Across every call that is over, no operation on `q` takes a step unless one begins.

**Proof sketch.** Step by step, with `hushes_operate` for an operation and for every stop of a
pass. -/
theorem hushes_closed (H : Host σ) (q : ProxyId) : Closed H (Hushes q) where
  toSilent := hushes_silent q
  establish _ _ _ := hushes_of_eq rfl
  obtain {w w' r name p} h := by
    rcases obtain_registers h with ⟨rfl, -⟩ | registers
    · exact (hushes_silent q).refl _
    · exact ⟨[.registered r name p], registers.journal, by simp [Event.IsOf]⟩
  install _ r := hushes_of_eq (journal_install r)
  operate calls h := hushes_operate calls h
  pass {perform r registry w w'} calls _ h := by
    have hsweep := (hushes_silent q).sweep (fun _ _ => hushes_record id)
      (fun h => hushes_operate calls h) h
    refine (hushes_silent q).trans hsweep ?_
    rcases remove_cases (w := w') r registry.proxies with same | told
    · exact hushes_of_eq (by rw [same])
    · exact ⟨_, told, by simp [Event.IsOf]⟩

/-! ## Proxies -/

/-- If the proxy `q` is busy in `w`, or if no operation on it began since, then nothing happened to
it on the way to `w'`. -/
def Frames (q : ProxyId) (w w' : World σ) : Prop :=
  ∃ news, w'.journal = news ++ w.journal ∧ ∀ proxy, w.proxy? q = some proxy →
    proxy.busy = true ∨ (∀ operation, .began q operation ∉ news) →
      w'.proxy? q = some proxy ∧ ∀ e ∈ news, ¬ e.IsOf q

/-- Where the journal and the proxy stay as they are the proxy is framed. -/
private lemma frames_of_eq (hjournal : w'.journal = w.journal)
    (hproxy : ∀ proxy, w.proxy? q = some proxy → w'.proxy? q = some proxy) : Frames q w w' :=
  ⟨[], hjournal, fun proxy known _ => ⟨hproxy proxy known, by simp⟩⟩

/-- An event that is no step of an operation on the proxy leaves it framed. -/
private lemma frames_record {e : Event} (h : ¬ e.IsOf q) : Frames q w (w.record e) :=
  ⟨[e], rfl, fun _ known _ => ⟨known, by simpa using h⟩⟩

/-- Framing composes, and neither the collaborators' state nor what is current matters to it.

**Proof sketch.** If the proxy is busy or untouched along both parts it is so along the first, which
leaves it as it was, and then along the second. -/
private lemma frames_silent (q : ProxyId) : Silent (Frames (σ := σ) q) where
  refl _ := frames_of_eq rfl fun _ known => known
  trans := by
    rintro u v w ⟨news, hv, hnews⟩ ⟨later, hw, hlater⟩
    refine ⟨later ++ news, journal_trans hv hw, fun proxy known quiet => ?_⟩
    obtain ⟨known, none⟩ := hnews proxy known (quiet.imp_right fun h operation began =>
      h operation (List.mem_append_right _ began))
    obtain ⟨known, none'⟩ := hlater proxy known (quiet.imp_right fun h operation began =>
      h operation (List.mem_append_left _ began))
    exact ⟨known, fun e he => (List.mem_append.1 he).elim (none' e) (none e)⟩
  host _ _ := frames_of_eq rfl fun _ known => known
  context _ _ := frames_of_eq rfl fun _ known => known

/-- An operation on another proxy leaves this one as it is, if the calls that it makes do.

**Proof sketch.** An operation on a busy proxy is not over, and one on the proxy itself begins
there. One on another proxy writes to that one only. -/
lemma frames_operate {perform : Activity.Performance σ}
    (calls : ∀ {c u answer v}, perform c u = .ok (answer, v) → Frames q u v)
    {operation : Proxy.Operation} {result : Except ProxyError Unit}
    (h : operate perform H p operation w = .ok (result, w')) : Frames q w w' := by
  by_cases hpq : p = q
  · subst hpq
    have continues {c u answer v} (hc : perform c u = .ok (answer, v)) : Continues u v := by
      obtain ⟨news, hv, -⟩ := calls hc
      exact ⟨news, hv⟩
    obtain ⟨during, happened⟩ := continues_operate continues h
    refine ⟨.ended p operation result :: during ++ [.began p operation], by simp [happened],
      fun proxy known quiet => ?_⟩
    rcases quiet with busy | none
    · simp [operate, known, busy] at h
    · exact absurd (by simp) (none operation)
  · refine (frames_silent q).operate calls (fun w proxy => ?_) (fun w e he => ?_) h
    · exact frames_of_eq rfl fun _ known => (proxy?_setProxy_of_ne hpq).trans known
    · exact frames_record fun he' => hpq (he.unique he')

/-- Across every call that is over, a proxy on which no operation began is left alone.

**Proof sketch.** Step by step. A registration, an installation and a removal leave every proxy that
was there as it was. -/
theorem frames_closed (H : Host σ) (q : ProxyId) : Closed H (Frames q) where
  toSilent := frames_silent q
  establish _ _ _ := frames_of_eq rfl fun _ known => known
  obtain {w w' r name p} h := by
    have hproxy : ∀ proxy, w.proxy? q = some proxy → w'.proxy? q = some proxy :=
      fun _ known => proxy?_obtain h known
    rcases obtain_registers h with ⟨rfl, -⟩ | registers
    · exact (frames_silent q).refl _
    · exact ⟨[.registered r name p], registers.journal,
        fun proxy known _ => ⟨hproxy proxy known, by simp [Event.IsOf]⟩⟩
  install _ r := frames_of_eq (journal_install r) fun _ known => (proxy?_install r).trans known
  operate calls h := frames_operate calls h
  pass {perform r registry w w'} calls _ h := by
    have hsweep := (frames_silent q).sweep (fun _ _ => frames_record id)
      (fun h => frames_operate calls h) h
    refine (frames_silent q).trans hsweep ?_
    have hproxy : ∀ proxy, w'.proxy? q = some proxy →
        (w'.remove r registry.proxies).proxy? q = some proxy :=
      fun _ known => (proxy?_remove r _).trans known
    rcases remove_cases (w := w') r registry.proxies with same | told
    · rw [same]
      exact (frames_silent q).refl w'
    · exact ⟨_, told, fun proxy known _ => ⟨hproxy proxy known, by simp [Event.IsOf]⟩⟩

/-- The proxy `q` is still there, and as busy as it was. -/
def Settles (q : ProxyId) (w w' : World σ) : Prop :=
  ∀ proxy, w.proxy? q = some proxy → ∃ proxy', w'.proxy? q = some proxy' ∧ proxy'.busy = proxy.busy

/-- Where the proxy stays as it is it is settled. -/
private lemma settles_of_eq (h : ∀ proxy, w.proxy? q = some proxy → w'.proxy? q = some proxy) :
    Settles q w w' :=
  fun proxy known => ⟨proxy, h proxy known, rfl⟩

/-- Settling composes, and neither the collaborators' state nor what is current matters to it. -/
lemma settles_silent (q : ProxyId) : Silent (Settles (σ := σ) q) where
  refl _ := settles_of_eq fun _ known => known
  trans {u v w} huv hvw proxy known := by
    obtain ⟨proxy', known', same⟩ := huv proxy known
    obtain ⟨proxy'', known'', same'⟩ := hvw proxy' known'
    exact ⟨proxy'', known'', same'.trans same⟩
  host _ _ := settles_of_eq fun _ known => known
  context _ _ := settles_of_eq fun _ known => known

/-- An operation is over when it ends, so its proxy is as idle as it was found.

**Proof sketch.** The state is written back to the proxy as it was found, which is idle. Every other
proxy is as idle as its own calls leave it. -/
private lemma settles_operate {perform : Activity.Performance σ}
    (calls : ∀ {c u answer v}, perform c u = .ok (answer, v) → Settles q u v)
    {operation : Proxy.Operation} {result : Except ProxyError Unit}
    (h : operate perform H p operation w = .ok (result, w')) : Settles q w w' := by
  obtain ⟨proxy, state, v, known, -, hconverse, rfl⟩ := operate_ok h
  have htalk := (settles_silent q).converse calls (fun _ _ => settles_of_eq fun _ known => known)
    (fun _ _ => settles_of_eq fun _ known => known) hconverse
  intro proxy' known'
  by_cases hpq : p = q
  · subst hpq
    obtain rfl : proxy = proxy' := Option.some.inj (known.symm.trans known')
    obtain ⟨_, there, -⟩ := htalk _ (proxy?_setProxy_self known)
    exact ⟨{ proxy with state }, proxy?_setProxy_self there, rfl⟩
  · obtain ⟨proxy'', there, same⟩ := htalk proxy' ((proxy?_setProxy_of_ne hpq).trans known')
    exact ⟨proxy'', (proxy?_setProxy_of_ne hpq).trans there, same⟩

/-- Across every call that is over, a proxy stays as busy as it was. -/
theorem settles_closed (H : Host σ) (q : ProxyId) : Closed H (Settles q) where
  toSilent := settles_silent q
  establish _ _ _ := settles_of_eq fun _ known => known
  obtain h := settles_of_eq fun _ known => proxy?_obtain h known
  install _ r := settles_of_eq fun _ known => (proxy?_install r).trans known
  operate calls h := settles_operate calls h
  pass calls _ h := (settles_silent q).trans
    ((settles_silent q).sweep (fun _ _ => settles_of_eq fun _ known => known)
      (fun h => settles_operate calls h) h)
    (settles_of_eq fun _ known => (proxy?_remove ..).trans known)

/-! ## Registries -/

/-- If nothing was registered in `r` or removed from it since, then its entries are the same. -/
def Leaves (r : RegistryId) (w w' : World σ) : Prop :=
  ∃ news, w'.journal = news ++ w.journal ∧
    ((∀ e ∈ news, ¬ e.Alters r) → w'.entriesOf r = w.entriesOf r)

/-- Where the journal and the entries stay as they are the registry is left alone. -/
private lemma leaves_of_eq (hjournal : w'.journal = w.journal)
    (hentries : w'.entriesOf r = w.entriesOf r) : Leaves r w w' :=
  ⟨[], hjournal, fun _ => hentries⟩

/-- To note an event leaves every registry alone. -/
private lemma leaves_record (e : Event) : Leaves r w (w.record e) := ⟨[e], rfl, fun _ => rfl⟩

/-- Leaving a registry alone composes, and neither the collaborators' state nor what is current
matters to it. -/
lemma leaves_silent (r : RegistryId) : Silent (Leaves (σ := σ) r) where
  refl _ := leaves_of_eq rfl rfl
  trans := by
    rintro u v w ⟨news, hv, hnews⟩ ⟨later, hw, hlater⟩
    refine ⟨later ++ news, journal_trans hv hw, fun quiet => ?_⟩
    rw [hlater fun e he => quiet e (List.mem_append_left _ he),
      hnews fun e he => quiet e (List.mem_append_right _ he)]
  host _ _ := leaves_of_eq rfl rfl
  context _ _ := leaves_of_eq rfl rfl

/-- Across every call that is over, a registry that was not altered has the same entries.

**Proof sketch.** Step by step. The two steps that alter a registry tell of it, and an operation
does not by itself. -/
theorem leaves_closed (H : Host σ) (r : RegistryId) : Closed H (Leaves r) where
  toSilent := leaves_silent r
  establish _ _ _ := leaves_of_eq rfl (entriesOf_establish ..)
  obtain {w w' r' name p} h := by
    rcases obtain_registers h with ⟨rfl, -⟩ | registers
    · exact (leaves_silent r).refl _
    · refine ⟨[.registered r' name p], registers.journal, fun quiet => ?_⟩
      have hr : r' ≠ r := by simpa [Event.Alters] using quiet
      exact registers.others r (Ne.symm hr)
  install _ r' := leaves_of_eq (journal_install r') (entriesOf_install r')
  operate calls h := (leaves_silent r).operate calls (fun _ _ => leaves_of_eq rfl rfl)
    (fun _ e _ => leaves_record e) h
  pass {perform r' registry w w'} calls _ h := by
    have hsweep := (leaves_silent r).sweep (fun _ _ => leaves_record _)
      (fun h => (leaves_silent r).operate calls (fun _ _ => leaves_of_eq rfl rfl)
        (fun _ e _ => leaves_record e) h) h
    refine (leaves_silent r).trans hsweep ?_
    rcases remove_cases (w := w') r' registry.proxies with same | told
    · rw [same]
      exact (leaves_silent r).refl w'
    · refine ⟨_, told, fun quiet => ?_⟩
      have hr : r' ≠ r := by simpa [Event.Alters] using quiet
      exact entriesOf_remove_of_ne _ (Ne.symm hr)

end World

end Standby
