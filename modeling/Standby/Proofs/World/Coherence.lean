import Standby.Proofs.World.Passage
set_option autoImplicit false

/-!
# The journal and the proxies agree

At every moment of every run, the state of each proxy is the one to which the turns in its chronicle
lead. An operation that is under way has not changed it yet, and the calls that it made so far are
the beginning of a path of the operation from that state.

What makes this true although collaborators may call any operation while they are called is that
nobody touches a proxy on which an operation is under way.

## Main definitions

* `Standby.World.Keeps` — what happens between two worlds leaves a busy proxy alone.
* `Standby.Proxy.Agrees` — a proxy and a chronicle fit together.
* `Standby.World.Coherent` — every proxy of a world fits its chronicle.

## Main results

* `Standby.World.keeps_closed` — no run touches a proxy that is busy.
* `Standby.World.Coherent.perform` — a call leaves a coherent world.
* `Standby.World.Reachable.coherent` — every world that a run goes through is coherent.
* `Standby.World.Reachable.run` — the state of a proxy is the one to which its turns lead.
-/

namespace Standby

open Dialogue

variable {σ : Type} {H : Host σ}

/-! ## Busy proxies are left alone -/

namespace World

variable {p q : ProxyId} {w w' : World σ}

/-- If an operation is under way on the proxy `q` in `w`, then `w'` has the same proxy and the
journal of `w'` says the same about it. -/
def Keeps (q : ProxyId) (w w' : World σ) : Prop :=
  ∀ proxy, w.proxy? q = some proxy → proxy.busy = true →
    w'.proxy? q = some proxy ∧ w'.chronicle q = w.chronicle q

/-- What changes neither the proxies nor the chronicle keeps a proxy. -/
private lemma keeps_of_eq (hproxy : w'.proxy? q = w.proxy? q)
    (hchronicle : w'.chronicle q = w.chronicle q) : Keeps q w w' :=
  fun _ hq _ => ⟨hproxy.trans hq, hchronicle⟩

/-- That a busy proxy is kept composes, and neither the collaborators' state nor what is current
matters to it. -/
lemma keeps_silent (q : ProxyId) : Silent (Keeps (σ := σ) q) where
  refl _ := keeps_of_eq rfl rfl
  trans {u v w} huv hvw proxy hq busy := by
    obtain ⟨hv, hchronicle⟩ := huv proxy hq busy
    obtain ⟨hw, hchronicle'⟩ := hvw proxy hv busy
    exact ⟨hw, hchronicle'.trans hchronicle⟩
  host _ _ := keeps_of_eq rfl rfl
  context _ _ := keeps_of_eq rfl rfl

/-- An operation finds its proxy idle, so it keeps every proxy that is busy. -/
private lemma keeps_operate {perform : Activity.Performance σ}
    (calls : ∀ {c u answer v}, perform c u = .ok (answer, v) → Keeps q u v)
    {operation : Proxy.Operation} {result : Except ProxyError Unit}
    (h : operate perform H p operation w = .ok (result, w')) : Keeps q w w' := by
  by_cases hpq : p = q
  · subst hpq
    intro proxy hp busy
    simp [operate, hp, busy] at h
  · refine (keeps_silent q).operate calls (fun w proxy => ?_) (fun w e he => ?_) h
    · exact keeps_of_eq (proxy?_setProxy_of_ne hpq) rfl
    · exact keeps_of_eq rfl (Chronicle.note_of_not_isOf fun he' => hpq (he.unique he'))

/-- Registering a name gives the registered proxy, or adds a proxy and leaves all others as they
are.

**Proof sketch.** By cases on whether the name is found. -/
lemma obtain_cases {r : RegistryId} {name : String} (h : w.obtain r name = .ok (p, w')) :
    w' = w ∨ ∃ registry, w.registry? r = some registry ∧ p = ⟨w.proxies.length⟩ ∧
      w' = (({ w with proxies := w.proxies ++
            [{ name, resolver := registry.resolver, factory := registry.factory }] } :
          World σ).setRegistry r (registry.insert name p)).record (.registered r name p) := by
  rw [World.obtain] at h
  split at h
  · cases h
  next registry hr =>
    split at h
    · exact .inl (world_eq_of_ok h).symm
    · refine .inr ⟨registry, hr, ?_⟩
      obtain ⟨rfl, rfl⟩ := Prod.mk.inj (Except.ok.inj h)
      exact ⟨rfl, rfl⟩

/-- A proxy that is there stays there when a name is registered. -/
lemma proxy?_obtain {r : RegistryId} {name : String} {proxy : Proxy}
    (h : w.obtain r name = .ok (p, w')) (hq : w.proxy? q = some proxy) :
    w'.proxy? q = some proxy := by
  rcases obtain_cases h with rfl | ⟨registry, -, -, rfl⟩
  · exact hq
  · have hlt : q.index < w.proxies.length := (List.getElem?_eq_some_iff.1 hq).1
    simpa [proxy?, setRegistry, record, List.getElem?_append_left hlt] using hq

/-- A proxy that is there after a name is registered was there before, or it is new.

**Proof sketch.** The new proxy is put behind the others. So a number below theirs is an old one,
and the other number is the new one. -/
private lemma proxy?_of_obtain {r : RegistryId} {name : String} {proxy : Proxy}
    (h : w.obtain r name = .ok (p, w')) (hq : w'.proxy? q = some proxy) :
    w.proxy? q = some proxy ∨ w.proxy? q = none ∧
      ∃ resolver factory, proxy = { name, resolver, factory } := by
  rcases obtain_cases h with rfl | ⟨registry, -, -, rfl⟩
  · exact .inl hq
  · rcases Nat.lt_or_ge q.index w.proxies.length with hlt | hge
    · left
      simpa [proxy?, setRegistry, record, List.getElem?_append_left hlt] using hq
    · right
      refine ⟨List.getElem?_eq_none hge, registry.resolver, registry.factory, ?_⟩
      let new : Proxy := { name, resolver := registry.resolver, factory := registry.factory }
      have hnew : [new][q.index - w.proxies.length]? = some proxy := by
        simpa [proxy?, setRegistry, record, List.getElem?_append_right hge] using hq
      exact (List.mem_singleton.1 (List.mem_of_getElem? hnew))

/-- No event of a registration is about a proxy's operations. -/
private lemma chronicle_obtain {r : RegistryId} {name : String}
    (h : w.obtain r name = .ok (p, w')) : w'.chronicle q = w.chronicle q := by
  rcases obtain_cases h with rfl | ⟨registry, -, -, rfl⟩ <;> rfl

/-- Removing entries from a registry does nothing to the proxies. -/
lemma proxy?_remove (r : RegistryId) (gone : List ProxyId) :
    (w.remove r gone).proxy? q = w.proxy? q := by
  rw [World.remove]
  split <;> rfl

/-- A removal adds nothing to any chronicle. -/
private lemma chronicle_remove (r : RegistryId) (gone : List ProxyId) :
    (w.remove r gone).chronicle q = w.chronicle q := by
  rw [World.remove]
  split <;> rfl

/-- To install a registry changes no proxy. -/
lemma proxy?_install (r : RegistryId) : (w.install r).2.proxy? q = w.proxy? q := by
  rw [World.install]
  split <;> rfl

/-- To install a registry adds nothing to any chronicle. -/
private lemma chronicle_install (r : RegistryId) : (w.install r).2.chronicle q = w.chronicle q := by
  rw [World.install]
  split <;> rfl

/-- No run touches a proxy on which an operation is under way. -/
theorem keeps_closed (H : Host σ) (q : ProxyId) : Closed H (Keeps q) where
  toSilent := keeps_silent q
  establish _ _ _ := keeps_of_eq rfl rfl
  obtain h _ hq _ := ⟨proxy?_obtain h hq, chronicle_obtain h⟩
  install _ r := keeps_of_eq (proxy?_install r) (chronicle_install r)
  operate calls h := keeps_operate calls h
  pass {perform r registry w w'} calls _ h := by
    have hsweep := (keeps_silent q).sweep (fun _ _ => keeps_of_eq rfl rfl)
      (fun h => keeps_operate calls h) h
    exact (keeps_silent q).trans hsweep (keeps_of_eq (proxy?_remove r _) (chronicle_remove r _))

end World

/-! ## Coherent worlds -/

/-- A proxy and a chronicle fit together: the turns lead to the state, and the calls of the
operation under way are the beginning of a path from there. -/
structure Proxy.Agrees (proxy : Proxy) (c : Chronicle) : Prop where
  run : Proxy.Run proxy.name c.turns proxy.state
  idle : proxy.busy = false → c.exchanges = [] ∧ c.pending = none
  underway : proxy.busy = true → ∃ rest,
    Reaches (c.operation.talk proxy.name proxy.state) c.exchanges rest ∧
      ∀ q, c.pending = some q → ∃ next, rest = .ask q next

namespace World

variable {p : ProxyId} {w w' : World σ} {proxy : Proxy} {operation : Proxy.Operation}

/-- Every proxy of the world fits its chronicle, and nothing is recorded of proxies that the world
does not have. -/
structure Coherent (w : World σ) : Prop where
  agrees : ∀ p proxy, w.proxy? p = some proxy → proxy.Agrees (w.chronicle p)
  unknown : ∀ p, w.proxy? p = none → w.chronicle p = {}

/-- A world in which nothing happened is coherent. -/
private lemma coherent_opening (host : σ) (context : Context) : Coherent { host, context } where
  agrees p proxy h := by simp [proxy?] at h
  unknown _ _ := rfl

/-- What changes neither proxies nor chronicles keeps a world coherent. -/
private lemma Coherent.of_eq (coherent : w.Coherent) (hproxy : ∀ q, w'.proxy? q = w.proxy? q)
    (hchronicle : ∀ q, w'.chronicle q = w.chronicle q) : w'.Coherent where
  agrees q proxy h := hchronicle q ▸ coherent.agrees q proxy (hproxy q ▸ h)
  unknown q h := (hchronicle q).trans (coherent.unknown q (hproxy q ▸ h))

/-- A step that is about the proxy `p` alone keeps a world coherent if this proxy fits its chronicle
after it.

**Proof sketch.** By cases on whether the proxy is this one. All the others and their chronicles are
as they were. -/
private lemma Coherent.update (coherent : w.Coherent) {proxy : Proxy}
    (hp : w'.proxy? p = some proxy) (agrees : proxy.Agrees (w'.chronicle p))
    (hproxy : ∀ q, p ≠ q → w'.proxy? q = w.proxy? q)
    (hchronicle : ∀ q, p ≠ q → w'.chronicle q = w.chronicle q) : w'.Coherent where
  agrees q proxy' h := by
    by_cases hq : p = q
    · subst hq
      obtain rfl : proxy = proxy' := Option.some.inj (hp.symm.trans h)
      exact agrees
    · rw [hchronicle q hq]
      exact coherent.agrees q proxy' ((hproxy q hq).symm.trans h)
  unknown q h := by
    by_cases hq : p = q
    · subst hq
      exact absurd (hp.symm.trans h) (by simp)
    · rw [hchronicle q hq]
      exact coherent.unknown q ((hproxy q hq).symm.trans h)

/-- A proxy that is registered anew has no history.

**Proof sketch.** No chronicle changes. A proxy that is new has an empty one, since the world did
not know it, and it is in its first state. -/
private lemma Coherent.obtain (coherent : w.Coherent) {r : RegistryId} {name : String}
    (h : w.obtain r name = .ok (p, w')) : w'.Coherent where
  agrees q proxy hq := by
    rw [chronicle_obtain h]
    rcases proxy?_of_obtain h hq with hold | ⟨hnew, resolver, factory, rfl⟩
    · exact coherent.agrees q proxy hold
    · rw [coherent.unknown q hnew]
      exact ⟨.new, fun _ => ⟨rfl, rfl⟩, by simp⟩
  unknown q hq := by
    rw [chronicle_obtain h]
    cases hw : w.proxy? q with
    | none => exact coherent.unknown q hw
    | some proxy => exact absurd ((proxy?_obtain h hw).symm.trans hq) (by simp)

/-- A proxy on which an operation ended is one that the world has. -/
lemma Coherent.known_of_ended (coherent : w.Coherent) {result : Except ProxyError Unit}
    (h : .ended p operation result ∈ w.journal) : ∃ proxy, w.proxy? p = some proxy := by
  cases hp : w.proxy? p with
  | some proxy => exact ⟨proxy, rfl⟩
  | none =>
    obtain ⟨later, earlier, hjournal⟩ := List.append_of_mem h
    have hempty : (w.chronicle p).turns = [] := by rw [coherent.unknown p hp]
    rw [chronicle, hjournal] at hempty
    have hprefix : (Chronicle.ofJournal p (.ended p operation result :: earlier)).turns <+: [] :=
      hempty ▸ Chronicle.turns_append later
    simp [Chronicle.ofJournal_cons] at hprefix

/-- An event about the proxy `p` is not about others. -/
private lemma chronicle_record_of_ne {q : ProxyId} {e : Event} (he : e.IsOf p) (h : p ≠ q) :
    (w.record e).chronicle q = w.chronicle q :=
  Chronicle.note_of_not_isOf fun he' => h (he.unique he')

/-! ## An operation under way -/

/-- In a coherent world, an operation is under way on a busy proxy, no call waits for its answer,
and the dialogue `t` is what is left of the operation. -/
structure Midway (w : World σ) (p : ProxyId) (proxy : Proxy) (operation : Proxy.Operation)
    (t : Talk Proxy.Outcome) : Prop where
  coherent : w.Coherent
  known : w.proxy? p = some proxy
  busy : proxy.busy = true
  called : (w.chronicle p).operation = operation
  nothingPending : (w.chronicle p).pending = none
  reaches : Reaches (operation.talk proxy.name proxy.state) (w.chronicle p).exchanges t

/-- An operation begins with the whole of its dialogue left.

**Proof sketch.** The proxy is idle, so no call of it is under way, and the chronicle of the new
operation begins empty. Nothing else concerns this proxy. -/
private lemma Coherent.begin (coherent : w.Coherent) (hp : w.proxy? p = some proxy)
    (idle : proxy.busy = false) :
    ((w.setProxy p { proxy with busy := true }).record (.began p operation)).Midway p
      { proxy with busy := true } operation (operation.talk proxy.name proxy.state) := by
  have agrees := coherent.agrees p proxy hp
  obtain ⟨hexchanges, hpending⟩ := agrees.idle idle
  have hnew : (w.setProxy p { proxy with busy := true }).proxy? p =
      some { proxy with busy := true } := proxy?_setProxy_self hp
  have hreaches : Reaches (operation.talk proxy.name proxy.state) (w.chronicle p).exchanges
      (operation.talk proxy.name proxy.state) := by
    rw [hexchanges]
    exact .refl _
  refine {
    coherent := coherent.update hnew {
        run := by simpa [chronicle_record, chronicle_setProxy] using agrees.run
        idle := by simp
        underway := fun _ => ⟨_, by simpa [chronicle_record, chronicle_setProxy] using hreaches,
          by simp [chronicle_record, chronicle_setProxy, hpending]⟩ }
      (fun q hq => proxy?_setProxy_of_ne hq) (fun q hq => chronicle_record_of_ne rfl hq)
    known := hnew
    busy := rfl
    called := by simp [chronicle_record]
    nothingPending := by simpa [chronicle_record, chronicle_setProxy] using hpending
    reaches := by simpa [chronicle_record, chronicle_setProxy] using hreaches }

namespace Midway

/-- While a call waits for its answer the world is coherent.

**Proof sketch.** The chronicle has one more call that is pending, and this is the one that the
dialogue makes next. -/
private lemma asked {q : Request} {next : q.Answer → Talk Proxy.Outcome}
    (h : w.Midway p proxy operation (.ask q next)) : (w.record (.asked p q)).Coherent := by
  have agrees := h.coherent.agrees p proxy h.known
  refine h.coherent.update h.known {
      run := by simpa [chronicle_record] using agrees.run
      idle := by simp [h.busy]
      underway := fun _ =>
        ⟨.ask q next, by simpa [chronicle_record, h.called] using h.reaches, ?_⟩ }
    (fun _ _ => rfl) (fun _ hq => chronicle_record_of_ne rfl hq)
  intro q' hq'
  obtain rfl : q = q' := by simpa [chronicle_record] using hq'
  exact ⟨next, rfl⟩

/-- Once a call has its answer, the operation goes on from there.

**Proof sketch.** While the call was served the busy proxy and its chronicle stayed as they were.
The answer makes an exchange of the call, and the dialogue goes on behind it. -/
private lemma answered {q : Request} {next : q.Answer → Talk Proxy.Outcome}
    (h : w.Midway p proxy operation (.ask q next)) (coherent : w'.Coherent)
    (keeps : Keeps p (w.record (.asked p q)) w') (answer : q.Answer) :
    (w'.record (.answered p ⟨q, answer⟩)).Midway p proxy operation (next answer) := by
  obtain ⟨known, hchronicle⟩ := keeps proxy h.known h.busy
  have agrees := coherent.agrees p proxy known
  have hreaches : Reaches (operation.talk proxy.name proxy.state)
      ((w'.record (.answered p ⟨q, answer⟩)).chronicle p).exchanges (next answer) := by
    simpa [chronicle_record, hchronicle] using h.reaches.snoc answer
  have hoperation : (w'.chronicle p).operation = operation := by
    simpa [chronicle_record, hchronicle] using h.called
  refine {
    coherent := coherent.update known {
        run := by simpa [chronicle_record] using agrees.run
        idle := by simp [h.busy]
        underway := fun _ => ⟨next answer, by simpa [chronicle_record, hoperation] using hreaches,
          by simp [chronicle_record]⟩ }
      (fun _ _ => rfl) (fun _ hq => chronicle_record_of_ne rfl hq)
    known := known
    busy := h.busy
    called := by simpa [chronicle_record] using hoperation
    nothingPending := by simp [chronicle_record]
    reaches := hreaches }

/-- When nothing is left of an operation it ends, and its turn leads to the state that it leaves.

**Proof sketch.** What was asked in the operation is a path of its whole dialogue. So the turn leads
from the state before to the state that is written back. -/
private lemma ended {result : Except ProxyError Unit} {state : Proxy.State}
    (h : w.Midway p { proxy with busy := true } operation (.done (result, state)))
    (idle : proxy.busy = false) :
    ((w.setProxy p { proxy with state }).record (.ended p operation result)).Coherent := by
  have agrees := h.coherent.agrees p _ h.known
  have path := path_iff_reaches.2 h.reaches
  refine h.coherent.update (proxy?_setProxy_self h.known) {
      run := by
        simpa [chronicle_record, chronicle_setProxy] using
          Proxy.Run.turn (t := ⟨operation, (w.chronicle p).exchanges, result⟩) agrees.run path
      idle := fun _ => by simpa [chronicle_record, chronicle_setProxy] using h.nothingPending
      underway := by simp [idle] }
    (fun q hq => proxy?_setProxy_of_ne hq) (fun q hq => chronicle_record_of_ne rfl hq)

end Midway

/-! ## Every run goes through coherent worlds -/

/-- Between two worlds no busy proxy is touched, and coherence is not lost. -/
structure Respects (w w' : World σ) : Prop where
  keeps : ∀ q, Keeps q w w'
  coherent : w.Coherent → w'.Coherent

/-- What leaves all proxies and all chronicles as they are respects both. -/
private lemma respects_of_eq (hproxy : ∀ q, w'.proxy? q = w.proxy? q)
    (hchronicle : ∀ q, w'.chronicle q = w.chronicle q) : w.Respects w' where
  keeps q := keeps_of_eq (hproxy q) (hchronicle q)
  coherent h := h.of_eq hproxy hchronicle

/-- Respect composes, and neither the collaborators' state nor what is current matters to it. -/
lemma respects_silent : Silent (Respects (σ := σ)) where
  refl _ := respects_of_eq (fun _ => rfl) fun _ => rfl
  trans huv hvw :=
    ⟨fun q => (keeps_silent q).trans (huv.keeps q) (hvw.keeps q),
      fun h => hvw.coherent (huv.coherent h)⟩
  host _ _ := respects_of_eq (fun _ => rfl) fun _ => rfl
  context _ _ := respects_of_eq (fun _ => rfl) fun _ => rfl

section Calls

variable {perform : Activity.Performance σ}
  (calls : ∀ {c u answer v}, perform c u = .ok (answer, v) → Respects u v)
include calls

/-- A dialogue that is over leaves nothing of the operation.

**Proof sketch.** Induction on the dialogue, with `asked` before and `answered` after each call. -/
private lemma Midway.converse {resolver : Resolver} {factory : Factory} {t : Talk Proxy.Outcome}
    {o : Proxy.Outcome} (midway : w.Midway p proxy operation t)
    (h : converse perform H p resolver factory t w = .ok (o, w')) :
    w'.Midway p proxy operation (.done o) := by
  induction t generalizing w with
  | done o' =>
    obtain ⟨rfl, rfl⟩ : o' = o ∧ w = w' := by simpa [World.converse] using h
    exact midway
  | ask q next ih =>
    obtain ⟨answer, v, hserve, h⟩ := converse_ask_ok h
    have served := respects_silent.run calls hserve
    exact ih answer (midway.answered (served.coherent midway.asked) (served.keeps p) answer) h

/-- An operation leaves a coherent world. -/
lemma respects_operate {result : Except ProxyError Unit}
    (h : operate perform H p operation w = .ok (result, w')) : w.Respects w' := by
  refine ⟨fun q => keeps_operate (fun hc => (calls hc).keeps q) h, fun coherent => ?_⟩
  obtain ⟨proxy, state, v, known, idle, hconverse, rfl⟩ := operate_ok h
  exact ((coherent.begin known idle).converse calls hconverse).ended idle

end Calls

/-- Every run leaves a coherent world, and does not touch a busy proxy. -/
theorem respects_closed (H : Host σ) : Closed H Respects where
  toSilent := respects_silent
  establish _ _ _ := respects_of_eq (fun _ => rfl) fun _ => rfl
  obtain h := ⟨fun _ _ hq _ => ⟨proxy?_obtain h hq, chronicle_obtain h⟩, fun hw => hw.obtain h⟩
  install _ r := respects_of_eq (fun _ => proxy?_install r) fun _ => chronicle_install r
  operate calls h := respects_operate calls h
  pass {perform r registry w w'} calls _ h := by
    have hsweep := respects_silent.sweep (fun _ _ => respects_of_eq (fun _ => rfl) fun _ => rfl)
      (fun h => respects_operate calls h) h
    exact respects_silent.trans hsweep
      (respects_of_eq (fun _ => proxy?_remove r _) fun _ => chronicle_remove r _)

/-- A call leaves a coherent world. -/
theorem Coherent.perform (coherent : w.Coherent) {bound : Nat} {c : Call} {answer : c.Answer}
    (h : perform H bound c w = .ok (answer, w')) : w'.Coherent :=
  ((respects_closed H).perform h).coherent coherent

section Passes

variable {perform : Activity.Performance σ} {inside : Call → World σ → World σ → Prop}
  (calls : ∀ {c u answer v}, perform c u = .ok (answer, v) → Respects u v)
  (within : ∀ {c u v}, inside c u v → u.Coherent → v.Coherent)
include calls within

/-- An activity goes through coherent worlds, if the calls that it makes do.

**Proof sketch.** Induction on the way through the activity. Neither the collaborators' state nor
what is current matters to coherence. -/
private lemma Coherent.passes {α : Type} {a : Activity σ α} {v : World σ} (coherent : w.Coherent)
    (h : a.Passes perform inside w v) : v.Coherent := by
  induction h with
  | here => exact coherent
  | get _ ih => exact ih coherent
  | put _ ih => exact ih ((respects_silent.host _ _).coherent coherent)
  | within during => exact within during coherent
  | after ended _ ih => exact ih ((calls ended).coherent coherent)
  | body _ ih => exact ih ((respects_silent.context _ _).coherent coherent)
  | joined ended _ ih =>
    have started := (respects_silent.context _ none).coherent coherent
    have finished := (respects_silent.run calls ended).coherent started
    exact ih ((respects_silent.context _ _).coherent finished)

/-- A dialogue that is under way goes through coherent worlds. -/
private lemma Midway.passes {resolver : Resolver} {factory : Factory} {t : Talk Proxy.Outcome}
    {v : World σ} (midway : w.Midway p proxy operation t)
    (h : TalkPasses perform inside H p resolver factory t w v) : v.Coherent := by
  induction h with
  | here => exact midway.coherent
  | within during => exact midway.asked.passes calls within during
  | after ended _ ih =>
    have served := respects_silent.run calls ended
    exact ih (midway.answered (served.coherent midway.asked) (served.keeps p) _)

/-- An operation goes through coherent worlds, from its beginning on. -/
private lemma Coherent.operatePasses {v : World σ} (coherent : w.Coherent)
    (h : OperatePasses perform inside H p operation w v) : v.Coherent := by
  obtain ⟨proxy, hp, idle, h⟩ := h
  exact (coherent.begin hp idle).passes calls within h

/-- A sweep goes through coherent worlds. -/
private lemma Coherent.sweepPasses {r : RegistryId} {ps : List ProxyId} {v : World σ}
    (coherent : w.Coherent) (h : SweepPasses perform inside H r ps w v) : v.Coherent := by
  have swept (u : World σ) (p : ProxyId) : u.Respects (u.record (.swept r p)) :=
    respects_of_eq (fun _ => rfl) fun _ => rfl
  induction h with
  | here => exact coherent
  | within during => exact ((swept _ _).coherent coherent).operatePasses calls within during
  | after ended _ ih =>
    exact ih ((respects_operate calls ended).coherent ((swept _ _).coherent coherent))

end Passes

/-- A call goes through coherent worlds.

**Proof sketch.** Induction on the bound. An operation and a construction go through worlds of calls
with a smaller bound, and a reset goes through those of a sweep and then through those of the rest
of it. -/
private lemma Coherent.inside {bound : Nat} {c : Call} {v : World σ} (coherent : w.Coherent)
    (h : Inside H bound c w v) : v.Coherent := by
  induction bound generalizing c w v with
  | zero => cases c <;> exact h.elim
  | succ bound ih =>
    have calls {c u answer v} (hc : World.perform H bound c u = .ok (answer, v)) : Respects u v :=
      (respects_closed H).perform hc
    cases c with
    | operate p operation => exact coherent.operatePasses calls (fun h hu => ih hu h) h
    | construct type => exact coherent.passes calls (fun h hu => ih hu h) h
    | reset r =>
      obtain ⟨registry, hr, -, h | ⟨w', hsweep, h⟩⟩ := h
      · exact coherent.sweepPasses calls (fun h hu => ih hu h) h
      · have removed := ((respects_closed H).pass calls hr hsweep).coherent coherent
        rcases h with rfl | h
        · exact removed
        · exact ih removed h
    | establish _ _ | obtain _ _ | entries _ | nameOf _ | observe _ | install _ | installed
    | enter _ | leave _ | current => exact h.elim

/-- Every world that a run goes through is coherent. -/
theorem Reachable.coherent (reachable : Reachable H w) : w.Coherent := by
  obtain ⟨α, client, bound, host, context, h⟩ := reachable
  exact (coherent_opening host context).passes (fun hc => (respects_closed H).perform hc)
    (fun h hu => hu.inside h) h

/-- The state of a proxy is the one to which the turns of its chronicle lead. -/
theorem Reachable.run (reachable : Reachable H w) (known : w.proxy? p = some proxy) :
    Proxy.Run proxy.name (w.chronicle p).turns proxy.state :=
  (reachable.coherent.agrees p proxy known).run

end World

end Standby
