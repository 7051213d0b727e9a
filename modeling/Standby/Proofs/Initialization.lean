import Standby.Proofs.Proxy.Phase
import Standby.Proofs.World.Frame
import Standby.Registry.Bulk
set_option autoImplicit false

/-!
# Initialization gets as far as the first failure

The resolution of a whole registry goes through its entries in order and ends with the first that
fails. What it did is a prefix: the proxies before the failure are resolved, the one that failed
keeps its failure, and to those after it nothing happened. This is true of every run in which the
code that the proxies call keeps away from the registry and its proxies.

## Main definitions

* `Standby.Aloof` — what a journal tells of collaborators that keep away from a registry.
* `Standby.lookups`, `Standby.resolutions` — the calls of the resolver, and the resolutions that
  ended.
* `Standby.Proxy.State.Filled`, `Standby.Proxy.State.Stuck` — what a resolution leaves.
* `Standby.World.Resolves`, `Standby.World.Initializes` — what one resolution does, and what several
  do.
* `Standby.World.Hindered` — why an operation does not return.
* `Standby.World.Initialized` — all that is to be said of an initialization that returned.

## Main results

* `Standby.World.resolves_of_aloof` — one resolution leaves all other proxies alone.
* `Standby.World.resolving_halts` — what keeps an initialization from returning.
* `Standby.World.initialization_is_prefix` — an initialization resolves a prefix of the entries.

## Design

Whether collaborators keep away is read off the journal: as long as a proxy of the registry waits
for the answer to a call, no operation on any of these proxies begins. That says nothing about how
the code of the collaborators looks, and they may do with all other proxies what they like.
-/

namespace Standby

open Dialogue

variable {σ : Type} {H : Host σ}

/-! ## What a journal tells of an initialization -/

/-- The proxy `p` makes a call with this event. -/
def Event.Asks (p : ProxyId) : Event → Prop
  | .asked q _ => q = p
  | _ => False

/-- The proxy `p` gets the answer to a call with this event. -/
def Event.Answers (p : ProxyId) : Event → Prop
  | .answered q _ => q = p
  | _ => False

/-- An operation on one of the proxies `ps` begins with this event. -/
def Event.Begins (ps : List ProxyId) : Event → Prop
  | .began q _ => q ∈ ps
  | _ => False

/-- The proxy `p` made a call of a collaborator's that is not over. -/
def Waiting (p : ProxyId) (news : List Event) : Prop :=
  Since (Event.Asks p) (Event.Answers p) news.reverse

/-- The code that the proxies `ps` called in the course of what `news` tells of altered no entry of
the registry `r`, and it operated on none of the proxies `ps`: as long as one of them waits for the
answer to a call, no operation on any of them begins. -/
def Aloof (r : RegistryId) (ps : List ProxyId) : List Event → Prop
  | [] => True
  | e :: before =>
    Aloof r ps before ∧ ¬ e.Alters r ∧ (e.Begins ps → ∀ p ∈ ps, ¬ Waiting p before)

section Computed

variable {r : RegistryId} {p : ProxyId} {ps : List ProxyId}

/-- Whether an event is a question of the proxy `p` can be read off it. -/
instance : DecidablePred (Event.Asks p)
  | .asked q _ => inferInstanceAs (Decidable (q = p))
  | .registered _ _ _ | .swept _ _ | .removed _ _ | .began _ _ | .answered _ _ | .ended _ _ _ =>
    .isFalse id

/-- Whether an event is an answer to the proxy `p` can be read off it. -/
instance : DecidablePred (Event.Answers p)
  | .answered q _ => inferInstanceAs (Decidable (q = p))
  | .registered _ _ _ | .swept _ _ | .removed _ _ | .began _ _ | .asked _ _ | .ended _ _ _ =>
    .isFalse id

/-- Whether an operation on one of the proxies `ps` begins with an event can be read off it. -/
instance : DecidablePred (Event.Begins ps)
  | .began q _ => inferInstanceAs (Decidable (q ∈ ps))
  | .registered _ _ _ | .swept _ _ | .removed _ _ | .asked _ _ | .answered _ _ | .ended _ _ _ =>
    .isFalse id

/-- Whether an event alters the registry `r` can be read off it. -/
instance : DecidablePred (Event.Alters r)
  | .registered r' _ _ | .removed r' _ => inferInstanceAs (Decidable (r' = r))
  | .swept _ _ | .began _ _ | .asked _ _ | .answered _ _ | .ended _ _ _ => .isFalse id

/-- Whether the proxy `p` waits for an answer can be found out from the journal. -/
instance : DecidablePred (Waiting p) := fun news =>
  inferInstanceAs (Decidable (Since (Event.Asks p) (Event.Answers p) news.reverse))

/-- Whether everybody kept aloof can be found out from the journal, event by event. -/
instance decidableAloof : DecidablePred (Aloof r ps)
  | [] => .isTrue trivial
  | e :: before =>
    have := decidableAloof before
    inferInstanceAs (Decidable
      (Aloof r ps before ∧ ¬ e.Alters r ∧ (e.Begins ps → ∀ p ∈ ps, ¬ Waiting p before)))

end Computed

/-- The name that a call asks the resolver for. -/
def Request.lookup? : Request → Option String
  | .resolve name => some name
  | .create _ | .capability _ | .start _ | .stop _ => none

/-- The names that the proxies `ps` asked the resolver for, in order, and who asked. -/
def lookups (ps : List ProxyId) (news : List Event) : List (ProxyId × String) :=
  news.reverse.filterMap fun
    | .asked p q => if p ∈ ps then q.lookup?.map (p, ·) else none
    | _ => none

/-- The resolutions of the proxies `ps` that came to an end, in order, with their results. -/
def resolutions (ps : List ProxyId) (news : List Event) :
    List (ProxyId × Except ProxyError Unit) :=
  news.reverse.filterMap fun
    | .ended p .resolve result => if p ∈ ps then some (p, result) else none
    | _ => none

/-- A resolution left the state `s` at `s'` and gave no failure. -/
structure Proxy.State.Filled (s s' : Proxy.State) : Prop where
  resolved : s'.type.isSome
  kept : s.type.isSome → s' = s
  started : s.type = none → s.startRequested = true → s'.running = true ∧ s'.lastError = none

/-- A resolution left the state `s` at `s'` and gave a failure: the name was not found, or the start
that was requested failed. -/
structure Proxy.State.Stuck (s : Proxy.State) (e : ProxyError) (s' : Proxy.State) : Prop where
  unresolved : s.type = none
  cause : s' = s ∧ (∃ missing, e = .notFound missing) ∨
    s.startRequested = true ∧ s'.type.isSome ∧ s'.running = false ∧ s'.lastError = some e

namespace Proxy.OperationPath

variable {name : String} {s s' : State} {es : List Exchange}

/-- A resolution that returns without a failure leaves a filled state: the name is resolved, and a
start that was requested was tried.

**Proof sketch.** By cases on the way in which the resolution went. Where the type was known or no
start was requested nothing had to be tried. A start that was tried settles the state. -/
private lemma filled (h : OperationPath name .resolve s es (.ok (), s')) : s.Filled s' := by
  generalize ho : ((.ok (), s') : Outcome) = o at h
  cases h with
  | known hs =>
    obtain ⟨-, rfl⟩ := Prod.mk.inj ho
    exact ⟨by simp [hs], fun _ => rfl, by simp [hs]⟩
  | missing => simp at ho
  | found type hs idle =>
    obtain ⟨-, rfl⟩ := Prod.mk.inj ho
    exact ⟨by simp, by simp [hs], by simp [idle]⟩
  | foundPending hs _ tried =>
    obtain ⟨product, hsettled⟩ := tried.settled
    obtain rfl : s' = _ := (congrArg Prod.snd ho).trans hsettled
    rw [← ho]
    exact ⟨by simp [State.settled], by simp [hs], by simp [State.settled]⟩

/-- A resolution that fails leaves the state that its failure says: a name that was not found leaves
all as it was, and a start that failed leaves its failure.

**Proof sketch.** By cases on the way in which the resolution went. It can fail in two ways. The
name is not found, and then nothing changes. Or the start fails, and this settles the state. -/
private lemma stuck {e : ProxyError} (h : OperationPath name .resolve s es (.error e, s')) :
    s.Stuck e s' := by
  generalize ho : ((.error e, s') : Outcome) = o at h
  cases h with
  | known | found => simp at ho
  | missing missing hs =>
    obtain ⟨he, rfl⟩ := Prod.mk.inj ho
    exact ⟨hs, .inl ⟨rfl, missing, Except.error.inj he⟩⟩
  | foundPending hs requested tried =>
    obtain ⟨product, hsettled⟩ := tried.settled
    obtain rfl : s' = _ := (congrArg Prod.snd ho).trans hsettled
    rw [← ho]
    exact ⟨hs, .inr ⟨requested, by simp [State.settled], by simp [State.settled],
      by simp [State.settled]⟩⟩

/-- A resolution asks the resolver once, for the name of the proxy, unless the type is known.

**Proof sketch.** By cases on the way in which the resolution went. An attempt never asks the
resolver, so only the first question can be a look-up. -/
private lemma lookups {o : Outcome} (p : ProxyId) (h : OperationPath name .resolve s es o) :
    es.filterMap (fun e => e.1.lookup?.map (p, ·)) = if s.type.isNone then [(p, name)] else [] := by
  cases h with
  | known hs => simp [hs]
  | missing _ hs | found _ hs _ => simp [hs, Request.lookup?]
  | @foundPending _ _ es _ hs _ tried =>
    have none : es.filterMap (fun e => e.1.lookup?.map (p, ·)) = [] := by
      rw [List.filterMap_eq_nil_iff]
      rintro ⟨q, answer⟩ he
      cases q with
      | resolve name => exact absurd rfl (tried.calls.2 _ he name)
      | create _ | capability _ | start _ | stop _ => rfl
    rw [List.filterMap_cons, none]
    simp [hs, Request.lookup?]

end Proxy.OperationPath

section Journal

variable {r : RegistryId} {p : ProxyId} {ps : List ProxyId} {news later earlier : List Event}
  {e : Event}

/-- Who waits for an answer waits for it whatever happened earlier. -/
lemma Waiting.append (h : Waiting p news) (earlier : List Event) : Waiting p (news ++ earlier) := by
  rw [Waiting, List.reverse_append, since_append]
  exact .inl h

/-- A call that was made is not over as long as nothing happens to the proxy. -/
private lemma waiting_of_quiet {q : Request} (h : ∀ e ∈ news, ¬ e.IsOf p) :
    Waiting p (news ++ [.asked p q]) := by
  rw [Waiting, List.reverse_append, since_append]
  refine .inr ⟨⟨[], _, [], rfl, rfl, by simp⟩, fun e he answers => ?_⟩
  cases e with
  | answered _ _ => exact h _ (List.mem_reverse.1 he) answers
  | registered _ _ _ | swept _ _ | removed _ _ | began _ _ | asked _ _ | ended _ _ _ =>
    exact answers

/-- Who keeps aloof keeps aloof on each part of the way. -/
lemma Aloof.parts (h : Aloof r ps (later ++ news)) : Aloof r ps later ∧ Aloof r ps news := by
  induction later with
  | nil => exact ⟨trivial, h⟩
  | cons e later ih =>
    obtain ⟨h, unaltered, none⟩ := h
    obtain ⟨hlater, hnews⟩ := ih h
    exact ⟨⟨hlater, unaltered, fun begins p hp waiting => none begins p hp (waiting.append news)⟩,
      hnews⟩

/-- Where everybody keeps aloof from a registry, it is not altered. -/
lemma Aloof.not_alters (h : Aloof r ps news) : ∀ e ∈ news, ¬ e.Alters r := by
  induction news with
  | nil => simp
  | cons e before ih => exact List.forall_mem_cons.2 ⟨h.2.1, ih h.1⟩

/-- The look-ups of two stretches of a journal, earlier stretch first. -/
@[simp] lemma lookups_append :
    lookups ps (later ++ news) = lookups ps news ++ lookups ps later := by
  simp [lookups]

/-- The resolutions of two stretches of a journal, earlier stretch first. -/
@[simp] lemma resolutions_append :
    resolutions ps (later ++ news) = resolutions ps news ++ resolutions ps later := by
  simp [resolutions]

/-- Where nothing happened to any of the proxies but `p`, only `p` asked. -/
private lemma lookups_eq_of_quiet (hp : p ∈ ps) (h : ∀ e ∈ news, ∀ q ∈ ps, q ≠ p → ¬ e.IsOf q) :
    lookups ps news = lookups [p] news := by
  refine List.filterMap_congr fun e he => ?_
  cases e with
  | asked q request =>
    by_cases hq : q = p
    · simp [hq, hp]
    · have out : q ∉ ps := fun hq' => h _ (List.mem_reverse.1 he) q hq' hq rfl
      simp [hq, out]
  | registered _ _ _ | swept _ _ | removed _ _ | began _ _ | answered _ _ | ended _ _ _ => rfl

/-- A proxy to which nothing happened did not ask. -/
private lemma lookups_eq_nil (h : ∀ e ∈ news, ¬ e.IsOf p) : lookups [p] news = [] := by
  rw [lookups, List.filterMap_eq_nil_iff]
  intro e he
  cases e with
  | asked q request => exact if_neg fun hq => h _ (List.mem_reverse.1 he) (List.mem_singleton.1 hq)
  | registered _ _ _ | swept _ _ | removed _ _ | began _ _ | answered _ _ | ended _ _ _ => rfl

/-- Where no resolution ended there are none to be told of. -/
private lemma resolutions_eq_nil (h : ∀ q ∈ ps, ∀ result, .ended q .resolve result ∉ news) :
    resolutions ps news = [] := by
  rw [resolutions, List.filterMap_eq_nil_iff]
  intro e he
  cases e with
  | ended q operation result =>
    cases operation with
    | resolve => exact if_neg fun hq => h q hq result (List.mem_reverse.1 he)
    | start | stop => rfl
  | registered _ _ _ | swept _ _ | removed _ _ | began _ _ | asked _ _ | answered _ _ => rfl

end Journal

namespace World

variable {w w' : World σ} {p q : ProxyId} {r : RegistryId} {proxy : Proxy}

/-! ## One resolution -/

/-- Each event is a call of the proxy `p`, or the answer to one, or it happens to others while `p`
waits. -/
def Attended (p : ProxyId) : List Event → Prop
  | [] => True
  | e :: before => Attended p before ∧ (e.Asks p ∨ e.Answers p ∨ ¬ e.IsOf p ∧ Waiting p before)

section Attended

variable {news later : List Event}

/-- What is attended by `p` before and after is attended by `p`. -/
private lemma Attended.append (hlater : Attended p later) (hnews : Attended p news) :
    Attended p (later ++ news) := by
  induction later with
  | nil => exact hnews
  | cons e later ih =>
    exact ⟨ih hlater.1, hlater.2.imp_right (.imp_right (.imp_right (.append · news)))⟩

/-- While the call of a proxy is served, and nothing happens to the proxy, it waits. -/
private lemma attended_served (request : Request) (quiet : ∀ e ∈ news, ¬ e.IsOf p) :
    Attended p (news ++ [.asked p request]) := by
  induction news with
  | nil => exact ⟨trivial, .inl rfl⟩
  | cons e before ih =>
    obtain ⟨others, quiet⟩ := List.forall_mem_cons.1 quiet
    exact ⟨ih quiet, .inr (.inr ⟨others, waiting_of_quiet quiet⟩)⟩

/-- No operation on the proxy that attends ends.

**Proof sketch.** Induction on the events. Each of them is a question, an answer, or the matter of
another proxy, and the end of an operation on the own proxy is none of these. -/
lemma Attended.not_ended {operation : Proxy.Operation} {result : Except ProxyError Unit}
    (h : Attended p news) : .ended p operation result ∉ news := by
  induction news with
  | nil => simp
  | cons e before ih =>
    obtain ⟨h, cause⟩ := h
    rw [List.mem_cons, not_or]
    refine ⟨?_, ih h⟩
    rintro rfl
    rcases cause with asks | answers | ⟨others, -⟩
    · exact asks
    · exact answers
    · exact others rfl

/-- Where everything else keeps aloof, no operation begins on any of the proxies.

**Proof sketch.** Induction on the events. An operation that begins on one of the proxies is not one
of the proxy that attends, for this one is in its dialogue. Another one would begin while it waits,
and aloof collaborators begin none. -/
lemma Attended.not_begins {ps : List ProxyId} (h : Attended p news) (hp : p ∈ ps)
    (aloof : Aloof r ps news) : ∀ e ∈ news, ¬ e.Begins ps := by
  induction news with
  | nil => simp
  | cons e before ih =>
    obtain ⟨h, cause⟩ := h
    obtain ⟨aloof, -, none⟩ := aloof
    refine List.forall_mem_cons.2 ⟨fun begins => ?_, ih h aloof⟩
    cases e with
    | began _ _ =>
      rcases cause with asks | answers | ⟨-, waiting⟩
      · exact asks
      · exact answers
      · exact none begins p hp waiting
    | registered _ _ _ | swept _ _ | removed _ _ | asked _ _ | answered _ _ | ended _ _ _ =>
      exact begins

end Attended

/-- What happens in the course of a dialogue: the calls are those of a path, and everything else
happens while one of them is not over.

**Proof sketch.** Induction on the dialogue. While a call is served nothing happens to the proxy,
since it is busy, so it waits for the answer all the time. -/
lemma converse_attended {bound : Nat} {α : Type} {t : Talk α} {x : α} {resolver : Resolver}
    {factory : Factory} (known : w.proxy? p = some proxy) (busy : proxy.busy = true)
    (h : converse (perform H bound) H p resolver factory t w = .ok (x, w')) :
    ∃ during es, w'.journal = during ++ w.journal ∧ Path t es x ∧ Attended p during ∧
      w'.proxy? p = some proxy ∧
      lookups [p] during = es.filterMap fun e => e.1.lookup?.map (p, ·) := by
  induction t generalizing w with
  | done a =>
    obtain ⟨rfl, rfl⟩ : a = x ∧ w = w' := by simpa [converse] using h
    exact ⟨[], [], rfl, .done a, by simp [Attended], known, rfl⟩
  | ask q next ih =>
    obtain ⟨answer, v, hserve, h⟩ := converse_ask_ok h
    have frames := (frames_closed H p).toSilent.run (frames_closed H p).perform hserve
    obtain ⟨served, hv, framed⟩ := frames
    obtain ⟨known, quiet⟩ := framed proxy known (.inl busy)
    obtain ⟨during, es, hw', path, attended, known, hlookups⟩ :=
      ih answer (w := v.record (.answered p ⟨q, answer⟩)) known h
    refine ⟨during ++ ([.answered p ⟨q, answer⟩] ++ (served ++ [.asked p q])), ⟨q, answer⟩ :: es,
      by simp [hw', hv, record], .ask q next answer es x path, ?_, known, ?_⟩
    · exact attended.append (.append ⟨trivial, .inr (.inl rfl)⟩ (attended_served q quiet))
    · rw [lookups_append, lookups_append, lookups_append, hlookups, lookups_eq_nil quiet]
      cases q <;> simp [lookups, Request.lookup?]

/-- What a resolution of the proxy `p` did on the way from `w` to `w'` that `news` tells of. It left
all other proxies of `ps` alone, and the registry `r` too. -/
structure Resolves (r : RegistryId) (ps : List ProxyId) (p : ProxyId) (proxy : Proxy)
    (state : Proxy.State) (w w' : World σ) (news : List Event) (result : Except ProxyError Unit) :
    Prop where
  known : w.proxy? p = some proxy
  left : w'.proxy? p = some { proxy with state }
  path : ∃ es, Proxy.OperationPath proxy.name .resolve proxy.state es (result, state)
  others : ∀ q ∈ ps, q ≠ p → w'.proxy? q = w.proxy? q
  entries : w'.entriesOf r = w.entriesOf r
  resolutions : resolutions ps news = [(p, result)]
  lookups : lookups ps news = if proxy.state.type.isNone then [(p, proxy.name)] else []

/-- While an operation is carried out nothing happens to the other proxies, if those whom it calls
keep aloof.

**Proof sketch.** Everything that happens between its calls happens while one of them is served. So
no operation began on any of the proxies, and the frame of each of them says the rest. -/
lemma quiet_of_aloof {bound : Nat} {ps : List ProxyId} {news : List Event}
    {operation : Proxy.Operation} {result : Except ProxyError Unit} (hp : p ∈ ps)
    (h : operate (perform H bound) H p operation w = .ok (result, w'))
    (happened : w'.journal = news ++ w.journal) (aloof : Aloof r ps news) (hq : q ∈ ps)
    (hqp : q ≠ p) (known : w.proxy? q = some proxy) :
    w'.proxy? q = some proxy ∧ ∀ e ∈ news, ¬ e.IsOf q := by
  obtain ⟨news', hw', framed⟩ := (frames_closed H q).operate (frames_closed H q).perform h
  obtain rfl : news = news' := List.append_cancel_right (happened.symm.trans hw')
  refine framed proxy known (.inr fun operation' began => ?_)
  obtain ⟨proxy', state, v, knownSelf, idle, hconverse, rfl⟩ := operate_ok h
  let begun := (w.setProxy p { proxy' with busy := true }).record (.began p operation)
  have busy : begun.proxy? p = some { proxy' with busy := true } := proxy?_setProxy_self knownSelf
  obtain ⟨during, es, hv, -, attended, -, -⟩ := converse_attended busy rfl hconverse
  obtain rfl : news = [.ended p operation result] ++ during ++ [.began p operation] := by
    refine List.append_cancel_right (happened.symm.trans ?_)
    simp [begun, record, setProxy, hv]
  have others : .began q operation' ∈ during := by simpa [hqp] using began
  exact attended.not_begins hp aloof.parts.1.parts.2 _ others hq

/-- A resolution resolves its proxy, and leaves all others alone if those whom it calls do.

**Proof sketch.** The operation is unfolded to its beginning, its dialogue and its end. In the
dialogue nothing happens on the other proxies, and on its own one there are only the questions and
the answers. So the resolutions that end are this one, and the look-ups are those of its path. -/
lemma resolves_of_aloof {bound : Nat} {ps : List ProxyId} {news : List Event}
    {result : Except ProxyError Unit} (hp : p ∈ ps)
    (known : ∀ q ∈ ps, ∃ proxy, w.proxy? q = some proxy)
    (h : operate (perform H bound) H p .resolve w = .ok (result, w'))
    (happened : w'.journal = news ++ w.journal) (aloof : Aloof r ps news) :
    ∃ proxy state, Resolves r ps p proxy state w w' news result := by
  have others : ∀ q ∈ ps, q ≠ p → w'.proxy? q = w.proxy? q ∧ ∀ e ∈ news, ¬ e.IsOf q := by
    intro q hq hqp
    obtain ⟨proxy, known⟩ := known q hq
    obtain ⟨there, quiet⟩ := quiet_of_aloof hp h happened aloof hq hqp known
    exact ⟨there.trans known.symm, quiet⟩
  obtain ⟨news', hw', left⟩ := (leaves_closed H r).operate (leaves_closed H r).perform h
  obtain rfl : news = news' := List.append_cancel_right (happened.symm.trans hw')
  obtain ⟨proxy, state, v, knownSelf, idle, hconverse, rfl⟩ := operate_ok h
  let begun := (w.setProxy p { proxy with busy := true }).record (.began p .resolve)
  have busy : begun.proxy? p = some { proxy with busy := true } := proxy?_setProxy_self knownSelf
  obtain ⟨during, es, hv, path, attended, there, asked⟩ := converse_attended busy rfl hconverse
  obtain rfl : news = [.ended p .resolve result] ++ during ++ [.began p .resolve] := by
    refine List.append_cancel_right (happened.symm.trans ?_)
    simp [begun, record, setProxy, hv]
  have quiet : ∀ e ∈ during, ∀ q ∈ ps, q ≠ p → ¬ e.IsOf q :=
    fun e he q hq hqp => (others q hq hqp).2 e (by simp [he])
  refine ⟨proxy, state, {
    known := knownSelf
    left := proxy?_setProxy_self there
    path := ⟨es, Proxy.path_talk_iff.1 path⟩
    others := fun q hq hqp => (others q hq hqp).1
    entries := left aloof.not_alters
    resolutions := ?resolutions
    lookups := ?lookups }⟩
  case resolutions =>
    have noEnd : resolutions ps during = [] := by
      refine resolutions_eq_nil fun q hq result ended => ?_
      by_cases hqp : q = p
      · exact attended.not_ended (hqp ▸ ended)
      · exact quiet _ ended q hq hqp rfl
    rw [resolutions_append, resolutions_append, noEnd]
    simp [resolutions, hp]
  case lookups =>
    rw [lookups_append, lookups_append, lookups_eq_of_quiet hp quiet, asked,
      (Proxy.path_talk_iff.1 path).lookups p]
    simp [lookups]

/-! ## One resolution after the other -/

/-- The type of the proxy that the entry refers to is unknown. -/
def unresolved (w : World σ) (e : Entry) : Bool :=
  (w.proxy? e.proxy).any fun proxy => proxy.state.type.isNone

/-- A proxy was resolved on the way from `w` to `w'`. -/
def Fills (p : ProxyId) (w w' : World σ) : Prop :=
  ∃ proxy state, w.proxy? p = some proxy ∧ w'.proxy? p = some { proxy with state } ∧
    proxy.state.Filled state

/-- The resolution of a proxy failed on the way from `w` to `w'`. -/
def Sticks (p : ProxyId) (err : ProxyError) (w w' : World σ) : Prop :=
  ∃ proxy state, w.proxy? p = some proxy ∧ w'.proxy? p = some { proxy with state } ∧
    proxy.state.Stuck err state

/-- The entries `todo` were gone through on the way from `w` to `w'` that `news` tells of: those of
`done` were resolved, and `rest` begins with the first whose resolution failed. -/
structure Initializes (r : RegistryId) (ps : List ProxyId) (todo : List Entry) (w w' : World σ)
    (news : List Event) (result : Except ProxyError Unit) (done rest : List Entry) : Prop where
  split : todo = done ++ rest
  /-- Each proxy before the first failure was resolved. -/
  filled : ∀ e ∈ done, Fills e.proxy w w'
  /-- Without a failure none is returned. -/
  complete : rest = [] → result = .ok ()
  /-- The first failure is returned. -/
  failed : ∀ e after, rest = e :: after → ∃ err, result = .error err ∧ Sticks e.proxy err w w'
  /-- Nothing happened to the proxies that were not gone through. -/
  untouched : ∀ q ∈ ps, q ∉ (done ++ rest.take 1).map Entry.proxy → w'.proxy? q = w.proxy? q
  /-- The entries of the registry are the same afterwards. -/
  entries : w'.entriesOf r = w.entriesOf r
  /-- Proxies were resolved in order, each of them once, up to the first failure. -/
  resolutions : resolutions ps news =
    done.map (fun e => (e.proxy, .ok ())) ++ (rest.take 1).map fun e => (e.proxy, result)
  /-- Those that were unresolved asked the resolver, in order and each of them once, for their
  names. -/
  lookups : lookups ps news =
    ((done ++ rest.take 1).filter w.unresolved).map fun e => (e.proxy, e.name)

/-- The resolutions of the proxies that the entries refer to, up to the first failure. -/
def resolving (todo : List Entry) : Activity σ (Except ProxyError Unit) :=
  Activity.untilFailure (todo.map fun e => Activity.operate e.proxy .resolve)

/-- What comes after a resolution with this result. -/
def resolvingAfter (rest : List Entry) :
    Except ProxyError Unit → Activity σ (Except ProxyError Unit)
  | .ok () => resolving rest
  | .error err => .done (.error err)

/-- To resolve several entries is to resolve the first one and to go on with the others unless it
failed. -/
lemma resolving_cons (e : Entry) (rest : List Entry) : (resolving (e :: rest) : Activity σ _) =
    .call (.operate e.proxy .resolve) (resolvingAfter rest) := by
  rw [resolving, List.map_cons, Activity.untilFailure]
  refine congrArg (Activity.call _) (funext fun first => ?_)
  rcases first with err | _ <;> rfl

section Run

variable {bound : Nat} {ps : List ProxyId} {todo : List Entry} {news : List Event}
  {result : Except ProxyError Unit}

/-- The first of several resolutions was carried out, and if it gave no failure so were the others.

**Proof sketch.** The first call of the activity is the resolution. By cases on its result, what is
left is nothing, or the rest of the list. -/
lemma resolving_cons_ok {e : Entry}
    (h : (resolving (e :: todo)).run (perform H (bound + 1)) w = .ok (result, w')) :
    ∃ first v, operate (perform H bound) H e.proxy .resolve w = .ok (first, v) ∧
      ((∃ err, first = .error err ∧ result = .error err ∧ w' = v) ∨
        first = .ok () ∧ (resolving todo).run (perform H (bound + 1)) v = .ok (result, w')) := by
  rw [resolving_cons] at h
  obtain ⟨first, v, hfirst, h⟩ := Activity.run_call_ok h
  refine ⟨first, v, hfirst, ?_⟩
  rcases first with err | ⟨⟩
  · obtain ⟨rfl, rfl⟩ := Prod.mk.inj (Except.ok.inj h)
    exact .inl ⟨err, rfl, rfl, rfl⟩
  · exact .inr ⟨rfl, h⟩

/-- A resolution that fails ends it all.

**Proof sketch.** The prefix that was resolved is empty, and the failing entry is the first. What
its resolution left is said by `stuck`. -/
private lemma Resolves.initializes {e : Entry} {err : ProxyError} {proxy : Proxy}
    {state : Proxy.State} (resolves : Resolves r ps e.proxy proxy state w w' news (.error err))
    (hname : proxy.name = e.name) :
    Initializes r ps (e :: todo) w w' news (.error err) [] (e :: todo) where
  split := rfl
  filled := by simp
  complete := by simp
  failed := by
    rintro _ _ ⟨⟩
    obtain ⟨es, path⟩ := resolves.path
    exact ⟨err, rfl, proxy, state, resolves.known, resolves.left, path.stuck⟩
  untouched q hq hne := resolves.others q hq (by simpa using hne)
  entries := resolves.entries
  resolutions := by simpa using resolves.resolutions
  lookups := by
    rw [resolves.lookups]
    cases h : proxy.state.type <;> simp [unresolved, resolves.known, h, hname]

/-- A resolution leaves the proxies alone that come after it. -/
private lemma Resolves.apart {e : Entry} {proxy : Proxy} {state : Proxy.State}
    (resolves : Resolves r ps e.proxy proxy state w w' news result)
    (members : ∀ e' ∈ e :: todo, e'.proxy ∈ ps) (distinct : ((e :: todo).map Entry.proxy).Nodup) :
    ∀ e' ∈ todo, w'.proxy? e'.proxy = w.proxy? e'.proxy := by
  intro e' he'
  refine resolves.others e'.proxy (members e' (by simp [he'])) fun same => ?_
  rw [List.map_cons, List.nodup_cons, ← same] at distinct
  exact distinct.1 (List.mem_map_of_mem he')

/-- A resolution that does not fail makes the prefix longer.

**Proof sketch.** The proxies of the entries are different ones. So the rest of the pass does not
touch the proxy that was resolved first, and the first resolution does not touch the others. What
held of them before the rest held before it all. -/
private lemma Initializes.cons {e : Entry} {proxy : Proxy} {state : Proxy.State} {v : World σ}
    {later : List Event} {done rest : List Entry}
    (initializes : Initializes r ps todo v w' later result done rest)
    (resolves : Resolves r ps e.proxy proxy state w v news (.ok ()))
    (hname : proxy.name = e.name) (members : ∀ e' ∈ e :: todo, e'.proxy ∈ ps)
    (distinct : ((e :: todo).map Entry.proxy).Nodup) :
    Initializes r ps (e :: todo) w w' (later ++ news) result (e :: done) rest := by
  have split := initializes.split
  have apart := resolves.apart members distinct
  have visited : done ++ rest.take 1 ⊆ todo := by
    rw [split]
    exact ((List.take_sublist 1 rest).append_left done).subset
  have settled : w'.proxy? e.proxy = v.proxy? e.proxy := by
    refine initializes.untouched e.proxy (members e (by simp)) fun again => ?_
    rw [List.map_cons, List.nodup_cons] at distinct
    exact distinct.1 (List.map_subset Entry.proxy visited again)
  refine {
    split := by simp [split]
    filled := fun e' he' => ?filled
    complete := initializes.complete
    failed := fun e' after hrest => ?failed
    untouched := fun q hq hne => ?untouched
    entries := initializes.entries.trans resolves.entries
    resolutions := by simp [initializes.resolutions, resolves.resolutions]
    lookups := ?lookups }
  case filled =>
    rcases List.mem_cons.1 he' with rfl | he'
    · obtain ⟨es, path⟩ := resolves.path
      exact ⟨proxy, state, resolves.known, settled.trans resolves.left, path.filled⟩
    · obtain ⟨proxy', state', hv, hw', filled⟩ := initializes.filled e' he'
      exact ⟨proxy', state', (apart e' (by simp [split, he'])).symm.trans hv, hw', filled⟩
  case failed =>
    obtain ⟨err, hresult, proxy', state', hv, hw', stuck⟩ := initializes.failed e' after hrest
    have later : e' ∈ todo := by simp [split, hrest]
    exact ⟨err, hresult, proxy', state', (apart e' later).symm.trans hv, hw', stuck⟩
  case untouched =>
    rw [List.cons_append, List.map_cons, List.mem_cons, not_or] at hne
    exact (initializes.untouched q hq hne.2).trans (resolves.others q hq hne.1)
  case lookups =>
    have same : (done ++ rest.take 1).filter v.unresolved =
        (done ++ rest.take 1).filter w.unresolved := by
      refine List.filter_congr fun e' he' => ?_
      rw [unresolved, apart e' (visited he'), unresolved]
    rw [lookups_append, resolves.lookups, initializes.lookups, same, List.cons_append]
    cases h : proxy.state.type <;> simp [unresolved, resolves.known, h, hname]

/-- **Going through entries.** What was done of the entries is a prefix: each of it was resolved,
and if there is a next entry its resolution failed and ended it all.

**Proof sketch.** Induction on the entries. One resolution leaves all other proxies alone, so what
is known of them at the beginning is still true when their turn comes, and what was reached for the
first stays so to the end. -/
lemma initializes_of_aloof (members : ∀ e ∈ todo, e.proxy ∈ ps)
    (distinct : (todo.map Entry.proxy).Nodup)
    (known : ∀ q ∈ ps, ∃ proxy, w.proxy? q = some proxy)
    (names : ∀ e ∈ todo, ∀ proxy, w.proxy? e.proxy = some proxy → proxy.name = e.name)
    (h : (resolving todo).run (perform H (bound + 1)) w = .ok (result, w'))
    (happened : w'.journal = news ++ w.journal) (aloof : Aloof r ps news) :
    ∃ done rest, Initializes r ps todo w w' news result done rest := by
  induction todo generalizing w news with
  | nil =>
    obtain ⟨rfl, rfl⟩ : .ok () = result ∧ w = w' := by
      simpa [resolving, Activity.untilFailure, pure, Activity.run] using h
    obtain rfl : news = [] := by simpa using happened
    exact ⟨[], [], {
      split := rfl
      filled := by simp
      complete := fun _ => rfl
      failed := by simp
      untouched := fun _ _ _ => rfl
      entries := rfl
      resolutions := rfl
      lookups := rfl }⟩
  | cons e todo ih =>
    obtain ⟨first, v, hfirst, h⟩ := resolving_cons_ok h
    have member : e.proxy ∈ ps := members e (by simp)
    rcases h with ⟨err, rfl, rfl, rfl⟩ | ⟨rfl, h⟩
    · obtain ⟨proxy, state, resolves⟩ := resolves_of_aloof member known hfirst happened aloof
      exact ⟨[], e :: todo, resolves.initializes (names e (by simp) proxy resolves.known)⟩
    · have closed := frames_closed H e.proxy
      obtain ⟨earlier, hv, -⟩ := closed.operate closed.perform hfirst
      obtain ⟨later, hw', -⟩ := closed.toSilent.run closed.perform h
      obtain rfl : news = later ++ earlier :=
        List.append_cancel_right (happened.symm.trans (journal_trans hv hw'))
      obtain ⟨proxy, state, resolves⟩ := resolves_of_aloof member known hfirst hv
        aloof.parts.2
      have apart := resolves.apart members distinct
      obtain ⟨done, rest, initializes⟩ := ih (fun e' he' => members e' (by simp [he']))
        (List.nodup_cons.1 distinct).2
        (fun q hq => by
          by_cases hqe : q = e.proxy
          · exact ⟨_, hqe ▸ resolves.left⟩
          · simpa [resolves.others q hq hqe] using known q hq)
        (fun e' he' proxy' hp => names e' (by simp [he']) proxy' ((apart e' he').symm.trans hp))
        h hw' aloof.parts.1
      exact ⟨e :: done, rest, initializes.cons resolves (names e (by simp) proxy resolves.known)
        members distinct⟩

end Run

/-! ## What can keep it from returning -/

/-- A dialogue that does not come to its end made a call that does not return.

**Proof sketch.** Induction on the dialogue. Either its first question does not come back, or it
does, and then the proxy is as before, because it is in use, and the rest of the dialogue does not
end. -/
private lemma converse_halts {bound : Nat} {α : Type} {t : Talk α} {halt : Halt}
    {resolver : Resolver} {factory : Factory} (known : w.proxy? p = some proxy)
    (busy : proxy.busy = true)
    (h : converse (perform H bound) H p resolver factory t w = .error halt) :
    ∃ u before request,
      TalkPasses (perform H bound) (Inside H bound) H p resolver factory t w u ∧
        u.journal = .asked p request :: before ∧ u.proxy? p = some proxy ∧
        (H.serve resolver factory request).run (perform H bound) u = .error halt := by
  induction t generalizing w with
  | done a => simp [converse] at h
  | ask q next ih =>
    rw [converse] at h
    split at h
    next halt' hserve =>
      obtain rfl : halt' = halt := Except.error.inj h
      exact ⟨w.record (.asked p q), w.journal, q, .within (.here _ _), rfl, known, hserve⟩
    next answer v hserve =>
      obtain ⟨served, -, framed⟩ :=
        (frames_closed H p).toSilent.run (frames_closed H p).perform hserve
      obtain ⟨known, -⟩ := framed proxy known (.inl busy)
      obtain ⟨u, before, request, passes, rest⟩ :=
        ih answer (w := v.record (.answered p ⟨q, answer⟩)) known h
      exact ⟨u, before, request, .after hserve passes, rest⟩

/-- Something keeps an operation on `p` from returning: an operation on it is under way already, or
in some world that it goes through, a call that it made does not return. -/
def Hindered (H : Host σ) (bound : Nat) (p : ProxyId) (w : World σ) (passes : World σ → Prop)
    (halt : Halt) : Prop :=
  ∃ proxy, w.proxy? p = some proxy ∧
    (proxy.busy = true ∧ halt = .reentered p ∨
      ∃ u before request, passes u ∧ u.journal = .asked p request :: before ∧
        (H.serve proxy.resolver proxy.factory request).run (perform H bound) u = .error halt)

/-- An operation that does not return is hindered.

**Proof sketch.** An operation on a known proxy is refused at once if the proxy is in use. Otherwise
it ends with its dialogue. -/
lemma operate_halts {bound : Nat} {operation : Proxy.Operation} {halt : Halt}
    (known : w.proxy? p = some proxy)
    (h : operate (perform H bound) H p operation w = .error halt) :
    Hindered H bound p w (OperatePasses (perform H bound) (Inside H bound) H p operation w)
      halt := by
  refine ⟨proxy, known, ?_⟩
  simp only [operate, known] at h
  split at h
  next busy => exact .inl ⟨busy, (Except.error.inj h).symm⟩
  next idle =>
    right
    split at h
    next halt' hconverse =>
      obtain rfl : halt' = halt := Except.error.inj h
      have busy :
          ((w.setProxy p { proxy with busy := true }).record (.began p operation)).proxy? p =
          some { proxy with busy := true } := proxy?_setProxy_self known
      obtain ⟨u, before, request, passes, asked, -, hserve⟩ := converse_halts busy rfl hconverse
      exact ⟨u, before, request, ⟨proxy, known, Bool.eq_false_iff.2 idle, passes⟩, asked, hserve⟩
    next => cases h

/-- What hinders an operation later on hinders it from the beginning. -/
private lemma Hindered.back {bound : Nat} {halt : Halt} {passes passes' : World σ → Prop}
    (hindered : Hindered H bound p w' passes halt) (known : w.proxy? p = some proxy)
    (persists : Persists w w') (settles : Settles p w w') (within : ∀ u, passes u → passes' u) :
    Hindered H bound p w passes' halt := by
  obtain ⟨proxy', known', cause⟩ := hindered
  obtain ⟨proxy₁, there, -, hresolver, hfactory⟩ := persists.proxy p proxy known
  obtain rfl : proxy' = proxy₁ := Option.some.inj (known'.symm.trans there)
  obtain ⟨proxy₂, there', same⟩ := settles proxy known
  obtain rfl : proxy' = proxy₂ := Option.some.inj (known'.symm.trans there')
  refine ⟨proxy, known, ?_⟩
  rw [same, hresolver, hfactory] at cause
  exact cause.imp_right fun ⟨u, before, request, passed, rest⟩ =>
    ⟨u, before, request, within u passed, rest⟩

/-- If going through entries does not return, then the resolution of one of them is hindered.

**Proof sketch.** Induction on the entries. Calls that are over leave every proxy as busy as it was,
so what hinders a later resolution hindered it from the beginning. -/
lemma resolving_halts {bound : Nat} {todo : List Entry} {halt : Halt}
    (known : ∀ e ∈ todo, ∃ proxy, w.proxy? e.proxy = some proxy)
    (h : (resolving todo).run (perform H (bound + 1)) w = .error halt) :
    ∃ e ∈ todo, Hindered H bound e.proxy w
      ((resolving todo).Passes (perform H (bound + 1)) (Inside H (bound + 1)) w) halt := by
  induction todo generalizing w with
  | nil => simp [resolving, Activity.untilFailure, pure, Activity.run] at h
  | cons e todo ih =>
    obtain ⟨proxy, knownFirst⟩ := known e (by simp)
    rw [resolving_cons] at h ⊢
    rcases Activity.run_call_error h with hfirst | ⟨first, v, hfirst, h⟩
    · have hfirst : operate (perform H bound) H e.proxy .resolve w = .error halt := hfirst
      have hindered := operate_halts knownFirst hfirst
      exact ⟨e, by simp, hindered.back knownFirst (persists_silent.refl w)
        ((settles_silent _).refl w) fun u passed => .within passed⟩
    · rcases first with err | ⟨⟩
      · cases h
      have persists := (persists_stepwise H).toClosed.perform hfirst
      obtain ⟨e', he', hindered⟩ := ih (fun e' he' => by
        obtain ⟨proxy', known'⟩ := known e' (by simp [he'])
        obtain ⟨proxy'', there, -⟩ := persists.proxy e'.proxy proxy' known'
        exact ⟨proxy'', there⟩) h
      obtain ⟨proxy', known'⟩ := known e' (by simp [he'])
      exact ⟨e', by simp [he'], hindered.back known' persists
        ((settles_closed H e'.proxy).perform hfirst) fun u passed => .after hfirst passed⟩

/-! ## Initialization -/

/-- What the initialization of the registry `r` did on the way from `w` to `w'`. -/
structure Initialized (r : RegistryId) (w w' : World σ) (news : List Event)
    (result : Except ProxyError Unit) (done rest : List Entry) : Prop
    extends Initializes r (w.members r) (w.entriesOf r) w w' news result done rest where
  /-- Nothing happened to the proxies after the first failure. -/
  later : ∀ e ∈ rest.drop 1, w'.proxy? e.proxy = w.proxy? e.proxy
  /-- The resolver that the proxies ask is the one of the registry. -/
  resolver : ∀ e ∈ w.entriesOf r, ∃ proxy registry, w.proxy? e.proxy = some proxy ∧
    w.registry? r = some registry ∧ proxy.resolver = registry.resolver

/-- **Initialization gets as far as the first failure.** In every world that a run goes through, the
resolution of a whole registry returns, unless a resolution that it makes is hindered: an operation
on that proxy was under way already, or a call of a collaborator does not return. If it returns, and
if the collaborators that it called kept aloof from the registry and its proxies, then it resolved a
prefix of the entries, and the first entry after this prefix, if there is one, failed.

**Proof sketch.** One resolution resolves its proxy or fails, and leaves all others alone. The rest
is induction on the entries. -/
theorem initialization_is_prefix {registry : Registry} (reachable : Reachable H w)
    (registered : w.registry? r = some registry) (bound : Nat) :
    (∃ halt, (Registry.resolveAll r).perform H (bound + 1) w = .error halt ∧
      ∃ e ∈ w.entriesOf r, Hindered H bound e.proxy w
        ((Registry.resolveAll r).Passes (perform H (bound + 1)) (Inside H (bound + 1)) w) halt) ∨
    ∃ result w' news, (Registry.resolveAll r).perform H (bound + 1) w = .ok (result, w') ∧
      w'.journal = news ++ w.journal ∧ (Aloof r (w.members r) news →
        ∃ done rest, Initialized r w w' news result done rest) := by
  have kept := reachable.kept
  have known : ∀ e ∈ w.entriesOf r, ∃ proxy, w.proxy? e.proxy = some proxy := by
    intro e he
    obtain ⟨proxy, -, known, -⟩ := kept.known r e he
    exact ⟨proxy, known⟩
  have entries : perform H (bound + 1) (.entries r) w = .ok (w.entriesOf r, w) := by
    simp [perform, registered, entriesOf]
  have run : (Registry.resolveAll r).perform H (bound + 1) w =
      (resolving (w.entriesOf r)).run (perform H (bound + 1)) w := Activity.run_call entries
  cases h : (resolving (w.entriesOf r)).run (perform H (bound + 1)) w with
  | error halt =>
    obtain ⟨e, he, hindered⟩ := resolving_halts known h
    obtain ⟨proxy, knownFirst⟩ := known e he
    exact .inl ⟨halt, run.trans h, e, he, hindered.back knownFirst (persists_silent.refl w)
      ((settles_silent _).refl w) fun u passed => .after entries passed⟩
  | ok outcome =>
    obtain ⟨result, w'⟩ := outcome
    obtain ⟨news, happened, -⟩ := (leaves_silent r).run (leaves_closed H r).perform h
    refine .inr ⟨result, w', news, run.trans h, happened, fun aloof => ?_⟩
    have distinct := kept.nodup_members r
    obtain ⟨done, rest, initializes⟩ := initializes_of_aloof
      (fun e he => List.mem_map_of_mem he) distinct
      (fun q hq => by
        obtain ⟨e, he, rfl⟩ := List.mem_map.1 hq
        exact known e he)
      (fun e he proxy hp => kept.name_eq he hp) h happened aloof
    have parts : w.entriesOf r = (done ++ rest.take 1) ++ rest.drop 1 := by
      rw [initializes.split, List.append_assoc, List.take_append_drop]
    refine ⟨done, rest, { initializes with
      later := fun e he => ?_
      resolver := fun e he => ?_ }⟩
    · rw [World.members, parts, List.map_append, List.nodup_append] at distinct
      refine initializes.untouched e.proxy ?_ fun again => ?_
      · have member : e ∈ w.entriesOf r := by
          rw [parts]
          exact List.mem_append_right _ he
        exact List.mem_map_of_mem member
      · exact distinct.2.2 e.proxy again e.proxy (List.mem_map_of_mem he) rfl
    · obtain ⟨proxy, registry', known, -, there, hresolver, -⟩ := kept.known r e he
      exact ⟨proxy, registry', known, there, hresolver⟩

/-! ## An initialization that fails in the middle -/

/-- A host in which the second product does not start. -/
def flawed : Host Nat :=
  .counting (fun product => if product = ⟨1⟩ then .error (.ofMessage "not now") else .ok ())
    fun _ => pure ()

/-- A client with four components: one is resolved, and two are to be started. -/
def mixed : Activity Nat RegistryId := do
  let r ← Activity.establish (.custom 0) (.custom 0)
  let a ← Activity.obtain r "a"
  let b ← Activity.obtain r "b"
  let c ← Activity.obtain r "c"
  let _ ← Activity.obtain r "d"
  let _ ← Activity.operate a .resolve
  let _ ← Activity.operate b .start
  let _ ← Activity.operate c .start
  pure r

/-- The first is known, the second starts, the third fails to, and the fourth is not reached. -/
theorem initialization_is_prefix_mixed : ∃ w result w' news, Reachable flawed w ∧
    (Registry.resolveAll ⟨0⟩).perform flawed 2 w = .ok (result, w') ∧
    w'.journal = news ++ w.journal ∧ Aloof ⟨0⟩ (w.members ⟨0⟩) news ∧
    resolutions (w.members ⟨0⟩) news = [(⟨0⟩, .ok ()), (⟨1⟩, .ok ()),
      (⟨2⟩, .error (.start "c" (.ofMessage "not now")))] ∧
    ∃ done rest, Initialized ⟨0⟩ w w' news result done rest := by
  obtain ⟨w, ready, registry, registered, result, w', run, happened, aloof, resolved⟩ :
      ∃ w, mixed.perform flawed 2 { host := 0 } = .ok (⟨0⟩, w) ∧
        ∃ registry, w.registry? ⟨0⟩ = some registry ∧
        ∃ result w', (Registry.resolveAll ⟨0⟩).perform flawed 2 w = .ok (result, w') ∧
          w'.journal = w'.journal.take 26 ++ w.journal ∧
          decide (Aloof ⟨0⟩ (w.members ⟨0⟩) (w'.journal.take 26)) = true ∧
          resolutions (w.members ⟨0⟩) (w'.journal.take 26) = [(⟨0⟩, .ok ()), (⟨1⟩, .ok ()),
            (⟨2⟩, .error (.start "c" (.ofMessage "not now")))] := by
    refine ⟨_, rfl, _, rfl, _, _, rfl, rfl, rfl, rfl⟩
  have reachable : Reachable flawed w := .of_run ready
  have aloof := of_decide_eq_true aloof
  rcases initialization_is_prefix reachable registered 1 with
    ⟨halt, stuck, -⟩ | ⟨result', w'', news, run', happened', initialized⟩
  · rw [run] at stuck
    cases stuck
  · obtain ⟨rfl, rfl⟩ := Prod.mk.inj (Except.ok.inj (run.symm.trans run'))
    obtain rfl := List.append_cancel_right (happened.symm.trans happened')
    exact ⟨w, result, w', _, reachable, run, happened, aloof, resolved, initialized aloof⟩

end World

end Standby
