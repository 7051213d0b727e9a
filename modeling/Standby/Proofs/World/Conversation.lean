import Standby.Proofs.Initialization
import Standby.Proofs.World.Calls
set_option autoImplicit false

/-!
# What proxies were told

The answers that several proxies got in the course of a run, read off its journal in order. For one
operation, made while everyone else keeps aloof, these are the calls that the operation makes.

## Main definitions

* `Standby.conversation` — the calls of some proxies that were answered.
* `Standby.constructions` — the types of which they had products made.

## Main results

* `Standby.World.conversation_operate` — what a proxy is told in the course of an operation.
* `Standby.World.conversation_of_aloof` — what several are told while everyone else keeps aloof.
-/

namespace Standby

variable {σ : Type} {H : Host σ}

/-- The calls of the proxies `ps` that were answered, in order and with the answers. -/
def conversation (ps : List ProxyId) (news : List Event) : List (ProxyId × Exchange) :=
  news.reverse.filterMap fun
    | .answered p exchange => if p ∈ ps then some (p, exchange) else none
    | _ => none

/-- The type of which a call has a product made. -/
def Request.constructed? : Request → Option TypeHandle
  | .create type => some type
  | .resolve _ | .capability _ | .start _ | .stop _ => none

/-- The types of which the proxies `ps` had products made, in order, whether they got them or
not. -/
def constructions (ps : List ProxyId) (news : List Event) : List TypeHandle :=
  (conversation ps news).filterMap fun told => told.2.1.constructed?

section Journal

variable {p : ProxyId} {ps : List ProxyId} {news later : List Event}

/-- The conversation in two stretches of a journal, earlier stretch first. -/
@[simp] lemma conversation_append :
    conversation ps (later ++ news) = conversation ps news ++ conversation ps later := by
  simp [conversation]

/-- The constructions in two stretches of a journal, earlier stretch first. -/
@[simp] lemma constructions_append :
    constructions ps (later ++ news) = constructions ps news ++ constructions ps later := by
  simp [constructions]

/-- Where nothing happened to any of the proxies but `p`, only `p` was told anything. -/
private lemma conversation_eq_of_quiet (hp : p ∈ ps)
    (h : ∀ e ∈ news, ∀ q ∈ ps, q ≠ p → ¬ e.IsOf q) :
    conversation ps news = conversation [p] news := by
  refine List.filterMap_congr fun e he => ?_
  cases e with
  | answered q exchange =>
    by_cases hq : q = p
    · simp [hq, hp]
    · have out : q ∉ ps := fun hq' => h _ (List.mem_reverse.1 he) q hq' hq rfl
      simp [hq, out]
  | registered _ _ _ | swept _ _ | removed _ _ | began _ _ | asked _ _ | ended _ _ _ => rfl

/-- A proxy to which nothing happened was told nothing. -/
lemma conversation_eq_nil (h : ∀ e ∈ news, ¬ e.IsOf p) : conversation [p] news = [] := by
  rw [conversation, List.filterMap_eq_nil_iff]
  intro e he
  cases e with
  | answered q exchange =>
    exact if_neg fun hq => h _ (List.mem_reverse.1 he) (List.mem_singleton.1 hq)
  | registered _ _ _ | swept _ _ | removed _ _ | began _ _ | asked _ _ | ended _ _ _ => rfl

end Journal

namespace World

variable {w w' : World σ} {p : ProxyId} {r : RegistryId} {proxy : Proxy} {bound : Nat}

/-- In the course of a dialogue a proxy is told the answers to the calls of this dialogue.

**Proof sketch.** Induction on the dialogue. While a call is served nothing is told to the proxy,
because it is busy, and so all that it is told is the answer to the call. -/
private lemma conversation_converse {α : Type} {t : Talk α} {x : α} {resolver : Resolver}
    {factory : Factory} (known : w.proxy? p = some proxy) (busy : proxy.busy = true)
    (h : converse (perform H bound) H p resolver factory t w = .ok (x, w')) :
    ∃ during, w'.journal = during ++ w.journal ∧
      conversation [p] during =
        (conversed (perform H bound) H p resolver factory t w).map (p, ·) := by
  induction t generalizing w with
  | done a =>
    obtain ⟨rfl, rfl⟩ : a = x ∧ w = w' := by simpa [converse] using h
    exact ⟨[], rfl, rfl⟩
  | ask q next ih =>
    obtain ⟨answer, v, hserve, h⟩ := converse_ask_ok h
    obtain ⟨served, hv, framed⟩ :=
      (frames_closed H p).toSilent.run (frames_closed H p).perform hserve
    obtain ⟨known, quiet⟩ := framed proxy known (.inl busy)
    obtain ⟨during, hw', told⟩ := ih answer (w := v.record (.answered p ⟨q, answer⟩)) known h
    refine ⟨during ++ ([.answered p ⟨q, answer⟩] ++ (served ++ [.asked p q])),
      by simp [hw', hv, record], ?_⟩
    rw [conversation_append, conversation_append, conversation_append, told,
      conversation_eq_nil quiet, conversed_ask hserve]
    simp [conversation]

/-- In the course of an operation its proxy is told the answers to the calls of this operation. -/
lemma conversation_operate {news : List Event} {operation : Proxy.Operation}
    {result : Except ProxyError Unit}
    (h : operate (perform H bound) H p operation w = .ok (result, w'))
    (happened : w'.journal = news ++ w.journal) :
    conversation [p] news = (exchanges (perform H bound) H p operation w).map (p, ·) := by
  obtain ⟨proxy, state, v, known, -, hconverse, rfl⟩ := operate_ok h
  have begun : ((w.setProxy p { proxy with busy := true }).record (.began p operation)).proxy? p =
      some { proxy with busy := true } := proxy?_setProxy_self known
  obtain ⟨during, hv, told⟩ := conversation_converse begun rfl hconverse
  obtain rfl : news = [.ended p operation result] ++ during ++ [.began p operation] := by
    refine List.append_cancel_right (happened.symm.trans ?_)
    simp [record, setProxy, hv]
  rw [conversation_append, conversation_append, told, exchanges_eq known]
  simp [conversation]

/-- While everyone else keeps aloof nobody is told anything else. -/
lemma conversation_of_aloof {ps : List ProxyId} {news : List Event} {operation : Proxy.Operation}
    {result : Except ProxyError Unit} (hp : p ∈ ps)
    (known : ∀ q ∈ ps, ∃ proxy, w.proxy? q = some proxy)
    (h : operate (perform H bound) H p operation w = .ok (result, w'))
    (happened : w'.journal = news ++ w.journal) (aloof : Aloof r ps news) :
    conversation ps news = (exchanges (perform H bound) H p operation w).map (p, ·) := by
  have quiet : ∀ e ∈ news, ∀ q ∈ ps, q ≠ p → ¬ e.IsOf q := by
    intro e he q hq hqp
    obtain ⟨proxy, known⟩ := known q hq
    exact (quiet_of_aloof hp h happened aloof hq hqp known).2 e he
  rw [conversation_eq_of_quiet hp quiet, conversation_operate h happened]

end World

end Standby
