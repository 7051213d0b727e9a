import Standby.Proofs.Initialization
set_option autoImplicit false

/-!
# Collaborators that keep away

A client that works on a registry calls operations one after the other, and between them it may do
to the registry what it likes. The collaborators that these operations call keep away from the
registry if they leave it and its proxies alone. Then each operation does to the registry what it is
called for and nothing else.

## Main definitions

* `Standby.Distant` — what a journal tells of collaborators that keep away.
* `Standby.beginnings`, `Standby.endings` — the operations that began, and those that ended.
* `Standby.World.Alone` — what one operation does if everybody keeps away.

## Main results

* `Standby.World.operate_at_distance` — one operation leaves everything else alone.

## Design

`Standby.Aloof` rules out every registration, so it cannot be asked for throughout where the client
registers names itself. `Standby.Distant` allows what happens while no proxy waits for a
collaborator. Within one operation the two say the same.
-/

namespace Standby

variable {σ : Type} {H : Host σ}

/-! ## What a journal tells of it -/

/-- As long as one of the proxies `ps` waits for the answer to a call, nothing is registered in `r`
or removed from it, and no operation on any of the proxies begins. -/
def Distant (r : RegistryId) (ps : List ProxyId) : List Event → Prop
  | [] => True
  | e :: before =>
    Distant r ps before ∧ (e.Alters r ∨ e.Begins ps → ∀ p ∈ ps, ¬ Waiting p before)

/-- The operations on the proxies `ps` that began, in order. -/
def beginnings (ps : List ProxyId) (news : List Event) : List (ProxyId × Proxy.Operation) :=
  news.reverse.filterMap fun
    | .began p operation => if p ∈ ps then some (p, operation) else none
    | _ => none

/-- The operations on the proxies `ps` that ended, in order, with their results. -/
def endings (ps : List ProxyId) (news : List Event) :
    List (ProxyId × Proxy.Operation × Except ProxyError Unit) :=
  news.reverse.filterMap fun
    | .ended p operation result => if p ∈ ps then some (p, operation, result) else none
    | _ => none

/-- Whether everybody kept their distance can be found out from the journal, event by event. -/
instance decidableDistant {r : RegistryId} {ps : List ProxyId} : DecidablePred (Distant r ps)
  | [] => .isTrue trivial
  | e :: before =>
    have : Decidable (Distant r ps before) := decidableDistant before
    inferInstanceAs (Decidable
      (Distant r ps before ∧ (e.Alters r ∨ e.Begins ps → ∀ p ∈ ps, ¬ Waiting p before)))

section Journal

variable {r : RegistryId} {p : ProxyId} {ps : List ProxyId} {news later : List Event}

/-- Who keeps away keeps away on each part of the way. -/
lemma Distant.parts (h : Distant r ps (later ++ news)) :
    Distant r ps later ∧ Distant r ps news := by
  induction later with
  | nil => exact ⟨trivial, h⟩
  | cons e later ih =>
    obtain ⟨h, none⟩ := h
    obtain ⟨hlater, hnews⟩ := ih h
    exact ⟨⟨hlater, fun touches p hp waiting => none touches p hp (waiting.append news)⟩, hnews⟩

/-- Where the registry was not altered, who keeps away is aloof. -/
private lemma Distant.aloof (h : Distant r ps news) (unaltered : ∀ e ∈ news, ¬ e.Alters r) :
    Aloof r ps news := by
  induction news with
  | nil => trivial
  | cons e before ih =>
    obtain ⟨here, unaltered⟩ := List.forall_mem_cons.1 unaltered
    exact ⟨ih h.1 unaltered, here, fun begins => h.2 (.inr begins)⟩

/-- Where nobody is called everybody keeps away. -/
lemma distant_of_unasked (h : ∀ e ∈ news, ∀ p, ¬ e.Asks p) : Distant r ps news := by
  induction news with
  | nil => trivial
  | cons e before ih =>
    obtain ⟨-, unasked⟩ := List.forall_mem_cons.1 h
    refine ⟨ih unasked, fun _ p _ waiting => ?_⟩
    obtain ⟨_, e', _, split, asks, -⟩ := waiting
    exact unasked e' (List.mem_reverse.1 (by simp [split])) p asks

/-- The operations that began in two stretches of a journal, earlier stretch first. -/
@[simp] lemma beginnings_append :
    beginnings ps (later ++ news) = beginnings ps news ++ beginnings ps later := by
  simp [beginnings]

/-- The operations that ended in two stretches of a journal, earlier stretch first. -/
@[simp] lemma endings_append :
    endings ps (later ++ news) = endings ps news ++ endings ps later := by
  simp [endings]

/-- Where the registry was not altered nothing was registered in it. -/
private lemma registeredIn_eq_nil (h : ∀ e ∈ news, ¬ e.Alters r) : registeredIn r news = [] := by
  induction news with
  | nil => rfl
  | cons e before ih =>
    obtain ⟨here, unaltered⟩ := List.forall_mem_cons.1 h
    cases e with
    | registered r' name p =>
      have hr : r' ≠ r := here
      rw [← List.singleton_append, registeredIn_append, ih unaltered]
      simp [registeredIn, registrations, Event.registration?, hr]
    | swept _ _ | removed _ _ | began _ _ | asked _ _ | answered _ _ | ended _ _ _ =>
      exact (registeredIn_cons_of_none rfl).trans (ih unaltered)

/-- Where no operation began there are none to be told of. -/
private lemma beginnings_eq_nil (h : ∀ e ∈ news, ¬ e.Begins ps) : beginnings ps news = [] := by
  rw [beginnings, List.filterMap_eq_nil_iff]
  intro e he
  cases e with
  | began p operation => exact if_neg fun hp => h _ (List.mem_reverse.1 he) hp
  | registered _ _ _ | swept _ _ | removed _ _ | asked _ _ | answered _ _ | ended _ _ _ => rfl

/-- Where no operation ended there are none to be told of. -/
private lemma endings_eq_nil (h : ∀ p ∈ ps, ∀ operation result, .ended p operation result ∉ news) :
    endings ps news = [] := by
  rw [endings, List.filterMap_eq_nil_iff]
  intro e he
  cases e with
  | ended p operation result =>
    exact if_neg fun hp => h p hp operation result (List.mem_reverse.1 he)
  | registered _ _ _ | swept _ _ | removed _ _ | began _ _ | asked _ _ | answered _ _ => rfl

end Journal

namespace World

variable {w w' v : World σ} {r : RegistryId} {p q : ProxyId} {ps : List ProxyId} {proxy : Proxy}
  {news : List Event} {bound : Nat} {result : Except ProxyError Unit}

/-! ## One operation -/

/-- While one of the proxies attends to its calls nobody alters the registry. -/
private lemma Attended.not_alters (h : Attended p news) (hp : p ∈ ps)
    (distant : Distant r ps news) : ∀ e ∈ news, ¬ e.Alters r := by
  induction news with
  | nil => simp
  | cons e before ih =>
    obtain ⟨h, cause⟩ := h
    obtain ⟨distant, none⟩ := distant
    refine List.forall_mem_cons.2 ⟨fun alters => ?_, ih h distant⟩
    cases e with
    | registered _ _ _ | removed _ _ =>
      rcases cause with asks | answers | ⟨-, waiting⟩
      · exact asks
      · exact answers
      · exact none (.inl alters) p hp waiting
    | swept _ _ | began _ _ | asked _ _ | answered _ _ | ended _ _ _ => exact alters

/-- In the course of a dialogue no operation ends that did not begin meanwhile. -/
private lemma Attended.not_ended_of_converse {α : Type} {t : Talk α} {x : α} {resolver : Resolver}
    {factory : Factory} {operation : Proxy.Operation} (attended : Attended p news)
    (happened : w'.journal = news ++ w.journal)
    (h : converse (perform H bound) H p resolver factory t w = .ok (x, w'))
    (none : ∀ o, .began q o ∉ news) : .ended q operation result ∉ news := by
  intro ended
  by_cases hpq : p = q
  · subst hpq
    exact attended.not_ended ended
  · obtain ⟨_, happened', hushed⟩ := (hushes_silent q).converse (hushes_closed H q).perform
      (fun _ _ => hushes_record hpq) (fun _ _ => hushes_record hpq) h
    obtain rfl := List.append_cancel_right (happened.symm.trans happened')
    exact hushed none _ ended rfl

/-- What an operation on the proxy `p` does on the way that `news` tells of, if everybody keeps away
from the registry `r` and its proxies `ps`. -/
structure Alone (r : RegistryId) (ps : List ProxyId) (p : ProxyId) (operation : Proxy.Operation)
    (w w' : World σ) (news : List Event) (result : Except ProxyError Unit) : Prop where
  entries : w'.entriesOf r = w.entriesOf r
  registered : registeredIn r news = []
  beginnings : beginnings ps news = [(p, operation)]
  endings : endings ps news = [(p, operation, result)]
  others : ∀ q ∈ ps, q ≠ p → ∀ proxy, w.proxy? q = some proxy → w'.proxy? q = some proxy

/-- **One operation leaves everything else alone** if those whom it calls keep away.

**Proof sketch.** While the operation waits for an answer nobody touches the registry or its
proxies, and it does nothing else but wait. So what it leaves alone is what an operation leaves
alone among aloof collaborators. -/
theorem operate_at_distance {operation : Proxy.Operation} (hp : p ∈ ps)
    (h : operate (perform H bound) H p operation w = .ok (result, w'))
    (happened : w'.journal = news ++ w.journal) (distant : Distant r ps news) :
    Alone r ps p operation w w' news result := by
  obtain ⟨proxy, state, v, known, idle, hconverse, hw'⟩ := operate_ok h
  have busy : ((w.setProxy p { proxy with busy := true }).record (.began p operation)).proxy? p =
      some { proxy with busy := true } := proxy?_setProxy_self known
  obtain ⟨during, es, hv, -, attended, -, -⟩ := converse_attended busy rfl hconverse
  obtain rfl : news = [.ended p operation result] ++ during ++ [.began p operation] := by
    refine List.append_cancel_right (happened.symm.trans ?_)
    simp [hw', record, setProxy, hv]
  have unaltered : ∀ e ∈ during, ¬ e.Alters r := attended.not_alters hp distant.parts.1.parts.2
  have aloof : Aloof r ps ([.ended p operation result] ++ during ++ [.began p operation]) := by
    refine distant.aloof fun e he => ?_
    simp only [List.mem_append, List.mem_singleton] at he
    rcases he with (rfl | he) | rfl
    · exact id
    · exact unaltered e he
    · exact id
  have none : ∀ e ∈ during, ¬ e.Begins ps := attended.not_begins hp aloof.parts.1.parts.2
  have ends : ∀ q ∈ ps, ∀ o x, .ended q o x ∉ during :=
    fun q hq o x => attended.not_ended_of_converse hv hconverse fun o began => none _ began hq
  obtain ⟨_, hleft, left⟩ := (leaves_closed H r).operate (leaves_closed H r).perform h
  obtain rfl := List.append_cancel_right (happened.symm.trans hleft)
  exact {
    entries := left aloof.not_alters
    registered := registeredIn_eq_nil aloof.not_alters
    beginnings := by
      rw [beginnings_append, beginnings_append, beginnings_eq_nil none]
      simp [beginnings, hp]
    endings := by
      rw [endings_append, endings_append, endings_eq_nil ends]
      simp [endings, hp]
    others := fun q hq hqp proxy known => (quiet_of_aloof hp h happened aloof hq hqp known).1 }

end World

end Standby
