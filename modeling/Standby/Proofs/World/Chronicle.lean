import Standby.Proofs.Proxy.History
import Standby.World.Basic
set_option autoImplicit false

/-!
# What the journal says about one proxy

The journal of a world interleaves what happened to all proxies. The chronicle of a proxy is the
part of the journal that is about it, put together to the turns that came to an end and the calls of
the operation that is under way.

## Main definitions

* `Standby.Chronicle` — the turns of a proxy, and what is known of the operation under way.
* `Standby.World.chronicle` — the chronicle of a proxy of a world.

## Main results

* `Standby.Chronicle.turns_append` — what happens later only adds turns.
* `Standby.Chronicle.since_turns_iff` — which request came last, by the turns and by the journal.
-/

namespace Standby

/-! ## Proxies of a world -/

namespace World

variable {σ : Type} {w : World σ} {p q : ProxyId} {proxy proxy' : Proxy}

/-- To note an event in the journal changes no proxy. -/
@[simp] lemma proxy?_record (e : Event) : (w.record e).proxy? p = w.proxy? p := rfl

/-- A proxy that was put somewhere is found there. -/
lemma proxy?_setProxy_self (h : w.proxy? p = some proxy) :
    (w.setProxy p proxy').proxy? p = some proxy' := by
  have hlt : p.index < w.proxies.length := (List.getElem?_eq_some_iff.1 h).1
  simp [proxy?, setProxy, hlt]

/-- All other proxies stay where they were. -/
lemma proxy?_setProxy_of_ne (h : p ≠ q) : (w.setProxy p proxy').proxy? q = w.proxy? q := by
  have hne : p.index ≠ q.index := fun e => h (congrArg ProxyId.mk e)
  simp [proxy?, setProxy, List.getElem?_set_ne hne]

end World

/-! ## Chronicles -/

/-- The event is a step of an operation on the proxy `p`. -/
def Event.IsOf (p : ProxyId) : Event → Prop
  | .began q _ | .asked q _ | .answered q _ | .ended q _ _ => q = p
  | .registered _ _ _ | .swept _ _ | .removed _ _ => False

/-- A step of an operation is one on a single proxy. -/
lemma Event.IsOf.unique {e : Event} {p q : ProxyId} (h : e.IsOf p) (h' : e.IsOf q) : p = q := by
  cases e with
  | began _ _ | asked _ _ | answered _ _ | ended _ _ _ => exact h.symm.trans h'
  | registered _ _ _ | swept _ _ | removed _ _ => exact h.elim

/-- What is known of a proxy from the journal.

The journal tells of all proxies at once. A chronicle picks out what concerns one of them, and puts
together what belongs to one operation: its calls with their answers, and its result. -/
structure Chronicle where
  /-- The operations that came to an end. -/
  turns : List Proxy.Turn := []
  /-- The operation that began last. -/
  operation : Proxy.Operation := .start
  /-- The calls that the operation under way made, with their answers. -/
  exchanges : List Exchange := []
  /-- The call that waits for its answer. -/
  pending : Option Request := none

namespace Chronicle

/-- What one more event adds to the chronicle of the proxy `p`. -/
def note (p : ProxyId) (c : Chronicle) : Event → Chronicle
  | .began q operation => if q = p then { c with operation } else c
  | .asked q request => if q = p then { c with pending := some request } else c
  | .answered q exchange =>
    if q = p then { c with exchanges := c.exchanges ++ [exchange], pending := none } else c
  | .ended q operation result =>
    if q = p then { c with turns := c.turns ++ [⟨operation, c.exchanges, result⟩], exchanges := [] }
    else c
  | .registered _ _ _ | .swept _ _ | .removed _ _ => c

/-- The chronicle of the proxy `p` by a journal, latest event first. -/
def ofJournal (p : ProxyId) (journal : List Event) : Chronicle :=
  journal.foldr (fun e c => c.note p e) {}

variable {p : ProxyId} {c : Chronicle} {journal : List Event} {operation : Proxy.Operation}

/-- A chronicle with one more event is the chronicle before with this event noted. -/
lemma ofJournal_cons (e : Event) :
    ofJournal p (e :: journal) = (ofJournal p journal).note p e := rfl

section Note

/-- With the beginning of an operation the chronicle says which operation is under way. -/
@[simp] lemma note_began_self : c.note p (.began p operation) = { c with operation } := by
  simp [note]

/-- With a call the chronicle says that the call waits for its answer. -/
@[simp] lemma note_asked_self (request : Request) :
    c.note p (.asked p request) = { c with pending := some request } := by simp [note]

/-- With the answer of a call the chronicle has this exchange after all others, and no call
waits. -/
@[simp] lemma note_answered_self (exchange : Exchange) :
    c.note p (.answered p exchange) =
      { c with exchanges := c.exchanges ++ [exchange], pending := none } := by simp [note]

/-- With the end of an operation the exchanges since its beginning become a turn. -/
@[simp] lemma note_ended_self (result : Except ProxyError Unit) :
    c.note p (.ended p operation result) =
      { c with turns := c.turns ++ [⟨operation, c.exchanges, result⟩], exchanges := [] } := by
  simp [note]

/-- What is no step of an operation on the proxy adds nothing. -/
lemma note_of_not_isOf {e : Event} (h : ¬ e.IsOf p) : c.note p e = c := by
  cases e with
  | registered _ _ _ | swept _ _ | removed _ _ => rfl
  | began q _ | asked q _ | answered q _ | ended q _ _ => exact if_neg h

end Note

/-- The end of an operation of one kind on the proxy `p`. -/
def Ends (p : ProxyId) (operation : Proxy.Operation) (e : Event) : Prop :=
  ∃ result, e = .ended p operation result

/-- One more event leaves the turns as they are, or it is the end of one.

**Proof sketch.** By cases on the event. Only the end of an operation on this proxy makes a turn. -/
private lemma turns_note (p : ProxyId) (c : Chronicle) (e : Event) :
    (c.note p e).turns = c.turns ∧ (∀ operation, ¬ Ends p operation e) ∨
      ∃ operation result, e = .ended p operation result ∧
        (c.note p e).turns = c.turns ++ [⟨operation, c.exchanges, result⟩] := by
  cases e with
  | ended q operation result =>
    by_cases hq : q = p
    · subst hq
      exact .inr ⟨operation, result, rfl, by simp⟩
    · have hnote : c.note p (.ended q operation result) = c := note_of_not_isOf hq
      exact .inl ⟨by rw [hnote], by simp [Ends, hq]⟩
  | began q _ | asked q _ | answered q _ =>
    refine .inl ⟨?_, by simp [Ends]⟩
    simp only [note]
    split <;> rfl
  | registered _ _ _ | swept _ _ | removed _ _ => exact .inl ⟨rfl, by simp [Ends]⟩

/-- What happens later only adds turns. -/
theorem turns_append (later : List Event) :
    (ofJournal p journal).turns <+: (ofJournal p (later ++ journal)).turns := by
  induction later with
  | nil => exact List.prefix_rfl
  | cons e later ih =>
    rw [List.cons_append, ofJournal_cons]
    rcases turns_note p (ofJournal p (later ++ journal)) e with ⟨h, -⟩ | ⟨_, _, _, h⟩
    · rwa [h]
    · rw [h]
      exact ih.trans (List.prefix_append _ _)

/-- The turns that come later are those of the operations that ended in the meantime.

**Proof sketch.** Induction on the later events, with `turns_note` for each. -/
lemma turns_append_eq (later : List Event) : ∃ turns : List Proxy.Turn,
    (ofJournal p (later ++ journal)).turns = (ofJournal p journal).turns ++ turns ∧
      ∀ operation, (∃ t ∈ turns, t.operation = operation) ↔ ∃ e ∈ later, Ends p operation e := by
  induction later with
  | nil => exact ⟨[], by simp, by simp⟩
  | cons e later ih =>
    obtain ⟨turns, grown, same⟩ := ih
    rw [List.cons_append, ofJournal_cons]
    rcases turns_note p (ofJournal p (later ++ journal)) e with ⟨h, none⟩ | ⟨o, result, rfl, h⟩
    · refine ⟨turns, h.trans grown, fun operation => ?_⟩
      simp [same, none]
    · refine ⟨turns ++ [⟨o, (ofJournal p (later ++ journal)).exchanges, result⟩],
        by rw [h, grown, List.append_assoc], fun operation => ?_⟩
      simp only [List.mem_append, List.mem_cons, or_and_right, exists_or,
        exists_eq_left, same]
      simp [Ends, or_comm]

/-- Which of two kinds of operations came last is the same by the turns and by the journal. -/
theorem since_turns_iff {a b : Proxy.Operation} :
    Since (·.operation = a) (·.operation = b) (ofJournal p journal).turns ↔
      Since (Ends p a) (Ends p b) journal.reverse := by
  induction journal with
  | nil => simp [ofJournal]
  | cons e journal ih =>
    rw [ofJournal_cons, List.reverse_cons, since_snoc, ← ih]
    rcases turns_note p (ofJournal p journal) e with ⟨h, none⟩ | ⟨_, _, rfl, -⟩
    · simp [h, none]
    · simp [since_snoc, Ends]

end Chronicle

/-- The chronicle of a proxy of a world. -/
def World.chronicle {σ : Type} (w : World σ) (p : ProxyId) : Chronicle :=
  Chronicle.ofJournal p w.journal

namespace World

variable {σ : Type} {w : World σ} {p q : ProxyId}

/-- What one more event of the journal adds to a chronicle. -/
lemma chronicle_record (e : Event) : (w.record e).chronicle p = (w.chronicle p).note p e := rfl

/-- A chronicle is what the journal says and does not depend on the proxies. -/
lemma chronicle_setProxy (proxy : Proxy) : (w.setProxy q proxy).chronicle p = w.chronicle p := rfl

end World

end Standby
