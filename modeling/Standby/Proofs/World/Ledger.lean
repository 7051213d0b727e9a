import Standby.Proofs.Proxy.Likeness
import Standby.Proofs.World.Bound
import Standby.Proofs.World.Calls
import Standby.Proofs.World.Frame
set_option autoImplicit false

/-!
# The calls that were made for a type

Which type a proxy has, and which calls were made for a type, can be read off the journal. Where the
outcomes of calls are a matter of that, and collaborators operate on no proxy, an operation is
carried out in one way, and leaves everything else alone.

## Main definitions

* `Standby.typeFound`, `Standby.componentCalls` — the type of a proxy, and the calls for a type.
* `Standby.World.Responds` — a call has the outcome that it must have.
* `Standby.World.Conducts` — what an operation does whose calls respond.

## Main results

* `Standby.World.Coherent.typeFound_eq` — the journal and the state have the same type.
* `Standby.World.operate_conducts` — an operation whose calls respond returns, and does no more.
-/

namespace Standby

variable {σ ν : Type} {H : Host σ}

/-! ## The journal as a ledger -/

/-- The type that the proxy `p` was told for its name. -/
def typeFound (p : ProxyId) : List Event → Option TypeHandle
  | [] => none
  | .answered q e :: before =>
    if q = p then (typeFound p before).or (Exchange.handle? e) else typeFound p before
  | _ :: before => typeFound p before

/-- The calls that were made for the type `t`, by whatever proxy, in order. -/
def componentCalls (naming : Product → ν) (t : TypeHandle) : List Event → List (ComponentCall ν)
  | [] => []
  | .answered p e :: before =>
    componentCalls naming t before ++
      if Exchange.servedType (typeFound p before) e = some t then
        (Exchange.componentCall naming e).toList else []
  | _ :: before => componentCalls naming t before

/-- What the outcome of a call of the proxy `p` may depend on. -/
def ledgerOf (naming : Product → ν) (p : ProxyId) (journal : List Event) : Ledger ν :=
  ⟨typeFound p journal, fun t => componentCalls naming t journal⟩

section Journal

variable {naming : Product → ν} {p : ProxyId} {journal news : List Event} {e : Exchange}

/-- With an answer that a proxy was given its ledger has one entry more. -/
@[simp] lemma ledgerOf_answered : ledgerOf naming p (.answered p e :: journal) =
    (ledgerOf naming p journal).note naming e := by
  simp only [ledgerOf, typeFound, componentCalls, Ledger.note, if_true]
  rfl

/-- Where no operation takes a step the ledger stays as it is. -/
private lemma ledgerOf_append (h : ∀ e ∈ news, ∀ q, ¬ Event.IsOf q e) :
    ledgerOf naming p (news ++ journal) = ledgerOf naming p journal := by
  induction news with
  | nil => rfl
  | cons e news ih =>
    have ih := ih fun e he => h e (List.mem_cons_of_mem _ he)
    cases e with
    | answered q exchange => exact absurd rfl (h _ List.mem_cons_self q)
    | registered _ _ _ | swept _ _ | removed _ _ | began _ _ | asked _ _ | ended _ _ _ => exact ih

/-- The type that a proxy was told is the first one in its chronicle.

**Proof sketch.** Induction on the journal. An answer comes last in the chronicle, and the end of an
operation puts the answers of the operation into a turn without a change to their order. -/
private lemma typeFound_eq (p : ProxyId) (journal : List Event) :
    typeFound p journal = ((Chronicle.ofJournal p journal).turns.flatMap Proxy.Turn.exchanges ++
      (Chronicle.ofJournal p journal).exchanges).findSome? Exchange.handle? := by
  induction journal with
  | nil => rfl
  | cons e journal ih =>
    rw [Chronicle.ofJournal_cons]
    by_cases he : e.IsOf p
    · cases e with
      | answered q exchange =>
        obtain rfl : q = p := he
        simp only [typeFound, ih, Chronicle.note_answered_self, if_true, ← List.append_assoc]
        simp [List.findSome?_append, Option.or_assoc]
      | ended q operation result =>
        obtain rfl : q = p := he
        simp [typeFound, ih]
      | began q operation =>
        obtain rfl : q = p := he
        simpa [typeFound] using ih
      | asked q request =>
        obtain rfl : q = p := he
        simpa [typeFound] using ih
      | registered _ _ _ | swept _ _ | removed _ _ => exact he.elim
    · rw [Chronicle.note_of_not_isOf he, ← ih]
      cases e with
      | answered q exchange => exact if_neg he
      | registered _ _ _ | swept _ _ | removed _ _ | began _ _ | asked _ _ | ended _ _ _ => rfl

end Journal

namespace World

variable {w w' u v : World σ} {p q : ProxyId} {proxy : Proxy} {operation : Proxy.Operation}

/-- The type of an idle proxy is the one that it was told. -/
lemma Coherent.typeFound_eq (coherent : w.Coherent) (known : w.proxy? p = some proxy)
    (idle : proxy.busy = false) : typeFound p w.journal = proxy.state.type := by
  have agrees := coherent.agrees p proxy known
  obtain ⟨none, -⟩ := agrees.idle idle
  have none : (Chronicle.ofJournal p w.journal).exchanges = [] := none
  rw [Standby.typeFound_eq, none, List.append_nil]
  exact agrees.run.determined.type.symm

/-! ## Calls that respond -/

/-- The call `q` of the proxy `p`, made in `u`, has the outcome that it must have by the ledger, and
nobody operates on a proxy meanwhile. -/
def Responds (H : Host σ) (k : Outcomes ν) (naming : Product → ν) (p : ProxyId)
    (resolver : Resolver) (factory : Factory) (q : Request) (u : World σ) : Prop :=
  ∃ bound answer v news, (H.serve resolver factory q).run (perform H bound) u = .ok (answer, v) ∧
    v.journal = news ++ u.journal ∧ (∀ p operation, .began p operation ∉ news) ∧
    k.Gives naming (ledgerOf naming p u.journal) ⟨q, answer⟩

section Operations

variable {k : Outcomes ν} {naming : Product → ν} {resolver : Resolver} {factory : Factory}
  {bound : Nat}

/-- The calls of a dialogue that respond have the outcomes that they must have, and nobody operates
on a proxy in the course of the dialogue.

**Proof sketch.** Induction on the dialogue. Each call responds, so it has the outcome it must have
after those that were noted before, and nobody operates while it is served. -/
private lemma converse_explained {α : Type} {t : Talk α} {x : α}
    (responds : ∀ q u, Awaits H p resolver factory t w q u →
      Responds H k naming p resolver factory q u)
    (h : converse (perform H bound) H p resolver factory t w = .ok (x, w')) :
    let es := conversed (perform H bound) H p resolver factory t w
    (∃ during, w'.journal = during ++ w.journal ∧ ∀ p operation, .began p operation ∉ during) ∧
      k.Explains naming (ledgerOf naming p w.journal) es ∧
      ledgerOf naming p w'.journal = (ledgerOf naming p w.journal).noteAll naming es := by
  induction t generalizing w with
  | done a =>
    obtain ⟨rfl, rfl⟩ : a = x ∧ w = w' := by simpa [converse] using h
    exact ⟨⟨[], rfl, by simp⟩, trivial, rfl⟩
  | ask q next ih =>
    obtain ⟨answer, v, hserve, h⟩ := converse_ask_ok h
    obtain ⟨_, answer', v', news, hserve', hv, none, gives⟩ := responds q _ (.now q next w)
    obtain ⟨rfl, rfl⟩ := Prod.mk.inj (run_unique hserve hserve')
    have hushed : ∀ e ∈ news, ∀ r, ¬ Event.IsOf r e := by
      intro e he r
      obtain ⟨news', hv', hushed⟩ := (hushes_silent r).run (hushes_closed H r).perform hserve
      obtain rfl := List.append_cancel_right (hv.symm.trans hv')
      exact hushed (none r) e he
    have noted : ledgerOf naming p (v.record (.answered p ⟨q, answer⟩)).journal =
        (ledgerOf naming p w.journal).note naming ⟨q, answer⟩ := by
      rw [record, ledgerOf_answered, hv, ledgerOf_append hushed]
      rfl
    obtain ⟨⟨during, hw', none'⟩, explains, left⟩ :=
      ih answer (fun q' u later => responds q' u (.later hserve later)) h
    rw [noted] at explains left
    rw [conversed_ask hserve]
    refine ⟨⟨during ++ .answered p ⟨q, answer⟩ :: news ++ [.asked p q], ?_, ?_⟩,
      ⟨gives, explains⟩, left⟩
    · simp [hw', record, hv]
    · simp [none, none']

/-- What an operation does whose calls respond: it took a path along calls that have the outcomes
they must have, these are noted, and all other proxies are left alone. -/
structure Conducts (k : Outcomes ν) (naming : Product → ν) (p : ProxyId)
    (operation : Proxy.Operation) (proxy : Proxy) (w w' : World σ) (es : List Exchange)
    (o : Proxy.Outcome) : Prop where
  coherent : w'.Coherent
  after : w'.proxy? p = some { proxy with state := o.2 }
  path : Dialogue.Path (operation.talk proxy.name proxy.state) es o
  explains : k.Explains naming (ledgerOf naming p w.journal) es
  noted : ledgerOf naming p w'.journal = (ledgerOf naming p w.journal).noteAll naming es
  others : ∀ q, p ≠ q → ∀ other, w.proxy? q = some other → w'.proxy? q = some other

/-- **An operation whose calls respond returns**, and it does nothing but what its calls lead to.

**Proof sketch.** Every call that the operation makes is answered, hence it returns. Its dialogue is
explained by `converse_explained`, and as nobody operates in the course of it, every other proxy is
as it was. -/
theorem operate_conducts (coherent : w.Coherent) (known : w.proxy? p = some proxy)
    (idle : proxy.busy = false)
    (responds : ∀ q u, Makes H p operation w q u →
      Responds H k naming p proxy.resolver proxy.factory q u) :
    ∃ bound w' es o, operate (perform H bound) H p operation w = .ok (o.1, w') ∧
      Conducts k naming p operation proxy w w' es o := by
  have served : Served H p operation w := fun proxy' q u known' makes => by
    obtain rfl := Option.some.inj (known.symm.trans known')
    obtain ⟨bound, answer, v, -, served, -⟩ := responds q u makes
    exact ⟨bound, answer, v, served⟩
  obtain ⟨bound, result, w', h⟩ := operate_returns known idle served
  obtain ⟨state, after, path⟩ := operate_path known h
  rw [exchanges_eq known] at path
  refine ⟨bound, w', conversed (perform H bound) H p proxy.resolver proxy.factory
    (operation.talk proxy.name proxy.state)
    ((w.setProxy p { proxy with busy := true }).record (.began p operation)),
      (result, state), h, ?_⟩
  obtain ⟨proxy', state', v, known', -, hconverse, rfl⟩ := operate_ok h
  obtain rfl := Option.some.inj (known.symm.trans known')
  obtain ⟨⟨during, hv, none⟩, explains, noted⟩ :=
    converse_explained (fun q u awaits => responds q u ⟨proxy, known, awaits⟩) hconverse
  refine {
    coherent := (respects_operate (respects_closed H).perform h).coherent coherent
    after := after
    path := Proxy.path_talk_iff.2 path
    explains := explains
    noted := noted
    others := fun q hq other there => ?_ }
  obtain ⟨news, happened, framed⟩ := frames_operate (q := q) (frames_closed H q).perform h
  refine (framed other there (.inr fun o began => ?_)).1
  obtain rfl : news = .ended p operation result :: during ++ [.began p operation] :=
    List.append_cancel_right (happened.symm.trans (by simp [record, setProxy, hv]))
  simp [Ne.symm hq, none] at began

end Operations

end World

end Standby
