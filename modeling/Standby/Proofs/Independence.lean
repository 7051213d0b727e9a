import Standby.Proofs.World.Ledger
set_option autoImplicit false

/-!
# Proxies of different types

Two proxies share their resolver and their factory, and yet neither can tell whether operations are
called on the other. This is so if the answers of a resolver are a matter of the name, all other
outcomes are a matter of the type and the calls that were made for it before, and collaborators
operate on no proxy. The proxies must have different types, since it is by its type that a proxy is
served.

## Main definitions

* `Standby.Interleaves` — the operations on two proxies, mixed in some order.
* `Standby.World.Regular` — what is asked of the collaborators.
* `Standby.World.Twin` — a proxy and the calls for its type, in two worlds.

## Main results

* `Standby.World.Twin.operate` — the same operation on twins ends in the same way and leaves twins.
* `Standby.World.returns_of_interleaves` — mixed or alone, operations are carried out in the same
  way.
* `Standby.World.entries_independent` — two proxies of different types are independent.

## Design

The run of both sequences is compared with the run of one of them. An operation on the one proxy is
carried out in both runs, and an operation on the other in the mixed one only, where it leaves the
proxy and the calls for its type alone. Two ways of mixing the sequences agree because each agrees
with the sequences alone.
-/

namespace Standby

variable {σ ν : Type} {H : Host σ}

/-! ## Operations on two proxies -/

/-- Operations on the proxies `p` and `q`, those on each of them in the order of a given list. -/
inductive Interleaves (p q : ProxyId) :
    List Proxy.Operation → List Proxy.Operation → List (ProxyId × Proxy.Operation) → Prop
  | nil : Interleaves p q [] [] []
  | left (operation : Proxy.Operation) {first second : List Proxy.Operation}
    {mixed : List (ProxyId × Proxy.Operation)} (rest : Interleaves p q first second mixed) :
    Interleaves p q (operation :: first) second ((p, operation) :: mixed)
  | right (operation : Proxy.Operation) {first second : List Proxy.Operation}
    {mixed : List (ProxyId × Proxy.Operation)} (rest : Interleaves p q first second mixed) :
    Interleaves p q first (operation :: second) ((q, operation) :: mixed)

/-- The answers to the operations on the proxy `p`, among those to all operations. -/
def answersOf (p : ProxyId) (mixed : List (ProxyId × Proxy.Operation))
    (answers : List (Except ProxyError Unit)) : List (Except ProxyError Unit) :=
  (mixed.zip answers).filterMap fun x => if x.1.1 = p then some x.2 else none

/-- The activity returns, within every bound that is large enough. -/
def Activity.Returns {α : Type} (a : Activity σ α) (H : Host σ) (w : World σ) (x : α × World σ) :
    Prop :=
  ∃ least, ∀ bound, least ≤ bound → a.perform H bound w = .ok x

namespace World

/-- The worlds to which operations on the proxies `ps` lead. -/
inductive Proceeds (H : Host σ) (ps : List ProxyId) (w : World σ) : World σ → Prop
  | here : Proceeds H ps w w
  | after {u v : World σ} {p : ProxyId} {operation : Proxy.Operation} {bound : Nat}
    {result : Except ProxyError Unit} (goes : Proceeds H ps w u) (hp : p ∈ ps)
    (ended : World.operate (perform H bound) H p operation u = .ok (result, v)) : Proceeds H ps w v

/-- Whatever operations are called on the proxies `ps` from `w` on, their calls have the outcomes of
`k`, and collaborators operate on no proxy meanwhile. -/
def Regular (H : Host σ) (k : Outcomes ν) (naming : Product → ν) (ps : List ProxyId) (w : World σ) :
    Prop :=
  ∀ u, Proceeds H ps w u → ∀ p ∈ ps, ∀ proxy operation q v, u.proxy? p = some proxy →
    Makes H p operation u q v → Responds H k naming p proxy.resolver proxy.factory q v

/-- The proxy `p` is the same in both worlds but for the product that it holds, and so are the calls
for all types but one that is of no concern. -/
structure Twin (naming : Product → ν) (p : ProxyId) (elsewhere : Option TypeHandle)
    (v u : World σ) : Prop where
  proxy : ∃ x state, v.proxy? p = some x ∧ u.proxy? p = some { x with state } ∧
    x.state.SameUpTo naming state
  calls : ∀ t, elsewhere ≠ some t →
    componentCalls naming t v.journal = componentCalls naming t u.journal

/-- The proxy `p` is idle, and it is destined for the type `destiny`, if for any. -/
def Poised (k : Outcomes ν) (p : ProxyId) (destiny : Option TypeHandle) (v : World σ) : Prop :=
  ∃ x, v.proxy? p = some x ∧ x.busy = false ∧ k.destiny x.name x.state.type = destiny

/-- Operations on the proxies `ps` lead from `w` to `v`, where `p` and `q` are idle and destined for
these types. -/
structure Along (H : Host σ) (k : Outcomes ν) (ps : List ProxyId) (p q : ProxyId)
    (own other : Option TypeHandle) (w v : World σ) : Prop where
  proceeds : Proceeds H ps w v
  coherent : v.Coherent
  left : Poised k p own v
  right : Poised k q other v

section Steps

variable {k : Outcomes ν} {naming : Product → ν} {ps : List ProxyId} {p q : ProxyId}
  {own other : Option TypeHandle} {w v u u' : World σ}

/-- Of two proxies that are used along with each other, either may be called the first. -/
private lemma Along.symm (along : Along H k ps p q own other w v) :
    Along H k ps q p other own w v :=
  ⟨along.proceeds, along.coherent, along.right, along.left⟩

/-- One more operation on `p` returns. It makes no calls for other types, and both proxies remain
what they are destined for.

**Proof sketch.** The outcomes are regular, so every call that the operation makes returns, and so
does the operation. The calls for other types are left alone, because all that the operation asks
concerns the name or the type of its own proxy. -/
private lemma Along.operate (along : Along H k ps p q own other w v)
    (regular : Regular H k naming ps w) (hp : p ∈ ps) (different : p ≠ q)
    (operation : Proxy.Operation) :
    ∃ x bound v' es o, v.proxy? p = some x ∧
      World.operate (perform H bound) H p operation v = .ok (o.1, v') ∧
      Conducts k naming p operation x v v' es o ∧ Along H k ps p q own other w v' ∧
      ∀ t, own ≠ some t → componentCalls naming t v'.journal =
        componentCalls naming t v.journal := by
  obtain ⟨x, known, idle, destined⟩ := along.left
  obtain ⟨bound, v', es, o, ended, conducts⟩ := operate_conducts along.coherent known idle
    fun request u makes => regular v along.proceeds p hp x operation request u known makes
  have sound := (along.coherent.agrees p x known).run.sound
  have devoted := (Proxy.talk_parallel (.refl x.state) fun held => (sound.held held).1).devoted
    (along.coherent.typeFound_eq known idle) conducts.path conducts.explains
  have noted (t : TypeHandle) : componentCalls naming t v'.journal =
      ((ledgerOf naming p v.journal).noteAll naming es).calls t :=
    congrArg (·.calls t) conducts.noted
  obtain ⟨y, there, idle', destined'⟩ := along.right
  exact ⟨x, bound, v', es, o, known, ended, conducts, {
    proceeds := .after along.proceeds hp ended
    coherent := conducts.coherent
    left := ⟨_, conducts.after, idle, devoted.destiny.trans destined⟩
    right := ⟨y, conducts.others q different y there, idle', destined'⟩ },
    fun t ht => (noted t).trans (devoted.others t (destined ▸ ht))⟩

/-- **The same operation on twins ends in the same way and leaves twins**, if the other proxy has
another type. In the first of the two worlds it leaves the twins of this other proxy.

**Proof sketch.** In both worlds the operation returns by the lemma above. The two dialogues go in
parallel. The calls for the own type are as many in both worlds, hence the regular outcomes are the
same. The twin of the other proxy is not touched, since its type is another one. -/
lemma Twin.operate (twin : Twin naming p other v u) (alongV : Along H k ps p q own other w v)
    (alongU : Along H k ps p q own other w u) (regular : Regular H k naming ps w) (hp : p ∈ ps)
    (different : p ≠ q) (apart : ∀ t, own = some t → other ≠ some t) (operation : Proxy.Operation) :
    ∃ bound bound' result v' u', World.operate (perform H bound) H p operation v =
      .ok (result, v') ∧
      World.operate (perform H bound') H p operation u = .ok (result, u') ∧
      Along H k ps p q own other w v' ∧ Along H k ps p q own other w u' ∧
      Twin naming p other v' u' ∧ ∀ z, Twin naming q own v z → Twin naming q own v' z := by
  obtain ⟨x, bound, v', es, o, known, ended, conducts, alongV', others⟩ :=
    alongV.operate regular hp different operation
  obtain ⟨x', bound', u', es', o', known', ended', conducts', alongU', others'⟩ :=
    alongU.operate regular hp different operation
  obtain ⟨x'', state, there, there', alike⟩ := twin.proxy
  obtain rfl := Option.some.inj (known.symm.trans there)
  obtain rfl := Option.some.inj (known'.symm.trans there')
  obtain ⟨_, there, idle, destined⟩ := alongV.left
  obtain rfl := Option.some.inj (known.symm.trans there)
  have sound := (alongV.coherent.agrees p x known).run.sound
  have agreed := (Proxy.talk_parallel alike fun held => (sound.held held).1).agrees
    (alongV.coherent.typeFound_eq known idle)
    ((alongU.coherent.typeFound_eq known' idle).trans alike.type.symm)
    (fun t ht => twin.calls t (apart t (destined ▸ ht))) conducts.path conducts'.path
    conducts.explains conducts'.explains
  refine ⟨bound, bound', o.1, v', u', ended, agreed.result ▸ ended', alongV', alongU', {
    proxy := ⟨_, o'.2, conducts.after, conducts'.after, agreed.state⟩
    calls := fun t ht => ?_ }, fun z twin' => ?_⟩
  · by_cases mine : own = some t
    · have calls := agreed.calls t (destined.trans mine)
      rw [← conducts.noted, ← conducts'.noted] at calls
      exact calls
    · rw [others t mine, others' t mine, twin.calls t ht]
  · obtain ⟨y, state, there, there', alike⟩ := twin'.proxy
    exact {
      proxy := ⟨y, state, conducts.others q different y there, there', alike⟩
      calls := fun t ht => (others t ht).trans (twin'.calls t ht) }

end Steps

/-! ## Operations, one after the other -/

/-- Where no operation is called there is nothing to wait for. -/
private lemma returns_nil {α β : Type} (f : α → Activity σ β) (w : World σ) :
    (Activity.each f []).Returns H w ([], w) := ⟨0, fun _ _ => rfl⟩

/-- An operation that returns comes before others that do.

**Proof sketch.** Each of the two parts returns from some bound on, and both do so from the greater
of these on. -/
private lemma returns_cons {α : Type} {f : α → ProxyId × Proxy.Operation} {a : α} {rest : List α}
    {bound : Nat} {result : Except ProxyError Unit} {results : List (Except ProxyError Unit)}
    {w v u : World σ} (first : operate (perform H bound) H (f a).1 (f a).2 w = .ok (result, v))
    (others : (Activity.each (fun a => Activity.operate (f a).1 (f a).2) rest).Returns H v
      (results, u)) :
    (Activity.each (fun a => Activity.operate (f a).1 (f a).2) (a :: rest)).Returns H w
      (result :: results, u) := by
  obtain ⟨least, others⟩ := others
  refine ⟨max (bound + 1) least, fun bound' le => ?_⟩
  obtain ⟨bound', rfl⟩ : ∃ b, bound' = b + 1 := ⟨bound' - 1, by omega⟩
  have others : (Activity.each (fun a => Activity.operate (f a).1 (f a).2) rest).run
      (perform H (bound' + 1)) v = .ok (results, u) := others (bound' + 1) (by omega)
  have first := operate_mono (perform_mono (H := H) (show bound ≤ bound' by omega)) first
  rw [Activity.perform, Activity.run_each_cons, run_operate, first]
  dsimp only
  rw [others]

section Runs

variable {k : Outcomes ν} {naming : Product → ν} {ps : List ProxyId} {p q : ProxyId}
  {own other : Option TypeHandle} {w v u u' : World σ} {first second : List Proxy.Operation}
  {mixed : List (ProxyId × Proxy.Operation)}

/-- **Mixed or alone, operations are carried out in the same way.**

**Proof sketch.** Induction on the way in which they are mixed. The first operation is carried out
in the mixed run and in one of the others, where it finds a twin of its proxy. The twins of the
other proxy stay twins, since nothing happens to them and their type is another one. -/
theorem returns_of_interleaves (h : Interleaves p q first second mixed)
    (regular : Regular H k naming ps w) (hp : p ∈ ps) (hq : q ∈ ps) (different : p ≠ q)
    (apart : ∀ t, own = some t → other ≠ some t) (along : Along H k ps p q own other w v)
    (alongP : Along H k ps p q own other w u) (alongQ : Along H k ps p q own other w u')
    (twinP : Twin naming p other v u) (twinQ : Twin naming q own v u') :
    ∃ answers mine yours v₁ u₁ u₁',
      (Activity.each (fun o => Activity.operate o.1 o.2) mixed).Returns H v (answers, v₁) ∧
      (Activity.each (Activity.operate p) first).Returns H u (mine, u₁) ∧
      (Activity.each (Activity.operate q) second).Returns H u' (yours, u₁') ∧
      answersOf p mixed answers = mine ∧ answersOf q mixed answers = yours ∧
      Twin naming p other v₁ u₁ ∧ Twin naming q own v₁ u₁' := by
  induction h generalizing v u u' with
  | nil =>
    exact ⟨[], [], [], v, u, u', returns_nil _ v, returns_nil _ u, returns_nil _ u', rfl,
      rfl, twinP, twinQ⟩
  | left operation _ ih =>
    obtain ⟨bound, bound', result, v', z, ended, ended', alongV, alongZ, twin, aside⟩ :=
      twinP.operate along alongP regular hp different apart operation
    obtain ⟨answers, mine, yours, v₁, u₁, u₁', runs, runsP, runsQ, same, same', ends⟩ :=
      ih alongV alongZ alongQ twin (aside u' twinQ)
    refine ⟨result :: answers, result :: mine, yours, v₁, u₁, u₁', returns_cons ended runs,
      returns_cons (f := fun o => (p, o)) ended' runsP, runsQ, ?_, ?_, ends⟩
    · simpa [answersOf] using same
    · simpa [answersOf, different] using same'
  | right operation _ ih =>
    have apart' (t : TypeHandle) (ht : other = some t) : own ≠ some t := fun h => apart t h ht
    obtain ⟨bound, bound', result, v', z, ended, ended', alongV, alongZ, twin, aside⟩ :=
      twinQ.operate along.symm alongQ.symm regular hq different.symm apart' operation
    obtain ⟨answers, mine, yours, v₁, u₁, u₁', runs, runsP, runsQ, same, same', ends⟩ :=
      ih alongV.symm alongP alongZ.symm (aside u twinP) twin
    refine ⟨result :: answers, mine, result :: yours, v₁, u₁, u₁', returns_cons ended runs, runsP,
      returns_cons (f := fun o => (q, o)) ended' runsQ, ?_, ?_, ends⟩
    · simpa [answersOf, different.symm] using same
    · simpa [answersOf] using same'

/-- Some way of mixing operations on two proxies. -/
private lemma interleaves_append (p q : ProxyId) (first second : List Proxy.Operation) :
    Interleaves p q first second (first.map (p, ·) ++ second.map (q, ·)) := by
  induction first with
  | nil =>
    induction second with
    | nil => exact .nil
    | cons operation second ih => exact .right operation ih
  | cons operation first ih => exact .left operation ih

/-- What returns within one bound does so within every larger one. -/
private lemma returns_of_perform {α : Type} {a : Activity σ α} {bound : Nat} {x : α × World σ}
    (h : a.perform H bound w = .ok x) : a.Returns H w x :=
  ⟨bound, fun _ le => Activity.run_mono (perform_mono le) h⟩

/-- What an activity returns does not depend on the bound. -/
private lemma returns_unique {α : Type} {a : Activity σ α} {x y : α × World σ} (h : a.Returns H w x)
    (h' : a.Returns H w y) : x = y := by
  obtain ⟨least, h⟩ := h
  obtain ⟨least', h'⟩ := h'
  exact run_unique (h least (Nat.le_refl _)) (h' least' (Nat.le_refl _))

/-- **Proxies of different types are independent**, be they registered in one registry or in two.
Take any operations on the one and any operations on the other, and let the outcomes of all calls
that they make be a matter of the name, or of the type and of the earlier calls for this type.
However the operations are mixed, all of them return, with the answers that they have if those on
the other proxy are left out. Each proxy ends in the state in which it ends then, up to which
product it holds, and the same calls were made for its type.

**Proof sketch.** Every mixture returns by `returns_of_interleaves`, with the answers that the two
alone give and with twins of what they leave. One mixture is all of the first and then all of the
second, so the two alone return as well. As the answers of an activity are unique, it does not
matter by which mixture they were found. -/
theorem entries_independent {x y : Proxy} (reachable : Reachable H w) (different : p ≠ q)
    (known : w.proxy? p = some x) (known' : w.proxy? q = some y) (idle : x.busy = false)
    (idle' : y.busy = false) (regular : Regular H k naming [p, q] w)
    (apart : ∀ t, k.destiny x.name x.state.type = some t → k.destiny y.name y.state.type ≠ some t)
    (first second : List Proxy.Operation) :
    ∃ mine yours u u', (Activity.each (Activity.operate p) first).Returns H w (mine, u) ∧
      (Activity.each (Activity.operate q) second).Returns H w (yours, u') ∧
      ∀ mixed, Interleaves p q first second mixed → ∃ answers v,
        (Activity.each (fun o => Activity.operate o.1 o.2) mixed).Returns H w (answers, v) ∧
        answersOf p mixed answers = mine ∧ answersOf q mixed answers = yours ∧
        Twin naming p (k.destiny y.name y.state.type) v u ∧
        Twin naming q (k.destiny x.name x.state.type) v u' := by
  have along : Along H k [p, q] p q (k.destiny x.name x.state.type) (k.destiny y.name y.state.type)
      w w := ⟨.here, reachable.coherent, ⟨x, known, idle, rfl⟩, ⟨y, known', idle', rfl⟩⟩
  have twin : Twin naming p (k.destiny y.name y.state.type) w w :=
    ⟨⟨x, x.state, known, known, .refl _⟩, fun _ _ => rfl⟩
  have twin' : Twin naming q (k.destiny x.name x.state.type) w w :=
    ⟨⟨y, y.state, known', known', .refl _⟩, fun _ _ => rfl⟩
  have runs {mixed : List (ProxyId × Proxy.Operation)} (h : Interleaves p q first second mixed) :=
    returns_of_interleaves h regular (by simp) (by simp) different apart along along along
      twin twin'
  obtain ⟨-, mine, yours, -, u, u', -, alone, alone', -⟩ :=
    runs (interleaves_append p q first second)
  refine ⟨mine, yours, u, u', alone, alone', fun mixed h => ?_⟩
  obtain ⟨answers, mine', yours', v, z, z', ran, again, again', rest⟩ := runs h
  obtain ⟨rfl, rfl⟩ := Prod.mk.inj (returns_unique alone again)
  obtain ⟨rfl, rfl⟩ := Prod.mk.inj (returns_unique alone' again')
  exact ⟨answers, v, ran, rest⟩

end Runs

/-! ## Collaborators that count -/

/-- A host that keeps the types of which it was asked for a product. It fails to build the first one
of each type, and numbers those that it builds. -/
def grudging : Host (List TypeHandle) where
  resolve _ name := .done (.ok ⟨0, ⟨name, ⟨0⟩⟩⟩)
  create _ type := .update fun asked =>
    (if asked.count type = 0 then .error ⟨type.name, .plain "not yet"⟩ else .ok ⟨asked.length⟩,
      type :: asked)
  construct _ := .done (.error (.plain "no"))
  capability _ := .done true
  start _ := .done (.ok ())
  stop _ := .done (.ok ())

namespace grudging

/-- The call asks for a new product. -/
def creates : ComponentCall Unit → Bool
  | .create _ => true
  | .capability _ _ | .start _ _ | .stop _ _ => false

/-- What the host answers, by how many products of the type it was asked for. -/
def outcomes : Outcomes Unit where
  resolve name := .ok ⟨0, ⟨name, ⟨0⟩⟩⟩
  create type calls :=
    if calls.countP creates = 0 then .error ⟨type.name, .plain "not yet"⟩ else .ok ()
  capability _ _ := true
  start _ _ := .ok ()
  stop _ _ := .ok ()

/-- The host has kept the type of every product that was asked for. -/
def Counts (w : World (List TypeHandle)) : Prop :=
  ∀ t, w.host.count t = (componentCalls (fun _ => ()) t w.journal).countP creates

section Regularity

variable {w v u : World (List TypeHandle)} {p : ProxyId} {q : Request} {bound : Nat}
  {resolver : Resolver} {factory : Factory}

/-- A call is answered at once and as it must be, and the host has counted it.

**Proof sketch.** By cases on the call. The host changes only when a product is asked for, and then
the type is put in front of those that it has noted. No other call changes the number of products
asked for. -/
private lemma serves (counts : Counts w) (p : ProxyId) (q : Request) : ∃ answer v,
    (∀ bound, (grudging.serve (.custom 0) (.custom 0) q).run (perform grudging bound) w =
      .ok (answer, v)) ∧ v.journal = w.journal ∧
      outcomes.Gives (fun _ => ()) (ledgerOf (fun _ => ()) p w.journal) ⟨q, answer⟩ ∧
      Counts (v.record (.answered p ⟨q, answer⟩)) := by
  -- all calls but the one for a new product leave both numbers as they are
  have other {e : Exchange} (h : ∀ call, e.componentCall (fun _ => ()) = some call →
      creates call = false) :
      Counts (w.record (.answered p e)) := fun t => by
    simp only [record, componentCalls, List.countP_append, ← counts t]
    cases made : e.componentCall (fun _ => ()) with
    | none => simp
    | some call => split <;> simp [h call made]
  cases q with
  | resolve name =>
    exact ⟨_, w, fun _ => rfl, rfl, rfl, other (by simp [Exchange.componentCall])⟩
  | create type =>
    refine ⟨_, { w with host := type :: w.host }, fun _ => rfl, rfl, ?_, fun t => ?_⟩
    · simp only [Outcomes.Gives, outcomes, ledgerOf, ← counts type]
      split <;> rfl
    · simp only [record, componentCalls, Exchange.servedType, Exchange.componentCall]
      rw [List.count_cons, counts t, List.countP_append]
      by_cases same : type = t <;> simp [same, creates]
  | capability product | start product | stop product =>
    exact ⟨_, w, fun _ => rfl, rfl, fun _ _ => rfl,
      other (by simp [Exchange.componentCall, creates])⟩

/-- In the course of a dialogue every call is answered as it must be, and the host counts.

**Proof sketch.** Induction on the dialogue, with `serves` for each question. -/
private lemma counts_converse {α : Type} {t : Talk α} {x : α × World (List TypeHandle)}
    (counts : Counts w) (hresolver : resolver = .custom 0) (hfactory : factory = .custom 0)
    (h : converse (perform grudging bound) grudging p resolver factory t w = .ok x) :
    Counts x.2 := by
  subst hresolver hfactory
  induction t generalizing w with
  | done a =>
    obtain rfl : (a, w) = x := by simpa [converse] using h
    exact counts
  | ask q next ih =>
    obtain ⟨answer, v, hserve, h⟩ := converse_ask_ok h
    obtain ⟨answer', v', served, -, -, counts⟩ := serves (w := w.record (.asked p q)) counts p q
    obtain ⟨rfl, rfl⟩ := Prod.mk.inj (Except.ok.inj (hserve.symm.trans (served bound)))
    exact ih answer counts h

/-- Whenever a dialogue makes a call the host has counted those before. -/
private lemma counts_awaits {α : Type} {t : Talk α} (counts : Counts w)
    (hresolver : resolver = .custom 0) (hfactory : factory = .custom 0)
    (h : Awaits grudging p resolver factory t w q u) : Counts u := by
  subst hresolver hfactory
  induction h with
  | now q next w => exact counts
  | @later q q' next w v u answer bound hserve _ ih =>
    obtain ⟨answer', v', served, -, -, counts⟩ := serves (w := w.record (.asked p q)) counts p q
    obtain ⟨rfl, rfl⟩ := Prod.mk.inj (Except.ok.inj (hserve.symm.trans (served bound)))
    exact ih counts

/-- The proxies `ps` ask this host, which has counted what was asked. -/
structure Asked (ps : List ProxyId) (w : World (List TypeHandle)) : Prop where
  counts : Counts w
  custom : ∀ p ∈ ps, ∃ x, w.proxy? p = some x ∧ x.resolver = .custom 0 ∧ x.factory = .custom 0

/-- Proxies that ask this host still ask it after any operations on them, and the host has counted
what they asked.

**Proof sketch.** Induction on how the world came about. An operation leaves the resolver and the
factory of every proxy, and what the host counted is kept up in its dialogue. -/
private lemma asked_proceeds {ps : List ProxyId} (asked : Asked ps w)
    (h : Proceeds grudging ps w v) : Asked ps v := by
  induction h with
  | here => exact asked
  | @after u v p operation bound result _ hp ended ih =>
    have persists : Persists u v :=
      persists_operate (persists_stepwise grudging).toClosed.perform ended
    refine ⟨?_, fun p' hp' => ?_⟩
    · obtain ⟨x, known, resolver, factory⟩ := ih.custom p hp
      obtain ⟨x', state, z, known', -, hconverse, rfl⟩ := operate_ok ended
      obtain rfl := Option.some.inj (known.symm.trans known')
      have counts : Counts ((u.setProxy p { x with busy := true }).record (.began p operation)) :=
        ih.counts
      exact counts_converse counts resolver factory hconverse
    · obtain ⟨x, known, resolver, factory⟩ := ih.custom p' hp'
      obtain ⟨x', known', -, same, same'⟩ := persists.proxy p' x known
      exact ⟨x', known', same.trans resolver, same'.trans factory⟩

/-- The outcomes of all calls are a matter of the name, or of the type and of how many products were
asked for.

**Proof sketch.** At the moment of the call the host has counted what was asked before. So `serves`
gives the answer, and it is the one that the outcomes prescribe. -/
private lemma regular {ps : List ProxyId} (asked : Asked ps w) :
    Regular grudging outcomes (fun _ => ()) ps w := by
  rintro u proceeds p hp x operation q v known ⟨x', known', awaits⟩
  obtain rfl := Option.some.inj (known.symm.trans known')
  have asked := asked_proceeds asked proceeds
  obtain ⟨_, known', resolver, factory⟩ := asked.custom p hp
  obtain rfl := Option.some.inj (known.symm.trans known')
  have counts : Counts ((u.setProxy p { x with busy := true }).record (.began p operation)) :=
    asked.counts
  have counts := counts_awaits counts resolver factory awaits
  rw [resolver, factory]
  obtain ⟨answer, v', served, same, gives, -⟩ := serves counts p q
  exact ⟨0, answer, v', [], served 0, same, by simp, gives⟩

end Regularity

/-- A client that registers two names. -/
def pair : Activity (List TypeHandle) RegistryId := do
  let r ← Activity.establish (.custom 0) (.custom 0)
  let _ ← Activity.obtain r "a"
  let _ ← Activity.obtain r "b"
  pure r

end grudging

/-- However the operations on two proxies are mixed, the first attempt of each fails and the second
one succeeds. Which numbers their products have depends on how they are mixed. -/
theorem entries_independent_grudging : ∃ w x y, Reachable grudging w ∧
    w.members ⟨0⟩ = [⟨0⟩, ⟨1⟩] ∧ w.proxy? ⟨0⟩ = some x ∧ w.proxy? ⟨1⟩ = some y ∧
    Regular grudging grudging.outcomes (fun _ => ()) [⟨0⟩, ⟨1⟩] w ∧
    grudging.outcomes.destiny x.name x.state.type = some ⟨0, ⟨"a", ⟨0⟩⟩⟩ ∧
    grudging.outcomes.destiny y.name y.state.type = some ⟨0, ⟨"b", ⟨0⟩⟩⟩ ∧
    ∀ mixed, Interleaves ⟨0⟩ ⟨1⟩ [.resolve, .start, .start, .stop] [.start, .resolve, .start]
      mixed →
      ∃ answers v,
        (Activity.each (fun o => Activity.operate o.1 o.2) mixed).Returns grudging w (answers, v) ∧
        answersOf ⟨0⟩ mixed answers =
          [.ok (), .error (.construction ⟨"a", .plain "not yet"⟩), .ok (), .ok ()] ∧
        answersOf ⟨1⟩ mixed answers =
          [.ok (), .error (.construction ⟨"b", .plain "not yet"⟩), .ok ()] := by
  obtain ⟨w, x, y, z, z', ready, members, known, known', idle, idle', destined, destined',
      ran, ran', asked⟩ : ∃ w x y z z', grudging.pair.perform grudging 0 { host := [] } =
      .ok (⟨0⟩, w) ∧
        w.members ⟨0⟩ = [⟨0⟩, ⟨1⟩] ∧ w.proxy? ⟨0⟩ = some x ∧ w.proxy? ⟨1⟩ = some y ∧
        x.busy = false ∧ y.busy = false ∧
        grudging.outcomes.destiny x.name x.state.type = some ⟨0, ⟨"a", ⟨0⟩⟩⟩ ∧
        grudging.outcomes.destiny y.name y.state.type = some ⟨0, ⟨"b", ⟨0⟩⟩⟩ ∧
        (Activity.each (Activity.operate ⟨0⟩) [.resolve, .start, .start, .stop]).perform
          grudging 1 w =
          .ok ([.ok (), .error (.construction ⟨"a", .plain "not yet"⟩), .ok (), .ok ()], z) ∧
        (Activity.each (Activity.operate ⟨1⟩) [.start, .resolve, .start]).perform grudging 1 w =
          .ok ([.ok (), .error (.construction ⟨"b", .plain "not yet"⟩), .ok ()], z') ∧
        grudging.Asked [⟨0⟩, ⟨1⟩] w := by
    refine ⟨_, _, _, _, _, rfl, rfl, rfl, rfl, rfl, rfl, rfl, rfl, rfl, rfl,
      ⟨fun t => rfl, fun p hp => ?_⟩⟩
    have two : p = ⟨0⟩ ∨ p = ⟨1⟩ := by simpa using hp
    rcases two with rfl | rfl <;> exact ⟨_, rfl, rfl, rfl⟩
  have reachable : Reachable grudging w := .of_run ready
  have regular := grudging.regular asked
  have apart (t : TypeHandle) (ht : grudging.outcomes.destiny x.name x.state.type = some t) :
      grudging.outcomes.destiny y.name y.state.type ≠ some t := fun ht' =>
    absurd ((destined.symm.trans ht).trans (ht'.symm.trans destined')) (by decide)
  obtain ⟨mine, yours, u, u', alone, alone', all⟩ := entries_independent reachable (by decide) known
    known' idle idle' regular apart [.resolve, .start, .start, .stop] [.start, .resolve, .start]
  obtain ⟨rfl, -⟩ := Prod.mk.inj (returns_unique alone (returns_of_perform ran))
  obtain ⟨rfl, -⟩ := Prod.mk.inj (returns_unique alone' (returns_of_perform ran'))
  refine ⟨w, x, y, reachable, members, known, known', regular, destined, destined',
    fun mixed h => ?_⟩
  obtain ⟨answers, v, runs, same, same', -⟩ := all mixed h
  exact ⟨answers, v, runs, same, same'⟩

end World

end Standby
