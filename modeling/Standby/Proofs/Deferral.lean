import Standby.Proofs.Initialization
import Standby.Proofs.Proxy.Phase
import Standby.Proofs.World.Calls
import Standby.Proofs.World.Disguise
set_option autoImplicit false

/-!
# Only the last request matters

As long as the type behind a name is unknown, starts and stops are recorded and nothing else
happens. When the name is resolved, the proxy acts on the last of them. It does what it would have
done if nothing had been requested before the resolution and the last request had come after it: the
same calls are made, in the same order, and the same is left.

## Main definitions

* `Standby.Event.brackets` — an operation on a proxy begins or ends.
* `Standby.Proxy.State.waiting` — the state of a proxy whose type is unknown.
* `Standby.World.conclude` — what is left of an operation.
* `Standby.World.Recorded` — requests are recorded, and nothing else happens.
* `Standby.World.Replays` — what comes of deferred requests, and of the last of them alone.

## Main results

* `Standby.World.run_requests` — requests that come too early are recorded.
* `Standby.World.conclude_alike` — the rest of an operation is the same whatever operation it is.
* `Standby.World.deferred_replayed` — what is deferred is replayed as the last request.

## Design

A resolution and a start reach the attempt in different ways, and while it is made the proxy does
not have the same state in both. Nobody can see that: the proxy is busy, so each of the two worlds
is the other one, disguised.
-/

namespace Standby

open Dialogue

variable {σ : Type} {H : Host σ}

/-- An operation on the proxy `p` begins or ends with this event. -/
def Event.brackets (p : ProxyId) : Event → Bool
  | .began q _ | .ended q _ _ => decide (q = p)
  | .registered _ _ _ | .swept _ _ | .removed _ _ | .asked _ _ | .answered _ _ => false

/-- The beginning of an operation on a proxy brackets it. -/
@[simp] lemma Event.brackets_began {p : ProxyId} {operation : Proxy.Operation} :
    (Event.began p operation).brackets p = true :=
  decide_eq_true rfl

/-- The end of an operation on a proxy brackets it. -/
@[simp] lemma Event.brackets_ended {p : ProxyId} {operation : Proxy.Operation}
    {result : Except ProxyError Unit} : (Event.ended p operation result).brackets p = true :=
  decide_eq_true rfl

/-! ## Proxies whose type is unknown -/

namespace Proxy

/-- The state of a proxy whose type is unknown. All that can be known is the latest request. -/
def State.waiting (requested : Bool) : State := { startRequested := requested }

/-- Whether a start is requested once the operation was called. -/
def Operation.requests : Operation → Bool
  | .start => true
  | .stop | .resolve => false

variable {name : String} {s : State} {operation : Operation} {requested : Bool}

/-- In a sound state with no type nothing is known but the latest request. -/
lemma State.Sound.eq_waiting (sound : s.Sound name) (unresolved : s.type = none) :
    s = .waiting s.startRequested := by
  obtain ⟨released, still, unfailed⟩ := sound.unresolved unresolved
  cases s
  simp_all [State.waiting]

/-- A request for a proxy whose type is unknown is recorded. -/
private lemma talk_waiting (early : operation ≠ .resolve) :
    operation.talk name (.waiting requested) =
    .done (.ok (), .waiting operation.requests) := by
  cases operation with
  | start | stop => rfl
  | resolve => exact absurd rfl early

/-- What a resolution does with the answer to its first call. -/
def found (name : String) (requested : Bool) : Except NotFound TypeHandle → Talk Outcome
  | .error e => .done (.error (.notFound e), .waiting requested)
  | .ok type =>
    if requested then attempt name type { type := some type, startRequested := true }
    else .done (.ok (), { type := some type })

/-- A resolution asks for the type, and acts on the latest request. -/
lemma talk_resolve_waiting : Operation.resolve.talk name (.waiting requested) =
    .ask (.resolve name) (found name requested) := by
  refine congrArg (Dialogue.ask _) (funext fun answer => ?_)
  rcases answer with e | type
  · rfl
  · cases requested <;> rfl

end Proxy

namespace World

variable {w w' v : World σ} {p : ProxyId} {proxy x y : Proxy} {operation last : Proxy.Operation}
  {bound : Nat} {j : List Event}

/-! ## What is left of an operation -/

section Conclude

variable {perform : Activity.Performance σ}

/-- What is left of an operation on `p` when the dialogue `t` is left of it. -/
def conclude (perform : Activity.Performance σ) (H : Host σ) (p : ProxyId) (proxy : Proxy)
    (operation : Proxy.Operation) (t : Talk Proxy.Outcome) (w : World σ) :
    Except Halt (Except ProxyError Unit × World σ) :=
  match converse perform H p proxy.resolver proxy.factory t w with
  | .error halt => .error halt
  | .ok ((result, state), w) =>
    .ok (result, w.disguised p { proxy with state } (.ended p operation result :: w.journal))

/-- At its beginning the whole of its dialogue is left of an operation. -/
lemma operate_eq_conclude (known : w.proxy? p = some proxy) (idle : proxy.busy = false) :
    operate perform H p operation w =
      conclude perform H p proxy operation (operation.talk proxy.name proxy.state)
        (w.disguised p { proxy with busy := true } (.began p operation :: w.journal)) := by
  rw [operate, known]
  exact if_neg (by simp [idle])

/-- When nothing is left of an operation it ends. -/
lemma conclude_done {result : Except ProxyError Unit} {state : Proxy.State} :
    conclude perform H p proxy operation (.done (result, state)) w =
      .ok (result, w.disguised p { proxy with state } (.ended p operation result :: w.journal)) :=
  rfl

/-- A call that is answered leaves what comes after the answer. -/
lemma conclude_ask {q : Request} {next : q.Answer → Talk Proxy.Outcome} {answer : q.Answer}
    (h : (H.serve proxy.resolver proxy.factory q).run perform (w.record (.asked p q)) =
      .ok (answer, v)) :
    conclude perform H p proxy operation (.ask q next) w =
      conclude perform H p proxy operation (next answer) (v.record (.answered p ⟨q, answer⟩)) := by
  rw [conclude, converse, h]
  rfl

/-- A call that does not return leaves nothing to be done. -/
private lemma conclude_ask_stuck {q : Request} {next : q.Answer → Talk Proxy.Outcome} {halt : Halt}
    (h : (H.serve proxy.resolver proxy.factory q).run perform (w.record (.asked p q)) =
      .error halt) :
    conclude perform H p proxy operation (.ask q next) w = .error halt := by
  rw [conclude, converse, h]

end Conclude

/-- **The rest of an operation is the same whatever operation it is.** Where the same dialogue is
left of two operations on a proxy, they come to the same and leave the same, if what the proxies
look like meanwhile is all that the worlds differ in.

**Proof sketch.** The proxy is busy in both worlds, so that the dialogue cannot see what it looks
like, and goes on in the same way. What is written at the end is the state that the dialogue gives,
over whatever stood there. -/
lemma conclude_alike (operation operation' : Proxy.Operation) {t : Talk Proxy.Outcome}
    (known : w.proxy? p = some x) (busy : x.busy = true) (busy' : y.busy = true)
    (hname : y.name = x.name) :
    (∃ halt, conclude (perform H bound) H p proxy operation t w = .error halt ∧
      conclude (perform H bound) H p proxy operation' t (w.disguised p y j) = .error halt) ∨
    ∃ result u news, conclude (perform H bound) H p proxy operation t w = .ok (result, u) ∧
      conclude (perform H bound) H p proxy operation' t (w.disguised p y j) =
        .ok (result, { u with journal := .ended p operation' result :: news ++ j }) ∧
      u.journal = .ended p operation result :: news ++ w.journal := by
  have alike := alike_of_matches (j := j)
    (f := converse (perform H bound) H p proxy.resolver proxy.factory t)
    (fun known busy hname => matches_converse known busy hname) known busy busy' hname
  rcases alike with ⟨halt, h, h'⟩ | ⟨⟨result, state⟩, u, news, h, h', happened, -⟩
  · exact .inl ⟨halt, by rw [conclude, h], by rw [conclude, h']⟩
  · refine .inr ⟨result, _, news, by rw [conclude, h], ?_, ?_⟩
    · rw [conclude, h']
      dsimp only
      rw [disguised_disguised]
      rfl
    · change _ :: u.journal = _
      rw [happened, List.cons_append]

/-! ## Requests that come too early -/

/-- Whether a start is requested after the operations, if it was `requested` before. -/
def latest (requested : Bool) (us : List Proxy.Operation) : Bool :=
  us.foldl (fun _ operation => operation.requests) requested

/-- A request that comes too early is recorded, and no call is made. -/
private lemma operate_request {perform : Activity.Performance σ} {requested : Bool}
    (known : w.proxy? p = some proxy) (idle : proxy.busy = false)
    (early : proxy.state = .waiting requested) (ho : operation ≠ .resolve) :
    operate perform H p operation w = .ok (.ok (), w.disguised p
      { proxy with state := .waiting operation.requests }
      ([.ended p operation (.ok ()), .began p operation] ++ w.journal)) := by
  rw [operate_eq_conclude known idle, early, Proxy.talk_waiting ho, conclude_done,
    disguised_disguised]
  rfl

/-- **Requests that come too early are recorded.** Starts and stops of a proxy whose type is unknown
give no failure and make no call. They leave the latest request.

**Proof sketch.** Induction on the requests. -/
lemma run_requests (H : Host σ) (bound : Nat) {requested : Bool} {us : List Proxy.Operation}
    (known : w.proxy? p = some proxy) (idle : proxy.busy = false)
    (early : proxy.state = .waiting requested) (hus : ∀ o ∈ us, o ≠ .resolve) :
    ∃ news, (∀ e ∈ news, e.brackets p = true) ∧
      (Activity.each (Activity.operate p) us).run (perform H (bound + 1)) w =
        .ok (us.map fun _ => .ok (), w.disguised p
          { proxy with state := .waiting (latest requested us) } (news ++ w.journal)) := by
  induction us generalizing w proxy requested with
  | nil =>
    have same : ({ proxy with state := .waiting requested } : Proxy) = proxy := by rw [← early]
    refine ⟨[], by simp, ?_⟩
    change _ = Except.ok ([], w.disguised p { proxy with state := .waiting requested } w.journal)
    rw [same, disguised_self known]
    rfl
  | cons o us ih =>
    have first : operate (perform H bound) H p o w = .ok (.ok (), w.disguised p
        { proxy with state := .waiting o.requests }
        ([.ended p o (.ok ()), .began p o] ++ w.journal)) :=
      operate_request known idle early (hus o (by simp))
    obtain ⟨news, told, later⟩ := ih (w := w.disguised p { proxy with state := .waiting o.requests }
        ([.ended p o (.ok ()), .began p o] ++ w.journal))
      (proxy?_disguised_self known) idle rfl fun o' ho' => hus o' (by simp [ho'])
    refine ⟨news ++ [.ended p o (.ok ()), .began p o], ?_, ?_⟩
    · intro e he
      rcases List.mem_append.1 he with he | he
      · exact told e he
      · rcases List.mem_pair.1 he with rfl | rfl <;> simp
    · rw [Activity.run_each_cons, run_operate, first]
      dsimp only
      rw [later, disguised_disguised, List.append_assoc]
      rfl

/-! ## The resolution -/

section Pairs

variable {first second : Proxy.Operation} {a b : Except ProxyError Unit} {u : World σ} {halt : Halt}

/-- Two operations, one after the other. -/
private lemma run_two (h : operate (perform H bound) H p first w = .ok (a, v))
    (h' : operate (perform H bound) H p second v = .ok (b, u)) :
    (Activity.each (Activity.operate p) [first, second]).run (perform H (bound + 1)) w =
      .ok ([a, b], u) := by
  rw [Activity.run_each_cons, run_operate, h]
  dsimp only
  rw [Activity.run_each_cons, run_operate, h']
  rfl

/-- The first of two operations does not return. -/
private lemma run_two_stuck (h : operate (perform H bound) H p first w = .error halt) :
    (Activity.each (Activity.operate p) [first, second]).run (perform H (bound + 1)) w =
      .error halt := by
  rw [Activity.run_each_cons, run_operate, h]

/-- The second of two operations does not return. -/
private lemma run_two_stuck_later (h : operate (perform H bound) H p first w = .ok (a, v))
    (h' : operate (perform H bound) H p second v = .error halt) :
    (Activity.each (Activity.operate p) [first, second]).run (perform H (bound + 1)) w =
      .error halt := by
  rw [Activity.run_each_cons, run_operate, h]
  dsimp only
  rw [Activity.run_each_cons, run_operate, h']

end Pairs

/-- An operation on a proxy that was left in some state. -/
private lemma operate_disguised {perform : Activity.Performance σ} {state : Proxy.State}
    (known : w.proxy? p = some x) (idle : proxy.busy = false) :
    operate perform H p operation (w.disguised p { proxy with state } j) =
      conclude perform H p proxy operation (operation.talk proxy.name state)
        (w.disguised p { proxy with state, busy := true } (.began p operation :: j)) := by
  have there : (w.disguised p { proxy with state } j).proxy? p = some { proxy with state } :=
    proxy?_disguised_self known
  rw [operate_eq_conclude there idle, disguised_disguised]
  rfl

/-- What a resolution of `p` after a request and one before it come to, from the worlds `u` and `u'`
on. -/
inductive Alike (H : Host σ) (bound : Nat) (p : ProxyId) (last : Proxy.Operation) (u u' : World σ) :
    Prop
  | stuck {halt : Halt} (once : operate (perform H bound) H p .resolve u = .error halt)
    (twice : (Activity.each (Activity.operate p) [.resolve, last]).run (perform H (bound + 1)) u' =
      .error halt)
  | returned (news news' : List Event) {deferred found final : Except ProxyError Unit} {v : World σ}
    (once : operate (perform H bound) H p .resolve u = .ok (deferred, v))
    (twice : (Activity.each (Activity.operate p) [.resolve, last]).run (perform H (bound + 1)) u' =
      .ok ([found, final], { v with journal := news' ++ u'.journal }))
    (happened : v.journal = news ++ u.journal)
    (same : news.filter (!·.brackets p) = news'.filter (!·.brackets p))
    (results : (∃ e, found = .error (.notFound e) ∧ deferred = found ∧ final = .ok ()) ∨
      found = .ok () ∧ deferred = final)

section Resolution

variable {e : NotFound} {type : TypeHandle} {told : List Event} {u u' : World σ}

/-- A name that is not found: both proxies are left waiting for the same.

**Proof sketch.** Both resolutions are over, with the same failure, and leave the proxies as they
found them. The request that comes after the second one is deferred, and brings its proxy to where
the other one is. -/
private lemma alike_missing (known : v.proxy? p = some x) (idle : proxy.busy = false)
    (hlast : last ≠ .resolve) (happened : v.journal = told ++ u.journal)
    (once : operate (perform H bound) H p .resolve u = conclude (perform H bound) H p proxy .resolve
      (Proxy.found proxy.name last.requests (.error e)) v)
    (twice : operate (perform H bound) H p .resolve u' =
      conclude (perform H bound) H p proxy .resolve (Proxy.found proxy.name false (.error e))
        (v.disguised p y (told ++ u'.journal))) :
    Alike H bound p last u u' := by
  let ended : Event := .ended p .resolve (.error (.notFound e))
  let left := v.disguised p { proxy with state := .waiting false } (ended :: (told ++ u'.journal))
  have first : operate (perform H bound) H p .resolve u' = .ok (.error (.notFound e), left) := by
    rw [twice, Proxy.found, conclude_done, disguised_disguised]
    rfl
  have second : operate (perform H bound) H p last left =
      .ok (.ok (), v.disguised p { proxy with state := .waiting last.requests }
        ((.ended p last (.ok ()) :: .began p last :: ended :: told) ++ u'.journal)) := by
    have there : left.proxy? p = some { proxy with state := .waiting false } :=
      proxy?_disguised_self known
    rw [operate_request there idle rfl hlast]
    simp only [left, disguised_disguised]
    rfl
  have only : operate (perform H bound) H p .resolve u =
      .ok (.error (.notFound e), v.disguised p { proxy with state := .waiting last.requests }
        ((ended :: told) ++ u.journal)) := by
    rw [once, Proxy.found, conclude_done, happened]
    rfl
  refine .returned _ _ only (run_two first second) rfl ?_ (.inl ⟨e, rfl, rfl, rfl⟩)
  simp [ended]

/-- Where no start is requested, a name that is found is all that there is to a resolution. -/
private lemma conclude_found {perform : Activity.Performance σ} :
    conclude perform H p proxy .resolve (Proxy.found proxy.name false (.ok type)) w =
      .ok (.ok (), w.disguised p { proxy with state := { type := some type } }
        (.ended p .resolve (.ok ()) :: w.journal)) := by
  rw [Proxy.found, if_neg (by simp), conclude_done]

/-- A name that is found when no start is requested: both proxies are left alone.

**Proof sketch.** Both resolutions are over, and both proxies have the type and hold no product. The
stop that comes after the second one finds nothing to do. -/
private lemma alike_found (known : v.proxy? p = some x) (idle : proxy.busy = false)
    (happened : v.journal = told ++ u.journal)
    (once : operate (perform H bound) H p .resolve u =
      conclude (perform H bound) H p proxy .resolve (Proxy.found proxy.name false (.ok type)) v)
    (twice : operate (perform H bound) H p .resolve u' =
      conclude (perform H bound) H p proxy .resolve (Proxy.found proxy.name false (.ok type))
        (v.disguised p y (told ++ u'.journal))) :
    Alike H bound p .stop u u' := by
  let ended : Event := .ended p .resolve (.ok ())
  let left := v.disguised p { proxy with state := { type := some type } }
    (ended :: (told ++ u'.journal))
  have first : operate (perform H bound) H p .resolve u' = .ok (.ok (), left) := by
    rw [twice, conclude_found, disguised_disguised]
    rfl
  have second : operate (perform H bound) H p .stop left =
      .ok (.ok (), v.disguised p { proxy with state := { type := some type } }
        ((.ended p .stop (.ok ()) :: .began p .stop :: ended :: told) ++ u'.journal)) := by
    have released : Proxy.Operation.stop.talk proxy.name { type := some type } =
      .done (.ok (), { type := some type }) := rfl
    rw [operate_disguised known idle, released, conclude_done, disguised_disguised]
    rfl
  have only : operate (perform H bound) H p .resolve u =
      .ok (.ok (), v.disguised p { proxy with state := { type := some type } }
        ((ended :: told) ++ u.journal)) := by
    rw [once, conclude_found, happened]
    rfl
  refine .returned _ _ only (run_two first second) rfl ?_ (.inr ⟨rfl, rfl⟩)
  simp [ended]

/-- A name that is found when a start is requested: the attempt that is made is the same.

**Proof sketch.** The first resolution makes the attempt right away. The second one leaves it to the
start that comes after it, whose dialogue is the rest of the first one. Which operation a dialogue
belongs to makes no difference to it. -/
private lemma alike_pending (known : v.proxy? p = some x) (busy : x.busy = true)
    (hname : proxy.name = x.name) (idle : proxy.busy = false)
    (happened : v.journal = told ++ u.journal)
    (once : operate (perform H bound) H p .resolve u =
      conclude (perform H bound) H p proxy .resolve (Proxy.found proxy.name true (.ok type)) v)
    (twice : operate (perform H bound) H p .resolve u' =
      conclude (perform H bound) H p proxy .resolve (Proxy.found proxy.name false (.ok type))
        (v.disguised p y (told ++ u'.journal))) :
    Alike H bound p .start u u' := by
  let ended : Event := .ended p .resolve (.ok ())
  let left := v.disguised p { proxy with state := { type := some type } }
    (ended :: (told ++ u'.journal))
  have first : operate (perform H bound) H p .resolve u' = .ok (.ok (), left) := by
    rw [twice, conclude_found, disguised_disguised]
    rfl
  have only : operate (perform H bound) H p .resolve u =
      conclude (perform H bound) H p proxy .resolve
      (Proxy.attempt proxy.name type { type := some type, startRequested := true }) v := by
    rw [once, Proxy.found, if_pos rfl]
  -- Meanwhile the one proxy looks as its resolution left it, the other one as if it was started
  -- again.
  have again : operate (perform H bound) H p .start left =
      conclude (perform H bound) H p proxy .start
      (Proxy.attempt proxy.name type { type := some type, startRequested := true })
      (v.disguised p { proxy with state := { type := some type }, busy := true }
        (.began p .start :: ended :: (told ++ u'.journal))) := by
    have started : Proxy.Operation.start.talk proxy.name { type := some type } =
      Proxy.attempt proxy.name type { type := some type, startRequested := true } := rfl
    rw [operate_disguised known idle, started]
  let running : Proxy := { proxy with state := { type := some type }, busy := true }
  rcases conclude_alike .resolve .start (y := running) known busy rfl hname with
    ⟨halt, h, h'⟩ | ⟨result, z, news, h, h', later⟩
  · exact .stuck (only.trans h) (run_two_stuck_later first (again.trans h'))
  · have happened' : z.journal = (.ended p .resolve result :: news ++ told) ++ u.journal := by
      rw [later, happened, List.append_assoc]
    refine .returned _ (.ended p .start result :: news ++ .began p .start :: ended :: told)
      (only.trans h) ?_ happened' ?_ (.inr ⟨rfl, rfl⟩)
    · have second := run_two first (again.trans h')
      simpa using second
    · simp [ended]

/-- **A resolution acts on the last request.** It is all the same whether a request for an idle
proxy whose type is unknown was recorded before its resolution, or is made after it.

**Proof sketch.** Both resolutions make the same call first, and what the two proxies look like
meanwhile cannot be seen. What is left depends on the answer. -/
private lemma alike_resolve {j' : List Event} (known : w.proxy? p = some x)
    (idle : proxy.busy = false) (hlast : last ≠ .resolve) :
    Alike H bound p last (w.disguised p { proxy with state := .waiting last.requests } j)
      (w.disguised p { proxy with state := .waiting false } j') := by
  let q : Request := .resolve proxy.name
  let x : Proxy := { proxy with state := .waiting last.requests, busy := true }
  let y : Proxy := { proxy with state := .waiting false, busy := true }
  let asking := w.disguised p x (.asked p q :: .began p .resolve :: j)
  have known' : asking.proxy? p = some x := proxy?_disguised_self known
  have once : operate (perform H bound) H p .resolve
      (w.disguised p { proxy with state := .waiting last.requests } j) =
      conclude (perform H bound) H p proxy .resolve
        (.ask q (Proxy.found proxy.name last.requests))
          (w.disguised p x (.began p .resolve :: j)) := by
    rw [operate_disguised known idle, Proxy.talk_resolve_waiting]
  have twice : operate (perform H bound) H p .resolve
      (w.disguised p { proxy with state := .waiting false } j') =
      conclude (perform H bound) H p proxy .resolve
        (.ask q (Proxy.found proxy.name false)) (w.disguised p y (.began p .resolve :: j')) := by
    rw [operate_disguised known idle, Proxy.talk_resolve_waiting]
  have before : (w.disguised p y (.began p .resolve :: j')).record (.asked p q) =
      asking.disguised p y (.asked p q :: .began p .resolve :: j') :=
    (disguised_disguised (w := w)).symm
  have served := alike_of_matches (j := .asked p q :: .began p .resolve :: j')
    (f := (H.serve proxy.resolver proxy.factory q).run (perform H bound))
    (fun known busy hname => matches_run known busy hname) known' rfl
    (show y.busy = true from rfl) rfl
  rw [← before] at served
  rcases served with ⟨halt, h, h'⟩ | ⟨answer, v, news, h, h', happened, left⟩
  · have first := twice.trans (conclude_ask_stuck h')
    exact .stuck (once.trans (conclude_ask_stuck h)) (run_two_stuck first)
  · have once' := once.trans (conclude_ask h)
    have twice' := twice.trans (conclude_ask h')
    let v' := v.record (.answered p ⟨q, answer⟩)
    let told := .answered p ⟨q, answer⟩ :: news ++ [.asked p q, .began p .resolve]
    have left' : v'.proxy? p = some x := left
    have happened' : v'.journal = told ++ j := by
      change _ :: v.journal = _
      rw [happened]
      simp [asking, disguised, told]
    have after : (v.disguised p y (news ++ .asked p q :: .began p .resolve :: j')).record
        (.answered p ⟨q, answer⟩) = v'.disguised p y (told ++ j') := by
      rw [List.append_assoc]
      rfl
    rw [after] at twice'
    have hname : proxy.name = x.name := rfl
    rcases answer with e | type
    · exact alike_missing left' idle hlast happened' once' twice'
    · cases last with
      | start => exact alike_pending left' rfl hname idle happened' once' twice'
      | stop => exact alike_found left' idle happened' once' twice'
      | resolve => exact absurd rfl hlast

end Resolution

/-! ## Deferral -/

/-- The requests `us` and `last` for `p` are recorded, which leaves the world `u`: none of them
fails, no call is made, and the proxy is left waiting for what the last one requests. -/
def Recorded (H : Host σ) (bound : Nat) (w : World σ) (p : ProxyId) (proxy : Proxy)
    (us : List Proxy.Operation) (last : Proxy.Operation) (u : World σ) : Prop :=
  (∃ news, (∀ e ∈ news, e.brackets p = true) ∧
    u = w.disguised p { proxy with state := .waiting last.requests } (news ++ w.journal)) ∧
  (Activity.each (Activity.operate p) (us ++ [last])).perform H (bound + 1) w =
    .ok ((us ++ [last]).map fun _ => .ok (), u)

/-- What comes of the requests `us` and `last` for `p` and of a resolution after them, and of a
stop, a resolution and `last` alone. If the proxy is busy, both wait for it forever. Otherwise the
requests are recorded, and then either both come to the same halt, since a call that the deferred
resolution made does not return, or both are over, the same happened apart from the beginnings and
the ends of these operations, and the same is left. Then either the name was not found, which both
resolutions report, or the resolution that comes first is successful and the other one reports what
the last request reports. -/
inductive Replays (H : Host σ) (bound : Nat) (w : World σ) (p : ProxyId) (proxy : Proxy)
    (us : List Proxy.Operation) (last : Proxy.Operation) : Prop
  | waits (busy : proxy.busy = true)
    (late :
      (Activity.each (Activity.operate p) (us ++ [last] ++ [.resolve])).perform H (bound + 1) w =
        .error (.reentered p))
    (prompt : (Activity.each (Activity.operate p) [.stop, .resolve, last]).perform H (bound + 1) w =
      .error (.reentered p))
  | stuck {halt : Halt} {u : World σ} (recorded : Recorded H bound w p proxy us last u)
    (hindered : Hindered H bound p u (Inside H (bound + 1) (.operate p .resolve) u) halt)
    (late :
      (Activity.each (Activity.operate p) (us ++ [last] ++ [.resolve])).perform H (bound + 1) w =
        .error halt)
    (prompt : (Activity.each (Activity.operate p) [.stop, .resolve, last]).perform H (bound + 1) w =
      .error halt)
  | returned (news news' : List Event) {deferred found final : Except ProxyError Unit}
    {u v : World σ} (recorded : Recorded H bound w p proxy us last u)
    (late :
      (Activity.each (Activity.operate p) (us ++ [last] ++ [.resolve])).perform H (bound + 1) w =
        .ok ((us ++ [last]).map (fun _ => .ok ()) ++ [deferred], v))
    (prompt : (Activity.each (Activity.operate p) [.stop, .resolve, last]).perform H (bound + 1) w =
      .ok ([.ok (), found, final], { v with journal := news' ++ w.journal }))
    (happened : v.journal = news ++ w.journal)
    (same : news.filter (!·.brackets p) = news'.filter (!·.brackets p))
    (results : (∃ e, found = .error (.notFound e) ∧ deferred = found ∧ final = .ok ()) ∨
      found = .ok () ∧ deferred = final)

/-- The last of several requests is the latest. -/
private lemma latest_append {requested : Bool} {us : List Proxy.Operation} :
    latest requested (us ++ [last]) = last.requests := by
  rw [latest, List.foldl_append]
  rfl

/-- Who calls a busy proxy waits for it, whatever comes after the call. -/
private lemma run_each_busy {us : List Proxy.Operation} (known : w.proxy? p = some proxy)
    (busy : proxy.busy = true) :
    (Activity.each (Activity.operate p) (operation :: us)).perform H (bound + 1) w =
      .error (.reentered p) := by
  have first : operate (perform H bound) H p operation w = .error (.reentered p) := by
    rw [operate, known]
    exact if_pos busy
  rw [Activity.perform, Activity.run_each_cons, run_operate, first]

/-- If the resolutions that come after the requests and after the stop are alike, then both ways
come to the same.

**Proof sketch.** By cases on how the two resolutions are alike. What comes before them is known and
returns, so that each way as a whole comes to what its last part comes to. -/
private lemma replays_of_alike {us : List Proxy.Operation} {news stopping : List Event}
    (known : w.proxy? p = some proxy) (told : ∀ e ∈ news, e.brackets p = true)
    (told' : ∀ e ∈ stopping, e.brackets p = true)
    (requests : (Activity.each (Activity.operate p) (us ++ [last])).perform H (bound + 1) w =
      .ok ((us ++ [last]).map fun _ => .ok (), w.disguised p
        { proxy with state := .waiting last.requests } (news ++ w.journal)))
    (stop : operate (perform H bound) H p .stop w = .ok (.ok (), w.disguised p
      { proxy with state := .waiting false } (stopping ++ w.journal)))
    (alike : Alike H bound p last
      (w.disguised p { proxy with state := .waiting last.requests } (news ++ w.journal))
      (w.disguised p { proxy with state := .waiting false } (stopping ++ w.journal))) :
    Replays H bound w p proxy us last := by
  have recorded := (⟨⟨news, told, rfl⟩, requests⟩ : Recorded H bound w p proxy us last _)
  cases alike with
  | @stuck halt once twice =>
    have late : (Activity.each (Activity.operate p) (us ++ [last] ++ [.resolve])).perform H
        (bound + 1) w = .error halt := by
      rw [Activity.perform, Activity.run_each_append requests, Activity.run_each_cons, run_operate,
        once]
    have prompt : (Activity.each (Activity.operate p) [.stop, .resolve, last]).perform H
        (bound + 1) w = .error halt := by
      rw [Activity.perform, Activity.run_each_cons, run_operate, stop]
      dsimp only
      rw [twice]
    exact .stuck recorded (operate_halts (proxy?_disguised_self known) once) late prompt
  | @returned later later' deferred found final v once twice happened same results =>
    have happened' : v.journal = (later ++ news) ++ w.journal := by
      rw [List.append_assoc]
      exact happened
    have late : (Activity.each (Activity.operate p) (us ++ [last] ++ [.resolve])).perform H
        (bound + 1) w = .ok ((us ++ [last]).map (fun _ => .ok ()) ++ [deferred], v) := by
      rw [Activity.perform, Activity.run_each_append requests, Activity.run_each_cons, run_operate,
        once]
      rfl
    have prompt : (Activity.each (Activity.operate p) [.stop, .resolve, last]).perform H
        (bound + 1) w = .ok ([.ok (), found, final],
          { v with journal := later' ++ stopping ++ w.journal }) := by
      rw [Activity.perform, Activity.run_each_cons, run_operate, stop]
      dsimp only
      rw [twice, List.append_assoc]
      rfl
    have silent : news.filter (!·.brackets p) = [] := by simpa using told
    have silent' : stopping.filter (!·.brackets p) = [] := by simpa using told'
    exact .returned _ _ recorded late prompt happened' (by simp [silent, silent', same]) results

/-- **What is deferred is replayed as the last request.** Requests for a proxy whose type is unknown
are recorded. If it is resolved then, this comes to the same as if nothing had been requested before
and the last request had come after the resolution: the same calls are made in the same order, the
same failure is reported, and the same world is left.

**Proof sketch.** The requests leave the proxy waiting for the last of them, and the stop leaves it
waiting for none. In these two worlds the resolutions make the same call first, and the answer
decides what is left. -/
theorem deferred_replayed (reachable : Reachable H w) (known : w.proxy? p = some proxy)
    (unresolved : proxy.state.type = none) {us : List Proxy.Operation}
    (early : ∀ o ∈ us ++ [last], o ≠ .resolve) (bound : Nat) :
    Replays H bound w p proxy us last := by
  cases idle : proxy.busy with
  | true =>
    refine .waits idle ?_ (run_each_busy known idle)
    cases us with
    | nil => exact run_each_busy known idle
    | cons o us => exact run_each_busy known idle
  | false =>
    have waiting : proxy.state = .waiting proxy.state.startRequested :=
      (reachable.run known).sound.eq_waiting unresolved
    have hlast : last ≠ .resolve := early last (by simp)
    obtain ⟨news, told, requests⟩ := run_requests H bound known idle waiting early
    rw [latest_append] at requests
    have stop : operate (perform H bound) H p .stop w = .ok (.ok (), w.disguised p
        { proxy with state := .waiting false }
        ([.ended p .stop (.ok ()), .began p .stop] ++ w.journal)) :=
      operate_request known idle waiting (by simp)
    exact replays_of_alike known told (by simp) requests stop (alike_resolve known idle hlast)

/-! ## A start that is deferred -/

/-- A host whose components register another name when they start, and do not start. -/
def hesitant : Host Nat where
  __ := Host.counting (fun _ => .ok ()) fun _ => pure ()
  start _ := do
    let _ ← Activity.obtain ⟨0⟩ "other"
    pure (.error (.ofMessage "not yet"))

/-- A client who has registered a component. -/
def newcomer : Activity Nat ProxyId := do
  let r ← Activity.establish (.custom 0) (.custom 0)
  Activity.obtain r "a"

/-- The resolution makes the attempt that the last start asked for, and reports its failure. -/
theorem deferred_replayed_hesitant : ∃ w proxy, Reachable hesitant w ∧
    w.proxy? ⟨0⟩ = some proxy ∧ proxy.state.type = none ∧
    (∀ o ∈ [.start, .stop] ++ [Proxy.Operation.start], o ≠ .resolve) ∧
    (∃ v, (Activity.each (Activity.operate ⟨0⟩) [.start, .stop, .start, .resolve]).perform
        hesitant 3 w =
      .ok ([.ok (), .ok (), .ok (), .error (.start "a" (.ofMessage "not yet"))], v) ∧
      v.members ⟨0⟩ = [⟨0⟩, ⟨1⟩]) ∧
    Replays hesitant 2 w ⟨0⟩ proxy [.start, .stop] .start := by
  obtain ⟨w, ready, proxy, known, unresolved, fails⟩ :
      ∃ w, newcomer.perform hesitant 1 { host := 0 } = .ok (⟨0⟩, w) ∧
        ∃ proxy, w.proxy? ⟨0⟩ = some proxy ∧ proxy.state.type = none ∧
        ∃ v, (Activity.each (Activity.operate ⟨0⟩) [.start, .stop, .start, .resolve]).perform
            hesitant 3 w =
          .ok ([.ok (), .ok (), .ok (), .error (.start "a" (.ofMessage "not yet"))], v) ∧
          v.members ⟨0⟩ = [⟨0⟩, ⟨1⟩] := by
    refine ⟨_, rfl, _, rfl, rfl, _, rfl, rfl⟩
  have reachable : Reachable hesitant w := .of_run ready
  have early : ∀ o ∈ [.start, .stop] ++ [Proxy.Operation.start], o ≠ .resolve := by decide
  exact ⟨w, proxy, reachable, known, unresolved, early, fails,
    deferred_replayed reachable known unresolved early 2⟩

end World

end Standby
