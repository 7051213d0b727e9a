import Standby.World.Host
set_option autoImplicit false

/-!
# Carrying out calls

What a call of the library does to the world. Operations on proxies and sweeps run code of the
collaborators, which may call the library again.

## Main definitions

* `Standby.World.converse` — a proxy's dialogue, each request answered by the host.
* `Standby.World.operate` — an operation on a proxy, from the state it finds to the state it leaves.
* `Standby.World.sweep` — the stops of one pass of a reset.
* `Standby.World.perform` — any call, with a bound on nested operations and passes.

## Design

An operation reads the state of its proxy once, at its beginning, and writes it once, at its end. In
between the proxy is busy, and an operation or an observation called on it waits for itself forever;
the run ends with `Halt.reentered` then. Every other call works on the world as it is meanwhile.

Collaborators may call operations whose collaborators call operations, and a collaborator may
register new names whenever a reset stops it. Neither has a bound known in advance, so `perform`
is given one: it is used up by an operation or a construction called from within another and by a
pass of a reset. What comes out does not depend on the bound as long as it is large enough.
-/

namespace Standby.World

variable {σ : Type}

/-- Carries out a dialogue of the proxy `p`: the host answers each request, as an activity. -/
def converse {α : Type} (perform : Activity.Performance σ) (H : Host σ) (p : ProxyId)
    (resolver : Resolver) (factory : Factory) : Talk α → World σ → Except Halt (α × World σ)
  | .done a, w => .ok (a, w)
  | .ask q next, w =>
    match (H.serve resolver factory q).run perform (w.record (.asked p q)) with
    | .error h => .error h
    | .ok (answer, w) =>
      converse perform H p resolver factory (next answer) (w.record (.answered p ⟨q, answer⟩))

/-- Carries out an operation on a proxy. The proxy is busy until it ends. -/
def operate (perform : Activity.Performance σ) (H : Host σ) (p : ProxyId)
    (operation : Proxy.Operation) (w : World σ) : Except Halt (Except ProxyError Unit × World σ) :=
  match w.proxy? p with
  | none => .error .dangling
  | some proxy =>
    if proxy.busy then
      .error (.reentered p)
    else
      let begun := (w.setProxy p { proxy with busy := true }).record (.began p operation)
      match converse perform H p proxy.resolver proxy.factory
          (operation.talk proxy.name proxy.state) begun with
      | .error h => .error h
      | .ok ((result, state), w) =>
        .ok (result, (w.setProxy p { proxy with state }).record (.ended p operation result))

/-- Stops each of the proxies once, in order, on behalf of a sweep of the registry `r`. What their
stops report is dropped. -/
def sweep (perform : Activity.Performance σ) (H : Host σ) (r : RegistryId) :
    List ProxyId → World σ → Except Halt (World σ)
  | [], w => .ok w
  | p :: rest, w =>
    match operate perform H p .stop (w.record (.swept r p)) with
    | .error h => .error h
    | .ok (_, w) => sweep perform H r rest w

/-- What an observer may read of a proxy: everything, unless an operation is in progress on it. -/
def observe (w : World σ) (p : ProxyId) : Except Halt (Proxy.State × World σ) :=
  match w.proxy? p with
  | none => .error .dangling
  | some proxy => if proxy.busy then .error (.reentered p) else .ok (proxy.state, w)

/-- Carries out a call, where `bound` limits nested operations and passes of a reset. A reset sweeps
until no entry is left: each pass stops the proxies that are registered at its beginning, in order,
and then removes the entries of exactly these. -/
def perform (H : Host σ) : Nat → Activity.Performance σ
  | _, .establish resolver factory, w => .ok (w.establish resolver factory)
  | _, .obtain r name, w => w.obtain r name
  | _, .entries r, w =>
    match w.registry? r with
    | none => .error .dangling
    | some registry => .ok (registry.entries, w)
  | 0, .operate _ _, _ => .error .exhausted
  | bound + 1, .operate p operation, w => operate (perform H bound) H p operation w
  | _, .nameOf p, w =>
    match w.proxy? p with
    | none => .error .dangling
    | some proxy => .ok (proxy.name, w)
  | _, .observe p, w => w.observe p
  | 0, .reset _, _ => .error .exhausted
  | bound + 1, .reset r, w =>
    match w.registry? r with
    | none => .error .dangling
    | some registry =>
      if registry.entries.isEmpty then
        .ok ((), w)
      else
        match sweep (perform H bound) H r registry.proxies w with
        | .error h => .error h
        | .ok w => perform H bound (.reset r) (w.remove r registry.proxies)
  | _, .install r, w => .ok (w.install r)
  | _, .installed, w => .ok (w.installed, w)
  | 0, .construct _, _ => .error .exhausted
  | bound + 1, .construct type, w => (H.construct type.value.constructor).run (perform H bound) w
  | _, .enter c, w =>
    let (guard, context) := Context.enter w.context c
    .ok (guard, { w with context })
  | _, .leave g, w => .ok ((), { w with context := g.release })
  | _, .current, w => .ok (w.context, w)

end Standby.World

/-- Carries out an activity in a world, where the host answers for the collaborators. -/
def Standby.Activity.perform {σ α : Type} (a : Standby.Activity σ α) (H : Standby.Host σ)
    (bound : Nat) (w : Standby.World σ) : Except Standby.Halt (α × Standby.World σ) :=
  a.run (Standby.World.perform H bound) w
