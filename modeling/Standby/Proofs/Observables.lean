import Standby.Proofs.Proxy.Phase
import Standby.Proofs.World.Coherence
set_option autoImplicit false

/-!
# What observers see of a proxy

What holds of the state of a proxy, for every order of operations and whatever the collaborators do.
Operations on one proxy wait for each other, so its state is a matter of the operations that came to
an end, one after the other. This is said twice: of a new proxy and any sequence of turns, with
answers from anywhere, and of the proxies of a world that a run goes through, with the turns that
are written down there.

## Main results

* `Standby.proxy_state_sound` — which combinations of fields occur.
* `Standby.proxy_state_explained` — the fields say what the history of the proxy says.
-/

namespace Standby

open Proxy

/-- A host whose components fail to start. -/
def failing : Host Nat := .counting (fun _ => .error (.ofMessage "no")) fun _ => pure ()

/-- A client that requests a component to run before its type is known. -/
def early : Activity Nat Unit := do
  let r ← Activity.establish (.custom 0) (.custom 0)
  let p ← Activity.obtain r "a"
  let _ ← Activity.operate p .start
  let _ ← Activity.operate p .resolve

/-- The resolution makes the attempt, and keeps its failure and the product. -/
private lemma early_failing : ∃ w proxy, World.Reachable failing w ∧ w.proxy? ⟨0⟩ = some proxy ∧
    proxy.state.product = some ⟨0⟩ ∧
    proxy.state.lastError = some (.start "a" (.ofMessage "no")) ∧
    (w.chronicle ⟨0⟩).turns.map Turn.operation = [.start, .resolve] := by
  obtain ⟨w, proxy, ended, known, fields⟩ : ∃ w proxy,
      early.perform failing 1 { host := 0 } = .ok ((), w) ∧ w.proxy? ⟨0⟩ = some proxy ∧
      proxy.state.product = some ⟨0⟩ ∧
      proxy.state.lastError = some (.start "a" (.ofMessage "no")) ∧
      (w.chronicle ⟨0⟩).turns.map Turn.operation = [.start, .resolve] := by
    refine ⟨_, _, rfl, rfl, rfl, rfl, rfl⟩
  exact ⟨w, proxy, .of_run ended, known, fields⟩

/-- **The phases of a proxy.** The state of a proxy is sound after any sequence of turns, and at
every moment of every run. An operation that is under way has not changed it yet. -/
theorem proxy_state_sound :
    (∀ {name : String} {h : List Turn} {s : State}, Run name h s → s.Sound name) ∧
      ∀ {σ : Type} {H : Host σ} {w : World σ} {p : ProxyId} {proxy : Proxy},
        World.Reachable H w → w.proxy? p = some proxy → proxy.state.Sound proxy.name :=
  ⟨Run.sound, fun reachable known => (reachable.run known).sound⟩

/-- The product whose start failed is held, and its failure is kept. -/
theorem proxy_state_sound_failing : ∃ w proxy, World.Reachable failing w ∧
    w.proxy? ⟨0⟩ = some proxy ∧ proxy.state.product.isSome ∧ proxy.state.lastError.isSome ∧
    proxy.state.Sound proxy.name := by
  obtain ⟨w, proxy, reached, known, held, kept, -⟩ := early_failing
  exact ⟨w, proxy, reached, known, by rw [held]; rfl, by rw [kept]; rfl,
    proxy_state_sound.2 reached known⟩

/-- **What the history says.** The fields of a proxy's state, the turns in which attempts were made
and the lasting type are determined by the turns, after any sequence of them and at every moment of
every run. -/
theorem proxy_state_explained :
    (∀ {name : String} {h : List Turn} {s : State}, Run name h s → Explained h s) ∧
      ∀ {σ : Type} {H : Host σ} {w : World σ} {p : ProxyId} {proxy : Proxy},
        World.Reachable H w → w.proxy? p = some proxy →
          Explained (w.chronicle p).turns proxy.state :=
  ⟨Run.explained, fun reachable known => (reachable.run known).explained⟩

/-- The start that came too early is requested still, and the attempt is the resolution's. -/
theorem proxy_state_explained_failing : ∃ w proxy, World.Reachable failing w ∧
    w.proxy? ⟨0⟩ = some proxy ∧
    (w.chronicle ⟨0⟩).turns.map Turn.operation = [.start, .resolve] ∧
    Explained (w.chronicle ⟨0⟩).turns proxy.state := by
  obtain ⟨w, proxy, reached, known, -, -, turns⟩ := early_failing
  exact ⟨w, proxy, reached, known, turns, proxy_state_explained.2 reached known⟩

end Standby
