import Mathlib.Data.List.Induction
import Mathlib.Tactic.Lemma
import Mathlib.Tactic.Tauto
set_option autoImplicit false

/-!
# The latest of several events

What is in force at the end of a sequence of events: something of one kind happened, and nothing
that would cancel it happened later.

## Main definitions

* `Standby.Since` — an event of one kind, and none of another kind after it.

## Main results

* `Standby.since_snoc` — what one more event changes.
* `Standby.since_append` — what more events change.
-/

namespace Standby

variable {α : Type} {P Q : α → Prop} {events : List α} {e : α}

/-- Some event has `P`, and no event after it has `Q`. -/
def Since (P Q : α → Prop) (events : List α) : Prop :=
  ∃ before e after, events = before ++ e :: after ∧ P e ∧ ∀ f ∈ after, ¬ Q f

/-- What comes in a sequence that is put together comes before the seam, right after it, or later.

**Proof sketch.** Of two ways to split a sequence, one begins with the other. What is left between
the two seams is nothing, or begins with one of the two elements. -/
lemma append_cons_eq_append_cons {xs ys before after : List α} {a b : α}
    (h : xs ++ a :: ys = before ++ b :: after) :
    (∃ rest, xs = before ++ b :: rest ∧ after = rest ++ a :: ys) ∨
      (before = xs ∧ b = a ∧ after = ys) ∨
      ∃ rest, before = xs ++ a :: rest ∧ ys = rest ++ b :: after := by
  rcases List.append_eq_append_iff.1 h with ⟨rest, rfl, h'⟩ | ⟨rest, rfl, h'⟩
  · cases rest with
    | nil =>
      obtain ⟨rfl, rfl⟩ := List.cons.inj h'
      exact .inr (.inl ⟨by simp, rfl, rfl⟩)
    | cons d rest =>
      obtain ⟨rfl, rfl⟩ := List.cons.inj h'
      exact .inr (.inr ⟨rest, rfl, rfl⟩)
  · cases rest with
    | nil =>
      obtain ⟨rfl, rfl⟩ := List.cons.inj h'
      exact .inr (.inl ⟨by simp, rfl, rfl⟩)
    | cons d rest =>
      obtain ⟨rfl, rfl⟩ := List.cons.inj h'
      exact .inl ⟨rest, rfl, rfl⟩

/-- An event of a sequence with one more at its end is that last one or an earlier one. -/
lemma snoc_eq_append_cons {before after : List α} {f : α}
    (h : events ++ [e] = before ++ f :: after) :
    events = before ∧ e = f ∧ after = [] ∨
      ∃ rest, events = before ++ f :: rest ∧ after = rest ++ [e] := by
  rcases append_cons_eq_append_cons h with earlier | ⟨rfl, rfl, rfl⟩ | ⟨rest, -, none⟩
  · exact .inr earlier
  · exact .inl ⟨rfl, rfl, rfl⟩
  · simp at none

/-- Where nothing happened nothing is in force. -/
@[simp] lemma not_since_nil : ¬ Since P Q [] := by
  rintro ⟨before, e, after, h, -⟩
  simp at h

/-- At the end of a sequence something is in force if the last event brings it about, or if it was
in force before and the last event does not cancel it.

**Proof sketch.** The event that brought it about is the last one, or it is an earlier one, and then
the last must not cancel it. -/
theorem since_snoc : Since P Q (events ++ [e]) ↔ P e ∨ Since P Q events ∧ ¬ Q e := by
  constructor
  · rintro ⟨before, f, after, h, hf, hafter⟩
    rcases snoc_eq_append_cons h with ⟨-, rfl, -⟩ | ⟨rest, rfl, rfl⟩
    · exact .inl hf
    · refine .inr ⟨⟨before, f, rest, rfl, hf, fun x hx => ?_⟩, hafter e (by simp)⟩
      exact hafter x (by simp [hx])
  · rintro (he | ⟨⟨before, f, after, rfl, hf, hafter⟩, he⟩)
    · exact ⟨events, e, [], rfl, he, by simp⟩
    · refine ⟨before, f, after ++ [e], by simp, hf, fun x hx => ?_⟩
      rcases List.mem_append.1 hx with hx | hx
      · exact hafter x hx
      · obtain rfl := List.mem_singleton.1 hx
        exact he

/-- What is in force after two sequences of events: what the second brings about, or what the first
brings about and the second does not cancel. -/
theorem since_append {later : List α} :
    Since P Q (events ++ later) ↔ Since P Q later ∨ Since P Q events ∧ ∀ f ∈ later, ¬ Q f := by
  induction later using List.reverseRecOn with
  | nil => simp
  | append_singleton later e ih =>
    rw [← List.append_assoc, since_snoc, since_snoc, ih]
    simp only [List.mem_append, List.mem_singleton, or_imp, forall_and, forall_eq]
    tauto

/-- What is in force after a sequence is in force after its rest, or it was brought about by the
first event and the rest does not cancel it. -/
private lemma since_cons :
    Since P Q (e :: events) ↔ Since P Q events ∨ P e ∧ ∀ f ∈ events, ¬ Q f := by
  have single : Since P Q [e] ↔ P e := by simpa using @since_snoc α P Q [] e
  rw [← List.singleton_append, since_append, single]

/-- One of several things is in force if an event brought one of them about and nothing cancelled
it.
-/
lemma since_exists {β : Type} {P : β → α → Prop} :
    Since (fun e => ∃ b, P b e) Q events ↔ ∃ b, Since (P b) Q events := by
  constructor
  · rintro ⟨before, e, after, hevents, ⟨b, he⟩, hafter⟩
    exact ⟨b, before, e, after, hevents, he, hafter⟩
  · rintro ⟨b, before, e, after, hevents, he, hafter⟩
    exact ⟨before, e, after, hevents, ⟨b, he⟩, hafter⟩

/-- What is in force can be computed. -/
instance decidableSince [DecidablePred P] [DecidablePred Q] :
    (events : List α) → Decidable (Since P Q events)
  | [] => .isFalse not_since_nil
  | e :: events =>
    have := decidableSince events
    decidable_of_iff (Since P Q events ∨ P e ∧ ∀ f ∈ events, ¬ Q f) since_cons.symm

end Standby
