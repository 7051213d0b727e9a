import Mathlib.Tactic.Lemma
import Standby.Dialogue
set_option autoImplicit false

/-!
# Dialogues that are under way

A path leads through a whole dialogue. While a dialogue is under way only some of its questions are
answered, and what is left of it is a dialogue again.

## Main definitions

* `Standby.Dialogue.Reaches` — what a sequence of answers leaves of a dialogue.

## Main results

* `Standby.Dialogue.Path.agrees_or_parts` — where two ways through a dialogue part.
* `Standby.Dialogue.path_iff_reaches` — a path is what reaches an end.
* `Standby.Dialogue.Reaches.path` — an exchange and a path through what it leaves make a path.
* `Standby.Dialogue.exists_path` — every dialogue has a path with the answers of one's choice.
-/

namespace Standby.Dialogue

variable {Q : Type} {A : Q → Type} {α : Type}

/-! ## Paths, constructor by constructor -/

/-- A dialogue that is over has the empty path. -/
@[simp] lemma path_done {a b : α} {es : List (Exchange Q A)} :
    Path (done a : Dialogue Q A α) es b ↔ es = [] ∧ b = a := by
  constructor
  · intro h
    cases h
    exact ⟨rfl, rfl⟩
  · rintro ⟨rfl, rfl⟩
    exact .done b

/-- A path through a question starts with the question and one of its answers. -/
@[simp] lemma path_ask {q : Q} {next : A q → Dialogue Q A α} {es : List (Exchange Q A)} {a : α} :
    Path (ask q next) es a ↔
      ∃ answer rest, es = ⟨q, answer⟩ :: rest ∧ Path (next answer) rest a := by
  constructor
  · intro h
    cases h with
    | ask _ _ answer rest _ h => exact ⟨answer, rest, rfl, h⟩
  · rintro ⟨answer, rest, rfl, h⟩
    exact .ask q next answer rest a h

/-- A dialogue has one end for given answers. -/
lemma Path.unique {d : Dialogue Q A α} {es : List (Exchange Q A)} {a b : α} (h : Path d es a)
    (h' : Path d es b) : a = b := by
  induction h with
  | done a => exact (path_done.1 h').2.symm
  | ask q next answer es a _ ih =>
    obtain ⟨answer', rest, heq, h'⟩ := path_ask.1 h'
    obtain ⟨⟨⟩, rfl⟩ := List.cons.inj heq
    exact ih h'

/-- Two ways through a dialogue are the same, or they part at a question that is answered in
different ways.

**Proof sketch.** Induction on the first way. As long as the answers are the same both ways go
through the same dialogue, so they ask the same next question. -/
theorem Path.agrees_or_parts {d : Dialogue Q A α} {es es' : List (Exchange Q A)} {a b : α}
    (h : Path d es a) (h' : Path d es' b) :
    es = es' ∧ a = b ∨ ∃ before q x y rest rest', x ≠ y ∧
      es = before ++ ⟨q, x⟩ :: rest ∧ es' = before ++ ⟨q, y⟩ :: rest' := by
  induction h generalizing es' with
  | done a =>
    obtain ⟨rfl, rfl⟩ := path_done.1 h'
    exact .inl ⟨rfl, rfl⟩
  | ask q next answer es a _ ih =>
    obtain ⟨answer', rest, rfl, left⟩ := path_ask.1 h'
    by_cases same : answer = answer'
    · subst same
      rcases ih left with ⟨rfl, rfl⟩ | ⟨before, q', x, y, es, rest, differ, rfl, rfl⟩
      · exact .inl ⟨rfl, rfl⟩
      · exact .inr ⟨⟨q, answer⟩ :: before, q', x, y, es, rest, differ, rfl, rfl⟩
    · exact .inr ⟨[], q, answer, answer', es, rest, same, rfl, rfl⟩

/-! ## What is left of a dialogue -/

/-- `Reaches d es d'`: given the answers of `es`, the dialogue `d` asks the questions of `es`, all
of them and in order, and goes on as `d'`. -/
inductive Reaches : Dialogue Q A α → List (Exchange Q A) → Dialogue Q A α → Prop
  | refl (d : Dialogue Q A α) : Reaches d [] d
  | ask (q : Q) (next : A q → Dialogue Q A α) (answer : A q) (es : List (Exchange Q A))
    (d : Dialogue Q A α) : Reaches (next answer) es d → Reaches (ask q next) (⟨q, answer⟩ :: es) d

namespace Reaches

variable {d d' : Dialogue Q A α} {es es' : List (Exchange Q A)} {a : α}

/-- One more question is asked and answered. -/
lemma snoc {q : Q} {next : A q → Dialogue Q A α} (h : Reaches d es (Dialogue.ask q next))
    (answer : A q) : Reaches d (es ++ [⟨q, answer⟩]) (next answer) := by
  generalize hd' : Dialogue.ask q next = d' at h
  induction h with
  | refl d =>
    subst hd'
    exact .ask q next answer [] _ (.refl _)
  | ask r more answer' es d _ ih => exact .ask r more answer' _ _ (ih hd')

/-- What is left of a dialogue leads to its end by the paths that lead the whole dialogue there. -/
lemma path (h : Reaches d es d') (rest : Path d' es' a) : Path d (es ++ es') a := by
  induction h with
  | refl d => exact rest
  | ask q next answer es d _ ih => exact .ask q next answer _ a (ih rest)

end Reaches

/-- The paths of a dialogue are what reaches one of its ends. -/
theorem path_iff_reaches {d : Dialogue Q A α} {es : List (Exchange Q A)} {a : α} :
    Path d es a ↔ Reaches d es (done a) := by
  constructor
  · intro h
    induction h with
    | done a => exact .refl _
    | ask q next answer es a _ ih => exact .ask q next answer es _ ih
  · intro h
    simpa using h.path (.done a)

/-- A dialogue comes to an end whatever the answers are. Here they are the ones of `choice`. -/
theorem exists_path (choice : (q : Q) → A q) (d : Dialogue Q A α) :
    ∃ es a, Path d es a ∧ ∀ e ∈ es, e.2 = choice e.1 := by
  induction d with
  | done a => exact ⟨[], a, .done a, by simp⟩
  | ask q next ih =>
    obtain ⟨es, a, h, hes⟩ := ih (choice q)
    exact ⟨⟨q, choice q⟩ :: es, a, .ask q next _ es a h, by simpa using hes⟩

end Standby.Dialogue
