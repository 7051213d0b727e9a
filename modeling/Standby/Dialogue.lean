set_option autoImplicit false

/-!
# Dialogues

A dialogue is a computation that asks questions and goes on with the answers. It says what is asked,
in which order and what follows from each answer, and nothing about who answers.

## Main definitions

* `Standby.Dialogue` — a computation over questions `Q` with answers `A`.
* `Standby.Dialogue.Path` — a dialogue, the exchange that one sequence of answers leads to, and
  its result.
-/

namespace Standby

/-- A computation that asks questions of `Q`, each answered in `A`, and ends in an `α`. -/
inductive Dialogue (Q : Type) (A : Q → Type) (α : Type) where
  | done (a : α)
  | ask (q : Q) (next : A q → Dialogue Q A α)

namespace Dialogue

variable {Q : Type} {A : Q → Type} {α β : Type}

/-- Asks one question and ends in its answer. -/
def query (q : Q) : Dialogue Q A (A q) := ask q done

/-- Goes on with the result of a dialogue. -/
def bind : Dialogue Q A α → (α → Dialogue Q A β) → Dialogue Q A β
  | done a, f => f a
  | ask q next, f => ask q (fun answer => (next answer).bind f)

/-- Dialogues are put together one after the other, so that what is asked later may depend on
earlier answers. -/
instance : Monad (Dialogue Q A) where
  pure := done
  bind := bind

/-! ## Paths -/

/-- A question together with its answer. -/
abbrev Exchange (Q : Type) (A : Q → Type) := (q : Q) × A q

/-- `Path d es a`: given the answers of `es`, the dialogue `d` asks the questions of `es`, all of
them and in order, and ends in `a`. -/
inductive Path : Dialogue Q A α → List (Exchange Q A) → α → Prop
  | done (a : α) : Path (done a) [] a
  | ask (q : Q) (next : A q → Dialogue Q A α) (answer : A q) (es : List (Exchange Q A)) (a : α) :
    Path (next answer) es a → Path (ask q next) (⟨q, answer⟩ :: es) a

end Dialogue

end Standby
