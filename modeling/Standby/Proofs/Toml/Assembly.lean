import Standby.Proofs.Toml.Written
import Standby.Toml.Document
set_option autoImplicit false

/-!
# Reading tokens that were put together

What values, keys and lines are read from tokens that stand next to each other as a document wants
them: items with commas between them, keys with their values, one line after the other.

## Main definitions

* `Standby.Toml.Reads` — tokens are read as a result, if an item or a line is over after them.
* `Standby.Toml.ReadsLines` — tokens are read as lines, whatever the next line is.

## Main results

* `Standby.Toml.items?_intercalate` — items with commas between them are read one by one.
* `Standby.Toml.reads_array`, `Standby.Toml.reads_table` — so are arrays, and tables in braces.
* `Standby.Toml.ReadsLines.all` — the lines of a document.

## Design

The reader of a scalar looks at what follows it, and the reader of lines at how many there may be.
Both notions say for which continuations the result is the one that is meant, and so can be put
together without looking at the readers again.
-/

namespace Standby.Toml

open Token

/-! ## Values -/

section Reading

variable {α β : Type}

/-- The tokens after which an item, a bracket or a line is over. -/
def Token.endsItem : Token → Bool
  | .comma | .closeBracket | .closeBrace | .newline => true
  | _ => false

/-- Tokens are neither a gap nor the end of a line. -/
def Token.isInk : Token → Bool
  | .gap _ | .newline => false
  | _ => true

/-- The tokens that end a list of items. -/
def Token.isClosing : Token → Bool
  | .closeBracket | .closeBrace => true
  | _ => false

/-- Tokens are read as a result if something is over after them. -/
def Reads (item? : List Token → Option (α × List Token)) (ts : List Token) (a : α) : Prop :=
  ∀ stop rest, stop.endsItem → item? (ts ++ stop :: rest) = some (a, stop :: rest)

/-- What is left out is at most a gap or line ends, and nothing else. -/
def Skips (skip : List Token → List Token) : Prop :=
  ∀ t rest, t.isInk → skip (t :: rest) = t :: rest ∧
    ∀ text, skip (.gap text :: t :: rest) = t :: rest

/-- One may leave out gaps. -/
private lemma skips_skipGap : Skips skipGap := by
  intro t rest ink
  cases t <;> first | exact ⟨rfl, fun _ => rfl⟩ | cases ink

/-- One may leave out gaps and line ends. -/
lemma skips_skipBlank : Skips skipBlank := by
  intro t rest ink
  cases t <;> first | exact ⟨rfl, fun _ => rfl⟩ | cases ink

/-- A string is read as a text. -/
lemma reads_text (depth : Nat) (s : String) :
    Reads (valueWithin? depth) [.quoted false s] (.text s) := by
  intro stop rest _
  simp [valueWithin?]

/-- The scalar before a stop is a single run. -/
private lemma scalar?_bare {cs : List Char} {v : Value} (h : Scalar.value? cs = some v) :
    Reads scalar? [.bare cs] v := by
  intro stop rest stops
  have ends : scalarText (stop :: rest) = ([], stop :: rest) := by
    cases stop <;> first | rfl | cases stops
  simp [scalar?, scalarText, ends, h]

/-- A run that is a scalar is read as this. -/
lemma reads_bare (depth : Nat) {cs : List Char} {v : Value} (h : Scalar.value? cs = some v) :
    Reads (valueWithin? depth) [.bare cs] v := by
  intro stop rest ends
  cases depth <;> exact scalar?_bare h stop rest ends

/-- The tokens of a key without quotes and of its value. -/
def assignmentTokens (key : String) (value : List Token) : List Token :=
  [.bare key.toList, .gap [' '], .equals, .gap [' ']] ++ value

/-- A key and its value are read as such.

**Proof sketch.** The key is one bare token, so it is read up to the sign of equality. What follows
is a gap, and then the value, which reads its tokens up to the end. -/
lemma reads_assignment {skip : List Token → List Token} (skips : Skips skip) {key : String}
    (plain : key.toList.all isKeyChar) {t : Token} (ink : t.isInk) {ts : List Token} {v : Value}
    {value? : List Token → Option (Value × List Token)} (h : Reads value? (t :: ts) v) :
    Reads (assignmentWith? skip value?) (assignmentTokens key (t :: ts)) ([key], v) := by
  intro stop rest ends
  have named : key? (assignmentTokens key (t :: ts) ++ stop :: rest) =
      some ([key], .equals :: .gap [' '] :: t :: (ts ++ stop :: rest)) := by
    simp [assignmentTokens, key?, depthLimit, keyUpTo?, skipGap, keyPart?, plain]
  have value := h stop rest ends
  rw [List.cons_append] at value
  have equals := (skips .equals (.gap [' '] :: t :: (ts ++ stop :: rest)) rfl).1
  have after := (skips t (ts ++ stop :: rest) ink).2 [' ']
  simp only [assignmentWith?, named, equals, after, value, Option.map_some]

/-- The tokens of items with commas between them, between an opening and a closing token. -/
def enclosedTokens (opening closing : Token) (items : List (List Token)) : List Token :=
  opening :: [Token.comma, .gap [' ']].intercalate items ++ [closing]

/-- Gaps before an item do not matter. -/
private lemma itemsUpTo?_gap (item? : List Token → Option (β × List Token)) (close : Token)
    (bound : Nat) (text : List Char) (ts : List Token) :
    itemsUpTo? item? close bound (.gap text :: ts) = itemsUpTo? item? close bound ts := by
  cases bound <;> rfl

variable {item? : List Token → Option (β × List Token)} {close t : Token} {ts : List Token} {b : β}

/-- A token that ends a list of items ends an item, is nothing to be left out, and is not a
comma. -/
private lemma closing_cases (closing : close.isClosing) :
    close.endsItem ∧ close.isInk ∧ close ≠ .comma := by
  cases close <;> simp_all [isClosing, endsItem, isInk]

/-- An item before the closing token is the last one.

**Proof sketch.** The item does not begin with the closing token, so it is read, and what comes
after it is this token. -/
private lemma itemsUpTo?_last (h : Reads item? (t :: ts) b) (ink : t.isInk)
    (noClose : t.isClosing = false) (closing : close.isClosing) (bound : Nat) (rest : List Token) :
    itemsUpTo? item? close (bound + 1) (t :: ts ++ close :: rest) = some ([b], rest) := by
  have other : t ≠ close := by
    rintro rfl
    exact absurd closing (by simp [noClose])
  obtain ⟨ends, inkClose, noComma⟩ := closing_cases closing
  have read := h close rest ends
  have before := (skips_skipBlank t (ts ++ close :: rest) ink).1
  have after := (skips_skipBlank close rest inkClose).1
  rw [List.cons_append] at read ⊢
  simp only [itemsUpTo?, before, if_neg other, read, after, if_true]

/-- An item with a comma after it is followed by the others. -/
private lemma itemsUpTo?_comma (h : Reads item? (t :: ts) b) (ink : t.isInk)
    (noClose : t.isClosing = false) (closing : close.isClosing) (bound : Nat) (rest : List Token) :
    itemsUpTo? item? close (bound + 1) (t :: ts ++ .comma :: rest) =
      (itemsUpTo? item? close bound rest).map fun read => (b :: read.1, read.2) := by
  have other : t ≠ close := by
    rintro rfl
    exact absurd closing (by simp [noClose])
  have read := h .comma rest rfl
  have before := (skips_skipBlank t (ts ++ .comma :: rest) ink).1
  rw [List.cons_append] at read ⊢
  simp only [itemsUpTo?, before, if_neg other, read, skipBlank]

/-- Items with commas between them are read one by one, up to the closing token.

**Proof sketch.** Induction on the items. An item with others behind it is followed by a comma, and
the last one by the closing token. -/
private lemma itemsUpTo?_intercalate {tokens : α → List Token} {result : α → β} {items : List α}
    (each : ∀ a ∈ items, Reads item? (tokens a) (result a))
    (begins : ∀ a ∈ items, ∃ t ts, tokens a = t :: ts ∧ t.isInk ∧ t.isClosing = false)
    (closing : close.isClosing) {bound : Nat} (enough : items.length < bound) (rest : List Token) :
    itemsUpTo? item? close bound
        ([Token.comma, .gap [' ']].intercalate (items.map tokens) ++ close :: rest) =
      some (items.map result, rest) := by
  obtain ⟨bound, rfl⟩ := Nat.exists_eq_add_one_of_ne_zero (Nat.ne_zero_of_lt enough)
  induction items generalizing bound with
  | nil =>
    obtain ⟨-, ink, -⟩ := closing_cases closing
    simp [itemsUpTo?, (skips_skipBlank close rest ink).1]
  | cons a items ih =>
    obtain ⟨here, later⟩ := List.forall_mem_cons.mp each
    obtain ⟨⟨t, ts, first, ink, noClose⟩, begins⟩ := List.forall_mem_cons.mp begins
    rw [first] at here
    cases items with
    | nil => simpa [first] using itemsUpTo?_last here ink noClose closing bound rest
    | cons b items =>
      have more : (b :: items).length < bound := Nat.lt_of_succ_lt_succ enough
      obtain ⟨bound, rfl⟩ := Nat.exists_eq_add_one_of_ne_zero (Nat.ne_zero_of_lt more)
      have others := ih later begins bound more
      have split : [Token.comma, .gap [' ']].intercalate ((a :: b :: items).map tokens) ++
          close :: rest = t :: ts ++ .comma :: .gap [' '] ::
            ([Token.comma, .gap [' ']].intercalate ((b :: items).map tokens) ++ close :: rest) := by
        simp [List.intercalate_cons_cons, first]
      rw [split, itemsUpTo?_comma here ink noClose closing, itemsUpTo?_gap, others]
      rfl

/-- There are enough tokens for the items between them. -/
private lemma length_le_intercalate (items : List (List Token)) :
    items.length ≤ ([Token.comma, .gap [' ']].intercalate items).length + 1 := by
  induction items with
  | nil => simp
  | cons a items ih =>
    cases items with
    | nil => simp
    | cons b items =>
      rw [List.intercalate_cons_cons]
      simp only [List.length_append, List.length_cons] at ih ⊢
      omega

/-- Items with commas between them are read one by one, up to the closing token. -/
lemma items?_intercalate {tokens : α → List Token} {result : α → β} {items : List α}
    (each : ∀ a ∈ items, Reads item? (tokens a) (result a))
    (begins : ∀ a ∈ items, ∃ t ts, tokens a = t :: ts ∧ t.isInk ∧ t.isClosing = false)
    (closing : close.isClosing) (rest : List Token) :
    items? item? close
        ([Token.comma, .gap [' ']].intercalate (items.map tokens) ++ close :: rest) =
      some (items.map result, rest) := by
  have enough := length_le_intercalate (items.map tokens)
  refine itemsUpTo?_intercalate each begins closing ?_ rest
  simp only [List.length_map, List.length_append, List.length_cons] at enough ⊢
  omega

/-- Values with commas between them in brackets are read as an array. -/
lemma reads_array {depth : Nat} {tokens : α → List Token} {value : α → Value} {items : List α}
    (each : ∀ a ∈ items, Reads (valueWithin? depth) (tokens a) (value a))
    (begins : ∀ a ∈ items, ∃ t ts, tokens a = t :: ts ∧ t.isInk ∧ t.isClosing = false) :
    Reads (valueWithin? (depth + 1)) (enclosedTokens .openBracket .closeBracket (items.map tokens))
      (.array (items.map value)) := by
  intro stop rest _
  have inside :=
    items?_intercalate each begins (show isClosing .closeBracket from rfl) (stop :: rest)
  simp [enclosedTokens, valueWithin?, inside]

/-- Keys with commas between them in braces are read as a table. -/
lemma reads_table {depth : Nat} {tokens : α → List Token} {assignment : α → Assignment}
    {items : List α}
    (each : ∀ a ∈ items,
      Reads (assignmentWith? skipBlank (valueWithin? depth)) (tokens a) (assignment a))
    (begins : ∀ a ∈ items, ∃ t ts, tokens a = t :: ts ∧ t.isInk ∧ t.isClosing = false)
    {entries : Entries} (table : ofAssignments? (items.map assignment) = some entries) :
    Reads (valueWithin? (depth + 1))
      (enclosedTokens .openBrace .closeBrace (items.map tokens)) (.table entries) := by
  intro stop rest _
  have inside := items?_intercalate each begins (show isClosing .closeBrace from rfl) (stop :: rest)
  simp [enclosedTokens, valueWithin?, inside, table]

end Reading

/-! ## Lines -/

/-- Tokens are read as lines, whatever the next line is. -/
structure ReadsLines (ts : List Token) (lines : List Line) : Prop where
  /-- Each line has a token. -/
  enough : lines.length ≤ ts.length
  read : ∀ bound rest,
    linesUpTo? (bound + lines.length) (ts ++ rest) = (linesUpTo? bound rest).map (lines ++ ·)

/-- No tokens, no lines. -/
private lemma ReadsLines.nil : ReadsLines [] [] := ⟨Nat.le_refl _, fun bound rest => by simp⟩

/-- Lines may follow each other. -/
lemma ReadsLines.append {ts ts' : List Token} {lines lines' : List Line}
    (first : ReadsLines ts lines) (second : ReadsLines ts' lines') :
    ReadsLines (ts ++ ts') (lines ++ lines') := by
  constructor
  · rw [List.length_append, List.length_append]
    exact Nat.add_le_add first.enough second.enough
  · intro bound rest
    rw [List.length_append, Nat.add_comm lines.length, ← Nat.add_assoc, List.append_assoc,
      first.read, second.read, Option.map_map]
    simp [Function.comp_def]

/-- Lines may follow each other, some for each item of a list. -/
lemma ReadsLines.flatMap {α : Type} {tokens : α → List Token} {lines : α → List Line}
    {items : List α} (each : ∀ a ∈ items, ReadsLines (tokens a) (lines a)) :
    ReadsLines (items.flatMap tokens) (items.flatMap lines) := by
  induction items with
  | nil => exact .nil
  | cons a items ih =>
    obtain ⟨here, later⟩ := List.forall_mem_cons.mp each
    exact here.append (ih later)

/-- A single line. -/
lemma ReadsLines.single {t : Token} {ts : List Token} {line : Line} (ink : t.isInk)
    (h : ∀ rest, line? (t :: ts ++ rest) = some (line, rest)) : ReadsLines (t :: ts) [line] := by
  refine ⟨by simp, fun bound rest => ?_⟩
  have first := h rest
  have before := (skips_skipBlank t (ts ++ rest) ink).1
  rw [List.cons_append] at first ⊢
  simp only [List.length_cons, List.length_nil, linesUpTo?, before, first, List.singleton_append]

/-- A line with a key is read as the key with its value. -/
lemma readsLines_assignment {key : String} (plain : key.toList.all isKeyChar) {t : Token}
    (ink : t.isInk) {ts : List Token} {v : Value} (h : Reads value? (t :: ts) v) :
    ReadsLines (assignmentTokens key (t :: ts) ++ [.newline]) [.assignment ([key], v)] := by
  refine .single (by rfl) fun rest => ?_
  change line? (assignmentTokens key (t :: ts) ++ [.newline] ++ rest) = _
  have read := reads_assignment skips_skipGap plain ink h .newline rest rfl
  have line : line? (assignmentTokens key (t :: ts) ++ .newline :: rest) =
      (assignment? (assignmentTokens key (t :: ts) ++ .newline :: rest)).bind fun read =>
        (endLine? read.2).map (.assignment read.1, ·) := rfl
  rw [List.append_assoc, List.singleton_append, line, assignment?, read]
  rfl

/-- All lines of a document. -/
lemma ReadsLines.all {ts : List Token} {lines : List Line} (h : ReadsLines ts lines) :
    lines? ts = some lines := by
  obtain ⟨more, enough⟩ := Nat.exists_eq_add_of_le' h.enough
  have read := h.read (more + 1) []
  rw [List.append_nil] at read
  rw [lines?, enough, Nat.add_right_comm, read]
  simp [linesUpTo?, skipBlank]

end Standby.Toml
