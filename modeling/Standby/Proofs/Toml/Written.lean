import Mathlib.Algebra.Group.Nat.Defs
import Mathlib.Data.List.Basic
import Standby.Toml.BasicString
import Standby.Toml.Token
set_option autoImplicit false

/-!
# Reading written texts token by token

What a text that was written down is cut into. A basic string is read back as the text that was
written, however its characters are escaped, and pieces of a document are cut where they were put
together.

## Main definitions

* `Standby.Toml.Token.Piece` — a text that is cut into the same tokens whatever follows it.
* `Standby.Toml.Token.Part` — one that is, if an item, a bracket or a line ends after it.

## Main results

* `Standby.Toml.Token.basic?_escapes` — escaped characters are read back.
* `Standby.Toml.Token.part_write` — a text between quotes is one token.
* `Standby.Toml.Token.Part.intercalate` — parts with commas between them are cut at these.

## Design

A run of characters and a gap go on for as long as they can, so that what they are cut into depends
on what follows. Everything else is over with its last character. Hence there are two notions of a
text that is cut on its own, and a part becomes a piece when it is put in brackets or on a line.
-/

namespace Standby.Toml.Token

open BasicString (code escape hexDigits isEscaped letter?)

/-! ## Escapes -/

/-- A hexadecimal digit has the value that it was written for. -/
private lemma hexDigit?_digitChar : ∀ d < 16, hexDigit? (Nat.digitChar d) = some d := by decide

/-- The last digit of a number counts once, and the others sixteen times as much. -/
private lemma hexNumber?_append (digits : List Char) (c : Char) :
    hexNumber? (digits ++ [c]) =
      (hexNumber? digits).bind fun n => (hexDigit? c).map (16 * n + ·) := by
  simp [hexNumber?, List.foldlM_append]

/-- The last digits of a number are read back as what is left of it. -/
private lemma hexNumber?_hexDigits (count n : Nat) :
    hexNumber? (hexDigits count n) = some (n % 16 ^ count) := by
  induction count generalizing n with
  | zero => simp [hexDigits, hexNumber?, Nat.mod_one]
  | succ count ih =>
    rw [hexDigits, hexNumber?_append, ih, Option.bind_some,
      hexDigit?_digitChar _ (Nat.mod_lt _ (by decide)), Option.map_some, Nat.pow_succ', Nat.mod_mul]
    congr 1
    omega

/-- A character is read back from its code point, if there are enough digits for it. -/
private lemma codePoint?_hexDigits (count : Nat) {c : Char} (enough : c.toNat < 16 ^ count) :
    codePoint? (hexDigits count c.toNat) = some c := by
  have valid : c.toNat.isValidChar := c.valid
  rw [codePoint?, hexNumber?_hexDigits, Nat.mod_eq_of_lt enough]
  simp [valid, Char.ofNat_toNat]

/-- A character is read back from its letter. -/
private lemma escaped?_letter {c letter : Char} (h : letter? c = some letter) (rest : List Char) :
    escaped? (letter :: rest) = some (c, rest) := by
  unfold letter? at h
  split at h <;> cases h <;> rfl

/-- A character that fits into two digits is read back from each of its forms.

**Proof sketch.** The number of the character has two digits, so it is read back from two, four and
eight. In the short form there is a letter for it, or it is written with four. -/
private lemma escaped?_code {c : Char} (small : c.toNat < 16 ^ 2) (form : EscapeForm)
    (rest : List Char) : escaped? (code c form ++ rest) = some (c, rest) := by
  have two := codePoint?_hexDigits 2 small
  have four := codePoint?_hexDigits 4 (Nat.lt_trans small (by decide))
  have eight := codePoint?_hexDigits 8 (Nat.lt_trans small (by decide))
  simp only [hexDigits, List.nil_append, List.cons_append] at two four eight
  cases form with
  | letter =>
    rw [code]
    cases short : letter? c with
    | none => simp [escaped?, hexDigits, four]
    | some letter => exact escaped?_letter short rest
  | two => simp [code, escaped?, hexDigits, two]
  | four => simp [code, escaped?, hexDigits, four]
  | eight => simp [code, escaped?, hexDigits, eight]

/-! ## Basic strings -/

/-- A quote ends a basic string. -/
private lemma basic?_quote (rest : List Char) : basic? ('"' :: rest) = some ([], rest) := by
  rw [basic?]

/-- A backslash in a basic string begins an escape. -/
private lemma basic?_backslash {rest after : List Char} {c : Char}
    (h : escaped? rest = some (c, after)) :
    basic? ('\\' :: rest) = (basic? after).map (push c) := by
  rw [basic?]
  split
  next none => rw [h] at none; cases none
  next found =>
    rw [h] at found
    cases found
    rfl

/-- Every other character of a basic string stands for itself. -/
private lemma basic?_self {c : Char} (text : isText c) (noQuote : c ≠ '"') (noBackslash : c ≠ '\\')
    (rest : List Char) : basic? (c :: rest) = (basic? rest).map (push c) := by
  rw [basic?.eq_def]
  split
  case h_1 => contradiction
  case h_2 same => cases same; contradiction
  case h_3 same => cases same; contradiction
  case h_4 same => cases same; rw [if_pos text]

/-- What is not escaped may stand in a string on one line. -/
private lemma isText_of_not_isEscaped {c : Char} (h : isEscaped c = false) : isText c := by
  simp only [isEscaped, BasicString.isControl, Bool.or_eq_false_iff, Bool.and_eq_false_iff,
    decide_eq_false_iff_not] at h
  simp only [isText, Bool.or_eq_true, Bool.and_eq_true, decide_eq_true_eq, bne_iff_ne]
  omega

/-- What is escaped has a code point of two digits. -/
private lemma small_of_isEscaped {c : Char} (h : isEscaped c) : c.toNat < 16 ^ 2 := by
  simp only [isEscaped, BasicString.isControl, Bool.or_eq_true, beq_iff_eq, decide_eq_true_eq,
    Bool.and_eq_true] at h
  rcases h with (rfl | rfl) | control
  · decide
  · decide
  · omega

/-- A written character is read back.

**Proof sketch.** By cases on whether the character is written with a backslash. If not, it is
neither a quote nor a backslash, and stands for itself. -/
private lemma basic?_escape (form : Char → EscapeForm) (c : Char) (rest : List Char) :
    basic? (escape form c ++ rest) = (basic? rest).map (push c) := by
  unfold escape
  split
  next special => exact basic?_backslash (escaped?_code (small_of_isEscaped special) (form c) rest)
  next plain =>
    rw [Bool.not_eq_true] at plain
    refine basic?_self (isText_of_not_isEscaped plain) ?_ ?_ rest
    · rintro rfl
      cases plain
    · rintro rfl
      cases plain

/-- All written characters are read back, up to the closing quote. -/
lemma basic?_escapes (form : Char → EscapeForm) (cs rest : List Char) :
    basic? (cs.flatMap (escape form) ++ '"' :: rest) = some (cs, rest) := by
  induction cs with
  | nil => exact basic?_quote rest
  | cons c cs ih =>
    rw [List.flatMap_cons, List.append_assoc, basic?_escape, ih]
    rfl

/-- A written character does not look like the end of a string. -/
private lemma escape_ne_quote (form : Char → EscapeForm) (c : Char) (rest : List Char) :
    (escape form c ++ rest).head? ≠ some '"' := by
  unfold escape
  split
  next => simp
  next plain =>
    intro same
    cases same
    exact plain rfl

/-- A text between quotes is read as one string, and not as the beginning of a block: only the empty
text has two quotes in a row, and no third one follows.

**Proof sketch.** The text is no block: if it is empty, then no third quote follows by assumption,
and if it is not, then its first character is not a quote as it is written. So it is read character
by character, up to the quote at its end. -/
private lemma basicString?_escapes (form : Char → EscapeForm) (s : String) {rest : List Char}
    (ends : rest.head? ≠ some '"') :
    basicString? (s.toList.flatMap (escape form) ++ '"' :: rest) =
      some ([.quoted false s], rest) := by
  unfold basicString?
  split
  next block same =>
    exfalso
    have first := congrArg List.head? same
    cases text : s.toList with
    | nil =>
      rw [text] at same
      exact ends (congrArg (fun cs => cs.tail.head?) same)
    | cons c cs =>
      rw [text, List.flatMap_cons, List.append_assoc] at first
      exact escape_ne_quote form c _ first
  next => rw [basic?_escapes, Option.map_some, ofRead, String.ofList_toList]

/-! ## Pieces and parts -/

/-- The first token of a text, and then the others. -/
lemma all?_cons (c : Char) (rest : List Char) :
    all? (c :: rest) = (next? c rest).bind fun read => (all? read.2).map (read.1 ++ ·) := by
  rw [all?]
  split <;> simp_all

/-- A text is cut into tokens on its own, whatever follows it. -/
def Piece (cs : List Char) (ts : List Token) : Prop :=
  ∀ rest, all? (cs ++ rest) = (all? rest).map (ts ++ ·)

/-- The characters after which an item, a bracket, a word or a line is over. -/
def isStop (c : Char) : Bool := c == ',' || c == ']' || c == '\x7d' || c == ' ' || c == '\n'

/-- A text is cut into tokens on its own if something is over after it. -/
def Part (cs : List Char) (ts : List Token) : Prop :=
  ∀ stop rest, isStop stop → all? (cs ++ stop :: rest) = (all? (stop :: rest)).map (ts ++ ·)

/-- No text, no tokens. -/
private lemma Piece.nil : Piece [] [] := fun rest => by simp

/-- Pieces may follow each other. -/
lemma Piece.append {cs cs' : List Char} {ts ts' : List Token} (first : Piece cs ts)
    (second : Piece cs' ts') : Piece (cs ++ cs') (ts ++ ts') := by
  intro rest
  rw [List.append_assoc, first, second, Option.map_map]
  simp [Function.comp_def]

/-- Pieces may follow each other, one for each item of a list. -/
lemma Piece.flatMap {α : Type} {text : α → List Char} {tokens : α → List Token} {items : List α}
    (each : ∀ a ∈ items, Piece (text a) (tokens a)) :
    Piece (items.flatMap text) (items.flatMap tokens) := by
  induction items with
  | nil => exact .nil
  | cons a items ih =>
    obtain ⟨here, later⟩ := List.forall_mem_cons.mp each
    exact here.append (ih later)

/-- A piece is a part. -/
lemma Piece.part {cs : List Char} {ts : List Token} (h : Piece cs ts) : Part cs ts :=
  fun stop rest _ => h (stop :: rest)

/-- A part may follow a piece. -/
lemma Piece.append_part {cs cs' : List Char} {ts ts' : List Token} (first : Piece cs ts)
    (second : Part cs' ts') : Part (cs ++ cs') (ts ++ ts') := by
  intro stop rest ends
  rw [List.append_assoc, first, second stop rest ends, Option.map_map]
  simp [Function.comp_def]

/-- A piece that begins with a stop may follow a part. -/
lemma Part.append_piece {cs cs' : List Char} {ts ts' : List Token} {stop : Char}
    (first : Part cs ts) (second : Piece (stop :: cs') ts') (ends : isStop stop) :
    Piece (cs ++ stop :: cs') (ts ++ ts') := by
  intro rest
  rw [List.append_assoc, List.cons_append, first stop _ ends, ← List.cons_append, second,
    Option.map_map]
  simp [Function.comp_def]

/-- A part that begins with a stop may follow a part. -/
lemma Part.append {cs cs' : List Char} {ts ts' : List Token} {stop : Char} (first : Part cs ts)
    (second : Part (stop :: cs') ts') (ends : isStop stop) :
    Part (cs ++ stop :: cs') (ts ++ ts') := by
  intro stop' rest ends'
  rw [List.append_assoc, List.cons_append, first stop _ ends, ← List.cons_append,
    second stop' rest ends', Option.map_map]
  simp [Function.comp_def]

/-! ## Parts with commas between them -/

/-- A text begins with something other than a gap. -/
def Solid (cs : List Char) : Prop := ∃ c rest, cs = c :: rest ∧ isGap c = false

/-- A space in front of something else is one token. -/
private lemma all?_space {c : Char} (noGap : isGap c = false) (rest : List Char) :
    all? (' ' :: c :: rest) = (all? (c :: rest)).map (.gap [' '] :: ·) := by
  have first : next? ' ' (c :: rest) = some ([.gap [' ']], c :: rest) := by
    simp [next?, noGap, show isGap ' ' = true from rfl]
  rw [all?_cons ' ', first, Option.bind_some]
  rfl

/-- A comma and a space are cut off in front of a part. -/
private lemma Part.comma {cs : List Char} {ts : List Token} (h : Part cs ts) (solid : Solid cs) :
    Part (", ".toList ++ cs) ([.comma, .gap [' ']] ++ ts) := by
  obtain ⟨c, inner, rfl, noGap⟩ := solid
  intro stop rest ends
  change all? (',' :: ' ' :: c :: (inner ++ stop :: rest)) = _
  rw [all?_cons ',', next?, Option.bind_some, all?_space noGap, ← List.cons_append,
    h stop rest ends, Option.map_map, Option.map_map]
  rfl

/-- A sign between a key and its value is cut off in front of the value. -/
lemma Part.equals {cs : List Char} {ts : List Token} (h : Part cs ts) (solid : Solid cs) :
    Part (" = ".toList ++ cs) ([.gap [' '], .equals, .gap [' ']] ++ ts) := by
  obtain ⟨c, inner, rfl, noGap⟩ := solid
  intro stop rest ends
  change all? (' ' :: '=' :: ' ' :: c :: (inner ++ stop :: rest)) = _
  rw [all?_space rfl, all?_cons '=', next?, Option.bind_some, all?_space noGap,
    ← List.cons_append, h stop rest ends, Option.map_map, Option.map_map, Option.map_map]
  rfl

/-- What a list with commas between its items begins with. -/
private lemma solid_intercalate {first : List Char} (solid : Solid first)
    (others : List (List Char)) : Solid ((", ".toList).intercalate (first :: others)) := by
  obtain ⟨c, rest, rfl, noGap⟩ := solid
  cases others with
  | nil => exact ⟨c, rest, by simp, noGap⟩
  | cons second others => exact ⟨c, _, by rw [List.intercalate_cons_cons]; rfl, noGap⟩

/-- Parts with commas between them are cut at these, if none of them begins with a gap.

**Proof sketch.** Induction on the items. One that has others behind it is followed by a comma and a
gap, and the next one does not begin with a gap, so that this gap is a token of its own. -/
lemma Part.intercalate {α : Type} {text : α → List Char} {tokens : α → List Token} {items : List α}
    (each : ∀ a ∈ items, Part (text a) (tokens a)) (solid : ∀ a ∈ items, Solid (text a)) :
    Part ((", ".toList).intercalate (items.map text))
      ([Token.comma, .gap [' ']].intercalate (items.map tokens)) := by
  induction items with
  | nil => exact Piece.nil.part
  | cons a items ih =>
    obtain ⟨here, later⟩ := List.forall_mem_cons.mp each
    obtain ⟨-, solid⟩ := List.forall_mem_cons.mp solid
    cases items with
    | nil => simpa using here
    | cons b items =>
      have others := (ih later solid).comma (solid_intercalate (solid b List.mem_cons_self) _)
      have both : Part
          (text a ++ (", ".toList ++ (", ".toList).intercalate ((b :: items).map text))) _ :=
        here.append others rfl
      simpa [List.intercalate_cons_cons] using both

/-! ## Strings and runs -/

/-- A text between quotes is one token. -/
lemma part_write (form : Char → EscapeForm) (s : String) :
    Part (BasicString.write form s) [.quoted false s] := by
  intro stop rest ends
  have noQuote : (stop :: rest).head? ≠ some '"' := by
    rintro ⟨⟩
    cases ends
  change all? ('"' :: (s.toList.flatMap (escape form) ++ ['"'] ++ stop :: rest)) = _
  rw [List.append_assoc, List.singleton_append, all?_cons, next?,
    basicString?_escapes form s noQuote, Option.bind_some]

/-- A run of characters is one token if something is over after it. -/
lemma part_bare {c : Char} {cs : List Char}
    (begins : ∀ rest, next? c rest =
      some ([.bare (c :: rest.takeWhile isBare)], rest.dropWhile isBare))
    (run : cs.all isBare = true) : Part (c :: cs) [.bare (c :: cs)] := by
  intro stop rest ends
  have run := List.all_eq_true.1 run
  have noRun : isBare stop = false := by
    simp only [isStop, Bool.or_eq_true, beq_iff_eq] at ends
    rcases ends with (((rfl | rfl) | rfl) | rfl) | rfl <;> rfl
  rw [List.cons_append, all?_cons, begins, Option.bind_some,
    List.takeWhile_append_of_pos run, List.dropWhile_append_of_pos run]
  simp [noRun]

end Standby.Toml.Token
