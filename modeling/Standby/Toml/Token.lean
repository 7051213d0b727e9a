set_option autoImplicit false

/-!
# TOML tokens

The first reading of a document: its text cut into strings, punctuation, line ends, gaps and runs of
other characters. Comments are left out, and the escapes of strings are replaced by what they stand
for.

## Main definitions

* `Standby.Toml.Token` — a token.
* `Standby.Toml.Token.escaped?` — what an escape in a string stands for.
* `Standby.Toml.Token.basic?`, `Standby.Toml.Token.basicBlock?`, `Standby.Toml.Token.literal?`,
  `Standby.Toml.Token.literalBlock?` — the four kinds of strings.
* `Standby.Toml.Token.next?` — the token that a text begins with.
* `Standby.Toml.Token.all?` — all tokens of a text.

## Design

Where a string, a comment or a run of other characters ends does not depend on what stands around
it, so the tokens are found without regard to where keys and values are expected. What a run of
other characters means is left to the place where it is read.
-/

namespace Standby.Toml

/-- A token of a document. -/
inductive Token where
  | newline
  /-- A run of spaces and tabs. -/
  | gap (text : List Char)
  | dot
  | equals
  | comma
  | openBracket
  | closeBracket
  | openBrace
  | closeBrace
  /-- A string; `block` if it may run over several lines. -/
  | quoted (block : Bool) (text : String)
  /-- A run of other characters, which does not begin with a quote. -/
  | bare (text : List Char)
  deriving Repr, DecidableEq, Inhabited

namespace Token

/-! ## Characters -/

/-- Spaces and tabs. -/
def isGap (c : Char) : Bool := c == ' ' || c == '\t'

/-- The characters that may stand in comments and in strings on one line: all but control
characters other than the tab. -/
def isText (c : Char) : Bool := c == '\t' || (0x20 ≤ c.toNat && c.toNat != 0x7F)

/-- The characters of a run: all but those that stand for themselves, gaps, line ends and the sign
that begins a comment. A quote does not end a run. -/
def isBare (c : Char) : Bool :=
  !(isGap c || "\n\r.=,[]\x7b\x7d#".toList.contains c)

/-- What follows the line end at the beginning of a text. A line ends with a line feed, and a
carriage return may stand before it but nowhere else. -/
def afterNewline? : List Char → Option (List Char)
  | '\n' :: rest => some rest
  | '\r' :: '\n' :: rest => some rest
  | _ => none

/-- Leaves out one line end at the beginning of a text. -/
def dropNewline (cs : List Char) : List Char := (afterNewline? cs).getD cs

/-- What stands after the end of a line is shorter than what stands before it. -/
theorem length_of_afterNewline? {cs rest : List Char} (h : afterNewline? cs = some rest) :
    rest.length < cs.length := by
  unfold afterNewline? at h
  split at h
  case h_3 => cases h
  all_goals
    cases h
    simp only [List.length_cons]
    omega

/-- Nothing gets longer by dropping the end of a line. -/
theorem length_dropNewline (cs : List Char) : (dropNewline cs).length ≤ cs.length := by
  unfold dropNewline
  cases h : afterNewline? cs with
  | none => simp
  | some rest => exact Nat.le_of_lt (length_of_afterNewline? h)

/-- Nothing gets longer by dropping characters in front. -/
theorem length_dropWhile (p : Char → Bool) (cs : List Char) :
    (cs.dropWhile p).length ≤ cs.length :=
  (List.dropWhile_sublist p).length_le

/-! ## Escapes -/

/-- The value of a hexadecimal digit. -/
def hexDigit? (c : Char) : Option Nat :=
  if '0' ≤ c ∧ c ≤ '9' then some (c.toNat - '0'.toNat)
  else if 'a' ≤ c ∧ c ≤ 'f' then some (c.toNat - 'a'.toNat + 10)
  else if 'A' ≤ c ∧ c ≤ 'F' then some (c.toNat - 'A'.toNat + 10)
  else none

/-- The number written with hexadecimal digits. -/
def hexNumber? (digits : List Char) : Option Nat :=
  digits.foldlM (fun n c => (hexDigit? c).map (16 * n + ·)) 0

/-- The character whose code point is written with hexadecimal digits. Surrogates and numbers beyond
the last code point stand for no character. -/
def codePoint? (digits : List Char) : Option Char :=
  match hexNumber? digits with
  | some n => if n.isValidChar then some (Char.ofNat n) else none
  | none => none

/-- The character that a one letter escape stands for. -/
def letterEscape? : Char → Option Char
  | 'b' => some '\x08'
  | 't' => some '\t'
  | 'n' => some '\n'
  | 'f' => some '\x0c'
  | 'r' => some '\r'
  | 'e' => some '\x1b'
  | '"' => some '"'
  | '\\' => some '\\'
  | _ => none

/-- The character that an escape stands for, read after its backslash, and what follows it. -/
def escaped? : List Char → Option (Char × List Char)
  | 'x' :: a :: b :: rest => (codePoint? [a, b]).map (·, rest)
  | 'u' :: a :: b :: c :: d :: rest => (codePoint? [a, b, c, d]).map (·, rest)
  | 'U' :: a :: b :: c :: d :: e :: f :: g :: h :: rest =>
    (codePoint? [a, b, c, d, e, f, g, h]).map (·, rest)
  | c :: rest => (letterEscape? c).map (·, rest)
  | [] => none

/-- What stands after an escape is shorter than what stands before it. -/
theorem length_of_escaped? {cs rest : List Char} {c : Char} (h : escaped? cs = some (c, rest)) :
    rest.length < cs.length := by
  unfold escaped? at h
  split at h
  case h_5 => simp at h
  all_goals
    simp only [Option.map_eq_some_iff, Prod.mk.injEq] at h
    obtain ⟨_, _, _, rfl⟩ := h
    simp only [List.length_cons]
    omega

/-! ## Strings -/

/-- Puts a character in front of the text of a string that was read. -/
def push (c : Char) (read : List Char × List Char) : List Char × List Char :=
  (c :: read.1, read.2)

/-- The text of a basic string, read after its opening quote, and what follows the closing one. -/
def basic? (cs : List Char) : Option (List Char × List Char) :=
  match cs with
  | [] => none
  | '"' :: rest => some ([], rest)
  | '\\' :: rest =>
    match _h : escaped? rest with
    | none => none
    | some (c, after) => (basic? after).map (push c)
  | c :: rest => if isText c then (basic? rest).map (push c) else none
termination_by cs.length
decreasing_by
  · have := length_of_escaped? _h
    simp only [List.length_cons]
    omega
  · simp

/-- The text of a literal string, read after its opening quote, and what follows the closing one. -/
def literal? : List Char → Option (List Char × List Char)
  | [] => none
  | c :: rest =>
    if c = '\'' then some ([], rest)
    else if isText c then (literal? rest).map (push c) else none

/-- What is left of a run of quotes that ends a block: up to two of them belong to the text. -/
def blockEnd (quote : Char) : List Char → List Char × List Char
  | a :: b :: rest =>
    if a = quote ∧ b = quote then ([quote, quote], rest)
    else if a = quote then ([quote], b :: rest)
    else ([], a :: b :: rest)
  | [a] => if a = quote then ([quote], []) else ([], [a])
  | [] => ([], [])

/-- What follows three quotes at the beginning of a text. -/
def afterQuotes? (quote : Char) : List Char → Option (List Char)
  | a :: b :: c :: rest => if a = quote ∧ b = quote ∧ c = quote then some rest else none
  | _ => none

/-- The text of a basic block, read after its opening quotes, and what follows the closing ones. A
backslash at the end of a line takes out all gaps and line ends up to the next other character;
`skipping` says that this is going on. -/
def basicBlock? (skipping : Bool) (cs : List Char) : Option (List Char × List Char) :=
  match afterQuotes? '"' cs with
  | some rest => some (blockEnd '"' rest)
  | none =>
    match cs with
    | [] => none
    | '\\' :: rest =>
      match _h : escaped? rest with
      | some (c, after) => (basicBlock? false after).map (push c)
      | none =>
        match _h' : afterNewline? (rest.dropWhile isGap) with
        | some after => basicBlock? true after
        | none => none
    | '\r' :: '\n' :: rest =>
      if skipping then basicBlock? true rest
      else (basicBlock? false rest).map (push '\r' ∘ push '\n')
    | c :: rest =>
      if skipping && (isGap c || c == '\n') then basicBlock? true rest
      else if isText c || c == '\n' then (basicBlock? false rest).map (push c)
      else none
termination_by cs.length
decreasing_by
  · have := length_of_escaped? _h
    simp only [List.length_cons]
    omega
  · have := length_of_afterNewline? _h'
    have := length_dropWhile isGap rest
    simp only [List.length_cons]
    omega
  all_goals simp only [List.length_cons]; omega

/-- The text of a literal block, read after its opening quotes, and what follows the closing
ones. -/
def literalBlock? (cs : List Char) : Option (List Char × List Char) :=
  match afterQuotes? '\'' cs with
  | some rest => some (blockEnd '\'' rest)
  | none =>
    match cs with
    | [] => none
    | '\r' :: '\n' :: rest => (literalBlock? rest).map (push '\r' ∘ push '\n')
    | c :: rest => if isText c || c == '\n' then (literalBlock? rest).map (push c) else none

/-- A string token made from what was read. -/
def ofRead (block : Bool) (read : List Char × List Char) : List Token × List Char :=
  ([quoted block (String.ofList read.1)], read.2)

/-- The string that begins with the quote `"`, and what follows it. -/
def basicString? (cs : List Char) : Option (List Token × List Char) :=
  match cs with
  | '"' :: '"' :: rest => (basicBlock? false (dropNewline rest)).map (ofRead true)
  | cs => (basic? cs).map (ofRead false)

/-- The string that begins with the quote `'`, and what follows it. -/
def literalString? (cs : List Char) : Option (List Token × List Char) :=
  match cs with
  | '\'' :: '\'' :: rest => (literalBlock? (dropNewline rest)).map (ofRead true)
  | cs => (literal? cs).map (ofRead false)

/-- What follows a comment, which ends before the end of its line. -/
def afterComment? (cs : List Char) : Option (List Char) :=
  let rest := cs.dropWhile isText
  if rest.isEmpty || (afterNewline? rest).isSome then some rest else none

/-! ### Nothing is read twice -/

/-- What stands after a text in double quotes is not longer than what the text began with.

**Proof sketch.** Along the recursion of the reader. Each step takes a character or an escape, and
neither gives back more than it was given. -/
theorem length_of_basic? {cs : List Char} {read : List Char × List Char}
    (h : basic? cs = some read) : read.2.length ≤ cs.length := by
  fun_induction basic? cs generalizing read with
  | case1 => simp at h
  | case2 rest => cases h; simp
  | case3 => simp at h
  | case4 rest c after he ih =>
    obtain ⟨r, hr, rfl⟩ := Option.map_eq_some_iff.1 h
    have := ih hr
    have := length_of_escaped? he
    simp only [push, List.length_cons]
    omega
  | case5 c rest _ _ _ ih =>
    obtain ⟨r, hr, rfl⟩ := Option.map_eq_some_iff.1 h
    have := ih hr
    simp only [push, List.length_cons]
    omega
  | case6 => simp at h

/-- What stands after a text in single quotes is not longer than what the text began with. -/
theorem length_of_literal? {cs : List Char} {read : List Char × List Char}
    (h : literal? cs = some read) : read.2.length ≤ cs.length := by
  fun_induction literal? cs generalizing read with
  | case1 => simp at h
  | case2 rest => cases h; simp
  | case3 c rest _ _ ih =>
    obtain ⟨r, hr, rfl⟩ := Option.map_eq_some_iff.1 h
    have := ih hr
    simp only [push, List.length_cons]
    omega
  | case4 => simp at h

/-- What stands after the quotes that end a block is not longer than what the quotes began with. -/
theorem length_blockEnd (quote : Char) (cs : List Char) :
    (blockEnd quote cs).2.length ≤ cs.length := by
  unfold blockEnd
  repeat' split
  all_goals simp only [List.length_cons, List.length_nil]; omega

/-- What stands after three quotes is not longer than what stands before them. -/
theorem length_of_afterQuotes? {quote : Char} {cs rest : List Char}
    (h : afterQuotes? quote cs = some rest) : rest.length ≤ cs.length := by
  unfold afterQuotes? at h
  split at h
  · split at h
    · cases h
      simp only [List.length_cons]
      omega
    · cases h
  · cases h

/-- What stands after a block in double quotes is not longer than what the block began with.

**Proof sketch.** Along the recursion of the reader, as for a text in one line. A block ends with
the quotes, and takes those that belong to its text. -/
theorem length_of_basicBlock? {skipping : Bool} {cs : List Char} {read : List Char × List Char}
    (h : basicBlock? skipping cs = some read) : read.2.length ≤ cs.length := by
  fun_induction basicBlock? skipping cs generalizing read with
  | case1 skipping cs rest hq =>
    cases h
    exact Nat.le_trans (length_blockEnd '"' rest) (length_of_afterQuotes? hq)
  | case2 => simp at h
  | case3 _ rest c after he _ ih =>
    obtain ⟨r, hr, rfl⟩ := Option.map_eq_some_iff.1 h
    have := ih hr
    have := length_of_escaped? he
    simp only [push, List.length_cons]
    omega
  | case4 _ rest _ after hn _ ih =>
    have := ih h
    have := length_of_afterNewline? hn
    have := length_dropWhile isGap rest
    simp only [List.length_cons]
    omega
  | case5 => simp at h
  | case6 rest _ ih =>
    have := ih h
    simp only [List.length_cons]
    omega
  | case7 _ rest _ _ ih =>
    obtain ⟨r, hr, rfl⟩ := Option.map_eq_some_iff.1 h
    have := ih hr
    simp only [Function.comp, push, List.length_cons]
    omega
  | case8 _ c rest _ _ _ _ ih =>
    have := ih h
    simp only [List.length_cons]
    omega
  | case9 _ c rest _ _ _ _ _ ih =>
    obtain ⟨r, hr, rfl⟩ := Option.map_eq_some_iff.1 h
    have := ih hr
    simp only [push, List.length_cons]
    omega
  | case10 => simp at h

/-- What stands after a block in single quotes is not longer than what the block began with.

**Proof sketch.** Along the recursion of the reader, which takes one character at a time. -/
theorem length_of_literalBlock? {cs : List Char} {read : List Char × List Char}
    (h : literalBlock? cs = some read) : read.2.length ≤ cs.length := by
  fun_induction literalBlock? cs generalizing read with
  | case1 cs rest hq =>
    cases h
    exact Nat.le_trans (length_blockEnd '\'' rest) (length_of_afterQuotes? hq)
  | case2 => simp at h
  | case3 rest _ ih =>
    obtain ⟨r, hr, rfl⟩ := Option.map_eq_some_iff.1 h
    have := ih hr
    simp only [Function.comp, push, List.length_cons]
    omega
  | case4 c rest _ _ _ ih =>
    obtain ⟨r, hr, rfl⟩ := Option.map_eq_some_iff.1 h
    have := ih hr
    simp only [push, List.length_cons]
    omega
  | case5 => simp at h

/-- What stands after a string in double quotes, of one line or of several, is not longer than what
it began with. -/
theorem length_of_basicString? {cs : List Char} {read : List Token × List Char}
    (h : basicString? cs = some read) : read.2.length ≤ cs.length := by
  unfold basicString? at h
  split at h
  · obtain ⟨r, hr, rfl⟩ := Option.map_eq_some_iff.1 h
    have := length_of_basicBlock? hr
    have := length_dropNewline ‹List Char›
    simp only [ofRead, List.length_cons]
    omega
  · obtain ⟨r, hr, rfl⟩ := Option.map_eq_some_iff.1 h
    exact length_of_basic? hr

/-- What stands after a string in single quotes, of one line or of several, is not longer than what
it began with. -/
theorem length_of_literalString? {cs : List Char} {read : List Token × List Char}
    (h : literalString? cs = some read) : read.2.length ≤ cs.length := by
  unfold literalString? at h
  split at h
  · obtain ⟨r, hr, rfl⟩ := Option.map_eq_some_iff.1 h
    have := length_of_literalBlock? hr
    have := length_dropNewline ‹List Char›
    simp only [ofRead, List.length_cons]
    omega
  · obtain ⟨r, hr, rfl⟩ := Option.map_eq_some_iff.1 h
    exact length_of_literal? hr

/-! ## Tokens -/

/-- The token that a text begins with, if any, and what follows it. The text is given as its first
character and the rest. -/
def next? (c : Char) (rest : List Char) : Option (List Token × List Char) :=
  match c with
  | '.' => some ([dot], rest)
  | '=' => some ([equals], rest)
  | ',' => some ([comma], rest)
  | '[' => some ([openBracket], rest)
  | ']' => some ([closeBracket], rest)
  | '\x7b' => some ([openBrace], rest)
  | '\x7d' => some ([closeBrace], rest)
  | '\n' => some ([newline], rest)
  | '\r' => (afterNewline? ('\r' :: rest)).map ([newline], ·)
  | '#' => (afterComment? rest).map ([], ·)
  | '"' => basicString? rest
  | '\'' => literalString? rest
  | c =>
    if isGap c then some ([gap (c :: rest.takeWhile isGap)], rest.dropWhile isGap)
    else some ([bare (c :: rest.takeWhile isBare)], rest.dropWhile isBare)

/-- Reading a token never gives back more text than it was given.

**Proof sketch.** By cases on the first character, with the facts above for the texts that begin
with it. -/
theorem length_of_next? {c : Char} {rest : List Char} {read : List Token × List Char}
    (h : next? c rest = some read) : read.2.length ≤ rest.length := by
  unfold next? at h
  split at h
  case h_9 =>
    obtain ⟨r, hr, rfl⟩ := Option.map_eq_some_iff.1 h
    have := length_of_afterNewline? hr
    simp only [List.length_cons] at this
    simp only
    omega
  case h_10 =>
    obtain ⟨r, hr, rfl⟩ := Option.map_eq_some_iff.1 h
    unfold afterComment? at hr
    simp only [Option.ite_none_right_eq_some, Option.some.injEq] at hr
    obtain ⟨_, rfl⟩ := hr
    exact length_dropWhile _ _
  case h_11 => exact length_of_basicString? h
  case h_12 => exact length_of_literalString? h
  case h_13 =>
    split at h
    all_goals
      cases h
      exact length_dropWhile _ _
  all_goals
    cases h
    exact Nat.le_refl _

/-- All tokens of a text, or nothing if it is not made of tokens. -/
def all? (cs : List Char) : Option (List Token) :=
  match cs with
  | [] => some []
  | c :: rest =>
    match _h : next? c rest with
    | none => none
    | some read => (all? read.2).map (read.1 ++ ·)
termination_by cs.length
decreasing_by
  have := length_of_next? _h
  simp only [List.length_cons]
  omega

end Token

end Standby.Toml
