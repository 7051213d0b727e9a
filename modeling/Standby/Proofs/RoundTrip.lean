import Standby.Manifest.Spelling
import Standby.Proofs.Schema
import Standby.Proofs.Toml.Assembly
set_option autoImplicit false

/-!
# Manifests that are written down and read back

A manifest survives being written down as a document, whatever characters its names are made of and
however it is spelled.

## Main definitions

* `Standby.Manifest.sectionTokens`, `Standby.Manifest.tableTokens`, `Standby.Manifest.arrayTokens` —
  the tokens of a declaration in the three layouts.
* `Standby.Manifest.listing` — the document that so many sections make up.

## Main results

* `Standby.Manifest.spells_write` — what is written down is a document that spells the declarations.
* `Standby.Manifest.read_write` — and is read back as these.

## Design

Each layout is followed through the three stages of the reader: the text is cut into tokens, the
tokens are read as values or lines, and these make up a document. Names and start marks enter only
by `Standby.Manifest.Key`, so that a key is followed once for all layouts.
-/

namespace Standby

namespace Manifest

open Toml Toml.Token

/-! ## Declarations -/

section Declarations

variable (form : Declaration → Char → EscapeForm) (d : Declaration)

/-- The token of a value of a declaration. -/
def valueToken : Key → Token
  | .name => .quoted false d.name
  | .start => .bare (writeFlag d.start)

/-- The value of a key of a declaration. -/
def valueOf : Key → Value
  | .name => .text d.name
  | .start => .boolean d.start

/-- The tokens of a key of a declaration with its value. -/
def keyTokens (key : Key) : List Token := assignmentTokens key.text [valueToken d key]

/-- A key of a declaration, as it is set. -/
def assignmentOf (key : Key) : Assignment := ([key.text], valueOf d key)

/-- A key of a declaration, as it stands in a table. -/
def entryOf (key : Key) : String × Value := (key.text, valueOf d key)

/-- A written flag is one token. -/
private lemma part_flag (b : Bool) : Part (writeFlag b) [.bare (writeFlag b)] := by
  have no : Part ('f' :: "alse".toList) _ := part_bare (fun rest => rfl) rfl
  have yes : Part ('t' :: "rue".toList) _ := part_bare (fun rest => rfl) rfl
  cases b
  · exact no
  · exact yes

/-- A written value is one token. -/
private lemma part_value (key : Key) : Part (writeValue form d key) [valueToken d key] := by
  cases key with
  | name => exact part_write (form d) d.name
  | start => exact part_flag d.start

/-- A written value begins with a quote or a letter. -/
private lemma solid_value (key : Key) : Solid (writeValue form d key) := by
  cases key with
  | name => exact ⟨'"', _, rfl, rfl⟩
  | start => cases flag : d.start <;> exact ⟨_, _, by rw [writeValue, flag]; rfl, rfl⟩

/-- A written key is one token. -/
private lemma part_text (key : Key) : Part key.text.toList [.bare key.text.toList] := by
  have name : Part ('n' :: "ame".toList) _ := part_bare (fun rest => rfl) rfl
  have start : Part ('s' :: "tart".toList) _ := part_bare (fun rest => rfl) rfl
  cases key with
  | name => exact name
  | start => exact start

/-- A written key with its value is cut into its tokens. -/
private lemma part_key (key : Key) : Part (writeKey form d key) (keyTokens d key) :=
  (part_text key).append ((part_value form d key).equals (solid_value form d key)) rfl

/-- A written key begins with a letter. -/
private lemma solid_key (key : Key) : Solid (writeKey form d key) := by
  cases key <;> exact ⟨_, _, rfl, rfl⟩

/-- A value is neither a gap nor a line end, and does not end a list of items. -/
private lemma valueToken_ink (key : Key) :
    (valueToken d key).isInk ∧ (valueToken d key).isClosing = false := by
  cases key <;> exact ⟨rfl, rfl⟩

/-- The token of a value is read as the value. -/
private lemma reads_value (depth : Nat) (key : Key) :
    Reads (valueWithin? depth) [valueToken d key] (valueOf d key) := by
  have flag : Scalar.value? (writeFlag d.start) = some (.boolean d.start) := by
    cases d.start <;> rfl
  cases key with
  | name => exact reads_text depth d.name
  | start => exact reads_bare depth flag

/-- The tokens of a key are read as the key with its value. -/
private lemma reads_key {skip : List Token → List Token} (skips : Skips skip) (depth : Nat)
    (key : Key) :
    Reads (assignmentWith? skip (valueWithin? depth)) (keyTokens d key) (assignmentOf d key) := by
  have plain : key.text.toList.all isKeyChar := by cases key <;> decide
  exact reads_assignment skips plain (valueToken_ink d key).1 (reads_value d depth key)

/-- The keys of a declaration as they are set in its table. -/
def branchOf (key : Key) : String × Node := (key.text, .leaf (valueOf d key))

/-- The keys of a declaration, whichever are written, can be set in a table. -/
private lemma fill_keys (style : KeyStyle) :
    fill ((style.keys d).map (assignmentOf d)) [] = some ((style.keys d).map (branchOf d)) := by
  unfold KeyStyle.keys
  split_ifs <;> rfl

/-- The finished table of a declaration. -/
private lemma finished_keys (keys : List Key) :
    finished (keys.map (branchOf d)) = keys.map (entryOf d) := by
  induction keys with
  | nil => rfl
  | cons key keys ih => simp [finished, branchOf, entryOf, Node.value, ih]

/-- The name is always written. -/
private lemma name_mem_keys (style : KeyStyle) : Key.name ∈ style.keys d := by
  unfold KeyStyle.keys
  split_ifs <;> simp

/-- The start mark is written unless it is left out, which it only is where it says no. -/
private lemma start_mem_keys (style : KeyStyle) :
    Key.start ∈ style.keys d ∨ d.start = false ∧ Key.start ∉ style.keys d := by
  unfold KeyStyle.keys
  split_ifs with omitted
  · exact .inr ⟨by simp_all, by simp⟩
  · exact .inl (by simp)
  · exact .inl (by simp)

/-- The table of a declaration stands for it, whichever keys are written.

**Proof sketch.** The name is written in every style. The start is written, or it is left out where
it is off, which is its default. No other key is written. -/
private lemma declares_table (style : KeyStyle) :
    Declares (.table ((style.keys d).map (entryOf d))) d := by
  refine .table (List.mem_map.mpr ⟨.name, name_mem_keys d style, rfl⟩) ?_ ?_
  · rcases start_mem_keys d style with written | ⟨off, omitted⟩
    · exact .inl (List.mem_map.mpr ⟨.start, written, rfl⟩)
    · refine .inr ⟨off, fun v mem => ?_⟩
      obtain ⟨key, written, same⟩ := List.mem_map.mp mem
      cases key with
      | name => exact absurd (congrArg Prod.fst same) (show ¬ "name" = "start" by decide)
      | start => exact omitted written
  · intro entry mem
    obtain ⟨key, -, rfl⟩ := List.mem_map.mp mem
    cases key
    · exact .inl rfl
    · exact .inr rfl

/-- A name and a start mark in brackets stand for the declaration. -/
private lemma declares_array : Declares (.array ([Key.name, .start].map (valueOf d))) d :=
  .marked d.name d.start []

end Declarations

/-! ## Items in brackets -/

/-- Parts between brackets or braces are cut into tokens, whatever follows. -/
private lemma piece_enclose {α : Type} {text : α → List Char} {tokens : α → List Token}
    {items : List α} {opening closing : Char} {t t' : Token} (opened : Piece [opening] [t])
    (closed : Piece [closing] [t']) (ends : isStop closing)
    (each : ∀ a ∈ items, Part (text a) (tokens a)) (solid : ∀ a ∈ items, Solid (text a)) :
    Piece (enclose opening closing (items.map text)) (enclosedTokens t t' (items.map tokens)) :=
  (opened.append_part (.intercalate each solid)).append_piece closed ends

/-- Brackets are tokens. -/
private lemma piece_brackets : Piece ['['] [.openBracket] ∧ Piece [']'] [.closeBracket] := by
  constructor <;> exact fun rest => by simp [all?_cons, next?]

/-- Braces are tokens. -/
private lemma piece_braces : Piece ['\x7b'] [.openBrace] ∧ Piece ['\x7d'] [.closeBrace] := by
  constructor <;> exact fun rest => by simp [all?_cons, next?]

/-- So is the end of a line. -/
private lemma piece_newline : Piece ['\n'] [.newline] := fun rest => by simp [all?_cons, next?]

section Declarations

variable (form : Declaration → Char → EscapeForm) (d : Declaration)

/-- The tokens of a declaration in braces. -/
def tableTokens (style : KeyStyle) : List Token :=
  enclosedTokens .openBrace .closeBrace ((style.keys d).map (keyTokens d))

/-- The tokens of a declaration as an array. -/
def arrayTokens : List Token :=
  enclosedTokens .openBracket .closeBracket ([Key.name, .start].map fun key => [valueToken d key])

/-- A declaration in braces is cut into its tokens. -/
private lemma piece_table (style : KeyStyle) :
    Piece (writeTable form d style) (tableTokens d style) :=
  piece_enclose piece_braces.1 piece_braces.2 rfl (fun key _ => part_key form d key)
    fun key _ => solid_key form d key

/-- A declaration as an array is cut into its tokens. -/
private lemma piece_array : Piece (writeArray form d) (arrayTokens d) :=
  piece_enclose piece_brackets.1 piece_brackets.2 rfl (fun key _ => part_value form d key)
    fun key _ => solid_value form d key

/-- A declaration in braces is read as its table. -/
private lemma reads_tableTokens (depth : Nat) (style : KeyStyle) :
    Reads (valueWithin? (depth + 1)) (tableTokens d style)
      (.table ((style.keys d).map (entryOf d))) := by
  refine reads_table (fun key _ => reads_key d skips_skipBlank depth key)
    (fun key _ => ⟨_, _, rfl, rfl, rfl⟩) ?_
  rw [ofAssignments?, fill_keys, Option.map_some, finished_keys]

/-- A declaration as an array is read as an array of its values. -/
private lemma reads_arrayTokens (depth : Nat) :
    Reads (valueWithin? (depth + 1)) (arrayTokens d)
      (.array ([Key.name, .start].map (valueOf d))) :=
  reads_array (fun key _ => reads_value d depth key)
    fun key _ => ⟨_, _, rfl, (valueToken_ink d key).1, (valueToken_ink d key).2⟩

/-! ## Declarations under headers -/

/-- The tokens of the header of a declaration. -/
def headerTokens : List Token :=
  [.openBracket, .openBracket, .bare "component".toList, .closeBracket, .closeBracket, .newline]

/-- The tokens of a declaration under a header of its own. -/
def sectionTokens (style : KeyStyle) : List Token :=
  headerTokens ++ (style.keys d).flatMap fun key => keyTokens d key ++ [.newline]

/-- The lines of a declaration under a header of its own. -/
def sectionLines (style : KeyStyle) : List Line :=
  [.header (.element ["component"])] ++
    (style.keys d).flatMap fun key => [.assignment (assignmentOf d key)]

/-- The section of a declaration. -/
def sectionOf (style : KeyStyle) : Section :=
  ⟨.element ["component"], (style.keys d).map (assignmentOf d)⟩

/-- A declaration under a header of its own is cut into its tokens. -/
private lemma piece_section (style : KeyStyle) :
    Piece (writeSection form d style) (sectionTokens d style) := by
  have header : Piece "[[component]]\n".toList headerTokens := fun rest => by
    simp [headerTokens, all?_cons, next?, isGap, isBare, Option.map_map, Function.comp_def]
  exact header.append (.flatMap fun key _ => (part_key form d key).append_piece piece_newline rfl)

/-- The tokens of a declaration under a header of its own are read as its lines. -/
private lemma readsLines_section (style : KeyStyle) :
    ReadsLines (sectionTokens d style) (sectionLines d style) := by
  have header : ReadsLines headerTokens [.header (.element ["component"])] :=
    .single rfl fun rest => rfl
  refine header.append (.flatMap fun key _ => ?_)
  have plain : key.text.toList.all isKeyChar := by cases key <;> decide
  exact readsLines_assignment plain (valueToken_ink d key).1 (reads_value d depthLimit key)

/-- The keys of a declaration belong to the section before them. -/
private lemma sectionsOf_keys (keys : List Key) (rest : List Line) :
    sectionsOf ((keys.flatMap fun key => [.assignment (assignmentOf d key)]) ++ rest) =
      (keys.map (assignmentOf d) ++ (sectionsOf rest).1, (sectionsOf rest).2) := by
  induction keys with
  | nil => rfl
  | cons key keys ih => simp [sectionsOf, ih]

end Declarations

/-- The lines of declarations under headers are a section for each of them. -/
private lemma sectionsOf_sections (ds : List Declaration) (style : Declaration → KeyStyle) :
    sectionsOf (ds.flatMap fun d => sectionLines d (style d)) =
      ([], ds.map fun d => sectionOf d (style d)) := by
  induction ds with
  | nil => rfl
  | cons d ds ih => 
    rw [List.flatMap_cons, sectionLines, List.append_assoc, List.singleton_append, sectionsOf,
      sectionsOf_keys, ih, List.append_nil]
    rfl

/-- A document with so many tables in the array of components. -/
def listing (tables : List Branches) : Branches :=
  if tables.isEmpty then [] else [("component", .sections tables)]

/-- One more section is one more table. -/
private lemma place_section (d : Declaration) (style : KeyStyle) (tables : List Branches) :
    place (listing tables) (sectionOf d style) =
      some (listing (tables ++ [(style.keys d).map (branchOf d)])) := by
  cases tables <;>
    simp [listing, place, sectionOf, within, alter, addElement, fill_keys]

/-- The sections of declarations are the tables of the array, in order. -/
private lemma placeAll_sections (ds : List Declaration) (style : Declaration → KeyStyle)
    (tables : List Branches) :
    (ds.map fun d => sectionOf d (style d)).foldlM place (listing tables) =
      some (listing (tables ++ ds.map fun d => ((style d).keys d).map (branchOf d))) := by
  induction ds generalizing tables with
  | nil => simp
  | cons d ds ih =>
    rw [List.map_cons, List.foldlM_cons, place_section, Option.bind_eq_bind, Option.bind_some, ih]
    simp

/-! ## Documents -/

/-- A text that is cut into the tokens of lines is the document of the sections of these.

**Proof sketch.** The reader drops a mark at the beginning, cuts the text into tokens, reads these
as lines, and places the sections of the lines. The four assumptions say what each of these steps
gives. -/
private lemma read?_of_pieces {cs : List Char} {ts : List Token} {lines : List Line}
    {document : Entries} (cut : Piece cs ts) (noMark : cs.head? ≠ some '\ufeff')
    (read : ReadsLines ts lines)
    (placed : ofSections? (⟨.document, (sectionsOf lines).1⟩ :: (sectionsOf lines).2) =
      some document) :
    Toml.read? (String.ofList cs) = some document := by
  have unmarked : dropMark cs = cs := by
    cases cs with
    | nil => rfl
    | cons c rest =>
      have other : c ≠ '\ufeff' := fun same => noMark (same ▸ rfl)
      rw [dropMark, if_neg other]
  have tokens : all? cs = some ts := by
    have whole := cut []
    rw [List.append_nil, all?, Option.map_some, List.append_nil] at whole
    exact whole
  rw [Toml.read?, String.toList_ofList, unmarked, tokens]
  simpa [sections?, read.all] using placed

/-- Declarations in one array are read as this array.

**Proof sketch.** The text is one line, a key and an array as its value. The array is cut and read
item by item, as the items are. -/
private lemma read?_components {item : Declaration → List Char} {tokens : Declaration → List Token}
    {value : Declaration → Value} (ds : List Declaration) (cut : ∀ d, Piece (item d) (tokens d))
    (solid : ∀ d, Solid (item d)) (read : ∀ d, Reads (valueWithin? 79) (tokens d) (value d))
    (begins : ∀ d, ∃ t ts, tokens d = t :: ts ∧ t.isInk ∧ t.isClosing = false) :
    Toml.read? (String.ofList (writeComponents (ds.map item))) =
      some [("component", .array (ds.map value))] := by
  have array : Piece (enclose '[' ']' (ds.map item)) (enclosedTokens _ _ (ds.map tokens)) :=
    piece_enclose piece_brackets.1 piece_brackets.2 rfl (fun d _ => (cut d).part) fun d _ => solid d
  have component : Part ('c' :: "omponent".toList) [.bare "component".toList] :=
    part_bare (fun rest => rfl) rfl
  have line := component.append (array.part.equals ⟨'[', _, rfl, rfl⟩) rfl
  have reads : Reads (valueWithin? (79 + 1)) (enclosedTokens _ _ (ds.map tokens)) _ :=
    reads_array (fun d _ => read d) fun d _ => begins d
  refine read?_of_pieces (line.append_piece piece_newline rfl) ?_
    (readsLines_assignment (by decide) rfl reads) rfl
  change some 'c' ≠ some '\ufeff'
  decide

/-- Declarations under headers are read as an array of their tables, unless there are none.

**Proof sketch.** The text is a sequence of sections, each of them cut and read by itself. They are
placed one after the other behind those that are there. -/
private lemma read?_sections (form : Declaration → Char → EscapeForm)
    (style : Declaration → KeyStyle) (ds : List Declaration) :
    Toml.read? (String.ofList (ds.flatMap fun d => writeSection form d (style d))) =
      some (finished (listing (ds.map fun d => ((style d).keys d).map (branchOf d)))) := by
  refine read?_of_pieces (.flatMap fun d _ => piece_section form d (style d)) ?_
    (.flatMap fun d _ => readsLines_section d (style d)) ?_
  · cases ds with
    | nil => simp
    | cons d ds =>
      change some '[' ≠ some '\ufeff'
      decide
  · rw [sectionsOf_sections, ofSections?, List.foldlM_cons]
    have placed := placeAll_sections ds style []
    rw [List.nil_append] at placed
    change (List.foldlM place (listing []) _).map finished = _
    rw [placed, Option.map_some]

/-- The finished tables of declarations. -/
private lemma finishedAll_keys (ds : List Declaration) (style : Declaration → KeyStyle) :
    finishedAll (ds.map fun d => ((style d).keys d).map (branchOf d)) =
      ds.map fun d => .table (((style d).keys d).map (entryOf d)) := by
  induction ds with
  | nil => rfl
  | cons d ds ih => simp [finishedAll, finished_keys, ih]

/-- Values that stand for declarations one by one. -/
private lemma declares_map {value : Declaration → Value} (each : ∀ d, Declares (value d) d)
    (ds : List Declaration) : List.Forall₂ Declares (ds.map value) ds :=
  List.forall₂_map_left_iff.mpr (List.forall₂_same.mpr fun d _ => each d)

/-- A manifest that is written down is a document that spells its declarations, in order.

**Proof sketch.** By cases on the layout. In each of them the text is read as an array with one
value for each declaration, and each of these values declares it. -/
lemma spells_write (m : Manifest) (spelling : Spelling) :
    ∃ document, Toml.read? (m.write spelling) = some document ∧ Spells document m.components := by
  obtain ⟨layout, form⟩ := spelling
  obtain ⟨ds⟩ := m
  cases layout with
  | sections style =>
    refine ⟨_, read?_sections form style ds, ?_⟩
    cases ds with
    | nil => exact .nothing
    | cons d ds =>
      refine .components ?_
      rw [finishedAll_keys]
      exact declares_map (fun d => declares_table d (style d)) (d :: ds)
  | tables style =>
    refine ⟨_, read?_components ds (fun d => piece_table form d (style d))
      (fun d => ⟨'\x7b', _, rfl, rfl⟩) (fun d => reads_tableTokens d 78 (style d))
      (fun d => ⟨.openBrace, _, rfl, rfl, rfl⟩), .components ?_⟩
    exact declares_map (fun d => declares_table d (style d)) ds
  | arrays =>
    refine ⟨_, read?_components ds (piece_array form) (fun d => ⟨'[', _, rfl, rfl⟩)
      (fun d => reads_arrayTokens d 78) (fun d => ⟨.openBracket, _, rfl, rfl, rfl⟩), .components ?_⟩
    exact declares_map declares_array ds

/-! ## Names -/

/-- Distinct names that are not blank are accepted, if none of them has been seen.

**Proof sketch.** Induction on the declarations, with the names seen so far free. The first name is
seen now, and by assumption none of the others has it. -/
private lemma checkFrom_ok {ds : List Declaration} {seen : List String}
    (named : ∀ d ∈ ds, Text.isBlank d.name = false) (distinct : (ds.map Declaration.name).Nodup)
    (new : ∀ d ∈ ds, d.name ∉ seen) : checkFrom seen ds = .ok () := by
  induction ds generalizing seen with
  | nil => rfl
  | cons d ds ih =>
    obtain ⟨here, named⟩ := List.forall_mem_cons.mp named
    obtain ⟨unseen, new⟩ := List.forall_mem_cons.mp new
    obtain ⟨once, distinct⟩ := List.nodup_cons.mp distinct
    rw [checkFrom, here]
    simp only [Bool.false_eq_true, if_false, List.contains_iff_mem, if_neg unseen]
    refine ih named distinct fun other mem seen => ?_
    rcases List.mem_cons.mp seen with same | before
    · exact once (same ▸ List.mem_map_of_mem mem)
    · exact new other mem before

/-- **Round trip.** A manifest whose names are distinct and not blank is read back as it was, in
order, however it is spelled. -/
theorem read_write {m : Manifest} (named : ∀ d ∈ m.components, Text.isBlank d.name = false)
    (distinct : (m.components.map Declaration.name).Nodup) (spelling : Spelling) :
    Manifest.read (m.write spelling) = .ok m := by
  obtain ⟨document, parsed, spells⟩ := spells_write m spelling
  have fine : checkNames ⟨m.components⟩ = .ok () := checkFrom_ok named distinct (by simp)
  rcases read_of_spells parsed spells with ⟨read, -⟩ | ⟨e, -, refused, -⟩
  · exact read
  · rw [fine] at refused
    cases refused

/-- Three declarations whose names have quotes, backslashes, line ends and characters of several
scripts in them. -/
def oddNames : Manifest :=
  ⟨[⟨"a \"b\"\\", true⟩, ⟨"\r\n\x1b.\u0085x", false⟩, ⟨"名前 = 'é'", false⟩]⟩

/-- Escapes of all forms. -/
def oddForm (d : Declaration) (c : Char) : EscapeForm :=
  if d.start then .four else if c = '\n' then .letter else if c = '\r' then .eight else .two

/-- Keys in both orders, with and without a start mark that says no. -/
def oddStyle (d : Declaration) : KeyStyle := ⟨d.start, d.name.contains 'x'⟩

/-- They are read back from all three layouts. -/
theorem read_write_oddNames :
    Manifest.read (oddNames.write ⟨.sections oddStyle, oddForm⟩) = .ok oddNames ∧
      Manifest.read (oddNames.write ⟨.tables oddStyle, oddForm⟩) = .ok oddNames ∧
      Manifest.read (oddNames.write ⟨.arrays, oddForm⟩) = .ok oddNames := by
  have named : ∀ d ∈ oddNames.components, Text.isBlank d.name = false := by decide
  have distinct : (oddNames.components.map Declaration.name).Nodup := by decide
  exact ⟨read_write named distinct _, read_write named distinct _, read_write named distinct _⟩

end Manifest

end Standby
