import Mathlib.Data.List.Nodup
import Standby.Toml.Document
set_option autoImplicit false

/-!
# The keys of a document

No table of a document that is read has a key twice, at whatever depth.

## Main definitions

* `Standby.Toml.Value.Distinct` — the keys of every table in a value are distinct.
* `Standby.Toml.Branches.Distinct` — those of a table in the making and of all that is in it are.

## Main results

* `Standby.Toml.distinct_of_read` — a document that is read has distinct keys.

## Design

A table in the making is only ever changed by altering what stands under one key, so this is where
keys could be doubled. Everything else says that what stands under a key stays distinct if what is
put there is. Values come from tokens by recursion on the depth that is left.
-/

namespace Standby.Toml

/-! ## Distinct keys -/

/-- The keys of every table in a value are distinct. -/
inductive Value.Distinct : Value → Prop
  | text (s : String) : Distinct (.text s)
  | integer (n : Int) : Distinct (.integer n)
  | float (x : Binary64) : Distinct (.float x)
  | unreadable : Distinct .unreadable
  | boolean (b : Bool) : Distinct (.boolean b)
  | moment : Distinct .moment
  | array {items : List Value} (inside : ∀ v ∈ items, Distinct v) : Distinct (.array items)
  | table {entries : List (String × Value)} (keys : (entries.map Prod.fst).Nodup)
      (inside : ∀ entry ∈ entries, Distinct entry.2) : Distinct (.table entries)

/-- The keys of every table in a value in the making are distinct. -/
inductive Node.Distinct : Node → Prop
  | leaf {v : Value} (inside : v.Distinct) : Distinct (.leaf v)
  | table {origin : Origin} {entries : List (String × Node)} (keys : (entries.map Prod.fst).Nodup)
      (inside : ∀ entry ∈ entries, Distinct entry.2) : Distinct (.table origin entries)
  | sections {tables : List (List (String × Node))}
      (keys : ∀ entries ∈ tables, (entries.map Prod.fst).Nodup)
      (inside : ∀ entries ∈ tables, ∀ entry ∈ entries, Distinct entry.2) :
      Distinct (.sections tables)

/-- The keys of a table in the making and of every table in it are distinct. -/
def Branches.Distinct (entries : Branches) : Prop :=
  (entries.map Prod.fst).Nodup ∧ ∀ entry ∈ entries, entry.2.Distinct

/-- What a table in the making is changed to has distinct keys if the table has. -/
def Branches.Keeps (f : Branches → Option Branches) : Prop :=
  ∀ ⦃entries⦄, Branches.Distinct entries → ∀ ⦃entries'⦄, f entries = some entries' →
    Branches.Distinct entries'

/-- What is put under a key has distinct keys if what stood there has. -/
def Node.Keeps (f : Option Node → Option Node) : Prop :=
  ∀ ⦃before⦄, (∀ n ∈ before, Node.Distinct n) → ∀ ⦃n⦄, f before = some n → n.Distinct

/-- A table without keys. -/
private lemma Branches.distinct_nil : Branches.Distinct [] := ⟨List.nodup_nil, by simp⟩

/-- An array of tables is distinct if its tables are. -/
private lemma Node.distinct_sections {tables : List Branches}
    (h : ∀ entries ∈ tables, Branches.Distinct entries) : Node.Distinct (.sections tables) :=
  .sections (fun entries mem => (h entries mem).1) fun entries mem => (h entries mem).2

/-- The tables of an array that is distinct are. -/
private lemma Node.Distinct.tables {tables : List Branches} (h : Node.Distinct (.sections tables)) :
    ∀ entries ∈ tables, Branches.Distinct entries := by
  cases h with
  | sections keys inside => exact fun entries mem => ⟨keys entries mem, inside entries mem⟩

/-- The entries of a table that is distinct are. -/
private lemma Node.Distinct.entries {origin : Origin} {entries : Branches}
    (h : Node.Distinct (.table origin entries)) : Branches.Distinct entries := by
  cases h with
  | table keys inside => exact ⟨keys, inside⟩

/-! ## Tables in the making -/

/-- To alter what stands under a key adds at most this key.

**Proof sketch.** Induction on the entries. The key is found and keeps its place, or it is put at
the end. -/
private lemma mem_keys_of_alter {key : String} {f : Option Node → Option Node}
    {entries entries' : Branches} (altered : alter key f entries = some entries') {k : String}
    (mem : k ∈ entries'.map Prod.fst) : k ∈ entries.map Prod.fst ∨ k = key := by
  induction entries generalizing entries' with
  | nil =>
    obtain ⟨n, -, rfl⟩ := Option.map_eq_some_iff.mp altered
    exact .inr (by simpa using mem)
  | cons entry rest ih =>
    rw [alter] at altered
    split at altered
    · obtain ⟨n, -, rfl⟩ := Option.map_eq_some_iff.mp altered
      exact .inl mem
    · obtain ⟨rest', further, rfl⟩ := Option.map_eq_some_iff.mp altered
      rcases List.mem_cons.mp mem with rfl | mem
      · exact .inl List.mem_cons_self
      · exact (ih further mem).imp (List.mem_cons_of_mem _) id

/-- To alter what stands under a key keeps keys distinct.

**Proof sketch.** Induction on the entries. The rest gets at most the key that is altered, and the
first entry has another one, so it is still not repeated. -/
private lemma alter_keeps {f : Option Node → Option Node} (keeps : Node.Keeps f) (key : String) :
    Branches.Keeps (alter key f) := by
  intro entries
  induction entries with
  | nil =>
    intro _ entries' altered
    obtain ⟨n, put, rfl⟩ := Option.map_eq_some_iff.mp altered
    exact ⟨List.nodup_singleton key, by simpa using keeps (by simp) put⟩
  | cons entry rest ih =>
    rintro ⟨keys, inside⟩ entries' altered
    obtain ⟨fresh, keys⟩ := List.nodup_cons.mp keys
    obtain ⟨here, inside⟩ := List.forall_mem_cons.mp inside
    rw [alter] at altered
    split at altered
    · obtain ⟨n, put, rfl⟩ := Option.map_eq_some_iff.mp altered
      have distinct : n.Distinct := keeps (by simpa using here) put
      exact ⟨List.nodup_cons.mpr ⟨fresh, keys⟩, List.forall_mem_cons.mpr ⟨distinct, inside⟩⟩
    next other =>
      obtain ⟨rest', further, rfl⟩ := Option.map_eq_some_iff.mp altered
      obtain ⟨keys', inside'⟩ := ih ⟨keys, inside⟩ further
      have fresh' : entry.1 ∉ rest'.map Prod.fst := fun mem =>
        (mem_keys_of_alter further mem).elim fresh other
      exact ⟨List.nodup_cons.mpr ⟨fresh', keys'⟩, List.forall_mem_cons.mpr ⟨here, inside'⟩⟩

/-- To alter the last of several tables keeps keys distinct.

**Proof sketch.** Induction on the tables. The last one is altered, and those before it stay as they
are. -/
private lemma alterLast_keeps {f : Branches → Option Branches} (keeps : Branches.Keeps f)
    {tables tables' : List Branches} (distinct : ∀ entries ∈ tables, Branches.Distinct entries)
    (altered : alterLast f tables = some tables') :
    ∀ entries ∈ tables', Branches.Distinct entries := by
  induction tables generalizing tables' with
  | nil => cases altered
  | cons first rest ih =>
    obtain ⟨here, later⟩ := List.forall_mem_cons.mp distinct
    cases rest with
    | nil =>
      obtain ⟨last, put, rfl⟩ := Option.map_eq_some_iff.mp altered
      simpa using keeps here put
    | cons second rest =>
      obtain ⟨rest', further, rfl⟩ := Option.map_eq_some_iff.mp altered
      exact List.forall_mem_cons.mpr ⟨here, ih later further⟩

/-- To set a dotted key keeps keys distinct.

**Proof sketch.** Induction on the dotted key. The last part puts a value under a key that is free,
and each part before it alters a table, or makes one, by the rest of the key. -/
private lemma assign_keeps {v : Value} (hv : v.Distinct) (path : List String) :
    Branches.Keeps (assign path v) := by
  induction path with
  | nil => exact fun _ _ _ assigned => nomatch assigned
  | cons key path ih =>
    cases path with
    | nil =>
      refine alter_keeps (fun before _ n put => ?_) key
      cases before with
      | none => cases put; exact .leaf hv
      | some _ => cases put
    | cons next path =>
      refine alter_keeps (fun before distinct n put => ?_) key
      match before, put with
      | none, put =>
        obtain ⟨entries, assigned, rfl⟩ := Option.map_eq_some_iff.mp put
        obtain ⟨keys, inside⟩ := ih Branches.distinct_nil assigned
        exact .table keys inside
      | some (.table .passing entries), put | some (.table .dotted entries), put =>
        obtain ⟨entries', assigned, rfl⟩ := Option.map_eq_some_iff.mp put
        obtain ⟨keys, inside⟩ := ih (distinct _ rfl).entries assigned
        exact .table keys inside
      | some (.sections tables), put =>
        simp only at put
        split at put
        · cases put
        · obtain ⟨tables', altered, rfl⟩ := Option.map_eq_some_iff.mp put
          exact Node.distinct_sections (alterLast_keeps ih (distinct _ rfl).tables altered)

/-- To set dotted keys to values that are distinct keeps keys distinct.

**Proof sketch.** Induction on the assignments. -/
private lemma fill_keeps {assignments : List Assignment}
    (values : ∀ a ∈ assignments, a.2.Distinct) : Branches.Keeps (fill assignments) := by
  induction assignments with
  | nil =>
    intro entries distinct entries' filled
    obtain rfl : entries = entries' := Option.some.inj filled
    exact distinct
  | cons a rest ih =>
    intro entries distinct entries' filled
    obtain ⟨here, later⟩ := List.forall_mem_cons.mp values
    rw [fill, List.foldlM_cons] at filled
    obtain ⟨entries'', assigned, filled⟩ := Option.bind_eq_some_iff.mp filled
    exact ih later (assign_keeps here a.1 distinct assigned) filled

/-- To change what a dotted name stands for keeps keys distinct, if the change does.

**Proof sketch.** Induction on the dotted name. The last part is changed, and each part before it
leads into a table, or into the last table of an array. -/
private lemma within_keeps {f : Option Node → Option Node} (keeps : Node.Keeps f)
    (path : List String) : Branches.Keeps (within f path) := by
  induction path with
  | nil => exact fun _ _ _ changed => nomatch changed
  | cons key path ih =>
    cases path with
    | nil => exact alter_keeps keeps key
    | cons next path =>
      refine alter_keeps (fun before distinct n put => ?_) key
      match before, put with
      | none, put =>
        obtain ⟨entries, changed, rfl⟩ := Option.map_eq_some_iff.mp put
        obtain ⟨keys, inside⟩ := ih Branches.distinct_nil changed
        exact .table keys inside
      | some (.table origin entries), put =>
        obtain ⟨entries', changed, rfl⟩ := Option.map_eq_some_iff.mp put
        obtain ⟨keys, inside⟩ := ih (distinct _ rfl).entries changed
        exact .table keys inside
      | some (.sections tables), put =>
        obtain ⟨tables', altered, rfl⟩ := Option.map_eq_some_iff.mp put
        exact Node.distinct_sections (alterLast_keeps ih (distinct _ rfl).tables altered)

/-- What a table with a header of its own holds has distinct keys.

**Proof sketch.** By cases on what is there. The table is new, or it was only passed through so far,
and in both cases it is filled. -/
private lemma defineTable_keeps {assignments : List Assignment}
    (values : ∀ a ∈ assignments, a.2.Distinct) : Node.Keeps (defineTable assignments) := by
  intro before distinct n put
  match before, put with
  | none, put =>
    obtain ⟨entries, filled, rfl⟩ := Option.map_eq_some_iff.mp put
    obtain ⟨keys, inside⟩ := fill_keeps values Branches.distinct_nil filled
    exact .table keys inside
  | some (.table .passing entries), put =>
    obtain ⟨entries', filled, rfl⟩ := Option.map_eq_some_iff.mp put
    obtain ⟨keys, inside⟩ := fill_keeps values (distinct _ rfl).entries filled
    exact .table keys inside

/-- One more table of an array has distinct keys.

**Proof sketch.** By cases on what is there. The new table is filled by itself, and those before it
stay as they are. -/
private lemma addElement_keeps {assignments : List Assignment}
    (values : ∀ a ∈ assignments, a.2.Distinct) : Node.Keeps (addElement assignments) := by
  intro before distinct n put
  match before, put with
  | none, put =>
    obtain ⟨entries, filled, rfl⟩ := Option.map_eq_some_iff.mp put
    exact Node.distinct_sections (by simpa using fill_keeps values Branches.distinct_nil filled)
  | some (.sections tables), put =>
    obtain ⟨entries, filled, rfl⟩ := Option.map_eq_some_iff.mp put
    have added := fill_keeps values Branches.distinct_nil filled
    refine Node.distinct_sections (List.forall_mem_append.mpr ⟨(distinct _ rfl).tables, ?_⟩)
    simpa using added

/-- To put a section in its place keeps keys distinct. -/
private lemma place_keeps {s : Section} (values : ∀ a ∈ s.assignments, a.2.Distinct) :
    Branches.Keeps (place · s) := by
  intro entries distinct entries' placed
  simp only [place] at placed
  split at placed
  · exact fill_keeps values distinct placed
  · exact within_keeps (defineTable_keeps values) _ distinct placed
  · exact within_keeps (addElement_keeps values) _ distinct placed

/-! ## Finished values -/

/-- The keys of a finished table are those of the table in the making. -/
private lemma finished_eq (entries : List (String × Node)) :
    finished entries = entries.map fun entry => (entry.1, entry.2.value) := by
  induction entries with
  | nil => rfl
  | cons entry rest ih => rw [finished, ih, List.map_cons]

/-- The finished tables of an array, one by one. -/
private lemma finishedAll_eq (tables : List (List (String × Node))) :
    finishedAll tables = tables.map fun entries => .table (finished entries) := by
  induction tables with
  | nil => rfl
  | cons entries rest ih => rw [finishedAll, ih, List.map_cons]

/-- A finished table has distinct keys if the table in the making has. -/
private lemma distinct_finished_of {entries : List (String × Node)}
    (keys : (entries.map Prod.fst).Nodup) (inside : ∀ entry ∈ entries, entry.2.value.Distinct) :
    Value.Distinct (.table (finished entries)) := by
  rw [finished_eq]
  refine .table ?_ ?_
  · rw [List.map_map]
    exact keys
  · intro _ finished
    obtain ⟨entry, mem, rfl⟩ := List.mem_map.mp finished
    exact inside entry mem

/-- A finished value has distinct keys if the value in the making has.

**Proof sketch.** Induction on what is in the making. To finish a value leaves its keys. -/
private lemma Node.Distinct.value {n : Node} (h : n.Distinct) : n.value.Distinct := by
  induction h with
  | leaf inside =>
    rw [Node.value]
    exact inside
  | table keys _ ih =>
    rw [Node.value]
    exact distinct_finished_of keys ih
  | sections keys _ ih =>
    rw [Node.value, finishedAll_eq]
    refine .array fun _ finished => ?_
    obtain ⟨entries, mem, rfl⟩ := List.mem_map.mp finished
    exact distinct_finished_of (keys entries mem) (ih entries mem)

/-- A finished table has distinct keys at whatever depth if the table in the making has. -/
private lemma Branches.Distinct.finished {entries : Branches} (h : Branches.Distinct entries) :
    Value.Distinct (.table (finished entries)) :=
  distinct_finished_of h.1 fun entry mem => (h.2 entry mem).value

/-! ## Values that are read -/

/-- A scalar has no tables.

**Proof sketch.** By cases on how the scalar is read. None of the results is a table or an array. -/
private lemma distinct_of_scalar {cs : List Char} {v : Value} (h : Scalar.value? cs = some v) :
    v.Distinct := by
  have whole (n : Int) : (Scalar.ofWhole n).Distinct := by
    rw [Scalar.ofWhole]
    split
    · exact .integer n
    · exact .unreadable
  have real (x : Binary64) : (Scalar.ofDigits x).Distinct := by
    cases x with
    | infinite _ => exact .unreadable
    | finite _ _ _ | notANumber => exact .float _
  rw [Scalar.value?] at h
  split at h
  · cases h
    exact .boolean _
  next n read =>
    cases h
    obtain ⟨i, -, rfl⟩ := Option.map_eq_some_iff.mp read
    exact whole i
  next x read =>
    cases h
    simp only [Scalar.float?] at read
    split_ifs at read
    · cases read; exact .float _
    · cases read; exact .float _
    · split at read
      · cases read; exact real _
      · cases read
  · split_ifs at h
    · cases h; exact .moment
    · cases h; exact .unreadable

/-- Whatever is true of each item that may be read is true of all items between brackets.

**Proof sketch.** Induction on the bound of the items. Each item that is listed was read by the
reader of items. -/
private lemma forall_of_items {α : Type} {P : α → Prop}
    {item? : List Token → Option (α × List Token)}
    (item : ∀ ts a rest, item? ts = some (a, rest) → P a) {close : Token} {bound : Nat}
    {ts rest : List Token} {items : List α}
    (h : itemsUpTo? item? close bound ts = some (items, rest)) : ∀ a ∈ items, P a := by
  induction bound generalizing ts items with
  | zero => cases h
  | succ bound ih =>
    rw [itemsUpTo?] at h
    split at h
    · cases h
    · split at h
      · cases h
        simp
      · split at h
        · cases h
        next a _ read =>
          have first := item _ _ _ read
          split at h
          · obtain ⟨⟨others, _⟩, further, same⟩ := Option.map_eq_some_iff.mp h
            cases same
            exact List.forall_mem_cons.mpr ⟨first, ih further⟩
          · split at h
            · cases h
              simpa using first
            · cases h
          · cases h

/-- The value that a key is set to is one that is read. -/
private lemma distinct_of_assignment {skip : List Token → List Token}
    {value? : List Token → Option (Value × List Token)}
    (value : ∀ ts v rest, value? ts = some (v, rest) → v.Distinct) (ts : List Token)
    (a : Assignment) (rest : List Token)
    (h : assignmentWith? skip value? ts = some (a, rest)) : a.2.Distinct := by
  rw [assignmentWith?] at h
  split at h
  · cases h
  · split at h
    · obtain ⟨⟨v, _⟩, read, same⟩ := Option.map_eq_some_iff.mp h
      cases same
      exact value _ _ _ read
    · cases h

/-- The table of keys that are set in one pair of braces has distinct keys. -/
private lemma distinct_of_assignments {assignments : List Assignment} {entries : Entries}
    (values : ∀ a ∈ assignments, a.2.Distinct) (h : ofAssignments? assignments = some entries) :
    Value.Distinct (.table entries) := by
  obtain ⟨branches, filled, rfl⟩ := Option.map_eq_some_iff.mp h
  exact (fill_keeps values Branches.distinct_nil filled).finished

/-- A value that is read has distinct keys.

**Proof sketch.** Induction on the depth that is left. Items and assignments are read one level
deeper. -/
private lemma distinct_of_value (depth : Nat) (ts : List Token) (v : Value) (rest : List Token)
    (h : valueWithin? depth ts = some (v, rest)) : v.Distinct := by
  -- A scalar leaves nothing to read deeper, whatever the depth.
  have plain {ts : List Token} {v : Value} {rest : List Token} (h : scalar? ts = some (v, rest)) :
      v.Distinct := by
    obtain ⟨v', read, same⟩ := Option.map_eq_some_iff.mp h
    cases same
    exact distinct_of_scalar read
  induction depth generalizing ts v rest with
  | zero =>
    unfold valueWithin? at h
    split at h
    · cases h
      exact .text _
    · exact plain h
    all_goals contradiction
  | succ depth ih =>
    unfold valueWithin? at h
    split at h
    · cases h
      exact .text _
    · contradiction
    next depth' inner same =>
      obtain rfl : depth = depth' := Nat.succ.inj same
      obtain ⟨⟨items, _⟩, read, whole⟩ := Option.map_eq_some_iff.mp h
      cases whole
      exact .array (forall_of_items ih read)
    next depth' inner same =>
      obtain rfl : depth = depth' := Nat.succ.inj same
      split at h
      · cases h
      next assignments _ read =>
        obtain ⟨entries, made, whole⟩ := Option.map_eq_some_iff.mp h
        cases whole
        exact distinct_of_assignments (forall_of_items (distinct_of_assignment ih) read) made
    · exact plain h

/-! ## Documents -/

/-- The key of a line is set to a value with distinct keys. -/
private lemma distinct_of_line {ts rest : List Token} {a : Assignment}
    (h : line? ts = some (.assignment a, rest)) : a.2.Distinct := by
  unfold line? at h
  split at h
  · obtain ⟨_, -, h⟩ := Option.bind_eq_some_iff.mp h
    obtain ⟨_, -, same⟩ := Option.map_eq_some_iff.mp h
    cases same
  · obtain ⟨⟨a', _⟩, read, h⟩ := Option.bind_eq_some_iff.mp h
    obtain ⟨_, -, same⟩ := Option.map_eq_some_iff.mp h
    cases same
    exact distinct_of_assignment (distinct_of_value depthLimit) _ _ _ read

/-- All keys of a document are set to values with distinct keys.

**Proof sketch.** Induction on the bound of the lines. A line that sets a key was read with a value,
and values have distinct keys. -/
private lemma distinct_of_lines {bound : Nat} {ts : List Token} {lines : List Line}
    (h : linesUpTo? bound ts = some lines) : ∀ a, Line.assignment a ∈ lines → a.2.Distinct := by
  induction bound generalizing ts lines with
  | zero => cases h
  | succ bound ih =>
    rw [linesUpTo?] at h
    split at h
    · cases h
      simp
    · split at h
      · cases h
      next line rest read =>
        obtain ⟨later, further, rfl⟩ := Option.map_eq_some_iff.mp h
        intro a mem
        rcases List.mem_cons.mp mem with rfl | mem
        · exact distinct_of_line read
        · exact ih further a mem

/-- Every key that is set in a section is set in a line of the document.

**Proof sketch.** Induction on the lines. A header begins a section with what was collected behind
it, and an assignment goes to those that were collected. -/
private lemma mem_of_sectionsOf (lines : List Line) :
    (∀ a ∈ (sectionsOf lines).1, Line.assignment a ∈ lines) ∧
      ∀ s ∈ (sectionsOf lines).2, ∀ a ∈ s.assignments, Line.assignment a ∈ lines := by
  induction lines with
  | nil => simp [sectionsOf]
  | cons line rest ih =>
    obtain ⟨first, later⟩ := ih
    cases line with
    | assignment a =>
      refine ⟨fun a' mem => ?_, fun s mem a' set => List.mem_cons_of_mem _ (later s mem a' set)⟩
      rcases List.mem_cons.mp mem with rfl | mem
      · exact List.mem_cons_self
      · exact List.mem_cons_of_mem _ (first a' mem)
    | header h =>
      refine ⟨by simp [sectionsOf], fun s mem a set => List.mem_cons_of_mem _ ?_⟩
      rcases List.mem_cons.mp mem with rfl | mem
      · exact first a set
      · exact later s mem a set

/-- All keys of the sections of a document are set to values with distinct keys. -/
private lemma distinct_of_sections {ts : List Token} {sections : List Section}
    (h : sections? ts = some sections) : ∀ s ∈ sections, ∀ a ∈ s.assignments, a.2.Distinct := by
  obtain ⟨lines, read, rfl⟩ := Option.map_eq_some_iff.mp h
  obtain ⟨first, later⟩ := mem_of_sectionsOf lines
  intro s mem a set
  apply distinct_of_lines read a
  rcases List.mem_cons.mp mem with rfl | mem
  · exact first a set
  · exact later s mem a set

/-- To put all sections in their places keeps keys distinct.

**Proof sketch.** Induction on the sections. -/
private lemma placeAll_keeps {sections : List Section}
    (values : ∀ s ∈ sections, ∀ a ∈ s.assignments, a.2.Distinct) :
    Branches.Keeps fun document => sections.foldlM place document := by
  induction sections with
  | nil =>
    intro document distinct document' placed
    obtain rfl : document = document' := Option.some.inj placed
    exact distinct
  | cons s rest ih =>
    intro document distinct document' placed
    obtain ⟨here, later⟩ := List.forall_mem_cons.mp values
    simp only [List.foldlM_cons] at placed
    obtain ⟨document'', first, placed⟩ := Option.bind_eq_some_iff.mp placed
    exact ih later (place_keeps here distinct first) placed

/-- **Distinct keys.** No table of a document that is read, and not the document itself, has a key
twice. -/
theorem distinct_of_read {text : String} {document : Entries} (h : read? text = some document) :
    Value.Distinct (.table document) := by
  obtain ⟨tokens, -, h⟩ := Option.bind_eq_some_iff.mp h
  obtain ⟨sections, read, h⟩ := Option.bind_eq_some_iff.mp h
  obtain ⟨branches, placed, rfl⟩ := Option.map_eq_some_iff.mp h
  exact (placeAll_keeps (distinct_of_sections read) Branches.distinct_nil placed).finished

end Standby.Toml
