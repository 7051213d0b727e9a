import Standby.Manifest.Read
import Standby.Proofs.Names
import Standby.Proofs.Text.ByteOrder
import Standby.Proofs.Toml.Distinct
set_option autoImplicit false

/-!
# Documents that are manifests, and what is wrong with the others

Which documents declare components, and which components these are, is said here without saying how
one finds out; so is what is wrong first with any other document.

## Main definitions

* `Standby.Declares`, `Standby.Spells` — the declaration that a value stands for, and the
  declarations of a document.
* `Standby.FirstIn`, `Standby.FirstAmong` — the first problem of a list, and of a table in ascending
  order of its keys.
* `Standby.Flawed`, `Standby.Misfit` — what is wrong with a value that stands for no declaration,
  and with an entry of a document.

## Main results

* `Standby.Manifest.ofEntries_ok_iff`, `Standby.Manifest.ofEntries_error_iff` — what a document is
  taken for.
* `Standby.Manifest.read_of_document` — what becomes of a text that is a document.

## Design

Each function of the reader has two lemmas, one for what it accepts and one for what it reports.
Keys are visited in ascending order, and to visit them one after the other and stop at the first
problem finds the problem of the least key that has one, since no key occurs twice.
-/

namespace Standby

open Toml (Value Entries)

/-! ## First problems -/

section Visits

variable {α β ε : Type} {Problem : β → ε → Prop}

/-- `e` is what is wrong with the first item of a list with which something is wrong. -/
def FirstIn (Problem : β → ε → Prop) (items : List β) (e : ε) : Prop :=
  ∃ before item after, items = before ++ item :: after ∧ Problem item e ∧
    ∀ other ∈ before, ∀ e', ¬ Problem other e'

/-- Nothing is wrong with no item. -/
private lemma not_firstIn_nil {e : ε} : ¬ FirstIn Problem [] e := by
  rintro ⟨before, item, after, whole, -⟩
  exact List.append_ne_nil_of_right_ne_nil _ (List.cons_ne_nil _ _) whole.symm

/-- The first problem is that of the first item, or nothing is wrong with this one.

**Proof sketch.** By cases on whether nothing comes before the item with the problem. If so it is
the first item, and if not the first item is among those that are fine. -/
private lemma firstIn_cons {item : β} {rest : List β} {e : ε} :
    FirstIn Problem (item :: rest) e ↔
      Problem item e ∨ (∀ e', ¬ Problem item e') ∧ FirstIn Problem rest e := by
  constructor
  · rintro ⟨before, other, after, whole, problem, fine⟩
    rw [List.cons_eq_append_iff] at whole
    rcases whole with ⟨rfl, whole⟩ | ⟨before, rfl, rfl⟩
    · cases whole
      exact .inl problem
    · obtain ⟨here, fine⟩ := List.forall_mem_cons.mp fine
      exact .inr ⟨here, before, other, after, rfl, problem, fine⟩
  · rintro (problem | ⟨here, before, other, after, rfl, problem, fine⟩)
    · exact ⟨[], item, rest, rfl, problem, by simp⟩
    · exact ⟨item :: before, other, after, rfl, problem, List.forall_mem_cons.mpr ⟨here, fine⟩⟩

/-- One after the other succeeds if both do. -/
private lemma bind_ok_iff {x : Except ε α} {f : α → Except ε β} {b : β} :
    x >>= f = .ok b ↔ ∃ a, x = .ok a ∧ f a = .ok b := by
  cases x <;> simp [bind, Except.bind]

/-- One after the other fails with the first failure. -/
private lemma bind_error_iff {x : Except ε α} {f : α → Except ε β} {e : ε} :
    x >>= f = .error e ↔ x = .error e ∨ ∃ a, x = .ok a ∧ f a = .error e := by
  cases x <;> simp [bind, Except.bind]

/-- To read items one by one fails with the first problem.

**Proof sketch.** Induction on the items. The first one fails, or it is read and the failure is one
of the rest. -/
private lemma mapM_error_iff {f : β → Except ε α} {items : List β}
    (faults : ∀ item ∈ items, ∀ e, f item = .error e ↔ Problem item e) {e : ε} :
    items.mapM f = .error e ↔ FirstIn Problem items e := by
  induction items with
  | nil => simp [not_firstIn_nil, pure, Except.pure]
  | cons item rest ih =>
    obtain ⟨here, later⟩ := List.forall_mem_cons.mp faults
    rw [firstIn_cons, ← ih later, List.mapM_cons]
    simp only [← here]
    cases f item with
    | error e' => simp [bind, Except.bind]
    | ok a => cases rest.mapM f <;> simp [bind, Except.bind, pure, Except.pure]

/-- To read items one by one gives what each of them stands for.

**Proof sketch.** Induction on the items, along the two constructors of what stands for them one by
one. -/
private lemma mapM_ok_iff {Stands : β → α → Prop} {f : β → Except ε α} {items : List β}
    (stands : ∀ item ∈ items, ∀ a, f item = .ok a ↔ Stands item a) {results : List α} :
    items.mapM f = .ok results ↔ List.Forall₂ Stands items results := by
  induction items generalizing results with
  | nil => cases results <;> simp [pure, Except.pure]
  | cons item rest ih =>
    obtain ⟨here, later⟩ := List.forall_mem_cons.mp stands
    rw [List.mapM_cons, bind_ok_iff]
    simp only [bind_ok_iff, here, ih later]
    constructor
    · rintro ⟨a, first, others, further, ⟨⟩⟩
      exact .cons first further
    · intro h
      cases h with
      | cons first further => exact ⟨_, first, _, further, rfl⟩

/-- To take items into account one after the other fails with the first problem, if what is wrong
with an item does not depend on those before it.

**Proof sketch.** Induction on the items, with the value so far free, because what is wrong with an
item does not depend on it. -/
private lemma foldlM_error_iff {f : α → β → Except ε α} {items : List β}
    (faults : ∀ item ∈ items, ∀ a e, f a item = .error e ↔ Problem item e) {a : α} {e : ε} :
    items.foldlM f a = .error e ↔ FirstIn Problem items e := by
  induction items generalizing a with
  | nil => simp [not_firstIn_nil, pure, Except.pure]
  | cons item rest ih =>
    obtain ⟨here, later⟩ := List.forall_mem_cons.mp faults
    rw [firstIn_cons, List.foldlM_cons]
    simp only [← here a]
    cases f a item with
    | error e' => simp [bind, Except.bind]
    | ok a' => simpa [bind, Except.bind] using ih later

/-- Nothing is wrong with items that can be taken into account. -/
private lemma not_firstIn_of_foldlM {f : α → β → Except ε α} {items : List β}
    (faults : ∀ item ∈ items, ∀ a e, f a item = .error e ↔ Problem item e) {a a' : α}
    (h : items.foldlM f a = .ok a') (e : ε) : ¬ FirstIn Problem items e := by
  rw [← foldlM_error_iff faults (a := a), h]
  exact fun same => nomatch same

/-- Without a first problem nothing is wrong with any item. -/
private lemma fine_of_not_firstIn {items : List β} (h : ∀ e, ¬ FirstIn Problem items e) :
    ∀ item ∈ items, ∀ e, ¬ Problem item e := by
  induction items with
  | nil => simp
  | cons item rest ih =>
    have here : ∀ e, ¬ Problem item e := fun e problem => h e (firstIn_cons.mpr (.inl problem))
    exact List.forall_mem_cons.mpr
      ⟨here, ih fun e problem => h e (firstIn_cons.mpr (.inr ⟨here, problem⟩))⟩

end Visits

/-! ## Keys in ascending order -/

/-- `e` is what is wrong with the entry whose key comes first, byte by byte, among all entries with
which something is wrong. -/
def FirstAmong (Problem : String × Value → SchemaError → Prop) (entries : Entries)
    (e : SchemaError) : Prop :=
  ∃ entry ∈ entries, Problem entry e ∧
    ∀ other ∈ entries, Text.bytes other.1 < Text.bytes entry.1 → ∀ e', ¬ Problem other e'

/-- To visit entries in ascending order leaves none out and adds none. -/
private lemma ascending_perm (entries : Entries) : (ascending entries).Perm entries :=
  List.mergeSort_perm _ _

/-- Distinct keys are visited in strictly ascending order. -/
private lemma pairwise_ascending {entries : Entries} (keys : (entries.map Prod.fst).Nodup) :
    (ascending entries).Pairwise fun a b => Text.bytes a.1 < Text.bytes b.1 :=
  Text.pairwise_mergeSort keys

/-- The first problem that one meets when one visits entries in ascending order.

**Proof sketch.** The entries that come before another are exactly those with a lesser key. -/
private lemma firstIn_ascending_iff {Problem : String × Value → SchemaError → Prop}
    {entries : Entries} (keys : (entries.map Prod.fst).Nodup) {e : SchemaError} :
    FirstIn Problem (ascending entries) e ↔ FirstAmong Problem entries e := by
  have sorted := pairwise_ascending keys
  constructor
  · rintro ⟨before, entry, after, whole, problem, fine⟩
    have among {other : String × Value} (mem : other ∈ entries) :
        other ∈ before ++ entry :: after :=
      whole ▸ (ascending_perm entries).mem_iff.mpr mem
    have here : entry ∈ entries :=
      (ascending_perm entries).mem_iff.mp (whole ▸ List.mem_append_right _ List.mem_cons_self)
    rw [whole, List.pairwise_append, List.pairwise_cons] at sorted
    refine ⟨entry, here, problem, fun other mem less => ?_⟩
    rcases List.mem_append.mp (among mem) with first | later
    · exact fine other first
    · rcases List.mem_cons.mp later with rfl | later
      · exact absurd less (List.lt_irrefl _)
      · exact absurd less (List.lt_asymm (sorted.2.1.1 other later))
  · rintro ⟨entry, here, problem, fine⟩
    obtain ⟨before, after, whole⟩ :=
      List.append_of_mem ((ascending_perm entries).mem_iff.mpr here)
    refine ⟨before, entry, after, whole, problem, fun other mem => ?_⟩
    have known : other ∈ entries :=
      (ascending_perm entries).mem_iff.mp (whole ▸ List.mem_append_left _ mem)
    rw [whole, List.pairwise_append] at sorted
    exact fine other known (sorted.2.2 other mem entry List.mem_cons_self)

/-- Where nothing is wrong first, nothing is wrong with any entry. -/
private lemma fine_of_ascending {Problem : String × Value → SchemaError → Prop} {entries : Entries}
    (h : ∀ e, ¬ FirstIn Problem (ascending entries) e) :
    ∀ entry ∈ entries, ∀ e, ¬ Problem entry e :=
  fun entry mem => fine_of_not_firstIn h entry ((ascending_perm entries).mem_iff.mpr mem)

/-! ## Declarations -/

/-- The declaration that a value stands for: a table that holds a name, perhaps a start mark, and
nothing else, or an array that begins with a name and goes on, if it does, with a start mark. -/
inductive Declares : Value → Declaration → Prop
  | table {entries : Entries} {name : String} {start : Bool}
      (named : ("name", .text name) ∈ entries)
      (marked : ("start", .boolean start) ∈ entries ∨ start = false ∧ ∀ v, ("start", v) ∉ entries)
      (known : ∀ entry ∈ entries, entry.1 = "name" ∨ entry.1 = "start") :
      Declares (.table entries) ⟨name, start⟩
  | named (name : String) : Declares (.array [.text name]) ⟨name, false⟩
  | marked (name : String) (start : Bool) (more : List Value) :
      Declares (.array (.text name :: .boolean start :: more)) ⟨name, start⟩

/-- What is wrong with an entry of the table of a declaration. -/
inductive Misplaced : String × Value → SchemaError → Prop
  | unknown {key : String} {v : Value} (noName : key ≠ "name") (noStart : key ≠ "start") :
      Misplaced (key, v) (.unknownField key)
  | name {v : Value} (noText : ∀ s, v ≠ .text s) : Misplaced ("name", v) (.unexpected v .name)
  | start {v : Value} (noBoolean : ∀ b, v ≠ .boolean b) :
    Misplaced ("start", v) (.unexpected v .start)

/-- What is wrong first with a value that stands for no declaration.

The cases exclude each other. A table is read in ascending order of its keys, and only then it may
be missed that there is no name; an array is read from its beginning, and nothing behind the second
item is looked at. -/
inductive Flawed : Value → SchemaError → Prop
  | entry {entries : Entries} {e : SchemaError} (first : FirstAmong Misplaced entries e) :
      Flawed (.table entries) e
  | nameless {entries : Entries} (fine : ∀ entry ∈ entries, ∀ e, ¬ Misplaced entry e)
      (missing : ∀ v, ("name", v) ∉ entries) : Flawed (.table entries) .missingName
  | empty : Flawed (.array []) .emptyDeclaration
  | name {v : Value} {more : List Value} (noText : ∀ s, v ≠ .text s) :
      Flawed (.array (v :: more)) (.unexpected v .name)
  | start {name : String} {v : Value} {more : List Value} (noBoolean : ∀ b, v ≠ .boolean b) :
      Flawed (.array (.text name :: v :: more)) (.unexpected v .start)
  | moment : Flawed .moment (.unknownField momentKey)
  | other {v : Value} (noTable : ∀ entries, v ≠ .table entries)
    (noArray : ∀ items, v ≠ .array items)
      (noMoment : v ≠ .moment) : Flawed v (.unexpected v .declaration)

namespace Declaration

/-- A name is a text. -/
private lemma nameOf_ok_iff {v : Value} {name : String} : nameOf v = .ok name ↔ v = .text name := by
  cases v <;> simp [nameOf]

/-- Whatever else stands for a name is reported. -/
private lemma nameOf_error_iff {v : Value} {e : SchemaError} :
    nameOf v = .error e ↔ (∀ s, v ≠ .text s) ∧ e = .unexpected v .name := by
  cases v <;> simp [nameOf, eq_comm]

/-- A start mark is a boolean. -/
private lemma startOf_ok_iff {v : Value} {start : Bool} :
    startOf v = .ok start ↔ v = .boolean start := by
  cases v <;> simp [startOf]

/-- Whatever else stands for a start mark is reported. -/
private lemma startOf_error_iff {v : Value} {e : SchemaError} :
    startOf v = .error e ↔ (∀ b, v ≠ .boolean b) ∧ e = .unexpected v .start := by
  cases v <;> simp [startOf, eq_comm]

end Declaration

namespace PartialDeclaration

/-- What an entry that is taken into account says. -/
private lemma add_ok_iff {d d' : PartialDeclaration} {entry : String × Value} :
    d.add entry = .ok d' ↔
      (∃ name, entry = ("name", .text name) ∧ d' = { d with name := some name }) ∨
        ∃ start, entry = ("start", .boolean start) ∧ d' = { d with start := some start } := by
  obtain ⟨key, v⟩ := entry
  by_cases hn : key = "name"
  · subst hn
    cases v <;> simp [add, Declaration.nameOf, bind, Except.bind, pure, Except.pure, eq_comm]
  · by_cases hs : key = "start"
    · subst hs
      cases v <;> simp [add, Declaration.startOf, bind, Except.bind, pure, Except.pure, eq_comm]
    · simp [add, hn, hs]

/-- What is reported of an entry does not depend on those before it. -/
private lemma add_error_iff {d : PartialDeclaration} {entry : String × Value} {e : SchemaError} :
    d.add entry = .error e ↔ Misplaced entry e := by
  obtain ⟨key, v⟩ := entry
  constructor
  · intro h
    rw [add] at h
    split at h
    next hn =>
      obtain rfl : key = "name" := hn
      cases read : Declaration.nameOf v with
      | ok name => rw [read] at h; cases h
      | error e' =>
        rw [read] at h
        cases h
        obtain ⟨noText, rfl⟩ := Declaration.nameOf_error_iff.mp read
        exact .name noText
    next hn =>
      split at h
      next hs =>
        obtain rfl : key = "start" := hs
        cases read : Declaration.startOf v with
        | ok start => rw [read] at h; cases h
        | error e' =>
          rw [read] at h
          cases h
          obtain ⟨noBoolean, rfl⟩ := Declaration.startOf_error_iff.mp read
          exact .start noBoolean
      next hs =>
        cases h
        exact .unknown hn hs
  · intro h
    cases h with
    | unknown noName noStart => simp [add, noName, noStart]
    | name noText =>
      simp [add, Declaration.nameOf_error_iff.mpr ⟨noText, rfl⟩, bind, Except.bind]
    | start noBoolean =>
      simp [add, Declaration.startOf_error_iff.mpr ⟨noBoolean, rfl⟩, bind, Except.bind]

/-- What is known once all entries are taken into account of a field that only the entry with one
key says: what this entry says, or what was known before if no entry has the key.

**Proof sketch.** Induction on the entries, with what is known so far free. The entry with the key
sets the field, and as keys are not repeated no later entry sets it again. Every other entry leaves
it. -/
private lemma field_of_foldlM {γ : Type} (key : String) (make : γ → Value)
    (field : PartialDeclaration → Option γ) (tells : ∀ {c c'}, make c = make c' ↔ c = c')
    (said : ∀ {d d' entry}, add d entry = .ok d' →
      (∃ c, entry = (key, make c) ∧ field d' = some c) ∨ entry.1 ≠ key ∧ field d' = field d)
    {entries : Entries} (keys : (entries.map Prod.fst).Nodup) {d d' : PartialDeclaration}
    (h : entries.foldlM add d = .ok d') (c : γ) :
    field d' = some c ↔ (key, make c) ∈ entries ∨ (∀ v, (key, v) ∉ entries) ∧ field d = some c := by
  induction entries generalizing d with
  | nil =>
    cases h
    simp
  | cons entry rest ih =>
    obtain ⟨fresh, keys⟩ := List.nodup_cons.mp keys
    rw [List.foldlM_cons] at h
    cases added : d.add entry with
    | error e => rw [added] at h; cases h
    | ok d'' =>
      rw [added] at h
      rw [ih keys h]
      rcases said added with ⟨c', rfl, known⟩ | ⟨other, same⟩
      · have once : ∀ v, (key, v) ∉ rest := fun v mem => fresh (List.mem_map.mpr ⟨_, mem, rfl⟩)
        simp [once, known, tells, eq_comm]
      · have apart : ∀ v, entry ≠ (key, v) := fun v same => other (congrArg Prod.fst same)
        simp [apart, same, eq_comm (b := entry)]

/-- The name that is known once all entries are taken into account. -/
private lemma name_of_foldlM {entries : Entries} (keys : (entries.map Prod.fst).Nodup)
    {d : PartialDeclaration} (h : entries.foldlM add {} = .ok d) (name : String) :
    d.name = some name ↔ ("name", .text name) ∈ entries := by
  rw [field_of_foldlM "name" .text PartialDeclaration.name (by simp) ?_ keys h]
  · simp
  · intro d d' entry added
    rcases add_ok_iff.mp added with ⟨name, rfl, rfl⟩ | ⟨start, rfl, rfl⟩
    · exact .inl ⟨name, rfl, rfl⟩
    · exact .inr ⟨by simp, rfl⟩

/-- The start mark that is known once all entries are taken into account. -/
private lemma start_of_foldlM {entries : Entries} (keys : (entries.map Prod.fst).Nodup)
    {d : PartialDeclaration} (h : entries.foldlM add {} = .ok d) (start : Bool) :
    d.start = some start ↔ ("start", .boolean start) ∈ entries := by
  rw [field_of_foldlM "start" .boolean PartialDeclaration.start (by simp) ?_ keys h]
  · simp
  · intro d d' entry added
    rcases add_ok_iff.mp added with ⟨name, rfl, rfl⟩ | ⟨start, rfl, rfl⟩
    · exact .inr ⟨by simp, rfl⟩
    · exact .inl ⟨start, rfl, rfl⟩

/-- A declaration is complete once its name is known. -/
private lemma complete_ok_iff {d : PartialDeclaration} {declaration : Declaration} :
    d.complete = .ok declaration ↔
      d.name = some declaration.name ∧ declaration.start = d.start.getD false := by
  obtain ⟨name, start⟩ := declaration
  cases h : d.name <;> simp [complete, h, eq_comm]

/-- All that a declaration can lack is its name. -/
private lemma complete_error_iff {d : PartialDeclaration} {e : SchemaError} :
    d.complete = .error e ↔ d.name = none ∧ e = .missingName := by
  cases h : d.name <;> simp [complete, h, eq_comm]

end PartialDeclaration

/-! ## Tables that stand for declarations -/

/-- The entries that a table for a declaration may have.

**Proof sketch.** To take the entry into account, with nothing known before, fails exactly if it is
misplaced. It succeeds exactly for the two kinds of entries on the right. -/
private lemma not_misplaced_iff {entry : String × Value} :
    (∀ e, ¬ Misplaced entry e) ↔
      (∃ name, entry = ("name", .text name)) ∨ ∃ start, entry = ("start", .boolean start) := by
  constructor
  · intro fine
    cases added : PartialDeclaration.add {} entry with
    | error e => exact absurd (PartialDeclaration.add_error_iff.mp added) (fine e)
    | ok d =>
      rcases PartialDeclaration.add_ok_iff.mp added with ⟨name, rfl, -⟩ | ⟨start, rfl, -⟩
      · exact .inl ⟨name, rfl⟩
      · exact .inr ⟨start, rfl⟩
  · intro good e problem
    obtain ⟨d, added⟩ : ∃ d, PartialDeclaration.add {} entry = .ok d := by
      rcases good with ⟨name, rfl⟩ | ⟨start, rfl⟩
      · exact ⟨{ name := some name }, rfl⟩
      · exact ⟨{ start := some start }, rfl⟩
    rw [PartialDeclaration.add_error_iff.mpr problem] at added
    cases added

/-- Two entries of one table with the same key are the same. -/
private lemma entry_unique {entries : Entries} (keys : (entries.map Prod.fst).Nodup) {key : String}
    {v v' : Value} (mem : (key, v) ∈ entries) (mem' : (key, v') ∈ entries) : v = v' :=
  congrArg Prod.snd (List.inj_on_of_nodup_map keys mem mem' rfl)

/-- To visit the entries of a table fails with what is wrong first. -/
private lemma visit_error_iff {entries : Entries} (keys : (entries.map Prod.fst).Nodup)
    {e : SchemaError} :
    (ascending entries).foldlM PartialDeclaration.add {} = .error e ↔
      FirstAmong Misplaced entries e := by
  have faults : ∀ entry ∈ ascending entries, ∀ d e,
      PartialDeclaration.add d entry = .error e ↔ Misplaced entry e :=
    fun _ _ _ _ => PartialDeclaration.add_error_iff
  rw [← firstIn_ascending_iff keys]
  exact foldlM_error_iff faults

/-- To visit the entries of a table with which nothing is wrong finds out what they say. -/
private lemma visit_ok {entries : Entries} (keys : (entries.map Prod.fst).Nodup)
    {d : PartialDeclaration}
    (visited : (ascending entries).foldlM PartialDeclaration.add {} = .ok d) :
    (∀ entry ∈ entries, ∀ e, ¬ Misplaced entry e) ∧
      (∀ name, d.name = some name ↔ ("name", .text name) ∈ entries) ∧
      ∀ start, d.start = some start ↔ ("start", .boolean start) ∈ entries := by
  have keys' : ((ascending entries).map Prod.fst).Nodup :=
    ((ascending_perm entries).map Prod.fst).nodup_iff.mpr keys
  refine ⟨fine_of_ascending (not_firstIn_of_foldlM ?_ visited), fun name => ?_, fun start => ?_⟩
  · exact fun _ _ _ _ => PartialDeclaration.add_error_iff
  · rw [PartialDeclaration.name_of_foldlM keys' visited, (ascending_perm entries).mem_iff]
  · rw [PartialDeclaration.start_of_foldlM keys' visited, (ascending_perm entries).mem_iff]

/-- A problem that comes first is one. -/
private lemma FirstAmong.exists {Problem : String × Value → SchemaError → Prop} {entries : Entries}
    {e : SchemaError} (h : FirstAmong Problem entries e) : ∃ entry ∈ entries, Problem entry e := by
  obtain ⟨entry, mem, problem, -⟩ := h
  exact ⟨entry, mem, problem⟩

/-- Nothing is wrong with the entries of a table that stands for a declaration.

**Proof sketch.** Every key of such a table is one of the two. As keys are not repeated, the entry
with a key is the one that the declaration speaks of. -/
private lemma Declares.fine {entries : Entries} (keys : (entries.map Prod.fst).Nodup)
    {d : Declaration} (h : Declares (.table entries) d) :
    ∀ entry ∈ entries, ∀ e, ¬ Misplaced entry e := by
  cases h with
  | @table _ name start named marked known =>
    rintro ⟨key, v⟩ mem
    apply not_misplaced_iff.mpr
    rcases known _ mem with rfl | rfl
    · obtain rfl := entry_unique keys mem named
      exact .inl ⟨name, rfl⟩
    · rcases marked with marked | ⟨-, unmarked⟩
      · obtain rfl := entry_unique keys mem marked
        exact .inr ⟨start, rfl⟩
      · exact absurd mem (unmarked v)

namespace Declaration

/-- A table is taken for the declaration that it stands for.

**Proof sketch.** The visitor takes the entries in ascending order. If one of them is misplaced
nothing is declared. Otherwise what is known in the end are the entries with the two keys, and the
table is complete if and only if the name is among them. -/
private lemma ofTable_ok_iff {entries : Entries} (keys : (entries.map Prod.fst).Nodup)
    {d : Declaration} : ofValue (.table entries) = .ok d ↔ Declares (.table entries) d := by
  rw [ofValue]
  cases visited : (ascending entries).foldlM PartialDeclaration.add {} with
  | error e =>
    obtain ⟨entry, mem, problem⟩ := ((visit_error_iff keys).mp visited).exists
    exact iff_of_false (fun same => nomatch same) fun declares =>
      declares.fine keys entry mem e problem
  | ok found =>
    obtain ⟨fine, names, starts⟩ := visit_ok keys visited
    show found.complete = .ok d ↔ _
    rw [PartialDeclaration.complete_ok_iff, names]
    constructor
    · obtain ⟨name, start⟩ := d
      rintro ⟨named, rfl⟩
      refine .table named ?_ fun entry mem => ?_
      · cases marked : found.start with
        | some start => exact .inl ((starts start).mp marked)
        | none =>
          refine .inr ⟨rfl, fun v mem => ?_⟩
          rcases not_misplaced_iff.mp (fine _ mem) with ⟨_, same⟩ | ⟨start, same⟩
          · simp at same
          · rw [same, ← starts, marked] at mem
            cases mem
      · rcases not_misplaced_iff.mp (fine entry mem) with ⟨_, rfl⟩ | ⟨_, rfl⟩
        · exact .inl rfl
        · exact .inr rfl
    · intro declares
      cases declares with
      | @table _ name start named marked known =>
        refine ⟨named, ?_⟩
        rcases marked with marked | ⟨rfl, unmarked⟩
        · rw [(starts start).mpr marked, Option.getD_some]
        · cases marked : found.start with
          | none => rfl
          | some start => exact absurd ((starts start).mp marked) (unmarked _)

/-- What is reported of a table is what is wrong with it first.

**Proof sketch.** The visitor fails with the first misplaced entry. If there is none, it can fail
only because there is no name, and these are the two flaws of a table. -/
private lemma ofTable_error_iff {entries : Entries} (keys : (entries.map Prod.fst).Nodup)
    {e : SchemaError} : ofValue (.table entries) = .error e ↔ Flawed (.table entries) e := by
  rw [ofValue]
  cases visited : (ascending entries).foldlM PartialDeclaration.add {} with
  | error e' =>
    have first := (visit_error_iff keys).mp visited
    constructor
    · rintro ⟨⟩
      exact .entry first
    · intro flawed
      cases flawed with
      | entry first' =>
        rw [(visit_error_iff keys).mpr first'] at visited
        cases visited
        rfl
      | nameless fine _ =>
        obtain ⟨entry, mem, problem⟩ := first.exists
        exact absurd problem (fine entry mem e')
      | other noTable _ _ => exact absurd rfl (noTable entries)
  | ok found =>
    obtain ⟨fine, names, starts⟩ := visit_ok keys visited
    show found.complete = .error e ↔ _
    rw [PartialDeclaration.complete_error_iff]
    constructor
    · rintro ⟨unnamed, rfl⟩
      refine .nameless fine fun v mem => ?_
      rcases not_misplaced_iff.mp (fine _ mem) with ⟨name, same⟩ | ⟨_, same⟩
      · rw [same, ← names, unnamed] at mem
        cases mem
      · simp at same
    · intro flawed
      cases flawed with
      | entry first =>
        obtain ⟨entry, mem, problem⟩ := first.exists
        exact absurd problem (fine entry mem e)
      | nameless _ missing =>
        refine ⟨?_, rfl⟩
        cases named : found.name with
        | none => rfl
        | some name => exact absurd ((names name).mp named) (missing _)
      | other noTable _ _ => exact absurd rfl (noTable entries)

/-- An array is taken for the declaration that it stands for.

**Proof sketch.** By cases on the number of items. The first is the name, the second the start, and
further ones are not looked at. -/
private lemma ofArray_ok_iff {items : List Value} {d : Declaration} :
    ofValue (.array items) = .ok d ↔ Declares (.array items) d := by
  constructor
  · intro h
    match items with
    | [v] =>
      obtain ⟨name, named, whole⟩ := bind_ok_iff.mp h
      obtain rfl := nameOf_ok_iff.mp named
      cases whole
      exact .named name
    | v :: w :: more =>
      obtain ⟨name, named, later⟩ := bind_ok_iff.mp h
      obtain rfl := nameOf_ok_iff.mp named
      obtain ⟨start, marked, whole⟩ := bind_ok_iff.mp later
      obtain rfl := startOf_ok_iff.mp marked
      cases whole
      exact .marked name start more
  · rintro (_ | _ | _)
    · rfl
    · rfl

/-- What is reported of an array is what is wrong with it first.

**Proof sketch.** By cases on the number of items. There is none, or the first is no text, or the
second is no boolean. -/
private lemma ofArray_error_iff {items : List Value} {e : SchemaError} :
    ofValue (.array items) = .error e ↔ Flawed (.array items) e := by
  constructor
  · intro h
    match items with
    | [] =>
      cases h
      exact .empty
    | [v] =>
      rcases bind_error_iff.mp h with unnamed | ⟨_, -, ⟨⟩⟩
      obtain ⟨noText, rfl⟩ := nameOf_error_iff.mp unnamed
      exact .name noText
    | v :: w :: more =>
      rcases bind_error_iff.mp h with unnamed | ⟨name, named, later⟩
      · obtain ⟨noText, rfl⟩ := nameOf_error_iff.mp unnamed
        exact .name noText
      · obtain rfl := nameOf_ok_iff.mp named
        rcases bind_error_iff.mp later with unmarked | ⟨_, -, ⟨⟩⟩
        obtain ⟨noBoolean, rfl⟩ := startOf_error_iff.mp unmarked
        exact .start noBoolean
  · intro h
    cases h with
    | empty => rfl
    | @name v more noText =>
      have read := nameOf_error_iff.mpr ⟨noText, rfl⟩
      cases more with
      | nil => exact bind_error_iff.mpr (.inl read)
      | cons w more => exact bind_error_iff.mpr (.inl read)
    | @start name v more noBoolean =>
      have read := startOf_error_iff.mpr ⟨noBoolean, rfl⟩
      exact bind_error_iff.mpr (.inr ⟨name, rfl, bind_error_iff.mpr (.inl read)⟩)
    | other _ noArray _ => exact absurd rfl (noArray items)

/-- A value is taken for the declaration that it stands for. -/
theorem ofValue_ok_iff {v : Value} (distinct : v.Distinct) {d : Declaration} :
    ofValue v = .ok d ↔ Declares v d := by
  cases distinct with
  | table keys _ => exact ofTable_ok_iff keys
  | array _ => exact ofArray_ok_iff
  | text _ | integer _ | float _ | unreadable | boolean _ | moment =>
    refine iff_of_false (fun h => nomatch h) fun h => nomatch h

/-- What is reported of a value is what is wrong with it first.

**Proof sketch.** By cases on the value. Tables and arrays are treated above. A date is reported as
a table with the wrong key, and every other value as being of the wrong type. -/
theorem ofValue_error_iff {v : Value} (distinct : v.Distinct) {e : SchemaError} :
    ofValue v = .error e ↔ Flawed v e := by
  cases distinct with
  | table keys _ => exact ofTable_error_iff keys
  | array _ => exact ofArray_error_iff
  | moment =>
    constructor
    · rintro ⟨⟩
      exact .moment
    · intro h
      cases h with
      | moment => rfl
      | other _ _ noMoment => exact absurd rfl noMoment
  | text _ | integer _ | float _ | unreadable | boolean _ =>
    constructor
    · rintro ⟨⟩
      exact .other (by simp) (by simp) (by simp)
    · rintro ⟨⟩
      rfl

end Declaration

/-! ## Documents -/

/-- The declarations that a document lists under its only key, if it has one. -/
inductive Spells : Entries → List Declaration → Prop
  | nothing : Spells [] []
  | components {items : List Value} {components : List Declaration}
      (each : List.Forall₂ Declares items components) :
      Spells [("component", .array items)] components

/-- What is wrong first with an entry of a document. -/
inductive Misfit : String × Value → SchemaError → Prop
  | unknown {key : String} {v : Value} (other : key ≠ "component") :
    Misfit (key, v) (.unknownKey key)
  | noArray {v : Value} (noArray : ∀ items, v ≠ .array items) :
      Misfit ("component", v) (.unexpected v .components)
  | element {items : List Value} {e : SchemaError} (first : FirstIn Flawed items e) :
      Misfit ("component", .array items) e

/-- The value of the only key lists declarations if it is an array of values that stand for some. -/
private lemma declarationsOf_ok_iff {v : Value} (distinct : v.Distinct)
    {components : List Declaration} :
    declarationsOf v = .ok components ↔
      ∃ items, v = .array items ∧ List.Forall₂ Declares items components := by
  cases distinct with
  | array inside =>
    rw [declarationsOf, mapM_ok_iff fun item mem d => Declaration.ofValue_ok_iff (inside item mem)]
    simp
  | text _ | integer _ | float _ | unreadable | boolean _ | moment | table _ _ =>
    simp [declarationsOf]

/-- What is reported of the value of the only key is what is wrong with its entry.

**Proof sketch.** If the value is an array, what is reported is the first flaw of an element. Every
other value is reported as no array. -/
private lemma declarationsOf_error_iff {v : Value} (distinct : v.Distinct) {e : SchemaError} :
    declarationsOf v = .error e ↔ Misfit ("component", v) e := by
  cases distinct with
  | array inside =>
    rw [declarationsOf,
      mapM_error_iff fun item mem e => Declaration.ofValue_error_iff (inside item mem)]
    constructor
    · exact .element
    · intro h
      cases h with
      | unknown other => exact absurd rfl other
      | noArray noArray => exact absurd rfl (noArray _)
      | element first => exact first
  | text _ | integer _ | float _ | unreadable | boolean _ | moment | table _ _ =>
    constructor
    · rintro ⟨⟩
      exact .noArray (by simp)
    · intro h
      cases h with
      | unknown other => exact absurd rfl other
      | noArray _ => rfl

namespace Manifest

/-- An entry of a document that is taken into account lists declarations. -/
private lemma add_ok_iff {m m' : Manifest} {entry : String × Value} (distinct : entry.2.Distinct) :
    m.add entry = .ok m' ↔ ∃ items, entry = ("component", .array items) ∧
      List.Forall₂ Declares items m'.components := by
  obtain ⟨key, v⟩ := entry
  by_cases component : key = "component"
  · subst component
    rw [add, if_pos rfl, bind_ok_iff]
    simp only [declarationsOf_ok_iff distinct, Prod.mk.injEq, true_and]
    constructor
    · rintro ⟨components, listed, ⟨⟩⟩
      exact listed
    · intro listed
      exact ⟨m'.components, listed, rfl⟩
  · simp [add, component]

/-- What is reported of an entry of a document does not depend on the others. -/
private lemma add_error_iff {m : Manifest} {entry : String × Value} (distinct : entry.2.Distinct)
    {e : SchemaError} : m.add entry = .error e ↔ Misfit entry e := by
  obtain ⟨key, v⟩ := entry
  by_cases component : key = "component"
  · subst component
    rw [add, if_pos rfl, bind_error_iff, declarationsOf_error_iff distinct, or_iff_left]
    rintro ⟨_, -, ⟨⟩⟩
  · rw [add, if_neg component]
    constructor
    · rintro ⟨⟩
      exact .unknown component
    · intro h
      cases h with
      | unknown _ => rfl
      | noArray _ | element _ => exact absurd rfl component

/-- What is reported of a document is what is wrong with it first. -/
theorem ofEntries_error_iff {document : Entries} (distinct : Value.Distinct (.table document))
    {e : SchemaError} : ofEntries document = .error e ↔ FirstAmong Misfit document e := by
  cases distinct with
  | table keys inside =>
    have faults : ∀ entry ∈ ascending document, ∀ m e, add m entry = .error e ↔ Misfit entry e :=
      fun entry mem m e => add_error_iff (inside entry ((ascending_perm document).mem_iff.mp mem))
    rw [ofEntries, foldlM_error_iff faults, firstIn_ascending_iff keys]

/-- A document all of whose keys are the same, and distinct, has one key or none.

**Proof sketch.** By cases on the number of entries. With two of them, the key would be repeated. -/
private lemma document_cases {document : Entries} (keys : (document.map Prod.fst).Nodup)
    (only : ∀ entry ∈ document, entry.1 = "component") :
    document = [] ∨ ∃ v, document = [("component", v)] := by
  match document with
  | [] => exact .inl rfl
  | [(key, v)] =>
    obtain rfl : key = "component" := only (key, v) List.mem_cons_self
    exact .inr ⟨v, rfl⟩
  | first :: second :: rest =>
    obtain ⟨here, there, -⟩ : first.1 = "component" ∧ second.1 = "component" ∧ _ := by
      simpa using only
    simp [here, there] at keys

/-- A document is taken for the manifest that it spells.

**Proof sketch.** A document that is accepted has no misfit, so all its keys are the one that is
known. It is empty, then, or has this entry alone, and the entry says what is declared. Conversely
each of the two spellings is accepted by evaluation. -/
theorem ofEntries_ok_iff {document : Entries} (distinct : Value.Distinct (.table document))
    {m : Manifest} : ofEntries document = .ok m ↔ Spells document m.components := by
  have faults := @ofEntries_error_iff document distinct
  cases distinct with
  | table keys inside =>
    constructor
    · intro h
      have fine : ∀ entry ∈ document, ∀ e, ¬ Misfit entry e := by
        apply fine_of_ascending
        intro e first
        rw [firstIn_ascending_iff keys, ← faults, h] at first
        cases first
      have only : ∀ entry ∈ document, entry.1 = "component" := by
        rintro ⟨key, v⟩ mem
        by_contra other
        exact fine _ mem _ (.unknown other)
      rcases document_cases keys only with rfl | ⟨v, rfl⟩
      · obtain rfl : m = {} := by simpa [ofEntries, ascending, pure, Except.pure, eq_comm] using h
        exact .nothing
      · have added : add {} ("component", v) = .ok m := by simpa [ofEntries, ascending] using h
        obtain ⟨items, ⟨⟩, each⟩ := (add_ok_iff (inside _ List.mem_cons_self)).mp added
        exact .components each
    · intro h
      obtain ⟨components⟩ := m
      cases h with
      | nothing => simp [ofEntries, ascending, pure, Except.pure]
      | @components items _ each =>
        have added : add {} ("component", .array items) = .ok ⟨components⟩ :=
          (add_ok_iff (inside _ List.mem_cons_self)).mpr ⟨items, rfl, each⟩
        simpa [ofEntries, ascending] using added

end Manifest

/-! ## Texts -/

/-- A value is, or holds at some depth, another one. -/
inductive Toml.Value.Occurs (v : Value) : Value → Prop
  | here : Occurs v v
  | item {items : List Value} {w : Value} (mem : w ∈ items) (deeper : Occurs v w) :
      Occurs v (.array items)
  | entry {entries : Entries} {entry : String × Value} (mem : entry ∈ entries)
      (deeper : Occurs v entry.2) : Occurs v (.table entries)

open Toml.Value (Occurs)

/-- What is found where something else is expected stands somewhere in the value that is read. -/
private lemma Flawed.occurs {v found : Value} {expected : Expectation}
    (h : Flawed v (.unexpected found expected)) : Occurs found v := by
  cases h with
  | entry first =>
    obtain ⟨entry, mem, problem⟩ := first.exists
    refine .entry mem ?_
    cases problem with
    | name _ | start _ => exact .here
  | name _ => exact .item List.mem_cons_self .here
  | start _ => exact .item (List.mem_cons_of_mem _ List.mem_cons_self) .here
  | other _ _ _ => exact .here

/-- What is found where something else is expected stands somewhere in the document. -/
private lemma occurs_of_firstAmong {document : Entries} {found : Value} {expected : Expectation}
    (h : FirstAmong Misfit document (.unexpected found expected)) :
    Occurs found (.table document) := by
  obtain ⟨entry, mem, problem⟩ := h.exists
  refine .entry mem ?_
  cases problem with
  | noArray _ => exact .here
  | element first =>
    obtain ⟨before, item, after, rfl, flawed, -⟩ := first
    exact .item (List.mem_append_right _ List.mem_cons_self) flawed.occurs

namespace Manifest

/-- A text whose document spells declarations is read as these, unless their names are refused.

**Proof sketch.** The document is taken for the declarations. What is left of reading is the check
of their names, and the failures of this check are the two that are named. -/
lemma read_of_spells {text : String} {document : Entries} (parsed : Toml.read? text = some document)
    {components : List Declaration} (spells : Spells document components) :
    read text = .ok ⟨components⟩ ∧ checkNames ⟨components⟩ = .ok () ∨
      ∃ e, read text = .error e ∧ checkNames ⟨components⟩ = .error e ∧
        (e = .emptyName ∨ ∃ name, e = .duplicateName name) := by
  have taken : ofEntries document = .ok ⟨components⟩ :=
    (ofEntries_ok_iff (Toml.distinct_of_read parsed)).mpr spells
  rw [read, parsed]
  simp only [taken]
  cases checked : checkNames ⟨components⟩ with
  | ok u => exact .inl ⟨rfl, rfl⟩
  | error e => exact .inr ⟨e, rfl, rfl, (checkNames_error_iff.mp checked).cases⟩

/-- A text whose document does not is refused for what is wrong with this first. -/
private lemma read_of_firstAmong {text : String} {document : Entries}
    (parsed : Toml.read? text = some document) {e : SchemaError}
    (first : FirstAmong Misfit document e) : read text = .error (.ofSchema e) := by
  have refused : ofEntries document = .error e :=
    (ofEntries_error_iff (Toml.distinct_of_read parsed)).mpr first
  rw [read, parsed]
  simp only [refused]

/-- Problems of a document are not problems of its names. -/
private lemma ofSchema_cases (e : SchemaError) :
    ManifestError.ofSchema e = .notADocument ∨ ManifestError.ofSchema e = .schema e := by
  rw [ManifestError.ofSchema.eq_def]
  split
  · exact .inl rfl
  · exact .inr rfl

/-- Problems of a document are reported as such, unless they come from a number that cannot be
read. -/
private lemma ofSchema_of_readable {document : Entries}
    (readable : ¬ Occurs .unreadable (.table document)) {e : SchemaError}
    (first : FirstAmong Misfit document e) : ManifestError.ofSchema e = .schema e := by
  cases e with
  | unexpected found expected =>
    cases found with
    | unreadable => exact absurd (occurs_of_firstAmong first) readable
    | _ => rfl
  | _ => rfl

/-- **The manifest of a document.** A document that spells declarations is read as these, in order,
unless one of their names is refused. Every other document has a first problem, in ascending order
of the bytes of its keys, of the positions of the elements, and of the bytes of the keys in each of
them; it is refused for this problem, as one of the schema unless the text has a number that cannot
be read. Names are refused only in documents that spell declarations.

**Proof sketch.** A parsed document has distinct keys at every level. So it is taken for
declarations exactly if it spells them, and is refused exactly for what is first among its misfits.
The refusals of names come from the check, which runs only after the document was taken. -/
theorem read_of_document {text : String} {document : Entries}
    (parsed : Toml.read? text = some document) :
    (∀ components, Spells document components →
      read text = .ok ⟨components⟩ ∧ checkNames ⟨components⟩ = .ok () ∨
        ∃ e, read text = .error e ∧ checkNames ⟨components⟩ = .error e ∧
          (e = .emptyName ∨ ∃ name, e = .duplicateName name)) ∧
    ((∃ components, Spells document components) ↔ ∀ e, ¬ FirstAmong Misfit document e) ∧
    (∀ e, FirstAmong Misfit document e →
      read text = .error (.ofSchema e) ∧
        (¬ Occurs .unreadable (.table document) → read text = .error (.schema e))) ∧
    ∀ e, read text = .error e → (e = .emptyName ∨ ∃ name, e = .duplicateName name) →
      ∃ components, Spells document components := by
  have distinct := Toml.distinct_of_read parsed
  have either : (∃ components, Spells document components) ↔
      ∀ e, ¬ FirstAmong Misfit document e := by
    simp only [← ofEntries_error_iff distinct]
    constructor
    · rintro ⟨components, spells⟩ e refused
      rw [(ofEntries_ok_iff (m := ⟨components⟩) distinct).mpr spells] at refused
      cases refused
    · intro accepted
      cases taken : ofEntries document with
      | error e => exact absurd taken (accepted e)
      | ok m => exact ⟨m.components, (ofEntries_ok_iff distinct).mp taken⟩
  refine ⟨fun components => read_of_spells parsed, either, fun e first => ?_,
    fun e refused name => ?_⟩
  · have refused := read_of_firstAmong parsed first
    exact ⟨refused, fun readable => ofSchema_of_readable readable first ▸ refused⟩
  · apply either.mpr
    intro e' first
    rw [read_of_firstAmong parsed first] at refused
    obtain rfl : ManifestError.ofSchema e' = e := Except.error.inj refused
    rcases ofSchema_cases e' with other | other <;> simp [other] at name

end Manifest

/-! ## Two spellings -/

/-- A text begins with the token that its first characters make up. -/
private lemma Toml.Token.all?_of_next? {c : Char} {rest after : List Char} {t : Token}
    {ts : List Token} (first : Token.next? c rest = some ([t], after))
    (others : Token.all? after = some ts) : Token.all? (c :: rest) = some (t :: ts) := by
  rw [Token.all?]
  split
  next none => rw [first] at none; cases none
  next read found =>
    rw [first] at found
    cases found
    rw [others]
    rfl

/-- Two declarations in two spellings. The first is marked, and the second is followed by something
that is not looked at. -/
def twoSpelled : String := "component = [\x7bstart = true, name = 'a'\x7d, ['b', false, 1]]"

/-- What this text says. -/
def twoSpelledDocument : Entries :=
  [("component", .array [.table [("start", .boolean true), ("name", .text "a")],
    .array [.text "b", .boolean false, .integer 1]])]

/-- This text is read as its two declarations. -/
theorem Manifest.read_of_twoSpelled : Toml.read? twoSpelled = some twoSpelledDocument ∧
    Spells twoSpelledDocument [⟨"a", true⟩, ⟨"b", false⟩] ∧
    Manifest.read twoSpelled = .ok ⟨[⟨"a", true⟩, ⟨"b", false⟩]⟩ := by
  have tokens : Toml.Token.all? (Toml.dropMark twoSpelled.toList) = some
      [.bare "component".toList, .gap [' '], .equals, .gap [' '], .openBracket, .openBrace,
        .bare "start".toList, .gap [' '], .equals, .gap [' '], .bare "true".toList, .comma,
        .gap [' '], .bare "name".toList, .gap [' '], .equals, .gap [' '], .quoted false "a",
        .closeBrace, .comma, .gap [' '], .openBracket, .quoted false "b", .comma, .gap [' '],
        .bare "false".toList, .comma, .gap [' '], .bare "1".toList, .closeBracket,
        .closeBracket] := by
    simp only [twoSpelled, String.reduceToList]
    repeat apply Toml.Token.all?_of_next? rfl
    rw [Toml.Token.all?]
  have parsed : Toml.read? twoSpelled = some twoSpelledDocument := by
    rw [Toml.read?, tokens]
    rfl
  have spells : Spells twoSpelledDocument [⟨"a", true⟩, ⟨"b", false⟩] := by
    refine .components (.cons ?_ (.cons (.marked "b" false [.integer 1]) .nil))
    exact .table (by simp) (.inl (by simp)) (by simp)
  rcases (Manifest.read_of_document parsed).1 _ spells with ⟨read, -⟩ | ⟨e, -, refused, -⟩
  · exact ⟨parsed, spells, read⟩
  · cases refused

end Standby
