import Standby.Catalog.Definition
import Mathlib.Tactic.Lemma
set_option autoImplicit false

/-!
# Looking a name up in a chain of catalogs

A catalog is made empty or from definitions, and is then changed by registering types and by
nesting it in another catalog that was made the same way. This module says what looking a name up
finds in terms of these steps alone: the nearest catalog of the chain that holds the name answers,
and it answers with the type registered last under it, or else with the first definition of it.

## Main definitions

* `Standby.Building` — the steps by which a catalog is made, those of its parents among them.
* `Standby.Building.chain` — a catalog and the catalogs above it, nearest first.
* `Standby.Building.Holds` — what a catalog itself holds under a name.
* `Standby.Building.Finds` — what the nearest catalog of the chain holds under a name.
* `Standby.Building.Answers` — what the catalog that was made says of itself.

## Main results

* `Standby.Building.find?_types` — the table of a catalog has what the catalog holds.
* `Standby.Building.answers_nearest` — a catalog answers according to the steps by which it was
  made.

## Design

`Building.Holds` and `Building.Finds` split the lists of steps at the place that counts and never
mention a table, so that the two rules for duplicates (the first definition, the last registration)
can be read off them. A parent is a building of its own: whatever it was made from, nesting a
catalog in it is one step.
-/

namespace Standby

/-! ## Tables that grow -/

namespace TypeTable

/-- To put a type in front of those that are there under the same name lets the earlier ones be
found.

**Proof sketch.** By cases on whether the table has the name of the entry. If it has, nothing is
put, and a look-up of this name finds the earlier type. If it has not, the entry is put, and found
under its name alone. -/
private lemma find?_putFirst (table : TypeTable) (entry : Definition × Nat) (name : String) :
    find? (putFirst table entry) name =
      (find? table name).or
        (if entry.1.name = name then some (entry.1.handle entry.2) else none) := by
  unfold putFirst
  cases known : find? table entry.1.name with
  | some old =>
    by_cases same : entry.1.name = name
    · simp [← same, known]
    · simp [same]
  | none =>
    simp only [find?_put]
    by_cases same : entry.1.name = name
    · simp [← same, known, Definition.handle, TypeHandle.name]
    · simp [same, Definition.handle, TypeHandle.name]

/-- Of the definitions of one name the first is held, unless the name was held before.

**Proof sketch.** Induction on the definitions, with the table free. -/
private lemma find?_foldl_putFirst (entries : List (Definition × Nat)) (table : TypeTable)
    (name : String) :
    find? (entries.foldl putFirst table) name =
      (find? table name).or
        ((entries.find? (fun e => e.1.name == name)).map (fun e => e.1.handle e.2)) := by
  induction entries generalizing table with
  | nil => simp
  | cons e rest ih =>
    rw [List.foldl_cons, ih, find?_putFirst]
    by_cases same : e.1.name = name
    · simp [same]
    · simp [List.find?_cons_of_neg, same]

/-- Of the types of one name the last one put in is held. -/
private lemma find?_foldl_put (handles : List TypeHandle) (table : TypeTable) (name : String) :
    find? (handles.foldl (fun t h => put h t) table) name =
      (handles.reverse.find? (fun h => TypeHandle.name h == name)).or (find? table name) := by
  induction handles generalizing table with
  | nil => simp
  | cons h rest ih =>
    rw [List.foldl_cons, ih, find?_put, List.reverse_cons, List.find?_append]
    by_cases same : TypeHandle.name h = name <;> simp [same]

/-- A table has something under a name if and only if the name is one of its names. -/
private lemma find?_isSome_iff (table : TypeTable) (name : String) :
    (find? table name).isSome = true ↔ name ∈ table.map TypeHandle.name := by
  simp [find?]

/-- To put a type in a table adds its name at the end, unless the table has it already.

**Proof sketch.** Induction on the table. The type replaces one of its name, and else it goes to the
end. -/
private lemma names_put (h : TypeHandle) (table : TypeTable) :
    (put h table).map TypeHandle.name =
      if TypeHandle.name h ∈ table.map TypeHandle.name then table.map TypeHandle.name
      else table.map TypeHandle.name ++ [TypeHandle.name h] := by
  induction table with
  | nil => simp [put]
  | cons x rest ih =>
    by_cases same : TypeHandle.name x = TypeHandle.name h
    · simp [put, same]
    · have other : ¬ TypeHandle.name h = TypeHandle.name x := fun e => same e.symm
      rw [put, if_neg same, List.map_cons, ih]
      by_cases later : TypeHandle.name h ∈ rest.map TypeHandle.name <;> simp [later, other]

/-- A table holds at most one type per name. -/
def Distinct (table : TypeTable) : Prop := (table.map TypeHandle.name).Nodup

/-- To put a type in a table keeps the names of the table apart. -/
private lemma Distinct.put {table : TypeTable} (distinct : Distinct table) (h : TypeHandle) :
    Distinct (put h table) := by
  unfold Distinct
  rw [names_put]
  split
  · exact distinct
  · next fresh =>
    refine List.nodup_append.mpr ⟨distinct, by simp, ?_⟩
    intro name held other hother same
    rw [List.mem_singleton.mp hother] at same
    exact fresh (same ▸ held)

/-- The names of a table that was made from definitions are apart, also where two definitions have
the same name.

**Proof sketch.** The table is folded over the definitions. To put one in keeps the names apart, so
an induction on the definitions does it, from any table whose names are apart. -/
private lemma Distinct.ofDefinitions (definitions : List Definition) (mark : Nat) :
    Distinct (ofDefinitions definitions mark) := by
  have grows : ∀ (entries : List (Definition × Nat)) (table : TypeTable), Distinct table →
      Distinct (entries.foldl putFirst table) := by
    intro entries
    induction entries with
    | nil => exact fun _ distinct => distinct
    | cons e rest ih =>
      intro table distinct
      refine ih _ ?_
      unfold putFirst
      split
      · exact distinct
      · exact distinct.put _
  exact grows _ [] List.nodup_nil

end TypeTable

/-! ## How a catalog is made -/

/-- The catalogs above a catalog, nearest first. -/
def Catalog.ancestors (c : Catalog) : List Catalog :=
  go c.enclosing
where
  go : List TypeTable → List Catalog
    | [] => []
    | table :: rest => ⟨table, rest⟩ :: go rest

/-- The steps by which a catalog is made: it starts out empty or with the definitions of the
program, types are registered in it, and it is nested in a catalog made by steps of its own. -/
inductive Building where
  | empty
  | definitions (definitions : List Definition) (mark : Nat)
  | register (b : Building) (h : TypeHandle)
  | withType (b : Building) (h : TypeHandle)
  | within (b parent : Building)

namespace Building

/-- The catalog that the steps make. -/
def catalog : Building → Catalog
  | empty => Catalog.empty
  | definitions ds mark => Catalog.ofDefinitions ds mark
  | register b h => (b.catalog.register h).2
  | withType b h => b.catalog.withType h
  | within b parent => b.catalog.within parent.catalog

/-- The definitions that the catalog started out with, in the order of submission. -/
def submitted : Building → List Definition
  | empty => []
  | definitions ds _ => ds
  | register b _ => b.submitted
  | withType b _ => b.submitted
  | within b _ => b.submitted

/-- The mark of the handle for the first definition; those for the others follow. -/
def mark : Building → Nat
  | empty => 0
  | definitions _ mark => mark
  | register b _ => b.mark
  | withType b _ => b.mark
  | within b _ => b.mark

/-- The types registered in this very catalog, in order. -/
def registered : Building → List TypeHandle
  | empty => []
  | definitions _ _ => []
  | register b h => b.registered ++ [h]
  | withType b h => b.registered ++ [h]
  | within b _ => b.registered

/-- The catalogs above: the parent set last, the parent set last for that one, and so on. -/
def above : Building → List Building
  | empty => []
  | definitions _ _ => []
  | register b _ => b.above
  | withType b _ => b.above
  | within _ parent => parent :: parent.above

/-- The catalog and those above it, nearest first. -/
def chain (b : Building) : List Building := b :: b.above

/-! ## What a catalog holds and what it finds -/

/-- The catalog itself holds `h` under the name: `h` was registered last under it, or nothing was
and `h` is the handle for the first definition of it. -/
inductive Holds (b : Building) (name : String) : TypeHandle → Prop
  | registered {before after : List TypeHandle} {h : TypeHandle}
      (split : b.registered = before ++ h :: after) (named : TypeHandle.name h = name)
      (last : ∀ later ∈ after, TypeHandle.name later ≠ name) : Holds b name h
  | submitted {before after : List Definition} {d : Definition}
      (unregistered : ∀ h ∈ b.registered, TypeHandle.name h ≠ name)
      (split : b.submitted = before ++ d :: after) (named : d.name = name)
      (first : ∀ earlier ∈ before, earlier.name ≠ name) :
      Holds b name (d.handle (b.mark + before.length))

/-- The nearest catalog of the chain that holds anything under the name holds `h` under it. -/
def Finds (b : Building) (name : String) (h : TypeHandle) : Prop :=
  ∃ nearer c farther, b.chain = nearer ++ c :: farther ∧ c.Holds name h ∧
    ∀ x ∈ nearer, ∀ other, ¬ x.Holds name other

/-- The table of a catalog is what the definitions give, with the registered types put in.

**Proof sketch.** Induction on how the catalog was built. A registration, by the call or by the
builder, is one more step of the fold, and a parent leaves the own table as it is. -/
private lemma types_eq (b : Building) :
    b.catalog.types =
      b.registered.foldl (fun t h => t.put h) (TypeTable.ofDefinitions b.submitted b.mark) := by
  induction b with
  | empty => rfl
  | definitions ds mark => rfl
  | register b h ih =>
    simp only [registered, submitted, mark, List.foldl_append, List.foldl_cons, List.foldl_nil,
      ← ih]
    rfl
  | withType b h ih =>
    simp only [registered, submitted, mark, List.foldl_append, List.foldl_cons, List.foldl_nil,
      ← ih]
    rfl
  | within b parent ih _ => exact ih

/-- The names of the table of a catalog are apart, however the catalog was built. -/
private lemma distinct_types (b : Building) : b.catalog.types.Distinct := by
  rw [types_eq]
  have grows : ∀ (handles : List TypeHandle) (table : TypeTable), table.Distinct →
      (handles.foldl (fun t h => t.put h) table).Distinct := by
    intro handles
    induction handles with
    | nil => exact fun _ distinct => distinct
    | cons h rest ih => exact fun table distinct => ih _ (distinct.put h)
  exact grows _ _ (TypeTable.Distinct.ofDefinitions _ _)

/-- The first definition of a name and the mark of its handle.

**Proof sketch.** To be the first hit in the numbered list is to stand behind entries that are no
hits. The numbers are those of the positions, so the number of an entry is the mark and the number
of those before it. -/
private lemma find?_zipIdx_iff (ds : List Definition) (mark : Nat) (name : String)
    (e : Definition × Nat) :
    (ds.zipIdx mark).find? (fun e => e.1.name == name) = some e ↔
      ∃ before after, ds = before ++ e.1 :: after ∧ e.1.name = name ∧
        (∀ earlier ∈ before, earlier.name ≠ name) ∧ e.2 = mark + before.length := by
  rw [List.find?_eq_some_iff_append]
  constructor
  · rintro ⟨named, before, after, split, first⟩
    obtain ⟨ds₁, ds₂, hds, rfl, rest⟩ := List.zipIdx_eq_append_iff.mp split
    obtain ⟨d, ds₃, rfl, he, -⟩ := List.zipIdx_eq_cons_iff.mp rest.symm
    refine ⟨ds₁, ds₃, by rw [hds, he], by simpa using named, ?_, by rw [he]⟩
    intro earlier hearlier same
    obtain ⟨i, hi, rfl⟩ := List.mem_iff_getElem.mp hearlier
    have := first (ds₁[i], mark + i) (List.mem_iff_getElem.mpr ⟨i, by simpa using hi, by simp⟩)
    simp [same] at this
  · rintro ⟨before, after, hds, named, first, hmark⟩
    refine ⟨by simpa using named, before.zipIdx mark,
      after.zipIdx (mark + before.length + 1), ?_, ?_⟩
    · rw [hds, List.zipIdx_append, List.zipIdx_cons, ← hmark]
    · intro entry hentry
      simpa using first _ (List.fst_mem_of_mem_zipIdx hentry)

/-- **The table of a catalog has under a name what the catalog holds under it.**

**Proof sketch.** A look-up in the table is a look-up in the registered types, the latest first, and
then in the definitions, the first of them first. The two cases are the two constructors of
`Holds`. -/
theorem find?_types (b : Building) (name : String) (h : TypeHandle) :
    b.catalog.types.find? name = some h ↔ b.Holds name h := by
  rw [types_eq, TypeTable.find?_foldl_put, TypeTable.ofDefinitions,
    TypeTable.find?_foldl_putFirst, Option.or_eq_some_iff]
  constructor
  · rintro (found | ⟨missing, found⟩)
    · obtain ⟨named, after, before, split, last⟩ := List.find?_eq_some_iff_append.mp found
      have turned : b.registered = before.reverse ++ h :: after.reverse := by
        rw [← List.reverse_reverse b.registered, split]
        simp
      exact .registered turned (by simpa using named)
        (fun later hlater => by simpa using last later (by simpa using hlater))
    · have unregistered : ∀ h ∈ b.registered, TypeHandle.name h ≠ name := by
        simpa using missing
      obtain ⟨⟨d, k⟩, hit, rfl⟩ : ∃ e : Definition × Nat,
          (b.submitted.zipIdx b.mark).find? (fun e => e.1.name == name) = some e ∧
            e.1.handle e.2 = h := by
        simpa [TypeTable.find?] using found
      obtain ⟨before, after, split, named, first, rfl⟩ := (find?_zipIdx_iff _ _ _ _).mp hit
      exact .submitted unregistered split named first
  · intro held
    cases held with
    | @registered before after _ split named last =>
      refine .inl (List.find?_eq_some_iff_append.mpr
        ⟨by simpa using named, after.reverse, before.reverse, by simp [split], ?_⟩)
      intro later hlater
      simpa using last later (by simpa using hlater)
    | submitted unregistered split named first =>
      refine .inr ⟨by simpa using unregistered, ?_⟩
      rw [(find?_zipIdx_iff _ _ _ (_, _)).mpr ⟨_, _, split, named, first, rfl⟩]
      rfl

/-- The table of a catalog has nothing under a name if and only if no step of its building put
something there. -/
private lemma find?_types_eq_none (b : Building) (name : String) :
    b.catalog.types.find? name = none ↔ ∀ h, ¬ b.Holds name h := by
  simp only [Option.eq_none_iff_forall_ne_some, ne_eq, find?_types]

/-- The tables that a catalog is nested in are those of the catalogs above it. -/
private lemma enclosing_eq (b : Building) :
    b.catalog.enclosing = b.above.map (fun c => c.catalog.types) := by
  induction b with
  | empty => rfl
  | definitions ds mark => rfl
  | register b h ih => exact ih
  | withType b h ih => exact ih
  | within b parent _ ih => exact congrArg (parent.catalog.types :: ·) ih

/-- A catalog looks a name up in its own table and then in those of the enclosing catalogs, one
after the other. -/
private lemma lookup_eq (b : Building) (name : String) :
    b.catalog.lookup name = b.chain.findSome? (fun c => c.catalog.types.find? name) := by
  rw [Catalog.lookup, enclosing_eq, chain, List.findSome?_cons, List.findSome?_map,
    List.findSome?_cons]
  rfl

/-! ## What a catalog answers -/

/-- The enclosing catalogs of a catalog are those of the buildings above it. -/
private lemma ancestors_eq (b : Building) : b.catalog.ancestors = b.above.map catalog := by
  induction b with
  | empty => rfl
  | definitions ds mark => rfl
  | register b h ih => exact ih
  | withType b h ih => exact ih
  | within b parent _ ih => exact congrArg (parent.catalog :: ·) ih

/-- What the catalog that `b` makes says of itself, in terms of the steps in `b`.

On the left there is what the functions of a catalog compute. On the right there is what the steps
say by which it was built, and these do not mention the tables. -/
structure Answers (b : Building) : Prop where
  /-- Looking a name up finds what the nearest catalog that holds the name has for it. -/
  found : ∀ name h, b.catalog.lookup name = some h ↔ b.Finds name h
  /-- It finds nothing exactly if no catalog of the chain holds the name. -/
  absent : ∀ name, b.catalog.lookup name = none ↔ ∀ c ∈ b.chain, ∀ h, ¬ c.Holds name h
  /-- The catalog contains the names that it finds. -/
  contained : ∀ name, b.catalog.contains name = true ↔ ∃ h, b.Finds name h
  /-- What is found under a name has that name. -/
  named : ∀ name h, b.catalog.lookup name = some h → TypeHandle.name h = name
  /-- Registering a type gives back what this very catalog held under its name. -/
  replaced : ∀ h old,
    (b.catalog.register h).1 = some old ↔ b.Holds (TypeHandle.name h) old
  /-- It changes what is found under its own name, and under no other. -/
  changed : ∀ h name, (b.catalog.register h).2.lookup name =
    if TypeHandle.name h = name then some h else b.catalog.lookup name
  /-- The catalogs above are those that were made as parents. -/
  nested : b.catalog.ancestors = b.above.map catalog
  /-- Registering a type leaves them alone. -/
  unchanged : ∀ h, (b.catalog.register h).2.ancestors = b.above.map catalog
  /-- The size is the number of the names that this very catalog holds. -/
  counted : ∃ names : List String, names.Nodup ∧ (∀ name, name ∈ names ↔ ∃ h, b.Holds name h) ∧
    b.catalog.size = names.length

/-- A look-up gives exactly what is found along the chain: the type that the nearest catalog holds
under the name. -/
private lemma lookup_eq_some_iff (b : Building) (name : String) (h : TypeHandle) :
    b.catalog.lookup name = some h ↔ b.Finds name h := by
  rw [lookup_eq, List.findSome?_eq_some_iff]
  simp only [find?_types, find?_types_eq_none, Finds]

/-- A look-up gives nothing if and only if no catalog of the chain holds anything under the name. -/
private lemma lookup_eq_none_iff (b : Building) (name : String) :
    b.catalog.lookup name = none ↔ ∀ c ∈ b.chain, ∀ h, ¬ c.Holds name h := by
  rw [lookup_eq, List.findSome?_eq_none_iff]
  simp only [find?_types_eq_none]

/-- The size of a catalog is the number of names under which it holds something itself. -/
private lemma size_eq (b : Building) :
    ∃ names : List String, names.Nodup ∧ (∀ name, name ∈ names ↔ ∃ h, b.Holds name h) ∧
      b.catalog.size = names.length := by
  refine ⟨b.catalog.types.map TypeHandle.name, b.distinct_types, fun name => ?_, ?_⟩
  · rw [← TypeTable.find?_isSome_iff, Option.isSome_iff_exists]
    simp only [find?_types]
  · rw [List.length_map]
    rfl

/-- **A catalog answers according to the steps by which it was made**, whatever their order and
however deep it is nested: the nearest catalog that holds a name answers for it, with the last
registration or else the first definition.

**Proof sketch.** The table of a catalog is a fold over its own steps (`types_eq`), so what it has
under a name is the last registration or else the first definition (`find?_types`). The tables above
it are those of the catalogs it is nested in (`enclosing_eq`), and a look-up is the first hit on
that list. -/
theorem answers_nearest (b : Building) : b.Answers where
  found := b.lookup_eq_some_iff
  absent := b.lookup_eq_none_iff
  contained name := by
    rw [Catalog.contains, Option.isSome_iff_exists]
    simp only [lookup_eq_some_iff]
  named _ _ found := Catalog.name_of_lookup found
  replaced h old := b.find?_types (TypeHandle.name h) old
  changed h name := by
    simp only [Catalog.lookup, Catalog.register, List.findSome?_cons, TypeTable.find?_put]
    by_cases same : TypeHandle.name h = name <;> simp [same]
  nested := b.ancestors_eq
  unchanged h := ancestors_eq (b.register h)
  counted := b.size_eq

/-- The first definition counts, until a type is registered under its name; a parent answers for
what the catalog itself does not hold. -/
example :
    let parent := definitions [⟨"a", ⟨0⟩⟩, ⟨"a", ⟨1⟩⟩, ⟨"b", ⟨2⟩⟩] 0
    let b := (empty.within parent).register ⟨7, ⟨"b", ⟨3⟩⟩⟩
    b.catalog.lookup "a" = some ⟨0, ⟨"a", ⟨0⟩⟩⟩ ∧ b.catalog.lookup "b" = some ⟨7, ⟨"b", ⟨3⟩⟩⟩ := by
  decide

end Building

end Standby
