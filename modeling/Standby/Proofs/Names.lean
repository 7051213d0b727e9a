import Mathlib.Data.List.Nodup
import Mathlib.Tactic.Lemma
import Mathlib.Tactic.SplitIfs
import Standby.Manifest.Names
set_option autoImplicit false

/-!
# Names that are refused

A declaration is refused if its name is blank, or if an earlier declaration has the same name. The
check goes through the declarations in order and reports the first that is refused.

## Main definitions

* `Standby.Declaration.Blank` — a declaration whose name holds nothing but white space.
* `Standby.Manifest.Refused` — a declaration that is refused, and why.
* `Standby.Manifest.FirstRefused` — why the first one is.

## Main results

* `Standby.Manifest.checkFrom_cases` — the loop of the check.
* `Standby.Manifest.checkNames_ok_iff`, `Standby.Manifest.checkNames_error_iff` — what is accepted,
  and what is reported.
-/

namespace Standby

/-- The name of the declaration is empty or holds nothing but white space. -/
def Declaration.Blank (d : Declaration) : Prop := ∀ c ∈ d.name.toList, Text.isWhiteSpace c = true

/-- The test for a blank name says what a blank name is: one with nothing but white space in it. -/
private lemma Declaration.isBlank_iff (d : Declaration) : Text.isBlank d.name = true ↔ d.Blank := by
  rw [Text.isBlank, List.all_eq_true, Blank]

namespace Manifest

variable {ds before after : List Declaration} {i : Nat} {e e' : ManifestError}

/-- The declaration at the position `i` is refused: its name is blank, or it is not and stands at an
earlier position as well. -/
inductive Refused (ds : List Declaration) (i : Nat) : ManifestError → Prop
  | blank {d : Declaration} (here : ds[i]? = some d) (blank : d.Blank) : Refused ds i .emptyName
  | repeated {d earlier : Declaration} {j : Nat} (here : ds[i]? = some d) (named : ¬ d.Blank)
    (before : j < i) (there : ds[j]? = some earlier) (same : earlier.name = d.name) :
    Refused ds i (.duplicateName d.name)

/-- No declaration before the position `i` is refused, and the one at this position is. -/
def FirstRefused (ds : List Declaration) (e : ManifestError) : Prop :=
  ∃ i, Refused ds i e ∧ ∀ j < i, ∀ e', ¬ Refused ds j e'

/-- What is refused is a declaration. -/
private lemma Refused.lt (h : Refused ds i e) : i < ds.length := by
  cases h with
  | blank here | repeated here => exact (List.getElem?_eq_some_iff.mp here).1

/-- A declaration is refused for one reason.

**Proof sketch.** By cases on both reasons. A blank name is never refused as a repetition, and a
position has one declaration. -/
private lemma Refused.unique (h : Refused ds i e) (h' : Refused ds i e') : e = e' := by
  cases h with
  | blank here blank =>
    cases h' with
    | blank => rfl
    | repeated here' named =>
      obtain rfl := Option.some.inj (here.symm.trans here')
      exact absurd blank named
  | repeated here named =>
    cases h' with
    | blank here' blank =>
      obtain rfl := Option.some.inj (here.symm.trans here')
      exact absurd blank named
    | repeated here' => rw [Option.some.inj (here.symm.trans here')]

/-- There is one declaration that is the first to be refused. -/
private lemma FirstRefused.unique (h : FirstRefused ds e) (h' : FirstRefused ds e') : e = e' := by
  obtain ⟨i, refused, fine⟩ := h
  obtain ⟨j, refused', fine'⟩ := h'
  obtain rfl : i = j := by
    by_contra ne
    rcases Nat.lt_or_gt_of_ne ne with lt | gt
    · exact fine' i lt e refused
    · exact fine j gt e' refused'
  exact refused.unique refused'

/-- The reason is that a name is blank or that it is repeated. -/
lemma FirstRefused.cases (h : FirstRefused ds e) :
    e = .emptyName ∨ ∃ name, e = .duplicateName name := by
  obtain ⟨i, refused, -⟩ := h
  cases refused with
  | blank => exact .inl rfl
  | repeated => exact .inr ⟨_, rfl⟩

/-- None is refused if every name says something and none is repeated.

**Proof sketch.** From left to right, a blank name or a repetition would be refused at its position.
From right to left, each of the two reasons contradicts one of the two conditions. -/
private lemma not_refused_iff : (∀ i e, ¬ Refused ds i e) ↔
    (∀ d ∈ ds, ¬ d.Blank) ∧ (ds.map Declaration.name).Nodup := by
  constructor
  · intro fine
    have named : ∀ d ∈ ds, ¬ d.Blank := by
      intro d mem blank
      obtain ⟨i, here⟩ := List.mem_iff_getElem?.mp mem
      exact fine i _ (.blank here blank)
    refine ⟨named, List.nodup_iff_getElem?_ne_getElem?.mpr fun j i lt bound same => ?_⟩
    rw [List.length_map] at bound
    have here : ds[i]? = some ds[i] := List.getElem?_eq_getElem bound
    have there : ds[j]? = some ds[j] := List.getElem?_eq_getElem (Nat.lt_trans lt bound)
    rw [List.getElem?_map, List.getElem?_map, here, there] at same
    exact fine i _
      (.repeated here (named _ (List.getElem_mem bound)) lt there (Option.some.inj same))
  · rintro ⟨named, distinct⟩ i e refused
    have bound := refused.lt
    cases refused with
    | blank here blank => exact named _ (List.mem_of_getElem? here) blank
    | repeated here _ lt there same =>
      refine List.nodup_iff_getElem?_ne_getElem?.mp distinct _ i lt (by simpa using bound) ?_
      rw [List.getElem?_map, List.getElem?_map, here, there, Option.map_some, Option.map_some, same]

/-- The names that were seen are those of the declarations at earlier positions.

**Proof sketch.** A name was seen if and only if a declaration among the earlier ones has it, and
these stand at the positions before. -/
private lemma mem_names_iff (before after : List Declaration) (name : String) :
    name ∈ before.reverse.map Declaration.name ↔
      ∃ j < before.length, ∃ earlier,
        (before ++ after)[j]? = some earlier ∧ earlier.name = name := by
  rw [List.mem_map]
  constructor
  · rintro ⟨earlier, mem, same⟩
    obtain ⟨j, there⟩ := List.mem_iff_getElem?.mp (List.mem_reverse.mp mem)
    have lt : j < before.length := (List.getElem?_eq_some_iff.mp there).1
    exact ⟨j, lt, earlier, (List.getElem?_append_left lt).trans there, same⟩
  · rintro ⟨j, lt, earlier, there, same⟩
    rw [List.getElem?_append_left lt] at there
    exact ⟨earlier, List.mem_reverse.mpr (List.mem_of_getElem? there), same⟩

/-- The check of the declarations that are left, with the names of those before, accepts them if
none is refused at all, and else reports why the first one is.

**Proof sketch.** Induction on the declarations that are left. None of those before is refused. Nor
is the one at hand if the loop goes on, so the same is true one position further. -/
lemma checkFrom_cases (before after : List Declaration)
    (fine : ∀ j < before.length, ∀ e, ¬ Refused (before ++ after) j e) :
    checkFrom (before.reverse.map Declaration.name) after = .ok () ∧
        (∀ j e, ¬ Refused (before ++ after) j e) ∨
      ∃ e, checkFrom (before.reverse.map Declaration.name) after = .error e ∧
        FirstRefused (before ++ after) e := by
  induction after generalizing before with
  | nil =>
    refine .inl ⟨rfl, fun j e refused => fine j ?_ e refused⟩
    simpa using refused.lt
  | cons d rest ih =>
    have here : (before ++ d :: rest)[before.length]? = some d := by simp
    have seen_iff := mem_names_iff before (d :: rest) d.name
    rw [checkFrom]
    simp only [List.contains_iff_mem]
    by_cases blank : d.Blank
    · rw [if_pos (d.isBlank_iff.mpr blank)]
      exact .inr ⟨_, rfl, before.length, .blank here blank, fine⟩
    rw [if_neg (mt d.isBlank_iff.mp blank)]
    by_cases seen : d.name ∈ before.reverse.map Declaration.name
    · rw [if_pos seen]
      obtain ⟨j, lt, earlier, there, same⟩ := seen_iff.mp seen
      exact .inr ⟨_, rfl, before.length, .repeated here blank lt there same, fine⟩
    rw [if_neg seen]
    have next : ∀ j < (before ++ [d]).length, ∀ e, ¬ Refused ((before ++ [d]) ++ rest) j e := by
      intro j lt e refused
      rw [List.append_assoc, List.singleton_append] at refused
      rw [List.length_append, List.length_singleton] at lt
      rcases Nat.lt_succ_iff_lt_or_eq.mp lt with lt | rfl
      · exact fine j lt e refused
      · cases refused with
        | blank here' blank' =>
          obtain rfl := Option.some.inj (here.symm.trans here')
          exact blank blank'
        | repeated here' _ lt there same =>
          obtain rfl := Option.some.inj (here.symm.trans here')
          exact seen (seen_iff.mpr ⟨_, lt, _, there, same⟩)
    simpa using ih (before ++ [d]) next

/-- The check of all declarations accepts them if none is refused, and else reports why the first
one is. -/
private lemma checkNames_cases (m : Manifest) :
    m.checkNames = .ok () ∧ (∀ j e, ¬ Refused m.components j e) ∨
      ∃ e, m.checkNames = .error e ∧ FirstRefused m.components e :=
  checkFrom_cases [] m.components (by simp)

/-- The check accepts manifests in which every name says something and none is repeated. -/
theorem checkNames_ok_iff {m : Manifest} : m.checkNames = .ok () ↔
    (∀ d ∈ m.components, ¬ d.Blank) ∧ (m.components.map Declaration.name).Nodup := by
  rw [← not_refused_iff]
  rcases checkNames_cases m with ⟨ok, fine⟩ | ⟨e, error, i, refused, -⟩
  · exact iff_of_true ok fine
  · refine iff_of_false ?_ fun fine => fine i e refused
    rw [error]
    exact nofun

/-- The check reports why the first declaration that is refused is. -/
theorem checkNames_error_iff {m : Manifest} :
    m.checkNames = .error e ↔ FirstRefused m.components e := by
  rcases checkNames_cases m with ⟨ok, fine⟩ | ⟨e', error, first⟩
  · refine iff_of_false ?_ fun ⟨i, refused, _⟩ => fine i e refused
    rw [ok]
    exact nofun
  · rw [error]
    exact ⟨fun same => Except.error.inj same ▸ first, fun first' => by rw [first.unique first']⟩

end Manifest

end Standby
