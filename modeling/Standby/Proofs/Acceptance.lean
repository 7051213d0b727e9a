import Standby.Proofs.RoundTrip
set_option autoImplicit false

/-!
# Which manifests are accepted

A text whose document spells declarations is read as these if all their names are in order. If not,
it is refused on account of the first declaration whose name is not.

## Main results

* `Standby.Manifest.first_refused_reported` — what becomes of a text that spells declarations.
-/

namespace Standby.Manifest

open Toml (Entries)

variable {text : String} {document : Entries} {components : List Declaration}

/-- **Names are checked in order.** A text that spells declarations is accepted exactly if no name
is blank and none is repeated, and then it is read as these declarations, in order. Otherwise the
first declaration whose name is blank, or is that of an earlier one, is reported.

**Proof sketch.** Such a text is read by checking the names of these declarations, one after the
other. What the check accepts and what it reports first are known for any declarations, so it is
enough to see that reading passes both on. -/
theorem first_refused_reported (parsed : Toml.read? text = some document)
    (spells : Spells document components) :
    ((∃ m, read text = .ok m) ↔
        (∀ d ∈ components, ¬ d.Blank) ∧ (components.map Declaration.name).Nodup) ∧
      (∀ m, read text = .ok m → m.components = components) ∧
      ∀ e, read text = .error e ↔ FirstRefused components e := by
  have accepted := checkNames_ok_iff (m := ⟨components⟩)
  have reported e := checkNames_error_iff (m := ⟨components⟩) (e := e)
  rcases read_of_spells parsed spells with ⟨result, checked⟩ | ⟨e, result, checked, -⟩
  · refine ⟨iff_of_true ⟨_, result⟩ (accepted.mp checked), fun m again => ?_, fun e => ?_⟩
    · rw [result] at again
      rw [← Except.ok.inj again]
    · rw [← reported e, result, checked]
      exact iff_of_false nofun nofun
  · refine ⟨iff_of_false ?_ fun fine => ?_, fun m again => ?_, fun e' => ?_⟩
    · rintro ⟨m, again⟩
      rw [result] at again
      cases again
    · rw [accepted.mpr fine] at checked
      cases checked
    · rw [result] at again
      cases again
    · rw [← reported e', result, checked]
      exact ⟨fun same => congrArg _ (Except.error.inj same),
        fun same => congrArg _ (Except.error.inj same)⟩

/-- Four declarations, of which the third repeats the first, and the fourth has a name of white
space. -/
def unfitNames : Manifest :=
  ⟨[⟨"größe", true⟩, ⟨"GRÖSSE", false⟩, ⟨"größe", false⟩, ⟨"\u2003\t", true⟩]⟩

/-- The repeated name comes first, and is the one that is reported. -/
theorem first_refused_reported_unfitNames : ∃ document,
    Toml.read? (unfitNames.write ⟨.arrays, oddForm⟩) = some document ∧
    Spells document unfitNames.components ∧
    read (unfitNames.write ⟨.arrays, oddForm⟩) = .error (.duplicateName "größe") := by
  obtain ⟨document, parsed, spells⟩ := spells_write unfitNames ⟨.arrays, oddForm⟩
  have refused : checkNames unfitNames = .error (.duplicateName "größe") := by rfl
  exact ⟨document, parsed, spells,
    ((first_refused_reported parsed spells).2.2 _).mpr (checkNames_error_iff.mp refused)⟩

end Standby.Manifest
