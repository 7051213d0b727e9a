import Mathlib.Data.String.Basic
import Mathlib.Tactic.SplitIfs
set_option autoImplicit false

/-!
# The order of texts

Texts are compared character by character, by code point. That is the order of their bytes in UTF-8.

## Main definitions

* `Standby.Text.bytes` — the bytes of a text.

## Main results

* `Standby.Text.lt_iff_bytes_lt` — a text comes before another exactly if its bytes do.
* `Standby.Text.pairwise_mergeSort`, `Standby.Text.eq_of_perm` — values with distinct texts have
  exactly one order in which the bytes of these ascend, and sorting finds it.

## Design

The encodings of two characters differ, and neither is the beginning of the other, so the first byte
that differs decides, whatever follows. Where both take equally many bytes, these hold the digits of
the code points to the base 64, the most significant first. Else the first byte tells which takes
more.
-/

namespace Standby.Text

/-- The bytes of a text in UTF-8. -/
def bytes (s : String) : List UInt8 := s.toByteArray.data.toList

/-- The bytes of a text are those of its characters, one after the other. -/
private lemma bytes_eq (s : String) : bytes s = s.toList.flatMap String.utf8EncodeChar := by
  rw [bytes, ← String.utf8Encode_toList, List.utf8Encode, List.data_toByteArray]

/-- A number that fits into a byte is the number of this byte. -/
private lemma toNat_ofNat {n : Nat} (h : n < 256) : (UInt8.ofNat n).toNat = n := by
  simp [Nat.mod_eq_of_lt h]

/-- Code points have at most 21 bits. -/
private lemma toNat_lt (c : Char) : c.val.toNat < 0x110000 := by
  have valid := c.valid
  simp only [UInt32.isValidChar, Nat.isValidChar] at valid
  omega

/-- Numbers are compared by their digits to the base 64, the most significant first.

**Proof sketch.** From the last digit to the first. At each place the quotient is smaller, or it is
the same and the digit decides. -/
private lemma digits_lt {a b : Nat} (h : a < b) :
    a / 262144 < b / 262144 ∨ a / 262144 = b / 262144 ∧
      (a / 4096 % 64 < b / 4096 % 64 ∨ a / 4096 % 64 = b / 4096 % 64 ∧
        (a / 64 % 64 < b / 64 % 64 ∨ a / 64 % 64 = b / 64 % 64 ∧ a % 64 < b % 64)) := by
  have units : a / 64 < b / 64 ∨ a / 64 = b / 64 ∧ a % 64 < b % 64 := by omega
  have second : a / 64 < b / 64 →
      a / 4096 < b / 4096 ∨ a / 4096 = b / 4096 ∧ a / 64 % 64 < b / 64 % 64 := by omega
  have third : a / 4096 < b / 4096 →
      a / 262144 < b / 262144 ∨ a / 262144 = b / 262144 ∧ a / 4096 % 64 < b / 4096 % 64 := by omega
  have up : a / 64 = b / 64 → a / 4096 = b / 4096 := by omega
  have further : a / 4096 = b / 4096 → a / 262144 = b / 262144 := by omega
  rcases units with less | ⟨same, less⟩
  · rcases second less with less | ⟨same, less⟩
    · rcases third less with less | ⟨same, less⟩
      · exact .inl less
      · exact .inr ⟨same, .inl less⟩
    · exact .inr ⟨further same, .inr ⟨by rw [same], .inl less⟩⟩
  · exact .inr ⟨further (up same), .inr ⟨by rw [up same], .inr ⟨by rw [same], less⟩⟩⟩

/-- The encoding of a character comes before that of any later one, whatever follows either.

**Proof sketch.** A longer encoding begins with a greater byte, and two encodings of the same length
are compared digit by digit, as `digits_lt` compares the numbers. The cases are those of the
lengths. -/
private lemma encode_lt {c d : Char} (h : c < d) (u v : List UInt8) :
    String.utf8EncodeChar c ++ u < String.utf8EncodeChar d ++ v := by
  have less : c.val.toNat < d.val.toNat := h
  have digits := digits_lt less
  have hc := toNat_lt c
  have hd := toNat_lt d
  simp only [String.utf8EncodeChar]
  generalize c.val.toNat = a at *
  generalize d.val.toNat = b at *
  have leadA : a / 262144 % 8 = a / 262144 := by omega
  have leadB : b / 262144 % 8 = b / 262144 := by omega
  split_ifs
  all_goals try omega
  all_goals
    simp (disch := omega) only [List.cons_append, List.nil_append, List.cons_lt_cons_iff,
      UInt8.lt_iff_toNat_lt, ← UInt8.toNat_inj, toNat_ofNat, leadA, leadB]
    omega

/-- Where characters compare, their bytes do so too. -/
private lemma flatMap_encode_lt {s t : List Char} (h : s < t) :
    s.flatMap String.utf8EncodeChar < t.flatMap String.utf8EncodeChar := by
  induction h with
  | @nil d t =>
    obtain ⟨b, rest, encoded⟩ := List.exists_cons_of_ne_nil (String.utf8EncodeChar_ne_nil (c := d))
    rw [List.flatMap_cons, encoded]
    exact List.nil_lt_cons _ _
  | rel less => exact encode_lt less _ _
  | @cons c s t _ ih =>
    rw [List.flatMap_cons, List.flatMap_cons]
    exact List.append_left_lt ih

/-- **Byte order.** A text comes before another exactly if its bytes in UTF-8 do. -/
theorem lt_iff_bytes_lt (s t : String) : s < t ↔ bytes s < bytes t := by
  rw [bytes_eq, bytes_eq]
  have forward : ∀ {s t : String}, s < t →
      s.toList.flatMap String.utf8EncodeChar < t.toList.flatMap String.utf8EncodeChar :=
    fun h => flatMap_encode_lt (String.lt_iff_toList_lt.mp h)
  refine ⟨forward, fun less => ?_⟩
  rcases lt_trichotomy s t with h | rfl | h
  · exact h
  · exact absurd less (List.lt_irrefl _)
  · exact absurd (forward h) (List.lt_asymm less)

/-! ## Sorting by a text -/

section Sorting

variable {α : Type} {key : α → String} {xs ys : List α}

/-- Values that were sorted by distinct texts are in strictly ascending order.

**Proof sketch.** Sorting gives an order that is not strict. As the texts are distinct it is strict,
and the order of texts is that of their bytes. -/
lemma pairwise_mergeSort (distinct : (xs.map key).Nodup) :
    (xs.mergeSort fun a b => decide (key a ≤ key b)).Pairwise
      fun a b => bytes (key a) < bytes (key b) := by
  have sorted : (xs.mergeSort fun a b => decide (key a ≤ key b)).Pairwise
      fun a b => decide (key a ≤ key b) = true := by
    apply List.pairwise_mergeSort
    · intro a b c ab bc
      simp only [decide_eq_true_eq] at ab bc ⊢
      exact ab.trans bc
    · intro a b
      simpa using le_total (key a) (key b)
  have apart : (xs.mergeSort fun a b => decide (key a ≤ key b)).Pairwise fun a b => key a ≠ key b :=
    List.pairwise_map.mp (((List.mergeSort_perm xs _).map key).nodup_iff.mpr distinct)
  refine (sorted.and apart).imp ?_
  rintro a b ⟨le, ne⟩
  exact (lt_iff_bytes_lt _ _).mp (lt_of_le_of_ne (of_decide_eq_true le) ne)

/-- The same values are in strictly ascending order in one way only. -/
lemma eq_of_perm (hxs : xs.Pairwise fun a b => bytes (key a) < bytes (key b))
    (hys : ys.Pairwise fun a b => bytes (key a) < bytes (key b)) (same : xs.Perm ys) : xs = ys :=
  same.eq_of_pairwise (fun _ _ _ _ less greater => absurd greater (List.lt_asymm less)) hxs hys

end Sorting

end Standby.Text
