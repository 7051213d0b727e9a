set_option autoImplicit false

/-!
# Blank text

The characters with the Unicode property `White_Space`, and the texts that consist of nothing else.

## Main definitions

* `Standby.Text.whiteSpace` — the ranges of the property.
* `Standby.Text.isBlank` — whether a text is empty or holds white space only.
-/

namespace Standby.Text

/-- The ranges of code points with the property `White_Space`, ends included. -/
def whiteSpace : List (Nat × Nat) :=
  [(0x9, 0xD), (0x20, 0x20), (0x85, 0x85), (0xA0, 0xA0), (0x1680, 0x1680), (0x2000, 0x200A),
    (0x2028, 0x2029), (0x202F, 0x202F), (0x205F, 0x205F), (0x3000, 0x3000)]

/-- Whether a character has the property `White_Space`. -/
def isWhiteSpace (c : Char) : Bool :=
  whiteSpace.any fun range => range.1 ≤ c.toNat && c.toNat ≤ range.2

/-- Whether a text is empty or holds white space only. -/
def isBlank (s : String) : Bool := s.toList.all isWhiteSpace

end Standby.Text
