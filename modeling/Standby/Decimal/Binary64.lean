set_option autoImplicit false

/-!
# Binary numbers of double precision

The numbers `m * 2 ^ e` with a mantissa below `2 ^ 53` and a bounded exponent, read from decimals.

## Main definitions

* `Standby.Binary64` — a number of double precision, an infinity, or no number.
* `Standby.Binary64.ofDecimal` — the nearest such number to a decimal; of two nearest ones the one
  with the even mantissa.
-/

namespace Standby

/-- A number of double precision. -/
inductive Binary64 where
  /-- The number `mantissa * 2 ^ exponent`, below zero if `negative`. Zero has a sign too. -/
  | finite (negative : Bool) (mantissa : Nat) (exponent : Int)
  | infinite (negative : Bool)
  | notANumber
  deriving Repr, DecidableEq, Inhabited

namespace Binary64

/-- The integer nearest to `num / den`; a half goes to the even neighbour. -/
def roundDiv (num den : Nat) : Nat :=
  let quotient := num / den
  let rest := num % den
  if 2 * rest < den then quotient
  else if den < 2 * rest then quotient + 1
  else if quotient % 2 = 0 then quotient else quotient + 1

/-- The power of two with a natural or negative exponent, as a numerator and a denominator. -/
def twoPower (e : Int) : Nat × Nat :=
  if 0 ≤ e then (Nat.pow 2 e.toNat, 1) else (1, Nat.pow 2 (-e).toNat)

/-- The least mantissa of 53 bits, `2 ^ 52`. -/
def fullMantissa : Nat := 0x10000000000000

/-- The least exponent of a number of double precision. -/
def leastExponent : Int := -1074

/-- The greatest exponent of a number of double precision with a full mantissa. -/
def greatestExponent : Int := 971

/-- The exponent at which `num / den` has a mantissa of 53 bits before rounding, or the least
one. -/
def exponentOf (num den : Nat) : Int :=
  let guess := max ((num.log2 : Int) - den.log2 - 52) leastExponent
  let (up, down) := twoPower guess
  if num * down < fullMantissa * (den * up) then max (guess - 1) leastExponent else guess

/-- The number of double precision nearest to `num / den`. -/
def ofRatio (negative : Bool) (num den : Nat) : Binary64 :=
  let e := exponentOf num den
  let (up, down) := twoPower e
  let m := roundDiv (num * down) (den * up)
  let (m, e) := if m = 2 * fullMantissa then (fullMantissa, e + 1) else (m, e)
  if greatestExponent < e then infinite negative else finite negative m e

/-- The number of double precision nearest to `digits * 10 ^ exponent`. A decimal far beyond either
end of the range goes to that end without being computed. -/
def ofDecimal (negative : Bool) (digits : Nat) (exponent : Int) : Binary64 :=
  let size : Int := (Nat.toDigits 10 digits).length + exponent
  if digits = 0 ∨ size < -400 then finite negative 0 leastExponent
  else if 400 < size then infinite negative
  else if 0 ≤ exponent then ofRatio negative (digits * Nat.pow 10 exponent.toNat) 1
  else ofRatio negative digits (Nat.pow 10 (-exponent).toNat)

end Binary64

end Standby
