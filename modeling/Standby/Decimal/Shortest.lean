import Standby.Decimal.Binary64
set_option autoImplicit false

/-!
# Shortest decimals

The decimal with the fewest digits that reads back as a given number of double precision, and its
positional text.

## Main definitions

* `Standby.Binary64.shortest` — the fewest digits, of those the nearest, and of two equally near the
  greater.
* `Standby.Binary64.text` — the number written with these digits, without an exponent and with at
  least one decimal.

## Design

A decimal reads back as `m * 2 ^ e` when it lies between the midpoints to the neighbouring numbers,
the midpoints included when `m` is even. With `p` places the decimals are the multiples of
`10 ^ p`, so only the two multiples next to the number have to be tried, for each `p` from the
leading digit down. All comparisons are between natural numbers.
-/

namespace Standby.Binary64

/-- The power of ten with a natural or negative exponent, as a numerator and a denominator. -/
def tenPower (p : Int) : Nat × Nat :=
  if 0 ≤ p then (Nat.pow 10 p.toNat, 1) else (1, Nat.pow 10 (-p).toNat)

/-- The place of the leading decimal digit of `num / den`. -/
def leadingPlace (num den : Nat) : Int :=
  if den ≤ num then ((Nat.toDigits 10 (num / den)).length : Int) - 1
  else
    match (List.range 400).find? (fun k => den ≤ num * Nat.pow 10 k) with
    | some k => -(k : Int)
    | none => 0

/-- The multiple of `10 ^ p` next to `m * 2 ^ e` that reads back, if there is one; of two the
nearer, and of two equally near the greater. The number and its midpoints are taken four times, so
that all are integers in the unit `2 ^ (e - 2)`. -/
def onGrid (m : Nat) (e p : Int) : Option Nat :=
  let (twoUp, twoDown) := twoPower (e - 2)
  let (tenUp, tenDown) := tenPower p
  let grid := tenUp * twoDown
  let unit := tenDown * twoUp
  let low := if m = fullMantissa ∧ leastExponent < e then 4 * m - 1 else 4 * m - 2
  let high := 4 * m + 2
  let readsBack (c : Nat) : Bool :=
    if m % 2 = 0 then low * unit ≤ c * grid && c * grid ≤ high * unit
    else low * unit < c * grid && c * grid < high * unit
  let below := 4 * m * unit / grid
  let above := below + 1
  match readsBack below, readsBack above with
  | true, true =>
    if 4 * m * unit - below * grid < above * grid - 4 * m * unit then some below else some above
  | true, false => some below
  | false, true => some above
  | false, false => none

/-- The digits and the place of the last digit of the shortest decimal that reads back as
`m * 2 ^ e`. Seventeen digits always suffice. -/
def shortest (m : Nat) (e : Int) : Nat × Int :=
  let (up, down) := twoPower e
  let top := leadingPlace (m * up) down
  match (List.range 17).findSome? fun (k : Nat) =>
      (onGrid m e (top - k)).map fun c => (c, top - k) with
  | some found => found
  | none => (m, e)

/-- Writes `digits * 10 ^ place` without an exponent and with at least one decimal. -/
def positional (digits : Nat) (place : Int) : String :=
  let written := Nat.toDigits 10 digits
  if 0 ≤ place then
    String.ofList (written ++ List.replicate place.toNat '0' ++ ['.', '0'])
  else
    let decimals := (-place).toNat
    let padded := List.replicate (decimals + 1 - written.length) '0' ++ written
    let whole := padded.take (padded.length - decimals)
    let fraction := padded.drop (padded.length - decimals)
    let kept := (fraction.reverse.dropWhile (· == '0')).reverse
    String.ofList (whole ++ '.' :: (if kept.isEmpty then ['0'] else kept))

/-- The text of a number: the shortest digits that read back, never with an exponent. -/
def text : Binary64 → String
  | finite negative 0 _ => if negative then "-0.0" else "0.0"
  | finite negative m e =>
    let (digits, place) := shortest m e
    (if negative then "-" else "") ++ positional digits place
  | infinite negative => if negative then "-inf" else "inf"
  | notANumber => "NaN"

end Standby.Binary64
