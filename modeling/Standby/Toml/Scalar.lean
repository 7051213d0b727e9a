import Standby.Toml.Value
set_option autoImplicit false

/-!
# TOML scalars

Values that are written without quotes and brackets: booleans, integers, floating point numbers,
dates and times. Some texts are taken for numbers although they cannot be read as one; they are kept
as such, because nothing is wrong with them as long as nobody reads them.

## Main definitions

* `Standby.Toml.Scalar.integer?`, `Standby.Toml.Scalar.float?`, `Standby.Toml.Scalar.boolean?` —
  read a number or a boolean.
* `Standby.Toml.Scalar.isMoment` — whether a text is a date, a time, or both.
* `Standby.Toml.Scalar.isTruncated` — whether a text begins like an integer without being one.
* `Standby.Toml.Scalar.value?` — the value of a scalar.
-/

namespace Standby.Toml.Scalar

/-! ## Digits -/

/-- Decimal digits. -/
def isDigit (c : Char) : Bool := '0' ≤ c && c ≤ '9'

/-- Hexadecimal digits, in either case. -/
def isHexDigit (c : Char) : Bool := isDigit c || ('a' ≤ c && c ≤ 'f') || ('A' ≤ c && c ≤ 'F')

/-- Octal digits. -/
def isOctalDigit (c : Char) : Bool := '0' ≤ c && c ≤ '7'

/-- Binary digits. -/
def isBinaryDigit (c : Char) : Bool := c == '0' || c == '1'

/-- The value of a digit. -/
def digitValue (c : Char) : Nat :=
  if isDigit c then c.toNat - '0'.toNat
  else if 'a' ≤ c then c.toNat - 'a'.toNat + 10
  else c.toNat - 'A'.toNat + 10

/-- The number written with the digits of a base. -/
def number (base : Nat) (digits : List Char) : Nat :=
  digits.foldl (fun n c => base * n + digitValue c) 0

/-- The digits of a run of at least one digit in which single underscores may stand between two
digits. -/
def digits? (ok : Char → Bool) : List Char → Option (List Char)
  | [] => none
  | [c] => if ok c then some [c] else none
  | c :: '_' :: rest => if ok c then (digits? ok rest).map (c :: ·) else none
  | c :: rest => if ok c then (digits? ok rest).map (c :: ·) else none

/-- The digits of a decimal run that has no needless zero in front. -/
def plainDigits? (cs : List Char) : Option (List Char) :=
  match digits? isDigit cs with
  | some ['0'] => some ['0']
  | some ('0' :: _) => none
  | digits => digits

/-- The sign of a number, if one is written, and what follows it. -/
def sign : List Char → Option Char × List Char
  | '+' :: rest => (some '+', rest)
  | '-' :: rest => (some '-', rest)
  | cs => (none, cs)

/-! ## Integers -/

/-- The integer with a sign. -/
def signed (s : Option Char) (n : Nat) : Int := if s = some '-' then -(n : Int) else n

/-- Reads an integer. A base other than ten takes no sign. -/
def whole? (cs : List Char) : Option Int :=
  match cs with
  | '0' :: 'x' :: rest => (digits? isHexDigit rest).map fun ds => (number 16 ds : Int)
  | '0' :: 'o' :: rest => (digits? isOctalDigit rest).map fun ds => (number 8 ds : Int)
  | '0' :: 'b' :: rest => (digits? isBinaryDigit rest).map fun ds => (number 2 ds : Int)
  | cs => (plainDigits? (sign cs).2).map fun ds => signed (sign cs).1 (number 10 ds)

/-- The integers of 128 bits, with or without a sign. -/
def isSized (n : Int) : Bool :=
  -0x80000000000000000000000000000000 ≤ n && n ≤ 0xFFFFFFFFFFFFFFFFFFFFFFFFFFFFFFFF

/-- The value of an integer. -/
def ofWhole (n : Int) : Value := if isSized n then .integer n else .unreadable

/-- Reads an integer that is written out in full. -/
def integer? (cs : List Char) : Option Value := (whole? cs).map ofWhole

/-- Whether each underscore of a text stands between two digits, of whatever base. -/
def joinsDigits : List Char → Bool
  | [] => true
  | ['_'] => false
  | [_] => true
  | a :: b :: rest =>
    if a = '_' then false
    else if b = '_' then
      isHexDigit a && (rest.head?.map isHexDigit).getD false && joinsDigits rest
    else joinsDigits (b :: rest)

/-- Whether a text begins like an integer without being one: a base and no digits after it, or
decimal digits, an underscore, and then anything that has no space and does not make it a floating
point number. -/
def isTruncated (cs : List Char) : Bool :=
  cs == ['0', 'x'] || cs == ['0', 'o'] || cs == ['0', 'b'] ||
    let unsigned := (sign cs).2
    let rest := unsigned.dropWhile isDigit
    match unsigned with
    | first :: _ =>
      isDigit first && first != '0' && rest.head? == some '_' &&
        !rest.any " .eE".toList.contains && joinsDigits unsigned
    | [] => false

/-! ## Floating point numbers -/

/-- Splits a text before the first character that satisfies `stop`. -/
def splitBefore (stop : Char → Bool) (cs : List Char) : List Char × List Char :=
  cs.span (fun c => !stop c)

/-- The exponent after a mantissa, where there is one. -/
def exponent? : List Char → Option Int
  | [] => some 0
  | c :: rest =>
    if c = 'e' ∨ c = 'E' then
      (digits? isDigit (sign rest).2).map fun ds => signed (sign rest).1 (number 10 ds)
    else none

/-- The digits after the point of a mantissa, where there is one. -/
def fraction? : List Char → Option (List Char)
  | [] => some []
  | '.' :: rest => digits? isDigit rest
  | _ => none

/-- The value of a number that was written with digits. -/
def ofDigits : Binary64 → Value
  | .infinite _ => .unreadable
  | x => .float x

/-- Reads a floating point number. -/
def float? (cs : List Char) : Option Value :=
  let (s, unsigned) := sign cs
  let negative := s == some '-'
  if unsigned = "inf".toList then some (.float (.infinite negative))
  else if unsigned = "nan".toList then some (.float .notANumber)
  else
    let (mantissa, tail) := splitBefore (fun c => c == 'e' || c == 'E') unsigned
    let (whole, part) := splitBefore (· == '.') mantissa
    if tail.isEmpty && part.isEmpty then none
    else
      match plainDigits? whole, fraction? part, exponent? tail with
      | some ws, some fs, some e =>
        some (ofDigits (Binary64.ofDecimal negative (number 10 (ws ++ fs)) (e - fs.length)))
      | _, _, _ => none

/-! ## Dates and times -/

/-- The number written with exactly `n` decimal digits at the beginning of a text, and what follows
it. -/
def fixed? (n : Nat) (cs : List Char) : Option (Nat × List Char) :=
  let ds := cs.take n
  if ds.length = n ∧ ds.all isDigit then some (number 10 ds, cs.drop n) else none

/-- What follows a character at the beginning of a text. -/
def after? (c : Char) : List Char → Option (List Char)
  | x :: rest => if x = c then some rest else none
  | [] => none

/-- Whether a year has a day more than others. -/
def isLeap (year : Nat) : Bool := year % 4 == 0 && (year % 100 != 0 || year % 400 == 0)

/-- The number of days of a month. -/
def daysOf (year month : Nat) : Nat :=
  if month = 2 then (if isLeap year then 29 else 28)
  else if month ∈ [4, 6, 9, 11] then 30 else 31

/-- What follows a date of the calendar at the beginning of a text. -/
def afterDate? (cs : List Char) : Option (List Char) := do
  let (year, cs) ← fixed? 4 cs
  let (month, cs) ← fixed? 2 (← after? '-' cs)
  let (day, cs) ← fixed? 2 (← after? '-' cs)
  if 1 ≤ month ∧ month ≤ 12 ∧ 1 ≤ day ∧ day ≤ daysOf year month then some cs else none

/-- What follows the fraction of a second, where there is one. -/
def afterFraction? : List Char → Option (List Char)
  | '.' :: c :: rest => if isDigit c then some (rest.dropWhile isDigit) else none
  | '.' :: [] => none
  | cs => some cs

/-- What follows a time of the day at the beginning of a text. The seconds may be left out. -/
def afterTime? (cs : List Char) : Option (List Char) := do
  let (hour, cs) ← fixed? 2 cs
  let (minute, cs) ← fixed? 2 (← after? ':' cs)
  if 23 < hour ∨ 59 < minute then none
  else
    match cs with
    | ':' :: rest => do
      let (second, cs) ← fixed? 2 rest
      if 60 < second then none else afterFraction? cs
    | cs => some cs

/-- Whether a text is empty or an offset from universal time. -/
def isOffset : List Char → Bool
  | [] => true
  | ['Z'] | ['z'] => true
  | c :: rest =>
    (c == '+' || c == '-') &&
      match (do
        let (hour, cs) ← fixed? 2 rest
        let (minute, cs) ← fixed? 2 (← after? ':' cs)
        some (hour, minute, cs)) with
      | some (hour, minute, []) => hour ≤ 23 && minute ≤ 59
      | _ => false

/-- Whether a text is a date, a time, or a date with a time and perhaps an offset. -/
def isMoment (cs : List Char) : Bool :=
  match afterDate? cs with
  | some [] => true
  | some (c :: rest) =>
    (c == 'T' || c == 't' || c == ' ') &&
      match afterTime? rest with
      | some tail => isOffset tail
      | none => false
  | none => afterTime? cs == some []

/-! ## Scalars -/

/-- Reads a boolean. -/
def boolean? (cs : List Char) : Option Bool :=
  if cs = "true".toList then some true
  else if cs = "false".toList then some false
  else none

/-- The value of a scalar, or nothing if the text is none. No text has two readings. -/
def value? (cs : List Char) : Option Value :=
  match boolean? cs, integer? cs, float? cs with
  | some b, _, _ => some (.boolean b)
  | none, some n, _ => some n
  | none, none, some x => some x
  | none, none, none =>
    if isMoment cs then some .moment
    else if isTruncated cs then some .unreadable
    else none

end Standby.Toml.Scalar
