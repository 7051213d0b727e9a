set_option autoImplicit false

/-!
# Basic strings

A text written between double quotes as TOML wants it.

## Main definitions

* `Standby.Toml.EscapeForm` — the ways to write a character after a backslash.
* `Standby.Toml.BasicString.escape` — how one character is written.
* `Standby.Toml.BasicString.write` — a text between quotes.

## Design

The quote, the backslash and every control character are written after a backslash, in any of the
forms that there are for them. All other characters stand for themselves.
-/

namespace Standby.Toml

/-- How a character is written after a backslash. -/
inductive EscapeForm where
  /-- By its letter, or by its code point in four digits if it has none. -/
  | letter
  /-- By its code point in two, four or eight hexadecimal digits. -/
  | two | four | eight
  deriving Repr, DecidableEq, Inhabited

namespace BasicString

/-- Whether a character is a control character (the property `Cc`). -/
def isControl (c : Char) : Bool := c.toNat < 0x20 || (0x7F ≤ c.toNat && c.toNat ≤ 0x9F)

/-- The characters that do not stand for themselves between quotes. -/
def isEscaped (c : Char) : Bool := c == '"' || c == '\\' || isControl c

/-- The last hexadecimal digits of a number, so many of them. -/
def hexDigits : Nat → Nat → List Char
  | 0, _ => []
  | count + 1, n => hexDigits count (n / 16) ++ [Nat.digitChar (n % 16)]

/-- The letter that stands for a character after a backslash, for those that have one. -/
def letter? : Char → Option Char
  | '\x08' => some 'b'
  | '\t' => some 't'
  | '\n' => some 'n'
  | '\x0c' => some 'f'
  | '\r' => some 'r'
  | '\x1b' => some 'e'
  | '"' => some '"'
  | '\\' => some '\\'
  | _ => none

/-- What is written after the backslash for a character. -/
def code (c : Char) : EscapeForm → List Char
  | .letter => (letter? c).elim ('u' :: hexDigits 4 c.toNat) ([·])
  | .two => 'x' :: hexDigits 2 c.toNat
  | .four => 'u' :: hexDigits 4 c.toNat
  | .eight => 'U' :: hexDigits 8 c.toNat

/-- How a character is written between quotes. -/
def escape (form : Char → EscapeForm) (c : Char) : List Char :=
  if isEscaped c then '\\' :: code c (form c) else [c]

/-- A text between quotes. -/
def write (form : Char → EscapeForm) (s : String) : List Char :=
  '"' :: s.toList.flatMap (escape form) ++ ['"']

end BasicString

end Standby.Toml
