import Standby.Text.Printable
set_option autoImplicit false

/-!
# Quoted text

A text between double quotes in which every character that would not show is written as an escape.

## Main definitions

* `Standby.Text.escape` — how one character is written.
* `Standby.Text.quoted` — a text between quotes.
-/

namespace Standby.Text

/-- How a character is written in a quoted text: five have escapes of their own, a hidden one is
written by its code point in lower case hexadecimal digits, every other one stands for itself. -/
def escape (c : Char) : List Char :=
  if c = '\t' then ['\\', 't']
  else if c = '\r' then ['\\', 'r']
  else if c = '\n' then ['\\', 'n']
  else if c = '"' then ['\\', '"']
  else if c = '\\' then ['\\', '\\']
  else if c.toNat = 0 then ['\\', '0']
  else if isPrintable c then [c]
  else ['\\', 'u', '\x7b'] ++ Nat.toDigits 16 c.toNat ++ ['\x7d']

/-- A text between double quotes, each character escaped where needed. -/
def quoted (s : String) : String :=
  String.ofList ('"' :: s.toList.flatMap escape ++ ['"'])

end Standby.Text
