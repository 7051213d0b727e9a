import Standby.Decimal.Binary64
set_option autoImplicit false

/-!
# TOML values

What a document says, whatever the spelling.

## Main definitions

* `Standby.Toml.Value` — a value.
* `Standby.Toml.Entries` — the keys of a table with their values.
-/

namespace Standby.Toml

/-- A value of a document. -/
inductive Value where
  | text (s : String)
  /-- An integer of at most 128 bits, with or without a sign. -/
  | integer (n : Int)
  | float (x : Binary64)
  /-- A number that begins like one but is malformed further on, or is beyond the range of its kind.
  It only matters where a number is read. -/
  | unreadable
  | boolean (b : Bool)
  /-- A date, a time, or both. Nothing reads further into one. -/
  | moment
  | array (items : List Value)
  /-- The keys of a table are distinct. Their order is that of the document. -/
  | table (entries : List (String × Value))
  deriving Inhabited

/-- The keys of a table with their values. -/
abbrev Entries := List (String × Value)

end Standby.Toml
