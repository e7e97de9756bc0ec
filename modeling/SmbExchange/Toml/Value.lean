/-!
# TOML values

The entries of a table keep their order.  Floats and dates are kept as they are written: nothing here
computes with them.
-/

namespace SmbExchange.Toml

inductive Value where
  | string (text : String)
  | integer (value : Int)
  | float (text : String)
  | boolean (value : Bool)
  /-- A date, a time of day, or both. -/
  | moment (text : String)
  | array (items : List Value)
  | table (entries : List (String × Value))
  deriving Repr

abbrev Entries := List (String × Value)

/-- Containers may be nested less deep than this, and a dotted key has fewer parts. -/
def depthLimit : Nat := 80

/-- The integers that can be written: those of 64 bits. -/
def integerBound : Nat := UInt64.size / 2

end SmbExchange.Toml
