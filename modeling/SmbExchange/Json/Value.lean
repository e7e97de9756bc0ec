import SmbExchange.Text.Decimal

/-!
# JSON values

The members of an object keep their order, and a name may occur twice.  A string may hold an escape
that is half of a character; such a string has no text.
-/

namespace SmbExchange.Json

inductive Value where
  | null
  | boolean (value : Bool)
  /-- A number as it is written. -/
  | number (digits : List Char)
  | string (text : Option String)
  | array (items : List Value)
  | object (members : List (Option String × Value))
  deriving Repr

namespace Value

def ofText (text : String) : Value :=
  string (some text)

def ofNat (value : Nat) : Value :=
  number (Nat.toDigits 10 value)

/-- The natural number below a bound that a value is.  It has to be written without sign, point or
exponent. -/
def below? (bound : Nat) : Value → Option Nat
  | number digits => if digits.all Char.isDigit then Decimal.ofDigitsBelow? bound digits else none
  | _ => none

def toText? : Value → Option String
  | string text => text
  | _ => none

/-- The values of given names, each exactly once in an object.  Other members are passed over.  An
array with as many items stands for such an object. -/
def fields? (names : List String) : Value → Option (List Value)
  | array items => if items.length = names.length then some items else none
  | object members =>
    if members.all (·.1.isSome) then
      names.mapM fun name =>
        match members.filter fun entry => entry.1 == some name with
        | [entry] => some entry.2
        | _ => none
    else none
  | _ => none

end Value

end SmbExchange.Json
