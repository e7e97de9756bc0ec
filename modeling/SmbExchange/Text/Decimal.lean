/-!
# Decimal text

Numbers as people write them in settings: ASCII digits, with a plus in front if they like, and as
many leading zeros.  Nothing else may stand there, and the number has to be below a bound.
-/

namespace SmbExchange.Decimal

def ofDigits (digits : List Char) : Nat :=
  digits.foldl (fun found digit => 10 * found + (digit.toNat - 48)) 0

def dropPlus : List Char → List Char
  | '+' :: rest => rest
  | chars => chars

def ofDigitsBelow? (bound : Nat) (digits : List Char) : Option Nat :=
  digits.foldlM (fun found digit =>
    let next := 10 * found + (digit.toNat - 48)
    if next < bound then some next else none) 0

def below? (bound : Nat) (text : String) : Option Nat :=
  let digits := dropPlus text.toList
  if digits.isEmpty || !digits.all Char.isDigit then none else ofDigitsBelow? bound digits

end SmbExchange.Decimal
