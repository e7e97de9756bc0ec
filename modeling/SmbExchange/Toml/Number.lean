import SmbExchange.Text.Decimal
import SmbExchange.Text.Hex
import SmbExchange.Toml.Value

/-!
# Numbers

Integers are decimal with an optional sign and no leading zero, or in base sixteen, eight or two
behind `0x`, `0o` or `0b`.  They have to fit 64 bits.  A float has a fraction or an exponent or both;
one that is too large to be finite is refused.  Between two digits there may be an underscore.
-/

namespace SmbExchange.Toml

/-- What reading a piece of a number gives: its characters, and what is left behind it. -/
abbrev Lexeme := Option (List Char × List Char)

/-- Reads digits, at least one, and leaves out the underscores between them.  An underscore without a
digit on either side is refused. -/
def readDigits (isDigit : Char → Bool) (chars : List Char) : Lexeme :=
  let (taken, rest) := chars.span fun char => isDigit char || char == '_'
  let groups := taken.splitOn '_'
  if groups.all fun group => !group.isEmpty then some (groups.flatten, rest) else none

def readSign : List Char → List Char × List Char
  | '+' :: rest => (['+'], rest)
  | '-' :: rest => (['-'], rest)
  | chars => ([], chars)

/-- Reads the whole part of a decimal number: a zero alone, or digits that do not start with one. -/
def readWhole : List Char → Lexeme
  | '0' :: rest => some (['0'], rest)
  | chars => readDigits Char.isDigit chars

/-- The most digits of an integer that fits 64 bits, in any base. -/
def longestInteger : Nat := 64

/-- The number that digits stand for, unless there are too many of them for an integer. -/
def magnitude? (base : Nat) (digits : List Char) : Option Nat :=
  let significant := digits.dropWhile (· == '0')
  if longestInteger < significant.length then none
  else significant.foldlM (fun found digit => (Hex.value? digit).map (base * found + ·)) 0

/-- The integer of a sign and digits, when it fits 64 bits. -/
def signed? (sign : List Char) (base : Nat) (digits : List Char) : Option Value :=
  (magnitude? base digits).bind fun magnitude =>
    if sign = ['-'] then
      if magnitude ≤ integerBound then some (.integer (-(magnitude : Int))) else none
    else if magnitude < integerBound then some (.integer magnitude)
    else none

/-- A digit of base eight. -/
def isOctal (char : Char) : Bool :=
  '0' ≤ char && char ≤ '7'

/-- A digit of base two. -/
def isBinary (char : Char) : Bool :=
  char == '0' || char == '1'

/-- Reads an integer in another base behind its mark. -/
def readBased (base : Nat) (isDigit : Char → Bool) (chars : List Char) :
    Option (Value × List Char) := do
  let (digits, rest) ← readDigits isDigit chars
  let value ← signed? [] base digits
  return (value, rest)

def readFraction : List Char → Lexeme
  | '.' :: rest => readDigits Char.isDigit rest
  | chars => some ([], chars)

def readExponent (chars : List Char) : Option ((List Char × List Char) × List Char) := do
  let (sign, unsigned) := readSign chars
  let (digits, rest) ← readDigits Char.isDigit unsigned
  return ((sign, digits), rest)

/-- The least number that is too large for a float of 64 bits: halfway between the largest finite one
and the next power of two. -/
def floatBound : Nat := 1 <<< 1024 - 1 <<< 970

def boundLength : Nat := 309

/-- A number of `digits` times a power of ten is finite as a float.  Where it has as many digits before
the point as the bound, these are compared. -/
def isFinite (digits : List Char) (exponent : Int) : Bool :=
  let significant := digits.dropWhile (· == '0')
  let magnitude : Int := significant.length + exponent
  let leading := significant.take boundLength
  significant.isEmpty || magnitude < boundLength ||
    (magnitude = boundLength &&
      Decimal.ofDigits (leading.rightpad boundLength '0') < floatBound)

/-- From this number on the digits of an exponent are not counted any more. -/
def exponentBound : Nat := 65536

def exponentOf (sign digits : List Char) : Int :=
  let magnitude : Nat := digits.foldl (fun found digit =>
    if found < exponentBound then 10 * found + (digit.toNat - 48) else found) 0
  if sign = ['-'] then -(magnitude : Int) else magnitude

/-- The float of its pieces.  Only a positive one can be too large. -/
def float? (sign whole fraction exponentSign exponent : List Char) : Option Value :=
  let places := exponentOf exponentSign exponent - fraction.length
  if sign = ['-'] || isFinite (whole ++ fraction) places then
    some (.float (String.ofList
      (sign ++ whole ++ '.' :: fraction ++ 'e' :: exponentSign ++ exponent)))
  else none

/-- Reads what follows the whole part of a decimal number. -/
def readDecimal (sign whole chars : List Char) : Option (Value × List Char) := do
  let (fraction, afterFraction) ← readFraction chars
  match afterFraction with
  | mark :: behind =>
    if mark == 'e' || mark == 'E' then
      let ((exponentSign, exponent), rest) ← readExponent behind
      let value ← float? sign whole fraction exponentSign exponent
      return (value, rest)
    else finish fraction afterFraction
  | [] => finish fraction afterFraction
where
  /-- The number without an exponent. -/
  finish (fraction rest : List Char) : Option (Value × List Char) :=
    if fraction.isEmpty then
      (signed? sign 10 whole).map (·, rest)
    else (float? sign whole fraction [] []).map (·, rest)

def readNumber : List Char → Option (Value × List Char)
  | '0' :: 'x' :: rest => readBased 16 (fun char => (Hex.value? char).isSome) rest
  | '0' :: 'o' :: rest => readBased 8 isOctal rest
  | '0' :: 'b' :: rest => readBased 2 isBinary rest
  | chars =>
    let (sign, unsigned) := readSign chars
    match unsigned with
    | 'i' :: 'n' :: 'f' :: rest => some (.float (String.ofList (sign ++ ['i', 'n', 'f'])), rest)
    | 'n' :: 'a' :: 'n' :: rest => some (.float (String.ofList (sign ++ ['n', 'a', 'n'])), rest)
    | _ => do
      let (whole, rest) ← readWhole unsigned
      readDecimal sign whole rest

end SmbExchange.Toml
