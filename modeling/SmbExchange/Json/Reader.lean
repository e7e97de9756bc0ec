import SmbExchange.Json.Value
import SmbExchange.Text.Hex

/-!
# Reading JSON

The whole text has to be one value with blanks around it.  An escape in a string may name half of a
character; where the other half does not follow, the string has no text, but the value is read all
the same.
-/

namespace SmbExchange.Json

/-- Characters that may stand between tokens. -/
def isBlank (char : Char) : Bool :=
  char == ' ' || char == '\t' || char == '\n' || char == '\r'

def skipBlanks (chars : List Char) : List Char :=
  chars.dropWhile isBlank

/-- What a string is made of: characters, and 16-bit units that escapes name. -/
inductive Piece where
  | char (value : Char)
  | unit (value : Nat)
  deriving DecidableEq, Repr

/-- The character that a letter behind a backslash stands for. -/
def unescape? : Char → Option Char
  | '"' => some '"'
  | '\\' => some '\\'
  | '/' => some '/'
  | 'b' => some '\x08'
  | 'f' => some '\x0c'
  | 'n' => some '\n'
  | 'r' => some '\r'
  | 't' => some '\t'
  | _ => none

/-- Reads a string up to its closing quote. -/
def readPieces : List Char → Option (List Piece × List Char)
  | '"' :: rest => some ([], rest)
  | '\\' :: 'u' :: a :: b :: c :: d :: rest => do
    let value ← Hex.ofDigits? [a, b, c, d]
    let (pieces, left) ← readPieces rest
    return (.unit value :: pieces, left)
  | '\\' :: letter :: rest => do
    let char ← unescape? letter
    let (pieces, left) ← readPieces rest
    return (.char char :: pieces, left)
  | char :: rest =>
    if char.toNat < 0x20 then none
    else do
      let (pieces, left) ← readPieces rest
      return (.char char :: pieces, left)
  | [] => none

/-- The unit is the first half of a character. -/
def isLead (unit : Nat) : Bool :=
  0xD800 ≤ unit && unit < 0xDC00

/-- The unit is the second half of a character. -/
def isTrail (unit : Nat) : Bool :=
  0xDC00 ≤ unit && unit < 0xE000

/-- Joins the halves of characters.  There is no text when a half is left over. -/
def joinPieces : List Piece → Option (List Char)
  | [] => some []
  | .char char :: rest => (joinPieces rest).map (char :: ·)
  | .unit lead :: .unit trail :: rest =>
    if isLead lead && isTrail trail then
      (joinPieces rest).map (Char.ofNat (0x10000 + 0x400 * (lead - 0xD800) + (trail - 0xDC00)) :: ·)
    else if isLead lead || isTrail lead then none
    else (joinPieces (.unit trail :: rest)).map (Char.ofNat lead :: ·)
  | .unit unit :: rest =>
    if isLead unit || isTrail unit then none
    else (joinPieces rest).map (Char.ofNat unit :: ·)

def readString (chars : List Char) : Option (Option String × List Char) := do
  let (pieces, rest) ← readPieces chars
  return ((joinPieces pieces).map String.ofList, rest)

def readDigits (chars : List Char) : Option (List Char × List Char) :=
  match chars.span Char.isDigit with
  | ([], _) => none
  | found => some found

/-- Reads the whole part of a number: a zero alone, or digits that do not start with one. -/
def readWhole : List Char → Option (List Char × List Char)
  | '0' :: rest =>
    match rest with
    | next :: _ => if next.isDigit then none else some (['0'], rest)
    | [] => some (['0'], [])
  | chars => readDigits chars

def readFraction : List Char → Option (List Char × List Char)
  | '.' :: rest => do
    let (digits, left) ← readDigits rest
    return ('.' :: digits, left)
  | chars => some ([], chars)

/-- Reads the sign of an exponent, if there is one. -/
def readSign : List Char → List Char × List Char
  | '+' :: rest => (['+'], rest)
  | '-' :: rest => (['-'], rest)
  | chars => ([], chars)

/-- Reads the exponent of a number, if there is one. -/
def readExponent : List Char → Option (List Char × List Char)
  | char :: rest =>
    if char == 'e' || char == 'E' then do
      let (sign, unsigned) := readSign rest
      let (digits, left) ← readDigits unsigned
      return (char :: sign ++ digits, left)
    else some ([], char :: rest)
  | [] => some ([], [])

/-- Reads a number without its sign. -/
def readUnsigned (chars : List Char) : Option (List Char × List Char) := do
  let (whole, afterWhole) ← readWhole chars
  let (fraction, afterFraction) ← readFraction afterWhole
  let (exponent, rest) ← readExponent afterFraction
  return (whole ++ fraction ++ exponent, rest)

mutual

/-- Reads a value, of no more than `fuel` values in all. -/
def readValue : (fuel : Nat) → List Char → Option (Value × List Char)
  | 0, _ => none
  | fuel + 1, chars =>
    match skipBlanks chars with
    | 'n' :: 'u' :: 'l' :: 'l' :: rest => some (.null, rest)
    | 't' :: 'r' :: 'u' :: 'e' :: rest => some (.boolean true, rest)
    | 'f' :: 'a' :: 'l' :: 's' :: 'e' :: rest => some (.boolean false, rest)
    | '"' :: rest => (readString rest).map fun (text, left) => (.string text, left)
    | '[' :: rest =>
      match skipBlanks rest with
      | ']' :: left => some (.array [], left)
      | _ => (readItems fuel rest).map fun (items, left) => (.array items, left)
    | '\x7b' :: rest =>
      match skipBlanks rest with
      | '\x7d' :: left => some (.object [], left)
      | _ => (readMembers fuel rest).map fun (members, left) => (.object members, left)
    | '-' :: rest => (readUnsigned rest).map fun (digits, left) => (.number ('-' :: digits), left)
    | rest => (readUnsigned rest).map fun (digits, left) => (.number digits, left)

/-- Reads the items of an array up to its end. -/
def readItems : (fuel : Nat) → List Char → Option (List Value × List Char)
  | 0, _ => none
  | fuel + 1, chars => do
    let (item, afterItem) ← readValue fuel chars
    match skipBlanks afterItem with
    | ',' :: rest =>
      let (items, left) ← readItems fuel rest
      return (item :: items, left)
    | ']' :: rest => return ([item], rest)
    | _ => none

/-- Reads the members of an object up to its end. -/
def readMembers : (fuel : Nat) → List Char → Option (List (Option String × Value) × List Char)
  | 0, _ => none
  | fuel + 1, chars => do
    let '"' :: opened := skipBlanks chars | none
    let (name, afterName) ← readString opened
    let ':' :: colon := skipBlanks afterName | none
    let (value, afterValue) ← readValue fuel colon
    match skipBlanks afterValue with
    | ',' :: rest =>
      let (members, left) ← readMembers fuel rest
      return ((name, value) :: members, left)
    | '\x7d' :: rest => return ([(name, value)], rest)
    | _ => none

end

def Value.ofText? (text : String) : Option Value := do
  let chars := text.toList
  let (value, rest) ← readValue (2 * chars.length + 2) chars
  if (skipBlanks rest).isEmpty then some value else none

end SmbExchange.Json
