import SmbExchange.Toml.Quotation
import SmbExchange.Toml.Value

/-!
# Keys

A key is a name, or several with dots between them.  A name is written bare, when it consists of
letters, digits, underscores and dashes, or as a string on one line.
-/

namespace SmbExchange.Toml

def isBare (char : Char) : Bool :=
  char.isAlphanum || char == '_' || char == '-'

def readName : List Char → Option (String × List Char)
  | '"' :: rest => (readBasic rest).map fun (chars, left) => (String.ofList chars, left)
  | '\'' :: rest => (readLiteral rest).map fun (chars, left) => (String.ofList chars, left)
  | chars =>
    match chars.span isBare with
    | ([], _) => none
    | (name, left) => some (String.ofList name, left)

/-- Reads names with dots between them, of no more than `fuel` names in all, and the blanks around
them. -/
def readNames : (fuel : Nat) → List Char → Option (List String × List Char)
  | 0, _ => none
  | fuel + 1, chars => do
    let (name, behind) ← readName (skipBlanks chars)
    match skipBlanks behind with
    | '.' :: rest =>
      let (names, left) ← readNames fuel rest
      return (name :: names, left)
    | left => return ([name], left)

/-- Reads a key, which has at least one name. -/
def readKey (chars : List Char) : Option (List String × List Char) :=
  readNames (depthLimit - 1) chars

end SmbExchange.Toml
