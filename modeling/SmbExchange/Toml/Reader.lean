import SmbExchange.Toml.Key
import SmbExchange.Toml.Moment
import SmbExchange.Toml.Number
import SmbExchange.Toml.Table

/-!
# Reading TOML

Values are read up to a depth of nesting; keys and values make lines, and lines make a document.  An
array may go over several lines, a table between braces may not.  Every line that says something has
to end behind it, but for blanks and a comment.
-/

namespace SmbExchange.Toml

def readQuantity (chars : List Char) : Option (Value × List Char) :=
  match readMoment chars with
  | some found => found
  | none => readNumber chars

def readScalar : List Char → Option (Value × List Char)
  | 't' :: 'r' :: 'u' :: 'e' :: rest => some (.boolean true, rest)
  | 'f' :: 'a' :: 'l' :: 's' :: 'e' :: rest => some (.boolean false, rest)
  | char :: rest =>
    if char == '"' || char == '\'' then
      (readString (char :: rest)).map fun (chars, left) => (.string (String.ofList chars), left)
    else readQuantity (char :: rest)
  | [] => none

mutual

/-- Reads a value.  There are no more than `fuel` values in all, and containers are nested less deep
than `depth`. -/
def readValue : (fuel depth : Nat) → List Char → Option (Value × List Char)
  | 0, _, _ => none
  | fuel + 1, depth, chars =>
    match chars with
    | '[' :: rest =>
      if depth ≤ 1 then none
      else
        (readItems fuel (depth - 1) (skipFiller false rest)).map fun (items, left) =>
          (.array items, left)
    | '\x7b' :: rest =>
      if depth ≤ 1 then none
      else
        match skipBlanks rest with
        | '\x7d' :: left => some (.table [], left)
        | inner => do
          let (pairs, left) ← readPairs fuel (depth - 1) inner
          let table ← inlineTable? pairs
          return (table, left)
    | _ => readScalar chars

/-- Reads the items of an array up to its end. -/
def readItems : (fuel depth : Nat) → List Char → Option (List Value × List Char)
  | 0, _, _ => none
  | fuel + 1, depth, chars =>
    match chars with
    | ']' :: rest => some ([], rest)
    | _ => do
      let (item, behind) ← readValue fuel depth chars
      match skipFiller false behind with
      | ']' :: rest => return ([item], rest)
      | ',' :: rest =>
        let (items, left) ← readItems fuel depth (skipFiller false rest)
        return (item :: items, left)
      | _ => none

/-- Reads the keys and values of a table between braces up to its end. -/
def readPairs : (fuel depth : Nat) → List Char → Option (List (List String × Value) × List Char)
  | 0, _, _ => none
  | fuel + 1, depth, chars => do
    let (key, afterKey) ← readKey chars
    let '=' :: behind := afterKey | none
    let (value, afterValue) ← readValue fuel depth (skipBlanks behind)
    match skipBlanks afterValue with
    | '\x7d' :: rest => return ([(key, value)], rest)
    | ',' :: rest =>
      let (pairs, left) ← readPairs fuel depth rest
      return ((key, value) :: pairs, left)
    | _ => none

end

/-- Reads a key with its value, and the rest of their line. -/
def readPair? (chars : List Char) : Option (Line × List Char) := do
  let (key, afterKey) ← readKey chars
  let '=' :: behind := afterKey | none
  let (value, afterValue) ← readValue (2 * behind.length + 2) depthLimit (skipBlanks behind)
  let rest ← finishLine? afterValue
  return (.pair key value, rest)

/-- Reads a header behind its opening bracket or brackets, and the rest of its line. -/
def readHeader? (isArray : Bool) (chars : List Char) : Option (Line × List Char) := do
  let (path, afterPath) ← readKey chars
  match isArray, afterPath with
  | false, ']' :: rest => return (.header path, ← finishLine? rest)
  | true, ']' :: ']' :: rest => return (.arrayHeader path, ← finishLine? rest)
  | _, _ => none

/-- Reads the lines of a document, of no more than `fuel` lines in all. -/
def readLines : (fuel : Nat) → List Char → Option (List Line)
  | 0, _ => none
  | fuel + 1, chars =>
    match skipBlanks chars with
    | [] => some []
    | '#' :: rest => (finishLine? ('#' :: rest)).bind (readLines fuel)
    | '[' :: '[' :: rest => (readHeader? true rest).bind (next fuel)
    | '[' :: rest => (readHeader? false rest).bind (next fuel)
    | '\n' :: rest => readLines fuel rest
    | '\r' :: rest => (newline? ('\r' :: rest)).bind (readLines fuel)
    | rest => (readPair? rest).bind (next fuel)
where
  next (fuel : Nat) (found : Line × List Char) : Option (List Line) :=
    (readLines fuel found.2).map (found.1 :: ·)

/-- The text without the mark that may stand in front of it. -/
def dropByteOrderMark : List Char → List Char
  | '\uFEFF' :: rest => rest
  | chars => chars

def Entries.ofText? (text : String) : Option Entries := do
  let chars := dropByteOrderMark text.toList
  entriesOf? (← readLines (chars.length + 1) chars)

end SmbExchange.Toml
