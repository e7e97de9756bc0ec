import SmbExchange.Text.Hex
import SmbExchange.Toml.Key

/-!
# Writing TOML

A document of sections, each a header with one line for each of its entries.  A text is written in
the plainest kind of string that holds it: between double quotes when nothing in it has to be
escaped, then between single quotes, then between three quotes of either kind, and with escapes only
when all of these fail.
-/

namespace SmbExchange.Toml

/-- A control character that no kind of string holds as it is. -/
def isCode (char : Char) : Bool :=
  !isPlain char && char ≠ '\n'

/-- The length of the longest run of a character, when `run` of them came before. -/
def longestRun (quote : Char) : (run : Nat) → List Char → Nat
  | run, [] => run
  | run, char :: rest =>
    if char = quote then longestRun quote (run + 1) rest else max run (longestRun quote 0 rest)

inductive Style where
  | basic
  | literal
  | basicLines
  | literalLines
  deriving DecidableEq, Repr

namespace Style

def ofText (chars : List Char) : Style :=
  let hasCodes := chars.any isCode
  let hasNewline := chars.contains '\n'
  let needsEscape := hasCodes || chars.contains '\\'
  let double := longestRun '"' 0 chars
  let single := longestRun '\'' 0 chars
  if !needsEscape && !hasNewline && double = 0 then basic
  else if !hasCodes && !hasNewline && single = 0 then literal
  else if !needsEscape && double ≤ 2 then basicLines
  else if !hasCodes && single ≤ 2 then literalLines
  else if hasNewline then basicLines
  else basic

/-- What stands at both ends of a string. -/
def delimiter : Style → List Char
  | basic => ['"']
  | literal => ['\'']
  | basicLines => ['"', '"', '"']
  | literalLines => ['\'', '\'', '\'']

/-- The string may go over several lines. -/
def hasLines : Style → Bool
  | basicLines | literalLines => true
  | basic | literal => false

end Style

/-- How a character other than a double quote is written where it has to be escaped. -/
def escape? (char : Char) : Option (List Char) :=
  match char with
  | '\x08' => some ['\\', 'b']
  | '\t' => some ['\\', 't']
  | '\n' => some ['\\', 'n']
  | '\x0c' => some ['\\', 'f']
  | '\r' => some ['\\', 'r']
  | '\\' => some ['\\', '\\']
  | _ => if isCode char then some (['\\', 'u'] ++ Hex.upper 4 char.toNat) else none

/-- A text with what has to be escaped escaped.  In a string over several lines, line ends stand for
themselves, and so do double quotes where no more than two of them come together. -/
def escapeAll (hasLines : Bool) : (run : Nat) → List Char → List Char
  | _, [] => []
  | run, char :: rest =>
    if char = '"' then
      if hasLines && run < 2 then '"' :: escapeAll hasLines (run + 1) rest
      else '\\' :: '"' :: escapeAll hasLines 0 rest
    else if hasLines && char = '\n' then '\n' :: escapeAll hasLines 0 rest
    else (escape? char).getD [char] ++ escapeAll hasLines 0 rest

def writeText (text : String) : List Char :=
  let chars := text.toList
  let style := Style.ofText chars
  let opening := if style.hasLines && chars.contains '\n' then ['\n'] else []
  let body :=
    match style with
    | .literal | .literalLines => chars
    | .basic | .basicLines => escapeAll style.hasLines 0 chars
  style.delimiter ++ opening ++ body ++ style.delimiter

/-- A name, bare where it can be. -/
def writeName (name : String) : List Char :=
  let chars := name.toList
  if !chars.isEmpty && chars.all isBare then chars else '"' :: escapeAll false 0 chars ++ ['"']

inductive Scalar where
  | text (value : String)
  | number (value : Nat)
  | truth (value : Bool)
  deriving DecidableEq, Repr

namespace Scalar

def toValue : Scalar → Value
  | text value => .string value
  | number value => .integer value
  | truth value => .boolean value

/-- The value as it is written.  Large numbers are not. -/
def write? : Scalar → Option (List Char)
  | text value => some (writeText value)
  | number value => if value < integerBound then some (Nat.toDigits 10 value) else none
  | truth true => some ['t', 'r', 'u', 'e']
  | truth false => some ['f', 'a', 'l', 's', 'e']

end Scalar

structure Section where
  name : String
  entries : List (String × Scalar)
  deriving DecidableEq, Repr

namespace Section

def writeEntry? (entry : String × Scalar) : Option (List Char) :=
  entry.2.write?.map fun value => writeName entry.1 ++ [' ', '=', ' '] ++ value ++ ['\n']

def write? (part : Section) : Option (List Char) := do
  let lines ← part.entries.mapM writeEntry?
  return ['['] ++ writeName part.name ++ [']', '\n'] ++ lines.flatten

end Section

/-- The text of a document, with a blank line between sections. -/
def write? (parts : List Section) : Option String := do
  let texts ← parts.mapM Section.write?
  return String.ofList (['\n'].intercalate texts)

end SmbExchange.Toml
