import SmbExchange.Text.Hex
import SmbExchange.Toml.Layout

/-!
# Strings

There are four kinds of strings.  Between double quotes a backslash escapes; between single quotes
everything stands for itself.  With three quotes a string may go over several lines; a line end right
behind the opening is dropped, every other one is read as a line feed, and up to two quotes may stand
before the closing ones.  A backslash at the end of a line drops all space up to the next character.
-/

namespace SmbExchange.Toml

/-- What reading a string gives: its characters, and what is left behind the closing quotes. -/
abbrev Quoted := Option (List Char × List Char)

def Quoted.put (read : Quoted) (front : List Char) : Quoted :=
  read.map fun (chars, rest) => (front ++ chars, rest)

/-- The character that a letter behind a backslash stands for. -/
def unescape? : Char → Option Char
  | 'b' => some '\x08'
  | 't' => some '\t'
  | 'n' => some '\n'
  | 'f' => some '\x0c'
  | 'r' => some '\r'
  | '"' => some '"'
  | '\\' => some '\\'
  | _ => none

/-- The character whose number hexadecimal digits give. -/
def numbered? (digits : List Char) : Option Char := do
  let value ← Hex.ofDigits? digits
  if value.isValidChar then some (Char.ofNat value) else none

def readBasic : List Char → Quoted
  | '"' :: rest => some ([], rest)
  | '\\' :: 'u' :: a :: b :: c :: d :: rest =>
    (numbered? [a, b, c, d]).bind fun char => (readBasic rest).put [char]
  | '\\' :: 'U' :: a :: b :: c :: d :: e :: f :: g :: h :: rest =>
    (numbered? [a, b, c, d, e, f, g, h]).bind fun char => (readBasic rest).put [char]
  | '\\' :: letter :: rest =>
    (unescape? letter).bind fun char => (readBasic rest).put [char]
  | char :: rest => if isPlain char then (readBasic rest).put [char] else none
  | [] => none

def readLiteral : List Char → Quoted
  | '\'' :: rest => some ([], rest)
  | char :: rest => if isPlain char then (readLiteral rest).put [char] else none
  | [] => none

/-- What is left behind a line end that a backslash takes away, with all space after it. -/
def joinLines? (chars : List Char) : Option (List Char) :=
  (newline? (skipBlanks chars)).map skipSpace

theorem length_joinLines {chars rest : List Char} (hjoin : joinLines? chars = some rest) :
    rest.length < chars.length := by
  simp only [joinLines?, Option.map_eq_some_iff] at hjoin
  obtain ⟨behind, hnewline, hrest⟩ := hjoin
  have hblanks : (skipBlanks chars).length ≤ chars.length :=
    (List.dropWhile_sublist isBlank).length_le
  have hbehind : behind.length < (skipBlanks chars).length := by
    generalize skipBlanks chars = line at hnewline
    unfold newline? at hnewline
    split at hnewline
    · cases hnewline
      simp only [List.length_cons]
      omega
    · cases hnewline
      simp only [List.length_cons]
      omega
    · cases hnewline
  have hspace := length_skipSpace_le behind
  subst hrest
  omega

def readBasicLines : List Char → Quoted
  | '"' :: '"' :: '"' :: '"' :: '"' :: rest => some (['"', '"'], rest)
  | '"' :: '"' :: '"' :: '"' :: rest => some (['"'], rest)
  | '"' :: '"' :: '"' :: rest => some ([], rest)
  | '\\' :: 'u' :: a :: b :: c :: d :: rest =>
    (numbered? [a, b, c, d]).bind fun char => (readBasicLines rest).put [char]
  | '\\' :: 'U' :: a :: b :: c :: d :: e :: f :: g :: h :: rest =>
    (numbered? [a, b, c, d, e, f, g, h]).bind fun char => (readBasicLines rest).put [char]
  | '\\' :: rest =>
    match _ : joinLines? rest with
    | some joined => readBasicLines joined
    | none =>
      match rest with
      | letter :: behind => (unescape? letter).bind fun char => (readBasicLines behind).put [char]
      | [] => none
  | '\r' :: '\n' :: rest => (readBasicLines rest).put ['\n']
  | char :: rest =>
    if isPlain char || char == '\n' then (readBasicLines rest).put [char] else none
  | [] => none
termination_by chars => chars.length
decreasing_by
  all_goals simp only [List.length_cons]
  all_goals first
    | omega
    | (have hless := length_joinLines ‹_›; omega)

def readLiteralLines : List Char → Quoted
  | '\'' :: '\'' :: '\'' :: '\'' :: '\'' :: rest => some (['\'', '\''], rest)
  | '\'' :: '\'' :: '\'' :: '\'' :: rest => some (['\''], rest)
  | '\'' :: '\'' :: '\'' :: rest => some ([], rest)
  | '\r' :: '\n' :: rest => (readLiteralLines rest).put ['\n']
  | char :: rest =>
    if isPlain char || char == '\n' then (readLiteralLines rest).put [char] else none
  | [] => none

/-- What is left behind a line end, if there is one. -/
def dropNewline (chars : List Char) : List Char :=
  (newline? chars).getD chars

def readString : List Char → Quoted
  | '"' :: '"' :: '"' :: rest => readBasicLines (dropNewline rest)
  | '"' :: rest => readBasic rest
  | '\'' :: '\'' :: '\'' :: rest => readLiteralLines (dropNewline rest)
  | '\'' :: rest => readLiteral rest
  | _ => none

end SmbExchange.Toml
