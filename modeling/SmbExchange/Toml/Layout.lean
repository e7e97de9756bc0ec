/-!
# Blanks, comments and line ends

Blanks are spaces and tabs.  A line ends with a line feed, which may have a carriage return in front;
a carriage return alone ends nothing.  A comment goes on to the end of its line and holds no control
characters but tabs.
-/

namespace SmbExchange.Toml

/-- A space or a tab. -/
def isBlank (char : Char) : Bool :=
  char == ' ' || char == '\t'

def skipBlanks (chars : List Char) : List Char :=
  chars.dropWhile isBlank

/-- A character that may stand in a text as it is: no control character but a tab. -/
def isPlain (char : Char) : Bool :=
  char == '\t' || (' ' ≤ char && char ≠ '\x7f')

/-- What is left behind a line end. -/
def newline? : List Char → Option (List Char)
  | '\n' :: rest => some rest
  | '\r' :: '\n' :: rest => some rest
  | _ => none

def skipComment : List Char → List Char
  | '#' :: rest => rest.dropWhile isPlain
  | chars => chars

/-- What is left behind the rest of a line that holds nothing more than a comment. -/
def finishLine? (chars : List Char) : Option (List Char) :=
  match skipComment (skipBlanks chars) with
  | [] => some []
  | rest => newline? rest

/-- What is left behind blanks and line ends. -/
def skipSpace : List Char → List Char
  | '\r' :: '\n' :: rest => skipSpace rest
  | char :: rest => if isBlank char || char == '\n' then skipSpace rest else char :: rest
  | [] => []

/-- What is left behind blanks, line ends and comments. -/
def skipFiller : (inComment : Bool) → List Char → List Char
  | _, [] => []
  | _, '\r' :: '\n' :: rest => skipFiller false rest
  | true, char :: rest =>
    if char == '\n' then skipFiller false rest
    else if isPlain char then skipFiller true rest
    else char :: rest
  | false, char :: rest =>
    if isBlank char || char == '\n' then skipFiller false rest
    else if char == '#' then skipFiller true rest
    else char :: rest

theorem length_skipSpace_le (chars : List Char) : (skipSpace chars).length ≤ chars.length := by
  fun_induction skipSpace chars with
  | case1 rest ih =>
    simp only [List.length_cons]
    omega
  | case2 char rest hne hskip ih =>
    simp only [List.length_cons]
    omega
  | case3 => exact Nat.le_refl _
  | case4 => exact Nat.le_refl _

end SmbExchange.Toml
