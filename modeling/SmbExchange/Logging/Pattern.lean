import SmbExchange.Level
import SmbExchange.Text.Alphabet
import SmbExchange.Text.Blank
import SmbExchange.Text.Hex

/-!
# Patterns

A pattern is a regular expression for the value of a field.  What it matches is not asked here, only
whether it is one.  It is built without tables of characters, so in Unicode mode it can neither name
a class of characters by a letter, nor ignore case, nor ask for the boundary of a word.  In byte
mode it can, but there it may not match parts of characters.

Pieces side by side, alternatives, repetitions, groups and classes are nested to a limited depth.

A value that is a number needs no pattern.
-/

namespace SmbExchange.Logging.Pattern

structure Mode where
  /-- Blanks and comments between the pieces mean nothing. -/
  spaced : Bool
  caseless : Bool
  /-- The pattern is about characters, not about bytes. -/
  unicode : Bool
  deriving DecidableEq, Repr

def Mode.initial : Mode :=
  ⟨false, false, true⟩

/-- A single character may stand for itself. -/
def Mode.allowsLiteral (mode : Mode) : Bool :=
  !(mode.caseless && mode.unicode)

def joinedDepth : List Nat → Nat
  | [] => 0
  | [depth] => depth
  | depths => depths.foldl max 0 + 1

def depthLimit : Nat := 250

/-- What is left behind blanks and comments.  A comment ends with its line. -/
def dropSpace : (inComment : Bool) → List Char → List Char
  | _, [] => []
  | true, char :: rest => dropSpace (char != '\n') rest
  | false, char :: rest =>
    if Blank.isBlank char then dropSpace false rest
    else if char = '#' then dropSpace true rest
    else char :: rest

/-- What is left behind what means nothing. -/
def Mode.skip (mode : Mode) (chars : List Char) : List Char :=
  if mode.spaced then dropSpace false chars else chars

/-! ## Escapes -/

/-- What a backslash and what follows it stand for. -/
inductive Escape where
  /-- A character, or a byte if it is given by two digits. -/
  | literal (char : Char) (isByte : Bool)
  /-- The digits, the blanks or the word characters, or all others. -/
  | shorthand (negated : Bool)
  /-- The boundary of a word, or where there is none. -/
  | boundary
  /-- The start or the end of the text. -/
  | anchor
  deriving DecidableEq, Repr

/-- A character that is escaped to stand for itself: an ASCII sign, but no letter and no digit. -/
def isEscapable (char : Char) : Bool :=
  char.toNat < 0x80 && !char.isAlphanum && char != '<' && char != '>'

def readHex (mode : Mode) : Nat → Nat → List Char → Option (Nat × List Char)
  | 0, found, chars => some (found, chars)
  | count + 1, found, char :: rest => do
    let digit ← Hex.value? char
    readHex mode count (16 * found + digit) (mode.skip rest)
  | _ + 1, _, [] => none

/-- Reads a character that is given by its number. -/
def readCode (mode : Mode) (count : Nat) (chars : List Char) : Option (Escape × List Char) := do
  let (code, rest) ← readHex mode count 0 (mode.skip chars)
  if code.isValidChar then some (.literal (Char.ofNat code) (count = 2), rest) else none

def readEscape (mode : Mode) : List Char → Option (Escape × List Char)
  | [] => none
  | char :: rest =>
    match char with
    | 'x' => readCode mode 2 rest
    | 'u' => readCode mode 4 rest
    | 'U' => readCode mode 8 rest
    | 'd' | 's' | 'w' => some (.shorthand false, rest)
    | 'D' | 'S' | 'W' => some (.shorthand true, rest)
    | 'a' => some (.literal '\x07' false, rest)
    | 'f' => some (.literal '\x0c' false, rest)
    | 't' => some (.literal '\t' false, rest)
    | 'n' => some (.literal '\n' false, rest)
    | 'r' => some (.literal '\r' false, rest)
    | 'v' => some (.literal '\x0b' false, rest)
    | 'A' | 'z' => some (.anchor, rest)
    | 'b' | 'B' | '<' | '>' => some (.boundary, rest)
    | _ => if isEscapable char then some (.literal char false, rest) else none

/-- An escape may stand outside of brackets. -/
def Mode.allows (mode : Mode) : Escape → Bool
  | .literal char isByte =>
    mode.allowsLiteral && (mode.unicode || !isByte || char.toNat < 0x80)
  | .shorthand negated => !mode.unicode && !negated
  | .boundary => !mode.unicode
  | .anchor => true

/-- An escape may stand in brackets. -/
def Mode.allowsInClass (mode : Mode) : Escape → Bool
  | .literal char _ => mode.allowsLiteral && (mode.unicode || char.toNat < 0x80)
  | .shorthand negated => !mode.unicode && !negated
  | .boundary | .anchor => false

/-! ## Classes -/

structure ClassFrame where
  /-- The depths of what stands side by side, the last one first. -/
  items : List Nat
  /-- The depth of what stands in front of the last operator, if there is one. -/
  left : Option Nat
  deriving DecidableEq, Repr

def ClassFrame.add (frame : ClassFrame) (depth : Nat) : ClassFrame :=
  { frame with items := depth :: frame.items }

def ClassFrame.depth (frame : ClassFrame) : Nat :=
  let right := joinedDepth frame.items
  match frame.left with
  | none => right
  | some left => max left right + 1

/-- The names of the classes of ASCII characters. -/
def asciiClasses : List String :=
  ["alnum", "alpha", "ascii", "blank", "cntrl", "digit", "graph", "lower", "print", "punct",
   "space", "upper", "word", "xdigit"]

/-- Reads the name of a class behind `[:`, and whether the class is negated. -/
def readAsciiClass? (chars : List Char) : Option (Bool × List Char) :=
  let (negated, named) := match chars with
    | '^' :: rest => (true, rest)
    | _ => (false, chars)
  match named.span (· ≠ ':') with
  | (name, ':' :: ']' :: rest) =>
    if asciiClasses.contains (String.ofList name) then some (negated, rest) else none
  | _ => none

/-- Takes hyphens off the front of a class.  Each of them stands for itself. -/
def readHyphens (mode : Mode) : Nat → ClassFrame → List Char → ClassFrame × List Char
  | fuel + 1, frame, '-' :: rest => readHyphens mode fuel (frame.add 0) (mode.skip rest)
  | _, frame, chars => (frame, chars)

/-- Reads what opens a class behind its bracket.  A closing bracket in front stands for itself. -/
def openClass (mode : Mode) (chars : List Char) : Option (ClassFrame × List Char) :=
  let (negated, body) := match mode.skip chars with
    | '^' :: rest => (true, mode.skip rest)
    | rest => (false, rest)
  let (frame, behind) := readHyphens mode body.length ⟨[], none⟩ body
  let (opened, rest) := match behind with
    | ']' :: rest => if frame.items.isEmpty then (frame.add 0, mode.skip rest) else (frame, behind)
    | _ => (frame, behind)
  if rest.isEmpty || (negated && !mode.unicode) || (!opened.items.isEmpty && !mode.allowsLiteral)
  then none
  else some (opened, rest)

def readClassItem (mode : Mode) : List Char → Option (Escape × List Char)
  | [] => none
  | '\\' :: rest => readEscape mode rest
  | char :: rest => some (.literal char false, rest)

/-- Two characters are the ends of a range. -/
def isRange : Escape → Escape → Bool
  | .literal first _, .literal last _ => first ≤ last
  | _, _ => false

/-- Reads a character, a shorthand or a range.  A hyphen in front of a bracket or of another hyphen
makes no range. -/
def readRange (mode : Mode) (chars : List Char) : Option (List Char) := do
  let (first, behind) ← readClassItem mode chars
  if !mode.allowsInClass first then none
  else
    match mode.skip behind with
    | [] => none
    | '-' :: more =>
      match mode.skip more with
      | [] => none
      | ']' :: _ | '-' :: _ => some (mode.skip behind)
      | rest => do
        let (last, left) ← readClassItem mode rest
        if mode.allowsInClass last && isRange first last then some left else none
    | rest => some rest

/-- Reads a class up to its closing bracket.  Gives its depth and what follows it.  The frames are
those of the open brackets, the inner ones first. -/
def readClass (mode : Mode) : Nat → ClassFrame → List ClassFrame → List Char →
    Option (Nat × List Char)
  | 0, _, _, _ => none
  | fuel + 1, frame, outer, chars =>
    let operator (rest : List Char) :=
      readClass mode fuel ⟨[], some frame.depth⟩ outer rest
    let nested (rest : List Char) := do
      let (opened, left) ← openClass mode rest
      readClass mode fuel opened (frame :: outer) left
    match mode.skip chars with
    | [] => none
    | ']' :: rest =>
      match outer with
      | [] => some (frame.depth + 1, rest)
      | next :: others => readClass mode fuel (next.add (frame.depth + 1)) others rest
    | '&' :: '&' :: rest => operator rest
    | '-' :: '-' :: rest => operator rest
    | '~' :: '~' :: rest => operator rest
    | '[' :: ':' :: rest =>
      match readAsciiClass? rest with
      | some (negated, left) =>
        if mode.allowsLiteral && (mode.unicode || !negated) then
          readClass mode fuel (frame.add 0) outer left
        else none
      | none => nested (':' :: rest)
    | '[' :: rest => nested rest
    | rest => do
      let left ← readRange mode rest
      readClass mode fuel (frame.add 0) outer left

/-! ## Groups -/

structure Piece where
  depth : Nat
  /-- It can be repeated; flags cannot. -/
  isRepeatable : Bool
  deriving DecidableEq, Repr

/-- What has been read of a group, or of the whole pattern. -/
structure Frame where
  /-- The pieces of the last alternative, the last one first. -/
  pieces : List Piece
  /-- The depths of the other alternatives. -/
  alternatives : List Nat
  deriving DecidableEq, Repr

namespace Frame

def empty : Frame := ⟨[], []⟩

def add (frame : Frame) (depth : Nat) : Frame :=
  { frame with pieces := ⟨depth, true⟩ :: frame.pieces }

def addFlags (frame : Frame) : Frame :=
  { frame with pieces := ⟨0, false⟩ :: frame.pieces }

def repeatLast? (frame : Frame) : Option Frame :=
  match frame.pieces with
  | ⟨depth, true⟩ :: others => some { frame with pieces := ⟨depth + 1, true⟩ :: others }
  | _ => none

/-- The frame at the start of another alternative. -/
def alternate (frame : Frame) : Frame :=
  ⟨[], joinedDepth (frame.pieces.map Piece.depth) :: frame.alternatives⟩

def depth (frame : Frame) : Nat :=
  joinedDepth frame.alternate.alternatives

end Frame

structure Progress where
  mode : Mode
  names : List (List Char)
  /-- The innermost group that is open. -/
  frame : Frame
  /-- What stands around it, each with the mode there. -/
  outer : List (Mode × Frame)
  deriving DecidableEq, Repr

def flags : List Char := ['i', 'm', 's', 'U', 'u', 'R', 'x', '-']

def Mode.set (mode : Mode) (flag : Char) (value : Bool) : Mode :=
  match flag with
  | 'x' => { mode with spaced := value }
  | 'i' => { mode with caseless := value }
  | 'u' => { mode with unicode := value }
  | _ => mode

/-- The mode after flags.  Those behind a hyphen are cleared. -/
def Mode.apply (mode : Mode) (given : List Char) : Mode :=
  let (on, off) := given.span (· ≠ '-')
  off.foldl (fun found flag => found.set flag false)
    (on.foldl (fun found flag => found.set flag true) mode)

/-- Flags are known, no two of them are the same, and no hyphen is the last of them. -/
def areFlags (given : List Char) : Bool :=
  given.all flags.contains && given.Nodup && given.getLast? ≠ some '-'

/-- A character that the name of a group is made of. -/
def isNameChar (char : Char) : Bool :=
  char == '_' || char == '.' || char == '[' || char == ']' || Alphabet.isLetterOrNumber char

/-- The text is a name of a group: a letter or an underscore comes first. -/
def isName : List Char → Bool
  | [] => false
  | first :: rest => (first == '_' || Alphabet.isLetter first) && rest.all isNameChar

namespace Progress

def openGroup (progress : Progress) (mode : Mode) : Progress :=
  { progress with
    mode := mode, frame := .empty, outer := (progress.mode, progress.frame) :: progress.outer }

def openNamed (progress : Progress) (chars : List Char) : Option (Progress × List Char) :=
  match chars.span (· ≠ '>') with
  | (name, '>' :: rest) =>
    if isName name && !progress.names.contains name then
      some ({ progress with names := name :: progress.names }.openGroup progress.mode, rest)
    else none
  | _ => none

/-- Reads flags, for a group or for what follows. -/
def readFlags (progress : Progress) (chars : List Char) : Option (Progress × List Char) :=
  let (given, behind) := chars.span fun char => char ≠ ':' && char ≠ ')'
  if !areFlags given then none
  else
    let mode := progress.mode.apply given
    match behind with
    | ':' :: rest => some (progress.openGroup mode, rest)
    | ')' :: rest =>
      if given.isEmpty then none
      else some ({ progress with mode := mode, frame := progress.frame.addFlags }, rest)
    | _ => none

def readGroup (progress : Progress) (chars : List Char) : Option (Progress × List Char) :=
  match progress.mode.skip chars with
  | '?' :: 'P' :: '<' :: rest => progress.openNamed rest
  | '?' :: '<' :: rest => progress.openNamed rest
  | '?' :: rest => progress.readFlags rest
  | rest => some (progress.openGroup progress.mode, rest)

def closeGroup? (progress : Progress) : Option Progress :=
  match progress.outer with
  | [] => none
  | (mode, frame) :: others =>
    some { progress with
      mode := mode, frame := frame.add (progress.frame.depth + 1), outer := others }

def add (progress : Progress) (depth : Nat) : Progress :=
  { progress with frame := progress.frame.add depth }

def addIf (progress : Progress) (allowed : Bool) (rest : List Char) :
    Option (Progress × List Char) :=
  if allowed then some (progress.add 0, rest) else none

/-- Repeats the last piece.  A question mark behind belongs to the repetition. -/
def readRepetition (progress : Progress) (chars : List Char) : Option (Progress × List Char) :=
  progress.frame.repeatLast?.map fun frame =>
    ({ progress with frame := frame }, match chars with
      | '?' :: rest => rest
      | _ => chars)

/-- Reads one piece, or what stands between pieces.  Braces would count repetitions, but the text of a
directive never holds a closing one. -/
def step (progress : Progress) (char : Char) (rest : List Char) : Option (Progress × List Char) :=
  match char with
  | '(' => progress.readGroup rest
  | ')' => progress.closeGroup?.map (·, rest)
  | '|' => some ({ progress with frame := progress.frame.alternate }, rest)
  | '?' | '*' | '+' => progress.readRepetition rest
  | '\x7b' => none
  | '[' => do
    let (opened, body) ← openClass progress.mode rest
    let (depth, left) ← readClass progress.mode (body.length + 1) opened [] body
    return (progress.add depth, left)
  | '\\' => do
    let (escape, left) ← readEscape progress.mode rest
    progress.addIf (progress.mode.allows escape) left
  | '.' => progress.addIf progress.mode.unicode rest
  | '^' | '$' => some (progress.add 0, rest)
  | _ => progress.addIf progress.mode.allowsLiteral rest

/-- What is read is a pattern when no group is open and it is not nested too deep. -/
def isComplete (progress : Progress) : Bool :=
  progress.outer.isEmpty && progress.frame.depth ≤ depthLimit

/-- The rest of a text makes what has been read a pattern. -/
def accepts : Nat → Progress → List Char → Bool
  | 0, _, _ => false
  | fuel + 1, progress, chars =>
    match progress.mode.skip chars with
    | [] => progress.isComplete
    | char :: rest =>
      match progress.step char rest with
      | none => false
      | some (next, left) => accepts fuel next left

end Progress

def isPattern (chars : List Char) : Bool :=
  Progress.accepts (chars.length + 1) ⟨.initial, [], .empty, []⟩ chars

/-! ## Numbers -/

def namedNumbers : List String :=
  ["inf", "infinity", "nan"]

def dropSign : List Char → List Char
  | '+' :: rest => rest
  | '-' :: rest => rest
  | chars => chars

/-- What stands behind the digits of a number: nothing, or an exponent. -/
def isExponent : List Char → Bool
  | [] => true
  | mark :: rest =>
    let digits := dropSign rest
    (mark == 'e' || mark == 'E') && !digits.isEmpty && digits.all Char.isDigit

/-- The text is a number, with a point and an exponent if it likes. -/
def isNumber (chars : List Char) : Bool :=
  let unsigned := dropSign chars
  let (whole, behind) := unsigned.span Char.isDigit
  let (fraction, rest) := match behind with
    | '.' :: more => more.span Char.isDigit
    | _ => ([], behind)
  namedNumbers.contains (Level.fold (String.ofList unsigned)) ||
    (!(whole.isEmpty && fraction.isEmpty) && isExponent rest)

/-- The text is what a field can be asked to have: a number or a pattern. -/
def isValue (chars : List Char) : Bool :=
  isNumber chars || isPattern chars

end SmbExchange.Logging.Pattern
