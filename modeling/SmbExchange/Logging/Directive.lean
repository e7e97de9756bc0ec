import SmbExchange.Logging.Pattern

/-!
# Directives

A directive sets how much of what is let through.  Written in full it is a target, a span with a
field in brackets, and a verbosity behind an equals sign; any part may be left out.  Without a
verbosity everything is let through.  A word alone is a verbosity if it can be one, and a target
otherwise.  A field may be asked to have a value.

Blanks around a directive do not count when its parts are found, but the parts are cut out of the
text with the blanks, at the places that they have without them.  So blanks behind belong to the last
part, and blanks in front shift every part.
-/

namespace SmbExchange.Logging

structure Directive where
  /-- What the targets that it speaks of start with. -/
  target : Option String
  /-- The span inside of which it holds. -/
  span : Option String
  field : Option String
  /-- The field is asked to have a value. -/
  asksValue : Bool
  /-- What is let through: nothing at zero, errors at one, everything at five. -/
  verbosity : Nat
  deriving DecidableEq, Repr

/-- The verbosity that lets everything through. -/
def fullVerbosity : Nat := Level.trace.verbosity

/-- The verbosity that a text is: that of a level, or off. -/
def verbosity? (text : String) : Option Nat :=
  match Decimal.below? UInt64.size text with
  | some number => if number ≤ fullVerbosity then some number else none
  | none =>
    if Level.fold text = "off" then some 0 else (Level.ofText? text).map Level.verbosity

/-! ## Cutting -/

def byteLength (chars : List Char) : Nat :=
  chars.foldr (fun char total => char.utf8Size + total) 0

/-- The text behind so many bytes, if a character starts there. -/
def dropBytes? : Nat → List Char → Option (List Char)
  | 0, chars => some chars
  | _ + 1, [] => none
  | count + 1, char :: rest =>
    if char.utf8Size ≤ count + 1 then dropBytes? (count + 1 - char.utf8Size) rest else none
termination_by _ chars => chars.length

/-- The text of so many bytes at the front, if a character ends there. -/
def takeBytes? (count : Nat) (chars : List Char) : Option (List Char) :=
  (dropBytes? count chars).map fun rest => chars.take (chars.length - rest.length)

namespace Directive

/-- The directive that lets a level and all graver ones through. -/
def ofLevel (level : Level) : Directive :=
  ⟨none, none, none, false, level.verbosity⟩

/-- The directive holds for events outside of all spans.  One that asks for a value does not. -/
def isGlobal (directive : Directive) : Bool :=
  directive.span.isNone && !directive.asksValue

/-- A character that a target may start with: a letter, a number, or one of three signs. -/
def startsTarget (char : Char) : Bool :=
  char == '-' || char == ':' || char == '_' || Alphabet.isLetterOrNumber char

/-- A text with blanks, and the parts that it has without them. -/
structure Source where
  whole : List Char
  deriving DecidableEq, Repr

namespace Source

def part? (source : Source) (before part : List Char) : Option (List Char) :=
  (dropBytes? (byteLength before) source.whole).bind (takeBytes? (byteLength part))

def rest? (source : Source) (before : List Char) : Option (List Char) :=
  dropBytes? (byteLength before) source.whole

/-- Reads the verbosity that stands behind an equals sign, which may be nothing. -/
def readVerbosity? (source : Source) (before : List Char) : Option Nat := do
  let text ← source.rest? before
  if text.isEmpty then some fullVerbosity else verbosity? (String.ofList text)

def readEnd? (source : Source) (before : List Char) : List Char → Option Nat
  | [] => some fullVerbosity
  | '=' :: _ => source.readVerbosity? (before ++ ['='])
  | _ => none

/-- Reads a field, and whether it is asked to have a value.  A second equals sign ends the value. -/
def readField? (chars : List Char) : Option (String × Bool) :=
  match chars.span (· ≠ '=') with
  | (name, []) => some (String.ofList name, false)
  | (name, _ :: value) =>
    if Pattern.isValue (value.takeWhile (· ≠ '=')) then some (String.ofList name, true) else none

def readSpan? (source : Source) (target : Option String) (before chars : List Char) :
    Option Directive := do
  let opening := before ++ ['[']
  match chars.span fun char => char ≠ ']' && char ≠ '\x7b' with
  | (span, ']' :: rest) =>
    let name ← source.part? opening span
    let verbosity ← source.readEnd? (opening ++ span ++ [']']) rest
    return ⟨target, some (String.ofList name), none, false, verbosity⟩
  | (span, '\x7b' :: inner) =>
    match inner.span (· ≠ '\x7d') with
    | (field, '\x7d' :: ']' :: rest) =>
      let name ← source.part? opening span
      let fieldText ← source.part? (opening ++ span ++ ['\x7b']) field
      let (fieldName, asksValue) ← if fieldText.isEmpty then none else readField? fieldText
      let verbosity ← source.readEnd? (opening ++ span ++ ['\x7b'] ++ field ++ ['\x7d', ']']) rest
      let spanName := if name.isEmpty then none else some (String.ofList name)
      return ⟨target, spanName, some fieldName, asksValue, verbosity⟩
    | _ => none
  | _ => none

/-- Reads a directive that starts with a target or is a verbosity. -/
def readPlain? (source : Source) (chars : List Char) : Option Directive := do
  match chars.span fun char => char ≠ '=' && char ≠ '[' with
  | (target, '=' :: _) =>
    let name ← source.part? [] target
    let verbosity ← source.readVerbosity? (target ++ ['='])
    return ⟨some (String.ofList name), none, none, false, verbosity⟩
  | (target, '[' :: rest) =>
    let name ← source.part? [] target
    source.readSpan? (some (String.ofList name)) target rest
  | _ =>
    let text := String.ofList source.whole
    match verbosity? text with
    | some verbosity => some ⟨none, none, none, false, verbosity⟩
    | none => some ⟨some text, none, none, false, fullVerbosity⟩

def read? (source : Source) : Option Directive :=
  match Blank.trim source.whole with
  | [] => none
  | '[' :: rest => source.readSpan? none [] rest
  | char :: rest => if startsTarget char then source.readPlain? (char :: rest) else none

end Source

def ofText? (text : List Char) : Option Directive :=
  Source.read? ⟨text⟩

/-- The directive speaks of events with a target and with named values. -/
def concerns (directive : Directive) (target : String) (names : List String) : Bool :=
  directive.isGlobal && directive.target.all (·.isPrefixOf target)
    && directive.field.all names.contains

/-- How specific a directive is: a longer target counts first, then a field. -/
def specificity (directive : Directive) : Nat × Nat × String :=
  ((directive.target.map fun target => target.utf8ByteSize + 1).getD 0,
    directive.field.isSome.toNat, directive.field.getD "")

/-- The first directive is at least as specific as the second. -/
def overrules (first second : Directive) : Bool :=
  let (length, fields, name) := first.specificity
  let (otherLength, otherFields, otherName) := second.specificity
  otherLength < length || (length = otherLength &&
    (otherFields < fields || (fields = otherFields && otherName ≤ name)))

end Directive

end SmbExchange.Logging
