import SmbExchange.Text.Decimal
import SmbExchange.Toml.Value

/-!
# Dates and times

A date is a year, a month and a day of it; a time of day may have any number of places behind the
seconds.  A date may be followed by a time, and that by the distance from universal time.
-/

namespace SmbExchange.Toml

/-- Reads exactly two digits of a number between two bounds. -/
def readPair (least most : Nat) : List Char → Option (Nat × List Char)
  | tens :: ones :: rest =>
    if tens.isDigit && ones.isDigit then
      let value := Decimal.ofDigits [tens, ones]
      if least ≤ value && value ≤ most then some (value, rest) else none
    else none
  | _ => none

/-- What is left behind a character that has to be there. -/
def readMark (mark : Char) : List Char → Option (List Char)
  | char :: rest => if char = mark then some rest else none
  | [] => none

def daysIn (year month : Nat) : Nat :=
  if month = 2 then
    if year % 4 = 0 ∧ (year % 100 ≠ 0 ∨ year % 400 = 0) then 29 else 28
  else if month = 4 ∨ month = 6 ∨ month = 9 ∨ month = 11 then 30
  else 31

/-- What is left behind the month and day of a year. -/
def readDay (year : Nat) (chars : List Char) : Option (List Char) := do
  let (month, afterMonth) ← readPair 1 12 chars
  let behind ← readMark '-' afterMonth
  let (_, rest) ← readPair 1 (daysIn year month) behind
  return rest

/-- What is left behind the digits that follow a point, if both are there. -/
def skipPlaces : List Char → List Char
  | '.' :: digit :: rest =>
    if digit.isDigit then rest.dropWhile Char.isDigit else '.' :: digit :: rest
  | chars => chars

/-- What is left behind the minute and second of an hour. -/
def readMinute (chars : List Char) : Option (List Char) := do
  let (_, afterMinute) ← readPair 0 59 chars
  let behind ← readMark ':' afterMinute
  let (_, rest) ← readPair 0 60 behind
  return skipPlaces rest

/-- What is left behind the distance from universal time, if there is one. -/
def readOffset : List Char → Option (List Char)
  | 'Z' :: rest | 'z' :: rest => some rest
  | char :: rest =>
    if char == '+' || char == '-' then do
      let (_, afterHour) ← readPair 0 23 rest
      let behind ← readMark ':' afterHour
      let (_, left) ← readPair 0 59 behind
      return left
    else some (char :: rest)
  | [] => some []

inductive Opening where
  /-- A year with its dash, and what follows. -/
  | year (value : Nat) (rest : List Char)
  /-- An hour with its colon, and what follows. -/
  | hour (rest : List Char)
  | none

def openingOf : List Char → Opening
  | a :: b :: c :: d :: '-' :: rest =>
    if [a, b, c, d].all Char.isDigit then .year (Decimal.ofDigits [a, b, c, d]) rest else .none
  | chars =>
    match readPair 0 23 chars with
    | some (_, ':' :: rest) => .hour rest
    | _ => .none

/-- What is left behind the time that follows a date, if there is one. -/
def readClock : List Char → Option (List Char)
  | delimiter :: rest =>
    if delimiter == 'T' || delimiter == 't' || delimiter == ' ' then
      match openingOf rest with
      | .hour behind => (readMinute behind).bind readOffset
      | _ => some (delimiter :: rest)
    else some (delimiter :: rest)
  | [] => some []

/-- Reads a moment, when the text starts like one.  A text that starts like one and goes on otherwise
is refused. -/
def readMoment (chars : List Char) : Option (Option (Value × List Char)) :=
  match openingOf chars with
  | .year year rest => some ((readDay year rest).bind readClock |>.map (found chars))
  | .hour rest => some ((readMinute rest).map (found chars))
  | .none => none
where
  /-- The moment in front of what is left. -/
  found (chars rest : List Char) : Value × List Char :=
    (.moment (String.ofList (chars.take (chars.length - rest.length))), rest)

end SmbExchange.Toml
