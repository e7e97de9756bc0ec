import SmbExchange.Bytes.Access

/-!
# UTF-16 text

A character is one unit of sixteen bits, or a high and a low surrogate together.  Decoding never
fails: a surrogate without its partner becomes the replacement character, one character for one
unit, so decoding and encoding keep the number of units.
-/

namespace SmbExchange.Utf16

/-- The first half of a surrogate pair. -/
def isHighSurrogate (unit : UInt16) : Bool :=
  0xD800 ≤ unit && unit < 0xDC00

/-- The second half of a surrogate pair. -/
def isLowSurrogate (unit : UInt16) : Bool :=
  0xDC00 ≤ unit && unit < 0xE000

/-- What a surrogate without its partner is read as. -/
def replacement : Char := '\uFFFD'

/-- The character of a unit that stands alone. -/
def single (unit : UInt16) : Char :=
  if isHighSurrogate unit || isLowSurrogate unit then replacement else Char.ofNat unit.toNat

def pair (high low : UInt16) : Char :=
  Char.ofNat (0x10000 + (high.toNat - 0xD800) * 0x400 + (low.toNat - 0xDC00))

def decode : List UInt16 → List Char
  | [] => []
  | [unit] => [single unit]
  | first :: second :: rest =>
    if isHighSurrogate first && isLowSurrogate second then pair first second :: decode rest
    else single first :: decode (second :: rest)

def encodeChar (char : Char) : List UInt16 :=
  if char.toNat < 0x10000 then [UInt16.ofNat char.toNat]
  else
    [UInt16.ofNat (0xD800 + (char.toNat - 0x10000) / 0x400),
     UInt16.ofNat (0xDC00 + (char.toNat - 0x10000) % 0x400)]

/-- The units of a character string. -/
def encode (chars : List Char) : List UInt16 :=
  chars.flatMap encodeChar

/-- The bytes of a unit string, each unit little-endian. -/
def toBytes (units : List UInt16) : Bytes :=
  units.flatMap LittleEndian.ofWord

/-- Why a scan for units stopped. -/
inductive Ending where
  /-- A zero unit was met. -/
  | terminator
  /-- As many units were read as were asked for. -/
  | limit
  /-- The bytes ended before the next unit. -/
  | exhausted
  deriving DecidableEq, Repr

/-- Reads units up to a zero unit, the limit or the end of the bytes. -/
def scan : (limit : Nat) → Bytes → List UInt16 × Ending
  | 0, _ => ([], .limit)
  | limit + 1, low :: high :: rest =>
    let unit := LittleEndian.toWord [low, high]
    if unit = 0 then ([], .terminator)
    else
      let found := scan limit rest
      (unit :: found.1, found.2)
  | _ + 1, _ => ([], .exhausted)

end SmbExchange.Utf16

namespace SmbExchange.Bytes

/-- The text at `offset`, at most `limit` units, with the number of bytes it takes up.  A zero unit
ends the text and is counted.  Where the buffer ends first, the missing unit is reported. -/
def readUtf16 (buffer : Bytes) (offset limit : Nat) : Except Fault (String × Nat) :=
  if buffer.Fits offset 0 then
    match Utf16.scan limit (buffer.drop offset) with
    | (units, .terminator) => .ok (String.ofList (Utf16.decode units), 2 * units.length + 2)
    | (units, .limit) => .ok (String.ofList (Utf16.decode units), 2 * units.length)
    | (units, .exhausted) => .error (buffer.overflow (offset + 2 * units.length) 2)
  else
    .error (buffer.overflow offset 0)

/-- Writes a text at `offset`, with a zero unit after it if `terminated`. -/
def writeUtf16 (buffer : Bytes) (offset : Nat) (text : String) (terminated : Bool) :
    Except Fault Written :=
  buffer.write offset (Utf16.toBytes (Utf16.encode text.toList) ++ zeros (2 * terminated.toNat))

end SmbExchange.Bytes
