import SmbExchange.Bytes.Access

/-!
# Single-byte text

A character up to U+00FF is written as the byte of the same number; other characters are refused.
Text in a buffer ends at a zero byte or at a given number of characters, and a reader that meets
neither before the end of the buffer fails.
-/

namespace SmbExchange.Latin

def ofByte (byte : UInt8) : Char :=
  Char.ofNat byte.toNat

def decode (bytes : Bytes) : String :=
  String.ofList (bytes.map ofByte)

/-- The bytes of a text.  The first character above U+00FF is reported. -/
def encode (text : String) : Except Fault Bytes :=
  match text.toList.find? fun char => 0xFF < char.toNat with
  | some char => .error (.unencodableChar char.val)
  | none => .ok (text.toList.map fun char => UInt8.ofNat char.toNat)

end SmbExchange.Latin

namespace SmbExchange.Bytes

/-- The text at `offset`, at most `limit` characters, with the number of bytes it takes up.  A zero
byte ends the text and is counted. -/
def readLatin (buffer : Bytes) (offset limit : Nat) : Except Fault (String × Nat) :=
  if buffer.Fits offset 0 then
    let region := buffer.slice offset limit
    let characters := region.takeWhile fun byte => byte != 0
    if characters.length < region.length then
      .ok (Latin.decode characters, characters.length + 1)
    else if region.length < limit then
      .error (buffer.overflow offset (region.length + 1))
    else
      .ok (Latin.decode region, region.length)
  else
    .error (buffer.overflow offset 0)

/-- Writes a text at `offset`, with a zero byte after it if `terminated`. -/
def writeLatin (buffer : Bytes) (offset : Nat) (text : String) (terminated : Bool) :
    Except Fault Written :=
  match Latin.encode text with
  | .error fault => .error fault
  | .ok encoded => buffer.write offset (encoded ++ zeros terminated.toNat)

end SmbExchange.Bytes
