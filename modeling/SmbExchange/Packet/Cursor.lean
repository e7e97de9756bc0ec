import SmbExchange.Packet.Words

/-!
# The cursor

One position serves both for packing a request and for unpacking a response.  Every packing and
unpacking step checks its range first and moves the position past what it wrote or read.  Steps
that fail leave the packet as it was, with one exception: a Unicode string first writes the byte
that aligns it, and keeps that byte when the string itself does not fit.

Positions given by a caller are machine words.  Where a sum of them is not one any more, the
operation has no result: `skip`, `setBytePointer`, what aligns the cursor, and so the strings, which
are aligned when they are Unicode.
-/

namespace SmbExchange.Packet

/-- The longest string unpacked without an explicit length. -/
def maximumString : Nat := 255

/-! ## Moving -/

def setPosition (packet : Packet) (position : UInt64) : Packet :=
  { packet with position := position.toNat }

/-- Puts the cursor on the first parameter word. -/
def resetParameterPointer (packet : Packet) : Packet :=
  { packet with position := wordsStart }

/-- Puts the cursor on the byte area, which the byte count bounds. -/
def resetBytePointer (packet : Packet) : Packet :=
  { packet with
    position := packet.byteOffset
    limit := packet.byteOffset + packet.byteCount.toNat }

/-- Puts the cursor on the first position of the byte area that is divisible by four. -/
def resetBytePointerAligned (packet : Packet) : Packet :=
  { packet with
    position := alignLong packet.byteOffset
    limit := alignLong packet.byteOffset + packet.byteCount.toNat }

/-- Puts the cursor on a block of `length` bytes. -/
def setBytePointer (packet : Packet) (offset length : UInt64) : Option Packet :=
  (inSpan? (offset.toNat + length.toNat)).map fun limit =>
    { packet with position := offset.toNat, limit := limit }

/-- Moves the cursor to a position divisible by four. -/
def alignBytePointer (packet : Packet) : Option Packet :=
  (alignLong? packet.position).map fun aligned => { packet with position := aligned }

def skip (packet : Packet) (count : UInt64) : Option Packet :=
  (inSpan? (packet.position + count.toNat)).map fun position => { packet with position := position }

def hasMoreData (packet : Packet) : Bool :=
  packet.position < packet.limit

/-! ## Packing -/

/-- Writes at the cursor and moves it past what was written. -/
def pack (packet : Packet) (source : Bytes) : Attempt Unit :=
  match packet.store packet.position source with
  | (.ok (), stored) => (.ok (), { stored with position := packet.position + source.length })
  | failed => failed

def packByte (packet : Packet) (value : UInt8) : Attempt Unit :=
  packet.pack [value]

def packWord (packet : Packet) (value : UInt16) : Attempt Unit :=
  packet.pack (LittleEndian.ofWord value)

def packLong (packet : Packet) (value : UInt32) : Attempt Unit :=
  packet.pack (LittleEndian.ofLong value)

def packQuad (packet : Packet) (value : UInt64) : Attempt Unit :=
  packet.pack (LittleEndian.ofQuad value)

/-- Packs a single-byte string with its terminator. -/
def packLatin (packet : Packet) (text : String) : Attempt Unit :=
  match Latin.encode text with
  | .error fault => (.error fault, packet)
  | .ok encoded => packet.pack (encoded ++ [0])

/-- Packs zeros up to a position.  The cursor stays where it is. -/
def padTo (packet : Packet) (aligned : Nat) : Attempt Unit :=
  if packet.position < aligned then
    packet.store packet.position (Bytes.zeros (aligned - packet.position))
  else (.ok (), packet)

/-- Packs a UTF-16 string with its terminator at a position, with zeros in front of it. -/
def packUtf16 (packet : Packet) (aligned : Nat) (text : String) : Attempt Unit :=
  match packet.padTo aligned with
  | (.ok (), padded) =>
    let source := Utf16.toBytes (Utf16.encode text.toList) ++ [0, 0]
    match padded.store aligned source with
    | (.ok (), stored) => (.ok (), { stored with position := aligned + source.length })
    | failed => failed
  | failed => failed

def textStart? (packet : Packet) (unicode : Bool) : Option Nat :=
  if unicode then alignWord? packet.position else some packet.position

theorem textStart?_eq_some_iff {packet : Packet} {unicode : Bool} {start : Nat} :
    packet.textStart? unicode = some start ↔
      (unicode = true → packet.position + 1 < positionSpan) ∧
        start = packet.position + if unicode then packet.position % 2 else 0 := by
  cases unicode with
  | true =>
    rw [textStart?, if_pos rfl, alignWord?_eq_some_iff, if_pos rfl]
    exact ⟨fun hstart => ⟨fun _ => hstart.1, hstart.2⟩, fun hstart => ⟨hstart.1 rfl, hstart.2⟩⟩
  | false =>
    rw [textStart?, if_neg Bool.false_ne_true, if_neg Bool.false_ne_true, Nat.add_zero,
      Option.some_inj, eq_comm]
    exact (and_iff_right nofun).symm

/-- Only what is aligned behind the last position has no start. -/
theorem textStart?_eq_none_iff {packet : Packet} {unicode : Bool} :
    packet.textStart? unicode = none ↔ unicode = true ∧ positionSpan ≤ packet.position + 1 := by
  cases unicode with
  | true =>
    rw [textStart?, if_pos rfl, alignWord?, Option.map_eq_none_iff, inSpan?_eq_none_iff]
    exact (and_iff_right rfl).symm
  | false =>
    exact iff_of_false (Option.some_ne_none packet.position) fun hlast =>
      Bool.false_ne_true hlast.1

def packString (packet : Packet) (text : String) (unicode : Bool) : Option (Attempt Unit) :=
  (packet.textStart? unicode).map fun start =>
    if unicode then packet.packUtf16 start text else packet.packLatin text

/-! ## Unpacking -/

/-- Reads `length` bytes at the cursor and moves it past them. -/
def unpack (packet : Packet) (length : Nat) : Attempt Bytes :=
  match packet.buffer.read packet.position length with
  | .ok source => (.ok source, { packet with position := packet.position + length })
  | .error fault => (.error fault, packet)

def unpackByte (packet : Packet) : Attempt UInt8 :=
  (packet.unpack 1).map (Except.map LittleEndian.toByte) id

def unpackWord (packet : Packet) : Attempt UInt16 :=
  (packet.unpack 2).map (Except.map LittleEndian.toWord) id

def unpackLong (packet : Packet) : Attempt UInt32 :=
  (packet.unpack 4).map (Except.map LittleEndian.toLong) id

def unpackQuad (packet : Packet) : Attempt UInt64 :=
  (packet.unpack 8).map (Except.map LittleEndian.toQuad) id

/-- Reads a text at a start, at most `limit` characters or units. -/
def textAt (packet : Packet) (start limit : Nat) (unicode : Bool) :
    Except Fault (String × Nat) :=
  if unicode then packet.buffer.readUtf16 start limit else packet.buffer.readLatin start limit

/-- Unpacks a terminated string.  The terminator is passed too, if it was reached. -/
def unpackString (packet : Packet) (unicode : Bool) : Option (Attempt String) :=
  (packet.textStart? unicode).map fun start =>
    match packet.textAt start maximumString unicode with
    | .ok (text, consumed) => (.ok text, { packet with position := start + consumed })
    | .error fault => (.error fault, packet)

/-- Unpacks a string of at most `length` characters or units.  The cursor moves past the characters
of the text, never past a terminator. -/
def unpackStringOfLength (packet : Packet) (length : Nat) (unicode : Bool) :
    Option (Attempt String) :=
  (packet.textStart? unicode).map fun start =>
    match packet.textAt start length unicode with
    | .ok (text, _) =>
      let taken := if unicode then 2 * (Utf16.encode text.toList).length else text.length
      (.ok text, { packet with position := start + taken })
    | .error fault => (.error fault, packet)

/-- Unpacks strings while there is more data, `count` of them at most, and stops at the first that
cannot be read.  Each comes with the position behind it. -/
def unpackStrings (packet : Packet) : (count : Nat) → Option (List (Except Fault String × Nat))
  | 0 => some []
  | count + 1 =>
    if packet.hasMoreData then do
      match ← packet.unpackString packet.isUnicode with
      | (.ok text, after) => do
        let rest ← after.unpackStrings count
        some ((.ok text, after.position) :: rest)
      | (.error fault, after) => some [(.error fault, after.position)]
    else some []

end SmbExchange.Packet
