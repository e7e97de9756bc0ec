import SmbExchange.Packet.Header

/-!
# Parameter words and the byte area

After the header come the parameter words, as many as the word count says, then the byte count, and
then the byte area of that many bytes.  The byte count stands where a word after the last one would
stand, and a reader may ask for that slot as if it were a word.

The index of a word is a machine word.  Where the offset computed from it is not one any more, the
access has no result; an index that `parameter` lets through is too small for that.
-/

namespace SmbExchange.Packet

def wordAt (packet : Packet) (offset : Nat) : UInt16 :=
  LittleEndian.toWord (packet.buffer.slice offset 2)

/-- Offset of a parameter word, in numbers without bound. -/
def wordOffset (index : UInt64) : Nat :=
  37 + 2 * index.toNat

/-- Offset of a parameter word, if no step of its computation overflows. -/
def wordOffset? (index : UInt64) : Option Nat := do
  let distance ← inSpan? (2 * index.toNat)
  inSpan? (37 + distance)

/-- Reads a parameter word.  The slot after the last word is allowed. -/
def parameter (packet : Packet) (index : UInt64) : Except Fault UInt16 :=
  if packet.wordCount.toNat < index.toNat then
    .error (.parameterIndex index.toNat packet.wordCount)
  else
    .ok (packet.wordAt (wordOffset index))

/-- Reads two parameter words as one number, wherever in the buffer they stand. -/
def parameterLong (packet : Packet) (index : UInt64) : Option (Except Fault UInt32) :=
  (wordOffset? index).map packet.buffer.readLong

/-- Writes a parameter word, wherever in the buffer it stands. -/
def setParameter (packet : Packet) (index : UInt64) (value : UInt16) : Option (Attempt Unit) :=
  (wordOffset? index).map fun offset => packet.store offset (LittleEndian.ofWord value)

/-- Writes two parameter words from one number. -/
def setParameterLong (packet : Packet) (index : UInt64) (value : UInt32) :
    Option (Attempt Unit) :=
  (wordOffset? index).map fun offset => packet.store offset (LittleEndian.ofLong value)

/-- Sets the command that follows in the same message.  `0xFF` means that none does, and then the
offset of the following block is cleared too. -/
def setAndxCommand (packet : Packet) (command : UInt8) : Packet :=
  let chained := packet.patch 37 [command, 0]
  if command = 0xFF then chained.patch 39 (Bytes.zeros 2) else chained

/-- The command that follows in the same message. -/
def andxCommand (packet : Packet) : UInt8 :=
  packet.buffer.byteAt 37

/-- Where the byte area starts. -/
def byteOffset (packet : Packet) : Nat :=
  39 + 2 * packet.wordCount.toNat

/-- The length that the message declares for the byte area. -/
def byteCount (packet : Packet) : UInt16 :=
  packet.wordAt (packet.byteOffset - 2)

/-- Writes the length of the byte area. -/
def setByteCount (packet : Packet) (count : UInt16) : Packet :=
  packet.patch (packet.byteOffset - 2) (LittleEndian.ofWord count)

/-- Makes the byte area end where the cursor stands. -/
def setByteCountFromPosition (packet : Packet) : Attempt Unit :=
  let length := packet.position - packet.byteOffset
  if length ≤ 0xFFFF then (.ok (), packet.setByteCount (UInt16.ofNat length))
  else (.error (.oversizedPacket length), packet)

def setBytes (packet : Packet) (bytes : Bytes) : Attempt Unit :=
  if bytes.length ≤ 0xFFFF then
    match packet.store packet.byteOffset bytes with
    | (.ok (), stored) => (.ok (), stored.setByteCount (UInt16.ofNat bytes.length))
    | failed => failed
  else (.error (.oversizedPacket bytes.length), packet)

/-- The byte area, if all of it lies inside the buffer. -/
def bytes (packet : Packet) : Except Fault Bytes :=
  packet.buffer.read packet.byteOffset packet.byteCount.toNat

/-- The length of the message, as its counts declare it. -/
def totalLength (packet : Packet) : Nat :=
  packet.byteOffset + packet.byteCount.toNat - headerRoom

/-- The message, if all of it lies inside the buffer. -/
def message (packet : Packet) : Except Fault Bytes :=
  packet.buffer.read headerRoom packet.totalLength

/-- The room of the session header with the message, if all of it lies inside the buffer. -/
def frame (packet : Packet) : Except Fault Bytes :=
  packet.buffer.read 0 (headerRoom + packet.totalLength)

/-- The room left for the byte area when it starts at a position divisible by four. -/
def availableLength (packet : Packet) : Nat :=
  packet.capacity - alignLong packet.byteOffset

end SmbExchange.Packet
