import SmbExchange.Bytes.Access
import SmbExchange.Bytes.Alignment
import SmbExchange.Text.Latin
import SmbExchange.Text.Utf16

/-!
# Packets

A packet owns one buffer.  Its first four bytes are room for the session header that the transport
fills in; the message follows: marker, header fields, parameter words, byte count and byte area.
Everything past the parameter words moves with their number, so it is computed from the buffer
whenever it is asked for and never stored.

Every buffer holds at least `minimumCapacity` bytes, which is room for the header, 255 parameter
words and the byte count.  Reading these therefore needs no check.  The bound is part of the type,
and `patch`, through which every change of a buffer goes, keeps it.
-/

namespace SmbExchange

/-- A message in its buffer, with a cursor. -/
structure Packet where
  /-- Room for the session header, then the message, then whatever was there before. -/
  buffer : Bytes
  /-- The command that a response to this packet carries. -/
  expectedCommand : UInt8
  /-- Where the cursor packs or unpacks next. -/
  position : Nat
  /-- Where unpacking ends. -/
  limit : Nat
  /-- The packet has been sent since it was built or reset. -/
  sent : Bool
  /-- The buffer has room for the longest header. -/
  minimum_le_length : 549 ≤ buffer.length
  deriving DecidableEq, Repr

namespace Packet

/-- Length of the session header in front of the message. -/
def headerRoom : Nat := 4

/-- The least capacity of a packet: the message header, 255 parameter words and the byte count. -/
def minimumCapacity : Nat := 549

/-- The capacity of a packet when none is asked for. -/
def defaultCapacity : Nat := 4096

def minimumMessage : Nat := 32

/-- Offset of the first parameter word. -/
def wordsStart : Nat := 37

/-- The four bytes that start every message. -/
def marker : Bytes := [0xFF, 0x53, 0x4D, 0x42]

/-- What an operation that may fail gives: its result, and the packet after it. -/
abbrev Attempt (α : Type) := Except Fault α × Packet

def patch (packet : Packet) (offset : Nat) (source : Bytes) : Packet :=
  { packet with
    buffer := packet.buffer.patch offset source
    minimum_le_length := by simpa using packet.minimum_le_length }

def capacity (packet : Packet) : Nat :=
  packet.buffer.length

def messageRoom (packet : Packet) : Nat :=
  packet.capacity - headerRoom

/-- An empty packet: all zero but for the marker. -/
def blank (capacity : Nat) (hcapacity : minimumCapacity ≤ capacity) : Packet where
  buffer := (Bytes.zeros capacity).patch headerRoom marker
  expectedCommand := 0
  position := wordsStart
  limit := wordsStart
  sent := false
  minimum_le_length := by simpa [minimumCapacity] using hcapacity

def new : Packet :=
  blank defaultCapacity (by decide)

/-- An empty packet of a given capacity. -/
def withCapacity (capacity : Nat) : Except Fault Packet :=
  if hcapacity : minimumCapacity ≤ capacity then .ok (blank capacity hcapacity)
  else .error (.bufferOverflow 0 minimumCapacity capacity)

/-- The packet that holds a received message.  It expects the command of the message itself. -/
def ofMessage (message : Bytes) : Except Fault Packet :=
  if message.length < minimumMessage then .error (.shortReceive message.length)
  else if message.take marker.length ≠ marker then .error .invalidHeader
  else
    let capacity := max (headerRoom + message.length) defaultCapacity
    let empty := blank capacity (Nat.le_trans (by decide) (Nat.le_max_right _ _))
    .ok { empty.patch headerRoom message with expectedCommand := message.byteAt 4 }

/-- Makes the packet ready for another message: the header, the number of parameter words and the
slot of the byte count become zero, the rest of the buffer stays. -/
def reset (packet : Packet) : Packet :=
  { (packet.patch 8 (Bytes.zeros 31)).patch headerRoom marker with
    expectedCommand := 0
    position := wordsStart
    limit := wordsStart
    sent := false }

/-- The marker stands at the start of the message. -/
def hasMarker (packet : Packet) : Bool :=
  packet.buffer.slice headerRoom 4 == marker

/-- Sets the command that the response is expected to carry, and leaves the header alone. -/
def expect (packet : Packet) (command : UInt8) : Packet :=
  { packet with expectedCommand := command }

def markSent (packet : Packet) : Packet :=
  { packet with sent := true }

@[simp]
theorem capacity_patch (packet : Packet) (offset : Nat) (source : Bytes) :
    (packet.patch offset source).capacity = packet.capacity := by
  simp [capacity, patch]

@[simp]
theorem capacity_reset (packet : Packet) : packet.reset.capacity = packet.capacity := by
  simp [reset, capacity, patch]

/-- Writes `source` at `offset` where it fits, and fails without a change where it does not. -/
def store (packet : Packet) (offset : Nat) (source : Bytes) : Attempt Unit :=
  if packet.buffer.Fits offset source.length then (.ok (), packet.patch offset source)
  else (.error (packet.buffer.overflow offset source.length), packet)

end Packet

end SmbExchange
