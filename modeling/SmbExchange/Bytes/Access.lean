import SmbExchange.Bytes.LittleEndian
import SmbExchange.Fault

/-!
# Checked access to a buffer

Every access names its offset and its length.  It succeeds exactly when the whole range lies inside
the buffer and otherwise reports that range with the capacity, so nothing is cut short in silence.
Offsets are natural numbers: a range never wraps around.
-/

namespace SmbExchange.Bytes

/-- The range of `length` bytes at `offset` lies inside the buffer. -/
def Fits (buffer : Bytes) (offset length : Nat) : Prop :=
  offset + length ≤ buffer.length

instance (buffer : Bytes) (offset length : Nat) : Decidable (buffer.Fits offset length) :=
  inferInstanceAs (Decidable (_ ≤ _))

/-- The fault of a range that does not fit. -/
def overflow (buffer : Bytes) (offset length : Nat) : Fault :=
  .bufferOverflow offset length buffer.length

/-- What a successful write leaves: how many bytes it wrote, and the buffer after it. -/
structure Written where
  /-- The number of bytes written. -/
  count : Nat
  /-- The buffer after the write, as long as before. -/
  buffer : Bytes
  deriving DecidableEq, Repr

def read (buffer : Bytes) (offset length : Nat) : Except Fault Bytes :=
  if buffer.Fits offset length then .ok (buffer.slice offset length)
  else .error (buffer.overflow offset length)

def write (buffer : Bytes) (offset : Nat) (source : Bytes) : Except Fault Written :=
  if buffer.Fits offset source.length then .ok ⟨source.length, buffer.patch offset source⟩
  else .error (buffer.overflow offset source.length)

/-- Writes `count` zero bytes at `offset`.  The range is checked before any zero is made, so a huge
count costs nothing. -/
def writeZeros (buffer : Bytes) (offset count : Nat) : Except Fault Written :=
  if buffer.Fits offset count then .ok ⟨count, buffer.patch offset (zeros count)⟩
  else .error (buffer.overflow offset count)

theorem writeZeros_eq_write (buffer : Bytes) (offset count : Nat) :
    buffer.writeZeros offset count = buffer.write offset (zeros count) := by
  simp [writeZeros, write]

def readByte (buffer : Bytes) (offset : Nat) : Except Fault UInt8 :=
  (buffer.read offset 1).map LittleEndian.toByte

def readWord (buffer : Bytes) (offset : Nat) : Except Fault UInt16 :=
  (buffer.read offset 2).map LittleEndian.toWord

def readLong (buffer : Bytes) (offset : Nat) : Except Fault UInt32 :=
  (buffer.read offset 4).map LittleEndian.toLong

def readQuad (buffer : Bytes) (offset : Nat) : Except Fault UInt64 :=
  (buffer.read offset 8).map LittleEndian.toQuad

def writeByte (buffer : Bytes) (offset : Nat) (value : UInt8) : Except Fault Written :=
  buffer.write offset [value]

def writeWord (buffer : Bytes) (offset : Nat) (value : UInt16) : Except Fault Written :=
  buffer.write offset (LittleEndian.ofWord value)

def writeLong (buffer : Bytes) (offset : Nat) (value : UInt32) : Except Fault Written :=
  buffer.write offset (LittleEndian.ofLong value)

def writeQuad (buffer : Bytes) (offset : Nat) (value : UInt64) : Except Fault Written :=
  buffer.write offset (LittleEndian.ofQuad value)

end SmbExchange.Bytes
