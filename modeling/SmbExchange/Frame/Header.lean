import SmbExchange.Bytes.Access

/-!
# Session headers

A frame on the stream is a header of four bytes and a payload.  The header holds the kind of the
frame and the length of the payload: the low bit of the second byte is the high bit of the length,
the last two bytes are the rest of it, high byte first.  The other bits of the second byte mean
nothing.
-/

namespace SmbExchange.Frame

def headerLength : Nat := 4

def messageKind : UInt8 := 0x00

/-- The kind of a frame that only shows that the peer is alive. -/
def keepAliveKind : UInt8 := 0x85

/-- The longest payload that a header can describe. -/
def maximumLength : Nat := 0x1FFFF

structure Header where
  kind : UInt8
  /-- The length of the payload behind the header. -/
  length : Nat
  deriving DecidableEq, Repr

/-- The payload length that the last three bytes of a header describe. -/
def payloadLength (flags high low : UInt8) : Nat :=
  (flags.toNat % 2 * 256 + high.toNat) * 256 + low.toNat

/-- Splits a stream into its first header and what follows, when four bytes are there. -/
def parseHeader? : Bytes → Option (Header × Bytes)
  | kind :: flags :: high :: low :: rest => some (⟨kind, payloadLength flags high low⟩, rest)
  | _ => none

def messageHeader (length : Nat) : Bytes :=
  [messageKind, UInt8.ofNat (length / 65536 % 2), UInt8.ofNat (length / 256), UInt8.ofNat length]

/-- Writes the header of a message of a given length over the first bytes of a buffer. -/
def writeHeader (buffer : Bytes) (length : Nat) : Except Fault Bytes :=
  if maximumLength < length then .error (.oversizedPacket length)
  else (buffer.write 0 (messageHeader length)).map Bytes.Written.buffer

/-- A keep-alive frame without a payload. -/
def keepAlive : Bytes := [keepAliveKind, 0, 0, 0]

theorem payloadLength_le (flags high low : UInt8) :
    payloadLength flags high low ≤ maximumLength := by
  have hhigh := high.toNat_lt
  have hlow := low.toNat_lt
  simp only [payloadLength, maximumLength]
  omega

theorem length_of_parseHeader? {bytes rest : Bytes} {header : Header}
    (hparse : parseHeader? bytes = some (header, rest)) :
    bytes.length = headerLength + rest.length := by
  match bytes with
  | kind :: flags :: high :: low :: tail =>
    simp only [parseHeader?, Option.some.injEq, Prod.mk.injEq] at hparse
    simp only [← hparse.2, List.length_cons, headerLength]
    omega
  | [] | [_] | [_, _] | [_, _, _] => simp [parseHeader?] at hparse

/-- A header read back gives the length it was written for. -/
theorem parseHeader?_messageHeader {length : Nat} (hlength : length ≤ maximumLength)
    (rest : Bytes) :
    parseHeader? (messageHeader length ++ rest) = some (⟨messageKind, length⟩, rest) := by
  simp only [maximumLength] at hlength
  simp only [messageHeader, List.cons_append, List.nil_append, parseHeader?, payloadLength,
    UInt8.toNat_ofNat', Option.some.injEq, Prod.mk.injEq, Header.mk.injEq, true_and, and_true]
  omega

end SmbExchange.Frame
