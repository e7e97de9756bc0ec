import SmbExchange.Packet.Basic

/-!
# Header fields

Each header field is a range of bytes at a fixed place.  Reading and writing go through the table
of ranges, so two fields disturb each other exactly where their ranges overlap: the error class and
error code lie inside the long error code, the session id and the sequence number inside the
signature.
-/

namespace SmbExchange

/-- The fields at fixed places of a message. -/
inductive HeaderField where
  | command
  | errorClass
  | errorCode
  | longErrorCode
  | flags
  | flags2
  | processIdHigh
  | signature
  | sessionId
  | sequenceNumber
  | treeId
  | processId
  | userId
  | multiplexId
  | wordCount
  deriving DecidableEq, Repr

namespace HeaderField

/-- Where the field starts, counted from the start of the buffer. -/
def offset : HeaderField → Nat
  | command => 8
  | errorClass => 9
  | errorCode => 11
  | longErrorCode => 9
  | flags => 13
  | flags2 => 14
  | processIdHigh => 16
  | signature => 18
  | sessionId => 22
  | sequenceNumber => 24
  | treeId => 28
  | processId => 30
  | userId => 32
  | multiplexId => 34
  | wordCount => 36

def width : HeaderField → Nat
  | command | errorClass | errorCode | flags | wordCount => 1
  | longErrorCode => 4
  | signature => 8
  | _ => 2

end HeaderField

namespace Packet

def get (packet : Packet) (field : HeaderField) : Nat :=
  LittleEndian.decode (packet.buffer.slice field.offset field.width)

/-- Writes a number into a header field, its low bytes only where it is too large. -/
def set (packet : Packet) (field : HeaderField) (value : Nat) : Packet :=
  packet.patch field.offset (LittleEndian.encode field.width value)

def command (packet : Packet) : UInt8 := UInt8.ofNat (packet.get .command)

/-- Sets the command, which is also what the response is expected to carry. -/
def setCommand (packet : Packet) (command : UInt8) : Packet :=
  (packet.set .command command.toNat).expect command

def errorClass (packet : Packet) : UInt8 := UInt8.ofNat (packet.get .errorClass)

def errorCode (packet : Packet) : UInt8 := UInt8.ofNat (packet.get .errorCode)

def longErrorCode (packet : Packet) : UInt32 := UInt32.ofNat (packet.get .longErrorCode)

def flags (packet : Packet) : UInt8 := UInt8.ofNat (packet.get .flags)

def flags2 (packet : Packet) : UInt16 := UInt16.ofNat (packet.get .flags2)

def processIdHigh (packet : Packet) : UInt16 := UInt16.ofNat (packet.get .processIdHigh)

def signature (packet : Packet) : UInt64 := UInt64.ofNat (packet.get .signature)

def signatureBytes (packet : Packet) : Bytes :=
  packet.buffer.slice HeaderField.signature.offset HeaderField.signature.width

def setSignatureBytes (packet : Packet) (bytes : Bytes) : Packet :=
  packet.patch HeaderField.signature.offset (bytes.take HeaderField.signature.width)

/-- The session id of connectionless use. -/
def sessionId (packet : Packet) : UInt16 := UInt16.ofNat (packet.get .sessionId)

/-- The sequence number of connectionless use. -/
def sequenceNumber (packet : Packet) : UInt16 := UInt16.ofNat (packet.get .sequenceNumber)

def treeId (packet : Packet) : UInt16 := UInt16.ofNat (packet.get .treeId)

def processId (packet : Packet) : UInt16 := UInt16.ofNat (packet.get .processId)

def userId (packet : Packet) : UInt16 := UInt16.ofNat (packet.get .userId)

def multiplexId (packet : Packet) : UInt16 := UInt16.ofNat (packet.get .multiplexId)

def wordCount (packet : Packet) : UInt8 := UInt8.ofNat (packet.get .wordCount)

/-! ## Flags -/

def isResponse (packet : Packet) : Bool := packet.flags &&& 0x80 != 0

/-- Path names are compared without regard to case. -/
def isCaseless (packet : Packet) : Bool := packet.flags &&& 0x08 != 0

/-- Path names are in canonical form. -/
def isCanonical (packet : Packet) : Bool := packet.flags &&& 0x10 != 0

/-- An opportunistic lock is asked for. -/
def isOplock (packet : Packet) : Bool := packet.flags &&& 0x20 != 0

/-- Any change to the locked file is to be notified. -/
def isNotify (packet : Packet) : Bool := packet.flags &&& 0x40 != 0

/-- Long file names are in use. -/
def hasLongFilenames (packet : Packet) : Bool := packet.flags2 &&& 0x0001 != 0

def hasExtendedAttributes (packet : Packet) : Bool := packet.flags2 &&& 0x0002 != 0

def hasSecuritySignature (packet : Packet) : Bool := packet.flags2 &&& 0x0004 != 0

def hasExtendedSecurity (packet : Packet) : Bool := packet.flags2 &&& 0x0800 != 0

/-- The status is an NT status. -/
def isLongErrorCode (packet : Packet) : Bool := packet.flags2 &&& 0x4000 != 0

/-- Strings are in UTF-16. -/
def isUnicode (packet : Packet) : Bool := packet.flags2 &&& 0x8000 != 0

/-- What the flags say about the message, one word for each thing that is so. -/
def traits (packet : Packet) : List String :=
  let facts : List (Bool × String) :=
    [(packet.isResponse, "response"), (!packet.isResponse, "request"),
     (packet.isCaseless, "caseless"), (packet.isCanonical, "canonical"),
     (packet.isOplock, "oplock"), (packet.isNotify, "notify"),
     (packet.hasLongFilenames, "long_filenames"),
     (packet.hasExtendedAttributes, "extended_attributes"),
     (packet.hasSecuritySignature, "security_signature"),
     (packet.hasExtendedSecurity, "extended_security"),
     (packet.isLongErrorCode, "long_error_code"), (packet.isUnicode, "unicode")]
  (facts.filter Prod.fst).map Prod.snd

end Packet

end SmbExchange
