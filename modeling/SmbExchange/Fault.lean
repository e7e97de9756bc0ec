import SmbExchange.Status

/-!
# Faults

A fault says why an operation did not succeed.  Each constructor is one cause and holds the numbers
that belong to it; `Fault.message` is the text shown to people.  The status a server reports and
the fault it becomes determine each other, see `status?_ofStatus`.
-/

namespace SmbExchange

/-- Why reading from or writing to the byte stream failed. -/
inductive StreamFault where
  /-- The stream is closed for writing, at this end or at the other. -/
  | brokenPipe
  /-- The stream ended inside a frame. -/
  | bytesRemaining
  /-- A fault reported from outside, with its text. -/
  | other (text : String)
  deriving DecidableEq, Repr

def StreamFault.message : StreamFault → String
  | brokenPipe => "broken pipe"
  | bytesRemaining => "bytes remaining on stream"
  | other text => text

/-- Why an operation did not succeed. -/
inductive Fault where
  | stream (cause : StreamFault)
  /-- The transport could not connect or found a frame it does not accept. -/
  | transport (reason : String)
  /-- The peer ended the stream. -/
  | connectionClosed
  | timeout
  /-- A message of `length` bytes is too short for a header. -/
  | shortReceive (length : Nat)
  /-- The server reported an error class and code. -/
  | legacyStatus (errorClass code : UInt8)
  /-- The server reported an NT status. -/
  | ntStatus (code : UInt32)
  /-- The signature of a response is not the expected one. -/
  | signatureMismatch
  /-- A parameter word past the slot after the last one. -/
  | parameterIndex (index : Nat) (count : UInt8)
  /-- An access of `length` bytes at `offset` does not fit a buffer of `capacity` bytes. -/
  | bufferOverflow (offset length capacity : Nat)
  /-- A message without the protocol marker. -/
  | invalidHeader
  /-- No handler is registered for a command. -/
  | unexpectedCommand (command : UInt8)
  /-- A payload of `length` bytes is longer than its place allows. -/
  | oversizedPacket (length : Nat)
  /-- A character that does not fit one byte. -/
  | unencodableChar (codePoint : UInt32)
  /-- The configuration, or the logger made from it, is refused. -/
  | config (reason : String)
  /-- A fault of the caller's own. -/
  | custom (reason : String)
  deriving DecidableEq, Repr

namespace Fault

def message : Fault → String
  | stream cause => "I/O error: " ++ cause.message
  | transport reason => "Transport error: " ++ reason
  | connectionClosed => "Connection closed"
  | timeout => "Timeout occurred"
  | shortReceive length => "Short NetBIOS receive: " ++ toString length ++ " bytes"
  | legacyStatus errorClass code =>
    "SMB error class " ++ toString errorClass.toNat ++ ", code " ++ toString code.toNat
  | ntStatus code => "NT status error: 0x" ++ String.ofList (Hex.upper 8 code.toNat)
  | signatureMismatch => "SMB signature verification failed"
  | parameterIndex index count =>
    "Parameter index " ++ toString index ++ " out of range (count " ++ toString count.toNat ++ ")"
  | bufferOverflow offset length capacity =>
    "Buffer overflow: " ++ toString length ++ " bytes at offset " ++ toString offset
      ++ " exceeds capacity " ++ toString capacity
  | invalidHeader => "Invalid protocol header"
  | unexpectedCommand command =>
    "No handler registered for SMB command 0x" ++ String.ofList (Hex.upper 2 command.toNat)
  | oversizedPacket length => "Packet too large: " ++ toString length ++ " bytes"
  | unencodableChar codePoint =>
    "Character U+" ++ String.ofList (Hex.upper 4 codePoint.toNat)
      ++ " cannot be packed as a single-byte string"
  | config reason => "Configuration error: " ++ reason
  | custom reason => "Custom error: " ++ reason

def isTransportFailure : Fault → Bool
  | stream _ | transport _ | connectionClosed | timeout => true
  | _ => false

/-- The status that a fault carries, if the server reported one. -/
def status? : Fault → Option Status
  | legacyStatus errorClass code => some (.legacy errorClass code)
  | ntStatus code => some (.nt code)
  | _ => none

def ofStatus : Status → Fault
  | .legacy errorClass code => legacyStatus errorClass code
  | .nt code => ntStatus code

@[simp]
theorem status?_ofStatus (status : Status) : (ofStatus status).status? = some status := by
  cases status <;> rfl

end Fault

theorem eq_ok_of_isOk {result : Except Fault Unit} (hok : result.isOk = true) :
    result = .ok () := by
  cases result with
  | error fault => cases hok
  | ok _ => rfl

end SmbExchange
