import SmbExchange.Packet.Header

/-!
# The status of a packet

A flag of the header selects the convention in which the status bytes are read.  Success of a
packet asks more than success of its status: it must be a response to the expected command.
-/

namespace SmbExchange.Packet

/-- The status, in the convention that the header selects. -/
def status (packet : Packet) : Status :=
  if packet.isLongErrorCode then .nt packet.longErrorCode
  else .legacy packet.errorClass packet.errorCode

/-- A successful response to the expected command. -/
def isSuccess (packet : Packet) : Bool :=
  packet.isResponse && packet.command == packet.expectedCommand && packet.status.isSuccess

/-- Fails with the status unless it is success.  Response flag and command are not looked at. -/
def checkForError (packet : Packet) : Except Fault Unit :=
  if packet.status.isSuccess then .ok () else .error (.ofStatus packet.status)

/-- The legacy status bytes are the given ones, whichever convention is in use. -/
def equalsError (packet : Packet) (errorClass code : UInt8) : Bool :=
  packet.errorClass == errorClass && packet.errorCode == code

end SmbExchange.Packet
