import SmbExchange.Command
import SmbExchange.Fault
import SmbExchange.Level
import SmbExchange.Metrics

/-!
# Events

What is worth a line in a log.  An event is a cause with its numbers; its level, its message and
its named values follow from it.
-/

namespace SmbExchange

inductive Event where
  /-- A keep-alive is about to be sent. -/
  | keepAliveSent
  | keepAliveSkipped
  /-- A frame with a payload of `length` bytes was sent. -/
  | frameSent (length : Nat)
  /-- A frame with a payload of `length` bytes was received. -/
  | frameReceived (length : Nat)
  /-- A frame did not fit the `room` of the receiving buffer. -/
  | frameTooLong (length room : Nat)
  /-- Signing starts at a sequence number. -/
  | signingEnabled (sequence : UInt32)
  | requestSent (length : Nat) (multiplexId : UInt16)
  /-- A packet that nobody waits for was received. -/
  | asyncReceived (command : UInt8) (length : Nat)
  /-- A packet arrived while another command was awaited. -/
  | diverted (command expected : UInt8) (multiplexId : UInt16)
  /-- A message of `length` bytes is too short. -/
  | shortReceive (length : Nat)
  /-- A response does not carry the signature of a sequence number. -/
  | signatureRefused (sequence : UInt32)
  | responseDump (text : String)
  | exchangeFailed (fault : Fault)
  | operationCompleted (operation : String)
  /-- Nobody reads the channel any more. -/
  | receiverDropped (command : UInt8)
  | packetHandled (command : UInt8)
  | packetUnhandled (command : UInt8) (multiplexId : UInt16)
  | handlerFailed (command : UInt8) (fault : Fault)
  /-- The counters as they are, so many seconds after they were set up. -/
  | metricsSnapshot (metrics : Metrics) (uptime : Nat)
  | loggingInitialized (application : String) (level : Level)
  deriving DecidableEq, Repr

namespace Event

inductive Value where
  | number (value : Nat)
  | text (value : String)
  deriving DecidableEq, Repr

def Value.toText : Value → String
  | number value => toString value
  | text value => value

def level : Event → Level
  | keepAliveSent | keepAliveSkipped | responseDump _ => .trace
  | diverted _ _ _ | shortReceive _ | signatureRefused _ | receiverDropped _
  | packetUnhandled _ _ | handlerFailed _ _ => .warn
  | metricsSnapshot _ _ | loggingInitialized _ _ => .info
  | _ => .debug

def message : Event → String
  | keepAliveSent => "Sending NetBIOS keep-alive"
  | keepAliveSkipped => "Skipping NetBIOS keep-alive"
  | frameSent _ => "Sent NetBIOS session message"
  | frameReceived _ => "Received NetBIOS session message"
  | frameTooLong _ _ => "Receive buffer too small for frame"
  | signingEnabled _ => "Packet signing enabled"
  | requestSent _ _ => "Request sent"
  | asyncReceived _ _ => "Received async packet"
  | diverted _ _ _ => "Diverting asynchronous response"
  | shortReceive _ => "Short SMB receive"
  | signatureRefused _ => "Response signature verification failed"
  | responseDump text => text
  | exchangeFailed _ => "Exchange failed"
  | operationCompleted _ => "Operation completed"
  | receiverDropped _ => "Async response receiver dropped, packet discarded"
  | packetHandled _ => "Async packet handled"
  | packetUnhandled _ _ => "No handler for async packet"
  | handlerFailed _ _ => "Async packet handler failed"
  | metricsSnapshot _ _ => "SMB metrics snapshot"
  | loggingInitialized _ _ => "Logging initialized"

/-- The name of the seconds that counters have been counted. -/
def uptimeName : String := "uptime_seconds"

def values : Event → List (String × Value)
  | keepAliveSent | keepAliveSkipped | responseDump _ => []
  | frameSent length | frameReceived length | shortReceive length => [("len", .number length)]
  | frameTooLong length room => [("len", .number length), ("room", .number room)]
  | signingEnabled sequence | signatureRefused sequence =>
    [("sequence", .number sequence.toNat)]
  | requestSent length multiplexId =>
    [("len", .number length), ("mid", .number multiplexId.toNat)]
  | asyncReceived command length =>
    [("command", .text (Command.name command)), ("len", .number length)]
  | diverted command expected multiplexId =>
    [("command", .text (Command.name command)), ("expected", .text (Command.name expected)),
      ("mid", .number multiplexId.toNat)]
  | exchangeFailed fault => [("error", .text fault.message)]
  | operationCompleted operation => [("operation", .text operation)]
  | receiverDropped command | packetHandled command =>
    [("command", .text (Command.name command))]
  | packetUnhandled command multiplexId =>
    [("command", .text (Command.name command)), ("mid", .number multiplexId.toNat)]
  | handlerFailed command fault =>
    [("command", .text (Command.name command)), ("error", .text fault.message)]
  | metricsSnapshot metrics uptime =>
    (metrics.counters.map fun (name, count) => (name, .number count.toNat))
      ++ [(uptimeName, .number uptime)]
  | loggingInitialized application level =>
    [("app", .text application), ("level", .text level.name)]

end Event

end SmbExchange
