import SmbExchange.Session.Basic

/-!
# Exchanges

A request is stamped, signed and sent; then messages are taken off the transport until one carries
the awaited command.  Messages with another command go to the sink on the way.  The first message
that is too long for the response packet, too short for a header, or that carries the awaited
command decides.

With a signer set, a sequence number is used up by every request that is handed to the transport
and by every response that carries the awaited command, whatever becomes of either.
-/

namespace SmbExchange.Session

variable {τ : Type}

/-- The bit that says that a message is signed. -/
def signedFlag : UInt16 := 0x0004

/-- Stamps the ids of the session on a request.  A multiplex id that is not set becomes one. -/
def stamp (session : Session τ) (request : Packet) : Packet :=
  let named := if request.multiplexId = 0 then request.set .multiplexId 1 else request
  (named.set .processId session.settings.processId.toNat).set .userId session.userId.toNat

def flagSigned (request : Packet) : Packet :=
  request.set .flags2 (request.flags2 ||| signedFlag).toNat

/-- Stamps a request and signs it when signing is enabled.  A request whose message does not fit its
buffer cannot be signed; it uses up no sequence number. -/
def prepare (session : Session τ) (request : Packet) :
    Except Fault Unit × Session τ × Packet :=
  let stamped := session.stamp request
  match session.signer with
  | none => (.ok (), session, stamped)
  | some signer =>
    let flagged := flagSigned stamped
    match flagged.message with
    | .error fault => (.error fault, session, flagged)
    | .ok message =>
      let signature := signer.sign message session.sequence
      (.ok (), { session with sequence := session.sequence + 1 },
        flagged.setSignatureBytes signature.val)

variable [Transport τ]

/-- Prepares a request and hands it to the transport. -/
def transmit (session : Session τ) (request : Packet) :
    Except Fault Unit × Session τ × Packet :=
  match session.prepare request with
  | (.error fault, prepared, packet) => (.error fault, prepared, packet)
  | (.ok (), prepared, packet) =>
    match packet.frame with
    | .error fault => (.error fault, prepared, packet)
    | .ok frame =>
      let sent := Transport.send prepared.transport frame
      let filled := packet.patch 0 sent.frame
      let after := { prepared with transport := sent.transport }.log sent.events
      match sent.result with
      | .error fault => (.error fault, after.count Metrics.connectionError, filled)
      | .ok () =>
        let length := packet.totalLength
        let counted := after.count (Metrics.messageSent · (UInt64.ofNat length))
        (.ok (), { counted with hasSent := true }.log [.requestSent length packet.multiplexId],
          filled.markSent)

/-- Takes over what a transport's wait left. -/
def absorb (session : Session τ) (receipt : Transport.Receipt τ) : Session τ :=
  { session with transport := receipt.transport }.log receipt.events

def countReceived (session : Session τ) (length : Nat) : Session τ :=
  session.count (Metrics.messageReceived · (UInt64.ofNat length))

/-- Counts and logs a message that is too short for a header. -/
def refuseShort (session : Session τ) (length : Nat) : Session τ :=
  (session.count Metrics.shortReceive).log [.shortReceive length]

/-- Hands a message to the sink that carries another command than the awaited one. -/
def divert (session : Session τ) (packet : Packet) : Session τ :=
  (session.log [.diverted packet.command packet.expectedCommand packet.multiplexId]).deliver packet

/-- Checks the signature of a response whose message has a given length, and uses up a sequence
number, when signing is enabled. -/
def verifyResponse (session : Session τ) (response : Packet) (length : Nat) :
    Except Fault Unit × Session τ :=
  match session.signer with
  | none => (.ok (), session)
  | some signer =>
    let after := { session with sequence := session.sequence + 1 }
    let message := response.buffer.slice Packet.headerRoom length
    if session.settings.verifyReceived && !signer.verify message session.sequence then
      (.error .signatureMismatch,
        (after.count Metrics.signatureFailure).log [.signatureRefused session.sequence])
    else (.ok (), after)

/-- Ends a wait with the response that has arrived: first its signature, then its status. -/
def conclude (session : Session τ) (response : Packet) (length : Nat) (checkStatus : Bool) :
    Except Fault Unit × Session τ :=
  match session.verifyResponse response length with
  | (.error fault, after) => (.error fault, after)
  | (.ok (), after) =>
    let shown :=
      if after.settings.dumpPackets then after.log [.responseDump response.dump] else after
    match checkStatus, response.checkForError with
    | true, .error fault => (.error fault, shown.count Metrics.protocolError)
    | _, _ => (.ok (), shown)

/-- Waits for a message with the command that the response packet expects. -/
def await (session : Session τ) (response : Packet) (checkStatus : Bool) :
    Except Fault Unit × Session τ × Packet :=
  let receipt :=
    Transport.receive session.transport response.messageRoom session.settings.responseWait
  let absorbed := session.absorb receipt
  match _ : receipt.arrival with
  | .nothing => (.error .timeout, absorbed.count Metrics.connectionError, response)
  | .failed fault =>
    let after :=
      if fault.isTransportFailure then absorbed.count Metrics.connectionError else absorbed
    (.error fault, after, response)
  | .message payload =>
    let filled := response.patch Packet.headerRoom payload
    let counted := absorbed.countReceived payload.length
    if payload.length < Packet.minimumMessage then
      (.error (.shortReceive payload.length), counted.refuseShort payload.length, filled)
    else if filled.command ≠ filled.expectedCommand then
      await (counted.divert filled) filled checkStatus
    else
      let concluded := counted.conclude filled payload.length checkStatus
      (concluded.1, concluded.2, filled)
termination_by Transport.pending session.transport
decreasing_by
  have hless := Transport.pending_receive_lt session.transport response.messageRoom
    session.settings.responseWait payload (by assumption)
  exact hless

/-- Makes a packet ready to receive the response to a command. -/
def awaiting (response : Packet) (command : UInt8) : Packet :=
  response.reset.expect command

/-- Sends a request without waiting for a response. -/
def sendOnly (session : Session τ) (request : Packet) : Except Fault Unit × Session τ × Packet :=
  session.transmit request

/-- Waits for another response to a command. -/
def receiveResponse (session : Session τ) (response : Packet) (command : UInt8)
    (checkStatus : Bool) : Except Fault Unit × Session τ × Packet :=
  session.await (awaiting response command) checkStatus

structure Exchanged (τ : Type) where
  /-- Whether the request found its response. -/
  result : Except Fault Unit
  session : Session τ
  request : Packet
  /-- The response, or whatever arrived last. -/
  response : Packet

def finish (session : Session τ) (result : Except Fault Unit) : Session τ :=
  let counted :=
    match result with
    | .ok () => session.count Metrics.exchangeSuccess
    | .error fault => (session.count Metrics.exchangeFailed).log [.exchangeFailed fault]
  counted.log [.operationCompleted "smb_exchange"]

/-- Sends a request and waits for the response to its command. -/
def exchange (session : Session τ) (request response : Packet) (checkStatus : Bool) :
    Exchanged τ :=
  let started := session.count Metrics.exchangeStarted
  let ready := awaiting response request.expectedCommand
  match started.transmit request with
  | (.error fault, after, sent) =>
    ⟨.error fault, after.finish (.error fault), sent, ready⟩
  | (.ok (), after, sent) =>
    let (result, ended, found) := after.await ready checkStatus
    ⟨result, ended.finish result, sent, found⟩

/-- Waits for one unsolicited packet and hands it to the sink.  Says whether one arrived. -/
def receiveAsync (session : Session τ) (packet : Packet) (wait : Nat) :
    Except Fault Bool × Session τ × Packet :=
  let ready := packet.reset
  let receipt := Transport.receive session.transport ready.messageRoom wait
  let absorbed := session.absorb receipt
  match receipt.arrival with
  | .nothing => (.ok false, absorbed, ready)
  | .failed fault => (.error fault, absorbed, ready)
  | .message payload =>
    let filled := ready.patch Packet.headerRoom payload
    let counted := absorbed.countReceived payload.length
    if payload.length < Packet.minimumMessage then
      (.error (.shortReceive payload.length), counted.refuseShort payload.length, filled)
    else
      let addressed := filled.expect filled.command
      (.ok true,
        (counted.log [.asyncReceived addressed.command payload.length]).deliver addressed,
        addressed)

/-- Waits for one unsolicited packet as long as the settings say. -/
def pollAsync (session : Session τ) (packet : Packet) : Except Fault Bool × Session τ × Packet :=
  session.receiveAsync packet session.settings.pollWait

end SmbExchange.Session
