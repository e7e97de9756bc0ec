import SmbExchange.Event
import SmbExchange.Frame.Framing

/-!
# Transports

A transport carries whole frames in both directions.  It knows how many bytes may still arrive:
every message that it delivers makes this number smaller, which is why waiting for the right message
ends.

`send` and `receive` are the same for every transport.  The frame that is sent starts with room for
its session header, the buffer that receives has such room too.
-/

namespace SmbExchange

/-- What a wait for a message came to. -/
inductive Arrival where
  | message (payload : Bytes)
  | nothing
  /-- The stream ended, or what arrived is refused. -/
  | failed (fault : Fault)
  deriving DecidableEq, Repr

structure Waited (τ : Type) where
  /-- How many keep-alives were passed over. -/
  skipped : Nat
  arrival : Arrival
  transport : τ

/-- A connection that carries frames. -/
class Transport (τ : Type) where
  write : τ → Bytes → Except Fault Unit × τ
  /-- Waits for the next message, so many milliseconds at most. -/
  next : τ → Nat → Waited τ
  close : τ → Except Fault Unit × τ
  /-- A bound on the bytes that are still to come. -/
  pending : τ → Nat
  /-- A message that arrives is no longer to come. -/
  pending_next_lt : ∀ (transport : τ) (wait : Nat) (payload : Bytes),
    (next transport wait).arrival = .message payload →
      pending (next transport wait).transport < pending transport

namespace Transport

variable {τ : Type} [Transport τ]

structure Sent (τ : Type) where
  result : Except Fault Unit
  /-- The frame, with its header filled in unless it was refused before. -/
  frame : Bytes
  transport : τ
  events : List Event

/-- Fills in the header of a frame and puts it on the wire. -/
def send (transport : τ) (frame : Bytes) : Sent τ :=
  if frame.length < Frame.headerLength then
    ⟨.error (.transport "Packet buffer smaller than the minimum SMB header"), frame, transport, []⟩
  else
    let length := frame.length - Frame.headerLength
    match Frame.writeHeader frame length with
    | .error fault => ⟨.error fault, frame, transport, []⟩
    | .ok filled =>
      match write transport filled with
      | (.ok (), after) => ⟨.ok (), filled, after, [.frameSent length]⟩
      | (.error fault, after) => ⟨.error fault, filled, after, []⟩

structure Receipt (τ : Type) where
  arrival : Arrival
  transport : τ
  events : List Event

/-- Waits for a message that fits some room.  One that does not fit is lost. -/
def receive (transport : τ) (room wait : Nat) : Receipt τ :=
  let waited := next transport wait
  let skips := List.replicate waited.skipped Event.keepAliveSkipped
  match waited.arrival with
  | .message payload =>
    if room < payload.length then
      ⟨.failed (.oversizedPacket payload.length), waited.transport,
        skips ++ [.frameTooLong payload.length room]⟩
    else ⟨.message payload, waited.transport, skips ++ [.frameReceived payload.length]⟩
  | arrival => ⟨arrival, waited.transport, skips⟩

def room (buffer : Bytes) : Nat :=
  buffer.length - Frame.headerLength

def sendKeepAlive (transport : τ) : Except Fault Unit × τ :=
  write transport Frame.keepAlive

/-- A message that is received is no longer to come. -/
theorem pending_receive_lt (transport : τ) (room wait : Nat) (payload : Bytes)
    (hmessage : (receive transport room wait).arrival = .message payload) :
    pending (receive transport room wait).transport < pending transport := by
  have hnext := pending_next_lt transport wait
  simp only [receive] at hmessage ⊢
  generalize next transport wait = waited at hnext hmessage ⊢
  cases harrival : waited.arrival with
  | message found =>
    simp only [harrival] at hmessage ⊢
    split
    · exact hnext found harrival
    · exact hnext found harrival
  | nothing => simp [harrival] at hmessage
  | failed fault => simp [harrival] at hmessage

end Transport

end SmbExchange
