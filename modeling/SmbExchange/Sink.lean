import SmbExchange.Event
import SmbExchange.Packet.Cursor
import SmbExchange.Packet.Status

/-!
# Where unsolicited packets go

A packet that nobody waits for goes to the sink of its session: a channel that somebody reads, or a
dispatcher that calls the handler registered for the packet's command.  A dispatcher passes on to
its channel what it has no handler for.

What becomes of a packet is a `Delivery`: a value that says which handler was called, what reached
the channel, and whether the packet was left lying.
-/

namespace SmbExchange

/-- The writing end of an unbounded channel. -/
structure Channel where
  hasReader : Bool
  deriving DecidableEq, Repr

structure Handler where
  /-- The name under which calls are reported. -/
  tag : String
  run : Packet → Except Fault Unit

structure Call where
  tag : String
  packet : Packet
  deriving DecidableEq, Repr

/-- Calls a handler, once. -/
def Handler.call (handler : Handler) (packet : Packet) : List Call × Except Fault Unit :=
  ([⟨handler.tag, packet⟩], handler.run packet)

/-- What became of a packet. -/
structure Delivery where
  packet : Packet
  calls : List Call
  /-- What reached the channel. -/
  forwarded : List Packet
  /-- How often nobody was there to take it: once or never. -/
  unhandled : UInt64
  events : List Event
  deriving DecidableEq, Repr

/-- Hands a packet to a channel.  What is read there expects the command that it carries. -/
def Channel.process (channel : Channel) (packet : Packet) : Delivery :=
  if channel.hasReader then ⟨packet, [], [packet.expect packet.command], 0, []⟩
  else ⟨packet, [], [], 1, [.receiverDropped packet.command]⟩

@[simp]
theorem Channel.packet_process (channel : Channel) (packet : Packet) :
    (channel.process packet).packet = packet := by
  rw [Channel.process]
  split <;> rfl

@[simp]
theorem Channel.calls_process (channel : Channel) (packet : Packet) :
    (channel.process packet).calls = [] := by
  rw [Channel.process]
  split <;> rfl

structure Dispatcher where
  handler? : UInt8 → Option Handler
  /-- Where packets without a handler go. -/
  fallback : Option Channel

namespace Dispatcher

def empty (fallback : Option Channel) : Dispatcher :=
  ⟨fun _ => none, fallback⟩

/-- Sets the handler of a command, in place of the one it had. -/
def register (dispatcher : Dispatcher) (command : UInt8) (handler : Handler) : Dispatcher :=
  { dispatcher with
    handler? := fun other => if other = command then some handler else dispatcher.handler? other }

/-- Calls the handler for a packet.  Beside the outcome stand the calls that were made for it. -/
def dispatch (dispatcher : Dispatcher) (packet : Packet) : List Call × Except Fault Unit :=
  match dispatcher.handler? packet.command with
  | some handler => handler.call packet
  | none => ([], .error (.unexpectedCommand packet.command))

/-- Hands a packet to its handler, or to the fallback when there is none.  A handler that fails with
`unexpectedCommand` counts as none. -/
def process (dispatcher : Dispatcher) (packet : Packet) : Delivery :=
  match dispatcher.dispatch packet with
  | (calls, .ok ()) => ⟨packet, calls, [], 0, [.packetHandled packet.command]⟩
  | (calls, .error (.unexpectedCommand _)) =>
    match dispatcher.fallback with
    | some channel =>
      let passed := channel.process packet
      { passed with calls := calls ++ passed.calls }
    | none => ⟨packet, calls, [], 1, [.packetUnhandled packet.command packet.multiplexId]⟩
  | (calls, .error fault) => ⟨packet, calls, [], 0, [.handlerFailed packet.command fault]⟩

@[simp]
theorem packet_process (dispatcher : Dispatcher) (packet : Packet) :
    (dispatcher.process packet).packet = packet := by
  rw [process]
  split
  · rfl
  · split
    · exact Channel.packet_process _ packet
    · rfl
  · rfl

/-- Only dispatching calls a handler. -/
@[simp]
theorem calls_process (dispatcher : Dispatcher) (packet : Packet) :
    (dispatcher.process packet).calls = (dispatcher.dispatch packet).1 := by
  rw [process]
  split
  · rename_i calls hdispatch
    rw [hdispatch]
  · rename_i calls _ hdispatch
    rw [hdispatch]
    split
    · simp only [Channel.calls_process, List.append_nil]
    · rfl
  · rename_i calls _ _ hdispatch
    rw [hdispatch]

end Dispatcher

/-- Where the packets of a session go. -/
inductive Sink where
  | channel (channel : Channel)
  | dispatcher (dispatcher : Dispatcher)

namespace Sink

def process : Sink → Packet → Delivery
  | channel target, packet => target.process packet
  | dispatcher target, packet => target.process packet

def dropReader : Sink → Sink
  | channel _ => channel ⟨false⟩
  | dispatcher target =>
    dispatcher { target with fallback := target.fallback.map fun _ => ⟨false⟩ }

end Sink

end SmbExchange
