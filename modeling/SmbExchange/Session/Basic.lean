import SmbExchange.Packet.Dump
import SmbExchange.Signing
import SmbExchange.Sink
import SmbExchange.Transport.Basic

/-!
# Sessions

A session owns one transport.  Besides the sequence number of its signatures it keeps what can be
asked afterwards: the counters, what became of each packet that went to the sink, and the events,
all in the order in which they happened.
-/

namespace SmbExchange

/-- What a session is told once and for all. -/
structure Settings where
  /-- Signatures of responses are checked. -/
  verifyReceived : Bool
  /-- The process id put into requests. -/
  processId : UInt16
  /-- How long a response is waited for, in milliseconds. -/
  responseWait : Nat
  /-- How long one poll waits, in milliseconds. -/
  pollWait : Nat
  /-- The capacity of new packets. -/
  bufferSize : Nat
  /-- Each response is logged in words. -/
  dumpPackets : Bool
  deriving DecidableEq, Repr

structure Session (τ : Type) where
  transport : τ
  /-- Where unsolicited packets go. -/
  sink : Sink
  settings : Settings
  /-- The user id put into requests. -/
  userId : UInt16
  /-- The next multiplex id to be drawn; zero is passed over. -/
  nextMultiplexId : UInt16
  /-- What signs requests, once signing is enabled. -/
  signer : Option Signer
  /-- The sequence number of the next signature. -/
  sequence : UInt32
  hasSent : Bool
  metrics : Metrics
  /-- What became of the packets that went to the sink. -/
  deliveries : List Delivery
  events : List Event

namespace Session

variable {τ : Type}

def new (transport : τ) (sink : Sink) (settings : Settings) : Session τ where
  transport := transport
  sink := sink
  settings := settings
  userId := 0
  nextMultiplexId := 1
  signer := none
  sequence := 0
  hasSent := false
  metrics := .zero
  deliveries := []
  events := []

def log (session : Session τ) (events : List Event) : Session τ :=
  { session with events := session.events ++ events }

def count (session : Session τ) (step : Metrics → Metrics) : Session τ :=
  { session with metrics := step session.metrics }

/-- Signs all further requests, from a sequence number on. -/
def enableSigning (session : Session τ) (signer : Signer) (sequence : UInt32) : Session τ :=
  { session with signer := some signer, sequence := sequence }.log [.signingEnabled sequence]

/-- Signs no more.  The sequence number stays. -/
def disableSigning (session : Session τ) : Session τ :=
  { session with signer := none }

def setUserId (session : Session τ) (userId : UInt16) : Session τ :=
  { session with userId := userId }

def newPacket (session : Session τ) : Except Fault Packet :=
  Packet.withCapacity session.settings.bufferSize

/-- Draws a multiplex id.  The ids go round and leave out zero. -/
def drawMultiplexId (session : Session τ) : UInt16 × Session τ :=
  let drawn := if session.nextMultiplexId = 0 then 1 else session.nextMultiplexId
  (drawn, { session with nextMultiplexId := drawn + 1 })

def deliver (session : Session τ) (packet : Packet) : Session τ :=
  let delivery := session.sink.process packet
  { session with
    metrics := (session.metrics.diverted).unhandled delivery.unhandled
    deliveries := session.deliveries ++ [delivery]
    events := session.events ++ delivery.events }

def close [Transport τ] (session : Session τ) : Except Fault Unit × Session τ :=
  let closed := Transport.close session.transport
  (closed.1, { session with transport := closed.2 })

end Session

end SmbExchange
