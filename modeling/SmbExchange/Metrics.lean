/-!
# Counters

Counts of what happened, kept for the whole process.  Each counter is a 64-bit word and wraps.
-/

namespace SmbExchange

structure Metrics where
  exchangesTotal : UInt64
  exchangesSuccess : UInt64
  exchangesFailed : UInt64
  /-- Packets handed to the sink. -/
  asyncDiverted : UInt64
  /-- Packets handed to the sink that nobody took. -/
  asyncUnhandled : UInt64
  /-- Messages too short for a header. -/
  shortReceives : UInt64
  signatureFailures : UInt64
  messagesSent : UInt64
  messagesReceived : UInt64
  bytesSent : UInt64
  bytesReceived : UInt64
  connectionErrors : UInt64
  /-- Statuses of failure that the server reported. -/
  protocolErrors : UInt64
  deriving DecidableEq, Repr

namespace Metrics

def zero : Metrics :=
  ⟨0, 0, 0, 0, 0, 0, 0, 0, 0, 0, 0, 0, 0⟩

def exchangeStarted (metrics : Metrics) : Metrics :=
  { metrics with exchangesTotal := metrics.exchangesTotal + 1 }

def exchangeSuccess (metrics : Metrics) : Metrics :=
  { metrics with exchangesSuccess := metrics.exchangesSuccess + 1 }

def exchangeFailed (metrics : Metrics) : Metrics :=
  { metrics with exchangesFailed := metrics.exchangesFailed + 1 }

/-- A packet goes to the sink. -/
def diverted (metrics : Metrics) : Metrics :=
  { metrics with asyncDiverted := metrics.asyncDiverted + 1 }

/-- Nobody took `count` packets. -/
def unhandled (metrics : Metrics) (count : UInt64) : Metrics :=
  { metrics with asyncUnhandled := metrics.asyncUnhandled + count }

def shortReceive (metrics : Metrics) : Metrics :=
  { metrics with shortReceives := metrics.shortReceives + 1 }

def signatureFailure (metrics : Metrics) : Metrics :=
  { metrics with signatureFailures := metrics.signatureFailures + 1 }

def messageSent (metrics : Metrics) (length : UInt64) : Metrics :=
  { metrics with
    messagesSent := metrics.messagesSent + 1
    bytesSent := metrics.bytesSent + length }

def messageReceived (metrics : Metrics) (length : UInt64) : Metrics :=
  { metrics with
    messagesReceived := metrics.messagesReceived + 1
    bytesReceived := metrics.bytesReceived + length }

def connectionError (metrics : Metrics) : Metrics :=
  { metrics with connectionErrors := metrics.connectionErrors + 1 }

/-- The server reported a failure. -/
def protocolError (metrics : Metrics) : Metrics :=
  { metrics with protocolErrors := metrics.protocolErrors + 1 }

def counters (metrics : Metrics) : List (String × UInt64) := [
  ("exchanges_total", metrics.exchangesTotal),
  ("exchanges_success", metrics.exchangesSuccess),
  ("exchanges_failed", metrics.exchangesFailed),
  ("async_diverted", metrics.asyncDiverted),
  ("async_unhandled", metrics.asyncUnhandled),
  ("short_receives", metrics.shortReceives),
  ("signature_failures", metrics.signatureFailures),
  ("messages_sent", metrics.messagesSent),
  ("messages_received", metrics.messagesReceived),
  ("bytes_sent", metrics.bytesSent),
  ("bytes_received", metrics.bytesReceived),
  ("connection_errors", metrics.connectionErrors),
  ("protocol_errors", metrics.protocolErrors)]

/-- The counters that moved between two readings, each with how far. -/
def moved (before after : Metrics) : List (String × UInt64) :=
  (before.counters.zip after.counters).filterMap fun (old, new) =>
    if new.2 - old.2 = 0 then none else some (new.1, new.2 - old.2)

end Metrics

end SmbExchange
