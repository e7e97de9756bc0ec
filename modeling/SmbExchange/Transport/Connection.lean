import SmbExchange.Transport.FrameReader
import SmbExchange.Transport.Pipe

/-!
# A connection over a pipe

A connection reads frames off its pipe and writes frames to it.  Waiting for a message polls the
reader; when that comes to nothing, time jumps to the next thing the peer does, until the wait is
over.
-/

namespace SmbExchange

structure Connection where
  framing : Framing
  reader : FrameReader
  pipe : Pipe
  deriving DecidableEq, Repr

namespace Connection

def new (limit : Nat) : Connection :=
  ⟨.ofLimit limit, .new, .new⟩

def mapPipe (connection : Connection) (change : Pipe → Pipe) : Connection :=
  { connection with pipe := change connection.pipe }

def waitUntil (connection : Connection) (deadline skipped : Nat) : Waited Connection :=
  let pipe := connection.pipe
  let polled := connection.reader.poll connection.framing pipe.incoming pipe.ended
  let after : Pipe := { pipe with incoming := polled.incoming }
  let skips := skipped + polled.skipped
  if polled.arrival = .nothing then
    match _ : after.advance? deadline with
    | none =>
      ⟨skips, .nothing, ⟨connection.framing, polled.reader,
        { after with clock := max after.clock deadline }⟩⟩
    | some later => waitUntil ⟨connection.framing, polled.reader, later⟩ deadline skips
  else ⟨skips, polled.arrival, ⟨connection.framing, polled.reader, after⟩⟩
termination_by connection.pipe.agenda.length
decreasing_by
  have hless : later.agenda.length < after.agenda.length :=
    Pipe.length_agenda_advance (by assumption)
  exact hless

def next (connection : Connection) (wait : Nat) : Waited Connection :=
  connection.waitUntil (connection.pipe.clock + wait) 0

def write (connection : Connection) (bytes : Bytes) : Except Fault Unit × Connection :=
  let written := connection.pipe.write bytes
  (written.1, { connection with pipe := written.2 })

/-- Ends writing.  This never fails. -/
def close (connection : Connection) : Except Fault Unit × Connection :=
  (.ok (), connection.mapPipe fun pipe => { pipe with closed := true })

/-- The number of bytes that are still to be decoded. -/
def pending (connection : Connection) : Nat :=
  connection.reader.buffer.length + connection.pipe.pending

theorem pending_waitUntil_lt (connection : Connection) (deadline skipped : Nat) (payload : Bytes)
    (hmessage : (connection.waitUntil deadline skipped).arrival = .message payload) :
    (connection.waitUntil deadline skipped).transport.pending < connection.pending := by
  fun_induction waitUntil connection deadline skipped with
  | case1 => simp at hmessage
  | case2 connection skipped pipe polled after skips hnothing later hadvance ih =>
    have hpolled : polled.left ≤ connection.reader.buffer.length + pipe.incoming.length :=
      (FrameReader.poll_within connection.framing connection.reader pipe.incoming pipe.ended).1
    have hadvanced := Pipe.pending_advance_le hadvance
    have hpending := ih hmessage
    simp only [pending, Pipe.pending, FrameReader.Polled.left] at hpending hadvanced hpolled ⊢
    simp only [after, pipe] at hadvanced hpolled
    omega
  | case3 connection skipped pipe polled after skips hsome =>
    have hpolled : polled.left < connection.reader.buffer.length + pipe.incoming.length :=
      (FrameReader.poll_within connection.framing connection.reader pipe.incoming pipe.ended).2
        payload hmessage
    simp only [pending, Pipe.pending, FrameReader.Polled.left] at hpolled ⊢
    simp only [after, pipe] at hpolled ⊢
    omega

instance : Transport Connection where
  write := write
  next := next
  close := close
  pending := pending
  pending_next_lt connection _ payload hmessage :=
    pending_waitUntil_lt connection _ 0 payload hmessage

end Connection

end SmbExchange
