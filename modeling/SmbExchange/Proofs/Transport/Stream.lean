import SmbExchange.Proofs.Frame.Decoding
import SmbExchange.Proofs.Transport.Tape
import SmbExchange.Transport.Connection

/-!
# The stream of a connection

The bytes that a connection has still to decode are in its reader, in its pipe
or not written yet.  Put together they are one stream.  Whatever happens, a wait
takes whole frames off the front of this stream: keep-alives, and the message
that it comes to, if it comes to one.  Time that passes takes nothing.
-/

namespace SmbExchange

namespace Pipe

/-- What actions write, one after the other, until one of them ends the writing. -/
def written : List (Nat × PeerAction) → Bytes
  | [] => []
  | (_, .send bytes) :: actions => bytes ++ written actions
  | (_, .shutdown) :: _ => []
  | (_, .leave) :: _ => []

/-- What can be read off a pipe when actions happen. -/
def readable (pipe : Pipe) (actions : List (Nat × PeerAction)) : Bytes :=
  pipe.incoming ++ if pipe.ended then [] else written actions

/-- The bytes that are there to be read or still to be written. -/
def coming (pipe : Pipe) : Bytes :=
  pipe.readable pipe.agenda

/-- A peer that only writes writes its chunks one behind the other. -/
theorem written_chunks (chunks : List (Nat × Bytes)) :
    written (chunks.map fun chunk => (chunk.1, .send chunk.2)) = chunks.flatMap Prod.snd := by
  induction chunks with
  | nil => rfl
  | cons chunk chunks ih => rw [List.map_cons, written, ih, List.flatMap_cons]

theorem readable_act (pipe : Pipe) (due : Nat) (action : PeerAction)
    (actions : List (Nat × PeerAction)) :
    (pipe.act action).readable actions = pipe.readable ((due, action) :: actions) := by
  cases action with
  | send bytes =>
    cases hended : pipe.ended with
    | true => simp [act, readable, hended]
    | false => simp [act, readable, hended, written]
  | shutdown => simp [act, readable, written]
  | leave => simp [act, readable, written]

/-- The next action that is due moves from the agenda to the pipe. -/
theorem exists_of_advance? {pipe after : Pipe} {deadline : Nat}
    (hadvance : pipe.advance? deadline = some after) :
    ∃ due action, pipe.agenda = (due, action) :: after.agenda ∧ due ≤ deadline ∧
      ∀ actions, after.readable actions = pipe.readable ((due, action) :: actions) := by
  rw [advance?] at hadvance
  split at hadvance
  · simp at hadvance
  · rename_i due action rest hagenda
    split at hadvance
    · rename_i hdue
      rw [Option.some.injEq] at hadvance
      subst hadvance
      refine ⟨due, action, ?_, hdue, ?_⟩
      · rw [agenda_act, hagenda]
      · intro actions
        exact readable_act _ due action actions
    · simp at hadvance

theorem coming_advance {pipe after : Pipe} {deadline : Nat}
    (hadvance : pipe.advance? deadline = some after) : after.coming = pipe.coming := by
  obtain ⟨due, action, hagenda, -, hreadable⟩ := exists_of_advance? hadvance
  rw [coming, hreadable, ← hagenda, coming]

theorem readable_foldl_act (pipe : Pipe) (due actions : List (Nat × PeerAction)) :
    (due.foldl (fun changed entry => changed.act entry.2) pipe).readable actions =
      pipe.readable (due ++ actions) := by
  induction due generalizing pipe with
  | nil => rfl
  | cons entry due ih =>
    rw [List.foldl_cons, ih, readable_act pipe entry.1]
    rfl

theorem agenda_foldl_act (pipe : Pipe) (due : List (Nat × PeerAction)) :
    (due.foldl (fun changed entry => changed.act entry.2) pipe).agenda = pipe.agenda := by
  induction due generalizing pipe with
  | nil => rfl
  | cons entry due ih => rw [List.foldl_cons, ih, agenda_act]

theorem coming_sleepUntil (pipe : Pipe) (deadline : Nat) :
    (pipe.sleepUntil deadline).coming = pipe.coming := by
  let due := pipe.agenda.takeWhile (·.1 ≤ deadline)
  let left : Pipe := { pipe with agenda := pipe.agenda.drop due.length }
  have hall : due ++ pipe.agenda.drop due.length = pipe.agenda :=
    List.prefix_iff_eq_append.mp (List.takeWhile_prefix _)
  calc
    (pipe.sleepUntil deadline).coming =
        (due.foldl (fun changed entry => changed.act entry.2) left).coming := rfl
    _ = left.readable (due ++ left.agenda) := by
      rw [coming, agenda_foldl_act, readable_foldl_act]
    _ = pipe.coming := by
      change pipe.readable (due ++ pipe.agenda.drop due.length) = _
      rw [hall, coming]

/-! ## What a pipe may become -/

/-- Bytes have only come behind those that were there, and none behind the end. -/
structure Follows (before after : Pipe) : Prop where
  incoming_eq : ∃ more, after.incoming = before.incoming ++ more
  of_ended : before.ended = true → after.ended = true ∧ after.incoming = before.incoming

theorem Follows.of_same {before after : Pipe} (hincoming : after.incoming = before.incoming)
    (hended : after.ended = before.ended) : before.Follows after :=
  ⟨⟨[], by rw [hincoming, List.append_nil]⟩, fun hclosed => ⟨hended.trans hclosed, hincoming⟩⟩

theorem Follows.trans {first middle last : Pipe} (hfirst : first.Follows middle)
    (hsecond : middle.Follows last) : first.Follows last := by
  obtain ⟨more, hmore⟩ := hfirst.incoming_eq
  obtain ⟨others, hothers⟩ := hsecond.incoming_eq
  refine ⟨⟨more ++ others, ?_⟩, fun hended => ?_⟩
  · rw [hothers, hmore, List.append_assoc]
  · obtain ⟨hended', hsame⟩ := hfirst.of_ended hended
    obtain ⟨hended'', hsame'⟩ := hsecond.of_ended hended'
    exact ⟨hended'', hsame'.trans hsame⟩

theorem follows_act (pipe : Pipe) (action : PeerAction) : pipe.Follows (pipe.act action) := by
  cases action with
  | send bytes =>
    rw [act]
    split
    · exact .of_same rfl rfl
    · rename_i hopen
      exact ⟨⟨bytes, rfl⟩, fun hended => absurd hended hopen⟩
  | shutdown => exact ⟨⟨[], (List.append_nil _).symm⟩, fun _ => ⟨rfl, rfl⟩⟩
  | leave => exact ⟨⟨[], (List.append_nil _).symm⟩, fun _ => ⟨rfl, rfl⟩⟩

theorem follows_foldl_act (pipe : Pipe) (actions : List (Nat × PeerAction)) :
    pipe.Follows (actions.foldl (fun changed entry => changed.act entry.2) pipe) := by
  induction actions generalizing pipe with
  | nil => exact .of_same rfl rfl
  | cons entry actions ih => exact (follows_act pipe entry.2).trans (ih (pipe.act entry.2))

theorem follows_sleep (pipe : Pipe) (duration : Nat) : pipe.Follows (pipe.sleep duration) := by
  let due := pipe.agenda.takeWhile (·.1 ≤ pipe.clock + duration)
  have hacted := follows_foldl_act { pipe with agenda := pipe.agenda.drop due.length } due
  exact ⟨hacted.incoming_eq, hacted.of_ended⟩

theorem follows_schedule (pipe : Pipe) (delay : Nat) (action : PeerAction) :
    pipe.Follows (pipe.schedule delay action) := by
  rw [schedule.eq_def]
  split
  · exact follows_act pipe action
  · exact .of_same rfl rfl

theorem follows_write (pipe : Pipe) (bytes : Bytes) : pipe.Follows (pipe.write bytes).2 := by
  rw [write]
  split <;> exact .of_same rfl rfl

theorem follows_advance {pipe after : Pipe} {deadline : Nat}
    (hadvance : pipe.advance? deadline = some after) : pipe.Follows after := by
  rw [advance?] at hadvance
  split at hadvance
  · simp at hadvance
  · rename_i due action rest hagenda
    split at hadvance
    · rw [← Option.some.inj hadvance]
      have hacted := follows_act { pipe with clock := max pipe.clock due, agenda := rest } action
      exact ⟨hacted.incoming_eq, hacted.of_ended⟩
    · simp at hadvance

end Pipe

/-! ## Reading -/

namespace Framing

theorem takes_decodeEnd (framing : Framing) (bytes : Bytes) :
    framing.Takes bytes (framing.decodeEnd bytes).skipped
      (framing.decodeEnd bytes).outcome.messages (framing.decodeEnd bytes).rest := by
  simp only [decodeEnd]
  split
  · rename_i hwaiting
    split
    · exact framing.takes_decode bytes
    · exact (takes_decode_of_outcome hwaiting :)
  · exact framing.takes_decode bytes

end Framing

namespace FrameReader

open Taped (messages)

variable (framing : Framing) (reader : FrameReader) (incoming : Bytes) (ended : Bool)

/-- What a scan decodes. -/
def found : Framing.Decoded :=
  if reader.eof then framing.decodeEnd reader.buffer else framing.decode reader.buffer

def arrivalOf : Framing.Outcome → Arrival
  | .message payload => .message payload
  | .failed fault => .failed fault
  | .waiting => if reader.eof then .failed .connectionClosed else .nothing

theorem skipped_scan : (scan framing reader incoming).skipped = (reader.found framing).skipped := by
  rw [scan, found]
  split <;> rfl

theorem buffer_scan :
    (scan framing reader incoming).reader.buffer = (reader.found framing).rest := by
  rw [scan, found]
  split <;> rfl

theorem arrival_scan :
    (scan framing reader incoming).arrival = reader.arrivalOf (reader.found framing).outcome := by
  rw [scan, found]
  split <;> simp_all [arrivalOf]

theorem messages_arrivalOf (outcome : Framing.Outcome) :
    messages (reader.arrivalOf outcome) = outcome.messages := by
  cases outcome with
  | message payload => rfl
  | failed fault => rfl
  | waiting =>
    rw [arrivalOf]
    split <;> rfl

/-- A scan takes whole frames off the bytes at hand. -/
theorem takes_scan :
    framing.Takes reader.buffer (scan framing reader incoming).skipped
      (messages (scan framing reader incoming).arrival)
      (scan framing reader incoming).reader.buffer := by
  rw [skipped_scan, buffer_scan, arrival_scan, messages_arrivalOf, found]
  split
  · exact framing.takes_decodeEnd reader.buffer
  · exact framing.takes_decode reader.buffer

/-- Whatever a poll comes to, it takes whole frames off the bytes at hand and the bytes that
the stream holds. -/
def PollTakes (polled : Polled) : Prop :=
  framing.Takes (reader.buffer ++ incoming) polled.skipped (messages polled.arrival)
    (polled.reader.buffer ++ polled.incoming)

variable {framing reader incoming ended}

theorem pollTakes_scan :
    PollTakes framing reader incoming (scan framing reader incoming) := by
  rw [PollTakes, scan_incoming]
  exact (takes_scan framing reader incoming).append incoming

theorem PollTakes.after {first second : Polled} (hnothing : first.arrival = .nothing)
    (hfirst : PollTakes framing reader incoming first)
    (hsecond : PollTakes framing first.reader first.incoming second) :
    PollTakes framing reader incoming (second.after first.skipped) := by
  rw [PollTakes, hnothing] at hfirst
  exact hfirst.trans hsecond

theorem pollTakes_drain : PollTakes framing reader [] (drain framing reader ended) := by
  rw [drain]
  split
  · exact .refl framing _
  · split
    · exact .refl framing _
    · exact pollTakes_scan

/-- It makes no difference how many of the bytes that a stream holds were read before. -/
theorem PollTakes.of_read {polled : Polled} {count : Nat}
    (hread : PollTakes framing (reader.read (incoming.take count)) (incoming.drop count) polled) :
    PollTakes framing reader incoming polled := by
  have hsame : (reader.read (incoming.take count)).buffer ++ incoming.drop count =
      reader.buffer ++ incoming := by
    rw [read, List.append_assoc, List.take_append_drop]
  rw [PollTakes, hsame] at hread
  exact hread

theorem pollTakes_fill :
    PollTakes framing reader incoming (fill framing reader incoming ended) := by
  fun_induction fill framing reader incoming ended with
  | case1 reader ready => exact pollTakes_drain
  | case2 reader incoming ready hsome found hnothing ih =>
    have hscan : PollTakes framing (ready.read (incoming.take ready.room))
        (incoming.drop ready.room) found := pollTakes_scan
    have hincoming : found.incoming = incoming.drop ready.room := scan_incoming ..
    rw [← hincoming] at ih
    have hboth : PollTakes framing ready incoming
        ((fill framing found.reader found.incoming ended).after found.skipped) :=
      (hscan.after hnothing ih).of_read
    rw [hincoming] at hboth
    exact hboth
  | case3 reader incoming ready hsome found harrival => exact pollTakes_scan.of_read

theorem pollTakes_poll :
    PollTakes framing reader incoming (poll framing reader incoming ended) := by
  rw [poll]
  split
  · exact .refl framing _
  · split
    · simp only
      split
      · rename_i hnothing
        refine PollTakes.after hnothing pollTakes_scan ?_
        rw [scan_incoming]
        exact pollTakes_fill
      · exact pollTakes_scan
    · exact pollTakes_fill

end FrameReader

/-! ## Waiting -/

namespace Connection

open Taped (messages)

/-- What a wait comes to at first: a poll of the reader. -/
def polled (connection : Connection) : FrameReader.Polled :=
  connection.reader.poll connection.framing connection.pipe.incoming connection.pipe.ended

def afterPoll (connection : Connection) : Connection :=
  ⟨connection.framing, connection.polled.reader,
    { connection.pipe with incoming := connection.polled.incoming }⟩

variable {connection : Connection} {deadline : Nat}

theorem waitUntil_of_arrival (skipped : Nat) (harrival : connection.polled.arrival ≠ .nothing) :
    connection.waitUntil deadline skipped =
      ⟨skipped + connection.polled.skipped, connection.polled.arrival, connection.afterPoll⟩ := by
  rw [waitUntil]
  exact if_neg harrival

theorem waitUntil_of_expired (skipped : Nat) (hnothing : connection.polled.arrival = .nothing)
    (hadvance : connection.afterPoll.pipe.advance? deadline = none) :
    connection.waitUntil deadline skipped =
      ⟨skipped + connection.polled.skipped, .nothing, connection.afterPoll.mapPipe fun pipe =>
        { pipe with clock := max pipe.clock deadline }⟩ := by
  rw [waitUntil]
  refine (if_pos hnothing).trans ?_
  split
  · rfl
  · rename_i later hlater
    exact absurd (hadvance.symm.trans hlater) (by simp)

theorem waitUntil_of_advance {later : Pipe} (skipped : Nat)
    (hnothing : connection.polled.arrival = .nothing)
    (hadvance : connection.afterPoll.pipe.advance? deadline = some later) :
    connection.waitUntil deadline skipped =
      Connection.waitUntil { connection.afterPoll with pipe := later } deadline
        (skipped + connection.polled.skipped) := by
  rw [waitUntil]
  refine (if_pos hnothing).trans ?_
  split
  · rename_i hnone
    exact absurd (hadvance.symm.trans hnone) (by simp)
  · rename_i other hother
    rw [← Option.some.inj (hadvance.symm.trans hother)]
    rfl

/-- Induction on a wait: it comes to an arrival, its time is over, or time moves on to the next
action of the peer. -/
theorem waitUntil_induction (deadline : Nat) {motive : Connection → Nat → Prop}
    (arrives : ∀ connection skipped, connection.polled.arrival ≠ .nothing →
      motive connection skipped)
    (expires : ∀ connection skipped, connection.polled.arrival = .nothing →
      connection.afterPoll.pipe.advance? deadline = none → motive connection skipped)
    (advances : ∀ connection skipped later, connection.polled.arrival = .nothing →
      connection.afterPoll.pipe.advance? deadline = some later →
      motive { connection.afterPoll with pipe := later }
        (skipped + connection.polled.skipped) →
      motive connection skipped)
    (connection : Connection) (skipped : Nat) : motive connection skipped :=
  waitUntil.induct deadline motive
    (fun connection skipped hnothing hadvance => expires connection skipped hnothing hadvance)
    (fun connection skipped hnothing later hadvance =>
      advances connection skipped later hnothing hadvance)
    (fun connection skipped harrival => arrives connection skipped harrival) connection skipped

/-- The bytes that a connection has still to decode, those that are not written yet included. -/
def stream (connection : Connection) : Bytes :=
  connection.reader.buffer ++ connection.pipe.coming

theorem pollTakes_polled (connection : Connection) :
    FrameReader.PollTakes connection.framing connection.reader connection.pipe.incoming
      connection.polled :=
  FrameReader.pollTakes_poll

/-- Whatever the peer goes on to do, a poll takes whole frames off the bytes there will be. -/
theorem takes_polled (connection : Connection) (actions : List (Nat × PeerAction)) :
    connection.framing.Takes (connection.reader.buffer ++ connection.pipe.readable actions)
      connection.polled.skipped (messages connection.polled.arrival)
      (connection.afterPoll.reader.buffer ++ connection.afterPoll.pipe.readable actions) := by
  have hstream := connection.pollTakes_polled.append
    (if connection.pipe.ended then [] else Pipe.written actions)
  rw [List.append_assoc, List.append_assoc] at hstream
  exact hstream

theorem takes_afterPoll (connection : Connection) :
    connection.framing.Takes connection.stream connection.polled.skipped
      (messages connection.polled.arrival) connection.afterPoll.stream :=
  connection.takes_polled connection.pipe.agenda

theorem takes_waitUntil (connection : Connection) (deadline skipped : Nat) :
    ∃ dropped, (connection.waitUntil deadline skipped).skipped = skipped + dropped ∧
      connection.framing.Takes connection.stream dropped
        (messages (connection.waitUntil deadline skipped).arrival)
        (connection.waitUntil deadline skipped).transport.stream := by
  induction connection, skipped using waitUntil_induction deadline with
  | arrives connection skipped harrival =>
    rw [waitUntil_of_arrival skipped harrival]
    exact ⟨connection.polled.skipped, rfl, takes_afterPoll connection⟩
  | expires connection skipped hnothing hadvance =>
    have hpolled := takes_afterPoll connection
    rw [hnothing] at hpolled
    rw [waitUntil_of_expired skipped hnothing hadvance]
    exact ⟨connection.polled.skipped, rfl, hpolled⟩
  | advances connection skipped later hnothing hadvance ih =>
    obtain ⟨dropped, hcount, htakes⟩ := ih
    have hpolled := takes_afterPoll connection
    have hcoming : Connection.stream { connection.afterPoll with pipe := later } =
        connection.afterPoll.stream := by
      rw [stream, Pipe.coming_advance hadvance, stream]
    rw [hnothing] at hpolled
    rw [hcoming] at htakes
    rw [waitUntil_of_advance skipped hnothing hadvance]
    refine ⟨connection.polled.skipped + dropped, ?_, hpolled.trans htakes⟩
    rw [hcount, Nat.add_assoc]

/-- A wait takes whole frames off the stream of its connection: the keep-alives that it passes
over, and the message that it comes to. -/
theorem takes_next (connection : Connection) (wait : Nat) :
    connection.framing.Takes connection.stream (connection.next wait).skipped
      (messages (connection.next wait).arrival) (connection.next wait).transport.stream := by
  obtain ⟨dropped, hcount, htakes⟩ :=
    takes_waitUntil connection (connection.pipe.clock + wait) 0
  rw [Nat.zero_add] at hcount
  rw [next, hcount]
  exact htakes

/-- Something that neither polls nor the peer end. -/
structure Lasts (holds : Connection → Prop) : Prop where
  afterPoll : ∀ connection, holds connection → holds connection.afterPoll
  of_follows : ∀ connection pipe, holds connection → connection.pipe.Follows pipe →
    holds { connection with pipe := pipe }

theorem Lasts.waitUntil {holds : Connection → Prop} (hlasts : Lasts holds)
    (connection : Connection) (deadline skipped : Nat) (hstart : holds connection) :
    holds (connection.waitUntil deadline skipped).transport := by
  induction connection, skipped using waitUntil_induction deadline with
  | arrives connection skipped harrival =>
    rw [waitUntil_of_arrival skipped harrival]
    exact hlasts.afterPoll connection hstart
  | expires connection skipped hnothing hadvance =>
    rw [waitUntil_of_expired skipped hnothing hadvance]
    exact hlasts.of_follows _ _ (hlasts.afterPoll connection hstart) (.of_same rfl rfl)
  | advances connection skipped later hnothing hadvance ih =>
    rw [waitUntil_of_advance skipped hnothing hadvance]
    exact ih (hlasts.of_follows _ _ (hlasts.afterPoll connection hstart)
      (Pipe.follows_advance hadvance))

/-- What lasts holds after every wait. -/
theorem Lasts.next {holds : Connection → Prop} (hlasts : Lasts holds) (connection : Connection)
    (wait : Nat) (hstart : holds connection) : holds (connection.next wait).transport :=
  hlasts.waitUntil connection (connection.pipe.clock + wait) 0 hstart

theorem framing_next (connection : Connection) (wait : Nat) :
    (connection.next wait).transport.framing = connection.framing := by
  have hlasts : Lasts fun later => later.framing = connection.framing :=
    ⟨fun _ hsame => hsame, fun _ _ hsame _ => hsame⟩
  exact hlasts.next connection wait rfl

theorem stream_write (connection : Connection) (bytes : Bytes) :
    (connection.write bytes).2.stream = connection.stream := by
  simp only [write, Pipe.write, stream]
  split <;> rfl

/-- Time that passes takes nothing off the stream. -/
theorem stream_sleep (connection : Connection) (duration : Nat) :
    (connection.mapPipe (·.sleep duration)).stream = connection.stream := by
  rw [stream, stream]
  exact congrArg (connection.reader.buffer ++ ·)
    (Pipe.coming_sleepUntil connection.pipe (connection.pipe.clock + duration))

end Connection

end SmbExchange
