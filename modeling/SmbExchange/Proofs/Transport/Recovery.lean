import SmbExchange.Proofs.Transport.Delivery
import SmbExchange.Proofs.Transport.Progress

/-!
# Receiving after a failure

A message that is too long is refused in one of two places.  If the framing lets it
pass and only the room is too small, its frame is taken off the stream and the next
receive finds what follows.  If it exceeds the limit of the framing, the fault is the
same, but its header stays at the front of the buffer and nothing is received any more.
-/

namespace SmbExchange

namespace Connection

open SmbExchange.Frame (Whole)
open Taped (messages)

/-! ## A header that stays -/

/-- A refused header stands at the front of the bytes that have come. -/
def Blocked (fault : Fault) (connection : Connection) : Prop :=
  connection.framing.Refuses fault (connection.reader.buffer ++ connection.pipe.incoming)

variable {connection : Connection} {fault : Fault}

theorem Blocked.of_follows (hblocked : connection.Blocked fault) {pipe : Pipe}
    (hfollows : connection.pipe.Follows pipe) :
    Blocked fault { connection with pipe := pipe } := by
  obtain ⟨more, hmore⟩ := hfollows.incoming_eq
  rw [Blocked, hmore, ← List.append_assoc]
  exact Framing.Refuses.append hblocked more

/-- A refused header stays where it is. -/
theorem lasts_blocked (fault : Fault) : Lasts (Blocked fault) where
  afterPoll connection hblocked := by
    obtain ⟨-, hsame⟩ := connection.pollTakes_polled.of_refuses hblocked
    change connection.framing.Refuses fault (_ ++ _)
    rw [afterPoll, hsame]
    exact hblocked
  of_follows _ _ hblocked hfollows := hblocked.of_follows hfollows

theorem messages_next_of_blocked (hblocked : connection.Blocked fault) (wait : Nat) :
    messages (connection.next wait).arrival = [] := by
  have hstream : connection.framing.Refuses fault connection.stream := by
    rw [stream, Pipe.coming, Pipe.readable, ← List.append_assoc]
    exact Framing.Refuses.append hblocked _
  exact ((takes_next connection wait).of_refuses hstream).1

/-! ## What happens to a connection -/

/-- Something that this end does with a connection or that befalls it. -/
inductive Move where
  | next (wait : Nat)
  | write (bytes : Bytes)
  | close
  | schedule (delay : Nat) (action : PeerAction)
  | sleep (duration : Nat)
  | look

def move (connection : Connection) : Move → Connection
  | .next wait => (connection.next wait).transport
  | .write bytes => (connection.write bytes).2
  | .close => connection.close.2
  | .schedule delay action => connection.mapPipe (·.schedule delay action)
  | .sleep duration => connection.mapPipe (·.sleep duration)
  | .look => connection.mapPipe fun pipe => pipe.look.2

def moves (connection : Connection) (moves : List Move) : Connection :=
  moves.foldl move connection

/-- A fresh connection comes to this one, whatever its limit is. -/
def Reachable (connection : Connection) : Prop :=
  ∃ (limit : Nat) (moves : List Move), (new limit).moves moves = connection

/-- A move is a wait, or it changes the pipe alone. -/
theorem move_cases (connection : Connection) (move : Move) :
    (∃ wait, connection.move move = (connection.next wait).transport) ∨
      ∃ pipe, connection.pipe.Follows pipe ∧
        connection.move move = { connection with pipe := pipe } := by
  cases move with
  | next wait => exact .inl ⟨wait, rfl⟩
  | write bytes => exact .inr ⟨_, connection.pipe.follows_write bytes, rfl⟩
  | close => exact .inr ⟨{ connection.pipe with closed := true }, .of_same rfl rfl, rfl⟩
  | schedule delay action => exact .inr ⟨_, connection.pipe.follows_schedule delay action, rfl⟩
  | sleep duration => exact .inr ⟨_, connection.pipe.follows_sleep duration, rfl⟩
  | look => exact .inr ⟨connection.pipe.look.2, .of_same rfl rfl, rfl⟩

theorem Lasts.move {holds : Connection → Prop} (hlasts : Lasts holds) (connection : Connection)
    (move : Move) (hstart : holds connection) : holds (connection.move move) := by
  rcases connection.move_cases move with ⟨wait, hmove⟩ | ⟨pipe, hfollows, hmove⟩
  · rw [hmove]
    exact hlasts.next connection wait hstart
  · rw [hmove]
    exact hlasts.of_follows connection pipe hstart hfollows

/-- What lasts holds whatever happens. -/
theorem Lasts.moves {holds : Connection → Prop} (hlasts : Lasts holds) (connection : Connection)
    (moves : List Move) (hstart : holds connection) : holds (connection.moves moves) := by
  induction moves generalizing connection with
  | nil => exact hstart
  | cons move moves ih => exact ih _ (hlasts.move connection move hstart)

/-- Whatever has happened to a connection, the marks of its reader are right. -/
theorem Reachable.sound (hreachable : connection.Reachable) : connection.Sound := by
  obtain ⟨limit, moves, rfl⟩ := hreachable
  exact lasts_sound.moves (new limit) moves (sound_new limit)

/-! ## What a failure leaves -/

/-- A wait leaves the mark of a refusal only when it fails, and then a header was refused or the
stream has ended. -/
theorem refusals_waitUntil (hsound : connection.Sound) (deadline skipped : Nat) :
    ((∀ fault, (connection.waitUntil deadline skipped).arrival ≠ .failed fault) →
        (connection.waitUntil deadline skipped).transport.reader.errored = false) ∧
      ∀ fault, (connection.waitUntil deadline skipped).arrival = .failed fault →
        (connection.waitUntil deadline skipped).transport.Blocked fault ∧
            (connection.waitUntil deadline skipped).transport.reader.errored = true ∨
          fault.EndsStream := by
  induction connection, skipped using waitUntil_induction deadline with
  | arrives connection skipped harrival =>
    rw [waitUntil_of_arrival skipped harrival]
    -- A reader that was refused a frame before this wait only says that the stream has ended.
    cases herrored : connection.reader.errored with
    | true =>
      rw [polled_of_errored herrored]
      exact ⟨fun hnone => absurd rfl (hnone .connectionClosed),
        fun _ hfailed => .inr (.inl (Arrival.failed.inj hfailed).symm)⟩
    | false =>
      have hpolled := exhausts_polled hsound herrored
      constructor
      · intro hnone
        cases hfound : connection.polled.arrival with
        | message payload => exact (hpolled.of_message (by rw [hfound]; simp [messages])).2
        | nothing => exact absurd hfound harrival
        | failed fault => exact absurd hfound (hnone fault)
      · intro fault hfailed
        rcases hpolled.of_failed fault hfailed with ⟨hrefused, hmarked⟩ | ⟨-, -, hend⟩
        · exact .inl ⟨hrefused.append _, hmarked⟩
        · exact .inr hend
  | expires connection skipped hnothing hadvance =>
    rw [waitUntil_of_expired skipped hnothing hadvance]
    refine ⟨fun _ => ?_, fun _ hfailed => by simp at hfailed⟩
    cases herrored : connection.reader.errored with
    | true => exact absurd hnothing (by rw [polled_of_errored herrored]; simp)
    | false => exact ((exhausts_polled hsound herrored).of_nothing hnothing).1
  | advances connection skipped later hnothing hadvance ih =>
    rw [waitUntil_of_advance skipped hnothing hadvance]
    exact ih ((sound_afterPoll hsound).of_follows (Pipe.follows_advance hadvance))

theorem clear_next (hsound : connection.Sound) {wait : Nat}
    (hnone : ∀ fault, (connection.next wait).arrival ≠ .failed fault) :
    (connection.next wait).transport.reader.errored = false :=
  (refusals_waitUntil hsound (connection.pipe.clock + wait) 0).1 hnone

theorem blocked_or_ended_next (hsound : connection.Sound) {wait : Nat}
    (hfailed : (connection.next wait).arrival = .failed fault) :
    (connection.next wait).transport.Blocked fault ∧
        (connection.next wait).transport.reader.errored = true ∨ fault.EndsStream :=
  (refusals_waitUntil hsound (connection.pipe.clock + wait) 0).2 fault hfailed

/-! ## The next receive -/

/-- The next message is received if its frame arrives in time behind keep-alives and its
length is within the limit and the room. -/
def ReceivesNext (connection : Connection) : Prop :=
  ∀ (room wait : Nat) (front : List Whole) (frame : Whole) (rest : Bytes),
    (∀ other ∈ front, other.kind = Frame.keepAliveKind) → frame.kind = Frame.messageKind →
    frame.payload.length ≤ connection.framing.limit → frame.payload.length ≤ room →
    connection.arrivingBy (connection.pipe.clock + wait) =
      Whole.stream front ++ frame.bytes ++ rest →
    (Transport.receive connection room wait).arrival = .message frame.payload

/-- No message is received any more, whatever happens. -/
def ReceivesNothing (connection : Connection) : Prop :=
  ∀ (moves : List Move) (room wait : Nat) (payload : Bytes),
    (Transport.receive (connection.moves moves) room wait).arrival ≠ .message payload

theorem receivesNext_of_clear (hsound : connection.Sound)
    (hclear : connection.reader.errored = false) : connection.ReceivesNext := by
  intro room wait front frame rest hfront hkind hlimit hroom harriving
  have htakes := (Framing.Takes.keepAlives hfront (frame.bytes ++ rest)).trans
    (Framing.Takes.message hkind hlimit rest)
  have houtcome := Framing.outcome_decode_of_takes htakes
  rw [← List.append_assoc, ← harriving] at houtcome
  exact Transport.arrival_receive_of_fits (arrival_next_of_arrivingBy hsound hclear houtcome)
    hroom

theorem receivesNothing_of_blocked (hblocked : connection.Blocked fault) :
    connection.ReceivesNothing := by
  intro moves room wait payload hreceived
  have hnone := messages_next_of_blocked
    ((lasts_blocked fault).moves connection moves hblocked) wait
  have hnext : ((connection.moves moves).next wait).arrival = .message payload :=
    (Transport.next_of_arrival_receive hreceived).1
  rw [hnext] at hnone
  exact absurd hnone (by simp [messages])

theorem arrival_receive_of_errored (herrored : connection.reader.errored = true)
    (room wait : Nat) :
    (Transport.receive connection room wait).arrival = .failed .connectionClosed := by
  have hpolled := polled_of_errored herrored
  have hnext : (Transport.next connection wait).arrival = .failed .connectionClosed := by
    change (connection.waitUntil (connection.pipe.clock + wait) 0).arrival = _
    rw [waitUntil_of_arrival 0 (by simp [hpolled]), hpolled]
  rw [Transport.arrival_receive_of_no_message room (by simp [hnext]), hnext]

/-- A wait that comes to a message has taken its frame off the stream, and the next one can be
received. -/
theorem receivesNext_of_message (hsound : connection.Sound) {wait : Nat} {payload : Bytes}
    (hnext : (connection.next wait).arrival = .message payload) :
    payload.length ≤ connection.framing.limit ∧
      connection.framing.Takes connection.stream (connection.next wait).skipped [payload]
        (connection.next wait).transport.stream ∧
      (connection.next wait).transport.ReceivesNext := by
  have htakes := takes_next connection wait
  rw [hnext] at htakes
  have hclear := clear_next hsound (by rw [hnext]; simp)
  exact ⟨htakes.length_le payload (List.mem_singleton_self payload), htakes,
    receivesNext_of_clear (lasts_sound.next connection wait hsound) hclear⟩

/-- A wait that fails without breaking the connection has refused a length, and nothing can be
received any more. -/
theorem receivesNothing_of_failed (hsound : connection.Sound) {wait : Nat}
    (hnext : (connection.next wait).arrival = .failed fault)
    (husable : fault.isTransportFailure = false) :
    ∃ length, fault = .oversizedPacket length ∧ connection.framing.limit < length ∧
      (connection.next wait).transport.Blocked fault ∧
      (connection.next wait).transport.ReceivesNothing ∧
      ∀ room wait', (Transport.receive (connection.next wait).transport room wait').arrival =
        .failed .connectionClosed := by
  rcases blocked_or_ended_next hsound hnext with ⟨hblocked, herrored⟩ | hend
  · rcases hblocked.fault_cases with hkind | ⟨length, hlength, hbeyond⟩
    · rw [hkind] at husable
      exact absurd husable (by decide)
    · rw [framing_next connection wait] at hbeyond
      exact ⟨length, hlength, hbeyond, hblocked, receivesNothing_of_blocked hblocked,
        arrival_receive_of_errored herrored⟩
  · exact absurd (hend.isTransportFailure.symm.trans husable) (by simp)

/-- A receive that fails without breaking the connection reports a message that is too long,
and the limit of the framing decides what comes of it.  A message within the limit was taken
off the stream with its whole frame, and the next one is received.  A message beyond the limit
is still there: the next receive says that the connection is closed, and none comes to a message
any more. -/
theorem receive_after_usable_failure {after : Connection} {events : List Event} {room wait : Nat}
    (hreachable : connection.Reachable) (husable : fault.isTransportFailure = false)
    (hfailed : Transport.receive connection room wait = ⟨.failed fault, after, events⟩) :
    ∃ length, fault = .oversizedPacket length ∧
      (length ≤ connection.framing.limit →
        (∃ skipped payload, payload.length = length ∧
          connection.framing.Takes connection.stream skipped [payload] after.stream) ∧
        after.ReceivesNext) ∧
      (connection.framing.limit < length →
        after.Blocked fault ∧ after.ReceivesNothing ∧
          ∀ room wait, (Transport.receive after room wait).arrival =
            .failed .connectionClosed) := by
  have harrival : (Transport.receive connection room wait).arrival = .failed fault := by
    rw [hfailed]
  have hafter : (connection.next wait).transport = after := by
    change (Transport.next connection wait).transport = after
    rw [← Transport.transport_receive connection room wait, hfailed]
  rw [← hafter]
  rcases Transport.arrival_receive_cases connection room wait with
    hsame | ⟨payload, hnext, hlong, hrefused⟩
  · obtain ⟨length, hlength, hbeyond, hstays⟩ :=
      receivesNothing_of_failed hreachable.sound (hsame.symm.trans harrival) husable
    exact ⟨length, hlength, fun hwithin => absurd hwithin (Nat.not_le.mpr hbeyond),
      fun _ => hstays⟩
  · obtain ⟨hwithin, htakes, hreceives⟩ := receivesNext_of_message hreachable.sound hnext
    rw [harrival, Arrival.failed.injEq] at hrefused
    exact ⟨payload.length, hrefused, fun _ => ⟨⟨_, payload, rfl, htakes⟩, hreceives⟩,
      fun hbeyond => absurd hwithin (Nat.not_le.mpr hbeyond)⟩

/-- A message within the limit that the room is too small for, then a keep-alive and a message
that is received. -/
theorem receive_after_small_room :
    let long : Bytes := [0, 0, 0, 100] ++ List.replicate 100 7
    let connection := (new 1000).moves
      [.schedule 0 (.send (long ++ [0x85, 0, 0, 0] ++ [0, 0, 0, 2, 8, 9]))]
    let failed := Transport.receive connection 64 50
    failed.arrival = .failed (.oversizedPacket 100) ∧
      (Transport.receive failed.transport 64 50).arrival = .message [8, 9] := by
  intro long connection failed
  have harrival : failed.arrival = .failed (.oversizedPacket 100) := by decide +kernel
  have hfailed : Transport.receive connection 64 50 =
      ⟨.failed (.oversizedPacket 100), failed.transport, failed.events⟩ := by
    rw [← harrival]
  have hreachable : connection.Reachable := ⟨1000, _, rfl⟩
  obtain ⟨length, hlength, hwithin, -⟩ :=
    receive_after_usable_failure hreachable (by decide) hfailed
  rw [Fault.oversizedPacket.injEq] at hlength
  obtain ⟨-, hnext⟩ := hwithin (hlength ▸ by decide)
  refine ⟨harrival, ?_⟩
  exact hnext 64 50 [⟨0x85, 0, 0, 0, [], rfl⟩] ⟨0, 0, 0, 2, [8, 9], rfl⟩ [] (by decide) rfl
    (by decide +kernel) (by decide) (by decide +kernel)

/-- The same message beyond the limit, then a message within the limit and the room.  Nothing
is taken off the stream, and the connection is said to be closed. -/
theorem receive_after_beyond_limit :
    let long : Bytes := [0, 0, 0, 100] ++ List.replicate 100 7
    let connection := (new 64).moves [.schedule 0 (.send (long ++ [0, 0, 0, 2, 8, 9]))]
    let failed := Transport.receive connection 200 50
    failed.arrival = .failed (.oversizedPacket 100) ∧
      (Fault.oversizedPacket 100).isTransportFailure = false ∧
      failed.transport.stream = long ++ [0, 0, 0, 2, 8, 9] ∧
      (Transport.receive failed.transport 200 50).arrival = .failed .connectionClosed ∧
      (Transport.receive failed.transport 200 50).arrival ≠ .message [8, 9] := by
  decide +kernel

end Connection

end SmbExchange
