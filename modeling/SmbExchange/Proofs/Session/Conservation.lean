import SmbExchange.Proofs.Session.Intake
import SmbExchange.Proofs.Transport.Recovery

/-!
# No message is lost

A wait may be given up in the middle of a frame.  The bytes that have arrived by then
stay with the connection, so over any run of operations and pauses the messages that
are taken in are the first messages of the stream, each of them once.
-/

namespace SmbExchange

open SmbExchange.Frame (Whole)

/-! ## What operations keep -/

/-- Whatever is written and waited for, something goes on to hold of a transport. -/
structure Transport.Keeps {τ : Type} [Transport τ] (holds : τ → Prop) : Prop where
  write : ∀ transport frame, holds transport → holds (Transport.write transport frame).2
  next : ∀ transport wait, holds transport → holds (Transport.next transport wait).transport

namespace Session

variable {τ : Type} [Transport τ] {holds : τ → Prop}

theorem keeps_transmit (hkeeps : Transport.Keeps holds) (session : Session τ) (request : Packet)
    (hstart : holds session.transport) : holds (session.transmit request).2.1.transport := by
  by_cases hfits : request.Fits
  · obtain ⟨htransport, -⟩ := eq_of_core_eq (session.transmit_of_fits request hfits).2
    rw [htransport]
    exact hkeeps.write session.transport (session.wireFrame request) hstart
  · rw [session.transmit_of_not_fits request hfits]
    exact hstart

section Waiting

variable (hnext : ∀ transport wait, holds transport →
  holds (Transport.next transport wait).transport)

include hnext

theorem keeps_incoming (session : Session τ) (response : Packet)
    (hstart : holds session.transport) : holds (session.incoming response).transport := by
  rw [incoming, Transport.transport_receive]
  exact hnext session.transport session.settings.responseWait hstart

/-- A wait writes nothing, so it is enough that waiting for one message keeps a thing. -/
theorem keeps_await (session : Session τ) (response : Packet) (checkStatus : Bool)
    (hstart : holds session.transport) :
    holds (session.await response checkStatus).2.1.transport := by
  induction session, response using await_induction with
  | nothing session response harrival =>
    rw [await_of_nothing harrival]
    exact keeps_incoming hnext session response hstart
  | failed session response fault harrival =>
    rw [await_of_failed harrival]
    cases fault.isTransportFailure <;> exact keeps_incoming hnext session response hstart
  | short session response message harrival hshort =>
    rw [await_of_message harrival, if_pos hshort]
    exact keeps_incoming hnext session response hstart
  | other session response message harrival hheader hother ih =>
    rw [await_of_message harrival, if_neg hheader, if_pos hother]
    exact ih (keeps_incoming hnext session response hstart)
  | answer session response message harrival hheader hcommand =>
    rw [await_of_message harrival, if_neg hheader, if_neg hcommand, transport_conclude]
    exact keeps_incoming hnext session response hstart

end Waiting

theorem keeps_exchange (hkeeps : Transport.Keeps holds) (session : Session τ)
    (request response : Packet) (checkStatus : Bool) (hstart : holds session.transport) :
    holds (session.exchange request response checkStatus).session.transport := by
  have hsending := keeps_transmit hkeeps session request hstart
  cases hresult : (session.transmit request).1 with
  | error fault =>
    obtain ⟨-, hcore, -⟩ := session.exchange_of_not_sent request response checkStatus hresult
    rw [(eq_of_core_eq hcore).1]
    exact hsending
  | ok _ =>
    obtain ⟨sent, hcore, -, hafter, -⟩ :=
      session.exchange_of_sent request response checkStatus hresult
    rw [← (eq_of_core_eq hcore).1] at hsending
    rw [(eq_of_core_eq hafter).1]
    exact keeps_await hkeeps.next sent _ checkStatus hsending

theorem transport_receiveAsync (session : Session τ) (packet : Packet) (wait : Nat) :
    (session.receiveAsync packet wait).2.1.transport =
      (Transport.next session.transport wait).transport := by
  rw [← Transport.transport_receive session.transport packet.reset.messageRoom wait]
  cases harrival : (session.unsolicited packet wait).arrival with
  | nothing => rw [receiveAsync_of_nothing harrival]; rfl
  | failed fault => rw [receiveAsync_of_failed harrival]; rfl
  | message message =>
    rw [receiveAsync_of_message harrival]
    split <;> rfl

end Session

theorem Operation.keeps_apply {τ : Type} [Transport τ] {holds : τ → Prop}
    (hkeeps : Transport.Keeps holds) (session : Session τ) (operation : Operation)
    (hstart : holds session.transport) : holds (operation.apply session).transport := by
  cases operation with
  | enableSigning signer start => exact hstart
  | disableSigning => exact hstart
  | exchange request response checkStatus =>
    exact Session.keeps_exchange hkeeps session request response checkStatus hstart
  | sendOnly request => exact Session.keeps_transmit hkeeps session request hstart
  | receiveResponse response command checkStatus =>
    exact Session.keeps_await hkeeps.next session _ checkStatus hstart
  | receiveAsync packet wait =>
    rw [apply, Session.transport_receiveAsync]
    exact hkeeps.next session.transport wait hstart

/-! ## What operations take off the stream -/

namespace Connection

theorem keeps_sound : Transport.Keeps Sound where
  write connection frame hsound := lasts_sound.move connection (.write frame) hsound
  next connection wait hsound := lasts_sound.next connection wait hsound

/-- The messages on the tape were taken off a stream in whole frames, and the rest is left. -/
def Accounts (framing : Framing) (stream : Bytes) (taped : Taped Connection) : Prop :=
  taped.transport.framing = framing ∧
    ∃ skipped, framing.Takes stream skipped taped.arrived taped.transport.stream

theorem keeps_accounts (framing : Framing) (stream : Bytes) :
    Transport.Keeps (Accounts framing stream) where
  write taped frame := by
    rintro ⟨hframing, skipped, htakes⟩
    refine ⟨hframing, skipped, ?_⟩
    rw [← stream_write taped.transport frame] at htakes
    exact htakes
  next taped wait := by
    rintro ⟨hframing, skipped, htakes⟩
    have hnext := takes_next taped.transport wait
    rw [hframing] at hnext
    exact ⟨(framing_next taped.transport wait).trans hframing, _, htakes.trans hnext⟩

end Connection

namespace Operation

variable (session : Session Connection) (operation : Operation)

theorem takes_apply :
    (operation.apply session).transport.framing = session.transport.framing ∧
      ∃ skipped, session.transport.framing.Takes session.transport.stream skipped
        (operation.traffic session).arrived (operation.apply session).transport.stream := by
  -- A tape shows what arrives, and an operation does the same with and without it.
  have htaped : Connection.Accounts session.transport.framing session.transport.stream
      (operation.traffic session) :=
    operation.keeps_apply (Connection.keeps_accounts _ _) (session.mapTransport Taped.blank)
      ⟨rfl, 0, .refl _ _⟩
  have huntaped : (operation.traffic session).transport = (operation.apply session).transport :=
    congrArg Session.transport (apply_untape (session.mapTransport Taped.blank) operation)
  rw [Connection.Accounts, huntaped] at htaped
  exact htaped

end Operation

/-! ## Giving up -/

/-- A connection says itself that nothing has come in time; it does not fail with it. -/
theorem Connection.arrival_next_ne_timeout {connection : Connection} (hsound : connection.Sound)
    (wait : Nat) : (connection.next wait).arrival ≠ .failed .timeout := by
  intro hfailed
  rcases blocked_or_ended_next hsound hfailed with ⟨hblocked, -⟩ | hclosed | hremaining
  · rcases hblocked.fault_cases with hkind | ⟨length, hlength, -⟩
    · simp [Framing.unexpectedKind] at hkind
    · simp at hlength
  · simp at hclosed
  · simp at hremaining

namespace Session

variable {session : Session Connection}

/-- Receiving that comes to nothing leaves no refusal behind. -/
theorem clear_receive {room wait : Nat} (hsound : session.transport.Sound)
    (hnothing : (Transport.receive session.transport room wait).arrival = .nothing ∨
      (Transport.receive session.transport room wait).arrival = .failed .timeout) :
    (Transport.next session.transport wait).transport.reader.errored = false := by
  have hnext : (session.transport.next wait).arrival = .nothing := by
    rcases Transport.arrival_receive_cases session.transport room wait with
      hsame | ⟨message, -, -, hrefused⟩
    · rw [hsame] at hnothing
      exact hnothing.resolve_right (Connection.arrival_next_ne_timeout hsound wait)
    · rw [hrefused] at hnothing
      simp at hnothing
  exact Connection.clear_next hsound (by rw [hnext]; simp)

theorem clear_await (session : Session Connection) (response : Packet) (checkStatus : Bool)
    (hsound : session.transport.Sound)
    (htimeout : (session.await response checkStatus).1 = .error .timeout) :
    (session.await response checkStatus).2.1.transport.reader.errored = false := by
  induction session, response using await_induction with
  | nothing session response harrival =>
    have hclear := clear_receive hsound (.inl harrival)
    rw [await_of_nothing harrival]
    rw [← Transport.transport_receive session.transport response.messageRoom] at hclear
    exact hclear
  | failed session response fault harrival =>
    rw [await_of_failed harrival, Except.error.injEq] at htimeout
    subst htimeout
    have hclear := clear_receive hsound (.inr harrival)
    rw [await_of_failed harrival]
    rw [← Transport.transport_receive session.transport response.messageRoom] at hclear
    exact hclear
  | short session response message harrival hshort =>
    rw [await_of_message harrival, if_pos hshort] at htimeout
    simp at htimeout
  | other session response message harrival hheader hother ih =>
    rw [await_of_message harrival, if_neg hheader, if_pos hother] at htimeout ⊢
    exact ih (keeps_incoming Connection.keeps_sound.next session response hsound) htimeout
  | answer session response message harrival hheader hcommand =>
    rw [await_of_message harrival, if_neg hheader, if_neg hcommand] at htimeout
    exact absurd htimeout (fst_conclude_ne_timeout _ _ _ _)

/-- Sending over a connection never times out. -/
theorem fst_transmit_ne_timeout (session : Session Connection) (request : Packet) :
    (session.transmit request).1 ≠ .error .timeout := by
  by_cases hfits : request.Fits
  · rw [(session.transmit_of_fits request hfits).1]
    change (session.transport.write (session.wireFrame request)).1 ≠ _
    rw [Connection.write, Pipe.write]
    split <;> simp
  · rw [session.transmit_of_not_fits request hfits, refusal]
    split <;> simp

end Session

/-- After an operation has given up, the next message is received once the rest of it arrives. -/
theorem Operation.receivesNext_of_givesUp (session : Session Connection) (operation : Operation)
    (hsound : session.transport.Sound) (hgives : operation.GivesUp session) :
    (operation.apply session).transport.ReceivesNext := by
  refine Connection.receivesNext_of_clear
    (operation.keeps_apply Connection.keeps_sound session hsound) ?_
  cases operation with
  | enableSigning signer start => exact hgives.elim
  | disableSigning => exact hgives.elim
  | sendOnly request => exact hgives.elim
  | exchange request response checkStatus =>
    change (session.exchange request response checkStatus).result = _ at hgives
    change (session.exchange request response checkStatus).session.transport.reader.errored = _
    cases hresult : (session.transmit request).1 with
    | error fault =>
      obtain ⟨hsame, -⟩ := session.exchange_of_not_sent request response checkStatus hresult
      rw [hsame] at hgives
      rw [hgives] at hresult
      exact absurd hresult (session.fst_transmit_ne_timeout request)
    | ok _ =>
      obtain ⟨sent, hcore, hended, hafter, -⟩ :=
        session.exchange_of_sent request response checkStatus hresult
      have hsent := Session.keeps_transmit Connection.keeps_sound session request hsound
      rw [← (Session.eq_of_core_eq hcore).1] at hsent
      rw [hended] at hgives
      rw [(Session.eq_of_core_eq hafter).1]
      exact Session.clear_await sent _ checkStatus hsent hgives
  | receiveResponse response command checkStatus =>
    exact Session.clear_await session _ checkStatus hsound hgives
  | receiveAsync packet wait =>
    change (session.receiveAsync packet wait).1 = .ok false at hgives
    rw [apply, Session.transport_receiveAsync]
    cases harrival : (session.unsolicited packet wait).arrival with
    | nothing => exact Session.clear_receive hsound (.inl harrival)
    | failed fault =>
      rw [Session.receiveAsync_of_failed harrival] at hgives
      simp at hgives
    | message message =>
      rw [Session.receiveAsync_of_message harrival] at hgives
      split at hgives <;> simp at hgives

/-! ## Streams that arrive in chunks -/

namespace Connection

/-- A fresh connection whose peer writes chunks, each at its time. -/
def expecting (limit : Nat) (chunks : List (Nat × Bytes)) : Connection :=
  (new limit).mapPipe fun pipe =>
    { pipe with agenda := chunks.map fun chunk => (chunk.1, .send chunk.2) }

theorem sound_expecting (limit : Nat) (chunks : List (Nat × Bytes)) :
    (expecting limit chunks).Sound :=
  (sound_new limit).of_follows (.of_same rfl rfl)

/-- However a stream is cut and whenever its chunks come, it is the stream of the connection. -/
theorem stream_expecting (limit : Nat) (chunks : List (Nat × Bytes)) :
    (expecting limit chunks).stream = chunks.flatMap Prod.snd :=
  Pipe.written_chunks chunks

end Connection

/-! ## Runs -/

/-- What a caller does: it calls an operation, polls as long as the settings say, or lets time
pass. -/
inductive Step where
  | call (operation : Operation)
  | poll (packet : Packet)
  | pause (duration : Nat)

namespace Step

variable (session : Session Connection)

def apply : Step → Session Connection
  | call operation => operation.apply session
  | poll packet => (session.pollAsync packet).2.1
  | pause duration => session.mapTransport (·.mapPipe (·.sleep duration))

def operation? : Step → Option Operation
  | call operation => some operation
  | poll packet => some (.receiveAsync packet session.settings.pollWait)
  | pause _ => none

/-- The messages that are taken in during a step. -/
def taken (step : Step) : List Bytes :=
  match step.operation? session with
  | some operation => (operation.traffic session).arrived
  | none => []

def room? : Step → Option Nat
  | call operation => operation.room?
  | poll packet => some packet.messageRoom
  | pause _ => none

variable {session} {step : Step} {operation : Operation}

theorem apply_of_operation? (hoperation : step.operation? session = some operation) :
    step.apply session = operation.apply session ∧
      step.taken session = (operation.traffic session).arrived ∧
      step.room? = operation.room? := by
  rw [taken, hoperation]
  cases step with
  | call called =>
    rw [← Option.some.inj hoperation]
    exact ⟨rfl, rfl, rfl⟩
  | poll packet =>
    rw [← Option.some.inj hoperation]
    exact ⟨rfl, rfl, rfl⟩
  | pause duration => simp [operation?] at hoperation

theorem takes_apply (session : Session Connection) (step : Step) :
    (step.apply session).transport.framing = session.transport.framing ∧
      ∃ skipped, session.transport.framing.Takes session.transport.stream skipped
        (step.taken session) (step.apply session).transport.stream := by
  cases hoperation : step.operation? session with
  | some operation =>
    obtain ⟨happly, htaken, -⟩ := apply_of_operation? hoperation
    rw [happly, htaken]
    exact operation.takes_apply session
  | none =>
    cases step with
    | call operation => simp [operation?] at hoperation
    | poll packet => simp [operation?] at hoperation
    | pause duration =>
      have hstream : (apply session (.pause duration)).transport.stream =
          session.transport.stream := session.transport.stream_sleep duration
      rw [hstream]
      exact ⟨rfl, 0, .refl _ _⟩

theorem sound_apply (step : Step) (hsound : session.transport.Sound) :
    (step.apply session).transport.Sound := by
  cases step with
  | call operation => exact operation.keeps_apply Connection.keeps_sound session hsound
  | poll packet =>
    exact Operation.keeps_apply Connection.keeps_sound session
      (.receiveAsync packet session.settings.pollWait) hsound
  | pause duration => exact Connection.lasts_sound.move _ (.sleep duration) hsound

end Step

namespace Session

def proceed (session : Session Connection) (steps : List Step) : Session Connection :=
  steps.foldl Step.apply session

/-- The messages that are taken in during steps. -/
def taken (session : Session Connection) : List Step → List Bytes
  | [] => []
  | step :: steps => step.taken session ++ (step.apply session).taken steps

variable {session : Session Connection}

theorem taken_append (session : Session Connection) (earlier later : List Step) :
    session.taken (earlier ++ later) =
      session.taken earlier ++ (session.proceed earlier).taken later := by
  induction earlier generalizing session with
  | nil => rfl
  | cons step earlier ih =>
    rw [List.cons_append, taken, ih, taken, List.append_assoc]
    rfl

/-- A run takes whole frames off the stream, and its messages are those of the frames. -/
theorem takes_proceed (session : Session Connection) (steps : List Step) :
    ∃ skipped, session.transport.framing.Takes session.transport.stream skipped
      (session.taken steps) (session.proceed steps).transport.stream := by
  induction steps generalizing session with
  | nil => exact ⟨0, .refl _ _⟩
  | cons step steps ih =>
    obtain ⟨hframing, skipped, hfirst⟩ := step.takes_apply session
    obtain ⟨more, hothers⟩ := ih (step.apply session)
    rw [hframing] at hothers
    exact ⟨skipped + more, hfirst.trans hothers⟩

theorem sound_proceed (hsound : session.transport.Sound) (steps : List Step) :
    (session.proceed steps).transport.Sound := by
  induction steps generalizing session with
  | nil => exact hsound
  | cons step steps ih => exact ih (step.sound_apply hsound)

/-- Over a stream of whole frames with messages that have a header and fit, any run of
operations takes in the messages of the first frames, each once and in order, and leaves the
other frames on the stream with all their bytes.  Each operation hands what it takes in to the
sink, but for the response if it finds one.  An operation that gives up has handed everything
over, and the message after it is received as soon as all of it is there.  Nothing is asked of
the connection but right marks, which every reachable one has. -/
theorem frames_conserved (session : Session Connection) (frames : List Whole)
    (steps : List Step) (hsound : session.transport.Sound)
    (hstream : session.transport.stream = Whole.stream frames)
    (hheader : ∀ message ∈ Whole.messages frames, Packet.minimumMessage ≤ message.length)
    (hfits : ∀ step ∈ steps, ∀ room, step.room? = some room →
      ∀ message ∈ Whole.messages frames, message.length ≤ room) :
    (∃ passed left, frames = passed ++ left ∧
        session.taken steps = Whole.messages passed ∧
        (session.proceed steps).transport.stream = Whole.stream left) ∧
      ∀ earlier step later operation, steps = earlier ++ step :: later →
        step.operation? (session.proceed earlier) = some operation →
        (∃ handed answer, operation.Disposes (session.proceed earlier) handed answer) ∧
          (operation.GivesUp (session.proceed earlier) →
            (session.proceed (earlier ++ [step])).transport.ReceivesNext) := by
  have hfront : ∃ passed left, frames = passed ++ left ∧
      session.taken steps = Whole.messages passed ∧
      (session.proceed steps).transport.stream = Whole.stream left := by
    obtain ⟨skipped, passed, -, -, hmessages, hsplit⟩ := session.takes_proceed steps
    rw [hstream] at hsplit
    obtain ⟨left, hframes, hleft⟩ := Whole.exists_left_of_stream_eq hsplit
    exact ⟨passed, left, hframes, hmessages.symm, hleft⟩
  refine ⟨hfront, ?_⟩
  intro earlier step later operation hsteps hoperation
  obtain ⟨passed, left, hframes, hmessages, -⟩ := hfront
  obtain ⟨happly, htaken, hroom⟩ := Step.apply_of_operation? hoperation
  -- What one step takes in is part of what the run takes in, and so among the frames.
  have hmem : ∀ message ∈ (operation.traffic (session.proceed earlier)).arrived,
      message ∈ Whole.messages frames := by
    intro message hmessage
    rw [hframes, Whole.messages_append, ← hmessages, hsteps, taken_append, taken, htaken]
    simp [hmessage]
  constructor
  · apply operation.exists_disposes
    · exact fun message hmessage => hheader message (hmem message hmessage)
    · intro room hsome message hmessage
      exact hfits step (by simp [hsteps]) room (hroom.trans hsome) message
        (hmem message hmessage)
  · intro hgives
    have hlast : session.proceed (earlier ++ [step]) =
        operation.apply (session.proceed earlier) := by
      rw [proceed, List.foldl_append]
      exact happly
    rw [hlast]
    exact operation.receivesNext_of_givesUp _ (sound_proceed hsound earlier) hgives

/-- Two messages around a keep-alive, cut within both messages.  A poll, a wait and an exchange
run into the cuts; after the pauses each message is taken in once. -/
theorem frames_conserved_around_cuts :
    let first : Whole := ⟨0, 0, 0, 32, Packet.marker ++ [0x24] ++ List.replicate 27 0, rfl⟩
    let alive : Whole := ⟨0x85, 0, 0, 1, [7], rfl⟩
    let second : Whole := ⟨0, 0, 0, 32, Packet.marker ++ [0x2B] ++ List.replicate 27 0, rfl⟩
    let bytes := Whole.stream [first, alive, second]
    let session : Session Connection := Session.new
      (.expecting 1000 [(10, bytes.take 20), (700, (bytes.drop 20).take 25), (1500, bytes.drop 45)])
      (.channel ⟨true⟩) ⟨true, 1, 100, 50, 549, false⟩
    let packet := Packet.blank 549 (by decide)
    let steps : List Step := [.poll packet, .call (.receiveResponse packet 0x2B false), .pause 600,
      .call (.exchange (packet.setCommand 0x2B) packet false), .pause 1000,
      .call (.receiveResponse packet 0x2B false)]
    session.taken steps = [first.payload, second.payload] ∧
      (session.proceed [.poll packet]).transport.ReceivesNext := by
  intro first alive second bytes session packet steps
  have hstream : session.transport.stream = bytes := by
    rw [show session.transport = .expecting _ _ from rfl, Connection.stream_expecting]
    decide
  have hroom : packet.messageRoom = 545 := by decide +kernel
  have hlengths : ∀ message ∈ Whole.messages [first, alive, second], message.length = 32 := by
    decide
  have hrooms : ∀ step ∈ steps, step.room? = none ∨ step.room? = some packet.messageRoom := by
    intro step hstep
    simp only [steps, List.mem_cons, List.not_mem_nil, or_false] at hstep
    rcases hstep with rfl | rfl | rfl | rfl | rfl | rfl
    all_goals first | exact .inr rfl | exact .inl rfl
  have hfits : ∀ step ∈ steps, ∀ room, step.room? = some room →
      ∀ message ∈ Whole.messages [first, alive, second], message.length ≤ room := by
    intro step hstep room hsome message hmessage
    rcases hrooms step hstep with hnone | hsame
    · exact absurd (hnone.symm.trans hsome) (by simp)
    · rw [hlengths message hmessage, ← Option.some.inj (hsame.symm.trans hsome), hroom]
      decide
  obtain ⟨⟨passed, left, hframes, htaken, -⟩, hdisposed⟩ :=
    frames_conserved session [first, alive, second] steps (Connection.sound_expecting _ _) hstream
      (fun message hmessage => by rw [hlengths message hmessage]; decide) hfits
  have hgives : Operation.GivesUp session (.receiveAsync packet 50) := by
    change (session.receiveAsync packet 50).1 = _
    rw [receiveAsync_of_nothing (by decide +kernel)]
  refine ⟨?_, (hdisposed [] (.poll packet) _ _ rfl rfl).2 hgives⟩
  have hcount : (session.taken steps).length = 2 := by decide +kernel
  have hall : Whole.messages passed ++ Whole.messages left = [first.payload, second.payload] := by
    rw [← Whole.messages_append, ← hframes]
    rfl
  rw [htaken] at hcount ⊢
  exact (List.append_inj hall hcount).1

end Session

end SmbExchange
