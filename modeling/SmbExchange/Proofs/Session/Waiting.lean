import SmbExchange.Session.Exchange
import SmbExchange.Proofs.Packet.Received
import SmbExchange.Proofs.Session.Core
import SmbExchange.Proofs.Transport.Delivery

/-!
# Waiting for a response

A wait takes one message after the other off its transport.  Each message
either decides the wait or is passed over, and which of the two happens can be
read off the message, the room for it and the awaited command.  The lemmas
here say what one message does to a wait; `await_passOverAll` carries this
through any number of messages that are passed over.
-/

namespace SmbExchange.Session

open Transport (Delivers)

/-- The message answers a wait for a command: it fits the room, has a whole
header, and carries the command. -/
def Answers (room : Nat) (command : UInt8) (message : Bytes) : Prop :=
  message.length ≤ room ∧ Packet.minimumMessage ≤ message.length ∧
    message.byteAt 4 = command

instance (room : Nat) (command : UInt8) (message : Bytes) :
    Decidable (Answers room command message) :=
  inferInstanceAs (Decidable (_ ∧ _))

/-- The message ends a wait for a command: it is too long for the room, too
short for a header, or carries the command. -/
def Decides (room : Nat) (command : UInt8) (message : Bytes) : Prop :=
  room < message.length ∨ message.length < Packet.minimumMessage ∨
    message.byteAt 4 = command

instance (room : Nat) (command : UInt8) (message : Bytes) :
    Decidable (Decides room command message) :=
  inferInstanceAs (Decidable (_ ∨ _))

theorem not_decides_iff {room : Nat} {command : UInt8} {message : Bytes} :
    ¬ Decides room command message ↔
      message.length ≤ room ∧ Packet.minimumMessage ≤ message.length ∧
        message.byteAt 4 ≠ command := by
  simp only [Decides, not_or, Nat.not_lt, ne_eq]

@[simp]
theorem messageRoom_awaiting (response : Packet) (command : UInt8) :
    (awaiting response command).messageRoom = response.messageRoom :=
  congrArg (· - Packet.headerRoom) response.capacity_reset

@[simp]
theorem expectedCommand_awaiting (response : Packet) (command : UInt8) :
    (awaiting response command).expectedCommand = command := rfl

variable {τ : Type} [Transport τ]

/-! ## One message -/

/-- What a wait for a response comes to next. -/
abbrev incoming (session : Session τ) (response : Packet) : Transport.Receipt τ :=
  Transport.receive session.transport response.messageRoom session.settings.responseWait

/-- The session after a wait has taken a message that fits. -/
def took (session : Session τ) (response : Packet) (message : Bytes) : Session τ :=
  (session.absorb (session.incoming response)).countReceived message.length

def passOver (session : Session τ) (response : Packet) (message : Bytes) : Session τ :=
  (session.took response message).divert (response.fill message)

/-- Induction on a wait: it ends, or it has passed over a message and goes on. -/
theorem await_induction {motive : Session τ → Packet → Prop}
    (nothing : ∀ session response,
      (session.incoming response).arrival = .nothing → motive session response)
    (failed : ∀ session response fault,
      (session.incoming response).arrival = .failed fault → motive session response)
    (short : ∀ session response message,
      (session.incoming response).arrival = .message message →
      message.length < Packet.minimumMessage → motive session response)
    (other : ∀ session response message,
      (session.incoming response).arrival = .message message →
      ¬ message.length < Packet.minimumMessage →
      (response.fill message).command ≠ response.expectedCommand →
      motive (session.passOver response message) (response.fill message) →
      motive session response)
    (answer : ∀ session response message,
      (session.incoming response).arrival = .message message →
      ¬ message.length < Packet.minimumMessage →
      ¬ (response.fill message).command ≠ response.expectedCommand →
      motive session response)
    (session : Session τ) (response : Packet) : motive session response :=
  await.induct false motive nothing failed short other answer session response

section OneMessage

variable {session : Session τ} {response : Packet} {message : Bytes}
variable {checkStatus : Bool}

theorem await_of_nothing
    (harrival : (session.incoming response).arrival = .nothing) :
    session.await response checkStatus =
      (.error .timeout,
        (session.absorb (session.incoming response)).count Metrics.connectionError,
        response) := by
  rw [await]
  split <;> simp_all

theorem await_of_failed {fault : Fault}
    (harrival : (session.incoming response).arrival = .failed fault) :
    session.await response checkStatus =
      (.error fault,
        if fault.isTransportFailure then
          (session.absorb (session.incoming response)).count Metrics.connectionError
        else session.absorb (session.incoming response),
        response) := by
  rw [await]
  split <;> simp_all

/-- A message that fits is refused when it is too short, passed over when it
carries another command, and is the response otherwise. -/
theorem await_of_message
    (harrival : (session.incoming response).arrival = .message message) :
    session.await response checkStatus =
      if message.length < Packet.minimumMessage then
        (.error (.shortReceive message.length),
          (session.took response message).refuseShort message.length,
          response.fill message)
      else if (response.fill message).command ≠ response.expectedCommand then
        (session.passOver response message).await (response.fill message) checkStatus
      else
        (((session.took response message).conclude (response.fill message)
            message.length checkStatus).1,
          ((session.took response message).conclude (response.fill message)
            message.length checkStatus).2,
          response.fill message) := by
  rw [await]
  split
  · simp_all
  · simp_all
  · rename_i found hfound
    rw [harrival, Arrival.message.injEq] at hfound
    subst hfound
    rfl

theorem await_of_not_decides
    (hnext : (Transport.next session.transport session.settings.responseWait).arrival =
      .message message)
    (hother : ¬ Decides response.messageRoom response.expectedCommand message) :
    session.await response checkStatus =
      (session.passOver response message).await (response.fill message) checkStatus := by
  obtain ⟨hfits, hheader, hcommand⟩ := not_decides_iff.mp hother
  have harrival := Transport.arrival_receive_of_fits hnext hfits
  rw [await_of_message harrival, if_neg (by omega), Packet.command_fill hfits hheader,
    if_pos hcommand]

theorem await_of_too_long
    (hnext : (Transport.next session.transport session.settings.responseWait).arrival =
      .message message)
    (hlong : response.messageRoom < message.length) :
    session.await response checkStatus =
      (.error (.oversizedPacket message.length),
        session.absorb (session.incoming response), response) :=
  await_of_failed (Transport.arrival_receive_of_too_long hnext hlong)

theorem await_of_short
    (hnext : (Transport.next session.transport session.settings.responseWait).arrival =
      .message message)
    (hfits : message.length ≤ response.messageRoom)
    (hshort : message.length < Packet.minimumMessage) :
    session.await response checkStatus =
      (.error (.shortReceive message.length),
        (session.took response message).refuseShort message.length,
        response.fill message) := by
  have harrival := Transport.arrival_receive_of_fits hnext hfits
  rw [await_of_message harrival, if_pos hshort]

theorem await_of_answers
    (hnext : (Transport.next session.transport session.settings.responseWait).arrival =
      .message message)
    (hanswers : Answers response.messageRoom response.expectedCommand message) :
    session.await response checkStatus =
      (((session.took response message).conclude (response.fill message)
          message.length checkStatus).1,
        ((session.took response message).conclude (response.fill message)
          message.length checkStatus).2,
        response.fill message) := by
  obtain ⟨hfits, hheader, hcommand⟩ := hanswers
  have harrival := Transport.arrival_receive_of_fits hnext hfits
  rw [await_of_message harrival, if_neg (by omega), Packet.command_fill hfits hheader,
    if_neg (not_not_intro hcommand)]

end OneMessage

/-! ## What passing over and concluding leave alone -/

section Effects

variable (session : Session τ) (response : Packet) (message : Bytes)

@[simp]
theorem transport_took :
    (session.took response message).transport =
      (Transport.next session.transport session.settings.responseWait).transport :=
  Transport.transport_receive session.transport response.messageRoom
    session.settings.responseWait

@[simp]
theorem transport_passOver :
    (session.passOver response message).transport =
      (Transport.next session.transport session.settings.responseWait).transport :=
  transport_took session response message

@[simp]
theorem sink_passOver : (session.passOver response message).sink = session.sink := rfl

@[simp]
theorem settings_passOver :
    (session.passOver response message).settings = session.settings := rfl

@[simp]
theorem deliveries_passOver :
    (session.passOver response message).deliveries =
      session.deliveries ++ [session.sink.process (response.fill message)] := rfl

omit [Transport τ]

/-- A signature of a received message is missed: signing is enabled, signatures
are checked, and the message does not carry the one of the current number. -/
def refusesSignature (received : Bytes) : Bool :=
  match session.signer with
  | none => false
  | some signer =>
    session.settings.verifyReceived && !signer.verify received session.sequence

theorem fst_verifyResponse (length : Nat) :
    (session.verifyResponse response length).1 =
      if session.refusesSignature (response.buffer.slice Packet.headerRoom length) then
        .error .signatureMismatch
      else .ok () := by
  rw [verifyResponse, refusesSignature]
  cases session.signer with
  | none => rfl
  | some signer =>
    simp only
    split <;> rfl

/-- Checking a signature uses up a number, and otherwise only counts and logs. -/
theorem core_verifyResponse (length : Nat) :
    (session.verifyResponse response length).2.core = session.advance.core := by
  rw [verifyResponse, advance]
  cases hsigner : session.signer with
  | none => simp [core, hsigner]
  | some signer =>
    simp only
    split <;> simp [core, count, log]

/-- A response is refused for its signature first and for its status second. -/
theorem fst_conclude (length : Nat) (checkStatus : Bool) :
    (session.conclude response length checkStatus).1 =
      if session.refusesSignature (response.buffer.slice Packet.headerRoom length) then
        .error .signatureMismatch
      else if checkStatus then response.checkForError
      else .ok () := by
  have hverified := fst_verifyResponse session response length
  rw [conclude]
  cases hrefused :
      session.refusesSignature (response.buffer.slice Packet.headerRoom length) with
  | true =>
    rw [hrefused, if_pos rfl] at hverified
    split
    · simp_all
    · simp_all
  | false =>
    rw [hrefused] at hverified
    split
    · simp_all
    · cases checkStatus <;> cases response.checkForError <;> simp

/-- Concluding uses up a number, and otherwise only counts and logs. -/
theorem core_conclude (length : Nat) (checkStatus : Bool) :
    (session.conclude response length checkStatus).2.core = session.advance.core := by
  rw [← core_verifyResponse session response length]
  rw [conclude]
  split
  · simp_all
  · rename_i after hverify
    rw [hverify]
    have hshown : (if after.settings.dumpPackets then
        after.log [.responseDump response.dump] else after).core = after.core := by
      split <;> rfl
    cases checkStatus <;> cases response.checkForError <;> exact hshown

@[simp]
theorem transport_conclude (length : Nat) (checkStatus : Bool) :
    (session.conclude response length checkStatus).2.transport = session.transport := by
  have hcore := congrArg transport (core_conclude session response length checkStatus)
  exact hcore

@[simp]
theorem deliveries_conclude (length : Nat) (checkStatus : Bool) :
    (session.conclude response length checkStatus).2.deliveries = session.deliveries := by
  have hcore := congrArg deliveries (core_conclude session response length checkStatus)
  exact hcore

/-- A response uses up a number whatever becomes of it. -/
theorem sequence_conclude (length : Nat) (checkStatus : Bool) :
    (session.conclude response length checkStatus).2.sequence =
      if session.signer.isSome then session.sequence + 1 else session.sequence := by
  have hcore := congrArg sequence (core_conclude session response length checkStatus)
  exact hcore

end Effects

/-! ## Any number of messages -/

/-- The packets that messages make of a response packet, one in place of the
other. -/
def handed (response : Packet) : List Bytes → List Packet
  | [] => []
  | message :: messages =>
    response.fill message :: handed (response.fill message) messages

def passOverAll (session : Session τ) (response : Packet) : List Bytes → Session τ
  | [] => session
  | message :: messages =>
    (session.passOver response message).passOverAll (response.fill message) messages

/-- Messages that do not decide a wait are passed over, one after the other. -/
theorem await_passOverAll {session : Session τ} {response : Packet} {checkStatus : Bool}
    {messages : List Bytes} {middle : τ}
    (hdelivers : Delivers session.settings.responseWait session.transport messages middle)
    (hothers : ∀ message ∈ messages,
      ¬ Decides response.messageRoom response.expectedCommand message) :
    session.await response checkStatus =
      (session.passOverAll response messages).await (messages.foldl Packet.fill response)
        checkStatus := by
  induction messages generalizing session response with
  | nil => rfl
  | cons message messages ih =>
    obtain ⟨hnext, hrest⟩ := hdelivers
    rw [await_of_not_decides hnext (hothers message (List.mem_cons_self ..))]
    refine ih ?_ ?_
    · simpa using hrest
    · intro other hother
      simpa using hothers other (List.mem_cons_of_mem message hother)

theorem transport_passOverAll {session : Session τ} (response : Packet)
    {messages : List Bytes} {middle : τ}
    (hdelivers : Delivers session.settings.responseWait session.transport messages middle) :
    (session.passOverAll response messages).transport = middle := by
  induction messages generalizing session response with
  | nil => exact hdelivers
  | cons message messages ih =>
    refine ih (response.fill message) ?_
    simpa using hdelivers.2

/-- Passing over messages hands each of them to the sink, in order, and leaves
the rest of the session alone. -/
theorem passOverAll_effect (session : Session τ) (response : Packet)
    (messages : List Bytes) :
    (session.passOverAll response messages).deliveries =
        session.deliveries ++ (handed response messages).map session.sink.process ∧
      (session.passOverAll response messages).settings = session.settings ∧
      (session.passOverAll response messages).signer = session.signer ∧
      (session.passOverAll response messages).sequence = session.sequence := by
  induction messages generalizing session response with
  | nil => simp [passOverAll, handed]
  | cons message messages ih =>
    obtain ⟨hdeliveries, hsettings, hsigner, hsequence⟩ :=
      ih (session.passOver response message) (response.fill message)
    refine ⟨?_, hsettings, hsigner, hsequence⟩
    simp only [passOverAll, handed, hdeliveries, deliveries_passOver, sink_passOver,
      List.map_cons, List.append_assoc, List.cons_append, List.nil_append]

/-- What messages make of a response packet keeps its room and its command. -/
theorem foldl_fill_keeps (response : Packet) (messages : List Bytes) :
    (messages.foldl Packet.fill response).messageRoom = response.messageRoom ∧
      (messages.foldl Packet.fill response).expectedCommand =
        response.expectedCommand := by
  induction messages generalizing response with
  | nil => exact ⟨rfl, rfl⟩
  | cons message messages ih => simpa using ih (response.fill message)

theorem capacity_foldl_fill (response : Packet) (messages : List Bytes) :
    (messages.foldl Packet.fill response).capacity = response.capacity := by
  induction messages generalizing response with
  | nil => rfl
  | cons message messages ih => simpa using ih (response.fill message)

end SmbExchange.Session
