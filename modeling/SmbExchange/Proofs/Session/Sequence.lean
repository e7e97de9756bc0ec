import SmbExchange.Proofs.Session.Operation
import SmbExchange.Proofs.Session.Sending

/-!
# Which operations use up sequence numbers

The number of a session only moves with what its tape shows: by one for each
frame that is handed over and by one for each message that answers a wait, as
long as there is a signer.  Each operation is accounted for on its own, and a
run adds the accounts up.
-/

namespace SmbExchange

namespace Session

open Taped (Records)

/-! ## Numbers -/

/-- The messages of a list that answer a wait. -/
def answering (room : Nat) (command : UInt8) (messages : List Bytes) : Nat :=
  messages.countP fun message => decide (Answers room command message)

theorem answering_append (room : Nat) (command : UInt8) (left right : List Bytes) :
    answering room command (left ++ right) =
      answering room command left + answering room command right :=
  List.countP_append

theorem answering_of_answers {room : Nat} {command : UInt8} {message : Bytes}
    (hanswers : Answers room command message) : answering room command [message] = 1 := by
  rw [answering, List.countP_singleton, if_pos (decide_eq_true hanswers)]

theorem answering_of_not_answers {room : Nat} {command : UInt8} {message : Bytes}
    (hother : ¬ Answers room command message) : answering room command [message] = 0 := by
  rw [answering, List.countP_singleton, if_neg (by simpa using hother)]

section Numbers

variable {τ : Type} (session : Session τ)

/-- The number after so many frames and answers: without a signer it stays. -/
def sequenceAfter (count : Nat) : UInt32 :=
  session.sequence + UInt32.ofNat (if session.signer.isSome then count else 0)

@[simp]
theorem sequenceAfter_zero : session.sequenceAfter 0 = session.sequence := by
  rw [sequenceAfter, ite_self]
  exact UInt32.add_zero session.sequence

theorem sequenceAfter_one : session.sequenceAfter 1 = session.advance.sequence := by
  rw [sequenceAfter, advance]
  cases session.signer.isSome with
  | true => rfl
  | false => exact UInt32.add_zero session.sequence

/-- Numbers that are used up one after the other add up. -/
theorem sequenceAfter_add {before after : Session τ} {used : Nat} (more : Nat)
    (hsequence : after.sequence = before.sequenceAfter used)
    (hsigner : after.signer = before.signer) :
    after.sequenceAfter more = before.sequenceAfter (used + more) := by
  rw [sequenceAfter, hsequence, hsigner, sequenceAfter, sequenceAfter]
  cases before.signer.isSome with
  | true =>
    simp only [if_true]
    rw [UInt32.ofNat_add, UInt32.add_assoc]
  | false => exact UInt32.add_zero _

end Numbers

/-! ## A wait on a tape -/

section Waiting

open Taped (Records)

variable {τ : Type} [Transport τ] {session : Session (Taped τ)} {response : Packet}

/-- The message that a wait comes to next, if it comes to one. -/
def upcoming (session : Session (Taped τ)) : List Bytes :=
  Taped.messages (Transport.next session.transport session.settings.responseWait).arrival

theorem records_incoming (session : Session (Taped τ)) (response : Packet) :
    Records session.transport (session.incoming response).transport [] session.upcoming := by
  rw [incoming, Transport.transport_receive]
  exact Taped.records_next ..

theorem upcoming_of_message {message : Bytes}
    (harrival : (session.incoming response).arrival = .message message) :
    session.upcoming = [message] := by
  rw [upcoming, (Transport.next_of_arrival_receive harrival).1]
  rfl

/-- Where a wait comes to no message that fits, nothing that answers has arrived. -/
theorem answering_upcoming_of_no_message
    (hnone : ∀ message, (session.incoming response).arrival ≠ .message message) :
    answering response.messageRoom response.expectedCommand session.upcoming = 0 := by
  rw [upcoming]
  cases hnext : (Transport.next session.transport session.settings.responseWait).arrival with
  | nothing => rfl
  | failed fault => rfl
  | message message =>
    apply answering_of_not_answers
    intro hanswers
    exact hnone message (Transport.arrival_receive_of_fits hnext hanswers.1)

/-- A wait hands nothing over, and it uses up a number for each message that
answers it. -/
theorem await_records (session : Session (Taped τ)) (response : Packet) (checkStatus : Bool) :
    ∃ taken, Records session.transport (session.await response checkStatus).2.1.transport []
        taken ∧
      (session.await response checkStatus).2.1.sequence =
        session.sequenceAfter
          (answering response.messageRoom response.expectedCommand taken) := by
  induction session, response using await_induction with
  | nothing session response harrival =>
    refine ⟨session.upcoming, ?_, ?_⟩
    · rw [await_of_nothing harrival]
      exact records_incoming session response
    · rw [await_of_nothing harrival, answering_upcoming_of_no_message (by simp [harrival]),
        sequenceAfter_zero]
      rfl
  | failed session response fault harrival =>
    refine ⟨session.upcoming, ?_, ?_⟩
    · rw [await_of_failed harrival]
      cases fault.isTransportFailure <;> exact records_incoming session response
    · rw [await_of_failed harrival, answering_upcoming_of_no_message (by simp [harrival]),
        sequenceAfter_zero]
      cases fault.isTransportFailure <;> rfl
  | short session response message harrival hshort =>
    have hrecords := records_incoming session response
    rw [upcoming_of_message harrival] at hrecords
    refine ⟨[message], ?_, ?_⟩
    · rw [await_of_message harrival, if_pos hshort]
      exact hrecords
    · have hother : ¬ Answers response.messageRoom response.expectedCommand message :=
        fun hanswers => absurd hshort (Nat.not_lt.mpr hanswers.2.1)
      rw [await_of_message harrival, if_pos hshort, answering_of_not_answers hother,
        sequenceAfter_zero]
      rfl
  | other session response message harrival hheader hother ih =>
    obtain ⟨taken, hlater, hsequence⟩ := ih
    have hfits := (Transport.next_of_arrival_receive harrival).2
    have hrecords := records_incoming session response
    rw [upcoming_of_message harrival] at hrecords
    refine ⟨[message] ++ taken, ?_, ?_⟩
    · rw [await_of_message harrival, if_neg hheader, if_pos hother]
      exact hrecords.trans hlater
    · have hunanswered : ¬ Answers response.messageRoom response.expectedCommand message := by
        intro hanswers
        rw [Packet.command_fill hfits hanswers.2.1] at hother
        exact hother hanswers.2.2
      rw [await_of_message harrival, if_neg hheader, if_pos hother, answering_append,
        answering_of_not_answers hunanswered, Nat.zero_add]
      rw [Packet.messageRoom_fill] at hsequence
      exact hsequence
  | answer session response message harrival hheader hcommand =>
    have hfits := (Transport.next_of_arrival_receive harrival).2
    have hrecords := records_incoming session response
    rw [upcoming_of_message harrival] at hrecords
    refine ⟨[message], ?_, ?_⟩
    · rw [await_of_message harrival, if_neg hheader, if_neg hcommand, transport_conclude]
      exact hrecords
    · have hanswers : Answers response.messageRoom response.expectedCommand message := by
        refine ⟨hfits, Nat.not_lt.mp hheader, ?_⟩
        rw [← Packet.command_fill hfits (Nat.not_lt.mp hheader)]
        exact Decidable.not_not.mp hcommand
      rw [await_of_message harrival, if_neg hheader, if_neg hcommand,
        answering_of_answers hanswers, sequenceAfter_one, sequence_conclude]
      rfl

/-- A wait for an unsolicited packet hands nothing over and uses up no number. -/
theorem receiveAsync_records (session : Session (Taped τ)) (packet : Packet) (wait : Nat) :
    ∃ taken, Records session.transport (session.receiveAsync packet wait).2.1.transport []
        taken ∧
      (session.receiveAsync packet wait).2.1.sequence = session.sequence := by
  have hrecords := Taped.records_next session.transport wait
  rw [← Transport.transport_receive session.transport packet.reset.messageRoom wait] at hrecords
  refine ⟨Taped.messages (Transport.next session.transport wait).arrival, ?_, ?_⟩
  · rw [receiveAsync]
    split
    · exact hrecords
    · exact hrecords
    · dsimp only
      split <;> exact hrecords
  · rw [receiveAsync]
    split
    · rfl
    · rfl
    · dsimp only
      split <;> rfl

end Waiting

/-! ## A request on a tape -/

section Sending

open Taped (Records)

variable {τ : Type}

/-- What is handed over for a request: its frame, if it fits its buffer. -/
def frames (session : Session τ) (request : Packet) : List Bytes :=
  if request.Fits then [session.wireFrame request] else []

variable [Transport τ] (session : Session (Taped τ)) (request : Packet)

/-- A request uses up a number exactly when its frame is handed over. -/
theorem transmit_records :
    Records session.transport (session.transmit request).2.1.transport
        (session.frames request) [] ∧
      (session.transmit request).2.1.sequence =
        session.sequenceAfter (session.frames request).length ∧
      (session.transmit request).2.1.signer = session.signer := by
  by_cases hfits : request.Fits
  · obtain ⟨htransport, -, -, hsigner, hsequence, -⟩ :=
      eq_of_core_eq (session.transmit_of_fits request hfits).2
    rw [frames, if_pos hfits, htransport, hsequence, hsigner, List.length_singleton,
      sequenceAfter_one]
    exact ⟨Taped.records_write session.transport (session.wireFrame request), rfl, rfl⟩
  · rw [frames, if_neg hfits, session.transmit_of_not_fits request hfits, List.length_nil,
      sequenceAfter_zero]
    exact ⟨Records.refl session.transport, rfl, rfl⟩

/-- An exchange hands over what its request comes to and then waits, but it does
not wait for the response to a request that does not fit. -/
theorem exchange_records (response : Packet) (checkStatus : Bool) :
    ∃ taken,
      Records session.transport (session.exchange request response checkStatus).session.transport
          (session.frames request) taken ∧
        (session.exchange request response checkStatus).session.sequence =
          session.sequenceAfter ((session.frames request).length +
            answering response.messageRoom request.expectedCommand taken) ∧
        (¬ request.Fits → taken = []) := by
  obtain ⟨hsending, hnumber, hkept⟩ := session.transmit_records request
  cases hresult : (session.transmit request).1 with
  | error fault =>
    obtain ⟨-, hcore, -⟩ := session.exchange_of_not_sent request response checkStatus hresult
    obtain ⟨htransport, -, -, -, hsequence, -⟩ := eq_of_core_eq hcore
    refine ⟨[], ?_, ?_, fun _ => rfl⟩
    · rw [htransport]
      exact hsending
    · rw [hsequence, hnumber]
      rfl
  | ok _ =>
    obtain ⟨sent, hsent, -, hcore, -⟩ :=
      session.exchange_of_sent request response checkStatus hresult
    obtain ⟨hleft, -, -, hsigner, hreached, -⟩ := eq_of_core_eq hsent
    obtain ⟨htransport, -, -, -, hsequence, -⟩ := eq_of_core_eq hcore
    obtain ⟨taken, hwaiting, hused⟩ :=
      sent.await_records (awaiting response request.expectedCommand) checkStatus
    rw [hleft] at hwaiting
    refine ⟨taken, ?_, ?_, fun hfits => ?_⟩
    · rw [htransport, ← List.append_nil (session.frames request)]
      exact hsending.trans hwaiting
    · rw [hsequence, hused, messageRoom_awaiting, expectedCommand_awaiting]
      exact sequenceAfter_add _ (hreached.trans hnumber) (hsigner.trans hkept)
    · rw [session.transmit_of_not_fits request hfits] at hresult
      exact absurd hresult (by simp)

end Sending

end Session

end SmbExchange
