import SmbExchange.Proofs.Session.Waiting
import SmbExchange.Proofs.Transport.Tape

/-!
# Operations on a session

The operations that signing takes part in, as data, so that any number of them
in any order makes a run.  What an operation hands over and takes in is read
off a tape that runs beside the transport of the session; the session itself
does not notice the tape.
-/

namespace SmbExchange

namespace Session

open Transport (Unnoticed)

section Viewing

variable {τ σ : Type}

def mapTransport (view : τ → σ) (session : Session τ) : Session σ :=
  { session with transport := view session.transport }

/-- The same outcome with the session over another transport. -/
def through {α β : Type} (view : τ → σ) (outcome : α × Session τ × β) : α × Session σ × β :=
  (outcome.1, outcome.2.1.mapTransport view, outcome.2.2)

@[simp]
theorem settings_mapTransport (view : τ → σ) (session : Session τ) :
    (session.mapTransport view).settings = session.settings := rfl

@[simp]
theorem signer_mapTransport (view : τ → σ) (session : Session τ) :
    (session.mapTransport view).signer = session.signer := rfl

theorem prepare_mapTransport (view : τ → σ) (session : Session τ) (request : Packet) :
    (session.mapTransport view).prepare request = through view (session.prepare request) := by
  have hflagged : flagSigned ((session.mapTransport view).stamp request) =
      flagSigned (session.stamp request) := rfl
  rw [prepare, prepare, signer_mapTransport]
  cases session.signer with
  | none => rfl
  | some signer =>
    simp only [hflagged]
    cases (flagSigned (session.stamp request)).message <;> rfl

theorem verifyResponse_mapTransport (view : τ → σ) (session : Session τ) (response : Packet)
    (length : Nat) :
    (session.mapTransport view).verifyResponse response length =
      ((session.verifyResponse response length).1,
        (session.verifyResponse response length).2.mapTransport view) := by
  rw [verifyResponse, verifyResponse, signer_mapTransport]
  cases session.signer with
  | none => rfl
  | some signer =>
    have hdecision : ((session.mapTransport view).settings.verifyReceived &&
          !signer.verify (response.buffer.slice Packet.headerRoom length)
            (session.mapTransport view).sequence) =
        (session.settings.verifyReceived &&
          !signer.verify (response.buffer.slice Packet.headerRoom length) session.sequence) :=
      rfl
    dsimp only
    split
    · rename_i hrefused
      rw [hdecision] at hrefused
      rw [if_pos hrefused]
      rfl
    · rename_i hverified
      rw [hdecision] at hverified
      rw [if_neg hverified]
      rfl

theorem conclude_mapTransport (view : τ → σ) (session : Session τ) (response : Packet)
    (length : Nat) (checkStatus : Bool) :
    (session.mapTransport view).conclude response length checkStatus =
      ((session.conclude response length checkStatus).1,
        (session.conclude response length checkStatus).2.mapTransport view) := by
  rw [conclude, conclude, verifyResponse_mapTransport]
  generalize session.verifyResponse response length = verified
  obtain ⟨result, after⟩ := verified
  cases result with
  | error fault => rfl
  | ok _ =>
    have hshown : (if (after.mapTransport view).settings.dumpPackets then
        (after.mapTransport view).log [.responseDump response.dump]
      else after.mapTransport view) =
        (if after.settings.dumpPackets then after.log [.responseDump response.dump]
          else after).mapTransport view := by
      cases hdump : after.settings.dumpPackets <;> rw [settings_mapTransport, hdump] <;> rfl
    dsimp only
    rw [hshown]
    cases checkStatus <;> cases response.checkForError <;> rfl

variable [Transport τ] [Transport σ] {view : τ → σ}

theorem transmit_mapTransport (hview : Unnoticed view) (session : Session τ)
    (request : Packet) :
    (session.mapTransport view).transmit request = through view (session.transmit request) := by
  rw [transmit, transmit, prepare_mapTransport]
  generalize session.prepare request = attempt
  obtain ⟨result, prepared, packet⟩ := attempt
  cases result with
  | error fault => rfl
  | ok _ =>
    simp only [through]
    cases packet.frame with
    | error fault => rfl
    | ok frame =>
      have hsend : Transport.send (prepared.mapTransport view).transport frame = _ :=
        hview.send_eq prepared.transport frame
      simp only [hsend]
      cases (Transport.send prepared.transport frame).result <;> rfl

theorem incoming_mapTransport (hview : Unnoticed view) (session : Session τ)
    (response : Packet) :
    (session.mapTransport view).incoming response =
      ⟨(session.incoming response).arrival, view (session.incoming response).transport,
        (session.incoming response).events⟩ :=
  hview.receive_eq session.transport response.messageRoom session.settings.responseWait

theorem took_mapTransport (hview : Unnoticed view) (session : Session τ) (response : Packet)
    (message : Bytes) :
    (session.mapTransport view).took response message =
      (session.took response message).mapTransport view := by
  rw [took, incoming_mapTransport hview]
  rfl

/-- A wait does not notice how its transport is viewed. -/
theorem await_mapTransport (hview : Unnoticed view) (session : Session τ) (response : Packet)
    (checkStatus : Bool) :
    (session.mapTransport view).await response checkStatus =
      through view (session.await response checkStatus) := by
  have harrives : ∀ (session : Session τ) (response : Packet) {arrival : Arrival},
      (session.incoming response).arrival = arrival →
        ((session.mapTransport view).incoming response).arrival = arrival := by
    intro session response arrival harrival
    rw [incoming_mapTransport hview, harrival]
  induction session, response using await_induction with
  | nothing session response harrival =>
    rw [await_of_nothing (harrives session response harrival), await_of_nothing harrival,
      incoming_mapTransport hview]
    rfl
  | failed session response fault harrival =>
    rw [await_of_failed (harrives session response harrival), await_of_failed harrival,
      incoming_mapTransport hview]
    cases fault.isTransportFailure <;> rfl
  | short session response message harrival hshort =>
    rw [await_of_message (harrives session response harrival), await_of_message harrival,
      if_pos hshort, if_pos hshort, took_mapTransport hview]
    rfl
  | other session response message harrival hheader hother ih =>
    have hpassed : (session.mapTransport view).passOver response message =
        (session.passOver response message).mapTransport view := by
      rw [passOver, took_mapTransport hview]
      rfl
    rw [await_of_message (harrives session response harrival), await_of_message harrival,
      if_neg hheader, if_neg hheader, if_pos hother, if_pos hother, hpassed]
    exact ih
  | answer session response message harrival hheader hcommand =>
    rw [await_of_message (harrives session response harrival), await_of_message harrival,
      if_neg hheader, if_neg hheader, if_neg hcommand, if_neg hcommand,
      took_mapTransport hview, conclude_mapTransport]
    rfl

theorem exchange_mapTransport (hview : Unnoticed view) (session : Session τ)
    (request response : Packet) (checkStatus : Bool) :
    (session.mapTransport view).exchange request response checkStatus =
      ⟨(session.exchange request response checkStatus).result,
        (session.exchange request response checkStatus).session.mapTransport view,
        (session.exchange request response checkStatus).request,
        (session.exchange request response checkStatus).response⟩ := by
  have hsent : ((session.mapTransport view).count Metrics.exchangeStarted).transmit request =
      through view ((session.count Metrics.exchangeStarted).transmit request) :=
    transmit_mapTransport hview (session.count Metrics.exchangeStarted) request
  rw [exchange, exchange, hsent]
  generalize (session.count Metrics.exchangeStarted).transmit request = attempt
  obtain ⟨result, sent, packet⟩ := attempt
  cases result with
  | error fault => rfl
  | ok _ =>
    simp only [through, await_mapTransport hview]
    generalize sent.await (awaiting response request.expectedCommand) checkStatus = waited
    obtain ⟨result, ended, found⟩ := waited
    cases result <;> rfl

theorem receiveAsync_mapTransport (hview : Unnoticed view) (session : Session τ)
    (packet : Packet) (wait : Nat) :
    (session.mapTransport view).receiveAsync packet wait =
      through view (session.receiveAsync packet wait) := by
  have hreceive : Transport.receive (session.mapTransport view).transport
      packet.reset.messageRoom wait = _ :=
    hview.receive_eq session.transport packet.reset.messageRoom wait
  simp only [receiveAsync, hreceive]
  generalize Transport.receive session.transport packet.reset.messageRoom wait = receipt
  cases receipt.arrival with
  | nothing => rfl
  | failed fault => rfl
  | message payload =>
    simp only
    split <;> rfl

end Viewing

end Session

/-! ## Operations -/

inductive Operation where
  | enableSigning (signer : Signer) (start : UInt32)
  | disableSigning
  | exchange (request response : Packet) (checkStatus : Bool)
  | sendOnly (request : Packet)
  | receiveResponse (response : Packet) (command : UInt8) (checkStatus : Bool)
  | receiveAsync (packet : Packet) (wait : Nat)

namespace Operation

variable {τ : Type} [Transport τ]

/-- The session after an operation, whatever its result. -/
def apply (session : Session τ) : Operation → Session τ
  | enableSigning signer start => session.enableSigning signer start
  | disableSigning => session.disableSigning
  | exchange request response checkStatus =>
    (session.exchange request response checkStatus).session
  | sendOnly request => (session.sendOnly request).2.1
  | receiveResponse response command checkStatus =>
    (session.receiveResponse response command checkStatus).2.1
  | receiveAsync packet wait => (session.receiveAsync packet wait).2.1

/-- What a tape beside the transport shows of an operation. -/
def traffic (session : Session τ) (operation : Operation) : Taped τ :=
  (operation.apply (session.mapTransport Taped.blank)).transport

/-- The operation sets the sequence number. -/
def Enables : Operation → Prop
  | enableSigning _ _ => True
  | _ => False

instance (operation : Operation) : Decidable operation.Enables :=
  match operation with
  | enableSigning _ _ => isTrue trivial
  | disableSigning => isFalse id
  | exchange _ _ _ => isFalse id
  | sendOnly _ => isFalse id
  | receiveResponse _ _ _ => isFalse id
  | receiveAsync _ _ => isFalse id

def request? : Operation → Option Packet
  | exchange request _ _ => some request
  | sendOnly request => some request
  | _ => none

def isAnsweredBy : Operation → Bytes → Bool
  | exchange request response _, message =>
    decide (Session.Answers response.messageRoom request.expectedCommand message)
  | receiveResponse response command _, message =>
    decide (Session.Answers response.messageRoom command message)
  | _, _ => false

/-- An operation does not notice the tape. -/
theorem apply_untape (session : Session (Taped τ)) (operation : Operation) :
    (operation.apply session).mapTransport Taped.untape =
      operation.apply (session.mapTransport Taped.untape) := by
  have hview := Taped.unnoticed_untape (τ := τ)
  cases operation with
  | enableSigning signer start => rfl
  | disableSigning => rfl
  | exchange request response checkStatus =>
    rw [apply, apply, Session.exchange_mapTransport hview]
  | sendOnly request =>
    rw [apply, apply, Session.sendOnly, Session.sendOnly, Session.transmit_mapTransport hview]
    rfl
  | receiveResponse response command checkStatus =>
    rw [apply, apply, Session.receiveResponse, Session.receiveResponse,
      Session.await_mapTransport hview]
    rfl
  | receiveAsync packet wait =>
    rw [apply, apply, Session.receiveAsync_mapTransport hview]
    rfl

end Operation

def Session.run {τ : Type} [Transport τ] (session : Session τ)
    (operations : List Operation) : Session τ :=
  operations.foldl Operation.apply session

theorem Session.run_append {τ : Type} [Transport τ] (session : Session τ)
    (earlier later : List Operation) :
    session.run (earlier ++ later) = (session.run earlier).run later :=
  List.foldl_append

end SmbExchange
