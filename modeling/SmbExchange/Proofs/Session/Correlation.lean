import Mathlib.Data.List.Forall2
import SmbExchange.Proofs.Session.Sending
import SmbExchange.Proofs.Session.Waiting

/-!
# The first deciding message

An exchange and a wait for a further response come to the same thing: the
messages that arrive are passed over to the sink until one decides, and that
one alone gives the result.  `DecidedBy` says this without the wait: it
mentions the messages, the state before, and what is left afterwards.
-/

namespace SmbExchange.Session

open Transport (Delivers)

variable {τ : Type} [Transport τ]

/-- A message is the first of its stream that decides a wait: none of those
before it does. -/
def FirstDeciding (room : Nat) (command : UInt8) (before : List Bytes)
    (message : Bytes) : Prop :=
  (∀ earlier ∈ before, ¬ Decides room command earlier) ∧ Decides room command message

instance (room : Nat) (command : UInt8) (before : List Bytes) (message : Bytes) :
    Decidable (FirstDeciding room command before message) :=
  inferInstanceAs (Decidable (_ ∧ _))

/-- The packet holds a message and still awaits a command. -/
def Holds (command : UInt8) (packet : Packet) (message : Bytes) : Prop :=
  packet.buffer.slice Packet.headerRoom message.length = message ∧
    packet.expectedCommand = command

/-- The result of a wait that a message decides: its length counts first, then
its signature at the current number, then the status of the response. -/
def verdict (start : Session τ) (room : Nat) (message : Bytes) (response : Packet)
    (checkStatus : Bool) : Except Fault Unit :=
  if room < message.length then .error (.oversizedPacket message.length)
  else if message.length < Packet.minimumMessage then
    .error (.shortReceive message.length)
  else if start.refusesSignature message then .error .signatureMismatch
  else if checkStatus then response.checkForError
  else .ok ()

/-- What is left when a wait is decided by a message after others were passed
over. -/
structure DecidedBy (start : Session τ) (room : Nat) (command : UInt8)
    (before : List Bytes) (message : Bytes) (checkStatus : Bool)
    (result : Except Fault Unit) (after : Session τ) (response : Packet) : Prop where
  /-- The deciding message gives the result. -/
  result_eq : result = start.verdict room message response checkStatus
  /-- The messages before it went to the sink, each once and in order, and nothing
  else did. -/
  handed_before : ∃ packets, List.Forall₂ (Holds command) packets before ∧
    after.deliveries = start.deliveries ++ packets.map start.sink.process
  /-- The transport was asked for these messages and no more. -/
  consumed : Delivers start.settings.responseWait start.transport (before ++ [message])
    after.transport
  /-- The response is the deciding message, if it fits. -/
  holds : message.length ≤ room → Holds command response message

/-! ## The wait -/

omit [Transport τ] in
theorem forall₂_holds_handed (response : Packet) {messages : List Bytes}
    (hfits : ∀ message ∈ messages, message.length ≤ response.messageRoom) :
    List.Forall₂ (Holds response.expectedCommand) (handed response messages) messages := by
  induction messages generalizing response with
  | nil => exact .nil
  | cons message messages ih =>
    have hrest : List.Forall₂ (Holds response.expectedCommand)
        (handed (response.fill message) messages) messages :=
      ih (response.fill message) fun other hother => by
        simpa using hfits other (List.mem_cons_of_mem message hother)
    exact .cons ⟨Packet.slice_fill_self (hfits message (List.mem_cons_self ..)), rfl⟩ hrest

/-- A message that decides at once. -/
theorem await_decidedBy_next (start : Session τ) (response : Packet) {message : Bytes}
    (checkStatus : Bool)
    (hnext : (Transport.next start.transport start.settings.responseWait).arrival =
      .message message)
    (hdecides : Decides response.messageRoom response.expectedCommand message) :
    DecidedBy start response.messageRoom response.expectedCommand [] message checkStatus
      (start.await response checkStatus).1 (start.await response checkStatus).2.1
      (start.await response checkStatus).2.2 := by
  by_cases hlong : response.messageRoom < message.length
  · rw [await_of_too_long hnext hlong]
    refine ⟨?_, ⟨[], .nil, by simp [absorb, log]⟩, ⟨hnext, ?_⟩, fun hfits => ?_⟩
    · rw [verdict, if_pos hlong]
    · exact (Transport.transport_receive ..).symm
    · omega
  have hfits : message.length ≤ response.messageRoom := Nat.not_lt.mp hlong
  have hholds : Holds response.expectedCommand (response.fill message) message :=
    ⟨Packet.slice_fill_self hfits, rfl⟩
  by_cases hshort : message.length < Packet.minimumMessage
  · rw [await_of_short hnext hfits hshort]
    refine ⟨?_, ⟨[], .nil, ?_⟩, ⟨hnext, ?_⟩, fun _ => hholds⟩
    · rw [verdict, if_neg hlong, if_pos hshort]
    · simp [refuseShort, took, countReceived, absorb, count, log]
    · exact (transport_took start response message).symm
  have hanswers : Answers response.messageRoom response.expectedCommand message := by
    refine ⟨hfits, Nat.not_lt.mp hshort, ?_⟩
    rcases hdecides with habsurd | habsurd | hcommand
    · exact absurd habsurd hlong
    · exact absurd habsurd hshort
    · exact hcommand
  rw [await_of_answers hnext hanswers]
  refine ⟨?_, ⟨[], .nil, ?_⟩, ⟨hnext, ?_⟩, fun _ => hholds⟩
  · rw [verdict, if_neg hlong, if_neg hshort, fst_conclude, hholds.1]
    rfl
  · simp [took, countReceived, absorb, count, log]
  · exact ((transport_conclude ..).trans (transport_took start response message)).symm

omit [Transport τ] in
theorem refusesSignature_congr {left right : Session τ} (hsigner : left.signer = right.signer)
    (hsettings : left.settings = right.settings) (hsequence : left.sequence = right.sequence)
    (received : Bytes) : left.refusesSignature received = right.refusesSignature received := by
  simp only [refusesSignature, hsigner, hsettings, hsequence]

/-- The first deciding message decides the wait, and what comes later is still to
be delivered. -/
theorem await_decidedBy {start : Session τ} {response : Packet} {before later : List Bytes}
    {message : Bytes} {last : τ} (checkStatus : Bool)
    (hfirst : FirstDeciding response.messageRoom response.expectedCommand before message)
    (hdelivers : Delivers start.settings.responseWait start.transport
      (before ++ message :: later) last) :
    DecidedBy start response.messageRoom response.expectedCommand before message checkStatus
        (start.await response checkStatus).1 (start.await response checkStatus).2.1
        (start.await response checkStatus).2.2 ∧
      Delivers start.settings.responseWait (start.await response checkStatus).2.1.transport
        later last := by
  obtain ⟨middle, hbefore, hnext, hlater⟩ := Transport.delivers_append.mp hdelivers
  obtain ⟨hdeliveries, hsettings, hsigner, hsequence⟩ :=
    passOverAll_effect start response before
  obtain ⟨hroom, hcommand⟩ := foldl_fill_keeps response before
  have htransport := transport_passOverAll response hbefore
  have hrefuses := refusesSignature_congr hsigner hsettings hsequence message
  have hdecided := await_decidedBy_next (start.passOverAll response before)
    (before.foldl Packet.fill response) checkStatus
    (by rw [htransport, hsettings]; exact hnext)
    (by rw [hroom, hcommand]; exact hfirst.2)
  rw [← await_passOverAll hbefore hfirst.1, hroom, hcommand] at hdecided
  obtain ⟨hresult, ⟨packets, hpackets, hhanded⟩, hconsumed, hholds⟩ := hdecided
  rw [List.forall₂_nil_right_iff] at hpackets
  subst hpackets
  rw [htransport, hsettings] at hconsumed
  have hafter : (Transport.next middle start.settings.responseWait).transport =
      (start.await response checkStatus).2.1.transport := hconsumed.2
  refine ⟨⟨?_, ⟨handed response before, ?_, ?_⟩, ?_, hholds⟩, ?_⟩
  · rw [hresult, verdict, verdict, hrefuses]
  · exact forall₂_holds_handed response fun earlier hearlier =>
      (not_decides_iff.mp (hfirst.1 earlier hearlier)).1
  · rw [hhanded, hdeliveries, List.map_nil, List.append_nil]
  · exact Transport.delivers_append.mpr ⟨middle, hbefore, hnext, hafter⟩
  · rw [← hafter]
    exact hlater

/-! ## The exchange around it -/

/-- What only reports on the past plays no part in how a wait is decided. -/
theorem DecidedBy.of_core_eq {start start' after after' : Session τ} {room : Nat}
    {command : UInt8} {before : List Bytes} {message : Bytes} {checkStatus : Bool}
    {result : Except Fault Unit} {response : Packet}
    (hdecided : DecidedBy start room command before message checkStatus result after response)
    (hstart : start.core = start'.core) (hafter : after.core = after'.core) :
    DecidedBy start' room command before message checkStatus result after' response := by
  obtain ⟨htransport, hsink, hsettings, hsigner, hsequence, hdeliveries⟩ := eq_of_core_eq hstart
  obtain ⟨hleft, -, -, -, -, hhanded⟩ := eq_of_core_eq hafter
  obtain ⟨hresult, ⟨packets, hpackets, hdelivered⟩, hconsumed, hholds⟩ := hdecided
  refine ⟨?_, ⟨packets, hpackets, ?_⟩, ?_, hholds⟩
  · rw [hresult, verdict, verdict, refusesSignature_congr hsigner hsettings hsequence]
  · rw [← hhanded, hdelivered, hdeliveries, hsink]
  · rw [← htransport, ← hsettings, ← hleft]
    exact hconsumed

/-- The session that waits for the response to a request: sending has used up a
number if there is a signer, and otherwise only changed the transport. -/
def afterSending (session : Session τ) (request : Packet) : Session τ :=
  { session.advance with transport := (session.sendOnly request).2.1.transport }

theorem core_afterSending {session : Session τ} {request : Packet}
    (hsent : (session.sendOnly request).1 = .ok ()) :
    (session.sendOnly request).2.1.core = (session.afterSending request).core := by
  have hcore := (session.transmit_of_fits request (session.fits_of_sent request hsent)).2
  have htransport := (eq_of_core_eq hcore).1
  rw [afterSending, sendOnly, hcore, htransport]

/-- What an exchange waits with: the transport that sending leaves, and the time it was told. -/
theorem waiting_of_core_eq {session sent : Session τ} {request : Packet}
    (hcore : sent.core = (session.transmit request).2.1.core)
    (hsent : (session.sendOnly request).1 = .ok ()) :
    sent.transport = (session.afterSending request).transport ∧
      sent.settings.responseWait = session.settings.responseWait := by
  obtain ⟨htransport, -, hsettings, -⟩ := eq_of_core_eq (hcore.trans (core_afterSending hsent))
  exact ⟨htransport, congrArg Settings.responseWait hsettings⟩

theorem transport_afterSending {session : Session τ} {request : Packet}
    (hfits : request.Fits) :
    (session.afterSending request).transport = (session.handOver request).2 :=
  (eq_of_core_eq (session.transmit_of_fits request hfits).2).1

/-- An exchange whose request is sent, and a wait for a further response, are
decided by the first deciding message that the transport delivers: the messages
before it go to the sink, it alone gives the result, and what is delivered
later is left to the transport. -/
theorem exchange_and_receiveResponse_decidedBy_first (session : Session τ)
    (response : Packet) (checkStatus : Bool) (before later : List Bytes) (message : Bytes)
    (last : τ) :
    (∀ request : Packet,
      (session.sendOnly request).1 = .ok () →
      FirstDeciding response.messageRoom request.expectedCommand before message →
      Delivers session.settings.responseWait (session.afterSending request).transport
        (before ++ message :: later) last →
      DecidedBy (session.afterSending request) response.messageRoom request.expectedCommand
          before message checkStatus
          (session.exchange request response checkStatus).result
          (session.exchange request response checkStatus).session
          (session.exchange request response checkStatus).response ∧
        Delivers session.settings.responseWait
          (session.exchange request response checkStatus).session.transport later last) ∧
    (∀ command : UInt8,
      FirstDeciding response.messageRoom command before message →
      Delivers session.settings.responseWait session.transport
        (before ++ message :: later) last →
      DecidedBy session response.messageRoom command before message checkStatus
          (session.receiveResponse response command checkStatus).1
          (session.receiveResponse response command checkStatus).2.1
          (session.receiveResponse response command checkStatus).2.2 ∧
        Delivers session.settings.responseWait
          (session.receiveResponse response command checkStatus).2.1.transport later last) := by
  constructor
  · intro request hsent hfirst hdelivers
    obtain ⟨sent, hcore, hresult, hsession, hresponse⟩ :=
      session.exchange_of_sent request response checkStatus hsent
    have hstart := hcore.trans (core_afterSending hsent)
    obtain ⟨htransport, -, hsettings, -⟩ := eq_of_core_eq hstart
    have hend := (eq_of_core_eq hsession).1
    have hroom := messageRoom_awaiting response request.expectedCommand
    have hwait : sent.settings.responseWait = session.settings.responseWait :=
      congrArg Settings.responseWait hsettings
    rw [← hroom] at hfirst ⊢
    rw [← htransport, ← hwait] at hdelivers
    obtain ⟨hdecided, hlater⟩ := await_decidedBy checkStatus hfirst hdelivers
    rw [hresult, hresponse, hend, ← hwait]
    exact ⟨hdecided.of_core_eq hstart hsession.symm, hlater⟩
  · intro command hfirst hdelivers
    have hroom := messageRoom_awaiting response command
    rw [← hroom] at hfirst ⊢
    exact await_decidedBy checkStatus hfirst hdelivers

/-- Two messages with other commands are passed over.  The echo behind them
reports an error, but is refused for its signature first; a second echo stays on
the transport. -/
theorem exchange_decidedBy_third_message :
    let echo : Bytes := Packet.marker ++ [0x2B, 1, 0, 2] ++ List.replicate 29 0
    let messages : List Bytes :=
      [Packet.marker ++ [0x24] ++ List.replicate 27 7,
        Packet.marker ++ [0xA0] ++ List.replicate 500 7, echo, echo]
    let signer : Signer :=
      ⟨fun _ _ => ⟨List.replicate 8 1, rfl⟩, fun message _ => message.byteAt 14 == 1⟩
    let session : Session Replay :=
      (Session.new ⟨messages⟩ (.channel ⟨true⟩) ⟨true, 1, 100, 100, 549, false⟩).enableSigning
        signer 0xFFFFFFFF
    let request := (Packet.blank 549 (by decide)).setCommand 0x2B
    let response := Packet.blank 549 (by decide)
    (session.exchange request response true).result = .error .signatureMismatch ∧
      (session.exchange request response true).session.deliveries.length = 2 ∧
      (session.exchange request response true).session.transport = ⟨[echo]⟩ := by
  intro echo messages signer session request response
  have hfits : request.Fits := by decide +kernel
  have hcommand : request.expectedCommand = 0x2B := rfl
  have hroom : response.messageRoom = 545 := by decide +kernel
  have hsent : (session.sendOnly request).1 = .ok () := (session.transmit_of_fits request hfits).1
  have hstart : (session.afterSending request).transport = ⟨messages⟩ :=
    transport_afterSending hfits
  have hfirst : FirstDeciding response.messageRoom request.expectedCommand
      (messages.take 2) echo := by
    rw [hroom, hcommand]
    decide +kernel
  have hdelivers : Delivers session.settings.responseWait
      (session.afterSending request).transport (messages.take 2 ++ echo :: [echo])
      (⟨[]⟩ : Replay) := by
    rw [hstart]
    exact Replay.delivers _ messages []
  obtain ⟨⟨hresult, ⟨packets, hpackets, hhanded⟩, hconsumed, -⟩, -⟩ :=
    (exchange_and_receiveResponse_decidedBy_first session response true (messages.take 2)
      [echo] echo ⟨[]⟩).1 request hsent hfirst hdelivers
  refine ⟨?_, ?_, ?_⟩
  · rw [hresult, hroom]
    rfl
  · have hcount : packets.length = 2 := hpackets.length_eq
    rw [hhanded, List.length_append, List.length_map, hcount]
    rfl
  · rw [hstart] at hconsumed
    exact hconsumed.2.2.2.symm

end SmbExchange.Session
