import Mathlib.Data.List.Forall2
import SmbExchange.Proofs.Packet.View
import SmbExchange.Proofs.Session.Sequence

/-!
# What becomes of the messages that arrive

Each message that arrives during an operation goes to the sink, except for the last
one, which may end the operation: as the response, or because its length is refused.
An operation that gives up has handed all that arrived to the sink.
-/

namespace SmbExchange

namespace Session

/-- A message that is too long for the room or too short for a header. -/
def Refused (room : Nat) (message : Bytes) : Prop :=
  room < message.length ∨ message.length < Packet.minimumMessage

instance (room : Nat) (message : Bytes) : Decidable (Refused room message) :=
  inferInstanceAs (Decidable (_ ∨ _))

theorem not_refused_iff {room : Nat} {message : Bytes} :
    ¬ Refused room message ↔ message.length ≤ room ∧ Packet.minimumMessage ≤ message.length := by
  simp only [Refused, not_or, Nat.not_lt]

/-- A packet goes to the sink with a message that is neither refused nor awaited.  It expects the
awaited command, and where none is awaited the command of the message. -/
structure HandedOn (awaited? : Option UInt8) (room : Nat) (packet : Packet) (message : Bytes) :
    Prop where
  shows : packet.Shows message
  kept : ¬ Refused room message
  other : awaited? ≠ some (message.byteAt 4)
  expected_eq : packet.expectedCommand = awaited?.getD (message.byteAt 4)

theorem of_mem_handedOn {awaited? : Option UInt8} {room : Nat} {packets : List Packet}
    {handed : List Bytes} (hhanded : List.Forall₂ (HandedOn awaited? room) packets handed) :
    ∀ message ∈ handed, ¬ Refused room message ∧ awaited? ≠ some (message.byteAt 4) := by
  induction hhanded with
  | nil => simp
  | cons hfirst _ ih =>
    rw [List.forall_mem_cons]
    exact ⟨⟨hfirst.kept, hfirst.other⟩, ih⟩

/-- From one session to a later one, these messages went to the sink, in order and one packet
each, and then at most one more arrived, which is refused or awaited and found in the packet that
is left.  Success takes one that is not refused. -/
structure Sifted {τ : Type} (start : Session (Taped τ)) (awaited? : Option UInt8) (room : Nat)
    (succeeds : Bool) (after : Session (Taped τ)) (found : Packet) (handed last : List Bytes) :
    Prop where
  arrived_eq : after.transport.arrived = start.transport.arrived ++ (handed ++ last)
  delivered : ∃ packets, List.Forall₂ (HandedOn awaited? room) packets handed ∧
    after.deliveries = start.deliveries ++ packets.map start.sink.process
  length_last : last.length ≤ 1
  decided : ∀ message ∈ last,
    Refused room message ∨ awaited? = some (message.byteAt 4) ∧ found.Shows message
  answered : succeeds = true → ∃ message, last = [message] ∧ ¬ Refused room message

namespace Sifted

variable {τ : Type} {start after : Session (Taped τ)} {awaited? : Option UInt8} {room : Nat}
variable {succeeds : Bool} {found : Packet} {handed last : List Bytes}

/-- Nothing was handed to the sink, and one message at most was refused. -/
theorem of_refused (harrived : after.transport.arrived = start.transport.arrived ++ last)
    (hdeliveries : after.deliveries = start.deliveries) (hlength : last.length ≤ 1)
    (hrefused : ∀ message ∈ last, Refused room message) :
    Sifted start awaited? room false after found [] last where
  arrived_eq := harrived
  delivered := ⟨[], .nil, by rw [hdeliveries, List.map_nil, List.append_nil]⟩
  length_last := hlength
  decided message hmem := .inl (hrefused message hmem)
  answered hsucceeds := absurd hsucceeds Bool.false_ne_true

/-- One message went to the sink before. -/
theorem cons {middle : Session (Taped τ)} {message : Bytes} {packet : Packet}
    (hlater : Sifted middle awaited? room succeeds after found handed last)
    (harrived : middle.transport.arrived = start.transport.arrived ++ [message])
    (hsink : middle.sink = start.sink)
    (hdeliveries : middle.deliveries = start.deliveries ++ [start.sink.process packet])
    (hhanded : HandedOn awaited? room packet message) :
    Sifted start awaited? room succeeds after found (message :: handed) last := by
  obtain ⟨packets, hpackets, hdelivered⟩ := hlater.delivered
  refine ⟨?_, ⟨packet :: packets, .cons hhanded hpackets, ?_⟩, hlater.length_last,
    hlater.decided, hlater.answered⟩
  · rw [hlater.arrived_eq, harrived, List.append_assoc]
    rfl
  · rw [hdelivered, hdeliveries, hsink, List.append_assoc]
    rfl

/-- Only what has arrived, the sink and what became of packets play a part. -/
theorem congr {start' after' : Session (Taped τ)}
    (hsifted : Sifted start awaited? room succeeds after found handed last)
    (harrived : start.transport.arrived = start'.transport.arrived)
    (hsink : start.sink = start'.sink) (hdeliveries : start.deliveries = start'.deliveries)
    (hafter : after.core = after'.core) :
    Sifted start' awaited? room succeeds after' found handed last := by
  obtain ⟨htransport, -, -, -, -, hdelivered⟩ := eq_of_core_eq hafter
  obtain ⟨packets, hpackets, hhanded⟩ := hsifted.delivered
  refine ⟨?_, ⟨packets, hpackets, ?_⟩, hsifted.length_last, hsifted.decided, hsifted.answered⟩
  · rw [← htransport, hsifted.arrived_eq, harrived]
  · rw [← hdelivered, hhanded, hdeliveries, hsink]

end Sifted

/-! ## A wait -/

/-- A status is never reported as a wait that came to nothing. -/
theorem fst_conclude_ne_timeout {τ : Type} (session : Session τ) (response : Packet)
    (length : Nat) (checkStatus : Bool) :
    (session.conclude response length checkStatus).1 ≠ .error .timeout := by
  rw [fst_conclude]
  split
  · simp
  · split
    · rw [Packet.checkForError]
      cases response.status <;> split <;> simp [Fault.ofStatus]
    · simp

section Waiting

variable {τ : Type} [Transport τ]

/-- A wait that fails has lost no message but one that is too long. -/
theorem upcoming_of_failed {session : Session (Taped τ)} {response : Packet} {fault : Fault}
    (harrival : (session.incoming response).arrival = .failed fault) :
    session.upcoming.length ≤ 1 ∧
      (∀ message ∈ session.upcoming, response.messageRoom < message.length) ∧
      (fault = .timeout → session.upcoming = []) := by
  rcases Transport.arrival_receive_cases session.transport response.messageRoom
    session.settings.responseWait with hsame | ⟨message, hnext, hlong, hrefused⟩
  · have hnone : session.upcoming = [] := by
      rw [upcoming, ← hsame, harrival]
      rfl
    rw [hnone]
    exact ⟨Nat.zero_le 1, by simp, fun _ => rfl⟩
  · have hone : session.upcoming = [message] := by
      rw [upcoming, hnext]
      rfl
    rw [hone]
    refine ⟨Nat.le_refl 1, by simpa using hlong, ?_⟩
    intro htimeout
    rw [harrival, htimeout] at hrefused
    simp at hrefused

/-- A wait hands messages to the sink until one decides it, or until no message comes in time. -/
theorem await_sifted (session : Session (Taped τ)) (response : Packet) (checkStatus : Bool) :
    ∃ handed last,
      Sifted session (some response.expectedCommand) response.messageRoom
          (session.await response checkStatus).1.isOk
          (session.await response checkStatus).2.1 (session.await response checkStatus).2.2
          handed last ∧
        ((session.await response checkStatus).1 = .error .timeout → last = []) := by
  induction session, response using await_induction with
  | nothing session response harrival =>
    have hrecords := records_incoming session response
    have hnone : session.upcoming = [] := by
      rcases Transport.arrival_receive_cases session.transport response.messageRoom
        session.settings.responseWait with hsame | ⟨message, -, -, hfailed⟩
      · rw [upcoming, ← hsame, harrival]
        rfl
      · exact absurd (harrival.symm.trans hfailed) (by simp)
    rw [hnone] at hrecords
    refine ⟨[], [], ?_, fun _ => rfl⟩
    rw [await_of_nothing harrival]
    exact .of_refused hrecords.arrived_eq rfl (Nat.zero_le 1) (by simp)
  | failed session response fault harrival =>
    have hrecords := records_incoming session response
    obtain ⟨hlength, hrefused, htimeout⟩ := upcoming_of_failed harrival
    refine ⟨[], session.upcoming, ?_, ?_⟩
    · rw [await_of_failed harrival]
      refine .of_refused ?_ ?_ hlength fun message hmem => .inl (hrefused message hmem)
      · cases fault.isTransportFailure <;> exact hrecords.arrived_eq
      · cases fault.isTransportFailure <;> rfl
    · rw [await_of_failed harrival]
      intro hresult
      exact htimeout (Except.error.inj hresult)
  | short session response message harrival hshort =>
    have hrecords := records_incoming session response
    rw [upcoming_of_message harrival] at hrecords
    refine ⟨[], [message], ?_, ?_⟩
    · rw [await_of_message harrival, if_pos hshort]
      refine .of_refused hrecords.arrived_eq rfl (Nat.le_refl 1) ?_
      intro other hmem
      rw [List.mem_singleton.mp hmem]
      exact .inr hshort
    · rw [await_of_message harrival, if_pos hshort]
      simp
  | other session response message harrival hheader hother ih =>
    obtain ⟨handed, last, hsifted, htimeout⟩ := ih
    have hfits := (Transport.next_of_arrival_receive harrival).2
    have hlong := Nat.not_lt.mp hheader
    have hrecords := records_incoming session response
    rw [upcoming_of_message harrival] at hrecords
    have hawait : session.await response checkStatus = _ := await_of_message harrival
    rw [if_neg hheader, if_pos hother] at hawait
    rw [Packet.messageRoom_fill, Packet.expectedCommand_fill] at hsifted
    have hhanded : HandedOn (some response.expectedCommand) response.messageRoom
        (response.fill message) message := by
      refine ⟨Packet.shows_fill hfits, not_refused_iff.mpr ⟨hfits, hlong⟩, ?_, rfl⟩
      rw [Packet.command_fill hfits hlong] at hother
      exact fun hawaited => hother (Option.some.inj hawaited).symm
    refine ⟨message :: handed, last, ?_, ?_⟩
    · rw [hawait]
      exact hsifted.cons hrecords.arrived_eq rfl (deliveries_passOver session response message)
        hhanded
    · rw [hawait]
      exact htimeout
  | answer session response message harrival hheader hcommand =>
    have hfits := (Transport.next_of_arrival_receive harrival).2
    have hlong := Nat.not_lt.mp hheader
    have hrecords := records_incoming session response
    rw [upcoming_of_message harrival] at hrecords
    refine ⟨[], [message], ?_, ?_⟩
    · rw [await_of_message harrival, if_neg hheader, if_neg hcommand]
      refine ⟨?_, ⟨[], .nil, ?_⟩, Nat.le_refl 1, ?_, fun _ => ⟨message, rfl, ?_⟩⟩
      · rw [transport_conclude]
        exact hrecords.arrived_eq
      · rw [deliveries_conclude]
        exact (List.append_nil _).symm
      · intro other hmem
        rw [List.mem_singleton.mp hmem]
        rw [Packet.command_fill hfits hlong] at hcommand
        exact .inr ⟨congrArg some (Decidable.not_not.mp hcommand).symm, Packet.shows_fill hfits⟩
      · exact not_refused_iff.mpr ⟨hfits, hlong⟩
    · intro hresult
      rw [await_of_message harrival, if_neg hheader, if_neg hcommand] at hresult
      exact absurd hresult (fst_conclude_ne_timeout _ _ _ _)

end Waiting

/-! ## A wait for an unsolicited packet -/

section Polling

variable {τ : Type} [Transport τ]

abbrev unsolicited (session : Session τ) (packet : Packet) (wait : Nat) : Transport.Receipt τ :=
  Transport.receive session.transport packet.reset.messageRoom wait

section OneMessage

variable {session : Session τ} {packet : Packet} {wait : Nat}

theorem receiveAsync_of_nothing
    (harrival : (session.unsolicited packet wait).arrival = .nothing) :
    session.receiveAsync packet wait =
      (.ok false, session.absorb (session.unsolicited packet wait), packet.reset) := by
  simp only [receiveAsync, harrival]

theorem receiveAsync_of_failed {fault : Fault}
    (harrival : (session.unsolicited packet wait).arrival = .failed fault) :
    session.receiveAsync packet wait =
      (.error fault, session.absorb (session.unsolicited packet wait), packet.reset) := by
  simp only [receiveAsync, harrival]

/-- A message is refused when it is too short, and goes to the sink otherwise. -/
theorem receiveAsync_of_message {message : Bytes}
    (harrival : (session.unsolicited packet wait).arrival = .message message) :
    session.receiveAsync packet wait =
      if message.length < Packet.minimumMessage then
        (.error (.shortReceive message.length),
          ((session.absorb (session.unsolicited packet wait)).countReceived
            message.length).refuseShort message.length,
          packet.reset.fill message)
      else
        let addressed := (packet.reset.fill message).expect (packet.reset.fill message).command
        (.ok true,
          (((session.absorb (session.unsolicited packet wait)).countReceived
            message.length).log [.asyncReceived addressed.command message.length]).deliver
              addressed,
          addressed) := by
  simp only [receiveAsync, harrival]
  rfl

end OneMessage

/-- A wait for an unsolicited packet hands at most one message to the sink. -/
theorem receiveAsync_sifted (session : Session (Taped τ)) (packet : Packet) (wait : Nat) :
    ∃ handed last,
      Sifted session none packet.messageRoom false (session.receiveAsync packet wait).2.1
          (session.receiveAsync packet wait).2.2 handed last ∧
        ((session.receiveAsync packet wait).1 = .ok false → last = []) := by
  have hrecords := Taped.records_next session.transport wait
  have hroom : packet.reset.messageRoom = packet.messageRoom :=
    congrArg (· - Packet.headerRoom) packet.capacity_reset
  rw [← Transport.transport_receive session.transport packet.reset.messageRoom wait] at hrecords
  rcases Transport.arrival_receive_cases session.transport packet.reset.messageRoom wait with
    hsame | ⟨message, hnext, hlong, hrefused⟩
  · cases harrival : (session.unsolicited packet wait).arrival with
    | nothing =>
      rw [← hsame, harrival] at hrecords
      refine ⟨[], [], ?_, fun _ => rfl⟩
      rw [receiveAsync_of_nothing harrival]
      exact .of_refused hrecords.arrived_eq rfl (Nat.zero_le 1) (by simp)
    | failed fault =>
      rw [← hsame, harrival] at hrecords
      refine ⟨[], [], ?_, fun _ => rfl⟩
      rw [receiveAsync_of_failed harrival]
      exact .of_refused hrecords.arrived_eq rfl (Nat.zero_le 1) (by simp)
    | message message =>
      have hfits := (Transport.next_of_arrival_receive harrival).2
      rw [← hsame, harrival] at hrecords
      have hreceived := receiveAsync_of_message harrival
      by_cases hshort : message.length < Packet.minimumMessage
      · rw [if_pos hshort] at hreceived
        refine ⟨[], [message], ?_, by simp [hreceived]⟩
        rw [hreceived]
        refine .of_refused hrecords.arrived_eq rfl (Nat.le_refl 1) ?_
        intro other hmem
        rw [List.mem_singleton.mp hmem]
        exact .inr hshort
      · rw [if_neg hshort] at hreceived
        have hlong := Nat.not_lt.mp hshort
        have hhanded : HandedOn none packet.messageRoom
            ((packet.reset.fill message).expect (packet.reset.fill message).command) message :=
          ⟨Packet.shows_fill hfits, not_refused_iff.mpr ⟨hroom ▸ hfits, hlong⟩, by simp,
            Packet.command_fill hfits hlong⟩
        refine ⟨[message], [], ?_, fun _ => rfl⟩
        rw [hreceived]
        exact ⟨hrecords.arrived_eq, ⟨[_], .cons hhanded .nil, rfl⟩, Nat.zero_le 1, by simp,
          by simp⟩
  · rw [hnext] at hrecords
    refine ⟨[], [message], ?_, by simp [receiveAsync_of_failed hrefused]⟩
    rw [receiveAsync_of_failed hrefused]
    refine .of_refused hrecords.arrived_eq rfl (Nat.le_refl 1) ?_
    intro other hmem
    rw [List.mem_singleton.mp hmem]
    exact .inl (hroom ▸ hlong)

end Polling

/-! ## An exchange -/

section Exchanging

variable {τ : Type} [Transport τ] (session : Session (Taped τ)) (request : Packet)

/-- Sending a request takes nothing in and hands nothing to the sink. -/
theorem transmit_takes_nothing :
    (session.transmit request).2.1.transport.arrived = session.transport.arrived ∧
      (session.transmit request).2.1.sink = session.sink ∧
      (session.transmit request).2.1.deliveries = session.deliveries := by
  by_cases hfits : request.Fits
  · obtain ⟨htransport, hsink, -, -, -, hdeliveries⟩ :=
      eq_of_core_eq (session.transmit_of_fits request hfits).2
    rw [htransport, hsink, hdeliveries]
    exact ⟨rfl, rfl, rfl⟩
  · rw [session.transmit_of_not_fits request hfits]
    exact ⟨rfl, rfl, rfl⟩

/-- An exchange takes in what its wait takes in. -/
theorem exchange_sifted (response : Packet) (checkStatus : Bool) :
    ∃ handed last,
      Sifted session (some request.expectedCommand) response.messageRoom
          (session.exchange request response checkStatus).result.isOk
          (session.exchange request response checkStatus).session
          (session.exchange request response checkStatus).response handed last ∧
        ((session.exchange request response checkStatus).result = .error .timeout →
          last = []) := by
  obtain ⟨harrived, hsink, hdeliveries⟩ := session.transmit_takes_nothing request
  cases hresult : (session.transmit request).1 with
  | error fault =>
    obtain ⟨hended, hcore, -⟩ :=
      session.exchange_of_not_sent request response checkStatus hresult
    obtain ⟨htransport, -, -, -, -, hdelivered⟩ := eq_of_core_eq hcore
    refine ⟨[], [], ?_, fun _ => rfl⟩
    rw [hended]
    refine .of_refused ?_ ?_ (Nat.zero_le 1) (by simp)
    · rw [htransport, harrived, List.append_nil]
    · rw [hdelivered, hdeliveries]
  | ok _ =>
    obtain ⟨sent, hcore, hended, hafter, hfound⟩ :=
      session.exchange_of_sent request response checkStatus hresult
    obtain ⟨htransport, hsink', -, -, -, hdeliveries'⟩ := eq_of_core_eq hcore
    obtain ⟨handed, last, hsifted, htimeout⟩ :=
      sent.await_sifted (awaiting response request.expectedCommand) checkStatus
    rw [messageRoom_awaiting, expectedCommand_awaiting] at hsifted
    rw [hended, hfound]
    refine ⟨handed, last, hsifted.congr ?_ ?_ ?_ hafter.symm, htimeout⟩
    · rw [htransport, harrived]
    · rw [hsink', hsink]
    · rw [hdeliveries', hdeliveries]

end Exchanging

end Session

/-! ## Operations -/

namespace Operation

section Reports

variable {τ : Type} [Transport τ] (session : Session τ)

def GivesUp : Operation → Prop
  | exchange request response checkStatus =>
    (session.exchange request response checkStatus).result = .error .timeout
  | receiveResponse response command checkStatus =>
    (session.receiveResponse response command checkStatus).1 = .error .timeout
  | receiveAsync packet wait => (session.receiveAsync packet wait).1 = .ok false
  | _ => False

def response? : Operation → Option Packet
  | exchange request response checkStatus =>
    some (session.exchange request response checkStatus).response
  | receiveResponse response command checkStatus =>
    some (session.receiveResponse response command checkStatus).2.2
  | _ => none

def responds : Operation → Bool
  | exchange request response checkStatus =>
    (session.exchange request response checkStatus).result.isOk
  | receiveResponse response command checkStatus =>
    (session.receiveResponse response command checkStatus).1.isOk
  | _ => false

end Reports

/-- The command that an operation waits for, if it waits for one in particular. -/
def awaited? : Operation → Option UInt8
  | exchange request _ _ => some request.expectedCommand
  | receiveResponse _ command _ => some command
  | _ => none

def room? : Operation → Option Nat
  | exchange _ response _ => some response.messageRoom
  | receiveResponse response _ _ => some response.messageRoom
  | receiveAsync packet _ => some packet.messageRoom
  | _ => none

/-- The messages that arrive during an operation are those that go to the sink, in order and one
packet each, and then the response, if there is one.  An operation that gives up has none. -/
structure Disposes {τ : Type} [Transport τ] (session : Session τ) (operation : Operation)
    (handed answer : List Bytes) : Prop where
  arrived_eq : (operation.traffic session).arrived = handed ++ answer
  delivered : ∃ packets, List.Forall₂ Packet.Shows packets handed ∧
    (operation.apply session).deliveries =
      session.deliveries ++ packets.map session.sink.process
  unanswered : ∀ message ∈ handed, operation.isAnsweredBy message = false
  length_answer : answer.length ≤ 1
  answered : ∀ message ∈ answer, operation.isAnsweredBy message = true ∧
    ∃ response, operation.response? session = some response ∧ response.Shows message
  of_givesUp : operation.GivesUp session → answer = []

/-- The messages that arrive during an operation are those that go to the sink, in order and in
these packets, and then at most one more, which is refused or the awaited one. -/
structure Sifts {τ : Type} [Transport τ] (session : Session τ) (operation : Operation)
    (packets : List Packet) (handed last : List Bytes) : Prop where
  arrived_eq : (operation.traffic session).arrived = handed ++ last
  deliveries_eq : (operation.apply session).deliveries =
    session.deliveries ++ packets.map session.sink.process
  handedOn : List.Forall₂ (Session.HandedOn operation.awaited? (operation.room?.getD 0)) packets
    handed
  length_last : last.length ≤ 1
  decided : ∀ message ∈ last, Session.Refused (operation.room?.getD 0) message ∨
    operation.awaited? = some (message.byteAt 4) ∧
      ∃ response, operation.response? session = some response ∧ response.Shows message
  answered : operation.responds session = true →
    ∃ message, last = [message] ∧ ¬ Session.Refused (operation.room?.getD 0) message
  of_givesUp : operation.GivesUp session → last = []

variable {τ : Type} [Transport τ] {session : Session τ} {operation : Operation}

/-- What is sifted on a tape is what becomes of the messages without one. -/
theorem sifts_of_sifted (session : Session τ) (operation : Operation) {succeeds : Bool}
    {found : Packet} {handed last : List Bytes}
    (hsifted : Session.Sifted (session.mapTransport Taped.blank) operation.awaited?
      (operation.room?.getD 0) succeeds (operation.apply (session.mapTransport Taped.blank))
      found handed last)
    (hresponds : operation.responds session = succeeds)
    (hfound : operation.awaited? ≠ none → operation.response? session = some found)
    (hgives : operation.GivesUp session → last = []) :
    ∃ packets, operation.Sifts session packets handed last := by
  have huntaped := apply_untape (session.mapTransport Taped.blank) operation
  have hdeliveries : (operation.apply (session.mapTransport Taped.blank)).deliveries =
      (operation.apply session).deliveries := congrArg Session.deliveries huntaped
  obtain ⟨packets, hpackets, hdelivered⟩ := hsifted.delivered
  refine ⟨packets, hsifted.arrived_eq, ?_, hpackets, hsifted.length_last, ?_, ?_, hgives⟩
  · rw [← hdeliveries, hdelivered]
    rfl
  · intro message hmem
    refine (hsifted.decided message hmem).imp id ?_
    rintro ⟨hawaited, hshows⟩
    exact ⟨hawaited, found, hfound (by simp [hawaited]), hshows⟩
  · rw [hresponds]
    exact hsifted.answered

/-- An operation without room takes nothing in. -/
theorem arrived_of_no_room (hroom : operation.room? = none) :
    (operation.traffic session).arrived = [] := by
  cases operation with
  | enableSigning signer start => rfl
  | disableSigning => rfl
  | sendOnly request =>
    exact ((session.mapTransport Taped.blank).transmit_takes_nothing request).1
  | exchange request response checkStatus => simp [room?] at hroom
  | receiveResponse response command checkStatus => simp [room?] at hroom
  | receiveAsync packet wait => simp [room?] at hroom

/-- An operation that takes nothing in and hands nothing over. -/
theorem sifts_nothing (harrived : (operation.traffic session).arrived = [])
    (hdeliveries : (operation.apply session).deliveries = session.deliveries)
    (hresponds : operation.responds session = false) :
    operation.Sifts session [] [] [] where
  arrived_eq := harrived
  deliveries_eq := by rw [hdeliveries, List.map_nil, List.append_nil]
  handedOn := .nil
  length_last := Nat.zero_le 1
  decided := by simp
  answered := by simp [hresponds]
  of_givesUp _ := rfl

/-- Every operation, whatever comes of it. -/
theorem exists_sifts (session : Session τ) (operation : Operation) :
    ∃ handed last packets, operation.Sifts session packets handed last := by
  have hview := Taped.unnoticed_untape (τ := τ)
  cases operation with
  | enableSigning signer start => exact ⟨[], [], [], sifts_nothing rfl rfl rfl⟩
  | disableSigning => exact ⟨[], [], [], sifts_nothing rfl rfl rfl⟩
  | exchange request response checkStatus =>
    obtain ⟨handed, last, hsifted, htimeout⟩ :=
      (session.mapTransport Taped.blank).exchange_sifted request response checkStatus
    have hsame := Session.exchange_mapTransport hview (session.mapTransport Taped.blank)
      request response checkStatus
    have hresult := congrArg Session.Exchanged.result hsame
    exact ⟨handed, last, sifts_of_sifted session (.exchange request response checkStatus) hsifted
      (congrArg Except.isOk hresult)
      (fun _ => congrArg some (congrArg Session.Exchanged.response hsame))
      (fun hgives => htimeout (hresult.symm.trans hgives))⟩
  | sendOnly request =>
    obtain ⟨-, -, hdeliveries⟩ :=
      (session.mapTransport Taped.blank).transmit_takes_nothing request
    have huntaped := apply_untape (session.mapTransport Taped.blank) (.sendOnly request)
    have hsame := congrArg Session.deliveries huntaped
    exact ⟨[], [], [], sifts_nothing (arrived_of_no_room rfl) (hsame.symm.trans hdeliveries) rfl⟩
  | receiveResponse response command checkStatus =>
    obtain ⟨handed, last, hsifted, htimeout⟩ := (session.mapTransport Taped.blank).await_sifted
      (Session.awaiting response command) checkStatus
    have hsame := Session.await_mapTransport hview (session.mapTransport Taped.blank)
      (Session.awaiting response command) checkStatus
    have hresult := congrArg Prod.fst hsame
    rw [Session.messageRoom_awaiting, Session.expectedCommand_awaiting] at hsifted
    exact ⟨handed, last, sifts_of_sifted session (.receiveResponse response command checkStatus)
      hsifted (congrArg Except.isOk hresult)
      (fun _ => congrArg some (congrArg (fun outcome => outcome.2.2) hsame))
      (fun hgives => htimeout (hresult.symm.trans hgives))⟩
  | receiveAsync packet wait =>
    obtain ⟨handed, last, hsifted, hfalse⟩ :=
      (session.mapTransport Taped.blank).receiveAsync_sifted packet wait
    have hsame := Session.receiveAsync_mapTransport hview (session.mapTransport Taped.blank)
      packet wait
    exact ⟨handed, last, sifts_of_sifted session (.receiveAsync packet wait) hsifted rfl
      (fun hawaited => absurd rfl hawaited)
      (fun hgives => hfalse ((congrArg Prod.fst hsame).symm.trans hgives))⟩

theorem isAnsweredBy_iff {message : Bytes} :
    operation.isAnsweredBy message = true ↔
      ¬ Session.Refused (operation.room?.getD 0) message ∧
        operation.awaited? = some (message.byteAt 4) := by
  cases operation with
  | exchange request response checkStatus =>
    rw [isAnsweredBy, decide_eq_true_iff, Session.Answers, Session.not_refused_iff, and_assoc]
    simp only [room?, awaited?, Option.getD_some, Option.some.injEq, eq_comm]
  | receiveResponse response command checkStatus =>
    rw [isAnsweredBy, decide_eq_true_iff, Session.Answers, Session.not_refused_iff, and_assoc]
    simp only [room?, awaited?, Option.getD_some, Option.some.injEq, eq_comm]
  | _ => simp [isAnsweredBy, awaited?]

/-- Whatever an operation waits for, it loses no message that has a header and fits its room. -/
theorem exists_disposes (session : Session τ) (operation : Operation)
    (hheader : ∀ message ∈ (operation.traffic session).arrived,
      Packet.minimumMessage ≤ message.length)
    (hfits : ∀ room, operation.room? = some room →
      ∀ message ∈ (operation.traffic session).arrived, message.length ≤ room) :
    ∃ handed answer, operation.Disposes session handed answer := by
  obtain ⟨handed, last, packets, hsifts⟩ := exists_sifts session operation
  have hshown : List.Forall₂ Packet.Shows packets handed :=
    hsifts.handedOn.imp fun _ _ hhanded => hhanded.shows
  refine ⟨handed, last, hsifts.arrived_eq, ⟨packets, hshown, hsifts.deliveries_eq⟩, ?_,
    hsifts.length_last, ?_, hsifts.of_givesUp⟩
  · intro message hmem
    rw [← Bool.not_eq_true, isAnsweredBy_iff]
    exact fun hanswered => (Session.of_mem_handedOn hsifts.handedOn message hmem).2 hanswered.2
  · intro message hmem
    have harrived : message ∈ (operation.traffic session).arrived := by
      rw [hsifts.arrived_eq]
      exact List.mem_append_right handed hmem
    have hkept : ¬ Session.Refused (operation.room?.getD 0) message := by
      cases hroom : operation.room? with
      | none =>
        rw [arrived_of_no_room hroom] at harrived
        cases harrived
      | some room =>
        exact Session.not_refused_iff.mpr ⟨hfits room hroom message harrived,
          hheader message harrived⟩
    obtain ⟨hawaited, hfound⟩ := (hsifts.decided message hmem).resolve_left hkept
    exact ⟨isAnsweredBy_iff.mpr ⟨hkept, hawaited⟩, hfound⟩

end Operation

end SmbExchange
