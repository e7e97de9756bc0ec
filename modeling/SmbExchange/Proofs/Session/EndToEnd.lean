import SmbExchange.Proofs.Packet.Described
import SmbExchange.Proofs.Session.Parties
import SmbExchange.Proofs.Session.Residue
import SmbExchange.Proofs.Transport.InTime

/-!
# From the wire to the caller

The peer answers a request with a message in a frame.  The bytes of the frame
come in chunks, keep-alives and messages with other commands before them, and
the messages leave their traces in the buffer that the answer is put into.  None
of this matters: what the caller reads from the response is what the message
says.
-/

namespace SmbExchange

open SmbExchange.Frame (Whole)
open Transport (Delivers)

namespace Session

/-! ## Frames on the way -/

/-- A frame that a wait for a command does not end at: a keep-alive, or a message with another
command that has a whole header and fits the room. -/
def PassedOver (room : Nat) (command : UInt8) (frame : Whole) : Prop :=
  frame.kind = Frame.keepAliveKind ∨
    frame.kind = Frame.messageKind ∧ Packet.minimumMessage ≤ frame.payload.length ∧
      frame.payload.length ≤ room ∧ frame.payload.byteAt 4 ≠ command

instance (room : Nat) (command : UInt8) (frame : Whole) :
    Decidable (PassedOver room command frame) :=
  inferInstanceAs (Decidable (_ ∨ _))

theorem not_decides_of_passedOver {room : Nat} {command : UInt8} {frames : List Whole}
    (hpassed : ∀ frame ∈ frames, PassedOver room command frame) :
    ∀ message ∈ Whole.messages frames, ¬ Decides room command message := by
  intro message hmessage
  obtain ⟨frame, hframe, rfl⟩ := List.mem_map.mp hmessage
  obtain ⟨hmem, hkind⟩ := List.mem_filter.mp hframe
  rcases hpassed frame hmem with hother | ⟨-, hheader, hroom, hcommand⟩
  · rw [hother] at hkind
    exact absurd hkind (by decide)
  · exact not_decides_iff.mpr ⟨hroom, hheader, hcommand⟩

/-! ## The response -/

section Response

variable {τ : Type} [Transport τ]

/-- An answer that describes itself is what the response reads, whatever was in its buffer. -/
theorem reads_exchange_of_answered (session : Session τ) (request response : Packet)
    (checkStatus : Bool) {others : List Bytes} {reply : Bytes} {last : τ}
    (hsent : (session.sendOnly request).1 = .ok ())
    (hothers : ∀ message ∈ others,
      ¬ Decides response.messageRoom request.expectedCommand message)
    (hanswers : Answers response.messageRoom request.expectedCommand reply)
    (hdescribes : Packet.DescribesItself reply)
    (hdelivers : Delivers session.settings.responseWait (session.afterSending request).transport
      (others ++ [reply]) last) :
    (session.exchange request response checkStatus).response.Reads reply ∧
      (session.exchange request response checkStatus).response.expectedCommand =
        request.expectedCommand := by
  rw [response_exchange_of_answers session response request checkStatus hsent hothers hanswers
    hdelivers]
  obtain ⟨-, hcommand⟩ := foldl_fill_keeps (awaiting response request.expectedCommand) others
  rw [← messageRoom_awaiting response request.expectedCommand] at hanswers
  obtain ⟨hcapacity, hshows⟩ := shows_foldl_fill _ others hanswers.1
  constructor
  · refine Packet.reads_of_shows hshows hdescribes ?_
    rw [hcapacity]
    exact Packet.add_length_le_of_fits hanswers.1
  · rw [Packet.expectedCommand_fill, hcommand, expectedCommand_awaiting]

/-- An exchange whose first wait fails has failed with it. -/
theorem result_exchange_of_failed (session : Session τ) (request response : Packet)
    (checkStatus : Bool) {fault : Fault} (hsent : (session.sendOnly request).1 = .ok ())
    (hfailed : (Transport.next (session.afterSending request).transport
      session.settings.responseWait).arrival = .failed fault) :
    (session.exchange request response checkStatus).result = .error fault := by
  obtain ⟨sent, hcore, hresult, -, -⟩ :=
    session.exchange_of_sent request response checkStatus hsent
  obtain ⟨htransport, hwait⟩ := waiting_of_core_eq hcore hsent
  rw [← htransport, ← hwait] at hfailed
  have harrival : (sent.incoming (awaiting response request.expectedCommand)).arrival =
      .failed fault := by
    rw [incoming, Transport.arrival_receive_of_no_message _ (by simp [hfailed]), hfailed]
  rw [hresult, await_of_failed harrival]

end Response

/-! ## Over a connection -/

section Connected

variable {session : Session Connection} {request : Packet}

/-- Frames that arrive within the wait for a response are delivered to the session that has sent
the request. -/
theorem exists_delivers_afterSending {chunks : List (Nat × Bytes)} {frames : List Whole}
    (hreachable : session.transport.Reachable)
    (hsent : (session.sendOnly request).1 = .ok ())
    (haccepted : ∀ frame ∈ frames, session.transport.framing.Accepts frame)
    (hbrings : session.transport.Brings
      (session.transport.pipe.clock + session.settings.responseWait) chunks
      (Whole.stream frames)) :
    ∃ last, Delivers session.settings.responseWait (session.afterSending request).transport
      (Whole.messages frames) last := by
  have hfits := session.fits_of_sent request hsent
  have hafter : (session.afterSending request).transport =
      (session.transport.write (session.wireFrame request)).2 := transport_afterSending hfits
  have hwritten := hreachable.write (session.wireFrame request)
  obtain ⟨rest, harriving⟩ := hbrings.exists_arrivingBy
  have htakes : session.transport.framing.Takes
      (session.transport.arrivingBy
        (session.transport.pipe.clock + session.settings.responseWait))
      (Whole.keepAlives frames) (Whole.messages frames) rest :=
    ⟨frames, haccepted, rfl, rfl, harriving⟩
  -- The frame that has been written is of no account for what arrives.
  obtain ⟨outgoing, hsame⟩ :=
    session.transport.exists_outgoing_write (session.wireFrame request)
  rw [hsame] at hafter hwritten
  rw [hafter]
  exact hwritten.exists_delivers htakes

end Connected

/-- A request has been sent, without a signature.  The peer writes frames that the wait passes over
and then the answer, in chunks that are all in time.  Then the exchange succeeds, and the response
reads the answer: every byte of it, its parameter words, its byte area and its status, whatever
the response packet and the frames before have left in the buffer. -/
theorem exchange_reads_answer (session : Session Connection) (request response : Packet)
    (chunks : List (Nat × Bytes)) (others : List Whole) (answer : Whole)
    (hreachable : session.transport.Reachable) (hunsigned : session.signer = none)
    (hsent : (session.sendOnly request).1 = .ok ())
    (hothers : ∀ frame ∈ others,
      PassedOver response.messageRoom request.expectedCommand frame)
    (hkind : answer.kind = Frame.messageKind)
    (hdescribes : Packet.DescribesItself answer.payload)
    (hcommand : answer.payload.byteAt 4 = request.expectedCommand)
    (hroom : answer.payload.length + Packet.headerRoom ≤ response.capacity)
    (haccepted : ∀ frame ∈ others ++ [answer], session.transport.framing.Accepts frame)
    (hbrings : session.transport.Brings
      (session.transport.pipe.clock + session.settings.responseWait) chunks
      (Whole.stream (others ++ [answer]))) :
    (session.exchange request response false).result = .ok () ∧
      (session.exchange request response false).response.Reads answer.payload ∧
      ((session.exchange request response false).response.isSuccess = true ↔
        Packet.declaresResponse answer.payload = true ∧
          (Packet.declaredStatus answer.payload).isSuccess = true) := by
  obtain ⟨last, hdelivers⟩ := exists_delivers_afterSending hreachable hsent haccepted hbrings
  rw [Whole.messages_append, Whole.messages_message hkind, Whole.messages_nil] at hdelivers
  have hpassed := not_decides_of_passedOver hothers
  have hanswers : Answers response.messageRoom request.expectedCommand answer.payload := by
    refine ⟨?_, ?_, hcommand⟩
    · rw [Packet.messageRoom]
      omega
    · rw [← show _ = answer.payload.length from hdescribes, Packet.minimumMessage,
        Packet.declaredStart]
      omega
  obtain ⟨hresult, -⟩ :=
    session.exchange_of_answered request response false hsent hpassed hanswers hdelivers
  obtain ⟨hreads, hexpected⟩ := session.reads_exchange_of_answered request response false hsent
    hpassed hanswers hdescribes hdelivers
  refine ⟨?_, hreads, ?_⟩
  · have hsigner : session.advance.signer = none := hunsigned
    rw [hresult, refusesSignature, hsigner]
    rfl
  · rw [hreads.isSuccess_eq, hexpected, hcommand, beq_self_eq_true, Bool.and_true,
      Bool.and_eq_true]

/-- A keep-alive, a message that is longer than the answer, and the answer, cut within both
messages.  The response packet was full of other bytes. -/
theorem exchange_reads_answer_over_longer_message :
    let answer : Bytes := Packet.marker ++ [0x2B, 0, 0, 0, 0, 0x80] ++ List.replicate 22 0 ++
      [1, 0x34, 0x12, 3, 0, 7, 8, 9]
    let other : Bytes := Packet.marker ++ [0x24] ++ List.replicate 60 0xBB
    let frames : List Whole :=
      [⟨0x85, 0, 0, 1, [7], rfl⟩, ⟨0, 0, 0, 65, other, rfl⟩, ⟨0, 0, 0, 40, answer, rfl⟩]
    let bytes := Whole.stream frames
    let session : Session Connection := Session.new
      ((Connection.new 1000).moves [.schedule 10 (.send (bytes.take 20)),
        .schedule 40 (.send ((bytes.drop 20).take 70)), .schedule 90 (.send (bytes.drop 90))])
      (.channel ⟨true⟩) ⟨true, 1, 100, 50, 549, false⟩
    let request := (Packet.blank 549 (by decide)).setCommand 0x2B
    let response := (Packet.blank 549 (by decide)).patch 4 (List.replicate 545 0xEE)
    let exchanged := session.exchange request response false
    exchanged.result = .ok () ∧ exchanged.response.message = .ok answer ∧
      exchanged.response.parameter 0 = .ok 0x1234 ∧ exchanged.response.bytes = .ok [7, 8, 9] ∧
      exchanged.response.status = .legacy 0 0 ∧ exchanged.response.isSuccess = true := by
  intro answer other frames bytes session request response exchanged
  have hfits : request.Fits := by decide +kernel
  have hsent : (session.sendOnly request).1 = .ok () := (session.transmit_of_fits request hfits).1
  have hroom : response.capacity = 549 := by decide +kernel
  have hlimit : session.transport.framing.limit = 1000 := by decide +kernel
  have hbrings : session.transport.Brings
      (session.transport.pipe.clock + session.settings.responseWait)
      [(10, bytes.take 20), (40, (bytes.drop 20).take 70), (90, bytes.drop 90)] bytes :=
    ⟨⟨[], by decide +kernel⟩, by decide +kernel, by decide +kernel, ⟨[], by decide +kernel⟩⟩
  obtain ⟨hresult, hreads, hsuccess⟩ := exchange_reads_answer session request response _
    (frames.take 2) ⟨0, 0, 0, 40, answer, rfl⟩ ⟨1000, _, rfl⟩ rfl hsent (by decide +kernel) rfl
    (by decide) (by decide) (by decide +kernel) (by decide +kernel) hbrings
  exact ⟨hresult, hreads.message_eq, hreads.parameter_eq 0 (by decide), hreads.bytes_eq,
    hreads.status_eq.trans (by decide), hsuccess.mpr (by decide)⟩

/-- An answer that fits the response packet, but not the limit of the transport. -/
theorem exchange_refuses_answer_beyond_limit :
    let answer : Bytes := Packet.marker ++ [0x2B] ++ List.replicate 27 0 ++ [0, 65, 0] ++
      List.replicate 65 7
    let session : Session Connection := Session.new
      ((Connection.new 64).moves [.schedule 0 (.send ([0, 0, 0, 100] ++ answer))])
      (.channel ⟨true⟩) ⟨true, 1, 100, 50, 549, false⟩
    let request := (Packet.blank 549 (by decide)).setCommand 0x2B
    let response := Packet.blank 549 (by decide)
    Packet.DescribesItself answer ∧ answer.take 4 = Packet.marker ∧
      answer.byteAt 4 = request.expectedCommand ∧
      answer.length + Packet.headerRoom ≤ response.capacity ∧
      session.transport.Reachable ∧ session.signer = none ∧
      (session.sendOnly request).1 = .ok () ∧
      (session.exchange request response false).result = .error (.oversizedPacket 100) := by
  intro answer session request response
  have hreachable : session.transport.Reachable :=
    ⟨64, [.schedule 0 (.send ([0, 0, 0, 100] ++ answer))], rfl⟩
  have hfits : request.Fits := by decide +kernel
  have hsent : (session.sendOnly request).1 = .ok () := (session.transmit_of_fits request hfits).1
  have hfailed : (Transport.next (session.afterSending request).transport
      session.settings.responseWait).arrival = .failed (.oversizedPacket 100) := by
    rw [transport_afterSending hfits]
    decide +kernel
  exact ⟨by decide, by decide, by decide, by decide +kernel, hreachable, rfl, hsent,
    session.result_exchange_of_failed request response false hsent hfailed⟩

end Session

end SmbExchange
