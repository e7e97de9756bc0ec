import SmbExchange.Proofs.Packet.Padding
import SmbExchange.Proofs.Session.Notices

/-!
# Which messages are let in

A message is checked in two places.  Making a packet of it takes a whole header
that starts with the marker.  Receiving it into a packet takes a length that is
neither too short for a header nor too long for the room, and for a response the
awaited command and what is checked after it.  The marker is not among this, so
what is received can be made a packet of exactly if it happens to start with the
marker.
-/

namespace SmbExchange

/-- Making a packet of a message takes a whole header and the marker. -/
theorem Packet.isOk_ofMessage_iff {message : Bytes} (hheader : minimumMessage ≤ message.length) :
    ((ofMessage message).isOk = true ↔ marker <+: message) ∧
      (¬ marker <+: message → ofMessage message = .error .invalidHeader) := by
  rw [marker_isPrefix_iff, ofMessage, if_neg (Nat.not_lt.mpr hheader)]
  by_cases hmarker : message.take marker.length = marker
  · rw [if_neg (not_not_intro hmarker)]
    exact ⟨iff_of_true rfl hmarker, fun hnot => absurd hmarker hnot⟩
  · rw [if_pos hmarker]
    exact ⟨iff_of_false (by simp [Except.isOk, Except.toBool]) hmarker, fun _ => rfl⟩

namespace Operation

variable {τ : Type} [Transport τ]

/-- The response with which an operation succeeds: what arrived behind the messages that went to
the sink. -/
def answer (session : Session τ) (operation : Operation) : List Bytes :=
  if operation.responds session then
    (operation.traffic session).arrived.drop (operation.handed session).length
  else []

/-- The messages that an operation lets in, to the sink or as its response. -/
def admitted (session : Session τ) (operation : Operation) : List Bytes :=
  operation.handed session ++ operation.answer session

/-- An operation lets a message in: it is not refused for its length, and if it carries the
awaited command the operation succeeds with it. -/
def admits (session : Session τ) (operation : Operation) (message : Bytes) : Bool :=
  decide (¬ Session.Refused (operation.room?.getD 0) message) &&
    (operation.awaited? != some (message.byteAt 4) || operation.responds session)

/-- What an operation lets in is told from lengths, commands and its result, and it is what the
sink and the caller have. -/
structure Admission (session : Session τ) (operation : Operation) : Prop where
  admitted_eq : operation.admitted session =
    (operation.traffic session).arrived.filter (operation.admits session)
  delivered : ∃ packets, List.Forall₂ Packet.Shows packets (operation.handed session) ∧
    (operation.apply session).deliveries =
      session.deliveries ++ packets.map session.sink.process
  answered : operation.responds session = true →
    ∃ message response, operation.answer session = [message] ∧
      operation.response? session = some response ∧ response.Shows message

section Sifted

variable {session : Session τ} {operation : Operation} {packets : List Packet}
variable {handed last : List Bytes}

theorem Sifts.answer_eq (hsifts : operation.Sifts session packets handed last) :
    operation.answer session = if operation.responds session then last else [] := by
  rw [answer, hsifts.delivered_eq.2, hsifts.arrived_eq, List.drop_left]

theorem Sifts.admitted_eq_filter (hsifts : operation.Sifts session packets handed last) :
    operation.admitted session =
      (operation.traffic session).arrived.filter (operation.admits session) := by
  have hhanded : handed.filter (operation.admits session) = handed := by
    rw [List.filter_eq_self]
    intro message hmem
    obtain ⟨hkept, hother⟩ := Session.of_mem_handedOn hsifts.handedOn message hmem
    simp [admits, hkept, hother]
  -- One message at most is left, and success tells what has become of it.
  have hlast : last.filter (operation.admits session) =
      if operation.responds session then last else [] := by
    cases hresponds : operation.responds session with
    | true =>
      obtain ⟨message, rfl, hkept⟩ := hsifts.answered hresponds
      simp [admits, hkept, hresponds]
    | false =>
      rw [if_neg Bool.false_ne_true, List.filter_eq_nil_iff]
      intro message hmem
      rcases hsifts.decided message hmem with hrefused | ⟨hawaited, -⟩
      · simp [admits, hrefused]
      · simp [admits, hawaited, hresponds]
  rw [admitted, hsifts.delivered_eq.2, hsifts.answer_eq, hsifts.arrived_eq, List.filter_append,
    hhanded, hlast]

end Sifted

theorem admission (session : Session τ) (operation : Operation) :
    operation.Admission session := by
  obtain ⟨handed, last, packets, hsifts⟩ := operation.exists_sifts session
  refine ⟨hsifts.admitted_eq_filter, ⟨packets, ?_, hsifts.deliveries_eq⟩, fun hresponds => ?_⟩
  · rw [hsifts.delivered_eq.2]
    exact hsifts.handedOn.imp fun _ _ hhanded => hhanded.shows
  · obtain ⟨message, rfl, hkept⟩ := hsifts.answered hresponds
    obtain ⟨-, response, hfound, hshows⟩ :=
      (hsifts.decided message (List.mem_singleton_self message)).resolve_left hkept
    refine ⟨message, response, ?_, hfound, hshows⟩
    rw [hsifts.answer_eq, if_pos hresponds]

theorem minimumMessage_le_of_admitted (session : Session τ) (operation : Operation) :
    ∀ message ∈ operation.admitted session, Packet.minimumMessage ≤ message.length := by
  intro message hmem
  rw [(admission session operation).admitted_eq, List.mem_filter] at hmem
  have hkept : ¬ Session.Refused (operation.room?.getD 0) message := by
    have hadmits := (Bool.and_eq_true_iff.mp hmem.2).1
    exact of_decide_eq_true hadmits
  exact (Session.not_refused_iff.mp hkept).2

end Operation

namespace Session

variable {τ : Type} [Transport τ]

/-- Over any run every message that is let in has a whole header.  A packet can be made of it
exactly if it starts with the marker, and otherwise its header is refused.  What each operation
lets in of the messages that arrive is told by their lengths, their commands and its result. -/
theorem isOk_ofMessage_admitted_run (session : Session τ) (activities : List (Activity τ)) :
    (∀ message ∈ session.gather Operation.admitted activities,
        Packet.minimumMessage ≤ message.length ∧
          ((Packet.ofMessage message).isOk = true ↔ Packet.marker <+: message) ∧
          (¬ Packet.marker <+: message → Packet.ofMessage message = .error .invalidHeader)) ∧
      ∀ (state : Session τ) (operation : Operation), operation.Admission state := by
  refine ⟨fun message hmem => ?_, fun state operation => operation.admission state⟩
  have hheader :=
    forall_mem_gather Operation.minimumMessage_le_of_admitted session activities message hmem
  exact ⟨hheader, Packet.isOk_ofMessage_iff hheader⟩

/-- A message of another protocol answers an exchange, and one more goes to the sink. -/
theorem admitted_without_marker :
    let message : Bytes :=
      [0xFE, 0x53, 0x4D, 0x42, 0x2B, 0, 0, 0, 0, 0x80] ++ List.replicate 25 0
    let session : Session Replay :=
      Session.new ⟨[message, message]⟩ (.channel ⟨true⟩) ⟨true, 1, 100, 100, 549, false⟩
    let packet := Packet.blank 549 (by decide)
    let activities : List (Activity Replay) :=
      [.operate (.exchange (packet.setCommand 0x2B) packet true),
        .operate (.receiveAsync packet 100)]
    (session.exchange (packet.setCommand 0x2B) packet true).result.isOk = true ∧
      session.gather Operation.admitted activities = [message, message] ∧
      ¬ ∀ message ∈ session.gather Operation.admitted activities,
        (Packet.ofMessage message).isOk = true := by
  decide +kernel

end Session

end SmbExchange
