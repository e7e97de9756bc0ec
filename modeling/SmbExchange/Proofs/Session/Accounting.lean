import SmbExchange.Proofs.Session.Sequence
import SmbExchange.Transport.Connection

/-!
# Accounting for sequence numbers

Signing is enabled with a first number, and from then on each operation uses up
as many numbers as its tape shows frames and answers.  What the tape shows of
requests is fixed as well: one frame with the current number for a request that
fits its buffer, and nothing at all for one that does not.
-/

namespace SmbExchange

open Taped (Records)

variable {τ : Type} [Transport τ]

namespace Operation

/-- How many numbers an operation uses up: with a signer, one for each frame that
is handed over and one for each message that answers its wait. -/
def numbersUsed (session : Session τ) (operation : Operation) : Nat :=
  if session.signer.isSome then
    (operation.traffic session).written.length +
      (operation.traffic session).arrived.countP operation.isAnsweredBy
  else 0

structure HandsOver (session : Session τ) (operation : Operation) : Prop where
  /-- A request that fits its buffer is handed over in one frame, and with a signer
  this frame is signed with the number of the session. -/
  of_fits : ∀ request, operation.request? = some request → request.Fits →
    ∃ frame, (operation.traffic session).written = [frame] ∧
      ∀ signer, session.signer = some signer →
        Session.SignedWith signer session.sequence frame
  /-- For a request that does not fit, nothing is handed over and nothing is taken in. -/
  of_not_fits : ∀ request, operation.request? = some request → ¬ request.Fits →
    (operation.traffic session).written = [] ∧ (operation.traffic session).arrived = []
  /-- Without a request nothing is handed over. -/
  of_no_request : operation.request? = none → (operation.traffic session).written = []

/-! ## One operation -/

omit [Transport τ] in
def frames (session : Session τ) (operation : Operation) : List Bytes :=
  match operation.request? with
  | some request => session.frames request
  | none => []

/-- What an operation leaves on a tape, and the number that follows from it. -/
theorem apply_records (session : Session (Taped τ)) (operation : Operation) :
    ∃ taken, Records session.transport (operation.apply session).transport
        (operation.frames session) taken ∧
      (¬ operation.Enables → (operation.apply session).sequence =
        session.sequenceAfter ((operation.frames session).length +
          taken.countP operation.isAnsweredBy)) ∧
      (∀ request, operation.request? = some request → ¬ request.Fits → taken = []) := by
  cases operation with
  | enableSigning signer start =>
    exact ⟨[], Records.refl _, fun hkeeps => absurd trivial hkeeps, by simp [request?]⟩
  | disableSigning =>
    exact ⟨[], Records.refl _, fun _ => session.sequenceAfter_zero.symm, by simp [request?]⟩
  | exchange request response checkStatus =>
    obtain ⟨taken, hrecords, hsequence, hrefused⟩ :=
      session.exchange_records request response checkStatus
    refine ⟨taken, hrecords, fun _ => hsequence, ?_⟩
    rintro _ ⟨rfl⟩
    exact hrefused
  | sendOnly request =>
    obtain ⟨hrecords, hsequence, -⟩ := session.transmit_records request
    exact ⟨[], hrecords, fun _ => hsequence, fun _ _ _ => rfl⟩
  | receiveResponse response command checkStatus =>
    obtain ⟨taken, hrecords, hsequence⟩ :=
      session.await_records (Session.awaiting response command) checkStatus
    rw [Session.messageRoom_awaiting, Session.expectedCommand_awaiting,
      ← Nat.zero_add (Session.answering _ _ _)] at hsequence
    exact ⟨taken, hrecords, fun _ => hsequence, by simp [request?]⟩
  | receiveAsync packet wait =>
    obtain ⟨taken, hrecords, hsequence⟩ := session.receiveAsync_records packet wait
    refine ⟨taken, hrecords, fun _ => ?_, by simp [request?]⟩
    have hnone : taken.countP (receiveAsync packet wait).isAnsweredBy = 0 := by
      rw [List.countP_eq_zero]
      simp [isAnsweredBy]
    rw [hnone]
    exact hsequence.trans session.sequenceAfter_zero.symm

/-- What the tape beside a session shows. -/
theorem traffic_records (session : Session τ) (operation : Operation) :
    (operation.traffic session).written = operation.frames session ∧
      (¬ operation.Enables → (operation.apply session).sequence =
        session.sequence + UInt32.ofNat (operation.numbersUsed session)) ∧
      (∀ request, operation.request? = some request → ¬ request.Fits →
        (operation.traffic session).arrived = []) := by
  obtain ⟨taken, ⟨hwritten, harrived⟩, hsequence, hrefused⟩ :=
    apply_records (session.mapTransport Taped.blank) operation
  have hframes : operation.frames (session.mapTransport Taped.blank) =
      operation.frames session := rfl
  have huntaped := apply_untape (session.mapTransport Taped.blank) operation
  have hsame : (operation.apply (session.mapTransport Taped.blank)).sequence =
      (operation.apply session).sequence :=
    congrArg Session.sequence huntaped
  change (operation.traffic session).written = [] ++ _ at hwritten
  change (operation.traffic session).arrived = [] ++ _ at harrived
  rw [List.nil_append] at hwritten harrived
  rw [hframes] at hwritten
  refine ⟨hwritten, ?_, ?_⟩
  · intro hkeeps
    rw [← hsame, hsequence hkeeps, hframes, ← hwritten, ← harrived]
    rfl
  · intro request hrequest hfits
    rw [harrived]
    exact hrefused request hrequest hfits

theorem handsOver (session : Session τ) (operation : Operation) :
    HandsOver session operation := by
  obtain ⟨hwritten, -, harrived⟩ := traffic_records session operation
  constructor
  · intro request hrequest hfits
    rw [frames, hrequest] at hwritten
    simp only [Session.frames, if_pos hfits] at hwritten
    exact ⟨session.wireFrame request, hwritten,
      fun signer hsigner => session.signedWith_wireFrame request hsigner hfits⟩
  · intro request hrequest hfits
    rw [frames, hrequest] at hwritten
    simp only [Session.frames, if_neg hfits] at hwritten
    exact ⟨hwritten, harrived request hrequest hfits⟩
  · intro hrequest
    rw [hwritten, frames, hrequest]

end Operation

namespace Session

/-! ## Runs -/

/-- How many numbers operations use up, one after the other. -/
def numbersUsed (session : Session τ) : List Operation → Nat
  | [] => 0
  | operation :: operations =>
    operation.numbersUsed session + (operation.apply session).numbersUsed operations

/-- Operations that do not enable signing use their numbers up one after the other. -/
theorem sequence_run_of_not_enables (session : Session τ) (operations : List Operation)
    (hkeep : ∀ operation ∈ operations, ¬ operation.Enables) :
    (session.run operations).sequence =
      session.sequence + UInt32.ofNat (session.numbersUsed operations) := by
  induction operations generalizing session with
  | nil => exact (UInt32.add_zero session.sequence).symm
  | cons operation operations ih =>
    have hfirst := (operation.traffic_records session).2.1
      (hkeep operation (List.mem_cons_self ..))
    have hrest := ih (operation.apply session) fun other hother =>
      hkeep other (List.mem_cons_of_mem operation hother)
    calc
      (session.run (operation :: operations)).sequence =
          (operation.apply session).sequence +
            UInt32.ofNat ((operation.apply session).numbersUsed operations) := hrest
      _ = session.sequence + UInt32.ofNat (session.numbersUsed (operation :: operations)) := by
        rw [hfirst, UInt32.add_assoc, ← UInt32.ofNat_add, numbersUsed]

/-- After any run the number is the one that signing was last enabled with, plus the
numbers used up since, and each operation accounts for its own.  They are counted
on a tape that no operation notices.  Whatever the state, a request uses up a
number exactly by a frame that is signed with it, and a wait for an unsolicited
packet uses up none. -/
theorem sequence_run (session : Session τ) (earlier since : List Operation)
    (signer : Signer) (start : UInt32) (hsince : ∀ operation ∈ since, ¬ operation.Enables) :
    (session.run (earlier ++ .enableSigning signer start :: since)).sequence =
        start + UInt32.ofNat
          ((session.run (earlier ++ [.enableSigning signer start])).numbersUsed since) ∧
      (∀ (state : Session τ) (operation : Operation),
        operation.HandsOver state ∧
          (¬ operation.Enables → (operation.apply state).sequence =
            state.sequence + UInt32.ofNat (operation.numbersUsed state)) ∧
          (operation.apply (state.mapTransport Taped.blank)).mapTransport Taped.untape =
            operation.apply state) ∧
      ∀ (state : Session τ) (packet : Packet) (wait : Nat),
        (state.receiveAsync packet wait).2.1.sequence = state.sequence := by
  refine ⟨?_, fun state operation => ⟨operation.handsOver state,
    (operation.traffic_records state).2.1, ?_⟩, ?_⟩
  · have hsplit : session.run (earlier ++ .enableSigning signer start :: since) =
        (session.run (earlier ++ [.enableSigning signer start])).run since := by
      rw [← run_append, List.append_assoc, List.singleton_append]
    have hstart : (session.run (earlier ++ [.enableSigning signer start])).sequence = start := by
      rw [run_append]
      rfl
    rw [hsplit, sequence_run_of_not_enables _ since hsince, hstart]
  · exact Operation.apply_untape (state.mapTransport Taped.blank) operation
  · intro state packet wait
    have huntaped := Operation.apply_untape (state.mapTransport Taped.blank)
      (.receiveAsync packet wait)
    obtain ⟨-, -, hsequence⟩ :=
      (state.mapTransport Taped.blank).receiveAsync_records packet wait
    exact (congrArg Session.sequence huntaped).symm.trans hsequence

/-- The numbers go round.  An exchange that passes over one message and is answered by
the next uses up the last number and the first; a wait and an unsigned request after
it use up none. -/
theorem sequence_run_goes_round :
    let signer : Signer := ⟨fun _ _ => ⟨List.replicate 8 1, rfl⟩, fun _ _ => false⟩
    let messages : Bytes :=
      [0, 0, 0, 35] ++ Packet.marker ++ [0x24] ++ List.replicate 30 0 ++
        ([0, 0, 0, 35] ++ Packet.marker ++ [0x2B] ++ List.replicate 30 0)
    let connection : Connection :=
      (Connection.new 1000).mapPipe fun pipe => pipe.act (.send messages)
    let session : Session Connection :=
      Session.new connection (.channel ⟨true⟩) ⟨true, 1, 100, 100, 549, false⟩
    let response := Packet.blank 549 (by decide)
    let request := response.setCommand 0x2B
    (session.run ([.sendOnly request] ++ .enableSigning signer 0xFFFFFFFF ::
      [.exchange request response true, .receiveAsync response 100, .disableSigning,
        .sendOnly request])).sequence = 1 := by
  intro signer messages connection session response request
  have hsince : ∀ operation ∈ [.exchange request response true, .receiveAsync response 100,
      .disableSigning, .sendOnly request], ¬ Operation.Enables operation := by
    intro operation hoperation
    simp only [List.mem_cons, List.not_mem_nil, or_false] at hoperation
    rcases hoperation with rfl | rfl | rfl | rfl <;> exact id
  have hused : (session.run ([.sendOnly request] ++
      [.enableSigning signer 0xFFFFFFFF])).numbersUsed
        [.exchange request response true, .receiveAsync response 100, .disableSigning,
          .sendOnly request] = 2 := by
    decide +kernel
  rw [(sequence_run session [.sendOnly request] _ signer 0xFFFFFFFF hsince).1, hused]
  rfl

end Session

end SmbExchange
