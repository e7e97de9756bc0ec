import SmbExchange.Proofs.Session.Sending
import SmbExchange.Proofs.Session.Waiting
import SmbExchange.Proofs.Transport.Faults

/-!
# The numbers of one exchange

Request and response of an exchange have a number each.  The number of the
request is used up when it is sent.  The number of the response is used up only
when a message answers: one that is refused for its length leaves it to the next
request, although the connection can still be used.
-/

namespace SmbExchange.Session

/-- The result leaves the connection usable. -/
def Usable (result : Except Fault Unit) : Prop :=
  ∀ fault, result = .error fault → fault.isTransportFailure = false

instance (result : Except Fault Unit) : Decidable (Usable result) :=
  match result with
  | .ok _ => isTrue fun _ hresult => nomatch hresult
  | .error fault =>
    decidable_of_iff (fault.isTransportFailure = false)
      ⟨fun hkept _ hresult => Except.error.inj hresult ▸ hkept, fun husable => husable fault rfl⟩

/-- A message was refused because it is too long or too short. -/
def refusedForLength : Except Fault Unit → Bool
  | .error (.oversizedPacket _) => true
  | .error (.shortReceive _) => true
  | _ => false

/-- A response is not refused for its length. -/
theorem refusedForLength_conclude {τ : Type} (session : Session τ) (response : Packet)
    (length : Nat) (checkStatus : Bool) :
    refusedForLength (session.conclude response length checkStatus).1 = false := by
  rw [fst_conclude]
  cases session.refusesSignature (response.buffer.slice Packet.headerRoom length) with
  | true => rfl
  | false =>
    cases checkStatus with
    | false => rfl
    | true =>
      rw [if_neg (by simp), if_pos rfl, Packet.checkForError]
      cases response.status <;> split <;> rfl

variable {τ : Type} [Transport τ]

/-- A wait that leaves the connection usable has used up a number, if there is a signer,
unless a message was refused for its length. -/
theorem sequence_await_of_usable (hfails : Transport.FailsLikeWire τ) (session : Session τ)
    (response : Packet) (checkStatus : Bool)
    (husable : Usable (session.await response checkStatus).1) :
    (session.await response checkStatus).2.1.signer = session.signer ∧
      (session.await response checkStatus).2.1.sequence =
        if refusedForLength (session.await response checkStatus).1 then session.sequence
        else session.advance.sequence := by
  induction session, response using await_induction with
  | nothing session response harrival =>
    rw [await_of_nothing harrival] at husable
    exact absurd (husable .timeout rfl) (by decide)
  | failed session response fault harrival =>
    have hwire := Transport.ofWire_of_receive hfails harrival
    rw [await_of_failed harrival] at husable ⊢
    have hkept := husable fault rfl
    rcases hwire with hbroken | ⟨length, rfl⟩
    · exact absurd hbroken (by simp [hkept])
    · exact ⟨rfl, rfl⟩
  | short session response message harrival hshort =>
    rw [await_of_message harrival, if_pos hshort]
    exact ⟨rfl, rfl⟩
  | other session response message harrival hheader hother ih =>
    rw [await_of_message harrival, if_neg hheader, if_pos hother] at husable ⊢
    exact ih husable
  | answer session response message harrival hheader hcommand =>
    obtain ⟨-, -, -, hsigner, hsequence, -⟩ := eq_of_core_eq
      ((session.took response message).core_conclude (response.fill message) message.length
        checkStatus)
    rw [await_of_message harrival, if_neg hheader, if_neg hcommand]
    refine ⟨hsigner, ?_⟩
    rw [refusedForLength_conclude]
    exact hsequence

/-- With a signer, an exchange whose request is sent and that leaves the connection usable
ends two numbers further, which is the number that the next request is signed with,
exactly unless a message was refused for its length.  Then it ends one number further. -/
theorem sequence_exchange_of_usable (hfails : Transport.FailsLikeWire τ) (session : Session τ)
    (request response : Packet) (checkStatus : Bool) {signer : Signer}
    (hsigner : session.signer = some signer)
    (hsent : (session.sendOnly request).1 = .ok ())
    (husable : Usable (session.exchange request response checkStatus).result) :
    ((session.exchange request response checkStatus).session.sequence = session.sequence + 2 ↔
        refusedForLength (session.exchange request response checkStatus).result = false) ∧
      ((session.exchange request response checkStatus).session.sequence =
          session.sequence + 1 ↔
        refusedForLength (session.exchange request response checkStatus).result = true) ∧
      ∀ following : Packet, following.Fits →
        SignedWith signer (session.exchange request response checkStatus).session.sequence
          ((session.exchange request response checkStatus).session.wireFrame following) := by
  obtain ⟨sent, hcore, hresult, hended, -⟩ :=
    session.exchange_of_sent request response checkStatus hsent
  have hfits := session.fits_of_sent request hsent
  obtain ⟨-, -, -, hsent_signer, hsent_sequence, -⟩ :=
    eq_of_core_eq (hcore.trans (session.transmit_of_fits request hfits).2)
  obtain ⟨-, -, -, hended_signer, hended_sequence, -⟩ := eq_of_core_eq hended
  rw [hresult] at husable ⊢
  rw [hended_sequence]
  obtain ⟨hkept, hnumber⟩ := sequence_await_of_usable hfails sent
    (awaiting response request.expectedCommand) checkStatus husable
  have hfirst : sent.sequence = session.sequence + 1 := by
    rw [hsent_sequence, session.advance_of_signed hsigner]
  have hsigned : sent.signer = some signer := hsent_signer.trans hsigner
  have hsecond : sent.advance.sequence = session.sequence + 2 := by
    rw [sent.advance_of_signed hsigned, hfirst, UInt32.add_assoc]
    rfl
  have hdistinct : session.sequence + 1 ≠ session.sequence + 2 := by simp
  refine ⟨?_, ?_, ?_⟩
  · rw [hnumber, hfirst, hsecond]
    cases refusedForLength (sent.await _ checkStatus).1 <;> simp [hdistinct]
  · rw [hnumber, hfirst, hsecond]
    cases refusedForLength (sent.await _ checkStatus).1 <;> simp [hdistinct.symm]
  · intro following hfollowing
    rw [← hended_sequence]
    exact signedWith_wireFrame _ following
      (hended_signer.trans (hkept.trans hsigned)) hfollowing

/-- A response with a wrong signature uses up both numbers, and they go round. -/
theorem sequence_exchange_wrong_signature :
    let reply : Bytes := [0, 0, 0, 35] ++ Packet.marker ++ [0x2B] ++ List.replicate 30 0
    let signer : Signer :=
      ⟨fun _ _ => ⟨List.replicate 8 1, rfl⟩, fun message _ => message.byteAt 14 == 1⟩
    let connection : Connection :=
      (Connection.new 1000).mapPipe fun pipe => pipe.act (.send reply)
    let session : Session Connection :=
      (Session.new connection (.channel ⟨true⟩) ⟨true, 1, 100, 100, 549, false⟩).enableSigning
        signer 0xFFFFFFFF
    let request := (Packet.blank 549 (by decide)).setCommand 0x2B
    (session.exchange request (Packet.blank 549 (by decide)) true).session.sequence = 1 := by
  intro reply signer connection session request
  have hfits : request.Fits := by decide +kernel
  have hsent : (session.sendOnly request).1 = .ok () := (session.transmit_of_fits request hfits).1
  have husable :
      Usable (session.exchange request (Packet.blank 549 (by decide)) true).result := by
    decide +kernel
  have hlength : refusedForLength
      (session.exchange request (Packet.blank 549 (by decide)) true).result = false := by
    decide +kernel
  have hround : session.sequence + 2 = 1 := by decide +kernel
  rw [← hround]
  exact (sequence_exchange_of_usable Connection.failsLikeWire session request
    (Packet.blank 549 (by decide)) true rfl hsent husable).1.mpr hlength

/-- A message that is too short for a header leaves the connection usable, but the number
of the response is not used up. -/
theorem sequence_exchange_short_response :
    let reply : Bytes := [0, 0, 0, 20] ++ Packet.marker ++ [0x2B] ++ List.replicate 15 0
    let signer : Signer := ⟨fun _ _ => ⟨List.replicate 8 1, rfl⟩, fun _ _ => true⟩
    let connection : Connection :=
      (Connection.new 1000).mapPipe fun pipe => pipe.act (.send reply)
    let session : Session Connection :=
      (Session.new connection (.channel ⟨true⟩) ⟨true, 1, 100, 100, 549, false⟩).enableSigning
        signer 0
    let request := (Packet.blank 549 (by decide)).setCommand 0x2B
    let exchanged := session.exchange request (Packet.blank 549 (by decide)) true
    (session.sendOnly request).1 = .ok () ∧ Usable exchanged.result ∧
      exchanged.session.sequence = 1 ∧ exchanged.session.sequence ≠ session.sequence + 2 := by
  intro reply signer connection session request exchanged
  have hfits : request.Fits := by decide +kernel
  have hnumber : exchanged.session.sequence = 1 := by decide +kernel
  refine ⟨(session.transmit_of_fits request hfits).1, by decide +kernel, hnumber, ?_⟩
  rw [hnumber]
  decide

end SmbExchange.Session
