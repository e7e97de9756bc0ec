import SmbExchange.Session.Exchange
import SmbExchange.Proofs.Packet.Extent
import SmbExchange.Proofs.Session.Core

/-!
# Sending a request

Whether a request is handed to the transport is decided by its counts alone:
stamping, flagging and signing change header fields in front of the counts, so
the check before signing and the check before sending agree.  A request that
fits is handed over whatever its contents are; one that does not fit changes
nothing in the session.
-/

namespace SmbExchange

def Frame.ofMessage (message : Bytes) : Bytes :=
  Frame.messageHeader message.length ++ message

/-- Writing the header of a frame in place makes the frame of what stands behind the header. -/
theorem Frame.writeHeader_eq {frame : Bytes} (hlong : Frame.headerLength ≤ frame.length)
    (hshort : frame.length ≤ Frame.headerLength + Frame.maximumLength) :
    Frame.writeHeader frame (frame.length - Frame.headerLength) =
      .ok (Frame.ofMessage (frame.drop Frame.headerLength)) := by
  have hheader : (Frame.messageHeader (frame.length - Frame.headerLength)).length =
      Frame.headerLength := rfl
  have hpatch : frame.patch 0 (Frame.messageHeader (frame.length - Frame.headerLength)) =
      Frame.ofMessage (frame.drop Frame.headerLength) := by
    rw [Bytes.patch_zero (hheader ▸ hlong), hheader, Frame.ofMessage, List.length_drop]
  have hfits : frame.Fits 0
      (Frame.messageHeader (frame.length - Frame.headerLength)).length := by
    rw [Bytes.Fits, hheader, Nat.zero_add]
    exact hlong
  rw [Frame.writeHeader, if_neg (by omega), Bytes.write, if_pos hfits, ← hpatch]
  rfl

/-- The frame of a packet that fits its buffer is short enough to be described by a header. -/
theorem Packet.exists_frame (packet : Packet) (hfits : packet.Fits) :
    ∃ frame, packet.frame = .ok frame ∧ Frame.headerLength ≤ frame.length ∧
      frame.length ≤ Frame.headerLength + Frame.maximumLength ∧
      frame.drop Frame.headerLength = packet.buffer.slice headerRoom packet.totalLength := by
  have hlength : (packet.buffer.slice 0 (headerRoom + packet.totalLength)).length =
      headerRoom + packet.totalLength := by
    rw [Bytes.length_slice]
    simp only [Fits, capacity] at hfits
    omega
  have hbound := packet.totalLength_le
  refine ⟨packet.buffer.slice 0 (headerRoom + packet.totalLength), ?_, ?_, ?_, ?_⟩
  · rw [packet.frame_eq, if_pos hfits]
  · rw [hlength]
    exact Nat.le_add_right _ _
  · rw [hlength]
    simp only [headerRoom, Frame.headerLength, Frame.maximumLength]
    omega
  · have hdrop := Bytes.drop_slice packet.buffer 0 headerRoom packet.totalLength
    rwa [Nat.zero_add] at hdrop

namespace Transport

variable {τ : Type} [Transport τ]

/-- A frame of a describable length reaches the wire with its header filled in. -/
theorem send_eq (transport : τ) (frame : Bytes) (hlong : Frame.headerLength ≤ frame.length)
    (hshort : frame.length ≤ Frame.headerLength + Frame.maximumLength) :
    (send transport frame).result =
        (write transport (Frame.ofMessage (frame.drop Frame.headerLength))).1 ∧
      (send transport frame).transport =
        (write transport (Frame.ofMessage (frame.drop Frame.headerLength))).2 ∧
      (send transport frame).frame = Frame.ofMessage (frame.drop Frame.headerLength) := by
  rw [send, if_neg (by omega)]
  simp only [Frame.writeHeader_eq hlong hshort]
  split <;> simp_all

end Transport

namespace Session

variable {τ : Type}

/-! ## What preparing does to a request -/

section Preparing

variable (session : Session τ) (request : Packet)

@[simp]
theorem totalLength_stamp : (session.stamp request).totalLength = request.totalLength := by
  rw [stamp]
  rw [Packet.totalLength_set _ (by decide), Packet.totalLength_set _ (by decide)]
  split
  · exact request.totalLength_set (by decide) 1
  · rfl

@[simp]
theorem capacity_stamp : (session.stamp request).capacity = request.capacity := by
  rw [stamp]
  rw [Packet.capacity_set, Packet.capacity_set]
  split
  · exact request.capacity_set _ 1
  · rfl

@[simp]
theorem totalLength_flagSigned : (flagSigned request).totalLength = request.totalLength :=
  request.totalLength_set (by decide) _

@[simp]
theorem capacity_flagSigned : (flagSigned request).capacity = request.capacity :=
  request.capacity_set _ _

/-- The request as it is signed: stamped, and flagged when there is a signer. -/
def unsigned : Packet :=
  if session.signer.isSome then flagSigned (session.stamp request) else session.stamp request

theorem totalLength_unsigned : (session.unsigned request).totalLength = request.totalLength := by
  rw [unsigned]
  split <;> simp

theorem capacity_unsigned : (session.unsigned request).capacity = request.capacity := by
  rw [unsigned]
  split <;> simp

def readied : Packet :=
  match session.signer with
  | none => session.unsigned request
  | some signer =>
    (session.unsigned request).setSignatureBytes
      (signer.sign ((session.unsigned request).buffer.slice Packet.headerRoom
        request.totalLength) session.sequence).val

theorem totalLength_readied : (session.readied request).totalLength = request.totalLength := by
  rw [readied]
  split
  · exact session.totalLength_unsigned request
  · rw [Packet.totalLength_setSignatureBytes, totalLength_unsigned]

theorem capacity_readied : (session.readied request).capacity = request.capacity := by
  rw [readied]
  split
  · exact session.capacity_unsigned request
  · rw [Packet.setSignatureBytes, Packet.capacity_patch, capacity_unsigned]

theorem fits_readied_iff : (session.readied request).Fits ↔ request.Fits := by
  simp only [Packet.Fits, totalLength_readied, capacity_readied]

theorem fits_unsigned_iff : (session.unsigned request).Fits ↔ request.Fits := by
  simp only [Packet.Fits, totalLength_unsigned, capacity_unsigned]

/-- A request that fits is signed if there is a signer, which uses up a number. -/
theorem prepare_of_fits (hfits : request.Fits) :
    session.prepare request = (.ok (), session.advance, session.readied request) := by
  have hmessage := (session.unsigned request).message_eq
  rw [if_pos ((session.fits_unsigned_iff request).mpr hfits), totalLength_unsigned] at hmessage
  rw [prepare, readied]
  cases hsigner : session.signer with
  | none =>
    rw [session.advance_of_unsigned hsigner, unsigned, hsigner]
    rfl
  | some signer =>
    rw [unsigned, hsigner, Option.isSome_some, if_pos rfl] at hmessage ⊢
    rw [session.advance_of_signed hsigner]
    simp only [hmessage, hsigner]

theorem prepare_of_not_fits (hfits : ¬ request.Fits) :
    session.prepare request =
      (if session.signer.isSome then
        .error (.bufferOverflow Packet.headerRoom request.totalLength request.capacity)
      else .ok (), session, session.unsigned request) := by
  have hunsigned := mt (session.fits_unsigned_iff request).mp hfits
  have hmessage := (session.unsigned request).message_eq
  rw [if_neg hunsigned, totalLength_unsigned, capacity_unsigned] at hmessage
  rw [prepare, unsigned]
  cases hsigner : session.signer with
  | none => rfl
  | some signer =>
    rw [unsigned, hsigner, Option.isSome_some, if_pos rfl] at hmessage
    simp only [hmessage, Option.isSome_some, if_true]

end Preparing

/-! ## Handing a request over -/

section HandingOver

variable [Transport τ] (session : Session τ) (request : Packet)

/-- The bytes that the wire is given for a request: its message as it is sent,
behind a session header. -/
def wireFrame : Bytes :=
  Frame.ofMessage ((session.readied request).buffer.slice Packet.headerRoom
    request.totalLength)

/-- A frame that carries the signature of its message at a number. -/
def SignedWith (signer : Signer) (number : UInt32) (frame : Bytes) : Prop :=
  ∃ message : Bytes, Signature.fieldEnd ≤ message.length ∧
    frame = Frame.ofMessage
      (message.patch Signature.fieldStart (signer.sign message number).val)

omit [Transport τ] in
/-- With a signer, the message of a request that fits is sent with its signature written in. -/
theorem message_readied_of_signed {signer : Signer} (hsigner : session.signer = some signer)
    (hfits : request.Fits) :
    Signature.fieldEnd ≤
        ((session.unsigned request).buffer.slice Packet.headerRoom request.totalLength).length ∧
      (session.readied request).buffer.slice Packet.headerRoom request.totalLength =
        ((session.unsigned request).buffer.slice Packet.headerRoom request.totalLength).patch
          Signature.fieldStart
          (signer.sign ((session.unsigned request).buffer.slice Packet.headerRoom
            request.totalLength) session.sequence).val := by
  have hcapacity : Packet.headerRoom + request.totalLength ≤
      (session.unsigned request).buffer.length := by
    rw [← Packet.capacity, capacity_unsigned]
    exact hfits
  have hlong : Signature.fieldEnd ≤ request.totalLength :=
    Nat.le_trans (by decide) request.le_totalLength
  have hlength := (signer.sign ((session.unsigned request).buffer.slice Packet.headerRoom
    request.totalLength) session.sequence).property
  have hplace : HeaderField.signature.offset = Packet.headerRoom + Signature.fieldStart := rfl
  constructor
  · rw [Bytes.length_slice]
    omega
  · rw [readied, hsigner]
    simp only [Packet.setSignatureBytes, Packet.patch, HeaderField.width, hplace]
    rw [List.take_of_length_le (by omega)]
    refine Bytes.slice_patch_around ?_ hcapacity
    rw [hlength]
    exact hlong

omit [Transport τ] in
/-- With a signer, a request that fits is signed with the number of the session. -/
theorem signedWith_wireFrame {signer : Signer} (hsigner : session.signer = some signer)
    (hfits : request.Fits) :
    SignedWith signer session.sequence (session.wireFrame request) := by
  obtain ⟨hlong, hmessage⟩ := session.message_readied_of_signed request hsigner hfits
  exact ⟨_, hlong, congrArg Frame.ofMessage hmessage⟩

def handOver : Except Fault Unit × τ :=
  Transport.write session.transport (session.wireFrame request)

/-- The fault of a request that does not fit: with a signer the message is asked
for first, without one the frame. -/
def refusal : Fault :=
  if session.signer.isSome then
    .bufferOverflow Packet.headerRoom request.totalLength request.capacity
  else .bufferOverflow 0 (Packet.headerRoom + request.totalLength) request.capacity

/-- A request that does not fit is refused, and the session stays as it is. -/
theorem transmit_of_not_fits (hfits : ¬ request.Fits) :
    session.transmit request =
      (.error (session.refusal request), session, session.unsigned request) := by
  have hunsigned := mt (session.fits_unsigned_iff request).mp hfits
  have hframe := (session.unsigned request).frame_eq
  rw [if_neg hunsigned, totalLength_unsigned, capacity_unsigned] at hframe
  rw [transmit, session.prepare_of_not_fits request hfits, refusal]
  cases session.signer.isSome with
  | true => rfl
  | false => simp only [Bool.false_eq_true, if_false, hframe]

/-- The frame of a request that fits is taken out of its buffer, and only the transport can
refuse it. -/
theorem send_readied (hfits : request.Fits) :
    ∃ frame, (session.readied request).frame = .ok frame ∧
      (Transport.send session.advance.transport frame).result = (session.handOver request).1 ∧
      (Transport.send session.advance.transport frame).transport =
        (session.handOver request).2 ∧
      (Transport.send session.advance.transport frame).frame = session.wireFrame request := by
  obtain ⟨frame, hframe, hlong, hshort, hmessage⟩ :=
    (session.readied request).exists_frame ((session.fits_readied_iff request).mpr hfits)
  have hsend := Transport.send_eq session.advance.transport frame hlong hshort
  rw [hmessage, totalLength_readied] at hsend
  exact ⟨frame, hframe, hsend⟩

/-- A request that fits is handed to the transport, which decides the result.
Signing has used up a number before. -/
theorem transmit_of_fits (hfits : request.Fits) :
    (session.transmit request).1 = (session.handOver request).1 ∧
      (session.transmit request).2.1.core =
        { session.advance with transport := (session.handOver request).2 }.core := by
  obtain ⟨frame, hframe, hresult, htransport, -⟩ := session.send_readied request hfits
  rw [transmit, session.prepare_of_fits request hfits]
  simp only [hframe]
  rw [← hresult, ← htransport]
  generalize Transport.send session.advance.transport frame = sent
  cases hsent : sent.result with
  | error fault => exact ⟨rfl, rfl⟩
  | ok _ => exact ⟨rfl, rfl⟩

theorem fits_of_sent (hsent : (session.transmit request).1 = .ok ()) : request.Fits := by
  apply Decidable.by_contra
  intro hfits
  rw [session.transmit_of_not_fits request hfits] at hsent
  exact absurd hsent (by simp)

/-- A request that is sent is left as it was handed over, with its header filled in. -/
theorem request_transmit (hsent : (session.transmit request).1 = .ok ()) :
    (session.transmit request).2.2 =
      ((session.readied request).patch 0 (session.wireFrame request)).markSent := by
  have hfits := session.fits_of_sent request hsent
  obtain ⟨frame, hframe, -, -, hfilled⟩ := session.send_readied request hfits
  rw [transmit, session.prepare_of_fits request hfits] at hsent ⊢
  simp only [hframe] at hsent ⊢
  rw [← hfilled]
  generalize Transport.send session.advance.transport frame = sent at hsent ⊢
  cases hresult : sent.result with
  | error fault => simp [hresult] at hsent
  | ok _ => rfl

theorem transmit_count (step : Metrics → Metrics) :
    ((session.count step).transmit request).1 = (session.transmit request).1 ∧
      ((session.count step).transmit request).2.1.core =
        (session.transmit request).2.1.core := by
  by_cases hfits : request.Fits
  · obtain ⟨hresult, hcore⟩ := session.transmit_of_fits request hfits
    obtain ⟨hcounted, hcountedCore⟩ := (session.count step).transmit_of_fits request hfits
    exact ⟨hcounted.trans hresult.symm, hcountedCore.trans hcore.symm⟩
  · rw [session.transmit_of_not_fits request hfits,
      (session.count step).transmit_of_not_fits request hfits]
    exact ⟨rfl, rfl⟩

omit [Transport τ] in
@[simp]
theorem core_finish (result : Except Fault Unit) : (session.finish result).core = session.core := by
  cases result <;> rfl

/-- An exchange whose request is sent waits for the response in the session that
sending leaves. -/
theorem exchange_of_sent (response : Packet) (checkStatus : Bool)
    (hsent : (session.transmit request).1 = .ok ()) :
    ∃ sent : Session τ, sent.core = (session.transmit request).2.1.core ∧
      (session.exchange request response checkStatus).result =
        (sent.await (awaiting response request.expectedCommand) checkStatus).1 ∧
      (session.exchange request response checkStatus).session.core =
        (sent.await (awaiting response request.expectedCommand) checkStatus).2.1.core ∧
      (session.exchange request response checkStatus).response =
        (sent.await (awaiting response request.expectedCommand) checkStatus).2.2 := by
  obtain ⟨hresult, hcore⟩ := session.transmit_count request Metrics.exchangeStarted
  rw [hsent] at hresult
  refine ⟨((session.count Metrics.exchangeStarted).transmit request).2.1, hcore, ?_⟩
  rw [exchange]
  generalize (session.count Metrics.exchangeStarted).transmit request = attempt at hresult
  obtain ⟨result, sent, packet⟩ := attempt
  simp only at hresult
  subst hresult
  exact ⟨rfl, core_finish _ _, rfl⟩

theorem exchange_of_not_sent (response : Packet) (checkStatus : Bool) {fault : Fault}
    (hrefused : (session.transmit request).1 = .error fault) :
    (session.exchange request response checkStatus).result = .error fault ∧
      (session.exchange request response checkStatus).session.core =
        (session.transmit request).2.1.core ∧
      (session.exchange request response checkStatus).response =
        awaiting response request.expectedCommand := by
  obtain ⟨hresult, hcore⟩ := session.transmit_count request Metrics.exchangeStarted
  rw [hrefused] at hresult
  rw [← hcore, exchange]
  generalize (session.count Metrics.exchangeStarted).transmit request = attempt at hresult
  obtain ⟨result, sent, packet⟩ := attempt
  simp only at hresult
  subst hresult
  exact ⟨rfl, core_finish _ _, rfl⟩

end HandingOver

end Session

end SmbExchange
