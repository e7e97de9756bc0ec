import SmbExchange.Proofs.Packet.Fields
import SmbExchange.Proofs.Session.Accounting
import SmbExchange.Proofs.Signing

/-!
# What leaves a session

A request is stamped, flagged, signed and embedded in one buffer, one after the
other.  `Stamps` says what comes of it in terms of the messages before and after
alone: each of the replaced fields has its value, the signature is that of the
message as it is sent, and every other byte is what it was.

The signature is taken before it is written, but what the field holds has no
part in it.  A message that was signed before is therefore verified like any
other.
-/

namespace SmbExchange

open LittleEndian (ofWord toWord)

namespace Session

variable {τ : Type}

/-- The bytes that are written to belong to the flags, the signature or the ids. -/
def Stamped (index : Nat) : Prop :=
  10 ≤ index ∧ index < 12 ∨ 14 ≤ index ∧ index < 22 ∨ 26 ≤ index ∧ index < 32

instance (index : Nat) : Decidable (Stamped index) :=
  inferInstanceAs (Decidable (_ ∨ _ ∨ _))

/-- A message as a session sends it, compared with the message of the request.  Offsets are those of
the message, without the session header. -/
structure Stamps (session : Session τ) (before after : Bytes) : Prop where
  length_eq : after.length = before.length
  /-- A multiplex id that is not set becomes one. -/
  multiplexId_eq : after.slice 30 2 =
    if toWord (before.slice 30 2) = 0 then ofWord 1 else before.slice 30 2
  processId_eq : after.slice 26 2 = ofWord session.settings.processId
  userId_eq : after.slice 28 2 = ofWord session.userId
  /-- With a signer the message says that it is signed. -/
  flags2_eq : after.slice 10 2 =
    if session.signer.isSome then ofWord (toWord (before.slice 10 2) ||| 0x0004)
    else before.slice 10 2
  /-- With a signer the signature is that of the message with the old signature in it. -/
  signature_eq : after.slice 14 8 =
    match session.signer with
    | none => before.slice 14 8
    | some signer => (signer.sign (after.patch 14 (before.slice 14 8)) session.sequence).val
  other_eq : ∀ index, ¬ Stamped index → after[index]? = before[index]?

section Stamps

variable {session : Session τ} {before left right after : Bytes}

/-- Messages that are stamped alike differ in the signature at most. -/
theorem Stamps.sameOutside (hleft : session.Stamps before left)
    (hright : session.Stamps before right) : Signature.SameOutside left right := by
  refine ⟨hleft.length_eq.trans hright.length_eq.symm, ?_⟩
  intro index houtside
  simp only [Signature.fieldStart, Signature.fieldEnd] at houtside
  by_cases hstamped : Stamped index
  -- Flags and ids follow from the message before, whatever the signature is.
  · rcases hstamped with hflags | hsignature | hids
    · exact Bytes.getElem?_eq_of_mem_range (hleft.flags2_eq.trans hright.flags2_eq.symm)
        hflags.1 hflags.2
    · omega
    · by_cases hprocess : index < 28
      · exact Bytes.getElem?_eq_of_mem_range (hleft.processId_eq.trans hright.processId_eq.symm)
          hids.1 hprocess
      · by_cases huser : index < 30
        · exact Bytes.getElem?_eq_of_mem_range (hleft.userId_eq.trans hright.userId_eq.symm)
            (Nat.not_lt.mp hprocess) huser
        · exact Bytes.getElem?_eq_of_mem_range
            (hleft.multiplexId_eq.trans hright.multiplexId_eq.symm) (Nat.not_lt.mp huser) hids.2
  · exact (hleft.other_eq index hstamped).trans (hright.other_eq index hstamped).symm

/-- Nothing is left open. -/
theorem Stamps.unique (hlong : Signature.fieldEnd ≤ before.length)
    (hleft : session.Stamps before left) (hright : session.Stamps before right) :
    left = right := by
  have hsame := hleft.sameOutside hright
  have hfield : (before.slice 14 8).length = 8 := by
    rw [Signature.fieldEnd] at hlong
    rw [Bytes.length_slice]
    omega
  have hrestored : left.patch 14 (before.slice 14 8) = right.patch 14 (before.slice 14 8) :=
    Signature.patch_eq_of_sameOutside hsame hfield
  have hsignature : left.slice 14 8 = right.slice 14 8 := by
    rw [hleft.signature_eq, hright.signature_eq, hrestored]
  apply List.ext_getElem?
  intro index
  by_cases hinside : 14 ≤ index ∧ index < 22
  · exact Bytes.getElem?_eq_of_mem_range hsignature hinside.1 hinside.2
  · apply hsame.2
    simp only [Signature.fieldStart, Signature.fieldEnd]
    omega

/-- With a keyed hash a stamped message is verified at the number of the session. -/
theorem Stamps.verify_ofMac {mac : Bytes → Signer.Tag}
    (hlong : Signature.fieldEnd ≤ before.length) (hstamps : session.Stamps before after)
    (hsigner : session.signer = some (.ofMac mac)) :
    (Signer.ofMac mac).verify after session.sequence = true := by
  have hfield : (before.slice 14 8).length = 8 := by
    rw [Signature.fieldEnd] at hlong
    rw [Bytes.length_slice]
    omega
  have hsame : Signature.SameOutside (after.patch 14 (before.slice 14 8)) after :=
    Signature.sameOutside_patch after _ hfield
  have hafter : Signature.fieldEnd ≤ after.length := hstamps.length_eq ▸ hlong
  have hsignature := hstamps.signature_eq
  rw [hsigner] at hsignature
  rw [Signer.verify_ofMac_iff, Signature.embedded?_eq_some_iff,
    ← Signer.sign_ofMac_congr mac (hsame.1 ▸ hafter) hsame]
  exact ⟨hafter, hsignature⟩

end Stamps

/-! ## The buffer of a request -/

section Buffer

variable (session : Session τ) (request : Packet) {start length : Nat}

/-- Only the ids are stamped on a request. -/
theorem slice_stamp_outside (haway : start + length ≤ 30 ∨ 36 ≤ start) :
    (session.stamp request).buffer.slice start length =
      request.buffer.slice start length := by
  have haway' : ∀ field ∈ [HeaderField.multiplexId, .processId, .userId],
      start + length ≤ field.offset ∨ field.offset + field.width ≤ start := by
    intro field hfield
    simp only [List.mem_cons, List.not_mem_nil, or_false] at hfield
    rcases hfield with rfl | rfl | rfl <;> simp only [HeaderField.offset, HeaderField.width] <;>
      omega
  rw [stamp, Packet.slice_set_outside _ _ _ (haway' _ (by simp)),
    Packet.slice_set_outside _ _ _ (haway' _ (by simp))]
  split
  · exact request.slice_set_outside _ _ (haway' _ (by simp))
  · rfl

theorem slice_stamp_processId :
    (session.stamp request).buffer.slice 30 2 = ofWord session.settings.processId := by
  rw [stamp, Packet.slice_set_outside _ _ _ (.inl (by decide))]
  exact Packet.slice_set_self _ .processId _

theorem slice_stamp_userId :
    (session.stamp request).buffer.slice 32 2 = ofWord session.userId :=
  Packet.slice_set_self _ .userId _

theorem slice_stamp_multiplexId :
    (session.stamp request).buffer.slice 34 2 =
      if request.multiplexId = 0 then ofWord 1 else request.buffer.slice 34 2 := by
  rw [stamp, Packet.slice_set_outside _ _ _ (.inr (by decide)),
    Packet.slice_set_outside _ _ _ (.inr (by decide))]
  split
  · exact request.slice_set_self .multiplexId 1
  · rfl

/-- Only the flags are written to before a request is signed. -/
theorem slice_unsigned_outside (haway : start + length ≤ 14 ∨ 16 ≤ start) :
    (session.unsigned request).buffer.slice start length =
      (session.stamp request).buffer.slice start length := by
  rw [unsigned]
  split
  · exact Packet.slice_set_outside _ .flags2 _ haway
  · rfl

theorem slice_unsigned_flags2 :
    (session.unsigned request).buffer.slice 14 2 =
      if session.signer.isSome then ofWord (toWord (request.buffer.slice 14 2) ||| signedFlag)
      else request.buffer.slice 14 2 := by
  have hkept : (session.stamp request).buffer.slice 14 2 = request.buffer.slice 14 2 :=
    session.slice_stamp_outside request (.inl (by decide))
  rw [unsigned]
  split
  · rw [← hkept]
    exact Packet.slice_set_self _ .flags2 _
  · exact hkept

/-- Only the signature is written to when a request is signed. -/
theorem slice_readied_outside (haway : start + length ≤ 18 ∨ 26 ≤ start) :
    (session.readied request).buffer.slice start length =
      (session.unsigned request).buffer.slice start length := by
  rw [readied]
  split
  · rfl
  · apply Bytes.slice_patch_outside
    simp only [HeaderField.offset, HeaderField.width, List.length_take]
    omega

/-- Everything else is sent as it stands in the request. -/
theorem slice_readied_other (hflags : start + length ≤ 14 ∨ 16 ≤ start)
    (hsignature : start + length ≤ 18 ∨ 26 ≤ start) (hids : start + length ≤ 30 ∨ 36 ≤ start) :
    (session.readied request).buffer.slice start length =
      request.buffer.slice start length := by
  rw [slice_readied_outside session request hsignature,
    slice_unsigned_outside session request hflags, slice_stamp_outside session request hids]

/-- With a signer, what is signed is the message as it is sent with the old signature in it. -/
theorem signature_readied (hfits : request.Fits) {before after : Bytes}
    (hbefore : request.buffer.slice Packet.headerRoom request.totalLength = before)
    (hafter : (session.readied request).buffer.slice Packet.headerRoom request.totalLength =
      after) :
    after.slice 14 8 =
      match session.signer with
      | none => before.slice 14 8
      | some signer =>
        (signer.sign (after.patch 14 (before.slice 14 8)) session.sequence).val := by
  have hlong : 14 + 8 ≤ request.totalLength := Nat.le_trans (by decide) request.le_totalLength
  have hkept : (session.unsigned request).buffer.slice 18 8 = request.buffer.slice 18 8 :=
    (session.slice_unsigned_outside request (.inr (by decide))).trans
      (session.slice_stamp_outside request (.inl (by decide)))
  subst hbefore hafter
  cases hsigner : session.signer with
  | none =>
    have hreadied : session.readied request = session.unsigned request := by
      rw [readied, hsigner]
    rw [hreadied, Bytes.slice_slice hlong, Bytes.slice_slice hlong]
    exact hkept
  | some signer =>
    obtain ⟨hroom, hsigned⟩ := session.message_readied_of_signed request hsigner hfits
    have hold : (request.buffer.slice Packet.headerRoom request.totalLength).slice 14 8 =
        ((session.unsigned request).buffer.slice Packet.headerRoom
          request.totalLength).slice 14 8 := by
      rw [Bytes.slice_slice hlong, Bytes.slice_slice hlong]
      exact hkept.symm
    rw [hold, hsigned]
    generalize (session.unsigned request).buffer.slice Packet.headerRoom request.totalLength =
      message at hroom
    obtain ⟨hwritten, hrestored⟩ :=
      Signature.slice_patch_field (signer.sign message session.sequence) hroom
    have hsigning := congrArg (fun input => (signer.sign input session.sequence).val) hrestored
    exact hwritten.trans hsigning.symm

/-- The message that is sent for a request is the message of the request with its stamps. -/
theorem stamps_readied {before : Bytes} (hmessage : request.message = .ok before) :
    session.Stamps before
      ((session.readied request).buffer.slice Packet.headerRoom request.totalLength) := by
  obtain ⟨hfits, hlength, hbefore⟩ := Packet.fits_of_message hmessage
  rw [hlength] at hbefore
  have hroom : Packet.headerRoom + request.totalLength ≤
      (session.readied request).buffer.length := by
    rw [← Packet.capacity, capacity_readied]
    exact hfits
  generalize hafter : (session.readied request).buffer.slice Packet.headerRoom
    request.totalLength = after
  -- A range of a message is a range of the buffer that the message stands in.
  have hread : ∀ start length, start + length ≤ 32 →
      before.slice start length = request.buffer.slice (4 + start) length ∧
        after.slice start length = (session.readied request).buffer.slice (4 + start) length := by
    intro start length hinside
    have hlong := Nat.le_trans hinside (Nat.le_trans (by decide) request.le_totalLength)
    rw [← hbefore, ← hafter]
    exact ⟨Bytes.slice_slice hlong, Bytes.slice_slice hlong⟩
  have hids : ∀ start, 16 ≤ start → 26 ≤ start →
      (session.readied request).buffer.slice start 2 =
        (session.stamp request).buffer.slice start 2 := fun start hflags hsignature =>
    (session.slice_readied_outside request (.inr hsignature)).trans
      (session.slice_unsigned_outside request (.inr hflags))
  refine ⟨?_, ?_, ?_, ?_, ?_, session.signature_readied request hfits hbefore hafter, ?_⟩
  · rw [hlength, ← hafter, Bytes.length_slice]
    omega
  · rw [(hread 30 2 (by decide)).1, (hread 30 2 (by decide)).2, hids _ (by decide) (by decide)]
    exact session.slice_stamp_multiplexId request
  · rw [(hread 26 2 (by decide)).2, hids _ (by decide) (by decide)]
    exact session.slice_stamp_processId request
  · rw [(hread 28 2 (by decide)).2, hids _ (by decide) (by decide)]
    exact session.slice_stamp_userId request
  · rw [(hread 10 2 (by decide)).1, (hread 10 2 (by decide)).2,
      session.slice_readied_outside request (.inl (by decide))]
    exact session.slice_unsigned_flags2 request
  · intro index hother
    simp only [Stamped] at hother
    have hbyte : (session.readied request).buffer.slice (4 + index) 1 =
        request.buffer.slice (4 + index) 1 :=
      session.slice_readied_other request (by omega) (by omega) (by omega)
    have hsame : (session.readied request).buffer[4 + index]? = request.buffer[4 + index]? :=
      Bytes.getElem?_eq_of_mem_range hbyte (Nat.le_refl _) (Nat.lt_succ_self _)
    rw [← hbefore, ← hafter, Bytes.getElem?_slice, Bytes.getElem?_slice]
    exact ite_congr rfl (fun _ => hsame) (fun _ => rfl)

end Buffer

/-! ## What is handed over -/

variable [Transport τ]

/-- A request that fits its buffer is handed over in one frame, by an exchange as when it is only
sent.  The message in the frame is the message of the request before the call with its stamps,
which leave nothing open.  With HMAC-SHA256 it is verified at the number of the session, whatever
stood in the signature field. -/
theorem written_stamps (session : Session τ) (operation : Operation) {request : Packet}
    {before : Bytes} (hrequest : operation.request? = some request)
    (hmessage : request.message = .ok before) :
    ∃ after, (operation.traffic session).written = [Frame.ofMessage after] ∧
      (∀ other, session.Stamps before other ↔ other = after) ∧
      ∀ key, session.signer = some (.hmac key) →
        (Signer.hmac key).verify after session.sequence = true := by
  obtain ⟨hfits, hlength, -⟩ := Packet.fits_of_message hmessage
  have hlong : Signature.fieldEnd ≤ before.length := by
    rw [hlength]
    exact Nat.le_trans (by decide) request.le_totalLength
  have hstamps := session.stamps_readied request hmessage
  refine ⟨_, ?_, fun other => ⟨fun hother => hother.unique hlong hstamps, ?_⟩, ?_⟩
  · rw [(operation.traffic_records session).1, Operation.frames, hrequest]
    exact if_pos hfits
  · rintro rfl
    exact hstamps
  · intro key hsigner
    rw [Signer.hmac] at hsigner ⊢
    exact hstamps.verify_ofMac hlong hsigner

/-- A request that was signed before and has no multiplex id, sent under another number.  Its old
signature is not in what is sent. -/
theorem written_stamps_signed_before :
    let key : Bytes := [0x4B, 0x65, 0x79]
    let session : Session Connection :=
      (Session.new (Connection.new 1000) (.channel ⟨true⟩) ⟨true, 7, 100, 50, 549, false⟩)
        |>.enableSigning (.hmac key) 0xFFFFFFFF
    let request := ((Packet.blank 549 (by decide)).setCommand 0x2B).setSignatureBytes
      (List.replicate 8 0xEE)
    ∃ after, ((Operation.sendOnly request).traffic session).written = [Frame.ofMessage after] ∧
      (Signer.hmac key).verify after 0xFFFFFFFF = true ∧ after[4]? = some 0x2B ∧
      after.slice 10 2 = [4, 0] ∧ after.slice 26 2 = [7, 0] ∧ after.slice 28 2 = [0, 0] ∧
      after.slice 30 2 = [1, 0] := by
  intro key session request
  have hlength : request.Fits ∧ request.totalLength = 35 := by decide +kernel
  have hmessage : request.message = .ok (request.buffer.slice 4 35) := by
    rw [request.message_eq, if_pos hlength.1, hlength.2]
    rfl
  obtain ⟨after, hwritten, hstamps, hverified⟩ :=
    written_stamps session (.sendOnly request) rfl hmessage
  have hstamped := (hstamps after).mpr rfl
  refine ⟨after, hwritten, hverified key rfl, ?_, ?_,
    hstamped.processId_eq.trans (by decide +kernel), hstamped.userId_eq.trans (by decide +kernel),
    ?_⟩
  · rw [hstamped.other_eq 4 (by decide)]
    decide +kernel
  · rw [hstamped.flags2_eq]
    decide +kernel
  · rw [hstamped.multiplexId_eq]
    decide +kernel

end Session

end SmbExchange
