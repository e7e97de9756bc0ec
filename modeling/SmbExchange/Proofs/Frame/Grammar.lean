import SmbExchange.Proofs.Frame.Decoding

/-!
# The grammar of a stream

A stream is complete keep-alives and then something else.  That is a message
with all its bytes, the header of a message that is too long, a header of
another kind, or too little to tell.  Decoding drops exactly the keep-alives
and says which of the four it has come to; only a message is taken off.
-/

namespace SmbExchange.Framing

open SmbExchange.Frame (Whole parseHeader? parseHeader?_eq_some_iff headerLength keepAliveKind
  messageKind payloadLength)
open SmbExchange.Frame.Whole (stream)

/-- The longest front of a stream that is made of complete keep-alives, and what follows it. -/
structure LedBy (bytes : Bytes) (keepAlives : List Whole) (rest : Bytes) : Prop where
  kinds : ∀ frame ∈ keepAlives, frame.kind = keepAliveKind
  bytes_eq : bytes = stream keepAlives ++ rest
  longest : ∀ others more, (∀ frame ∈ others, frame.kind = keepAliveKind) →
    bytes = stream others ++ more → (stream others).length ≤ (stream keepAlives).length

/-- At the front stands a message up to the limit, with all its bytes. -/
def StartsMessage (limit : Nat) (bytes payload after : Bytes) : Prop :=
  ∃ flags high low, bytes = messageKind :: flags :: high :: low :: (payload ++ after) ∧
    payload.length = payloadLength flags high low ∧ payload.length ≤ limit

/-- At the front stands the header of a message beyond the limit, whatever follows it. -/
def StartsOversized (limit : Nat) (bytes : Bytes) (length : Nat) : Prop :=
  ∃ flags high low after, bytes = messageKind :: flags :: high :: low :: after ∧
    length = payloadLength flags high low ∧ limit < length

/-- At the front stands a header of neither a message nor a keep-alive. -/
def StartsUnexpected (bytes : Bytes) : Prop :=
  headerLength ≤ bytes.length ∧ bytes.byteAt 0 ≠ messageKind ∧ bytes.byteAt 0 ≠ keepAliveKind

/-- What is found is what stands at the front, and what is left follows from it. -/
structure Finds (limit : Nat) (front : Bytes) (outcome : Outcome) (left : Bytes) : Prop where
  message_iff : ∀ payload after,
    outcome = .message payload ∧ left = after ↔ StartsMessage limit front payload after
  oversized_iff : ∀ length,
    outcome = .failed (.oversizedPacket length) ↔ StartsOversized limit front length
  unexpected_iff : ∀ reason, outcome = .failed (.transport reason) ↔
    reason = "Unexpected NetBIOS session frame type" ∧ StartsUnexpected front
  waiting_iff : outcome = .waiting ↔ (∀ payload after, ¬ StartsMessage limit front payload after) ∧
    (∀ length, ¬ StartsOversized limit front length) ∧ ¬ StartsUnexpected front
  left_eq : (∀ payload, outcome ≠ .message payload) → left = front

variable {framing : Framing} {limit : Nat} {bytes payload after rest : Bytes}

/-! ## Keep-alives in front -/

theorem skipKeepAlives_stream (skipped : Nat) {frames : List Whole}
    (hkinds : ∀ frame ∈ frames, frame.kind = keepAliveKind) (rest : Bytes) :
    skipKeepAlives skipped (stream frames ++ rest) =
      skipKeepAlives (skipped + frames.length) rest := by
  induction frames generalizing skipped with
  | nil => rfl
  | cons frame frames ih =>
    have hkind := hkinds frame (List.mem_cons_self ..)
    have hothers := ih (skipped + 1) fun other hother =>
      hkinds other (List.mem_cons_of_mem frame hother)
    rw [Whole.stream_cons, List.append_assoc, skipKeepAlives_keepAlive skipped hkind, hothers,
      List.length_cons, Nat.add_assoc, Nat.add_comm 1]

/-- What is dropped is the longest front that is made of complete keep-alives. -/
theorem exists_ledBy (bytes : Bytes) :
    ∃ keepAlives, LedBy bytes keepAlives (skipKeepAlives 0 bytes).2 ∧
      (skipKeepAlives 0 bytes).1 = keepAlives.length := by
  obtain ⟨dropped, hcount, htakes⟩ := takes_skipKeepAlives full 0 bytes
  obtain ⟨keepAlives, hkinds, hlength, hbytes⟩ := htakes.exists_keepAlives
  refine ⟨keepAlives, ⟨hkinds, hbytes, ?_⟩, by rw [hcount, hlength, Nat.zero_add]⟩
  intro others more hothers hother
  -- Any other front of keep-alives is dropped on the way, so what follows it is no shorter.
  have hrest : (skipKeepAlives 0 bytes).2.length ≤ more.length := by
    rw [hother, skipKeepAlives_stream 0 hothers]
    exact length_skipKeepAlives_le _ more
  have hsame := congrArg List.length (hbytes.symm.trans hother)
  rw [List.length_append, List.length_append] at hsame
  omega

/-! ## What stands at the front -/

/-- A message that is all there is taken off, and nothing else is. -/
theorem takeMessage_eq_message_iff :
    framing.takeMessage bytes = (.message payload, after) ↔
      StartsMessage framing.limit bytes payload after := by
  constructor
  · intro htaken
    cases hparse : parseHeader? bytes with
    | none => simp [takeMessage_of_none hparse] at htaken
    | some parsed =>
      obtain ⟨header, rest⟩ := parsed
      cases hrefusal : framing.refusal? header with
      | some fault => simp [takeMessage_of_refused hparse hrefusal] at htaken
      | none =>
        rw [takeMessage_of_passed hparse hrefusal] at htaken
        split at htaken
        · rename_i hmessage
          obtain ⟨hkind, hwhole⟩ := hmessage
          rw [Bytes.hasAtLeast_iff] at hwhole
          simp only [Prod.mk.injEq, Outcome.message.injEq] at htaken
          obtain ⟨rfl, rfl⟩ := htaken
          obtain ⟨flags, high, low, rfl, hlength⟩ := parseHeader?_eq_some_iff.mp hparse
          have htake : (rest.take header.length).length = header.length := by
            rw [List.length_take, Nat.min_eq_left hwhole]
          refine ⟨flags, high, low, ?_, htake.trans hlength, ?_⟩
          · rw [List.take_append_drop, hkind]
          · rcases refusal?_eq_none_iff.mp hrefusal with hkeep | ⟨-, hlimit⟩
            · exact absurd (hkind.symm.trans hkeep) (by decide)
            · rw [htake]
              exact hlimit
        · simp at htaken
  · rintro ⟨flags, high, low, rfl, hlength, hlimit⟩
    let frame : Whole := ⟨messageKind, flags, high, low, payload, hlength⟩
    have hkind : frame.kind = messageKind := rfl
    exact takeMessage_message hkind hlimit after

theorem startsOversized_iff_refuses {length : Nat} :
    StartsOversized framing.limit bytes length ↔
      framing.Refuses (.oversizedPacket length) bytes := by
  constructor
  · rintro ⟨flags, high, low, after, rfl, rfl, hlimit⟩
    exact ⟨⟨messageKind, payloadLength flags high low⟩, after, rfl,
      refusal?_eq_some_iff.mpr (.inr ⟨rfl, hlimit, rfl⟩)⟩
  · rintro ⟨header, rest, hparse, hrefusal⟩
    obtain ⟨flags, high, low, rfl, hlength⟩ := parseHeader?_eq_some_iff.mp hparse
    rcases refusal?_eq_some_iff.mp hrefusal with ⟨-, -, hfault⟩ | ⟨hkind, hlimit, hfault⟩
    · simp [unexpectedKind] at hfault
    · obtain rfl := Fault.oversizedPacket.inj hfault
      exact ⟨flags, high, low, rest, by rw [hkind], hlength, hlimit⟩

theorem startsUnexpected_iff_refuses :
    StartsUnexpected bytes ↔ framing.Refuses unexpectedKind bytes := by
  constructor
  · rintro ⟨hlength, hmessage, hkeep⟩
    match bytes with
    | kind :: flags :: high :: low :: rest =>
      exact ⟨⟨kind, payloadLength flags high low⟩, rest, rfl,
        refusal?_eq_some_iff.mpr (.inl ⟨hmessage, hkeep, rfl⟩)⟩
    | [] | [_] | [_, _] | [_, _, _] => simp [headerLength] at hlength
  · rintro ⟨header, rest, hparse, hrefusal⟩
    obtain ⟨flags, high, low, rfl, -⟩ := parseHeader?_eq_some_iff.mp hparse
    rcases refusal?_eq_some_iff.mp hrefusal with ⟨hmessage, hkeep, -⟩ | ⟨-, -, hfault⟩
    · exact ⟨by simp [headerLength], hmessage, hkeep⟩
    · simp [unexpectedKind] at hfault

theorem takeMessage_eq_failed_iff {fault : Fault} :
    (framing.takeMessage bytes).1 = .failed fault ↔ framing.Refuses fault bytes := by
  constructor
  · exact refuses_of_takeMessage
  · rintro ⟨header, rest, hparse, hrefusal⟩
    rw [takeMessage_of_refused hparse hrefusal]

/-- Taking a message finds what stands at the front. -/
theorem finds_takeMessage (framing : Framing) (front : Bytes) :
    Finds framing.limit front (framing.takeMessage front).1 (framing.takeMessage front).2 := by
  have hmessage : ∀ payload after,
      (framing.takeMessage front).1 = .message payload ∧ (framing.takeMessage front).2 = after ↔
        StartsMessage framing.limit front payload after := fun payload after =>
    Prod.ext_iff.symm.trans takeMessage_eq_message_iff
  have hoversized : ∀ length,
      (framing.takeMessage front).1 = .failed (.oversizedPacket length) ↔
        StartsOversized framing.limit front length := fun length =>
    takeMessage_eq_failed_iff.trans startsOversized_iff_refuses.symm
  have hunexpected : (framing.takeMessage front).1 = .failed unexpectedKind ↔
      StartsUnexpected front :=
    takeMessage_eq_failed_iff.trans startsUnexpected_iff_refuses.symm
  refine ⟨hmessage, hoversized, ?_, ?_, ?_⟩
  · intro reason
    constructor
    · intro hfailed
      rcases (refuses_of_takeMessage hfailed).fault_cases with hfault | ⟨length, hfault, -⟩
      · rw [hfault] at hfailed
        exact ⟨Fault.transport.inj hfault, hunexpected.mp hfailed⟩
      · cases hfault
    · rintro ⟨rfl, hstarts⟩
      exact hunexpected.mpr hstarts
  · constructor
    · intro hwaiting
      refine ⟨fun payload after hstarts => ?_, fun length hstarts => ?_, fun hstarts => ?_⟩
      · exact nomatch hwaiting.symm.trans ((hmessage payload after).mpr hstarts).1
      · exact nomatch hwaiting.symm.trans ((hoversized length).mpr hstarts)
      · exact nomatch hwaiting.symm.trans (hunexpected.mpr hstarts)
    · rintro ⟨hnoMessage, hnoOversized, hnoUnexpected⟩
      cases houtcome : (framing.takeMessage front).1 with
      | waiting => rfl
      | message payload => exact absurd ((hmessage payload _).mp ⟨houtcome, rfl⟩) (hnoMessage _ _)
      | failed fault =>
        rcases (refuses_of_takeMessage houtcome).fault_cases with rfl | ⟨length, rfl, -⟩
        · exact absurd (hunexpected.mp houtcome) hnoUnexpected
        · exact absurd ((hoversized length).mp houtcome) (hnoOversized length)
  · intro hnone
    have htakes := framing.takes_takeMessage front
    have hmessages : (framing.takeMessage front).1.messages = [] := by
      cases houtcome : (framing.takeMessage front).1 with
      | message payload => exact absurd houtcome (hnone payload)
      | waiting => rfl
      | failed fault => rfl
    rw [hmessages] at htakes
    exact htakes.eq_of_nothing.symm

/-! ## Limits that no header can describe -/

theorem startsMessage_ofLimit :
    StartsMessage (ofLimit limit).limit bytes payload after ↔
      StartsMessage limit bytes payload after := by
  refine exists_congr fun flags => exists_congr fun high => exists_congr fun low =>
    and_congr_right fun _ => and_congr_right fun hlength => ?_
  have hdescribed := Frame.payloadLength_le flags high low
  simp only [ofLimit]
  omega

theorem startsOversized_ofLimit {length : Nat} :
    StartsOversized (ofLimit limit).limit bytes length ↔ StartsOversized limit bytes length := by
  refine exists_congr fun flags => exists_congr fun high => exists_congr fun low =>
    exists_congr fun rest => and_congr_right fun _ => and_congr_right fun hlength => ?_
  have hdescribed := Frame.payloadLength_le flags high low
  simp only [ofLimit]
  omega

/-- A limit beyond all headers allows and refuses what the longest describable one does. -/
theorem finds_ofLimit {outcome : Outcome} {front left : Bytes}
    (hfinds : Finds (ofLimit limit).limit front outcome left) : Finds limit front outcome left := by
  obtain ⟨hmessage, hoversized, hunexpected, hwaiting, hleft⟩ := hfinds
  simp only [startsMessage_ofLimit, startsOversized_ofLimit] at hmessage hoversized hwaiting
  exact ⟨hmessage, hoversized, hunexpected, hwaiting, hleft⟩

/-- Whatever the limit and the stream, decoding drops the longest front of complete keep-alives
and finds what stands behind it.  Without a limit of its own no message is too long. -/
theorem decode_follows_grammar (limit : Nat) (bytes : Bytes) :
    (∃ keepAlives rest, LedBy bytes keepAlives rest ∧
      ((ofLimit limit).decode bytes).skipped = keepAlives.length ∧
      Finds limit rest ((ofLimit limit).decode bytes).outcome
        ((ofLimit limit).decode bytes).rest) ∧
    ∀ length, (full.decode bytes).outcome ≠ .failed (.oversizedPacket length) := by
  constructor
  · obtain ⟨keepAlives, hled, hcount⟩ := exists_ledBy bytes
    exact ⟨keepAlives, _, hled, hcount, finds_ofLimit (finds_takeMessage (ofLimit limit) _)⟩
  · intro length hfailed
    obtain ⟨flags, high, low, after, -, rfl, hlimit⟩ :=
      startsOversized_iff_refuses.mpr (refuses_of_decode hfailed)
    exact Nat.not_lt.mpr (Frame.payloadLength_le flags high low) hlimit

end SmbExchange.Framing
