import SmbExchange.Proofs.Frame.Whole

/-!
# What decoding takes off a stream

Decoding takes whole frames off the front of a stream and nothing else, and it
takes every frame that it accepts.  What it stops at is either not yet a frame
or a header that it refuses, and a refused header is refused whatever follows.
-/

namespace SmbExchange.Framing

open SmbExchange.Frame (Whole parseHeader? parseHeader?_eq_some_iff keepAliveKind messageKind)
open SmbExchange.Frame.Whole (stream keepAlives)

/-- The message that decoding came to, if it came to one. -/
def Outcome.messages : Outcome → List Bytes
  | .message payload => [payload]
  | .waiting => []
  | .failed _ => []

/-- From one stream to another, so many keep-alives and these messages were taken off the
front, in frames that are accepted. -/
def Takes (framing : Framing) (before : Bytes) (skipped : Nat) (messages : List Bytes)
    (after : Bytes) : Prop :=
  ∃ frames : List Whole, (∀ frame ∈ frames, framing.Accepts frame) ∧
    keepAlives frames = skipped ∧ Whole.messages frames = messages ∧
    before = stream frames ++ after

variable {framing : Framing} {before middle after bytes rest : Bytes}
variable {skipped : Nat} {messages : List Bytes} {fault : Fault}

namespace Takes

theorem refl (framing : Framing) (bytes : Bytes) : framing.Takes bytes 0 [] bytes :=
  ⟨[], by simp, rfl, rfl, rfl⟩

theorem trans {more : Nat} {later : List Bytes}
    (hfirst : framing.Takes before skipped messages middle)
    (hsecond : framing.Takes middle more later after) :
    framing.Takes before (skipped + more) (messages ++ later) after := by
  obtain ⟨frames, haccepted, hskipped, hmessages, rfl⟩ := hfirst
  obtain ⟨others, haccepted', hskipped', hmessages', rfl⟩ := hsecond
  refine ⟨frames ++ others, ?_, ?_, ?_, ?_⟩
  · intro frame hframe
    rcases List.mem_append.mp hframe with hmem | hmem
    · exact haccepted frame hmem
    · exact haccepted' frame hmem
  · rw [Whole.keepAlives_append, hskipped, hskipped']
  · rw [Whole.messages_append, hmessages, hmessages']
  · rw [Whole.stream_append, List.append_assoc]

/-- Where neither a keep-alive nor a message was taken off, nothing was. -/
theorem eq_of_nothing (htakes : framing.Takes before 0 [] after) : before = after := by
  obtain ⟨frames, haccepted, hskipped, hmessages, rfl⟩ := htakes
  cases frames with
  | nil => rfl
  | cons frame frames =>
    rcases haccepted frame (List.mem_cons_self ..) with hkind | ⟨hkind, -⟩
    · rw [Whole.keepAlives_keepAlive hkind] at hskipped
      omega
    · rw [Whole.messages_message hkind] at hmessages
      simp at hmessages

theorem append (htakes : framing.Takes before skipped messages after) (more : Bytes) :
    framing.Takes (before ++ more) skipped messages (after ++ more) := by
  obtain ⟨frames, haccepted, hskipped, hmessages, rfl⟩ := htakes
  exact ⟨frames, haccepted, hskipped, hmessages, List.append_assoc ..⟩

theorem keepAlive {frame : Whole} (hkind : frame.kind = keepAliveKind) (rest : Bytes) :
    framing.Takes (frame.bytes ++ rest) 1 [] rest := by
  refine ⟨[frame], ?_, Whole.keepAlives_keepAlive hkind [], Whole.messages_keepAlive hkind [], ?_⟩
  · intro other hother
    rw [List.mem_singleton.mp hother]
    exact .inl hkind
  · simp

theorem keepAlives {frames : List Whole} (hkinds : ∀ frame ∈ frames, frame.kind = keepAliveKind)
    (rest : Bytes) : framing.Takes (stream frames ++ rest) frames.length [] rest := by
  induction frames with
  | nil => exact .refl framing rest
  | cons frame frames ih =>
    have hfirst : framing.Takes (frame.bytes ++ (stream frames ++ rest)) 1 [] _ :=
      .keepAlive (hkinds frame (List.mem_cons_self ..)) _
    have hothers := ih fun other hother => hkinds other (List.mem_cons_of_mem frame hother)
    rw [Whole.stream_cons, List.append_assoc, List.length_cons, Nat.add_comm]
    exact hfirst.trans hothers

/-- Where no message was taken off, complete keep-alives were. -/
theorem exists_keepAlives (htakes : framing.Takes before skipped [] after) :
    ∃ frames : List Whole, (∀ frame ∈ frames, frame.kind = keepAliveKind) ∧
      frames.length = skipped ∧ before = stream frames ++ after := by
  obtain ⟨frames, haccepted, hskipped, hmessages, hbefore⟩ := htakes
  have hkinds : ∀ frame ∈ frames, frame.kind = keepAliveKind := by
    intro frame hframe
    rcases haccepted frame hframe with hkind | ⟨hkind, -⟩
    · exact hkind
    · have hpayload : frame.payload ∈ Whole.messages frames :=
        List.mem_map_of_mem (List.mem_filter.mpr ⟨hframe, decide_eq_true hkind⟩)
      rw [hmessages] at hpayload
      exact absurd hpayload List.not_mem_nil
  refine ⟨frames, hkinds, ?_, hbefore⟩
  rw [← hskipped, Whole.keepAlives, List.countP_eq_length.mpr]
  exact fun frame hframe => decide_eq_true (hkinds frame hframe)

/-- Messages that are taken off are within the limit. -/
theorem length_le (htakes : framing.Takes before skipped messages after) :
    ∀ payload ∈ messages, payload.length ≤ framing.limit := by
  obtain ⟨frames, haccepted, -, rfl, -⟩ := htakes
  intro payload hpayload
  obtain ⟨frame, hframe, rfl⟩ := List.mem_map.mp hpayload
  obtain ⟨hmem, hkind⟩ := List.mem_filter.mp hframe
  rcases haccepted frame hmem with hother | ⟨-, hlimit⟩
  · rw [hother] at hkind
    exact absurd hkind (by decide)
  · exact hlimit

theorem message {frame : Whole} (hkind : frame.kind = messageKind)
    (hlimit : frame.payload.length ≤ framing.limit) (rest : Bytes) :
    framing.Takes (frame.bytes ++ rest) 0 [frame.payload] rest := by
  refine ⟨[frame], ?_, Whole.keepAlives_message hkind [], Whole.messages_message hkind [], ?_⟩
  · intro other hother
    rw [List.mem_singleton.mp hother]
    exact .inr ⟨hkind, hlimit⟩
  · simp

end Takes

/-! ## Keep-alives in front -/

theorem skipKeepAlives_of_none (skipped : Nat) (hparse : parseHeader? bytes = none) :
    skipKeepAlives skipped bytes = (skipped, bytes) := by
  rw [skipKeepAlives]
  split
  · rfl
  · simp_all

theorem skipKeepAlives_of_some {header : Frame.Header} (skipped : Nat)
    (hparse : parseHeader? bytes = some (header, rest)) :
    skipKeepAlives skipped bytes =
      if header.kind = keepAliveKind ∧ Bytes.hasAtLeast header.length rest then
        skipKeepAlives (skipped + 1) (rest.drop header.length)
      else (skipped, bytes) := by
  rw [skipKeepAlives]
  split
  · simp_all
  · rename_i other tail hfound
    rw [hparse, Option.some.injEq, Prod.mk.injEq] at hfound
    obtain ⟨rfl, rfl⟩ := hfound
    rfl

theorem takes_skipKeepAlives (framing : Framing) (skipped : Nat) (bytes : Bytes) :
    ∃ dropped, (skipKeepAlives skipped bytes).1 = skipped + dropped ∧
      framing.Takes bytes dropped [] (skipKeepAlives skipped bytes).2 := by
  fun_induction skipKeepAlives skipped bytes with
  | case1 skipped bytes => exact ⟨0, rfl, .refl framing bytes⟩
  | case2 skipped bytes header rest hparse hkeep ih =>
    obtain ⟨hkind, hwhole⟩ := hkeep
    rw [Bytes.hasAtLeast_iff] at hwhole
    obtain ⟨frame, hframe, -, rfl⟩ := Whole.exists_of_parseHeader? hparse hwhole
    obtain ⟨dropped, hcount, htakes⟩ := ih
    refine ⟨1 + dropped, ?_, ?_⟩
    · rw [hcount, Nat.add_assoc]
    · exact (Takes.keepAlive (hframe.trans hkind) _).trans htakes
  | case3 skipped bytes => exact ⟨0, rfl, .refl framing bytes⟩

/-- The keep-alives that were passed over before only add to the number. -/
theorem skipKeepAlives_add (skipped more : Nat) (bytes : Bytes) :
    skipKeepAlives (skipped + more) bytes =
      (skipped + (skipKeepAlives more bytes).1, (skipKeepAlives more bytes).2) := by
  fun_induction skipKeepAlives more bytes with
  | case1 more bytes hparse => exact skipKeepAlives_of_none _ hparse
  | case2 more bytes header rest hparse hkeep ih =>
    rw [skipKeepAlives_of_some _ hparse, if_pos hkeep, Nat.add_assoc, ih]
  | case3 more bytes header rest hparse hkeep =>
    rw [skipKeepAlives_of_some _ hparse, if_neg hkeep]

/-- Behind the keep-alives in front there is none to be dropped. -/
theorem skipKeepAlives_idempotent (again skipped : Nat) (bytes : Bytes) :
    skipKeepAlives again (skipKeepAlives skipped bytes).2 =
      (again, (skipKeepAlives skipped bytes).2) := by
  fun_induction skipKeepAlives skipped bytes with
  | case1 skipped bytes hparse => exact skipKeepAlives_of_none _ hparse
  | case2 skipped bytes header rest hparse hkeep ih => exact ih
  | case3 skipped bytes header rest hparse hkeep =>
    rw [skipKeepAlives_of_some _ hparse, if_neg hkeep]

/-! ## What is refused -/

/-- Why a header is refused, if it is. -/
def refusal? (framing : Framing) (header : Frame.Header) : Option Fault :=
  if header.kind = keepAliveKind then none
  else if header.kind ≠ messageKind then some unexpectedKind
  else if framing.limit < header.length then some (.oversizedPacket header.length)
  else none

theorem refusal?_eq_none_iff {header : Frame.Header} :
    framing.refusal? header = none ↔
      header.kind = keepAliveKind ∨
        header.kind = messageKind ∧ header.length ≤ framing.limit := by
  rw [refusal?]
  split
  · simp_all
  · split
    · simp_all
    · split <;> simp_all

theorem refusal?_eq_some_iff {header : Frame.Header} :
    framing.refusal? header = some fault ↔
      header.kind ≠ messageKind ∧ header.kind ≠ keepAliveKind ∧ fault = unexpectedKind ∨
        header.kind = messageKind ∧ framing.limit < header.length ∧
          fault = .oversizedPacket header.length := by
  have hother : keepAliveKind ≠ messageKind := by decide
  by_cases hkeep : header.kind = keepAliveKind
  · simp [refusal?, hkeep, hother]
  · by_cases hkind : header.kind = messageKind
    · by_cases hlimit : framing.limit < header.length
      · simp [refusal?, hkind, hother.symm, hlimit, eq_comm]
      · simp [refusal?, hkind, hother.symm, hlimit]
    · simp [refusal?, hkeep, hkind, eq_comm]

/-- The header of an accepted frame is not refused. -/
theorem refusal?_eq_none_of_accepts {frame : Whole} (haccepted : framing.Accepts frame) :
    framing.refusal? ⟨frame.kind, frame.payload.length⟩ = none :=
  refusal?_eq_none_iff.mpr haccepted

/-- A stream starts with a header that is refused. -/
def Refuses (framing : Framing) (fault : Fault) (bytes : Bytes) : Prop :=
  ∃ header rest, parseHeader? bytes = some (header, rest) ∧ framing.refusal? header = some fault

/-- A header is refused for its kind, or for a length beyond the limit. -/
theorem Refuses.fault_cases (hrefused : framing.Refuses fault bytes) :
    fault = unexpectedKind ∨
      ∃ length, fault = .oversizedPacket length ∧ framing.limit < length := by
  obtain ⟨header, -, -, hrefusal⟩ := hrefused
  rcases refusal?_eq_some_iff.mp hrefusal with ⟨-, -, hfault⟩ | ⟨-, hlimit, hfault⟩
  · exact .inl hfault
  · exact .inr ⟨header.length, hfault, hlimit⟩

/-- A refused header is refused whatever follows. -/
theorem Refuses.append (hrefused : framing.Refuses fault bytes) (more : Bytes) :
    framing.Refuses fault (bytes ++ more) := by
  obtain ⟨header, rest, hparse, hrefusal⟩ := hrefused
  obtain ⟨flags, high, low, rfl, hlength⟩ := parseHeader?_eq_some_iff.mp hparse
  exact ⟨header, rest ++ more, parseHeader?_eq_some_iff.mpr ⟨flags, high, low, rfl, hlength⟩,
    hrefusal⟩

/-! ## One message -/

theorem takeMessage_of_none (hparse : parseHeader? bytes = none) :
    framing.takeMessage bytes = (.waiting, bytes) := by
  rw [takeMessage, hparse]

theorem takeMessage_of_refused {header : Frame.Header}
    (hparse : parseHeader? bytes = some (header, rest))
    (hrefusal : framing.refusal? header = some fault) :
    framing.takeMessage bytes = (.failed fault, bytes) := by
  rw [refusal?] at hrefusal
  rw [takeMessage, hparse]
  split at hrefusal
  · simp at hrefusal
  · rename_i hkeep
    simp only [if_neg hkeep]
    split at hrefusal
    · rename_i hkind
      rw [if_pos hkind, Option.some.inj hrefusal]
    · rename_i hkind
      rw [if_neg hkind]
      split at hrefusal
      · rename_i hlimit
        rw [if_pos hlimit, Option.some.inj hrefusal]
      · simp at hrefusal

/-- A message whose header is not refused is taken as soon as it is all there. -/
theorem takeMessage_of_passed {header : Frame.Header}
    (hparse : parseHeader? bytes = some (header, rest))
    (hpassed : framing.refusal? header = none) :
    framing.takeMessage bytes =
      if header.kind = messageKind ∧ Bytes.hasAtLeast header.length rest then
        (.message (rest.take header.length), rest.drop header.length)
      else (.waiting, bytes) := by
  rw [takeMessage, hparse]
  have hother : ¬ keepAliveKind = messageKind := by decide
  rcases refusal?_eq_none_iff.mp hpassed with hkind | ⟨hkind, hlimit⟩
  · simp [hkind, hother]
  · simp [hkind, Ne.symm hother, Nat.not_lt.mpr hlimit]

theorem takes_takeMessage (framing : Framing) (bytes : Bytes) :
    framing.Takes bytes 0 (framing.takeMessage bytes).1.messages
      (framing.takeMessage bytes).2 := by
  cases hparse : parseHeader? bytes with
  | none =>
    rw [takeMessage_of_none hparse]
    exact .refl framing bytes
  | some parsed =>
    obtain ⟨header, rest⟩ := parsed
    cases hrefusal : framing.refusal? header with
    | some fault =>
      rw [takeMessage_of_refused hparse hrefusal]
      exact .refl framing bytes
    | none =>
      rw [takeMessage_of_passed hparse hrefusal]
      split
      · rename_i hmessage
        obtain ⟨hkind, hwhole⟩ := hmessage
        rw [Bytes.hasAtLeast_iff] at hwhole
        obtain ⟨frame, hframe, hpayload, rfl⟩ := Whole.exists_of_parseHeader? hparse hwhole
        have hlength : frame.payload.length = header.length := by
          rw [hpayload, List.length_take, Nat.min_eq_left hwhole]
        have hlimit : header.length ≤ framing.limit := by
          rcases refusal?_eq_none_iff.mp hrefusal with hkeep | ⟨-, hlimit⟩
          · exact absurd (hkind.symm.trans hkeep) (by decide)
          · exact hlimit
        rw [Outcome.messages, ← hpayload]
        exact .message (hframe.trans hkind) (hlength ▸ hlimit) _
      · exact .refl framing bytes

/-- Decoding takes off whole frames and nothing else. -/
theorem takes_decode (framing : Framing) (bytes : Bytes) :
    framing.Takes bytes (framing.decode bytes).skipped (framing.decode bytes).outcome.messages
      (framing.decode bytes).rest := by
  obtain ⟨dropped, hcount, hfront⟩ := takes_skipKeepAlives framing 0 bytes
  have htakes := hfront.trans (framing.takes_takeMessage (skipKeepAlives 0 bytes).2)
  rw [Nat.zero_add] at hcount
  rw [Nat.add_zero, List.nil_append, ← hcount] at htakes
  exact htakes

theorem takes_decode_of_outcome {outcome : Outcome}
    (houtcome : (framing.decode bytes).outcome = outcome) :
    framing.Takes bytes (framing.decode bytes).skipped outcome.messages
      (framing.decode bytes).rest := by
  rw [← houtcome]
  exact framing.takes_decode bytes

theorem decode_nil (framing : Framing) : framing.decode [] = ⟨0, .waiting, []⟩ := by
  rw [decode, skipKeepAlives_of_none 0 rfl]
  rfl

theorem hasAtLeast_payload (frame : Whole) (rest : Bytes) :
    Bytes.hasAtLeast frame.payload.length (frame.payload ++ rest) := by
  rw [Bytes.hasAtLeast_iff, List.length_append]
  exact Nat.le_add_right _ _

theorem skipKeepAlives_keepAlive (skipped : Nat) {frame : Whole}
    (hkind : frame.kind = keepAliveKind) (rest : Bytes) :
    skipKeepAlives skipped (frame.bytes ++ rest) = skipKeepAlives (skipped + 1) rest := by
  rw [skipKeepAlives_of_some skipped (frame.parseHeader?_bytes rest),
    if_pos ⟨hkind, hasAtLeast_payload frame rest⟩, List.drop_left]

theorem decode_keepAlive (framing : Framing) {frame : Whole}
    (hkind : frame.kind = keepAliveKind) (rest : Bytes) :
    framing.decode (frame.bytes ++ rest) =
      { framing.decode rest with skipped := 1 + (framing.decode rest).skipped } := by
  have hfront : skipKeepAlives 0 (frame.bytes ++ rest) =
      (1 + (skipKeepAlives 0 rest).1, (skipKeepAlives 0 rest).2) := by
    rw [skipKeepAlives_keepAlive 0 hkind]
    exact skipKeepAlives_add 1 0 rest
  simp only [decode, hfront]

theorem takeMessage_message {frame : Whole} (hkind : frame.kind = messageKind)
    (hlimit : frame.payload.length ≤ framing.limit) (rest : Bytes) :
    framing.takeMessage (frame.bytes ++ rest) = (.message frame.payload, rest) := by
  have hpassed : framing.refusal? ⟨frame.kind, frame.payload.length⟩ = none :=
    refusal?_eq_none_of_accepts (.inr ⟨hkind, hlimit⟩)
  rw [takeMessage_of_passed (frame.parseHeader?_bytes rest) hpassed,
    if_pos ⟨hkind, hasAtLeast_payload frame rest⟩, List.take_left, List.drop_left]

theorem decode_message {frame : Whole} (hkind : frame.kind = messageKind)
    (hlimit : frame.payload.length ≤ framing.limit) (rest : Bytes) :
    framing.decode (frame.bytes ++ rest) = ⟨0, .message frame.payload, rest⟩ := by
  have hother : frame.kind ≠ keepAliveKind := by
    rw [hkind]
    decide
  have hfront : skipKeepAlives 0 (frame.bytes ++ rest) = (0, frame.bytes ++ rest) := by
    rw [skipKeepAlives_of_some 0 (frame.parseHeader?_bytes rest),
      if_neg (fun hkeep => hother hkeep.1)]
  simp only [decode, hfront, takeMessage_message hkind hlimit]

/-- Decoding comes to the first message that is taken off; where only keep-alives are taken off,
it comes to what follows them. -/
theorem outcome_decode_of_takes (htakes : framing.Takes before skipped messages after) :
    (framing.decode before).outcome =
      (messages.head?.map Outcome.message).getD (framing.decode after).outcome := by
  obtain ⟨frames, haccepted, hskipped, rfl, rfl⟩ := htakes
  clear hskipped
  induction frames with
  | nil => rfl
  | cons frame frames ih =>
    rw [Whole.stream_cons, List.append_assoc]
    rcases haccepted frame (List.mem_cons_self ..) with hkind | ⟨hkind, hlimit⟩
    · rw [framing.decode_keepAlive hkind, Whole.messages_keepAlive hkind]
      exact ih fun other hother => haccepted other (List.mem_cons_of_mem frame hother)
    · rw [decode_message hkind hlimit, Whole.messages_message hkind]
      rfl

theorem rest_of_no_message (hnone : (framing.decode bytes).outcome.messages = []) :
    (framing.decode bytes).rest = (skipKeepAlives 0 bytes).2 := by
  have htakes := framing.takes_takeMessage (skipKeepAlives 0 bytes).2
  change framing.Takes _ 0 (framing.decode bytes).outcome.messages (framing.decode bytes).rest
    at htakes
  rw [hnone] at htakes
  exact htakes.eq_of_nothing.symm

/-- Where decoding has come to no message it stays. -/
theorem decode_rest_of_no_message (hnone : (framing.decode bytes).outcome.messages = []) :
    framing.decode (framing.decode bytes).rest =
      ⟨0, (framing.decode bytes).outcome, (framing.decode bytes).rest⟩ := by
  have hrest := rest_of_no_message hnone
  have hfront := skipKeepAlives_idempotent 0 0 bytes
  calc
    framing.decode (framing.decode bytes).rest =
        framing.decode (skipKeepAlives 0 bytes).2 := by rw [hrest]
    _ = ⟨0, (framing.decode bytes).outcome, (framing.decode bytes).rest⟩ := by
      rw [decode, hfront]
      rfl

/-! ## Decoding what is refused -/

theorem refuses_of_takeMessage (hfailed : (framing.takeMessage bytes).1 = .failed fault) :
    framing.Refuses fault bytes := by
  cases hparse : parseHeader? bytes with
  | none => simp [takeMessage_of_none hparse] at hfailed
  | some parsed =>
    obtain ⟨header, rest⟩ := parsed
    cases hrefusal : framing.refusal? header with
    | none =>
      rw [takeMessage_of_passed hparse hrefusal] at hfailed
      split at hfailed <;> simp at hfailed
    | some other =>
      rw [takeMessage_of_refused hparse hrefusal] at hfailed
      exact ⟨header, rest, hparse, hrefusal.trans (congrArg some (Outcome.failed.inj hfailed))⟩

/-- Nothing is taken off a stream that starts with a refused header. -/
theorem Takes.of_refuses (htakes : framing.Takes before skipped messages after)
    (hrefused : framing.Refuses fault before) : messages = [] ∧ after = before := by
  obtain ⟨frames, haccepted, -, rfl, rfl⟩ := htakes
  cases frames with
  | nil => exact ⟨rfl, rfl⟩
  | cons frame frames =>
    obtain ⟨header, rest, hparse, hrefusal⟩ := hrefused
    rw [Whole.stream_cons, List.append_assoc, frame.parseHeader?_bytes, Option.some.injEq,
      Prod.mk.injEq] at hparse
    obtain ⟨rfl, -⟩ := hparse
    have hpassed := refusal?_eq_none_of_accepts (haccepted frame (List.mem_cons_self ..))
    exact absurd (hpassed.symm.trans hrefusal) (by simp)

/-- Decoding stops at a refused header and leaves it where it is. -/
theorem decode_of_refuses (hrefused : framing.Refuses fault bytes) :
    framing.decode bytes = ⟨0, .failed fault, bytes⟩ := by
  obtain ⟨header, rest, hparse, hrefusal⟩ := hrefused
  have hkeep : header.kind ≠ keepAliveKind := by
    intro hkind
    exact absurd ((refusal?_eq_none_iff.mpr (.inl hkind)).symm.trans hrefusal) (by simp)
  have hfront : skipKeepAlives 0 bytes = (0, bytes) := by
    rw [skipKeepAlives_of_some 0 hparse, if_neg (fun hboth => hkeep hboth.1)]
  simp only [decode, hfront, takeMessage_of_refused hparse hrefusal]

theorem refuses_of_decode (hfailed : (framing.decode bytes).outcome = .failed fault) :
    framing.Refuses fault (framing.decode bytes).rest := by
  rw [rest_of_no_message (by rw [hfailed]; rfl)]
  exact refuses_of_takeMessage hfailed

end SmbExchange.Framing
