import SmbExchange.Frame.Framing

/-!
# Whole frames

A frame that stands on a stream with all its bytes says itself where it ends.
A stream of whole frames can therefore be cut in one way only: what is taken
off its front in frames are the frames that it was made of.
-/

namespace SmbExchange

namespace Frame

theorem parseHeader?_eq_some_iff {bytes rest : Bytes} {header : Header} :
    parseHeader? bytes = some (header, rest) ↔
      ∃ flags high low, bytes = header.kind :: flags :: high :: low :: rest ∧
        header.length = payloadLength flags high low := by
  constructor
  · intro hparse
    match bytes with
    | kind :: flags :: high :: low :: tail =>
      simp only [parseHeader?, Option.some.injEq, Prod.mk.injEq] at hparse
      obtain ⟨rfl, rfl⟩ := hparse
      exact ⟨flags, high, low, rfl, rfl⟩
    | [] | [_] | [_, _] | [_, _, _] => simp [parseHeader?] at hparse
  · rintro ⟨flags, high, low, rfl, hlength⟩
    simp only [parseHeader?, ← hlength]

/-- A frame with all the bytes that its header announces.  One bit of the flags
belongs to the length, the others may hold anything. -/
structure Whole where
  kind : UInt8
  flags : UInt8
  high : UInt8
  low : UInt8
  payload : Bytes
  length_payload : payload.length = payloadLength flags high low
  deriving DecidableEq

namespace Whole

def bytes (frame : Whole) : Bytes :=
  frame.kind :: frame.flags :: frame.high :: frame.low :: frame.payload

def stream (frames : List Whole) : Bytes :=
  frames.flatMap bytes

def messages (frames : List Whole) : List Bytes :=
  (frames.filter fun frame => frame.kind = messageKind).map payload

def keepAlives (frames : List Whole) : Nat :=
  frames.countP fun frame => frame.kind = keepAliveKind

/-! ## Streams of frames -/

@[simp]
theorem stream_nil : stream [] = [] := rfl

@[simp]
theorem stream_cons (frame : Whole) (frames : List Whole) :
    stream (frame :: frames) = frame.bytes ++ stream frames := rfl

@[simp]
theorem stream_append (left right : List Whole) :
    stream (left ++ right) = stream left ++ stream right :=
  List.flatMap_append

@[simp]
theorem messages_nil : messages [] = [] := rfl

@[simp]
theorem messages_append (left right : List Whole) :
    messages (left ++ right) = messages left ++ messages right := by
  rw [messages, List.filter_append, List.map_append]
  rfl

theorem messages_message {frame : Whole} (hkind : frame.kind = messageKind)
    (frames : List Whole) : messages (frame :: frames) = frame.payload :: messages frames := by
  rw [messages, List.filter_cons_of_pos (by simpa using hkind)]
  rfl

theorem messages_keepAlive {frame : Whole} (hkind : frame.kind = keepAliveKind)
    (frames : List Whole) : messages (frame :: frames) = messages frames := by
  have hother : ¬ keepAliveKind = messageKind := by decide
  rw [messages, List.filter_cons_of_neg (by simpa [hkind] using hother)]
  rfl

@[simp]
theorem keepAlives_nil : keepAlives [] = 0 := rfl

@[simp]
theorem keepAlives_append (left right : List Whole) :
    keepAlives (left ++ right) = keepAlives left + keepAlives right :=
  List.countP_append

theorem keepAlives_message {frame : Whole} (hkind : frame.kind = messageKind)
    (frames : List Whole) : keepAlives (frame :: frames) = keepAlives frames := by
  have hother : ¬ messageKind = keepAliveKind := by decide
  exact List.countP_cons_of_neg (by simpa [hkind] using hother)

theorem keepAlives_keepAlive {frame : Whole} (hkind : frame.kind = keepAliveKind)
    (frames : List Whole) : keepAlives (frame :: frames) = keepAlives frames + 1 :=
  List.countP_cons_of_pos (by simpa using hkind)

/-! ## Where a frame ends -/

theorem parseHeader?_bytes (frame : Whole) (rest : Bytes) :
    parseHeader? (frame.bytes ++ rest) =
      some (⟨frame.kind, frame.payload.length⟩, frame.payload ++ rest) := by
  rw [frame.length_payload]
  rfl

/-- Whatever follows, a frame ends where it ends. -/
theorem bytes_append_inj {left right : Whole} {before after : Bytes}
    (hsame : left.bytes ++ before = right.bytes ++ after) : left = right ∧ before = after := by
  obtain ⟨kind, flags, high, low, payload, hpayload⟩ := left
  obtain ⟨kind', flags', high', low', payload', hpayload'⟩ := right
  simp only [bytes, List.cons_append, List.cons.injEq] at hsame
  obtain ⟨rfl, rfl, rfl, rfl, htail⟩ := hsame
  have hlength : payload.length = payload'.length := hpayload.trans hpayload'.symm
  obtain ⟨rfl, rfl⟩ := List.append_inj htail hlength
  exact ⟨rfl, rfl⟩

/-- What is taken in frames off a stream of whole frames are the first of them, and the
others are left. -/
theorem exists_left_of_stream_eq {frames taken : List Whole} {rest : Bytes}
    (hstream : stream frames = stream taken ++ rest) :
    ∃ left, frames = taken ++ left ∧ rest = stream left := by
  induction taken generalizing frames with
  | nil => exact ⟨frames, rfl, hstream.symm⟩
  | cons first taken ih =>
    cases frames with
    | nil => simp [bytes] at hstream
    | cons frame frames =>
      rw [stream_cons, stream_cons, List.append_assoc] at hstream
      obtain ⟨rfl, htail⟩ := bytes_append_inj hstream
      obtain ⟨left, rfl, hrest⟩ := ih htail
      exact ⟨left, rfl, hrest⟩

/-- A header and what it announces make a frame. -/
theorem exists_of_parseHeader? {bytes rest : Bytes} {header : Header}
    (hparse : parseHeader? bytes = some (header, rest)) (hwhole : header.length ≤ rest.length) :
    ∃ frame : Whole, frame.kind = header.kind ∧ frame.payload = rest.take header.length ∧
      bytes = frame.bytes ++ rest.drop header.length := by
  obtain ⟨flags, high, low, rfl, hlength⟩ := parseHeader?_eq_some_iff.mp hparse
  refine ⟨⟨header.kind, flags, high, low, rest.take header.length, ?_⟩, rfl, rfl, ?_⟩
  · rw [List.length_take, Nat.min_eq_left hwhole, hlength]
  · simp only [Whole.bytes, List.cons_append, List.take_append_drop]

def ofPayload (payload : Bytes) (hlength : payload.length ≤ maximumLength) : Whole where
  kind := messageKind
  flags := UInt8.ofNat (payload.length / 65536 % 2)
  high := UInt8.ofNat (payload.length / 256)
  low := UInt8.ofNat payload.length
  payload := payload
  length_payload := by
    have hheader := parseHeader?_messageHeader hlength []
    simp only [messageHeader, List.cons_append, parseHeader?, Option.some.injEq,
      Prod.mk.injEq, Header.mk.injEq] at hheader
    exact hheader.1.2.symm

theorem bytes_ofPayload {payload : Bytes} (hlength : payload.length ≤ maximumLength) :
    (ofPayload payload hlength).bytes = messageHeader payload.length ++ payload := rfl

end Whole

end Frame

namespace Framing

/-- A framing drops keep-alives and lets messages up to its limit pass. -/
def Accepts (framing : Framing) (frame : Frame.Whole) : Prop :=
  frame.kind = Frame.keepAliveKind ∨
    frame.kind = Frame.messageKind ∧ frame.payload.length ≤ framing.limit

instance (framing : Framing) (frame : Frame.Whole) : Decidable (framing.Accepts frame) :=
  inferInstanceAs (Decidable (_ ∨ _))

end Framing

end SmbExchange
