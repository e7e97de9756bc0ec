import SmbExchange.Frame.Header

/-!
# Frames on a byte stream

`Framing.decode` takes the next message off a stream.  Complete keep-alives in front of it are
dropped and counted.  What it says about the stream depends only on the bytes there: more bytes
behind never change a message or a fault that has been found, they only end the waiting.

A message longer than the limit is refused as soon as its header is there.  A fault leaves the
offending header on the stream.
-/

namespace SmbExchange

/-- The rules of one end of a stream: how long a payload it lets pass. -/
structure Framing where
  /-- The longest payload. -/
  limit : Nat
  /-- No payload is longer than a header can describe. -/
  limit_le : limit ≤ Frame.maximumLength
  deriving DecidableEq, Repr

namespace Framing

open SmbExchange.Frame

/-- Framing with a limit, lowered to what a header can describe. -/
def ofLimit (limit : Nat) : Framing :=
  ⟨min limit maximumLength, Nat.min_le_right _ _⟩

/-- Framing that lets every describable payload pass. -/
def full : Framing := ofLimit maximumLength

/-- Drops complete keep-alives from the front of a stream.  Gives `skipped` more by their number,
and what follows them. -/
def skipKeepAlives (skipped : Nat) (bytes : Bytes) : Nat × Bytes :=
  match hparse : parseHeader? bytes with
  | none => (skipped, bytes)
  | some (header, rest) =>
    if header.kind = keepAliveKind ∧ Bytes.hasAtLeast header.length rest then
      skipKeepAlives (skipped + 1) (rest.drop header.length)
    else (skipped, bytes)
termination_by bytes.length
decreasing_by
  have hlength := length_of_parseHeader? hparse
  simp only [List.length_drop, headerLength] at hlength ⊢
  omega

inductive Outcome where
  | message (payload : Bytes)
  /-- The beginning of a frame, or nothing. -/
  | waiting
  /-- A header that is refused. -/
  | failed (fault : Fault)
  deriving DecidableEq, Repr

/-- The refusal of a frame that is neither a message nor a keep-alive. -/
def unexpectedKind : Fault := .transport "Unexpected NetBIOS session frame type"

/-- Takes one message off a stream that does not start with a complete keep-alive. -/
def takeMessage (framing : Framing) (bytes : Bytes) : Outcome × Bytes :=
  match parseHeader? bytes with
  | none => (.waiting, bytes)
  | some (header, rest) =>
    if header.kind = keepAliveKind then (.waiting, bytes)
    else if header.kind ≠ messageKind then (.failed unexpectedKind, bytes)
    else if framing.limit < header.length then (.failed (.oversizedPacket header.length), bytes)
    else if Bytes.hasAtLeast header.length rest then
      (.message (rest.take header.length), rest.drop header.length)
    else (.waiting, bytes)

/-- How many bytes are missing of a message whose header stands at the front of a stream. -/
def missing (framing : Framing) (bytes : Bytes) : Nat :=
  match parseHeader? bytes with
  | none => 0
  | some (header, rest) =>
    if header.kind = messageKind ∧ header.length ≤ framing.limit then header.length - rest.length
    else 0

structure Decoded where
  /-- How many keep-alives were dropped. -/
  skipped : Nat
  outcome : Outcome
  /-- The stream behind what was taken off. -/
  rest : Bytes
  deriving DecidableEq, Repr

/-- Takes the next message off a stream. -/
def decode (framing : Framing) (bytes : Bytes) : Decoded :=
  let front := skipKeepAlives 0 bytes
  let taken := framing.takeMessage front.2
  ⟨front.1, taken.1, taken.2⟩

/-- Takes the next message off a stream that has ended.  Bytes that are no complete frame are a
fault there. -/
def decodeEnd (framing : Framing) (bytes : Bytes) : Decoded :=
  let found := framing.decode bytes
  match found.outcome with
  | .waiting =>
    if found.rest.isEmpty then found
    else { found with outcome := .failed (.stream .bytesRemaining) }
  | _ => found

def encode (framing : Framing) (payload : Bytes) : Except Fault Bytes :=
  if framing.limit < payload.length then .error (.oversizedPacket payload.length)
  else .ok (messageHeader payload.length ++ payload)

/-- Writes the frame of a message behind what an output buffer holds.  A message that is refused
leaves the buffer as it is. -/
def encodeOnto (framing : Framing) (output payload : Bytes) : Except Fault Unit × Bytes :=
  match framing.encode payload with
  | .ok frame => (.ok (), output ++ frame)
  | .error fault => (.error fault, output)

theorem length_skipKeepAlives_le (skipped : Nat) (bytes : Bytes) :
    (skipKeepAlives skipped bytes).2.length ≤ bytes.length := by
  fun_induction skipKeepAlives skipped bytes with
  | case1 => exact Nat.le_refl _
  | case2 skipped bytes header rest hparse hkeep ih =>
    have hlength := length_of_parseHeader? hparse
    simp only [List.length_drop] at ih
    omega
  | case3 => exact Nat.le_refl _

/-- Only a message is taken off the stream, and with it at least its header. -/
theorem takeMessage_rest (framing : Framing) (bytes : Bytes) :
    (framing.takeMessage bytes).2 = bytes ∧
        (∀ payload, (framing.takeMessage bytes).1 ≠ .message payload) ∨
      (framing.takeMessage bytes).2.length < bytes.length := by
  unfold takeMessage
  split
  · simp
  · rename_i header rest hparse
    have hlength := length_of_parseHeader? hparse
    simp only [headerLength] at hlength
    repeat' split
    all_goals simp
    omega

/-- A message takes at least its header off the stream. -/
theorem length_rest_lt_of_message {framing : Framing} {bytes payload : Bytes}
    (hmessage : (framing.decode bytes).outcome = .message payload) :
    (framing.decode bytes).rest.length < bytes.length := by
  have hfront := length_skipKeepAlives_le 0 bytes
  rcases framing.takeMessage_rest (skipKeepAlives 0 bytes).2 with hsame | hless
  · exact absurd hmessage (hsame.2 payload)
  · exact Nat.lt_of_lt_of_le hless hfront

/-- Decoding never puts anything back. -/
theorem length_rest_le (framing : Framing) (bytes : Bytes) :
    (framing.decode bytes).rest.length ≤ bytes.length := by
  have hfront := length_skipKeepAlives_le 0 bytes
  rcases framing.takeMessage_rest (skipKeepAlives 0 bytes).2 with hsame | hless
  · exact Nat.le_trans (Nat.le_of_eq (congrArg List.length hsame.1)) hfront
  · exact Nat.le_trans (Nat.le_of_lt hless) hfront

end Framing

end SmbExchange
