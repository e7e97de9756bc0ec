import SmbExchange.Transport.Basic
import SmbExchange.Transport.Block

/-!
# Reading frames off a stream

A reader keeps the bytes that it has read and not yet decoded, so nothing is lost when a wait is
given up.  One poll reads what the stream holds at the moment, as much at a time as there is room
for, and comes to at most one arrival.

After a refused frame the reader reports the end of the stream once and then looks again at what it
has, as soon as there is more; the refused header still stands there.
-/

namespace SmbExchange

/-- What has been read and not yet decoded. -/
structure FrameReader where
  buffer : Bytes
  block : Block
  /-- There may be a frame in the buffer. -/
  readable : Bool
  /-- The stream was seen to end. -/
  eof : Bool
  /-- The last poll refused a frame. -/
  errored : Bool
  deriving DecidableEq, Repr

namespace FrameReader

def new : FrameReader :=
  ⟨[], .new, false, false, false⟩

structure Polled where
  /-- How many keep-alives were passed over. -/
  skipped : Nat
  /-- What the poll came to; nothing when more bytes are needed. -/
  arrival : Arrival
  reader : FrameReader
  incoming : Bytes
  deriving DecidableEq, Repr

/-- Adds keep-alives that were passed over before. -/
def Polled.after (polled : Polled) (skipped : Nat) : Polled :=
  { polled with skipped := skipped + polled.skipped }

def keep (reader : FrameReader) (rest : Bytes) : FrameReader :=
  { reader with
    buffer := rest, block := reader.block.takeOff (reader.buffer.length - rest.length) }

/-- The reader with room for so many more bytes. -/
def reserve (reader : FrameReader) (more : Nat) : FrameReader :=
  { reader with block := reader.block.reserve reader.buffer.length more }

/-- How many bytes a read takes at most. -/
def room (reader : FrameReader) : Nat :=
  reader.block.room reader.buffer.length

/-- Looks for a frame in the bytes at hand.  At the end of the stream there has to be one.  Room is
made for the rest of a message whose header is there. -/
def scan (framing : Framing) (reader : FrameReader) (incoming : Bytes) : Polled :=
  let found := if reader.eof then framing.decodeEnd reader.buffer else framing.decode reader.buffer
  let left := reader.keep found.rest
  let wide := left.reserve (framing.missing found.rest)
  match found.outcome with
  | .message payload => ⟨found.skipped, .message payload, left, incoming⟩
  | .failed fault => ⟨found.skipped, .failed fault, { wide with errored := true }, incoming⟩
  | .waiting =>
    let arrival := if reader.eof then .failed .connectionClosed else .nothing
    ⟨found.skipped, arrival, { wide with readable := false }, incoming⟩

/-- Asks a stream that holds no bytes whether it has ended. -/
def drain (framing : Framing) (reader : FrameReader) (ended : Bool) : Polled :=
  if !ended then ⟨0, .nothing, reader, []⟩
  else if reader.eof then ⟨0, .failed .connectionClosed, reader, []⟩
  else scan framing { reader with eof := true, readable := true } []

def read (reader : FrameReader) (bytes : Bytes) : FrameReader :=
  { reader with buffer := reader.buffer ++ bytes, eof := false, readable := true }

/-- Reads what a stream holds until there is a frame. -/
def fill (framing : Framing) (reader : FrameReader) (incoming : Bytes) (ended : Bool) : Polled :=
  let ready := reader.reserve 1
  if _ : incoming = [] then drain framing ready ended
  else
    let found := scan framing (ready.read (incoming.take ready.room)) (incoming.drop ready.room)
    if found.arrival = .nothing then
      (fill framing found.reader (incoming.drop ready.room) ended).after found.skipped
    else found
termination_by incoming.length
decreasing_by
  have hroom : 1 ≤ (reader.reserve 1).room :=
    Block.le_room_reserve reader.block reader.buffer.length 1
  have hsome : 0 < incoming.length := List.length_pos_iff.mpr (by assumption)
  simp only [List.length_drop]
  omega

/-- Comes to the next arrival, with what the stream holds at the moment. -/
def poll (framing : Framing) (reader : FrameReader) (incoming : Bytes) (ended : Bool) : Polled :=
  if reader.errored then
    ⟨0, .failed .connectionClosed, { reader with errored := false, readable := false }, incoming⟩
  else if reader.readable then
    let found := scan framing reader incoming
    if found.arrival = .nothing then (fill framing found.reader incoming ended).after found.skipped
    else found
  else fill framing reader incoming ended

/-- The bytes that a poll leaves to be decoded. -/
def Polled.left (polled : Polled) : Nat :=
  polled.reader.buffer.length + polled.incoming.length

/-- A poll leaves no more than it found, and less when it came to a message. -/
def Polled.Within (polled : Polled) (bound : Nat) : Prop :=
  polled.left ≤ bound ∧ ∀ payload, polled.arrival = .message payload → polled.left < bound

theorem within_after {polled : Polled} {bound : Nat} (skipped : Nat)
    (hwithin : polled.Within bound) : (polled.after skipped).Within bound :=
  hwithin

theorem Polled.Within.mono {polled : Polled} {small large : Nat} (hwithin : polled.Within small)
    (hle : small ≤ large) : polled.Within large :=
  ⟨Nat.le_trans hwithin.1 hle, fun payload harrival =>
    Nat.lt_of_lt_of_le (hwithin.2 payload harrival) hle⟩

private theorem decodeEnd_rest (framing : Framing) (bytes : Bytes) :
    (framing.decodeEnd bytes).rest = (framing.decode bytes).rest := by
  simp only [Framing.decodeEnd]
  split
  · split <;> rfl
  · rfl

private theorem decodeEnd_message {framing : Framing} {bytes payload : Bytes}
    (hmessage : (framing.decodeEnd bytes).outcome = .message payload) :
    (framing.decode bytes).outcome = .message payload := by
  simp only [Framing.decodeEnd] at hmessage
  split at hmessage
  · split at hmessage
    · exact hmessage
    · simp at hmessage
  · exact hmessage

theorem scan_within (framing : Framing) (reader : FrameReader) (incoming : Bytes) :
    (scan framing reader incoming).Within (reader.buffer.length + incoming.length) := by
  have hle := framing.length_rest_le reader.buffer
  have hlt := @Framing.length_rest_lt_of_message framing reader.buffer
  simp only [scan]
  have hrest : (if reader.eof then framing.decodeEnd reader.buffer
      else framing.decode reader.buffer).rest = (framing.decode reader.buffer).rest := by
    split
    · exact decodeEnd_rest framing reader.buffer
    · rfl
  have houtcome : ∀ payload, (if reader.eof then framing.decodeEnd reader.buffer
      else framing.decode reader.buffer).outcome = .message payload →
      (framing.decode reader.buffer).outcome = .message payload := by
    intro payload
    split
    · exact decodeEnd_message
    · exact id
  generalize (if reader.eof then framing.decodeEnd reader.buffer
    else framing.decode reader.buffer) = found at hrest houtcome ⊢
  split
  · rename_i payload hfound
    have hless := hlt (houtcome payload hfound)
    refine ⟨?_, fun _ _ => ?_⟩ <;> simp only [Polled.left, keep, hrest] <;> omega
  · refine ⟨?_, fun _ hmessage => by simp at hmessage⟩
    simp only [Polled.left, reserve, keep, hrest]
    omega
  · refine ⟨?_, fun _ hmessage => ?_⟩
    · simp only [Polled.left, reserve, keep, hrest]
      omega
    · simp only at hmessage
      split at hmessage <;> simp at hmessage

@[simp]
theorem scan_incoming (framing : Framing) (reader : FrameReader) (incoming : Bytes) :
    (scan framing reader incoming).incoming = incoming := by
  simp only [scan]
  split <;> rfl

theorem drain_within (framing : Framing) (reader : FrameReader) (ended : Bool) :
    (drain framing reader ended).Within reader.buffer.length := by
  unfold drain
  split
  · exact ⟨by simp [Polled.left], by simp⟩
  · split
    · exact ⟨by simp [Polled.left], by simp⟩
    · simpa using scan_within framing { reader with eof := true, readable := true } []

/-- A read moves bytes from the stream to the reader. -/
theorem length_read_take (reader : FrameReader) (incoming : Bytes) (count : Nat) :
    (reader.read (incoming.take count)).buffer.length + (incoming.drop count).length =
      reader.buffer.length + incoming.length := by
  simp only [read, List.length_append, List.length_take, List.length_drop]
  omega

theorem fill_within (framing : Framing) (reader : FrameReader) (incoming : Bytes) (ended : Bool) :
    (fill framing reader incoming ended).Within (reader.buffer.length + incoming.length) := by
  fun_induction fill framing reader incoming ended with
  | case1 reader ready => exact drain_within framing ready ended
  | case2 reader incoming ready hsome found hnothing ih =>
    have hscan := scan_within framing (ready.read (incoming.take ready.room))
      (incoming.drop ready.room)
    rw [length_read_take] at hscan
    refine within_after _ (ih.mono ?_)
    have hleft := hscan.1
    simp only [Polled.left, scan_incoming] at hleft
    exact hleft
  | case3 reader incoming ready hsome found harrival =>
    have hscan := scan_within framing (ready.read (incoming.take ready.room))
      (incoming.drop ready.room)
    rw [length_read_take] at hscan
    exact hscan

/-- A poll takes bytes off, and at least one of them for a message. -/
theorem poll_within (framing : Framing) (reader : FrameReader) (incoming : Bytes) (ended : Bool) :
    (poll framing reader incoming ended).Within (reader.buffer.length + incoming.length) := by
  unfold poll
  split
  · exact ⟨by simp [Polled.left], by simp⟩
  · split
    · have hscan := scan_within framing reader incoming
      simp only
      split
      · refine within_after _ ((fill_within framing _ incoming ended).mono ?_)
        simpa only [Polled.left, scan_incoming] using hscan.1
      · exact hscan
    · exact fill_within framing reader incoming ended

end FrameReader

end SmbExchange
