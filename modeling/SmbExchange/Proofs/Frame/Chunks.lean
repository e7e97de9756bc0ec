import SmbExchange.Proofs.Frame.Decoding

/-!
# Streams that arrive in chunks

Decoding goes on until it stops: at what is not yet a frame or at a header that
is refused.  A stream that arrives in chunks is decoded as far as possible after
each of them.  `feed_eq_decodeAll` says that the cuts do not matter: messages,
stop and bytes that are left are those of the whole stream.
-/

namespace SmbExchange.Framing

open SmbExchange.Frame (Whole)

/-- What decoding comes to when it goes on until it stops. -/
structure Yield where
  /-- How many keep-alives were dropped. -/
  skipped : Nat
  messages : List Bytes
  /-- What decoding was refused with; without it, more bytes are waited for. -/
  fault : Option Fault
  rest : Bytes
  deriving DecidableEq, Repr

def Yield.behind (yield : Yield) (skipped : Nat) (messages : List Bytes) : Yield :=
  { yield with skipped := skipped + yield.skipped, messages := messages ++ yield.messages }

def decodeAll (framing : Framing) (bytes : Bytes) : Yield :=
  let found := framing.decode bytes
  match _ : found.outcome with
  | .message payload => (decodeAll framing found.rest).behind found.skipped [payload]
  | .waiting => ⟨found.skipped, [], none, found.rest⟩
  | .failed fault => ⟨found.skipped, [], some fault, found.rest⟩
termination_by bytes.length
decreasing_by exact length_rest_lt_of_message (by assumption)

/-- Appends chunks to a buffer, one after the other, and decodes after each of them until it
stops.  After a refusal the chunks that are left are only appended. -/
def feed (framing : Framing) (buffer : Bytes) : List Bytes → Yield
  | [] => ⟨0, [], none, buffer⟩
  | chunk :: chunks =>
    let found := framing.decodeAll (buffer ++ chunk)
    match found.fault with
    | none => (feed framing found.rest chunks).behind found.skipped found.messages
    | some _ => { found with rest := found.rest ++ chunks.flatten }

variable {framing : Framing} {before after bytes : Bytes}
variable {skipped : Nat} {messages : List Bytes} {fault : Fault}

/-! ## One step of decoding -/

theorem decodeAll_of_message {payload : Bytes}
    (hmessage : (framing.decode bytes).outcome = .message payload) :
    framing.decodeAll bytes =
      (framing.decodeAll (framing.decode bytes).rest).behind (framing.decode bytes).skipped
        [payload] := by
  rw [decodeAll]
  split <;> simp_all

theorem decodeAll_of_waiting (hwaiting : (framing.decode bytes).outcome = .waiting) :
    framing.decodeAll bytes =
      ⟨(framing.decode bytes).skipped, [], none, (framing.decode bytes).rest⟩ := by
  rw [decodeAll]
  split <;> simp_all

theorem decodeAll_of_failed (hfailed : (framing.decode bytes).outcome = .failed fault) :
    framing.decodeAll bytes =
      ⟨(framing.decode bytes).skipped, [], some fault, (framing.decode bytes).rest⟩ := by
  rw [decodeAll]
  split <;> simp_all

theorem decodeAll_nil (framing : Framing) : framing.decodeAll [] = ⟨0, [], none, []⟩ := by
  have hdecode := framing.decode_nil
  rw [decodeAll_of_waiting (by rw [hdecode]), hdecode]

theorem Yield.behind_behind (yield : Yield) (skipped more : Nat) (messages later : List Bytes) :
    (yield.behind more later).behind skipped messages =
      yield.behind (skipped + more) (messages ++ later) := by
  simp only [Yield.behind, Nat.add_assoc, List.append_assoc]

/-! ## Frames in front -/

theorem decodeAll_keepAlive {frame : Whole} (hkind : frame.kind = Frame.keepAliveKind)
    (rest : Bytes) :
    framing.decodeAll (frame.bytes ++ rest) = (framing.decodeAll rest).behind 1 [] := by
  have hdecode := framing.decode_keepAlive hkind rest
  cases houtcome : (framing.decode rest).outcome with
  | message payload =>
    rw [decodeAll_of_message (by rw [hdecode]; exact houtcome), decodeAll_of_message houtcome,
      Yield.behind_behind, hdecode]
    rfl
  | waiting =>
    rw [decodeAll_of_waiting (by rw [hdecode]; exact houtcome), decodeAll_of_waiting houtcome,
      hdecode]
    rfl
  | failed fault =>
    rw [decodeAll_of_failed (by rw [hdecode]; exact houtcome), decodeAll_of_failed houtcome,
      hdecode]
    rfl

theorem decodeAll_message {frame : Whole} (hkind : frame.kind = Frame.messageKind)
    (hlimit : frame.payload.length ≤ framing.limit) (rest : Bytes) :
    framing.decodeAll (frame.bytes ++ rest) =
      (framing.decodeAll rest).behind 0 [frame.payload] := by
  have hdecode := decode_message hkind hlimit rest
  rw [decodeAll_of_message (by rw [hdecode]), hdecode]

/-- Whatever accepted frames are taken off first, the rest is decoded as it is. -/
theorem decodeAll_of_takes (htakes : framing.Takes before skipped messages after) :
    framing.decodeAll before = (framing.decodeAll after).behind skipped messages := by
  obtain ⟨frames, haccepted, rfl, rfl, rfl⟩ := htakes
  induction frames with
  | nil => simp [Yield.behind]
  | cons frame frames ih =>
    have hrest := ih fun other hother => haccepted other (List.mem_cons_of_mem frame hother)
    rw [Whole.stream_cons, List.append_assoc]
    rcases haccepted frame (List.mem_cons_self ..) with hkind | ⟨hkind, hlimit⟩
    · rw [decodeAll_keepAlive hkind, hrest, Yield.behind_behind,
        Whole.keepAlives_keepAlive hkind, Whole.messages_keepAlive hkind, Nat.add_comm 1]
      rfl
    · rw [decodeAll_message hkind hlimit, hrest, Yield.behind_behind,
        Whole.keepAlives_message hkind, Whole.messages_message hkind, Nat.zero_add]
      rfl

/-! ## Where decoding stops -/

theorem takes_decodeAll (framing : Framing) (bytes : Bytes) :
    framing.Takes bytes (framing.decodeAll bytes).skipped (framing.decodeAll bytes).messages
      (framing.decodeAll bytes).rest := by
  fun_induction decodeAll framing bytes with
  | case1 bytes found payload hmessage ih => exact (takes_decode_of_outcome hmessage).trans ih
  | case2 bytes found hwaiting => exact takes_decode_of_outcome hwaiting
  | case3 bytes found fault hfailed => exact takes_decode_of_outcome hfailed

theorem decodeAll_of_refuses (hrefused : framing.Refuses fault bytes) :
    framing.decodeAll bytes = ⟨0, [], some fault, bytes⟩ := by
  have hdecode := decode_of_refuses hrefused
  rw [decodeAll_of_failed (by rw [hdecode]), hdecode]

theorem refuses_of_decodeAll (hfault : (framing.decodeAll bytes).fault = some fault) :
    framing.Refuses fault (framing.decodeAll bytes).rest := by
  fun_induction decodeAll framing bytes with
  | case1 bytes found payload hmessage ih => exact ih hfault
  | case2 bytes found hwaiting => simp at hfault
  | case3 bytes found fault' hfailed =>
    rw [← Option.some.inj hfault]
    exact refuses_of_decode hfailed

/-- Where decoding waits, it goes on waiting until there is more. -/
theorem decodeAll_rest_of_waiting (hwaiting : (framing.decodeAll bytes).fault = none) :
    framing.decodeAll (framing.decodeAll bytes).rest =
      ⟨0, [], none, (framing.decodeAll bytes).rest⟩ := by
  fun_induction decodeAll framing bytes with
  | case1 bytes found payload hmessage ih => exact ih hwaiting
  | case2 bytes found houtcome =>
    have hnone : (framing.decode bytes).outcome.messages = [] := by
      rw [show (framing.decode bytes).outcome = _ from houtcome]
      rfl
    have hagain := decode_rest_of_no_message hnone
    rw [show (framing.decode bytes).outcome = _ from houtcome] at hagain
    rw [decodeAll_of_waiting (by rw [hagain]), hagain]
  | case3 bytes found fault hfailed => simp at hwaiting

/-! ## Cuts -/

/-- A buffer in which decoding waits is decoded with all that is fed to it. -/
theorem feed_eq_of_waiting {buffer : Bytes} (chunks : List Bytes)
    (hbuffer : framing.decodeAll buffer = ⟨0, [], none, buffer⟩) :
    framing.feed buffer chunks = framing.decodeAll (buffer ++ chunks.flatten) := by
  -- What a chunk leaves is again a buffer in which decoding waits, so the buffer varies.
  induction chunks generalizing buffer with
  | nil => rw [List.flatten_nil, List.append_nil, hbuffer, feed]
  | cons chunk chunks ih =>
    have htakes := (framing.takes_decodeAll (buffer ++ chunk)).append chunks.flatten
    rw [List.flatten_cons, ← List.append_assoc, decodeAll_of_takes htakes, feed]
    cases hfault : (framing.decodeAll (buffer ++ chunk)).fault with
    | none =>
      simp only
      rw [ih (decodeAll_rest_of_waiting hfault)]
    | some fault =>
      have hrefused := (refuses_of_decodeAll hfault).append chunks.flatten
      simp only
      rw [decodeAll_of_refuses hrefused, Yield.behind, Nat.add_zero, List.append_nil]

/-- However a stream is cut into chunks, with any limit, feeding them one after the other comes
to the same messages, the same stop and the same bytes left as the whole stream at once. -/
theorem feed_eq_decodeAll (limit : Nat) (chunks : List Bytes) :
    (ofLimit limit).feed [] chunks = (ofLimit limit).feed [] [chunks.flatten] ∧
      (ofLimit limit).feed [] chunks = (ofLimit limit).decodeAll chunks.flatten := by
  have hchunks := feed_eq_of_waiting chunks (decodeAll_nil (ofLimit limit))
  have hwhole := feed_eq_of_waiting [chunks.flatten] (decodeAll_nil (ofLimit limit))
  rw [List.flatten_singleton] at hwhole
  exact ⟨hchunks.trans hwhole.symm, hchunks⟩

end SmbExchange.Framing
