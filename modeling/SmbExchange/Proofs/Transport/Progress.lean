import SmbExchange.Proofs.Transport.Stream

/-!
# What has arrived is found

A reader remembers whether there may be a frame in its buffer, whether it saw
the stream end and whether it refused a frame.  As long as these marks are right,
a wait comes to every message whose bytes arrive in time, however many reads they
take and whatever was given up before.  Every wait leaves the marks right.
-/

namespace SmbExchange

/-- The stream has ended, between two frames or within one. -/
def Fault.EndsStream (fault : Fault) : Prop :=
  fault = .connectionClosed ∨ fault = .stream .bytesRemaining

theorem Fault.EndsStream.isTransportFailure {fault : Fault} (hend : fault.EndsStream) :
    fault.isTransportFailure = true := by
  rcases hend with rfl | rfl <;> rfl

namespace Framing

variable (framing : Framing) (bytes : Bytes)

theorem rest_decodeEnd : (framing.decodeEnd bytes).rest = (framing.decode bytes).rest := by
  simp only [decodeEnd]
  split
  · split <;> rfl
  · rfl

theorem messages_decodeEnd :
    (framing.decodeEnd bytes).outcome.messages = (framing.decode bytes).outcome.messages := by
  simp only [decodeEnd]
  split
  · rename_i hwaiting
    split
    · rfl
    · rw [hwaiting]
      rfl
  · rfl

/-- At the end of a stream bytes that are no frame fail the stream; other failures are
those of decoding. -/
theorem failed_decodeEnd {framing : Framing} {bytes : Bytes} {fault : Fault}
    (hfailed : (framing.decodeEnd bytes).outcome = .failed fault) :
    (framing.decode bytes).outcome = .failed fault ∨ fault.EndsStream := by
  simp only [decodeEnd] at hfailed
  split at hfailed
  · split at hfailed
    · exact .inl hfailed
    · exact .inr (.inr (Outcome.failed.inj hfailed).symm)
  · exact .inl hfailed

end Framing

/-! ## Reading -/

namespace FrameReader

open Taped (messages)

/-- The bytes at hand do not start with a message, keep-alives aside. -/
def HasNoMessage (framing : Framing) (reader : FrameReader) : Prop :=
  (framing.decode reader.buffer).outcome.messages = []

/-- What a poll says about the bytes that it leaves, when the reader had not refused a frame. -/
structure Polled.Exhausts (framing : Framing) (ended : Bool) (polled : Polled) : Prop where
  at_end : polled.reader.eof = true → ended = true ∧ polled.incoming = []
  of_message : messages polled.arrival ≠ [] →
    polled.reader.readable = true ∧ polled.reader.errored = false
  of_no_message : messages polled.arrival = [] → HasNoMessage framing polled.reader
  of_nothing : polled.arrival = .nothing → polled.reader.errored = false ∧ polled.incoming = []
  of_failed : ∀ fault, polled.arrival = .failed fault →
    framing.Refuses fault polled.reader.buffer ∧ polled.reader.errored = true ∨
      ended = true ∧ polled.incoming = [] ∧ fault.EndsStream

section Scan

variable {framing : Framing} {reader : FrameReader} {incoming : Bytes}

@[simp]
theorem eof_scan : (scan framing reader incoming).reader.eof = reader.eof := by
  rw [scan]
  split <;> rfl

theorem messages_scan :
    messages (scan framing reader incoming).arrival =
      (framing.decode reader.buffer).outcome.messages := by
  rw [arrival_scan, messages_arrivalOf, found]
  split
  · exact framing.messages_decodeEnd reader.buffer
  · rfl

theorem rest_found : (reader.found framing).rest = (framing.decode reader.buffer).rest := by
  rw [found]
  split
  · exact framing.rest_decodeEnd reader.buffer
  · rfl

theorem hasNoMessage_scan (hnone : messages (scan framing reader incoming).arrival = []) :
    HasNoMessage framing (scan framing reader incoming).reader := by
  rw [messages_scan] at hnone
  rw [HasNoMessage, buffer_scan, rest_found, Framing.decode_rest_of_no_message hnone]
  exact hnone

/-- A scan that comes to a message leaves the marks as they were. -/
theorem marks_scan_of_message (hsome : messages (scan framing reader incoming).arrival ≠ []) :
    (scan framing reader incoming).reader.readable = reader.readable ∧
      (scan framing reader incoming).reader.errored = reader.errored := by
  rw [scan] at hsome ⊢
  split
  · exact ⟨rfl, rfl⟩
  · simp_all [messages]
  · rename_i hwaiting
    simp only [hwaiting] at hsome
    split at hsome <;> exact absurd rfl hsome

theorem errored_scan_of_nothing (hnothing : (scan framing reader incoming).arrival = .nothing) :
    (scan framing reader incoming).reader.errored = reader.errored := by
  rw [scan] at hnothing ⊢
  split
  · rfl
  · simp_all
  · rfl

theorem errored_scan_of_failed (incoming : Bytes) {fault : Fault}
    (hfailed : (reader.found framing).outcome = .failed fault) :
    (scan framing reader incoming).reader.errored = true := by
  rw [found] at hfailed
  rw [scan]
  split
  · simp_all
  · rfl
  · simp_all

/-- A scan fails because it refuses a frame, or because the stream has ended. -/
theorem failed_scan {fault : Fault}
    (hfailed : (scan framing reader incoming).arrival = .failed fault) :
    framing.Refuses fault (scan framing reader incoming).reader.buffer ∧
        (scan framing reader incoming).reader.errored = true ∨
      reader.eof = true ∧ fault.EndsStream := by
  have hrefuses : (framing.decode reader.buffer).outcome = .failed fault →
      framing.Refuses fault (scan framing reader incoming).reader.buffer := by
    intro hdecode
    rw [buffer_scan, rest_found]
    exact Framing.refuses_of_decode hdecode
  rw [arrival_scan] at hfailed
  cases houtcome : (reader.found framing).outcome with
  | message payload => simp [arrivalOf, houtcome] at hfailed
  | waiting =>
    rw [houtcome, arrivalOf] at hfailed
    split at hfailed
    · rename_i heof
      exact .inr ⟨heof, .inl (Arrival.failed.inj hfailed).symm⟩
    · simp at hfailed
  | failed other =>
    have hmarked := errored_scan_of_failed incoming houtcome
    rw [houtcome, arrivalOf, Arrival.failed.injEq] at hfailed
    subst hfailed
    rw [found] at houtcome
    split at houtcome
    · rename_i heof
      rcases Framing.failed_decodeEnd houtcome with hdecode | hbroken
      · exact .inl ⟨hrefuses hdecode, hmarked⟩
      · exact .inr ⟨heof, hbroken⟩
    · exact .inl ⟨hrefuses houtcome, hmarked⟩

/-- A scan of a reader that looks for a frame says everything about the bytes at hand.  If it
comes to nothing, bytes may be left on the stream. -/
theorem exhausts_scan {ended : Bool} (hreadable : reader.readable = true)
    (hclear : reader.errored = false)
    (hend : reader.eof = true → ended = true ∧ incoming = [])
    (hnothing : (scan framing reader incoming).arrival = .nothing → incoming = []) :
    (scan framing reader incoming).Exhausts framing ended where
  at_end heof := by
    rw [eof_scan] at heof
    rw [scan_incoming]
    exact hend heof
  of_message hsome := by
    obtain ⟨hkept, hkept'⟩ := marks_scan_of_message hsome
    exact ⟨hkept.trans hreadable, hkept'.trans hclear⟩
  of_no_message hnone := hasNoMessage_scan hnone
  of_nothing harrival := by
    rw [scan_incoming]
    exact ⟨(errored_scan_of_nothing harrival).trans hclear, hnothing harrival⟩
  of_failed fault hfailed := by
    rw [scan_incoming]
    refine (failed_scan hfailed).imp_right ?_
    intro ⟨heof, hbroken⟩
    exact ⟨(hend heof).1, (hend heof).2, hbroken⟩

end Scan

variable {framing : Framing} {reader : FrameReader} {incoming : Bytes} {ended : Bool}

theorem Polled.Exhausts.after {polled : Polled} (hpolled : polled.Exhausts framing ended)
    (skipped : Nat) : (polled.after skipped).Exhausts framing ended :=
  ⟨hpolled.at_end, hpolled.of_message, hpolled.of_no_message, hpolled.of_nothing,
    hpolled.of_failed⟩

theorem exhausts_drain (hclear : reader.errored = false) (hnone : HasNoMessage framing reader)
    (hend : reader.eof = true → ended = true) :
    (drain framing reader ended).Exhausts framing ended := by
  rw [drain]
  split
  · exact ⟨fun heof => ⟨hend heof, rfl⟩, fun hsome => absurd rfl hsome, fun _ => hnone,
      fun _ => ⟨hclear, rfl⟩, fun fault hfailed => by simp at hfailed⟩
  · rename_i hopen
    have hended : ended = true := by simpa using hopen
    split
    · refine ⟨fun _ => ⟨hended, rfl⟩, fun hsome => absurd rfl hsome, fun _ => hnone,
        fun hnothing => by simp at hnothing, ?_⟩
      intro fault hfailed
      exact .inr ⟨hended, rfl, .inl (Arrival.failed.inj hfailed).symm⟩
    · exact exhausts_scan rfl hclear (fun _ => ⟨hended, rfl⟩) fun _ => rfl

theorem exhausts_fill (hclear : reader.errored = false) (hnone : HasNoMessage framing reader)
    (hend : reader.eof = true → ended = true) :
    (fill framing reader incoming ended).Exhausts framing ended := by
  fun_induction fill framing reader incoming ended with
  | case1 reader ready => exact exhausts_drain hclear hnone hend
  | case2 reader incoming ready hsome found hnothing ih =>
    refine Polled.Exhausts.after (ih ?_ ?_ ?_) _
    · exact (errored_scan_of_nothing hnothing).trans hclear
    · exact hasNoMessage_scan (congrArg messages hnothing)
    · intro heof
      exact absurd (eof_scan.symm.trans heof) (by simp [read])
  | case3 reader incoming ready hsome found harrival =>
    exact exhausts_scan rfl hclear (fun heof => absurd heof (by simp [read]))
      fun hnothing => absurd hnothing harrival

theorem exhausts_poll (hclear : reader.errored = false)
    (hnone : reader.readable = false → HasNoMessage framing reader)
    (hend : reader.eof = true → ended = true ∧ incoming = []) :
    (poll framing reader incoming ended).Exhausts framing ended := by
  rw [poll, if_neg (by simp [hclear])]
  split
  · rename_i hreadable
    simp only
    split
    · rename_i hnothing
      refine (exhausts_fill ?_ ?_ ?_).after _
      · exact (errored_scan_of_nothing hnothing).trans hclear
      · exact hasNoMessage_scan (congrArg messages hnothing)
      · intro heof
        exact (hend (eof_scan.symm.trans heof)).1
    · rename_i harrival
      exact exhausts_scan hreadable hclear hend fun hnothing => absurd hnothing harrival
  · rename_i hreadable
    exact exhausts_fill hclear (hnone (by simpa using hreadable)) fun heof => (hend heof).1

end FrameReader

/-! ## Waiting -/

namespace Connection

open Taped (messages)
open FrameReader (HasNoMessage)

/-- The marks of the reader are right. -/
structure Sound (connection : Connection) : Prop where
  at_end : connection.reader.eof = true →
    connection.pipe.ended = true ∧ connection.pipe.incoming = []
  of_unreadable : connection.reader.readable = false →
    HasNoMessage connection.framing connection.reader
  of_errored : connection.reader.errored = true →
    HasNoMessage connection.framing connection.reader

theorem sound_new (limit : Nat) : (new limit).Sound where
  at_end heof := by simp [new, FrameReader.new] at heof
  of_unreadable _ := by
    rw [HasNoMessage, new, FrameReader.new, Framing.decode_nil]
    rfl
  of_errored herrored := by simp [new, FrameReader.new] at herrored

variable {connection : Connection} {deadline : Nat}

theorem Sound.of_follows (hsound : connection.Sound) {pipe : Pipe}
    (hfollows : connection.pipe.Follows pipe) : Sound { connection with pipe := pipe } where
  at_end heof := by
    obtain ⟨hended, hempty⟩ := hsound.at_end heof
    obtain ⟨hended', hsame⟩ := hfollows.of_ended hended
    exact ⟨hended', hsame.trans hempty⟩
  of_unreadable := hsound.of_unreadable
  of_errored := hsound.of_errored

theorem exhausts_polled (hsound : connection.Sound) (hclear : connection.reader.errored = false) :
    connection.polled.Exhausts connection.framing connection.pipe.ended :=
  FrameReader.exhausts_poll hclear hsound.of_unreadable hsound.at_end

/-- After a refusal a poll says that the stream has ended, and reads nothing. -/
theorem polled_of_errored (herrored : connection.reader.errored = true) :
    connection.polled = ⟨0, .failed .connectionClosed,
      { connection.reader with errored := false, readable := false }, connection.pipe.incoming⟩ := by
  rw [polled, FrameReader.poll, if_pos herrored]

theorem sound_afterPoll (hsound : connection.Sound) : connection.afterPoll.Sound := by
  cases herrored : connection.reader.errored with
  | true =>
    rw [afterPoll, polled_of_errored herrored]
    exact ⟨hsound.at_end, fun _ => hsound.of_errored herrored, fun habsurd => by simp at habsurd⟩
  | false =>
    have hpolled := exhausts_polled hsound herrored
    refine ⟨hpolled.at_end, fun hunreadable => ?_, fun hmarked => ?_⟩
    · apply hpolled.of_no_message
      apply Decidable.by_contra
      intro hsome
      exact absurd ((hpolled.of_message hsome).1.symm.trans hunreadable) (by simp)
    · apply hpolled.of_no_message
      apply Decidable.by_contra
      intro hsome
      exact absurd ((hpolled.of_message hsome).2.symm.trans hmarked) (by simp)

/-- Every wait leaves the marks right. -/
theorem lasts_sound : Lasts Sound where
  afterPoll _ hsound := sound_afterPoll hsound
  of_follows _ _ hsound hfollows := hsound.of_follows hfollows

/-! ## In time -/

/-- The bytes that can be decoded once everything has happened that is due by a time. -/
def arrivingBy (connection : Connection) (deadline : Nat) : Bytes :=
  connection.reader.buffer ++
    connection.pipe.readable (connection.pipe.agenda.takeWhile (·.1 ≤ deadline))

theorem takes_arrivingBy_afterPoll (connection : Connection) (deadline : Nat) :
    connection.framing.Takes (connection.arrivingBy deadline) connection.polled.skipped
      (messages connection.polled.arrival) (connection.afterPoll.arrivingBy deadline) :=
  connection.takes_polled (connection.pipe.agenda.takeWhile (·.1 ≤ deadline))

theorem arrivingBy_advance {later : Pipe}
    (hadvance : connection.pipe.advance? deadline = some later) :
    arrivingBy { connection with pipe := later } deadline = connection.arrivingBy deadline := by
  obtain ⟨due, action, hagenda, hdue, hreadable⟩ := Pipe.exists_of_advance? hadvance
  rw [arrivingBy, arrivingBy, hreadable, hagenda,
    List.takeWhile_cons_of_pos (by simpa using hdue)]

/-- Where nothing more is due, only the bytes at hand and on the stream can be decoded. -/
theorem arrivingBy_of_expired (hadvance : connection.pipe.advance? deadline = none) :
    connection.arrivingBy deadline = connection.reader.buffer ++ connection.pipe.incoming := by
  have hnone : connection.pipe.agenda.takeWhile (·.1 ≤ deadline) = [] := by
    rw [Pipe.advance?] at hadvance
    split at hadvance
    · rename_i hagenda
      rw [hagenda]
      rfl
    · rename_i due action rest hagenda
      split at hadvance
      · simp at hadvance
      · rename_i hlate
        rw [hagenda]
        exact List.takeWhile_cons_of_neg (by simpa using hlate)
  rw [arrivingBy, hnone, Pipe.readable]
  simp [Pipe.written]

theorem arrivingBy_of_ended (hended : connection.pipe.ended = true) :
    connection.arrivingBy deadline = connection.reader.buffer ++ connection.pipe.incoming := by
  rw [arrivingBy, Pipe.readable, if_pos hended, List.append_nil]

/-- A poll that comes to no message, after which nothing more arrives in time, has looked at all
that arrives in time. -/
theorem absurd_of_exhausted {payload : Bytes}
    (hpolled : connection.polled.Exhausts connection.framing connection.pipe.ended)
    (hnone : messages connection.polled.arrival = [])
    (hempty : connection.polled.incoming = [])
    (harriving : connection.afterPoll.arrivingBy deadline =
      connection.polled.reader.buffer ++ connection.polled.incoming)
    (hmessage : (connection.framing.decode (connection.arrivingBy deadline)).outcome =
      .message payload) : False := by
  have houtcome :=
    Framing.outcome_decode_of_takes (takes_arrivingBy_afterPoll connection deadline)
  have hnothing : (connection.framing.decode connection.polled.reader.buffer).outcome.messages =
      [] := hpolled.of_no_message hnone
  rw [hmessage, hnone, harriving, hempty, List.append_nil] at houtcome
  change Framing.Outcome.message payload =
    (connection.framing.decode connection.polled.reader.buffer).outcome at houtcome
  rw [← houtcome] at hnothing
  exact absurd hnothing (by simp [Framing.Outcome.messages])

/-- A wait whose reader has not refused a frame comes to the message that arrives in time. -/
theorem arrival_waitUntil_of_arrivingBy {payload : Bytes} (hsound : connection.Sound)
    (hclear : connection.reader.errored = false) (skipped : Nat)
    (hmessage : (connection.framing.decode (connection.arrivingBy deadline)).outcome =
      .message payload) :
    (connection.waitUntil deadline skipped).arrival = .message payload := by
  induction connection, skipped using waitUntil_induction deadline with
  | arrives connection skipped harrival =>
    have hpolled := exhausts_polled hsound hclear
    have houtcome :=
      Framing.outcome_decode_of_takes (takes_arrivingBy_afterPoll connection deadline)
    rw [hmessage] at houtcome
    rw [waitUntil_of_arrival skipped harrival]
    cases hfound : connection.polled.arrival with
    | message other =>
      rw [hfound] at houtcome
      rw [Framing.Outcome.message.inj houtcome]
    | nothing => exact absurd hfound harrival
    | failed fault =>
      -- Neither a refused header nor the end of the stream leaves room for a message behind it.
      exfalso
      rcases hpolled.of_failed fault hfound with ⟨hrefused, -⟩ | ⟨hended, hempty, -⟩
      · have hahead : connection.framing.Refuses fault
            (connection.afterPoll.arrivingBy deadline) := hrefused.append _
        rw [hfound, Framing.decode_of_refuses hahead] at houtcome
        simp [messages] at houtcome
      · exact absurd_of_exhausted hpolled (congrArg messages hfound) hempty
          (arrivingBy_of_ended hended) hmessage
  | expires connection skipped hnothing hadvance =>
    exfalso
    have hpolled := exhausts_polled hsound hclear
    exact absurd_of_exhausted hpolled (congrArg messages hnothing)
      (hpolled.of_nothing hnothing).2 (arrivingBy_of_expired hadvance) hmessage
  | advances connection skipped later hnothing hadvance ih =>
    have hpolled := exhausts_polled hsound hclear
    have houtcome :=
      Framing.outcome_decode_of_takes (takes_arrivingBy_afterPoll connection deadline)
    rw [hmessage, hnothing, ← arrivingBy_advance hadvance] at houtcome
    rw [waitUntil_of_advance skipped hnothing hadvance]
    exact ih ((sound_afterPoll hsound).of_follows (Pipe.follows_advance hadvance))
      (hpolled.of_nothing hnothing).1 houtcome.symm

/-- A wait comes to the message that arrives in time, keep-alives aside. -/
theorem arrival_next_of_arrivingBy {wait : Nat} {payload : Bytes} (hsound : connection.Sound)
    (hclear : connection.reader.errored = false)
    (hmessage : (connection.framing.decode
      (connection.arrivingBy (connection.pipe.clock + wait))).outcome = .message payload) :
    (connection.next wait).arrival = .message payload :=
  arrival_waitUntil_of_arrivingBy hsound hclear 0 hmessage

end Connection

end SmbExchange
