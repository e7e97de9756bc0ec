import SmbExchange.Proofs.Transport.Recovery

/-!
# Messages that arrive in time

Each wait has a time of its own, counted from where the wait before it ended.
The clock never goes back, so what arrives within the first wait is also in time
for the waits after it.  All messages that arrive within one wait are therefore
delivered, one a wait, however their bytes are cut into chunks.
-/

namespace SmbExchange

namespace Frame.Whole

/-- Of two ways to take frames off a stream one goes further than the other. -/
theorem prefix_of_stream_eq {left right : List Whole} {before after : Bytes}
    (hsame : stream left ++ before = stream right ++ after) :
    (∃ more, left = right ++ more ∧ after = stream more ++ before) ∨
      ∃ more, right = left ++ more ∧ before = stream more ++ after := by
  induction left generalizing right with
  | nil => exact .inr ⟨right, rfl, hsame⟩
  | cons frame left ih =>
    cases right with
    | nil => exact .inl ⟨frame :: left, rfl, hsame.symm⟩
    | cons other right =>
      rw [stream_cons, stream_cons, List.append_assoc, List.append_assoc] at hsame
      obtain ⟨rfl, htail⟩ := bytes_append_inj hsame
      rcases ih htail with ⟨more, rfl, hrest⟩ | ⟨more, rfl, hrest⟩
      · exact .inl ⟨more, rfl, hrest⟩
      · exact .inr ⟨more, rfl, hrest⟩

end Frame.Whole

open SmbExchange.Frame (Whole)

/-- Once the first messages have been taken off a stream, the others can be. -/
theorem Framing.Takes.tail {framing : Framing} {before middle after : Bytes} {some all : Nat}
    {first later : List Bytes} (hfirst : framing.Takes before some first middle)
    (hall : framing.Takes before all (first ++ later) after) :
    ∃ skipped rest, framing.Takes middle skipped later rest := by
  obtain ⟨taken, -, -, rfl, hbefore⟩ := hfirst
  obtain ⟨frames, haccepted, -, hmessages, rfl⟩ := hall
  rcases Whole.prefix_of_stream_eq hbefore with ⟨more, rfl, hmiddle⟩ | ⟨more, rfl, -⟩
  · rw [Whole.messages_append] at hmessages
    refine ⟨_, after, more, ?_, rfl, List.append_cancel_left hmessages, hmiddle⟩
    exact fun frame hframe => haccepted frame (List.mem_append_right taken hframe)
  · -- The first messages alone are as many as all of them, so there is no other.
    have hnone : later = [] := by
      have hlengths := congrArg List.length hmessages
      rw [Whole.messages_append, List.length_append, List.length_append] at hlengths
      exact List.eq_nil_of_length_eq_zero (by omega)
    rw [hnone]
    exact ⟨0, middle, .refl framing middle⟩

namespace Pipe

/-! ## Time -/

/-- What the peer does later is written behind what it does before. -/
theorem exists_written_append (earlier later : List (Nat × PeerAction)) :
    ∃ more, written (earlier ++ later) = written earlier ++ more := by
  induction earlier with
  | nil => exact ⟨written later, rfl⟩
  | cons entry earlier ih =>
    obtain ⟨more, hmore⟩ := ih
    obtain ⟨due, action⟩ := entry
    cases action with
    | send bytes =>
      rw [List.cons_append, written, written, hmore, ← List.append_assoc]
      exact ⟨more, rfl⟩
    | shutdown => exact ⟨[], rfl⟩
    | leave => exact ⟨[], rfl⟩

theorem clock_act (pipe : Pipe) (action : PeerAction) : (pipe.act action).clock = pipe.clock := by
  cases action with
  | send bytes =>
    rw [act]
    split <;> rfl
  | shutdown => rfl
  | leave => rfl

theorem clock_le_of_advance? {pipe after : Pipe} {deadline : Nat}
    (hadvance : pipe.advance? deadline = some after) : pipe.clock ≤ after.clock := by
  rw [advance?] at hadvance
  split at hadvance
  · simp at hadvance
  · split at hadvance
    · rw [← Option.some.inj hadvance, clock_act]
      exact Nat.le_max_left _ _
    · simp at hadvance

/-- What is due by a time is due by every later one. -/
theorem advance?_of_le {pipe after : Pipe} {deadline later : Nat} (hlater : deadline ≤ later)
    (hadvance : pipe.advance? deadline = some after) : pipe.advance? later = some after := by
  rw [advance?] at hadvance ⊢
  split at hadvance
  · simp at hadvance
  · rename_i due action rest hagenda
    split at hadvance
    · rename_i hdue
      rw [if_pos (Nat.le_trans hdue hlater), hadvance]
    · simp at hadvance

/-- What is due by a time comes first of what is due by a later one. -/
theorem exists_takeWhile_append {deadline later : Nat} (hlater : deadline ≤ later)
    (agenda : List (Nat × PeerAction)) :
    ∃ others, agenda.takeWhile (·.1 ≤ later) = agenda.takeWhile (·.1 ≤ deadline) ++ others := by
  induction agenda with
  | nil => exact ⟨[], rfl⟩
  | cons entry agenda ih =>
    by_cases hearly : entry.1 ≤ deadline
    · obtain ⟨others, hothers⟩ := ih
      have hlate := Nat.le_trans hearly hlater
      rw [List.takeWhile_cons_of_pos (by simpa using hlate),
        List.takeWhile_cons_of_pos (by simpa using hearly), hothers]
      exact ⟨others, rfl⟩
    · have hnone : (entry :: agenda).takeWhile (·.1 ≤ deadline) = [] :=
        List.takeWhile_cons_of_neg (by simpa using hearly)
      rw [hnone]
      exact ⟨_, rfl⟩

end Pipe

namespace Connection

open Taped (messages)
open Transport (Delivers)

variable {connection : Connection} {deadline : Nat}

theorem clock_le_waitUntil (connection : Connection) (deadline skipped : Nat) :
    connection.pipe.clock ≤ (connection.waitUntil deadline skipped).transport.pipe.clock := by
  induction connection, skipped using waitUntil_induction deadline with
  | arrives connection skipped harrival =>
    rw [waitUntil_of_arrival skipped harrival]
    exact Nat.le_refl _
  | expires connection skipped hnothing hadvance =>
    rw [waitUntil_of_expired skipped hnothing hadvance]
    exact Nat.le_max_left _ _
  | advances connection skipped later hnothing hadvance ih =>
    have hmoved : connection.afterPoll.pipe.clock ≤ later.clock :=
      Pipe.clock_le_of_advance? hadvance
    rw [waitUntil_of_advance skipped hnothing hadvance]
    exact Nat.le_trans hmoved ih

/-- A wait takes whole frames off what arrives by any time that is not before its end. -/
theorem takes_arrivingBy_waitUntil {later : Nat} (hlater : deadline ≤ later)
    (connection : Connection) (skipped : Nat) :
    ∃ dropped, connection.framing.Takes (connection.arrivingBy later) dropped
      (messages (connection.waitUntil deadline skipped).arrival)
      ((connection.waitUntil deadline skipped).transport.arrivingBy later) := by
  induction connection, skipped using waitUntil_induction deadline with
  | arrives connection skipped harrival =>
    rw [waitUntil_of_arrival skipped harrival]
    exact ⟨_, takes_arrivingBy_afterPoll connection later⟩
  | expires connection skipped hnothing hadvance =>
    have hpolled := takes_arrivingBy_afterPoll connection later
    rw [hnothing] at hpolled
    rw [waitUntil_of_expired skipped hnothing hadvance]
    exact ⟨_, hpolled⟩
  | advances connection skipped moved hnothing hadvance ih =>
    obtain ⟨dropped, htakes⟩ := ih
    have hpolled := takes_arrivingBy_afterPoll connection later
    rw [hnothing] at hpolled
    rw [arrivingBy_advance (Pipe.advance?_of_le hlater hadvance)] at htakes
    rw [waitUntil_of_advance skipped hnothing hadvance]
    exact ⟨_, hpolled.trans htakes⟩

/-- By a later time more may have arrived, but behind what arrived before. -/
theorem exists_arrivingBy_append (connection : Connection) {later : Nat}
    (hlater : deadline ≤ later) :
    ∃ more, connection.arrivingBy later = connection.arrivingBy deadline ++ more := by
  obtain ⟨others, hagenda⟩ := Pipe.exists_takeWhile_append hlater connection.pipe.agenda
  rw [arrivingBy, arrivingBy, Pipe.readable, Pipe.readable, hagenda]
  split
  · exact ⟨[], by simp only [List.append_nil]⟩
  · obtain ⟨more, hmore⟩ := Pipe.exists_written_append
      (connection.pipe.agenda.takeWhile (·.1 ≤ deadline)) others
    exact ⟨more, by rw [hmore]; simp only [List.append_assoc]⟩

/-! ## Writing -/

/-- Writing leaves alone what comes from the peer. -/
theorem exists_outgoing_write (connection : Connection) (bytes : Bytes) :
    ∃ outgoing, (connection.write bytes).2 =
      { connection with pipe := { connection.pipe with outgoing := outgoing } } := by
  rw [write, Pipe.write]
  split <;> exact ⟨_, rfl⟩

theorem Reachable.write (hreachable : connection.Reachable) (bytes : Bytes) :
    (connection.write bytes).2.Reachable := by
  obtain ⟨limit, moves, rfl⟩ := hreachable
  refine ⟨limit, moves ++ [Move.write bytes], ?_⟩
  rw [Connection.moves, List.foldl_append]
  rfl

/-! ## Marks that are explained -/

/-- After a refusal the refused header is still there, or the stream has ended and all of it has
been read. -/
def Explained (connection : Connection) : Prop :=
  connection.reader.errored = true →
    (∃ fault, connection.Blocked fault) ∨
      connection.pipe.ended = true ∧ connection.pipe.incoming = []

theorem explained_afterPoll (hsound : connection.Sound) : connection.afterPoll.Explained := by
  intro hmarked
  cases herrored : connection.reader.errored with
  | true =>
    rw [afterPoll, polled_of_errored herrored] at hmarked
    simp at hmarked
  | false =>
    have hpolled := exhausts_polled hsound herrored
    have hmarked : connection.polled.reader.errored = true := hmarked
    cases harrival : connection.polled.arrival with
    | message payload =>
      have hclear := (hpolled.of_message (by rw [harrival]; simp [messages])).2
      exact absurd (hclear.symm.trans hmarked) (by simp)
    | nothing =>
      have hclear := (hpolled.of_nothing harrival).1
      exact absurd (hclear.symm.trans hmarked) (by simp)
    | failed fault =>
      rcases hpolled.of_failed fault harrival with ⟨hrefused, -⟩ | ⟨hended, hempty, -⟩
      · exact .inl ⟨fault, hrefused.append _⟩
      · exact .inr ⟨hended, hempty⟩

theorem lasts_explained : Lasts fun connection => connection.Sound ∧ connection.Explained where
  afterPoll _ hboth := ⟨sound_afterPoll hboth.1, explained_afterPoll hboth.1⟩
  of_follows connection pipe hboth hfollows := by
    refine ⟨hboth.1.of_follows hfollows, fun hmarked => ?_⟩
    rcases hboth.2 hmarked with ⟨fault, hblocked⟩ | ⟨hended, hempty⟩
    · exact .inl ⟨fault, hblocked.of_follows hfollows⟩
    · obtain ⟨hended', hsame⟩ := hfollows.of_ended hended
      exact .inr ⟨hended', hsame.trans hempty⟩

theorem Reachable.explained (hreachable : connection.Reachable) : connection.Explained := by
  obtain ⟨limit, moves, rfl⟩ := hreachable
  exact (lasts_explained.moves (new limit) moves
    ⟨sound_new limit, fun hmarked => by simp [new, FrameReader.new] at hmarked⟩).2

/-- Where a message arrives, no frame was refused before. -/
theorem Reachable.clear_of_arrivingBy {payload : Bytes} (hreachable : connection.Reachable)
    (hmessage : (connection.framing.decode (connection.arrivingBy deadline)).outcome =
      .message payload) : connection.reader.errored = false := by
  rw [← Bool.not_eq_true]
  intro herrored
  rcases hreachable.explained herrored with ⟨fault, hblocked⟩ | ⟨hended, hempty⟩
  · have hahead : connection.framing.Refuses fault (connection.arrivingBy deadline) := by
      rw [arrivingBy, Pipe.readable, ← List.append_assoc]
      exact Framing.Refuses.append hblocked _
    rw [Framing.decode_of_refuses hahead] at hmessage
    simp at hmessage
  · have hnone := hreachable.sound.of_errored herrored
    rw [arrivingBy_of_ended hended, hempty, List.append_nil] at hmessage
    rw [FrameReader.HasNoMessage, hmessage] at hnone
    simp [Framing.Outcome.messages] at hnone

/-- However a connection came about, the next message is received once its frame arrives. -/
theorem Reachable.receivesNext (hreachable : connection.Reachable) : connection.ReceivesNext := by
  intro room wait front frame rest hfront hkind hlimit hroom harriving
  have htakes := (Framing.Takes.keepAlives hfront (frame.bytes ++ rest)).trans
    (Framing.Takes.message hkind hlimit rest)
  rw [← List.append_assoc, ← harriving] at htakes
  exact receivesNext_of_clear hreachable.sound
    (hreachable.clear_of_arrivingBy (Framing.outcome_decode_of_takes htakes)) room wait front frame
    rest hfront hkind hlimit hroom harriving

/-! ## Any number of messages -/

/-- Messages whose frames arrive within one wait are delivered one after the other. -/
theorem exists_delivers {wait skipped : Nat} {payloads : List Bytes} {rest : Bytes}
    (hsound : connection.Sound) (hclear : connection.reader.errored = false)
    (htakes : connection.framing.Takes (connection.arrivingBy (connection.pipe.clock + wait))
      skipped payloads rest) :
    ∃ last, Delivers wait connection payloads last := by
  induction payloads generalizing connection skipped rest with
  | nil => exact ⟨connection, rfl⟩
  | cons payload payloads ih =>
    have harrival : (connection.next wait).arrival = .message payload :=
      arrival_next_of_arrivingBy hsound hclear (Framing.outcome_decode_of_takes htakes)
    -- The next wait ends later than this one, so all that was to arrive is still in time.
    have hlater : connection.pipe.clock + wait ≤
        (connection.next wait).transport.pipe.clock + wait :=
      Nat.add_le_add_right (clock_le_waitUntil connection _ 0) wait
    obtain ⟨more, hmore⟩ := connection.exists_arrivingBy_append hlater
    obtain ⟨dropped, htaken⟩ := takes_arrivingBy_waitUntil hlater connection 0
    change connection.framing.Takes _ _ (messages (connection.next wait).arrival) _ at htaken
    rw [harrival] at htaken
    obtain ⟨left, behind, hleft⟩ := htaken.tail (hmore ▸ htakes.append more)
    rw [← framing_next connection wait] at hleft
    obtain ⟨last, hlast⟩ := ih (lasts_sound.next connection wait hsound)
      (clear_next hsound (by simp [harrival])) hleft
    exact ⟨last, harrival, hlast⟩

/-- However a connection came about, what arrives within one wait is delivered. -/
theorem Reachable.exists_delivers {wait skipped : Nat} {payloads : List Bytes} {rest : Bytes}
    (hreachable : connection.Reachable)
    (htakes : connection.framing.Takes (connection.arrivingBy (connection.pipe.clock + wait))
      skipped payloads rest) :
    ∃ last, Delivers wait connection payloads last := by
  cases payloads with
  | nil => exact ⟨connection, rfl⟩
  | cons payload payloads =>
    exact Connection.exists_delivers hreachable.sound
      (hreachable.clear_of_arrivingBy (Framing.outcome_decode_of_takes htakes)) htakes

/-! ## Chunks -/

/-- The peer writes a stream in chunks, each due by a time, behind the bytes that are there. -/
structure Brings (connection : Connection) (deadline : Nat) (chunks : List (Nat × Bytes))
    (stream : Bytes) : Prop where
  chunks_prefix : (chunks.map fun chunk => (chunk.1, .send chunk.2)) <+: connection.pipe.agenda
  due_le : ∀ chunk ∈ chunks, chunk.1 ≤ deadline
  /-- A peer that has ended its writing has no chunk left. -/
  of_ended : connection.pipe.ended = true → chunks = []
  stream_prefix : stream <+:
    connection.reader.buffer ++ connection.pipe.incoming ++ chunks.flatMap Prod.snd

/-- Wherever a stream is cut, it arrives whole if each chunk is in time. -/
theorem Brings.exists_arrivingBy {chunks : List (Nat × Bytes)} {stream : Bytes}
    (hbrings : connection.Brings deadline chunks stream) :
    ∃ rest, connection.arrivingBy deadline = stream ++ rest := by
  obtain ⟨later, hagenda⟩ := hbrings.chunks_prefix
  obtain ⟨behind, hstream⟩ := hbrings.stream_prefix
  have hdue : connection.pipe.agenda.takeWhile (·.1 ≤ deadline) =
      chunks.map (fun chunk => (chunk.1, .send chunk.2)) ++
        later.takeWhile (·.1 ≤ deadline) := by
    rw [← hagenda]
    apply List.takeWhile_append_of_pos
    intro entry hentry
    obtain ⟨chunk, hchunk, rfl⟩ := List.mem_map.mp hentry
    simpa using hbrings.due_le chunk hchunk
  rw [arrivingBy, hdue, Pipe.readable, ← List.append_assoc]
  split
  · rename_i hended
    rw [hbrings.of_ended hended, List.flatMap_nil, List.append_nil] at hstream
    exact ⟨behind, by rw [List.append_nil, hstream]⟩
  · obtain ⟨rest, hrest⟩ := Pipe.exists_written_append
      (chunks.map fun chunk => (chunk.1, .send chunk.2)) (later.takeWhile (·.1 ≤ deadline))
    refine ⟨behind ++ rest, ?_⟩
    rw [hrest, Pipe.written_chunks, ← List.append_assoc, ← hstream, List.append_assoc]

end Connection

end SmbExchange
