import Mathlib.Data.List.Infix
import SmbExchange.Proofs.Session.Conservation
import SmbExchange.Proofs.Session.Correlation

/-!
# Late replies

A server answers in order, but an exchange may give up before its answer comes.
The next exchange meets the answers that are still owed, the oldest first.  It
knows an answer by its command alone: it passes over the answers to other
commands, and takes the first one to a request with its own command, whichever
request that was.
-/

namespace SmbExchange

open LittleEndian (toWord)
open Transport (Delivers)

def Frame.command (frame : Bytes) : UInt8 :=
  frame.byteAt (headerLength + 4)

def Frame.multiplexId (frame : Bytes) : UInt16 :=
  toWord (frame.slice (headerLength + 30) 2)

/-! ## What is answered -/

namespace Taped

variable {τ : Type}

/-- A message has the command and the multiplex id of the request in a frame. -/
def Echoes (message frame : Bytes) : Prop :=
  message.byteAt 4 = Frame.command frame ∧
    toWord (message.slice 30 2) = Frame.multiplexId frame

instance (message frame : Bytes) : Decidable (Echoes message frame) :=
  inferInstanceAs (Decidable (_ ∧ _))

/-- The messages that have arrived answer the first frames that were handed over, one each and
in order. -/
def AnsweredInOrder (taped : Taped τ) : Prop :=
  List.Forall₂ Echoes taped.arrived (taped.written.take taped.arrived.length)

instance (taped : Taped τ) : Decidable taped.AnsweredInOrder :=
  inferInstanceAs (Decidable (List.Forall₂ _ _ _))

/-- The frames to which no answer has arrived. -/
def unanswered (taped : Taped τ) : List Bytes :=
  taped.written.drop taped.arrived.length

theorem length_le_of_answeredInOrder {taped : Taped τ} (hserved : taped.AnsweredInOrder) :
    taped.arrived.length ≤ taped.written.length := by
  have hlength := hserved.length_eq
  rw [List.length_take] at hlength
  omega

/-- What arrives next answers the frames that are unanswered, those included that are handed over
before it arrives. -/
theorem echoes_of_answeredInOrder {before after : Taped τ} {written arrived : List Bytes}
    (hrecords : Records before after written arrived) (hbefore : before.AnsweredInOrder)
    (hafter : after.AnsweredInOrder) :
    List.Forall₂ Echoes arrived ((before.unanswered ++ written).take arrived.length) := by
  have hlength := length_le_of_answeredInOrder hbefore
  have hsplit : (before.written ++ written).take (before.arrived ++ arrived).length =
      before.written.take before.arrived.length ++
        (before.unanswered ++ written).take arrived.length := by
    have hunanswered : before.unanswered ++ written =
        (before.written ++ written).drop before.arrived.length := by
      rw [unanswered, List.drop_append_of_le_length hlength]
    rw [hunanswered, List.length_append, List.take_add, List.take_append_of_le_length hlength]
  rw [AnsweredInOrder, hrecords.written_eq, hrecords.arrived_eq, hsplit] at hafter
  have hlater := List.forall₂_drop_append _ _ _ hafter
  rw [← hbefore.length_eq, List.drop_left] at hlater
  exact hlater

variable [Transport τ]

/-- What a tape records of messages that are delivered. -/
theorem records_of_delivers {wait : Nat} {first last : Taped τ} {messages : List Bytes}
    (hdelivers : Delivers wait first messages last) : Records first last [] messages := by
  induction messages generalizing first with
  | nil =>
    rw [Delivers] at hdelivers
    rw [hdelivers]
    exact Records.refl last
  | cons message messages ih =>
    obtain ⟨harrival, hrest⟩ := hdelivers
    have hnext := records_next first wait
    rw [harrival] at hnext
    exact hnext.trans (ih hrest)

end Taped

namespace Session

/-! ## Runs on a tape -/

section Tape

variable {τ : Type} [Transport τ]

/-- What a tape beside the transport shows of operations. -/
def tape (session : Session τ) (operations : List Operation) : Taped τ :=
  ((session.mapTransport Taped.blank).run operations).transport

/-- A run does not notice the tape. -/
theorem run_untape (session : Session (Taped τ)) (operations : List Operation) :
    (session.run operations).mapTransport Taped.untape =
      (session.mapTransport Taped.untape).run operations := by
  induction operations generalizing session with
  | nil => rfl
  | cons operation operations ih =>
    calc
      (session.run (operation :: operations)).mapTransport Taped.untape =
          ((operation.apply session).mapTransport Taped.untape).run operations := ih _
      _ = (session.mapTransport Taped.untape).run (operation :: operations) := by
        rw [operation.apply_untape]
        rfl

theorem keeps_written (frames : List Bytes) :
    Transport.Keeps fun taped : Taped τ => frames <+: taped.written where
  write taped frame hstart := hstart.trans (List.prefix_append taped.written [frame])
  next _ _ hstart := hstart

theorem prefix_written (session : Session τ) (earlier later : List Operation) :
    (session.tape earlier).written <+: (session.tape (earlier ++ later)).written := by
  rw [tape, tape, run_append]
  generalize (session.mapTransport Taped.blank).run earlier = start
  have hkept : ∀ (state : Session (Taped τ)) (operations : List Operation),
      start.transport.written <+: state.transport.written →
        start.transport.written <+: (state.run operations).transport.written := by
    intro state operations
    induction operations generalizing state with
    | nil => exact id
    | cons operation operations ih =>
      intro hstart
      exact ih _ (operation.keeps_apply (keeps_written _) state hstart)
  exact hkept start later (List.prefix_refl _)

end Tape

/-! ## An exchange that succeeds -/

section Succeeding

variable {τ : Type} [Transport τ]

/-- A wait that succeeds passes over messages with other commands and ends with an answer, which
the response shows. -/
theorem exists_answer_of_await_ok (session : Session τ) (response : Packet) (checkStatus : Bool)
    (hok : (session.await response checkStatus).1 = .ok ()) :
    ∃ before message,
      (∀ earlier ∈ before, earlier.byteAt 4 ≠ response.expectedCommand) ∧
      message.byteAt 4 = response.expectedCommand ∧
      Packet.minimumMessage ≤ message.length ∧
      Delivers session.settings.responseWait session.transport (before ++ [message])
        (session.await response checkStatus).2.1.transport ∧
      (session.await response checkStatus).2.2.Shows message := by
  induction session, response using await_induction with
  | nothing session response harrival =>
    rw [await_of_nothing harrival] at hok
    cases hok
  | failed session response fault harrival =>
    rw [await_of_failed harrival] at hok
    cases hok
  | short session response message harrival hshort =>
    rw [await_of_message harrival, if_pos hshort] at hok
    cases hok
  | other session response message harrival hheader hother ih =>
    obtain ⟨hnext, hfits⟩ := Transport.next_of_arrival_receive harrival
    rw [await_of_message harrival, if_neg hheader, if_pos hother] at hok ⊢
    obtain ⟨before, answer, hbefore, hanswer, hlength, hdelivers, hshows⟩ := ih hok
    rw [Packet.command_fill hfits (Nat.not_lt.mp hheader)] at hother
    refine ⟨message :: before, answer, ?_, hanswer, hlength, ⟨hnext, ?_⟩, hshows⟩
    · intro earlier hmem
      rcases List.mem_cons.mp hmem with rfl | hmem
      · exact hother
      · exact hbefore earlier hmem
    · rw [transport_passOver] at hdelivers
      exact hdelivers
  | answer session response message harrival hheader hcommand =>
    obtain ⟨hnext, hfits⟩ := Transport.next_of_arrival_receive harrival
    rw [await_of_message harrival, if_neg hheader, if_neg hcommand] at hok ⊢
    rw [Packet.command_fill hfits (Nat.not_lt.mp hheader)] at hcommand
    refine ⟨[], message, by simp, Decidable.not_not.mp hcommand, Nat.not_lt.mp hheader,
      ⟨hnext, ?_⟩, Packet.shows_fill hfits⟩
    exact ((transport_conclude ..).trans (transport_took session response message)).symm

theorem exists_answer_of_exchange_ok (session : Session τ) (request response : Packet)
    (checkStatus : Bool)
    (hok : (session.exchange request response checkStatus).result = .ok ()) :
    request.Fits ∧ ∃ before message,
      (∀ earlier ∈ before, earlier.byteAt 4 ≠ request.expectedCommand) ∧
      message.byteAt 4 = request.expectedCommand ∧
      Packet.minimumMessage ≤ message.length ∧
      Delivers session.settings.responseWait (session.transmit request).2.1.transport
        (before ++ [message]) (session.exchange request response checkStatus).session.transport ∧
      (session.exchange request response checkStatus).response.Shows message := by
  cases hsent : (session.transmit request).1 with
  | error fault =>
    rw [(session.exchange_of_not_sent request response checkStatus hsent).1] at hok
    cases hok
  | ok _ =>
    have hfits := session.fits_of_sent request hsent
    obtain ⟨sent, hcore, hresult, hafter, hfound⟩ :=
      session.exchange_of_sent request response checkStatus hsent
    have hstart := (session.transmit_of_fits request hfits).2
    obtain ⟨htransport, -, hsettings, -⟩ := eq_of_core_eq hcore
    obtain ⟨-, -, hkept, -⟩ := eq_of_core_eq hstart
    obtain ⟨hend, -⟩ := eq_of_core_eq hafter
    rw [hresult] at hok
    obtain ⟨before, message, hbefore, hmessage, hlength, hdelivers, hshows⟩ :=
      exists_answer_of_await_ok sent _ checkStatus hok
    rw [hsettings, hkept, htransport] at hdelivers
    rw [hend, hfound]
    exact ⟨hfits, before, message, hbefore, hmessage, hlength, hdelivers, hshows⟩

end Succeeding

/-! ## The first unanswered request -/

section FirstUnanswered

open Taped (Echoes)

def carries (command : UInt8) (frame : Bytes) : Bool :=
  Frame.command frame == command

/-- Where messages answer frames in order, the first message with a command answers the first frame
with it. -/
theorem find?_of_echoes {command : UInt8} {before frames : List Bytes} {message : Bytes}
    (hechoes : List.Forall₂ Echoes (before ++ [message])
      (frames.take (before ++ [message]).length))
    (hbefore : ∀ earlier ∈ before, earlier.byteAt 4 ≠ command)
    (hmessage : message.byteAt 4 = command) :
    ∃ frame, frames.find? (carries command) = some frame ∧ Echoes message frame := by
  induction before generalizing frames with
  | nil =>
    cases frames with
    | nil => cases hechoes
    | cons frame frames =>
      rw [List.nil_append, List.length_singleton, List.take_succ_cons] at hechoes
      have hecho := (List.forall₂_cons.mp hechoes).1
      have hcarries : carries command frame = true := by
        rw [carries, ← hecho.1, hmessage, beq_self_eq_true]
      exact ⟨frame, List.find?_cons_of_pos hcarries, hecho⟩
  | cons earlier before ih =>
    cases frames with
    | nil => cases hechoes
    | cons frame frames =>
      rw [List.cons_append, List.length_cons, List.take_succ_cons] at hechoes
      obtain ⟨hecho, hrest⟩ := List.forall₂_cons.mp hechoes
      have hother : ¬ carries command frame = true := by
        rw [carries, ← hecho.1, beq_iff_eq]
        exact hbefore earlier List.mem_cons_self
      rw [List.find?_cons_of_neg hother]
      exact ih hrest fun other hmem => hbefore other (List.mem_cons_of_mem earlier hmem)

theorem multiplexId_of_shows {packet : Packet} {message : Bytes} (hshows : packet.Shows message)
    (hheader : Packet.minimumMessage ≤ message.length) :
    packet.multiplexId = toWord (message.slice 30 2) := by
  have hinside : HeaderField.multiplexId.offset + HeaderField.multiplexId.width ≤
      Packet.headerRoom + message.length := Nat.add_le_add_left hheader 4
  rw [Packet.multiplexId, Packet.get_of_shows hshows .multiplexId hinside]
  rfl

/-- Among frames with different ids, the first with a command is the last one exactly if no other
frame has the command. -/
theorem multiplexId_eq_iff {owed : List Bytes} {own : Bytes} {command : UInt8} {found : UInt16}
    (hids : ((owed ++ [own]).map Frame.multiplexId).Nodup)
    (hfound : ((owed ++ [own]).find? (carries command)).map Frame.multiplexId = some found) :
    found = Frame.multiplexId own ↔ ∀ frame ∈ owed, Frame.command frame ≠ command := by
  rw [List.find?_append] at hfound
  cases hearlier : owed.find? (carries command) with
  | none =>
    have hothers : ∀ frame ∈ owed, Frame.command frame ≠ command := by
      intro frame hmem
      have hother := List.find?_eq_none.mp hearlier frame hmem
      rw [carries, beq_iff_eq] at hother
      exact hother
    rw [hearlier, Option.none_or] at hfound
    obtain ⟨frame, hframe, hid⟩ := Option.map_eq_some_iff.mp hfound
    have hown : frame = own := List.mem_singleton.mp (List.mem_of_find?_eq_some hframe)
    rw [← hid, hown]
    exact iff_of_true rfl hothers
  | some frame =>
    rw [hearlier, Option.some_or, Option.map_some, Option.some.injEq] at hfound
    have hmem : frame ∈ owed := List.mem_of_find?_eq_some hearlier
    have hcarries : carries command frame = true := List.find?_some hearlier
    rw [carries, beq_iff_eq] at hcarries
    have hdifferent : Frame.multiplexId frame ≠ Frame.multiplexId own := by
      rw [List.map_append, List.nodup_append] at hids
      exact hids.2.2 _ (List.mem_map_of_mem hmem) _ List.mem_cons_self
    rw [← hfound]
    exact iff_of_false hdifferent fun hothers => hothers frame hmem hcarries

variable {τ : Type} [Transport τ]

/-- An exchange that succeeds has the answer to the first request with the command it awaits, of
those that were unanswered before it and its own. -/
theorem find?_unanswered_of_exchange_ok (session : Session (Taped τ))
    (request response : Packet) (checkStatus : Bool)
    (hbefore : session.transport.AnsweredInOrder)
    (hafter :
      (session.exchange request response checkStatus).session.transport.AnsweredInOrder)
    (hok : (session.exchange request response checkStatus).result = .ok ()) :
    ((session.transport.unanswered ++ [session.wireFrame request]).find?
        (carries request.expectedCommand)).map Frame.multiplexId =
      some (session.exchange request response checkStatus).response.multiplexId := by
  obtain ⟨hfits, passed, message, hpassed, hmessage, hheader, hdelivers, hshows⟩ :=
    session.exists_answer_of_exchange_ok request response checkStatus hok
  have hsending := (session.transmit_records request).1
  rw [frames, if_pos hfits] at hsending
  have hrecords := hsending.trans (Taped.records_of_delivers hdelivers)
  have hechoes := Taped.echoes_of_answeredInOrder hrecords hbefore hafter
  obtain ⟨frame, hfound, hecho⟩ := find?_of_echoes hechoes hpassed hmessage
  rw [List.append_nil] at hfound
  rw [hfound, Option.map_some, multiplexId_of_shows hshows hheader, ← hecho.2]

/-- If no id is used twice, this answer is the exchange's own one exactly if no request with the
command was left over from before. -/
theorem multiplexId_eq_iff_of_exchange_ok (session : Session (Taped τ))
    (request response : Packet) (checkStatus : Bool)
    (hids : ((session.exchange request response checkStatus).session.transport.written.map
      Frame.multiplexId).Nodup)
    (hok : (session.exchange request response checkStatus).result = .ok ())
    (hfound : ((session.transport.unanswered ++ [session.wireFrame request]).find?
        (carries request.expectedCommand)).map Frame.multiplexId =
      some (session.exchange request response checkStatus).response.multiplexId) :
    (session.exchange request response checkStatus).response.multiplexId =
        Frame.multiplexId (session.wireFrame request) ↔
      ∀ frame ∈ session.transport.unanswered,
        Frame.command frame ≠ request.expectedCommand := by
  have hfits := (session.exists_answer_of_exchange_ok request response checkStatus hok).1
  obtain ⟨taken, hrecords, -⟩ := session.exchange_records request response checkStatus
  have hwritten := hrecords.written_eq
  rw [frames, if_pos hfits] at hwritten
  rw [hwritten] at hids
  have hsublist : List.Sublist (session.transport.unanswered ++ [session.wireFrame request])
      (session.transport.written ++ [session.wireFrame request]) :=
    (List.drop_sublist _ _).append_right _
  exact multiplexId_eq_iff ((hsublist.map Frame.multiplexId).nodup hids) hfound

/-- What arrives during an exchange goes to the sink but for the last message, which is refused for
its length or has the awaited command. -/
theorem exists_late_of_exchange (session : Session (Taped τ)) (request response : Packet)
    (checkStatus : Bool) :
    ∃ late last,
      (session.exchange request response checkStatus).session.transport.arrived =
          session.transport.arrived ++ (late ++ last) ∧
        last.length ≤ 1 ∧
        (∀ message ∈ last, Refused response.messageRoom message ∨
          message.byteAt 4 = request.expectedCommand) ∧
        ∃ packets, List.Forall₂ Packet.Shows packets late ∧
          (session.exchange request response checkStatus).session.deliveries =
            session.deliveries ++ packets.map session.sink.process := by
  obtain ⟨late, last, hsifted, -⟩ := session.exchange_sifted request response checkStatus
  obtain ⟨packets, hpackets, hdelivered⟩ := hsifted.delivered
  refine ⟨late, last, hsifted.arrived_eq, hsifted.length_last, ?_, packets,
    hpackets.imp fun _ _ hhanded => hhanded.shows, hdelivered⟩
  intro message hmem
  refine (hsifted.decided message hmem).imp id ?_
  rintro ⟨hawaited, -⟩
  exact (Option.some.inj hawaited).symm

/-- During an exchange every message goes to the sink but the last, which is refused for its
length or has the awaited command.  If the server answers in order and no multiplex id is used
twice, an exchange that succeeds has the answer to the first unanswered request with its
command.  This is its own one exactly if no earlier request with the command was still
unanswered. -/
theorem exchange_takes_first_unanswered (session : Session τ)
    (operations earlier later : List Operation) (request response : Packet)
    (checkStatus : Bool)
    (hsplit : operations = earlier ++ .exchange request response checkStatus :: later)
    (hserver : ∀ sofar, sofar <+: operations → (session.tape sofar).AnsweredInOrder)
    (hids : ((session.tape operations).written.map Frame.multiplexId).Nodup) :
    let start := session.run earlier
    let exchanged := start.exchange request response checkStatus
    let unanswered := (session.tape earlier).unanswered
    (∃ late last,
      (session.tape (earlier ++ [.exchange request response checkStatus])).arrived =
          (session.tape earlier).arrived ++ (late ++ last) ∧
        last.length ≤ 1 ∧
        (∀ message ∈ last, Refused response.messageRoom message ∨
          message.byteAt 4 = request.expectedCommand) ∧
        ∃ packets, List.Forall₂ Packet.Shows packets late ∧
          exchanged.session.deliveries =
            start.deliveries ++ packets.map start.sink.process) ∧
    (exchanged.result = .ok () →
      ((unanswered ++ [start.wireFrame request]).find?
          (carries request.expectedCommand)).map Frame.multiplexId =
        some exchanged.response.multiplexId ∧
      (exchanged.response.multiplexId = Frame.multiplexId (start.wireFrame request) ↔
        ∀ frame ∈ unanswered, Frame.command frame ≠ request.expectedCommand)) := by
  intro start exchanged unanswered
  let taped := (session.mapTransport Taped.blank).run earlier
  have huntaped : taped.mapTransport Taped.untape = start :=
    run_untape (session.mapTransport Taped.blank) earlier
  have hexchanged : exchanged = _ :=
    (congrArg (·.exchange request response checkStatus) huntaped.symm).trans
      (exchange_mapTransport Taped.unnoticed_untape taped request response checkStatus)
  have hafter : session.tape (earlier ++ [.exchange request response checkStatus]) =
      (taped.exchange request response checkStatus).session.transport := by
    rw [tape, run_append]
    rfl
  have hregroup : operations =
      (earlier ++ [.exchange request response checkStatus]) ++ later :=
    hsplit.trans (List.append_cons ..)
  rw [hexchanged, ← huntaped]
  constructor
  · rw [hafter]
    exact taped.exists_late_of_exchange request response checkStatus
  · intro hok
    have hbefore : (session.tape earlier).AnsweredInOrder :=
      hserver _ (hsplit ▸ List.prefix_append _ _)
    have hanswered := hserver _ (hregroup ▸ List.prefix_append _ later)
    have hwritten := session.prefix_written
      (earlier ++ [.exchange request response checkStatus]) later
    rw [← hregroup, hafter] at hwritten
    rw [hafter] at hanswered
    have hfound := find?_unanswered_of_exchange_ok taped request response checkStatus hbefore
      hanswered hok
    exact ⟨hfound, multiplexId_eq_iff_of_exchange_ok taped request response checkStatus
      ((hwritten.sublist.map Frame.multiplexId).nodup hids) hok hfound⟩

end FirstUnanswered

/-! ## Two exchanges -/

theorem of_prefix_pair {α : Type} {first second : α} {holds : List α → Prop}
    (hnone : holds []) (hone : holds [first]) (htwo : holds [first, second]) :
    ∀ sofar, sofar <+: [first, second] → holds sofar := by
  intro sofar hpart
  have hmem := (List.mem_inits sofar [first, second]).mpr hpart
  simp only [List.inits, List.map_cons, List.map_nil, List.mem_cons, List.not_mem_nil,
    or_false] at hmem
  rcases hmem with rfl | rfl | rfl
  · exact hnone
  · exact hone
  · exact htwo

/-- The answer to an exchange that was given up comes during the next one, and goes to the sink
because it has another command. -/
theorem exchange_passes_over_late_reply :
    let answer (command multiplexId : UInt8) : Bytes :=
      [0, 0, 0, 35] ++ Packet.marker ++ [command] ++ List.replicate 25 0 ++
        [multiplexId, 0, 0, 0, 0]
    let connection : Connection := (Connection.new 1000).mapPipe fun pipe =>
      pipe.schedule 150 (.send (answer 0x2B 1 ++ answer 0x25 2))
    let session : Session Connection :=
      Session.new connection (.channel ⟨true⟩) ⟨true, 1, 100, 100, 549, false⟩
    let response := Packet.blank 549 (by decide)
    let first := (response.setCommand 0x2B).set .multiplexId 1
    let second := (response.setCommand 0x25).set .multiplexId 2
    let start := session.run [.exchange first response true]
    let exchanged := start.exchange second response true
    exchanged.result = .ok () ∧
      exchanged.response.multiplexId = Frame.multiplexId (start.wireFrame second) ∧
      exchanged.session.deliveries.length = 1 := by
  intro answer connection session response first second start exchanged
  let operations : List Operation :=
    [.exchange first response true, .exchange second response true]
  have hserver : ∀ sofar, sofar <+: operations → (session.tape sofar).AnsweredInOrder := by
    have hnone : (session.tape []).AnsweredInOrder := by decide +kernel
    have hone : (session.tape [.exchange first response true]).AnsweredInOrder := by
      decide +kernel
    have htwo : (session.tape operations).AnsweredInOrder := by decide +kernel
    exact of_prefix_pair hnone hone htwo
  have hids : ((session.tape operations).written.map Frame.multiplexId).Nodup := by
    decide +kernel
  have hothers : ∀ frame ∈ (session.tape [.exchange first response true]).unanswered,
      Frame.command frame ≠ second.expectedCommand := by
    decide +kernel
  have hok : exchanged.result = .ok () := eq_ok_of_isOk (by decide +kernel)
  have htaken := exchange_takes_first_unanswered session operations
    [.exchange first response true] [] second response true rfl hserver hids
  exact ⟨hok, (htaken.2 hok).2.mpr hothers, by decide +kernel⟩

/-- With the same command in both exchanges, the late answer to the first one is taken for the
answer to the second one. -/
theorem exchange_takes_late_reply :
    let answer : Bytes :=
      [0, 0, 0, 35] ++ Packet.marker ++ [0x2B] ++ List.replicate 25 0 ++ [1, 0, 0, 0, 0]
    let connection : Connection := (Connection.new 1000).mapPipe fun pipe =>
      pipe.schedule 150 (.send answer)
    let session : Session Connection :=
      Session.new connection (.channel ⟨true⟩) ⟨true, 1, 100, 100, 549, false⟩
    let response := Packet.blank 549 (by decide)
    let first := (response.setCommand 0x2B).set .multiplexId 1
    let second := (response.setCommand 0x2B).set .multiplexId 2
    let operations : List Operation :=
      [.exchange first response true, .exchange second response true]
    let start := session.run [.exchange first response true]
    let exchanged := start.exchange second response true
    (∀ sofar, sofar <+: operations → (session.tape sofar).AnsweredInOrder) ∧
      ((session.tape operations).written.map Frame.multiplexId).Nodup ∧
      exchanged.result = .ok () ∧
      exchanged.response.multiplexId ≠ Frame.multiplexId (start.wireFrame second) ∧
      exchanged.session.deliveries = [] := by
  intro answer connection session response first second operations start exchanged
  have hnone : (session.tape []).AnsweredInOrder := by decide +kernel
  have hone : (session.tape [.exchange first response true]).AnsweredInOrder := by
    decide +kernel
  have htwo : (session.tape operations).AnsweredInOrder := by decide +kernel
  have hok : exchanged.result = .ok () := eq_ok_of_isOk (by decide +kernel)
  exact ⟨of_prefix_pair hnone hone htwo, by decide +kernel, hok, by decide +kernel,
    by decide +kernel⟩

end Session

end SmbExchange
