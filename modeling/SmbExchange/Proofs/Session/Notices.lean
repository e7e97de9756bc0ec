import SmbExchange.Proofs.Packet.Described
import SmbExchange.Proofs.Session.Counters

/-!
# What a handler can tell of an unsolicited message

The sink is called from two places.  A wait for an unsolicited packet makes the
packet expect the command that it carries.  A wait for a response passes on the
packet that it has received into, and this one still expects the awaited
command.  What a handler is asked about the message is therefore the same from
both, and what it is asked about success is not: no packet that is diverted is
ever a success.  Readers of a channel do not see the difference, since a channel
makes every packet expect its own command.
-/

namespace SmbExchange

open Packet (declaredStatus declaresResponse)

/-! ## Over a run -/

/-- The operation that an activity comes to, if it comes to one. -/
def Activity.operation? {τ : Type} (session : Session τ) : Activity τ → Option Operation
  | operate operation => some operation
  | poll packet => some (.receiveAsync packet session.settings.pollWait)
  | _ => none

namespace Session

variable {τ : Type} [Transport τ] {α β : Type}

/-- What the operations of a run come to, one after the other. -/
def gather (what : Session τ → Operation → List α) (session : Session τ) :
    List (Activity τ) → List α
  | [] => []
  | activity :: activities =>
    ((activity.operation? session).map (what session)).getD [] ++
      gather what (activity.apply session) activities

/-- What holds of every operation holds of a run. -/
theorem forall₂_gather {related : α → β → Prop} {left : Session τ → Operation → List α}
    {right : Session τ → Operation → List β}
    (hoperation : ∀ session operation,
      List.Forall₂ related (left session operation) (right session operation))
    (session : Session τ) (activities : List (Activity τ)) :
    List.Forall₂ related (session.gather left activities) (session.gather right activities) := by
  induction activities generalizing session with
  | nil => exact .nil
  | cons activity activities ih =>
    refine List.rel_append ?_ (ih (activity.apply session))
    cases activity.operation? session with
    | none => exact .nil
    | some operation => exact hoperation session operation

theorem forall_mem_gather {holds : α → Prop} {what : Session τ → Operation → List α}
    (hoperation : ∀ session operation, ∀ thing ∈ what session operation, holds thing)
    (session : Session τ) (activities : List (Activity τ)) :
    ∀ thing ∈ session.gather what activities, holds thing := by
  induction activities generalizing session with
  | nil => simp [gather]
  | cons activity activities ih =>
    rw [gather, List.forall_mem_append]
    refine ⟨?_, ih (activity.apply session)⟩
    cases activity.operation? session with
    | none => simp
    | some operation => exact hoperation session operation

/-- The sink is called in operations only. -/
theorem delivered_tally (session : Session τ) (activities : List (Activity τ)) :
    (session.tally activities).delivered =
      session.gather (fun state operation => (operation.tally state).delivered) activities := by
  induction activities generalizing session with
  | nil => rfl
  | cons activity activities ih =>
    rw [tally, Tally.followedBy, gather, ih]
    cases activity <;> rfl

end Session

/-! ## One delivery -/

/-- A message that goes to the sink, with the command that was awaited then, if one was. -/
structure Notice where
  message : Bytes
  awaited? : Option UInt8

/-- The message says of itself that it is a successful response. -/
def Packet.declaresSuccess (message : Bytes) : Bool :=
  declaresResponse message && (declaredStatus message).isSuccess

/-- What the sink was called with, and what handlers and readers see of it. -/
structure Delivery.Reports (delivery : Delivery) (notice : Notice) : Prop where
  header_le : Packet.minimumMessage ≤ notice.message.length
  shows : delivery.packet.Shows notice.message
  command_eq : delivery.packet.command = notice.message.byteAt 4
  awaited_ne : notice.awaited? ≠ some (notice.message.byteAt 4)
  expected_eq : delivery.packet.expectedCommand =
    notice.awaited?.getD (notice.message.byteAt 4)
  isSuccess_eq : delivery.packet.isSuccess =
    (notice.awaited?.isNone && Packet.declaresSuccess notice.message)
  /-- Handlers are called with the packet as it is. -/
  called : ∀ call ∈ delivery.calls, call.packet = delivery.packet
  /-- Readers of a channel have a packet that expects its own command. -/
  read : ∀ packet ∈ delivery.forwarded, packet.Shows notice.message ∧
    packet.expectedCommand = notice.message.byteAt 4 ∧
      packet.isSuccess = Packet.declaresSuccess notice.message

theorem Channel.eq_of_mem_forwarded {channel : Channel} {packet read : Packet}
    (hread : read ∈ (channel.process packet).forwarded) : read = packet.expect packet.command := by
  rw [Channel.process] at hread
  split at hread
  · exact List.mem_singleton.mp hread
  · cases hread

namespace Dispatcher

theorem packet_of_mem_dispatch {dispatcher : Dispatcher} {packet : Packet} {call : Call}
    (hcall : call ∈ (dispatcher.dispatch packet).1) : call.packet = packet := by
  rw [dispatch] at hcall
  split at hcall
  · rw [List.mem_singleton.mp hcall]
  · cases hcall

theorem eq_of_mem_forwarded {dispatcher : Dispatcher} {packet read : Packet}
    (hread : read ∈ (dispatcher.process packet).forwarded) :
    read = packet.expect packet.command := by
  rw [process] at hread
  split at hread
  · cases hread
  · split at hread
    · exact Channel.eq_of_mem_forwarded hread
    · cases hread
  · cases hread

end Dispatcher

/-- Whatever the sink is, a packet is not changed for handlers, and for readers only in the command
that it expects. -/
theorem Sink.process_eq (sink : Sink) (packet : Packet) :
    (sink.process packet).packet = packet ∧
      (∀ call ∈ (sink.process packet).calls, call.packet = packet) ∧
      ∀ read ∈ (sink.process packet).forwarded, read = packet.expect packet.command := by
  cases sink with
  | channel target =>
    rw [process, target.calls_process]
    exact ⟨target.packet_process packet, nofun, fun read => Channel.eq_of_mem_forwarded⟩
  | dispatcher target =>
    rw [process, target.calls_process]
    exact ⟨target.packet_process packet, fun call => Dispatcher.packet_of_mem_dispatch,
      fun read => Dispatcher.eq_of_mem_forwarded⟩

/-- A message that is handed on is reported, whatever the sink is. -/
theorem Session.HandedOn.reports {awaited? : Option UInt8} {room : Nat} {packet : Packet}
    {message : Bytes} (hhanded : Session.HandedOn awaited? room packet message) (sink : Sink) :
    (sink.process packet).Reports ⟨message, awaited?⟩ := by
  obtain ⟨hpacket, hcalls, hread⟩ := sink.process_eq packet
  obtain ⟨-, hheader⟩ := Session.not_refused_iff.mp hhanded.kept
  have hcommand := Packet.command_of_shows hhanded.shows hheader
  refine ⟨hheader, ?_, ?_, hhanded.other, ?_, ?_, ?_, ?_⟩
  · rw [hpacket]
    exact hhanded.shows
  · rw [hpacket, hcommand]
  · rw [hpacket, hhanded.expected_eq]
  · rw [hpacket, Packet.isSuccess_of_shows hhanded.shows hheader, hhanded.expected_eq,
      Packet.declaresSuccess]
    cases awaited? with
    | none => simp
    | some command =>
      have hother : (message.byteAt 4 == command) = false :=
        beq_eq_false_iff_ne.mpr fun hsame => hhanded.other (congrArg some hsame.symm)
      simp [hother]
  · rw [hpacket]
    exact hcalls
  · intro read hmem
    have hshows : (packet.expect packet.command).Shows message := hhanded.shows
    rw [hread read hmem, Packet.isSuccess_of_shows hshows hheader, Packet.declaresSuccess]
    refine ⟨hshows, hcommand, ?_⟩
    simp [Packet.expect, hcommand]

/-- What is reported expects its own command exactly if no command was awaited. -/
theorem Delivery.Reports.expected_eq_command_iff {delivery : Delivery} {notice : Notice}
    (hreports : delivery.Reports notice) :
    delivery.packet.expectedCommand = delivery.packet.command ↔ notice.awaited? = none := by
  rw [hreports.expected_eq, hreports.command_eq]
  cases hawaited : notice.awaited? with
  | none => simp
  | some command =>
    have hother : command ≠ notice.message.byteAt 4 := fun hsame =>
      hreports.awaited_ne (hawaited.trans (congrArg some hsame))
    simp [hother]

theorem Delivery.forall_expected_eq_iff {deliveries : List Delivery} {notices : List Notice}
    (hreports : List.Forall₂ Delivery.Reports deliveries notices) :
    (∀ delivery ∈ deliveries, delivery.packet.expectedCommand = delivery.packet.command) ↔
      ∀ notice ∈ notices, notice.awaited? = none := by
  induction hreports with
  | nil => simp
  | cons hfirst _ ih =>
    rw [List.forall_mem_cons, List.forall_mem_cons, hfirst.expected_eq_command_iff, ih]

/-! ## Operations and runs -/

namespace Operation

variable {τ : Type} [Transport τ]

/-- The messages that an operation hands to the sink, which are the first to arrive. -/
def handed (session : Session τ) (operation : Operation) : List Bytes :=
  (operation.traffic session).arrived.take (operation.tally session).delivered.length

/-- The messages that an operation hands to the sink, with the command that it awaits. -/
def notices (session : Session τ) (operation : Operation) : List Notice :=
  (operation.handed session).map (⟨·, operation.awaited?⟩)

variable {session : Session τ} {operation : Operation} {packets : List Packet}
variable {handed last : List Bytes}

theorem Sifts.delivered_eq (hsifts : operation.Sifts session packets handed last) :
    (operation.tally session).delivered = packets.map session.sink.process ∧
      operation.handed session = handed := by
  have hdelivered : (operation.tally session).delivered = packets.map session.sink.process := by
    rw [tally, hsifts.deliveries_eq, List.drop_left]
  have hlength : (operation.tally session).delivered.length = handed.length := by
    rw [hdelivered, List.length_map, hsifts.handedOn.length_eq]
  exact ⟨hdelivered, by rw [Operation.handed, hsifts.arrived_eq, hlength, List.take_left]⟩

/-- Every call of the sink is for one message that is handed on. -/
theorem reports_notices (session : Session τ) (operation : Operation) :
    List.Forall₂ Delivery.Reports (operation.tally session).delivered
      (operation.notices session) := by
  obtain ⟨handed, last, packets, hsifts⟩ := operation.exists_sifts session
  obtain ⟨hdelivered, hhanded⟩ := hsifts.delivered_eq
  rw [hdelivered, notices, hhanded, List.forall₂_map_left_iff, List.forall₂_map_right_iff]
  exact hsifts.handedOn.imp fun _ _ hreported => hreported.reports session.sink

end Operation

namespace Session

variable {τ : Type} [Transport τ]

/-- Over any run the calls of the sink are for the messages that are handed on, one for each and in
order.  A packet expects its own command exactly if no command was awaited when it arrived, so this
holds of all of them exactly if none was diverted, and then success is a matter of the message. -/
theorem reports_run (session : Session τ) (activities : List (Activity τ)) :
    List.Forall₂ Delivery.Reports (session.tally activities).delivered
        (session.gather Operation.notices activities) ∧
      ((∀ delivery ∈ (session.tally activities).delivered,
          delivery.packet.expectedCommand = delivery.packet.command) ↔
        ∀ notice ∈ session.gather Operation.notices activities, notice.awaited? = none) := by
  have hreports : List.Forall₂ Delivery.Reports (session.tally activities).delivered
      (session.gather Operation.notices activities) := by
    rw [delivered_tally]
    exact forall₂_gather Operation.reports_notices session activities
  exact ⟨hreports, Delivery.forall_expected_eq_iff hreports⟩

/-- One message twice, first taken in by a wait for an unsolicited packet and then diverted from a
wait for another command.  The handler is called both times and is told of success the first time
alone. -/
theorem expected_ne_command_of_diverted :
    let message : Bytes := Packet.marker ++ [0x24, 0, 0, 0, 0, 0x80] ++ List.replicate 25 0
    let sink : Sink := .dispatcher ((Dispatcher.empty none).register 0x24 ⟨"h", fun _ => .ok ()⟩)
    let session : Session Replay :=
      Session.new ⟨[message, message]⟩ sink ⟨true, 1, 100, 100, 549, false⟩
    let packet := Packet.blank 549 (by decide)
    let deliveries := (session.tally [.operate (.receiveAsync packet 100),
      .operate (.receiveResponse packet 0x2B false)]).delivered
    deliveries.map (fun delivery => (delivery.calls.map Call.tag,
        delivery.packet.expectedCommand, delivery.packet.isSuccess)) =
        [(["h"], 0x24, true), (["h"], 0x2B, false)] ∧
      ¬ ∀ delivery ∈ deliveries,
        delivery.packet.expectedCommand = delivery.packet.command := by
  decide +kernel

end Session

end SmbExchange
