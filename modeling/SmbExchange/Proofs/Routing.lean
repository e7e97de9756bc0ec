import Mathlib.Data.List.Forall2
import SmbExchange.Sink

/-!
# Who gets an unsolicited packet

Over the life of a dispatcher handlers are registered and replaced, answer now
one way and now another, the reader of the fallback goes away, and packets
arrive in between.  Whose a packet is follows from what came before it: which
handler was registered last for its command, and whether the fallback still
has a reader.

One answer of a handler is ambiguous.  A dispatcher without a handler fails
with `unexpectedCommand`, and routing looks at this fault alone, so a handler
that answers with the same fault declines the packet: it has been called, and
the packet goes on as if it had not.  Routing by registration is therefore
what happens to every packet that is not declined, and to no other.
-/

namespace SmbExchange

/-- The handler fails with the fault that stands for having no handler. -/
def Handler.declines (handler : Handler) (packet : Packet) : Bool :=
  match handler.run packet with
  | .error (.unexpectedCommand _) => true
  | _ => false

namespace Dispatcher

/-! ## Runs -/

/-- One step in the life of a dispatcher. -/
inductive Step where
  | register (command : UInt8) (handler : Handler)
  /-- The handler of a command, if it has one, answers differently from now on. -/
  | change (command : UInt8) (run : Packet → Except Fault Unit)
  | dropReader
  | arrive (packet : Packet)

def after (dispatcher : Dispatcher) : Step → Dispatcher
  | .register command handler => dispatcher.register command handler
  | .change command run =>
    { dispatcher with
      handler? := fun other =>
        if other = command then (dispatcher.handler? other).map ({ · with run })
        else dispatcher.handler? other }
  | .dropReader => { dispatcher with fallback := dispatcher.fallback.map fun _ => ⟨false⟩ }
  | .arrive _ => dispatcher

/-- What becomes of the packets that arrive in a run, one after the other. -/
def deliveries (dispatcher : Dispatcher) : List Step → List Delivery
  | [] => []
  | .arrive packet :: steps => dispatcher.process packet :: dispatcher.deliveries steps
  | step :: steps => (dispatcher.after step).deliveries steps

/-! ## Histories

A history lists the steps before a moment, the last one first. -/

/-- The handler of a command, as the history has it. -/
def latest? (command : UInt8) : (history : List Step) → Option Handler
  | [] => none
  | .register other handler :: older =>
    if command = other then some handler else latest? command older
  | .change other run :: older =>
    if command = other then (latest? command older).map ({ · with run }) else latest? command older
  | _ :: older => latest? command older

/-- The fallback has a reader, as the history has it. -/
def isRead (fallback : Option Channel) : (history : List Step) → Bool
  | [] => fallback.any Channel.hasReader
  | .dropReader :: _ => false
  | _ :: older => isRead fallback older

structure Arrival where
  packet : Packet
  history : List Step

def arrivals (history : List Step) : List Step → List Arrival
  | [] => []
  | .arrive packet :: steps => ⟨packet, history⟩ :: arrivals (.arrive packet :: history) steps
  | step :: steps => arrivals (step :: history) steps

namespace Arrival

variable (arrival : Arrival)

/-- The handler that was registered last for the command of the packet. -/
def handler? : Option Handler :=
  latest? arrival.packet.command arrival.history

/-- There is a handler for the command of the packet. -/
def registered : Bool :=
  arrival.handler?.isSome

/-- There is a handler for the command of the packet, and it does not decline. -/
def kept : Bool :=
  arrival.handler?.any fun handler => !handler.declines arrival.packet

end Arrival

/-- The packet went to its handler alone if it is `taken`, and otherwise to the fallback, or was
counted where nobody reads that. -/
structure Routed (fallback : Option Channel) (taken : Bool) (arrival : Arrival)
    (delivery : Delivery) : Prop where
  packet_eq : delivery.packet = arrival.packet
  calls_eq : delivery.calls =
    (arrival.handler?.map fun handler => (⟨handler.tag, arrival.packet⟩ : Call)).toList
  forwarded_eq : delivery.forwarded =
    if !taken && isRead fallback arrival.history then
      [arrival.packet.expect arrival.packet.command] else []
  unhandled_eq : delivery.unhandled =
    if taken || isRead fallback arrival.history then 0 else 1

/-- The dispatcher is in the state that the history says. -/
structure Remembers (fallback : Option Channel) (history : List Step) (dispatcher : Dispatcher) :
    Prop where
  handler?_eq : ∀ command, dispatcher.handler? command = latest? command history
  hasReader_eq : dispatcher.fallback.any Channel.hasReader = isRead fallback history

section Run

variable {fallback : Option Channel} {history : List Step} {dispatcher : Dispatcher}

theorem remembers_empty (fallback : Option Channel) : Remembers fallback [] (empty fallback) :=
  ⟨fun _ => rfl, rfl⟩

theorem remembers_after (hremembers : Remembers fallback history dispatcher) (step : Step) :
    Remembers fallback (step :: history) (dispatcher.after step) := by
  obtain ⟨hhandler, hreader⟩ := hremembers
  cases step with
  | register command handler =>
    refine ⟨fun other => ?_, hreader⟩
    rw [latest?, ← hhandler other]
    rfl
  | change command run =>
    refine ⟨fun other => ?_, hreader⟩
    rw [latest?, ← hhandler other]
    rfl
  | dropReader =>
    refine ⟨hhandler, ?_⟩
    rw [isRead, after]
    cases dispatcher.fallback <;> rfl
  | arrive packet => exact ⟨hhandler, hreader⟩

/-- The handler is called once, if there is one. -/
theorem dispatch_eq (hremembers : Remembers fallback history dispatcher) (packet : Packet) :
    (dispatcher.dispatch packet).1 =
        ((Arrival.mk packet history).handler?.map fun handler =>
          (⟨handler.tag, packet⟩ : Call)).toList ∧
      ((∃ command, (dispatcher.dispatch packet).2 = .error (.unexpectedCommand command)) ↔
        (Arrival.mk packet history).kept = false) := by
  rw [Arrival.kept, Arrival.handler?, ← hremembers.handler?_eq, dispatch]
  cases dispatcher.handler? packet.command with
  | none => exact ⟨rfl, iff_of_true ⟨_, rfl⟩ rfl⟩
  | some handler =>
    refine ⟨rfl, ?_⟩
    simp only [Option.any_some, Bool.not_eq_false', Handler.declines, Handler.call]
    split <;> simp_all

/-- A packet that a handler has dealt with, well or badly, goes nowhere else. -/
theorem process_of_dealt {packet : Packet}
    (hdealt : ∀ command, (dispatcher.dispatch packet).2 ≠ .error (.unexpectedCommand command)) :
    (dispatcher.process packet).forwarded = [] ∧ (dispatcher.process packet).unhandled = 0 := by
  rw [process]
  split
  · exact ⟨rfl, rfl⟩
  · rename_i calls command hdispatch
    exact absurd (congrArg Prod.snd hdispatch) (hdealt command)
  · exact ⟨rfl, rfl⟩

/-- A packet that nothing has dealt with is read at the fallback or counted. -/
theorem process_of_unexpected {packet : Packet} {command : UInt8}
    (hdispatch : (dispatcher.dispatch packet).2 = .error (.unexpectedCommand command)) :
    (dispatcher.process packet).forwarded =
        (if dispatcher.fallback.any Channel.hasReader then [packet.expect packet.command]
          else []) ∧
      (dispatcher.process packet).unhandled =
        if dispatcher.fallback.any Channel.hasReader then 0 else 1 := by
  rw [process]
  rcases hresult : dispatcher.dispatch packet with ⟨calls, outcome⟩
  rw [hresult] at hdispatch
  subst hdispatch
  cases dispatcher.fallback with
  | none => exact ⟨rfl, rfl⟩
  | some channel =>
    rcases channel with ⟨_ | _⟩ <;> exact ⟨rfl, rfl⟩

/-- One packet: only the fault that stands for having no handler sends it on. -/
theorem routed_process (hremembers : Remembers fallback history dispatcher) (packet : Packet) :
    Routed fallback (Arrival.mk packet history).kept ⟨packet, history⟩
      (dispatcher.process packet) := by
  obtain ⟨hcalls, hunexpected⟩ := dispatch_eq hremembers packet
  have hpacket := dispatcher.packet_process packet
  have hcalled := (dispatcher.calls_process packet).trans hcalls
  cases hkept : (Arrival.mk packet history).kept with
  | true =>
    have hdealt : ∀ command,
        (dispatcher.dispatch packet).2 ≠ .error (.unexpectedCommand command) := by
      intro command hdispatch
      rw [hunexpected.mp ⟨command, hdispatch⟩] at hkept
      cases hkept
    obtain ⟨hforwarded, hunhandled⟩ := process_of_dealt hdealt
    exact ⟨hpacket, hcalled, hforwarded, hunhandled⟩
  | false =>
    obtain ⟨command, hdispatch⟩ := hunexpected.mpr hkept
    obtain ⟨hforwarded, hunhandled⟩ := process_of_unexpected hdispatch
    rw [hremembers.hasReader_eq] at hforwarded hunhandled
    exact ⟨hpacket, hcalled, hforwarded, hunhandled⟩

/-- Every packet of a run, by induction on the steps; the history grows with them. -/
theorem routed_deliveries (hremembers : Remembers fallback history dispatcher)
    (steps : List Step) :
    List.Forall₂ (fun arrival => Routed fallback arrival.kept arrival)
      (arrivals history steps) (dispatcher.deliveries steps) := by
  induction steps generalizing history dispatcher with
  | nil => exact .nil
  | cons step steps ih =>
    have hrest := ih (remembers_after hremembers step)
    cases step with
    | arrive packet => exact .cons (routed_process hremembers packet) hrest
    | register | change | dropReader => exact hrest

end Run

section Routed

variable {fallback : Option Channel} {arrival : Arrival} {delivery : Delivery}

/-- A packet cannot be both taken and passed on. -/
theorem taken_eq_of_routed {taken other : Bool} (hrouted : Routed fallback taken arrival delivery)
    (hother : Routed fallback other arrival delivery) : taken = other := by
  have hforwarded := hrouted.forwarded_eq.symm.trans hother.forwarded_eq
  have hunhandled := hrouted.unhandled_eq.symm.trans hother.unhandled_eq
  cases hread : isRead fallback arrival.history with
  | true =>
    rw [hread] at hforwarded
    cases taken <;> cases other <;> simp_all
  | false =>
    rw [hread] at hunhandled
    cases taken <;> cases other <;> simp_all

/-- What the fallback reads are the packets that were not kept while it had a reader. -/
theorem flatMap_forwarded {arrived : List Arrival} {delivered : List Delivery}
    (hrouted : List.Forall₂ (fun arrival => Routed fallback arrival.kept arrival)
      arrived delivered) :
    delivered.flatMap Delivery.forwarded =
      (arrived.filter fun arrival => !arrival.kept && isRead fallback arrival.history).map
        fun arrival => arrival.packet.expect arrival.packet.command := by
  induction hrouted with
  | nil => rfl
  | cons hfirst _ ih =>
    rw [List.flatMap_cons, ih, hfirst.forwarded_eq, List.filter_cons]
    split <;> rfl

end Routed

/-- In every run of every dispatcher the handler registered last for a packet is called with it,
once, and the packet is routed by whether the handler keeps it.  This is routing by registration
exactly where the handler, if there is one, does not decline. -/
theorem routed_run (fallback : Option Channel) (steps : List Step) :
    List.Forall₂
        (fun arrival delivery =>
          Routed fallback arrival.kept arrival delivery ∧
            (Routed fallback arrival.registered arrival delivery ↔
              arrival.registered = arrival.kept))
        (arrivals [] steps) ((empty fallback).deliveries steps) ∧
      ((empty fallback).deliveries steps).flatMap Delivery.forwarded =
        ((arrivals [] steps).filter fun arrival =>
          !arrival.kept && isRead fallback arrival.history).map
            fun arrival => arrival.packet.expect arrival.packet.command := by
  have hrouted := routed_deliveries (remembers_empty fallback) steps
  refine ⟨hrouted.imp fun arrival delivery hkept => ⟨hkept, ?_, ?_⟩, flatMap_forwarded hrouted⟩
  · exact fun hregistered => taken_eq_of_routed hregistered hkept
  · exact fun hsame => hsame ▸ hkept

/-- A dispatcher with one handler, which declines whatever it is called with. -/
def declining : List Step :=
  [.register 0x24 ⟨"oplock", fun packet => .error (.unexpectedCommand packet.command)⟩,
    .arrive ((Packet.blank Packet.minimumCapacity (by decide)).setCommand 0x24)]

/-- The packet has a registered handler and reaches the fallback all the same. -/
theorem routed_run_fails_for_declining :
    ¬ List.Forall₂ (fun arrival => Routed (some ⟨true⟩) arrival.registered arrival)
      (arrivals [] declining) ((empty (some ⟨true⟩)).deliveries declining) := by
  intro hrouted
  have hactual := routed_deliveries (remembers_empty (some ⟨true⟩)) declining
  rw [declining] at hrouted hactual
  obtain ⟨hregistered, -⟩ := List.forall₂_cons.mp hrouted
  obtain ⟨hkept, -⟩ := List.forall₂_cons.mp hactual
  have hsame := taken_eq_of_routed hregistered hkept
  revert hsame
  decide +kernel

end Dispatcher

end SmbExchange
