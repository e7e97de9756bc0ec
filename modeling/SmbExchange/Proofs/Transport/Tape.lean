import SmbExchange.Transport.Basic

/-!
# Recording what a transport carries

A tape runs beside a transport and keeps every frame that is handed over and
every message that arrives.  Whoever uses the transport does not notice the
tape: `untape` is a map that writing and waiting commute with.
-/

namespace SmbExchange

namespace Transport

/-- A map between transports that neither writing nor waiting notices. -/
structure Unnoticed {τ σ : Type} [Transport τ] [Transport σ] (view : τ → σ) : Prop where
  write_eq : ∀ transport frame,
    write (view transport) frame = ((write transport frame).1, view (write transport frame).2)
  next_eq : ∀ transport wait,
    next (view transport) wait = ⟨(next transport wait).skipped, (next transport wait).arrival,
      view (next transport wait).transport⟩

namespace Unnoticed

variable {τ σ : Type} [Transport τ] [Transport σ] {view : τ → σ}

theorem send_eq (hview : Unnoticed view) (transport : τ) (frame : Bytes) :
    send (view transport) frame =
      ⟨(send transport frame).result, (send transport frame).frame,
        view (send transport frame).transport, (send transport frame).events⟩ := by
  simp only [send, hview.write_eq]
  by_cases hshort : frame.length < Frame.headerLength
  · simp only [if_pos hshort]
  · simp only [if_neg hshort]
    generalize Frame.writeHeader frame (frame.length - Frame.headerLength) = header
    cases header with
    | error fault => rfl
    | ok filled =>
      simp only
      generalize write transport filled = written
      obtain ⟨result, after⟩ := written
      cases result <;> rfl

theorem receive_eq (hview : Unnoticed view) (transport : τ) (room wait : Nat) :
    receive (view transport) room wait =
      ⟨(receive transport room wait).arrival, view (receive transport room wait).transport,
        (receive transport room wait).events⟩ := by
  simp only [receive, hview.next_eq]
  generalize next transport wait = waited
  cases waited.arrival with
  | message payload =>
    simp only
    split <;> rfl
  | nothing => rfl
  | failed fault => rfl

end Unnoticed

end Transport

structure Taped (τ : Type) where
  transport : τ
  /-- The frames that were handed over, first one first. -/
  written : List Bytes
  /-- The messages that arrived, first one first. -/
  arrived : List Bytes

namespace Taped

variable {τ : Type}

def untape (taped : Taped τ) : τ :=
  taped.transport

def blank (transport : τ) : Taped τ :=
  ⟨transport, [], []⟩

/-- The message that a wait came to, if it came to one. -/
def messages : Arrival → List Bytes
  | .message payload => [payload]
  | .nothing => []
  | .failed _ => []

variable [Transport τ]

instance : Transport (Taped τ) where
  write taped frame :=
    ((Transport.write taped.transport frame).1,
      { taped with
        transport := (Transport.write taped.transport frame).2
        written := taped.written ++ [frame] })
  next taped wait :=
    ⟨(Transport.next taped.transport wait).skipped,
      (Transport.next taped.transport wait).arrival,
      { taped with
        transport := (Transport.next taped.transport wait).transport
        arrived := taped.arrived ++ messages (Transport.next taped.transport wait).arrival }⟩
  close taped :=
    ((Transport.close taped.transport).1,
      { taped with transport := (Transport.close taped.transport).2 })
  pending taped := Transport.pending taped.transport
  pending_next_lt taped := Transport.pending_next_lt taped.transport

/-- Nobody notices the tape. -/
theorem unnoticed_untape : Transport.Unnoticed (untape : Taped τ → τ) where
  write_eq _ _ := rfl
  next_eq _ _ := rfl

/-- Between two states of a tape, these frames were handed over and these messages
arrived. -/
structure Records (earlier later : Taped τ) (written arrived : List Bytes) : Prop where
  written_eq : later.written = earlier.written ++ written
  arrived_eq : later.arrived = earlier.arrived ++ arrived

omit [Transport τ] in
theorem Records.refl (taped : Taped τ) : Records taped taped [] [] :=
  ⟨(List.append_nil _).symm, (List.append_nil _).symm⟩

omit [Transport τ] in
theorem Records.trans {first middle last : Taped τ} {written written' arrived arrived' : List Bytes}
    (hbefore : Records first middle written arrived)
    (hafter : Records middle last written' arrived') :
    Records first last (written ++ written') (arrived ++ arrived') := by
  constructor
  · rw [hafter.written_eq, hbefore.written_eq, List.append_assoc]
  · rw [hafter.arrived_eq, hbefore.arrived_eq, List.append_assoc]

theorem records_next (taped : Taped τ) (wait : Nat) :
    Records taped (Transport.next taped wait).transport []
      (messages (Transport.next taped wait).arrival) :=
  ⟨(List.append_nil _).symm, rfl⟩

theorem records_write (taped : Taped τ) (frame : Bytes) :
    Records taped (Transport.write taped frame).2 [frame] [] :=
  ⟨rfl, (List.append_nil _).symm⟩

end Taped

end SmbExchange
