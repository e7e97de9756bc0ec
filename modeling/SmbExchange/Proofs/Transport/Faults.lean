import SmbExchange.Transport.Connection

/-!
# How a connection fails

A wait on a connection fails in two ways only.  Either the stream itself has
failed, and the connection is of no more use; or a frame announces more than
is accepted, and its length is the fault.
-/

namespace SmbExchange

/-- A fault that waiting on a connection may end with: the stream failed, or a
frame is too long. -/
def Fault.OfWire (fault : Fault) : Prop :=
  fault.isTransportFailure = true ∨ ∃ length, fault = .oversizedPacket length

/-- A transport whose waits fail like those of a connection. -/
def Transport.FailsLikeWire (τ : Type) [Transport τ] : Prop :=
  ∀ (transport : τ) (wait : Nat) (fault : Fault),
    (next transport wait).arrival = .failed fault → fault.OfWire

theorem Transport.ofWire_of_receive {τ : Type} [Transport τ] (hfails : FailsLikeWire τ)
    {transport : τ} {room wait : Nat} {fault : Fault}
    (hfailed : (receive transport room wait).arrival = .failed fault) : fault.OfWire := by
  simp only [receive] at hfailed
  split at hfailed
  · rename_i payload hnext
    split at hfailed
    · simp only [Arrival.failed.injEq] at hfailed
      exact .inr ⟨payload.length, hfailed.symm⟩
    · simp at hfailed
  · exact hfails transport wait fault hfailed

/-! ## Decoding -/

namespace Framing

variable {framing : Framing} {bytes : Bytes} {fault : Fault}

theorem ofWire_of_takeMessage (hfailed : (framing.takeMessage bytes).1 = .failed fault) :
    fault.OfWire := by
  rw [takeMessage] at hfailed
  split at hfailed
  · simp at hfailed
  · split at hfailed
    · simp at hfailed
    · split at hfailed
      · simp only [Outcome.failed.injEq] at hfailed
        exact .inl (hfailed ▸ rfl)
      · split at hfailed
        · simp only [Outcome.failed.injEq] at hfailed
          exact .inr ⟨_, hfailed.symm⟩
        · split at hfailed <;> simp at hfailed

theorem ofWire_of_decode (hfailed : (framing.decode bytes).outcome = .failed fault) :
    fault.OfWire :=
  ofWire_of_takeMessage hfailed

theorem ofWire_of_decodeEnd (hfailed : (framing.decodeEnd bytes).outcome = .failed fault) :
    fault.OfWire := by
  simp only [decodeEnd] at hfailed
  split at hfailed
  · rename_i hwaiting
    split at hfailed
    · rw [hwaiting] at hfailed
      simp at hfailed
    · simp only [Outcome.failed.injEq] at hfailed
      exact .inl (hfailed ▸ rfl)
  · exact ofWire_of_decode hfailed

end Framing

/-! ## Reading -/

namespace FrameReader

variable {framing : Framing} {reader : FrameReader} {incoming : Bytes} {ended : Bool}
variable {fault : Fault}

theorem ofWire_of_scan (hfailed : (scan framing reader incoming).arrival = .failed fault) :
    fault.OfWire := by
  simp only [scan] at hfailed
  split at hfailed
  · simp at hfailed
  · rename_i found hfound
    simp only [Arrival.failed.injEq] at hfailed
    subst hfailed
    split at hfound
    · exact Framing.ofWire_of_decodeEnd hfound
    · exact Framing.ofWire_of_decode hfound
  · simp only at hfailed
    split at hfailed
    · simp only [Arrival.failed.injEq] at hfailed
      exact .inl (hfailed ▸ rfl)
    · simp at hfailed

theorem ofWire_of_drain (hfailed : (drain framing reader ended).arrival = .failed fault) :
    fault.OfWire := by
  rw [drain] at hfailed
  split at hfailed
  · simp at hfailed
  · split at hfailed
    · simp only [Arrival.failed.injEq] at hfailed
      exact .inl (hfailed ▸ rfl)
    · exact ofWire_of_scan hfailed

theorem ofWire_of_fill (hfailed : (fill framing reader incoming ended).arrival = .failed fault) :
    fault.OfWire := by
  fun_induction fill framing reader incoming ended with
  | case1 reader ready => exact ofWire_of_drain hfailed
  | case2 reader incoming ready hsome found hnothing ih => exact ih hfailed
  | case3 reader incoming ready hsome found harrival => exact ofWire_of_scan hfailed

theorem ofWire_of_poll (hfailed : (poll framing reader incoming ended).arrival = .failed fault) :
    fault.OfWire := by
  rw [poll] at hfailed
  split at hfailed
  · simp only [Arrival.failed.injEq] at hfailed
    exact .inl (hfailed ▸ rfl)
  · split at hfailed
    · simp only at hfailed
      split at hfailed
      · exact ofWire_of_fill hfailed
      · exact ofWire_of_scan hfailed
    · exact ofWire_of_fill hfailed

end FrameReader

/-! ## Waiting -/

namespace Connection

theorem ofWire_of_waitUntil {connection : Connection} {deadline skipped : Nat} {fault : Fault}
    (hfailed : (connection.waitUntil deadline skipped).arrival = .failed fault) :
    fault.OfWire := by
  fun_induction waitUntil connection deadline skipped with
  | case1 => simp at hfailed
  | case2 connection skipped pipe polled after skips hnothing later hadvance ih =>
    exact ih hfailed
  | case3 connection skipped pipe polled after skips hsome =>
    exact FrameReader.ofWire_of_poll hfailed

theorem failsLikeWire : Transport.FailsLikeWire Connection :=
  fun _ _ _ hfailed => ofWire_of_waitUntil hfailed

end Connection

end SmbExchange
