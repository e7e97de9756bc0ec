import SmbExchange.Session.Basic

/-!
# The core of a session

Every step of a session counts and logs.  `core` leaves out what only reports on
the past, so that what a step does to the rest can be said in one equation.
-/

namespace SmbExchange.Session

variable {τ : Type} (session : Session τ)

/-- A session without its counters, its log and the mark that it has sent. -/
def core : Session τ :=
  { session with hasSent := false, metrics := .zero, events := [] }

/-- Sessions with the same core go on in the same way. -/
theorem eq_of_core_eq {left right : Session τ} (hcore : left.core = right.core) :
    left.transport = right.transport ∧ left.sink = right.sink ∧
      left.settings = right.settings ∧ left.signer = right.signer ∧
      left.sequence = right.sequence ∧ left.deliveries = right.deliveries := by
  simp only [core, Session.mk.injEq] at hcore
  obtain ⟨htransport, hsink, hsettings, -, -, hsigner, hsequence, -, -, hdeliveries, -⟩ := hcore
  exact ⟨htransport, hsink, hsettings, hsigner, hsequence, hdeliveries⟩

/-- The session after a number has been used up, which takes a signer. -/
def advance : Session τ :=
  { session with
    sequence := if session.signer.isSome then session.sequence + 1 else session.sequence }

theorem advance_of_unsigned (hsigner : session.signer = none) : session.advance = session := by
  have hnone : ¬ session.signer.isSome := by simp [hsigner]
  rw [advance, if_neg hnone]

theorem advance_of_signed {signer : Signer} (hsigner : session.signer = some signer) :
    session.advance = { session with sequence := session.sequence + 1 } := by
  have hsome : session.signer.isSome := by simp [hsigner]
  rw [advance, if_pos hsome]

end SmbExchange.Session
