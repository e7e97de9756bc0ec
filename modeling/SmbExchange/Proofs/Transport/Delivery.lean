import SmbExchange.Transport.Basic

/-!
# What a transport delivers

A transport is asked for one message after the other.  `Delivers` says which
messages these waits come to, in order, and what the transport is after the
last of them; how the bytes travelled does not matter any more.
-/

namespace SmbExchange

namespace Transport

variable {τ : Type} [Transport τ]

/-- One wait after the other, each of the given length, comes to one message
after the other, and leaves the transport `last`. -/
def Delivers (wait : Nat) (first : τ) : List Bytes → τ → Prop
  | [], last => first = last
  | message :: messages, last =>
    (next first wait).arrival = .message message ∧
      Delivers wait (next first wait).transport messages last

theorem delivers_append {wait : Nat} {first last : τ} {messages more : List Bytes} :
    Delivers wait first (messages ++ more) last ↔
      ∃ middle, Delivers wait first messages middle ∧ Delivers wait middle more last := by
  induction messages generalizing first with
  | nil => simp [Delivers]
  | cons message messages ih =>
    simp only [List.cons_append, Delivers, ih]
    constructor
    · rintro ⟨harrival, middle, hbefore, hafter⟩
      exact ⟨middle, ⟨harrival, hbefore⟩, hafter⟩
    · rintro ⟨middle, ⟨harrival, hbefore⟩, hafter⟩
      exact ⟨harrival, middle, hbefore, hafter⟩

@[simp]
theorem transport_receive (transport : τ) (room wait : Nat) :
    (receive transport room wait).transport = (next transport wait).transport := by
  simp only [receive]
  split
  · split <;> rfl
  · rfl

theorem arrival_receive_of_fits {transport : τ} {room wait : Nat} {message : Bytes}
    (harrival : (next transport wait).arrival = .message message)
    (hfits : message.length ≤ room) :
    (receive transport room wait).arrival = .message message := by
  simp only [receive, harrival]
  rw [if_neg (by omega)]

theorem arrival_receive_of_too_long {transport : τ} {room wait : Nat} {message : Bytes}
    (harrival : (next transport wait).arrival = .message message)
    (hlong : room < message.length) :
    (receive transport room wait).arrival =
      .failed (.oversizedPacket message.length) := by
  simp only [receive, harrival]
  rw [if_pos hlong]

/-- Receiving hides nothing but a message that is too long for the room. -/
theorem arrival_receive_cases (transport : τ) (room wait : Nat) :
    (receive transport room wait).arrival = (next transport wait).arrival ∨
      ∃ message, (next transport wait).arrival = .message message ∧ room < message.length ∧
        (receive transport room wait).arrival = .failed (.oversizedPacket message.length) := by
  rw [receive]
  cases hnext : (next transport wait).arrival with
  | message message =>
    by_cases hlong : room < message.length
    · exact .inr ⟨message, rfl, hlong, by simp only [if_pos hlong]⟩
    · exact .inl (by simp only [if_neg hlong])
  | nothing => exact .inl rfl
  | failed fault => exact .inl rfl

theorem arrival_receive_of_no_message {transport : τ} {wait : Nat} (room : Nat)
    (hnone : ∀ message, (next transport wait).arrival ≠ .message message) :
    (receive transport room wait).arrival = (next transport wait).arrival := by
  rcases arrival_receive_cases transport room wait with hsame | ⟨message, hmessage, -, -⟩
  · exact hsame
  · exact absurd hmessage (hnone message)

theorem next_of_arrival_receive {transport : τ} {room wait : Nat} {message : Bytes}
    (hreceived : (receive transport room wait).arrival = .message message) :
    (next transport wait).arrival = .message message ∧ message.length ≤ room := by
  simp only [receive] at hreceived
  split at hreceived
  · rename_i found hfound
    split at hreceived
    · simp at hreceived
    · simp only [Arrival.message.injEq] at hreceived
      subst hreceived
      exact ⟨hfound, by omega⟩
  · rename_i hother
    exact (hother message hreceived).elim

end Transport

/-- A transport that hands out prepared messages, one a wait, and takes every
frame. -/
structure Replay where
  messages : List Bytes
  deriving DecidableEq, Repr

namespace Replay

/-- Hands out the next message, and nothing once there is none left. -/
def next (replay : Replay) : Waited Replay :=
  match replay.messages with
  | [] => ⟨0, .nothing, replay⟩
  | message :: messages => ⟨0, .message message, ⟨messages⟩⟩

instance : Transport Replay where
  write replay _ := (.ok (), replay)
  next replay _ := replay.next
  close replay := (.ok (), replay)
  pending replay := replay.messages.length
  pending_next_lt replay _ message harrival := by
    obtain ⟨messages⟩ := replay
    cases messages with
    | nil => simp [next] at harrival
    | cons first rest => simp [next]

theorem delivers (wait : Nat) (messages later : List Bytes) :
    Transport.Delivers wait (⟨messages ++ later⟩ : Replay) messages ⟨later⟩ := by
  induction messages with
  | nil => rfl
  | cons message messages ih => exact ⟨rfl, ih⟩

end Replay

end SmbExchange
