import SmbExchange.Bytes.Basic
import SmbExchange.Fault

/-!
# The two ends of a byte stream

A pipe carries bytes between this end and a peer.  What the peer is going to do, and when, is on its
agenda.  Time is counted in milliseconds and moves only while somebody waits.
-/

namespace SmbExchange

inductive PeerAction where
  | send (bytes : Bytes)
  /-- Writes no more, but still reads. -/
  | shutdown
  /-- Goes away. -/
  | leave
  deriving DecidableEq, Repr

/-- A byte stream in both directions. -/
structure Pipe where
  clock : Nat
  /-- What the peer has written and nobody has read. -/
  incoming : Bytes
  /-- What this end has written and the peer has not looked at. -/
  outgoing : Bytes
  /-- The peer writes no more. -/
  ended : Bool
  /-- The peer has gone. -/
  broken : Bool
  /-- This end writes no more. -/
  closed : Bool
  /-- What the peer is going to do, each action with its time, in order. -/
  agenda : List (Nat × PeerAction)
  deriving DecidableEq, Repr

namespace Pipe

def new : Pipe :=
  ⟨0, [], [], false, false, false, []⟩

/-- The pipe after an action of the peer.  Once the peer has ended its side it writes no more, but it
can still go away. -/
def act (pipe : Pipe) (action : PeerAction) : Pipe :=
  match action with
  | .send bytes =>
    if pipe.ended then pipe else { pipe with incoming := pipe.incoming ++ bytes }
  | .shutdown => { pipe with ended := true }
  | .leave => { pipe with ended := true, broken := true }

/-- Puts an action on an agenda, behind those that are due before it or with it. -/
def enter (due : Nat) (action : PeerAction) : List (Nat × PeerAction) → List (Nat × PeerAction)
  | [] => [(due, action)]
  | first :: rest =>
    if first.1 ≤ due then first :: enter due action rest else (due, action) :: first :: rest

/-- Has the peer act after a delay, at once when there is none. -/
def schedule (pipe : Pipe) (delay : Nat) (action : PeerAction) : Pipe :=
  if delay = 0 then pipe.act action
  else { pipe with agenda := enter (pipe.clock + delay) action pipe.agenda }

/-- Lets the next action on the agenda happen, if it is due by a time. -/
def advance? (pipe : Pipe) (deadline : Nat) : Option Pipe :=
  match pipe.agenda with
  | [] => none
  | (due, action) :: rest =>
    if due ≤ deadline then
      some ({ pipe with clock := max pipe.clock due, agenda := rest }.act action)
    else none

theorem agenda_act (pipe : Pipe) (action : PeerAction) :
    (pipe.act action).agenda = pipe.agenda := by
  unfold act
  split
  · split <;> rfl
  · rfl
  · rfl

theorem length_agenda_advance {pipe after : Pipe} {deadline : Nat}
    (hadvance : pipe.advance? deadline = some after) :
    after.agenda.length < pipe.agenda.length := by
  unfold advance? at hadvance
  split at hadvance
  · simp at hadvance
  · rename_i due action rest hagenda
    split at hadvance
    · simp only [Option.some.injEq] at hadvance
      subst hadvance
      simp [agenda_act, hagenda]
    · simp at hadvance

/-- Lets time pass up to a moment. -/
def sleepUntil (pipe : Pipe) (deadline : Nat) : Pipe :=
  let due := pipe.agenda.takeWhile (·.1 ≤ deadline)
  let acted := due.foldl (fun changed entry => changed.act entry.2)
    { pipe with agenda := pipe.agenda.drop due.length }
  { acted with clock := max pipe.clock deadline }

/-- Lets time pass. -/
def sleep (pipe : Pipe) (duration : Nat) : Pipe :=
  pipe.sleepUntil (pipe.clock + duration)

def write (pipe : Pipe) (bytes : Bytes) : Except Fault Unit × Pipe :=
  if pipe.broken || pipe.closed then (.error (.stream .brokenPipe), pipe)
  else (.ok (), { pipe with outgoing := pipe.outgoing ++ bytes })

/-- What the peer has been sent since it last looked. -/
def look (pipe : Pipe) : Bytes × Pipe :=
  (pipe.outgoing, { pipe with outgoing := [] })

/-- The number of bytes that are written or on the agenda to be written. -/
def pending (pipe : Pipe) : Nat :=
  pipe.incoming.length + pipe.agenda.foldr (fun entry total =>
    match entry.2 with
    | .send bytes => bytes.length + total
    | _ => total) 0

theorem pending_advance_le {pipe after : Pipe} {deadline : Nat}
    (hadvance : pipe.advance? deadline = some after) : after.pending ≤ pipe.pending := by
  unfold advance? at hadvance
  split at hadvance
  · simp at hadvance
  · rename_i due action rest hagenda
    split at hadvance
    · simp only [Option.some.injEq] at hadvance
      subst hadvance
      unfold act
      split
      · split <;> simp [pending, hagenda, Nat.add_assoc]
      · simp [pending, hagenda]
      · simp [pending, hagenda]
    · simp at hadvance

end Pipe

end SmbExchange
