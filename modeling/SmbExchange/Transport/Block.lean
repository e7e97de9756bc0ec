/-!
# The block that a reader reads into

A reader keeps its bytes in a block of memory, and one read takes no more than fits behind them.
Bytes that have been taken off leave a gap in front.  When there is no room left, the bytes move
into the gap if it is at least as long as they are; otherwise the block becomes twice as large, or
larger still if that does not do.
-/

namespace SmbExchange

structure Block where
  /-- The gap in front of the bytes. -/
  gap : Nat
  size : Nat
  deriving DecidableEq, Repr

namespace Block

def new : Block :=
  ⟨0, 8192⟩

def room (block : Block) (kept : Nat) : Nat :=
  block.size - (block.gap + kept)

/-- The block after bytes have been taken off in front. -/
def takeOff (block : Block) (count : Nat) : Block :=
  { block with gap := block.gap + count }

def reserve (block : Block) (kept more : Nat) : Block :=
  if more ≤ block.room kept then block
  else if kept + more ≤ block.size ∧ kept ≤ block.gap then { block with gap := 0 }
  else { block with size := max (2 * block.size) (block.gap + kept + more) }

/-- Reserving makes the room that is asked for. -/
theorem le_room_reserve (block : Block) (kept more : Nat) :
    more ≤ (block.reserve kept more).room kept := by
  unfold reserve
  split
  · assumption
  · split <;> simp only [room] <;> omega

end Block

end SmbExchange
