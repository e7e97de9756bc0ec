/-!
# Aligned positions

A position is a machine word of sixty-four bits, and so is every number on the way to one.  A sum or
a product that such a word cannot hold has no result, and neither has what asked for it: `inSpan?`
is `none`, and the operation ends there, with no packet after it.  Positions in front of a message's
byte area are far below that, and are rounded up by `alignLong` without a check.
-/

namespace SmbExchange

/-- The number of positions that a machine word can hold. -/
def positionSpan : Nat := UInt64.size

/-- A number that was computed, if a machine word holds it. -/
def inSpan? (number : Nat) : Option Nat :=
  if number < positionSpan then some number else none

/-- The next even position. -/
def alignWord? (position : Nat) : Option Nat :=
  (inSpan? (position + 1)).map fun above => above / 2 * 2

/-- The next multiple of four, in numbers without bound. -/
def alignLong (position : Nat) : Nat :=
  (position + 3) / 4 * 4

/-- The next position divisible by four. -/
def alignLong? (position : Nat) : Option Nat :=
  (inSpan? (position + 3)).map fun _ => alignLong position

theorem inSpan?_of_lt {number : Nat} (hnumber : number < positionSpan) :
    inSpan? number = some number :=
  if_pos hnumber

theorem inSpan?_eq_some_iff {number found : Nat} :
    inSpan? number = some found ↔ number < positionSpan ∧ found = number := by
  rw [inSpan?]
  split
  · rw [Option.some_inj]
    omega
  · exact iff_of_false nofun (by omega)

theorem inSpan?_eq_none_iff {number : Nat} : inSpan? number = none ↔ positionSpan ≤ number := by
  rw [inSpan?]
  split
  · exact iff_of_false nofun (by omega)
  · exact iff_of_true rfl (by omega)

theorem alignWord?_eq_some_iff {position aligned : Nat} :
    alignWord? position = some aligned ↔
      position + 1 < positionSpan ∧ aligned = position + position % 2 := by
  rw [alignWord?, inSpan?]
  split
  · rw [Option.map_some, Option.some_inj]
    omega
  · exact iff_of_false nofun (by omega)

theorem alignLong?_of_lt {position : Nat} (hposition : position + 3 < positionSpan) :
    alignLong? position = some (alignLong position) := by
  rw [alignLong?, inSpan?_of_lt hposition, Option.map_some]

theorem alignLong_le_iff {position bound : Nat} :
    alignLong position ≤ bound ↔ position ≤ bound / 4 * 4 := by
  rw [alignLong]
  omega

/-- The next multiple of four is not behind one that is at or behind the position. -/
theorem alignLong_le_alignLong {position bound : Nat} (hposition : position ≤ alignLong bound) :
    alignLong position ≤ alignLong bound := by
  rw [alignLong] at hposition ⊢
  rw [alignLong]
  omega

theorem le_alignLong (position : Nat) : position ≤ alignLong position := by
  rw [alignLong]
  omega

theorem alignLong_lt (position : Nat) : alignLong position < position + 4 := by
  rw [alignLong]
  omega

end SmbExchange
