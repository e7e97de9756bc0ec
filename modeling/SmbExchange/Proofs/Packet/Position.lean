import SmbExchange.Proofs.Packet.Extent
import SmbExchange.Proofs.Packet.Failure
import SmbExchange.Proofs.Text.Extent

/-!
# Where the cursor can be

Packing and unpacking check a range before the cursor moves past it, and the
places that a reset goes to lie in front of the least capacity.  Rounding up to
a multiple of four is not checked.  It leaves the buffer if the cursor stands,
or the byte area starts, behind the last multiple of four that the buffer has,
and then goes to the next one.  From there the cursor goes no further, however
many operations follow.
-/

namespace SmbExchange

namespace Packet

/-- The cursor is behind the room of the session header and not behind the buffer. -/
def PositionInside (packet : Packet) : Prop :=
  headerRoom ≤ packet.position ∧ packet.position ≤ packet.capacity

instance (packet : Packet) : Decidable packet.PositionInside :=
  inferInstanceAs (Decidable (_ ∧ _))

/-- An operation that moves the cursor and is not told where to. -/
inductive Movement where
  | reset
  | resetParameterPointer
  | resetBytePointer
  | resetBytePointerAligned
  | alignBytePointer
  | pack (item : Item)
  | unpack (type : ItemType)
  | unpackText (length : Nat) (unicode : Bool)
  deriving DecidableEq, Repr

namespace Movement

/-- The packet after the operation, whether it failed or not. -/
def run (packet : Packet) : Movement → Option Packet
  | reset => some packet.reset
  | resetParameterPointer => some packet.resetParameterPointer
  | resetBytePointer => some packet.resetBytePointer
  | resetBytePointerAligned => some packet.resetBytePointerAligned
  | alignBytePointer => packet.alignBytePointer
  | pack item => (packet.packItem item).map Prod.snd
  | unpack type => (packet.unpackItem type).map Prod.snd
  | unpackText length unicode => (packet.unpackStringOfLength length unicode).map Prod.snd

/-- The packet after operations one after the other. -/
def runAll (packet : Packet) (movements : List Movement) : Option Packet :=
  movements.foldlM run packet

/-- No multiple of four lies between the place that is aligned and the end of the buffer.  The byte
area starts that late only behind all words that there can be. -/
def Overshoots (packet : Packet) : Movement → Prop
  | resetBytePointerAligned => packet.wordCount = 255 ∧ packet.capacity < 552
  | alignBytePointer => packet.capacity / 4 * 4 < packet.position
  | _ => False

/-- Where the operation puts the cursor. -/
def Lands (packet : Packet) (position : Nat) : Movement → Prop
  | reset | resetParameterPointer => position = wordsStart
  | resetBytePointer => position = packet.byteOffset
  | resetBytePointerAligned => position = alignLong packet.byteOffset
  | alignBytePointer => position = alignLong packet.position
  | pack _ | unpack _ | unpackText _ _ =>
    packet.position ≤ position ∧ position ≤ max packet.position packet.capacity

end Movement

/-! ## Packing and unpacking -/

/-- The cursor was moved over a part of the buffer, or not at all. -/
structure AdvancedTo (before after : Packet) : Prop where
  capacity_eq : after.capacity = before.capacity
  le_position : before.position ≤ after.position
  position_le : after.position ≤ max before.position before.capacity

section Advance

variable {packet : Packet}

theorem advancedTo_self (packet : Packet) : packet.AdvancedTo packet :=
  ⟨rfl, Nat.le_refl _, Nat.le_max_left _ _⟩

theorem advancedTo_position {position : Nat} (hle : packet.position ≤ position)
    (hinside : position ≤ packet.capacity) :
    packet.AdvancedTo { packet with position := position } :=
  ⟨rfl, hle, Nat.le_trans hinside (Nat.le_max_right _ _)⟩

theorem advancedTo_packItem {item : Item} {attempt : Attempt Unit}
    (hpack : packet.packItem item = some attempt) : packet.AdvancedTo attempt.2 := by
  obtain ⟨fault | ⟨⟩, packed⟩ := attempt
  · -- A padding zero that stays in the buffer does not move the cursor.
    have hrun : (Access.pack item).run packet = some (.error fault, packed) := hpack
    rw [eq_of_run_error hrun]
    split
    · exact ⟨capacity_patch packet _ _, Nat.le_refl _, Nat.le_max_left _ _⟩
    · exact packet.advancedTo_self
  · obtain ⟨rfl, hfits⟩ := packItem_eq_ok hpack
    exact ⟨capacity_patch packet _ _, Nat.le_add_right _ _,
      Nat.le_trans hfits (Nat.le_max_right _ _)⟩

theorem advancedTo_unpack (packet : Packet) (length : Nat) :
    packet.AdvancedTo (packet.unpack length).2 := by
  rw [unpack, Bytes.read]
  by_cases hfits : packet.buffer.Fits packet.position length
  · rw [if_pos hfits]
    exact advancedTo_position (Nat.le_add_right _ _) hfits
  · rw [if_neg hfits]
    exact packet.advancedTo_self

/-- A text that was read lies in the buffer with what was consumed for it. -/
theorem extent_of_textAt {start limit consumed : Nat} {unicode : Bool} {text : String}
    (hread : packet.textAt start limit unicode = .ok (text, consumed)) :
    (if unicode then 2 * (Utf16.encode text.toList).length else text.length) ≤ consumed ∧
      start + consumed ≤ packet.capacity := by
  cases unicode with
  | true => exact Bytes.extent_of_readUtf16 hread
  | false => exact Bytes.extent_of_readLatin hread

theorem le_of_textStart? {unicode : Bool} {start : Nat}
    (hstart : packet.textStart? unicode = some start) : packet.position ≤ start := by
  obtain ⟨-, rfl⟩ := textStart?_eq_some_iff.mp hstart
  exact Nat.le_add_right _ _

theorem advancedTo_unpackString {unicode : Bool} {attempt : Attempt String}
    (hunpack : packet.unpackString unicode = some attempt) : packet.AdvancedTo attempt.2 := by
  obtain ⟨start, hstart, rfl⟩ := Option.map_eq_some_iff.mp hunpack
  have hfront := le_of_textStart? hstart
  split
  · rename_i text consumed hread
    obtain ⟨-, hend⟩ := extent_of_textAt hread
    exact advancedTo_position (Nat.le_trans hfront (Nat.le_add_right _ _)) hend
  · exact packet.advancedTo_self

theorem advancedTo_unpackStringOfLength {length : Nat} {unicode : Bool}
    {attempt : Attempt String}
    (hunpack : packet.unpackStringOfLength length unicode = some attempt) :
    packet.AdvancedTo attempt.2 := by
  obtain ⟨start, hstart, rfl⟩ := Option.map_eq_some_iff.mp hunpack
  have hfront := le_of_textStart? hstart
  split
  · rename_i text consumed hread
    obtain ⟨htaken, hend⟩ := extent_of_textAt hread
    exact advancedTo_position (Nat.le_trans hfront (Nat.le_add_right _ _))
      (Nat.le_trans (Nat.add_le_add_left htaken _) hend)
  · exact packet.advancedTo_self

theorem advancedTo_unpackItem {type : ItemType} {attempt : Attempt Item}
    (hunpack : packet.unpackItem type = some attempt) : packet.AdvancedTo attempt.2 := by
  obtain ⟨length, result, rfl⟩ | ⟨unicode, found, hfound, rfl⟩ := unpackItem_cases hunpack
  · exact packet.advancedTo_unpack length
  · exact advancedTo_unpackString hfound

end Advance

/-! ## One operation -/

section Step

variable {packet : Packet}

/-- Where the next multiple of four can be computed, every operation has a result. -/
theorem exists_lands_run (haddress : packet.position + 3 < positionSpan) (movement : Movement) :
    ∃ after, movement.run packet = some after ∧ after.capacity = packet.capacity ∧
      movement.Lands packet after.position := by
  have hnext : packet.position + 1 < positionSpan := Nat.lt_of_le_of_lt (by omega) haddress
  cases movement with
  | reset => exact ⟨_, rfl, packet.capacity_reset, rfl⟩
  | resetParameterPointer => exact ⟨_, rfl, rfl, rfl⟩
  | resetBytePointer => exact ⟨_, rfl, rfl, rfl⟩
  | resetBytePointerAligned => exact ⟨_, rfl, rfl, rfl⟩
  | alignBytePointer =>
    exact ⟨_, congrArg (Option.map _) (alignLong?_of_lt haddress), rfl, rfl⟩
  | pack item =>
    obtain ⟨attempt, hpack⟩ := exists_run (.pack item) hnext trivial
    obtain ⟨hcapacity, hle, hinside⟩ := advancedTo_packItem hpack
    exact ⟨_, congrArg (Option.map _) hpack, hcapacity, hle, hinside⟩
  | unpack type =>
    obtain ⟨_, hrun⟩ := exists_run (.unpack type) hnext trivial
    obtain ⟨attempt, hunpack, -⟩ := Option.map_eq_some_iff.mp hrun
    obtain ⟨hcapacity, hle, hinside⟩ := advancedTo_unpackItem hunpack
    exact ⟨_, congrArg (Option.map _) hunpack, hcapacity, hle, hinside⟩
  | unpackText length unicode =>
    obtain ⟨_, hrun⟩ := exists_run (.unpackText length unicode) hnext trivial
    obtain ⟨attempt, hunpack, -⟩ := Option.map_eq_some_iff.mp hrun
    obtain ⟨hcapacity, hle, hinside⟩ := advancedTo_unpackStringOfLength hunpack
    exact ⟨_, congrArg (Option.map _) hunpack, hcapacity, hle, hinside⟩

/-- The byte area starts behind the last multiple of four only if it starts at the end of the least
buffer, and no more than two bytes follow. -/
theorem alignLong_byteOffset_le_iff (packet : Packet) :
    alignLong packet.byteOffset ≤ packet.capacity ↔
      ¬ (packet.wordCount = 255 ∧ packet.capacity < 552) := by
  have hminimum : 549 ≤ packet.capacity := packet.minimum_le_length
  have hsmall := packet.wordCount.toNat_lt
  have hwords : packet.wordCount = 255 ↔ packet.wordCount.toNat = 255 :=
    UInt8.toNat_inj.symm
  rw [alignLong_le_iff, hwords, byteOffset]
  omega

/-- No operation puts the cursor into the room of the session header. -/
theorem headerRoom_le_of_lands {position : Nat} {movement : Movement}
    (hfront : headerRoom ≤ packet.position) (hlands : movement.Lands packet position) :
    headerRoom ≤ position := by
  have hlow : headerRoom ≤ packet.byteOffset := Nat.le_trans (by decide) packet.le_byteOffset
  cases movement with
  | reset | resetParameterPointer =>
    obtain rfl : position = wordsStart := hlands
    decide
  | resetBytePointer =>
    obtain rfl : position = packet.byteOffset := hlands
    exact hlow
  | resetBytePointerAligned =>
    obtain rfl : position = alignLong packet.byteOffset := hlands
    exact Nat.le_trans hlow (le_alignLong _)
  | alignBytePointer =>
    obtain rfl : position = alignLong packet.position := hlands
    exact Nat.le_trans hfront (le_alignLong _)
  | pack item | unpack type | unpackText length unicode => exact Nat.le_trans hfront hlands.1

theorem positionInside_run (hspan : packet.capacity + 6 < positionSpan)
    (hinside : packet.PositionInside) (movement : Movement) :
    ∃ after, movement.run packet = some after ∧
      (after.PositionInside ↔ ¬ movement.Overshoots packet) := by
  have hminimum : 549 ≤ packet.capacity := packet.minimum_le_length
  have hoffset := packet.byteOffset_le
  obtain ⟨hfront, hback⟩ := hinside
  have haddress : packet.position + 3 < positionSpan := by omega
  obtain ⟨after, hrun, hcapacity, hlands⟩ := exists_lands_run haddress movement
  refine ⟨after, hrun, ?_⟩
  rw [PositionInside, hcapacity, and_iff_right (headerRoom_le_of_lands hfront hlands)]
  generalize after.position = position at hlands
  cases movement with
  | reset | resetParameterPointer =>
    obtain rfl : position = wordsStart := hlands
    exact iff_of_true (Nat.le_trans (by decide) hminimum) id
  | resetBytePointer =>
    obtain rfl : position = packet.byteOffset := hlands
    exact iff_of_true (Nat.le_trans hoffset hminimum) id
  | resetBytePointerAligned =>
    obtain rfl : position = alignLong packet.byteOffset := hlands
    exact packet.alignLong_byteOffset_le_iff
  | alignBytePointer =>
    obtain rfl : position = alignLong packet.position := hlands
    rw [Movement.Overshoots, Nat.not_lt]
    exact alignLong_le_iff
  | pack item | unpack type | unpackText length unicode =>
    exact iff_of_true (Nat.le_trans hlands.2 (Nat.max_le.mpr ⟨hback, Nat.le_refl _⟩)) id

/-! ## Any number of operations -/

/-- The cursor is behind the room of the session header and not behind the multiple of four at or
behind the end of the buffer. -/
structure PositionNear (packet : Packet) : Prop where
  headerRoom_le : headerRoom ≤ packet.position
  le_alignLong : packet.position ≤ alignLong packet.capacity

theorem positionNear_of_positionInside (hinside : packet.PositionInside) : packet.PositionNear :=
  ⟨hinside.1, Nat.le_trans hinside.2 (le_alignLong _)⟩

theorem positionNear_run (hspan : packet.capacity + 6 < positionSpan)
    (hnear : packet.PositionNear) (movement : Movement) :
    ∃ after, movement.run packet = some after ∧ after.capacity = packet.capacity ∧
      after.PositionNear := by
  have hminimum : 549 ≤ packet.capacity := packet.minimum_le_length
  have hoffset := packet.byteOffset_le
  have hend := alignLong_lt packet.capacity
  have hroom := le_alignLong packet.capacity
  obtain ⟨hfront, hback⟩ := hnear
  have haddress : packet.position + 3 < positionSpan := by omega
  obtain ⟨after, hrun, hcapacity, hlands⟩ := exists_lands_run haddress movement
  refine ⟨after, hrun, hcapacity, headerRoom_le_of_lands hfront hlands, ?_⟩
  rw [hcapacity]
  generalize after.position = position at hlands
  cases movement with
  | reset | resetParameterPointer =>
    obtain rfl : position = wordsStart := hlands
    exact Nat.le_trans (Nat.le_trans (by decide) hminimum) hroom
  | resetBytePointer =>
    obtain rfl : position = packet.byteOffset := hlands
    exact Nat.le_trans (Nat.le_trans hoffset hminimum) hroom
  | resetBytePointerAligned =>
    obtain rfl : position = alignLong packet.byteOffset := hlands
    exact alignLong_le_alignLong (Nat.le_trans (Nat.le_trans hoffset hminimum) hroom)
  | alignBytePointer =>
    obtain rfl : position = alignLong packet.position := hlands
    exact alignLong_le_alignLong hback
  | pack item | unpack type | unpackText length unicode =>
    exact Nat.le_trans hlands.2 (Nat.max_le.mpr ⟨hback, hroom⟩)

theorem positionNear_runAll (hspan : packet.capacity + 6 < positionSpan)
    (hnear : packet.PositionNear) (movements : List Movement) :
    ∃ last, Movement.runAll packet movements = some last ∧ last.capacity = packet.capacity ∧
      last.PositionNear := by
  induction movements generalizing packet with
  | nil => exact ⟨packet, rfl, rfl, hnear⟩
  | cons movement movements ih =>
    obtain ⟨after, hrun, hcapacity, hstill⟩ := positionNear_run hspan hnear movement
    obtain ⟨last, hrest, hsame, hlast⟩ := ih (hcapacity ▸ hspan) hstill
    refine ⟨last, ?_, hsame.trans hcapacity, hlast⟩
    rw [Movement.runAll, List.foldlM_cons, hrun]
    exact hrest

end Step

/-- One operation keeps the cursor inside the buffer unless it aligns it behind the last multiple
of four.  Any number of operations keep it from passing the next one, so in a buffer of a length
that is divisible by four it never leaves.  No buffer takes up more than half of the addresses. -/
theorem positionInside_run_iff (packet : Packet) (hcapacity : packet.capacity < 0x8000000000000000)
    (hinside : packet.PositionInside) :
    (∀ movement : Movement, ∃ after, movement.run packet = some after ∧
      (after.PositionInside ↔ ¬ movement.Overshoots packet)) ∧
    ∀ movements : List Movement, ∃ last, Movement.runAll packet movements = some last ∧
      headerRoom ≤ last.position ∧ last.position ≤ alignLong packet.capacity := by
  have hspan : packet.capacity + 6 < positionSpan :=
    Nat.lt_of_le_of_lt (Nat.add_le_add_right (Nat.le_of_lt hcapacity) 6) (by decide)
  refine ⟨positionInside_run hspan hinside, fun movements => ?_⟩
  obtain ⟨last, hrun, hsame, hnear⟩ :=
    positionNear_runAll hspan (positionNear_of_positionInside hinside) movements
  exact ⟨last, hrun, hnear.headerRoom_le, hsame ▸ hnear.le_alignLong⟩

/-- A packet of the least capacity with all words that there can be. -/
def fullOfWords : Packet :=
  (blank minimumCapacity (Nat.le_refl _)).set .wordCount 255

theorem positionInside_run_iff_fullOfWords :
    fullOfWords.capacity < 0x8000000000000000 ∧ fullOfWords.PositionInside ∧
      (∃ after, Movement.run fullOfWords .resetBytePointer = some after ∧ after.PositionInside) ∧
      (∃ after, Movement.run fullOfWords .resetBytePointerAligned = some after ∧
        ¬ after.PositionInside ∧ after.position = 552) ∧
      ∃ last, Movement.runAll fullOfWords [.resetBytePointerAligned, .pack (.byte 1),
        .alignBytePointer] = some last ∧ last.position ≤ alignLong fullOfWords.capacity := by
  have hcapacity : fullOfWords.capacity < 0x8000000000000000 := by decide +kernel
  have hinside : fullOfWords.PositionInside := by decide +kernel
  obtain ⟨hstep, hrun⟩ := positionInside_run_iff fullOfWords hcapacity hinside
  have hovershoots : Movement.Overshoots fullOfWords .resetBytePointerAligned := by
    change _ ∧ _
    decide +kernel
  obtain ⟨reset, hreset, hresetInside⟩ := hstep .resetBytePointer
  obtain ⟨_, hsome, hafter⟩ := hstep .resetBytePointerAligned
  obtain rfl := Option.some.inj hsome
  obtain ⟨last, hlast, -, hback⟩ := hrun [.resetBytePointerAligned, .pack (.byte 1),
    .alignBytePointer]
  exact ⟨hcapacity, hinside, ⟨reset, hreset, hresetInside.mpr id⟩,
    ⟨_, rfl, fun hstill => hafter.mp hstill hovershoots, by decide +kernel⟩, last, hlast, hback⟩

theorem resetBytePointerAligned_leaves_buffer :
    ¬ ∀ (packet after : Packet) (movement : Movement), packet.capacity < 0x8000000000000000 →
      packet.PositionInside → movement.run packet = some after → after.PositionInside := by
  intro hkept
  have hafter := hkept fullOfWords _ .resetBytePointerAligned (by decide +kernel)
    (by decide +kernel) rfl
  exact absurd hafter (by decide +kernel)

end Packet

end SmbExchange
