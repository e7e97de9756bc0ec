import SmbExchange.Proofs.Packet.Addressing
import SmbExchange.Proofs.Text.Inverse

/-!
# Texts of a bounded length

Where a text is read with a limit, the cursor is moved by the units of the text
that came out, and not by what was read.  Both are the same, whatever the
surrogates: one that has no partner is replaced by a single unit, and a pair
becomes a character of two.  So the cursor stands behind the units in front of
the first zero, and the terminator is left over.
-/

namespace SmbExchange

open Packet (textUnits unitWidth)

namespace Bytes

def wholeUnits (buffer : Bytes) (offset : Nat) (unicode : Bool) : List Nat :=
  (List.range ((buffer.length - offset) / unitWidth unicode)).map (buffer.unitAt offset unicode)

/-- The units in front of the first that is zero, `limit` of them at most. -/
def unitsRead (buffer : Bytes) (offset limit : Nat) (unicode : Bool) : List Nat :=
  ((buffer.wholeUnits offset unicode).takeWhile (· != 0)).take limit

section Units

variable {buffer : Bytes} {offset limit : Nat} {unicode : Bool} {units : List Nat} {rest : Bytes}
variable {ending : Utf16.Ending}

/-- The units of a text come first, and then those that stand behind it. -/
theorem wholeUnits_eq_append (hdrop : buffer.drop offset = Units.toBytes units unicode ++ rest)
    (hlegible : Units.Legible units unicode) :
    buffer.wholeUnits offset unicode =
      units ++ (List.range (rest.length / unitWidth unicode)).map fun index =>
        buffer.unitAt offset unicode (units.length + index) := by
  have hlengths := congrArg List.length hdrop
  rw [List.length_drop, List.length_append, Units.length_toBytes] at hlengths
  rw [wholeUnits, hlengths, Nat.mul_add_div (unitWidth_pos unicode), List.range_add,
    List.map_append, map_unitAt_range hdrop hlegible, List.map_map]
  rfl

theorem takeWhile_units (hlegible : Units.Legible units unicode) (others : List Nat) :
    (units ++ others).takeWhile (· != 0) = units ++ others.takeWhile (· != 0) :=
  List.takeWhile_append_of_pos fun unit hunit => bne_iff_ne.mpr (hlegible.ne_zero unit hunit)

theorem unitsRead_of_endsBefore
    (hdrop : buffer.drop offset = Units.toBytes units unicode ++ rest)
    (hlegible : Units.Legible units unicode)
    (hends : EndsBefore unicode limit units.length rest ending) :
    buffer.unitsRead offset limit unicode = units := by
  rw [unitsRead, wholeUnits_eq_append hdrop hlegible, takeWhile_units hlegible]
  cases ending with
  | terminator =>
    obtain ⟨hlimit, behind, rfl⟩ := hends
    have hcount : (zeros (unitWidth unicode) ++ behind).length / unitWidth unicode =
        behind.length / unitWidth unicode + 1 := by
      rw [List.length_append, length_zeros, Nat.add_div_left _ (unitWidth_pos unicode)]
    rw [hcount, List.range_succ_eq_map, List.map_cons, Nat.add_zero, unitAt_of_terminator hdrop,
      List.takeWhile_cons_of_neg (by decide), List.append_nil,
      List.take_of_length_le (Nat.le_of_lt hlimit)]
  | limit =>
    obtain rfl : units.length = limit := hends
    exact List.take_left
  | exhausted =>
    obtain ⟨hlimit, hshort⟩ := hends
    rw [Nat.div_eq_of_lt hshort, List.range_zero, List.map_nil, List.takeWhile_nil,
      List.append_nil, List.take_of_length_le (Nat.le_of_lt hlimit)]

/-- A text that is read is what the units are worth that stand in front of its end. -/
theorem eq_toText_of_readText {consumed : Nat} {text : String}
    (hread : buffer.readText offset limit unicode = .ok (text, consumed)) :
    text = Units.toText (buffer.unitsRead offset limit unicode) unicode := by
  obtain ⟨units, rest, ending, hdrop, hlegible, hends, hgives⟩ :=
    exists_gives (le_length_of_readText hread) limit unicode
  rw [unitsRead_of_endsBefore hdrop hlegible hends]
  cases ending with
  | terminator | limit =>
    rw [Gives, hread] at hgives
    cases hgives
    rfl
  | exhausted =>
    obtain ⟨fault, hfault⟩ := hgives
    rw [hfault] at hread
    cases hread

end Units

end Bytes

namespace Packet

/-- A text of at most `length` units is what the units at the cursor are worth, up to the first
zero, and the cursor is moved behind just these units. -/
structure PassesUnits (packet : Packet) (length : Nat) (unicode : Bool) : Prop where
  overflows_iff : packet.unpackStringOfLength length unicode = none ↔
    unicode = true ∧ positionSpan ≤ packet.position + 1
  fails_iff :
    (∃ fault after, packet.unpackStringOfLength length unicode = some (.error fault, after)) ↔
      ¬ (unicode = true ∧ positionSpan ≤ packet.position + 1) ∧
        (packet.capacity < exactStart packet.position unicode ∨
          packet.buffer.Exhausts (exactStart packet.position unicode) length unicode)
  unpacked : ∀ text after, packet.unpackStringOfLength length unicode = some (.ok text, after) →
    text = Units.toText
      (packet.buffer.unitsRead (exactStart packet.position unicode) length unicode) unicode ∧
    after = { packet with
      position := exactStart packet.position unicode + unitWidth unicode *
        (packet.buffer.unitsRead (exactStart packet.position unicode) length unicode).length }

section Unpack

variable {packet : Packet} {unicode : Bool} {start : Nat}

/-- The cursor is moved by the units of the text. -/
theorem unpackStringOfLength_eq (hstart : packet.textStart? unicode = some start)
    (length : Nat) :
    packet.unpackStringOfLength length unicode =
      match packet.buffer.readText start length unicode with
      | .ok (text, _) => some (.ok text, { packet with
          position := start + unitWidth unicode * textUnits text unicode })
      | .error fault => some (.error fault, packet) := by
  rw [unpackStringOfLength, hstart, Option.map_some, textAt_eq_readText]
  cases hread : packet.buffer.readText start length unicode with
  | error fault => rfl
  | ok found =>
    cases unicode with
    | true => rfl
    | false => simp only [unitWidth, textUnits, Nat.one_mul]; rfl

/-- A text that was unpacked had a start. -/
theorem textStart?_of_unpackStringOfLength {length : Nat} {attempt : Attempt String}
    (hunpack : packet.unpackStringOfLength length unicode = some attempt) :
    packet.textStart? unicode = some (exactStart packet.position unicode) := by
  obtain ⟨start, hstart, -⟩ := Option.map_eq_some_iff.mp hunpack
  rw [hstart]
  exact congrArg some (textStart?_eq_some_iff.mp hstart).2

/-- It fails where reading at its start fails. -/
theorem unpackStringOfLength_fails_iff (hstart : packet.textStart? unicode = some start)
    (length : Nat) :
    (∃ fault after, packet.unpackStringOfLength length unicode = some (.error fault, after)) ↔
      packet.capacity < start ∨ packet.buffer.Exhausts start length unicode := by
  rw [capacity, ← Bytes.readText_fails_iff, unpackStringOfLength_eq hstart]
  cases packet.buffer.readText start length unicode with
  | error fault => exact iff_of_true ⟨fault, packet, rfl⟩ ⟨fault, rfl⟩
  | ok found =>
    refine iff_of_false ?_ ?_
    · rintro ⟨fault, after, hfault⟩
      cases hfault
    · rintro ⟨fault, hfault⟩
      cases hfault

theorem passesUnits (packet : Packet) (length : Nat) (unicode : Bool) :
    packet.PassesUnits length unicode := by
  have hnone : packet.unpackStringOfLength length unicode = none ↔
      unicode = true ∧ positionSpan ≤ packet.position + 1 :=
    Option.map_eq_none_iff.trans textStart?_eq_none_iff
  refine ⟨hnone, ?_, ?_⟩
  · by_cases hlast : unicode = true ∧ positionSpan ≤ packet.position + 1
    · rw [hnone.mpr hlast]
      refine iff_of_false ?_ fun hfails => hfails.1 hlast
      rintro ⟨fault, after, hfault⟩
      cases hfault
    · have hstart : packet.textStart? unicode = some (exactStart packet.position unicode) :=
        textStart?_eq_some_iff.mpr
          ⟨fun hunicode => Nat.lt_of_not_le fun hspan => hlast ⟨hunicode, hspan⟩, rfl⟩
      rw [and_iff_right hlast]
      exact unpackStringOfLength_fails_iff hstart length
  · intro text after hunpack
    rw [unpackStringOfLength_eq (textStart?_of_unpackStringOfLength hunpack)] at hunpack
    cases hread : packet.buffer.readText (exactStart packet.position unicode) length unicode with
    | error fault =>
      simp only [hread] at hunpack
      cases hunpack
    | ok found =>
      obtain ⟨found, consumed⟩ := found
      simp only [hread] at hunpack
      cases hunpack
      have htext := Bytes.eq_toText_of_readText hread
      have hunits := congrArg (textUnits · unicode) htext
      simp only [Units.textUnits_toText] at hunits
      exact ⟨htext, by rw [hunits]⟩

end Unpack

/-- Decoding replaces what it cannot decode unit by unit.  So wherever the cursor stands, and
whatever the buffer holds, it is moved behind the units that were read. -/
theorem cursor_behind_units :
    (∀ units : List UInt16, textUnits (String.ofList (Utf16.decode units)) true = units.length) ∧
      ∀ (packet : Packet) (length : Nat) (unicode : Bool), packet.PassesUnits length unicode := by
  refine ⟨fun units => ?_, passesUnits⟩
  rw [textUnits, String.toList_ofList, Utf16.length_encode_decode]

/-- Two surrogates the wrong way round, a letter, a surrogate without its partner, a terminator and
another letter, at an even position behind the cursor. -/
def reversedSurrogates : Packet :=
  ((blank minimumCapacity (Nat.le_refl _)).patch 42
    [0x00, 0xDC, 0x00, 0xD8, 0x61, 0x00, 0x00, 0xD8, 0x00, 0x00, 0x7A, 0x00]).setPosition 41

theorem cursor_behind_units_reversedSurrogates :
    ∃ after, reversedSurrogates.unpackStringOfLength 8 true =
      some (.ok "\uFFFD\uFFFDa\uFFFD", after) ∧ after.position = 50 := by
  have hpasses := cursor_behind_units.2 reversedSurrogates 8 true
  have hunits : reversedSurrogates.buffer.unitsRead
      (exactStart reversedSurrogates.position true) 8 true = [0xDC00, 0xD800, 0x61, 0xD800] := by
    decide +kernel
  have hok : ((reversedSurrogates.unpackStringOfLength 8 true).any (·.1.isOk)) = true := by
    decide +kernel
  rcases hunpack : reversedSurrogates.unpackStringOfLength 8 true with _ | ⟨fault | text, after⟩
  · rw [hunpack] at hok
    cases hok
  · rw [hunpack] at hok
    cases hok
  · obtain ⟨rfl, rfl⟩ := hpasses.unpacked text after hunpack
    rw [hunits]
    exact ⟨_, rfl, rfl⟩

end Packet

end SmbExchange
