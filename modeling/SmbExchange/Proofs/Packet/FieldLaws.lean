import SmbExchange.Proofs.Packet.Fields

/-!
# Laws of the header fields

The header fields are read and written like the fields of a record, but for four of them, which lie
inside a larger one.  A field holds what was set last, sets of fields that are apart can be made in
either order, and a field inside another one is just those bytes of it.
-/

namespace SmbExchange

open LittleEndian (decode encode span decode_encode decode_lt_of_length encode_decode encode_mod
  length_encode)

namespace HeaderField

/-- Where in the outer field the inner one starts, for the fields that overlap by intention. -/
def placeIn? : (inner outer : HeaderField) → Option Nat
  | errorClass, longErrorCode => some 0
  | errorCode, longErrorCode => some 2
  | sessionId, signature => some 4
  | sequenceNumber, signature => some 6
  | _, _ => none

/-- No other two fields overlap. -/
theorem apart_iff (left right : HeaderField) :
    left.Apart right ↔
      left ≠ right ∧ left.placeIn? right = none ∧ right.placeIn? left = none := by
  -- Nothing but the table of ranges says which fields overlap, so every pair is compared.
  cases left <;> cases right <;> decide

theorem offset_of_placeIn? {inner outer : HeaderField} {place : Nat}
    (hplace : inner.placeIn? outer = some place) :
    inner.offset = outer.offset + place ∧ place + inner.width ≤ outer.width := by
  unfold placeIn? at hplace
  split at hplace <;> cases hplace <;> decide

theorem marker_le_offset (field : HeaderField) : Packet.headerRoom + 4 ≤ field.offset := by
  cases field <;> decide

end HeaderField

namespace Packet

variable (packet : Packet) (field : HeaderField)

/-! ## What the fields show -/

def shown : HeaderField → Nat
  | .command => packet.command.toNat
  | .errorClass => packet.errorClass.toNat
  | .errorCode => packet.errorCode.toNat
  | .longErrorCode => packet.longErrorCode.toNat
  | .flags => packet.flags.toNat
  | .flags2 => packet.flags2.toNat
  | .processIdHigh => packet.processIdHigh.toNat
  | .signature => packet.signature.toNat
  | .sessionId => packet.sessionId.toNat
  | .sequenceNumber => packet.sequenceNumber.toNat
  | .treeId => packet.treeId.toNat
  | .processId => packet.processId.toNat
  | .userId => packet.userId.toNat
  | .multiplexId => packet.multiplexId.toNat
  | .wordCount => packet.wordCount.toNat

theorem length_slice_field :
    (packet.buffer.slice field.offset field.width).length = field.width := by
  have hfield := field.offset_add_width_le_wordsStart
  have hminimum := packet.minimum_le_length
  rw [wordsStart] at hfield
  rw [Bytes.length_slice]
  omega

theorem get_lt : packet.get field < span field.width :=
  decode_lt_of_length (packet.length_slice_field field)

/-- The type of each accessor is as wide as its field. -/
theorem shown_eq_get : packet.shown field = packet.get field := by
  have hbound := packet.get_lt field
  cases field with
  | command | errorClass | errorCode | flags | wordCount => exact UInt8.toNat_ofNat_of_lt' hbound
  | longErrorCode => exact UInt32.toNat_ofNat_of_lt' hbound
  | signature => exact UInt64.toNat_ofNat_of_lt' hbound
  | flags2 | processIdHigh | sessionId | sequenceNumber | treeId | processId | userId
  | multiplexId => exact UInt16.toNat_ofNat_of_lt' hbound

/-- The bytes of the number that the field shows. -/
def fieldBytes : Bytes :=
  encode field.width (packet.shown field)

theorem fieldBytes_eq_slice :
    packet.fieldBytes field = packet.buffer.slice field.offset field.width := by
  have hlength := packet.length_slice_field field
  have hencoded := encode_decode (packet.buffer.slice field.offset field.width)
  rw [hlength] at hencoded
  rw [fieldBytes, shown_eq_get, get, hencoded]

/-! ## Setting fields -/

def assign (value : Nat) : Packet :=
  match field with
  | .command => packet.setCommand (UInt8.ofNat value)
  | other => packet.set other value

/-- All setters write the field, and that of the command also sets what is expected. -/
theorem assign_eq (value : Nat) :
    packet.assign field value = (packet.set field value).expect
      (if field = .command then UInt8.ofNat value else packet.expectedCommand) := by
  cases field with
  | command =>
    have hencoded : encode 1 (UInt8.ofNat value).toNat = encode 1 value := by
      rw [UInt8.toNat_ofNat']
      exact encode_mod 1 value
    rw [assign, setCommand, set, set]
    exact congrArg (fun bytes => (packet.patch 8 bytes).expect (UInt8.ofNat value)) hencoded
  | _ => rfl

theorem buffer_assign (value : Nat) :
    (packet.assign field value).buffer = (packet.set field value).buffer := by
  rw [assign_eq]
  rfl

theorem changedWithin_assign (value : Nat) :
    packet.buffer.ChangedWithin (packet.assign field value).buffer field.offset
      (field.offset + field.width) := by
  rw [buffer_assign]
  exact packet.changedWithin_set field value

theorem fieldBytes_assign (value : Nat) :
    (packet.assign field value).fieldBytes field = encode field.width value := by
  rw [fieldBytes_eq_slice, buffer_assign, slice_set_self]

theorem shown_assign {value : Nat} (hvalue : value < span field.width) :
    (packet.assign field value).shown field = value := by
  have hnumbers := congrArg decode (packet.fieldBytes_assign field value)
  rwa [fieldBytes, decode_encode, decode_encode, Nat.mod_eq_of_lt hvalue, shown_eq_get,
    Nat.mod_eq_of_lt (get_lt _ field), ← shown_eq_get] at hnumbers

theorem shown_assign_of_apart {other : HeaderField} (value : Nat) (happart : field.Apart other) :
    (packet.assign field value).shown other = packet.shown other := by
  rw [shown_eq_get, shown_eq_get, get, get,
    (packet.changedWithin_assign field value).slice_eq happart.symm]

theorem set_comm {left right : HeaderField} (happart : left.Apart right) (first second : Nat) :
    (packet.set left first).set right second = (packet.set right second).set left first := by
  simp only [set, patch]
  congr 1
  apply Bytes.patch_comm
  rwa [length_encode, length_encode]

theorem assign_assign (left right : HeaderField) (first second : Nat) :
    (packet.assign left first).assign right second =
      ((packet.set left first).set right second).expect
        (if right = .command then UInt8.ofNat second
          else if left = .command then UInt8.ofNat first else packet.expectedCommand) := by
  rw [assign_eq, assign_eq]
  rfl

theorem assign_comm {left right : HeaderField} (happart : left.Apart right) (first second : Nat) :
    (packet.assign left first).assign right second =
      (packet.assign right second).assign left first := by
  rw [assign_assign, assign_assign, packet.set_comm happart]
  congr 1
  -- The expected command is set by at most one of the two.
  by_cases hleft : left = .command
  · have hdiffer : left ≠ right := ((left.apart_iff right).mp happart).1
    have hright : right ≠ .command := fun hright => hdiffer (hleft.trans hright.symm)
    rw [if_neg hright, if_pos hleft, if_pos hleft]
  · rw [if_neg hleft, if_neg hleft]

/-! ## Fields inside fields -/

section Inside

variable {inner outer : HeaderField} {place : Nat} (hplace : inner.placeIn? outer = some place)

include hplace

/-- The inner field is read from its place in the outer one. -/
theorem slice_fieldBytes :
    (packet.fieldBytes outer).slice place inner.width = packet.fieldBytes inner := by
  obtain ⟨hoffset, hinside⟩ := HeaderField.offset_of_placeIn? hplace
  rw [fieldBytes_eq_slice, fieldBytes_eq_slice, Bytes.slice_slice hinside, hoffset]

/-- Setting the inner field writes over its place in the outer one. -/
theorem fieldBytes_assign_inside (value : Nat) :
    (packet.assign inner value).fieldBytes outer =
      (packet.fieldBytes outer).patch place (encode inner.width value) := by
  obtain ⟨hoffset, hinside⟩ := HeaderField.offset_of_placeIn? hplace
  have hfield := outer.offset_add_width_le_wordsStart
  have hminimum := packet.minimum_le_length
  rw [wordsStart] at hfield
  rw [fieldBytes_eq_slice, fieldBytes_eq_slice, buffer_assign, set, patch, hoffset,
    Bytes.slice_patch_around (by rwa [length_encode]) (by omega)]

/-- Setting the outer field sets the inner one to its part of the number. -/
theorem fieldBytes_assign_around (value : Nat) :
    (packet.assign outer value).fieldBytes inner =
      (encode outer.width value).slice place inner.width := by
  rw [← slice_fieldBytes _ hplace, fieldBytes_assign]

end Inside

/-- Each header field is a field of its own, but for the four that lie inside a larger one.  These
are the bytes of the larger one from their place on, whichever of the two is set. -/
theorem headerFields_lawful (packet : Packet) (field : HeaderField) :
    (∀ other, field.Apart other ↔
      field ≠ other ∧ field.placeIn? other = none ∧ other.placeIn? field = none) ∧
    (∀ value < span field.width,
      (packet.assign field value).shown field = value ∧
      (∀ other, field.Apart other →
        (packet.assign field value).shown other = packet.shown other) ∧
      (packet.assign field value).buffer.slice headerRoom 4 = packet.buffer.slice headerRoom 4 ∧
      (packet.assign field value).buffer.drop wordsStart = packet.buffer.drop wordsStart ∧
      packet.buffer.ChangedWithin (packet.assign field value).buffer field.offset
        (field.offset + field.width)) ∧
    (∀ other value otherValue, field.Apart other →
      (packet.assign field value).assign other otherValue =
        (packet.assign other otherValue).assign field value) ∧
    ∀ outer place, field.placeIn? outer = some place →
      (packet.fieldBytes outer).slice place field.width = packet.fieldBytes field ∧
      ∀ value,
        (packet.assign field value).fieldBytes outer =
          (packet.fieldBytes outer).patch place (encode field.width value) ∧
        (packet.assign outer value).fieldBytes field =
          (encode outer.width value).slice place field.width := by
  refine ⟨field.apart_iff, fun value hvalue => ?_,
    fun other value otherValue happart => packet.assign_comm happart value otherValue,
    fun outer place hplace => ⟨packet.slice_fieldBytes hplace, fun value =>
      ⟨packet.fieldBytes_assign_inside hplace value, packet.fieldBytes_assign_around hplace value⟩⟩⟩
  have hchanged := packet.changedWithin_assign field value
  exact ⟨packet.shown_assign field hvalue,
    fun other happart => packet.shown_assign_of_apart field value happart,
    hchanged.slice_eq (.inl field.marker_le_offset),
    hchanged.drop_eq field.offset_add_width_le_wordsStart, hchanged⟩

/-- A code written into the middle of a longer status. -/
theorem headerFields_lawful_code_in_status :
    let packet := (blank 549 (by decide)).set .longErrorCode 0xC0000022
    let coded := packet.assign .errorCode 5
    coded.shown .errorCode = 5 ∧ coded.shown .errorClass = packet.shown .errorClass ∧
      coded.assign .command 0x2B = (packet.assign .command 0x2B).assign .errorCode 5 ∧
      (packet.fieldBytes .longErrorCode).slice 2 1 = packet.fieldBytes .errorCode ∧
      coded.fieldBytes .longErrorCode = [0x22, 0, 5, 0xC0] := by
  intro packet coded
  obtain ⟨-, hset, hcomm, hinside⟩ := headerFields_lawful packet .errorCode
  obtain ⟨hshown, happart, -⟩ := hset 5 (by decide)
  obtain ⟨hslice, houter⟩ := hinside .longErrorCode 2 rfl
  refine ⟨hshown, happart .errorClass (by decide), hcomm .command 5 0x2B (by decide), hslice,
    (houter 5).1.trans ?_⟩
  decide +kernel

end Packet

end SmbExchange
