import SmbExchange.Packet.Header
import SmbExchange.Proofs.Bytes.Changes

/-!
# Setting header fields

A header field is a range of bytes.  Setting it writes these bytes and no
others, so fields whose ranges are apart do not see each other.  After any
number of settings a field holds what was last written to it, provided that
nothing written later overlaps it.
-/

namespace SmbExchange

open LittleEndian (encode)

namespace HeaderField

/-- No byte belongs to both fields. -/
def Apart (left right : HeaderField) : Prop :=
  left.offset + left.width ≤ right.offset ∨ right.offset + right.width ≤ left.offset

instance (left right : HeaderField) : Decidable (left.Apart right) :=
  inferInstanceAs (Decidable (_ ∨ _))

theorem offset_add_width_le_wordsStart (field : HeaderField) :
    field.offset + field.width ≤ Packet.wordsStart := by
  cases field <;> decide

end HeaderField

/-- Header fields with the numbers that are set, first to last. -/
abbrev FieldSettings := List (HeaderField × Nat)

namespace FieldSettings

/-- In a header that was zero at first, the settings leave the value in the field. -/
inductive Leaves : FieldSettings → HeaderField → Nat → Prop where
  | unset (field : HeaderField) : Leaves [] field 0
  | written (earlier : FieldSettings) (field : HeaderField) (value : Nat) :
      Leaves (earlier ++ [(field, value)]) field value
  | kept {earlier : FieldSettings} {field : HeaderField} {value : Nat} (other : HeaderField × Nat)
      (happart : other.1.Apart field) (hearlier : Leaves earlier field value) :
      Leaves (earlier ++ [other]) field value

end FieldSettings

namespace Packet

def setAll (packet : Packet) (settings : FieldSettings) : Packet :=
  settings.foldl (fun changed setting => changed.set setting.1 setting.2) packet

theorem setAll_append_singleton (packet : Packet) (earlier : FieldSettings)
    (setting : HeaderField × Nat) :
    packet.setAll (earlier ++ [setting]) = (packet.setAll earlier).set setting.1 setting.2 := by
  rw [setAll, List.foldl_append]
  rfl

@[simp]
theorem capacity_setAll (packet : Packet) (settings : FieldSettings) :
    (packet.setAll settings).capacity = packet.capacity := by
  induction settings generalizing packet with
  | nil => rfl
  | cons setting settings ih =>
    calc
      (packet.setAll (setting :: settings)).capacity =
          (packet.set setting.1 setting.2).capacity := ih _
      _ = packet.capacity := capacity_patch packet _ _

theorem slice_set_self (packet : Packet) (field : HeaderField) (value : Nat) :
    (packet.set field value).buffer.slice field.offset field.width =
      encode field.width value := by
  have hfield := field.offset_add_width_le_wordsStart
  have hminimum := packet.minimum_le_length
  have hlength := LittleEndian.length_encode field.width value
  have hslice := @Bytes.slice_patch_self packet.buffer (encode field.width value) field.offset
  rw [hlength] at hslice
  apply hslice
  exact Nat.le_trans hfield (Nat.le_trans (by decide) hminimum)

/-- Setting a field touches its own bytes only. -/
theorem changedWithin_set (packet : Packet) (field : HeaderField) (value : Nat) :
    packet.buffer.ChangedWithin (packet.set field value).buffer field.offset
      (field.offset + field.width) := by
  refine Bytes.changedWithin_patch (Nat.le_refl _) (Nat.le_of_eq ?_)
  rw [LittleEndian.length_encode]

theorem slice_set_outside (packet : Packet) (field : HeaderField) (value : Nat)
    {start length : Nat}
    (haway : start + length ≤ field.offset ∨ field.offset + field.width ≤ start) :
    (packet.set field value).buffer.slice start length = packet.buffer.slice start length :=
  (packet.changedWithin_set field value).slice_eq haway

theorem slice_setAll_outside (packet : Packet) {settings : FieldSettings} {start length : Nat}
    (haway : ∀ setting ∈ settings, start + length ≤ setting.1.offset ∨
      setting.1.offset + setting.1.width ≤ start) :
    (packet.setAll settings).buffer.slice start length = packet.buffer.slice start length := by
  induction settings generalizing packet with
  | nil => rfl
  | cons setting settings ih =>
    have hlater := ih (packet.set setting.1 setting.2) fun other hother =>
      haway other (List.mem_cons_of_mem setting hother)
    calc
      (packet.setAll (setting :: settings)).buffer.slice start length =
          (packet.set setting.1 setting.2).buffer.slice start length := hlater
      _ = packet.buffer.slice start length :=
        packet.slice_set_outside setting.1 setting.2 (haway setting (List.mem_cons_self ..))

theorem slice_setAll_of_leaves (packet : Packet) {settings : FieldSettings} {field : HeaderField}
    {value : Nat} (hleaves : settings.Leaves field value)
    (hzero : packet.buffer.slice field.offset field.width = encode field.width 0) :
    (packet.setAll settings).buffer.slice field.offset field.width =
      encode field.width value := by
  induction hleaves with
  | unset field => exact hzero
  | written earlier field value =>
    rw [setAll_append_singleton]
    exact slice_set_self _ field value
  | kept other happart hearlier ih =>
    rw [setAll_append_singleton, slice_set_outside _ _ _ happart.symm]
    exact ih hzero

end Packet

end SmbExchange
