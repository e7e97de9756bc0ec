import SmbExchange.Packet.Words
import SmbExchange.Proofs.Bytes.Slices

/-!
# How far a message extends

The length of a message follows from its number of parameter words and its
byte count.  Both stand at or behind offset 36, so no header field before them
changes the length, and one bound decides alike whether the message and
whether its frame can be taken out of the buffer.
-/

namespace SmbExchange.Packet

/-- The message, as its counts declare it, ends inside the buffer. -/
def Fits (packet : Packet) : Prop :=
  headerRoom + packet.totalLength ≤ packet.capacity

instance (packet : Packet) : Decidable packet.Fits :=
  inferInstanceAs (Decidable (_ ≤ _))

theorem message_eq (packet : Packet) :
    packet.message =
      if packet.Fits then .ok (packet.buffer.slice headerRoom packet.totalLength)
      else .error (.bufferOverflow headerRoom packet.totalLength packet.capacity) := rfl

theorem frame_eq (packet : Packet) :
    packet.frame =
      if packet.Fits then .ok (packet.buffer.slice 0 (headerRoom + packet.totalLength))
      else .error (.bufferOverflow 0 (headerRoom + packet.totalLength) packet.capacity) := by
  have hbound : packet.buffer.Fits 0 (headerRoom + packet.totalLength) ↔ packet.Fits := by
    simp only [Bytes.Fits, Fits, capacity, Nat.zero_add]
  by_cases hfits : packet.Fits
  · rw [if_pos hfits, frame, Bytes.read, if_pos (hbound.mpr hfits)]
  · rw [if_neg hfits, frame, Bytes.read, if_neg (mt hbound.mp hfits)]
    rfl

/-- A packet that gives its message back has all of it in its buffer. -/
theorem fits_of_message {packet : Packet} {message : Bytes}
    (hmessage : packet.message = .ok message) :
    packet.Fits ∧ message.length = packet.totalLength ∧
      packet.buffer.slice headerRoom message.length = message := by
  rw [message_eq] at hmessage
  split at hmessage
  · rename_i hfits
    obtain rfl := Except.ok.inj hmessage
    have hroom : headerRoom + packet.totalLength ≤ packet.buffer.length := hfits
    have hlength : (packet.buffer.slice headerRoom packet.totalLength).length =
        packet.totalLength := by
      rw [Bytes.length_slice]
      omega
    exact ⟨hfits, hlength, by rw [hlength]⟩
  · cases hmessage

theorem byteOffset_le (packet : Packet) : packet.byteOffset ≤ 549 := by
  have hwords := packet.wordCount.toNat_lt
  rw [byteOffset]
  omega

theorem le_byteOffset (packet : Packet) : 39 ≤ packet.byteOffset :=
  Nat.le_add_right 39 _

theorem le_totalLength (packet : Packet) : 35 ≤ packet.totalLength := by
  have hoffset := packet.le_byteOffset
  rw [totalLength, headerRoom]
  omega

/-- A message has at most 255 parameter words and 65535 bytes. -/
theorem totalLength_le (packet : Packet) : packet.totalLength ≤ 66080 := by
  have hwords := packet.wordCount.toNat_lt
  have hbytes := packet.byteCount.toNat_lt
  simp only [totalLength, byteOffset, headerRoom]
  omega

/-! ## Changes before the counts -/

section Header

variable (packet : Packet) {offset : Nat} {source : Bytes}

theorem wordCount_patch_header (hheader : offset + source.length ≤ 36) :
    (packet.patch offset source).wordCount = packet.wordCount := by
  simp only [wordCount, get, patch, HeaderField.offset, HeaderField.width]
  rw [Bytes.slice_patch_outside (.inr hheader)]

theorem byteCount_patch_header (hheader : offset + source.length ≤ 36) :
    (packet.patch offset source).byteCount = packet.byteCount := by
  have hwords := packet.wordCount_patch_header hheader
  simp only [byteCount, wordAt, byteOffset, hwords]
  simp only [patch]
  rw [Bytes.slice_patch_outside (.inr (by omega))]

theorem totalLength_patch_header (hheader : offset + source.length ≤ 36) :
    (packet.patch offset source).totalLength = packet.totalLength := by
  simp only [totalLength, byteOffset, packet.wordCount_patch_header hheader,
    packet.byteCount_patch_header hheader]

/-- Every field but the number of parameter words stands before the counts. -/
theorem offset_add_width_le {field : HeaderField} (hfield : field ≠ .wordCount) :
    field.offset + field.width ≤ 36 := by
  cases field <;> first | exact absurd rfl hfield | decide

theorem totalLength_set {field : HeaderField} (hfield : field ≠ .wordCount) (value : Nat) :
    (packet.set field value).totalLength = packet.totalLength := by
  refine packet.totalLength_patch_header ?_
  rw [LittleEndian.length_encode]
  exact offset_add_width_le hfield

@[simp]
theorem capacity_set (field : HeaderField) (value : Nat) :
    (packet.set field value).capacity = packet.capacity :=
  capacity_patch packet _ _

theorem totalLength_setSignatureBytes (bytes : Bytes) :
    (packet.setSignatureBytes bytes).totalLength = packet.totalLength := by
  refine packet.totalLength_patch_header ?_
  simp only [HeaderField.offset, HeaderField.width, List.length_take]
  omega

end Header

end SmbExchange.Packet
