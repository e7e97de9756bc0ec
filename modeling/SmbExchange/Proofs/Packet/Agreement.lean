import SmbExchange.Proofs.Packet.Extent
import SmbExchange.Proofs.Packet.View

/-!
# Views of one message

Message, frame and byte area are three ranges of the buffer, each with a check
of its own.  All three ranges end where the counts say that the message ends,
so the checks decide alike: either the views are parts of one another or none
of them can be had.  The parameter words stand inside every buffer and need no
check but that of their index, which lets the byte count through as well.
-/

namespace SmbExchange.Packet

open LittleEndian (toWord)

variable {packet : Packet}

/-- Where the message ends in the buffer, as its counts declare it. -/
def declaredEnd (packet : Packet) : Nat :=
  39 + 2 * packet.wordCount.toNat + packet.byteCount.toNat

/-- All three views can be had, and they overlap in the same bytes. -/
def ViewsOverlap (packet : Packet) : Prop :=
  ∃ message frame area,
    packet.message = .ok message ∧ packet.frame = .ok frame ∧ packet.bytes = .ok area ∧
      frame.drop headerRoom = message ∧ message.length = packet.totalLength ∧
      message.drop (35 + 2 * packet.wordCount.toNat) = area

/-- Each of the three views is refused for the range that it needs. -/
def ViewsRefused (packet : Packet) : Prop :=
  packet.message = .error (.bufferOverflow headerRoom packet.totalLength packet.capacity) ∧
    packet.frame =
      .error (.bufferOverflow 0 (headerRoom + packet.totalLength) packet.capacity) ∧
    packet.bytes =
      .error (.bufferOverflow packet.byteOffset packet.byteCount.toNat packet.capacity)

structure Indexed (packet : Packet) (index : UInt64) : Prop where
  isOk_iff : (∃ word, packet.parameter index = .ok word) ↔
    index.toNat ≤ packet.wordCount.toNat
  last_eq : index.toNat = packet.wordCount.toNat → packet.parameter index = .ok packet.byteCount
  word_eq : index.toNat < packet.wordCount.toNat → packet.parameter index =
    .ok (toWord (packet.buffer.slice (headerRoom + (33 + 2 * index.toNat)) 2))
  message_eq : index.toNat < packet.wordCount.toNat → ∀ message, packet.message = .ok message →
    packet.parameter index = .ok (toWord (message.slice (33 + 2 * index.toNat) 2))

/-! ## Where the ranges end -/

theorem totalLength_eq (packet : Packet) :
    packet.totalLength = 35 + 2 * packet.wordCount.toNat + packet.byteCount.toNat := by
  rw [totalLength, byteOffset, headerRoom]
  omega

theorem headerRoom_add_totalLength (packet : Packet) :
    headerRoom + packet.totalLength = packet.declaredEnd := by
  rw [totalLength_eq, headerRoom, declaredEnd]
  omega

theorem byteOffset_add_byteCount (packet : Packet) :
    packet.byteOffset + packet.byteCount.toNat = packet.declaredEnd := rfl

theorem fits_iff : packet.Fits ↔ packet.declaredEnd ≤ packet.capacity := by
  rw [Fits, headerRoom_add_totalLength]

theorem bytes_eq (packet : Packet) :
    packet.bytes =
      if packet.Fits then .ok (packet.buffer.slice packet.byteOffset packet.byteCount.toNat)
      else
        .error (.bufferOverflow packet.byteOffset packet.byteCount.toNat packet.capacity) := by
  have hbound : packet.buffer.Fits packet.byteOffset packet.byteCount.toNat ↔ packet.Fits := by
    rw [fits_iff, Bytes.Fits, byteOffset_add_byteCount, capacity]
  by_cases hfits : packet.Fits
  · rw [if_pos hfits, bytes, Bytes.read, if_pos (hbound.mpr hfits)]
  · rw [if_neg hfits, bytes, Bytes.read, if_neg (mt hbound.mp hfits)]
    rfl

theorem viewsOverlap_of_fits (hfits : packet.Fits) : packet.ViewsOverlap := by
  have hframe := Bytes.drop_slice packet.buffer 0 headerRoom packet.totalLength
  have hmessage := Bytes.drop_slice packet.buffer headerRoom (35 + 2 * packet.wordCount.toNat)
    packet.byteCount.toNat
  have hstart : headerRoom + (35 + 2 * packet.wordCount.toNat) = packet.byteOffset := by
    rw [headerRoom, byteOffset]
    omega
  refine ⟨_, _, _, packet.message_eq.trans (if_pos hfits), packet.frame_eq.trans (if_pos hfits),
    packet.bytes_eq.trans (if_pos hfits), ?_, ?_, ?_⟩
  · rw [hframe, Nat.zero_add]
  · rw [Fits, capacity] at hfits
    rw [Bytes.length_slice]
    omega
  · rw [totalLength_eq, hmessage, hstart]

theorem viewsRefused_of_not_fits (hfits : ¬ packet.Fits) : packet.ViewsRefused :=
  ⟨packet.message_eq.trans (if_neg hfits), packet.frame_eq.trans (if_neg hfits),
    packet.bytes_eq.trans (if_neg hfits)⟩

/-! ## Parameter words -/

/-- The slot behind the last word holds the byte count. -/
theorem parameter_last {index : UInt64} (hindex : index.toNat = packet.wordCount.toNat) :
    packet.parameter index = .ok packet.byteCount := by
  have hslot : headerRoom + (33 + 2 * index.toNat) = packet.byteOffset - 2 := by
    rw [headerRoom, byteOffset, hindex]
    omega
  rw [parameter_of_le (Nat.le_of_eq hindex), hslot, byteCount]

theorem indexed (packet : Packet) (index : UInt64) : packet.Indexed index := by
  refine ⟨⟨?_, fun hindex => ⟨_, parameter_of_le hindex⟩⟩, parameter_last,
    fun hindex => parameter_of_le (Nat.le_of_lt hindex), ?_⟩
  · rintro ⟨word, hword⟩
    rw [parameter] at hword
    split at hword
    · cases hword
    · rename_i hinside
      exact Nat.not_lt.mp hinside
  · intro hindex message hmessage
    obtain ⟨-, hlength, hshows⟩ := fits_of_message hmessage
    have htotal := packet.totalLength_eq
    rw [parameter_of_le (Nat.le_of_lt hindex), wordAt, slice_of_shows hshows _ _ (by omega)]

/-- Whatever a packet holds, its views agree with its counts and with each other. -/
theorem views_agree (packet : Packet) :
    (packet.byteOffset = 39 + 2 * packet.wordCount.toNat ∧
      packet.byteOffset ≤ packet.capacity) ∧
    (packet.totalLength = 35 + 2 * packet.wordCount.toNat + packet.byteCount.toNat ∧
      packet.totalLength ≤ 66080) ∧
    (packet.ViewsOverlap ↔ packet.declaredEnd ≤ packet.capacity) ∧
    (packet.ViewsRefused ↔ packet.capacity < packet.declaredEnd) ∧
    ∀ index, packet.Indexed index := by
  refine ⟨⟨rfl, Nat.le_trans packet.byteOffset_le packet.minimum_le_length⟩,
    ⟨packet.totalLength_eq, packet.totalLength_le⟩, ⟨?_, ?_⟩, ⟨?_, ?_⟩, packet.indexed⟩
  · rintro ⟨message, frame, area, hmessage, -⟩
    exact fits_iff.mp (fits_of_message hmessage).1
  · exact fun hend => viewsOverlap_of_fits (fits_iff.mpr hend)
  · rintro ⟨hmessage, -⟩
    rw [← Nat.not_le, ← fits_iff]
    intro hfits
    rw [message_eq, if_pos hfits] at hmessage
    cases hmessage
  · exact fun hend => viewsRefused_of_not_fits (mt fits_iff.mp (Nat.not_le_of_lt hend))

end SmbExchange.Packet
