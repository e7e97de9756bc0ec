import SmbExchange.Packet.Status
import SmbExchange.Packet.Words
import SmbExchange.Proofs.Packet.Received

/-!
# What a packet shows of a message

A packet is read through the counts in its own message.  Where the counts lie
inside the message, and the bytes they count do too, the packet shows the
message and nothing else.  Where they do not, reading goes on behind the end
of the message, in what the buffer held before.
-/

namespace SmbExchange.Packet

open LittleEndian (decode toWord)

/-- The buffer holds a message behind the room of the session header. -/
def Shows (packet : Packet) (message : Bytes) : Prop :=
  packet.buffer.slice headerRoom message.length = message

/-- Two packets give the same answer to everything that is asked about their contents. -/
structure SameView (left right : Packet) : Prop where
  wordCount_eq : left.wordCount = right.wordCount
  parameter_eq : ∀ index, left.parameter index = right.parameter index
  byteCount_eq : left.byteCount = right.byteCount
  bytes_eq : left.bytes = right.bytes
  totalLength_eq : left.totalLength = right.totalLength
  message_eq : left.message = right.message
  status_eq : left.status = right.status

/-! ## Counts -/

/-- The number of parameter words that a message declares. -/
def declaredWords (message : Bytes) : Nat :=
  (message.byteAt 32).toNat

/-- Where the byte area of a message starts, as its number of words declares it. -/
def declaredStart (message : Bytes) : Nat :=
  35 + 2 * declaredWords message

/-- The length of the byte area that a message declares. -/
def declaredBytes (message : Bytes) : Nat :=
  (toWord (message.slice (33 + 2 * declaredWords message) 2)).toNat

/-- The counts of a message lie inside the message, and so does its byte area
unless it does not even lie inside the buffer. -/
def SelfContained (capacity : Nat) (message : Bytes) : Prop :=
  declaredStart message ≤ message.length ∧
    (declaredStart message + declaredBytes message ≤ message.length ∨
      capacity < headerRoom + (declaredStart message + declaredBytes message))

instance (capacity : Nat) (message : Bytes) : Decidable (SelfContained capacity message) :=
  inferInstanceAs (Decidable (_ ∧ (_ ∨ _)))

theorem wordCount_eq_byteAt (packet : Packet) :
    packet.wordCount = packet.buffer.byteAt 36 :=
  Bytes.toByte_slice_one packet.buffer 36

theorem wordOffset_eq (index : UInt64) :
    wordOffset index = headerRoom + (33 + 2 * index.toNat) := by
  rw [wordOffset, headerRoom]
  omega

/-- The product overflows only if the sum does. -/
theorem wordOffset?_eq (index : UInt64) : wordOffset? index = inSpan? (wordOffset index) := by
  rw [wordOffset?, wordOffset]
  by_cases hdistance : 2 * index.toNat < positionSpan
  · rw [inSpan?_of_lt hdistance, Option.bind_eq_bind, Option.bind_some]
  · rw [inSpan?, if_neg hdistance, inSpan?, if_neg (by omega)]
    rfl

/-- An index up to the highest count is too small for its offset to overflow. -/
theorem wordOffset?_of_le {index : UInt64} (hindex : index.toNat ≤ 255) :
    wordOffset? index = some (headerRoom + (33 + 2 * index.toNat)) := by
  rw [wordOffset?_eq, wordOffset_eq]
  apply inSpan?_of_lt
  rw [headerRoom, positionSpan, UInt64.size]
  omega

theorem parameter_of_le {packet : Packet} {index : UInt64}
    (hindex : index.toNat ≤ packet.wordCount.toNat) :
    packet.parameter index = .ok (packet.wordAt (headerRoom + (33 + 2 * index.toNat))) := by
  rw [parameter, if_neg (by omega), wordOffset_eq]

section Shows

variable {packet : Packet} {message : Bytes}

theorem shows_fill (hfits : message.length ≤ packet.messageRoom) :
    (packet.fill message).Shows message :=
  slice_fill_self hfits

theorem slice_of_shows (hshows : packet.Shows message) (start length : Nat)
    (hinside : start + length ≤ message.length) :
    packet.buffer.slice (headerRoom + start) length = message.slice start length := by
  rw [← Bytes.slice_slice hinside, hshows]

theorem get_of_shows (hshows : packet.Shows message) (field : HeaderField)
    (hinside : field.offset + field.width ≤ headerRoom + message.length) :
    packet.get field =
      decode (message.slice (field.offset - headerRoom) field.width) := by
  have hroom : headerRoom ≤ field.offset := by cases field <;> decide
  have hslice := slice_of_shows hshows (field.offset - headerRoom) field.width (by omega)
  rw [Nat.add_sub_cancel' hroom] at hslice
  rw [get, hslice]

theorem wordCount_of_shows (hshows : packet.Shows message) (hcount : 33 ≤ message.length) :
    packet.wordCount = message.byteAt 32 := by
  have hget := get_of_shows hshows .wordCount
    (by simp only [HeaderField.offset, HeaderField.width, headerRoom]; omega)
  rw [wordCount, hget]
  exact Bytes.toByte_slice_one message 32

theorem byteOffset_of_shows (hshows : packet.Shows message) (hcount : 33 ≤ message.length) :
    packet.byteOffset = headerRoom + declaredStart message := by
  rw [byteOffset, wordCount_of_shows hshows hcount, declaredStart, declaredWords, headerRoom]
  omega

theorem byteCount_of_shows (hshows : packet.Shows message)
    (hcounts : declaredStart message ≤ message.length) :
    packet.byteCount = toWord (message.slice (33 + 2 * declaredWords message) 2) := by
  have hstart : declaredStart message = 35 + 2 * declaredWords message := rfl
  have hoffset := byteOffset_of_shows hshows (by omega)
  have hslot : packet.byteOffset - 2 = headerRoom + (33 + 2 * declaredWords message) := by
    omega
  rw [byteCount, hslot, wordAt, slice_of_shows hshows _ _ (by omega)]

end Shows

/-! ## Two packets that hold one message -/

section SameMessage

variable {left right : Packet} {message : Bytes}
variable (hleft : left.Shows message) (hright : right.Shows message)

include hleft hright

theorem get_eq_of_shows (field : HeaderField)
    (hinside : field.offset + field.width ≤ headerRoom + message.length) :
    left.get field = right.get field := by
  rw [get_of_shows hleft field hinside, get_of_shows hright field hinside]

/-- The status lies in the part of the header that every message has. -/
theorem status_eq_of_shows (hheader : minimumMessage ≤ message.length) :
    left.status = right.status := by
  have hfield : ∀ field : HeaderField, field.offset + field.width ≤ 36 →
      left.get field = right.get field := fun field hfield =>
    get_eq_of_shows hleft hright field (by
      simp only [minimumMessage, headerRoom] at hheader ⊢
      omega)
  have hflags : left.flags2 = right.flags2 :=
    congrArg UInt16.ofNat (hfield .flags2 (by decide))
  have hlong : left.longErrorCode = right.longErrorCode :=
    congrArg UInt32.ofNat (hfield .longErrorCode (by decide))
  have hclass : left.errorClass = right.errorClass :=
    congrArg UInt8.ofNat (hfield .errorClass (by decide))
  have hcode : left.errorCode = right.errorCode :=
    congrArg UInt8.ofNat (hfield .errorCode (by decide))
  rw [status, status, isLongErrorCode, isLongErrorCode, hflags, hlong, hclass, hcode]

/-- A range inside the message reads alike, and a range that leaves the buffer
is refused alike. -/
theorem read_eq_of_shows (hcapacity : left.capacity = right.capacity) (start length : Nat)
    (hinside : start + length ≤ message.length ∨
      left.capacity < headerRoom + (start + length)) :
    left.buffer.read (headerRoom + start) length =
      right.buffer.read (headerRoom + start) length := by
  have hlengths : left.buffer.length = right.buffer.length := hcapacity
  rcases hinside with hinside | houtside
  · simp only [Bytes.read, Bytes.Fits, Bytes.overflow, hlengths,
      slice_of_shows hleft start length hinside, slice_of_shows hright start length hinside]
  · rw [capacity] at houtside
    have hnotLeft : ¬ left.buffer.Fits (headerRoom + start) length := by
      rw [Bytes.Fits]
      omega
    have hnotRight : ¬ right.buffer.Fits (headerRoom + start) length := by
      rw [Bytes.Fits]
      omega
    rw [Bytes.read, Bytes.read, if_neg hnotLeft, if_neg hnotRight, Bytes.overflow,
      Bytes.overflow, hlengths]

theorem counts_eq_of_shows (hcounts : declaredStart message ≤ message.length) :
    left.wordCount = right.wordCount ∧ left.byteCount = right.byteCount := by
  have hstart : declaredStart message = 35 + 2 * declaredWords message := rfl
  constructor
  · rw [wordCount_of_shows hleft (by omega), wordCount_of_shows hright (by omega)]
  · rw [byteCount_of_shows hleft hcounts, byteCount_of_shows hright hcounts]

/-- Every parameter word up to the count lies in front of the byte area. -/
theorem parameter_eq_of_shows (hcounts : declaredStart message ≤ message.length)
    (index : UInt64) : left.parameter index = right.parameter index := by
  have hstart : declaredStart message = 35 + 2 * declaredWords message := rfl
  have hwords := (counts_eq_of_shows hleft hright hcounts).1
  by_cases hindex : left.wordCount.toNat < index.toNat
  · rw [parameter, parameter, ← hwords, if_pos hindex, if_pos hindex]
  · have hcount : left.wordCount.toNat = declaredWords message := by
      rw [wordCount_of_shows hleft (by omega), declaredWords]
    have hinside := Nat.not_lt.mp hindex
    rw [parameter_of_le hinside, parameter_of_le (hwords ▸ hinside), wordAt, wordAt,
      slice_of_shows hleft _ _ (by omega), slice_of_shows hright _ _ (by omega)]

/-- A self-contained message gives every packet that holds it the same view. -/
theorem sameView_of_shows (hcapacity : left.capacity = right.capacity)
    (hheader : minimumMessage ≤ message.length)
    (hcontained : SelfContained left.capacity message) : SameView left right := by
  obtain ⟨hcounts, harea⟩ := hcontained
  have hstart : declaredStart message = 35 + 2 * declaredWords message := rfl
  obtain ⟨hwords, hbytes⟩ := counts_eq_of_shows hleft hright hcounts
  have hoffset : left.byteOffset = right.byteOffset := by
    rw [byteOffset, byteOffset, hwords]
  have htotal : left.totalLength = right.totalLength := by
    rw [totalLength, totalLength, hoffset, hbytes]
  have hdeclared : left.byteCount.toNat = declaredBytes message := by
    rw [byteCount_of_shows hleft hcounts, declaredBytes]
  refine ⟨hwords, parameter_eq_of_shows hleft hright hcounts, hbytes, ?_, htotal, ?_,
    status_eq_of_shows hleft hright hheader⟩
  · rw [bytes, bytes, ← hoffset, ← hbytes, byteOffset_of_shows hleft (by omega), hdeclared]
    exact read_eq_of_shows hleft hright hcapacity _ _ harea
  · have hlength : left.totalLength = declaredStart message + declaredBytes message := by
      rw [totalLength, byteOffset_of_shows hleft (by omega), hdeclared]
      omega
    have hread := read_eq_of_shows hleft hright hcapacity 0 left.totalLength
      (by rw [hlength, Nat.zero_add]; exact harea)
    rw [Packet.message, Packet.message, ← htotal]
    exact hread

end SameMessage

/-! ## Two packets that can be told apart -/

/-- The buffers differ in every byte behind a message. -/
def ToldApart (left right : Packet) (message : Bytes) : Prop :=
  ∀ index, headerRoom + message.length ≤ index → index < left.capacity →
    left.buffer[index]? ≠ right.buffer[index]?

section ToldApart

variable {left right : Packet} {message : Bytes}
variable (hcapacity : left.capacity = right.capacity)
variable (htold : ToldApart left right message)

include hcapacity htold

/-- The same number of words shows only where the message has its own. -/
theorem length_of_wordCount_eq (hwords : left.wordCount = right.wordCount) :
    33 ≤ message.length := by
  have hminimum : 549 ≤ left.capacity := left.minimum_le_length
  apply Decidable.by_contra
  intro hshort
  rw [wordCount_eq_byteAt, wordCount_eq_byteAt] at hwords
  refine htold 36 (by simp only [headerRoom]; omega) (by omega) ?_
  rw [Bytes.getElem?_eq_byteAt (by rw [← capacity]; omega),
    Bytes.getElem?_eq_byteAt (by rw [← capacity]; omega), hwords]

variable (hleft : left.Shows message) (hright : right.Shows message)

include hleft hright

/-- The same byte count shows only where the message has its own. -/
theorem declaredStart_le_of_byteCount_eq (hcount : 33 ≤ message.length)
    (hbytes : left.byteCount = right.byteCount) :
    declaredStart message ≤ message.length := by
  have hminimum : 549 ≤ left.capacity := left.minimum_le_length
  have hstart : declaredStart message = 35 + 2 * declaredWords message := rfl
  have hsmall : declaredWords message < 256 := (message.byteAt 32).toNat_lt
  apply Decidable.by_contra
  intro hshort
  rw [byteCount, byteCount, byteOffset_of_shows hleft hcount,
    byteOffset_of_shows hright hcount] at hbytes
  have hslices := LittleEndian.eq_of_toWord_eq
    (by rw [Bytes.length_slice, ← capacity, headerRoom]; omega)
    (by rw [Bytes.length_slice, ← capacity, headerRoom]; omega) hbytes
  -- The high byte of the slot lies behind the message, whether the low one does or not.
  refine htold (headerRoom + declaredStart message - 2 + 1) (by omega)
    (by rw [headerRoom]; omega) ?_
  exact Bytes.getElem?_eq_of_slice_eq hslices (by omega)

/-- The same byte area shows only where it is the message's own, or where there is none
to be shown. -/
theorem declaredBytes_inside_of_bytes_eq (hcounts : declaredStart message ≤ message.length)
    (harea : left.bytes = right.bytes) :
    declaredStart message + declaredBytes message ≤ message.length ∨
      left.capacity < headerRoom + (declaredStart message + declaredBytes message) := by
  have hstart : declaredStart message = 35 + 2 * declaredWords message := rfl
  apply Decidable.by_contra
  intro hoverrun
  obtain ⟨hlong, hinside⟩ := not_or.mp hoverrun
  rw [bytes, bytes, byteOffset_of_shows hleft (by omega), byteOffset_of_shows hright (by omega),
    byteCount_of_shows hleft hcounts, byteCount_of_shows hright hcounts, ← declaredBytes,
    Bytes.read, Bytes.read, if_pos (by rw [Bytes.Fits, ← capacity]; omega),
    if_pos (by rw [Bytes.Fits, ← capacity]; omega), Except.ok.injEq] at harea
  refine htold (headerRoom + declaredStart message + (declaredBytes message - 1)) (by omega)
    (by omega) ?_
  exact Bytes.getElem?_eq_of_slice_eq harea (by omega)

/-- Packets that can be told apart by every byte behind their message have the
same view only if the message is self-contained. -/
theorem selfContained_of_sameView (hview : SameView left right) :
    SelfContained left.capacity message := by
  have hcount := length_of_wordCount_eq hcapacity htold hview.wordCount_eq
  have hcounts := declaredStart_le_of_byteCount_eq hcapacity htold hleft hright hcount
    hview.byteCount_eq
  exact ⟨hcounts, declaredBytes_inside_of_bytes_eq hcapacity htold hleft hright hcounts
    hview.bytes_eq⟩

end ToldApart

end SmbExchange.Packet
