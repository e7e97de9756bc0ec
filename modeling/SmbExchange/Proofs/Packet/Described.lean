import SmbExchange.Proofs.Packet.Extent
import SmbExchange.Proofs.Packet.View

/-!
# Messages that describe themselves

A message whose counts add up to its own length leaves nothing to be read from
behind it.  `Reads` says of each question about a packet which bytes of such a
message answer it; what else the buffer holds plays no part.
-/

namespace SmbExchange.Packet

open LittleEndian (toWord toLong)

/-- The counts of a message add up to its length. -/
def DescribesItself (message : Bytes) : Prop :=
  declaredStart message + declaredBytes message = message.length

instance (message : Bytes) : Decidable (DescribesItself message) :=
  inferInstanceAs (Decidable (_ = _))

/-- The status that a message carries, in the convention that its flags select. -/
def declaredStatus (message : Bytes) : Status :=
  if toWord (message.slice 10 2) &&& 0x4000 != 0 then .nt (toLong (message.slice 5 4))
  else .legacy (message.byteAt 5) (message.byteAt 7)

def declaresResponse (message : Bytes) : Bool :=
  message.byteAt 9 &&& 0x80 != 0

/-- The packet answers from the message and from nothing else. -/
structure Reads (packet : Packet) (message : Bytes) : Prop where
  message_eq : packet.message = .ok message
  wordCount_eq : packet.wordCount.toNat = declaredWords message
  parameter_eq : ∀ index : UInt64, index.toNat < declaredWords message →
    packet.parameter index = .ok (toWord (message.slice (33 + 2 * index.toNat) 2))
  byteCount_eq : packet.byteCount.toNat = declaredBytes message
  bytes_eq : packet.bytes = .ok (message.drop (declaredStart message))
  command_eq : packet.command = message.byteAt 4
  status_eq : packet.status = declaredStatus message
  isSuccess_eq : packet.isSuccess = (declaresResponse message &&
    message.byteAt 4 == packet.expectedCommand && (declaredStatus message).isSuccess)

section Shows

variable {packet : Packet} {message : Bytes}

theorem totalLength_of_shows (hshows : packet.Shows message)
    (hcounts : declaredStart message ≤ message.length) :
    packet.totalLength = declaredStart message + declaredBytes message := by
  have hstart : declaredStart message = 35 + 2 * declaredWords message := rfl
  rw [totalLength, byteOffset_of_shows hshows (by omega), byteCount_of_shows hshows hcounts,
    declaredBytes]
  omega

/-- A packet gives back only messages that describe themselves. -/
theorem describesItself_of_message (hmessage : packet.message = .ok message) :
    packet.Shows message ∧ DescribesItself message ∧
      headerRoom + message.length ≤ packet.capacity := by
  obtain ⟨hfits, hlength, hshown⟩ := fits_of_message hmessage
  have hshows : packet.Shows message := hshown
  have hroom : headerRoom + message.length ≤ packet.capacity := hlength ▸ hfits
  have hlong := packet.le_byteOffset
  have hoffset : packet.byteOffset ≤ headerRoom + message.length := by
    rw [hlength, totalLength, headerRoom]
    omega
  have hcounts : declaredStart message ≤ message.length := by
    rw [byteOffset_of_shows hshows (by rw [headerRoom] at hoffset; omega)] at hoffset
    omega
  refine ⟨hshows, ?_, hroom⟩
  rw [DescribesItself, hlength, totalLength_of_shows hshows hcounts]

theorem byte_of_shows (hshows : packet.Shows message) (field : HeaderField)
    (hwidth : field.width = 1) (hinside : field.offset < headerRoom + message.length) :
    UInt8.ofNat (packet.get field) = message.byteAt (field.offset - headerRoom) := by
  rw [get_of_shows hshows field (by omega), hwidth]
  exact Bytes.toByte_slice_one message _

theorem status_of_shows (hshows : packet.Shows message)
    (hheader : minimumMessage ≤ message.length) :
    packet.status = declaredStatus message := by
  rw [minimumMessage] at hheader
  have hclass : packet.errorClass = message.byteAt 5 :=
    byte_of_shows hshows .errorClass rfl (by simp only [HeaderField.offset, headerRoom]; omega)
  have hcode : packet.errorCode = message.byteAt 7 :=
    byte_of_shows hshows .errorCode rfl (by simp only [HeaderField.offset, headerRoom]; omega)
  have hlong : packet.longErrorCode = toLong (message.slice 5 4) :=
    congrArg UInt32.ofNat (get_of_shows hshows .longErrorCode
      (by simp only [HeaderField.offset, HeaderField.width, headerRoom]; omega))
  have hflags : packet.flags2 = toWord (message.slice 10 2) :=
    congrArg UInt16.ofNat (get_of_shows hshows .flags2
      (by simp only [HeaderField.offset, HeaderField.width, headerRoom]; omega))
  rw [status, isLongErrorCode, hflags, hlong, hclass, hcode, declaredStatus]

theorem command_of_shows (hshows : packet.Shows message)
    (hheader : minimumMessage ≤ message.length) : packet.command = message.byteAt 4 := by
  refine byte_of_shows hshows .command rfl ?_
  simp only [HeaderField.offset, headerRoom, minimumMessage] at hheader ⊢
  omega

/-- Success is a matter of the header and of the command that the packet expects. -/
theorem isSuccess_of_shows (hshows : packet.Shows message)
    (hheader : minimumMessage ≤ message.length) :
    packet.isSuccess = (declaresResponse message &&
      message.byteAt 4 == packet.expectedCommand && (declaredStatus message).isSuccess) := by
  have hflags : packet.flags = message.byteAt 9 := by
    refine byte_of_shows hshows .flags rfl ?_
    simp only [HeaderField.offset, headerRoom, minimumMessage] at hheader ⊢
    omega
  rw [isSuccess, isResponse, hflags, command_of_shows hshows hheader,
    status_of_shows hshows hheader, declaresResponse]

/-- Whatever else the buffer holds, a message that describes itself is read as it is. -/
theorem reads_of_shows (hshows : packet.Shows message)
    (hdescribes : DescribesItself message)
    (hroom : headerRoom + message.length ≤ packet.capacity) : packet.Reads message := by
  have hparts : declaredStart message + declaredBytes message = message.length := hdescribes
  have hstart : declaredStart message = 35 + 2 * declaredWords message := rfl
  have hoffset := byteOffset_of_shows hshows (by omega)
  have hwords : packet.wordCount.toNat = declaredWords message := by
    rw [wordCount_of_shows hshows (by omega), declaredWords]
  have hbytes : packet.byteCount.toNat = declaredBytes message := by
    rw [byteCount_of_shows hshows (by omega), declaredBytes]
  have htotal : packet.totalLength = message.length := by
    rw [totalLength_of_shows hshows (by omega), hparts]
  have hheader : minimumMessage ≤ message.length := by
    rw [minimumMessage]
    omega
  refine ⟨?_, hwords, ?_, hbytes, ?_, command_of_shows hshows hheader,
    status_of_shows hshows hheader, isSuccess_of_shows hshows hheader⟩
  · have hfits : packet.Fits := by
      rw [Fits, htotal]
      exact hroom
    rw [message_eq, if_pos hfits, htotal]
    exact congrArg Except.ok hshows
  · intro index hindex
    rw [parameter_of_le (by omega), wordAt, slice_of_shows hshows _ _ (by omega)]
  · have hinside : packet.buffer.Fits packet.byteOffset packet.byteCount.toNat := by
      rw [Bytes.Fits, hoffset, hbytes, Nat.add_assoc, hparts]
      exact hroom
    have hrest : message.slice (declaredStart message) (declaredBytes message) =
        message.drop (declaredStart message) := by
      rw [Bytes.slice, List.take_of_length_le]
      rw [List.length_drop]
      omega
    rw [bytes, Bytes.read, if_pos hinside, hoffset, hbytes,
      slice_of_shows hshows _ _ (by omega), hrest]

end Shows

end SmbExchange.Packet
