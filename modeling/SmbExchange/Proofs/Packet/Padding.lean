import SmbExchange.Proofs.Packet.Assembly
import SmbExchange.Proofs.Packet.Extent

/-!
# Messages read back

A received message is copied into a buffer of zeros.  It may end before its
counts, may go on behind its byte area, and may declare more than the buffer
holds.  All of these are one case: the packet reads the message as if zeros
followed it without end, so the counts that the message lacks are zero, and
what it gives back is the first bytes of this longer message, as many as the
counts declare, unless the buffer ends before.
-/

namespace SmbExchange

open LittleEndian (decode toWord)

namespace Bytes

/-- Zeros behind a string are what reading past its end gives anyway. -/
@[simp]
theorem byteAt_append_zeros (bytes : Bytes) (missing index : Nat) :
    byteAt (bytes ++ zeros missing) index = bytes.byteAt index := by
  simp only [byteAt, List.getD_eq_getElem?_getD, List.getElem?_append, zeros,
    List.getElem?_replicate]
  by_cases hindex : index < bytes.length
  · rw [if_pos hindex]
  · have hbehind : bytes[index]? = none := List.getElem?_eq_none (by omega)
    rw [if_neg hindex, hbehind]
    split <;> rfl

/-- A word of which bytes are missing is read with zeros in their place. -/
theorem toWord_slice_two (bytes : Bytes) (offset : Nat) :
    toWord (bytes.slice offset 2) = toWord [bytes.byteAt offset, bytes.byteAt (offset + 1)] := by
  have hbyte : ∀ index, bytes.byteAt (offset + index) = (bytes.drop offset).getD index 0 := by
    intro index
    rw [byteAt, List.getD_eq_getElem?_getD, List.getD_eq_getElem?_getD, List.getElem?_drop]
  rw [slice, hbyte 1, ← Nat.add_zero offset, hbyte 0]
  rcases bytes.drop (offset + 0) with _ | ⟨low, _ | ⟨high, rest⟩⟩ <;> rfl

end Bytes

namespace Packet

/-- The length that a message declares for itself.  Counts that it does not have are zero. -/
def declaredLength (message : Bytes) : Nat :=
  declaredStart message + declaredBytes message

/-- The first `length` bytes of a message that zeros follow. -/
def padded (message : Bytes) (length : Nat) : Bytes :=
  (message ++ Bytes.zeros length).take length

/-! ## Zeros behind a message -/

section Zeros

variable (message : Bytes) (missing : Nat)

@[simp]
theorem declaredWords_append_zeros :
    declaredWords (message ++ Bytes.zeros missing) = declaredWords message := by
  rw [declaredWords, declaredWords, Bytes.byteAt_append_zeros]

@[simp]
theorem declaredStart_append_zeros :
    declaredStart (message ++ Bytes.zeros missing) = declaredStart message := by
  rw [declaredStart, declaredStart, declaredWords_append_zeros]

@[simp]
theorem declaredBytes_append_zeros :
    declaredBytes (message ++ Bytes.zeros missing) = declaredBytes message := by
  rw [declaredBytes, declaredBytes, declaredWords_append_zeros, Bytes.toWord_slice_two,
    Bytes.toWord_slice_two, Bytes.byteAt_append_zeros, Bytes.byteAt_append_zeros]

@[simp]
theorem declaredLength_append_zeros :
    declaredLength (message ++ Bytes.zeros missing) = declaredLength message := by
  rw [declaredLength, declaredLength, declaredStart_append_zeros, declaredBytes_append_zeros]

end Zeros

section Padded

variable {message : Bytes} {length : Nat}

theorem length_padded : (padded message length).length = length := by
  rw [padded, List.length_take, List.length_append, Bytes.length_zeros]
  omega

/-- It does not matter how many zeros follow, as long as there are enough. -/
theorem take_append_zeros {missing : Nat} (henough : length ≤ message.length + missing) :
    (message ++ Bytes.zeros missing).take length = padded message length := by
  rw [padded, List.take_append, List.take_append, Bytes.zeros, Bytes.zeros, List.take_replicate,
    List.take_replicate]
  congr 2
  omega

/-- Cutting a message does not change the bytes before the cut. -/
theorem byteAt_padded {index : Nat} (hindex : index < length) :
    (padded message length).byteAt index = message.byteAt index := by
  rw [← Bytes.byteAt_append_zeros message length index, padded, Bytes.byteAt, Bytes.byteAt,
    List.getD_eq_getElem?_getD, List.getD_eq_getElem?_getD, List.getElem?_take_of_lt hindex]

/-- A beginning of the message shows as long as the cut is behind it. -/
theorem slice_padded {count : Nat} (hcut : count ≤ length) (hinside : count ≤ message.length) :
    (padded message length).slice 0 count = message.slice 0 count := by
  rw [padded, Bytes.slice, Bytes.slice, List.drop_zero, List.drop_zero, List.take_take,
    Nat.min_eq_left hcut, List.take_append_of_le_length hinside]

theorem padded_self : padded message message.length = message := by
  rw [padded, List.take_left]

/-- A message that is cut or continued to its declared length declares the same length. -/
theorem declaredLength_padded :
    declaredLength (padded message (declaredLength message)) = declaredLength message := by
  generalize hlength : declaredLength message = length
  have hparts : 35 + 2 * declaredWords message + declaredBytes message = length := hlength
  have hwords : declaredWords (padded message length) = declaredWords message := by
    rw [declaredWords, declaredWords, byteAt_padded (by omega)]
  have hbytes : declaredBytes (padded message length) = declaredBytes message := by
    rw [declaredBytes, declaredBytes, hwords, Bytes.toWord_slice_two, Bytes.toWord_slice_two,
      byteAt_padded (by omega), byteAt_padded (by omega)]
  rw [declaredLength, declaredStart, hwords, hbytes, hparts]

end Padded

/-! ## The packet of a message -/

/-- What becomes of a message that is received and read back. -/
structure ReadBack (message : Bytes) (packet : Packet) : Prop where
  capacity_eq : packet.capacity = max (message.length + headerRoom) defaultCapacity
  /-- The length is the one that the message declares, whether zeros follow it or not. -/
  totalLength_eq : ∀ missing, packet.totalLength = declaredLength (message ++ Bytes.zeros missing)
  message_eq : packet.message =
    if packet.totalLength ≤ max message.length (defaultCapacity - headerRoom) then
      .ok (padded message packet.totalLength)
    else .error (.bufferOverflow headerRoom packet.totalLength packet.capacity)
  /-- The message itself is given back exactly if it declares its own length. -/
  message_eq_ok_iff : packet.message = .ok message ↔ declaredLength message = message.length
  /-- What is given back is given back again. -/
  again : ∀ shown, packet.message = .ok shown →
    ∃ second, ofMessage shown = .ok second ∧ second.message = .ok shown

section Received

variable {message : Bytes} {packet : Packet}

theorem capacity_of_ofMessage (hpacket : ofMessage message = .ok packet) :
    packet.capacity = max (message.length + headerRoom) defaultCapacity := by
  obtain ⟨-, -, hcapacity, rfl⟩ := eq_of_ofMessage hpacket
  simp only [capacity, patch, blank, Bytes.length_patch, Bytes.length_zeros, Nat.add_comm]

/-- The buffer of a packet made from a message holds the message and then zeros to its end. -/
theorem shows_append_zeros (hpacket : ofMessage message = .ok packet) :
    packet.Shows (message ++ Bytes.zeros (packet.messageRoom - message.length)) := by
  obtain ⟨-, hshows, hroom⟩ := shows_of_ofMessage hpacket
  have hbehind : packet.buffer.slice (headerRoom + message.length)
      (packet.messageRoom - message.length) =
        Bytes.zeros (packet.messageRoom - message.length) := by
    obtain ⟨hlength, -, hcapacity, rfl⟩ := eq_of_ofMessage hpacket
    have hmarker : headerRoom + marker.length ≤ headerRoom + message.length :=
      Nat.add_le_add_left (Nat.le_trans (by decide) hlength) headerRoom
    -- Neither the message nor the marker reaches behind the message.
    simp only [patch, blank]
    rw [Bytes.slice_patch_outside (.inr (Nat.le_refl _)),
      Bytes.slice_patch_outside (.inr hmarker)]
    apply slice_zeros
    simp only [messageRoom, capacity, Bytes.length_patch, Bytes.length_zeros, headerRoom]
    omega
  rw [Shows, List.length_append, Bytes.length_zeros, Bytes.slice_add, hbehind]
  exact congrArg (· ++ _) hshows

/-- The counts of the longer message are where the packet looks for them. -/
theorem totalLength_of_ofMessage (hpacket : ofMessage message = .ok packet) :
    packet.totalLength = declaredLength message := by
  have hcapacity := capacity_of_ofMessage hpacket
  have hshows := shows_append_zeros hpacket
  have hwords : declaredWords message < 256 := (message.byteAt 32).toNat_lt
  generalize hlong : message ++ Bytes.zeros (packet.messageRoom - message.length) = long at hshows
  have hlength : long.length = packet.capacity - headerRoom := by
    rw [← hlong, List.length_append, Bytes.length_zeros, messageRoom]
    omega
  have hstart : declaredStart long = 35 + 2 * declaredWords message := by
    rw [← hlong, declaredStart_append_zeros, declaredStart]
  have hcounts : declaredStart long ≤ long.length := by
    rw [defaultCapacity, headerRoom] at hcapacity
    rw [hlength, headerRoom]
    omega
  calc
    packet.totalLength = declaredLength long := by
      rw [totalLength, byteOffset_of_shows hshows (by omega), byteCount_of_shows hshows hcounts,
        declaredLength, declaredBytes]
      omega
    _ = declaredLength message := by rw [← hlong, declaredLength_append_zeros]

/-- The message fits where its declared length is not longer than the received message and not
longer than a packet of the default capacity. -/
theorem fits_iff_of_ofMessage (hpacket : ofMessage message = .ok packet) :
    packet.Fits ↔ packet.totalLength ≤ max message.length (defaultCapacity - headerRoom) := by
  rw [Fits, capacity_of_ofMessage hpacket, defaultCapacity, headerRoom]
  omega

theorem message_of_ofMessage (hpacket : ofMessage message = .ok packet) :
    packet.message =
      if packet.totalLength ≤ max message.length (defaultCapacity - headerRoom) then
        .ok (padded message packet.totalLength)
      else .error (.bufferOverflow headerRoom packet.totalLength packet.capacity) := by
  have hfits := fits_iff_of_ofMessage hpacket
  rw [message_eq]
  by_cases htotal : packet.totalLength ≤ max message.length (defaultCapacity - headerRoom)
  · have hroom := hfits.mpr htotal
    have hlong : packet.totalLength ≤
        message.length + (packet.messageRoom - message.length) := by
      rw [Fits] at hroom
      rw [messageRoom]
      omega
    have hslice := slice_of_shows (shows_append_zeros hpacket) 0 packet.totalLength
      (by rw [Nat.zero_add, List.length_append, Bytes.length_zeros]; exact hlong)
    rw [if_pos hroom, if_pos htotal, ← take_append_zeros hlong]
    exact congrArg Except.ok hslice
  · rw [if_neg (mt hfits.mp htotal), if_neg htotal]

theorem message_eq_ok_iff (hpacket : ofMessage message = .ok packet) :
    packet.message = .ok message ↔ declaredLength message = message.length := by
  rw [message_of_ofMessage hpacket, totalLength_of_ofMessage hpacket]
  constructor
  · intro hshown
    split at hshown
    · calc
        declaredLength message = (padded message (declaredLength message)).length :=
          length_padded.symm
        _ = message.length := congrArg List.length (Except.ok.inj hshown)
    · cases hshown
  · intro hdeclared
    rw [hdeclared, if_pos (Nat.le_max_left _ _), padded_self]

/-- What is given back declares its own length, so it is given back again. -/
theorem exists_again (hpacket : ofMessage message = .ok packet) {shown : Bytes}
    (hshown : packet.message = .ok shown) :
    ∃ second, ofMessage shown = .ok second ∧ second.message = .ok shown := by
  obtain ⟨hmarker, -, -⟩ := shows_of_ofMessage hpacket
  have heq : shown = padded message (declaredLength message) := by
    rw [message_of_ofMessage hpacket, totalLength_of_ofMessage hpacket] at hshown
    split at hshown
    · exact (Except.ok.inj hshown).symm
    · cases hshown
  have hlong : minimumMessage ≤ declaredLength message := by
    rw [minimumMessage, declaredLength, declaredStart]
    omega
  have hlength : shown.length = declaredLength message := by rw [heq, length_padded]
  have hfour : 4 ≤ message.length := by
    have hcount := congrArg List.length hmarker
    rw [Bytes.length_slice, marker, List.length_cons, List.length_cons, List.length_cons,
      List.length_singleton] at hcount
    omega
  have hhead : shown.slice 0 4 = marker := by
    rw [heq, slice_padded (Nat.le_trans (by decide) hlong) hfour, hmarker]
  obtain ⟨second, hsecond, -⟩ := exists_ofMessage (by rw [hlength]; exact hlong) hhead
  refine ⟨second, hsecond, (message_eq_ok_iff hsecond).mpr ?_⟩
  rw [hlength, heq, declaredLength_padded]

theorem readBack_of_ofMessage (hpacket : ofMessage message = .ok packet) :
    ReadBack message packet where
  capacity_eq := capacity_of_ofMessage hpacket
  totalLength_eq missing := by
    rw [totalLength_of_ofMessage hpacket, declaredLength_append_zeros]
  message_eq := message_of_ofMessage hpacket
  message_eq_ok_iff := message_eq_ok_iff hpacket
  again _ := exists_again hpacket

end Received

theorem marker_isPrefix_iff (message : Bytes) :
    marker <+: message ↔ message.take marker.length = marker := by
  rw [List.prefix_iff_eq_take, eq_comm]

/-- Every byte string is received in one of three ways: it is too short, it lacks the marker, or
it is read back from the packet made of it. -/
theorem ofMessage_trichotomy (message : Bytes) :
    (ofMessage message = .error (.shortReceive message.length) ↔
        message.length < minimumMessage) ∧
      (ofMessage message = .error .invalidHeader ↔
        minimumMessage ≤ message.length ∧ ¬ marker <+: message) ∧
      ((∃ packet, ofMessage message = .ok packet ∧ ReadBack message packet) ↔
        minimumMessage ≤ message.length ∧ marker <+: message) := by
  rw [marker_isPrefix_iff]
  by_cases hshort : message.length < minimumMessage
  · have hrefused : ofMessage message = .error (.shortReceive message.length) := if_pos hshort
    have hnot : ¬ minimumMessage ≤ message.length := Nat.not_le_of_lt hshort
    simp [hrefused, hshort, hnot]
  · have hlength : minimumMessage ≤ message.length := Nat.le_of_not_lt hshort
    by_cases hmarker : message.take marker.length = marker
    · obtain ⟨packet, hpacket, -⟩ := exists_ofMessage hlength hmarker
      have hread := readBack_of_ofMessage hpacket
      simp [hpacket, hshort, hlength, hmarker, hread]
    · have hrefused : ofMessage message = .error .invalidHeader := by
        rw [ofMessage, if_neg hshort, if_pos hmarker]
      simp [hrefused, hshort, hlength, hmarker]

end Packet

end SmbExchange
