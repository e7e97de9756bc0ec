import SmbExchange.Proofs.Packet.Layout

/-!
# Building a message and taking it apart

A message is built in an empty packet: the number of words, the words, the
header fields, the byte area.  Whatever the capacity, the message has the
layout of its contents, and the packet made from it reads the same contents in
a buffer of another size.
-/

namespace SmbExchange.Packet

open LittleEndian (encode span ofWord length_flatMap_ofWord slice_flatMap_ofWord)

def setWords (packet : Packet) (index : UInt64) : List UInt16 → Option (Attempt Unit)
  | [] => some (.ok (), packet)
  | word :: words => do
    match ← packet.setParameter index word with
    | (.ok (), changed) => changed.setWords (index + 1) words
    | failed => some failed

/-- Builds the message with the given contents. -/
def Contents.assemble (contents : Contents) (empty : Packet) : Option (Attempt Unit) := do
  match ← (empty.set .wordCount contents.words.length).setWords 0 contents.words with
  | (.ok (), worded) =>
    some (((worded.setCommand contents.command).setAll contents.settings).setBytes
      contents.payload)
  | failed => some failed

/-- A packet as it is made, of the default or of a given capacity. -/
def Made (packet : Packet) : Prop :=
  packet = new ∨ ∃ capacity, withCapacity capacity = .ok packet

theorem exists_blank_of_made {packet : Packet} (hmade : packet.Made) :
    ∃ capacity, ∃ hcapacity : minimumCapacity ≤ capacity, packet = blank capacity hcapacity := by
  rcases hmade with rfl | ⟨capacity, hcapacity⟩
  · exact ⟨defaultCapacity, _, rfl⟩
  · rw [withCapacity] at hcapacity
    split at hcapacity
    · exact ⟨capacity, _, (Except.ok.inj hcapacity).symm⟩
    · cases hcapacity

/-! ## Parameter words -/

theorem patch_nil (packet : Packet) (offset : Nat) : packet.patch offset [] = packet := by
  have hbuffer : packet.buffer.patch offset [] = packet.buffer := by
    simp [Bytes.patch]
  simp only [patch, hbuffer]

theorem patch_patch (packet : Packet) (offset : Nat) (first second : Bytes) :
    (packet.patch offset first).patch (offset + first.length) second =
      packet.patch offset (first ++ second) := by
  simp only [patch, Bytes.patch_patch]

theorem store_of_fits {packet : Packet} {offset : Nat} {source : Bytes}
    (hfits : offset + source.length ≤ packet.capacity) :
    packet.store offset source = (.ok (), packet.patch offset source) :=
  if_pos hfits

theorem store_of_not_fits (packet : Packet) (offset : Nat) (source : Bytes)
    (houtside : ¬ offset + source.length ≤ packet.capacity) :
    packet.store offset source =
      (.error (.bufferOverflow offset source.length packet.capacity), packet) := by
  rw [store]
  exact if_neg houtside

/-- Words written one by one are written in one piece. -/
theorem setWords_eq (packet : Packet) (index : UInt64) (words : List UInt16)
    (hcount : index.toNat + words.length ≤ 255) :
    packet.setWords index words =
      some (.ok (), packet.patch (headerRoom + (33 + 2 * index.toNat))
        (words.flatMap ofWord)) := by
  induction words generalizing packet index with
  | nil => rw [setWords, List.flatMap_nil, patch_nil]
  | cons word words ih =>
    rw [List.length_cons] at hcount
    have hminimum : 549 ≤ packet.capacity := packet.minimum_le_length
    have hnext : (index + 1).toNat = index.toNat + 1 := by
      rw [UInt64.toNat_add]
      simp only [UInt64.reduceToNat]
      omega
    have hstore : packet.setParameter index word =
        some (.ok (), packet.patch (headerRoom + (33 + 2 * index.toNat)) (ofWord word)) := by
      rw [setParameter, wordOffset?_of_le (by omega), Option.map_some]
      apply congrArg some
      apply store_of_fits
      rw [LittleEndian.length_ofWord, headerRoom]
      omega
    have hbehind : headerRoom + (33 + 2 * (index.toNat + 1)) =
        headerRoom + (33 + 2 * index.toNat) + (ofWord word).length := by
      rw [LittleEndian.length_ofWord]
      omega
    simp only [setWords, hstore, Option.bind_eq_bind, Option.bind_some]
    rw [ih _ _ (by omega), hnext, hbehind, patch_patch, List.flatMap_cons]

/-! ## The stages of building -/

section Assembled

variable (contents : Contents) (empty : Packet)

def headed : Packet :=
  (((empty.set .wordCount contents.words.length).patch wordsStart
    (contents.words.flatMap ofWord)).setCommand contents.command).setAll contents.settings

/-- The packet with the whole message in it. -/
def assembled : Packet :=
  ((headed contents empty).patch (39 + 2 * contents.words.length) contents.payload).patch
    (37 + 2 * contents.words.length) (ofWord (UInt16.ofNat contents.payload.length))

theorem capacity_headed : (headed contents empty).capacity = empty.capacity := by
  calc
    (headed contents empty).capacity =
        ((empty.set .wordCount contents.words.length).patch wordsStart
          (contents.words.flatMap ofWord)).capacity := by
      rw [headed, capacity_setAll]
      exact capacity_set _ .command _
    _ = empty.capacity := by rw [capacity_patch, capacity_set]

theorem capacity_assembled : (assembled contents empty).capacity = empty.capacity := by
  rw [assembled, capacity_patch, capacity_patch, capacity_headed]

variable {start length : Nat}

theorem slice_assembled_before (hbefore : start + length ≤ 37 + 2 * contents.words.length) :
    (assembled contents empty).buffer.slice start length =
      (headed contents empty).buffer.slice start length := by
  rw [assembled, patch, Bytes.slice_patch_outside (.inl hbefore), patch,
    Bytes.slice_patch_outside (.inl (by omega))]

/-- The header is set without touching anything from the number of words on. -/
theorem slice_headed_behind (hbehind : 36 ≤ start) :
    (headed contents empty).buffer.slice start length =
      ((empty.set .wordCount contents.words.length).patch wordsStart
        (contents.words.flatMap ofWord)).buffer.slice start length := by
  rw [headed, slice_setAll_outside]
  · apply slice_set_outside
    apply Or.inr
    exact Nat.le_trans (by decide) hbehind
  · intro setting hsetting
    have hfield := (contents.settings_behind_command setting hsetting).2
    exact Or.inr (Nat.le_trans (offset_add_width_le hfield) hbehind)

/-- The command is set without touching the fields behind it, and they without touching it. -/
theorem slice_headed_command :
    (headed contents empty).buffer.slice 8 1 = [contents.command] := by
  rw [headed, slice_setAll_outside]
  · calc
      _ = encode 1 contents.command.toNat := slice_set_self _ .command _
      _ = [contents.command] := by simp [encode]
  · intro setting hsetting
    have hfield := (contents.settings_behind_command setting hsetting).1
    apply Or.inl
    revert hfield
    cases setting.1 <;> decide

theorem slice_headed_wordCount :
    (headed contents empty).buffer.slice 36 1 = encode 1 contents.words.length := by
  rw [slice_headed_behind _ _ (by omega), patch, Bytes.slice_patch_outside (.inl (by decide))]
  exact slice_set_self empty .wordCount contents.words.length

theorem slice_assembled_word {index : Nat} {word : UInt16}
    (hword : contents.words[index]? = some word) :
    (assembled contents empty).buffer.slice (37 + 2 * index) 2 = ofWord word := by
  have hindex : index < contents.words.length := (List.getElem?_eq_some_iff.mp hword).1
  have hminimum := (empty.set .wordCount contents.words.length).minimum_le_length
  have hwords := contents.length_words_le
  have hlength := length_flatMap_ofWord contents.words
  rw [slice_assembled_before _ _ (by omega), slice_headed_behind _ _ (by omega), patch,
    wordsStart, Bytes.slice_patch_inside (by omega) (by omega) (by omega), Nat.add_sub_cancel_left]
  exact slice_flatMap_ofWord hword

theorem slice_assembled_byteCount (hfits : 39 + 2 * contents.words.length ≤ empty.capacity) :
    (assembled contents empty).buffer.slice (37 + 2 * contents.words.length) 2 =
      ofWord (UInt16.ofNat contents.payload.length) := by
  rw [← LittleEndian.length_ofWord (UInt16.ofNat contents.payload.length)]
  apply Bytes.slice_patch_self
  rw [LittleEndian.length_ofWord, ← capacity, capacity_patch, capacity_headed]
  omega

theorem slice_assembled_payload
    (hfits : 39 + 2 * contents.words.length + contents.payload.length ≤ empty.capacity) :
    (assembled contents empty).buffer.slice (39 + 2 * contents.words.length)
      contents.payload.length = contents.payload := by
  rw [assembled, patch, Bytes.slice_patch_outside (.inr (by
    rw [LittleEndian.length_ofWord]
    omega))]
  apply Bytes.slice_patch_self
  rw [← capacity, capacity_headed]
  exact hfits

end Assembled

/-! ## Made packets are zero but for the marker -/

theorem encode_zero (width : Nat) : encode width 0 = Bytes.zeros width := by
  induction width with
  | zero => rfl
  | succ width ih =>
    rw [encode, Nat.zero_div, ih]
    rfl

theorem slice_zeros {count start length : Nat} (hinside : start + length ≤ count) :
    (Bytes.zeros count).slice start length = Bytes.zeros length := by
  rw [Bytes.slice, Bytes.zeros, List.drop_replicate, List.take_replicate,
    Nat.min_eq_left (by omega), Bytes.zeros]

section Blank

variable {capacity : Nat} (hcapacity : minimumCapacity ≤ capacity)

theorem slice_blank_marker : (blank capacity hcapacity).buffer.slice 4 4 = marker := by
  rw [minimumCapacity] at hcapacity
  apply Bytes.slice_patch_self
  rw [Bytes.length_zeros]
  exact Nat.le_trans (by decide) hcapacity

theorem slice_blank_field {field : HeaderField} :
    (blank capacity hcapacity).buffer.slice field.offset field.width = encode field.width 0 := by
  have hfield := field.offset_add_width_le_wordsStart
  rw [encode_zero, blank, Bytes.slice_patch_outside (.inr (by cases field <;> decide))]
  apply slice_zeros
  exact Nat.le_trans hfield (Nat.le_trans (by decide) hcapacity)

end Blank

section Built

variable (contents : Contents) {empty : Packet} (hmade : empty.Made)

include hmade

theorem slice_assembled_marker : (assembled contents empty).buffer.slice 4 4 = marker := by
  obtain ⟨capacity, hcapacity, rfl⟩ := exists_blank_of_made hmade
  have hbehind : ∀ field : HeaderField, 4 + 4 ≤ field.offset := by
    intro field
    cases field <;> decide
  rw [slice_assembled_before _ _ (by omega), headed, slice_setAll_outside]
  · calc
      _ = (((blank capacity hcapacity).set .wordCount contents.words.length).patch wordsStart
            (contents.words.flatMap ofWord)).buffer.slice 4 4 :=
        slice_set_outside _ .command _ (.inl (by decide))
      _ = ((blank capacity hcapacity).set .wordCount contents.words.length).buffer.slice 4 4 :=
        Bytes.slice_patch_outside (.inl (by decide))
      _ = (blank capacity hcapacity).buffer.slice 4 4 :=
        slice_set_outside _ .wordCount _ (.inl (by decide))
      _ = marker := slice_blank_marker hcapacity
  · intro setting _
    exact Or.inl (hbehind setting.1)

theorem slice_assembled_field {field : HeaderField} {value : Nat} (hcommand : field ≠ .command)
    (hcount : field ≠ .wordCount) (hleaves : contents.settings.Leaves field value) :
    (assembled contents empty).buffer.slice field.offset field.width =
      encode field.width value := by
  obtain ⟨capacity, hcapacity, rfl⟩ := exists_blank_of_made hmade
  have hend := offset_add_width_le hcount
  have hstart : 8 + 1 ≤ field.offset := by
    revert hcommand
    cases field <;> decide
  rw [slice_assembled_before _ _ (by omega), headed]
  apply slice_setAll_of_leaves _ hleaves
  calc
    _ = (((blank capacity hcapacity).set .wordCount contents.words.length).patch wordsStart
          (contents.words.flatMap ofWord)).buffer.slice field.offset field.width :=
      slice_set_outside _ .command _ (.inr hstart)
    _ = ((blank capacity hcapacity).set .wordCount contents.words.length).buffer.slice
          field.offset field.width :=
      Bytes.slice_patch_outside (.inl field.offset_add_width_le_wordsStart)
    _ = (blank capacity hcapacity).buffer.slice field.offset field.width :=
      slice_set_outside _ .wordCount _ (.inl hend)
    _ = encode field.width 0 := slice_blank_field hcapacity

end Built

/-! ## What was built -/

theorem byteOffset_of_slice {packet : Packet} {count : Nat} (hcount : count ≤ 255)
    (hslice : packet.buffer.slice 36 1 = encode 1 count) :
    packet.byteOffset = 39 + 2 * count := by
  have hsmall : count % span 1 = count := Nat.mod_eq_of_lt (Nat.lt_succ_of_le hcount)
  have hget : packet.get .wordCount = count := by
    calc
      packet.get .wordCount = LittleEndian.decode (packet.buffer.slice 36 1) := rfl
      _ = count := by rw [hslice, LittleEndian.decode_encode, hsmall]
  rw [byteOffset, wordCount, hget, UInt8.toNat_ofNat_of_lt' (Nat.lt_succ_of_le hcount)]

section Assemble

variable (contents : Contents) {empty : Packet}
variable (hfits : headerRoom + contents.messageLength ≤ empty.capacity)

include hfits

/-- Building goes through all its stages. -/
theorem assemble_eq : contents.assemble empty = some (.ok (), assembled contents empty) := by
  have hwords : (empty.set .wordCount contents.words.length).setWords 0 contents.words =
      some (.ok (), (empty.set .wordCount contents.words.length).patch wordsStart
        (contents.words.flatMap ofWord)) :=
    setWords_eq _ 0 contents.words (by simpa using contents.length_words_le)
  have hcount := slice_headed_wordCount contents empty
  have hoffset : (headed contents empty).byteOffset = 39 + 2 * contents.words.length :=
    byteOffset_of_slice contents.length_words_le hcount
  have hstored : ((headed contents empty).patch (39 + 2 * contents.words.length)
      contents.payload).byteOffset = 39 + 2 * contents.words.length := by
    apply byteOffset_of_slice contents.length_words_le
    rw [patch, Bytes.slice_patch_outside (.inl (by omega))]
    exact hcount
  have hroom : 39 + 2 * contents.words.length + contents.payload.length ≤
      (headed contents empty).capacity := by
    rw [capacity_headed]
    rw [headerRoom, Contents.messageLength] at hfits
    omega
  rw [Contents.assemble, hwords]
  change some ((headed contents empty).setBytes contents.payload) = _
  apply congrArg some
  rw [setBytes, if_pos contents.length_payload_le, hoffset, store_of_fits hroom]
  change (_, setByteCount _ _) = _
  have hslot : 39 + 2 * contents.words.length - 2 = 37 + 2 * contents.words.length := by omega
  rw [setByteCount, hstored, hslot]
  rfl

theorem laidOut_assembled (hmade : empty.Made) :
    contents.LaidOut
      ((assembled contents empty).buffer.slice headerRoom contents.messageLength) := by
  have hlength : contents.messageLength =
      35 + 2 * contents.words.length + contents.payload.length := rfl
  have hcapacity := capacity_assembled contents empty
  rw [headerRoom] at hfits
  have hpart : ∀ start length, start + length ≤ contents.messageLength →
      ((assembled contents empty).buffer.slice headerRoom contents.messageLength).slice
        start length = (assembled contents empty).buffer.slice (4 + start) length := by
    intro start length hinside
    exact Bytes.slice_slice hinside
  constructor
  · rw [Bytes.length_slice, ← capacity, hcapacity, headerRoom]
    omega
  · rw [hpart 0 4 (by omega)]
    exact slice_assembled_marker contents hmade
  · rw [← Bytes.toByte_slice_one, hpart 4 1 (by omega),
      slice_assembled_before _ _ (by omega), slice_headed_command]
    exact LittleEndian.toByte_singleton contents.command
  · intro field value hcommand hcount hleaves
    have hroom : 4 ≤ field.offset := by cases field <;> decide
    have hend := offset_add_width_le hcount
    have hplace : 4 + (field.offset - headerRoom) = field.offset := Nat.add_sub_cancel' hroom
    rw [hpart _ _ (by omega), hplace]
    exact slice_assembled_field contents hmade hcommand hcount hleaves
  · have hsmall : contents.words.length % span 1 = contents.words.length :=
      Nat.mod_eq_of_lt (Nat.lt_succ_of_le contents.length_words_le)
    rw [← Bytes.toByte_slice_one, hpart 32 1 (by omega),
      slice_assembled_before _ _ (by omega), slice_headed_wordCount, LittleEndian.toByte,
      LittleEndian.decode_encode, hsmall,
      UInt8.toNat_ofNat_of_lt' (Nat.lt_succ_of_le contents.length_words_le)]
  · intro index word hword
    have hindex : index < contents.words.length := (List.getElem?_eq_some_iff.mp hword).1
    have hplace : 4 + (33 + 2 * index) = 37 + 2 * index := by omega
    rw [hpart _ _ (by omega), hplace]
    exact slice_assembled_word contents empty hword
  · have hplace : 4 + (33 + 2 * contents.words.length) = 37 + 2 * contents.words.length := by
      omega
    rw [hpart _ _ (by omega), hplace]
    exact slice_assembled_byteCount contents empty (by omega)
  · have hplace : 4 + (35 + 2 * contents.words.length) = 39 + 2 * contents.words.length := by
      omega
    rw [hpart _ _ (by omega), hplace]
    exact slice_assembled_payload contents empty (by omega)

end Assemble

/-! ## The packet made from a message -/

/-- A message with a whole header and the marker is accepted, whatever else it holds. -/
theorem exists_ofMessage {message : Bytes} (hlength : minimumMessage ≤ message.length)
    (hmarker : message.slice 0 4 = marker) :
    ∃ decoded, ofMessage message = .ok decoded ∧ decoded.Shows message ∧
      headerRoom + message.length ≤ decoded.capacity ∧
      decoded.expectedCommand = message.byteAt 4 := by
  have htake : message.take marker.length = marker := hmarker
  rw [ofMessage, if_neg (Nat.not_lt.mpr hlength), if_neg (not_not_intro htake)]
  refine ⟨_, rfl, ?_, ?_, rfl⟩
  · apply Bytes.slice_patch_self
    rw [blank, Bytes.length_patch, Bytes.length_zeros]
    exact Nat.le_max_left _ _
  · rw [capacity, patch, Bytes.length_patch, blank, Bytes.length_patch, Bytes.length_zeros]
    exact Nat.le_max_left _ _

/-- A message that is accepted has a whole header and the marker, and its packet is a blank one that
it has been written into. -/
theorem eq_of_ofMessage {message : Bytes} {decoded : Packet}
    (hdecoded : ofMessage message = .ok decoded) :
    minimumMessage ≤ message.length ∧ message.slice 0 4 = marker ∧
      ∃ hcapacity, decoded =
        { (blank (max (headerRoom + message.length) defaultCapacity) hcapacity).patch headerRoom
            message with expectedCommand := message.byteAt 4 } := by
  rw [ofMessage] at hdecoded
  split at hdecoded
  · cases hdecoded
  rename_i hlength
  split at hdecoded
  · cases hdecoded
  rename_i hmarker
  exact ⟨Nat.not_lt.mp hlength, Decidable.not_not.mp hmarker, _, (Except.ok.inj hdecoded).symm⟩

/-- A message that is accepted has the marker, and its packet shows it. -/
theorem shows_of_ofMessage {message : Bytes} {decoded : Packet}
    (hdecoded : ofMessage message = .ok decoded) :
    message.slice 0 4 = marker ∧ decoded.Shows message ∧
      headerRoom + message.length ≤ decoded.capacity := by
  obtain ⟨hlength, hmarker, -⟩ := eq_of_ofMessage hdecoded
  obtain ⟨other, hother, hshows, hroom, -⟩ := exists_ofMessage hlength hmarker
  obtain rfl : decoded = other := Except.ok.inj (hdecoded.symm.trans hother)
  exact ⟨hmarker, hshows, hroom⟩

/-- Whatever contents are built in whatever packet has room for them, the message has their
layout, and the packet made from the message reads the same as the one it was built in. -/
theorem ofMessage_of_assemble (contents : Contents) {empty : Packet} (hmade : empty.Made)
    (hfits : headerRoom + contents.messageLength ≤ empty.capacity) :
    ∃ built message decoded,
      contents.assemble empty = some (.ok (), built) ∧
      built.message = .ok message ∧
      contents.LaidOut message ∧
      ofMessage message = .ok decoded ∧
      contents.ReadFrom message built ∧
      contents.ReadFrom message decoded ∧
      (∀ field, decoded.get field = built.get field) ∧
      decoded.expectedCommand = decoded.command := by
  have hlaid := laidOut_assembled contents hfits hmade
  have hlength := hlaid.length_eq
  have hassemble := assemble_eq contents hfits
  have hcapacity := capacity_assembled contents empty
  generalize assembled contents empty = built at hlaid hlength hassemble hcapacity
  generalize hmessage : built.buffer.slice headerRoom contents.messageLength = message at *
  have hshows : built.Shows message := by
    rw [Shows, hlength, hmessage]
  have hminimum : minimumMessage ≤ message.length := by
    rw [hlength, Contents.messageLength, minimumMessage]
    omega
  have hbuilt := readFrom_of_shows hlaid hshows (by rw [hlength, hcapacity]; exact hfits)
  obtain ⟨decoded, hdecoded, hshown, hroom, hexpected⟩ :=
    exists_ofMessage hminimum hlaid.marker_eq
  have hread := readFrom_of_shows hlaid hshown hroom
  refine ⟨built, message, decoded, hassemble, hbuilt.message_eq, hlaid, hdecoded, hbuilt, hread,
    ?_, ?_⟩
  · intro field
    apply get_eq_of_shows hshown hshows
    have hfield := field.offset_add_width_le_wordsStart
    rw [wordsStart] at hfield
    rw [hlength, Contents.messageLength, headerRoom]
    omega
  · rw [hexpected, hread.command_eq]
    exact hlaid.command_eq

/-- The smallest packet, with a status code written into the middle of a longer status: the
code is left, the status is not. -/
theorem ofMessage_of_assemble_smallest :
    ∃ empty built message decoded,
      withCapacity 549 = .ok empty ∧
      Contents.assemble
        { command := 0x2B
          settings := [(.longErrorCode, 0xC0000022), (.errorCode, 5), (.multiplexId, 77)]
          words := [1, 0xFFFF]
          payload := [7, 8, 9]
          settings_behind_command := by decide
          length_words_le := by decide
          length_payload_le := by decide } empty = some (.ok (), built) ∧
      built.message = .ok message ∧
      ofMessage message = .ok decoded ∧
      decoded.get .errorCode = 5 ∧
      decoded.parameter 1 = .ok 0xFFFF ∧
      decoded.bytes = .ok [7, 8, 9] ∧
      decoded.expectedCommand = 0x2B := by
  have hempty : withCapacity 549 = .ok (blank 549 (by decide)) := rfl
  obtain ⟨built, message, decoded, hbuilt, hmessage, -, hdecoded, -, hread, -, hexpected⟩ :=
    ofMessage_of_assemble
      { command := 0x2B
        settings := [(.longErrorCode, 0xC0000022), (.errorCode, 5), (.multiplexId, 77)]
        words := [1, 0xFFFF]
        payload := [7, 8, 9]
        settings_behind_command := by decide
        length_words_le := by decide
        length_payload_le := by decide }
      (Or.inr ⟨549, hempty⟩)
      (Nat.le_trans (by decide : _ ≤ 549) (blank 549 (by decide)).minimum_le_length)
  have hleaves : FieldSettings.Leaves
      [(.longErrorCode, 0xC0000022), (.errorCode, 5), (.multiplexId, 77)] .errorCode 5 :=
    .kept (.multiplexId, 77) (by decide) (.written [(.longErrorCode, 0xC0000022)] .errorCode 5)
  have hcode := hread.field_eq .errorCode 5 (by decide) (by decide) hleaves
  refine ⟨_, built, message, decoded, hempty, hbuilt, hmessage, hdecoded, hcode, ?_, ?_, ?_⟩
  · exact hread.parameter_eq 1 0xFFFF rfl
  · exact hread.bytes_eq
  · rw [hexpected, hread.command_eq]

end SmbExchange.Packet
