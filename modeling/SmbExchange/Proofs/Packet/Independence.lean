import SmbExchange.Proofs.Bytes.Changes
import SmbExchange.Proofs.Packet.Agreement
import SmbExchange.Proofs.Packet.Items

/-!
# Words, byte count and byte area

The parameter words, the byte count and the byte area lie one behind the other,
and where each of them starts moves with the number of words.  A setter writes
its own words, or the byte count with the byte area.  As long as its index is
below the number of words, everything else is read as before.
-/

namespace SmbExchange.Packet

open LittleEndian (encode encode_mod encode_add ofWord ofLong toLong toNat_toLong_append
  length_ofWord length_flatMap_ofWord slice_flatMap_ofWord)

variable {packet before after : Packet} {first last start stop : Nat}

/-- The words from `first` up to `last` may be new, everything else is as before. -/
structure OnlyWords (before after : Packet) (first last : Nat) : Prop where
  parameter_eq : ∀ index : UInt64, index.toNat < before.wordCount.toNat →
    index.toNat < first ∨ last ≤ index.toNat → after.parameter index = before.parameter index
  byteCount_eq : after.byteCount = before.byteCount
  bytes_eq : after.bytes = before.bytes
  header_eq : after.buffer.take wordsStart = before.buffer.take wordsStart
  changed : before.buffer.ChangedWithin after.buffer (wordsStart + 2 * first)
    (wordsStart + 2 * last)

/-! ## What a change behind the header leaves -/

section Changed

variable (hchanged : before.buffer.ChangedWithin after.buffer start stop)
variable (hbehind : wordsStart ≤ start)

include hchanged hbehind

theorem wordCount_of_changed : after.wordCount = before.wordCount := by
  rw [wordsStart] at hbehind
  rw [wordCount, wordCount, get, get, hchanged.slice_eq (.inl ?_)]
  exact hbehind

theorem byteOffset_of_changed : after.byteOffset = before.byteOffset := by
  rw [byteOffset, byteOffset, wordCount_of_changed hchanged hbehind]

/-- A change among the words leaves the byte count and the byte area alone. -/
theorem bytes_of_changed (hstop : stop + 2 ≤ before.byteOffset) :
    after.byteCount = before.byteCount ∧ after.bytes = before.bytes := by
  have hoffset := byteOffset_of_changed hchanged hbehind
  have hcount : after.byteCount = before.byteCount := by
    rw [byteCount, byteCount, wordAt, wordAt, hoffset, hchanged.slice_eq (.inr (by omega))]
  refine ⟨hcount, ?_⟩
  rw [bytes, bytes, hoffset, hcount, hchanged.read_eq (.inr (by omega))]

end Changed

theorem onlyWords_of_changed
    (hchanged : before.buffer.ChangedWithin after.buffer (wordsStart + 2 * first)
      (wordsStart + 2 * last)) (hlast : last ≤ before.wordCount.toNat) :
    OnlyWords before after first last := by
  have hwords := wordCount_of_changed hchanged (Nat.le_add_right _ _)
  have hstop : wordsStart + 2 * last + 2 ≤ before.byteOffset := by
    rw [wordsStart, byteOffset]
    omega
  obtain ⟨hcount, harea⟩ := bytes_of_changed hchanged (Nat.le_add_right _ _) hstop
  refine ⟨fun index hindex haway => ?_, hcount, harea, hchanged.take_eq (Nat.le_add_right _ _),
    hchanged⟩
  rw [parameter_of_le (by rw [hwords]; omega), parameter_of_le (by omega), wordAt, wordAt,
    hchanged.slice_eq (by rw [wordsStart, headerRoom]; omega)]

/-! ## Writing words -/

/-- The packet with words written from an index on. -/
def putWords (packet : Packet) (first : Nat) (words : List UInt16) : Packet :=
  packet.patch (wordsStart + 2 * first) (words.flatMap ofWord)

section PutWords

variable {words : List UInt16}

theorem onlyWords_putWords (hinside : first + words.length ≤ packet.wordCount.toNat) :
    OnlyWords packet (packet.putWords first words) first (first + words.length) := by
  refine onlyWords_of_changed (Bytes.changedWithin_patch (Nat.le_refl _) ?_) hinside
  rw [length_flatMap_ofWord]
  omega

/-- A word that was written is read back. -/
theorem parameter_putWords {index : UInt64} {word : UInt16}
    (hinside : first + words.length ≤ packet.wordCount.toNat) (hlow : first ≤ index.toNat)
    (hword : words[index.toNat - first]? = some word) :
    (packet.putWords first words).parameter index = .ok word := by
  have hlength := length_flatMap_ofWord words
  have hindex : index.toNat - first < words.length := (List.getElem?_eq_some_iff.mp hword).1
  have hminimum := packet.minimum_le_length
  have hsmall := packet.wordCount.toNat_lt
  have hwords : (packet.putWords first words).wordCount = packet.wordCount :=
    wordCount_of_changed (onlyWords_putWords hinside).changed (Nat.le_add_right _ _)
  have hplace : headerRoom + (33 + 2 * index.toNat) - (wordsStart + 2 * first) =
      2 * (index.toNat - first) := by
    rw [headerRoom, wordsStart]
    omega
  rw [parameter_of_le (by rw [hwords]; omega), wordAt, putWords, patch,
    Bytes.slice_patch_inside, hplace, slice_flatMap_ofWord hword, LittleEndian.toWord_ofWord]
  all_goals
    simp only [headerRoom, wordsStart]
    omega

/-- Words below the count are written where they stand. -/
theorem store_words {index : UInt64}
    (hinside : index.toNat + words.length ≤ packet.wordCount.toNat) :
    (wordOffset? index).map (fun offset => packet.store offset (words.flatMap ofWord)) =
      some (.ok (), packet.putWords index.toNat words) := by
  have hminimum : 549 ≤ packet.capacity := packet.minimum_le_length
  have hsmall := packet.wordCount.toNat_lt
  have hplace : headerRoom + (33 + 2 * index.toNat) = wordsStart + 2 * index.toNat := by
    rw [headerRoom, wordsStart]
    omega
  rw [wordOffset?_of_le (by omega), Option.map_some, hplace]
  apply congrArg some
  apply store_of_fits
  rw [length_flatMap_ofWord, wordsStart]
  omega

end PutWords

/-! ## Setters of words -/

theorem setParameter_eq {index : UInt64} (value : UInt16)
    (hindex : index.toNat < packet.wordCount.toNat) :
    packet.setParameter index value = some (.ok (), packet.putWords index.toNat [value]) := by
  rw [setParameter, ← List.flatMap_singleton ofWord value]
  exact store_words hindex

/-- A long word is its low half and then its high half. -/
theorem ofLong_eq (value : UInt32) :
    ofLong value = [value.toUInt16, (value >>> 16).toUInt16].flatMap ofWord := by
  have hhigh : (value >>> 16).toNat = value.toNat / 65536 := by
    rw [UInt32.toNat_shiftRight]
    exact Nat.shiftRight_eq_div_pow _ 16
  have hhalf : ∀ half : UInt32, ofWord half.toUInt16 = encode 2 half.toNat := fun half => by
    rw [ofWord, UInt32.toNat_toUInt16]
    exact encode_mod 2 half.toNat
  rw [List.flatMap_cons, List.flatMap_singleton, hhalf, hhalf, hhigh, ofLong]
  exact encode_add 2 2 value.toNat

theorem setParameterLong_eq {index : UInt64} (value : UInt32)
    (hindex : index.toNat + 1 < packet.wordCount.toNat) :
    packet.setParameterLong index value =
      some (.ok (), packet.putWords index.toNat [value.toUInt16, (value >>> 16).toUInt16]) := by
  rw [setParameterLong, ofLong_eq]
  exact store_words hindex

/-- The words that the command of a chained message occupies. -/
def andxWords (command : UInt8) : List UInt16 :=
  if command = 0xFF then [command.toUInt16, 0] else [command.toUInt16]

theorem ofWord_toUInt16 (byte : UInt8) : ofWord byte.toUInt16 = [byte, 0] := by
  have hsmall : byte.toNat / 256 = 0 := Nat.div_eq_of_lt byte.toNat_lt
  rw [ofWord, UInt8.toNat_toUInt16, encode, encode, encode, hsmall, UInt8.ofNat_toNat]
  rfl

theorem setAndxCommand_eq (packet : Packet) (command : UInt8) :
    packet.setAndxCommand command = packet.putWords 0 (andxWords command) := by
  -- The reserved byte behind the command is the high byte of the first word.
  have hpatched := packet.patch_patch 37 [command, 0] (Bytes.zeros 2)
  rw [setAndxCommand, putWords, andxWords]
  split
  · rw [List.flatMap_cons, List.flatMap_singleton, ofWord_toUInt16]
    exact hpatched
  · rw [List.flatMap_singleton, ofWord_toUInt16]
    rfl

/-- The second word is written only where the chain ends. -/
theorem words_setAndxCommand (hwords : 2 ≤ packet.wordCount.toNat) (command : UInt8) :
    (packet.setAndxCommand command).parameter 0 = .ok command.toUInt16 ∧
      (packet.setAndxCommand command).parameter 1 =
        (if command = 0xFF then .ok 0 else packet.parameter 1) ∧
      OnlyWords packet (packet.setAndxCommand command) 0 (if command = 0xFF then 2 else 1) := by
  rw [setAndxCommand_eq, andxWords]
  by_cases hend : command = 0xFF
  · simp only [if_pos hend]
    exact ⟨parameter_putWords hwords (Nat.zero_le _) rfl,
      parameter_putWords hwords (Nat.zero_le _) rfl, onlyWords_putWords hwords⟩
  · have hinside : 0 + 1 ≤ packet.wordCount.toNat := Nat.le_of_succ_le hwords
    have honly : OnlyWords packet (packet.putWords 0 [command.toUInt16]) 0 1 :=
      onlyWords_putWords hinside
    simp only [if_neg hend]
    exact ⟨parameter_putWords hinside (Nat.zero_le _) rfl,
      honly.parameter_eq 1 hwords (.inr (Nat.le_refl 1)), honly⟩

/-! ## Long words -/

theorem toNat_add_one_of_lt {index : UInt64} (hindex : index.toNat + 1 < 256) :
    (index + 1).toNat = index.toNat + 1 := by
  rw [UInt64.toNat_add]
  simp only [UInt64.reduceToNat]
  omega

/-- A long word is read as two words, the low one first. -/
theorem parameterLong_eq {index : UInt64} (hindex : index.toNat + 1 < packet.wordCount.toNat) :
    ∃ low high long, packet.parameter index = .ok low ∧
      packet.parameter (index + 1) = .ok high ∧ packet.parameterLong index = some (.ok long) ∧
      long.toNat = low.toNat + 65536 * high.toNat := by
  have hminimum := packet.minimum_le_length
  have hsmall := packet.wordCount.toNat_lt
  have hnext : (index + 1).toNat = index.toNat + 1 := toNat_add_one_of_lt (by omega)
  have hbehind : headerRoom + (33 + 2 * (index.toNat + 1)) =
      headerRoom + (33 + 2 * index.toNat) + 2 := by omega
  have hend : headerRoom + (33 + 2 * index.toNat) + 4 ≤ packet.buffer.length := by
    rw [headerRoom]
    omega
  have hlong : packet.parameterLong index =
      some (.ok (toLong (packet.buffer.slice (headerRoom + (33 + 2 * index.toNat)) (2 + 2)))) := by
    rw [parameterLong, wordOffset?_of_le (by omega), Option.map_some, Bytes.readLong, Bytes.read]
    exact congrArg (fun found => some (Except.map toLong found)) (if_pos hend)
  refine ⟨_, _, _, parameter_of_le (by omega), parameter_of_le (by omega), hlong, ?_⟩
  rw [Bytes.slice_add, hnext, hbehind]
  apply toNat_toLong_append
  all_goals
    rw [Bytes.length_slice]
    omega

/-! ## The byte area -/

theorem setBytes_eq {source : Bytes} (hlength : source.length ≤ 65535)
    (hfits : packet.byteOffset + source.length ≤ packet.capacity) :
    packet.setBytes source = (.ok (),
      (packet.patch packet.byteOffset source).setByteCount (UInt16.ofNat source.length)) := by
  rw [setBytes, if_pos hlength, store_of_fits hfits]

theorem setBytes_fails_iff (packet : Packet) (source : Bytes) :
    (∃ fault, (packet.setBytes source).1 = .error fault) ↔
      65535 < source.length ∨ packet.capacity < packet.byteOffset + source.length := by
  by_cases hlength : source.length ≤ 65535
  · by_cases hfits : packet.byteOffset + source.length ≤ packet.capacity
    · rw [setBytes_eq hlength hfits]
      refine iff_of_false ?_ (by omega)
      rintro ⟨fault, hfault⟩
      cases hfault
    · rw [setBytes, if_pos hlength, store_of_not_fits packet _ _ hfits]
      exact iff_of_true ⟨_, rfl⟩ (.inr (Nat.not_le.mp hfits))
  · rw [setBytes, if_neg hlength]
    exact iff_of_true ⟨_, rfl⟩ (.inl (Nat.not_le.mp hlength))

theorem changedWithin_setByteCount (packet : Packet) (count : UInt16) :
    packet.buffer.ChangedWithin (packet.setByteCount count).buffer (packet.byteOffset - 2)
      packet.byteOffset := by
  have hlow := packet.le_byteOffset
  refine Bytes.changedWithin_patch (Nat.le_refl _) ?_
  rw [length_ofWord]
  omega

theorem changedWithin_setBytes (packet : Packet) (source : Bytes) (count : UInt16) :
    packet.buffer.ChangedWithin
      ((packet.patch packet.byteOffset source).setByteCount count).buffer
      (packet.byteOffset - 2) (packet.byteOffset + source.length) := by
  -- The bytes come first, and the count is then written in front of them: its place has not moved.
  have hoffset := packet.byteOffset_patch_behind source
    (Nat.le_trans (by decide) packet.le_byteOffset)
  have hcount := changedWithin_setByteCount (packet.patch packet.byteOffset source) count
  rw [hoffset] at hcount
  refine (Bytes.changedWithin_patch (Nat.sub_le _ _) (Nat.le_refl _)).trans ?_
  exact hcount.mono (Nat.le_refl _) (Nat.le_add_right _ _)

/-- What is set as byte area is read back. -/
theorem bytes_setBytes {source : Bytes} (hlength : source.length ≤ 65535)
    (hfits : packet.byteOffset + source.length ≤ packet.capacity) :
    ((packet.patch packet.byteOffset source).setByteCount (UInt16.ofNat source.length)).bytes =
        .ok source ∧
      ((packet.patch packet.byteOffset source).setByteCount
        (UInt16.ofNat source.length)).byteCount.toNat = source.length := by
  have hlow := packet.le_byteOffset
  have hoffset : (packet.patch packet.byteOffset source).byteOffset = packet.byteOffset :=
    packet.byteOffset_patch_behind source (by omega)
  have hcount := (packet.patch packet.byteOffset source).byteCount_setByteCount
    (UInt16.ofNat source.length)
  have hnumber : (UInt16.ofNat source.length).toNat = source.length := by
    rw [UInt16.toNat_ofNat', Nat.mod_eq_of_lt (Nat.lt_succ_of_le hlength)]
  have hread : (packet.buffer.patch packet.byteOffset source).read packet.byteOffset
      source.length = .ok source := by
    rw [Bytes.read, Bytes.slice_patch_self hfits]
    apply if_pos
    rw [Bytes.Fits, Bytes.length_patch]
    exact hfits
  have hwritten := changedWithin_setByteCount (packet.patch packet.byteOffset source)
    (UInt16.ofNat source.length)
  rw [hoffset] at hwritten
  refine ⟨?_, by rw [hcount, hnumber]⟩
  rw [bytes, byteOffset_setByteCount, hoffset, hcount, hnumber,
    hwritten.read_eq (.inr (Nat.le_refl _))]
  exact hread

theorem replaces_of_setBytes {source : Bytes} (hset : packet.setBytes source = (.ok (), after)) :
    after.bytes = .ok source ∧ after.byteCount.toNat = source.length ∧
      packet.buffer.ChangedWithin after.buffer (37 + 2 * packet.wordCount.toNat)
        (39 + 2 * packet.wordCount.toNat + source.length) := by
  have hgood : ¬ (65535 < source.length ∨
      packet.capacity < packet.byteOffset + source.length) := by
    rw [← packet.setBytes_fails_iff source, hset]
    rintro ⟨fault, hfault⟩
    cases hfault
  have hlength : source.length ≤ 65535 := by omega
  have hfits : packet.byteOffset + source.length ≤ packet.capacity := by omega
  rw [setBytes_eq hlength hfits] at hset
  cases hset
  obtain ⟨hbytes, hcount⟩ := bytes_setBytes hlength hfits
  have hstart : 37 + 2 * packet.wordCount.toNat = packet.byteOffset - 2 := by
    rw [byteOffset]
    omega
  refine ⟨hbytes, hcount, ?_⟩
  rw [hstart]
  exact packet.changedWithin_setBytes source _

/-- Below the number of words a setter changes its own words only, and setting the byte area
changes the byte count and the bytes that are given.  What was set is read back. -/
theorem setters_independent (packet : Packet) :
    (∀ (index : UInt64) (value : UInt16), index.toNat < packet.wordCount.toNat →
      ∃ after, packet.setParameter index value = some (.ok (), after) ∧
        after.parameter index = .ok value ∧
        OnlyWords packet after index.toNat (index.toNat + 1)) ∧
    (∀ (index : UInt64) (value : UInt32), index.toNat + 1 < packet.wordCount.toNat →
      (∃ low high long, packet.parameter index = .ok low ∧
        packet.parameter (index + 1) = .ok high ∧ packet.parameterLong index = some (.ok long) ∧
        long.toNat = low.toNat + 65536 * high.toNat) ∧
      ∃ after, packet.setParameterLong index value = some (.ok (), after) ∧
        after.parameter index = .ok value.toUInt16 ∧
        after.parameter (index + 1) = .ok (value >>> 16).toUInt16 ∧
        OnlyWords packet after index.toNat (index.toNat + 2)) ∧
    (2 ≤ packet.wordCount.toNat → ∀ command,
      (packet.setAndxCommand command).parameter 0 = .ok command.toUInt16 ∧
      (packet.setAndxCommand command).parameter 1 =
        (if command = 0xFF then .ok 0 else packet.parameter 1) ∧
      OnlyWords packet (packet.setAndxCommand command) 0 (if command = 0xFF then 2 else 1)) ∧
    ∀ source,
      ((∃ fault, (packet.setBytes source).1 = .error fault) ↔ 65535 < source.length ∨
        packet.capacity < 39 + 2 * packet.wordCount.toNat + source.length) ∧
      ∀ after, packet.setBytes source = (.ok (), after) →
        after.bytes = .ok source ∧ after.byteCount.toNat = source.length ∧
        packet.buffer.ChangedWithin after.buffer (37 + 2 * packet.wordCount.toNat)
          (39 + 2 * packet.wordCount.toNat + source.length) := by
  refine ⟨?_, ?_, ?_, ?_⟩
  · intro index value hindex
    refine ⟨_, setParameter_eq value hindex, ?_, onlyWords_putWords hindex⟩
    exact parameter_putWords hindex (Nat.le_refl _) (by rw [Nat.sub_self]; rfl)
  · intro index value hindex
    have hnext : (index + 1).toNat = index.toNat + 1 :=
      toNat_add_one_of_lt (Nat.lt_trans hindex packet.wordCount.toNat_lt)
    refine ⟨parameterLong_eq hindex, _, setParameterLong_eq value hindex, ?_, ?_,
      onlyWords_putWords hindex⟩
    · exact parameter_putWords hindex (Nat.le_refl _) (by rw [Nat.sub_self]; rfl)
    · refine parameter_putWords hindex (by omega) ?_
      rw [hnext, Nat.add_sub_cancel_left]
      rfl
  · exact fun hwords command => words_setAndxCommand hwords command
  · exact fun source => ⟨packet.setBytes_fails_iff source, fun after => replaces_of_setBytes⟩

/-- Three words in the smallest buffer: the word right before the byte count, the end of a chain,
a byte area that is too long by one byte and one that fits. -/
theorem setters_independent_three_words :
    let packet := (blank 549 (by decide)).set .wordCount 3
    (∃ after, packet.setParameter 2 0x1234 = some (.ok (), after) ∧
      after.parameter 2 = .ok 0x1234 ∧ OnlyWords packet after 2 3) ∧
    (∃ after, packet.setParameterLong 1 0x10002 = some (.ok (), after) ∧
      after.parameter 1 = .ok 2 ∧ after.parameter 2 = .ok 1 ∧ OnlyWords packet after 1 3) ∧
    ((packet.setAndxCommand 0xFF).parameter 1 = .ok 0 ∧
      OnlyWords packet (packet.setAndxCommand 0xFF) 0 2) ∧
    (∃ fault, (packet.setBytes (List.replicate 505 7)).1 = .error fault) ∧
    ∃ after, packet.setBytes [5, 6, 7] = (.ok (), after) ∧ after.bytes = .ok [5, 6, 7] ∧
      after.byteCount.toNat = 3 ∧ packet.buffer.ChangedWithin after.buffer 43 48 := by
  intro packet
  have hwords : packet.wordCount.toNat = 3 := by decide +kernel
  have hsize : packet.capacity = 549 := by decide +kernel
  have hset : packet.setBytes [5, 6, 7] = (.ok (), (packet.setBytes [5, 6, 7]).2) :=
    attempt_eq_ok (by decide +kernel)
  obtain ⟨hword, hlong, hchain, hbytes⟩ := setters_independent packet
  rw [hwords] at hword hlong hchain hbytes
  obtain ⟨-, hsecond, honly⟩ := hchain (by decide) 0xFF
  rw [if_pos rfl] at hsecond honly
  refine ⟨hword 2 0x1234 (by decide), (hlong 1 0x10002 (by decide)).2, ⟨hsecond, honly⟩,
    (hbytes _).1.mpr (.inr ?_), _, hset, (hbytes _).2 _ hset⟩
  rw [hsize, List.length_replicate]
  decide

end SmbExchange.Packet
