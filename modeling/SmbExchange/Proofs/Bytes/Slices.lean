import SmbExchange.Bytes.LittleEndian

/-!
# Slices of patched buffers

A packet is read by slices and written by patches.  A slice inside the patched
range sees only the source of the patch; a slice that avoids the range does
not see the patch at all.  Everything that is said about the contents of a
buffer goes back to these two facts.
-/

namespace SmbExchange.Bytes

theorem getElem?_slice (bytes : Bytes) (offset length index : Nat) :
    (bytes.slice offset length)[index]? =
      if index < length then bytes[offset + index]? else none := by
  rw [slice, List.getElem?_take, List.getElem?_drop]

/-- Slices are told apart by their bytes. -/
theorem slice_eq_of_getElem?_eq {left right : Bytes} {offset start length : Nat}
    (hbytes : ∀ index, index < length → left[offset + index]? = right[start + index]?) :
    left.slice offset length = right.slice start length := by
  apply List.ext_getElem?
  intro index
  rw [getElem?_slice, getElem?_slice]
  by_cases hindex : index < length
  · rw [if_pos hindex, if_pos hindex, hbytes index hindex]
  · rw [if_neg hindex, if_neg hindex]

/-- A slice inside the patched range is a slice of the source. -/
theorem slice_patch_inside {bytes source : Bytes} {offset start length : Nat}
    (hfits : offset + source.length ≤ bytes.length) (hlow : offset ≤ start)
    (hhigh : start + length ≤ offset + source.length) :
    (bytes.patch offset source).slice start length =
      source.slice (start - offset) length := by
  apply slice_eq_of_getElem?_eq
  intro index hindex
  have hplace : start + index - offset = start - offset + index := by omega
  rw [getElem?_patch, if_pos (by omega), hplace]

/-- A slice that avoids the patched range does not see the patch. -/
theorem slice_patch_outside {bytes source : Bytes} {offset start length : Nat}
    (haway : start + length ≤ offset ∨ offset + source.length ≤ start) :
    (bytes.patch offset source).slice start length = bytes.slice start length := by
  apply slice_eq_of_getElem?_eq
  intro index hindex
  rw [getElem?_patch, if_neg (by omega)]

/-- A slice around the patched range is patched itself. -/
theorem slice_patch_around {bytes source : Bytes} {start offset length : Nat}
    (hinside : offset + source.length ≤ length) (hfits : start + length ≤ bytes.length) :
    (bytes.patch (start + offset) source).slice start length =
      (bytes.slice start length).patch offset source := by
  apply List.ext_getElem?
  intro index
  rw [getElem?_slice, getElem?_patch, getElem?_patch, getElem?_slice, length_slice]
  by_cases hindex : index < length
  · rw [if_pos hindex, if_pos hindex]
    by_cases hpatched : offset ≤ index ∧ index < offset + source.length
    · rw [if_pos (by omega), if_pos (by omega), Nat.add_sub_add_left]
    · rw [if_neg (by omega), if_neg (by omega)]
  · rw [if_neg hindex, if_neg hindex, if_neg (by omega)]

theorem slice_patch_self {bytes source : Bytes} {offset : Nat}
    (hfits : offset + source.length ≤ bytes.length) :
    (bytes.patch offset source).slice offset source.length = source := by
  rw [slice_patch_inside hfits (Nat.le_refl _) (Nat.le_refl _), Nat.sub_self]
  simp [slice]

/-- Behind the place where a source stands follows the source. -/
theorem drop_of_slice_eq {bytes source : Bytes} {offset : Nat}
    (hslice : bytes.slice offset source.length = source) :
    bytes.drop offset = source ++ bytes.drop (offset + source.length) := by
  calc
    bytes.drop offset =
        (bytes.drop offset).take source.length ++ (bytes.drop offset).drop source.length :=
      (List.take_append_drop _ _).symm
    _ = source ++ bytes.drop (offset + source.length) := by
      rw [List.drop_drop]
      exact congrArg (· ++ _) hslice

/-- Writing back what stands there changes nothing. -/
theorem patch_slice_self (bytes : Bytes) (offset length : Nat) :
    bytes.patch offset (bytes.slice offset length) = bytes := by
  apply List.ext_getElem?
  intro index
  rw [getElem?_patch, getElem?_slice, length_slice]
  split
  · rw [if_pos (by omega), Nat.add_sub_cancel' (by omega)]
  · rfl

theorem patch_zero {bytes source : Bytes} (hfits : source.length ≤ bytes.length) :
    bytes.patch 0 source = source ++ bytes.drop source.length := by
  rw [patch, List.take_zero, List.nil_append, Nat.sub_zero, Nat.zero_add,
    List.take_of_length_le hfits]

/-- Writing over the start what stands behind it as well changes the start alone. -/
theorem patch_zero_append_slice {bytes header : Bytes} {start length : Nat}
    (hheader : header.length = start) (hfits : start + length ≤ bytes.length) :
    bytes.patch 0 (header ++ bytes.slice start length) = bytes.patch 0 header := by
  have hlength : (header ++ bytes.slice start length).length = start + length := by
    rw [List.length_append, length_slice, hheader]
    omega
  rw [patch_zero (by omega), patch_zero (by omega), hlength, hheader, List.append_assoc,
    ← List.drop_drop, slice, List.take_append_drop]

theorem slice_slice {bytes : Bytes} {offset width start length : Nat}
    (hinside : start + length ≤ width) :
    (bytes.slice offset width).slice start length =
      bytes.slice (offset + start) length := by
  apply slice_eq_of_getElem?_eq
  intro index hindex
  rw [getElem?_slice, if_pos (by omega), Nat.add_assoc]

theorem slice_add (bytes : Bytes) (offset left right : Nat) :
    bytes.slice offset (left + right) =
      bytes.slice offset left ++ bytes.slice (offset + left) right := by
  rw [slice, slice, slice, List.take_add, List.drop_drop]

theorem slice_append_left {left right : Bytes} {start length : Nat}
    (hinside : start + length ≤ left.length) :
    slice (left ++ right) start length = left.slice start length := by
  rw [slice, slice, List.drop_append_of_le_length (by omega), List.take_append_of_le_length]
  rw [List.length_drop]
  omega

theorem slice_append_right (left right : Bytes) (start length : Nat) :
    slice (left ++ right) (left.length + start) length = right.slice start length := by
  rw [slice, slice, List.drop_length_add_append]

theorem slice_zero_length (bytes : Bytes) : bytes.slice 0 bytes.length = bytes := by
  rw [slice, List.drop_zero, List.take_length]

/-- Patches that follow each other are one patch. -/
theorem patch_patch (bytes first second : Bytes) (offset : Nat) :
    (bytes.patch offset first).patch (offset + first.length) second =
      bytes.patch offset (first ++ second) := by
  apply List.ext_getElem?
  intro index
  rw [getElem?_patch, getElem?_patch, getElem?_patch, length_patch, List.length_append]
  by_cases hfirst : offset ≤ index ∧ index < offset + first.length
  · rw [if_neg (by omega)]
    by_cases hlength : index < bytes.length
    · rw [if_pos (by omega), if_pos (by omega), List.getElem?_append_left (by omega)]
    · rw [if_neg (by omega), if_neg (by omega)]
  · rw [if_neg (by omega : ¬ (offset ≤ index ∧ index < offset + first.length ∧
      index < bytes.length))]
    by_cases hsecond : offset + first.length ≤ index ∧
        index < offset + first.length + second.length ∧ index < bytes.length
    · rw [if_pos hsecond, if_pos (by omega), List.getElem?_append_right (by omega)]
      congr 1
      omega
    · rw [if_neg hsecond, if_neg (by omega)]

theorem drop_slice (bytes : Bytes) (start head length : Nat) :
    (bytes.slice start (head + length)).drop head = bytes.slice (start + head) length := by
  rw [slice, slice, List.drop_take, List.drop_drop, Nat.add_sub_cancel_left]

theorem toByte_slice_one (bytes : Bytes) (offset : Nat) :
    LittleEndian.toByte (bytes.slice offset 1) = bytes.byteAt offset := by
  rw [slice, byteAt, List.getD_eq_getElem?_getD, ← List.head?_drop]
  cases bytes.drop offset with
  | nil => rfl
  | cons byte rest => simp [LittleEndian.toByte, LittleEndian.decode]

theorem getElem?_eq_byteAt {bytes : Bytes} {index : Nat} (hinside : index < bytes.length) :
    bytes[index]? = some (bytes.byteAt index) := by
  rw [byteAt, List.getD_eq_getElem?_getD, List.getElem?_eq_getElem hinside, Option.getD_some]

theorem getElem?_eq_of_slice_eq {left right : Bytes} {offset length index : Nat}
    (hslices : left.slice offset length = right.slice offset length)
    (hindex : index < length) : left[offset + index]? = right[offset + index]? := by
  have hbyte := congrArg (·[index]?) hslices
  simpa only [getElem?_slice, if_pos hindex] using hbyte

/-- Strings agree at every byte of a range that they agree on. -/
theorem getElem?_eq_of_mem_range {left right : Bytes} {offset length index : Nat}
    (hslices : left.slice offset length = right.slice offset length)
    (hlow : offset ≤ index) (hhigh : index < offset + length) : left[index]? = right[index]? := by
  have hbyte := getElem?_eq_of_slice_eq hslices (show index - offset < length by omega)
  rwa [Nat.add_sub_cancel' hlow] at hbyte

end SmbExchange.Bytes

namespace SmbExchange.LittleEndian

theorem decode_lt (bytes : Bytes) : decode bytes < span bytes.length := by
  induction bytes with
  | nil => decide
  | cons byte rest ih =>
    have hlow := byte.toNat_lt
    rw [decode, List.length_cons, span]
    omega

theorem decode_lt_of_length {bytes : Bytes} {width : Nat} (hlength : bytes.length = width) :
    decode bytes < span width :=
  hlength ▸ decode_lt bytes

theorem toNat_toWord {bytes : Bytes} (hlength : bytes.length = 2) :
    (toWord bytes).toNat = decode bytes := by
  have hbound : decode bytes < 2 ^ 16 := decode_lt_of_length hlength
  rw [toWord, UInt16.toNat_ofNat', Nat.mod_eq_of_lt hbound]

/-- A word determines its two bytes. -/
theorem eq_of_toWord_eq {left right : Bytes} (hleft : left.length = 2)
    (hright : right.length = 2) (hword : toWord left = toWord right) : left = right := by
  have hdecoded : decode left = decode right := by
    rw [← toNat_toWord hleft, hword, toNat_toWord hright]
  calc
    left = encode 2 (decode left) := by rw [← hleft, encode_decode]
    _ = encode 2 (decode right) := by rw [hdecoded]
    _ = right := by rw [← hright, encode_decode]

/-- Eight bytes are more than enough for a long word, which they determine. -/
theorem encode_toNat_inj {left right : UInt32}
    (hsame : encode 8 left.toNat = encode 8 right.toNat) : left = right := by
  have hspan : span 8 = 18446744073709551616 := rfl
  have hleft := left.toNat_lt
  have hright := right.toNat_lt
  have hnumbers := congrArg decode hsame
  rw [decode_encode, decode_encode, hspan, Nat.mod_eq_of_lt (by omega),
    Nat.mod_eq_of_lt (by omega)] at hnumbers
  exact UInt32.toNat.inj hnumbers

/-- Only the low bytes of a number are written. -/
theorem encode_mod (width value : Nat) :
    encode width (value % span width) = encode width value := by
  induction width generalizing value with
  | zero => rfl
  | succ width ih =>
    have hlow : UInt8.ofNat (value % (256 * span width)) = UInt8.ofNat value := by
      apply UInt8.toNat.inj
      rw [UInt8.toNat_ofNat', UInt8.toNat_ofNat', Nat.mod_mul_right_mod]
    rw [encode, encode, span, Nat.mod_mul_right_div_self, ih, hlow]

theorem decode_append (left right : Bytes) :
    decode (left ++ right) = decode left + span left.length * decode right := by
  induction left with
  | nil => simp [decode, span]
  | cons byte left ih =>
    rw [List.cons_append, decode, decode, ih, List.length_cons, span, Nat.mul_add, Nat.mul_assoc,
      Nat.add_assoc]

/-- Of the two words of a long word the low one comes first. -/
theorem toNat_toLong_append {low high : Bytes} (hlow : low.length = 2) (hhigh : high.length = 2) :
    (toLong (low ++ high)).toNat = (toWord low).toNat + 65536 * (toWord high).toNat := by
  have hspan : span 2 = 65536 := rfl
  have hlength : (low ++ high).length = 4 := by rw [List.length_append, hlow, hhigh]
  have hbound : decode (low ++ high) < 2 ^ 32 := decode_lt_of_length hlength
  rw [toLong, UInt32.toNat_ofNat', Nat.mod_eq_of_lt hbound, decode_append, hlow, hspan,
    toNat_toWord hlow, toNat_toWord hhigh]

/-- The low bytes of a number come first. -/
theorem encode_add (left right value : Nat) :
    encode (left + right) value = encode left value ++ encode right (value / span left) := by
  induction left generalizing value with
  | zero => rw [Nat.zero_add, span, Nat.div_one, encode, List.nil_append]
  | succ left ih =>
    rw [Nat.succ_add, encode, encode, ih, List.cons_append, span, Nat.div_div_eq_div_mul]

@[simp]
theorem toByte_singleton (value : UInt8) : toByte [value] = value := by
  simp [toByte, decode]

@[simp]
theorem toWord_ofWord (value : UInt16) : toWord (ofWord value) = value := by
  have hsmall : value.toNat % span 2 = value.toNat := Nat.mod_eq_of_lt value.toNat_lt
  rw [toWord, ofWord, decode_encode, hsmall, UInt16.ofNat_toNat]

@[simp]
theorem toLong_ofLong (value : UInt32) : toLong (ofLong value) = value := by
  have hsmall : value.toNat % span 4 = value.toNat := Nat.mod_eq_of_lt value.toNat_lt
  rw [toLong, ofLong, decode_encode, hsmall, UInt32.ofNat_toNat]

@[simp]
theorem toQuad_ofQuad (value : UInt64) : toQuad (ofQuad value) = value := by
  have hsmall : value.toNat % span 8 = value.toNat := Nat.mod_eq_of_lt value.toNat_lt
  rw [toQuad, ofQuad, decode_encode, hsmall, UInt64.ofNat_toNat]

@[simp]
theorem length_ofWord (value : UInt16) : (ofWord value).length = 2 :=
  length_encode 2 value.toNat

/-! ## Words in a row -/

theorem length_flatMap_ofWord (words : List UInt16) :
    (words.flatMap ofWord).length = 2 * words.length := by
  induction words with
  | nil => rfl
  | cons word words ih =>
    rw [List.flatMap_cons, List.length_append, ih, length_ofWord, List.length_cons]
    omega

theorem slice_flatMap_ofWord {words : List UInt16} {index : Nat} {word : UInt16}
    (hword : words[index]? = some word) :
    Bytes.slice (words.flatMap ofWord) (2 * index) 2 = ofWord word := by
  induction words generalizing index with
  | nil => cases hword
  | cons first words ih =>
    rw [List.flatMap_cons]
    cases index with
    | zero =>
      cases hword
      rw [Bytes.slice_append_left (by simp)]
      exact Bytes.slice_zero_length _
    | succ index =>
      have hshift : 2 * (index + 1) = (ofWord first).length + 2 * index := by
        rw [length_ofWord]
        omega
      rw [hshift, Bytes.slice_append_right]
      exact ih hword

end SmbExchange.LittleEndian
