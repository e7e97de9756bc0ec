import SmbExchange.Proofs.Bytes.Slices
import SmbExchange.Text.Latin
import SmbExchange.Text.Utf16

/-!
# Text that is written and read back

Both encodings end a text with zeros, so a text without a NUL is found again in
front of its terminator.  In UTF-16 the characters have one unit or two; each
is decoded from its own units whatever follows them.
-/

namespace SmbExchange

open LittleEndian (ofWord toWord)

/-- No character of the text looks like a terminator. -/
def NulFree (text : String) : Prop :=
  ∀ char ∈ text.toList, char.toNat ≠ 0

instance (text : String) : Decidable (NulFree text) :=
  List.decidableBAll (fun char : Char => char.toNat ≠ 0) text.toList

namespace Utf16

/-- A character is no surrogate. -/
theorem toNat_lt_or_lt (char : Char) : char.toNat < 0xD800 ∨ 0xDFFF < char.toNat := by
  rcases char.valid with hbelow | ⟨habove, -⟩
  · exact Or.inl hbelow
  · exact Or.inr habove

theorem toNat_lt (char : Char) : char.toNat < 0x110000 := by
  rcases char.valid with hbelow | ⟨-, habove⟩
  · exact Nat.lt_trans hbelow (by decide)
  · exact habove

/-- The first unit of a character with two. -/
theorem toNat_high (char : Char) :
    (UInt16.ofNat (0xD800 + (char.toNat - 0x10000) / 0x400)).toNat =
      0xD800 + (char.toNat - 0x10000) / 0x400 := by
  have hrange := toNat_lt char
  apply UInt16.toNat_ofNat_of_lt'
  rw [UInt16.size]
  omega

/-- The second unit of a character with two. -/
theorem toNat_low (char : Char) :
    (UInt16.ofNat (0xDC00 + (char.toNat - 0x10000) % 0x400)).toNat =
      0xDC00 + (char.toNat - 0x10000) % 0x400 := by
  apply UInt16.toNat_ofNat_of_lt'
  rw [UInt16.size]
  omega

theorem isHighSurrogate_iff (unit : UInt16) :
    isHighSurrogate unit = true ↔ 0xD800 ≤ unit.toNat ∧ unit.toNat < 0xDC00 := by
  simp [isHighSurrogate, UInt16.le_iff_toNat_le, UInt16.lt_iff_toNat_lt]

theorem isLowSurrogate_iff (unit : UInt16) :
    isLowSurrogate unit = true ↔ 0xDC00 ≤ unit.toNat ∧ unit.toNat < 0xE000 := by
  simp [isLowSurrogate, UInt16.le_iff_toNat_le, UInt16.lt_iff_toNat_lt]

/-- A unit that is no surrogate stands for itself, whatever follows. -/
theorem decode_cons_of_not_surrogate {unit : UInt16} (hhigh : isHighSurrogate unit = false)
    (hlow : isLowSurrogate unit = false) (rest : List UInt16) :
    decode (unit :: rest) = Char.ofNat unit.toNat :: decode rest := by
  have hsingle : single unit = Char.ofNat unit.toNat := by
    rw [single, hhigh, hlow]
    rfl
  cases rest with
  | nil => rw [decode, decode, hsingle]
  | cons second rest =>
    rw [decode, hhigh, hsingle]
    rfl

theorem decode_encodeChar_append (char : Char) (rest : List UInt16) :
    decode (encodeChar char ++ rest) = char :: decode rest := by
  have hrange := toNat_lt char
  rw [encodeChar]
  by_cases hsmall : char.toNat < 0x10000
  · have hunit : (UInt16.ofNat char.toNat).toNat = char.toNat :=
      UInt16.toNat_ofNat_of_lt' hsmall
    have hsurrogate := toNat_lt_or_lt char
    have hhigh : isHighSurrogate (UInt16.ofNat char.toNat) = false := by
      rw [← Bool.not_eq_true, isHighSurrogate_iff, hunit]
      omega
    have hlow : isLowSurrogate (UInt16.ofNat char.toNat) = false := by
      rw [← Bool.not_eq_true, isLowSurrogate_iff, hunit]
      omega
    rw [if_pos hsmall, List.singleton_append, decode_cons_of_not_surrogate hhigh hlow, hunit,
      Char.ofNat_toNat]
  · have hhigh : isHighSurrogate (UInt16.ofNat (0xD800 + (char.toNat - 0x10000) / 0x400)) := by
      rw [isHighSurrogate_iff, toNat_high]
      omega
    have hlow : isLowSurrogate (UInt16.ofNat (0xDC00 + (char.toNat - 0x10000) % 0x400)) := by
      rw [isLowSurrogate_iff, toNat_low]
      omega
    have hnumber : 0x10000 + (0xD800 + (char.toNat - 0x10000) / 0x400 - 0xD800) * 0x400 +
        (0xDC00 + (char.toNat - 0x10000) % 0x400 - 0xDC00) = char.toNat := by
      omega
    rw [if_neg hsmall, List.cons_append, List.singleton_append, decode, hhigh, hlow, pair,
      toNat_high, toNat_low, hnumber, Char.ofNat_toNat]
    rfl

theorem decode_encode (chars : List Char) : decode (encode chars) = chars := by
  induction chars with
  | nil => rfl
  | cons char chars ih =>
    calc
      decode (encode (char :: chars)) = decode (encodeChar char ++ encode chars) := by
        rw [encode, encode, List.flatMap_cons]
      _ = char :: decode (encode chars) := decode_encodeChar_append char (encode chars)
      _ = char :: chars := by rw [ih]

theorem encode_ne_zero {text : String} (hnulFree : NulFree text) :
    ∀ unit ∈ encode text.toList, unit ≠ 0 := by
  intro unit hunit
  obtain ⟨char, hchar, hunit⟩ := List.mem_flatMap.mp hunit
  have hpositive := hnulFree char hchar
  have hnonzero : unit.toNat ≠ 0 := by
    rw [encodeChar] at hunit
    split at hunit
    · rw [List.mem_singleton.mp hunit, UInt16.toNat_ofNat_of_lt' (by assumption)]
      exact hpositive
    · rcases List.mem_cons.mp hunit with rfl | hlow
      · rw [toNat_high]
        omega
      · rw [List.mem_singleton.mp hlow, toNat_low]
        omega
  intro hzero
  rw [hzero] at hnonzero
  exact hnonzero rfl

@[simp]
theorem length_toBytes (units : List UInt16) : (toBytes units).length = 2 * units.length := by
  rw [toBytes, LittleEndian.length_flatMap_ofWord]

/-- Units in front of a terminator are found.  The scan meets the terminator unless the limit comes
first. -/
theorem scan_toBytes {limit : Nat} {units : List UInt16} (hlimit : units.length ≤ limit)
    (hnonzero : ∀ unit ∈ units, unit ≠ 0) (rest : Bytes) :
    scan limit (toBytes units ++ 0 :: 0 :: rest) =
      (units, if units.length < limit then .terminator else .limit) := by
  induction units generalizing limit with
  | nil => cases limit <;> rfl
  | cons unit units ih =>
    cases limit with
    | zero => exact absurd hlimit (Nat.not_succ_le_zero _)
    | succ limit =>
      have hunit := hnonzero unit List.mem_cons_self
      have hrest := ih (Nat.le_of_succ_le_succ hlimit) fun other hother =>
        hnonzero other (List.mem_cons_of_mem unit hother)
      have hword : toWord [UInt8.ofNat unit.toNat, UInt8.ofNat (unit.toNat / 256)] = unit :=
        LittleEndian.toWord_ofWord unit
      change scan (limit + 1) (UInt8.ofNat unit.toNat :: UInt8.ofNat (unit.toNat / 256) ::
        (toBytes units ++ 0 :: 0 :: rest)) = _
      rw [scan, hword]
      simp only [if_neg hunit, hrest, List.length_cons, Nat.succ_lt_succ_iff]

end Utf16

namespace Latin

theorem encode_of_small {text : String} (hsmall : ∀ char ∈ text.toList, char.toNat ≤ 0xFF) :
    encode text = .ok (text.toList.map fun char => UInt8.ofNat char.toNat) := by
  have hnone : (text.toList.find? fun char => 0xFF < char.toNat) = none := by
    apply List.find?_eq_none.mpr
    intro char hchar
    simpa using hsmall char hchar
  rw [encode, hnone]

theorem eq_of_encode {text : String} {bytes : Bytes} (hencoded : encode text = .ok bytes) :
    bytes = text.toList.map fun char => UInt8.ofNat char.toNat := by
  rw [encode] at hencoded
  split at hencoded
  · cases hencoded
  · exact (Except.ok.inj hencoded).symm

/-- An encodable text is decoded from its bytes, of which there is one for each character. -/
theorem of_encode_eq {text : String} {bytes : Bytes} (hencoded : encode text = .ok bytes) :
    decode bytes = text ∧ bytes.length = text.length ∧
      (NulFree text → ∀ byte ∈ bytes, byte ≠ 0) := by
  rw [encode] at hencoded
  split at hencoded
  · cases hencoded
  · rename_i hnone
    have hsmall : ∀ char ∈ text.toList, char.toNat < 256 := by
      intro char hchar
      have hlarge := List.find?_eq_none.mp hnone char hchar
      simp only [decide_eq_true_eq] at hlarge
      omega
    cases hencoded
    refine ⟨?_, ?_, ?_⟩
    · have hchars : text.toList.map (ofByte ∘ fun char => UInt8.ofNat char.toNat) =
          text.toList.map id := by
        apply List.map_congr_left
        intro char hchar
        change Char.ofNat (UInt8.ofNat char.toNat).toNat = char
        rw [UInt8.toNat_ofNat_of_lt' (hsmall char hchar), Char.ofNat_toNat]
      rw [decode, List.map_map, hchars, List.map_id, String.ofList_toList]
    · rw [List.length_map, String.length_toList]
    · intro hnulFree byte hbyte hzero
      obtain ⟨char, hchar, rfl⟩ := List.mem_map.mp hbyte
      have hnumber := congrArg UInt8.toNat hzero
      rw [UInt8.toNat_ofNat_of_lt' (hsmall char hchar)] at hnumber
      exact hnulFree char hchar hnumber

end Latin

namespace Bytes

variable {buffer : Bytes} {offset limit : Nat}

/-- Where something is read, an access does not start past the end. -/
theorem fits_of_drop_eq {source rest : Bytes} {byte : UInt8}
    (hdrop : buffer.drop offset = source ++ byte :: rest) : buffer.Fits offset 0 := by
  have hlengths := congrArg List.length hdrop
  rw [List.length_drop, List.length_append, List.length_cons] at hlengths
  rw [Fits]
  omega

/-- A terminated UTF-16 text is read, and its terminator too unless the limit comes first. -/
theorem readUtf16_of_drop_eq {text : String} (hnulFree : NulFree text)
    (hlimit : (Utf16.encode text.toList).length ≤ limit) (rest : Bytes)
    (hdrop : buffer.drop offset =
      Utf16.toBytes (Utf16.encode text.toList) ++ 0 :: 0 :: rest) :
    buffer.readUtf16 offset limit =
      .ok (text, 2 * (Utf16.encode text.toList).length +
        if (Utf16.encode text.toList).length < limit then 2 else 0) := by
  rw [readUtf16, if_pos (fits_of_drop_eq hdrop), hdrop,
    Utf16.scan_toBytes hlimit (Utf16.encode_ne_zero hnulFree)]
  by_cases hshort : (Utf16.encode text.toList).length < limit
  · simp only [if_pos hshort, Utf16.decode_encode, String.ofList_toList]
  · simp only [if_neg hshort, Utf16.decode_encode, String.ofList_toList, Nat.add_zero]

/-- A terminated single-byte text is read, and its terminator too unless the limit comes first. -/
theorem readLatin_of_drop_eq {text : String} {encoded : Bytes} (hnulFree : NulFree text)
    (hencoded : Latin.encode text = .ok encoded) (hlimit : text.length ≤ limit) (rest : Bytes)
    (hdrop : buffer.drop offset = encoded ++ 0 :: rest) :
    buffer.readLatin offset limit =
      .ok (text, text.length + if text.length < limit then 1 else 0) := by
  obtain ⟨hdecoded, hlength, hnonzero⟩ := Latin.of_encode_eq hencoded
  have hregion : buffer.slice offset limit =
      encoded ++ (0 :: rest).take (limit - encoded.length) := by
    rw [slice, hdrop, List.take_append, List.take_of_length_le (by omega)]
  have hfound : (buffer.slice offset limit).takeWhile (fun byte => byte != 0) = encoded := by
    rw [hregion, List.takeWhile_append_of_pos fun byte hbyte =>
      bne_iff_ne.mpr (hnonzero hnulFree byte hbyte)]
    cases limit - encoded.length with
    | zero => rw [List.take_zero, List.takeWhile_nil, List.append_nil]
    | succ room =>
      rw [List.take_succ_cons, List.takeWhile_cons_of_neg (by decide), List.append_nil]
  rw [readLatin, if_pos (fits_of_drop_eq hdrop)]
  simp only [hfound]
  by_cases hshort : text.length < limit
  · have hterminator : encoded.length < (buffer.slice offset limit).length := by
      rw [hregion, List.length_append, List.length_take, List.length_cons]
      omega
    rw [if_pos hterminator, if_pos hshort, hdecoded, hlength]
  · have hcut : buffer.slice offset limit = encoded := by
      rw [hregion, Nat.sub_eq_zero_of_le (by omega), List.take_zero, List.append_nil]
    rw [hcut, if_neg (Nat.lt_irrefl _), if_neg (by omega), if_neg hshort, hdecoded, hlength,
      Nat.add_zero]

end Bytes

end SmbExchange
