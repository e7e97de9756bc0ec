import SmbExchange.Proofs.Text.Strings

/-!
# How far a text reaches

A reader takes bytes up to a terminator or up to its limit, never more than the
buffer has.  Decoding puts one character in the place of one unit or of one
surrogate pair, so the text has as many units as were read, whatever they were.
-/

namespace SmbExchange

namespace Utf16

theorem length_encodeChar (char : Char) :
    (encodeChar char).length = if char.toNat < 0x10000 then 1 else 2 := by
  rw [encodeChar]
  split <;> rfl

theorem toNat_ofNat {number : Nat} (hvalid : number.isValidChar) :
    (Char.ofNat number).toNat = number := by
  rw [Char.ofNat, dif_pos hvalid]
  rfl

theorem toNat_single_lt (unit : UInt16) : (single unit).toNat < 0x10000 := by
  have hunit := unit.toNat_lt
  rw [single]
  split
  · decide
  · rename_i hsurrogate
    rw [Bool.or_eq_true_iff, isHighSurrogate_iff, isLowSurrogate_iff] at hsurrogate
    have hvalid : unit.toNat.isValidChar := by
      rw [Nat.isValidChar]
      omega
    rwa [toNat_ofNat hvalid]

theorem le_toNat_pair {high low : UInt16} (hhigh : isHighSurrogate high = true)
    (hlow : isLowSurrogate low = true) : 0x10000 ≤ (pair high low).toNat := by
  rw [isHighSurrogate_iff] at hhigh
  rw [isLowSurrogate_iff] at hlow
  have hvalid : (0x10000 + (high.toNat - 0xD800) * 0x400 +
      (low.toNat - 0xDC00)).isValidChar := by
    rw [Nat.isValidChar]
    omega
  rw [pair, toNat_ofNat hvalid]
  omega

/-- A surrogate without its partner is replaced by one unit. -/
theorem length_encode_decode (units : List UInt16) :
    (encode (decode units)).length = units.length := by
  have hcons : ∀ (char : Char) (chars : List Char),
      (encode (char :: chars)).length = (encodeChar char).length + (encode chars).length := by
    intro char chars
    rw [encode, List.flatMap_cons, List.length_append, encode]
  induction units using decode.induct with
  | case1 => rfl
  | case2 unit =>
    rw [decode, hcons, length_encodeChar, if_pos (toNat_single_lt unit)]
    rfl
  | case3 first second rest hpair ih =>
    obtain ⟨hhigh, hlow⟩ := Bool.and_eq_true_iff.mp hpair
    rw [decode, if_pos hpair, hcons, ih, length_encodeChar,
      if_neg (Nat.not_lt.mpr (le_toNat_pair hhigh hlow)), List.length_cons, List.length_cons]
    omega
  | case4 first second rest hsingle ih =>
    rw [decode, if_neg hsingle, hcons, ih, length_encodeChar, if_pos (toNat_single_lt first)]
    exact Nat.add_comm _ _

/-- The units that were scanned, and a terminator that was met, are bytes of the string. -/
theorem length_scan_le (limit : Nat) (bytes : Bytes) :
    2 * (scan limit bytes).1.length + (if (scan limit bytes).2 = .terminator then 2 else 0) ≤
      bytes.length := by
  induction limit, bytes using scan.induct with
  | case1 bytes => exact Nat.zero_le _
  | case2 limit low high rest unit hzero =>
    rw [scan, if_pos hzero]
    simp
  | case3 limit low high rest unit hunit ih =>
    rw [scan, if_neg hunit]
    simp only [List.length_cons]
    omega
  | case4 limit bytes hshort =>
    rw [scan]
    · exact Nat.zero_le _
    · exact hshort

end Utf16

namespace Bytes

variable {buffer : Bytes} {offset limit consumed : Nat} {text : String}

theorem extent_of_readUtf16 (hread : buffer.readUtf16 offset limit = .ok (text, consumed)) :
    2 * (Utf16.encode text.toList).length ≤ consumed ∧ offset + consumed ≤ buffer.length := by
  have hscan := Utf16.length_scan_le limit (buffer.drop offset)
  rw [readUtf16] at hread
  split at hread
  · rename_i hfits
    rw [Fits] at hfits
    rw [List.length_drop] at hscan
    rcases hfound : Utf16.scan limit (buffer.drop offset) with ⟨units, _ | _ | _⟩
    all_goals
      rw [hfound] at hread hscan
      cases hread
    · rw [String.toList_ofList, Utf16.length_encode_decode]
      simp only [if_true] at hscan
      omega
    · rw [String.toList_ofList, Utf16.length_encode_decode]
      simp only [reduceCtorEq, if_false] at hscan
      omega
  · cases hread

theorem extent_of_readLatin (hread : buffer.readLatin offset limit = .ok (text, consumed)) :
    text.length ≤ consumed ∧ offset + consumed ≤ buffer.length := by
  have hlength : ∀ bytes : Bytes, (Latin.decode bytes).length = bytes.length := by
    intro bytes
    rw [Latin.decode, ← String.length_toList, String.toList_ofList, List.length_map]
  have hregion := length_slice buffer offset limit
  rw [readLatin] at hread
  split at hread
  · rename_i hfits
    rw [Fits] at hfits
    dsimp only at hread
    split at hread
    · rename_i hterminated
      cases hread
      rw [hlength]
      omega
    · split at hread
      · cases hread
      · cases hread
        rw [hlength]
        omega
  · cases hread

end Bytes

end SmbExchange
