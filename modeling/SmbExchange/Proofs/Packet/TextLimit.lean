import SmbExchange.Proofs.Packet.Items

/-!
# Texts of the greatest length

Whoever packs a text adds a terminator, however long the text is.  A reader
that is told no length takes `maximumString` units or characters at most, and
passes a terminator only if it meets one before that.  A text of exactly this
length is therefore read as it was packed, but its terminator is left over and
is what is unpacked next.
-/

namespace SmbExchange.Packet

/-- The terminated text stands at `start`, and the cursor behind it. -/
structure HoldsText (packet : Packet) (start : Nat) (text : String) (unicode : Bool) : Prop where
  position_eq : packet.position = start + (Item.text text unicode).source.length
  fits : packet.position ≤ packet.capacity
  slice_eq : packet.buffer.slice start (Item.text text unicode).source.length =
    (Item.text text unicode).source
  encodable : unicode = false →
    Latin.encode text = .ok (text.toList.map fun char => UInt8.ofNat char.toNat)

/-! ## The bytes of a terminated text -/

/-- Behind the units stands one that is zero. -/
theorem slice_source_text (text : String) (unicode : Bool) :
    (Item.text text unicode).source.slice (unitWidth unicode * textUnits text unicode)
      (unitWidth unicode) = Bytes.zeros (unitWidth unicode) := by
  have hbehind : ∀ body : Bytes, body.length = unitWidth unicode * textUnits text unicode →
      Bytes.slice (body ++ Bytes.zeros (unitWidth unicode))
        (unitWidth unicode * textUnits text unicode) (unitWidth unicode) =
          Bytes.zeros (unitWidth unicode) := by
    intro body hbody
    rw [← hbody, Bytes.slice, List.drop_left]
    exact List.take_of_length_le (Nat.le_of_eq (Bytes.length_zeros _))
  cases unicode with
  | true => exact hbehind _ (Utf16.length_toBytes _)
  | false =>
    refine hbehind _ ?_
    rw [List.length_map, String.length_toList]
    exact (Nat.one_mul _).symm

/-! ## Packing -/

section Pack

variable {packet packed : Packet} {text : String}

/-- A packed text stands where unpacking looks for it, wherever the cursor was. -/
theorem exists_holdsText_of_packString {unicode : Bool}
    (hpack : packet.packString text unicode = some (.ok (), packed)) :
    ∃ start, packet.textStart? unicode = some start ∧ packed.HoldsText start text unicode := by
  obtain ⟨start, hstart, hpacked⟩ := exists_start_of_packString hpack
  refine ⟨start, hstart, ?_⟩
  cases unicode with
  | true =>
    obtain ⟨padded, -, hfits, rfl⟩ := exists_padded_of_packUtf16 hpacked
    refine ⟨rfl, ?_, Bytes.slice_patch_self hfits, nofun⟩
    exact Nat.le_trans hfits (Nat.le_of_eq (capacity_patch padded _ _).symm)
  | false =>
    obtain rfl : start = packet.position := (textStart?_eq_some_iff.mp hstart).2
    obtain ⟨hencoded, hstored⟩ := encode_of_packLatin hpacked
    obtain ⟨rfl, hfits⟩ := pack_eq_ok hstored
    refine ⟨rfl, ?_, Bytes.slice_patch_self hfits, fun _ => hencoded⟩
    exact Nat.le_trans hfits (Nat.le_of_eq (capacity_patch packet _ _).symm)

end Pack

/-! ## Unpacking -/

section Unpack

variable {packet : Packet} {text : String} {unicode : Bool} {start : Nat}

/-- What was left over is the terminator, and the cursor is behind the text once it is read. -/
theorem unpack_terminator (hholds : packet.HoldsText start text unicode) :
    Packet.unpack { packet with
        position := start + unitWidth unicode * textUnits text unicode } (unitWidth unicode) =
      (.ok (Bytes.zeros (unitWidth unicode)), packet) := by
  obtain ⟨hposition, hfits, hslice, -⟩ := hholds
  have hlength := length_source_text text unicode
  have hend : start + unitWidth unicode * textUnits text unicode + unitWidth unicode =
      packet.position := by
    rw [hposition, hlength, Nat.add_assoc]
  have hinside : packet.buffer.Fits (start + unitWidth unicode * textUnits text unicode)
      (unitWidth unicode) := by
    rw [Bytes.Fits, hend]
    exact hfits
  have hzeros : packet.buffer.slice (start + unitWidth unicode * textUnits text unicode)
      (unitWidth unicode) = Bytes.zeros (unitWidth unicode) := by
    rw [← slice_source_text text unicode, ← hslice, Bytes.slice_slice (Nat.le_of_eq hlength.symm)]
  rw [unpack, Bytes.read, if_pos hinside, hzeros]
  simp only [hend]

/-- The cursor is put behind the text, and behind its terminator if the text is not too long. -/
theorem unpackString_of_holdsText {position : UInt64}
    (hstart : (packet.setPosition position).textStart? unicode = some start)
    (hholds : packet.HoldsText start text unicode) (hnulFree : NulFree text)
    (hlimit : textUnits text unicode ≤ maximumString) :
    (packet.setPosition position).unpackString unicode =
      some (.ok text, { packet with position := start + (unitWidth unicode * textUnits text unicode +
        if textUnits text unicode < maximumString then unitWidth unicode else 0) }) := by
  have hread := textAt_of_slice_eq hholds.slice_eq hholds.encodable hnulFree hlimit
  change (packet.setPosition position).textAt start maximumString unicode = _ at hread
  rw [unpackString, hstart, Option.map_some]
  simp only [hread]
  rfl

end Unpack

/-- A text of at most the greatest length is unpacked as it was packed.  The packet is then what it
was when the text had been packed, unless the text has just that length: then its terminator is
what is unpacked next. -/
theorem unpackString_of_packString (packet packed : Packet) (start : UInt64) (text : String)
    (unicode : Bool) (hnulFree : NulFree text) (hlimit : textUnits text unicode ≤ maximumString)
    (hpack : (packet.setPosition start).packString text unicode = some (.ok (), packed)) :
    ∃ after, (packed.setPosition start).unpackString unicode = some (.ok text, after) ∧
      (after = packed ↔ textUnits text unicode < maximumString) ∧
      (textUnits text unicode = maximumString →
        after.unpack (unitWidth unicode) = (.ok (Bytes.zeros (unitWidth unicode)), packed)) := by
  -- The text starts where it did for packing, since only the cursor decides that.
  obtain ⟨place, hplace, hholds⟩ := exists_holdsText_of_packString hpack
  have hposition := hholds.position_eq
  rw [length_source_text] at hposition
  refine ⟨_, unpackString_of_holdsText hplace hholds hnulFree hlimit, ?_, ?_⟩
  · constructor
    · intro hsame
      have hwidth : 0 < unitWidth unicode := by cases unicode <;> decide
      have hbehind := congrArg position hsame
      simp only [hposition] at hbehind
      split at hbehind
      · assumption
      · omega
    · intro hshort
      simp only [if_pos hshort, ← hposition]
  · intro hfull
    rw [if_neg (by omega), Nat.add_zero]
    exact unpack_terminator hholds

/-- A text of the greatest length, with 127 surrogate pairs. -/
def longestText : String :=
  String.ofList ('a' :: List.replicate 127 '😀')

theorem toList_longestText : longestText.toList = 'a' :: List.replicate 127 '😀' :=
  String.toList_ofList

theorem nulFree_longestText : NulFree longestText := by
  intro char hchar
  rw [toList_longestText] at hchar
  rcases List.mem_cons.mp hchar with rfl | hpair
  · decide
  · obtain rfl := List.eq_of_mem_replicate hpair
    decide

theorem exists_packString_longestText :
    ∃ packed, (new.setPosition 41).packString longestText true = some (.ok (), packed) := by
  have hstart : (new.setPosition 41).textStart? true = some 42 := rfl
  rw [packString, hstart, Option.map_some, if_pos rfl, packUtf16, toList_longestText]
  exact ⟨_, congrArg some (attempt_eq_ok (by decide +kernel))⟩

/-- The text stands behind a padding zero, and its terminator is left over. -/
theorem unpackString_of_packString_longestText :
    NulFree longestText ∧ textUnits longestText true = maximumString ∧
      ∃ packed after, (new.setPosition 41).packString longestText true = some (.ok (), packed) ∧
        (packed.setPosition 41).unpackString true = some (.ok longestText, after) ∧
        after ≠ packed ∧ after.unpack (unitWidth true) = (.ok [0, 0], packed) := by
  have hunits : textUnits longestText true = maximumString := by
    rw [textUnits, toList_longestText]
    decide +kernel
  obtain ⟨packed, hpack⟩ := exists_packString_longestText
  obtain ⟨after, hunpack, hsame, hleft⟩ := unpackString_of_packString new _ 41 longestText true
    nulFree_longestText (Nat.le_of_eq hunits) hpack
  refine ⟨nulFree_longestText, hunits, _, after, hpack, hunpack, fun hafter => ?_, hleft hunits⟩
  exact absurd (hsame.mp hafter) (Nat.not_lt.mpr (Nat.le_of_eq hunits.symm))

/-- A single-byte text of the greatest length. -/
def fullText : String :=
  String.ofList (List.replicate 255 'a')

theorem toList_fullText : fullText.toList = List.replicate 255 'a' :=
  String.toList_ofList

/-- A packet of the least capacity, in which the text is packed and unpacked at offset 40. -/
def emptyAtForty : Packet :=
  (blank minimumCapacity (Nat.le_refl _)).setPosition 40

theorem nulFree_fullText : NulFree fullText := by
  intro char hchar
  rw [toList_fullText] at hchar
  obtain rfl := List.eq_of_mem_replicate hchar
  decide

theorem textUnits_fullText : textUnits fullText false = maximumString := by
  rw [textUnits, ← String.length_toList, toList_fullText]
  decide +kernel

theorem exists_packString_fullText :
    ∃ packed, emptyAtForty.packString fullText false = some (.ok (), packed) := by
  have hstart : emptyAtForty.textStart? false = some 40 := rfl
  rw [packString, hstart, Option.map_some, if_neg Bool.false_ne_true, packLatin, Latin.encode,
    toList_fullText]
  exact ⟨_, congrArg some (attempt_eq_ok (by decide +kernel))⟩

theorem unpackString_leaves_terminator :
    ¬ ∀ (packet packed : Packet) (start : UInt64) (text : String) (unicode : Bool),
      NulFree text → textUnits text unicode ≤ maximumString →
        (packet.setPosition start).packString text unicode = some (.ok (), packed) →
          (packed.setPosition start).unpackString unicode = some (.ok text, packed) := by
  intro hkept
  have hlimit := Nat.le_of_eq textUnits_fullText
  obtain ⟨packed, hpack⟩ := exists_packString_fullText
  obtain ⟨place, hplace, hholds⟩ := exists_holdsText_of_packString hpack
  have hunpack := hkept (blank minimumCapacity (Nat.le_refl _)) packed 40 fullText false
    nulFree_fullText hlimit hpack
  have hshort := hunpack.symm.trans
    (unpackString_of_holdsText hplace hholds nulFree_fullText hlimit)
  have hposition := congrArg position (Prod.mk.inj (Option.some.inj hshort)).2
  simp only [hholds.position_eq, length_source_text, textUnits_fullText, Nat.lt_irrefl, if_false,
    unitWidth] at hposition
  omega

end SmbExchange.Packet
