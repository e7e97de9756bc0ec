import SmbExchange.Proofs.Bytes.Primitives
import SmbExchange.Proofs.Packet.Items

/-!
# Writing and reading texts undo each other

Both encodings are lists of units, of one byte or of two.  A reader stops for
one of three reasons, and what it gives depends on the units in front of that
place alone.  So a text that was written is read again from its own units, and a
text that was read can be put back over its own bytes, unless a surrogate in it
had no partner and was replaced.
-/

namespace SmbExchange

open LittleEndian (encode decode span)
open Packet (textUnits unitWidth)
open Utf16 (Ending)

/-! ## Units -/

/-- Every surrogate stands with its partner. -/
inductive Utf16.Paired : List Nat → Prop where
  | nil : Paired []
  | single {unit : Nat} {units : List Nat} (hsurrogate : unit < 0xD800 ∨ 0xDFFF < unit)
    (hrest : Paired units) : Paired (unit :: units)
  | pair {high low : Nat} {units : List Nat} (hhigh : 0xD800 ≤ high ∧ high < 0xDC00)
    (hlow : 0xDC00 ≤ low ∧ low < 0xE000) (hrest : Paired units) : Paired (high :: low :: units)

namespace Units

def ofText (text : String) : (unicode : Bool) → List Nat
  | true => (Utf16.encode text.toList).map UInt16.toNat
  | false => text.toList.map Char.toNat

def toText (units : List Nat) : (unicode : Bool) → String
  | true => String.ofList (Utf16.decode (units.map UInt16.ofNat))
  | false => String.ofList (units.map Char.ofNat)

def toBytes (units : List Nat) (unicode : Bool) : Bytes :=
  units.flatMap (encode (unitWidth unicode))

/-- Units as they stand in front of the end of a text. -/
structure Legible (units : List Nat) (unicode : Bool) : Prop where
  ne_zero : ∀ unit ∈ units, unit ≠ 0
  lt_span : ∀ unit ∈ units, unit < span (unitWidth unicode)

variable {units : List Nat} {unicode : Bool} {text : String}

theorem Legible.tail {unit : Nat} (hlegible : Legible (unit :: units) unicode) :
    Legible units unicode :=
  ⟨fun other hother => hlegible.ne_zero other (List.mem_cons_of_mem unit hother),
    fun other hother => hlegible.lt_span other (List.mem_cons_of_mem unit hother)⟩

theorem length_ofText (text : String) (unicode : Bool) :
    (ofText text unicode).length = textUnits text unicode := by
  cases unicode with
  | true => rw [ofText, List.length_map, textUnits]
  | false => rw [ofText, List.length_map, String.length_toList, textUnits]

theorem length_toBytes (units : List Nat) (unicode : Bool) :
    (toBytes units unicode).length = unitWidth unicode * units.length := by
  induction units with
  | nil => rfl
  | cons unit units ih =>
    rw [toBytes, List.flatMap_cons, List.length_append, LittleEndian.length_encode, ← toBytes, ih,
      List.length_cons, Nat.mul_succ, Nat.add_comm]

theorem slice_toBytes_append {index unit : Nat} (hunit : units[index]? = some unit)
    (rest : Bytes) :
    (toBytes units unicode ++ rest).slice (unitWidth unicode * index) (unitWidth unicode) =
      encode (unitWidth unicode) unit := by
  induction units generalizing index with
  | nil => cases hunit
  | cons first units ih =>
    have hlength := LittleEndian.length_encode (unitWidth unicode) first
    rw [toBytes, List.flatMap_cons, List.append_assoc]
    cases index with
    | zero =>
      obtain rfl : first = unit := Option.some.inj hunit
      rw [Nat.mul_zero, Bytes.slice, List.drop_zero, List.take_left' hlength]
    | succ index =>
      rw [Nat.mul_succ, Nat.add_comm, Bytes.slice, ← List.drop_drop, List.drop_left' hlength]
      exact ih hunit

theorem toText_ofText (text : String) (unicode : Bool) :
    toText (ofText text unicode) unicode = text := by
  cases unicode with
  | true =>
    have hunits : (UInt16.ofNat ∘ UInt16.toNat : UInt16 → UInt16) = id := by
      funext unit
      exact UInt16.ofNat_toNat
    rw [toText, ofText, List.map_map, hunits, List.map_id, Utf16.decode_encode,
      String.ofList_toList]
  | false =>
    have hchars : (Char.ofNat ∘ Char.toNat : Char → Char) = id := by
      funext char
      exact Char.ofNat_toNat char
    rw [toText, ofText, List.map_map, hchars, List.map_id, String.ofList_toList]

/-- Units and characters replaced for them are the same in number. -/
theorem textUnits_toText (units : List Nat) (unicode : Bool) :
    textUnits (toText units unicode) unicode = units.length := by
  cases unicode with
  | true =>
    rw [toText, textUnits, String.toList_ofList, Utf16.length_encode_decode, List.length_map]
  | false =>
    rw [toText, textUnits, ← String.length_toList, String.toList_ofList, List.length_map]

end Units

namespace Utf16

/-- A unit that is no surrogate is a character. -/
theorem exists_decode_single {unit : Nat} (hspan : unit < 0x10000)
    (hsurrogate : unit < 0xD800 ∨ 0xDFFF < unit) (units : List UInt16) :
    ∃ char, decode (UInt16.ofNat unit :: units) = char :: decode units ∧
      (encodeChar char).map UInt16.toNat = [unit] := by
  have hunit : (UInt16.ofNat unit).toNat = unit := UInt16.toNat_ofNat_of_lt' hspan
  have hhigh : isHighSurrogate (UInt16.ofNat unit) = false := by
    rw [← Bool.not_eq_true, isHighSurrogate_iff, hunit]
    omega
  have hlow : isLowSurrogate (UInt16.ofNat unit) = false := by
    rw [← Bool.not_eq_true, isLowSurrogate_iff, hunit]
    omega
  have hvalid : unit.isValidChar := by
    rw [Nat.isValidChar]
    omega
  refine ⟨Char.ofNat unit, ?_, ?_⟩
  · rw [decode_cons_of_not_surrogate hhigh hlow, hunit]
  · rw [map_encodeChar_of_lt (by rwa [toNat_ofNat hvalid]), toNat_ofNat hvalid]

/-- Two surrogates are the character that they were made for. -/
theorem exists_decode_pair {high low : Nat} (hhigh : 0xD800 ≤ high ∧ high < 0xDC00)
    (hlow : 0xDC00 ≤ low ∧ low < 0xE000) (units : List UInt16) :
    ∃ char, decode (UInt16.ofNat high :: UInt16.ofNat low :: units) = char :: decode units ∧
      (encodeChar char).map UInt16.toNat = [high, low] := by
  have hhighUnit : (UInt16.ofNat high).toNat = high :=
    UInt16.toNat_ofNat_of_lt' (Nat.lt_trans hhigh.2 (by decide))
  have hlowUnit : (UInt16.ofNat low).toNat = low :=
    UInt16.toNat_ofNat_of_lt' (Nat.lt_trans hlow.2 (by decide))
  have hsurrogates : (isHighSurrogate (UInt16.ofNat high) &&
      isLowSurrogate (UInt16.ofNat low)) = true := by
    rw [Bool.and_eq_true, isHighSurrogate_iff, isLowSurrogate_iff, hhighUnit, hlowUnit]
    omega
  have hvalid : (0x10000 + (high - 0xD800) * 0x400 + (low - 0xDC00)).isValidChar := by
    rw [Nat.isValidChar]
    omega
  refine ⟨pair (UInt16.ofNat high) (UInt16.ofNat low), ?_, ?_⟩
  · rw [decode, if_pos hsurrogates]
  · rw [pair, hhighUnit, hlowUnit, map_encodeChar_of_le (by rw [toNat_ofNat hvalid]; omega),
      toNat_ofNat hvalid]
    simp only [List.cons.injEq, and_true]
    omega

/-- No unit of a text whose surrogates are paired is lost in reading. -/
theorem encode_decode {units : List Nat} (hpaired : Paired units)
    (hspan : ∀ unit ∈ units, unit < 0x10000) :
    (encode (decode (units.map UInt16.ofNat))).map UInt16.toNat = units := by
  induction hpaired with
  | nil => rfl
  | @single unit units hsurrogate hrest ih =>
    obtain ⟨hunit, hothers⟩ := List.forall_mem_cons.mp hspan
    obtain ⟨char, hdecode, hchar⟩ :=
      exists_decode_single hunit hsurrogate (units.map UInt16.ofNat)
    rw [List.map_cons, hdecode, map_encode_cons, hchar, ih hothers]
    rfl
  | @pair high low units hhigh hlow hrest ih =>
    obtain ⟨-, hbehind⟩ := List.forall_mem_cons.mp hspan
    obtain ⟨-, hothers⟩ := List.forall_mem_cons.mp hbehind
    obtain ⟨char, hdecode, hchar⟩ := exists_decode_pair hhigh hlow (units.map UInt16.ofNat)
    rw [List.map_cons, List.map_cons, hdecode, map_encode_cons, hchar, ih hothers]
    rfl

end Utf16

/-! ## Readers -/

/-- A text of so many units ends in front of some bytes. -/
def EndsBefore (unicode : Bool) (limit count : Nat) (rest : Bytes) : Ending → Prop
  | .terminator => count < limit ∧ ∃ behind, rest = Bytes.zeros (unitWidth unicode) ++ behind
  | .limit => count = limit
  | .exhausted => count < limit ∧ rest.length < unitWidth unicode

theorem EndsBefore.exists_pred {unicode : Bool} {limit count : Nat} {rest : Bytes}
    {ending : Ending} (hends : EndsBefore unicode limit (count + 1) rest ending) :
    ∃ fewer, limit = fewer + 1 ∧ EndsBefore unicode fewer count rest ending := by
  cases ending with
  | terminator =>
    obtain ⟨hlimit, hrest⟩ := hends
    exact ⟨limit - 1, by omega, by omega, hrest⟩
  | limit => exact ⟨count, hends.symm, rfl⟩
  | exhausted =>
    obtain ⟨hlimit, hshort⟩ := hends
    exact ⟨limit - 1, by omega, by omega, hshort⟩

theorem EndsBefore.succ {unicode : Bool} {limit count : Nat} {rest : Bytes} {ending : Ending}
    (hends : EndsBefore unicode limit count rest ending) :
    EndsBefore unicode (limit + 1) (count + 1) rest ending := by
  cases ending with
  | terminator => exact ⟨Nat.succ_lt_succ hends.1, hends.2⟩
  | limit => exact congrArg Nat.succ hends
  | exhausted => exact ⟨Nat.succ_lt_succ hends.1, hends.2⟩

theorem EndsBefore.le {unicode : Bool} {limit count : Nat} {rest : Bytes} {ending : Ending}
    (hends : EndsBefore unicode limit count rest ending) : count ≤ limit := by
  cases ending with
  | terminator => exact Nat.le_of_lt hends.1
  | limit => exact Nat.le_of_eq hends
  | exhausted => exact Nat.le_of_lt hends.1

namespace Utf16

/-- Where a text ends, nothing is read. -/
theorem scan_of_endsBefore {limit : Nat} {rest : Bytes} {ending : Ending}
    (hends : EndsBefore true limit 0 rest ending) : scan limit rest = ([], ending) := by
  cases ending with
  | terminator =>
    obtain ⟨hlimit, behind, rfl⟩ := hends
    obtain ⟨limit, rfl⟩ := Nat.exists_eq_succ_of_ne_zero (Nat.ne_of_gt hlimit)
    rfl
  | limit =>
    obtain rfl : 0 = limit := hends
    rfl
  | exhausted =>
    obtain ⟨hlimit, hshort⟩ := hends
    obtain ⟨limit, rfl⟩ := Nat.exists_eq_succ_of_ne_zero (Nat.ne_of_gt hlimit)
    match rest, hshort with
    | [], _ => rfl
    | [_], _ => rfl

theorem scan_cons {unit : Nat} (hspan : unit < span 2) (hne : unit ≠ 0) (limit : Nat)
    (rest : Bytes) :
    scan (limit + 1) (LittleEndian.encode 2 unit ++ rest) =
      (UInt16.ofNat unit :: (scan limit rest).1, (scan limit rest).2) := by
  have hword : LittleEndian.toWord [UInt8.ofNat unit, UInt8.ofNat (unit / 256)] =
      UInt16.ofNat unit := by
    change LittleEndian.toWord (LittleEndian.encode 2 unit) = _
    rw [LittleEndian.toWord, LittleEndian.decode_encode, Nat.mod_eq_of_lt hspan]
  have hnonzero : UInt16.ofNat unit ≠ 0 := by
    intro hzero
    have hnumber := congrArg UInt16.toNat hzero
    rw [UInt16.toNat_ofNat_of_lt' hspan] at hnumber
    exact hne hnumber
  change scan (limit + 1) (UInt8.ofNat unit :: UInt8.ofNat (unit / 256) :: rest) = _
  rw [scan, hword]
  simp only [if_neg hnonzero]

theorem scan_append {units : List Nat} (hlegible : Units.Legible units true) {limit : Nat}
    {rest : Bytes} {ending : Ending} (hends : EndsBefore true limit units.length rest ending) :
    scan limit (Units.toBytes units true ++ rest) = (units.map UInt16.ofNat, ending) := by
  induction units generalizing limit with
  | nil => exact scan_of_endsBefore hends
  | cons unit units ih =>
    obtain ⟨fewer, rfl, hrest⟩ := hends.exists_pred
    have hspan : unit < span 2 := hlegible.lt_span unit List.mem_cons_self
    have hne := hlegible.ne_zero unit List.mem_cons_self
    rw [Units.toBytes, List.flatMap_cons, List.append_assoc]
    change scan (fewer + 1) (LittleEndian.encode 2 unit ++ (Units.toBytes units true ++ rest)) = _
    rw [scan_cons hspan hne, ih hlegible.tail hrest, List.map_cons]

end Utf16

namespace Latin

variable {units : List Nat}

theorem toBytes_eq (units : List Nat) :
    Units.toBytes units false = units.map fun unit => UInt8.ofNat unit := by
  induction units with
  | nil => rfl
  | cons unit units ih => exact congrArg (UInt8.ofNat unit :: ·) ih

theorem bne_zero_of_mem (hlegible : Units.Legible units false) :
    ∀ byte ∈ Units.toBytes units false, (byte != 0) = true := by
  intro byte hbyte
  rw [toBytes_eq] at hbyte
  obtain ⟨unit, hunit, rfl⟩ := List.mem_map.mp hbyte
  rw [bne_iff_ne]
  intro hzero
  have hnumber := congrArg UInt8.toNat hzero
  rw [UInt8.toNat_ofNat_of_lt' (hlegible.lt_span unit hunit)] at hnumber
  exact hlegible.ne_zero unit hunit hnumber

theorem takeWhile_toBytes (hlegible : Units.Legible units false) :
    (Units.toBytes units false).takeWhile (fun byte => byte != 0) = Units.toBytes units false := by
  rw [← List.append_nil (Units.toBytes units false),
    List.takeWhile_append_of_pos (bne_zero_of_mem hlegible)]
  rfl

theorem takeWhile_append_zero (hlegible : Units.Legible units false) (behind : Bytes) :
    (Units.toBytes units false ++ 0 :: behind).takeWhile (fun byte => byte != 0) =
      Units.toBytes units false := by
  rw [List.takeWhile_append_of_pos (bne_zero_of_mem hlegible),
    List.takeWhile_cons_of_neg (by decide), List.append_nil]

theorem decode_toBytes (hlegible : Units.Legible units false) :
    decode (Units.toBytes units false) = Units.toText units false := by
  rw [decode, toBytes_eq, List.map_map, Units.toText]
  refine congrArg String.ofList (List.map_congr_left fun unit hunit => ?_)
  exact congrArg Char.ofNat (UInt8.toNat_ofNat_of_lt' (hlegible.lt_span unit hunit))

end Latin

namespace Bytes

/-- Reads a text of at most `limit` units. -/
def readText (buffer : Bytes) (offset limit : Nat) : (unicode : Bool) → Except Fault (String × Nat)
  | true => buffer.readUtf16 offset limit
  | false => buffer.readLatin offset limit

def writeText (buffer : Bytes) (offset : Nat) (text : String) (terminated : Bool) :
    (unicode : Bool) → Except Fault Written
  | true => buffer.writeUtf16 offset text terminated
  | false => buffer.writeLatin offset text terminated

/-- What a reader gives that stopped behind units. -/
def Gives (result : Except Fault (String × Nat)) (units : List Nat) (unicode : Bool) :
    Ending → Prop
  | .terminator =>
    result = .ok (Units.toText units unicode, unitWidth unicode * (units.length + 1))
  | .limit => result = .ok (Units.toText units unicode, unitWidth unicode * units.length)
  | .exhausted => ∃ fault, result = .error fault

section Reading

variable {buffer : Bytes} {offset limit : Nat} {units : List Nat} {rest : Bytes} {ending : Ending}

theorem gives_readUtf16 (hoffset : offset ≤ buffer.length)
    (hdrop : buffer.drop offset = Units.toBytes units true ++ rest)
    (hlegible : Units.Legible units true)
    (hends : EndsBefore true limit units.length rest ending) :
    Gives (buffer.readUtf16 offset limit) units true ending := by
  have hfits : buffer.Fits offset 0 := hoffset
  have hcount : (units.map UInt16.ofNat).length = units.length := List.length_map _
  rw [readUtf16, if_pos hfits, hdrop, Utf16.scan_append hlegible hends]
  cases ending with
  | terminator => exact congrArg (fun count => Except.ok (_, 2 * count + 2)) hcount
  | limit => exact congrArg (fun count => Except.ok (_, 2 * count)) hcount
  | exhausted => exact ⟨_, rfl⟩

theorem gives_readLatin (hoffset : offset ≤ buffer.length)
    (hdrop : buffer.drop offset = Units.toBytes units false ++ rest)
    (hlegible : Units.Legible units false)
    (hends : EndsBefore false limit units.length rest ending) :
    Gives (buffer.readLatin offset limit) units false ending := by
  have hfits : buffer.Fits offset 0 := hoffset
  have hlength := Units.length_toBytes units false
  rw [unitWidth, Nat.one_mul] at hlength
  have hregion : buffer.slice offset limit =
      Units.toBytes units false ++ rest.take (limit - units.length) := by
    have hle : units.length ≤ limit := hends.le
    rw [slice, hdrop, List.take_append, hlength, List.take_of_length_le (by omega)]
  have hwhole := Latin.takeWhile_toBytes hlegible
  rw [readLatin, if_pos hfits]
  cases ending with
  | terminator =>
    obtain ⟨hlimit, behind, rfl⟩ := hends
    obtain ⟨room, hroom⟩ : ∃ room, limit - units.length = room + 1 :=
      ⟨limit - units.length - 1, by omega⟩
    have htake : (zeros (unitWidth false) ++ behind).take (limit - units.length) =
        0 :: behind.take room := by
      rw [hroom]
      rfl
    simp only [hregion, htake, Latin.takeWhile_append_zero hlegible, List.length_append, hlength,
      List.length_cons]
    rw [if_pos (by omega), Latin.decode_toBytes hlegible, Gives, unitWidth, Nat.one_mul]
  | limit =>
    obtain rfl : units.length = limit := hends
    have htake : rest.take (units.length - units.length) = [] := by
      rw [Nat.sub_self, List.take_zero]
    simp only [hregion, htake, List.append_nil, hwhole, hlength, Nat.lt_irrefl, if_false]
    rw [Latin.decode_toBytes hlegible, Gives, unitWidth, Nat.one_mul]
  | exhausted =>
    obtain ⟨hlimit, hshort⟩ := hends
    obtain rfl : rest = [] := List.eq_nil_of_length_eq_zero (Nat.lt_one_iff.mp hshort)
    simp only [hregion, List.take_nil, List.append_nil, hwhole, hlength, Nat.lt_irrefl, if_false,
      if_pos hlimit]
    exact ⟨_, rfl⟩

theorem gives_readText {unicode : Bool} (hoffset : offset ≤ buffer.length)
    (hdrop : buffer.drop offset = Units.toBytes units unicode ++ rest)
    (hlegible : Units.Legible units unicode)
    (hends : EndsBefore unicode limit units.length rest ending) :
    Gives (buffer.readText offset limit unicode) units unicode ending := by
  cases unicode with
  | true => exact gives_readUtf16 hoffset hdrop hlegible hends
  | false => exact gives_readLatin hoffset hdrop hlegible hends

end Reading

/-- What is read fails only where there are no more units. -/
theorem Gives.fails_iff {result : Except Fault (String × Nat)} {units : List Nat} {unicode : Bool}
    {ending : Ending} (hgives : Gives result units unicode ending) :
    (∃ fault, result = .error fault) ↔ ending = .exhausted := by
  have hok : ∀ found, result = .ok found → ¬ ∃ fault, result = .error fault := by
    rintro found rfl ⟨fault, hfault⟩
    cases hfault
  cases ending with
  | terminator => exact iff_of_false (hok _ hgives) (by decide)
  | limit => exact iff_of_false (hok _ hgives) (by decide)
  | exhausted => exact iff_of_true hgives rfl

/-- A string starts with units and then ends a text, in one way or another. -/
theorem exists_endsBefore (bytes : Bytes) (limit : Nat) (unicode : Bool) :
    ∃ units rest ending, bytes = Units.toBytes units unicode ++ rest ∧
      Units.Legible units unicode ∧ EndsBefore unicode limit units.length rest ending := by
  induction limit generalizing bytes with
  | zero => exact ⟨[], bytes, .limit, rfl, ⟨nofun, nofun⟩, rfl⟩
  | succ limit ih =>
    by_cases hshort : bytes.length < unitWidth unicode
    · exact ⟨[], bytes, .exhausted, rfl, ⟨nofun, nofun⟩, Nat.succ_pos _, hshort⟩
    · have hlength : (bytes.take (unitWidth unicode)).length = unitWidth unicode := by
        rw [List.length_take]
        omega
      have hfirst := LittleEndian.encode_decode (bytes.take (unitWidth unicode))
      have hspan := LittleEndian.decode_lt_of_length hlength
      have hsplit := List.take_append_drop (unitWidth unicode) bytes
      rw [hlength] at hfirst
      generalize LittleEndian.decode (bytes.take (unitWidth unicode)) = unit at hfirst hspan
      rw [← hfirst] at hsplit
      by_cases hzero : unit = 0
      · subst hzero
        refine ⟨[], bytes, .terminator, rfl, ⟨nofun, nofun⟩, Nat.succ_pos _,
          bytes.drop (unitWidth unicode), ?_⟩
        have hzeros : encode (unitWidth unicode) 0 = zeros (unitWidth unicode) := by
          cases unicode <;> rfl
        rw [← hzeros, hsplit]
      · obtain ⟨units, rest, ending, hrest, hlegible, hends⟩ := ih (bytes.drop (unitWidth unicode))
        refine ⟨unit :: units, rest, ending, ?_, ?_, ?_⟩
        · rw [hrest, ← List.append_assoc] at hsplit
          exact hsplit.symm
        · exact ⟨List.forall_mem_cons.mpr ⟨hzero, hlegible.ne_zero⟩,
            List.forall_mem_cons.mpr ⟨hspan, hlegible.lt_span⟩⟩
        · exact hends.succ

def unitAt (buffer : Bytes) (offset : Nat) (unicode : Bool) (index : Nat) : Nat :=
  LittleEndian.decode (buffer.slice (offset + unitWidth unicode * index) (unitWidth unicode))

section Positions

variable {buffer : Bytes} {offset : Nat} {unicode : Bool} {units : List Nat} {rest : Bytes}

theorem unitAt_of_drop_eq (hdrop : buffer.drop offset = Units.toBytes units unicode ++ rest)
    {index unit : Nat} (hunit : units[index]? = some unit)
    (hspan : unit < span (unitWidth unicode)) : buffer.unitAt offset unicode index = unit := by
  rw [unitAt, slice, ← List.drop_drop, hdrop]
  change LittleEndian.decode (Bytes.slice _ _ _) = _
  rw [Units.slice_toBytes_append hunit, LittleEndian.decode_encode, Nat.mod_eq_of_lt hspan]

theorem unitAt_of_terminator {behind : Bytes}
    (hdrop : buffer.drop offset =
      Units.toBytes units unicode ++ (zeros (unitWidth unicode) ++ behind)) :
    buffer.unitAt offset unicode units.length = 0 := by
  have hlength := Units.length_toBytes units unicode
  rw [unitAt, slice, ← List.drop_drop, hdrop, List.drop_left' hlength,
    List.take_left' (length_zeros _)]
  cases unicode <;> rfl

theorem map_unitAt_range (hdrop : buffer.drop offset = Units.toBytes units unicode ++ rest)
    (hlegible : Units.Legible units unicode) :
    (List.range units.length).map (buffer.unitAt offset unicode) = units := by
  apply List.ext_getElem
  · rw [List.length_map, List.length_range]
  · intro index hindex hinside
    rw [List.getElem_map, List.getElem_range]
    exact unitAt_of_drop_eq hdrop (List.getElem?_eq_getElem hinside)
      (hlegible.lt_span _ (List.getElem_mem hinside))

end Positions

/-! ## Writers -/

def textBytes (text : String) (terminated unicode : Bool) : Bytes :=
  Units.toBytes (Units.ofText text unicode) unicode ++
    zeros (unitWidth unicode * terminated.toNat)

/-- A text can be written in units of one width. -/
def IsEncodable (text : String) (unicode : Bool) : Prop :=
  unicode = false → ∀ char ∈ text.toList, char.toNat ≤ 0xFF

theorem length_textBytes (text : String) (terminated unicode : Bool) :
    (textBytes text terminated unicode).length =
      unitWidth unicode * (textUnits text unicode + terminated.toNat) := by
  rw [textBytes, List.length_append, Units.length_toBytes, Units.length_ofText, length_zeros,
    Nat.mul_add]

section Writers

variable {buffer : Bytes} {offset : Nat} {text : String} {terminated unicode : Bool}
  {written : Written} {units : List Nat}

theorem writeText_of_encodable (hencodable : IsEncodable text unicode) (buffer : Bytes)
    (offset : Nat) (terminated : Bool) :
    buffer.writeText offset text terminated unicode =
      buffer.write offset (textBytes text terminated unicode) := by
  cases unicode with
  | true =>
    have hbytes : Units.toBytes (Units.ofText text true) true =
        Utf16.toBytes (Utf16.encode text.toList) := List.flatMap_map ..
    rw [writeText, writeUtf16, textBytes, hbytes]
    rfl
  | false =>
    have hbytes : Units.toBytes (Units.ofText text false) false =
        text.toList.map fun char => UInt8.ofNat char.toNat := by
      rw [Latin.toBytes_eq, Units.ofText, List.map_map]
      rfl
    rw [writeText, writeLatin, Latin.encode_of_small (hencodable rfl), textBytes, hbytes,
      unitWidth, Nat.one_mul]

theorem isEncodable_of_writeText
    (hwritten : buffer.writeText offset text terminated unicode = .ok written) :
    IsEncodable text unicode := by
  rintro rfl
  refine Classical.byContradiction fun hbeyond => ?_
  obtain ⟨char, -, hencode⟩ := Latin.exists_firstBeyond hbeyond
  rw [writeText, writeLatin, hencode] at hwritten
  cases hwritten

theorem legible_ofText (hencodable : IsEncodable text unicode) (hnulFree : NulFree text) :
    Units.Legible (Units.ofText text unicode) unicode := by
  cases unicode with
  | true =>
    refine ⟨fun number hnumber => ?_, fun number hnumber => ?_⟩
    all_goals obtain ⟨unit, hunit, rfl⟩ := List.mem_map.mp hnumber
    · exact fun hzero => Utf16.encode_ne_zero hnulFree unit hunit (UInt16.toNat.inj hzero)
    · exact unit.toNat_lt
  | false =>
    refine ⟨fun number hnumber => ?_, fun number hnumber => ?_⟩
    all_goals obtain ⟨char, hchar, rfl⟩ := List.mem_map.mp hnumber
    · exact hnulFree char hchar
    · exact Nat.lt_succ_of_le (hencodable rfl char hchar)

theorem toNat_ofNat_of_lt_span {unit : Nat} (hunit : unit < span (unitWidth false)) :
    (Char.ofNat unit).toNat = unit :=
  Utf16.toNat_ofNat (.inl (Nat.lt_trans hunit (by decide)))

theorem ofText_toText (hspan : ∀ unit ∈ units, unit < span (unitWidth unicode))
    (hpaired : unicode = true → Utf16.Paired units) :
    Units.ofText (Units.toText units unicode) unicode = units := by
  cases unicode with
  | true =>
    rw [Units.toText, Units.ofText, String.toList_ofList]
    exact Utf16.encode_decode (hpaired rfl) hspan
  | false =>
    have hunits : units.map (Char.toNat ∘ Char.ofNat) = units.map id :=
      List.map_congr_left fun unit hunit => toNat_ofNat_of_lt_span (hspan unit hunit)
    rw [Units.toText, Units.ofText, String.toList_ofList, List.map_map, hunits, List.map_id]

theorem isEncodable_toText (hspan : ∀ unit ∈ units, unit < span (unitWidth unicode)) :
    IsEncodable (Units.toText units unicode) unicode := by
  rintro rfl char hchar
  rw [Units.toText, String.toList_ofList] at hchar
  obtain ⟨unit, hunit, rfl⟩ := List.mem_map.mp hchar
  rw [toNat_ofNat_of_lt_span (hspan unit hunit)]
  exact Nat.le_of_lt_succ (hspan unit hunit)

end Writers

/-! ## Both ways -/

/-- What is read where a text has been written. -/
structure ReadsBack (buffer : Bytes) (offset : Nat) (text : String)
    (terminated unicode : Bool) : Prop where
  within : buffer.readText offset (textUnits text unicode) unicode =
    .ok (text, unitWidth unicode * textUnits text unicode)
  beyond : terminated = true → ∀ limit, textUnits text unicode < limit →
    buffer.readText offset limit unicode =
      .ok (text, unitWidth unicode * (textUnits text unicode + 1))

theorem exists_drop_of_writeText {buffer : Bytes} {offset : Nat} {text : String}
    {terminated unicode : Bool} {written : Written}
    (hwritten : buffer.writeText offset text terminated unicode = .ok written) :
    offset ≤ written.buffer.length ∧
      ∃ behind, written.buffer.drop offset = Units.toBytes (Units.ofText text unicode) unicode ++
        (zeros (unitWidth unicode * terminated.toNat) ++ behind) := by
  rw [writeText_of_encodable (isEncodable_of_writeText hwritten), write] at hwritten
  split at hwritten
  · rename_i hfits
    cases hwritten
    have hdrop := drop_of_slice_eq (slice_patch_self hfits)
    refine ⟨?_, _, by rw [← List.append_assoc]; exact hdrop⟩
    rw [length_patch]
    exact Nat.le_trans (Nat.le_add_right _ _) hfits
  · cases hwritten

theorem readsBack_of_writeText {buffer : Bytes} {offset : Nat} {text : String}
    {terminated unicode : Bool} {written : Written} (hnulFree : NulFree text)
    (hwritten : buffer.writeText offset text terminated unicode = .ok written) :
    ReadsBack written.buffer offset text terminated unicode := by
  have hlegible := legible_ofText (isEncodable_of_writeText hwritten) hnulFree
  have hcount := Units.length_ofText text unicode
  have htext := Units.toText_ofText text unicode
  obtain ⟨hoffset, behind, hdrop⟩ := exists_drop_of_writeText hwritten
  refine ⟨?_, ?_⟩
  · have hends : EndsBefore unicode (textUnits text unicode) (Units.ofText text unicode).length
        (zeros (unitWidth unicode * terminated.toNat) ++ behind) .limit := hcount
    have hread := gives_readText hoffset hdrop hlegible hends
    rwa [Gives, htext, hcount] at hread
  · rintro rfl limit hlimit
    have hends : EndsBefore unicode limit (Units.ofText text unicode).length
        (zeros (unitWidth unicode * true.toNat) ++ behind) .terminator :=
      ⟨hcount ▸ hlimit, behind, by rw [Bool.toNat_true, Nat.mul_one]⟩
    have hread := gives_readText hoffset hdrop hlegible hends
    rwa [Gives, htext, hcount] at hread

theorem readText_of_lt {buffer : Bytes} {offset : Nat} (houtside : buffer.length < offset)
    (limit : Nat) (unicode : Bool) :
    ∃ fault, buffer.readText offset limit unicode = .error fault := by
  have hfits : ¬ buffer.Fits offset 0 := Nat.not_le_of_lt houtside
  cases unicode with
  | true => exact ⟨_, by rw [readText, readUtf16, if_neg hfits]⟩
  | false => exact ⟨_, by rw [readText, readLatin, if_neg hfits]⟩

theorem le_length_of_readText {buffer : Bytes} {offset limit consumed : Nat} {text : String}
    {unicode : Bool} (hread : buffer.readText offset limit unicode = .ok (text, consumed)) :
    offset ≤ buffer.length := by
  refine Nat.le_of_not_lt fun houtside => ?_
  obtain ⟨fault, hfault⟩ := readText_of_lt houtside limit unicode
  rw [hfault] at hread
  cases hread

/-- Whatever stands in a buffer, a reader gives what its units are worth. -/
theorem exists_gives {buffer : Bytes} {offset : Nat} (hoffset : offset ≤ buffer.length)
    (limit : Nat) (unicode : Bool) :
    ∃ units rest ending, buffer.drop offset = Units.toBytes units unicode ++ rest ∧
      Units.Legible units unicode ∧ EndsBefore unicode limit units.length rest ending ∧
      Gives (buffer.readText offset limit unicode) units unicode ending := by
  obtain ⟨units, rest, ending, hdrop, hlegible, hends⟩ :=
    exists_endsBefore (buffer.drop offset) limit unicode
  exact ⟨units, rest, ending, hdrop, hlegible, hends,
    gives_readText hoffset hdrop hlegible hends⟩

theorem unitWidth_pos (unicode : Bool) : 0 < unitWidth unicode := by
  cases unicode <;> decide

/-- What was read stands at the offset, with its terminator if that was read too; otherwise the
limit has been reached. -/
theorem exists_units_of_readText {buffer : Bytes} {offset limit consumed : Nat} {text : String}
    {unicode : Bool} (hread : buffer.readText offset limit unicode = .ok (text, consumed)) :
    ∃ (units : List Nat) (terminated : Bool) (behind : Bytes),
      text = Units.toText units unicode ∧ Units.Legible units unicode ∧
      buffer.drop offset = Units.toBytes units unicode ++
        (zeros (unitWidth unicode * terminated.toNat) ++ behind) ∧
      consumed = unitWidth unicode * (units.length + terminated.toNat) ∧
      (terminated = false → units.length = limit) := by
  obtain ⟨units, rest, ending, hdrop, hlegible, hends, hgives⟩ :=
    exists_gives (le_length_of_readText hread) limit unicode
  cases ending with
  | terminator =>
    obtain ⟨-, behind, rfl⟩ := hends
    rw [Gives, hread] at hgives
    cases hgives
    exact ⟨units, true, behind, rfl, hlegible, by rwa [Bool.toNat_true, Nat.mul_one], rfl, nofun⟩
  | limit =>
    rw [Gives, hread] at hgives
    cases hgives
    refine ⟨units, false, rest, rfl, hlegible, ?_, rfl, fun _ => hends⟩
    rwa [Bool.toNat_false, Nat.mul_zero]
  | exhausted =>
    obtain ⟨fault, hfault⟩ := hgives
    rw [hfault] at hread
    cases hread

/-- A reader that may read something does, or fails. -/
theorem pos_of_readText {buffer : Bytes} {offset limit consumed : Nat} {text : String}
    {unicode : Bool} (hlimit : 0 < limit)
    (hread : buffer.readText offset limit unicode = .ok (text, consumed)) : 0 < consumed := by
  obtain ⟨units, terminated, behind, -, -, -, rfl, hcount⟩ := exists_units_of_readText hread
  refine Nat.mul_pos (unitWidth_pos unicode) ?_
  cases terminated with
  | true => exact Nat.succ_pos _
  | false => rwa [← hcount rfl] at hlimit

theorem write_of_drop_eq {buffer source rest : Bytes} {offset : Nat}
    (hoffset : offset ≤ buffer.length) (hdrop : buffer.drop offset = source ++ rest) :
    buffer.write offset source = .ok ⟨source.length, buffer⟩ := by
  have hlengths := congrArg List.length hdrop
  rw [List.length_drop, List.length_append] at hlengths
  have hfits : buffer.Fits offset source.length := by
    rw [Fits]
    omega
  have hslice : buffer.slice offset source.length = source := by
    rw [slice, hdrop, List.take_left]
  have hsame := patch_slice_self buffer offset source.length
  rw [hslice] at hsame
  rw [write, if_pos hfits, hsame]

/-- A text that was read is written where it stands. -/
theorem writeText_of_readText {buffer : Bytes} {offset limit consumed : Nat} {text : String}
    {unicode : Bool} (hread : buffer.readText offset limit unicode = .ok (text, consumed))
    (hpaired : unicode = true →
      Utf16.Paired ((List.range (textUnits text unicode)).map (buffer.unitAt offset unicode))) :
    buffer.writeText offset text (decide (unitWidth unicode * textUnits text unicode < consumed))
      unicode = .ok ⟨consumed, buffer⟩ := by
  have hoffset := le_length_of_readText hread
  obtain ⟨units, terminated, behind, rfl, hlegible, hdrop, rfl, -⟩ :=
    exists_units_of_readText hread
  rw [Units.textUnits_toText, map_unitAt_range hdrop hlegible] at hpaired
  have hterminated :
      decide (unitWidth unicode * units.length <
        unitWidth unicode * (units.length + terminated.toNat)) = terminated := by
    rw [Bool.eq_iff_iff, decide_eq_true_iff, Nat.mul_lt_mul_left (unitWidth_pos unicode)]
    cases terminated <;> simp
  have hbytes : textBytes (Units.toText units unicode) terminated unicode =
      Units.toBytes units unicode ++ zeros (unitWidth unicode * terminated.toNat) := by
    rw [textBytes, ofText_toText hlegible.lt_span hpaired]
  rw [← List.append_assoc, ← hbytes] at hdrop
  rw [Units.textUnits_toText, hterminated,
    writeText_of_encodable (isEncodable_toText hlegible.lt_span), write_of_drop_eq hoffset hdrop,
    length_textBytes, Units.textUnits_toText]

/-- The buffer ends before as many units as are asked for, and no terminator is in it. -/
def Exhausts (buffer : Bytes) (offset limit : Nat) (unicode : Bool) : Prop :=
  buffer.length < offset + unitWidth unicode * limit ∧
    ∀ index, offset + unitWidth unicode * (index + 1) ≤ buffer.length →
      buffer.unitAt offset unicode index ≠ 0

theorem exhausts_iff {buffer : Bytes} {offset limit : Nat} {unicode : Bool} {units : List Nat}
    {rest : Bytes} {ending : Ending} (hoffset : offset ≤ buffer.length)
    (hdrop : buffer.drop offset = Units.toBytes units unicode ++ rest)
    (hlegible : Units.Legible units unicode)
    (hends : EndsBefore unicode limit units.length rest ending) :
    buffer.Exhausts offset limit unicode ↔ ending = .exhausted := by
  have hlengths := congrArg List.length hdrop
  rw [List.length_drop, List.length_append, Units.length_toBytes] at hlengths
  cases ending with
  | terminator =>
    obtain ⟨-, behind, rfl⟩ := hends
    refine iff_of_false ?_ (by decide)
    rintro ⟨-, hnonzero⟩
    refine hnonzero units.length ?_ (unitAt_of_terminator hdrop)
    rw [List.length_append, length_zeros] at hlengths
    rw [Nat.mul_succ]
    omega
  | limit =>
    obtain rfl : units.length = limit := hends
    refine iff_of_false ?_ (by decide)
    rintro ⟨hshort, -⟩
    omega
  | exhausted =>
    obtain ⟨hlimit, hshort⟩ := hends
    have hbound : unitWidth unicode * (units.length + 1) ≤ unitWidth unicode * limit :=
      Nat.mul_le_mul_left _ hlimit
    rw [Nat.mul_succ] at hbound
    refine iff_of_true ⟨by omega, fun index hindex => ?_⟩ rfl
    have hinside : index < units.length := by
      refine Nat.lt_of_not_le fun hbeyond => ?_
      have hlonger : unitWidth unicode * (units.length + 1) ≤ unitWidth unicode * (index + 1) :=
        Nat.mul_le_mul_left _ (Nat.succ_le_succ hbeyond)
      rw [Nat.mul_succ] at hlonger
      omega
    have hmem := List.getElem_mem hinside
    rw [unitAt_of_drop_eq hdrop (List.getElem?_eq_getElem hinside) (hlegible.lt_span _ hmem)]
    exact hlegible.ne_zero _ hmem

theorem readText_fails_iff (buffer : Bytes) (offset limit : Nat) (unicode : Bool) :
    (∃ fault, buffer.readText offset limit unicode = .error fault) ↔
      buffer.length < offset ∨ buffer.Exhausts offset limit unicode := by
  by_cases houtside : buffer.length < offset
  · exact iff_of_true (readText_of_lt houtside limit unicode) (.inl houtside)
  · have hoffset := Nat.le_of_not_lt houtside
    obtain ⟨units, rest, ending, hdrop, hlegible, hends, hgives⟩ :=
      exists_gives hoffset limit unicode
    rw [hgives.fails_iff, exhausts_iff hoffset hdrop hlegible hends]
    exact (or_iff_right houtside).symm

/-- Writing and reading texts at an offset undo each other. -/
structure TextsInverse (buffer : Bytes) (offset : Nat) (unicode : Bool) : Prop where
  readsBack : ∀ (text : String) (terminated : Bool) (written : Written), NulFree text →
    buffer.writeText offset text terminated unicode = .ok written →
    ReadsBack written.buffer offset text terminated unicode
  /-- There has been a terminator if more was consumed than the text takes up. -/
  writesBack : ∀ (limit : Nat) (text : String) (consumed : Nat),
    buffer.readText offset limit unicode = .ok (text, consumed) →
    (unicode = true →
      Utf16.Paired ((List.range (textUnits text unicode)).map (buffer.unitAt offset unicode))) →
    buffer.writeText offset text (decide (unitWidth unicode * textUnits text unicode < consumed))
      unicode = .ok ⟨consumed, buffer⟩
  fails_iff : ∀ limit : Nat, (∃ fault, buffer.readText offset limit unicode = .error fault) ↔
    buffer.length < offset ∨ buffer.Exhausts offset limit unicode

theorem texts_inverse (buffer : Bytes) (offset : Nat) (unicode : Bool) :
    TextsInverse buffer offset unicode :=
  ⟨fun _ _ _ => readsBack_of_writeText, fun _ _ _ => writeText_of_readText,
    fun limit => readText_fails_iff buffer offset limit unicode⟩

/-- Nine bytes with a clef, a character of two units, from the second byte on. -/
def clef : Bytes :=
  [0, 0x34, 0xD8, 0x1E, 0xDD, 0, 0, 0, 0]

/-- The clef is read back, and put back over itself with its terminator. -/
theorem texts_inverse_clef :
    (zeros 9).writeText 1 "𝄞" true true = .ok ⟨6, clef⟩ ∧
      clef.readText 1 255 true = .ok ("𝄞", 6) ∧
      clef.writeText 1 "𝄞" true true = .ok ⟨6, clef⟩ := by
  have hwritten : (zeros 9).writeText 1 "𝄞" true true = .ok ⟨6, clef⟩ := by
    rfl
  have hnulFree : NulFree "𝄞" := by decide
  have hback := (texts_inverse (zeros 9) 1 true).readsBack "𝄞" true ⟨6, clef⟩ hnulFree hwritten
  have hread : clef.readText 1 255 true = .ok ("𝄞", 6) := hback.beyond rfl 255 (by decide)
  refine ⟨hwritten, hread, (texts_inverse clef 1 true).writesBack 255 _ 6 hread fun _ => ?_⟩
  have hunits : (List.range (textUnits "𝄞" true)).map (clef.unitAt 1 true) =
      [0xD834, 0xDD1E] := by
    decide +kernel
  rw [hunits]
  exact .pair (by decide) (by decide) .nil

end Bytes

end SmbExchange
