import SmbExchange.Proofs.Bytes.Changes
import SmbExchange.Proofs.Text.Extent

/-!
# What the primitives write and read

Every primitive takes an offset and knows how many bytes it needs before it
looks at them.  It is exact: it goes through if and only if these bytes are all
there, it then touches no other, and otherwise it says where it would have left
the buffer.  What the bytes have to be is said here on its own, in numbers: a
value is the sum of its bytes with their weights, and a UTF-16 text is spelled
out in units that are put together again by the arithmetic of code points.
-/

namespace SmbExchange

/-! ## Encodings -/

namespace LittleEndian

theorem decode_eq_iff {bytes : Bytes} {width number : Nat} (hlength : bytes.length = width)
    (hnumber : number < span width) : decode bytes = number ↔ bytes = encode width number := by
  constructor
  · rintro rfl
    rw [← hlength, encode_decode]
  · rintro rfl
    rw [decode_encode, Nat.mod_eq_of_lt hnumber]

end LittleEndian

namespace Utf16

def unitCount : List Char → Nat
  | [] => 0
  | char :: chars => (if char.toNat < 0x10000 then 1 else 2) + unitCount chars

/-- The units that spell a text.  A character above U+FFFF is the one that two surrogates stand
for. -/
inductive SpelledBy : List Char → List Nat → Prop where
  | nil : SpelledBy [] []
  | single {char : Char} {chars : List Char} {units : List Nat} (hsmall : char.toNat < 0x10000)
    (hrest : SpelledBy chars units) : SpelledBy (char :: chars) (char.toNat :: units)
  | pair {char : Char} {chars : List Char} {units : List Nat} {high low : Nat}
    (hhigh : 0xD800 ≤ high ∧ high < 0xDC00) (hlow : 0xDC00 ≤ low ∧ low < 0xE000)
    (hchar : char.toNat = 0x10000 + 0x400 * (high - 0xD800) + (low - 0xDC00))
    (hrest : SpelledBy chars units) : SpelledBy (char :: chars) (high :: low :: units)

theorem length_encode (chars : List Char) : (encode chars).length = unitCount chars := by
  induction chars with
  | nil => rfl
  | cons char chars ih =>
    rw [encode, List.flatMap_cons, List.length_append, length_encodeChar, unitCount, ← ih, encode]

theorem map_encode_cons (char : Char) (chars : List Char) :
    (encode (char :: chars)).map UInt16.toNat =
      (encodeChar char).map UInt16.toNat ++ (encode chars).map UInt16.toNat := by
  rw [encode, List.flatMap_cons, List.map_append, encode]

theorem map_encodeChar_of_lt {char : Char} (hsmall : char.toNat < 0x10000) :
    (encodeChar char).map UInt16.toNat = [char.toNat] := by
  rw [encodeChar, if_pos hsmall, List.map_singleton, UInt16.toNat_ofNat_of_lt' hsmall]

theorem map_encodeChar_of_le {char : Char} (hlarge : 0x10000 ≤ char.toNat) :
    (encodeChar char).map UInt16.toNat =
      [0xD800 + (char.toNat - 0x10000) / 0x400, 0xDC00 + (char.toNat - 0x10000) % 0x400] := by
  rw [encodeChar, if_neg (Nat.not_lt.mpr hlarge), List.map_cons, List.map_singleton, toNat_high,
    toNat_low]

theorem spelledBy_encode (chars : List Char) :
    SpelledBy chars ((encode chars).map UInt16.toNat) := by
  induction chars with
  | nil => exact .nil
  | cons char chars ih =>
    rw [map_encode_cons]
    rcases Nat.lt_or_ge char.toNat 0x10000 with hsmall | hlarge
    · rw [map_encodeChar_of_lt hsmall]
      exact .single hsmall ih
    · have hrange := toNat_lt char
      rw [map_encodeChar_of_le hlarge]
      exact .pair (by omega) (by omega) (by omega) ih

theorem map_toNat_toBytes (units : List UInt16) :
    (toBytes units).map UInt8.toNat =
      (units.map UInt16.toNat).flatMap fun unit => [unit % 256, unit / 256] := by
  induction units with
  | nil => rfl
  | cons unit units ih =>
    have hunit := unit.toNat_lt
    have hhigh : unit.toNat / 256 % 256 = unit.toNat / 256 := Nat.mod_eq_of_lt (by omega)
    have hword : (LittleEndian.ofWord unit).map UInt8.toNat =
        [unit.toNat % 256, unit.toNat / 256 % 256] := rfl
    rw [toBytes, List.flatMap_cons, List.map_append, hword, hhigh, List.map_cons,
      List.flatMap_cons, ← ih, toBytes]

end Utf16

namespace Latin

theorem map_toNat_map_ofNat {chars : List Char} (hsmall : ∀ char ∈ chars, char.toNat ≤ 0xFF) :
    (chars.map fun char => UInt8.ofNat char.toNat).map UInt8.toNat = chars.map Char.toNat := by
  rw [List.map_map]
  apply List.map_congr_left
  intro char hchar
  exact UInt8.toNat_ofNat_of_lt' (Nat.lt_succ_of_le (hsmall char hchar))

def FirstBeyond (chars : List Char) (char : Char) : Prop :=
  ∃ front behind, chars = front ++ char :: behind ∧ (∀ other ∈ front, other.toNat ≤ 0xFF) ∧
    0xFF < char.toNat

theorem exists_firstBeyond {text : String} (hbeyond : ¬ ∀ char ∈ text.toList, char.toNat ≤ 0xFF) :
    ∃ char, FirstBeyond text.toList char ∧
      encode text = .error (.unencodableChar char.val) := by
  cases hfind : text.toList.find? fun char => 0xFF < char.toNat with
  | none =>
    refine absurd (fun char hchar => ?_) hbeyond
    simpa using List.find?_eq_none.mp hfind char hchar
  | some char =>
    obtain ⟨hlarge, front, behind, hchars, hfront⟩ := List.find?_eq_some_iff_append.mp hfind
    refine ⟨char, ⟨front, behind, hchars, fun other hother => ?_, by simpa using hlarge⟩, ?_⟩
    · simpa using hfront other hother
    · rw [encode, hfind]

end Latin

namespace Bytes

open LittleEndian (decode)

/-! ## Values -/

/-- What is written in a fixed number of bytes, or as it is. -/
inductive Value where
  | byte (value : UInt8)
  | word (value : UInt16)
  | long (value : UInt32)
  | quad (value : UInt64)
  | raw (source : Bytes)

/-- What can be asked for at an offset. -/
inductive Kind where
  | byte
  | word
  | long
  | quad
  | raw (length : Nat)

namespace Kind

def width : Kind → Nat
  | byte => 1
  | word => 2
  | long => 4
  | quad => 8
  | raw length => length

def get (kind : Kind) (buffer : Bytes) (offset : Nat) : Except Fault Value :=
  match kind with
  | byte => (buffer.readByte offset).map .byte
  | word => (buffer.readWord offset).map .word
  | long => (buffer.readLong offset).map .long
  | quad => (buffer.readQuad offset).map .quad
  | raw length => (buffer.read offset length).map .raw

end Kind

namespace Value

/-- What has to be asked for to get the value. -/
def kind : Value → Kind
  | byte _ => .byte
  | word _ => .word
  | long _ => .long
  | quad _ => .quad
  | raw source => .raw source.length

/-- Bytes hold the value: raw ones are the value, others add up to it. -/
def HeldBy (value : Value) (bytes : Bytes) : Prop :=
  bytes.length = value.kind.width ∧
    match value with
    | byte value => decode bytes = value.toNat
    | word value => decode bytes = value.toNat
    | long value => decode bytes = value.toNat
    | quad value => decode bytes = value.toNat
    | raw source => bytes = source

def put (value : Value) (buffer : Bytes) (offset : Nat) : Except Fault Written :=
  match value with
  | byte value => buffer.writeByte offset value
  | word value => buffer.writeWord offset value
  | long value => buffer.writeLong offset value
  | quad value => buffer.writeQuad offset value
  | raw source => buffer.write offset source

def encode : Value → Bytes
  | byte value => [value]
  | word value => LittleEndian.ofWord value
  | long value => LittleEndian.ofLong value
  | quad value => LittleEndian.ofQuad value
  | raw source => source

theorem put_eq (value : Value) (buffer : Bytes) (offset : Nat) :
    value.put buffer offset = buffer.write offset value.encode := by
  cases value <;> rfl

theorem heldBy_encode (value : Value) : value.HeldBy value.encode := by
  cases value with
  | byte value => exact ⟨rfl, Nat.add_zero _⟩
  | word value =>
    have hnumber : value.toNat < LittleEndian.span 2 := value.toNat_lt
    exact ⟨LittleEndian.length_encode 2 _,
      (LittleEndian.decode_eq_iff (LittleEndian.length_encode 2 _) hnumber).mpr rfl⟩
  | long value =>
    have hnumber : value.toNat < LittleEndian.span 4 := value.toNat_lt
    exact ⟨LittleEndian.length_encode 4 _,
      (LittleEndian.decode_eq_iff (LittleEndian.length_encode 4 _) hnumber).mpr rfl⟩
  | quad value =>
    have hnumber : value.toNat < LittleEndian.span 8 := value.toNat_lt
    exact ⟨LittleEndian.length_encode 8 _,
      (LittleEndian.decode_eq_iff (LittleEndian.length_encode 8 _) hnumber).mpr rfl⟩
  | raw source => exact ⟨rfl, rfl⟩

/-- Bytes hold one value of each kind. -/
theorem HeldBy.unique {value other : Value} {bytes : Bytes} (hvalue : value.HeldBy bytes)
    (hother : other.HeldBy bytes) (hkind : value.kind = other.kind) : value = other := by
  obtain ⟨-, hvalue⟩ := hvalue
  obtain ⟨-, hother⟩ := hother
  cases value <;> cases other
  case byte.byte => exact congrArg byte (UInt8.toNat.inj (hvalue.symm.trans hother))
  case word.word => exact congrArg word (UInt16.toNat.inj (hvalue.symm.trans hother))
  case long.long => exact congrArg long (UInt32.toNat.inj (hvalue.symm.trans hother))
  case quad.quad => exact congrArg quad (UInt64.toNat.inj (hvalue.symm.trans hother))
  case raw.raw => exact congrArg raw (hvalue.symm.trans hother)
  all_goals cases hkind

end Value

namespace Kind

variable {kind : Kind} {buffer : Bytes} {offset : Nat}

/-- The value that the bytes of a range hold. -/
def valueOf (kind : Kind) (bytes : Bytes) : Value :=
  match kind with
  | byte => .byte (LittleEndian.toByte bytes)
  | word => .word (LittleEndian.toWord bytes)
  | long => .long (LittleEndian.toLong bytes)
  | quad => .quad (LittleEndian.toQuad bytes)
  | raw _ => .raw bytes

theorem get_eq (kind : Kind) (buffer : Bytes) (offset : Nat) :
    kind.get buffer offset = (buffer.read offset kind.width).map kind.valueOf := by
  cases kind with
  | byte =>
    rw [get, readByte, width]
    cases buffer.read offset 1 <;> rfl
  | word =>
    rw [get, readWord, width]
    cases buffer.read offset 2 <;> rfl
  | long =>
    rw [get, readLong, width]
    cases buffer.read offset 4 <;> rfl
  | quad =>
    rw [get, readQuad, width]
    cases buffer.read offset 8 <;> rfl
  | raw length => rfl

theorem kind_valueOf {bytes : Bytes} (hlength : bytes.length = kind.width) :
    (kind.valueOf bytes).kind = kind := by
  cases kind with
  | raw length => exact congrArg raw hlength
  | byte => rfl
  | word => rfl
  | long => rfl
  | quad => rfl

theorem heldBy_valueOf {bytes : Bytes} (hlength : bytes.length = kind.width) :
    (kind.valueOf bytes).HeldBy bytes := by
  refine ⟨by rw [kind_valueOf hlength, hlength], ?_⟩
  have hbound := LittleEndian.decode_lt_of_length hlength
  cases kind with
  | byte => exact (UInt8.toNat_ofNat_of_lt' hbound).symm
  | word => exact (UInt16.toNat_ofNat_of_lt' hbound).symm
  | long => exact (UInt32.toNat_ofNat_of_lt' hbound).symm
  | quad => exact (UInt64.toNat_ofNat_of_lt' hbound).symm
  | raw length => rfl

/-- Exactly the values whose bytes are there are read. -/
structure Exact (kind : Kind) (buffer : Bytes) (offset : Nat) : Prop where
  isOk_iff : (kind.get buffer offset).isOk = true ↔ offset + kind.width ≤ buffer.length
  eq_ok_iff : ∀ value, kind.get buffer offset = .ok value ↔
    offset + kind.width ≤ buffer.length ∧ value.kind = kind ∧
      value.HeldBy (buffer.slice offset kind.width)
  overflow : buffer.length < offset + kind.width →
    kind.get buffer offset = .error (.bufferOverflow offset kind.width buffer.length)

theorem isExact (kind : Kind) (buffer : Bytes) (offset : Nat) : kind.Exact buffer offset := by
  by_cases hfits : buffer.Fits offset kind.width
  · have hinside : offset + kind.width ≤ buffer.length := hfits
    have hlength : (buffer.slice offset kind.width).length = kind.width := by
      rw [length_slice]
      omega
    have hget : kind.get buffer offset =
        .ok (kind.valueOf (buffer.slice offset kind.width)) := by
      rw [get_eq, read, if_pos hfits]
      rfl
    refine ⟨?_, fun value => ?_, fun houtside => absurd hinside (Nat.not_le_of_lt houtside)⟩
    · exact iff_of_true (by rw [hget]; rfl) hinside
    · rw [hget, Except.ok.injEq]
      constructor
      · rintro rfl
        exact ⟨hinside, kind_valueOf hlength, heldBy_valueOf hlength⟩
      · rintro ⟨-, hkind, hheld⟩
        exact (heldBy_valueOf hlength).unique hheld ((kind_valueOf hlength).trans hkind.symm)
  · have hget : kind.get buffer offset = .error (buffer.overflow offset kind.width) := by
      rw [get_eq, read, if_neg hfits]
      rfl
    refine ⟨?_, fun value => ?_, fun _ => hget⟩
    · exact iff_of_false (by rw [hget]; exact Bool.false_ne_true) hfits
    · rw [hget]
      refine iff_of_false (fun hsame => ?_) fun hheld => hfits hheld.1
      cases hsame

end Kind

/-! ## Writing -/

inductive Source where
  | value (value : Value)
  | zeros (count : Nat)
  | latin (text : String) (terminated : Bool)
  | utf16 (text : String) (terminated : Bool)

namespace Source

def width : Source → Nat
  | value content => content.kind.width
  | zeros count => count
  | latin text terminated => text.toList.length + terminated.toNat
  | utf16 text terminated => 2 * (Utf16.unitCount text.toList + terminated.toNat)

/-- Every character of a single-byte text has a byte. -/
def IsEncodable : Source → Prop
  | latin text _ => ∀ char ∈ text.toList, char.toNat ≤ 0xFF
  | value _ | zeros _ | utf16 _ _ => True

/-- Bytes hold what was to be put. -/
def HeldBy (source : Source) (bytes : Bytes) : Prop :=
  match source with
  | value content => content.HeldBy bytes
  | zeros count => bytes.map UInt8.toNat = List.replicate count 0
  | latin text terminated =>
    bytes.map UInt8.toNat = text.toList.map Char.toNat ++ List.replicate terminated.toNat 0
  | utf16 text terminated =>
    ∃ units, Utf16.SpelledBy text.toList units ∧
      bytes.map UInt8.toNat =
        (units ++ List.replicate terminated.toNat 0).flatMap fun unit => [unit % 256, unit / 256]

def put (source : Source) (buffer : Bytes) (offset : Nat) : Except Fault Written :=
  match source with
  | value content => content.put buffer offset
  | zeros count => buffer.writeZeros offset count
  | latin text terminated => buffer.writeLatin offset text terminated
  | utf16 text terminated => buffer.writeUtf16 offset text terminated

/-- The number of bytes put, or the fault, and the buffer that the caller is left with. -/
def run (source : Source) (buffer : Bytes) (offset : Nat) : Except Fault Nat × Bytes :=
  match source.put buffer offset with
  | .ok written => (.ok written.count, written.buffer)
  | .error fault => (.error fault, buffer)

def encode : Source → Except Fault Bytes
  | value content => .ok content.encode
  | zeros count => .ok (Bytes.zeros count)
  | latin text terminated => (Latin.encode text).map (· ++ Bytes.zeros terminated.toNat)
  | utf16 text terminated =>
    .ok (Utf16.toBytes (Utf16.encode text.toList) ++ Bytes.zeros (2 * terminated.toNat))

theorem put_eq (source : Source) (buffer : Bytes) (offset : Nat) :
    source.put buffer offset = source.encode.bind (buffer.write offset) := by
  cases source with
  | value content => exact content.put_eq buffer offset
  | zeros count => exact writeZeros_eq_write buffer offset count
  | latin text terminated =>
    rw [put, writeLatin, encode]
    cases Latin.encode text <;> rfl
  | utf16 text terminated => rfl

theorem exists_encode {source : Source} (hencodable : source.IsEncodable) :
    ∃ bytes, source.encode = .ok bytes ∧ bytes.length = source.width ∧ source.HeldBy bytes := by
  cases source with
  | value content =>
    exact ⟨content.encode, rfl, content.heldBy_encode.1, content.heldBy_encode⟩
  | zeros count =>
    refine ⟨_, rfl, length_zeros count, ?_⟩
    exact List.map_replicate
  | latin text terminated =>
    refine ⟨_, by rw [encode, Latin.encode_of_small hencodable]; rfl, ?_, ?_⟩
    · rw [List.length_append, List.length_map, length_zeros, width]
    · rw [HeldBy, List.map_append, Latin.map_toNat_map_ofNat hencodable, Bytes.zeros,
        List.map_replicate]
      rfl
  | utf16 text terminated =>
    refine ⟨_, rfl, ?_, _, Utf16.spelledBy_encode text.toList, ?_⟩
    · rw [List.length_append, Utf16.length_toBytes, Utf16.length_encode, length_zeros, width,
        Nat.mul_add]
    · rw [List.map_append, Utf16.map_toNat_toBytes, List.flatMap_append]
      cases terminated <;> rfl

/-- A primitive writes what it is given, where it is told, and nothing else; or it leaves the buffer
alone and says why. -/
structure Exact (source : Source) (buffer : Bytes) (offset : Nat) : Prop where
  isOk_iff : (source.run buffer offset).1.isOk = true ↔
    source.IsEncodable ∧ offset + source.width ≤ buffer.length
  written : source.IsEncodable → offset + source.width ≤ buffer.length →
    ∃ after, source.run buffer offset = (.ok source.width, after) ∧
      buffer.ChangedWithin after offset (offset + source.width) ∧
      source.HeldBy (after.slice offset source.width) ∧
      ∀ content, source = .value content → content.kind.get after offset = .ok content
  /-- A character that has no byte is reported before the range is looked at. -/
  unencodable : ¬ source.IsEncodable → ∃ text terminated char,
    source = .latin text terminated ∧ Latin.FirstBeyond text.toList char ∧
      source.run buffer offset = (.error (.unencodableChar char.val), buffer)
  overflow : source.IsEncodable → buffer.length < offset + source.width →
    source.run buffer offset =
      (.error (.bufferOverflow offset source.width buffer.length), buffer)

theorem run_of_encode {source : Source} {bytes : Bytes} (hencode : source.encode = .ok bytes)
    (buffer : Bytes) (offset : Nat) :
    source.run buffer offset =
      if offset + bytes.length ≤ buffer.length then (.ok bytes.length, buffer.patch offset bytes)
      else (.error (.bufferOverflow offset bytes.length buffer.length), buffer) := by
  have hput : source.put buffer offset = buffer.write offset bytes := by
    rw [put_eq, hencode]
    rfl
  rw [run, hput, write]
  by_cases hfits : buffer.Fits offset bytes.length
  · rw [if_pos hfits]
    exact (if_pos hfits).symm
  · rw [if_neg hfits]
    exact (if_neg hfits).symm

theorem exists_run_of_not_encodable {source : Source} (hbeyond : ¬ source.IsEncodable)
    (buffer : Bytes) (offset : Nat) :
    ∃ text terminated char,
      source = .latin text terminated ∧ Latin.FirstBeyond text.toList char ∧
        source.run buffer offset = (.error (.unencodableChar char.val), buffer) := by
  cases source with
  | value content => exact absurd trivial hbeyond
  | zeros count => exact absurd trivial hbeyond
  | utf16 text terminated => exact absurd trivial hbeyond
  | latin text terminated =>
    obtain ⟨char, hfirst, hencode⟩ := Latin.exists_firstBeyond hbeyond
    refine ⟨text, terminated, char, rfl, hfirst, ?_⟩
    rw [run, put_eq, encode, hencode]
    rfl

theorem isExact (source : Source) (buffer : Bytes) (offset : Nat) : source.Exact buffer offset := by
  by_cases hencodable : source.IsEncodable
  · obtain ⟨bytes, hencode, hlength, hheld⟩ := exists_encode hencodable
    have hrun := run_of_encode hencode buffer offset
    rw [hlength] at hrun
    refine ⟨?_, fun _ hinside => ?_, fun hbeyond => absurd hencodable hbeyond,
      fun _ houtside => by rw [hrun, if_neg (Nat.not_le_of_lt houtside)]⟩
    · by_cases hinside : offset + source.width ≤ buffer.length
      · exact iff_of_true (by rw [hrun, if_pos hinside]; rfl) ⟨hencodable, hinside⟩
      · refine iff_of_false ?_ fun hboth => hinside hboth.2
        rw [hrun, if_neg hinside]
        exact Bool.false_ne_true
    · have hslice : (buffer.patch offset bytes).slice offset source.width = bytes := by
        rw [← hlength] at hinside ⊢
        exact slice_patch_self hinside
      refine ⟨_, by rw [hrun, if_pos hinside], changedWithin_patch (Nat.le_refl _) (by omega),
        by rwa [hslice], ?_⟩
      rintro content rfl
      refine ((content.kind.isExact _ offset).eq_ok_iff content).mpr ⟨?_, rfl, ?_⟩
      · rwa [length_patch]
      · change content.HeldBy ((buffer.patch offset bytes).slice offset (value content).width)
        rwa [hslice]
  · obtain ⟨text, terminated, char, hsource, hfirst, hrun⟩ :=
      exists_run_of_not_encodable hencodable buffer offset
    refine ⟨?_, fun hgood => absurd hgood hencodable,
      fun _ => ⟨text, terminated, char, hsource, hfirst, hrun⟩,
      fun hgood => absurd hgood hencodable⟩
    refine iff_of_false ?_ fun hboth => hencodable hboth.1
    rw [hrun]
    exact Bool.false_ne_true

end Source

/-- Every primitive is exact, at every offset of every buffer. -/
theorem primitives_exact (buffer : Bytes) (offset : Nat) :
    (∀ source : Source, source.Exact buffer offset) ∧
      ∀ kind : Kind, kind.Exact buffer offset :=
  ⟨fun source => source.isExact buffer offset, fun kind => kind.isExact buffer offset⟩

end Bytes

end SmbExchange
