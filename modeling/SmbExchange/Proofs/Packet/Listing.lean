import Mathlib.Data.List.Forall2
import SmbExchange.Packet.Dump
import SmbExchange.Proofs.Bytes.Bounds
import SmbExchange.Proofs.Text.Digits
import SmbExchange.Proofs.Text.Extent

/-!
# The byte listing is read back

A listing is text for people, but nothing is lost in it.  Its lines can be told
apart, because no byte is shown as a line feed; on each line the offset ends at
the first colon and the columns have a fixed width, so the two digits of every
byte are found again, and behind the columns its character.  The reader below
knows nothing of how the lines were made.
-/

namespace SmbExchange

namespace Listing

/-! ## Reading a listing -/

/-- The lines of a text in which every line is ended. -/
def linesOf (text : String) : List (List Char) :=
  (text.toList.splitOn '\n').dropLast

/-- The digits of the offset at the start of a line. -/
def offsetOf (line : List Char) : List Char :=
  line.takeWhile (· != ':')

/-- How many characters the columns of a line take up. -/
def columnsWidth : Nat := 48

/-- What follows the offset, a colon and a blank. -/
def behindOffset (line : List Char) : List Char :=
  line.drop ((offsetOf line).length + 2)

def columnsOf (line : List Char) : List Char :=
  (behindOffset line).take columnsWidth

def textOf (line : List Char) : List Char :=
  (behindOffset line).drop columnsWidth

/-- Reads columns of two digits and a blank.  Behind the last of them there are only blanks. -/
def readColumns : List Char → Option Bytes
  | [] => some []
  | high :: low :: ' ' :: rest =>
    if high = ' ' then if low = ' ' ∧ rest.all (· == ' ') then some [] else none
    else do
      let value ← Hex.ofDigits? [high, low]
      let others ← readColumns rest
      some (UInt8.ofNat value :: others)
  | _ => none

def readLines : List (List Char) → Option Bytes
  | [] => some []
  | line :: lines => do
    let bytes ← readColumns (columnsOf line)
    let others ← readLines lines
    some (bytes ++ others)

/-- A byte is shown as itself where it is printable ASCII, and as a full stop otherwise. -/
def Shows (byte : UInt8) (char : Char) : Prop :=
  if 0x20 ≤ byte.toNat ∧ byte.toNat ≤ 0x7E then char.toNat = byte.toNat else char = '.'

/-- A line with the offset of its first byte, with bytes, and with their characters. -/
structure ShowsLine (row : Nat) (bytes : Bytes) (line : List Char) : Prop where
  line_eq : line = offsetOf line ++ [':', ' '] ++ columnsOf line ++ textOf line
  offset : Hex.Spells 4 (16 * row) (offsetOf line)
  length_columns : (columnsOf line).length = columnsWidth
  columns : readColumns (columnsOf line) = some bytes
  text : List.Forall₂ Shows bytes (textOf line)

/-- Lines that list bytes, sixteen on each line but the last. -/
structure Lists (bytes : Bytes) (lines : List (List Char)) : Prop where
  length_lines : lines.length = (bytes.length + 15) / 16
  readLines_eq : readLines lines = some bytes
  showsLine : ∀ row (hrow : row < lines.length),
    ShowsLine row (bytes.slice (16 * row) 16) lines[row]
  full : ∀ row, row + 1 < lines.length → (bytes.slice (16 * row) 16).length = 16

/-! ## Lines and columns -/

theorem splitOn_flatMap {lines : List (List Char)} (hlines : ∀ line ∈ lines, '\n' ∉ line) :
    (lines.flatMap (· ++ ['\n'])).splitOn '\n' = lines ++ [[]] := by
  induction lines with
  | nil => rfl
  | cons line lines ih =>
    obtain ⟨hline, hothers⟩ := List.forall_mem_cons.mp hlines
    rw [List.flatMap_cons, List.append_assoc, List.singleton_append,
      List.splitOn_append_cons_self_of_not_mem hline, ih hothers, List.cons_append]

theorem linesOf_ofList {lines : List (List Char)} (hlines : ∀ line ∈ lines, '\n' ∉ line) :
    linesOf (String.ofList (lines.flatMap (· ++ ['\n']))) = lines := by
  rw [linesOf, String.toList_ofList, splitOn_flatMap hlines, List.dropLast_concat]

theorem readColumns_replicate (count : Nat) :
    readColumns (List.replicate (3 * count) ' ') = some [] := by
  cases count with
  | zero => rfl
  | succ count =>
    change readColumns (' ' :: ' ' :: ' ' :: List.replicate (3 * count) ' ') = some []
    have hblanks : (List.replicate (3 * count) ' ').all (· == ' ') = true :=
      List.all_eq_true.mpr fun char hchar => beq_iff_eq.mpr (List.eq_of_mem_replicate hchar)
    rw [readColumns, if_pos rfl, if_pos ⟨rfl, hblanks⟩]

theorem ofDigits?_ofByte (byte : UInt8) :
    Hex.ofDigits? (Hex.ofByte byte) = some byte.toNat := by
  have hbyte := byte.toNat_lt
  have hnone : Hex.ofDigits? [] = some 0 := rfl
  have hhigh : byte.toNat / 16 < 16 := by omega
  have hlow : byte.toNat % 16 < 16 := by omega
  have hboth := Hex.ofDigits?_concat_digit (Hex.ofDigits?_concat_digit hnone hhigh) hlow
  rwa [Nat.mul_zero, Nat.zero_add, Nat.div_add_mod] at hboth

theorem readColumns_flatMap (bytes : Bytes) (count : Nat) :
    readColumns (bytes.flatMap (fun byte => Hex.ofByte byte ++ [' ']) ++
      List.replicate (3 * count) ' ') = some bytes := by
  induction bytes with
  | nil => exact readColumns_replicate count
  | cons byte bytes ih =>
    have hbyte := byte.toNat_lt
    have hhigh : byte.toNat / 16 < 16 := by omega
    have hdigit : Hex.digit (byte.toNat / 16) ≠ ' ' := by
      intro hblank
      have hlower := Hex.isLower_digit hhigh
      rw [hblank] at hlower
      exact absurd hlower (by decide)
    have hvalue := ofDigits?_ofByte byte
    rw [Hex.ofByte] at hvalue
    rw [List.flatMap_cons, Hex.ofByte]
    simp only [List.cons_append, List.nil_append]
    rw [readColumns, if_neg hdigit, hvalue, ih]
    exact congrArg (fun first => some (first :: bytes)) UInt8.ofNat_toNat

theorem length_flatMap_ofByte (bytes : Bytes) :
    (bytes.flatMap fun byte => Hex.ofByte byte ++ [' ']).length = 3 * bytes.length := by
  induction bytes with
  | nil => rfl
  | cons byte bytes ih =>
    rw [List.flatMap_cons, List.length_append, ih, List.length_cons, Nat.mul_succ]
    exact Nat.add_comm 3 _

theorem shows_shownChar (byte : UInt8) : Shows byte (Packet.shownChar byte) := by
  have hprintable : 0x20 ≤ byte ∧ byte ≤ 0x7E ↔ 0x20 ≤ byte.toNat ∧ byte.toNat ≤ 0x7E := by
    rw [UInt8.le_iff_toNat_le, UInt8.le_iff_toNat_le]
    rfl
  rw [Shows, Packet.shownChar]
  simp only [hprintable]
  split
  · exact Utf16.toNat_ofNat (.inl (by omega))
  · rfl

theorem ne_newline_of_shows {byte : UInt8} {char : Char} (hshows : Shows byte char) :
    char ≠ '\n' := by
  rintro rfl
  rw [Shows] at hshows
  split at hshows
  · have hten : Char.toNat '\n' = 10 := rfl
    omega
  · exact absurd hshows (by decide)

theorem ne_newline_of_isLower {char : Char} (hlower : Hex.IsLower char) : char ≠ '\n' := by
  rintro rfl
  exact absurd hlower (by decide)

theorem ne_newline_of_mem_ofByte {byte : UInt8} {char : Char} (hchar : char ∈ Hex.ofByte byte) :
    char ≠ '\n' := by
  have hbyte := byte.toNat_lt
  rcases List.mem_cons.mp hchar with rfl | hlow
  · exact ne_newline_of_isLower (Hex.isLower_digit (by omega))
  · rw [List.mem_singleton.mp hlow]
    exact ne_newline_of_isLower (Hex.isLower_digit (Nat.mod_lt _ (by decide)))

end Listing

namespace Packet

open Listing

/-! ## A line as it is written -/

section Line

variable (row : Nat) {bytes : Bytes}

/-- The columns of a line, filled up with blanks. -/
def hexColumns (bytes : Bytes) : List Char :=
  bytes.flatMap (fun byte => Hex.ofByte byte ++ [' ']) ++
    List.replicate (3 * (bytesPerLine - bytes.length)) ' '

theorem hexLine_eq (row : Nat) (bytes : Bytes) :
    hexLine row bytes =
      Hex.lower 4 (16 * row) ++ ':' :: ' ' :: (hexColumns bytes ++ bytes.map shownChar) := by
  simp only [hexLine, hexColumns, bytesPerLine, List.append_assoc, List.cons_append,
    List.nil_append]

theorem length_hexColumns (hbytes : bytes.length ≤ bytesPerLine) :
    (hexColumns bytes).length = columnsWidth := by
  rw [bytesPerLine] at hbytes
  rw [hexColumns, List.length_append, length_flatMap_ofByte, List.length_replicate, bytesPerLine,
    columnsWidth]
  omega

theorem offsetOf_hexLine (bytes : Bytes) :
    offsetOf (hexLine row bytes) = Hex.lower 4 (16 * row) := by
  have hdigits : ∀ digit ∈ Hex.lower 4 (16 * row), (digit != ':') = true := by
    intro digit hdigit
    rw [bne_iff_ne]
    rintro rfl
    exact absurd ((Hex.spells_lower (by decide) (16 * row)).isLower _ hdigit) (by decide)
  rw [hexLine_eq, offsetOf, List.takeWhile_append_of_pos hdigits,
    List.takeWhile_cons_of_neg (by decide), List.append_nil]

theorem behindOffset_hexLine (bytes : Bytes) :
    behindOffset (hexLine row bytes) = hexColumns bytes ++ bytes.map shownChar := by
  rw [behindOffset, offsetOf_hexLine, hexLine_eq, ← List.drop_drop, List.drop_left]
  rfl

theorem columnsOf_hexLine (hbytes : bytes.length ≤ bytesPerLine) :
    columnsOf (hexLine row bytes) = hexColumns bytes := by
  rw [columnsOf, behindOffset_hexLine, List.take_left' (length_hexColumns hbytes)]

theorem textOf_hexLine (hbytes : bytes.length ≤ bytesPerLine) :
    textOf (hexLine row bytes) = bytes.map shownChar := by
  rw [textOf, behindOffset_hexLine, List.drop_left' (length_hexColumns hbytes)]

theorem readColumns_hexColumns (bytes : Bytes) : readColumns (hexColumns bytes) = some bytes :=
  readColumns_flatMap bytes _

theorem showsLine_hexLine (hbytes : bytes.length ≤ bytesPerLine) :
    ShowsLine row bytes (hexLine row bytes) := by
  have hoffset := offsetOf_hexLine row bytes
  have hcolumns := columnsOf_hexLine row hbytes
  have htext := textOf_hexLine row hbytes
  refine ⟨?_, ?_, ?_, ?_, ?_⟩
  · rw [hoffset, hcolumns, htext, hexLine_eq]
    simp only [List.append_assoc, List.cons_append, List.nil_append]
  · rw [hoffset]
    exact Hex.spells_lower (by decide) (16 * row)
  · rw [hcolumns, length_hexColumns hbytes]
  · rw [hcolumns, readColumns_hexColumns]
  · rw [htext, List.forall₂_map_right_iff]
    exact List.forall₂_same.mpr fun byte _ => shows_shownChar byte

theorem ne_newline_of_mem_hexColumns {char : Char} (hchar : char ∈ hexColumns bytes) :
    char ≠ '\n' := by
  have hblank : ' ' ≠ '\n' := by decide
  rcases List.mem_append.mp hchar with hcolumn | hfill
  · obtain ⟨byte, -, hbyte⟩ := List.mem_flatMap.mp hcolumn
    rcases List.mem_append.mp hbyte with hdigit | hend
    · exact ne_newline_of_mem_ofByte hdigit
    · rwa [List.mem_singleton.mp hend]
  · rwa [List.eq_of_mem_replicate hfill]

/-- A line is not cut in two by what it shows. -/
theorem newline_not_mem_hexLine (bytes : Bytes) : '\n' ∉ hexLine row bytes := by
  intro hmem
  rw [hexLine_eq] at hmem
  rcases List.mem_append.mp hmem with hoffset | hbehind
  · exact ne_newline_of_isLower
      ((Hex.spells_lower (by decide) (16 * row)).isLower _ hoffset) rfl
  · simp only [List.mem_cons, List.mem_append] at hbehind
    rcases hbehind with hcolon | hblank | hcolumn | htext
    · exact absurd hcolon (by decide)
    · exact absurd hblank (by decide)
    · exact ne_newline_of_mem_hexColumns hcolumn rfl
    · obtain ⟨byte, -, hshown⟩ := List.mem_map.mp htext
      exact ne_newline_of_shows (shows_shownChar byte) hshown

end Line

/-! ## All lines -/

theorem hexLinesFrom_nil (row : Nat) : hexLinesFrom row [] = [] := by
  rw [hexLinesFrom, dif_pos rfl]

theorem hexLinesFrom_of_ne_nil (row : Nat) {bytes : Bytes} (hbytes : bytes ≠ []) :
    hexLinesFrom row bytes =
      hexLine row (bytes.take bytesPerLine) ::
        hexLinesFrom (row + 1) (bytes.drop bytesPerLine) := by
  rw [hexLinesFrom, dif_neg hbytes]

/-- The lines count the bytes off in sixteens. -/
theorem hexLinesFrom_eq (row : Nat) (bytes : Bytes) :
    hexLinesFrom row bytes =
      (List.range ((bytes.length + 15) / 16)).map fun index =>
        hexLine (row + index) (bytes.slice (16 * index) 16) := by
  induction row, bytes using hexLinesFrom.induct with
  | case1 row =>
    rw [hexLinesFrom_nil]
    rfl
  | case2 row bytes hbytes ih =>
    have hpositive := List.length_pos_iff.mpr hbytes
    have hcount : (bytes.length + 15) / 16 =
        ((bytes.drop bytesPerLine).length + 15) / 16 + 1 := by
      rw [List.length_drop, bytesPerLine]
      omega
    rw [hexLinesFrom_of_ne_nil row hbytes, ih, hcount, List.range_succ_eq_map, List.map_cons,
      List.map_map]
    refine congrArg₂ List.cons rfl (List.map_congr_left fun index _ => ?_)
    have hplace : row + 1 + index = row + (index + 1) := by omega
    have hslice : Bytes.slice (bytes.drop bytesPerLine) (16 * index) 16 =
        bytes.slice (16 * (index + 1)) 16 := by
      rw [Bytes.slice, List.drop_drop, Bytes.slice, bytesPerLine, Nat.mul_succ, Nat.add_comm]
    rw [hplace, hslice]
    rfl

theorem readLines_hexLinesFrom (row : Nat) (bytes : Bytes) :
    readLines (hexLinesFrom row bytes) = some bytes := by
  induction row, bytes using hexLinesFrom.induct with
  | case1 row =>
    rw [hexLinesFrom_nil, readLines]
  | case2 row bytes hbytes ih =>
    have hfirst : (bytes.take bytesPerLine).length ≤ bytesPerLine := List.length_take_le _ _
    rw [hexLinesFrom_of_ne_nil row hbytes, readLines, columnsOf_hexLine row hfirst,
      readColumns_hexColumns, ih]
    exact congrArg some (List.take_append_drop bytesPerLine bytes)

theorem lists_hexLinesFrom (bytes : Bytes) : Lists bytes (hexLinesFrom 0 bytes) := by
  have hlength : (hexLinesFrom 0 bytes).length = (bytes.length + 15) / 16 := by
    rw [hexLinesFrom_eq, List.length_map, List.length_range]
  refine ⟨hlength, readLines_hexLinesFrom 0 bytes, ?_, ?_⟩
  · simp only [hexLinesFrom_eq]
    intro row hrow
    rw [List.getElem_map, List.getElem_range, Nat.zero_add]
    refine showsLine_hexLine row ?_
    rw [Bytes.length_slice]
    exact Nat.min_le_left _ _
  · intro row hrow
    rw [Bytes.length_slice]
    omega

theorem newline_not_mem_of_mem_hexLines {packet : Packet} {line : List Char}
    (hline : line ∈ packet.hexLines) : '\n' ∉ line := by
  rw [hexLines, hexLinesFrom_eq] at hline
  obtain ⟨index, -, rfl⟩ := List.mem_map.mp hline
  exact newline_not_mem_hexLine _ _

/-- The listing shows the bytes of the message, as far as it lies in the buffer, and all of them are
read back from its lines. -/
theorem lists_hexDump (packet : Packet) :
    ∃ listed, packet.buffer.range? headerRoom
        (min (headerRoom + packet.totalLength) packet.capacity) = some listed ∧
      Lists listed (linesOf packet.hexDump) ∧
      packet.hexDump = String.ofList ((linesOf packet.hexDump).flatMap (· ++ ['\n'])) := by
  have hroom : headerRoom ≤ packet.buffer.length :=
    Nat.le_trans (by decide) packet.minimum_le_length
  have hlines : linesOf packet.hexDump = packet.hexLines :=
    linesOf_ofList fun _ => newline_not_mem_of_mem_hexLines
  refine ⟨packet.listedBytes, Bytes.range?_min hroom, ?_, ?_⟩
  · rw [hlines]
    exact lists_hexLinesFrom packet.listedBytes
  · rw [hlines]
    rfl

end Packet

end SmbExchange
