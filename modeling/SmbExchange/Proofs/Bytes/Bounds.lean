import SmbExchange.Proofs.Bytes.Slices
import SmbExchange.Text.Latin
import SmbExchange.Text.Utf16

/-!
# Reading without a net

`slice` and `byteAt` answer for every range, also for one that leaves the
string.  The readings of this file do not: a byte or a range that is not all
there has no value, and then neither has anything computed from it.  Each of
them names the bytes that it looks at in the order in which it does.  That a
reading has a value, and which, is therefore the statement that it never looks
outside the string.

A name that ends in a question mark is the reading without a net of the
operation of the same name.
-/

namespace SmbExchange.Bytes

open LittleEndian (toWord)

/-! ## Ranges and words -/

/-- The bytes from `start` up to `stop`.  Bounds in the wrong order are no range. -/
def range? (bytes : Bytes) (start stop : Nat) : Option Bytes :=
  if start ≤ stop ∧ stop ≤ bytes.length then some (bytes.slice start (stop - start)) else none

def wordAt? (bytes : Bytes) (offset : Nat) : Option UInt16 := do
  let low ← bytes[offset]?
  let high ← bytes[offset + 1]?
  some (toWord [low, high])

/-- Reads a range after a check. -/
def read? (buffer : Bytes) (offset length : Nat) : Option (Except Fault Bytes) :=
  if buffer.Fits offset length then (buffer.range? offset (offset + length)).map .ok
  else some (.error (buffer.overflow offset length))

section Ranges

variable {bytes : Bytes} {offset length : Nat}

theorem range?_eq (hinside : offset + length ≤ bytes.length) :
    bytes.range? offset (offset + length) = some (bytes.slice offset length) := by
  rw [range?, if_pos ⟨Nat.le_add_right _ _, hinside⟩, Nat.add_sub_cancel_left]

theorem range?_zero (hinside : length ≤ bytes.length) :
    bytes.range? 0 length = some (bytes.take length) := by
  rw [range?, if_pos ⟨Nat.zero_le _, hinside⟩, Nat.sub_zero, slice, List.drop_zero]

/-- A range that is cut off at the end of the string is the slice of its length. -/
theorem range?_min (hoffset : offset ≤ bytes.length) :
    bytes.range? offset (min (offset + length) bytes.length) =
      some (bytes.slice offset length) := by
  rw [range?, if_pos (by omega), Option.some.injEq]
  apply List.ext_getElem?
  intro index
  rw [getElem?_slice, getElem?_slice]
  by_cases hindex : index < length
  · rw [if_pos hindex]
    split
    · rfl
    · rw [List.getElem?_eq_none (by omega)]
  · rw [if_neg hindex, if_neg (by omega)]

theorem slice_two (hinside : offset + 2 ≤ bytes.length) :
    bytes.slice offset 2 = [bytes.byteAt offset, bytes.byteAt (offset + 1)] := by
  apply List.ext_getElem?
  intro index
  rw [getElem?_slice]
  match index with
  | 0 => exact getElem?_eq_byteAt (by omega)
  | 1 => exact getElem?_eq_byteAt (by omega)
  | index + 2 => rfl

theorem wordAt?_eq (hinside : offset + 2 ≤ bytes.length) :
    bytes.wordAt? offset = some (toWord (bytes.slice offset 2)) := by
  rw [wordAt?, getElem?_eq_byteAt (by omega), getElem?_eq_byteAt (by omega), slice_two hinside]
  rfl

@[simp]
theorem read?_eq (buffer : Bytes) (offset length : Nat) :
    buffer.read? offset length = some (buffer.read offset length) := by
  by_cases hfits : buffer.Fits offset length
  · rw [read?, read, if_pos hfits, if_pos hfits, range?_eq hfits, Option.map_some]
  · rw [read?, read, if_neg hfits, if_neg hfits]

end Ranges

/-! ## Texts -/

/-- Reads single-byte text: a region of the buffer, and of the region what stands before the first
zero byte. -/
def readLatin? (buffer : Bytes) (offset limit : Nat) : Option (Except Fault (String × Nat)) :=
  if buffer.Fits offset 0 then do
    let stop := min (offset + limit) buffer.length
    let region ← buffer.range? offset stop
    match region.findIdx? fun byte => byte == 0 with
    | some index => do
      let characters ← region.range? 0 index
      some (.ok (Latin.decode characters, index + 1))
    | none =>
      if stop = buffer.length ∧ region.length < limit then
        some (.error (buffer.overflow offset (region.length + 1)))
      else some (.ok (Latin.decode region, region.length))
  else some (.error (buffer.overflow offset 0))

/-- Reads units from an offset on, each after a check. -/
def scan? (buffer : Bytes) : (limit offset : Nat) → Option (List UInt16 × Utf16.Ending)
  | 0, _ => some ([], .limit)
  | limit + 1, offset =>
    if buffer.Fits offset 2 then do
      let unit ← buffer.wordAt? offset
      if unit = 0 then some ([], .terminator)
      else do
        let found ← buffer.scan? limit (offset + 2)
        some (unit :: found.1, found.2)
    else some ([], .exhausted)

def readUtf16? (buffer : Bytes) (offset limit : Nat) : Option (Except Fault (String × Nat)) :=
  if buffer.Fits offset 0 then do
    match ← buffer.scan? limit offset with
    | (units, .terminator) =>
      some (.ok (String.ofList (Utf16.decode units), 2 * units.length + 2))
    | (units, .limit) => some (.ok (String.ofList (Utf16.decode units), 2 * units.length))
    | (units, .exhausted) => some (.error (buffer.overflow (offset + 2 * units.length) 2))
  else some (.error (buffer.overflow offset 0))

/-- What stands before the first zero byte. -/
theorem takeWhile_eq_take_findIdx (region : Bytes) :
    region.takeWhile (fun byte => byte != 0) =
      region.take (region.findIdx fun byte => byte == 0) := by
  rw [List.takeWhile_eq_take_findIdx_not]
  simp only [bne, Bool.not_not]

@[simp]
theorem readLatin?_eq (buffer : Bytes) (offset limit : Nat) :
    buffer.readLatin? offset limit = some (buffer.readLatin offset limit) := by
  by_cases hfits : buffer.Fits offset 0
  · have hoffset : offset ≤ buffer.length := hfits
    rw [readLatin?, readLatin, if_pos hfits, if_pos hfits]
    simp only [range?_min hoffset, Option.bind_eq_bind, Option.bind_some]
    cases hfound : (buffer.slice offset limit).findIdx? fun byte => byte == 0 with
    | some index =>
      obtain ⟨hindex, hfirst⟩ := List.findIdx?_eq_some_iff_findIdx_eq.mp hfound
      have hlength : (List.take index (buffer.slice offset limit)).length = index :=
        List.length_take_of_le (Nat.le_of_lt hindex)
      simp only [takeWhile_eq_take_findIdx, hfirst, hlength, if_pos hindex,
        range?_zero (Nat.le_of_lt hindex), Option.bind_some]
    | none =>
      have hnowhere := List.findIdx?_eq_none_iff_findIdx_eq.mp hfound
      -- A region shorter than the limit was cut off at the end of the buffer.
      have hcut : (min (offset + limit) buffer.length = buffer.length ∧
          (buffer.slice offset limit).length < limit) ↔
          (buffer.slice offset limit).length < limit := by
        rw [length_slice]
        omega
      simp only [takeWhile_eq_take_findIdx, hnowhere, List.take_length, Nat.lt_irrefl, if_false,
        hcut]
      split <;> rfl
  · rw [readLatin?, readLatin, if_neg hfits, if_neg hfits]

theorem scan?_eq (buffer : Bytes) (limit offset : Nat) :
    buffer.scan? limit offset = some (Utf16.scan limit (buffer.drop offset)) := by
  induction limit generalizing offset with
  | zero => rfl
  | succ limit ih =>
    by_cases hfits : buffer.Fits offset 2
    · have hinside : offset + 2 ≤ buffer.length := hfits
      have hdrop : buffer.drop offset =
          buffer.byteAt offset :: buffer.byteAt (offset + 1) :: buffer.drop (offset + 2) := by
        rw [← List.take_append_drop 2 (buffer.drop offset), List.drop_drop]
        exact congrArg (· ++ buffer.drop (offset + 2)) (slice_two hinside)
      rw [scan?, if_pos hfits, wordAt?_eq hinside, slice_two hinside, hdrop, Utf16.scan]
      simp only [Option.bind_eq_bind, Option.bind_some, ih]
      split <;> rfl
    · rw [scan?, if_neg hfits]
      -- Fewer than two bytes are left.
      have hshort : (buffer.drop offset).length < 2 := by
        rw [Fits] at hfits
        rw [List.length_drop]
        omega
      match hrest : buffer.drop offset with
      | [] => rfl
      | [_] => rfl
      | low :: high :: rest =>
        rw [hrest, List.length_cons, List.length_cons] at hshort
        omega

@[simp]
theorem readUtf16?_eq (buffer : Bytes) (offset limit : Nat) :
    buffer.readUtf16? offset limit = some (buffer.readUtf16 offset limit) := by
  by_cases hfits : buffer.Fits offset 0
  · rw [readUtf16?, readUtf16, if_pos hfits, if_pos hfits, scan?_eq]
    simp only [Option.bind_eq_bind, Option.bind_some]
    rcases Utf16.scan limit (buffer.drop offset) with ⟨units, _ | _ | _⟩ <;> rfl
  · rw [readUtf16?, readUtf16, if_neg hfits, if_neg hfits]

/-- A text that cannot be read leaves the buffer. -/
theorem exists_overflow_of_readLatin {buffer : Bytes} {offset limit : Nat} {fault : Fault}
    (hread : buffer.readLatin offset limit = .error fault) :
    ∃ start length, fault = buffer.overflow start length := by
  rw [readLatin] at hread
  split at hread
  · dsimp only at hread
    split at hread
    · cases hread
    · split at hread
      · cases hread
        exact ⟨_, _, rfl⟩
      · cases hread
  · cases hread
    exact ⟨_, _, rfl⟩

theorem exists_overflow_of_readUtf16 {buffer : Bytes} {offset limit : Nat} {fault : Fault}
    (hread : buffer.readUtf16 offset limit = .error fault) :
    ∃ start length, fault = buffer.overflow start length := by
  rw [readUtf16] at hread
  split at hread
  · split at hread <;> cases hread
    exact ⟨_, _, rfl⟩
  · cases hread
    exact ⟨_, _, rfl⟩

end SmbExchange.Bytes
