/-!
# Byte strings

A byte string is a list.  Two operations carry the whole packet layout: `slice` reads a range and
`patch` writes over one.  A patch never changes the length, so a buffer keeps its capacity through
every write; what a patch does to each byte is `getElem?_patch`.
-/

namespace SmbExchange

/-- A string of bytes, first byte first. -/
abbrev Bytes := List UInt8

namespace Bytes

/-- The `length` bytes that start at `offset`, fewer where the string ends before. -/
def slice (bytes : Bytes) (offset length : Nat) : Bytes :=
  (bytes.drop offset).take length

/-- Writes `source` over the bytes from `offset` on.  What would fall past the end is dropped. -/
def patch (bytes : Bytes) (offset : Nat) (source : Bytes) : Bytes :=
  bytes.take offset ++ (source.take (bytes.length - offset) ++ bytes.drop (offset + source.length))

/-- The byte at `offset`, zero past the end. -/
def byteAt (bytes : Bytes) (offset : Nat) : UInt8 :=
  bytes.getD offset 0

/-- At least `count` bytes are there.  Only the first `count` of them are looked at. -/
def hasAtLeast (count : Nat) (bytes : Bytes) : Bool :=
  match count, bytes with
  | 0, _ => true
  | _ + 1, [] => false
  | count + 1, _ :: rest => hasAtLeast count rest

def zeros (count : Nat) : Bytes :=
  List.replicate count 0

theorem hasAtLeast_iff (count : Nat) (bytes : Bytes) :
    hasAtLeast count bytes = true ↔ count ≤ bytes.length := by
  induction count generalizing bytes with
  | zero => simp [hasAtLeast]
  | succ count ih =>
    cases bytes with
    | nil => simp [hasAtLeast]
    | cons byte rest => simp [hasAtLeast, ih]

@[simp]
theorem length_slice (bytes : Bytes) (offset length : Nat) :
    (bytes.slice offset length).length = min length (bytes.length - offset) := by
  simp [slice]

@[simp]
theorem length_zeros (count : Nat) : (zeros count).length = count := by
  simp [zeros]

@[simp]
theorem length_patch (bytes : Bytes) (offset : Nat) (source : Bytes) :
    (bytes.patch offset source).length = bytes.length := by
  simp only [patch, List.length_append, List.length_take, List.length_drop]
  omega

/-- A patch shows the source inside its range and the old byte everywhere else. -/
theorem getElem?_patch (bytes : Bytes) (offset : Nat) (source : Bytes) (index : Nat) :
    (bytes.patch offset source)[index]? =
      if offset ≤ index ∧ index < offset + source.length ∧ index < bytes.length then
        source[index - offset]?
      else bytes[index]? := by
  by_cases hbefore : index < offset
  · by_cases hlength : index < bytes.length
    · rw [patch, List.getElem?_append_left (by simp; omega), List.getElem?_take_of_lt hbefore,
        if_neg (by omega)]
    · rw [List.getElem?_eq_none (by simp; omega), if_neg (by omega),
        List.getElem?_eq_none (by omega)]
  · by_cases hlength : index < bytes.length
    · rw [patch, List.getElem?_append_right (by simp; omega)]
      have htaken : (bytes.take offset).length = offset := by simp; omega
      rw [htaken]
      by_cases hinside : index < offset + source.length
      · rw [if_pos ⟨by omega, hinside, hlength⟩, List.getElem?_append_left (by simp; omega),
          List.getElem?_take_of_lt (by omega)]
      · rw [if_neg (by omega), List.getElem?_append_right (by simp; omega), List.getElem?_drop]
        congr 1
        simp
        omega
    · rw [List.getElem?_eq_none (by simp; omega), if_neg (by omega),
        List.getElem?_eq_none (by omega)]

end Bytes

end SmbExchange
