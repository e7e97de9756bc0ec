/-!
# Hexadecimal text

Numbers written in base sixteen, padded with zeros to a least width.
-/

namespace SmbExchange.Hex

/-- The lower-case digit of a number below sixteen. -/
def digit (value : Nat) : Char :=
  if value < 10 then Char.ofNat (48 + value) else Char.ofNat (87 + value)

/-- The two lower-case digits of a byte. -/
def ofByte (byte : UInt8) : List Char :=
  [digit (byte.toNat / 16), digit (byte.toNat % 16)]

/-- Lower-case digits of `value`, at least `width` of them. -/
def lower (width value : Nat) : List Char :=
  let digits := Nat.toDigits 16 value
  List.replicate (width - digits.length) '0' ++ digits

/-- Upper-case digits of `value`, at least `width` of them. -/
def upper (width value : Nat) : List Char :=
  (lower width value).map Char.toUpper

/-- The number that a digit of either case stands for. -/
def value? (char : Char) : Option Nat :=
  if '0' ≤ char ∧ char ≤ '9' then some (char.toNat - 48)
  else if 'a' ≤ char ∧ char ≤ 'f' then some (char.toNat - 87)
  else if 'A' ≤ char ∧ char ≤ 'F' then some (char.toNat - 55)
  else none

/-- The number that digits stand for, most significant first. -/
def ofDigits? (digits : List Char) : Option Nat :=
  digits.foldlM (fun found digit => (value? digit).map (16 * found + ·)) 0

theorem value?_digit (value : Nat) (hvalue : value < 16) : value? (digit value) = some value := by
  have hall : ∀ index : Fin 16, value? (digit index.val) = some index.val := by decide
  exact hall ⟨value, hvalue⟩

end SmbExchange.Hex
