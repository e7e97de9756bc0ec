import Mathlib.Data.List.Basic
import SmbExchange.Text.Hex

/-!
# Numbers in digits

The digits of a number start with a zero only if the number is zero.  So zeros
that stand in front of other digits have been put there to fill a width, and a
reader of hexadecimal digits is not misled by them.
-/

namespace SmbExchange

theorem eq_zero_of_head?_toDigits {base value : Nat} (hbase : 1 < base)
    (hzero : (Nat.toDigits base value).head? = some '0') : value = 0 := by
  induction value using Nat.strongRecOn with
  | ind value ih =>
    rw [Nat.toDigits_eq_if hbase] at hzero
    split at hzero
    · exact Nat.digitChar_eq_zero.mp (Option.some.inj hzero)
    · rename_i hlarge
      have hpositive : 0 < value := by omega
      have hquotient : 0 < value / base := Nat.div_pos (Nat.le_of_not_lt hlarge) (by omega)
      rw [List.head?_append_of_ne_nil _ Nat.toDigits_ne_nil] at hzero
      have hnone := ih (value / base) (Nat.div_lt_self hpositive hbase) hzero
      omega

namespace Hex

def IsLower (char : Char) : Prop :=
  ('0' ≤ char ∧ char ≤ '9') ∨ ('a' ≤ char ∧ char ≤ 'f')

instance (char : Char) : Decidable (IsLower char) :=
  inferInstanceAs (Decidable (_ ∨ _))

/-- The digits of a number, with zeros in front only to fill a width. -/
structure Spells (width value : Nat) (digits : List Char) : Prop where
  isLower : ∀ digit ∈ digits, IsLower digit
  ofDigits?_eq : ofDigits? digits = some value
  le_length : width ≤ digits.length
  head?_ne_zero : width < digits.length → digits.head? ≠ some '0'

theorem isLower_digit {value : Nat} (hvalue : value < 16) : IsLower (digit value) := by
  have hall : ∀ index : Fin 16, IsLower (digit index.val) := by
    decide
  exact hall ⟨value, hvalue⟩

theorem digitChar_eq_digit {value : Nat} (hvalue : value < 16) :
    Nat.digitChar value = digit value := by
  have hall : ∀ index : Fin 16, Nat.digitChar index.val = digit index.val := by
    decide
  exact hall ⟨value, hvalue⟩

theorem isLower_of_mem_toDigits {value : Nat} {char : Char}
    (hchar : char ∈ Nat.toDigits 16 value) : IsLower char := by
  induction value using Nat.strongRecOn with
  | ind value ih =>
    rw [Nat.toDigits_eq_if (by decide)] at hchar
    split at hchar
    · rename_i hsmall
      rw [List.mem_singleton.mp hchar, digitChar_eq_digit hsmall]
      exact isLower_digit hsmall
    · rcases List.mem_append.mp hchar with hfront | hlast
      · exact ih (value / 16) (by omega) hfront
      · have hsmall : value % 16 < 16 := Nat.mod_lt _ (by decide)
        rw [List.mem_singleton.mp hlast, digitChar_eq_digit hsmall]
        exact isLower_digit hsmall

theorem ofDigits?_concat (digits : List Char) (char : Char) :
    ofDigits? (digits ++ [char]) =
      (ofDigits? digits).bind fun found => (value? char).map (16 * found + ·) := by
  rw [ofDigits?, List.foldlM_append]
  refine congrArg (Option.bind _) ?_
  funext found
  rw [List.foldlM_cons]
  cases value? char <;> rfl

theorem ofDigits?_concat_digit {digits : List Char} {found value : Nat}
    (hfound : ofDigits? digits = some found) (hvalue : value < 16) :
    ofDigits? (digits ++ [digit value]) = some (16 * found + value) := by
  rw [ofDigits?_concat, hfound, value?_digit value hvalue]
  rfl

theorem ofDigits?_toDigits (value : Nat) : ofDigits? (Nat.toDigits 16 value) = some value := by
  induction value using Nat.strongRecOn with
  | ind value ih =>
    rw [Nat.toDigits_eq_if (by decide)]
    split
    · rename_i hsmall
      have hnone : ofDigits? [] = some 0 := rfl
      have hsingle := ofDigits?_concat_digit hnone hsmall
      rwa [List.nil_append, Nat.mul_zero, Nat.zero_add, ← digitChar_eq_digit hsmall] at hsingle
    · have hsmall : value % 16 < 16 := Nat.mod_lt _ (by decide)
      rw [digitChar_eq_digit hsmall, ofDigits?_concat_digit (ih (value / 16) (by omega)) hsmall,
        Nat.div_add_mod]

theorem ofDigits?_replicate_append (count : Nat) (digits : List Char) :
    ofDigits? (List.replicate count '0' ++ digits) = ofDigits? digits := by
  induction count with
  | zero => rfl
  | succ count ih => exact ih

theorem spells_lower {width : Nat} (hwidth : 0 < width) (value : Nat) :
    Spells width value (lower width value) := by
  have hlength : (lower width value).length =
      width - (Nat.toDigits 16 value).length + (Nat.toDigits 16 value).length := by
    rw [lower, List.length_append, List.length_replicate]
  refine ⟨fun digit hdigit => ?_, ?_, by omega, fun hlong hzero => ?_⟩
  · rcases List.mem_append.mp hdigit with hfill | hdigit
    · rw [List.eq_of_mem_replicate hfill]
      decide
    · exact isLower_of_mem_toDigits hdigit
  · rw [lower, ofDigits?_replicate_append, ofDigits?_toDigits]
  · -- More digits than the width have not been filled up, and zero has a single digit.
    have hnone : width - (Nat.toDigits 16 value).length = 0 := by omega
    rw [lower, hnone] at hzero
    obtain rfl := eq_zero_of_head?_toDigits (by decide) hzero
    rw [Nat.toDigits_zero, List.length_singleton] at hlength
    omega

end Hex

end SmbExchange
