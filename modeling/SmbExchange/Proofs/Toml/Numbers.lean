import Mathlib.Data.List.TakeDrop
import SmbExchange.Proofs.Text.Digits
import SmbExchange.Toml.Reader

/-!
# Integers that are written and read back

A number is written in decimal, without a sign and without leading zeros, and
ends with its line.  The reader tries several other things first: a date or a
time of day, a number in another base, a float.  None of them starts with digits
up to the end of a line, so the integer is what is left.
-/

namespace SmbExchange.Toml

/-- Decimal digits, at least one, with a zero in front only if they are a single zero. -/
structure IsDecimal (digits : List Char) : Prop where
  ne_nil : digits ≠ []
  isDigit : ∀ digit ∈ digits, digit.isDigit = true
  eq_zero : digits.head? = some '0' → digits = ['0']

theorem isDecimal_toDigits (value : Nat) : IsDecimal (Nat.toDigits 10 value) := by
  refine ⟨Nat.toDigits_ne_nil, fun digit => Nat.isDigit_of_mem_toDigits (by decide) (by decide),
    fun hzero => ?_⟩
  rw [eq_zero_of_head?_toDigits (by decide) hzero, Nat.toDigits_zero]

theorem exists_of_readPair {least most value : Nat} {chars behind : List Char}
    (hpair : readPair least most chars = some (value, behind)) :
    ∃ tens ones, chars = tens :: ones :: behind ∧ tens.isDigit = true ∧ ones.isDigit = true := by
  unfold readPair at hpair
  split at hpair
  · rename_i tens ones rest
    split at hpair
    · rename_i hdigits
      rw [Bool.and_eq_true] at hdigits
      dsimp only at hpair
      split at hpair
      · cases hpair
        exact ⟨tens, ones, rfl, hdigits⟩
      · cases hpair
    · cases hpair
  · cases hpair

section Digits

variable {digits : List Char}

/-- The first character that is no digit ends the line. -/
theorem find?_digits (hdecimal : IsDecimal digits) (rest : List Char) :
    (digits ++ '\n' :: rest).find? (!·.isDigit) = some '\n' := by
  have hnone : digits.find? (!·.isDigit) = none := by
    apply List.find?_eq_none.mpr
    intro digit hdigit
    rw [hdecimal.isDigit digit hdigit]
    decide
  rw [List.find?_append, hnone, Option.none_or, List.find?_cons_of_pos (by decide)]

/-- A line of digits alone starts neither a date nor a time of day. -/
theorem openingOf_digits (hdecimal : IsDecimal digits) (rest : List Char) :
    openingOf (digits ++ '\n' :: rest) = .none := by
  have hfirst := find?_digits hdecimal rest
  generalize digits ++ '\n' :: rest = chars at hfirst
  unfold openingOf
  split
  · rename_i a b c d behind
    split
    · rename_i hdigits
      simp only [List.all_cons, List.all_nil, Bool.and_true, Bool.and_eq_true] at hdigits
      obtain ⟨ha, hb, hc, hd⟩ := hdigits
      have hdash : (a :: b :: c :: d :: '-' :: behind).find? (!·.isDigit) = some '-' := by
        simp [ha, hb, hc, hd]
      rw [hdash] at hfirst
      exact absurd hfirst (by decide)
    · rfl
  · split
    · rename_i value behind hpair
      obtain ⟨tens, ones, rfl, htens, hones⟩ := exists_of_readPair hpair
      have hcolon : (tens :: ones :: ':' :: behind).find? (!·.isDigit) = some ':' := by
        simp [htens, hones]
      rw [hcolon] at hfirst
      exact absurd hfirst (by decide)
    · rfl

theorem readDigits_digits (hdecimal : IsDecimal digits) (rest : List Char) :
    readDigits Char.isDigit (digits ++ '\n' :: rest) = some (digits, '\n' :: rest) := by
  have hall : ∀ digit ∈ digits, (digit.isDigit || digit == '_') = true := fun digit hdigit => by
    rw [hdecimal.isDigit digit hdigit, Bool.true_or]
  have hunderscore : '_' ∉ digits := fun hmem =>
    absurd (hdecimal.isDigit '_' hmem) (by decide)
  have hsplit : digits.splitOn '_' = [digits] := List.splitOn_eq_singleton hunderscore
  rw [readDigits, List.span_eq_takeWhile_dropWhile, List.takeWhile_append_of_pos hall,
    List.dropWhile_append_of_pos hall, List.takeWhile_cons_of_neg (by decide),
    List.dropWhile_cons_of_neg (by decide), List.append_nil]
  simp [hsplit, hdecimal.ne_nil]

theorem readWhole_digits (hdecimal : IsDecimal digits) (rest : List Char) :
    readWhole (digits ++ '\n' :: rest) = some (digits, '\n' :: rest) := by
  by_cases hzero : digits.head? = some '0'
  · rw [hdecimal.eq_zero hzero]
    rfl
  · rw [readWhole]
    · exact readDigits_digits hdecimal rest
    · rintro behind hsame
      rw [← List.head?_append_of_ne_nil digits hdecimal.ne_nil, hsame] at hzero
      exact hzero rfl

/-! ## Their value -/

theorem value?_of_isDigit {digit : Char} (hdigit : digit.isDigit = true) :
    Hex.value? digit = some (digit.toNat - 48) := by
  have hrange : '0' ≤ digit ∧ digit ≤ '9' := by
    rw [Char.isDigit, Bool.and_eq_true, decide_eq_true_eq, decide_eq_true_eq] at hdigit
    exact hdigit
  rw [Hex.value?, if_pos hrange]

theorem foldlM_value (hdigits : ∀ digit ∈ digits, digit.isDigit = true) (found : Nat) :
    digits.foldlM (fun found digit => (Hex.value? digit).map (10 * found + ·)) found =
      some (Nat.ofDigitChars 10 digits found) := by
  induction digits generalizing found with
  | nil => rfl
  | cons digit digits ih =>
    rw [List.foldlM_cons, value?_of_isDigit (hdigits digit List.mem_cons_self)]
    exact ih (fun other hother => hdigits other (List.mem_cons_of_mem digit hother)) _

theorem ofDigitChars_dropWhile (digits : List Char) :
    Nat.ofDigitChars 10 (digits.dropWhile (· == '0')) 0 = Nat.ofDigitChars 10 digits 0 := by
  induction digits with
  | nil => rfl
  | cons digit digits ih =>
    by_cases hzero : digit = '0'
    · subst hzero
      exact ih
    · rw [List.dropWhile_cons_of_neg (by simpa using hzero)]

/-- A number of 63 bits has far fewer digits than the reader takes. -/
theorem magnitude?_toDigits {value : Nat} (hvalue : value < integerBound) :
    magnitude? 10 (Nat.toDigits 10 value) = some value := by
  have hsublist := List.dropWhile_sublist (· == '0') (l := Nat.toDigits 10 value)
  have hlength : (Nat.toDigits 10 value).length ≤ longestInteger :=
    (Nat.length_toDigits_le_iff (by decide) (by decide)).mpr
      (Nat.lt_of_lt_of_le hvalue (by decide +kernel))
  rw [magnitude?, if_neg (Nat.not_lt.mpr (Nat.le_trans hsublist.length_le hlength)), foldlM_value,
    ofDigitChars_dropWhile, Nat.ofDigitChars_ten_toDigits]
  exact fun digit hdigit => (isDecimal_toDigits value).isDigit digit (hsublist.mem hdigit)

end Digits

/-- A number that was written at the end of a line is read back. -/
theorem readNumber_toDigits {value : Nat} (hvalue : value < integerBound) (rest : List Char) :
    readNumber (Nat.toDigits 10 value ++ '\n' :: rest) = some (.integer value, '\n' :: rest) := by
  have hdecimal := isDecimal_toDigits value
  have hwhole := readWhole_digits hdecimal rest
  have hsigned : signed? [] 10 (Nat.toDigits 10 value) = some (.integer value) := by
    rw [signed?, magnitude?_toDigits hvalue, Option.bind_some, if_neg (by decide), if_pos hvalue]
  have hdone : readDecimal [] (Nat.toDigits 10 value) ('\n' :: rest) =
      some (.integer value, '\n' :: rest) := by
    rw [readDecimal]
    change readDecimal.finish [] _ [] ('\n' :: rest) = _
    rw [readDecimal.finish, hsigned]
    rfl
  have hfirst := find?_digits hdecimal rest
  generalize Nat.toDigits 10 value ++ '\n' :: rest = chars at hfirst hwhole ⊢
  unfold readNumber
  split
  · cases hfirst
  · cases hfirst
  · cases hfirst
  · have hsign : readSign chars = ([], chars) := by
      unfold readSign
      split
      · cases hfirst
      · cases hfirst
      · rfl
    rw [hsign]
    dsimp only
    split
    · cases hfirst
    · cases hfirst
    · rw [hwhole]
      exact hdone

/-- An integer at the end of a line is taken for nothing else. -/
theorem readScalar_toDigits {value : Nat} (hvalue : value < integerBound) (rest : List Char) :
    readScalar (Nat.toDigits 10 value ++ '\n' :: rest) = some (.integer value, '\n' :: rest) := by
  have hdecimal := isDecimal_toDigits value
  have hnumber := readNumber_toDigits hvalue rest
  have hopening := openingOf_digits hdecimal rest
  have hquantity : readQuantity (Nat.toDigits 10 value ++ '\n' :: rest) =
      some (.integer value, '\n' :: rest) := by
    rw [readQuantity, readMoment, hopening, hnumber]
  have hfirst := find?_digits hdecimal rest
  generalize Nat.toDigits 10 value ++ '\n' :: rest = chars at hfirst hquantity ⊢
  unfold readScalar
  split
  · cases hfirst
  · cases hfirst
  · rename_i char behind _ _
    rw [if_neg, hquantity]
    intro hquote
    rw [Bool.or_eq_true, beq_iff_eq, beq_iff_eq] at hquote
    rcases hquote with rfl | rfl <;> cases hfirst
  · cases hfirst

end SmbExchange.Toml
