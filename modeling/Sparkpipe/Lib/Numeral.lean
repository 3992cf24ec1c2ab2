import Mathlib.Data.List.Basic
import Mathlib.Data.Nat.Notation

/-!
# Numerals

Strings of decimal digits and the numbers they stand for. Every number has one numeral without a
leading zero, the one a formatted print writes; a reader that takes leading zeros takes many more.
-/

namespace Sparkpipe.Numeral

variable {text rest : List Char} {number bound start : Nat}

/-- Only digits, and one at least. -/
def Decimal (text : List Char) : Prop := text ≠ [] ∧ ∀ digit ∈ text, digit.isDigit

/-- Zero alone begins with a zero. -/
def Shortest (text : List Char) : Prop := text.head? = some '0' → text = ['0']

theorem isDigit_iff {digit : Char} : digit.isDigit ↔ '0' ≤ digit ∧ digit ≤ '9' := by
  simp [Char.isDigit, Char.le_def]

theorem decimal_toDigits (number : Nat) : Decimal (Nat.toDigits 10 number) :=
  ⟨Nat.toDigits_ne_nil, fun _ member => Nat.isDigit_of_mem_toDigits (by omega) (by omega) member⟩

theorem Decimal.notMem {text : List Char} {mark : Char} (decimal : Decimal text)
    (noDigit : mark.isDigit = false) : mark ∉ text := by
  intro member
  rw [decimal.2 mark member] at noDigit
  exact absurd noDigit (by decide)

/-- A digit is the character of its value. -/
theorem digitChar_of_isDigit {digit : Char} (isDigit : digit.isDigit) :
    digit.toNat - 48 < 10 ∧ (digit.toNat - 48).digitChar = digit := by
  obtain ⟨low, high⟩ := isDigit_iff.1 isDigit
  have low : 48 ≤ digit.toNat := UInt32.le_iff_toNat_le.1 low
  have high : digit.toNat ≤ 57 := UInt32.le_iff_toNat_le.1 high
  have small : digit.toNat - 48 < 10 := by omega
  refine ⟨small, Char.toNat_inj.1 ?_⟩
  rw [Nat.toNat_digitChar_of_lt_ten small]
  omega

/-- The digits before count ten times as much. -/
theorem le_ofDigitChars (text : List Char) (start : Nat) :
    start ≤ Nat.ofDigitChars 10 text start := by
  rw [Nat.ofDigitChars_eq_ofDigitChars_zero]
  have scaled := Nat.le_mul_of_pos_left start (Nat.pow_pos (n := text.length) (show 0 < 10 by omega))
  omega

/-- What follows a numeral of a positive number extends the print of that number. -/
theorem toDigits_extend (positive : 0 < number) (digits : ∀ digit ∈ text, digit.isDigit) :
    Nat.toDigits 10 (Nat.ofDigitChars 10 text number) = Nat.toDigits 10 number ++ text := by
  induction text generalizing number with
  | nil => simp
  | cons digit text ih =>
    obtain ⟨small, same⟩ := digitChar_of_isDigit (digits digit (.head _))
    have extended := Nat.toDigits_append_toDigits (b := 10) (by omega) positive small
    rw [Nat.toDigits_of_lt_base small, same] at extended
    rw [Nat.ofDigitChars_cons, ih (by omega) fun later member =>
      digits later (.tail _ member)]
    change Nat.toDigits 10 (10 * number + (digit.toNat - 48)) ++ text = _
    rw [← extended, List.append_assoc]
    rfl

/-- A print has no leading zero. -/
theorem shortest_toDigits (number : Nat) : Shortest (Nat.toDigits 10 number) := by
  induction number using Nat.strongRecOn with
  | ind number ih =>
    intro leads
    by_cases small : number < 10
    · rw [Nat.toDigits_of_lt_base small] at leads ⊢
      exact congrArg (fun digit => [digit]) (Option.some.inj leads)
    · rw [Nat.toDigits_of_base_le (by omega) (by omega)] at leads
      rw [List.head?_append_of_ne_nil _ Nat.toDigits_ne_nil] at leads
      have earlier := ih (number / 10) (by omega) leads
      have zero := congrArg (fun text => Nat.ofDigitChars 10 text 0) earlier
      rw [Nat.ofDigitChars_ten_toDigits] at zero
      have zero : number / 10 = 0 := zero
      omega

/-- A numeral is the print of its number if and only if it has no leading zero. -/
theorem toDigits_ofDigitChars (decimal : Decimal text) :
    Nat.toDigits 10 (Nat.ofDigitChars 10 text 0) = text ↔ Shortest text := by
  constructor
  · intro same
    rw [← same]
    exact shortest_toDigits _
  · intro shortest
    cases text with
    | nil => exact absurd rfl decimal.1
    | cons digit text =>
      obtain ⟨small, same⟩ := digitChar_of_isDigit (decimal.2 digit (.head _))
      by_cases zero : digit = '0'
      · rw [shortest (by rw [zero]; rfl)]
        rfl
      · have positive : 0 < digit.toNat - 48 := by
          by_contra none
          have none : digit.toNat - 48 = 0 := by omega
          rw [none] at same
          exact zero same.symm
        rw [Nat.ofDigitChars_cons]
        change Nat.toDigits 10 (Nat.ofDigitChars 10 text (10 * 0 + (digit.toNat - 48))) = _
        rw [Nat.mul_zero, Nat.zero_add, toDigits_extend positive fun later member =>
          decimal.2 later (.tail _ member), Nat.toDigits_of_lt_base small, same]
        rfl

/-- The numeral of a positive number begins with a zero if and only if it is not its print. -/
theorem print_iff_of_pos (decimal : Decimal text) (positive : 0 < Nat.ofDigitChars 10 text 0) :
    Nat.toDigits 10 (Nat.ofDigitChars 10 text 0) = text ↔ text.head? ≠ some '0' := by
  rw [toDigits_ofDigitChars decimal]
  constructor
  · intro shortest leads
    rw [shortest leads] at positive
    exact absurd positive (by decide)
  · intro unpadded leads
    exact absurd leads unpadded

/-- A numeral of zero begins with a zero. -/
theorem leads_of_zero (decimal : Decimal text) (zero : Nat.ofDigitChars 10 text 0 = 0) :
    text.head? = some '0' := by
  cases text with
  | nil => exact absurd rfl decimal.1
  | cons digit text =>
    obtain ⟨_, same⟩ := digitChar_of_isDigit (decimal.2 digit (.head _))
    rw [Nat.ofDigitChars_cons] at zero
    have least := le_ofDigitChars text (10 * 0 + (digit.toNat - '0'.toNat))
    have none : digit.toNat - 48 = 0 := by
      change 10 * 0 + (digit.toNat - 48) ≤ _ at least
      omega
    rw [none] at same
    rw [← same]
    rfl

end Sparkpipe.Numeral
