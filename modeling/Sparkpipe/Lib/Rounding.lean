import Mathlib.Algebra.Order.Floor.Div

/-!
# Rounding up

Counts of units that cover a number, and their 64-bit form: the sum before the division either
fits, and the count is exact, or wraps below the unit, and the count is zero.
-/

namespace Sparkpipe.Rounding

variable {count unit bound : Nat}

/-- The units cover the number. -/
theorem le_mul (someUnit : 0 < unit) (count : Nat) : count ≤ count ⌈/⌉ unit * unit := by
  have covers := le_smul_ceilDiv (b := count) someUnit
  rw [smul_eq_mul, Nat.mul_comm] at covers
  exact covers

/-- They cover less than one more unit. -/
theorem mul_lt (someUnit : 0 < unit) (count : Nat) : count ⌈/⌉ unit * unit < count + unit := by
  rw [Nat.ceilDiv_eq_add_pred_div]
  have less := Nat.div_mul_le_self (count + unit - 1) unit
  omega

/-- They are the fewest that cover it. -/
theorem le_iff (someUnit : 0 < unit) : count ⌈/⌉ unit ≤ bound ↔ count ≤ bound * unit := by
  rw [Nat.mul_comm bound]
  exact ceilDiv_le_iff_le_mul someUnit

theorem lt_iff (someUnit : 0 < unit) : bound < count ⌈/⌉ unit ↔ bound * unit < count := by
  rw [← not_le, le_iff someUnit, not_le]

theorem pos (someUnit : 0 < unit) (some : 0 < count) : 0 < count ⌈/⌉ unit := by
  by_contra none
  have zero := Nat.eq_zero_of_not_pos none
  have covers := le_mul someUnit count
  rw [zero, Nat.zero_mul] at covers
  omega

/-- What is rounded up stays below a multiple of the unit. -/
theorem mul_le (someUnit : 0 < unit) (whole : unit ∣ bound) (below : count ≤ bound) :
    count ⌈/⌉ unit * unit ≤ bound := by
  obtain ⟨units, rfl⟩ := whole
  rw [Nat.mul_comm unit] at below ⊢
  exact Nat.mul_le_mul_right unit ((le_iff someUnit).mpr below)

/-- Rounding up in two steps is rounding up once. -/
theorem ceilDiv_ceilDiv {inner outer : Nat} (someInner : 0 < inner) (someOuter : 0 < outer) (count : Nat) :
    count ⌈/⌉ inner ⌈/⌉ outer = count ⌈/⌉ (outer * inner) := by
  apply eq_of_forall_ge_iff
  intro bound
  rw [le_iff someOuter, le_iff someInner, le_iff (Nat.mul_pos someOuter someInner), Nat.mul_assoc]

/-- Whole units stay outside the rounding. -/
theorem mul_add_ceilDiv (someUnit : 0 < unit) (units count : Nat) :
    (units * unit + count) ⌈/⌉ unit = units + count ⌈/⌉ unit := by
  rw [Nat.ceilDiv_eq_add_pred_div, Nat.ceilDiv_eq_add_pred_div, Nat.add_assoc, Nat.add_sub_assoc (by omega),
    Nat.mul_comm, Nat.mul_add_div someUnit]

/-- A number dealt evenly to the fewest shares under a bound still needs as many shares. -/
theorem fewest (someUnit : 0 < unit) (some : 0 < count) :
    count ⌈/⌉ (count ⌈/⌉ (count ⌈/⌉ unit)) = count ⌈/⌉ unit := by
  have someShares := pos someUnit some
  have someEach := pos someShares some
  have each : count ⌈/⌉ (count ⌈/⌉ unit) ≤ unit := by
    rw [le_iff someShares, Nat.mul_comm]
    exact le_mul someUnit count
  apply Nat.le_antisymm
  · rw [le_iff someEach, Nat.mul_comm]
    exact le_mul someShares count
  · rw [le_iff someUnit]
    calc count ≤ count ⌈/⌉ (count ⌈/⌉ (count ⌈/⌉ unit)) * (count ⌈/⌉ (count ⌈/⌉ unit)) := le_mul someEach count
      _ ≤ count ⌈/⌉ (count ⌈/⌉ (count ⌈/⌉ unit)) * unit := Nat.mul_le_mul_left _ each

/-- The 64-bit form, exact or zero. -/
theorem uint64_cases (value unit : UInt64) (someUnit : unit ≠ 0) :
    (value.toNat + unit.toNat ≤ 2 ^ 64 ∧ ((value + unit - 1) / unit).toNat = value.toNat ⌈/⌉ unit.toNat) ∨
      (2 ^ 64 < value.toNat + unit.toNat ∧ (value + unit - 1) / unit = 0) := by
  have positive : 0 < unit.toNat := Nat.pos_of_ne_zero fun zero => someUnit (UInt64.toNat_inj.mp zero)
  have valueBound := value.toNat_lt
  have unitBound := unit.toNat_lt
  have before : (value + unit - 1).toNat = (value.toNat + (unit.toNat - 1)) % 2 ^ 64 := by
    have less : (unit - 1).toNat = unit.toNat - 1 :=
      UInt64.toNat_sub_of_le _ _ (UInt64.le_iff_toNat_le.mpr positive)
    have regroup : value + unit - 1 = value + (unit - 1) := by
      rw [UInt64.sub_eq_add_neg, UInt64.sub_eq_add_neg, UInt64.add_assoc]
    rw [regroup, UInt64.toNat_add, less]
  by_cases fits : value.toNat + unit.toNat ≤ 2 ^ 64
  · left
    refine ⟨fits, ?_⟩
    rw [UInt64.toNat_div, before, Nat.mod_eq_of_lt (by omega), Nat.ceilDiv_eq_add_pred_div, Nat.add_sub_assoc positive]
  · right
    refine ⟨by omega, ?_⟩
    apply UInt64.toNat_inj.mp
    rw [UInt64.toNat_div, before, UInt64.toNat_zero]
    apply Nat.div_eq_of_lt
    omega

/-- A count is exact where the sum before the division fits. -/
theorem uint64_eq (value unit : UInt64) (someUnit : 0 < unit.toNat) (fits : value.toNat + unit.toNat < 2 ^ 64) :
    ((value + unit - 1) / unit).toNat = value.toNat ⌈/⌉ unit.toNat := by
  have nonzero : unit ≠ 0 := by
    rintro rfl
    exact absurd someUnit (Nat.lt_irrefl 0)
  rcases uint64_cases value unit nonzero with ⟨-, exact_⟩ | ⟨wrapped, -⟩
  · exact exact_
  · omega

/-- No unit is needed to cover nothing. -/
theorem uint64_zero (unit : UInt64) : (0 + unit - 1) / unit = 0 := by
  by_cases none : unit = 0
  · rw [none]
    rfl
  · rcases uint64_cases 0 unit none with ⟨-, exact_⟩ | ⟨-, wrapped⟩
    · apply UInt64.toNat_inj.mp
      rw [exact_, UInt64.toNat_zero, zero_ceilDiv]
    · exact wrapped

/-- Rounding down to a power of two clears the bits below it. -/
theorem uint64_alignDown {number unit : UInt64} {exponent : Nat} (power : unit.toNat = 2 ^ exponent) :
    (number &&& ~~~(unit - 1)).toNat = number.toNat / unit.toNat * unit.toNat := by
  have small : exponent < 64 := by
    have bound := unit.toNat_lt
    rw [power] at bound
    exact (Nat.pow_lt_pow_iff_right (by decide)).mp bound
  have positive : 0 < unit.toNat := power ▸ Nat.two_pow_pos exponent
  have less : (unit - 1).toNat = 2 ^ exponent - 1 := by
    rw [UInt64.toNat_sub_of_le unit 1 (UInt64.le_iff_toNat_le.mpr positive), power]
    rfl
  have mask : (~~~(unit - 1)).toNat = (2 ^ (64 - exponent) - 1) <<< exponent := by
    rw [UInt64.toNat_not, less, Nat.shiftLeft_eq, Nat.sub_mul, ← Nat.pow_add, Nat.sub_add_cancel (by omega), Nat.one_mul]
    change 2 ^ 64 - 1 - _ = _
    have some := Nat.two_pow_pos exponent
    omega
  have shifted : number.toNat / unit.toNat * unit.toNat = number.toNat >>> exponent <<< exponent := by
    rw [Nat.shiftRight_eq_div_pow, Nat.shiftLeft_eq, power]
  rw [UInt64.toNat_and, mask, shifted]
  apply Nat.eq_of_testBit_eq
  intro bit
  rw [Nat.testBit_and, Nat.testBit_shiftLeft, Nat.testBit_shiftLeft, Nat.testBit_shiftRight, Nat.testBit_two_pow_sub_one]
  by_cases low : exponent ≤ bit
  · have same : exponent + (bit - exponent) = bit := by omega
    rw [same]
    by_cases beyond : 64 ≤ bit
    · have high : number.toNat.testBit bit = false :=
        Nat.testBit_lt_two_pow (Nat.lt_of_lt_of_le number.toNat_lt (Nat.pow_le_pow_right (by decide) beyond))
      simp [high]
    · have inside : bit - exponent < 64 - exponent := by omega
      simp [low, inside]
  · simp [low]

end Sparkpipe.Rounding
