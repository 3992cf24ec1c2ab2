import Mathlib.Data.List.Basic

/-!
# Data taken in by blocks

Data is handed over in parts. Whole blocks go into a state, one after the other, and what is
left over waits for the rest of its block. How the data is divided makes no difference.
-/

namespace Sparkpipe.Blocks

variable {σ α : Type} (size : Nat) (step : σ → List α → σ)

/-- The state after the first blocks of the data. -/
def takeBlocks : Nat → σ → List α → σ
  | 0, state, _ => state
  | count + 1, state, data => takeBlocks count (step state (data.take size)) (data.drop size)

/-- The state after all whole blocks, and what is left over. -/
def absorb (state : σ) (data : List α) : σ × List α :=
  (takeBlocks size step (data.length / size) state data, data.drop (data.length / size * size))

/-- A further part of the data, which fills the block that waits first. -/
def absorbPart (state : σ) (waiting part : List α) : σ × List α :=
  if waiting = [] then absorb size step state part
  else
    let filled := waiting ++ part.take (size - waiting.length)
    if filled.length = size then absorb size step (step state filled) (part.drop (size - waiting.length))
    else (state, filled)

variable {size} {step} {state : σ} {data block rest waiting part : List α}

theorem absorb_short (short : data.length < size) : absorb size step state data = (state, data) := by
  rw [absorb, Nat.div_eq_of_lt short, Nat.zero_mul, List.drop_zero, takeBlocks]

theorem absorb_block (positive : 0 < size) (whole : block.length = size) :
    absorb size step state (block ++ rest) = absorb size step (step state block) rest := by
  have count : (block ++ rest).length / size = rest.length / size + 1 := by
    rw [List.length_append, whole, Nat.add_div_left _ positive]
  have later : ∀ blocks, (block ++ rest).drop ((blocks + 1) * size) = rest.drop (blocks * size) := by
    intro blocks
    rw [Nat.succ_mul, Nat.add_comm, ← List.drop_drop, List.drop_left' whole]
  rw [absorb, count, later, takeBlocks, List.take_left' whole, List.drop_left' whole]
  rfl

theorem length_absorb (positive : 0 < size) : (absorb size step state data).2.length < size := by
  have mod := Nat.mod_lt data.length positive
  have whole := Nat.div_add_mod data.length size
  rw [absorb, List.length_drop, Nat.mul_comm]
  omega

/-- What is left over from some data goes before the data that follows. -/
theorem absorb_append (positive : 0 < size) : absorb size step state (data ++ rest) =
    absorb size step (absorb size step state data).1 ((absorb size step state data).2 ++ rest) := by
  induction total : data.length using Nat.strongRecOn generalizing state data with
  | ind count ih =>
    by_cases short : data.length < size
    · rw [absorb_short short]
    · have whole : (data.take size).length = size := List.length_take_of_le (Nat.not_lt.mp short)
      have fewer : (data.drop size).length < count := by
        rw [List.length_drop]
        omega
      have split := List.take_append_drop size data
      generalize data.take size = block at whole split
      generalize data.drop size = later at fewer split
      subst split
      rw [List.append_assoc, absorb_block positive whole, absorb_block positive whole]
      exact ih later.length fewer rfl

/-- A part is taken in as if it came with what waits for it. -/
theorem absorbPart_eq (room : waiting.length < size) :
    absorbPart size step state waiting part = absorb size step state (waiting ++ part) := by
  unfold absorbPart
  split
  · rename_i none
    rw [none, List.nil_append]
  · dsimp only
    split
    · rename_i filled
      rw [← absorb_block (by omega) filled, List.append_assoc, List.take_append_drop]
    · rename_i unfilled
      rw [List.length_append, List.length_take] at unfilled
      have all : part.take (size - waiting.length) = part := List.take_of_length_le (by omega)
      rw [all]
      refine (absorb_short ?_).symm
      rw [List.length_append]
      omega

end Sparkpipe.Blocks
