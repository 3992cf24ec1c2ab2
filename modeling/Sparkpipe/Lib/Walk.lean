import Mathlib.Data.List.Range
import Mathlib.Data.List.Basic

/-!
# Walks over a range

A loop takes some rows from where it stands, until it has them all. The walk is the list of the
places where it stands.
-/

namespace Sparkpipe

/-- From one place to another, each time by the size at the place, which is not zero. -/
inductive Walk (size : Nat → Nat) : Nat → List Nat → Nat → Prop
  | here (place : Nat) : Walk size place [] place
  | step {place stop : Nat} {places : List Nat} (progress : 0 < size place)
      (rest : Walk size (place + size place) places stop) : Walk size place (place :: places) stop

namespace Walk

variable {size other : Nat → Nat} {place middle stop total : Nat} {places more : List Nat}

/-- The rows taken are those from the one place to the other, each once and in their order. -/
theorem rows (walk : Walk size place places stop) : place ≤ stop ∧
    places.flatMap (fun first => List.range' first (size first)) = List.range' place (stop - place) := by
  induction walk with
  | here place => exact ⟨Nat.le_refl _, by rw [Nat.sub_self]; rfl⟩
  | @step place stop places progress _ ih =>
    obtain ⟨past, ih⟩ := ih
    refine ⟨by omega, ?_⟩
    rw [List.flatMap_cons, ih]
    have whole : stop - place = size place + (stop - (place + size place)) := by omega
    rw [whole, ← List.range'_append_1]

theorem eq_of_nil (walk : Walk size place [] stop) : place = stop := by
  cases walk
  rfl

theorem append (walk : Walk size place places middle) (later : Walk size middle more stop) :
    Walk size place (places ++ more) stop := by
  induction walk with
  | here => exact later
  | step progress _ ih => exact step progress (ih later)

/-- A loop that moves on from every place, and never past the end, reaches the end. -/
theorem reaches (progress : ∀ place < total, 0 < size place ∧ place + size place ≤ total) (inside : place ≤ total) :
    ∃ places, Walk size place places total := by
  induction remaining : total - place using Nat.strong_induction_on generalizing place with
  | _ left ih =>
    by_cases ended : place = total
    · subst ended
      exact ⟨[], here place⟩
    · obtain ⟨some, fits⟩ := progress place (by omega)
      obtain ⟨places, walk⟩ := ih (total - (place + size place)) (by omega) fits rfl
      exact ⟨place :: places, step some walk⟩

end Walk

/-- The loop from the start takes every row once, in its order, and ends. -/
def TakesAll (size : Nat → Nat) (total : Nat) : Prop :=
  ∃ places, Walk size 0 places total ∧
    places.flatMap (fun first => List.range' first (size first)) = List.range total

theorem takesAll_of_progress {size : Nat → Nat} {total : Nat}
    (progress : ∀ place < total, 0 < size place ∧ place + size place ≤ total) : TakesAll size total := by
  obtain ⟨places, walk⟩ := Walk.reaches progress (Nat.zero_le total)
  refine ⟨places, walk, ?_⟩
  rw [walk.rows.2, Nat.sub_zero, List.range_eq_range']

end Sparkpipe
