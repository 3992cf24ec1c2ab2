import Mathlib.Algebra.GroupWithZero.Nat
import Mathlib.Algebra.Order.BigOperators.Group.List

/-!
# Regions laid end to end

Items with sizes are laid out one after the other. Each place below the total lies in the region
of exactly one item.
-/

namespace Sparkpipe.Tiling

variable {α : Type*} {size : α → Nat} {items before after other rest : List α} {item different : α} {place : Nat}

/-- How many places the first items take. -/
def taken (size : α → Nat) (items : List α) : Nat := (items.map size).sum

@[simp] theorem taken_nil : taken size ([] : List α) = 0 := rfl

@[simp] theorem taken_cons : taken size (item :: items) = size item + taken size items := by
  rw [taken, List.map_cons, List.sum_cons, taken]

@[simp] theorem taken_append : taken size (before ++ after) = taken size before + taken size after := by
  rw [taken, List.map_append, List.sum_append, taken, taken]

/-- A place below the total lies in a region. -/
theorem exists_region (below : place < taken size items) : ∃ before item after, items = before ++ item :: after ∧
    taken size before ≤ place ∧ place < taken size before + size item := by
  induction items generalizing place with
  | nil => exact absurd below (Nat.not_lt_zero _)
  | cons first rest ih =>
    by_cases here : place < size first
    · exact ⟨[], first, rest, rfl, Nat.zero_le _, by rw [taken_nil, Nat.zero_add]; exact here⟩
    · rw [taken_cons] at below
      obtain ⟨before, item, after, split, starts, ends⟩ := @ih (place - size first) (by omega)
      refine ⟨first :: before, item, after, by rw [split, List.cons_append], ?_, ?_⟩ <;> rw [taken_cons] <;> omega

/-- The regions of two items do not meet. -/
theorem region_unique (split : items = before ++ item :: after) (otherSplit : items = other ++ different :: rest)
    (starts : taken size before ≤ place) (ends : place < taken size before + size item)
    (otherStarts : taken size other ≤ place) (otherEnds : place < taken size other + size different) :
    item = different := by
  subst split
  rcases List.append_eq_append_iff.mp otherSplit with ⟨middle, isOther, isAfter⟩ | ⟨middle, isBefore, isRest⟩
  · cases middle with
    | nil => exact (List.cons.inj isAfter).1
    | cons head tail =>
      obtain ⟨rfl, -⟩ := List.cons.inj isAfter
      rw [isOther, taken_append, taken_cons] at otherStarts
      omega
  · cases middle with
    | nil => exact (List.cons.inj isRest).1.symm
    | cons head tail =>
      obtain ⟨rfl, -⟩ := List.cons.inj isRest
      rw [isBefore, taken_append, taken_cons] at starts
      omega

end Sparkpipe.Tiling
