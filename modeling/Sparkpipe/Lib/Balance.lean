import Mathlib.Algebra.BigOperators.Group.List.Basic
import Mathlib.Algebra.Ring.Int.Defs
import Mathlib.Data.List.Infix
import Mathlib.Order.Lattice

/-! Running balances: each event of a history adds to the balance of a key or takes from it,
and no balance may ever leave the range from zero to one. -/

namespace Sparkpipe

variable {Event Key : Type*} {effect : Key → Event → ℤ} {events more : List Event} {key : Key}

/-- The balance of a key after some events. -/
def balance (effect : Key → Event → ℤ) (events : List Event) (key : Key) : ℤ :=
  (events.map (effect key)).sum

/-- At every moment of the history every balance is zero or one. -/
def AlwaysUnit (effect : Key → Event → ℤ) (events : List Event) : Prop :=
  ∀ taken, taken <+: events → ∀ key, balance effect taken key = 0 ∨ balance effect taken key = 1

theorem balance_append (effect : Key → Event → ℤ) (events more : List Event) (key : Key) :
    balance effect (events ++ more) key = balance effect events key + balance effect more key := by
  unfold balance
  rw [List.map_append, List.sum_append]

/-- Events without an effect leave every balance. -/
theorem balance_idle (idle : ∀ event ∈ events, effect key event = 0) : balance effect events key = 0 := by
  unfold balance
  apply List.sum_eq_zero
  intro amount member
  obtain ⟨event, inside, rfl⟩ := List.mem_map.mp member
  exact idle event inside

theorem AlwaysUnit.nil (effect : Key → Event → ℤ) : AlwaysUnit effect [] := by
  intro taken within key
  rw [List.prefix_nil.mp within]
  exact .inl rfl

/-- The whole history is one of its moments. -/
theorem AlwaysUnit.last (always : AlwaysUnit effect events) (key : Key) :
    balance effect events key = 0 ∨ balance effect events key = 1 := always events (List.prefix_refl _) key

/-- Further events must keep to the range, moment by moment. -/
theorem AlwaysUnit.append (always : AlwaysUnit effect events)
    (goesOn : ∀ taken, taken <+: more → ∀ key, balance effect events key + balance effect taken key = 0 ∨
      balance effect events key + balance effect taken key = 1) : AlwaysUnit effect (events ++ more) := by
  intro taken within key
  rcases List.prefix_or_prefix_of_prefix within (List.prefix_append events more) with early | late
  · exact always taken early key
  · obtain ⟨later, rfl⟩ := late
    rw [balance_append]
    exact goesOn later ((List.prefix_append_right_inj events).mp within) key

end Sparkpipe
