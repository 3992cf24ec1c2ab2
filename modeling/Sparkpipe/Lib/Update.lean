import Mathlib.Logic.Function.Basic

/-! What is kept where a function is rewritten at one place. -/

namespace Sparkpipe

variable {α β γ : Type*} [DecidableEq α] {f : α → β} {i : α} {value : β}

/-- A field that the new value shares with the old is kept everywhere. -/
theorem update_field (field : β → γ) (same : field value = field (f i)) (j : α) :
    field (Function.update f i value j) = field (f j) := by
  by_cases here : j = i
  · rw [here, Function.update_self, same]
  · rw [Function.update_of_ne here]

end Sparkpipe
