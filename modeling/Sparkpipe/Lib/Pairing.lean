import Mathlib.Logic.Function.Basic

/-! Two tables that record the same partial pairing from both sides, and the three edits
that keep them so. -/

namespace Sparkpipe

open Function

variable {α β : Type*} {forward : α → Option β} {backward : β → Option α}

/-- Each table is the inverse of the other, as partial maps. -/
def Paired (forward : α → Option β) (backward : β → Option α) : Prop :=
  ∀ a b, forward a = some b ↔ backward b = some a

namespace Paired

theorem empty : Paired (fun _ : α => (none : Option β)) fun _ => none := by
  intro a b
  constructor
  · intro linked
    cases linked
  · intro linked
    cases linked

/-- Whatever is paired with `b` is all that is. -/
theorem unique (paired : Paired forward backward) {a a' : α} {b : β} (one : forward a = some b)
    (other : forward a' = some b) : a = a' := by
  have first := (paired a b).mp one
  have second := (paired a' b).mp other
  exact Option.some.inj (first.symm.trans second)

variable [DecidableEq α] [DecidableEq β]

theorem unlink (paired : Paired forward backward) {a : α} {b : β} (linked : forward a = some b) :
    Paired (update forward a none) (update backward b none) := by
  intro x y
  by_cases first : x = a
  · subst first
    rw [update_self]
    constructor
    · intro impossible
      cases impossible
    · intro back
      by_cases second : y = b
      · rw [second, update_self] at back
        cases back
      · rw [update_of_ne second] at back
        have here := (paired x y).mpr back
        exact absurd (Option.some.inj (here.symm.trans linked)) second
  · rw [update_of_ne first]
    by_cases second : y = b
    · subst second
      rw [update_self]
      constructor
      · intro here
        exact absurd (paired.unique here linked) first
      · intro impossible
        cases impossible
    · rw [update_of_ne second]
      exact paired x y

theorem link (paired : Paired forward backward) {a : α} {b : β} (freeA : forward a = none)
    (freeB : backward b = none) :
    Paired (update forward a (some b)) (update backward b (some a)) := by
  intro x y
  by_cases first : x = a
  · subst first
    rw [update_self]
    by_cases second : y = b
    · subst second
      rw [update_self]
      exact ⟨fun _ => rfl, fun _ => rfl⟩
    · rw [update_of_ne second]
      constructor
      · intro linked
        exact absurd (Option.some.inj linked).symm second
      · intro back
        have here := (paired x y).mpr back
        rw [freeA] at here
        cases here
  · rw [update_of_ne first]
    by_cases second : y = b
    · subst second
      rw [update_self]
      constructor
      · intro here
        have back := (paired x y).mp here
        rw [freeB] at back
        cases back
      · intro back
        exact absurd (Option.some.inj back).symm first
    · rw [update_of_ne second]
      exact paired x y

/-- What was paired with `a` is paired with `a'` instead. -/
theorem move (paired : Paired forward backward) {a a' : α} {b : β} (linked : forward a = some b)
    (free : forward a' = none) (different : a ≠ a') :
    Paired (update (update forward a' (some b)) a none)
      (update backward b (some a')) := by
  have apart := paired.unlink linked
  have joined := apart.link (a := a') (b := b) (by rw [update_of_ne different.symm, free])
    (update_self ..)
  rwa [update_idem, update_comm different] at joined

end Paired

end Sparkpipe
