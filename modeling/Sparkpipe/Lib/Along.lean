import Mathlib.Data.List.Infix

/-! A condition that is met along a loop: before each of its steps, in the state that
the steps before it have left. -/

namespace Sparkpipe

variable {σ α : Type}

/-- `meets` holds before each step of a loop over a list. -/
def Along (body : σ → α → σ) (meets : σ → α → Prop) : List α → σ → Prop
  | [], _ => True
  | item :: rest, state => meets state item ∧ Along body meets rest (body state item)

variable {body : σ → α → σ} {meets holds : σ → α → Prop} {items : List α} {state : σ}

instance Along.decidable [∀ state item, Decidable (meets state item)] :
    (items : List α) → (state : σ) → Decidable (Along body meets items state)
  | [], _ => .isTrue trivial
  | item :: rest, state =>
    have := Along.decidable rest (body state item)
    inferInstanceAs (Decidable (meets state item ∧ Along body meets rest (body state item)))

/-- What each step keeps under the condition, the loop keeps. -/
theorem Along.foldl {P : σ → Prop} (step : ∀ state item, P state → meets state item → P (body state item))
    (along : Along body meets items state) (start : P state) : P (items.foldl body state) := by
  induction items generalizing state with
  | nil => exact start
  | cons item rest ih => exact ih along.2 (step state item start along.1)

theorem Along.append {later : List α} (along : Along body meets (items ++ later) state) :
    Along body meets items state ∧ Along body meets later (items.foldl body state) := by
  induction items generalizing state with
  | nil => exact ⟨trivial, along⟩
  | cons item rest ih =>
    obtain ⟨first, last⟩ := ih along.2
    exact ⟨⟨along.1, first⟩, last⟩

/-- A condition that holds whatever the state holds along every loop. -/
theorem Along.of_forall (always : ∀ state item, meets state item) : Along body meets items state := by
  induction items generalizing state with
  | nil => trivial
  | cons item rest ih => exact ⟨always state item, ih⟩

/-- A condition under which an invariant is kept gives every other that follows from both. -/
theorem Along.map {P : σ → Prop} (step : ∀ state item, P state → meets state item → P (body state item))
    (gives : ∀ state item, P state → meets state item → holds state item)
    (along : Along body meets items state) (start : P state) : Along body holds items state := by
  induction items generalizing state with
  | nil => trivial
  | cons item rest ih =>
    exact ⟨gives state item start along.1, ih along.2 (step state item start along.1)⟩

/-- A property holds in every state a loop passes through exactly when each step meets the
condition: the steps that meet it keep an invariant that gives the property, and a step that
does not ends without it. -/
theorem Along.iff_everywhere (invariant P : σ → Prop)
    (keeps : ∀ state item, invariant state → meets state item → invariant (body state item))
    (gives : ∀ state, invariant state → P state)
    (breaks : ∀ state item, invariant state → ¬ meets state item → ¬ P (body state item))
    (start : invariant state) :
    (∀ taken, taken <+: items → P (taken.foldl body state)) ↔ Along body meets items state := by
  induction items generalizing state with
  | nil =>
    constructor
    · intro _
      trivial
    · intro _ taken within
      rw [List.prefix_nil.mp within]
      exact gives state start
  | cons item rest ih =>
    constructor
    · intro everywhere
      have met : meets state item := by
        by_contra failed
        exact breaks state item start failed (everywhere [item] (List.prefix_append [item] rest))
      refine ⟨met, (ih (keeps state item start met)).mp fun taken within => ?_⟩
      exact everywhere (item :: taken) ((List.prefix_cons_inj item).mpr within)
    · rintro ⟨met, along⟩ taken within
      rcases List.prefix_cons_iff.mp within with rfl | ⟨later, rfl, inside⟩
      · exact gives state start
      · exact (ih (keeps state item start met)).mpr along later inside

end Sparkpipe
