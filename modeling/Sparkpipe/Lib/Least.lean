import Mathlib.Data.List.Basic
import Mathlib.Data.Prod.Lex
import Mathlib.Order.Lattice

/-! The scan for the candidate of the least rank: `if (candidate && rank < least) ...` over
an array, from a bound that no rank reaches. -/

namespace Sparkpipe

variable {ι : Type*} {test : ι → Bool} {rank : ι → Nat} {bound : Nat} {items : List ι} {best : Option ι}
  {item : ι}

/-- The first candidate of the least rank below the bound, or else the best so far. -/
def leastRanked (test : ι → Bool) (rank : ι → Nat) : List ι → Nat → Option ι → Option ι
  | [], _, best => best
  | item :: rest, bound, best =>
    if test item ∧ rank item < bound then leastRanked test rank rest (rank item) (some item)
    else leastRanked test rank rest bound best

/-- The scan keeps what it had, or it finds a candidate of the least rank. -/
theorem leastRanked_cases (test : ι → Bool) (rank : ι → Nat) (items : List ι) (bound : Nat) (best : Option ι) :
    leastRanked test rank items bound best = best ∧ (∀ item ∈ items, test item = true → bound ≤ rank item) ∨
    ∃ item ∈ items, leastRanked test rank items bound best = some item ∧ test item = true ∧
      rank item < bound ∧ ∀ other ∈ items, test other = true → rank item ≤ rank other := by
  induction items generalizing bound best with
  | nil => exact .inl ⟨rfl, fun _ member => nomatch member⟩
  | cons first rest ih =>
    unfold leastRanked
    split
    · rename_i better
      obtain ⟨passes, below⟩ := better
      rcases ih (rank first) (some first) with ⟨same, least⟩ | ⟨item, member, found, passed, less, least⟩
      · refine .inr ⟨first, .head _, same, passes, below, fun other inside otherPasses => ?_⟩
        rcases List.mem_cons.mp inside with rfl | later
        · exact Nat.le_refl _
        · exact least other later otherPasses
      · refine .inr ⟨item, .tail _ member, found, passed, by omega,
          fun other inside otherPasses => ?_⟩
        rcases List.mem_cons.mp inside with rfl | later
        · exact Nat.le_of_lt less
        · exact least other later otherPasses
    · rename_i worse
      have past : test first = true → bound ≤ rank first := by
        intro passes
        by_contra below
        exact worse ⟨passes, Nat.lt_of_not_le below⟩
      rcases ih bound best with ⟨same, least⟩ | ⟨item, member, found, passed, less, least⟩
      · refine .inl ⟨same, fun item inside passes => ?_⟩
        rcases List.mem_cons.mp inside with rfl | later
        · exact past passes
        · exact least item later passes
      · refine .inr ⟨item, .tail _ member, found, passed, less,
          fun other inside otherPasses => ?_⟩
        rcases List.mem_cons.mp inside with rfl | later
        · have := past otherPasses
          omega
        · exact least other later otherPasses

/-- What the scan finds from nothing. -/
theorem leastRanked_some (found : leastRanked test rank items bound none = some item) :
    item ∈ items ∧ test item = true ∧ ∀ other ∈ items, test other = true → rank item ≤ rank other := by
  rcases leastRanked_cases test rank items bound none with ⟨nothing, -⟩ |
    ⟨least, member, isFound, passes, -, isLeast⟩
  · rw [nothing] at found
    cases found
  · rw [isFound] at found
    cases found
    exact ⟨member, passes, isLeast⟩

/-- When every rank is below the bound, the scan finds nothing only if there is no candidate. -/
theorem leastRanked_none (nothing : leastRanked test rank items bound none = none)
    (below : ∀ item ∈ items, rank item < bound) : ∀ item ∈ items, test item = false := by
  rcases leastRanked_cases test rank items bound none with ⟨-, past⟩ | ⟨least, -, isFound, -⟩
  · intro item member
    rw [Bool.eq_false_iff]
    intro passes
    have := past item member passes
    have := below item member
    omega
  · rw [isFound] at nothing
    cases nothing

section Orders

variable {κ : Type*} [LinearOrder κ] {measure : ι → κ} {chosen : ι}

/-- The first candidate of the least measure, where the first candidate of all is taken as it is. -/
def leastOf (test : ι → Bool) (measure : ι → κ) : List ι → Option ι → Option ι
  | [], best => best
  | item :: rest, best =>
    if test item = false then leastOf test measure rest best
    else match best with
      | none => leastOf test measure rest (some item)
      | some chosen =>
        if measure item < measure chosen then leastOf test measure rest (some item)
        else leastOf test measure rest best

/-- Once something is chosen, the scan ends with a choice that is no worse. -/
theorem leastOf_improves (test : ι → Bool) (measure : ι → κ) (items : List ι) (chosen : ι) :
    ∃ last, leastOf test measure items (some chosen) = some last ∧ measure last ≤ measure chosen ∧
      (last = chosen ∨ last ∈ items ∧ test last = true) ∧
      ∀ other ∈ items, test other = true → measure last ≤ measure other := by
  induction items generalizing chosen with
  | nil => exact ⟨chosen, rfl, le_refl _, .inl rfl, fun _ member => nomatch member⟩
  | cons item rest ih =>
    unfold leastOf
    split
    · rename_i fails
      obtain ⟨last, found, below, origin, least⟩ := ih chosen
      refine ⟨last, found, below, origin.imp id fun later => ⟨.tail _ later.1, later.2⟩, ?_⟩
      intro other inside passes
      rcases List.mem_cons.mp inside with rfl | later
      · rw [fails] at passes
        cases passes
      · exact least other later passes
    rename_i passing
    rw [Bool.not_eq_false] at passing
    dsimp only
    split
    · rename_i better
      obtain ⟨last, found, below, origin, least⟩ := ih item
      refine ⟨last, found, le_trans below (le_of_lt better), .inr ?_, ?_⟩
      · rcases origin with rfl | later
        · exact ⟨.head _, passing⟩
        · exact ⟨.tail _ later.1, later.2⟩
      · intro other inside passes
        rcases List.mem_cons.mp inside with rfl | later
        · exact below
        · exact least other later passes
    · rename_i worse
      obtain ⟨last, found, below, origin, least⟩ := ih chosen
      refine ⟨last, found, below, origin.imp id fun later => ⟨.tail _ later.1, later.2⟩, ?_⟩
      intro other inside passes
      rcases List.mem_cons.mp inside with rfl | later
      · exact le_trans below (not_lt.mp worse)
      · exact least other later passes

/-- From nothing the scan finds a candidate of the least measure, or there is none. -/
theorem leastOf_cases (test : ι → Bool) (measure : ι → κ) (items : List ι) :
    (leastOf test measure items none = none ∧ ∀ item ∈ items, test item = false) ∨
      ∃ last ∈ items, leastOf test measure items none = some last ∧ test last = true ∧
        ∀ other ∈ items, test other = true → measure last ≤ measure other := by
  induction items with
  | nil => exact .inl ⟨rfl, fun _ member => nomatch member⟩
  | cons item rest ih =>
    unfold leastOf
    split
    · rename_i fails
      rcases ih with ⟨nothing, none⟩ | ⟨last, member, found, passes, least⟩
      · refine .inl ⟨nothing, fun other inside => ?_⟩
        rcases List.mem_cons.mp inside with rfl | later
        · exact fails
        · exact none other later
      · refine .inr ⟨last, .tail _ member, found, passes, fun other inside otherPasses => ?_⟩
        rcases List.mem_cons.mp inside with rfl | later
        · rw [fails] at otherPasses
          cases otherPasses
        · exact least other later otherPasses
    · rename_i passing
      rw [Bool.not_eq_false] at passing
      obtain ⟨last, found, below, origin, least⟩ := leastOf_improves test measure rest item
      refine .inr ⟨last, ?_, found, ?_, fun other inside passes => ?_⟩
      · rcases origin with rfl | later
        · exact .head _
        · exact .tail _ later.1
      · rcases origin with rfl | later
        · exact passing
        · exact later.2
      · rcases List.mem_cons.mp inside with rfl | later
        · exact below
        · exact least other later passes

/-- Over items in order the scan finds the first of those with the least measure. -/
theorem leastOf_first [LinearOrder ι] {best : Option ι} (ordered : items.Pairwise (· < ·))
    (before : ∀ chosen ∈ best, ∀ item ∈ items, chosen < item) : leastOf test measure items best =
      leastOf test (fun item => toLex (measure item, item)) items best := by
  induction items generalizing best with
  | nil => rfl
  | cons item rest ih =>
    obtain ⟨ahead, later⟩ := List.pairwise_cons.mp ordered
    have takes := @ih (some item) later fun _ isItem => Option.mem_some_iff.mp isItem ▸ ahead
    have stays := @ih best later fun chosen isBest other inside =>
      before chosen isBest other (.tail _ inside)
    unfold leastOf
    split
    · exact stays
    cases best with
    | none => exact takes
    | some chosen =>
      have apart := before chosen rfl item (.head _)
      have same : toLex (measure item, item) < toLex (measure chosen, chosen) ↔ measure item < measure chosen := by
        rw [Prod.Lex.toLex_lt_toLex]
        exact or_iff_left fun both => lt_asymm both.2 apart
      simp only [same, takes, stays]

end Orders

end Sparkpipe
