import Mathlib.Data.Finset.Card
import Mathlib.Data.Finset.Range
import Mathlib.Logic.Function.Basic

/-! Counting the records of an array that pass a test, and how one changed record
changes the count. -/

namespace Sparkpipe

open Function

/-- How many of the first `count` records pass the test. -/
def tally (count : Nat) (test : Nat → Bool) : Nat :=
  ((Finset.range count).filter fun i => test i = true).card

variable {count i : Nat} {test test' : Nat → Bool}

theorem tally_congr (same : ∀ j < count, test' j = test j) : tally count test' = tally count test := by
  unfold tally
  congr 1
  ext j
  simp only [Finset.mem_filter, Finset.mem_range]
  constructor
  · rintro ⟨inRange, passes⟩
    exact ⟨inRange, (same j inRange) ▸ passes⟩
  · rintro ⟨inRange, passes⟩
    exact ⟨inRange, (same j inRange).trans passes⟩

theorem tally_eq_zero (none : ∀ j < count, test j = false) : tally count test = 0 := by
  unfold tally
  rw [Finset.card_eq_zero, Finset.filter_eq_empty_iff]
  intro j inRange passes
  rw [none j (Finset.mem_range.mp inRange)] at passes
  cases passes

theorem tally_eq_count (all : ∀ j < count, test j = true) : tally count test = count := by
  unfold tally
  rw [Finset.filter_true_of_mem fun j inRange => all j (Finset.mem_range.mp inRange), Finset.card_range]

theorem tally_le (count : Nat) (test : Nat → Bool) : tally count test ≤ count := by
  have bound := Finset.card_filter_le (Finset.range count) fun i => test i = true
  rwa [Finset.card_range] at bound

theorem tally_mono (passes : ∀ j < count, test j = true → test' j = true) : tally count test ≤ tally count test' := by
  unfold tally
  apply Finset.card_le_card
  intro j member
  obtain ⟨inRange, passed⟩ := Finset.mem_filter.mp member
  exact Finset.mem_filter.mpr ⟨inRange, passes j (Finset.mem_range.mp inRange) passed⟩

theorem tally_pos (inRange : i < count) (passes : test i = true) : 0 < tally count test :=
  Finset.card_pos.mpr ⟨i, Finset.mem_filter.mpr ⟨Finset.mem_range.mpr inRange, passes⟩⟩

/-- One record that failed the test passes it now. -/
theorem tally_gain (inRange : i < count) (failed : test i = false) (passes : test' i = true)
    (others : ∀ j < count, j ≠ i → test' j = test j) :
    tally count test' = tally count test + 1 := by
  have grown : (Finset.range count).filter (fun j => test' j = true) =
      insert i ((Finset.range count).filter fun j => test j = true) := by
    ext j
    simp only [Finset.mem_filter, Finset.mem_range, Finset.mem_insert]
    by_cases here : j = i
    · subst here
      simp [inRange, passes]
    · constructor
      · rintro ⟨bound, passed⟩
        exact .inr ⟨bound, (others j bound here) ▸ passed⟩
      · rintro (equal | ⟨bound, passed⟩)
        · exact absurd equal here
        · exact ⟨bound, (others j bound here).trans passed⟩
  unfold tally
  rw [grown, Finset.card_insert_of_notMem (by simp [failed])]

/-- One record that passed the test fails it now. -/
theorem tally_lose (inRange : i < count) (passes : test i = true) (failed : test' i = false)
    (others : ∀ j < count, j ≠ i → test' j = test j) :
    tally count test = tally count test' + 1 :=
  tally_gain inRange failed passes fun j bound different => (others j bound different).symm

/-- One record at most passes that failed. -/
theorem tally_le_succ (i : Nat) (others : ∀ j < count, j ≠ i → test' j = true → test j = true) :
    tally count test' ≤ tally count test + 1 := by
  unfold tally
  refine (Finset.card_le_card fun j member => ?_).trans (Finset.card_insert_le i _)
  obtain ⟨inRange, passes⟩ := Finset.mem_filter.mp member
  by_cases here : j = i
  · exact Finset.mem_insert.mpr (.inl here)
  · exact Finset.mem_insert_of_mem
      (Finset.mem_filter.mpr ⟨inRange, others j (Finset.mem_range.mp inRange) here passes⟩)

/-- Rewriting one record moves the count by what the record itself counts for. -/
theorem tally_update {α : Type} (records : Nat → α) (record : α) (test : α → Bool)
    (inRange : i < count) :
    tally count (fun j => test (update records i record j)) + (test (records i)).toNat =
      tally count (fun j => test (records j)) + (test record).toNat := by
  have others : ∀ j < count, j ≠ i →
      test (update records i record j) = test (records j) := by
    intro j _ different
    rw [update_of_ne different]
  have here : test (update records i record i) = test record := by
    rw [update_self]
  cases before : test (records i) with
  | false =>
    cases after : test record with
    | false =>
      have same : tally count (fun j => test (update records i record j)) =
          tally count fun j => test (records j) := by
        apply tally_congr
        intro j bound
        by_cases same : j = i
        · rw [same, here, before, after]
        · exact others j bound same
      simpa using same
    | true =>
      have more := tally_gain inRange before (here.trans after) others
      simpa using more
  | true =>
    cases after : test record with
    | false =>
      have fewer := tally_lose inRange before (here.trans after) others
      simpa using fewer.symm
    | true =>
      have same : tally count (fun j => test (update records i record j)) =
          tally count fun j => test (records j) := by
        apply tally_congr
        intro j bound
        by_cases same : j = i
        · rw [same, here, before, after]
        · exact others j bound same
      simpa using same

end Sparkpipe
