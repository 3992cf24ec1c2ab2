import Mathlib.Data.List.Basic
import Mathlib.Data.List.GetD
import Mathlib.Data.List.Nodup
import Mathlib.Data.List.Range
import Mathlib.Data.Nat.Find
import Mathlib.Logic.Function.Basic

/-!
# Rounds of a list

A list in rounds: round `k` holds the items that occur more than `k` times, in increasing order.
An item is numbered by its earlier occurrences, and the list is in rounds exactly when its
numbered items increase.
-/

namespace Sparkpipe.Rounds

open Function

variable {α : Type*} [DecidableEq α] {before : α → α → Prop} {rows rest round : List α} {rounds : List (List α)}
  {seen : α → Nat} {item : α} {number : Nat}

/-- Each item with the number of its earlier occurrences, counted on from those seen. -/
def numbered (seen : α → Nat) : List α → List (Nat × α)
  | [] => []
  | item :: rest => (seen item, item) :: numbered (update seen item (seen item + 1)) rest

/-- The number decides, and the order among items of one number. -/
def Earlier (before : α → α → Prop) (pair other : Nat × α) : Prop :=
  pair.1 < other.1 ∨ pair.1 = other.1 ∧ before pair.2 other.2

/-- The rows are the rounds, one after the other. -/
structure InRounds (before : α → α → Prop) (rounds : List (List α)) (rows : List α) : Prop where
  flat : rows = rounds.flatten
  some : ∀ round ∈ rounds, round ≠ []
  ordered : ∀ round ∈ rounds, round.Pairwise before
  exactly : ∀ number item, item ∈ rounds.getD number [] ↔ number < rows.count item

theorem numbered_map_snd (seen : α → Nat) (rows : List α) : (numbered seen rows).map Prod.snd = rows := by
  induction rows generalizing seen with
  | nil => rfl
  | cons first rest ih => rw [numbered, List.map_cons, ih]

theorem numbered_append (seen : α → Nat) (rows rest : List α) :
    numbered seen (rows ++ rest) = numbered seen rows ++ numbered (fun item => seen item + rows.count item) rest := by
  induction rows generalizing seen with
  | nil => rfl
  | cons first rows ih =>
    rw [List.cons_append, numbered, ih, numbered, List.cons_append]
    congr 3
    funext item
    by_cases same : item = first
    · subst same
      rw [update_self, List.count_cons_self]
      omega
    · rw [update_of_ne same, List.count_cons_of_ne (Ne.symm same)]

/-- An item has the numbers from those seen on, one for each occurrence. -/
theorem mem_numbered : (number, item) ∈ numbered seen rows ↔
    seen item ≤ number ∧ number < seen item + rows.count item := by
  induction rows generalizing seen with
  | nil =>
    rw [numbered, List.count_nil]
    constructor
    · intro member
      cases member
    · omega
  | cons first rest ih =>
    rw [numbered, List.mem_cons, ih, Prod.mk.injEq]
    by_cases same : item = first
    · subst same
      rw [update_self, List.count_cons_self]
      constructor
      · rintro (⟨rfl, -⟩ | ⟨least, less⟩) <;> omega
      · intro ⟨least, less⟩
        by_cases now : number = seen item
        · exact .inl ⟨now, rfl⟩
        · right
          omega
    · rw [update_of_ne same, List.count_cons_of_ne (Ne.symm same)]
      constructor
      · rintro (⟨-, equal⟩ | inside)
        · exact absurd equal same
        · exact inside
      · exact .inr

section Sorted

omit [DecidableEq α] in
/-- A sorted list up to a number, and then the items of that number. -/
theorem filter_lt_succ {pairs : List (Nat × α)} (sorted : pairs.Pairwise fun pair other => pair.1 ≤ other.1)
    (bound : Nat) : pairs.filter (·.1 < bound + 1) =
      pairs.filter (·.1 < bound) ++ pairs.filter (·.1 = bound) := by
  induction pairs with
  | nil => rfl
  | cons pair rest ih =>
    obtain ⟨least, sorted⟩ := List.pairwise_cons.mp sorted
    have later := ih sorted
    rcases Nat.lt_trichotomy pair.1 bound with below | here | above
    · rw [List.filter_cons_of_pos (by simp; omega), List.filter_cons_of_pos (by simp; omega),
        List.filter_cons_of_neg (by simp; omega), List.cons_append, later]
    · have none : rest.filter (·.1 < bound) = [] := by
        apply List.filter_eq_nil_iff.mpr
        intro other member
        have := least other member
        simp only [decide_eq_true_eq]
        omega
      rw [none, List.nil_append] at later
      rw [List.filter_cons_of_pos (by simp; omega), List.filter_cons_of_neg (by simp; omega),
        List.filter_cons_of_pos (by simp; omega), none, List.nil_append, later]
    · rw [List.filter_cons_of_neg (by simp; omega), List.filter_cons_of_neg (by simp; omega),
        List.filter_cons_of_neg (by simp; omega), later]

omit [DecidableEq α] in
/-- A sorted list is the lists of its numbers, one after the other. -/
theorem flatten_filter {pairs : List (Nat × α)} (sorted : pairs.Pairwise fun pair other => pair.1 ≤ other.1)
    (bound : Nat) : ((List.range bound).map fun number => pairs.filter (·.1 = number)).flatten =
      pairs.filter (·.1 < bound) := by
  induction bound with
  | zero =>
    symm
    apply List.filter_eq_nil_iff.mpr
    intro pair _
    simp
  | succ bound ih =>
    rw [List.range_succ, List.map_append, List.flatten_append, ih, filter_lt_succ sorted]
    simp

/-- Increasing numbers give the rounds: the items of each number. -/
theorem exists_inRounds (sorted : (numbered (fun _ => 0) rows).Pairwise (Earlier before)) :
    ∃ rounds, InRounds before rounds rows := by
  have bounded : ∃ bound, ∀ pair ∈ numbered (fun _ => 0) rows, pair.1 < bound := by
    refine ⟨rows.length, ?_⟩
    intro pair member
    have numbers := (mem_numbered.mp member).2
    have most := List.count_le_length (l := rows) (a := pair.2)
    omega
  have below := Nat.find_spec bounded
  have least := fun bound => @Nat.find_min _ _ bounded bound
  generalize Nat.find bounded = bound at below least
  let roundOf := fun number => ((numbered (fun _ => 0) rows).filter (·.1 = number)).map Prod.snd
  have mem_roundOf : ∀ number item, item ∈ roundOf number ↔ number < rows.count item := by
    intro number item
    constructor
    · intro member
      obtain ⟨⟨other, _⟩, inside, rfl⟩ := List.mem_map.mp member
      obtain ⟨inside, same⟩ := List.mem_filter.mp inside
      simp only [decide_eq_true_eq] at same
      have numbers : other < 0 + rows.count _ := (mem_numbered.mp inside).2
      rw [same, Nat.zero_add] at numbers
      exact numbers
    · intro less
      apply List.mem_map.mpr
      refine ⟨(number, item), List.mem_filter.mpr ⟨mem_numbered.mpr ⟨Nat.zero_le _, ?_⟩, ?_⟩, rfl⟩
      · omega
      · simp
  refine ⟨(List.range bound).map roundOf, ?_, ?_, ?_, ?_⟩
  · have weak : (numbered (fun _ => 0) rows).Pairwise fun pair other => pair.1 ≤ other.1 := by
      apply sorted.imp
      rintro pair other (less | ⟨equal, -⟩) <;> omega
    have all : (numbered (fun _ => 0) rows).filter (·.1 < bound) = numbered (fun _ => 0) rows := by
      apply List.filter_eq_self.mpr
      intro pair member
      simp only [decide_eq_true_eq]
      exact below pair member
    have together := congrArg (List.map Prod.snd) (flatten_filter weak bound)
    rw [all, numbered_map_snd, List.map_flatten, List.map_map] at together
    exact together.symm
  · intro round member empty
    obtain ⟨number, inRange, rfl⟩ := List.mem_map.mp member
    -- the least bound has an item of each number below it
    obtain ⟨pair, inside, large⟩ : ∃ pair ∈ numbered (fun _ => 0) rows, bound - 1 ≤ pair.1 := by
      by_contra none
      apply least (bound - 1)
      · have := List.mem_range.mp inRange
        omega
      · intro pair inside
        by_contra large
        exact none ⟨pair, inside, Nat.le_of_not_lt large⟩
    have numbers := (mem_numbered.mp inside).2
    have inRound : pair.2 ∈ roundOf number := by
      rw [mem_roundOf]
      have := List.mem_range.mp inRange
      omega
    rw [empty] at inRound
    cases inRound
  · intro round member
    obtain ⟨number, -, rfl⟩ := List.mem_map.mp member
    apply List.pairwise_map.mpr
    have kept := List.Pairwise.filter (fun pair : Nat × α => pair.1 = number) sorted
    apply kept.imp_of_mem
    intro pair other inside otherInside earlier
    have same := (List.mem_filter.mp inside).2
    have otherSame := (List.mem_filter.mp otherInside).2
    simp only [decide_eq_true_eq] at same otherSame
    rcases earlier with less | ⟨-, ordered⟩
    · omega
    · exact ordered
  · intro number item
    by_cases inRange : number < bound
    · rw [List.getD_eq_getElem _ _ (by simpa using inRange)]
      simp only [List.getElem_map, List.getElem_range]
      exact mem_roundOf number item
    · rw [List.getD_eq_default _ _ (by simpa using inRange)]
      constructor
      · intro member
        cases member
      · intro less
        have member : (number, item) ∈ numbered (fun _ => 0) rows := mem_numbered.mpr ⟨Nat.zero_le _, by omega⟩
        exact absurd (below _ member) inRange

end Sorted

section Back

/-- The rounds with their numbers. -/
def zipped (number : Nat) : List (List α) → List (Nat × α)
  | [] => []
  | round :: rounds => round.map (number, ·) ++ zipped (number + 1) rounds

omit [DecidableEq α] in
theorem le_of_mem_zipped {pair : Nat × α} (member : pair ∈ zipped number rounds) : number ≤ pair.1 := by
  induction rounds generalizing number with
  | nil => cases member
  | cons round rounds ih =>
    rcases List.mem_append.mp member with here | later
    · obtain ⟨item, -, rfl⟩ := List.mem_map.mp here
      exact Nat.le_refl _
    · have := ih later
      omega

omit [DecidableEq α] in
theorem zipped_sorted (ordered : ∀ round ∈ rounds, round.Pairwise before) :
    (zipped number rounds).Pairwise (Earlier before) := by
  induction rounds generalizing number with
  | nil => exact List.Pairwise.nil
  | cons round rounds ih =>
    apply List.pairwise_append.mpr
    refine ⟨?_, ih fun later member => ordered later (.tail _ member), ?_⟩
    · apply List.pairwise_map.mpr
      apply (ordered round (.head _)).imp
      intro item other less
      exact .inr ⟨rfl, less⟩
    · intro pair here other later
      obtain ⟨item, -, rfl⟩ := List.mem_map.mp here
      exact .inl (le_of_mem_zipped later)

/-- The items of a round without repetition have one number. -/
theorem numbered_round (once : round.Nodup) (same : ∀ item ∈ round, seen item = number) :
    numbered seen round = round.map (number, ·) := by
  induction round generalizing seen with
  | nil => rfl
  | cons first rest ih =>
    obtain ⟨notLater, once⟩ := List.nodup_cons.mp once
    rw [numbered, List.map_cons, same first List.mem_cons_self, ih once]
    intro item member
    have other : item ≠ first := by
      rintro rfl
      exact notLater member
    rw [update_of_ne other]
    exact same item (.tail _ member)

/-- Rounds within each other are numbered one by one. -/
theorem numbered_flatten (nested : rounds.IsChain fun round next => next ⊆ round)
    (once : ∀ round ∈ rounds, round.Nodup) (same : ∀ item ∈ rounds.headD [], seen item = number) :
    numbered seen rounds.flatten = zipped number rounds := by
  induction rounds generalizing seen number with
  | nil => rfl
  | cons round rounds ih =>
    have onceHere := once round (.head _)
    rw [List.flatten_cons, numbered_append, numbered_round onceHere same, zipped,
      ih (List.IsChain.tail nested) fun later member => once later (.tail _ member)]
    intro item member
    have inside : item ∈ round := by
      cases rounds with
      | nil => cases member
      | cons next rounds => exact (List.isChain_cons_cons.mp nested).1 member
    rw [same item inside, List.count_eq_one_of_mem onceHere inside]

theorem InRounds.nested (inRounds : InRounds before rounds rows) :
    rounds.IsChain fun round next => next ⊆ round := by
  apply List.isChain_iff_getElem.mpr
  intro number bound item member
  have less := (inRounds.exactly (number + 1) item).mp (by
    rw [List.getD_eq_getElem _ _ bound]
    exact member)
  have inside := (inRounds.exactly number item).mpr (by omega)
  rw [List.getD_eq_getElem _ _ (by omega)] at inside
  exact inside

theorem InRounds.nodup [Std.Irrefl before] (inRounds : InRounds before rounds rows) (member : round ∈ rounds) :
    round.Nodup := by
  apply (inRounds.ordered round member).imp
  rintro item other less rfl
  exact Std.Irrefl.irrefl item less

/-- Rows in rounds have increasing numbers. -/
theorem InRounds.sorted [Std.Irrefl before] (inRounds : InRounds before rounds rows) :
    (numbered (fun _ => 0) rows).Pairwise (Earlier before) := by
  have numbers : numbered (fun _ => 0) rounds.flatten = zipped 0 rounds :=
    numbered_flatten inRounds.nested (fun _ => inRounds.nodup) fun _ _ => rfl
  rw [inRounds.flat, numbers]
  exact zipped_sorted inRounds.ordered

end Back

end Sparkpipe.Rounds
