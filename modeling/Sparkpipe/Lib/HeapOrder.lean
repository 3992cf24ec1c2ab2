import Sparkpipe.Lib.Heap
import Mathlib.Order.WithBot

/-!
# The order of a heap

The loops of a heap keep its order: no element is before its parent. The places past the end
rank after every element, so the order can be stated for all places.
-/

namespace Sparkpipe.Heap

variable {α κ : Type*} [LinearOrder κ] {less childLess : α → α → Bool} {key : α → κ} {elements : List α} {element : α}
  {position one other : Nat}

/-- The key of the element at a place. -/
def ranks (key : α → κ) (elements : List α) (place : Nat) : WithTop κ :=
  match elements[place]? with
  | none => ⊤
  | some element => key element

/-- No place ranks before its parent. -/
def RanksOrdered (rank : Nat → WithTop κ) : Prop := ∀ child, child ≠ 0 → rank ((child - 1) / 2) ≤ rank child

/-- The order of a heap. -/
def Ordered (key : α → κ) (elements : List α) : Prop := RanksOrdered (ranks key elements)

/-- The order but for one place, which may be before its parent. -/
structure UpFrom (rank : Nat → WithTop κ) (position : Nat) : Prop where
  others : ∀ child, child ≠ 0 → child ≠ position → rank ((child - 1) / 2) ≤ rank child
  around : position ≠ 0 → ∀ child, child ≠ 0 → (child - 1) / 2 = position → rank ((position - 1) / 2) ≤ rank child

/-- The order but for one place, which may be after its children. -/
structure DownFrom (rank : Nat → WithTop κ) (position : Nat) : Prop where
  others : ∀ child, child ≠ 0 → (child - 1) / 2 ≠ position → rank ((child - 1) / 2) ≤ rank child
  around : position ≠ 0 → ∀ child, child ≠ 0 → (child - 1) / 2 = position → rank ((position - 1) / 2) ≤ rank child

omit [LinearOrder κ] in
theorem ranks_some (found : elements[position]? = some element) : ranks key elements position = key element := by
  rw [ranks, found]

omit [LinearOrder κ] in
theorem ranks_past (past : elements.length ≤ position) : ranks key elements position = ⊤ := by
  rw [ranks, List.getElem?_eq_none past]

omit [LinearOrder κ] in
theorem ranks_exchange (oneInRange : one < elements.length) (otherInRange : other < elements.length) (place : Nat) :
    ranks key (exchange elements one other) place =
      if place = other then ranks key elements one
      else if place = one then ranks key elements other
      else ranks key elements place := by
  have isOne := List.getElem?_eq_getElem oneInRange
  have isOther := List.getElem?_eq_getElem otherInRange
  rw [exchange, isOne, isOther, ranks_some isOne, ranks_some isOther]
  dsimp only
  unfold ranks
  rw [List.getElem?_set, List.length_set, List.getElem?_set]
  by_cases here : place = other
  · subst here
    rw [if_pos rfl, if_pos rfl, if_pos otherInRange]
  · rw [if_neg (Ne.symm here), if_neg here]
    by_cases there : place = one
    · subst there
      rw [if_pos rfl, if_pos rfl, if_pos oneInRange]
    · rw [if_neg (Ne.symm there), if_neg there]

omit [LinearOrder κ] in
theorem ranks_set (key : α → κ) (inRange : position < elements.length) (element : α) (place : Nat) :
    ranks key (elements.set position element) place =
      if place = position then (key element : WithTop κ) else ranks key elements place := by
  unfold ranks
  rw [List.getElem?_set]
  by_cases here : place = position
  · subst here
    rw [if_pos rfl, if_pos inRange, if_pos rfl]
  · rw [if_neg (Ne.symm here), if_neg here]

/-- The root of a heap is before all its elements. -/
theorem Ordered.root_le (ordered : Ordered key elements) (place : Nat) :
    ranks key elements 0 ≤ ranks key elements place := by
  induction place using Nat.strong_induction_on with
  | _ place ih =>
    by_cases root : place = 0
    · rw [root]
    · exact le_trans (ih ((place - 1) / 2) (by omega)) (ordered place root)

theorem Ordered.nil : Ordered key ([] : List α) := fun _ _ => le_refl _

/-- Without its last element a heap is one. -/
theorem Ordered.dropLast (ordered : Ordered key elements) : Ordered key elements.dropLast := by
  have rank : ∀ place, place + 1 < elements.length → ranks key elements.dropLast place = ranks key elements place := by
    intro place inside
    unfold ranks
    rw [List.getElem?_dropLast, if_pos (by omega)]
  intro child some
  by_cases inside : child + 1 < elements.length
  · rw [rank child inside, rank _ (by omega)]
    exact ordered child some
  · have past : elements.dropLast.length ≤ child := by
      rw [List.length_dropLast]
      omega
    rw [ranks_past past]
    exact le_top

/-- An element before the one that it replaces may only be before its parent. -/
theorem Ordered.set_up (ordered : Ordered key elements) (inRange : position < elements.length)
    (smaller : key element ≤ ranks key elements position) :
    UpFrom (ranks key (elements.set position element)) position := by
  have rank := ranks_set key inRange element
  constructor
  · intro child some different
    rw [rank, rank, if_neg different]
    by_cases under : (child - 1) / 2 = position
    · rw [if_pos under]
      have edge := ordered child some
      rw [under] at edge
      exact le_trans smaller edge
    · rw [if_neg under]
      exact ordered child some
  · intro below child some under
    rw [rank, rank, if_neg (by omega), if_neg (by omega)]
    have edge := ordered child some
    rw [under] at edge
    exact le_trans (ordered position below) edge

/-- An element after its parent may only be after its children. -/
theorem Ordered.set_down (ordered : Ordered key elements) (inRange : position < elements.length)
    (larger : position ≠ 0 → ranks key elements ((position - 1) / 2) ≤ key element) :
    DownFrom (ranks key (elements.set position element)) position := by
  have rank := ranks_set key inRange element
  constructor
  · intro child some elsewhere
    rw [rank, rank, if_neg elsewhere]
    by_cases here : child = position
    · subst here
      rw [if_pos rfl]
      exact larger some
    · rw [if_neg here]
      exact ordered child some
  · intro below child some under
    rw [rank, rank, if_neg (by omega), if_neg (by omega)]
    have edge := ordered child some
    rw [under] at edge
    exact le_trans (ordered position below) edge

/-- A test puts elements in the order of their keys; those of one key go either way. -/
structure Orders (less : α → α → Bool) (key : α → κ) : Prop where
  before : ∀ {first second}, less first second = true → key first ≤ key second
  notBefore : ∀ {first second}, ¬ less first second = true → key second ≤ key first

theorem Orders.of_lt (isLess : ∀ first second, less first second = true ↔ key first < key second) :
    Orders less key where
  before is := le_of_lt ((isLess _ _).mp is)
  notBefore isNot := not_lt.mp fun is => isNot ((isLess _ _).mpr is)

theorem Orders.of_not_lt (isLess : ∀ first second, less first second = true ↔ key first < key second) :
    Orders (fun first second => !less second first) key where
  before {first second} is := by
    rw [Bool.not_eq_true', ← Bool.not_eq_true, isLess] at is
    exact not_lt.mp is
  notBefore {first second} isNot := by
    rw [Bool.not_eq_true', Bool.not_eq_false, isLess] at isNot
    exact le_of_lt isNot

section Sift

variable (orders : Orders less key) (childOrders : Orders childLess key)

include orders

theorem precedes_true (before : precedes less elements one other = true)
    (inRange : other < elements.length → one < elements.length) :
    ranks key elements one ≤ ranks key elements other := by
  by_cases otherInRange : other < elements.length
  · have isOne := List.getElem?_eq_getElem (inRange otherInRange)
    have isOther := List.getElem?_eq_getElem otherInRange
    rw [precedes, isOne, isOther] at before
    rw [ranks_some isOne, ranks_some isOther]
    exact WithTop.coe_le_coe.mpr (orders.before before)
  · rw [ranks_past (Nat.le_of_not_lt otherInRange)]
    exact le_top

theorem precedes_false (notBefore : ¬ precedes less elements one other = true) :
    one < elements.length ∧ other < elements.length ∧ ranks key elements other ≤ ranks key elements one := by
  unfold precedes at notBefore
  split at notBefore
  · rename_i first second isFirst isSecond
    refine ⟨(List.getElem?_eq_some_iff.mp isFirst).1, (List.getElem?_eq_some_iff.mp isSecond).1, ?_⟩
    rw [ranks_some isFirst, ranks_some isSecond]
    exact WithTop.coe_le_coe.mpr (orders.notBefore notBefore)
  · exact absurd rfl notBefore

/-- Moving an element towards the root restores the order. -/
theorem siftUp_ordered (up : UpFrom (ranks key elements) position) : Ordered key (siftUp less elements position) := by
  induction elements, position using siftUp.induct less with
  | case1 elements =>
    rw [siftUp, if_pos rfl]
    intro child some
    exact up.others child some some
  | case2 elements position below ordered =>
    rw [siftUp, if_neg below, if_pos ordered]
    intro child some
    by_cases here : child = position
    · subst here
      exact precedes_true orders ordered (by omega)
    · exact up.others child some here
  | case3 elements position below unordered ih =>
    rw [siftUp, if_neg below, if_neg unordered]
    obtain ⟨parentInRange, inRange, smaller⟩ := precedes_false orders unordered
    have rank := @ranks_exchange α κ key elements _ _ parentInRange inRange
    apply ih
    -- the old parent is in order with all that is below it now
    constructor
    · intro child some different
      rw [rank, rank]
      by_cases here : child = position
      · subst here
        rw [if_neg (by omega), if_pos rfl, if_pos rfl]
        exact smaller
      rw [if_neg here, if_neg different]
      by_cases under : (child - 1) / 2 = position
      · rw [if_pos under]
        exact up.around below child some under
      rw [if_neg under]
      by_cases beside : (child - 1) / 2 = (position - 1) / 2
      · rw [if_pos beside]
        have edge := up.others child some here
        rw [beside] at edge
        exact le_trans smaller edge
      · rw [if_neg beside]
        exact up.others child some here
    · intro parentBelow child some under
      have edge := up.others ((position - 1) / 2) parentBelow (by omega)
      rw [rank, rank, if_neg (by omega), if_neg (by omega)]
      by_cases here : child = position
      · rw [if_pos here]
        exact edge
      · rw [if_neg here, if_neg (by omega)]
        have second := up.others child some here
        rw [under] at second
        exact le_trans edge second

theorem smallestChild_le (elements : List α) (position : Nat) :
    ranks key elements (smallestChild less elements position) ≤ ranks key elements (position * 2 + 1) ∧
      ranks key elements (smallestChild less elements position) ≤ ranks key elements (position * 2 + 2) := by
  unfold smallestChild
  split
  · rename_i right
    exact ⟨precedes_true orders right.2 fun _ => right.1, le_refl _⟩
  · rename_i left
    refine ⟨le_refl _, ?_⟩
    by_cases inside : position * 2 + 2 < elements.length
    · exact (precedes_false orders fun before => left ⟨inside, before⟩).2.2
    · rw [ranks_past (Nat.le_of_not_lt inside)]
      exact le_top

include childOrders in
/-- Moving an element towards the leaves restores the order. -/
theorem siftDown_ordered (down : DownFrom (ranks key elements) position) :
    Ordered key (siftDown less childLess elements position) := by
  have children : ∀ child, child ≠ 0 → ∀ parent, (child - 1) / 2 = parent →
      child = parent * 2 + 1 ∨ child = parent * 2 + 2 := by omega
  induction elements, position using siftDown.induct less childLess with
  | case1 elements position inside ordered =>
    rw [siftDown, if_pos inside, if_pos ordered]
    obtain ⟨left, right⟩ := smallestChild_le childOrders elements position
    have below := lt_smallestChild childLess elements position
    have first := precedes_true orders ordered (by omega)
    intro child some
    by_cases under : (child - 1) / 2 = position
    · rw [under]
      rcases children child some position under with rfl | rfl
      · exact le_trans first left
      · exact le_trans first right
    · exact down.others child some under
  | case2 elements position inside unordered ih =>
    rw [siftDown, if_pos inside, if_neg unordered]
    obtain ⟨left, right⟩ := smallestChild_le childOrders elements position
    obtain ⟨inRange, childInRange, smaller⟩ := precedes_false orders unordered
    have rank := @ranks_exchange α κ key elements _ _ inRange childInRange
    have isChild : smallestChild childLess elements position = position * 2 + 1 ∨
        smallestChild childLess elements position = position * 2 + 2 := by
      unfold smallestChild
      split
      · exact .inr rfl
      · exact .inl rfl
    generalize smallestChild childLess elements position = smallest at *
    apply ih
    constructor
    · intro child some elsewhere
      rw [rank, rank, if_neg elsewhere]
      by_cases under : (child - 1) / 2 = position
      · rw [if_pos under]
        by_cases here : child = smallest
        · rw [if_pos here]
          exact smaller
        · rw [if_neg here, if_neg (by omega)]
          rcases children child some position under with rfl | rfl
          · exact left
          · exact right
      · rw [if_neg under, if_neg (by omega)]
        by_cases here : child = position
        · subst here
          rw [if_pos rfl]
          exact down.around some smallest (by omega) (by omega)
        · rw [if_neg here]
          exact down.others child some under
    · intro _ child some under
      have parent : (smallest - 1) / 2 = position := by omega
      rw [rank, rank, parent, if_neg (by omega), if_pos rfl, if_neg (by omega), if_neg (by omega)]
      have edge := down.others child some (by omega)
      rw [under] at edge
      exact edge
  | case3 elements position leaf =>
    rw [siftDown, if_neg leaf]
    intro child some
    by_cases under : (child - 1) / 2 = position
    · have past : elements.length ≤ child := by omega
      rw [ranks_past past]
      exact le_top
    · exact down.others child some under

/-- An added element is moved to its place. -/
theorem insert_ordered (ordered : Ordered key elements) (element : α) : Ordered key (insert less elements element) := by
  have rank : ∀ place < elements.length, ranks key (elements ++ [element]) place = ranks key elements place := by
    intro place inside
    unfold ranks
    rw [List.getElem?_append_left inside]
  have past : ∀ place, elements.length < place → ranks key (elements ++ [element]) place = ⊤ := by
    intro place outside
    apply ranks_past
    rw [List.length_append, List.length_singleton]
    exact outside
  apply siftUp_ordered orders
  constructor
  · intro child some different
    by_cases inside : child < elements.length
    · rw [rank child inside, rank _ (by omega)]
      exact ordered child some
    · rw [past child (by omega)]
      exact le_top
  · intro _ child some under
    rw [past child (by omega)]
    exact le_top

/-- An element that replaces a later one is moved to its place. -/
theorem replaceAt_ordered (ordered : Ordered key elements) {replaced : α} (found : elements[position]? = some replaced)
    (smaller : key element ≤ key replaced) : Ordered key (replaceAt less elements position element) := by
  apply siftUp_ordered orders
  apply ordered.set_up (List.getElem?_eq_some_iff.mp found).1
  rw [ranks_some found]
  exact WithTop.coe_le_coe.mpr smaller

include childOrders in
/-- The last element takes the place of a removed one, and is moved from there. -/
theorem removeAtBy_ordered (ordered : Ordered key elements) (position : Nat) :
    Ordered key (removeAtBy less childLess elements position) := by
  unfold removeAtBy
  cases isLast : elements.getLast? with
  | none => exact ordered
  | some last =>
    dsimp only
    split
    · exact ordered
    rename_i inside
    split
    · exact ordered.dropLast
    rename_i notLast
    have front := ordered.dropLast
    have inRange : position < elements.dropLast.length := by
      rw [List.length_dropLast]
      omega
    generalize elements.dropLast = kept at front inRange ⊢
    have rank := ranks_set key inRange last
    split
    · rename_i before
      apply siftUp_ordered orders
      apply front.set_up inRange
      have smaller := precedes_true orders before.2 fun _ => by
        rw [List.length_set]
        exact inRange
      rw [rank, rank, if_pos rfl, if_neg (by omega)] at smaller
      exact le_trans smaller (front position before.1)
    · rename_i notBefore
      apply siftDown_ordered orders childOrders
      apply front.set_down inRange
      intro below
      have larger := (precedes_false orders fun before => notBefore ⟨below, before⟩).2.2
      rw [rank, rank, if_pos rfl, if_neg (by omega)] at larger
      exact larger

end Sift

end Sparkpipe.Heap
