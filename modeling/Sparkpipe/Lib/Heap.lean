import Mathlib.Data.List.Perm.Basic

/-!
# Binary heaps in a list

The loops of a binary heap that is kept in level order: the element at a place is exchanged
with its parent, or with the smaller of its children, until the order is right. Whatever the
order is, the loops only rearrange the elements.
-/

namespace Sparkpipe.Heap

variable {α : Type*} (less childLess : α → α → Bool)

/-- The element at one place comes before the element at another. -/
def precedes (elements : List α) (one other : Nat) : Bool :=
  match elements[one]?, elements[other]? with
  | some first, some second => less first second
  | _, _ => true

/-- Exchange the elements at two places. -/
def exchange (elements : List α) (one other : Nat) : List α :=
  match elements[one]?, elements[other]? with
  | some first, some second => (elements.set one second).set other first
  | _, _ => elements

theorem exchange_perm (elements : List α) (one other : Nat) : (exchange elements one other).Perm elements := by
  unfold exchange
  split
  · rename_i first second isFirst isSecond
    obtain ⟨oneInRange, rfl⟩ := List.getElem?_eq_some_iff.mp isFirst
    obtain ⟨otherInRange, rfl⟩ := List.getElem?_eq_some_iff.mp isSecond
    exact List.set_set_perm oneInRange otherInRange
  · exact List.Perm.refl _

theorem exchange_length (elements : List α) (one other : Nat) :
    (exchange elements one other).length = elements.length := (exchange_perm elements one other).length_eq

/-- Move the element at a place towards the root. -/
def siftUp (elements : List α) (position : Nat) : List α :=
  if position = 0 then elements
  else if precedes less elements ((position - 1) / 2) position then elements
  else siftUp (exchange elements ((position - 1) / 2) position) ((position - 1) / 2)
termination_by position
decreasing_by omega

/-- The smaller child of a place, when its left one exists. -/
def smallestChild (elements : List α) (position : Nat) : Nat :=
  if position * 2 + 2 < elements.length ∧ precedes less elements (position * 2 + 2) (position * 2 + 1) then
    position * 2 + 2
  else position * 2 + 1

theorem lt_smallestChild (elements : List α) (position : Nat) :
    position < smallestChild less elements position := by
  unfold smallestChild
  split <;> omega

/-- Move the element at a place towards the leaves. The two orders may differ on elements that are
of one rank. -/
def siftDown (elements : List α) (position : Nat) : List α :=
  if position * 2 + 1 < elements.length then
    if precedes less elements position (smallestChild childLess elements position) then elements
    else siftDown (exchange elements position (smallestChild childLess elements position))
      (smallestChild childLess elements position)
  else elements
termination_by elements.length - position
decreasing_by
  rw [exchange_length]
  have := lt_smallestChild childLess elements position
  omega

/-- Add an element. -/
def insert (elements : List α) (element : α) : List α := siftUp less (elements ++ [element]) elements.length

/-- Take out the element at a place: the last one takes its place. -/
def removeAtBy (elements : List α) (position : Nat) : List α :=
  match elements.getLast? with
  | none => elements
  | some last =>
    if elements.length ≤ position then elements
    else if position + 1 = elements.length then elements.dropLast
    else
      let moved := elements.dropLast.set position last
      if position ≠ 0 ∧ precedes less moved position ((position - 1) / 2) then siftUp less moved position
      else siftDown less childLess moved position

/-- Take out the element at a place, with one order. -/
abbrev removeAt (elements : List α) (position : Nat) : List α := removeAtBy less less elements position

/-- Put a smaller element at a place. -/
def replaceAt (elements : List α) (position : Nat) (element : α) : List α :=
  siftUp less (elements.set position element) position

variable {less childLess} {elements : List α} {element : α} {position : Nat}

theorem siftUp_perm (elements : List α) (position : Nat) : (siftUp less elements position).Perm elements := by
  induction elements, position using siftUp.induct less with
  | case1 elements => rw [siftUp, if_pos rfl]
  | case2 elements position below ordered => rw [siftUp, if_neg below, if_pos ordered]
  | case3 elements position below unordered ih =>
    rw [siftUp, if_neg below, if_neg unordered]
    exact ih.trans (exchange_perm elements _ _)

theorem siftDown_perm (elements : List α) (position : Nat) :
    (siftDown less childLess elements position).Perm elements := by
  induction elements, position using siftDown.induct less childLess with
  | case1 elements position inside ordered => rw [siftDown, if_pos inside, if_pos ordered]
  | case2 elements position inside unordered ih =>
    rw [siftDown, if_pos inside, if_neg unordered]
    exact ih.trans (exchange_perm elements _ _)
  | case3 elements position leaf => rw [siftDown, if_neg leaf]

theorem insert_perm (elements : List α) (element : α) : (insert less elements element).Perm (element :: elements) :=
  (siftUp_perm _ _).trans (List.perm_append_singleton element elements)

/-- An element is put in the place of another. -/
theorem set_perm (element : α) {replaced : α} (isReplaced : elements[position]? = some replaced) :
    (element :: elements).Perm (replaced :: elements.set position element) := by
  induction elements generalizing position with
  | nil => cases isReplaced
  | cons first rest ih =>
    cases position with
    | zero =>
      cases isReplaced
      exact List.Perm.swap _ _ _
    | succ position =>
      refine (List.Perm.swap first element rest).trans ?_
      exact ((ih isReplaced).cons first).trans (List.Perm.swap _ _ _)

theorem removeAtBy_perm (less childLess : α → α → Bool) (isRemoved : elements[position]? = some element) :
    elements.Perm (element :: removeAtBy less childLess elements position) := by
  obtain ⟨inRange, -⟩ := List.getElem?_eq_some_iff.mp isRemoved
  unfold removeAtBy
  cases isLast : elements.getLast? with
  | none =>
    rw [List.getLast?_eq_none_iff.mp isLast] at isRemoved
    cases isRemoved
  | some last =>
    obtain ⟨front, rfl⟩ := List.getLast?_eq_some_iff.mp isLast
    rw [List.length_append, List.length_singleton] at inRange ⊢
    dsimp only
    rw [if_neg (by omega), List.dropLast_concat]
    have rotated : (front ++ [last]).Perm (last :: front) := List.perm_append_singleton last front
    by_cases final : position = front.length
    · rw [if_pos (by omega)]
      rw [final, List.getElem?_append_right (Nat.le_refl _), Nat.sub_self] at isRemoved
      cases isRemoved
      exact rotated
    · rw [if_neg (by omega)]
      rw [List.getElem?_append_left (by omega)] at isRemoved
      have placed := rotated.trans (set_perm last isRemoved)
      split
      · exact placed.trans ((siftUp_perm _ _).symm.cons element)
      · exact placed.trans ((siftDown_perm _ _).symm.cons element)

theorem removeAt_perm (less : α → α → Bool) (isRemoved : elements[position]? = some element) :
    elements.Perm (element :: removeAt less elements position) := removeAtBy_perm less less isRemoved

theorem replaceAt_perm (less : α → α → Bool) {replaced : α}
    (isReplaced : elements[position]? = some replaced) (element : α) :
    (element :: elements).Perm (replaced :: replaceAt less elements position element) :=
  (set_perm element isReplaced).trans ((siftUp_perm _ _).symm.cons replaced)

end Sparkpipe.Heap
