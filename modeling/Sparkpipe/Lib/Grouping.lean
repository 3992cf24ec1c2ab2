import Mathlib.Data.List.Count
import Mathlib.Data.List.Nodup
import Mathlib.Data.List.Range
import Mathlib.Logic.Function.Basic

/-!
# Counting sort

Items with keys are brought into groups: one group for each key, with the items of a group in
their order. The counts of the keys say where a group begins, and an item goes to the next free
place of its group.
-/

namespace Sparkpipe.Grouping

open Function

variable {keys placed rest : List Nat} {key other : Nat}

/-- Where the group of a key begins: after the items of the smaller keys. -/
def groupBegin (keys : List Nat) (key : Nat) : Nat := keys.countP (· < key)

/-- The items of a key in their order. -/
def members (keys : List Nat) (key : Nat) : List Nat :=
  (List.range keys.length).filter fun item => keys[item]? = some key

@[simp] theorem groupBegin_zero (keys : List Nat) : groupBegin keys 0 = 0 := by
  simp [groupBegin]

theorem groupBegin_succ (keys : List Nat) (key : Nat) :
    groupBegin keys (key + 1) = groupBegin keys key + keys.count key := by
  unfold groupBegin
  induction keys with
  | nil => rfl
  | cons first rest ih =>
    simp only [List.countP_cons, List.count_cons, ih, decide_eq_true_eq, beq_iff_eq]
    split_ifs <;> omega

theorem groupBegin_mono (keys : List Nat) (below : key ≤ other) : groupBegin keys key ≤ groupBegin keys other := by
  apply List.countP_mono_left
  intro item _ smaller
  simp only [decide_eq_true_eq] at smaller ⊢
  omega

/-- The last group ends with the last item. -/
theorem groupBegin_all {bound : Nat} (bounded : ∀ key ∈ keys, key < bound) : groupBegin keys bound = keys.length := by
  apply List.countP_eq_length.mpr
  intro key member
  exact decide_eq_true (bounded key member)

theorem members_snoc (keys : List Nat) (last key : Nat) :
    members (keys ++ [last]) key = members keys key ++ if last = key then [keys.length] else [] := by
  unfold members
  rw [List.length_append, List.length_singleton, List.range_succ, List.filter_append]
  congr 1
  · apply List.filter_congr
    intro item inside
    rw [List.getElem?_append_left (List.mem_range.mp inside)]
  · simp [List.filter_cons]

/-- The items placed so far stand at the front of their groups, up to the cursors. -/
structure Placed (keys placed : List Nat) (bound : Nat) (cursor places : Nat → Nat) : Prop where
  cursor : ∀ key < bound, cursor key = groupBegin keys key + placed.count key
  items : ∀ key < bound, (List.range' (groupBegin keys key) (placed.count key)).map places = members placed key

variable {bound : Nat} {cursor places : Nat → Nat}

/-- The next item goes to the cursor of its key, which no other group reaches. -/
theorem Placed.snoc (before : Placed keys placed bound cursor places) (parts : keys = placed ++ key :: rest)
    (inside : key < bound) :
    Placed keys (placed ++ [key]) bound (update cursor key (cursor key + 1))
      (update places (cursor key) placed.length) := by
  have at_cursor := before.cursor key inside
  have counted (other : Nat) : placed.count other + (if key = other then 1 else 0) ≤ keys.count other := by
    rw [parts, List.count_append, List.count_cons]
    simp only [beq_iff_eq]
    omega
  have grown (other : Nat) : (placed ++ [key]).count other = placed.count other + if key = other then 1 else 0 := by
    rw [List.count_append, List.count_singleton]
    simp only [beq_iff_eq]
  -- The places that a group has filled are apart from the cursor.
  have kept (other : Nat) (below : other < bound) :
      (List.range' (groupBegin keys other) (placed.count other)).map (update places (cursor key) placed.length) =
        members placed other := by
    rw [← before.items other below]
    apply List.map_congr_left
    intro place member
    apply update_of_ne
    obtain ⟨after, earlier⟩ := List.mem_range'_1.mp member
    have ends := groupBegin_succ keys other
    have keyEnds := groupBegin_succ keys key
    have room := counted key
    have otherRoom := counted other
    rw [if_pos rfl] at room
    rcases Nat.lt_trichotomy key other with less | same | more
    · have := groupBegin_mono keys (show key + 1 ≤ other from less)
      omega
    · subst same
      omega
    · have := groupBegin_mono keys (show other + 1 ≤ key from more)
      omega
  constructor
  · intro other below
    rw [grown]
    by_cases same : key = other
    · subst same
      rw [update_self, if_pos rfl]
      omega
    · rw [update_of_ne (Ne.symm same), if_neg same, before.cursor other below]
      rfl
  · intro other below
    rw [grown, members_snoc]
    by_cases same : key = other
    · subst same
      rw [if_pos rfl, if_pos rfl, List.range'_1_concat, List.map_append, kept key below, ← at_cursor, List.map_singleton,
        update_self]
    · rw [if_neg same, if_neg same, Nat.add_zero, List.append_nil, kept other below]

end Sparkpipe.Grouping
