import Mathlib.Data.Prod.Lex
import Mathlib.Order.RelClasses
import Sparkpipe.Cache.Arena.Prefetch
import Sparkpipe.Lib.Least

/-!
# The choice of a victim

`SparkKvCacheBlockIsBetterEvictionVictim` compares two blocks key by key. The keys of a block, in the order in which
they count, make up its value to the arena, and the two scans that look for a victim find a candidate of the least
value: one among the slots of the arena, the other among all blocks.
-/

namespace Sparkpipe.KvCache

namespace Arena

variable {layout : Layout} {arena : Arena} {guarded : List Nat} {parkFailed : Bool} {index : Nat}

/-- What keeps a block in the arena: its priority, its deadline, where none counts least and the nearest most, its
references, what it is worth to find it again under that policy, and when it was used last. -/
def keeping (layout : Layout) (arena : Arena) (block : Block) : Nat ×ₗ Nat ×ₗ Int ×ₗ Nat ×ₗ Int ×ₗ Nat :=
  toLex (block.keepPriority, toLex (if block.keepDeadlineNs = 0 then 0 else 1, toLex (-(block.keepDeadlineNs : Int),
    toLex (block.referenceCount,
      toLex (if layout.evictionPolicy = .reuseValue then arena.reuseValueKeepness block else 0,
        block.lastUsedEpoch)))))

/-- Where a block stands in the order in which blocks are taken: of those that are kept alike, the
first comes first. -/
def precedence (layout : Layout) (arena : Arena) (index : Nat) : (Nat ×ₗ Nat ×ₗ Int ×ₗ Nat ×ₗ Int ×ₗ Nat) ×ₗ Nat :=
  toLex (arena.keeping layout (arena.blocks index), index)

/-- The comparison of the source is that of what keeps the blocks. -/
theorem blockIsBetterEvictionVictim_iff (layout : Layout) (arena : Arena) (victim block : Block) :
    arena.blockIsBetterEvictionVictim layout victim block = true ↔
      arena.keeping layout block < arena.keeping layout victim := by
  simp only [keeping, Prod.Lex.toLex_lt_toLex]
  unfold blockIsBetterEvictionVictim
  split
  · rename_i priority
    simp only [decide_eq_true_eq]
    omega
  rename_i samePriority
  rw [not_not] at samePriority
  simp only [samePriority, lt_irrefl, false_or, true_and]
  split
  · rename_i deadline
    simp only [decide_eq_true_eq, Bool.decide_and, Bool.decide_or, Bool.and_eq_true, Bool.or_eq_true]
    by_cases none : block.keepDeadlineNs = 0
    · have other : victim.keepDeadlineNs ≠ 0 := by omega
      simp [none, other]
    · by_cases other : victim.keepDeadlineNs = 0
      · simp [none, other]
      · rw [if_neg none, if_neg other]
        omega
  rename_i sameDeadline
  rw [not_not] at sameDeadline
  simp only [sameDeadline, lt_irrefl, false_or, true_and]
  split
  · rename_i references
    simp only [decide_eq_true_eq]
    omega
  rename_i sameReferences
  rw [not_not] at sameReferences
  simp only [sameReferences, lt_irrefl, false_or, true_and]
  by_cases policy : layout.evictionPolicy = .reuseValue
  · simp only [policy, true_and, if_true]
    split
    · simp only [decide_eq_true_eq]
      omega
    · simp only [decide_eq_true_eq]
      omega
  · simp [policy]

/-- The comparison is a strict weak order. -/
theorem blockIsBetterEvictionVictim_strictWeak (layout : Layout) (arena : Arena) :
    IsStrictWeakOrder Block fun block victim => arena.blockIsBetterEvictionVictim layout victim block = true := by
  have same : (fun block victim => arena.blockIsBetterEvictionVictim layout victim block = true) =
      Order.Preimage (arena.keeping layout) (· < ·) := by
    funext block victim
    exact propext (blockIsBetterEvictionVictim_iff layout arena victim block)
  have strict : IsStrictWeakOrder (Nat ×ₗ Nat ×ₗ Int ×ₗ Nat ×ₗ Int ×ₗ Nat) (· < ·) :=
    isStrictWeakOrder_of_isOrderConnected
  rw [same]
  infer_instance

/-- The scan over the logical blocks. -/
theorem selectLogicalVictim_eq (layout : Layout) (arena : Arena) (guarded items : List Nat) (victim : Option Nat) :
    arena.selectLogicalVictim layout guarded items victim =
      leastOf (arena.blockExceedsLimit layout guarded) (fun b => arena.keeping layout (arena.blocks b)) items victim := by
  induction items generalizing victim with
  | nil => rfl
  | cons index rest ih =>
    unfold selectLogicalVictim leastOf
    simp only [Bool.not_eq_true']
    split
    · exact ih victim
    split
    · exact ih _
    · simp only [blockIsBetterEvictionVictim_iff]
      split
      · exact ih _
      · exact ih _

/-- The scan over the slots, all of which hold blocks of the arena. -/
theorem selectVictim_eq {slots : List Nat}
    (inRange : ∀ slot ∈ slots, ∀ b, arena.residentSlots slot = some b → b < layout.logicalBlockCount)
    (victim : Option Nat) :
    arena.selectVictim layout guarded parkFailed slots victim =
      leastOf (arena.blockIsEvictable layout guarded parkFailed) (fun b => arena.keeping layout (arena.blocks b))
        (slots.filterMap arena.residentSlots) victim := by
  induction slots generalizing victim with
  | nil => rfl
  | cons slot rest ih =>
    have later := ih fun other listed => inRange other (.tail _ listed)
    unfold selectVictim
    split
    · rename_i empty
      rw [List.filterMap_cons_none empty]
      exact later victim
    rename_i index held
    rw [List.filterMap_cons_some held, if_neg (Nat.not_le.mpr (inRange slot List.mem_cons_self index held))]
    unfold leastOf
    simp only [Bool.not_eq_true']
    split
    · exact later victim
    split
    · exact later _
    · simp only [blockIsBetterEvictionVictim_iff]
      split
      · exact later _
      · exact later _

/-- A candidate that no candidate is a better victim than. -/
def Worst (layout : Layout) (arena : Arena) (candidate : Nat → Prop) (index : Nat) : Prop :=
  candidate index ∧ ∀ other, candidate other →
    arena.blockIsBetterEvictionVictim layout (arena.blocks index) (arena.blocks other) = false

/-- A block in a slot of the arena that passes the tests of `SparkKvCacheArenaSelectResidentEvictionVictim`. -/
def Trimmable (layout : Layout) (arena : Arena) (guarded : List Nat) (parkFailed : Bool) (index : Nat) : Prop :=
  (∃ slot < layout.residentBlockCapacity, arena.residentSlots slot = some index) ∧
    arena.blockIsEvictable layout guarded parkFailed index = true

/-- A block that passes the tests of `SparkKvCacheSelectResidentEvictionVictim`. -/
def Exceeding (layout : Layout) (arena : Arena) (guarded : List Nat) (index : Nat) : Prop :=
  index < layout.logicalBlockCount ∧ arena.blockExceedsLimit layout guarded index = true

/-- Nothing is left to evict, or the first victim is a candidate that no other is better than. -/
theorem selectResidentEvictionVictim_cases (layout : Layout)
    (inRange : ∀ slot < layout.residentBlockCapacity, ∀ b, arena.residentSlots slot = some b →
      b < layout.logicalBlockCount) (guarded : List Nat) (parkFailed : Bool) :
    (arena.selectResidentEvictionVictim layout guarded parkFailed = none ∧
        ∀ b, ¬ arena.Trimmable layout guarded parkFailed b) ∨
      ∃ index, arena.selectResidentEvictionVictim layout guarded parkFailed = some index ∧
        arena.Worst layout (arena.Trimmable layout guarded parkFailed) index := by
  have slotted : ∀ b, b ∈ (List.range layout.residentBlockCapacity).filterMap arena.residentSlots ↔
      ∃ slot < layout.residentBlockCapacity, arena.residentSlots slot = some b := by
    intro b
    simp only [List.mem_filterMap, List.mem_range]
  rw [selectResidentEvictionVictim, selectVictim_eq fun slot listed => inRange slot (List.mem_range.mp listed)]
  rcases leastOf_cases (arena.blockIsEvictable layout guarded parkFailed)
    (fun b => arena.keeping layout (arena.blocks b))
    ((List.range layout.residentBlockCapacity).filterMap arena.residentSlots) with
    ⟨nothing, none⟩ | ⟨index, member, found, passes, least⟩
  · refine .inl ⟨nothing, fun b trimmable => ?_⟩
    have fails := none b ((slotted b).mpr trimmable.1)
    rw [trimmable.2] at fails
    cases fails
  · refine .inr ⟨index, found, ⟨(slotted index).mp member, passes⟩, fun other trimmable => ?_⟩
    rw [Bool.eq_false_iff, Ne, blockIsBetterEvictionVictim_iff, not_lt]
    exact least other ((slotted other).mpr trimmable.1) trimmable.2

/-- The scan over all blocks takes the first in the order of the candidates. -/
theorem selectLogicalVictim_cases (layout : Layout) (arena : Arena) (guarded : List Nat) :
    (arena.selectLogicalVictim layout guarded (List.range layout.logicalBlockCount) none = none ∧
        ∀ b, ¬ arena.Exceeding layout guarded b) ∨
      ∃ index, arena.selectLogicalVictim layout guarded (List.range layout.logicalBlockCount) none = some index ∧
        arena.Exceeding layout guarded index ∧
        ∀ other, arena.Exceeding layout guarded other → arena.precedence layout index ≤ arena.precedence layout other := by
  rw [selectLogicalVictim_eq, leastOf_first List.pairwise_lt_range fun _ isBest => by cases isBest]
  rcases leastOf_cases (arena.blockExceedsLimit layout guarded) (arena.precedence layout)
    (List.range layout.logicalBlockCount) with ⟨nothing, none⟩ | ⟨index, member, found, passes, least⟩
  · refine .inl ⟨nothing, fun b exceeding => ?_⟩
    have fails := none b (List.mem_range.mpr exceeding.1)
    rw [exceeding.2] at fails
    cases fails
  · exact .inr ⟨index, found, ⟨List.mem_range.mp member, passes⟩, fun other exceeding =>
      least other (List.mem_range.mpr exceeding.1) exceeding.2⟩

/-- The first of the candidates is one that no other is a better victim than. -/
theorem worst_of_first {candidate : Nat → Prop} (isCandidate : candidate index)
    (first : ∀ other, candidate other → arena.precedence layout index ≤ arena.precedence layout other) :
    arena.Worst layout candidate index := by
  refine ⟨isCandidate, fun other listed => ?_⟩
  rw [Bool.eq_false_iff, Ne, blockIsBetterEvictionVictim_iff]
  intro better
  exact absurd (first other listed) (not_le.mpr (Prod.Lex.toLex_lt_toLex.mpr (Or.inl better)))

end Arena

end Sparkpipe.KvCache
