import Sparkpipe.Cache.Arena.Prefetch
import Sparkpipe.Cache.Arena.Holdings
import Sparkpipe.Lib.Tally

/-!
# Loop rules for the arena

The arena's loops evict one block after another, pin one entry of a table after
another, or reserve one block of a plan after another. Each rule says that what the
body keeps, the loop keeps, wherever it stops.
-/

namespace Sparkpipe.KvCache

open Function

namespace Arena

variable {layout : Layout} {arena : Arena} {index : Nat} {P : Arena → Prop}

theorem andThen_pure (now : Arena) (rest : Arena → SparkStatus × Arena) :
    andThen (.ok, now) rest = rest now := rfl

theorem andThen_assoc (call : SparkStatus × Arena) (second third : Arena → SparkStatus × Arena) :
    andThen (andThen call second) third = andThen call fun now => andThen (second now) third := by
  by_cases succeeded : call.1 = .ok
  · rw [andThen_ok succeeded, andThen_ok succeeded]
  · rw [andThen_failed succeeded, andThen_failed succeeded, andThen_failed succeeded]

/-- Whatever holds on both ways through the checks of a block operation holds after it. -/
theorem onBlock_preserves {body : Block → SparkStatus × Arena} (start : P arena)
    (checked : validate layout arena = .ok → index < layout.logicalBlockCount →
      P (body (arena.blocks index)).2) : P (arena.onBlock layout index body).2 := by
  rcases onBlock_cases layout arena index body with failed | ⟨valid, inRange, passed⟩
  · rw [failed]
    exact start
  · rw [passed]
    exact checked valid inRange

section Slots

/-- Giving up a slot changes nothing else about any block. -/
theorem releaseResidentSlot_frame (layout : Layout) (arena : Arena) (index : Nat) :
    (arena.releaseResidentSlot layout index).2.evictions = arena.evictions ∧
      ∃ slot, (arena.releaseResidentSlot layout index).2.blocks =
        update arena.blocks index { arena.blocks index with residentSlotIndex := slot } := by
  unfold releaseResidentSlot
  dsimp only
  split
  · exact ⟨rfl, none, rfl⟩
  · split
    · exact ⟨rfl, none, rfl⟩
    · split
      · exact ⟨rfl, (arena.blocks index).residentSlotIndex, (update_eq_self _ _).symm⟩
      · exact ⟨rfl, none, rfl⟩

theorem assignResidentSlot_frame (layout : Layout) (arena : Arena) (index : Nat) :
    (arena.assignResidentSlot layout index).2.evictions = arena.evictions ∧
      ∃ slot, (arena.assignResidentSlot layout index).2.blocks =
        update arena.blocks index { arena.blocks index with residentSlotIndex := slot } := by
  unfold assignResidentSlot
  dsimp only
  split
  · exact ⟨rfl, (arena.blocks index).residentSlotIndex, (update_eq_self _ _).symm⟩
  · split
    · exact ⟨rfl, (arena.blocks index).residentSlotIndex, (update_eq_self _ _).symm⟩
    · exact ⟨rfl, _, rfl⟩

/-- Letting go of one block's residency writes no other block. -/
theorem dropResidency_apart {b : Nat} (apart : b ≠ index) :
    (arena.dropResidency layout index).2.blocks b = arena.blocks b := by
  obtain ⟨_, slot, blocks⟩ := releaseResidentSlot_frame layout arena index
  have released : (arena.releaseResidentSlot layout index).2.blocks b = arena.blocks b := by
    rw [blocks, update_of_ne apart]
  refine andThen_preserves (P := fun now : Arena => now.blocks b = arena.blocks b) released fun _ => ?_
  simp only [useBlock, update_of_ne apart]
  exact released

/-- Eviction writes only the block that is evicted, and that only when it is resident. -/
theorem evictResidentBlock_apart {b : Nat} (apart : b = index → (arena.blocks b).resident = false) :
    (arena.evictResidentBlock layout index).2.blocks b = arena.blocks b := by
  by_cases here : b = index
  · have absent := apart here
    rw [here] at absent ⊢
    rw [evictResidentBlock]
    simp [absent]
  · rw [evictResidentBlock]
    dsimp only
    split
    · rfl
    · split
      · exact dropResidency_apart here
      · split
        · split
          · simp only [setBlock, update_of_ne here]
          · split
            · rfl
            · split
              · rfl
              · rw [dropResidency_apart here]
                simp only [setBlock, update_of_ne here]
        · exact dropResidency_apart here

end Slots

section Eviction

/-- A victim is a block of the arena. -/
theorem selectVictim_inRange {guarded : List Nat} {parkFailed : Bool} {slots : List Nat}
    {victim : Option Nat} (start : ∀ v, victim = some v → v < layout.logicalBlockCount) {chosen : Nat}
    (selected : arena.selectVictim layout guarded parkFailed slots victim = some chosen) :
    chosen < layout.logicalBlockCount := by
  induction slots generalizing victim with
  | nil => exact start chosen selected
  | cons slot rest ih =>
    unfold selectVictim at selected
    split at selected
    · exact ih start selected
    · rename_i index _
      split at selected
      · cases selected
      · rename_i inRange
        have here : ∀ v, some index = some v → v < layout.logicalBlockCount := by
          intro v same
          cases same
          omega
        split at selected
        · exact ih start selected
        · split at selected
          · exact ih here selected
          · split at selected
            · exact ih here selected
            · exact ih start selected

/-- A victim is found in a resident slot. -/
theorem selectVictim_slotted {guarded : List Nat} {parkFailed : Bool} {slots : List Nat}
    {victim : Option Nat} {chosen : Nat}
    (selected : arena.selectVictim layout guarded parkFailed slots victim = some chosen) :
    victim = some chosen ∨ ∃ slot ∈ slots, arena.residentSlots slot = some chosen := by
  induction slots generalizing victim with
  | nil => exact .inl selected
  | cons slot rest ih =>
    have later : (∃ s ∈ rest, arena.residentSlots s = some chosen) →
        ∃ s ∈ slot :: rest, arena.residentSlots s = some chosen := by
      rintro ⟨s, listed, there⟩
      exact ⟨s, .tail slot listed, there⟩
    have here : ∀ {index}, arena.residentSlots slot = some index →
        (some index = some chosen ∨ ∃ s ∈ rest, arena.residentSlots s = some chosen) →
        ∃ s ∈ slot :: rest, arena.residentSlots s = some chosen := by
      rintro index there (same | found)
      · exact ⟨slot, .head _, there.trans same⟩
      · exact later found
    unfold selectVictim at selected
    split at selected
    · exact (ih selected).imp id later
    · rename_i index there
      split at selected
      · cases selected
      · split at selected
        · exact (ih selected).imp id later
        · split at selected
          · exact .inr (here there (ih selected))
          · split at selected
            · exact .inr (here there (ih selected))
            · exact (ih selected).imp id later

variable
  (evicts : ∀ now index slot, index < layout.logicalBlockCount → slot < layout.residentBlockCapacity →
    now.residentSlots slot = some index → P now → P (now.evictResidentBlock layout index).2)
  (stalls : ∀ now : Arena, P now →
    P { now with
      parkStallCount := now.parkStallCount + 1
      parkDegraded := true })

include evicts stalls

theorem trimResidentBlocks_preserves (start : P arena) (guarded : List Nat) (target fuel : Nat) :
    P (trimResidentBlocks layout guarded target fuel arena).2 := by
  induction fuel generalizing arena with
  | zero => exact start
  | succ fuel ih =>
    unfold trimResidentBlocks
    split
    · exact start
    · dsimp only
      split
      · exact start
      · rename_i index chosen
        obtain ⟨parkFailed, selected⟩ : ∃ parkFailed,
            arena.selectResidentEvictionVictim layout guarded parkFailed = some index := by
          split at chosen
          · exact ⟨true, chosen⟩
          · exact ⟨false, chosen⟩
        have inRange := selectVictim_inRange (by simp) selected
        obtain ⟨slot, listed, there⟩ := (selectVictim_slotted selected).resolve_left (by simp)
        have evicted := evicts arena index slot inRange (List.mem_range.mp listed) there start
        split
        · exact ih evicted
        · split
          · exact ih evicted
          · split
            · exact stalls _ evicted
            · exact evicted

theorem trimResidentBlocksProtecting_preserves (start : P arena) (guarded : List Nat) (target : Nat) :
    P (arena.trimResidentBlocksProtecting layout guarded target).2 := by
  rw [trimResidentBlocksProtecting]
  split
  · exact start
  · split
    · exact start
    · exact trimResidentBlocks_preserves evicts stalls start guarded target _

theorem makeRoomForResidentBlocks_preserves (start : P arena) (guarded : List Nat) (added : Nat) :
    P (arena.makeRoomForResidentBlocks layout guarded added).2 := by
  unfold makeRoomForResidentBlocks
  dsimp only
  split
  · exact start
  · split
    · exact start
    · split
      · exact start
      · exact trimResidentBlocksProtecting_preserves evicts stalls start guarded _

end Eviction

section Tables

theorem unpinEach_preserves (unpins : ∀ now index, P now → P (now.unpinResidentBlock layout index).2)
    (start : P arena) (table : List Nat) (result : SparkStatus) :
    P (unpinEach layout table result arena).2 := by
  induction table generalizing result arena with
  | nil => exact start
  | cons index rest ih => exact ih (unpins arena index start) _

theorem unpinResidentTable_preserves
    (unpins : ∀ now index, P now → P (now.unpinResidentBlock layout index).2) (start : P arena)
    (table : List Nat) : P (arena.unpinResidentTable layout table).2 := by
  rw [unpinResidentTable]
  split
  · exact start
  · exact unpinEach_preserves unpins start table .ok

theorem pinEach_preserves (pins : ∀ now index, P now → P (now.pinResidentBlock layout index).2)
    (start : P arena) (table : List Nat) (pinned : Nat) :
    P (pinEach layout table pinned arena).2.2 := by
  induction table generalizing pinned arena with
  | nil => exact start
  | cons index rest ih =>
    have attempt := pins arena index start
    rw [pinEach]
    split
    · exact attempt
    · split
      · exact attempt
      · split
        · exact attempt
        · exact ih attempt _

theorem pinResidentTable_preserves
    (pins : ∀ now index, P now → P (now.pinResidentBlock layout index).2)
    (unpins : ∀ now index, P now → P (now.unpinResidentBlock layout index).2) (start : P arena)
    (table : List Nat) : P (arena.pinResidentTable layout table).2 := by
  have attempt := pinEach_preserves pins start table 0
  rw [pinResidentTable]
  split
  · exact start
  · dsimp only
    split
    · exact attempt
    · exact unpinResidentTable_preserves unpins attempt _

end Tables

section Plans

/-- A plan is completed or cancelled after its checks, or not at all. -/
theorem onPlan_preserves {plan : PrefetchPlan} {body : SparkStatus × Arena} (start : P arena)
    (checked : validate layout arena = .ok → validatePrefetchPlan plan = .ok →
      arena.validatePlanBlocks layout plan.blocks = .ok → P body.2) :
    P (arena.onPlan layout plan body).2 := by
  rw [onPlan]
  split
  · exact start
  · rename_i valid
    split
    · exact start
    · rename_i wellFormed
      split
      · exact start
      · rename_i placed
        exact checked (not_not.mp valid) (not_not.mp wellFormed) (not_not.mp placed)

theorem buildEach_preserves
    (reserves : ∀ now source plan, validatePrefetchSourceBlock layout source = .ok →
      (now.blocks source.logicalBlockIndex).allocated = true → P now →
      P (now.reserveBlockResidency layout source.logicalBlockIndex plan).2)
    (start : P arena) (sources : List PrefetchSourceBlock) (plan : PrefetchPlan) :
    P (buildEach layout sources plan arena).2.2 := by
  induction sources generalizing plan arena with
  | nil => exact start
  | cons source rest ih =>
    rw [buildEach]
    dsimp only
    split
    · exact start
    · rename_i sound
      split
      · exact ih start _
      · split
        · exact start
        · rename_i allocated
          have reserved := reserves arena source plan (not_not.mp sound) (by simpa using allocated) start
          split
          · exact start
          · split
            · exact ih start _
            · split
              · exact start
              · split
                · exact reserved
                · exact ih reserved _

/-- A plan is built entry by entry, and cancelled when it cannot be finished. -/
theorem buildPrefetchPlanFromSourceBlocks_preserves
    (reserves : ∀ now source plan, validatePrefetchSourceBlock layout source = .ok →
      (now.blocks source.logicalBlockIndex).allocated = true → P now →
      P (now.reserveBlockResidency layout source.logicalBlockIndex plan).2)
    (cancels : ∀ now plan, P now → P (now.cancelPrefetchPlan layout plan).2) (start : P arena)
    (sources : List PrefetchSourceBlock) (laneCount : Nat) :
    P (arena.buildPrefetchPlanFromSourceBlocks layout sources laneCount).2.2 := by
  rw [buildPrefetchPlanFromSourceBlocks]
  split
  · exact start
  · split
    · exact start
    · have built := buildEach_preserves reserves start sources
        { laneCount := laneCount, requestedLogicalBlockCount := sources.length }
      dsimp only
      split
      · exact built
      · exact cancels _ _ built

theorem buildPrefetchPlan_preserves
    (builds : ∀ sources laneCount,
      P (arena.buildPrefetchPlanFromSourceBlocks layout sources laneCount).2.2)
    (start : P arena) (indices : List Nat) (laneCount : Nat) :
    P (arena.buildPrefetchPlan layout indices laneCount).2.2 := by
  rw [buildPrefetchPlan]
  split
  · exact start
  · exact builds _ laneCount

theorem buildNextPrefetchPlan_preserves
    (builds : ∀ sources laneCount,
      P (arena.buildPrefetchPlanFromSourceBlocks layout sources laneCount).2.2)
    (start : P arena) (indices : List Nat) (laneCount next : Nat) :
    P (arena.buildNextPrefetchPlan layout indices laneCount next).2.2.2 := by
  rw [buildNextPrefetchPlan]
  split
  · exact start
  · exact buildPrefetchPlan_preserves builds start _ laneCount

end Plans

theorem evictToLimit_preserves
    (evicts : ∀ now index, P now → P (now.markBlockNonResident layout index).2) (start : P arena)
    (limit : Nat) (guarded : List Nat) (fuel : Nat) :
    P (evictToLimit layout limit guarded fuel arena).2 := by
  induction fuel generalizing arena with
  | zero => exact start
  | succ fuel ih =>
    rw [evictToLimit]
    split
    · exact start
    · split
      · exact start
      · rename_i index _
        have evicted := evicts arena index start
        dsimp only
        split
        · exact ih evicted
        · exact evicted

end Arena

end Sparkpipe.KvCache
