import Sparkpipe.Cache.Arena.Model
import Sparkpipe.Lib.Chain

/-!
# Who holds a block of the arena

`holdings` is the part of the arena that says which blocks are handed out, how
often each is referenced, and how the others are threaded on the free list. One
lemma for each operation says what it does to the holdings, on success and on
failure; moving payloads in and out of residency does nothing to them.
-/

namespace Sparkpipe.KvCache

open Function Sparkpipe.Chain

/-- The blocks handed out, their references, and the free list of the others. -/
structure Holdings where
  allocated : Nat → Bool
  referenceCount : Nat → Nat
  freeNext : Nat → Option Nat
  freeHead : Option Nat

namespace Arena

variable {layout : Layout} {arena : Arena} {index : Nat}

/-- The holdings of an arena. -/
def holdings (arena : Arena) : Holdings where
  allocated i := (arena.blocks i).allocated
  referenceCount i := (arena.blocks i).referenceCount
  freeNext i := (arena.blocks i).freeNext
  freeHead := arena.freeLogicalBlockHead

/-- The resident, reserved and unassigned blocks, which `validate` bounds by the capacity. -/
def occupied (arena : Arena) : Nat :=
  arena.residentBlockCount + arena.reservedBlockCount + arena.unassignedResidentBlockCount

/-- Only the occupied blocks decide whether an arena that validates still does. -/
theorem validate_of_occupied {other : Arena} (valid : validate layout arena = .ok)
    (fits : other.occupied ≤ layout.residentBlockCapacity) : validate layout other = .ok := by
  unfold validate at valid ⊢
  unfold occupied at fits
  split at valid
  · cases valid
  · rename_i sizes
    rw [if_neg (by omega)]
    exact valid

theorem occupied_le_of_validate (valid : validate layout arena = .ok) :
    arena.occupied ≤ layout.residentBlockCapacity := by
  unfold validate at valid
  unfold occupied
  split at valid
  · cases valid
  · rename_i sizes
    omega

theorem nonempty_of_validate (valid : validate layout arena = .ok) : 0 < layout.logicalBlockCount := by
  unfold validate at valid
  split at valid
  · cases valid
  · omega

/-- Writing a block keeps the holdings when it keeps the block's. -/
theorem holdings_write {other : Arena} {block : Block}
    (written : other.blocks = update arena.blocks index block)
    (head : other.freeLogicalBlockHead = arena.freeLogicalBlockHead)
    (allocated : block.allocated = (arena.blocks index).allocated)
    (references : block.referenceCount = (arena.blocks index).referenceCount)
    (next : block.freeNext = (arena.blocks index).freeNext) : other.holdings = arena.holdings := by
  have kept : ∀ {α : Type} (field : Block → α), field block = field (arena.blocks index) →
      (fun i => field (other.blocks i)) = fun i => field (arena.blocks i) := by
    intro α field same
    funext i
    rw [written]
    by_cases here : i = index
    · subst here
      rw [update_self, same]
    · rw [update_of_ne here]
  simp only [holdings, kept Block.allocated allocated, kept Block.referenceCount references,
    kept Block.freeNext next, head]

/-- The two ways through the checks every block operation begins with. -/
theorem onBlock_cases (layout : Layout) (arena : Arena) (index : Nat)
    (body : Block → SparkStatus × Arena) :
    (arena.onBlock layout index body = (.invalidArgument, arena)) ∨
      (validate layout arena = .ok ∧ index < layout.logicalBlockCount ∧
        arena.onBlock layout index body = body (arena.blocks index)) := by
  have failure : validate layout arena = .ok ∨ validate layout arena = .invalidArgument := by
    unfold validate
    split
    · exact .inr rfl
    · split
      · exact .inr rfl
      · split
        · exact .inr rfl
        · exact .inl rfl
  unfold onBlock
  split
  · rename_i invalid
    rcases failure with valid | invalidArgument
    · exact absurd valid invalid
    · exact Or.inl (by rw [invalidArgument])
  · rename_i valid
    split
    · exact .inl rfl
    · exact Or.inr ⟨by simpa using valid, by omega, rfl⟩

theorem onBlock_ok (valid : validate layout arena = .ok) (inRange : index < layout.logicalBlockCount)
    (body : Block → SparkStatus × Arena) :
    arena.onBlock layout index body = body (arena.blocks index) := by
  unfold onBlock
  rw [if_neg (by simpa using valid), if_neg (by omega)]

section References

theorem retainBlock_cases (layout : Layout) (arena : Arena) (index : Nat) :
    ((arena.retainBlock layout index).1 ≠ .ok ∧ (arena.retainBlock layout index).2 = arena) ∨
      ((arena.retainBlock layout index).1 = .ok ∧ validate layout arena = .ok ∧
        index < layout.logicalBlockCount ∧ (arena.blocks index).allocated = true ∧
        (arena.retainBlock layout index).2 = arena.useBlock index
          { arena.blocks index with
            referenceCount := (arena.blocks index).referenceCount + 1 }) := by
  unfold retainBlock
  rcases onBlock_cases layout arena index _ with failed | ⟨valid, inRange, checked⟩
  · rw [failed]
    exact Or.inl ⟨by simp, rfl⟩
  · rw [checked]
    split
    · exact Or.inl ⟨by simp, rfl⟩
    · rename_i allocated
      exact Or.inr ⟨rfl, valid, inRange, by simpa using allocated, rfl⟩

theorem releaseBlockReference_cases (layout : Layout) (arena : Arena) (index : Nat) :
    ((arena.releaseBlockReference layout index).1 ≠ .ok ∧
        (arena.releaseBlockReference layout index).2 = arena) ∨
      ((arena.releaseBlockReference layout index).1 = .ok ∧ validate layout arena = .ok ∧
        index < layout.logicalBlockCount ∧ (arena.blocks index).allocated = true ∧
        (arena.blocks index).referenceCount ≠ 0 ∧
        (arena.releaseBlockReference layout index).2 = arena.useBlock index
          { arena.blocks index with
            referenceCount := (arena.blocks index).referenceCount - 1 }) := by
  unfold releaseBlockReference
  rcases onBlock_cases layout arena index _ with failed | ⟨valid, inRange, checked⟩
  · rw [failed]
    exact Or.inl ⟨by simp, rfl⟩
  · rw [checked]
    split
    · exact Or.inl ⟨by simp, rfl⟩
    · rename_i held
      rw [not_or] at held
      exact Or.inr ⟨rfl, valid, inRange, by simpa using held.1, held.2, rfl⟩

/-- The release of a reference that is there succeeds. -/
theorem releaseBlockReference_ok (valid : validate layout arena = .ok)
    (inRange : index < layout.logicalBlockCount) (allocated : (arena.blocks index).allocated = true)
    (referenced : (arena.blocks index).referenceCount ≠ 0) :
    (arena.releaseBlockReference layout index).1 = .ok := by
  unfold releaseBlockReference
  rw [onBlock_ok valid inRange]
  simp [allocated, referenced]

theorem retainBlock_ok (valid : validate layout arena = .ok)
    (inRange : index < layout.logicalBlockCount) (allocated : (arena.blocks index).allocated = true) :
    (arena.retainBlock layout index).1 = .ok := by
  unfold retainBlock
  rw [onBlock_ok valid inRange]
  simp [allocated]

/-- Counting a use of a block changes its references only. -/
theorem useBlock_references (arena : Arena) (index count : Nat) :
    (arena.useBlock index { arena.blocks index with referenceCount := count }).holdings =
      { arena.holdings with
        referenceCount := update arena.holdings.referenceCount index count } := by
  simp only [holdings, useBlock, Holdings.mk.injEq, and_true]
  refine ⟨?_, ?_, ?_⟩
  · funext i
    by_cases here : i = index <;> simp [here]
  · funext i
    by_cases here : i = index <;> simp [here]
  · funext i
    by_cases here : i = index <;> simp [here]

end References

section Allocation

theorem acquireBlock_cases (layout : Layout) (arena : Arena) :
    ((arena.acquireBlock layout).1 ≠ .ok ∧ (arena.acquireBlock layout).2.2 = arena) ∨
      (∃ index, (arena.acquireBlock layout).1 = .ok ∧ (arena.acquireBlock layout).2.1 = some index ∧
        validate layout arena = .ok ∧ index < layout.logicalBlockCount ∧
        arena.freeLogicalBlockHead = some index ∧ (arena.blocks index).allocated = false ∧
        (arena.acquireBlock layout).2.2.occupied = arena.occupied ∧
        (arena.acquireBlock layout).2.2.holdings =
          { arena.holdings with
            allocated := update arena.holdings.allocated index true
            referenceCount := update arena.holdings.referenceCount index 0
            freeNext := update arena.holdings.freeNext index none
            freeHead := arena.holdings.freeNext index }) := by
  unfold acquireBlock
  split
  · rename_i invalid
    exact .inl ⟨invalid, rfl⟩
  · rename_i valid
    split
    · exact Or.inl ⟨by simp, rfl⟩
    · rename_i index head
      split
      · exact Or.inl ⟨by simp, rfl⟩
      · rename_i inRange
        split
        · exact Or.inl ⟨by simp, rfl⟩
        · rename_i free
          refine Or.inr ⟨index, rfl, rfl, by simpa using valid, by omega, head, by simpa using free,
            rfl, ?_⟩
          simp only [holdings, useBlock, Holdings.mk.injEq, and_true]
          refine ⟨?_, ?_, ?_⟩ <;> funext i <;> by_cases here : i = index <;>
            simp [here]

theorem recycleBlock_cases (layout : Layout) (arena : Arena) (index : Nat) :
    (arena.recycleBlock layout index).2.holdings = arena.holdings ∧
      (arena.recycleBlock layout index).2.occupied = arena.occupied ∧
      ((arena.recycleBlock layout index).1 = .ok →
        validate layout arena = .ok ∧ index < layout.logicalBlockCount ∧
          (arena.blocks index).allocated = true ∧ (arena.blocks index).referenceCount = 0) := by
  unfold recycleBlock
  rcases onBlock_cases layout arena index _ with failed | ⟨valid, inRange, checked⟩
  · rw [failed]
    exact ⟨rfl, rfl, by simp⟩
  · rw [checked]
    split
    · exact ⟨rfl, rfl, by simp⟩
    · rename_i allocated
      split
      · exact ⟨rfl, rfl, by simp⟩
      · rename_i idle
        rw [not_or] at idle
        refine ⟨?_, rfl, fun _ => ⟨valid, inRange, by simpa using allocated, by simpa using idle.1⟩⟩
        have was : (arena.blocks index).allocated = true := by simpa using allocated
        exact holdings_write rfl rfl was.symm rfl rfl

end Allocation

section Residency

/-- Moving a payload into or out of residency: the holdings stay, and an arena that validates
still does. -/
structure SameHoldings (layout : Layout) (before after : Arena) : Prop where
  holdings : after.holdings = before.holdings
  reserved : after.reservedBlockCount = before.reservedBlockCount
  unassigned : after.unassignedResidentBlockCount = before.unassignedResidentBlockCount
  validates : validate layout before = .ok → validate layout after = .ok

theorem SameHoldings.refl (layout : Layout) (arena : Arena) : SameHoldings layout arena arena :=
  ⟨rfl, rfl, rfl, id⟩

theorem SameHoldings.trans {first second third : Arena} (one : SameHoldings layout first second)
    (two : SameHoldings layout second third) : SameHoldings layout first third :=
  ⟨two.holdings.trans one.holdings, two.reserved.trans one.reserved,
    two.unassigned.trans one.unassigned, fun valid => two.validates (one.validates valid)⟩

/-- A write of one block that keeps its holdings and does not occupy more. -/
theorem sameHoldings_write {other : Arena} {block : Block}
    (written : other.blocks = update arena.blocks index block)
    (head : other.freeLogicalBlockHead = arena.freeLogicalBlockHead)
    (allocated : block.allocated = (arena.blocks index).allocated)
    (references : block.referenceCount = (arena.blocks index).referenceCount)
    (next : block.freeNext = (arena.blocks index).freeNext)
    (reserved : other.reservedBlockCount = arena.reservedBlockCount)
    (unassigned : other.unassignedResidentBlockCount = arena.unassignedResidentBlockCount)
    (fewer : other.residentBlockCount ≤ arena.residentBlockCount) :
    SameHoldings layout arena other := by
  refine ⟨holdings_write written head allocated references next, reserved, unassigned, fun valid => ?_⟩
  have fits := occupied_le_of_validate valid
  refine validate_of_occupied valid ?_
  unfold occupied at fits ⊢
  omega

theorem releaseResidentSlot_same (layout : Layout) (arena : Arena) (index : Nat) :
    SameHoldings layout arena (arena.releaseResidentSlot layout index).2 ∧
      (arena.releaseResidentSlot layout index).2.occupied = arena.occupied := by
  unfold releaseResidentSlot
  dsimp only
  split
  · exact ⟨sameHoldings_write rfl rfl rfl rfl rfl rfl rfl (Nat.le_refl _), rfl⟩
  · split
    · exact ⟨sameHoldings_write rfl rfl rfl rfl rfl rfl rfl (Nat.le_refl _), rfl⟩
    · split
      · exact ⟨SameHoldings.refl layout arena, rfl⟩
      · exact ⟨sameHoldings_write rfl rfl rfl rfl rfl rfl rfl (Nat.le_refl _), rfl⟩

theorem assignResidentSlot_same (layout : Layout) (arena : Arena) (index : Nat) :
    SameHoldings layout arena (arena.assignResidentSlot layout index).2 ∧
      (arena.assignResidentSlot layout index).2.occupied = arena.occupied := by
  unfold assignResidentSlot
  split
  · exact ⟨SameHoldings.refl layout arena, rfl⟩
  · dsimp only
    split
    · exact ⟨SameHoldings.refl layout arena, rfl⟩
    · exact ⟨sameHoldings_write rfl rfl rfl rfl rfl rfl rfl (Nat.le_refl _), rfl⟩

theorem dropResidency_same (layout : Layout) (arena : Arena) (index : Nat) :
    SameHoldings layout arena (arena.dropResidency layout index).2 := by
  obtain ⟨released, -⟩ := releaseResidentSlot_same layout arena index
  refine andThen_preserves released fun _ => ?_
  exact released.trans (sameHoldings_write rfl rfl rfl rfl rfl rfl rfl (Nat.sub_le _ _))

theorem evictResidentBlock_same (layout : Layout) (arena : Arena) (index : Nat) :
    SameHoldings layout arena (arena.evictResidentBlock layout index).2 := by
  unfold evictResidentBlock
  dsimp only
  split
  · exact SameHoldings.refl layout arena
  · split
    · exact dropResidency_same layout arena index
    · split
      · split
        · exact sameHoldings_write rfl rfl rfl rfl rfl rfl rfl (Nat.le_refl _)
        · split
          · exact ⟨rfl, rfl, rfl, fun valid =>
              validate_of_occupied valid (occupied_le_of_validate valid)⟩
          · split
            · exact ⟨rfl, rfl, rfl, fun valid =>
                validate_of_occupied valid (occupied_le_of_validate valid)⟩
            · refine SameHoldings.trans ?_ (dropResidency_same layout _ index)
              exact sameHoldings_write rfl rfl rfl rfl rfl rfl rfl (Nat.le_refl _)
      · exact dropResidency_same layout arena index

theorem trimResidentBlocks_same (layout : Layout) (guarded : List Nat) (target fuel : Nat)
    (arena : Arena) :
    SameHoldings layout arena (trimResidentBlocks layout guarded target fuel arena).2 ∧
      ((trimResidentBlocks layout guarded target fuel arena).1 = .ok →
        (trimResidentBlocks layout guarded target fuel arena).2.residentBlockCount ≤ target) := by
  induction fuel generalizing arena with
  | zero => exact ⟨SameHoldings.refl layout arena, by simp [trimResidentBlocks]⟩
  | succ fuel ih =>
    unfold trimResidentBlocks
    split
    · exact ⟨SameHoldings.refl layout arena, fun _ => by assumption⟩
    · dsimp only
      split
      · exact ⟨SameHoldings.refl layout arena, by simp⟩
      · rename_i index chosen
        have evicted := evictResidentBlock_same layout arena index
        obtain ⟨later, reached⟩ := ih (arena.evictResidentBlock layout index).2
        split
        · exact ⟨evicted.trans later, reached⟩
        · rename_i failed
          split
          · exact ⟨evicted.trans later, reached⟩
          · split
            · exact ⟨⟨evicted.holdings, evicted.reserved, evicted.unassigned, fun valid =>
                validate_of_occupied valid (occupied_le_of_validate (evicted.validates valid))⟩,
                by simp⟩
            · exact ⟨evicted, fun succeeded => absurd succeeded failed⟩

theorem makeRoomForResidentBlocks_same (layout : Layout) (arena : Arena) (guarded : List Nat)
    (added : Nat) :
    SameHoldings layout arena (arena.makeRoomForResidentBlocks layout guarded added).2 ∧
      ((arena.makeRoomForResidentBlocks layout guarded added).1 = .ok →
        (arena.makeRoomForResidentBlocks layout guarded added).2.occupied + added ≤
          layout.residentBlockCapacity) := by
  unfold makeRoomForResidentBlocks
  dsimp only
  split
  · exact ⟨SameHoldings.refl layout arena, by simp⟩
  · split
    · refine ⟨SameHoldings.refl layout arena, fun _ => ?_⟩
      change arena.occupied + added ≤ layout.residentBlockCapacity
      unfold occupied
      omega
    · split
      · exact ⟨SameHoldings.refl layout arena, by simp⟩
      · unfold trimResidentBlocksProtecting
        split
        · rename_i invalid
          exact ⟨SameHoldings.refl layout arena, fun valid => absurd valid invalid⟩
        · split
          · exact ⟨SameHoldings.refl layout arena, by simp⟩
          · obtain ⟨same, reached⟩ := trimResidentBlocks_same layout guarded
              (layout.residentBlockCapacity -
                (arena.reservedBlockCount + arena.unassignedResidentBlockCount) - added)
              (trimFuel layout) arena
            refine ⟨same, fun succeeded => ?_⟩
            have bound := reached succeeded
            have reserved := same.reserved
            have unassigned := same.unassigned
            unfold occupied
            omega

theorem markBlockResident_same (layout : Layout) (arena : Arena) (index : Nat) :
    SameHoldings layout arena (arena.markBlockResident layout index).2 := by
  unfold markBlockResident
  rcases onBlock_cases layout arena index _ with failed | ⟨valid, inRange, checked⟩
  · rw [failed]
    exact SameHoldings.refl layout arena
  · rw [checked]
    split
    · exact SameHoldings.refl layout arena
    · split
      · exact SameHoldings.refl layout arena
      · split
        · exact sameHoldings_write rfl rfl rfl rfl rfl rfl rfl (Nat.le_refl _)
        · split
          · exact SameHoldings.refl layout arena
          · obtain ⟨roomy, room⟩ := makeRoomForResidentBlocks_same layout arena [index] 1
            refine andThen_preserves roomy fun made => ?_
            obtain ⟨assigned, kept⟩ := assignResidentSlot_same layout
              (arena.makeRoomForResidentBlocks layout [index] 1).2 index
            refine andThen_preserves (roomy.trans assigned) fun _ => ?_
            refine (roomy.trans assigned).trans ⟨holdings_write rfl rfl rfl rfl rfl, rfl, rfl, ?_⟩
            intro valid
            refine validate_of_occupied valid ?_
            have bound := room made
            rw [← kept] at bound
            refine le_trans (le_of_eq ?_) bound
            simp only [noteResident, useBlock, occupied]
            omega

theorem markBlockNonResident_same (layout : Layout) (arena : Arena) (index : Nat) :
    SameHoldings layout arena (arena.markBlockNonResident layout index).2 := by
  unfold markBlockNonResident
  rcases onBlock_cases layout arena index _ with failed | ⟨valid, inRange, checked⟩
  · rw [failed]
    exact SameHoldings.refl layout arena
  · rw [checked]
    split
    · exact SameHoldings.refl layout arena
    · split
      · exact SameHoldings.refl layout arena
      · split
        · exact SameHoldings.refl layout arena
        · split
          · exact evictResidentBlock_same layout arena index
          · exact sameHoldings_write rfl rfl rfl rfl rfl rfl rfl (Nat.le_refl _)

/-- Payloads moved into and out of residency, one block after another. -/
inductive Moved (layout : Layout) (before : Arena) : Arena → Prop where
  | refl : Moved layout before before
  | resident {after : Arena} (moved : Moved layout before after) (index : Nat) :
      Moved layout before (after.markBlockResident layout index).2
  | nonResident {after : Arena} (moved : Moved layout before after) (index : Nat) :
      Moved layout before (after.markBlockNonResident layout index).2

theorem Moved.trans {first second third : Arena} (one : Moved layout first second)
    (two : Moved layout second third) : Moved layout first third := by
  induction two with
  | refl => exact one
  | resident _ index ih => exact ih.resident index
  | nonResident _ index ih => exact ih.nonResident index

theorem Moved.same {before after : Arena} (moved : Moved layout before after) :
    SameHoldings layout before after := by
  induction moved with
  | refl => exact SameHoldings.refl layout before
  | resident _ index ih => exact ih.trans (markBlockResident_same layout _ index)
  | nonResident _ index ih => exact ih.trans (markBlockNonResident_same layout _ index)

end Residency

section Release

/-- The first half of `freeBlock`: the block gives up its resident slot. -/
theorem freeBlock_vacated (layout : Layout) (arena : Arena) (index : Nat) :
    SameHoldings layout arena
      (if (arena.blocks index).shared then
        let released := (arena.releaseResidentSlot layout index).2
        if released.sharedBlockCount = 0 then (SparkStatus.internalError, released)
        else (.ok, { released with sharedBlockCount := released.sharedBlockCount - 1 })
      else if (arena.blocks index).resident then
        andThen (arena.releaseResidentSlot layout index) fun arena =>
          if arena.residentBlockCount = 0 then (.internalError, arena)
          else (.ok, { arena with residentBlockCount := arena.residentBlockCount - 1 })
      else (.ok, arena)).2 := by
  obtain ⟨released, -⟩ := releaseResidentSlot_same layout arena index
  split
  · dsimp only
    split
    · exact released
    · exact released.trans ⟨rfl, rfl, rfl, fun valid =>
        validate_of_occupied valid (occupied_le_of_validate valid)⟩
  · split
    · refine andThen_preserves released fun _ => ?_
      split
      · exact released
      · refine released.trans ⟨rfl, rfl, rfl, fun valid => ?_⟩
        have fits := occupied_le_of_validate valid
        refine validate_of_occupied valid (le_trans ?_ fits)
        simp only [occupied]
        omega
    · exact SameHoldings.refl layout arena

/-- Freeing a block: a failure keeps the holdings, a block that is free stays so, and otherwise
an unreferenced block goes to the head of the free list. -/
theorem freeBlock_cases (layout : Layout) (arena : Arena) (index : Nat) :
    (validate layout arena = .ok → validate layout (arena.freeBlock layout index).2 = .ok) ∧
      (((arena.freeBlock layout index).1 ≠ .ok ∧
          (arena.freeBlock layout index).2.holdings = arena.holdings) ∨
        ((arena.freeBlock layout index).1 = .ok ∧ (arena.blocks index).allocated = false ∧
          (arena.freeBlock layout index).2 = arena) ∨
        ((arena.freeBlock layout index).1 = .ok ∧ index < layout.logicalBlockCount ∧
          (arena.blocks index).allocated = true ∧ (arena.blocks index).referenceCount = 0 ∧
          (arena.freeBlock layout index).2.holdings =
            { arena.holdings with
              allocated := update arena.holdings.allocated index false
              freeNext := update arena.holdings.freeNext index arena.holdings.freeHead
              freeHead := some index })) := by
  unfold freeBlock
  rcases onBlock_cases layout arena index _ with failed | ⟨valid, inRange, checked⟩
  · rw [failed]
    exact ⟨id, Or.inl ⟨by simp, rfl⟩⟩
  · rw [checked]
    split
    · rename_i free
      exact ⟨id, Or.inr (Or.inl ⟨rfl, by simpa using free, rfl⟩)⟩
    · rename_i allocated
      split
      · exact ⟨id, Or.inl ⟨by simp, rfl⟩⟩
      · rename_i unreferenced
        split
        · exact ⟨id, Or.inl ⟨by simp, rfl⟩⟩
        · have vacated := freeBlock_vacated layout arena index
          revert vacated
          generalize (if (arena.blocks index).shared = true then _ else _) = vacating
          intro vacated
          by_cases succeeded : vacating.1 = .ok
          · rw [andThen_ok succeeded]
            refine ⟨fun valid => ?_, Or.inr (Or.inr ⟨rfl, inRange, by simpa using allocated,
              by simpa using unreferenced, ?_⟩)⟩
            · have still := vacated.validates valid
              exact validate_of_occupied still (occupied_le_of_validate still)
            · have same := vacated.holdings
              simp only [holdings, Holdings.mk.injEq] at same
              obtain ⟨sameAllocated, sameReferences, sameNext, sameHead⟩ := same
              simp only [holdings, useBlock, Holdings.mk.injEq, and_true]
              refine ⟨?_, ?_, ?_⟩
              · rw [← sameAllocated]
                funext i
                by_cases here : i = index <;> simp [here]
              · rw [← sameReferences]
                funext i
                by_cases here : i = index <;> simp [here]
              · rw [← sameNext, ← sameHead]
                funext i
                by_cases here : i = index <;> simp [here]
          · rw [andThen_failed succeeded]
            exact ⟨vacated.validates, .inl ⟨succeeded, vacated.holdings⟩⟩

theorem reset_cases (layout : Layout) (arena : Arena) :
    ((arena.reset layout).1 ≠ .ok ∧ (arena.reset layout).2 = arena ∧
        validate layout arena ≠ .ok) ∨
      ((arena.reset layout).1 = .ok ∧
        (arena.reset layout).2.holdings = (initial layout).holdings ∧
        validate layout (arena.reset layout).2 = .ok) := by
  unfold reset
  split
  · rename_i invalid
    exact .inl ⟨invalid, rfl, invalid⟩
  · rename_i valid
    refine .inr ⟨rfl, rfl, ?_⟩
    refine validate_of_occupied (by simpa using valid) ?_
    simp [occupied, startOver, initial]

end Release

end Arena

end Sparkpipe.KvCache
