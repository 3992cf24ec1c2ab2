import Sparkpipe.Cache.Arena.Calls
import Sparkpipe.Cache.Arena.Rules

/-!
# The operations on a tended arena

Most operations write an arena in a few ways only: they use a block, count something, let a
block out of residency, or seat it in an empty slot. A property that each of these writes keeps
is kept by the operations that do nothing else.
-/

namespace Sparkpipe.KvCache

open Function

/-- Nothing that the residency of a block depends on has changed. -/
structure Block.Same (before after : Block) : Prop where
  allocated : after.allocated = before.allocated
  resident : after.resident = before.resident
  reserved : after.residencyReserved = before.residencyReserved
  shared : after.shared = before.shared
  slot : after.residentSlotIndex = before.residentSlotIndex
  next : after.freeNext = before.freeNext
  references : after.residencyReferenceCount = before.residencyReferenceCount

/-- A block that is handed out and has no page. -/
structure Block.Vacant (block : Block) : Prop where
  allocated : block.allocated = true
  absent : block.resident = false
  unreserved : block.residencyReserved = false

/-- A block that has become resident in a slot of the arena. -/
structure Block.Seated (before after : Block) (slot : Nat) : Prop where
  allocated : after.allocated = true
  resident : after.resident = true
  unreserved : after.residencyReserved = false
  unshared : after.shared = false
  slot : after.residentSlotIndex = some slot
  next : after.freeNext = before.freeNext
  references : after.residencyReferenceCount = before.residencyReferenceCount

/-- The operations that hand out, take back or plan with blocks, and the reset. -/
def Call.rewrites : Call → Bool
  | .acquireBlock | .recycleBlock _ | .adoptSharedBlock _ | .freeBlock _ | .reset => true
  | .buildPrefetchPlanFromSourceBlocks _ _ | .buildPrefetchPlan _ _ | .buildNextPrefetchPlan _ _ _ => true
  | .markPrefetchPlanResident _ | .cancelPrefetchPlan _ => true
  | _ => false

namespace Arena

variable {layout : Layout} {arena before after : Arena} {index : Nat} {P : Arena → Prop}

/-- The slots, the counters and the free list are unchanged. -/
structure Beside (before after : Arena) : Prop where
  slots : after.residentSlots = before.residentSlots
  head : after.freeLogicalBlockHead = before.freeLogicalBlockHead
  residents : after.residentBlockCount = before.residentBlockCount
  reserved : after.reservedBlockCount = before.reservedBlockCount
  shared : after.sharedBlockCount = before.sharedBlockCount

/-- A block was written to become resident in an empty slot. -/
structure Seats (before after : Arena) (index slot : Nat) (block : Block) : Prop where
  empty : before.residentSlots slot = none
  blocks : after.blocks = update before.blocks index block
  slots : after.residentSlots = update before.residentSlots slot (some index)
  head : after.freeLogicalBlockHead = before.freeLogicalBlockHead
  residents : after.residentBlockCount = before.residentBlockCount + 1
  reserved : after.reservedBlockCount = before.reservedBlockCount
  shared : after.sharedBlockCount = before.sharedBlockCount

/-- The writes that keep a property of the arena, and what they ask of it. -/
structure Tended (layout : Layout) (P : Arena → Prop) : Prop where
  back : ∀ {arena}, P arena → ∀ slot < layout.residentBlockCapacity, ∀ b, arena.residentSlots slot = some b →
    b < layout.logicalBlockCount ∧ (arena.blocks b).residentSlotIndex = some slot ∧ (arena.blocks b).shared = false
  slotless : ∀ {arena index}, P arena → index < layout.logicalBlockCount → (arena.blocks index).Vacant →
    (arena.blocks index).residentSlotIndex = none
  unshared : ∀ {arena index}, P arena → index < layout.logicalBlockCount → (arena.blocks index).resident = false →
    (arena.blocks index).shared = false
  counted : ∀ {arena index}, P arena → index < layout.logicalBlockCount →
    (arena.blocks index).residencyReferenceCount ≤ maxU32
  congr : ∀ {before after}, P before → after.blocks = before.blocks → Beside before after → P after
  touch : ∀ {before after index block}, P before → index < layout.logicalBlockCount →
    after.blocks = update before.blocks index block → Beside before after → (before.blocks index).Same block → P after
  drop : ∀ {arena index}, P arena → index < layout.logicalBlockCount → (arena.blocks index).shared = false →
    (arena.blocks index).resident = true → (arena.blocks index).residencyReserved = false →
    (arena.blocks index).residencyReferenceCount = 0 → P (arena.dropResidency layout index).2
  occupy : ∀ {before after index slot block}, P before → index < layout.logicalBlockCount →
    (before.blocks index).Vacant → slot < layout.residentBlockCapacity → Seats before after index slot block →
    (before.blocks index).Seated block slot → P after
  pins : ∀ {arena index references}, P arena → index < layout.logicalBlockCount →
    (arena.blocks index).resident = true → (arena.blocks index).residencyReserved = false → references ≤ maxU32 →
    P (arena.useBlock index { arena.blocks index with residencyReferenceCount := references })

namespace Placed

/-- The arena in which a block has taken a slot, before anything says why. -/
def seat (arena : Arena) (index slot scan : Nat) : Arena :=
  { arena with
    residentSlots := update arena.residentSlots slot (some index)
    nextResidentSlotScan := scan
    blocks := update arena.blocks index
      { arena.blocks index with residentSlotIndex := some slot } }

/-- A block without a slot takes an empty slot of the arena, or none. -/
theorem assignResidentSlot_cases (layout : Layout)
    (without : (arena.blocks index).residentSlotIndex = none) :
    ((arena.assignResidentSlot layout index).1 ≠ .ok ∧
        (arena.assignResidentSlot layout index).2 = arena) ∨
      ∃ slot < layout.residentBlockCapacity, arena.residentSlots slot = none ∧
        ∃ scan, arena.assignResidentSlot layout index = (.ok, seat arena index slot scan) := by
  unfold Arena.assignResidentSlot
  rw [if_neg (by simp [without])]
  dsimp only
  split
  · exact Or.inl ⟨by simp, rfl⟩
  · rename_i slot found
    refine .inr ⟨slot, ?_, ?_, _, rfl⟩
    · obtain ⟨offset, member, rfl⟩ := List.mem_map.mp (List.mem_of_find?_eq_some found)
      exact Nat.mod_lt _ (Nat.lt_of_le_of_lt (Nat.zero_le _) (List.mem_range.mp member))
    · simpa using List.find?_some found

end Placed

namespace Tended

variable (tended : Tended layout P)
include tended

/-- Another use of a block. -/
theorem uses (holds : P arena) (inRange : index < layout.logicalBlockCount) {block : Block}
    (same : (arena.blocks index).Same block) : P (arena.useBlock index block) :=
  tended.touch holds inRange rfl ⟨rfl, rfl, rfl, rfl, rfl⟩
    ⟨same.allocated, same.resident, same.reserved, same.shared, same.slot, same.next, same.references⟩

section Eviction

/-- Eviction of a block that is not shared. -/
theorem evictResidentBlock (holds : P arena) (inRange : index < layout.logicalBlockCount)
    (unshared : (arena.blocks index).shared = false) : P (arena.evictResidentBlock layout index).2 := by
  unfold Arena.evictResidentBlock
  dsimp only
  split
  · exact holds
  rename_i evictable
  simp only [not_or, Bool.not_eq_true, Bool.not_eq_false', ne_eq, not_not] at evictable
  obtain ⟨-, resident, unreserved, unpinned⟩ := evictable
  split
  · exact tended.drop holds inRange unshared resident unreserved unpinned
  split
  · split
    · exact tended.touch holds inRange rfl ⟨rfl, rfl, rfl, rfl, rfl⟩ ⟨rfl, rfl, rfl, rfl, rfl, rfl, rfl⟩
    split
    · exact tended.congr holds rfl ⟨rfl, rfl, rfl, rfl, rfl⟩
    split
    · exact tended.congr holds rfl ⟨rfl, rfl, rfl, rfl, rfl⟩
    · apply tended.drop
      · exact tended.touch holds inRange rfl ⟨rfl, rfl, rfl, rfl, rfl⟩ ⟨rfl, rfl, rfl, rfl, rfl, rfl, rfl⟩
      · exact inRange
      · simpa [setBlock] using unshared
      · simpa [setBlock] using resident
      · simpa [setBlock] using unreserved
      · simpa [setBlock] using unpinned
  · exact tended.drop holds inRange unshared resident unreserved unpinned

theorem trimResidentBlocksProtecting (holds : P arena) (guarded : List Nat) (target : Nat) :
    P (arena.trimResidentBlocksProtecting layout guarded target).2 := by
  apply trimResidentBlocksProtecting_preserves _ _ holds
  · intro now index slot inRange inCapacity held holds
    exact tended.evictResidentBlock holds inRange (tended.back holds slot inCapacity index held).2.2
  · intro now holds
    exact tended.congr holds rfl ⟨rfl, rfl, rfl, rfl, rfl⟩

theorem markBlockNonResident (holds : P arena) (index : Nat) : P (arena.markBlockNonResident layout index).2 := by
  refine onBlock_preserves holds fun _ inRange => ?_
  split
  · exact holds
  split
  · exact holds
  split
  · exact holds
  rename_i unshared
  split
  · exact tended.evictResidentBlock holds inRange (by simpa using unshared)
  · exact tended.uses holds inRange ⟨rfl, rfl, rfl, rfl, rfl, rfl, rfl⟩

theorem parkResidentBlock (holds : P arena) (index : Nat) : P (arena.parkResidentBlock layout index).2 := by
  refine onBlock_preserves holds fun _ inRange => ?_
  split
  · exact holds
  split
  · exact holds
  · rename_i unshared
    exact tended.evictResidentBlock holds inRange (by simpa using unshared)

end Eviction

section Seating

variable (holds : P arena)
include holds

/-- Making room does not touch a block that is not resident. -/
theorem makeRoomForResidentBlocks {other : Nat} (absent : (arena.blocks other).resident = false)
    (guarded : List Nat) (added : Nat) :
    P (arena.makeRoomForResidentBlocks layout guarded added).2 ∧
      (arena.makeRoomForResidentBlocks layout guarded added).2.blocks other = arena.blocks other := by
  refine makeRoomForResidentBlocks_preserves (P := fun now => P now ∧ now.blocks other = arena.blocks other) ?_ ?_
    ⟨holds, rfl⟩ guarded added
  · rintro now index slot inRange inCapacity held ⟨holds, same⟩
    refine ⟨tended.evictResidentBlock holds inRange (tended.back holds slot inCapacity index held).2.2, ?_⟩
    rw [evictResidentBlock_apart, same]
    intro _
    rw [same]
    exact absent
  · rintro now ⟨holds, same⟩
    exact ⟨tended.congr holds rfl ⟨rfl, rfl, rfl, rfl, rfl⟩, same⟩

/-- Room is made for a block without a page: it takes a slot of an arena in which it is as it was,
or the operation ends there. -/
theorem makeRoom_seats (inRange : index < layout.logicalBlockCount)
    (vacant : (arena.blocks index).Vacant) (guarded : List Nat) (last : Arena → SparkStatus × Arena) :
    ∃ now, P now ∧ now.blocks index = arena.blocks index ∧
      (arena.makeRoomForResidentBlocks layout guarded 1).2 = now ∧
      let result := andThen (arena.makeRoomForResidentBlocks layout guarded 1) fun arena =>
        andThen (arena.assignResidentSlot layout index) last
      ((result.1 ≠ .ok ∧ result.2 = now) ∨
        ∃ slot < layout.residentBlockCapacity, now.residentSlots slot = none ∧
          ∃ scan, result = last (Placed.seat now index slot scan)) := by
  obtain ⟨roomy, same⟩ := tended.makeRoomForResidentBlocks holds vacant.absent guarded 1
  refine ⟨_, roomy, same, rfl, ?_⟩
  dsimp only
  by_cases made : (arena.makeRoomForResidentBlocks layout guarded 1).1 = .ok
  · rw [andThen_ok made]
    have without : ((arena.makeRoomForResidentBlocks layout guarded 1).2.blocks index).residentSlotIndex = none := by
      rw [same]
      exact tended.slotless holds inRange vacant
    rcases Placed.assignResidentSlot_cases layout without with
      ⟨failed, unchanged⟩ | ⟨slot, inCapacity, empty, scan, assigned⟩
    · rw [andThen_failed failed]
      exact .inl ⟨failed, unchanged⟩
    · rw [assigned, andThen_ok rfl]
      exact .inr ⟨slot, inCapacity, empty, scan, rfl⟩
  · rw [andThen_failed made]
    exact .inl ⟨made, rfl⟩

/-- Room is made for a block, which takes a slot and becomes resident. -/
theorem makeRoom_occupies (inRange : index < layout.logicalBlockCount)
    (vacant : (arena.blocks index).Vacant) (guarded : List Nat) (change : Block → Block)
    (kept : ∀ block, (change block).resident = true ∧
      ({ block with resident := true } : Block).Same (change block)) :
    P (andThen (arena.makeRoomForResidentBlocks layout guarded 1) fun arena =>
      andThen (arena.assignResidentSlot layout index) fun arena =>
        (.ok, { arena with residentBlockCount := arena.residentBlockCount + 1 }.useBlock index
          (change (arena.blocks index)))).2 := by
  obtain ⟨now, stays, same, -, ⟨_, ended⟩ | ⟨slot, inCapacity, empty, scan, result⟩⟩ :=
    tended.makeRoom_seats holds inRange vacant guarded fun arena =>
      (.ok, { arena with residentBlockCount := arena.residentBlockCount + 1 }.useBlock index
        (change (arena.blocks index)))
  · rw [ended]
    exact stays
  · rw [result]
    have seated : (Placed.seat now index slot scan).blocks index =
        { arena.blocks index with residentSlotIndex := some slot } := by
      simp [Placed.seat, same]
    obtain ⟨resident, changed⟩ := kept ((Placed.seat now index slot scan).blocks index)
    have still : (now.blocks index).Vacant := same.symm ▸ vacant
    have unshared := tended.unshared stays inRange still.absent
    refine tended.occupy stays inRange still inCapacity ⟨empty, update_idem .., rfl, rfl, rfl, rfl, rfl⟩ ?_
    constructor
    · exact changed.allocated.trans (by rw [seated]; exact vacant.allocated)
    · exact resident
    · exact changed.reserved.trans (by rw [seated]; exact vacant.unreserved)
    · refine changed.shared.trans ?_
      rw [seated]
      exact same ▸ unshared
    · exact changed.slot.trans (by rw [seated])
    · exact changed.next.trans (by rw [seated, same])
    · exact changed.references.trans (by rw [seated, same])

theorem markBlockResident (index : Nat) : P (arena.markBlockResident layout index).2 := by
  refine onBlock_preserves holds fun _ inRange => ?_
  split
  · exact holds
  rename_i allocated
  split
  · exact holds
  rename_i idle
  simp only [not_or, Bool.not_eq_true] at idle
  split
  · rename_i resident
    exact tended.uses holds inRange ⟨rfl, resident.symm, rfl, rfl, rfl, rfl, rfl⟩
  rename_i absent
  split
  · exact holds
  · exact tended.makeRoom_occupies holds inRange ⟨by simpa using allocated, by simpa using absent, idle.1⟩ [index]
      (fun block => { block with resident := true }) fun _ => ⟨rfl, rfl, rfl, rfl, rfl, rfl, rfl, rfl⟩

theorem markParkedBlockResident (index : Nat) :
    P (arena.markParkedBlockResident layout index).2 := by
  refine onBlock_preserves holds fun _ inRange => ?_
  split
  · exact holds
  rename_i backed
  simp only [not_or, Bool.not_eq_true, Bool.not_eq_false'] at backed
  split
  · exact holds
  rename_i idle
  simp only [not_or, Bool.not_eq_true] at idle
  split
  · exact tended.uses holds inRange ⟨rfl, rfl, rfl, rfl, rfl, rfl, rfl⟩
  · rename_i absent
    exact tended.makeRoom_occupies holds inRange ⟨backed.1, by simpa using absent, idle.1⟩ [index]
      (fun block => { block with
        resident := true
        restoreCount :=
          if block.restoreCount ≠ maxU32 then block.restoreCount + 1 else block.restoreCount })
      fun _ => ⟨rfl, rfl, rfl, rfl, rfl, rfl, rfl, rfl⟩

theorem adoptResidentSlot (index slot : Nat) :
    P (arena.adoptResidentSlot layout index slot).2 := by
  refine onBlock_preserves holds fun _ inRange => ?_
  split
  · exact holds
  rename_i inCapacity
  split
  · exact holds
  rename_i free
  simp only [not_or, Bool.not_eq_true, Bool.not_eq_false', ne_eq, not_not] at free
  obtain ⟨allocated, absent, unreserved, -, -, empty⟩ := free
  exact tended.occupy holds inRange ⟨allocated, absent, unreserved⟩ (Nat.lt_of_not_le inCapacity)
    ⟨empty, rfl, rfl, rfl, rfl, rfl, rfl⟩
    ⟨allocated, rfl, unreserved, tended.unshared holds inRange absent, rfl, rfl, rfl⟩

end Seating

section Counting

theorem pinResidentBlock (holds : P arena) (index : Nat) : P (arena.pinResidentBlock layout index).2 := by
  refine onBlock_preserves holds fun _ inRange => ?_
  have counted := tended.counted holds inRange
  split
  · exact holds
  rename_i pinned
  simp only [not_or, Bool.not_eq_true, Bool.not_eq_false'] at pinned
  split
  · exact holds
  · exact tended.pins holds inRange pinned.2.1 pinned.2.2 (by omega)

theorem unpinResidentBlock (holds : P arena) (index : Nat) : P (arena.unpinResidentBlock layout index).2 := by
  refine onBlock_preserves holds fun _ inRange => ?_
  have counted := tended.counted holds inRange
  split
  · exact holds
  · rename_i pinned
    simp only [not_or, Bool.not_eq_true, Bool.not_eq_false'] at pinned
    exact tended.pins holds inRange pinned.2.1 pinned.2.2.1 (by omega)

theorem removeUnassignedResidentBlocks (holds : P arena) (count : Nat) :
    P (arena.removeUnassignedResidentBlocks layout count).2 := by
  rw [Arena.removeUnassignedResidentBlocks]
  split
  · exact holds
  split
  · exact holds
  split
  · exact holds
  · exact tended.congr holds rfl ⟨rfl, rfl, rfl, rfl, rfl⟩

theorem reserveUnassignedResidentBlocks (holds : P arena) (count : Nat) :
    P (arena.reserveUnassignedResidentBlocks layout count).2 := by
  rw [Arena.reserveUnassignedResidentBlocks]
  split
  · exact holds
  split
  · exact holds
  split
  · exact holds
  dsimp only
  split
  · have trimmed := tended.trimResidentBlocksProtecting holds [] (layout.residentBlockCapacity -
      arena.reservedBlockCount - arena.unassignedResidentBlockCount - count)
    exact andThen_preserves trimmed fun _ => tended.congr trimmed rfl ⟨rfl, rfl, rfl, rfl, rfl⟩
  · exact tended.congr holds rfl ⟨rfl, rfl, rfl, rfl, rfl⟩

end Counting

/-- What is left to show of an operation are the calls that rewrite. -/
theorem operate (holds : P arena) {call : Call} (rest : call.rewrites = true → P (arena.operate layout call).2) :
    P (arena.operate layout call).2 := by
  have pins := fun now index (holds : P now) => tended.pinResidentBlock holds index
  have unpins := fun now index (holds : P now) => tended.unpinResidentBlock holds index
  cases call with
  | reserveUnassignedResidentBlocks count => exact tended.reserveUnassignedResidentBlocks holds count
  | consumeUnassignedResidentBlocks count | releaseUnassignedResidentBlocks count =>
      exact tended.removeUnassignedResidentBlocks holds count
  | retainBlock index | releaseBlockReference index =>
    refine onBlock_preserves holds fun _ inRange => ?_
    split
    · exact holds
    · exact tended.uses holds inRange ⟨rfl, rfl, rfl, rfl, rfl, rfl, rfl⟩
  | pinResidentBlock index => exact pins arena index holds
  | unpinResidentBlock index => exact unpins arena index holds
  | pinResidentTable table => exact pinResidentTable_preserves pins unpins holds table
  | unpinResidentTable table => exact unpinResidentTable_preserves unpins holds table
  | markBlockDirty index =>
    refine onBlock_preserves holds fun _ inRange => ?_
    split
    · exact holds
    · exact tended.uses holds inRange ⟨rfl, rfl, rfl, rfl, rfl, rfl, rfl⟩
  | parkResidentBlock index => exact tended.parkResidentBlock holds index
  | trimResidentBlocks guarded target => exact tended.trimResidentBlocksProtecting holds guarded target
  | markBlockResident index => exact tended.markBlockResident holds index
  | adoptResidentSlot index slot => exact tended.adoptResidentSlot holds index slot
  | markParkedBlockResident index => exact tended.markParkedBlockResident holds index
  | setSharedWindow base count => exact holds
  | markBlockNonResident index => exact tended.markBlockNonResident holds index
  | evictResidentBlocksToLimit limit guarded =>
    simp only [Arena.operate, evictResidentBlocksToLimit]
    split
    · exact holds
    · exact evictToLimit_preserves (P := P) (fun now index holds => tended.markBlockNonResident holds index) holds limit
        guarded _
  | stampKeep pages priority deadline =>
    exact stampKeep_preserves (fun _ _ inRange holds => tended.touch holds inRange rfl ⟨rfl, rfl, rfl, rfl, rfl⟩
      ⟨rfl, rfl, rfl, rfl, rfl, rfl, rfl⟩) holds pages
  | _ => exact rest rfl

end Tended

end Arena

end Sparkpipe.KvCache
