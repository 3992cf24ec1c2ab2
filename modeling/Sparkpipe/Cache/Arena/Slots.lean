import Sparkpipe.Cache.Arena.Calls
import Sparkpipe.Cache.Arena.Rules
import Sparkpipe.Lib.Along

/-!
# Slots, counters and the free list of an arena

`Placed` is what the arena keeps between calls: every private block that is
resident or reserved leads to a slot that leads back, the three counters count the
blocks with their flags, and the free list holds the blocks that are not handed
out. Recycling keeps the residency of a block but not what kind it is, so a shared
block that is recycled turns into a private one with a slot of the shared window.
-/

namespace Sparkpipe.KvCache

open Function Sparkpipe.Chain

/-- The flags and the slot of one block agree. -/
structure Block.Sound (block : Block) : Prop where
  exclusive : block.resident = true → block.residencyReserved = false
  allocated : block.resident = true ∨ block.residencyReserved = true → block.allocated = true
  slotted : block.residentSlotIndex.isSome = (block.resident || block.residencyReserved)
  shared : block.shared = true → block.resident = true
  counted : block.residencyReferenceCount ≤ maxU32

/-- A block without a page. -/
theorem Block.Sound.absent {block : Block} (absent : block.resident = false)
    (unreserved : block.residencyReserved = false) (unshared : block.shared = false)
    (slotless : block.residentSlotIndex = none)
    (counted : block.residencyReferenceCount ≤ maxU32) : block.Sound := by
  refine ⟨?_, ?_, ?_, ?_, counted⟩
  · simp [absent]
  · simp [absent, unreserved]
  · simp [absent, unreserved, slotless]
  · simp [unshared]

/-- A resident block in a slot of the arena's own. -/
def Block.isPrivate (block : Block) : Bool := block.resident && !block.shared

namespace Arena

variable {layout : Layout} {arena before after : Arena} {index : Nat} {block : Block}

/-- Slots and blocks lead to each other, and the counters and the free list agree with the flags. -/
structure Placed (layout : Layout) (arena : Arena) : Prop where
  sound : ∀ b < layout.logicalBlockCount, (arena.blocks b).Sound
  leads : ∀ b < layout.logicalBlockCount, ∀ slot, (arena.blocks b).shared = false →
    (arena.blocks b).residentSlotIndex = some slot →
    slot < layout.residentBlockCapacity ∧ arena.residentSlots slot = some b
  back : ∀ slot < layout.residentBlockCapacity, ∀ b, arena.residentSlots slot = some b →
    b < layout.logicalBlockCount ∧ (arena.blocks b).residentSlotIndex = some slot ∧
      (arena.blocks b).shared = false
  residents : arena.residentBlockCount = tally layout.logicalBlockCount fun b =>
    (arena.blocks b).isPrivate
  reserved : arena.reservedBlockCount = tally layout.logicalBlockCount fun b =>
    (arena.blocks b).residencyReserved
  shared : arena.sharedBlockCount = tally layout.logicalBlockCount fun b => (arena.blocks b).shared
  free : Listed (fun b => (arena.blocks b).freeNext) arena.freeLogicalBlockHead fun b =>
    b < layout.logicalBlockCount ∧ (arena.blocks b).allocated = false

/-- The counters move by what the written block counts for. -/
structure Recounted (before after : Arena) (old new : Block) : Prop where
  residents : after.residentBlockCount + old.isPrivate.toNat =
    before.residentBlockCount + new.isPrivate.toNat
  reserved : after.reservedBlockCount + old.residencyReserved.toNat =
    before.reservedBlockCount + new.residencyReserved.toNat
  shared : after.sharedBlockCount + old.shared.toNat = before.sharedBlockCount + new.shared.toNat

/-- The slots after a write of one block: those of the others stay, and each that leads to the block is
its own. -/
structure Reseated (layout : Layout) (before after : Arena) (index : Nat) (block : Block) : Prop where
  others : ∀ b, b ≠ index → ∀ slot < layout.residentBlockCapacity,
    before.residentSlots slot = some b → after.residentSlots slot = some b
  back : ∀ slot < layout.residentBlockCapacity, ∀ b, after.residentSlots slot = some b →
    (b = index ∧ block.residentSlotIndex = some slot ∧ block.shared = false) ∨
      (b ≠ index ∧ before.residentSlots slot = some b)

namespace Reseated

variable (back : ∀ slot < layout.residentBlockCapacity, ∀ b, before.residentSlots slot = some b →
  b < layout.logicalBlockCount ∧ (before.blocks b).residentSlotIndex = some slot ∧
    (before.blocks b).shared = false)
include back

/-- The slots lead back to their blocks as before. -/
theorem leadsBack (reseated : Reseated layout before after index block) (inRange : index < layout.logicalBlockCount)
    (blocks : after.blocks = update before.blocks index block) :
    ∀ slot < layout.residentBlockCapacity, ∀ b, after.residentSlots slot = some b →
      b < layout.logicalBlockCount ∧ (after.blocks b).residentSlotIndex = some slot ∧
        (after.blocks b).shared = false := by
  intro slot inCapacity b held
  rw [blocks]
  rcases reseated.back slot inCapacity b held with ⟨here, there, unshared⟩ | ⟨apart, held⟩
  · rw [here, update_self]
    exact ⟨inRange, there, unshared⟩
  · rw [update_of_ne apart]
    exact back slot inCapacity b held

/-- The block keeps its slot, if it has one. -/
theorem keep (slots : after.residentSlots = before.residentSlots)
    (slot : block.residentSlotIndex = (before.blocks index).residentSlotIndex)
    (shared : (before.blocks index).shared = false → block.shared = false) :
    Reseated layout before after index block := by
  constructor
  · intro b _ s _ held
    rwa [slots]
  · intro s inCapacity b held
    rw [slots] at held
    by_cases here : b = index
    · obtain ⟨_, there, unshared⟩ := back s inCapacity b held
      rw [here] at there unshared
      exact .inl ⟨here, slot.trans there, shared unshared⟩
    · exact .inr ⟨here, held⟩

/-- The block leaves its slot empty. -/
theorem drop {slot : Nat} (was : (before.blocks index).residentSlotIndex = some slot)
    (held : before.residentSlots slot = some index)
    (slots : after.residentSlots = update before.residentSlots slot none) :
    Reseated layout before after index block := by
  constructor
  · intro b apart s _ there
    have other : s ≠ slot := by
      rintro rfl
      exact apart (Option.some.inj (there.symm.trans held))
    rw [slots, update_of_ne other]
    exact there
  · intro s inCapacity b there
    have other : s ≠ slot := by
      rintro rfl
      rw [slots, update_self] at there
      cases there
    rw [slots, update_of_ne other] at there
    refine .inr ⟨?_, there⟩
    rintro rfl
    have leads := (back s inCapacity b there).2.1
    exact other (Option.some.inj (leads.symm.trans was))

/-- A block without a slot takes an empty one. -/
theorem take {slot : Nat} (empty : before.residentSlots slot = none)
    (without : (before.blocks index).residentSlotIndex = none)
    (slots : after.residentSlots = update before.residentSlots slot (some index))
    (taken : block.residentSlotIndex = some slot) (unshared : block.shared = false) :
    Reseated layout before after index block := by
  constructor
  · intro b _ s _ there
    have other : s ≠ slot := by
      rintro rfl
      rw [empty] at there
      cases there
    rw [slots, update_of_ne other]
    exact there
  · intro s inCapacity b there
    by_cases here : s = slot
    · rw [here, slots, update_self] at there
      rw [here]
      exact .inl ⟨(Option.some.inj there).symm, taken, unshared⟩
    · rw [slots, update_of_ne here] at there
      refine .inr ⟨?_, there⟩
      rintro rfl
      have leads := (back s inCapacity b there).2.1
      rw [without] at leads
      cases leads

end Reseated

namespace Placed

variable (placed : Placed layout before)
include placed

section

variable (inRange : index < layout.logicalBlockCount)
  (blocks : after.blocks = update before.blocks index block) (sound : block.Sound)
  (recounted : Recounted before after (before.blocks index) block)
  (free : Listed (fun b => (after.blocks b).freeNext) after.freeLogicalBlockHead fun b =>
    b < layout.logicalBlockCount ∧ (after.blocks b).allocated = false)
include inRange blocks sound recounted free

/-- A write of one block, with the slots, the counters and the free list brought up to date. -/
theorem write
    (own : ∀ slot, block.shared = false → block.residentSlotIndex = some slot →
      slot < layout.residentBlockCapacity ∧ after.residentSlots slot = some index)
    (reseated : Reseated layout before after index block) : Placed layout after := by
  have residents := tally_update before.blocks block Block.isPrivate inRange
  have reserved := tally_update before.blocks block Block.residencyReserved inRange
  have shared := tally_update before.blocks block Block.shared inRange
  refine ⟨?_, ?_, reseated.leadsBack placed.back inRange blocks, ?_, ?_, ?_, free⟩
  · intro b bound
    rw [blocks]
    by_cases here : b = index
    · rw [here, update_self]
      exact sound
    · rw [update_of_ne here]
      exact placed.sound b bound
  · intro b bound slot unshared there
    rw [blocks] at unshared there
    by_cases here : b = index
    · rw [here, update_self] at unshared there
      rw [here]
      exact own slot unshared there
    · rw [update_of_ne here] at unshared there
      obtain ⟨inCapacity, held⟩ := placed.leads b bound slot unshared there
      exact ⟨inCapacity, reseated.others b here slot inCapacity held⟩
  · have counted := recounted.residents
    have was := placed.residents
    rw [blocks]
    omega
  · have counted := recounted.reserved
    have was := placed.reserved
    rw [blocks]
    omega
  · have counted := recounted.shared
    have was := placed.shared
    rw [blocks]
    omega

/-- The block keeps its slot, if it has one, and its kind. -/
theorem keepSlot (slots : after.residentSlots = before.residentSlots)
    (slot : block.residentSlotIndex = (before.blocks index).residentSlotIndex)
    (shared : block.shared = (before.blocks index).shared) : Placed layout after := by
  refine placed.write inRange blocks sound recounted free ?_
    (.keep placed.back slots slot fun unshared => shared.trans unshared)
  intro s unshared there
  rw [slots]
  exact placed.leads index inRange s (shared.symm.trans unshared) (slot.symm.trans there)

/-- A private block leaves its slot empty. -/
theorem dropSlot {slot : Nat} (was : (before.blocks index).residentSlotIndex = some slot)
    (unshared : (before.blocks index).shared = false)
    (slots : after.residentSlots = update before.residentSlots slot none)
    (gone : block.residentSlotIndex = none) : Placed layout after := by
  obtain ⟨_, held⟩ := placed.leads index inRange slot unshared was
  refine placed.write inRange blocks sound recounted free ?_ (.drop placed.back was held slots)
  intro s _ there
  rw [gone] at there
  cases there

/-- A block without a slot takes an empty one. -/
theorem takeSlot {slot : Nat} (inCapacity : slot < layout.residentBlockCapacity)
    (empty : before.residentSlots slot = none)
    (without : (before.blocks index).residentSlotIndex = none)
    (slots : after.residentSlots = update before.residentSlots slot (some index))
    (taken : block.residentSlotIndex = some slot) (unshared : block.shared = false) :
    Placed layout after := by
  refine placed.write inRange blocks sound recounted free ?_
    (.take placed.back empty without slots taken unshared)
  intro s _ there
  have same : slot = s := Option.some.inj (taken.symm.trans there)
  subst same
  rw [slots, update_self]
  exact ⟨inCapacity, rfl⟩

end

/-- The free list when the block is neither handed out nor taken back. -/
theorem free_kept (blocks : after.blocks = update before.blocks index block)
    (head : after.freeLogicalBlockHead = before.freeLogicalBlockHead)
    (allocated : block.allocated = (before.blocks index).allocated)
    (next : block.freeNext = (before.blocks index).freeNext) :
    Listed (fun b => (after.blocks b).freeNext) after.freeLogicalBlockHead fun b =>
      b < layout.logicalBlockCount ∧ (after.blocks b).allocated = false := by
  have kept : ∀ b, (after.blocks b).allocated = (before.blocks b).allocated ∧
      (after.blocks b).freeNext = (before.blocks b).freeNext := by
    intro b
    rw [blocks]
    by_cases here : b = index
    · rw [here, update_self]
      exact ⟨allocated, next⟩
    · rw [update_of_ne here]
      exact ⟨rfl, rfl⟩
  rw [head]
  apply placed.free.congr
  · intro b
    rw [(kept b).1]
  · intro b _
    exact (kept b).2

/-- The block changes in nothing that the slots, the counters and the free list depend on. -/
theorem touch (inRange : index < layout.logicalBlockCount)
    (blocks : after.blocks = update before.blocks index block)
    (slots : after.residentSlots = before.residentSlots)
    (head : after.freeLogicalBlockHead = before.freeLogicalBlockHead)
    (counts : after.residentBlockCount = before.residentBlockCount ∧
      after.reservedBlockCount = before.reservedBlockCount ∧
      after.sharedBlockCount = before.sharedBlockCount)
    (allocated : block.allocated = (before.blocks index).allocated)
    (resident : block.resident = (before.blocks index).resident)
    (reserved : block.residencyReserved = (before.blocks index).residencyReserved)
    (shared : block.shared = (before.blocks index).shared)
    (slot : block.residentSlotIndex = (before.blocks index).residentSlotIndex)
    (next : block.freeNext = (before.blocks index).freeNext)
    (references : block.residencyReferenceCount ≤ maxU32) : Placed layout after := by
  have was := placed.sound index inRange
  refine placed.keepSlot inRange blocks ⟨?_, ?_, ?_, ?_, references⟩ ?_
    (placed.free_kept blocks head allocated next) slots slot shared
  · rw [resident, reserved]
    exact was.exclusive
  · rw [resident, reserved, allocated]
    exact was.allocated
  · rw [slot, resident, reserved]
    exact was.slotted
  · rw [shared, resident]
    exact was.shared
  · constructor
    · rw [counts.1, Block.isPrivate, Block.isPrivate, resident, shared]
    · rw [counts.2.1, reserved]
    · rw [counts.2.2, shared]

/-- Fields beside the blocks, the slots, the counters and the free list do not matter. -/
theorem congr (blocks : after.blocks = before.blocks)
    (slots : after.residentSlots = before.residentSlots)
    (head : after.freeLogicalBlockHead = before.freeLogicalBlockHead)
    (residents : after.residentBlockCount = before.residentBlockCount)
    (reserved : after.reservedBlockCount = before.reservedBlockCount)
    (shared : after.sharedBlockCount = before.sharedBlockCount) : Placed layout after := by
  refine ⟨?_, ?_, ?_, ?_, ?_, ?_, ?_⟩
  · rw [blocks]
    exact placed.sound
  · rw [blocks, slots]
    exact placed.leads
  · rw [blocks, slots]
    exact placed.back
  · rw [blocks, residents]
    exact placed.residents
  · rw [blocks, reserved]
    exact placed.reserved
  · rw [blocks, shared]
    exact placed.shared
  · rw [blocks, head]
    exact placed.free

end Placed

end Arena

end Sparkpipe.KvCache
