import Sparkpipe.Cache.Arena.Capacity
import Sparkpipe.Cache.Arena.Reservations

/-!
# Prefetch plans are taken whole or not at all

While a plan is built, each of its blocks is lent one more reference, and blocks are evicted to make room. `Borrowing`
says how far the arena is from the one before: a plan that cannot be finished is cancelled entry by entry, and so is
one that its owner cancels, and with the last entry only the evictions are left.
-/

namespace Sparkpipe.KvCache

open Function

namespace Arena

variable {layout : Layout} {arena before after now : Arena} {index : Nat} {owners : Nat → Nat} {strict : Prop}
  {lent : List Nat}

section Eviction

/-- The callback refused the page of a block: nothing moves, and after an I/O error the block is marked. -/
structure Unparked (layout : Layout) (arena : Arena) (index : Nat) (result : SparkStatus × Arena) : Prop where
  refused : result.1 ≠ .ok
  callback : ∃ evict, layout.evictFunction = some evict ∧ result.1 = evict arena.evictCalls
  blocks : ∃ parkFailed, (result.1 = .ioError → parkFailed = true) ∧ result.2.blocks =
    update arena.blocks index { arena.blocks index with parkFailed := parkFailed }
  slots : result.2.residentSlots = arena.residentSlots
  counted : result.2.residentBlockCount = arena.residentBlockCount

/-- A block left its slot. -/
structure Unseated (arena : Arena) (index slot : Nat) (result : SparkStatus × Arena) : Prop where
  evicted : result.1 = .ok
  blocks : ∃ dirty backingValid parkFailed lastUsedEpoch, result.2.blocks =
    update arena.blocks index { arena.blocks index with
      resident := false
      residentSlotIndex := none
      dirty := dirty
      backingValid := backingValid
      parkFailed := parkFailed
      lastUsedEpoch := lastUsedEpoch }
  slots : result.2.residentSlots = update arena.residentSlots slot none
  counted : result.2.residentBlockCount = arena.residentBlockCount - 1

/-- A resident block that leaves its slot. -/
theorem dropResidency_unseats (layout : Layout) (arena : Arena) {slot : Nat}
    (own : (arena.blocks index).residentSlotIndex = some slot)
    (held : arena.residentSlots slot = some index) (inCapacity : slot < layout.residentBlockCapacity)
    (unshared : (arena.blocks index).shared = false) :
    Unseated arena index slot (arena.dropResidency layout index) := by
  have released : arena.releaseResidentSlot layout index = (.ok,
      { arena.setBlock index { arena.blocks index with residentSlotIndex := none } with
        residentSlots := update arena.residentSlots slot none
        nextResidentSlotScan := slot }) := by
    unfold releaseResidentSlot
    simp only [own, unshared, held]
    rw [if_neg (by simp), if_neg (by simp [Nat.not_le.mpr inCapacity])]
  rw [dropResidency, released, andThen_ok rfl]
  refine ⟨rfl, ⟨(arena.blocks index).dirty, (arena.blocks index).backingValid, (arena.blocks index).parkFailed,
    arena.epoch + 1, ?_⟩, rfl, rfl⟩
  simp [Arena.useBlock, setBlock]

/-- A block in a slot of the arena is refused, is kept because its page could not be parked, or leaves its slot. -/
theorem evictResidentBlock_cases {slot : Nat} (own : (arena.blocks index).residentSlotIndex = some slot)
    (held : arena.residentSlots slot = some index) (inCapacity : slot < layout.residentBlockCapacity)
    (unshared : (arena.blocks index).shared = false) :
    (arena.evictResidentBlock layout index = (.invalidArgument, arena) ∧
        ¬ ((arena.blocks index).allocated = true ∧ (arena.blocks index).resident = true ∧
          (arena.blocks index).residencyReserved = false ∧ (arena.blocks index).residencyReferenceCount = 0)) ∨
      ((arena.blocks index).resident = true ∧ (arena.blocks index).residencyReferenceCount = 0) ∧
        (Unparked layout arena index (arena.evictResidentBlock layout index) ∨
          Unseated arena index slot (arena.evictResidentBlock layout index)) := by
  have unbacked := dropResidency_unseats layout arena own held inCapacity unshared
  rw [evictResidentBlock]
  dsimp only
  split
  · rename_i refused
    refine .inl ⟨rfl, ?_⟩
    rintro ⟨allocated, resident, unreserved, unpinned⟩
    simp [allocated, resident, unreserved, unpinned] at refused
  rename_i evictable
  simp only [not_or, Bool.not_eq_true, Bool.not_eq_false', ne_eq, not_not] at evictable
  obtain ⟨-, resident, -, unpinned⟩ := evictable
  refine .inr ⟨⟨resident, unpinned⟩, ?_⟩
  split
  · exact .inr unbacked
  rename_i evict callback
  split
  · split
    · rename_i failed
      refine Or.inl ⟨by simp [failed], ⟨evict, callback, rfl⟩, ⟨true, fun _ => rfl, rfl⟩, rfl, rfl⟩
    rename_i notIoError
    split
    · rename_i full
      exact Or.inl ⟨by simp [full], ⟨evict, callback, rfl⟩,
        ⟨_, fun failed => absurd failed notIoError, (update_eq_self _ _).symm⟩, rfl, rfl⟩
    split
    · rename_i failed
      exact .inl ⟨failed, ⟨evict, callback, rfl⟩,
        ⟨_, fun io => absurd io notIoError, (update_eq_self _ _).symm⟩, rfl, rfl⟩
    · have dropped := dropResidency_unseats layout ({ arena with
          evictCalls := arena.evictCalls + 1
          evictions := (index, evict arena.evictCalls) :: arena.evictions
          parkDegraded := false }.setBlock index { arena.blocks index with
            backingValid := true
            dirty := false
            parkFailed := false }) (by simpa [setBlock] using own) held inCapacity (by simpa [setBlock] using unshared)
      obtain ⟨dirty, backingValid, parkFailed, lastUsedEpoch, blocks⟩ := dropped.blocks
      refine .inr ⟨dropped.evicted, ⟨dirty, backingValid, parkFailed, lastUsedEpoch, ?_⟩, dropped.slots,
        dropped.counted⟩
      rw [blocks]
      simp [setBlock]
  · exact .inr unbacked

end Eviction

/-- `now` is `before` with one more reference, of a plan, to each block that is `lent`, and with some of the blocks
that were resident evicted. -/
structure Borrowing (layout : Layout) (before : Arena) (lent : List Nat) (now : Arena) : Prop where
  references : ∀ b, (now.blocks b).referenceCount = (before.blocks b).referenceCount
  residencyReferences : ∀ b, (now.blocks b).residencyReferenceCount =
    (before.blocks b).residencyReferenceCount + lent.count b
  reserved : ∀ b, (now.blocks b).residencyReserved = true ↔ (before.blocks b).residencyReserved = true ∨ b ∈ lent
  absent : ∀ b ∈ lent, (now.blocks b).resident = false
  stays : ∀ b, (now.blocks b).resident = true → (before.blocks b).resident = true
  evicted : ∀ b, (before.blocks b).resident = true → (now.blocks b).resident = false →
    (before.blocks b).residencyReferenceCount = 0
  kept : ∀ b, ((before.blocks b).resident = true → (now.blocks b).resident = true) →
    (b ∈ lent → (before.blocks b).residencyReserved = true) →
    (now.blocks b).residentSlotIndex = (before.blocks b).residentSlotIndex
  slots : ∀ slot < layout.residentBlockCapacity, ∀ b, now.residentSlots slot = some b →
    before.residentSlots slot = some b ∨ (b ∈ lent ∧ (before.blocks b).residencyReserved = false)
  leads : ∀ slot < layout.residentBlockCapacity, ∀ b, before.residentSlots slot = some b →
    ((before.blocks b).resident = true → (now.blocks b).resident = true) → now.residentSlots slot = some b

namespace Borrowing

theorem start (layout : Layout) (arena : Arena) : Borrowing layout arena [] arena where
  references := fun _ => rfl
  residencyReferences := fun _ => rfl
  reserved := by simp
  absent := by simp
  stays := fun _ resident => resident
  evicted := by
    intro b resident absent
    rw [resident] at absent
    cases absent
  kept := fun _ _ _ => rfl
  slots := fun _ _ _ held => .inl held
  leads := fun _ _ _ held _ => held

section

variable (borrowing : Borrowing layout before lent now)
include borrowing

/-- Nothing else of an arena than its blocks and slots matters. -/
theorem congr (blocks : after.blocks = now.blocks)
    (slots : after.residentSlots = now.residentSlots) : Borrowing layout before lent after := by
  constructor
  · rw [blocks]
    exact borrowing.references
  · rw [blocks]
    exact borrowing.residencyReferences
  · rw [blocks]
    exact borrowing.reserved
  · rw [blocks]
    exact borrowing.absent
  · rw [blocks]
    exact borrowing.stays
  · rw [blocks]
    exact borrowing.evicted
  · rw [blocks]
    exact borrowing.kept
  · rw [slots]
    exact borrowing.slots
  · rw [blocks, slots]
    exact borrowing.leads

/-- A resident block without references is evicted, or stays where it is. -/
theorem evict {block : Block} {slot : Nat}
    (resident : (now.blocks index).resident = true) (held : now.residentSlots slot = some index)
    (blocks : after.blocks = update now.blocks index block)
    (same : block.residencyReserved = (now.blocks index).residencyReserved ∧
      block.referenceCount = (now.blocks index).referenceCount ∧
      block.residencyReferenceCount = (now.blocks index).residencyReferenceCount)
    (rest : (block.resident = true ∧ block.residentSlotIndex = (now.blocks index).residentSlotIndex ∧
        after.residentSlots = now.residentSlots) ∨
      (block.resident = false ∧ (now.blocks index).residencyReferenceCount = 0 ∧
        after.residentSlots = update now.residentSlots slot none)) :
    Borrowing layout before lent after := by
  have own : after.blocks index = block := by rw [blocks, update_self]
  have others : ∀ b, b ≠ index → after.blocks b = now.blocks b := by
    intro b apart
    rw [blocks, update_of_ne apart]
  have wasResident := borrowing.stays index resident
  have stillResident : ∀ b, ((before.blocks b).resident = true → (after.blocks b).resident = true) →
      (before.blocks b).resident = true → (now.blocks b).resident = true := by
    intro b stays was
    by_cases here : b = index
    · rw [here]
      exact resident
    · rw [← others b here]
      exact stays was
  constructor
  · intro b
    by_cases here : b = index
    · rw [here, own, same.2.1]
      exact borrowing.references index
    · rw [others b here]
      exact borrowing.references b
  · intro b
    by_cases here : b = index
    · rw [here, own, same.2.2]
      exact borrowing.residencyReferences index
    · rw [others b here]
      exact borrowing.residencyReferences b
  · intro b
    by_cases here : b = index
    · rw [here, own, same.1]
      exact borrowing.reserved index
    · rw [others b here]
      exact borrowing.reserved b
  · intro b listed
    have absent := borrowing.absent b listed
    rw [others b]
    · exact absent
    · rintro rfl
      rw [resident] at absent
      cases absent
  · intro b stays
    by_cases here : b = index
    · rw [here]
      exact wasResident
    · rw [others b here] at stays
      exact borrowing.stays b stays
  · intro b was gone
    by_cases here : b = index
    · rw [here, own] at gone
      rcases rest with ⟨stays, -⟩ | ⟨-, unpinned, -⟩
      · rw [stays] at gone
        cases gone
      · have references := borrowing.residencyReferences index
        rw [here]
        omega
    · rw [others b here] at gone
      exact borrowing.evicted b was gone
  · intro b stays taken
    have before := borrowing.kept b (stillResident b stays) taken
    by_cases here : b = index
    · have still : block.resident = true := by
        rw [← own, ← here]
        apply stays
        rw [here]
        exact wasResident
      rcases rest with ⟨-, slot, -⟩ | ⟨gone, -, -⟩
      · rw [← before, here, own, slot]
      · rw [gone] at still
        cases still
    · rw [others b here]
      exact before
  · intro s inCapacity b there
    apply borrowing.slots s inCapacity b
    rcases rest with ⟨-, -, slots⟩ | ⟨-, -, slots⟩
    · rwa [slots] at there
    · by_cases here : s = slot
      · rw [here, slots, update_self] at there
        cases there
      · rwa [slots, update_of_ne here] at there
  · intro s inCapacity b there stays
    have before := borrowing.leads s inCapacity b there (stillResident b stays)
    rcases rest with ⟨-, -, slots⟩ | ⟨gone, -, slots⟩
    · rwa [slots]
    · rw [slots, update_of_ne, before]
      rintro rfl
      rw [held] at before
      cases before
      have still := stays wasResident
      rw [own, gone] at still
      cases still

/-- A plan takes one more reference to a block, and a slot for it if it has none. -/
theorem lend {block : Block} (unlent : index ∉ lent)
    (absent : (now.blocks index).resident = false) (blocks : after.blocks = update now.blocks index block)
    (same : block.resident = false ∧ block.residencyReserved = true ∧
      block.referenceCount = (now.blocks index).referenceCount ∧
      block.residencyReferenceCount = (now.blocks index).residencyReferenceCount + 1)
    (rest : ((now.blocks index).residencyReserved = true ∧
        block.residentSlotIndex = (now.blocks index).residentSlotIndex ∧ after.residentSlots = now.residentSlots) ∨
      ((now.blocks index).residencyReserved = false ∧ ∃ slot < layout.residentBlockCapacity,
        now.residentSlots slot = none ∧ after.residentSlots = update now.residentSlots slot (some index))) :
    Borrowing layout before (lent ++ [index]) after := by
  obtain ⟨stillAbsent, reserved, references, residencyReferences⟩ := same
  have own : after.blocks index = block := by rw [blocks, update_self]
  have others : ∀ b, b ≠ index → after.blocks b = now.blocks b := by
    intro b apart
    rw [blocks, update_of_ne apart]
  have resident : ∀ b, (after.blocks b).resident = (now.blocks b).resident := by
    intro b
    by_cases here : b = index
    · rw [here, own, stillAbsent, absent]
    · rw [others b here]
  constructor
  · intro b
    by_cases here : b = index
    · rw [here, own, references]
      exact borrowing.references index
    · rw [others b here]
      exact borrowing.references b
  · intro b
    have was := borrowing.residencyReferences b
    by_cases here : b = index
    · have unused := List.count_eq_zero.mpr unlent
      rw [here] at was
      rw [here, own, residencyReferences, List.count_append, List.count_singleton_self]
      omega
    · rw [others b here, List.count_append, was]
      simp [Ne.symm here]
  · intro b
    by_cases here : b = index
    · simp [here, own, reserved]
    · rw [others b here, borrowing.reserved b]
      simp [here]
  · intro b listed
    rw [resident]
    rcases List.mem_append.mp listed with earlier | here
    · exact borrowing.absent b earlier
    · rw [List.mem_singleton.mp here]
      exact absent
  · intro b
    rw [resident]
    exact borrowing.stays b
  · intro b
    rw [resident]
    exact borrowing.evicted b
  · intro b stays taken
    rw [resident] at stays
    by_cases here : b = index
    · rw [here] at stays taken ⊢
      have was := taken (by simp)
      have nowReserved := (borrowing.reserved index).mpr (.inl was)
      rcases rest with ⟨-, slot, -⟩ | ⟨unreserved, -⟩
      · rw [own, slot]
        exact borrowing.kept index stays fun _ => was
      · rw [nowReserved] at unreserved
        cases unreserved
    · rw [others b here]
      exact borrowing.kept b stays fun listed => taken (List.mem_append_left _ listed)
  · intro s inCapacity b there
    have earlier : now.residentSlots s = some b → before.residentSlots s = some b ∨
        (b ∈ lent ++ [index] ∧ (before.blocks b).residencyReserved = false) := fun held =>
      (borrowing.slots s inCapacity b held).imp id fun lent => ⟨List.mem_append_left _ lent.1, lent.2⟩
    rcases rest with ⟨-, -, slots⟩ | ⟨unreserved, slot, -, -, slots⟩
    · rw [slots] at there
      exact earlier there
    · by_cases here : s = slot
      · rw [here, slots, update_self] at there
        cases there
        refine Or.inr ⟨by simp, ?_⟩
        by_contra reserved
        rw [(borrowing.reserved index).mpr (Or.inl (by simpa using reserved))] at unreserved
        cases unreserved
      · rw [slots, update_of_ne here] at there
        exact earlier there
  · intro s inCapacity b there stays
    rw [resident] at stays
    have held := borrowing.leads s inCapacity b there stays
    rcases rest with ⟨-, -, slots⟩ | ⟨-, slot, -, empty, slots⟩
    · rwa [slots]
    · rw [slots, update_of_ne, held]
      rintro rfl
      rw [empty] at held
      cases held

end

/-- A plan gives one of its references back, and with the last one the slot that it took. -/
theorem giveBack (borrowing : Borrowing layout before (index :: lent) now)
    {others : Nat → Nat} (settled : Reserving layout True others before) (reserving : Reserving layout strict owners now)
    (inRange : index < layout.logicalBlockCount) (unlent : index ∉ lent) :
    Borrowing layout before lent (cancelBlock layout index now).2 := by
  have absent := borrowing.absent index (.head _)
  have nowReserved := (borrowing.reserved index).mpr (.inr (.head _))
  have once := borrowing.residencyReferences index
  rw [List.count_cons_self, List.count_eq_zero.mpr unlent] at once
  have was := settled.settled index inRange
  -- the block was reserved before exactly if others use its slot as well
  have shared : (before.blocks index).residencyReserved = true ↔
      (before.blocks index).residencyReferenceCount ≠ 0 := by
    refine ⟨fun reserved => (was.reserving reserved).2.2.1, fun referenced => ?_⟩
    by_contra unreserved
    by_cases resident : (before.blocks index).resident = true
    · exact referenced (borrowing.evicted index resident absent)
    · exact referenced ((was.vacant (by simpa using resident) (by simpa using unreserved)).2 trivial)
  obtain ⟨block, blocks, same, references, fewer, rest⟩ : ∃ block,
      (cancelBlock layout index now).2.blocks = update now.blocks index block ∧
      block.resident = false ∧ block.referenceCount = (now.blocks index).referenceCount ∧
      block.residencyReferenceCount + 1 = (now.blocks index).residencyReferenceCount ∧
      (((before.blocks index).residencyReserved = true ∧ block.residencyReserved = true ∧
          block.residentSlotIndex = (now.blocks index).residentSlotIndex ∧
          (cancelBlock layout index now).2.residentSlots = now.residentSlots) ∨
        ((before.blocks index).residencyReserved = false ∧ block.residencyReserved = false ∧
          block.residentSlotIndex = none ∧ ∃ slot < layout.residentBlockCapacity,
            (now.blocks index).residentSlotIndex = some slot ∧ now.residentSlots slot = some index ∧
            (cancelBlock layout index now).2.residentSlots = update now.residentSlots slot none)) := by
    rcases reserving.cancelBlock_cases inRange (Or.inr nowReserved) with
      ⟨more, taken⟩ | ⟨-, last, slot, own, held, released⟩
    · have several := more.resolve_left (by simp [absent])
      have counted := (reserving.settled index inRange).counted
      have taking := Placed.takeReference_pos (by omega : 0 < (now.blocks index).residencyReferenceCount) counted
      rw [taken]
      refine ⟨_, rfl, absent, rfl, ?_, .inl ⟨?_, nowReserved, rfl, rfl⟩⟩
      · dsimp only
        omega
      · rw [shared]
        omega
    · obtain ⟨s, inCapacity, own', -⟩ := reserving.leads index inRange nowReserved
      rw [own] at own'
      cases own'
      rw [released]
      refine ⟨_, rfl, absent, rfl, last.symm, .inr ⟨?_, rfl, rfl, slot, inCapacity, own, held, rfl⟩⟩
      by_contra reserved
      have referenced := shared.mp (by simpa using reserved)
      omega
  generalize (cancelBlock layout index now).2 = after at blocks rest ⊢
  have own : after.blocks index = block := by rw [blocks, update_self]
  have others : ∀ b, b ≠ index → after.blocks b = now.blocks b := by
    intro b apart
    rw [blocks, update_of_ne apart]
  have resident : ∀ b, (after.blocks b).resident = (now.blocks b).resident := by
    intro b
    by_cases here : b = index
    · rw [here, own, same, absent]
    · rw [others b here]
  have vacant : ((before.blocks index).resident = true → (now.blocks index).resident = true) →
      (before.blocks index).residencyReserved = false → (before.blocks index).residentSlotIndex = none := by
    intro stays unreserved
    refine (was.vacant ?_ unreserved).1
    cases resident : (before.blocks index).resident with
    | false => rfl
    | true =>
      have there := stays resident
      rw [absent] at there
      cases there
  constructor
  · intro b
    by_cases here : b = index
    · rw [here, own, references]
      exact borrowing.references index
    · rw [others b here]
      exact borrowing.references b
  · intro b
    by_cases here : b = index
    · rw [here, own, List.count_eq_zero.mpr unlent]
      omega
    · rw [others b here, borrowing.residencyReferences b]
      simp [Ne.symm here]
  · intro b
    by_cases here : b = index
    · rw [here, own]
      rcases rest with ⟨was, reserved, -⟩ | ⟨was, unreserved, -⟩
      · simp [was, reserved]
      · simp [was, unreserved, unlent]
    · rw [others b here, borrowing.reserved b]
      simp [here]
  · intro b listed
    rw [resident]
    exact borrowing.absent b (.tail _ listed)
  · intro b
    rw [resident]
    exact borrowing.stays b
  · intro b
    rw [resident]
    exact borrowing.evicted b
  · intro b stays taken
    rw [resident] at stays
    by_cases here : b = index
    · rw [here] at stays taken ⊢
      rcases rest with ⟨was, -, slot, -⟩ | ⟨was, -, slot, -⟩
      · rw [own, slot]
        exact borrowing.kept index stays fun _ => was
      · rw [own, slot, vacant stays was]
    · rw [others b here]
      apply borrowing.kept b stays
      intro listed
      exact taken ((List.mem_cons.mp listed).resolve_left here)
  · intro s inCapacity b there
    have earlier : now.residentSlots s = some b := by
      rcases rest with ⟨-, -, -, slots⟩ | ⟨-, -, -, slot, -, -, -, slots⟩
      · rwa [slots] at there
      · by_cases here : s = slot
        · rw [here, slots, update_self] at there
          cases there
        · rwa [slots, update_of_ne here] at there
    rcases borrowing.slots s inCapacity b earlier with held | ⟨listed, unreserved⟩
    · exact .inl held
    · refine .inr ⟨(List.mem_cons.mp listed).resolve_left ?_, unreserved⟩
      rintro rfl
      rcases rest with ⟨was, -⟩ | ⟨-, -, -, slot, -, there', -, slots⟩
      · rw [was] at unreserved
        cases unreserved
      · obtain ⟨-, here, -⟩ := reserving.back s inCapacity b earlier
        rw [there'] at here
        cases here
        rw [slots, update_self] at there
        cases there
  · intro s inCapacity b there stays
    rw [resident] at stays
    have held := borrowing.leads s inCapacity b there stays
    rcases rest with ⟨-, -, -, slots⟩ | ⟨unreserved, -, -, slot, -, -, holder, slots⟩
    · rwa [slots]
    · rw [slots, update_of_ne, held]
      rintro rfl
      rw [holder] at held
      cases held
      have without := vacant stays unreserved
      rw [(settled.back s inCapacity index there).2.1] at without
      cases without

end Borrowing

section Room

variable (borrowing : Borrowing layout before lent now) (reserving : Reserving layout strict owners now)
include borrowing reserving

/-- The eviction of a block in a slot of the arena lends nothing. -/
theorem Borrowing.evictResidentBlock {slot : Nat} (inCapacity : slot < layout.residentBlockCapacity)
    (held : now.residentSlots slot = some index) :
    Borrowing layout before lent (now.evictResidentBlock layout index).2 := by
  obtain ⟨-, own, unshared⟩ := reserving.back slot inCapacity index held
  rcases evictResidentBlock_cases own held inCapacity unshared with
    ⟨refused, -⟩ | ⟨⟨resident, unpinned⟩, unparked | unseated⟩
  · rw [refused]
    exact borrowing
  · obtain ⟨parkFailed, -, blocks⟩ := unparked.blocks
    exact borrowing.evict resident held blocks ⟨rfl, rfl, rfl⟩ (.inl ⟨resident, rfl, unparked.slots⟩)
  · obtain ⟨_, _, _, _, blocks⟩ := unseated.blocks
    exact borrowing.evict resident held blocks ⟨rfl, rfl, rfl⟩ (.inr ⟨rfl, unpinned, unseated.slots⟩)

theorem Borrowing.makeRoomForResidentBlocks (guarded : List Nat) (added : Nat) :
    Borrowing layout before lent (now.makeRoomForResidentBlocks layout guarded added).2 := by
  suffices both : Reserving layout strict owners (now.makeRoomForResidentBlocks layout guarded added).2 ∧
      Borrowing layout before lent (now.makeRoomForResidentBlocks layout guarded added).2 from both.2
  refine makeRoomForResidentBlocks_preserves
    (P := fun next => Reserving layout strict owners next ∧ Borrowing layout before lent next) ?_ ?_
    ⟨reserving, borrowing⟩ guarded added
  · rintro next index slot inRange inCapacity held ⟨reserving, borrowing⟩
    exact ⟨(Reserving.tended layout strict owners).evictResidentBlock reserving inRange
      (reserving.back slot inCapacity index held).2.2,
      borrowing.evictResidentBlock reserving inCapacity held⟩
  · rintro next ⟨reserving, borrowing⟩
    exact ⟨reserving.congr rfl rfl rfl, borrowing.congr rfl rfl⟩

/-- What taking a block into a plan leaves: the block and the plans that name it change only with success. -/
theorem reserveBlockResidency_cases (inRange : index < layout.logicalBlockCount)
    (allocated : (now.blocks index).allocated = true) (absent : (now.blocks index).resident = false)
    (unlent : index ∉ lent) (plan : PrefetchPlan) : (∀ b, b ≠ index → (now.blocks b).resident = false →
        (now.reserveBlockResidency layout index plan).2.blocks b = now.blocks b) ∧
      (((now.reserveBlockResidency layout index plan).1 ≠ .ok ∧
          Reserving layout strict owners (now.reserveBlockResidency layout index plan).2 ∧
          Borrowing layout before lent (now.reserveBlockResidency layout index plan).2) ∨
        ((now.reserveBlockResidency layout index plan).1 = .ok ∧
          Reserving layout strict (fun b => owners b + [index].count b) (now.reserveBlockResidency layout index plan).2 ∧
          Borrowing layout before (lent ++ [index]) (now.reserveBlockResidency layout index plan).2)) := by
  have was := reserving.settled index inRange
  have more : Reserving layout strict (fun b => owners b + [index].count b) now :=
    reserving.weaken fun b => Nat.le_add_right ..
  rw [Arena.reserveBlockResidency]
  rw [if_neg (by simp [absent])]
  split
  · exact ⟨fun _ _ _ => rfl, Or.inl ⟨by simp, reserving, borrowing⟩⟩
  rename_i bounded
  have counted := was.counted
  split
  · -- another plan has reserved the block already
    rename_i reserved
    obtain ⟨-, -, referenced, owned⟩ := was.reserving reserved
    refine ⟨fun b apart _ => update_of_ne apart .., .inr ⟨rfl, ?_, ?_⟩⟩
    · refine more.keep inRange rfl ⟨?_, ?_, was.unshared, was.allocated, ?_⟩ rfl rfl rfl rfl
        fun unshared => unshared
      · simp [reserved]
      · refine fun _ => ⟨absent, allocated, by simp, fun counting => ?_⟩
        have bound := owned counting
        simp only [List.count_singleton_self]
        omega
      · dsimp only
        omega
    · exact borrowing.lend unlent absent rfl ⟨absent, reserved, rfl, rfl⟩ (.inl ⟨reserved, rfl, rfl⟩)
  · rename_i notReserved
    have unreserved : (now.blocks index).residencyReserved = false := by simpa using notReserved
    obtain ⟨without, unpinned⟩ := was.vacant absent unreserved
    rw [reserveSlot, andThen_assoc]
    simp only [andThen_assoc]
    obtain ⟨roomy, roomyReserving, same, isRoomy, rest⟩ :=
      (Reserving.tended layout strict owners).makeRoom_seats reserving inRange
        ⟨allocated, absent, unreserved⟩ plan.logicalBlocks fun arena =>
        andThen (.ok, { arena with reservedBlockCount := arena.reservedBlockCount + 1 }.setBlock index
          { arena.blocks index with residencyReserved := true })
          fun arena => (.ok, arena.addResidencyReference index)
    have roomyBorrowing := borrowing.makeRoomForResidentBlocks reserving plan.logicalBlocks 1
    have untouched : ∀ b, (now.blocks b).resident = false → roomy.blocks b = now.blocks b := by
      intro b away
      rw [← isRoomy]
      exact ((Reserving.tended layout strict owners).makeRoomForResidentBlocks reserving away plan.logicalBlocks 1).2
    rw [isRoomy] at roomyBorrowing
    dsimp only at rest
    rcases rest with ⟨failed, ended⟩ | ⟨slot, inCapacity, empty, scan, result⟩
    · rw [ended]
      exact ⟨fun b _ away => untouched b away, .inl ⟨failed, roomyReserving, roomyBorrowing⟩⟩
    · rw [result, andThen_ok rfl]
      have written : ((({ Placed.seat roomy index slot scan with
          reservedBlockCount := (Placed.seat roomy index slot scan).reservedBlockCount + 1 }.setBlock index
            { (Placed.seat roomy index slot scan).blocks index with
              residencyReserved := true }).addResidencyReference index)).blocks =
          update roomy.blocks index { now.blocks index with
            residentSlotIndex := some slot
            residencyReserved := true
            residencyReferenceCount := (now.blocks index).residencyReferenceCount + 1 } := by
        simp [addResidencyReference, setBlock, Placed.seat, same]
      refine ⟨fun b apart away => ?_, .inr ⟨rfl, ?_, ?_⟩⟩
      · rw [written, update_of_ne apart]
        exact untouched b away
      · have roomyMore : Reserving layout strict (fun b => owners b + [index].count b) roomy :=
          roomyReserving.weaken fun b => Nat.le_add_right ..
        refine roomyMore.takeSlot inRange written ⟨?_, ?_, was.unshared, was.allocated, ?_⟩ inCapacity empty
          (by rw [same, without]) rfl rfl (was.unshared absent) ?_
        · simp
        · exact fun _ => ⟨absent, allocated, by simp, fun counting => by simp [unpinned counting]⟩
        · dsimp only
          omega
        · rw [same, unreserved]
          rfl
      · refine roomyBorrowing.lend unlent (by rw [same, absent]) written ⟨absent, rfl, ?_, ?_⟩
          (Or.inr ⟨by rw [same, unreserved], slot, inCapacity, empty, rfl⟩)
        · rw [same]
        · rw [same]

end Room

end Arena

/-- No slot of the arena has the address that stands for none. -/
def Layout.Addressed (layout : Layout) : Prop :=
  ∀ slot < layout.residentBlockCapacity, layout.keyDeviceAddress (some slot) ≠ 0

/-- An entry of a plan that is being built, and the block that it names. -/
structure PrefetchBlock.Matches (layout : Layout) (arena : Arena) (laneCount : Nat) (entry : PrefetchBlock) :
    Prop where
  inRange : entry.logicalBlockIndex < layout.logicalBlockCount
  lane : entry.laneIndex < laneCount
  flags : badPrefetchFlags entry.flags = false
  slot : entry.residentSlotIndex = (arena.blocks entry.logicalBlockIndex).residentSlotIndex
  generation : entry.generation = (arena.blocks entry.logicalBlockIndex).generation
  key : entry.keyDeviceAddress = layout.keyDeviceAddress entry.residentSlotIndex
  value : entry.valueDeviceAddress = layout.valueDeviceAddress entry.residentSlotIndex

namespace Arena

variable {layout : Layout} {arena before after now : Arena} {index : Nat} {owners : Nat → Nat}
  {plan : PrefetchPlan}

/-- What a plan has come to while it is built. -/
structure Planned (layout : Layout) (owners : Nat → Nat) (before : Arena) (plan : PrefetchPlan) (now : Arena) :
    Prop where
  reserving : Reserving layout True (fun b => owners b + plan.logicalBlocks.count b) now
  borrowing : Borrowing layout before plan.logicalBlocks now
  once : plan.logicalBlocks.Nodup
  short : plan.blocks.length ≤ prefetchBlockCapacity
  entries : ∀ entry ∈ plan.blocks, entry.Matches layout now plan.laneCount

section Building

/-- The counts that a plan reports have no part in it. -/
theorem Planned.congr (planned : Planned layout owners before plan now) {other : PrefetchPlan}
    (blocks : other.blocks = plan.blocks) (lanes : other.laneCount = plan.laneCount) :
    Planned layout owners before other now := by
  have names : other.logicalBlocks = plan.logicalBlocks := by
    rw [PrefetchPlan.logicalBlocks, PrefetchPlan.logicalBlocks, blocks]
  constructor
  · rw [names]
    exact planned.reserving
  · rw [names]
    exact planned.borrowing
  · rw [names]
    exact planned.once
  · rw [blocks]
    exact planned.short
  · rw [blocks, lanes]
    exact planned.entries

/-- Plans are built entry by entry, and named blocks stay as they are. -/
theorem buildEach_planned (sources : List PrefetchSourceBlock) (lanes : 0 < plan.laneCount)
    (planned : Planned layout owners before plan now) :
    let built := buildEach layout sources plan now
    Planned layout owners before built.2.1 built.2.2 ∧ built.2.1.laneCount = plan.laneCount := by
  induction sources generalizing plan now with
  | nil => exact ⟨planned, rfl⟩
  | cons source rest ih =>
    rw [buildEach]
    dsimp only
    split
    · exact ⟨planned, rfl⟩
    rename_i sound
    split
    · have counted : Planned layout owners before
          { plan with duplicateBlockCount := plan.duplicateBlockCount + 1 } now := planned.congr rfl rfl
      exact ih (by exact lanes) counted
    rename_i unlisted
    split
    · exact ⟨planned.congr rfl rfl, rfl⟩
    rename_i allocated
    split
    · exact ⟨planned, rfl⟩
    split
    · have counted : Planned layout owners before
          { plan with residentBlockCount := plan.residentBlockCount + 1 } now := planned.congr rfl rfl
      exact ih (by exact lanes) counted
    rename_i notResident
    split
    · exact ⟨planned, rfl⟩
    rename_i short
    rw [not_not, validatePrefetchSourceBlock] at sound
    split at sound
    · cases sound
    rename_i wellFormed
    simp only [not_or, Nat.not_le, Bool.not_eq_true] at wellFormed
    have unlent : source.logicalBlockIndex ∉ plan.logicalBlocks := by simpa using unlisted
    obtain ⟨others, outcome⟩ := reserveBlockResidency_cases planned.borrowing planned.reserving wellFormed.1
      (by simpa using allocated) (by simpa using notResident) unlent plan
    have entries : ∀ entry ∈ plan.blocks, entry.Matches layout
        (now.reserveBlockResidency layout source.logicalBlockIndex plan).2 plan.laneCount := by
      intro entry listed
      obtain ⟨inRange, lane, flags, slot, generation, key, value⟩ := planned.entries entry listed
      have named : entry.logicalBlockIndex ∈ plan.logicalBlocks := List.mem_map_of_mem listed
      have same := others entry.logicalBlockIndex (by rintro here; rw [here] at named; exact unlent named)
        (planned.borrowing.absent _ named)
      exact ⟨inRange, lane, flags, by rw [same, slot], by rw [same, generation], key, value⟩
    rcases outcome with ⟨failed, reserving, borrowing⟩ | ⟨succeeded, reserving, borrowing⟩
    · rw [if_pos failed]
      exact ⟨⟨reserving, borrowing, planned.once, planned.short, entries⟩, rfl⟩
    rw [if_neg (by simp [succeeded])]
    have grown : ∀ block, ({ addSourceBlock layout plan block source with
        reservedBlockCount := plan.reservedBlockCount + 1 } : PrefetchPlan).logicalBlocks =
        plan.logicalBlocks ++ [source.logicalBlockIndex] := by
      intro block
      simp [PrefetchPlan.logicalBlocks, addSourceBlock]
    refine ih (by exact lanes) ⟨?_, ?_, ?_, ?_, ?_⟩
    · rw [grown]
      exact reserving.weaken fun b => by simp [List.count_append, Nat.add_assoc]
    · rw [grown]
      exact borrowing
    · rw [grown]
      exact List.nodup_append.mpr ⟨planned.once, by simp, by
        rintro b listed c single rfl
        rw [List.mem_singleton.mp single] at listed
        exact unlent listed⟩
    · simp only [addSourceBlock, List.length_append, List.length_cons, List.length_nil]
      omega
    · intro entry listed
      rcases List.mem_append.mp listed with earlier | added
      · exact entries entry earlier
      · rw [List.mem_singleton.mp added]
        exact ⟨wellFormed.1, Nat.mod_lt _ lanes, wellFormed.2, rfl, rfl, rfl, rfl⟩

end Building

section Cancelling

/-- The entries of a plan are cancelled one after another, and lent no more. -/
theorem cancelBlocks_borrows {others : Nat → Nat} (settled : Reserving layout True others before) (indices : List Nat)
    (apart : indices.Nodup) (reserving : Reserving layout True (fun b => owners b + indices.count b) now)
    (borrowing : Borrowing layout before indices now) (inRange : ∀ index ∈ indices, index < layout.logicalBlockCount) :
    (forEach (cancelBlock layout) indices now).1 = .ok ∧
      Reserving layout True owners (forEach (cancelBlock layout) indices now).2 ∧
      Borrowing layout before [] (forEach (cancelBlock layout) indices now).2 := by
  induction indices generalizing now with
  | nil => exact ⟨rfl, reserving, borrowing⟩
  | cons index rest ih =>
    obtain ⟨unlisted, apart⟩ := List.nodup_cons.mp apart
    have bound := inRange index (.head _)
    have reserved := (borrowing.reserved index).mpr (.inr (.head _))
    obtain ⟨succeeded, cancelled, -⟩ :=
      reserving.cancelBlock (fun b => owners b + rest.count b) bound (.inr reserved)
        (fun _ => by simp; omega) fun _ b different => by simp [Ne.symm different]
    rw [forEach, andThen_ok succeeded]
    exact ih apart cancelled (borrowing.giveBack settled reserving bound unlisted)
      fun other listed => inRange other (.tail _ listed)

/-- A plan that was built passes the checks of its cancellation. -/
theorem Planned.checked (planned : Planned layout owners before plan now) (addressed : layout.Addressed)
    (lanes : plan.laneCount ≠ 0 ∧ plan.laneCount ≤ maxPrefetchLaneCount) :
    validatePrefetchPlan plan = .ok ∧ now.validatePlanBlocks layout plan.blocks = .ok := by
  have slotted : ∀ entry ∈ plan.blocks, ∃ slot < layout.residentBlockCapacity,
      entry.residentSlotIndex = some slot ∧ now.residentSlots slot = some entry.logicalBlockIndex := by
    intro entry listed
    have named : entry.logicalBlockIndex ∈ plan.logicalBlocks := List.mem_map_of_mem listed
    have matching := planned.entries entry listed
    obtain ⟨slot, inCapacity, own, held⟩ := planned.reserving.leads _ matching.inRange
      ((planned.borrowing.reserved _).mpr (.inr named))
    exact ⟨slot, inCapacity, matching.slot.trans own, held⟩
  constructor
  · have short := planned.short
    rw [validatePrefetchPlan, if_neg (by omega), if_neg]
    rw [Bool.not_eq_true, List.any_eq_false]
    intro entry listed bad
    obtain ⟨slot, inCapacity, own, -⟩ := slotted entry listed
    have matching := planned.entries entry listed
    have key := addressed slot inCapacity
    rw [badPrefetchBlock, matching.flags, matching.key, own] at bad
    have beyond : plan.laneCount ≤ entry.laneIndex := by simpa [key] using bad
    exact absurd beyond (Nat.not_le.mpr matching.lane)
  · have all := planned.entries
    have known : ∀ entry ∈ plan.blocks, entry.logicalBlockIndex ∈ plan.logicalBlocks :=
      fun entry listed => List.mem_map_of_mem listed
    generalize plan.blocks = entries at slotted all known
    induction entries with
    | nil => rfl
    | cons entry rest ih =>
      obtain ⟨slot, inCapacity, own, held⟩ := slotted entry (.head _)
      have matching := all entry (.head _)
      have reserved := (planned.borrowing.reserved entry.logicalBlockIndex).mpr
        (.inr (known entry (.head _)))
      have was := (planned.reserving.settled _ matching.inRange).reserving reserved
      have one : now.validatePlanBlock layout entry = .ok := by
        have there := matching.slot.symm.trans own
        have key := matching.key
        have value := matching.value
        rw [own] at key value
        unfold validatePlanBlock
        simp only [own, there, key, value, matching.generation, held, was.2.1, reserved]
        rw [if_neg (by have := matching.inRange; omega), if_neg (by simp), if_neg (by simp), if_neg (by simp [was.2.2.1])]
      rw [validatePlanBlocks, if_neg (by simp [one])]
      exact ih (fun later listed => slotted later (.tail _ listed))
        (fun later listed => all later (.tail _ listed))
        fun later listed => known later (.tail _ listed)

/-- The cancellation of a plan that was built succeeds, and only the evictions are left. -/
theorem Planned.cancel {others : Nat → Nat} (planned : Planned layout owners before plan now)
    (settled : Reserving layout True others before) (addressed : layout.Addressed)
    (lanes : plan.laneCount ≠ 0 ∧ plan.laneCount ≤ maxPrefetchLaneCount) (valid : validate layout now = .ok) :
    (now.cancelPrefetchPlan layout plan).1 = .ok ∧
      Reserving layout True owners (now.cancelPrefetchPlan layout plan).2 ∧
      Borrowing layout before [] (now.cancelPrefetchPlan layout plan).2 := by
  obtain ⟨wellFormed, placed⟩ := planned.checked addressed lanes
  rw [cancelPrefetchPlan, onPlan, if_neg (by simp [valid]), if_neg (by simp [wellFormed]), if_neg (by simp [placed])]
  apply cancelBlocks_borrows settled plan.logicalBlocks planned.once planned.reserving planned.borrowing
  intro index listed
  obtain ⟨entry, member, rfl⟩ := List.mem_map.mp listed
  exact (planned.entries entry member).inRange

end Cancelling

/-- A block that was resident and no longer is. -/
def Evicted (before after : Arena) (b : Nat) : Prop :=
  (before.blocks b).resident = true ∧ (after.blocks b).resident = false

/-- The arena before, but for blocks that were evicted: the reservations, the references and the slots of all other
blocks are what they were. -/
structure Restored (layout : Layout) (before after : Arena) : Prop where
  reservedBlockCount : after.reservedBlockCount = before.reservedBlockCount
  reserved : ∀ b, (after.blocks b).residencyReserved = (before.blocks b).residencyReserved
  references : ∀ b, (after.blocks b).referenceCount = (before.blocks b).referenceCount
  residencyReferences : ∀ b, (after.blocks b).residencyReferenceCount = (before.blocks b).residencyReferenceCount
  resident : ∀ b, (after.blocks b).resident = true → (before.blocks b).resident = true
  slot : ∀ b, ¬ Evicted before after b → (after.blocks b).residentSlotIndex = (before.blocks b).residentSlotIndex
  slots : ∀ slot < layout.residentBlockCapacity, ∀ b, after.residentSlots slot = some b ↔
    before.residentSlots slot = some b ∧ ¬ Evicted before after b

section Restoring

theorem Borrowing.restored {others : Nat → Nat} (borrowing : Borrowing layout before [] after)
    (settled : Reserving layout True others before) (reserving : Reserving layout True owners after) :
    Restored layout before after := by
  have spared : ∀ b, ¬ Evicted before after b →
      ((before.blocks b).resident = true → (after.blocks b).resident = true) := by
    intro b staying was
    by_contra gone
    exact staying ⟨was, by simpa using gone⟩
  have reserved : ∀ b, (after.blocks b).residencyReserved = (before.blocks b).residencyReserved := by
    intro b
    rw [Bool.eq_iff_iff]
    simpa using borrowing.reserved b
  constructor
  · rw [reserving.counted, settled.counted]
    exact tally_congr fun b _ => reserved b
  · exact reserved
  · exact borrowing.references
  · intro b
    simpa using borrowing.residencyReferences b
  · exact borrowing.stays
  · intro b staying
    exact borrowing.kept b (spared b staying) (by simp)
  · intro slot inCapacity b
    constructor
    · intro held
      have was := (borrowing.slots slot inCapacity b held).resolve_right (by simp)
      refine ⟨was, ?_⟩
      rintro ⟨resident, gone⟩
      obtain ⟨inRange, own, -⟩ := reserving.back slot inCapacity b held
      cases stillReserved : (after.blocks b).residencyReserved with
      | true =>
        have absent := ((settled.settled b inRange).reserving (by rw [← reserved b, stillReserved])).1
        rw [resident] at absent
        cases absent
      | false =>
        rw [((reserving.settled b inRange).vacant gone stillReserved).1] at own
        cases own
    · rintro ⟨held, staying⟩
      exact borrowing.leads slot inCapacity b held (spared b staying)

/-- A plan is built whole, and then can be cancelled, or nothing is reserved. -/
theorem buildPrefetchPlanFromSourceBlocks_cases (reserving : Reserving layout True owners arena)
    (addressed : layout.Addressed) (sources : List PrefetchSourceBlock) (laneCount : Nat) :
    let built := arena.buildPrefetchPlanFromSourceBlocks layout sources laneCount
    (built.1 ≠ .ok ∧ Reserving layout True owners built.2.2 ∧ Restored layout arena built.2.2) ∨
      ∃ plan, built.1 = .ok ∧ built.2.1 = some plan ∧ plan.logicalBlocks.Nodup ∧
        Reserving layout True (fun b => owners b + plan.logicalBlocks.count b) built.2.2 ∧
        (built.2.2.cancelPrefetchPlan layout plan).1 = .ok ∧
        Restored layout arena (built.2.2.cancelPrefetchPlan layout plan).2 := by
  have unchanged := (Borrowing.start layout arena).restored reserving reserving
  rw [buildPrefetchPlanFromSourceBlocks]
  dsimp only
  split
  · exact .inl ⟨‹_›, reserving, unchanged⟩
  rename_i isValid
  split
  · exact Or.inl ⟨by simp, reserving, unchanged⟩
  rename_i lanes
  have start : Planned layout owners arena
      { laneCount := laneCount, requestedLogicalBlockCount := sources.length } arena :=
    ⟨reserving, .start layout arena, List.nodup_nil, Nat.zero_le _, by simp⟩
  obtain ⟨planned, sameLanes⟩ := buildEach_planned sources (by dsimp only; omega) start
  have valid : validate layout (buildEach layout sources
      { laneCount := laneCount, requestedLogicalBlockCount := sources.length } arena).2.2 = .ok :=
    buildEach_preserves (P := fun now => validate layout now = .ok)
      (fun _ source plan _ _ valid => reserveBlockResidency_valid valid source.logicalBlockIndex plan)
      (not_not.mp isValid) sources _
  obtain ⟨cancelled, stillReserving, returned⟩ := planned.cancel reserving addressed
    (by rw [sameLanes]; dsimp only; omega) valid
  have restored := returned.restored reserving stillReserving
  split
  · exact .inr ⟨_, rfl, rfl, planned.once, planned.reserving, cancelled, restored⟩
  · rename_i failed
    exact .inl ⟨failed, stillReserving, restored⟩

end Restoring

end Arena

end Sparkpipe.KvCache
