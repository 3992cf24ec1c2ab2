import Sparkpipe.Cache.Arena.Placement

/-!
# Reserved residency

What every state of an arena says about the blocks that are reserved for residency and about those that are neither
reserved nor resident: a reserved block has references and a slot that leads back to it, and one that is neither has
nothing to undo. Of the resident blocks only that those in the arena's own slots are not shared; so this also holds
after a shared block has been recycled.
-/

namespace Sparkpipe.KvCache

open Function

/-- What one block has to hold for its residency, when plans that are held name it `owners` times. Its references are
only counted when that is `strict`: a plan may name a block more often than it has references. -/
structure Block.Settled (strict : Prop) (owners : Nat) (block : Block) : Prop where
  vacant : block.resident = false → block.residencyReserved = false →
    block.residentSlotIndex = none ∧ (strict → block.residencyReferenceCount = 0)
  reserving : block.residencyReserved = true →
    block.resident = false ∧ block.allocated = true ∧ block.residencyReferenceCount ≠ 0 ∧
      (strict → block.residencyReferenceCount ≤ owners)
  unshared : block.resident = false → block.shared = false
  allocated : block.resident = true → block.allocated = true
  counted : block.residencyReferenceCount ≤ maxU32

namespace Arena

variable {layout : Layout} {arena before after : Arena} {index : Nat} {block : Block} {owners : Nat → Nat}
  {strict : Prop}

/-- The reserved blocks of an arena, their slots and their number agree; `owners` says how often the plans that
are held name each block. -/
structure Reserving (layout : Layout) (strict : Prop) (owners : Nat → Nat) (arena : Arena) : Prop where
  settled : ∀ b < layout.logicalBlockCount, (arena.blocks b).Settled strict (owners b)
  leads : ∀ b < layout.logicalBlockCount, (arena.blocks b).residencyReserved = true →
    ∃ slot < layout.residentBlockCapacity, (arena.blocks b).residentSlotIndex = some slot ∧
      arena.residentSlots slot = some b
  back : ∀ slot < layout.residentBlockCapacity, ∀ b, arena.residentSlots slot = some b →
    b < layout.logicalBlockCount ∧ (arena.blocks b).residentSlotIndex = some slot ∧
      (arena.blocks b).shared = false
  counted : arena.reservedBlockCount =
    tally layout.logicalBlockCount fun b => (arena.blocks b).residencyReserved

namespace Reserving

section

variable (reserving : Reserving layout strict owners arena)
include reserving

/-- The plans that name the reserved blocks may be counted anew. -/
theorem reowned {others : Nat → Nat}
    (owned : strict → ∀ b < layout.logicalBlockCount, (arena.blocks b).residencyReserved = true →
      (arena.blocks b).residencyReferenceCount ≤ others b) : Reserving layout strict others arena := by
  refine ⟨fun b inRange => ?_, reserving.leads, reserving.back, reserving.counted⟩
  have was := reserving.settled b inRange
  refine ⟨was.vacant, fun reserved => ?_, was.unshared, was.allocated, was.counted⟩
  obtain ⟨absent, allocated, referenced, -⟩ := was.reserving reserved
  exact ⟨absent, allocated, referenced, fun counting => owned counting b inRange reserved⟩

/-- More plans than those that are counted do not matter. -/
theorem weaken {others : Nat → Nat}
    (more : ∀ b, owners b ≤ others b) : Reserving layout strict others arena :=
  reserving.reowned fun counting b inRange reserved =>
    le_trans (((reserving.settled b inRange).reserving reserved).2.2.2 counting) (more b)

/-- A block that is reserved is counted. -/
theorem counts (inRange : index < layout.logicalBlockCount)
    (reserved : (arena.blocks index).residencyReserved = true) : arena.reservedBlockCount ≠ 0 := by
  have positive : 0 < tally layout.logicalBlockCount fun b => (arena.blocks b).residencyReserved :=
    tally_pos inRange reserved
  rw [reserving.counted]
  omega

end

section Writes

variable (reserving : Reserving layout strict owners before)
include reserving

section

variable (inRange : index < layout.logicalBlockCount)
  (blocks : after.blocks = update before.blocks index block) (settled : block.Settled strict (owners index))
include inRange blocks settled

/-- A write of one block, with the slots and the counter brought up to date. -/
theorem write (own : block.residencyReserved = true → ∃ slot < layout.residentBlockCapacity,
      block.residentSlotIndex = some slot ∧ after.residentSlots slot = some index)
    (reseated : Reseated layout before after index block)
    (counted : after.reservedBlockCount + (before.blocks index).residencyReserved.toNat =
      before.reservedBlockCount + block.residencyReserved.toNat) : Reserving layout strict owners after := by
  have moved := tally_update before.blocks block Block.residencyReserved inRange
  refine ⟨?_, ?_, reseated.leadsBack reserving.back inRange blocks, ?_⟩
  · intro b bound
    rw [blocks]
    by_cases here : b = index
    · rw [here, update_self]
      exact settled
    · rw [update_of_ne here]
      exact reserving.settled b bound
  · intro b bound reserved
    rw [blocks] at reserved ⊢
    by_cases here : b = index
    · rw [here, update_self] at reserved ⊢
      exact own reserved
    · rw [update_of_ne here] at reserved ⊢
      obtain ⟨slot, inCapacity, there, held⟩ := reserving.leads b bound reserved
      exact ⟨slot, inCapacity, there, reseated.others b here slot inCapacity held⟩
  · have was := reserving.counted
    rw [blocks]
    omega

/-- The block keeps its slot and its reservation, and is not shared now if it was not. -/
theorem keep (slots : after.residentSlots = before.residentSlots)
    (count : after.reservedBlockCount = before.reservedBlockCount)
    (slot : block.residentSlotIndex = (before.blocks index).residentSlotIndex)
    (reserved : block.residencyReserved = (before.blocks index).residencyReserved)
    (shared : (before.blocks index).shared = false → block.shared = false) : Reserving layout strict owners after := by
  refine reserving.write inRange blocks settled ?_ (.keep reserving.back slots slot shared) ?_
  · intro isReserved
    obtain ⟨s, inCapacity, there, held⟩ := reserving.leads index inRange (reserved.symm.trans isReserved)
    rw [slots]
    exact ⟨s, inCapacity, slot.trans there, held⟩
  · rw [count, reserved]

/-- A block that is not shared leaves its slot empty. -/
theorem dropSlot {slot : Nat} (was : (before.blocks index).residentSlotIndex = some slot)
    (slots : after.residentSlots = update before.residentSlots slot none)
    (held : before.residentSlots slot = some index) (unreserved : block.residencyReserved = false)
    (counted : after.reservedBlockCount + (before.blocks index).residencyReserved.toNat =
      before.reservedBlockCount) : Reserving layout strict owners after := by
  refine reserving.write inRange blocks settled ?_ (.drop reserving.back was held slots) ?_
  · intro reserved
    rw [unreserved] at reserved
    cases reserved
  · rw [unreserved, counted]
    rfl

/-- A block without a slot takes an empty one. -/
theorem takeSlot {slot : Nat} (inCapacity : slot < layout.residentBlockCapacity)
    (empty : before.residentSlots slot = none)
    (without : (before.blocks index).residentSlotIndex = none)
    (slots : after.residentSlots = update before.residentSlots slot (some index))
    (taken : block.residentSlotIndex = some slot) (unshared : block.shared = false)
    (counted : after.reservedBlockCount + (before.blocks index).residencyReserved.toNat =
      before.reservedBlockCount + block.residencyReserved.toNat) : Reserving layout strict owners after := by
  refine reserving.write inRange blocks settled ?_ (.take reserving.back empty without slots taken unshared) counted
  intro _
  refine ⟨slot, inCapacity, taken, ?_⟩
  rw [slots, update_self]

/-- A block of the window, or without a slot, leaves the arena's slots as they are. -/
theorem leaveSlot
    (outside : (before.blocks index).shared = true ∨ (before.blocks index).residentSlotIndex = none)
    (slots : after.residentSlots = before.residentSlots) (unreserved : block.residencyReserved = false)
    (counted : after.reservedBlockCount + (before.blocks index).residencyReserved.toNat =
      before.reservedBlockCount) : Reserving layout strict owners after := by
  refine reserving.write inRange blocks settled ?_ ⟨?_, ?_⟩ ?_
  · intro reserved
    rw [unreserved] at reserved
    cases reserved
  · intro b _ s _ held
    rwa [slots]
  · intro s inCapacity b held
    rw [slots] at held
    refine .inr ⟨?_, held⟩
    rintro rfl
    obtain ⟨_, there, unshared⟩ := reserving.back s inCapacity b held
    rcases outside with shared | without
    · rw [unshared] at shared
      cases shared
    · rw [without] at there
      cases there
  · rw [unreserved, counted]
    rfl

end

/-- The block changes in nothing that its residency depends on. -/
theorem touch (inRange : index < layout.logicalBlockCount)
    (blocks : after.blocks = update before.blocks index block)
    (slots : after.residentSlots = before.residentSlots)
    (count : after.reservedBlockCount = before.reservedBlockCount)
    (allocated : block.allocated = (before.blocks index).allocated)
    (resident : block.resident = (before.blocks index).resident)
    (reserved : block.residencyReserved = (before.blocks index).residencyReserved)
    (shared : block.shared = (before.blocks index).shared)
    (slot : block.residentSlotIndex = (before.blocks index).residentSlotIndex)
    (references : block.residencyReferenceCount = (before.blocks index).residencyReferenceCount) :
    Reserving layout strict owners after := by
  have was := reserving.settled index inRange
  refine reserving.keep inRange blocks ?_ slots count slot reserved fun unshared => shared.trans unshared
  constructor
  · rw [resident, reserved, slot, references]
    exact was.vacant
  · rw [reserved, resident, allocated, references]
    exact was.reserving
  · rw [resident, shared]
    exact was.unshared
  · rw [resident, allocated]
    exact was.allocated
  · rw [references]
    exact was.counted

/-- Fields beside the blocks, the slots and the number of reserved blocks do not matter. -/
theorem congr (blocks : after.blocks = before.blocks)
    (slots : after.residentSlots = before.residentSlots)
    (count : after.reservedBlockCount = before.reservedBlockCount) : Reserving layout strict owners after := by
  constructor
  · rw [blocks]
    exact reserving.settled
  · rw [blocks, slots]
    exact reserving.leads
  · rw [blocks, slots]
    exact reserving.back
  · rw [blocks, count]
    exact reserving.counted

end Writes

section Eviction

/-- What giving up a slot does to a block that is not shared, or is not in the arena's own slots. -/
theorem releaseResidentSlot_cases (layout : Layout) (arena : Arena) (index : Nat) :
    ((arena.releaseResidentSlot layout index).1 ≠ .ok ∧ (arena.releaseResidentSlot layout index).2 = arena) ∨
      (((arena.blocks index).shared = true ∨ (arena.blocks index).residentSlotIndex = none) ∧
        arena.releaseResidentSlot layout index =
          (.ok, arena.setBlock index { arena.blocks index with residentSlotIndex := none })) ∨
      ∃ slot, (arena.blocks index).residentSlotIndex = some slot ∧ arena.residentSlots slot = some index ∧
        slot < layout.residentBlockCapacity ∧
        arena.releaseResidentSlot layout index =
          (.ok, { arena.setBlock index { arena.blocks index with residentSlotIndex := none } with
            residentSlots := update arena.residentSlots slot none
            nextResidentSlotScan := slot }) := by
  unfold releaseResidentSlot
  dsimp only
  split
  · rename_i without
    exact .inr (.inl ⟨.inr without, rfl⟩)
  · rename_i slot there
    split
    · rename_i shared
      exact .inr (.inl ⟨.inl shared, rfl⟩)
    · split
      · exact Or.inl ⟨by simp, rfl⟩
      · rename_i matching
        simp only [not_or, not_not, Nat.not_le] at matching
        exact .inr (.inr ⟨slot, there, matching.2, matching.1, rfl⟩)

variable (reserving : Reserving layout strict owners arena)
include reserving

/-- A resident block without references gives up its slot, and what is written of it then needs none. -/
theorem releases (inRange : index < layout.logicalBlockCount)
    (unreserved : (arena.blocks index).residencyReserved = false) {rest : Arena → SparkStatus × Arena}
    (writes : ∀ now : Arena, now.reservedBlockCount = arena.reservedBlockCount →
      now.blocks = update arena.blocks index { arena.blocks index with residentSlotIndex := none } →
      (rest now).2.residentSlots = now.residentSlots ∧ (rest now).2.reservedBlockCount = now.reservedBlockCount ∧
        ∃ block, (rest now).2.blocks = update now.blocks index block ∧
          block.residencyReserved = false ∧ block.Settled strict (owners index)) :
    Reserving layout strict owners (andThen (arena.releaseResidentSlot layout index) rest).2 := by
  rcases releaseResidentSlot_cases layout arena index with ⟨failed, same⟩ | ⟨outside, released⟩ |
    ⟨slot, there, held, inCapacity, released⟩
  · rw [andThen_failed failed, same]
    exact reserving
  · rw [released, andThen_ok rfl]
    obtain ⟨slots, count, block, blocks, stillUnreserved, settled⟩ :=
      writes (arena.setBlock index { arena.blocks index with residentSlotIndex := none }) rfl rfl
    have written : (rest (arena.setBlock index { arena.blocks index with residentSlotIndex := none })).2.blocks =
        update arena.blocks index block := by
      rw [blocks]
      exact update_idem ..
    refine reserving.leaveSlot inRange written settled outside slots stillUnreserved ?_
    rw [count, unreserved]
    rfl
  · rw [released, andThen_ok rfl]
    obtain ⟨slots, count, block, blocks, stillUnreserved, settled⟩ :=
      writes { arena.setBlock index { arena.blocks index with residentSlotIndex := none } with
        residentSlots := update arena.residentSlots slot none
        nextResidentSlotScan := slot } rfl rfl
    refine reserving.dropSlot inRange ?_ settled there slots held stillUnreserved ?_
    · rw [blocks]
      exact update_idem ..
    · rw [count, unreserved]
      rfl

/-- A resident block without references that leaves residency. -/
theorem dropResidency (inRange : index < layout.logicalBlockCount)
    (unshared : (arena.blocks index).shared = false) (unreserved : (arena.blocks index).residencyReserved = false)
    (unpinned : (arena.blocks index).residencyReferenceCount = 0) :
    Reserving layout strict owners (arena.dropResidency layout index).2 := by
  refine reserving.releases inRange unreserved fun now count blocks => ⟨rfl, rfl, _, rfl, ?_, ?_⟩
  · simp [blocks, unreserved]
  · constructor
    · simp [blocks, unpinned]
    · simp [blocks, unreserved]
    · simp [blocks, unshared]
    · simp
    · simp [blocks, unpinned]

end Eviction

section Residency

variable (reserving : Reserving layout strict owners arena)
include reserving

/-- Another number of references to a resident block. -/
theorem pins (inRange : index < layout.logicalBlockCount)
    (resident : (arena.blocks index).resident = true) (unreserved : (arena.blocks index).residencyReserved = false)
    {references : Nat} (counted : references ≤ maxU32) :
    Reserving layout strict owners (arena.useBlock index
      { arena.blocks index with residencyReferenceCount := references }) := by
  have was := reserving.settled index inRange
  refine reserving.keep inRange rfl ⟨?_, ?_, ?_, ?_, counted⟩ rfl rfl rfl rfl fun unshared => unshared
  · simp [resident]
  · simp [unreserved]
  · simp [resident]
  · exact was.allocated

omit reserving in
theorem tended (layout : Layout) (strict : Prop) (owners : Nat → Nat) :
    Tended layout (Reserving layout strict owners) where
  back := fun reserving => reserving.back
  slotless := fun reserving inRange vacant => ((reserving.settled _ inRange).vacant vacant.absent vacant.unreserved).1
  unshared := fun reserving inRange => (reserving.settled _ inRange).unshared
  counted := fun reserving inRange => (reserving.settled _ inRange).counted
  congr := fun reserving blocks beside => reserving.congr blocks beside.slots beside.reserved
  touch := fun reserving inRange blocks beside same => reserving.touch inRange blocks beside.slots beside.reserved
    same.allocated same.resident same.reserved same.shared same.slot same.references
  drop := fun reserving inRange unshared _ => reserving.dropResidency inRange unshared
  occupy := by
    intro before after index slot block reserving inRange vacant inCapacity seats seated
    have was := reserving.settled index inRange
    have without := (was.vacant vacant.absent vacant.unreserved).1
    refine reserving.takeSlot inRange seats.blocks
      ⟨?_, ?_, ?_, fun _ => seated.allocated, seated.references ▸ was.counted⟩ inCapacity seats.empty without
      seats.slots seated.slot seated.unshared ?_
    · simp [seated.resident]
    · simp [seated.unreserved]
    · simp [seated.resident]
    · rw [seats.reserved, vacant.unreserved, seated.unreserved]
  pins := fun reserving inRange resident unreserved bounded => reserving.pins inRange resident unreserved bounded

end Residency

section Lifetimes

variable (reserving : Reserving layout strict owners arena)
include reserving

/-- A recycled block, shared or not, keeps its page. -/
theorem recycleBlock (index : Nat) :
    Reserving layout strict owners (arena.recycleBlock layout index).2 := by
  refine onBlock_preserves (P := Reserving layout strict owners) reserving fun _ inRange => ?_
  split
  · exact reserving
  rename_i allocated
  split
  · exact reserving
  rename_i idle
  simp only [not_or, Bool.not_eq_true, ne_eq, not_not] at idle
  obtain ⟨-, unpinned, unreserved⟩ := idle
  have was := reserving.settled index inRange
  refine reserving.keep inRange rfl ⟨?_, ?_, fun _ => rfl, fun _ => rfl, was.counted⟩ rfl rfl rfl
    unreserved.symm fun _ => rfl
  · exact fun absent _ => was.vacant absent unreserved
  · simp

/-- A block that is not handed out is neither resident nor reserved. -/
theorem unused (inRange : index < layout.logicalBlockCount)
    (unallocated : (arena.blocks index).allocated = false) :
    (arena.blocks index).resident = false ∧ (arena.blocks index).residencyReserved = false := by
  have was := reserving.settled index inRange
  constructor
  · by_contra resident
    have allocated := was.allocated (by simpa using resident)
    rw [unallocated] at allocated
    cases allocated
  · by_contra reserved
    have allocated := (was.reserving (by simpa using reserved)).2.1
    rw [unallocated] at allocated
    cases allocated

/-- The head of the free list is handed out without a page. -/
theorem acquireBlock :
    Reserving layout strict owners (arena.acquireBlock layout).2.2 ∧
      ∀ index acquired, arena.acquireBlock layout = (.ok, some index, acquired) →
        index < layout.logicalBlockCount ∧ (acquired.blocks index).allocated = true ∧
        (acquired.blocks index).resident = false ∧ (acquired.blocks index).residencyReserved = false := by
  unfold Arena.acquireBlock
  split
  · exact ⟨reserving, fun _ _ absurdity => by simp at absurdity⟩
  split
  · exact ⟨reserving, fun _ _ absurdity => by simp at absurdity⟩
  rename_i index head
  split
  · exact ⟨reserving, fun _ _ absurdity => by simp at absurdity⟩
  rename_i bound
  split
  · exact ⟨reserving, fun _ _ absurdity => by simp at absurdity⟩
  rename_i free
  have inRange : index < layout.logicalBlockCount := Nat.lt_of_not_le bound
  obtain ⟨absent, unreserved⟩ := reserving.unused inRange (by simpa using free)
  have was := reserving.settled index inRange
  constructor
  · refine reserving.keep inRange rfl
      ⟨fun _ _ => was.vacant absent unreserved, ?_, fun _ => rfl, ?_, was.counted⟩ rfl rfl rfl unreserved.symm
      fun _ => rfl
    · simp
    · simp
  · intro handed acquired same
    simp only [Prod.mk.injEq, Option.some.injEq, true_and] at same
    obtain ⟨rfl, rfl⟩ := same
    simp [Arena.useBlock, inRange]

theorem adoptSharedBlock (windowSlot : Nat) :
    Reserving layout strict owners (arena.adoptSharedBlock layout windowSlot).2.2 := by
  rcases adoptSharedBlock_cases layout arena windowSlot with
    ⟨_, unchanged⟩ | ⟨index, acquired, handed, _, adopted⟩
  · rw [unchanged]
    exact reserving
  · obtain ⟨kept, fresh⟩ := reserving.acquireBlock
    obtain ⟨inRange, allocated, absent, unreserved⟩ := fresh index acquired handed
    rw [handed] at kept
    dsimp only at kept
    rw [adopted]
    have was := kept.settled index inRange
    refine kept.leaveSlot inRange rfl ⟨?_, ?_, ?_, fun _ => allocated, was.counted⟩
      (.inr (was.vacant absent unreserved).1) rfl unreserved ?_
    · simp
    · simp [unreserved]
    · simp
    · rw [unreserved]
      rfl

theorem freeBlock (index : Nat) :
    Reserving layout strict owners (arena.freeBlock layout index).2 := by
  refine onBlock_preserves (P := Reserving layout strict owners) reserving fun _ inRange => ?_
  have was := reserving.settled index inRange
  split
  · exact reserving
  split
  · exact reserving
  split
  · exact reserving
  rename_i idle
  simp only [not_or, Bool.not_eq_true, ne_eq, not_not] at idle
  obtain ⟨unreserved, unpinned⟩ := idle
  split
  · -- a shared block gives up its slot of the window
    rename_i shared
    rw [Placed.releaseResidentSlot_shared shared]
    dsimp only
    split
    · rw [andThen_failed (by simp)]
      refine reserving.leaveSlot inRange rfl ⟨?_, ?_, ?_, was.allocated, was.counted⟩ (.inl shared) rfl
        unreserved ?_
      · exact fun _ _ => ⟨rfl, fun _ => unpinned⟩
      · simp [unreserved]
      · exact was.unshared
      · simp [setBlock, unreserved]
    · rw [andThen_pure]
      refine reserving.leaveSlot inRange (update_idem ..) ⟨?_, ?_, ?_, ?_, ?_⟩ (.inl shared) rfl rfl ?_
      · simp [setBlock, unpinned]
      · simp
      · simp
      · simp
      · simp [setBlock, unpinned]
      · simp [setBlock, Arena.useBlock, unreserved]
  rename_i notShared
  split
  · -- a private block gives up its slot of the arena
    rename_i resident
    rw [andThen_assoc]
    refine reserving.releases inRange unreserved fun now count blocks => ?_
    dsimp only
    split
    · rw [andThen_failed (by simp)]
      refine ⟨rfl, rfl, now.blocks index, (update_eq_self _ _).symm, ?_, ?_, ?_, ?_, ?_, ?_⟩
      · simp [blocks, unreserved]
      · simp [blocks, unpinned]
      · simp [blocks, unreserved]
      · simp [blocks, resident]
      · simpa [blocks] using was.allocated
      · simp [blocks, unpinned]
    · rw [andThen_pure]
      refine ⟨rfl, rfl, _, rfl, rfl, ?_, ?_, ?_, ?_, ?_⟩
      · simp [blocks, unpinned]
      · simp
      · simp
      · simp
      · simp [blocks, unpinned]
  · rename_i notResident
    have vacant := was.vacant (by simpa using notResident) unreserved
    rw [andThen_pure]
    refine reserving.keep inRange rfl ⟨?_, ?_, ?_, ?_, ?_⟩ rfl rfl rfl unreserved.symm fun _ => rfl
    · simpa using vacant
    · simp
    · simp
    · simp
    · simp [unpinned]

end Lifetimes

section Completion

variable (reserving : Reserving layout strict owners arena)
include reserving

/-- A block of a plan is resident afterwards. -/
theorem completeBlock (inRange : index < layout.logicalBlockCount)
    (there : (arena.blocks index).resident = true ∨ (arena.blocks index).residencyReserved = true) :
    (Arena.completeBlock index arena).1 = .ok ∧ Reserving layout strict owners (Arena.completeBlock index arena).2 ∧
      ((Arena.completeBlock index arena).2.blocks index).resident = true ∧
      ∀ b, b ≠ index → (Arena.completeBlock index arena).2.blocks b = arena.blocks b := by
  have was := reserving.settled index inRange
  have wrapped := Placed.takeReference_le (arena.blocks index).residencyReferenceCount
  rw [Arena.completeBlock]
  dsimp only
  split
  · rename_i resident
    refine ⟨rfl, reserving.keep inRange rfl ⟨?_, ?_, ?_, was.allocated, wrapped⟩ rfl rfl rfl rfl
      fun unshared => unshared, ?_, fun b apart => ?_⟩
    · simp [resident]
    · intro reserved
      have absent := (was.reserving reserved).1
      rw [resident] at absent
      cases absent
    · simp [resident]
    · simp [Arena.useBlock, resident]
    · simp [Arena.useBlock, update_of_ne apart]
  rename_i notResident
  have absent : (arena.blocks index).resident = false := by simpa using notResident
  have reserved : (arena.blocks index).residencyReserved = true := there.resolve_left notResident
  have counted := reserving.counts inRange reserved
  rw [if_neg counted]
  refine ⟨rfl, ?_, ?_, fun b apart => ?_⟩
  · refine reserving.write inRange rfl ⟨?_, ?_, ?_, ?_, wrapped⟩ ?_
      (.keep reserving.back rfl rfl fun unshared => unshared) ?_
    · simp
    · simp
    · simp
    · exact fun _ => (was.reserving reserved).2.1
    · simp
    · simp [Arena.useBlock, reserved]
      omega
  · simp [Arena.useBlock]
  · simp [Arena.useBlock, update_of_ne apart]

/-- The blocks of a plan are resident once it is completed, and no longer reserved. -/
theorem completeBlocks (indices : List Nat)
    (there : ∀ index ∈ indices, index < layout.logicalBlockCount ∧
      ((arena.blocks index).resident = true ∨ (arena.blocks index).residencyReserved = true)) :
    Reserving layout strict owners (forEach Arena.completeBlock indices arena).2 ∧
      (∀ b, (arena.blocks b).resident = true →
        ((forEach Arena.completeBlock indices arena).2.blocks b).resident = true) ∧
      ∀ index ∈ indices, ((forEach Arena.completeBlock indices arena).2.blocks index).resident = true := by
  induction indices generalizing arena with
  | nil => exact ⟨reserving, fun _ resident => resident, by simp⟩
  | cons index rest ih =>
    obtain ⟨inRange, present⟩ := there index (.head _)
    obtain ⟨succeeded, completed, resident, others⟩ := reserving.completeBlock inRange present
    rw [forEach, andThen_ok succeeded]
    obtain ⟨finished, stays, all⟩ := ih completed fun other listed => by
      refine ⟨(there other (.tail _ listed)).1, ?_⟩
      by_cases here : other = index
      · rw [here]
        exact .inl resident
      · rw [others other here]
        exact (there other (.tail _ listed)).2
    refine ⟨finished, fun b was => stays b ?_, ?_⟩
    · by_cases here : b = index
      · rw [here]
        exact resident
      · rw [others b here]
        exact was
    · intro other listed
      rcases List.mem_cons.mp listed with here | later
      · rw [here]
        exact stays index resident
      · exact all other later

/-- A plan that is completed no longer counts among those that name its blocks. -/
theorem markPrefetchPlanResident {plan : PrefetchPlan} {others : Nat → Nat}
    (settled : (arena.markPrefetchPlanResident layout plan).1 = .ok)
    (agree : ∀ b, b ∉ plan.logicalBlocks → owners b ≤ others b) :
    Reserving layout strict others (arena.markPrefetchPlanResident layout plan).2 := by
  revert settled
  rw [Arena.markPrefetchPlanResident, onPlan]
  split
  · exact fun succeeded => absurd succeeded ‹_›
  split
  · exact fun succeeded => absurd succeeded ‹_›
  split
  · exact fun succeeded => absurd succeeded ‹_›
  rename_i checked
  intro _
  obtain ⟨completed, -, resident⟩ :=
    reserving.completeBlocks plan.logicalBlocks (Placed.validatePlanBlocks_ok (not_not.mp checked))
  refine completed.reowned fun counting b inRange reserved => ?_
  obtain ⟨absent, -, -, owned⟩ := (completed.settled b inRange).reserving reserved
  refine le_trans (owned counting) (agree b fun listed => ?_)
  rw [resident b listed] at absent
  cases absent

end Completion

section Cancellation

/-- What cancelling an entry of a plan does: it takes a reference, and with the last one of a reserved block
the slot. -/
theorem cancelBlock_cases (reserving : Reserving layout strict owners arena)
    (inRange : index < layout.logicalBlockCount)
    (there : (arena.blocks index).resident = true ∨ (arena.blocks index).residencyReserved = true) :
    (((arena.blocks index).resident = true ∨ 1 < (arena.blocks index).residencyReferenceCount) ∧
        Arena.cancelBlock layout index arena = (.ok, arena.setBlock index { arena.blocks index with
          residencyReferenceCount := takeReference (arena.blocks index).residencyReferenceCount })) ∨
      ((arena.blocks index).residencyReserved = true ∧ (arena.blocks index).residencyReferenceCount = 1 ∧
        ∃ slot, (arena.blocks index).residentSlotIndex = some slot ∧ arena.residentSlots slot = some index ∧
          Arena.cancelBlock layout index arena = (.ok, { arena with
            reservedBlockCount := arena.reservedBlockCount - 1
            residentSlots := update arena.residentSlots slot none
            nextResidentSlotScan := slot
            blocks := update arena.blocks index { arena.blocks index with
              residencyReferenceCount := 0
              residencyReserved := false
              residentSlotIndex := none } })) := by
  have was := reserving.settled index inRange
  rw [Arena.cancelBlock]
  dsimp only
  by_cases resident : (arena.blocks index).resident = true
  · rw [if_neg (by simp [resident])]
    exact .inl ⟨.inl resident, rfl⟩
  have reserved := there.resolve_left resident
  obtain ⟨absent, -, referenced, -⟩ := was.reserving reserved
  have taken := Placed.takeReference_pos (Nat.pos_of_ne_zero referenced) was.counted
  by_cases last : (arena.blocks index).residencyReferenceCount = 1
  · obtain ⟨slot, inCapacity, own, held⟩ := reserving.leads index inRange reserved
    refine .inr ⟨reserved, last, slot, own, held, ?_⟩
    have counted := reserving.counts inRange reserved
    have unshared := was.unshared absent
    have none : takeReference (arena.blocks index).residencyReferenceCount = 0 := by rw [taken, last]
    rw [none, if_pos (by simp [absent]), Arena.releaseReservation, if_neg (by simpa [setBlock] using counted)]
    simp only [setBlock, releaseResidentSlot, update_self, own, unshared, held, update_idem]
    rw [if_neg (by simp), if_neg (by simp [Nat.not_le.mpr inCapacity])]
  · rw [if_neg (by rw [taken]; omega)]
    exact .inl ⟨.inr (by omega), rfl⟩

/-- Cancelling an entry of a plan takes one of the references to its block. -/
theorem cancelBlock (reserving : Reserving layout strict owners arena) (fewer : Nat → Nat)
    (inRange : index < layout.logicalBlockCount)
    (there : (arena.blocks index).resident = true ∨ (arena.blocks index).residencyReserved = true)
    (own : strict → owners index ≤ fewer index + 1)
    (agree : strict → ∀ b, b ≠ index → owners b ≤ fewer b) :
    (Arena.cancelBlock layout index arena).1 = .ok ∧
      Reserving layout strict fewer (Arena.cancelBlock layout index arena).2 ∧
      ∀ b, b ≠ index → (Arena.cancelBlock layout index arena).2.blocks b = arena.blocks b := by
  have was := reserving.settled index inRange
  have others : strict → ∀ b < layout.logicalBlockCount, b ≠ index → (arena.blocks b).residencyReserved = true →
      (arena.blocks b).residencyReferenceCount ≤ fewer b := by
    intro counting b bound apart reserved
    exact le_trans (((reserving.settled b bound).reserving reserved).2.2.2 counting) (agree counting b apart)
  rcases reserving.cancelBlock_cases inRange there with ⟨more, taken⟩ | ⟨reserved, last, slot, own, held, released⟩
  · rw [taken]
    refine ⟨rfl, ?_, fun b apart => update_of_ne apart ..⟩
    have fewerReferences : (arena.blocks index).residencyReserved = true →
        1 < (arena.blocks index).residencyReferenceCount ∧
          takeReference (arena.blocks index).residencyReferenceCount =
            (arena.blocks index).residencyReferenceCount - 1 := by
      intro reserved
      obtain ⟨absent, -, referenced, -⟩ := was.reserving reserved
      refine ⟨more.resolve_left (by simp [absent]), ?_⟩
      exact Placed.takeReference_pos (Nat.pos_of_ne_zero referenced) was.counted
    have kept : Reserving layout strict owners (arena.setBlock index { arena.blocks index with
        residencyReferenceCount := takeReference (arena.blocks index).residencyReferenceCount }) := by
      refine reserving.keep inRange rfl
        ⟨?_, ?_, was.unshared, was.allocated, Placed.takeReference_le _⟩ rfl rfl rfl rfl fun unshared => unshared
      · intro absent unreserved
        rcases there with resident | reserved
        · exact absurd (resident.symm.trans absent) (by simp)
        · exact absurd (reserved.symm.trans unreserved) (by simp)
      · intro reserved
        obtain ⟨absent, allocated, -, owned⟩ := was.reserving reserved
        obtain ⟨several, fewer⟩ := fewerReferences reserved
        refine ⟨absent, allocated, ?_, fun counting => ?_⟩
        · dsimp only
          omega
        · have bound := owned counting
          dsimp only
          omega
    refine kept.reowned fun counting b bound reserved => ?_
    by_cases here : b = index
    · subst here
      simp only [setBlock, update_self] at reserved ⊢
      have owned := (was.reserving reserved).2.2.2 counting
      have left := own counting
      have fewer := (fewerReferences reserved).2
      omega
    · simp only [setBlock, update_of_ne here] at reserved ⊢
      exact others counting b bound here reserved
  · rw [released]
    refine ⟨rfl, ?_, fun b apart => update_of_ne apart ..⟩
    have counted := reserving.counts inRange reserved
    have absent := (was.reserving reserved).1
    have kept : Reserving layout strict owners ({ arena with
        reservedBlockCount := arena.reservedBlockCount - 1
        residentSlots := update arena.residentSlots slot none
        nextResidentSlotScan := slot
        blocks := update arena.blocks index { arena.blocks index with
          residencyReferenceCount := 0
          residencyReserved := false
          residentSlotIndex := none } } : Arena) := by
      refine reserving.dropSlot inRange rfl ⟨?_, ?_, ?_, was.allocated, ?_⟩ own rfl held rfl ?_
      · simp
      · simp
      · exact was.unshared
      · simp
      · rw [reserved]
        simp only [Bool.toNat_true]
        omega
    refine kept.reowned fun counting b bound stillReserved => ?_
    by_cases here : b = index
    · subst here
      simp at stillReserved
    · simp only [update_of_ne here] at stillReserved ⊢
      exact others counting b bound here stillReserved

/-- The entries of a plan are cancelled one after another, without an error. -/
theorem cancelBlocks {fewer : Nat → Nat} (indices : List Nat) (apart : indices.Nodup)
    (reserving : Reserving layout strict (fun b => fewer b + indices.count b) arena)
    (there : ∀ index ∈ indices, index < layout.logicalBlockCount ∧
      ((arena.blocks index).resident = true ∨ (arena.blocks index).residencyReserved = true)) :
    (forEach (Arena.cancelBlock layout) indices arena).1 = .ok ∧
      Reserving layout strict fewer (forEach (Arena.cancelBlock layout) indices arena).2 := by
  induction indices generalizing arena with
  | nil => exact ⟨rfl, reserving⟩
  | cons index rest ih =>
    obtain ⟨unlisted, apart⟩ := List.nodup_cons.mp apart
    obtain ⟨inRange, present⟩ := there index (.head _)
    obtain ⟨succeeded, cancelled, others⟩ :=
      reserving.cancelBlock (fun b => fewer b + rest.count b) inRange present
        (fun _ => by simp; omega) fun _ b different => by simp [Ne.symm different]
    rw [forEach, andThen_ok succeeded]
    refine ih apart cancelled fun other listed => ?_
    have different : other ≠ index := by
      rintro rfl
      exact unlisted listed
    rw [others other different]
    exact there other (.tail _ listed)

/-- A plan that is cancelled no longer counts among those that name its blocks. -/
theorem cancelPrefetchPlan {plan : PrefetchPlan} {fewer : Nat → Nat} (once : plan.logicalBlocks.Nodup)
    (reserving : Reserving layout strict owners arena)
    (settled : (arena.cancelPrefetchPlan layout plan).1 = .ok)
    (agree : ∀ b, owners b ≤ fewer b + plan.logicalBlocks.count b) :
    Reserving layout strict fewer (arena.cancelPrefetchPlan layout plan).2 := by
  revert settled
  rw [Arena.cancelPrefetchPlan, onPlan]
  split
  · exact fun succeeded => absurd succeeded ‹_›
  split
  · exact fun succeeded => absurd succeeded ‹_›
  split
  · exact fun succeeded => absurd succeeded ‹_›
  rename_i checked
  intro _
  exact (cancelBlocks plan.logicalBlocks once (reserving.weaken agree)
    (Placed.validatePlanBlocks_ok (not_not.mp checked))).2

variable (reserving : Reserving layout False owners arena)
include reserving

/-- One entry of a plan that may name a block more often than it has references: the count then wraps, and the block
may be named as often as before but once. -/
theorem cancelBlock_loose (inRange : index < layout.logicalBlockCount)
    {remaining : Nat} (short : remaining < maxU32) (there : Placed.Cancellable (remaining + 1) (arena.blocks index)) :
    Reserving layout False owners (Arena.cancelBlock layout index arena).2 ∧
      Placed.Cancellable remaining ((Arena.cancelBlock layout index arena).2.blocks index) ∧
      ∀ b, b ≠ index → (Arena.cancelBlock layout index arena).2.blocks b = arena.blocks b := by
  have was := reserving.settled index inRange
  by_cases present : (arena.blocks index).resident = true ∨ (arena.blocks index).residencyReserved = true
  · obtain ⟨-, cancelled, others⟩ := reserving.cancelBlock owners inRange present nofun nofun
    refine ⟨cancelled, ?_, others⟩
    rcases reserving.cancelBlock_cases inRange present with ⟨-, taken⟩ | ⟨-, -, slot, -, -, released⟩
    · rw [taken]
      simp only [setBlock, update_self]
      exact present.imp id Or.inl
    · rw [released]
      simp only [update_self]
      exact .inr (.inr (.inl rfl))
  · rw [not_or, Bool.not_eq_true, Bool.not_eq_true] at present
    obtain ⟨absent, unreserved⟩ := present
    have many : remaining < takeReference (arena.blocks index).residencyReferenceCount := by
      rcases there with resident | reserved | zero | many
      · exact absurd (resident.symm.trans absent) (by simp)
      · exact absurd (reserved.symm.trans unreserved) (by simp)
      · rw [zero, Placed.takeReference_zero]
        exact short
      · rw [Placed.takeReference_pos (by omega) was.counted]
        omega
    rw [Arena.cancelBlock]
    dsimp only
    rw [if_neg (by omega)]
    refine ⟨?_, ?_, fun b apart => update_of_ne apart ..⟩
    · refine reserving.keep inRange rfl
        ⟨fun _ _ => ⟨(was.vacant absent unreserved).1, nofun⟩, ?_, was.unshared, was.allocated, Placed.takeReference_le _⟩
        rfl rfl rfl rfl fun unshared => unshared
      simp [unreserved]
    · simp only [setBlock, update_self]
      exact .inr (.inr (.inr many))

/-- A plan of any owner is cancelled, whatever it names. -/
theorem cancelPrefetchPlan_loose (plan : PrefetchPlan) :
    Reserving layout False owners (arena.cancelPrefetchPlan layout plan).2 :=
  Placed.cancelPrefetchPlan_keeps (fun reserving inRange => reserving.cancelBlock_loose inRange) reserving plan

end Cancellation

end Reserving

end Arena

end Sparkpipe.KvCache
