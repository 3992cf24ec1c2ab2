import Sparkpipe.Cache.Arena.Slots
import Sparkpipe.Cache.Arena.Tended

/-!
# The operations on a placed arena

Each public operation keeps the slots, the counters and the free list of an arena in
agreement, the recycling of a shared block excepted. Eviction and the release of a
slot are never asked for a block whose slot does not lead back, so their internal
error is not reached.
-/

namespace Sparkpipe.KvCache

open Function Sparkpipe.Chain

namespace Arena

variable {layout : Layout} {arena before after : Arena} {index : Nat} {block : Block}

namespace Placed

section Release

section

variable (placed : Placed layout arena)
include placed

/-- A block that is not resident is not shared. -/
theorem unshared (inRange : index < layout.logicalBlockCount)
    (absent : (arena.blocks index).resident = false) : (arena.blocks index).shared = false := by
  cases shared : (arena.blocks index).shared with
  | false => rfl
  | true =>
    have resident := (placed.sound index inRange).shared shared
    rw [absent] at resident
    cases resident

/-- A block that is neither resident nor reserved has no slot. -/
theorem slotless (inRange : index < layout.logicalBlockCount)
    (absent : (arena.blocks index).resident = false)
    (unreserved : (arena.blocks index).residencyReserved = false) :
    (arena.blocks index).residentSlotIndex = none := by
  have slotted := (placed.sound index inRange).slotted
  rw [absent, unreserved] at slotted
  simpa using slotted

/-- A block that is resident or reserved has a slot. -/
theorem hasSlot (inRange : index < layout.logicalBlockCount)
    (there : (arena.blocks index).resident = true ∨ (arena.blocks index).residencyReserved = true) :
    ∃ slot, (arena.blocks index).residentSlotIndex = some slot := by
  apply Option.isSome_iff_exists.mp
  rw [(placed.sound index inRange).slotted]
  rcases there with resident | reserved
  · simp [resident]
  · simp [reserved]

/-- The release of a private block's slot succeeds. -/
theorem releaseResidentSlot_eq {slot : Nat}
    (inRange : index < layout.logicalBlockCount) (unshared : (arena.blocks index).shared = false)
    (was : (arena.blocks index).residentSlotIndex = some slot) :
    arena.releaseResidentSlot layout index = (.ok,
      { arena.setBlock index { arena.blocks index with residentSlotIndex := none } with
        residentSlots := update arena.residentSlots slot none
        nextResidentSlotScan := slot }) := by
  obtain ⟨inCapacity, held⟩ := placed.leads index inRange slot unshared was
  unfold releaseResidentSlot
  simp only [was]
  rw [if_neg (by simp [unshared]), if_neg (by simp [held, Nat.not_le.mpr inCapacity])]

end

/-- A shared block's slot belongs to the window, and is not given back to the arena. -/
theorem releaseResidentSlot_shared (shared : (arena.blocks index).shared = true) :
    arena.releaseResidentSlot layout index =
      (.ok, arena.setBlock index { arena.blocks index with residentSlotIndex := none }) := by
  unfold releaseResidentSlot
  dsimp only
  split
  · rfl
  · rw [if_pos shared]

/-- A private resident block that leaves residency. -/
theorem dropResidency (placed : Placed layout arena) (inRange : index < layout.logicalBlockCount)
    (unshared : (arena.blocks index).shared = false) (resident : (arena.blocks index).resident = true) :
    Placed layout (arena.dropResidency layout index).2 := by
  obtain ⟨slot, was⟩ := placed.hasSlot inRange (.inl resident)
  have sound := placed.sound index inRange
  have unreserved := sound.exclusive resident
  have counted : 0 < arena.residentBlockCount := by
    rw [placed.residents]
    exact tally_pos inRange (by simp [Block.isPrivate, resident, unshared])
  unfold Arena.dropResidency
  rw [placed.releaseResidentSlot_eq inRange unshared was, andThen_ok rfl]
  have written : ∀ {now next : Block}, update (update arena.blocks index now) index next =
      update arena.blocks index next := by
    intro now next
    exact update_idem ..
  refine placed.dropSlot inRange written ⟨?_, ?_, ?_, ?_, ?_⟩ ?_ ?_ was unshared rfl ?_
  · simp
  · simp [setBlock, unreserved]
  · simp [setBlock, unreserved]
  · simp [setBlock, unshared]
  · simpa [setBlock] using sound.counted
  · refine ⟨?_, ?_, ?_⟩
    · simp only [Arena.useBlock, setBlock, Block.isPrivate, resident, unshared, update_self]
      simp
      omega
    · simp [Arena.useBlock, setBlock]
    · simp [Arena.useBlock, setBlock]
  · exact placed.free_kept written rfl (by simp [setBlock]) (by simp [setBlock])
  · simp [setBlock]

end Release

section Assignment

/-- An allocated block takes an empty slot and becomes resident. -/
theorem occupy (placed : Placed layout before) (inRange : index < layout.logicalBlockCount)
    (allocated : (before.blocks index).allocated = true)
    (absent : (before.blocks index).resident = false)
    (unreserved : (before.blocks index).residencyReserved = false) {slot : Nat}
    (inCapacity : slot < layout.residentBlockCapacity) (empty : before.residentSlots slot = none)
    (blocks : after.blocks = update before.blocks index block)
    (slots : after.residentSlots = update before.residentSlots slot (some index))
    (head : after.freeLogicalBlockHead = before.freeLogicalBlockHead)
    (counts : after.residentBlockCount = before.residentBlockCount + 1 ∧
      after.reservedBlockCount = before.reservedBlockCount ∧
      after.sharedBlockCount = before.sharedBlockCount)
    (handed : block.allocated = true) (resident : block.resident = true)
    (stillUnreserved : block.residencyReserved = false) (unshared : block.shared = false)
    (taken : block.residentSlotIndex = some slot)
    (next : block.freeNext = (before.blocks index).freeNext)
    (references : block.residencyReferenceCount ≤ maxU32) : Placed layout after := by
  have wasUnshared := placed.unshared inRange absent
  refine placed.takeSlot inRange blocks ⟨?_, ?_, ?_, ?_, references⟩ ⟨?_, ?_, ?_⟩
    (placed.free_kept blocks head (handed.trans allocated.symm) next) inCapacity empty
    (placed.slotless inRange absent unreserved) slots taken unshared
  · exact fun _ => stillUnreserved
  · exact fun _ => handed
  · simp [taken, resident]
  · simp [unshared]
  · simp [Block.isPrivate, absent, resident, unshared, counts]
  · simp [unreserved, stillUnreserved, counts]
  · simp [unshared, wasUnshared, counts]

end Assignment

section Residency

variable (placed : Placed layout arena)
include placed

/-- An operation that only uses a block, or changes what residency does not depend on. -/
theorem uses (inRange : index < layout.logicalBlockCount)
    (allocated : block.allocated = (arena.blocks index).allocated)
    (resident : block.resident = (arena.blocks index).resident)
    (reserved : block.residencyReserved = (arena.blocks index).residencyReserved)
    (shared : block.shared = (arena.blocks index).shared)
    (slot : block.residentSlotIndex = (arena.blocks index).residentSlotIndex)
    (next : block.freeNext = (arena.blocks index).freeNext)
    (references : block.residencyReferenceCount ≤ maxU32) :
    Placed layout (arena.useBlock index block) :=
  placed.touch inRange rfl rfl rfl ⟨rfl, rfl, rfl⟩ allocated resident reserved shared slot next references

omit placed in
theorem tended (layout : Layout) : Tended layout (Placed layout) where
  back := fun placed => placed.back
  slotless := fun placed inRange vacant => placed.slotless inRange vacant.absent vacant.unreserved
  unshared := fun placed => placed.unshared
  counted := fun placed inRange => (placed.sound _ inRange).counted
  congr := fun placed blocks beside =>
    placed.congr blocks beside.slots beside.head beside.residents beside.reserved beside.shared
  touch := by
    intro before after index block placed inRange blocks beside same
    have counted := (placed.sound index inRange).counted
    rw [← same.references] at counted
    exact placed.touch inRange blocks beside.slots beside.head ⟨beside.residents, beside.reserved, beside.shared⟩
      same.allocated same.resident same.reserved same.shared same.slot same.next counted
  drop := fun placed inRange unshared resident _ _ => placed.dropResidency inRange unshared resident
  occupy := by
    intro before after index slot block placed inRange vacant inCapacity seats seated
    have counted := (placed.sound index inRange).counted
    rw [← seated.references] at counted
    exact placed.occupy inRange vacant.allocated vacant.absent vacant.unreserved inCapacity seats.empty seats.blocks
      seats.slots seats.head ⟨seats.residents, seats.reserved, seats.shared⟩ seated.allocated seated.resident
      seated.unreserved seated.unshared seated.slot seated.next counted
  pins := fun placed inRange _ _ bounded => placed.uses inRange rfl rfl rfl rfl rfl rfl bounded

end Residency

section Lifetimes

/-- The checks that recycling a block begins with. -/
theorem recycleBlock (placed : Placed layout arena) (index : Nat)
    (unshared : (arena.blocks index).allocated = true → (arena.blocks index).referenceCount = 0 →
      (arena.blocks index).residencyReferenceCount = 0 →
      (arena.blocks index).residencyReserved = false → (arena.blocks index).shared = false) :
    Placed layout (arena.recycleBlock layout index).2 := by
  refine onBlock_preserves (P := Placed layout) placed fun _ inRange => ?_
  split
  · exact placed
  · rename_i allocated
    split
    · exact placed
    · rename_i idle
      simp only [not_or, Bool.not_eq_true, ne_eq, not_not] at idle
      have handed : (arena.blocks index).allocated = true := by simpa using allocated
      exact placed.uses inRange handed.symm rfl idle.2.2.symm
        (unshared handed idle.1 idle.2.1 idle.2.2).symm rfl rfl (placed.sound index inRange).counted

/-- The head of the free list is handed out, with no page. -/
theorem acquireBlock (placed : Placed layout arena) :
    Placed layout (arena.acquireBlock layout).2.2 ∧
      ∀ index acquired, arena.acquireBlock layout = (.ok, some index, acquired) →
        index < layout.logicalBlockCount ∧ (acquired.blocks index).allocated = true ∧
        (acquired.blocks index).resident = false ∧
        (acquired.blocks index).residencyReserved = false := by
  unfold Arena.acquireBlock
  split
  · exact ⟨placed, fun _ _ absurdity => by simp at absurdity⟩
  · split
    · exact ⟨placed, fun _ _ absurdity => by simp at absurdity⟩
    · rename_i index head
      split
      · exact ⟨placed, fun _ _ absurdity => by simp at absurdity⟩
      · rename_i bound
        split
        · exact ⟨placed, fun _ _ absurdity => by simp at absurdity⟩
        · rename_i free
          have inRange : index < layout.logicalBlockCount := Nat.lt_of_not_le bound
          have sound := placed.sound index inRange
          have unallocated : (arena.blocks index).allocated = false := by simpa using free
          have absent : (arena.blocks index).resident = false := by
            cases resident : (arena.blocks index).resident with
            | false => rfl
            | true => exact absurd (sound.allocated (Or.inl resident)) free
          have unreserved : (arena.blocks index).residencyReserved = false := by
            cases reserved : (arena.blocks index).residencyReserved with
            | false => rfl
            | true => exact absurd (sound.allocated (Or.inr reserved)) free
          have slotless := placed.slotless inRange absent unreserved
          have unshared := placed.unshared inRange absent
          constructor
          · refine placed.keepSlot inRange rfl (.absent rfl rfl rfl slotless sound.counted) ⟨?_, ?_, ?_⟩ ?_ rfl rfl
              unshared.symm
            · simp [Arena.useBlock, Block.isPrivate, absent]
            · simp [Arena.useBlock, unreserved]
            · simp [Arena.useBlock, unshared]
            · have listed := placed.free
              rw [head] at listed
              apply listed.pop
              · intro j _ apart
                simp [Arena.useBlock, update_of_ne apart]
              · intro j
                by_cases here : j = index
                · simp [Arena.useBlock, here]
                · simp [Arena.useBlock, here]
          · intro handed acquired same
            simp only [Prod.mk.injEq, Option.some.injEq, true_and] at same
            obtain ⟨rfl, rfl⟩ := same
            simp [Arena.useBlock, inRange]

theorem adoptSharedBlock (placed : Placed layout arena) (windowSlot : Nat) :
    Placed layout (arena.adoptSharedBlock layout windowSlot).2.2 := by
  rcases adoptSharedBlock_cases layout arena windowSlot with
    ⟨_, unchanged⟩ | ⟨index, acquired, handed, _, adopted⟩
  · rw [unchanged]
    exact placed
  · obtain ⟨kept, fresh⟩ := placed.acquireBlock
    obtain ⟨inRange, allocated, absent, unreserved⟩ := fresh index acquired handed
    rw [handed] at kept
    dsimp only at kept
    rw [adopted]
    have slotless := kept.slotless inRange absent unreserved
    have unshared := kept.unshared inRange absent
    refine kept.write inRange rfl ⟨?_, ?_, ?_, ?_, (kept.sound index inRange).counted⟩ ⟨?_, ?_, ?_⟩
      (kept.free_kept rfl rfl rfl rfl) ?_ ⟨?_, ?_⟩
    · exact fun _ => unreserved
    · exact fun _ => allocated
    · simp
    · simp
    · simp [setBlock, Block.isPrivate, absent]
    · simp [setBlock]
    · simp [setBlock, unshared]
    · intro slot absurdity
      simp at absurdity
    · exact fun b _ slot _ there => there
    · intro slot inCapacity b there
      refine .inr ⟨?_, there⟩
      rintro rfl
      have back := (kept.back slot inCapacity b there).2.1
      rw [slotless] at back
      cases back

/-- The free list once a block that was handed out is put in front. -/
theorem free_pushed (placed : Placed layout before) (inRange : index < layout.logicalBlockCount)
    (allocated : (before.blocks index).allocated = true)
    (blocks : after.blocks = update before.blocks index block)
    (head : after.freeLogicalBlockHead = some index) (freed : block.allocated = false)
    (next : block.freeNext = before.freeLogicalBlockHead) :
    Listed (fun b => (after.blocks b).freeNext) after.freeLogicalBlockHead fun b =>
      b < layout.logicalBlockCount ∧ (after.blocks b).allocated = false := by
  rw [head]
  apply placed.free.push
  · rw [blocks, update_self]
    exact next
  · rintro j ⟨_, unallocated⟩
    have apart : j ≠ index := by
      rintro rfl
      rw [allocated] at unallocated
      cases unallocated
    rw [blocks, update_of_ne apart]
  · intro j
    rw [blocks]
    by_cases here : j = index
    · simp [here, inRange, freed]
    · simp [here]

theorem freeBlock (placed : Placed layout arena) (index : Nat) :
    Placed layout (arena.freeBlock layout index).2 := by
  refine onBlock_preserves (P := Placed layout) placed fun _ inRange => ?_
  have sound := placed.sound index inRange
  split
  · exact placed
  · rename_i allocated
    have handed : (arena.blocks index).allocated = true := by simpa using allocated
    split
    · exact placed
    · split
      · exact placed
      · rename_i idle
        simp only [not_or, Bool.not_eq_true, ne_eq, not_not] at idle
        have written : ∀ {now next : Block},
            update (update arena.blocks index now) index next =
              update arena.blocks index next := update_idem ..
        split
        · -- a shared block gives up its slot of the window
          rename_i shared
          have resident := sound.shared shared
          have counted : 0 < arena.sharedBlockCount := by
            rw [placed.shared]
            exact tally_pos inRange shared
          rw [releaseResidentSlot_shared shared]
          dsimp only
          rw [if_neg (by simp only [setBlock]; omega), andThen_pure]
          refine placed.write inRange written ?_ ⟨?_, ?_, ?_⟩
            (placed.free_pushed inRange handed written rfl rfl rfl) ?_ ⟨?_, ?_⟩
          · refine .absent rfl rfl rfl ?_ ?_
            · simp [setBlock]
            · simpa [setBlock] using sound.counted
          · simp [setBlock, Arena.useBlock, Block.isPrivate, shared]
          · simp [setBlock, Arena.useBlock, idle.1]
          · simp [setBlock, Arena.useBlock, shared]
            omega
          · intro slot _ absurdity
            simp [setBlock] at absurdity
          · exact fun b _ slot _ there => there
          · intro slot inCapacity b there
            refine .inr ⟨?_, there⟩
            rintro rfl
            have back := (placed.back slot inCapacity b there).2.2
            rw [shared] at back
            cases back
        · rename_i notShared
          have unshared : (arena.blocks index).shared = false := by simpa using notShared
          split
          · -- a private block gives up its slot of the arena
            rename_i resident
            obtain ⟨slot, was⟩ := placed.hasSlot inRange (.inl resident)
            have counted : 0 < arena.residentBlockCount := by
              rw [placed.residents]
              exact tally_pos inRange (by simp [Block.isPrivate, resident, unshared])
            rw [placed.releaseResidentSlot_eq inRange unshared was, andThen_pure,
              if_neg (by simp only [setBlock]; omega), andThen_pure]
            refine placed.dropSlot inRange written ?_ ⟨?_, ?_, ?_⟩
              (placed.free_pushed inRange handed written rfl rfl rfl) was unshared rfl ?_
            · refine .absent rfl rfl rfl ?_ ?_
              · simp [setBlock]
              · simpa [setBlock] using sound.counted
            · simp [setBlock, Arena.useBlock, Block.isPrivate, resident, unshared]
              omega
            · simp [setBlock, Arena.useBlock, idle.1]
            · simp [setBlock, Arena.useBlock, unshared]
            · simp [setBlock]
          · rename_i absent
            have missing : (arena.blocks index).resident = false := by simpa using absent
            rw [andThen_pure]
            refine placed.keepSlot inRange rfl
              (.absent rfl rfl rfl (placed.slotless inRange missing idle.1) sound.counted) ⟨?_, ?_, ?_⟩
              (placed.free_pushed inRange handed rfl rfl rfl rfl) rfl rfl unshared.symm
            · simp [Arena.useBlock, Block.isPrivate, missing]
            · simp [Arena.useBlock, idle.1]
            · simp [Arena.useBlock, unshared]

end Lifetimes

section Plans

/-- A block of the arena's own moves from the reserved to the resident blocks. -/
theorem completeBlock (placed : Placed layout arena) (inRange : index < layout.logicalBlockCount)
    (there : (arena.blocks index).resident = true ∨ (arena.blocks index).residencyReserved = true) :
    Placed layout (completeBlock index arena).2 := by
  have sound := placed.sound index inRange
  have wrapped : ∀ references, takeReference references ≤ maxU32 := by
    intro references
    have below := Nat.mod_lt (references + maxU32) (by decide : 0 < 2 ^ 32)
    simp only [takeReference, maxU32] at below ⊢
    omega
  rw [Arena.completeBlock]
  dsimp only
  split
  · rename_i resident
    exact placed.uses inRange rfl rfl rfl rfl rfl rfl (wrapped _)
  · rename_i notResident
    have absent : (arena.blocks index).resident = false := by simpa using notResident
    have reserved : (arena.blocks index).residencyReserved = true :=
      there.resolve_left (by simp [absent])
    have unshared := placed.unshared inRange absent
    split
    · exact placed
    · refine placed.keepSlot inRange rfl ⟨?_, ?_, ?_, ?_, wrapped _⟩ ⟨?_, ?_, ?_⟩
        (placed.free_kept rfl rfl rfl rfl) rfl rfl rfl
      · simp
      · exact fun _ => sound.allocated (.inr reserved)
      · simpa [absent, reserved] using sound.slotted
      · simp
      · simp [Arena.useBlock, Block.isPrivate, absent, unshared]
      · simp [Arena.useBlock, reserved]
        omega
      · simp [Arena.useBlock]

/-- What a plan's entries are known to be while the plan is completed. -/
theorem completeBlocks (placed : Placed layout arena) (indices : List Nat)
    (there : ∀ index ∈ indices, index < layout.logicalBlockCount ∧
      ((arena.blocks index).resident = true ∨ (arena.blocks index).residencyReserved = true)) :
    Placed layout (forEach Arena.completeBlock indices arena).2 := by
  suffices kept : Placed layout (forEach Arena.completeBlock indices arena).2 ∧
      ∀ index ∈ indices, index < layout.logicalBlockCount ∧
        (((forEach Arena.completeBlock indices arena).2.blocks index).resident = true ∨
          ((forEach Arena.completeBlock indices arena).2.blocks index).residencyReserved = true) by
    exact kept.1
  refine forEach_preserves (P := fun now => Placed layout now ∧
    ∀ index ∈ indices, index < layout.logicalBlockCount ∧
      ((now.blocks index).resident = true ∨ (now.blocks index).residencyReserved = true)) ?_
    ⟨placed, there⟩
  rintro index listed now ⟨placed, there⟩
  refine ⟨placed.completeBlock (there index listed).1 (there index listed).2, ?_⟩
  intro other member
  refine ⟨(there other member).1, ?_⟩
  have was := (there other member).2
  rw [Arena.completeBlock]
  dsimp only
  by_cases here : other = index
  · subst here
    split
    · rename_i resident
      simp [Arena.useBlock, resident]
    · split
      · exact was
      · simp [Arena.useBlock]
  · split
    · simpa [Arena.useBlock, update_of_ne here] using was
    · split
      · exact was
      · simpa [Arena.useBlock, update_of_ne here] using was

/-- A reserved block gives its slot back. -/
theorem releaseReservation (placed : Placed layout arena) (inRange : index < layout.logicalBlockCount)
    (absent : (arena.blocks index).resident = false)
    (reserved : (arena.blocks index).residencyReserved = true) :
    Placed layout (arena.releaseReservation layout index).2 := by
  have sound := placed.sound index inRange
  have unshared := placed.unshared inRange absent
  obtain ⟨slot, was⟩ := placed.hasSlot inRange (.inr reserved)
  obtain ⟨inCapacity, held⟩ := placed.leads index inRange slot unshared was
  rw [Arena.releaseReservation]
  split
  · exact placed
  · rename_i counted
    have released : ({ arena with reservedBlockCount := arena.reservedBlockCount - 1 }.setBlock index
        { arena.blocks index with residencyReserved := false }).releaseResidentSlot layout index =
        (.ok, { arena with
          reservedBlockCount := arena.reservedBlockCount - 1
          residentSlots := update arena.residentSlots slot none
          nextResidentSlotScan := slot
          blocks := update arena.blocks index
            { arena.blocks index with
              residencyReserved := false
              residentSlotIndex := none } }) := by
      unfold releaseResidentSlot
      simp only [setBlock, update_self, was, unshared, held]
      rw [if_neg (by simp), if_neg (by simp [Nat.not_le.mpr inCapacity])]
      simp only [update_idem]
    rw [released]
    refine placed.dropSlot inRange rfl (.absent absent rfl unshared rfl sound.counted) ⟨?_, ?_, ?_⟩
      (placed.free_kept rfl rfl rfl rfl) was unshared rfl rfl
    · simp [Block.isPrivate, absent]
    · simp [reserved]
      omega
    · simp

/-- An entry of a plan that may yet be cancelled `remaining` times. A plan can name a block more often
than it is referenced: the count then wraps, and stays far from zero. -/
def Cancellable (remaining : Nat) (block : Block) : Prop :=
  block.resident = true ∨ block.residencyReserved = true ∨ block.residencyReferenceCount = 0 ∨
    remaining < block.residencyReferenceCount

theorem takeReference_zero : takeReference 0 = maxU32 := by decide

theorem takeReference_pos {references : Nat} (positive : 0 < references)
    (bounded : references ≤ maxU32) : takeReference references = references - 1 := by
  simp only [takeReference, maxU32] at bounded ⊢
  omega

theorem takeReference_le (references : Nat) : takeReference references ≤ maxU32 := by
  simp only [takeReference, maxU32]
  omega

/-- Giving a reservation back changes no reference, and no other block. -/
theorem releaseReservation_frame (layout : Layout) (arena : Arena) (index : Nat) :
    ((arena.releaseReservation layout index).2.blocks index).residencyReferenceCount =
        (arena.blocks index).residencyReferenceCount ∧
      ∀ j, j ≠ index → (arena.releaseReservation layout index).2.blocks j = arena.blocks j := by
  rw [Arena.releaseReservation]
  split
  · exact ⟨rfl, fun _ _ => rfl⟩
  · obtain ⟨_, slot, blocks⟩ := releaseResidentSlot_frame layout
      ({ arena with reservedBlockCount := arena.reservedBlockCount - 1 }.setBlock index
        { arena.blocks index with residencyReserved := false }) index
    rw [blocks]
    constructor
    · simp [setBlock]
    · intro j apart
      simp [setBlock, update_of_ne apart]

/-- Cancelling one entry: the block is released only when it is reserved, and every entry may be
cancelled once less often. -/
theorem cancelBlock (placed : Placed layout arena) (inRange : index < layout.logicalBlockCount)
    {remaining : Nat} (short : remaining < maxU32)
    (there : Cancellable (remaining + 1) (arena.blocks index)) :
    Placed layout (cancelBlock layout index arena).2 ∧
      Cancellable remaining ((Arena.cancelBlock layout index arena).2.blocks index) ∧
      ∀ j, j ≠ index → (Arena.cancelBlock layout index arena).2.blocks j = arena.blocks j := by
  have bounded := (placed.sound index inRange).counted
  have taken : Placed layout (arena.setBlock index { arena.blocks index with
      residencyReferenceCount := takeReference (arena.blocks index).residencyReferenceCount }) :=
    placed.touch inRange rfl rfl rfl ⟨rfl, rfl, rfl⟩ rfl rfl rfl rfl rfl rfl (takeReference_le _)
  rw [Arena.cancelBlock]
  dsimp only
  split
  · rename_i done
    obtain ⟨notResident, none⟩ := done
    have absent : (arena.blocks index).resident = false := by simpa using notResident
    have reserved : (arena.blocks index).residencyReserved = true := by
      rcases there with resident | reserved | zero | many
      · rw [absent] at resident
        cases resident
      · exact reserved
      · rw [zero, takeReference_zero] at none
        cases none
      · rw [takeReference_pos (by omega) bounded] at none
        omega
    obtain ⟨references, others⟩ := releaseReservation_frame layout (arena.setBlock index
      { arena.blocks index with
        residencyReferenceCount := takeReference (arena.blocks index).residencyReferenceCount }) index
    refine ⟨taken.releaseReservation inRange (by simpa [setBlock] using absent)
      (by simpa [setBlock] using reserved), ?_, ?_⟩
    · refine .inr (.inr (.inl ?_))
      rw [references]
      simpa [setBlock] using none
    · intro j apart
      rw [others j apart]
      simp only [setBlock, update_of_ne apart]
  · rename_i kept
    refine ⟨taken, ?_, ?_⟩
    · simp only [setBlock, update_self]
      rcases there with resident | reserved | zero | many
      · exact .inl resident
      · exact .inr (.inl reserved)
      · refine .inr (.inr (.inr ?_))
        simp only [zero, takeReference_zero]
        exact short
      · refine .inr (.inr (.inr ?_))
        simp only [takeReference_pos (by omega : 0 < (arena.blocks index).residencyReferenceCount) bounded]
        omega
    · intro j apart
      simp only [setBlock, update_of_ne apart]

/-- What the checks of a plan's entries say about their blocks. -/
theorem validatePlanBlocks_ok {entries : List PrefetchBlock}
    (checked : arena.validatePlanBlocks layout entries = .ok) :
    ∀ index ∈ entries.map PrefetchBlock.logicalBlockIndex, index < layout.logicalBlockCount ∧
      ((arena.blocks index).resident = true ∨ (arena.blocks index).residencyReserved = true) := by
  induction entries with
  | nil => simp
  | cons entry rest ih =>
    rw [validatePlanBlocks] at checked
    split at checked
    · rename_i failed
      exact absurd checked failed
    · rename_i passed
      have one : entry.logicalBlockIndex < layout.logicalBlockCount ∧
          ((arena.blocks entry.logicalBlockIndex).resident = true ∨
            (arena.blocks entry.logicalBlockIndex).residencyReserved = true) := by
        rw [not_not, validatePlanBlock] at passed
        split at passed
        · cases passed
        · dsimp only at passed
          split at passed
          · cases passed
          · rename_i range
            split at passed
            · cases passed
            · split at passed
              · cases passed
              · split at passed
                · cases passed
                · rename_i consistent
                  simp only [not_or, not_and, Bool.not_eq_true', Bool.not_eq_false] at range consistent
                  refine ⟨by omega, ?_⟩
                  by_cases resident : (arena.blocks entry.logicalBlockIndex).resident = true
                  · exact .inl resident
                  · exact Or.inr (consistent.2.2.2.2.2 (by simpa using resident))
      intro index listed
      rcases List.mem_cons.mp listed with rfl | later
      · exact one
      · exact ih checked index later

section

variable {Keeps : Arena → Prop}
  (cancels : ∀ {arena : Arena} {index : Nat}, Keeps arena → index < layout.logicalBlockCount →
    ∀ {remaining : Nat}, remaining < maxU32 → Cancellable (remaining + 1) (arena.blocks index) →
      Keeps (Arena.cancelBlock layout index arena).2 ∧
        Cancellable remaining ((Arena.cancelBlock layout index arena).2.blocks index) ∧
        ∀ b, b ≠ index → (Arena.cancelBlock layout index arena).2.blocks b = arena.blocks b)
include cancels

/-- What the cancellation of each entry keeps, they keep together, however often they name a block. -/
theorem cancelBlocks_keep (keeps : Keeps arena) (indices : List Nat) (short : indices.length ≤ maxU32)
    (there : ∀ index ∈ indices, index < layout.logicalBlockCount ∧
      Cancellable indices.length (arena.blocks index)) :
    Keeps (forEach (Arena.cancelBlock layout) indices arena).2 := by
  induction indices generalizing arena with
  | nil => exact keeps
  | cons index rest ih =>
    simp only [List.length_cons] at short there
    obtain ⟨inRange, cancellable⟩ := there index (.head _)
    obtain ⟨cancelled, own, others⟩ := cancels keeps inRange (by omega) cancellable
    refine andThen_preserves (P := Keeps) cancelled fun _ => ?_
    apply ih cancelled (by omega)
    intro j listed
    obtain ⟨bound, again⟩ := there j (.tail _ listed)
    refine ⟨bound, ?_⟩
    by_cases here : j = index
    · rw [here]
      exact own
    · rw [others j here]
      rcases again with resident | reserved | zero | many
      · exact .inl resident
      · exact .inr (.inl reserved)
      · exact .inr (.inr (.inl zero))
      · exact .inr (.inr (.inr (by omega)))

/-- So does the cancellation of a plan, whose entries are checked first. -/
theorem cancelPrefetchPlan_keeps (keeps : Keeps arena) (plan : PrefetchPlan) :
    Keeps (arena.cancelPrefetchPlan layout plan).2 := by
  refine onPlan_preserves (P := Keeps) keeps fun _ wellFormed checked => ?_
  have short : plan.logicalBlocks.length ≤ prefetchBlockCapacity := by
    rw [validatePrefetchPlan] at wellFormed
    split at wellFormed
    · cases wellFormed
    · rename_i sizes
      simp only [PrefetchPlan.logicalBlocks, List.length_map]
      omega
  refine cancelBlocks_keep cancels keeps plan.logicalBlocks (le_trans short (by decide)) fun index listed => ?_
  obtain ⟨inRange, present⟩ := validatePlanBlocks_ok checked index listed
  exact ⟨inRange, present.imp id Or.inl⟩

end

variable (placed : Placed layout arena)
include placed

theorem cancelPrefetchPlan (plan : PrefetchPlan) :
    Placed layout (arena.cancelPrefetchPlan layout plan).2 :=
  cancelPrefetchPlan_keeps (fun placed inRange => placed.cancelBlock inRange) placed plan

theorem markPrefetchPlanResident (plan : PrefetchPlan) :
    Placed layout (arena.markPrefetchPlanResident layout plan).2 :=
  onPlan_preserves (P := Placed layout) placed fun _ _ checked =>
    placed.completeBlocks plan.logicalBlocks (validatePlanBlocks_ok checked)

/-- A plan takes a slot for a block that is handed out and has none. -/
theorem reserveSlot (inRange : index < layout.logicalBlockCount)
    (allocated : (arena.blocks index).allocated = true)
    (absent : (arena.blocks index).resident = false)
    (unreserved : (arena.blocks index).residencyReserved = false) (plan : PrefetchPlan) :
    Placed layout (arena.reserveSlot layout index plan).2 ∧
      ((arena.reserveSlot layout index plan).2.blocks index).residencyReferenceCount =
        (arena.blocks index).residencyReferenceCount := by
  obtain ⟨now, stays, same, -, ⟨_, ended⟩ | ⟨slot, inCapacity, empty, scan, result⟩⟩ :=
    (tended layout).makeRoom_seats placed inRange ⟨allocated, absent, unreserved⟩ plan.logicalBlocks fun arena =>
      (.ok, { arena with reservedBlockCount := arena.reservedBlockCount + 1 }.setBlock index
        { arena.blocks index with residencyReserved := true })
  · rw [Arena.reserveSlot, ended]
    exact ⟨stays, by rw [same]⟩
  · rw [Arena.reserveSlot, result]
    have away : (now.blocks index).resident = false := by
      rw [same]
      exact absent
    have free : (now.blocks index).residencyReserved = false := by
      rw [same]
      exact unreserved
    have unshared := stays.unshared inRange away
    constructor
    · refine stays.takeSlot inRange (update_idem ..) ⟨?_, ?_, ?_, ?_, ?_⟩ ⟨?_, ?_, ?_⟩
        (stays.free_kept (update_idem ..) rfl ?_ ?_) inCapacity empty (stays.slotless inRange away free) rfl ?_ ?_
      · simp [seat, away]
      · simp [seat, same, allocated]
      · simp [seat]
      · simp [seat, unshared]
      · simpa [seat] using (stays.sound index inRange).counted
      · simp [seat, setBlock, Block.isPrivate, away]
      · simp [seat, setBlock, free]
      · simp [seat, setBlock]
      · simp [seat]
      · simp [seat]
      · simp [seat]
      · simpa [seat] using unshared
    · simp [seat, setBlock, same]

theorem reserveBlockResidency
    (inRange : index < layout.logicalBlockCount) (allocated : (arena.blocks index).allocated = true)
    (plan : PrefetchPlan) : Placed layout (arena.reserveBlockResidency layout index plan).2 := by
  have bounded := (placed.sound index inRange).counted
  have referenced : ∀ {now : Arena}, Placed layout now →
      (now.blocks index).residencyReferenceCount + 1 ≤ maxU32 →
      Placed layout (now.addResidencyReference index) := by
    intro now placed below
    exact placed.touch inRange rfl rfl rfl ⟨rfl, rfl, rfl⟩ rfl rfl rfl rfl rfl rfl below
  rw [Arena.reserveBlockResidency]
  split
  · exact placed
  · rename_i absent
    split
    · exact placed
    · split
      · exact referenced placed (by omega)
      · rename_i unreserved
        obtain ⟨reserved, same⟩ := placed.reserveSlot inRange allocated (by simpa using absent)
          (by simpa using unreserved) plan
        refine andThen_preserves (P := Placed layout) reserved fun _ => ?_
        apply referenced reserved
        rw [same]
        omega

end Plans


/-- The arena that `SparkKvCacheArenaInitialize` leaves. -/
theorem initial (nonempty : 0 < layout.logicalBlockCount) : Placed layout (initial layout) where
  sound b inRange := .absent rfl rfl rfl rfl (Nat.zero_le _)
  leads b inRange slot unshared there := by cases there
  back slot inCapacity b held := by cases held
  residents := (tally_eq_zero fun _ _ => rfl).symm
  reserved := (tally_eq_zero fun _ _ => rfl).symm
  shared := (tally_eq_zero fun _ _ => rfl).symm
  free := listed_successors (fun _ => rfl) nonempty fun _ => and_iff_left rfl

end Placed

/-- The checks that `SparkKvCacheArenaRecycleBlock` makes of a block. -/
def recyclable (arena : Arena) (index : Nat) : Bool :=
  (arena.blocks index).allocated && (arena.blocks index).referenceCount = 0 &&
    (arena.blocks index).residencyReferenceCount = 0 && !(arena.blocks index).residencyReserved

/-- A block that is recycled is none of the shared window. -/
def RecyclesOwn (arena : Arena) : Call → Prop
  | .recycleBlock index => arena.recyclable index → (arena.blocks index).shared = false
  | _ => True

/-- Every operation keeps an arena placed, a recycling when the block is not shared. -/
theorem Placed.operate (placed : Placed layout arena) {call : Call} (own : arena.RecyclesOwn call) :
    Placed layout (arena.operate layout call).2 := by
  have builds : ∀ sources laneCount,
      Placed layout (arena.buildPrefetchPlanFromSourceBlocks layout sources laneCount).2.2 := by
    apply buildPrefetchPlanFromSourceBlocks_preserves (P := Placed layout) _ _ placed
    · intro now source plan sound allocated placed
      apply placed.reserveBlockResidency _ allocated plan
      rw [validatePrefetchSourceBlock] at sound
      split at sound
      · cases sound
      · rename_i named
        rw [not_or] at named
        exact Nat.lt_of_not_le named.1
    · intro now plan placed
      exact placed.cancelPrefetchPlan plan
  refine (Placed.tended layout).operate placed fun rewrites => ?_
  cases call with
  | acquireBlock => exact placed.acquireBlock.1
  | recycleBlock index =>
    apply placed.recycleBlock index
    intro allocated unreferenced unpinned unreserved
    exact own (by simp [recyclable, allocated, unreferenced, unpinned, unreserved])
  | adoptSharedBlock windowSlot => exact placed.adoptSharedBlock windowSlot
  | freeBlock index => exact placed.freeBlock index
  | buildPrefetchPlanFromSourceBlocks sources laneCount => exact builds sources laneCount
  | buildPrefetchPlan indices laneCount =>
    exact buildPrefetchPlan_preserves builds placed indices laneCount
  | buildNextPrefetchPlan indices laneCount next =>
    exact buildNextPrefetchPlan_preserves builds placed indices laneCount next
  | markPrefetchPlanResident plan => exact placed.markPrefetchPlanResident plan
  | cancelPrefetchPlan plan => exact placed.cancelPrefetchPlan plan
  | reset =>
    simp only [Arena.operate, Arena.reset]
    split
    · exact placed
    · rename_i valid
      have nonempty := nonempty_of_validate (not_not.mp valid)
      exact (Placed.initial nonempty).congr rfl rfl rfl rfl rfl rfl
  | _ => cases rewrites

end Arena

namespace KvArena

variable {layout : Layout} {state : KvArena}

/-- `RecyclesOwn` before an operation. -/
def RecyclesOwn (state : KvArena) (call : Call) : Prop := state.arena.RecyclesOwn call

/-- The shared window has no part in where the arena's own pages are. -/
theorem placed_relayout (call : Call) {arena : Arena} (placed : Arena.Placed state.layout arena) :
    Arena.Placed (state.relayout call) arena := by
  cases call with
  | setSharedWindow base count =>
    simp only [relayout, Arena.setSharedWindow]
    split
    · exact placed
    · split
      · exact placed
      · split
        · exact placed
        · exact ⟨placed.sound, placed.leads, placed.back, placed.residents, placed.reserved,
            placed.shared, placed.free⟩
  | _ => exact placed

theorem placed_step (placed : Arena.Placed state.layout state.arena) {call : Call}
    (own : state.RecyclesOwn call) : Arena.Placed (state.step call).layout (state.step call).arena :=
  placed_relayout call (placed.operate own)

/-- In every state of a run that recycles no shared block: a private block that is resident or
reserved and its slot lead to each other; the counters count the blocks with their flags; the free
list holds each block that is not handed out once; and no block is resident and reserved, or has a
slot without being handed out. -/
theorem run_placed (calls : List Call) (nonempty : 0 < layout.logicalBlockCount)
    (own : Along step RecyclesOwn calls (initialized layout)) :
    let final := (initialized layout).run calls
    let blocks := final.arena.blocks
    let count := final.layout.logicalBlockCount
    let capacity := final.layout.residentBlockCapacity
    (∀ b < count, (blocks b).shared = false →
        ((blocks b).resident = true ∨ (blocks b).residencyReserved = true) →
        ∃ slot < capacity, (blocks b).residentSlotIndex = some slot ∧
          final.arena.residentSlots slot = some b) ∧
      (∀ slot < capacity, ∀ b, final.arena.residentSlots slot = some b →
        b < count ∧ (blocks b).residentSlotIndex = some slot ∧ (blocks b).shared = false ∧
          ((blocks b).resident = true ∨ (blocks b).residencyReserved = true)) ∧
      (final.arena.residentBlockCount =
          tally count (fun b => (blocks b).resident && !(blocks b).shared) ∧
        final.arena.reservedBlockCount = tally count (fun b => (blocks b).residencyReserved) ∧
        final.arena.sharedBlockCount = tally count (fun b => (blocks b).shared)) ∧
      (∃ free : List Nat, Follows (fun b => (blocks b).freeNext) final.arena.freeLogicalBlockHead free ∧
        free.Nodup ∧ ∀ b, b ∈ free ↔ b < count ∧ (blocks b).allocated = false) ∧
      ∀ b < count, ¬ ((blocks b).resident = true ∧ (blocks b).residencyReserved = true) ∧
        ((blocks b).allocated = false → (blocks b).residentSlotIndex = none) := by
  have start : Arena.Placed (initialized layout).layout (initialized layout).arena :=
    Arena.Placed.initial nonempty
  have placed : Arena.Placed ((initialized layout).run calls).layout
      ((initialized layout).run calls).arena :=
    own.foldl (P := fun state : KvArena => Arena.Placed state.layout state.arena)
      (fun _ _ placed own => placed_step placed own) start
  intro final blocks count capacity
  obtain ⟨free, chain, members⟩ := placed.free
  refine ⟨?_, ?_, ⟨placed.residents, placed.reserved, placed.shared⟩,
    ⟨free, chain, chain.nodup, members⟩, ?_⟩
  · intro b inRange unshared there
    obtain ⟨slot, was⟩ := placed.hasSlot inRange there
    obtain ⟨inCapacity, held⟩ := placed.leads b inRange slot unshared was
    exact ⟨slot, inCapacity, was, held⟩
  · intro slot inCapacity b held
    obtain ⟨inRange, was, unshared⟩ := placed.back slot inCapacity b held
    refine ⟨inRange, was, unshared, ?_⟩
    have slotted := (placed.sound b inRange).slotted
    rw [was] at slotted
    simpa using slotted.symm
  · intro b inRange
    have sound := placed.sound b inRange
    constructor
    · rintro ⟨resident, reserved⟩
      have unreserved := sound.exclusive resident
      rw [reserved] at unreserved
      cases unreserved
    · intro unallocated
      apply placed.slotless inRange
      · by_contra resident
        have handed := sound.allocated (Or.inl (by simpa using resident))
        exact absurd (handed.symm.trans unallocated) (by simp)
      · by_contra reserved
        have handed := sound.allocated (Or.inr (by simpa using reserved))
        exact absurd (handed.symm.trans unallocated) (by simp)

/-- A page that is recycled while it is in a slot of the arena keeps it. -/
theorem run_placed_recycled :
    let recycled := (initialized onePage).run [.acquireBlock, .markBlockResident 0, .recycleBlock 0]
    ((recycled.arena.blocks 0).resident = true ∧ (recycled.arena.blocks 0).generation = 2) ∧
      ∃ slot < 1, (recycled.arena.blocks 0).residentSlotIndex = some slot ∧
        recycled.arena.residentSlots slot = some 0 := by
  refine ⟨by decide, ?_⟩
  have own : Along step RecyclesOwn [.acquireBlock, .markBlockResident 0, .recycleBlock 0]
      (initialized onePage) := by
    refine ⟨trivial, trivial, ?_, trivial⟩
    intro _
    decide
  exact (run_placed _ (by decide) own).1 0 (by decide) (by decide) (by decide)

/-- A page of the shared window is adopted and its block recycled: the block is now a private
resident block in a slot that the arena does not have, counted among the shared blocks, of which
there are none, and not among the resident ones. -/
theorem recycled_shared_block :
    let calls : List Call := [.setSharedWindow 1 1, .adoptSharedBlock 0, .recycleBlock 0]
    let final := (initialized onePage).run calls
    (initialized onePage).statuses calls = [.ok, .ok, .ok] ∧
      (final.arena.blocks 0).resident = true ∧ (final.arena.blocks 0).shared = false ∧
      (final.arena.blocks 0).residentSlotIndex = some 1 ∧
      (∀ slot < onePage.residentBlockCapacity, final.arena.residentSlots slot ≠ some 0) ∧
      final.arena.sharedBlockCount = 1 ∧ (∀ b < 2, (final.arena.blocks b).shared = false) ∧
      final.arena.residentBlockCount = 0 := by
  decide

end KvArena

end Sparkpipe.KvCache
