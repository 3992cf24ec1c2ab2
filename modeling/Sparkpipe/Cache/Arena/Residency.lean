import Sparkpipe.Cache.Arena.Placement

/-!
# Residency of an arena that nothing pins

The prefix cache pins no block, reserves none for residency and adopts none from the
shared window. The operations it uses keep the arena so, and in such an arena that is
also placed an unreferenced block can always be freed.
-/

namespace Sparkpipe.KvCache

open Function

/-- Nothing but its references holds the block. -/
structure Block.Unpinned (block : Block) : Prop where
  unreserved : block.residencyReserved = false
  unpinned : block.residencyReferenceCount = 0
  unshared : block.shared = false

namespace Block.Unpinned

variable {layout : Layout} {arena other : Arena} {block : Block} {b : Nat}

theorem congr {other : Block} (unpinned : block.Unpinned)
    (reserved : other.residencyReserved = block.residencyReserved)
    (pinned : other.residencyReferenceCount = block.residencyReferenceCount)
    (shared : other.shared = block.shared) : other.Unpinned :=
  ⟨reserved.trans unpinned.unreserved, pinned.trans unpinned.unpinned, shared.trans unpinned.unshared⟩

/-- A write of one block. -/
theorem write {index : Nat} (unpinned : (arena.blocks b).Unpinned)
    (blocks : other.blocks = update arena.blocks index block)
    (own : (arena.blocks index).Unpinned → block.Unpinned) : (other.blocks b).Unpinned := by
  rw [blocks]
  by_cases here : b = index
  · rw [here] at unpinned ⊢
    rw [update_self]
    exact own unpinned
  · rwa [update_of_ne here]

/-- A write that keeps what holds its block. -/
theorem rewrite {index : Nat} (unpinned : (arena.blocks b).Unpinned)
    (blocks : other.blocks = update arena.blocks index block)
    (reserved : block.residencyReserved = (arena.blocks index).residencyReserved)
    (pinned : block.residencyReferenceCount = (arena.blocks index).residencyReferenceCount)
    (shared : block.shared = (arena.blocks index).shared) : (other.blocks b).Unpinned :=
  unpinned.write blocks fun was => was.congr reserved pinned shared

theorem andThen_unpinned {call : SparkStatus × Arena} {rest : Arena → SparkStatus × Arena}
    (start : (call.2.blocks b).Unpinned)
    (next : ∀ now : Arena, (now.blocks b).Unpinned → ((rest now).2.blocks b).Unpinned) :
    ((andThen call rest).2.blocks b).Unpinned :=
  andThen_preserves (P := fun now : Arena => (now.blocks b).Unpinned) start fun _ => next _ start

variable (layout) (unpinned : (arena.blocks b).Unpinned) (index : Nat)
include unpinned

theorem releaseResidentSlot : ((arena.releaseResidentSlot layout index).2.blocks b).Unpinned := by
  obtain ⟨-, slot, blocks⟩ := Arena.releaseResidentSlot_frame layout arena index
  exact unpinned.rewrite blocks rfl rfl rfl

theorem assignResidentSlot : ((arena.assignResidentSlot layout index).2.blocks b).Unpinned := by
  obtain ⟨-, slot, blocks⟩ := Arena.assignResidentSlot_frame layout arena index
  exact unpinned.rewrite blocks rfl rfl rfl

theorem dropResidency : ((arena.dropResidency layout index).2.blocks b).Unpinned := by
  apply andThen_unpinned (unpinned.releaseResidentSlot layout index)
  intro now held
  exact held.rewrite rfl rfl rfl rfl

theorem evictResidentBlock : ((arena.evictResidentBlock layout index).2.blocks b).Unpinned := by
  unfold Arena.evictResidentBlock
  dsimp only
  split
  · exact unpinned
  · split
    · exact unpinned.dropResidency layout index
    · split
      · split
        · exact unpinned.rewrite rfl rfl rfl rfl
        · split
          · exact unpinned
          · split
            · exact unpinned
            · apply Block.Unpinned.dropResidency
              exact unpinned.rewrite rfl rfl rfl rfl
      · exact unpinned.dropResidency layout index

theorem markBlockResident : ((arena.markBlockResident layout index).2.blocks b).Unpinned := by
  refine Arena.onBlock_preserves (P := fun now : Arena => (now.blocks b).Unpinned) unpinned fun _ _ => ?_
  split
  · exact unpinned
  · split
    · exact unpinned
    · split
      · exact unpinned.rewrite rfl rfl rfl rfl
      · split
        · exact unpinned
        · have roomy : ((arena.makeRoomForResidentBlocks layout [index] 1).2.blocks b).Unpinned :=
            Arena.makeRoomForResidentBlocks_preserves (P := fun now : Arena => (now.blocks b).Unpinned)
              (fun _ index _ _ _ _ held => held.evictResidentBlock layout index) (fun _ held => held)
              unpinned [index] 1
          apply andThen_unpinned roomy
          intro now held
          apply andThen_unpinned (held.assignResidentSlot layout index)
          intro now held
          exact held.rewrite rfl rfl rfl rfl

theorem markBlockNonResident : ((arena.markBlockNonResident layout index).2.blocks b).Unpinned := by
  refine Arena.onBlock_preserves (P := fun now : Arena => (now.blocks b).Unpinned) unpinned fun _ _ => ?_
  split
  · exact unpinned
  · split
    · exact unpinned
    · split
      · exact unpinned
      · split
        · exact unpinned.evictResidentBlock layout index
        · exact unpinned.rewrite rfl rfl rfl rfl

theorem retainBlock : ((arena.retainBlock layout index).2.blocks b).Unpinned := by
  rcases Arena.retainBlock_cases layout arena index with ⟨-, same⟩ | ⟨-, -, -, -, same⟩
  · rwa [same]
  · rw [same]
    exact unpinned.rewrite rfl rfl rfl rfl

theorem releaseBlockReference : ((arena.releaseBlockReference layout index).2.blocks b).Unpinned := by
  rcases Arena.releaseBlockReference_cases layout arena index with ⟨-, same⟩ | ⟨-, -, -, -, -, same⟩
  · rwa [same]
  · rw [same]
    exact unpinned.rewrite rfl rfl rfl rfl

theorem recycleBlock : ((arena.recycleBlock layout index).2.blocks b).Unpinned := by
  refine Arena.onBlock_preserves (P := fun now : Arena => (now.blocks b).Unpinned) unpinned fun _ _ => ?_
  split
  · exact unpinned
  · split
    · exact unpinned
    · exact unpinned.write rfl fun was => ⟨rfl, was.unpinned, rfl⟩

theorem freeBlock : ((arena.freeBlock layout index).2.blocks b).Unpinned := by
  refine Arena.onBlock_preserves (P := fun now : Arena => (now.blocks b).Unpinned) unpinned fun _ _ => ?_
  have released := unpinned.releaseResidentSlot layout index
  split
  · exact unpinned
  · split
    · exact unpinned
    · split
      · exact unpinned
      · apply andThen_unpinned
        · split
          · dsimp only
            split
            · exact released
            · exact released
          · split
            · apply andThen_unpinned released
              intro now held
              split
              · exact held
              · exact held
            · exact unpinned
        · intro now held
          exact held.write rfl fun was => ⟨rfl, was.unpinned, rfl⟩

omit index in
theorem acquireBlock : ((arena.acquireBlock layout).2.2.blocks b).Unpinned := by
  unfold Arena.acquireBlock
  split
  · exact unpinned
  · split
    · exact unpinned
    · split
      · exact unpinned
      · split
        · exact unpinned
        · exact unpinned.write rfl fun was => ⟨rfl, was.unpinned, rfl⟩

end Block.Unpinned

namespace Arena

/-- Nothing is pinned, and the slots, the counters and the free list agree with the blocks. -/
structure Housed (layout : Layout) (arena : Arena) : Prop where
  unpinned : ∀ b < layout.logicalBlockCount, (arena.blocks b).Unpinned
  placed : Placed layout arena

namespace Housed

variable {layout : Layout} {arena other : Arena} {index : Nat}

section

variable (housed : Housed layout arena)
include housed

/-- What keeps every block unpinned and the arena placed keeps it housed. -/
theorem keep (placed : Placed layout other)
    (unpinned : ∀ b, (arena.blocks b).Unpinned → (other.blocks b).Unpinned) : Housed layout other :=
  ⟨fun b inRange => unpinned b (housed.unpinned b inRange), placed⟩

theorem moved (moved : Moved layout arena other) :
    Housed layout other := by
  induction moved with
  | refl => exact housed
  | resident _ index ih =>
    exact ih.keep ((Placed.tended layout).markBlockResident ih.placed index) fun _ held =>
      held.markBlockResident layout index
  | nonResident _ index ih =>
    exact ih.keep ((Placed.tended layout).markBlockNonResident ih.placed index) fun _ held =>
      held.markBlockNonResident layout index

theorem retainBlock (index : Nat) :
    Housed layout (arena.retainBlock layout index).2 :=
  housed.keep (@Placed.operate layout arena housed.placed (.retainBlock index) trivial) fun _ held =>
    held.retainBlock layout index

theorem releaseBlockReference (index : Nat) :
    Housed layout (arena.releaseBlockReference layout index).2 :=
  housed.keep (@Placed.operate layout arena housed.placed (.releaseBlockReference index) trivial) fun _ held =>
    held.releaseBlockReference layout index

theorem recycleBlock (index : Nat) :
    Housed layout (arena.recycleBlock layout index).2 := by
  rcases onBlock_cases layout arena index _ with failed | ⟨-, inRange, -⟩
  · unfold Arena.recycleBlock
    rw [failed]
    exact housed
  · exact housed.keep
      (housed.placed.recycleBlock index fun _ _ _ _ => (housed.unpinned index inRange).unshared)
      fun _ held => held.recycleBlock layout index

theorem acquireBlock :
    Housed layout (arena.acquireBlock layout).2.2 :=
  housed.keep housed.placed.acquireBlock.1 fun _ held => held.acquireBlock layout

theorem freeBlock (index : Nat) :
    Housed layout (arena.freeBlock layout index).2 :=
  housed.keep (housed.placed.freeBlock index) fun _ held => held.freeBlock layout index

end

/-- The arena that `SparkKvCacheArenaReset` leaves. -/
theorem startOver (nonempty : 0 < layout.logicalBlockCount) (arena : Arena) :
    Housed layout (arena.startOver layout) :=
  ⟨fun _ _ => ⟨rfl, rfl, rfl⟩, (Placed.initial nonempty).congr rfl rfl rfl rfl rfl rfl⟩

/-- An unreferenced block of such an arena can be freed. -/
theorem freeBlock_ok (housed : Housed layout arena) (valid : validate layout arena = .ok)
    (inRange : index < layout.logicalBlockCount) (unreferenced : (arena.blocks index).referenceCount = 0) :
    (arena.freeBlock layout index).1 = .ok := by
  have unpinned := housed.unpinned index inRange
  unfold Arena.freeBlock
  rw [onBlock_ok valid inRange]
  split
  · rfl
  · rw [if_neg (by simp [unreferenced]), if_neg (by simp [unpinned.unreserved, unpinned.unpinned]),
      if_neg (by simp [unpinned.unshared])]
    split
    · rename_i resident
      obtain ⟨slot, was⟩ := housed.placed.hasSlot inRange (.inl resident)
      have counted : 0 < arena.residentBlockCount := by
        rw [housed.placed.residents]
        exact tally_pos inRange (by simp [Block.isPrivate, resident, unpinned.unshared])
      rw [housed.placed.releaseResidentSlot_eq inRange unpinned.unshared was, andThen_pure,
        if_neg (by simp only [setBlock]; omega), andThen_pure]
    · rw [andThen_pure]

end Housed

end Arena

end Sparkpipe.KvCache
