import Sparkpipe.Cache.Arena.Calls
import Sparkpipe.Cache.Arena.Rules
import Sparkpipe.Lib.Along

/-!
# The capacity of an arena

`SparkKvCacheArenaValidate` demands that the resident, the reserved and the
unassigned blocks fit the resident slots. Every operation makes room before it
adds to them, except `SparkKvCacheArenaAdoptResidentSlot`, which takes the slot it
is given: an adoption that finds no room to spare leaves an arena that refuses
everything from then on.
-/

namespace Sparkpipe.KvCache

namespace Arena

variable {layout : Layout} {arena other : Arena} {index : Nat}

/-- Occupying no more keeps an arena valid. -/
theorem validate_of_occupied_le (valid : validate layout arena = .ok)
    (fewer : other.occupied ≤ arena.occupied) : validate layout other = .ok :=
  validate_of_occupied valid (le_trans fewer (occupied_le_of_validate valid))

/-- A pinned or unpinned block occupies what it did. -/
theorem pinResidentBlock_occupied (arena : Arena) (index bound : Nat) (fits : arena.occupied ≤ bound) :
    (arena.pinResidentBlock layout index).2.occupied ≤ bound := by
  refine onBlock_preserves (P := fun now => now.occupied ≤ bound) fits fun _ _ => ?_
  split
  · exact fits
  · split <;> exact fits

theorem unpinResidentBlock_occupied (arena : Arena) (index bound : Nat)
    (fits : arena.occupied ≤ bound) : (arena.unpinResidentBlock layout index).2.occupied ≤ bound := by
  refine onBlock_preserves (P := fun now => now.occupied ≤ bound) fits fun _ _ => ?_
  split <;> exact fits

theorem acquireBlock_occupied (layout : Layout) (arena : Arena) :
    (arena.acquireBlock layout).2.2.occupied ≤ arena.occupied := by
  rcases acquireBlock_cases layout arena with ⟨_, unchanged⟩ | ⟨_, _, _, _, _, _, _, kept, _⟩
  · exact le_of_eq (congrArg occupied unchanged)
  · exact le_of_eq kept

section Room

theorem trimResidentBlocksProtecting_same (layout : Layout) (arena : Arena) (guarded : List Nat)
    (target : Nat) :
    SameHoldings layout arena (arena.trimResidentBlocksProtecting layout guarded target).2 ∧
      ((arena.trimResidentBlocksProtecting layout guarded target).1 = .ok →
        (arena.trimResidentBlocksProtecting layout guarded target).2.residentBlockCount ≤ target) := by
  rw [trimResidentBlocksProtecting]
  split
  · rename_i invalid
    exact ⟨SameHoldings.refl layout arena, fun succeeded => absurd succeeded invalid⟩
  · split
    · exact ⟨SameHoldings.refl layout arena, by simp⟩
    · exact trimResidentBlocks_same layout guarded target (trimFuel layout) arena

theorem reserveUnassignedResidentBlocks_valid (valid : validate layout arena = .ok) (count : Nat) :
    validate layout (arena.reserveUnassignedResidentBlocks layout count).2 = .ok := by
  rw [reserveUnassignedResidentBlocks, if_neg (by simp [valid])]
  split
  · exact valid
  · split
    · exact valid
    · rename_i roomy
      obtain ⟨same, reached⟩ := trimResidentBlocksProtecting_same layout arena []
        (layout.residentBlockCapacity - arena.reservedBlockCount -
          arena.unassignedResidentBlockCount - count)
      dsimp only
      split
      · apply andThen_preserves (P := fun now => validate layout now = .ok) (same.validates valid)
        intro succeeded
        have bound := reached succeeded
        apply validate_of_occupied (same.validates valid)
        simp only [occupied, same.reserved, same.unassigned]
        omega
      · rename_i fits
        rw [andThen_ok rfl]
        apply validate_of_occupied valid
        simp only [occupied]
        omega

theorem removeUnassignedResidentBlocks_occupied (layout : Layout) (arena : Arena) (count : Nat) :
    (arena.removeUnassignedResidentBlocks layout count).2.occupied ≤ arena.occupied := by
  rw [removeUnassignedResidentBlocks]
  split
  · exact le_refl _
  · split
    · exact le_refl _
    · split
      · exact le_refl _
      · simp only [occupied]
        omega

/-- Room is made, a slot assigned, and one block more is counted. -/
theorem makeRoom_counts_one (valid : validate layout arena = .ok) {guarded : List Nat}
    {last : Arena → SparkStatus × Arena}
    (one : ∀ now : Arena, (last now).2.occupied ≤ now.occupied + 1) :
    validate layout (andThen (arena.makeRoomForResidentBlocks layout guarded 1) fun arena =>
      andThen (arena.assignResidentSlot layout index) last).2 = .ok := by
  obtain ⟨roomy, room⟩ := makeRoomForResidentBlocks_same layout arena guarded 1
  apply andThen_preserves (P := fun now => validate layout now = .ok) (roomy.validates valid)
  intro made
  obtain ⟨assigned, kept⟩ := assignResidentSlot_same layout
    (arena.makeRoomForResidentBlocks layout guarded 1).2 index
  have still := assigned.validates (roomy.validates valid)
  apply andThen_preserves (P := fun now => validate layout now = .ok) still
  intro _
  apply validate_of_occupied still
  have bound := room made
  have grown := one ((arena.makeRoomForResidentBlocks layout guarded 1).2.assignResidentSlot
    layout index).2
  omega

theorem markParkedBlockResident_valid (valid : validate layout arena = .ok) (index : Nat) :
    validate layout (arena.markParkedBlockResident layout index).2 = .ok := by
  refine onBlock_preserves (P := fun now => validate layout now = .ok) valid fun _ _ => ?_
  split
  · exact valid
  · split
    · exact valid
    · split
      · exact validate_of_occupied_le valid (le_refl _)
      · apply makeRoom_counts_one valid
        intro now
        simp only [occupied, useBlock]
        omega

end Room

section Plans

theorem releaseResidentSlot_occupied (layout : Layout) (arena : Arena) (index : Nat) :
    (arena.releaseResidentSlot layout index).2.occupied = arena.occupied :=
  (releaseResidentSlot_same layout arena index).2

/-- A completed entry moves from the reserved to the resident blocks. -/
theorem completeBlock_occupied (index : Nat) (arena : Arena) :
    (completeBlock index arena).2.occupied = arena.occupied := by
  rw [completeBlock]
  dsimp only
  split
  · rfl
  · split
    · rfl
    · simp only [occupied, useBlock]
      omega

theorem cancelBlock_occupied (layout : Layout) (index : Nat) (arena : Arena) :
    (cancelBlock layout index arena).2.occupied ≤ arena.occupied := by
  rw [cancelBlock]
  dsimp only
  split
  · rw [releaseReservation]
    split
    · exact le_refl _
    · rw [releaseResidentSlot_occupied]
      simp only [occupied, setBlock]
      omega
  · exact le_refl _

theorem cancelPrefetchPlan_occupied (layout : Layout) (arena : Arena) (plan : PrefetchPlan) :
    (arena.cancelPrefetchPlan layout plan).2.occupied ≤ arena.occupied :=
  onPlan_preserves (P := fun now => now.occupied ≤ arena.occupied) (le_refl _)
    fun _ _ _ => forEach_preserves (P := fun now => now.occupied ≤ arena.occupied)
      (fun index _ now fits => le_trans (cancelBlock_occupied layout index now) fits) (le_refl _)

theorem reserveBlockResidency_valid (valid : validate layout arena = .ok) (index : Nat)
    (plan : PrefetchPlan) :
    validate layout (arena.reserveBlockResidency layout index plan).2 = .ok := by
  rw [reserveBlockResidency]
  split
  · exact valid
  · split
    · exact valid
    · split
      · exact validate_of_occupied_le valid (le_refl _)
      · have reserved : validate layout (arena.reserveSlot layout index plan).2 = .ok := by
          rw [reserveSlot]
          apply makeRoom_counts_one valid
          intro now
          simp only [occupied, setBlock]
          omega
        apply andThen_preserves (P := fun now => validate layout now = .ok) reserved
        intro _
        exact validate_of_occupied_le reserved (le_refl _)

theorem buildPrefetchPlanFromSourceBlocks_valid (valid : validate layout arena = .ok)
    (sources : List PrefetchSourceBlock) (laneCount : Nat) :
    validate layout (arena.buildPrefetchPlanFromSourceBlocks layout sources laneCount).2.2 = .ok := by
  apply buildPrefetchPlanFromSourceBlocks_preserves (P := fun now => validate layout now = .ok)
  · intro now source plan _ _ valid
    exact reserveBlockResidency_valid valid source.logicalBlockIndex plan
  · intro now plan valid
    exact validate_of_occupied_le valid (cancelPrefetchPlan_occupied layout now plan)
  · exact valid

end Plans

/-- The checks of `SparkKvCacheArenaAdoptResidentSlot`. -/
def adoptable (layout : Layout) (arena : Arena) (index slot : Nat) : Bool :=
  let block := arena.blocks index
  index < layout.logicalBlockCount && slot < layout.residentBlockCapacity && block.allocated &&
    !block.resident && !block.residencyReserved && !block.backingValid &&
    block.residentSlotIndex.isNone && (arena.residentSlots slot).isNone

/-- An adoption that passes its checks finds a page to spare. -/
def RoomToAdopt (layout : Layout) (arena : Arena) : Call → Prop
  | .adoptResidentSlot index slot =>
    arena.adoptable layout index slot → arena.occupied < layout.residentBlockCapacity
  | _ => True

theorem adoptResidentSlot_valid {slot : Nat} (valid : validate layout arena = .ok)
    (roomy : arena.adoptable layout index slot → arena.occupied < layout.residentBlockCapacity) :
    validate layout (arena.adoptResidentSlot layout index slot).2 = .ok := by
  rw [adoptResidentSlot]
  rcases onBlock_cases layout arena index _ with failed | ⟨_, inRange, checked⟩
  · rw [failed]
    exact valid
  · rw [checked]
    split
    · exact valid
    · rename_i slotInRange
      split
      · exact valid
      · rename_i free
        have room := roomy (by
          simp only [not_or, Bool.not_eq_true, Bool.not_eq_false', ne_eq, not_not] at free
          simp [adoptable, inRange, free, Nat.lt_of_not_le slotInRange])
        apply validate_of_occupied valid
        simp only [occupied, useBlock] at room ⊢
        omega

/-- Every operation keeps an arena valid, an adoption when it finds room. -/
theorem operate_valid (valid : validate layout arena = .ok) {call : Call}
    (roomy : RoomToAdopt layout arena call) : validate layout (arena.operate layout call).2 = .ok := by
  have same : ∀ {after : Arena}, after.occupied ≤ arena.occupied → validate layout after = .ok :=
    validate_of_occupied_le valid
  cases call with
  | reserveUnassignedResidentBlocks count => exact reserveUnassignedResidentBlocks_valid valid count
  | consumeUnassignedResidentBlocks count | releaseUnassignedResidentBlocks count =>
    exact same (removeUnassignedResidentBlocks_occupied layout arena count)
  | acquireBlock =>
    exact same (acquireBlock_occupied layout arena)
  | recycleBlock index => exact same (le_of_eq (recycleBlock_cases layout arena index).2.1)
  | retainBlock index | releaseBlockReference index =>
    refine onBlock_preserves (P := fun now => validate layout now = .ok) valid fun _ _ => ?_
    split <;> exact valid
  | pinResidentBlock index => exact same (pinResidentBlock_occupied arena index _ (le_refl _))
  | unpinResidentBlock index => exact same (unpinResidentBlock_occupied arena index _ (le_refl _))
  | pinResidentTable table =>
    exact same (pinResidentTable_preserves (P := fun now => now.occupied ≤ arena.occupied)
      (fun now index => pinResidentBlock_occupied now index _)
      (fun now index => unpinResidentBlock_occupied now index _) (le_refl _) table)
  | unpinResidentTable table =>
    exact same (unpinResidentTable_preserves (P := fun now => now.occupied ≤ arena.occupied)
      (fun now index => unpinResidentBlock_occupied now index _) (le_refl _) table)
  | markBlockDirty index =>
    refine onBlock_preserves (P := fun now => validate layout now = .ok) valid fun _ _ => ?_
    split <;> exact valid
  | parkResidentBlock index =>
    refine onBlock_preserves (P := fun now => validate layout now = .ok) valid fun _ _ => ?_
    split
    · exact valid
    · split
      · exact valid
      · exact (evictResidentBlock_same layout arena index).validates valid
  | trimResidentBlocks guarded target =>
    exact (trimResidentBlocksProtecting_same layout arena guarded target).1.validates valid
  | markBlockResident index => exact (markBlockResident_same layout arena index).validates valid
  | adoptResidentSlot index slot => exact adoptResidentSlot_valid valid roomy
  | markParkedBlockResident index => exact markParkedBlockResident_valid valid index
  | setSharedWindow base count => exact valid
  | adoptSharedBlock windowSlot =>
    apply same
    rcases adoptSharedBlock_cases layout arena windowSlot with
      ⟨_, unchanged⟩ | ⟨index, acquired, handed, _, adopted⟩
    · exact le_of_eq (congrArg occupied unchanged)
    · have kept := acquireBlock_occupied layout arena
      simp only [operate, adopted]
      rw [handed] at kept
      exact kept
  | freeBlock index => exact (freeBlock_cases layout arena index).1 valid
  | markBlockNonResident index => exact (markBlockNonResident_same layout arena index).validates valid
  | buildPrefetchPlanFromSourceBlocks sources laneCount =>
    exact buildPrefetchPlanFromSourceBlocks_valid valid sources laneCount
  | buildPrefetchPlan indices laneCount =>
    exact buildPrefetchPlan_preserves (P := fun now => validate layout now = .ok)
      (buildPrefetchPlanFromSourceBlocks_valid valid) valid indices laneCount
  | buildNextPrefetchPlan indices laneCount next =>
    exact buildNextPrefetchPlan_preserves (P := fun now => validate layout now = .ok)
      (buildPrefetchPlanFromSourceBlocks_valid valid) valid indices laneCount next
  | markPrefetchPlanResident plan =>
    exact same (onPlan_preserves (P := fun now => now.occupied ≤ arena.occupied) (le_refl _)
      fun _ _ _ => forEach_preserves (P := fun now => now.occupied ≤ arena.occupied)
        (fun index _ now fits => le_trans (le_of_eq (completeBlock_occupied index now)) fits)
        (le_refl _))
  | cancelPrefetchPlan plan => exact same (cancelPrefetchPlan_occupied layout arena plan)
  | evictResidentBlocksToLimit limit guarded =>
    simp only [operate, evictResidentBlocksToLimit]
    split
    · exact valid
    · exact evictToLimit_preserves (P := fun now => validate layout now = .ok)
        (fun now index => (markBlockNonResident_same layout now index).validates) valid limit guarded _
  | stampKeep pages priority deadline =>
    exact stampKeep_preserves (P := fun now => validate layout now = .ok) (fun _ _ _ valid => valid) valid pages
  | reset =>
    rcases reset_cases layout arena with ⟨_, _, invalid⟩ | ⟨_, _, stillValid⟩
    · exact absurd valid invalid
    · exact stillValid

/-- An arena that does not validate stays so, as full as it was. -/
theorem operate_invalid_same (invalid : validate layout arena ≠ .ok) (call : Call) :
    validate layout (arena.operate layout call).2 = validate layout arena ∧
      (arena.operate layout call).2.occupied = arena.occupied := by
  cases checks : call.stamps with
  | false => rw [(operate_invalid invalid checks).2]; exact ⟨rfl, rfl⟩
  | true =>
    cases call with
    | stampKeep pages priority deadline =>
      exact stampKeep_preserves
        (P := fun now => validate layout now = validate layout arena ∧ now.occupied = arena.occupied)
        (fun _ _ _ same => same) ⟨rfl, rfl⟩ pages
    | _ => cases checks

end Arena

namespace KvArena

/-- `RoomToAdopt` before an operation. -/
def RoomToAdopt (state : KvArena) (call : Call) : Prop := state.arena.RoomToAdopt state.layout call

/-- Only the shared window changes, and no check of the arena reads it. -/
theorem validate_relayout (state : KvArena) (call : Call) (arena : Arena) :
    Arena.validate (state.relayout call) arena = Arena.validate state.layout arena := by
  cases call with
  | setSharedWindow base count =>
    simp only [relayout, Arena.setSharedWindow]
    split
    · rfl
    · split
      · rfl
      · split <;> rfl
  | _ => rfl

theorem residentBlockCapacity_relayout (state : KvArena) (call : Call) :
    (state.relayout call).residentBlockCapacity = state.layout.residentBlockCapacity := by
  cases call with
  | setSharedWindow base count =>
    simp only [relayout, Arena.setSharedWindow]
    split
    · rfl
    · split
      · rfl
      · split <;> rfl
  | _ => rfl

/-- An operation neither makes an arena valid nor, with room to adopt, invalid. -/
theorem validate_step {state : KvArena} {call : Call} (roomy : state.RoomToAdopt call) :
    Arena.validate (state.step call).layout (state.step call).arena =
      Arena.validate state.layout state.arena := by
  rw [step, perform, validate_relayout]
  by_cases valid : Arena.validate state.layout state.arena = .ok
  · rw [valid]
    exact Arena.operate_valid valid roomy
  · exact (Arena.operate_invalid_same valid call).1

/-- What a run keeps: the capacity, and room for everything the arena counts. -/
structure Roomy (layout : Layout) (state : KvArena) : Prop where
  capacity : state.layout.residentBlockCapacity = layout.residentBlockCapacity
  fits : state.arena.occupied ≤ layout.residentBlockCapacity
  valid : Arena.validate state.layout state.arena = Arena.validate layout (Arena.initial layout)

theorem Roomy.start (layout : Layout) : Roomy layout (initialized layout) where
  capacity := rfl
  fits := Nat.zero_le _
  valid := rfl

theorem Roomy.step {layout : Layout} {state : KvArena} (roomy : Roomy layout state) {call : Call}
    (room : state.RoomToAdopt call) : Roomy layout (state.step call) where
  capacity := (residentBlockCapacity_relayout state call).trans roomy.capacity
  fits := by
    by_cases valid : Arena.validate state.layout state.arena = .ok
    · rw [← roomy.capacity]
      exact Arena.occupied_le_of_validate (Arena.operate_valid valid room)
    · rw [KvArena.step, perform, (Arena.operate_invalid_same valid call).2]
      exact roomy.fits
  valid := (validate_step room).trans roomy.valid

/-- In every state of a run whose adoptions find room, the counted blocks fit the capacity, and the
arena validates as it did at its start. -/
theorem run_roomy (layout : Layout) (calls : List Call)
    (room : Along step RoomToAdopt calls (initialized layout)) :
    ((initialized layout).run calls).arena.residentBlockCount +
          ((initialized layout).run calls).arena.reservedBlockCount +
          ((initialized layout).run calls).arena.unassignedResidentBlockCount ≤
        ((initialized layout).run calls).layout.residentBlockCapacity ∧
      Arena.validate ((initialized layout).run calls).layout ((initialized layout).run calls).arena =
        Arena.validate layout (Arena.initial layout) := by
  have roomy : Roomy layout ((initialized layout).run calls) :=
    room.foldl (fun _ _ roomy room => roomy.step room) (Roomy.start layout)
  have fits := roomy.fits
  rw [← roomy.capacity] at fits
  exact ⟨fits, roomy.valid⟩

/-- The only page is promised to an unassigned block; one that is adopted in its place fits, since
the promise was given back before. -/
theorem run_roomy_released :
    Along step RoomToAdopt [.reserveUnassignedResidentBlocks 1, .acquireBlock,
        .releaseUnassignedResidentBlocks 1, .adoptResidentSlot 0 0] (initialized onePage) ∧
      Arena.validate onePage (((initialized onePage).run [.reserveUnassignedResidentBlocks 1,
        .acquireBlock, .releaseUnassignedResidentBlocks 1, .adoptResidentSlot 0 0]).arena) = .ok := by
  have room : Along step RoomToAdopt [.reserveUnassignedResidentBlocks 1, .acquireBlock,
      .releaseUnassignedResidentBlocks 1, .adoptResidentSlot 0 0] (initialized onePage) := by
    refine ⟨trivial, trivial, trivial, ?_, trivial⟩
    intro _
    decide
  exact ⟨room, (run_roomy onePage _ room).2⟩

/-- Three calls that succeed leave an arena with more blocks than pages, which refuses every call
after them: the slot was free, but promised. -/
theorem adoption_overcommits :
    Arena.validate onePage (Arena.initial onePage) = .ok ∧
      (initialized onePage).statuses [.reserveUnassignedResidentBlocks 1, .acquireBlock,
        .adoptResidentSlot 0 0] = [.ok, .ok, .ok] ∧
      ∃ bricked, bricked = (initialized onePage).run [.reserveUnassignedResidentBlocks 1,
          .acquireBlock, .adoptResidentSlot 0 0] ∧
        onePage.residentBlockCapacity < bricked.arena.residentBlockCount +
          bricked.arena.reservedBlockCount + bricked.arena.unassignedResidentBlockCount ∧
        ∀ call, call.stamps = false →
          (bricked.perform call).1 ≠ .ok ∧ (bricked.step call).arena = bricked.arena := by
  refine ⟨by decide, by decide, _, rfl, by decide, fun call checks => ?_⟩
  exact Arena.operate_invalid (by decide) checks

end KvArena

end Sparkpipe.KvCache
