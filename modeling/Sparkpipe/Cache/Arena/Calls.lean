import Sparkpipe.Cache.Arena.Prefetch
import Sparkpipe.Cache.Arena.Holdings

/-!
# Runs of an arena

`Call` lists the public operations of `kv_cache.c` that change an arena, each with
any arguments its owner may pass, and the writes of the owner itself, which stamps
on its pages how long they are to be kept; a run is any sequence of them from a
freshly initialised arena. Every operation begins with `SparkKvCacheArenaValidate`,
so an arena that does not validate refuses all of them.
-/

namespace Sparkpipe.KvCache

/-- The public operations on an arena, and the stamps of its owner. -/
inductive Call where
  | reserveUnassignedResidentBlocks (count : Nat)
  | consumeUnassignedResidentBlocks (count : Nat)
  | releaseUnassignedResidentBlocks (count : Nat)
  | acquireBlock
  | recycleBlock (index : Nat)
  | retainBlock (index : Nat)
  | releaseBlockReference (index : Nat)
  | pinResidentBlock (index : Nat)
  | unpinResidentBlock (index : Nat)
  | pinResidentTable (table : List Nat)
  | unpinResidentTable (table : List Nat)
  | markBlockDirty (index : Nat)
  | parkResidentBlock (index : Nat)
  | trimResidentBlocks (guarded : List Nat) (target : Nat)
  | markBlockResident (index : Nat)
  | adoptResidentSlot (index slot : Nat)
  | markParkedBlockResident (index : Nat)
  | setSharedWindow (base count : Nat)
  | adoptSharedBlock (windowSlot : Nat)
  | freeBlock (index : Nat)
  | markBlockNonResident (index : Nat)
  | buildPrefetchPlanFromSourceBlocks (sources : List PrefetchSourceBlock) (laneCount : Nat)
  | buildPrefetchPlan (indices : List Nat) (laneCount : Nat)
  | buildNextPrefetchPlan (indices : List Nat) (laneCount next : Nat)
  | markPrefetchPlanResident (plan : PrefetchPlan)
  | cancelPrefetchPlan (plan : PrefetchPlan)
  | evictResidentBlocksToLimit (limit : Nat) (guarded : List Nat)
  | stampKeep (pages : List Nat) (priority deadline : Nat)
  | reset

/-- The owner writes the blocks itself. -/
def Call.stamps : Call → Bool
  | .stampKeep _ _ _ => true
  | _ => false

/-- `SparkKvCacheArena` whole, its fixed fields and the others. -/
structure KvArena where
  layout : Layout
  arena : Arena

namespace Arena

/-- `SparkKvPageCacheStampKeep`; without a priority and a deadline, `SparkKvPageCacheClearSequenceKeep`. -/
def stampKeep (layout : Layout) (arena : Arena) (pages : List Nat) (priority deadline : Nat) : Arena :=
  pages.foldl (fun arena page =>
    if page < layout.logicalBlockCount then
      arena.setBlock page { arena.blocks page with
        keepPriority := priority
        keepDeadlineNs := deadline }
    else arena) arena

/-- What every stamp keeps, all of them keep. -/
theorem stampKeep_preserves {P : Arena → Prop} {layout : Layout} {arena : Arena} {priority deadline : Nat}
    (stamp : ∀ now : Arena, ∀ page < layout.logicalBlockCount, P now →
      P (now.setBlock page { now.blocks page with
        keepPriority := priority
        keepDeadlineNs := deadline }))
    (start : P arena) (pages : List Nat) : P (arena.stampKeep layout pages priority deadline) := by
  induction pages generalizing arena with
  | nil => exact start
  | cons page rest ih =>
    refine ih ?_
    dsimp only
    split
    · rename_i inRange
      exact stamp arena page inRange start
    · exact start

/-- What an operation returns and leaves of the changing fields. -/
def operate (layout : Layout) (arena : Arena) : Call → SparkStatus × Arena
  | .reserveUnassignedResidentBlocks count => arena.reserveUnassignedResidentBlocks layout count
  | .consumeUnassignedResidentBlocks count => arena.consumeUnassignedResidentBlocks layout count
  | .releaseUnassignedResidentBlocks count => arena.releaseUnassignedResidentBlocks layout count
  | .acquireBlock => ((arena.acquireBlock layout).1, (arena.acquireBlock layout).2.2)
  | .recycleBlock index => arena.recycleBlock layout index
  | .retainBlock index => arena.retainBlock layout index
  | .releaseBlockReference index => arena.releaseBlockReference layout index
  | .pinResidentBlock index => arena.pinResidentBlock layout index
  | .unpinResidentBlock index => arena.unpinResidentBlock layout index
  | .pinResidentTable table => arena.pinResidentTable layout table
  | .unpinResidentTable table => arena.unpinResidentTable layout table
  | .markBlockDirty index => arena.markBlockDirty layout index
  | .parkResidentBlock index => arena.parkResidentBlock layout index
  | .trimResidentBlocks guarded target => arena.trimResidentBlocksTo layout guarded target
  | .markBlockResident index => arena.markBlockResident layout index
  | .adoptResidentSlot index slot => arena.adoptResidentSlot layout index slot
  | .markParkedBlockResident index => arena.markParkedBlockResident layout index
  | .setSharedWindow base count => ((arena.setSharedWindow layout base count).1, arena)
  | .adoptSharedBlock windowSlot =>
    ((arena.adoptSharedBlock layout windowSlot).1, (arena.adoptSharedBlock layout windowSlot).2.2)
  | .freeBlock index => arena.freeBlock layout index
  | .markBlockNonResident index => arena.markBlockNonResident layout index
  | .buildPrefetchPlanFromSourceBlocks sources laneCount =>
    let built := arena.buildPrefetchPlanFromSourceBlocks layout sources laneCount
    (built.1, built.2.2)
  | .buildPrefetchPlan indices laneCount =>
    let built := arena.buildPrefetchPlan layout indices laneCount
    (built.1, built.2.2)
  | .buildNextPrefetchPlan indices laneCount next =>
    let built := arena.buildNextPrefetchPlan layout indices laneCount next
    (built.1, built.2.2.2)
  | .markPrefetchPlanResident plan => arena.markPrefetchPlanResident layout plan
  | .cancelPrefetchPlan plan => arena.cancelPrefetchPlan layout plan
  | .evictResidentBlocksToLimit limit guarded =>
    arena.evictResidentBlocksToLimit layout limit guarded
  | .stampKeep pages priority deadline => (.ok, arena.stampKeep layout pages priority deadline)
  | .reset => arena.reset layout

/-- An arena that does not validate refuses every operation and stays as it is. -/
theorem operate_invalid {layout : Layout} {arena : Arena} (invalid : validate layout arena ≠ .ok)
    {call : Call} (checks : call.stamps = false) :
    (arena.operate layout call).1 ≠ .ok ∧ (arena.operate layout call).2 = arena := by
  have block : ∀ index body, arena.onBlock layout index body = (validate layout arena, arena) :=
    fun index body => if_pos invalid
  have plan : ∀ sources laneCount,
      (arena.buildPrefetchPlanFromSourceBlocks layout sources laneCount).1 ≠ .ok ∧
        (arena.buildPrefetchPlanFromSourceBlocks layout sources laneCount).2.2 = arena := by
    intro sources laneCount
    simp [buildPrefetchPlanFromSourceBlocks, invalid]
  have indexed : ∀ indices laneCount, (arena.buildPrefetchPlan layout indices laneCount).1 ≠ .ok ∧
      (arena.buildPrefetchPlan layout indices laneCount).2.2 = arena := by
    intro indices laneCount
    rw [buildPrefetchPlan]
    split
    · exact ⟨by simp, rfl⟩
    · exact plan _ laneCount
  cases call with
  | buildPrefetchPlanFromSourceBlocks sources laneCount => exact plan sources laneCount
  | buildPrefetchPlan indices laneCount => exact indexed indices laneCount
  | buildNextPrefetchPlan indices laneCount next =>
    simp only [operate, buildNextPrefetchPlan]
    split
    · exact ⟨by simp, rfl⟩
    · exact indexed _ laneCount
  | stampKeep => cases checks
  | _ =>
    simp [operate, block, invalid, recycleBlock, retainBlock, releaseBlockReference,
      pinResidentBlock, unpinResidentBlock, markBlockDirty, parkResidentBlock, markBlockResident,
      adoptResidentSlot, markParkedBlockResident, freeBlock, markBlockNonResident,
      acquireBlock, adoptSharedBlock, pinResidentTable, unpinResidentTable, reset,
      trimResidentBlocksTo, trimResidentBlocksProtecting, setSharedWindow,
      reserveUnassignedResidentBlocks, consumeUnassignedResidentBlocks,
      releaseUnassignedResidentBlocks, removeUnassignedResidentBlocks,
      markPrefetchPlanResident, cancelPrefetchPlan, onPlan, evictResidentBlocksToLimit]

/-- An adopted page of the window is an acquired block that is then pointed at its slot. -/
theorem adoptSharedBlock_cases (layout : Layout) (arena : Arena) (windowSlot : Nat) :
    ((arena.adoptSharedBlock layout windowSlot).1 ≠ .ok ∧
        (arena.adoptSharedBlock layout windowSlot).2.2 = arena) ∨
      ∃ index acquired, arena.acquireBlock layout = (.ok, some index, acquired) ∧
        windowSlot < layout.sharedPageCount ∧
        arena.adoptSharedBlock layout windowSlot = (.ok, some index,
          { acquired with sharedBlockCount := acquired.sharedBlockCount + 1 }.setBlock index
            { acquired.blocks index with
              resident := true
              shared := true
              residentSlotIndex := some (layout.sharedPageBase + windowSlot) }) := by
  unfold adoptSharedBlock
  split
  · rename_i invalid
    exact .inl ⟨invalid, rfl⟩
  · split
    · exact Or.inl ⟨by simp, rfl⟩
    · rename_i inWindow
      rcases acquireBlock_cases layout arena with ⟨failed, kept⟩ | ⟨index, succeeded, handed, _⟩
      · split
        · rename_i acquired
          rw [acquired] at failed
          exact absurd rfl failed
        · rename_i acquired
          rw [acquired] at failed kept
          exact .inl ⟨failed, kept⟩
      · have acquired : arena.acquireBlock layout =
            (.ok, some index, (arena.acquireBlock layout).2.2) :=
          Prod.ext succeeded (Prod.ext handed rfl)
        refine .inr ⟨index, _, acquired, by omega, ?_⟩
        rw [acquired]

end Arena

namespace KvArena

/-- `SparkKvCacheArenaInitialize`: the arena is empty, and so is its shared window. -/
def initialized (layout : Layout) : KvArena where
  layout := { layout with sharedPageBase := 0, sharedPageCount := 0 }
  arena := Arena.initial layout

/-- Only the shared window among the fixed fields ever changes. -/
def relayout (state : KvArena) : Call → Layout
  | .setSharedWindow base count => (state.arena.setSharedWindow state.layout base count).2
  | _ => state.layout

/-- One operation. -/
def perform (state : KvArena) (call : Call) : SparkStatus × KvArena :=
  ((state.arena.operate state.layout call).1,
    { layout := state.relayout call
      arena := (state.arena.operate state.layout call).2 })

/-- The state an operation leaves. -/
def step (state : KvArena) (call : Call) : KvArena := (state.perform call).2

/-- The state a sequence of operations leaves. -/
def run (state : KvArena) (calls : List Call) : KvArena := calls.foldl step state

/-- What the operations of a sequence return. -/
def statuses (state : KvArena) : List Call → List SparkStatus
  | [] => []
  | call :: rest => (state.perform call).1 :: (state.step call).statuses rest

@[simp] theorem run_cons (state : KvArena) (call : Call) (rest : List Call) :
    state.run (call :: rest) = (state.step call).run rest := rfl

/-- A layout of two blocks and a single page, with an owner that backs up whatever it is given. -/
def onePage : Layout where
  logicalBlockCount := 2
  blockTokenCount := 1
  residentBlockCapacity := 1
  layerCount := 1
  kvHeadCount := 1
  headDim := 1
  bytesPerScalar := 1
  keyBlockStrideBytes := 1
  valueBlockStrideBytes := 0
  keyDeviceBase := 1
  valueDeviceBase := 0
  evictionPolicy := .lru
  evictFunction := some fun _ => .ok

end KvArena

end Sparkpipe.KvCache
