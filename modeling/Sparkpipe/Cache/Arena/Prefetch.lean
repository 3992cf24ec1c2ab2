import Sparkpipe.Cache.Arena.Paging

/-!
# Prefetch plans, unassigned pages and the shared window

The rest of the public operations of `kv_cache.c`. A prefetch plan reserves the
residency of blocks that are about to be read back, and is completed or cancelled
later; unassigned pages are set aside before anyone knows for which block; the
shared window is a range of slots behind the arena's own. A plan is a record of
its owner, so completing and cancelling take any plan at all.
-/

namespace Sparkpipe.KvCache

/-- `SPARK_KV_CACHE_MAX_PREFETCH_LANE_COUNT`. -/
def maxPrefetchLaneCount : Nat := 1024

/-- `SPARK_KV_CACHE_PREFETCH_BLOCK_CAPACITY`. -/
def prefetchBlockCapacity : Nat := 4096

/-- `SPARK_KV_CACHE_PREFETCH_BLOCK_FLAG_KEY`. -/
def prefetchBlockFlagKey : Nat := 1

/-- `SPARK_KV_CACHE_PREFETCH_BLOCK_FLAG_VALUE`. -/
def prefetchBlockFlagValue : Nat := 2

/-- `SPARK_KV_CACHE_PREFETCH_BLOCK_DEFAULT_FLAGS`. -/
def prefetchBlockDefaultFlags : Nat := prefetchBlockFlagKey ||| prefetchBlockFlagValue

/-- None of the known flags, or one that is not known. -/
def badPrefetchFlags (flags : Nat) : Bool :=
  flags &&& prefetchBlockDefaultFlags = 0 || flags &&& (maxU32 - prefetchBlockDefaultFlags) ≠ 0

/-- `SparkKvCachePrefetchSourceBlock`. -/
structure PrefetchSourceBlock where
  logicalBlockIndex : Nat
  flags : Nat
  firstTokenIndex : Nat := 0
  tokenCount : Nat := 0
  tokenCapacity : Nat := 0
  generation : Nat := 0
  parentHash : Nat := 0
  blockHash : Nat := 0
  contentHash : Nat := 0
  deriving DecidableEq

/-- `SparkKvCachePrefetchBlock`. -/
structure PrefetchBlock where
  laneIndex : Nat
  logicalBlockIndex : Nat
  residentSlotIndex : Option Nat
  tokenCapacity : Nat
  firstTokenIndex : Nat
  tokenCount : Nat
  flags : Nat
  generation : Nat
  parentHash : Nat
  blockHash : Nat
  contentHash : Nat
  keyDeviceAddress : Nat
  valueDeviceAddress : Nat
  deriving DecidableEq

/-- `SparkKvCachePrefetchPlan`. -/
structure PrefetchPlan where
  laneCount : Nat
  requestedLogicalBlockCount : Nat
  residentBlockCount : Nat := 0
  reservedBlockCount : Nat := 0
  duplicateBlockCount : Nat := 0
  missingBlockCount : Nat := 0
  blocks : List PrefetchBlock := []
  deriving DecidableEq

namespace PrefetchPlan

/-- The logical blocks a plan names. -/
def logicalBlocks (plan : PrefetchPlan) : List Nat := plan.blocks.map PrefetchBlock.logicalBlockIndex

end PrefetchPlan

namespace Layout

/-- `SparkKvCacheArenaHasValuePayload`. -/
def hasValuePayload (layout : Layout) : Bool :=
  layout.valueDeviceBase ≠ 0 || layout.valueBlockStrideBytes ≠ 0

/-- `block->key_device_address`, which every assignment of a slot sets and every release clears. -/
def keyDeviceAddress (layout : Layout) : Option Nat → Nat
  | none => 0
  | some slot => (layout.keyDeviceBase + layout.keyBlockStrideBytes * slot) % 2 ^ 64

/-- `block->value_device_address`. -/
def valueDeviceAddress (layout : Layout) : Option Nat → Nat
  | none => 0
  | some slot =>
    if layout.hasValuePayload then
      (layout.valueDeviceBase + layout.valueBlockStrideBytes * slot) % 2 ^ 64
    else 0

end Layout

namespace Arena

section Unassigned

/-- `SparkKvCacheArenaReserveUnassignedResidentBlocks`. -/
def reserveUnassignedResidentBlocks (layout : Layout) (arena : Arena) (count : Nat) :
    SparkStatus × Arena :=
  if validate layout arena ≠ .ok then (validate layout arena, arena)
  else if count = 0 then (.invalidArgument, arena)
  else if layout.residentBlockCapacity <
      arena.reservedBlockCount + arena.unassignedResidentBlockCount + count then
    (.capacityExceeded, arena)
  else
    let target := layout.residentBlockCapacity - arena.reservedBlockCount -
      arena.unassignedResidentBlockCount - count
    andThen
      (if target < arena.residentBlockCount then arena.trimResidentBlocksProtecting layout [] target
      else (.ok, arena))
      fun arena => (.ok, { arena with
        unassignedResidentBlockCount := arena.unassignedResidentBlockCount + count })

/-- `SparkKvCacheArenaRemoveUnassignedResidentBlocks`. -/
def removeUnassignedResidentBlocks (layout : Layout) (arena : Arena) (count : Nat) :
    SparkStatus × Arena :=
  if validate layout arena ≠ .ok then (validate layout arena, arena)
  else if count = 0 then (.invalidArgument, arena)
  else if arena.unassignedResidentBlockCount < count then (.invalidArgument, arena)
  else (.ok, { arena with
    unassignedResidentBlockCount := arena.unassignedResidentBlockCount - count })

/-- `SparkKvCacheArenaConsumeUnassignedResidentBlocks`. -/
def consumeUnassignedResidentBlocks (layout : Layout) (arena : Arena) (count : Nat) :
    SparkStatus × Arena := arena.removeUnassignedResidentBlocks layout count

/-- `SparkKvCacheArenaReleaseUnassignedResidentBlocks`. -/
def releaseUnassignedResidentBlocks (layout : Layout) (arena : Arena) (count : Nat) :
    SparkStatus × Arena := arena.removeUnassignedResidentBlocks layout count

end Unassigned

/-- `SparkKvCacheArenaTrimResidentBlocks`. -/
def trimResidentBlocksTo (layout : Layout) (arena : Arena) (guarded : List Nat) (target : Nat) :
    SparkStatus × Arena := arena.trimResidentBlocksProtecting layout guarded target

/-- `SparkKvCacheArenaMarkParkedBlockResident`. -/
def markParkedBlockResident (layout : Layout) (arena : Arena) (index : Nat) : SparkStatus × Arena :=
  arena.onBlock layout index fun block =>
    if !block.allocated ∨ !block.backingValid then (.invalidArgument, arena)
    else if block.residencyReserved ∨ block.residencyReferenceCount ≠ 0 then (.busy, arena)
    else if block.resident then (.ok, arena.useBlock index block)
    else
      andThen (arena.makeRoomForResidentBlocks layout [index] 1) fun arena =>
      andThen (arena.assignResidentSlot layout index) fun arena =>
        let block := arena.blocks index
        (.ok, { arena with residentBlockCount := arena.residentBlockCount + 1 }.useBlock index
          { block with
            resident := true
            restoreCount :=
              if block.restoreCount ≠ maxU32 then block.restoreCount + 1 else block.restoreCount })

/-- `SparkKvCacheArenaSetSharedWindow`: the window is one of the fixed fields, so the layout
changes and the arena does not. -/
def setSharedWindow (layout : Layout) (arena : Arena) (base count : Nat) : SparkStatus × Layout :=
  if validate layout arena ≠ .ok then (validate layout arena, layout)
  else if arena.sharedBlockCount ≠ 0 then (.busy, layout)
  else if base < layout.residentBlockCapacity ∨ maxU32 - 1 < base + count then
    (.invalidArgument, layout)
  else (.ok, { layout with
    sharedPageBase := base
    sharedPageCount := count })

section Building

/-- `SparkKvCacheValidatePrefetchSourceBlock`. -/
def validatePrefetchSourceBlock (layout : Layout) (source : PrefetchSourceBlock) : SparkStatus :=
  if layout.logicalBlockCount ≤ source.logicalBlockIndex ∨ badPrefetchFlags source.flags then
    .invalidArgument
  else if source.flags &&& prefetchBlockFlagValue ≠ 0 ∧ !layout.hasValuePayload then
    .invalidArgument
  else if source.tokenCapacity ≠ 0 ∧ source.tokenCapacity < source.tokenCount then .invalidArgument
  else .ok

/-- `SparkKvCachePrefetchPlanAddSourceBlock`. -/
def addSourceBlock (layout : Layout) (plan : PrefetchPlan) (block : Block)
    (source : PrefetchSourceBlock) : PrefetchPlan :=
  { plan with
    blocks := plan.blocks ++ [{
      laneIndex := plan.blocks.length % plan.laneCount
      logicalBlockIndex := source.logicalBlockIndex
      residentSlotIndex := block.residentSlotIndex
      tokenCapacity := layout.blockTokenCount
      firstTokenIndex := source.firstTokenIndex
      tokenCount := source.tokenCount
      flags := source.flags
      generation := block.generation
      parentHash := source.parentHash
      blockHash := source.blockHash
      contentHash := source.contentHash
      keyDeviceAddress := layout.keyDeviceAddress block.residentSlotIndex
      valueDeviceAddress := layout.valueDeviceAddress block.residentSlotIndex }] }

/-- One more use of a block's slot by a plan. -/
def addResidencyReference (arena : Arena) (index : Nat) : Arena :=
  arena.setBlock index { arena.blocks index with
    residencyReferenceCount := (arena.blocks index).residencyReferenceCount + 1 }

/-- The slot that `SparkKvCacheArenaReserveBlockResidency` takes for a block without one. -/
def reserveSlot (layout : Layout) (arena : Arena) (index : Nat) (plan : PrefetchPlan) :
    SparkStatus × Arena :=
  andThen (arena.makeRoomForResidentBlocks layout plan.logicalBlocks 1) fun arena =>
  andThen (arena.assignResidentSlot layout index) fun arena =>
    (.ok, { arena with reservedBlockCount := arena.reservedBlockCount + 1 }.setBlock index
      { arena.blocks index with residencyReserved := true })

/-- `SparkKvCacheArenaReserveBlockResidency`. -/
def reserveBlockResidency (layout : Layout) (arena : Arena) (index : Nat) (plan : PrefetchPlan) :
    SparkStatus × Arena :=
  let block := arena.blocks index
  if block.resident then (.ok, arena)
  else if block.residencyReferenceCount = maxU32 then (.capacityExceeded, arena)
  else if block.residencyReserved then (.ok, arena.addResidencyReference index)
  else andThen (arena.reserveSlot layout index plan) fun arena =>
    (.ok, arena.addResidencyReference index)

/-- The loop of `SparkKvCacheArenaBuildPrefetchPlanFromSourceBlocks`. -/
def buildEach (layout : Layout) : List PrefetchSourceBlock → PrefetchPlan → Arena →
    SparkStatus × PrefetchPlan × Arena
  | [], plan, arena => (.ok, plan, arena)
  | source :: rest, plan, arena =>
    let block := arena.blocks source.logicalBlockIndex
    if validatePrefetchSourceBlock layout source ≠ .ok then
      (validatePrefetchSourceBlock layout source, plan, arena)
    else if plan.logicalBlocks.contains source.logicalBlockIndex then
      buildEach layout rest { plan with duplicateBlockCount := plan.duplicateBlockCount + 1 } arena
    else if !block.allocated then
      (.notFound, { plan with missingBlockCount := plan.missingBlockCount + 1 }, arena)
    else if source.generation ≠ 0 ∧ source.generation ≠ block.generation then
      (.hashMismatch, plan, arena)
    else if block.resident then
      buildEach layout rest { plan with residentBlockCount := plan.residentBlockCount + 1 } arena
    else if prefetchBlockCapacity ≤ plan.blocks.length then (.capacityExceeded, plan, arena)
    else
      let reserved := arena.reserveBlockResidency layout source.logicalBlockIndex plan
      if reserved.1 ≠ .ok then (reserved.1, plan, reserved.2)
      else
        let grown := addSourceBlock layout plan (reserved.2.blocks source.logicalBlockIndex) source
        buildEach layout rest { grown with reservedBlockCount := plan.reservedBlockCount + 1 }
          reserved.2

end Building

section Settling

/-- The test of one entry by `SparkKvCacheValidatePrefetchPlan`. -/
def badPrefetchBlock (plan : PrefetchPlan) (entry : PrefetchBlock) : Bool :=
  plan.laneCount ≤ entry.laneIndex || entry.residentSlotIndex.isNone ||
    entry.keyDeviceAddress = 0 || badPrefetchFlags entry.flags

/-- `SparkKvCacheValidatePrefetchPlan`. -/
def validatePrefetchPlan (plan : PrefetchPlan) : SparkStatus :=
  if plan.laneCount = 0 ∨ maxPrefetchLaneCount < plan.laneCount ∨
      prefetchBlockCapacity < plan.blocks.length then .invalidArgument
  else if plan.blocks.any (badPrefetchBlock plan) then .invalidArgument
  else .ok

/-- `SparkKvCacheArenaValidatePlanBlock`. -/
def validatePlanBlock (layout : Layout) (arena : Arena) (entry : PrefetchBlock) : SparkStatus :=
  match entry.residentSlotIndex with
  | none => .invalidArgument
  | some slot =>
    let block := arena.blocks entry.logicalBlockIndex
    if layout.logicalBlockCount ≤ entry.logicalBlockIndex ∨ layout.residentBlockCapacity ≤ slot then
      .invalidArgument
    else if !block.allocated then .notFound
    else if block.generation ≠ entry.generation then .hashMismatch
    else if block.residentSlotIndex ≠ some slot ∨
        layout.keyDeviceAddress block.residentSlotIndex ≠ entry.keyDeviceAddress ∨
        layout.valueDeviceAddress block.residentSlotIndex ≠ entry.valueDeviceAddress ∨
        block.residencyReferenceCount = 0 ∨
        arena.residentSlots slot ≠ some entry.logicalBlockIndex ∨
        (!block.resident ∧ !block.residencyReserved) then .schemaError
    else .ok

/-- The first status of the entries' checks that is not `OK`. -/
def validatePlanBlocks (layout : Layout) (arena : Arena) : List PrefetchBlock → SparkStatus
  | [] => .ok
  | entry :: rest =>
    if arena.validatePlanBlock layout entry ≠ .ok then arena.validatePlanBlock layout entry
    else validatePlanBlocks layout arena rest

/-- The checks that completing and cancelling a plan begin with. -/
def onPlan (layout : Layout) (arena : Arena) (plan : PrefetchPlan) (body : SparkStatus × Arena) :
    SparkStatus × Arena :=
  if validate layout arena ≠ .ok then (validate layout arena, arena)
  else if validatePrefetchPlan plan ≠ .ok then (validatePrefetchPlan plan, arena)
  else if arena.validatePlanBlocks layout plan.blocks ≠ .ok then
    (arena.validatePlanBlocks layout plan.blocks, arena)
  else body

/-- `block->residency_reference_count -= 1u`, which wraps at zero. -/
def takeReference (references : Nat) : Nat := (references + maxU32) % 2 ^ 32

/-- The body of the second loop of `SparkKvCacheArenaMarkPrefetchPlanResidentWithProtectedBlocks`. -/
def completeBlock (index : Nat) (arena : Arena) : SparkStatus × Arena :=
  let block := arena.blocks index
  let backed := { block with
    backingValid := true
    dirty := false
    residencyReferenceCount := takeReference block.residencyReferenceCount }
  if block.resident then (.ok, arena.useBlock index backed)
  else if arena.reservedBlockCount = 0 then (.internalError, arena)
  else (.ok, { arena with
    reservedBlockCount := arena.reservedBlockCount - 1
    residentBlockCount := arena.residentBlockCount + 1 }.useBlock index
      { backed with
        residencyReserved := false
        resident := true })

/-- `SparkKvCacheArenaMarkPrefetchPlanResident`. The blocks its longer form takes to protect are
never read. -/
def markPrefetchPlanResident (layout : Layout) (arena : Arena) (plan : PrefetchPlan) :
    SparkStatus × Arena :=
  arena.onPlan layout plan (forEach completeBlock plan.logicalBlocks arena)

/-- A block that no plan uses any more gives its reserved slot back. -/
def releaseReservation (layout : Layout) (arena : Arena) (index : Nat) : SparkStatus × Arena :=
  if arena.reservedBlockCount = 0 then (.internalError, arena)
  else { arena with reservedBlockCount := arena.reservedBlockCount - 1 }.setBlock index
    { arena.blocks index with residencyReserved := false } |>.releaseResidentSlot layout index

/-- The body of the second loop of `SparkKvCacheArenaCancelPrefetchPlan`. -/
def cancelBlock (layout : Layout) (index : Nat) (arena : Arena) : SparkStatus × Arena :=
  let block := { arena.blocks index with
    residencyReferenceCount := takeReference (arena.blocks index).residencyReferenceCount }
  if !block.resident ∧ block.residencyReferenceCount = 0 then
    (arena.setBlock index block).releaseReservation layout index
  else (.ok, arena.setBlock index block)

/-- `SparkKvCacheArenaCancelPrefetchPlan`. -/
def cancelPrefetchPlan (layout : Layout) (arena : Arena) (plan : PrefetchPlan) :
    SparkStatus × Arena :=
  arena.onPlan layout plan (forEach (cancelBlock layout) plan.logicalBlocks arena)

/-- `SparkKvCacheArenaBuildPrefetchPlanFromSourceBlocks`: a plan that cannot be finished is
cancelled. -/
def buildPrefetchPlanFromSourceBlocks (layout : Layout) (arena : Arena)
    (sources : List PrefetchSourceBlock) (laneCount : Nat) :
    SparkStatus × Option PrefetchPlan × Arena :=
  if validate layout arena ≠ .ok then (validate layout arena, none, arena)
  else if laneCount = 0 ∨ maxPrefetchLaneCount < laneCount then (.invalidArgument, none, arena)
  else
    let built := buildEach layout sources
      { laneCount := laneCount, requestedLogicalBlockCount := sources.length } arena
    if built.1 = .ok then (.ok, some built.2.1, built.2.2)
    else (built.1, some built.2.1, (built.2.2.cancelPrefetchPlan layout built.2.1).2)

/-- `SparkKvCachePrefetchSourceInitializeFromLogicalBlock`. -/
def sourceFromLogicalBlock (layout : Layout) (index : Nat) : PrefetchSourceBlock where
  logicalBlockIndex := index
  flags :=
    if layout.hasValuePayload then prefetchBlockFlagKey ||| prefetchBlockFlagValue
    else prefetchBlockFlagKey

/-- `SparkKvCacheArenaBuildPrefetchPlan`. -/
def buildPrefetchPlan (layout : Layout) (arena : Arena) (indices : List Nat) (laneCount : Nat) :
    SparkStatus × Option PrefetchPlan × Arena :=
  if prefetchBlockCapacity < indices.length then (.capacityExceeded, none, arena)
  else arena.buildPrefetchPlanFromSourceBlocks layout
    (indices.map (sourceFromLogicalBlock layout)) laneCount

/-- `SparkKvCacheArenaBuildNextPrefetchPlan`: the plan of the next chunk of the cursor's blocks,
and where the cursor stands afterwards. -/
def buildNextPrefetchPlan (layout : Layout) (arena : Arena) (indices : List Nat)
    (laneCount next : Nat) : SparkStatus × Nat × Option PrefetchPlan × Arena :=
  if indices.length < next then (.invalidArgument, next, none, arena)
  else
    let chunk := (indices.drop next).take prefetchBlockCapacity
    let built := arena.buildPrefetchPlan layout chunk laneCount
    (built.1, if built.1 = .ok then next + chunk.length else next, built.2.1, built.2.2)

end Settling

section Limit

/-- The tests of `SparkKvCacheSelectResidentEvictionVictim`, which passes over the blocks whose
park failed and over nothing that is shared or reserved. -/
def blockExceedsLimit (layout : Layout) (arena : Arena) (guarded : List Nat) (index : Nat) : Bool :=
  let block := arena.blocks index
  block.allocated && block.resident && !block.parkFailed && block.residencyReferenceCount == 0 &&
    (layout.evictFunction.isSome || block.referenceCount == 0) && !guarded.contains index

/-- The loop of `SparkKvCacheSelectResidentEvictionVictim`. -/
def selectLogicalVictim (layout : Layout) (arena : Arena) (guarded : List Nat) :
    List Nat → Option Nat → Option Nat
  | [], victim => victim
  | index :: rest, victim =>
    if !arena.blockExceedsLimit layout guarded index then
      selectLogicalVictim layout arena guarded rest victim
    else match victim with
      | none => selectLogicalVictim layout arena guarded rest (some index)
      | some chosen =>
        if arena.blockIsBetterEvictionVictim layout (arena.blocks chosen) (arena.blocks index)
        then selectLogicalVictim layout arena guarded rest (some index)
        else selectLogicalVictim layout arena guarded rest victim

/-- The loop of `SparkKvCacheArenaEvictResidentBlocksToLimit`. A pass either frees a page or marks a
block whose park failed, so `fuel` bounds the number of passes. -/
def evictToLimit (layout : Layout) (limit : Nat) (guarded : List Nat) :
    Nat → Arena → SparkStatus × Arena
  | 0, arena => (.internalError, arena)
  | fuel + 1, arena =>
    if arena.residentBlockCount ≤ limit then (.ok, arena)
    else match arena.selectLogicalVictim layout guarded (List.range layout.logicalBlockCount) none with
      | none => (.ok, arena)
      | some index =>
        let evicted := arena.markBlockNonResident layout index
        if evicted.1 = .ioError ∨ evicted.1 = .ok then
          evictToLimit layout limit guarded fuel evicted.2
        else evicted

/-- `SparkKvCacheArenaEvictResidentBlocksToLimit`. -/
def evictResidentBlocksToLimit (layout : Layout) (arena : Arena) (limit : Nat)
    (guarded : List Nat) : SparkStatus × Arena :=
  if validate layout arena ≠ .ok then (validate layout arena, arena)
  else evictToLimit layout limit guarded (2 * layout.logicalBlockCount + 1) arena

end Limit

end Arena

end Sparkpipe.KvCache
