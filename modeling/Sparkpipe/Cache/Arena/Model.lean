import Sparkpipe.Status
import Mathlib.Logic.Function.Basic

/-!
# The KV cache arena

The logical blocks of `kv_cache.c`: acquisition from the free list, references,
residency slots, eviction through the owner's callback, and release. Device
addresses and the counters that are only reported are left out. The arena's
fixed fields are gathered in `Layout`; the callback is an arbitrary sequence of
answers, one for each call.
-/

namespace Sparkpipe.KvCache

open Function

/-- `SPARK_KV_CACHE_MAX_BLOCK_TOKENS`. -/
def maxBlockTokens : Nat := 256

/-- `SPARK_KV_CACHE_MAX_LAYER_COUNT`. -/
def maxLayerCount : Nat := 256

/-- `arena->eviction_policy`. -/
inductive EvictionPolicy where
  | lru
  | reuseValue
  deriving DecidableEq

/-- The fields of an arena that no operation of this module changes. -/
structure Layout where
  logicalBlockCount : Nat
  blockTokenCount : Nat
  residentBlockCapacity : Nat
  layerCount : Nat
  kvHeadCount : Nat
  headDim : Nat
  bytesPerScalar : Nat
  keyBlockStrideBytes : Nat
  valueBlockStrideBytes : Nat
  keyDeviceBase : Nat
  valueDeviceBase : Nat
  evictionPolicy : EvictionPolicy
  /-- The owner's eviction callback; the argument counts the calls made before. -/
  evictFunction : Option (Nat → SparkStatus)
  sharedPageBase : Nat := 0
  sharedPageCount : Nat := 0

/-- `SparkKvCacheBlock`, its flag word as one Boolean a flag. -/
structure Block where
  allocated : Bool := false
  resident : Bool := false
  residencyReserved : Bool := false
  dirty : Bool := false
  backingValid : Bool := false
  parkFailed : Bool := false
  shared : Bool := false
  referenceCount : Nat := 0
  residentSlotIndex : Option Nat := none
  residencyReferenceCount : Nat := 0
  freeNext : Option Nat := none
  restoreCount : Nat := 0
  generation : Nat := 0
  lastUsedEpoch : Nat := 0
  keepPriority : Nat := 0
  keepDeadlineNs : Nat := 0
  deriving DecidableEq

/-- The mutable part of `SparkKvCacheArena`. -/
structure Arena where
  blocks : Nat → Block
  residentSlots : Nat → Option Nat
  freeLogicalBlockHead : Option Nat
  nextResidentSlotScan : Nat
  unassignedResidentBlockCount : Nat
  residentBlockCount : Nat
  reservedBlockCount : Nat
  sharedBlockCount : Nat
  epoch : Nat
  parkDegraded : Bool
  parkBackingFullCount : Nat
  parkStallCount : Nat
  evictCalls : Nat
  /-- The blocks the eviction callback was called for, and its answers, newest first. -/
  evictions : List (Nat × SparkStatus) := []

namespace Arena

/-- `SparkKvCacheInitializeBlock`: block `index` on the initial free list. -/
def initializeBlock (layout : Layout) (index : Nat) : Block :=
  { freeNext := if index + 1 < layout.logicalBlockCount then some (index + 1) else none }

/-- The arena `SparkKvCacheArenaInitialize` leaves. -/
def initial (layout : Layout) : Arena where
  blocks := initializeBlock layout
  residentSlots := fun _ => none
  freeLogicalBlockHead := some 0
  nextResidentSlotScan := 0
  unassignedResidentBlockCount := 0
  residentBlockCount := 0
  reservedBlockCount := 0
  sharedBlockCount := 0
  epoch := 0
  parkDegraded := false
  parkBackingFullCount := 0
  parkStallCount := 0
  evictCalls := 0

/-- `SparkKvCacheArenaValidate`. -/
def validate (layout : Layout) (arena : Arena) : SparkStatus :=
  if layout.logicalBlockCount = 0 ∨ layout.blockTokenCount = 0 ∨
      maxBlockTokens < layout.blockTokenCount ∨ layout.residentBlockCapacity = 0 ∨
      layout.logicalBlockCount < layout.residentBlockCapacity ∨ layout.layerCount = 0 ∨
      maxLayerCount < layout.layerCount ∨ layout.kvHeadCount = 0 ∨ layout.headDim = 0 ∨
      layout.bytesPerScalar = 0 ∨ layout.keyDeviceBase = 0 ∨ layout.keyBlockStrideBytes = 0 ∨
      layout.residentBlockCapacity <
        arena.residentBlockCount + arena.reservedBlockCount + arena.unassignedResidentBlockCount then
    .invalidArgument
  else if layout.valueDeviceBase = 0 ∧ layout.valueBlockStrideBytes ≠ 0 then .invalidArgument
  else if layout.valueDeviceBase ≠ 0 ∧ layout.valueBlockStrideBytes = 0 then .invalidArgument
  else .ok

/-- The checks every operation on one logical block begins with. -/
def onBlock (layout : Layout) (arena : Arena) (index : Nat)
    (body : Block → SparkStatus × Arena) : SparkStatus × Arena :=
  if validate layout arena ≠ .ok then (validate layout arena, arena)
  else if layout.logicalBlockCount ≤ index then (.invalidArgument, arena)
  else body (arena.blocks index)

/-- Write block `index`. -/
def setBlock (arena : Arena) (index : Nat) (block : Block) : Arena :=
  { arena with blocks := update arena.blocks index block }

/-- Advance the epoch and write block `index`, used in the new epoch. -/
def useBlock (arena : Arena) (index : Nat) (block : Block) : Arena :=
  { arena with
    epoch := arena.epoch + 1
    blocks := update arena.blocks index { block with lastUsedEpoch := arena.epoch + 1 } }

/-- `SparkKvCacheArenaAcquireBlock`: the status, the block handed out, and the arena. -/
def acquireBlock (layout : Layout) (arena : Arena) : SparkStatus × Option Nat × Arena :=
  if validate layout arena ≠ .ok then (validate layout arena, none, arena)
  else match arena.freeLogicalBlockHead with
    | none => (.capacityExceeded, none, arena)
    | some index =>
      if layout.logicalBlockCount ≤ index then (.internalError, none, arena)
      else if (arena.blocks index).allocated then (.internalError, none, arena)
      else
        let block := arena.blocks index
        let arena := { arena with freeLogicalBlockHead := block.freeNext }
        (.ok, some index, arena.useBlock index
          { block with
            allocated := true
            resident := false
            residencyReserved := false
            dirty := false
            backingValid := false
            parkFailed := false
            shared := false
            referenceCount := 0
            keepPriority := 0
            keepDeadlineNs := 0
            freeNext := none
            generation := block.generation + 1 })

/-- `SparkKvCacheArenaRecycleBlock`: a new generation of an unreferenced block, keeping only
its residency. -/
def recycleBlock (layout : Layout) (arena : Arena) (index : Nat) : SparkStatus × Arena :=
  arena.onBlock layout index fun block =>
    if !block.allocated then (.invalidArgument, arena)
    else if block.referenceCount ≠ 0 ∨ block.residencyReferenceCount ≠ 0 ∨ block.residencyReserved then
      (.busy, arena)
    else (.ok, arena.useBlock index
      { block with
        allocated := true
        residencyReserved := false
        dirty := false
        backingValid := false
        parkFailed := false
        shared := false
        generation := block.generation + 1 })

/-- `SparkKvCacheArenaRetainBlock`. The 32 bits of `reference_count` are not checked; a block with 2^32 references is
left out. -/
def retainBlock (layout : Layout) (arena : Arena) (index : Nat) : SparkStatus × Arena :=
  arena.onBlock layout index fun block =>
    if !block.allocated then (.invalidArgument, arena)
    else (.ok, arena.useBlock index { block with referenceCount := block.referenceCount + 1 })

/-- `SparkKvCacheArenaReleaseBlockReference`. -/
def releaseBlockReference (layout : Layout) (arena : Arena) (index : Nat) : SparkStatus × Arena :=
  arena.onBlock layout index fun block =>
    if !block.allocated ∨ block.referenceCount = 0 then (.invalidArgument, arena)
    else (.ok, arena.useBlock index { block with referenceCount := block.referenceCount - 1 })

/-- `SparkKvCacheArenaReleaseResidentSlot`. -/
def releaseResidentSlot (layout : Layout) (arena : Arena) (index : Nat) : SparkStatus × Arena :=
  let block := arena.blocks index
  let cleared := arena.setBlock index { block with residentSlotIndex := none }
  match block.residentSlotIndex with
  | none => (.ok, cleared)
  | some slot =>
    if block.shared then (.ok, cleared)
    else if layout.residentBlockCapacity ≤ slot ∨ arena.residentSlots slot ≠ some index then
      (.internalError, arena)
    else (.ok, { cleared with
      residentSlots := update arena.residentSlots slot none
      nextResidentSlotScan := slot })

/-- `SparkKvCacheArenaAssignResidentSlot`: the first empty slot from the scan position on. -/
def assignResidentSlot (layout : Layout) (arena : Arena) (index : Nat) : SparkStatus × Arena :=
  if (arena.blocks index).residentSlotIndex ≠ none then (.ok, arena)
  else
    let slots := (List.range layout.residentBlockCapacity).map fun offset =>
      (arena.nextResidentSlotScan + offset) % layout.residentBlockCapacity
    match slots.find? fun slot => arena.residentSlots slot = none with
    | none => (.capacityExceeded, arena)
    | some slot =>
      (.ok, { arena with
        residentSlots := update arena.residentSlots slot (some index)
        nextResidentSlotScan := (slot + 1) % layout.residentBlockCapacity
        blocks := update arena.blocks index
          { arena.blocks index with residentSlotIndex := some slot } })

/-- `SparkKvCacheReuseValueKeepness`. -/
def reuseValueKeepness (arena : Arena) (block : Block) : Int :=
  let age := min (arena.epoch - block.lastUsedEpoch) (2 ^ 54)
  let restoreCount := min block.restoreCount (2 ^ 16)
  (restoreCount * 2 ^ 40 : Nat) - (age : Int) + if block.dirty then 2 ^ 20 else 0

/-- `SparkKvCacheBlockIsBetterEvictionVictim`. -/
def blockIsBetterEvictionVictim (layout : Layout) (arena : Arena) (victim block : Block) : Bool :=
  if block.keepPriority ≠ victim.keepPriority then block.keepPriority < victim.keepPriority
  else if block.keepDeadlineNs ≠ victim.keepDeadlineNs then
    victim.keepDeadlineNs ≠ 0 ∧
      (block.keepDeadlineNs = 0 ∨ victim.keepDeadlineNs < block.keepDeadlineNs)
  else if block.referenceCount ≠ victim.referenceCount then
    block.referenceCount < victim.referenceCount
  else if layout.evictionPolicy = .reuseValue ∧
      arena.reuseValueKeepness block ≠ arena.reuseValueKeepness victim then
    arena.reuseValueKeepness block < arena.reuseValueKeepness victim
  else block.lastUsedEpoch < victim.lastUsedEpoch

/-- The tests a resident block passes before it may be evicted. -/
def blockIsEvictable (layout : Layout) (arena : Arena) (guarded : List Nat) (parkFailed : Bool)
    (index : Nat) : Bool :=
  let block := arena.blocks index
  block.allocated && block.resident && !block.residencyReserved &&
    block.residencyReferenceCount == 0 && (block.parkFailed == parkFailed) &&
    (layout.evictFunction.isSome || block.referenceCount == 0) && !guarded.contains index

/-- The slot loop of `SparkKvCacheArenaSelectResidentEvictionVictim`. -/
def selectVictim (layout : Layout) (arena : Arena) (guarded : List Nat) (parkFailed : Bool) :
    List Nat → Option Nat → Option Nat
  | [], victim => victim
  | slot :: rest, victim =>
    match arena.residentSlots slot with
    | none => selectVictim layout arena guarded parkFailed rest victim
    | some index =>
      if layout.logicalBlockCount ≤ index then none
      else if !arena.blockIsEvictable layout guarded parkFailed index then
        selectVictim layout arena guarded parkFailed rest victim
      else match victim with
        | none => selectVictim layout arena guarded parkFailed rest (some index)
        | some chosen =>
          if arena.blockIsBetterEvictionVictim layout (arena.blocks chosen) (arena.blocks index)
          then selectVictim layout arena guarded parkFailed rest (some index)
          else selectVictim layout arena guarded parkFailed rest victim

/-- `SparkKvCacheArenaSelectResidentEvictionVictim` without a prefetch plan. -/
def selectResidentEvictionVictim (layout : Layout) (arena : Arena) (guarded : List Nat)
    (parkFailed : Bool) : Option Nat :=
  arena.selectVictim layout guarded parkFailed (List.range layout.residentBlockCapacity) none

/-- The end of `SparkKvCacheArenaEvictResidentBlock`, once the payload is backed. -/
def dropResidency (layout : Layout) (arena : Arena) (index : Nat) : SparkStatus × Arena :=
  andThen (arena.releaseResidentSlot layout index) fun arena =>
    (.ok, { arena with residentBlockCount := arena.residentBlockCount - 1 }.useBlock index
      { arena.blocks index with resident := false })

/-- `SparkKvCacheArenaEvictResidentBlock`. -/
def evictResidentBlock (layout : Layout) (arena : Arena) (index : Nat) : SparkStatus × Arena :=
  let block := arena.blocks index
  if !block.allocated ∨ !block.resident ∨ block.residencyReserved ∨
      block.residencyReferenceCount ≠ 0 then (.invalidArgument, arena)
  else match layout.evictFunction with
    | none => arena.dropResidency layout index
    | some evict =>
      if block.dirty ∨ !block.backingValid then
        let status := evict arena.evictCalls
        let arena := { arena with
          evictCalls := arena.evictCalls + 1
          evictions := (index, status) :: arena.evictions }
        if status = .ioError then (status, arena.setBlock index { block with parkFailed := true })
        else if status = .capacityExceeded then
          (status, { arena with parkBackingFullCount := arena.parkBackingFullCount + 1 })
        else if status ≠ .ok then (status, arena)
        else
          { arena with parkDegraded := false }.setBlock index
            { block with backingValid := true, dirty := false, parkFailed := false }
            |>.dropResidency layout index
      else arena.dropResidency layout index

/-- The loop of `SparkKvCacheArenaTrimResidentBlocksWithPrefetchProtection`. A pass either
frees a slot or marks a block whose park failed, so `fuel` bounds the number of passes. -/
def trimResidentBlocks (layout : Layout) (guarded : List Nat) (target : Nat) :
    Nat → Arena → SparkStatus × Arena
  | 0, arena => (.internalError, arena)
  | fuel + 1, arena =>
    if arena.residentBlockCount ≤ target then (.ok, arena)
    else
      let first := arena.selectResidentEvictionVictim layout guarded false
      let lastResort := first.isNone && layout.evictFunction.isSome
      let victim :=
        if lastResort then arena.selectResidentEvictionVictim layout guarded true else first
      match victim with
      | none => (.capacityExceeded, arena)
      | some index =>
        let evicted := arena.evictResidentBlock layout index
        if evicted.1 = .ok then trimResidentBlocks layout guarded target fuel evicted.2
        else if evicted.1 = .ioError ∧ !lastResort then
          trimResidentBlocks layout guarded target fuel evicted.2
        else if evicted.1 = .ioError then
          (.ioError, { evicted.2 with
            parkStallCount := evicted.2.parkStallCount + 1
            parkDegraded := true })
        else evicted

/-- Passes that suffice for `trimResidentBlocks`: each slot is marked at most once and freed at
most once. -/
def trimFuel (layout : Layout) : Nat := 2 * layout.residentBlockCapacity + 1

/-- `SparkKvCacheArenaTrimResidentBlocksWithPrefetchProtection` without a prefetch plan. -/
def trimResidentBlocksProtecting (layout : Layout) (arena : Arena) (guarded : List Nat)
    (target : Nat) : SparkStatus × Arena :=
  if validate layout arena ≠ .ok then (validate layout arena, arena)
  else if layout.residentBlockCapacity < target then (.invalidArgument, arena)
  else trimResidentBlocks layout guarded target (trimFuel layout) arena

/-- `SparkKvCacheArenaMakeRoomForResidentBlocks` without a prefetch plan. -/
def makeRoomForResidentBlocks (layout : Layout) (arena : Arena) (guarded : List Nat)
    (added : Nat) : SparkStatus × Arena :=
  let held := arena.reservedBlockCount + arena.unassignedResidentBlockCount
  if layout.residentBlockCapacity < added then (.capacityExceeded, arena)
  else if arena.residentBlockCount + held + added ≤ layout.residentBlockCapacity then (.ok, arena)
  else if layout.residentBlockCapacity < held + added then (.capacityExceeded, arena)
  else arena.trimResidentBlocksProtecting layout guarded
    (layout.residentBlockCapacity - held - added)

/-- The end of `SparkKvCacheArenaMarkBlockResident`. -/
def noteResident (arena : Arena) (index : Nat) : Arena :=
  arena.useBlock index { arena.blocks index with resident := true }

/-- `SparkKvCacheArenaMarkBlockResident`. -/
def markBlockResident (layout : Layout) (arena : Arena) (index : Nat) : SparkStatus × Arena :=
  arena.onBlock layout index fun block =>
    if !block.allocated then (.invalidArgument, arena)
    else if block.residencyReserved ∨ block.residencyReferenceCount ≠ 0 then (.busy, arena)
    else if block.resident then (.ok, arena.noteResident index)
    else if block.backingValid then (.busy, arena)
    else
      andThen (arena.makeRoomForResidentBlocks layout [index] 1) fun arena =>
      andThen (arena.assignResidentSlot layout index) fun arena =>
        (.ok, { arena with residentBlockCount := arena.residentBlockCount + 1 }.noteResident index)

/-- `SparkKvCacheArenaFreeBlock`. -/
def freeBlock (layout : Layout) (arena : Arena) (index : Nat) : SparkStatus × Arena :=
  arena.onBlock layout index fun block =>
    if !block.allocated then (.ok, arena)
    else if block.referenceCount ≠ 0 then (.busy, arena)
    else if block.residencyReserved ∨ block.residencyReferenceCount ≠ 0 then (.busy, arena)
    else andThen
      (if block.shared then
        let released := (arena.releaseResidentSlot layout index).2
        if released.sharedBlockCount = 0 then (.internalError, released)
        else (.ok, { released with sharedBlockCount := released.sharedBlockCount - 1 })
      else if block.resident then
        andThen (arena.releaseResidentSlot layout index) fun arena =>
          if arena.residentBlockCount = 0 then (.internalError, arena)
          else (.ok, { arena with residentBlockCount := arena.residentBlockCount - 1 })
      else (.ok, arena))
      fun arena =>
        let block := arena.blocks index
        (.ok, { arena with freeLogicalBlockHead := some index }.useBlock index
          { block with
            allocated := false
            resident := false
            residencyReserved := false
            dirty := false
            backingValid := false
            parkFailed := false
            shared := false
            keepPriority := 0
            keepDeadlineNs := 0
            generation := block.generation + 1
            freeNext := arena.freeLogicalBlockHead })

/-- `SparkKvCacheArenaMarkBlockNonResident`. -/
def markBlockNonResident (layout : Layout) (arena : Arena) (index : Nat) : SparkStatus × Arena :=
  arena.onBlock layout index fun block =>
    if !block.allocated then (.invalidArgument, arena)
    else if block.residencyReserved ∨ block.residencyReferenceCount ≠ 0 then (.busy, arena)
    else if block.shared then (.invalidArgument, arena)
    else if block.resident then arena.evictResidentBlock layout index
    else (.ok, arena.useBlock index block)

/-- What `SparkKvCacheArenaReset` leaves: it clears neither the state of the parks nor their
counts. -/
def startOver (layout : Layout) (arena : Arena) : Arena :=
  { initial layout with
    parkDegraded := arena.parkDegraded
    parkBackingFullCount := arena.parkBackingFullCount
    parkStallCount := arena.parkStallCount
    evictCalls := arena.evictCalls
    evictions := arena.evictions }

/-- `SparkKvCacheArenaReset`. -/
def reset (layout : Layout) (arena : Arena) : SparkStatus × Arena :=
  if validate layout arena ≠ .ok then (validate layout arena, arena)
  else (.ok, arena.startOver layout)

end Arena

end Sparkpipe.KvCache
