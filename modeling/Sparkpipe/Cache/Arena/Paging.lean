import Sparkpipe.Cache.Arena.Model

/-!
# The arena as the page cache uses it

The operations of `kv_cache.c` that only the page cache needs: residency pins of
single blocks and of whole tables, dirtying, parking, and adopting a page that is
already in place, in the shared window or in a resident slot.
-/

namespace Sparkpipe.KvCache

/-- The largest `uint32_t`. -/
def maxU32 : Nat := 2 ^ 32 - 1

namespace Arena

/-- `SparkKvCacheArenaResolveBlock`: the view is the block itself. -/
def resolveBlock (layout : Layout) (arena : Arena) (index : Nat) : SparkStatus :=
  if validate layout arena ≠ .ok then validate layout arena
  else if layout.logicalBlockCount ≤ index then .invalidArgument
  else if !(arena.blocks index).allocated then .notFound
  else .ok

/-- `SparkKvCacheArenaPinResidentBlock`. -/
def pinResidentBlock (layout : Layout) (arena : Arena) (index : Nat) : SparkStatus × Arena :=
  arena.onBlock layout index fun block =>
    if !block.allocated ∨ !block.resident ∨ block.residencyReserved then (.busy, arena)
    else if block.residencyReferenceCount = maxU32 then (.capacityExceeded, arena)
    else (.ok, arena.useBlock index
      { block with residencyReferenceCount := block.residencyReferenceCount + 1 })

/-- `SparkKvCacheArenaUnpinResidentBlock`. -/
def unpinResidentBlock (layout : Layout) (arena : Arena) (index : Nat) : SparkStatus × Arena :=
  arena.onBlock layout index fun block =>
    if !block.allocated ∨ !block.resident ∨ block.residencyReserved ∨
        block.residencyReferenceCount = 0 then (.invalidArgument, arena)
    else (.ok, arena.useBlock index
      { block with residencyReferenceCount := block.residencyReferenceCount - 1 })

/-- The loop of `SparkKvCacheArenaUnpinResidentTable`: every block is tried, and the first failure
is reported. -/
def unpinEach (layout : Layout) : List Nat → SparkStatus → Arena → SparkStatus × Arena
  | [], result, arena => (result, arena)
  | index :: rest, result, arena =>
    let unpinned := arena.unpinResidentBlock layout index
    unpinEach layout rest (if result = .ok ∧ unpinned.1 ≠ .ok then unpinned.1 else result) unpinned.2

/-- `SparkKvCacheArenaUnpinResidentTable`. -/
def unpinResidentTable (layout : Layout) (arena : Arena) (table : List Nat) : SparkStatus × Arena :=
  if validate layout arena ≠ .ok then (validate layout arena, arena)
  else unpinEach layout table .ok arena

/-- A resident slot that a page table may hold. -/
def slotInWindow (layout : Layout) (block : Block) : Bool :=
  match block.residentSlotIndex with
  | none => false
  | some slot =>
    if block.shared then
      layout.sharedPageBase ≤ slot && slot < layout.sharedPageBase + layout.sharedPageCount
    else slot < layout.residentBlockCapacity

/-- The loop of `SparkKvCacheArenaPinResidentTable`: how many blocks it pinned, and what stopped
it. -/
def pinEach (layout : Layout) : List Nat → Nat → Arena → SparkStatus × Nat × Arena
  | [], pinned, arena => (.ok, pinned, arena)
  | index :: rest, pinned, arena =>
    let attempt := arena.pinResidentBlock layout index
    if attempt.1 ≠ .ok then (attempt.1, pinned, attempt.2)
    else if attempt.2.resolveBlock layout index ≠ .ok then
      (attempt.2.resolveBlock layout index, pinned + 1, attempt.2)
    else if !slotInWindow layout (attempt.2.blocks index) then
      (.internalError, pinned + 1, attempt.2)
    else pinEach layout rest (pinned + 1) attempt.2

/-- `SparkKvCacheArenaPinResidentTable`: all of the table or none of it. The physical slots it
writes are read off the blocks. -/
def pinResidentTable (layout : Layout) (arena : Arena) (table : List Nat) : SparkStatus × Arena :=
  if validate layout arena ≠ .ok then (validate layout arena, arena)
  else
    let attempt := pinEach layout table 0 arena
    if attempt.1 = .ok then (.ok, attempt.2.2)
    else
      let rollback := attempt.2.2.unpinResidentTable layout (table.take attempt.2.1)
      (if rollback.1 = .ok then attempt.1 else rollback.1, rollback.2)

/-- `SparkKvCacheArenaMarkBlockDirty`. -/
def markBlockDirty (layout : Layout) (arena : Arena) (index : Nat) : SparkStatus × Arena :=
  arena.onBlock layout index fun block =>
    if !block.allocated ∨ !block.resident ∨ block.residencyReserved then (.busy, arena)
    else (.ok, arena.useBlock index
      { block with
        dirty := true
        backingValid := false
        parkFailed := false })

/-- `SparkKvCacheArenaParkResidentBlock`. -/
def parkResidentBlock (layout : Layout) (arena : Arena) (index : Nat) : SparkStatus × Arena :=
  arena.onBlock layout index fun block =>
    if layout.evictFunction.isNone ∧ block.referenceCount ≠ 0 then (.busy, arena)
    else if block.shared then (.invalidArgument, arena)
    else arena.evictResidentBlock layout index

/-- `SparkKvCacheArenaAdoptResidentSlot`: a new block takes the page that is in the slot. -/
def adoptResidentSlot (layout : Layout) (arena : Arena) (index slot : Nat) : SparkStatus × Arena :=
  arena.onBlock layout index fun block =>
    if layout.residentBlockCapacity ≤ slot then (.invalidArgument, arena)
    else if !block.allocated ∨ block.resident ∨ block.residencyReserved ∨ block.backingValid ∨
        block.residentSlotIndex ≠ none ∨ arena.residentSlots slot ≠ none then (.busy, arena)
    else (.ok, { arena with
      residentSlots := Function.update arena.residentSlots slot (some index)
      residentBlockCount := arena.residentBlockCount + 1 }.useBlock index
        { block with
          residentSlotIndex := some slot
          resident := true })

/-- `SparkKvCacheArenaAdoptSharedBlock`: a new block for a page of the shared window. -/
def adoptSharedBlock (layout : Layout) (arena : Arena) (windowSlot : Nat) :
    SparkStatus × Option Nat × Arena :=
  if validate layout arena ≠ .ok then (validate layout arena, none, arena)
  else if layout.sharedPageCount ≤ windowSlot then (.invalidArgument, none, arena)
  else
    match arena.acquireBlock layout with
    | (.ok, some index, acquired) =>
      (.ok, some index, { acquired with sharedBlockCount := acquired.sharedBlockCount + 1 }.setBlock index
        { acquired.blocks index with
          resident := true
          shared := true
          residentSlotIndex := some (layout.sharedPageBase + windowSlot) })
    | (status, _, acquired) => (status, none, acquired)

end Arena

end Sparkpipe.KvCache
