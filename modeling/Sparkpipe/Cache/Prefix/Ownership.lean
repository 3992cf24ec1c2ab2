import Sparkpipe.Cache.Prefix.Index

/-!
# Entries, bindings and the blocks they hold

The internal operations every public call is made of: installing and
invalidating entries, tying a sequence to an entry and releasing it, committing
an entry, and rolling an epoch back.
-/

namespace Sparkpipe.PrefixCache

open Sparkpipe.KvCache (Layout Arena)

variable (config : Configuration) (cache : Cache)

section LogicalBlocks

/-- A call on the logical block of an entry or a binding: it goes to the arena when there is
one, and is otherwise only a range check. -/
def onLogicalBlock (call : Layout → Arena → Nat → SparkStatus × Arena) (block : Option Nat) :
    SparkStatus × Cache :=
  match config.kvCacheArena, block with
  | some _, none => (.invalidArgument, cache)
  | some layout, some index =>
    let result := call layout cache.arena index
    (result.1, { cache with arena := result.2 })
  | none, none => (.invalidArgument, cache)
  | none, some index =>
    (if index < config.logicalBlockCount then .ok else .invalidArgument, cache)

/-- `SparkPrefixCacheRecycleLogicalBlock`. -/
def recycleLogicalBlock (block : Option Nat) : SparkStatus × Cache :=
  onLogicalBlock config cache (fun layout arena => arena.recycleBlock layout) block

/-- `SparkPrefixCacheRetainLogicalBlock`. -/
def retainLogicalBlock (block : Option Nat) : SparkStatus × Cache :=
  onLogicalBlock config cache (fun layout arena => arena.retainBlock layout) block

/-- `SparkPrefixCacheReleaseLogicalBlockReference`. -/
def releaseLogicalBlockReference (block : Option Nat) : SparkStatus × Cache :=
  onLogicalBlock config cache (fun layout arena => arena.releaseBlockReference layout) block

/-- `SparkPrefixCacheMarkLogicalBlockResident`. -/
def markLogicalBlockResident (block : Option Nat) : SparkStatus × Cache :=
  onLogicalBlock config cache (fun layout arena => arena.markBlockResident layout) block

/-- `SparkPrefixCacheFreeLogicalBlock`. -/
def freeLogicalBlock (block : Option Nat) : SparkStatus × Cache :=
  onLogicalBlock config cache (fun layout arena => arena.freeBlock layout) block

/-- `SparkPrefixCacheAcquireLogicalBlock`: without an arena an entry gets the block of its own
index. -/
def acquireLogicalBlock (preferred : Nat) : SparkStatus × Option Nat × Cache :=
  match config.kvCacheArena with
  | some layout =>
    let result := cache.arena.acquireBlock layout
    (result.1, result.2.1, { cache with arena := result.2.2 })
  | none =>
    if config.logicalBlockCount ≤ preferred then (.capacityExceeded, none, cache)
    else (.ok, some preferred, cache)

end LogicalBlocks

section Entries

/-- What `SparkPrefixCacheInstallEntry` is asked to install. -/
structure Installation where
  flags : EntryFlags
  key : BlockKey
  contentDigest : List UInt8
  operationEpoch : UInt64

/-- The fields `SparkPrefixCacheInstallEntry` writes once the entry has a block. -/
def writeEntry (index : Nat) (install : Installation) (block : Option Nat) : Cache :=
  let written := modifyEntry cache index fun entry =>
    { entry with
      flags := { install.flags with valid := true }
      tokenCount := install.key.tokenCount
      firstTokenIndex := install.key.firstTokenIndex
      logicalBlockIndex := block
      referenceCount := 0
      reserved := some 0
      parentHash := install.key.parentHash
      blockHash := install.key.blockHash
      contentHash := install.key.contentHash
      contentDigest := install.contentDigest
      reservationEpoch := install.operationEpoch
      committedEpoch := 0
      lookaheadPriority := 0
      lookaheadRequestCount := 0
      lookaheadProtectionEpoch := 0 }
  linkEntry config (touchEntry config written index) index

/-- An entry that has a block gives it back. -/
def freeEntryBlock (block : Option Nat) : SparkStatus × Cache :=
  if block = none then (.ok, cache) else freeLogicalBlock config cache block

/-- An entry is cleared and put on the free list. -/
def retireEntry (index : Nat) : Cache :=
  { modifyEntry cache index fun _ => { reserved := cache.freeEntryHead } with
    freeEntryHead := some index }

/-- `SparkPrefixCacheInvalidateEntry`: the block is freed first, then the entry is unlinked and
put on the free list. -/
def invalidateEntry (index : Nat) : SparkStatus × Cache :=
  let entry := cache.entries index
  if !entry.flags.valid then (.ok, cache)
  else if entry.referenceCount ≠ 0 then (.busy, cache)
  else if config.entryCount ≤ index then (.invalidArgument, cache)
  else
    andThen (freeEntryBlock config cache entry.logicalBlockIndex) fun cache =>
    andThen (unlinkEntry config cache index) fun cache => (.ok, retireEntry cache index)

/-- `SparkPrefixCacheInstallEntry`: a free entry acquires a block, an evicted one recycles its
own. -/
def installEntry (index : Nat) (install : Installation) : SparkStatus × Cache :=
  let entry := cache.entries index
  if config.entryCount ≤ index then (.invalidArgument, cache)
  else if entry.flags.valid then
    if entry.referenceCount ≠ 0 then (.busy, cache)
    else
      andThen (recycleLogicalBlock config cache entry.logicalBlockIndex) fun cache =>
      andThen (unlinkEntry config cache index) fun cache =>
        (.ok, writeEntry config cache index install entry.logicalBlockIndex)
  else if cache.freeEntryHead ≠ some index then (.internalError, cache)
  else
    let acquired := acquireLogicalBlock config cache index
    if acquired.1 ≠ .ok then (acquired.1, acquired.2.2)
    else (.ok, writeEntry config { acquired.2.2 with freeEntryHead := entry.reserved } index install
      acquired.2.1)

/-- `SparkPrefixCacheCommitEntry`: only a pending entry of the epoch changes. -/
def commitEntry (index : Nat) (reservationEpoch : UInt64) : SparkStatus × Cache :=
  let entry := cache.entries index
  if !entry.flags.valid ∨ !entry.flags.pending ∨ entry.reservationEpoch ≠ reservationEpoch then
    (.ok, cache)
  else
    andThen (markLogicalBlockResident config cache entry.logicalBlockIndex) fun cache =>
      (.ok, modifyEntry cache index fun entry =>
        { entry with
          flags :=
            if entry.flags.liveOnly then { entry.flags with pending := false }
            else { entry.flags with pending := false, reusable := true }
          committedEpoch := reservationEpoch })

end Entries

section Bindings

/-- The entry loses a reference; the binding is cleared and put on the free list. -/
def retireBinding (entryIndex index : Nat) : Cache :=
  let cache := modifyEntry cache entryIndex fun entry =>
    { entry with referenceCount := entry.referenceCount - 1 }
  { modifyBinding cache index fun _ => { reserved := cache.freeBindingHead } with
    freeBindingHead := some index }

/-- `SparkPrefixCacheReleaseBinding`. -/
def releaseBinding (index : Nat) : SparkStatus × Cache :=
  let binding := cache.bindings index
  if !binding.valid then (.ok, cache)
  else if config.entryCount ≤ binding.entryIndex ∨
      (cache.entries binding.entryIndex).referenceCount = 0 then (.invalidArgument, cache)
  else if config.sequenceBindingCount ≤ index then (.invalidArgument, cache)
  else
    andThen (releaseLogicalBlockReference config cache binding.logicalBlockIndex) fun cache =>
    andThen (unlinkBinding config cache index) fun cache =>
      (.ok, retireBinding cache binding.entryIndex index)

/-- The binding `SparkPrefixCacheAcquireEntryForSequence` writes. The free-list link it leaves in
`reserved` is never read while the binding is valid. -/
def boundTo (entry : Entry) (index : Nat) (sequenceId operationEpoch : UInt64) (pending : Bool)
    (free : Binding) : Binding :=
  { free with
    valid := true
    pending := pending
    entryIndex := index
    firstTokenIndex := entry.firstTokenIndex
    tokenCount := entry.tokenCount
    logicalBlockIndex := entry.logicalBlockIndex
    sequenceId := sequenceId
    parentHash := entry.parentHash
    blockHash := entry.blockHash
    acquireEpoch := operationEpoch }

/-- Write and link a new binding, and count it. -/
def writeBinding (binding index : Nat) (sequenceId operationEpoch : UInt64) (pending : Bool) :
    Cache :=
  let written := modifyBinding cache binding
    (boundTo (cache.entries index) index sequenceId operationEpoch pending)
  modifyEntry (linkBinding config written binding) index fun entry =>
    { entry with referenceCount := entry.referenceCount + 1 }

/-- `SparkPrefixCacheAcquireEntryForSequence`. The source checks once more, after retaining the
block, that the binding is still the head of the free list; it was read from there. -/
def acquireEntryForSequence (sequenceId : UInt64) (index : Nat) (operationEpoch : UInt64)
    (pending : Bool) : SparkStatus × Cache :=
  if config.entryCount ≤ index then (.invalidArgument, cache)
  else match findBindingAtTokenOffset config cache sequenceId
      (cache.entries index).firstTokenIndex with
    | some existing =>
      if (cache.bindings existing).entryIndex ≠ index then (.schemaError, cache)
      else if pending then
        (.ok, modifyBinding cache existing fun binding => { binding with pending := true })
      else (.ok, cache)
    | none =>
      match findFreeBinding config cache with
      | none => (.capacityExceeded, cache)
      | some binding =>
        andThen (retainLogicalBlock config cache (cache.entries index).logicalBlockIndex)
          fun cache => (.ok, writeBinding config
            { cache with freeBindingHead := (cache.bindings binding).reserved }
            binding index sequenceId operationEpoch pending)

/-- A loop over the sequence chain a binding bucket starts, bounded by the number of bindings.
The successor is read before the visit. -/
def forSequence (visit : Nat → Cache → SparkStatus × Cache) :
    Nat → Option Nat → Cache → SparkStatus × Cache
  | 0, _, cache => (.ok, cache)
  | _ + 1, none, cache => (.ok, cache)
  | fuel + 1, some index, cache =>
    if config.sequenceBindingCount ≤ index then (.internalError, cache)
    else andThen (visit index cache)
      (forSequence visit fuel (cache.bindings index).sequenceHashNext)

/-- Walk the sequence chain of `sequenceId`. -/
def walkSequence (sequenceId : UInt64) (visit : Nat → Cache → SparkStatus × Cache) :
    SparkStatus × Cache :=
  forSequence config visit config.sequenceBindingCount
    (cache.bindingSequenceHashBucketHeads (bindingSequenceBucket config sequenceId)) cache

/-- A pending entry of the epoch that nothing references any more. -/
def entryIsAbandoned (operationEpoch : UInt64) (entry : Entry) : Bool :=
  entry.flags.valid && entry.flags.pending && entry.reservationEpoch == operationEpoch &&
    entry.referenceCount == 0

/-- A valid binding of the sequence that was acquired in the epoch. -/
def bindingIsOfEpoch (sequenceId operationEpoch : UInt64) (binding : Binding) : Bool :=
  binding.valid && binding.sequenceId == sequenceId && binding.acquireEpoch == operationEpoch

/-- `SparkPrefixCacheRollbackEpoch`. -/
def rollbackEpoch (sequenceId operationEpoch : UInt64) : SparkStatus × Cache :=
  if config.bindingHashBucketCount ≠ 0 then
    walkSequence config cache sequenceId fun index cache =>
      let binding := cache.bindings index
      if bindingIsOfEpoch sequenceId operationEpoch binding then
        andThen (releaseBinding config cache index) fun cache =>
          if entryIsAbandoned operationEpoch (cache.entries binding.entryIndex) then
            invalidateEntry config cache binding.entryIndex
          else (.ok, cache)
      else (.ok, cache)
  else
    andThen (forEach (fun index cache =>
        if bindingIsOfEpoch sequenceId operationEpoch (cache.bindings index) then
          releaseBinding config cache index
        else (.ok, cache)) (List.range config.sequenceBindingCount) cache) fun cache =>
    forEach (fun index cache =>
        if entryIsAbandoned operationEpoch (cache.entries index) then
          invalidateEntry config cache index
        else (.ok, cache)) (List.range config.entryCount) cache

end Bindings

end Sparkpipe.PrefixCache
