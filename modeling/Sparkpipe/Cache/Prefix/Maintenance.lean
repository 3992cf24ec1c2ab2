import Sparkpipe.Cache.Prefix.Prompt

/-!
# Keeping the cache

The public calls that mark, retire, import and reset cached blocks, protect
those that are about to be used, and trim the arena's resident blocks. Calls that
only read the cache (`BuildLogicalBlockTable`, `ExportCommitted` and their like)
change nothing and are left out.
-/

namespace Sparkpipe.PrefixCache

open Sparkpipe.KvCache (Layout Arena Block)

variable (config : Configuration) (cache : Cache)

section Probes

/-- `SparkPrefixCacheProbeLogicalBlockTable`: the matched token count and the block table. -/
def probeLogicalBlockTable (tokens : List UInt32) (capacity : Nat) :
    SparkStatus × Nat × List (Option Nat) × Cache :=
  if validate config ≠ .ok then (validate config, 0, [], cache)
  else if tokens.length = 0 then (.invalidArgument, 0, [], cache)
  else
    let maximum := maximumReusableTokenCount tokens.length
    let (status, walk, table, cache) := walkPrompt config tokens maximum
      (fun index (table : List (Option Nat)) cache =>
        if capacity ≤ table.length then (.capacityExceeded, table, cache)
        else (.ok, table ++ [(cache.entries index).logicalBlockIndex], cache))
      (maximum + 1) {} [] cache
    if status ≠ .ok then (status, 0, table, cache) else (.ok, walk.tokenOffset, table, cache)

/-- The check of `SparkPrefixCacheFillPrefetchSourceBlock` on the entry it describes. -/
def fillPrefetchSourceBlock (index : Nat) : SparkStatus :=
  if (cache.entries index).flags.valid ∧
      (cache.entries index).logicalBlockIndex.any (· < config.logicalBlockCount) then .ok
  else .invalidArgument

/-- `SparkPrefixCacheProbeReusablePrefixPrefetchSources`: the matched token count and the entries
whose blocks are to be fetched. -/
def probeReusablePrefixPrefetchSources (tokens : List UInt32) (capacity : Nat) :
    SparkStatus × Nat × List Nat × Cache :=
  if validate config ≠ .ok then (validate config, 0, [], cache)
  else if tokens.length = 0 then (.invalidArgument, 0, [], cache)
  else
    let maximum := maximumReusableTokenCount tokens.length
    let (status, walk, sources, cache) := walkPrompt config tokens maximum
      (fun index (sources : List Nat) cache =>
        if capacity ≤ sources.length then (.capacityExceeded, sources, cache)
        else if fillPrefetchSourceBlock config cache index ≠ .ok then
          (fillPrefetchSourceBlock config cache index, sources, cache)
        else (.ok, sources ++ [index], cache))
      (maximum + 1) {} [] cache
    if status ≠ .ok then (status, 0, sources, cache) else (.ok, walk.tokenOffset, sources, cache)

/-- Whether a block counts as not resident: only the arena can say so. -/
def blockIsNonresident (block : Option Nat) : Bool :=
  match config.kvCacheArena, block with
  | some layout, some index =>
    decide (index < layout.logicalBlockCount) && !(cache.arena.blocks index).resident
  | _, _ => false

/-- `SparkPrefixCacheProbeReusablePrefixResidency`: the matched token count, and how many matched
blocks are resident and not. -/
def probeReusablePrefixResidency (tokens : List UInt32) : SparkStatus × Nat × (Nat × Nat) × Cache :=
  if validate config ≠ .ok then (validate config, 0, (0, 0), cache)
  else if tokens.length = 0 then (.invalidArgument, 0, (0, 0), cache)
  else
    let maximum := maximumReusableTokenCount tokens.length
    let (_, walk, counts, cache) := walkPrompt config tokens maximum
      (fun index (counts : Nat × Nat) cache =>
        if blockIsNonresident config cache (cache.entries index).logicalBlockIndex then
          (.ok, (counts.1, counts.2 + 1), cache)
        else (.ok, (counts.1 + 1, counts.2), cache))
      (maximum + 1) {} (0, 0) cache
    (.ok, walk.tokenOffset, counts, cache)

end Probes

section Lookahead

/-- `SparkPrefixCacheResetLookaheadProtection`: a new protection epoch; when the counter wraps,
every mark of an old epoch is cleared. -/
def resetLookaheadProtection : SparkStatus × Cache :=
  if validate config ≠ .ok then (validate config, cache)
  else if cache.lookaheadProtectionEpoch + 1 ≠ 0 then
    (.ok, { cache with lookaheadProtectionEpoch := cache.lookaheadProtectionEpoch + 1 })
  else
    (.ok, { cache with
      lookaheadProtectionEpoch := 1
      entries := fun index =>
        if index < config.entryCount then
          { cache.entries index with
            lookaheadProtectionEpoch := 0
            lookaheadPriority := 0
            lookaheadRequestCount := 0 }
        else cache.entries index })

/-- The mark `SparkPrefixCacheProtectPromptLookahead` leaves on an entry. -/
def protectEntry (index demandWeight : Nat) : Cache :=
  modifyEntry cache index fun entry =>
    if entry.lookaheadProtectionEpoch ≠ cache.lookaheadProtectionEpoch then
      { entry with
        lookaheadProtectionEpoch := cache.lookaheadProtectionEpoch
        lookaheadPriority := demandWeight
        lookaheadRequestCount := 1 }
    else
      { entry with
        lookaheadPriority := max demandWeight entry.lookaheadPriority
        lookaheadRequestCount := min (entry.lookaheadRequestCount + 1) (2 ^ 32 - 1) }

/-- `SparkPrefixCacheProtectPromptLookahead`: the protected tokens and blocks. -/
def protectPromptLookahead (tokens : List UInt32) (demandWeight : Nat) :
    SparkStatus × (Nat × Nat) × Cache :=
  if validate config ≠ .ok then (validate config, (0, 0), cache)
  else if tokens.length = 0 then (.invalidArgument, (0, 0), cache)
  else
    let cache :=
      if cache.lookaheadProtectionEpoch = 0 then (resetLookaheadProtection config cache).2 else cache
    let maximum := maximumReusableTokenCount tokens.length
    let (_, walk, blocks, cache) := walkPrompt config tokens maximum
      (fun index (blocks : Nat) cache => (.ok, blocks + 1, protectEntry cache index demandWeight))
      (maximum + 1) {} 0 cache
    (.ok, (walk.tokenOffset, blocks), cache)

end Lookahead

section Trim

/-- `UINT64_MAX`. -/
def u64Max : Nat := 2 ^ 64 - 1

/-- `SparkPrefixCacheFindResidentEntryForLogicalBlock`. -/
def findResidentEntryForLogicalBlock (block : Nat) : Option Nat :=
  (List.range config.entryCount).foldl (fun best index =>
    let entry := cache.entries index
    if !entry.flags.valid ∨ entry.logicalBlockIndex ≠ some block then best
    else match best with
      | none => some index
      | some held =>
        if protectedVictimIsBetter (cache.entries held) (some entry) then some index else best) none

/-- `SparkPrefixCacheClampU64Product`. -/
def clampU64Product (left right : Nat) : Nat :=
  if left ≠ 0 ∧ u64Max / left < right then u64Max else left * right

/-- `SparkPrefixCacheAddScoreU64`. -/
def addScoreU64 (score addend : Nat) : Nat :=
  if u64Max - score < addend then u64Max else score + addend

/-- `SparkPrefixCacheComputeResidentBlockKeepScore`. -/
def computeResidentBlockKeepScore (block : Block) (entry : Option Entry) : Nat :=
  let score := addScoreU64 block.lastUsedEpoch (clampU64Product block.referenceCount 1000000000000)
  match entry with
  | none => score
  | some entry =>
    let score := addScoreU64 score entry.lastUsedTick
    let score := addScoreU64 score (clampU64Product entry.referenceCount 1000000000000)
    let depth := (entry.firstTokenIndex + entry.tokenCount) % 2 ^ 32
    let score := addScoreU64 score (clampU64Product depth 1024)
    if entryHasCurrentLookaheadProtection cache entry then
      let score := addScoreU64 score 1000000000000000
      let score := addScoreU64 score (clampU64Product entry.lookaheadPriority 1000000000)
      addScoreU64 score (clampU64Product entry.lookaheadRequestCount 10000000)
    else score

/-- `SparkPrefixCacheResidentEvictionCandidate`. -/
structure EvictionCandidate where
  logicalBlockIndex : Nat
  hasPrefixEntry : Bool
  keepScore : Nat
  lastUsedEpoch : Nat

/-- `SparkPrefixCacheResidentEvictionCandidateIsBetter`. -/
def evictionCandidateIsBetter (candidate : EvictionCandidate) (current : Option EvictionCandidate) :
    Bool :=
  match current with
  | none => true
  | some current =>
    if candidate.keepScore ≠ current.keepScore then candidate.keepScore < current.keepScore
    else if candidate.hasPrefixEntry ≠ current.hasPrefixEntry then !candidate.hasPrefixEntry
    else if candidate.lastUsedEpoch ≠ current.lastUsedEpoch then
      candidate.lastUsedEpoch < current.lastUsedEpoch
    else candidate.logicalBlockIndex < current.logicalBlockIndex

/-- `SparkPrefixCacheSelectResidentReuseScoreVictim`. -/
def selectResidentReuseScoreVictim (layout : Layout) (guarded : List Nat) :
    Option EvictionCandidate :=
  (List.range layout.logicalBlockCount).foldl (fun victim index =>
    let block := cache.arena.blocks index
    if !block.allocated ∨ !block.resident ∨ block.parkFailed ∨ guarded.contains index then victim
    else
      let entry := (findResidentEntryForLogicalBlock config cache index).map cache.entries
      let candidate : EvictionCandidate :=
        { logicalBlockIndex := index
          hasPrefixEntry := entry.isSome
          keepScore := computeResidentBlockKeepScore cache block entry
          lastUsedEpoch := block.lastUsedEpoch }
      if evictionCandidateIsBetter candidate victim then some candidate else victim) none

/-- The loop of `SparkPrefixCacheTrimResidentBlocksByReuseScore`. A pass makes one block either
not resident or marked as failed to park, so `fuel` bounds the number of passes. -/
def trimByReuseScore (layout : Layout) (maxResident : Nat) (guarded : List Nat) :
    Nat → Nat → Cache → SparkStatus × Nat × Cache
  | 0, evicted, cache => (.internalError, evicted, cache)
  | fuel + 1, evicted, cache =>
    if cache.arena.residentBlockCount ≤ maxResident then (.ok, evicted, cache)
    else match selectResidentReuseScoreVictim config cache layout guarded with
      | none => (.capacityExceeded, evicted, cache)
      | some victim =>
        let result := cache.arena.markBlockNonResident layout victim.logicalBlockIndex
        let cache := { cache with arena := result.2 }
        if result.1 = .ioError then
          trimByReuseScore layout maxResident guarded fuel evicted cache
        else if result.1 ≠ .ok then (result.1, evicted, cache)
        else trimByReuseScore layout maxResident guarded fuel (evicted + 1) cache

/-- `SparkPrefixCacheTrimResidentBlocksByReuseScore`: the status and the blocks evicted. -/
def trimResidentBlocksByReuseScore (maxResident : Nat) (guarded : List Nat) :
    SparkStatus × Nat × Cache :=
  if validate config ≠ .ok then (validate config, 0, cache)
  else match config.kvCacheArena with
    | none => (.invalidArgument, 0, cache)
    | some layout =>
      if layout.logicalBlockCount < maxResident then (.invalidArgument, 0, cache)
      else trimByReuseScore config layout maxResident guarded (layout.logicalBlockCount + 1) 0 cache

end Trim

section Retire

/-- `SparkPrefixCacheTombstonePrompt`. -/
def tombstonePrompt (tokens : List UInt32) : SparkStatus × Cache :=
  if validate config ≠ .ok then (validate config, cache)
  else if tokens.length = 0 then (.invalidArgument, cache)
  else
    let (_, walk, terminal, cache) := walkPrompt config tokens tokens.length
      (fun index (_ : Option Nat) cache => (.ok, some index, cache)) (tokens.length + 1) {} none cache
    match terminal with
    | none => (.notFound, cache)
    | some index =>
      if walk.tokenOffset ≠ tokens.length then (.notFound, cache)
      else
        let cache := modifyEntry cache index fun entry =>
          { entry with flags := { entry.flags with reusable := false, stale := true } }
        if (cache.entries index).referenceCount = 0 then invalidateEntry config cache index
        else (.ok, cache)

/-- `SparkPrefixCacheExpire`. -/
def expire (nowSeconds : Nat) : SparkStatus × Cache :=
  forEach (fun index cache =>
      if !entryIsEvictable (cache.entries index) ∨
          nowSeconds < (cache.entries index).usedSeconds + retentionSeconds then (.ok, cache)
      else invalidateEntry config cache index) (List.range config.entryCount) cache

/-- `SparkPrefixCacheReset`. -/
def reset : SparkStatus × Cache :=
  if validate config ≠ .ok then (validate config, cache)
  else
    let fresh := initialCache config cache.arena
    let cleared := { cache with
      entries := fun index => if index < config.entryCount then fresh.entries index
        else cache.entries index
      bindings := fun index => if index < config.sequenceBindingCount then fresh.bindings index
        else cache.bindings index
      entryHashBucketHeads := fun bucket => if bucket < config.entryHashBucketCount then none
        else cache.entryHashBucketHeads bucket
      bindingLookupHashBucketHeads := fun bucket => if bucket < config.bindingHashBucketCount then none
        else cache.bindingLookupHashBucketHeads bucket
      bindingSequenceHashBucketHeads := fun bucket =>
        if bucket < config.bindingHashBucketCount then none
        else cache.bindingSequenceHashBucketHeads bucket }
    andThen (match config.kvCacheArena with
      | none => (.ok, cleared)
      | some layout =>
        let result := cleared.arena.reset layout
        (result.1, { cleared with arena := result.2 })) fun cache =>
      (.ok, { cache with
        tick := 0
        freeEntryHead := some 0
        freeBindingHead := some 0
        operationEpoch := 0
        lookaheadProtectionEpoch := 0 })

end Retire

section Resume

/-- The entries of a prompt's blocks, in order, if all of them are cached. -/
def findPromptBlocks (tokens : List UInt32) : List Nat → UInt64 → Option (List Nat)
  | [], _ => some []
  | offset :: rest, parentHash =>
    let count := min config.blockTokenCount (tokens.length - offset)
    match findPromptBlock config cache tokens offset count parentHash with
    | none => none
    | some index =>
      (findPromptBlocks tokens rest (hashBlock (blockTokens tokens offset count) parentHash)).map
        (index :: ·)

/-- Set or clear the resume flag of an entry. -/
def setResume (index : Nat) (resume : Bool) : Cache :=
  modifyEntry cache index fun entry => { entry with flags := { entry.flags with resume := resume } }

/-- Note that an entry has a partial child that can be resumed. -/
def setResumeChild (index : Nat) : Cache :=
  modifyEntry cache index fun entry => { entry with flags := { entry.flags with resumeChild := true } }

/-- `SparkPrefixCacheMarkResume`. -/
def markResume (tokens : List UInt32) : SparkStatus × Cache :=
  if validate config ≠ .ok then (validate config, cache)
  else if tokens.length = 0 then (.invalidArgument, cache)
  else match (findPromptBlocks config cache tokens (blockOffsets config tokens.length)
      emptyParentHash).map List.reverse with
    | none | some [] => (.notFound, cache)
    | some (index :: parents) =>
      let cache := setResume cache index true
      match parents with
      | [] => (.ok, cache)
      | parent :: _ =>
        if (cache.entries index).tokenCount < config.blockTokenCount then
          (.ok, setResumeChild cache parent)
        else (.ok, cache)

/-- `SparkPrefixCacheClearResume`. -/
def clearResume (tokens : List UInt32) : SparkStatus × Cache :=
  if validate config ≠ .ok then (validate config, cache)
  else if tokens.length = 0 then (.invalidArgument, cache)
  else match (findPromptBlocks config cache tokens (blockOffsets config tokens.length)
      emptyParentHash).map List.reverse with
    | none | some [] => (.notFound, cache)
    | some (index :: _) => (.ok, setResume cache index false)

/-- The loop of `SparkPrefixCacheSupersedeResume`: `kept` is the window of recent resume points,
oldest first, as entry and end. -/
def supersedeBlocks (tokens : List UInt32) (window anchor : Nat) :
    List Nat → UInt64 → List (Nat × Nat) → Nat → Cache → Nat × Cache
  | [], _, _, superseded, cache => (superseded, cache)
  | offset :: rest, parentHash, kept, superseded, cache =>
    match findPromptBlock config cache tokens offset config.blockTokenCount parentHash with
    | none => (superseded, cache)
    | some index =>
      let parentHash := hashBlock (blockTokens tokens offset config.blockTokenCount) parentHash
      if !(cache.entries index).flags.resume then
        supersedeBlocks tokens window anchor rest parentHash kept superseded cache
      else
        let kept := kept ++ [(index, offset + config.blockTokenCount)]
        if kept.length ≤ window then
          supersedeBlocks tokens window anchor rest parentHash kept superseded cache
        else match kept with
          | [] => (superseded, cache)
          | (victim, victimEnd) :: kept =>
            if victimEnd % anchor ≠ 0 then
              supersedeBlocks tokens window anchor rest parentHash kept (superseded + 1)
                (setResume cache victim false)
            else supersedeBlocks tokens window anchor rest parentHash kept superseded cache

/-- `SparkPrefixCacheSupersedeResume`: the status and the resume points cleared. -/
def supersedeResume (tokens : List UInt32) (recentCount anchorTokenCount : Nat) :
    SparkStatus × Nat × Cache :=
  if validate config ≠ .ok then (validate config, 0, cache)
  else if tokens.length = 0 ∨ recentCount = 0 ∨ resumeRecentMaximum < recentCount ∨
      anchorTokenCount = 0 ∨ anchorTokenCount % config.blockTokenCount ≠ 0 then
    (.invalidArgument, 0, cache)
  else
    let limit := (tokens.length - 1) / config.blockTokenCount * config.blockTokenCount
    let result := supersedeBlocks config tokens (recentCount - 1) anchorTokenCount
      (blockOffsets config limit) emptyParentHash [] 0 cache
    (.ok, result)

end Resume

section Import

/-- `SparkPrefixCacheCommittedRecord`. Its flag word may hold only `RESUME`. -/
structure CommittedRecord where
  key : BlockKey
  contentDigest : List UInt8
  resume : Bool
  otherFlags : Bool
  usedSeconds : Nat

/-- The slots of `SparkPrefixCacheParentIndex`; a slot holds the index of an entry. -/
structure ParentIndex where
  slots : Nat → Option Nat
  slotCount : Nat

/-- `SparkPrefixCacheParentSlot`. -/
def parentSlot (index : ParentIndex) (blockHash : UInt64) (firstTokenIndex : Nat) : Nat :=
  (blockHash ^^^ (UInt64.ofNat firstTokenIndex * 0x9E3779B97F4A7C15)).toNat % index.slotCount

/-- Probe from `slot` for an empty slot or one whose entry has the given hash and place. -/
def probeParent (index : ParentIndex) (blockHash : UInt64) (firstTokenIndex : Nat) :
    Nat → Nat → Nat
  | 0, slot => slot
  | fuel + 1, slot =>
    match index.slots slot with
    | none => slot
    | some held =>
      if (cache.entries held).blockHash = blockHash ∧
          (cache.entries held).firstTokenIndex = firstTokenIndex then slot
      else probeParent index blockHash firstTokenIndex fuel ((slot + 1) % index.slotCount)

/-- `SparkPrefixCacheParentIndexAdd`. -/
def parentIndexAdd (index : ParentIndex) (entryIndex : Nat) : ParentIndex :=
  let entry := cache.entries entryIndex
  if entry.tokenCount ≠ config.blockTokenCount then index
  else
    let slot := probeParent cache index entry.blockHash entry.firstTokenIndex index.slotCount
      (parentSlot index entry.blockHash entry.firstTokenIndex)
    match index.slots slot with
    | some _ => index
    | none => { index with slots := Function.update index.slots slot (some entryIndex) }

/-- The smallest power of two from `slotCount` on that is at least `bound`. -/
def doubleUntil (bound : Nat) : Nat → Nat → Nat
  | 0, slotCount => slotCount
  | fuel + 1, slotCount => if slotCount < bound then doubleUntil bound fuel (2 * slotCount) else slotCount

/-- `SparkPrefixCacheParentIndexOpen`, once its slots are allocated. -/
def parentIndexOpen : ParentIndex :=
  (List.range config.entryCount).foldl (fun index entryIndex =>
    if entryIsReusable config (cache.entries entryIndex) then
      parentIndexAdd config cache index entryIndex
    else index)
    { slots := fun _ => none, slotCount := doubleUntil (2 * config.entryCount) 64 4 }

/-- `SparkPrefixCacheFindParent`. -/
def findParent (index : ParentIndex) (record : CommittedRecord) : Option Nat :=
  if record.key.firstTokenIndex < config.blockTokenCount then none
  else
    let firstTokenIndex := record.key.firstTokenIndex - config.blockTokenCount
    index.slots (probeParent cache index record.key.parentHash firstTokenIndex index.slotCount
      (parentSlot index record.key.parentHash firstTokenIndex))

/-- The records `SparkPrefixCacheImportCommitted` skips before it looks for a parent. -/
def recordIsSkipped (nowSeconds : Nat) (record : CommittedRecord) : Bool :=
  record.key.tokenCount == 0 || decide (config.blockTokenCount < record.key.tokenCount) ||
    record.key.firstTokenIndex % config.blockTokenCount != 0 || record.otherFlags ||
    record.usedSeconds == 0 || decide (record.usedSeconds + retentionSeconds ≤ nowSeconds) ||
    (findEntry config cache record.key record.contentDigest false).isSome ||
    cache.freeEntryHead.isNone

/-- What the record loop of `SparkPrefixCacheImportCommitted` carries. -/
structure ImportState where
  cache : Cache
  parents : ParentIndex
  imported : Nat := 0
  skipped : Nat := 0

/-- One record once its parent is known: the head of the free list takes it. -/
def importInstall (record : CommittedRecord) (parent : Option Nat) (state : ImportState) :
    ImportState :=
  match state.cache.freeEntryHead with
  | none => { state with skipped := state.skipped + 1 }
  | some index =>
    let cache := nextEpoch state.cache
    let installed := installEntry config cache index
      { flags := { reusable := true, resume := record.resume }
        key := record.key
        contentDigest := record.contentDigest
        operationEpoch := cache.operationEpoch }
    if installed.1 ≠ .ok then { state with cache := installed.2, skipped := state.skipped + 1 }
    else
      let noted := modifyEntry installed.2 index fun entry =>
        { entry with committedEpoch := cache.operationEpoch, usedSeconds := record.usedSeconds }
      let linked := match parent with
        | some parent =>
          if record.resume ∧ record.key.tokenCount < config.blockTokenCount then
            setResumeChild noted parent
          else noted
        | none => noted
      { cache := linked
        parents := parentIndexAdd config linked state.parents index
        imported := state.imported + 1
        skipped := state.skipped }

/-- One iteration of the record loop. -/
def importRecord (nowSeconds : Nat) (state : ImportState) (record : CommittedRecord) : ImportState :=
  if recordIsSkipped config state.cache nowSeconds record then
    { state with skipped := state.skipped + 1 }
  else if record.key.firstTokenIndex = 0 then importInstall config record none state
  else match findParent config state.cache state.parents record with
    | none => { state with skipped := state.skipped + 1 }
    | some parent => importInstall config record (some parent) state

/-- `SparkPrefixCacheImportCommitted`; `allocated` says whether the parent index could be
allocated. Reports how many records were imported and skipped. -/
def importCommitted (records : List CommittedRecord) (allocated : Bool) :
    SparkStatus × (Nat × Nat) × Cache :=
  let nowSeconds := config.clock cache.clockReadings
  let cache := { cache with clockReadings := cache.clockReadings + 1 }
  if validate config ≠ .ok then (validate config, (0, 0), cache)
  else if !allocated then (.capacityExceeded, (0, 0), cache)
  else
    let state := records.foldl (importRecord config nowSeconds)
      { cache := cache, parents := parentIndexOpen config cache }
    (.ok, (state.imported, state.skipped), state.cache)

end Import

end Sparkpipe.PrefixCache
