import Sparkpipe.Cache.Prefix.Ownership

/-!
# Prompts and sequences

The public calls that look prompts up, reserve and commit their blocks, grow a
sequence, share a prefix between sequences, and release a sequence. A call that
fails part-way rolls its epoch back; every failing exit of a loop does so, so the
loops below report the status and the rollback stands once, behind the loop.
-/

namespace Sparkpipe.PrefixCache

variable (config : Configuration) (cache : Cache)

section Walk

/-- `SparkPrefixCacheMaximumReusableTokenCount`. -/
def maximumReusableTokenCount (tokenCount : Nat) : Nat :=
  if tokenCount ≤ 1 then 0 else tokenCount - 1

/-- `SparkPrefixCacheWalk`. -/
structure Walk where
  parentHash : UInt64 := 0
  tokenOffset : Nat := 0
  matchedBlockCount : Nat := 0
  isPartial : Bool := false

/-- `SparkPrefixCacheFindPromptBlock` with `reusable_only` set. -/
def findPromptBlock (tokens : List UInt32) (offset count : Nat) (parentHash : UInt64) : Option Nat :=
  findEntry config cache (promptBlockKey tokens parentHash offset count)
    (digestBlock (blockTokens tokens offset count)) true

/-- The longest cached block at the walk's position: its entry and its token count. -/
def longestBlock (tokens : List UInt32) (offset : Nat) (parentHash : UInt64) :
    Nat → Option (Nat × Nat)
  | 0 => none
  | count + 1 =>
    match findPromptBlock config cache tokens offset (count + 1) parentHash with
    | some index => some (index, count + 1)
    | none => longestBlock tokens offset parentHash count

/-- `SparkPrefixCacheWalkNextBounded`: the next matching entry, and the walk and cache after it. -/
def walkNextBounded (tokens : List UInt32) (maximum : Nat) (walk : Walk) :
    Option (Nat × Walk × Cache) :=
  if walk.isPartial ∨ maximum ≤ walk.tokenOffset then none
  else
    let parentHash := if walk.matchedBlockCount = 0 then emptyParentHash else walk.parentHash
    match longestBlock config cache tokens walk.tokenOffset parentHash
        (min config.blockTokenCount (maximum - walk.tokenOffset)) with
    | none => none
    | some (index, count) =>
      some (index,
        { parentHash := hashBlock (blockTokens tokens walk.tokenOffset count) parentHash
          tokenOffset := walk.tokenOffset + count
          matchedBlockCount := walk.matchedBlockCount + 1
          isPartial := count != config.blockTokenCount },
        touchEntry config cache index)

/-- `while ((entry = SparkPrefixCacheWalkNextBounded(...)) != 0)` around a body that may stop. A
match advances the walk, so `maximum` passes suffice. -/
def walkPrompt {α : Type} (tokens : List UInt32) (maximum : Nat)
    (visit : Nat → α → Cache → SparkStatus × α × Cache) :
    Nat → Walk → α → Cache → SparkStatus × Walk × α × Cache
  | 0, walk, gathered, cache => (.ok, walk, gathered, cache)
  | fuel + 1, walk, gathered, cache =>
    match walkNextBounded config cache tokens maximum walk with
    | none => (.ok, walk, gathered, cache)
    | some (index, walk, cache) =>
      let visited := visit index gathered cache
      if visited.1 ≠ .ok then (visited.1, walk, visited.2.1, visited.2.2)
      else walkPrompt tokens maximum visit fuel walk visited.2.1 visited.2.2

/-- `SparkPrefixCacheProbePrompt`. -/
def probePrompt (sequenceId : UInt64) (tokens : List UInt32) : SparkStatus × Lookup × Cache :=
  let lookup : Lookup := { requestedTokenCount := tokens.length, sequenceId := sequenceId }
  if validate config ≠ .ok then (validate config, lookup, cache)
  else if tokens.length = 0 ∨ sequenceId = 0 then (.invalidArgument, lookup, cache)
  else
    let maximum := maximumReusableTokenCount tokens.length
    let (_, walk, lookup, cache) := walkPrompt config tokens maximum
      (fun index (lookup : Lookup) cache =>
        (.ok, { lookup with
          logicalBlockIndex := (cache.entries index).logicalBlockIndex
          lastBlockHash := (cache.entries index).blockHash }, cache))
      (maximum + 1) {} lookup cache
    (.ok, { lookup with
      matchedTokenCount := walk.tokenOffset
      nextTokenIndex := walk.tokenOffset
      matchedBlockCount := walk.matchedBlockCount }, cache)

end Walk

section Loops

/-- The offsets `0, B, 2B, …` below `tokenCount` of the source's block loops. -/
def blockOffsets (tokenCount : Nat) : List Nat :=
  (List.range ((tokenCount + config.blockTokenCount - 1) / config.blockTokenCount)).map
    (· * config.blockTokenCount)

/-- A loop that failed is rolled back before its status is returned. -/
def rollbackUnlessOk (sequenceId operationEpoch : UInt64) (result : SparkStatus × Cache) :
    SparkStatus × Cache :=
  if result.1 = .ok then result
  else (result.1, (rollbackEpoch config result.2 sequenceId operationEpoch).2)

/-- `cache->operation_epoch += 1u`. -/
def nextEpoch : Cache := { cache with operationEpoch := cache.operationEpoch + 1 }

end Loops

section Lookup

/-- One iteration of the loop of `SparkPrefixCacheLookupPrompt`. -/
def lookupBlock (sequenceId operationEpoch : UInt64) (tokens : List UInt32) (matched offset : Nat)
    (state : UInt64 × Cache) : SparkStatus × UInt64 × Cache :=
  let count := min config.blockTokenCount (matched - offset)
  match findPromptBlock config state.2 tokens offset count state.1 with
  | none => (.internalError, state)
  | some index =>
    let acquired := acquireEntryForSequence config state.2 sequenceId index operationEpoch false
    (acquired.1, hashBlock (blockTokens tokens offset count) state.1, acquired.2)

/-- `SparkPrefixCacheLookupPrompt`. -/
def lookupPrompt (sequenceId : UInt64) (tokens : List UInt32) : SparkStatus × Lookup × Cache :=
  let (status, probe, cache) := probePrompt config cache sequenceId tokens
  if status ≠ .ok then (status, probe, cache)
  else
    let cache := nextEpoch cache
    let operationEpoch := cache.operationEpoch
    let loop := forEach (lookupBlock config sequenceId operationEpoch tokens probe.matchedTokenCount)
      (blockOffsets config probe.matchedTokenCount) (emptyParentHash, cache)
    let result := rollbackUnlessOk config sequenceId operationEpoch (loop.1, loop.2.2)
    (result.1, probe, result.2)

end Lookup

section Reserve

/-- What the block loop of `SparkPrefixCacheReservePromptInternal` carries. -/
structure ReserveState where
  cache : Cache
  reservation : Reservation
  parentHash : UInt64
  tokenOffset : Nat

/-- The end of an iteration: the chosen entry is acquired, reported and used. -/
def reserveAcquire (sequenceId operationEpoch : UInt64) (table : Bool) (key : BlockKey) (index : Nat)
    (state : ReserveState) : SparkStatus × ReserveState :=
  let pending := (state.cache.entries index).flags.pending
  let acquired := acquireEntryForSequence config state.cache sequenceId index operationEpoch pending
  if acquired.1 ≠ .ok then (acquired.1, { state with cache := acquired.2 })
  else
    let block := (acquired.2.entries index).logicalBlockIndex
    (.ok,
      { cache := touchEntry config acquired.2 index
        reservation :=
          if table then
            { state.reservation with
              logicalBlockIndices := state.reservation.logicalBlockIndices ++ [block] }
          else state.reservation
        parentHash := key.blockHash
        tokenOffset := state.tokenOffset + key.tokenCount })

/-- The accounting for a block whose entry was already cached. -/
def reserveCached (entry : Entry) (count : Nat) (reservation : Reservation) : Reservation :=
  if entryIsReusable config entry then
    { reservation with
      cachedLogicalBlockCount := reservation.cachedLogicalBlockCount + 1
      reusableTokenCount := reservation.reusableTokenCount + count }
  else if entry.flags.pending then
    { reservation with pendingLogicalBlockCount := reservation.pendingLogicalBlockCount + 1 }
  else reservation

/-- The entry of the sequence's own binding at the loop's offset. -/
def existingEntry (sequenceId : UInt64) (offset : Nat) : Option Nat :=
  match findBindingAtTokenOffset config cache sequenceId offset with
  | none => none
  | some binding =>
    if (cache.bindings binding).entryIndex < config.entryCount then
      some (cache.bindings binding).entryIndex
    else none

/-- A block that is not cached: a victim is chosen and the block is installed in it. -/
def reserveInstall (sequenceId operationEpoch : UInt64) (allowCrossSequenceReuse table : Bool)
    (key : BlockKey) (contentDigest : List UInt8) (state : ReserveState) :
    SparkStatus × ReserveState :=
  match selectVictim config state.cache with
  | none => (.capacityExceeded, state)
  | some victim =>
    let installed := installEntry config state.cache victim
      { flags := { pending := true, liveOnly := !allowCrossSequenceReuse }
        key := key
        contentDigest := contentDigest
        operationEpoch := operationEpoch }
    if installed.1 ≠ .ok then (installed.1, { state with cache := installed.2 })
    else reserveAcquire config sequenceId operationEpoch table key victim
      { state with
        cache := installed.2
        reservation :=
          { state.reservation with
            pendingLogicalBlockCount := state.reservation.pendingLogicalBlockCount + 1 } }

/-- The key of the block the loop is at. -/
def ReserveState.key (tokens : List UInt32) (state : ReserveState) : BlockKey :=
  promptBlockKey tokens state.parentHash state.tokenOffset
    (min config.blockTokenCount (tokens.length - state.tokenOffset))

/-- One iteration of the block loop of `SparkPrefixCacheReservePromptInternal`. -/
def reserveBlock (sequenceId operationEpoch : UInt64) (tokens : List UInt32)
    (allowCrossSequenceReuse table : Bool) (state : ReserveState) : SparkStatus × ReserveState :=
  let key := state.key config tokens
  let contentDigest := digestBlock (blockTokens tokens state.tokenOffset key.tokenCount)
  let reserve (index : Nat) :=
    reserveAcquire config sequenceId operationEpoch table key index
      { state with
        reservation :=
          reserveCached config (state.cache.entries index) key.tokenCount state.reservation }
  match existingEntry config state.cache sequenceId state.tokenOffset with
  | some index =>
    let entry := state.cache.entries index
    if entry.tokenCount ≠ key.tokenCount ∨ entry.parentHash ≠ key.parentHash ∨
        entry.blockHash ≠ key.blockHash ∨ entry.contentHash ≠ key.contentHash then
      (.schemaError, state)
    else reserve index
  | none =>
    match if allowCrossSequenceReuse then findEntry config state.cache key contentDigest true
      else none with
    | some index => reserve index
    | none => reserveInstall config sequenceId operationEpoch allowCrossSequenceReuse table key
        contentDigest state

/-- `SparkPrefixCacheReservePromptInternal`; `capacity` is that of the caller's block table, if it
passes one. -/
def reservePromptInternal (sequenceId : UInt64) (tokens : List UInt32) (capacity : Option Nat)
    (allowCrossSequenceReuse : Bool) : SparkStatus × Reservation × Cache :=
  let untouched : Reservation :=
    { requestedTokenCount := tokens.length, sequenceId := sequenceId, reservationEpoch := 0 }
  let blockCount := ceilDivU32 tokens.length config.blockTokenCount
  if validate config ≠ .ok then (validate config, untouched, cache)
  else if tokens.length = 0 ∨ sequenceId = 0 then (.invalidArgument, untouched, cache)
  else if capacity.any (· < blockCount) then (.capacityExceeded, untouched, cache)
  else
    let cache := nextEpoch cache
    let operationEpoch := cache.operationEpoch
    let loop := forEach
      (fun _ => reserveBlock config sequenceId operationEpoch tokens allowCrossSequenceReuse
        capacity.isSome)
      (List.range blockCount)
      { cache := cache
        reservation := { untouched with reservationEpoch := operationEpoch }
        parentHash := emptyParentHash
        tokenOffset := 0 }
    let result := rollbackUnlessOk config sequenceId operationEpoch (loop.1, loop.2.cache)
    let reservation :=
      if loop.1 = .ok then
        { loop.2.reservation with
          reservedTokenCount := tokens.length
          logicalBlockCount := blockCount
          lastBlockHash := loop.2.parentHash }
      else loop.2.reservation
    (result.1, reservation, result.2)

/-- `SparkPrefixCacheReservePrompt`. -/
def reservePrompt (sequenceId : UInt64) (tokens : List UInt32) (capacity : Option Nat) :
    SparkStatus × Reservation × Cache :=
  reservePromptInternal config cache sequenceId tokens capacity true

/-- `SparkPrefixCacheReserveSequencePrompt`. -/
def reserveSequencePrompt (sequenceId : UInt64) (tokens : List UInt32) (capacity : Option Nat) :
    SparkStatus × Reservation × Cache :=
  reservePromptInternal config cache sequenceId tokens capacity false

end Reserve

section Commit

/-- `binding->flags &= ~PENDING`. -/
def settleBinding (index : Nat) : Cache :=
  modifyBinding cache index fun binding => { binding with pending := false }

/-- `SparkPrefixCacheCommitReservation`. -/
def commitReservation (sequenceId reservationEpoch : UInt64) : SparkStatus × Cache :=
  if validate config ≠ .ok then (validate config, cache)
  else if sequenceId = 0 ∨ reservationEpoch = 0 then (.invalidArgument, cache)
  else if config.bindingHashBucketCount ≠ 0 then
    walkSequence config cache sequenceId fun index cache =>
      let binding := cache.bindings index
      if bindingIsOfEpoch sequenceId reservationEpoch binding then
        if config.entryCount ≤ binding.entryIndex then (.internalError, cache)
        else andThen (commitEntry config cache binding.entryIndex reservationEpoch) fun cache =>
          (.ok, settleBinding cache index)
      else (.ok, cache)
  else
    andThen (forEach (fun index cache => commitEntry config cache index reservationEpoch)
      (List.range config.entryCount) cache) fun cache =>
    forEach (fun index cache =>
        if bindingIsOfEpoch sequenceId reservationEpoch (cache.bindings index) then
          (.ok, settleBinding cache index)
        else (.ok, cache)) (List.range config.sequenceBindingCount) cache

/-- `SparkPrefixCacheCancelReservation`. -/
def cancelReservation (sequenceId reservationEpoch : UInt64) : SparkStatus × Cache :=
  if validate config ≠ .ok then (validate config, cache)
  else if sequenceId = 0 ∨ reservationEpoch = 0 then (.invalidArgument, cache)
  else rollbackEpoch config cache sequenceId reservationEpoch

/-- The first block of the prompt whose binding is shorter than the prompt needs. -/
def findShortBinding (sequenceId : UInt64) (tokenCount : Nat) : Option (Nat × Nat) :=
  (blockOffsets config tokenCount).findSome? fun offset =>
    match findBindingAtTokenOffset config cache sequenceId offset with
    | none => none
    | some binding =>
      if (cache.bindings binding).tokenCount < min config.blockTokenCount (tokenCount - offset) then
        some (offset, binding)
      else none

/-- The reserve, commit and cancel in the middle of `SparkPrefixCacheCommitPrompt`. -/
def reserveAndCommit (sequenceId : UInt64) (tokens : List UInt32) :
    SparkStatus × Reservation × Cache :=
  let (status, reservation, cache) := reservePrompt config cache sequenceId tokens none
  if status ≠ .ok then (status, reservation, cache)
  else
    let committed := commitReservation config cache sequenceId reservation.reservationEpoch
    if committed.1 = .ok then (.ok, reservation, committed.2)
    else (committed.1, reservation,
      (cancelReservation config committed.2 sequenceId reservation.reservationEpoch).2)

/-- One more, or one less, reference to an entry that no binding accounts for. -/
def holdEntry (index : Nat) : Cache :=
  modifyEntry cache index fun entry => { entry with referenceCount := entry.referenceCount + 1 }

@[inherit_doc holdEntry]
def unholdEntry (index : Nat) : Cache :=
  modifyEntry cache index fun entry => { entry with referenceCount := entry.referenceCount - 1 }

/-- The second half of `SparkPrefixCacheCommitPrompt`, while entry `previous` is held in place of
the short binding that was released. -/
def commitPromptHolding (sequenceId : UInt64) (tokens : List UInt32) (previous : Nat)
    (previousEpoch : UInt64) : SparkStatus × Reservation × Cache :=
  let (status, reservation, cache) := reserveAndCommit config cache sequenceId tokens
  let restored :=
    if status ≠ .ok then
      acquireEntryForSequence config cache sequenceId previous previousEpoch false
    else (.ok, cache)
  let status := if restored.1 ≠ .ok then restored.1 else status
  let cache := unholdEntry restored.2 previous
  let released := releaseLogicalBlockReference config cache (cache.entries previous).logicalBlockIndex
  (if released.1 ≠ .ok then released.1 else status, reservation, released.2)

/-- The lookup `SparkPrefixCacheCommitPrompt` reports. -/
def commitPromptLookup (sequenceId : UInt64) (tokens : List UInt32) (status : SparkStatus)
    (lastBlockHash : UInt64) : Lookup :=
  if status = .ok then
    { requestedTokenCount := tokens.length
      matchedTokenCount := tokens.length
      nextTokenIndex := tokens.length
      matchedBlockCount := ceilDivU32 tokens.length config.blockTokenCount
      sequenceId := sequenceId
      lastBlockHash := lastBlockHash }
  else { requestedTokenCount := tokens.length, sequenceId := sequenceId }

/-- The replacement of a short binding at `offset`: its entry is held, the binding released, and
the prompt reserved and committed. -/
def commitPromptReplacing (sequenceId : UInt64) (tokens : List UInt32) (offset short : Nat) :
    SparkStatus × Reservation × Cache :=
  let untouched : Reservation :=
    { requestedTokenCount := tokens.length, sequenceId := sequenceId, reservationEpoch := 0 }
  let binding := cache.bindings short
  let previous := binding.entryIndex
  let entry := cache.entries previous
  if config.entryCount ≤ previous ∨ binding.pending then (.schemaError, untouched, cache)
  else if !entryIsCommitted config entry ∨
      entry.contentDigest ≠ digestBlock (blockTokens tokens offset entry.tokenCount) then
    (.schemaError, untouched, cache)
  else
    let retained := retainLogicalBlock config cache entry.logicalBlockIndex
    if retained.1 ≠ .ok then (retained.1, untouched, retained.2)
    else
      let released := releaseBinding config (holdEntry retained.2 previous) short
      if released.1 ≠ .ok then
        let cache := unholdEntry released.2 previous
        (released.1, untouched,
          (releaseLogicalBlockReference config cache (cache.entries previous).logicalBlockIndex).2)
      else commitPromptHolding config released.2 sequenceId tokens previous binding.acquireEpoch

/-- `SparkPrefixCacheCommitPrompt`. -/
def commitPrompt (sequenceId : UInt64) (tokens : List UInt32) : SparkStatus × Lookup × Cache :=
  if validate config ≠ .ok then
    (validate config, commitPromptLookup config sequenceId tokens .invalidArgument 0, cache)
  else if tokens.length = 0 ∨ sequenceId = 0 then
    (.invalidArgument, commitPromptLookup config sequenceId tokens .invalidArgument 0, cache)
  else
    let (status, reservation, cache) :=
      match findShortBinding config cache sequenceId tokens.length with
      | none => reserveAndCommit config cache sequenceId tokens
      | some (offset, short) => commitPromptReplacing config cache sequenceId tokens offset short
    (status, commitPromptLookup config sequenceId tokens status reservation.lastBlockHash, cache)

end Commit

section Grow

/-- What the block loop of `SparkPrefixCacheEnsureSequenceTokenCapacity` carries. -/
structure EnsureState where
  cache : Cache
  parentHash : UInt64
  /-- The short binding and its entry, once found. -/
  short : Option (Nat × Nat)

/-- A block the sequence already has: it must be committed, and at most one may be short. -/
def ensureBound (required first binding : Nat) (state : EnsureState) : SparkStatus × EnsureState :=
  let bound := state.cache.bindings binding
  let entry := state.cache.entries bound.entryIndex
  if config.entryCount ≤ bound.entryIndex ∨ ¬ bound.logicalBlockIndex.any (· < config.logicalBlockCount) ∨
      bound.tokenCount = 0 ∨ config.blockTokenCount < bound.tokenCount then
    (.invalidArgument, state)
  else if !entry.flags.valid ∨ entry.flags.pending ∨ entry.firstTokenIndex ≠ first ∨
      entry.logicalBlockIndex ≠ bound.logicalBlockIndex ∨ entry.tokenCount ≠ bound.tokenCount then
    (.busy, state)
  else if bound.tokenCount < required then
    if !entry.flags.liveOnly ∨ entry.referenceCount ≠ 1 ∨ state.short ≠ none then
      (.moduleNotValidated, state)
    else (.ok, { state with
      parentHash := bound.blockHash
      short := some (binding, bound.entryIndex) })
  else (.ok, { state with parentHash := bound.blockHash })

/-- A block the sequence lacks: a live-only entry is installed and acquired. -/
def ensureInstall (sequenceId operationEpoch : UInt64) (first : Nat) (state : EnsureState) :
    SparkStatus × EnsureState :=
  match selectVictim config state.cache with
  | none => (.capacityExceeded, state)
  | some victim =>
    let blockHash := mixU64 (mixU64 state.parentHash sequenceId) (UInt64.ofNat first)
    let installed := installEntry config state.cache victim
      { flags := { pending := true, liveOnly := true }
        key :=
          { parentHash := state.parentHash
            blockHash := blockHash
            contentHash := mixU64 blockHash operationEpoch
            firstTokenIndex := first
            tokenCount := config.blockTokenCount }
        contentDigest := List.replicate 32 0
        operationEpoch := operationEpoch }
    if installed.1 ≠ .ok then (installed.1, { state with cache := installed.2 })
    else
      let acquired :=
        acquireEntryForSequence config installed.2 sequenceId victim operationEpoch true
      (acquired.1, { state with cache := acquired.2, parentHash := blockHash })

/-- One iteration of the block loop of `SparkPrefixCacheEnsureSequenceTokenCapacity`. -/
def ensureBlock (sequenceId operationEpoch : UInt64) (tokenCount blockIndex : Nat)
    (state : EnsureState) : SparkStatus × EnsureState :=
  let first := blockIndex * config.blockTokenCount
  let required := min config.blockTokenCount (tokenCount - first)
  match findBindingAtTokenOffset config state.cache sequenceId first with
  | some binding => ensureBound config required first binding state
  | none => ensureInstall config sequenceId operationEpoch first state

/-- The rewrite of the short binding and its entry to a whole block. The entry keeps its place
in the bucket chain it was linked into under its old token count. -/
def extendTail (binding index : Nat) : Cache :=
  modifyEntry
    (modifyBinding cache binding fun bound => { bound with tokenCount := config.blockTokenCount })
    index fun entry =>
      { entry with
        tokenCount := config.blockTokenCount
        flags := { entry.flags with reusable := false, liveOnly := true } }

/-- `SparkPrefixCacheEnsureSequenceTokenCapacity`. -/
def ensureSequenceTokenCapacity (sequenceId : UInt64) (tokenCount : Nat) : SparkStatus × Cache :=
  if validate config ≠ .ok then (validate config, cache)
  else if sequenceId = 0 ∨ tokenCount = 0 then (.invalidArgument, cache)
  else
    let cache := nextEpoch cache
    let operationEpoch := cache.operationEpoch
    let loop := forEach (ensureBlock config sequenceId operationEpoch tokenCount)
      (List.range (ceilDivU32 tokenCount config.blockTokenCount))
      { cache := cache, parentHash := emptyParentHash, short := none }
    let result := rollbackUnlessOk config sequenceId operationEpoch
      (andThen (loop.1, loop.2.cache) fun cache =>
        commitReservation config cache sequenceId operationEpoch)
    match result.1, loop.2.short with
    | .ok, some (binding, index) => (.ok, extendTail config result.2 binding index)
    | _, _ => result

end Grow

section Share

/-- The loop of `SparkPrefixCacheBindCommittedPrefixFromSequence`. A binding is at least one token
long, so `tokenCount` passes suffice. -/
def bindPrefix (sourceSequenceId targetSequenceId operationEpoch : UInt64) (tokenCount : Nat) :
    Nat → Nat → Cache → SparkStatus × Cache
  | 0, _, cache => (.ok, cache)
  | fuel + 1, offset, cache =>
    if tokenCount ≤ offset then (.ok, cache)
    else match findBindingAtTokenOffset config cache sourceSequenceId offset with
      | none => (.notFound, cache)
      | some source =>
        let sourceBinding := cache.bindings source
        let entry := cache.entries sourceBinding.entryIndex
        if config.entryCount ≤ sourceBinding.entryIndex ∨ sourceBinding.tokenCount = 0 ∨
            tokenCount < offset + sourceBinding.tokenCount then (.notFound, cache)
        else if !entry.flags.valid ∨ entry.flags.pending then (.busy, cache)
        else if (findBindingAtTokenOffset config cache targetSequenceId offset).any
            fun target => (cache.bindings target).entryIndex ≠ sourceBinding.entryIndex then
          (.duplicate, cache)
        else andThen (acquireEntryForSequence config cache targetSequenceId
            sourceBinding.entryIndex operationEpoch false)
          (bindPrefix sourceSequenceId targetSequenceId operationEpoch tokenCount fuel
            (offset + sourceBinding.tokenCount))

/-- `SparkPrefixCacheBindCommittedPrefixFromSequence`. -/
def bindCommittedPrefixFromSequence (sourceSequenceId targetSequenceId : UInt64)
    (tokenCount : Nat) : SparkStatus × Cache :=
  if validate config ≠ .ok then (validate config, cache)
  else if sourceSequenceId = 0 ∨ targetSequenceId = 0 ∨ sourceSequenceId = targetSequenceId ∨
      tokenCount = 0 then (.invalidArgument, cache)
  else
    let cache := nextEpoch cache
    let operationEpoch := cache.operationEpoch
    rollbackUnlessOk config targetSequenceId operationEpoch
      (bindPrefix config sourceSequenceId targetSequenceId operationEpoch tokenCount tokenCount 0
        cache)

end Share

section Release

/-- A valid entry that cannot be reused and that nothing references. -/
def entryIsUnwanted (entry : Entry) : Bool :=
  entry.flags.valid && !entry.flags.reusable && entry.referenceCount == 0

/-- A valid binding of the sequence. -/
def bindingIsOfSequence (sequenceId : UInt64) (binding : Binding) : Bool :=
  binding.valid && binding.sequenceId == sequenceId

/-- `SparkPrefixCacheReleaseSequence`. -/
def releaseSequence (sequenceId : UInt64) : SparkStatus × Cache :=
  if validate config ≠ .ok then (validate config, cache)
  else if sequenceId = 0 then (.invalidArgument, cache)
  else if config.bindingHashBucketCount ≠ 0 then
    walkSequence config cache sequenceId fun index cache =>
      let binding := cache.bindings index
      if bindingIsOfSequence sequenceId binding then
        andThen (releaseBinding config cache index) fun cache =>
          if entryIsUnwanted (cache.entries binding.entryIndex) then
            invalidateEntry config cache binding.entryIndex
          else (.ok, cache)
      else (.ok, cache)
  else
    andThen (forEach (fun index cache =>
        if bindingIsOfSequence sequenceId (cache.bindings index) then
          releaseBinding config cache index
        else (.ok, cache)) (List.range config.sequenceBindingCount) cache) fun cache =>
    forEach (fun index cache =>
        if entryIsUnwanted (cache.entries index) then invalidateEntry config cache index
        else (.ok, cache)) (List.range config.entryCount) cache

end Release

end Sparkpipe.PrefixCache
