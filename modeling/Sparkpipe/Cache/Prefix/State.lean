import Sparkpipe.Cache.Arena.Model
import Sparkpipe.Sha256

/-!
# The prefix cache: configuration, records and hashes

The data model of `prefix_cache.c`. An entry describes one block of a prompt and
owns one logical block; a binding ties a sequence to an entry. Both live in
fixed arrays and are threaded through bucket chains and free lists by index;
`0xffffffff` as a link is `none` here. Prompts are lists of tokens, so a
`token_ids` pointer and its `token_count` are one argument.

Counters that are only reported are left out. One counter stays: every
`SPARK_FAIL` site counts how often it was taken, and `unlinkEntryErrorCount` is
that count for the `INTERNAL_ERROR` exits of `SparkPrefixCacheUnlinkEntry`.
-/

namespace Sparkpipe.PrefixCache

open Sparkpipe.KvCache (Layout Arena)

/-- `SPARK_PREFIX_CACHE_MAX_BLOCK_TOKENS`. -/
def maxBlockTokens : Nat := 256

/-- `SPARK_PREFIX_CACHE_EMPTY_PARENT_HASH`. -/
def emptyParentHash : UInt64 := 1469598103934665603

/-- `SPARK_PREFIX_CACHE_NO_ENTRY` as the entry of a binding that has none. -/
def noEntry : Nat := 0xffffffff

/-- `SPARK_KV_RETENTION_SECONDS`. -/
def retentionSeconds : Nat := 86400

/-- `SPARK_PREFIX_CACHE_RESUME_RECENT_MAXIMUM`. -/
def resumeRecentMaximum : Nat := 16

/-- The flag word of an entry. -/
structure EntryFlags where
  valid : Bool := false
  reusable : Bool := false
  pending : Bool := false
  liveOnly : Bool := false
  stale : Bool := false
  resume : Bool := false
  resumeChild : Bool := false
  deriving DecidableEq

/-- What identifies a cached block: its chain of hashes and its place in the prompt. -/
structure BlockKey where
  parentHash : UInt64
  blockHash : UInt64
  contentHash : UInt64
  firstTokenIndex : Nat
  tokenCount : Nat
  deriving DecidableEq

/-- `SparkPrefixCacheEntry`; the defaults are those of `SparkPrefixCacheInitializeEntry`. -/
structure Entry where
  flags : EntryFlags := {}
  tokenCount : Nat := 0
  firstTokenIndex : Nat := 0
  logicalBlockIndex : Option Nat := none
  referenceCount : Nat := 0
  /-- The next free entry while this one is free. -/
  reserved : Option Nat := some 0
  lookaheadPriority : Nat := 0
  lookaheadRequestCount : Nat := 0
  parentHash : UInt64 := 0
  blockHash : UInt64 := 0
  contentHash : UInt64 := 0
  lastUsedTick : Nat := 0
  reservationEpoch : UInt64 := 0
  committedEpoch : UInt64 := 0
  lookaheadProtectionEpoch : UInt64 := 0
  hashNext : Option Nat := none
  usedSeconds : Nat := 0
  contentDigest : List UInt8 := []

/-- The key an entry is filed under. -/
def Entry.key (entry : Entry) : BlockKey where
  parentHash := entry.parentHash
  blockHash := entry.blockHash
  contentHash := entry.contentHash
  firstTokenIndex := entry.firstTokenIndex
  tokenCount := entry.tokenCount

/-- `SparkPrefixCacheSequenceBinding`; the defaults are those of
`SparkPrefixCacheInitializeBinding`. -/
structure Binding where
  valid : Bool := false
  pending : Bool := false
  entryIndex : Nat := noEntry
  firstTokenIndex : Nat := 0
  tokenCount : Nat := 0
  logicalBlockIndex : Option Nat := none
  /-- The next free binding while this one is free. -/
  reserved : Option Nat := some 0
  sequenceId : UInt64 := 0
  parentHash : UInt64 := 0
  blockHash : UInt64 := 0
  acquireEpoch : UInt64 := 0
  lookupHashNext : Option Nat := none
  sequenceHashNext : Option Nat := none

/-- `SparkPrefixCacheConfiguration`. The arrays it points to are part of the cache; a bucket
count of zero is a cache without that index. -/
structure Configuration where
  blockTokenCount : Nat
  entryCount : Nat
  logicalBlockCount : Nat
  sequenceBindingCount : Nat
  kvCacheArena : Option Layout
  entryHashBucketCount : Nat
  bindingHashBucketCount : Nat
  /-- The readings of `CLOCK_REALTIME`, in the order they are taken. -/
  clock : Nat → Nat

/-- The mutable part of `SparkPrefixCache`, together with the arena it is attached to. -/
structure Cache where
  entries : Nat → Entry
  bindings : Nat → Binding
  arena : Arena
  entryHashBucketHeads : Nat → Option Nat
  bindingLookupHashBucketHeads : Nat → Option Nat
  bindingSequenceHashBucketHeads : Nat → Option Nat
  freeEntryHead : Option Nat
  freeBindingHead : Option Nat
  tick : Nat
  operationEpoch : UInt64
  lookaheadProtectionEpoch : UInt64
  clockReadings : Nat
  unlinkEntryErrorCount : Nat

/-- `SparkPrefixCacheLookup`. -/
structure Lookup where
  requestedTokenCount : Nat
  matchedTokenCount : Nat := 0
  matchedBlockCount : Nat := 0
  nextTokenIndex : Nat := 0
  logicalBlockIndex : Option Nat := none
  sequenceId : UInt64
  lastBlockHash : UInt64 := emptyParentHash

/-- `SparkPrefixCacheReservation`; `logicalBlockIndices` holds what was written to the caller's
table. -/
structure Reservation where
  requestedTokenCount : Nat
  reservedTokenCount : Nat := 0
  reusableTokenCount : Nat := 0
  logicalBlockCount : Nat := 0
  cachedLogicalBlockCount : Nat := 0
  pendingLogicalBlockCount : Nat := 0
  logicalBlockIndices : List (Option Nat) := []
  sequenceId : UInt64
  reservationEpoch : UInt64
  lastBlockHash : UInt64 := emptyParentHash

section Hashes

/-- `SparkPrefixCacheMixU64`. -/
def mixU64 (hashValue value : UInt64) : UInt64 :=
  let mixed := (hashValue ^^^ value) * 1099511628211
  mixed ^^^ (mixed >>> 32)

/-- `SparkPrefixCacheBucketIndex`. -/
def bucketIndex (hashValue : UInt64) (bucketCount : Nat) : Nat :=
  let folded := (hashValue ^^^ (hashValue >>> 33)) * 0xff51afd7ed558ccd
  (folded ^^^ (folded >>> 33)).toNat % bucketCount

/-- `SparkPrefixCacheEntryBucket`. -/
def entryBucket (config : Configuration) (key : BlockKey) : Nat :=
  let chained := mixU64 (mixU64 key.parentHash key.blockHash) key.contentHash
  let placed := (UInt64.ofNat key.firstTokenIndex <<< 32) ||| UInt64.ofNat key.tokenCount
  bucketIndex (mixU64 chained placed) config.entryHashBucketCount

/-- `SparkPrefixCacheBindingLookupBucket`. -/
def bindingLookupBucket (config : Configuration) (sequenceId : UInt64) (firstTokenIndex : Nat) :
    Nat :=
  bucketIndex (mixU64 sequenceId (UInt64.ofNat firstTokenIndex)) config.bindingHashBucketCount

/-- `SparkPrefixCacheBindingSequenceBucket`. -/
def bindingSequenceBucket (config : Configuration) (sequenceId : UInt64) : Nat :=
  bucketIndex sequenceId config.bindingHashBucketCount

/-- `SparkPrefixCacheHashBlockContent`. -/
def hashBlockContent (tokens : List UInt32) : UInt64 :=
  let hashValue := tokens.zipIdx.foldl (fun hashValue (token, index) =>
    mixU64 hashValue ((token.toUInt64 <<< 1) ^^^ UInt64.ofNat ((index + 0x9e3779b9) % 2 ^ 32)))
    7809847782465536322
  mixU64 hashValue (UInt64.ofNat tokens.length)

/-- `SparkPrefixCacheHashBlock`. -/
def hashBlock (tokens : List UInt32) (parentHash : UInt64) : UInt64 :=
  let hashValue := tokens.zipIdx.foldl (fun hashValue (token, index) =>
    mixU64 hashValue (token.toUInt64 + (UInt64.ofNat index <<< 32)))
    (parentHash ^^^ 1099511628211)
  mixU64 hashValue (UInt64.ofNat tokens.length)

/-- The bytes of a token in memory, least significant first. -/
def tokenBytes (token : UInt32) : List UInt8 :=
  [token.toUInt8, (token >>> 8).toUInt8, (token >>> 16).toUInt8, (token >>> 24).toUInt8]

/-- `SparkPrefixCacheDigestBlock`. -/
def digestBlock (tokens : List UInt32) : List UInt8 :=
  Sha256.digest (tokens.flatMap tokenBytes)

/-- The `count` tokens of a prompt from `offset` on. -/
def blockTokens (tokens : List UInt32) (offset count : Nat) : List UInt32 :=
  (tokens.drop offset).take count

/-- The key under which the block of `count` tokens at `offset` is cached after `parentHash`. -/
def promptBlockKey (tokens : List UInt32) (parentHash : UInt64) (offset count : Nat) : BlockKey where
  parentHash := parentHash
  blockHash := hashBlock (blockTokens tokens offset count) parentHash
  contentHash := hashBlockContent (blockTokens tokens offset count)
  firstTokenIndex := offset
  tokenCount := count

theorem bucketIndex_lt {bucketCount : Nat} (hashValue : UInt64) (indexed : bucketCount ≠ 0) :
    bucketIndex hashValue bucketCount < bucketCount :=
  Nat.mod_lt _ (Nat.pos_of_ne_zero indexed)

end Hashes

section Initialize

/-- `SparkPrefixCacheValidate`. Every field it reads is fixed by the configuration. -/
def validate (config : Configuration) : SparkStatus :=
  if config.blockTokenCount = 0 ∨ maxBlockTokens < config.blockTokenCount ∨ config.entryCount = 0 ∨
      config.logicalBlockCount = 0 ∨ config.sequenceBindingCount = 0 then .invalidArgument
  else .ok

theorem validate_block {config : Configuration} (accepted : validate config = .ok) :
    config.blockTokenCount ≠ 0 := by
  intro zero
  unfold validate at accepted
  rw [if_pos (Or.inl zero)] at accepted
  cases accepted

/-- The checks of `SparkPrefixCacheInitialize` on its configuration. -/
def configurationStatus (config : Configuration) : SparkStatus :=
  if validate config ≠ .ok then .invalidArgument
  else match config.kvCacheArena with
    | none => if config.logicalBlockCount < config.entryCount then .invalidArgument else .ok
    | some layout =>
      if layout.logicalBlockCount < config.logicalBlockCount ∨
          layout.blockTokenCount ≠ config.blockTokenCount then .invalidArgument
      else .ok

/-- The link of record `index` on an initial free list of `count` records. -/
def initialLink (count index : Nat) : Option Nat :=
  if index + 1 < count then some (index + 1) else none

/-- The cache `SparkPrefixCacheInitialize` leaves, attached to `arena`. -/
def initialCache (config : Configuration) (arena : Arena) : Cache where
  entries := fun index => { reserved := initialLink config.entryCount index }
  bindings := fun index => { reserved := initialLink config.sequenceBindingCount index }
  arena := arena
  entryHashBucketHeads := fun _ => none
  bindingLookupHashBucketHeads := fun _ => none
  bindingSequenceHashBucketHeads := fun _ => none
  freeEntryHead := some 0
  freeBindingHead := some 0
  tick := 0
  operationEpoch := 0
  lookaheadProtectionEpoch := 0
  clockReadings := 0
  unlinkEntryErrorCount := 0

end Initialize

section Records

variable (config : Configuration) (cache : Cache)

/-- `SparkPrefixCacheEntryIsReusable`. -/
def entryIsReusable (entry : Entry) : Bool :=
  entry.flags.valid && entry.flags.reusable && !entry.flags.pending && entry.tokenCount != 0 &&
    decide (entry.tokenCount ≤ config.blockTokenCount)

/-- `SparkPrefixCacheEntryIsCommitted`. -/
def entryIsCommitted (entry : Entry) : Bool :=
  entryIsReusable config entry ||
    (entry.flags.valid && entry.flags.stale && !entry.flags.pending)

/-- `SparkPrefixCacheEntryIsEvictable`. -/
def entryIsEvictable (entry : Entry) : Bool :=
  entry.flags.valid && !entry.flags.pending && entry.referenceCount == 0

/-- `SparkPrefixCacheEntryHasCurrentLookaheadProtection`. -/
def entryHasCurrentLookaheadProtection (entry : Entry) : Bool :=
  cache.lookaheadProtectionEpoch != 0 &&
    entry.lookaheadProtectionEpoch == cache.lookaheadProtectionEpoch

/-- Rewrite entry `index`. -/
def modifyEntry (index : Nat) (change : Entry → Entry) : Cache :=
  { cache with entries := Function.update cache.entries index (change (cache.entries index)) }

/-- Rewrite binding `index`. -/
def modifyBinding (index : Nat) (change : Binding → Binding) : Cache :=
  { cache with bindings := Function.update cache.bindings index (change (cache.bindings index)) }

/-- Note a use of entry `index`: a new tick, and one more reading of the clock. -/
def touchEntry (index : Nat) : Cache :=
  { cache with
    tick := cache.tick + 1
    clockReadings := cache.clockReadings + 1
    entries := Function.update cache.entries index
      { cache.entries index with
        lastUsedTick := cache.tick + 1
        usedSeconds := config.clock cache.clockReadings } }

end Records

end Sparkpipe.PrefixCache
