import Sparkpipe.Cache.Prefix.State
import Sparkpipe.Lib.Chain

/-!
# The prefix cache's indexes

Finding, linking and unlinking entries and bindings. With bucket heads the
lookups walk one chain, bounded by the size of the array; without them they scan
the whole array.
-/

namespace Sparkpipe.PrefixCache

open Function Sparkpipe.Chain

variable (config : Configuration) (cache : Cache)

/-- The test `SparkPrefixCacheFindEntry` makes on each entry it visits. -/
def entryMatches (key : BlockKey) (contentDigest : List UInt8) (reusableOnly : Bool) (index : Nat) :
    Bool :=
  let entry := cache.entries index
  entry.flags.valid && decide (entry.key = key) &&
    (entry.flags.liveOnly || entry.contentDigest == contentDigest) &&
    (!reusableOnly || entryIsReusable config entry)

/-- `SparkPrefixCacheFindEntry`. -/
def findEntry (key : BlockKey) (contentDigest : List UInt8) (reusableOnly : Bool) : Option Nat :=
  if config.entryHashBucketCount ≠ 0 then
    search config.entryCount (fun index => (cache.entries index).hashNext)
      (entryMatches config cache key contentDigest reusableOnly) config.entryCount
      (cache.entryHashBucketHeads (entryBucket config key))
  else (List.range config.entryCount).find? (entryMatches config cache key contentDigest reusableOnly)

/-- The test `SparkPrefixCacheFindBindingAtTokenOffset` makes on each binding it visits. -/
def bindingMatches (sequenceId : UInt64) (firstTokenIndex index : Nat) : Bool :=
  let binding := cache.bindings index
  binding.valid && binding.sequenceId == sequenceId && binding.firstTokenIndex == firstTokenIndex

/-- `SparkPrefixCacheFindBindingAtTokenOffset`. -/
def findBindingAtTokenOffset (sequenceId : UInt64) (firstTokenIndex : Nat) : Option Nat :=
  if config.bindingHashBucketCount ≠ 0 then
    search config.sequenceBindingCount (fun index => (cache.bindings index).lookupHashNext)
      (bindingMatches cache sequenceId firstTokenIndex) config.sequenceBindingCount
      (cache.bindingLookupHashBucketHeads (bindingLookupBucket config sequenceId firstTokenIndex))
  else (List.range config.sequenceBindingCount).find? (bindingMatches cache sequenceId firstTokenIndex)

/-- `SparkPrefixCacheLinkEntry`. -/
def linkEntry (index : Nat) : Cache :=
  if config.entryHashBucketCount = 0 then cache
  else
    let bucket := entryBucket config (cache.entries index).key
    { cache with
      entries := update cache.entries index
        { cache.entries index with hashNext := cache.entryHashBucketHeads bucket }
      entryHashBucketHeads := update cache.entryHashBucketHeads bucket (some index) }

/-- Redirect the entry before a removed one, if there is one. -/
def spliceEntries (previous after : Option Nat) : Nat → Entry :=
  match previous with
  | none => cache.entries
  | some p => update cache.entries p { cache.entries p with hashNext := after }

/-- `SparkPrefixCacheUnlinkEntry`. -/
def unlinkEntry (index : Nat) : SparkStatus × Cache :=
  if config.entryHashBucketCount = 0 then (.ok, cache)
  else if config.entryCount ≤ index then (.invalidArgument, cache)
  else
    let bucket := entryBucket config (cache.entries index).key
    let after := (cache.entries index).hashNext
    match locate config.entryCount (fun i => (cache.entries i).hashNext) index config.entryCount none
        (cache.entryHashBucketHeads bucket) with
    | none => (.internalError, { cache with unlinkEntryErrorCount := cache.unlinkEntryErrorCount + 1 })
    | some previous =>
      let spliced := spliceEntries cache previous after
      (.ok, { cache with
        entries := update spliced index { spliced index with hashNext := none }
        entryHashBucketHeads := update cache.entryHashBucketHeads bucket
          (spliceHead previous (cache.entryHashBucketHeads bucket) after) })

/-- `SparkPrefixCacheLinkBinding`. -/
def linkBinding (index : Nat) : Cache :=
  if config.bindingHashBucketCount = 0 then cache
  else
    let binding := cache.bindings index
    let lookupBucket := bindingLookupBucket config binding.sequenceId binding.firstTokenIndex
    let sequenceBucket := bindingSequenceBucket config binding.sequenceId
    { cache with
      bindings := update cache.bindings index
        { binding with
          lookupHashNext := cache.bindingLookupHashBucketHeads lookupBucket
          sequenceHashNext := cache.bindingSequenceHashBucketHeads sequenceBucket }
      bindingLookupHashBucketHeads :=
        update cache.bindingLookupHashBucketHeads lookupBucket (some index)
      bindingSequenceHashBucketHeads :=
        update cache.bindingSequenceHashBucketHeads sequenceBucket (some index) }

/-- Redirect the binding before a removed one in its lookup chain, if there is one. -/
def spliceLookupChain (previous after : Option Nat) : Nat → Binding :=
  match previous with
  | none => cache.bindings
  | some p => update cache.bindings p { cache.bindings p with lookupHashNext := after }

/-- Redirect the binding before a removed one in its sequence chain, if there is one. -/
def spliceSequenceChain (previous after : Option Nat) : Nat → Binding :=
  match previous with
  | none => cache.bindings
  | some p => update cache.bindings p { cache.bindings p with sequenceHashNext := after }

/-- `SparkPrefixCacheUnlinkBindingChain` on the lookup chain of `bucket`. -/
def unlinkBindingLookupChain (bucket index : Nat) : SparkStatus × Cache :=
  let after := (cache.bindings index).lookupHashNext
  match locate config.sequenceBindingCount (fun i => (cache.bindings i).lookupHashNext) index
      config.sequenceBindingCount none (cache.bindingLookupHashBucketHeads bucket) with
  | none => (.internalError, cache)
  | some previous =>
    (.ok, { cache with
      bindings := spliceLookupChain cache previous after
      bindingLookupHashBucketHeads := update cache.bindingLookupHashBucketHeads bucket
        (spliceHead previous (cache.bindingLookupHashBucketHeads bucket) after) })

/-- `SparkPrefixCacheUnlinkBindingChain` on the sequence chain of `bucket`. -/
def unlinkBindingSequenceChain (bucket index : Nat) : SparkStatus × Cache :=
  let after := (cache.bindings index).sequenceHashNext
  match locate config.sequenceBindingCount (fun i => (cache.bindings i).sequenceHashNext) index
      config.sequenceBindingCount none (cache.bindingSequenceHashBucketHeads bucket) with
  | none => (.internalError, cache)
  | some previous =>
    (.ok, { cache with
      bindings := spliceSequenceChain cache previous after
      bindingSequenceHashBucketHeads := update cache.bindingSequenceHashBucketHeads bucket
        (spliceHead previous (cache.bindingSequenceHashBucketHeads bucket) after) })

/-- `SparkPrefixCacheUnlinkBinding`. -/
def unlinkBinding (index : Nat) : SparkStatus × Cache :=
  if config.bindingHashBucketCount = 0 then (.ok, cache)
  else if config.sequenceBindingCount ≤ index then (.invalidArgument, cache)
  else
    let binding := cache.bindings index
    andThen (unlinkBindingLookupChain config cache
      (bindingLookupBucket config binding.sequenceId binding.firstTokenIndex) index) fun cache =>
    unlinkBindingSequenceChain config cache
      (bindingSequenceBucket config binding.sequenceId) index

/-- `SparkPrefixCacheFindFreeBinding`. -/
def findFreeBinding : Option Nat :=
  match cache.freeBindingHead with
  | none => none
  | some index =>
    if config.sequenceBindingCount ≤ index ∨ (cache.bindings index).valid then none else some index

/-- `SparkPrefixCacheUnprotectedVictimIsBetter`. -/
def unprotectedVictimIsBetter (candidate : Entry) (current : Option Entry) : Bool :=
  match current with
  | none => true
  | some current => candidate.lastUsedTick < current.lastUsedTick

/-- `SparkPrefixCacheProtectedVictimIsBetter`. -/
def protectedVictimIsBetter (candidate : Entry) (current : Option Entry) : Bool :=
  match current with
  | none => true
  | some current =>
    if candidate.lookaheadPriority ≠ current.lookaheadPriority then
      candidate.lookaheadPriority < current.lookaheadPriority
    else candidate.lastUsedTick < current.lastUsedTick

/-- The scan of `SparkPrefixCacheSelectVictim` with the best victims found so far. -/
def scanVictims : List Nat → Option Nat → Option Nat → Option Nat
  | [], unprotectedVictim, protectedVictim => unprotectedVictim.or protectedVictim
  | index :: rest, unprotectedVictim, protectedVictim =>
    let entry := cache.entries index
    if !entry.flags.valid then some index
    else if !entryIsEvictable entry then scanVictims rest unprotectedVictim protectedVictim
    else if entryHasCurrentLookaheadProtection cache entry then
      if protectedVictimIsBetter entry (protectedVictim.map cache.entries) then
        scanVictims rest unprotectedVictim (some index)
      else scanVictims rest unprotectedVictim protectedVictim
    else if unprotectedVictimIsBetter entry (unprotectedVictim.map cache.entries) then
      scanVictims rest (some index) protectedVictim
    else scanVictims rest unprotectedVictim protectedVictim

/-- `SparkPrefixCacheSelectVictim`: a free entry if there is one, else the least recently used
evictable entry, unprotected ones first. -/
def selectVictim : Option Nat :=
  match cache.freeEntryHead with
  | some index =>
    if config.entryCount ≤ index ∨ (cache.entries index).flags.valid then none else some index
  | none => scanVictims cache (List.range config.entryCount) none none

end Sparkpipe.PrefixCache
