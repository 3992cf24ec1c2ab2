import Mathlib.Data.List.Sort
import Sparkpipe.Cache.Prefix.Maintenance

/-!
# What the prefix cache tells its user

The calls of the prefix cache that change nothing: the block table of a sequence,
the last resume point of a prompt, and the committed records for the index file.
-/

namespace Sparkpipe.PrefixCache

variable (config : Configuration) (cache : Cache)

/-- The block loop of `SparkPrefixCacheBuildLogicalBlockTable`. -/
def tableBlocks (sequenceId : UInt64) (tokenCount : Nat) : List Nat → Option (List (Option Nat))
  | [] => some []
  | offset :: rest =>
    match findBindingAtTokenOffset config cache sequenceId offset with
    | none => none
    | some index =>
      if (cache.bindings index).tokenCount < min config.blockTokenCount (tokenCount - offset) then none
      else (tableBlocks sequenceId tokenCount rest).map ((cache.bindings index).logicalBlockIndex :: ·)

/-- Where the blocks of that loop begin. -/
def tableOffsets (tokenCount : Nat) : List Nat :=
  (List.range (ceilDivU32 tokenCount config.blockTokenCount)).map (· * config.blockTokenCount)

/-- `SparkPrefixCacheBuildLogicalBlockTable`. -/
def buildLogicalBlockTable (sequenceId : UInt64) (tokenCount capacity : Nat) :
    SparkStatus × List (Option Nat) :=
  if validate config ≠ .ok then (validate config, [])
  else if sequenceId = 0 ∨ tokenCount = 0 then (.invalidArgument, [])
  else if capacity < ceilDivU32 tokenCount config.blockTokenCount then (.capacityExceeded, [])
  else
    match tableBlocks config cache sequenceId tokenCount (tableOffsets config tokenCount) with
    | none => (.notFound, [])
    | some blocks => (.ok, blocks)

/-- `SparkPrefixCacheResumeInBlock`: the longest resumable block at `offset`, as its end. -/
def resumeInBlock (tokens : List UInt32) (offset : Nat) (parentHash : UInt64) : Nat → Nat
  | 0 => 0
  | count + 1 =>
    match findPromptBlock config cache tokens offset (count + 1) parentHash with
    | some index =>
      if (cache.entries index).flags.resume then offset + (count + 1)
      else resumeInBlock tokens offset parentHash count
    | none => resumeInBlock tokens offset parentHash count

/-- What the loop of `SparkPrefixCacheResumeTokenCount` carries. -/
structure ResumeWalk where
  resume : Nat := 0
  parentHash : UInt64 := emptyParentHash
  lastParent : UInt64 := 0
  lastOffset : Nat := 0
  lastTokens : Nat := 0

/-- The block loop of `SparkPrefixCacheResumeTokenCount`. -/
def resumeBlocks (tokens : List UInt32) (matched : Nat) : List Nat → ResumeWalk → ResumeWalk
  | [], walk => walk
  | offset :: rest, walk =>
    let count := min config.blockTokenCount (matched - offset)
    match findPromptBlock config cache tokens offset count walk.parentHash with
    | none => walk
    | some index =>
      let flags := (cache.entries index).flags
      let blockHash := hashBlock (blockTokens tokens offset count) walk.parentHash
      let resume := if flags.resume then offset + count else walk.resume
      let child := offset + count
      let resume :=
        if flags.resumeChild ∧ child < matched then
          max (resumeInBlock config cache tokens child blockHash
            (min (config.blockTokenCount - 1) (matched - child))) resume
        else resume
      resumeBlocks tokens matched rest
        { resume := resume
          parentHash := blockHash
          lastParent := walk.parentHash
          lastOffset := offset
          lastTokens := count }

/-- `SparkPrefixCacheResumeTokenCount`, for a match of at most 2^32 - `block_token_count` tokens: the offset of its loop
has 32 bits and wraps beyond. -/
def resumeTokenCount (tokens : List UInt32) (matched : Nat) : Nat :=
  if validate config ≠ .ok then 0
  else
    let walk := resumeBlocks config cache tokens matched (blockOffsets config matched) {}
    if walk.resume < walk.lastOffset + walk.lastTokens ∧ 1 < walk.lastTokens then
      max (resumeInBlock config cache tokens walk.lastOffset walk.lastParent (walk.lastTokens - 1))
        walk.resume
    else walk.resume

end Sparkpipe.PrefixCache
