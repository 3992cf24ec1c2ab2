import Sparkpipe.Status

/-!
# The batch engine: what it exchanges with the pipeline

The messages between `model_batch_engine.c` and the pipeline client. A submission is
handed to the pipeline; its result and its completion come back through two callbacks.
-/

namespace Sparkpipe.BatchEngine

/-- `SPARK_MODEL_SERVING_WORK_KIND_*`. -/
inductive WorkKind where
  | prefill
  | decode
  | release
  | cachePublish
  deriving DecidableEq

/-- A status as it comes over the wire: a status of the enumeration, or another 32-bit number. -/
inductive WireStatus where
  | known (status : SparkStatus)
  | unknown (code : Nat)
  deriving DecidableEq

/-- `SparkModelServingCacheIdentity`: a SHA-256 digest. -/
abbrev CacheIdentity := List UInt8

/-- `SparkModelServingLane`, as far as the engine fills it. -/
structure Lane where
  requestId : UInt64
  requestGeneration : Nat
  stepGeneration : Nat
  sequenceId : UInt64
  sequencePosition : Nat
  residentSequenceSlot : Option Nat
  contextTokenCount : Nat
  stateTargetTokenCount : Nat
  inputTokenId : UInt32 := 0
  outputToken : Bool := false
  cachePrefix : Bool := false
  cachePrefixTokenCount : Nat := 0
  cachePrefixIdentity : CacheIdentity := []
  cachePublish : Bool := false
  cacheStateless : Bool := false
  cacheStaged : Bool := false
  cachePublishTokenCount : Nat := 0
  cachePublishIdentity : CacheIdentity := []
  cacheBlockIdentities : List CacheIdentity := []
  deriving DecidableEq

/-- One row of a submission: its token, its lane and its position. -/
structure Row where
  tokenId : UInt32
  laneIndex : Nat
  position : Nat
  sequenceId : UInt64
  deriving DecidableEq

/-- `SparkModelServingSubmission`, as far as the engine fills it; its other identifiers are all
made from `submissionId`. -/
structure Message where
  workKind : WorkKind
  submissionId : Nat
  controlGeneration : Nat
  lanes : List Lane := []
  rows : List Row := []
  tokensPerSequence : Nat := 0
  verify : Bool := false
  defer : Bool := false
  priority : Nat := 0
  deadlineTimeNs : Nat := 0
  deriving DecidableEq

/-- `SparkModelServingCompletion`. -/
structure Completion where
  status : WireStatus
  submissionId : Nat
  hasTokenIds : Bool := false
  tokenCount : Nat := 0
  tokensPerSequence : Nat := 0
  tokenIds : Nat → UInt32 := fun _ => 0
  logprobStride : Nat := 0
  logprobEntryCount : Nat := 0
  logprobTokens : Nat → UInt32 := fun _ => 0

/-- The two callbacks the pipeline client makes into the engine. -/
inductive Callback where
  | submitResult (submissionId : Nat) (status : WireStatus)
  | completion (completion : Completion)

/-- The difference of two 32-bit numbers. -/
def subU32 (left right : Nat) : Nat := (left + 2 ^ 32 - right) % 2 ^ 32

theorem subU32_one {count : Nat} (fits : count + 1 < 2 ^ 32) : subU32 (count + 1) 1 = count := by
  unfold subU32
  omega

/-- `count` tokens from `first` on. -/
def tokenSpan (tokens : Nat → UInt32) (first count : Nat) : List UInt32 :=
  (List.range count).map fun index => tokens (first + index)

/-- `SPARK_MODEL_SERVING_NO_TOKEN`. -/
def noToken : UInt32 := 0xffffffff

/-- `SPARK_MODEL_SERVING_ADAPTER_MAX_OUTPUT_TOKEN_COUNT`. -/
def maxOutputTokenCount : Nat := 1024

/-- `SparkModelServingCompletionKeptRows`. -/
def Completion.keptRows (completion : Completion) (lane : Nat) : Nat :=
  if !completion.hasTokenIds ∨ completion.tokensPerSequence = 0 ∨
      completion.tokenCount < (lane + 1) * completion.tokensPerSequence ∨
      maxOutputTokenCount < completion.tokenCount then 0
  else
    let rows := tokenSpan completion.tokenIds (lane * completion.tokensPerSequence) completion.tokensPerSequence
    let kept := (rows.takeWhile (· ≠ noToken)).length
    if (rows.drop kept).all (· = noToken) then kept else 0

end Sparkpipe.BatchEngine
