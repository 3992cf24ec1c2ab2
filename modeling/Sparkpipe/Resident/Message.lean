import Sparkpipe.Lib.Layout
import Sparkpipe.Status

/-!
# Messages of the resident process

The records that a client and the resident process of a model exchange over a socket, and how
they lie in memory. A message is its header record followed by the arrays of its sections.
A floating-point field is carried as its bits.
-/

namespace Sparkpipe.ModelResidentIpc

open Sparkpipe.Bytes

section Limits

/-- `SPARK_MODEL_RESIDENT_IPC_MAX_MESSAGE_BYTES` -/
def maxMessageBytes : Nat := 2097152

/-- `SPARK_MODEL_SERVING_ADAPTER_MAX_ACTIVE_SEQUENCE_COUNT` -/
def maxActiveSequenceCount : UInt32 := 1024

/-- `SPARK_MODEL_SERVING_ADAPTER_MAX_INPUT_ROW_COUNT` -/
def maxInputRowCount : UInt32 := 65536

/-- `SPARK_MODEL_SERVING_ADAPTER_MAX_CACHE_BLOCK_IDENTITY_COUNT` -/
def maxCacheBlockIdentityCount : UInt32 := 4096

/-- `SPARK_MODEL_SERVING_ADAPTER_MAX_EXTENSION_BYTES` -/
def maxExtensionBytes : UInt32 := 512

/-- `SPARK_MODEL_SERVING_ADAPTER_MAX_OUTPUT_TOKEN_COUNT` -/
def maxOutputTokenCount : UInt32 := maxActiveSequenceCount

/-- `SPARK_MODEL_SERVING_ADAPTER_MAX_LOGPROB_ENTRIES` -/
def maxLogprobEntries : UInt32 := 4096

/-- `SPARK_SAMPLING_MAX_LOGPROBS` -/
def samplingMaxLogprobs : UInt32 := 21

/-- `SPARK_MODEL_RESIDENT_IPC_MAGIC` -/
def ipcMagic : UInt32 := 0x52444D53

/-- `SPARK_MODEL_RESIDENT_IPC_ABI_VERSION` -/
def ipcAbiVersion : UInt32 := 24

/-- `SPARK_MODEL_SERVING_ADAPTER_ABI_VERSION` -/
def adapterAbiVersion : UInt32 := 38

/-- `SPARK_MODEL_SERVING_SUBMISSION_BYTES`, with eight-byte pointers. -/
def servingSubmissionBytes : UInt32 := 296

/-- `SPARK_MODEL_SERVING_COMPLETION_BYTES` -/
def servingCompletionBytes : UInt32 := 37560

end Limits

section Kinds

/-- `SPARK_MODEL_RESIDENT_IPC_KIND_SUBMIT` -/
def kindSubmit : UInt32 := 3

/-- `SPARK_MODEL_RESIDENT_IPC_KIND_COMPLETION` -/
def kindCompletion : UInt32 := 5

/-- `SPARK_MODEL_RESIDENT_IPC_KIND_PREPARE` -/
def kindPrepare : UInt32 := 6

/-- `SPARK_MODEL_RESIDENT_IPC_KIND_CONTINUE` -/
def kindContinue : UInt32 := 9

end Kinds

section Records

/-- `SparkModelServingCacheIdentity` -/
structure CacheIdentity where
  sha256 : Vector UInt8 32
  deriving DecidableEq

/-- `SparkRowSampling` -/
structure RowSampling where
  seed : UInt64
  inverseTemperature : UInt32
  nucleus : UInt32
  topK : UInt32
  logprobs : UInt32
  deriving DecidableEq

/-- `SparkSamplingLogprob` -/
structure SamplingLogprob where
  token : UInt32
  logprob : UInt32
  deriving DecidableEq

/-- `SparkModelDriverResidencyToken` -/
structure ResidencyToken where
  word0 : UInt64
  word1 : UInt64
  generation : UInt64
  owner : UInt64
  deriving DecidableEq

/-- `SparkModelServingLane` -/
structure Lane where
  requestId : UInt64
  requestGeneration : UInt64
  stepGeneration : UInt64
  sequenceId : UInt64
  sequencePosition : UInt64
  residentSequenceSlot : UInt32
  contextTokenCount : UInt32
  inputTokenId : UInt32
  flags : UInt32
  cachePrefixTokenCount : UInt32
  cachePublishTokenCount : UInt32
  cacheBlockIdentityFirst : UInt32
  cacheBlockIdentityCount : UInt32
  stateTargetTokenCount : UInt32
  reserved : UInt32
  cachePrefixIdentity : CacheIdentity
  cachePublishIdentity : CacheIdentity
  sampling : RowSampling
  deriving DecidableEq

/-- `SparkModelResidentIpcHeader` -/
structure Header where
  magic : UInt32
  abiVersion : UInt32
  kind : UInt32
  descriptorBytes : UInt32
  messageBytes : UInt32
  reserved0 : UInt32
  messageId : UInt64
  deriving DecidableEq

/-- `SparkModelResidentIpcSubmit` -/
structure Submit where
  header : Header
  workKind : UInt32
  flags : UInt32
  submissionId : UInt64
  requestId : UInt64
  sequenceId : UInt64
  sequencePosition : UInt64
  deadlineRemainingNs : UInt64
  clientGeneration : UInt64
  controlGeneration : UInt64
  transactionId : UInt64
  dispatchGeneration : UInt64
  requestGeneration : UInt64
  stepGeneration : UInt64
  priority : UInt32
  activeSequenceCount : UInt32
  newTokenCount : UInt32
  laneCount : UInt32
  rowCount : UInt32
  tokenCount : UInt32
  tokensPerSequence : UInt32
  modelExtensionKind : UInt32
  modelExtensionBytes : UInt32
  residency : ResidencyToken
  lanesOffset : UInt32
  tokenIdsOffset : UInt32
  rowLaneIndicesOffset : UInt32
  rowPositionsOffset : UInt32
  rowSequenceIdsOffset : UInt32
  cacheBlockIdentityCount : UInt32
  cacheBlockIdentitiesOffset : UInt32
  modelExtensionOffset : UInt32
  deriving DecidableEq

/-- `SparkModelResidentIpcCompletion` -/
structure Completion where
  header : Header
  status : UInt32
  completionFlags : UInt32
  submissionId : UInt64
  requestId : UInt64
  sequenceId : UInt64
  sequencePosition : UInt64
  controlGeneration : UInt64
  transactionId : UInt64
  dispatchGeneration : UInt64
  requestGeneration : UInt64
  stepGeneration : UInt64
  residency : ResidencyToken
  acceptedTokenCount : UInt32
  tokenCount : UInt32
  tokensPerSequence : UInt32
  modelExtensionKind : UInt32
  modelExtensionBytes : UInt32
  tokenIdsOffset : UInt32
  modelExtensionOffset : UInt32
  logprobStride : UInt32
  logprobEntryCount : UInt32
  logprobsOffset : UInt32
  reserved : UInt32
  queueDelayNs : UInt64
  serviceTimeNs : UInt64
  deviceMemcpyBytes : UInt64
  hostStagingBytes : UInt64
  deriving DecidableEq

end Records

section Layouts

open Layout

def cacheIdentityLayout : Layout CacheIdentity :=
  (uint8.array 32).record CacheIdentity.sha256 CacheIdentity.mk fun _ => rfl

def rowSamplingLayout : Layout RowSampling :=
  (uint64.pair (uint32.pair (uint32.pair (uint32.pair uint32)))).record
    (fun rule => (rule.seed, rule.inverseTemperature, rule.nucleus, rule.topK, rule.logprobs))
    (fun (seed, inverseTemperature, nucleus, topK, logprobs) => { seed, inverseTemperature, nucleus, topK, logprobs })
    fun _ => rfl

def samplingLogprobLayout : Layout SamplingLogprob :=
  (uint32.pair uint32).record (fun entry => (entry.token, entry.logprob))
    (fun (token, logprob) => { token, logprob }) fun _ => rfl

def residencyTokenLayout : Layout ResidencyToken :=
  (uint64.pair (uint64.pair (uint64.pair uint64))).record
    (fun residency => (residency.word0, residency.word1, residency.generation, residency.owner))
    (fun (word0, word1, generation, owner) => { word0, word1, generation, owner }) fun _ => rfl

def laneLayout : Layout Lane :=
  (uint64.pair <| uint64.pair <| uint64.pair <| uint64.pair <| uint64.pair <| uint32.pair <| uint32.pair <|
    uint32.pair <| uint32.pair <| uint32.pair <| uint32.pair <| uint32.pair <| uint32.pair <| uint32.pair <|
    uint32.pair <| cacheIdentityLayout.pair <| cacheIdentityLayout.pair rowSamplingLayout).record
    (fun lane => (lane.requestId, lane.requestGeneration, lane.stepGeneration, lane.sequenceId, lane.sequencePosition,
      lane.residentSequenceSlot, lane.contextTokenCount, lane.inputTokenId, lane.flags, lane.cachePrefixTokenCount,
      lane.cachePublishTokenCount, lane.cacheBlockIdentityFirst, lane.cacheBlockIdentityCount,
      lane.stateTargetTokenCount, lane.reserved, lane.cachePrefixIdentity, lane.cachePublishIdentity, lane.sampling))
    (fun (requestId, requestGeneration, stepGeneration, sequenceId, sequencePosition, residentSequenceSlot,
      contextTokenCount, inputTokenId, flags, cachePrefixTokenCount, cachePublishTokenCount, cacheBlockIdentityFirst,
      cacheBlockIdentityCount, stateTargetTokenCount, reserved, cachePrefixIdentity, cachePublishIdentity, sampling) =>
      { requestId, requestGeneration, stepGeneration, sequenceId, sequencePosition, residentSequenceSlot,
        contextTokenCount, inputTokenId, flags, cachePrefixTokenCount, cachePublishTokenCount, cacheBlockIdentityFirst,
        cacheBlockIdentityCount, stateTargetTokenCount, reserved, cachePrefixIdentity, cachePublishIdentity, sampling })
    fun _ => rfl

def headerLayout : Layout Header :=
  (uint32.pair <| uint32.pair <| uint32.pair <| uint32.pair <| uint32.pair <| uint32.pair uint64).record
    (fun header => (header.magic, header.abiVersion, header.kind, header.descriptorBytes, header.messageBytes,
      header.reserved0, header.messageId))
    (fun (magic, abiVersion, kind, descriptorBytes, messageBytes, reserved0, messageId) =>
      { magic, abiVersion, kind, descriptorBytes, messageBytes, reserved0, messageId })
    fun _ => rfl

def submitLayout : Layout Submit :=
  (headerLayout.pair <| uint32.pair <| uint32.pair <| uint64.pair <| uint64.pair <| uint64.pair <| uint64.pair <|
    uint64.pair <| uint64.pair <| uint64.pair <| uint64.pair <| uint64.pair <| uint64.pair <| uint64.pair <|
    uint32.pair <| uint32.pair <| uint32.pair <| uint32.pair <| uint32.pair <| uint32.pair <| uint32.pair <|
    -- The residency token is aligned to eight bytes.
    uint32.pair <| (uint32.padded 4).pair <| residencyTokenLayout.pair <|
    uint32.pair <| uint32.pair <| uint32.pair <| uint32.pair <| uint32.pair <| uint32.pair <| uint32.pair uint32).record
    (fun wire => (wire.header, wire.workKind, wire.flags, wire.submissionId, wire.requestId, wire.sequenceId,
      wire.sequencePosition, wire.deadlineRemainingNs, wire.clientGeneration, wire.controlGeneration,
      wire.transactionId, wire.dispatchGeneration, wire.requestGeneration, wire.stepGeneration, wire.priority,
      wire.activeSequenceCount, wire.newTokenCount, wire.laneCount, wire.rowCount, wire.tokenCount,
      wire.tokensPerSequence, wire.modelExtensionKind, wire.modelExtensionBytes, wire.residency, wire.lanesOffset,
      wire.tokenIdsOffset, wire.rowLaneIndicesOffset, wire.rowPositionsOffset, wire.rowSequenceIdsOffset,
      wire.cacheBlockIdentityCount, wire.cacheBlockIdentitiesOffset, wire.modelExtensionOffset))
    (fun (header, workKind, flags, submissionId, requestId, sequenceId, sequencePosition, deadlineRemainingNs,
      clientGeneration, controlGeneration, transactionId, dispatchGeneration, requestGeneration, stepGeneration,
      priority, activeSequenceCount, newTokenCount, laneCount, rowCount, tokenCount, tokensPerSequence,
      modelExtensionKind, modelExtensionBytes, residency, lanesOffset, tokenIdsOffset, rowLaneIndicesOffset,
      rowPositionsOffset, rowSequenceIdsOffset, cacheBlockIdentityCount, cacheBlockIdentitiesOffset,
      modelExtensionOffset) =>
      { header, workKind, flags, submissionId, requestId, sequenceId, sequencePosition, deadlineRemainingNs,
        clientGeneration, controlGeneration, transactionId, dispatchGeneration, requestGeneration, stepGeneration,
        priority, activeSequenceCount, newTokenCount, laneCount, rowCount, tokenCount, tokensPerSequence,
        modelExtensionKind, modelExtensionBytes, residency, lanesOffset, tokenIdsOffset, rowLaneIndicesOffset,
        rowPositionsOffset, rowSequenceIdsOffset, cacheBlockIdentityCount, cacheBlockIdentitiesOffset,
        modelExtensionOffset })
    fun _ => rfl

def completionLayout : Layout Completion :=
  (headerLayout.pair <| uint32.pair <| uint32.pair <| uint64.pair <| uint64.pair <| uint64.pair <| uint64.pair <|
    uint64.pair <| uint64.pair <| uint64.pair <| uint64.pair <| uint64.pair <| residencyTokenLayout.pair <|
    uint32.pair <| uint32.pair <| uint32.pair <| uint32.pair <| uint32.pair <| uint32.pair <| uint32.pair <|
    uint32.pair <| uint32.pair <| uint32.pair <|
    -- The delays are aligned to eight bytes.
    (uint32.padded 4).pair <| uint64.pair <| uint64.pair <| uint64.pair uint64).record
    (fun wire => (wire.header, wire.status, wire.completionFlags, wire.submissionId, wire.requestId, wire.sequenceId,
      wire.sequencePosition, wire.controlGeneration, wire.transactionId, wire.dispatchGeneration,
      wire.requestGeneration, wire.stepGeneration, wire.residency, wire.acceptedTokenCount, wire.tokenCount,
      wire.tokensPerSequence, wire.modelExtensionKind, wire.modelExtensionBytes, wire.tokenIdsOffset,
      wire.modelExtensionOffset, wire.logprobStride, wire.logprobEntryCount, wire.logprobsOffset, wire.reserved,
      wire.queueDelayNs, wire.serviceTimeNs, wire.deviceMemcpyBytes, wire.hostStagingBytes))
    (fun (header, status, completionFlags, submissionId, requestId, sequenceId, sequencePosition, controlGeneration,
      transactionId, dispatchGeneration, requestGeneration, stepGeneration, residency, acceptedTokenCount, tokenCount,
      tokensPerSequence, modelExtensionKind, modelExtensionBytes, tokenIdsOffset, modelExtensionOffset, logprobStride,
      logprobEntryCount, logprobsOffset, reserved, queueDelayNs, serviceTimeNs, deviceMemcpyBytes,
      hostStagingBytes) =>
      { header, status, completionFlags, submissionId, requestId, sequenceId, sequencePosition, controlGeneration,
        transactionId, dispatchGeneration, requestGeneration, stepGeneration, residency, acceptedTokenCount, tokenCount,
        tokensPerSequence, modelExtensionKind, modelExtensionBytes, tokenIdsOffset, modelExtensionOffset, logprobStride,
        logprobEntryCount, logprobsOffset, reserved, queueDelayNs, serviceTimeNs, deviceMemcpyBytes,
        hostStagingBytes })
    fun _ => rfl

/-- `SPARK_MODEL_RESIDENT_IPC_SUBMIT_BYTES` -/
def submitBytes : UInt32 := UInt32.ofNat submitLayout.bytes

/-- `SPARK_MODEL_RESIDENT_IPC_COMPLETION_BYTES` -/
def completionBytes : UInt32 := UInt32.ofNat completionLayout.bytes

/-- `SPARK_MODEL_SERVING_LANE_BYTES` -/
def laneBytes : UInt32 := UInt32.ofNat laneLayout.bytes

/-- `sizeof(SparkModelServingCacheIdentity)` -/
def cacheIdentityBytes : UInt32 := UInt32.ofNat cacheIdentityLayout.bytes

/-- `sizeof(SparkSamplingLogprob)` -/
def samplingLogprobBytes : UInt32 := UInt32.ofNat samplingLogprobLayout.bytes

theorem headerLayout_bytes : headerLayout.bytes = 32 := rfl

theorem submitLayout_bytes : submitLayout.bytes = 232 := rfl

theorem completionLayout_bytes : completionLayout.bytes = 224 := rfl

theorem laneLayout_bytes : laneLayout.bytes = 168 := rfl

theorem cacheIdentityLayout_bytes : cacheIdentityLayout.bytes = 32 := rfl

theorem samplingLogprobLayout_bytes : samplingLogprobLayout.bytes = 8 := rfl

end Layouts

end Sparkpipe.ModelResidentIpc
