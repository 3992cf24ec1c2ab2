import Sparkpipe.Resident.Message

/-!
# Encoding and decoding of messages

The encoders of `model_resident_ipc.c` lay the arrays of a submission or a completion out behind the header
record and write each place into the header. The decoders work every place out again from the
counts of the header before they follow any of them.
-/

namespace Sparkpipe.ModelResidentIpc

open Sparkpipe.Bytes

section Submissions

/-- The scalar fields of `SparkModelServingSubmission`, the deadline apart. -/
structure SubmissionScalars where
  abiVersion : UInt32
  descriptorBytes : UInt32
  workKind : UInt32
  flags : UInt32
  submissionId : UInt64
  requestId : UInt64
  sequenceId : UInt64
  sequencePosition : UInt64
  controlGeneration : UInt64
  transactionId : UInt64
  dispatchGeneration : UInt64
  requestGeneration : UInt64
  stepGeneration : UInt64
  priority : UInt32
  activeSequenceCount : UInt32
  newTokenCount : UInt32
  laneCount : UInt32
  rowCount : UInt32
  tokenCount : UInt32
  tokensPerSequence : UInt32
  modelExtensionKind : UInt32
  modelExtensionBytes : UInt32
  cacheBlockIdentityCount : UInt32
  residency : ResidencyToken
  deriving DecidableEq

/-- The device buffers of a submission, which no message carries. -/
structure Boundary where
  hiddenInputAddress : UInt64 := 0
  hiddenInputBytes : UInt64 := 0
  boundarySidebandInputAddress : UInt64 := 0
  boundarySidebandInputBytes : UInt64 := 0
  hiddenOutputAddress : UInt64 := 0
  hiddenOutputBytes : UInt64 := 0
  boundarySidebandOutputAddress : UInt64 := 0
  boundarySidebandOutputBytes : UInt64 := 0
  deriving DecidableEq

/-- `SparkModelServingSubmission`. `Pointer` says what a pointer to an array is. -/
structure Submission (Pointer : Type → Type) extends SubmissionScalars where
  deadlineTimeNs : UInt64
  lanes : Pointer Lane
  tokenIds : Pointer UInt32
  rowLaneIndices : Pointer UInt32
  rowPositions : Pointer UInt64
  rowSequenceIds : Pointer UInt64
  modelExtension : Pointer UInt8
  cacheBlockIdentities : Pointer CacheIdentity
  boundary : Boundary := {}

/-- A pointer to an array of the sender; `none` is the null pointer. -/
abbrev Held (α : Type) : Type := Option (List α)

/-- A pointer into a message, as the offset from its first byte; `none` is the null pointer. -/
abbrev Place (_ : Type) : Type := Option UInt32

/-- `SparkModelResidentIpcAddBytes`; the sum is taken in 64 bits, where it cannot wrap. -/
def addBytes (total count elementBytes : UInt32) : Except SparkStatus UInt32 :=
  let next := total.toNat + count.toNat * elementBytes.toNat
  if maxMessageBytes < next then .error .capacityExceeded else .ok (UInt32.ofNat next)

/-- `SparkModelResidentIpcCalculateSubmitBytes` -/
def calculateSubmitBytes (laneCount rowCount cacheBlockIdentityCount modelExtensionBytes : UInt32) :
    Except SparkStatus UInt32 :=
  if laneCount = 0 ∨ maxActiveSequenceCount < laneCount ∨ maxInputRowCount < rowCount ∨
      rowCount < cacheBlockIdentityCount ∨ maxCacheBlockIdentityCount < cacheBlockIdentityCount ∨
      maxExtensionBytes < modelExtensionBytes then
    .error .invalidArgument
  else do
    let total ← addBytes submitBytes laneCount laneBytes
    let total ← addBytes total rowCount 4
    let total ← addBytes total rowCount 4
    let total ← addBytes total rowCount 8
    let total ← addBytes total rowCount 8
    let total ← addBytes total cacheBlockIdentityCount cacheIdentityBytes
    addBytes total modelExtensionBytes 1

/-- `SparkModelResidentIpcDeadlineRemaining`, with what the clock says. -/
def deadlineRemaining (now deadlineTimeNs : UInt64) : UInt64 :=
  if deadlineTimeNs = 0 then 0 else if now < deadlineTimeNs then deadlineTimeNs - now else 1

/-- `SparkModelResidentIpcInitializeHeader` -/
def initializeHeader (kind descriptorBytes messageBytes : UInt32) (messageId : UInt64) : Header where
  magic := ipcMagic
  abiVersion := ipcAbiVersion
  kind := kind
  descriptorBytes := descriptorBytes
  messageBytes := messageBytes
  reserved0 := 0
  messageId := messageId

/-- The header record that `SparkModelResidentIpcEncodeSubmissionKind` writes, with the offset it goes on to
after each array. -/
def submitWire (now : UInt64) (submission : Submission Held) (messageId : UInt64) (messageKind : UInt32)
    (clientGeneration : UInt64) (messageBytes : UInt32) : Submit :=
  let lanesOffset := submitBytes
  let tokenIdsOffset := lanesOffset + submission.laneCount * laneBytes
  let rowLaneIndicesOffset := tokenIdsOffset + submission.rowCount * 4
  let rowPositionsOffset := rowLaneIndicesOffset + submission.rowCount * 4
  let rowSequenceIdsOffset := rowPositionsOffset + submission.rowCount * 8
  let cacheBlockIdentitiesOffset := rowSequenceIdsOffset + submission.rowCount * 8
  let modelExtensionOffset := cacheBlockIdentitiesOffset + submission.cacheBlockIdentityCount * cacheIdentityBytes
  { header := initializeHeader messageKind submitBytes messageBytes messageId
    workKind := submission.workKind
    flags := submission.flags
    submissionId := submission.submissionId
    requestId := submission.requestId
    sequenceId := submission.sequenceId
    sequencePosition := submission.sequencePosition
    deadlineRemainingNs := deadlineRemaining now submission.deadlineTimeNs
    clientGeneration := clientGeneration
    controlGeneration := submission.controlGeneration
    transactionId := submission.transactionId
    dispatchGeneration := submission.dispatchGeneration
    requestGeneration := submission.requestGeneration
    stepGeneration := submission.stepGeneration
    priority := submission.priority
    activeSequenceCount := submission.activeSequenceCount
    newTokenCount := submission.newTokenCount
    laneCount := submission.laneCount
    rowCount := submission.rowCount
    tokenCount := submission.tokenCount
    tokensPerSequence := submission.tokensPerSequence
    modelExtensionKind := submission.modelExtensionKind
    modelExtensionBytes := submission.modelExtensionBytes
    residency := submission.residency
    lanesOffset := lanesOffset
    tokenIdsOffset := tokenIdsOffset
    rowLaneIndicesOffset := rowLaneIndicesOffset
    rowPositionsOffset := rowPositionsOffset
    rowSequenceIdsOffset := rowSequenceIdsOffset
    cacheBlockIdentityCount := submission.cacheBlockIdentityCount
    cacheBlockIdentitiesOffset := cacheBlockIdentitiesOffset
    modelExtensionOffset := modelExtensionOffset }

/-- `if ( count != 0u ) memcpy(bytes + offset,array,count * sizeof(*array));` -/
def copyArray {α : Type} (layout : Layout α) (count : UInt32) (array : Held α) (offset : UInt32)
    (buffer : List UInt8) : List UInt8 :=
  if count = 0 then buffer
  else overwrite buffer offset.toNat (layout.putAll ((array.getD []).take count.toNat))

/-- The buffer that `SparkModelResidentIpcEncodeSubmissionKind` fills. -/
def submitMessage (submission : Submission Held) (wire : Submit) : List UInt8 :=
  let buffer := List.replicate wire.header.messageBytes.toNat 0
  let buffer := overwrite buffer 0 (submitLayout.put wire)
  let buffer := copyArray laneLayout submission.laneCount submission.lanes wire.lanesOffset buffer
  let buffer := copyArray .uint32 submission.rowCount submission.tokenIds wire.tokenIdsOffset buffer
  let buffer := copyArray .uint32 submission.rowCount submission.rowLaneIndices wire.rowLaneIndicesOffset buffer
  let buffer := copyArray .uint64 submission.rowCount submission.rowPositions wire.rowPositionsOffset buffer
  let buffer := copyArray .uint64 submission.rowCount submission.rowSequenceIds wire.rowSequenceIdsOffset buffer
  let buffer := copyArray cacheIdentityLayout submission.cacheBlockIdentityCount submission.cacheBlockIdentities
    wire.cacheBlockIdentitiesOffset buffer
  copyArray .uint8 submission.modelExtensionBytes submission.modelExtension wire.modelExtensionOffset buffer

/-- The check that `SparkModelResidentIpcEncodeSubmissionKind` begins with. -/
def Submission.sendable (submission : Submission Held) (messageId : UInt64) (messageKind : UInt32)
    (clientGeneration : UInt64) : Bool :=
  messageId ≠ 0 ∧ (messageKind = kindSubmit ∨ messageKind = kindPrepare ∨ messageKind = kindContinue) ∧
  (messageKind = kindContinue ↔ clientGeneration ≠ 0) ∧ submission.lanes.isSome ∧ submission.boundary = {} ∧
  (submission.rowCount ≠ 0 → submission.tokenIds.isSome ∧ submission.rowLaneIndices.isSome ∧
    submission.rowPositions.isSome ∧ submission.rowSequenceIds.isSome) ∧
  (submission.modelExtensionBytes ≠ 0 → submission.modelExtension.isSome) ∧
  (submission.cacheBlockIdentityCount ≠ 0 ↔ submission.cacheBlockIdentities.isSome)

/-- `SparkModelResidentIpcEncodeSubmissionKind` -/
def encodeSubmissionKind (now : UInt64) (submission : Submission Held) (messageId : UInt64) (messageKind : UInt32)
    (clientGeneration : UInt64) (messageCapacity : UInt32) : Except SparkStatus (List UInt8) :=
  if submission.sendable messageId messageKind clientGeneration = false then .error .invalidArgument
  else do
    let messageBytes ← calculateSubmitBytes submission.laneCount submission.rowCount
      submission.cacheBlockIdentityCount submission.modelExtensionBytes
    if messageCapacity < messageBytes then .error .capacityExceeded
    else
      return submitMessage submission (submitWire now submission messageId messageKind clientGeneration messageBytes)

/-- The bytes of a message; their number is passed in 32 bits. -/
structure Message where
  bytes : List UInt8
  short : bytes.length < 2 ^ 32

/-- `message_bytes` -/
def Message.size (message : Message) : UInt32 := UInt32.ofNat message.bytes.length

/-- `SparkModelResidentIpcValidateHeader` -/
def validateHeader (header : Header) (messageBytes expectedKind expectedDescriptorBytes : UInt32) :
    Except SparkStatus Unit :=
  if messageBytes.toNat < headerLayout.bytes ∨ maxMessageBytes < messageBytes.toNat then .error .invalidArgument
  else if header.magic ≠ ipcMagic ∨ header.abiVersion ≠ ipcAbiVersion ∨
      header.descriptorBytes ≠ expectedDescriptorBytes then
    .error .abiMismatch
  else if header.kind ≠ expectedKind ∨ header.messageBytes ≠ messageBytes ∨ header.reserved0 ≠ 0 ∨
      header.messageId = 0 then
    .error .schemaError
  else .ok ()

/-- `SparkModelResidentIpcValidateSubmitLayout` -/
def validateSubmitLayout (wire : Submit) (messageBytes : UInt32) : Except SparkStatus Unit := do
  let expected ← calculateSubmitBytes wire.laneCount wire.rowCount wire.cacheBlockIdentityCount wire.modelExtensionBytes
  if expected ≠ messageBytes ∨ wire.tokenCount ≠ wire.rowCount ∨
      ¬ (wire.header.kind = kindContinue ↔ wire.clientGeneration ≠ 0) then
    .error .schemaError
  else
    let offset := submitBytes
    if wire.lanesOffset ≠ offset then .error .schemaError else
    let offset := offset + wire.laneCount * laneBytes
    if wire.tokenIdsOffset ≠ offset then .error .schemaError else
    let offset := offset + wire.rowCount * 4
    if wire.rowLaneIndicesOffset ≠ offset then .error .schemaError else
    let offset := offset + wire.rowCount * 4
    if wire.rowPositionsOffset ≠ offset then .error .schemaError else
    let offset := offset + wire.rowCount * 8
    if wire.rowSequenceIdsOffset ≠ offset then .error .schemaError else
    let offset := offset + wire.rowCount * 8
    if wire.cacheBlockIdentitiesOffset ≠ offset then .error .schemaError else
    let offset := offset + wire.cacheBlockIdentityCount * cacheIdentityBytes
    if wire.modelExtensionOffset = offset then .ok () else .error .schemaError

/-- What `SparkModelResidentIpcDecodeSubmission` returns for a header record it accepts. -/
def submissionOf (now : UInt64) (wire : Submit) : Submission Place where
  abiVersion := adapterAbiVersion
  descriptorBytes := servingSubmissionBytes
  workKind := wire.workKind
  flags := wire.flags
  submissionId := wire.submissionId
  requestId := wire.requestId
  sequenceId := wire.sequenceId
  sequencePosition := wire.sequencePosition
  deadlineTimeNs := if wire.deadlineRemainingNs ≠ 0 then now + wire.deadlineRemainingNs else 0
  controlGeneration := wire.controlGeneration
  transactionId := wire.transactionId
  dispatchGeneration := wire.dispatchGeneration
  requestGeneration := wire.requestGeneration
  stepGeneration := wire.stepGeneration
  priority := wire.priority
  activeSequenceCount := wire.activeSequenceCount
  newTokenCount := wire.newTokenCount
  laneCount := wire.laneCount
  rowCount := wire.rowCount
  tokenCount := wire.tokenCount
  tokensPerSequence := wire.tokensPerSequence
  modelExtensionKind := wire.modelExtensionKind
  modelExtensionBytes := wire.modelExtensionBytes
  cacheBlockIdentityCount := wire.cacheBlockIdentityCount
  residency := wire.residency
  lanes := some wire.lanesOffset
  tokenIds := some wire.tokenIdsOffset
  rowLaneIndices := some wire.rowLaneIndicesOffset
  rowPositions := some wire.rowPositionsOffset
  rowSequenceIds := some wire.rowSequenceIdsOffset
  cacheBlockIdentities := if wire.cacheBlockIdentityCount ≠ 0 then some wire.cacheBlockIdentitiesOffset else none
  modelExtension := if wire.modelExtensionBytes ≠ 0 then some wire.modelExtensionOffset else none

/-- `SparkModelResidentIpcDecodeSubmission` -/
def decodeSubmission (now : UInt64) (message : Message) : Except SparkStatus (Submission Place) :=
  if message.size < submitBytes then .error .invalidArgument
  else
    let wire := submitLayout.get message.bytes
    if wire.header.kind ≠ kindSubmit ∧ wire.header.kind ≠ kindPrepare ∧ wire.header.kind ≠ kindContinue then
      .error .schemaError
    else do
      validateHeader wire.header message.size wire.header.kind submitBytes
      validateSubmitLayout wire message.size
      return submissionOf now wire

end Submissions

section Completions

/-- The scalar fields of `SparkModelServingCompletion`. -/
structure CompletionScalars where
  abiVersion : UInt32
  descriptorBytes : UInt32
  status : UInt32
  completionFlags : UInt32
  submissionId : UInt64
  requestId : UInt64
  sequenceId : UInt64
  sequencePosition : UInt64
  controlGeneration : UInt64
  transactionId : UInt64
  dispatchGeneration : UInt64
  requestGeneration : UInt64
  stepGeneration : UInt64
  residency : ResidencyToken
  acceptedTokenCount : UInt32
  tokenCount : UInt32
  tokensPerSequence : UInt32
  logprobStride : UInt32
  logprobEntryCount : UInt32
  modelExtensionKind : UInt32
  modelExtensionBytes : UInt32
  queueDelayNs : UInt64
  serviceTimeNs : UInt64
  deviceMemcpyBytes : UInt64
  hostStagingBytes : UInt64
  deriving DecidableEq

/-- `SparkModelServingCompletion` -/
structure ServingCompletion extends CompletionScalars where
  tokenIds : Vector UInt32 maxOutputTokenCount.toNat
  logprobs : Vector SamplingLogprob maxLogprobEntries.toNat
  modelExtension : Vector UInt8 maxExtensionBytes.toNat

/-- `SparkModelResidentIpcLogprobsOffset` -/
def logprobsOffset (tokenCount modelExtensionBytes : UInt32) : UInt32 :=
  let offset := completionBytes + tokenCount * 4 + modelExtensionBytes
  (offset + 3) &&& ~~~3

/-- `SparkModelResidentIpcCalculateCompletionBytes` -/
def calculateCompletionBytes (tokenCount modelExtensionBytes logprobEntryCount : UInt32) : Except SparkStatus UInt32 :=
  if maxOutputTokenCount < tokenCount ∨ maxExtensionBytes < modelExtensionBytes ∨
      maxLogprobEntries < logprobEntryCount then
    .error .invalidArgument
  else addBytes (logprobsOffset tokenCount modelExtensionBytes) logprobEntryCount samplingLogprobBytes

/-- `SparkModelResidentIpcLogprobsValid`; the product is taken in 64 bits, where it cannot wrap. -/
def logprobsValid (tokenCount stride entries : UInt32) : Bool :=
  stride ≤ samplingMaxLogprobs ∧ entries ≤ maxLogprobEntries ∧ tokenCount.toNat * stride.toNat = entries.toNat

/-- The header record that `SparkModelResidentIpcEncodeCompletion` writes. -/
def completionWire (completion : ServingCompletion) (messageId : UInt64) (messageBytes : UInt32) : Completion where
  header := initializeHeader kindCompletion completionBytes messageBytes messageId
  status := completion.status
  completionFlags := completion.completionFlags
  submissionId := completion.submissionId
  requestId := completion.requestId
  sequenceId := completion.sequenceId
  sequencePosition := completion.sequencePosition
  controlGeneration := completion.controlGeneration
  transactionId := completion.transactionId
  dispatchGeneration := completion.dispatchGeneration
  requestGeneration := completion.requestGeneration
  stepGeneration := completion.stepGeneration
  residency := completion.residency
  acceptedTokenCount := completion.acceptedTokenCount
  tokenCount := completion.tokenCount
  tokensPerSequence := completion.tokensPerSequence
  modelExtensionKind := completion.modelExtensionKind
  modelExtensionBytes := completion.modelExtensionBytes
  tokenIdsOffset := completionBytes
  modelExtensionOffset := completionBytes + completion.tokenCount * 4
  logprobStride := completion.logprobStride
  logprobEntryCount := completion.logprobEntryCount
  logprobsOffset := logprobsOffset completion.tokenCount completion.modelExtensionBytes
  reserved := 0
  queueDelayNs := completion.queueDelayNs
  serviceTimeNs := completion.serviceTimeNs
  deviceMemcpyBytes := completion.deviceMemcpyBytes
  hostStagingBytes := completion.hostStagingBytes

/-- The buffer that `SparkModelResidentIpcEncodeCompletion` fills. -/
def completionMessage (completion : ServingCompletion) (wire : Completion) : List UInt8 :=
  let buffer := List.replicate wire.header.messageBytes.toNat 0
  let buffer := overwrite buffer 0 (completionLayout.put wire)
  let buffer := overwrite buffer wire.tokenIdsOffset.toNat
    (Layout.uint32.putAll (completion.tokenIds.toList.take completion.tokenCount.toNat))
  let buffer := copyArray .uint8 completion.modelExtensionBytes (some completion.modelExtension.toList)
    wire.modelExtensionOffset buffer
  copyArray samplingLogprobLayout completion.logprobEntryCount (some completion.logprobs.toList)
    wire.logprobsOffset buffer

/-- `SparkModelResidentIpcEncodeCompletion` -/
def encodeCompletion (completion : ServingCompletion) (messageId : UInt64) (messageCapacity : UInt32) :
    Except SparkStatus (List UInt8) :=
  if messageId = 0 ∨ completion.abiVersion ≠ adapterAbiVersion ∨ completion.descriptorBytes ≠ servingCompletionBytes ∨
      logprobsValid completion.tokenCount completion.logprobStride completion.logprobEntryCount = false then
    .error .invalidArgument
  else do
    let messageBytes ← calculateCompletionBytes completion.tokenCount completion.modelExtensionBytes
      completion.logprobEntryCount
    if messageCapacity < messageBytes then .error .capacityExceeded
    else return completionMessage completion (completionWire completion messageId messageBytes)

/-- The checks of `SparkModelResidentIpcDecodeCompletion`. -/
def validateCompletion (wire : Completion) (messageBytes : UInt32) : Except SparkStatus Unit := do
  validateHeader wire.header messageBytes kindCompletion completionBytes
  let expected ←
    if logprobsValid wire.tokenCount wire.logprobStride wire.logprobEntryCount then
      calculateCompletionBytes wire.tokenCount wire.modelExtensionBytes wire.logprobEntryCount
    else .error .schemaError
  if expected ≠ messageBytes ∨ wire.tokenIdsOffset ≠ completionBytes ∨
      wire.modelExtensionOffset.toNat ≠ wire.tokenIdsOffset.toNat + wire.tokenCount.toNat * 4 ∨
      wire.logprobsOffset ≠ logprobsOffset wire.tokenCount wire.modelExtensionBytes ∨ wire.reserved ≠ 0 then
    .error .schemaError
  else .ok ()

/-- An array filled with zeros, with the values copied to its front. -/
def fixedArray {α : Type} (capacity : Nat) (zero : α) (values : List α) : Vector α capacity :=
  Vector.ofFn fun index => values.getD index zero

/-- What `SparkModelResidentIpcDecodeCompletion` returns for a header record it accepts. -/
def completionOf (wire : Completion) (bytes : List UInt8) : ServingCompletion where
  abiVersion := adapterAbiVersion
  descriptorBytes := servingCompletionBytes
  status := wire.status
  completionFlags := wire.completionFlags
  submissionId := wire.submissionId
  requestId := wire.requestId
  sequenceId := wire.sequenceId
  sequencePosition := wire.sequencePosition
  controlGeneration := wire.controlGeneration
  transactionId := wire.transactionId
  dispatchGeneration := wire.dispatchGeneration
  requestGeneration := wire.requestGeneration
  stepGeneration := wire.stepGeneration
  residency := wire.residency
  acceptedTokenCount := wire.acceptedTokenCount
  tokenCount := wire.tokenCount
  tokensPerSequence := wire.tokensPerSequence
  modelExtensionKind := wire.modelExtensionKind
  modelExtensionBytes := wire.modelExtensionBytes
  queueDelayNs := wire.queueDelayNs
  serviceTimeNs := wire.serviceTimeNs
  deviceMemcpyBytes := wire.deviceMemcpyBytes
  hostStagingBytes := wire.hostStagingBytes
  logprobStride := wire.logprobStride
  logprobEntryCount := wire.logprobEntryCount
  tokenIds := fixedArray _ 0 (Layout.uint32.getAll wire.tokenCount.toNat (bytes.drop wire.tokenIdsOffset.toNat))
  modelExtension := fixedArray _ 0
    (Layout.uint8.getAll wire.modelExtensionBytes.toNat (bytes.drop wire.modelExtensionOffset.toNat))
  logprobs := fixedArray _ { token := 0, logprob := 0 }
    (samplingLogprobLayout.getAll wire.logprobEntryCount.toNat (bytes.drop wire.logprobsOffset.toNat))

/-- `SparkModelResidentIpcDecodeCompletion` -/
def decodeCompletion (message : Message) : Except SparkStatus ServingCompletion :=
  if message.size < completionBytes then .error .invalidArgument
  else do
    let wire := completionLayout.get message.bytes
    validateCompletion wire message.size
    return completionOf wire message.bytes

end Completions

end Sparkpipe.ModelResidentIpc
