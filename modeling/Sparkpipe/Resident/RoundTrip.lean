import Sparkpipe.Resident.Sections

/-!
# The round trip of a message

A well-formed submission, or a completion, that is encoded and decoded again comes out with the same scalar
fields and the same arrays. The clocks of the two ends differ, so the deadline of a submission is carried
as the time that remains.
-/

namespace Sparkpipe.ModelResidentIpc

open Sparkpipe.Bytes

section Submissions

/-- The elements of an array; a null pointer has none. -/
def Held.elements {α : Type} (array : Held α) : List α := array.getD []

/-- So many elements at a place of a message; a null pointer has none. -/
def Place.read {α : Type} (layout : Layout α) (count : UInt32) (bytes : List UInt8) : Place α → List α
  | none => []
  | some offset => layout.getAll count.toNat (bytes.drop offset.toNat)

/-- A submission whose arrays are as long as its counts say, within the limits of a message. -/
structure Submission.WellFormed (submission : Submission Held) : Prop where
  abi : submission.abiVersion = adapterAbiVersion
  descriptor : submission.descriptorBytes = servingSubmissionBytes
  tokens : submission.tokenCount = submission.rowCount
  limits : SubmitLimits submission.laneCount submission.rowCount submission.cacheBlockIdentityCount
    submission.modelExtensionBytes
  lanes : submission.lanes.elements.length = submission.laneCount.toNat
  tokenIds : submission.tokenIds.elements.length = submission.rowCount.toNat
  rowLaneIndices : submission.rowLaneIndices.elements.length = submission.rowCount.toNat
  rowPositions : submission.rowPositions.elements.length = submission.rowCount.toNat
  rowSequenceIds : submission.rowSequenceIds.elements.length = submission.rowCount.toNat
  identities : submission.cacheBlockIdentities.elements.length = submission.cacheBlockIdentityCount.toNat
  -- An adapter takes a submission without identities only with a null pointer.
  noIdentities : submission.cacheBlockIdentityCount = 0 → submission.cacheBlockIdentities = none
  extension : submission.modelExtension.elements.length = submission.modelExtensionBytes.toNat
  boundary : submission.boundary = {}

/-- What a decoded submission finds in a message is what the submission holds. -/
structure Carries (submission : Submission Held) (bytes : List UInt8) (decoded : Submission Place) : Prop where
  scalars : decoded.toSubmissionScalars = submission.toSubmissionScalars
  lanes : decoded.lanes.read laneLayout decoded.laneCount bytes = submission.lanes.elements
  tokenIds : decoded.tokenIds.read .uint32 decoded.rowCount bytes = submission.tokenIds.elements
  rowLaneIndices : decoded.rowLaneIndices.read .uint32 decoded.rowCount bytes = submission.rowLaneIndices.elements
  rowPositions : decoded.rowPositions.read .uint64 decoded.rowCount bytes = submission.rowPositions.elements
  rowSequenceIds : decoded.rowSequenceIds.read .uint64 decoded.rowCount bytes = submission.rowSequenceIds.elements
  identities : decoded.cacheBlockIdentities.read cacheIdentityLayout decoded.cacheBlockIdentityCount bytes =
    submission.cacheBlockIdentities.elements
  extension : decoded.modelExtension.read .uint8 decoded.modelExtensionBytes bytes = submission.modelExtension.elements
  boundary : decoded.boundary = submission.boundary

section Copies

variable {α : Type} {layout : Layout α} {count offset : UInt32} {array : Held α} {parts : List (List UInt8)}
  {room index : Nat}

/-- The first elements of an array are copied right after the parts of a message that come before them. -/
theorem copyArray_take (part : parts[index]? = some (layout.putAll (array.elements.take count.toNat)))
    (counts : (array.elements.take count.toNat).length = count.toNat) (here : offset.toNat = partPlace parts index)
    (fits : count.toNat * layout.bytes ≤ room) :
    copyArray layout count array offset ((parts.take index).flatten ++ List.replicate room 0) =
      (parts.take (index + 1)).flatten ++ List.replicate (room - count.toNat * layout.bytes) 0 := by
  have size : (layout.putAll (array.elements.take count.toNat)).length = count.toNat * layout.bytes := by
    rw [Layout.length_putAll, counts]
  unfold copyArray
  by_cases empty : count = 0
  · subst empty
    have none : array.elements.take (0 : UInt32).toNat = [] := List.take_zero
    rw [none] at part
    rw [if_pos rfl, flatten_take_succ part, UInt32.toNat_zero, Nat.zero_mul, Nat.sub_zero]
    simp [Layout.putAll]
  · rw [if_neg empty]
    change overwrite _ _ (layout.putAll (array.elements.take count.toNat)) = _
    rw [here, overwrite_part part (size.trans_le fits), size]

/-- An array is copied right after the parts of a message that come before it. -/
theorem copyArray_part (part : parts[index]? = some (layout.putAll array.elements))
    (counts : array.elements.length = count.toNat) (here : offset.toNat = partPlace parts index)
    (fits : count.toNat * layout.bytes ≤ room) :
    copyArray layout count array offset ((parts.take index).flatten ++ List.replicate room 0) =
      (parts.take (index + 1)).flatten ++ List.replicate (room - count.toNat * layout.bytes) 0 := by
  have whole : array.elements.take count.toNat = array.elements := List.take_of_length_le counts.le
  apply copyArray_take _ _ here fits
  · rw [whole]
    exact part
  · rw [whole]
    exact counts

/-- An array that is one part of a message is read where its offset says. -/
theorem Place.read_part {values : List α} (part : parts[index]? = some (layout.putAll values))
    (counts : values.length = count.toNat) (here : offset.toNat = partPlace parts index) :
    Place.read layout count parts.flatten (some offset) = values := by
  rw [Place.read, here]
  exact layout.getAll_part part counts

/-- An array that is not pointed to when it has no elements. -/
theorem Place.read_part_ite {values : List α} (part : parts[index]? = some (layout.putAll values))
    (counts : values.length = count.toNat) (here : offset.toNat = partPlace parts index) :
    Place.read layout count parts.flatten (if count ≠ 0 then some offset else none) = values := by
  by_cases empty : count = 0
  · rw [if_neg (not_not.mpr empty)]
    rw [empty] at counts
    exact (List.eq_nil_of_length_eq_zero counts).symm
  · rw [if_pos empty]
    exact read_part part counts here

end Copies

/-- The parts of a submission message, one after the other. -/
def Submission.parts (submission : Submission Held) (wire : Submit) : List (List UInt8) :=
  [submitLayout.put wire, laneLayout.putAll submission.lanes.elements, Layout.uint32.putAll submission.tokenIds.elements,
    Layout.uint32.putAll submission.rowLaneIndices.elements, Layout.uint64.putAll submission.rowPositions.elements,
    Layout.uint64.putAll submission.rowSequenceIds.elements,
    cacheIdentityLayout.putAll submission.cacheBlockIdentities.elements,
    Layout.uint8.putAll submission.modelExtension.elements]

section Sending

variable {submission : Submission Held} {now : UInt64} {messageId : UInt64} {messageKind : UInt32}
  {clientGeneration : UInt64} {messageBytes : UInt32}

variable {wire : Submit}
  (isWire : wire = submitWire now submission messageId messageKind clientGeneration messageBytes)
include isWire

/-- The encoder puts every offset where the decoder looks for it. -/
theorem submitWire_places : SubmitPlaces wire := by
  subst isWire
  exact ⟨rfl, rfl, rfl, rfl, rfl, rfl, rfl⟩

omit isWire in
/-- Every array starts where the parts before it end. -/
structure PartPlaces (parts : List (List UInt8)) (wire : Submit) : Prop where
  lanes : wire.lanesOffset.toNat = partPlace parts 1
  tokenIds : wire.tokenIdsOffset.toNat = partPlace parts 2
  rowLaneIndices : wire.rowLaneIndicesOffset.toNat = partPlace parts 3
  rowPositions : wire.rowPositionsOffset.toNat = partPlace parts 4
  rowSequenceIds : wire.rowSequenceIdsOffset.toNat = partPlace parts 5
  identities : wire.cacheBlockIdentitiesOffset.toNat = partPlace parts 6
  extension : wire.modelExtensionOffset.toNat = partPlace parts 7

theorem submitWire_partPlaces (wellFormed : submission.WellFormed) :
    PartPlaces (submission.parts wire) wire := by
  have offsets := (submitWire_places isWire).offsets (by subst isWire; exact wellFormed.limits)
  have lanes : wire.laneCount = submission.laneCount := isWire ▸ rfl
  have rows : wire.rowCount = submission.rowCount := isWire ▸ rfl
  have identities : wire.cacheBlockIdentityCount = submission.cacheBlockIdentityCount := isWire ▸ rfl
  obtain ⟨lanesAt, tokenIdsAt, rowLaneIndicesAt, rowPositionsAt, rowSequenceIdsAt, identitiesAt, extensionAt⟩ := offsets
  rw [lanes] at tokenIdsAt
  rw [rows] at rowLaneIndicesAt rowPositionsAt rowSequenceIdsAt identitiesAt
  rw [identities] at extensionAt
  have four : Layout.uint32.bytes = 4 := rfl
  have eight : Layout.uint64.bytes = 8 := rfl
  constructor
  all_goals
    simp only [partPlace, Submission.parts, List.take_succ_cons, List.take_zero, List.map_cons, List.map_nil,
      List.sum_cons, List.sum_nil, Layout.length_put, Layout.length_putAll, four, eight, wellFormed.lanes,
      wellFormed.tokenIds, wellFormed.rowLaneIndices, wellFormed.rowPositions, wellFormed.rowSequenceIds,
      wellFormed.identities]
    omega

/-- A well-formed submission fills its buffer part by part. -/
theorem submitMessage_eq (wellFormed : submission.WellFormed)
    (size : messageBytes.toNat = submitSize submission.laneCount submission.rowCount submission.cacheBlockIdentityCount
      submission.modelExtensionBytes) :
    submitMessage submission wire = (submission.parts wire).flatten := by
  have bytes : wire.header.messageBytes = messageBytes := isWire ▸ rfl
  have places := submitWire_partPlaces isWire wellFormed
  have header := submitLayout.length_put wire
  unfold submitSize at size
  rw [submitLayout_bytes] at header size
  rw [laneLayout_bytes, cacheIdentityLayout_bytes] at size
  have four : Layout.uint32.bytes = 4 := rfl
  have eight : Layout.uint64.bytes = 8 := rfl
  have one : Layout.uint8.bytes = 1 := rfl
  have first : (submission.parts wire)[0]? = some (submitLayout.put wire) := rfl
  have start : overwrite (List.replicate messageBytes.toNat 0) 0 (submitLayout.put wire) =
      ((submission.parts wire).take 1).flatten ++
        List.replicate (messageBytes.toNat - (submitLayout.put wire).length) 0 :=
    overwrite_part first (by omega)
  unfold submitMessage
  dsimp only
  rw [bytes, start, copyArray_part rfl wellFormed.lanes places.lanes,
    copyArray_part rfl wellFormed.tokenIds places.tokenIds,
    copyArray_part rfl wellFormed.rowLaneIndices places.rowLaneIndices,
    copyArray_part rfl wellFormed.rowPositions places.rowPositions,
    copyArray_part rfl wellFormed.rowSequenceIds places.rowSequenceIds,
    copyArray_part rfl wellFormed.identities places.identities, copyArray_part rfl wellFormed.extension places.extension]
  · have full : messageBytes.toNat - (submitLayout.put wire).length - submission.laneCount.toNat * laneLayout.bytes -
        submission.rowCount.toNat * Layout.uint32.bytes - submission.rowCount.toNat * Layout.uint32.bytes -
        submission.rowCount.toNat * Layout.uint64.bytes - submission.rowCount.toNat * Layout.uint64.bytes -
        submission.cacheBlockIdentityCount.toNat * cacheIdentityLayout.bytes -
        submission.modelExtensionBytes.toNat * Layout.uint8.bytes = 0 := by
      rw [four, eight, one, laneLayout_bytes, cacheIdentityLayout_bytes]
      omega
    rw [full, List.replicate_zero, List.append_nil]
    rfl
  -- There is room for every array.
  all_goals
    simp only [four, eight, one, laneLayout_bytes, cacheIdentityLayout_bytes]
    omega

/-- Every array of a submission message is read back at its offset. -/
theorem carries_parts (wellFormed : submission.WellFormed) (received : UInt64) :
    Carries submission (submission.parts wire).flatten (submissionOf received wire) := by
  have places := submitWire_partPlaces isWire wellFormed
  have scalars : (submissionOf received wire).toSubmissionScalars = submission.toSubmissionScalars := by
    have abi := wellFormed.abi
    have descriptor := wellFormed.descriptor
    rw [isWire]
    unfold submissionOf submitWire
    dsimp only
    rw [← abi, ← descriptor]
  subst isWire
  refine ⟨scalars, ?_, ?_, ?_, ?_, ?_, ?_, ?_, wellFormed.boundary.symm⟩
  · exact Place.read_part rfl wellFormed.lanes places.lanes
  · exact Place.read_part rfl wellFormed.tokenIds places.tokenIds
  · exact Place.read_part rfl wellFormed.rowLaneIndices places.rowLaneIndices
  · exact Place.read_part rfl wellFormed.rowPositions places.rowPositions
  · exact Place.read_part rfl wellFormed.rowSequenceIds places.rowSequenceIds
  · exact Place.read_part_ite rfl wellFormed.identities places.identities
  · exact Place.read_part_ite rfl wellFormed.extension places.extension

omit isWire

/-- An array that has elements is not a null pointer. -/
theorem Held.isSome_of_elements {α : Type} {array : Held α} {count : UInt32}
    (counts : array.elements.length = count.toNat) (some : count ≠ 0) : array.isSome = true := by
  cases array with
  | none => exact absurd (UInt32.toNat_inj.mp counts.symm) some
  | some values => rfl

theorem validateHeader_initializeHeader {kind descriptorBytes messageBytes : UInt32} {messageId : UInt64}
    (named : messageId ≠ 0) (large : headerLayout.bytes ≤ messageBytes.toNat)
    (small : messageBytes.toNat ≤ maxMessageBytes) :
    validateHeader (initializeHeader kind descriptorBytes messageBytes messageId) messageBytes kind descriptorBytes =
      .ok () := by
  have size : ¬ (messageBytes.toNat < headerLayout.bytes ∨ maxMessageBytes < messageBytes.toNat) := by omega
  unfold validateHeader initializeHeader
  rw [if_neg size, if_neg (by simp), if_neg (by simp [named])]

theorem length_parts (wire : Submit) (wellFormed : submission.WellFormed) :
    (submission.parts wire).flatten.length =
      submitSize submission.laneCount submission.rowCount submission.cacheBlockIdentityCount
        submission.modelExtensionBytes := by
  have four : Layout.uint32.bytes = 4 := rfl
  have eight : Layout.uint64.bytes = 8 := rfl
  have one : Layout.uint8.bytes = 1 := rfl
  rw [List.length_flatten]
  simp only [Submission.parts, List.map_cons, List.map_nil, List.sum_cons, List.sum_nil, Layout.length_put,
    Layout.length_putAll, wellFormed.lanes, wellFormed.tokenIds, wellFormed.rowLaneIndices, wellFormed.rowPositions,
    wellFormed.rowSequenceIds, wellFormed.identities, wellFormed.extension, submitSize, four, eight, one]
  omega

variable (wellFormed : submission.WellFormed) (named : messageId ≠ 0)
  (kind : messageKind = kindSubmit ∨ messageKind = kindPrepare ∨ messageKind = kindContinue)
  (leased : messageKind = kindContinue ↔ clientGeneration ≠ 0)
include wellFormed named kind leased

theorem sendable_of_wellFormed :
    submission.sendable messageId messageKind clientGeneration = true := by
  have lanes := Held.isSome_of_elements wellFormed.lanes wellFormed.limits.lane
  have identities : submission.cacheBlockIdentityCount ≠ 0 ↔ submission.cacheBlockIdentities.isSome = true := by
    constructor
    · exact Held.isSome_of_elements wellFormed.identities
    · intro some none
      rw [wellFormed.noIdentities none] at some
      exact absurd some (by decide)
  apply decide_eq_true
  refine ⟨named, kind, leased, lanes, wellFormed.boundary, ?_, ?_, identities⟩
  · intro rows
    exact ⟨Held.isSome_of_elements wellFormed.tokenIds rows, Held.isSome_of_elements wellFormed.rowLaneIndices rows,
      Held.isSome_of_elements wellFormed.rowPositions rows, Held.isSome_of_elements wellFormed.rowSequenceIds rows⟩
  · exact Held.isSome_of_elements wellFormed.extension

/-- A well-formed submission is encoded part by part. -/
theorem encodeSubmissionKind_ok (now : UInt64) {messageCapacity : UInt32}
    (room : submitSize submission.laneCount submission.rowCount submission.cacheBlockIdentityCount
      submission.modelExtensionBytes ≤ messageCapacity.toNat) :
    ∃ messageBytes : UInt32, messageBytes.toNat = submitSize submission.laneCount submission.rowCount
        submission.cacheBlockIdentityCount submission.modelExtensionBytes ∧
      encodeSubmissionKind now submission messageId messageKind clientGeneration messageCapacity = .ok
        (submission.parts (submitWire now submission messageId messageKind clientGeneration messageBytes)).flatten := by
  obtain ⟨messageBytes, calculates, size⟩ := calculateSubmitBytes_ok wellFormed.limits
  refine ⟨messageBytes, size, ?_⟩
  have fits : ¬ messageCapacity < messageBytes := by
    rw [UInt32.lt_iff_toNat_lt, size]
    exact Nat.not_lt.mpr room
  have sends : ¬ submission.sendable messageId messageKind clientGeneration = false := by
    rw [sendable_of_wellFormed wellFormed named kind leased]
    exact nofun
  unfold encodeSubmissionKind
  rw [if_neg sends, calculates, ok_bind, if_neg fits, submitMessage_eq rfl wellFormed size]
  rfl

/-- The message that a well-formed submission is encoded to. -/
theorem decodeSubmission_parts (received : UInt64)
    (isWire : wire = submitWire now submission messageId messageKind clientGeneration messageBytes)
    (size : messageBytes.toNat = submitSize submission.laneCount submission.rowCount submission.cacheBlockIdentityCount
      submission.modelExtensionBytes) {message : Message} (bytes : message.bytes = (submission.parts wire).flatten) :
    decodeSubmission received message = .ok (submissionOf received wire) := by
  have header : submitLayout.get message.bytes = wire := by
    rw [bytes, Submission.parts, List.flatten_cons, submitLayout.get_put]
  have length : message.bytes.length = messageBytes.toNat := by
    rw [bytes, size]
    exact length_parts wire wellFormed
  have same : message.size = messageBytes := by
    apply UInt32.toNat_inj.mp
    rw [Message.size_toNat, length]
  have small := wellFormed.limits.size_le
  rw [← size] at small
  have large : submitLayout.bytes ≤ messageBytes.toNat := by
    rw [size]
    unfold submitSize
    omega
  have least : ¬ messageBytes < submitBytes := by
    rw [UInt32.lt_iff_toNat_lt]
    exact Nat.not_lt.mpr large
  have isKind : wire.header.kind = messageKind := isWire ▸ rfl
  have kinds : ¬ (wire.header.kind ≠ kindSubmit ∧ wire.header.kind ≠ kindPrepare ∧
      wire.header.kind ≠ kindContinue) := by
    rw [isKind]
    rintro ⟨submit, prepare, continue_⟩
    rcases kind with rfl | rfl | rfl
    · exact submit rfl
    · exact prepare rfl
    · exact continue_ rfl
  have layout : validateSubmitLayout wire messageBytes = .ok () := by
    rw [validateSubmitLayout_ok_iff]
    have places := submitWire_places isWire
    subst isWire
    exact ⟨⟨wellFormed.limits, size⟩, wellFormed.tokens, leased, places⟩
  have accepted : validateHeader wire.header messageBytes wire.header.kind submitBytes = .ok () := by
    rw [isWire]
    apply validateHeader_initializeHeader named _ small
    rw [headerLayout_bytes]
    rw [submitLayout_bytes] at large
    omega
  unfold decodeSubmission
  rw [same, if_neg least, header]
  dsimp only
  rw [if_neg kinds, accepted, ok_bind, layout, ok_bind]
  rfl

/-- A well-formed submission that is sent in any of the three kinds of message is received as it was. -/
theorem submission_received {messageCapacity : UInt32}
    (room : submitSize submission.laneCount submission.rowCount submission.cacheBlockIdentityCount
      submission.modelExtensionBytes ≤ messageCapacity.toNat) (sent received : UInt64) :
    ∃ (message : Message) (decoded : Submission Place),
      encodeSubmissionKind sent submission messageId messageKind clientGeneration messageCapacity = .ok message.bytes ∧
      decodeSubmission received message = .ok decoded ∧ Carries submission message.bytes decoded := by
  obtain ⟨messageBytes, size, encodes⟩ := encodeSubmissionKind_ok wellFormed named kind leased sent room
  have length := length_parts (submitWire sent submission messageId messageKind clientGeneration messageBytes) wellFormed
  rw [← size] at length
  refine ⟨⟨_, length.trans_lt messageBytes.toNat_lt⟩, _, encodes, ?_, carries_parts rfl wellFormed received⟩
  exact decodeSubmission_parts wellFormed named kind leased received rfl size rfl

end Sending

end Submissions

section Completions

/-- A completion that its adapter may hand over, with counts within the limits of a message. -/
structure ServingCompletion.WellFormed (completion : ServingCompletion) : Prop where
  abi : completion.abiVersion = adapterAbiVersion
  descriptor : completion.descriptorBytes = servingCompletionBytes
  logprobs : logprobsValid completion.tokenCount completion.logprobStride completion.logprobEntryCount = true
  limits : CompletionLimits completion.tokenCount completion.modelExtensionBytes completion.logprobEntryCount

/-- Two completions have the same scalar fields, and the same token ids, model extension and log
probabilities as far as these count them. -/
structure SameCompletion (completion decoded : ServingCompletion) : Prop where
  scalars : decoded.toCompletionScalars = completion.toCompletionScalars
  tokenIds : decoded.tokenIds.toList.take completion.tokenCount.toNat =
    completion.tokenIds.toList.take completion.tokenCount.toNat
  extension : decoded.modelExtension.toList.take completion.modelExtensionBytes.toNat =
    completion.modelExtension.toList.take completion.modelExtensionBytes.toNat
  logprobs : decoded.logprobs.toList.take completion.logprobEntryCount.toNat =
    completion.logprobs.toList.take completion.logprobEntryCount.toNat

/-- The zeros before the log probabilities. -/
def Completion.zeros (wire : Completion) : List UInt8 := List.replicate wire.padding.size 0

/-- The parts of a completion message, one after the other. -/
def ServingCompletion.parts (completion : ServingCompletion) (wire : Completion) : List (List UInt8) :=
  [completionLayout.put wire, Layout.uint32.putAll (completion.tokenIds.toList.take completion.tokenCount.toNat),
    Layout.uint8.putAll (completion.modelExtension.toList.take completion.modelExtensionBytes.toNat), wire.zeros,
    samplingLogprobLayout.putAll (completion.logprobs.toList.take completion.logprobEntryCount.toNat)]

variable {completion : ServingCompletion} {messageId : UInt64} {messageBytes : UInt32}

/-- The counted front of an array is as long as its count. -/
theorem length_front {α : Type} {capacity count : UInt32} (values : Vector α capacity.toNat)
    (within : count ≤ capacity) : (values.toList.take count.toNat).length = count.toNat := by
  rw [List.length_take, Vector.length_toList]
  exact Nat.min_eq_left (UInt32.le_iff_toNat_le.mp within)

/-- What is copied to the front of a fixed array is found there. -/
theorem front_fixedArray {α : Type} {capacity : Nat} {zero : α} {values : List α} (fits : values.length ≤ capacity) :
    (fixedArray capacity zero values).toList.take values.length = values := by
  apply List.ext_getElem
  · rw [List.length_take, Vector.length_toList]
    exact Nat.min_eq_left fits
  · intro index _ inside
    simp [fixedArray, inside]

/-- An array that is one part of a message is copied to the front of a fixed array. -/
theorem front_part {α : Type} {layout : Layout α} {parts : List (List UInt8)} {index capacity : Nat} {zero : α}
    {values : List α} {count offset : UInt32} (part : parts[index]? = some (layout.putAll values))
    (counts : values.length = count.toNat) (here : offset.toNat = partPlace parts index)
    (fits : count.toNat ≤ capacity) :
    (fixedArray capacity zero (layout.getAll count.toNat (parts.flatten.drop offset.toNat))).toList.take count.toNat =
      values := by
  rw [here, layout.getAll_part part counts, ← counts]
  exact front_fixedArray (counts.trans_le fits)

/-- Where the sections of a completion message are, as numbers that have not wrapped. -/
structure CompletionOffsets (completion : ServingCompletion) (wire : Completion) : Prop where
  tokenIds : wire.tokenIdsOffset.toNat = 224
  extension : wire.modelExtensionOffset.toNat = 224 + completion.tokenCount.toNat * 4
  logprobs : wire.logprobsOffset.toNat =
    (224 + completion.tokenCount.toNat * 4 + completion.modelExtensionBytes.toNat + 3) / 4 * 4
  padding : wire.padding.size = (224 + completion.tokenCount.toNat * 4 + completion.modelExtensionBytes.toNat + 3) / 4 * 4 -
    (224 + completion.tokenCount.toNat * 4 + completion.modelExtensionBytes.toNat)

theorem completionWire_offsets (wellFormed : completion.WellFormed) (messageId : UInt64) (messageBytes : UInt32) :
    CompletionOffsets completion (completionWire completion messageId messageBytes) := by
  have tokens : completion.tokenCount.toNat ≤ 1024 := UInt32.le_iff_toNat_le.mp wellFormed.limits.tokens
  have four : (4 : UInt32).toNat = 4 := rfl
  have start := completionBytes_toNat
  have extension : (completionBytes + completion.tokenCount * 4).toNat = 224 + completion.tokenCount.toNat * 4 := by
    rw [toNat_offset four (by omega), start]
  have logprobs := wellFormed.limits.logprobsOffset
  rw [completionLayout_bytes] at logprobs
  refine ⟨start, extension, logprobs, ?_⟩
  change (logprobsOffset completion.tokenCount completion.modelExtensionBytes).toNat -
    ((completionBytes + completion.tokenCount * 4).toNat + completion.modelExtensionBytes.toNat) = _
  rw [logprobs, extension]

/-- Every section starts where the parts before it end. -/
theorem CompletionOffsets.places {wire : Completion} (offsets : CompletionOffsets completion wire)
    (wellFormed : completion.WellFormed) :
    wire.tokenIdsOffset.toNat = partPlace (completion.parts wire) 1 ∧
      wire.modelExtensionOffset.toNat = partPlace (completion.parts wire) 2 ∧
      wire.logprobsOffset.toNat = partPlace (completion.parts wire) 4 := by
  have tokens := length_front completion.tokenIds wellFormed.limits.tokens
  have extension := length_front completion.modelExtension wellFormed.limits.extension
  have four : Layout.uint32.bytes = 4 := rfl
  have one : Layout.uint8.bytes = 1 := rfl
  obtain ⟨tokenIdsAt, extensionAt, logprobsAt, padding⟩ := offsets
  refine ⟨?_, ?_, ?_⟩
  all_goals
    simp only [partPlace, ServingCompletion.parts, Completion.zeros, List.take_succ_cons, List.take_zero, List.map_cons,
      List.map_nil, List.sum_cons, List.sum_nil, Layout.length_put, Layout.length_putAll, List.length_replicate,
      completionLayout_bytes, four, one, tokens, extension, padding]
    omega

variable (wellFormed : completion.WellFormed)
include wellFormed

theorem completion_length_parts (messageId : UInt64) (messageBytes : UInt32) :
    (completion.parts (completionWire completion messageId messageBytes)).flatten.length =
      completionSize completion.tokenCount completion.modelExtensionBytes completion.logprobEntryCount := by
  have tokens := length_front completion.tokenIds wellFormed.limits.tokens
  have extension := length_front completion.modelExtension wellFormed.limits.extension
  have logprobs := length_front completion.logprobs wellFormed.limits.logprobs
  have padding := (completionWire_offsets wellFormed messageId messageBytes).padding
  have four : Layout.uint32.bytes = 4 := rfl
  have one : Layout.uint8.bytes = 1 := rfl
  rw [List.length_flatten]
  simp only [ServingCompletion.parts, Completion.zeros, List.map_cons, List.map_nil, List.sum_cons, List.sum_nil,
    Layout.length_put, Layout.length_putAll, List.length_replicate, completionLayout_bytes, samplingLogprobLayout_bytes,
    four, one, tokens, extension, logprobs, padding, completionSize]
  omega

/-- A completion fills its buffer part by part. -/
theorem completionMessage_eq (size : messageBytes.toNat =
      completionSize completion.tokenCount completion.modelExtensionBytes completion.logprobEntryCount) :
    completionMessage completion (completionWire completion messageId messageBytes) =
      (completion.parts (completionWire completion messageId messageBytes)).flatten := by
  have offsets := completionWire_offsets wellFormed messageId messageBytes
  have bytes : (completionWire completion messageId messageBytes).header.messageBytes = messageBytes := rfl
  generalize completionWire completion messageId messageBytes = wire at offsets bytes
  obtain ⟨tokenIdsAt, extensionAt, logprobsAt⟩ := offsets.places wellFormed
  have padding := offsets.padding
  have tokens := length_front completion.tokenIds wellFormed.limits.tokens
  have extension := length_front completion.modelExtension wellFormed.limits.extension
  have logprobs := length_front completion.logprobs wellFormed.limits.logprobs
  have four : Layout.uint32.bytes = 4 := rfl
  have one : Layout.uint8.bytes = 1 := rfl
  have header := completionLayout.length_put wire
  have ids := Layout.uint32.length_putAll (completion.tokenIds.toList.take completion.tokenCount.toNat)
  unfold completionSize at size
  rw [completionLayout_bytes] at header size
  rw [samplingLogprobLayout_bytes] at size
  rw [tokens, four] at ids
  have first : (completion.parts wire)[0]? = some (completionLayout.put wire) := rfl
  have second : (completion.parts wire)[1]? =
    some (Layout.uint32.putAll (completion.tokenIds.toList.take completion.tokenCount.toNat)) := rfl
  have third : (completion.parts wire)[3]? = some wire.zeros := rfl
  have start : overwrite (List.replicate messageBytes.toNat 0) 0 (completionLayout.put wire) =
      ((completion.parts wire).take 1).flatten ++
        List.replicate (messageBytes.toNat - (completionLayout.put wire).length) 0 :=
    overwrite_part first (by omega)
  have room : messageBytes.toNat - 224 - completion.tokenCount.toNat * 4 - completion.modelExtensionBytes.toNat =
      wire.padding.size + completion.logprobEntryCount.toNat * 8 := by omega
  unfold completionMessage
  dsimp only
  rw [bytes, start, tokenIdsAt, overwrite_part second (by omega), copyArray_take rfl extension extensionAt, header, ids,
    one, Nat.mul_one, room, List.replicate_add, ← List.append_assoc]
  · have zeros : ((completion.parts wire).take (2 + 1)).flatten ++ List.replicate wire.padding.size 0 =
        ((completion.parts wire).take 4).flatten := (flatten_take_succ third).symm
    have last : copyArray samplingLogprobLayout completion.logprobEntryCount (some completion.logprobs.toList)
        wire.logprobsOffset (((completion.parts wire).take 4).flatten ++
          List.replicate (completion.logprobEntryCount.toNat * 8) 0) =
        ((completion.parts wire).take 5).flatten ++
          List.replicate (completion.logprobEntryCount.toNat * 8 - completion.logprobEntryCount.toNat * 8) 0 :=
      copyArray_take rfl logprobs logprobsAt (Nat.le_refl _)
    rw [zeros, last, Nat.sub_self, List.replicate_zero, List.append_nil]
    rfl
  · rw [header, ids, one]
    omega

theorem encodeCompletion_ok (named : messageId ≠ 0) {messageCapacity : UInt32}
    (room : completionSize completion.tokenCount completion.modelExtensionBytes completion.logprobEntryCount ≤
      messageCapacity.toNat) :
    ∃ messageBytes : UInt32, messageBytes.toNat =
        completionSize completion.tokenCount completion.modelExtensionBytes completion.logprobEntryCount ∧
      encodeCompletion completion messageId messageCapacity =
        .ok (completion.parts (completionWire completion messageId messageBytes)).flatten := by
  have below := wellFormed.limits.size_le
  have small : completionSize completion.tokenCount completion.modelExtensionBytes completion.logprobEntryCount < 2 ^ 32 :=
    Nat.lt_of_le_of_lt below (by decide)
  have size := UInt32.toNat_ofNat_of_lt' small
  have calculates := calculateCompletionBytes_ok_iff.mpr ⟨wellFormed.limits, size⟩
  have fits : ¬ messageCapacity < UInt32.ofNat
      (completionSize completion.tokenCount completion.modelExtensionBytes completion.logprobEntryCount) := by
    rw [UInt32.lt_iff_toNat_lt, size]
    exact Nat.not_lt.mpr room
  have sends : ¬ (messageId = 0 ∨ completion.abiVersion ≠ adapterAbiVersion ∨
      completion.descriptorBytes ≠ servingCompletionBytes ∨
      logprobsValid completion.tokenCount completion.logprobStride completion.logprobEntryCount = false) := by
    rintro (none | abi | descriptor | invalid)
    · exact named none
    · exact abi wellFormed.abi
    · exact descriptor wellFormed.descriptor
    · exact Bool.noConfusion (invalid.symm.trans wellFormed.logprobs)
  refine ⟨_, size, ?_⟩
  unfold encodeCompletion
  rw [if_neg sends, calculates, ok_bind, if_neg fits, completionMessage_eq wellFormed size]
  rfl

/-- The message that a completion is encoded to. -/
theorem decodeCompletion_parts (named : messageId ≠ 0)
    (size : messageBytes.toNat =
      completionSize completion.tokenCount completion.modelExtensionBytes completion.logprobEntryCount)
    {message : Message}
    (bytes : message.bytes = (completion.parts (completionWire completion messageId messageBytes)).flatten) :
    decodeCompletion message = .ok (completionOf (completionWire completion messageId messageBytes) message.bytes) := by
  have header : completionLayout.get message.bytes = completionWire completion messageId messageBytes := by
    rw [bytes, ServingCompletion.parts, List.flatten_cons, completionLayout.get_put]
  have same : message.size = messageBytes := by
    apply UInt32.toNat_inj.mp
    rw [Message.size_toNat, bytes, size]
    exact completion_length_parts wellFormed messageId messageBytes
  have small := wellFormed.limits.size_le
  rw [← size] at small
  have large : 224 ≤ messageBytes.toNat := by
    rw [size]
    unfold completionSize
    rw [completionLayout_bytes]
    omega
  have least : ¬ messageBytes < completionBytes := by
    rw [UInt32.lt_iff_toNat_lt, completionBytes_toNat]
    exact Nat.not_lt.mpr large
  have accepted : validateHeader (completionWire completion messageId messageBytes).header messageBytes kindCompletion
      completionBytes = .ok () := by
    apply validateHeader_initializeHeader named _ small
    rw [headerLayout_bytes]
    omega
  have offsets := completionWire_offsets wellFormed messageId messageBytes
  have valid : validateCompletion (completionWire completion messageId messageBytes) messageBytes = .ok () := by
    rw [validateCompletion_ok_iff]
    refine ⟨accepted, wellFormed.logprobs, ⟨wellFormed.limits, size⟩, rfl, ?_, rfl, rfl⟩
    rw [offsets.extension, offsets.tokenIds]
    rfl
  unfold decodeCompletion
  rw [same, if_neg least, header]
  dsimp only
  rw [valid, ok_bind]
  rfl

/-- Every array of a completion message is read back at its offset. -/
theorem same_parts (messageId : UInt64) (messageBytes : UInt32) :
    SameCompletion completion (completionOf (completionWire completion messageId messageBytes)
      (completion.parts (completionWire completion messageId messageBytes)).flatten) := by
  obtain ⟨tokenIdsAt, extensionAt, logprobsAt⟩ :=
    (completionWire_offsets wellFormed messageId messageBytes).places wellFormed
  have tokens := length_front completion.tokenIds wellFormed.limits.tokens
  have extension := length_front completion.modelExtension wellFormed.limits.extension
  have logprobs := length_front completion.logprobs wellFormed.limits.logprobs
  have scalars : (completionOf (completionWire completion messageId messageBytes)
      (completion.parts (completionWire completion messageId messageBytes)).flatten).toCompletionScalars =
      completion.toCompletionScalars := by
    have abi := wellFormed.abi
    have descriptor := wellFormed.descriptor
    unfold completionOf completionWire
    dsimp only
    rw [← abi, ← descriptor]
  refine ⟨scalars, ?_, ?_, ?_⟩
  · exact front_part rfl tokens tokenIdsAt (UInt32.le_iff_toNat_le.mp wellFormed.limits.tokens)
  · exact front_part rfl extension extensionAt (UInt32.le_iff_toNat_le.mp wellFormed.limits.extension)
  · exact front_part rfl logprobs logprobsAt (UInt32.le_iff_toNat_le.mp wellFormed.limits.logprobs)

/-- A completion that is sent is received as it was. -/
theorem completion_received (named : messageId ≠ 0) {messageCapacity : UInt32}
    (room : completionSize completion.tokenCount completion.modelExtensionBytes completion.logprobEntryCount ≤
      messageCapacity.toNat) :
    ∃ (message : Message) (decoded : ServingCompletion),
      encodeCompletion completion messageId messageCapacity = .ok message.bytes ∧
      decodeCompletion message = .ok decoded ∧ SameCompletion completion decoded := by
  obtain ⟨messageBytes, size, encodes⟩ := encodeCompletion_ok wellFormed named room
  have length := completion_length_parts wellFormed messageId messageBytes
  rw [← size] at length
  refine ⟨⟨_, length.trans_lt messageBytes.toNat_lt⟩, _, encodes, ?_, same_parts wellFormed messageId messageBytes⟩
  exact decodeCompletion_parts wellFormed named size rfl

end Completions

section Messages

/-- Submissions of all three kinds and completions are received as they were sent, and whatever bytes a decoder
is given, what it accepts lies in the message, section after section. -/
theorem messages_received :
    (∀ (submission : Submission Held) (messageId : UInt64) (messageKind : UInt32) (clientGeneration : UInt64)
      (messageCapacity : UInt32) (sent received : UInt64), submission.WellFormed → messageId ≠ 0 →
      (messageKind = kindSubmit ∨ messageKind = kindPrepare ∨ messageKind = kindContinue) →
      (messageKind = kindContinue ↔ clientGeneration ≠ 0) →
      submitSize submission.laneCount submission.rowCount submission.cacheBlockIdentityCount
        submission.modelExtensionBytes ≤ messageCapacity.toNat →
      ∃ (message : Message) (decoded : Submission Place),
        encodeSubmissionKind sent submission messageId messageKind clientGeneration messageCapacity = .ok message.bytes ∧
        decodeSubmission received message = .ok decoded ∧ Carries submission message.bytes decoded) ∧
    (∀ (completion : ServingCompletion) (messageId : UInt64) (messageCapacity : UInt32), completion.WellFormed →
      messageId ≠ 0 →
      completionSize completion.tokenCount completion.modelExtensionBytes completion.logprobEntryCount ≤
        messageCapacity.toNat →
      ∃ (message : Message) (decoded : ServingCompletion),
        encodeCompletion completion messageId messageCapacity = .ok message.bytes ∧
        decodeCompletion message = .ok decoded ∧ SameCompletion completion decoded) ∧
    (∀ (now : UInt64) (message : Message) (decoded : Submission Place), decodeSubmission now message = .ok decoded →
      message.bytes.length ≤ maxMessageBytes ∧ Fills submitLayout.bytes decoded.spans message.bytes.length) ∧
    (∀ (message : Message) (decoded : ServingCompletion), decodeCompletion message = .ok decoded →
      ∃ wire, decoded = completionOf wire message.bytes ∧ wire.padding.size ≤ 3 ∧
        message.bytes.length ≤ maxMessageBytes ∧ Fills completionLayout.bytes wire.spans message.bytes.length) := by
  refine ⟨?_, ?_, ?_, ?_⟩
  · intro submission messageId messageKind clientGeneration messageCapacity sent received wellFormed named kind leased room
    exact submission_received wellFormed named kind leased room sent received
  · intro completion messageId messageCapacity wellFormed named room
    exact completion_received wellFormed named room
  · intro now message decoded accepts
    exact decodeSubmission_fills accepts
  · intro message decoded accepts
    exact decodeCompletion_fills accepts

def oneLane : Lane where
  requestId := 21
  requestGeneration := 1
  stepGeneration := 1
  sequenceId := 31
  sequencePosition := 9
  residentSequenceSlot := 7
  contextTokenCount := 10
  inputTokenId := 100
  flags := 1
  cachePrefixTokenCount := 0
  cachePublishTokenCount := 0
  cacheBlockIdentityFirst := 0
  cacheBlockIdentityCount := 0
  stateTargetTokenCount := 0
  reserved := 0
  cachePrefixIdentity := ⟨.replicate 32 0⟩
  cachePublishIdentity := ⟨.replicate 32 0⟩
  sampling := { seed := 0, inverseTemperature := 0, nucleus := 0, topK := 0, logprobs := 0 }

/-- A decode step of one lane. -/
def oneRow : Submission Held where
  abiVersion := adapterAbiVersion
  descriptorBytes := servingSubmissionBytes
  workKind := 2
  flags := 0
  submissionId := 44
  requestId := 50
  sequenceId := 31
  sequencePosition := 9
  controlGeneration := 1
  transactionId := 2
  dispatchGeneration := 3
  requestGeneration := 4
  stepGeneration := 5
  priority := 0
  activeSequenceCount := 1
  newTokenCount := 1
  laneCount := 1
  rowCount := 1
  tokenCount := 1
  tokensPerSequence := 1
  modelExtensionKind := 9
  modelExtensionBytes := 3
  cacheBlockIdentityCount := 1
  residency := { word0 := 1, word1 := 2, generation := 17, owner := 29 }
  deadlineTimeNs := 5000000000
  lanes := some [oneLane]
  tokenIds := some [100]
  rowLaneIndices := some [0]
  rowPositions := some [9]
  rowSequenceIds := some [31]
  modelExtension := some [4, 5, 6]
  cacheBlockIdentities := some [⟨.replicate 32 6⟩]

theorem oneRow_wellFormed : oneRow.WellFormed where
  abi := rfl
  descriptor := rfl
  tokens := rfl
  limits := ⟨by decide, by decide, by decide, by decide, by decide, by decide⟩
  lanes := rfl
  tokenIds := rfl
  rowLaneIndices := rfl
  rowPositions := rfl
  rowSequenceIds := rfl
  identities := rfl
  noIdentities none := absurd none (by decide)
  extension := rfl
  boundary := rfl

theorem messages_received_oneRow : ∃ (message : Message) (decoded : Submission Place),
    encodeSubmissionKind 0 oneRow 7 kindContinue 13 8192 = .ok message.bytes ∧
      decodeSubmission 9 message = .ok decoded ∧ Carries oneRow message.bytes decoded ∧
      Fills submitLayout.bytes decoded.spans message.bytes.length := by
  have kind : kindContinue = kindSubmit ∨ kindContinue = kindPrepare ∨ kindContinue = kindContinue := .inr (.inr rfl)
  have leased : kindContinue = kindContinue ↔ (13 : UInt64) ≠ 0 := by decide
  obtain ⟨message, decoded, encodes, decodes, carries⟩ :=
    messages_received.1 oneRow 7 kindContinue 13 8192 0 9 oneRow_wellFormed (by decide) kind leased (by decide)
  exact ⟨message, decoded, encodes, decodes, carries, (messages_received.2.2.1 9 message decoded decodes).2⟩

end Messages

end Sparkpipe.ModelResidentIpc
