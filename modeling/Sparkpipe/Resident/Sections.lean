import Sparkpipe.Resident.Codec

/-!
# The sections of a message

A decoder returns only what lies in the message: whatever bytes it is given, the sections that
it follows are laid end to end behind the header record and fill the message, so no offset has
wrapped.
-/

namespace Sparkpipe.ModelResidentIpc

open Sparkpipe.Bytes

section Sizes

@[simp] theorem submitBytes_toNat : submitBytes.toNat = 232 := rfl

@[simp] theorem completionBytes_toNat : completionBytes.toNat = 224 := rfl

@[simp] theorem laneBytes_toNat : laneBytes.toNat = 168 := rfl

@[simp] theorem cacheIdentityBytes_toNat : cacheIdentityBytes.toNat = 32 := rfl

@[simp] theorem samplingLogprobBytes_toNat : samplingLogprobBytes.toNat = 8 := rfl

/-- An offset that stays below 2 ^ 32 goes on without wrapping. -/
theorem toNat_offset {offset count bytes : UInt32} {size : Nat} (element : bytes.toNat = size)
    (room : offset.toNat + count.toNat * size < 2 ^ 32) :
    (offset + count * bytes).toNat = offset.toNat + count.toNat * size := by
  subst element
  have product : count.toNat * bytes.toNat < 2 ^ 32 := by omega
  rw [UInt32.toNat_add, UInt32.toNat_mul, Nat.mod_eq_of_lt product, Nat.mod_eq_of_lt room]

/-- A sum within the limit of a message does not wrap. -/
theorem addBytes_ok (total count : UInt32) {elementBytes : UInt32} {size : Nat} (element : elementBytes.toNat = size)
    (fits : total.toNat + count.toNat * size ≤ maxMessageBytes) :
    ∃ sum : UInt32, addBytes total count elementBytes = .ok sum ∧ sum.toNat = total.toNat + count.toNat * size := by
  subst element
  have room : total.toNat + count.toNat * elementBytes.toNat < 2 ^ 32 := Nat.lt_of_le_of_lt fits (by decide)
  refine ⟨_, if_neg (Nat.not_lt.mpr fits), ?_⟩
  exact UInt32.toNat_ofNat_of_lt' room

theorem of_addBytes_ok {total count elementBytes sum : UInt32} {size : Nat} (element : elementBytes.toNat = size)
    (adds : addBytes total count elementBytes = .ok sum) :
    total.toNat + count.toNat * size ≤ maxMessageBytes ∧ sum.toNat = total.toNat + count.toNat * size := by
  subst element
  by_cases fits : total.toNat + count.toNat * elementBytes.toNat ≤ maxMessageBytes
  · obtain ⟨same, equal, value⟩ := addBytes_ok total count rfl fits
    have here := Except.ok.inj (adds.symm.trans equal)
    exact ⟨fits, here ▸ value⟩
  · unfold addBytes at adds
    rw [if_pos (Nat.lt_of_not_le fits)] at adds
    exact nomatch adds

/-- The next step of a decoder runs when the step before it has accepted. -/
theorem bind_ok_iff {α β : Type} {call : Except SparkStatus α} {rest : α → Except SparkStatus β} {result : β} :
    (call >>= rest) = .ok result ↔ ∃ value, call = .ok value ∧ rest value = .ok result := by
  cases call with
  | error status => exact ⟨(fun same => nomatch same), (fun ⟨_, same, _⟩ => nomatch same)⟩
  | ok value => exact ⟨fun same => ⟨value, rfl, same⟩, fun ⟨_, same, ends⟩ => Except.ok.inj same ▸ ends⟩

/-- A check that refuses with a status passes when its condition is false. -/
theorem check_ok_iff {α : Type} {refused : Prop} [Decidable refused] {status : SparkStatus} {rest : Except SparkStatus α}
    {result : α} : (if refused then .error status else rest) = .ok result ↔ ¬ refused ∧ rest = .ok result := by
  by_cases fails : refused
  · rw [if_pos fails]
    exact ⟨(fun same => nomatch same), (fun both => absurd fails both.1)⟩
  · rw [if_neg fails]
    exact ⟨fun same => ⟨fails, same⟩, And.right⟩

@[simp]
theorem ok_bind {α β : Type} (value : α) (rest : α → Except SparkStatus β) : (Except.ok value >>= rest) = rest value :=
  rfl

end Sizes

section Submissions

/-- The counts that a submission message may have. -/
structure SubmitLimits (laneCount rowCount cacheBlockIdentityCount modelExtensionBytes : UInt32) : Prop where
  lane : laneCount ≠ 0
  lanes : laneCount ≤ maxActiveSequenceCount
  rows : rowCount ≤ maxInputRowCount
  identitiesInRows : cacheBlockIdentityCount ≤ rowCount
  identities : cacheBlockIdentityCount ≤ maxCacheBlockIdentityCount
  extension : modelExtensionBytes ≤ maxExtensionBytes

/-- The bytes of a submission message with such counts. -/
def submitSize (laneCount rowCount cacheBlockIdentityCount modelExtensionBytes : UInt32) : Nat :=
  submitLayout.bytes + laneCount.toNat * laneLayout.bytes + rowCount.toNat * (4 + 4 + 8 + 8) +
    cacheBlockIdentityCount.toNat * cacheIdentityLayout.bytes + modelExtensionBytes.toNat

/-- The offsets of a submission message follow each other as its counts say. -/
structure SubmitPlaces (wire : Submit) : Prop where
  lanes : wire.lanesOffset = submitBytes
  tokenIds : wire.tokenIdsOffset = wire.lanesOffset + wire.laneCount * laneBytes
  rowLaneIndices : wire.rowLaneIndicesOffset = wire.tokenIdsOffset + wire.rowCount * 4
  rowPositions : wire.rowPositionsOffset = wire.rowLaneIndicesOffset + wire.rowCount * 4
  rowSequenceIds : wire.rowSequenceIdsOffset = wire.rowPositionsOffset + wire.rowCount * 8
  cacheBlockIdentities : wire.cacheBlockIdentitiesOffset = wire.rowSequenceIdsOffset + wire.rowCount * 8
  modelExtension : wire.modelExtensionOffset =
    wire.cacheBlockIdentitiesOffset + wire.cacheBlockIdentityCount * cacheIdentityBytes

/-- The same offsets as numbers that have not wrapped. -/
structure SubmitOffsets (wire : Submit) : Prop where
  lanes : wire.lanesOffset.toNat = submitLayout.bytes
  tokenIds : wire.tokenIdsOffset.toNat = wire.lanesOffset.toNat + wire.laneCount.toNat * laneLayout.bytes
  rowLaneIndices : wire.rowLaneIndicesOffset.toNat = wire.tokenIdsOffset.toNat + wire.rowCount.toNat * 4
  rowPositions : wire.rowPositionsOffset.toNat = wire.rowLaneIndicesOffset.toNat + wire.rowCount.toNat * 4
  rowSequenceIds : wire.rowSequenceIdsOffset.toNat = wire.rowPositionsOffset.toNat + wire.rowCount.toNat * 8
  cacheBlockIdentities : wire.cacheBlockIdentitiesOffset.toNat =
    wire.rowSequenceIdsOffset.toNat + wire.rowCount.toNat * 8
  modelExtension : wire.modelExtensionOffset.toNat =
    wire.cacheBlockIdentitiesOffset.toNat + wire.cacheBlockIdentityCount.toNat * cacheIdentityLayout.bytes

variable {laneCount rowCount cacheBlockIdentityCount modelExtensionBytes : UInt32}

/-- The largest submission fits into a message. -/
theorem SubmitLimits.size_le
    (limits : SubmitLimits laneCount rowCount cacheBlockIdentityCount modelExtensionBytes) :
    submitSize laneCount rowCount cacheBlockIdentityCount modelExtensionBytes ≤ maxMessageBytes := by
  have lanes : laneCount.toNat ≤ 1024 := UInt32.le_iff_toNat_le.mp limits.lanes
  have rows : rowCount.toNat ≤ 65536 := UInt32.le_iff_toNat_le.mp limits.rows
  have identities : cacheBlockIdentityCount.toNat ≤ 4096 := UInt32.le_iff_toNat_le.mp limits.identities
  have extension : modelExtensionBytes.toNat ≤ 512 := UInt32.le_iff_toNat_le.mp limits.extension
  unfold submitSize maxMessageBytes
  rw [submitLayout_bytes, laneLayout_bytes, cacheIdentityLayout_bytes]
  omega

theorem SubmitPlaces.offsets {wire : Submit} (places : SubmitPlaces wire)
    (limits : SubmitLimits wire.laneCount wire.rowCount wire.cacheBlockIdentityCount wire.modelExtensionBytes) :
    SubmitOffsets wire := by
  have size := limits.size_le
  unfold submitSize maxMessageBytes at size
  rw [submitLayout_bytes, laneLayout_bytes, cacheIdentityLayout_bytes] at size
  have lanes : wire.lanesOffset.toNat = 232 := by rw [places.lanes, submitBytes_toNat]
  have tokenIds : wire.tokenIdsOffset.toNat = wire.lanesOffset.toNat + wire.laneCount.toNat * 168 := by
    rw [places.tokenIds]
    exact toNat_offset laneBytes_toNat (by omega)
  have rowLaneIndices : wire.rowLaneIndicesOffset.toNat = wire.tokenIdsOffset.toNat + wire.rowCount.toNat * 4 := by
    rw [places.rowLaneIndices]
    exact toNat_offset rfl (by omega)
  have rowPositions : wire.rowPositionsOffset.toNat = wire.rowLaneIndicesOffset.toNat + wire.rowCount.toNat * 4 := by
    rw [places.rowPositions]
    exact toNat_offset rfl (by omega)
  have rowSequenceIds : wire.rowSequenceIdsOffset.toNat = wire.rowPositionsOffset.toNat + wire.rowCount.toNat * 8 := by
    rw [places.rowSequenceIds]
    exact toNat_offset rfl (by omega)
  have cacheBlockIdentities : wire.cacheBlockIdentitiesOffset.toNat =
      wire.rowSequenceIdsOffset.toNat + wire.rowCount.toNat * 8 := by
    rw [places.cacheBlockIdentities]
    exact toNat_offset rfl (by omega)
  have modelExtension : wire.modelExtensionOffset.toNat =
      wire.cacheBlockIdentitiesOffset.toNat + wire.cacheBlockIdentityCount.toNat * 32 := by
    rw [places.modelExtension]
    exact toNat_offset cacheIdentityBytes_toNat (by omega)
  exact ⟨lanes, tokenIds, rowLaneIndices, rowPositions, rowSequenceIds, cacheBlockIdentities, modelExtension⟩

theorem calculateSubmitBytes_ok (limits : SubmitLimits laneCount rowCount cacheBlockIdentityCount modelExtensionBytes) :
    ∃ total, calculateSubmitBytes laneCount rowCount cacheBlockIdentityCount modelExtensionBytes = .ok total ∧
      total.toNat = submitSize laneCount rowCount cacheBlockIdentityCount modelExtensionBytes := by
  have size := limits.size_le
  unfold submitSize at size ⊢
  rw [submitLayout_bytes, laneLayout_bytes, cacheIdentityLayout_bytes] at size ⊢
  have start := submitBytes_toNat
  have one : (1 : UInt32).toNat = 1 := rfl
  have four : (4 : UInt32).toNat = 4 := rfl
  have eight : (8 : UInt32).toNat = 8 := rfl
  have within : ¬ (laneCount = 0 ∨ maxActiveSequenceCount < laneCount ∨ maxInputRowCount < rowCount ∨
      rowCount < cacheBlockIdentityCount ∨ maxCacheBlockIdentityCount < cacheBlockIdentityCount ∨
      maxExtensionBytes < modelExtensionBytes) := by
    rintro (none | lanes | rows | inRows | identities | extension)
    · exact limits.lane none
    · exact UInt32.not_lt.mpr limits.lanes lanes
    · exact UInt32.not_lt.mpr limits.rows rows
    · exact UInt32.not_lt.mpr limits.identitiesInRows inRows
    · exact UInt32.not_lt.mpr limits.identities identities
    · exact UInt32.not_lt.mpr limits.extension extension
  unfold calculateSubmitBytes
  rw [if_neg within]
  obtain ⟨tokens, adds, tokensAt⟩ := addBytes_ok submitBytes laneCount laneBytes_toNat (by omega)
  rw [adds, ok_bind]
  obtain ⟨lanes, adds, lanesAt⟩ := addBytes_ok tokens rowCount four (by omega)
  rw [adds, ok_bind]
  obtain ⟨positions, adds, positionsAt⟩ := addBytes_ok lanes rowCount four (by omega)
  rw [adds, ok_bind]
  obtain ⟨sequences, adds, sequencesAt⟩ := addBytes_ok positions rowCount eight (by omega)
  rw [adds, ok_bind]
  obtain ⟨identities, adds, identitiesAt⟩ := addBytes_ok sequences rowCount eight (by omega)
  rw [adds, ok_bind]
  obtain ⟨extension, adds, extensionAt⟩ :=
    addBytes_ok identities cacheBlockIdentityCount cacheIdentityBytes_toNat (by omega)
  rw [adds, ok_bind]
  obtain ⟨total, adds, totalIs⟩ := addBytes_ok extension modelExtensionBytes one (by omega)
  exact ⟨total, adds, by omega⟩

/-- The size of a submission message is worked out exactly for counts within the limits. -/
theorem calculateSubmitBytes_ok_iff {total : UInt32} :
    calculateSubmitBytes laneCount rowCount cacheBlockIdentityCount modelExtensionBytes = .ok total ↔
      SubmitLimits laneCount rowCount cacheBlockIdentityCount modelExtensionBytes ∧
        total.toNat = submitSize laneCount rowCount cacheBlockIdentityCount modelExtensionBytes := by
  constructor
  · intro calculates
    have limits : SubmitLimits laneCount rowCount cacheBlockIdentityCount modelExtensionBytes := by
      by_contra beyond
      unfold calculateSubmitBytes at calculates
      rw [check_ok_iff] at calculates
      simp only [not_or, UInt32.not_lt] at calculates
      obtain ⟨⟨lane, lanes, rows, inRows, identities, extension⟩, _⟩ := calculates
      exact beyond ⟨lane, lanes, rows, inRows, identities, extension⟩
    obtain ⟨sum, equal, value⟩ := calculateSubmitBytes_ok limits
    exact ⟨limits, Except.ok.inj (calculates.symm.trans equal) ▸ value⟩
  · rintro ⟨limits, value⟩
    obtain ⟨sum, equal, same⟩ := calculateSubmitBytes_ok limits
    rw [equal, UInt32.toNat_inj.mp (value.trans same.symm)]

/-- The decoder accepts a header record whose counts are within the limits and give the size of the
message, with every offset where the counts put it. -/
theorem validateSubmitLayout_ok_iff {wire : Submit} {messageBytes : UInt32} :
    validateSubmitLayout wire messageBytes = .ok () ↔
      (SubmitLimits wire.laneCount wire.rowCount wire.cacheBlockIdentityCount wire.modelExtensionBytes ∧
        messageBytes.toNat =
          submitSize wire.laneCount wire.rowCount wire.cacheBlockIdentityCount wire.modelExtensionBytes) ∧
      wire.tokenCount = wire.rowCount ∧ (wire.header.kind = kindContinue ↔ wire.clientGeneration ≠ 0) ∧
      SubmitPlaces wire := by
  have ends (offset : UInt32) : (if wire.modelExtensionOffset = offset then .ok ()
      else .error SparkStatus.schemaError) = (Except.ok () : Except SparkStatus Unit) ↔
      wire.modelExtensionOffset = offset := by
    rw [← ite_not, check_ok_iff, not_not, and_iff_left rfl]
  unfold validateSubmitLayout
  simp only [bind_ok_iff, check_ok_iff, ends, not_or, not_not, calculateSubmitBytes_ok_iff]
  constructor
  · rintro ⟨expected, sizes, ⟨rfl, tokens, continues⟩, lanes, tokenIds, rowLaneIndices, rowPositions, rowSequenceIds,
      identities, extension⟩
    rw [← lanes] at tokenIds rowLaneIndices rowPositions rowSequenceIds identities extension
    rw [← tokenIds] at rowLaneIndices rowPositions rowSequenceIds identities extension
    rw [← rowLaneIndices] at rowPositions rowSequenceIds identities extension
    rw [← rowPositions] at rowSequenceIds identities extension
    rw [← rowSequenceIds] at identities extension
    rw [← identities] at extension
    exact ⟨sizes, tokens, continues,
      ⟨lanes, tokenIds, rowLaneIndices, rowPositions, rowSequenceIds, identities, extension⟩⟩
  · rintro ⟨sizes, tokens, continues, places⟩
    refine ⟨messageBytes, sizes, ⟨rfl, tokens, continues⟩, places.lanes, ?_⟩
    rw [← places.lanes, ← places.tokenIds, ← places.rowLaneIndices, ← places.rowPositions, ← places.rowSequenceIds,
      ← places.cacheBlockIdentities, ← places.modelExtension]
    exact ⟨rfl, rfl, rfl, rfl, rfl, rfl⟩

/-- The bytes of a message that a pointer and a count speak of. -/
def Place.spans {α : Type} (layout : Layout α) (count : UInt32) : Place α → List Span
  | none => []
  | some offset => [{ start := offset.toNat, size := count.toNat * layout.bytes }]

section Spans

variable {α : Type} {layout : Layout α} {count offset : UInt32} {stop : Nat}

theorem Place.spans_tiles (ends : stop = offset.toNat + count.toNat * layout.bytes) :
    Tiles offset.toNat (Place.spans layout count (some offset)) stop := ⟨rfl, ends.symm⟩

/-- A pointer that is null when there is nothing to point to. -/
theorem Place.spans_tiles_ite (ends : stop = offset.toNat + count.toNat * layout.bytes) :
    Tiles offset.toNat (Place.spans layout count (if count ≠ 0 then some offset else none)) stop := by
  by_cases empty : count = 0
  · rw [if_neg (not_not.mpr empty)]
    rw [empty, UInt32.toNat_zero, Nat.zero_mul] at ends
    exact ends.symm
  · rw [if_pos empty]
    exact spans_tiles ends

end Spans

/-- The sections that a decoded submission points to. -/
def Submission.spans (decoded : Submission Place) : List Span :=
  Place.spans laneLayout decoded.laneCount decoded.lanes ++
  Place.spans .uint32 decoded.rowCount decoded.tokenIds ++
  Place.spans .uint32 decoded.rowCount decoded.rowLaneIndices ++
  Place.spans .uint64 decoded.rowCount decoded.rowPositions ++
  Place.spans .uint64 decoded.rowCount decoded.rowSequenceIds ++
  Place.spans cacheIdentityLayout decoded.cacheBlockIdentityCount decoded.cacheBlockIdentities ++
  Place.spans .uint8 decoded.modelExtensionBytes decoded.modelExtension

@[simp]
theorem Message.size_toNat (message : Message) : message.size.toNat = message.bytes.length :=
  UInt32.toNat_ofNat_of_lt' message.short

theorem le_of_validateHeader_ok {header : Header} {messageBytes expectedKind expectedDescriptorBytes : UInt32}
    (accepts : validateHeader header messageBytes expectedKind expectedDescriptorBytes = .ok ()) :
    messageBytes.toNat ≤ maxMessageBytes := by
  unfold validateHeader at accepts
  by_contra tooLong
  rw [if_pos (.inr (Nat.lt_of_not_le tooLong))] at accepts
  exact nomatch accepts

/-- What `SparkModelResidentIpcDecodeSubmission` accepts is laid out from end to end. -/
theorem decodeSubmission_fills {now : UInt64} {message : Message} {decoded : Submission Place}
    (accepts : decodeSubmission now message = .ok decoded) :
    message.bytes.length ≤ maxMessageBytes ∧ Fills submitLayout.bytes decoded.spans message.bytes.length := by
  unfold decodeSubmission at accepts
  simp only [check_ok_iff, bind_ok_iff] at accepts
  obtain ⟨_, _, _, header, _, layout, accepts⟩ := accepts
  obtain ⟨⟨limits, size⟩, tokens, continues, places⟩ := validateSubmitLayout_ok_iff.mp layout
  have below := le_of_validateHeader_ok header
  have offsets := places.offsets limits
  obtain rfl := Except.ok.inj accepts
  rw [Message.size_toNat] at size below
  generalize submitLayout.get message.bytes = wire at limits size offsets
  refine ⟨below, Tiles.fills ?_⟩
  have extension : message.bytes.length =
      wire.modelExtensionOffset.toNat + wire.modelExtensionBytes.toNat * Layout.uint8.bytes := by
    rw [size, submitSize, offsets.modelExtension, offsets.cacheBlockIdentities, offsets.rowSequenceIds,
      offsets.rowPositions, offsets.rowLaneIndices, offsets.tokenIds, offsets.lanes]
    change _ = _ + wire.modelExtensionBytes.toNat * 1
    omega
  rw [← offsets.lanes]
  have lanes := Place.spans_tiles offsets.tokenIds
  have tokenIds : Tiles _ (Place.spans .uint32 wire.rowCount (some _)) _ := Place.spans_tiles offsets.rowLaneIndices
  have rowLaneIndices : Tiles _ (Place.spans .uint32 wire.rowCount (some _)) _ :=
    Place.spans_tiles offsets.rowPositions
  have rowPositions : Tiles _ (Place.spans .uint64 wire.rowCount (some _)) _ :=
    Place.spans_tiles offsets.rowSequenceIds
  have rowSequenceIds : Tiles _ (Place.spans .uint64 wire.rowCount (some _)) _ :=
    Place.spans_tiles offsets.cacheBlockIdentities
  have identities := Place.spans_tiles_ite offsets.modelExtension
  have extension := Place.spans_tiles_ite extension
  exact (((((lanes.append tokenIds).append rowLaneIndices).append rowPositions).append rowSequenceIds).append
    identities).append extension

end Submissions

section Completions

/-- The counts that a completion message may have. -/
structure CompletionLimits (tokenCount modelExtensionBytes logprobEntryCount : UInt32) : Prop where
  tokens : tokenCount ≤ maxOutputTokenCount
  extension : modelExtensionBytes ≤ maxExtensionBytes
  logprobs : logprobEntryCount ≤ maxLogprobEntries

/-- The bytes of a completion message with such counts; the log probabilities are aligned to four bytes. -/
def completionSize (tokenCount modelExtensionBytes logprobEntryCount : UInt32) : Nat :=
  (completionLayout.bytes + tokenCount.toNat * 4 + modelExtensionBytes.toNat + 3) / 4 * 4 +
    logprobEntryCount.toNat * samplingLogprobLayout.bytes

/-- Rounding down to a multiple of four bytes. -/
theorem toNat_alignDown (number : UInt32) : (number &&& ~~~3).toNat = number.toNat / 4 * 4 := by
  have mask : (~~~(3 : UInt32)).toNat = (2 ^ 30 - 1) <<< 2 := by decide
  have shifted : number.toNat / 4 * 4 = number.toNat >>> 2 <<< 2 := by
    rw [Nat.shiftRight_eq_div_pow, Nat.shiftLeft_eq]
  rw [UInt32.toNat_and, mask, shifted]
  apply Nat.eq_of_testBit_eq
  intro bit
  rw [Nat.testBit_and, Nat.testBit_shiftLeft, Nat.testBit_shiftLeft, Nat.testBit_shiftRight,
    Nat.testBit_two_pow_sub_one]
  by_cases low : 2 ≤ bit
  · have same : 2 + (bit - 2) = bit := by omega
    rw [same]
    by_cases beyond : 32 ≤ bit
    · have high : number.toNat.testBit bit = false :=
        Nat.testBit_lt_two_pow (Nat.lt_of_lt_of_le number.toNat_lt (Nat.pow_le_pow_right (by decide) beyond))
      simp [high]
    · have inside : bit - 2 < 30 := by omega
      simp [low, inside]
  · simp [low]

variable {tokenCount modelExtensionBytes logprobEntryCount : UInt32}

/-- Where the log probabilities of a completion begin. -/
theorem CompletionLimits.logprobsOffset (limits : CompletionLimits tokenCount modelExtensionBytes logprobEntryCount) :
    (ModelResidentIpc.logprobsOffset tokenCount modelExtensionBytes).toNat =
      (completionLayout.bytes + tokenCount.toNat * 4 + modelExtensionBytes.toNat + 3) / 4 * 4 := by
  have tokens : tokenCount.toNat ≤ 1024 := UInt32.le_iff_toNat_le.mp limits.tokens
  have extension : modelExtensionBytes.toNat ≤ 512 := UInt32.le_iff_toNat_le.mp limits.extension
  have four : (4 : UInt32).toNat = 4 := rfl
  have three : (3 : UInt32).toNat = 3 := rfl
  have start := completionBytes_toNat
  have ids : (completionBytes + tokenCount * 4).toNat = 224 + tokenCount.toNat * 4 := by
    rw [toNat_offset four (by omega), start]
  unfold ModelResidentIpc.logprobsOffset
  dsimp only
  rw [toNat_alignDown, UInt32.toNat_add, UInt32.toNat_add, ids, three, completionLayout_bytes]
  omega

/-- The largest completion fits into a message. -/
theorem CompletionLimits.size_le (limits : CompletionLimits tokenCount modelExtensionBytes logprobEntryCount) :
    completionSize tokenCount modelExtensionBytes logprobEntryCount ≤ maxMessageBytes := by
  have tokens : tokenCount.toNat ≤ 1024 := UInt32.le_iff_toNat_le.mp limits.tokens
  have extension : modelExtensionBytes.toNat ≤ 512 := UInt32.le_iff_toNat_le.mp limits.extension
  have logprobs : logprobEntryCount.toNat ≤ 4096 := UInt32.le_iff_toNat_le.mp limits.logprobs
  unfold completionSize maxMessageBytes
  rw [completionLayout_bytes, samplingLogprobLayout_bytes]
  omega

theorem calculateCompletionBytes_ok_iff {total : UInt32} :
    calculateCompletionBytes tokenCount modelExtensionBytes logprobEntryCount = .ok total ↔
      CompletionLimits tokenCount modelExtensionBytes logprobEntryCount ∧
        total.toNat = completionSize tokenCount modelExtensionBytes logprobEntryCount := by
  unfold calculateCompletionBytes
  rw [check_ok_iff]
  simp only [not_or, UInt32.not_lt]
  constructor
  · rintro ⟨⟨tokens, extension, logprobs⟩, adds⟩
    have limits : CompletionLimits tokenCount modelExtensionBytes logprobEntryCount := ⟨tokens, extension, logprobs⟩
    have value := (of_addBytes_ok samplingLogprobBytes_toNat adds).2
    rw [limits.logprobsOffset] at value
    exact ⟨limits, value⟩
  · rintro ⟨limits, value⟩
    refine ⟨⟨limits.tokens, limits.extension, limits.logprobs⟩, ?_⟩
    have fits : (logprobsOffset tokenCount modelExtensionBytes).toNat + logprobEntryCount.toNat * 8 ≤
        maxMessageBytes := by
      rw [limits.logprobsOffset]
      exact limits.size_le
    obtain ⟨sum, adds, same⟩ := addBytes_ok _ logprobEntryCount samplingLogprobBytes_toNat fits
    rw [adds]
    apply congrArg
    apply UInt32.toNat_inj.mp
    rw [same, value, limits.logprobsOffset]
    rfl

/-- The decoder accepts a header record whose counts are within the limits and give the size of the
message, with every offset where the counts put it. -/
theorem validateCompletion_ok_iff {wire : Completion} {messageBytes : UInt32} :
    validateCompletion wire messageBytes = .ok () ↔
      validateHeader wire.header messageBytes kindCompletion completionBytes = .ok () ∧
      logprobsValid wire.tokenCount wire.logprobStride wire.logprobEntryCount = true ∧
      (CompletionLimits wire.tokenCount wire.modelExtensionBytes wire.logprobEntryCount ∧
        messageBytes.toNat = completionSize wire.tokenCount wire.modelExtensionBytes wire.logprobEntryCount) ∧
      wire.tokenIdsOffset = completionBytes ∧
      wire.modelExtensionOffset.toNat = wire.tokenIdsOffset.toNat + wire.tokenCount.toNat * 4 ∧
      wire.logprobsOffset = logprobsOffset wire.tokenCount wire.modelExtensionBytes ∧ wire.reserved = 0 := by
  unfold validateCompletion
  cases logprobs : logprobsValid wire.tokenCount wire.logprobStride wire.logprobEntryCount with
  | false => simp [bind_ok_iff]
  | true =>
    simp only [bind_ok_iff, check_ok_iff, not_or, not_not, ↓reduceIte, calculateCompletionBytes_ok_iff]
    constructor
    · rintro ⟨_, header, expected, sizes, ⟨rfl, tokenIds, extension, places, reserved⟩, _⟩
      exact ⟨header, trivial, sizes, tokenIds, extension, places, reserved⟩
    · rintro ⟨header, _, sizes, tokenIds, extension, places, reserved⟩
      exact ⟨(), header, messageBytes, sizes, ⟨rfl, tokenIds, extension, places, reserved⟩, trivial⟩

/-- The bytes between the model extension of a completion and its log probabilities. -/
def Completion.padding (wire : Completion) : Span where
  start := wire.modelExtensionOffset.toNat + wire.modelExtensionBytes.toNat
  size := wire.logprobsOffset.toNat - (wire.modelExtensionOffset.toNat + wire.modelExtensionBytes.toNat)

/-- The sections that the decoder of a completion copies, with the padding. -/
def Completion.spans (wire : Completion) : List Span :=
  [{ start := wire.tokenIdsOffset.toNat, size := wire.tokenCount.toNat * Layout.uint32.bytes },
    { start := wire.modelExtensionOffset.toNat, size := wire.modelExtensionBytes.toNat * Layout.uint8.bytes },
    wire.padding,
    { start := wire.logprobsOffset.toNat, size := wire.logprobEntryCount.toNat * samplingLogprobLayout.bytes }]

/-- What `SparkModelResidentIpcDecodeCompletion` accepts is laid out from end to end, but for the padding. -/
theorem decodeCompletion_fills {message : Message} {decoded : ServingCompletion}
    (accepts : decodeCompletion message = .ok decoded) :
    ∃ wire, decoded = completionOf wire message.bytes ∧ wire.padding.size ≤ 3 ∧
      message.bytes.length ≤ maxMessageBytes ∧ Fills completionLayout.bytes wire.spans message.bytes.length := by
  unfold decodeCompletion at accepts
  simp only [check_ok_iff, bind_ok_iff] at accepts
  obtain ⟨_, _, valid, accepts⟩ := accepts
  obtain ⟨header, _, ⟨limits, size⟩, tokenIds, extension, places, _⟩ := validateCompletion_ok_iff.mp valid
  have below := le_of_validateHeader_ok header
  rw [Message.size_toNat] at size below
  generalize completionLayout.get message.bytes = wire at *
  have logprobs := limits.logprobsOffset
  rw [← places] at logprobs
  unfold completionSize at size
  rw [completionLayout_bytes] at logprobs size
  have start : wire.tokenIdsOffset.toNat = 224 := by rw [tokenIds, completionBytes_toNat]
  refine ⟨wire, (Except.ok.inj accepts).symm, ?_, below, Tiles.fills ⟨start, extension, ?_, ?_, ?_⟩⟩
  · change wire.logprobsOffset.toNat - (wire.modelExtensionOffset.toNat + wire.modelExtensionBytes.toNat) ≤ 3
    omega
  · change _ = wire.modelExtensionOffset.toNat + wire.modelExtensionBytes.toNat * 1
    rw [Completion.padding, Nat.mul_one]
  · change wire.logprobsOffset.toNat = wire.modelExtensionOffset.toNat + wire.modelExtensionBytes.toNat +
      (wire.logprobsOffset.toNat - (wire.modelExtensionOffset.toNat + wire.modelExtensionBytes.toNat))
    omega
  · rw [size, ← logprobs]
    rfl

end Completions

end Sparkpipe.ModelResidentIpc
