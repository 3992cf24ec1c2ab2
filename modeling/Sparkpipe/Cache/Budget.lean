import Sparkpipe.Status
import Sparkpipe.Lib.Rounding

/-!
# Cache budgets

Two functions size a cache from the geometry of a model: one the memory and the file of a pipeline
stage, the other the contexts that fit in the memory of a rank. They calculate in words of 64 bits
and check some of the products, but not those of the dimensions.
-/

namespace Sparkpipe.KvBudget

/-- The layouts of the attention entries; another code is none of them. -/
inductive CacheLayout where
  | fullKeyValue
  | compressedKeyValue
  | compressedKeyValueFp8E4M3
  | fullKeyValueFp8E4M3
  | unknown (code : UInt32)
  deriving DecidableEq

/-- `SPARK_KV_CACHE_MAX_LAYER_COUNT`. -/
def maxLayerCount : UInt32 := 256

/-- `SPARK_KV_JIT_DEFAULT_RECORD_ALIGNMENT`. -/
def defaultRecordAlignment : UInt32 := 4096

/-- `SparkKvCacheCapacityRequest`. -/
structure CapacityRequest where
  layout : CacheLayout
  contextTokenCount : UInt32 := 0
  blockTokenCount : UInt32 := 0
  layerCount : UInt32 := 0
  headCount : UInt32
  queryKeyHeadDimension : UInt32
  valueHeadDimension : UInt32
  compressedDimension : UInt32
  positionDimension : UInt32
  bytesPerScalar : UInt32
  fp8ScaleBlockSize : UInt32
  indexKeyLayerCount : UInt32 := 0
  indexKeyDimension : UInt32 := 0
  indexKeyBytesPerScalar : UInt32 := 0
  cacheBytesPerRank : UInt64 := 0

/-- `SparkKvCacheCapacityEstimate`. -/
structure CapacityEstimate where
  layout : CacheLayout
  contextTokenCount : UInt32
  blockTokenCount : UInt32
  layerCount : UInt32
  blockCountPerContext : UInt32
  contextsPerRank : UInt32
  attentionBytesPerTokenPerLayer : UInt64
  indexKeyBytesPerToken : UInt64
  bytesPerBlockPerLayer : UInt64
  bytesPerContextPerRank : UInt64
  unusedCacheBytesPerRank : UInt64

/-- `SparkKvJitStageBudgetRequest`. -/
structure JitStageBudgetRequest where
  firstLayerIndex : UInt32
  layerCount : UInt32
  physicalPoolTokenCapacity : UInt32
  backingBlockCapacity : UInt32
  activeSequenceCount : UInt32
  backingRequestCount : UInt32
  selectedTokenCount : UInt32
  includeAuxiliaryLayer : UInt32
  blockTokenCount : UInt32
  recordAlignmentBytes : UInt32
  attentionCacheLayout : CacheLayout
  fp8ScaleBlockSize : UInt32
  headCount : UInt32
  queryKeyHeadDimension : UInt32
  valueHeadDimension : UInt32
  compressedDimension : UInt32
  positionDimension : UInt32
  bytesPerScalar : UInt32
  indexKeyLayerCount : UInt32
  indexKeyDimension : UInt32
  indexKeyBytesPerScalar : UInt32

/-- `SparkKvJitStageBudget`. -/
structure JitStageBudget where
  firstLayerIndex : UInt32
  layerCount : UInt32
  localIndexKeyLayerCount : UInt32
  includeAuxiliaryLayer : UInt32
  logicalBlockCapacity : UInt32
  backingBlockCapacity : UInt32
  maximumAverageActiveContextTokens : UInt32
  maximumAverageBackingContextTokens : UInt32
  attentionBytesPerToken : UInt64
  indexKeyBytesPerToken : UInt64
  auxiliaryBytesPerToken : UInt64
  residentBytesPerToken : UInt64
  residentSummaryBytes : UInt64
  residentPoolBytes : UInt64
  nvmePayloadBytesPerBlock : UInt64
  nvmeRecordBytes : UInt64
  nvmeCapacityBytes : UInt64
  selectedWorkingSetBytes : UInt64

section Arithmetic

variable {left right value : UInt64} {number : Nat}

/-- `SparkKvCacheCheckedMulU64`. -/
def checkedMulU64 (left right : UInt64) : Except SparkStatus UInt64 :=
  if right ≠ 0 ∧ left > 0xffffffffffffffff / right then .error .capacityExceeded else .ok (left * right)

/-- `SparkKvCacheCheckedAddU64`. -/
def checkedAddU64 (left right : UInt64) : Except SparkStatus UInt64 :=
  if left > 0xffffffffffffffff - right then .error .capacityExceeded else .ok (left + right)

/-- `SparkKvCacheAlignUpU64`. -/
def alignUpU64 (value : UInt64) (alignment : UInt32) : Except SparkStatus UInt64 :=
  if alignment = 0 ∨ alignment &&& (alignment - 1) ≠ 0 ∨ value > 0xffffffffffffffff - (alignment.toUInt64 - 1) then
    .error .invalidArgument
  else
    let aligned := (value + alignment.toUInt64 - 1) &&& ~~~(alignment.toUInt64 - 1)
    if aligned < value then .error .capacityExceeded else .ok aligned

/-- `SparkCeilDivU64`. -/
def ceilDivU64 (numerator denominator : UInt64) : UInt64 :=
  if denominator = 0 then 0 else (numerator + denominator - 1) / denominator

/-- A product is accepted where it is exact. -/
theorem checkedMulU64_ok : checkedMulU64 left right = .ok value ↔ value.toNat = left.toNat * right.toNat := by
  have leftBound := left.toNat_lt
  have exact_iff : (left * right).toNat = left.toNat * right.toNat ↔ left.toNat * right.toNat < 2 ^ 64 := by
    rw [UInt64.toNat_mul]
    exact Nat.mod_eq_iff_lt (by decide)
  have fits_iff : ¬ (right ≠ 0 ∧ left > 0xffffffffffffffff / right) ↔ left.toNat * right.toNat < 2 ^ 64 := by
    by_cases zero : right = 0
    · subst zero
      simp
    · have positive : 0 < right.toNat := Nat.pos_of_ne_zero fun none => zero (UInt64.toNat_inj.mp none)
      have below : left ≤ 0xffffffffffffffff / right ↔ left.toNat * right.toNat ≤ 2 ^ 64 - 1 := by
        rw [UInt64.le_iff_toNat_le, UInt64.toNat_div, Nat.le_div_iff_mul_le positive]
        rfl
      simp only [ne_eq, zero, not_false_eq_true, true_and, gt_iff_lt, UInt64.not_lt, below]
      omega
  unfold checkedMulU64
  constructor
  · intro accepted
    split at accepted
    · cases accepted
    · rename_i fits
      cases accepted
      exact exact_iff.mpr (fits_iff.mp fits)
  · intro exact_
    have fits : left.toNat * right.toNat < 2 ^ 64 := exact_ ▸ value.toNat_lt
    rw [if_neg (fits_iff.mpr fits)]
    congr 1
    exact UInt64.toNat_inj.mp ((exact_iff.mpr fits).trans exact_.symm)

/-- A sum is accepted where it is exact. -/
theorem checkedAddU64_ok : checkedAddU64 left right = .ok value ↔ value.toNat = left.toNat + right.toNat := by
  have leftBound := left.toNat_lt
  have rightBound := right.toNat_lt
  have fits_iff : left ≤ 0xffffffffffffffff - right ↔ left.toNat + right.toNat < 2 ^ 64 := by
    have most : right ≤ 0xffffffffffffffff := UInt64.le_iff_toNat_le.mpr (Nat.le_of_lt_succ right.toNat_lt)
    rw [UInt64.le_iff_toNat_le, UInt64.toNat_sub_of_le _ _ most]
    change left.toNat ≤ 2 ^ 64 - 1 - right.toNat ↔ _
    omega
  unfold checkedAddU64
  constructor
  · intro accepted
    split at accepted
    · cases accepted
    · rename_i fits
      cases accepted
      rw [UInt64.toNat_add, Nat.mod_eq_of_lt (fits_iff.mp (UInt64.not_lt.mp fits))]
  · intro exact_
    have fits : left.toNat + right.toNat < 2 ^ 64 := exact_ ▸ value.toNat_lt
    rw [if_neg (UInt64.not_lt.mpr (fits_iff.mpr fits))]
    congr 1
    apply UInt64.toNat_inj.mp
    rw [UInt64.toNat_add, Nat.mod_eq_of_lt fits, exact_]

theorem toNat_ofNat_of_lt (fits : number < 2 ^ 64) : (UInt64.ofNat number).toNat = number := by
  rw [UInt64.toNat_ofNat', Nat.mod_eq_of_lt fits]

/-- The division rounds up wherever its sum cannot wrap. -/
theorem ceilDivU64_ofNat {denominator : UInt32} (someUnit : denominator ≠ 0) (fits : number < 2 ^ 64 - 2 ^ 32) :
    ceilDivU64 (UInt64.ofNat number) denominator.toUInt64 = UInt64.ofNat (number ⌈/⌉ denominator.toNat) := by
  have positive : 0 < denominator.toNat := Nat.pos_of_ne_zero fun none => someUnit (UInt32.toNat_inj.mp none)
  have bound := denominator.toNat_lt
  have same : denominator.toUInt64.toNat = denominator.toNat := UInt32.toNat_toUInt64 _
  have number_eq : (UInt64.ofNat number).toNat = number := toNat_ofNat_of_lt (by omega)
  have nonzero : denominator.toUInt64 ≠ 0 := fun none => by
    rw [none] at same
    exact positive.ne same
  unfold ceilDivU64
  rw [if_neg nonzero]
  apply UInt64.toNat_inj.mp
  rw [Rounding.uint64_eq _ _ (by omega) (by omega), number_eq, same, toNat_ofNat_of_lt]
  have fewer : number ⌈/⌉ denominator.toNat ≤ number :=
    (Rounding.le_iff positive).mpr (Nat.le_mul_of_pos_right number positive)
  omega

/-- An aligned value is the value rounded up to whole units. -/
theorem alignUpU64_ok {alignment : UInt32} {aligned : UInt64} (accepted : alignUpU64 value alignment = .ok aligned) :
    aligned.toNat = value.toNat ⌈/⌉ alignment.toNat * alignment.toNat := by
  unfold alignUpU64 at accepted
  split at accepted
  · cases accepted
  · rename_i valid
    simp only [not_or, ne_eq, not_not, gt_iff_lt, UInt64.not_lt] at valid
    obtain ⟨some, bits, room⟩ := valid
    have positive : 0 < alignment.toNat := Nat.pos_of_ne_zero fun none => some (UInt32.toNat_inj.mp none)
    have one : (alignment - 1).toNat = alignment.toNat - 1 :=
      UInt32.toNat_sub_of_le _ _ (UInt32.le_iff_toNat_le.mpr positive)
    have power : alignment.toNat.isPowerOfTwo := by
      apply (Nat.and_sub_one_eq_zero_iff_isPowerOfTwo positive.ne').mp
      have none := congrArg UInt32.toNat bits
      rwa [UInt32.toNat_and, one] at none
    obtain ⟨exponent, power⟩ := power
    have same : alignment.toUInt64.toNat = alignment.toNat := UInt32.toNat_toUInt64 _
    have bound := alignment.toNat_lt
    have less : (alignment.toUInt64 - 1).toNat = alignment.toNat - 1 := by
      rw [UInt64.toNat_sub_of_le _ _ (UInt64.le_iff_toNat_le.mpr (by rw [same]; exact positive)), same]
      rfl
    have below : value.toNat + (alignment.toNat - 1) < 2 ^ 64 := by
      have most : alignment.toUInt64 - 1 ≤ 0xffffffffffffffff :=
        UInt64.le_iff_toNat_le.mpr (Nat.le_of_lt_succ (UInt64.toNat_lt _))
      rw [UInt64.le_iff_toNat_le, UInt64.toNat_sub_of_le _ _ most, less] at room
      change value.toNat ≤ 2 ^ 64 - 1 - _ at room
      omega
    have sum : (value + alignment.toUInt64 - 1).toNat = value.toNat + alignment.toNat - 1 := by
      have regroup : value + alignment.toUInt64 - 1 = value + (alignment.toUInt64 - 1) := by
        rw [UInt64.sub_eq_add_neg, UInt64.sub_eq_add_neg, UInt64.add_assoc]
      rw [regroup, UInt64.toNat_add, less, Nat.mod_eq_of_lt below]
      omega
    dsimp only at accepted
    split at accepted
    · cases accepted
    · cases accepted
      rw [Rounding.uint64_alignDown (same.trans power), sum, same, Nat.ceilDiv_eq_add_pred_div]

theorem of_bind_ok {α β : Type} {call : Except SparkStatus α} {rest : α → Except SparkStatus β} {result : β}
    (accepted : (do let first ← call; rest first) = .ok result) : ∃ first, call = .ok first ∧ rest first = .ok result := by
  cases call with
  | error status => cases accepted
  | ok first => exact ⟨first, rfl, accepted⟩

end Arithmetic

section Attention

variable (request : CapacityRequest)

/-- The bytes of scaled elements, with one scale of four bytes for each block. -/
def fp8Bytes (elementCount : UInt64) (scaleBlockSize : UInt32) : UInt64 :=
  elementCount + ceilDivU64 elementCount scaleBlockSize.toUInt64 * 4

/-- `SparkKvCacheCalculateAttentionBytesPerTokenLayer`. -/
def CapacityRequest.attentionBytes : Except SparkStatus UInt64 :=
  let compressed := request.compressedDimension.toUInt64 + request.positionDimension.toUInt64
  let queryKey := request.headCount.toUInt64 * request.queryKeyHeadDimension.toUInt64
  let value := request.headCount.toUInt64 * request.valueHeadDimension.toUInt64
  match request.layout with
  | .fullKeyValue => .ok ((compressed + queryKey + value) * request.bytesPerScalar.toUInt64)
  | .compressedKeyValue => .ok (compressed * request.bytesPerScalar.toUInt64)
  | .compressedKeyValueFp8E4M3 =>
    if request.fp8ScaleBlockSize = 0 then .error .invalidArgument else .ok (fp8Bytes compressed request.fp8ScaleBlockSize)
  | .fullKeyValueFp8E4M3 =>
    if request.fp8ScaleBlockSize = 0 then .error .invalidArgument
    else .ok (fp8Bytes compressed request.fp8ScaleBlockSize + fp8Bytes queryKey request.fp8ScaleBlockSize +
      fp8Bytes value request.fp8ScaleBlockSize)
  | .unknown _ => .error .invalidArgument

/-- The number of bytes of scaled elements. -/
def exactFp8 (elementCount scaleBlockSize : Nat) : Nat := elementCount + elementCount ⌈/⌉ scaleBlockSize * 4

/-- The number of bytes of a token in a layer. -/
def CapacityRequest.exactAttention : Nat :=
  let compressed := request.compressedDimension.toNat + request.positionDimension.toNat
  let queryKey := request.headCount.toNat * request.queryKeyHeadDimension.toNat
  let value := request.headCount.toNat * request.valueHeadDimension.toNat
  match request.layout with
  | .fullKeyValue => (compressed + queryKey + value) * request.bytesPerScalar.toNat
  | .compressedKeyValue => compressed * request.bytesPerScalar.toNat
  | .compressedKeyValueFp8E4M3 => exactFp8 compressed request.fp8ScaleBlockSize.toNat
  | .fullKeyValueFp8E4M3 => exactFp8 compressed request.fp8ScaleBlockSize.toNat +
      exactFp8 queryKey request.fp8ScaleBlockSize.toNat + exactFp8 value request.fp8ScaleBlockSize.toNat
  | .unknown _ => 0

theorem fp8Bytes_ofNat {elements : Nat} {scaleBlockSize : UInt32} (someUnit : scaleBlockSize ≠ 0)
    (fits : elements < 2 ^ 64 - 2 ^ 32) :
    fp8Bytes (UInt64.ofNat elements) scaleBlockSize = UInt64.ofNat (exactFp8 elements scaleBlockSize.toNat) := by
  unfold fp8Bytes exactFp8
  rw [ceilDivU64_ofNat someUnit fits, UInt64.ofNat_add, UInt64.ofNat_mul]
  rfl

theorem mul_fits (left right : UInt32) : left.toNat * right.toNat < 2 ^ 64 - 2 ^ 32 := by
  have product := Nat.mul_le_mul (Nat.le_sub_one_of_lt left.toNat_lt) (Nat.le_sub_one_of_lt right.toNat_lt)
  omega

variable {request} {bytes : UInt64}

/-- The bytes of a token in a layer are right up to multiples of `2 ^ 64`. -/
theorem attentionBytes_ofNat (accepted : request.attentionBytes = .ok bytes) :
    bytes = UInt64.ofNat request.exactAttention := by
  have compressedFits : request.compressedDimension.toNat + request.positionDimension.toNat < 2 ^ 64 - 2 ^ 32 := by
    have := request.compressedDimension.toNat_lt
    have := request.positionDimension.toNat_lt
    omega
  have queryKeyFits := mul_fits request.headCount request.queryKeyHeadDimension
  have valueFits := mul_fits request.headCount request.valueHeadDimension
  unfold CapacityRequest.attentionBytes at accepted
  unfold CapacityRequest.exactAttention
  simp only [← UInt64.ofNat_uInt32ToNat, ← UInt64.ofNat_mul, ← UInt64.ofNat_add] at accepted
  cases layout : request.layout with
  | fullKeyValue =>
    rw [layout] at accepted
    cases accepted
    rfl
  | compressedKeyValue =>
    rw [layout] at accepted
    cases accepted
    rfl
  | compressedKeyValueFp8E4M3 =>
    rw [layout] at accepted
    dsimp only at accepted
    split at accepted
    · cases accepted
    · rename_i some
      cases accepted
      exact fp8Bytes_ofNat some compressedFits
  | fullKeyValueFp8E4M3 =>
    rw [layout] at accepted
    dsimp only at accepted
    split at accepted
    · cases accepted
    · rename_i some
      cases accepted
      rw [fp8Bytes_ofNat some compressedFits, fp8Bytes_ofNat some queryKeyFits, fp8Bytes_ofNat some valueFits,
        ← UInt64.ofNat_add, ← UInt64.ofNat_add]
  | unknown code =>
    rw [layout] at accepted
    cases accepted

end Attention

section JitStage

variable (request : JitStageBudgetRequest)

/-- Whether the attention entries of a layout are scaled. -/
def CacheLayout.isFp8 : CacheLayout → Bool
  | .compressedKeyValueFp8E4M3 | .fullKeyValueFp8E4M3 => true
  | .fullKeyValue | .compressedKeyValue | .unknown _ => false

def CacheLayout.isKnown : CacheLayout → Bool
  | .unknown _ => false
  | _ => true

namespace JitStageBudgetRequest

/-- What `SparkKvCacheCalculateJitStageBudget` requires of a request. -/
def Valid : Prop :=
  request.layerCount ≠ 0 ∧
  request.firstLayerIndex < maxLayerCount ∧
  request.layerCount ≤ maxLayerCount - request.firstLayerIndex ∧
  request.physicalPoolTokenCapacity ≠ 0 ∧
  request.backingBlockCapacity ≠ 0 ∧
  request.activeSequenceCount ≠ 0 ∧
  request.backingRequestCount ≠ 0 ∧
  request.selectedTokenCount ≠ 0 ∧
  request.blockTokenCount ≠ 0 ∧
  request.attentionCacheLayout.isKnown ∧
  (request.attentionCacheLayout.isFp8 → request.fp8ScaleBlockSize ≠ 0 ∧ request.fp8ScaleBlockSize &&& 15 = 0) ∧
  request.physicalPoolTokenCapacity % request.blockTokenCount = 0 ∧
  request.physicalPoolTokenCapacity / request.blockTokenCount ≤ request.backingBlockCapacity ∧
  request.includeAuxiliaryLayer ≤ 1 ∧
  defaultRecordAlignment ≤ request.recordAlignmentBytes ∧
  request.recordAlignmentBytes &&& (request.recordAlignmentBytes - 1) = 0

instance : Decidable request.Valid := by
  unfold Valid
  infer_instance

/-- The request for the bytes of a token in a layer. -/
def geometry : CapacityRequest where
  layout := request.attentionCacheLayout
  fp8ScaleBlockSize := request.fp8ScaleBlockSize
  headCount := request.headCount
  queryKeyHeadDimension := request.queryKeyHeadDimension
  valueHeadDimension := request.valueHeadDimension
  compressedDimension := request.compressedDimension
  positionDimension := request.positionDimension
  bytesPerScalar := request.bytesPerScalar

end JitStageBudgetRequest

/-- `SparkKvCacheCalculateJitStageBudget`. -/
def calculateJitStageBudget : Except SparkStatus JitStageBudget :=
  if ¬ request.Valid then .error .invalidArgument
  else match request.geometry.attentionBytes with
  | .error _ => .error .invalidArgument
  | .ok attention => do
    let indexKey := request.indexKeyDimension.toUInt64 * request.indexKeyBytesPerScalar.toUInt64
    let summary := request.indexKeyLayerCount.toUInt64 * (2 * indexKey + 1)
    let logicalBlocks := request.physicalPoolTokenCapacity / request.blockTokenCount
    let attentionPerToken := request.layerCount.toUInt64 * attention
    let indexPerToken := request.indexKeyLayerCount.toUInt64 * indexKey
    let auxiliary := if request.includeAuxiliaryLayer ≠ 0 then attention else 0
    let withIndex ← checkedAddU64 attentionPerToken indexPerToken
    let resident ← checkedAddU64 withIndex auxiliary
    let residentSummary ← checkedMulU64 logicalBlocks.toUInt64 summary
    let residentTokens ← checkedMulU64 request.physicalPoolTokenCapacity.toUInt64 resident
    let residentPool ← checkedAddU64 residentTokens residentSummary
    let payloadTokens ← checkedMulU64 request.blockTokenCount.toUInt64 resident
    let payload ← checkedAddU64 payloadTokens summary
    let recordUnaligned ← checkedAddU64 request.recordAlignmentBytes.toUInt64 payload
    let record ← alignUpU64 recordUnaligned request.recordAlignmentBytes
    let capacity ← checkedMulU64 request.backingBlockCapacity.toUInt64 record
    let selectedTokens ← checkedMulU64 request.activeSequenceCount.toUInt64 request.selectedTokenCount.toUInt64
    let workingSet ← checkedMulU64 selectedTokens (attentionPerToken + auxiliary)
    let backingTokens ← checkedMulU64 request.backingBlockCapacity.toUInt64 request.blockTokenCount.toUInt64
    let averageBacking := backingTokens / request.backingRequestCount.toUInt64
    .ok {
      firstLayerIndex := request.firstLayerIndex
      layerCount := request.layerCount
      localIndexKeyLayerCount := request.indexKeyLayerCount
      includeAuxiliaryLayer := request.includeAuxiliaryLayer
      logicalBlockCapacity := logicalBlocks
      backingBlockCapacity := request.backingBlockCapacity
      maximumAverageActiveContextTokens :=
        (request.physicalPoolTokenCapacity.toUInt64 / request.activeSequenceCount.toUInt64).toUInt32
      maximumAverageBackingContextTokens := if averageBacking > 0xffffffff then 0xffffffff else averageBacking.toUInt32
      attentionBytesPerToken := attentionPerToken
      indexKeyBytesPerToken := indexPerToken
      auxiliaryBytesPerToken := auxiliary
      residentBytesPerToken := resident
      residentSummaryBytes := residentSummary
      residentPoolBytes := residentPool
      nvmePayloadBytesPerBlock := payload
      nvmeRecordBytes := record
      nvmeCapacityBytes := capacity
      selectedWorkingSetBytes := workingSet }

namespace JitStageBudgetRequest

/-- The number of bytes of a token in the attention layers. -/
def exactAttention : Nat := request.layerCount.toNat * request.geometry.exactAttention

/-- The number of bytes of a token in one index layer. -/
def exactIndexKey : Nat := request.indexKeyDimension.toNat * request.indexKeyBytesPerScalar.toNat

/-- The number of bytes of the summaries of a block. -/
def exactSummary : Nat := request.indexKeyLayerCount.toNat * (2 * request.exactIndexKey + 1)

/-- The number of bytes of a token in the auxiliary layer. -/
def exactAuxiliary : Nat := if request.includeAuxiliaryLayer ≠ 0 then request.geometry.exactAttention else 0

/-- The number of bytes of a token. -/
def exactResident : Nat :=
  request.exactAttention + request.indexKeyLayerCount.toNat * request.exactIndexKey + request.exactAuxiliary

/-- The number of bytes of a block. -/
def exactPayload : Nat := request.blockTokenCount.toNat * request.exactResident + request.exactSummary

/-- The number of bytes of a block's record, whose header takes one unit. -/
def exactRecord : Nat :=
  (request.recordAlignmentBytes.toNat + request.exactPayload) ⌈/⌉ request.recordAlignmentBytes.toNat *
    request.recordAlignmentBytes.toNat

/-- The products that the function does not check fit in 64 bits. -/
def Fits : Prop := request.exactAttention < 2 ^ 64 ∧ request.exactSummary < 2 ^ 64

end JitStageBudgetRequest

/-- Every field of a budget is the number that its formula gives. Without an index layer no field takes the product of
the index keys, which may then wrap. -/
structure JitStageBudget.Exact (request : JitStageBudgetRequest) (budget : JitStageBudget) : Prop where
  firstLayer : budget.firstLayerIndex = request.firstLayerIndex
  layers : budget.layerCount = request.layerCount
  indexLayers : budget.localIndexKeyLayerCount = request.indexKeyLayerCount
  auxiliaryLayer : budget.includeAuxiliaryLayer = request.includeAuxiliaryLayer
  logicalBlocks : budget.logicalBlockCapacity.toNat =
    request.physicalPoolTokenCapacity.toNat / request.blockTokenCount.toNat
  backingBlocks : budget.backingBlockCapacity = request.backingBlockCapacity
  activeContext : budget.maximumAverageActiveContextTokens.toNat =
    request.physicalPoolTokenCapacity.toNat / request.activeSequenceCount.toNat
  backingContext : budget.maximumAverageBackingContextTokens.toNat =
    min (request.backingBlockCapacity.toNat * request.blockTokenCount.toNat /
      request.backingRequestCount.toNat) (2 ^ 32 - 1)
  attention : budget.attentionBytesPerToken.toNat = request.exactAttention
  indexKey : budget.indexKeyBytesPerToken.toNat = request.indexKeyLayerCount.toNat * request.exactIndexKey
  auxiliary : budget.auxiliaryBytesPerToken.toNat = request.exactAuxiliary
  resident : budget.residentBytesPerToken.toNat = request.exactResident
  summary : budget.residentSummaryBytes.toNat =
    request.physicalPoolTokenCapacity.toNat / request.blockTokenCount.toNat * request.exactSummary
  pool : budget.residentPoolBytes.toNat = request.physicalPoolTokenCapacity.toNat * request.exactResident +
    request.physicalPoolTokenCapacity.toNat / request.blockTokenCount.toNat * request.exactSummary
  payload : budget.nvmePayloadBytesPerBlock.toNat = request.exactPayload
  record : budget.nvmeRecordBytes.toNat = request.exactRecord
  capacity : budget.nvmeCapacityBytes.toNat = request.backingBlockCapacity.toNat * request.exactRecord
  workingSet : budget.selectedWorkingSetBytes.toNat =
    request.activeSequenceCount.toNat * request.selectedTokenCount.toNat * (request.exactAttention + request.exactAuxiliary)

variable {request} {budget : JitStageBudget}

theorem jitStageBudget_exact_iff (accepted : calculateJitStageBudget request = .ok budget) :
    budget.Exact request ↔ request.Fits := by
  unfold calculateJitStageBudget at accepted
  split at accepted
  · cases accepted
  rename_i valid
  split at accepted
  · cases accepted
  rename_i attention attentionIs
  have attention_eq := attentionBytes_ofNat attentionIs
  obtain ⟨someLayer, -, -, somePool, -, someSequence, -, -, someBlock, -, -, whole, -⟩ := not_not.mp valid
  dsimp only at accepted
  obtain ⟨withIndex, withIndexIs, accepted⟩ := of_bind_ok accepted
  obtain ⟨resident, residentIs, accepted⟩ := of_bind_ok accepted
  obtain ⟨residentSummary, residentSummaryIs, accepted⟩ := of_bind_ok accepted
  obtain ⟨residentTokens, residentTokensIs, accepted⟩ := of_bind_ok accepted
  obtain ⟨residentPool, residentPoolIs, accepted⟩ := of_bind_ok accepted
  obtain ⟨payloadTokens, payloadTokensIs, accepted⟩ := of_bind_ok accepted
  obtain ⟨payload, payloadIs, accepted⟩ := of_bind_ok accepted
  obtain ⟨recordUnaligned, recordUnalignedIs, accepted⟩ := of_bind_ok accepted
  obtain ⟨record, recordIs, accepted⟩ := of_bind_ok accepted
  obtain ⟨capacity, capacityIs, accepted⟩ := of_bind_ok accepted
  obtain ⟨selectedTokens, selectedTokensIs, accepted⟩ := of_bind_ok accepted
  obtain ⟨workingSet, workingSetIs, accepted⟩ := of_bind_ok accepted
  obtain ⟨backingTokens, backingTokensIs, accepted⟩ := of_bind_ok accepted
  cases accepted
  rw [checkedAddU64_ok] at withIndexIs residentIs residentPoolIs payloadIs recordUnalignedIs
  rw [checkedMulU64_ok, UInt32.toNat_toUInt64]
    at residentSummaryIs residentTokensIs payloadTokensIs capacityIs backingTokensIs
  rw [checkedMulU64_ok] at selectedTokensIs workingSetIs
  rw [UInt32.toNat_toUInt64] at recordUnalignedIs selectedTokensIs backingTokensIs
  rw [UInt32.toNat_toUInt64] at selectedTokensIs
  have attentionPerToken : request.layerCount.toUInt64 * attention = UInt64.ofNat request.exactAttention := by
    rw [attention_eq, JitStageBudgetRequest.exactAttention, UInt64.ofNat_mul, UInt64.ofNat_uInt32ToNat]
  have indexKey : request.indexKeyDimension.toUInt64 * request.indexKeyBytesPerScalar.toUInt64 =
      UInt64.ofNat request.exactIndexKey := by
    rw [JitStageBudgetRequest.exactIndexKey, UInt64.ofNat_mul, UInt64.ofNat_uInt32ToNat, UInt64.ofNat_uInt32ToNat]
  have summary : request.indexKeyLayerCount.toUInt64 *
      (2 * (request.indexKeyDimension.toUInt64 * request.indexKeyBytesPerScalar.toUInt64) + 1) =
      UInt64.ofNat request.exactSummary := by
    rw [indexKey, JitStageBudgetRequest.exactSummary, UInt64.ofNat_mul, UInt64.ofNat_add, UInt64.ofNat_mul,
      UInt64.ofNat_uInt32ToNat]
    rfl
  have logicalBlocks : (request.physicalPoolTokenCapacity / request.blockTokenCount).toNat =
      request.physicalPoolTokenCapacity.toNat / request.blockTokenCount.toNat := UInt32.toNat_div _ _
  rw [summary] at residentSummaryIs payloadIs
  rw [indexKey, attentionPerToken] at withIndexIs
  rw [attentionPerToken] at workingSetIs
  rw [logicalBlocks] at residentSummaryIs
  constructor
  · intro exact_
    constructor
    · rw [← exact_.attention]
      exact UInt64.toNat_lt _
    · have someBlocks : 0 < request.physicalPoolTokenCapacity.toNat / request.blockTokenCount.toNat := by
        have divides : request.physicalPoolTokenCapacity.toNat % request.blockTokenCount.toNat = 0 := by
          rw [← UInt32.toNat_mod, whole, UInt32.toNat_zero]
        have positive : 0 < request.physicalPoolTokenCapacity.toNat :=
          Nat.pos_of_ne_zero fun none => somePool (UInt32.toNat_inj.mp none)
        exact Nat.div_pos (Nat.le_of_dvd positive (Nat.dvd_of_mod_eq_zero divides))
          (Nat.pos_of_ne_zero fun none => someBlock (UInt32.toNat_inj.mp none))
      have summaryIs := exact_.summary
      have bound := UInt64.toNat_lt residentSummary
      dsimp only at summaryIs
      rw [summaryIs] at bound
      exact Nat.lt_of_le_of_lt (Nat.le_mul_of_pos_left _ someBlocks) bound
  · rintro ⟨attentionFits, summaryFits⟩
    have attentionIs := toNat_ofNat_of_lt attentionFits
    have summaryIs := toNat_ofNat_of_lt summaryFits
    have layerFits : request.geometry.exactAttention < 2 ^ 64 := by
      have someLayers : 0 < request.layerCount.toNat :=
        Nat.pos_of_ne_zero fun none => someLayer (UInt32.toNat_inj.mp none)
      exact Nat.lt_of_le_of_lt (Nat.le_mul_of_pos_left _ someLayers) attentionFits
    have auxiliaryIs : (if request.includeAuxiliaryLayer ≠ 0 then attention else 0).toNat = request.exactAuxiliary := by
      unfold JitStageBudgetRequest.exactAuxiliary
      split
      · rw [attention_eq, toNat_ofNat_of_lt layerFits]
      · rfl
    have indexIs : (request.indexKeyLayerCount.toUInt64 * UInt64.ofNat request.exactIndexKey).toNat =
        request.indexKeyLayerCount.toNat * request.exactIndexKey := by
      rw [← UInt64.ofNat_uInt32ToNat, ← UInt64.ofNat_mul]
      apply toNat_ofNat_of_lt
      refine Nat.lt_of_le_of_lt (Nat.mul_le_mul_left _ ?_) summaryFits
      omega
    rw [attentionIs, indexIs] at withIndexIs
    rw [withIndexIs, auxiliaryIs] at residentIs
    change resident.toNat = request.exactResident at residentIs
    rw [summaryIs] at residentSummaryIs payloadIs
    rw [residentIs] at residentTokensIs payloadTokensIs
    rw [residentTokensIs, residentSummaryIs] at residentPoolIs
    rw [payloadTokensIs] at payloadIs
    change payload.toNat = request.exactPayload at payloadIs
    have recordIs := alignUpU64_ok recordIs
    rw [recordUnalignedIs, payloadIs] at recordIs
    change record.toNat = request.exactRecord at recordIs
    rw [recordIs] at capacityIs
    have selectedBytes : (UInt64.ofNat request.exactAttention +
        if request.includeAuxiliaryLayer ≠ 0 then attention else 0).toNat =
        request.exactAttention + request.exactAuxiliary := by
      have bound := resident.toNat_lt
      rw [residentIs] at bound
      unfold JitStageBudgetRequest.exactResident at bound
      rw [UInt64.toNat_add, attentionIs, auxiliaryIs, Nat.mod_eq_of_lt (by omega)]
    rw [selectedTokensIs, selectedBytes] at workingSetIs
    have activeIs : (request.physicalPoolTokenCapacity.toUInt64 / request.activeSequenceCount.toUInt64).toUInt32.toNat =
        request.physicalPoolTokenCapacity.toNat / request.activeSequenceCount.toNat := by
      rw [UInt64.toNat_toUInt32, UInt64.toNat_div, UInt32.toNat_toUInt64, UInt32.toNat_toUInt64]
      exact Nat.mod_eq_of_lt (Nat.lt_of_le_of_lt (Nat.div_le_self _ _) (UInt32.toNat_lt _))
    have backingIs : (if backingTokens / request.backingRequestCount.toUInt64 > 0xffffffff then (0xffffffff : UInt32)
        else (backingTokens / request.backingRequestCount.toUInt64).toUInt32).toNat =
        min (request.backingBlockCapacity.toNat * request.blockTokenCount.toNat / request.backingRequestCount.toNat)
          (2 ^ 32 - 1) := by
      have average : (backingTokens / request.backingRequestCount.toUInt64).toNat =
          request.backingBlockCapacity.toNat * request.blockTokenCount.toNat / request.backingRequestCount.toNat := by
        rw [UInt64.toNat_div, backingTokensIs, UInt32.toNat_toUInt64]
      have large : backingTokens / request.backingRequestCount.toUInt64 > 0xffffffff ↔
          2 ^ 32 - 1 < (backingTokens / request.backingRequestCount.toUInt64).toNat := UInt64.lt_iff_toNat_lt
      rw [← average]
      split
      · rename_i beyond
        have := large.mp beyond
        rw [Nat.min_eq_right (by omega)]
        rfl
      · rename_i inside
        have := mt large.mpr inside
        rw [UInt64.toNat_toUInt32, Nat.mod_eq_of_lt (by omega), Nat.min_eq_left (by omega)]
    exact {
      firstLayer := rfl, layers := rfl, indexLayers := rfl, auxiliaryLayer := rfl, backingBlocks := rfl
      logicalBlocks := logicalBlocks
      activeContext := activeIs
      backingContext := backingIs
      attention := by rw [attentionPerToken, attentionIs]
      indexKey := by rw [indexKey, indexIs]
      auxiliary := auxiliaryIs
      resident := residentIs
      summary := residentSummaryIs
      pool := residentPoolIs
      payload := payloadIs
      record := recordIs
      capacity := capacityIs
      workingSet := workingSetIs }

end JitStage

section Estimate

variable (request : CapacityRequest)

namespace CapacityRequest

/-- What `SparkKvCacheEstimateCapacity` requires of a request. -/
def Valid : Prop :=
  request.contextTokenCount ≠ 0 ∧ request.blockTokenCount ≠ 0 ∧ request.layerCount ≠ 0 ∧ request.bytesPerScalar ≠ 0 ∧
  request.cacheBytesPerRank ≠ 0 ∧
  if request.layout = .compressedKeyValue ∨ request.layout = .compressedKeyValueFp8E4M3 then
    request.compressedDimension ≠ 0 ∧ request.positionDimension ≠ 0
  else request.headCount ≠ 0 ∧ request.queryKeyHeadDimension ≠ 0 ∧ request.valueHeadDimension ≠ 0

instance : Decidable request.Valid := by
  unfold Valid
  infer_instance

/-- The bytes of a token in the index layers: all three sizes are given, or none is. -/
def indexKeyBytes : Except SparkStatus UInt64 :=
  if request.indexKeyLayerCount ≠ 0 ∨ request.indexKeyDimension ≠ 0 ∨ request.indexKeyBytesPerScalar ≠ 0 then
    if request.indexKeyLayerCount = 0 ∨ request.indexKeyDimension = 0 ∨ request.indexKeyBytesPerScalar = 0 then
      .error .invalidArgument
    else .ok (request.indexKeyLayerCount.toUInt64 * request.indexKeyDimension.toUInt64 *
      request.indexKeyBytesPerScalar.toUInt64)
  else .ok 0

end CapacityRequest

/-- `SparkKvCacheEstimateCapacity`. -/
def estimateCapacity : Except SparkStatus CapacityEstimate :=
  if ¬ request.Valid then .error .invalidArgument
  else do
    let attention ← request.attentionBytes
    let indexKey ← request.indexKeyBytes
    let blockCount := ceilDivU64 request.contextTokenCount.toUInt64 request.blockTokenCount.toUInt64
    let perBlock := request.blockTokenCount.toUInt64 * attention
    let perContext := request.contextTokenCount.toUInt64 * request.layerCount.toUInt64 * attention +
      request.contextTokenCount.toUInt64 * indexKey
    if perContext = 0 then .error .invalidArgument
    else
      let contexts := (request.cacheBytesPerRank / perContext).toUInt32
      .ok {
        layout := request.layout
        contextTokenCount := request.contextTokenCount
        blockTokenCount := request.blockTokenCount
        layerCount := request.layerCount
        blockCountPerContext := blockCount.toUInt32
        contextsPerRank := contexts
        attentionBytesPerTokenPerLayer := attention
        indexKeyBytesPerToken := indexKey
        bytesPerBlockPerLayer := perBlock
        bytesPerContextPerRank := perContext
        unusedCacheBytesPerRank := request.cacheBytesPerRank - contexts.toUInt64 * perContext }

namespace CapacityRequest

/-- The number of bytes of a token in the index layers. -/
def exactIndexKey : Nat :=
  request.indexKeyLayerCount.toNat * request.indexKeyDimension.toNat * request.indexKeyBytesPerScalar.toNat

/-- The number of bytes of a context. -/
def exactContext : Nat :=
  request.contextTokenCount.toNat * request.layerCount.toNat * request.exactAttention +
    request.contextTokenCount.toNat * request.exactIndexKey

/-- The products fit in 64 bits, and the number of contexts in 32. -/
def Fits : Prop :=
  request.exactContext < 2 ^ 64 ∧ request.blockTokenCount.toNat * request.exactAttention < 2 ^ 64 ∧
    request.cacheBytesPerRank.toNat / request.exactContext < 2 ^ 32

end CapacityRequest

/-- Every field of an estimate is the number that its formula gives, and the contexts and the unused bytes are the
whole cache. -/
structure CapacityEstimate.Exact (request : CapacityRequest) (estimate : CapacityEstimate) : Prop where
  layout : estimate.layout = request.layout
  context : estimate.contextTokenCount = request.contextTokenCount
  block : estimate.blockTokenCount = request.blockTokenCount
  layers : estimate.layerCount = request.layerCount
  blocks : estimate.blockCountPerContext.toNat = request.contextTokenCount.toNat ⌈/⌉ request.blockTokenCount.toNat
  contexts : estimate.contextsPerRank.toNat = request.cacheBytesPerRank.toNat / request.exactContext
  attention : estimate.attentionBytesPerTokenPerLayer.toNat = request.exactAttention
  indexKey : estimate.indexKeyBytesPerToken.toNat = request.exactIndexKey
  perBlock : estimate.bytesPerBlockPerLayer.toNat = request.blockTokenCount.toNat * request.exactAttention
  perContext : estimate.bytesPerContextPerRank.toNat = request.exactContext
  unused : estimate.unusedCacheBytesPerRank.toNat = request.cacheBytesPerRank.toNat % request.exactContext
  total : estimate.contextsPerRank.toNat * estimate.bytesPerContextPerRank.toNat +
    estimate.unusedCacheBytesPerRank.toNat = request.cacheBytesPerRank.toNat
  less : estimate.unusedCacheBytesPerRank.toNat < estimate.bytesPerContextPerRank.toNat

variable {request} {estimate : CapacityEstimate} {bytes : UInt64}

theorem indexKeyBytes_ofNat (accepted : request.indexKeyBytes = .ok bytes) :
    bytes = UInt64.ofNat request.exactIndexKey := by
  unfold CapacityRequest.indexKeyBytes at accepted
  unfold CapacityRequest.exactIndexKey
  split at accepted
  · split at accepted
    · cases accepted
    · cases accepted
      rw [UInt64.ofNat_mul, UInt64.ofNat_mul, UInt64.ofNat_uInt32ToNat, UInt64.ofNat_uInt32ToNat, UInt64.ofNat_uInt32ToNat]
  · rename_i none
    cases accepted
    simp only [not_or, ne_eq, not_not] at none
    rw [none.1, UInt32.toNat_zero, Nat.zero_mul, Nat.zero_mul]
    rfl

theorem estimate_exact_iff (accepted : estimateCapacity request = .ok estimate) :
    estimate.Exact request ↔ request.Fits := by
  unfold estimateCapacity at accepted
  split at accepted
  · cases accepted
  rename_i valid
  obtain ⟨someContext, someBlock, someLayer, -⟩ := not_not.mp valid
  obtain ⟨attention, attentionIs, accepted⟩ := of_bind_ok accepted
  obtain ⟨indexKey, indexKeyIs, accepted⟩ := of_bind_ok accepted
  have attention_eq := attentionBytes_ofNat attentionIs
  have indexKey_eq := indexKeyBytes_ofNat indexKeyIs
  dsimp only at accepted
  have perContext_eq : request.contextTokenCount.toUInt64 * request.layerCount.toUInt64 * attention +
      request.contextTokenCount.toUInt64 * indexKey = UInt64.ofNat request.exactContext := by
    rw [attention_eq, indexKey_eq, CapacityRequest.exactContext, UInt64.ofNat_add, UInt64.ofNat_mul, UInt64.ofNat_mul,
      UInt64.ofNat_mul, UInt64.ofNat_uInt32ToNat, UInt64.ofNat_uInt32ToNat]
  have perBlock_eq : request.blockTokenCount.toUInt64 * attention =
      UInt64.ofNat (request.blockTokenCount.toNat * request.exactAttention) := by
    rw [attention_eq, UInt64.ofNat_mul, UInt64.ofNat_uInt32ToNat]
  rw [perContext_eq, perBlock_eq] at accepted
  split at accepted
  · cases accepted
  rename_i someBytes
  cases accepted
  constructor
  · intro exact_
    refine ⟨?_, ?_, ?_⟩
    · rw [← exact_.perContext]
      exact UInt64.toNat_lt _
    · rw [← exact_.perBlock]
      exact UInt64.toNat_lt _
    · rw [← exact_.contexts]
      exact UInt32.toNat_lt _
  · rintro ⟨contextFits, blockFits, contextsFit⟩
    have contextPositive : 0 < request.contextTokenCount.toNat :=
      Nat.pos_of_ne_zero fun none => someContext (UInt32.toNat_inj.mp none)
    have blockPositive : 0 < request.blockTokenCount.toNat :=
      Nat.pos_of_ne_zero fun none => someBlock (UInt32.toNat_inj.mp none)
    have perContextIs := toNat_ofNat_of_lt contextFits
    have bytesPositive : 0 < request.exactContext := by
      apply Nat.pos_of_ne_zero
      intro none
      rw [none] at someBytes
      exact someBytes rfl
    have attentionIs : attention.toNat = request.exactAttention := by
      rw [attention_eq]
      exact toNat_ofNat_of_lt (Nat.lt_of_le_of_lt (Nat.le_mul_of_pos_left _ blockPositive) blockFits)
    have indexKeyIs : indexKey.toNat = request.exactIndexKey := by
      rw [indexKey_eq]
      apply toNat_ofNat_of_lt
      have part : request.exactIndexKey ≤ request.contextTokenCount.toNat * request.exactIndexKey :=
        Nat.le_mul_of_pos_left _ contextPositive
      unfold CapacityRequest.exactContext at contextFits
      omega
    have blocksIs : (ceilDivU64 request.contextTokenCount.toUInt64 request.blockTokenCount.toUInt64).toUInt32.toNat =
        request.contextTokenCount.toNat ⌈/⌉ request.blockTokenCount.toNat := by
      have bound := request.contextTokenCount.toNat_lt
      have fewer : request.contextTokenCount.toNat ⌈/⌉ request.blockTokenCount.toNat ≤ request.contextTokenCount.toNat :=
        (Rounding.le_iff blockPositive).mpr (Nat.le_mul_of_pos_right _ blockPositive)
      rw [← UInt64.ofNat_uInt32ToNat (n := request.contextTokenCount), ceilDivU64_ofNat someBlock (by omega),
        UInt64.toNat_toUInt32, toNat_ofNat_of_lt (by omega), Nat.mod_eq_of_lt (by omega)]
    have contextsIs : (request.cacheBytesPerRank / UInt64.ofNat request.exactContext).toUInt32.toNat =
        request.cacheBytesPerRank.toNat / request.exactContext := by
      rw [UInt64.toNat_toUInt32, UInt64.toNat_div, perContextIs, Nat.mod_eq_of_lt contextsFit]
    have usedIs : ((request.cacheBytesPerRank / UInt64.ofNat request.exactContext).toUInt32.toUInt64 *
        UInt64.ofNat request.exactContext).toNat =
        request.cacheBytesPerRank.toNat / request.exactContext * request.exactContext := by
      have below := Nat.div_mul_le_self request.cacheBytesPerRank.toNat request.exactContext
      have bound := request.cacheBytesPerRank.toNat_lt
      rw [UInt64.toNat_mul, UInt32.toNat_toUInt64, contextsIs, perContextIs, Nat.mod_eq_of_lt (by omega)]
    have unusedIs : (request.cacheBytesPerRank - (request.cacheBytesPerRank /
        UInt64.ofNat request.exactContext).toUInt32.toUInt64 * UInt64.ofNat request.exactContext).toNat =
        request.cacheBytesPerRank.toNat % request.exactContext := by
      have below := Nat.div_mul_le_self request.cacheBytesPerRank.toNat request.exactContext
      rw [UInt64.toNat_sub_of_le _ _ (UInt64.le_iff_toNat_le.mpr (usedIs ▸ below)), usedIs, Nat.mul_comm]
      exact (Nat.mod_eq_sub_mul_div).symm
    exact {
      layout := rfl, context := rfl, block := rfl, layers := rfl
      blocks := blocksIs
      contexts := contextsIs
      attention := attentionIs
      indexKey := indexKeyIs
      perBlock := toNat_ofNat_of_lt blockFits
      perContext := perContextIs
      unused := unusedIs
      total := by
        rw [contextsIs, perContextIs, unusedIs, Nat.mul_comm]
        exact Nat.div_add_mod _ _
      less := by
        rw [unusedIs, perContextIs]
        exact Nat.mod_lt _ bytesPositive }

end Estimate

/-- A budget and an estimate are exact where the products that nothing checks fit. -/
theorem budgets_exact_iff (request : JitStageBudgetRequest) (capacityRequest : CapacityRequest) :
    (∀ budget, calculateJitStageBudget request = .ok budget → (budget.Exact request ↔ request.Fits)) ∧
      ∀ estimate, estimateCapacity capacityRequest = .ok estimate →
        (estimate.Exact capacityRequest ↔ capacityRequest.Fits) :=
  ⟨fun _ accepted => jitStageBudget_exact_iff accepted, fun _ accepted => estimate_exact_iff accepted⟩

/-- A stage of one layer whose heads have `headDimension` scalars of four bytes. -/
def oneLayerStage (headCount headDimension : UInt32) : JitStageBudgetRequest where
  firstLayerIndex := 0
  layerCount := 1
  physicalPoolTokenCapacity := 256
  backingBlockCapacity := 4
  activeSequenceCount := 1
  backingRequestCount := 1
  selectedTokenCount := 16
  includeAuxiliaryLayer := 0
  blockTokenCount := 64
  recordAlignmentBytes := 4096
  attentionCacheLayout := .fullKeyValue
  fp8ScaleBlockSize := 0
  headCount := headCount
  queryKeyHeadDimension := headDimension
  valueHeadDimension := 0
  compressedDimension := 0
  positionDimension := 0
  bytesPerScalar := 4
  indexKeyLayerCount := 0
  indexKeyDimension := 0
  indexKeyBytesPerScalar := 0

/-- A rank with a cache of a gigabyte. -/
def oneLayerRank : CapacityRequest where
  layout := .compressedKeyValue
  contextTokenCount := 1024
  blockTokenCount := 64
  layerCount := 1
  headCount := 0
  queryKeyHeadDimension := 0
  valueHeadDimension := 0
  compressedDimension := 512
  positionDimension := 64
  bytesPerScalar := 2
  fp8ScaleBlockSize := 0
  cacheBytesPerRank := 1073741824

theorem isOk_eq {α : Type} {call : Except SparkStatus α} (accepted : call.isOk = true) : ∃ result, call = .ok result := by
  cases call with
  | error status => cases accepted
  | ok result => exact ⟨result, rfl⟩

theorem budgets_exact_small :
    (∃ budget, calculateJitStageBudget (oneLayerStage 8 128) = .ok budget ∧ budget.Exact (oneLayerStage 8 128)) ∧
      ∃ estimate, estimateCapacity oneLayerRank = .ok estimate ∧ estimate.Exact oneLayerRank := by
  obtain ⟨budget, accepted⟩ := isOk_eq (show (calculateJitStageBudget (oneLayerStage 8 128)).isOk = true by decide +kernel)
  obtain ⟨estimate, estimated⟩ := isOk_eq (show (estimateCapacity oneLayerRank).isOk = true by decide +kernel)
  obtain ⟨budgets, estimates⟩ := budgets_exact_iff (oneLayerStage 8 128) oneLayerRank
  exact ⟨⟨budget, accepted, (budgets budget accepted).mpr (by constructor <;> decide +kernel)⟩,
    estimate, estimated, (estimates estimate estimated).mpr (by refine ⟨?_, ?_, ?_⟩ <;> decide +kernel)⟩

/-- The bytes of a token wrap to zero, and the budget is accepted. -/
theorem wideHeads_inexact : ¬ ∀ request budget, calculateJitStageBudget request = .ok budget → budget.Exact request := by
  intro always
  obtain ⟨budget, accepted⟩ := isOk_eq
    (show (calculateJitStageBudget (oneLayerStage 0x80000000 0x80000000)).isOk = true by decide +kernel)
  have fits := (jitStageBudget_exact_iff accepted).mp (always _ budget accepted)
  exact absurd fits.1 (by decide +kernel)

end Sparkpipe.KvBudget
