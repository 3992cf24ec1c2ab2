import Mathlib.Algebra.GroupWithZero.Nat
import Mathlib.Data.List.Chain
import Sparkpipe.Batch.State

/-!
# The waves of a prefill

A prompt is computed in waves. A wave takes a span of the tokens that are still missing:
whole blocks, up to the next checkpoint, the last token before the prompt's end and the end
of a streamed prefill. A wave that the ranks refuse for want of pages is tried again with a
shorter span, and the request fails when its span is down to the rest of a block.

A request is `Request`, as far as its prefill reads it. What a wave leaves behind is a
request and what is to become of it next. The publication of the completed prefix, which can
fail, is an outcome of the wave.
-/

namespace Sparkpipe.BatchEngine

/-- `SPARK_MODEL_SERVING_ADAPTER_MAX_CACHE_BLOCK_TOKEN_COUNT`. -/
def maxCacheBlockTokenCount : UInt32 := 256

/-- `SparkModelBatchEngine`, with what its configuration, its deployment and its adapter say of a
prefill. -/
structure PrefillConfiguration where
  maxPrefillRows : UInt32
  maxInputRowCount : UInt32
  cacheBlockTokenCount : UInt32
  cacheCheckpointTokenCount : UInt32

/-- The checks of `SparkModelBatchValidateConfiguration`, `SparkModelBatchInitialize` and
`SparkDescriptorCheckCacheBlockFields` on these fields. -/
def PrefillConfiguration.accepted (config : PrefillConfiguration) : Bool :=
  config.maxPrefillRows ≠ 0 ∧ config.maxPrefillRows ≤ config.maxInputRowCount ∧
    config.cacheBlockTokenCount ≤ maxCacheBlockTokenCount ∧ config.cacheBlockTokenCount ≠ 0 ∧
    config.cacheCheckpointTokenCount % config.cacheBlockTokenCount = 0

/-- `SparkModelBatchRequestState`. -/
structure Request where
  promptTokenCount : UInt32
  computedPromptTokenCount : UInt32
  prefillSpanLimit : UInt32 := 0
  deferEnd : UInt32 := 0
  draftCount : UInt32 := 0
  cancelPending : Bool := false
  residentBound : Bool := false
  busyRetryNotBeforeNs : UInt64 := 0
  deriving DecidableEq

section Spans

variable (config : PrefillConfiguration) (request : Request)

/-- `SparkModelBatchPromptCheckpoint`. -/
def promptCheckpoint : UInt32 :=
  if config.cacheCheckpointTokenCount = 0 ∨ request.promptTokenCount < 2 ∨
      request.promptTokenCount - 1 < config.cacheBlockTokenCount then 0
  else request.promptTokenCount - 1

/-- `SparkModelBatchDeferring`. -/
def Request.deferring (request : Request) : Bool := request.computedPromptTokenCount < request.deferEnd

/-- `block_remaining`. -/
def blockRemaining : UInt32 :=
  config.cacheBlockTokenCount - request.computedPromptTokenCount % config.cacheBlockTokenCount

/-- `limit`. -/
def spanLimit : UInt32 :=
  if request.prefillSpanLimit ≠ 0 ∧ request.prefillSpanLimit < config.maxPrefillRows then
    request.prefillSpanLimit
  else config.maxPrefillRows

/-- The rest of the block, with the whole blocks after it that the limit admits. -/
def blockSpan : UInt32 :=
  if blockRemaining config request < spanLimit config request then
    blockRemaining config request +
      (spanLimit config request - blockRemaining config request) / config.cacheBlockTokenCount *
        config.cacheBlockTokenCount
  else blockRemaining config request

/-- The part of the span before the next checkpoint. -/
def checkpointSpan (span : UInt32) : UInt32 :=
  if config.cacheCheckpointTokenCount ≠ 0 then
    let computed := request.computedPromptTokenCount
    let last := promptCheckpoint config request
    let next := (computed / config.cacheCheckpointTokenCount + 1) * config.cacheCheckpointTokenCount
    let span := if computed < last ∧ last < computed + span then last - computed else span
    if next < computed + span then next - computed else span
  else span

/-- The part of the span before the end of the streamed prefill. -/
def deferSpan (span : UInt32) : UInt32 :=
  if request.deferring ∧ request.deferEnd - request.computedPromptTokenCount < span then
    request.deferEnd - request.computedPromptTokenCount
  else span

/-- `SparkModelBatchPrefillSpan`. -/
def prefillSpan : UInt32 :=
  let remaining := request.promptTokenCount - request.computedPromptTokenCount
  let span := blockSpan config request
  deferSpan request (checkpointSpan config request (if remaining < span then remaining else span))

/-- `SparkModelBatchCanonicalPrefillSpan`. -/
def canonicalPrefillSpan : UInt32 :=
  let span := prefillSpan config request
  if span < config.maxPrefillRows then span else config.maxPrefillRows

end Spans

section Waves

variable (config : PrefillConfiguration) (request : Request)

/-- What becomes of a request: it is queued for its prefill again, its first token is accepted, it
is cancelled, or it fails. -/
inductive Next where
  | queued
  | accept
  | cancel
  | fail
  deriving DecidableEq

/-- `SparkModelBatchShrinkPrefillSpan`. -/
def shrinkPrefillSpan (refusedSpan : UInt32) : Option Request :=
  if refusedSpan ≤ blockRemaining config request then none
  else some { request with
    prefillSpanLimit :=
      if blockRemaining config request < refusedSpan / 2 then refusedSpan / 2 else blockRemaining config request }

/-- `SparkModelBatchRestoreOrCancel` of a prefill. -/
def Request.restoreOrCancel (request : Request) : Request × Next :=
  if request.cancelPending then (request, .cancel) else ({ request with draftCount := 0 }, .queued)

/-- `SparkModelBatchHandleRejected` for a lane of a prefill that is refused for want of pages. -/
def handleRejected (admitted : Bool) (prefillCount : UInt32) : Request × Next :=
  match shrinkPrefillSpan config request prefillCount with
  | some request =>
    { request with
      busyRetryNotBeforeNs := 0
      residentBound := admitted || request.residentBound }.restoreOrCancel
  | none => ({ request with residentBound := true }, .fail)

/-- `SparkModelBatchHandlePrefillCompletion` for one lane, whose prefix is published or not. -/
def handlePrefillCompletion (published : Bool) (prefillCount : UInt32) : Request × Next :=
  let request := { request with
    computedPromptTokenCount := request.computedPromptTokenCount + prefillCount
    residentBound := true }
  if !published then (request, .fail)
  else if request.computedPromptTokenCount < request.promptTokenCount then
    if request.cancelPending then (request, .cancel) else (request, .queued)
  else (request, .accept)

/-- How a wave ends. -/
inductive Outcome where
  | refused (admitted : Bool)
  | completed (published : Bool)

/-- A wave: `SparkModelBatchAssignPrefillCounts` gives the lane its span. -/
def submitWave : Outcome → Request × Next
  | .refused admitted => handleRejected config request admitted (canonicalPrefillSpan config request)
  | .completed published => handlePrefillCompletion request published (canonicalPrefillSpan config request)

/-- A wave of a run: the request as it is submitted, and the outcome. -/
structure Wave where
  request : Request
  outcome : Outcome

/-- The waves of a request from one state to another: each is submitted while the request is queued. -/
inductive Run (start : Request) : List Wave → Request → Next → Prop where
  | begin : Run start [] start .queued
  | wave {waves request outcome after next} (run : Run start waves request .queued)
      (submitted : submitWave config request outcome = (after, next)) :
      Run start (waves ++ [⟨request, outcome⟩]) after next

end Waves

section Bounds

variable {config : PrefillConfiguration} {request : Request}

/-- The next multiple of the checkpoint is a number of 32 bits. -/
def CheckpointFits (config : PrefillConfiguration) (request : Request) : Prop :=
  config.cacheCheckpointTokenCount ≠ 0 →
    (request.computedPromptTokenCount.toNat / config.cacheCheckpointTokenCount.toNat + 1) *
      config.cacheCheckpointTokenCount.toNat < 2 ^ 32

/-- The span of a wave has a token, no more than the rows of a submission, and ends where it must. -/
structure SpanInBounds (config : PrefillConfiguration) (request : Request) (span : Nat) : Prop where
  positive : 0 < span
  rows : span ≤ config.maxPrefillRows.toNat
  prompt : request.computedPromptTokenCount.toNat + span ≤ request.promptTokenCount.toNat
  checkpoint : config.cacheCheckpointTokenCount ≠ 0 →
    request.computedPromptTokenCount.toNat + span ≤
      (request.computedPromptTokenCount.toNat / config.cacheCheckpointTokenCount.toNat + 1) *
        config.cacheCheckpointTokenCount.toNat
  last : request.computedPromptTokenCount < promptCheckpoint config request →
    request.computedPromptTokenCount.toNat + span ≤ (promptCheckpoint config request).toNat
  deferred : request.computedPromptTokenCount < request.deferEnd →
    request.computedPromptTokenCount.toNat + span ≤ request.deferEnd.toNat

theorem PrefillConfiguration.accepted_iff : config.accepted = true ↔
    config.maxPrefillRows ≠ 0 ∧ config.maxPrefillRows ≤ config.maxInputRowCount ∧
      config.cacheBlockTokenCount ≤ maxCacheBlockTokenCount ∧ config.cacheBlockTokenCount ≠ 0 ∧
      config.cacheCheckpointTokenCount % config.cacheBlockTokenCount = 0 := by
  unfold PrefillConfiguration.accepted
  exact decide_eq_true_iff

theorem toNat_pos {value : UInt32} (isSome : value ≠ 0) : 0 < value.toNat := by
  apply Nat.pos_of_ne_zero
  intro zero
  exact isSome (UInt32.toNat_inj.mp zero)

theorem blockRemaining_toNat (isBlock : config.cacheBlockTokenCount ≠ 0) :
    (blockRemaining config request).toNat = config.cacheBlockTokenCount.toNat -
      request.computedPromptTokenCount.toNat % config.cacheBlockTokenCount.toNat := by
  have below := Nat.mod_lt request.computedPromptTokenCount.toNat (toNat_pos isBlock)
  rw [blockRemaining, UInt32.toNat_sub_of_le, UInt32.toNat_mod]
  rw [UInt32.le_iff_toNat_le, UInt32.toNat_mod]
  omega

theorem blockRemaining_pos (request : Request) (isBlock : config.cacheBlockTokenCount ≠ 0) :
    0 < (blockRemaining config request).toNat := by
  have below := Nat.mod_lt request.computedPromptTokenCount.toNat (toNat_pos isBlock)
  rw [blockRemaining_toNat isBlock]
  omega

/-- The blocks of a span are no more than the limit admits, if they are more than the rest of one. -/
theorem blockSpan_bounds (config : PrefillConfiguration) (request : Request) :
    (blockRemaining config request).toNat ≤ (blockSpan config request).toNat ∧
      (blockSpan config request).toNat ≤
        max (blockRemaining config request).toNat (spanLimit config request).toNat := by
  unfold blockSpan
  split
  · rename_i below
    rw [UInt32.lt_iff_toNat_lt] at below
    have room := (spanLimit config request).toNat_lt
    have less := Nat.div_mul_le_self
      ((spanLimit config request).toNat - (blockRemaining config request).toNat) config.cacheBlockTokenCount.toNat
    rw [UInt32.toNat_add, UInt32.toNat_mul, UInt32.toNat_div,
      UInt32.toNat_sub_of_le _ _ (UInt32.le_iff_toNat_le.mpr (Nat.le_of_lt below)),
      Nat.mod_eq_of_lt (a := _ * _) (by omega), Nat.mod_eq_of_lt (by omega)]
    omega
  · omega

/-- A span that ends after a place ahead is cut there. -/
theorem cut_bounds {computed place span : UInt32} (ahead : computed < place)
    (fits : computed.toNat + span.toNat < 2 ^ 32) (positive : 0 < span.toNat) :
    0 < (if place < computed + span then place - computed else span).toNat ∧
      (if place < computed + span then place - computed else span).toNat ≤ span.toNat ∧
      computed.toNat + (if place < computed + span then place - computed else span).toNat ≤ place.toNat := by
  have distance : (place - computed).toNat = place.toNat - computed.toNat :=
    UInt32.toNat_sub_of_le _ _ (UInt32.le_of_lt ahead)
  rw [UInt32.lt_iff_toNat_lt] at ahead
  split <;> rename_i inside <;>
    rw [UInt32.lt_iff_toNat_lt, UInt32.toNat_add, Nat.mod_eq_of_lt fits] at inside
  · rw [distance]
    omega
  · omega

/-- While the next checkpoint fits, it is where the checkpoint's own arithmetic puts it. -/
theorem nextCheckpoint_toNat (fits : CheckpointFits config request) (isSome : config.cacheCheckpointTokenCount ≠ 0) :
    ((request.computedPromptTokenCount / config.cacheCheckpointTokenCount + 1) *
        config.cacheCheckpointTokenCount).toNat =
      (request.computedPromptTokenCount.toNat / config.cacheCheckpointTokenCount.toNat + 1) *
        config.cacheCheckpointTokenCount.toNat := by
  have product := fits isSome
  have factor : request.computedPromptTokenCount.toNat / config.cacheCheckpointTokenCount.toNat + 1 < 2 ^ 32 :=
    Nat.lt_of_le_of_lt (Nat.le_mul_of_pos_right _ (toNat_pos isSome)) product
  rw [UInt32.toNat_mul, UInt32.toNat_add, UInt32.toNat_div, UInt32.toNat_one, Nat.mod_eq_of_lt factor,
    Nat.mod_eq_of_lt product]

theorem checkpointSpan_bounds {span : UInt32} (fits : CheckpointFits config request)
    (inside : request.computedPromptTokenCount.toNat + span.toNat < 2 ^ 32) (positive : 0 < span.toNat) :
    0 < (checkpointSpan config request span).toNat ∧
      (checkpointSpan config request span).toNat ≤ span.toNat ∧
      (config.cacheCheckpointTokenCount ≠ 0 →
        request.computedPromptTokenCount.toNat + (checkpointSpan config request span).toNat ≤
          (request.computedPromptTokenCount.toNat / config.cacheCheckpointTokenCount.toNat + 1) *
            config.cacheCheckpointTokenCount.toNat) ∧
      (request.computedPromptTokenCount < promptCheckpoint config request →
        request.computedPromptTokenCount.toNat + (checkpointSpan config request span).toNat ≤
          (promptCheckpoint config request).toNat) := by
  unfold checkpointSpan
  by_cases isSome : config.cacheCheckpointTokenCount ≠ 0
  · rw [if_pos isSome]
    dsimp only
    have next := nextCheckpoint_toNat fits isSome
    generalize (request.computedPromptTokenCount / config.cacheCheckpointTokenCount + 1) *
      config.cacheCheckpointTokenCount = place at next
    have ahead : request.computedPromptTokenCount < place := by
      rw [UInt32.lt_iff_toNat_lt, next, Nat.mul_comm]
      exact Nat.lt_mul_div_succ _ (toNat_pos isSome)
    by_cases before : request.computedPromptTokenCount < promptCheckpoint config request
    · obtain ⟨first, shorter, atLast⟩ := cut_bounds before inside positive
      simp only [before, true_and]
      generalize (if promptCheckpoint config request < request.computedPromptTokenCount + span then _ else _) =
        cut at first shorter atLast ⊢
      obtain ⟨second, shortest, atNext⟩ := cut_bounds ahead (by omega) first
      exact ⟨second, by omega, fun _ => by omega, fun _ => by omega⟩
    · simp only [before, false_and, if_false]
      obtain ⟨first, shorter, atNext⟩ := cut_bounds ahead inside positive
      exact ⟨first, shorter, fun _ => by omega, fun impossible => impossible.elim⟩
  · rw [if_neg isSome]
    refine ⟨positive, le_refl _, fun impossible => absurd impossible isSome, fun impossible => ?_⟩
    rw [promptCheckpoint, if_pos (Or.inl (not_not.mp isSome)), UInt32.lt_iff_toNat_lt] at impossible
    exact absurd impossible (Nat.not_lt_zero _)

theorem deferSpan_bounds (request : Request) {span : UInt32} (positive : 0 < span.toNat) :
    0 < (deferSpan request span).toNat ∧ (deferSpan request span).toNat ≤ span.toNat ∧
      (request.computedPromptTokenCount < request.deferEnd →
        request.computedPromptTokenCount.toNat + (deferSpan request span).toNat ≤ request.deferEnd.toNat) := by
  unfold deferSpan Request.deferring
  by_cases defers : request.computedPromptTokenCount < request.deferEnd
  · have distance := UInt32.toNat_sub_of_le _ _ (UInt32.le_of_lt defers)
    have ahead := UInt32.lt_iff_toNat_lt.mp defers
    split <;> rename_i cut <;> simp only [defers, decide_true, true_and, UInt32.lt_iff_toNat_lt] at cut
    · omega
    · omega
  · rw [if_neg fun both => defers (of_decide_eq_true both.1)]
    exact ⟨positive, le_refl _, fun impossible => absurd impossible defers⟩

/-- The rest of the prompt, as far as the blocks go. -/
theorem remainingSpan_bounds (isBlock : config.cacheBlockTokenCount ≠ 0)
    (unfinished : request.computedPromptTokenCount < request.promptTokenCount) (span : UInt32)
    (isSpan : span = if request.promptTokenCount - request.computedPromptTokenCount < blockSpan config request then
      request.promptTokenCount - request.computedPromptTokenCount else blockSpan config request) :
    0 < span.toNat ∧ span.toNat ≤ (blockSpan config request).toNat ∧
      request.computedPromptTokenCount.toNat + span.toNat ≤ request.promptTokenCount.toNat := by
  have distance := UInt32.toNat_sub_of_le _ _ (UInt32.le_of_lt unfinished)
  have some := blockRemaining_pos request isBlock
  have blocks := (blockSpan_bounds config request).1
  rw [UInt32.lt_iff_toNat_lt] at unfinished
  subst isSpan
  split <;> rename_i less <;> rw [UInt32.lt_iff_toNat_lt] at less <;> omega

/-- The span of a wave is within its bounds, and within the blocks that the limit admits. -/
theorem canonicalPrefillSpan_bounds (accepted : config.accepted = true) (fits : CheckpointFits config request)
    (unfinished : request.computedPromptTokenCount < request.promptTokenCount) :
    SpanInBounds config request (canonicalPrefillSpan config request).toNat ∧
      (canonicalPrefillSpan config request).toNat ≤ (blockSpan config request).toNat := by
  obtain ⟨isSome, -, -, isBlock, -⟩ := PrefillConfiguration.accepted_iff.mp accepted
  have rows := toNat_pos isSome
  have prompt := request.promptTokenCount.toNat_lt
  unfold canonicalPrefillSpan prefillSpan
  dsimp only
  obtain ⟨positive, blocks, remaining⟩ := remainingSpan_bounds isBlock unfinished _ rfl
  generalize (if _ < blockSpan config request then _ else _) = span at positive blocks remaining ⊢
  obtain ⟨cutSome, cutLess, checkpoint, last⟩ := checkpointSpan_bounds fits (by omega) positive
  generalize checkpointSpan config request span = cut at cutSome cutLess checkpoint last ⊢
  obtain ⟨deferSome, deferLess, deferred⟩ := deferSpan_bounds request cutSome
  generalize deferSpan request cut = final at deferSome deferLess deferred ⊢
  have least : (if final < config.maxPrefillRows then final else config.maxPrefillRows).toNat =
      min final.toNat config.maxPrefillRows.toNat := by
    split <;> rename_i less <;> rw [UInt32.lt_iff_toNat_lt] at less <;> omega
  rw [least]
  refine ⟨⟨by omega, by omega, by omega, fun isCheckpoint => ?_, fun before => ?_, fun before => ?_⟩, by omega⟩
  · have := checkpoint isCheckpoint
    omega
  · have := last before
    omega
  · have := deferred before
    omega

/-- A span that is cut down after a refusal is shorter than the refused one, whatever is in the
record beside the positions and the limit. -/
theorem shrinkPrefillSpan_lt (accepted : config.accepted = true) {refused : Nat} {shrunk : Request}
    {count : UInt32} (isCount : count.toNat = refused) (rows : refused ≤ config.maxPrefillRows.toNat)
    (shrinks : shrinkPrefillSpan config request count = some shrunk) :
    (blockSpan config shrunk).toNat < refused := by
  obtain ⟨-, -, -, isBlock, -⟩ := PrefillConfiguration.accepted_iff.mp accepted
  have positive := blockRemaining_pos request isBlock
  unfold shrinkPrefillSpan at shrinks
  split at shrinks
  · cases shrinks
  rename_i longer
  rw [UInt32.le_iff_toNat_le, isCount, Nat.not_le] at longer
  obtain rfl := Option.some.inj shrinks
  clear shrinks
  have half : (count / 2).toNat = refused / 2 := by
    rw [UInt32.toNat_div, isCount]
    rfl
  generalize isLimit : (if blockRemaining config request < count / 2 then count / 2
    else blockRemaining config request) = limit
  have between : (blockRemaining config request).toNat ≤ limit.toNat ∧ limit.toNat < refused := by
    subst isLimit
    split <;> rename_i less <;> rw [UInt32.lt_iff_toNat_lt, half] at less <;> omega
  have taken : spanLimit config { request with prefillSpanLimit := limit } = limit := by
    refine if_pos ⟨fun zero => ?_, UInt32.lt_iff_toNat_lt.mpr (Nat.lt_of_lt_of_le between.2 rows)⟩
    change limit = 0 at zero
    rw [zero, UInt32.toNat_zero] at between
    omega
  have most := (blockSpan_bounds config { request with prefillSpanLimit := limit }).2
  rw [taken] at most
  exact Nat.lt_of_le_of_lt most (max_lt (Nat.lt_of_le_of_lt between.1 between.2) between.2)

end Bounds

section Progress

variable {config : PrefillConfiguration} {start request : Request} {waves : List Wave} {next : Next}

theorem shrinkPrefillSpan_kept {count : UInt32} {shrunk : Request}
    (shrinks : shrinkPrefillSpan config request count = some shrunk) :
    shrunk.computedPromptTokenCount = request.computedPromptTokenCount ∧
      shrunk.promptTokenCount = request.promptTokenCount := by
  unfold shrinkPrefillSpan at shrinks
  split at shrinks
  · cases shrinks
  · obtain rfl := Option.some.inj shrinks
    exact ⟨rfl, rfl⟩

/-- A refused wave leaves the positions of the request, which is not accepted. -/
theorem handleRejected_kept (config : PrefillConfiguration) (request : Request) (admitted : Bool) (count : UInt32) :
    (handleRejected config request admitted count).1.computedPromptTokenCount = request.computedPromptTokenCount ∧
      (handleRejected config request admitted count).1.promptTokenCount = request.promptTokenCount ∧
      (handleRejected config request admitted count).2 ≠ .accept := by
  unfold handleRejected
  cases shrinks : shrinkPrefillSpan config request count with
  | none => exact ⟨rfl, rfl, nofun⟩
  | some shrunk =>
    obtain ⟨computed, prompt⟩ := shrinkPrefillSpan_kept shrinks
    dsimp only [Request.restoreOrCancel]
    split <;> exact ⟨computed, prompt, nofun⟩

/-- A refused wave ends the request, or leaves it queued with a shorter span to come. -/
theorem handleRejected_lt (accepted : config.accepted = true) (fits : CheckpointFits config request)
    (unfinished : request.computedPromptTokenCount < request.promptTokenCount) (admitted : Bool) :
    (submitWave config request (.refused admitted)).2 = .fail ∨
      (submitWave config request (.refused admitted)).2 = .cancel ∧ request.cancelPending = true ∨
      (submitWave config request (.refused admitted)).2 = .queued ∧
        canonicalPrefillSpan config (submitWave config request (.refused admitted)).1 <
          canonicalPrefillSpan config request := by
  obtain ⟨bounds, -⟩ := canonicalPrefillSpan_bounds accepted fits unfinished
  unfold submitWave handleRejected
  dsimp only
  cases shrinks : shrinkPrefillSpan config request (canonicalPrefillSpan config request) with
  | none => exact .inl rfl
  | some shrunk =>
    have shorter := shrinkPrefillSpan_lt accepted rfl bounds.rows shrinks
    obtain ⟨computed, prompt⟩ := shrinkPrefillSpan_kept shrinks
    have pending : shrunk.cancelPending = request.cancelPending := by
      unfold shrinkPrefillSpan at shrinks
      split at shrinks
      · cases shrinks
      · obtain rfl := Option.some.inj shrinks
        rfl
    dsimp only [Request.restoreOrCancel]
    split
    · rename_i cancelled
      exact .inr (.inl ⟨rfl, pending ▸ cancelled⟩)
    · refine .inr (.inr ⟨rfl, UInt32.lt_iff_toNat_lt.mpr (Nat.lt_of_le_of_lt ?_ shorter)⟩)
      refine (canonicalPrefillSpan_bounds accepted ?_ ?_).2
      · unfold CheckpointFits
        dsimp only
        rw [computed]
        exact fits
      · dsimp only
        rw [computed, prompt]
        exact unfinished

/-- A completed wave adds its span to the positions; it goes on before the end of the prompt. -/
theorem handlePrefillCompletion_computed (request : Request) (published : Bool) (count : UInt32) :
    (handlePrefillCompletion request published count).1.computedPromptTokenCount =
        request.computedPromptTokenCount + count ∧
      (handlePrefillCompletion request published count).1.promptTokenCount = request.promptTokenCount ∧
      ((handlePrefillCompletion request published count).2 = .queued →
        request.computedPromptTokenCount + count < request.promptTokenCount) ∧
      ((handlePrefillCompletion request published count).2 = .accept →
        ¬ request.computedPromptTokenCount + count < request.promptTokenCount) := by
  unfold handlePrefillCompletion
  dsimp only
  split
  · exact ⟨rfl, rfl, nofun, nofun⟩
  split
  · rename_i before
    split
    · exact ⟨rfl, rfl, nofun, nofun⟩
    · exact ⟨rfl, rfl, fun _ => before, nofun⟩
  · rename_i after
    exact ⟨rfl, rfl, nofun, fun _ => after⟩

/-- The span a wave is submitted with. -/
def Wave.span (config : PrefillConfiguration) (wave : Wave) : UInt32 := canonicalPrefillSpan config wave.request

/-- The wave is refused. -/
def Wave.isRefused (wave : Wave) : Bool :=
  match wave.outcome with
  | .refused _ => true
  | .completed _ => false

/-- The tokens that a wave computes. -/
def Wave.computed (config : PrefillConfiguration) (wave : Wave) : Nat :=
  match wave.outcome with
  | .refused _ => 0
  | .completed _ => (wave.span config).toNat

/-- After a refusal the next wave is shorter. -/
def Follows (config : PrefillConfiguration) (wave next : Wave) : Prop :=
  wave.isRefused = true → next.span config < wave.span config

theorem Wave.outcome_of_isRefused {wave : Wave} (isRefused : wave.isRefused = true) :
    ∃ admitted, wave.outcome = .refused admitted := by
  unfold Wave.isRefused at isRefused
  split at isRefused
  · rename_i admitted isOutcome
    exact ⟨admitted, isOutcome⟩
  · cases isRefused

/-- Numbers that fall from below a bound on are no more than the bound. -/
theorem length_le_of_falling {numbers : List Nat} {bound : Nat} (falling : numbers.Pairwise (· > ·))
    (bounded : ∀ number ∈ numbers, 0 < number ∧ number ≤ bound) : numbers.length ≤ bound := by
  induction numbers generalizing bound with
  | nil => exact Nat.zero_le _
  | cons first rest ih =>
    obtain ⟨above, falls⟩ := List.pairwise_cons.mp falling
    obtain ⟨positive, below⟩ := bounded first (.head _)
    have shorter : rest.length ≤ first - 1 := by
      apply ih falls
      intro number member
      have less := above number member
      exact ⟨(bounded number (.tail _ member)).1, by omega⟩
    rw [List.length_cons]
    omega

/-- What holds of the waves of a request and of the state they lead to. -/
structure Progress (config : PrefillConfiguration) (start : Request) (waves : List Wave) (request : Request)
    (next : Next) : Prop where
  prompt : request.promptTokenCount = start.promptTokenCount
  sum : request.computedPromptTokenCount.toNat =
    start.computedPromptTokenCount.toNat + (waves.map (Wave.computed config)).sum
  queued : next = .queued → request.computedPromptTokenCount < request.promptTokenCount
  accepted : next = .accept → request.computedPromptTokenCount = request.promptTokenCount
  inside : request.computedPromptTokenCount.toNat ≤ request.promptTokenCount.toNat
  unfinished : ∀ wave ∈ waves, wave.request.computedPromptTokenCount < wave.request.promptTokenCount
  last : ∀ wave ∈ waves.getLast?, submitWave config wave.request wave.outcome = (request, next)
  follows : waves.IsChain (Follows config)

/-- What one wave does to the positions of a request. -/
theorem submitWave_positions (accepted : config.accepted = true) (fits : CheckpointFits config request)
    (unfinished : request.computedPromptTokenCount < request.promptTokenCount) (outcome : Outcome) {after : Request}
    {next : Next} (submitted : submitWave config request outcome = (after, next)) :
    after.promptTokenCount = request.promptTokenCount ∧
      after.computedPromptTokenCount.toNat =
        request.computedPromptTokenCount.toNat + (Wave.mk request outcome).computed config ∧
      (next = .queued → after.computedPromptTokenCount < after.promptTokenCount) ∧
      (next = .accept → ¬ after.computedPromptTokenCount < after.promptTokenCount) ∧
      after.computedPromptTokenCount.toNat ≤ after.promptTokenCount.toNat := by
  obtain ⟨bounds, -⟩ := canonicalPrefillSpan_bounds accepted fits unfinished
  cases outcome with
  | refused admitted =>
    have kept := handleRejected_kept config request admitted
      (canonicalPrefillSpan config request)
    change handleRejected config request admitted _ = _ at submitted
    rw [submitted] at kept
    obtain ⟨computed, prompt, notAccepted⟩ := kept
    dsimp only at computed prompt notAccepted
    rw [computed, prompt]
    exact ⟨rfl, rfl, fun _ => unfinished, fun impossible => absurd impossible notAccepted,
      Nat.le_of_lt (UInt32.lt_iff_toNat_lt.mp unfinished)⟩
  | completed published =>
    have completes := handlePrefillCompletion_computed request published
      (canonicalPrefillSpan config request)
    change handlePrefillCompletion request published _ = _ at submitted
    rw [submitted] at completes
    obtain ⟨computed, prompt, queued, ends⟩ := completes
    dsimp only at computed prompt queued ends
    have sum : (request.computedPromptTokenCount + canonicalPrefillSpan config request).toNat =
        request.computedPromptTokenCount.toNat + (canonicalPrefillSpan config request).toNat := by
      rw [UInt32.toNat_add, Nat.mod_eq_of_lt]
      exact Nat.lt_of_le_of_lt bounds.prompt request.promptTokenCount.toNat_lt
    rw [computed, prompt, sum]
    exact ⟨rfl, rfl, queued, ends, bounds.prompt⟩

theorem progress (accepted : config.accepted = true)
    (unfinished : start.computedPromptTokenCount < start.promptTokenCount)
    (run : Run config start waves request next) (fits : ∀ wave ∈ waves, CheckpointFits config wave.request) :
    Progress config start waves request next := by
  induction run with
  | begin => exact {
      prompt := rfl
      sum := rfl
      queued := fun _ => unfinished
      accepted := nofun
      inside := Nat.le_of_lt (UInt32.lt_iff_toNat_lt.mp unfinished)
      unfinished := nofun
      last := nofun
      follows := List.isChain_nil }
  | @wave waves request outcome after next run submitted ih =>
    have before := ih fun wave member => fits wave (List.mem_append_left _ member)
    have fitsHere : CheckpointFits config request :=
      fits ⟨request, outcome⟩ (List.mem_append_right _ (.head _))
    have isUnfinished := before.queued rfl
    obtain ⟨prompt, sum, queued, ends, inside⟩ := submitWave_positions accepted fitsHere isUnfinished outcome submitted
    exact {
      prompt := prompt.trans before.prompt
      sum := by
        rw [sum, before.sum, List.map_append, List.sum_append, Nat.add_assoc]
        rfl
      queued := queued
      accepted := fun isAccepted => by
        have reached := ends isAccepted
        rw [UInt32.lt_iff_toNat_lt] at reached
        exact UInt32.toNat_inj.mp (by omega)
      inside := inside
      unfinished := by
        intro wave member
        rcases List.mem_append.mp member with earlier | here
        · exact before.unfinished wave earlier
        · rw [List.mem_singleton.mp here]
          exact isUnfinished
      last := by
        intro wave member
        rw [List.getLast?_concat, Option.mem_some_iff] at member
        rw [← member]
        exact submitted
      follows := by
        apply before.follows.append (List.isChain_singleton _)
        intro wave isLast following isNext
        obtain rfl := Option.mem_some_iff.mp isNext
        intro isRefused
        obtain ⟨admitted, refused⟩ := Wave.outcome_of_isRefused isRefused
        have member := List.mem_of_getLast? isLast
        have shorter := handleRejected_lt accepted (fits wave (List.mem_append_left _ member))
          (before.unfinished wave member) admitted
        rw [← refused, before.last wave isLast] at shorter
        rcases shorter with impossible | ⟨impossible, -⟩ | ⟨-, less⟩
        · cases impossible
        · cases impossible
        · exact less }

theorem Progress.bounds (made : Progress config start waves request next) (accepted : config.accepted = true)
    (fits : ∀ wave ∈ waves, CheckpointFits config wave.request) {wave : Wave} (member : wave ∈ waves) :
    SpanInBounds config wave.request (wave.span config).toNat :=
  (canonicalPrefillSpan_bounds accepted (fits wave member) (made.unfinished wave member)).1

/-- The spans of waves that are refused one after the other fall. -/
theorem Progress.refusals_le (made : Progress config start waves request next) (accepted : config.accepted = true)
    (fits : ∀ wave ∈ waves, CheckpointFits config wave.request) {before refusals later : List Wave}
    (isRun : waves = before ++ refusals ++ later) (refused : ∀ wave ∈ refusals, wave.isRefused = true) :
    refusals.length ≤ config.maxPrefillRows.toNat := by
  have inRun : ∀ wave ∈ refusals, wave ∈ waves := by
    intro wave member
    rw [isRun]
    exact List.mem_append_left _ (List.mem_append_right _ member)
  have falls : refusals.IsChain fun wave next => (wave.span config).toNat > (next.span config).toNat := by
    have chained := made.follows
    rw [isRun] at chained
    apply (chained.left_of_append).right_of_append.imp_of_mem_imp
    intro wave next member _ follows
    exact UInt32.lt_iff_toNat_lt.mp (follows (refused wave member))
  rw [← List.length_map fun wave => (wave.span config).toNat]
  apply length_le_of_falling
  · rw [← List.isChain_iff_pairwise, List.isChain_map]
    exact falls
  · intro number member
    obtain ⟨wave, inside, rfl⟩ := List.mem_map.mp member
    have bounds := made.bounds accepted fits (inRun wave inside)
    exact ⟨bounds.positive, bounds.rows⟩

/-- Every completed wave computes a token at least. -/
theorem completions_le_computed (config : PrefillConfiguration) (positive : ∀ wave ∈ waves, 0 < (wave.span config).toNat) :
    (waves.filter fun wave => !wave.isRefused).length ≤ (waves.map (Wave.computed config)).sum := by
  induction waves with
  | nil => exact Nat.le_refl 0
  | cons wave rest ih =>
    have later := ih fun other member => positive other (.tail _ member)
    have here := positive wave (.head _)
    rw [List.filter_cons, List.map_cons, List.sum_cons]
    obtain ⟨request, outcome⟩ := wave
    cases outcome with
    | refused admitted => exact Nat.le_trans later (Nat.le_add_left _ _)
    | completed published =>
      rw [if_pos (by rfl), List.length_cons]
      change 0 < (canonicalPrefillSpan config request).toNat at here
      change _ ≤ (canonicalPrefillSpan config request).toNat + _
      omega

/-- In a run whose next checkpoints are numbers of 32 bits the waves stay in their bounds and make
progress: a refused wave ends the request or is followed by a shorter one, and the completed waves
compute the prompt to its end. -/
theorem prefill_progress (accepted : config.accepted = true)
    (unfinished : start.computedPromptTokenCount < start.promptTokenCount)
    (run : Run config start waves request next) (fits : ∀ wave ∈ waves, CheckpointFits config wave.request) :
    (∀ wave ∈ waves, SpanInBounds config wave.request (wave.span config).toNat) ∧
      (∀ wave ∈ waves, wave.isRefused = true →
        (submitWave config wave.request wave.outcome).2 = .fail ∨
          (submitWave config wave.request wave.outcome).2 = .cancel ∧ wave.request.cancelPending = true ∨
          (submitWave config wave.request wave.outcome).2 = .queued ∧
            canonicalPrefillSpan config (submitWave config wave.request wave.outcome).1 < wave.span config) ∧
      (∀ before refusals later, waves = before ++ refusals ++ later →
        (∀ wave ∈ refusals, wave.isRefused = true) → refusals.length < config.maxPrefillRows.toNat + 1) ∧
      request.computedPromptTokenCount.toNat =
        start.computedPromptTokenCount.toNat + (waves.map (Wave.computed config)).sum ∧
      (waves.filter fun wave => !wave.isRefused).length ≤
        start.promptTokenCount.toNat - start.computedPromptTokenCount.toNat ∧
      (next = .queued → request.computedPromptTokenCount < start.promptTokenCount) ∧
      (next = .accept → request.computedPromptTokenCount = start.promptTokenCount) := by
  have made := progress accepted unfinished run fits
  refine ⟨fun wave member => made.bounds accepted fits member, ?_, ?_, made.sum, ?_, ?_, ?_⟩
  · intro wave member isRefused
    obtain ⟨admitted, isOutcome⟩ := Wave.outcome_of_isRefused isRefused
    rw [isOutcome]
    exact handleRejected_lt accepted (fits wave member) (made.unfinished wave member) admitted
  · intro before refusals later isRun refused
    exact Nat.lt_succ_of_le (made.refusals_le accepted fits isRun refused)
  · have count := completions_le_computed config fun wave member =>
      (made.bounds accepted fits member).positive
    have inside := made.inside
    rw [made.prompt, made.sum] at inside
    omega
  · rw [← made.prompt]
    exact made.queued
  · rw [← made.prompt]
    exact made.accepted

/-- A span of 511 tokens is refused; the half of it, in whole blocks, is computed. -/
theorem prefill_progress_twoWaves :
    let config : PrefillConfiguration := ⟨512, 512, 128, 1024⟩
    let start : Request := { promptTokenCount := 512, computedPromptTokenCount := 0 }
    let second : Request := { start with prefillSpanLimit := 255, residentBound := true }
    128 = 0 + ([⟨start, .refused true⟩, ⟨second, .completed true⟩].map (Wave.computed config)).sum :=
  let config : PrefillConfiguration := ⟨512, 512, 128, 1024⟩
  let start : Request := { promptTokenCount := 512, computedPromptTokenCount := 0 }
  let second : Request := { start with prefillSpanLimit := 255, residentBound := true }
  have first : Run config start [⟨start, .refused true⟩] second .queued := .wave .begin (by decide)
  have both : Run config start [⟨start, .refused true⟩, ⟨second, .completed true⟩]
      { second with computedPromptTokenCount := 128 } .queued := first.wave (by decide)
  (prefill_progress (by decide) (by decide) both (by
    intro wave member
    rcases List.mem_cons.mp member with rfl | later
    · intro _
      decide
    · rw [List.mem_singleton.mp later]
      intro _
      decide)).2.2.2.1

/-- Past the last checkpoint that is a number of 32 bits, the next one is taken for zero: the span
goes beyond the prompt, and a refused span comes back as long as it was. -/
theorem wideCheckpoint_endless :
    let config : PrefillConfiguration := ⟨256, 256, 128, 0x80000000⟩
    let short : Request := { promptTokenCount := 0x80000064, computedPromptTokenCount := 0x80000000 }
    let long : Request := { promptTokenCount := 0x80000400, computedPromptTokenCount := 0x80000000 }
    config.accepted = true ∧
      short.promptTokenCount.toNat <
        short.computedPromptTokenCount.toNat + (canonicalPrefillSpan config short).toNat ∧
      (submitWave config long (.refused true)).2 = .queued ∧
      canonicalPrefillSpan config (submitWave config long (.refused true)).1 = canonicalPrefillSpan config long := by
  decide

end Progress

end Sparkpipe.BatchEngine
