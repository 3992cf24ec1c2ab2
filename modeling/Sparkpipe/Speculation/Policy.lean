import Sparkpipe.Speculation.Verifier

/-!
# The books of the speculation policy

The rest of `src/spark_speculation_policy.c`: a sequence whose verifier taps are ready gets a
draft, and the verification of the draft is completed with a result that is checked first. What the
resolution of a verified tree writes always passes the check, and the counters account for every
token that has been proposed. What `SparkSpeculationPolicyValidate` asks for is set once by the
initialization.
-/

namespace Sparkpipe.SpeculationPolicy

open Function

/-- `SPARK_SPECULATION_CONFIDENCE_MILLI_ONE`. -/
def confidenceMilliOne : UInt32 := 1000

/-- `SPARK_SPECULATION_POLICY_REALTIME_PRIORITY_THRESHOLD`. -/
def realtimePriorityThreshold : UInt32 := 4000000000

/-- The words of a `SparkSpeculationPolicyVerifyResult`, which any caller may have written. -/
structure VerifyWords where
  abiVersion : UInt32
  descriptorBytes : UInt32
  flags : UInt32
  proposedTokenCount : UInt32
  acceptedDraftTokenCount : UInt32
  committedTokenCount : UInt32
  fallbackTokenId : UInt32
  reserved : UInt32

/-- `SPARK_SPECULATION_VERIFY_RESULT_FLAG_ACCEPTED_ALL` and `..._REJECTED`. -/
def VerifyFlag.word : VerifyFlag → UInt32
  | .acceptedAll => 1
  | .rejected => 2

/-- The words of a result of the resolution. -/
def VerifyResult.words (result : VerifyResult) : VerifyWords where
  abiVersion := UInt32.ofNat result.abiVersion
  descriptorBytes := UInt32.ofNat result.descriptorBytes
  flags := result.flags.word
  proposedTokenCount := UInt32.ofNat result.proposedTokenCount
  acceptedDraftTokenCount := UInt32.ofNat result.acceptedDraftTokenCount
  committedTokenCount := UInt32.ofNat result.committedTokenCount
  fallbackTokenId := result.fallbackTokenId
  reserved := 0

/-- `SparkSpeculationPolicyValidateVerifyResult`. -/
def validateVerifyResult (words : VerifyWords) : SparkStatus :=
  if words.abiVersion ≠ 3 ∨ words.descriptorBytes ≠ 32 ∨ words.flags &&& ~~~3 ≠ 0 ∨
      words.proposedTokenCount = 0 ∨ 32 < words.proposedTokenCount ∨
      words.proposedTokenCount < words.acceptedDraftTokenCount ∨
      words.proposedTokenCount + 1 < words.committedTokenCount ∨ words.reserved ≠ 0 then .invalidArgument
  else if words.flags &&& 1 ≠ 0 ∧ words.acceptedDraftTokenCount ≠ words.proposedTokenCount then .invalidArgument
  else if words.flags &&& 2 ≠ 0 ∧ words.proposedTokenCount ≤ words.acceptedDraftTokenCount then .invalidArgument
  else .ok

/-- `SparkSpeculationSequenceState`. -/
structure SequenceState where
  valid : Bool := false
  tapsReady : Bool := false
  draftReady : Bool := false
  verifyInflight : Bool := false
  draftTokenCount : UInt32 := 0
  acceptedDraftTokenCount : UInt32 := 0
  committedTokenCount : UInt32 := 0
  rejectedTokenCount : UInt32 := 0
  requestId : UInt64 := 0
  sequenceId : UInt64 := 0
  sequencePosition : UInt64 := 0
  tapGeneration : UInt64 := 0
  draftGeneration : UInt64 := 0
  draftTokenIds : Nat → UInt32 := fun _ => 0
  draftConfidenceMilli : Nat → UInt32 := fun _ => 0

/-- `SparkSpeculationConfiguration`. -/
structure Configuration where
  sequenceStateCount : UInt32
  minimumConfidenceMilli : UInt32
  realtimeMinimumConfidenceMilli : UInt32
  vocabSize : UInt32
  maximumSpeculativeTokenCount : UInt32

/-- `SparkSpeculationSpeculator`. -/
structure Speculator where
  sequenceStateCount : UInt32
  minimumConfidenceMilli : UInt32
  realtimeMinimumConfidenceMilli : UInt32
  vocabSize : UInt32
  maximumSpeculativeTokenCount : UInt32
  nextTapGeneration : UInt64 := 1
  nextDraftGeneration : UInt64 := 1
  tapReadyCount : UInt64 := 0
  draftRequestCount : UInt64 := 0
  draftSuccessCount : UInt64 := 0
  draftRejectedByConfidenceCount : UInt64 := 0
  verifyDispatchCount : UInt64 := 0
  acceptedDraftTokenCount : UInt64 := 0
  committedTokenCount : UInt64 := 0
  rejectedTokenCount : UInt64 := 0
  sequenceStates : Nat → SequenceState := fun _ => {}

/-- `SparkSpeculationPolicyDraftRequest`. -/
structure DraftRequest where
  requestedTokenCount : UInt32
  priority : UInt32
  sequenceId : UInt64
  tapGeneration : UInt64

/-- `SparkSpeculationPolicyDraftResult`. -/
structure DraftResult where
  tokenCount : UInt32
  confidenceMilli : Nat → UInt32
  tokenIds : Nat → UInt32

/-- `SparkSpeculationPolicyNormalizeConfidenceMilli`. -/
def normalizeConfidenceMilli (confidenceMilli defaultConfidenceMilli : UInt32) : UInt32 :=
  if confidenceMilli = 0 then defaultConfidenceMilli
  else if confidenceMilliOne < confidenceMilli then confidenceMilliOne
  else confidenceMilli

/-- `SparkSpeculationPolicyInitialize`, with what it asks of these settings. -/
def initializeSpeculator (configuration : Configuration) : Except SparkStatus Speculator :=
  if configuration.sequenceStateCount = 0 ∨ configuration.vocabSize = 0 ∨
      configuration.maximumSpeculativeTokenCount = 0 ∨ 32 < configuration.maximumSpeculativeTokenCount then
    .error .invalidArgument
  else .ok {
    sequenceStateCount := configuration.sequenceStateCount
    minimumConfidenceMilli := normalizeConfidenceMilli configuration.minimumConfidenceMilli 350
    realtimeMinimumConfidenceMilli := normalizeConfidenceMilli configuration.realtimeMinimumConfidenceMilli 250
    vocabSize := configuration.vocabSize
    maximumSpeculativeTokenCount := configuration.maximumSpeculativeTokenCount }

/-- The generation after another; zero is left out. -/
def nextGeneration (generation : UInt64) : UInt64 := if generation + 1 = 0 then 1 else generation + 1

namespace Speculator

variable (speculator : Speculator)

/-- Write one sequence state. -/
def setState (index : Nat) (state : SequenceState) : Speculator :=
  { speculator with sequenceStates := update speculator.sequenceStates index state }

/-- `SparkSpeculationPolicyFindSequenceState`. -/
def findSequenceState (sequenceId : UInt64) : Option Nat :=
  if sequenceId = 0 then none
  else (List.range speculator.sequenceStateCount.toNat).find? fun index =>
    (speculator.sequenceStates index).valid && (speculator.sequenceStates index).sequenceId = sequenceId

/-- `SparkSpeculationPolicyFindFreeSequenceState`. -/
def findFreeSequenceState : Option Nat :=
  (List.range speculator.sequenceStateCount.toNat).find? fun index => !(speculator.sequenceStates index).valid

/-- `SparkSpeculationPolicyAcquireSequenceState`: the state, and what is in it. -/
def acquireSequenceState (requestId sequenceId : UInt64) : Option (Nat × SequenceState) :=
  match speculator.findSequenceState sequenceId with
  | some index => some (index, { speculator.sequenceStates index with requestId := requestId })
  | none => speculator.findFreeSequenceState.map fun index =>
    (index, { valid := true, requestId := requestId, sequenceId := sequenceId })

/-- `SparkSpeculationPolicyMarkVerifierTapsReady`. -/
def markVerifierTapsReady (requestId sequenceId sequencePosition : UInt64) : SparkStatus × Speculator :=
  if sequenceId = 0 then (.invalidArgument, speculator)
  else
    match speculator.acquireSequenceState requestId sequenceId with
    | none => (.capacityExceeded, speculator)
    | some (index, state) =>
      (.ok, { speculator.setState index { state with
          draftReady := false
          verifyInflight := false
          tapsReady := true
          sequencePosition := sequencePosition
          tapGeneration := speculator.nextTapGeneration
          draftTokenCount := 0 } with
        nextTapGeneration := nextGeneration speculator.nextTapGeneration
        tapReadyCount := speculator.tapReadyCount + 1 })

/-- `SparkSpeculationPolicyValidateDraftResult`. -/
def draftResultValid (result : DraftResult) (requestedTokenCount : UInt32) : Bool :=
  result.tokenCount ≠ 0 && result.tokenCount ≤ requestedTokenCount && result.tokenCount ≤ 32 &&
    (List.range result.tokenCount.toNat).all fun index =>
      result.tokenIds index < speculator.vocabSize && result.confidenceMilli index ≤ confidenceMilliOne

/-- `SparkSpeculationPolicyConfidenceThresholdForRequest`. -/
def confidenceThreshold (request : DraftRequest) : UInt32 :=
  if realtimePriorityThreshold ≤ request.priority then speculator.realtimeMinimumConfidenceMilli
  else speculator.minimumConfidenceMilli

/-- `SparkSpeculationPolicyAcceptedDraftLengthByConfidence`. -/
def acceptedByConfidence (request : DraftRequest) (result : DraftResult) : UInt32 :=
  match (List.range result.tokenCount.toNat).find? fun index =>
      result.confidenceMilli index < speculator.confidenceThreshold request with
  | some index => UInt32.ofNat index
  | none => result.tokenCount

/-- The draft that is kept of a sequence. -/
def keepDraft (index : Nat) (request : DraftRequest) (result : DraftResult) : Speculator :=
  let accepted := speculator.acceptedByConfidence request result
  { speculator.setState index { speculator.sequenceStates index with
      draftReady := true
      draftGeneration := speculator.nextDraftGeneration
      draftTokenCount := accepted
      draftTokenIds := fun token => if token < accepted.toNat then result.tokenIds token else 0
      draftConfidenceMilli := fun token => if token < accepted.toNat then result.confidenceMilli token else 0 } with
    nextDraftGeneration := nextGeneration speculator.nextDraftGeneration
    draftSuccessCount := speculator.draftSuccessCount + 1 }

/-- `SparkSpeculationPolicyEnsureDraft`, with what the draft function answers. -/
def ensureDraft (request : DraftRequest) (drafted : SparkStatus × DraftResult) : SparkStatus × Speculator :=
  if request.requestedTokenCount = 0 ∨ 32 < request.requestedTokenCount ∨ request.sequenceId = 0 ∨
      request.tapGeneration = 0 then (.invalidArgument, speculator)
  else if speculator.maximumSpeculativeTokenCount < request.requestedTokenCount then (.invalidArgument, speculator)
  else
    match speculator.findSequenceState request.sequenceId with
    | none => (.notFound, speculator)
    | some index =>
      let state := speculator.sequenceStates index
      if state.tapsReady = false ∨ state.tapGeneration ≠ request.tapGeneration then (.notFound, speculator)
      else if state.draftReady then (.ok, speculator)
      else
        let asked := { speculator with draftRequestCount := speculator.draftRequestCount + 1 }
        if drafted.1 ≠ .ok then (drafted.1, asked)
        else if asked.draftResultValid drafted.2 request.requestedTokenCount = false then (.invalidArgument, asked)
        else if asked.acceptedByConfidence request drafted.2 = 0 then
          (.notFound, { asked with
            draftRejectedByConfidenceCount := speculator.draftRejectedByConfidenceCount + 1 })
        else (.ok, asked.keepDraft index request drafted.2)

/-- `SparkSpeculationPolicyCompleteVerify`. -/
def completeVerify (sequenceId : UInt64) (words : VerifyWords) : SparkStatus × Speculator :=
  if validateVerifyResult words ≠ .ok then (validateVerifyResult words, speculator)
  else
    match speculator.findSequenceState sequenceId with
    | none => (.invalidArgument, speculator)
    | some index =>
      let state := speculator.sequenceStates index
      if state.draftReady = false ∨ state.draftTokenCount ≠ words.proposedTokenCount then
        (.invalidArgument, speculator)
      else
        let rejected := if words.acceptedDraftTokenCount < words.proposedTokenCount then
          words.proposedTokenCount - words.acceptedDraftTokenCount else 0
        (.ok, { speculator.setState index { state with
            acceptedDraftTokenCount := state.acceptedDraftTokenCount + words.acceptedDraftTokenCount
            committedTokenCount := state.committedTokenCount + words.committedTokenCount
            rejectedTokenCount := state.rejectedTokenCount + rejected
            draftReady := false
            verifyInflight := false
            draftTokenCount := 0 } with
          rejectedTokenCount := speculator.rejectedTokenCount + rejected.toUInt64
          acceptedDraftTokenCount := speculator.acceptedDraftTokenCount + words.acceptedDraftTokenCount.toUInt64
          committedTokenCount := speculator.committedTokenCount + words.committedTokenCount.toUInt64
          verifyDispatchCount := speculator.verifyDispatchCount + 1 })

end Speculator

section Resolved

variable {draft : Draft} {verifier : Rows} {acceptance : Acceptance} {node : Nat}

/-- What the pass knows of the nodes that it has accepted: each is one deeper than its parent, no two
are as deep, and every depth up to the best one has been reached. -/
structure Counted (draft : Draft) (verifier : Rows) (count : Nat) (acceptance : Acceptance) : Prop where
  parent : ∀ node < count, acceptance.acceptedDepth node ≠ 0 →
    acceptance.acceptedDepth node = acceptance.depthOf (draftParentIndex draft node) + 1 ∧
      (draftParentIndex draft node = parentIndexRoot ∨
        acceptance.acceptedDepth (draftParentIndex draft node) ≠ 0) ∧
      draft.tokenIds node = verifier.tokenIds (rowIndex (draftParentIndex draft node))
  alone : ∀ node < count, ∀ other < count, acceptance.acceptedDepth node ≠ 0 →
    acceptance.acceptedDepth node = acceptance.acceptedDepth other → node = other
  reached : ∀ depth < acceptance.bestDepth, ∃ node < count, acceptance.acceptedDepth node = depth + 1
  bounded : ∀ node < count, acceptance.acceptedDepth node ≤ acceptance.bestDepth
  counted : acceptance.acceptedNodeCount = acceptance.bestDepth
  most : acceptance.bestDepth ≤ count

/-- The parent of a node comes before it. -/
theorem Draft.Valid.parent_lt (valid : draft.Valid) (below : node < draft.tokenCount.toNat)
    (inner : draftParentIndex draft node ≠ parentIndexRoot) :
    draftParentIndex draft node < node ∧ draftParentIndex draft node ≠ node := by
  have before := (valid.parents node below).resolve_left inner
  exact ⟨before, before.ne⟩

/-- The depth of a place does not change once the pass has come past it. -/
theorem depthOf_update (valid : draft.Valid) (below : node < draft.tokenCount.toNat) {earlier depth : Nat}
    (before : earlier ≤ node) {after : Acceptance}
    (updated : after.acceptedDepth = update acceptance.acceptedDepth node depth) :
    after.depthOf (draftParentIndex draft earlier) = acceptance.depthOf (draftParentIndex draft earlier) := by
  unfold Acceptance.depthOf
  split
  · rfl
  · rename_i inner
    have parent := (valid.parent_lt (Nat.lt_of_le_of_lt before below) inner).1
    rw [updated]
    exact update_of_ne (by omega) ..

/-- No earlier node is as deep as one that is accepted: it would be a sibling with the same token. -/
theorem Counted.deepest (counted : Counted draft verifier node acceptance) (valid : draft.Valid)
    (below : node < draft.tokenCount.toNat)
    (reached : draftParentIndex draft node = parentIndexRoot ∨ acceptance.depthOf (draftParentIndex draft node) ≠ 0)
    (token : draft.tokenIds node = verifier.tokenIds (rowIndex (draftParentIndex draft node))) :
    acceptance.depthOf (draftParentIndex draft node) = acceptance.bestDepth := by
  have noOther : ∀ other < node,
      acceptance.acceptedDepth other ≠ acceptance.depthOf (draftParentIndex draft node) + 1 := by
    intro other before same
    obtain ⟨deeper, otherReached, otherToken⟩ :=
      counted.parent other before (by rw [same]; exact Nat.succ_ne_zero _)
    have depths : acceptance.depthOf (draftParentIndex draft other) =
        acceptance.depthOf (draftParentIndex draft node) := by omega
    have parents : draftParentIndex draft other = draftParentIndex draft node := by
      by_cases top : draftParentIndex draft node = parentIndexRoot
      · rcases otherReached with otherTop | deep
        · rw [top, otherTop]
        · by_contra different
          rw [top] at depths different
          rw [Acceptance.depthOf, if_neg different, Acceptance.depthOf, if_pos rfl] at depths
          exact deep depths
      · have deep := reached.resolve_left top
        have otherInner : draftParentIndex draft other ≠ parentIndexRoot := by
          intro otherTop
          rw [otherTop, Acceptance.depthOf, if_pos rfl] at depths
          exact deep depths.symm
        have parentBefore := (valid.parent_lt below top).1
        have otherParentBefore := (valid.parent_lt (before.trans below) otherInner).1
        rw [Acceptance.depthOf, if_neg otherInner, Acceptance.depthOf, if_neg top] at depths
        rw [Acceptance.depthOf, if_neg top, ← depths] at deep
        exact counted.alone _ (by omega) _ (by omega) deep depths
    rw [parents] at otherToken
    exact valid.siblings node below other before parents (otherToken.trans token.symm)
  have bounded : acceptance.depthOf (draftParentIndex draft node) ≤ acceptance.bestDepth := by
    unfold Acceptance.depthOf
    split
    · exact Nat.zero_le _
    · rename_i inner
      exact counted.bounded _ (valid.parent_lt below inner).1
  by_contra different
  obtain ⟨other, before, same⟩ := counted.reached _ (Nat.lt_of_le_of_ne bounded different)
  exact noOther other before same

/-- One node of the pass. -/
theorem acceptNode_counted (counted : Counted draft verifier node acceptance) (valid : draft.Valid)
    (below : node < draft.tokenCount.toNat) :
    Counted draft verifier (node + 1) (acceptNode draft verifier acceptance node) := by
  have others : ∀ {place : Nat}, place < node + 1 → place ≠ node → place < node := by omega
  unfold acceptNode
  dsimp only
  split
  · rename_i reached
    have deepest := counted.deepest valid below reached.1 reached.2
    rw [deepest, if_pos (Nat.lt_succ_self _), if_pos (Nat.lt_succ_self _)]
    have kept : ∀ {place : Nat}, place ≠ node →
        update acceptance.acceptedDepth node (acceptance.bestDepth + 1) place = acceptance.acceptedDepth place :=
      fun different => update_of_ne different ..
    constructor
    · intro place placeBelow deep
      by_cases here : place = node
      · rw [here]
        refine ⟨?_, ?_, reached.2⟩
        · rw [depthOf_update valid below le_rfl rfl, deepest]
          exact update_self ..
        · rcases reached.1 with top | inner
          · exact .inl top
          · by_cases top : draftParentIndex draft node = parentIndexRoot
            · exact .inl top
            · rw [Acceptance.depthOf, if_neg top] at inner
              dsimp only
              rw [kept (valid.parent_lt below top).2]
              exact .inr inner
      · have before := others placeBelow here
        dsimp only at deep ⊢
        rw [kept here] at deep ⊢
        obtain ⟨depth, inner, token⟩ := counted.parent place before deep
        refine ⟨?_, ?_, token⟩
        · rw [depth]
          exact (congrArg (· + 1) (depthOf_update valid below before.le rfl)).symm
        · refine inner.imp_right fun deepParent => ?_
          by_cases top : draftParentIndex draft place = parentIndexRoot
          · rw [top] at deepParent ⊢
            rw [kept (valid.ne_root below).symm]
            exact deepParent
          · have parent := (valid.parent_lt (before.trans below) top).1
            rw [kept (by omega)]
            exact deepParent
    · intro one oneBelow other otherBelow deep same
      dsimp only at deep same
      by_cases oneHere : one = node
      · by_cases otherHere : other = node
        · rw [oneHere, otherHere]
        · have bounded := counted.bounded other (others otherBelow otherHere)
          rw [oneHere, update_self, kept otherHere] at same
          omega
      · by_cases otherHere : other = node
        · have bounded := counted.bounded one (others oneBelow oneHere)
          rw [otherHere, update_self, kept oneHere] at same
          omega
        · rw [kept oneHere, kept otherHere] at same
          rw [kept oneHere] at deep
          exact counted.alone one (others oneBelow oneHere) other (others otherBelow otherHere) deep same
    · intro depth depthBelow
      dsimp only at depthBelow ⊢
      rcases Nat.lt_succ_iff_lt_or_eq.mp depthBelow with earlier | rfl
      · obtain ⟨place, before, same⟩ := counted.reached depth earlier
        refine ⟨place, Nat.lt_succ_of_lt before, ?_⟩
        rw [kept before.ne]
        exact same
      · exact ⟨node, Nat.lt_succ_self node, update_self ..⟩
    · intro place placeBelow
      dsimp only
      by_cases here : place = node
      · rw [here, update_self]
      · rw [kept here]
        exact Nat.le_succ_of_le (counted.bounded place (others placeBelow here))
    · exact congrArg (· + 1) counted.counted
    · exact Nat.succ_le_succ counted.most
  · have kept : ∀ {place : Nat}, place ≠ node →
        update acceptance.acceptedDepth node 0 place = acceptance.acceptedDepth place :=
      fun different => update_of_ne different ..
    have ne : ∀ {place : Nat}, update acceptance.acceptedDepth node 0 place ≠ 0 → place ≠ node := by
      rintro place deep rfl
      exact deep (update_self ..)
    constructor
    · intro place placeBelow deep
      dsimp only at deep ⊢
      have here := ne deep
      have before := others placeBelow here
      rw [kept here] at deep ⊢
      obtain ⟨depth, inner, token⟩ := counted.parent place before deep
      refine ⟨?_, ?_, token⟩
      · rw [depth]
        exact (congrArg (· + 1) (depthOf_update valid below before.le rfl)).symm
      · refine inner.imp_right fun deepParent => ?_
        by_cases top : draftParentIndex draft place = parentIndexRoot
        · rw [top] at deepParent ⊢
          rw [kept (valid.ne_root below).symm]
          exact deepParent
        · have parent := (valid.parent_lt (before.trans below) top).1
          rw [kept (by omega)]
          exact deepParent
    · intro one oneBelow other otherBelow deep same
      dsimp only at deep same
      have oneHere := ne deep
      have otherHere := ne (same ▸ deep)
      rw [kept oneHere, kept otherHere] at same
      rw [kept oneHere] at deep
      exact counted.alone one (others oneBelow oneHere) other (others otherBelow otherHere) deep same
    · intro depth depthBelow
      obtain ⟨place, before, same⟩ := counted.reached depth depthBelow
      refine ⟨place, Nat.lt_succ_of_lt before, ?_⟩
      dsimp only
      rw [kept before.ne]
      exact same
    · intro place placeBelow
      dsimp only
      by_cases here : place = node
      · rw [here, update_self]
        exact Nat.zero_le _
      · rw [kept here]
        exact counted.bounded place (others placeBelow here)
    · exact counted.counted
    · exact Nat.le_succ_of_le counted.most

theorem acceptNodes_counted (valid : draft.Valid) {count : Nat} (bound : count ≤ draft.tokenCount.toNat) :
    Counted draft verifier count (acceptNodes draft verifier count) := by
  induction count with
  | zero =>
    constructor
    · exact fun node below => absurd below (Nat.not_lt_zero node)
    · exact fun node below => absurd below (Nat.not_lt_zero node)
    · exact fun depth below => absurd below (Nat.not_lt_zero depth)
    · exact fun node below => absurd below (Nat.not_lt_zero node)
    · rfl
    · exact Nat.le_refl 0
  | succ count ih =>
    have step : acceptNodes draft verifier (count + 1) =
        acceptNode draft verifier (acceptNodes draft verifier count) count := by
      simp [acceptNodes, List.range_succ]
    rw [step]
    exact acceptNode_counted (ih (Nat.le_of_succ_le bound)) valid bound

/-- As many nodes are accepted as the best one is deep, and no more than there are. -/
theorem resolveVerifierTree_counts {vocabSize : UInt32} {result : VerifyResult}
    (resolved : resolveVerifierTree draft verifier vocabSize = .ok result) :
    result = verifyResult draft verifier ∧ draft.tokenCount.toNat ≠ 0 ∧ draft.tokenCount.toNat ≤ 32 ∧
      (acceptNodes draft verifier draft.tokenCount.toNat).acceptedNodeCount =
        (acceptNodes draft verifier draft.tokenCount.toNat).bestDepth ∧
      (acceptNodes draft verifier draft.tokenCount.toNat).bestDepth ≤ draft.tokenCount.toNat := by
  unfold resolveVerifierTree at resolved
  split at resolved
  · exact absurd resolved (by simp)
  · rename_i checked
    have arguments := Decidable.not_not.mp checked
    obtain ⟨valid, -⟩ := argumentsStatus_ok arguments
    have counted : Counted draft verifier draft.tokenCount.toNat _ := acceptNodes_counted valid le_rfl
    refine ⟨(Except.ok.inj resolved).symm, ?_, valid.count, counted.counted, counted.most⟩
    intro zero
    unfold argumentsStatus at arguments
    rw [if_pos (Or.inl (UInt32.toNat_inj.mp zero))] at arguments
    cases arguments

/-- The checks that a result of a resolution meets. -/
theorem validateVerifyResult_ok {words : VerifyWords} (abi : words.abiVersion = 3) (descriptor : words.descriptorBytes = 32)
    (reserved : words.reserved = 0) (positive : words.proposedTokenCount ≠ 0) (bound : words.proposedTokenCount ≤ 32)
    (committed : words.committedTokenCount ≤ words.proposedTokenCount + 1)
    (flags : words.flags = 1 ∧ words.acceptedDraftTokenCount = words.proposedTokenCount ∨
      words.flags = 2 ∧ words.acceptedDraftTokenCount < words.proposedTokenCount) :
    validateVerifyResult words = .ok := by
  have known : words.flags &&& ~~~3 = 0 := by
    rcases flags with ⟨flag, -⟩ | ⟨flag, -⟩ <;> rw [flag] <;> decide
  have accepted : words.acceptedDraftTokenCount ≤ words.proposedTokenCount := by
    rcases flags with ⟨-, all⟩ | ⟨-, fewer⟩
    · exact UInt32.le_of_eq all
    · exact UInt32.le_of_lt fewer
  unfold validateVerifyResult
  rw [if_neg, if_neg, if_neg]
  · rintro ⟨flag, all⟩
    rcases flags with ⟨isAll, -⟩ | ⟨-, fewer⟩
    · rw [isAll] at flag
      exact flag (by decide)
    · exact UInt32.not_lt.mpr all fewer
  · rintro ⟨flag, differs⟩
    rcases flags with ⟨-, all⟩ | ⟨isRejected, -⟩
    · exact differs all
    · rw [isRejected] at flag
      exact flag (by decide)
  · rintro (differs | differs | unknown | zero | more | more | more | differs)
    · exact differs abi
    · exact differs descriptor
    · exact unknown known
    · exact positive zero
    · exact UInt32.not_lt.mpr bound more
    · exact UInt32.not_lt.mpr accepted more
    · exact UInt32.not_lt.mpr committed more
    · exact differs reserved

/-- What the resolution writes passes the check of the completion, and says `ACCEPTED_ALL` exactly when
it accepts as many tokens as have been proposed. -/
theorem resolveVerifierTree_validates {vocabSize : UInt32} {result : VerifyResult}
    (resolved : resolveVerifierTree draft verifier vocabSize = .ok result) :
    validateVerifyResult result.words = .ok ∧
      (result.flags = .acceptedAll ↔ result.acceptedDraftTokenCount = result.proposedTokenCount) ∧
      result.words.proposedTokenCount = draft.tokenCount := by
  obtain ⟨rfl, positive, bound, counted, most⟩ := resolveVerifierTree_counts resolved
  have small : ∀ {value : Nat}, value ≤ 33 → (UInt32.ofNat value).toNat = value := by
    intro value below
    exact UInt32.toNat_ofNat_of_lt' (Nat.lt_of_le_of_lt below (by decide))
  have proposed : (UInt32.ofNat draft.tokenCount.toNat).toNat = draft.tokenCount.toNat := small (by omega)
  have one : (1 : UInt32).toNat = 1 := rfl
  have more : (UInt32.ofNat draft.tokenCount.toNat + 1).toNat = draft.tokenCount.toNat + 1 := by
    rw [UInt32.toNat_add, proposed, one]
    exact Nat.mod_eq_of_lt (by omega)
  refine ⟨validateVerifyResult_ok rfl rfl rfl ?_ ?_ ?_ ?_, ?_, UInt32.ofNat_toNat⟩
  · intro zero
    refine positive (proposed.symm.trans ?_)
    exact congrArg UInt32.toNat zero
  · rw [UInt32.le_iff_toNat_le]
    exact proposed.le.trans bound
  · rw [UInt32.le_iff_toNat_le]
    unfold VerifyResult.words verifyResult
    dsimp only
    rw [more]
    split
    · rw [small (by omega)]
      omega
    · rw [small (by omega)]
      omega
  · unfold VerifyResult.words verifyResult
    dsimp only
    rw [counted]
    split
    · rename_i all
      rw [all]
      exact .inl ⟨rfl, rfl⟩
    · rename_i fewer
      refine .inr ⟨rfl, ?_⟩
      rw [UInt32.lt_iff_toNat_lt, proposed, small (by omega)]
      omega
  · unfold verifyResult
    dsimp only
    rw [counted]
    split
    · rename_i all
      exact iff_of_true rfl all
    · rename_i fewer
      exact iff_of_false nofun fewer

end Resolved

section Books

/-- A call of the policy; a draft comes with what the draft function answers. -/
inductive Step where
  | markVerifierTapsReady (requestId sequenceId sequencePosition : UInt64)
  | ensureDraft (request : DraftRequest) (drafted : SparkStatus × DraftResult)
  | completeVerify (sequenceId : UInt64) (words : VerifyWords)

/-- A speculator, and how many tokens were proposed in the verifications that have been completed. -/
structure World where
  speculator : Speculator
  proposed : Nat := 0

/-- The world after a call. -/
def World.perform (world : World) : Step → World
  | .markVerifierTapsReady requestId sequenceId sequencePosition =>
    { world with
      speculator := (world.speculator.markVerifierTapsReady requestId sequenceId sequencePosition).2 }
  | .ensureDraft request drafted => { world with speculator := (world.speculator.ensureDraft request drafted).2 }
  | .completeVerify sequenceId words =>
    { speculator := (world.speculator.completeVerify sequenceId words).2
      proposed :=
        if (world.speculator.completeVerify sequenceId words).1 = .ok then
          world.proposed + words.proposedTokenCount.toNat
        else world.proposed }

variable {speculator : Speculator}

theorem validateVerifyResult_le {words : VerifyWords} (ok : validateVerifyResult words = .ok) :
    words.acceptedDraftTokenCount ≤ words.proposedTokenCount := by
  unfold validateVerifyResult at ok
  split at ok
  · cases ok
  · rename_i checked
    simp only [not_or] at checked
    exact UInt32.not_lt.mp checked.2.2.2.2.2.1

/-- The tokens of a draft are accepted or rejected. -/
theorem accepted_add_rejected {accepted proposed : UInt32} (bound : accepted ≤ proposed) :
    accepted.toUInt64 + (if accepted < proposed then proposed - accepted else 0).toUInt64 =
      UInt64.ofNat proposed.toNat := by
  have below : accepted.toNat ≤ proposed.toNat := UInt32.le_iff_toNat_le.mp bound
  have small := proposed.toNat_lt
  have rejected : (if accepted < proposed then proposed - accepted else 0).toNat = proposed.toNat - accepted.toNat := by
    split
    · exact UInt32.toNat_sub_of_le _ _ bound
    · rename_i all
      have same := UInt32.le_iff_toNat_le.mp (UInt32.not_lt.mp all)
      have zero : (0 : UInt32).toNat = 0 := rfl
      omega
  apply UInt64.toNat_inj.mp
  rw [UInt64.toNat_add, UInt32.toNat_toUInt64, UInt32.toNat_toUInt64, rejected, UInt64.toNat_ofNat_of_lt' (by
    exact small.trans (by decide))]
  rw [Nat.add_sub_cancel' below]
  exact Nat.mod_eq_of_lt (small.trans (by decide))

/-- A completed verification books all that was proposed. -/
theorem completeVerify_books (sequenceId : UInt64) (words : VerifyWords) :
    (speculator.completeVerify sequenceId words).2.acceptedDraftTokenCount +
        (speculator.completeVerify sequenceId words).2.rejectedTokenCount =
      speculator.acceptedDraftTokenCount + speculator.rejectedTokenCount +
        if (speculator.completeVerify sequenceId words).1 = .ok then UInt64.ofNat words.proposedTokenCount.toNat
        else 0 := by
  unfold Speculator.completeVerify
  split
  · exact (UInt64.add_zero _).symm
  · rename_i validated
    have bound := validateVerifyResult_le (not_not.mp validated)
    split
    · exact (UInt64.add_zero _).symm
    · dsimp only
      split
      · exact (UInt64.add_zero _).symm
      · have booked := accepted_add_rejected bound
        rw [if_pos rfl, ← booked]
        change speculator.acceptedDraftTokenCount + words.acceptedDraftTokenCount.toUInt64 +
          (speculator.rejectedTokenCount + (if words.acceptedDraftTokenCount < words.proposedTokenCount then
            words.proposedTokenCount - words.acceptedDraftTokenCount else 0).toUInt64) = _
        generalize words.acceptedDraftTokenCount.toUInt64 = accepted
        generalize (if words.acceptedDraftTokenCount < words.proposedTokenCount then
            words.proposedTokenCount - words.acceptedDraftTokenCount else 0).toUInt64 = rejected
        grind

/-- A verification is completed for a sequence that has this many draft tokens, with any result that is
valid. -/
theorem completeVerify_ok {sequenceId : UInt64} {words : VerifyWords} {index : Nat}
    (valid : validateVerifyResult words = .ok) (found : speculator.findSequenceState sequenceId = some index)
    (ready : (speculator.sequenceStates index).draftReady = true)
    (count : (speculator.sequenceStates index).draftTokenCount = words.proposedTokenCount) :
    (speculator.completeVerify sequenceId words).1 = .ok := by
  unfold Speculator.completeVerify
  rw [if_neg (not_not.mpr valid), found]
  dsimp only
  rw [if_neg]
  rintro (unready | differs)
  · rw [ready] at unready
    cases unready
  · exact differs count

/-- The counters that are not about verifications are all that the other calls change. -/
theorem perform_books (world : World) (step : Step)
    (books : world.speculator.acceptedDraftTokenCount + world.speculator.rejectedTokenCount =
      UInt64.ofNat world.proposed) :
    (world.perform step).speculator.acceptedDraftTokenCount + (world.perform step).speculator.rejectedTokenCount =
      UInt64.ofNat (world.perform step).proposed := by
  cases step with
  | markVerifierTapsReady requestId sequenceId sequencePosition =>
    unfold World.perform Speculator.markVerifierTapsReady
    dsimp only
    split
    · exact books
    · split <;> exact books
  | ensureDraft request drafted =>
    unfold World.perform Speculator.ensureDraft
    dsimp only
    split
    · exact books
    split
    · exact books
    split
    · exact books
    split
    · exact books
    split
    · exact books
    split
    · exact books
    split
    · exact books
    split <;> exact books
  | completeVerify sequenceId words =>
    change (world.speculator.completeVerify sequenceId words).2.acceptedDraftTokenCount +
      (world.speculator.completeVerify sequenceId words).2.rejectedTokenCount = UInt64.ofNat (if _ then _ else _)
    rw [completeVerify_books, books]
    split
    · rw [UInt64.ofNat_add]
    · exact UInt64.add_zero _

/-- What a resolution writes completes the verification of the sequence that was proposed it, it says
`ACCEPTED_ALL` exactly when every token is accepted, and along any run of the policy the
tokens that have been proposed are booked as accepted or as rejected. -/
theorem resolved_completes {draft : Draft} {verifier : Rows} {vocabSize : UInt32} {result : VerifyResult}
    (resolved : resolveVerifierTree draft verifier vocabSize = .ok result) :
    validateVerifyResult result.words = .ok ∧
      (result.flags = .acceptedAll ↔ result.acceptedDraftTokenCount = result.proposedTokenCount) ∧
      (∀ (speculator : Speculator) (sequenceId : UInt64) (index : Nat),
        speculator.findSequenceState sequenceId = some index →
          (speculator.sequenceStates index).draftReady = true →
            (speculator.sequenceStates index).draftTokenCount = draft.tokenCount →
              (speculator.completeVerify sequenceId result.words).1 = .ok) ∧
      ∀ (configuration : Configuration) (speculator : Speculator) (steps : List Step),
        initializeSpeculator configuration = .ok speculator →
          (steps.foldl World.perform { speculator := speculator }).speculator.acceptedDraftTokenCount +
              (steps.foldl World.perform { speculator := speculator }).speculator.rejectedTokenCount =
            UInt64.ofNat (steps.foldl World.perform { speculator := speculator }).proposed := by
  obtain ⟨valid, all, proposed⟩ := resolveVerifierTree_validates resolved
  refine ⟨valid, all, ?_, ?_⟩
  · intro speculator sequenceId index found ready count
    exact completeVerify_ok valid found ready (count.trans proposed.symm)
  · intro configuration speculator steps initialized
    unfold initializeSpeculator at initialized
    split at initialized
    · cases initialized
    cases initialized
    have kept : ∀ (steps : List Step) (world : World),
        world.speculator.acceptedDraftTokenCount + world.speculator.rejectedTokenCount =
          UInt64.ofNat world.proposed →
        (steps.foldl World.perform world).speculator.acceptedDraftTokenCount +
            (steps.foldl World.perform world).speculator.rejectedTokenCount =
          UInt64.ofNat (steps.foldl World.perform world).proposed := by
      intro steps
      induction steps with
      | nil => exact fun _ => id
      | cons step rest ih => exact fun world books => ih _ (perform_books world step books)
    exact kept steps _ rfl

theorem resolved_completes_forked :
    validateVerifyResult (verifyResult forkedDraft forkedRows).words = .ok ∧
      (verifyResult forkedDraft forkedRows).flags ≠ .acceptedAll := by
  obtain ⟨valid, all, -⟩ := resolved_completes (rfl : resolveVerifierTree forkedDraft forkedRows 10 = _)
  exact ⟨valid, fun isAll => absurd (all.mp isAll) (by decide)⟩

end Books

end Sparkpipe.SpeculationPolicy
