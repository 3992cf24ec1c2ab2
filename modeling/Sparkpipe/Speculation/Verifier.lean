import Sparkpipe.Lib.Along
import Sparkpipe.Lib.Greedy
import Sparkpipe.Status

/-!
# The resolution of a verified draft tree

`SparkSpeculationPolicyResolveVerifierTree` of `src/spark_speculation_policy.c`. A draft is
a tree of tokens, each node after its parent, or by default a chain. The verifier has one
row for the context and one for the root path to each node, with the token the model goes
on with there. One pass over the nodes finds the deepest one whose root path the model
agrees with; its path is accepted, and the row behind it gives one token more.

Arrays are functions of their index, read below the counts that are passed with them.
-/

namespace Sparkpipe.SpeculationPolicy

/-- `SPARK_SPECULATION_ABI_VERSION`. -/
def abiVersion : Nat := 3

/-- `SPARK_SPECULATION_MAX_SPECULATIVE_TOKEN_COUNT`. -/
def maxSpeculativeTokenCount : Nat := 32

/-- `SPARK_SPECULATION_PARENT_INDEX_ROOT`. -/
def parentIndexRoot : Nat := 0xffffffff

/-- `SPARK_SPECULATION_VERIFY_RESULT_DESCRIPTOR_BYTES`. -/
def verifyResultDescriptorBytes : Nat := 32

/-- `SPARK_SPECULATION_VERIFY_RESULT_FLAG_*`. -/
inductive VerifyFlag where
  | acceptedAll
  | rejected
  deriving DecidableEq

/-- `SparkSpeculationPolicyVerifyResult`. -/
structure VerifyResult where
  abiVersion : Nat := SpeculationPolicy.abiVersion
  descriptorBytes : Nat := verifyResultDescriptorBytes
  flags : VerifyFlag
  proposedTokenCount : Nat
  acceptedDraftTokenCount : Nat
  committedTokenCount : Nat
  fallbackTokenId : UInt32 := 0
  deriving DecidableEq

/-- The draft that is resolved: `draft_token_ids`, `draft_parent_indices` and `draft_token_count`. -/
structure Draft where
  tokenIds : Nat → UInt32
  parentIndices : Option (Nat → UInt32)
  tokenCount : UInt32

/-- The rows of the verifier: `verifier_token_ids` and `verifier_token_count`. -/
structure Rows where
  tokenIds : Nat → UInt32
  tokenCount : UInt32

section Resolution

variable (draft : Draft) (verifier : Rows)

/-- `SparkSpeculationPolicyDraftParentIndex`. -/
def draftParentIndex (node : Nat) : Nat :=
  match draft.parentIndices with
  | some parents => (parents node).toNat
  | none => if node = 0 then parentIndexRoot else node - 1

/-- A node of the loop of `SparkSpeculationPolicyValidateDraftTree`. -/
def nodeValid (vocabSize : UInt32) (node : Nat) : Bool :=
  draft.tokenIds node < vocabSize &&
    (draftParentIndex draft node = parentIndexRoot || draftParentIndex draft node < node) &&
    (List.range node).all fun sibling =>
      !(draftParentIndex draft sibling = draftParentIndex draft node &&
        draft.tokenIds sibling = draft.tokenIds node)

/-- `SparkSpeculationPolicyValidateDraftTree`. -/
def validateDraftTree (vocabSize : UInt32) : SparkStatus :=
  if (List.range draft.tokenCount.toNat).all (nodeValid draft vocabSize) then .ok else .invalidArgument

/-- The variables of the loop that accepts nodes; `accepted_depth` is zero for a node that is not. -/
structure Acceptance where
  acceptedDepth : Nat → Nat := fun _ => 0
  acceptedNodeCount : Nat := 0
  bestNodeIndex : Nat := parentIndexRoot
  bestDepth : Nat := 0

/-- The row that says what comes after a node, or after the context. -/
def rowIndex (node : Nat) : Nat := if node = parentIndexRoot then 0 else node + 1

/-- The depth that the pass has accepted a node at. -/
def Acceptance.depthOf (acceptance : Acceptance) (node : Nat) : Nat :=
  if node = parentIndexRoot then 0 else acceptance.acceptedDepth node

/-- One node of the pass. -/
def acceptNode (acceptance : Acceptance) (node : Nat) : Acceptance :=
  let parent := draftParentIndex draft node
  let parentDepth := acceptance.depthOf parent
  if (parent = parentIndexRoot ∨ parentDepth ≠ 0) ∧ draft.tokenIds node = verifier.tokenIds (rowIndex parent) then
    { acceptedDepth := Function.update acceptance.acceptedDepth node (parentDepth + 1)
      acceptedNodeCount := acceptance.acceptedNodeCount + 1
      bestNodeIndex := if acceptance.bestDepth < parentDepth + 1 then node else acceptance.bestNodeIndex
      bestDepth := if acceptance.bestDepth < parentDepth + 1 then parentDepth + 1 else acceptance.bestDepth }
  else { acceptance with acceptedDepth := Function.update acceptance.acceptedDepth node 0 }

/-- The pass over the first nodes. -/
def acceptNodes (count : Nat) : Acceptance := (List.range count).foldl (acceptNode draft verifier) {}

/-- The checks of the arguments. -/
def argumentsStatus (vocabSize : UInt32) : SparkStatus :=
  if draft.tokenCount = 0 ∨ maxSpeculativeTokenCount < draft.tokenCount.toNat ∨
      verifier.tokenCount < draft.tokenCount ∨ draft.tokenCount + 1 < verifier.tokenCount ∨
      (draft.parentIndices.isSome ∧ verifier.tokenCount ≠ draft.tokenCount + 1) ∨ vocabSize = 0 then .invalidArgument
  else if validateDraftTree draft vocabSize ≠ .ok then validateDraftTree draft vocabSize
  else if (List.range verifier.tokenCount.toNat).all fun row => verifier.tokenIds row < vocabSize then .ok
  else .invalidArgument

/-- What is written into `verify_result`. -/
def verifyResult : VerifyResult :=
  let acceptance := acceptNodes draft verifier draft.tokenCount.toNat
  let bonus := rowIndex acceptance.bestNodeIndex
  { flags := if acceptance.acceptedNodeCount = draft.tokenCount.toNat then .acceptedAll else .rejected
    proposedTokenCount := draft.tokenCount.toNat
    acceptedDraftTokenCount := acceptance.bestDepth
    committedTokenCount :=
      if bonus < verifier.tokenCount.toNat then acceptance.bestDepth + 1 else acceptance.bestDepth
    fallbackTokenId := if bonus < verifier.tokenCount.toNat then verifier.tokenIds bonus else 0 }

/-- `SparkSpeculationPolicyResolveVerifierTree`. -/
def resolveVerifierTree (vocabSize : UInt32) : Except SparkStatus VerifyResult :=
  if argumentsStatus draft verifier vocabSize ≠ .ok then .error (argumentsStatus draft verifier vocabSize)
  else .ok (verifyResult draft verifier)

end Resolution

section Paths

variable (draft : Draft)

/-- The tokens on the way from the root to a node, as far up as `fuel` nodes. -/
def rootPathWithin : Nat → Nat → List UInt32
  | 0, _ => []
  | fuel + 1, node =>
    (if draftParentIndex draft node = parentIndexRoot then [] else rootPathWithin fuel (draftParentIndex draft node)) ++
      [draft.tokenIds node]

/-- The root path to a node: a node comes after its parent, so there are at most `node + 1` on it. -/
def rootPath (node : Nat) : List UInt32 := rootPathWithin draft (node + 1) node

/-- The path to a node, or to the root. -/
def pathTo (place : Nat) : List UInt32 := if place = parentIndexRoot then [] else rootPath draft place

/-- A draft that has been validated. -/
structure Draft.Valid : Prop where
  count : draft.tokenCount.toNat ≤ maxSpeculativeTokenCount
  parents : ∀ node < draft.tokenCount.toNat,
    draftParentIndex draft node = parentIndexRoot ∨ draftParentIndex draft node < node
  siblings : ∀ node < draft.tokenCount.toNat, ∀ sibling < node,
    draftParentIndex draft sibling = draftParentIndex draft node → draft.tokenIds sibling ≠ draft.tokenIds node

variable {draft} {verifier : Rows} {vocabSize : UInt32}

theorem validateDraftTree_ok (ok : validateDraftTree draft vocabSize = .ok) :
    ∀ node < draft.tokenCount.toNat, nodeValid draft vocabSize node = true := by
  unfold validateDraftTree at ok
  split at ok
  · rename_i valid
    intro node below
    exact List.all_eq_true.mp valid node (List.mem_range.mpr below)
  · cases ok

/-- What is checked before the pass. -/
theorem argumentsStatus_ok (ok : argumentsStatus draft verifier vocabSize = .ok) :
    draft.Valid ∧ draft.tokenCount.toNat ≤ verifier.tokenCount.toNat := by
  unfold argumentsStatus at ok
  split at ok
  · cases ok
  · rename_i arguments
    simp only [not_or, Nat.not_lt, UInt32.not_lt] at arguments
    split at ok
    · rename_i refused
      exact absurd ok refused
    · rename_i validated
      have valid := validateDraftTree_ok (Decidable.not_not.mp validated)
      refine ⟨⟨arguments.2.1, ?_, ?_⟩, UInt32.le_iff_toNat_le.mp arguments.2.2.1⟩
      · intro node below
        have checked := valid node below
        simp only [nodeValid, Bool.and_eq_true, Bool.or_eq_true, decide_eq_true_eq] at checked
        exact checked.1.2
      · intro node below sibling before sameParent sameToken
        have checked := valid node below
        simp only [nodeValid, Bool.and_eq_true, List.all_eq_true, List.mem_range] at checked
        have apart := checked.2 sibling before
        simp [sameParent, sameToken] at apart

theorem Draft.Valid.ne_root (valid : draft.Valid) {node : Nat} (below : node < draft.tokenCount.toNat) :
    node ≠ parentIndexRoot := by
  have count := valid.count
  unfold maxSpeculativeTokenCount at count
  unfold parentIndexRoot
  omega

/-- The path is the same however much fuel there is beyond what it needs. -/
theorem rootPathWithin_enough (valid : draft.Valid) {fuel more node : Nat} (below : node < draft.tokenCount.toNat)
    (enough : node < fuel) (also : node < more) : rootPathWithin draft fuel node = rootPathWithin draft more node := by
  induction fuel generalizing more node with
  | zero => omega
  | succ fuel ih =>
    cases more with
    | zero => omega
    | succ more =>
      rw [rootPathWithin, rootPathWithin]
      split
      · rfl
      · rename_i inner
        have before := (valid.parents node below).resolve_left inner
        rw [ih (by omega) (by omega) (by omega : draftParentIndex draft node < more)]

/-- The root path to a node is that of its parent and its own token. -/
theorem pathTo_node (valid : draft.Valid) {node : Nat} (below : node < draft.tokenCount.toNat) :
    pathTo draft node = pathTo draft (draftParentIndex draft node) ++ [draft.tokenIds node] := by
  unfold pathTo
  rw [if_neg (valid.ne_root below), rootPath, rootPathWithin]
  split
  · rfl
  · rename_i inner
    have before := (valid.parents node below).resolve_left inner
    rw [rootPath, rootPathWithin_enough valid (by omega) before (Nat.lt_succ_self _)]

/-- No two nodes have the same root path, since siblings have different tokens. -/
theorem pathTo_inj (valid : draft.Valid) {node other : Nat} (below : node < draft.tokenCount.toNat)
    (otherBelow : other < draft.tokenCount.toNat) (same : pathTo draft node = pathTo draft other) : node = other := by
  induction node using Nat.strong_induction_on generalizing other with
  | _ node ih =>
    rw [pathTo_node valid below, pathTo_node valid otherBelow] at same
    obtain ⟨parents, tokens⟩ := List.append_inj' same rfl
    have token : draft.tokenIds node = draft.tokenIds other := List.singleton_injective tokens
    have nonempty : ∀ place < draft.tokenCount.toNat, pathTo draft place ≠ [] := by
      intro place placeBelow
      rw [pathTo_node valid placeBelow]
      simp
    have root : pathTo draft parentIndexRoot = [] := by simp [pathTo]
    -- The parents are the same place: both the root, or both the node that has their path.
    have sameParent : draftParentIndex draft node = draftParentIndex draft other := by
      rcases valid.parents node below with top | before <;>
        rcases valid.parents other otherBelow with otherTop | otherBefore
      · rw [top, otherTop]
      · rw [top, root] at parents
        exact absurd parents.symm (nonempty _ (otherBefore.trans otherBelow))
      · rw [otherTop, root] at parents
        exact absurd parents (nonempty _ (before.trans below))
      · exact ih _ before (before.trans below) (otherBefore.trans otherBelow) parents
    rcases Nat.lt_trichotomy node other with earlier | rfl | later
    · exact absurd token (valid.siblings other otherBelow node earlier sameParent)
    · rfl
    · exact absurd token.symm (valid.siblings node below other later sameParent.symm)

end Paths

section Pass

variable {draft : Draft} {verifier : Rows} {target : List UInt32 → UInt32} {context : List UInt32}

/-- The verifier has the tokens that the model goes on with: after the context, and after the context
and the root path to each node that has a row. -/
structure Verified (target : List UInt32 → UInt32) (context : List UInt32) (draft : Draft) (verifier : Rows) :
    Prop where
  first : verifier.tokenIds 0 = target context
  rows : ∀ node < draft.tokenCount.toNat, node + 1 < verifier.tokenCount.toNat →
    verifier.tokenIds (node + 1) = target (context ++ rootPath draft node)

/-- What the pass knows of the first nodes. -/
structure Passed (target : List UInt32 → UInt32) (context : List UInt32) (draft : Draft) (count : Nat)
    (acceptance : Acceptance) : Prop where
  agreed : ∀ node < count, Decoded target context (pathTo draft node) →
    acceptance.acceptedDepth node = (pathTo draft node).length
  refused : ∀ node < count, ¬ Decoded target context (pathTo draft node) → acceptance.acceptedDepth node = 0
  best : Decoded target context (pathTo draft acceptance.bestNodeIndex)
  depth : (pathTo draft acceptance.bestNodeIndex).length = acceptance.bestDepth
  place : acceptance.bestNodeIndex = parentIndexRoot ∨ acceptance.bestNodeIndex < count
  longest : ∀ node < count, Decoded target context (pathTo draft node) →
    (pathTo draft node).length ≤ acceptance.bestDepth

theorem Verified.row (verified : Verified target context draft verifier) {place : Nat}
    (inside : place = parentIndexRoot ∨ place < draft.tokenCount.toNat)
    (present : rowIndex place < verifier.tokenCount.toNat) :
    verifier.tokenIds (rowIndex place) = target (context ++ pathTo draft place) := by
  unfold rowIndex at present ⊢
  unfold pathTo
  split
  · rw [List.append_nil]
    exact verified.first
  · rename_i inner
    rw [if_neg inner] at present
    exact verified.rows place (inside.resolve_left inner) present

variable {acceptance : Acceptance} {node : Nat}

section

variable (passed : Passed target context draft node acceptance) (valid : draft.Valid)
  (below : node < draft.tokenCount.toNat) (verified : Verified target context draft verifier)
  (rows : draft.tokenCount.toNat ≤ verifier.tokenCount.toNat)
include passed valid below

/-- The pass goes on below a node exactly when the model agrees with its root path. -/
theorem Passed.parent :
    ((draftParentIndex draft node = parentIndexRoot ∨ acceptance.depthOf (draftParentIndex draft node) ≠ 0) ↔
      Decoded target context (pathTo draft (draftParentIndex draft node))) ∧
    (Decoded target context (pathTo draft (draftParentIndex draft node)) →
      acceptance.depthOf (draftParentIndex draft node) = (pathTo draft (draftParentIndex draft node)).length) := by
  rcases valid.parents node below with top | before
  · have empty : pathTo draft parentIndexRoot = [] := by simp [pathTo]
    rw [top, empty]
    refine ⟨⟨fun _ => Decoded.nil, fun _ => .inl rfl⟩, fun _ => ?_⟩
    simp [Acceptance.depthOf]
  · have parentBelow := before.trans below
    have inner := valid.ne_root parentBelow
    have depth : acceptance.depthOf (draftParentIndex draft node) =
        acceptance.acceptedDepth (draftParentIndex draft node) := by
      rw [Acceptance.depthOf, if_neg inner]
    rw [depth]
    refine ⟨⟨?_, ?_⟩, passed.agreed _ before⟩
    · intro reached
      by_contra apart
      exact reached.elim inner fun deep => deep (passed.refused _ before apart)
    · intro agreed
      rw [passed.agreed _ before agreed, pathTo_node valid parentBelow]
      simp

include verified rows

/-- The pass accepts a node exactly when the model agrees with its root path. -/
theorem Passed.accepts :
    ((draftParentIndex draft node = parentIndexRoot ∨ acceptance.depthOf (draftParentIndex draft node) ≠ 0) ∧
      draft.tokenIds node = verifier.tokenIds (rowIndex (draftParentIndex draft node))) ↔
    Decoded target context (pathTo draft node) := by
  have inside : draftParentIndex draft node = parentIndexRoot ∨
      draftParentIndex draft node < draft.tokenCount.toNat :=
    (valid.parents node below).imp_right fun before => before.trans below
  have present : rowIndex (draftParentIndex draft node) < verifier.tokenCount.toNat := by
    unfold rowIndex
    split
    · omega
    · rename_i inner
      have before := (valid.parents node below).resolve_left inner
      omega
  rw [verified.row inside present, pathTo_node valid below, Decoded.append_iff, (passed.parent valid below).1]

/-- One node of the pass. -/
theorem acceptNode_passed :
    Passed target context draft (node + 1) (acceptNode draft verifier acceptance node) := by
  have accepts := passed.accepts valid below verified rows
  have others : ∀ {P : Nat → Prop}, P node → (∀ earlier < node, P earlier) → ∀ place < node + 1, P place := by
    intro P here before place placeBelow
    rcases Nat.lt_succ_iff_lt_or_eq.mp placeBelow with earlier | rfl
    · exact before place earlier
    · exact here
  unfold acceptNode
  dsimp only
  split
  · rename_i reached
    have agreed := accepts.mp reached
    have length : (pathTo draft node).length = acceptance.depthOf (draftParentIndex draft node) + 1 := by
      have parentAgreed := (passed.parent valid below).1.mp reached.1
      rw [(passed.parent valid below).2 parentAgreed, pathTo_node valid below]
      simp
    constructor
    · apply others
      · intro _
        simp [length]
      · intro earlier before earlierAgreed
        simpa [before.ne] using passed.agreed earlier before earlierAgreed
    · apply others
      · exact fun apart => absurd agreed apart
      · intro earlier before apart
        simpa [before.ne] using passed.refused earlier before apart
    · dsimp only
      split
      · exact agreed
      · exact passed.best
    · dsimp only
      split
      · exact length
      · exact passed.depth
    · dsimp only
      split
      · exact .inr (Nat.lt_succ_self node)
      · exact passed.place.imp_right Nat.lt_succ_of_lt
    · apply others
      · intro _
        dsimp only
        split <;> omega
      · intro earlier before earlierAgreed
        have bound := passed.longest earlier before earlierAgreed
        dsimp only
        split <;> omega
  · rename_i refused
    have apart := mt accepts.mpr refused
    constructor
    · apply others
      · exact fun agreed => absurd agreed apart
      · intro earlier before earlierAgreed
        simpa [before.ne] using passed.agreed earlier before earlierAgreed
    · apply others
      · simp
      · intro earlier before earlierApart
        simpa [before.ne] using passed.refused earlier before earlierApart
    · exact passed.best
    · exact passed.depth
    · exact passed.place.imp_right Nat.lt_succ_of_lt
    · apply others
      · exact fun agreed => absurd agreed apart
      · exact passed.longest

end

theorem acceptNodes_passed (valid : draft.Valid) (verified : Verified target context draft verifier)
    (rows : draft.tokenCount.toNat ≤ verifier.tokenCount.toNat) {count : Nat} (bound : count ≤ draft.tokenCount.toNat) :
    Passed target context draft count (acceptNodes draft verifier count) := by
  induction count with
  | zero =>
    have empty : pathTo draft parentIndexRoot = [] := by simp [pathTo]
    constructor
    · exact fun node below => absurd below (Nat.not_lt_zero node)
    · exact fun node below => absurd below (Nat.not_lt_zero node)
    · exact empty ▸ Decoded.nil
    · exact congrArg List.length empty
    · exact .inl rfl
    · exact fun node below => absurd below (Nat.not_lt_zero node)
  | succ count ih =>
    have step : acceptNodes draft verifier (count + 1) =
        acceptNode draft verifier (acceptNodes draft verifier count) count := by
      simp [acceptNodes, List.range_succ]
    rw [step]
    exact acceptNode_passed (ih (Nat.le_of_succ_le bound)) valid bound verified rows

end Pass

section Commitment

variable (draft : Draft) (verifier : Rows)

/-- The node that the pass has found, or the root. -/
def acceptedNode : Nat := (acceptNodes draft verifier draft.tokenCount.toNat).bestNodeIndex

/-- The tokens that are committed: the root path to the accepted node, and the fallback token when one
token more is committed than accepted. -/
def committedTokens (result : VerifyResult) : List UInt32 :=
  pathTo draft (acceptedNode draft verifier) ++
    if result.committedTokenCount = result.acceptedDraftTokenCount + 1 then [result.fallbackTokenId] else []

variable {draft verifier}

/-- The committed tokens are those of greedy decoding, and the model agrees with no longer path of the
draft; the accepted path is that of one node only. -/
theorem resolveVerifierTree_lossless {target : List UInt32 → UInt32} {context : List UInt32} {vocabSize : UInt32}
    {result : VerifyResult} (resolved : resolveVerifierTree draft verifier vocabSize = .ok result)
    (verified : Verified target context draft verifier) :
    (pathTo draft (acceptedNode draft verifier)).length = result.acceptedDraftTokenCount ∧
    committedTokens draft verifier result = greedy target context result.committedTokenCount ∧
    (∀ node < draft.tokenCount.toNat, rootPath draft node = greedy target context (rootPath draft node).length →
      (rootPath draft node).length ≤ result.acceptedDraftTokenCount) ∧
    ∀ node < draft.tokenCount.toNat, rootPath draft node = pathTo draft (acceptedNode draft verifier) →
      node = acceptedNode draft verifier := by
  unfold resolveVerifierTree at resolved
  split at resolved
  · exact absurd resolved (by simp)
  · rename_i checked
    obtain ⟨valid, rows⟩ := argumentsStatus_ok (Decidable.not_not.mp checked)
    obtain rfl : verifyResult draft verifier = result := Except.ok.inj resolved
    have passed := acceptNodes_passed valid verified rows le_rfl
    have inner : ∀ node < draft.tokenCount.toNat, rootPath draft node = pathTo draft node := by
      intro node below
      rw [pathTo, if_neg (valid.ne_root below)]
    refine ⟨passed.depth, ?_, ?_, ?_⟩
    · have path : pathTo draft (acceptedNode draft verifier) =
          greedy target context (acceptNodes draft verifier draft.tokenCount.toNat).bestDepth :=
        passed.best.trans (congrArg (greedy target context) passed.depth)
      unfold committedTokens verifyResult
      dsimp only
      split
      · rename_i bonus
        have row := verified.row passed.place bonus
        rw [if_pos rfl, greedy, ← path, row]
        rfl
      · rw [if_neg (by omega), List.append_nil]
        exact path
    · intro node below agreed
      rw [inner node below] at agreed ⊢
      exact passed.longest node below agreed
    · intro node below same
      rw [inner node below] at same
      rcases passed.place with root | bestBelow
      · have empty : pathTo draft parentIndexRoot = [] := by simp [pathTo]
        rw [acceptedNode, root, empty, pathTo_node valid below] at same
        simp at same
      · exact pathTo_inj valid below bestBelow same

/-- A model that goes on with the number of the tokens before. -/
def countTokens (tokens : List UInt32) : UInt32 := UInt32.ofNat tokens.length

/-- A draft of two chains, the first of two tokens. -/
def forkedDraft : Draft where
  tokenIds node := [1, 7, 2].getD node 0
  parentIndices := some fun node => [0xffffffff, 0xffffffff, 0].getD node 0
  tokenCount := 3

def forkedRows : Rows where
  tokenIds row := [1, 2, 2, 3].getD row 0
  tokenCount := 4

theorem resolveVerifierTree_lossless_forked :
    resolveVerifierTree forkedDraft forkedRows 10 = .ok (verifyResult forkedDraft forkedRows) ∧
      committedTokens forkedDraft forkedRows (verifyResult forkedDraft forkedRows) = greedy countTokens [5] 3 :=
  have verified : Verified countTokens [5] forkedDraft forkedRows := ⟨by decide, by decide⟩
  ⟨rfl, (resolveVerifierTree_lossless (rfl : resolveVerifierTree forkedDraft forkedRows 10 = _) verified).2.1⟩

/-- What is committed is decoding, and never nothing: the root has a row, and a node is on its own path. -/
theorem resolved_commits {target : List UInt32 → UInt32} {context : List UInt32} {vocabSize : UInt32}
    {result : VerifyResult} (resolved : resolveVerifierTree draft verifier vocabSize = .ok result)
    (verified : Verified target context draft verifier) :
    Decoded target context (committedTokens draft verifier result) ∧ committedTokens draft verifier result ≠ [] := by
  unfold resolveVerifierTree at resolved
  split at resolved
  · exact absurd resolved (by simp)
  · rename_i checked
    have accepted := Decidable.not_not.mp checked
    obtain ⟨valid, rows⟩ := argumentsStatus_ok accepted
    obtain rfl : verifyResult draft verifier = result := Except.ok.inj resolved
    have passed := acceptNodes_passed valid verified rows le_rfl
    have some : 0 < draft.tokenCount.toNat := by
      apply Nat.pos_of_ne_zero
      intro zero
      have none : draft.tokenCount = 0 := UInt32.toNat_inj.mp zero
      simp [argumentsStatus, none] at accepted
    unfold committedTokens verifyResult
    dsimp only
    split
    · rename_i bonus
      rw [if_pos rfl]
      exact ⟨Decoded.append_iff.mpr ⟨passed.best, verified.row passed.place bonus⟩, by simp⟩
    · rename_i last
      rw [if_neg (by omega), List.append_nil]
      refine ⟨passed.best, fun empty => ?_⟩
      rcases passed.place with root | below
      · rw [root, rowIndex, if_pos rfl] at last
        omega
      · rw [acceptedNode, pathTo_node valid below] at empty
        simp at empty

/-- One resolution: its draft, the verifier's rows and the size of the vocabulary. -/
structure Round where
  draft : Draft
  verifier : Rows
  vocabSize : UInt32

/-- The tokens after a round, which commits none when it is refused. -/
def Round.commit (tokens : List UInt32) (round : Round) : List UInt32 :=
  match resolveVerifierTree round.draft round.verifier round.vocabSize with
  | .ok result => tokens ++ committedTokens round.draft round.verifier result
  | .error _ => tokens

/-- However the rounds are drafted, they commit greedy decoding, and each that is not refused commits some of it. -/
theorem rounds_lossless {target : List UInt32 → UInt32} {context : List UInt32} {rounds : List Round}
    (verified : Along Round.commit (fun tokens round => Verified target (context ++ tokens) round.draft round.verifier)
      rounds []) :
    rounds.foldl Round.commit [] = greedy target context (rounds.foldl Round.commit []).length ∧
      (rounds.countP fun round => (resolveVerifierTree round.draft round.verifier round.vocabSize).isOk) ≤
        (rounds.foldl Round.commit []).length := by
  rw [← Nat.zero_add (rounds.countP _)]
  have start : Decoded target context [] := Decoded.nil
  change Decoded target context _ ∧ ([] : List UInt32).length + _ ≤ _
  generalize ([] : List UInt32) = tokens at verified start
  induction rounds generalizing tokens with
  | nil => exact ⟨start, le_rfl⟩
  | cons round rest ih =>
    obtain ⟨first, along⟩ := verified
    rw [List.foldl_cons, List.countP_cons]
    cases resolved : resolveVerifierTree round.draft round.verifier round.vocabSize with
    | error status =>
      have same : Round.commit tokens round = tokens := by rw [Round.commit, resolved]
      rw [same] at along ⊢
      exact ih tokens along start
    | ok result =>
      have goes : Round.commit tokens round = tokens ++ committedTokens round.draft round.verifier result := by
        rw [Round.commit, resolved]
      obtain ⟨decoded, some⟩ := resolved_commits resolved first
      have longer := List.length_pos_iff.mpr some
      rw [goes] at along ⊢
      obtain ⟨whole, many⟩ := ih _ along (start.append decoded)
      refine ⟨whole, le_trans ?_ many⟩
      rw [List.length_append]
      change tokens.length + (_ + 1) ≤ _
      omega

/-- A round that accepts a path of the fork, and one whose draft is rejected. -/
def twoRounds : List Round :=
  [⟨forkedDraft, forkedRows, 10⟩, ⟨⟨fun _ => 9, none, 1⟩, ⟨fun _ => 4, 1⟩, 10⟩]

theorem rounds_lossless_two : twoRounds.foldl Round.commit [] = [1, 2, 3, 4] ∧
    twoRounds.foldl Round.commit [] = greedy countTokens [5] 4 :=
  have verified : Along Round.commit (fun tokens round => Verified countTokens ([5] ++ tokens) round.draft
      round.verifier) twoRounds [] := ⟨⟨by decide, by decide⟩, ⟨by decide, by decide⟩, trivial⟩
  ⟨by decide, (rounds_lossless verified).1⟩

end Commitment

end Sparkpipe.SpeculationPolicy
