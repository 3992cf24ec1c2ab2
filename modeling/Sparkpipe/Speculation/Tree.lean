import Mathlib.Data.Finset.Card
import Mathlib.Data.Finset.Range
import Sparkpipe.Speculation.Policy

/-!
# The tree of a plan

The runtime form of `include/sparkpipe/spark_speculation_tree.h`: a table of rows, each with its parent,
its depth and the range of its children. The check of a table asks that the rows of each range have the row
as their parent; it does not ask that a row is in the range of its parent, so the walk that
resolves the tree along the ranges may stop above a row that the verifier agrees with.

A shift by the width of a word or more is undefined in C; here it takes the low five bits of its
count, as the machines do.
-/

namespace Sparkpipe.SpeculationTree

open Function SpeculationPolicy

/-- `SparkSpeculationTreeNode`. -/
structure TreeNode where
  parentRow : UInt8 := 0
  depth : UInt8 := 0
  candidateIndex : UInt8 := 0
  childRowBase : UInt8 := 0
  childCount : UInt8 := 0

/-- `SparkSpeculationTreePlan`. -/
structure TreePlan where
  candidateCount : UInt32
  maxCommittedTokenCount : UInt32
  contextExtension : UInt32
  vocabCount : UInt32
  rowCount : UInt32
  rows : Nat → TreeNode

/-- `SPARK_SPECULATION_TREE_MAX_PLAN_ROWS`. -/
def maxPlanRows : Nat := 64

/-- `SparkSpeculationTreeResolution`. -/
structure TreeResolution where
  pathId : Nat
  acceptedTokenCount : Nat
  committedTokenCount : Nat
  fallbackRowIndex : Nat
  deriving DecidableEq

namespace TreePlan

variable (plan : TreePlan)

/-- `SparkSpeculationTreePlanNodeAt`. -/
def nodeAt (row : Nat) : Option TreeNode :=
  if plan.rowCount.toNat ≤ row ∨ maxPlanRows < plan.rowCount.toNat then none else some (plan.rows row)

/-- The bit of a candidate in the mask of those that have been seen. -/
def candidateBit (row : Nat) : UInt32 := 1 <<< (plan.rows row).candidateIndex.toUInt32

/-- What the first loop of the check keeps: the candidates that have been seen, and the greatest depth. -/
structure RowScan where
  candidateSeenMask : UInt32 := 0
  maxDepth : Nat := 0

/-- A row of the first loop of the check. -/
def scanRow (scan : RowScan) (row : Nat) : Option RowScan :=
  let node := plan.rows row
  match plan.nodeAt node.parentRow.toNat with
  | none => none
  | some parent =>
    if row ≤ node.parentRow.toNat ∨ node.depth.toNat ≠ parent.depth.toNat + 1 ∨
        plan.candidateCount.toNat ≤ node.candidateIndex.toNat ∨
        scan.candidateSeenMask &&& plan.candidateBit row ≠ 0 then none
    else some {
      candidateSeenMask := scan.candidateSeenMask ||| plan.candidateBit row
      maxDepth := max scan.maxDepth node.depth.toNat }

/-- The first loop of the check, over the rows after the first one. -/
def scanRows (count : Nat) : Option RowScan :=
  (List.range count).foldlM (fun scan row => plan.scanRow scan (row + 1)) {}

/-- A row of the second loop of the check. -/
def childrenValid (row : Nat) : Bool :=
  let node := plan.rows row
  node.childCount = 0 ||
    (row < node.childRowBase.toNat && node.childRowBase.toNat + node.childCount.toNat ≤ plan.rowCount.toNat &&
      (List.range node.childCount.toNat).all fun offset =>
        (plan.rows (node.childRowBase.toNat + offset)).parentRow.toNat = row)

/-- `SparkSpeculationTreePlanTopologyIsValid`. -/
def topologyIsValid : Bool :=
  if plan.rowCount = 0 ∨ maxPlanRows < plan.rowCount.toNat then false
  else if (plan.rows 0).depth ≠ 0 ∨ (plan.rows 0).parentRow ≠ 0 then false
  else
    match plan.scanRows (plan.rowCount.toNat - 1) with
    | none => false
    | some scan =>
      if scan.candidateSeenMask ≠ (1 <<< plan.candidateCount) - 1 ∨ scan.maxDepth ≠ plan.contextExtension.toNat ∨
          scan.maxDepth + 1 ≠ plan.maxCommittedTokenCount.toNat then false
      else (List.range plan.rowCount.toNat).all plan.childrenValid

variable (candidateTokenIds verifierTokenIds : Nat → UInt32)

/-- The verifier goes on with the token of this row after the row's parent. -/
def agrees (row : Nat) : Bool :=
  verifierTokenIds (plan.rows row).parentRow.toNat = candidateTokenIds (plan.rows row).candidateIndex.toNat

/-- The first child that the verifier's token of a row is the token of. -/
def matchingChild (row : Nat) : Option Nat :=
  let node := plan.rows row
  ((List.range node.childCount.toNat).map (node.childRowBase.toNat + ·)).find? fun child =>
    verifierTokenIds row = candidateTokenIds (plan.rows child).candidateIndex.toNat

/-- The walk of `SparkSpeculationTreePlanResolve`, for as many rounds as there is fuel. -/
def walk : Nat → Nat → Option Nat
  | 0, _ => none
  | fuel + 1, row =>
    match plan.matchingChild candidateTokenIds verifierTokenIds row with
    | none => some row
    | some child => walk fuel child

/-- `SparkSpeculationTreePlanResolve`; there is no answer when the walk does not end within the fuel. -/
def resolve (fuel : Nat) : Option (Except SparkStatus TreeResolution) :=
  if (List.range plan.candidateCount.toNat).any fun candidate => plan.vocabCount ≤ candidateTokenIds candidate then
    some (.error .invalidArgument)
  else if (List.range plan.rowCount.toNat).any fun row => plan.vocabCount ≤ verifierTokenIds row then
    some (.error .invalidArgument)
  else
    (plan.walk candidateTokenIds verifierTokenIds fuel 0).map fun row =>
      let accepted := if row < plan.rowCount.toNat then (plan.rows row).depth.toNat else 0
      .ok {
        pathId := row
        acceptedTokenCount := accepted
        committedTokenCount := accepted + 1
        fallbackRowIndex := row }

/-- The same tree given as parent indices: a node for each row but the first. -/
def draft : Draft where
  tokenIds node := candidateTokenIds (plan.rows (node + 1)).candidateIndex.toNat
  parentIndices := some fun node =>
    if (plan.rows (node + 1)).parentRow = 0 then 0xffffffff else (plan.rows (node + 1)).parentRow.toUInt32 - 1
  tokenCount := plan.rowCount - 1

/-- The verifier's rows of the tree. -/
def verifierRows : Rows where
  tokenIds := verifierTokenIds
  tokenCount := plan.rowCount

/-- The verifier's tokens lead from the first row to this one. -/
inductive Followed : Nat → Prop where
  | input : Followed 0
  | child {row : Nat} (positive : row ≠ 0) (inRange : row < plan.rowCount.toNat)
      (parent : Followed (plan.rows row).parentRow.toNat)
      (agrees : plan.agrees candidateTokenIds verifierTokenIds row = true) : Followed row

/-- The row is in the range of its parent's children. -/
def Listed (row : Nat) : Prop :=
  (plan.rows (plan.rows row).parentRow.toNat).childRowBase.toNat ≤ row ∧
    row < (plan.rows (plan.rows row).parentRow.toNat).childRowBase.toNat +
      (plan.rows (plan.rows row).parentRow.toNat).childCount.toNat

/-- The candidates of the rows with one parent have different tokens. -/
def SiblingsDiffer : Prop :=
  ∀ row < plan.rowCount.toNat, ∀ other < row, other ≠ 0 → (plan.rows other).parentRow = (plan.rows row).parentRow →
    candidateTokenIds (plan.rows other).candidateIndex.toNat ≠ candidateTokenIds (plan.rows row).candidateIndex.toNat

/-- A table that has been checked. -/
structure Valid : Prop where
  rows : plan.rowCount.toNat ≤ maxPlanRows
  positive : plan.rowCount.toNat ≠ 0
  first : (plan.rows 0).depth.toNat = 0
  parent : ∀ row < plan.rowCount.toNat, row ≠ 0 → (plan.rows row).parentRow.toNat < row ∧
    (plan.rows row).depth.toNat = (plan.rows (plan.rows row).parentRow.toNat).depth.toNat + 1 ∧
    (plan.rows row).candidateIndex.toNat < plan.candidateCount.toNat
  children : ∀ row < plan.rowCount.toNat, ∀ offset < (plan.rows row).childCount.toNat,
    row < (plan.rows row).childRowBase.toNat + offset ∧
      (plan.rows row).childRowBase.toNat + offset < plan.rowCount.toNat ∧
      (plan.rows ((plan.rows row).childRowBase.toNat + offset)).parentRow.toNat = row
  apart : ∀ row < plan.rowCount.toNat, ∀ other < row, other ≠ 0 →
    (plan.rows other).candidateIndex.toNat % 32 ≠ (plan.rows row).candidateIndex.toNat % 32

section Check

variable {plan}

theorem candidateBit_toNat (row : Nat) :
    (plan.candidateBit row).toNat = 2 ^ ((plan.rows row).candidateIndex.toNat % 32) := by
  unfold candidateBit
  rw [UInt32.toNat_shiftLeft, UInt8.toNat_toUInt32]
  have small : (plan.rows row).candidateIndex.toNat % 32 < 32 := Nat.mod_lt _ (by decide)
  have one : (1 : UInt32).toNat = 1 := rfl
  rw [one, Nat.one_shiftLeft]
  exact Nat.mod_eq_of_lt (Nat.pow_lt_pow_right (by decide) small)

theorem scanRows_succ (count : Nat) :
    plan.scanRows (count + 1) = (plan.scanRows count).bind fun scan => plan.scanRow scan (count + 1) := by
  unfold scanRows
  rw [List.range_succ, List.foldlM_append]
  apply congrArg
  funext scan
  simp

/-- What the first loop has checked. -/
theorem scanRows_spec {count : Nat} {scan : RowScan} (scanned : plan.scanRows count = some scan) :
    ∀ row ≤ count, row ≠ 0 →
      ((plan.rows row).parentRow.toNat < row ∧
        (plan.rows row).depth.toNat = (plan.rows (plan.rows row).parentRow.toNat).depth.toNat + 1 ∧
        (plan.rows row).candidateIndex.toNat < plan.candidateCount.toNat) ∧
      scan.candidateSeenMask.toNat.testBit ((plan.rows row).candidateIndex.toNat % 32) = true ∧
      ∀ other < row, other ≠ 0 →
        (plan.rows other).candidateIndex.toNat % 32 ≠ (plan.rows row).candidateIndex.toNat % 32 := by
  induction count generalizing scan with
  | zero => exact fun row bound positive => absurd (Nat.le_zero.mp bound) positive
  | succ count ih =>
    rw [scanRows_succ, Option.bind_eq_some_iff] at scanned
    obtain ⟨before, isBefore, next⟩ := scanned
    have earlier := ih isBefore
    unfold scanRow at next
    dsimp only at next
    split at next
    · cases next
    rename_i parent isParent
    unfold nodeAt at isParent
    split at isParent
    · cases isParent
    cases isParent
    split at next
    · cases next
    rename_i checked
    cases next
    simp only [not_or, Nat.not_le, not_not] at checked
    obtain ⟨parentBefore, depth, candidate, unseen⟩ := checked
    have fresh : before.candidateSeenMask.toNat.testBit ((plan.rows (count + 1)).candidateIndex.toNat % 32) = false := by
      have empty := congrArg UInt32.toNat unseen
      rw [UInt32.toNat_and, candidateBit_toNat] at empty
      have bit := congrArg (Nat.testBit · ((plan.rows (count + 1)).candidateIndex.toNat % 32)) empty
      rw [Nat.testBit_and, Nat.testBit_two_pow_self, Bool.and_true] at bit
      rw [bit]
      exact Nat.zero_testBit _
    intro row bound positive
    rw [UInt32.toNat_or, candidateBit_toNat, Nat.testBit_or]
    rcases Nat.lt_or_eq_of_le bound with inside | rfl
    · obtain ⟨facts, seen, apart⟩ := earlier row (Nat.le_of_lt_succ inside) positive
      rw [seen]
      exact ⟨facts, rfl, apart⟩
    · refine ⟨⟨parentBefore, depth, candidate⟩, ?_, fun other below otherPositive same => ?_⟩
      · rw [Nat.testBit_two_pow_self, Bool.or_true]
      · obtain ⟨-, seen, -⟩ := earlier other (Nat.le_of_lt_succ below) otherPositive
        rw [same, fresh] at seen
        cases seen

theorem topologyIsValid_valid (checked : plan.topologyIsValid = true) : plan.Valid := by
  unfold topologyIsValid at checked
  split at checked
  · cases checked
  rename_i rows
  split at checked
  · cases checked
  rename_i first
  split at checked
  · cases checked
  rename_i scan scanned
  split at checked
  · cases checked
  simp only [not_or, Nat.not_lt, not_not] at rows first
  have positive : plan.rowCount.toNat ≠ 0 := fun zero => rows.1 (UInt32.toNat_inj.mp zero)
  have spec := scanRows_spec scanned
  constructor
  · exact rows.2
  · exact positive
  · rw [first.1]
    rfl
  · exact fun row below inner => (spec row (by omega) inner).1
  · intro row below offset inside
    have children := List.all_eq_true.mp checked row (List.mem_range.mpr below)
    unfold childrenValid at children
    dsimp only at children
    rw [Bool.or_eq_true, Bool.and_eq_true, Bool.and_eq_true, List.all_eq_true] at children
    rcases children with none | ⟨⟨base, fits⟩, parents⟩
    · rw [of_decide_eq_true none] at inside
      exact absurd inside (Nat.not_lt_zero _)
    · have after := of_decide_eq_true base
      have within := of_decide_eq_true fits
      exact ⟨by omega, by omega, of_decide_eq_true (parents offset (List.mem_range.mpr inside))⟩
  · exact fun row below other before inner => (spec row (by omega) (by omega)).2.2 other before inner

/-- There are as many rows at most as bits in the mask, and one more. -/
theorem Valid.rows_le (valid : plan.Valid) : plan.rowCount.toNat ≤ 33 := by
  have positive := valid.positive
  let index : Nat → Nat := fun row => (plan.rows (row + 1)).candidateIndex.toNat % 32
  have injective : Set.InjOn index (Finset.range (plan.rowCount.toNat - 1) : Finset Nat) := by
    intro row rowIn other otherIn same
    have rowBelow := Finset.mem_range.mp rowIn
    have otherBelow := Finset.mem_range.mp otherIn
    rcases Nat.lt_trichotomy row other with earlier | equal | later
    · exact absurd same (valid.apart (other + 1) (by omega) (row + 1) (by omega) (Nat.succ_ne_zero _))
    · exact equal
    · exact absurd same.symm (valid.apart (row + 1) (by omega) (other + 1) (by omega) (Nat.succ_ne_zero _))
  have into : Set.MapsTo index (Finset.range (plan.rowCount.toNat - 1) : Finset Nat) (Finset.range 32 : Finset Nat) :=
    fun row _ => Finset.mem_coe.mpr (Finset.mem_range.mpr (Nat.mod_lt _ (by decide)))
  have bound := Finset.card_le_card_of_injOn index into injective
  rw [Finset.card_range, Finset.card_range] at bound
  omega

end Check

section Followed

variable {plan} {candidateTokenIds verifierTokenIds} {row other : Nat}

/-- Only the first row has no depth. -/
theorem Valid.depth_pos (valid : plan.Valid) (below : row < plan.rowCount.toNat) (positive : row ≠ 0) :
    (plan.rows row).depth.toNat ≠ 0 := by
  rw [(valid.parent row below positive).2.1]
  exact Nat.succ_ne_zero _

variable (followed : plan.Followed candidateTokenIds verifierTokenIds row)
include followed

theorem Followed.inside (valid : plan.Valid) : row < plan.rowCount.toNat := by
  cases followed with
  | input => exact Nat.pos_of_ne_zero valid.positive
  | child positive inRange parent agrees => exact inRange

/-- The verifier's tokens lead to one row of each depth at most, since siblings have different tokens. -/
theorem Followed.unique (valid : plan.Valid) (differ : plan.SiblingsDiffer candidateTokenIds)
    (alsoFollowed : plan.Followed candidateTokenIds verifierTokenIds other)
    (depth : (plan.rows row).depth = (plan.rows other).depth) : row = other := by
  induction followed generalizing other with
  | input =>
    by_contra different
    have deep := valid.depth_pos (alsoFollowed.inside valid) (Ne.symm different)
    rw [← depth, valid.first] at deep
    exact deep rfl
  | @child row positive inRange parent agrees ih =>
    cases alsoFollowed with
    | input =>
      have deep := valid.depth_pos inRange positive
      rw [depth, valid.first] at deep
      exact absurd rfl deep
    | child otherPositive otherInRange otherParent otherAgrees =>
      have deeper := (valid.parent row inRange positive).2.1
      have otherDeeper := (valid.parent other otherInRange otherPositive).2.1
      have depths : (plan.rows (plan.rows row).parentRow.toNat).depth =
          (plan.rows (plan.rows other).parentRow.toNat).depth := by
        apply UInt8.toNat_inj.mp
        rw [depth] at deeper
        omega
      have parents := ih otherParent depths
      have token := of_decide_eq_true agrees
      have otherToken := of_decide_eq_true otherAgrees
      rw [← parents, token] at otherToken
      have sameParent := UInt8.toNat_inj.mp parents
      rcases Nat.lt_trichotomy row other with earlier | equal | later
      · exact absurd otherToken (differ other otherInRange row earlier positive sameParent)
      · exact equal
      · exact absurd otherToken.symm (differ row inRange other later otherPositive sameParent.symm)

/-- On the way to a row there is one of each depth before, and one of its children is next. -/
theorem Followed.at_depth (valid : plan.Valid) {depth : Nat} (less : depth < (plan.rows row).depth.toNat) :
    ∃ next, plan.Followed candidateTokenIds verifierTokenIds next ∧ next ≠ 0 ∧
      (plan.rows next).depth.toNat = depth + 1 := by
  induction followed with
  | input =>
    rw [valid.first] at less
    exact absurd less (Nat.not_lt_zero depth)
  | @child row positive inRange parent agrees ih =>
    have deeper := (valid.parent row inRange positive).2.1
    rcases Nat.lt_succ_iff_lt_or_eq.mp (deeper ▸ less) with earlier | same
    · exact ih earlier
    · exact ⟨row, .child positive inRange parent agrees, positive, by rw [deeper, same]⟩

theorem Followed.parent (positive : row ≠ 0) :
    plan.Followed candidateTokenIds verifierTokenIds (plan.rows row).parentRow.toNat ∧
      plan.agrees candidateTokenIds verifierTokenIds row = true := by
  cases followed with
  | input => exact absurd rfl positive
  | child _ _ parent agrees => exact ⟨parent, agrees⟩

end Followed

section Walk

variable {plan} {candidateTokenIds verifierTokenIds} {row child : Nat}

/-- A child that the walk takes is a row that the verifier's token leads to, and one that is listed. -/
theorem matchingChild_spec (valid : plan.Valid)
    (followed : plan.Followed candidateTokenIds verifierTokenIds row)
    (found : plan.matchingChild candidateTokenIds verifierTokenIds row = some child) :
    row < child ∧ plan.Followed candidateTokenIds verifierTokenIds child ∧ plan.Listed child ∧
      (plan.rows child).depth.toNat = (plan.rows row).depth.toNat + 1 := by
  have below := followed.inside valid
  unfold matchingChild at found
  dsimp only at found
  have token : verifierTokenIds row = candidateTokenIds (plan.rows child).candidateIndex.toNat := by
    simpa using List.find?_some found
  obtain ⟨offset, inside, rfl⟩ := List.mem_map.mp (List.mem_of_find?_eq_some found)
  have offsetBelow := List.mem_range.mp inside
  obtain ⟨after, inRange, parent⟩ := valid.children row below offset offsetBelow
  have positive : (plan.rows row).childRowBase.toNat + offset ≠ 0 := by omega
  have deeper := (valid.parent _ inRange positive).2.1
  have agrees : plan.agrees candidateTokenIds verifierTokenIds ((plan.rows row).childRowBase.toNat + offset) = true := by
    unfold agrees
    rw [parent]
    exact decide_eq_true token
  rw [parent] at deeper
  refine ⟨after, .child positive inRange (parent.symm ▸ followed) agrees, ?_, deeper⟩
  unfold Listed
  rw [parent]
  exact ⟨Nat.le_add_right _ _, by omega⟩

/-- The walk does not stop above a listed row that the verifier's token leads to. -/
theorem matchingChild_none (found : plan.matchingChild candidateTokenIds verifierTokenIds row = none)
    (parent : (plan.rows child).parentRow.toNat = row) (listed : plan.Listed child) :
    plan.agrees candidateTokenIds verifierTokenIds child ≠ true := by
  intro agrees
  unfold Listed at listed
  rw [parent] at listed
  have token := of_decide_eq_true agrees
  rw [parent] at token
  have none := List.find?_eq_none.mp found child (by
    apply List.mem_map.mpr
    exact ⟨child - (plan.rows row).childRowBase.toNat, List.mem_range.mpr (by omega), by omega⟩)
  exact none (decide_eq_true token)

/-- Each round of the walk goes to a later row, so as many rounds as there are rows are enough; and each
row on its way is listed. -/
theorem walk_spec (valid : plan.Valid) (followed : plan.Followed candidateTokenIds verifierTokenIds row) :
    ∃ last, (∀ fuel, plan.rowCount.toNat ≤ fuel + row →
        plan.walk candidateTokenIds verifierTokenIds fuel row = some last) ∧
      plan.Followed candidateTokenIds verifierTokenIds last ∧
      plan.matchingChild candidateTokenIds verifierTokenIds last = none ∧
      ∀ depth, (plan.rows row).depth.toNat < depth → depth ≤ (plan.rows last).depth.toNat →
        ∃ way, plan.Followed candidateTokenIds verifierTokenIds way ∧ plan.Listed way ∧
          (plan.rows way).depth.toNat = depth := by
  induction later : plan.rowCount.toNat - row using Nat.strong_induction_on generalizing row with
  | _ later' ih =>
    have below := followed.inside valid
    cases found : plan.matchingChild candidateTokenIds verifierTokenIds row with
    | none =>
      refine ⟨row, ?_, followed, found, fun depth more less => absurd more (Nat.not_lt.mpr less)⟩
      intro fuel enough
      cases fuel with
      | zero => omega
      | succ fuel =>
        unfold walk
        rw [found]
    | some child =>
      obtain ⟨after, childFollowed, listed, deeper⟩ := matchingChild_spec valid followed found
      obtain ⟨last, walked, lastFollowed, stops, ways⟩ :=
        ih (plan.rowCount.toNat - child) (by omega) childFollowed rfl
      refine ⟨last, ?_, lastFollowed, stops, ?_⟩
      · intro fuel enough
        cases fuel with
        | zero => omega
        | succ fuel =>
          unfold walk
          rw [found]
          exact walked fuel (by omega)
      · intro depth more less
        by_cases here : depth = (plan.rows child).depth.toNat
        · exact ⟨child, childFollowed, listed, here.symm⟩
        · exact ways depth (by omega) less

end Walk

section Pass

variable {plan} {candidateTokenIds verifierTokenIds} {node count : Nat} {acceptance : Acceptance}

/-- The parent of a node of the draft is the row of its parent. -/
theorem rowIndex_draftParentIndex (node : Nat) :
    rowIndex (draftParentIndex (plan.draft candidateTokenIds) node) = (plan.rows (node + 1)).parentRow.toNat := by
  have one : (1 : UInt32).toNat = 1 := rfl
  unfold draftParentIndex draft rowIndex
  dsimp only
  split
  · rename_i top
    rw [top]
    rfl
  · rename_i inner
    have small := (plan.rows (node + 1)).parentRow.toNat_lt
    have positive : (plan.rows (node + 1)).parentRow.toNat ≠ 0 := fun zero => inner (UInt8.toNat_inj.mp zero)
    have before : ((plan.rows (node + 1)).parentRow.toUInt32 - 1).toNat = (plan.rows (node + 1)).parentRow.toNat - 1 := by
      rw [UInt32.toNat_sub_of_le, UInt8.toNat_toUInt32, one]
      rw [UInt32.le_iff_toNat_le, UInt8.toNat_toUInt32, one]
      exact Nat.pos_of_ne_zero positive
    rw [before, if_neg]
    · omega
    · unfold parentIndexRoot
      omega

theorem draftParentIndex_root (node : Nat) :
    draftParentIndex (plan.draft candidateTokenIds) node = parentIndexRoot ↔
      (plan.rows (node + 1)).parentRow.toNat = 0 := by
  rw [← @rowIndex_draftParentIndex _ candidateTokenIds]
  unfold rowIndex
  split
  · rename_i top
    exact iff_of_true top rfl
  · rename_i inner
    exact iff_of_false inner (Nat.succ_ne_zero _)

/-- What the pass over the draft knows of the rows: it accepts those that the verifier's tokens lead to, each
at its depth. -/
structure PassedRows (plan : TreePlan) (candidateTokenIds verifierTokenIds : Nat → UInt32) (count : Nat)
    (acceptance : Acceptance) : Prop where
  agreed : ∀ node < count, plan.Followed candidateTokenIds verifierTokenIds (node + 1) →
    acceptance.acceptedDepth node = (plan.rows (node + 1)).depth.toNat
  refused : ∀ node < count, ¬ plan.Followed candidateTokenIds verifierTokenIds (node + 1) →
    acceptance.acceptedDepth node = 0
  best : plan.Followed candidateTokenIds verifierTokenIds (rowIndex acceptance.bestNodeIndex)
  depth : (plan.rows (rowIndex acceptance.bestNodeIndex)).depth.toNat = acceptance.bestDepth
  longest : ∀ node < count, plan.Followed candidateTokenIds verifierTokenIds (node + 1) →
    (plan.rows (node + 1)).depth.toNat ≤ acceptance.bestDepth

/-- The depth that the pass has for the parent of a node. -/
theorem PassedRows.parent (passed : PassedRows plan candidateTokenIds verifierTokenIds node acceptance) (valid : plan.Valid)
    (below : node + 1 < plan.rowCount.toNat) :
    ((draftParentIndex (plan.draft candidateTokenIds) node = parentIndexRoot ∨
        acceptance.depthOf (draftParentIndex (plan.draft candidateTokenIds) node) ≠ 0) ↔
      plan.Followed candidateTokenIds verifierTokenIds (plan.rows (node + 1)).parentRow.toNat) ∧
    (plan.Followed candidateTokenIds verifierTokenIds (plan.rows (node + 1)).parentRow.toNat →
      acceptance.depthOf (draftParentIndex (plan.draft candidateTokenIds) node) + 1 =
        (plan.rows (node + 1)).depth.toNat) := by
  obtain ⟨before, deeper, -⟩ := valid.parent (node + 1) below (Nat.succ_ne_zero node)
  rw [deeper]
  by_cases top : draftParentIndex (plan.draft candidateTokenIds) node = parentIndexRoot
  · rw [(draftParentIndex_root node).mp top, top, valid.first, Acceptance.depthOf, if_pos rfl]
    exact ⟨iff_of_true (.inl rfl) .input, fun _ => rfl⟩
  · have row : rowIndex (draftParentIndex (plan.draft candidateTokenIds) node) = _ := rowIndex_draftParentIndex node
    rw [rowIndex, if_neg top] at row
    rw [Acceptance.depthOf, if_neg top, ← row]
    have earlier : draftParentIndex (plan.draft candidateTokenIds) node < node := by omega
    constructor
    · constructor
      · intro reached
        by_contra apart
        exact reached.elim top fun deep => deep (passed.refused _ earlier apart)
      · intro followed
        rw [passed.agreed _ earlier followed]
        exact .inr (valid.depth_pos (by omega) (Nat.succ_ne_zero _))
    · intro followed
      rw [passed.agreed _ earlier followed]

/-- One node of the pass. -/
theorem PassedRows.acceptNode (passed : PassedRows plan candidateTokenIds verifierTokenIds node acceptance)
    (valid : plan.Valid) (below : node + 1 < plan.rowCount.toNat) :
    PassedRows plan candidateTokenIds verifierTokenIds (node + 1)
      (acceptNode (plan.draft candidateTokenIds) (plan.verifierRows verifierTokenIds) acceptance node) := by
  obtain ⟨reaches, depths⟩ := passed.parent valid below
  have inner : node ≠ parentIndexRoot := by
    have rows := valid.rows
    unfold maxPlanRows at rows
    unfold parentIndexRoot
    omega
  have row : rowIndex node = node + 1 := if_neg inner
  have accepts : ((draftParentIndex (plan.draft candidateTokenIds) node = parentIndexRoot ∨
        acceptance.depthOf (draftParentIndex (plan.draft candidateTokenIds) node) ≠ 0) ∧
      (plan.draft candidateTokenIds).tokenIds node = (plan.verifierRows verifierTokenIds).tokenIds
        (rowIndex (draftParentIndex (plan.draft candidateTokenIds) node))) ↔
      plan.Followed candidateTokenIds verifierTokenIds (node + 1) := by
    rw [reaches, rowIndex_draftParentIndex]
    constructor
    · rintro ⟨parent, token⟩
      exact .child (Nat.succ_ne_zero node) below parent (decide_eq_true token.symm)
    · intro followed
      obtain ⟨parent, agrees⟩ := followed.parent (Nat.succ_ne_zero node)
      exact ⟨parent, (of_decide_eq_true agrees).symm⟩
  have others : ∀ {P : Nat → Prop}, P node → (∀ earlier < node, P earlier) → ∀ place < node + 1, P place := by
    intro P here before place placeBelow
    rcases Nat.lt_succ_iff_lt_or_eq.mp placeBelow with earlier | rfl
    · exact before place earlier
    · exact here
  unfold SpeculationPolicy.acceptNode
  dsimp only
  split
  · rename_i reached
    have followed := accepts.mp reached
    have depth := depths (followed.parent (Nat.succ_ne_zero node)).1
    constructor
    · apply others
      · intro _
        dsimp only
        rw [update_self, depth]
      · intro earlier before earlierFollowed
        dsimp only
        rw [update_of_ne before.ne]
        exact passed.agreed earlier before earlierFollowed
    · apply others
      · exact fun apart => absurd followed apart
      · intro earlier before apart
        dsimp only
        rw [update_of_ne before.ne]
        exact passed.refused earlier before apart
    · dsimp only
      split
      · rw [row]
        exact followed
      · exact passed.best
    · dsimp only
      split
      · rw [row, depth]
      · exact passed.depth
    · apply others
      · intro _
        dsimp only
        split <;> omega
      · intro earlier before earlierFollowed
        have bound := passed.longest earlier before earlierFollowed
        dsimp only
        split <;> omega
  · rename_i refused
    have apart := mt accepts.mpr refused
    constructor
    · apply others
      · exact fun followed => absurd followed apart
      · intro earlier before earlierFollowed
        dsimp only
        rw [update_of_ne before.ne]
        exact passed.agreed earlier before earlierFollowed
    · apply others
      · exact fun _ => update_self ..
      · intro earlier before earlierApart
        dsimp only
        rw [update_of_ne before.ne]
        exact passed.refused earlier before earlierApart
    · exact passed.best
    · exact passed.depth
    · apply others
      · exact fun followed => absurd followed apart
      · exact passed.longest

theorem acceptNodes_passedRows (valid : plan.Valid) (bound : count < plan.rowCount.toNat) :
    PassedRows plan candidateTokenIds verifierTokenIds count
      (acceptNodes (plan.draft candidateTokenIds) (plan.verifierRows verifierTokenIds) count) := by
  induction count with
  | zero =>
    constructor
    · exact fun node below => absurd below (Nat.not_lt_zero node)
    · exact fun node below => absurd below (Nat.not_lt_zero node)
    · exact .input
    · exact valid.first
    · exact fun node below => absurd below (Nat.not_lt_zero node)
  | succ count ih =>
    have step : acceptNodes (plan.draft candidateTokenIds) (plan.verifierRows verifierTokenIds) (count + 1) =
        acceptNode (plan.draft candidateTokenIds) (plan.verifierRows verifierTokenIds)
          (acceptNodes (plan.draft candidateTokenIds) (plan.verifierRows verifierTokenIds) count) count := by
      simp [acceptNodes, List.range_succ]
    rw [step]
    exact (ih (Nat.lt_of_succ_lt bound)).acceptNode valid bound

end Pass

section Agreement

variable {plan} {candidateTokenIds verifierTokenIds : Nat → UInt32}

/-- The tokens of the candidates and of the rows are in the vocabulary. -/
structure TokensInRange (plan : TreePlan) (candidateTokenIds verifierTokenIds : Nat → UInt32) : Prop where
  candidates : ∀ candidate < plan.candidateCount.toNat, candidateTokenIds candidate < plan.vocabCount
  rows : ∀ row < plan.rowCount.toNat, verifierTokenIds row < plan.vocabCount

/-- The resolver of the policy takes the tree of a checked plan that has a candidate. -/
theorem draft_argumentsStatus (valid : plan.Valid) (inRange : plan.TokensInRange candidateTokenIds verifierTokenIds)
    (differ : plan.SiblingsDiffer candidateTokenIds) (several : 1 < plan.rowCount.toNat) :
    argumentsStatus (plan.draft candidateTokenIds) (plan.verifierRows verifierTokenIds) plan.vocabCount = .ok := by
  have most := valid.rows_le
  have one : (1 : UInt32).toNat = 1 := rfl
  have count : (plan.draft candidateTokenIds).tokenCount.toNat = plan.rowCount.toNat - 1 := by
    change (plan.rowCount - 1).toNat = _
    rw [UInt32.toNat_sub_of_le, one]
    rw [UInt32.le_iff_toNat_le, one]
    omega
  have again : (plan.draft candidateTokenIds).tokenCount + 1 = (plan.verifierRows verifierTokenIds).tokenCount :=
    UInt32.sub_add_cancel ..
  have tree : validateDraftTree (plan.draft candidateTokenIds) plan.vocabCount = .ok := by
    unfold validateDraftTree
    rw [if_pos]
    apply List.all_eq_true.mpr
    intro node nodeIn
    have below := List.mem_range.mp nodeIn
    rw [count] at below
    obtain ⟨before, -, candidate⟩ := valid.parent (node + 1) (by omega) (Nat.succ_ne_zero node)
    unfold nodeValid
    rw [Bool.and_eq_true, Bool.and_eq_true, Bool.or_eq_true, List.all_eq_true]
    refine ⟨⟨decide_eq_true (inRange.candidates _ candidate), ?_⟩, ?_⟩
    · by_cases top : draftParentIndex (plan.draft candidateTokenIds) node = parentIndexRoot
      · exact .inl (decide_eq_true top)
      · have row : rowIndex (draftParentIndex (plan.draft candidateTokenIds) node) = _ := rowIndex_draftParentIndex node
        rw [rowIndex, if_neg top] at row
        exact .inr (decide_eq_true (by omega))
    · intro sibling siblingIn
      have earlier := List.mem_range.mp siblingIn
      rw [Bool.not_eq_true', Bool.and_eq_false_imp]
      intro sameParent
      have parents := congrArg rowIndex (of_decide_eq_true sameParent)
      rw [rowIndex_draftParentIndex, rowIndex_draftParentIndex] at parents
      exact decide_eq_false (differ (node + 1) (by omega) (sibling + 1) (by omega) (Nat.succ_ne_zero _)
        (UInt8.toNat_inj.mp parents))
  unfold argumentsStatus
  rw [if_neg, if_neg (not_not.mpr tree), if_pos]
  · exact List.all_eq_true.mpr fun row rowIn => decide_eq_true (inRange.rows row (List.mem_range.mp rowIn))
  · have rows : (plan.verifierRows verifierTokenIds).tokenCount.toNat = plan.rowCount.toNat := rfl
    rintro (zero | many | fewer | more | ⟨-, differs⟩ | zero)
    · rw [zero] at count
      have none : (0 : UInt32).toNat = 0 := rfl
      omega
    · unfold maxSpeculativeTokenCount at many
      omega
    · rw [UInt32.lt_iff_toNat_lt] at fewer
      omega
    · rw [again] at more
      exact UInt32.lt_irrefl _ more
    · exact differs again.symm
    · have small := inRange.rows 0 (by omega)
      rw [zero] at small
      exact UInt32.not_lt_zero small

/-- The policy accepts as many tokens as the deepest row is deep that the verifier's tokens lead to. -/
theorem passedRows_draft (valid : plan.Valid) :
    plan.Followed candidateTokenIds verifierTokenIds
        (rowIndex (acceptedNode (plan.draft candidateTokenIds) (plan.verifierRows verifierTokenIds))) ∧
      (plan.rows (rowIndex (acceptedNode (plan.draft candidateTokenIds)
          (plan.verifierRows verifierTokenIds)))).depth.toNat =
        (verifyResult (plan.draft candidateTokenIds) (plan.verifierRows verifierTokenIds)).acceptedDraftTokenCount ∧
      ∀ row, plan.Followed candidateTokenIds verifierTokenIds row → (plan.rows row).depth.toNat ≤
        (verifyResult (plan.draft candidateTokenIds) (plan.verifierRows verifierTokenIds)).acceptedDraftTokenCount := by
  have positive := valid.positive
  have one : (1 : UInt32).toNat = 1 := rfl
  have count : (plan.draft candidateTokenIds).tokenCount.toNat = plan.rowCount.toNat - 1 := by
    change (plan.rowCount - 1).toNat = _
    rw [UInt32.toNat_sub_of_le, one]
    rw [UInt32.le_iff_toNat_le, one]
    exact Nat.pos_of_ne_zero positive
  have passed : PassedRows plan candidateTokenIds verifierTokenIds (plan.draft candidateTokenIds).tokenCount.toNat _ :=
    acceptNodes_passedRows valid (by omega)
  refine ⟨passed.best, passed.depth, fun row followed => ?_⟩
  have below := followed.inside valid
  cases row with
  | zero =>
    rw [valid.first]
    exact Nat.zero_le _
  | succ node => exact passed.longest node (by omega) followed

/-- The walk of a checked plan ends, and where it ends is the deepest row that the verifier's tokens lead to
exactly when each row that they lead to is listed under its parent. -/
theorem planResolve_agrees (checked : plan.topologyIsValid = true)
    (inRange : plan.TokensInRange candidateTokenIds verifierTokenIds) (differ : plan.SiblingsDiffer candidateTokenIds) :
    ∃ resolution : TreeResolution,
      (∀ fuel, plan.rowCount.toNat ≤ fuel →
        plan.resolve candidateTokenIds verifierTokenIds fuel = some (.ok resolution)) ∧
      (plan.rowCount = 1 → resolution.acceptedTokenCount = 0 ∧ resolution.fallbackRowIndex = 0) ∧
      (plan.rowCount ≠ 1 → ∃ result : VerifyResult,
        resolveVerifierTree (plan.draft candidateTokenIds) (plan.verifierRows verifierTokenIds) plan.vocabCount =
          .ok result ∧
        ((resolution.acceptedTokenCount = result.acceptedDraftTokenCount ∧
            resolution.fallbackRowIndex =
              rowIndex (acceptedNode (plan.draft candidateTokenIds) (plan.verifierRows verifierTokenIds))) ↔
          ∀ row, row ≠ 0 → plan.Followed candidateTokenIds verifierTokenIds row → plan.Listed row)) := by
  have valid := topologyIsValid_valid checked
  have first : plan.Followed candidateTokenIds verifierTokenIds 0 := .input
  obtain ⟨last, walked, followed, stops, ways⟩ := walk_spec valid first
  have lastIn := followed.inside valid
  refine ⟨⟨last, (plan.rows last).depth.toNat, (plan.rows last).depth.toNat + 1, last⟩, ?_, ?_, ?_⟩
  · intro fuel enough
    unfold resolve
    rw [if_neg, if_neg, walked fuel enough]
    · dsimp only [Option.map]
      rw [if_pos lastIn]
    · rw [List.any_eq_true]
      rintro ⟨row, rowIn, outside⟩
      exact UInt32.not_le.mpr (inRange.rows row (List.mem_range.mp rowIn)) (of_decide_eq_true outside)
    · rw [List.any_eq_true]
      rintro ⟨candidate, candidateIn, outside⟩
      exact UInt32.not_le.mpr (inRange.candidates candidate (List.mem_range.mp candidateIn)) (of_decide_eq_true outside)
  · intro single
    have zero : last = 0 := by
      rw [single] at lastIn
      exact Nat.lt_one_iff.mp lastIn
    rw [zero]
    exact ⟨valid.first, rfl⟩
  · intro several
    have positive := valid.positive
    have more : 1 < plan.rowCount.toNat := by
      have different : plan.rowCount.toNat ≠ 1 := fun single => several (UInt32.toNat_inj.mp single)
      omega
    have resolved : resolveVerifierTree (plan.draft candidateTokenIds) (plan.verifierRows verifierTokenIds)
        plan.vocabCount = .ok (verifyResult (plan.draft candidateTokenIds) (plan.verifierRows verifierTokenIds)) := by
      unfold resolveVerifierTree
      rw [if_neg (not_not.mpr (draft_argumentsStatus valid inRange differ more))]
    refine ⟨_, resolved, ?_⟩
    obtain ⟨best, depth, longest⟩ := @passedRows_draft _ candidateTokenIds verifierTokenIds valid
    dsimp only
    constructor
    · rintro ⟨counts, -⟩ row inner rowFollowed
      have deep := valid.depth_pos (rowFollowed.inside valid) inner
      obtain ⟨way, wayFollowed, listed, wayDepth⟩ := ways (plan.rows row).depth.toNat
        (by rw [valid.first]; exact Nat.pos_of_ne_zero deep) (by rw [counts]; exact longest row rowFollowed)
      rw [← wayFollowed.unique valid differ rowFollowed (UInt8.toNat_inj.mp wayDepth)]
      exact listed
    · intro listed
      have bounded := longest last followed
      have deepest : (plan.rows last).depth.toNat =
          (verifyResult (plan.draft candidateTokenIds) (plan.verifierRows verifierTokenIds)).acceptedDraftTokenCount := by
        by_contra different
        have above : (plan.rows last).depth.toNat < _ := (Nat.lt_of_le_of_ne bounded different).trans_eq depth.symm
        obtain ⟨next, nextFollowed, inner, nextDepth⟩ := best.at_depth valid above
        obtain ⟨parentFollowed, agrees⟩ := nextFollowed.parent inner
        have deeper := (valid.parent next (nextFollowed.inside valid) inner).2.1
        have parent := parentFollowed.unique valid differ followed (UInt8.toNat_inj.mp (by omega))
        exact matchingChild_none stops parent (listed next inner nextFollowed) agrees
      exact ⟨deepest, followed.unique valid differ best (UInt8.toNat_inj.mp (deepest.trans depth.symm))⟩

/-- Two rows, of which the second is not in the range of its parent's children. -/
def unlistedPlan : TreePlan where
  candidateCount := 1
  maxCommittedTokenCount := 2
  contextExtension := 1
  vocabCount := 10
  rowCount := 2
  rows row := if row = 1 then { depth := 1 } else {}

/-- The walk stops at the first row, and the policy accepts the candidate. -/
theorem unlistedPlan_differs :
    unlistedPlan.topologyIsValid = true ∧ unlistedPlan.TokensInRange (fun _ => 5) (fun _ => 5) ∧
      unlistedPlan.SiblingsDiffer (fun _ => 5) ∧
      (∀ fuel, unlistedPlan.resolve (fun _ => 5) (fun _ => 5) (fuel + 1) = some (.ok ⟨0, 0, 1, 0⟩)) ∧
      resolveVerifierTree (unlistedPlan.draft fun _ => 5) (unlistedPlan.verifierRows fun _ => 5) 10 =
        .ok { flags := .acceptedAll, proposedTokenCount := 1, acceptedDraftTokenCount := 1, committedTokenCount := 2,
              fallbackTokenId := 5 } ∧
      rowIndex (acceptedNode (unlistedPlan.draft fun _ => 5) (unlistedPlan.verifierRows fun _ => 5)) = 1 := by
  refine ⟨by decide, ⟨by decide, by decide⟩, ?_, fun _ => rfl, by decide, by decide⟩
  intro row below other before inner
  have two : row < 2 := below
  omega

/-- The same rows with the second in the first's range. -/
def listedPlan : TreePlan where
  candidateCount := 1
  maxCommittedTokenCount := 2
  contextExtension := 1
  vocabCount := 10
  rowCount := 2
  rows row := if row = 1 then { depth := 1 } else { childRowBase := 1, childCount := 1 }

theorem planResolve_agrees_listed :
    listedPlan.topologyIsValid = true ∧ ∃ resolution : TreeResolution,
      ∀ fuel, 2 ≤ fuel → listedPlan.resolve (fun _ => 5) (fun _ => 5) fuel = some (.ok resolution) :=
  have checked : listedPlan.topologyIsValid = true := by decide
  have inRange : listedPlan.TokensInRange (fun _ => 5) (fun _ => 5) := ⟨by decide, by decide⟩
  have differ : listedPlan.SiblingsDiffer (fun _ => 5) := by
    intro row below other before inner
    have two : row < 2 := below
    omega
  have ⟨resolution, resolves, _⟩ := planResolve_agrees checked inRange differ
  ⟨checked, resolution, resolves⟩

end Agreement

end TreePlan

end Sparkpipe.SpeculationTree
