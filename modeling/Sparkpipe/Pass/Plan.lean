import Sparkpipe.Lib.Rounding
import Mathlib.Tactic.Ring

/-!
# The plan of a prompt's passes

A prompt is run in passes of equal share. The share is a whole number of aligned rows on every
rank, and the last pass is padded to whole rows.
-/

namespace Sparkpipe.Pass

/-- `SPARK_PASS_PLAN_MAX_RANKS`. -/
def maxRanks : UInt32 := 16

/-- `SparkPassPlan`; the default is the cleared plan. -/
structure PassPlan where
  passes : UInt32 := 0
  passShare : UInt64 := 0
  lastTokens : UInt64 := 0
  paddedKeys : UInt64 := 0

/-- `SparkPassNodeRows`, for ranks and an alignment that are not zero. -/
def passNodeRows (tokens : UInt64) (ranks rowAlign : UInt32) : UInt32 :=
  let rows := (tokens + ranks.toUInt64 - 1) / ranks.toUInt64
  ((rows + rowAlign.toUInt64 - 1) / rowAlign.toUInt64 * rowAlign.toUInt64).toUInt32

/-- The parameters that `SparkPassPlanTokens` accepts. -/
structure InRange (tokenCount : UInt64) (ranks nodeRows rowAlign : UInt32) : Prop where
  tokens : tokenCount ≠ 0
  someRank : ranks ≠ 0
  ranks : ranks ≤ maxRanks
  align : rowAlign ≠ 0
  rows : nodeRows ≠ 0
  whole : nodeRows % rowAlign = 0

instance (tokenCount : UInt64) (ranks nodeRows rowAlign : UInt32) :
    Decidable (InRange tokenCount ranks nodeRows rowAlign) :=
  decidable_of_iff (tokenCount ≠ 0 ∧ ranks ≠ 0 ∧ ranks ≤ maxRanks ∧ rowAlign ≠ 0 ∧ nodeRows ≠ 0 ∧ nodeRows % rowAlign = 0)
    ⟨fun ⟨tokens, someRank, ranks, align, rows, whole⟩ => ⟨tokens, someRank, ranks, align, rows, whole⟩,
      fun ⟨tokens, someRank, ranks, align, rows, whole⟩ => ⟨tokens, someRank, ranks, align, rows, whole⟩⟩

/-- `SparkPassPlanTokens`: what it returns and the plan it leaves; there is no result where it
divides by zero. -/
def passPlanTokens (firstPosition tokenCount : UInt64) (ranks nodeRows rowAlign : UInt32) : Option (Int × PassPlan) :=
  let passMax := ranks.toUInt64 * nodeRows.toUInt64
  let unit := ranks.toUInt64 * rowAlign.toUInt64
  if ¬ InRange tokenCount ranks nodeRows rowAlign then some (-1, {})
  else
    let passes := (tokenCount + passMax - 1) / passMax
    let passShare := (tokenCount + unit - 1) / unit
    if passes = 0 then none
    else
      let passShare := (passShare + passes - 1) / passes * unit
      if passShare = 0 then none
      else
        let passes := (tokenCount + passShare - 1) / passShare
        if passes > 0xffffffff then some (-1, { passShare })
        else
          let lastTokens := tokenCount - (passes - 1) * passShare
          let paddedKeys := firstPosition + tokenCount - lastTokens +
            ranks.toUInt64 * (passNodeRows lastTokens ranks rowAlign).toUInt64
          some (if paddedKeys > 0xffffffff then -1 else 0, { passes := passes.toUInt32, passShare, lastTokens, paddedKeys })

section Numbers

variable (firstPosition tokenCount : UInt64) (ranks nodeRows rowAlign : UInt32)

/-- The tokens that one aligned row on every rank holds. -/
def unitOf : Nat := ranks.toNat * rowAlign.toNat

/-- The most tokens of a pass. -/
def passMaxOf : Nat := ranks.toNat * nodeRows.toNat

/-- The share of a pass: the units of the prompt, dealt to the fewest passes. -/
def shareOf : Nat :=
  (tokenCount.toNat ⌈/⌉ unitOf ranks rowAlign ⌈/⌉ (tokenCount.toNat ⌈/⌉ passMaxOf ranks nodeRows)) *
    unitOf ranks rowAlign

def passesOf : Nat := tokenCount.toNat ⌈/⌉ shareOf tokenCount ranks nodeRows rowAlign

def lastOf : Nat :=
  tokenCount.toNat - (passesOf tokenCount ranks nodeRows rowAlign - 1) * shareOf tokenCount ranks nodeRows rowAlign

/-- The padded rows of the last pass on a rank. -/
def rowsOf : Nat :=
  lastOf tokenCount ranks nodeRows rowAlign ⌈/⌉ ranks.toNat ⌈/⌉ rowAlign.toNat * rowAlign.toNat

/-- The keys of the prompt and of the padding of its last pass. -/
def keysOf : Nat :=
  firstPosition.toNat + tokenCount.toNat - lastOf tokenCount ranks nodeRows rowAlign +
    ranks.toNat * rowsOf tokenCount ranks nodeRows rowAlign

/-- No sum of the function wraps; the last ones are reached by counts of passes of 32 bits. -/
structure SumsFit : Prop where
  passes : tokenCount.toNat + passMaxOf ranks nodeRows < 2 ^ 64
  units : tokenCount.toNat + unitOf ranks rowAlign < 2 ^ 64
  shares : tokenCount.toNat ⌈/⌉ unitOf ranks rowAlign + tokenCount.toNat ⌈/⌉ passMaxOf ranks nodeRows < 2 ^ 64
  passesAgain : tokenCount.toNat + shareOf tokenCount ranks nodeRows rowAlign < 2 ^ 64
  rows : lastOf tokenCount ranks nodeRows rowAlign + ranks.toNat + rowAlign.toNat < 2 ^ 64 ∧
    rowsOf tokenCount ranks nodeRows rowAlign < 2 ^ 32
  keys : passesOf tokenCount ranks nodeRows rowAlign < 2 ^ 32 →
    keysOf firstPosition tokenCount ranks nodeRows rowAlign < 2 ^ 64

/-- A plan that covers the prompt. -/
structure Covers (plan : PassPlan) : Prop where
  some : 0 < plan.passShare.toNat
  whole : unitOf ranks rowAlign ∣ plan.passShare.toNat
  most : plan.passShare.toNat ≤ passMaxOf ranks nodeRows
  begun : (plan.passes.toNat - 1) * plan.passShare.toNat < tokenCount.toNat
  ends : tokenCount.toNat ≤ plan.passes.toNat * plan.passShare.toNat
  last : plan.lastTokens.toNat = tokenCount.toNat - (plan.passes.toNat - 1) * plan.passShare.toNat
  lastShare : 1 ≤ plan.lastTokens.toNat ∧ plan.lastTokens.toNat ≤ plan.passShare.toNat
  padded : firstPosition.toNat + tokenCount.toNat ≤ plan.paddedKeys.toNat

/-- The function returns, no sum wraps, and it refuses or gives a plan that covers the prompt; it
gives one whenever the parameters are in range and the padded end fits 32 bits. -/
structure Total : Prop where
  sums : InRange tokenCount ranks nodeRows rowAlign → SumsFit firstPosition tokenCount ranks nodeRows rowAlign
  plans : ∃ code plan, passPlanTokens firstPosition tokenCount ranks nodeRows rowAlign = some (code, plan) ∧
    (code = -1 ∨ code = 0 ∧ Covers firstPosition tokenCount ranks nodeRows rowAlign plan) ∧
    (InRange tokenCount ranks nodeRows rowAlign →
      keysOf firstPosition tokenCount ranks nodeRows rowAlign < 2 ^ 32 → code = 0)

variable {firstPosition tokenCount ranks nodeRows rowAlign}

section Exact

variable (inRange : InRange tokenCount ranks nodeRows rowAlign)

include inRange

theorem InRange.unit_pos : 0 < unitOf ranks rowAlign := by
  apply Nat.mul_pos
  · exact Nat.pos_of_ne_zero fun zero => inRange.someRank (UInt32.toNat_inj.mp zero)
  · exact Nat.pos_of_ne_zero fun zero => inRange.align (UInt32.toNat_inj.mp zero)

theorem InRange.tokens_pos : 0 < tokenCount.toNat :=
  Nat.pos_of_ne_zero fun zero => inRange.tokens (UInt64.toNat_inj.mp zero)

/-- The most tokens of a pass are whole units. -/
theorem InRange.passMax : ∃ units, 0 < units ∧ passMaxOf ranks nodeRows = units * unitOf ranks rowAlign := by
  have whole : rowAlign.toNat ∣ nodeRows.toNat := by
    apply Nat.dvd_of_mod_eq_zero
    rw [← UInt32.toNat_mod, inRange.whole]
    rfl
  obtain ⟨units, nodeRowsAre⟩ := whole
  have someRows : nodeRows.toNat ≠ 0 := fun zero => inRange.rows (UInt32.toNat_inj.mp zero)
  refine ⟨units, ?_, ?_⟩
  · apply Nat.pos_of_ne_zero
    rintro rfl
    exact someRows nodeRowsAre
  · rw [passMaxOf, unitOf, nodeRowsAre]
    ring

theorem InRange.passMax_lt : passMaxOf ranks nodeRows ≤ 16 * 2 ^ 32 := by
  have ranksBound : ranks.toNat ≤ 16 := UInt32.le_iff_toNat_le.mp inRange.ranks
  have rowsBound := nodeRows.toNat_lt
  exact Nat.mul_le_mul ranksBound (Nat.le_of_lt rowsBound)

/-- The passes are the fewest that the rows of a node allow, although their share is even. -/
theorem passesOf_eq : passesOf tokenCount ranks nodeRows rowAlign = tokenCount.toNat ⌈/⌉ passMaxOf ranks nodeRows := by
  obtain ⟨units, someUnits, passMax⟩ := inRange.passMax
  have unit := inRange.unit_pos
  have someCount := Rounding.pos unit inRange.tokens_pos
  have passes : tokenCount.toNat ⌈/⌉ passMaxOf ranks nodeRows =
      tokenCount.toNat ⌈/⌉ unitOf ranks rowAlign ⌈/⌉ units := by
    rw [passMax, Rounding.ceilDiv_ceilDiv unit someUnits]
  have someEach := Rounding.pos (Rounding.pos someUnits someCount) someCount
  rw [passesOf, shareOf, passes, ← Rounding.ceilDiv_ceilDiv unit someEach, Rounding.fewest someUnits someCount]

theorem shareOf_pos : 0 < shareOf tokenCount ranks nodeRows rowAlign := by
  obtain ⟨units, someUnits, passMax⟩ := inRange.passMax
  have unit := inRange.unit_pos
  have someMax : 0 < passMaxOf ranks nodeRows := by
    rw [passMax]
    exact Nat.mul_pos someUnits unit
  exact Nat.mul_pos (Rounding.pos (Rounding.pos someMax inRange.tokens_pos) (Rounding.pos unit inRange.tokens_pos)) unit

theorem shareOf_le : shareOf tokenCount ranks nodeRows rowAlign ≤ passMaxOf ranks nodeRows := by
  obtain ⟨units, someUnits, passMax⟩ := inRange.passMax
  have unit := inRange.unit_pos
  have someCount := Rounding.pos unit inRange.tokens_pos
  rw [shareOf, passMax, ← Rounding.ceilDiv_ceilDiv unit someUnits]
  apply Nat.mul_le_mul_right
  rw [Rounding.le_iff (Rounding.pos someUnits someCount), Nat.mul_comm]
  exact Rounding.le_mul someUnits _

/-- Every pass before the last is begun. -/
theorem begun : (passesOf tokenCount ranks nodeRows rowAlign - 1) * shareOf tokenCount ranks nodeRows rowAlign <
    tokenCount.toNat := by
  have share := shareOf_pos inRange
  have some := inRange.tokens_pos
  have less : passesOf tokenCount ranks nodeRows rowAlign * shareOf tokenCount ranks nodeRows rowAlign < _ :=
    Rounding.mul_lt share tokenCount.toNat
  rw [Nat.sub_mul, Nat.one_mul]
  omega

theorem ends : tokenCount.toNat ≤
    passesOf tokenCount ranks nodeRows rowAlign * shareOf tokenCount ranks nodeRows rowAlign :=
  Rounding.le_mul (shareOf_pos inRange) _

theorem lastOf_mem : 1 ≤ lastOf tokenCount ranks nodeRows rowAlign ∧
    lastOf tokenCount ranks nodeRows rowAlign ≤ shareOf tokenCount ranks nodeRows rowAlign := by
  have share := shareOf_pos inRange
  have passes : 0 < passesOf tokenCount ranks nodeRows rowAlign := Rounding.pos share inRange.tokens_pos
  have less := begun inRange
  have covers := ends inRange
  have split_ : passesOf tokenCount ranks nodeRows rowAlign * shareOf tokenCount ranks nodeRows rowAlign =
      (passesOf tokenCount ranks nodeRows rowAlign - 1) * shareOf tokenCount ranks nodeRows rowAlign +
        shareOf tokenCount ranks nodeRows rowAlign := by
    rw [← Nat.succ_mul, Nat.succ_eq_add_one, Nat.sub_add_cancel passes]
  rw [lastOf]
  omega

/-- The rows of all ranks are the last tokens rounded up to whole units. -/
theorem rows_eq : ranks.toNat * rowsOf tokenCount ranks nodeRows rowAlign =
    lastOf tokenCount ranks nodeRows rowAlign ⌈/⌉ unitOf ranks rowAlign * unitOf ranks rowAlign := by
  have someRank : 0 < ranks.toNat := Nat.pos_of_mul_pos_right inRange.unit_pos
  have someAlign : 0 < rowAlign.toNat := Nat.pos_of_mul_pos_left inRange.unit_pos
  rw [rowsOf, Rounding.ceilDiv_ceilDiv someRank someAlign, unitOf, Nat.mul_comm rowAlign.toNat]
  ring

/-- The padded end is the prompt rounded up to whole units. -/
theorem keysOf_eq : keysOf firstPosition tokenCount ranks nodeRows rowAlign =
    firstPosition.toNat + tokenCount.toNat ⌈/⌉ unitOf ranks rowAlign * unitOf ranks rowAlign := by
  have less := begun inRange
  have before : tokenCount.toNat =
      (passesOf tokenCount ranks nodeRows rowAlign - 1) * shareOf tokenCount ranks nodeRows rowAlign +
        lastOf tokenCount ranks nodeRows rowAlign := by
    rw [lastOf]
    omega
  have whole : (passesOf tokenCount ranks nodeRows rowAlign - 1) * shareOf tokenCount ranks nodeRows rowAlign =
      (passesOf tokenCount ranks nodeRows rowAlign - 1) *
        (tokenCount.toNat ⌈/⌉ unitOf ranks rowAlign ⌈/⌉ (tokenCount.toNat ⌈/⌉ passMaxOf ranks nodeRows)) *
          unitOf ranks rowAlign := by
    rw [shareOf]
    ring
  have rounded : tokenCount.toNat ⌈/⌉ unitOf ranks rowAlign * unitOf ranks rowAlign =
      (passesOf tokenCount ranks nodeRows rowAlign - 1) * shareOf tokenCount ranks nodeRows rowAlign +
        lastOf tokenCount ranks nodeRows rowAlign ⌈/⌉ unitOf ranks rowAlign * unitOf ranks rowAlign := by
    conv_lhs => rw [before, whole, Rounding.mul_add_ceilDiv inRange.unit_pos, Nat.add_mul, ← whole]
  rw [keysOf, rows_eq inRange, rounded]
  omega

/-- The sums fit when the inputs leave room for one more pass, for the two counts, and for the
padded end. -/
theorem sumsFit (passes : tokenCount.toNat + passMaxOf ranks nodeRows < 2 ^ 64)
    (shares : tokenCount.toNat ⌈/⌉ unitOf ranks rowAlign + tokenCount.toNat ⌈/⌉ passMaxOf ranks nodeRows < 2 ^ 64)
    (keys : tokenCount.toNat ⌈/⌉ passMaxOf ranks nodeRows < 2 ^ 32 →
      firstPosition.toNat + tokenCount.toNat ⌈/⌉ unitOf ranks rowAlign * unitOf ranks rowAlign < 2 ^ 64) :
    SumsFit firstPosition tokenCount ranks nodeRows rowAlign := by
  obtain ⟨units, someUnits, passMax⟩ := inRange.passMax
  have unit := inRange.unit_pos
  have unitLe : unitOf ranks rowAlign ≤ passMaxOf ranks nodeRows := by
    rw [passMax]
    exact Nat.le_mul_of_pos_left _ someUnits
  have shareLe := shareOf_le inRange
  have maxLe := inRange.passMax_lt
  have last := lastOf_mem inRange
  have someRank : 0 < ranks.toNat := Nat.pos_of_mul_pos_right unit
  have someAlign : 0 < rowAlign.toNat := Nat.pos_of_mul_pos_left unit
  constructor
  · exact passes
  · omega
  · exact shares
  · omega
  · have ranksBound := ranks.toNat_lt
    have alignBound := rowAlign.toNat_lt
    refine ⟨by omega, ?_⟩
    -- the last pass is no longer than the others, and they fit the rows of a node
    have most : ranks.toNat * rowsOf tokenCount ranks nodeRows rowAlign ≤ ranks.toNat * nodeRows.toNat := by
      rw [rows_eq inRange]
      exact Rounding.mul_le unit (Dvd.intro_left units passMax.symm) (Nat.le_trans last.2 shareLe)
    exact Nat.lt_of_le_of_lt (Nat.le_of_mul_le_mul_left most someRank) nodeRows.toNat_lt
  · rw [passesOf_eq inRange, keysOf_eq inRange]
    exact keys

theorem passNodeRows_toNat {tokens : UInt64} (fits : tokens.toNat + ranks.toNat + rowAlign.toNat < 2 ^ 64)
    (rows : tokens.toNat ⌈/⌉ ranks.toNat ⌈/⌉ rowAlign.toNat * rowAlign.toNat < 2 ^ 32) :
    (passNodeRows tokens ranks rowAlign).toNat =
      tokens.toNat ⌈/⌉ ranks.toNat ⌈/⌉ rowAlign.toNat * rowAlign.toNat := by
  have unit := inRange.unit_pos
  have someRank : 0 < ranks.toUInt64.toNat := by
    rw [UInt32.toNat_toUInt64]
    exact Nat.pos_of_mul_pos_right unit
  have someAlign : 0 < rowAlign.toUInt64.toNat := by
    rw [UInt32.toNat_toUInt64]
    exact Nat.pos_of_mul_pos_left unit
  have perRank := Rounding.uint64_eq tokens ranks.toUInt64 someRank (by
    rw [UInt32.toNat_toUInt64]
    omega)
  rw [UInt32.toNat_toUInt64] at perRank someRank
  have fewer : tokens.toNat ⌈/⌉ ranks.toNat ≤ tokens.toNat :=
    (Rounding.le_iff someRank).mpr (Nat.le_mul_of_pos_right _ someRank)
  have aligned := Rounding.uint64_eq ((tokens + ranks.toUInt64 - 1) / ranks.toUInt64) rowAlign.toUInt64 someAlign (by
    rw [UInt32.toNat_toUInt64, perRank]
    omega)
  rw [UInt32.toNat_toUInt64, perRank] at aligned
  rw [passNodeRows, UInt64.toNat_toUInt32, UInt64.toNat_mul, aligned, UInt32.toNat_toUInt64]
  omega

/-- What the function leaves when no sum wraps. -/
theorem passPlanTokens_eq (fits : SumsFit firstPosition tokenCount ranks nodeRows rowAlign) :
    ∃ code plan, passPlanTokens firstPosition tokenCount ranks nodeRows rowAlign = some (code, plan) ∧
      (2 ^ 32 ≤ passesOf tokenCount ranks nodeRows rowAlign → code = -1) ∧
      (passesOf tokenCount ranks nodeRows rowAlign < 2 ^ 32 →
        plan.passes.toNat = passesOf tokenCount ranks nodeRows rowAlign ∧
        plan.passShare.toNat = shareOf tokenCount ranks nodeRows rowAlign ∧
        plan.lastTokens.toNat = lastOf tokenCount ranks nodeRows rowAlign ∧
        plan.paddedKeys.toNat = keysOf firstPosition tokenCount ranks nodeRows rowAlign ∧
        code = if 2 ^ 32 ≤ keysOf firstPosition tokenCount ranks nodeRows rowAlign then -1 else 0) := by
  obtain ⟨units, someUnits, passMaxIs⟩ := inRange.passMax
  have unit := inRange.unit_pos
  have someMax : 0 < passMaxOf ranks nodeRows := by
    rw [passMaxIs]
    exact Nat.mul_pos someUnits unit
  have maxLe := inRange.passMax_lt
  have unitFits := fits.units
  have passMax : (ranks.toUInt64 * nodeRows.toUInt64).toNat = passMaxOf ranks nodeRows := by
    rw [UInt64.toNat_mul, UInt32.toNat_toUInt64, UInt32.toNat_toUInt64]
    exact Nat.mod_eq_of_lt (by omega : passMaxOf ranks nodeRows < 2 ^ 64)
  have unitWord : (ranks.toUInt64 * rowAlign.toUInt64).toNat = unitOf ranks rowAlign := by
    rw [UInt64.toNat_mul, UInt32.toNat_toUInt64, UInt32.toNat_toUInt64]
    exact Nat.mod_eq_of_lt (by omega : unitOf ranks rowAlign < 2 ^ 64)
  have passes := Rounding.uint64_eq tokenCount (ranks.toUInt64 * nodeRows.toUInt64) (by rw [passMax]; exact someMax)
    (by rw [passMax]; exact fits.passes)
  have shares := Rounding.uint64_eq tokenCount (ranks.toUInt64 * rowAlign.toUInt64) (by rw [unitWord]; exact unit)
    (by rw [unitWord]; exact fits.units)
  rw [passMax] at passes
  rw [unitWord] at shares
  have somePasses : 0 < tokenCount.toNat ⌈/⌉ passMaxOf ranks nodeRows := Rounding.pos someMax inRange.tokens_pos
  have shareFits := fits.passesAgain
  unfold passPlanTokens
  rw [if_neg (not_not_intro inRange)]
  dsimp only
  generalize (tokenCount + ranks.toUInt64 * nodeRows.toUInt64 - 1) / (ranks.toUInt64 * nodeRows.toUInt64) = passesWord
    at passes ⊢
  generalize (tokenCount + ranks.toUInt64 * rowAlign.toUInt64 - 1) / (ranks.toUInt64 * rowAlign.toUInt64) = sharesWord
    at shares ⊢
  have perPass := Rounding.uint64_eq sharesWord passesWord (by rw [passes]; exact somePasses)
    (by rw [passes, shares]; exact fits.shares)
  have share : ((sharesWord + passesWord - 1) / passesWord * (ranks.toUInt64 * rowAlign.toUInt64)).toNat =
      shareOf tokenCount ranks nodeRows rowAlign := by
    rw [UInt64.toNat_mul, perPass, unitWord, passes, shares]
    exact Nat.mod_eq_of_lt (by omega : shareOf tokenCount ranks nodeRows rowAlign < 2 ^ 64)
  have somePassesWord : passesWord ≠ 0 := by
    rintro rfl
    rw [← passes] at somePasses
    exact absurd somePasses (Nat.lt_irrefl 0)
  rw [if_neg somePassesWord]
  generalize (sharesWord + passesWord - 1) / passesWord * (ranks.toUInt64 * rowAlign.toUInt64) = shareWord at share ⊢
  have someShare := shareOf_pos inRange
  have someShareWord : shareWord ≠ 0 := by
    rintro rfl
    rw [← share] at someShare
    exact absurd someShare (Nat.lt_irrefl 0)
  rw [if_neg someShareWord]
  have again := Rounding.uint64_eq tokenCount shareWord (by rw [share]; exact someShare)
    (by rw [share]; exact fits.passesAgain)
  rw [share] at again
  replace again : _ = passesOf tokenCount ranks nodeRows rowAlign := again
  generalize (tokenCount + shareWord - 1) / shareWord = againWord at again ⊢
  have limit : againWord > 0xffffffff ↔ 2 ^ 32 ≤ passesOf tokenCount ranks nodeRows rowAlign := by
    rw [gt_iff_lt, UInt64.lt_iff_toNat_lt, again]
    exact Nat.lt_iff_add_one_le
  by_cases many : againWord > 0xffffffff
  · rw [if_pos many]
    refine ⟨_, _, rfl, fun _ => rfl, ?_⟩
    intro few
    exact absurd (limit.mp many) (Nat.not_le_of_lt few)
  have few : passesOf tokenCount ranks nodeRows rowAlign < 2 ^ 32 := Nat.lt_of_not_le fun large => many (limit.mpr large)
  rw [if_neg many]
  refine ⟨_, _, rfl, fun large => absurd few (Nat.not_lt_of_le large), ?_⟩
  intro _
  have less := begun inRange
  have before : ((againWord - 1) * shareWord).toNat =
      (passesOf tokenCount ranks nodeRows rowAlign - 1) * shareOf tokenCount ranks nodeRows rowAlign := by
    have one : (againWord - 1).toNat = againWord.toNat - 1 := by
      apply UInt64.toNat_sub_of_le
      rw [UInt64.le_iff_toNat_le, again]
      exact Rounding.pos someShare inRange.tokens_pos
    have bound := tokenCount.toNat_lt
    rw [UInt64.toNat_mul, one, again, share, Nat.mod_eq_of_lt (by omega)]
  have last : (tokenCount - (againWord - 1) * shareWord).toNat = lastOf tokenCount ranks nodeRows rowAlign := by
    rw [UInt64.toNat_sub_of_le, before, lastOf]
    rw [UInt64.le_iff_toNat_le, before]
    exact Nat.le_of_lt less
  generalize tokenCount - (againWord - 1) * shareWord = lastWord at last ⊢
  have rows := passNodeRows_toNat inRange (by rw [last]; exact fits.rows.1) (by rw [last]; exact fits.rows.2)
  rw [last] at rows
  replace rows : _ = rowsOf tokenCount ranks nodeRows rowAlign := rows
  have keysFit := fits.keys few
  have keys : (firstPosition + tokenCount - lastWord +
      ranks.toUInt64 * (passNodeRows lastWord ranks rowAlign).toUInt64).toNat =
        keysOf firstPosition tokenCount ranks nodeRows rowAlign := by
    have lastLe : lastOf tokenCount ranks nodeRows rowAlign ≤ tokenCount.toNat := Nat.sub_le _ _
    have covers : lastOf tokenCount ranks nodeRows rowAlign ≤ ranks.toNat * rowsOf tokenCount ranks nodeRows rowAlign := by
      rw [rows_eq inRange]
      exact Rounding.le_mul unit _
    rw [keysOf] at keysFit ⊢
    have product : (ranks.toUInt64 * (passNodeRows lastWord ranks rowAlign).toUInt64).toNat =
        ranks.toNat * rowsOf tokenCount ranks nodeRows rowAlign := by
      rw [UInt64.toNat_mul, UInt32.toNat_toUInt64, UInt32.toNat_toUInt64, rows, Nat.mod_eq_of_lt (by omega)]
    have sum : (firstPosition + tokenCount).toNat = firstPosition.toNat + tokenCount.toNat := by
      rw [UInt64.toNat_add, Nat.mod_eq_of_lt (by omega)]
    have less : (firstPosition + tokenCount - lastWord).toNat =
        firstPosition.toNat + tokenCount.toNat - lastOf tokenCount ranks nodeRows rowAlign := by
      rw [UInt64.toNat_sub_of_le, sum, last]
      rw [UInt64.le_iff_toNat_le, sum, last]
      omega
    rw [UInt64.toNat_add, less, product, Nat.mod_eq_of_lt keysFit]
  refine ⟨?_, share, last, keys, ?_⟩
  · rw [UInt64.toNat_toUInt32, again, Nat.mod_eq_of_lt few]
  · have over32 : firstPosition + tokenCount - lastWord +
        ranks.toUInt64 * (passNodeRows lastWord ranks rowAlign).toUInt64 > 0xffffffff ↔
          2 ^ 32 ≤ keysOf firstPosition tokenCount ranks nodeRows rowAlign := by
      rw [gt_iff_lt, UInt64.lt_iff_toNat_lt, keys]
      exact Nat.lt_iff_add_one_le
    simp only [over32]

/-- A plan of these numbers covers the prompt. -/
theorem covers_of {plan : PassPlan} (passes : plan.passes.toNat = passesOf tokenCount ranks nodeRows rowAlign)
    (share : plan.passShare.toNat = shareOf tokenCount ranks nodeRows rowAlign)
    (last : plan.lastTokens.toNat = lastOf tokenCount ranks nodeRows rowAlign)
    (keys : plan.paddedKeys.toNat = keysOf firstPosition tokenCount ranks nodeRows rowAlign) :
    Covers firstPosition tokenCount ranks nodeRows rowAlign plan := by
  constructor
  · rw [share]
    exact shareOf_pos inRange
  · rw [share]
    exact Nat.dvd_mul_left _ _
  · rw [share]
    exact shareOf_le inRange
  · rw [passes, share]
    exact begun inRange
  · rw [passes, share]
    exact ends inRange
  · rw [last, passes, share, lastOf]
  · rw [last, share]
    exact lastOf_mem inRange
  · rw [keys, keysOf_eq inRange]
    exact Nat.add_le_add_left (Rounding.le_mul inRange.unit_pos _) _

end Exact

/-- The plan is total, and covers the prompt, exactly while the inputs leave room: for one more
pass after the prompt, for the units and the passes counted together, and for the padded end. -/
theorem total_iff : Total firstPosition tokenCount ranks nodeRows rowAlign ↔
    (InRange tokenCount ranks nodeRows rowAlign →
      tokenCount.toNat + passMaxOf ranks nodeRows < 2 ^ 64 ∧
      tokenCount.toNat ⌈/⌉ unitOf ranks rowAlign + tokenCount.toNat ⌈/⌉ passMaxOf ranks nodeRows < 2 ^ 64 ∧
      (tokenCount.toNat ⌈/⌉ passMaxOf ranks nodeRows < 2 ^ 32 →
        firstPosition.toNat + tokenCount.toNat ⌈/⌉ unitOf ranks rowAlign * unitOf ranks rowAlign < 2 ^ 64)) := by
  constructor
  · intro total inRange
    have fits := total.sums inRange
    have keys := fits.keys
    rw [passesOf_eq inRange, keysOf_eq inRange] at keys
    exact ⟨fits.passes, fits.shares, keys⟩
  · intro room
    by_cases inRange : InRange tokenCount ranks nodeRows rowAlign
    · obtain ⟨passes, shares, keys⟩ := room inRange
      have fits := sumsFit inRange passes shares keys
      refine ⟨fun _ => fits, ?_⟩
      obtain ⟨code, plan, returned, many, few⟩ := passPlanTokens_eq inRange fits
      refine ⟨code, plan, returned, ?_, ?_⟩
      · by_cases fewPasses : passesOf tokenCount ranks nodeRows rowAlign < 2 ^ 32
        · obtain ⟨passesAre, shareIs, lastIs, keysAre, codeIs⟩ := few fewPasses
          by_cases long : 2 ^ 32 ≤ keysOf firstPosition tokenCount ranks nodeRows rowAlign
          · rw [if_pos long] at codeIs
            exact .inl codeIs
          · rw [if_neg long] at codeIs
            right
            exact ⟨codeIs, covers_of inRange passesAre shareIs lastIs keysAre⟩
        · exact .inl (many (Nat.le_of_not_lt fewPasses))
      · intro _ short
        have fewPasses : passesOf tokenCount ranks nodeRows rowAlign < 2 ^ 32 := by
          rw [keysOf_eq inRange] at short
          have covers := Rounding.le_mul inRange.unit_pos tokenCount.toNat
          have share := shareOf_pos inRange
          have less : passesOf tokenCount ranks nodeRows rowAlign ≤ tokenCount.toNat :=
            (Rounding.le_iff share).mpr (Nat.le_mul_of_pos_right _ share)
          omega
        rw [(few fewPasses).2.2.2.2, if_neg (Nat.not_le_of_lt short)]
    · refine ⟨fun accepted => absurd accepted inRange, -1, {}, ?_, Or.inl rfl, fun accepted => absurd accepted inRange⟩
      unfold passPlanTokens
      rw [if_pos inRange]

/-- The longest prompt divides by zero: the sum for its passes wraps. -/
theorem not_total : ¬ Total 0 0xffffffffffffffff 1 2 1 := by
  intro total
  obtain ⟨code, plan, returned, -⟩ := total.plans
  have divides : (passPlanTokens 0 0xffffffffffffffff 1 2 1).isNone = true := by decide +kernel
  rw [returned] at divides
  exact absurd divides (by simp)

/-- A plan covers the prompt, and is the least that does: in its passes, among all splits into
shares that the rows hold; in its share, among the aligned ones that cover the prompt in as many
passes; and in its keys, among the aligned ends behind the prompt. -/
theorem plan_least (fits : SumsFit firstPosition tokenCount ranks nodeRows rowAlign) {plan : PassPlan}
    (planned : passPlanTokens firstPosition tokenCount ranks nodeRows rowAlign = some (0, plan)) :
    Covers firstPosition tokenCount ranks nodeRows rowAlign plan ∧
    IsLeast {passes | ∃ share ≤ passMaxOf ranks nodeRows, tokenCount.toNat ≤ passes * share} plan.passes.toNat ∧
    IsLeast {share | unitOf ranks rowAlign ∣ share ∧ tokenCount.toNat ≤ plan.passes.toNat * share}
      plan.passShare.toNat ∧
    IsLeast {keys | firstPosition.toNat + tokenCount.toNat ≤ keys ∧
      unitOf ranks rowAlign ∣ keys - firstPosition.toNat} plan.paddedKeys.toNat := by
  have inRange : InRange tokenCount ranks nodeRows rowAlign := by
    by_contra refused
    unfold passPlanTokens at planned
    rw [if_pos refused] at planned
    simp at planned
  obtain ⟨code, written, returned, many, few⟩ := passPlanTokens_eq inRange fits
  obtain ⟨rfl, rfl⟩ := Prod.mk.inj (Option.some.inj (planned.symm.trans returned))
  have fewPasses := Nat.lt_of_not_le (mt many (by decide))
  obtain ⟨passes, share, last, keys, -⟩ := few fewPasses
  have covers := covers_of inRange passes share last keys
  have unit := inRange.unit_pos
  have someMax := Nat.lt_of_lt_of_le (shareOf_pos inRange) (shareOf_le inRange)
  refine ⟨covers, ⟨⟨_, covers.most, covers.ends⟩, ?_⟩, ⟨⟨covers.whole, covers.ends⟩, ?_⟩, ⟨covers.padded, ?_⟩, ?_⟩
  · rintro count ⟨each, within, enough⟩
    rw [passes, passesOf_eq inRange, Rounding.le_iff someMax]
    exact Nat.le_trans enough (Nat.mul_le_mul_left count within)
  · rintro each ⟨⟨units, rfl⟩, enough⟩
    rw [passes, passesOf_eq inRange] at enough
    rw [share, shareOf, Nat.mul_comm]
    apply Nat.mul_le_mul_left
    rw [Rounding.le_iff (Rounding.pos someMax inRange.tokens_pos), Rounding.le_iff unit]
    apply Nat.le_trans enough
    exact Nat.le_of_eq (by ring)
  · rw [keys, keysOf_eq inRange, Nat.add_sub_cancel_left]
    exact Nat.dvd_mul_left _ _
  · rintro room ⟨enough, whole⟩
    rw [keys, keysOf_eq inRange]
    have rounded := Rounding.mul_le unit whole (Nat.le_sub_of_add_le' enough)
    omega

/-- Thirteen tokens from position 7 on, two ranks of six rows each, aligned by two. -/
theorem plan_least_two : passPlanTokens 7 13 2 6 2 = some (0, ⟨2, 8, 5, 23⟩) ∧
    IsLeast {share | 4 ∣ share ∧ 13 ≤ 2 * share} 8 ∧ IsLeast {keys | 20 ≤ keys ∧ 4 ∣ keys - 7} 23 :=
  have planned : passPlanTokens 7 13 2 6 2 = some (0, ⟨2, 8, 5, 23⟩) := by rfl
  have least := plan_least ⟨by decide, by decide, by decide, by decide, by decide, by decide⟩ planned
  ⟨planned, least.2.2⟩

end Numbers

end Sparkpipe.Pass
