import Sparkpipe.Status
import Mathlib.Data.List.Basic
import Mathlib.Logic.Function.Basic

/-!
# Row layouts

A batch is a list of rows, each of one lane. In round-major order the rows come in rounds, with
the lanes of a round in the order of their ordinals; in lane-major order the rows of a lane stand
together. The functions here check a layout and cut a batch into waves.
-/

namespace Sparkpipe.RowLayout

/-- `SparkRowLayoutLaneOrdinalFunction` with its context: no ordinal for a status other than `OK`. -/
abbrev LaneOrdinal := UInt32 → Option Nat

/-- `SparkRowLayoutRowRegimeFunction` with its context, where there is one. -/
abbrev RowRegime := Option (Nat → UInt32)

/-- `SparkRowLayoutDenseLaneOrdinal`, with its lane count. -/
def denseLaneOrdinal (laneCount : Nat) : LaneOrdinal := fun laneId =>
  if laneCount ≤ laneId.toNat then none else some laneId.toNat

section RoundMajor

variable (ordinalOf : LaneOrdinal) (laneCount : Nat) (lanes : List UInt32)

/-- The arrays and the variables of the loop in `SparkRowLayoutValidateRoundMajor`. -/
structure Check where
  occurrenceCounts : Nat → Nat := fun _ => 0
  lastRows : Nat → Nat := fun _ => 0xffffffff
  row : Nat := 0
  previousWave : Nat := 0
  previousOrdinal : Nat := 0

/-- One turn of the loop over the rows. -/
def Check.next (check : Check) (laneId : UInt32) : Except SparkStatus Check :=
  match ordinalOf laneId with
  | none => .error .invalidArgument
  | some ordinal =>
    if laneCount ≤ ordinal then .error .invalidArgument
    else
      let wave := check.occurrenceCounts ordinal
      if check.row ≠ 0 ∧ (wave < check.previousWave ∨ wave = check.previousWave ∧ ordinal ≤ check.previousOrdinal) then
        .error .invalidArgument
      else
        .ok { occurrenceCounts := Function.update check.occurrenceCounts ordinal (wave + 1)
              lastRows := Function.update check.lastRows ordinal check.row
              row := check.row + 1
              previousWave := wave
              previousOrdinal := ordinal }

/-- `SparkRowLayoutValidateRoundMajor`. -/
def validateRoundMajor : Except SparkStatus Check :=
  if lanes.length < laneCount ∨ laneCount = 0 then .error .invalidArgument
  else if ∃ lane < laneCount, lanes[lane]?.bind ordinalOf ≠ some lane then .error .invalidArgument
  else lanes.foldlM (Check.next ordinalOf laneCount) {}

/-- The rows on which the ordinal goes on to rise. -/
def risingRows (current : Nat) : List UInt32 → Nat
  | [] => 0
  | laneId :: rest =>
    match ordinalOf laneId with
    | none => 0
    | some next => if next ≤ current then 0 else risingRows next rest + 1

/-- `SparkRowLayoutRoundMajorWaveRowCount`. -/
def roundMajorWaveRowCount (firstRow : Nat) : Nat :=
  match lanes.drop firstRow with
  | [] => 0
  | laneId :: rest =>
    match ordinalOf laneId with
    | none => 0
    | some current => risingRows ordinalOf current rest + 1

end RoundMajor

section Spans

variable (ordinalOf : LaneOrdinal) (lanes : List UInt32) (regimeOf : RowRegime) (maximumRows maximumSpans : Nat)

/-- `SparkRowLayoutRoundRegime`. -/
def roundRegime (regime : Nat → UInt32) (firstRow count : Nat) : UInt32 :=
  (List.range count).foldl (fun most index =>
    if regime (firstRow + index) > most then regime (firstRow + index) else most) 0

/-- The loop of `SparkRowLayoutRoundSpanWaveRowCount`, from a count of rows on. -/
def moreRounds (regime : Nat → UInt32) (wanted : UInt32) (firstRow : Nat) (count : Nat) : Nat :=
  if firstRow + count < lanes.length ∧ count < maximumRows then
    let round := roundMajorWaveRowCount ordinalOf lanes (firstRow + count)
    if round = 0 ∨ count + round > maximumRows ∨ roundRegime regime (firstRow + count) round ≠ wanted then count
    else moreRounds regime wanted firstRow (count + round)
  else count
termination_by lanes.length - (firstRow + count)
decreasing_by
  simp only [not_or] at *
  omega

/-- `SparkRowLayoutRoundSpanWaveRowCount`. -/
def roundSpanWaveRowCount (firstRow : Nat) : Nat :=
  let count := roundMajorWaveRowCount ordinalOf lanes firstRow
  match regimeOf with
  | none => count
  | some regime =>
    if count = 0 then count
    else moreRounds ordinalOf lanes maximumRows regime (roundRegime regime firstRow count) firstRow count

/-- `regime_function == 0 || regime_function(regime_context,row) == regime`, with the regime of
the first row. -/
def sameRegime (firstRow row : Nat) : Prop := ∀ regime ∈ regimeOf, regime row = regime firstRow

instance (firstRow row : Nat) : Decidable (sameRegime regimeOf firstRow row) :=
  match regimeOf with
  | none => .isTrue fun _ absent => nomatch absent
  | some regime => decidable_of_iff (regime row = regime firstRow)
      ⟨fun same _ given => by cases given; exact same, fun same => same regime rfl⟩

/-- The loop of `SparkRowLayoutLaneSpanWaveRowCount`, with the rows that the maximum leaves. -/
def moreRows (firstRow : Nat) : Nat → Nat → Nat
  | 0, count => count
  | left + 1, count =>
    if firstRow + count < lanes.length ∧ lanes[firstRow + count]? = lanes[firstRow]? ∧
        sameRegime regimeOf firstRow (firstRow + count) then moreRows firstRow left (count + 1)
    else count

/-- `SparkRowLayoutLaneSpanWaveRowCount`. -/
def laneSpanWaveRowCount (firstRow : Nat) : Nat :=
  if lanes.length ≤ firstRow ∨ maximumRows = 0 then 0
  else moreRows lanes regimeOf firstRow (maximumRows - 1) 1

/-- The loop of `SparkRowLayoutPackedSpanWaveRowCount`, with the spans that the maximum leaves. -/
def moreSpans (firstRow : Nat) : Nat → Nat → Nat
  | 0, count => count
  | left + 1, count =>
    if count < maximumRows then
      let next := firstRow + count
      if lanes.length ≤ next ∨ lanes[next]? = lanes[next - 1]? ∨ ¬ sameRegime regimeOf firstRow next then count
      else
        let span := laneSpanWaveRowCount lanes regimeOf (maximumRows - count) next
        if next + span < lanes.length ∧ lanes[next + span]? = lanes[next]? then count
        else moreSpans firstRow left (count + span)
    else count

/-- `SparkRowLayoutPackedSpanWaveRowCount`. -/
def packedSpanWaveRowCount (firstRow : Nat) : Nat :=
  let count := laneSpanWaveRowCount lanes regimeOf maximumRows firstRow
  if count = 0 ∨ maximumSpans = 0 then count
  else moreSpans lanes regimeOf maximumRows firstRow (maximumSpans - 1) count

end Spans

end Sparkpipe.RowLayout
