import Sparkpipe.Lib.Walk
import Sparkpipe.Rows.Layout
import Mathlib.Data.List.SplitBy

/-!
# Waves of spans

A batch is cut into waves from its first row on: spans of one lane, spans of several lanes, or
rounds. The waves tile the batch, and each keeps its limits.
-/

namespace Sparkpipe.RowLayout

variable {ordinalOf : LaneOrdinal} {lanes : List UInt32} {regimeOf : RowRegime} {regime : Nat → UInt32} {wanted : UInt32}
  {maximumRows maximumSpans firstRow count left spans : Nat}

/-- The lanes of the rows of a wave. -/
def waveRows (lanes : List UInt32) (firstRow count : Nat) : List UInt32 := (lanes.drop firstRow).take count

/-- The runs of one lane in a wave. -/
def laneRuns (rows : List UInt32) : List (List UInt32) := rows.splitBy (· == ·)

/-- A wave of at least one row and at most the maximum, of one regime. -/
structure SpanWave (lanes : List UInt32) (regimeOf : RowRegime) (maximumRows firstRow count : Nat) : Prop where
  some : 1 ≤ count
  most : count ≤ maximumRows
  inside : firstRow + count ≤ lanes.length
  regime : ∀ row, firstRow ≤ row → row < firstRow + count → sameRegime regimeOf firstRow row

/-- A wave of at most so many runs, which splits a run only where it is the first. -/
structure PackedWave (lanes : List UInt32) (regimeOf : RowRegime) (maximumRows maximumSpans firstRow count : Nat) : Prop
    extends SpanWave lanes regimeOf maximumRows firstRow count where
  runs : (laneRuns (waveRows lanes firstRow count)).length ≤ maximumSpans
  whole : firstRow + count < lanes.length → lanes[firstRow + count]? = lanes[firstRow + count - 1]? →
    ∀ row, firstRow ≤ row → row < firstRow + count → lanes[row]? = lanes[firstRow + count - 1]?

/-- A wave of whole rounds of one regime, of more rows than the maximum only as a single round. -/
structure RoundWave (ordinalOf : LaneOrdinal) (lanes : List UInt32) (regimeOf : RowRegime)
    (maximumRows firstRow count : Nat) : Prop where
  rounds : ∃ starts, Walk (roundMajorWaveRowCount ordinalOf lanes) firstRow starts (firstRow + count) ∧ starts ≠ [] ∧
    (∀ regime ∈ regimeOf, ∀ start ∈ starts, roundRegime regime start (roundMajorWaveRowCount ordinalOf lanes start) =
      roundRegime regime firstRow (roundMajorWaveRowCount ordinalOf lanes firstRow)) ∧
    (maximumRows < count → starts.length = 1)

section LaneSpan

/-- The loop takes rows of the first row's lane and regime, as many as are left at most. -/
theorem moreRows_spec (lanes : List UInt32) (regimeOf : RowRegime) (firstRow left count : Nat)
    (inside : firstRow + count ≤ lanes.length) :
    count ≤ moreRows lanes regimeOf firstRow left count ∧ moreRows lanes regimeOf firstRow left count ≤ count + left ∧
      firstRow + moreRows lanes regimeOf firstRow left count ≤ lanes.length ∧
      ∀ row, firstRow + count ≤ row → row < firstRow + moreRows lanes regimeOf firstRow left count →
        lanes[row]? = lanes[firstRow]? ∧ sameRegime regimeOf firstRow row := by
  induction left generalizing count with
  | zero =>
    rw [moreRows]
    exact ⟨Nat.le_refl _, Nat.le_refl _, inside, by omega⟩
  | succ left ih =>
    rw [moreRows]
    split
    · rename_i same
      obtain ⟨below, sameLane, regime⟩ := same
      obtain ⟨least, most, fits, alike⟩ := ih (count + 1) (by omega)
      refine ⟨by omega, by omega, fits, ?_⟩
      intro row after before
      by_cases here : row = firstRow + count
      · subst here
        exact ⟨sameLane, regime⟩
      · exact alike row (by omega) before
    · exact ⟨Nat.le_refl _, by omega, inside, by omega⟩

/-- A lane span is a wave of rows of one lane. -/
theorem laneSpan_spec (regimeOf : RowRegime) (inside : firstRow < lanes.length) (someRows : 1 ≤ maximumRows) :
    SpanWave lanes regimeOf maximumRows firstRow (laneSpanWaveRowCount lanes regimeOf maximumRows firstRow) ∧
      ∀ row, firstRow ≤ row → row < firstRow + laneSpanWaveRowCount lanes regimeOf maximumRows firstRow →
        lanes[row]? = lanes[firstRow]? := by
  obtain ⟨least, most, fits, alike⟩ := moreRows_spec lanes regimeOf firstRow (maximumRows - 1) 1 inside
  have span : laneSpanWaveRowCount lanes regimeOf maximumRows firstRow =
      moreRows lanes regimeOf firstRow (maximumRows - 1) 1 := by
    rw [laneSpanWaveRowCount, if_neg (by omega)]
  rw [span]
  refine ⟨⟨least, by omega, fits, ?_⟩, ?_⟩
  · intro row after before
    by_cases here : row = firstRow
    · subst here
      intro regime _
      rfl
    · exact (alike row (by omega) before).2
  · intro row after before
    by_cases here : row = firstRow
    · rw [here]
    · exact (alike row (by omega) before).1

end LaneSpan

section PackedSpan

theorem waveRows_length (inside : firstRow + count ≤ lanes.length) : (waveRows lanes firstRow count).length = count := by
  rw [waveRows, List.length_take, List.length_drop]
  omega

theorem waveRows_getElem? {index : Nat} (below : index < count) :
    (waveRows lanes firstRow count)[index]? = lanes[firstRow + index]? := by
  rw [waveRows, List.getElem?_take_of_lt below, List.getElem?_drop]

theorem waveRows_add (lanes : List UInt32) (firstRow count more : Nat) :
    waveRows lanes firstRow (count + more) = waveRows lanes firstRow count ++ waveRows lanes (firstRow + count) more := by
  rw [waveRows, List.take_add, List.drop_drop, waveRows, waveRows]

/-- Rows of one lane are one run. -/
theorem laneRuns_single (some : 1 ≤ count) (inside : firstRow + count ≤ lanes.length)
    (same : ∀ row, firstRow ≤ row → row < firstRow + count → lanes[row]? = lanes[firstRow]?) :
    laneRuns (waveRows lanes firstRow count) = [waveRows lanes firstRow count] := by
  have length := waveRows_length inside
  apply List.splitBy_of_isChain
  · intro empty
    rw [empty, List.length_nil] at length
    omega
  · apply List.isChain_iff_getElem.mpr
    intro index bound
    rw [length] at bound
    have here := same (firstRow + index) (by omega) (by omega)
    have next := same (firstRow + (index + 1)) (by omega) (by omega)
    rw [← waveRows_getElem? (by omega : index < count), List.getElem?_eq_getElem (by omega)] at here
    rw [← waveRows_getElem? (by omega : index + 1 < count), List.getElem?_eq_getElem (by omega)] at next
    rw [← next] at here
    simpa using Option.some.inj here

/-- A wave that goes on with another lane has the runs of both parts. -/
theorem laneRuns_append {more : Nat} (some : 1 ≤ count) (inside : firstRow + count < lanes.length)
    (changes : lanes[firstRow + count]? ≠ lanes[firstRow + count - 1]?) :
    laneRuns (waveRows lanes firstRow (count + more)) =
      laneRuns (waveRows lanes firstRow count) ++ laneRuns (waveRows lanes (firstRow + count) more) := by
  rw [waveRows_add, laneRuns, List.splitBy_append]
  · rfl
  · intro last isLast next isNext
    rw [List.getLast?_eq_getElem?, waveRows_length (by omega), waveRows_getElem? (by omega)] at isLast
    have head : lanes[firstRow + count]? = Option.some next := by
      cases more with
      | zero => cases isNext
      | succ more =>
        rw [Option.mem_def, List.head?_eq_getElem?, waveRows_getElem? (by omega)] at isNext
        exact isNext
    rw [beq_eq_false_iff_ne]
    rintro rfl
    apply changes
    have place : firstRow + count - 1 = firstRow + (count - 1) := by omega
    rw [head, place]
    exact (Option.mem_def.mp isLast).symm

/-- The loop adds whole runs of the wave's regime, as many as are left at most. -/
theorem moreSpans_spec (wave : PackedWave lanes regimeOf maximumRows spans firstRow count) :
    PackedWave lanes regimeOf maximumRows (spans + left) firstRow
      (moreSpans lanes regimeOf maximumRows firstRow left count) := by
  have enough : ∀ more, PackedWave lanes regimeOf maximumRows (spans + more) firstRow count := fun more =>
    ⟨wave.toSpanWave, Nat.le_trans wave.runs (Nat.le_add_right _ _), wave.whole⟩
  induction left generalizing spans count with
  | zero =>
    rw [moreSpans]
    exact enough 0
  | succ left ih =>
    rw [moreSpans]
    split
    · rename_i room
      dsimp only
      split
      · exact enough _
      rename_i goesOn
      simp only [not_or, Nat.not_le, not_not] at goesOn
      obtain ⟨inside, changes, regime⟩ := goesOn
      have spanRows : 1 ≤ maximumRows - count := by omega
      obtain ⟨span, alike⟩ := laneSpan_spec regimeOf inside spanRows
      generalize laneSpanWaveRowCount lanes regimeOf (maximumRows - count) (firstRow + count) = more
        at span alike ⊢
      split
      · exact enough _
      rename_i notCut
      have spanSome := span.some
      have spanMost := span.most
      have spanInside := span.inside
      have waveSome := wave.some
      have longer : PackedWave lanes regimeOf maximumRows (spans + 1) firstRow (count + more) := by
        refine ⟨⟨by omega, by omega, by omega, ?_⟩, ?_, ?_⟩
        · intro row after before
          by_cases earlier : row < firstRow + count
          · exact wave.regime row after earlier
          · intro value given
            rw [span.regime row (by omega) (by omega) value given, regime value given]
        · rw [laneRuns_append waveSome inside changes, laneRuns_single spanSome spanInside alike,
            List.length_append, List.length_singleton]
          exact Nat.add_le_add_right wave.runs 1
        · intro below same
          -- the run that was added is whole
          rw [← Nat.add_assoc] at below same
          apply absurd _ notCut
          refine ⟨below, ?_⟩
          rw [same]
          exact alike _ (by omega) (by omega)
      have total : spans + (left + 1) = spans + 1 + left := by omega
      rw [total]
      apply ih longer
      intro extra
      exact ⟨longer.toSpanWave, Nat.le_trans longer.runs (Nat.le_add_right _ _), longer.whole⟩
    · exact enough _

theorem packedSpan_spec (inside : firstRow < lanes.length) (someRows : 1 ≤ maximumRows) (someSpans : 1 ≤ maximumSpans) :
    PackedWave lanes regimeOf maximumRows maximumSpans firstRow
      (packedSpanWaveRowCount lanes regimeOf maximumRows maximumSpans firstRow) := by
  obtain ⟨span, alike⟩ := laneSpan_spec regimeOf inside someRows
  have some := span.some
  unfold packedSpanWaveRowCount
  dsimp only
  rw [if_neg (by omega)]
  generalize laneSpanWaveRowCount lanes regimeOf maximumRows firstRow = count at span alike some ⊢
  have first : PackedWave lanes regimeOf maximumRows 1 firstRow count := by
    refine ⟨span, ?_, ?_⟩
    · rw [laneRuns_single some span.inside alike, List.length_singleton]
    · intro _ _ row after before
      rw [alike row after before, alike (firstRow + count - 1) (by omega) (by omega)]
  have all : 1 + (maximumSpans - 1) = maximumSpans := by omega
  have packed := @moreSpans_spec lanes regimeOf maximumRows firstRow count (maximumSpans - 1) 1 first
  rw [all] at packed
  exact packed

end PackedSpan

section RoundSpan

theorem risingRows_le (ordinalOf : LaneOrdinal) (current : Nat) (rows : List UInt32) :
    risingRows ordinalOf current rows ≤ rows.length := by
  induction rows generalizing current with
  | nil => exact Nat.le_refl _
  | cons laneId rest ih =>
    rw [risingRows, List.length_cons]
    split
    · exact Nat.zero_le _
    · split
      · exact Nat.zero_le _
      · exact Nat.succ_le_succ (ih _)

/-- A row whose lane has an ordinal starts a round. -/
theorem round_progress (inside : firstRow < lanes.length)
    (known : ∀ lane ∈ lanes, ∃ ordinal, ordinalOf lane = some ordinal) :
    0 < roundMajorWaveRowCount ordinalOf lanes firstRow ∧
      firstRow + roundMajorWaveRowCount ordinalOf lanes firstRow ≤ lanes.length := by
  have length := List.length_drop (i := firstRow) (l := lanes)
  rw [roundMajorWaveRowCount]
  cases here : lanes.drop firstRow with
  | nil =>
    rw [here, List.length_nil] at length
    omega
  | cons laneId rest =>
    have member : laneId ∈ lanes := List.mem_of_mem_drop (i := firstRow) (by rw [here]; exact List.mem_cons_self)
    obtain ⟨current, has⟩ := known laneId member
    dsimp only
    rw [has]
    rw [here, List.length_cons] at length
    have most := risingRows_le ordinalOf current rest
    constructor
    · exact Nat.succ_pos _
    · dsimp only
      omega

/-- The loop adds whole rounds of the wanted regime, within the maximum. -/
theorem moreRounds_spec (maximumRows : Nat) (regime : Nat → UInt32) (wanted : UInt32)
    (known : ∀ lane ∈ lanes, ∃ ordinal, ordinalOf lane = some ordinal)
    (inside : firstRow + count ≤ lanes.length) :
    firstRow + moreRounds ordinalOf lanes maximumRows regime wanted firstRow count ≤ lanes.length ∧
    ∃ starts, Walk (roundMajorWaveRowCount ordinalOf lanes) (firstRow + count) starts
        (firstRow + moreRounds ordinalOf lanes maximumRows regime wanted firstRow count) ∧
      (∀ start ∈ starts, roundRegime regime start (roundMajorWaveRowCount ordinalOf lanes start) = wanted) ∧
      (starts ≠ [] → moreRounds ordinalOf lanes maximumRows regime wanted firstRow count ≤ maximumRows) := by
  induction count using moreRounds.induct ordinalOf lanes maximumRows regime wanted firstRow with
  | case1 count more round stop =>
    rw [moreRounds, if_pos more]
    dsimp only
    rw [if_pos stop]
    exact ⟨inside, [], Walk.here _, nofun, fun some => absurd rfl some⟩
  | case2 count more round goesOn ih =>
    rw [moreRounds, if_pos more]
    dsimp only
    rw [if_neg goesOn]
    simp only [not_or, Nat.not_lt, ne_eq, not_not] at goesOn
    obtain ⟨some, fits, same⟩ := goesOn
    have within := (round_progress more.1 known).2
    rw [Nat.add_assoc] at within
    obtain ⟨ends, starts, walk, regimes, limit⟩ := ih within
    refine ⟨ends, (firstRow + count) :: starts, ?_, ?_, ?_⟩
    · apply Walk.step (Nat.pos_of_ne_zero some)
      rw [Nat.add_assoc]
      exact walk
    · intro start member
      rcases List.mem_cons.mp member with rfl | later
      · exact same
      · exact regimes start later
    · intro _
      cases starts with
      | nil =>
        have ended := walk.eq_of_nil
        have fits : count + round ≤ maximumRows := fits
        change moreRounds ordinalOf lanes maximumRows regime wanted firstRow (count + round) ≤ maximumRows
        omega
      | cons next starts => exact limit (by simp)
  | case3 count ended =>
    rw [moreRounds, if_neg ended]
    exact ⟨inside, [], Walk.here _, nofun, fun some => absurd rfl some⟩

/-- A round span is a wave of rounds. -/
theorem roundSpan_spec (regimeOf : RowRegime) (known : ∀ lane ∈ lanes, ∃ ordinal, ordinalOf lane = some ordinal)
    (inside : firstRow < lanes.length) :
    RoundWave ordinalOf lanes regimeOf maximumRows firstRow
        (roundSpanWaveRowCount ordinalOf lanes regimeOf maximumRows firstRow) ∧
      0 < roundSpanWaveRowCount ordinalOf lanes regimeOf maximumRows firstRow ∧
      firstRow + roundSpanWaveRowCount ordinalOf lanes regimeOf maximumRows firstRow ≤ lanes.length := by
  obtain ⟨some, within⟩ := round_progress inside known
  have single : Walk (roundMajorWaveRowCount ordinalOf lanes) firstRow [firstRow]
      (firstRow + roundMajorWaveRowCount ordinalOf lanes firstRow) := Walk.step some (Walk.here _)
  cases regimeOf with
  | none =>
    rw [roundSpanWaveRowCount]
    refine ⟨⟨[firstRow], single, by simp, nofun, fun _ => rfl⟩, some, within⟩
  | some regime =>
    rw [roundSpanWaveRowCount]
    rw [if_neg (Nat.ne_of_gt some)]
    obtain ⟨ends, starts, walk, regimes, limit⟩ := moreRounds_spec maximumRows regime
      (roundRegime regime firstRow (roundMajorWaveRowCount ordinalOf lanes firstRow)) known within
    have all := single.append walk
    have onward := walk.rows.1
    refine ⟨⟨firstRow :: starts, all, by simp, ?_, ?_⟩, by omega, ends⟩
    · intro given isGiven start member
      cases isGiven
      rcases List.mem_cons.mp member with rfl | later
      · rfl
      · exact regimes start later
    · intro large
      cases starts with
      | nil => rfl
      | cons next starts => exact absurd (limit (by simp)) (Nat.not_le_of_lt large)

end RoundSpan

/-- The waves of each kind tile the batch and keep their limits; rounds need an ordinal for the
lane of every row. -/
theorem spans_tile (ordinalOf : LaneOrdinal) (lanes : List UInt32) (regimeOf : RowRegime) (someRows : 1 ≤ maximumRows)
    (someSpans : 1 ≤ maximumSpans) :
    TakesAll (laneSpanWaveRowCount lanes regimeOf maximumRows) lanes.length ∧
    TakesAll (packedSpanWaveRowCount lanes regimeOf maximumRows maximumSpans) lanes.length ∧
    (∀ firstRow < lanes.length,
      SpanWave lanes regimeOf maximumRows firstRow (laneSpanWaveRowCount lanes regimeOf maximumRows firstRow) ∧
      PackedWave lanes regimeOf maximumRows maximumSpans firstRow
        (packedSpanWaveRowCount lanes regimeOf maximumRows maximumSpans firstRow)) ∧
    ((∀ lane ∈ lanes, ∃ ordinal, ordinalOf lane = some ordinal) →
      TakesAll (roundSpanWaveRowCount ordinalOf lanes regimeOf maximumRows) lanes.length ∧
      ∀ firstRow < lanes.length, RoundWave ordinalOf lanes regimeOf maximumRows firstRow
        (roundSpanWaveRowCount ordinalOf lanes regimeOf maximumRows firstRow)) := by
  refine ⟨?_, ?_, ?_, ?_⟩
  · apply takesAll_of_progress
    intro firstRow inside
    have wave := (laneSpan_spec regimeOf inside someRows).1
    exact ⟨wave.some, wave.inside⟩
  · apply takesAll_of_progress
    intro firstRow inside
    have wave : PackedWave lanes regimeOf _ _ _ _ := packedSpan_spec inside someRows someSpans
    exact ⟨wave.some, wave.inside⟩
  · intro firstRow inside
    exact ⟨(laneSpan_spec regimeOf inside someRows).1, packedSpan_spec inside someRows someSpans⟩
  · intro known
    constructor
    · apply takesAll_of_progress
      intro firstRow inside
      exact (roundSpan_spec regimeOf known inside).2
    · intro firstRow inside
      exact (roundSpan_spec regimeOf known inside).1

theorem spans_tile_three : TakesAll (laneSpanWaveRowCount [0, 1, 0] none 2) 3 :=
  (spans_tile (denseLaneOrdinal 2) [0, 1, 0] none (by decide : 1 ≤ 2) (Nat.le_refl 1)).1

/-- A row whose lane has no ordinal is in no wave of rounds. -/
theorem roundSpan_refused : ¬ TakesAll (roundSpanWaveRowCount (denseLaneOrdinal 0) [0] (some fun _ => 0) 1) 1 := by
  rintro ⟨places, walk, rows⟩
  have none : roundSpanWaveRowCount (denseLaneOrdinal 0) [0] (some fun _ => 0) 1 0 = 0 := by decide
  cases walk with
  | step progress rest =>
    rw [none] at progress
    exact absurd progress (Nat.lt_irrefl 0)

end Sparkpipe.RowLayout
