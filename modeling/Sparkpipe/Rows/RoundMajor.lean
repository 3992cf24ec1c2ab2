import Sparkpipe.Lib.Rounds
import Sparkpipe.Lib.Walk
import Sparkpipe.Rows.Layout
import Mathlib.Data.Option.Basic
import Mathlib.Data.Set.Basic
import Mathlib.Order.Bounds.Defs

/-!
# Layouts in rounds

The check of a layout compares each row with the one before. It accepts the layouts in rounds,
and the wave counts cut such a layout into its rounds.
-/

namespace Sparkpipe.RowLayout

open Function Rounds

/-- The order of the lanes in a round. -/
def Before (ordinalOf : LaneOrdinal) (lane other : UInt32) : Prop :=
  ∃ ordinal larger, ordinalOf lane = some ordinal ∧ ordinalOf other = some larger ∧ ordinal < larger

/-- A layout in rounds, the first of which has all the lanes. -/
structure RoundMajor (ordinalOf : LaneOrdinal) (laneCount : Nat) (rounds : List (List UInt32)) (lanes : List UInt32) :
    Prop where
  inRounds : InRounds (Before ordinalOf) rounds lanes
  first : (rounds.headD []).map ordinalOf = (List.range laneCount).map some

/-- No two lanes have one ordinal. -/
def Injective (ordinalOf : LaneOrdinal) : Prop :=
  ∀ lane other ordinal, ordinalOf lane = some ordinal → ordinalOf other = some ordinal → lane = other

variable {ordinalOf : LaneOrdinal} {laneCount : Nat} {lanes passed : List UInt32} {check next : Check} {laneId : UInt32}
  {rounds : List (List UInt32)}

instance : Std.Irrefl (Before ordinalOf) where
  irrefl lane := by
    rintro ⟨ordinal, larger, has, also, less⟩
    rw [has] at also
    cases also
    exact absurd less (Nat.lt_irrefl _)

instance : IsTrans UInt32 (Before ordinalOf) where
  trans lane middle other := by
    rintro ⟨ordinal, between, has, hasMiddle, less⟩ ⟨again, larger, also, hasOther, more⟩
    rw [hasMiddle] at also
    cases also
    exact ⟨ordinal, larger, has, hasOther, Nat.lt_trans less more⟩

instance : IsTrans (Nat × UInt32) (Earlier (Before ordinalOf)) where
  trans pair middle other := by
    rintro (less | ⟨same, earlier⟩) (more | ⟨alike, later⟩)
    · exact .inl (Nat.lt_trans less more)
    · exact .inl (alike ▸ less)
    · exact .inl (same ▸ more)
    · exact .inr ⟨same.trans alike, IsTrans.trans _ _ _ earlier later⟩

/-- The rows of a list with the rounds they are in. -/
abbrev places (lanes : List UInt32) : List (Nat × UInt32) := numbered (fun _ => 0) lanes

theorem places_snoc (passed : List UInt32) (laneId : UInt32) :
    places (passed ++ [laneId]) = places passed ++ [(passed.count laneId, laneId)] := by
  rw [places, numbered_append]
  simp [numbered]

/-- What the loop has when it has passed these rows. -/
structure Passed (ordinalOf : LaneOrdinal) (passed : List UInt32) (check : Check) : Prop where
  row : check.row = passed.length
  counts : ∀ lane ordinal, ordinalOf lane = some ordinal → check.occurrenceCounts ordinal = passed.count lane
  lasts : ∀ lane ∈ passed, ∀ ordinal, ordinalOf lane = some ordinal →
    IsGreatest { row : Nat | passed[row]? = some lane } (check.lastRows ordinal)
  previous : ∀ pair ∈ (places passed).getLast?, pair.1 = check.previousWave ∧
    ordinalOf pair.2 = some check.previousOrdinal

theorem Passed.nil : Passed ordinalOf [] {} := by
  constructor
  · rfl
  · intro lane ordinal _
    rfl
  · intro lane member
    cases member
  · intro pair absent
    cases absent

/-- When a row is accepted. -/
theorem next_ok_iff (passing : Passed ordinalOf passed check) :
    (∃ next, check.next ordinalOf laneCount laneId = .ok next) ↔
      (∃ ordinal < laneCount, ordinalOf laneId = some ordinal) ∧
        ∀ pair ∈ (places passed).getLast?, Earlier (Before ordinalOf) pair (passed.count laneId, laneId) := by
  unfold Check.next
  cases has : ordinalOf laneId with
  | none =>
    constructor
    · rintro ⟨next, accepted⟩
      cases accepted
    · rintro ⟨⟨ordinal, -, absent⟩, -⟩
      cases absent
  | some ordinal =>
    have wave := passing.counts laneId ordinal has
    have start : check.row ≠ 0 ↔ passed ≠ [] := by
      rw [passing.row, ne_eq, List.length_eq_zero_iff]
    -- the local comparison is the order of the numbered rows
    have earlier : (¬ (check.row ≠ 0 ∧ (check.occurrenceCounts ordinal < check.previousWave ∨
        check.occurrenceCounts ordinal = check.previousWave ∧ ordinal ≤ check.previousOrdinal))) ↔
          ∀ pair ∈ (places passed).getLast?, Earlier (Before ordinalOf) pair (passed.count laneId, laneId) := by
      rw [start, wave]
      have previous := passing.previous
      rcases last : (places passed).getLast? with _ | pair
      · have empty : passed = [] := by
          have none := congrArg (List.map Prod.snd) (List.getLast?_eq_none_iff.mp last)
          rw [places, numbered_map_snd] at none
          exact none
        subst empty
        constructor
        · intro _ pair absent
          cases absent
        · intro _ refused
          exact refused.1 rfl
      · have some : passed ≠ [] := by
          rintro rfl
          cases last
        obtain ⟨sameWave, sameOrdinal⟩ := previous pair (by rw [last]; rfl)
        have rising : Before ordinalOf pair.2 laneId ↔ check.previousOrdinal < ordinal := by
          constructor
          · rintro ⟨lower, larger, hasLower, hasLarger, less⟩
            rw [sameOrdinal] at hasLower
            rw [has] at hasLarger
            cases hasLower
            cases hasLarger
            exact less
          · intro less
            exact ⟨_, _, sameOrdinal, has, less⟩
        simp only [Option.mem_def, Option.some.injEq, forall_eq', Earlier, rising, sameWave, ne_eq, some,
          not_false_eq_true, true_and, not_or, not_and, not_lt, not_le]
        constructor
        · intro ⟨least, tie⟩
          rcases Nat.lt_or_eq_of_le least with less | same
          · exact .inl less
          · exact .inr ⟨same, tie same.symm⟩
        · rintro (less | ⟨same, rises⟩)
          · exact ⟨Nat.le_of_lt less, fun equal => absurd equal (Nat.ne_of_gt less)⟩
          · exact ⟨Nat.le_of_eq same, fun _ => rises⟩
    rw [← earlier]
    dsimp only
    by_cases large : laneCount ≤ ordinal
    · rw [if_pos large]
      constructor
      · rintro ⟨next, accepted⟩
        cases accepted
      · rintro ⟨⟨other, less, same⟩, -⟩
        cases same
        omega
    · rw [if_neg large]
      constructor
      · rintro ⟨next, accepted⟩
        refine ⟨⟨ordinal, Nat.lt_of_not_le large, rfl⟩, ?_⟩
        intro refused
        rw [if_pos refused] at accepted
        cases accepted
      · rintro ⟨-, accepted⟩
        rw [if_neg accepted]
        exact ⟨_, rfl⟩

/-- What an accepted row leaves. -/
theorem Passed.snoc (injective : Injective ordinalOf) (passing : Passed ordinalOf passed check)
    (accepted : check.next ordinalOf laneCount laneId = .ok next) : Passed ordinalOf (passed ++ [laneId]) next := by
  unfold Check.next at accepted
  cases has : ordinalOf laneId with
  | none =>
    rw [has] at accepted
    cases accepted
  | some ordinal =>
    rw [has] at accepted
    dsimp only at accepted
    split at accepted
    · cases accepted
    split at accepted
    · cases accepted
    cases accepted
    have row := passing.row
    constructor
    · rw [List.length_append, ← row]
      rfl
    · intro lane other hasOther
      dsimp only
      by_cases same : lane = laneId
      · subst same
        rw [has] at hasOther
        cases hasOther
        rw [update_self, passing.counts lane ordinal has, List.count_append, List.count_singleton_self]
      · have apart : other ≠ ordinal := by
          rintro rfl
          exact same (injective lane laneId other hasOther has)
        rw [update_of_ne apart, passing.counts lane other hasOther, List.count_append,
          List.count_singleton, if_neg (by simpa using Ne.symm same), Nat.add_zero]
    · intro lane member other hasOther
      dsimp only
      by_cases same : lane = laneId
      · subst same
        rw [has] at hasOther
        cases hasOther
        rw [update_self, row]
        constructor
        · exact List.getElem?_concat_length
        · intro later holds
          have bound := (List.getElem?_eq_some_iff.mp holds).1
          rw [List.length_append, List.length_singleton] at bound
          omega
      · have apart : other ≠ ordinal := by
          rintro rfl
          exact same (injective lane laneId other hasOther has)
        have before : lane ∈ passed := by
          rcases List.mem_append.mp member with inside | last
          · exact inside
          · exact absurd (List.mem_singleton.mp last) same
        rw [update_of_ne apart]
        -- the new row is of another lane
        have rows : { row : Nat | (passed ++ [laneId])[row]? = some lane } = { row : Nat | passed[row]? = some lane } := by
          ext place
          change (passed ++ [laneId])[place]? = some lane ↔ passed[place]? = some lane
          rcases Nat.lt_trichotomy place passed.length with inside | rfl | outside
          · rw [List.getElem?_append_left inside]
          · rw [List.getElem?_concat_length, List.getElem?_eq_none (Nat.le_refl _)]
            constructor
            · intro equal
              cases equal
              exact absurd rfl same
            · intro absent
              cases absent
          · rw [List.getElem?_eq_none (by rw [List.length_append, List.length_singleton]; omega),
              List.getElem?_eq_none (Nat.le_of_lt outside)]
        rw [rows]
        exact passing.lasts lane before other hasOther
    · intro pair last
      rw [places_snoc, List.getLast?_concat] at last
      cases last
      exact ⟨(passing.counts laneId ordinal has).symm, has⟩

/-- The loop accepts rows whose numbered lanes increase. -/
theorem foldlM_ok_iff (laneCount : Nat) (injective : Injective ordinalOf) (lanes : List UInt32) :
    ((∃ check, lanes.foldlM (Check.next ordinalOf laneCount) {} = .ok check) ↔
      (∀ lane ∈ lanes, ∃ ordinal < laneCount, ordinalOf lane = some ordinal) ∧
        (places lanes).IsChain (Earlier (Before ordinalOf))) ∧
    ∀ check, lanes.foldlM (Check.next ordinalOf laneCount) {} = .ok check → Passed ordinalOf lanes check := by
  induction lanes using List.reverseRecOn with
  | nil =>
    refine ⟨⟨fun _ => ⟨fun _ member => (nomatch member), List.isChain_nil⟩, fun _ => ⟨{}, rfl⟩⟩, ?_⟩
    intro check accepted
    cases accepted
    exact Passed.nil
  | append_singleton passed laneId ih =>
    obtain ⟨accepts, passes⟩ := ih
    have chain : (places (passed ++ [laneId])).IsChain (Earlier (Before ordinalOf)) ↔
        (places passed).IsChain (Earlier (Before ordinalOf)) ∧
          ∀ pair ∈ (places passed).getLast?, Earlier (Before ordinalOf) pair (passed.count laneId, laneId) := by
      rw [places_snoc, List.isChain_append]
      simp
    have turn : ∀ next, (passed ++ [laneId]).foldlM (Check.next ordinalOf laneCount) {} = .ok next ↔
        ∃ check, passed.foldlM (Check.next ordinalOf laneCount) {} = .ok check ∧
          check.next ordinalOf laneCount laneId = .ok next := by
      intro next
      rw [List.foldlM_append]
      cases before : passed.foldlM (Check.next ordinalOf laneCount) {} with
      | error status =>
        constructor
        · intro accepted
          cases accepted
        · rintro ⟨check, absent, -⟩
          cases absent
      | ok check =>
        have last : (Except.ok check >>= fun now => [laneId].foldlM (Check.next ordinalOf laneCount) now) =
            check.next ordinalOf laneCount laneId := by
          change (check.next ordinalOf laneCount laneId >>= fun now => pure now) = _
          exact bind_pure _
        rw [last]
        constructor
        · intro accepted
          exact ⟨check, rfl, accepted⟩
        · rintro ⟨_, same, accepted⟩
          cases same
          exact accepted
    refine ⟨⟨?_, ?_⟩, ?_⟩
    · rintro ⟨next, accepted⟩
      obtain ⟨check, before, now⟩ := (turn next).mp accepted
      obtain ⟨known, sorted⟩ := accepts.mp ⟨check, before⟩
      obtain ⟨knownHere, later⟩ := (next_ok_iff (passes check before)).mp ⟨next, now⟩
      refine ⟨?_, chain.mpr ⟨sorted, later⟩⟩
      intro lane member
      rcases List.mem_append.mp member with inside | last
      · exact known lane inside
      · rw [List.mem_singleton.mp last]
        exact knownHere
    · rintro ⟨known, sorted⟩
      obtain ⟨sorted, later⟩ := chain.mp sorted
      obtain ⟨check, before⟩ := accepts.mpr ⟨fun lane member => known lane (List.mem_append_left _ member), sorted⟩
      obtain ⟨next, now⟩ := (next_ok_iff (passes check before)).mpr
        ⟨known laneId (List.mem_append_right _ (List.mem_singleton_self _)), later⟩
      exact ⟨next, (turn next).mpr ⟨check, before, now⟩⟩
    · intro next accepted
      obtain ⟨check, before, now⟩ := (turn next).mp accepted
      exact (passes check before).snoc injective now

section

variable (inRounds : InRounds (Before ordinalOf) rounds lanes)
include inRounds

/-- The first round has the lanes of all rows. -/
theorem mem_first (lane : UInt32) :
    lane ∈ rounds.headD [] ↔ lane ∈ lanes := by
  have exactly := inRounds.exactly 0 lane
  rw [List.count_pos_iff] at exactly
  rw [← exactly]
  cases rounds <;> rfl

theorem first_round : rounds.headD [] <+: lanes := by
  rw [inRounds.flat]
  cases rounds with
  | nil => exact List.prefix_refl _
  | cons round rounds => exact List.prefix_append _ _

theorem first_nodup : (rounds.headD []).Nodup := by
  cases rounds with
  | nil => exact List.nodup_nil
  | cons round rounds => exact inRounds.nodup (.head _)

end

/-- What the loop over the lanes finds. -/
theorem first_rows (enough : laneCount ≤ lanes.length) :
    (¬ ∃ lane < laneCount, lanes[lane]?.bind ordinalOf ≠ some lane) ↔
      (lanes.take laneCount).map ordinalOf = (List.range laneCount).map some := by
  constructor
  · intro agree
    apply List.ext_getElem?
    intro lane
    by_cases inside : lane < laneCount
    · have found : lanes[lane]?.bind ordinalOf = some lane := by
        by_contra differs
        exact agree ⟨lane, inside, differs⟩
      rw [List.getElem?_eq_getElem (by omega)] at found
      rw [List.getElem?_map, List.getElem?_take_of_lt inside, List.getElem?_eq_getElem (by omega), List.getElem?_map,
        List.getElem?_range inside]
      exact congrArg some found
    · rw [List.getElem?_eq_none (by simp; omega), List.getElem?_eq_none (by simp; omega)]
  · rintro same ⟨lane, inside, differs⟩
    apply differs
    have here := congrArg (fun ordinals => ordinals[lane]?) same
    simp only [List.getElem?_map, List.getElem?_take_of_lt inside, List.getElem?_range inside,
      List.getElem?_eq_getElem (Nat.lt_of_lt_of_le inside enough), Option.map_some, Option.some.injEq] at here
    rw [List.getElem?_eq_getElem (by omega)]
    exact here

theorem nodup_of_ordinals {ordinals : List Nat} (once : ordinals.Nodup) (same : lanes.map ordinalOf = ordinals.map some) :
    lanes.Nodup := by
  apply List.Nodup.of_map ordinalOf
  rw [same]
  exact once.map (Option.some_injective _)

/-- The lanes that the first loop accepts are the first round. -/
theorem first_eq (injective : Injective ordinalOf) (inRounds : InRounds (Before ordinalOf) rounds lanes)
    (known : ∀ lane ∈ lanes, ∃ ordinal < laneCount, ordinalOf lane = some ordinal)
    (first : (lanes.take laneCount).map ordinalOf = (List.range laneCount).map some) :
    rounds.headD [] = lanes.take laneCount := by
  have once : (lanes.take laneCount).Nodup := nodup_of_ordinals List.nodup_range first
  have all : ∀ lane, lane ∈ lanes.take laneCount ↔ lane ∈ lanes := by
    intro lane
    constructor
    · exact List.mem_of_mem_take
    · intro member
      obtain ⟨ordinal, less, has⟩ := known lane member
      have listed : some ordinal ∈ (lanes.take laneCount).map ordinalOf := by
        rw [first]
        exact List.mem_map_of_mem (List.mem_range.mpr less)
      obtain ⟨other, inside, same⟩ := List.mem_map.mp listed
      rw [injective lane other ordinal has same]
      exact inside
  have sameLength : (rounds.headD []).length = (lanes.take laneCount).length := by
    apply List.Perm.length_eq
    apply (List.perm_ext_iff_of_nodup (first_nodup inRounds) once).mpr
    intro lane
    rw [mem_first inRounds, all]
  rw [List.prefix_iff_eq_take.mp (first_round inRounds), List.prefix_iff_eq_take.mp (List.take_prefix laneCount lanes),
    sameLength]

/-- The check accepts exactly the layouts in rounds. -/
theorem validate_ok_iff (injective : Injective ordinalOf) (someLane : 0 < laneCount) (lanes : List UInt32) :
    (∃ check, validateRoundMajor ordinalOf laneCount lanes = .ok check) ↔
      ∃ rounds, RoundMajor ordinalOf laneCount rounds lanes := by
  obtain ⟨accepts, -⟩ := foldlM_ok_iff laneCount injective lanes
  unfold validateRoundMajor
  constructor
  · rintro ⟨check, accepted⟩
    split at accepted
    · cases accepted
    rename_i enough
    split at accepted
    · cases accepted
    rename_i agree
    obtain ⟨known, sorted⟩ := accepts.mp ⟨check, accepted⟩
    obtain ⟨rounds, inRounds⟩ := exists_inRounds (List.isChain_iff_pairwise.mp sorted)
    have first := (first_rows (by omega)).mp agree
    refine ⟨rounds, inRounds, ?_⟩
    rw [first_eq injective inRounds known first]
    exact first
  · rintro ⟨rounds, inRounds, first⟩
    have length : (rounds.headD []).length = laneCount := by
      have := congrArg List.length first
      rwa [List.length_map, List.length_map, List.length_range] at this
    have isTake := List.prefix_iff_eq_take.mp (first_round inRounds)
    rw [length] at isTake
    have enough : laneCount ≤ lanes.length := by
      rw [← length]
      exact (first_round inRounds).length_le
    rw [if_neg (by omega), if_neg ((first_rows enough).mpr (by rw [← isTake]; exact first))]
    apply accepts.mpr
    refine ⟨?_, List.isChain_iff_pairwise.mpr inRounds.sorted⟩
    intro lane member
    have listed := List.mem_map_of_mem (f := ordinalOf) ((mem_first inRounds lane).mpr member)
    rw [first] at listed
    obtain ⟨ordinal, inRange, has⟩ := List.mem_map.mp listed
    exact ⟨ordinal, List.mem_range.mp inRange, has.symm⟩

/-- The ordinals go on to rise to the end of the round, and no further. -/
theorem risingRows_eq {round rest : List UInt32} {lane : UInt32} {current : Nat} (has : ordinalOf lane = some current)
    (ordered : (lane :: round).Pairwise (Before ordinalOf))
    (stops : ∀ next ∈ rest.head?, ∃ most ∈ lane :: round, ∃ ordinal larger, ordinalOf next = some ordinal ∧
      ordinalOf most = some larger ∧ ordinal ≤ larger) :
    risingRows ordinalOf current (round ++ rest) = round.length := by
  induction round generalizing lane current with
  | nil =>
    cases rest with
    | nil => rfl
    | cons next rest =>
      obtain ⟨most, isLane, ordinal, larger, hasNext, hasMost, le⟩ := stops next rfl
      rw [List.mem_singleton.mp isLane, has] at hasMost
      cases hasMost
      rw [List.nil_append, risingRows, hasNext]
      dsimp only
      rw [if_pos le]
      rfl
  | cons second round ih =>
    obtain ⟨before, ordered⟩ := List.pairwise_cons.mp ordered
    obtain ⟨ordinal, rising, hasLane, hasSecond, less⟩ := before second (.head _)
    rw [has] at hasLane
    cases hasLane
    rw [List.cons_append, risingRows, hasSecond]
    dsimp only
    rw [if_neg (Nat.not_le_of_lt less), ih hasSecond ordered, List.length_cons]
    intro next isNext
    obtain ⟨most, member, low, larger, hasNext, hasMost, le⟩ := stops next isNext
    rcases List.mem_cons.mp member with rfl | later
    · -- a lane below the first of the round is below the second
      rw [has] at hasMost
      cases hasMost
      exact ⟨second, .head _, low, rising, hasNext, hasSecond, by omega⟩
    · exact ⟨most, later, low, larger, hasNext, hasMost, le⟩

/-- Where a round starts, the wave count finds its end. -/
theorem waveRowCount_eq {round rest : List UInt32} {place : Nat} (here : lanes.drop place = round ++ rest)
    (some_ : round ≠ []) (ordered : round.Pairwise (Before ordinalOf))
    (known : ∀ lane ∈ round, ∃ ordinal, ordinalOf lane = some ordinal) (nested : ∀ next ∈ rest.head?, next ∈ round) :
    roundMajorWaveRowCount ordinalOf lanes place = round.length := by
  cases round with
  | nil => exact absurd rfl some_
  | cons lane round =>
    obtain ⟨current, has⟩ := known lane (.head _)
    rw [List.cons_append] at here
    rw [roundMajorWaveRowCount, here]
    dsimp only
    rw [has]
    dsimp only
    rw [risingRows_eq has ordered, List.length_cons]
    intro next isNext
    obtain ⟨ordinal, hasNext⟩ := known next (nested next isNext)
    exact ⟨next, nested next isNext, ordinal, ordinal, hasNext, hasNext, Nat.le_refl _⟩

/-- From the start of a round on, the waves are the rounds. -/
theorem walk_rounds {place : Nat} (here : lanes.drop place = rounds.flatten) (inside : place ≤ lanes.length)
    (some_ : ∀ round ∈ rounds, round ≠ []) (ordered : ∀ round ∈ rounds, round.Pairwise (Before ordinalOf))
    (known : ∀ lane ∈ lanes, ∃ ordinal, ordinalOf lane = some ordinal)
    (nested : rounds.IsChain fun round next => next ⊆ round) :
    ∃ starts, Walk (roundMajorWaveRowCount ordinalOf lanes) place starts lanes.length ∧
      starts.map (fun first => (lanes.drop first).take (roundMajorWaveRowCount ordinalOf lanes first)) = rounds := by
  induction rounds generalizing place with
  | nil =>
    rw [List.flatten_nil, List.drop_eq_nil_iff] at here
    have ended : place = lanes.length := by omega
    subst ended
    exact ⟨[], Walk.here _, rfl⟩
  | cons round rounds ih =>
    rw [List.flatten_cons] at here
    have count : roundMajorWaveRowCount ordinalOf lanes place = round.length := by
      apply waveRowCount_eq here (some_ round (.head _)) (ordered round (.head _))
      · intro lane member
        apply known lane
        apply List.mem_of_mem_drop (i := place)
        rw [here]
        exact List.mem_append_left _ member
      · intro next isNext
        cases rounds with
        | nil => cases isNext
        | cons second rounds =>
          apply (List.isChain_cons_cons.mp nested).1
          rw [List.flatten_cons, List.head?_append_of_ne_nil _ (some_ second (by simp))] at isNext
          exact List.mem_of_mem_head? isNext
    have lengths := congrArg List.length here
    rw [List.length_drop, List.length_append] at lengths
    have later : lanes.drop (place + round.length) = rounds.flatten := by
      rw [← List.drop_drop, here, List.drop_left]
    obtain ⟨starts, walk, rest⟩ := ih later (by omega) (fun next member => some_ next (.tail _ member))
      (fun next member => ordered next (.tail _ member)) (List.IsChain.tail nested)
    refine ⟨place :: starts, ?_, ?_⟩
    · apply Walk.step
      · rw [count]
        exact List.length_pos_iff.mpr (some_ round (.head _))
      · rw [count]
        exact walk
    · rw [List.map_cons, rest, count, here, List.take_left]

theorem denseLaneOrdinal_injective (laneCount : Nat) : Injective (denseLaneOrdinal laneCount) := by
  intro lane other ordinal has also
  unfold denseLaneOrdinal at has also
  split at has
  · cases has
  split at also
  · cases also
  cases has
  exact UInt32.toNat_inj.mp (Option.some.inj also).symm

/-- The check of a layout: what it accepts, what it counts, and how the waves cut what it
accepted. -/
theorem validateRoundMajor_exact (injective : Injective ordinalOf) (someLane : 0 < laneCount) (lanes : List UInt32) :
    ((∃ check, validateRoundMajor ordinalOf laneCount lanes = .ok check) ↔
      ∃ rounds, RoundMajor ordinalOf laneCount rounds lanes) ∧
    (∀ check, validateRoundMajor ordinalOf laneCount lanes = .ok check →
      ∀ lane, ∀ ordinal < laneCount, ordinalOf lane = some ordinal →
        check.occurrenceCounts ordinal = lanes.count lane ∧
        IsGreatest { row : Nat | lanes[row]? = some lane } (check.lastRows ordinal)) ∧
    ∀ rounds, RoundMajor ordinalOf laneCount rounds lanes →
      ∃ starts, Walk (roundMajorWaveRowCount ordinalOf lanes) 0 starts lanes.length ∧
        starts.map (fun first => (lanes.drop first).take (roundMajorWaveRowCount ordinalOf lanes first)) = rounds := by
  refine ⟨validate_ok_iff injective someLane lanes, ?_, ?_⟩
  · intro check accepted lane ordinal less has
    obtain ⟨rounds, inRounds, first⟩ := (validate_ok_iff injective someLane lanes).mp ⟨check, accepted⟩
    have passed : Passed ordinalOf lanes check := by
      unfold validateRoundMajor at accepted
      split at accepted
      · cases accepted
      split at accepted
      · cases accepted
      exact (foldlM_ok_iff laneCount injective lanes).2 check accepted
    refine ⟨passed.counts lane ordinal has, passed.lasts lane ?_ ordinal has⟩
    -- the first round has a lane of each ordinal
    have listed : some ordinal ∈ (rounds.headD []).map ordinalOf := by
      rw [first]
      exact List.mem_map_of_mem (List.mem_range.mpr less)
    obtain ⟨other, member, same⟩ := List.mem_map.mp listed
    rw [injective lane other ordinal has same]
    exact (mem_first inRounds other).mp member
  · rintro rounds ⟨inRounds, first⟩
    have whole : lanes.drop 0 = rounds.flatten := inRounds.flat
    apply walk_rounds whole (Nat.zero_le _) inRounds.some inRounds.ordered ?_ inRounds.nested
    intro lane member
    have listed := List.mem_map_of_mem (f := ordinalOf) ((mem_first inRounds lane).mpr member)
    rw [first] at listed
    obtain ⟨ordinal, -, has⟩ := List.mem_map.mp listed
    exact ⟨ordinal, has.symm⟩

theorem validateRoundMajor_exact_two :
    (∃ check, validateRoundMajor (denseLaneOrdinal 2) 2 [0, 1, 0] = .ok check) ↔
      ∃ rounds, RoundMajor (denseLaneOrdinal 2) 2 rounds [0, 1, 0] :=
  (validateRoundMajor_exact (denseLaneOrdinal_injective 2) (by decide) [0, 1, 0]).1

/-- No rows and no lanes are a layout in rounds, which the check refuses. -/
theorem validateRoundMajor_no_lane : Injective (denseLaneOrdinal 0) ∧
    ¬ ((∃ check, validateRoundMajor (denseLaneOrdinal 0) 0 [] = .ok check) ↔
      ∃ rounds, RoundMajor (denseLaneOrdinal 0) 0 rounds []) := by
  refine ⟨denseLaneOrdinal_injective 0, ?_⟩
  intro exact_
  have empty : RoundMajor (denseLaneOrdinal 0) 0 [] [] := by
    refine ⟨⟨rfl, nofun, nofun, ?_⟩, rfl⟩
    intro number item
    simp
  obtain ⟨check, accepted⟩ := exact_.mpr ⟨[], empty⟩
  cases accepted

end Sparkpipe.RowLayout
