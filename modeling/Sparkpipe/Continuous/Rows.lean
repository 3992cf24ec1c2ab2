import Sparkpipe.Lib.Along
import Sparkpipe.Continuous.Lives

/-!
# The rows due at a boundary

What is due at a boundary is one row for each lane that was in use before and goes on, and
the prompt of each offer that has joined since the last release. The fit test counts
every lane in use as one row, so an offer of several rows is counted as one as soon as it
has joined, and the next offer is let in beside it. The rows due stay within
`max_input_rows` as long as the lanes in use are as many as the rows already due whenever
an offer joins, and the sum of the fit test does not wrap.
-/

namespace Sparkpipe.ContinuousBatch

variable {config : Configuration} {state next : State}

section Due

/-- The rows of the offers that have joined since the last boundary. -/
def promptRows : List Event → Nat
  | [] | .boundary :: _ => 0
  | .admitted _ rows _ _ :: earlier | .released _ rows _ _ :: earlier => rows.toNat + promptRows earlier
  | _ :: earlier => promptRows earlier

/-- The slots of the offers that have joined since the last boundary. -/
def joinedSlots : List Event → List Nat
  | [] | .boundary :: _ => []
  | .admitted _ _ _ slot :: earlier | .released _ _ _ slot :: earlier => slot :: joinedSlots earlier
  | _ :: earlier => joinedSlots earlier

/-- A lane that was in use before the offers joined, and has not retired. -/
def goesOn (state : State) (slot : Nat) : Bool :=
  (state.lane slot).inUse && !(state.lane slot).retired && !(joinedSlots state.trace).contains slot

/-- The lanes with a row to decode. -/
def decodeRows (config : Configuration) (state : State) : Nat := tally config.laneCapacity (goesOn state)

/-- The rows that are due. -/
def rowsDue (config : Configuration) (state : State) : Nat := decodeRows config state + promptRows state.trace

/-- The lanes in use, which the fit test counts, are as many as the rows that are due, and the sums it
makes do not wrap. -/
def JoinCounted (config : Configuration) (state : State) (promptRowCount : UInt32) : Prop :=
  rowsDue config state ≤ state.residentLaneCount ∧ state.residentLaneCount + 1 < 2 ^ 32 ∧
    state.residentLaneCount + promptRowCount.toNat < 2 ^ 32

end Due

section Steps

/-- What is due does not change when the lanes that go on and the prompts do not. -/
theorem rowsDue_le (lanes : ∀ slot < config.laneCapacity, goesOn next slot = true → goesOn state slot = true)
    (rows : promptRows next.trace = promptRows state.trace) : rowsDue config next ≤ rowsDue config state := by
  have fewer : decodeRows config next ≤ decodeRows config state := tally_mono lanes
  unfold rowsDue
  omega

/-- An offer that joins a free lane does not change which lanes go on. -/
theorem decodeRows_join {requestId : UInt64} {rows : UInt32} {enqueueBoundary slot : Nat}
    (free : (state.lane slot).phase = .free)
    (lanes : next.controller.lanes =
      (createLane config state.controller requestId rows enqueueBoundary slot).lanes)
    (slots : joinedSlots next.trace = slot :: joinedSlots state.trace) :
    decodeRows config next = decodeRows config state := by
  apply tally_congr
  intro place _
  unfold goesOn State.lane
  rw [lanes, slots]
  by_cases here : place = slot
  · have idle : (state.controller.lanes slot).inUse = false := by
      simpa [Lane.inUse, State.lane] using free
    simp [here, idle]
  · simp [createLane, here]

/-- An offer that joins a free lane adds its rows. -/
theorem rowsDue_join {requestId : UInt64} {rows : UInt32} {enqueueBoundary slot : Nat}
    (free : (state.lane slot).phase = .free)
    (lanes : next.controller.lanes =
      (createLane config state.controller requestId rows enqueueBoundary slot).lanes)
    (slots : joinedSlots next.trace = slot :: joinedSlots state.trace)
    (prompts : promptRows next.trace = rows.toNat + promptRows state.trace) :
    rowsDue config next = rowsDue config state + rows.toNat := by
  have same : decodeRows config next = decodeRows config state := decodeRows_join free lanes slots
  unfold rowsDue
  omega

/-- A join that was counted stays within the rows. -/
theorem JoinCounted.fits {rows : UInt32} (counted : JoinCounted config state rows)
    (fits : joinFits config state.controller rows = .none) : rowsDue config state + rows.toNat ≤ config.maxInputRows := by
  obtain ⟨due, _, small⟩ := counted
  unfold joinFits at fits
  split at fits
  · cases fits
  · split at fits
    · cases fits
    · rename_i within
      rw [show state.controller.residentLaneCount = state.residentLaneCount from rfl, Nat.mod_eq_of_lt small] at within
      omega

theorem JoinCounted.roomy {rows : UInt32} (counted : JoinCounted config state rows) : Roomy state rows := counted.2.1

/-- The rows that are due are within the limit. -/
structure Within (config : Configuration) (state : State) : Prop where
  conserved : Conserved config state
  due : rowsDue config state ≤ config.maxInputRows

theorem joinLane_within (within : Within config state) {request : Request}
    (counted : JoinCounted config state request.promptRowCount)
    (fits : joinFits config state.controller request.promptRowCount = .none) :
    rowsDue config (joinLane config state request) ≤ config.maxInputRows := by
  have free := (allocateSlot_free counted.roomy within.conserved.count fits).2
  have grown : rowsDue config (joinLane config state request) =
      rowsDue config state + request.promptRowCount.toNat := rowsDue_join free rfl rfl rfl
  rw [grown]
  exact counted.fits fits

theorem admitFromQueue_within (within : Within config state) {index : Nat} {entry : QueueEntry}
    (found : state.queue[index]? = some entry) (counted : JoinCounted config state entry.promptRowCount)
    (fits : joinFits config state.controller entry.promptRowCount = .none) :
    Within config (admitFromQueue config state index entry (allocateSlot config state.controller)) ∧
      decodeRows config (admitFromQueue config state index entry (allocateSlot config state.controller)) =
        decodeRows config state := by
  have free := (allocateSlot_free counted.roomy within.conserved.count fits).2
  have grown : rowsDue config (admitFromQueue config state index entry (allocateSlot config state.controller)) =
      rowsDue config state + entry.promptRowCount.toNat := rowsDue_join free rfl rfl rfl
  refine ⟨⟨?_, ?_⟩, ?_⟩
  · exact admitFromQueue_conserved within.conserved counted.roomy found fits
  · rw [grown]
    exact counted.fits fits
  · exact decodeRows_join free rfl rfl

/-- The release loop stays within the rows, and the lanes that go on are those it began with. -/
theorem releaseFrom_within (within : Within config state) {room : Nat}
    (counted : ReleasesMeet config (JoinCounted config) room state) :
    Within config (releaseFrom config room state).2 ∧
      decodeRows config (releaseFrom config room state).2 = decodeRows config state := by
  induction room generalizing state with
  | zero => exact ⟨within, rfl⟩
  | succ room ih =>
    rw [ReleasesMeet] at counted
    rw [releaseFrom]
    split
    · exact ⟨within, rfl⟩
    · rename_i index entry picked
      rw [picked] at counted
      dsimp only at counted ⊢
      split
      · have same : SameOffers state (countRefusal state
            (joinFits config state.controller entry.promptRowCount)) := ⟨rfl, rfl, rfl, rfl⟩
        exact ⟨⟨within.conserved.same same, within.due⟩, rfl⟩
      · rename_i joins
        have fits := Decidable.not_not.mp joins
        obtain ⟨joinCounted, rest⟩ := counted fits
        obtain ⟨admitted, same⟩ := admitFromQueue_within within (policyPick_get picked) joinCounted fits
        obtain ⟨released, kept⟩ := ih admitted rest
        exact ⟨released, kept.trans same⟩

/-- The lanes that are freed had retired. -/
theorem reclaimLane_goesOn (state : State) (slot place : Nat) :
    goesOn (reclaimLane state slot) place = goesOn state place := by
  unfold reclaimLane
  split
  · rfl
  · rename_i due
    simp only [not_or, Bool.not_eq_true', Bool.not_eq_false] at due
    by_cases here : place = slot
    · simp [goesOn, State.lane, freeLane, Lane.inUse, here] at due ⊢
      simp [due.2]
    · simp [goesOn, State.lane, freeLane, here, joinedSlots]

theorem reclaimLane_prompts (state : State) (slot : Nat) :
    promptRows (reclaimLane state slot).trace = promptRows state.trace := by
  unfold reclaimLane
  split
  · rfl
  · rfl

variable (within : Within config state)
include within

theorem reclaim_within :
    Within config (reclaim config state) ∧ decodeRows config (reclaim config state) = decodeRows config state := by
  have same : decodeRows config (reclaim config state) = decodeRows config state ∧
      promptRows (reclaim config state).trace = promptRows state.trace := by
    unfold reclaim
    clear within
    induction List.range config.laneCapacity generalizing state with
    | nil => exact ⟨rfl, rfl⟩
    | cons slot rest ih =>
      obtain ⟨lanes, prompts⟩ := @ih (reclaimLane state slot)
      exact ⟨lanes.trans (tally_congr fun place _ => reclaimLane_goesOn state slot place),
        prompts.trans (reclaimLane_prompts state slot)⟩
  refine ⟨⟨reclaim_conserved within.conserved, ?_⟩, same.1⟩
  unfold rowsDue
  rw [same.1, same.2]
  exact within.due

/-- What a boundary leaves before it is marked. -/
theorem releases_within {releasedCapacity : Nat}
    (counted : Call.meets config (JoinCounted config) state (.boundary releasedCapacity)) :
    Within config (releaseFrom config releasedCapacity (reclaim config (nextBoundary state))).2 ∧
      decodeRows config (releaseFrom config releasedCapacity (reclaim config (nextBoundary state))).2 =
        decodeRows config state := by
  have same : SameOffers state (nextBoundary state) := ⟨rfl, rfl, rfl, rfl⟩
  have begun : Within config (nextBoundary state) := ⟨within.conserved.same same, within.due⟩
  obtain ⟨reclaimed, sameReclaimed⟩ := reclaim_within begun
  obtain ⟨released, sameReleased⟩ := releaseFrom_within reclaimed counted
  exact ⟨released, sameReleased.trans sameReclaimed⟩

/-- Right after a boundary no more than one row is due for each lane in use. -/
theorem Within.noteBoundary : Within config (state.note .boundary) := by
  have conserved := within.conserved.noteBoundary
  refine ⟨conserved, ?_⟩
  have rows : rowsDue config (state.note .boundary) = decodeRows config (state.note .boundary) := rfl
  have fewer : decodeRows config (state.note .boundary) ≤
      tally config.laneCapacity fun slot => ((state.note .boundary).lane slot).inUse := by
    apply tally_mono
    intro slot _ goes
    unfold goesOn at goes
    simp only [Bool.and_eq_true] at goes
    exact goes.1.1
  have count := conserved.count
  have limit := conserved.limit
  have lanes := config.laneCapacity_le
  have active := config.maxActiveLanes_le
  omega

theorem boundary_within {releasedCapacity : Nat}
    (counted : Call.meets config (JoinCounted config) state (.boundary releasedCapacity)) :
    Within config (boundary config state releasedCapacity).2.2 := by
  unfold boundary
  split
  · exact within
  · exact (releases_within within counted).1.noteBoundary

end Steps

section Calls

theorem offer_within (within : Within config state) {request : Request}
    (counted : Call.meets config (JoinCounted config) state (.offer request)) :
    Within config (offer config state request).2.2 := by
  constructor
  · exact offer_conserved within.conserved fun accepted joins => (counted accepted joins).roomy
  · unfold offer
    dsimp only
    split
    · exact within.due
    · rename_i accepted
      have accepted := Decidable.not_not.mp accepted
      generalize marked : state.count _ = begun
      have same : SameOffers state begun := marked ▸ ⟨rfl, rfl, rfl, rfl⟩
      have started : Within config begun := ⟨within.conserved.same same, marked ▸ within.due⟩
      split
      · rename_i joins
        have counted : JoinCounted config begun request.promptRowCount := by
          rw [← marked] at joins ⊢
          exact counted accepted joins
        exact joinLane_within started counted (offerReason_none joins).1
      · unfold waitInQueue
        split
        · exact started.due
        · dsimp only
          split
          · exact started.due
          · exact started.due

theorem withdraw_within (within : Within config state) (requestId : UInt64) :
    Within config (withdraw state requestId).2 := by
  constructor
  · exact withdraw_conserved within.conserved requestId
  · unfold withdraw
    split
    · exact within.due
    · split
      · exact within.due
      · exact within.due

theorem retire_within (within : Within config state) (requestId : UInt64) :
    Within config (retire config state requestId).2 := by
  constructor
  · exact retire_conserved within.conserved requestId
  · unfold retire
    split
    · exact within.due
    · split
      · exact within.due
      · rename_i slot found
        generalize retired : State.mk (retireLane state.controller slot) (.retired requestId :: state.trace) = next
        have lanes : ∀ place < config.laneCapacity, goesOn next place = true → goesOn state place = true := by
          intro place _ goes
          rw [← retired] at goes
          by_cases here : place = slot
          · simp [goesOn, State.lane, retireLane, here] at goes
          · simpa [goesOn, State.lane, retireLane, here, joinedSlots] using goes
        have prompts : promptRows next.trace = promptRows state.trace := by
          rw [← retired]
          rfl
        exact (rowsDue_le lanes prompts).trans within.due

theorem Call.apply_within (state : State) (call : Call) (within : Within config state)
    (counted : call.meets config (JoinCounted config) state) : Within config (call.apply config state) := by
  cases call with
  | offer request => exact offer_within within counted
  | withdraw requestId => exact withdraw_within within requestId
  | retire requestId => exact retire_within within requestId
  | boundary releasedCapacity => exact boundary_within within counted

theorem initial_within (config : Configuration) : Within config {} := by
  refine ⟨initial_conserved config, ?_⟩
  have none : decodeRows config {} = 0 := tally_eq_zero fun _ _ => rfl
  have due : rowsDue config {} = decodeRows config {} := rfl
  omega

/-- The rows that are due at a boundary: one for each lane that was in use before it and has not
retired, and the prompts of the offers that have joined since the boundary before, its own releases
with them. -/
def boundaryRows (config : Configuration) (state : State) (releasedCapacity : Nat) : Nat :=
  decodeRows config state + promptRows (boundary config state releasedCapacity).2.2.trace.tail

/-- In a run in which every join is counted, the rows that are due at a boundary are within the limit. -/
theorem boundaryRows_le {earlier later : List Call} {releasedCapacity : Nat}
    (counted : Along (Call.apply config) (fun state call => call.meets config (JoinCounted config) state)
      (earlier ++ .boundary releasedCapacity :: later) {})
    (reached : (boundary config (run config earlier) releasedCapacity).1 = .ok) :
    boundaryRows config (run config earlier) releasedCapacity ≤ config.maxInputRows := by
  obtain ⟨before, here, _⟩ := counted.append
  have within : Within config (run config earlier) := before.foldl Call.apply_within (initial_within config)
  obtain ⟨released, same⟩ := releases_within within here
  have due := released.due
  unfold rowsDue at due
  rw [same] at due
  unfold boundaryRows
  unfold boundary at reached ⊢
  split at reached
  · cases reached
  · rename_i room
    rw [if_neg room]
    exact due

end Calls

section Runs

instance JoinCounted.decidable (config : Configuration) (state : State) (rows : UInt32) :
    Decidable (JoinCounted config state rows) :=
  inferInstanceAs (Decidable (_ ∧ _ ∧ _))

instance ReleasesMeet.decidable (config : Configuration) (meets : State → UInt32 → Prop)
    [∀ state rows, Decidable (meets state rows)] :
    (room : Nat) → (state : State) → Decidable (ReleasesMeet config meets room state)
  | 0, _ => .isTrue trivial
  | room + 1, state =>
    match picked : policyPick state.queue state.boundaryIndex config.starvationBound with
    | none => .isTrue (by simp [ReleasesMeet, picked])
    | some (index, entry) =>
      have := ReleasesMeet.decidable config meets room
        (admitFromQueue config state index entry (allocateSlot config state.controller))
      decidable_of_iff (joinFits config state.controller entry.promptRowCount = .none →
        meets state entry.promptRowCount ∧ ReleasesMeet config meets room
          (admitFromQueue config state index entry (allocateSlot config state.controller)))
        (by rw [ReleasesMeet, picked])

instance Call.meets.decidable (config : Configuration) (meets : State → UInt32 → Prop)
    [∀ state rows, Decidable (meets state rows)] (state : State) : (call : Call) →
    Decidable (call.meets config meets state)
  | .offer request => inferInstanceAs (Decidable (offerStatus config state.controller request = .ok →
      offerReason config state.controller request = .none → meets state request.promptRowCount))
  | .boundary releasedCapacity => ReleasesMeet.decidable config meets releasedCapacity
      (reclaim config (nextBoundary state))
  | .withdraw _ | .retire _ => .isTrue trivial

/-- Two lanes for eight rows. -/
def twoLanes : Configuration where
  descriptor :=
    { maxInputRows := 8
      maxActiveLanes := 2
      starvationBound := 1
      queueCapacity := 4
      laneCapacity := 2 }
  accepted := by decide

theorem boundaryRows_le_twoLanes :
    (boundary twoLanes (run twoLanes [offerOf 1 5, .boundary 4, offerOf 2 7]) 4).1 = .ok ∧
      boundaryRows twoLanes (run twoLanes [offerOf 1 5, .boundary 4, offerOf 2 7]) 4 ≤ twoLanes.maxInputRows :=
  have reached : (boundary twoLanes (run twoLanes [offerOf 1 5, .boundary 4, offerOf 2 7]) 4).1 = .ok := by decide
  ⟨reached, boundaryRows_le
    (show Along (Call.apply twoLanes) (fun state call => call.meets twoLanes (JoinCounted twoLanes) state)
      ([offerOf 1 5, .boundary 4, offerOf 2 7] ++ [.boundary 4]) {} by decide +kernel) reached⟩

/-- Two offers of five rows join one after the other, and ten rows are due for eight. -/
theorem boundaryRows_exceed : ¬ ∀ (config : Configuration) (calls : List Call) (releasedCapacity : Nat),
    (boundary config (run config calls) releasedCapacity).1 = .ok →
      boundaryRows config (run config calls) releasedCapacity ≤ config.maxInputRows := by
  intro within
  have excess := within twoLanes [offerOf 1 5, offerOf 2 5] 4 (by decide)
  exact absurd excess (by decide)

end Runs

end Sparkpipe.ContinuousBatch
