import Sparkpipe.Lib.Tally
import Sparkpipe.Continuous.Controller

/-!
# The lives of the offers

An offer lives in one place: an entry of the queue or a lane. Its life is what the trace
says of it, and every event of the trace is a step that its life allows: it begins with an
offer, and ends when it is withdrawn from the queue or when its lane is reclaimed after it
has retired. A lane is created in a slot that was free, as long as the count of lanes in
use cannot wrap.
-/

namespace Sparkpipe.ContinuousBatch

variable {config : Configuration} {state : State} {controller : Controller}

section Lives

/-- Where an offer is in its life. -/
inductive Life where
  | absent
  | queued
  | resident
  | retired
  deriving DecidableEq

/-- The offer an event is about. -/
def Event.about : Event → Option UInt64
  | .admitted requestId .. | .queued requestId | .withdrawn requestId | .retired requestId
  | .reclaimed requestId | .released requestId .. => some requestId
  | .boundary => none

/-- The life an event leads to, of those it may happen in. -/
def Event.leads : Event → Life → Option Life
  | .admitted .., .absent => some .resident
  | .queued _, .absent => some .queued
  | .withdrawn _, .queued => some .absent
  | .released .., .queued => some .resident
  | .retired _, .resident | .retired _, .retired => some .retired
  | .reclaimed _, .retired => some .absent
  | _, _ => none

/-- The life of an offer, when every event of the trace is one that its life allows. -/
def lifeOf (requestId : UInt64) : List Event → Option Life
  | [] => some .absent
  | event :: earlier =>
    if event.about = some requestId then (lifeOf requestId earlier).bind event.leads else lifeOf requestId earlier

/-- The slot an event puts an offer into. -/
def Event.slot : Event → Option Nat
  | .admitted _ _ _ slot | .released _ _ _ slot => some slot
  | _ => none

/-- An offer waits in the queue. -/
def Waits (controller : Controller) (requestId : UInt64) : Prop :=
  ∃ entry ∈ controller.queue, entry.requestId = requestId

/-- A lane is in use by an offer. -/
def Holds (controller : Controller) (slot : Nat) (requestId : UInt64) : Prop :=
  (controller.lanes slot).phase ≠ .free ∧ (controller.lanes slot).requestId = requestId

/-- Where the controller has an offer. -/
def Placed (config : Configuration) (controller : Controller) (requestId : UInt64) : Life → Prop
  | .absent => ¬ Waits controller requestId ∧ ∀ slot < config.laneCapacity, ¬ Holds controller slot requestId
  | .queued => Waits controller requestId ∧ ∀ slot < config.laneCapacity, ¬ Holds controller slot requestId
  | .resident => ¬ Waits controller requestId ∧ ∃ slot < config.laneCapacity,
      Holds controller slot requestId ∧ (controller.lanes slot).retired = false
  | .retired => ¬ Waits controller requestId ∧ ∃ slot < config.laneCapacity,
      Holds controller slot requestId ∧ (controller.lanes slot).retired = true

/-- Every offer is in one place, which its life says; the lanes in use are counted and within their
limit; and each lane that was created was there. -/
structure Conserved (config : Configuration) (state : State) : Prop where
  queueApart : (state.queue.map (·.requestId)).Nodup
  lanesApart : ∀ slot < config.laneCapacity, ∀ other < config.laneCapacity, ∀ requestId,
    Holds state.controller slot requestId → Holds state.controller other requestId → slot = other
  lives : ∀ requestId, ∃ life, lifeOf requestId state.trace = some life ∧
    Placed config state.controller requestId life
  count : state.residentLaneCount = tally config.laneCapacity fun slot => (state.lane slot).inUse
  limit : state.residentLaneCount ≤ min config.laneCapacity config.maxActiveLanes
  slots : ∀ event ∈ state.trace, ∀ slot, event.slot = some slot → slot < config.laneCapacity

end Lives

section Limits

theorem Configuration.laneCapacity_le (config : Configuration) : config.laneCapacity ≤ config.maxActiveLanes := by
  have accepted := config.accepted
  unfold initializeStatus at accepted
  split at accepted
  · cases accepted
  · split at accepted
    · cases accepted
    · rename_i valid
      simp only [not_or, UInt32.not_lt] at valid
      exact UInt32.le_iff_toNat_le.mp valid.2.2.2.2.1

theorem Configuration.maxActiveLanes_le (config : Configuration) : config.maxActiveLanes ≤ config.maxInputRows := by
  have accepted := config.accepted
  unfold initializeStatus at accepted
  split at accepted
  · cases accepted
  · split at accepted
    · cases accepted
    · rename_i valid
      simp only [not_or, UInt32.not_lt] at valid
      exact UInt32.le_iff_toNat_le.mp valid.2.2.2.2.2

theorem Configuration.laneCapacity_lt (config : Configuration) : config.laneCapacity < 2 ^ 32 :=
  config.descriptor.laneCapacity.toNat_lt

theorem laneLimit_eq (config : Configuration) : laneLimit config = config.laneCapacity := by
  have bound := config.laneCapacity_le
  unfold laneLimit
  split <;> omega

/-- The count of the lanes in use cannot wrap in the fit test. -/
def Countable (config : Configuration) : Prop := config.laneCapacity ≠ noSlot

theorem Countable.lt (countable : Countable config) : config.laneCapacity + 1 < 2 ^ 32 := by
  have bound := config.laneCapacity_lt
  unfold Countable noSlot at countable
  omega

/-- A lane is free where a join fits, as long as the count of the lanes does not wrap. -/
theorem allocateSlot_free {promptRowCount : UInt32} (room : controller.residentLaneCount + 1 < 2 ^ 32)
    (count : controller.residentLaneCount = tally config.laneCapacity fun slot => (controller.lanes slot).inUse)
    (fits : joinFits config controller promptRowCount = .none) :
    allocateSlot config controller < config.laneCapacity ∧
      (controller.lanes (allocateSlot config controller)).phase = .free := by
  have room : tally config.laneCapacity (fun slot => (controller.lanes slot).inUse) < config.laneCapacity := by
    unfold joinFits at fits
    rw [laneLimit_eq] at fits
    split at fits
    · cases fits
    · omega
  unfold allocateSlot
  cases found : (List.range config.laneCapacity).find? fun slot => (controller.lanes slot).phase = .free with
  | some slot =>
    have member := List.mem_range.mp (List.mem_of_find?_eq_some found)
    have free := List.find?_some found
    exact ⟨member, by simpa using free⟩
  | none =>
    have taken : ∀ slot < config.laneCapacity, (controller.lanes slot).inUse = true := by
      intro slot below
      simpa [Lane.inUse] using List.find?_eq_none.mp found slot (List.mem_range.mpr below)
    rw [tally_eq_count taken] at room
    omega

end Limits

section Steps

variable {requestId : UInt64} {life : Life}

/-- An offer is placed alike by controllers that have the same of it. -/
theorem Placed.congr {next : Controller} (placed : Placed config controller requestId life)
    (waits : Waits next requestId ↔ Waits controller requestId)
    (holds : ∀ slot < config.laneCapacity, (Holds next slot requestId ↔ Holds controller slot requestId) ∧
      (Holds controller slot requestId → (next.lanes slot).retired = (controller.lanes slot).retired)) :
    Placed config next requestId life := by
  have unheld : (∀ slot < config.laneCapacity, ¬ Holds controller slot requestId) →
      ∀ slot < config.laneCapacity, ¬ Holds next slot requestId :=
    fun none slot below held => none slot below ((holds slot below).1.mp held)
  have held : ∀ retired, (∃ slot < config.laneCapacity, Holds controller slot requestId ∧
      (controller.lanes slot).retired = retired) → ∃ slot < config.laneCapacity, Holds next slot requestId ∧
        (next.lanes slot).retired = retired := by
    rintro retired ⟨slot, below, held, same⟩
    exact ⟨slot, below, (holds slot below).1.mpr held, ((holds slot below).2 held).trans same⟩
  cases life with
  | absent => exact ⟨fun waiting => placed.1 (waits.mp waiting), unheld placed.2⟩
  | queued => exact ⟨waits.mpr placed.1, unheld placed.2⟩
  | resident => exact ⟨fun waiting => placed.1 (waits.mp waiting), held false placed.2⟩
  | retired => exact ⟨fun waiting => placed.1 (waits.mp waiting), held true placed.2⟩

/-- An offer is in one place only. -/
theorem Placed.unique {other : Life}
    (apart : ∀ slot < config.laneCapacity, ∀ place < config.laneCapacity,
      Holds controller slot requestId → Holds controller place requestId → slot = place)
    (first : Placed config controller requestId life) (second : Placed config controller requestId other) :
    life = other := by
  have twoLanes : (∃ slot < config.laneCapacity, Holds controller slot requestId ∧
      (controller.lanes slot).retired = false) → (∃ slot < config.laneCapacity, Holds controller slot requestId ∧
        (controller.lanes slot).retired = true) → False := by
    rintro ⟨slot, below, held, running⟩ ⟨place, placeBelow, placeHeld, retired⟩
    have same := apart slot below place placeBelow held placeHeld
    rw [same, retired] at running
    cases running
  cases life <;> cases other <;> simp only [Placed] at first second <;> grind

theorem lifeOf_other {event : Event} {trace : List Event} (other : event.about ≠ some requestId) :
    lifeOf requestId (event :: trace) = lifeOf requestId trace := if_neg other

theorem lifeOf_own {event : Event} {trace : List Event} (own : event.about = some requestId) :
    lifeOf requestId (event :: trace) = (lifeOf requestId trace).bind event.leads := if_pos own

/-- Only the statistics and the boundary have changed. -/
structure SameOffers (state next : State) : Prop where
  queue : next.queue = state.queue
  lanes : next.controller.lanes = state.controller.lanes
  count : next.residentLaneCount = state.residentLaneCount
  trace : next.trace = state.trace

theorem Conserved.same {next : State} (conserved : Conserved config state) (same : SameOffers state next) :
    Conserved config next := by
  have placed : ∀ requestId life, Placed config state.controller requestId life →
      Placed config next.controller requestId life := by
    intro requestId life placed
    refine placed.congr ?_ fun slot _ => ?_
    · unfold Waits
      exact iff_of_eq (congrArg (fun queue => ∃ entry ∈ queue, entry.requestId = requestId) same.queue)
    · unfold Holds
      rw [same.lanes]
      exact ⟨Iff.rfl, fun _ => rfl⟩
  constructor
  · rw [same.queue]
    exact conserved.queueApart
  · unfold Holds
    rw [same.lanes]
    exact conserved.lanesApart
  · intro requestId
    obtain ⟨life, lived, here⟩ := conserved.lives requestId
    exact ⟨life, same.trace ▸ lived, placed requestId life here⟩
  · unfold State.lane
    rw [same.lanes, same.count]
    exact conserved.count
  · rw [same.count]
    exact conserved.limit
  · rw [same.trace]
    exact conserved.slots

/-- The end of a boundary is about no offer. -/
theorem Conserved.noteBoundary (conserved : Conserved config state) : Conserved config (state.note .boundary) := by
  refine ⟨conserved.queueApart, conserved.lanesApart, fun requestId => ?_, conserved.count, conserved.limit, ?_⟩
  · obtain ⟨life, lived, placed⟩ := conserved.lives requestId
    have silent : lifeOf requestId (state.note .boundary).trace = lifeOf requestId state.trace := by
      simp [State.note, lifeOf, Event.about]
    exact ⟨life, silent.trans lived, placed⟩
  · intro event member slot inside
    rcases List.mem_cons.mp member with rfl | earlier
    · exact absurd inside (Option.some_ne_none slot).symm
    · exact conserved.slots event earlier slot inside

/-- An event about one offer: its life goes on as the event says, and the others are left alone. -/
theorem Conserved.step {next : State} {event : Event} {before after : Life} (conserved : Conserved config state)
    (trace : next.trace = event :: state.trace) (about : event.about = some requestId)
    (here : Placed config state.controller requestId before) (leads : event.leads before = some after)
    (there : Placed config next.controller requestId after)
    (others : ∀ other ≠ requestId, (Waits next.controller other ↔ Waits state.controller other) ∧
      ∀ slot < config.laneCapacity, (Holds next.controller slot other ↔ Holds state.controller slot other) ∧
        (Holds state.controller slot other → (next.lane slot).retired = (state.lane slot).retired))
    (queueApart : (next.queue.map (·.requestId)).Nodup)
    (lanesApart : ∀ slot < config.laneCapacity, ∀ other < config.laneCapacity,
      Holds next.controller slot requestId → Holds next.controller other requestId → slot = other)
    (count : next.residentLaneCount = tally config.laneCapacity fun slot => (next.lane slot).inUse)
    (inside : ∀ slot, event.slot = some slot → slot < config.laneCapacity) : Conserved config next := by
  refine ⟨queueApart, ?_, fun given => ?_, count, ?_, ?_⟩
  · intro slot below other otherBelow given first second
    by_cases own : given = requestId
    · subst own
      exact lanesApart slot below other otherBelow first second
    · have holds := (others given own).2
      exact conserved.lanesApart slot below other otherBelow given ((holds slot below).1.mp first)
        ((holds other otherBelow).1.mp second)
  · obtain ⟨life, lived, placed⟩ := conserved.lives given
    rw [trace]
    by_cases own : given = requestId
    · subst own
      have same : life = before := placed.unique (fun slot below place placeBelow =>
        conserved.lanesApart slot below place placeBelow given) here
      refine ⟨after, ?_, there⟩
      rw [lifeOf_own about, lived, same]
      exact leads
    · refine ⟨life, ?_, placed.congr (others given own).1 (others given own).2⟩
      rw [lifeOf_other fun same => own (Option.some.inj (same.symm.trans about))]
      exact lived
  · have bound := config.laneCapacity_le
    have used := tally_le config.laneCapacity fun slot => (next.lane slot).inUse
    omega
  · rw [trace]
    intro given member slot within
    rcases List.mem_cons.mp member with rfl | earlier
    · exact inside slot within
    · exact conserved.slots given earlier slot within

end Steps

section Joining

variable {requestId : UInt64} {promptRowCount : UInt32} {enqueueBoundary slot : Nat}

/-- A lane that is created in a free slot is held by its offer, and the others are as they were. -/
theorem createLane_holds (free : (controller.lanes slot).phase = .free) (place : Nat) (other : UInt64) :
    Holds (createLane config controller requestId promptRowCount enqueueBoundary slot) place other ↔
      place = slot ∧ other = requestId ∨ Holds controller place other := by
  unfold Holds createLane
  by_cases here : place = slot
  · subst here
    simp [free, eq_comm]
  · simp [here]

theorem createLane_retired (free : (controller.lanes slot).phase = .free) {place : Nat} {other : UInt64}
    (held : Holds controller place other) :
    ((createLane config controller requestId promptRowCount enqueueBoundary slot).lanes place).retired =
      (controller.lanes place).retired := by
  have apart : place ≠ slot := by
    rintro rfl
    exact held.1 free
  unfold createLane
  simp [apart]

theorem createLane_count (room : controller.residentLaneCount + 1 < 2 ^ 32) (below : slot < config.laneCapacity)
    (free : (controller.lanes slot).phase = .free)
    (count : controller.residentLaneCount =
      tally config.laneCapacity fun place => (controller.lanes place).inUse) :
    (createLane config controller requestId promptRowCount enqueueBoundary slot).residentLaneCount =
      tally config.laneCapacity fun place =>
        ((createLane config controller requestId promptRowCount enqueueBoundary slot).lanes place).inUse := by
  have gained : tally config.laneCapacity (fun place =>
      ((createLane config controller requestId promptRowCount enqueueBoundary slot).lanes place).inUse) =
        tally config.laneCapacity (fun place => (controller.lanes place).inUse) + 1 := by
    apply tally_gain below
    · simp [Lane.inUse, free]
    · simp [Lane.inUse, createLane]
    · intro place _ apart
      simp [createLane, apart]
  rw [gained, ← count]
  exact Nat.mod_eq_of_lt room

/-- An offer that is in no lane joins one that is free. -/
theorem Conserved.join {next : State} {event : Event} {before : Life} (conserved : Conserved config state)
    (room : state.residentLaneCount + 1 < 2 ^ 32) (below : slot < config.laneCapacity)
    (free : (state.controller.lanes slot).phase = .free)
    (lanes : next.controller.lanes =
      (createLane config state.controller requestId promptRowCount enqueueBoundary slot).lanes)
    (residents : next.residentLaneCount =
      (createLane config state.controller requestId promptRowCount enqueueBoundary slot).residentLaneCount)
    (trace : next.trace = event :: state.trace) (about : event.about = some requestId)
    (inside : event.slot = some slot) (here : Placed config state.controller requestId before)
    (leads : event.leads before = some .resident)
    (unheld : ∀ place < config.laneCapacity, ¬ Holds state.controller place requestId)
    (waits : ¬ Waits next.controller requestId)
    (others : ∀ other ≠ requestId, Waits next.controller other ↔ Waits state.controller other)
    (queueApart : (next.queue.map (·.requestId)).Nodup) : Conserved config next := by
  have holds : ∀ place other, Holds next.controller place other ↔
      place = slot ∧ other = requestId ∨ Holds state.controller place other := by
    intro place other
    rw [← createLane_holds free]
    unfold Holds
    rw [lanes]
  have count : (createLane config state.controller requestId promptRowCount enqueueBoundary slot).residentLaneCount =
      _ := createLane_count room below free conserved.count
  refine conserved.step trace about here leads ⟨waits, slot, below, ?_, ?_⟩ (fun other apart => ⟨others other apart,
    fun place _ => ⟨?_, fun held => ?_⟩⟩) queueApart ?_ ?_ fun given within => ?_
  · exact (holds slot requestId).mpr (.inl ⟨rfl, rfl⟩)
  · rw [lanes]
    simp [createLane]
  · rw [holds]
    simp [apart]
  · unfold State.lane
    rw [lanes]
    exact createLane_retired free held
  · intro first firstBelow second secondBelow firstHeld secondHeld
    have firstHere := ((holds first requestId).mp firstHeld).resolve_right (unheld first firstBelow)
    have secondHere := ((holds second requestId).mp secondHeld).resolve_right (unheld second secondBelow)
    rw [firstHere.1, secondHere.1]
  · unfold State.lane
    rw [residents, count, lanes]
  · rw [inside] at within
    exact Option.some.inj within ▸ below

theorem joinLane_conserved (conserved : Conserved config state) {request : Request}
    (room : state.residentLaneCount + 1 < 2 ^ 32)
    (fits : joinFits config state.controller request.promptRowCount = .none)
    (absent : Placed config state.controller request.requestId .absent) :
    Conserved config (joinLane config state request) := by
  obtain ⟨below, free⟩ := allocateSlot_free room conserved.count fits
  exact conserved.join room below free rfl rfl rfl rfl rfl absent rfl absent.2 absent.1
    (fun _ _ => Iff.rfl) conserved.queueApart

/-- The pick of the policy is an entry of the queue. -/
theorem pickFrom_get {eligible : QueueEntry → Bool} {better : QueueEntry → QueueEntry → Bool} {index : Nat}
    {queue done : List QueueEntry} {best pick : Option (Nat × QueueEntry)}
    (start : ∀ place entry, best = some (place, entry) → (done ++ queue)[place]? = some entry)
    (length : done.length = index) (picked : pickFrom eligible better index queue best = pick) :
    ∀ place entry, pick = some (place, entry) → (done ++ queue)[place]? = some entry := by
  induction queue generalizing index done best with
  | nil =>
    rw [pickFrom] at picked
    exact picked ▸ start
  | cons head rest ih =>
    have shifted : done ++ head :: rest = (done ++ [head]) ++ rest := by simp
    have longer : (done ++ [head]).length = index + 1 := by simp [length]
    have recorded : ∀ place entry, recordPick index head = some (place, entry) →
        (done ++ head :: rest)[place]? = some entry := by
      intro place entry same
      unfold recordPick at same
      split at same
      · obtain ⟨rfl, rfl⟩ := Prod.mk.inj (Option.some.inj same)
        simp [← length]
      · exact absurd same (Option.some_ne_none _).symm
    rw [shifted] at start recorded ⊢
    rw [pickFrom] at picked
    refine ih ?_ longer picked
    split
    · unfold pickStep
      split
      · exact recorded
      · split
        · exact recorded
        · exact start
    · exact start

theorem policyPick_get {queue : List QueueEntry} {boundary bound index : Nat} {entry : QueueEntry}
    (picked : policyPick queue boundary bound = some (index, entry)) : queue[index]? = some entry := by
  have none : ∀ place entry, (none : Option (Nat × QueueEntry)) = some (place, entry) →
      ([] ++ queue)[place]? = some entry := fun _ _ absurdity => absurd absurdity (Option.some_ne_none _).symm
  unfold policyPick at picked
  dsimp only at picked
  split at picked
  · rename_i oldest found
    split at found
    · rw [← found] at picked
      exact pickFrom_get none rfl rfl _ _ picked
    · exact absurd found (Option.some_ne_none _).symm
  · exact pickFrom_get none rfl rfl _ _ picked

theorem Conserved.waits_unheld (conserved : Conserved config state) (waits : Waits state.controller requestId) :
    Placed config state.controller requestId .queued := by
  obtain ⟨life, _, placed⟩ := conserved.lives requestId
  cases life with
  | absent => exact absurd waits placed.1
  | queued => exact placed
  | resident => exact absurd waits placed.1
  | retired => exact absurd waits placed.1

/-- The ids that remain when one entry is taken out of the queue. -/
theorem eraseIdx_ids {queue : List QueueEntry} {index : Nat} {entry : QueueEntry}
    (apart : (queue.map (·.requestId)).Nodup) (found : queue[index]? = some entry) :
    ((queue.eraseIdx index).map (·.requestId)).Nodup ∧ ∀ other,
      (∃ left ∈ queue.eraseIdx index, left.requestId = other) ↔
        other ≠ entry.requestId ∧ ∃ held ∈ queue, held.requestId = other := by
  induction queue generalizing index with
  | nil => simp at found
  | cons head rest ih =>
    simp only [List.map_cons, List.nodup_cons] at apart
    cases index with
    | zero =>
      obtain rfl : head = entry := by simpa using found
      refine ⟨apart.2, fun other => ?_⟩
      simp only [List.eraseIdx_cons_zero, List.mem_cons]
      grind
    | succ index =>
      have found : rest[index]? = some entry := by simpa using found
      have member := List.mem_of_getElem? found
      obtain ⟨left, kept⟩ := ih apart.2 found
      simp only [List.eraseIdx_cons_succ, List.map_cons, List.nodup_cons, List.mem_cons]
      refine ⟨⟨fun inside => ?_, left⟩, fun other => ?_⟩
      · obtain ⟨held, heldIn, same⟩ := List.mem_map.mp inside
        exact apart.1 (List.mem_map.mpr ⟨held, List.mem_of_mem_eraseIdx heldIn, same⟩)
      · have different : head.requestId ≠ entry.requestId :=
          fun same => apart.1 (List.mem_map.mpr ⟨entry, member, same.symm⟩)
        simp only [or_and_right, exists_or, exists_eq_left, kept other]
        constructor
        · rintro (rfl | ⟨apart, held⟩)
          · exact ⟨different, .inl rfl⟩
          · exact ⟨apart, .inr held⟩
        · rintro ⟨apart, here | held⟩
          · exact .inl here
          · exact .inr ⟨apart, held⟩

theorem admitFromQueue_conserved (conserved : Conserved config state) {index : Nat} {entry : QueueEntry}
    (room : state.residentLaneCount + 1 < 2 ^ 32) (found : state.queue[index]? = some entry)
    (fits : joinFits config state.controller entry.promptRowCount = .none) :
    Conserved config (admitFromQueue config state index entry (allocateSlot config state.controller)) := by
  obtain ⟨below, free⟩ := allocateSlot_free room conserved.count fits
  have waiting := conserved.waits_unheld ⟨entry, List.mem_of_getElem? found, rfl⟩
  obtain ⟨apart, kept⟩ := eraseIdx_ids conserved.queueApart found
  refine conserved.join room below free rfl rfl rfl rfl rfl waiting rfl waiting.2 ?_ ?_ apart
  · exact fun waits => ((kept entry.requestId).mp waits).1 rfl
  · exact fun other different => (kept other).trans (and_iff_right different)

end Joining

section Conditions

/-- A condition on every offer that the release loop lets join, in the state in which it joins. -/
def ReleasesMeet (config : Configuration) (meets : State → UInt32 → Prop) : Nat → State → Prop
  | 0, _ => True
  | room + 1, state =>
    match policyPick state.queue state.boundaryIndex config.starvationBound with
    | none => True
    | some (index, entry) => joinFits config state.controller entry.promptRowCount = .none →
        meets state entry.promptRowCount ∧ ReleasesMeet config meets room
          (admitFromQueue config state index entry (allocateSlot config state.controller))

/-- A condition on every offer that a call lets join, in the state in which it joins. -/
def Call.meets (config : Configuration) (meets : State → UInt32 → Prop) (state : State) : Call → Prop
  | .offer request => offerStatus config state.controller request = .ok →
      offerReason config state.controller request = .none → meets state request.promptRowCount
  | .boundary releasedCapacity => ReleasesMeet config meets releasedCapacity (reclaim config (nextBoundary state))
  | _ => True

/-- The count of the lanes in use has room for one more. -/
def Roomy (state : State) (_ : UInt32) : Prop := state.residentLaneCount + 1 < 2 ^ 32

end Conditions

section Calls

variable {requestId : UInt64}

theorem enqueue_conserved (conserved : Conserved config state) {request : Request} (oversize : Bool)
    (absent : Placed config state.controller request.requestId .absent) :
    Conserved config (enqueue state request oversize) := by
  have waits : ∀ other, Waits (enqueue state request oversize).controller other ↔
      other = request.requestId ∨ Waits state.controller other := by
    intro other
    simp only [Waits, enqueue, State.editQueue, State.note, List.mem_append, List.mem_singleton, or_and_right,
      exists_or, exists_eq_left]
    rw [or_comm, eq_comm]
  refine conserved.step rfl rfl absent rfl ⟨?_, absent.2⟩ (fun other apart => ⟨?_,
    fun _ _ => ⟨Iff.rfl, fun _ => rfl⟩⟩) ?_ ?_ conserved.count fun slot none => ?_
  · exact (waits request.requestId).mpr (.inl rfl)
  · exact (waits other).trans (or_iff_right apart)
  · have new : request.requestId ∉ state.queue.map (·.requestId) := by
      intro member
      obtain ⟨entry, held, same⟩ := List.mem_map.mp member
      exact absent.1 ⟨entry, held, same⟩
    change (List.map QueueEntry.requestId (state.queue ++ [_])).Nodup
    rw [List.map_append, List.nodup_append]
    refine ⟨conserved.queueApart, List.nodup_singleton _, ?_⟩
    intro given member other single same
    rw [List.map_singleton, List.mem_singleton] at single
    rw [same, single] at member
    exact new member
  · exact fun slot below other otherBelow held => absurd held (absent.2 slot below)
  · exact absurd none (Option.some_ne_none slot).symm

/-- Taking the first entry of an offer out of the queue is taking out the entry at its index. -/
theorem eraseP_ids {queue : List QueueEntry} (apart : (queue.map (·.requestId)).Nodup)
    (waits : ∃ entry ∈ queue, entry.requestId = requestId) :
    ((queue.eraseP fun entry => entry.requestId = requestId).map (·.requestId)).Nodup ∧ ∀ other,
      (∃ left ∈ queue.eraseP fun entry => entry.requestId = requestId, left.requestId = other) ↔
        other ≠ requestId ∧ ∃ held ∈ queue, held.requestId = other := by
  have some_ : ∃ entry ∈ queue, decide (entry.requestId = requestId) = true := by simpa using waits
  rw [List.eraseP_eq_eraseIdx]
  obtain ⟨index, found⟩ : ∃ index, queue.findIdx? (fun entry => entry.requestId = requestId) = some index := by
    rw [← Option.isSome_iff_exists, List.findIdx?_isSome, List.any_eq_true]
    exact some_
  obtain ⟨below, passes, _⟩ := List.findIdx?_eq_some_iff_getElem.mp found
  have get : queue[index]? = some queue[index] := List.getElem?_eq_getElem below
  have own : queue[index].requestId = requestId := by simpa using passes
  rw [found, ← own]
  exact eraseIdx_ids apart get

theorem withdraw_conserved (conserved : Conserved config state) (requestId : UInt64) :
    Conserved config (withdraw state requestId).2 := by
  unfold withdraw
  split
  · exact conserved
  · split
    · rename_i waiting
      have waits : ∃ entry ∈ state.queue, entry.requestId = requestId := by simpa using waiting
      have placed := conserved.waits_unheld waits
      obtain ⟨apart, kept⟩ := eraseP_ids conserved.queueApart waits
      refine conserved.step rfl rfl placed rfl ⟨?_, placed.2⟩ (fun other different => ⟨?_,
        fun _ _ => ⟨Iff.rfl, fun _ => rfl⟩⟩) apart ?_ conserved.count fun slot none => ?_
      · exact fun still => ((kept requestId).mp still).1 rfl
      · exact (kept other).trans (and_iff_right different)
      · exact fun slot below other otherBelow held => absurd held (placed.2 slot below)
      · exact absurd none (Option.some_ne_none slot).symm
    · exact conserved

theorem residentLane_spec {slot : Nat} (found : residentLane config controller requestId = some slot) :
    slot < config.laneCapacity ∧ Holds controller slot requestId := by
  have member := List.mem_range.mp (List.mem_of_find?_eq_some found)
  have passes := List.find?_some found
  refine ⟨member, ?_⟩
  simpa [Holds] using passes

theorem retireLane_holds (slot place : Nat) (other : UInt64) :
    Holds (retireLane controller slot) place other ↔ Holds controller place other := by
  unfold Holds retireLane
  by_cases here : place = slot
  · simp [here]
  · simp [here]

theorem retire_conserved (conserved : Conserved config state) (requestId : UInt64) :
    Conserved config (retire config state requestId).2 := by
  unfold retire
  split
  · exact conserved
  · split
    · exact conserved
    · rename_i slot found
      obtain ⟨below, held⟩ := residentLane_spec found
      obtain ⟨life, _, placed⟩ := conserved.lives requestId
      have leads : Event.leads (.retired requestId) life = some .retired := by
        cases life with
        | absent => exact absurd held (placed.2 slot below)
        | queued => exact absurd held (placed.2 slot below)
        | resident => rfl
        | retired => rfl
      have waits : ¬ Waits state.controller requestId :=
        fun waiting => (conserved.waits_unheld waiting).2 slot below held
      refine conserved.step rfl rfl placed leads ⟨waits, slot, below, (retireLane_holds ..).mpr held, ?_⟩
        (fun other apart => ⟨Iff.rfl, fun place _ => ⟨retireLane_holds .., fun otherHeld => ?_⟩⟩)
        conserved.queueApart ?_ ?_ fun place none => ?_
      · simp [retireLane]
      · have different : place ≠ slot := by
          rintro rfl
          exact apart (otherHeld.2.symm.trans held.2)
        simp [State.lane, retireLane, different]
      · intro first firstBelow second secondBelow firstHeld secondHeld
        exact conserved.lanesApart first firstBelow second secondBelow requestId
          ((retireLane_holds ..).mp firstHeld) ((retireLane_holds ..).mp secondHeld)
      · refine conserved.count.trans (tally_congr fun place _ => ?_)
        by_cases here : place = slot
        · simp [State.lane, retireLane, Lane.inUse, here]
        · simp [State.lane, retireLane, here]
      · exact absurd none (Option.some_ne_none place).symm

theorem decrement_succ (count : Nat) : decrement (count + 1) = count := by
  simp [decrement]

theorem freeLane_holds (slot place : Nat) (other : UInt64) :
    Holds (freeLane controller slot) place other ↔ place ≠ slot ∧ Holds controller place other := by
  unfold Holds freeLane
  by_cases here : place = slot
  · simp [here]
  · simp [here]

theorem freeLane_count {slot : Nat} (below : slot < config.laneCapacity)
    (used : (controller.lanes slot).phase ≠ .free)
    (count : controller.residentLaneCount =
      tally config.laneCapacity fun place => (controller.lanes place).inUse) :
    (freeLane controller slot).residentLaneCount =
      tally config.laneCapacity fun place => ((freeLane controller slot).lanes place).inUse := by
  have lost : tally config.laneCapacity (fun place => (controller.lanes place).inUse) =
      tally config.laneCapacity (fun place => ((freeLane controller slot).lanes place).inUse) + 1 := by
    apply tally_lose below
    · simp [Lane.inUse, used]
    · simp [Lane.inUse, freeLane]
    · intro place _ apart
      simp [freeLane, apart]
  have residents : (freeLane controller slot).residentLaneCount = decrement controller.residentLaneCount := rfl
  rw [residents, count, lost]
  exact decrement_succ _

/-- A retired lane is freed, and its offer is done with. -/
theorem reclaimLane_conserved (conserved : Conserved config state) {slot : Nat} (below : slot < config.laneCapacity) :
    Conserved config (reclaimLane state slot) := by
  unfold reclaimLane
  split
  · exact conserved
  · rename_i due
    simp only [not_or, Bool.not_eq_true', Bool.not_eq_false] at due
    have held : Holds state.controller slot (state.lane slot).requestId := ⟨due.1, rfl⟩
    have waits : ¬ Waits state.controller (state.lane slot).requestId :=
      fun waiting => (conserved.waits_unheld waiting).2 slot below held
    have placed : Placed config state.controller (state.lane slot).requestId .retired :=
      ⟨waits, slot, below, held, due.2⟩
    have unheld : ∀ place < config.laneCapacity,
        ¬ Holds (freeLane state.controller slot) place (state.lane slot).requestId := by
      intro place placeBelow still
      obtain ⟨apart, was⟩ := (freeLane_holds ..).mp still
      exact apart (conserved.lanesApart place placeBelow slot below _ was held)
    have away : ∀ other ≠ (state.lane slot).requestId, ∀ place, Holds state.controller place other → place ≠ slot := by
      rintro other apart place otherHeld rfl
      exact apart otherHeld.2.symm
    have count := freeLane_count below due.1 conserved.count
    refine conserved.step rfl rfl placed rfl ⟨waits, unheld⟩
      (fun other apart => ⟨Iff.rfl, fun place _ => ⟨?_, fun otherHeld => ?_⟩⟩) conserved.queueApart ?_ ?_
      fun place none => ?_
    · rw [freeLane_holds]
      exact and_iff_right_of_imp (away other apart place)
    · simp [State.lane, freeLane, away other apart place otherHeld]
    · exact fun first firstBelow second secondBelow firstHeld => absurd firstHeld (unheld first firstBelow)
    · exact count
    · exact absurd none (Option.some_ne_none place).symm

/-- An offer that is not known is in no place. -/
theorem absent_of_unknown (unknown : requestIdKnown config controller requestId = false) :
    Placed config controller requestId .absent := by
  simp only [requestIdKnown, Bool.or_eq_false_iff, List.any_eq_false, decide_eq_true_eq, List.mem_range,
    Bool.and_eq_true, not_and] at unknown
  constructor
  · rintro ⟨entry, member, same⟩
    exact unknown.1 entry member same
  · exact fun slot below held => unknown.2 slot below held.1 held.2

theorem offerStatus_ok {request : Request} (ok : offerStatus config controller request = .ok) :
    request.requestId ≠ 0 ∧ request.promptRowCount ≠ 0 ∧
      requestIdKnown config controller request.requestId = false := by
  unfold offerStatus at ok
  split at ok
  · cases ok
  · split at ok
    · cases ok
    · split at ok
      · cases ok
      · rename_i valid unknown
        simp only [not_or] at valid
        exact ⟨valid.1, valid.2.1, by simpa using unknown⟩

theorem offerReason_none {request : Request} (joins : offerReason config controller request = .none) :
    joinFits config controller request.promptRowCount = .none ∧
      request.promptRowCount.toNat ≤ config.maxInputRows ∧ ∀ entry ∈ controller.queue, entry.oversize = true := by
  unfold offerReason at joins
  dsimp only at joins
  split at joins
  · cases joins
  · split at joins
    · cases joins
    · rename_i fits nobody
      refine ⟨joins, Nat.le_of_not_lt fits, fun entry member => ?_⟩
      simp only [not_and, List.any_eq_true, not_exists] at nobody
      simpa using nobody joins entry member

section

variable (conserved : Conserved config state)
include conserved

theorem offer_conserved {request : Request}
    (room : Call.meets config Roomy state (.offer request)) :
    Conserved config (offer config state request).2.2 := by
  unfold offer
  dsimp only
  split
  · exact conserved
  · rename_i accepted
    have accepted := Decidable.not_not.mp accepted
    obtain ⟨_, _, unknown⟩ := offerStatus_ok accepted
    have absent := absent_of_unknown unknown
    generalize counted : state.count _ = begun
    have same : SameOffers state begun := counted ▸ ⟨rfl, rfl, rfl, rfl⟩
    have started := conserved.same same
    have absent : Placed config begun.controller request.requestId .absent := counted ▸ absent
    split
    · rename_i joins
      have room : begun.residentLaneCount + 1 < 2 ^ 32 := by
        rw [← counted] at joins ⊢
        exact room accepted joins
      exact joinLane_conserved started room (offerReason_none joins).1 absent
    · unfold waitInQueue
      split
      · exact started.same ⟨rfl, rfl, rfl, rfl⟩
      · have queued := fun oversize => enqueue_conserved started oversize absent
        dsimp only
        split
        · exact (queued _).same ⟨rfl, rfl, rfl, rfl⟩
        · exact queued _

theorem reclaim_conserved : Conserved config (reclaim config state) := by
  unfold reclaim
  have inside : ∀ slot ∈ List.range config.laneCapacity, slot < config.laneCapacity := fun slot => List.mem_range.mp
  generalize List.range config.laneCapacity = slots at inside
  induction slots generalizing state with
  | nil => exact conserved
  | cons slot rest ih =>
    apply ih (reclaimLane_conserved conserved (inside slot (.head _)))
    exact fun place member => inside place (.tail _ member)

theorem releaseFrom_conserved {room : Nat}
    (roomy : ReleasesMeet config Roomy room state) : Conserved config (releaseFrom config room state).2 := by
  induction room generalizing state with
  | zero => exact conserved
  | succ room ih =>
    rw [releaseFrom]
    rw [ReleasesMeet] at roomy
    split
    · exact conserved
    · rename_i index entry picked
      rw [picked] at roomy
      dsimp only at roomy ⊢
      split
      · exact conserved.same ⟨rfl, rfl, rfl, rfl⟩
      · rename_i fits
        have fits := Decidable.not_not.mp fits
        exact ih (admitFromQueue_conserved conserved (roomy fits).1 (policyPick_get picked) fits) (roomy fits).2

theorem boundary_conserved {releasedCapacity : Nat}
    (roomy : Call.meets config Roomy state (.boundary releasedCapacity)) :
    Conserved config (boundary config state releasedCapacity).2.2 := by
  unfold boundary
  split
  · exact conserved
  · have reached : Conserved config (nextBoundary state) := conserved.same ⟨rfl, rfl, rfl, rfl⟩
    exact (releaseFrom_conserved (reclaim_conserved reached) roomy).noteBoundary

theorem Call.apply_conserved {call : Call}
    (roomy : call.meets config Roomy state) : Conserved config (call.apply config state) := by
  cases call with
  | offer request => exact offer_conserved conserved roomy
  | withdraw requestId => exact withdraw_conserved conserved requestId
  | retire requestId => exact retire_conserved conserved requestId
  | boundary releasedCapacity => exact boundary_conserved conserved roomy

end

/-- Lanes that can be counted leave the count room. -/
theorem Countable.room (countable : Countable config) (conserved : Conserved config state) :
    state.residentLaneCount + 1 < 2 ^ 32 := by
  have small := countable.lt
  have bound := conserved.limit
  omega

theorem Countable.releases (countable : Countable config) (conserved : Conserved config state) (room : Nat) :
    ReleasesMeet config Roomy room state := by
  induction room generalizing state with
  | zero => trivial
  | succ room ih =>
    rw [ReleasesMeet]
    split
    · trivial
    · rename_i index entry picked
      intro fits
      have roomy := countable.room conserved
      exact ⟨roomy, ih (admitFromQueue_conserved conserved roomy (policyPick_get picked) fits)⟩

theorem Countable.call (countable : Countable config) (conserved : Conserved config state) (call : Call) :
    call.meets config Roomy state := by
  cases call with
  | offer request => exact fun _ _ => countable.room conserved
  | withdraw requestId => trivial
  | retire requestId => trivial
  | boundary releasedCapacity =>
    have reached : Conserved config (nextBoundary state) := conserved.same ⟨rfl, rfl, rfl, rfl⟩
    exact countable.releases (reclaim_conserved reached) releasedCapacity

theorem initial_conserved (config : Configuration) : Conserved config {} := by
  have unused : tally config.laneCapacity (fun slot => (({} : State).lane slot).inUse) = 0 :=
    tally_eq_zero fun slot _ => rfl
  refine ⟨List.nodup_nil, ?_, fun requestId => ⟨.absent, rfl, ?_, ?_⟩, unused.symm, Nat.zero_le _, ?_⟩
  · exact fun slot _ other _ requestId held => absurd rfl held.1
  · rintro ⟨entry, member, _⟩
    exact absurd member List.not_mem_nil
  · exact fun slot _ held => held.1 rfl
  · exact fun event member => absurd member List.not_mem_nil

/-- Every run conserves the offers, when the lanes can be counted. -/
theorem run_conserved (countable : Countable config) (calls : List Call) : Conserved config (run config calls) := by
  unfold run
  have start := initial_conserved config
  generalize ({} : State) = state at start
  induction calls generalizing state with
  | nil => exact start
  | cons call rest ih => exact ih _ (Call.apply_conserved start (countable.call start call))

end Calls

section Reports

/-- The offer an event releases from the queue. -/
def Event.released? : Event → Option UInt64
  | .released requestId .. => some requestId
  | _ => none

/-- The offers that were released, the latest first. -/
def releasedIds (trace : List Event) : List UInt64 := trace.filterMap Event.released?

theorem reclaim_reported (config : Configuration) (state : State) :
    releasedIds (reclaim config state).trace = releasedIds state.trace := by
  unfold reclaim
  generalize List.range config.laneCapacity = slots
  induction slots generalizing state with
  | nil => rfl
  | cons slot rest ih =>
    rw [List.foldl_cons, ih]
    unfold reclaimLane
    split
    · rfl
    · rfl

theorem releaseFrom_reported (config : Configuration) (room : Nat) (state : State) :
    releasedIds (releaseFrom config room state).2.trace =
      (releaseFrom config room state).1.reverse ++ releasedIds state.trace := by
  induction room generalizing state with
  | zero => rfl
  | succ room ih =>
    rw [releaseFrom]
    split
    · rfl
    · rename_i index entry picked
      dsimp only
      split
      · rfl
      · simp only [ih, List.reverse_cons, List.append_assoc]
        rfl

/-- A boundary reports the offers it releases, each once and in their order. -/
theorem boundary_reported (config : Configuration) (state : State) (releasedCapacity : Nat) :
    releasedIds (boundary config state releasedCapacity).2.2.trace =
      (boundary config state releasedCapacity).2.1.reverse ++ releasedIds state.trace := by
  unfold boundary
  split
  · rfl
  · have released := releaseFrom_reported config releasedCapacity (reclaim config (nextBoundary state))
    rw [reclaim_reported] at released
    exact released

end Reports

section Overflow

/-- An offer of one row. -/
def oneRow (number : Nat) : Request :=
  { requestId := UInt64.ofNat (number + 1), promptRowCount := 1, outputTokenBudget := 1 }

/-- One-row offers, one after the other. -/
def oneRowOffers (count : Nat) : List Call := (List.range count).map fun number => .offer (oneRow number)

/-- The first lanes are taken by one-row offers, and the others are free. -/
structure Filled (config : Configuration) (count : Nat) (state : State) : Prop where
  queue : state.queue = []
  residents : state.residentLaneCount = count
  taken : ∀ slot < count, (state.lane slot).phase = .resident ∧ (state.lane slot).requestId = (oneRow slot).requestId
  free : ∀ slot < config.laneCapacity, count ≤ slot → (state.lane slot).phase = .free

theorem oneRow_inj {first second : Nat} (firstSmall : first < 2 ^ 32) (secondSmall : second < 2 ^ 32)
    (same : (oneRow first).requestId = (oneRow second).requestId) : first = second := by
  have same := congrArg UInt64.toNat same
  simp only [oneRow, UInt64.toNat_ofNat'] at same
  omega

section

variable {count : Nat} (filled : Filled config count state)
include filled

theorem Filled.unknown (bound : count ≤ noSlot) :
    requestIdKnown config state.controller (oneRow count).requestId = false := by
  have small : noSlot < 2 ^ 32 := by decide
  simp only [requestIdKnown, Bool.or_eq_false_iff, List.any_eq_false, decide_eq_true_eq, List.mem_range,
    Bool.and_eq_true, not_and]
  constructor
  · intro entry member
    rw [show state.controller.queue = [] from filled.queue] at member
    exact absurd member List.not_mem_nil
  · intro slot below used same
    by_cases earlier : slot < count
    · have taken := (filled.taken slot earlier).2
      have equal := oneRow_inj (by omega) (by omega) (taken.symm.trans same)
      omega
    · exact used (filled.free slot below (Nat.le_of_not_lt earlier))

theorem Filled.accepted (bound : count ≤ noSlot) :
    offerStatus config state.controller (oneRow count) = .ok := by
  have small : noSlot < 2 ^ 32 := by decide
  have named : (oneRow count).requestId ≠ 0 := by
    intro zero
    have zero := congrArg UInt64.toNat zero
    simp only [oneRow, UInt64.toNat_ofNat', UInt64.toNat_zero] at zero
    omega
  unfold offerStatus
  rw [if_neg (by simp [oneRow]), if_neg, if_neg]
  · simp [filled.unknown bound]
  · simp only [not_or]
    exact ⟨named, by simp [oneRow], by simp [oneRow]⟩

/-- A one-row offer joins even when every lane is taken, for the count of the lanes wraps. -/
theorem Filled.joins (widest : config.laneCapacity = noSlot) :
    offerReason config state.controller (oneRow count) = .none := by
  have active := config.laneCapacity_le
  have rows := config.maxActiveLanes_le
  have wrapped : ∀ total : Nat, total % 2 ^ 32 ≤ noSlot := fun total =>
    Nat.le_pred_of_lt (Nat.mod_lt total (by decide))
  have one : (oneRow count).promptRowCount.toNat ≤ config.maxInputRows := by
    have lanes : 1 ≤ noSlot := by decide
    have single : (oneRow count).promptRowCount.toNat = 1 := rfl
    omega
  have fits : joinFits config state.controller (oneRow count).promptRowCount = .none := by
    have lanes := wrapped (state.controller.residentLaneCount + 1)
    have joined := wrapped (state.controller.residentLaneCount + (oneRow count).promptRowCount.toNat)
    unfold joinFits
    rw [laneLimit_eq, if_neg (by omega), if_neg (by omega)]
  unfold offerReason
  rw [fits, if_neg (by omega), if_neg]
  simp [show state.controller.queue = [] from filled.queue]

theorem Filled.offer (widest : config.laneCapacity = noSlot) (bound : count ≤ noSlot) :
    ∃ begun, SameOffers state begun ∧
      (offer config state (oneRow count)).2.2 = joinLane config begun (oneRow count) := by
  refine ⟨state.count fun statistics => { statistics with admissionRequests := statistics.admissionRequests + 1 },
    ⟨rfl, rfl, rfl, rfl⟩, ?_⟩
  have counted : Filled config count (state.count fun statistics =>
      { statistics with admissionRequests := statistics.admissionRequests + 1 }) :=
    ⟨filled.queue, filled.residents, filled.taken, filled.free⟩
  unfold ContinuousBatch.offer
  dsimp only
  rw [if_neg (by simp [filled.accepted bound]), if_pos (counted.joins widest)]

theorem Filled.same {next : State} (same : SameOffers state next) : Filled config count next := by
  have lanes : ∀ slot, next.lane slot = state.lane slot := fun slot => congrFun same.lanes slot
  refine ⟨same.queue.trans filled.queue, same.count.trans filled.residents, ?_, ?_⟩
  · intro slot below
    rw [lanes]
    exact filled.taken slot below
  · intro slot below later
    rw [lanes]
    exact filled.free slot below later

theorem Filled.slot (bound : count ≤ config.laneCapacity) :
    allocateSlot config state.controller = if count < config.laneCapacity then count else noSlot := by
  have taken : ∀ slot < count, decide ((state.controller.lanes slot).phase = .free) = false := by
    intro slot below
    simp [show (state.controller.lanes slot).phase = .resident from (filled.taken slot below).1]
  unfold allocateSlot
  split
  · rename_i below
    have first : (List.range config.laneCapacity).find? (fun slot => (state.controller.lanes slot).phase = .free) =
        some count := by
      rw [List.find?_range_eq_some]
      refine ⟨?_, List.mem_range.mpr below, fun slot earlier => by simp [taken slot earlier]⟩
      exact decide_eq_true (filled.free count below (Nat.le_refl count))
    rw [first]
    rfl
  · have every : (List.range config.laneCapacity).find? (fun slot => (state.controller.lanes slot).phase = .free) =
        none := by
      rw [List.find?_range_eq_none]
      exact fun slot below => by simp [taken slot (by omega)]
    rw [every]
    rfl

theorem Filled.next (widest : config.laneCapacity = noSlot) (below : count < noSlot) :
    Filled config (count + 1) (ContinuousBatch.offer config state (oneRow count)).2.2 := by
  obtain ⟨begun, same, joined⟩ := filled.offer widest (Nat.le_of_lt below)
  have begunFilled := filled.same same
  have small : noSlot < 2 ^ 32 := by decide
  have slot := begunFilled.slot (by omega)
  rw [if_pos (by omega)] at slot
  rw [joined]
  unfold joinLane
  rw [slot]
  refine ⟨begunFilled.queue, ?_, fun place earlier => ?_, fun place placeBelow later => ?_⟩
  · change (begun.residentLaneCount + 1) % 2 ^ 32 = _
    rw [begunFilled.residents]
    omega
  · by_cases here : place = count
    · subst here
      simp [State.lane, createLane]
    · have taken := begunFilled.taken place (by omega)
      unfold State.lane at taken ⊢
      simpa [createLane, here] using taken
  · have free := begunFilled.free place placeBelow (by omega)
    unfold State.lane at free ⊢
    simpa [createLane, show place ≠ count by omega] using free

end

theorem run_oneRowOffers_succ (config : Configuration) (count : Nat) : run config (oneRowOffers (count + 1)) =
    (ContinuousBatch.offer config (run config (oneRowOffers count)) (oneRow count)).2.2 := by
  unfold run oneRowOffers
  rw [List.range_succ, List.map_append, List.foldl_append]
  rfl

theorem oneRowOffers_filled (widest : config.laneCapacity = noSlot) {count : Nat} (bound : count ≤ noSlot) :
    Filled config count (run config (oneRowOffers count)) := by
  induction count with
  | zero => exact ⟨rfl, rfl, fun slot below => absurd below (Nat.not_lt_zero slot), fun _ _ _ => rfl⟩
  | succ count ih =>
    rw [run_oneRowOffers_succ]
    exact (ih (Nat.le_of_succ_le bound)).next widest bound

/-- With as many lanes as a 32-bit count can hold, one offer more than there are lanes joins a lane
that is not there. -/
theorem oneRowOffers_overflow (widest : config.laneCapacity = noSlot) {count : Nat} (full : count = noSlot) :
    ¬ Conserved config (run config (oneRowOffers (count + 1))) := by
  intro conserved
  have filled := oneRowOffers_filled widest (Nat.le_of_eq full)
  obtain ⟨begun, same, joined⟩ := filled.offer widest (Nat.le_of_eq full)
  have slot := (filled.same same).slot (Nat.le_of_eq (full.trans widest.symm))
  rw [if_neg (by omega)] at slot
  rw [run_oneRowOffers_succ, joined] at conserved
  have inside := conserved.slots _ (.head _) _ rfl
  rw [slot, widest] at inside
  exact Nat.lt_irrefl _ inside

end Overflow

/-- The offers are conserved over every run, and each boundary reports those it releases, exactly when
there are fewer lanes than a 32-bit count can hold. -/
theorem offers_conserved_iff (config : Configuration) :
    (∀ calls, Conserved config (run config calls) ∧ ∀ releasedCapacity,
      releasedIds (boundary config (run config calls) releasedCapacity).2.2.trace =
        (boundary config (run config calls) releasedCapacity).2.1.reverse ++ releasedIds (run config calls).trace) ↔
      config.laneCapacity ≠ 2 ^ 32 - 1 := by
  constructor
  · intro conserved widest
    exact oneRowOffers_overflow widest rfl (conserved _).1
  · exact fun countable calls => ⟨run_conserved countable calls, boundary_reported config _⟩

/-- A controller with as many lanes and rows as can be configured. -/
def widestConfiguration : Configuration where
  descriptor :=
    { maxInputRows := 0xffffffff
      maxActiveLanes := 0xffffffff
      starvationBound := 0
      queueCapacity := 1
      laneCapacity := 0xffffffff }
  accepted := by decide

theorem widest_offers_not_conserved :
    ¬ Conserved widestConfiguration (run widestConfiguration (oneRowOffers (2 ^ 32))) := by
  have total : noSlot + 1 = 2 ^ 32 := by decide
  have lanes : widestConfiguration.laneCapacity = noSlot := by decide
  rw [← total]
  exact oneRowOffers_overflow lanes rfl

end Sparkpipe.ContinuousBatch
