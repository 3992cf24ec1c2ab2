import Sparkpipe.Continuous.Lives

/-!
# No overtaking of an aged offer

The queue is in the order of the boundaries its entries were made at, so the policy picks
the first of the aged entries. While an aged offer waits, nothing joins that was enqueued
at a later boundary: an offer that arrives queues behind it, and a boundary that cannot
release the oldest releases nothing. An offer is aged or not at each event by which another
joins, so the boundary that it comes of age at is one of those that are covered.
-/

namespace Sparkpipe.ContinuousBatch

variable {config : Configuration} {state : State}

section Picking

variable {eligible : QueueEntry → Bool} {better : QueueEntry → QueueEntry → Bool}

/-- Past `2 ^ 31` entries nothing can be picked. -/
theorem pickFrom_far (queue : List QueueEntry) {index : Nat} (far : 2 ^ 31 ≤ index) :
    pickFrom eligible better index queue none = none := by
  induction queue generalizing index with
  | nil => rfl
  | cons head rest ih =>
    have unrecorded : pickStep better none index head = none := if_neg (Nat.not_lt_of_le far)
    rw [pickFrom, unrecorded, ite_self]
    exact ih (Nat.le_succ_of_le far)

/-- An entry that nothing after it is better than stays the pick. -/
theorem pickFrom_stays {place : Nat} {held : QueueEntry} (queue : List QueueEntry) (index : Nat)
    (best : ∀ entry ∈ queue, better entry held = false) :
    pickFrom eligible better index queue (some (place, held)) = some (place, held) := by
  induction queue generalizing index with
  | nil => rfl
  | cons head rest ih =>
    have kept : pickStep better (some (place, held)) index head = some (place, held) :=
      if_neg (by simp [best head List.mem_cons_self])
    rw [pickFrom, kept, ite_self]
    exact ih (index + 1) fun entry member => best entry (.tail _ member)

/-- The order of the queue. -/
def Sorted (queue : List QueueEntry) : Prop :=
  queue.Pairwise fun earlier later => earlier.enqueueBoundary ≤ later.enqueueBoundary

/-- In an ordered queue the first entry that may be picked is the pick, if its index can be told. -/
theorem pickFrom_oldest (eligible : QueueEntry → Bool) {queue : List QueueEntry} (sorted : Sorted queue) (index : Nat) :
    match pickFrom eligible (fun entry held => decide (entry.enqueueBoundary < held.enqueueBoundary)) index queue none
      with
    | some (_, pick) => ∀ entry ∈ queue, eligible entry = true → pick.enqueueBoundary ≤ entry.enqueueBoundary
    | none => ∀ place entry, queue[place]? = some entry → eligible entry = true → 2 ^ 31 ≤ index + place := by
  induction queue generalizing index with
  | nil => simp [pickFrom]
  | cons head rest ih =>
    obtain ⟨first, sorted⟩ := List.pairwise_cons.mp sorted
    rw [pickFrom]
    by_cases able : eligible head = true
    · rw [if_pos able]
      by_cases near : index < 2 ^ 31
      · have recorded : pickStep (fun entry held => decide (entry.enqueueBoundary < held.enqueueBoundary)) none index
            head = some (index, head) := if_pos near
        rw [recorded, pickFrom_stays rest (index + 1) fun entry member => by simpa using first entry member]
        intro entry member _
        rcases List.mem_cons.mp member with rfl | later
        · exact Nat.le_refl _
        · exact first entry later
      · have far := Nat.le_of_not_lt near
        have unrecorded : pickStep (fun entry held => decide (entry.enqueueBoundary < held.enqueueBoundary)) none
            index head = none := if_neg near
        rw [unrecorded, pickFrom_far rest (Nat.le_succ_of_le far)]
        intro place _ _ _
        exact Nat.le_add_right_of_le far
    · rw [if_neg able]
      have tail := ih sorted (index + 1)
      split at tail
      · intro entry member may
        rcases List.mem_cons.mp member with rfl | later
        · exact absurd may able
        · exact tail entry later may
      · intro place entry found may
        cases place with
        | zero =>
          obtain rfl : head = entry := by simpa using found
          exact absurd may able
        | succ place =>
          have behind := tail place entry (by simpa using found) may
          omega

theorem pickFrom_none_of_far {queue : List QueueEntry} (index : Nat)
    (far : ∀ place entry, queue[place]? = some entry → eligible entry = true → 2 ^ 31 ≤ index + place) :
    pickFrom eligible better index queue none = none := by
  induction queue generalizing index with
  | nil => rfl
  | cons head rest ih =>
    have later : ∀ place entry, rest[place]? = some entry → eligible entry = true → 2 ^ 31 ≤ index + 1 + place := by
      intro place entry found may
      have behind := far (place + 1) entry (by simpa using found) may
      omega
    rw [pickFrom]
    by_cases able : eligible head = true
    · have here := far 0 head rfl able
      have unrecorded : pickStep better none index head = none := if_neg (Nat.not_lt_of_le here)
      rw [if_pos able, unrecorded]
      exact ih (index + 1) later
    · rw [if_neg able]
      exact ih (index + 1) later

/-- While an aged entry waits, nothing enqueued later is picked. -/
theorem policyPick_oldest {queue : List QueueEntry} {boundary bound index : Nat} {entry waiting : QueueEntry}
    (sorted : Sorted queue) (bounded : bound ≠ 0) (member : waiting ∈ queue) (old : aged bound boundary waiting = true)
    (picked : policyPick queue boundary bound = some (index, entry)) :
    entry.enqueueBoundary ≤ waiting.enqueueBoundary := by
  unfold policyPick at picked
  rw [if_pos bounded] at picked
  have oldest := pickFrom_oldest (aged bound boundary) sorted 0
  split at oldest
  · rename_i place pick found
    rw [found] at picked
    obtain ⟨rfl, rfl⟩ := Prod.mk.inj (Option.some.inj picked)
    exact oldest waiting member old
  · rename_i none
    rw [none] at picked
    -- Every entry that is not too large precedes the aged ones or is one of them.
    have far : ∀ place entry, queue[place]? = some entry → (!entry.oversize) = true → 2 ^ 31 ≤ 0 + place := by
      intro place entry found able
      obtain ⟨last, lastFound⟩ := List.getElem?_of_mem member
      have lastFar := oldest last waiting lastFound old
      by_cases before : place < last
      · have ordered : entry.enqueueBoundary ≤ waiting.enqueueBoundary := by
          obtain ⟨placeIn, rfl⟩ := List.getElem?_eq_some_iff.mp found
          obtain ⟨lastIn, rfl⟩ := List.getElem?_eq_some_iff.mp lastFound
          exact List.pairwise_iff_getElem.mp sorted place last placeIn lastIn before
        refine oldest place entry found ?_
        simp only [aged, Bool.and_eq_true, decide_eq_true_eq] at old ⊢
        exact ⟨able, by omega⟩
      · omega
    rw [pickFrom_none_of_far 0 far] at picked
    exact absurd picked (Option.some_ne_none _).symm

end Picking

section Ordering

/-- The queue is in order, no entry is from a boundary to come, and the trace tells the boundaries but
for those that are under way. -/
structure Ordered (underway : Nat) (state : State) : Prop where
  sorted : Sorted state.queue
  past : ∀ entry ∈ state.queue, entry.enqueueBoundary ≤ state.boundaryIndex
  counted : state.trace.count .boundary + underway = state.boundaryIndex

section

variable {underway : Nat} (ordered : Ordered underway state)
include ordered

/-- An event that is no boundary, while the queue stays or shrinks. -/
theorem Ordered.note {next : State} {event : Event} (sub : next.queue.Sublist state.queue)
    (boundary : next.boundaryIndex = state.boundaryIndex) (trace : next.trace = event :: state.trace)
    (within : event ≠ .boundary) : Ordered underway next := by
  refine ⟨ordered.sorted.sublist sub, fun entry member => ?_, ?_⟩
  · rw [boundary]
    exact ordered.past entry (sub.subset member)
  · rw [trace, List.count_cons_of_ne within, boundary]
    exact ordered.counted

theorem enqueue_ordered (request : Request) (oversize : Bool) :
    Ordered underway (enqueue state request oversize) := by
  refine ⟨?_, ?_, (congrArg (· + underway) (List.count_cons_of_ne (by simp))).trans ordered.counted⟩
  · refine List.pairwise_append.mpr ⟨ordered.sorted, List.pairwise_singleton _ _, fun earlier member later single => ?_⟩
    rw [List.mem_singleton.mp single]
    exact ordered.past earlier member
  · intro entry member
    rcases List.mem_append.mp member with earlier | single
    · exact ordered.past entry earlier
    · rw [List.mem_singleton.mp single]
      exact Nat.le_refl _

theorem offer_ordered (request : Request) : Ordered underway (offer config state request).2.2 := by
  unfold offer
  dsimp only
  split
  · exact ordered
  · generalize counted : state.count _ = begun
    have started : Ordered underway begun := counted ▸ ⟨ordered.sorted, ordered.past, ordered.counted⟩
    split
    · exact started.note (List.Sublist.refl _) rfl rfl (by simp)
    · have queued := enqueue_ordered started request
      unfold waitInQueue
      split
      · exact ⟨started.sorted, started.past, started.counted⟩
      · dsimp only
        split
        · exact ⟨(queued _).sorted, (queued _).past, (queued _).counted⟩
        · exact queued _

theorem withdraw_ordered (requestId : UInt64) : Ordered underway (withdraw state requestId).2 := by
  unfold withdraw
  split
  · exact ordered
  · split
    · exact ordered.note List.eraseP_sublist rfl rfl (by simp)
    · exact ordered

theorem retire_ordered (requestId : UInt64) :
    Ordered underway (retire config state requestId).2 := by
  unfold retire
  split
  · exact ordered
  · split
    · exact ordered
    · exact ordered.note (List.Sublist.refl _) rfl rfl (by simp)

theorem reclaim_ordered : Ordered underway (reclaim config state) := by
  unfold reclaim
  generalize List.range config.laneCapacity = slots
  induction slots generalizing state with
  | nil => exact ordered
  | cons slot rest ih =>
    apply ih
    unfold reclaimLane
    split
    · exact ordered
    · exact ordered.note (List.Sublist.refl _) rfl rfl (by simp)

theorem admitFromQueue_ordered (index : Nat) (entry : QueueEntry) (slot : Nat) :
    Ordered underway (admitFromQueue config state index entry slot) :=
  ordered.note (List.eraseIdx_sublist _ _) rfl rfl (by simp)

theorem releaseFrom_ordered (room : Nat) : Ordered underway (releaseFrom config room state).2 := by
  induction room generalizing state with
  | zero => exact ordered
  | succ room ih =>
    rw [releaseFrom]
    split
    · exact ordered
    · dsimp only
      split
      · exact ⟨ordered.sorted, ordered.past, ordered.counted⟩
      · exact ih (admitFromQueue_ordered ordered ..)

end

section

variable (ordered : Ordered 0 state)
include ordered

theorem nextBoundary_ordered : Ordered 1 (nextBoundary state) :=
  ⟨ordered.sorted, fun entry member => Nat.le_succ_of_le (ordered.past entry member), congrArg Nat.succ ordered.counted⟩

theorem boundary_ordered (releasedCapacity : Nat) :
    Ordered 0 (boundary config state releasedCapacity).2.2 := by
  unfold boundary
  split
  · exact ordered
  · have reclaimed : Ordered 1 (reclaim config (nextBoundary state)) := reclaim_ordered (nextBoundary_ordered ordered)
    have released : Ordered 1 (releaseFrom config releasedCapacity _).2 := releaseFrom_ordered reclaimed releasedCapacity
    exact ⟨released.sorted, released.past, List.count_cons_self.trans released.counted⟩

theorem Call.apply_ordered (call : Call) : Ordered 0 (call.apply config state) := by
  cases call with
  | offer request => exact offer_ordered ordered request
  | withdraw requestId => exact withdraw_ordered ordered requestId
  | retire requestId => exact retire_ordered ordered requestId
  | boundary releasedCapacity => exact boundary_ordered ordered releasedCapacity

end

theorem run_ordered (config : Configuration) (calls : List Call) : Ordered 0 (run config calls) := by
  unfold run
  have start : Ordered 0 ({} : State) := ⟨List.Pairwise.nil, fun entry member => absurd member List.not_mem_nil, rfl⟩
  generalize ({} : State) = state at start
  induction calls generalizing state with
  | nil => exact start
  | cons call rest ih => exact ih _ (call.apply_ordered start)

end Ordering

section Watching

/-- The boundary at which an offer that joins was made. -/
def Event.joins : Event → Option Nat
  | .admitted _ _ enqueueBoundary _ | .released _ _ enqueueBoundary _ => some enqueueBoundary
  | _ => none

/-- An offer leaves the queue: it is released or withdrawn. -/
def Event.takes (requestId : UInt64) (event : Event) : Prop :=
  event = .withdrawn requestId ∨ event.released? = some requestId

/-- `boundary_index` at an event, after those before it: the event of a boundary follows its releases. -/
def Event.boundaryIndex (before : List Event) : Event → Nat
  | .released _ _ _ _ => before.count .boundary + 1
  | _ => before.count .boundary

/-- An offer has waited for the starvation bound at an event, after those before it. -/
def Event.agedAt (config : Configuration) (waiting : QueueEntry) (before : List Event) (event : Event) : Prop :=
  waiting.enqueueBoundary + config.starvationBound ≤ event.boundaryIndex before

/-- After the events `base`, no event, the latest first, at which an offer is aged lets one that was
enqueued later join before it has left the queue. -/
def Unovertaken (config : Configuration) (waiting : QueueEntry) (base events : List Event) : Prop :=
  ∀ after event before enqueueBoundary, events = after ++ event :: before → event.joins = some enqueueBoundary →
    event.agedAt config waiting (before ++ base) → waiting.enqueueBoundary < enqueueBoundary →
    ∃ earlier ∈ before, earlier.takes waiting.requestId

/-- An offer is watched from some point of the trace on: it has not been overtaken, and it has
left the queue or still waits there. -/
def Watched (config : Configuration) (waiting : QueueEntry) (base : List Event) (state : State) : Prop :=
  ∃ events, state.trace = events ++ base ∧ Unovertaken config waiting base events ∧
    ((∃ event ∈ events, event.takes waiting.requestId) ∨ waiting ∈ state.queue)

variable {waiting : QueueEntry} {base : List Event} {next : State}

theorem Unovertaken.cons {event : Event} {events : List Event} (unovertaken : Unovertaken config waiting base events)
    (older : ∀ enqueueBoundary, event.joins = some enqueueBoundary → event.agedAt config waiting (events ++ base) →
      enqueueBoundary ≤ waiting.enqueueBoundary ∨ ∃ earlier ∈ events, earlier.takes waiting.requestId) :
    Unovertaken config waiting base (event :: events) := by
  intro after later before enqueueBoundary split joins old overtakes
  cases after with
  | nil =>
    obtain ⟨rfl, rfl⟩ := List.cons.inj split
    exact (older enqueueBoundary joins old).resolve_left (Nat.not_le_of_lt overtakes)
  | cons head rest =>
    obtain ⟨rfl, further⟩ := List.cons.inj split
    exact unovertaken rest later before enqueueBoundary further joins old overtakes

section

variable (watched : Watched config waiting base state)
include watched

/-- Nothing has happened to the offers. -/
theorem Watched.same (trace : next.trace = state.trace) (queue : next.queue = state.queue) :
    Watched config waiting base next := by
  obtain ⟨events, split, unovertaken, left⟩ := watched
  exact ⟨events, trace.trans split, unovertaken, queue ▸ left⟩

/-- An event: while the offer waits it is no overtaking, and the offer leaves by it or stays. -/
theorem Watched.note {event : Event} (trace : next.trace = event :: state.trace)
    (step : waiting ∈ state.queue →
      (∀ enqueueBoundary, event.joins = some enqueueBoundary → event.agedAt config waiting state.trace →
        enqueueBoundary ≤ waiting.enqueueBoundary) ∧
        (event.takes waiting.requestId ∨ waiting ∈ next.queue)) : Watched config waiting base next := by
  obtain ⟨events, split, unovertaken, left | member⟩ := watched
  · refine ⟨event :: events, by rw [trace, split]; rfl, unovertaken.cons fun _ _ _ => .inr left, .inl ?_⟩
    obtain ⟨earlier, inside, takes⟩ := left
    exact ⟨earlier, .tail _ inside, takes⟩
  · obtain ⟨older, leaves⟩ := step member
    refine ⟨event :: events, by rw [trace, split]; rfl, unovertaken.cons fun enqueueBoundary joins old =>
      .inl (older enqueueBoundary joins (split ▸ old)), ?_⟩
    rcases leaves with takes | stays
    · exact .inl ⟨event, .head _, takes⟩
    · exact .inr stays

/-- An event by which nothing joins and nothing leaves the queue. -/
theorem Watched.pass {event : Event} (trace : next.trace = event :: state.trace) (idle : event.joins = none)
    (queue : waiting ∈ state.queue → waiting ∈ next.queue) : Watched config waiting base next := by
  refine watched.note trace fun member => ⟨fun _ joins => ?_, .inr (queue member)⟩
  exact absurd (joins.symm.trans idle) (Option.some_ne_none _)

/-- Nothing joins past an offer that waits and is not too large. -/
theorem offer_watched (fits : waiting.oversize = false) (request : Request) :
    Watched config waiting base (offer config state request).2.2 := by
  unfold offer
  dsimp only
  split
  · exact watched
  · generalize counted : state.count _ = begun
    have started : Watched config waiting base begun := counted ▸ watched.same rfl rfl
    split
    · rename_i joins
      refine started.note rfl fun member => ?_
      have large := (offerReason_none joins).2.2 waiting member
      rw [fits] at large
      cases large
    · have queued : ∀ oversize, Watched config waiting base (enqueue begun request oversize) :=
        fun oversize => started.pass rfl rfl fun member => List.mem_append_left _ member
      unfold waitInQueue
      split
      · exact started.same rfl rfl
      · dsimp only
        split
        · exact (queued _).same rfl rfl
        · exact queued _

theorem withdraw_watched (requestId : UInt64) :
    Watched config waiting base (withdraw state requestId).2 := by
  unfold withdraw
  split
  · exact watched
  · split
    · refine watched.note rfl fun member => ⟨?_, ?_⟩
      · exact fun _ absurdity => absurd absurdity (Option.some_ne_none _).symm
      · by_cases own : waiting.requestId = requestId
        · exact .inl (.inl (own ▸ rfl))
        · refine .inr ?_
          exact (List.mem_eraseP_of_neg (by simpa using own)).mpr member
    · exact watched

theorem retire_watched (requestId : UInt64) :
    Watched config waiting base (retire config state requestId).2 := by
  unfold retire
  split
  · exact watched
  · split
    · exact watched
    · exact watched.pass rfl rfl id

theorem reclaim_watched :
    Watched config waiting base (reclaim config state) := by
  unfold reclaim
  generalize List.range config.laneCapacity = slots
  induction slots generalizing state with
  | nil => exact watched
  | cons slot rest ih =>
    apply ih
    unfold reclaimLane
    split
    · exact watched
    · exact watched.pass rfl rfl id

end

variable (bounded : config.starvationBound ≠ 0) (fits : waiting.oversize = false)
include bounded fits

section

variable (ordered : Ordered 1 state) (watched : Watched config waiting base state)
include ordered watched

/-- A release while an aged offer waits is its own or that of an older one. -/
theorem admitFromQueue_watched {index : Nat} {entry : QueueEntry} (slot : Nat)
    (picked : policyPick state.queue state.boundaryIndex config.starvationBound = some (index, entry)) :
    Watched config waiting base (admitFromQueue config state index entry slot) := by
  refine watched.note rfl fun member => ⟨?_, ?_⟩
  · intro enqueueBoundary joins old
    have reached : aged config.starvationBound state.boundaryIndex waiting = true := by
      have waited : waiting.enqueueBoundary + config.starvationBound ≤ state.trace.count .boundary + 1 := old
      rw [← ordered.counted]
      simpa [aged, fits] using waited
    have oldest := policyPick_oldest ordered.sorted bounded member reached picked
    exact Option.some.inj joins ▸ oldest
  · by_cases own : entry.requestId = waiting.requestId
    · exact .inl (.inr (congrArg some own))
    · refine .inr (List.mem_eraseIdx_iff_getElem?.mpr ?_)
      obtain ⟨place, found⟩ := List.getElem?_of_mem member
      refine ⟨place, ?_, found⟩
      rintro rfl
      have same := (policyPick_get picked).symm.trans found
      exact own (congrArg QueueEntry.requestId (Option.some.inj same))

theorem releaseFrom_watched (room : Nat) : Watched config waiting base (releaseFrom config room state).2 := by
  induction room generalizing state with
  | zero => exact watched
  | succ room ih =>
    rw [releaseFrom]
    split
    · exact watched
    · rename_i index entry picked
      dsimp only
      split
      · exact watched.same rfl rfl
      · exact ih (admitFromQueue_ordered ordered ..) (admitFromQueue_watched bounded fits ordered watched _ picked)

end

variable (ordered : Ordered 0 state) (watched : Watched config waiting base state)
include ordered watched

theorem boundary_watched (releasedCapacity : Nat) :
    Watched config waiting base (boundary config state releasedCapacity).2.2 := by
  unfold boundary
  split
  · exact watched
  · have reached : Watched config waiting base (nextBoundary state) := watched.same rfl rfl
    have released := releaseFrom_watched bounded fits (reclaim_ordered (nextBoundary_ordered ordered))
      (reclaim_watched reached) releasedCapacity
    exact released.pass rfl rfl id

theorem Call.apply_watched (call : Call) : Watched config waiting base (call.apply config state) := by
  cases call with
  | offer request => exact offer_watched watched fits request
  | withdraw requestId => exact withdraw_watched watched requestId
  | retire requestId => exact retire_watched watched requestId
  | boundary releasedCapacity => exact boundary_watched bounded fits ordered watched releasedCapacity

theorem calls_watched (calls : List Call) :
    Watched config waiting base (calls.foldl (Call.apply config) state) := by
  induction calls generalizing state with
  | nil => exact watched
  | cons call rest ih => exact ih (call.apply_ordered ordered) (call.apply_watched bounded fits ordered watched)

end Watching

/-- `boundary_index` is the number of boundaries that the trace tells of. -/
theorem run_boundaryIndex (config : Configuration) (calls : List Call) :
    (run config calls).boundaryIndex = (run config calls).trace.count .boundary :=
  (run_ordered config calls).counted.symm

/-- An offer waits that is not too large. At no event, whatever the later calls are, at which it has
waited for the starvation bound does an offer join, aged or not, that was enqueued at a later boundary,
unless the first has been released or withdrawn before. -/
theorem aged_unovertaken (config : Configuration) (bounded : 0 < config.starvationBound) (calls : List Call)
    (waiting : QueueEntry) (queued : waiting ∈ (run config calls).queue) (fits : waiting.oversize = false)
    (later : List Call) :
    ∃ events, (run config (calls ++ later)).trace = events ++ (run config calls).trace ∧
      Unovertaken config waiting (run config calls).trace events := by
  have ordered := run_ordered config calls
  have start : Watched config waiting (run config calls).trace (run config calls) :=
    ⟨[], rfl, fun after event before _ split => absurd split (by simp), .inr queued⟩
  have watched := calls_watched (Nat.ne_of_gt bounded) fits ordered start later
  rw [run, List.foldl_append]
  obtain ⟨events, split, unovertaken, _⟩ := watched
  exact ⟨events, split, unovertaken⟩

/-- A controller with room for one lane, and a starvation bound of two boundaries. -/
def oneLane : Configuration where
  descriptor :=
    { maxInputRows := 8, maxActiveLanes := 1, starvationBound := 2, queueCapacity := 4, laneCapacity := 1 }
  accepted := by decide

/-- An offer of five rows waits, and a boundary later one of a single row. The next boundary is the one
at which the first has waited for two, and releases it. -/
theorem aged_unovertaken_oneLane :
    let calls := [offerOf 1 1, offerOf 2 5]
    let later := [.boundary 4, offerOf 3 1, .retire 1, .boundary 4]
    (run oneLane (calls ++ later)).trace.take 2 = [.boundary, .released 2 5 0 0] ∧
      ∃ events, (run oneLane (calls ++ later)).trace = events ++ (run oneLane calls).trace ∧
        Unovertaken oneLane ⟨2, 5, 0, false⟩ (run oneLane calls).trace events :=
  ⟨by decide, aged_unovertaken oneLane (by decide) [offerOf 1 1, offerOf 2 5] ⟨2, 5, 0, false⟩ (by decide) rfl _⟩

end Sparkpipe.ContinuousBatch
