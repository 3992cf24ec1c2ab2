import Sparkpipe.Cache.Store.Sections

/-!
# The worker's sections

The worker takes a queued job and, when it has executed it, records how that went. Both
keep the store sound, but for the record of one kind of failed read.
-/

namespace Sparkpipe.KvPageStore

open Function

namespace PageStore

variable {geometry : Geometry} {before after store : PageStore} {index page generation : Nat}
  {outcome : Outcome}

theorem take_sound (sound : store.Sound geometry) : (store.take geometry).Sound geometry := by
  unfold take
  cases runs : store.running with
  | some index => exact sound
  | none =>
    cases found : store.findQueuedJob geometry with
    | none => exact sound
    | some index =>
      have queued := findQueuedJob_some found
      have busy : (store.jobs index).state ≠ .free := by
        rw [queued]
        decide
      have writingSame : ({ store.jobs index with state := .active } : Job).writing =
          (store.jobs index).writing := by
        simp only [Job.writing, Job.writes, Job.inFlight, queued]
        rfl
      refine sound.setJob index { store.jobs index with state := .active } rfl rfl rfl rfl rfl rfl
        ?_ ?_ ?_ ?_ ?_
      · exact fun writes => writingSame ▸ writes
      · exact fun writes => ⟨writingSame.trans writes, rfl, rfl, rfl⟩
      · intro other
        change (update store.jobs index _ other).state = .active ↔ some index = some other
        by_cases changed : other = index
        · subst changed
          rw [update_self]
          exact ⟨fun _ => rfl, fun _ => rfl⟩
        · rw [update_of_ne changed, sound.running other, runs]
          constructor
          · intro impossible
            cases impossible
          · intro same
            exact absurd (Option.some.inj same).symm changed
      · exact fun _ => sound.jobsInRange index busy
      · intro page generation keyed
        obtain ⟨-, key⟩ := Job.isFor_iff.mp keyed
        exact Job.isFor_iff.mpr ⟨busy, key⟩

/-- When the running job ends, no job is active. -/
theorem Sound.runningEnds {job : Job} (sound : store.Sound geometry) (runs : store.running = some index)
    (ended : job.state ≠ .active) (other : Nat) :
    ((update store.jobs index job) other).state = .active ↔ none = some other := by
  constructor
  · intro active
    by_cases changed : other = index
    · rw [changed, update_self] at active
      exact absurd active ended
    · rw [update_of_ne changed] at active
      have same := runs.symm.trans ((sound.running other).mp active)
      exact absurd (Option.some.inj same).symm changed
  · intro impossible
    cases impossible

/-- The end of a job that did not write changes nothing but the job. -/
theorem Sound.endReading (sound : store.Sound geometry) (runs : store.running = some index)
    (reads : (store.jobs index).direction ≠ .deviceToHost) {job : Job}
    (direction : job.direction = (store.jobs index).direction) (complete : job.state = .complete) :
    ({ store.setJob index job with running := none } : PageStore).Sound geometry := by
  have active := (sound.running index).mpr runs
  have busy : (store.jobs index).state ≠ .free := by
    rw [active]
    decide
  refine sound.setJob index job rfl rfl rfl rfl rfl rfl ?_ ?_ ?_ ?_ ?_
  · intro writes
    rw [Job.settled_not_writing (Job.complete_not_inFlight complete)] at writes
    cases writes
  · intro writes
    exact absurd (Job.writing_iff.mp writes).1 reads
  · exact sound.runningEnds runs (by rw [complete]; decide)
  · exact fun _ => sound.jobsInRange index busy
  · intro page generation keyed
    exact absurd (direction.symm.trans (Job.isFor_iff.mp keyed).2.1) reads

/-- The end of a write: its page is no longer reserved, in whatever way the record says so. -/
theorem Sound.endWriting (sound : before.Sound geometry) (runs : before.running = some index) {job : Job}
    (writes : (before.jobs index).writing = true) (complete : job.state = .complete)
    (key : ∀ page generation, job.isFor .deviceToHost page generation = true →
      (before.jobs index).isFor .deviceToHost page generation = true)
    (jobs : after.jobs = update before.jobs index job) (ended : after.running = none)
    (tabled : after.Tabled geometry) (releases : ∀ status ∈ after.releases, status = .ok)
    (otherPages : ∀ other, other ≠ (before.jobs index).logicalPageIndex →
      after.validPages other = before.validPages other ∧
      after.backingSlotsByLogicalPage other = before.backingSlotsByLogicalPage other)
    (unreserved : after.validPages (before.jobs index).logicalPageIndex ≠ .reserved)
    (mapped : (after.backingSlotsByLogicalPage (before.jobs index).logicalPageIndex).isSome ↔
      after.validPages (before.jobs index).logicalPageIndex = .valid) : after.Sound geometry := by
  have active := (sound.running index).mpr runs
  have busy : (before.jobs index).state ≠ .free := by
    rw [active]
    decide
  have here : after.jobs index = job := by rw [jobs, update_self]
  have quiet : (after.jobs index).writing = false := by
    rw [here]
    exact Job.settled_not_writing (Job.complete_not_inFlight complete)
  refine sound.setWriter index (before.jobs index).logicalPageIndex tabled releases
    (fun other different => by rw [jobs, update_of_ne different]) otherPages
    (fun other different writesOther samePage => different (sound.alone other index writesOther writes samePage))
    (fun _ => rfl) ?_ ?_ ?_ ?_ ?_ ?_
  · rw [mapped]
    exact ⟨.inl, fun either => either.resolve_right unreserved⟩
  · intro impossible
    rw [quiet] at impossible
    cases impossible
  · exact fun reserved => absurd reserved unreserved
  · rw [jobs, ended]
    exact sound.runningEnds runs (by rw [complete]; decide)
  · exact fun _ => sound.jobsInRange index busy
  · rw [here]
    exact fun page generation keyed => .inl (key page generation keyed)

/-- The release of the slot that a running write holds. -/
theorem Sound.releaseHeld (sound : store.Sound geometry) (writes : (store.jobs index).writing = true) :
    store.releaseBackingSlot geometry (store.jobs index).logicalPageIndex
        (some (store.jobs index).backingSlotIndex) =
      (.ok, (store.unmap (store.jobs index).logicalPageIndex
        (store.jobs index).backingSlotIndex).logRelease .ok) :=
  sound.tabled.release (sound.holds index writes).2.1

/-- How a write ends that holds its page's slot: superseded, written or failed. -/
theorem settleJob_write (store : PageStore) (job : Job) (status : SparkStatus) {released : PageStore}
    (writes : job.direction = .deviceToHost) (reserves : job.reservesBackingPage = true)
    (releases : store.releaseBackingSlot geometry job.logicalPageIndex (some job.backingSlotIndex) =
      (.ok, released)) :
    store.settleJob geometry job status =
      if job.superseded = true then (.notFound, released)
      else if status = .ok then
        (status, { store.setPage job.logicalPageIndex .valid job.generation with
          slotDigests := update store.slotDigests job.backingSlotIndex job.digest })
      else (status, released.setPage job.logicalPageIndex .writeFailed job.generation) := by
  unfold settleJob
  rw [releases]
  simp only [writes, reserves, and_true, ↓reduceIte]

/-- How any other job ends. -/
theorem settleJob_read {job : Job} {status : SparkStatus} (reads : job.direction ≠ .deviceToHost) :
    store.settleJob geometry job status =
      if status = .ok then (status, store)
      else if job.storageFailed = true then (.notFound, store.dropUnreadable geometry job)
      else (status, store) := by
  unfold settleJob
  simp only [reads, and_false, false_and, ↓reduceIte]

theorem recordWrite_sound (sound : store.Sound geometry) (runs : store.running = some index)
    (direction : (store.jobs index).direction = .deviceToHost) (outcome : Outcome) :
    (store.record geometry outcome).Sound geometry := by
  unfold record
  rw [runs]
  dsimp only
  have active := (sound.running index).mpr runs
  have writes := Job.writing_iff.mpr ⟨direction, .inr active⟩
  obtain ⟨reserves, linked, reserved⟩ := sound.holds index writes
  have settles := settleJob_write store (executed (store.jobs index) outcome) outcome.status
    direction reserves (sound.releaseHeld writes)
  have busy : (store.jobs index).state ≠ .free := by
    rw [active]
    decide
  have key : ∀ status page generation,
      ({ executed (store.jobs index) outcome with
        state := .complete
        terminalStatus := status } : Job).isFor .deviceToHost page generation = true →
      (store.jobs index).isFor .deviceToHost page generation = true := by
    intro status page generation keyed
    exact Job.isFor_iff.mpr ⟨busy, (Job.isFor_iff.mp keyed).2⟩
  rw [settles]
  -- the three ends of a write: superseded, recorded and failed
  by_cases superseded : (executed (store.jobs index) outcome).superseded = true
  · rw [if_pos superseded]
    refine sound.endWriting runs writes rfl (key .notFound) rfl rfl
      ((sound.tabled.unmap linked).congr rfl rfl rfl) sound.logged
      (fun other different =>
        ⟨update_of_ne different .., update_of_ne different ..⟩) ?_ ?_
    · change update store.validPages _ PageState.invalid _ ≠ .reserved
      rw [update_self]
      decide
    · change (update store.backingSlotsByLogicalPage _ none _).isSome ↔
        update store.validPages _ PageState.invalid _ = .valid
      rw [update_self, update_self]
      decide
  · rw [if_neg superseded]
    by_cases succeeded : outcome.status = .ok
    · rw [if_pos succeeded]
      refine sound.endWriting runs writes rfl (key outcome.status) rfl rfl
        (sound.tabled.congr rfl rfl rfl) sound.released
        (fun other different => ⟨update_of_ne different .., rfl⟩) ?_ ?_
      · change update store.validPages (store.jobs index).logicalPageIndex PageState.valid
          (store.jobs index).logicalPageIndex ≠ .reserved
        rw [update_self]
        decide
      · change (store.backingSlotsByLogicalPage _).isSome ↔
          update store.validPages (store.jobs index).logicalPageIndex PageState.valid
            (store.jobs index).logicalPageIndex = .valid
        rw [update_self, linked]
        exact ⟨fun _ => rfl, fun _ => rfl⟩
    · rw [if_neg succeeded]
      refine sound.endWriting runs writes rfl (key outcome.status) rfl rfl
        ((sound.tabled.unmap linked).congr rfl rfl rfl) sound.logged
        (fun other different => ?_) ?_ ?_
      · refine ⟨?_, update_of_ne different ..⟩
        change update (update store.validPages _ .invalid)
          (store.jobs index).logicalPageIndex .writeFailed other = _
        rw [update_of_ne different, update_of_ne different]
      · change update (update store.validPages _ .invalid)
          (store.jobs index).logicalPageIndex PageState.writeFailed
          (store.jobs index).logicalPageIndex ≠ .reserved
        rw [update_self]
        decide
      · change (update store.backingSlotsByLogicalPage _ none _).isSome ↔
          update (update store.validPages _ .invalid)
            (store.jobs index).logicalPageIndex PageState.writeFailed
            (store.jobs index).logicalPageIndex = .valid
        rw [update_self, update_self]
        decide

/-- The worker records that it could not read a page which is by now reserved in the very slot
it read. -/
def DropsReserved (geometry : Geometry) (store : PageStore) (outcome : Outcome) : Prop :=
  ∃ index, store.running = some index ∧ (store.jobs index).direction ≠ .deviceToHost ∧
    outcome.status ≠ .ok ∧ ((store.jobs index).storageFailed || outcome.storageFailed) = true ∧
    (store.jobs index).logicalPageIndex < geometry.logicalPageCapacity ∧
    store.backingSlotsByLogicalPage (store.jobs index).logicalPageIndex =
      some (store.jobs index).backingSlotIndex ∧
    store.validPages (store.jobs index).logicalPageIndex = .reserved

theorem recordRead_sound (sound : store.Sound geometry) (runs : store.running = some index)
    (direction : (store.jobs index).direction ≠ .deviceToHost)
    (spared : ¬ DropsReserved geometry store outcome) : (store.record geometry outcome).Sound geometry := by
  unfold record
  rw [runs]
  dsimp only
  have reads : (executed (store.jobs index) outcome).direction ≠ .deviceToHost := direction
  rw [settleJob_read reads]
  split
  · exact sound.endReading runs direction rfl rfl
  · rename_i failed
    split
    · rename_i storage
      unfold dropUnreadable
      split
      · rename_i here
        -- the page has a record and is not reserved, so it is valid
        obtain ⟨inRange, linked⟩ := here
        have mapped := (sound.mapped _).mp (Option.isSome_iff_exists.mpr ⟨_, linked⟩)
        have unreserved : store.validPages (store.jobs index).logicalPageIndex ≠ .reserved :=
          fun reserved => spared ⟨index, runs, direction, failed, storage, inRange, linked, reserved⟩
        have drops : Edit geometry (.release (store.jobs index).logicalPageIndex) store
            ((store.unmap (store.jobs index).logicalPageIndex
              (store.jobs index).backingSlotIndex).logRelease .ok) :=
          .release (mapped.resolve_right unreserved) linked
        rw [sound.tabled.release linked]
        exact (sound.edit drops).endReading runs direction rfl rfl
      · exact sound.endReading runs direction rfl rfl
    · exact sound.endReading runs direction rfl rfl

theorem record_sound (sound : store.Sound geometry) (spared : ¬ DropsReserved geometry store outcome) :
    (store.record geometry outcome).Sound geometry := by
  cases runs : store.running with
  | none =>
    unfold record
    rw [runs]
    exact sound
  | some index =>
    by_cases direction : (store.jobs index).direction = .deviceToHost
    · exact recordWrite_sound sound runs direction outcome
    · exact recordRead_sound sound runs direction spared

/-- The job that the record of an execution leaves. -/
def recorded (job : Job) (outcome : Outcome) (status : SparkStatus) : Job :=
  { executed job outcome with
    state := .complete
    terminalStatus := status }

/-- The records of other pages, and the digests of other slots, are as they were. -/
structure Apart (page slot : Nat) (before after : PageStore) : Prop where
  states : ∀ other, other ≠ page → after.validPages other = before.validPages other
  generations : ∀ other, other ≠ page → after.generations other = before.generations other
  slots : ∀ other, other ≠ page →
    after.backingSlotsByLogicalPage other = before.backingSlotsByLogicalPage other
  digests : ∀ other, other ≠ slot → after.slotDigests other = before.slotDigests other

/-- The record of a write: either the page is not valid afterwards, or it is valid with what the
job wrote, and only then does the job end with `OK`. -/
theorem record_write (sound : store.Sound geometry) (runs : store.running = some index)
    (direction : (store.jobs index).direction = .deviceToHost) (outcome : Outcome) :
    ∃ status, (store.record geometry outcome).jobs =
        update store.jobs index (recorded (store.jobs index) outcome status) ∧
      (store.record geometry outcome).running = none ∧
      Apart (store.jobs index).logicalPageIndex (store.jobs index).backingSlotIndex store
        (store.record geometry outcome) ∧
      (status ≠ .ok ∧ (store.record geometry outcome).validPages (store.jobs index).logicalPageIndex ≠ .valid ∨
        status = .ok ∧ (store.jobs index).superseded = false ∧ outcome.status = .ok ∧
        (store.record geometry outcome).generations (store.jobs index).logicalPageIndex =
          (store.jobs index).generation ∧
        (store.record geometry outcome).validPages (store.jobs index).logicalPageIndex = .valid ∧
        (store.record geometry outcome).backingSlotsByLogicalPage (store.jobs index).logicalPageIndex =
          some (store.jobs index).backingSlotIndex ∧
        (store.record geometry outcome).slotDigests (store.jobs index).backingSlotIndex = outcome.digest) := by
  have active := (sound.running index).mpr runs
  have writes := Job.writing_iff.mpr ⟨direction, .inr active⟩
  obtain ⟨reserves, linked, reserved⟩ := sound.holds index writes
  have settles := settleJob_write store (executed (store.jobs index) outcome) outcome.status
    direction reserves (sound.releaseHeld writes)
  unfold record
  rw [runs]
  dsimp only
  rw [settles]
  by_cases superseded : (executed (store.jobs index) outcome).superseded = true
  · rw [if_pos superseded]
    refine ⟨.notFound, rfl, rfl, ⟨fun other different => update_of_ne different ..,
      fun other different => update_of_ne different ..,
      fun other different => update_of_ne different .., fun _ _ => rfl⟩,
      .inl ⟨by decide, ?_⟩⟩
    change update store.validPages _ PageState.invalid _ ≠ .valid
    rw [update_self]
    decide
  · have current : (store.jobs index).superseded = false := Bool.eq_false_iff.mpr superseded
    rw [if_neg superseded]
    by_cases succeeded : outcome.status = .ok
    · rw [if_pos succeeded]
      have digested : (executed (store.jobs index) outcome).digest = outcome.digest := if_pos direction
      refine ⟨outcome.status, rfl, rfl, ⟨fun other different => update_of_ne different ..,
        fun other different => update_of_ne different .., fun _ _ => rfl,
        fun other different => update_of_ne different ..⟩,
        .inr ⟨succeeded, current, succeeded, ?_, ?_, linked, ?_⟩⟩
      · change update store.generations (store.jobs index).logicalPageIndex
          (store.jobs index).generation (store.jobs index).logicalPageIndex = _
        rw [update_self]
      · change update store.validPages (store.jobs index).logicalPageIndex PageState.valid
          (store.jobs index).logicalPageIndex = _
        rw [update_self]
      · change update store.slotDigests (store.jobs index).backingSlotIndex
          (executed (store.jobs index) outcome).digest (store.jobs index).backingSlotIndex = _
        rw [update_self, digested]
    · rw [if_neg succeeded]
      refine ⟨outcome.status, rfl, rfl, ⟨fun other different => ?_, fun other different => ?_,
        fun other different => update_of_ne different .., fun _ _ => rfl⟩,
        .inl ⟨succeeded, ?_⟩⟩
      · change update (update store.validPages _ .invalid)
          (store.jobs index).logicalPageIndex .writeFailed other = _
        rw [update_of_ne different, update_of_ne different]
      · change update (update store.generations _ 0)
          (store.jobs index).logicalPageIndex _ other = _
        rw [update_of_ne different, update_of_ne different]
      · change update (update store.validPages _ .invalid)
          (store.jobs index).logicalPageIndex PageState.writeFailed (store.jobs index).logicalPageIndex ≠ .valid
        rw [update_self]
        decide

/-- The record of any other job: the tables stay, or a failed access to the file has dropped the
record of the job's page. -/
theorem record_read (sound : store.Sound geometry) (runs : store.running = some index)
    (direction : (store.jobs index).direction ≠ .deviceToHost) (outcome : Outcome) :
    ∃ status, (store.record geometry outcome).jobs =
        update store.jobs index (recorded (store.jobs index) outcome status) ∧
      (store.record geometry outcome).running = none ∧
      (status = .ok → outcome.status = .ok) ∧
      (store.record geometry outcome).slotDigests = store.slotDigests ∧
      ((store.record geometry outcome).validPages = store.validPages ∧
        (store.record geometry outcome).generations = store.generations ∧
        (store.record geometry outcome).backingSlotsByLogicalPage = store.backingSlotsByLogicalPage ∨
      outcome.status ≠ .ok ∧ ((store.jobs index).storageFailed || outcome.storageFailed) = true ∧
        (store.record geometry outcome).validPages (store.jobs index).logicalPageIndex ≠ .valid ∧
        Apart (store.jobs index).logicalPageIndex (store.jobs index).backingSlotIndex store
          (store.record geometry outcome)) := by
  have reads : (executed (store.jobs index) outcome).direction ≠ .deviceToHost := direction
  unfold record
  rw [runs]
  dsimp only
  rw [settleJob_read reads]
  by_cases succeeded : outcome.status = .ok
  · rw [if_pos succeeded]
    exact ⟨outcome.status, rfl, rfl, id, rfl, .inl ⟨rfl, rfl, rfl⟩⟩
  · rw [if_neg succeeded]
    by_cases storage : (executed (store.jobs index) outcome).storageFailed = true
    · rw [if_pos storage]
      unfold dropUnreadable
      by_cases here : (executed (store.jobs index) outcome).logicalPageIndex < geometry.logicalPageCapacity ∧
          store.backingSlotsByLogicalPage (executed (store.jobs index) outcome).logicalPageIndex =
            some (executed (store.jobs index) outcome).backingSlotIndex
      · have releases : store.releaseBackingSlot geometry (executed (store.jobs index) outcome).logicalPageIndex
            (some (executed (store.jobs index) outcome).backingSlotIndex) = _ :=
          sound.tabled.release here.2
        rw [if_pos here, releases]
        refine ⟨.notFound, rfl, rfl, SparkStatus.noConfusion, rfl, .inr ⟨succeeded, storage, ?_,
          ⟨fun other different => update_of_ne different ..,
            fun other different => update_of_ne different ..,
            fun other different => update_of_ne different .., fun _ _ => rfl⟩⟩⟩
        change update store.validPages (store.jobs index).logicalPageIndex PageState.invalid
          (store.jobs index).logicalPageIndex ≠ .valid
        rw [update_self]
        decide
      · rw [if_neg here]
        exact ⟨.notFound, rfl, rfl, SparkStatus.noConfusion, rfl, .inl ⟨rfl, rfl, rfl⟩⟩
    · rw [if_neg storage]
      exact ⟨outcome.status, rfl, rfl, id, rfl, .inl ⟨rfl, rfl, rfl⟩⟩

end PageStore

end Sparkpipe.KvPageStore
