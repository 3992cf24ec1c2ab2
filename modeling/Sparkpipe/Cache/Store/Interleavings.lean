import Sparkpipe.Cache.Store.Worker
import Sparkpipe.Lib.Along
import Mathlib.Order.Defs.LinearOrder
import Mathlib.Data.Nat.Basic

/-!
# Interleavings of the owner and the worker

A run takes the locked sections of any number of page stores in any order. The tables of
a store stay consistent except through one step: a failed read takes the slot from its
page, and when the page was superseded and is being written to the same slot again, that
slot belongs to the write. A completed write that nobody collects is not looked for by a
writeback of the page at another generation, so a second write can come to stand beside it.
-/

namespace Sparkpipe.KvPageStore

open Function (update update_self update_of_ne)
open KvCache (PrefetchBlock)

/-- The sections that change a store, with any arguments. -/
inductive Move where
  | writeback (write : PageStore.Write)
  | readback (page generation destination bytes : Nat)
  | finishPrefetch (page generation : Nat)
  | startPrefetch (page : Nat) (block : PrefetchBlock) (keyBytes valueBytes : Nat)
  | collect
  | invalidate (page generation : Nat)
  | rekey (fromPage fromGeneration toPage toGeneration : Nat)
  | supersede (page generation : Nat)
  | releaseIdle (page generation : Nat)
  | take
  | record (outcome : Outcome)

/-- A section of the store at an address, or of two stores at once. -/
inductive Step (ι : Type) where
  | on (address : ι) (move : Move)
  | invalidatePair (first second : ι) (page generation : Nat)

/-- A write that was not superseded, whether or not the worker has recorded it. -/
def Job.standing (job : Job) : Bool := job.state ≠ .free && job.writes && !job.superseded

theorem Job.standing_iff {job : Job} : job.standing = true ↔
    job.state ≠ .free ∧ job.direction = .deviceToHost ∧ job.superseded = false := by
  simp only [Job.standing, Job.writes, ne_eq, decide_not, Bool.and_eq_true, Bool.not_eq_eq_eq_not,
    Bool.not_true, decide_eq_false_iff_not, decide_eq_true_eq, and_assoc]

namespace PageStore

variable {ι : Type} {geometry : Geometry} {before after store : PageStore} {index page generation : Nat}
  {outcome : Outcome} {write : Write}

/-- What a section leaves. -/
def step (geometry : Geometry) (store : PageStore) : Move → PageStore
  | .writeback write => (store.writeback geometry write).2
  | .readback page generation destination bytes =>
    (store.readback geometry page generation destination bytes).2
  | .finishPrefetch page generation => (store.finishPrefetch geometry page generation).2
  | .startPrefetch page block keyBytes valueBytes =>
    (store.startPrefetch geometry page block keyBytes valueBytes).2
  | .collect => (store.collect geometry).2
  | .invalidate page generation => (store.invalidate geometry page generation).2
  | .rekey fromPage fromGeneration toPage toGeneration =>
    (store.rekey geometry fromPage fromGeneration toPage toGeneration).2
  | .supersede page generation => (store.supersede geometry page generation).2
  | .releaseIdle page generation => (store.releaseIdle geometry page generation).2
  | .take => store.take geometry
  | .record outcome => store.record geometry outcome

/-- One step of the stores. A pair is ordered by its addresses and must be two stores. -/
def perform [LinearOrder ι] (geometries : ι → Geometry) (stores : ι → PageStore) :
    Step ι → ι → PageStore
  | .on address move =>
    update stores address ((stores address).step (geometries address) move)
  | .invalidatePair first second page generation =>
    if first = second then stores
    else
      let left := min first second
      let right := max first second
      let pair := invalidatePair (geometries left) (geometries right) (stores left) (stores right)
        page generation
      update (update stores left pair.left) right pair.right

/-- What the tables of a store are to satisfy after every step. -/
structure Consistent (geometry : Geometry) (store : PageStore) : Prop where
  inverse : ∀ page slot, page < geometry.logicalPageCapacity ∧
      store.backingSlotsByLogicalPage page = some slot ↔
    slot < geometry.backingSlotCapacity ∧ store.logicalPagesByBackingSlot slot = some page
  counted : store.backingPageCount =
    tally geometry.backingSlotCapacity fun slot => (store.logicalPagesByBackingSlot slot).isSome
  mapped : ∀ page < geometry.logicalPageCapacity, (store.backingSlotsByLogicalPage page).isSome ↔
    store.validPages page = .valid ∨ store.validPages page = .reserved
  reserved : ∀ page < geometry.logicalPageCapacity, store.validPages page = .reserved ↔
    ∃! index, index < geometry.transferCapacity ∧ (store.jobs index).writing = true ∧
      (store.jobs index).logicalPageIndex = page ∧ (store.jobs index).reservesBackingPage = true
  slots : ∀ index < geometry.transferCapacity, (store.jobs index).writing = true →
    store.backingSlotsByLogicalPage (store.jobs index).logicalPageIndex =
      some (store.jobs index).backingSlotIndex
  lone : ∀ one other, (store.jobs one).writing = true → (store.jobs other).writing = true →
    (store.jobs one).logicalPageIndex = (store.jobs other).logicalPageIndex → one = other
  released : ∀ status ∈ store.releases, status = .ok

/-- No two writes for one page stand, the completed ones that nobody collected included. -/
def Uncrowded (store : PageStore) : Prop :=
  ∀ one other, (store.jobs one).standing = true → (store.jobs other).standing = true →
    (store.jobs one).logicalPageIndex = (store.jobs other).logicalPageIndex → one = other

section Conditions

/-- The writeback queues a write while a completed one for the page waits to be collected. -/
def Crowds (geometry : Geometry) (store : PageStore) (write : Write) : Prop :=
  store.queuesWrite geometry write = true ∧ ∃ index, (store.jobs index).standing = true ∧
    (store.jobs index).state = .complete ∧ (store.jobs index).logicalPageIndex = write.page

/-- The step does not take a slot from the write it is reserved for. -/
def SparesReserved (geometries : ι → Geometry) (stores : ι → PageStore) : Step ι → Prop
  | .on address (.record outcome) => ¬ DropsReserved (geometries address) (stores address) outcome
  | _ => True

/-- The step does not queue a write beside a completed one. -/
def SparesCompleted (geometries : ι → Geometry) (stores : ι → PageStore) : Step ι → Prop
  | .on address (.writeback write) => ¬ Crowds (geometries address) (stores address) write
  | _ => True

end Conditions

section Consistency

theorem Sound.consistent (sound : store.Sound geometry) : store.Consistent geometry := by
  constructor
  · intro page slot
    constructor
    · rintro ⟨-, linked⟩
      exact ⟨(sound.tabled.inRange page slot linked).2, (sound.tabled.paired page slot).mp linked⟩
    · rintro ⟨-, back⟩
      have linked := (sound.tabled.paired page slot).mpr back
      exact ⟨(sound.tabled.inRange page slot linked).1, linked⟩
  · exact sound.tabled.counted
  · exact fun page _ => sound.mapped page
  · intro page _
    constructor
    · intro reserved
      obtain ⟨index, writes, onPage⟩ := sound.held page reserved
      have busy : (store.jobs index).state ≠ .free := by
        intro free
        rw [Job.free_not_writing free] at writes
        cases writes
      refine ⟨index, ⟨sound.jobsInRange index busy, writes, onPage, (sound.holds index writes).1⟩, ?_⟩
      rintro other ⟨-, writesToo, samePage, -⟩
      exact sound.alone other index writesToo writes (samePage.trans onPage.symm)
    · rintro ⟨index, ⟨-, writes, onPage, -⟩, -⟩
      rw [← onPage]
      exact (sound.holds index writes).2.2
  · exact fun index _ writes => (sound.holds index writes).2.1
  · exact sound.alone
  · exact sound.released

end Consistency

section Standing

section

variable (uncrowded : before.Uncrowded)
include uncrowded

theorem Uncrowded.of_jobs
    (same : ∀ index, (after.jobs index).standing = true → (before.jobs index).standing = true ∧
      (after.jobs index).logicalPageIndex = (before.jobs index).logicalPageIndex) : after.Uncrowded := by
  intro one other standsOne standsOther samePage
  obtain ⟨oldOne, pageOne⟩ := same one standsOne
  obtain ⟨oldOther, pageOther⟩ := same other standsOther
  exact uncrowded one other oldOne oldOther (by rw [← pageOne, ← pageOther, samePage])

/-- One job changes, and it does not begin to stand. -/
theorem Uncrowded.setJob {job : Job} (jobs : after.jobs = update before.jobs index job)
    (stands : job.standing = true → (before.jobs index).standing = true ∧
      job.logicalPageIndex = (before.jobs index).logicalPageIndex) : after.Uncrowded := by
  apply uncrowded.of_jobs
  intro other standing
  by_cases changed : other = index
  · subst changed
    rw [jobs, update_self] at standing ⊢
    exact stands standing
  · rw [jobs, update_of_ne changed] at standing ⊢
    exact ⟨standing, rfl⟩

/-- Only queueing a write adds a standing job. -/
theorem Uncrowded.edit {kind : Kind} (edit : Edit geometry kind before after)
    (queuesNone : ∀ write, kind ≠ .queueWrite write) : after.Uncrowded := by
  cases edit with
  | clear _ => exact uncrowded.setJob rfl fun impossible => nomatch impossible
  | forget _ => exact uncrowded.of_jobs fun _ standing => ⟨standing, rfl⟩
  | release _ _ => exact uncrowded.of_jobs fun _ standing => ⟨standing, rfl⟩
  | dropQueued _ _ => exact uncrowded.setJob rfl fun impossible => nomatch impossible
  | supersede _ =>
    refine uncrowded.setJob rfl fun standing => ?_
    exact absurd (Job.standing_iff.mp standing).2.2 Bool.true_eq_false.mp
  | queueWrite _ _ _ _ _ _ _ => exact absurd rfl (queuesNone _)
  | queueRead _ _ _ reads _ _ _ =>
    refine uncrowded.setJob rfl fun standing => ?_
    have direction := (Job.isFor_iff.mp reads).2.1
    exact absurd (direction.symm.trans (Job.standing_iff.mp standing).2.1) Direction.noConfusion
  | move _ _ _ _ _ => exact uncrowded.of_jobs fun _ standing => ⟨standing, rfl⟩

theorem Uncrowded.edits {allowed : Kind → Prop} (edits : Edits geometry allowed before after)
    (queuesNone : ∀ write, ¬ allowed (.queueWrite write)) : after.Uncrowded := by
  refine edits.keep (fun kind _ _ allow edit uncrowded => uncrowded.edit edit ?_) uncrowded
  rintro write rfl
  exact queuesNone write allow

end

theorem queuesWrite_unreserved (queues : store.queuesWrite geometry write = true) :
    store.validPages write.page ≠ .reserved := by
  have unadmitted : ∀ now : PageStore, now.validPages write.page = .reserved →
      now.admits geometry write = false := by
    intro now reserved
    simp only [admits, reserved, reduceCtorEq, decide_false, Bool.false_and, Bool.or_self]
  intro reserved
  unfold queuesWrite at queues
  cases found : store.findJob geometry .deviceToHost write.page write.generation with
  | none =>
    simp only [found, unadmitted store reserved, Bool.and_false, Bool.false_eq_true] at queues
  | some index =>
    simp only [found, unadmitted (store.clearJob index) reserved, Bool.and_false, Bool.false_eq_true] at queues

/-- Where nothing waits to be collected, nothing stands for a page that a write is queued for. -/
theorem noneStands (sound : store.Sound geometry) (queues : store.queuesWrite geometry write = true)
    (spared : ¬ Crowds geometry store write) (onPage : (store.jobs index).logicalPageIndex = write.page) :
    (store.jobs index).standing = false := by
  cases standing : (store.jobs index).standing with
  | false => rfl
  | true =>
    obtain ⟨busy, writes, -⟩ := Job.standing_iff.mp standing
    have quiet := sound.quiet (queuesWrite_unreserved queues) onPage
    cases state : (store.jobs index).state with
    | free => exact absurd state busy
    | queued =>
      rw [Job.writing_iff.mpr ⟨writes, Or.inl state⟩] at quiet
      cases quiet
    | active =>
      rw [Job.writing_iff.mpr ⟨writes, Or.inr state⟩] at quiet
      cases quiet
    | complete => exact absurd ⟨queues, index, standing, state, onPage⟩ spared

/-- The edit that queues a write leaves the other jobs and adds one for its page. -/
theorem Edit.queued (edit : Edit geometry (.queueWrite write) before after) :
    ∃ index, (before.jobs index).state = .free ∧ (after.jobs index).standing = true ∧
      (after.jobs index).logicalPageIndex = write.page ∧
      ∀ other, other ≠ index → after.jobs other = before.jobs other := by
  cases edit with
  | @queueWrite _ index _ _ free _ _ _ _ _ _ =>
    refine ⟨index, free, ?_, ?_, fun other different => update_of_ne different ..⟩
    · change (update before.jobs index _ index).standing = true
      rw [update_self]
      rfl
    · change (update before.jobs index _ index).logicalPageIndex = _
      rw [update_self]
      rfl

end Standing

section Steps

/-- A section keeps the store sound, unless it takes a slot from a write. -/
theorem step_sound (sound : store.Sound geometry) (move : Move)
    (spared : ∀ outcome, move = .record outcome → ¬ DropsReserved geometry store outcome) :
    (store.step geometry move).Sound geometry := by
  cases move with
  | writeback write => exact sound.edits (writeback_edits sound write)
  | readback page generation destination bytes =>
    exact sound.edits (readback_edits geometry store page generation destination bytes)
  | finishPrefetch page generation => exact sound.edits (finishPrefetch_edits geometry store page generation)
  | startPrefetch page block keyBytes valueBytes =>
    exact sound.edits (startPrefetch_edits geometry store page block keyBytes valueBytes)
  | collect => exact sound.edits (collect_edits geometry store)
  | invalidate page generation => exact sound.edits (invalidate_edits sound page generation)
  | rekey fromPage fromGeneration toPage toGeneration =>
    exact sound.edits (rekey_edits geometry store fromPage fromGeneration toPage toGeneration)
  | supersede page generation => exact sound.edits (supersede_edits sound page generation)
  | releaseIdle page generation => exact sound.edits (releaseIdle_edits sound page generation)
  | take => exact take_sound sound
  | record outcome => exact record_sound sound (spared outcome rfl)

theorem writeback_uncrowded (sound : store.Sound geometry) (uncrowded : store.Uncrowded)
    (spared : ¬ Crowds geometry store write) : (store.writeback geometry write).2.Uncrowded := by
  obtain ⟨middle, tidied, kept, finishes⟩ := writeback_path sound write
  have settled := uncrowded.edits tidied fun _ queues => queues
  unfold Finishes at finishes
  split at finishes
  · rename_i queues
    obtain ⟨index, free, -, onPage, others⟩ := finishes.queued
    -- nothing stands for the page before, so the new job is alone
    have nothing : ∀ other, other ≠ index →
        ((store.writeback geometry write).2.jobs other).standing = true →
        ((store.writeback geometry write).2.jobs other).logicalPageIndex ≠ write.page := by
      intro other different standing samePage
      rw [others other different] at standing samePage
      have origin := (tidied.keep (P := fun now : PageStore => (now.jobs other).standing = true →
        now.jobs other = store.jobs other) ?_ fun _ => rfl) standing
      · rw [origin] at standing samePage
        rw [noneStands sound queues spared samePage] at standing
        cases standing
      · intro kind earlier later tidy edit same stands
        cases edit with
        | @clear _ cleared _ =>
          by_cases here : other = cleared
          · subst here
            change (update earlier.jobs other {} other).standing = true at stands
            rw [update_self] at stands
            cases stands
          · have untouched : (earlier.clearJob cleared).jobs other = earlier.jobs other :=
              update_of_ne here ..
            rw [untouched] at stands ⊢
            exact same stands
        | forget _ => exact same stands
        | _ => exact tidy.elim
    intro one other standsOne standsOther samePage
    by_cases first : one = index
    · by_cases second : other = index
      · rw [first, second]
      · subst first
        exact absurd (samePage.symm.trans onPage) (nothing other second standsOther)
    · by_cases second : other = index
      · subst second
        exact absurd (samePage.trans onPage) (nothing one first standsOne)
      · rw [others one first] at standsOne samePage
        rw [others other second] at standsOther samePage
        exact settled one other standsOne standsOther samePage
  · exact settled.edits finishes fun _ queues => queues

/-- The worker changes no job but one, which it does not make stand. -/
theorem take_uncrowded (uncrowded : store.Uncrowded) : (store.take geometry).Uncrowded := by
  unfold take
  cases store.running with
  | some index => exact uncrowded
  | none =>
    cases found : store.findQueuedJob geometry with
    | none => exact uncrowded
    | some index =>
      refine uncrowded.setJob rfl fun standing => ⟨?_, rfl⟩
      obtain ⟨-, direction, current⟩ := Job.standing_iff.mp standing
      refine Job.standing_iff.mpr ⟨?_, direction, current⟩
      rw [findQueuedJob_some found]
      decide

theorem settleJob_jobs (geometry : Geometry) (store : PageStore) (job : Job) (status : SparkStatus) :
    (store.settleJob geometry job status).2.jobs = store.jobs := by
  have released := releaseBackingSlot_jobs geometry store job.logicalPageIndex (some job.backingSlotIndex)
  unfold settleJob dropUnreadable
  split_ifs <;> first | rfl | exact released

theorem record_uncrowded (sound : store.Sound geometry) (uncrowded : store.Uncrowded) (outcome : Outcome) :
    (store.record geometry outcome).Uncrowded := by
  unfold record
  cases runs : store.running with
  | none => exact uncrowded
  | some index =>
    refine uncrowded.setJob (congrArg (update · index _) (settleJob_jobs ..))
      fun standing => ⟨?_, rfl⟩
    obtain ⟨-, direction, current⟩ := Job.standing_iff.mp standing
    refine Job.standing_iff.mpr ⟨?_, direction, current⟩
    rw [(sound.running index).mpr runs]
    decide

theorem step_uncrowded (sound : store.Sound geometry) (uncrowded : store.Uncrowded) (move : Move)
    (spared : ∀ write, move = .writeback write → ¬ Crowds geometry store write) :
    (store.step geometry move).Uncrowded := by
  cases move with
  | writeback write => exact writeback_uncrowded sound uncrowded (spared write rfl)
  | readback page generation destination bytes =>
    exact uncrowded.edits (readback_edits geometry store page generation destination bytes)
      fun _ queues => queues
  | finishPrefetch page generation =>
    exact uncrowded.edits (finishPrefetch_edits geometry store page generation)
      fun _ queues => queues
  | startPrefetch page block keyBytes valueBytes =>
    exact uncrowded.edits (startPrefetch_edits geometry store page block keyBytes valueBytes)
      fun _ queues => queues
  | collect => exact uncrowded.edits (collect_edits geometry store) fun _ queues => queues
  | invalidate page generation =>
    exact uncrowded.edits (invalidate_edits sound page generation) fun _ queues => queues
  | rekey fromPage fromGeneration toPage toGeneration =>
    exact uncrowded.edits
      (rekey_edits geometry store fromPage fromGeneration toPage toGeneration)
      fun _ queues => nomatch queues
  | supersede page generation =>
    exact uncrowded.edits (supersede_edits sound page generation) fun _ queues => queues
  | releaseIdle page generation =>
    exact uncrowded.edits (releaseIdle_edits sound page generation) fun _ queues => queues
  | take => exact take_uncrowded uncrowded
  | record outcome => exact record_uncrowded sound uncrowded outcome

end Steps

section Runs

variable [LinearOrder ι] {geometries : ι → Geometry} {stores : ι → PageStore} {next : Step ι}

/-- What both sections of one store, and a pair of invalidations, keep in every store. -/
theorem perform_keeps {P : Geometry → PageStore → Prop} (every : ∀ address, P (geometries address) (stores address))
    (one : ∀ address move, next = .on address move →
      P (geometries address) ((stores address).step (geometries address) move))
    (pair : ∀ left right page generation,
      P (geometries left) (invalidatePair (geometries left) (geometries right) (stores left) (stores right)
        page generation).left ∧
      P (geometries right) (invalidatePair (geometries left) (geometries right) (stores left) (stores right)
        page generation).right) (address : ι) : P (geometries address) (perform geometries stores next address) := by
  cases next with
  | on changed move =>
    change P _ (update stores changed _ address)
    by_cases here : address = changed
    · subst here
      rw [update_self]
      exact one address move rfl
    · rw [update_of_ne here]
      exact every address
  | invalidatePair first second page generation =>
    by_cases same : first = second
    · have unchanged : perform geometries stores (.invalidatePair first second page generation) = stores :=
        if_pos same
      rw [unchanged]
      exact every address
    · rw [perform, if_neg same]
      by_cases right : address = max first second
      · rw [right, update_self]
        exact (pair _ _ page generation).2
      · rw [update_of_ne right]
        by_cases left : address = min first second
        · rw [left, update_self]
          exact (pair _ _ page generation).1
        · rw [update_of_ne left]
          exact every address

theorem perform_sound (sound : ∀ address, (stores address).Sound (geometries address))
    (spared : SparesReserved geometries stores next) (address : ι) :
    (perform geometries stores next address).Sound (geometries address) := by
  refine perform_keeps (P := Sound) sound ?_ ?_ address
  · rintro changed move rfl
    refine step_sound (sound changed) move ?_
    rintro outcome rfl
    exact spared
  · intro left right page generation
    obtain ⟨first, second⟩ := invalidatePair_edits (sound left) (sound right) page generation
    exact ⟨(sound left).edits first, (sound right).edits second⟩

theorem perform_uncrowded (sound : ∀ address, (stores address).Sound (geometries address))
    (uncrowded : ∀ address, (stores address).Uncrowded) (spared : SparesCompleted geometries stores next)
    (address : ι) : (perform geometries stores next address).Uncrowded := by
  refine perform_keeps (P := fun _ store => store.Uncrowded) uncrowded ?_ ?_ address
  · rintro changed move rfl
    refine step_uncrowded (sound changed) (uncrowded changed) move ?_
    rintro write rfl
    exact spared
  · intro left right page generation
    obtain ⟨first, second⟩ := invalidatePair_edits (sound left) (sound right) page generation
    exact ⟨(uncrowded left).edits first fun _ queues => queues,
      (uncrowded right).edits second fun _ queues => queues⟩

/-- Taking the slot from the write it is reserved for leaves a write without a reserved page. -/
theorem dropsReserved_inconsistent (sound : store.Sound geometry) (drops : DropsReserved geometry store outcome) :
    ¬ (store.record geometry outcome).Consistent geometry := by
  obtain ⟨index, runs, direction, failed, storage, inRange, linked, reserved⟩ := drops
  obtain ⟨writer, writes, onPage⟩ := sound.held _ reserved
  have different : writer ≠ index := by
    rintro rfl
    exact direction (Job.writing_iff.mp writes).1
  have reads : (executed (store.jobs index) outcome).direction ≠ .deviceToHost := direction
  have drops : store.dropUnreadable geometry (executed (store.jobs index) outcome) =
      (store.unmap (store.jobs index).logicalPageIndex (store.jobs index).backingSlotIndex).logRelease .ok := by
    unfold dropUnreadable
    refine (if_pos ⟨inRange, linked⟩).trans ?_
    exact congrArg Prod.snd (sound.tabled.release linked)
  have settles : store.settleJob geometry (executed (store.jobs index) outcome) outcome.status =
      (.notFound, (store.unmap (store.jobs index).logicalPageIndex
        (store.jobs index).backingSlotIndex).logRelease .ok) := by
    rw [settleJob_read reads, if_neg failed, drops]
    exact if_pos storage
  unfold record
  rw [runs]
  dsimp only
  rw [settles]
  intro consistent
  have kept : ∀ other, other ≠ index → update store.jobs index { executed (store.jobs index) outcome with
      state := .complete
      terminalStatus := .notFound } other = store.jobs other :=
    fun other others => update_of_ne others ..
  have busy : (store.jobs writer).state ≠ .free := by
    intro free
    rw [Job.free_not_writing free] at writes
    cases writes
  have still := (consistent.reserved (store.jobs index).logicalPageIndex inRange).mpr ⟨writer, ?_, ?_⟩
  · change update store.validPages _ PageState.invalid _ = .reserved at still
    rw [update_self] at still
    cases still
  · change _ ∧ (update store.jobs index _ writer).writing = true ∧
      (update store.jobs index _ writer).logicalPageIndex = _ ∧
      (update store.jobs index _ writer).reservesBackingPage = true
    rw [kept writer different]
    exact ⟨sound.jobsInRange writer busy, writes, onPage, (sound.holds writer writes).1⟩
  · rintro other ⟨-, writesToo, samePage, -⟩
    by_cases others : other = index
    · subst others
      change (update store.jobs other _ other).writing = true at writesToo
      rw [update_self] at writesToo
      cases (Job.settled_not_writing (Job.complete_not_inFlight rfl)).symm.trans writesToo
    · change (update store.jobs index _ other).writing = true at writesToo
      change (update store.jobs index _ other).logicalPageIndex = _ at samePage
      rw [kept other others] at writesToo samePage
      exact sound.alone other writer writesToo writes (samePage.trans onPage.symm)

/-- A write queued beside a completed one that stands. -/
theorem crowds_crowded (sound : store.Sound geometry) (crowds : Crowds geometry store write) :
    ¬ (store.writeback geometry write).2.Uncrowded := by
  obtain ⟨queues, completed, standing, complete, onPage⟩ := crowds
  obtain ⟨middle, -, kept, finishes⟩ := writeback_path sound write
  have same := kept queues completed (Job.standing_iff.mp standing).2.2
  rw [Finishes, if_pos queues] at finishes
  obtain ⟨index, free, stands, newPage, others⟩ := finishes.queued
  have different : completed ≠ index := by
    rintro rfl
    rw [same, complete] at free
    cases free
  intro uncrowded
  refine different (uncrowded completed index ?_ stands ?_)
  · rw [others completed different, same]
    exact standing
  · rw [others completed different, same, onPage, newPage]

/-- Along a run of any stores from their initialisation, the tables of every store are consistent
after every step exactly when no step records a failed read of a page that is reserved in the slot
read; and completed writes that nobody collected included, no two writes for a page stand after any
step exactly when moreover no writeback queues a write beside a completed one. -/
theorem run_consistent (geometries : ι → Geometry) (steps : List (Step ι)) :
    ((∀ taken, taken <+: steps → ∀ address,
        (taken.foldl (perform geometries) (fun _ => {}) address).Consistent (geometries address)) ↔
      Along (perform geometries) (SparesReserved geometries) steps fun _ => {}) ∧
    ((∀ taken, taken <+: steps → ∀ address,
        (taken.foldl (perform geometries) (fun _ => {}) address).Consistent (geometries address) ∧
        (taken.foldl (perform geometries) (fun _ => {}) address).Uncrowded) ↔
      Along (perform geometries)
        (fun stores next => SparesReserved geometries stores next ∧ SparesCompleted geometries stores next)
        steps fun _ => {}) := by
  have breaks : ∀ (stores : ι → PageStore) (next : Step ι),
      (∀ address, (stores address).Sound (geometries address)) → ¬ SparesReserved geometries stores next →
      ¬ ∀ address, (perform geometries stores next address).Consistent (geometries address) := by
    intro stores next sound dropped everywhere
    cases next with
    | invalidatePair first second page generation => exact dropped trivial
    | on address move =>
      cases move with
      | record outcome =>
        have here := everywhere address
        rw [perform, update_self] at here
        exact dropsReserved_inconsistent (sound address) (not_not.mp dropped) here
      | _ => exact dropped trivial
  constructor
  · exact Along.iff_everywhere (fun stores : ι → PageStore => ∀ address, (stores address).Sound (geometries address))
      (fun stores : ι → PageStore => ∀ address, (stores address).Consistent (geometries address))
      (fun stores next sound spared => perform_sound sound spared)
      (fun stores sound address => (sound address).consistent) breaks
      fun address => initial_sound (geometries address)
  · refine Along.iff_everywhere
      (fun stores : ι → PageStore => (∀ address, (stores address).Sound (geometries address)) ∧
        ∀ address, (stores address).Uncrowded)
      (fun stores : ι → PageStore => ∀ address, (stores address).Consistent (geometries address) ∧
        (stores address).Uncrowded) ?_ ?_ ?_ ?_
    · rintro stores next ⟨sound, uncrowded⟩ ⟨sparesReserved, sparesCompleted⟩
      exact ⟨perform_sound sound sparesReserved, perform_uncrowded sound uncrowded sparesCompleted⟩
    · rintro stores ⟨sound, uncrowded⟩ address
      exact ⟨(sound address).consistent, uncrowded address⟩
    · rintro stores next ⟨sound, uncrowded⟩ failed everywhere
      by_cases spared : SparesReserved geometries stores next
      · have crowded : ¬ SparesCompleted geometries stores next := fun completed => failed ⟨spared, completed⟩
        cases next with
        | invalidatePair first second page generation => exact crowded trivial
        | on address move =>
          cases move with
          | writeback write =>
            have here := (everywhere address).2
            rw [perform, update_self] at here
            exact crowds_crowded (sound address) (not_not.mp crowded) here
          | _ => exact crowded trivial
      · exact breaks stores next sound spared fun address => (everywhere address).1
    · refine ⟨fun address => initial_sound (geometries address), fun address one other standing => ?_⟩
      cases standing

/-- Two pages of one byte and room for both. -/
def smallStore : Geometry where
  logicalPageCapacity := 2
  transferCapacity := 2
  pageBytes := 1
  maximumBackingBytes := 2
  transfers := by decide
  fewTransfers := by decide
  pageHasBytes := by decide
  onePageFits := by decide

/-- Page 0 is written and read back; before the read is recorded as failed, the page is
superseded and written again, to the same slot. The second write then fails. -/
def supersededWhileRead : List (Step Unit) :=
  let write : Write :=
    { page := 0, physicalPage := 0, generation := 1, keyDeviceAddress := 1, keyBytes := 1,
      valueDeviceAddress := 0, valueBytes := 0 }
  [.on () (.writeback write), .on () .take, .on () (.record { status := .ok }), .on () .collect,
    .on () (.readback 0 1 1 1), .on () .take, .on () (.supersede 0 1), .on () (.writeback write),
    .on () (.record { status := .ioError, storageFailed := true }), .on () .take,
    .on () (.record { status := .ioError })]

/-- The failed read takes the slot of the second write, and the release of that slot, when the
write fails too, ends with `SPARK_STATUS_INTERNAL_ERROR`. -/
theorem supersededWhileRead_inconsistent :
    ¬ ∀ taken, taken <+: supersededWhileRead → ∀ address,
      (taken.foldl (perform fun _ => smallStore) (fun _ => {}) address).Consistent smallStore := by
  intro everywhere
  have ended := (everywhere supersededWhileRead List.prefix_rfl ()).released .internalError (by decide)
  cases ended

end Runs

end PageStore

end Sparkpipe.KvPageStore
