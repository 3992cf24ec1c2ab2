import Sparkpipe.Cache.Store.Model
import Sparkpipe.Lib.Pairing
import Sparkpipe.Lib.Tally

/-!
# The invariant of the page store

A page is reserved exactly while one write job for it is queued or active, and that job
holds the page's slot. Every change the store's sections make is an `Edit`; the
invariant is kept by each edit, so a section is dealt with by naming the edits it makes.
-/

namespace Sparkpipe.KvPageStore

open Function

/-- A write that the worker has still to record. -/
def Job.writing (job : Job) : Bool := job.writes && job.inFlight

theorem Job.isFor_iff {job : Job} {direction : Direction} {page generation : Nat} :
    job.isFor direction page generation = true ↔ job.state ≠ .free ∧ job.direction = direction ∧
      job.logicalPageIndex = page ∧ job.generation = generation := by
  simp only [Job.isFor, ne_eq, decide_not, Bool.and_eq_true, Bool.not_eq_eq_eq_not, Bool.not_true,
    decide_eq_false_iff_not, decide_eq_true_eq, and_assoc]

theorem Job.writing_iff {job : Job} : job.writing = true ↔
    job.direction = .deviceToHost ∧ (job.state = .queued ∨ job.state = .active) := by
  simp only [Job.writing, Job.writes, Job.inFlight, Bool.and_eq_true, Bool.or_eq_true, decide_eq_true_eq]

namespace PageStore

variable {geometry : Geometry} {before after store : PageStore} {index page slot : Nat}

/-- The two slot tables and the count of mapped slots. -/
structure Tabled (geometry : Geometry) (store : PageStore) : Prop where
  paired : Paired store.backingSlotsByLogicalPage store.logicalPagesByBackingSlot
  inRange : ∀ page slot, store.backingSlotsByLogicalPage page = some slot →
    page < geometry.logicalPageCapacity ∧ slot < geometry.backingSlotCapacity
  counted : store.backingPageCount =
    tally geometry.backingSlotCapacity fun slot => (store.logicalPagesByBackingSlot slot).isSome

/-- The invariant. -/
structure Sound (geometry : Geometry) (store : PageStore) : Prop where
  tabled : store.Tabled geometry
  mapped : ∀ page, (store.backingSlotsByLogicalPage page).isSome ↔
    store.validPages page = .valid ∨ store.validPages page = .reserved
  holds : ∀ index, (store.jobs index).writing →
    (store.jobs index).reservesBackingPage ∧
      store.backingSlotsByLogicalPage (store.jobs index).logicalPageIndex =
        some (store.jobs index).backingSlotIndex ∧
      store.validPages (store.jobs index).logicalPageIndex = .reserved
  alone : ∀ one other, (store.jobs one).writing → (store.jobs other).writing →
    (store.jobs one).logicalPageIndex = (store.jobs other).logicalPageIndex → one = other
  held : ∀ page, store.validPages page = .reserved →
    ∃ index, (store.jobs index).writing ∧ (store.jobs index).logicalPageIndex = page
  running : ∀ index, (store.jobs index).state = .active ↔ store.running = some index
  jobsInRange : ∀ index, (store.jobs index).state ≠ .free → index < geometry.transferCapacity
  keyed : ∀ one other page generation, (store.jobs one).isFor .deviceToHost page generation →
    (store.jobs other).isFor .deviceToHost page generation → one = other
  released : ∀ status ∈ store.releases, status = .ok

section Tables

theorem Tabled.congr (tabled : before.Tabled geometry)
    (slots : after.backingSlotsByLogicalPage = before.backingSlotsByLogicalPage)
    (pages : after.logicalPagesByBackingSlot = before.logicalPagesByBackingSlot)
    (count : after.backingPageCount = before.backingPageCount) : after.Tabled geometry := by
  constructor
  · rw [slots, pages]
    exact tabled.paired
  · rw [slots]
    exact tabled.inRange
  · rw [pages, count]
    exact tabled.counted

theorem Tabled.unmap (tabled : before.Tabled geometry)
    (linked : before.backingSlotsByLogicalPage page = some slot) :
    (before.unmap page slot).Tabled geometry := by
  have back := (tabled.paired page slot).mp linked
  constructor
  · exact tabled.paired.unlink linked
  · intro other otherSlot mapped
    change update before.backingSlotsByLogicalPage page none other = _ at mapped
    by_cases same : other = page
    · rw [same, update_self] at mapped
      cases mapped
    · rw [update_of_ne same] at mapped
      exact tabled.inRange other otherSlot mapped
  · have change := tally_update before.logicalPagesByBackingSlot none
      (fun record => Option.isSome record) (tabled.inRange page slot linked).2
    simp only [back, Option.isSome_some, Option.isSome_none, Bool.toNat_true, Bool.toNat_false] at change
    have total := tabled.counted
    change before.backingPageCount - 1 = tally geometry.backingSlotCapacity fun other =>
      (update before.logicalPagesByBackingSlot slot none other).isSome
    omega

/-- A mapped slot is counted. -/
theorem Tabled.counts (tabled : store.Tabled geometry)
    (linked : store.backingSlotsByLogicalPage page = some slot) : store.backingPageCount ≠ 0 := by
  have back := (tabled.paired page slot).mp linked
  have positive : 0 < tally geometry.backingSlotCapacity fun slot =>
      (store.logicalPagesByBackingSlot slot).isSome :=
    tally_pos (tabled.inRange page slot linked).2 (by rw [back]; rfl)
  have total := tabled.counted
  omega

theorem Tabled.reserve (tabled : before.Tabled geometry)
    (inRange : page < geometry.logicalPageCapacity) (slotInRange : slot < geometry.backingSlotCapacity)
    (unmapped : before.backingSlotsByLogicalPage page = none)
    (empty : before.logicalPagesByBackingSlot slot = none) :
    (before.reserve page slot).Tabled geometry := by
  constructor
  · exact tabled.paired.link unmapped empty
  · intro other otherSlot mapped
    change update before.backingSlotsByLogicalPage page (some slot) other = _ at mapped
    by_cases same : other = page
    · rw [same, update_self] at mapped
      cases mapped
      exact ⟨same ▸ inRange, slotInRange⟩
    · rw [update_of_ne same] at mapped
      exact tabled.inRange other otherSlot mapped
  · have change := tally_update before.logicalPagesByBackingSlot (some page)
      (fun record => Option.isSome record) slotInRange
    simp only [empty, Option.isSome_some, Option.isSome_none, Bool.toNat_true, Bool.toNat_false] at change
    have total := tabled.counted
    change before.backingPageCount + 1 = tally geometry.backingSlotCapacity fun other =>
      (update before.logicalPagesByBackingSlot slot (some page) other).isSome
    omega

theorem Tabled.move {toPage toGeneration : Nat} (tabled : before.Tabled geometry)
    (inRange : toPage < geometry.logicalPageCapacity)
    (linked : before.backingSlotsByLogicalPage page = some slot)
    (unmapped : before.backingSlotsByLogicalPage toPage = none) (different : page ≠ toPage) :
    (before.moveRecord page toPage toGeneration slot).Tabled geometry := by
  have back := (tabled.paired page slot).mp linked
  constructor
  · exact tabled.paired.move linked unmapped different
  · intro other otherSlot mapped
    change update (update before.backingSlotsByLogicalPage toPage (some slot))
      page none other = _ at mapped
    by_cases same : other = page
    · rw [same, update_self] at mapped
      cases mapped
    · rw [update_of_ne same] at mapped
      by_cases target : other = toPage
      · rw [target, update_self] at mapped
        cases mapped
        exact ⟨target ▸ inRange, (tabled.inRange page slot linked).2⟩
      · rw [update_of_ne target] at mapped
        exact tabled.inRange other otherSlot mapped
  · have change := tally_update before.logicalPagesByBackingSlot (some toPage)
      (fun record => Option.isSome record) (tabled.inRange page slot linked).2
    simp only [back, Option.isSome_some, Bool.toNat_true] at change
    have total := tabled.counted
    change before.backingPageCount = tally geometry.backingSlotCapacity fun other =>
      (update before.logicalPagesByBackingSlot slot (some toPage) other).isSome
    omega

/-- A release of a page's own slot succeeds. -/
theorem Tabled.release (tabled : store.Tabled geometry)
    (linked : store.backingSlotsByLogicalPage page = some slot) :
    store.releaseBackingSlot geometry page (some slot) = (.ok, (store.unmap page slot).logRelease .ok) := by
  obtain ⟨pageInRange, slotInRange⟩ := tabled.inRange page slot linked
  have back := (tabled.paired page slot).mp linked
  have counted := tabled.counts linked
  apply if_neg
  rintro (beyond | beyond | strange | strange | empty)
  · omega
  · omega
  · exact strange linked
  · exact strange back
  · exact counted empty

end Tables

theorem initial_sound (geometry : Geometry) : Sound geometry {} := by
  constructor
  · constructor
    · exact Paired.empty
    · intro page slot linked
      cases linked
    · exact (tally_eq_zero fun _ _ => rfl).symm
  · intro page
    constructor
    · intro impossible
      cases impossible
    · rintro (impossible | impossible) <;> cases impossible
  · intro index writing
    cases writing
  · intro one other writing
    cases writing
  · intro page impossible
    cases impossible
  · intro index
    constructor <;> intro impossible <;> cases impossible
  · intro index busy
    exact absurd rfl busy
  · intro one other page generation keyed
    cases keyed
  · intro status member
    cases member

namespace Sound

theorem unmapped (sound : store.Sound geometry) (invalid : store.validPages page = .invalid) :
    store.backingSlotsByLogicalPage page = none := by
  cases found : store.backingSlotsByLogicalPage page with
  | none => rfl
  | some slot =>
    have kept := (sound.mapped page).mp (by rw [found]; rfl)
    rw [invalid] at kept
    rcases kept with impossible | impossible <;> cases impossible

/-- Jobs for a page that is not reserved do not write. -/
theorem quiet (sound : store.Sound geometry) (other : store.validPages page ≠ .reserved)
    (here : (store.jobs index).logicalPageIndex = page) : (store.jobs index).writing = false := by
  cases writes : (store.jobs index).writing with
  | false => rfl
  | true => exact absurd (here ▸ (sound.holds index writes).2.2) other

/-- One job changes, and what it writes, if anything, stays the same. -/
theorem setJob (sound : before.Sound geometry) (index : Nat) (job : Job)
    (jobs : after.jobs = update before.jobs index job)
    (slots : after.backingSlotsByLogicalPage = before.backingSlotsByLogicalPage)
    (pages : after.logicalPagesByBackingSlot = before.logicalPagesByBackingSlot)
    (count : after.backingPageCount = before.backingPageCount)
    (states : after.validPages = before.validPages) (releases : after.releases = before.releases)
    (writing : job.writing = true → (before.jobs index).writing = true)
    (kept : (before.jobs index).writing = true → job.writing = true ∧
      job.logicalPageIndex = (before.jobs index).logicalPageIndex ∧
      job.reservesBackingPage = (before.jobs index).reservesBackingPage ∧
      job.backingSlotIndex = (before.jobs index).backingSlotIndex)
    (running : ∀ other, (after.jobs other).state = .active ↔ after.running = some other)
    (inRange : job.state ≠ .free → index < geometry.transferCapacity)
    (keys : ∀ page generation, job.isFor .deviceToHost page generation = true →
      (before.jobs index).isFor .deviceToHost page generation = true) : after.Sound geometry := by
  have others : ∀ other, other ≠ index → after.jobs other = before.jobs other := by
    intro other different
    rw [jobs, update_of_ne different]
  have here : after.jobs index = job := by rw [jobs, update_self]
  -- every writing job of the new store is one of the old store, with the same page and slot
  have same : ∀ other, (after.jobs other).writing = true → (before.jobs other).writing = true ∧
      (after.jobs other).logicalPageIndex = (before.jobs other).logicalPageIndex ∧
      (after.jobs other).reservesBackingPage = (before.jobs other).reservesBackingPage ∧
      (after.jobs other).backingSlotIndex = (before.jobs other).backingSlotIndex := by
    intro other writes
    by_cases changed : other = index
    · subst changed
      rw [here] at writes ⊢
      exact ⟨writing writes, (kept (writing writes)).2⟩
    · rw [others other changed] at writes ⊢
      exact ⟨writes, rfl, rfl, rfl⟩
  have sameKey : ∀ other page generation, (after.jobs other).isFor .deviceToHost page generation = true →
      (before.jobs other).isFor .deviceToHost page generation = true := by
    intro other page generation keyed
    by_cases changed : other = index
    · subst changed
      exact keys page generation (here ▸ keyed)
    · rwa [others other changed] at keyed
  constructor
  · exact sound.tabled.congr slots pages count
  · rw [slots, states]
    exact sound.mapped
  · intro other writes
    obtain ⟨old, page, reserves, slot⟩ := same other writes
    rw [slots, states, page, reserves, slot]
    exact sound.holds other old
  · intro one other writesOne writesOther samePage
    obtain ⟨oldOne, pageOne, -⟩ := same one writesOne
    obtain ⟨oldOther, pageOther, -⟩ := same other writesOther
    exact sound.alone one other oldOne oldOther (by rw [← pageOne, ← pageOther, samePage])
  · intro page reserved
    rw [states] at reserved
    obtain ⟨other, writes, onPage⟩ := sound.held page reserved
    refine ⟨other, ?_⟩
    by_cases changed : other = index
    · subst changed
      obtain ⟨still, samePage, -⟩ := kept writes
      rw [here]
      exact ⟨still, samePage.trans onPage⟩
    · rw [others other changed]
      exact ⟨writes, onPage⟩
  · exact running
  · intro other busy
    by_cases changed : other = index
    · subst changed
      rw [here] at busy
      exact inRange busy
    · rw [others other changed] at busy
      exact sound.jobsInRange other busy
  · intro one other page generation first second
    exact sound.keyed one other page generation (sameKey one page generation first)
      (sameKey other page generation second)
  · rw [releases]
    exact sound.released

/-- The records of some pages change, none of which is or becomes reserved. -/
theorem setRecords (sound : before.Sound geometry) (tabled : after.Tabled geometry)
    (jobs : after.jobs = before.jobs) (running : after.running = before.running)
    (releases : ∀ status ∈ after.releases, status = .ok)
    (records : ∀ page, after.validPages page = before.validPages page ∧
        after.backingSlotsByLogicalPage page = before.backingSlotsByLogicalPage page ∨
      before.validPages page ≠ .reserved ∧ after.validPages page ≠ .reserved ∧
        ((after.backingSlotsByLogicalPage page).isSome ↔ after.validPages page = .valid)) :
    after.Sound geometry := by
  constructor
  · exact tabled
  · intro page
    rcases records page with ⟨state, slots⟩ | ⟨-, quiet, mapped⟩
    · rw [state, slots]
      exact sound.mapped page
    · rw [mapped]
      exact ⟨.inl, fun either => either.resolve_right quiet⟩
  · intro index writes
    rw [jobs] at writes ⊢
    obtain ⟨reserves, slot, reserved⟩ := sound.holds index writes
    rcases records (before.jobs index).logicalPageIndex with ⟨state, slots⟩ | ⟨quiet, -⟩
    · rw [state, slots]
      exact ⟨reserves, slot, reserved⟩
    · exact absurd reserved quiet
  · rw [jobs]
    exact sound.alone
  · intro page reserved
    rw [jobs]
    rcases records page with ⟨state, -⟩ | ⟨-, quiet, -⟩
    · exact sound.held page (state ▸ reserved)
    · exact absurd reserved quiet
  · rw [jobs, running]
    exact sound.running
  · rw [jobs]
    exact sound.jobsInRange
  · rw [jobs]
    exact sound.keyed
  · exact releases

/-- One job and the record of its page change together: the job begins or stops to write the page. -/
theorem setWriter (sound : before.Sound geometry) (index page : Nat) (tabled : after.Tabled geometry)
    (releases : ∀ status ∈ after.releases, status = .ok)
    (otherJobs : ∀ other, other ≠ index → after.jobs other = before.jobs other)
    (otherPages : ∀ other, other ≠ page → after.validPages other = before.validPages other ∧
      after.backingSlotsByLogicalPage other = before.backingSlotsByLogicalPage other)
    (noOther : ∀ other, other ≠ index → (before.jobs other).writing →
      (before.jobs other).logicalPageIndex ≠ page)
    (wrote : (before.jobs index).writing → (before.jobs index).logicalPageIndex = page)
    (mapped : (after.backingSlotsByLogicalPage page).isSome ↔
      after.validPages page = .valid ∨ after.validPages page = .reserved)
    (writer : (after.jobs index).writing → (after.jobs index).logicalPageIndex = page ∧
      (after.jobs index).reservesBackingPage ∧
      after.backingSlotsByLogicalPage page = some (after.jobs index).backingSlotIndex ∧
      after.validPages page = .reserved)
    (written : after.validPages page = .reserved →
      (after.jobs index).writing ∧ (after.jobs index).logicalPageIndex = page)
    (running : ∀ other, (after.jobs other).state = .active ↔ after.running = some other)
    (inRange : (after.jobs index).state ≠ .free → index < geometry.transferCapacity)
    (keys : ∀ page generation, (after.jobs index).isFor .deviceToHost page generation = true →
      (before.jobs index).isFor .deviceToHost page generation = true ∨
        ∀ other, (before.jobs other).isFor .deviceToHost page generation = false) :
    after.Sound geometry := by
  -- a key of the changed job belongs to no other job
  have newKey : ∀ other page generation, other ≠ index →
      (after.jobs index).isFor .deviceToHost page generation = true →
      (before.jobs other).isFor .deviceToHost page generation = false := by
    intro other page generation different keyed
    rcases keys page generation keyed with old | fresh
    · cases found : (before.jobs other).isFor .deviceToHost page generation with
      | false => rfl
      | true => exact absurd (sound.keyed other index page generation found old) different
    · exact fresh other
  constructor
  · exact tabled
  · intro other
    by_cases here : other = page
    · rw [here]
      exact mapped
    · rw [(otherPages other here).1, (otherPages other here).2]
      exact sound.mapped other
  · intro other writes
    by_cases changed : other = index
    · subst changed
      obtain ⟨onPage, reserves, slot, reserved⟩ := writer writes
      rw [onPage]
      exact ⟨reserves, slot, reserved⟩
    · rw [otherJobs other changed] at writes ⊢
      obtain ⟨state, slots⟩ := otherPages _ (noOther other changed writes)
      rw [state, slots]
      exact sound.holds other writes
  · intro one other writesOne writesOther samePage
    by_cases first : one = index
    · by_cases second : other = index
      · rw [first, second]
      · subst first
        rw [otherJobs other second] at writesOther samePage
        exact absurd ((writer writesOne).1.symm.trans samePage).symm (noOther other second writesOther)
    · by_cases second : other = index
      · subst second
        rw [otherJobs one first] at writesOne samePage
        exact absurd (samePage.trans (writer writesOther).1) (noOther one first writesOne)
      · rw [otherJobs one first] at writesOne samePage
        rw [otherJobs other second] at writesOther samePage
        exact sound.alone one other writesOne writesOther samePage
  · intro other reserved
    by_cases here : other = page
    · rw [here] at reserved ⊢
      exact ⟨index, written reserved⟩
    · rw [(otherPages other here).1] at reserved
      obtain ⟨job, writes, onPage⟩ := sound.held other reserved
      by_cases changed : job = index
      · subst changed
        exact absurd (onPage.symm.trans (wrote writes)) here
      · refine ⟨job, ?_⟩
        rw [otherJobs job changed]
        exact ⟨writes, onPage⟩
  · exact running
  · intro other busy
    by_cases changed : other = index
    · subst changed
      exact inRange busy
    · rw [otherJobs other changed] at busy
      exact sound.jobsInRange other busy
  · intro one other page generation first second
    by_cases firstIs : one = index
    · by_cases secondIs : other = index
      · rw [firstIs, secondIs]
      · rw [otherJobs other secondIs, newKey other page generation secondIs (firstIs ▸ first)] at second
        cases second
    · by_cases secondIs : other = index
      · rw [otherJobs one firstIs, newKey one page generation firstIs (secondIs ▸ second)] at first
        cases first
      · rw [otherJobs one firstIs] at first
        rw [otherJobs other secondIs] at second
        exact sound.keyed one other page generation first second
  · exact releases

theorem logged (sound : store.Sound geometry) :
    ∀ status ∈ SparkStatus.ok :: store.releases, status = .ok := by
  intro status member
  rcases List.mem_cons.mp member with here | earlier
  · exact here
  · exact sound.released status earlier

end Sound

end PageStore

end Sparkpipe.KvPageStore
