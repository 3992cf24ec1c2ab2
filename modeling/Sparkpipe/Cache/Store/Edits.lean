import Sparkpipe.Cache.Store.Sound
import Mathlib.Logic.Relation

/-!
# The edits of the page store

Each section of the owner makes a few of the edits listed here, one after the other;
which ones it may make says what the section can do to a store.
-/

namespace Sparkpipe.KvPageStore

open Function

/-- The kinds of edits of the owner's sections. -/
inductive Kind where
  | clear (index : Nat)
  | forget (page : Nat)
  | release (page : Nat)
  | dropQueued (index : Nat)
  | supersede (index : Nat)
  | queueWrite (write : PageStore.Write)
  | queueRead (page generation : Nat)
  | move (fromPage toPage toGeneration : Nat)
  deriving DecidableEq

namespace PageStore

open Kind

/-- A change that a section of the owner makes to a sound store. -/
inductive Edit (geometry : Geometry) : Kind → PageStore → PageStore → Prop where
  | clear {store : PageStore} {index : Nat} (settled : (store.jobs index).inFlight = false) :
      Edit geometry (.clear index) store (store.clearJob index)
  | forget {store : PageStore} {page : Nat} (failed : store.validPages page = .writeFailed) :
      Edit geometry (.forget page) store (store.setPage page .invalid 0)
  | release {store : PageStore} {page slot : Nat} (valid : store.validPages page = .valid)
      (linked : store.backingSlotsByLogicalPage page = some slot) :
      Edit geometry (.release page) store ((store.unmap page slot).logRelease .ok)
  | dropQueued {store : PageStore} {index : Nat} (queued : (store.jobs index).state = .queued)
      (writes : (store.jobs index).writing) :
      Edit geometry (.dropQueued index) store
        (((store.unmap (store.jobs index).logicalPageIndex
          (store.jobs index).backingSlotIndex).logRelease .ok).clearJob index)
  | supersede {store : PageStore} {index : Nat} (active : (store.jobs index).state = .active) :
      Edit geometry (.supersede index) store
        (store.setJob index { store.jobs index with superseded := true })
  | queueWrite {store : PageStore} {index slot : Nat} {write : Write}
      (free : (store.jobs index).state = .free) (inRange : index < geometry.transferCapacity)
      (pageInRange : write.page < geometry.logicalPageCapacity)
      (slotInRange : slot < geometry.backingSlotCapacity)
      (invalid : store.validPages write.page = .invalid)
      (empty : store.logicalPagesByBackingSlot slot = none)
      (fresh : ∀ other,
        (store.jobs other).isFor .deviceToHost write.page write.generation = false) :
      Edit geometry (.queueWrite write) store
        ((store.reserve write.page slot).setJob index
          { writeJob write with
            reservesBackingPage := true
            backingSlotIndex := slot })
  | queueRead {store : PageStore} {index page generation : Nat} {job : Job}
      (free : (store.jobs index).state = .free) (inRange : index < geometry.transferCapacity)
      (queued : job.state = .queued) (reads : job.isFor .hostToDevice page generation = true)
      (linked : store.backingSlotsByLogicalPage page = some job.backingSlotIndex)
      (digest : job.digest = store.slotDigests job.backingSlotIndex)
      (intact : job.storageFailed = false) :
      Edit geometry (.queueRead page generation) store (store.setJob index job)
  | move {store : PageStore} {fromPage toPage toGeneration slot : Nat} (different : fromPage ≠ toPage)
      (inRange : toPage < geometry.logicalPageCapacity)
      (valid : store.validPages fromPage = .valid)
      (linked : store.backingSlotsByLogicalPage fromPage = some slot)
      (invalid : store.validPages toPage = .invalid) :
      Edit geometry (.move fromPage toPage toGeneration) store
        (store.moveRecord fromPage toPage toGeneration slot)

/-- Edits of the allowed kinds, one after the other. -/
def Edits (geometry : Geometry) (allowed : Kind → Prop) : PageStore → PageStore → Prop :=
  Relation.ReflTransGen fun before after => ∃ kind, allowed kind ∧ Edit geometry kind before after

variable {geometry : Geometry} {before middle after store : PageStore} {index page slot generation : Nat}
  {kind : Kind} {allowed : Kind → Prop} {write : Write}

theorem Edits.none (store : PageStore) : Edits geometry allowed store store := .refl

theorem Edits.one (edit : Edit geometry kind before after) (allow : allowed kind) :
    Edits geometry allowed before after := .single ⟨kind, allow, edit⟩

theorem Edits.andThen (first : Edits geometry allowed before middle)
    (second : Edits geometry allowed middle after) : Edits geometry allowed before after :=
  first.trans second

theorem Edits.widen {wider : Kind → Prop} (edits : Edits geometry allowed before after)
    (more : ∀ kind, allowed kind → wider kind) : Edits geometry wider before after := by
  induction edits with
  | refl => exact .refl
  | tail _ last ih =>
    obtain ⟨kind, allow, edit⟩ := last
    exact ih.tail ⟨kind, more kind allow, edit⟩

/-- What every allowed edit keeps, the edits keep. -/
theorem Edits.keep {P : PageStore → Prop} (edits : Edits geometry allowed before after)
    (step : ∀ kind before after, allowed kind → Edit geometry kind before after → P before → P after)
    (start : P before) : P after := by
  induction edits with
  | refl => exact start
  | tail _ last ih =>
    obtain ⟨kind, allow, edit⟩ := last
    exact step kind _ _ allow edit ih

section Sound

theorem Job.settled_not_writing {job : Job} (settled : job.inFlight = false) : job.writing = false := by
  rw [Job.writing, settled, Bool.and_false]

theorem Job.settled_not_active {job : Job} (settled : job.inFlight = false) : job.state ≠ .active := by
  intro active
  rw [Job.inFlight, active] at settled
  cases settled

theorem Job.free_not_inFlight {job : Job} (free : job.state = .free) : job.inFlight = false := by
  rw [Job.inFlight, free]
  rfl

theorem Job.free_not_writing {job : Job} (free : job.state = .free) : job.writing = false :=
  settled_not_writing (free_not_inFlight free)

/-- A job that is neither active before nor after a change leaves the worker's job as it was. -/
theorem Sound.runningKept {job : Job} (sound : store.Sound geometry)
    (before : (store.jobs index).state ≠ .active) (after : job.state ≠ .active) (other : Nat) :
    ((update store.jobs index job) other).state = .active ↔ store.running = some other := by
  by_cases changed : other = index
  · subst changed
    rw [update_self]
    constructor
    · intro active
      exact absurd active after
    · intro runs
      exact absurd ((sound.running other).mpr runs) before
  · rw [update_of_ne changed]
    exact sound.running other

theorem Sound.edit (sound : before.Sound geometry) (edit : Edit geometry kind before after) :
    after.Sound geometry := by
  cases edit with
  | @clear _ index settled =>
    refine sound.setJob index {} rfl rfl rfl rfl rfl rfl ?_ ?_ ?_ ?_ ?_
    · intro impossible
      cases impossible
    · intro writes
      rw [Job.settled_not_writing settled] at writes
      cases writes
    · exact sound.runningKept (Job.settled_not_active settled) (by decide)
    · intro busy
      exact absurd rfl busy
    · intro page generation keyed
      cases keyed
  | @forget _ page failed =>
    have unreserved : before.validPages page ≠ .reserved := by
      rw [failed]
      decide
    have unmapped : before.backingSlotsByLogicalPage page = Option.none := by
      cases found : before.backingSlotsByLogicalPage page with
      | none => rfl
      | some slot =>
        have kept := (sound.mapped page).mp (by rw [found]; rfl)
        rw [failed] at kept
        rcases kept with impossible | impossible <;> cases impossible
    refine sound.setRecords (sound.tabled.congr rfl rfl rfl) rfl rfl sound.released fun other => ?_
    by_cases here : other = page
    · subst here
      refine .inr ⟨unreserved, ?_⟩
      change update before.validPages other .invalid other ≠ .reserved ∧
        ((before.backingSlotsByLogicalPage other).isSome ↔
          update before.validPages other .invalid other = .valid)
      rw [update_self, unmapped]
      decide
    · exact .inl ⟨update_of_ne here .., rfl⟩
  | @release _ page slot valid linked =>
    have unreserved : before.validPages page ≠ .reserved := by
      rw [valid]
      decide
    refine sound.setRecords ((sound.tabled.unmap linked).congr rfl rfl rfl) rfl rfl sound.logged
      fun other => ?_
    by_cases here : other = page
    · subst here
      refine .inr ⟨unreserved, ?_⟩
      change update before.validPages other .invalid other ≠ .reserved ∧
        ((update before.backingSlotsByLogicalPage other Option.none other).isSome ↔
          update before.validPages other .invalid other = .valid)
      rw [update_self, update_self]
      decide
    · exact .inl ⟨update_of_ne here .., update_of_ne here ..⟩
  | @dropQueued _ index queued writes =>
    obtain ⟨reserves, linked, reserved⟩ := sound.holds index writes
    have notActive : (before.jobs index).state ≠ .active := by
      rw [queued]
      decide
    refine sound.setWriter index (before.jobs index).logicalPageIndex
      ((sound.tabled.unmap linked).congr rfl rfl rfl) sound.logged
      (fun other different => update_of_ne different ..)
      (fun other different => ⟨update_of_ne different .., update_of_ne different ..⟩)
      (fun other different writesOther samePage => different (sound.alone other index writesOther writes samePage))
      (fun _ => rfl) ?_ ?_ ?_ (sound.runningKept notActive (by decide)) ?_ ?_
    · change (update before.backingSlotsByLogicalPage _ Option.none _).isSome ↔
        update before.validPages _ PageState.invalid _ = .valid ∨
          update before.validPages _ PageState.invalid _ = .reserved
      rw [update_self, update_self]
      decide
    · change (update before.jobs index {} index).writing → _
      rw [update_self]
      intro impossible
      cases impossible
    · change update before.validPages _ PageState.invalid _ = .reserved → _
      rw [update_self]
      intro impossible
      cases impossible
    · change (update before.jobs index {} index).state ≠ .free → _
      rw [update_self]
      intro busy
      exact absurd rfl busy
    · intro page generation
      change (update before.jobs index {} index).isFor _ _ _ = true → _
      rw [update_self]
      intro impossible
      cases impossible
  | @supersede _ index active =>
    refine sound.setJob index { before.jobs index with superseded := true } rfl rfl rfl rfl rfl rfl
      ?_ ?_ ?_ ?_ ?_
    · exact fun writes => writes
    · exact fun writes => ⟨writes, rfl, rfl, rfl⟩
    · intro other
      change (update before.jobs index _ other).state = .active ↔ _
      by_cases changed : other = index
      · subst changed
        rw [update_self]
        exact sound.running other
      · rw [update_of_ne changed]
        exact sound.running other
    · exact sound.jobsInRange index
    · exact fun page generation keyed => keyed
  | @queueWrite _ index slot write free inRange pageInRange slotInRange invalid empty fresh =>
    have unmapped := sound.unmapped invalid
    have notActive : (before.jobs index).state ≠ .active := by
      rw [free]
      decide
    have unreserved : before.validPages write.page ≠ .reserved := by
      rw [invalid]
      decide
    refine sound.setWriter index write.page
      ((sound.tabled.reserve pageInRange slotInRange unmapped empty).congr rfl rfl rfl) sound.released
      (fun other different => update_of_ne different ..)
      (fun other different => ⟨update_of_ne different .., update_of_ne different ..⟩)
      (fun other different writesOther samePage => ?_) (fun writes => ?_) ?_ ?_ ?_
      (sound.runningKept notActive JobState.noConfusion) ?_ ?_
    · rw [sound.quiet unreserved samePage] at writesOther
      cases writesOther
    · rw [Job.free_not_writing free] at writes
      cases writes
    · change (update before.backingSlotsByLogicalPage _ (some slot) _).isSome ↔
        update before.validPages _ PageState.reserved _ = .valid ∨
          update before.validPages _ PageState.reserved _ = .reserved
      rw [update_self, update_self]
      exact ⟨fun _ => .inr rfl, fun _ => rfl⟩
    · intro _
      change (update before.jobs index _ index).logicalPageIndex = _ ∧
        (update before.jobs index _ index).reservesBackingPage ∧
        update before.backingSlotsByLogicalPage write.page (some slot) write.page =
          some (update before.jobs index _ index).backingSlotIndex ∧
        update before.validPages write.page PageState.reserved write.page = .reserved
      rw [update_self, update_self, update_self]
      exact ⟨rfl, rfl, rfl, rfl⟩
    · intro _
      change (update before.jobs index _ index).writing ∧
        (update before.jobs index _ index).logicalPageIndex = _
      rw [update_self]
      exact ⟨rfl, rfl⟩
    · exact fun _ => inRange
    · intro page generation
      change (update before.jobs index _ index).isFor _ _ _ = true → _
      rw [update_self]
      intro keyed
      obtain ⟨-, -, rfl, rfl⟩ := Job.isFor_iff.mp keyed
      exact .inr fresh
  | @queueRead _ index page generation job free inRange queued reads linked _ _ =>
    obtain ⟨-, direction, -⟩ := Job.isFor_iff.mp reads
    have notActive : (before.jobs index).state ≠ .active := by
      rw [free]
      decide
    have readsOnly : job.writing = false := by
      rw [Job.writing, Job.writes, direction]
      rfl
    refine sound.setJob index job rfl rfl rfl rfl rfl rfl ?_ ?_ ?_ ?_ ?_
    · intro writes
      rw [readsOnly] at writes
      cases writes
    · intro writes
      rw [Job.free_not_writing free] at writes
      cases writes
    · exact sound.runningKept notActive (by rw [queued]; decide)
    · exact fun _ => inRange
    · intro page generation keyed
      exact absurd (direction.symm.trans (Job.isFor_iff.mp keyed).2.1) Direction.noConfusion
  | @move _ fromPage toPage toGeneration slot different inRange valid linked invalid =>
    have fromUnreserved : before.validPages fromPage ≠ .reserved := by
      rw [valid]
      decide
    have toUnreserved : before.validPages toPage ≠ .reserved := by
      rw [invalid]
      decide
    have unmapped := sound.unmapped invalid
    refine sound.setRecords (sound.tabled.move inRange linked unmapped different) rfl rfl
      sound.released fun other => ?_
    change update (update before.validPages toPage .valid) fromPage .invalid other =
          before.validPages other ∧
        update (update before.backingSlotsByLogicalPage toPage (some slot))
          fromPage Option.none other = before.backingSlotsByLogicalPage other ∨
      before.validPages other ≠ .reserved ∧
        update (update before.validPages toPage .valid) fromPage .invalid other ≠
          .reserved ∧
        ((update (update before.backingSlotsByLogicalPage toPage (some slot))
            fromPage Option.none other).isSome ↔
          update (update before.validPages toPage .valid) fromPage .invalid other =
            .valid)
    by_cases source : other = fromPage
    · subst source
      refine .inr ⟨fromUnreserved, ?_⟩
      rw [update_self, update_self]
      decide
    · rw [update_of_ne source, update_of_ne source]
      by_cases target : other = toPage
      · subst target
        refine .inr ⟨toUnreserved, ?_⟩
        rw [update_self, update_self]
        exact ⟨PageState.noConfusion, fun _ => rfl, fun _ => rfl⟩
      · rw [update_of_ne target, update_of_ne target]
        exact .inl ⟨rfl, rfl⟩

theorem Sound.edits (sound : before.Sound geometry) (edits : Edits geometry allowed before after) :
    after.Sound geometry :=
  edits.keep (fun _ _ _ _ edit sound => sound.edit edit) sound

end Sound

end PageStore

end Sparkpipe.KvPageStore
