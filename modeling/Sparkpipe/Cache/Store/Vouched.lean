import Sparkpipe.Cache.Store.Copies
import Sparkpipe.Cache.Store.Interleavings

/-!
# No stale page comes back

The rest of the steps: a record moves to another page, and the worker takes and records
jobs. A run whose steps are all careful tells its callers the truth about every copy.
-/

namespace Sparkpipe.KvPageStore

open Function

namespace World

open PageStore

variable {geometry : Geometry} {digest : PageBytes → Digest} {world : World} {key source target : Key}
  {index : Nat}

section Rekey

/-- A rekey changes nothing, or it moves a valid record to a page without one; no job names
either page. -/
theorem rekey_path (geometry : Geometry) (store : PageStore)
    (fromPage fromGeneration toPage toGeneration : Nat) :
    (store.rekey geometry fromPage fromGeneration toPage toGeneration).1 ≠ .ok ∧
      (store.rekey geometry fromPage fromGeneration toPage toGeneration).2 = store ∨
    ∃ slot, store.rekey geometry fromPage fromGeneration toPage toGeneration =
        (.ok, store.moveRecord fromPage toPage toGeneration slot) ∧
      fromPage ≠ toPage ∧ toPage < geometry.logicalPageCapacity ∧
      store.hasJobOn geometry fromPage = false ∧ store.hasJobOn geometry toPage = false ∧
      store.backingSlotsByLogicalPage fromPage = some slot ∧ store.validPages fromPage = .valid ∧
      store.generations fromPage = fromGeneration ∧ store.validPages toPage = .invalid := by
  unfold PageStore.rekey
  split
  · exact .inl ⟨SparkStatus.noConfusion, rfl⟩
  · rename_i good
    simp only [not_or, not_le] at good
    obtain ⟨-, -, different, -, inRange⟩ := good
    split
    · exact .inl ⟨SparkStatus.noConfusion, rfl⟩
    · rename_i idle
      simp only [Bool.or_eq_true, not_or, Bool.not_eq_true] at idle
      cases linked : store.backingSlotsByLogicalPage fromPage with
      | none => exact .inl ⟨SparkStatus.noConfusion, rfl⟩
      | some slot =>
        dsimp only
        split
        · rename_i movable
          exact .inr ⟨slot, rfl, different, inRange, idle.1, idle.2, rfl, movable.1, movable.2.1,
            movable.2.2.2.2.1⟩
        · exact .inl ⟨SparkStatus.noConfusion, rfl⟩

theorem Kept.rekey (kept : Kept geometry digest world) (fromUnwritten : world.writing source = false)
    (toUnwritten : world.writing target = false) (junk : PageBytes) :
    Kept geometry digest (world.rekey geometry source target junk) := by
  unfold World.rekey
  split
  · exact kept
  · rename_i notIdle
    have idle := not_not.mp notIdle
    rcases rekey_path geometry world.store source.1 source.2 target.1 target.2 with ⟨refused, same⟩ |
      ⟨slot, moves, different, inRange, fromFree, toFree, linked, valid, generation, invalid⟩
    · dsimp only
      rw [if_neg refused, same]
      exact kept
    · rw [moves]
      dsimp only
      rw [if_pos rfl]
      have copied := kept.copied
      have moved : (world.store.moveRecord source.1 target.1 target.2 slot).Sound geometry :=
        kept.sound.edit (.move different inRange valid linked invalid)
      -- no job that is not free names the page that is moved or the one it becomes
      have named : ∀ index, (world.store.jobs index).state ≠ .free →
          (world.store.jobs index).logicalPageIndex ≠ source.1 ∧
            (world.store.jobs index).logicalPageIndex ≠ target.1 := by
        intro index busy
        exact ⟨fun here => busy (kept.sound.hasJobOn_false fromFree here),
          fun here => busy (kept.sound.hasJobOn_false toFree here)⟩
      have elsewhere : ∀ index, (world.store.jobs index).state ≠ .free →
          (world.store.jobs index).key ≠ target :=
        fun index busy here => (named index busy).2 (congrArg Prod.fst here)
      have others : ∀ page, page ≠ source.1 → page ≠ target.1 →
          update (update world.store.validPages target.1 .valid) source.1 .invalid page =
              world.store.validPages page ∧
            update (update world.store.generations target.1 target.2) source.1 0 page =
              world.store.generations page ∧
            update (update world.store.backingSlotsByLogicalPage target.1 (some slot))
              source.1 none page = world.store.backingSlotsByLogicalPage page := by
        intro page notFrom notTo
        simp only [update_of_ne notFrom, update_of_ne notTo, and_self]
      refine ⟨moved, {
        device := fun other isResident unwritten => ?_
        pinned := fun other isWritten => ?_
        valid := fun page other isValid isLinked => ?_
        writer := fun index writing current => ?_
        torn := copied.torn
        completed := fun index complete writes succeeded => ?_
        reading := fun index flies reads => ?_
        readKeyed := copied.readKeyed
        directed := copied.directed
        delivered := fun index complete reads succeeded => ?_
        starting := fun other starts => ?_ }⟩
      · change update world.resident target false other = true at isResident
        change update world.device target junk other =
          update world.settled target (world.settled source) other
        have notTarget : other ≠ target := by
          rintro rfl
          rw [update_self] at isResident
          cases isResident
        rw [update_of_ne notTarget] at isResident
        rw [update_of_ne notTarget, update_of_ne notTarget]
        exact copied.device other isResident unwritten
      · change world.writing other = true at isWritten
        change update world.resident target false other = true
        have notTarget : other ≠ target := by
          rintro rfl
          rw [toUnwritten] at isWritten
          cases isWritten
        rw [update_of_ne notTarget]
        exact copied.pinned other isWritten
      · change update (update world.store.validPages target.1 .valid) source.1 .invalid page =
          .valid at isValid
        change update (update world.store.backingSlotsByLogicalPage target.1 (some slot))
          source.1 none page = some other at isLinked
        change world.store.slotDigests other = digest (world.file other) ∧
          (world.writing (page, update (update world.store.generations target.1 target.2)
              source.1 0 page) = false →
            world.file other = update world.settled target (world.settled source)
              (page, update (update world.store.generations target.1 target.2)
                source.1 0 page))
        have notFrom : page ≠ source.1 := by
          rintro rfl
          rw [update_self] at isValid
          cases isValid
        by_cases here : page = target.1
        · subst here
          rw [update_of_ne notFrom, update_self] at isLinked ⊢
          cases isLinked
          obtain ⟨digested, holds⟩ := copied.valid source.1 slot valid linked
          refine ⟨digested, fun _ => ?_⟩
          rw [show (target.1, target.2) = target from rfl, update_self]
          rw [generation] at holds
          exact holds fromUnwritten
        · obtain ⟨states, generations, slots⟩ := others page notFrom here
          rw [states] at isValid
          rw [slots] at isLinked
          rw [generations]
          have notTarget : (page, world.store.generations page) ≠ target := fun same =>
            here (congrArg Prod.fst same)
          rw [update_of_ne notTarget]
          exact copied.valid page other isValid isLinked
      · change update world.resident target false (world.store.jobs index).key = true
        change (world.store.jobs index).writing = true at writing
        have busy : (world.store.jobs index).state ≠ .free := by
          intro free
          rw [Job.free_not_writing free] at writing
          cases writing
        rw [update_of_ne (elsewhere index busy)]
        exact copied.writer index writing current
      · change (world.store.jobs index).state = .complete at complete
        obtain ⟨notFrom, notTo⟩ := named index (by rw [complete]; decide)
        obtain ⟨states, generations, -⟩ := others _ notFrom notTo
        obtain ⟨wasValid, atGeneration⟩ := copied.completed index complete writes succeeded
        exact ⟨states.trans wasValid, generations.trans atGeneration⟩
      · change (world.store.jobs index).inFlight = true at flies
        have busy : (world.store.jobs index).state ≠ .free := by
          intro free
          rw [Job.free_not_inFlight free] at flies
          cases flies
        obtain ⟨notFrom, notTo⟩ := named index busy
        obtain ⟨states, generations, slots⟩ := others _ notFrom notTo
        obtain ⟨wasValid, atGeneration, isLinked, digested, holds, intact⟩ := copied.reading index flies reads
        exact ⟨states.trans wasValid, generations.trans atGeneration, slots.trans isLinked, digested,
          holds.trans (update_of_ne (elsewhere index busy) ..).symm, intact⟩
      · change (world.store.jobs index).state = .complete at complete
        change world.delivered index =
          update world.settled target (world.settled source) (world.store.jobs index).key
        rw [update_of_ne (elsewhere index (by rw [complete]; decide))]
        exact copied.delivered index complete reads succeeded
      · change world.phase = .starting other at starts
        rw [idle] at starts
        cases starts

end Rekey

section Worker

/-- The worker takes a job: it is active instead of queued, and no page has changed under it. -/
theorem Kept.take (kept : Kept geometry digest world) : Kept geometry digest (world.take geometry) := by
  unfold World.take
  split
  · rename_i rests
    have sound := take_sound kept.sound
    have copied := kept.copied
    have fresh : ∀ index, world.store.running ≠ some index := by
      intro index runs
      rw [rests] at runs
      cases runs
    unfold PageStore.take at sound ⊢
    rw [rests] at sound ⊢
    cases found : world.store.findQueuedJob geometry with
    | none =>
      refine ⟨kept.sound, { copied with torn := fun index runs => ?_ }⟩
      exact absurd runs (fresh index)
    | some index =>
      rw [found] at sound
      have queued := findQueuedJob_some found
      have busy : (world.store.jobs index).state ≠ .free := by
        rw [queued]
        decide
      refine ⟨sound, copied.changeJob ⟨rfl, rfl, rfl, rfl, rfl, rfl, rfl, rfl, rfl, rfl⟩ rfl
        (fun other _ => ⟨fun _ torn => absurd torn Bool.false_ne_true, rfl⟩) ?_ ?_⟩
      · have flying : (world.store.jobs index).inFlight = true := by
          rw [Job.inFlight, queued]
          rfl
        exact {
          writer := fun writing current => copied.writer index
            (Job.writing_iff.mpr ⟨(Job.writing_iff.mp writing).1, .inl queued⟩) current
          torn := fun _ _ _ torn => absurd torn Bool.false_ne_true
          completed := fun complete => absurd complete JobState.noConfusion
          reading := fun _ reads => copied.reading index flying reads
          directed := fun _ => copied.directed index busy
          delivered := fun complete => absurd complete JobState.noConfusion }
      · intro page generation keyed
        exact .inl (Job.isFor_iff.mpr ⟨busy, (Job.isFor_iff.mp keyed).2⟩)
  · exact kept

/-- A write leaves the other slots of the file alone. When it succeeds, its digest is that of what
it has put in its own, which is the page unless that changed under way. -/
theorem executeWrite_file (digest : PageBytes → Digest) (world : World) (job : Job) (transfer : Transfer) :
    (∀ other, other ≠ job.backingSlotIndex →
      (world.executeWrite digest job transfer).2 other = world.file other) ∧
    ((world.executeWrite digest job transfer).1.status = .ok →
      (world.executeWrite digest job transfer).1.digest =
          digest ((world.executeWrite digest job transfer).2 job.backingSlotIndex) ∧
        (world.changed = false →
          (world.executeWrite digest job transfer).2 job.backingSlotIndex = world.device job.key)) := by
  unfold executeWrite
  dsimp only
  split
  · rename_i failed
    exact ⟨fun _ _ => rfl, fun succeeded => absurd succeeded failed⟩
  · split
    · rename_i failed
      exact ⟨fun other different => update_of_ne different .., fun succeeded => absurd succeeded failed⟩
    · refine ⟨fun other different => update_of_ne different .., fun _ => ?_⟩
      dsimp only
      rw [update_self]
      refine ⟨rfl, fun unchanged => ?_⟩
      rw [unchanged]
      rfl

/-- Pages with slots of their own do not share them. -/
theorem Kept.slotApart (kept : Kept geometry digest world) {page other slot otherSlot : Nat}
    (linked : world.store.backingSlotsByLogicalPage page = some slot)
    (otherLinked : world.store.backingSlotsByLogicalPage other = some otherSlot) (different : other ≠ page) :
    otherSlot ≠ slot := by
  rintro rfl
  have paired := kept.sound.tabled.paired
  have back := (paired other otherSlot).mp otherLinked
  rw [(paired page otherSlot).mp linked] at back
  exact different (Option.some.inj back).symm

theorem Kept.recordWrite (kept : Kept geometry digest world) (runs : world.store.running = some index)
    (writes : (world.store.jobs index).direction = .deviceToHost) (transfer : Transfer) :
    Kept geometry digest { world with
      store := world.store.record geometry (world.executeWrite digest (world.store.jobs index) transfer).1
      file := (world.executeWrite digest (world.store.jobs index) transfer).2 } := by
  obtain ⟨untouched, stored⟩ := executeWrite_file digest world (world.store.jobs index) transfer
  have sound := recordWrite_sound kept.sound runs writes
    (world.executeWrite digest (world.store.jobs index) transfer).1
  obtain ⟨status, jobs, rests, apart, ends⟩ := record_write kept.sound runs writes
    (world.executeWrite digest (world.store.jobs index) transfer).1
  generalize world.store.record geometry (world.executeWrite digest (world.store.jobs index) transfer).1 = after
    at sound jobs rests apart ends ⊢
  generalize world.executeWrite digest (world.store.jobs index) transfer = execution
    at untouched stored jobs ends ⊢
  have copied := kept.copied
  have active := (kept.sound.running index).mpr runs
  have busy : (world.store.jobs index).state ≠ .free := by
    rw [active]
    decide
  have writing := Job.writing_iff.mpr ⟨writes, .inr active⟩
  obtain ⟨-, linked, reserved⟩ := kept.sound.holds index writing
  -- the page was reserved, so whatever is valid is another page, in another slot
  have elsewhere : ∀ page, world.store.validPages page = .valid →
      page ≠ (world.store.jobs index).logicalPageIndex := by
    rintro page valid rfl
    rw [reserved] at valid
    cases valid
  have others : ∀ other, other ≠ index → after.jobs other = world.store.jobs other := by
    intro other different
    rw [jobs, update_of_ne different]
  have here : after.jobs index = recorded (world.store.jobs index) execution.1 status := by
    rw [jobs, update_self]
  have old : ∀ job page generation, (after.jobs job).isFor .hostToDevice page generation = true →
      (world.store.jobs job).isFor .hostToDevice page generation = true := by
    intro job page generation keyed
    by_cases same : job = index
    · rw [same, here] at keyed
      exact same ▸ Job.isFor_iff.mpr ⟨busy, (Job.isFor_iff.mp keyed).2⟩
    · rwa [others job same] at keyed
  refine ⟨sound, .of_parts (fun other => ?_) copied.device copied.pinned ?_ ?_ ?_⟩
  · change JobCopied _ other (after.jobs other)
    by_cases same : other = index
    · subst same
      rw [here]
      have ended : (recorded (world.store.jobs other) execution.1 status).inFlight = false := rfl
      exact {
        writer := fun isWriting => by
          rw [Job.settled_not_writing ended] at isWriting
          cases isWriting
        torn := fun isRunning => absurd (rests.symm.trans isRunning) nofun
        completed := fun _ _ succeeded => by
          change status = .ok at succeeded
          rcases ends with ⟨failed, -⟩ | ⟨-, -, -, atGeneration, isValid, -⟩
          · exact absurd succeeded failed
          · exact ⟨isValid, atGeneration⟩
        reading := fun flies => absurd (ended.symm.trans flies) Bool.false_ne_true
        directed := fun _ => copied.directed other busy
        delivered := fun _ reads => absurd (writes.symm.trans reads) Direction.noConfusion }
    · rw [others other same]
      have held := copied.job other
      refine { held with
        torn := fun isRunning => absurd (rests.symm.trans isRunning) nofun
        completed := fun complete direction succeeded => ?_
        reading := fun flies reads => ?_ }
      · obtain ⟨isValid, atGeneration⟩ := held.completed complete direction succeeded
        have onOther := elsewhere _ isValid
        exact ⟨(apart.states _ onOther).trans isValid, (apart.generations _ onOther).trans atGeneration⟩
      · obtain ⟨isValid, atGeneration, isLinked, digested, holds, intact⟩ := held.reading flies reads
        have onOther := elsewhere _ isValid
        have otherSlot := kept.slotApart linked isLinked onOther
        exact ⟨(apart.states _ onOther).trans isValid, (apart.generations _ onOther).trans atGeneration,
          (apart.slots _ onOther).trans isLinked, digested.trans (apart.digests _ otherSlot).symm,
          (untouched _ otherSlot).trans holds, intact⟩
  · intro page slot isValid isLinked
    change after.validPages page = .valid at isValid
    change after.backingSlotsByLogicalPage page = some slot at isLinked
    change after.slotDigests slot = digest (execution.2 slot) ∧
      (world.writing (page, after.generations page) = false →
        execution.2 slot = world.settled (page, after.generations page))
    by_cases onPage : page = (world.store.jobs index).logicalPageIndex
    · subst onPage
      rcases ends with ⟨-, invalid⟩ | ⟨-, current, succeeded, atGeneration, -, hasSlot, digested⟩
      · exact absurd isValid invalid
      · rw [hasSlot] at isLinked
        cases isLinked
        obtain ⟨sameDigest, holds⟩ := stored succeeded
        refine ⟨digested.trans sameDigest, fun unwritten => ?_⟩
        rw [atGeneration] at unwritten ⊢
        change world.writing (world.store.jobs index).key = false at unwritten
        have unchanged : world.changed = false := by
          cases changed : world.changed with
          | false => rfl
          | true =>
            rw [copied.torn index runs writes current changed] at unwritten
            cases unwritten
        exact (holds unchanged).trans (copied.device _ (copied.writer index writing current) unwritten)
    · rw [apart.states page onPage] at isValid
      rw [apart.slots page onPage] at isLinked
      have otherSlot := kept.slotApart linked isLinked onPage
      rw [apart.digests slot otherSlot, apart.generations page onPage, untouched slot otherSlot]
      exact copied.valid page slot isValid isLinked
  · intro one other page generation first second
    exact copied.readKeyed one other page generation (old one page generation first)
      (old other page generation second)
  · intro key starts
    obtain ⟨isValid, atGeneration, unwritten, unread⟩ := copied.starting key starts
    have onOther := elsewhere _ isValid
    refine ⟨(apart.states _ onOther).trans isValid, (apart.generations _ onOther).trans atGeneration, unwritten,
      fun other => Bool.eq_false_iff.mpr fun keyed => ?_⟩
    have found := old other key.1 key.2 keyed
    rw [unread other] at found
    cases found

/-- A read ends: its job is complete, and what the slot holds has been brought back. -/
theorem Copied.endRead (copied : world.Copied digest) (runs : world.store.running = some index)
    (sound : world.store.Sound geometry) (reads : (world.store.jobs index).direction = .hostToDevice)
    (outcome : Outcome) (status : SparkStatus) :
    Copied digest { world with
      store := { world.store with
        jobs := update world.store.jobs index (recorded (world.store.jobs index) outcome status)
        running := none }
      delivered := update world.delivered index
        (world.file (world.store.jobs index).backingSlotIndex) } := by
  have active := (sound.running index).mpr runs
  have busy : (world.store.jobs index).state ≠ .free := by
    rw [active]
    decide
  have flying : (world.store.jobs index).inFlight = true := by
    rw [Job.inFlight, active]
    rfl
  obtain ⟨-, -, -, -, brought, -⟩ := copied.reading index flying reads
  refine copied.changeJob ⟨rfl, rfl, rfl, rfl, rfl, rfl, rfl, rfl, rfl, rfl⟩ rfl
    (fun other different => ⟨by simp, update_of_ne different ..⟩) ?_ ?_
  · have ended : (recorded (world.store.jobs index) outcome status).inFlight = false := Job.complete_not_inFlight rfl
    exact {
      writer := fun writing => by
        rw [Job.settled_not_writing ended] at writing
        cases writing
      torn := by simp
      completed := fun _ writes => absurd (reads.symm.trans writes) Direction.noConfusion
      reading := fun flies => by
        rw [ended] at flies
        cases flies
      directed := fun _ => copied.directed index busy
      delivered := fun _ _ _ => (update_self ..).trans brought }
  · intro page generation keyed
    exact .inl (Job.isFor_iff.mpr ⟨busy, (Job.isFor_iff.mp keyed).2⟩)

/-- A read fails on the file only when the file could not be read: what it read has the digest. -/
theorem executeRead_failed {job : Job} {transfer : Transfer}
    (matching : job.digest = digest (world.file job.backingSlotIndex))
    (failed : (world.executeRead digest job transfer).storageFailed = true) : transfer.fetched ≠ .ok := by
  unfold executeRead at failed
  split at failed
  · assumption
  · rw [if_neg (not_not.mpr matching.symm)] at failed
    split at failed <;> cases failed

theorem Kept.recordRead (kept : Kept geometry digest world) (runs : world.store.running = some index)
    (reads : (world.store.jobs index).direction = .hostToDevice) (transfer : Transfer)
    (careful : world.Careful geometry (.record transfer)) :
    Kept geometry digest { world with
      store := world.store.record geometry (world.executeRead digest (world.store.jobs index) transfer)
      delivered := update world.delivered index
        (world.file (world.store.jobs index).backingSlotIndex) } := by
  have copied := kept.copied
  have active := (kept.sound.running index).mpr runs
  have busy : (world.store.jobs index).state ≠ .free := by
    rw [active]
    decide
  have flying : (world.store.jobs index).inFlight = true := by
    rw [Job.inFlight, active]
    rfl
  obtain ⟨valid, generation, linked, digested, -, intact⟩ := copied.reading index flying reads
  have matching := digested.trans (copied.valid _ _ valid linked).1
  have notWrite : (world.store.jobs index).direction ≠ .deviceToHost := by
    rw [reads]
    decide
  have failedFetch : (world.executeRead digest (world.store.jobs index) transfer).storageFailed = true →
      transfer.fetched ≠ .ok := executeRead_failed matching
  generalize world.executeRead digest (world.store.jobs index) transfer = outcome at failedFetch ⊢
  have spared : ¬ DropsReserved geometry world.store outcome := by
    rintro ⟨other, isRunning, -, -, -, -, -, reserved⟩
    rw [runs] at isRunning
    cases isRunning
    rw [valid] at reserved
    cases reserved
  have sound := recordRead_sound kept.sound runs notWrite spared
  obtain ⟨status, jobs, rests, -, digests, ends⟩ := record_read kept.sound runs notWrite outcome
  generalize world.store.record geometry outcome = after at sound jobs rests digests ends ⊢
  have ended := copied.endRead runs kept.sound reads outcome status
  refine ⟨sound, ?_⟩
  rcases ends with ⟨states, generations, slots⟩ | ⟨-, failed, invalid, apart⟩
  · exact ended.retable states generations slots digests rests jobs
  · rw [intact, Bool.false_or] at failed
    have spares := careful index runs reads (failedFetch failed)
    refine ended.dropRecord (world.store.jobs index).logicalPageIndex ⟨?_, ?_, ?_⟩ jobs rests digests invalid
      fun other different => ⟨apart.states other different, apart.generations other different,
        apart.slots other different⟩
    · intro other flies otherReads onPage
      change (update world.store.jobs index _ other).inFlight = true at flies
      change (update world.store.jobs index _ other).direction = .hostToDevice at otherReads
      change (update world.store.jobs index _ other).logicalPageIndex = _ at onPage
      by_cases same : other = index
      · rw [same, update_self, Job.complete_not_inFlight rfl] at flies
        cases flies
      · rw [update_of_ne same] at flies otherReads onPage
        obtain ⟨-, otherGeneration, -⟩ := copied.reading other flies otherReads
        have otherBusy : (world.store.jobs other).state ≠ .free := by
          intro free
          rw [Job.free_not_inFlight free] at flies
          cases flies
        rw [onPage, generation] at otherGeneration
        exact same (copied.readKeyed other index _ _
          (Job.isFor_iff.mpr ⟨otherBusy, otherReads, onPage, otherGeneration.symm⟩)
          (Job.isFor_iff.mpr ⟨busy, reads, rfl, rfl⟩))
    · intro other complete writes succeeded onPage
      change (update world.store.jobs index _ other).state = .complete at complete
      change (update world.store.jobs index _ other).direction = .deviceToHost at writes
      change (update world.store.jobs index _ other).terminalStatus = .ok at succeeded
      change (update world.store.jobs index _ other).logicalPageIndex = _ at onPage
      by_cases same : other = index
      · rw [same, update_self] at writes
        exact notWrite writes
      · rw [update_of_ne same] at complete writes succeeded onPage
        obtain ⟨-, otherGeneration⟩ := copied.completed other complete writes succeeded
        rw [onPage, generation] at otherGeneration
        exact spares other complete writes succeeded (Prod.ext onPage otherGeneration.symm)
    · intro starting starts onPage
      obtain ⟨-, atGeneration, -, unread⟩ := copied.starting starting starts
      rw [onPage, generation] at atGeneration
      have keyed := Job.isFor_iff.mpr ⟨busy, reads, onPage.symm, atGeneration⟩
      rw [unread index] at keyed
      cases keyed

theorem Kept.record (kept : Kept geometry digest world) (transfer : Transfer)
    (careful : world.Careful geometry (.record transfer)) :
    Kept geometry digest (world.record geometry digest transfer) := by
  unfold World.record
  cases runs : world.store.running with
  | none => exact kept
  | some index =>
    dsimp only
    split
    · rename_i writes
      exact kept.recordWrite runs writes transfer
    · rename_i other
      have active := (kept.sound.running index).mpr runs
      have reads : (world.store.jobs index).direction = .hostToDevice := by
        cases direction : (world.store.jobs index).direction with
        | none => exact absurd direction (kept.copied.directed index (by rw [active]; decide))
        | deviceToHost => exact absurd direction other
        | hostToDevice => rfl
      exact kept.recordRead runs reads transfer careful

end Worker

section Runs

theorem initial_kept (contents : Key → PageBytes) : Kept geometry digest (initial contents) := by
  refine ⟨initial_sound geometry, ?_⟩
  constructor
  · exact fun _ _ _ => rfl
  · intro key isWritten
    cases isWritten
  · intro page slot valid
    cases valid
  · intro index writing
    cases writing
  · intro index runs
    cases runs
  · intro index complete
    cases complete
  · intro index flies
    cases flies
  · intro one other page generation keyed
    cases keyed
  · intro index busy
    exact absurd rfl busy
  · intro index complete
    cases complete
  · intro key starts
    cases starts

theorem Kept.step (kept : Kept geometry digest world) (event : Event) (careful : world.Careful geometry event) :
    Kept geometry digest (world.step geometry digest event) := by
  cases event with
  | pin key => exact kept.pin key
  | change key bytes => exact kept.change key bytes
  | complete key => exact kept.complete careful
  | park write evicts junk => exact kept.park write evicts junk
  | choose key resolved backingValid => exact kept.choose key resolved backingValid
  | resume block keyBytes valueBytes marked => exact kept.resume block keyBytes valueBytes marked
  | readback key destination bytes => exact kept.readback careful destination bytes
  | collect marked => exact kept.collect marked
  | invalidate key => exact kept.invalidate key
  | releaseIdle key => exact kept.releaseIdle key
  | rekey source target junk => exact kept.rekey careful.1 careful.2 junk
  | take => exact kept.take
  | record transfer => exact kept.record transfer careful

/-- A readback returns `OK` for the sake of a completed read to that destination. -/
theorem readback_ok {store : PageStore} {page generation destination bytes : Nat}
    (succeeded : (store.readback geometry page generation destination bytes).1 = .ok) :
    ∃ index, store.findJob geometry .hostToDevice page generation = some index ∧
      (store.jobs index).keyDeviceAddress = destination ∧ (store.jobs index).state = .complete ∧
      (store.jobs index).terminalStatus = .ok := by
  unfold PageStore.readback at succeeded
  split at succeeded
  · cases succeeded
  · unfold readbackPage at succeeded
    cases found : store.findJob geometry .hostToDevice page generation with
    | some index =>
      rw [found] at succeeded
      dsimp only at succeeded
      split at succeeded
      · cases succeeded
      · rename_i complete
        simp only [not_or, ne_eq, not_not] at complete
        exact ⟨index, rfl, complete.2.1, complete.2.2, succeeded⟩
    | none =>
      rw [found] at succeeded
      dsimp only at succeeded
      split at succeeded
      · cases succeeded
      · cases linked : store.backingSlotsByLogicalPage page with
        | none =>
          rw [linked] at succeeded
          cases succeeded
        | some slot =>
          rw [linked] at succeeded
          dsimp only at succeeded
          cases free : store.findFreeJob geometry with
          | none =>
            rw [free] at succeeded
            cases succeeded
          | some index =>
            rw [free] at succeeded
            cases succeeded

/-- The invariant makes what callers are told true. -/
theorem Kept.truthful (kept : Kept geometry digest world) : world.Truthful geometry := by
  obtain ⟨sound, copied⟩ := id kept
  refine {
    parked := fun write succeeded unwritten => ?_
    readBack := fun key destination bytes succeeded => ?_
    prefetched := fun index complete reads succeeded => copied.delivered index complete reads succeeded
    valid := fun page slot valid linked unwritten => (copied.valid page slot valid linked).2 unwritten }
  · obtain ⟨valid, generation, -⟩ := kept.parkedValid succeeded
    obtain ⟨slot, linked⟩ := Option.isSome_iff_exists.mp ((sound.mapped write.page).mpr (.inl valid))
    refine ⟨slot, valid, generation, linked, ?_⟩
    have holds := (copied.valid write.page slot valid linked).2
    rw [generation] at holds
    exact holds unwritten
  · obtain ⟨index, found, destined, complete, ended⟩ := readback_ok succeeded
    obtain ⟨-, reads, onPage, atGeneration⟩ := Job.isFor_iff.mp (findJob_some found)
    refine ⟨index, found, destined, ?_⟩
    have brought := copied.delivered index complete reads ended
    have here : (world.store.jobs index).key = key := Prod.ext onPage atGeneration
    rwa [here] at brought

/-- In a run of careful steps from an empty store, callers are told the truth about every copy in
every state. -/
theorem run_truthful (geometry : Geometry) (digest : PageBytes → Digest) (contents : Key → PageBytes)
    (events : List Event)
    (careful : Along (World.step geometry digest) (World.Careful geometry) events (initial contents)) :
    ∀ taken, taken <+: events →
      (taken.foldl (World.step geometry digest) (initial contents)).Truthful geometry := by
  rintro taken ⟨later, rfl⟩
  have kept := careful.append.1.foldl (P := Kept geometry digest)
    (fun state event kept careful => kept.step event careful) (initial_kept contents)
  exact kept.truthful

/-- The address and the size of page 0, at generation 1. -/
def firstPage : PageStore.Write where
  page := 0
  physicalPage := 0
  generation := 1
  keyDeviceAddress := 1
  keyBytes := 1
  valueDeviceAddress := 0
  valueBytes := 0

/-- A page is parked, evicted and read back. -/
def parkAndReadBack : List Event :=
  [.park firstPage false [], .take, .record {}, .park firstPage true [9], .readback (0, 1) 1 1, .take,
    .record {}]

theorem parkAndReadBack_truthful :
    (parkAndReadBack.foldl (World.step smallStore fun _ => []) (initial fun _ => [7])).Truthful smallStore ∧
    ((parkAndReadBack.foldl (World.step smallStore fun _ => []) (initial fun _ => [7])).store.readback
      smallStore 0 1 1 1).1 = .ok := by
  constructor
  · refine run_truthful smallStore (fun _ => []) (fun _ => [7]) parkAndReadBack ?_ parkAndReadBack
      List.prefix_rfl
    refine ⟨trivial, trivial, ?_, trivial, ?_, trivial, ?_, trivial⟩
    · exact fun _ _ _ failed => absurd rfl failed
    · change (_ : Bool) = false
      decide
    · exact fun _ _ _ failed => absurd rfl failed
  · decide

/-- A read fails after a write of the same page has completed and before anybody asks for the write. -/
def failedReadBeforePark : List Event :=
  [.park firstPage false [], .take, .record {}, .readback (0, 1) 1 1, .take, .record { fetched := .ioError }]

/-- The write is reported as done, and the page may be evicted, with no copy of it left. -/
theorem failedReadBeforePark_lies : ¬ ∀ taken, taken <+: failedReadBeforePark →
    (taken.foldl (World.step smallStore fun _ => []) (initial fun _ => [7])).Truthful smallStore := by
  intro truthful
  have ended := truthful failedReadBeforePark List.prefix_rfl
  obtain ⟨slot, valid, -⟩ := ended.parked firstPage (by decide) (by decide)
  revert valid
  decide

end Runs

end World

end Sparkpipe.KvPageStore
