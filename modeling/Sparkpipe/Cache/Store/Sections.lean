import Sparkpipe.Cache.Store.Edits

/-!
# What each section changes

Every section of the owner makes edits of a few kinds on a sound store. The worker's
sections are the other two: taking a job, and recording it.
-/

namespace Sparkpipe.KvPageStore

open Function

namespace PageStore

variable {geometry : Geometry} {store : PageStore} {index page slot generation : Nat}
  {write : Write} {outcome : Outcome}

section Searching

theorem firstJob_some (test : Job → Bool) (found : store.firstJob geometry test = some index) :
    index < geometry.transferCapacity ∧ test (store.jobs index) = true := by
  refine ⟨?_, List.find?_some (p := fun index => test (store.jobs index)) found⟩
  exact List.mem_range.mp (List.mem_of_find?_eq_some found)

theorem firstJob_none (test : Job → Bool) (nowhere : store.firstJob geometry test = none)
    (inRange : index < geometry.transferCapacity) :
    test (store.jobs index) = false := by
  have passes := List.find?_eq_none.mp nowhere index (List.mem_range.mpr inRange)
  exact Bool.eq_false_iff.mpr passes

theorem findJob_some {direction : Direction} (found : store.findJob geometry direction page generation = some index) :
    (store.jobs index).isFor direction page generation = true :=
  (firstJob_some (fun job => job.isFor direction page generation) found).2

/-- Without a job in the array there is none at all. -/
theorem Sound.findJob_none (sound : store.Sound geometry) {direction : Direction}
    (nowhere : store.findJob geometry direction page generation = none) (index : Nat) :
    (store.jobs index).isFor direction page generation = false := by
  cases found : (store.jobs index).isFor direction page generation with
  | false => rfl
  | true =>
    have inRange := sound.jobsInRange index (Job.isFor_iff.mp found).1
    exact absurd found (Bool.eq_false_iff.mp
      (firstJob_none (fun job => job.isFor direction page generation) nowhere inRange))

theorem findFreeJob_some (found : store.findFreeJob geometry = some index) :
    index < geometry.transferCapacity ∧ (store.jobs index).state = .free := by
  obtain ⟨inRange, free⟩ := firstJob_some (fun job => job.state = .free) found
  exact ⟨inRange, of_decide_eq_true free⟩

theorem findFreeBackingSlot_some (found : store.findFreeBackingSlot geometry = some slot) :
    slot < geometry.backingSlotCapacity ∧ store.logicalPagesByBackingSlot slot = none := by
  refine ⟨List.mem_range.mp (List.mem_of_find?_eq_some found), ?_⟩
  have empty := List.find?_some (p := fun slot => decide (store.logicalPagesByBackingSlot slot = none)) found
  exact of_decide_eq_true empty

theorem findQueuedJob_some (found : store.findQueuedJob geometry = some index) :
    (store.jobs index).state = .queued := by
  have queued := List.find?_some (p := fun index => decide ((store.jobs index).state = .queued)) found
  exact of_decide_eq_true queued

/-- Nothing but free jobs names a page without a job. -/
theorem Sound.hasJobOn_false (sound : store.Sound geometry) (nowhere : store.hasJobOn geometry page = false)
    (here : (store.jobs index).logicalPageIndex = page) : (store.jobs index).state = .free := by
  by_contra busy
  have inRange := sound.jobsInRange index busy
  have missing := firstJob_none _ (Option.isSome_eq_false_iff.mp nowhere |> Option.isNone_iff_eq_none.mp) inRange
  simp only [ne_eq, busy, not_false_eq_true, decide_true, here, Bool.and_self] at missing
  cases missing

theorem Job.complete_not_inFlight {job : Job} (complete : job.state = .complete) : job.inFlight = false := by
  rw [Job.inFlight, complete]
  rfl

end Searching

section Owner

/-- Edits that only settle what is finished: completed jobs and failed writes. -/
def tidies : Kind → Prop
  | .clear _ => True
  | .forget _ => True
  | _ => False

theorem clearJob_edits {allowed : Kind → Prop} (settled : (store.jobs index).inFlight = false)
    (allow : allowed (.clear index)) : Edits geometry allowed store (store.clearJob index) :=
  Edits.one (.clear settled) allow

theorem forgetWriteFailure_edits {allowed : Kind → Prop} (allow : allowed (.forget page)) :
    Edits geometry allowed store (store.forgetWriteFailure page) := by
  unfold forgetWriteFailure
  split
  · exact Edits.none store
  · rename_i failed
    exact Edits.one (.forget (not_not.mp failed)) allow

theorem forgetWriteFailure_jobs : (store.forgetWriteFailure page).jobs = store.jobs := by
  unfold forgetWriteFailure
  split <;> rfl

theorem forgetWriteFailure_slots :
    (store.forgetWriteFailure page).logicalPagesByBackingSlot = store.logicalPagesByBackingSlot := by
  unfold forgetWriteFailure
  split <;> rfl

theorem forgetWriteFailure_forgotten (failed : store.validPages page = .writeFailed) :
    (store.forgetWriteFailure page).validPages page = .invalid := by
  unfold forgetWriteFailure
  rw [if_neg (not_not.mpr failed)]
  exact update_self ..

/-- A job and a slot are left for a write. -/
def hasRoom (geometry : Geometry) (store : PageStore) : Bool :=
  (store.findFreeJob geometry).isSome && (store.findFreeBackingSlot geometry).isSome

/-- The page's record lets a writeback queue a job. -/
def admits (geometry : Geometry) (store : PageStore) (write : Write) : Bool :=
  (store.validPages write.page = .invalid || store.validPages write.page = .writeFailed &&
    store.generations write.page ≠ write.generation) && store.hasRoom geometry

/-- The writeback is one that queues a job. -/
def queuesWrite (geometry : Geometry) (store : PageStore) (write : Write) : Bool :=
  !badWrite geometry write &&
    match store.findJob geometry .deviceToHost write.page write.generation with
    | none => store.admits geometry write
    | some index =>
      (store.jobs index).state = .complete && (store.jobs index).superseded &&
        (store.clearJob index).admits geometry write

/-- The last edits of a writeback: it queues a write, or it only tidies up. -/
def Finishes (geometry : Geometry) (write : Write) (queues : Bool) (before after : PageStore) : Prop :=
  if queues then Edit geometry (.queueWrite write) before after
  else Edits geometry tidies before after

theorem queueWrite_finishes (inRange : write.page < geometry.logicalPageCapacity)
    (invalid : store.validPages write.page = .invalid)
    (fresh : ∀ other, (store.jobs other).isFor .deviceToHost write.page write.generation = false) :
    Finishes geometry write (store.hasRoom geometry) store (store.queueWrite geometry write).2 := by
  unfold hasRoom queueWrite
  cases found : store.findFreeJob geometry with
  | none => exact Edits.none store
  | some index =>
    obtain ⟨jobInRange, free⟩ := findFreeJob_some found
    dsimp only
    rw [if_pos invalid]
    cases slots : store.findFreeBackingSlot geometry with
    | none => exact clearJob_edits (Job.free_not_inFlight free) trivial
    | some slot =>
      obtain ⟨slotInRange, empty⟩ := findFreeBackingSlot_some slots
      exact .queueWrite free jobInRange inRange slotInRange invalid empty fresh

theorem writebackPage_path (inRange : write.page < geometry.logicalPageCapacity)
    (fresh : ∀ other, (store.jobs other).isFor .deviceToHost write.page write.generation = false) :
    ∃ middle, Edits geometry tidies store middle ∧ middle.jobs = store.jobs ∧
      Finishes geometry write (store.admits geometry write) middle
        (store.writebackPage geometry write).2 := by
  unfold writebackPage admits
  cases state : store.validPages write.page with
  | invalid => exact ⟨store, Edits.none store, rfl, queueWrite_finishes inRange state fresh⟩
  | valid =>
    refine ⟨store, Edits.none store, rfl, ?_⟩
    dsimp only
    split <;> exact Edits.none store
  | reserved => exact ⟨store, Edits.none store, rfl, Edits.none store⟩
  | writeFailed =>
    have forgets : Edits geometry tidies store (store.forgetWriteFailure write.page) :=
      forgetWriteFailure_edits trivial
    refine ⟨store.forgetWriteFailure write.page, forgets, forgetWriteFailure_jobs, ?_⟩
    dsimp only
    split
    · rename_i same
      rw [same, decide_eq_false (not_not.mpr rfl)]
      exact Edits.none _
    · rename_i different
      have room : (store.forgetWriteFailure write.page).hasRoom geometry = store.hasRoom geometry := by
        unfold hasRoom findFreeJob findFreeBackingSlot firstJob
        rw [forgetWriteFailure_jobs, forgetWriteFailure_slots]
      have finishes := queueWrite_finishes inRange
        (forgetWriteFailure_forgotten state) (by rwa [forgetWriteFailure_jobs])
      rw [room] at finishes
      rw [decide_eq_true different]
      exact finishes

/-- Once the job with this key is cleared, no job has it. -/
theorem Sound.cleared_fresh (sound : store.Sound geometry)
    (found : (store.jobs index).isFor .deviceToHost page generation = true) (other : Nat) :
    ((store.clearJob index).jobs other).isFor .deviceToHost page generation = false := by
  change (update store.jobs index {} other).isFor .deviceToHost page generation = false
  by_cases cleared : other = index
  · rw [cleared, update_self]
    rfl
  · rw [update_of_ne cleared]
    cases keyed : (store.jobs other).isFor .deviceToHost page generation with
    | false => rfl
    | true => exact absurd (sound.keyed other index page generation keyed found) cleared

theorem badWrite_inRange (good : badWrite geometry write = false) :
    write.page < geometry.logicalPageCapacity ∧ write.generation ≠ 0 := by
  simp only [badWrite, Bool.or_eq_false_iff, decide_eq_false_iff_not, not_le] at good
  exact ⟨good.1.1.1, good.1.1.2⟩

theorem writeback_path (sound : store.Sound geometry) (write : Write) :
    ∃ middle, Edits geometry tidies store middle ∧
      (store.queuesWrite geometry write = true → ∀ index, (store.jobs index).superseded = false →
        middle.jobs index = store.jobs index) ∧
      Finishes geometry write (store.queuesWrite geometry write) middle
        (store.writeback geometry write).2 := by
  unfold writeback queuesWrite
  cases bad : badWrite geometry write with
  | true => exact ⟨store, Edits.none store, fun _ _ _ => rfl, Edits.none store⟩
  | false =>
    obtain ⟨inRange, -⟩ := badWrite_inRange bad
    rw [if_neg Bool.false_ne_true]
    dsimp only [Bool.not_false, Bool.true_and]
    cases found : store.findJob geometry .deviceToHost write.page write.generation with
    | none =>
      obtain ⟨middle, tidied, jobs, finishes⟩ := writebackPage_path inRange (sound.findJob_none found)
      exact ⟨middle, tidied, fun _ index _ => congrFun jobs index, finishes⟩
    | some index =>
      have keyed := findJob_some found
      dsimp only
      by_cases complete : (store.jobs index).state = .complete
      · have settled := Job.complete_not_inFlight complete
        have clears : Edits geometry tidies store (store.clearJob index) := clearJob_edits settled trivial
        rw [if_neg (not_not.mpr complete), decide_eq_true complete]
        cases superseded : (store.jobs index).superseded with
        | true =>
          obtain ⟨middle, tidied, jobs, finishes⟩ :=
            writebackPage_path inRange (sound.cleared_fresh keyed)
          refine ⟨middle, clears.andThen tidied, fun _ other standing => ?_, finishes⟩
          have different : other ≠ index := by
            rintro rfl
            rw [superseded] at standing
            cases standing
          rw [jobs]
          exact update_of_ne different ..
        | false =>
          refine ⟨_, clears, ?_, forgetWriteFailure_edits trivial⟩
          intro impossible
          cases impossible
      · rw [if_pos complete, decide_eq_false complete]
        refine ⟨store, Edits.none store, ?_, Edits.none store⟩
        intro impossible
        cases impossible

/-- A writeback returns `OK` for the sake of a completed job or of a valid record. -/
theorem writeback_ok (succeeded : (store.writeback geometry write).1 = .ok) :
    (∃ index, (store.jobs index).isFor .deviceToHost write.page write.generation = true ∧
      (store.jobs index).state = .complete ∧ (store.jobs index).terminalStatus = .ok ∧
      (store.writeback geometry write).2 = (store.clearJob index).forgetWriteFailure write.page) ∨
    store.validPages write.page = .valid ∧ store.generations write.page = write.generation ∧
      (store.writeback geometry write).2.validPages = store.validPages := by
  have fromPage : ∀ now : PageStore, (now.writebackPage geometry write).1 = .ok →
      now.validPages write.page = .valid ∧ now.generations write.page = write.generation ∧
        (now.writebackPage geometry write).2 = now := by
    intro now answered
    have queues : ∀ later : PageStore, (later.queueWrite geometry write).1 ≠ .ok := by
      intro later
      unfold queueWrite
      cases later.findFreeJob geometry with
      | none => exact SparkStatus.noConfusion
      | some index =>
        dsimp only
        split
        · cases later.findFreeBackingSlot geometry <;> exact SparkStatus.noConfusion
        · exact SparkStatus.noConfusion
    unfold writebackPage at answered ⊢
    cases state : now.validPages write.page with
    | invalid =>
      rw [state] at answered
      exact absurd answered (queues now)
    | reserved =>
      rw [state] at answered
      cases answered
    | writeFailed =>
      rw [state] at answered
      dsimp only at answered
      split at answered
      · cases answered
      · exact absurd answered (queues _)
    | valid =>
      rw [state] at answered
      dsimp only at answered ⊢
      split at answered
      · rename_i here
        rw [if_pos here]
        exact ⟨rfl, here.1, rfl⟩
      · cases answered
  unfold writeback at succeeded ⊢
  cases bad : badWrite geometry write with
  | true =>
    rw [bad] at succeeded
    cases succeeded
  | false =>
    rw [bad, if_neg Bool.false_ne_true] at succeeded
    rw [if_neg Bool.false_ne_true]
    cases found : store.findJob geometry .deviceToHost write.page write.generation with
    | none =>
      rw [found] at succeeded
      obtain ⟨valid, generation, same⟩ := fromPage store succeeded
      exact .inr ⟨valid, generation, congrArg validPages same⟩
    | some index =>
      rw [found] at succeeded
      dsimp only at succeeded ⊢
      by_cases complete : (store.jobs index).state = .complete
      · rw [if_neg (not_not.mpr complete)] at succeeded ⊢
        split at succeeded
        · rename_i superseded
          rw [if_pos superseded]
          obtain ⟨valid, generation, same⟩ := fromPage (store.clearJob index) succeeded
          have states := congrArg validPages same
          exact .inr ⟨valid, generation, states⟩
        · rename_i current
          rw [if_neg current]
          exact .inl ⟨index, findJob_some found, complete, succeeded, rfl⟩
      · rw [if_pos complete] at succeeded
        cases succeeded

/-- What a writeback may change. -/
def writebackKinds (write : Write) : Kind → Prop
  | .queueWrite queued => queued = write
  | kind => tidies kind

theorem writeback_edits (sound : store.Sound geometry) (write : Write) :
    Edits geometry (writebackKinds write) store (store.writeback geometry write).2 := by
  obtain ⟨middle, tidied, -, finishes⟩ := writeback_path sound write
  have widened : ∀ kind, tidies kind → writebackKinds write kind := by
    intro kind tidy
    cases kind <;> first | exact tidy | exact tidy.elim
  refine (tidied.widen widened).andThen ?_
  unfold Finishes at finishes
  split at finishes
  · exact Edits.one finishes rfl
  · exact finishes.widen widened

/-- What reading a page back may change. -/
def readbackKinds (page generation : Nat) : Kind → Prop
  | .queueRead readPage readGeneration => readPage = page ∧ readGeneration = generation
  | kind => tidies kind

/-- A readback queues a read of a valid record, or it takes a completed one. -/
theorem readback_path (geometry : Geometry) (store : PageStore) (page generation destination bytes : Nat) :
    Edits geometry tidies store (store.readback geometry page generation destination bytes).2 ∨
      store.validPages page = .valid ∧ store.generations page = generation ∧
      store.findJob geometry .hostToDevice page generation = none ∧
      Edit geometry (.queueRead page generation) store
        (store.readback geometry page generation destination bytes).2 := by
  unfold readback
  split
  · exact .inl (Edits.none store)
  · unfold readbackPage
    cases found : store.findJob geometry .hostToDevice page generation with
    | some index =>
      dsimp only
      split
      · exact .inl (Edits.none store)
      · rename_i complete
        simp only [not_or, ne_eq, not_not] at complete
        exact .inl (clearJob_edits (Job.complete_not_inFlight complete.2.2) trivial)
    | none =>
      dsimp only
      split
      · exact .inl (Edits.none store)
      · rename_i valid
        simp only [not_or, ne_eq, not_not] at valid
        cases linked : store.backingSlotsByLogicalPage page with
        | none => exact .inl (Edits.none store)
        | some slot =>
          dsimp only
          cases free : store.findFreeJob geometry with
          | none => exact .inl (Edits.none store)
          | some index =>
            obtain ⟨inRange, isFree⟩ := findFreeJob_some free
            have reads : Edit geometry (.queueRead page generation) store (store.setJob index
                (store.readbackJob geometry page generation destination slot)) :=
              .queueRead isFree inRange rfl (Job.isFor_iff.mpr ⟨JobState.noConfusion, rfl, rfl, rfl⟩)
                linked rfl rfl
            exact .inr ⟨valid.1, valid.2, rfl, reads⟩

theorem tidies_readback {kind : Kind} (tidy : tidies kind) : readbackKinds page generation kind := by
  cases kind <;> first | exact tidy | exact tidy.elim

theorem readback_edits (geometry : Geometry) (store : PageStore) (page generation destination bytes : Nat) :
    Edits geometry (readbackKinds page generation) store
      (store.readback geometry page generation destination bytes).2 := by
  rcases readback_path geometry store page generation destination bytes with tidied | ⟨-, -, -, reads⟩
  · exact tidied.widen fun _ => tidies_readback
  · exact Edits.one reads ⟨rfl, rfl⟩

theorem finishPrefetch_edits (geometry : Geometry) (store : PageStore) (page generation : Nat) :
    Edits geometry tidies store (store.finishPrefetch geometry page generation).2 := by
  unfold finishPrefetch
  cases found : store.findJob geometry .hostToDevice page generation with
  | none => exact Edits.none store
  | some index =>
    dsimp only
    split
    · exact Edits.none store
    · rename_i complete
      simp only [not_or, ne_eq, not_not] at complete
      exact clearJob_edits (Job.complete_not_inFlight complete.2) trivial

theorem startPrefetch_path (geometry : Geometry) (store : PageStore) (page : Nat)
    (block : KvCache.PrefetchBlock) (keyBytes valueBytes : Nat) :
    (store.startPrefetch geometry page block keyBytes valueBytes).2 = store ∨
      Edit geometry (.queueRead page block.generation) store
        (store.startPrefetch geometry page block keyBytes valueBytes).2 := by
  unfold startPrefetch
  cases free : store.findFreeJob geometry with
  | none => exact .inl rfl
  | some index =>
    cases linked : store.backingSlotsByLogicalPage page with
    | none => exact .inl rfl
    | some slot =>
      obtain ⟨inRange, isFree⟩ := findFreeJob_some free
      have reads : Edit geometry (.queueRead page block.generation) store
          (store.setJob index (store.prefetchJob page block keyBytes valueBytes slot)) :=
        .queueRead isFree inRange rfl (Job.isFor_iff.mpr ⟨JobState.noConfusion, rfl, rfl, rfl⟩) linked
          rfl rfl
      exact .inr reads

theorem startPrefetch_edits (geometry : Geometry) (store : PageStore) (page : Nat)
    (block : KvCache.PrefetchBlock) (keyBytes valueBytes : Nat) :
    Edits geometry (readbackKinds page block.generation) store
      (store.startPrefetch geometry page block keyBytes valueBytes).2 := by
  rcases startPrefetch_path geometry store page block keyBytes valueBytes with same | reads
  · rw [same]
    exact Edits.none store
  · exact Edits.one reads ⟨rfl, rfl⟩

theorem collect_edits (geometry : Geometry) (store : PageStore) :
    Edits geometry tidies store (store.collect geometry).2 := by
  unfold collect
  cases found : store.firstJob geometry fun job => job.state = .complete && job.readKind ≠ .buffer with
  | none => exact Edits.none store
  | some index =>
    have complete := (firstJob_some _ found).2
    simp only [Bool.and_eq_true, decide_eq_true_eq] at complete
    exact clearJob_edits (Job.complete_not_inFlight complete.1) trivial

/-- What dropping a page's record may change. -/
def dropKinds (page : Nat) : Kind → Prop
  | .release released => released = page
  | kind => tidies kind

theorem freeCompletedWrites_edits {allowed : Kind → Prop} (page : Nat) (allow : ∀ index, allowed (.clear index)) :
    Edits geometry allowed store (store.freeCompletedWrites geometry page) := by
  unfold freeCompletedWrites
  generalize List.range geometry.transferCapacity = indices
  induction indices generalizing store with
  | nil => exact Edits.none store
  | cons index rest ih =>
    rw [List.foldl_cons]
    refine Edits.andThen ?_ ih
    split
    · rename_i complete
      exact clearJob_edits (Job.complete_not_inFlight complete.1) (allow index)
    · exact Edits.none store

theorem releaseBackingSlot_jobs (geometry : Geometry) (store : PageStore) (page : Nat) (slot : Option Nat) :
    (store.releaseBackingSlot geometry page slot).2.jobs = store.jobs := by
  unfold releaseBackingSlot
  cases slot with
  | none => rfl
  | some slot =>
    dsimp only
    split <;> rfl

/-- The release of a valid page's record succeeds. -/
theorem releaseValid (sound : store.Sound geometry) (valid : store.validPages page = .valid) :
    (store.releaseBackingSlot geometry page (store.backingSlotsByLogicalPage page)).1 = .ok ∧
      Edit geometry (.release page) store
        (store.releaseBackingSlot geometry page (store.backingSlotsByLogicalPage page)).2 ∧
      (store.releaseBackingSlot geometry page (store.backingSlotsByLogicalPage page)).2.validPages page =
        .invalid := by
  have mapped := (sound.mapped page).mpr (.inl valid)
  cases linked : store.backingSlotsByLogicalPage page with
  | none =>
    rw [linked] at mapped
    cases mapped
  | some slot =>
    rw [sound.tabled.release linked]
    exact ⟨rfl, .release valid linked, update_self ..⟩

theorem canInvalidate_unreserved (can : store.canInvalidate geometry page generation = .ok) :
    store.validPages page ≠ .reserved := by
  intro reserved
  unfold canInvalidate at can
  split at can
  · cases can
  · simp only [reserved, reduceCtorEq, or_self, ↓reduceIte, ne_eq, not_false_eq_true, true_or] at can

theorem freeCompletedWrites_validPages (geometry : Geometry) (store : PageStore) (page : Nat) :
    (store.freeCompletedWrites geometry page).validPages = store.validPages := by
  unfold freeCompletedWrites
  generalize List.range geometry.transferCapacity = indices
  induction indices generalizing store with
  | nil => rfl
  | cons index rest ih =>
    rw [List.foldl_cons, ih]
    split <;> rfl

theorem forgetWriteFailure_of_ne (settled : store.validPages page ≠ .writeFailed) :
    store.forgetWriteFailure page = store := if_pos settled

theorem freeCompletedWrites_jobs (geometry : Geometry) (store : PageStore) (page index : Nat) :
    (store.freeCompletedWrites geometry page).jobs index =
      if index < geometry.transferCapacity ∧ (store.jobs index).state = .complete ∧
          (store.jobs index).direction = .deviceToHost ∧ (store.jobs index).logicalPageIndex = page then {}
      else store.jobs index := by
  unfold freeCompletedWrites
  have loop : ∀ indices : List Nat, ∀ now : PageStore,
      (indices.foldl (fun (store : PageStore) index =>
        if (store.jobs index).state = .complete ∧ (store.jobs index).direction = .deviceToHost ∧
            (store.jobs index).logicalPageIndex = page then store.clearJob index
        else store) now).jobs index =
      if index ∈ indices ∧ (now.jobs index).state = .complete ∧
          (now.jobs index).direction = .deviceToHost ∧ (now.jobs index).logicalPageIndex = page then {}
      else now.jobs index := by
    intro indices
    induction indices with
    | nil =>
      intro now
      exact (if_neg fun member => absurd member.1 List.not_mem_nil).symm
    | cons first rest ih =>
      intro now
      rw [List.foldl_cons, ih]
      by_cases here : index = first
      · subst here
        by_cases complete : (now.jobs index).state = .complete ∧
            (now.jobs index).direction = .deviceToHost ∧ (now.jobs index).logicalPageIndex = page
        · have cleared : (now.clearJob index).jobs index = {} := update_self ..
          rw [if_pos complete, cleared, ite_self]
          exact (if_pos ⟨.head _, complete⟩).symm
        · rw [if_neg complete, if_neg fun both => complete both.2, if_neg fun both => complete both.2]
      · have untouched : (if (now.jobs first).state = .complete ∧
            (now.jobs first).direction = .deviceToHost ∧ (now.jobs first).logicalPageIndex = page then
              now.clearJob first else now).jobs index = now.jobs index := by
          split
          · exact update_of_ne here ..
          · rfl
        rw [untouched]
        simp only [List.mem_cons, here, false_or]
  rw [loop]
  simp only [List.mem_range]

/-- Before its record is released, a page has no completed write left. -/
theorem invalidatePage_path (sound : store.Sound geometry) (unreserved : store.validPages page ≠ .reserved) :
    ∃ middle, Edits geometry tidies store middle ∧
      (∀ index, (middle.jobs index).state = .complete → (middle.jobs index).direction = .deviceToHost →
        (middle.jobs index).logicalPageIndex ≠ page) ∧
      (∀ index, (middle.jobs index).state ≠ .free → middle.jobs index = store.jobs index) ∧
      ((store.invalidatePage geometry page).2 = middle ∨
        Edit geometry (.release page) middle (store.invalidatePage geometry page).2) := by
  have frees : Edits geometry tidies store (store.freeCompletedWrites geometry page) :=
    freeCompletedWrites_edits page fun _ => trivial
  have forgets : Edits geometry tidies (store.freeCompletedWrites geometry page)
      ((store.freeCompletedWrites geometry page).forgetWriteFailure page) := forgetWriteFailure_edits trivial
  have tidied := frees.andThen forgets
  have jobs : ∀ index, ((store.freeCompletedWrites geometry page).forgetWriteFailure page).jobs index = _ :=
    fun index => (congrFun forgetWriteFailure_jobs index).trans (freeCompletedWrites_jobs geometry store page index)
  refine ⟨_, tidied, ?_, ?_, ?_⟩
  · intro index complete writes onPage
    rw [jobs index] at complete writes onPage
    split at complete
    · cases complete
    · rename_i kept
      rw [if_neg kept] at writes onPage
      have busy : (store.jobs index).state ≠ .free := by
        rw [complete]
        decide
      exact kept ⟨sound.jobsInRange index busy, complete, writes, onPage⟩
  · intro index busy
    rw [jobs index] at busy ⊢
    split at busy
    · exact absurd rfl busy
    · rename_i kept
      exact if_neg kept
  · unfold invalidatePage
    dsimp only
    split
    · exact .inl rfl
    · rename_i notInvalid
      refine .inr (releaseValid (sound.edits tidied) ?_).2.1
      rw [← freeCompletedWrites_validPages geometry store page] at unreserved
      generalize store.freeCompletedWrites geometry page = freed at unreserved notInvalid ⊢
      cases state : freed.validPages page with
      | invalid =>
        rw [forgetWriteFailure_of_ne (by rw [state]; decide)] at notInvalid
        exact absurd state notInvalid
      | writeFailed => exact absurd (forgetWriteFailure_forgotten state) notInvalid
      | reserved => exact absurd state unreserved
      | valid =>
        rw [forgetWriteFailure_of_ne (by rw [state]; decide)]
        exact state

theorem tidies_drop {kind : Kind} (tidy : tidies kind) : dropKinds page kind := by
  cases kind <;> first | exact tidy | exact tidy.elim

theorem invalidatePage_edits (sound : store.Sound geometry) (unreserved : store.validPages page ≠ .reserved) :
    Edits geometry (dropKinds page) store (store.invalidatePage geometry page).2 := by
  obtain ⟨middle, tidied, -, -, last⟩ := invalidatePage_path sound unreserved
  refine (tidied.widen fun _ => tidies_drop).andThen ?_
  rcases last with same | releases
  · rw [same]
    exact Edits.none middle
  · exact Edits.one releases rfl

theorem invalidate_edits (sound : store.Sound geometry) (page generation : Nat) :
    Edits geometry (dropKinds page) store (store.invalidate geometry page generation).2 := by
  unfold invalidate
  split
  · exact Edits.none store
  · split
    · exact Edits.none store
    · rename_i can
      exact invalidatePage_edits sound (canInvalidate_unreserved (not_not.mp can))

theorem invalidatePair_edits {leftGeometry rightGeometry : Geometry} {left right : PageStore}
    (leftSound : left.Sound leftGeometry) (rightSound : right.Sound rightGeometry) (page generation : Nat) :
    Edits leftGeometry (dropKinds page) left
        (invalidatePair leftGeometry rightGeometry left right page generation).left ∧
      Edits rightGeometry (dropKinds page) right
        (invalidatePair leftGeometry rightGeometry left right page generation).right := by
  unfold invalidatePair
  split
  · exact ⟨Edits.none left, Edits.none right⟩
  · split
    · exact ⟨Edits.none left, Edits.none right⟩
    · rename_i leftCan
      have leftDrops := invalidatePage_edits leftSound
        (canInvalidate_unreserved (not_not.mp leftCan))
      split
      · exact ⟨Edits.none left, Edits.none right⟩
      · rename_i rightCan
        dsimp only
        split
        · exact ⟨leftDrops, Edits.none right⟩
        · exact ⟨leftDrops, invalidatePage_edits rightSound
            (canInvalidate_unreserved (not_not.mp rightCan))⟩

/-- What a rekey may change. -/
def rekeyKinds (fromPage toPage toGeneration : Nat) (kind : Kind) : Prop :=
  kind = .move fromPage toPage toGeneration

theorem rekey_edits (geometry : Geometry) (store : PageStore) (fromPage fromGeneration toPage toGeneration : Nat) :
    Edits geometry (rekeyKinds fromPage toPage toGeneration) store
      (store.rekey geometry fromPage fromGeneration toPage toGeneration).2 := by
  unfold rekey
  split
  · exact Edits.none store
  · rename_i good
    simp only [not_or, not_le] at good
    obtain ⟨-, -, different, -, inRange⟩ := good
    split
    · exact Edits.none store
    · cases linked : store.backingSlotsByLogicalPage fromPage with
      | none => exact Edits.none store
      | some slot =>
        dsimp only
        split
        · rename_i movable
          exact Edits.one (.move different inRange movable.1 linked movable.2.2.2.2.1) rfl
        · exact Edits.none store

/-- What a supersede may change. -/
def supersedeKinds (page : Nat) : Kind → Prop
  | .supersede _ => True
  | .dropQueued _ => True
  | kind => dropKinds page kind

/-- After the end of a supersede no valid record with this key is left. -/
theorem dropRecord_path (sound : store.Sound geometry) (page generation : Nat) :
    (store.dropRecord geometry page generation).1 = .ok ∧
      ((store.dropRecord geometry page generation).2.validPages page = .valid →
        (store.dropRecord geometry page generation).2.generations page ≠ generation) ∧
      (store.dropRecord geometry page generation).2.jobs = store.jobs ∧
      (Edits geometry tidies store (store.dropRecord geometry page generation).2 ∨
        store.validPages page = .valid ∧ store.generations page = generation ∧
        Edit geometry (.release page) store (store.dropRecord geometry page generation).2) := by
  unfold dropRecord
  split
  · rename_i here
    obtain ⟨succeeds, releases, invalid⟩ := releaseValid sound here.1
    refine ⟨succeeds, ?_, releaseBackingSlot_jobs .., .inr ⟨here.1, here.2.1, releases⟩⟩
    intro valid
    rw [invalid] at valid
    cases valid
  · rename_i absent
    have gone : store.validPages page = .valid → store.generations page ≠ generation := by
      intro valid same
      have mapped := (sound.mapped page).mpr (.inl valid)
      refine absent ⟨valid, same, ?_⟩
      intro unmapped
      rw [unmapped] at mapped
      cases mapped
    split
    · rename_i same
      refine ⟨rfl, ?_, forgetWriteFailure_jobs, .inl (forgetWriteFailure_edits trivial)⟩
      intro valid
      by_cases failed : store.validPages page = .writeFailed
      · rw [forgetWriteFailure_forgotten failed] at valid
        cases valid
      · rw [forgetWriteFailure_of_ne failed] at valid ⊢
        exact gone valid
    · exact ⟨rfl, gone, rfl, .inl (Edits.none store)⟩

theorem dropRecord_edits (sound : store.Sound geometry) (page generation : Nat) :
    Edits geometry (supersedeKinds page) store (store.dropRecord geometry page generation).2 := by
  obtain ⟨-, -, -, tidied | ⟨-, -, releases⟩⟩ := dropRecord_path sound page generation
  · refine tidied.widen fun kind tidy => ?_
    cases kind <;> first | exact tidy | trivial
  · exact Edits.one releases rfl

/-- A queued write loses its slot without a complaint. -/
theorem dropQueued_ok (sound : store.Sound geometry)
    (keyed : (store.jobs index).isFor .deviceToHost page generation = true)
    (queued : (store.jobs index).state = .queued) :
    (if (store.jobs index).reservesBackingPage then
        store.releaseBackingSlot geometry page (some (store.jobs index).backingSlotIndex)
      else (.ok, store)) =
        (.ok, (store.unmap (store.jobs index).logicalPageIndex
          (store.jobs index).backingSlotIndex).logRelease .ok) ∧
      (store.jobs index).writing = true := by
  obtain ⟨-, writes, onPage, -⟩ := Job.isFor_iff.mp keyed
  have writing := Job.writing_iff.mpr ⟨writes, .inl queued⟩
  obtain ⟨reserves, linked, -⟩ := sound.holds index writing
  rw [if_pos reserves, ← onPage, sound.tabled.release linked]
  exact ⟨rfl, writing⟩

/-- What a supersede does to the page's write job. -/
def settlesJob : Kind → Prop
  | .supersede _ => True
  | .dropQueued _ => True
  | kind => tidies kind

/-- A reserved page has no record to drop. -/
theorem dropRecord_reserved (reserved : store.validPages page = .reserved) :
    store.dropRecord geometry page generation = (.ok, store) := by
  have intact : store.forgetWriteFailure page = store :=
    forgetWriteFailure_of_ne (by rw [reserved]; decide)
  unfold dropRecord
  rw [intact, ite_self]
  apply if_neg
  rintro ⟨valid, -⟩
  rw [reserved] at valid
  cases valid

variable (sound : store.Sound geometry)
include sound

/-- A supersede first leaves no write job for the page but one that is active and marked, and then
drops the record. -/
theorem supersede_path (good : badRecord geometry page generation = false) :
    ∃ middle, Edits geometry settlesJob store middle ∧
      (∀ index, (middle.jobs index).isFor .deviceToHost page generation = true →
        (middle.jobs index).superseded = true ∧ (middle.jobs index).state = .active) ∧
      store.supersede geometry page generation = middle.dropRecord geometry page generation := by
  unfold supersede
  rw [good, if_neg Bool.false_ne_true]
  cases found : store.findJob geometry .deviceToHost page generation with
  | none =>
    refine ⟨store, Edits.none store, fun index keyed => ?_, rfl⟩
    rw [sound.findJob_none found] at keyed
    cases keyed
  | some index =>
    have keyed := findJob_some found
    dsimp only
    cases state : (store.jobs index).state with
    | free => exact absurd state (Job.isFor_iff.mp keyed).1
    | queued =>
      dsimp only
      obtain ⟨released, writing⟩ := dropQueued_ok sound keyed state
      rw [released]
      refine ⟨_, Edits.one (.dropQueued state writing) trivial, fun other keyedToo => ?_, rfl⟩
      have fresh : ((store.clearJob index).jobs other).isFor .deviceToHost page generation = false :=
        sound.cleared_fresh keyed other
      have same : ((((store.unmap (store.jobs index).logicalPageIndex
          (store.jobs index).backingSlotIndex).logRelease .ok).clearJob index).jobs other) =
          (store.clearJob index).jobs other := rfl
      rw [same, fresh] at keyedToo
      cases keyedToo
    | active =>
      have marks : Edit geometry (.supersede index) store
          (store.setJob index { store.jobs index with superseded := true }) := .supersede state
      obtain ⟨-, writes, onPage, -⟩ := Job.isFor_iff.mp keyed
      have reserved := (sound.holds index (Job.writing_iff.mpr ⟨writes, .inr state⟩)).2.2
      rw [onPage] at reserved
      have marked : (store.setJob index { store.jobs index with superseded := true }).jobs index =
          { store.jobs index with superseded := true } := update_self ..
      refine ⟨store.setJob index { store.jobs index with superseded := true },
        Edits.one marks trivial, fun other keyedToo => ?_, ?_⟩
      · by_cases here : other = index
        · subst here
          rw [marked]
          exact ⟨rfl, state⟩
        · have untouched : (store.setJob index { store.jobs index with superseded := true }).jobs other =
              store.jobs other := update_of_ne here ..
          rw [untouched] at keyedToo
          exact absurd (sound.keyed other index page generation keyedToo keyed) here
      · dsimp only
        rw [← state]
        have still : (store.setJob index { store.jobs index with superseded := true }).validPages page =
            .reserved := reserved
        exact (dropRecord_reserved still).symm
    | complete =>
      refine ⟨store.clearJob index, clearJob_edits (Job.complete_not_inFlight state) trivial,
        fun other keyedToo => ?_, rfl⟩
      rw [sound.cleared_fresh keyed other] at keyedToo
      cases keyedToo

theorem supersede_edits (page generation : Nat) :
    Edits geometry (supersedeKinds page) store (store.supersede geometry page generation).2 := by
  cases bad : badRecord geometry page generation with
  | true =>
    unfold supersede
    rw [bad]
    exact Edits.none store
  | false =>
    obtain ⟨middle, settled, -, same⟩ := supersede_path sound bad
    rw [same]
    refine (settled.widen fun kind settles => ?_).andThen (dropRecord_edits (sound.edits settled) page generation)
    cases kind <;> first | exact settles | trivial

theorem releaseIdle_path (page generation : Nat) :
    (store.releaseIdle geometry page generation).2 = store ∨
      store.hasJobOn geometry page = false ∧
        Edit geometry (.release page) store (store.releaseIdle geometry page generation).2 := by
  unfold releaseIdle
  split
  · exact .inl rfl
  · split
    · exact .inl rfl
    · rename_i idle
      split
      · rename_i here
        exact .inr ⟨Bool.eq_false_iff.mpr idle, (releaseValid sound here.1).2.1⟩
      · exact .inl rfl

theorem releaseIdle_edits (page generation : Nat) :
    Edits geometry (dropKinds page) store (store.releaseIdle geometry page generation).2 := by
  rcases releaseIdle_path sound page generation with same | ⟨-, releases⟩
  · rw [same]
    exact Edits.none store
  · exact Edits.one releases rfl

end Owner

end PageStore

end Sparkpipe.KvPageStore
