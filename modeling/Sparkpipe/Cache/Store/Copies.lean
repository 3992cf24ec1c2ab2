import Sparkpipe.Cache.Store.Contents

/-!
# The copies a store vouches for

The invariant behind the contents: a valid copy that nobody is writing is what its page
holds, a write that may still be recorded has a resident page to copy, and a read under
way is of a valid record and not of a page that is being written.
-/

namespace Sparkpipe.KvPageStore

open Function

namespace World

open PageStore

variable {geometry : Geometry} {digest : PageBytes → Digest} {world : World} {after : PageStore}
  {kind : Kind} {key : Key} {index page slot : Nat}

/-- What the copies and the jobs hold. -/
structure Copied (digest : PageBytes → Digest) (world : World) : Prop where
  device : ∀ key, world.resident key = true → world.writing key = false →
    world.device key = world.settled key
  pinned : ∀ key, world.writing key = true → world.resident key = true
  valid : ∀ page slot, world.store.validPages page = .valid →
    world.store.backingSlotsByLogicalPage page = some slot →
    world.store.slotDigests slot = digest (world.file slot) ∧
      (world.writing (page, world.store.generations page) = false →
        world.file slot = world.settled (page, world.store.generations page))
  writer : ∀ index, (world.store.jobs index).writing = true →
    (world.store.jobs index).superseded = false → world.resident (world.store.jobs index).key = true
  torn : ∀ index, world.store.running = some index →
    (world.store.jobs index).direction = .deviceToHost →
    (world.store.jobs index).superseded = false → world.changed = true →
    world.writing (world.store.jobs index).key = true
  completed : ∀ index, (world.store.jobs index).state = .complete →
    (world.store.jobs index).direction = .deviceToHost →
    (world.store.jobs index).terminalStatus = .ok →
    world.store.validPages (world.store.jobs index).logicalPageIndex = .valid ∧
      world.store.generations (world.store.jobs index).logicalPageIndex =
        (world.store.jobs index).generation
  reading : ∀ index, (world.store.jobs index).inFlight = true →
    (world.store.jobs index).direction = .hostToDevice →
    world.store.validPages (world.store.jobs index).logicalPageIndex = .valid ∧
      world.store.generations (world.store.jobs index).logicalPageIndex =
        (world.store.jobs index).generation ∧
      world.store.backingSlotsByLogicalPage (world.store.jobs index).logicalPageIndex =
        some (world.store.jobs index).backingSlotIndex ∧
      (world.store.jobs index).digest =
        world.store.slotDigests (world.store.jobs index).backingSlotIndex ∧
      world.file (world.store.jobs index).backingSlotIndex = world.settled (world.store.jobs index).key ∧
      (world.store.jobs index).storageFailed = false
  readKeyed : ∀ one other page generation, (world.store.jobs one).isFor .hostToDevice page generation = true →
    (world.store.jobs other).isFor .hostToDevice page generation = true → one = other
  directed : ∀ index, (world.store.jobs index).state ≠ .free →
    (world.store.jobs index).direction ≠ .none
  delivered : ∀ index, (world.store.jobs index).state = .complete →
    (world.store.jobs index).direction = .hostToDevice →
    (world.store.jobs index).terminalStatus = .ok →
    world.delivered index = world.settled (world.store.jobs index).key
  starting : ∀ key, world.phase = .starting key → world.store.validPages key.1 = .valid ∧
    world.store.generations key.1 = key.2 ∧ world.writing key = false ∧
    ∀ index, (world.store.jobs index).isFor .hostToDevice key.1 key.2 = false

/-- The part of it that one job has. -/
structure JobCopied (world : World) (index : Nat) (job : Job) : Prop where
  writer : job.writing = true → job.superseded = false → world.resident job.key = true
  torn : world.store.running = some index → job.direction = .deviceToHost → job.superseded = false →
    world.changed = true → world.writing job.key = true
  completed : job.state = .complete → job.direction = .deviceToHost → job.terminalStatus = .ok →
    world.store.validPages job.logicalPageIndex = .valid ∧
      world.store.generations job.logicalPageIndex = job.generation
  reading : job.inFlight = true → job.direction = .hostToDevice →
    world.store.validPages job.logicalPageIndex = .valid ∧
      world.store.generations job.logicalPageIndex = job.generation ∧
      world.store.backingSlotsByLogicalPage job.logicalPageIndex = some job.backingSlotIndex ∧
      job.digest = world.store.slotDigests job.backingSlotIndex ∧
      world.file job.backingSlotIndex = world.settled job.key ∧ job.storageFailed = false
  directed : job.state ≠ .free → job.direction ≠ .none
  delivered : job.state = .complete → job.direction = .hostToDevice → job.terminalStatus = .ok →
    world.delivered index = world.settled job.key

theorem Copied.job (copied : world.Copied digest) (index : Nat) :
    world.JobCopied index (world.store.jobs index) :=
  ⟨copied.writer index, copied.torn index, copied.completed index, copied.reading index, copied.directed index,
    copied.delivered index⟩

/-- The invariant. -/
structure Kept (geometry : Geometry) (digest : PageBytes → Digest) (world : World) : Prop where
  sound : world.store.Sound geometry
  copied : world.Copied digest

/-- What an edit by the owner needs so that the invariant is kept. -/
def Fits (world : World) : Kind → Prop
  | .release page =>
    (∀ index, (world.store.jobs index).inFlight = true →
      (world.store.jobs index).direction = .hostToDevice →
      (world.store.jobs index).logicalPageIndex ≠ page) ∧
    (∀ index, (world.store.jobs index).state = .complete →
      (world.store.jobs index).direction = .deviceToHost →
      (world.store.jobs index).terminalStatus = .ok →
      (world.store.jobs index).logicalPageIndex ≠ page) ∧
    ∀ key, world.phase = .starting key → key.1 ≠ page
  | .queueWrite write => world.resident write.key = true
  | .queueRead page generation => world.store.validPages page = .valid ∧
      world.store.generations page = generation ∧ world.writing (page, generation) = false ∧
      world.phase = .idle ∧
      ∀ index, (world.store.jobs index).isFor .hostToDevice page generation = false
  | .move _ _ _ => False
  | _ => True

/-- The world with another store. -/
def withStore (world : World) (store : PageStore) : World := { world with store := store }

section Edits

/-- What no job has a part in is the same in both worlds. -/
structure SamePages (world next : World) : Prop where
  states : next.store.validPages = world.store.validPages
  generations : next.store.generations = world.store.generations
  slots : next.store.backingSlotsByLogicalPage = world.store.backingSlotsByLogicalPage
  digests : next.store.slotDigests = world.store.slotDigests
  file : next.file = world.file
  device : next.device = world.device
  resident : next.resident = world.resident
  settled : next.settled = world.settled
  writing : next.writing = world.writing
  phase : next.phase = world.phase

/-- The part of one job depends on the pages, on what it has delivered and on whether the worker runs it on a page
that has changed. -/
theorem JobCopied.carry {next : World} {job : Job} (held : world.JobCopied index job)
    (same : world.SamePages next)
    (runs : next.store.running = some index → next.changed = true →
      world.store.running = some index ∧ world.changed = true)
    (delivered : next.delivered index = world.delivered index) : next.JobCopied index job := by
  obtain ⟨states, generations, slots, digests, file, -, resident, settled, writing, -⟩ := same
  refine ⟨?_, ?_, ?_, ?_, held.directed, ?_⟩
  · rw [resident]
    exact held.writer
  · intro executes writes current torn
    obtain ⟨before, changed⟩ := runs executes torn
    rw [writing]
    exact held.torn before writes current changed
  · rw [states, generations]
    exact held.completed
  · rw [states, generations, slots, digests, file, settled]
    exact held.reading
  · rw [delivered, settled]
    exact held.delivered

/-- The invariant, job by job. -/
theorem Copied.of_parts (parts : ∀ index, world.JobCopied index (world.store.jobs index))
    (device : ∀ key, world.resident key = true → world.writing key = false → world.device key = world.settled key)
    (pinned : ∀ key, world.writing key = true → world.resident key = true)
    (valid : ∀ page slot, world.store.validPages page = .valid →
      world.store.backingSlotsByLogicalPage page = some slot →
      world.store.slotDigests slot = digest (world.file slot) ∧
        (world.writing (page, world.store.generations page) = false →
          world.file slot = world.settled (page, world.store.generations page)))
    (readKeyed : ∀ one other page generation, (world.store.jobs one).isFor .hostToDevice page generation = true →
      (world.store.jobs other).isFor .hostToDevice page generation = true → one = other)
    (starting : ∀ key, world.phase = .starting key → world.store.validPages key.1 = .valid ∧
      world.store.generations key.1 = key.2 ∧ world.writing key = false ∧
      ∀ index, (world.store.jobs index).isFor .hostToDevice key.1 key.2 = false) : world.Copied digest where
  device := device
  pinned := pinned
  valid := valid
  writer index := (parts index).writer
  torn index := (parts index).torn
  completed index := (parts index).completed
  reading index := (parts index).reading
  readKeyed := readKeyed
  directed index := (parts index).directed
  delivered index := (parts index).delivered
  starting := starting

section

variable (copied : world.Copied digest)
include copied

/-- One job changes and the pages do not: the new job has its own part, and reads what the old one read or what
nobody reads or is about to read. -/
theorem Copied.changeJob {next : World} {job : Job} (same : world.SamePages next)
    (jobs : next.store.jobs = update world.store.jobs index job)
    (others : ∀ other, other ≠ index →
      (next.store.running = some other → next.changed = true →
        world.store.running = some other ∧ world.changed = true) ∧
      next.delivered other = world.delivered other)
    (held : next.JobCopied index job)
    (reads : ∀ page generation, job.isFor .hostToDevice page generation = true →
      (world.store.jobs index).isFor .hostToDevice page generation = true ∨
      world.phase = .idle ∧ ∀ other, (world.store.jobs other).isFor .hostToDevice page generation = false) :
    next.Copied digest := by
  have parts : ∀ other, next.JobCopied other (next.store.jobs other) := by
    intro other
    rw [jobs]
    by_cases here : other = index
    · subst here
      rw [update_self]
      exact held
    · rw [update_of_ne here]
      exact (copied.job other).carry same (others other here).1 (others other here).2
  -- a read of the new store is one of the old, or of what no job of the old store reads
  have readKey : ∀ other page generation, (next.store.jobs other).isFor .hostToDevice page generation = true →
      (world.store.jobs other).isFor .hostToDevice page generation = true ∨
      other = index ∧ world.phase = .idle ∧
        ∀ another, (world.store.jobs another).isFor .hostToDevice page generation = false := by
    intro other page generation keyed
    rw [jobs] at keyed
    by_cases here : other = index
    · subst here
      rw [update_self] at keyed
      exact (reads page generation keyed).imp_right fun fresh => ⟨rfl, fresh⟩
    · rw [update_of_ne here] at keyed
      exact .inl keyed
  obtain ⟨states, generations, slots, digests, file, device, resident, settled, writing, phase⟩ := same
  refine .of_parts parts (by rw [device, resident, settled, writing]; exact copied.device)
    (by rw [resident, writing]; exact copied.pinned)
    (by rw [states, generations, slots, digests, file, settled, writing]; exact copied.valid)
    (fun one other page generation first second => ?_) fun key starts => ?_
  · rcases readKey one page generation first with oneRead | ⟨oneHere, -, oneFresh⟩ <;>
      rcases readKey other page generation second with otherRead | ⟨otherHere, -, otherFresh⟩
    · exact copied.readKeyed one other page generation oneRead otherRead
    · rw [otherFresh one] at oneRead
      cases oneRead
    · rw [oneFresh other] at otherRead
      cases otherRead
    · exact oneHere.trans otherHere.symm
  · rw [phase] at starts
    obtain ⟨valid, generation, quiet, unread⟩ := copied.starting key starts
    rw [states, generations, writing]
    refine ⟨valid, generation, quiet, fun other => Bool.eq_false_iff.mpr fun keyed => ?_⟩
    rcases readKey other key.1 key.2 keyed with found | ⟨-, idle, -⟩
    · rw [unread other] at found
      cases found
    · rw [starts] at idle
      cases idle

/-- Whoever reads, wrote or is about to read a page has found it valid. -/
theorem Copied.unused (other : world.store.validPages page ≠ .valid) :
    world.Fits (.release page) := by
  refine ⟨fun index flies reads onPage => ?_, fun index complete writes succeeded onPage => ?_,
    fun key starts onPage => ?_⟩
  · exact other (onPage ▸ (copied.reading index flies reads).1)
  · exact other (onPage ▸ (copied.completed index complete writes succeeded).1)
  · exact other (onPage ▸ (copied.starting key starts).1)

/-- The record of one page changes and is not valid afterwards; nobody relied on it. -/
theorem Copied.dropRecord (page : Nat) (fits : world.Fits (.release page))
    (jobs : after.jobs = world.store.jobs) (running : after.running = world.store.running)
    (digests : after.slotDigests = world.store.slotDigests) (invalid : after.validPages page ≠ .valid)
    (others : ∀ other, other ≠ page → after.validPages other = world.store.validPages other ∧
      after.generations other = world.store.generations other ∧
      after.backingSlotsByLogicalPage other = world.store.backingSlotsByLogicalPage other) :
    (world.withStore after).Copied digest := by
  obtain ⟨unread, uncollected, unstarted⟩ := fits
  have parts : ∀ index, (world.withStore after).JobCopied index (after.jobs index) := by
    intro index
    rw [jobs]
    refine { copied.job index with
      torn := fun executes => copied.torn index (running ▸ executes)
      completed := fun complete writes succeeded => ?_
      reading := fun flies reads => ?_ }
    · change after.validPages _ = _ ∧ after.generations _ = _
      obtain ⟨states, generations, -⟩ := others _ (uncollected index complete writes succeeded)
      rw [states, generations]
      exact copied.completed index complete writes succeeded
    · change after.validPages _ = _ ∧ after.generations _ = _ ∧ after.backingSlotsByLogicalPage _ = _ ∧
        _ = after.slotDigests _ ∧ _
      obtain ⟨states, generations, slots⟩ := others _ (unread index flies reads)
      rw [states, generations, slots, digests]
      exact copied.reading index flies reads
  refine .of_parts parts copied.device copied.pinned ?_ ?_ ?_
  · intro other slot valid linked
    change after.validPages other = .valid at valid
    change after.backingSlotsByLogicalPage other = some slot at linked
    change after.slotDigests slot = _ ∧ (world.writing (other, after.generations other) = false →
      world.file slot = world.settled (other, after.generations other))
    have different : other ≠ page := by
      rintro rfl
      exact invalid valid
    obtain ⟨states, generations, slots⟩ := others other different
    rw [states] at valid
    rw [slots] at linked
    rw [digests, generations]
    exact copied.valid other slot valid linked
  · change ∀ one other page generation, (after.jobs one).isFor _ page generation = true →
      (after.jobs other).isFor _ page generation = true → one = other
    rw [jobs]
    exact copied.readKeyed
  · intro key starts
    obtain ⟨valid, generation, quiet, unreadKey⟩ := copied.starting key starts
    obtain ⟨states, generations, -⟩ := others key.1 (unstarted key starts)
    exact ⟨states.trans valid, generations.trans generation, quiet, jobs ▸ unreadKey⟩

variable (states : after.validPages = world.store.validPages)
  (generations : after.generations = world.store.generations)
  (slots : after.backingSlotsByLogicalPage = world.store.backingSlotsByLogicalPage)
  (digests : after.slotDigests = world.store.slotDigests) (running : after.running = world.store.running)
include states generations slots digests running

/-- A job is cleared, or the one that runs is marked. -/
theorem Copied.setJob (index : Nat) (job : Job) (jobs : after.jobs = update world.store.jobs index job)
    (same : job = {} ∧ world.store.running ≠ some index ∨
      job = { world.store.jobs index with superseded := true } ∧
        (world.store.jobs index).state = .active) : (world.withStore after).Copied digest := by
  have pages : world.SamePages (world.withStore after) :=
    ⟨states, generations, slots, digests, rfl, rfl, rfl, rfl, rfl, rfl⟩
  have runs : ∀ other, after.running = some other → world.changed = true →
      world.store.running = some other ∧ world.changed = true :=
    fun other executes changed => ⟨running ▸ executes, changed⟩
  refine copied.changeJob pages jobs (fun other _ => ⟨runs other, rfl⟩) ?_ ?_
  · rcases same with ⟨rfl, rests⟩ | ⟨rfl, active⟩
    · exact ⟨nofun, fun executes => absurd (running ▸ executes) rests, nofun, nofun, fun busy => absurd rfl busy, nofun⟩
    · have held := (copied.job index).carry pages (runs index) rfl
      exact { held with
        writer := nofun
        torn := fun _ _ current => absurd current Bool.true_eq_false.mp
        completed := fun complete => absurd (active.symm.trans complete) JobState.noConfusion }
  · intro page generation keyed
    rcases same with ⟨rfl, -⟩ | ⟨rfl, -⟩
    · cases keyed
    · exact .inl keyed

/-- Only what the invariant does not look at changes. -/
theorem Copied.retable (jobs : after.jobs = world.store.jobs) : (world.withStore after).Copied digest := by
  obtain ⟨device, pinned, valid, writer, torn, completed, reading, readKeyed, directed, delivered, starting⟩ :=
    copied
  rw [← states, ← slots, ← digests, ← generations] at valid
  rw [← jobs] at writer readKeyed directed delivered
  rw [← jobs, ← running] at torn
  rw [← jobs, ← states, ← generations] at completed
  rw [← jobs, ← states, ← generations, ← slots, ← digests] at reading
  rw [← jobs, ← states, ← generations] at starting
  exact ⟨device, pinned, valid, writer, torn, completed, reading, readKeyed, directed, delivered, starting⟩

/-- A free job becomes a queued one. -/
theorem Copied.addJob (index : Nat) (job : Job) (jobs : after.jobs = update world.store.jobs index job)
    (rests : world.store.running ≠ some index) (queued : job.state = .queued)
    (directed : job.direction ≠ .none)
    (writes : job.direction = .deviceToHost → world.resident job.key = true)
    (reads : job.direction = .hostToDevice →
      (world.store.validPages job.logicalPageIndex = .valid ∧
      world.store.generations job.logicalPageIndex = job.generation ∧
      world.store.backingSlotsByLogicalPage job.logicalPageIndex = some job.backingSlotIndex ∧
      job.digest = world.store.slotDigests job.backingSlotIndex ∧
      world.file job.backingSlotIndex = world.settled job.key ∧ job.storageFailed = false) ∧
      world.phase = .idle ∧
      ∀ other, (world.store.jobs other).isFor .hostToDevice job.logicalPageIndex job.generation = false) :
    (world.withStore after).Copied digest := by
  have pages : world.SamePages (world.withStore after) :=
    ⟨states, generations, slots, digests, rfl, rfl, rfl, rfl, rfl, rfl⟩
  have held : world.JobCopied index job := {
    writer := fun writing _ => writes (Job.writing_iff.mp writing).1
    torn := fun executes => absurd executes rests
    completed := fun complete => absurd (queued.symm.trans complete) JobState.noConfusion
    reading := fun _ reading => (reads reading).1
    directed := fun _ => directed
    delivered := fun complete => absurd (queued.symm.trans complete) JobState.noConfusion }
  have runs : ∀ other, after.running = some other → world.changed = true →
      world.store.running = some other ∧ world.changed = true :=
    fun other executes changed => ⟨running ▸ executes, changed⟩
  refine copied.changeJob pages jobs (fun other _ => ⟨runs other, rfl⟩) (held.carry pages (runs index) rfl) ?_
  intro page generation keyed
  obtain ⟨-, direction, rfl, rfl⟩ := Job.isFor_iff.mp keyed
  exact .inr (reads direction).2

end

theorem Kept.edit (kept : Kept geometry digest world) (edit : Edit geometry kind world.store after)
    (fits : world.Fits kind) : Kept geometry digest (world.withStore after) := by
  refine ⟨kept.sound.edit edit, ?_⟩
  obtain ⟨sound, copied⟩ := kept
  have runs := fun other => (sound.running other).mpr
  have idle : ∀ {index}, (world.store.jobs index).state = .free → world.store.running ≠ some index :=
    fun free executes => absurd (free.symm.trans (runs _ executes)) JobState.noConfusion
  cases edit with
  | @clear _ index settled =>
    exact copied.setJob rfl rfl rfl rfl rfl index {} rfl
      (.inl ⟨rfl, fun executes => Job.settled_not_active settled (runs index executes)⟩)
  | @forget _ page failed =>
    have unvalid : world.store.validPages page ≠ .valid := by
      rw [failed]
      decide
    refine copied.dropRecord page (copied.unused unvalid) rfl rfl rfl ?_ fun other different =>
      ⟨update_of_ne different .., update_of_ne different .., rfl⟩
    change update world.store.validPages page .invalid page ≠ .valid
    rw [update_self]
    decide
  | @release _ page slot valid linked =>
    refine copied.dropRecord page fits rfl rfl rfl ?_ fun other different =>
      ⟨update_of_ne different .., update_of_ne different ..,
        update_of_ne different ..⟩
    change update world.store.validPages page .invalid page ≠ .valid
    rw [update_self]
    decide
  | @dropQueued _ index queued writes =>
    have reserved := (sound.holds index writes).2.2
    have cleared : (world.withStore (world.store.clearJob index)).Copied digest :=
      copied.setJob rfl rfl rfl rfl rfl index {} rfl (.inl ⟨rfl, fun executes =>
        absurd (queued.symm.trans (runs index executes)) JobState.noConfusion⟩)
    have unvalid : (world.withStore (world.store.clearJob index)).store.validPages
        (world.store.jobs index).logicalPageIndex ≠ .valid := by
      change world.store.validPages _ ≠ .valid
      rw [reserved]
      decide
    refine cleared.dropRecord (world.store.jobs index).logicalPageIndex (cleared.unused unvalid) rfl rfl rfl
      ?_ fun other different => ⟨update_of_ne different .., update_of_ne different ..,
        update_of_ne different ..⟩
    change update world.store.validPages _ PageState.invalid _ ≠ .valid
    rw [update_self]
    decide
  | @supersede _ index active =>
    exact copied.setJob rfl rfl rfl rfl rfl index { world.store.jobs index with superseded := true }
      rfl (.inr ⟨rfl, active⟩)
  | @queueWrite _ index slot write free inRange pageInRange slotInRange invalid empty fresh =>
    have unvalid : world.store.validPages write.page ≠ .valid := by
      rw [invalid]
      decide
    have reserved : (world.withStore (world.store.reserve write.page slot)).Copied digest := by
      refine copied.dropRecord write.page (copied.unused unvalid) rfl rfl rfl ?_ fun other different =>
        ⟨update_of_ne different .., rfl, update_of_ne different ..⟩
      change update world.store.validPages _ PageState.reserved _ ≠ .valid
      rw [update_self]
      decide
    exact reserved.addJob rfl rfl rfl rfl rfl index _ rfl (idle free) rfl Direction.noConfusion (fun _ => fits)
      fun impossible => nomatch impossible
  | @queueRead _ index page generation job free inRange queued reads linked digested intact =>
    obtain ⟨-, direction, rfl, rfl⟩ := Job.isFor_iff.mp reads
    obtain ⟨valid, generation, quiet, owner, unread⟩ := fits
    have holds := (copied.valid _ _ valid linked).2
    rw [generation] at holds
    refine copied.addJob rfl rfl rfl rfl rfl index job rfl (idle free) queued ?_ ?_
      fun _ => ⟨⟨valid, generation, linked, digested, holds quiet, intact⟩, owner, unread⟩
    · rw [direction]
      decide
    · rw [direction]
      exact fun impossible => nomatch impossible
  | @move _ fromPage toPage toGeneration slot different inRange valid linked invalid => exact fits.elim

/-- Edits that need nothing. -/
theorem Kept.edits {allowed : Kind → Prop} (kept : Kept geometry digest world)
    (edits : Edits geometry allowed world.store after)
    (free : ∀ kind, allowed kind → ∀ now : World, now.Fits kind) :
    Kept geometry digest (world.withStore after) := by
  have all := edits.keep (P := fun store : PageStore => Kept geometry digest (world.withStore store))
    (fun kind before later allow edit now => now.edit edit (free kind allow _)) kept
  exact all

theorem tidies_fits (tidy : tidies kind) (now : World) : now.Fits kind := by
  cases kind <;> trivial

theorem settlesJob_fits (settles : settlesJob kind) (now : World) : now.Fits kind := by
  cases kind <;> trivial

end Edits

section Lanes

theorem Kept.pin (kept : Kept geometry digest world) (key : Key) :
    Kept geometry digest (world.pin geometry key) := by
  unfold World.pin
  split
  · rename_i able
    obtain ⟨resident, -, idle⟩ := able
    have quiet : ∀ other, update world.writing key true other = false →
        world.writing other = false := by
      intro other unwritten
      by_cases here : other = key
      · rw [here, update_self] at unwritten
        cases unwritten
      · rwa [update_of_ne here] at unwritten
    have copied := kept.copied
    refine ⟨kept.sound, { copied with
      device := fun other isResident unwritten => copied.device other isResident (quiet other unwritten)
      pinned := fun other written => ?_
      valid := fun page slot isValid linked => ⟨(copied.valid page slot isValid linked).1,
        fun unwritten => (copied.valid page slot isValid linked).2 (quiet _ unwritten)⟩
      torn := fun index runs writes current torn => ?_
      starting := fun other starts => ?_ }⟩
    · change update world.writing key true other = true at written
      change world.resident other = true
      by_cases here : other = key
      · exact here ▸ resident
      · rw [update_of_ne here] at written
        exact copied.pinned other written
    · change update world.writing key true (world.store.jobs index).key = true
      by_cases here : (world.store.jobs index).key = key
      · rw [here, update_self]
      · rw [update_of_ne here]
        exact copied.torn index runs writes current torn
    · change world.phase = .starting other at starts
      rw [idle] at starts
      cases starts
  · exact kept

theorem Kept.change (kept : Kept geometry digest world) (key : Key) (bytes : PageBytes) :
    Kept geometry digest (world.change key bytes) := by
  unfold World.change
  split
  · rename_i written
    have copied := kept.copied
    refine ⟨kept.sound, { copied with
      device := fun other isResident unwritten => ?_
      torn := fun index runs writes current torn => ?_ }⟩
    · change update world.device key bytes other = _
      have different : other ≠ key := by
        rintro rfl
        exact absurd (written.symm.trans unwritten) Bool.true_eq_false.mp
      rw [update_of_ne different]
      exact copied.device other isResident unwritten
    · change (world.changed || world.copying key) = true at torn
      rcases Bool.or_eq_true_iff.mp torn with before | now
      · exact copied.torn index runs writes current before
      · change world.store.running = some index at runs
        simp only [World.copying, runs, Bool.and_eq_true, decide_eq_true_eq] at now
        change world.writing (world.store.jobs index).key = true
        rw [now.2]
        exact written
  · exact kept

/-- Settling the write jobs of a page queues no read. -/
theorem settlesJob_unread {before after : PageStore} {generation : Nat}
    (edits : Edits geometry settlesJob before after)
    (unread : ∀ index, (before.jobs index).isFor .hostToDevice page generation = false) :
    ∀ index, (after.jobs index).isFor .hostToDevice page generation = false := by
  refine edits.keep (P := fun store : PageStore =>
    ∀ index, (store.jobs index).isFor .hostToDevice page generation = false) ?_ unread
  intro kind before after allow edit quiet index
  have cleared : ∀ changed, (update before.jobs changed {} index).isFor .hostToDevice page generation =
      false := by
    intro changed
    by_cases here : index = changed
    · rw [here, update_self]
      rfl
    · rw [update_of_ne here]
      exact quiet index
  cases edit with
  | @clear _ changed _ => exact cleared changed
  | @dropQueued _ changed _ _ => exact cleared changed
  | forget _ => exact quiet index
  | @supersede _ changed active =>
    change (update before.jobs changed { before.jobs changed with superseded := true }
      index).isFor .hostToDevice page generation = false
    by_cases here : index = changed
    · subst here
      rw [update_self]
      exact quiet index
    · rw [update_of_ne here]
      exact quiet index
  | release _ _ => exact allow.elim
  | queueWrite _ _ _ _ _ _ _ => exact allow.elim
  | queueRead _ _ _ _ _ _ _ => exact allow.elim
  | move _ _ _ _ _ => exact allow.elim

theorem Kept.complete (kept : Kept geometry digest world)
    (unread : world.store.findJob geometry .hostToDevice key.1 key.2 = none) :
    Kept geometry digest (world.complete geometry key) := by
  unfold World.complete
  split
  · rename_i able
    obtain ⟨written, idle⟩ := able
    cases bad : PageStore.badRecord geometry key.1 key.2 with
    | true =>
      have refused : world.store.supersede geometry key.1 key.2 = (.invalidArgument, world.store) := by
        unfold PageStore.supersede
        exact if_pos bad
      rw [refused]
      exact kept
    | false =>
      obtain ⟨middle, settles, marked, same⟩ := supersede_path kept.sound bad
      have first := kept.edits settles fun _ allow now => settlesJob_fits allow now
      have stillUnread := settlesJob_unread settles (kept.sound.findJob_none unread)
      -- a read of some page reads another one
      have apart : ∀ index, (middle.jobs index).state ≠ .free →
          (middle.jobs index).direction = .hostToDevice → (middle.jobs index).key ≠ key := by
        intro index busy reads here
        have keyed := Job.isFor_iff.mpr ⟨busy, reads, congrArg Prod.fst here, congrArg Prod.snd here⟩
        rw [stillUnread index] at keyed
        cases keyed
      obtain ⟨succeeds, gone, jobs, last⟩ := dropRecord_path first.sound key.1 key.2
      change (middle.dropRecord geometry key.1 key.2).1 = .ok at succeeds
      -- the store after the supersede, with the page still being written
      have second : Kept geometry digest (world.withStore (middle.dropRecord geometry key.1 key.2).2) := by
        rcases last with tidied | ⟨valid, generation, releases⟩
        · exact first.edits tidied fun _ allow now => tidies_fits allow now
        · refine first.edit releases ⟨fun index flies reads onPage => ?_,
            fun index complete writes succeeded onPage => ?_, fun other starts => ?_⟩
          · obtain ⟨-, sameGeneration, -⟩ := first.copied.reading index flies reads
            rw [onPage] at sameGeneration
            change (middle.jobs index).inFlight = true at flies
            have busy : (middle.jobs index).state ≠ .free := by
              intro free
              rw [Job.free_not_inFlight free] at flies
              cases flies
            exact apart index busy reads (Prod.ext onPage (sameGeneration.symm.trans generation))
          · obtain ⟨-, sameGeneration⟩ := first.copied.completed index complete writes succeeded
            rw [onPage] at sameGeneration
            change (middle.jobs index).state = .complete at complete
            have keyed : (middle.jobs index).isFor .deviceToHost key.1 key.2 = true :=
              Job.isFor_iff.mpr ⟨by rw [complete]; decide, writes, onPage,
                sameGeneration.symm.trans generation⟩
            have active := (marked index keyed).2
            rw [complete] at active
            cases active
          · change world.phase = .starting other at starts
            rw [idle] at starts
            cases starts
      rw [same, if_pos succeeds]
      change (middle.dropRecord geometry key.1 key.2).2.jobs = middle.jobs at jobs
      change (middle.dropRecord geometry key.1 key.2).2.validPages key.1 = .valid →
        (middle.dropRecord geometry key.1 key.2).2.generations key.1 ≠ key.2 at gone
      have copied := second.copied
      generalize (middle.dropRecord geometry key.1 key.2).2 = dropped at jobs gone second copied
      have quiet : ∀ other, other ≠ key → update world.writing key false other = world.writing other :=
        fun other different => update_of_ne different ..
      have settledElse : ∀ other, other ≠ key →
          update world.settled key (world.device key) other = world.settled other :=
        fun other different => update_of_ne different ..
      refine ⟨second.sound, { copied with
        device := fun other isResident unwritten => ?_
        pinned := fun other isWritten => ?_
        valid := fun page slot isValid linked => ⟨(copied.valid page slot isValid linked).1,
          fun unwritten => ?_⟩
        torn := fun index runs writes current torn => ?_
        reading := fun index flies reads => ?_
        delivered := fun index complete reads succeeded => ?_
        starting := fun other starts => ?_ }⟩
      · change world.device other = update world.settled key (world.device key) other
        by_cases here : other = key
        · rw [here, update_self]
        · change update world.writing key false other = false at unwritten
          rw [quiet other here] at unwritten
          rw [settledElse other here]
          exact copied.device other isResident unwritten
      · change update world.writing key false other = true at isWritten
        by_cases here : other = key
        · rw [here, update_self] at isWritten
          cases isWritten
        · rw [quiet other here] at isWritten
          exact copied.pinned other isWritten
      · change world.file slot = update world.settled key (world.device key)
          (page, dropped.generations page)
        change update world.writing key false (page, dropped.generations page) = false at unwritten
        have here : (page, dropped.generations page) ≠ key := by
          intro here
          cases here
          exact gone isValid rfl
        rw [quiet _ here] at unwritten
        rw [settledElse _ here]
        exact (copied.valid page slot isValid linked).2 unwritten
      · change update world.writing key false (dropped.jobs index).key = true
        have isWritten := copied.torn index runs writes current torn
        have active := (second.sound.running index).mpr runs
        change (dropped.jobs index).state = .active at active
        have different : (dropped.jobs index).key ≠ key := by
          intro here
          have keyed : (middle.jobs index).isFor .deviceToHost key.1 key.2 = true := by
            rw [← jobs]
            exact Job.isFor_iff.mpr ⟨by rw [active]; decide, writes, congrArg Prod.fst here,
              congrArg Prod.snd here⟩
          have superseded := (marked index keyed).1
          rw [← jobs] at superseded
          change (dropped.jobs index).superseded = false at current
          rw [current] at superseded
          cases superseded
        rw [quiet _ different]
        exact isWritten
      · obtain ⟨valid, generation, linked, digested, holds, intact⟩ := copied.reading index flies reads
        change (dropped.jobs index).inFlight = true at flies
        change (dropped.jobs index).direction = .hostToDevice at reads
        have busy : (dropped.jobs index).state ≠ .free := by
          intro free
          rw [Job.free_not_inFlight free] at flies
          cases flies
        rw [← jobs] at apart
        exact ⟨valid, generation, linked, digested,
          holds.trans (settledElse _ (apart index busy reads)).symm, intact⟩
      · change (dropped.jobs index).state = .complete at complete
        change (dropped.jobs index).direction = .hostToDevice at reads
        rw [← jobs] at apart
        have brought := copied.delivered index complete reads succeeded
        exact brought.trans (settledElse _ (apart index (by rw [complete]; decide) reads)).symm
      · change world.phase = .starting other at starts
        rw [idle] at starts
        cases starts
  · exact kept

end Lanes

section Owner

variable {write : PageStore.Write}

/-- A prefetch starts only for a page that is not resident and has a valid record and no read. -/
theorem choosePrefetch_start {store : PageStore} {resolved : SparkStatus} {view : PageStore.BlockView}
    (chosen : store.choosePrefetch geometry page (resolved, view) = .start) :
    view.resident = false ∧ store.validPages page = .valid ∧ store.generations page = view.generation ∧
      store.findJob geometry .hostToDevice page view.generation = none := by
  unfold choosePrefetch at chosen
  dsimp only at chosen
  split at chosen
  · cases chosen
  · split at chosen
    · cases chosen
    · split at chosen
      · cases chosen
      · rename_i absent
        split at chosen
        · rename_i usable
          split at chosen
          · cases chosen
          · rename_i idle
            exact ⟨Bool.eq_false_iff.mpr absent, usable.2.1, usable.2.2.1,
              Option.not_isSome_iff_eq_none.mp idle⟩
        · cases chosen

theorem finishPrefetch_ok {store : PageStore} {generation : Nat}
    (found : store.findJob geometry .hostToDevice page generation = some index)
    (succeeded : (store.finishPrefetch geometry page generation).1 = .ok) :
    (store.jobs index).state = .complete ∧ (store.jobs index).terminalStatus = .ok := by
  unfold finishPrefetch at succeeded
  rw [found] at succeeded
  dsimp only at succeeded
  split at succeeded
  · cases succeeded
  · rename_i complete
    simp only [not_or, ne_eq, not_not] at complete
    exact ⟨complete.2, succeeded⟩

variable (kept : Kept geometry digest world)
include kept

/-- A writeback that returns `OK` finds and leaves a valid copy. -/
theorem Kept.parkedValid (succeeded : (world.store.writeback geometry write).1 = .ok) :
    world.store.validPages write.page = .valid ∧ world.store.generations write.page = write.generation ∧
      (world.store.writeback geometry write).2.validPages write.page = .valid := by
  rcases writeback_ok succeeded with ⟨index, keyed, complete, terminal, after⟩ | ⟨valid, generation, states⟩
  · obtain ⟨-, writes, onPage, atGeneration⟩ := Job.isFor_iff.mp keyed
    obtain ⟨valid, generation⟩ := kept.copied.completed index complete writes terminal
    rw [onPage] at valid generation
    refine ⟨valid, generation.trans atGeneration, ?_⟩
    rw [after, forgetWriteFailure_of_ne]
    · exact valid
    · change world.store.validPages write.page ≠ .writeFailed
      rw [valid]
      decide
  · exact ⟨valid, generation, (congrFun states write.page).trans valid⟩

theorem Kept.park (write : PageStore.Write) (evicts : Bool) (junk : PageBytes) :
    Kept geometry digest (world.park geometry write evicts junk) := by
  unfold World.park
  split
  · rename_i resident
    obtain ⟨middle, tidied, -, finishes⟩ := writeback_path kept.sound write
    have first := kept.edits tidied fun _ allow now => tidies_fits allow now
    have parked : Kept geometry digest (world.withStore (world.store.writeback geometry write).2) := by
      unfold Finishes at finishes
      split at finishes
      · exact first.edit finishes resident
      · exact first.edits finishes fun _ allow now => tidies_fits allow now
    dsimp only
    split
    · rename_i leaves
      obtain ⟨succeeded, unwritten, -⟩ := leaves
      obtain ⟨-, -, valid⟩ := kept.parkedValid succeeded
      have copied := parked.copied
      refine ⟨parked.sound, { copied with
        device := fun other isResident quiet => ?_
        pinned := fun other isWritten => ?_
        writer := fun index writing current => ?_ }⟩
      · change update world.resident write.key false other = true at isResident
        change update world.device write.key junk other = world.settled other
        by_cases here : other = write.key
        · rw [here, update_self] at isResident
          cases isResident
        · rw [update_of_ne here] at isResident ⊢
          exact copied.device other isResident quiet
      · change update world.resident write.key false other = true
        have different : other ≠ write.key := by
          rintro rfl
          change world.writing write.key = true at isWritten
          rw [unwritten] at isWritten
          cases isWritten
        rw [update_of_ne different]
        exact copied.pinned other isWritten
      · change update world.resident write.key false _ = true
        rw [update_of_ne]
        · exact copied.writer index writing current
        · -- the copy is valid, so no write of the page is under way
          intro here
          have onPage : ((world.store.writeback geometry write).2.jobs index).logicalPageIndex = write.page :=
            congrArg Prod.fst here
          have rests := parked.sound.quiet (by
            change (world.store.writeback geometry write).2.validPages write.page ≠ .reserved
            rw [valid]
            decide) onPage
          change ((world.store.writeback geometry write).2.jobs index).writing = true at writing
          rw [show ((world.store.writeback geometry write).2.jobs index).writing = false from rests] at writing
          cases writing
    · exact parked
  · exact kept

/-- Only the owner's place changes, and it is not before the start of a prefetch. -/
theorem Kept.setPhase {phase : Phase} (elsewhere : ∀ key, phase ≠ .starting key) :
    Kept geometry digest { world with phase := phase } := by
  have copied := kept.copied
  exact ⟨kept.sound, { copied with starting := fun key starts => absurd starts (elsewhere key) }⟩

theorem Kept.choose (key : Key) (resolved : SparkStatus) (backingValid : Bool) :
    Kept geometry digest (world.choose geometry key resolved backingValid) := by
  unfold World.choose
  split
  · exact kept
  · split
    · exact kept
    · rename_i chosen
      obtain ⟨absent, valid, generation, busy⟩ := choosePrefetch_start chosen
      have unwritten : world.writing key = false := by
        cases written : world.writing key with
        | false => rfl
        | true =>
          rw [kept.copied.pinned key written] at absent
          cases absent
      have copied := kept.copied
      refine ⟨kept.sound, { copied with starting := fun other starts => ?_ }⟩
      cases starts
      exact ⟨valid, generation, unwritten, kept.sound.findJob_none busy⟩
    · exact kept.setPhase fun _ => Phase.noConfusion

/-- A read has brought what the page holds, which is resident from then on. -/
theorem Kept.restore (brought : world.delivered index = world.settled key) :
    Kept geometry digest (world.restore key index) := by
  have copied := kept.copied
  have grows : ∀ other, world.resident other = true → update world.resident key true other = true := by
    intro other isResident
    by_cases here : other = key
    · rw [here, update_self]
    · rwa [update_of_ne here]
  refine ⟨kept.sound, { copied with
    device := fun other isResident unwritten => ?_
    pinned := fun other isWritten => grows other (copied.pinned other isWritten)
    writer := fun index writing current => grows _ (copied.writer index writing current) }⟩
  change update world.device key (world.delivered index) other = world.settled other
  by_cases here : other = key
  · rw [here, update_self]
    exact brought
  · rw [update_of_ne here]
    change update world.resident key true other = true at isResident
    rw [update_of_ne here] at isResident
    exact copied.device other isResident unwritten

theorem Kept.resume (block : KvCache.PrefetchBlock)
    (keyBytes valueBytes : Nat) (marked : Bool) :
    Kept geometry digest (world.resume geometry block keyBytes valueBytes marked) := by
  unfold World.resume
  cases phase : world.phase with
  | idle => exact kept
  | starting key =>
    obtain ⟨valid, generation, unwritten, unread⟩ := kept.copied.starting key phase
    have idle : Kept geometry digest { world with phase := .idle } :=
      kept.setPhase fun _ => Phase.noConfusion
    rcases startPrefetch_path geometry world.store key.1 { block with generation := key.2 }
      keyBytes valueBytes with same | reads
    · dsimp only
      rw [same]
      exact idle
    · exact idle.edit reads ⟨valid, generation, unwritten, rfl, unread⟩
  | finishing key =>
    have idle : Kept geometry digest { world with phase := .idle } :=
      kept.setPhase fun _ => Phase.noConfusion
    have ended : Kept geometry digest { world with
        store := (world.store.finishPrefetch geometry key.1 key.2).2
        phase := .idle } :=
      idle.edits (finishPrefetch_edits geometry world.store key.1 key.2) fun _ allow now => tidies_fits allow now
    dsimp only
    cases found : world.store.findJob geometry .hostToDevice key.1 key.2 with
    | none => exact ended
    | some index =>
      dsimp only
      split
      · rename_i finished
        obtain ⟨complete, succeeded⟩ := finishPrefetch_ok found finished.1
        obtain ⟨-, reads, onPage, atGeneration⟩ := Job.isFor_iff.mp (findJob_some found)
        have brought := kept.copied.delivered index complete reads succeeded
        have here : (world.store.jobs index).key = key := Prod.ext onPage atGeneration
        rw [here] at brought
        exact ended.restore brought
      · exact ended

theorem Kept.readback (unwritten : world.writing key = false)
    (destination bytes : Nat) : Kept geometry digest (world.readback geometry key destination bytes) := by
  unfold World.readback
  split
  · rename_i idle
    rcases readback_path geometry world.store key.1 key.2 destination bytes with tidied |
      ⟨valid, generation, absent, reads⟩
    · exact kept.edits tidied fun _ allow now => tidies_fits allow now
    · exact kept.edit reads ⟨valid, generation, unwritten, idle, kept.sound.findJob_none absent⟩
  · exact kept

theorem Kept.collect (marked : Bool) :
    Kept geometry digest (world.collect geometry marked) := by
  unfold World.collect
  split
  · exact kept
  · have ended : Kept geometry digest (world.withStore (world.store.collect geometry).2) :=
      kept.edits (collect_edits geometry world.store) fun _ allow now => tidies_fits allow now
    dsimp only
    cases found : world.collected geometry with
    | none => exact ended
    | some index =>
      have complete := (firstJob_some _ found).2
      simp only [Bool.and_eq_true, decide_eq_true_eq] at complete
      dsimp only
      split
      · rename_i finished
        exact ended.restore (kept.copied.delivered index complete.1 finished.1 finished.2.1)
      · exact ended

theorem Kept.invalidate (key : Key) :
    Kept geometry digest (world.invalidate geometry key) := by
  unfold World.invalidate
  split
  · rename_i idle
    unfold PageStore.invalidate
    split
    · exact kept
    · split
      · exact kept
      · rename_i can
        have allowed := not_not.mp can
        obtain ⟨middle, tidied, uncollected, jobs, last⟩ :=
          invalidatePage_path kept.sound (canInvalidate_unreserved allowed)
        have first := kept.edits tidied fun _ allow now => tidies_fits allow now
        rcases last with same | releases
        · rw [same]
          exact first
        · refine first.edit releases ⟨fun index flies reads onPage => ?_,
            fun index complete writes _ => uncollected index complete writes, fun other starts => ?_⟩
          · change (middle.jobs index).inFlight = true at flies
            change (middle.jobs index).direction = .hostToDevice at reads
            change (middle.jobs index).logicalPageIndex = key.1 at onPage
            have busy : (middle.jobs index).state ≠ .free := by
              intro free
              rw [Job.free_not_inFlight free] at flies
              cases flies
            rw [jobs index busy] at reads onPage busy
            unfold canInvalidate at allowed
            split at allowed
            · cases allowed
            · rename_i idleJobs
              have absent := firstJob_none _ (Option.not_isSome_iff_eq_none.mp idleJobs)
                (kept.sound.jobsInRange index busy)
              simp only [ne_eq, busy, not_false_eq_true, decide_true, onPage, Bool.and_self, reads,
                reduceCtorEq, decide_false, Bool.and_false, Bool.not_false, Bool.true_eq_false] at absent
          · change world.phase = .starting other at starts
            rw [idle] at starts
            cases starts
  · exact kept

theorem Kept.releaseIdle (key : Key) :
    Kept geometry digest (world.releaseIdle geometry key) := by
  unfold World.releaseIdle
  split
  · rename_i idle
    rcases releaseIdle_path kept.sound key.1 key.2 with same | ⟨unused, releases⟩
    · rw [same]
      exact kept
    · refine kept.edit releases ⟨fun index flies _ onPage => ?_, fun index complete _ _ onPage => ?_,
        fun other starts => ?_⟩
      · rw [Job.free_not_inFlight (kept.sound.hasJobOn_false unused onPage)] at flies
        cases flies
      · rw [kept.sound.hasJobOn_false unused onPage] at complete
        cases complete
      · rw [idle] at starts
        cases starts
  · exact kept

end Owner

end World

end Sparkpipe.KvPageStore
