import Sparkpipe.Cache.Store.Worker
import Sparkpipe.Lib.Along

/-!
# The contents of pages and of their copies

The bytes behind a page store. A page, named by its logical index and generation, has
its bytes in device memory while it is resident. A lane changes them between pinning the
page and the supersede by which the lane's completion settles what the page holds. The
worker copies pages into the slots of the file and back; a copy of a page that changes
under way may hold anything.
-/

namespace Sparkpipe.KvPageStore

open Function
open KvCache (PrefetchBlock)

/-- The bytes of a page. -/
abbrev PageBytes : Type := List UInt8

/-- A logical page index and a generation. -/
abbrev Key : Type := Nat × Nat

/-- The page a job moves. -/
def Job.key (job : Job) : Key := (job.logicalPageIndex, job.generation)

/-- The page a writeback is for. -/
def PageStore.Write.key (write : PageStore.Write) : Key := (write.page, write.generation)

/-- How the copies and the file accesses of one job go. -/
structure Transfer where
  /-- The copies between device memory and the staging buffer. -/
  copied : SparkStatus := .ok
  fetched : SparkStatus := .ok
  stored : SparkStatus := .ok
  /-- What is staged of a page that changed while it was copied. -/
  torn : PageBytes := []
  /-- What a failed access to the file leaves in the slot. -/
  left : PageBytes := []

/-- Where the owner is inside `SparkKvPageStorePrefetch`. -/
inductive Phase where
  | idle
  | starting (key : Key)
  | finishing (key : Key)
  deriving DecidableEq

/-- A page store, the file and the pages. -/
structure World where
  store : PageStore := {}
  file : Nat → PageBytes := fun _ => []
  device : Key → PageBytes
  resident : Key → Bool := fun _ => true
  /-- What the page holds after its last completed write. -/
  settled : Key → PageBytes
  /-- A lane has pinned the page and has not completed. -/
  writing : Key → Bool := fun _ => false
  /-- The page the worker is copying changed since the worker took the job. -/
  changed : Bool := false
  /-- What the read of each job has brought to its destination. -/
  delivered : Nat → PageBytes := fun _ => []
  phase : Phase := .idle

/-- What happens to a world. -/
inductive Event where
  | pin (key : Key)
  | change (key : Key) (bytes : PageBytes)
  | complete (key : Key)
  | park (write : PageStore.Write) (evicts : Bool) (junk : PageBytes)
  | choose (key : Key) (resolved : SparkStatus) (backingValid : Bool)
  | resume (block : PrefetchBlock) (keyBytes valueBytes : Nat) (marked : Bool)
  | readback (key : Key) (destination bytes : Nat)
  | collect (marked : Bool)
  | invalidate (key : Key)
  | releaseIdle (key : Key)
  | rekey (source target : Key) (junk : PageBytes)
  | take
  | record (transfer : Transfer)

namespace World

variable (geometry : Geometry) (digest : PageBytes → Digest) (world : World)

section Lanes

/-- A lane pins a resident page. -/
def pin (key : Key) : World :=
  if world.resident key ∧ PageStore.badRecord geometry key.1 key.2 = false ∧ world.phase = .idle then
    { world with writing := update world.writing key true }
  else world

/-- The worker is copying the page out. -/
def copying (key : Key) : Bool :=
  match world.store.running with
  | none => false
  | some index => (world.store.jobs index).writes && (world.store.jobs index).key = key

/-- A lane changes a page it has pinned. -/
def change (key : Key) (bytes : PageBytes) : World :=
  if world.writing key then
    { world with
      device := update world.device key bytes
      changed := world.changed || world.copying key }
  else world

/-- The lane completes: it supersedes the copy of the page, and what the page holds is settled. -/
def complete (key : Key) : World :=
  if world.writing key ∧ world.phase = .idle then
    let superseded := world.store.supersede geometry key.1 key.2
    if superseded.1 = .ok then
      { world with
        store := superseded.2
        settled := update world.settled key (world.device key)
        writing := update world.writing key false }
    else { world with store := superseded.2 }
  else world

end Lanes

section Owner

/-- A resident page is written back. When that is done and no lane has pinned it, it may be evicted. -/
def park (write : PageStore.Write) (evicts : Bool) (junk : PageBytes) : World :=
  if world.resident write.key then
    let parked := world.store.writeback geometry write
    if parked.1 = .ok ∧ world.writing write.key = false ∧ evicts then
      { world with
        store := parked.2
        resident := update world.resident write.key false
        device := update world.device write.key junk }
    else { world with store := parked.2 }
  else world

/-- The first section of a prefetch. The arena knows which pages are resident. -/
def choose (key : Key) (resolved : SparkStatus) (backingValid : Bool) : World :=
  if world.phase ≠ .idle then world
  else
    match world.store.choosePrefetch geometry key.1
      (resolved, ⟨world.resident key, backingValid, key.2⟩) with
    | .answer _ => world
    | .start => { world with phase := .starting key }
    | .finish => { world with phase := .finishing key }

/-- The page is resident with the bytes that a read has brought. -/
def restore (key : Key) (index : Nat) : World :=
  { world with
    resident := update world.resident key true
    device := update world.device key (world.delivered index) }

/-- The second section of a prefetch; `marked` says that the arena took the completed plan. -/
def resume (block : PrefetchBlock) (keyBytes valueBytes : Nat) (marked : Bool) : World :=
  match world.phase with
  | .idle => world
  | .starting key =>
    { world with
      store := (world.store.startPrefetch geometry key.1 { block with generation := key.2 }
        keyBytes valueBytes).2
      phase := .idle }
  | .finishing key =>
    let finished := world.store.finishPrefetch geometry key.1 key.2
    let ended := { world with
      store := finished.2
      phase := .idle }
    match world.store.findJob geometry .hostToDevice key.1 key.2 with
    | some index => if finished.1 = .ok ∧ marked then ended.restore key index else ended
    | none => ended

def readback (key : Key) (destination bytes : Nat) : World :=
  if world.phase = .idle then
    { world with store := (world.store.readback geometry key.1 key.2 destination bytes).2 }
  else world

/-- The job that a round of `SparkKvPageStoreProgress` takes. -/
def collected : Option Nat :=
  world.store.firstJob geometry fun job => job.state = .complete && job.readKind ≠ .buffer

/-- A round of `SparkKvPageStoreProgress`; `marked` as in `resume`. -/
def collect (marked : Bool) : World :=
  if world.phase ≠ .idle then world
  else
    let ended := { world with store := (world.store.collect geometry).2 }
    match world.collected geometry with
    | none => ended
    | some index =>
      let job := world.store.jobs index
      if job.direction = .hostToDevice ∧ job.terminalStatus = .ok ∧ marked then
        ended.restore job.key index
      else ended

def invalidate (key : Key) : World :=
  if world.phase = .idle then
    { world with store := (world.store.invalidate geometry key.1 key.2).2 }
  else world

def releaseIdle (key : Key) : World :=
  if world.phase = .idle then
    { world with store := (world.store.releaseIdle geometry key.1 key.2).2 }
  else world

/-- The copy of one page becomes that of another, which holds the same from then on. -/
def rekey (source target : Key) (junk : PageBytes) : World :=
  if world.phase ≠ .idle then world
  else
    let moved := world.store.rekey geometry source.1 source.2 target.1 target.2
    if moved.1 = .ok then
      { world with
        store := moved.2
        settled := update world.settled target (world.settled source)
        resident := update world.resident target false
        device := update world.device target junk }
    else { world with store := moved.2 }

end Owner

section Worker

def take : World :=
  if world.store.running = none then
    { world with
      store := world.store.take geometry
      changed := false }
  else world

/-- `SparkKvPageStoreExecuteWrite`: what it leaves in the job and in the file. -/
def executeWrite (job : Job) (transfer : Transfer) : Outcome × (Nat → PageBytes) :=
  let staging := if world.changed then transfer.torn else world.device job.key
  if transfer.copied ≠ .ok then ({ status := transfer.copied }, world.file)
  else if transfer.stored ≠ .ok then
    ({ status := transfer.stored, digest := digest staging },
      update world.file job.backingSlotIndex transfer.left)
  else
    ({ status := .ok, digest := digest staging },
      update world.file job.backingSlotIndex staging)

/-- `SparkKvPageStoreExecuteRead`. -/
def executeRead (job : Job) (transfer : Transfer) : Outcome :=
  if transfer.fetched ≠ .ok then { status := transfer.fetched, storageFailed := true }
  else if digest (world.file job.backingSlotIndex) ≠ job.digest then
    { status := .hashMismatch, storageFailed := true }
  else if job.readKind = .buffer then { status := .ok }
  else { status := transfer.copied }

/-- The worker executes its job and records it. -/
def record (transfer : Transfer) : World :=
  match world.store.running with
  | none => world
  | some index =>
    let job := world.store.jobs index
    if job.direction = .deviceToHost then
      let executed := world.executeWrite digest job transfer
      { world with
        store := world.store.record geometry executed.1
        file := executed.2 }
    else
      { world with
        store := world.store.record geometry (world.executeRead digest job transfer)
        delivered := update world.delivered index (world.file job.backingSlotIndex) }

end Worker

/-- What an event leaves. -/
def step (world : World) : Event → World
  | .pin key => world.pin geometry key
  | .change key bytes => world.change key bytes
  | .complete key => world.complete geometry key
  | .park write evicts junk => world.park geometry write evicts junk
  | .choose key resolved backingValid => world.choose geometry key resolved backingValid
  | .resume block keyBytes valueBytes marked => world.resume geometry block keyBytes valueBytes marked
  | .readback key destination bytes => world.readback geometry key destination bytes
  | .collect marked => world.collect geometry marked
  | .invalidate key => world.invalidate geometry key
  | .releaseIdle key => world.releaseIdle geometry key
  | .rekey source target junk => world.rekey geometry source target junk
  | .take => world.take geometry
  | .record transfer => world.record geometry digest transfer

/-- A store with nothing in it; every page is resident and holds what it is given. -/
def initial (contents : Key → PageBytes) : World where
  device := contents
  settled := contents

/-- What holds of the copies that a caller is told about. -/
structure Truthful (world : World) : Prop where
  /-- A writeback that returns `OK` for a page nobody is writing has a copy of it in the file. -/
  parked : ∀ write, (world.store.writeback geometry write).1 = .ok → world.writing write.key = false →
    ∃ slot, world.store.validPages write.page = .valid ∧
      world.store.generations write.page = write.generation ∧
      world.store.backingSlotsByLogicalPage write.page = some slot ∧
      world.file slot = world.settled write.key
  /-- A readback that returns `OK` has brought what the page holds. -/
  readBack : ∀ (key : Key) destination bytes,
    (world.store.readback geometry key.1 key.2 destination bytes).1 = .ok →
    ∃ index, world.store.findJob geometry .hostToDevice key.1 key.2 = some index ∧
      (world.store.jobs index).keyDeviceAddress = destination ∧
      world.delivered index = world.settled key
  /-- So has a prefetch whose completed job is taken with `OK`. -/
  prefetched : ∀ index, (world.store.jobs index).state = .complete →
    (world.store.jobs index).direction = .hostToDevice →
    (world.store.jobs index).terminalStatus = .ok →
    world.delivered index = world.settled (world.store.jobs index).key
  /-- A valid copy of a page nobody is writing is what the page holds. -/
  valid : ∀ page slot, world.store.validPages page = .valid →
    world.store.backingSlotsByLogicalPage page = some slot →
    world.writing (page, world.store.generations page) = false →
    world.file slot = world.settled (page, world.store.generations page)

/-- The copy of a page that a lane writes is neither read back nor rekeyed, the lane completes
only when no earlier read of the page is left to collect, and no read fails while a successful
write of the same page is left to collect. -/
def Careful (world : World) : Event → Prop
  | .complete key => world.store.findJob geometry .hostToDevice key.1 key.2 = none
  | .readback key _ _ => world.writing key = false
  | .rekey source target _ => world.writing source = false ∧ world.writing target = false
  | .record transfer => ∀ index, world.store.running = some index →
      (world.store.jobs index).direction = .hostToDevice → transfer.fetched ≠ .ok →
      ∀ other, (world.store.jobs other).state = .complete →
        (world.store.jobs other).direction = .deviceToHost →
        (world.store.jobs other).terminalStatus = .ok →
        (world.store.jobs other).key ≠ (world.store.jobs index).key
  | _ => True

end World

end Sparkpipe.KvPageStore
