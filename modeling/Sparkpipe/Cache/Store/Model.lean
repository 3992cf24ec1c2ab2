import Sparkpipe.Cache.Arena.Prefetch

/-!
# The page store

`kv_page_store.c` keeps copies of KV pages in the slots of a backing file. The owner
queues jobs, one worker thread executes them, and both change the store only while
they hold its mutex. Each locked section is one function here; the bytes a job moves
are not part of it, so what the worker records about a job is any outcome.
`SPARK_KV_CACHE_NO_BLOCK` in the two slot tables is `none`.
-/

namespace Sparkpipe.KvPageStore

open Function
open KvCache (PrefetchBlock)

/-- `SPARK_KV_PAGE_STORE_JOB_*`. -/
inductive JobState where
  | free
  | queued
  | active
  | complete
  deriving DecidableEq

/-- `SPARK_KV_PAGE_STORE_COPY_*`, and the zero of a cleared job. -/
inductive Direction where
  | none
  | deviceToHost
  | hostToDevice
  deriving DecidableEq

/-- `SPARK_KV_PAGE_STORE_READ_*`, and the zero of a write. -/
inductive ReadKind where
  | none
  | arena
  | buffer
  deriving DecidableEq

/-- `SPARK_KV_PAGE_STORE_PAGE_*`. -/
inductive PageState where
  | invalid
  | valid
  | reserved
  | writeFailed
  deriving DecidableEq

/-- The bytes of a SHA-256 digest. -/
abbrev Digest : Type := List UInt8

/-- `SparkKvPageStoreJob`; the default is what `memset` leaves. -/
structure Job where
  state : JobState := .free
  direction : Direction := .none
  readKind : ReadKind := .none
  logicalPageIndex : Nat := 0
  physicalPageIndex : Nat := 0
  generation : Nat := 0
  keyDeviceAddress : Nat := 0
  valueDeviceAddress : Nat := 0
  keyBytes : Nat := 0
  valueBytes : Nat := 0
  terminalStatus : SparkStatus := .ok
  reservesBackingPage : Bool := false
  backingSlotIndex : Nat := 0
  superseded : Bool := false
  prefetchBlock : Option PrefetchBlock := none
  digest : Digest := List.replicate 32 0
  storageFailed : Bool := false
  deriving DecidableEq

namespace Job

/-- A job that copies a page into the file. -/
def writes (job : Job) : Bool := job.direction = .deviceToHost

/-- Queued or in the worker's hands. -/
def inFlight (job : Job) : Bool := job.state = .queued || job.state = .active

/-- A job, whatever its progress, that moves this page at this generation. -/
def isFor (job : Job) (direction : Direction) (page generation : Nat) : Bool :=
  job.state ≠ .free && job.direction = direction && job.logicalPageIndex = page &&
    job.generation = generation

end Job

/-- The fixed fields of a store whose configuration was accepted. -/
structure Geometry where
  logicalPageCapacity : Nat
  transferCapacity : Nat
  pageBytes : Nat
  maximumBackingBytes : Nat
  transfers : 0 < transferCapacity
  fewTransfers : transferCapacity ≤ logicalPageCapacity
  pageHasBytes : 0 < pageBytes
  onePageFits : pageBytes ≤ maximumBackingBytes

/-- `worker->backing_slot_capacity`. -/
def Geometry.backingSlotCapacity (geometry : Geometry) : Nat :=
  min (geometry.maximumBackingBytes / geometry.pageBytes) geometry.logicalPageCapacity

/-- The fields of `SparkKvPageStore` and `SparkKvPageStoreWorker` that change. -/
structure PageStore where
  validPages : Nat → PageState := fun _ => .invalid
  generations : Nat → Nat := fun _ => 0
  backingPageCount : Nat := 0
  jobs : Nat → Job := fun _ => {}
  nextJobIndex : Nat := 0
  backingSlotsByLogicalPage : Nat → Option Nat := fun _ => none
  logicalPagesByBackingSlot : Nat → Option Nat := fun _ => none
  slotDigests : Nat → Digest := fun _ => List.replicate 32 0
  /-- The job the worker thread is executing. -/
  running : Option Nat := none
  /-- How every release of a slot ended, newest first; the source drops some of these. -/
  releases : List SparkStatus := []

/-- What `SparkKvPageStoreExecuteJob` returns and leaves in the job. -/
structure Outcome where
  status : SparkStatus
  digest : Digest := List.replicate 32 0
  storageFailed : Bool := false

namespace PageStore

section Tables

/-- The first job that passes a test. -/
def firstJob (geometry : Geometry) (store : PageStore) (test : Job → Bool) : Option Nat :=
  (List.range geometry.transferCapacity).find? fun index => test (store.jobs index)

/-- `SparkKvPageStoreFindJob`. -/
def findJob (geometry : Geometry) (store : PageStore) (direction : Direction)
    (page generation : Nat) : Option Nat :=
  store.firstJob geometry fun job => job.isFor direction page generation

/-- `SparkKvPageStoreFindFreeJob`. -/
def findFreeJob (geometry : Geometry) (store : PageStore) : Option Nat :=
  store.firstJob geometry fun job => job.state = .free

/-- `SparkKvPageStoreFindQueuedJob`. -/
def findQueuedJob (geometry : Geometry) (store : PageStore) : Option Nat :=
  ((List.range geometry.transferCapacity).map fun index =>
    (store.nextJobIndex + index) % geometry.transferCapacity).find? fun index =>
      (store.jobs index).state = .queued

/-- `SparkKvPageStoreFindFreeBackingSlotLocked`. -/
def findFreeBackingSlot (geometry : Geometry) (store : PageStore) : Option Nat :=
  (List.range geometry.backingSlotCapacity).find? fun slot =>
    store.logicalPagesByBackingSlot slot = none

/-- Some job that is not free names the page. -/
def hasJobOn (geometry : Geometry) (store : PageStore) (page : Nat) : Bool :=
  (store.firstJob geometry fun job => job.state ≠ .free && job.logicalPageIndex = page).isSome

/-- Write job `index`. -/
def setJob (store : PageStore) (index : Nat) (job : Job) : PageStore :=
  { store with jobs := update store.jobs index job }

/-- `memset(job,0,sizeof(*job))`. -/
def clearJob (store : PageStore) (index : Nat) : PageStore := store.setJob index {}

/-- Write a page's state and generation. -/
def setPage (store : PageStore) (page : Nat) (state : PageState) (generation : Nat) : PageStore :=
  { store with
    validPages := update store.validPages page state
    generations := update store.generations page generation }

/-- Take the page and the slot apart, with the page's record. -/
def unmap (store : PageStore) (page slot : Nat) : PageStore :=
  { store.setPage page .invalid 0 with
    backingSlotsByLogicalPage := update store.backingSlotsByLogicalPage page none
    logicalPagesByBackingSlot := update store.logicalPagesByBackingSlot slot none
    backingPageCount := store.backingPageCount - 1 }

/-- A release that ended with this status. -/
def logRelease (store : PageStore) (status : SparkStatus) : PageStore :=
  { store with releases := status :: store.releases }

/-- `SparkKvPageStoreReleaseBackingSlotLocked`. -/
def releaseBackingSlot (geometry : Geometry) (store : PageStore) (page : Nat) (slot : Option Nat) :
    SparkStatus × PageStore :=
  match slot with
  | none => (.internalError, store.logRelease .internalError)
  | some slot =>
    if geometry.logicalPageCapacity ≤ page ∨ geometry.backingSlotCapacity ≤ slot ∨
        store.backingSlotsByLogicalPage page ≠ some slot ∨
        store.logicalPagesByBackingSlot slot ≠ some page ∨ store.backingPageCount = 0 then
      (.internalError, store.logRelease .internalError)
    else (.ok, (store.unmap page slot).logRelease .ok)

/-- `SparkKvPageStoreForgetWriteFailureLocked`. -/
def forgetWriteFailure (store : PageStore) (page : Nat) : PageStore :=
  if store.validPages page ≠ .writeFailed then store else store.setPage page .invalid 0

end Tables

section Writing

/-- The arguments of `SparkKvPageStoreWriteback`. -/
structure Write where
  page : Nat
  physicalPage : Nat
  generation : Nat
  keyDeviceAddress : Nat
  keyBytes : Nat
  valueDeviceAddress : Nat
  valueBytes : Nat
  deriving DecidableEq

/-- The arguments a writeback refuses. -/
def badWrite (geometry : Geometry) (write : Write) : Bool :=
  geometry.logicalPageCapacity ≤ write.page || write.generation = 0 ||
    geometry.pageBytes < write.keyBytes || write.valueBytes ≠ geometry.pageBytes - write.keyBytes

/-- The job a writeback fills in, before a slot is reserved for it. -/
def writeJob (write : Write) : Job where
  state := .queued
  direction := .deviceToHost
  logicalPageIndex := write.page
  physicalPageIndex := write.physicalPage
  generation := write.generation
  keyDeviceAddress := write.keyDeviceAddress
  valueDeviceAddress := write.valueDeviceAddress
  keyBytes := write.keyBytes
  valueBytes := write.valueBytes
  terminalStatus := .busy

/-- Map the page to the slot and mark it reserved. -/
def reserve (store : PageStore) (page slot : Nat) : PageStore :=
  { store with
    backingSlotsByLogicalPage := update store.backingSlotsByLogicalPage page (some slot)
    logicalPagesByBackingSlot := update store.logicalPagesByBackingSlot slot (some page)
    validPages := update store.validPages page .reserved
    backingPageCount := store.backingPageCount + 1 }

/-- The end of a writeback that found nothing to answer from: take a free job and, for a page
without a record, a free slot. -/
def queueWrite (geometry : Geometry) (store : PageStore) (write : Write) : SparkStatus × PageStore :=
  match store.findFreeJob geometry with
  | none => (.busy, store)
  | some index =>
    if store.validPages write.page = .invalid then
      match store.findFreeBackingSlot geometry with
      | none => (.capacityExceeded, store.clearJob index)
      | some slot => (.busy, (store.reserve write.page slot).setJob index
          { writeJob write with
            reservesBackingPage := true
            backingSlotIndex := slot })
    else (.busy, store.setJob index (writeJob write))

/-- A writeback for which no job is left, from the page's record on. -/
def writebackPage (geometry : Geometry) (store : PageStore) (write : Write) :
    SparkStatus × PageStore :=
  match store.validPages write.page with
  | .writeFailed =>
    if store.generations write.page = write.generation then
      (.ioError, store.forgetWriteFailure write.page)
    else (store.forgetWriteFailure write.page).queueWrite geometry write
  | .valid =>
    if store.generations write.page = write.generation ∧
        store.backingSlotsByLogicalPage write.page ≠ none then (.ok, store)
    else (.invalidArgument, store)
  | .reserved => (.busy, store)
  | .invalid => store.queueWrite geometry write

/-- `SparkKvPageStoreWriteback`. -/
def writeback (geometry : Geometry) (store : PageStore) (write : Write) : SparkStatus × PageStore :=
  if badWrite geometry write then (.invalidArgument, store)
  else match store.findJob geometry .deviceToHost write.page write.generation with
    | none => store.writebackPage geometry write
    | some index =>
      let job := store.jobs index
      if job.state ≠ .complete then (.busy, store)
      else if job.superseded then (store.clearJob index).writebackPage geometry write
      else (job.terminalStatus, (store.clearJob index).forgetWriteFailure write.page)

end Writing

section Reading

/-- The job that reads a page back into a buffer. -/
def readbackJob (geometry : Geometry) (store : PageStore) (page generation destination slot : Nat) :
    Job where
  state := .queued
  direction := .hostToDevice
  readKind := .buffer
  logicalPageIndex := page
  generation := generation
  keyDeviceAddress := destination
  keyBytes := geometry.pageBytes
  terminalStatus := .busy
  backingSlotIndex := slot
  digest := store.slotDigests slot

/-- `SparkKvPageStoreReadbackLocked`. -/
def readbackPage (geometry : Geometry) (store : PageStore) (page generation destination : Nat) :
    SparkStatus × PageStore :=
  match store.findJob geometry .hostToDevice page generation with
  | some index =>
    let job := store.jobs index
    if job.readKind ≠ .buffer ∨ job.keyDeviceAddress ≠ destination ∨ job.state ≠ .complete then
      (.busy, store)
    else (job.terminalStatus, store.clearJob index)
  | none =>
    if store.validPages page ≠ .valid ∨ store.generations page ≠ generation then (.notFound, store)
    else match store.backingSlotsByLogicalPage page with
      | none => (.notFound, store)
      | some slot =>
        match store.findFreeJob geometry with
        | none => (.busy, store)
        | some index =>
          (.busy, store.setJob index
            (store.readbackJob geometry page generation destination slot))

/-- `SparkKvPageStoreReadback`; addresses have 64 bits. -/
def readback (geometry : Geometry) (store : PageStore) (page generation destination bytes : Nat) :
    SparkStatus × PageStore :=
  if geometry.logicalPageCapacity ≤ page ∨ generation = 0 ∨ destination = 0 ∨
      bytes ≠ geometry.pageBytes ∨ 2 ^ 64 - 1 - destination < bytes then (.invalidArgument, store)
  else store.readbackPage geometry page generation destination

/-- What `SparkKvCacheArenaResolveBlock` tells a prefetch about the page's block. -/
structure BlockView where
  resident : Bool
  backingValid : Bool
  generation : Nat

/-- How `SparkKvPageStorePrefetch` goes on after its look at the store. -/
inductive PrefetchChoice where
  | answer (status : SparkStatus)
  | finish
  | start
  deriving DecidableEq

/-- The first section of `SparkKvPageStorePrefetch`, given the arena's answer about the block. -/
def choosePrefetch (geometry : Geometry) (store : PageStore) (page : Nat)
    (resolved : SparkStatus × BlockView) : PrefetchChoice :=
  let view := resolved.2
  if geometry.logicalPageCapacity ≤ page then .answer .invalidArgument
  else if resolved.1 ≠ .ok then .answer resolved.1
  else if view.resident then .answer .ok
  else if view.backingValid ∧ store.validPages page = .valid ∧
      store.generations page = view.generation ∧ store.backingSlotsByLogicalPage page ≠ none then
    if (store.findJob geometry .hostToDevice page view.generation).isSome then .finish else .start
  else .answer .notFound

/-- The section of `SparkKvPageStoreFinishPrefetch`: the completed job, when there is one. -/
def finishPrefetch (geometry : Geometry) (store : PageStore) (page generation : Nat) :
    SparkStatus × PageStore :=
  match store.findJob geometry .hostToDevice page generation with
  | none => (.notFound, store)
  | some index =>
    let job := store.jobs index
    if job.readKind ≠ .arena ∨ job.state ≠ .complete then (.busy, store)
    else (job.terminalStatus, store.clearJob index)

/-- The job that reads a page back into the arena's slot, as the plan's block describes it. -/
def prefetchJob (store : PageStore) (page : Nat) (block : PrefetchBlock)
    (keyBytes valueBytes slot : Nat) : Job where
  state := .queued
  direction := .hostToDevice
  readKind := .arena
  logicalPageIndex := page
  physicalPageIndex := block.residentSlotIndex.getD KvCache.maxU32
  generation := block.generation
  keyDeviceAddress := block.keyDeviceAddress
  valueDeviceAddress := block.valueDeviceAddress
  keyBytes := keyBytes
  valueBytes := valueBytes
  terminalStatus := .busy
  backingSlotIndex := slot
  prefetchBlock := some block
  digest := store.slotDigests slot

/-- The section of `SparkKvPageStoreStartPrefetch`, for the block of the plan the arena built.
Without a free job or a slot the plan is cancelled and the status is the same. -/
def startPrefetch (geometry : Geometry) (store : PageStore) (page : Nat) (block : PrefetchBlock)
    (keyBytes valueBytes : Nat) : SparkStatus × PageStore :=
  match store.findFreeJob geometry, store.backingSlotsByLogicalPage page with
  | some index, some slot =>
    (.busy, store.setJob index (store.prefetchJob page block keyBytes valueBytes slot))
  | _, _ => (.busy, store)

/-- A round of `SparkKvPageStoreProgress`: the first completed job that no readback waits for. -/
def collect (geometry : Geometry) (store : PageStore) : SparkStatus × PageStore :=
  match store.firstJob geometry fun job => job.state = .complete && job.readKind ≠ .buffer with
  | none => (.notFound, store)
  | some index => ((store.jobs index).terminalStatus, store.clearJob index)

end Reading

section Records

/-- `SparkKvPageStoreCanInvalidateLocked`. -/
def canInvalidate (geometry : Geometry) (store : PageStore) (page generation : Nat) : SparkStatus :=
  if (store.firstJob geometry fun job =>
      job.state ≠ .free && job.logicalPageIndex = page &&
        !(job.state = .complete && job.direction = .deviceToHost)).isSome then .busy
  else if store.validPages page = .invalid ∨ store.validPages page = .writeFailed then
    if store.backingSlotsByLogicalPage page = none then .ok else .internalError
  else if store.validPages page ≠ .valid ∨ store.generations page ≠ generation then .notFound
  else match store.backingSlotsByLogicalPage page with
    | none => .internalError
    | some slot =>
      if geometry.backingSlotCapacity ≤ slot ∨
          store.logicalPagesByBackingSlot slot ≠ some page ∨ store.backingPageCount = 0 then
        .internalError
      else .ok

/-- `SparkKvPageStoreFreeCompletedWritesLocked`. -/
def freeCompletedWrites (geometry : Geometry) (store : PageStore) (page : Nat) : PageStore :=
  (List.range geometry.transferCapacity).foldl (fun store index =>
    if (store.jobs index).state = .complete ∧ (store.jobs index).direction = .deviceToHost ∧
        (store.jobs index).logicalPageIndex = page then store.clearJob index
    else store) store

/-- `SparkKvPageStoreInvalidateLocked`. -/
def invalidatePage (geometry : Geometry) (store : PageStore) (page : Nat) : SparkStatus × PageStore :=
  let store := (store.freeCompletedWrites geometry page).forgetWriteFailure page
  if store.validPages page = .invalid then (.ok, store)
  else store.releaseBackingSlot geometry page (store.backingSlotsByLogicalPage page)

/-- The arguments that the operations on one record refuse. -/
def badRecord (geometry : Geometry) (page generation : Nat) : Bool :=
  generation = 0 || geometry.logicalPageCapacity ≤ page

/-- `SparkKvPageStoreInvalidate`. -/
def invalidate (geometry : Geometry) (store : PageStore) (page generation : Nat) :
    SparkStatus × PageStore :=
  if badRecord geometry page generation then (.invalidArgument, store)
  else if store.canInvalidate geometry page generation ≠ .ok then
    (store.canInvalidate geometry page generation, store)
  else store.invalidatePage geometry page

/-- The two stores of a pair, the one at the lower address first. -/
structure InvalidatePair where
  status : SparkStatus
  left : PageStore
  right : PageStore

/-- `SparkKvPageStoreInvalidatePair`, once the two stores are ordered by their addresses. -/
def invalidatePair (leftGeometry rightGeometry : Geometry) (left right : PageStore)
    (page generation : Nat) : InvalidatePair :=
  if badRecord leftGeometry page generation ∨ badRecord rightGeometry page generation then
    ⟨.invalidArgument, left, right⟩
  else if left.canInvalidate leftGeometry page generation ≠ .ok then
    ⟨left.canInvalidate leftGeometry page generation, left, right⟩
  else if right.canInvalidate rightGeometry page generation ≠ .ok then
    ⟨right.canInvalidate rightGeometry page generation, left, right⟩
  else
    let first := left.invalidatePage leftGeometry page
    if first.1 ≠ .ok then ⟨first.1, first.2, right⟩
    else
      let second := right.invalidatePage rightGeometry page
      ⟨second.1, first.2, second.2⟩

/-- The record of one page becomes that of another, with its slot. -/
def moveRecord (store : PageStore) (fromPage toPage toGeneration slot : Nat) : PageStore :=
  { (store.setPage toPage .valid toGeneration).setPage fromPage .invalid 0 with
    backingSlotsByLogicalPage := update
      (update store.backingSlotsByLogicalPage toPage (some slot)) fromPage none
    logicalPagesByBackingSlot := update store.logicalPagesByBackingSlot slot (some toPage) }

/-- `SparkKvPageStoreRekey`. -/
def rekey (geometry : Geometry) (store : PageStore)
    (fromPage fromGeneration toPage toGeneration : Nat) : SparkStatus × PageStore :=
  if fromGeneration = 0 ∨ toGeneration = 0 ∨ fromPage = toPage ∨
      geometry.logicalPageCapacity ≤ fromPage ∨ geometry.logicalPageCapacity ≤ toPage then
    (.invalidArgument, store)
  else if store.hasJobOn geometry fromPage || store.hasJobOn geometry toPage then (.busy, store)
  else match store.backingSlotsByLogicalPage fromPage with
    | none => (.notFound, store)
    | some slot =>
      if store.validPages fromPage = .valid ∧ store.generations fromPage = fromGeneration ∧
          slot < geometry.backingSlotCapacity ∧
          store.logicalPagesByBackingSlot slot = some fromPage ∧
          store.validPages toPage = .invalid ∧ store.backingSlotsByLogicalPage toPage = none then
        (.ok, store.moveRecord fromPage toPage toGeneration slot)
      else (.notFound, store)

/-- The end of `SparkKvPageStoreSupersede`: the record itself goes, unless its job is still active. -/
def dropRecord (geometry : Geometry) (store : PageStore) (page generation : Nat) :
    SparkStatus × PageStore :=
  if store.validPages page = .valid ∧ store.generations page = generation ∧
      store.backingSlotsByLogicalPage page ≠ none then
    store.releaseBackingSlot geometry page (store.backingSlotsByLogicalPage page)
  else if store.generations page = generation then (.ok, store.forgetWriteFailure page)
  else (.ok, store)

/-- `SparkKvPageStoreSupersede`. -/
def supersede (geometry : Geometry) (store : PageStore) (page generation : Nat) :
    SparkStatus × PageStore :=
  if badRecord geometry page generation then (.invalidArgument, store)
  else match store.findJob geometry .deviceToHost page generation with
    | none => store.dropRecord geometry page generation
    | some index =>
      let job := store.jobs index
      match job.state with
      | .queued =>
        let released :=
          if job.reservesBackingPage then
            store.releaseBackingSlot geometry page (some job.backingSlotIndex)
          else (.ok, store)
        andThen (released.1, released.2.clearJob index) fun store =>
          store.dropRecord geometry page generation
      | .active => (.ok, store.setJob index { job with superseded := true })
      | .complete | .free => (store.clearJob index).dropRecord geometry page generation

/-- `SparkKvPageStoreReleaseIdle`. -/
def releaseIdle (geometry : Geometry) (store : PageStore) (page generation : Nat) :
    SparkStatus × PageStore :=
  if badRecord geometry page generation then (.invalidArgument, store)
  else if store.hasJobOn geometry page then (.busy, store)
  else if store.validPages page = .valid ∧ store.generations page = generation ∧
      store.backingSlotsByLogicalPage page ≠ none then
    store.releaseBackingSlot geometry page (store.backingSlotsByLogicalPage page)
  else (.notFound, store)

end Records

section Worker

/-- The worker takes the next queued job. -/
def take (geometry : Geometry) (store : PageStore) : PageStore :=
  match store.running, store.findQueuedJob geometry with
  | none, some index =>
    { store.setJob index { store.jobs index with state := .active } with
      nextJobIndex := (index + 1) % geometry.transferCapacity
      running := some index }
  | _, _ => store

/-- A failed read drops the record it was made from, when the page still has that slot. -/
def dropUnreadable (geometry : Geometry) (store : PageStore) (job : Job) : PageStore :=
  if job.logicalPageIndex < geometry.logicalPageCapacity ∧
      store.backingSlotsByLogicalPage job.logicalPageIndex = some job.backingSlotIndex then
    (store.releaseBackingSlot geometry job.logicalPageIndex (some job.backingSlotIndex)).2
  else store

/-- `SparkKvPageStoreRecordJob` up to its last line: the job's terminal status and the tables. -/
def settleJob (geometry : Geometry) (store : PageStore) (job : Job) (status : SparkStatus) :
    SparkStatus × PageStore :=
  let released :=
    (store.releaseBackingSlot geometry job.logicalPageIndex (some job.backingSlotIndex)).2
  if job.superseded ∧ job.direction = .deviceToHost then
    (.notFound, if job.reservesBackingPage then released else store)
  else if status = .ok ∧ job.direction = .deviceToHost then
    (status, { store.setPage job.logicalPageIndex .valid job.generation with
      slotDigests := update store.slotDigests job.backingSlotIndex job.digest })
  else if job.direction = .deviceToHost ∧ job.reservesBackingPage then
    (status, released.setPage job.logicalPageIndex .writeFailed job.generation)
  else if status = .ok then (status, store)
  else if job.storageFailed then (.notFound, store.dropUnreadable geometry job)
  else (status, store)

/-- The job as its execution leaves it. -/
def executed (job : Job) (outcome : Outcome) : Job :=
  { job with
    digest := if job.direction = .deviceToHost then outcome.digest else job.digest
    storageFailed := job.storageFailed || outcome.storageFailed }

/-- `SparkKvPageStoreRecordJob` of the job the worker was executing. -/
def record (geometry : Geometry) (store : PageStore) (outcome : Outcome) : PageStore :=
  match store.running with
  | none => store
  | some index =>
    let job := executed (store.jobs index) outcome
    let settled := store.settleJob geometry job outcome.status
    { settled.2.setJob index { job with
        state := .complete
        terminalStatus := settled.1 } with
      running := none }

end Worker

end PageStore

end Sparkpipe.KvPageStore
