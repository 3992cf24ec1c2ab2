import Sparkpipe.Lib.Chain
import Sparkpipe.Lib.Heap
import Sparkpipe.Lib.Update
import Sparkpipe.Sha256
import Sparkpipe.Status

/-!
# The NVMe tier

`cache/nvme_tier.c`: a cache of blocks on a drive. A block is named by the hash of its content and
lives in a slot; the slots are chained into hash buckets and into a free list, and a clock evicts
them. Blocks are read into a few staging buffers, for a demand or ahead of need; the needs ahead
wait in a heap, ordered by the step they are for. The device answers each call as it likes.
-/

namespace Sparkpipe.NvmeTier

open Function Chain

/-- The bytes of a SHA-256 digest. -/
abbrev Digest := List UInt8

/-- The digest that `memset` leaves. -/
def noDigest : Digest := List.replicate 32 0

/-- `NvmeTierDigestIsUsable`; a null pointer is the digest without bytes. -/
def digestIsUsable (digest : Digest) : Bool := digest.any (· ≠ 0)

/-- The states of a slot. -/
inductive SlotState where
  | empty
  | writing
  | present
  | filling
  | ready
  deriving DecidableEq

/-- The states of a staging buffer. -/
inductive StagingState where
  | free
  | filling
  | ready
  | cancelPending
  deriving DecidableEq

/-- Whom a staging buffer is for. -/
inductive Holder where
  | none
  | prefetch
  | demand
  deriving DecidableEq

/-- `NvmeTierSlot`. -/
structure Slot where
  contentHash : UInt64 := 0
  nextInBucket : Option Nat := none
  nextFree : Option Nat := none
  generation : UInt32 := 0
  needByStep : UInt32 := 0xffffffff
  pinCount : UInt32 := 0
  stagingIndex : Option Nat := none
  state : SlotState := .empty
  referenced : Bool := false
  queued : Bool := false
  digest : Digest := noDigest

/-- `NvmeTierStagingState`. -/
structure Staging where
  ticket : UInt64 := 0
  slot : Option Nat := none
  generation : UInt32 := 0
  needByStep : UInt32 := 0
  state : StagingState := .free
  holder : Holder := .none

/-- `NvmeTierPendingEntry`. -/
structure PendingEntry where
  slot : Nat
  generation : UInt32
  needByStep : UInt32
  order : UInt64
  deriving DecidableEq

/-- `SparkNvmeTierConfiguration`. -/
structure Configuration where
  budgetBytes : Nat
  baseOffset : UInt64
  blockBytes : Nat
  hashBucketCount : Nat
  stagingBufferCount : Nat
  demandReserveBuffers : Nat
  pendingCapacity : Nat
  deviceBytesPerSecond : Nat
  stepTimeMicroseconds : Nat

/-- `SparkNvmeTier`; `cancels` says that the device has a `cancel_read`. -/
structure Tier where
  configuration : Configuration
  cancels : Bool
  slotCount : Nat
  transferSteps : Nat
  slots : Nat → Slot
  buckets : Nat → Option Nat := fun _ => none
  freeHead : Option Nat
  clockHand : Nat := 0
  slotsInUse : Nat := 0
  staging : Nat → Staging := fun _ => {}
  entries : List PendingEntry := []
  nextOrder : UInt64 := 0

section Pending

/-- `NvmeTierPendingLess`. -/
def pendingLess (left right : PendingEntry) : Bool :=
  if left.needByStep ≠ right.needByStep then left.needByStep < right.needByStep else left.order < right.order

/-- `NvmeTierPendingFind`. -/
def pendingFind (entries : List PendingEntry) (slotIndex : Nat) : Option Nat :=
  entries.findIdx? fun entry => entry.slot = slotIndex

/-- `NvmeTierPendingInsert`. -/
def pendingInsert (entries : List PendingEntry) (entry : PendingEntry) : List PendingEntry :=
  Heap.insert pendingLess entries entry

/-- `NvmeTierPendingRemoveAt`. -/
def pendingRemoveAt (entries : List PendingEntry) (position : Nat) : List PendingEntry :=
  Heap.removeAt pendingLess entries position

/-- `NvmeTierPendingTighten`. -/
def pendingTighten (entries : List PendingEntry) (position : Nat) (needByStep : UInt32) : List PendingEntry :=
  match entries[position]? with
  | none => entries
  | some entry =>
    if entry.needByStep ≤ needByStep then entries
    else Heap.replaceAt pendingLess entries position { entry with needByStep := needByStep }

end Pending

namespace Tier

variable (tier : Tier)

/-- Write one slot. -/
def setSlot (index : Nat) (slot : Slot) : Tier := { tier with slots := update tier.slots index slot }

/-- Write one staging state. -/
def setStaging (index : Nat) (staging : Staging) : Tier :=
  { tier with staging := update tier.staging index staging }

/-- Where the block of a slot is on the device. -/
def deviceOffset (index : Nat) : UInt64 :=
  tier.configuration.baseOffset + UInt64.ofNat index * UInt64.ofNat tier.configuration.blockBytes

/-- The bucket of a content hash. -/
def bucketOf (contentHash : UInt64) : Nat := contentHash.toNat % tier.configuration.hashBucketCount

/-- `NvmeTierLookup`. -/
def lookup (contentHash : UInt64) : Option Nat :=
  if contentHash = 0 then none
  else search tier.slotCount (fun index => (tier.slots index).nextInBucket)
    (fun index => (tier.slots index).state ≠ .empty && (tier.slots index).contentHash = contentHash)
    tier.slotCount (tier.buckets (tier.bucketOf contentHash))

/-- `NvmeTierLookupVerified`. -/
def lookupVerified (contentHash : UInt64) (contentDigest : Digest) : Except SparkStatus Nat :=
  match tier.lookup contentHash with
  | none => .error .notFound
  | some index =>
    if digestIsUsable contentDigest ∧ (tier.slots index).digest ≠ contentDigest then .error .hashMismatch
    else .ok index

/-- `NvmeTierBucketInsert`. -/
def bucketInsert (index : Nat) : Tier :=
  let bucket := tier.bucketOf (tier.slots index).contentHash
  { tier.setSlot index { tier.slots index with nextInBucket := tier.buckets bucket } with
    buckets := update tier.buckets bucket (some index) }

/-- Redirect the slot before a removed one in its bucket, if there is one. -/
def spliceSlots (previous after : Option Nat) : Nat → Slot :=
  match previous with
  | none => tier.slots
  | some before => update tier.slots before { tier.slots before with nextInBucket := after }

/-- `NvmeTierBucketRemove`. -/
def bucketRemove (index : Nat) : Tier :=
  let bucket := tier.bucketOf (tier.slots index).contentHash
  let after := (tier.slots index).nextInBucket
  let spliced :=
    match locate tier.slotCount (fun other => (tier.slots other).nextInBucket) index tier.slotCount none
        (tier.buckets bucket) with
    | none => tier
    | some previous => { tier with
        slots := tier.spliceSlots previous after
        buckets := update tier.buckets bucket (spliceHead previous (tier.buckets bucket) after) }
  spliced.setSlot index { spliced.slots index with nextInBucket := none }

/-- The slot that reads into a buffer or has its block there. -/
def reads (slotIndex buffer : Nat) : Bool :=
  slotIndex < tier.slotCount && (tier.slots slotIndex).stagingIndex = some buffer &&
    ((tier.slots slotIndex).state = .filling || (tier.slots slotIndex).state = .ready)

/-- `NvmeTierStagingRelease`. -/
def stagingRelease (buffer : Nat) : Tier :=
  let left :=
    match (tier.staging buffer).slot with
    | none => tier
    | some slotIndex =>
      if tier.reads slotIndex buffer then tier.setSlot slotIndex { tier.slots slotIndex with
        state := .present
        stagingIndex := none }
      else tier
  left.setStaging buffer {}

/-- The generation after another; zero is left out. -/
def nextGeneration (generation : UInt32) : UInt32 := if generation + 1 = 0 then 1 else generation + 1

/-- What `NvmeTierClockEvict` does to the slot that it evicts. -/
def evictSlot (index : Nat) : Tier :=
  let removed := (tier.setSlot index { tier.slots index with queued := false }).bucketRemove index
  { removed.setSlot index { removed.slots index with
      contentHash := 0
      digest := noDigest
      state := .empty
      generation := nextGeneration (removed.slots index).generation
      pinCount := 0
      nextFree := removed.freeHead } with
    freeHead := some index
    slotsInUse := removed.slotsInUse - 1 }

/-- `NvmeTierQuarantineSlot`. -/
def quarantineSlot (index : Nat) : Tier :=
  let removed := (tier.setSlot index { tier.slots index with queued := false }).bucketRemove index
  { removed.setSlot index { removed.slots index with
      contentHash := 0
      digest := noDigest
      state := .empty
      generation := nextGeneration (removed.slots index).generation
      pinCount := 0
      needByStep := 0xffffffff
      stagingIndex := none
      nextFree := removed.freeHead } with
    freeHead := some index
    slotsInUse := removed.slotsInUse - 1 }

/-- `NvmeTierReleaseReservedSlot`. -/
def releaseReservedSlot (index : Nat) : Tier :=
  { tier.setSlot index { tier.slots index with
      contentHash := 0
      digest := noDigest
      state := .empty
      generation := nextGeneration (tier.slots index).generation
      needByStep := 0xffffffff
      stagingIndex := none
      nextInBucket := none
      nextFree := tier.freeHead } with
    freeHead := some index
    slotsInUse := tier.slotsInUse - 1 }

/-- The slots that the clock passes over, however long ago they were used. -/
def clockSkips (slot : Slot) : Bool :=
  match slot.state with
  | .empty | .writing => true
  | .present => slot.pinCount ≠ 0
  | .filling | .ready => slot.pinCount ≠ 0 ||
      match slot.stagingIndex with
      | none => true
      | some buffer => tier.configuration.stagingBufferCount ≤ buffer ||
          (tier.staging buffer).holder = .demand ||
          (slot.state = .filling && (!tier.cancels || (tier.staging buffer).state = .cancelPending))

/-- The staging buffers. -/
def buffers : List Nat := List.range tier.configuration.stagingBufferCount

/-- The first free staging buffer. -/
def freeBuffer : Option Nat := tier.buffers.find? fun buffer => (tier.staging buffer).state = .free

/-- A buffer that is in this state for a block ahead of need, which is not pinned. -/
def preemptible (state : StagingState) (buffer : Nat) : Bool :=
  (tier.staging buffer).state = state && (tier.staging buffer).holder = .prefetch &&
    match (tier.staging buffer).slot with
    | none => false
    | some slotIndex => slotIndex < tier.slotCount && (tier.slots slotIndex).pinCount = 0

/-- The read ahead of need that is for the latest step, the first of these. -/
def latestPrefetch : Option Nat :=
  tier.buffers.foldl (fun best buffer =>
    if tier.preemptible .filling buffer then
      match best with
      | none => some buffer
      | some other =>
        if (tier.staging other).needByStep < (tier.staging buffer).needByStep then some buffer else best
    else best) none

end Tier

/-- `SparkNvmeTierWriteReservation`. -/
structure WriteReservation where
  contentHash : UInt64
  deviceOffset : UInt64
  slotIndex : Nat
  generation : UInt32
  alreadyPresent : Bool
  contentDigest : Digest

/-- `SparkNvmeTierNeed`. -/
structure Need where
  contentHash : UInt64
  needByStep : UInt32
  contentDigest : Digest

/-- `SparkNvmeTierPlanReport`. -/
structure PlanReport where
  alreadyReadyCount : Nat := 0
  alreadyInflightCount : Nat := 0
  queuedCount : Nat := 0
  absentCount : Nat := 0
  queueFullCount : Nat := 0
  lateRiskCount : Nat := 0
  deriving DecidableEq

/-- `SparkNvmeTierDemandState`. -/
inductive DemandState where
  | ready
  | inFlight
  | started
  | miss
  deriving DecidableEq

/-- `SparkNvmeTierDemandResult`, with the number of the staging buffer for its address. -/
structure DemandResult where
  state : DemandState := .ready
  ordered : Bool := false
  stagingPointer : Option Nat := none
  deriving DecidableEq

/-- What the device answers during one call: to the submissions and the cancellations by their
number, counted downwards, and to the polls by the buffer of the read. -/
structure Replies where
  submit : Nat → SparkStatus × UInt64 := fun _ => (.ok, 0)
  poll : Nat → SparkStatus := fun _ => .ok
  cancel : Nat → SparkStatus := fun _ => .ok

/-- A tier, its staging memory, and what an observer of it has noted: the reads that are outstanding
into each buffer, with their tickets and slots; the buffers handed to demands, with the bytes and
the digest they were handed with; and the needs that have been ordered and not been served,
cancelled or evicted since, the earliest of each content. -/
structure World where
  tier : Tier
  contents : Nat → List UInt8
  outstanding : Nat → List (UInt64 × Nat) := fun _ => []
  handed : Nat → Option (List UInt8 × Digest) := fun _ => none
  orders : UInt64 → Option UInt32 := fun _ => none

end Sparkpipe.NvmeTier
