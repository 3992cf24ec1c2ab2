import Sparkpipe.Cache.Tier.Model

/-!
# The calls of the NVMe tier

The public functions of `cache/nvme_tier.c`, with the device's part: a read is outstanding from a
submission that succeeds until a poll reports it over or a cancellation succeeds, and as
long as it is the device may write into its buffer.
-/

namespace Sparkpipe.NvmeTier

open Function

namespace World

variable (world : World) (replies : Replies)

/-- The world with another tier. -/
def withTier (tier : Tier) : World := { world with tier := tier }

/-- Write one slot of the tier. -/
def setSlot (index : Nat) (slot : Slot) : World := world.withTier (world.tier.setSlot index slot)

/-- The read of a buffer is over. -/
def ended (buffer : Nat) : World :=
  { world with
    outstanding := update world.outstanding buffer
      ((world.outstanding buffer).eraseP fun read => read.1 = (world.tier.staging buffer).ticket) }

/-- `NvmeTierStagingRelease`. -/
def release (buffer : Nat) : World := world.withTier (world.tier.stagingRelease buffer)

/-- A cancellation has been asked for. -/
def cancelPending (buffer : Nat) : World :=
  world.withTier (world.tier.setStaging buffer { world.tier.staging buffer with state := .cancelPending })

section Queue

/-- A need for the block of a slot waits in the heap, for this step or an earlier one. -/
def noteOrder (index : Nat) (needByStep : UInt32) : World :=
  { world with
    orders := update world.orders (world.tier.slots index).contentHash
      (some (match world.orders (world.tier.slots index).contentHash with
        | none => needByStep
        | some earlier => min earlier needByStep)) }

/-- No need for the block of a slot waits any longer. -/
def forgetOrder (index : Nat) : World :=
  { world with orders := update world.orders (world.tier.slots index).contentHash none }

/-- The slot is marked as queued, and gets an entry in the heap. -/
def enqueue (index : Nat) (needByStep : UInt32) : World :=
  let slot := world.tier.slots index
  (world.withTier { world.tier.setSlot index { slot with queued := true } with
    entries := pendingInsert world.tier.entries
      { slot := index
        generation := slot.generation
        needByStep := needByStep
        order := world.tier.nextOrder }
    nextOrder := world.tier.nextOrder + 1 }).noteOrder index needByStep

/-- The entry that is found for a slot gets an earlier step. -/
def tighten (position index : Nat) (needByStep : UInt32) : World :=
  (world.withTier { world.tier with
    entries := pendingTighten world.tier.entries position needByStep }).noteOrder index needByStep

/-- A slot is taken out of the heap, if it is marked as queued. -/
def dequeue (index : Nat) : World :=
  if (world.tier.slots index).queued then
    let found :=
      match pendingFind world.tier.entries index with
      | none => world
      | some position => world.withTier { world.tier with entries := pendingRemoveAt world.tier.entries position }
    (found.setSlot index { world.tier.slots index with queued := false }).forgetOrder index
  else world

/-- `NvmeTierPrefetchRequeue`. -/
def prefetchRequeue (index : Nat) (needByStep : UInt32) : World :=
  if (world.tier.slots index).queued ∨ world.tier.configuration.pendingCapacity ≤ world.tier.entries.length then
    world
  else world.enqueue index needByStep

end Queue

section Writes

/-- The end of `NvmeTierClockEvict`. -/
def evict (index : Nat) : World := (world.forgetOrder index).withTier (world.tier.evictSlot index)

/-- `NvmeTierQuarantineSlot`. -/
def quarantine (index : Nat) : World := (world.forgetOrder index).withTier (world.tier.quarantineSlot index)

/-- The loop of `NvmeTierClockEvict`, with the probes that are left. -/
def clockEvict : Nat → World → Option Nat × World
  | 0, world => (none, world)
  | probes + 1, world =>
    let index := world.tier.clockHand
    let slot := world.tier.slots index
    let moved := world.withTier { world.tier with clockHand := (index + 1) % world.tier.slotCount }
    if world.tier.clockSkips slot then clockEvict probes moved
    else if slot.referenced then clockEvict probes (moved.setSlot index { slot with referenced := false })
    else
      match slot.state, slot.stagingIndex with
      | .filling, some buffer =>
        if replies.cancel probes = .ok then (some index, ((moved.ended buffer).release buffer).evict index)
        else if replies.cancel probes = .busy ∨ replies.cancel probes = .pending then
          clockEvict probes (moved.cancelPending buffer)
        else (some index, (moved.release buffer).evict index)
      | .ready, some buffer => (some index, (moved.release buffer).evict index)
      | _, _ => (some index, moved.evict index)

/-- Take the first slot off the free list. -/
def popFree : Option Nat × World :=
  match world.tier.freeHead with
  | none => (none, world)
  | some index => (some index, world.withTier
      { world.tier.setSlot index { world.tier.slots index with nextFree := none } with
        freeHead := (world.tier.slots index).nextFree })

/-- `NvmeTierSlotAcquire`. -/
def slotAcquire : Option Nat × World :=
  if world.tier.freeHead.isSome then world.popFree
  else
    let evicted := clockEvict replies (2 * world.tier.slotCount % 2 ^ 32) world
    if evicted.1 = none then (none, evicted.2) else evicted.2.popFree

/-- What `SparkNvmeTierReserveWrite` hands out for a slot. -/
def reservationOf (index : Nat) (contentHash : UInt64) (contentDigest : Digest) (alreadyPresent : Bool) :
    WriteReservation where
  contentHash := contentHash
  deviceOffset := world.tier.deviceOffset index
  slotIndex := index
  generation := (world.tier.slots index).generation
  alreadyPresent := alreadyPresent
  contentDigest := contentDigest

/-- A slot off the free list becomes the one that is written. -/
def beginWrite (index : Nat) (contentHash : UInt64) (contentDigest : Digest) : World :=
  let slot := world.tier.slots index
  world.withTier { world.tier.setSlot index { slot with
      generation := Tier.nextGeneration slot.generation
      contentHash := contentHash
      digest := contentDigest
      state := .writing
      referenced := true
      pinCount := 0
      queued := false
      needByStep := 0xffffffff
      stagingIndex := none
      nextInBucket := none } with
    slotsInUse := world.tier.slotsInUse + 1 }

/-- `SparkNvmeTierReserveWrite`. -/
def reserveWrite (contentHash : UInt64) (contentDigest : Digest) : Except SparkStatus WriteReservation × World :=
  if contentHash = 0 ∨ digestIsUsable contentDigest = false then (.error .invalidArgument, world)
  else
    match world.tier.lookup contentHash with
    | some index =>
      if (world.tier.slots index).digest ≠ contentDigest then (.error .hashMismatch, world)
      else (.ok (world.reservationOf index contentHash contentDigest true),
        world.setSlot index { world.tier.slots index with referenced := true })
    | none =>
      match (List.range world.tier.slotCount).find? fun index =>
          (world.tier.slots index).state = .writing && (world.tier.slots index).contentHash = contentHash with
      | some index =>
        if (world.tier.slots index).digest ≠ contentDigest then (.error .hashMismatch, world)
        else (.error .busy, world)
      | none =>
        let acquired := world.slotAcquire replies
        match acquired.1 with
        | none => (.error .busy, acquired.2)
        | some index =>
          let begun := acquired.2.beginWrite index contentHash contentDigest
          (.ok (begun.reservationOf index contentHash contentDigest false), begun)

/-- `SparkNvmeTierCommitWrite`. -/
def commitWrite (reservation : WriteReservation) : SparkStatus × World :=
  let slot := world.tier.slots reservation.slotIndex
  if reservation.contentHash = 0 ∨ digestIsUsable reservation.contentDigest = false then (.invalidArgument, world)
  else if reservation.alreadyPresent then
    match world.tier.lookup reservation.contentHash with
    | none => (.validationFailed, world)
    | some existing =>
      if existing ≠ reservation.slotIndex ∨ world.tier.slotCount ≤ existing ∨
          (world.tier.slots existing).generation ≠ reservation.generation then (.validationFailed, world)
      else (.ok, world)
  else if world.tier.slotCount ≤ reservation.slotIndex then (.invalidArgument, world)
  else if slot.state ≠ .writing ∨ slot.contentHash ≠ reservation.contentHash ∨
      slot.generation ≠ reservation.generation ∨ slot.digest ≠ reservation.contentDigest ∨
      reservation.deviceOffset ≠ world.tier.deviceOffset reservation.slotIndex then (.validationFailed, world)
  else (.ok, world.withTier
    ((world.tier.setSlot reservation.slotIndex { slot with state := .present }).bucketInsert reservation.slotIndex))

/-- `SparkNvmeTierAbortWrite`. -/
def abortWrite (reservation : WriteReservation) : SparkStatus × World :=
  let slot := world.tier.slots reservation.slotIndex
  if reservation.contentHash = 0 then (.invalidArgument, world)
  else if reservation.alreadyPresent then (.ok, world)
  else if world.tier.slotCount ≤ reservation.slotIndex then (.invalidArgument, world)
  else if slot.state ≠ .writing ∨ slot.contentHash ≠ reservation.contentHash ∨
      slot.generation ≠ reservation.generation then (.validationFailed, world)
  else (.ok, world.withTier (world.tier.releaseReservedSlot reservation.slotIndex))

end Writes

section Plan

/-- The body of the loop of `SparkNvmeTierPlanLookahead`; there is no answer for a block with another
digest. -/
def planNeed (stepNow : UInt32) (need : Need) (report : PlanReport) (world : World) :
    Option (PlanReport × World) :=
  match world.tier.lookupVerified need.contentHash need.contentDigest with
  | .error .hashMismatch => none
  | .error _ => some ({ report with absentCount := report.absentCount + 1 }, world)
  | .ok index =>
    let slot := world.tier.slots index
    let touched := world.setSlot index { slot with
      referenced := true
      needByStep :=
        if need.needByStep < slot.needByStep ∨ slot.state = .present then need.needByStep else slot.needByStep }
    if slot.state = .ready then some ({ report with alreadyReadyCount := report.alreadyReadyCount + 1 }, touched)
    else if slot.state = .filling then
      let earlier :=
        match slot.stagingIndex with
        | none => touched
        | some buffer =>
          if need.needByStep < (world.tier.staging buffer).needByStep then
            touched.withTier (touched.tier.setStaging buffer
              { world.tier.staging buffer with needByStep := need.needByStep })
          else touched
      some ({ report with alreadyInflightCount := report.alreadyInflightCount + 1 }, earlier)
    else
      match pendingFind world.tier.entries index with
      | some position =>
        some ({ report with queuedCount := report.queuedCount + 1 }, touched.tighten position index need.needByStep)
      | none =>
        let risked := { report with lateRiskCount := report.lateRiskCount +
          if need.needByStep ≤ stepNow ∨ (need.needByStep - stepNow).toNat < world.tier.transferSteps then 1 else 0 }
        if world.tier.configuration.pendingCapacity ≤ world.tier.entries.length then
          some ({ risked with queueFullCount := report.queueFullCount + 1 }, touched)
        else some ({ risked with queuedCount := report.queuedCount + 1 }, touched.enqueue index need.needByStep)

/-- `SparkNvmeTierPlanLookahead`, from the report so far. -/
def planLookahead (stepNow : UInt32) : List Need → PlanReport → World → Except SparkStatus PlanReport × World
  | [], report, world => (.ok report, world)
  | need :: rest, report, world =>
    match planNeed stepNow need report world with
    | none => (.error .hashMismatch, world)
    | some (next, planned) => planLookahead stepNow rest next planned

end Plan

section Demand

/-- A buffer that a prefetch gives up; its block waits in the heap again. -/
def preempt (buffer : Nat) : World :=
  match (world.tier.staging buffer).slot with
  | none => world.release buffer
  | some slotIndex => (world.release buffer).prefetchRequeue slotIndex (world.tier.staging buffer).needByStep

/-- The cancellations of `NvmeTierStagingAcquireForDemand`, with the attempts that are left. -/
def cancelPrefetch : Nat → World → Option Nat × World
  | 0, world => (none, world)
  | attempts + 1, world =>
    match world.tier.latestPrefetch with
    | none => (none, world)
    | some buffer =>
      if replies.cancel attempts = .ok then (some buffer, (world.ended buffer).preempt buffer)
      else if replies.cancel attempts = .busy ∨ replies.cancel attempts = .pending then
        cancelPrefetch attempts (world.cancelPending buffer)
      else (some buffer, world.preempt buffer)

/-- `NvmeTierStagingAcquireForDemand`. -/
def stagingAcquireForDemand : Option Nat × World :=
  match world.tier.freeBuffer with
  | some buffer => (some buffer, world)
  | none =>
    match world.tier.buffers.find? (world.tier.preemptible .ready) with
    | some buffer => (some buffer, world.preempt buffer)
    | none =>
      if world.tier.cancels then cancelPrefetch replies world.tier.configuration.stagingBufferCount world
      else (none, world)

/-- `NvmeTierIssueRead`. -/
def issueRead (slotIndex buffer : Nat) (holder : Holder) (needByStep : UInt32) (reply : SparkStatus × UInt64) :
    SparkStatus × World :=
  let served := world.forgetOrder slotIndex
  if reply.1 ≠ .ok then (reply.1, served.release buffer)
  else
    let slot := world.tier.slots slotIndex
    (.ok, { served.withTier ((world.tier.setStaging buffer
        { ticket := reply.2
          slot := some slotIndex
          generation := slot.generation
          needByStep := needByStep
          state := .filling
          holder := holder }).setSlot slotIndex { slot with
          state := .filling
          stagingIndex := some buffer }) with
      outstanding := update world.outstanding buffer ((reply.2, slotIndex) :: world.outstanding buffer) })

/-- A demand for a block that is only on the drive, with a deadline. -/
def demandDeadline (index : Nat) (deadlineStep : UInt32) : (SparkStatus × DemandResult) × World :=
  let acquired := world.stagingAcquireForDemand replies
  match acquired.1 with
  | none =>
    match pendingFind acquired.2.tier.entries index with
    | some position => ((.busy, { ordered := true }), acquired.2.tighten position index deadlineStep)
    | none =>
      if acquired.2.tier.entries.length < acquired.2.tier.configuration.pendingCapacity then
        ((.busy, { ordered := true }), acquired.2.enqueue index deadlineStep)
      else ((.busy, {}), acquired.2)
  | some buffer =>
    let issued := (acquired.2.dequeue index).issueRead index buffer .demand deadlineStep (replies.submit 0)
    if issued.1 ≠ .ok then ((issued.1, {}), issued.2) else ((.ok, { state := .started }), issued.2)

/-- A demand for a block that is only on the drive, without a deadline. A need that was queued is
wanted as before when there is no buffer. -/
def demandNow (index : Nat) (stepNow : UInt32) : (SparkStatus × DemandResult) × World :=
  let acquired := (world.dequeue index).stagingAcquireForDemand replies
  match acquired.1 with
  | none =>
    ((.busy, {}),
      if (world.tier.slots index).queued then { acquired.2 with
        orders := update acquired.2.orders (world.tier.slots index).contentHash
          (world.orders (world.tier.slots index).contentHash) }
      else acquired.2)
  | some buffer =>
    let issued := acquired.2.issueRead index buffer .demand stepNow (replies.submit 0)
    if issued.1 ≠ .ok then ((issued.1, {}), issued.2) else ((.ok, { state := .started }), issued.2)

/-- `SparkNvmeTierRequestDemandDeadline`, and `SparkNvmeTierRequestDemand` with the deadline zero. -/
def requestDemand (contentHash : UInt64) (contentDigest : Digest) (stepNow deadlineStep : UInt32) :
    (SparkStatus × DemandResult) × World :=
  if contentHash = 0 ∨ digestIsUsable contentDigest = false then ((.invalidArgument, {}), world)
  else
    match world.tier.lookupVerified contentHash contentDigest with
    | .error .hashMismatch => ((.hashMismatch, { state := .miss }), world)
    | .error _ => ((.ok, { state := .miss }), world)
    | .ok index =>
      let slot := world.tier.slots index
      let used := world.setSlot index { slot with referenced := true }
      match slot.state, slot.stagingIndex with
      | .ready, some buffer =>
        ((.ok, { stagingPointer := some buffer }),
          { used.withTier (used.tier.setStaging buffer { world.tier.staging buffer with holder := .demand }) with
            handed := update world.handed buffer (some (world.contents buffer, slot.digest)) })
      | .ready, none => ((.ok, {}), used)
      | .filling, none => ((.internalError, {}), used)
      | .filling, some buffer =>
        if world.tier.configuration.stagingBufferCount ≤ buffer then ((.internalError, {}), used)
        else
          let held := world.tier.staging buffer
          let sooner := { held with needByStep :=
            if deadlineStep ≠ 0 ∧ deadlineStep < held.needByStep then deadlineStep else held.needByStep }
          if held.state = .cancelPending then
            ((.busy, {}), (used.withTier (used.tier.setStaging buffer sooner)).setSlot index { slot with
              referenced := true
              needByStep := stepNow })
          else ((.ok, { state := .inFlight }),
            used.withTier (used.tier.setStaging buffer { sooner with holder := .demand }))
      | _, _ =>
        if deadlineStep ≠ 0 then used.demandDeadline replies index deadlineStep
        else used.demandNow replies index stepNow

end Demand

section Pump

/-- A read that has landed: its bytes are verified against the digest of the slot. -/
def landed (buffer slotIndex : Nat) : SparkStatus × World :=
  if (world.tier.slots slotIndex).digest ≠ Sha256.digest (world.contents buffer) then
    (.hashMismatch, (world.release buffer).quarantine slotIndex)
  else (.ok, world.withTier ((world.tier.setStaging buffer { world.tier.staging buffer with state := .ready }).setSlot
    slotIndex { world.tier.slots slotIndex with state := .ready }))

/-- The slot that a read was for is as it was when the read was submitted. -/
def stillReads (buffer slotIndex : Nat) : Bool :=
  slotIndex < world.tier.slotCount && (world.tier.slots slotIndex).state = .filling &&
    (world.tier.slots slotIndex).stagingIndex = some buffer &&
    (world.tier.slots slotIndex).generation = (world.tier.staging buffer).generation

/-- What `SparkNvmeTierPump` does with a read that is over. -/
def settle (buffer : Nat) (status : SparkStatus) : SparkStatus × World :=
  let held := world.tier.staging buffer
  let ended := world.ended buffer
  let released := ended.release buffer
  match held.slot with
  | none => (.ok, released)
  | some slotIndex =>
    if held.state = .cancelPending then
      if slotIndex < world.tier.slotCount ∧ (released.tier.slots slotIndex).state = .present ∧
          (released.tier.slots slotIndex).generation = held.generation then
        (.ok, released.prefetchRequeue slotIndex held.needByStep)
      else (.ok, released)
    else if status ≠ .ok then (.ok, released)
    else if ended.stillReads buffer slotIndex then ended.landed buffer slotIndex
    else (.ok, released)

/-- The first loop of `SparkNvmeTierPump`. -/
def pollReads : List Nat → World → SparkStatus × World
  | [], world => (.ok, world)
  | buffer :: rest, world =>
    if (world.tier.staging buffer).state ≠ .filling ∧ (world.tier.staging buffer).state ≠ .cancelPending then
      pollReads rest world
    else if replies.poll buffer = .busy ∨ replies.poll buffer = .pending then pollReads rest world
    else andThen (world.settle buffer (replies.poll buffer)) (pollReads rest)

/-- The second loop of `SparkNvmeTierPump`, with the entries that are left at most: each round takes
one out of the heap and puts none in. -/
def issuePending : Nat → Nat → World → World
  | 0, _, world => world
  | rounds + 1, freeCount, world =>
    match world.tier.entries with
    | [] => world
    | head :: _ =>
      if freeCount ≤ world.tier.configuration.demandReserveBuffers then world
      else
        let popped := world.withTier { world.tier with entries := pendingRemoveAt world.tier.entries 0 }
        let slot := world.tier.slots head.slot
        if world.tier.slotCount ≤ head.slot ∨ slot.generation ≠ head.generation ∨ slot.state ≠ .present ∨
            slot.queued = false then issuePending rounds freeCount popped
        else
          let taken := popped.setSlot head.slot { slot with queued := false }
          match world.tier.freeBuffer with
          | none => taken
          | some buffer =>
            let claimed := (taken.forgetOrder head.slot).withTier
              (taken.tier.setStaging buffer { world.tier.staging buffer with
                state := .filling
                holder := .prefetch
                slot := none })
            issuePending rounds (freeCount - 1)
              (claimed.issueRead head.slot buffer .prefetch head.needByStep (replies.submit rounds)).2

/-- `SparkNvmeTierPump`. -/
def pump : SparkStatus × World :=
  andThen (pollReads replies world.tier.buffers world) fun polled =>
    let free := polled.tier.buffers.countP fun buffer => (polled.tier.staging buffer).state = .free
    (.ok, issuePending replies polled.tier.entries.length free polled)

end Pump

/-- `SparkNvmeTierConsume`. -/
def consume (contentHash : UInt64) (contentDigest : Digest) : SparkStatus × World :=
  if contentHash = 0 ∨ digestIsUsable contentDigest = false then (.invalidArgument, world)
  else
    match world.tier.lookupVerified contentHash contentDigest with
    | .error status => (status, world)
    | .ok index =>
      let slot := world.tier.slots index
      match slot.state, slot.stagingIndex with
      | .ready, some buffer =>
        (.ok, { (world.setSlot index { slot with referenced := true }).release buffer with
          handed := update world.handed buffer none })
      | .ready, none => (.ok, world.setSlot index { slot with referenced := true })
      | _, _ => (.invalidArgument, world)

/-- `SparkNvmeTierPin`. -/
def pin (contentHash : UInt64) (contentDigest : Digest) (pins : Bool) : SparkStatus × World :=
  if contentHash = 0 then (.invalidArgument, world)
  else
    match world.tier.lookupVerified contentHash contentDigest with
    | .error status => (status, world)
    | .ok index =>
      let slot := world.tier.slots index
      if pins then (.ok, world.setSlot index { slot with pinCount := slot.pinCount + 1 })
      else if slot.pinCount ≠ 0 then (.ok, world.setSlot index { slot with pinCount := slot.pinCount - 1 })
      else (.ok, world)

end World

/-- A call of a public function, or a write of the device into the buffer of a read. -/
inductive Step where
  | reserveWrite (contentHash : UInt64) (contentDigest : Digest) (replies : Replies)
  | commitWrite (reservation : WriteReservation)
  | abortWrite (reservation : WriteReservation)
  | planLookahead (needs : List Need) (stepNow : UInt32)
  | requestDemand (contentHash : UInt64) (contentDigest : Digest) (stepNow deadlineStep : UInt32) (replies : Replies)
  | pump (replies : Replies)
  | consume (contentHash : UInt64) (contentDigest : Digest)
  | pin (contentHash : UInt64) (contentDigest : Digest) (pins : Bool)
  | deviceWrite (buffer : Nat) (bytes : List UInt8)

namespace World

/-- The world after a step. -/
def perform (world : World) : Step → World
  | .reserveWrite contentHash contentDigest replies => (world.reserveWrite replies contentHash contentDigest).2
  | .commitWrite reservation => (world.commitWrite reservation).2
  | .abortWrite reservation => (world.abortWrite reservation).2
  | .planLookahead needs stepNow => (planLookahead stepNow needs {} world).2
  | .requestDemand contentHash contentDigest stepNow deadlineStep replies =>
    (world.requestDemand replies contentHash contentDigest stepNow deadlineStep).2
  | .pump replies => (world.pump replies).2
  | .consume contentHash contentDigest => (world.consume contentHash contentDigest).2
  | .pin contentHash contentDigest pins => (world.pin contentHash contentDigest pins).2
  | .deviceWrite buffer bytes =>
    if world.outstanding buffer = [] then world
    else { world with contents := update world.contents buffer bytes }

end World

section Initialize

/-- The bound of the saturating 64-bit helpers. -/
def saturate (value : Nat) : Nat := min value (2 ^ 64 - 1)

/-- `NvmeTierSaturatingMultiplyDivideU64`. -/
def saturatingMultiplyDivide (left right divisor : Nat) : Nat :=
  if divisor = 0 then 2 ^ 64 - 1
  else
    saturate (saturate (saturate (left / divisor * right) + saturate (left % divisor * (right / divisor))) +
      left % divisor * (right % divisor) / divisor)

/-- `NvmeTierSlotCountForBudget`. -/
def slotCountForBudget (configuration : Configuration) : Nat :=
  if configuration.blockBytes = 0 then 0 else min (configuration.budgetBytes / configuration.blockBytes) 0xfffffffe

/-- The steps that the transfer of a block takes. -/
def transferStepsOf (configuration : Configuration) : Nat :=
  let bytesPerStep := min (max (saturatingMultiplyDivide configuration.deviceBytesPerSecond
    configuration.stepTimeMicroseconds 1000000) 1) 0xffffffff
  max (configuration.blockBytes / bytesPerStep + if configuration.blockBytes % bytesPerStep ≠ 0 then 1 else 0) 1

/-- `SparkNvmeTierInitialize`, with what it asks of the configuration. The staging memory holds what
it holds. -/
def initializeTier (configuration : Configuration) (cancels : Bool) (contents : Nat → List UInt8) :
    Except SparkStatus World :=
  let slotCount := slotCountForBudget configuration
  if slotCount = 0 ∨ configuration.hashBucketCount = 0 ∨ configuration.pendingCapacity = 0 then
    .error .invalidArgument
  else if configuration.blockBytes % 4096 ≠ 0 then .error .invalidArgument
  else if configuration.stagingBufferCount < 2 ∨ 16 < configuration.stagingBufferCount ∨
      configuration.stagingBufferCount ≤ configuration.demandReserveBuffers then .error .invalidArgument
  else if configuration.deviceBytesPerSecond = 0 ∨ configuration.stepTimeMicroseconds = 0 then
    .error .invalidArgument
  else .ok {
    tier := {
      configuration := configuration
      cancels := cancels
      slotCount := slotCount
      transferSteps := transferStepsOf configuration
      slots := fun index => { nextFree := if index + 1 < slotCount then some (index + 1) else none }
      freeHead := some 0 }
    contents := contents }

end Initialize

end Sparkpipe.NvmeTier
