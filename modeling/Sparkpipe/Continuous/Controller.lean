import Mathlib.Data.List.Range
import Mathlib.Logic.Function.Basic
import Sparkpipe.Status

/-!
# The continuous batch controller

The admission controller of `scheduler/continuous_batch.c`. An offer joins a lane at once
when it fits and nothing that could join is waiting; otherwise it waits in the queue,
and a boundary releases waiting offers into the lanes that retired ones have left. An
offer that has waited `starvation_bound` boundaries goes first, and then the one with the
fewest rows.

Row counts and lane counts are 32-bit and are added as such. `boundary_index` and the
statistics are 64-bit counts of calls, which are taken not to wrap.

A `State` adds to the controller the trace of what became of the offers, the latest event
first.
-/

namespace Sparkpipe.ContinuousBatch

/-- `SPARK_CONTINUOUS_BATCH_ABI_VERSION`. -/
def abiVersion : Nat := 2

/-- `SPARK_CONTINUOUS_BATCH_CONFIGURATION_BYTES`. -/
def configurationBytes : Nat := 32

/-- `SPARK_CONTINUOUS_BATCH_REQUEST_BYTES`. -/
def requestBytes : Nat := 24

/-- `UINT32_MAX`, which `SparkContinuousBatchAllocateSlot` returns when no lane is free. -/
def noSlot : Nat := 2 ^ 32 - 1

/-- `SPARK_CONTINUOUS_BATCH_QUEUE_*`. -/
inductive QueueReason where
  | none
  | rows
  | lanes
  | oversize
  | full
  | ahead
  deriving DecidableEq

/-- `SPARK_CONTINUOUS_BATCH_ADMITTED` and `SPARK_CONTINUOUS_BATCH_QUEUED`. -/
inductive Outcome where
  | admitted
  | queued
  deriving DecidableEq

/-- `SparkContinuousBatchDecision`. -/
structure Decision where
  outcome : Outcome
  queueReason : QueueReason := .none
  queuePosition : Nat := 0
  deriving DecidableEq

/-- `SparkContinuousBatchRequest`. -/
structure Request where
  abiVersion : Nat := ContinuousBatch.abiVersion
  descriptorBytes : Nat := requestBytes
  requestId : UInt64
  promptRowCount : UInt32
  outputTokenBudget : UInt32
  deriving DecidableEq

/-- `SparkContinuousBatchConfiguration`, as it is handed to `SparkContinuousBatchInitialize`. -/
structure Descriptor where
  abiVersion : Nat := ContinuousBatch.abiVersion
  descriptorBytes : Nat := configurationBytes
  maxInputRows : UInt32
  maxActiveLanes : UInt32
  starvationBound : UInt32
  queueCapacity : UInt32
  laneCapacity : UInt32
  deriving DecidableEq

/-- The checks of `SparkContinuousBatchInitialize`. -/
def initializeStatus (descriptor : Descriptor) : SparkStatus :=
  if descriptor.abiVersion ≠ abiVersion ∨ descriptor.descriptorBytes ≠ configurationBytes then .abiMismatch
  else if descriptor.maxInputRows = 0 ∨ descriptor.maxActiveLanes = 0 ∨ descriptor.queueCapacity = 0 ∨
      descriptor.laneCapacity = 0 ∨ descriptor.maxActiveLanes < descriptor.laneCapacity ∨
      descriptor.maxInputRows < descriptor.maxActiveLanes then .invalidArgument
  else .ok

/-- What a controller has been initialized with. -/
structure Configuration where
  descriptor : Descriptor
  accepted : initializeStatus descriptor = .ok

namespace Configuration

variable (config : Configuration)

def maxInputRows : Nat := config.descriptor.maxInputRows.toNat

def maxActiveLanes : Nat := config.descriptor.maxActiveLanes.toNat

def starvationBound : Nat := config.descriptor.starvationBound.toNat

def queueCapacity : Nat := config.descriptor.queueCapacity.toNat

def laneCapacity : Nat := config.descriptor.laneCapacity.toNat

end Configuration

/-- `SparkContinuousBatchQueueEntry`. -/
structure QueueEntry where
  requestId : UInt64
  promptRowCount : UInt32
  enqueueBoundary : Nat
  oversize : Bool
  deriving DecidableEq

/-- `SPARK_CONTINUOUS_BATCH_LANE_*`. -/
inductive LanePhase where
  | free
  | resident
  deriving DecidableEq

/-- `SparkContinuousBatchLane`. -/
structure Lane where
  requestId : UInt64 := 0
  phase : LanePhase := .free
  promptRowCount : UInt32 := 0
  enqueueBoundary : Nat := 0
  retired : Bool := false
  admittedViaAging : Bool := false
  deriving DecidableEq

/-- The lane is not free. -/
def Lane.inUse (lane : Lane) : Bool := lane.phase ≠ .free

/-- The counters of `SparkContinuousBatchStatistics`. -/
structure Statistics where
  admissionRequests : Nat := 0
  admissionAccepted : Nat := 0
  admissionQueuedRows : Nat := 0
  admissionQueuedLanes : Nat := 0
  admissionOversize : Nat := 0
  admissionQueueFull : Nat := 0
  boundaryCount : Nat := 0
  slotReclaims : Nat := 0
  starvationJumps : Nat := 0
  deriving DecidableEq

/-- `SparkContinuousBatch`; `queue_count` is the length of the queue. There are fewer than 2^64 boundaries. -/
structure Controller where
  queue : List QueueEntry := []
  lanes : Nat → Lane := fun _ => {}
  residentLaneCount : Nat := 0
  boundaryIndex : Nat := 0
  statistics : Statistics := {}

/-- What becomes of an offer. An offer that joins a lane, at once or from the queue, does so with its
rows and the boundary it was made at. -/
inductive Event where
  | admitted (requestId : UInt64) (promptRowCount : UInt32) (enqueueBoundary slot : Nat)
  | queued (requestId : UInt64)
  | withdrawn (requestId : UInt64)
  | retired (requestId : UInt64)
  | reclaimed (requestId : UInt64)
  | released (requestId : UInt64) (promptRowCount : UInt32) (enqueueBoundary slot : Nat)
  | boundary
  deriving DecidableEq

/-- A controller with the trace of its calls. -/
structure State where
  controller : Controller := {}
  trace : List Event := []

namespace State

variable (state : State)

def queue : List QueueEntry := state.controller.queue

def lane (slot : Nat) : Lane := state.controller.lanes slot

def residentLaneCount : Nat := state.controller.residentLaneCount

def boundaryIndex : Nat := state.controller.boundaryIndex

/-- The trace with one event more. -/
def note (event : Event) : State := { state with trace := event :: state.trace }

/-- A change of the statistics. -/
def count (change : Statistics → Statistics) : State :=
  { state with controller := { state.controller with statistics := change state.controller.statistics } }

/-- A change of the queue. -/
def editQueue (change : List QueueEntry → List QueueEntry) : State :=
  { state with controller := { state.controller with queue := change state.controller.queue } }

end State

section Policy

/-- The index of a pick, as an `int32_t`: from `2 ^ 31` on it is negative, and reads as no pick. -/
def recordPick (index : Nat) (entry : QueueEntry) : Option (Nat × QueueEntry) :=
  if index < 2 ^ 31 then some (index, entry) else none

/-- An entry that may be picked, against the best one so far. -/
def pickStep (better : QueueEntry → QueueEntry → Bool) (best : Option (Nat × QueueEntry)) (index : Nat)
    (entry : QueueEntry) : Option (Nat × QueueEntry) :=
  match best with
  | none => recordPick index entry
  | some (place, held) => if better entry held then recordPick index entry else some (place, held)

/-- A loop of `SparkContinuousBatchPolicyPick`: of the entries that may be picked, the first that no
other is better than. -/
def pickFrom (eligible : QueueEntry → Bool) (better : QueueEntry → QueueEntry → Bool) :
    Nat → List QueueEntry → Option (Nat × QueueEntry) → Option (Nat × QueueEntry)
  | _, [], best => best
  | index, entry :: rest, best =>
    pickFrom eligible better (index + 1) rest (if eligible entry then pickStep better best index entry else best)

/-- An entry that has waited for the starvation bound. -/
def aged (bound boundary : Nat) (entry : QueueEntry) : Bool :=
  !entry.oversize && decide (entry.enqueueBoundary + bound ≤ boundary)

/-- `SparkContinuousBatchPolicyPick`, over the queue. -/
def policyPick (queue : List QueueEntry) (boundary bound : Nat) : Option (Nat × QueueEntry) :=
  let oldest :=
    if bound ≠ 0 then
      pickFrom (aged bound boundary) (fun entry held => entry.enqueueBoundary < held.enqueueBoundary) 0 queue none
    else none
  match oldest with
  | some pick => some pick
  | none => pickFrom (fun entry => !entry.oversize) (fun entry held => entry.promptRowCount < held.promptRowCount) 0
      queue none

end Policy

section Joining

variable (config : Configuration)

/-- `SparkContinuousBatchAllocateSlot`. -/
def allocateSlot (controller : Controller) : Nat :=
  ((List.range config.laneCapacity).find? fun slot => (controller.lanes slot).phase = .free).getD noSlot

/-- `SparkContinuousBatchLaneLimit`. -/
def laneLimit : Nat :=
  if config.laneCapacity < config.maxActiveLanes then config.laneCapacity else config.maxActiveLanes

/-- `SparkContinuousBatchOfferAged`. -/
def offerAged (controller : Controller) (enqueueBoundary : Nat) : Bool :=
  config.starvationBound ≠ 0 && decide (enqueueBoundary + config.starvationBound ≤ controller.boundaryIndex)

/-- `SparkContinuousBatchJoinFits`. -/
def joinFits (controller : Controller) (promptRowCount : UInt32) : QueueReason :=
  if laneLimit config < (controller.residentLaneCount + 1) % 2 ^ 32 then .lanes
  else if config.maxInputRows < (controller.residentLaneCount + promptRowCount.toNat) % 2 ^ 32 then .rows
  else .none

/-- `SparkContinuousBatchCreateLane`. -/
def createLane (controller : Controller) (requestId : UInt64) (promptRowCount : UInt32)
    (enqueueBoundary slot : Nat) : Controller :=
  let aged := offerAged config controller enqueueBoundary
  { controller with
    lanes := Function.update controller.lanes slot
      { requestId := requestId
        phase := .resident
        promptRowCount := promptRowCount
        enqueueBoundary := enqueueBoundary
        retired := false
        admittedViaAging := aged }
    residentLaneCount := (controller.residentLaneCount + 1) % 2 ^ 32
    statistics := { controller.statistics with
      starvationJumps := if aged then controller.statistics.starvationJumps + 1
        else controller.statistics.starvationJumps
      admissionAccepted := controller.statistics.admissionAccepted + 1 } }

/-- `SparkContinuousBatchAdmitFromQueue`, with the release that is reported for it. -/
def admitFromQueue (state : State) (index : Nat) (entry : QueueEntry) (slot : Nat) : State :=
  let created := createLane config state.controller entry.requestId entry.promptRowCount entry.enqueueBoundary slot
  { controller := { created with queue := created.queue.eraseIdx index }
    trace := .released entry.requestId entry.promptRowCount entry.enqueueBoundary slot :: state.trace }

end Joining

section Calls

variable (config : Configuration)

/-- `SparkContinuousBatchRequestIdKnown`. -/
def requestIdKnown (controller : Controller) (requestId : UInt64) : Bool :=
  (controller.queue.any fun entry => entry.requestId = requestId) ||
    (List.range config.laneCapacity).any fun slot =>
      (controller.lanes slot).phase ≠ .free && (controller.lanes slot).requestId = requestId

/-- Why an offer cannot join at once. -/
def offerReason (controller : Controller) (request : Request) : QueueReason :=
  let reason := joinFits config controller request.promptRowCount
  if config.maxInputRows < request.promptRowCount.toNat then .oversize
  else if reason = .none ∧ controller.queue.any (fun entry => !entry.oversize) then .ahead
  else reason

/-- An offer that joins a lane. -/
def joinLane (state : State) (request : Request) : State :=
  let slot := allocateSlot config state.controller
  { controller := createLane config state.controller request.requestId request.promptRowCount
      state.boundaryIndex slot
    trace := .admitted request.requestId request.promptRowCount state.boundaryIndex slot :: state.trace }

/-- `SparkContinuousBatchEnqueue`. -/
def enqueue (state : State) (request : Request) (oversize : Bool) : State :=
  (state.editQueue fun queue => queue ++
    [{ requestId := request.requestId
       promptRowCount := request.promptRowCount
       enqueueBoundary := state.boundaryIndex
       oversize := oversize }]).note (.queued request.requestId)

/-- An offer that waits. -/
def waitInQueue (state : State) (request : Request) (reason : QueueReason) : Decision × State :=
  if state.queue.length = config.queueCapacity then
    ({ outcome := .queued, queueReason := .full },
      state.count fun statistics => { statistics with admissionQueueFull := statistics.admissionQueueFull + 1 })
  else
    let queued := enqueue state request (reason = .oversize)
    ({ outcome := .queued, queueReason := reason, queuePosition := queued.queue.length - 1 },
      if reason = .oversize then
        queued.count fun statistics => { statistics with admissionOversize := statistics.admissionOversize + 1 }
      else queued)

/-- The checks of `SparkContinuousBatchOffer`. -/
def offerStatus (controller : Controller) (request : Request) : SparkStatus :=
  if request.abiVersion ≠ abiVersion ∨ request.descriptorBytes ≠ requestBytes then .abiMismatch
  else if request.requestId = 0 ∨ request.promptRowCount = 0 ∨ request.outputTokenBudget = 0 then .invalidArgument
  else if requestIdKnown config controller request.requestId then .duplicate
  else .ok

/-- `SparkContinuousBatchOffer`. -/
def offer (state : State) (request : Request) : SparkStatus × Option Decision × State :=
  let status := offerStatus config state.controller request
  if status ≠ .ok then (status, none, state)
  else
    let state := state.count fun statistics =>
      { statistics with admissionRequests := statistics.admissionRequests + 1 }
    let reason := offerReason config state.controller request
    if reason = .none then (.ok, some { outcome := .admitted }, joinLane config state request)
    else
      let (decision, state) := waitInQueue config state request reason
      (.ok, some decision, state)

/-- `SparkContinuousBatchWithdraw`. -/
def withdraw (state : State) (requestId : UInt64) : SparkStatus × State :=
  if requestId = 0 then (.invalidArgument, state)
  else if state.queue.any fun entry => entry.requestId = requestId then
    (.ok, (state.editQueue fun queue => queue.eraseP fun entry => entry.requestId = requestId).note
      (.withdrawn requestId))
  else (.notFound, state)

/-- The lane a request is resident in. -/
def residentLane (controller : Controller) (requestId : UInt64) : Option Nat :=
  (List.range config.laneCapacity).find? fun slot =>
    (controller.lanes slot).phase ≠ .free && (controller.lanes slot).requestId = requestId

/-- A lane that is retired. -/
def retireLane (controller : Controller) (slot : Nat) : Controller :=
  { controller with
    lanes := Function.update controller.lanes slot { controller.lanes slot with retired := true } }

/-- `SparkContinuousBatchRetire`. -/
def retire (state : State) (requestId : UInt64) : SparkStatus × State :=
  if requestId = 0 then (.invalidArgument, state)
  else
    match residentLane config state.controller requestId with
    | none => (.notFound, state)
    | some slot => (.ok, { controller := retireLane state.controller slot, trace := .retired requestId :: state.trace })

/-- A 32-bit count less one. -/
def decrement (count : Nat) : Nat := if count = 0 then 2 ^ 32 - 1 else count - 1

/-- A lane that is freed. -/
def freeLane (controller : Controller) (slot : Nat) : Controller :=
  { controller with
    lanes := Function.update controller.lanes slot { controller.lanes slot with phase := .free, requestId := 0 }
    residentLaneCount := decrement controller.residentLaneCount
    statistics := { controller.statistics with slotReclaims := controller.statistics.slotReclaims + 1 } }

/-- One lane of the loop of `SparkContinuousBatchBoundary` that frees the retired ones. -/
def reclaimLane (state : State) (slot : Nat) : State :=
  if (state.lane slot).phase = .free ∨ !(state.lane slot).retired then state
  else
    { controller := freeLane state.controller slot
      trace := .reclaimed (state.lane slot).requestId :: state.trace }

/-- The retired lanes are freed. -/
def reclaim (state : State) : State := (List.range config.laneCapacity).foldl reclaimLane state

/-- A pick that does not fit. -/
def countRefusal (state : State) (reason : QueueReason) : State :=
  state.count fun statistics =>
    if reason = .lanes then { statistics with admissionQueuedLanes := statistics.admissionQueuedLanes + 1 }
    else { statistics with admissionQueuedRows := statistics.admissionQueuedRows + 1 }

/-- The loop of `SparkContinuousBatchBoundary` that releases waiting offers: the ids it reports, with
room for so many more. -/
def releaseFrom : Nat → State → List UInt64 × State
  | 0, state => ([], state)
  | room + 1, state =>
    match policyPick state.queue state.boundaryIndex config.starvationBound with
    | none => ([], state)
    | some (index, entry) =>
      let reason := joinFits config state.controller entry.promptRowCount
      if reason ≠ .none then ([], countRefusal state reason)
      else
        let (released, state) :=
          releaseFrom room (admitFromQueue config state index entry (allocateSlot config state.controller))
        (entry.requestId :: released, state)

/-- The next boundary is reached. -/
def nextBoundary (state : State) : State :=
  { state with controller := { state.controller with
      boundaryIndex := state.boundaryIndex + 1
      statistics := { state.controller.statistics with
        boundaryCount := state.controller.statistics.boundaryCount + 1 } } }

/-- `SparkContinuousBatchBoundary`: the ids it reports are those it has released. -/
def boundary (state : State) (releasedCapacity : Nat) : SparkStatus × List UInt64 × State :=
  if releasedCapacity < state.queue.length then (.capacityExceeded, [], state)
  else
    let (released, state) := releaseFrom config releasedCapacity (reclaim config (nextBoundary state))
    (.ok, released, state.note .boundary)

/-- A call of the controller's interface that changes it. -/
inductive Call where
  | offer (request : Request)
  | withdraw (requestId : UInt64)
  | retire (requestId : UInt64)
  | boundary (releasedCapacity : Nat)

/-- An offer of some rows. -/
def offerOf (requestId : UInt64) (rows : UInt32) : Call :=
  .offer { requestId := requestId, promptRowCount := rows, outputTokenBudget := 1 }

/-- What a call leaves of the controller. -/
def Call.apply (state : State) : Call → State
  | .offer request => (ContinuousBatch.offer config state request).2.2
  | .withdraw requestId => (ContinuousBatch.withdraw state requestId).2
  | .retire requestId => (ContinuousBatch.retire config state requestId).2
  | .boundary releasedCapacity => (ContinuousBatch.boundary config state releasedCapacity).2.2

/-- A run from the initialized controller on. -/
def run (calls : List Call) : State := calls.foldl (Call.apply config) {}

end Calls

end Sparkpipe.ContinuousBatch
