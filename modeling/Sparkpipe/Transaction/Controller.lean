import Sparkpipe.Transaction.Ledger

/-!
# The transaction controller

`runtime/runtime_completion.c`: one transaction at a time goes through all participants of a
controller. Each prepares it, then each executes it, then each commits it. When something
fails before that, the participants that have prepared it cancel it, in reverse order. Credits
bound what is under way, and a committed transaction leaves a final event that its owner
acknowledges later.
-/

namespace Sparkpipe.WorkTransaction

open Function

section Credits

/-- The credit domains. -/
inductive CreditDomain where
  | transportWindow
  | residentReservation
  | execution
  | completionOwnership
  deriving DecidableEq

/-- `SparkWorkTransactionCreditLedger`. -/
structure CreditLedger where
  capacity : CreditDomain → Nat
  inUse : CreditDomain → Nat := fun _ => 0

namespace CreditLedger

/-- `SparkWorkTransactionAcquireCredits` with a count of 1. -/
def acquireCredit (credits : CreditLedger) (domain : CreditDomain) : SparkStatus × CreditLedger :=
  if credits.capacity domain < credits.inUse domain ∨
      credits.capacity domain - credits.inUse domain < 1 then (.capacityExceeded, credits)
  else (.ok, { credits with inUse := update credits.inUse domain (credits.inUse domain + 1) })

/-- `SparkWorkTransactionReleaseCredits` with a count of 1. -/
def releaseCredit (credits : CreditLedger) (domain : CreditDomain) : SparkStatus × CreditLedger :=
  if credits.inUse domain < 1 then (.validationFailed, credits)
  else (.ok, { credits with inUse := update credits.inUse domain (credits.inUse domain - 1) })

end CreditLedger

end Credits

section Events

/-- The state of a final event. -/
inductive FinalEventState where
  | free
  | pending
  | acknowledged
  deriving DecidableEq

/-- `SparkRuntimeFinalEvent`. -/
structure FinalEvent where
  state : FinalEventState := .free
  eventGeneration : Nat := 0
  identity : Identity := {}
  payloadFingerprint : UInt64 := 0
  requestId : UInt64 := 0
  sequenceId : UInt64 := 0
  sequencePosition : UInt64 := 0
  status : SparkStatus := .ok

/-- `SparkRuntimeFinalEventQueue`. -/
structure FinalEventQueue where
  capacity : Nat
  pendingCount : Nat := 0
  nextEventGeneration : Nat := 1
  events : Nat → FinalEvent := fun _ => {}

/-- `SparkRuntimeTransactionRequest`. -/
structure TransactionRequest where
  participantCount : Nat
  identity : Identity
  requestId : UInt64
  sequenceId : UInt64
  sequencePosition : UInt64
  payload : List UInt8
  reserved0 : UInt32 := 0

namespace FinalEventQueue

variable (queue : FinalEventQueue)

/-- `SparkRuntimeValidateFinalEventQueue`. -/
def isValid : Bool :=
  queue.capacity ≠ 0 && queue.pendingCount ≤ queue.capacity && queue.nextEventGeneration ≠ 0

/-- `SparkRuntimeFindReusableFinalEvent`: the first free event, or else the acknowledged one of
the least generation. -/
def findReusableFinalEvent : Option Nat :=
  ((List.range queue.capacity).find? fun index => (queue.events index).state = .free).or
    (leastRanked (fun index => (queue.events index).state = .acknowledged)
      (fun index => (queue.events index).eventGeneration) (List.range queue.capacity) (2 ^ 64 - 1) none)

/-- The event that a committed transaction leaves. -/
def finalEvent (request : TransactionRequest) (payloadFingerprint : UInt64) (status : SparkStatus) :
    FinalEvent where
  state := .pending
  eventGeneration := queue.nextEventGeneration
  identity := request.identity
  payloadFingerprint := payloadFingerprint
  requestId := request.requestId
  sequenceId := request.sequenceId
  sequencePosition := request.sequencePosition
  status := status

/-- The queue with an event; the generations have 64 bits and are never zero. -/
def enqueue (index : Nat) (event : FinalEvent) : FinalEventQueue :=
  { queue with
    events := update queue.events index event
    pendingCount := queue.pendingCount + 1
    nextEventGeneration :=
      if (queue.nextEventGeneration + 1) % 2 ^ 64 = 0 then 1 else (queue.nextEventGeneration + 1) % 2 ^ 64 }

/-- `SparkRuntimeEnqueueFinalEvent`: the status, the queue and the event's generation. -/
def enqueueFinalEvent (request : TransactionRequest) (payloadFingerprint : UInt64) (status : SparkStatus) :
    SparkStatus × FinalEventQueue × Nat :=
  if queue.isValid = false ∨ payloadFingerprint = 0 ∨ queue.capacity ≤ queue.pendingCount then
    (.capacityExceeded, queue, 0)
  else match queue.findReusableFinalEvent with
    | none => (.capacityExceeded, queue, 0)
    | some index =>
      (.ok, queue.enqueue index (queue.finalEvent request payloadFingerprint status),
        queue.nextEventGeneration)

/-- `SparkRuntimeFindFinalEvent`. -/
def findFinalEvent (identity : Identity) (payloadFingerprint : UInt64) : Option FinalEvent :=
  if queue.isValid = false ∨ identity.isValid = false ∨ payloadFingerprint = 0 then none
  else ((List.range queue.capacity).find? fun index =>
    (queue.events index).state ≠ .free && (queue.events index).identity = identity &&
      (queue.events index).payloadFingerprint = payloadFingerprint).map queue.events

/-- `SparkRuntimeAcknowledgeFinalEvent`. -/
def acknowledgeFinalEvent (identity : Identity) (eventGeneration : Nat) (payloadFingerprint : UInt64) :
    SparkStatus × FinalEventQueue :=
  if queue.isValid = false ∨ identity.isValid = false ∨ eventGeneration = 0 ∨ payloadFingerprint = 0 then
    (.invalidArgument, queue)
  else match (List.range queue.capacity).find? fun index =>
      (queue.events index).eventGeneration = eventGeneration && (queue.events index).identity = identity with
    | none => (.notFound, queue)
    | some index =>
      let event := queue.events index
      if event.payloadFingerprint ≠ payloadFingerprint then (.validationFailed, queue)
      else if event.state = .acknowledged then (.duplicate, queue)
      else if event.state ≠ .pending ∨ queue.pendingCount = 0 then (.validationFailed, queue)
      else (.ok, { queue with
        events := update queue.events index { event with state := .acknowledged }
        pendingCount := queue.pendingCount - 1 })

end FinalEventQueue

end Events

/-- `SparkRuntimeParticipant`, without its callbacks. -/
structure Participant where
  participantIndex : Nat
  flags : UInt32
  restartEpoch : UInt64
  participantName : String

/-- `SparkRuntimeValidateParticipant`: the flags are exactly the three required ones. -/
def Participant.isValid (participant : Participant) (expectedIndex : Nat) : Bool :=
  participant.participantIndex = expectedIndex && participant.flags &&& 7 = 7 &&
    participant.flags &&& ~~~7 = 0 && participant.restartEpoch ≠ 0 && participant.participantName ≠ ""

/-- `SparkRuntimeController`. -/
structure Controller where
  participants : List Participant
  transactionLedger : Ledger
  creditLedger : CreditLedger
  finalEventQueue : FinalEventQueue

/-- `SparkRuntimeInitializeController`. -/
def initializeController (participants : List Participant) (transactionCapacity finalEventCapacity : Nat)
    (creditCapacities : CreditDomain → Nat) : Except SparkStatus Controller :=
  if participants.length = 0 ∨ 32 < participants.length ∨ transactionCapacity = 0 ∨
      finalEventCapacity = 0 ∨ creditCapacities .completionOwnership ≠ finalEventCapacity then
    .error .invalidArgument
  else if participants.zipIdx.any fun pair => !pair.1.isValid pair.2 then .error .invalidArgument
  else match initializeLedger transactionCapacity with
    | .error status => .error status
    | .ok ledger => .ok {
        participants := participants
        transactionLedger := ledger
        creditLedger := { capacity := creditCapacities }
        finalEventQueue := { capacity := finalEventCapacity } }

/-- `SparkRuntimeTransactionResult`. -/
structure TransactionResult where
  replayed : Bool := false
  committedParticipantCount : Nat := 0
  cancelledParticipantCount : Nat := 0
  payloadFingerprint : UInt64 := 0
  finalEventGeneration : Nat := 0
  status : SparkStatus := .pending

/-- A callback into a participant. -/
inductive Callback where
  | prepare (participant : Nat)
  | execute (participant : Nat)
  | commit (participant : Nat)
  | cancel (participant : Nat) (reason : SparkStatus)
  deriving DecidableEq

/-- What the callbacks of one call return. -/
structure Outcomes where
  prepare : Nat → SparkStatus := fun _ => .ok
  execute : Nat → SparkStatus := fun _ => .ok

/-- What `SparkRuntimeRunTransaction` returns, leaves and has called. -/
structure Ran where
  status : SparkStatus
  controller : Controller
  result : TransactionResult
  callbacks : List Callback := []

/-- A loop of fallible callbacks: its status, the callbacks made and how many succeeded. -/
def invokeEach (callback : Nat → Callback) (outcome : Nat → SparkStatus) :
    List Nat → SparkStatus × List Callback × Nat
  | [] => (.ok, [], 0)
  | participant :: rest =>
    if outcome participant ≠ .ok then (outcome participant, [callback participant], 0)
    else
      let later := invokeEach callback outcome rest
      (later.1, callback participant :: later.2.1, later.2.2 + 1)

/-- The local variables of `SparkRuntimeRunTransaction`. -/
structure Attempt where
  controller : Controller
  request : TransactionRequest
  result : TransactionResult
  held : CreditDomain → Bool := fun _ => false
  preparedParticipantCount : Nat := 0
  callbacks : List Callback := []

namespace Attempt

variable (attempt : Attempt)

/-- The participants in their order. -/
def indices : List Nat := List.range attempt.controller.participants.length

/-- `SparkRuntimeAcquireCredit`. -/
def acquire (domain : CreditDomain) : SparkStatus × Attempt :=
  let acquired := attempt.controller.creditLedger.acquireCredit domain
  if acquired.1 = .ok then
    (.ok, { attempt with
      controller := { attempt.controller with creditLedger := acquired.2 }
      held := update attempt.held domain true })
  else (if acquired.1 = .capacityExceeded then .busy else acquired.1, attempt)

/-- `SparkRuntimeReleaseCreditIfHeld`. -/
def release (domain : CreditDomain) : Attempt :=
  if attempt.held domain then
    { attempt with
      controller := { attempt.controller with
        creditLedger := (attempt.controller.creditLedger.releaseCredit domain).2 }
      held := update attempt.held domain false }
  else attempt

/-- The transition of the request's transaction. -/
def move (target : State) (terminalStatus : SparkStatus) : SparkStatus × Attempt :=
  let moved := attempt.controller.transactionLedger.transition attempt.request.identity target terminalStatus
  (moved.1, { attempt with controller := { attempt.controller with transactionLedger := moved.2 } })

/-- `SparkRuntimeCancelPreparedParticipants`. -/
def cancelPrepared (reason : SparkStatus) : Attempt :=
  { attempt with
    callbacks := attempt.callbacks ++
      (List.range attempt.preparedParticipantCount).reverse.map fun participant => .cancel participant reason
    result := { attempt.result with
      cancelledParticipantCount :=
        attempt.result.cancelledParticipantCount + attempt.preparedParticipantCount } }

/-- The end of a call. -/
def ended (status : SparkStatus) : Ran where
  status := status
  controller := attempt.controller
  result := { attempt.result with status := status }
  callbacks := attempt.callbacks

/-- The label `fail_transaction`. -/
def fail (terminalState : State) (status : SparkStatus) : Ran :=
  let moved := (attempt.cancelPrepared status).move terminalState status
  let released := (((moved.2.release .execution).release .completionOwnership).release
    .residentReservation).release .transportWindow
  released.ended (if moved.1 ≠ .ok then .internalError else status)

/-- The three releases at the end of a transaction that has committed. -/
def releaseAfterCommit : Attempt :=
  ((attempt.release .execution).release .residentReservation).release .transportWindow

/-- The commits, the transition to `COMMITTED` and the final event. -/
def commitAll : Ran :=
  let committed := { attempt with
    callbacks := attempt.callbacks ++ attempt.indices.map Callback.commit
    result := { attempt.result with
      committedParticipantCount := attempt.result.committedParticipantCount + attempt.indices.length } }
  let moved := committed.move .committed .ok
  if moved.1 ≠ .ok then moved.2.releaseAfterCommit.ended .internalError
  else
    let enqueued := moved.2.controller.finalEventQueue.enqueueFinalEvent attempt.request
      attempt.result.payloadFingerprint .ok
    let left := { moved.2 with
      controller := { moved.2.controller with finalEventQueue := enqueued.2.1 }
      result := { moved.2.result with finalEventGeneration := enqueued.2.2 } }
    if enqueued.1 ≠ .ok then left.releaseAfterCommit.ended .internalError
    else left.releaseAfterCommit.ended .ok

/-- From the transition to `EXECUTING` on. -/
def executeAll (outcomes : Outcomes) : Ran :=
  let moved := attempt.move .executing .pending
  if moved.1 ≠ .ok then moved.2.fail .failed moved.1
  else
    let executed := invokeEach .execute outcomes.execute attempt.indices
    let called := { moved.2 with callbacks := moved.2.callbacks ++ executed.2.1 }
    if executed.1 ≠ .ok then called.fail .failed executed.1
    else called.commitAll

/-- From the transition to `ACCEPTED` on. -/
def acceptAll (outcomes : Outcomes) : Ran :=
  let moved := attempt.move .accepted .pending
  if moved.1 ≠ .ok then moved.2.fail .failed moved.1
  else
    let acquired := moved.2.acquire .execution
    if acquired.1 ≠ .ok then acquired.2.fail .cancelled acquired.1
    else acquired.2.executeAll outcomes

/-- The loop over the participants' `prepare`, and what follows. -/
def prepareAll (outcomes : Outcomes) : Ran :=
  let prepared := invokeEach .prepare outcomes.prepare attempt.indices
  let called := { attempt with
    callbacks := attempt.callbacks ++ prepared.2.1
    preparedParticipantCount := prepared.2.2 }
  if prepared.1 ≠ .ok then called.fail .failed prepared.1
  else called.acceptAll outcomes

/-- A new transaction: the credits that it needs first, and then the participants. -/
def runNew (outcomes : Outcomes) : Ran :=
  let transport := attempt.acquire .transportWindow
  if transport.1 ≠ .ok then transport.2.fail .cancelled transport.1
  else
    let reservation := transport.2.acquire .residentReservation
    if reservation.1 ≠ .ok then reservation.2.fail .cancelled reservation.1
    else
      let completion := reservation.2.acquire .completionOwnership
      if completion.1 ≠ .ok then completion.2.fail .cancelled completion.1
      else completion.2.prepareAll outcomes

end Attempt

namespace Controller

variable (controller : Controller) (request : TransactionRequest)

/-- `SparkRuntimeValidateTransactionRequest`: the status and the fingerprint of the payload. -/
def validateTransactionRequest : SparkStatus × UInt64 :=
  if controller.participants.length = 0 ∨ request.participantCount ≠ controller.participants.length ∨
      request.identity.isValid = false ∨ request.requestId = 0 ∨ request.sequenceId = 0 ∨
      request.payload = [] ∨ request.reserved0 ≠ 0 then (.invalidArgument, 0)
  else if controller.participants.any fun participant =>
      request.identity.controlGeneration < participant.restartEpoch then (.validationFailed, 0)
  else if fingerprintBytes request.payload = 0 then (.validationFailed, 0)
  else (.ok, fingerprintBytes request.payload)

/-- The answer to a transaction that the ledger knows. -/
def replay (payloadFingerprint : UInt64) (observed : Observed) : Ran :=
  let result : TransactionResult :=
    { replayed := true
      payloadFingerprint := payloadFingerprint }
  if observed.observation = some .replayActive then
    { status := .busy
      controller := controller
      result := { result with status := .busy } }
  else
    let terminalStatus := match observed.entry with
      | none => .pending
      | some index => (observed.ledger.entries index).terminalStatus
    { status := .duplicate
      controller := controller
      result := { result with
        status := terminalStatus
        finalEventGeneration :=
          match controller.finalEventQueue.findFinalEvent request.identity payloadFingerprint with
          | none => 0
          | some event => event.eventGeneration } }

/-- `SparkRuntimeRunTransaction`. -/
def runTransaction (outcomes : Outcomes) : Ran :=
  let validated := controller.validateTransactionRequest request
  if validated.1 ≠ .ok then
    { status := validated.1
      controller := controller
      result := { status := validated.1 } }
  else
    let observed := controller.transactionLedger.observe request.identity validated.2
    let controller := { controller with transactionLedger := observed.ledger }
    if observed.status ≠ .ok then
      { status := observed.status
        controller := controller
        result :=
          { payloadFingerprint := validated.2
            status := observed.status } }
    else if observed.observation ≠ some .new then controller.replay request validated.2 observed
    else
      ({ controller := controller
         request := request
         result := { payloadFingerprint := validated.2 } } : Attempt).runNew outcomes

/-- `SparkRuntimeAcknowledgeControllerFinalEvent`. -/
def acknowledgeControllerFinalEvent (identity : Identity) (eventGeneration : Nat)
    (payloadFingerprint : UInt64) : SparkStatus × Controller :=
  let acknowledged :=
    controller.finalEventQueue.acknowledgeFinalEvent identity eventGeneration payloadFingerprint
  let left := { controller with finalEventQueue := acknowledged.2 }
  if acknowledged.1 ≠ .ok then (acknowledged.1, left)
  else
    let released := left.creditLedger.releaseCredit .completionOwnership
    (released.1, { left with creditLedger := released.2 })

end Controller

end Sparkpipe.WorkTransaction
