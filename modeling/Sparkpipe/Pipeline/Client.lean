import Sparkpipe.Pipeline.State

/-!
# The pipeline client: calls and callbacks

The calls of `model_pipeline_client.c`, and what it does with the answers of the ranks.
A callback of a resident client runs in the middle of the reading of its connection,
and may stop every connection, so the reading works on the whole state.
-/

namespace Sparkpipe.PipelineClient

open BatchEngine (Message Completion Callback WireStatus WorkKind Lane)

variable (config : Configuration)

section Leases

/-- `SparkModelContinuationLeaseIsActive`. -/
def Lease.isActive (lease : Lease) : Bool := lease.clientGeneration ≠ 0

/-- `SparkModelContinuationLeaseEstablish`. -/
def Lease.establish (lease : Lease) (clientGeneration controlGeneration nextSequencePosition stepGeneration : Nat) :
    SparkStatus × Lease :=
  if clientGeneration = 0 ∨ controlGeneration = 0 ∨ stepGeneration = 0 then (.invalidArgument, lease)
  else
    (.ok,
      { clientGeneration := clientGeneration
        controlGeneration := controlGeneration
        nextSequencePosition := nextSequencePosition
        lastStepGeneration := stepGeneration })

/-- `SparkModelContinuationLeaseDecodePosition`. -/
def leaseDecodePosition (contextTokenCount tokensPerSequence : Nat) : SparkStatus × Nat :=
  if tokensPerSequence = 0 then (.invalidArgument, contextTokenCount)
  else if 2 ^ 64 - 1 - (tokensPerSequence - 1) < contextTokenCount then (.capacityExceeded, contextTokenCount)
  else (.ok, contextTokenCount + (tokensPerSequence - 1))

/-- `SparkModelContinuationLeaseVerifyPosition`. -/
def leaseVerifyPosition (sequencePosition keptTokenCount : Nat) : SparkStatus × Nat :=
  if keptTokenCount = 0 then (.invalidArgument, sequencePosition)
  else if 2 ^ 64 - 1 - keptTokenCount < sequencePosition then (.capacityExceeded, sequencePosition)
  else (.ok, sequencePosition + keptTokenCount)

/-- `SparkModelContinuationLeaseValidate`. -/
def Lease.validate (lease : Lease) (clientGeneration controlGeneration sequencePosition stepGeneration : Nat) :
    SparkStatus :=
  if clientGeneration = 0 ∨ controlGeneration = 0 ∨ stepGeneration = 0 then .invalidArgument
  else if lease.clientGeneration = 0 then .notFound
  else if lease.clientGeneration ≠ clientGeneration ∨ lease.controlGeneration ≠ controlGeneration ∨
      lease.nextSequencePosition ≠ sequencePosition ∨ stepGeneration ≤ lease.lastStepGeneration then .schemaError
  else .ok

/-- `lease_generation`. -/
def leaseGeneration : Nat := 1

/-- `SparkModelPipelineClientLeaseMatches`. -/
def leaseMatches (client : Client) (controlGeneration : Nat) (lane : Lane) : Bool :=
  match lane.residentSequenceSlot with
  | none => false
  | some resident =>
    if config.residentSequenceCapacity ≤ resident then false
    else
      let slot := client.leaseSlots resident
      slot.requestId = lane.requestId ∧ slot.requestGeneration = lane.requestGeneration ∧
        slot.sequenceId = lane.sequenceId ∧
        slot.lease.validate leaseGeneration controlGeneration lane.sequencePosition lane.stepGeneration = .ok

/-- `SparkModelPipelineClientCanContinue`. -/
def canContinue (client : Client) (submission : Submission) : Bool :=
  submission.message.workKind ≠ .cachePublish ∧ config.continueLease ∧
    submission.message.lanes.all (leaseMatches config client submission.message.controlGeneration)

/-- A write to a lease slot. -/
def Client.editLease (client : Client) (resident : Nat) (change : LeaseSlot → LeaseSlot) : Client :=
  { client with leaseSlots := Function.update client.leaseSlots resident (change (client.leaseSlots resident)) }

/-- `SparkModelPipelineClientInvalidateLease`. -/
def invalidateLease (client : Client) (resident : Nat) : Client :=
  let count :=
    if (client.leaseSlots resident).lease.isActive then BatchEngine.subU32 client.activeContinueLeaseCount 1
    else client.activeContinueLeaseCount
  { client.editLease resident fun _ => {} with activeContinueLeaseCount := count }

/-- One lane of `SparkModelPipelineClientDropLeases`. -/
def dropLease (client : Client) (lane : Lane) : Client :=
  match lane.residentSequenceSlot with
  | none => client
  | some resident =>
    if resident < config.residentSequenceCapacity then invalidateLease client resident else client

/-- The position a completed lane leaves its sequence at, as the pipeline client computes it. -/
def nextSequencePosition (message : Message) (completion : Completion) (index : Nat) (lane : Lane) :
    SparkStatus × Nat :=
  if message.verify then leaseVerifyPosition lane.sequencePosition (completion.keptRows index)
  else if message.workKind = .decode then
    leaseDecodePosition lane.contextTokenCount
      (if completion.tokensPerSequence = 0 then message.tokensPerSequence else completion.tokensPerSequence)
  else (.ok, lane.contextTokenCount)

/-- The owner of a lease slot, taken from a lane. -/
def LeaseSlot.ownedBy (slot : LeaseSlot) (lane : Lane) : LeaseSlot :=
  { slot with
    requestId := lane.requestId
    requestGeneration := lane.requestGeneration
    sequenceId := lane.sequenceId }

/-- One lane of `SparkModelPipelineClientUpdateLeases`, in the slot `resident`. -/
def updateLease (message : Message) (completion : Completion) (index resident : Nat) (lane : Lane)
    (client : Client) : SparkStatus × Client :=
  if message.workKind = .release then (.ok, invalidateLease client resident)
  else
    let count :=
      if (client.leaseSlots resident).lease.isActive then client.activeContinueLeaseCount
      else client.activeContinueLeaseCount + 1
    let client := { client.editLease resident (·.ownedBy lane) with activeContinueLeaseCount := count }
    let (status, position) := nextSequencePosition message completion index lane
    if status ≠ .ok then (status, client)
    else
      let (status, lease) := (client.leaseSlots resident).lease.establish leaseGeneration message.controlGeneration
        position lane.stepGeneration
      (status, client.editLease resident fun slot => { slot with lease := lease })

/-- The loop of `SparkModelPipelineClientUpdateLeases`; every lane that is prevalidated has a
resident slot. -/
def updateLeasesFrom (message : Message) (completion : Completion) : Nat → List Lane → Client → SparkStatus × Client
  | _, [], client => (.ok, client)
  | index, lane :: rest, client =>
    match lane.residentSequenceSlot with
    | none => updateLeasesFrom message completion (index + 1) rest client
    | some resident =>
      andThen (updateLease message completion index resident lane client)
        (updateLeasesFrom message completion (index + 1) rest)

/-- `SparkModelPipelineClientUpdateLeases`. -/
def updateLeases (message : Message) (completion : Completion) (client : Client) : SparkStatus × Client :=
  if !config.continueLease then (.ok, client)
  else updateLeasesFrom message completion 0 message.lanes client

end Leases

section Transactions

/-- The ranks, from the first to the last. -/
def Configuration.ranks (config : Configuration) : List Nat := List.range config.rankCount

/-- The places of the transactions. -/
def Configuration.places (config : Configuration) : List Nat := List.range config.transactionCapacity

/-- `SparkModelPipelineClientFind`. -/
def find (client : Client) (submissionId : Nat) : Option Nat :=
  config.places.find? fun index =>
    (client.transactions index).active && (client.transactions index).submission.id == submissionId

/-- `SparkModelPipelineClientReserve`: the place of the transaction. -/
def reserve (state : State) (submission : Submission) (continued : Bool) : Option (Nat × State) :=
  match config.places.find? fun index => !(state.client.transactions index).active with
  | none => none
  | some index =>
    let reserved := state.editTransaction index fun _ =>
      { active := true, submission := submission, continued := continued }
    some (index, { reserved with
      client := { reserved.client with activeTransactionCount := reserved.client.activeTransactionCount + 1 } })

/-- A cleared record; what it was made for is not read again. -/
def Transaction.cleared (transaction : Transaction) : Transaction := { submission := transaction.submission }

/-- `SparkModelPipelineClientRelease`. -/
def release (state : State) (index : Nat) : State :=
  let released := state.editTransaction index Transaction.cleared
  { released with
    client := { released.client with
      activeTransactionCount := BatchEngine.subU32 released.client.activeTransactionCount 1 } }

/-- `SparkModelPipelineClientRecordFailure`. -/
def Transaction.recordFailure (transaction : Transaction) (status : WireStatus) : Transaction :=
  if transaction.status = .known .ok then { transaction with status := status } else transaction

/-- `SparkModelPipelineClientRecordFailure`, of the transaction at a place. -/
def recordFailure (state : State) (index : Nat) (status : WireStatus) : State :=
  state.editTransaction index (·.recordFailure status)

/-- `SparkModelPipelineClientSetFailure`. -/
def setFailure (state : State) (status : WireStatus) : State :=
  if state.client.failedStatus ≠ .known .ok then state
  else
    { state with
      client := { state.client with
        failedStatus := status
        clients := fun rank =>
          if rank < config.rankCount then failStop (state.client.clients rank) else state.client.clients rank
        leaseSlots := fun slot =>
          if slot < config.residentSequenceCapacity then {} else state.client.leaseSlots slot
        activeContinueLeaseCount := 0 } }

/-- A callback of the caller. -/
def tell (state : State) (callback : Callback) : State := state.note (.told callback state.client)

/-- `SparkModelPipelineClientReportResult`. -/
def reportResult (state : State) (index : Nat) : State :=
  let transaction := state.client.transactions index
  if transaction.resultReported ∨ transaction.resultMask ≠ config.allRankMask then state
  else if !transaction.continued ∧ (transaction.decisionKind.isNone ∨
      transaction.decisionResultMask ≠ transaction.decisionExpectedMask) then state
  else
    tell (state.editTransaction index fun transaction => { transaction with resultReported := true })
      (.submitResult transaction.submission.id transaction.status)

/-- The completion of a transaction that was not completed by its last rank. -/
def failedCompletion (submissionId : Nat) (status : WireStatus) : Completion :=
  { status := status, submissionId := submissionId }

/-- The leases of a completed transaction: they are renewed, and the transaction fails if they
cannot be. -/
def renewLeases (state : State) (index : Nat) : State :=
  let transaction := state.client.transactions index
  let (status, client) := updateLeases config transaction.submission.message
    transaction.finalCompletion.completion state.client
  let updated := { state with client := client }
  if status ≠ .ok then setFailure config (recordFailure updated index (.known status)) (.known status)
  else updated

/-- The end of a transaction: its leases are dropped unless it succeeded, its record is released and
its completion is told. -/
def finishTransaction (state : State) (index : Nat) : State :=
  let transaction := state.client.transactions index
  if transaction.status = .known .ok then
    tell (release state index) (.completion transaction.finalCompletion.completion)
  else
    let dropped := { state with
      client := transaction.submission.message.lanes.foldl (dropLease config) state.client }
    tell (release dropped index) (.completion (failedCompletion transaction.submission.id transaction.status))

/-- `SparkModelPipelineClientReportCompletion`. -/
def reportCompletion (state : State) (index : Nat) : State :=
  let transaction := state.client.transactions index
  if !transaction.resultReported ∨ transaction.completionMask ≠ config.allRankMask then state
  else if transaction.status = .known .ok then finishTransaction config (renewLeases config state index) index
  else finishTransaction config state index

end Transactions

section Decisions

/-- The decision of a transaction is sent to the ranks of `order`, once all of `ranks` can take
it. -/
def sendDecisions (state : State) (index : Nat) (kind : DecisionKind) (expected : RankMask)
    (ranks order : List Nat) : SparkStatus × State :=
  let submissionId := (state.client.transactions index).submission.id
  let refusal := firstRefusal (fun rank => canQueueDecision config submissionId kind (state.client.clients rank)) ranks
  if refusal ≠ .ok then (refusal, state)
  else
    forEach (sendDecision config submissionId kind) order
      (state.editTransaction index fun transaction =>
        { transaction with decisionKind := some kind, decisionExpectedMask := expected })

/-- The ranks that have prepared a transaction. -/
def preparedRanks (transaction : Transaction) : List Nat :=
  config.ranks.filter fun rank => transaction.preparedMask.getLsbD rank

/-- The part of `SparkModelPipelineClientResolveAdmission` that commits or aborts. -/
def resolveDecision (state : State) (index : Nat) : State :=
  let transaction := state.client.transactions index
  if transaction.status = .known .ok then
    let (status, sent) := sendDecisions config state index .commit config.allRankMask config.ranks config.ranks.reverse
    if status ≠ .ok then setFailure config (recordFailure sent index (.known status)) (.known status) else sent
  else
    let prepared := preparedRanks config transaction
    let (status, sent) := sendDecisions config state index .abort transaction.preparedMask prepared prepared
    if status ≠ .ok then setFailure config sent (.known status)
    else if transaction.preparedMask = 0 then
      -- No rank has anything to abort, so none will answer.
      reportCompletion config ((reportResult config sent index).editTransaction index fun transaction =>
        { transaction with completionMask := config.allRankMask }) index
    else sent

/-- `SparkModelPipelineClientResolveAdmission`. -/
def resolveAdmission (state : State) (index : Nat) : State :=
  let transaction := state.client.transactions index
  if transaction.resultMask ≠ config.allRankMask ∨ transaction.decisionKind.isSome then state
  else if transaction.continued then
    if transaction.status ≠ .known .ok then setFailure config state transaction.status
    else reportCompletion config (reportResult config state index) index
  else resolveDecision config state index

/-- `SparkModelPipelineClientRankDecisionResult`, for the transaction at a place. -/
def settleDecision (state : State) (index rank : Nat) (status : WireStatus) : State :=
  let state := state.editTransaction index fun transaction =>
    { transaction with decisionResultMask := transaction.decisionResultMask ||| rankMask rank }
  let state :=
    if status ≠ .known .ok then setFailure config (recordFailure state index status) status else state
  let transaction := state.client.transactions index
  if transaction.decisionResultMask ≠ transaction.decisionExpectedMask then state
  else
    let state := reportResult config state index
    let state :=
      if transaction.decisionKind = some .abort then
        state.editTransaction index fun transaction => { transaction with completionMask := config.allRankMask }
      else state
    reportCompletion config state index

/-- `SparkModelPipelineClientRankDecisionResult`. -/
def rankDecisionResult (rank submissionId : Nat) (kind : DecisionKind) (status : WireStatus) (state : State) : State :=
  match find config state.client submissionId with
  | none => state
  | some index =>
    let transaction := state.client.transactions index
    if transaction.decisionKind ≠ some kind ∨ !transaction.decisionExpectedMask.getLsbD rank ∨
        transaction.decisionResultMask.getLsbD rank then state
    else settleDecision config state index rank status

/-- `SparkModelPipelineClientRankResult`, for the transaction at a place. -/
def settleResult (state : State) (index rank : Nat) (status : WireStatus) : State :=
  let state := state.editTransaction index fun transaction =>
    { transaction with resultMask := transaction.resultMask ||| rankMask rank }
  let state :=
    if status = .known .ok then
      state.editTransaction index fun transaction =>
        { transaction with preparedMask := transaction.preparedMask ||| rankMask rank }
    else if (state.client.transactions index).continued then
      setFailure config (recordFailure state index status) status
    else recordFailure state index status
  resolveAdmission config state index

/-- `SparkModelPipelineClientRankResult`. -/
def rankResult (rank submissionId : Nat) (status : WireStatus) (state : State) : State :=
  let state := state.note (.result rank submissionId status)
  match find config state.client submissionId with
  | none => state
  | some index =>
    if (state.client.transactions index).resultMask.getLsbD rank then state
    else settleResult config state index rank status

/-- `SparkModelPipelineClientValidateRankCompletion`. -/
def validateRankCompletion (transaction : Transaction) (rank : Nat) (completion : Completion) : SparkStatus :=
  let message := transaction.submission.message
  let status := config.stageCompletionStatus rank transaction.submission completion
  if status ≠ .ok ∨ !message.verify ∨ completion.status ≠ .known .ok ∨ !completion.hasTokenIds then status
  else if completion.tokensPerSequence ≠ message.tokensPerSequence then .schemaError
  else if (List.range message.lanes.length).any fun lane => completion.keptRows lane = 0 then .schemaError
  else .ok

/-- A failed check of a completion fails the transaction and the pipeline. -/
def failTransaction (state : State) (index : Nat) (status : SparkStatus) : State :=
  if status ≠ .ok then setFailure config (recordFailure state index (.known status)) (.known status) else state

/-- `SparkModelPipelineClientRankCompletion`, for the transaction at a place. -/
def settleRankCompletion (state : State) (index rank : Nat) (message : RankCompletion) : State :=
  let transaction := state.client.transactions index
  let state := failTransaction config state index
    (if message.identity ≠ transaction.submission.identity then .schemaError else .ok)
  let state := failTransaction config state index (validateRankCompletion config transaction rank message.completion)
  let state :=
    if message.completion.status ≠ .known .ok then recordFailure state index message.completion.status else state
  let state := state.editTransaction index fun transaction =>
    { transaction with
      finalCompletion := if rank + 1 = config.rankCount then message else transaction.finalCompletion
      completionMask := transaction.completionMask ||| rankMask rank }
  reportCompletion config state index

/-- `SparkModelPipelineClientRankCompletion`. -/
def rankCompletion (rank : Nat) (message : RankCompletion) (state : State) : State :=
  let state := state.note (.completion rank message.completion.submissionId message)
  match find config state.client message.completion.submissionId with
  | none => state
  | some index =>
    let transaction := state.client.transactions index
    if transaction.completionMask.getLsbD rank then state
    else if !transaction.continued ∧ (transaction.decisionKind ≠ some .commit ∨
          transaction.decisionExpectedMask ≠ config.allRankMask) ∨
        !transaction.resultMask.getLsbD rank ∨ !transaction.preparedMask.getLsbD rank then
      setFailure config state (.known .schemaError)
    else settleRankCompletion config state index rank message

end Decisions

section Reading

/-- `SparkModelResidentClientProcessResult`. -/
def processResult (rank : Nat) (header : SparkStatus) (submissionId : Nat) (check : SparkStatus)
    (status : WireStatus) (state : State) : SparkStatus × State :=
  if header ≠ .ok then (header, state)
  else match (state.client.clients rank).findPending submissionId with
    | none => (.notFound, state)
    | some pending =>
      if check ≠ .ok then (check, state)
      else if pending.resultReceived then (.duplicate, state)
      else
        (.ok, rankResult config rank submissionId status (state.editRank rank fun client =>
          if status = .known .ok then
            client.editPending submissionId fun pending =>
              { pending with
                resultReceived := true
                prepared := pending.prepared || pending.requiresDecision
                committed := pending.committed || !pending.requiresDecision }
          else client.releasePending submissionId))

/-- `SparkModelResidentClientProcessCompletion`. -/
def processCompletion (rank : Nat) (header : SparkStatus) (message : RankCompletion) (state : State) :
    SparkStatus × State :=
  let submissionId := message.completion.submissionId
  if header ≠ .ok then (header, state)
  else match (state.client.clients rank).findPending submissionId with
    | none => (.notFound, state)
    | some pending =>
      let status := config.stageCompletionStatus rank pending.submission message.completion
      if !pending.committed then (.notFound, state)
      else if status ≠ .ok then (status, state)
      else if message.identity ≠ pending.submission.identity then (.schemaError, state)
      else (.ok, rankCompletion config rank message (state.editRank rank (·.releasePending submissionId)))

/-- `SparkModelResidentClientProcessDecisionResult`. -/
def processDecisionResult (rank submissionId : Nat) (check : SparkStatus) (status : WireStatus) (state : State) :
    SparkStatus × State :=
  match (state.client.clients rank).findPending submissionId with
  | none => (.notFound, state)
  | some pending =>
    match pending.decisionKind with
    | none => (.notFound, state)
    | some kind =>
      if !pending.prepared ∨ pending.decisionResultReceived then (.notFound, state)
      else if check ≠ .ok then (check, state)
      else
        (.ok, rankDecisionResult config rank submissionId kind status (state.editRank rank fun client =>
          if status = .known .ok ∧ kind = .commit then
            client.editPending submissionId fun pending =>
              { pending with decisionResultReceived := true, prepared := false, committed := true }
          else client.releasePending submissionId))

/-- `SparkModelResidentClientProcessStatus`. -/
def processStatus (rank : Nat) (check : SparkStatus) (state : State) : SparkStatus × State :=
  if !(state.client.clients rank).statusOutstanding then (.schemaError, state)
  else if check ≠ .ok then (check, state)
  else (.ok, state.editRank rank fun client => { client with statusOutstanding := false })

/-- `SparkModelResidentClientProcessMessage`. -/
def processMessage (rank : Nat) (incoming : Incoming) (state : State) : SparkStatus × State :=
  match incoming with
  | .result header submissionId check status => processResult config rank header submissionId check status state
  | .decisionResult submissionId check status => processDecisionResult config rank submissionId check status state
  | .completion header message => processCompletion config rank header message state
  | .report check => processStatus rank check state
  | .other => (.unsupported, state)

/-- The loop of `SparkModelResidentClientRead`. A connection that a callback has stopped cannot be
read again. -/
def readMessages (rank : Nat) (lost : Bool) : Nat → List Incoming → State → SparkStatus × State
  | 0, _, state => (.ok, state)
  | remaining + 1, messages, state =>
    if !(state.client.clients rank).connected then (.ioError, state)
    else match messages with
      | [] => (if lost then .ioError else .ok, state)
      | incoming :: rest =>
        andThen (processMessage config rank incoming state) (readMessages rank lost remaining rest)

/-- `SparkModelResidentClientRead`. -/
def read (rank maximumMessageCount : Nat) (state : State) : SparkStatus × State :=
  let arrivals := config.network.arrivals state.client.turns
  readMessages config rank arrivals.lost maximumMessageCount arrivals.messages state.turn

/-- The part of `SparkModelResidentClientProgress` on a connection that is open. -/
def exchange (rank maximumMessageCount : Nat) (state : State) : SparkStatus × State :=
  let (status, state) := andThen (flush config rank state) (read config rank maximumMessageCount)
  (status, if status ≠ .ok then state.editRank rank failStop else state)

/-- `SparkModelResidentClientProgress`. -/
def residentProgress (rank maximumMessageCount : Nat) (state : State) : SparkStatus × State :=
  andThen (ensureConnected config rank state) (exchange config rank maximumMessageCount)

end Reading

section Calls

/-- `SparkModelPipelineClientPublishSession`. -/
def publishSession (client : Client) : Client :=
  if config.ranks.all fun rank => (client.clients rank).connected then
    { client with
      sessionFingerprint := (config.ranks.foldl (fun sum rank =>
        sum + (client.clients rank).clientGeneration * (rank + 1)) config.sessionEpoch) % 2 ^ 64 }
  else client

/-- One transaction of `SparkModelPipelineClientFailTransactions`. -/
def failPlace (status : WireStatus) (state : State) (index : Nat) : State :=
  let transaction := state.client.transactions index
  if !transaction.active then state
  else
    let state := release state index
    let state :=
      if transaction.resultReported then state
      else tell state (.submitResult transaction.submission.id status)
    tell state (.completion (failedCompletion transaction.submission.id status))

/-- `SparkModelPipelineClientFailTransactions`. -/
def failTransactions (state : State) (status : WireStatus) : State :=
  config.places.foldl (failPlace status) state

/-- The ranks of `SparkModelPipelineClientProgress`, from the last to the first: the first status
that is not `OK`. While the session is not being recovered the loop ends at the first failure. -/
def progressRanks (recovering : Bool) (maximumMessageCount : Nat) :
    List Nat → SparkStatus → State → SparkStatus × State
  | [], status, state => (status, state)
  | rank :: rest, status, state =>
    let (rankStatus, state) := residentProgress config rank maximumMessageCount state
    let status := if status = .ok then rankStatus else status
    if !recovering ∧ (rankStatus ≠ .ok ∨ state.client.failedStatus ≠ .known .ok) then
      (status, setFailure config state (.known rankStatus))
    else progressRanks recovering maximumMessageCount rest status state

/-- The session is well again when every rank is connected and none has failed. -/
def heal (status : SparkStatus) (state : State) : State :=
  if state.client.failedStatus ≠ .known .ok ∧ config.ranks.all (fun rank => (state.client.clients rank).connected) ∧
      status = .ok then
    { state with
      client := { publishSession config state.client with failedStatus := .known .ok } }.note (.healed state.client)
  else state

/-- The part of `SparkModelPipelineClientProgress` up to the healing of the session. -/
def pass (maximumMessageCount : Nat) (state : State) : SparkStatus × State :=
  let recovering := state.client.failedStatus ≠ .known .ok
  let state := if recovering then failTransactions config state state.client.failedStatus else state
  let (status, state) := progressRanks config recovering maximumMessageCount config.ranks.reverse .ok state
  let state := if status ≠ .ok then setFailure config state (.known status) else state
  (status, heal config status state)

/-- `SparkModelPipelineClientProgress`. -/
def progress (maximumMessageCount : Nat) (state : State) : WireStatus × State :=
  if maximumMessageCount = 0 then (.known .invalidArgument, state)
  else
    let (status, state) := pass config maximumMessageCount state
    if status ≠ .ok ∨ state.client.failedStatus ≠ .known .ok then
      let state := setFailure config state (.known status)
      (state.client.failedStatus, failTransactions config state state.client.failedStatus)
    else (.known .ok, state)

/-- `SparkModelPipelineClientAllRanksReady`. -/
def allRanksReady (client : Client) : Bool :=
  client.failedStatus = .known .ok ∧ config.ranks.all fun rank =>
    (client.clients rank).connected ∧ (client.clients rank).clientGeneration ≠ 0

/-- `SparkModelPipelineClientRecover`. -/
def recover (state : State) : WireStatus × State :=
  if allRanksReady config state.client then (.known .ok, state)
  else progress config 1 (setFailure config state (.known .ioError))

/-- The rank's part of `SparkModelPipelineClientPreflight`. -/
def preflightStatus (client : ResidentClient) : SparkStatus :=
  if !client.connected then .ioError
  else if config.transactionCapacity ≤ client.outputCount ∨ config.transactionCapacity ≤ client.pending.length then
    .busy
  else .ok

/-- The submission is handed to each rank: the rank that refuses it, with its status. -/
def handOver (submission : Submission) (continued : Bool) : List Nat → State → Option (Nat × SparkStatus) × State
  | [], state => (none, state)
  | rank :: rest, state =>
    let (status, state) :=
      if continued then resume config rank submission state else prepare config rank submission state
    if status = .ok then handOver submission continued rest state else (some (rank, status), state)

/-- What `SparkModelPipelineClientSubmit` does about a rank that refuses, other than the first of
all with `BUSY`. -/
def refuseRank (state : State) (index rank : Nat) (status : SparkStatus) (continued : Bool) : State :=
  let state := recordFailure state index (.known status)
  if status = .busy then
    if continued then setFailure config state (.known status)
    else
      state.editTransaction index fun transaction =>
        { transaction with
          resultMask := ((List.range config.rankCount).drop rank).foldl
            (fun mask later => mask ||| rankMask later) transaction.resultMask }
  else if status ≠ .ioError then setFailure config state (.known status)
  else state

/-- The submission has been taken. -/
def acknowledge (state : State) (submission : Submission) (continued : Bool) : State :=
  { state with client := { state.client with lastSubmissionId := submission.id } }.note
    (.submitted submission continued)

/-- `SparkModelPipelineClientSubmit` of a submission that can be handed over. -/
def startTransaction (state : State) (submission : Submission) (continued : Bool) : SparkStatus × State :=
  match reserve config state submission continued with
  | none => (.busy, state)
  | some (index, state) =>
    match handOver config submission continued config.ranks state with
    | (none, state) => (.ok, acknowledge state submission continued)
    | (some (rank, status), state) =>
      if status = .busy ∧ rank = 0 then (.busy, release (recordFailure state index (.known status)) index)
      else (.ok, acknowledge (refuseRank config state index rank status continued) submission continued)

/-- `SparkModelPipelineClientSubmit`. -/
def submit (submission : Submission) (state : State) : WireStatus × State :=
  if state.client.failedStatus ≠ .known .ok then (state.client.failedStatus, state)
  else if config.submissionStatus submission ≠ .ok then (.known (config.submissionStatus submission), state)
  else if submission.id ≤ state.client.lastSubmissionId then (.known .invalidArgument, state)
  else
    let refusal := firstRefusal (fun rank => preflightStatus config (state.client.clients rank)) config.ranks
    if refusal ≠ .ok then (.known refusal, state)
    else
      let continued := canContinue config state.client submission
      let refusal :=
        if continued then
          firstRefusal (fun rank => canQueueContinuation config submission (state.client.clients rank)) config.ranks
        else .ok
      if refusal ≠ .ok then (.known refusal, state)
      else
        let (status, state) := startTransaction config state submission continued
        (.known status, state)

/-- `SparkModelResidentClientRequestStatus` and `SparkModelResidentClientCacheHint`, as far as they
fill the queue of a rank. -/
def queueNotice (rank : Nat) (state : State) : SparkStatus × State :=
  let client := state.client.clients rank
  if !client.connected then (.ioError, state)
  else if config.transactionCapacity ≤ client.outputCount then (.busy, state)
  else
    (.ok, (flush config rank (state.editRank rank fun client =>
      { client with outputCount := client.outputCount + 1 })).2)

/-- One rank of `SparkModelPipelineClientRequestStatus`. -/
def requestRankStatus (state : State) (rank : Nat) : State :=
  if (state.client.clients rank).statusOutstanding then state
  else
    let (status, state) := queueNotice config rank state
    if status = .ok then state.editRank rank fun client => { client with statusOutstanding := true } else state

/-- `SparkModelPipelineClientRequestStatus`. -/
def requestStatus (state : State) : State := config.ranks.foldl (requestRankStatus config) state

/-- `SparkModelPipelineClientCacheHint`. -/
def cacheHint (state : State) : SparkStatus × State :=
  let (sent, state) := config.ranks.foldl (fun (sent, state) rank =>
    let (status, state) := queueNotice config rank state
    (if status = .ok then sent + 1 else sent, state)) (0, state)
  (if sent = config.rankCount then .ok else .busy, state)

/-- A call of the pipeline client's interface that changes it. -/
inductive Call where
  | submit (submission : Submission)
  | progress (maximumMessageCount : Nat)
  | recover
  | requestStatus
  | cacheHint

/-- What a call leaves of the pipeline client. -/
def Call.apply (state : State) : Call → State
  | .submit submission => (PipelineClient.submit config submission state).2
  | .progress maximumMessageCount => (PipelineClient.progress config maximumMessageCount state).2
  | .recover => (PipelineClient.recover config state).2
  | .requestStatus => PipelineClient.requestStatus config state
  | .cacheHint => (PipelineClient.cacheHint config state).2

/-- `SparkModelPipelineClientConnect`: every rank takes the connection. -/
def connect (submission : Submission) (greeting : Nat → Nat × Nat) : State where
  client := publishSession config
    { activeTransactionCount := 0
      failedStatus := .known .ok
      activeContinueLeaseCount := 0
      lastSubmissionId := 0
      sessionFingerprint := 0
      clients := fun rank =>
        { connected := true
          pending := []
          outputCount := 0
          clientGeneration := (greeting rank).1
          maxSequencePositions := (greeting rank).2
          lastSubmissionId := 0
          statusOutstanding := false }
      transactions := fun _ => { submission := submission }
      leaseSlots := fun _ => {}
      turns := 0 }
  trace := []

/-- A run from the connection on. -/
def run (submission : Submission) (greeting : Nat → Nat × Nat) (calls : List Call) : State :=
  calls.foldl (Call.apply config) (connect config submission greeting)

end Calls

end Sparkpipe.PipelineClient
