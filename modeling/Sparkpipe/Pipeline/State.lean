import Mathlib.Data.Nat.Bitwise
import Sparkpipe.Batch.State

/-!
# The pipeline client: its ranks, its transactions and its connections

The data model of `model_pipeline_client.c`, and of `model_resident_client.c` as far as
the pipeline depends on it. There is one resident client for each rank. A submission
is prepared on every rank, or continued on every rank at once; what a rank answers comes
back through the reading of its connection, in whatever order the ranks answer.

What lies outside is a sequence of turns, one for each time a connection is opened,
written or read. A message is arbitrary: each carries the outcomes of the checks of
its encoding, and whatever it says.

`Client` is the state of the source. A `State` adds the trace of what the client has
been given, has sent and has told, the latest first.
-/

namespace Sparkpipe.PipelineClient

open BatchEngine (Message Completion Callback WireStatus WorkKind Lane)

/-- `SPARK_MODEL_RESIDENT_DEPLOYMENT_MAX_NODE_COUNT`. -/
def maxNodeCount : Nat := 16

/-- `SPARK_MODEL_RESIDENT_IPC_DECISION_*`. -/
inductive DecisionKind where
  | commit
  | abort
  deriving DecidableEq

/-- The identifiers of a submission that its completion repeats. -/
structure Identity where
  requestId : Nat
  sequenceId : Nat
  sequencePosition : Nat
  controlGeneration : Nat
  transactionId : Nat
  dispatchGeneration : Nat
  requestGeneration : Nat
  stepGeneration : Nat
  deriving DecidableEq

/-- `SparkModelServingSubmission`, as the pipeline client is handed it. -/
structure Submission where
  message : Message
  identity : Identity
  deriving DecidableEq

/-- `submission_id`. -/
def Submission.id (submission : Submission) : Nat := submission.message.submissionId

/-- `SparkModelServingCompletion` of one rank, with the identifiers it repeats. -/
structure RankCompletion where
  completion : Completion
  identity : Identity

/-- What a rank sends: the status of the check of its header or of its decoding, what it says, and
the status of the checks against what the client holds of the submission. -/
inductive Incoming where
  | result (header : SparkStatus) (submissionId : Nat) (check : SparkStatus) (status : WireStatus)
  | decisionResult (submissionId : Nat) (check : SparkStatus) (status : WireStatus)
  | completion (header : SparkStatus) (message : RankCompletion)
  | report (check : SparkStatus)
  | other

/-- An attempt to open a connection and to greet the rank. -/
inductive Opening where
  | failed (status : SparkStatus) (failure : status ≠ .ok)
  | opened (clientGeneration maxSequencePositions : Nat)

/-- The bytes a connection takes: the messages that are out afterwards, and whether it broke. -/
structure Written where
  count : Nat
  broken : Bool

/-- What a connection holds to be read, and whether it is closed behind that. -/
structure Arrivals where
  messages : List Incoming
  lost : Bool

/-- The turns of the connections. -/
structure Network where
  opens : Nat → Opening
  writes : Nat → Written
  arrivals : Nat → Arrivals

/-- What the pipeline client is connected with. The checks of a submission and of the completion of
a stage are those of the serving adapter, and the last three those of the encoding of a message. -/
structure Configuration where
  rankCount : Nat
  rankCount_pos : 0 < rankCount
  rankCount_le : rankCount ≤ maxNodeCount
  transactionCapacity : Nat
  transactionCapacity_lt : transactionCapacity < 2 ^ 32
  residentSequenceCapacity : Nat
  residentSequenceCapacity_lt : residentSequenceCapacity < 2 ^ 32
  continueLease : Bool
  sessionEpoch : Nat
  submissionStatus : Submission → SparkStatus
  stageCompletionStatus : Nat → Submission → Completion → SparkStatus
  encodingStatus : Submission → SparkStatus
  continuationStatus : Submission → SparkStatus
  decisionStatus : Submission → DecisionKind → SparkStatus
  network : Network

/-- `SparkModelResidentClientPending`. -/
structure Pending where
  submission : Submission
  resultReceived : Bool := false
  requiresDecision : Bool
  prepared : Bool := false
  committed : Bool := false
  decisionKind : Option DecisionKind := none
  decisionResultReceived : Bool := false
  deriving DecidableEq

/-- `SparkModelResidentClient`. -/
structure ResidentClient where
  connected : Bool
  pending : List Pending
  outputCount : Nat
  clientGeneration : Nat
  maxSequencePositions : Nat
  lastSubmissionId : Nat
  statusOutstanding : Bool

/-- A set of ranks, as the bits of a word. -/
abbrev RankMask := BitVec 32

/-- `UINT32_C(1) << rank`. -/
def rankMask (rank : Nat) : RankMask := 1#32 <<< rank

/-- `all_rank_mask`. -/
def Configuration.allRankMask (config : Configuration) : RankMask := (1#32 <<< config.rankCount) - 1#32

/-- `SparkModelContinuationLease`. -/
structure Lease where
  clientGeneration : Nat := 0
  controlGeneration : Nat := 0
  nextSequencePosition : Nat := 0
  lastStepGeneration : Nat := 0
  deriving DecidableEq

/-- `SparkModelPipelineLeaseSlot`. -/
structure LeaseSlot where
  requestId : UInt64 := 0
  requestGeneration : Nat := 0
  sequenceId : UInt64 := 0
  lease : Lease := {}
  deriving DecidableEq

/-- The completion of a cleared record. -/
def blankCompletion : RankCompletion where
  completion := { status := .known .ok, submissionId := 0 }
  identity := ⟨0, 0, 0, 0, 0, 0, 0, 0⟩

/-- `SparkModelPipelineTransaction`; the defaults are those of a cleared record. -/
structure Transaction where
  active : Bool := false
  submission : Submission
  resultReported : Bool := false
  status : WireStatus := .known .ok
  resultMask : RankMask := 0
  preparedMask : RankMask := 0
  decisionExpectedMask : RankMask := 0
  decisionResultMask : RankMask := 0
  decisionKind : Option DecisionKind := none
  completionMask : RankMask := 0
  continued : Bool := false
  finalCompletion : RankCompletion := blankCompletion

/-- `SparkModelPipelineClient`; `turns` counts the turns of its connections. -/
structure Client where
  activeTransactionCount : Nat
  failedStatus : WireStatus
  activeContinueLeaseCount : Nat
  lastSubmissionId : Nat
  sessionFingerprint : Nat
  clients : Nat → ResidentClient
  transactions : Nat → Transaction
  leaseSlots : Nat → LeaseSlot
  turns : Nat

/-- What the pipeline client has been given by its caller and by the ranks, what it has sent to
them and what it has told its caller. -/
inductive Event where
  | submitted (submission : Submission) (continued : Bool)
  | result (rank submissionId : Nat) (status : WireStatus)
  | completion (rank submissionId : Nat) (message : RankCompletion)
  | decision (rank submissionId : Nat) (kind : DecisionKind)
  | told (callback : Callback) (client : Client)
  | healed (client : Client)

/-- A pipeline client with the trace of its calls, the latest event first. -/
structure State where
  client : Client
  trace : List Event

section Ranks

variable (config : Configuration)

/-- A write to the record of one rank. -/
def State.editRank (state : State) (rank : Nat) (change : ResidentClient → ResidentClient) : State :=
  { state with
    client := { state.client with
      clients := Function.update state.client.clients rank (change (state.client.clients rank)) } }

/-- A write to the record of one transaction. -/
def State.editTransaction (state : State) (index : Nat) (change : Transaction → Transaction) : State :=
  { state with
    client := { state.client with
      transactions := Function.update state.client.transactions index (change (state.client.transactions index)) } }

/-- The trace with one event more. -/
def State.note (state : State) (event : Event) : State := { state with trace := event :: state.trace }

/-- A turn of a connection has been taken. -/
def State.turn (state : State) : State :=
  { state with client := { state.client with turns := state.client.turns + 1 } }

/-- `SparkModelResidentClientFailStop`. -/
def failStop (client : ResidentClient) : ResidentClient :=
  if client.connected then
    { client with connected := false, pending := [], outputCount := 0, statusOutstanding := false }
  else client

/-- `SparkModelResidentClientEnsureConnected`. -/
def ensureConnected (rank : Nat) (state : State) : SparkStatus × State :=
  if (state.client.clients rank).connected then (.ok, state)
  else match config.network.opens state.client.turns with
    | .failed status _ => (status, state.turn)
    | .opened clientGeneration maxSequencePositions =>
      (.ok, state.turn.editRank rank fun client =>
        { client with
          connected := true
          clientGeneration := clientGeneration
          maxSequencePositions := maxSequencePositions })

/-- `SparkModelResidentClientFlush`. -/
def flush (rank : Nat) (state : State) : SparkStatus × State :=
  if (state.client.clients rank).outputCount = 0 then (.ok, state)
  else
    let written := config.network.writes state.client.turns
    (if written.broken then .ioError else .ok,
      state.turn.editRank rank fun client => { client with outputCount := client.outputCount - written.count })

/-- `SparkModelResidentClientFindPending`. -/
def ResidentClient.findPending (client : ResidentClient) (submissionId : Nat) : Option Pending :=
  client.pending.find? fun pending => pending.submission.id = submissionId

/-- The checks of `SparkModelResidentClientSubmitKind`. -/
def submitStatus (client : ResidentClient) (submission : Submission) : SparkStatus :=
  if config.submissionStatus submission ≠ .ok then config.submissionStatus submission
  else if submission.id ≤ client.lastSubmissionId then .invalidArgument
  else if config.transactionCapacity ≤ client.outputCount ∨ config.transactionCapacity ≤ client.pending.length then
    .busy
  else if (client.findPending submission.id).isSome then .duplicate
  else config.encodingStatus submission

/-- `SparkModelResidentClientSubmitKind`. -/
def submitKind (rank : Nat) (submission : Submission) (requiresDecision : Bool) (state : State) :
    SparkStatus × State :=
  andThen (ensureConnected config rank state) fun state =>
    let status := submitStatus config (state.client.clients rank) submission
    if status ≠ .ok then (status, state)
    else
      (.ok, (flush config rank (state.editRank rank fun client =>
        { client with
          pending := client.pending ++ [{ submission := submission, requiresDecision := requiresDecision }]
          outputCount := client.outputCount + 1
          lastSubmissionId := submission.id })).2)

/-- `SparkModelResidentClientPrepare`. -/
def prepare (rank : Nat) (submission : Submission) (state : State) : SparkStatus × State :=
  submitKind config rank submission true state

/-- `SparkModelResidentClientCanQueueContinuation`. -/
def canQueueContinuation (submission : Submission) (client : ResidentClient) : SparkStatus :=
  if !client.connected ∨ client.clientGeneration = 0 then .invalidArgument
  else if !config.continueLease then .unsupported
  else if config.submissionStatus submission ≠ .ok then config.submissionStatus submission
  else if submission.id ≤ client.lastSubmissionId then .invalidArgument
  else if config.transactionCapacity ≤ client.outputCount ∨ config.transactionCapacity ≤ client.pending.length then
    .busy
  else config.continuationStatus submission

/-- `SparkModelResidentClientContinue`. -/
def resume (rank : Nat) (submission : Submission) (state : State) : SparkStatus × State :=
  let status := canQueueContinuation config submission (state.client.clients rank)
  if status ≠ .ok then (status, state) else submitKind config rank submission false state

/-- `SparkModelResidentClientCanQueueDecision`. -/
def canQueueDecision (submissionId : Nat) (kind : DecisionKind) (client : ResidentClient) : SparkStatus :=
  if !client.connected ∨ submissionId = 0 then .invalidArgument
  else match client.findPending submissionId with
    | none => .invalidArgument
    | some pending =>
      if !pending.requiresDecision ∨ !pending.prepared ∨ pending.committed ∨ pending.decisionKind.isSome then
        .invalidArgument
      else if config.transactionCapacity ≤ client.outputCount then .busy
      else config.decisionStatus pending.submission kind

/-- A write to what a rank's client holds of one submission. -/
def ResidentClient.editPending (client : ResidentClient) (submissionId : Nat) (change : Pending → Pending) :
    ResidentClient :=
  { client with
    pending := client.pending.map fun pending =>
      if pending.submission.id = submissionId then change pending else pending }

/-- `SparkModelResidentClientReleasePending`. -/
def ResidentClient.releasePending (client : ResidentClient) (submissionId : Nat) : ResidentClient :=
  { client with pending := client.pending.filter fun pending => pending.submission.id ≠ submissionId }

/-- `SparkModelResidentClientCommit` and `SparkModelResidentClientAbort`: what they check is checked
again by `SparkModelResidentClientQueueDecision`. -/
def sendDecision (submissionId : Nat) (kind : DecisionKind) (rank : Nat) (state : State) : SparkStatus × State :=
  let status := canQueueDecision config submissionId kind (state.client.clients rank)
  if status ≠ .ok then (status, state)
  else
    (.ok, (flush config rank ((state.editRank rank fun client =>
      { client.editPending submissionId fun pending => { pending with decisionKind := some kind } with
        outputCount := client.outputCount + 1 }).note (.decision rank submissionId kind))).2)

/-- The first status that is not `OK` of a check on each rank. -/
def firstRefusal (check : Nat → SparkStatus) : List Nat → SparkStatus
  | [] => .ok
  | rank :: rest => if check rank = .ok then firstRefusal check rest else check rank

end Ranks

end Sparkpipe.PipelineClient
