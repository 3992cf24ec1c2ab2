import Sparkpipe.Pipeline.Falling

/-!
# What the answers of the ranks do to the books

Whatever the ranks answer, and in whatever order, the callbacks of the pipeline client
keep its books: each is a few writes to one transaction, and each write is true of the
trace. A decision is sent once for a transaction, and a completion is told when the
record of the transaction is released.
-/

namespace Sparkpipe.PipelineClient

open BatchEngine (Message Completion Callback WireStatus WorkKind Lane)

variable {config : Configuration} {state : State} {index : Nat}

section Reports

/-- The transaction that is found is an active one with the identity. -/
theorem find_spec {client : Client} {submissionId : Nat} (found : find config client submissionId = some index) :
    index < config.transactionCapacity ∧ (client.transactions index).active = true ∧
      (client.transactions index).submission.id = submissionId := by
  have member := List.mem_of_find?_eq_some found
  have passes := List.find?_some found
  rw [Bool.and_eq_true, beq_iff_eq] at passes
  exact ⟨List.mem_range.mp member, passes.1, passes.2⟩

/-- A transaction in use at a place. -/
structure Used (config : Configuration) (state : State) (index : Nat) : Prop where
  books : Books config state
  below : index < config.transactionCapacity
  active : (state.client.transactions index).active = true

/-- A transaction in use is kept in the trace. -/
theorem Used.kept (used : Used config state index) : Kept config state.trace (state.client.transactions index) :=
  used.books.kept index used.below used.active

/-- It stays in use as long as the books stay. -/
theorem Used.same {next : State} (used : Used config state index) (same : SameBooks state next) :
    Used config next index := by
  refine ⟨used.books.same same, used.below, ?_⟩
  rw [same.transactions]
  exact used.active

/-- An edit that keeps the activity and the identity. -/
theorem Used.edit {change : Transaction → Transaction} (used : Used config state index)
    (active : (change (state.client.transactions index)).active = (state.client.transactions index).active)
    (submission : (change (state.client.transactions index)).submission =
      (state.client.transactions index).submission)
    (kept : Kept config state.trace (change (state.client.transactions index))) :
    Used config (state.editTransaction index change) index := by
  refine ⟨used.books.edit active submission kept, used.below, ?_⟩
  rw [editTransaction_same, active]
  exact used.active

/-- The first failure leaves the books alone. -/
theorem setFailure_books (state : State) (status : WireStatus) : SameBooks state (setFailure config state status) := by
  unfold setFailure
  split
  · exact .refl state
  · exact ⟨rfl, rfl, rfl, rfl⟩

/-- A status that is not `OK` is a failure on the wire. -/
theorem known_failed {status : SparkStatus} (failure : status ≠ .ok) : WireStatus.known status ≠ .known .ok :=
  fun same => failure (WireStatus.known.inj same)

/-- A transaction that records a failure has failed. -/
theorem Transaction.recordFailure_failed (transaction : Transaction) {status : WireStatus}
    (failure : status ≠ .known .ok) : (transaction.recordFailure status).status ≠ .known .ok := by
  unfold Transaction.recordFailure
  split
  · exact failure
  · assumption

/-- A failure of a transaction leaves nothing to be true of its success. -/
theorem Kept.recordFailure {trace : List Event} {transaction : Transaction} {status : WireStatus}
    (kept : Kept config trace transaction) (failure : status ≠ .known .ok) :
    Kept config trace (transaction.recordFailure status) := by
  have failed := transaction.recordFailure_failed failure
  unfold Transaction.recordFailure at failed ⊢
  split
  · rename_i fine
    rw [if_pos fine] at failed
    exact ⟨kept.submitted, kept.prepared, fun ok => absurd ok failed, kept.undecided, kept.decided, kept.committed,
      fun _ => failed, fun ok => absurd ok failed, fun ok => absurd ok failed, kept.told⟩
  · exact kept

/-- Recording a failure ends nothing. -/
theorem Transaction.recordFailure_active (transaction : Transaction) (status : WireStatus) :
    (transaction.recordFailure status).active = transaction.active := by
  unfold Transaction.recordFailure
  split <;> rfl

/-- Recording a failure keeps the submission. -/
theorem Transaction.recordFailure_submission (transaction : Transaction) (status : WireStatus) :
    (transaction.recordFailure status).submission = transaction.submission := by
  unfold Transaction.recordFailure
  split <;> rfl

/-- A transaction in use records a failure. -/
theorem Used.recordFailure (used : Used config state index) {status : WireStatus} (failure : status ≠ .known .ok) :
    Used config (recordFailure state index status) index :=
  used.edit (Transaction.recordFailure_active _ _) (Transaction.recordFailure_submission _ _)
    (used.kept.recordFailure failure)

/-- A callback leaves the client alone. -/
theorem tell_client (state : State) (callback : Callback) : (tell state callback).client = state.client := rfl

/-- A release tells nothing. -/
theorem release_trace (state : State) (index : Nat) : (release state index).trace = state.trace := by
  unfold release
  rfl

/-- Reporting the result keeps the transaction in use. -/
theorem reportResult_used (used : Used config state index) : Used config (reportResult config state index) index := by
  unfold reportResult
  dsimp only
  split
  · exact used
  · split
    · exact used
    · rename_i reported _
      have unreported : (state.client.transactions index).resultReported = false := by
        rw [not_or] at reported
        simpa using reported.1
      refine ⟨used.books.tellResult used.below used.active unreported _, used.below, ?_⟩
      rw [tell_client, editTransaction_same]
      exact used.active

/-- The report of a result says nothing else of the record. -/
theorem reportResult_record (config : Configuration) (state : State) (index : Nat) :
    ∃ reported, (reportResult config state index).client.transactions index =
      { state.client.transactions index with resultReported := reported } := by
  unfold reportResult
  dsimp only
  split
  · exact ⟨_, rfl⟩
  · split
    · exact ⟨_, rfl⟩
    · refine ⟨true, ?_⟩
      rw [tell_client, editTransaction_same]

/-- What a finished transaction tells rests on the trace. -/
theorem Used.close {callback : Callback} (used : Used config state index)
    (reported : (state.client.transactions index).resultReported = true)
    (telling : callbackTelling callback = .completion)
    (about : callbackId callback = (state.client.transactions index).submission.id)
    (succeeds : ∀ completion, callback = .completion completion → completion.status = .known .ok →
      ∀ rank < config.rankCount, ∃ message, .completion rank completion.submissionId message ∈ state.trace ∧
        message.completion.status = .known .ok) :
    Books config (tell (release state index) callback) := by
  have told := toldOf_cons_told state.trace callback (release state index).client
  rw [about, used.kept.told, reported, telling] at told
  have retold : Retold (state.client.transactions index).submission.id state.trace
      (.told callback (release state index).client :: state.trace) := (Retold.refl _ state.trace).tell _ about
  have count := used.books.release_count used.below used.active
  have chronicle : Chronicle config (.told callback (release state index).client :: state.trace) :=
    ⟨⟨count, succeeds⟩, used.books.chronicle⟩
  have closed := used.books.close used.below used.active retold told chronicle
  unfold tell State.note
  rw [release_trace]
  exact closed

/-- Finishing keeps the books. -/
theorem finishTransaction_books (used : Used config state index)
    (reported : (state.client.transactions index).resultReported = true)
    (completed : (state.client.transactions index).completionMask = config.allRankMask) :
    Books config (finishTransaction config state index) := by
  have kept := used.kept
  have every : ∀ rank < config.rankCount,
      (state.client.transactions index).completionMask.getLsbD rank = true := by
    intro rank below
    rw [completed]
    exact (getLsbD_allRankMask config rank).mpr below
  unfold finishTransaction
  dsimp only
  split
  · rename_i fine
    have final := kept.final fine (every _ (Nat.sub_lt config.rankCount_pos Nat.one_pos))
    refine used.close reported rfl final.2 fun completion same _ rank below => ?_
    injection same with same
    rw [← same, final.2]
    exact kept.completed fine rank (every rank below)
  · rename_i failed
    have dropped := (dropLeases_ranks config
      (state.client.transactions index).submission.message.lanes state.client).books
    have transactions := dropped.transactions
    refine Used.close (used.same dropped) ?_ rfl ?_ fun completion same succeeded => ?_
    · rw [transactions]
      exact reported
    · rw [transactions]
      rfl
    · injection same with same
      rw [← same] at succeeded
      exact absurd succeeded failed

/-- Renewing the leases keeps the transaction in use. -/
theorem renewLeases_used (used : Used config state index) : Used config (renewLeases config state index) index := by
  have updated := used.same (updateLeases_ranks config
    (state.client.transactions index).submission.message
    (state.client.transactions index).finalCompletion.completion state.client).books
  unfold renewLeases
  dsimp only
  split
  · rename_i failure
    have recorded := updated.recordFailure (known_failed failure)
    exact recorded.same (setFailure_books _ _)
  · exact updated

/-- Recording a failure reports nothing. -/
theorem Transaction.recordFailure_reported (transaction : Transaction) (status : WireStatus) :
    (transaction.recordFailure status).resultReported = transaction.resultReported := by
  unfold Transaction.recordFailure
  split <;> rfl

/-- Recording a failure completes no rank. -/
theorem Transaction.recordFailure_completionMask (transaction : Transaction) (status : WireStatus) :
    (transaction.recordFailure status).completionMask = transaction.completionMask := by
  unfold Transaction.recordFailure
  split <;> rfl

/-- The leases are renewed on a record that may fail by it. -/
theorem renewLeases_record (config : Configuration) (state : State) (index : Nat) :
    (renewLeases config state index).client.transactions index = state.client.transactions index ∨
      ∃ status, (renewLeases config state index).client.transactions index =
        (state.client.transactions index).recordFailure status := by
  have updated := (updateLeases_ranks config
    (state.client.transactions index).submission.message
    (state.client.transactions index).finalCompletion.completion state.client).transactions
  unfold renewLeases
  dsimp only
  split
  · rw [(setFailure_books _ _).transactions]
    unfold recordFailure
    rw [editTransaction_same, updated]
    exact .inr ⟨_, rfl⟩
  · rw [updated]
    exact .inl rfl

/-- Reporting the completion keeps the books. -/
theorem reportCompletion_books (used : Used config state index) :
    Books config (reportCompletion config state index) := by
  unfold reportCompletion
  dsimp only
  split
  · exact used.books
  · rename_i due
    rw [not_or, not_not] at due
    have reported : (state.client.transactions index).resultReported = true := by simpa using due.1
    split
    · refine finishTransaction_books (renewLeases_used used) ?_ ?_
      · rcases renewLeases_record config state index with same | ⟨status, same⟩
        · rw [same]
          exact reported
        · rw [same, Transaction.recordFailure_reported]
          exact reported
      · rcases renewLeases_record config state index with same | ⟨status, same⟩
        · rw [same]
          exact due.2
        · rw [same, Transaction.recordFailure_completionMask]
          exact due.2
    · exact finishTransaction_books used reported due.2

end Reports

section Decisions

/-- An edit of a rank is not in the books. -/
theorem editRank_books (state : State) (rank : Nat) (change : ResidentClient → ResidentClient) :
    SameBooks state (state.editRank rank change) := ⟨rfl, rfl, rfl, rfl⟩

/-- Sending what is queued is not in the books. -/
theorem flush_books (config : Configuration) (rank : Nat) (state : State) :
    SameBooks state (flush config rank state).2 := by
  unfold flush
  split
  · exact .refl state
  · exact ⟨rfl, rfl, rfl, rfl⟩

/-- A decision that is sent is the one of the record. -/
theorem sendDecision_used {submissionId : Nat} {kind : DecisionKind} (rank : Nat) (used : Used config state index)
    (about : (state.client.transactions index).submission.id = submissionId)
    (decided : (state.client.transactions index).decisionKind = some kind) :
    Used config (sendDecision config submissionId kind rank state).2 index ∧
      (sendDecision config submissionId kind rank state).2.client.transactions index =
        state.client.transactions index := by
  unfold sendDecision
  dsimp only
  split
  · exact ⟨used, rfl⟩
  · generalize edited : state.editRank rank _ = written
    have same : SameBooks state written := edited ▸ editRank_books state rank _
    have noted : Used config (written.note (.decision rank submissionId kind)) index := by
      have next := used.same same
      rw [← same.transactions] at about decided
      rw [← about]
      exact ⟨next.books.noteDecision next.below next.active decided rank, next.below, next.active⟩
    have flushed := flush_books config rank (written.note (.decision rank submissionId kind))
    refine ⟨noted.same flushed, ?_⟩
    rw [flushed.transactions]
    exact congrFun same.transactions index

/-- A decision is sent to some ranks once, and noted for each. -/
theorem sendDecisions_used (kind : DecisionKind) (expected : RankMask) (ranks order : List Nat)
    (used : Used config state index) (undecided : (state.client.transactions index).decisionKind = none)
    (consent : kind = .commit → ∀ rank < config.rankCount,
      .result rank (state.client.transactions index).submission.id (.known .ok) ∈ state.trace)
    (refused : kind = .abort → (state.client.transactions index).status ≠ .known .ok) :
    Used config (sendDecisions config state index kind expected ranks order).2 index ∧
      ((sendDecisions config state index kind expected ranks order).2.client.transactions index).status =
        (state.client.transactions index).status := by
  have kept := used.kept
  unfold sendDecisions
  dsimp only
  split
  · exact ⟨used, rfl⟩
  · generalize marked : state.editTransaction index _ = decided
    have record : decided.client.transactions index = { state.client.transactions index with
        decisionKind := some kind, decisionExpectedMask := expected } := by rw [← marked, editTransaction_same]
    have start : Used config decided index := by
      rw [← marked]
      refine used.edit rfl rfl ⟨kept.submitted, kept.prepared, kept.matched, fun none => ?_, ?_, ?_, ?_,
        kept.completed, kept.final, kept.told⟩
      · exact absurd none (Option.some_ne_none kind)
      · exact fun _ _ rank other member => absurd member (kept.undecided undecided rank other)
      · exact fun same => consent (Option.some.inj same)
      · exact fun same => refused (Option.some.inj same)
    have step : ∀ rank ∈ order, ∀ now,
        Used config now index ∧ now.client.transactions index = decided.client.transactions index →
          Used config (sendDecision config (state.client.transactions index).submission.id kind rank now).2 index ∧
            (sendDecision config (state.client.transactions index).submission.id kind rank now).2.client.transactions
              index = decided.client.transactions index := by
      rintro rank - now ⟨sofar, same⟩
      have about : (now.client.transactions index).submission.id =
          (state.client.transactions index).submission.id := by
        rw [same, record]
      have taken : (now.client.transactions index).decisionKind = some kind := by rw [same, record]
      have next := sendDecision_used rank sofar about taken
      exact ⟨next.1, next.2.trans same⟩
    have sent := forEach_preserves step ⟨start, rfl⟩
    refine ⟨sent.1, ?_⟩
    rw [sent.2, record]

section

variable (used : Used config state index)
include used

/-- Every rank of a failed transaction counts as complete. -/
theorem Used.completeAll (failed : (state.client.transactions index).status ≠ .known .ok) (mask : RankMask) :
    Used config (state.editTransaction index fun transaction =>
      { transaction with completionMask := mask }) index := by
  have kept := used.kept
  exact used.edit rfl rfl ⟨kept.submitted, kept.prepared, kept.matched, kept.undecided, kept.decided, kept.committed,
    kept.aborted, fun fine => absurd fine failed, fun fine => absurd fine failed, kept.told⟩

/-- The decision that all answers ask for keeps the books. -/
theorem resolveDecision_books (answered : (state.client.transactions index).resultMask = config.allRankMask)
    (undecided : (state.client.transactions index).decisionKind = none) :
    Books config (resolveDecision config state index) := by
  have kept := used.kept
  unfold resolveDecision
  dsimp only
  split
  · rename_i fine
    have consent : ∀ rank < config.rankCount,
        .result rank (state.client.transactions index).submission.id (.known .ok) ∈ state.trace := by
      intro rank below
      refine kept.prepared rank (kept.matched fine rank ?_)
      rw [answered]
      exact (getLsbD_allRankMask config rank).mpr below
    have sent := sendDecisions_used .commit config.allRankMask config.ranks config.ranks.reverse used undecided
      (fun _ => consent) nofun
    split
    · rename_i failure
      have recorded := sent.1.recordFailure (known_failed failure)
      exact recorded.books.same (setFailure_books _ _)
    · exact sent.1.books
  · rename_i failed
    have sent := sendDecisions_used .abort (state.client.transactions index).preparedMask
      (preparedRanks config (state.client.transactions index)) (preparedRanks config (state.client.transactions index))
      used undecided nofun fun _ => failed
    split
    · exact sent.1.books.same (setFailure_books _ _)
    · split
      · refine reportCompletion_books ((reportResult_used sent.1).completeAll ?_ _)
        obtain ⟨reported, same⟩ := reportResult_record config (sendDecisions config state index .abort
          (state.client.transactions index).preparedMask (preparedRanks config (state.client.transactions index))
          (preparedRanks config (state.client.transactions index))).2 index
        rw [same]
        exact fun fine => failed (sent.2.symm.trans fine)
      · exact sent.1.books

/-- The last answer keeps the books. -/
theorem resolveAdmission_books :
    Books config (resolveAdmission config state index) := by
  unfold resolveAdmission
  dsimp only
  split
  · exact used.books
  · rename_i due
    rw [not_or, not_not] at due
    split
    · split
      · exact used.books.same (setFailure_books _ _)
      · exact reportCompletion_books (reportResult_used used)
    · refine resolveDecision_books used due.1 ?_
      simpa using due.2

/-- An answer to a decision keeps the books. -/
theorem settleDecision_books {rank : Nat} {status : WireStatus} :
    Books config (settleDecision config state index rank status) := by
  unfold settleDecision
  dsimp only
  generalize marked : state.editTransaction index _ = heard
  have first : Used config heard index := by
    have kept := used.kept
    rw [← marked]
    exact used.edit rfl rfl ⟨kept.submitted, kept.prepared, kept.matched, kept.undecided, kept.decided, kept.committed,
      kept.aborted, kept.completed, kept.final, kept.told⟩
  generalize recorded : (if status ≠ .known .ok then setFailure config (recordFailure heard index status) status
    else heard) = judged
  have second : Used config judged index := by
    rw [← recorded]
    split
    · rename_i failure
      exact (first.recordFailure failure).same (setFailure_books _ _)
    · exact first
  split
  · exact second.books
  · have reported := reportResult_used second
    obtain ⟨_, same⟩ := reportResult_record config judged index
    split
    · rename_i aborts
      refine reportCompletion_books (reported.completeAll (reported.kept.aborted ?_) _)
      rw [same]
      exact aborts
    · exact reportCompletion_books reported

end

/-- So does one for a transaction that may be gone. -/
theorem rankDecisionResult_books (books : Books config state) (rank submissionId : Nat) (kind : DecisionKind)
    (status : WireStatus) : Books config (rankDecisionResult config rank submissionId kind status state) := by
  unfold rankDecisionResult
  split
  · exact books
  · rename_i place found
    obtain ⟨below, active, _⟩ := find_spec found
    dsimp only
    split
    · exact books
    · exact settleDecision_books ⟨books, below, active⟩

end Decisions

section Answers

/-- The consent of a rank, as the trace has it. -/
theorem Used.consent {rank : Nat} (used : Used config state index)
    (heard : .result rank (state.client.transactions index).submission.id (.known .ok) ∈ state.trace) :
    Used config (state.editTransaction index fun transaction =>
      { transaction with
        resultMask := transaction.resultMask ||| rankMask rank
        preparedMask := transaction.preparedMask ||| rankMask rank }) index := by
  have kept := used.kept
  refine used.edit rfl rfl ⟨kept.submitted, ?_, ?_, kept.undecided, kept.decided, kept.committed, kept.aborted,
    kept.completed, kept.final, kept.told⟩ <;> dsimp only
  · intro other bit
    rcases (getLsbD_or_rankMask _ _ _).mp bit with earlier | ⟨rfl, _⟩
    · exact kept.prepared other earlier
    · exact heard
  · intro fine other bit
    refine (getLsbD_or_rankMask _ _ _).mpr ?_
    exact ((getLsbD_or_rankMask _ _ _).mp bit).imp_left (kept.matched fine other)

/-- The refusal of a rank. -/
theorem Used.refuse {rank : Nat} {status : WireStatus} (used : Used config state index)
    (failure : status ≠ .known .ok) :
    Used config (PipelineClient.recordFailure (state.editTransaction index fun transaction =>
      { transaction with resultMask := transaction.resultMask ||| rankMask rank }) index status) index := by
  have kept := used.kept
  unfold PipelineClient.recordFailure
  rw [editTransaction_twice]
  refine used.edit ?_ ?_ ?_
  · rw [Transaction.recordFailure_active]
  · rw [Transaction.recordFailure_submission]
  · unfold Transaction.recordFailure
    dsimp only
    split
    · exact ⟨kept.submitted, kept.prepared, fun fine => absurd fine failure, kept.undecided, kept.decided,
        kept.committed, fun _ => failure, fun fine => absurd fine failure, fun fine => absurd fine failure, kept.told⟩
    · rename_i failed
      exact ⟨kept.submitted, kept.prepared, fun fine => absurd fine failed, kept.undecided, kept.decided,
        kept.committed, kept.aborted, kept.completed, kept.final, kept.told⟩

/-- An answer to a submission keeps the books. -/
theorem settleResult_books {rank : Nat} {status : WireStatus} (used : Used config state index)
    (heard : .result rank (state.client.transactions index).submission.id status ∈ state.trace) :
    Books config (settleResult config state index rank status) := by
  unfold settleResult
  dsimp only
  split
  · rename_i fine
    rw [editTransaction_twice]
    exact resolveAdmission_books (used.consent (fine ▸ heard))
  · rename_i failure
    split
    · exact resolveAdmission_books ((used.refuse failure).same (setFailure_books _ _))
    · exact resolveAdmission_books (used.refuse failure)

/-- So does one for a transaction that may be gone. -/
theorem rankResult_books (books : Books config state) (rank submissionId : Nat) (status : WireStatus) :
    Books config (rankResult config rank submissionId status state) := by
  have noted : Books config (state.note (.result rank submissionId status)) := books.hear rfl trivial
  unfold rankResult
  dsimp only
  split
  · exact noted
  · rename_i place found
    obtain ⟨below, active, about⟩ := find_spec found
    split
    · exact noted
    · refine settleResult_books ⟨noted, below, active⟩ ?_
      rw [about]
      exact .head _

/-- A transaction that a status fails stays in use. -/
theorem failTransaction_used {status : SparkStatus} (used : Used config state index) :
    Used config (failTransaction config state index status) index := by
  unfold failTransaction
  split
  · rename_i failure
    exact (used.recordFailure (known_failed failure)).same (setFailure_books _ _)
  · exact used

/-- Failing keeps the submission. -/
theorem failTransaction_record (config : Configuration) (state : State) (index : Nat) (status : SparkStatus) :
    ((failTransaction config state index status).client.transactions index).submission =
      (state.client.transactions index).submission := by
  unfold failTransaction
  split
  · rw [(setFailure_books _ _).transactions]
    unfold recordFailure
    rw [editTransaction_same, Transaction.recordFailure_submission]
  · rfl

/-- Failing tells nothing. -/
theorem failTransaction_trace (config : Configuration) (state : State) (index : Nat) (status : SparkStatus) :
    (failTransaction config state index status).trace = state.trace := by
  unfold failTransaction
  split
  · exact (setFailure_books _ _).trace
  · rfl

/-- The completion of a rank, as the trace has it. -/
theorem Used.complete {rank : Nat} {message : RankCompletion} (used : Used config state index)
    (heard : .completion rank (state.client.transactions index).submission.id message ∈ state.trace)
    (about : message.completion.submissionId = (state.client.transactions index).submission.id)
    (succeeded : (state.client.transactions index).status = .known .ok → message.completion.status = .known .ok) :
    Used config (state.editTransaction index fun transaction =>
      { transaction with
        finalCompletion := if rank + 1 = config.rankCount then message else transaction.finalCompletion
        completionMask := transaction.completionMask ||| rankMask rank }) index := by
  have kept := used.kept
  refine used.edit rfl rfl ⟨kept.submitted, kept.prepared, kept.matched, kept.undecided, kept.decided, kept.committed,
    kept.aborted, ?_, ?_, kept.told⟩ <;> dsimp only
  · intro fine other bit
    rcases (getLsbD_or_rankMask _ _ _).mp bit with earlier | ⟨rfl, _⟩
    · exact kept.completed fine other earlier
    · exact ⟨message, heard, succeeded fine⟩
  · intro fine bit
    split
    · exact ⟨succeeded fine, about⟩
    · rename_i notLast
      rcases (getLsbD_or_rankMask _ _ _).mp bit with earlier | ⟨last, _⟩
      · exact kept.final fine earlier
      · have positive := config.rankCount_pos
        omega

/-- A rank's completion keeps the books. -/
theorem settleRankCompletion_books {rank : Nat} {message : RankCompletion} (used : Used config state index)
    (about : (state.client.transactions index).submission.id = message.completion.submissionId)
    (heard : .completion rank message.completion.submissionId message ∈ state.trace) :
    Books config (settleRankCompletion config state index rank message) := by
  unfold settleRankCompletion
  dsimp only
  generalize identified : failTransaction config state index _ = named
  have first : Used config named index := identified ▸ failTransaction_used used
  have firstRecord : (named.client.transactions index).submission = (state.client.transactions index).submission :=
    identified ▸ failTransaction_record config state index _
  have firstTrace : named.trace = state.trace := identified ▸ failTransaction_trace config state index _
  generalize validated : failTransaction config named index _ = judged
  have second : Used config judged index := validated ▸ failTransaction_used first
  have secondRecord : (judged.client.transactions index).submission = (state.client.transactions index).submission :=
    (validated ▸ failTransaction_record config named index _).trans firstRecord
  have secondTrace : judged.trace = state.trace :=
    (validated ▸ failTransaction_trace config named index _).trans firstTrace
  generalize recorded : (if message.completion.status ≠ .known .ok then
    recordFailure judged index message.completion.status else judged) = final
  have third : Used config final index ∧
      (final.client.transactions index).submission = (state.client.transactions index).submission ∧
        final.trace = state.trace ∧ ((final.client.transactions index).status = .known .ok →
          message.completion.status = .known .ok) := by
    rw [← recorded]
    split
    · rename_i failure
      refine ⟨second.recordFailure failure, ?_, secondTrace, fun fine => ?_⟩
      · unfold recordFailure
        rw [editTransaction_same, Transaction.recordFailure_submission]
        exact secondRecord
      · unfold recordFailure at fine
        rw [editTransaction_same] at fine
        exact absurd fine (Transaction.recordFailure_failed _ failure)
    · rename_i fine
      exact ⟨second, secondRecord, secondTrace, fun _ => not_not.mp fine⟩
  obtain ⟨finished, record, trace, succeeded⟩ := third
  have same : (final.client.transactions index).submission.id = message.completion.submissionId := by
    rw [record]
    exact about
  refine reportCompletion_books (finished.complete ?_ same.symm succeeded)
  rw [trace, same]
  exact heard

/-- So does one for a transaction that may be gone. -/
theorem rankCompletion_books (books : Books config state) (rank : Nat) (message : RankCompletion) :
    Books config (rankCompletion config rank message state) := by
  have noted : Books config (state.note (.completion rank message.completion.submissionId message)) :=
    books.hear rfl trivial
  unfold rankCompletion
  dsimp only
  split
  · exact noted
  · rename_i place found
    obtain ⟨below, active, about⟩ := find_spec found
    split
    · exact noted
    · split
      · exact noted.same (setFailure_books _ _)
      · exact settleRankCompletion_books ⟨noted, below, active⟩ about (.head _)

end Answers

end Sparkpipe.PipelineClient
