import Sparkpipe.Pipeline.Books

/-!
# What falls while the ranks are read

While the ranks are read, transactions only end and connections only fall, and a failure
stops every connection at once. A session is therefore healed only by a pass that began
after the failure, when every transaction has been failed.
-/

namespace Sparkpipe.PipelineClient

open BatchEngine (Message Completion Callback WireStatus WorkKind Lane)

variable {config : Configuration}

/-- Transactions end, connections fall, a failure leaves no rank connected, and the trace grows. -/
structure Falls (config : Configuration) (state next : State) : Prop where
  active : ∀ index, (next.client.transactions index).active = true → (state.client.transactions index).active = true
  connected : ∀ rank, (next.client.clients rank).connected = true → (state.client.clients rank).connected = true
  failed : next.client.failedStatus ≠ .known .ok → state.client.failedStatus ≠ .known .ok ∨
    ∀ rank < config.rankCount, (next.client.clients rank).connected = false
  grown : state.trace <:+ next.trace

variable {state middle next : State}

/-- Nothing falls where nothing happens. -/
theorem Falls.refl (state : State) : Falls config state state := ⟨fun _ => id, fun _ => id, .inl, List.suffix_refl _⟩

/-- What falls in one step and then in another. -/
theorem Falls.trans (first : Falls config state middle) (second : Falls config middle next) :
    Falls config state next := by
  refine ⟨fun index => first.active index ∘ second.active index,
    fun rank => first.connected rank ∘ second.connected rank, fun failed => ?_, first.grown.trans second.grown⟩
  rcases second.failed failed with earlier | cut
  · refine (first.failed earlier).imp_right fun cut rank below => ?_
    by_contra up
    have up := second.connected rank (by simpa using up)
    rw [cut rank below] at up
    cases up
  · exact .inr cut

/-- An edit of a rank that does not connect it. -/
theorem editRank_falls (rank : Nat) {change : ResidentClient → ResidentClient}
    (kept : (change (state.client.clients rank)).connected = true → (state.client.clients rank).connected = true) :
    Falls config state (state.editRank rank change) := by
  refine ⟨fun _ => id, fun other => ?_, .inl, List.suffix_refl _⟩
  unfold State.editRank
  dsimp only
  by_cases own : other = rank
  · subst own
    rw [Function.update_self]
    exact kept
  · rw [Function.update_of_ne own]
    exact id

/-- An edit of a transaction that does not start it. -/
theorem editTransaction_falls (index : Nat) {change : Transaction → Transaction}
    (kept : (change (state.client.transactions index)).active = true →
      (state.client.transactions index).active = true) :
    Falls config state (state.editTransaction index change) := by
  refine ⟨fun other => ?_, fun _ => id, .inl, List.suffix_refl _⟩
  by_cases own : other = index
  · subst own
    rw [editTransaction_same]
    exact kept
  · rw [editTransaction_other state change own]
    exact id

/-- The trace grows by an event. -/
theorem note_falls (event : Event) : Falls config state (state.note event) :=
  ⟨fun _ => id, fun _ => id, .inl, List.suffix_cons _ _⟩

/-- A turn of a connection. -/
theorem turn_falls : Falls config state state.turn := ⟨fun _ => id, fun _ => id, .inl, List.suffix_refl _⟩

/-- The first failure stops every connection. -/
theorem setFailure_falls (status : WireStatus) : Falls config state (setFailure config state status) := by
  have stopped (client : ResidentClient) : (failStop client).connected = false := by
    unfold failStop
    split
    · rfl
    · rename_i down
      simpa using down
  unfold setFailure
  split
  · exact .refl state
  · refine ⟨fun _ => id, fun rank => ?_, fun _ => .inr fun rank below => ?_, List.suffix_refl _⟩ <;> dsimp only
    · split
      · rw [stopped]
        exact nofun
      · exact id
    · rw [if_pos below]
      exact stopped _

/-- Sending what is queued for a rank. -/
theorem flush_falls (rank : Nat) : Falls config state (flush config rank state).2 := by
  unfold flush
  split
  · exact .refl state
  · dsimp only
    refine turn_falls.trans (editRank_falls rank ?_)
    exact id

/-- A decision that is sent to a rank. -/
theorem sendDecision_falls (submissionId : Nat) (kind : DecisionKind) (rank : Nat) (state : State) :
    Falls config state (sendDecision config submissionId kind rank state).2 := by
  unfold sendDecision
  dsimp only
  split
  · exact .refl state
  · refine Falls.trans (Falls.trans (editRank_falls rank ?_) (note_falls _)) (flush_falls rank)
    exact id

/-- A failure that a transaction records. -/
theorem recordFailure_falls (index : Nat) (status : WireStatus) :
    Falls config state (recordFailure state index status) := by
  refine editTransaction_falls index fun active => ?_
  unfold Transaction.recordFailure at active
  split at active <;> exact active

/-- A callback. -/
theorem tell_falls (callback : Callback) : Falls config state (tell state callback) := note_falls _

/-- A result is reported once. -/
theorem reportResult_falls (index : Nat) : Falls config state (reportResult config state index) := by
  unfold reportResult
  dsimp only
  split
  · exact .refl state
  · split
    · exact .refl state
    · refine (editTransaction_falls index ?_).trans (tell_falls _)
      exact id

/-- The transactions, their count and the connections are those of another client. -/
structure SameRanks (client next : Client) : Prop where
  transactions : next.transactions = client.transactions
  count : next.activeTransactionCount = client.activeTransactionCount
  last : next.lastSubmissionId = client.lastSubmissionId
  clients : next.clients = client.clients
  failed : next.failedStatus = client.failedStatus

/-- The client itself. -/
theorem SameRanks.refl (client : Client) : SameRanks client client := ⟨rfl, rfl, rfl, rfl, rfl⟩

/-- One change of leases after another. -/
theorem SameRanks.trans {client other last : Client} (first : SameRanks client other) (second : SameRanks other last) :
    SameRanks client last :=
  ⟨second.transactions.trans first.transactions, second.count.trans first.count, second.last.trans first.last,
    second.clients.trans first.clients, second.failed.trans first.failed⟩

/-- A change of leases lets nothing fall. -/
theorem SameRanks.falls {client : Client} (same : SameRanks state.client client) :
    Falls config state { state with client := client } := by
  refine ⟨fun index => ?_, fun rank => ?_, fun failed => ?_, List.suffix_refl _⟩
  · dsimp only
    rw [same.transactions]
    exact id
  · dsimp only
    rw [same.clients]
    exact id
  · dsimp only at failed
    rw [same.failed] at failed
    exact .inl failed

/-- A change of leases keeps the books. -/
theorem SameRanks.books {client : Client} (same : SameRanks state.client client) :
    SameBooks state { state with client := client } := ⟨same.transactions, same.count, same.last, rfl⟩

/-- Dropping a lease. -/
theorem dropLease_ranks (client : Client) (lane : Lane) : SameRanks client (dropLease config client lane) := by
  unfold dropLease
  split
  · exact .refl client
  · split
    · exact ⟨rfl, rfl, rfl, rfl, rfl⟩
    · exact .refl client

/-- Dropping the leases of some lanes. -/
theorem dropLeases_ranks (config : Configuration) (lanes : List Lane) (client : Client) :
    SameRanks client (lanes.foldl (dropLease config) client) := by
  induction lanes generalizing client with
  | nil => exact .refl client
  | cons lane rest ih => exact (dropLease_ranks client lane).trans (ih _)

/-- A lease that is renewed or given back. -/
theorem updateLease_ranks (message : Message) (completion : Completion) (index resident : Nat) (lane : Lane)
    (client : Client) : SameRanks client (updateLease message completion index resident lane client).2 := by
  unfold updateLease
  dsimp only
  split
  · exact ⟨rfl, rfl, rfl, rfl, rfl⟩
  · split <;> exact ⟨rfl, rfl, rfl, rfl, rfl⟩

/-- The leases of a submission from a lane on. -/
theorem updateLeasesFrom_ranks (message : Message) (completion : Completion) (index : Nat) (lanes : List Lane)
    (client : Client) : SameRanks client (updateLeasesFrom message completion index lanes client).2 := by
  induction lanes generalizing index client with
  | nil => exact .refl client
  | cons lane rest ih =>
    unfold updateLeasesFrom
    split
    · exact ih (index + 1) client
    · rename_i resident _
      have updated := updateLease_ranks message completion index resident lane client
      exact andThen_preserves updated fun _ => updated.trans (ih (index + 1) _)

/-- The leases of a submission. -/
theorem updateLeases_ranks (config : Configuration) (message : Message) (completion : Completion) (client : Client) :
    SameRanks client (updateLeases config message completion client).2 := by
  unfold updateLeases
  split
  · exact .refl client
  · exact updateLeasesFrom_ranks message completion 0 _ client

/-- The leases of a transaction, which fails if they do. -/
theorem renewLeases_falls (index : Nat) : Falls config state (renewLeases config state index) := by
  have updated : Falls config state { state with
      client := (updateLeases config (state.client.transactions index).submission.message
        (state.client.transactions index).finalCompletion.completion state.client).2 } :=
    (updateLeases_ranks config _ _ _).falls
  unfold renewLeases
  dsimp only
  split
  · exact (updated.trans (recordFailure_falls index _)).trans (setFailure_falls _)
  · exact updated

/-- A transaction is released. -/
theorem release_falls (index : Nat) : Falls config state (release state index) := by
  have cleared : Falls config state (state.editTransaction index Transaction.cleared) :=
    editTransaction_falls index fun active => absurd active nofun
  exact ⟨cleared.active, cleared.connected, cleared.failed, cleared.grown⟩

/-- A transaction is released and its completion told. -/
theorem finishTransaction_falls (index : Nat) : Falls config state (finishTransaction config state index) := by
  unfold finishTransaction
  dsimp only
  split
  · exact (release_falls index).trans (tell_falls _)
  · have dropped : Falls config state { state with
        client := (state.client.transactions index).submission.message.lanes.foldl (dropLease config) state.client } :=
      (dropLeases_ranks config _ _).falls
    exact (dropped.trans (release_falls index)).trans (tell_falls _)

/-- A completion is reported when all ranks have answered. -/
theorem reportCompletion_falls (index : Nat) : Falls config state (reportCompletion config state index) := by
  unfold reportCompletion
  dsimp only
  split
  · exact .refl state
  · split
    · exact (renewLeases_falls index).trans (finishTransaction_falls index)
    · exact finishTransaction_falls index

/-- A decision that is sent to some ranks. -/
theorem sendDecisions_falls (index : Nat) (kind : DecisionKind) (expected : RankMask) (ranks order : List Nat) :
    Falls config state (sendDecisions config state index kind expected ranks order).2 := by
  unfold sendDecisions
  dsimp only
  split
  · exact .refl state
  · refine forEach_preserves (P := Falls config state) (fun rank _ now sofar => ?_) (editTransaction_falls index ?_)
    · exact sofar.trans (sendDecision_falls _ kind rank now)
    · exact id

/-- The decision that the answers ask for. -/
theorem resolveDecision_falls (index : Nat) : Falls config state (resolveDecision config state index) := by
  unfold resolveDecision
  dsimp only
  split
  · have sent : Falls config state (sendDecisions config state index .commit config.allRankMask config.ranks
        config.ranks.reverse).2 := sendDecisions_falls index _ _ _ _
    split
    · exact (sent.trans (recordFailure_falls index _)).trans (setFailure_falls _)
    · exact sent
  · have sent : Falls config state (sendDecisions config state index .abort
        (state.client.transactions index).preparedMask (preparedRanks config (state.client.transactions index))
        (preparedRanks config (state.client.transactions index))).2 := sendDecisions_falls index _ _ _ _
    split
    · exact sent.trans (setFailure_falls _)
    · split
      · refine ((sent.trans (reportResult_falls index)).trans (editTransaction_falls index ?_)).trans
          (reportCompletion_falls index)
        exact id
      · exact sent

/-- What follows when the last rank has answered. -/
theorem resolveAdmission_falls (index : Nat) : Falls config state (resolveAdmission config state index) := by
  unfold resolveAdmission
  dsimp only
  split
  · exact .refl state
  · split
    · split
      · exact setFailure_falls _
      · exact (reportResult_falls index).trans (reportCompletion_falls index)
    · exact resolveDecision_falls index

/-- A rank's answer to a decision. -/
theorem settleDecision_falls (index rank : Nat) (status : WireStatus) :
    Falls config state (settleDecision config state index rank status) := by
  unfold settleDecision
  dsimp only
  generalize marked : state.editTransaction index _ = heard
  have first : Falls config state heard := by
    rw [← marked]
    refine editTransaction_falls index ?_
    exact id
  generalize recorded : (if status ≠ .known .ok then setFailure config (recordFailure heard index status) status
    else heard) = judged
  have second : Falls config heard judged := by
    rw [← recorded]
    split
    · exact (recordFailure_falls index status).trans (setFailure_falls status)
    · exact .refl heard
  split
  · exact first.trans second
  · refine ((first.trans second).trans (reportResult_falls index)).trans ?_
    split
    · refine (editTransaction_falls index ?_).trans (reportCompletion_falls index)
      exact id
    · exact reportCompletion_falls index

/-- A rank's answer to a decision, of a transaction that may be gone. -/
theorem rankDecisionResult_falls (rank submissionId : Nat) (kind : DecisionKind) (status : WireStatus) :
    Falls config state (rankDecisionResult config rank submissionId kind status state) := by
  unfold rankDecisionResult
  split
  · exact .refl state
  · dsimp only
    split
    · exact .refl state
    · exact settleDecision_falls _ rank status

/-- A rank's answer to a submission. -/
theorem settleResult_falls (index rank : Nat) (status : WireStatus) :
    Falls config state (settleResult config state index rank status) := by
  unfold settleResult
  dsimp only
  generalize marked : state.editTransaction index _ = heard
  have first : Falls config state heard := by
    rw [← marked]
    refine editTransaction_falls index ?_
    exact id
  split
  · refine (first.trans (editTransaction_falls index ?_)).trans (resolveAdmission_falls index)
    exact id
  · split
    · exact ((first.trans (recordFailure_falls index status)).trans (setFailure_falls status)).trans
        (resolveAdmission_falls index)
    · exact (first.trans (recordFailure_falls index status)).trans (resolveAdmission_falls index)

/-- A rank's answer, of a transaction that may be gone. -/
theorem rankResult_falls (rank submissionId : Nat) (status : WireStatus) :
    Falls config state (rankResult config rank submissionId status state) := by
  unfold rankResult
  dsimp only
  refine (note_falls (.result rank submissionId status)).trans ?_
  split
  · exact .refl _
  · split
    · exact .refl _
    · exact settleResult_falls _ rank status

/-- A transaction that a status fails. -/
theorem failTransaction_falls (index : Nat) (status : SparkStatus) :
    Falls config state (failTransaction config state index status) := by
  unfold failTransaction
  split
  · exact (recordFailure_falls index _).trans (setFailure_falls _)
  · exact .refl state

/-- A rank's completion. -/
theorem settleRankCompletion_falls (index rank : Nat) (message : RankCompletion) :
    Falls config state (settleRankCompletion config state index rank message) := by
  unfold settleRankCompletion
  dsimp only
  generalize identified : failTransaction config state index _ = named
  have first : Falls config state named := identified ▸ failTransaction_falls index _
  generalize validated : failTransaction config named index _ = judged
  have second : Falls config named judged := validated ▸ failTransaction_falls index _
  refine (first.trans second).trans ?_
  split
  · refine ((recordFailure_falls index _).trans (editTransaction_falls index ?_)).trans (reportCompletion_falls index)
    exact id
  · refine (editTransaction_falls index ?_).trans (reportCompletion_falls index)
    exact id

/-- A rank's completion, of a transaction that may be gone. -/
theorem rankCompletion_falls (rank : Nat) (message : RankCompletion) :
    Falls config state (rankCompletion config rank message state) := by
  unfold rankCompletion
  dsimp only
  refine (note_falls (.completion rank message.completion.submissionId message)).trans ?_
  split
  · exact .refl _
  · split
    · exact .refl _
    · split
      · exact setFailure_falls _
      · exact settleRankCompletion_falls _ rank message

/-- A message from a rank, of any kind. -/
theorem processMessage_falls (rank : Nat) (incoming : Incoming) (state : State) :
    Falls config state (processMessage config rank incoming state).2 := by
  cases incoming with
  | result header submissionId check status =>
    unfold processMessage processResult
    dsimp only
    split
    · exact .refl state
    · split
      · exact .refl state
      · split
        · exact .refl state
        · split
          · exact .refl state
          · refine (editRank_falls rank ?_).trans (rankResult_falls rank submissionId status)
            split <;> exact id
  | decisionResult submissionId check status =>
    unfold processMessage processDecisionResult
    dsimp only
    split
    · exact .refl state
    · split
      · exact .refl state
      · split
        · exact .refl state
        · split
          · exact .refl state
          · refine (editRank_falls rank ?_).trans (rankDecisionResult_falls rank submissionId _ status)
            split <;> exact id
  | completion header message =>
    unfold processMessage processCompletion
    dsimp only
    split
    · exact .refl state
    · split
      · exact .refl state
      · split
        · exact .refl state
        · split
          · exact .refl state
          · split
            · exact .refl state
            · refine (editRank_falls rank ?_).trans (rankCompletion_falls rank message)
              exact id
  | report check =>
    unfold processMessage processStatus
    dsimp only
    split
    · exact .refl state
    · split
      · exact .refl state
      · dsimp only
        refine editRank_falls rank ?_
        exact id
  | other => exact .refl state

/-- The messages that are there from a rank. -/
theorem readMessages_falls (rank : Nat) (lost : Bool) (remaining : Nat) (messages : List Incoming) (state : State) :
    Falls config state (readMessages config rank lost remaining messages state).2 := by
  induction remaining generalizing messages state with
  | zero => exact .refl state
  | succ remaining ih =>
    unfold readMessages
    split
    · exact .refl state
    · split
      · exact .refl state
      · rename_i incoming rest
        have processed : Falls config state _ := processMessage_falls rank incoming state
        exact andThen_preserves processed fun _ => processed.trans (ih rest _)

/-- A connection that is given up. -/
theorem failStop_falls (rank : Nat) : Falls config state (state.editRank rank failStop) := by
  refine editRank_falls rank fun up => ?_
  unfold failStop at up
  split at up
  · cases up
  · exact up

/-- One exchange with a rank. -/
theorem exchange_falls (rank maximumMessageCount : Nat) (state : State) :
    Falls config state (exchange config rank maximumMessageCount state).2 := by
  unfold exchange
  generalize reading : andThen (flush config rank state) (read config rank maximumMessageCount) = outcome
  have read : Falls config state outcome.2 := by
    rw [← reading]
    refine andThen_preserves (flush_falls rank) fun _ => ?_
    exact ((flush_falls rank).trans turn_falls).trans (readMessages_falls rank _ maximumMessageCount _ _)
  dsimp only
  split
  · exact read.trans (failStop_falls rank)
  · exact read

end Sparkpipe.PipelineClient
