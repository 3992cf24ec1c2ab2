import Sparkpipe.Pipeline.Callbacks

/-!
# The agreement of the ranks

A pass over the ranks, a submission and a healing keep the books of the pipeline client,
and so does every run. What the books say is the agreement of the ranks: a commit rests
on the consent of all of them, no transaction has two decisions, each submission that is
taken is answered by one result and then by one completion, and a completion that
succeeds rests on those of all ranks.
-/

namespace Sparkpipe.PipelineClient

open Function
open BatchEngine (Message Completion Callback WireStatus WorkKind Lane)

variable {config : Configuration} {state : State} {index : Nat}

section Passes

/-- A message of any kind keeps the books. -/
theorem processMessage_books (books : Books config state) (rank : Nat) (incoming : Incoming) :
    Books config (processMessage config rank incoming state).2 := by
  cases incoming with
  | result header submissionId check status =>
    unfold processMessage processResult
    dsimp only
    split
    · exact books
    · split
      · exact books
      · split
        · exact books
        · split
          · exact books
          · exact rankResult_books (books.same (editRank_books state rank _)) rank submissionId
              status
  | decisionResult submissionId check status =>
    unfold processMessage processDecisionResult
    dsimp only
    split
    · exact books
    · split
      · exact books
      · split
        · exact books
        · split
          · exact books
          · exact rankDecisionResult_books (books.same (editRank_books state rank _)) rank
              submissionId _ status
  | completion header message =>
    unfold processMessage processCompletion
    dsimp only
    split
    · exact books
    · split
      · exact books
      · split
        · exact books
        · split
          · exact books
          · split
            · exact books
            · exact rankCompletion_books (books.same (editRank_books state rank _)) rank message
  | report check =>
    unfold processMessage processStatus
    dsimp only
    split
    · exact books
    · split
      · exact books
      · dsimp only
        exact books.same (editRank_books state rank _)
  | other => exact books

/-- So do the messages that are there from a rank. -/
theorem readMessages_books (rank : Nat) (lost : Bool) (remaining : Nat) (messages : List Incoming)
    (books : Books config state) :
    Books config (readMessages config rank lost remaining messages state).2 := by
  induction remaining generalizing messages state with
  | zero => exact books
  | succ remaining ih =>
    unfold readMessages
    split
    · exact books
    · split
      · exact books
      · rename_i incoming rest
        have processed := processMessage_books books rank incoming
        exact andThen_preserves processed fun _ => ih rest processed

/-- A connection that is made or not is not in the books. -/
theorem ensureConnected_books (config : Configuration) (rank : Nat) (state : State) :
    SameBooks state (ensureConnected config rank state).2 := by
  unfold ensureConnected
  split
  · exact .refl state
  · split <;> exact ⟨rfl, rfl, rfl, rfl⟩

/-- The progress of one rank keeps the books. -/
theorem residentProgress_books (rank maximumMessageCount : Nat) (books : Books config state) :
    Books config (residentProgress config rank maximumMessageCount state).2 := by
  have connected := books.same (ensureConnected_books config rank state)
  refine andThen_preserves connected fun _ => ?_
  have flushed := connected.same (flush_books config rank _)
  unfold exchange
  generalize reading : andThen (flush config rank _) (read config rank maximumMessageCount) =
    outcome
  have read : Books config outcome.2 := by
    rw [← reading]
    refine andThen_preserves flushed fun _ => ?_
    exact readMessages_books rank _ maximumMessageCount _ (flushed.same ⟨rfl, rfl, rfl, rfl⟩)
  dsimp only
  split
  · exact read.same (editRank_books _ rank _)
  · exact read

/-- Failing one place of the table keeps the books. -/
theorem failPlace_books {status : WireStatus} (failure : status ≠ .known .ok)
    (below : index < config.transactionCapacity)
    (books : Books config state) : Books config (failPlace status state index) := by
  unfold failPlace
  dsimp only
  split
  · exact books
  · rename_i active
    have active : (state.client.transactions index).active = true := by simpa using active
    have used : Used config state index := ⟨books, below, active⟩
    have count := books.release_count below active
    have failed : ∀ completion, Callback.completion
        (failedCompletion (state.client.transactions index).submission.id status) =
        .completion completion →
          completion.status ≠ .known .ok := by
      intro completion same
      injection same with same
      rw [← same]
      exact failure
    split
    · rename_i reported
      exact used.close reported rfl rfl fun completion same succeeded =>
      absurd succeeded (failed completion same)
    · rename_i unreported
      have untold := used.kept.told
      rw [if_neg unreported] at untold
      have first := toldOf_cons_told state.trace
        (.submitResult (state.client.transactions index).submission.id status)
        (release state index).client
      have second := toldOf_cons_told
        (.told (.submitResult (state.client.transactions index).submission.id status)
          (release state index).client ::
          state.trace)
        (.completion (failedCompletion (state.client.transactions index).submission.id status))
        (release state index).client
      have told := second.trans (congrArg _ (first.trans (congrArg _ untold)))
      have retold : Retold (state.client.transactions index).submission.id state.trace
          (.told (.completion (failedCompletion (state.client.transactions index).submission.id
            status))
            (release state index).client ::
              .told (.submitResult (state.client.transactions index).submission.id status)
                (release state index).client :: state.trace) := by
        refine Retold.tell (Retold.tell (Retold.refl _ state.trace) _ ?_) _ ?_ <;> rfl
      have closed := books.close below active retold told ⟨⟨count, fun completion same succeeded =>
        absurd succeeded (failed completion same)⟩, ⟨count, fun _ same => absurd same nofun⟩,
          books.chronicle⟩
      unfold tell State.note
      dsimp only
      rw [release_trace]
      exact closed

/-- So does failing every place. -/
theorem failTransactions_books {status : WireStatus} (failure : status ≠ .known .ok)
    (books : Books config state) :
    Books config (failTransactions config state status) := by
  unfold failTransactions
  have places : ∀ index ∈ config.places, index < config.transactionCapacity :=
    fun index => List.mem_range.mp
  generalize config.places = indices at places
  induction indices generalizing state with
  | nil => exact books
  | cons first rest ih =>
    refine ih (failPlace_books failure (places first (.head _)) books) ?_
    exact fun index member => places index (.tail _ member)

/-- No transaction is in use. -/
def Idle (config : Configuration) (state : State) : Prop :=
  ∀ index < config.transactionCapacity, (state.client.transactions index).active = false

/-- Failing a place starts no transaction, and ends its own. -/
theorem failPlace_active (status : WireStatus) (state : State) (index other : Nat) :
    ((failPlace status state index).client.transactions other).active = true →
      other ≠ index ∧ (state.client.transactions other).active = true := by
  intro active
  unfold failPlace at active
  dsimp only at active
  split at active
  · rename_i unused
    refine ⟨?_, active⟩
    rintro rfl
    rw [active] at unused
    cases unused
  · have client : ((state.editTransaction index Transaction.cleared).client.transactions
        other).active = true := by
      split at active <;> exact active
    by_cases own : other = index
    · rw [own, editTransaction_same] at client
      cases client
    · rw [editTransaction_other state _ own] at client
      exact ⟨own, client⟩

/-- No transaction is left after that. -/
theorem failTransactions_idle (config : Configuration) (state : State) (status : WireStatus) :
    Idle config (failTransactions config state status) := by
  have cleared : ∀ (indices : List Nat) (state : State) (index : Nat),
      ((indices.foldl (failPlace status) state).client.transactions index).active = true →
        index ∉ indices ∧ (state.client.transactions index).active = true := by
    intro indices
    induction indices with
    | nil => exact fun state index active => ⟨List.not_mem_nil, active⟩
    | cons first rest ih =>
      intro state index active
      obtain ⟨later, before⟩ := ih _ index active
      obtain ⟨apart, earlier⟩ := failPlace_active status state first index before
      exact ⟨List.not_mem_cons_of_ne_of_not_mem apart later, earlier⟩
  intro index below
  by_contra active
  have active := (Bool.not_eq_false _).mp active
  exact (cleared config.places state index active).1 (List.mem_range.mpr below)

/-- The progress of a rank starts no transaction. -/
theorem residentProgress_active (rank maximumMessageCount index : Nat)
    (active : ((residentProgress config rank maximumMessageCount state).2.client.transactions
      index).active = true) :
    (state.client.transactions index).active = true := by
  have connected := ensureConnected_books config rank state
  revert active
  rw [← connected.transactions]
  unfold residentProgress
  refine andThen_preserves
    (P := fun next : State => (next.client.transactions index).active = true →
    ((ensureConnected config rank state).2.client.transactions index).active = true) id fun _ => ?_
  exact (exchange_falls rank maximumMessageCount _).active index

/-- A failure has left no rank connected. -/
def Halts (config : Configuration) (state : State) : Prop :=
  state.client.failedStatus ≠ .known .ok → ∀ rank < config.rankCount,
    (state.client.clients rank).connected = false

/-- A connection that is made or not fails no session. -/
theorem ensureConnected_failed (config : Configuration) (rank : Nat) (state : State) :
    (ensureConnected config rank state).2.client.failedStatus = state.client.failedStatus := by
  unfold ensureConnected
  split
  · rfl
  · split <;> rfl

/-- A failure while a rank progresses stops all ranks. -/
theorem residentProgress_halts (rank maximumMessageCount : Nat)
    (fine : state.client.failedStatus = .known .ok) :
    Halts config (residentProgress config rank maximumMessageCount state).2 := by
  have connected := (ensureConnected_failed config rank state).trans fine
  unfold residentProgress
  refine andThen_preserves (fun failed => absurd connected failed) fun _ failed => ?_
  exact ((exchange_falls rank maximumMessageCount _).failed failed).resolve_left fun earlier =>
    earlier connected

/-- The first failure stops all ranks. -/
theorem setFailure_halts (status : WireStatus) (halts : Halts config state) :
    Halts config (setFailure config state status) := by
  have falls : Falls config state (setFailure config state status) := setFailure_falls status
  intro failed
  by_cases earlier : state.client.failedStatus = .known .ok
  · exact (falls.failed failed).resolve_left fun bad => bad earlier
  · intro rank below
    by_contra up
    have up := falls.connected rank ((Bool.not_eq_false _).mp up)
    rw [halts earlier rank below] at up
    cases up

/-- A failure that is set stays. -/
theorem setFailure_failed (config : Configuration) {status : WireStatus}
    (failure : status ≠ .known .ok ∨ state.client.failedStatus ≠ .known .ok) :
    (setFailure config state status).client.failedStatus ≠ .known .ok := by
  unfold setFailure
  split
  · assumption
  · rename_i fine
    exact failure.resolve_right fine

/-- The progress of the ranks keeps the books. -/
theorem progressRanks_books (recovering : Bool) (maximumMessageCount : Nat) (ranks : List Nat)
    (status : SparkStatus)
    (books : Books config state) :
    Books config (progressRanks config recovering maximumMessageCount ranks status state).2 := by
  induction ranks generalizing status state with
  | nil => exact books
  | cons rank rest ih =>
    have passed := residentProgress_books rank maximumMessageCount books
    unfold progressRanks
    dsimp only
    split
    · exact passed.same (setFailure_books _ _)
    · exact ih _ passed

/-- It starts no transaction. -/
theorem progressRanks_idle (recovering : Bool) (maximumMessageCount : Nat) (ranks : List Nat)
    (status : SparkStatus)
    (idle : Idle config state) :
    Idle config (progressRanks config recovering maximumMessageCount ranks status state).2 := by
  induction ranks generalizing status state with
  | nil => exact idle
  | cons rank rest ih =>
    have passed : Idle config (residentProgress config rank maximumMessageCount state).2 := by
      intro index below
      by_contra active
      have active := residentProgress_active rank maximumMessageCount index
        ((Bool.not_eq_false _).mp active)
      rw [idle index below] at active
      cases active
    unfold progressRanks
    dsimp only
    split
    · intro index below
      rw [(setFailure_books _ _).transactions]
      exact passed index below
    · exact ih _ passed

/-- A pass that does not recover the session stops at the first failure, with every rank cut off. -/
theorem progressRanks_halts (maximumMessageCount : Nat) (ranks : List Nat)
    (fine : state.client.failedStatus = .known .ok) :
    Halts config (progressRanks config false maximumMessageCount ranks .ok state).2 ∧
      ((progressRanks config false maximumMessageCount ranks .ok state).1 ≠ .ok →
        (progressRanks config false maximumMessageCount ranks .ok state).2.client.failedStatus ≠
        .known .ok) := by
  induction ranks generalizing state with
  | nil => exact ⟨fun failed => absurd fine failed, fun failed => absurd rfl failed⟩
  | cons rank rest ih =>
    have halts : Halts config (residentProgress config rank maximumMessageCount state).2 :=
      residentProgress_halts rank maximumMessageCount fine
    unfold progressRanks
    dsimp only
    rw [if_pos rfl]
    split
    · rename_i stops
      refine ⟨setFailure_halts _ halts, fun failure => setFailure_failed config (.inl ?_)⟩
      exact known_failed failure
    · rename_i goes
      rw [not_and_or, not_or, not_not, not_not] at goes
      have goes := goes.resolve_left fun absurdity => absurdity rfl
      rw [goes.1]
      exact ih goes.2

/-- Publishing the session is about no transaction. -/
theorem publishSession_ranks (config : Configuration) (client : Client) :
    SameRanks client (publishSession config client) := by
  unfold publishSession
  split <;> exact ⟨rfl, rfl, rfl, rfl, rfl⟩

/-- A session is healed when no transaction is in use. -/
theorem heal_books {status : SparkStatus} (books : Books config state)
    (idle : Halts config state ∨ Idle config state) :
    Books config (heal config status state) := by
  unfold heal
  split
  · rename_i healthy
    obtain ⟨failed, connected, _⟩ := healthy
    have idle : Idle config state := by
      refine idle.resolve_left fun halts => ?_
      have up := List.all_eq_true.mp connected 0 (List.mem_range.mpr config.rankCount_pos)
      have down := halts failed 0 config.rankCount_pos
      exact Bool.noConfusion (down.symm.trans up)
    have grounded : Grounded config state.trace (.healed state.client) := by
      refine ⟨idle, fun submission continued member => ?_⟩
      refine books.gone submission continued member fun index below active => ?_
      rw [idle index below] at active
      cases active
    have published := publishSession_ranks config state.client
    have healed : SameBooks state
        { state with client :=
          { publishSession config state.client with failedStatus := .known .ok } } :=
      ⟨published.transactions, published.count, published.last, rfl⟩
    exact (books.same healed).hear rfl grounded
  · exact books

/-- The pass over the ranks, and what it heals. A pass that recovers the session has failed every
transaction before; another one has cut off every rank if it failed. -/
theorem pass_books (maximumMessageCount : Nat) (books : Books config state) :
    Books config (pass config maximumMessageCount state).2 := by
  unfold pass
  dsimp only
  by_cases fine : state.client.failedStatus = .known .ok
  · have settled : ¬ state.client.failedStatus ≠ .known .ok := fun failed => failed fine
    rw [if_neg settled, decide_eq_false settled]
    obtain ⟨halts, failed⟩ := progressRanks_halts maximumMessageCount config.ranks.reverse fine
    have passed := progressRanks_books false maximumMessageCount config.ranks.reverse .ok books
    split
    · exact heal_books (passed.same (setFailure_books _ _)) (.inl (setFailure_halts _ halts))
    · exact heal_books passed (.inl halts)
  · have idle := failTransactions_idle config state state.client.failedStatus
    rw [if_pos fine, decide_eq_true fine]
    have cleared := failTransactions_books fine books
    have passed := progressRanks_books true maximumMessageCount config.ranks.reverse .ok cleared
    have still := progressRanks_idle true maximumMessageCount config.ranks.reverse .ok idle
    split
    · refine heal_books (passed.same (setFailure_books _ _)) (.inr fun index below => ?_)
      rw [(setFailure_books _ _).transactions]
      exact still index below
    · exact heal_books passed (.inr still)

/-- So does `Progress`. -/
theorem progress_books (maximumMessageCount : Nat) (books : Books config state) :
    Books config (progress config maximumMessageCount state).2 := by
  unfold progress
  split
  · exact books
  · have passed := pass_books maximumMessageCount books
    dsimp only
    split
    · rename_i failing
      have failed := setFailure_failed config (failing.imp_left known_failed)
      exact failTransactions_books failed (passed.same (setFailure_books _ _))
    · exact passed

/-- So does `Recover`. -/
theorem recover_books (books : Books config state) : Books config (recover config state).2 := by
  unfold recover
  split
  · exact books
  · exact progress_books 1 (books.same (setFailure_books _ _))

end Passes

section Submitting

/-- A submission that is handed to a rank is not in the books. -/
theorem submitKind_books (config : Configuration) (rank : Nat) (submission : Submission)
    (requiresDecision : Bool)
    (state : State) : SameBooks state
    (submitKind config rank submission requiresDecision state).2 := by
  have connected := ensureConnected_books config rank state
  unfold submitKind
  refine andThen_preserves connected fun _ => ?_
  dsimp only
  split
  · exact connected
  · exact (connected.trans (editRank_books _ rank _)).trans (flush_books config rank _)

/-- Nor is one that is handed to rank after rank, up to the first that refuses. -/
theorem handOver_books (config : Configuration) (submission : Submission) (continued : Bool)
    (ranks : List Nat) (state : State) :
    SameBooks state (handOver config submission continued ranks state).2 ∧
      ∀ rank status, (handOver config submission continued ranks state).1 = some (rank, status) →
      status ≠ .ok := by
  induction ranks generalizing state with
  | nil => exact ⟨.refl state, fun _ _ absurdity => absurd absurdity (Option.some_ne_none _).symm⟩
  | cons rank rest ih =>
    unfold handOver
    generalize handed : (if continued then resume config rank submission state
      else prepare config rank submission state) = outcome
    have sent : SameBooks state outcome.2 := by
      rw [← handed]
      split
      · unfold resume
        dsimp only
        split
        · exact .refl state
        · exact submitKind_books config rank submission false state
      · exact submitKind_books config rank submission true state
    dsimp only
    split
    · exact ⟨sent.trans (ih outcome.2).1, (ih outcome.2).2⟩
    · rename_i refused
      refine ⟨sent, fun _ _ same => ?_⟩
      injection same with same
      injection same with _ same
      exact same ▸ refused

/-- A record that is not in use may hold anything. -/
theorem Books.forget {next : State} (books : Books config state)
    (same : ∀ index < config.transactionCapacity,
      (next.client.transactions index).active = (state.client.transactions index).active ∧
        ((state.client.transactions index).active = true →
          next.client.transactions index = state.client.transactions index))
    (count : next.client.activeTransactionCount = state.client.activeTransactionCount)
    (last : next.client.lastSubmissionId = state.client.lastSubmissionId)
    (trace : next.trace = state.trace) :
    Books config next := by
  have records : ∀ index < config.transactionCapacity, (next.client.transactions index).active =
    true →
      (state.client.transactions index).active = true ∧
        next.client.transactions index = state.client.transactions index := by
    intro index below active
    rw [(same index below).1] at active
    exact ⟨active, (same index below).2 active⟩
  refine ⟨?_, ?_, ?_, ?_, ?_, ?_, ?_⟩
  · exact count.trans (books.count.trans (tally_congr fun index below => (same index below).1).symm)
  · intro first firstBelow second secondBelow firstUsed secondUsed
    obtain ⟨firstActive, firstSame⟩ := records first firstBelow firstUsed
    obtain ⟨secondActive, secondSame⟩ := records second secondBelow secondUsed
    rw [firstSame, secondSame]
    exact books.distinct first firstBelow second secondBelow firstActive secondActive
  · intro index below active
    obtain ⟨used, record⟩ := records index below active
    rw [record, trace]
    exact books.kept index below used
  · rw [trace]
    intro submission continued member unused
    refine books.gone submission continued member fun index below active => ?_
    have still := unused index below
    rw [(same index below).1, (same index below).2 active] at still
    exact still active
  · rw [trace]
    exact books.unknown
  · rw [trace, last]
    exact books.bounded
  · rw [trace]
    exact books.chronicle

/-- The record a transaction starts with. -/
def Transaction.started (submission : Submission) (continued : Bool) : Transaction :=
  { active := true, submission := submission, continued := continued }

/-- A transaction has been given a place that was free. -/
structure Reserved (config : Configuration) (state next : State) (index : Nat)
    (transaction : Transaction) : Prop where
  below : index < config.transactionCapacity
  unused : (state.client.transactions index).active = false
  transactions : next.client.transactions = update state.client.transactions index transaction
  count : next.client.activeTransactionCount = state.client.activeTransactionCount + 1
  last : next.client.lastSubmissionId = state.client.lastSubmissionId
  trace : next.trace = state.trace

/-- A submission takes a place that is not in use. -/
theorem reserve_reserved {submission : Submission} {continued : Bool} {next : State}
    (found : reserve config state submission continued = some (index, next)) :
    Reserved config state next index (.started submission continued) := by
  unfold reserve at found
  split at found
  · exact absurd found (Option.some_ne_none _).symm
  · rename_i place free
    have member := List.mem_range.mp (List.mem_of_find?_eq_some free)
    have unused := List.find?_some free
    injection found with found
    obtain ⟨rfl, rfl⟩ := Prod.mk.inj found
    exact ⟨member, by simpa using unused, rfl, rfl, rfl, rfl⟩

section

variable {next : State} {transaction : Transaction}
    (reserved : Reserved config state next index transaction)
include reserved

/-- The place is kept while the books are. -/
theorem Reserved.same {later : State} (same : SameBooks next later) :
    Reserved config state later index transaction :=
  ⟨reserved.below, reserved.unused, same.transactions.trans reserved.transactions,
    same.count.trans reserved.count,
    same.last.trans reserved.last, same.trace.trans reserved.trace⟩

/-- The new transaction is edited before it is in the books. -/
theorem Reserved.edit (change : Transaction → Transaction) :
    Reserved config state (next.editTransaction index change) index (change transaction) := by
  refine ⟨reserved.below, reserved.unused, ?_, reserved.count, reserved.last, reserved.trace⟩
  unfold State.editTransaction
  dsimp only
  rw [reserved.transactions, update_self, update_idem]

/-- The place with the transaction is entered in the books. -/
theorem Reserved.acknowledge {submission : Submission} {continued : Bool}
    (books : Books config state)
    (fresh : Fresh transaction) (later : state.client.lastSubmissionId < submission.id)
    (about : transaction.submission = submission) (continues : transaction.continued = continued) :
    Books config (acknowledge next submission continued) := by
  subst about continues
  refine books.start reserved.below reserved.unused fresh later reserved.transactions
    reserved.count rfl ?_
  change _ :: next.trace = _
  rw [reserved.trace]

/-- A rank that refuses fails the transaction, and may count as having answered. -/
theorem Reserved.refuseRank (rank : Nat) (status : SparkStatus) (continued : Bool) :
    ∃ mask, Reserved config state (refuseRank config next index rank status continued) index
      { transaction.recordFailure (.known status) with resultMask := mask } := by
  have recorded : Reserved config state (recordFailure next index (.known status)) index
      (transaction.recordFailure (.known status)) := reserved.edit _
  unfold PipelineClient.refuseRank
  dsimp only
  split
  · split
    · exact ⟨_, recorded.same (setFailure_books _ _)⟩
    · exact ⟨_, recorded.edit _⟩
  · split
    · exact ⟨_, recorded.same (setFailure_books _ _)⟩
    · exact ⟨_, recorded⟩

/-- A transaction that the first rank has no room for is withdrawn. -/
theorem Reserved.release (active : transaction.active = true) (books : Books config state) :
    Books config (release next index) := by
  have edited : Reserved config state (next.editTransaction index Transaction.cleared) index
      transaction.cleared :=
    reserved.edit _
  have room : state.client.activeTransactionCount + 1 < 2 ^ 32 := by
    have more : inUse config next.client = inUse config state.client + 1 := by
      refine tally_gain reserved.below reserved.unused ?_ fun other _ apart => ?_
      · rw [reserved.transactions, update_self]
        exact active
      · rw [reserved.transactions, update_of_ne apart]
    rw [books.count, ← more]
    exact Nat.lt_of_le_of_lt (tally_le _ _) config.transactionCapacity_lt
  unfold PipelineClient.release
  dsimp only
  refine books.forget (fun other below => ?_) ?_ edited.last edited.trace <;> dsimp only
  · rw [edited.transactions]
    by_cases own : other = index
    · rw [own, update_self, reserved.unused]
      exact ⟨rfl, nofun⟩
    · rw [update_of_ne own]
      exact ⟨rfl, fun _ => rfl⟩
  · rw [edited.count, BatchEngine.subU32_one room]

end

/-- A submission that is started keeps the books. -/
theorem startTransaction_books (submission : Submission) (continued : Bool)
    (books : Books config state)
    (later : state.client.lastSubmissionId < submission.id) :
    Books config (startTransaction config state submission continued).2 := by
  unfold startTransaction
  split
  · exact books
  · rename_i place next found
    have reserved := reserve_reserved found
    obtain ⟨handed, refusals⟩ := handOver_books config submission continued config.ranks next
    split
    · rename_i final outcome
      rw [outcome] at handed
      exact (reserved.same handed).acknowledge books ⟨rfl, rfl, rfl, fun _ => rfl, rfl, rfl⟩ later
        rfl rfl
    · rename_i rank status final outcome
      rw [outcome] at handed refusals
      have failure := refusals rank status rfl
      have kept := reserved.same handed
      split
      · exact (kept.edit _).release rfl books
      · obtain ⟨mask, refused⟩ := kept.refuseRank rank status continued
        exact refused.acknowledge books
          ⟨rfl, rfl, rfl, fun fine => absurd fine (known_failed failure), rfl, rfl⟩ later rfl rfl

/-- So does `Submit`, whatever it answers. -/
theorem submit_books (submission : Submission) (books : Books config state) :
    Books config (submit config submission state).2 := by
  unfold submit
  split
  · exact books
  · split
    · exact books
    · split
      · exact books
      · rename_i later
        dsimp only
        split
        · exact books
        · generalize (if canContinue config state.client submission then firstRefusal
            (fun rank => canQueueContinuation config submission (state.client.clients rank))
            config.ranks
            else SparkStatus.ok) = refusal
          split
          · exact books
          · exact startTransaction_books submission _ books (Nat.lt_of_not_le later)

/-- A notice for a rank is not in the books. -/
theorem queueNotice_books (config : Configuration) (rank : Nat) (state : State) :
    SameBooks state (queueNotice config rank state).2 := by
  unfold queueNotice
  dsimp only
  split
  · exact .refl state
  · split
    · exact .refl state
    · exact (editRank_books state rank _).trans (flush_books config rank _)

/-- `RequestStatus` is not in the books. -/
theorem requestStatus_books (config : Configuration) (state : State) :
    SameBooks state (requestStatus config state) := by
  unfold requestStatus
  generalize config.ranks = ranks
  induction ranks generalizing state with
  | nil => exact .refl state
  | cons rank rest ih =>
    refine SameBooks.trans ?_ (ih _)
    unfold requestRankStatus
    split
    · exact .refl state
    · dsimp only
      split
      · exact (queueNotice_books config rank state).trans (editRank_books _ rank _)
      · exact queueNotice_books config rank state

/-- Nor is `CacheHint`. -/
theorem cacheHint_books (config : Configuration) (state : State) :
    SameBooks state (cacheHint config state).2 := by
  unfold cacheHint
  generalize config.ranks = ranks
  generalize 0 = sent
  dsimp only
  induction ranks generalizing state sent with
  | nil => exact .refl state
  | cons rank rest ih => exact (queueNotice_books config rank state).trans (ih _ _)

/-- Every call keeps the books. -/
theorem Call.apply_books (call : Call) (books : Books config state) :
    Books config (call.apply config state) := by
  cases call with
  | submit submission => exact submit_books submission books
  | progress maximumMessageCount => exact progress_books maximumMessageCount books
  | recover => exact recover_books books
  | requestStatus => exact books.same (requestStatus_books config state)
  | cacheHint => exact books.same (cacheHint_books config state)

/-- A new client has empty books. -/
theorem connect_books (config : Configuration) (submission : Submission)
    (greeting : Nat → Nat × Nat) :
    Books config (connect config submission greeting) := by
  have unused : ∀ index, ((connect config submission greeting).client.transactions index).active =
      false := by
    intro index
    unfold connect
    dsimp only
    rw [(publishSession_ranks config _).transactions]
  have idle : ∀ index, ((connect config submission greeting).client.transactions index).active ≠
      true := by
    intro index active
    rw [unused] at active
    cases active
  refine ⟨?_, ?_, ?_, ?_, ?_, ?_, trivial⟩
  · unfold inUse
    rw [tally_eq_zero fun index _ => unused index]
    exact (publishSession_ranks config _).count
  · exact fun index _ _ _ active => absurd active (idle index)
  · exact fun index _ active => absurd active (idle index)
  · exact fun _ _ member => absurd member List.not_mem_nil
  · exact fun _ _ => ⟨rfl, fun _ _ => List.not_mem_nil⟩
  · exact fun _ _ member => absurd member List.not_mem_nil

/-- The books are kept by every run. -/
theorem run_books (config : Configuration) (submission : Submission) (greeting : Nat → Nat × Nat)
    (calls : List Call) : Books config (run config submission greeting calls) := by
  unfold run
  generalize started : connect config submission greeting = state
  have books : Books config state := started ▸ connect_books config submission greeting
  clear started
  induction calls generalizing state with
  | nil => exact books
  | cons call rest ih => exact ih _ (call.apply_books books)

end Submitting

section Growth

/-- The progress of a rank only adds to the trace. -/
theorem residentProgress_grown (rank maximumMessageCount : Nat) (state : State) :
    state.trace <:+ (residentProgress config rank maximumMessageCount state).2.trace := by
  rw [← (ensureConnected_books config rank state).trace]
  unfold residentProgress
  refine andThen_preserves
    (P := fun next : State => (ensureConnected config rank state).2.trace <:+ next.trace)
    (List.suffix_refl _) fun _ => ?_
  exact (exchange_falls rank maximumMessageCount _).grown

/-- So does that of the ranks. -/
theorem progressRanks_grown (config : Configuration) (recovering : Bool)
    (maximumMessageCount : Nat) (ranks : List Nat) (status : SparkStatus)
    (state : State) :
    state.trace <:+ (progressRanks config recovering maximumMessageCount ranks status
      state).2.trace := by
  induction ranks generalizing status state with
  | nil => exact List.suffix_refl _
  | cons rank rest ih =>
    have passed : state.trace <:+
        (residentProgress config rank maximumMessageCount state).2.trace :=
      residentProgress_grown rank maximumMessageCount state
    unfold progressRanks
    dsimp only
    split
    · rw [(setFailure_books _ _).trace]
      exact passed
    · exact passed.trans (ih _ _)

/-- Failing a place only adds to the trace. -/
theorem failPlace_grown (status : WireStatus) (state : State) (index : Nat) :
    state.trace <:+ (failPlace status state index).trace := by
  unfold failPlace
  dsimp only
  split
  · exact List.suffix_refl _
  · rw [← release_trace state index]
    refine List.IsSuffix.trans ?_ (List.suffix_cons _ _)
    split
    · exact List.suffix_refl _
    · exact List.suffix_cons _ _

/-- So does failing every place. -/
theorem failTransactions_grown (config : Configuration) (state : State) (status : WireStatus) :
    state.trace <:+ (failTransactions config state status).trace := by
  unfold failTransactions
  generalize config.places = indices
  induction indices generalizing state with
  | nil => exact List.suffix_refl _
  | cons first rest ih => exact (failPlace_grown status state first).trans (ih _)

/-- Healing tells nothing. -/
theorem heal_grown (status : SparkStatus) (state : State) :
    state.trace <:+ (heal config status state).trace := by
  unfold heal
  split
  · exact List.suffix_cons _ _
  · exact List.suffix_refl _

/-- A pass only adds to the trace. -/
theorem pass_grown (maximumMessageCount : Nat) (state : State) :
    state.trace <:+ (pass config maximumMessageCount state).2.trace := by
  unfold pass
  dsimp only
  refine List.IsSuffix.trans ?_ (heal_grown _ _)
  generalize cleared : (if state.client.failedStatus ≠ .known .ok then
    failTransactions config state state.client.failedStatus else state) = begun
  have first : state.trace <:+ begun.trace := by
    rw [← cleared]
    split
    · exact failTransactions_grown config state _
    · exact List.suffix_refl _
  have second := first.trans
    (progressRanks_grown config (decide (state.client.failedStatus ≠ .known .ok))
    maximumMessageCount config.ranks.reverse .ok begun)
  split
  · rw [(setFailure_books _ _).trace]
    exact second
  · exact second

/-- So does `Progress`. -/
theorem progress_grown (maximumMessageCount : Nat) (state : State) :
    state.trace <:+ (progress config maximumMessageCount state).2.trace := by
  have passed : state.trace <:+ (pass config maximumMessageCount state).2.trace :=
    pass_grown maximumMessageCount state
  unfold progress
  split
  · exact List.suffix_refl _
  · dsimp only
    split
    · refine passed.trans (List.IsSuffix.trans ?_ (failTransactions_grown config _ _))
      rw [(setFailure_books _ _).trace]
    · exact passed

/-- Starting a submission only adds to the trace. -/
theorem startTransaction_grown (config : Configuration) (submission : Submission)
    (continued : Bool) (state : State) :
    state.trace <:+ (startTransaction config state submission continued).2.trace ∧
      ((startTransaction config state submission continued).1 = .ok →
        .submitted submission
        continued ∈ (startTransaction config state submission continued).2.trace) := by
  unfold startTransaction
  split
  · exact ⟨List.suffix_refl _, nofun⟩
  · rename_i place next found
    have reserved := reserve_reserved found
    obtain ⟨handed, _⟩ := handOver_books config submission continued config.ranks next
    split
    · rename_i final outcome
      rw [outcome] at handed
      have trace := (reserved.same handed).trace
      refine ⟨?_, fun _ => (.head _)⟩
      rw [← trace]
      exact List.suffix_cons _ _
    · rename_i rank status final outcome
      rw [outcome] at handed
      have kept := reserved.same handed
      split
      · refine ⟨?_, nofun⟩
        dsimp only
        rw [release_trace, ← kept.trace]
        exact List.suffix_refl _
      · obtain ⟨mask, refused⟩ := kept.refuseRank rank status continued
        refine ⟨?_, fun _ => (.head _)⟩
        rw [← refused.trace]
        exact List.suffix_cons _ _

/-- So does `Submit`. -/
theorem submit_grown (submission : Submission) (state : State) :
    state.trace <:+ (submit config submission state).2.trace ∧
      ((submit config submission state).1 = .known .ok →
        ∃ continued, .submitted submission
        continued ∈ (submit config submission state).2.trace) := by
  have unchanged {status : WireStatus} (failure : status ≠ .known .ok) :
    state.trace <:+ state.trace ∧
      (status = .known .ok → ∃ continued, .submitted submission continued ∈ state.trace) :=
    ⟨List.suffix_refl _, fun fine => absurd fine failure⟩
  unfold submit
  split
  · rename_i failed
    exact unchanged failed
  · split
    · rename_i refused
      exact unchanged (known_failed refused)
    · split
      · exact unchanged (known_failed nofun)
      · dsimp only
        split
        · rename_i refused
          exact unchanged (known_failed refused)
        · generalize (if canContinue config state.client submission then firstRefusal
            (fun rank => canQueueContinuation config submission (state.client.clients rank))
            config.ranks
            else SparkStatus.ok) = refusal
          split
          · rename_i refused
            exact unchanged (known_failed refused)
          · obtain ⟨grown, submitted⟩ := startTransaction_grown config submission
              (canContinue config state.client submission) state
            exact ⟨grown, fun fine => ⟨_, submitted (WireStatus.known.inj fine)⟩⟩

/-- Every call only adds to the trace. -/
theorem Call.apply_grown (call : Call) (state : State) :
    state.trace <:+ (call.apply config state).trace := by
  cases call with
  | submit submission => exact (submit_grown submission state).1
  | progress maximumMessageCount => exact progress_grown maximumMessageCount state
  | recover =>
    unfold Call.apply PipelineClient.recover
    dsimp only
    split
    · exact List.suffix_refl _
    · have failed : SameBooks state (setFailure config state (.known .ioError)) :=
        setFailure_books state _
      rw [← failed.trace]
      exact progress_grown 1 _
  | requestStatus =>
    unfold Call.apply
    dsimp only
    rw [(requestStatus_books config state).trace]
  | cacheHint =>
    unfold Call.apply
    dsimp only
    rw [(cacheHint_books config state).trace]

/-- So does a run of calls. -/
theorem calls_grown (calls : List Call) (state : State) :
    state.trace <:+ (calls.foldl (Call.apply config) state).trace := by
  induction calls generalizing state with
  | nil => exact List.suffix_refl _
  | cons call rest ih => exact (call.apply_grown state).trans (ih _)

end Growth

/-- A submission that was taken is held by a transaction until its result and then its completion
have been told, and is done with afterwards. -/
def Followed (config : Configuration) (state : State) (submissionId : Nat) : Prop :=
  (∃ index < config.transactionCapacity, (state.client.transactions index).active = true ∧
    (state.client.transactions index).submission.id = submissionId ∧
      (toldOf state.trace submissionId = [] ∨ toldOf state.trace submissionId = [.result])) ∨
    toldOf state.trace submissionId = toldAll

/-- The agreement of the ranks, of a client and what led to it. -/
structure Agreement (config : Configuration) (state : State) : Prop where
  consent : ∀ rank submissionId earlier,
    .decision rank submissionId .commit :: earlier <:+ state.trace →
    ∀ other < config.rankCount, .result other submissionId (.known .ok) ∈ earlier
  single : ∀ rank other submissionId kind second, .decision rank submissionId kind ∈ state.trace →
    .decision other submissionId second ∈ state.trace → kind = second
  followed : ∀ submission continued, .submitted submission continued ∈ state.trace →
    Followed config state submission.id
  completed : ∀ completion client earlier,
    .told (.completion completion) client :: earlier <:+ state.trace →
    completion.status = .known .ok → ∀ rank < config.rankCount,
      ∃ message, .completion rank completion.submissionId message ∈ earlier ∧
        message.completion.status = .known .ok
  healed : ∀ client earlier, .healed client :: earlier <:+ state.trace →
    (∀ index < config.transactionCapacity, (client.transactions index).active = false) ∧
      ∀ submission continued, .submitted submission continued ∈ earlier →
      toldOf earlier submission.id = toldAll
  toldCount : ∀ callback client earlier, .told callback client :: earlier <:+ state.trace →
    client.activeTransactionCount = inUse config client
  count : state.client.activeTransactionCount = inUse config state.client

/-- All ranks are told one decision. -/
theorem Books.single (books : Books config state) {rank other submissionId : Nat}
    {kind second : DecisionKind}
    (first : .decision rank submissionId kind ∈ state.trace)
    (later : .decision other submissionId second ∈ state.trace) : kind = second := by
  obtain ⟨before, earlier, split⟩ := List.append_of_mem first
  have chronicle := books.chronicle
  rw [split] at later chronicle
  rcases List.mem_append.mp later with newer | older
  · obtain ⟨ahead, behind, again⟩ := List.append_of_mem newer
    rw [again] at chronicle
    rw [List.append_assoc, List.cons_append] at chronicle
    have grounded := chronicle.grounded (List.suffix_append ahead _)
    exact grounded.2 rank kind (List.mem_append_right _ (.head _))
  · have grounded := chronicle.grounded
      (List.suffix_append before (.decision rank submissionId kind :: earlier))
    rcases List.mem_cons.mp older with same | before
    · injection same with _ _ same
      exact same.symm
    · exact (grounded.2 other second before).symm

/-- A submission is followed by its result and its completion. -/
theorem Books.followed (books : Books config state) {submission : Submission} {continued : Bool}
    (member : .submitted submission continued ∈ state.trace) :
    Followed config state submission.id := by
  by_cases held : ∃ index < config.transactionCapacity, (state.client.transactions index).active =
    true ∧
      (state.client.transactions index).submission.id = submission.id
  · obtain ⟨index, below, active, about⟩ := held
    have told := (books.kept index below active).told
    rw [about] at told
    refine .inl ⟨index, below, active, about, ?_⟩
    rw [told]
    split
    · exact .inr rfl
    · exact .inl rfl
  · refine .inr (books.gone submission continued member fun index below active about => ?_)
    exact held ⟨index, below, active, about⟩

/-- What the books say of a run. -/
theorem Books.agreement (books : Books config state) : Agreement config state where
  consent _ _ _ suffix := (books.chronicle.grounded suffix).1 rfl
  single _ _ _ _ _ first later := books.single first later
  followed _ _ member := books.followed member
  completed completion _ _ suffix := (books.chronicle.grounded suffix).2 completion rfl
  healed _ _ suffix := books.chronicle.grounded suffix
  toldCount _ _ _ suffix := (books.chronicle.grounded suffix).1
  count := books.count

/-- In every run the ranks agree, and a submission that is taken is followed to its end whatever
the later calls are. -/
theorem run_agreement (config : Configuration) (blank : Submission) (greeting : Nat → Nat × Nat)
    (calls : List Call) :
    Agreement config (run config blank greeting calls) ∧
      ∀ submission, (submit config submission (run config blank greeting calls)).1 = .known .ok →
        ∀ later, Followed config
        (run config blank greeting (calls ++ .submit submission :: later)) submission.id := by
  refine ⟨(run_books config blank greeting calls).agreement, fun submission taken later => ?_⟩
  obtain ⟨continued, submitted⟩ :=
    (submit_grown submission (run config blank greeting calls)).2 taken
  have books := run_books config blank greeting (calls ++ .submit submission :: later)
  have extended : run config blank greeting (calls ++ .submit submission :: later) =
      later.foldl (Call.apply config)
      (submit config submission (run config blank greeting calls)).2 := by
    unfold run
    rw [List.foldl_append]
    rfl
  rw [extended] at books ⊢
  exact books.followed ((calls_grown later _).subset submitted)

end Sparkpipe.PipelineClient
