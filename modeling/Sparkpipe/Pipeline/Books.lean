import Sparkpipe.Lib.Tally
import Sparkpipe.Pipeline.Client

/-!
# The books of the pipeline client

What the trace says of a transaction is what its record says: the ranks that have
prepared it, the decision that was sent, the ranks that have completed it, and what its
caller was told. Every event of the trace is grounded in the events before it. A change
of one record keeps the books when it keeps what they say of that record.
-/

namespace Sparkpipe.PipelineClient

open Function
open BatchEngine (Message Completion Callback WireStatus WorkKind Lane)

section Masks

theorem getLsbD_or_rankMask (mask : RankMask) (rank other : Nat) :
    (mask ||| rankMask rank).getLsbD other = true ↔
      mask.getLsbD other = true ∨ other = rank ∧ rank < 32 := by
  unfold rankMask
  rw [BitVec.getLsbD_or, Bool.or_eq_true]
  refine or_congr_right ?_
  rw [BitVec.getLsbD_shiftLeft]
  simp only [Bool.and_eq_true, decide_eq_true_eq, Bool.not_eq_true', decide_eq_false_iff_not, BitVec.getLsbD_one]
  omega

theorem getLsbD_allRankMask (config : Configuration) (rank : Nat) :
    config.allRankMask.getLsbD rank = true ↔ rank < config.rankCount := by
  have few : config.rankCount ≤ 16 := config.rankCount_le
  have power : 2 ^ config.rankCount ≤ 2 ^ 16 := Nat.pow_le_pow_right (by decide) few
  have positive : 0 < 2 ^ config.rankCount := Nat.two_pow_pos _
  have value : config.allRankMask.toNat = 2 ^ config.rankCount - 1 := by
    unfold Configuration.allRankMask
    rw [BitVec.toNat_sub, BitVec.toNat_shiftLeft]
    simp only [BitVec.toNat_ofNat, Nat.shiftLeft_eq]
    omega
  rw [BitVec.getLsbD, value, Nat.testBit_two_pow_sub_one]
  exact decide_eq_true_iff

end Masks

section Tellings

/-- The two callbacks. -/
inductive Telling where
  | result
  | completion
  deriving DecidableEq

/-- The submission a callback is about. -/
def callbackId : Callback → Nat
  | .submitResult submissionId _ => submissionId
  | .completion completion => completion.submissionId

def callbackTelling : Callback → Telling
  | .submitResult _ _ => .result
  | .completion _ => .completion

/-- What an event tells of a submission. -/
def Event.telling (submissionId : Nat) : Event → Option Telling
  | .told callback _ => if callbackId callback = submissionId then some (callbackTelling callback) else none
  | _ => none

/-- What was told of a submission, the latest first. -/
def toldOf (trace : List Event) (submissionId : Nat) : List Telling := trace.filterMap (·.telling submissionId)

/-- The result has been told, and then the completion. -/
def toldAll : List Telling := [.completion, .result]

theorem toldOf_cons_told (trace : List Event) (callback : Callback) (client : Client) :
    toldOf (.told callback client :: trace) (callbackId callback) =
      callbackTelling callback :: toldOf trace (callbackId callback) := by
  simp [toldOf, Event.telling]

theorem toldOf_cons_other (trace : List Event) {callback : Callback} (client : Client) {submissionId : Nat}
    (other : callbackId callback ≠ submissionId) :
    toldOf (.told callback client :: trace) submissionId = toldOf trace submissionId := by
  simp [toldOf, Event.telling, other]

/-- How many transactions a client has in use. -/
def inUse (config : Configuration) (client : Client) : Nat :=
  tally config.transactionCapacity fun index => (client.transactions index).active

/-- What an event rests on: a decision to commit on the consent of every rank, and any decision on
there being no other; a completion that succeeded on those of all ranks; the healing of a session
on no transaction being in use and the completion of all that was submitted. -/
def Grounded (config : Configuration) (earlier : List Event) : Event → Prop
  | .decision _ submissionId kind =>
    (kind = .commit → ∀ rank < config.rankCount, .result rank submissionId (.known .ok) ∈ earlier) ∧
      ∀ rank other, .decision rank submissionId other ∈ earlier → other = kind
  | .told callback client => client.activeTransactionCount = inUse config client ∧
      ∀ completion, callback = .completion completion → completion.status = .known .ok →
        ∀ rank < config.rankCount, ∃ message, .completion rank completion.submissionId message ∈ earlier ∧
          message.completion.status = .known .ok
  | .healed client => (∀ index < config.transactionCapacity, (client.transactions index).active = false) ∧
      ∀ submission continued, .submitted submission continued ∈ earlier → toldOf earlier submission.id = toldAll
  | _ => True

/-- Every event rests on those before it. -/
def Chronicle (config : Configuration) : List Event → Prop
  | [] => True
  | event :: earlier => Grounded config earlier event ∧ Chronicle config earlier

theorem Chronicle.grounded {config : Configuration} {trace earlier : List Event} {event : Event}
    (chronicle : Chronicle config trace) (suffix : event :: earlier <:+ trace) : Grounded config earlier event := by
  induction trace with
  | nil => exact absurd (List.suffix_nil.mp suffix) (List.cons_ne_nil _ _)
  | cons first rest ih =>
    rcases List.suffix_cons_iff.mp suffix with same | further
    · obtain ⟨rfl, rfl⟩ := List.cons.inj same
      exact chronicle.1
    · exact ih chronicle.2 further

end Tellings

/-- What the trace says of a transaction in use, by its record. -/
structure Kept (config : Configuration) (trace : List Event) (transaction : Transaction) : Prop where
  submitted : .submitted transaction.submission transaction.continued ∈ trace
  prepared : ∀ rank, transaction.preparedMask.getLsbD rank = true →
    .result rank transaction.submission.id (.known .ok) ∈ trace
  matched : transaction.status = .known .ok → ∀ rank, transaction.resultMask.getLsbD rank = true →
    transaction.preparedMask.getLsbD rank = true
  undecided : transaction.decisionKind = none → ∀ rank kind, .decision rank transaction.submission.id kind ∉ trace
  decided : ∀ kind, transaction.decisionKind = some kind →
    ∀ rank other, .decision rank transaction.submission.id other ∈ trace → other = kind
  committed : transaction.decisionKind = some .commit →
    ∀ rank < config.rankCount, .result rank transaction.submission.id (.known .ok) ∈ trace
  aborted : transaction.decisionKind = some .abort → transaction.status ≠ .known .ok
  completed : transaction.status = .known .ok → ∀ rank, transaction.completionMask.getLsbD rank = true →
    ∃ message, .completion rank transaction.submission.id message ∈ trace ∧ message.completion.status = .known .ok
  final : transaction.status = .known .ok → transaction.completionMask.getLsbD (config.rankCount - 1) = true →
    transaction.finalCompletion.completion.status = .known .ok ∧
      transaction.finalCompletion.completion.submissionId = transaction.submission.id
  told : toldOf trace transaction.submission.id = if transaction.resultReported then [.result] else []

/-- The transactions of a client agree with the trace. -/
structure Books (config : Configuration) (state : State) : Prop where
  count : state.client.activeTransactionCount = inUse config state.client
  distinct : ∀ index < config.transactionCapacity, ∀ other < config.transactionCapacity,
    (state.client.transactions index).active = true → (state.client.transactions other).active = true →
      (state.client.transactions index).submission.id = (state.client.transactions other).submission.id →
        index = other
  kept : ∀ index < config.transactionCapacity, (state.client.transactions index).active = true →
    Kept config state.trace (state.client.transactions index)
  gone : ∀ submission continued, .submitted submission continued ∈ state.trace →
    (∀ index < config.transactionCapacity, (state.client.transactions index).active = true →
      (state.client.transactions index).submission.id ≠ submission.id) →
        toldOf state.trace submission.id = toldAll
  unknown : ∀ submissionId, (∀ submission continued, .submitted submission continued ∈ state.trace →
    submission.id ≠ submissionId) →
      toldOf state.trace submissionId = [] ∧ ∀ rank kind, .decision rank submissionId kind ∉ state.trace
  bounded : ∀ submission continued, .submitted submission continued ∈ state.trace →
    submission.id ≤ state.client.lastSubmissionId
  chronicle : Chronicle config state.trace

section Frame

variable {config : Configuration} {state next : State}

/-- Neither the transactions nor the trace have changed. -/
structure SameBooks (state next : State) : Prop where
  transactions : next.client.transactions = state.client.transactions
  count : next.client.activeTransactionCount = state.client.activeTransactionCount
  last : next.client.lastSubmissionId = state.client.lastSubmissionId
  trace : next.trace = state.trace

theorem SameBooks.refl (state : State) : SameBooks state state := ⟨rfl, rfl, rfl, rfl⟩

theorem SameBooks.trans {middle : State} (first : SameBooks state middle) (second : SameBooks middle next) :
    SameBooks state next :=
  ⟨second.transactions.trans first.transactions, second.count.trans first.count, second.last.trans first.last,
    second.trace.trans first.trace⟩

theorem Books.same (books : Books config state) (same : SameBooks state next) : Books config next := by
  have used : inUse config next.client = inUse config state.client := by
    unfold inUse
    rw [same.transactions]
  refine ⟨?_, ?_, ?_, ?_, ?_, ?_, ?_⟩
  · rw [same.count, used]
    exact books.count
  · rw [same.transactions]
    exact books.distinct
  · rw [same.transactions, same.trace]
    exact books.kept
  · rw [same.transactions, same.trace]
    exact books.gone
  · rw [same.trace]
    exact books.unknown
  · rw [same.trace, same.last]
    exact books.bounded
  · rw [same.trace]
    exact books.chronicle

/-- An event that is no callback and no decision, and that submits nothing. -/
def Event.isHeard : Event → Bool
  | .result .. | .completion .. | .healed _ => true
  | _ => false

theorem toldOf_heard {event : Event} (heard : event.isHeard) (trace : List Event) (submissionId : Nat) :
    toldOf (event :: trace) submissionId = toldOf trace submissionId := by
  cases event <;> first
    | rfl
    | exact absurd heard nofun

theorem Kept.hear {trace : List Event} {transaction : Transaction} {event : Event} (heard : event.isHeard)
    (kept : Kept config trace transaction) : Kept config (event :: trace) transaction := by
  have apart : ∀ rank kind, .decision rank transaction.submission.id kind ∈ event :: trace →
      .decision rank transaction.submission.id kind ∈ trace := by
    intro rank kind member
    rcases List.mem_cons.mp member with rfl | earlier
    · exact absurd heard nofun
    · exact earlier
  refine ⟨?_, ?_, kept.matched, ?_, ?_, ?_, kept.aborted, ?_, kept.final, ?_⟩
  · exact .tail _ kept.submitted
  · exact fun rank bit => .tail _ (kept.prepared rank bit)
  · exact fun none rank kind member => kept.undecided none rank kind (apart rank kind member)
  · exact fun kind decided rank other member => kept.decided kind decided rank other (apart rank other member)
  · exact fun commits rank below => .tail _ (kept.committed commits rank below)
  · intro fine rank bit
    obtain ⟨message, member, succeeded⟩ := kept.completed fine rank bit
    exact ⟨message, .tail _ member, succeeded⟩
  · rw [toldOf_heard heard]
    exact kept.told

/-- Hearing something changes no books. -/
theorem Books.hear (books : Books config state) {event : Event} (heard : event.isHeard)
    (grounded : Grounded config state.trace event) : Books config (state.note event) := by
  have submitted : ∀ submission continued, .submitted submission continued ∈ event :: state.trace →
      .submitted submission continued ∈ state.trace := by
    intro submission continued member
    rcases List.mem_cons.mp member with rfl | earlier
    · exact absurd heard nofun
    · exact earlier
  refine ⟨books.count, books.distinct, ?_, ?_, ?_, ?_, grounded, books.chronicle⟩
  · exact fun index below active => (books.kept index below active).hear heard
  · intro submission continued member unused
    change toldOf (event :: state.trace) submission.id = toldAll
    rw [toldOf_heard heard]
    exact books.gone submission continued (submitted submission continued member) unused
  · intro submissionId unsubmitted
    obtain ⟨untold, undecided⟩ := books.unknown submissionId fun submission continued member =>
      unsubmitted submission continued (.tail _ member)
    refine ⟨(toldOf_heard heard _ _).trans untold, fun rank kind member => ?_⟩
    rcases List.mem_cons.mp member with rfl | earlier
    · exact absurd heard nofun
    · exact undecided rank kind earlier
  · exact fun submission continued member => books.bounded submission continued (submitted submission continued member)

end Frame

section Edits

variable {config : Configuration} {state : State} {index : Nat}

theorem editTransaction_same (state : State) (index : Nat) (change : Transaction → Transaction) :
    (state.editTransaction index change).client.transactions index = change (state.client.transactions index) :=
  update_self ..

theorem editTransaction_other (state : State) {index other : Nat} (change : Transaction → Transaction)
    (apart : other ≠ index) :
    (state.editTransaction index change).client.transactions other = state.client.transactions other :=
  update_of_ne apart ..

theorem editTransaction_twice (state : State) (index : Nat) (first second : Transaction → Transaction) :
    (state.editTransaction index first).editTransaction index second =
      state.editTransaction index fun transaction => second (first transaction) := by
  unfold State.editTransaction
  dsimp only
  rw [update_self, update_idem]

/-- A record that is written keeps the books when what is written is true. -/
theorem Books.edit (books : Books config state) {change : Transaction → Transaction}
    (active : (change (state.client.transactions index)).active = (state.client.transactions index).active)
    (submission : (change (state.client.transactions index)).submission =
      (state.client.transactions index).submission)
    (kept : Kept config state.trace (change (state.client.transactions index))) :
    Books config (state.editTransaction index change) := by
  have actives : ∀ other, ((state.editTransaction index change).client.transactions other).active =
      (state.client.transactions other).active := by
    intro other
    by_cases own : other = index
    · rw [own, editTransaction_same]
      exact active
    · rw [editTransaction_other state change own]
  have submissions : ∀ other, ((state.editTransaction index change).client.transactions other).submission =
      (state.client.transactions other).submission := by
    intro other
    by_cases own : other = index
    · rw [own, editTransaction_same]
      exact submission
    · rw [editTransaction_other state change own]
  refine ⟨?_, ?_, ?_, ?_, books.unknown, books.bounded, books.chronicle⟩
  · exact books.count.trans (tally_congr fun other _ => actives other).symm
  · intro first firstBelow second secondBelow
    rw [actives, actives, submissions, submissions]
    exact books.distinct first firstBelow second secondBelow
  · intro other below
    rw [actives]
    intro used
    by_cases own : other = index
    · rw [own, editTransaction_same]
      exact kept
    · rw [editTransaction_other state change own]
      exact books.kept other below used
  · intro given continued member unused
    refine books.gone given continued member fun other below used => ?_
    have still := unused other below
    rw [actives, submissions] at still
    exact still used

end Edits

section Telling

variable {config : Configuration} {state : State} {index : Nat}

/-- Only something about one submission was told. -/
structure Retold (submissionId : Nat) (trace next : List Event) : Prop where
  others : ∀ other, other ≠ submissionId → toldOf next other = toldOf trace other
  same : ∀ event, (∀ callback client, event ≠ .told callback client) → (event ∈ next ↔ event ∈ trace)

theorem Retold.refl (submissionId : Nat) (trace : List Event) : Retold submissionId trace trace :=
  ⟨fun _ _ => rfl, fun _ _ => Iff.rfl⟩

theorem Retold.tell {submissionId : Nat} {trace next : List Event} (retold : Retold submissionId trace next)
    {callback : Callback} (client : Client) (about : callbackId callback = submissionId) :
    Retold submissionId trace (.told callback client :: next) := by
  refine ⟨fun other apart => ?_, fun event silent => ?_⟩
  · rw [toldOf_cons_other next client fun same => apart (same.symm.trans about)]
    exact retold.others other apart
  · rw [List.mem_cons, retold.same event silent]
    exact or_iff_right fun same => silent _ _ same

/-- A transaction nothing is told of is kept as it was. -/
theorem Kept.retell {submissionId : Nat} {trace next : List Event} {transaction : Transaction}
    (kept : Kept config trace transaction) (retold : Retold submissionId trace next)
    (told : toldOf next transaction.submission.id = toldOf trace transaction.submission.id) :
    Kept config next transaction := by
  have decisions : ∀ rank kind, .decision rank transaction.submission.id kind ∈ next ↔
      .decision rank transaction.submission.id kind ∈ trace :=
    fun rank kind => retold.same _ fun _ _ => nofun
  have results : ∀ rank status, .result rank transaction.submission.id status ∈ next ↔
      .result rank transaction.submission.id status ∈ trace :=
    fun rank status => retold.same _ fun _ _ => nofun
  refine ⟨?_, ?_, kept.matched, ?_, ?_, ?_, kept.aborted, ?_, kept.final, told.trans kept.told⟩
  · exact (retold.same _ fun _ _ => Event.noConfusion).mpr kept.submitted
  · exact fun rank bit => (results rank _).mpr (kept.prepared rank bit)
  · exact fun none rank kind member => kept.undecided none rank kind ((decisions rank kind).mp member)
  · exact fun kind decided rank other member => kept.decided kind decided rank other ((decisions rank other).mp member)
  · exact fun commits rank below => (results rank _).mpr (kept.committed commits rank below)
  · intro fine rank bit
    obtain ⟨message, member, succeeded⟩ := kept.completed fine rank bit
    exact ⟨message, (retold.same _ fun _ _ => Event.noConfusion).mpr member, succeeded⟩

section

variable (books : Books config state)
include books

theorem Books.unknown_retell {submissionId : Nat} {next : List Event}
    (retold : Retold submissionId state.trace next) {continued : Bool} {submission : Submission}
    (member : .submitted submission continued ∈ state.trace) (about : submission.id = submissionId) :
    ∀ other, (∀ submission continued, .submitted submission continued ∈ next → submission.id ≠ other) →
      toldOf next other = [] ∧ ∀ rank kind, .decision rank other kind ∉ next := by
  intro other unsubmitted
  have submitted : ∀ submission continued, .submitted submission continued ∈ next ↔
      .submitted submission continued ∈ state.trace := fun _ _ => retold.same _ fun _ _ => nofun
  have apart : other ≠ submissionId := by
    rintro rfl
    exact unsubmitted submission continued ((submitted submission continued).mpr member) about
  obtain ⟨untold, undecided⟩ := books.unknown other fun submission continued member =>
    unsubmitted submission continued ((submitted submission continued).mpr member)
  refine ⟨(retold.others other apart).trans untold, fun rank kind member => undecided rank kind ?_⟩
  exact (retold.same _ fun _ _ => Event.noConfusion).mp member

variable (below : index < config.transactionCapacity) (active : (state.client.transactions index).active = true)
include below active

/-- The result of a transaction is told once. -/
theorem Books.tellResult (unreported : (state.client.transactions index).resultReported = false)
    (status : WireStatus) :
    Books config (tell (state.editTransaction index fun transaction => { transaction with resultReported := true })
      (.submitResult (state.client.transactions index).submission.id status)) := by
  have own := books.kept index below active
  have untold : toldOf state.trace (state.client.transactions index).submission.id = [] := by
    rw [own.told, unreported]
    rfl
  unfold tell State.note
  generalize marked : state.editTransaction index (fun transaction => { transaction with resultReported := true }) =
    next
  have trace : next.trace = state.trace := by rw [← marked]; rfl
  have last : next.client.lastSubmissionId = state.client.lastSubmissionId := by rw [← marked]; rfl
  have record : next.client.transactions index =
      { state.client.transactions index with resultReported := true } := by rw [← marked, editTransaction_same]
  have others : ∀ other, other ≠ index → next.client.transactions other = state.client.transactions other := by
    intro other apart
    rw [← marked, editTransaction_other state _ apart]
  have actives : ∀ other, (next.client.transactions other).active = (state.client.transactions other).active := by
    intro other
    by_cases here : other = index
    · rw [here, record]
    · rw [others other here]
  have submissions : ∀ other, (next.client.transactions other).submission =
      (state.client.transactions other).submission := by
    intro other
    by_cases here : other = index
    · rw [here, record]
    · rw [others other here]
  have count : next.client.activeTransactionCount = inUse config next.client := by
    refine Eq.trans ?_ (books.count.trans (tally_congr fun other _ => actives other).symm)
    rw [← marked]
    rfl
  have retold : Retold (state.client.transactions index).submission.id state.trace
      (.told (.submitResult (state.client.transactions index).submission.id status) next.client :: state.trace) :=
    (Retold.refl _ _).tell next.client rfl
  have told := toldOf_cons_told state.trace
    (.submitResult (state.client.transactions index).submission.id status) next.client
  rw [trace]
  refine ⟨count, ?_, ?_, ?_, books.unknown_retell retold own.submitted rfl, ?_, ?_, books.chronicle⟩
  · intro first firstBelow second secondBelow
    rw [actives, actives, submissions, submissions]
    exact books.distinct first firstBelow second secondBelow
  · intro other otherBelow
    rw [actives]
    intro used
    by_cases here : other = index
    · rw [here, record]
      refine ⟨?_, ?_, own.matched, ?_, ?_, ?_, own.aborted, ?_, own.final, ?_⟩
      · exact .tail _ own.submitted
      · exact fun rank bit => .tail _ (own.prepared rank bit)
      · intro none rank kind member
        exact own.undecided none rank kind ((retold.same _ fun _ _ => Event.noConfusion).mp member)
      · intro kind decided rank other member
        exact own.decided kind decided rank other ((retold.same _ fun _ _ => Event.noConfusion).mp member)
      · exact fun commits rank below => .tail _ (own.committed commits rank below)
      · intro fine rank bit
        obtain ⟨message, member, succeeded⟩ := own.completed fine rank bit
        exact ⟨message, .tail _ member, succeeded⟩
      · exact told.trans (congrArg (_ :: ·) untold)
    · rw [others other here]
      refine (books.kept other otherBelow used).retell retold (retold.others _ fun same => here ?_)
      exact books.distinct other otherBelow index below used active same
  · intro submission continued member unused
    have earlier := (retold.same _ fun _ _ => Event.noConfusion).mp member
    have apart : submission.id ≠ (state.client.transactions index).submission.id := by
      intro same
      refine unused index below ((actives index).trans active) ?_
      rw [submissions]
      exact same.symm
    rw [retold.others _ apart]
    refine books.gone submission continued earlier fun other otherBelow used => ?_
    have still := unused other otherBelow ((actives other).trans used)
    rwa [submissions] at still
  · intro submission continued member
    rw [last]
    exact books.bounded submission continued ((retold.same _ fun _ _ => Event.noConfusion).mp member)
  · exact ⟨count, fun _ absurdity => absurd absurdity nofun⟩

theorem Books.release_count :
    (release state index).client.activeTransactionCount = inUse config (release state index).client := by
  have fewer : inUse config state.client = inUse config (release state index).client + 1 := by
    refine tally_lose below active ?_ fun other _ apart => ?_
    · change ((state.editTransaction index Transaction.cleared).client.transactions index).active = false
      rw [editTransaction_same]
      rfl
    · change ((state.editTransaction index Transaction.cleared).client.transactions other).active = _
      rw [editTransaction_other state _ apart]
  have bound : inUse config state.client ≤ config.transactionCapacity := tally_le _ _
  have small : inUse config (release state index).client + 1 < 2 ^ 32 :=
    fewer ▸ Nat.lt_of_le_of_lt bound config.transactionCapacity_lt
  change BatchEngine.subU32 state.client.activeTransactionCount 1 = _
  rw [books.count, fewer, BatchEngine.subU32_one small]

/-- A transaction is released when both callbacks have been made. -/
theorem Books.close {next : List Event}
    (retold : Retold (state.client.transactions index).submission.id state.trace next)
    (told : toldOf next (state.client.transactions index).submission.id = toldAll)
    (chronicle : Chronicle config next) : Books config { release state index with trace := next } := by
  have own := books.kept index below active
  unfold release
  generalize marked : state.editTransaction index Transaction.cleared = cleared
  have last : cleared.client.lastSubmissionId = state.client.lastSubmissionId := by rw [← marked]; rfl
  have record : cleared.client.transactions index = (state.client.transactions index).cleared := by
    rw [← marked, editTransaction_same]
  have others : ∀ other, other ≠ index → cleared.client.transactions other = state.client.transactions other := by
    intro other apart
    rw [← marked, editTransaction_other state _ apart]
  have alive : ∀ other, (cleared.client.transactions other).active = true → other ≠ index := by
    rintro other used rfl
    rw [record] at used
    cases used
  refine ⟨?_, ?_, ?_, ?_, books.unknown_retell retold own.submitted rfl, ?_, chronicle⟩ <;> dsimp only
  · have count := books.release_count below active
    unfold release at count
    rw [marked] at count
    exact count
  · intro first firstBelow second secondBelow firstUsed secondUsed
    have firstApart := alive first firstUsed
    have secondApart := alive second secondUsed
    rw [others first firstApart] at firstUsed ⊢
    rw [others second secondApart] at secondUsed ⊢
    exact books.distinct first firstBelow second secondBelow firstUsed secondUsed
  · intro other otherBelow used
    have apart := alive other used
    rw [others other apart] at used ⊢
    refine (books.kept other otherBelow used).retell retold (retold.others _ fun same => apart ?_)
    exact books.distinct other otherBelow index below used active same
  · intro submission continued member unused
    by_cases about : submission.id = (state.client.transactions index).submission.id
    · rw [about]
      exact told
    · rw [retold.others _ about]
      refine books.gone submission continued ((retold.same _ fun _ _ => Event.noConfusion).mp member) ?_
      intro other otherBelow used
      by_cases here : other = index
      · rw [here]
        exact fun same => about same.symm
      · have still := unused other otherBelow
        rw [others other here] at still
        exact still used
  · intro submission continued member
    rw [last]
    exact books.bounded submission continued ((retold.same _ fun _ _ => Event.noConfusion).mp member)

/-- The decision on a transaction, sent to one rank. -/
theorem Books.noteDecision {kind : DecisionKind}
    (decided : (state.client.transactions index).decisionKind = some kind) (rank : Nat) :
    Books config (state.note (.decision rank (state.client.transactions index).submission.id kind)) := by
  have own := books.kept index below active
  have submitted : ∀ submission continued, .submitted submission continued ∈ (state.note
      (.decision rank (state.client.transactions index).submission.id kind)).trace →
        .submitted submission continued ∈ state.trace := by
    intro submission continued member
    rcases List.mem_cons.mp member with absurdity | earlier
    · exact absurd absurdity nofun
    · exact earlier
  refine ⟨books.count, books.distinct, ?_, ?_, ?_, ?_, ⟨own.committed.comp ?_, own.decided kind decided⟩,
    books.chronicle⟩
  · intro other otherBelow used
    have kept := books.kept other otherBelow used
    refine ⟨?_, ?_, kept.matched, ?_, ?_, ?_, kept.aborted, ?_, kept.final, kept.told⟩
    · exact .tail _ kept.submitted
    · exact fun rank bit => .tail _ (kept.prepared rank bit)
    · intro none sentTo sent member
      rcases List.mem_cons.mp member with here | earlier
      · injection here with _ same _
        have here := books.distinct other otherBelow index below used active same
        have taken : (state.client.transactions other).decisionKind = some kind := here ▸ decided
        exact absurd (taken.symm.trans none) (Option.some_ne_none kind)
      · exact kept.undecided none sentTo sent earlier
    · intro taken takes sentTo sent member
      rcases List.mem_cons.mp member with here | earlier
      · injection here with _ same sentKind
        have here := books.distinct other otherBelow index below used active same
        have taken : (state.client.transactions other).decisionKind = some kind := here ▸ decided
        exact sentKind.trans (Option.some.inj (taken.symm.trans takes))
      · exact kept.decided taken takes sentTo sent earlier
    · exact fun commits rank below => .tail _ (kept.committed commits rank below)
    · intro fine rank bit
      obtain ⟨message, member, succeeded⟩ := kept.completed fine rank bit
      exact ⟨message, .tail _ member, succeeded⟩
  · exact fun submission continued member => books.gone submission continued (submitted submission continued member)
  · intro submissionId unsubmitted
    obtain ⟨untold, undecided⟩ := books.unknown submissionId fun submission continued member =>
      unsubmitted submission continued (.tail _ member)
    refine ⟨untold, fun sentTo sent member => ?_⟩
    rcases List.mem_cons.mp member with here | earlier
    · injection here with _ same _
      exact unsubmitted _ _ (.tail _ own.submitted) same.symm
    · exact undecided sentTo sent earlier
  · exact fun submission continued member => books.bounded submission continued (submitted submission continued member)
  · rintro rfl
    exact decided

end

/-- A transaction that no rank has answered yet. -/
structure Fresh (transaction : Transaction) : Prop where
  active : transaction.active = true
  unreported : transaction.resultReported = false
  unprepared : transaction.preparedMask = 0
  unrefused : transaction.status = .known .ok → transaction.resultMask = 0
  undecided : transaction.decisionKind = none
  uncompleted : transaction.completionMask = 0

/-- A transaction is started in a place that was not in use. -/
theorem Books.start (books : Books config state) (below : index < config.transactionCapacity)
    (unused : (state.client.transactions index).active = false) {next : State} {transaction : Transaction}
    (fresh : Fresh transaction) (later : state.client.lastSubmissionId < transaction.submission.id)
    (transactions : next.client.transactions = update state.client.transactions index transaction)
    (count : next.client.activeTransactionCount = state.client.activeTransactionCount + 1)
    (last : next.client.lastSubmissionId = transaction.submission.id)
    (trace : next.trace = .submitted transaction.submission transaction.continued :: state.trace) :
    Books config next := by
  have record : next.client.transactions index = transaction := by rw [transactions, update_self]
  have others : ∀ other, other ≠ index → next.client.transactions other = state.client.transactions other := by
    intro other apart
    rw [transactions, update_of_ne apart]
  have told : ∀ submissionId, toldOf next.trace submissionId = toldOf state.trace submissionId := by
    intro submissionId
    rw [trace]
    rfl
  have decisions : ∀ rank submissionId kind, .decision rank submissionId kind ∈ next.trace →
      .decision rank submissionId kind ∈ state.trace := by
    intro rank submissionId kind member
    rw [trace] at member
    rcases List.mem_cons.mp member with absurdity | earlier
    · exact absurd absurdity nofun
    · exact earlier
  have grown : ∀ event, event ∈ state.trace → event ∈ next.trace := by
    intro event member
    rw [trace]
    exact .tail _ member
  obtain ⟨untold, undecided⟩ := books.unknown transaction.submission.id fun submission continued member same =>
    Nat.not_lt_of_le (books.bounded submission continued member) (same ▸ later)
  have zero : ∀ rank, (0 : RankMask).getLsbD rank ≠ true := by
    intro rank
    rw [BitVec.ofNat_eq_ofNat, BitVec.getLsbD_zero]
    exact nofun
  refine ⟨?_, ?_, ?_, ?_, ?_, ?_, ?_⟩
  · have more : inUse config next.client = inUse config state.client + 1 := by
      refine tally_gain below unused ?_ fun other _ apart => by rw [others other apart]
      rw [record]
      exact fresh.active
    rw [count, more, books.count]
  · intro first firstBelow second secondBelow firstUsed secondUsed same
    have older : ∀ other < config.transactionCapacity, other ≠ index →
        (next.client.transactions other).active = true →
          (next.client.transactions other).submission.id ≠ transaction.submission.id := by
      intro other otherBelow apart used
      rw [others other apart] at used ⊢
      exact Nat.ne_of_lt (Nat.lt_of_le_of_lt
        (books.bounded _ _ (books.kept other otherBelow used).submitted) later)
    by_cases firstHere : first = index
    · by_cases secondHere : second = index
      · exact firstHere.trans secondHere.symm
      · rw [firstHere, record] at same
        exact absurd same.symm (older second secondBelow secondHere secondUsed)
    · by_cases secondHere : second = index
      · rw [secondHere, record] at same
        exact absurd same (older first firstBelow firstHere firstUsed)
      · rw [others first firstHere] at firstUsed same
        rw [others second secondHere] at secondUsed same
        exact books.distinct first firstBelow second secondBelow firstUsed secondUsed same
  · intro other otherBelow used
    by_cases here : other = index
    · rw [here, record]
      refine ⟨?_, ?_, ?_, ?_, ?_, ?_, ?_, ?_, ?_, ?_⟩
      · rw [trace]
        exact .head _
      · rw [fresh.unprepared]
        exact fun rank bit => absurd bit (zero rank)
      · intro fine rank
        rw [fresh.unrefused fine]
        exact fun bit => absurd bit (zero rank)
      · exact fun _ rank kind member => undecided rank kind (decisions _ _ _ member)
      · exact fun kind decided => absurd (fresh.undecided.symm.trans decided) (Option.some_ne_none kind).symm
      · exact fun decided => absurd (fresh.undecided.symm.trans decided) (Option.some_ne_none _).symm
      · exact fun decided => absurd (fresh.undecided.symm.trans decided) (Option.some_ne_none _).symm
      · rw [fresh.uncompleted]
        exact fun _ rank bit => absurd bit (zero rank)
      · rw [fresh.uncompleted]
        exact fun _ bit => absurd bit (zero _)
      · rw [told, untold, fresh.unreported]
        rfl
    · rw [others other here] at used ⊢
      have kept := books.kept other otherBelow used
      refine ⟨grown _ kept.submitted, fun rank bit => grown _ (kept.prepared rank bit), kept.matched, ?_, ?_, ?_,
        kept.aborted, ?_, kept.final, (told _).trans kept.told⟩
      · exact fun none rank kind member => kept.undecided none rank kind (decisions _ _ _ member)
      · exact fun kind decided rank sent member => kept.decided kind decided rank sent (decisions _ _ _ member)
      · exact fun commits rank below => grown _ (kept.committed commits rank below)
      · intro fine rank bit
        obtain ⟨message, member, succeeded⟩ := kept.completed fine rank bit
        exact ⟨message, grown _ member, succeeded⟩
  · intro submission continued member free
    rw [trace] at member
    rcases List.mem_cons.mp member with here | earlier
    · injection here with same _
      have own := free index below
      rw [record] at own
      exact absurd (congrArg Submission.id same.symm) (own fresh.active)
    · rw [told]
      refine books.gone submission continued earlier fun other otherBelow used => ?_
      by_cases here : other = index
      · rw [here, unused] at used
        cases used
      · have still := free other otherBelow
        rw [others other here] at still
        exact still used
  · intro submissionId unsubmitted
    obtain ⟨silent, unsent⟩ := books.unknown submissionId fun submission continued member =>
      unsubmitted submission continued (grown _ member)
    exact ⟨(told _).trans silent, fun rank kind member => unsent rank kind (decisions _ _ _ member)⟩
  · intro submission continued member
    rw [trace] at member
    rw [last]
    rcases List.mem_cons.mp member with here | earlier
    · injection here with same _
      rw [same]
    · exact Nat.le_of_lt (Nat.lt_of_le_of_lt (books.bounded submission continued earlier) later)
  · rw [trace]
    exact ⟨trivial, books.chronicle⟩

end Telling

end Sparkpipe.PipelineClient
