import Sparkpipe.Transaction.Controller
import Sparkpipe.Transaction.Calls

/-!
# How a new transaction goes

While a transaction is under way it holds some credits, and its entry in the ledger has the
state that the code has got to, so every transition it asks for is legal. In the end it is
rolled back, with the controller as it was but for the entry, or committed, with one event
more in the queue; where the queue is not ready, it would be stranded between the two.
-/

namespace Sparkpipe.WorkTransaction

open Function

/-- The participant that a callback prepares. -/
def Callback.prepares : Callback → Option Nat
  | .prepare participant => some participant
  | _ => none

/-- The participant that a callback commits. -/
def Callback.commits : Callback → Option Nat
  | .commit participant => some participant
  | _ => none

/-- The participant that a callback cancels. -/
def Callback.cancels : Callback → Option Nat
  | .cancel participant _ => some participant
  | _ => none

/-- Every participant commits once, and none cancels. -/
structure CommitsAll (count : Nat) (callbacks : List Callback) : Prop where
  commits : callbacks.filterMap Callback.commits = List.range count
  cancels : callbacks.filterMap Callback.cancels = []

/-- No participant commits; the ones whose preparation returned `OK` cancel, in reverse order. -/
structure CancelsPrepared (outcomes : Outcomes) (callbacks : List Callback) : Prop where
  commits : callbacks.filterMap Callback.commits = []
  cancels : callbacks.filterMap Callback.cancels =
    ((callbacks.filterMap Callback.prepares).filter fun participant =>
      outcomes.prepare participant = .ok).reverse

section Loops

variable {callback : Nat → Callback} {outcome : Nat → SparkStatus} {participants : List Nat}

/-- The participants that a loop calls: those that succeed come first, and all of them do when the
loop succeeds. -/
theorem invokeEach_called (callback : Nat → Callback) (outcome : Nat → SparkStatus) (participants : List Nat) :
    ∃ called, (invokeEach callback outcome participants).2.1 = called.map callback ∧
      (called.filter fun participant => outcome participant = .ok) =
        participants.take (invokeEach callback outcome participants).2.2 ∧
      (invokeEach callback outcome participants).2.2 ≤ participants.length ∧
      ((invokeEach callback outcome participants).1 = .ok → called = participants ∧
        (invokeEach callback outcome participants).2.2 = participants.length) := by
  induction participants with
  | nil => exact ⟨[], rfl, rfl, Nat.le_refl _, fun _ => ⟨rfl, rfl⟩⟩
  | cons first rest ih =>
    unfold invokeEach
    split
    · rename_i failed
      refine ⟨[first], rfl, ?_, Nat.zero_le _, fun succeeded => absurd succeeded failed⟩
      rw [List.filter_cons_of_neg (by simpa using failed)]
      rfl
    · rename_i passed
      obtain ⟨called, made, prepared, most, all⟩ := ih
      refine ⟨first :: called, ?_, ?_, ?_, fun succeeded => ?_⟩
      · dsimp only
        rw [made, List.map_cons]
      · rw [List.filter_cons_of_pos (by simpa using passed), prepared]
        rfl
      · dsimp only
        rw [List.length_cons]
        omega
      · obtain ⟨same, count⟩ := all succeeded
        dsimp only
        rw [same, count, List.length_cons]
        exact ⟨rfl, rfl⟩

theorem filterMap_none {test : Callback → Option Nat} (never : ∀ participant, test (callback participant) = none) :
    (participants.map callback).filterMap test = [] := by
  rw [List.filterMap_map, List.filterMap_eq_nil_iff]
  exact fun participant _ => never participant

theorem filterMap_all {test : Callback → Option Nat}
    (always : ∀ participant, test (callback participant) = some participant) :
    (participants.map callback).filterMap test = participants := by
  rw [List.filterMap_map]
  have same : test ∘ callback = some := funext always
  rw [same, List.filterMap_some]

end Loops

namespace Attempt

variable {base : Controller} {attempt : Attempt} {state target : State} {domain : CreditDomain}
  {outcomes : Outcomes} {status : SparkStatus}

/-- A transaction under way: its entry has this state, and the credits it holds are in use besides
those that were before. -/
structure Open (base : Controller) (state : State) (attempt : Attempt) : Prop where
  participants : attempt.controller.participants = base.participants
  queue : attempt.controller.finalEventQueue = base.finalEventQueue
  capacity : attempt.controller.creditLedger.capacity = base.creditLedger.capacity
  credits : ∀ domain, attempt.controller.creditLedger.inUse domain =
    base.creditLedger.inUse domain + (attempt.held domain).toNat
  sound : attempt.controller.transactionLedger.Sound
  entry : ∃ entry, attempt.controller.transactionLedger.lookup attempt.request.identity = some entry ∧
    entry.state = state
  others : ∀ other, other ≠ attempt.request.identity →
    attempt.controller.transactionLedger.lookup other = base.transactionLedger.lookup other
  generation : attempt.controller.transactionLedger.activeControlGeneration =
    base.transactionLedger.activeControlGeneration

/-- The callbacks so far: nothing is decided, and this many participants have prepared. -/
structure Undecided (outcomes : Outcomes) (attempt : Attempt) : Prop where
  commits : attempt.callbacks.filterMap Callback.commits = []
  cancels : attempt.callbacks.filterMap Callback.cancels = []
  prepared : ((attempt.callbacks.filterMap Callback.prepares).filter fun participant =>
    outcomes.prepare participant = .ok) = List.range attempt.preparedParticipantCount

/-- What a transaction leaves in either case. -/
structure Closed (base : Controller) (request : TransactionRequest) (after : Controller) : Prop where
  participants : after.participants = base.participants
  capacity : after.creditLedger.capacity = base.creditLedger.capacity
  sound : after.transactionLedger.Sound
  entry : ∃ entry, after.transactionLedger.lookup request.identity = some entry ∧ entry.state.isTerminal = true
  others : ∀ other, other ≠ request.identity →
    after.transactionLedger.lookup other = base.transactionLedger.lookup other
  generation : after.transactionLedger.activeControlGeneration =
    base.transactionLedger.activeControlGeneration

/-- A transaction that has failed leaves no trace but its entry. -/
structure RolledBack (base : Controller) (request : TransactionRequest) (outcomes : Outcomes) (ran : Ran) :
    Prop where
  closed : Closed base request ran.controller
  queue : ran.controller.finalEventQueue = base.finalEventQueue
  credits : ∀ domain, ran.controller.creditLedger.inUse domain = base.creditLedger.inUse domain
  callbacks : CancelsPrepared outcomes ran.callbacks

/-- A transaction that has committed leaves an event, for which it keeps a credit. -/
structure Committed (base : Controller) (request : TransactionRequest) (ran : Ran) : Prop where
  closed : Closed base request ran.controller
  status : ran.status = .ok
  queue : ∃ index payloadFingerprint, base.finalEventQueue.findReusableFinalEvent = some index ∧
    ran.controller.finalEventQueue = base.finalEventQueue.enqueue index
      (base.finalEventQueue.finalEvent request payloadFingerprint .ok)
  credits : ∀ domain, ran.controller.creditLedger.inUse domain =
    base.creditLedger.inUse domain + if domain = .completionOwnership then 1 else 0
  callbacks : CommitsAll base.participants.length ran.callbacks

/-- The queue takes another event. -/
structure Ready (queue : FinalEventQueue) : Prop where
  valid : queue.isValid = true
  room : queue.pendingCount < queue.capacity
  reusable : ∃ index, queue.findReusableFinalEvent = some index

/-- A transaction that has committed, with no place for its event. -/
structure Stranded (base : Controller) (request : TransactionRequest) (ran : Ran) : Prop where
  closed : Closed base request ran.controller
  queue : ran.controller.finalEventQueue = base.finalEventQueue
  unready : ¬ Ready base.finalEventQueue

/-- How a transaction ends once it has its credits. -/
def Settled (base : Controller) (request : TransactionRequest) (outcomes : Outcomes) (ran : Ran) : Prop :=
  RolledBack base request outcomes ran ∨ Committed base request ran ∨ Stranded base request ran

section Steps

theorem Open.acquire (opened : attempt.Open base state) (free : attempt.held domain = false) :
    (attempt.acquire domain).1 ≠ .ok ∧ (attempt.acquire domain).2 = attempt ∨
    (attempt.acquire domain).1 = .ok ∧ (attempt.acquire domain).2.Open base state ∧
      (attempt.acquire domain).2.held = update attempt.held domain true ∧
      (attempt.acquire domain).2.request = attempt.request ∧
      (attempt.acquire domain).2.callbacks = attempt.callbacks ∧
      (attempt.acquire domain).2.preparedParticipantCount = attempt.preparedParticipantCount ∧
      (attempt.acquire domain).2.result = attempt.result ∧
      base.creditLedger.inUse domain < base.creditLedger.capacity domain := by
  unfold Attempt.acquire CreditLedger.acquireCredit
  by_cases exhausted : attempt.controller.creditLedger.capacity domain < attempt.controller.creditLedger.inUse domain ∨
      attempt.controller.creditLedger.capacity domain - attempt.controller.creditLedger.inUse domain < 1
  · rw [if_pos exhausted]
    refine .inl ⟨?_, rfl⟩
    exact nofun
  · rw [if_neg exhausted]
    have room : base.creditLedger.inUse domain < base.creditLedger.capacity domain := by
      have before := opened.credits domain
      rw [free] at before
      rw [opened.capacity, before] at exhausted
      simp only [Bool.toNat_false] at exhausted
      omega
    refine .inr ⟨rfl, { opened with credits := fun other => ?_ }, rfl, rfl, rfl, rfl, rfl, room⟩
    change update attempt.controller.creditLedger.inUse domain _ other =
      base.creditLedger.inUse other + (update attempt.held domain true other).toNat
    by_cases here : other = domain
    · subst here
      rw [update_self, update_self, opened.credits, free]
      rfl
    · rw [update_of_ne here, update_of_ne here]
      exact opened.credits other

theorem Open.release (opened : attempt.Open base state) (domain : CreditDomain) :
    (attempt.release domain).Open base state ∧
      (attempt.release domain).held = update attempt.held domain false ∧
      (attempt.release domain).callbacks = attempt.callbacks ∧
      (attempt.release domain).request = attempt.request := by
  unfold Attempt.release
  by_cases held : attempt.held domain = true
  · rw [if_pos held]
    have inUse := opened.credits domain
    rw [held] at inUse
    have releases : attempt.controller.creditLedger.releaseCredit domain = (.ok,
        { attempt.controller.creditLedger with
          inUse := update attempt.controller.creditLedger.inUse domain
            (attempt.controller.creditLedger.inUse domain - 1) }) := by
      apply if_neg
      rw [inUse, Bool.toNat_true]
      omega
    rw [releases]
    refine ⟨{ opened with credits := fun other => ?_ }, rfl, rfl, rfl⟩
    change update attempt.controller.creditLedger.inUse domain _ other =
      base.creditLedger.inUse other + (update attempt.held domain false other).toNat
    by_cases here : other = domain
    · subst here
      rw [update_self, update_self, inUse]
      rfl
    · rw [update_of_ne here, update_of_ne here]
      exact opened.credits other
  · rw [if_neg held]
    refine ⟨opened, ?_, rfl, rfl⟩
    rw [← Bool.eq_false_iff.mpr held, update_eq_self]

/-- A legal transition succeeds. -/
theorem Open.move (opened : attempt.Open base state) (active : state.isActive = true)
    (legal : state.transitionIsLegal target = true) (terminalStatus : SparkStatus) :
    (attempt.move target terminalStatus).1 = .ok ∧ (attempt.move target terminalStatus).2.Open base target ∧
      (attempt.move target terminalStatus).2.held = attempt.held ∧
      (attempt.move target terminalStatus).2.callbacks = attempt.callbacks ∧
      (attempt.move target terminalStatus).2.request = attempt.request ∧
      (attempt.move target terminalStatus).2.preparedParticipantCount = attempt.preparedParticipantCount := by
  obtain ⟨entry, found, rfl⟩ := opened.entry
  have succeeds := opened.sound.transition_ok found active legal terminalStatus
  obtain ⟨moved, ⟨refused, -⟩ | ⟨-, other, isFound, -, -, map, -⟩⟩ :=
    opened.sound.transition attempt.request.identity target terminalStatus
  · exact absurd succeeds refused
  · rw [found] at isFound
    cases isFound
    refine ⟨succeeds, {
      participants := opened.participants
      queue := opened.queue
      capacity := opened.capacity
      credits := opened.credits
      sound := moved
      entry := ⟨_, (congrFun map _).trans (update_self ..), rfl⟩
      others := fun other different => ?_
      generation := (Ledger.transition_generation ..).trans opened.generation }, rfl, rfl, rfl, rfl⟩
    exact ((congrFun map other).trans (update_of_ne different ..)).trans (opened.others other different)

end Steps

section Ends

/-- A failed transaction is rolled back. -/
theorem Open.fail (opened : attempt.Open base state) (undecided : attempt.Undecided outcomes)
    (active : state.isActive = true) (legal : state.transitionIsLegal target = true)
    (terminal : target.isTerminal = true) (status : SparkStatus) :
    RolledBack base attempt.request outcomes (attempt.fail target status) := by
  have cancelled : (attempt.cancelPrepared status).Open base state := { opened with }
  obtain ⟨-, moved, -, movedCallbacks, movedRequest, -⟩ := cancelled.move active legal status
  obtain ⟨first, firstHeld, firstCallbacks, firstRequest⟩ := moved.release .execution
  obtain ⟨second, secondHeld, secondCallbacks, secondRequest⟩ := first.release .completionOwnership
  obtain ⟨third, thirdHeld, thirdCallbacks, thirdRequest⟩ := second.release .residentReservation
  obtain ⟨last, lastHeld, lastCallbacks, lastRequest⟩ := third.release .transportWindow
  have request := lastRequest.trans (thirdRequest.trans (secondRequest.trans (firstRequest.trans movedRequest)))
  have callbacks := lastCallbacks.trans (thirdCallbacks.trans (secondCallbacks.trans
    (firstCallbacks.trans movedCallbacks)))
  rw [thirdHeld, secondHeld, firstHeld] at lastHeld
  unfold Attempt.fail
  dsimp only
  generalize (((((attempt.cancelPrepared status).move target status).2.release .execution).release
    .completionOwnership).release .residentReservation).release .transportWindow = released
    at last lastHeld request callbacks ⊢
  have none : ∀ domain, released.held domain = false := by
    intro domain
    rw [lastHeld]
    cases domain <;> rfl
  refine ⟨{
    participants := last.participants
    capacity := last.capacity
    sound := last.sound
    entry := ?_
    others := fun other different => last.others other (by rw [request]; exact different)
    generation := last.generation }, last.queue, fun domain => ?_, ?_, ?_⟩
  · obtain ⟨entry, found, rfl⟩ := last.entry
    rw [request] at found
    exact ⟨entry, found, terminal⟩
  · have credits := last.credits domain
    rw [none domain] at credits
    exact credits
  · change released.callbacks.filterMap Callback.commits = []
    rw [callbacks]
    change (attempt.callbacks ++ _).filterMap Callback.commits = []
    rw [List.filterMap_append, undecided.commits, filterMap_none fun _ => rfl]
    rfl
  · change released.callbacks.filterMap Callback.cancels = _
    change _ = ((released.callbacks.filterMap Callback.prepares).filter _).reverse
    rw [callbacks]
    change (attempt.callbacks ++ _).filterMap Callback.cancels =
      (((attempt.callbacks ++ _).filterMap Callback.prepares).filter _).reverse
    rw [List.filterMap_append, List.filterMap_append, undecided.cancels, filterMap_all fun _ => rfl,
      filterMap_none fun _ => rfl, List.append_nil, undecided.prepared]
    rfl

/-- What is left when a committed transaction has released its credits. -/
theorem Open.releaseAfterCommit (opened : attempt.Open base .committed) (held : ∀ domain, attempt.held domain = true) :
    Closed base attempt.request attempt.releaseAfterCommit.controller ∧
      attempt.releaseAfterCommit.controller.finalEventQueue = base.finalEventQueue ∧
      (∀ domain, attempt.releaseAfterCommit.controller.creditLedger.inUse domain =
        base.creditLedger.inUse domain + if domain = .completionOwnership then 1 else 0) ∧
      attempt.releaseAfterCommit.callbacks = attempt.callbacks := by
  obtain ⟨first, firstHeld, firstCallbacks, firstRequest⟩ := opened.release .execution
  obtain ⟨second, secondHeld, secondCallbacks, secondRequest⟩ := first.release .residentReservation
  obtain ⟨last, lastHeld, lastCallbacks, lastRequest⟩ := second.release .transportWindow
  rw [secondHeld, firstHeld] at lastHeld
  have request := lastRequest.trans (secondRequest.trans firstRequest)
  have callbacks := lastCallbacks.trans (secondCallbacks.trans firstCallbacks)
  unfold Attempt.releaseAfterCommit
  generalize ((attempt.release .execution).release .residentReservation).release .transportWindow = released
    at last lastHeld request callbacks ⊢
  have kept : ∀ domain, released.held domain = decide (domain = .completionOwnership) := by
    intro domain
    rw [lastHeld]
    cases domain with
    | completionOwnership => exact held .completionOwnership
    | transportWindow | residentReservation | execution => rfl
  refine ⟨{
    participants := last.participants
    capacity := last.capacity
    sound := last.sound
    entry := ?_
    others := fun other different => last.others other (by rw [request]; exact different)
    generation := last.generation }, last.queue, fun domain => ?_, callbacks⟩
  · obtain ⟨entry, found, isCommitted⟩ := last.entry
    rw [request] at found
    exact ⟨entry, found, by rw [isCommitted]; rfl⟩
  · have credits := last.credits domain
    rw [kept domain] at credits
    exact credits.trans (by cases domain <;> rfl)

end Ends

section Enqueueing

variable {queue : FinalEventQueue} {request : TransactionRequest} {payloadFingerprint : UInt64}

/-- A ready queue takes the event. -/
theorem Ready.enqueues (ready : Ready queue) (request : TransactionRequest) (fingerprint : payloadFingerprint ≠ 0) :
    ∃ index, queue.findReusableFinalEvent = some index ∧
      queue.enqueueFinalEvent request payloadFingerprint .ok =
        (.ok, queue.enqueue index (queue.finalEvent request payloadFingerprint .ok), queue.nextEventGeneration) := by
  obtain ⟨index, reusable⟩ := ready.reusable
  refine ⟨index, reusable, ?_⟩
  unfold FinalEventQueue.enqueueFinalEvent
  rw [if_neg, reusable]
  rintro (invalid | zero | full)
  · rw [ready.valid] at invalid
    cases invalid
  · exact fingerprint zero
  · exact absurd ready.room (Nat.not_lt.mpr full)

/-- A queue that is not ready refuses it. -/
theorem enqueue_refused (unready : ¬ Ready queue) :
    queue.enqueueFinalEvent request payloadFingerprint .ok = (.capacityExceeded, queue, 0) := by
  unfold FinalEventQueue.enqueueFinalEvent
  split
  · rfl
  · rename_i accepts
    split
    · rfl
    · rename_i index found
      simp only [not_or, Bool.not_eq_false, Nat.not_le] at accepts
      exact absurd ⟨accepts.1, accepts.2.2, index, found⟩ unready

/-- A transaction that everybody has executed commits. -/
theorem Open.commitAll (opened : attempt.Open base .executing) (undecided : attempt.Undecided outcomes)
    (held : ∀ domain, attempt.held domain = true) (fingerprint : attempt.result.payloadFingerprint ≠ 0) :
    Committed base attempt.request attempt.commitAll ∨ Stranded base attempt.request attempt.commitAll := by
  have called : ({ attempt with
      callbacks := attempt.callbacks ++ attempt.indices.map Callback.commit
      result := { attempt.result with
        committedParticipantCount :=
          attempt.result.committedParticipantCount + attempt.indices.length } } : Attempt).Open base .executing :=
    { opened with }
  have commits : CommitsAll base.participants.length
      (attempt.callbacks ++ attempt.indices.map Callback.commit) := by
    have indices : attempt.indices = List.range base.participants.length :=
      congrArg (fun participants : List Participant => List.range participants.length) opened.participants
    rw [indices]
    constructor
    · rw [List.filterMap_append, undecided.commits, filterMap_all fun _ => rfl, List.nil_append]
    · rw [List.filterMap_append, undecided.cancels, filterMap_none fun _ => rfl, List.nil_append]
  have legal : State.transitionIsLegal .executing .committed = true := rfl
  obtain ⟨succeeds, moved, movedHeld, movedCallbacks, movedRequest, -⟩ := called.move rfl legal .ok
  unfold Attempt.commitAll
  dsimp only
  rw [if_neg (not_not.mpr succeeds), moved.queue]
  generalize (Attempt.move _ _ _).2 = committed at moved movedHeld movedCallbacks movedRequest ⊢
  have heldAll : ∀ domain, committed.held domain = true := fun domain => (congrFun movedHeld domain).trans (held domain)
  -- only the queue and the result change before the credits are released
  have left : ∀ (queue : FinalEventQueue) (result : TransactionResult), ({ committed with
      controller := { committed.controller with finalEventQueue := queue }
      result := result } : Attempt).Open { base with finalEventQueue := queue } .committed :=
    fun queue result => { moved with queue := rfl }
  have made : committed.callbacks = attempt.callbacks ++ attempt.indices.map Callback.commit := movedCallbacks
  rw [← made] at commits
  have request : committed.request = attempt.request := movedRequest
  rw [← request]
  by_cases ready : Ready base.finalEventQueue
  · obtain ⟨index, reusable, enqueues⟩ := ready.enqueues committed.request fingerprint
    rw [enqueues]
    obtain ⟨closed, queue, credits, callbacks⟩ := (left (base.finalEventQueue.enqueue index
      (base.finalEventQueue.finalEvent committed.request attempt.result.payloadFingerprint .ok))
      { committed.result with finalEventGeneration := base.finalEventQueue.nextEventGeneration }).releaseAfterCommit
        heldAll
    refine .inl ⟨{ closed with }, rfl, ⟨index, _, reusable, queue⟩, credits, ?_⟩
    rw [← callbacks] at commits
    exact commits
  · rw [enqueue_refused ready]
    obtain ⟨closed, queue, -, -⟩ := (left base.finalEventQueue
      { committed.result with finalEventGeneration := 0 }).releaseAfterCommit heldAll
    exact .inr ⟨{ closed with }, queue, ready⟩

end Enqueueing

section Course

/-- Callbacks that neither prepare, commit nor cancel decide nothing. -/
theorem Undecided.append (undecided : attempt.Undecided outcomes) (participants : List Nat) :
    ({ attempt with callbacks := attempt.callbacks ++ participants.map Callback.execute } : Attempt).Undecided
      outcomes where
  commits := by
    rw [List.filterMap_append, undecided.commits, filterMap_none fun _ => rfl, List.nil_append]
  cancels := by
    rw [List.filterMap_append, undecided.cancels, filterMap_none fun _ => rfl, List.nil_append]
  prepared := by
    have none : (participants.map Callback.execute).filterMap Callback.prepares = [] := filterMap_none fun _ => rfl
    rw [List.filterMap_append, none, List.append_nil]
    exact undecided.prepared

theorem Undecided.of_same {other : Attempt} (undecided : attempt.Undecided outcomes)
    (callbacks : other.callbacks = attempt.callbacks)
    (prepared : other.preparedParticipantCount = attempt.preparedParticipantCount) : other.Undecided outcomes := by
  refine ⟨?_, ?_, ?_⟩
  · rw [callbacks]
    exact undecided.commits
  · rw [callbacks]
    exact undecided.cancels
  · rw [callbacks, prepared]
    exact undecided.prepared

theorem Open.executeAll (opened : attempt.Open base .accepted) (undecided : attempt.Undecided outcomes)
    (held : ∀ domain, attempt.held domain = true)
    (fingerprint : attempt.result.payloadFingerprint ≠ 0) :
    Settled base attempt.request outcomes (attempt.executeAll outcomes) := by
  have legal : State.transitionIsLegal .accepted .executing = true := rfl
  obtain ⟨succeeds, moved, movedHeld, movedCallbacks, movedRequest, movedPrepared⟩ := opened.move rfl legal .pending
  have sameResult : (attempt.move .executing .pending).2.result = attempt.result := rfl
  unfold Attempt.executeAll
  dsimp only
  rw [if_neg (not_not.mpr succeeds)]
  generalize (attempt.move .executing .pending).2 = executing
    at moved movedHeld movedCallbacks movedRequest movedPrepared sameResult ⊢
  obtain ⟨called, made, -, -, -⟩ := invokeEach_called .execute outcomes.execute attempt.indices
  rw [made]
  have still := (undecided.of_same movedCallbacks movedPrepared).append called
  have calling : ({ executing with callbacks := executing.callbacks ++ called.map Callback.execute } : Attempt).Open
      base .executing := { moved with }
  rw [← movedRequest]
  split
  · exact .inl (calling.fail still rfl rfl rfl _)
  · refine .inr (calling.commitAll still ?_ ?_)
    · intro domain
      exact (congrFun movedHeld domain).trans (held domain)
    · rw [sameResult]
      exact fingerprint

theorem Open.acceptAll (opened : attempt.Open base .prepared) (undecided : attempt.Undecided outcomes)
    (free : attempt.held .execution = false)
    (held : ∀ domain, domain ≠ .execution → attempt.held domain = true)
    (fingerprint : attempt.result.payloadFingerprint ≠ 0) :
    Settled base attempt.request outcomes (attempt.acceptAll outcomes) := by
  have legal : State.transitionIsLegal .prepared .accepted = true := rfl
  obtain ⟨succeeds, moved, movedHeld, movedCallbacks, movedRequest, movedPrepared⟩ := opened.move rfl legal .pending
  have sameResult : (attempt.move .accepted .pending).2.result = attempt.result := rfl
  unfold Attempt.acceptAll
  dsimp only
  rw [if_neg (not_not.mpr succeeds)]
  generalize (attempt.move .accepted .pending).2 = accepted
    at moved movedHeld movedCallbacks movedRequest movedPrepared sameResult ⊢
  have still := undecided.of_same movedCallbacks movedPrepared
  rw [← movedRequest]
  obtain ⟨refused, same⟩ | ⟨granted, acquired, acquiredHeld, request, callbacks, prepared, result, -⟩ :=
    moved.acquire ((congrFun movedHeld .execution).trans free)
  · rw [if_pos refused, same]
    exact .inl (moved.fail still rfl rfl rfl _)
  · rw [if_neg (not_not.mpr granted), ← request]
    refine acquired.executeAll (still.of_same callbacks prepared) (fun domain => ?_) ?_
    · rw [acquiredHeld]
      by_cases here : domain = .execution
      · rw [here, update_self]
      · rw [update_of_ne here, movedHeld]
        exact held domain here
    · rw [result, sameResult]
      exact fingerprint

theorem Open.prepareAll (opened : attempt.Open base .prepared) (nothing : attempt.callbacks = [])
    (free : attempt.held .execution = false)
    (held : ∀ domain, domain ≠ .execution → attempt.held domain = true)
    (fingerprint : attempt.result.payloadFingerprint ≠ 0) :
    Settled base attempt.request outcomes (attempt.prepareAll outcomes) := by
  obtain ⟨called, made, prepared, most, -⟩ := invokeEach_called .prepare outcomes.prepare attempt.indices
  have range : attempt.indices.take (invokeEach .prepare outcomes.prepare attempt.indices).2.2 =
      List.range (invokeEach .prepare outcomes.prepare attempt.indices).2.2 := by
    unfold indices at most ⊢
    rw [List.length_range] at most
    rw [List.take_range, Nat.min_eq_left most]
  unfold Attempt.prepareAll
  dsimp only
  rw [nothing, List.nil_append, made]
  have undecided : ({ attempt with
      callbacks := called.map Callback.prepare
      preparedParticipantCount := (invokeEach .prepare outcomes.prepare attempt.indices).2.2 } :
        Attempt).Undecided outcomes := by
    refine ⟨filterMap_none fun _ => rfl, filterMap_none fun _ => rfl, ?_⟩
    rw [filterMap_all fun _ => rfl, prepared, range]
  have calling : ({ attempt with
      callbacks := called.map Callback.prepare
      preparedParticipantCount := (invokeEach .prepare outcomes.prepare attempt.indices).2.2 } :
        Attempt).Open base .prepared := { opened with }
  split
  · exact .inl (calling.fail undecided rfl rfl rfl _)
  · exact calling.acceptAll undecided free held fingerprint

/-- A new transaction is rolled back, or it has a credit for its completion. -/
theorem Open.runNew (opened : attempt.Open base .prepared) (nothing : attempt.callbacks = [])
    (none : attempt.preparedParticipantCount = 0) (free : ∀ domain, attempt.held domain = false)
    (fingerprint : attempt.result.payloadFingerprint ≠ 0) :
    RolledBack base attempt.request outcomes (attempt.runNew outcomes) ∨
      Settled base attempt.request outcomes (attempt.runNew outcomes) ∧
        base.creditLedger.inUse .completionOwnership < base.creditLedger.capacity .completionOwnership := by
  have undecided : attempt.Undecided outcomes := by
    refine ⟨?_, ?_, ?_⟩ <;> rw [nothing]
    · rfl
    · rfl
    · rw [none]
      rfl
  unfold Attempt.runNew
  dsimp only
  obtain ⟨refused, same⟩ | ⟨granted, first, firstHeld, firstRequest, firstCallbacks, firstPrepared, firstResult, -⟩ :=
    opened.acquire (free .transportWindow)
  · rw [if_pos refused, same]
    exact .inl (opened.fail undecided rfl rfl rfl _)
  rw [if_neg (not_not.mpr granted), ← firstRequest]
  generalize (attempt.acquire .transportWindow).2 = transport
    at first firstHeld firstRequest firstCallbacks firstPrepared firstResult ⊢
  have firstUndecided := undecided.of_same firstCallbacks firstPrepared
  have vacant : transport.held .residentReservation = false := by
    rw [firstHeld]
    exact free .residentReservation
  obtain ⟨refused, same⟩ |
    ⟨granted, second, secondHeld, secondRequest, secondCallbacks, secondPrepared, secondResult, -⟩ :=
      first.acquire vacant
  · rw [if_pos refused, same]
    exact .inl (first.fail firstUndecided rfl rfl rfl _)
  rw [if_neg (not_not.mpr granted), ← secondRequest]
  generalize (transport.acquire .residentReservation).2 = reservation
    at second secondHeld secondRequest secondCallbacks secondPrepared secondResult ⊢
  have secondUndecided := firstUndecided.of_same secondCallbacks secondPrepared
  have unowned : reservation.held .completionOwnership = false := by
    rw [secondHeld, firstHeld]
    exact free .completionOwnership
  obtain ⟨refused, same⟩ | ⟨granted, third, thirdHeld, thirdRequest, thirdCallbacks, -, thirdResult, room⟩ :=
    second.acquire unowned
  · rw [if_pos refused, same]
    exact .inl (second.fail secondUndecided rfl rfl rfl _)
  rw [if_neg (not_not.mpr granted), ← thirdRequest]
  refine .inr ⟨third.prepareAll ?_ ?_ (fun domain other => ?_) ?_, room⟩
  · rw [thirdCallbacks, secondCallbacks, firstCallbacks, nothing]
  · rw [thirdHeld, secondHeld, firstHeld]
    exact free .execution
  · rw [thirdHeld, secondHeld, firstHeld]
    cases domain with
    | execution => exact absurd rfl other
    | transportWindow | residentReservation | completionOwnership => rfl
  · rw [thirdResult, secondResult, firstResult]
    exact fingerprint

end Course

end Attempt

end Sparkpipe.WorkTransaction
