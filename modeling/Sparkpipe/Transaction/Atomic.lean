import Sparkpipe.Transaction.Attempts
import Sparkpipe.Transaction.Runs

/-!
# Atomic transactions

Over any run of a controller, a new transaction commits everywhere or nowhere. The credit for
its completion is the argument: between calls the credits for completion count the pending
events, so a transaction that got one finds a place for its event after the commits.
-/

namespace Sparkpipe.WorkTransaction

open Function

/-- A call on a controller. -/
inductive ControllerCall where
  | run (request : TransactionRequest) (outcomes : Outcomes)
  | acknowledge (identity : Identity) (eventGeneration : Nat) (payloadFingerprint : UInt64)

namespace FinalEventQueue

variable {queue : FinalEventQueue} {index : Nat}

/-- The place of a reusable event is in the queue, and nobody waits for what is there. -/
theorem findReusableFinalEvent_some (found : queue.findReusableFinalEvent = some index) :
    index < queue.capacity ∧ (queue.events index).state ≠ .pending := by
  unfold findReusableFinalEvent at found
  rcases Option.or_eq_some_iff.mp found with free | ⟨-, acknowledged⟩
  · have isFree := List.find?_some free
    have state := of_decide_eq_true isFree
    refine ⟨List.mem_range.mp (List.mem_of_find?_eq_some free), ?_⟩
    rw [state]
    exact nofun
  · obtain ⟨member, state, -⟩ := leastRanked_some acknowledged
    refine ⟨List.mem_range.mp member, ?_⟩
    rw [of_decide_eq_true state]
    exact nofun

/-- With a place that is not pending, and generations that have not wrapped, there is a reusable event. -/
theorem findReusableFinalEvent_isSome
    (room : tally queue.capacity (fun index => (queue.events index).state = .pending) < queue.capacity)
    (below : ∀ index, (queue.events index).eventGeneration < 2 ^ 64 - 1) :
    ∃ index, queue.findReusableFinalEvent = some index := by
  rw [← Option.isSome_iff_exists, Option.isSome_iff_ne_none]
  intro nothing
  unfold findReusableFinalEvent at nothing
  obtain ⟨noFree, noAcknowledged⟩ := Option.or_eq_none_iff.mp nothing
  have notAcknowledged := leastRanked_none noAcknowledged fun index _ => below index
  have everywhere : tally queue.capacity (fun index => (queue.events index).state = .pending) = queue.capacity := by
    apply tally_eq_count
    intro index inRange
    have member := List.mem_range.mpr inRange
    have notFree := List.find?_eq_none.mp noFree index member
    have waits := notAcknowledged index member
    cases state : (queue.events index).state with
    | free => exact absurd (decide_eq_true state) notFree
    | pending => rfl
    | acknowledged =>
      rw [state] at waits
      cases waits
  omega

section Counting

/-- The number of pending events. -/
def pendingEvents (queue : FinalEventQueue) : Nat :=
  tally queue.capacity fun index => (queue.events index).state = .pending

theorem enqueue_pendingEvents (event : FinalEvent) (pending : event.state = .pending) (inRange : index < queue.capacity)
    (waits : (queue.events index).state ≠ .pending) :
    (queue.enqueue index event).pendingEvents = queue.pendingEvents + 1 := by
  have count := tally_update queue.events event (fun event => decide (event.state = .pending)) inRange
  rw [decide_eq_false waits, decide_eq_true pending] at count
  exact count

/-- A generation that does not wrap is the next number. -/
theorem enqueue_next {event : FinalEvent}
    (fits : queue.nextEventGeneration ≤ (queue.enqueue index event).nextEventGeneration)
    (positive : 0 < queue.nextEventGeneration) (small : queue.nextEventGeneration < 2 ^ 64) :
    (queue.enqueue index event).nextEventGeneration = queue.nextEventGeneration + 1 ∧
      queue.nextEventGeneration + 1 < 2 ^ 64 := by
  unfold enqueue at fits ⊢
  dsimp only at fits ⊢
  split at fits <;> rename_i wraps
  · omega
  · rw [if_neg wraps]
    omega

/-- An acknowledgement changes nothing but a pending event. -/
theorem acknowledgeFinalEvent_cases (queue : FinalEventQueue) (identity : Identity) (eventGeneration : Nat)
    (payloadFingerprint : UInt64) :
    (queue.acknowledgeFinalEvent identity eventGeneration payloadFingerprint).1 ≠ .ok ∧
        (queue.acknowledgeFinalEvent identity eventGeneration payloadFingerprint).2 = queue ∨
      (queue.acknowledgeFinalEvent identity eventGeneration payloadFingerprint).1 = .ok ∧
        ∃ index < queue.capacity, (queue.events index).state = .pending ∧ 0 < queue.pendingCount ∧
          (queue.acknowledgeFinalEvent identity eventGeneration payloadFingerprint).2 = { queue with
            events := update queue.events index { queue.events index with state := .acknowledged }
            pendingCount := queue.pendingCount - 1 } := by
  unfold acknowledgeFinalEvent
  split
  · exact .inl ⟨nofun, rfl⟩
  · split
    · exact .inl ⟨nofun, rfl⟩
    · rename_i index found
      dsimp only
      split
      · exact .inl ⟨nofun, rfl⟩
      · split
        · exact .inl ⟨nofun, rfl⟩
        · split
          · exact .inl ⟨nofun, rfl⟩
          · rename_i waits
            obtain ⟨pending, positive⟩ := not_or.mp waits
            exact .inr ⟨rfl, index, List.mem_range.mp (List.mem_of_find?_eq_some found), not_not.mp pending,
              Nat.pos_of_ne_zero positive, rfl⟩

end Counting

end FinalEventQueue

namespace Controller

variable {controller before after : Controller} {request : TransactionRequest} {outcomes : Outcomes}

/-- The controller after a call. -/
def perform (controller : Controller) : ControllerCall → Controller
  | .run request outcomes => (controller.runTransaction request outcomes).controller
  | .acknowledge identity eventGeneration payloadFingerprint =>
    (controller.acknowledgeControllerFinalEvent identity eventGeneration payloadFingerprint).2

/-- The counter of the events' generations does not wrap. -/
def GenerationFits (controller : Controller) (call : ControllerCall) : Prop :=
  controller.finalEventQueue.nextEventGeneration ≤ (controller.perform call).finalEventQueue.nextEventGeneration

instance (controller : Controller) (call : ControllerCall) : Decidable (controller.GenerationFits call) :=
  inferInstanceAs (Decidable (_ ≤ _))

/-- The request is for a new transaction. -/
def starts (controller : Controller) (request : TransactionRequest) : Bool :=
  (controller.validateTransactionRequest request).1 = .ok &&
    (controller.transactionLedger.observe request.identity
      (controller.validateTransactionRequest request).2).observation = some .new

/-- No credit is in use but one for each pending event. -/
structure Balanced (controller : Controller) : Prop where
  transportWindow : controller.creditLedger.inUse .transportWindow = 0
  residentReservation : controller.creditLedger.inUse .residentReservation = 0
  execution : controller.creditLedger.inUse .execution = 0
  completionOwnership : controller.creditLedger.inUse .completionOwnership =
    controller.finalEventQueue.pendingCount
  pendingCount : controller.finalEventQueue.pendingCount = controller.finalEventQueue.pendingEvents

/-- The queue gets one event, for this request, in a place where nobody waits for another. -/
def Enqueues (before : FinalEventQueue) (request : TransactionRequest) (after : FinalEventQueue) : Prop :=
  ∃ index < before.capacity, (before.events index).state ≠ .pending ∧ ∃ payloadFingerprint,
    after = before.enqueue index (before.finalEvent request payloadFingerprint .ok)

/-- A new transaction commits on every participant, with an event and without an error; or it cancels
where it was prepared. No other call has callbacks. -/
def Atomic (controller : Controller) : ControllerCall → Prop
  | .run request outcomes =>
    let ran := controller.runTransaction request outcomes
    if controller.starts request then
      ran.status = .ok ∧ CommitsAll controller.participants.length ran.callbacks ∧
          Enqueues controller.finalEventQueue request ran.controller.finalEventQueue ∨
        CancelsPrepared outcomes ran.callbacks ∧
          ran.controller.finalEventQueue = controller.finalEventQueue
    else ran.callbacks = [] ∧ ran.controller.finalEventQueue = controller.finalEventQueue
  | .acknowledge identity eventGeneration payloadFingerprint =>
    (controller.acknowledgeControllerFinalEvent identity eventGeneration
      payloadFingerprint).2.finalEventQueue.pendingCount ≤ controller.finalEventQueue.pendingCount

section Running

/-- What a run of one transaction does. -/
inductive Runs (controller : Controller) (request : TransactionRequest) (outcomes : Outcomes) (ran : Ran) : Prop
  | refused (starts : controller.starts request = false) (callbacks : ran.callbacks = [])
      (same : ran.controller = controller)
  | known (starts : controller.starts request = false)
      (valid : (controller.validateTransactionRequest request).1 = .ok) (callbacks : ran.callbacks = [])
      (observed : ran.controller = { controller with
        transactionLedger := (controller.transactionLedger.observe request.identity
          (controller.validateTransactionRequest request).2).ledger })
  | new (base : Controller) (starts : controller.starts request = true)
      (observed : base = { controller with
        transactionLedger := (controller.transactionLedger.observe request.identity
          (controller.validateTransactionRequest request).2).ledger })
      (settled : Attempt.RolledBack base request outcomes ran ∨ Attempt.Settled base request outcomes ran ∧
        controller.creditLedger.inUse .completionOwnership < controller.creditLedger.capacity .completionOwnership)

/-- A valid request has a payload with a fingerprint. -/
theorem fingerprint_ne_zero (valid : (controller.validateTransactionRequest request).1 = .ok) :
    (controller.validateTransactionRequest request).2 ≠ 0 := by
  unfold validateTransactionRequest at valid ⊢
  split_ifs at valid ⊢ with _ _ zero
  exact zero

/-- An observation that reports a new transaction has succeeded, and the entry is prepared. -/
theorem observed_new (sound : controller.transactionLedger.Sound) (payloadFingerprint : UInt64)
    (new : (controller.transactionLedger.observe request.identity payloadFingerprint).observation = some .new) :
    (controller.transactionLedger.observe request.identity payloadFingerprint).status = .ok ∧
      ∃ entry, (controller.transactionLedger.observe request.identity payloadFingerprint).ledger.lookup
        request.identity = some entry ∧ entry.state = .prepared := by
  obtain ⟨-, ⟨-, nothing, -⟩ | ⟨base, -, ends⟩⟩ := sound.observe request.identity payloadFingerprint
  · rw [nothing] at new
    cases new
  · cases ends with
    | again entry found observation status map epoch =>
      rw [observation] at new
      split_ifs at new
      all_goals cases new
    | full middle missing vacates status observation map epoch =>
      rw [observation] at new
      cases new
    | new middle missing vacates status observation map epoch =>
      exact ⟨status, base.newEntry request.identity payloadFingerprint,
        (congrFun map request.identity).trans (update_self ..), rfl⟩

theorem replay_callbacks (controller : Controller) (request : TransactionRequest) (payloadFingerprint : UInt64)
    (observed : Observed) : (controller.replay request payloadFingerprint observed).callbacks = [] ∧
      (controller.replay request payloadFingerprint observed).controller = controller := by
  unfold replay
  dsimp only
  split
  · exact ⟨rfl, rfl⟩
  · exact ⟨rfl, rfl⟩

/-- A run is refused, repeats what is known, or settles a new transaction. -/
theorem runTransaction_runs (sound : controller.transactionLedger.Sound)
    (request : TransactionRequest) (outcomes : Outcomes) :
    Runs controller request outcomes (controller.runTransaction request outcomes) := by
  unfold runTransaction
  dsimp only
  split
  · rename_i invalid
    refine .refused ?_ rfl rfl
    unfold starts
    rw [decide_eq_false invalid, Bool.false_and]
  · rename_i notInvalid
    have valid := not_not.mp notInvalid
    set observed := controller.transactionLedger.observe request.identity (controller.validateTransactionRequest request).2
    have observes := sound.observe request.identity (controller.validateTransactionRequest request).2
    by_cases new : observed.observation = some .new
    · obtain ⟨status, entry, found, prepared⟩ := observed_new sound _ new
      rw [if_neg (not_not.mpr status), if_neg (not_not.mpr new)]
      refine .new _ ?_ rfl ?_
      · unfold starts
        rw [decide_eq_true valid, decide_eq_true new]
        rfl
      · have opened : ({
            controller := { controller with transactionLedger := observed.ledger }
            request := request
            result := { payloadFingerprint := (controller.validateTransactionRequest request).2 } } :
              Attempt).Open { controller with transactionLedger := observed.ledger } .prepared := {
          participants := rfl
          queue := rfl
          capacity := rfl
          credits := fun _ => rfl
          sound := observes.1
          entry := ⟨entry, found, prepared⟩
          others := fun _ _ => rfl
          generation := rfl }
        exact opened.runNew rfl rfl (fun _ => rfl) (fingerprint_ne_zero valid)
    · have notStarts : controller.starts request = false := by
        unfold starts
        rw [decide_eq_false new, Bool.and_false]
      split
      · exact .known notStarts valid rfl rfl
      · obtain ⟨callbacks, same⟩ := replay_callbacks { controller with transactionLedger := observed.ledger } request
          (controller.validateTransactionRequest request).2 observed
        exact .known notStarts valid callbacks same

end Running

section Invariant

/-- The invariant. -/
structure Conserved (controller : Controller) : Prop where
  sound : controller.transactionLedger.Sound
  balanced : controller.Balanced
  capacity : controller.creditLedger.capacity .completionOwnership = controller.finalEventQueue.capacity
  positive : 0 < controller.finalEventQueue.capacity
  started : 0 < controller.finalEventQueue.nextEventGeneration
  small : controller.finalEventQueue.nextEventGeneration < 2 ^ 64
  earlier : ∀ index, (controller.finalEventQueue.events index).eventGeneration <
    controller.finalEventQueue.nextEventGeneration

variable (conserved : controller.Conserved)
include conserved

/-- The credit for a completion stands for a place in the queue. -/
theorem Conserved.ready
    (room : controller.creditLedger.inUse .completionOwnership < controller.creditLedger.capacity .completionOwnership) :
    Attempt.Ready controller.finalEventQueue := by
  have counted := conserved.balanced.pendingCount
  have pending : controller.finalEventQueue.pendingCount < controller.finalEventQueue.capacity := by
    rwa [conserved.balanced.completionOwnership, conserved.capacity] at room
  refine ⟨?_, pending, ?_⟩
  · have positive := conserved.positive
    have started := conserved.started
    simp only [FinalEventQueue.isValid, ne_eq, decide_not, Bool.and_eq_true, Bool.not_eq_eq_eq_not, Bool.not_true,
      decide_eq_false_iff_not, decide_eq_true_eq]
    omega
  · apply FinalEventQueue.findReusableFinalEvent_isSome
    · rw [counted] at pending
      exact pending
    · intro index
      have earlier := conserved.earlier index
      have small := conserved.small
      omega

/-- The invariant does not depend on what the ledger holds. -/
theorem Conserved.observe {ledger : Ledger} (sound : ledger.Sound) :
    ({ controller with transactionLedger := ledger } : Controller).Conserved :=
  { conserved with
    sound := sound
    balanced := { conserved.balanced with } }

/-- A transaction that has been rolled back leaves the credits and the queue as they were. -/
theorem Conserved.rolledBack {ran : Ran}
    (rolledBack : Attempt.RolledBack controller request outcomes ran) : ran.controller.Conserved := by
  have balanced := conserved.balanced
  refine {
    sound := rolledBack.closed.sound
    balanced := {
      transportWindow := (rolledBack.credits _).trans balanced.transportWindow
      residentReservation := (rolledBack.credits _).trans balanced.residentReservation
      execution := (rolledBack.credits _).trans balanced.execution
      completionOwnership := ?_
      pendingCount := ?_ }
    capacity := ?_
    positive := ?_
    started := ?_
    small := ?_
    earlier := ?_ }
  all_goals rw [rolledBack.queue]
  · exact (rolledBack.credits _).trans balanced.completionOwnership
  · exact balanced.pendingCount
  · exact (congrFun rolledBack.closed.capacity _).trans conserved.capacity
  · exact conserved.positive
  · exact conserved.started
  · exact conserved.small
  · exact conserved.earlier

/-- A transaction that has committed keeps one credit, for the event that it has added. -/
theorem Conserved.committed {ran : Ran} (committed : Attempt.Committed controller request ran)
    (fits : controller.finalEventQueue.nextEventGeneration ≤ ran.controller.finalEventQueue.nextEventGeneration) :
    ran.controller.Conserved ∧
      Enqueues controller.finalEventQueue request ran.controller.finalEventQueue := by
  have balanced := conserved.balanced
  obtain ⟨index, payloadFingerprint, found, queue⟩ := committed.queue
  obtain ⟨inRange, waits⟩ := FinalEventQueue.findReusableFinalEvent_some found
  rw [queue] at fits
  obtain ⟨next, fitsNext⟩ := FinalEventQueue.enqueue_next fits conserved.started conserved.small
  have others : ∀ domain : CreditDomain, domain ≠ .completionOwnership →
      ran.controller.creditLedger.inUse domain = controller.creditLedger.inUse domain := by
    intro domain different
    rw [committed.credits, if_neg different, Nat.add_zero]
  refine ⟨{
    sound := committed.closed.sound
    balanced := {
      transportWindow := (others .transportWindow nofun).trans balanced.transportWindow
      residentReservation := (others .residentReservation nofun).trans balanced.residentReservation
      execution := (others .execution nofun).trans balanced.execution
      completionOwnership := ?_
      pendingCount := ?_ }
    capacity := ?_
    positive := ?_
    started := ?_
    small := ?_
    earlier := ?_ }, index, inRange, waits, payloadFingerprint, queue⟩
  all_goals rw [queue]
  · rw [committed.credits, if_pos rfl, balanced.completionOwnership]
    rfl
  · rw [FinalEventQueue.enqueue_pendingEvents _ rfl inRange waits, ← balanced.pendingCount]
    rfl
  · exact (congrFun committed.closed.capacity _).trans conserved.capacity
  · exact conserved.positive
  · omega
  · omega
  · intro place
    rw [next]
    by_cases here : place = index
    · rw [here]
      unfold FinalEventQueue.enqueue
      dsimp only
      rw [update_self]
      exact Nat.lt_succ_self _
    · have earlier := conserved.earlier place
      unfold FinalEventQueue.enqueue
      dsimp only
      rw [update_of_ne here]
      omega

/-- One call keeps the invariant and is atomic. -/
theorem Conserved.perform (call : ControllerCall)
    (fits : controller.GenerationFits call) : (controller.perform call).Conserved ∧ controller.Atomic call := by
  cases call with
  | run request outcomes =>
    have runs := runTransaction_runs conserved.sound request outcomes
    have sound := (conserved.sound.observe request.identity
      (controller.validateTransactionRequest request).2).1
    unfold GenerationFits at fits
    unfold Controller.perform at fits ⊢
    unfold Atomic
    dsimp only at fits ⊢
    generalize controller.runTransaction request outcomes = ran at runs fits ⊢
    cases runs with
    | refused starts callbacks same =>
      rw [starts, same]
      exact ⟨conserved, callbacks, rfl⟩
    | known starts valid callbacks observed =>
      rw [starts, observed]
      exact ⟨conserved.observe sound, callbacks, rfl⟩
    | new base starts observed settled =>
      have opens : base.Conserved := by
        rw [observed]
        exact conserved.observe sound
      have queue : base.finalEventQueue = controller.finalEventQueue := by rw [observed]
      have participants : base.participants = controller.participants := by rw [observed]
      rw [← queue] at fits
      rw [starts, ← queue, ← participants]
      -- the credit for a completion leaves no transaction stranded
      have settles : Attempt.RolledBack base request outcomes ran ∨ Attempt.Committed base request ran := by
        rcases settled with rolledBack | ⟨rolledBack | committed | stranded, room⟩
        · exact .inl rolledBack
        · exact .inl rolledBack
        · exact .inr committed
        · have ready := conserved.ready room
          rw [← queue] at ready
          exact absurd ready stranded.unready
      rcases settles with rolledBack | committed
      · exact ⟨opens.rolledBack rolledBack, .inr ⟨rolledBack.callbacks, rolledBack.queue⟩⟩
      · obtain ⟨kept, enqueues⟩ := opens.committed committed fits
        exact ⟨kept, .inl ⟨committed.status, committed.callbacks, enqueues⟩⟩
  | acknowledge identity eventGeneration payloadFingerprint =>
    have balanced := conserved.balanced
    have acknowledges := controller.finalEventQueue.acknowledgeFinalEvent_cases identity eventGeneration
      payloadFingerprint
    unfold Controller.perform Atomic acknowledgeControllerFinalEvent
    dsimp only
    generalize controller.finalEventQueue.acknowledgeFinalEvent identity eventGeneration payloadFingerprint =
      acknowledged at acknowledges ⊢
    rcases acknowledges with ⟨refused, same⟩ | ⟨accepted, index, inRange, pending, positive, queue⟩
    · rw [if_pos refused, same]
      exact ⟨conserved, Nat.le_refl _⟩
    · rw [if_neg (not_not.mpr accepted), queue]
      have releases : controller.creditLedger.releaseCredit .completionOwnership = (.ok,
          { controller.creditLedger with
            inUse := update controller.creditLedger.inUse .completionOwnership
              (controller.creditLedger.inUse .completionOwnership - 1) }) := by
        apply if_neg
        rw [balanced.completionOwnership]
        omega
      rw [releases]
      refine ⟨{
        sound := conserved.sound
        balanced := {
          transportWindow := balanced.transportWindow
          residentReservation := balanced.residentReservation
          execution := balanced.execution
          completionOwnership := ?_
          pendingCount := ?_ }
        capacity := conserved.capacity
        positive := conserved.positive
        started := conserved.started
        small := conserved.small
        earlier := fun place => ?_ }, Nat.sub_le _ _⟩
      · change update controller.creditLedger.inUse .completionOwnership
          (controller.creditLedger.inUse .completionOwnership - 1) .completionOwnership =
            controller.finalEventQueue.pendingCount - 1
        rw [update_self, balanced.completionOwnership]
      · have count := tally_update controller.finalEventQueue.events
          { controller.finalEventQueue.events index with state := .acknowledged }
          (fun event => decide (event.state = .pending)) inRange
        rw [decide_eq_true pending] at count
        have counted := balanced.pendingCount
        unfold FinalEventQueue.pendingEvents at counted ⊢
        simp only [reduceCtorEq, decide_false, Bool.toNat_false, Bool.toNat_true] at count
        dsimp only
        omega
      · have earlier := conserved.earlier place
        dsimp only
        by_cases here : place = index
        · rw [here] at earlier ⊢
          rw [update_self]
          exact earlier
        · rw [update_of_ne here]
          exact earlier

end Invariant

section Runs

theorem initializeController_conserved {participants : List Participant}
    {transactionCapacity finalEventCapacity : Nat} {creditCapacities : CreditDomain → Nat} {start : Controller}
    (accepted : initializeController participants transactionCapacity finalEventCapacity creditCapacities =
      .ok start) : start.Conserved := by
  unfold initializeController at accepted
  split at accepted
  · cases accepted
  rename_i good
  simp only [not_or, not_not] at good
  obtain ⟨-, -, -, positive, capacity⟩ := good
  split at accepted
  · cases accepted
  split at accepted
  · cases accepted
  rename_i ledger initialized
  cases accepted
  refine {
    sound := Ledger.initializeLedger_sound initialized
    balanced := ⟨rfl, rfl, rfl, rfl, ?_⟩
    capacity := capacity
    positive := Nat.pos_of_ne_zero positive
    started := Nat.one_pos
    small := Nat.one_lt_two_pow (by decide)
    earlier := fun _ => Nat.one_pos }
  exact (tally_eq_zero fun _ _ => rfl).symm

/-- Along every run of a controller in which the generations do not wrap, the credits balance after
each call, and each call is atomic. -/
theorem run_atomic {participants : List Participant} {transactionCapacity finalEventCapacity : Nat}
    {creditCapacities : CreditDomain → Nat} {start : Controller}
    (accepted : initializeController participants transactionCapacity finalEventCapacity creditCapacities =
      .ok start) (calls : List ControllerCall) (fits : Along Controller.perform GenerationFits calls start) :
    (∀ taken, taken <+: calls → (taken.foldl Controller.perform start).Balanced) ∧
      Along Controller.perform Atomic calls start := by
  have conserved := initializeController_conserved accepted
  constructor
  · rintro taken ⟨later, rfl⟩
    have ended := fits.append.1.foldl (P := Conserved) (fun _ call kept fits => (kept.perform call fits).1) conserved
    exact ended.balanced
  · exact fits.map (P := Conserved) (fun _ call kept fits => (kept.perform call fits).1)
      (fun _ call kept fits => (kept.perform call fits).2) conserved

/-- A participant that passes the validation. -/
def rank (participantIndex : Nat) : Participant where
  participantIndex := participantIndex
  flags := 7
  restartEpoch := 1
  participantName := "rank"

/-- A transaction for two ranks. -/
def decode (transactionId : UInt64) : TransactionRequest where
  participantCount := 2
  identity :=
    { controlGeneration := 1, transactionId := transactionId, dispatchGeneration := 1, requestGeneration := 1,
      stepGeneration := 1, stepChunkCount := 1, phase := 2 }
  requestId := 1
  sequenceId := 1
  sequencePosition := 0
  payload := [1, 2, 3]

/-- One transaction commits, one fails on the second rank, and the event of the first is acknowledged. -/
def commitAndRollBack : List ControllerCall :=
  [.run (decode 1) {}, .run (decode 2) { execute := fun rank => if rank = 1 then .ioError else .ok },
    .acknowledge (decode 1).identity 1 (fingerprintBytes [1, 2, 3])]

/-- Two ranks, with room for two entries and for one event. -/
def twoRanks : Controller where
  participants := [rank 0, rank 1]
  transactionLedger := { entryCapacity := 2 }
  creditLedger := { capacity := fun _ => 1 }
  finalEventQueue := { capacity := 1 }

theorem commitAndRollBack_atomic :
    (∀ taken, taken <+: commitAndRollBack → (taken.foldl Controller.perform twoRanks).Balanced) ∧
      Along Controller.perform Atomic commitAndRollBack twoRanks :=
  run_atomic (show initializeController [rank 0, rank 1] 2 1 (fun _ => 1) = .ok twoRanks from rfl)
    commitAndRollBack (by decide +kernel)

end Runs

end Controller

end Sparkpipe.WorkTransaction
