import Sparkpipe.Transaction.Atomic

/-!
# At most once

What keeps a committed transaction from running again is its entry in the ledger, or a higher
control generation. But the ledger recycles its oldest terminal entry when it has no place for
a new one, also while the final event of that transaction still waits for its owner. A run in
which it never does so runs nothing twice.
-/

namespace Sparkpipe.WorkTransaction

open Function

namespace Ledger

variable {ledger : Ledger} {identity other : Identity}

section Generations

theorem observeNew_generation (ledger : Ledger) (identity : Identity) (payloadFingerprint : UInt64) :
    (ledger.observeNew identity payloadFingerprint).ledger.activeControlGeneration =
      ledger.activeControlGeneration := by
  have selects : ∀ (table : Ledger) (room : Nat × Ledger), table.selectInsertionEntry identity = some room →
      room.2.activeControlGeneration = table.activeControlGeneration := by
    intro table room found
    obtain ⟨place, -, rfl⟩ := Option.map_eq_some_iff.mp found
    dsimp only
    split <;> rfl
  unfold observeNew
  cases selected : ledger.selectInsertionEntry identity with
  | some room => exact selects ledger room selected
  | none =>
    dsimp only
    cases oldest : ledger.recycleOldestTerminalEntry with
    | none => rfl
    | some recycled =>
      dsimp only
      have kept : recycled.activeControlGeneration = ledger.activeControlGeneration := by
        obtain ⟨index, -, rfl⟩ := Option.map_eq_some_iff.mp oldest
        rfl
      cases again : recycled.selectInsertionEntry identity with
      | none => exact kept
      | some room => exact (selects recycled room again).trans kept

/-- An observation is refused, or the ledger is of the generation of what it observes. -/
theorem observe_generation (ledger : Ledger) (identity : Identity) (payloadFingerprint : UInt64) :
    (ledger.observe identity payloadFingerprint).ledger = ledger ∨
      (ledger.observe identity payloadFingerprint).ledger.activeControlGeneration = identity.controlGeneration := by
  have prepares : (ledger.prepareControlGeneration identity.controlGeneration).2 = ledger ∧
        (ledger.prepareControlGeneration identity.controlGeneration).1 ≠ .ok ∨
      (ledger.prepareControlGeneration identity.controlGeneration).2.activeControlGeneration =
        identity.controlGeneration := by
    unfold prepareControlGeneration
    split_ifs with _ current
    · exact .inr rfl
    · exact .inr current.symm
    · exact .inl ⟨rfl, nofun⟩
    · exact .inl ⟨rfl, nofun⟩
    · exact .inr rfl
  unfold observe
  split
  · exact .inl rfl
  dsimp only
  split
  · rename_i refused
    rcases prepares with ⟨same, -⟩ | current
    · exact .inl same
    · exact .inr current
  · rename_i prepared
    rcases prepares with ⟨-, refused⟩ | current
    · exact absurd refused prepared
    · refine .inr ?_
      split
      · unfold observeAgain
        dsimp only
        split <;> exact current
      · exact (observeNew_generation ..).trans current

end Generations

section Knowledge

/-- The ledger does not take the identity for a new one. -/
def Knows (ledger : Ledger) (identity : Identity) : Prop :=
  (∃ entry, ledger.lookup identity = some entry) ∨ identity.controlGeneration < ledger.activeControlGeneration

theorem selectAlong_congr {base : Ledger} (entries : base.entries = ledger.entries) (path : List Nat)
    (first : Option Nat) : base.selectAlong path first = ledger.selectAlong path first := by
  induction path generalizing first with
  | nil => cases first <;> rfl
  | cons index rest ih =>
    unfold selectAlong
    rw [entries, ih, ih]

/-- What is recycled depends on the entries alone. -/
theorem recycles_congr {base : Ledger} (entries : base.entries = ledger.entries)
    (capacity : base.entryCapacity = ledger.entryCapacity) : base.recycles identity = ledger.recycles identity := by
  have paths : base.probes identity = ledger.probes identity := by
    unfold probes probe identityStartIndex
    rw [capacity]
  have found : (base.findInternal identity).isSome = (ledger.findInternal identity).isSome := by
    have same := congrArg Option.isSome (congrFun (lookup_congr entries capacity) identity)
    unfold lookup at same
    rwa [Option.isSome_map, Option.isSome_map] at same
  have selected : (base.selectInsertionEntry identity).isSome = (ledger.selectInsertionEntry identity).isSome := by
    unfold selectInsertionEntry
    rw [Option.isSome_map, Option.isSome_map, paths, selectAlong_congr entries]
  have oldest : base.oldestTerminalEntry = ledger.oldestTerminalEntry := by
    unfold oldestTerminalEntry
    rw [entries, capacity]
  unfold recycles
  rw [found, selected, oldest, entries]

/-- A known identity is of the current generation at most. -/
theorem Sound.knows_generation (sound : ledger.Sound) {entry : Entry} (found : ledger.lookup identity = some entry) :
    identity.controlGeneration = ledger.activeControlGeneration := by
  obtain ⟨index, rfl, stored, rfl⟩ := sound.lookup_iff.mp found
  exact (sound.known index stored).2

/-- A known identity is not observed as new. -/
theorem Sound.knows_observation (sound : ledger.Sound) (knows : ledger.Knows identity) (payloadFingerprint : UInt64) :
    (ledger.observe identity payloadFingerprint).observation ≠ some .new := by
  intro new
  obtain ⟨-, ⟨-, nothing, -⟩ | ⟨base, opened, ends⟩⟩ := sound.observe identity payloadFingerprint
  · rw [nothing] at new
    cases new
  · rcases opened.carried with ⟨-, same, -, current⟩ | ⟨-, newer, -⟩
    · obtain ⟨entry, found⟩ | older := knows
      · rw [← same] at found
        cases ends with
        | again entry found observation status map epoch =>
          rw [observation] at new
          split_ifs at new
          all_goals cases new
        | full middle missing vacates status observation map epoch =>
          rw [observation] at new
          cases new
        | new middle missing vacates status observation map epoch =>
          rw [missing] at found
          cases found
      · rw [current] at older
        exact UInt64.lt_irrefl _ older
    · obtain ⟨entry, found⟩ | older := knows
      · rw [sound.knows_generation found] at newer
        exact UInt64.lt_irrefl _ newer
      · exact UInt64.lt_irrefl _ (UInt64.lt_trans newer older)

/-- An observation forgets no identity but the one whose entry it recycles. -/
theorem Sound.observe_knows (sound : ledger.Sound) (knows : ledger.Knows other) (payloadFingerprint : UInt64)
    (stays : identity.controlGeneration = ledger.activeControlGeneration →
      ledger.recycles identity ≠ some other) :
    (ledger.observe identity payloadFingerprint).ledger.Knows other := by
  have generation := ledger.observe_generation identity payloadFingerprint
  obtain ⟨-, ⟨-, -, same⟩ | ⟨base, opened, ends⟩⟩ := sound.observe identity payloadFingerprint
  · rw [same]
    exact knows
  · rcases generation with same | current
    · rw [same]
      exact knows
    rcases opened.carried with ⟨entries, same, -, isCurrent⟩ | ⟨-, newer, -⟩
    · obtain ⟨entry, found⟩ | older := knows
      · rw [← same] at found
        refine .inl ?_
        have kept : ∀ middle, Vacates base identity middle → middle other = some entry := by
          intro middle vacates
          cases vacates with
          | already => exact found
          | recycled old oldFound terminal full oldest chosen =>
            rw [update_of_ne, found]
            rintro rfl
            rw [recycles_congr entries opened.capacity] at chosen
            exact stays isCurrent.symm chosen
        have written : ∀ (middle : Identity → Option Entry) (new : Entry), Vacates base identity middle →
            ∃ entry, update middle identity (some new) other = some entry := by
          intro middle new vacates
          by_cases here : other = identity
          · exact ⟨new, by rw [here, update_self]⟩
          · exact ⟨entry, by rw [update_of_ne here, kept middle vacates]⟩
        cases ends with
        | again again isFound observation status map epoch =>
          rw [map]
          exact written base.lookup _ .already
        | full middle missing vacates status observation map epoch =>
          rw [map]
          exact ⟨entry, kept middle vacates⟩
        | new middle missing vacates status observation map epoch =>
          rw [map]
          exact written middle _ vacates
      · refine .inr ?_
        rw [current, ← isCurrent]
        exact older
    · refine .inr ?_
      rw [current]
      obtain ⟨entry, found⟩ | older := knows
      · rw [sound.knows_generation found]
        exact newer
      · exact UInt64.lt_trans older newer

end Knowledge

end Ledger

namespace FinalEventQueue

variable {queue after : FinalEventQueue} {index : Nat} {identity : Identity}

/-- The final event of the identity's transaction waits for its acknowledgement. -/
def Awaits (queue : FinalEventQueue) (identity : Identity) : Prop :=
  ∃ index < queue.capacity, (queue.events index).state = .pending ∧ (queue.events index).identity = identity

/-- No two pending events are of one identity. -/
def OncePending (queue : FinalEventQueue) : Prop :=
  ∀ one < queue.capacity, ∀ other < queue.capacity, (queue.events one).state = .pending →
    (queue.events other).state = .pending → (queue.events one).identity = (queue.events other).identity →
    one = other

/-- A new event is of its own identity, and the others are as before. -/
theorem enqueue_awaits {event : FinalEvent} (awaits : (queue.enqueue index event).Awaits identity) :
    identity = event.identity ∨ queue.Awaits identity := by
  obtain ⟨place, inRange, pending, rfl⟩ := awaits
  unfold enqueue at pending ⊢
  dsimp only at pending ⊢
  by_cases here : place = index
  · rw [here, update_self]
    exact .inl rfl
  · rw [update_of_ne here] at pending ⊢
    exact .inr ⟨place, inRange, pending, rfl⟩

theorem OncePending.enqueue (once : queue.OncePending) {event : FinalEvent}
    (nobody : ¬ queue.Awaits event.identity) : (queue.enqueue index event).OncePending := by
  intro one oneInRange other otherInRange onePending otherPending same
  unfold FinalEventQueue.enqueue at onePending otherPending same
  dsimp only at onePending otherPending same
  by_cases oneHere : one = index
  · by_cases otherHere : other = index
    · rw [oneHere, otherHere]
    · rw [oneHere, update_self, update_of_ne otherHere] at same
      rw [update_of_ne otherHere] at otherPending
      exact absurd ⟨other, otherInRange, otherPending, same.symm⟩ nobody
  · by_cases otherHere : other = index
    · rw [otherHere, update_self, update_of_ne oneHere] at same
      rw [update_of_ne oneHere] at onePending
      exact absurd ⟨one, oneInRange, onePending, same⟩ nobody
    · rw [update_of_ne oneHere, update_of_ne otherHere] at same
      rw [update_of_ne oneHere] at onePending
      rw [update_of_ne otherHere] at otherPending
      exact once one oneInRange other otherInRange onePending otherPending same

/-- What waits after an acknowledgement has waited before, in the same place. -/
theorem acknowledge_pending {pendingCount place : Nat} {event : FinalEvent} (acknowledged : event.state = .acknowledged)
    (pending : (update queue.events index event place).state = .pending)
    (left : after = { queue with events := update queue.events index event, pendingCount := pendingCount }) :
    after.events place = queue.events place := by
  subst left
  dsimp only
  apply update_of_ne
  rintro rfl
  rw [update_self, acknowledged] at pending
  cases pending

end FinalEventQueue

namespace Controller

variable {controller : Controller}

/-- A transaction whose event waits is not run again. -/
def Quiet (controller : Controller) : ControllerCall → Prop
  | .run request outcomes => controller.finalEventQueue.Awaits request.identity →
      (controller.runTransaction request outcomes).callbacks = []
  | .acknowledge .. => True

/-- The call does not recycle the ledger's entry of a transaction whose event waits. -/
def KeepsPending (controller : Controller) : ControllerCall → Prop
  | .run request _ =>
    (controller.validateTransactionRequest request).1 = .ok →
    request.identity.controlGeneration = controller.transactionLedger.activeControlGeneration →
    ∀ index < controller.finalEventQueue.capacity, (controller.finalEventQueue.events index).state = .pending →
      controller.transactionLedger.recycles request.identity ≠
        some (controller.finalEventQueue.events index).identity
  | .acknowledge .. => True

instance (controller : Controller) (call : ControllerCall) : Decidable (controller.KeepsPending call) :=
  match call with
  | .run request _ => inferInstanceAs (Decidable
      ((controller.validateTransactionRequest request).1 = .ok →
      request.identity.controlGeneration = controller.transactionLedger.activeControlGeneration →
      ∀ index < controller.finalEventQueue.capacity, (controller.finalEventQueue.events index).state = .pending →
        controller.transactionLedger.recycles request.identity ≠
          some (controller.finalEventQueue.events index).identity))
  | .acknowledge .. => .isTrue trivial

/-- The invariant of a run that recycles no such entry. -/
structure Remembers (controller : Controller) : Prop where
  sound : controller.transactionLedger.Sound
  knows : ∀ identity, controller.finalEventQueue.Awaits identity → controller.transactionLedger.Knows identity
  once : controller.finalEventQueue.OncePending

/-- A transaction whose event waits does not start. -/
theorem Remembers.notStarts (remembers : controller.Remembers) {request : TransactionRequest}
    (awaits : controller.finalEventQueue.Awaits request.identity) : controller.starts request = false := by
  have knows := remembers.knows _ awaits
  unfold starts
  rw [decide_eq_false (remembers.sound.knows_observation knows _), Bool.and_false]

theorem Remembers.observe (remembers : controller.Remembers) {request : TransactionRequest} {outcomes : Outcomes}
    (valid : (controller.validateTransactionRequest request).1 = .ok)
    (keeps : controller.KeepsPending (.run request outcomes)) : ({ controller with
      transactionLedger := (controller.transactionLedger.observe request.identity
        (controller.validateTransactionRequest request).2).ledger } : Controller).Remembers := by
  refine ⟨(remembers.sound.observe _ _).1, fun identity awaits => ?_, remembers.once⟩
  refine remembers.sound.observe_knows (remembers.knows identity awaits) _ fun current => ?_
  obtain ⟨index, inRange, pending, rfl⟩ := awaits
  exact keeps valid current index inRange pending

/-- A transaction that is over is known, and what was known before still is. -/
theorem Remembers.closed {base after : Controller} {request : TransactionRequest} (remembers : base.Remembers)
    (closed : Attempt.Closed base request after) {identity : Identity}
    (awaited : identity = request.identity ∨ base.finalEventQueue.Awaits identity) :
    after.transactionLedger.Knows identity := by
  by_cases here : identity = request.identity
  · obtain ⟨entry, found, -⟩ := closed.entry
    rw [here]
    exact .inl ⟨entry, found⟩
  · unfold Ledger.Knows
    rw [closed.others identity here, closed.generation]
    exact remembers.knows identity (awaited.resolve_left here)

/-- An acknowledgement does not touch the ledger. -/
theorem acknowledge_ledger (controller : Controller) (identity : Identity) (eventGeneration : Nat)
    (payloadFingerprint : UInt64) : (controller.perform (.acknowledge identity eventGeneration
      payloadFingerprint)).transactionLedger = controller.transactionLedger := by
  unfold Controller.perform acknowledgeControllerFinalEvent
  dsimp only
  split <;> rfl

/-- One call that recycles no entry of a waiting transaction keeps the invariant and is quiet. -/
theorem Remembers.perform (remembers : controller.Remembers) (call : ControllerCall)
    (keeps : controller.KeepsPending call) : (controller.perform call).Remembers ∧ controller.Quiet call := by
  cases call with
  | run request outcomes =>
    have runs := runTransaction_runs remembers.sound request outcomes
    unfold Controller.perform Quiet
    dsimp only
    generalize controller.runTransaction request outcomes = ran at runs ⊢
    cases runs with
    | refused starts callbacks same =>
      rw [same]
      exact ⟨remembers, fun _ => callbacks⟩
    | known starts valid callbacks observed =>
      rw [observed]
      exact ⟨remembers.observe valid keeps, fun _ => callbacks⟩
    | new base starts observed settled =>
      have valid : (controller.validateTransactionRequest request).1 = .ok :=
        of_decide_eq_true (Bool.and_eq_true_iff.mp starts).1
      have opens : base.Remembers := by
        rw [observed]
        exact remembers.observe valid keeps
      have queue : base.finalEventQueue = controller.finalEventQueue := by rw [observed]
      have nobody : ¬ base.finalEventQueue.Awaits request.identity := by
        rw [queue]
        intro awaits
        rw [remembers.notStarts awaits] at starts
        cases starts
      refine ⟨?_, fun awaits => absurd (queue ▸ awaits) nobody⟩
      -- the transaction closes its entry, and adds an event for its own identity at most
      have ends : Attempt.Closed base request ran.controller ∧
          (ran.controller.finalEventQueue = base.finalEventQueue ∨ ∃ index payloadFingerprint,
            ran.controller.finalEventQueue = base.finalEventQueue.enqueue index
              (base.finalEventQueue.finalEvent request payloadFingerprint .ok)) := by
        rcases settled with rolledBack | ⟨rolledBack | committed | stranded, -⟩
        · exact ⟨rolledBack.closed, .inl rolledBack.queue⟩
        · exact ⟨rolledBack.closed, .inl rolledBack.queue⟩
        · obtain ⟨index, payloadFingerprint, -, enqueued⟩ := committed.queue
          exact ⟨committed.closed, .inr ⟨index, payloadFingerprint, enqueued⟩⟩
        · exact ⟨stranded.closed, .inl stranded.queue⟩
      obtain ⟨closed, same | ⟨index, payloadFingerprint, enqueued⟩⟩ := ends
      · refine ⟨closed.sound, fun identity awaits => ?_, ?_⟩
        · rw [same] at awaits
          exact opens.closed closed (.inr awaits)
        · rw [same]
          exact opens.once
      · refine ⟨closed.sound, fun identity awaits => ?_, ?_⟩
        · rw [enqueued] at awaits
          exact opens.closed closed (FinalEventQueue.enqueue_awaits awaits)
        · rw [enqueued]
          exact opens.once.enqueue nobody
  | acknowledge identity eventGeneration payloadFingerprint =>
    refine ⟨?_, trivial⟩
    have acknowledges := controller.finalEventQueue.acknowledgeFinalEvent_cases identity eventGeneration
      payloadFingerprint
    have ledger := controller.acknowledge_ledger identity eventGeneration payloadFingerprint
    have queue : (controller.perform (.acknowledge identity eventGeneration payloadFingerprint)).finalEventQueue =
        (controller.finalEventQueue.acknowledgeFinalEvent identity eventGeneration payloadFingerprint).2 := by
      unfold Controller.perform acknowledgeControllerFinalEvent
      dsimp only
      split <;> rfl
    have earlier : ∀ place,
        ((controller.perform (.acknowledge identity eventGeneration payloadFingerprint)).finalEventQueue.events
          place).state = .pending →
        (controller.perform (.acknowledge identity eventGeneration payloadFingerprint)).finalEventQueue.events place =
          controller.finalEventQueue.events place := by
      intro place pending
      rw [queue] at pending ⊢
      rcases acknowledges with ⟨-, same⟩ | ⟨-, index, -, -, -, left⟩
      · rw [same]
      · rw [left] at pending
        exact FinalEventQueue.acknowledge_pending rfl pending left
    have capacity :
        (controller.perform (.acknowledge identity eventGeneration payloadFingerprint)).finalEventQueue.capacity =
          controller.finalEventQueue.capacity := by
      rw [queue]
      rcases acknowledges with ⟨-, same⟩ | ⟨-, index, -, -, -, left⟩
      · rw [same]
      · rw [left]
    refine ⟨?_, fun waiting awaits => ?_, fun one oneInRange other otherInRange onePending otherPending same => ?_⟩
    · rw [ledger]
      exact remembers.sound
    · rw [ledger]
      obtain ⟨place, inRange, pending, rfl⟩ := awaits
      have same := earlier place pending
      rw [same] at pending ⊢
      rw [capacity] at inRange
      exact remembers.knows _ ⟨place, inRange, pending, rfl⟩
    · have oneSame := earlier one onePending
      have otherSame := earlier other otherPending
      rw [oneSame] at onePending same
      rw [otherSame] at otherPending same
      rw [capacity] at oneInRange otherInRange
      exact remembers.once one oneInRange other otherInRange onePending otherPending same

section Runs

variable {participants : List Participant} {transactionCapacity finalEventCapacity : Nat}
  {creditCapacities : CreditDomain → Nat} {start : Controller}

theorem initializeController_remembers
    (accepted : initializeController participants transactionCapacity finalEventCapacity creditCapacities =
      .ok start) : start.Remembers := by
  have sound := (initializeController_conserved accepted).sound
  have free : ∀ index, (start.finalEventQueue.events index).state = .free := by
    unfold initializeController at accepted
    split at accepted
    · cases accepted
    split at accepted
    · cases accepted
    split at accepted
    · cases accepted
    · cases accepted
      exact fun _ => rfl
  refine ⟨sound, ?_, ?_⟩
  · rintro identity ⟨index, -, pending, -⟩
    rw [free] at pending
    cases pending
  · intro one _ other _ pending
    rw [free] at pending
    cases pending

/-- Along every run of a controller that recycles no entry of a waiting transaction, none of them is
run again, and the queue never has two pending events of one. -/
theorem run_once
    (accepted : initializeController participants transactionCapacity finalEventCapacity creditCapacities =
      .ok start) (calls : List ControllerCall) (keeps : Along Controller.perform KeepsPending calls start) :
    (∀ taken, taken <+: calls → (taken.foldl Controller.perform start).finalEventQueue.OncePending) ∧
      Along Controller.perform Quiet calls start := by
  have remembers := initializeController_remembers accepted
  constructor
  · rintro taken ⟨later, rfl⟩
    have ended := keeps.append.1.foldl (P := Remembers) (fun _ call kept keeps => (kept.perform call keeps).1)
      remembers
    exact ended.once
  · exact keeps.map (P := Remembers) (fun _ call kept keeps => (kept.perform call keeps).1)
      (fun _ call kept keeps => (kept.perform call keeps).2) remembers

/-- One transaction is run, another, and the first again. -/
def runAgain : List ControllerCall := [.run (decode 1) {}, .run (decode 2) {}, .run (decode 1) {}]

/-- Two ranks, with room for this many entries and for three events. -/
def threeEvents (entryCapacity : Nat) : Controller where
  participants := [rank 0, rank 1]
  transactionLedger := { entryCapacity := entryCapacity }
  creditLedger := { capacity := fun _ => 3 }
  finalEventQueue := { capacity := 3 }

theorem runAgain_once :
    (∀ taken, taken <+: runAgain →
      (taken.foldl Controller.perform (threeEvents 2)).finalEventQueue.OncePending) ∧
      Along Controller.perform Quiet runAgain (threeEvents 2) :=
  run_once (show initializeController [rank 0, rank 1] 2 3 (fun _ => 3) = .ok (threeEvents 2) from rfl) runAgain
    (by decide +kernel)

/-- With room for one entry, the second transaction takes the place of the first, whose event still
waits, and so the first is run again. -/
theorem runAgain_repeats : ¬ ∀ (participants : List Participant) (transactionCapacity finalEventCapacity : Nat)
    (creditCapacities : CreditDomain → Nat) (start : Controller) (calls : List ControllerCall),
    initializeController participants transactionCapacity finalEventCapacity creditCapacities = .ok start →
      (∀ taken, taken <+: calls → (taken.foldl Controller.perform start).finalEventQueue.OncePending) ∧
        Along Controller.perform Quiet calls start := by
  intro once
  obtain ⟨-, quiet⟩ := once [rank 0, rank 1] 1 3 (fun _ => 3) (threeEvents 1) runAgain rfl
  have silent := quiet.2.2.1 ⟨0, by decide +kernel, by decide +kernel, by decide +kernel⟩
  revert silent
  decide +kernel

end Runs

end Controller

end Sparkpipe.WorkTransaction
