import Sparkpipe.Transaction.Once

/-!
# Retrying a transaction

A transaction that finds no credit is answered with `BUSY`. By then its identity is in the ledger,
and its entry is cancelled on the way out, so what comes again with this identity is taken for a
repetition of a transaction that is over. It runs only when the ledger has given the entry up.
-/

namespace Sparkpipe.WorkTransaction

open Function

namespace Ledger

variable {ledger : Ledger} {identity other : Identity} {entry : Entry} {payloadFingerprint : UInt64}

/-- No transaction of the ledger is under way. -/
def Idle (ledger : Ledger) : Prop :=
  ∀ identity entry, ledger.lookup identity = some entry → entry.state.isTerminal = true

/-- An idle ledger has room for one more identity: its probes reach every slot, and the scan for
the oldest terminal entry passes none over. -/
structure Roomy (ledger : Ledger) : Prop where
  small : ledger.entryCapacity ≤ 2 ^ 31
  early : ∀ identity entry, ledger.lookup identity = some entry → entry.lastObservedEpoch < 2 ^ 64 - 1

theorem Sound.idle_active (sound : ledger.Sound) (idle : ledger.Idle) : ledger.activeEntryCount = 0 := by
  rw [sound.activeCount]
  refine tally_eq_zero fun index _ => ?_
  rw [Bool.eq_false_iff]
  intro active
  obtain ⟨stored, running⟩ := Bool.and_eq_true_iff.mp active
  have terminal := idle _ _ (sound.lookup_entries stored)
  rw [terminal] at running
  cases running

/-- Before the search of an observation, the table holds nothing that it did not hold. -/
theorem Opened.lookup_old {base : Ledger} (sound : ledger.Sound) (opened : Opened ledger identity base)
    (found : base.lookup other = some entry) : ledger.lookup other = some entry := by
  rcases opened.lookup_cases sound other with same | ⟨emptied, -⟩
  · rwa [same] at found
  · rw [emptied] at found
    cases found

/-- Where no slot is left, the oldest terminal entry makes room. -/
theorem Sound.observeNew_new (sound : ledger.Sound) (idle : ledger.Idle) (roomy : ledger.Roomy) :
    (ledger.observeNew identity payloadFingerprint).observation = some .new := by
  unfold observeNew
  cases selected : ledger.selectInsertionEntry identity with
  | some room => rfl
  | none =>
    have first : ledger.probe identity 0 ∈ ledger.probes identity :=
      List.mem_map.mpr ⟨0, List.mem_range.mpr sound.capacity, rfl⟩
    have found := sound.lookup_entries (selectInsertionEntry_none selected _ first)
    dsimp only
    cases oldest : ledger.recycleOldestTerminalEntry with
    | none =>
      -- the first entry on the way is terminal, and early enough for the scan
      rcases leastRanked_cases (fun index => (ledger.entries index).state.isTerminal)
          (fun index => (ledger.entries index).lastObservedEpoch) (List.range ledger.entryCapacity)
          (2 ^ 64 - 1) none with ⟨-, past⟩ | ⟨index, -, scanned, -⟩
      · have late := past _ (List.mem_range.mpr (Nat.mod_lt _ sound.capacity)) (idle _ _ found)
        exact absurd (roomy.early _ _ found) (Nat.not_lt_of_le late)
      · unfold recycleOldestTerminalEntry oldestTerminalEntry at oldest
        rw [scanned] at oldest
        cases oldest
    | some recycled =>
      dsimp only
      obtain ⟨index, scanned, rfl⟩ := Option.map_eq_some_iff.mp oldest
      obtain ⟨inRange, -⟩ := leastRanked_some scanned
      split
      · rename_i nowhere
        obtain ⟨distance, near, reached⟩ := probe_onto roomy.small identity (List.mem_range.mp inRange)
        have stored := selectInsertionEntry_none nowhere index
          (List.mem_map.mpr ⟨distance, List.mem_range.mpr near, reached⟩)
        unfold setEntry at stored
        dsimp only at stored
        rw [update_self] at stored
        cases stored
      · rfl

/-- What an idle ledger does not know, it observes as new. -/
theorem Sound.observe_new (sound : ledger.Sound) (idle : ledger.Idle) (roomy : ledger.Roomy)
    (valid : identity.isValid = true) (fingerprint : payloadFingerprint ≠ 0) (unknown : ¬ ledger.Knows identity) :
    (ledger.observe identity payloadFingerprint).observation = some .new := by
  unfold Ledger.observe
  rw [if_neg (by simp [fingerprint, sound.valid, valid])]
  dsimp only
  rcases sound.opened valid with ⟨refused, -⟩ | ⟨prepared, opened⟩
  · refine absurd ?_ refused
    have current : ¬ identity.controlGeneration < ledger.activeControlGeneration :=
      fun older => unknown (.inr older)
    unfold prepareControlGeneration
    rw [if_neg current, if_neg (not_not.mpr (sound.idle_active idle))]
    split_ifs
    all_goals rfl
  · rw [if_neg (not_not.mpr prepared)]
    generalize (ledger.prepareControlGeneration identity.controlGeneration).2.advanceEpoch = base at opened ⊢
    cases found : base.findInternal identity with
    | some index =>
      have isFound : base.lookup identity = some (base.entries index) := by
        unfold lookup
        rw [found]
        rfl
      exact absurd (Or.inl ⟨_, opened.lookup_old sound isFound⟩) unknown
    | none =>
      refine opened.sound.observeNew_new (fun _ _ held => idle _ _ (opened.lookup_old sound held)) ⟨?_, ?_⟩
      · rw [opened.capacity]
        exact roomy.small
      · exact fun _ _ held => roomy.early _ _ (opened.lookup_old sound held)

/-- After an observation only the entry that it has added is not terminal. -/
theorem Sound.observe_idle (sound : ledger.Sound) (idle : ledger.Idle)
    (found : (ledger.observe identity payloadFingerprint).ledger.lookup other = some entry)
    (old : (ledger.observe identity payloadFingerprint).observation = some .new → other ≠ identity) :
    entry.state.isTerminal = true := by
  obtain ⟨-, ⟨-, -, same⟩ | ⟨base, opened, ends⟩⟩ := sound.observe identity payloadFingerprint
  · rw [same] at found
    exact idle _ _ found
  · have terminal : ∀ {other entry}, base.lookup other = some entry → entry.state.isTerminal = true :=
      fun held => idle _ _ (opened.lookup_old sound held)
    cases ends with
    | again again isFound observation status map epoch =>
      rw [map] at found
      by_cases here : other = identity
      · rw [here, update_self] at found
        cases found
        change again.state.isTerminal = true
        exact terminal isFound
      · rw [update_of_ne here] at found
        exact terminal found
    | full middle missing vacates status observation map epoch =>
      rw [map] at found
      exact terminal (vacates.kept found)
    | new middle missing vacates status observation map epoch =>
      rw [map, update_of_ne (old observation)] at found
      exact terminal (vacates.kept found)

end Ledger

namespace Attempt

variable {attempt : Attempt} {domain : CreditDomain} {outcomes : Outcomes}

/-- A loop of callbacks comes to a participant when all before it have succeeded. -/
theorem invokeEach_reaches {callback : Nat → Callback} {outcome : Nat → SparkStatus} {participant count : Nat}
    {first : Nat} (behind : first ≤ participant) (inRange : participant < first + count)
    (earlier : ∀ other, first ≤ other → other < participant → outcome other = .ok) :
    callback participant ∈ (invokeEach callback outcome (List.range' first count)).2.1 := by
  induction count generalizing first with
  | zero => omega
  | succ count ih =>
    rw [List.range'_succ]
    unfold invokeEach
    by_cases here : first = participant
    · subst here
      split
      · exact List.mem_singleton_self _
      · exact .head _
    · rw [if_neg (not_not.mpr (earlier first (Nat.le_refl _) (by omega)))]
      exact .tail _ (ih (by omega) (by omega) fun other from_ => earlier other (by omega))

theorem acquire_callbacks (attempt : Attempt) (domain : CreditDomain) :
    (attempt.acquire domain).2.callbacks = attempt.callbacks := by
  unfold acquire
  dsimp only
  split
  · rfl
  · rfl

theorem release_callbacks (attempt : Attempt) (domain : CreditDomain) :
    (attempt.release domain).callbacks = attempt.callbacks := by
  unfold release
  split
  · rfl
  · rfl

/-- What has been called stays called, however the transaction ends. -/
theorem fail_callbacks (attempt : Attempt) (terminalState : State) (status : SparkStatus) :
    attempt.callbacks <+: (attempt.fail terminalState status).callbacks := by
  unfold fail ended
  dsimp only
  rw [release_callbacks, release_callbacks, release_callbacks, release_callbacks]
  exact List.prefix_append ..

theorem commitAll_callbacks (attempt : Attempt) : attempt.callbacks <+: attempt.commitAll.callbacks := by
  unfold commitAll releaseAfterCommit ended
  dsimp only
  split_ifs
  all_goals
    rw [release_callbacks, release_callbacks, release_callbacks]
    exact List.prefix_append ..

theorem executeAll_callbacks (attempt : Attempt) (outcomes : Outcomes) :
    attempt.callbacks <+: (attempt.executeAll outcomes).callbacks := by
  unfold executeAll
  dsimp only
  split_ifs
  · exact fail_callbacks (attempt.move .executing .pending).2 _ _
  · refine List.IsPrefix.trans ?_ (fail_callbacks _ _ _)
    exact List.prefix_append ..
  · refine List.IsPrefix.trans ?_ (commitAll_callbacks _)
    exact List.prefix_append ..

theorem acceptAll_callbacks (attempt : Attempt) (outcomes : Outcomes) :
    attempt.callbacks <+: (attempt.acceptAll outcomes).callbacks := by
  unfold acceptAll
  dsimp only
  have acquired := acquire_callbacks (attempt.move .accepted .pending).2 .execution
  split_ifs
  · exact fail_callbacks (attempt.move .accepted .pending).2 _ _
  · exact acquired ▸ fail_callbacks _ _ _
  · exact acquired ▸ executeAll_callbacks _ _

/-- The participants are asked to prepare, one after the other, up to the first that refuses. -/
def Prepares (count : Nat) (outcomes : Outcomes) (callbacks : List Callback) : Prop :=
  ∀ participant < count, (∀ earlier < participant, outcomes.prepare earlier = .ok) →
    Callback.prepare participant ∈ callbacks

theorem prepareAll_prepares (attempt : Attempt) (outcomes : Outcomes) :
    Prepares attempt.controller.participants.length outcomes (attempt.prepareAll outcomes).callbacks := by
  intro participant inRange earlier
  have reached : Callback.prepare participant ∈ (invokeEach .prepare outcomes.prepare attempt.indices).2.1 := by
    unfold indices
    rw [List.range_eq_range']
    exact invokeEach_reaches (Nat.zero_le _) (by omega) fun other _ before => earlier other before
  unfold prepareAll
  dsimp only
  split_ifs
  · exact (fail_callbacks _ _ _).subset (List.mem_append_right _ reached)
  · exact (acceptAll_callbacks _ _).subset (List.mem_append_right _ reached)

/-- A credit is granted where one is left. -/
theorem acquire_room (room : attempt.controller.creditLedger.inUse domain <
    attempt.controller.creditLedger.capacity domain) :
    (attempt.acquire domain).1 = .ok ∧
      (attempt.acquire domain).2.controller.participants = attempt.controller.participants ∧
      ∀ other, other ≠ domain → (attempt.acquire domain).2.controller.creditLedger.inUse other =
          attempt.controller.creditLedger.inUse other ∧
        (attempt.acquire domain).2.controller.creditLedger.capacity other =
          attempt.controller.creditLedger.capacity other := by
  have granted : ¬ (attempt.controller.creditLedger.capacity domain < attempt.controller.creditLedger.inUse domain ∨
      attempt.controller.creditLedger.capacity domain - attempt.controller.creditLedger.inUse domain < 1) := by
    omega
  unfold acquire CreditLedger.acquireCredit
  rw [if_neg granted]
  exact ⟨rfl, rfl, fun other apart => ⟨update_of_ne apart .., rfl⟩⟩

/-- With credits in every domain a new transaction prepares the participants. -/
theorem runNew_prepares (attempt : Attempt) {participants : List Participant}
    (same : attempt.controller.participants = participants)
    (room : ∀ domain, attempt.controller.creditLedger.inUse domain <
      attempt.controller.creditLedger.capacity domain) (outcomes : Outcomes) :
    Prepares participants.length outcomes (attempt.runNew outcomes).callbacks := by
  obtain ⟨first, firstParticipants, firstOthers⟩ := acquire_room (room .transportWindow)
  unfold runNew
  dsimp only
  rw [if_neg (not_not.mpr first)]
  generalize (attempt.acquire .transportWindow).2 = transport at firstParticipants firstOthers ⊢
  obtain ⟨second, secondParticipants, secondOthers⟩ := @acquire_room transport .residentReservation (by
    rw [(firstOthers _ (by decide)).1, (firstOthers _ (by decide)).2]
    exact room _)
  rw [if_neg (not_not.mpr second)]
  generalize (transport.acquire .residentReservation).2 = reservation at secondParticipants secondOthers ⊢
  obtain ⟨third, thirdParticipants, -⟩ := @acquire_room reservation .completionOwnership (by
    rw [(secondOthers _ (by decide)).1, (secondOthers _ (by decide)).2, (firstOthers _ (by decide)).1,
      (firstOthers _ (by decide)).2]
    exact room _)
  rw [if_neg (not_not.mpr third), ← same, ← firstParticipants, ← secondParticipants, ← thirdParticipants]
  exact prepareAll_prepares _ outcomes

end Attempt

namespace Controller

variable {controller : Controller}

/-- A credit domain has nothing left. -/
def Exhausted (controller : Controller) : Prop :=
  ∃ domain, controller.creditLedger.capacity domain ≤ controller.creditLedger.inUse domain

/-- A new transaction is answered with `BUSY` where a credit domain is exhausted. -/
structure Busy (controller : Controller) (request : TransactionRequest) (outcomes : Outcomes) : Prop where
  starts : controller.starts request = true
  exhausted : controller.Exhausted
  status : (controller.runTransaction request outcomes).status = .busy

theorem valid_request {request : TransactionRequest} (valid : (controller.validateTransactionRequest request).1 = .ok) :
    0 < controller.participants.length ∧ request.identity.isValid = true := by
  unfold validateTransactionRequest at valid
  split at valid
  · cases valid
  · rename_i inOrder
    simp only [not_or, Bool.not_eq_false] at inOrder
    exact ⟨Nat.pos_of_ne_zero inOrder.1, inOrder.2.2.1⟩

section

variable (sound : controller.transactionLedger.Sound)
include sound

theorem perform_sound (call : ControllerCall) :
    (controller.perform call).transactionLedger.Sound := by
  cases call with
  | run request outcomes =>
    have runs := runTransaction_runs sound request outcomes
    unfold perform
    dsimp only
    generalize controller.runTransaction request outcomes = ran at runs ⊢
    cases runs with
    | refused starts callbacks same => rwa [same]
    | known starts valid callbacks observed =>
      rw [observed]
      exact (sound.observe _ _).1
    | new base starts observed settled =>
      rcases settled with rolledBack | ⟨rolledBack | committed | stranded, -⟩
      · exact rolledBack.closed.sound
      · exact rolledBack.closed.sound
      · exact committed.closed.sound
      · exact stranded.closed.sound
  | acknowledge identity eventGeneration payloadFingerprint =>
    rw [acknowledge_ledger]
    exact sound

theorem runs_sound (calls : List ControllerCall) :
    (calls.foldl perform controller).transactionLedger.Sound := by
  induction calls generalizing controller with
  | nil => exact sound
  | cons call rest ih => exact ih (perform_sound sound call)

/-- Between two calls no transaction is under way. -/
theorem perform_idle (idle : controller.transactionLedger.Idle) (call : ControllerCall) :
    (controller.perform call).transactionLedger.Idle := by
  cases call with
  | run request outcomes =>
    have runs := runTransaction_runs sound request outcomes
    unfold perform
    dsimp only
    generalize controller.runTransaction request outcomes = ran at runs ⊢
    cases runs with
    | refused notStarts callbacks same => rwa [same]
    | known notStarts valid callbacks observed =>
      rw [observed]
      intro identity entry found
      refine sound.observe_idle idle found fun new => ?_
      unfold starts at notStarts
      rw [decide_eq_true valid, decide_eq_true new] at notStarts
      cases notStarts
    | new base starts observed settled =>
      have ends (closed : Attempt.Closed base request ran.controller) : ran.controller.transactionLedger.Idle := by
        intro identity entry found
        by_cases here : identity = request.identity
        · obtain ⟨own, isOwn, terminal⟩ := closed.entry
          rw [here, isOwn] at found
          cases found
          exact terminal
        · rw [closed.others identity here, observed] at found
          exact sound.observe_idle idle found fun _ => here
      rcases settled with rolledBack | ⟨rolledBack | committed | stranded, -⟩
      · exact ends rolledBack.closed
      · exact ends rolledBack.closed
      · exact ends committed.closed
      · exact ends stranded.closed
  | acknowledge identity eventGeneration payloadFingerprint =>
    rw [acknowledge_ledger]
    exact idle

theorem runs_idle (idle : controller.transactionLedger.Idle) (calls : List ControllerCall) :
    (calls.foldl perform controller).transactionLedger.Idle := by
  induction calls generalizing controller with
  | nil => exact idle
  | cons call rest ih => exact ih (perform_sound sound call) (perform_idle sound idle call)

/-- A transaction that has started is known when it is over, however it ends. -/
theorem started_knows {request : TransactionRequest}
    (starts : controller.starts request = true) (outcomes : Outcomes) :
    (controller.perform (.run request outcomes)).transactionLedger.Knows request.identity := by
  have runs := runTransaction_runs sound request outcomes
  unfold perform
  dsimp only
  generalize controller.runTransaction request outcomes = ran at runs ⊢
  have ends (base : Controller) (closed : Attempt.Closed base request ran.controller) :
      ran.controller.transactionLedger.Knows request.identity := by
    obtain ⟨entry, found, -⟩ := closed.entry
    exact .inl ⟨entry, found⟩
  cases runs with
  | refused idle => rw [idle] at starts; cases starts
  | known idle => rw [idle] at starts; cases starts
  | new base starts observed settled =>
    rcases settled with rolledBack | ⟨rolledBack | committed | stranded, -⟩
    · exact ends base rolledBack.closed
    · exact ends base rolledBack.closed
    · exact ends base committed.closed
    · exact ends base stranded.closed

/-- What the ledger knows is not run. -/
theorem known_silent {request : TransactionRequest}
    (knows : controller.transactionLedger.Knows request.identity) (outcomes : Outcomes) :
    (controller.runTransaction request outcomes).callbacks = [] := by
  have idle : controller.starts request = false := by
    unfold starts
    rw [decide_eq_false (sound.knows_observation knows _), Bool.and_false]
  cases runTransaction_runs sound request outcomes with
  | refused _ callbacks => exact callbacks
  | known _ _ callbacks => exact callbacks
  | new base starts => rw [idle] at starts; cases starts

/-- What the ledger does not know is run, once every domain has a credit. -/
theorem unknown_prepares (idle : controller.transactionLedger.Idle) (roomy : controller.transactionLedger.Roomy)
    {request : TransactionRequest} (valid : (controller.validateTransactionRequest request).1 = .ok)
    (unknown : ¬ controller.transactionLedger.Knows request.identity) (released : ¬ controller.Exhausted)
    (outcomes : Outcomes) : Attempt.Prepares controller.participants.length outcomes
      (controller.runTransaction request outcomes).callbacks := by
  have new := sound.observe_new idle roomy (valid_request valid).2 (fingerprint_ne_zero valid) unknown
  have room : ∀ domain, controller.creditLedger.inUse domain < controller.creditLedger.capacity domain :=
    fun domain => Nat.lt_of_not_le fun exhausted => released ⟨domain, exhausted⟩
  unfold runTransaction
  dsimp only
  rw [if_neg (not_not.mpr valid), if_neg (not_not.mpr (observed_new sound _ new).1), if_neg (not_not.mpr new)]
  refine Attempt.runNew_prepares _ ?_ ?_ outcomes
  · rfl
  · exact room

end

/-- The controller after some final events have been acknowledged, which is what releases credits. -/
def acknowledgeAll (controller : Controller) (acknowledged : List (Identity × Nat × UInt64)) : Controller :=
  (acknowledged.map fun event => ControllerCall.acknowledge event.1 event.2.1 event.2.2).foldl perform controller

theorem acknowledgeAll_ledger (controller : Controller) (acknowledged : List (Identity × Nat × UInt64)) :
    (controller.acknowledgeAll acknowledged).transactionLedger = controller.transactionLedger := by
  induction acknowledged generalizing controller with
  | nil => rfl
  | cons event rest ih => exact (ih _).trans (controller.acknowledge_ledger ..)

variable {participants : List Participant} {transactionCapacity finalEventCapacity : Nat}
  {creditCapacities : CreditDomain → Nat} {start : Controller}

theorem initializeController_entries
    (accepted : initializeController participants transactionCapacity finalEventCapacity creditCapacities =
      .ok start) (index : Nat) : start.transactionLedger.entries index = {} := by
  unfold initializeController at accepted
  split_ifs at accepted
  unfold initializeLedger at accepted
  split at accepted
  · cases accepted
  · rename_i ledger made
    split_ifs at made
    cases made
    cases accepted
    rfl

/-- After `BUSY` nothing but room in the ledger helps. As long as only final events are acknowledged,
which is what releases credits, another transaction with the identity has no callback. When every
domain has a credit again, whatever else has been called, it prepares the participants exactly if the
ledger no longer knows the identity. -/
theorem busy_retried_iff
    (accepted : initializeController participants transactionCapacity finalEventCapacity creditCapacities =
      .ok start) (calls : List ControllerCall) {request : TransactionRequest} {outcomes : Outcomes}
    (busy : (calls.foldl perform start).Busy request outcomes) (retry : TransactionRequest) (retried : Outcomes)
    (same : retry.identity = request.identity) :
    (∀ acknowledged, ((((calls.foldl perform start).perform (.run request outcomes)).acknowledgeAll
      acknowledged).runTransaction retry retried).callbacks = []) ∧
    ∀ (later : List ControllerCall) (after : Controller),
      later.foldl perform ((calls.foldl perform start).perform (.run request outcomes)) = after →
      (after.validateTransactionRequest retry).1 = .ok → ¬ after.Exhausted →
      (Attempt.Prepares after.participants.length retried (after.runTransaction retry retried).callbacks →
        ¬ after.transactionLedger.Knows request.identity) ∧
      (after.transactionLedger.Roomy → ¬ after.transactionLedger.Knows request.identity →
        Attempt.Prepares after.participants.length retried (after.runTransaction retry retried).callbacks) := by
  have started := (initializeController_conserved accepted).sound
  have idleStart : start.transactionLedger.Idle := by
    intro identity entry found
    obtain ⟨index, rfl, stored, -⟩ := started.lookup_iff.mp found
    rw [initializeController_entries accepted] at stored
    cases stored
  have before := runs_sound started calls
  have after := perform_sound before (.run request outcomes)
  have knows := started_knows before busy.starts outcomes
  rw [← same] at knows ⊢
  constructor
  · intro acknowledged
    have ledger := acknowledgeAll_ledger ((calls.foldl perform start).perform (.run request outcomes)) acknowledged
    apply known_silent
    · rw [ledger]
      exact after
    · rw [ledger]
      exact knows
  · rintro later last rfl valid released
    have lastSound := runs_sound after later
    have lastIdle := runs_idle after (perform_idle before (runs_idle started idleStart calls) (.run request outcomes)) later
    constructor
    · intro prepares known
      have first := prepares 0 (valid_request valid).1 nofun
      rw [known_silent lastSound known retried] at first
      cases first
    · exact fun roomy unknown => unknown_prepares lastSound lastIdle roomy valid unknown released retried

/-- `twoRanks` with a ledger of one entry. -/
def oneEntry : Controller :=
  { twoRanks with transactionLedger := { twoRanks.transactionLedger with entryCapacity := 1 } }

/-- What follows the second of three transactions: the third takes its entry. -/
def takeEntry : List ControllerCall :=
  [.acknowledge (decode 1).identity 1 (fingerprintBytes [1, 2, 3]), .run (decode 3) {},
    .acknowledge (decode 3).identity 2 (fingerprintBytes [1, 2, 3])]

def entryTaken : Controller :=
  takeEntry.foldl perform
    ((([.run (decode 1) {}] : List ControllerCall).foldl perform oneEntry).perform (.run (decode 2) {}))

theorem initialized_oneEntry : initializeController [rank 0, rank 1] 1 1 (fun _ => 1) = .ok oneEntry := rfl

theorem sound_entryTaken : entryTaken.transactionLedger.Sound := by
  have started := (initializeController_conserved initialized_oneEntry).sound
  exact runs_sound (perform_sound (runs_sound started [.run (decode 1) {}]) (.run (decode 2) {})) takeEntry

theorem entry_entryTaken {identity : Identity} {entry : Entry}
    (found : entryTaken.transactionLedger.lookup identity = some entry) :
    entryTaken.transactionLedger.entries 0 = entry ∧ entry.identity = identity := by
  obtain ⟨index, rfl, stored, rfl⟩ := sound_entryTaken.lookup_iff.mp found
  have inRange := sound_entryTaken.stored_inRange stored
  have one : entryTaken.transactionLedger.entryCapacity = 1 := by decide +kernel
  obtain rfl : index = 0 := by omega
  exact ⟨rfl, rfl⟩

/-- The second transaction is new again, and both ranks prepare it. -/
theorem entryTaken_prepares : Attempt.Prepares 2 {} (entryTaken.runTransaction (decode 2) {}).callbacks := by
  have retried := (busy_retried_iff initialized_oneEntry [.run (decode 1) {}]
    (show Busy _ (decode 2) {} from
      ⟨by decide +kernel, ⟨.completionOwnership, by decide +kernel⟩, by decide +kernel⟩) (decode 2) {} rfl).2
    takeEntry entryTaken rfl (by decide +kernel) ?_
  · have two : entryTaken.participants.length = 2 := by decide +kernel
    rw [two] at retried
    refine retried.2 ⟨?_, fun identity entry found => ?_⟩ ?_
    · have one : entryTaken.transactionLedger.entryCapacity = 1 := by decide +kernel
      omega
    · rw [← (entry_entryTaken found).1]
      decide +kernel
    · rintro (⟨entry, found⟩ | newer)
      · obtain ⟨here, same⟩ := entry_entryTaken found
        rw [← here] at same
        revert same
        decide +kernel
      · revert newer
        decide +kernel
  · rintro ⟨domain, exhausted⟩
    revert exhausted
    cases domain <;> decide +kernel

/-- It is answered with `BUSY`, and when the credit is free again with `DUPLICATE`. -/
theorem secondBusy_duplicate :
    (([.run (decode 1) {}] : List ControllerCall).foldl perform twoRanks).Busy (decode 2) {} ∧
    ¬ ((((([.run (decode 1) {}] : List ControllerCall).foldl perform twoRanks).perform (.run (decode 2) {})).acknowledgeAll
      [((decode 1).identity, 1, fingerprintBytes [1, 2, 3])]).Exhausted) ∧
    ((((([.run (decode 1) {}] : List ControllerCall).foldl perform twoRanks).perform (.run (decode 2) {})).acknowledgeAll
      [((decode 1).identity, 1, fingerprintBytes [1, 2, 3])]).runTransaction (decode 2) {}).status = .duplicate := by
  refine ⟨⟨by decide +kernel, ⟨.completionOwnership, by decide +kernel⟩, by decide +kernel⟩, ?_, by decide +kernel⟩
  rintro ⟨domain, exhausted⟩
  revert exhausted
  cases domain <;> decide +kernel

end Controller

end Sparkpipe.WorkTransaction
