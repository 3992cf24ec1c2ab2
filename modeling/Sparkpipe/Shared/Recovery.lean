import Sparkpipe.Shared.Holds

/-!
# Clearing a holder

When a process is gone, `SparkKvSharedIndexClearHolder` takes its bit out of every holder
word and frees the slots whose writer word names it. A process that owned a slot without
its name in the writer word leaves the slot being written for good, and one that had
locked a ready slot leaves it locked. Anywhere else it may stop.
-/

namespace Sparkpipe.KvSharedIndex

variable {slotCount : Nat} {system : System} {self other holder : Holder} {slot place : Nat}

section Clearing

/-- No slot of the index is lost: it is free, or ready without the lock and without the bit of the
holder that is gone, or written by another holder. -/
def Recovered (slotCount : Nat) (holder : Holder) (memory : Memory) : Prop :=
  ∀ slot < slotCount, (memory.slots slot).state = .free ∨
    ((memory.slots slot).state = .ready ∧ locked (memory.slots slot).holders = false ∧
      holds (memory.slots slot).holders holder = false) ∨
    ((memory.slots slot).state = .writing ∧ ∃ writer ≠ holder, (memory.slots slot).writer = some writer)

/-- The slot that a reclaimer has locked and not yet taken. -/
def Pc.reclaims : Pc → Option Nat
  | .reserve (.take slot) | .reserve (.unlock slot) => some slot
  | _ => none

/-- A process has stopped where it owns a slot without being named as its writer, or where it has a ready
slot locked. -/
def StoppedMidway (slotCount : Nat) (system : System) (self : Holder) : Prop :=
  ∃ slot < slotCount, (system.pc self).unnamed = some slot ∨
    ((system.pc self).reclaims = some slot ∧ (system.slot slot).state = .ready ∧
      locked (system.slot slot).holders = true)

instance (slotCount : Nat) (system : System) (self : Holder) : Decidable (StoppedMidway slotCount system self) := by
  unfold StoppedMidway
  infer_instance

/-- The slots are cleared one by one. -/
theorem clearHolder_slots (slotCount : Nat) (holder : Holder) (memory : Memory) (index : Nat) :
    (clearHolder slotCount holder memory).1.slots index =
      if index < slotCount then (clearSlot holder (memory.slots index)).1 else memory.slots index := by
  unfold clearHolder
  induction slotCount generalizing index with
  | zero => rfl
  | succ count ih =>
    rw [List.range_succ, List.foldl_append]
    simp only [List.foldl_cons, List.foldl_nil]
    by_cases here : index = count
    · rw [here, Function.update_self, if_pos (Nat.lt_succ_self count), ih, if_neg (Nat.lt_irrefl count)]
    · rw [Function.update_of_ne here, ih]
      have same : index < count ↔ index < count + 1 := by omega
      simp only [same]

/-- The process that makes a move. -/
def Move.mover : Move → Holder
  | .call self _ | .go self => self

theorem step_pc_other {move : Move} (apart : move.mover ≠ other) :
    (system.step slotCount move).pc other = system.pc other := by
  cases move with
  | call self call =>
    rw [System.step]
    split
    · exact enter_pc_other (Ne.symm apart) call
    · rfl
  | go self => exact take_pc_other (Ne.symm apart)

/-- A process that makes no move is in no call. -/
theorem run_pc_idle (slotCount : Nat) {moves : List Move} (unmoved : ∀ move ∈ moves, move.mover ≠ other) :
    (run slotCount moves).pc other = .idle := by
  unfold run
  have idle : ({} : System).pc other = .idle := rfl
  generalize ({} : System) = first at idle
  induction moves generalizing first with
  | nil => exact idle
  | cons move rest ih =>
    rw [List.foldl_cons]
    apply ih fun later among => unmoved later (.tail move among)
    rw [step_pc_other (unmoved move List.mem_cons_self)]
    exact idle

end Clearing

section Locks

/-- The slot whose holder word a process may have locked. -/
def Pc.locks : Pc → Option Nat
  | .reserve (.take slot) | .reserve (.unlock slot) | .claim slot .generation | .claim slot (.writer _)
  | .claim slot (.holders _) => some slot
  | _ => none

theorem Pc.locks_cases {pc : Pc} (locks : pc.locks = some slot) :
    pc.reclaims = some slot ∨ ∃ step, pc = .claim slot step := by
  cases pc with
  | reserve step =>
    cases step with
    | take victim => exact .inl locks
    | unlock victim => exact .inl locks
    | loadFree | takeFree | loadState | loadHolders | loadLastUse | reloadLastUse | lock =>
      exact absurd_none locks
  | claim place step =>
    cases step with
    | generation | writer claimed | holders claimed =>
      obtain rfl := Option.some.inj locks
      exact .inr ⟨_, rfl⟩
    | parentSlot claimed => exact absurd_none locks
  | idle | publish | abandon | acquire | release | find | read => exact absurd_none locks

/-- A lock belongs to a process that is about to take it away. -/
def Locks (system : System) : Prop :=
  ∀ slot, locked (system.slot slot).holders = true → ∃ owner, (system.pc owner).locks = some slot

/-- How a step changes who has locked a slot: it stores a holder word that is locked only if it was
before, or the process has locked the slot; otherwise a process goes on having it locked. -/
structure Act.LocksKept (act : Act) (pc : Pc) (memory : Memory) (place : Nat) : Prop where
  stored : ∀ word, act.write = some (place, .holders word) → locked word = true → act.next.locks = some place ∨
    (locked (memory.slots place).holders = true ∧ pc.locks ≠ some place)
  kept : (∀ word, act.write ≠ some (place, .holders word)) → pc.locks = some place → act.next.locks = some place

/-- A step of a process that has locked nothing, and stores no locked word of its own. -/
theorem Act.LocksKept.of_none {act : Act} {pc : Pc} {memory : Memory} (none : pc.locks = none)
    (stored : ∀ word, act.write = some (place, .holders word) → locked word = true →
      locked (memory.slots place).holders = true) : act.LocksKept pc memory place := by
  have apart : pc.locks ≠ some place := by
    rw [none]
    exact (Option.some_ne_none place).symm
  exact ⟨fun word written isLocked => .inr ⟨stored word written isLocked, apart⟩, fun _ holds_ => absurd holds_ apart⟩

theorem reserve_locks (slotCount : Nat) (self : Holder) (memory : Memory) (step : ReserveStep) (place : Nat) :
    ((Pc.reserve step).act slotCount self memory).LocksKept (.reserve step) memory place := by
  cases step with
  | lock slot =>
    by_cases unheld : (memory.slots slot).holders = 0
    · have acts : (Pc.reserve (.lock slot)).act slotCount self memory =
          { write := some (slot, .holders reclaimLock), next := .reserve (.take slot) } := if_pos unheld
      rw [acts]
      refine ⟨fun word written _ => ?_, fun _ holds_ => absurd_none holds_⟩
      exact .inl (congrArg some (congrArg Prod.fst (Option.some.inj written)))
    · have acts : (Pc.reserve (.lock slot)).act slotCount self memory = { next := victimFrom slotCount 0 {} } :=
        if_neg unheld
      rw [acts]
      exact .of_none rfl (by simp)
  | take slot =>
    by_cases ready : (memory.slots slot).state = .ready
    · have acts : (Pc.reserve (.take slot)).act slotCount self memory =
          { write := some (slot, .state .writing), next := .claim slot .generation } := if_pos ready
      rw [acts]
      exact ⟨by simp, fun _ holds_ => holds_⟩
    · have acts : (Pc.reserve (.take slot)).act slotCount self memory = { next := .reserve (.unlock slot) } :=
        if_neg ready
      rw [acts]
      exact ⟨by simp, fun _ holds_ => holds_⟩
  | unlock slot =>
    constructor
    · intro word written isLocked
      obtain ⟨_, rfl⟩ : slot = place ∧ 0 = word := by simpa [Pc.act, ReserveStep.act] using written
      exact absurd isLocked (by decide)
    · intro unwritten holds_
      obtain rfl := Option.some.inj holds_
      exact absurd rfl (unwritten 0)
  | takeFree slot =>
    apply Act.LocksKept.of_none rfl
    rw [Pc.act, ReserveStep.act]
    split
    · simp
    · simp
  | loadFree | loadState | loadHolders | loadLastUse | reloadLastUse =>
    exact .of_none rfl (by simp [Pc.act, ReserveStep.act])

theorem claim_locks (slotCount : Nat) (self : Holder) (memory : Memory) (step : ClaimStep) (place : Nat) :
    ((Pc.claim slot step).act slotCount self memory).LocksKept (.claim slot step) memory place := by
  cases step with
  | generation => exact ⟨by simp [Pc.act, ClaimStep.act], fun _ holds_ => holds_⟩
  | writer generation => exact ⟨by simp [Pc.act, ClaimStep.act], fun _ holds_ => holds_⟩
  | holders generation =>
    constructor
    · intro word written isLocked
      obtain ⟨_, rfl⟩ : slot = place ∧ bit self = word := by simpa [Pc.act, ClaimStep.act] using written
      rw [locked_bit] at isLocked
      exact Bool.noConfusion isLocked
    · intro unwritten holds_
      obtain rfl := Option.some.inj holds_
      exact absurd rfl (unwritten (bit self))
  | parentSlot generation => exact .of_none rfl (by simp [Pc.act, ClaimStep.act])

theorem act_locks (slotCount : Nat) (self : Holder) (memory : Memory) (pc : Pc) (place : Nat) :
    (pc.act slotCount self memory).LocksKept pc memory place := by
  cases pc with
  | idle => exact .of_none rfl (by simp [Pc.act])
  | reserve step => exact reserve_locks slotCount self memory step place
  | claim slot step => exact claim_locks slotCount self memory step place
  | publish slot publication step =>
    cases step with
    | loadState | loadWriter | identity | tokenCount | parentSlot | parentGeneration | clock | lastUse | writer
    | state => exact .of_none rfl (by simp [Pc.act, PublishStep.act])
  | abandon slot step =>
    cases step with
    | holders =>
      apply Act.LocksKept.of_none rfl
      intro word written isLocked
      obtain ⟨_, rfl⟩ : slot = place ∧ 0 = word := by simpa [Pc.act, AbandonStep.act] using written
      exact absurd isLocked (by decide)
    | loadState | loadWriter | writer | state => exact .of_none rfl (by simp [Pc.act, AbandonStep.act])
  | acquire slot generation step =>
    cases step with
    | holders =>
      apply Act.LocksKept.of_none rfl
      intro word written isLocked
      obtain ⟨rfl, rfl⟩ : slot = place ∧ (memory.slots slot).holders ||| bit self = word := by
        simpa [Pc.act, AcquireStep.act] using written
      exact (locked_or _ self).symm.trans isLocked
    | undo =>
      apply Act.LocksKept.of_none rfl
      intro word written isLocked
      obtain ⟨rfl, rfl⟩ : slot = place ∧ (memory.slots slot).holders &&& ~~~bit self = word := by
        simpa [Pc.act, AcquireStep.act] using written
      exact (locked_and_not _ self).symm.trans isLocked
    | loadState | loadGeneration | clock | lastUse => exact .of_none rfl (by simp [Pc.act, AcquireStep.act])
  | release slot step =>
    cases step with
    | holders =>
      apply Act.LocksKept.of_none rfl
      intro word written isLocked
      obtain ⟨rfl, rfl⟩ : slot = place ∧ (memory.slots slot).holders &&& ~~~bit self = word := by
        simpa [Pc.act, ReleaseStep.act] using written
      exact (locked_and_not _ self).symm.trans isLocked
    | clock | lastUse => exact .of_none rfl (by simp [Pc.act, ReleaseStep.act])
  | find slot query => exact .of_none rfl (by simp [Pc.act])
  | read slot query step => exact .of_none rfl (by simp [Pc.act, ReadStep.act_write])

/-- A slot is locked after a step when it was before, unless the step has stored its holder word. -/
theorem take_locks (locks : Locks system) (self : Holder) : Locks (system.take slotCount self) := by
  intro place isLocked
  have changes := act_locks slotCount self system.memory (system.pc self) place
  have goesOn : ∀ owner, (system.pc owner).locks = some place →
      (owner = self → ((system.pc self).act slotCount self system.memory).next.locks = some place) →
      ∃ owner, ((system.take slotCount self).pc owner).locks = some place := by
    intro owner owns own
    by_cases here : owner = self
    · refine ⟨self, ?_⟩
      rw [take_pc]
      exact own here
    · exact ⟨owner, (take_pc_other here).symm ▸ owns⟩
  by_cases written : ∃ word, ((system.pc self).act slotCount self system.memory).write = some (place, .holders word)
  · obtain ⟨word, written⟩ := written
    rw [take_slot written] at isLocked
    rcases changes.stored word written isLocked with own | ⟨before, apart⟩
    · refine ⟨self, ?_⟩
      rw [take_pc]
      exact own
    · obtain ⟨owner, owns⟩ := locks place before
      exact goesOn owner owns fun here => absurd (here ▸ owns) apart
  · have kept : ((system.take slotCount self).slot place).holders = (system.slot place).holders := by
      rcases take_slot_cases slotCount system self place with same | ⟨write, stores, changed⟩
      · rw [same]
      · rw [changed]
        cases write with
        | holders word => exact absurd ⟨word, stores⟩ written
        | state | writer | generation | lastUse | identity | tokenCount | parentSlot | parentGeneration => rfl
    rw [kept] at isLocked
    obtain ⟨owner, owns⟩ := locks place isLocked
    exact goesOn owner owns fun here => changes.kept (fun word same => written ⟨word, same⟩) (here ▸ owns)

theorem enter_locks (locks : Locks system) (idle : system.pc self = .idle) (call : Call) :
    Locks (system.enter slotCount self call) := by
  intro place isLocked
  obtain ⟨owner, owns⟩ := locks place isLocked
  have apart : owner ≠ self := by
    rintro rfl
    rw [idle] at owns
    exact absurd_none owns
  exact ⟨owner, (enter_pc_other apart call).symm ▸ owns⟩

/-- In every interleaving, a lock belongs to a process that is about to take it away. -/
theorem run_locks (slotCount : Nat) (moves : List Move) : Locks (run slotCount moves) := by
  have start : Locks {} := fun slot isLocked => absurd isLocked (by simp [System.slot, locked])
  apply run_keeps _ start moves
  intro system move locks
  exact step_keeps system move (fun _ call idle => enter_locks locks idle call) (take_locks locks) locks

end Locks

section Recovery

theorem clearSlot_named {holder : Holder} {slot : Slot} (named : slot.state = .writing ∧ slot.writer = some holder) :
    (clearSlot holder slot).1.state = .free := by
  unfold clearSlot
  dsimp only
  rw [if_pos named]

/-- A slot that the holder does not write loses only the bit of the holder. -/
theorem clearSlot_other {holder : Holder} {slot : Slot} (other : ¬ (slot.state = .writing ∧ slot.writer = some holder)) :
    (clearSlot holder slot).1 = { slot with holders := slot.holders &&& ~~~bit holder } := by
  unfold clearSlot
  dsimp only
  rw [if_neg other]

/-- When a process has stopped and every other one is in no call, clearing its holder number loses no
slot, exactly when it has not stopped midway. -/
theorem clearHolder_recovers_iff (moves : List Move) (holder : Holder)
    (quiescent : ∀ other ≠ holder, (run slotCount moves).pc other = .idle) :
    Recovered slotCount holder (clearHolder slotCount holder (run slotCount moves).memory).1 ↔
      ¬ StoppedMidway slotCount (run slotCount moves) holder := by
  have exclusive := run_exclusive slotCount moves
  have locks := run_locks slotCount moves
  generalize run slotCount moves = system at quiescent exclusive locks
  have alone : ∀ owner, system.pc owner ≠ .idle → owner = holder :=
    fun owner busy => by_contra fun apart => busy (quiescent owner apart)
  unfold Recovered
  simp only [clearHolder_slots]
  constructor
  · rintro recovered ⟨slot, below, unnamed | ⟨reclaims, ready, isLocked⟩⟩
    · obtain ⟨writing, unwritten⟩ := exclusive.unnamed holder slot unnamed
      have other : ¬ ((system.memory.slots slot).state = .writing ∧ (system.memory.slots slot).writer = some holder) :=
        fun both => absurd_none (unwritten.symm.trans both.2)
      have here := recovered slot below
      rw [if_pos below, clearSlot_other other] at here
      rcases here with free | ⟨ready, _⟩ | ⟨_, writer, _, written⟩
      · exact absurd (writing.symm.trans free) (by simp)
      · exact absurd (writing.symm.trans ready) (by simp)
      · exact absurd_none (unwritten.symm.trans written)
    · have other : ¬ ((system.memory.slots slot).state = .writing ∧ (system.memory.slots slot).writer = some holder) :=
        fun both => absurd (ready.symm.trans both.1) (by simp)
      have here := recovered slot below
      rw [if_pos below, clearSlot_other other] at here
      rcases here with free | ⟨_, unlocked, _⟩ | ⟨writing, _⟩
      · exact absurd (ready.symm.trans free) (by simp)
      · rw [locked_and_not] at unlocked
        exact absurd (isLocked.symm.trans unlocked) (by simp)
      · exact absurd (ready.symm.trans writing) (by simp)
  · intro finished slot below
    rw [if_pos below]
    by_cases named : (system.memory.slots slot).state = .writing ∧ (system.memory.slots slot).writer = some holder
    · exact .inl (clearSlot_named named)
    · rw [clearSlot_other named]
      cases state : (system.memory.slots slot).state with
      | free => exact .inl rfl
      | ready =>
        refine .inr (.inl ⟨rfl, ?_, holds_and_not_self _ holder⟩)
        rw [locked_and_not]
        by_contra isLocked
        have isLocked : locked (system.slot slot).holders = true := eq_true_of_ne_false isLocked
        obtain ⟨owner, owns⟩ := locks slot isLocked
        have idle : (system.slot slot).state ≠ .writing := by simp [System.slot, state]
        obtain rfl : owner = holder := by
          apply alone
          intro none
          rw [none] at owns
          exact absurd_none owns
        -- A process that claims the slot would own it, so the lock is that of a reclaimer.
        have reclaims : (system.pc owner).reclaims = some slot := by
          rcases Pc.locks_cases owns with reclaims | ⟨step, claims⟩
          · exact reclaims
          · exact absurd claims (exclusive.unclaimed idle owner step)
        exact finished ⟨slot, below, .inr ⟨reclaims, state, isLocked⟩⟩
      | writing =>
        refine .inr (.inr ⟨rfl, ?_⟩)
        cases writer : (system.memory.slots slot).writer with
        | some process =>
          refine ⟨process, ?_, rfl⟩
          rintro rfl
          exact named ⟨state, writer⟩
        | none =>
          obtain ⟨owner, owns⟩ := exclusive.owned slot state writer
          obtain rfl : owner = holder := by
            apply alone
            intro none
            rw [none] at owns
            exact absurd_none owns
          exact absurd ⟨slot, below, .inl owns⟩ finished

theorem firstHolder_lt : 0 < 63 := by decide

/-- The process of the runs below. -/
def firstHolder : Holder := ⟨0, firstHolder_lt⟩

/-- A process stops inside `SparkKvSharedIndexReserve`, right after it has stored its name as the
writer of the slot. -/
def stoppedNamed : List Move :=
  [.call firstHolder .reserve] ++ steps firstHolder 4

theorem clearHolder_recovers_stoppedNamed :
    Recovered 1 0 (clearHolder 1 0 (run 1 stoppedNamed).memory).1 := by
  have quiescent : ∀ other ≠ (0 : Holder), (run 1 stoppedNamed).pc other = .idle := by
    intro other apart
    apply run_pc_idle
    have moved : ∀ move ∈ stoppedNamed, move.mover = 0 := by decide
    exact fun move among same => apart (same.symm.trans (moved move among))
  have finished : ¬ StoppedMidway 1 (run 1 stoppedNamed) 0 := by decide +kernel
  exact (clearHolder_recovers_iff stoppedNamed 0 quiescent).mpr finished

/-- A process stops inside `SparkKvSharedIndexReserve`, between the exchange that makes the slot its own and
the store of its name. -/
def stoppedUnnamed : List Move :=
  [.call firstHolder .reserve] ++ steps firstHolder 2

/-- The slot is written by nobody for good. -/
theorem clearHolder_loses : ¬ ∀ slotCount moves (holder : Holder),
    (∀ other ≠ holder, (run slotCount moves).pc other = .idle) →
      Recovered slotCount holder (clearHolder slotCount holder (run slotCount moves).memory).1 := by
  intro recovers
  have quiescent : ∀ other ≠ (0 : Holder), (run 1 stoppedUnnamed).pc other = .idle := by
    intro other apart
    apply run_pc_idle
    have moved : ∀ move ∈ stoppedUnnamed, move.mover = 0 := by decide
    exact fun move among same => apart (same.symm.trans (moved move among))
  have writing : ((clearHolder 1 0 (run 1 stoppedUnnamed).memory).1.slots 0).state = .writing := by decide +kernel
  have unwritten : ((clearHolder 1 0 (run 1 stoppedUnnamed).memory).1.slots 0).writer = none := by decide +kernel
  rcases recovers 1 stoppedUnnamed 0 quiescent 0 Nat.one_pos with free | ⟨ready, _⟩ | ⟨_, writer, _, written⟩
  · exact absurd (writing.symm.trans free) (by decide)
  · exact absurd (writing.symm.trans ready) (by decide)
  · exact absurd_none (unwritten.symm.trans written)

end Recovery

end Sparkpipe.KvSharedIndex
