import Sparkpipe.Shared.Guards

/-!
# Holding a slot

The holder word of a slot is changed bit by bit, and it is also stored as a whole: when a
slot is claimed, when it is abandoned, and when a reclaimer that has locked the word finds
that the slot is not ready any more. That last store takes away whatever bit is there, and
a lock that another process has overwritten lets a reclaimer take a slot that is held. A
hold is safe as long as a reclaimer locks only slots that are ready, and a process acquires
only generations that have been published.
-/

namespace Sparkpipe.KvSharedIndex

variable {slotCount : Nat} {system : System} {self other : Holder} {slot place generation : Nat}

section Steps

/-- A process that can take a slot is alone with it when nobody holds it. -/
theorem Exclusive.alone_taker (exclusive : Exclusive system)
    (idle : (system.slot slot).state ≠ .writing) (unheld : ∀ other, holding other slot system.log = none)
    (untaken : ∀ other ≠ self, system.pc other ≠ .reserve (.take slot))
    (ungranted : ∀ other ≠ self, ∀ generation, ¬ Grant system slot other generation) : Alone system slot self :=
  ⟨fun other _ => unheld other, fun other _ => exclusive.unclaimed idle other, untaken, ungranted⟩

/-- Looking for a slot needs the guard of none. -/
theorem Pc.Looks.guards {pc : Pc} (looks : pc.Looks) : pc.guards = none := by
  cases pc with
  | idle | find => rfl
  | reserve step =>
    cases step with
    | take | unlock => exact looks.elim
    | loadFree | takeFree | loadState | loadHolders | loadLastUse | reloadLastUse | lock => rfl
  | claim | publish | abandon | acquire | release | read => exact looks.elim

theorem Act.unguarded_of_none {act : Act} (write : act.write = none) (event : act.event = none) (place : Nat) :
    act.Unguarded place := by
  constructor
  · exact fun other written => absurd_none (write.symm.trans written)
  · exact fun other happens => absurd_none (event.symm.trans happens)

/-- A step that writes nothing and goes on without the guard of any slot. -/
theorem Guarded.take_load (guarded : Guarded system place) (exclusive : Exclusive system) {next : Pc}
    (acts : (system.pc self).act slotCount self system.memory = { next := next })
    (open_ : ∀ publication, system.pc self ≠ .publish place publication .state) (after : next.guards = none) :
    Guarded (system.take slotCount self) place := by
  apply guarded.take_plain acts exclusive (Act.unguarded_of_none rfl rfl place) open_
  rw [after]
  exact (Option.some_ne_none place).symm

section

variable (guarded : ∀ place, Guarded system place)
include guarded

/-- A reclaimer locks a slot that is ready: nobody holds it, and nobody else has locked it. -/
theorem lock_guarded (exclusive : Exclusive system)
    (here : system.pc self = .reserve (.lock slot)) (unheld : (system.slot slot).holders = 0)
    (ready : (system.slot slot).state = .ready) (place : Nat) : Guarded (system.take slotCount self) place := by
  have acts : (system.pc self).act slotCount self system.memory =
      { write := some (slot, .holders reclaimLock), next := .reserve (.take slot) } :=
    (acts_at slotCount here).trans (if_pos unheld)
  have nobody : ∀ other, holding other slot system.log = none := by
    intro other
    cases holds_ : holding other slot system.log with
    | none => rfl
    | some generation =>
      have bit := ((guarded slot).held other generation holds_).1
      rw [unheld, holds_zero] at bit
      exact Bool.noConfusion bit
  have alone : Alone system slot self := by
    apply exclusive.alone_taker (by simp [ready]) nobody
    · intro other _ takes
      have isLocked := ((guarded slot).taking other takes).2.1
      rw [unheld] at isLocked
      exact absurd isLocked (by decide)
    · intro other _ generation grant
      have bit := grant.held
      rw [unheld, holds_zero] at bit
      exact Bool.noConfusion bit
  refine Guarded.take_unheld acts exclusive guarded rfl rfl alone (nobody self) (by simp [here]) ?_ le_rfl (by simp)
    (fun _ => ⟨ready, locked_reclaimLock⟩) (by simp) (by simp) (by simp) place
  exact fun place apart same => apart (Option.some.inj same).symm

/-- A process takes a slot that nobody holds. -/
theorem Guarded.take_enter (exclusive : Exclusive system)
    (open_ : ∀ place publication, system.pc self ≠ .publish place publication .state)
    (alone : Alone system slot self) (unheld : holding self slot system.log = none)
    (acts : (system.pc self).act slotCount self system.memory =
      { write := some (slot, .state .writing), next := .claim slot .generation }) (place : Nat) :
    Guarded (system.take slotCount self) place := by
  refine Guarded.take_unheld acts exclusive guarded rfl rfl alone unheld open_ ?_ le_rfl (by simp) (by simp) (by simp)
    (by simp) (by simp) place
  exact fun place apart same => apart (Option.some.inj same).symm

theorem reserve_guarded (exclusive : Exclusive system) {step : ReserveStep}
    (here : system.pc self = .reserve step) (meets : (Move.go self).meets system) (place : Nat) :
    Guarded (system.take slotCount self) place := by
  have acts : _ = step.act slotCount system.memory := acts_at slotCount here
  have open_ : ∀ place publication, system.pc self ≠ .publish place publication .state := by simp [here]
  by_cases loads : step.loads = true
  · obtain ⟨next, goes, looks⟩ := ReserveStep.act_loads slotCount system.memory loads
    exact (guarded place).take_load exclusive (acts.trans goes) (open_ place) looks.guards
  cases step with
  | loadFree | loadState | loadHolders | loadLastUse | reloadLastUse => exact absurd rfl loads
  | takeFree slot =>
    by_cases free : (system.slot slot).state = .free
    · have nobody := (guarded slot).free free
      have alone : Alone system slot self := by
        apply exclusive.alone_taker (by simp [free]) nobody
        · intro other _ takes
          have ready := ((guarded slot).taking other takes).1
          simp [free] at ready
        · intro other _ generation grant
          have ready := grant.ready
          simp [free] at ready
      exact Guarded.take_enter guarded exclusive open_ alone (nobody self) (acts.trans (if_pos free)) place
    · exact (guarded place).take_load exclusive (acts.trans (if_neg free)) (open_ place) (freeFrom_looks ..).guards
  | lock slot =>
    by_cases unheld : (system.slot slot).holders = 0
    · rw [Move.meets, here] at meets
      exact lock_guarded guarded exclusive here unheld (meets unheld) place
    · exact (guarded place).take_load exclusive (acts.trans (if_neg unheld)) (open_ place) (victimFrom_looks ..).guards
  | take slot =>
    obtain ⟨ready, isLocked, nobody⟩ := (guarded slot).taking self here
    have alone : Alone system slot self := by
      apply exclusive.alone_taker (by simp [ready]) nobody
      · exact fun other apart takes => apart ((guarded slot).takers other self takes here)
      · intro other _ generation grant
        exact absurd (grant.unlocked.symm.trans isLocked) Bool.false_ne_true
    exact Guarded.take_enter guarded exclusive open_ alone (nobody self) (acts.trans (if_pos ready)) place
  | unlock slot => exact absurd here ((guarded slot).unlocking self)

theorem claim_guarded (consistent : Consistent system) {step : ClaimStep}
    (here : system.pc self = .claim slot step) (place : Nat) : Guarded (system.take slotCount self) place := by
  have exclusive := consistent.exclusive
  have acts : _ = step.act self system.memory slot := acts_at slotCount here
  have open_ : ∀ place publication, system.pc self ≠ .publish place publication .state := by simp [here]
  have alone : Alone system slot self := by
    apply (guarded slot).alone_owner exclusive
    rw [here]
    exact claim_owns step
  have unheld := (guarded slot).claiming self step here self
  have after : ∀ claim, ∀ place ≠ slot, (Pc.claim slot claim).guards ≠ some place :=
    fun claim place apart same => apart (Option.some.inj same).symm
  cases step with
  | generation =>
    exact Guarded.take_unheld acts exclusive guarded rfl rfl alone unheld open_ (after _) (Nat.le_succ _)
      (by simp [ClaimStep.act]) (by simp [ClaimStep.act]) (by simp [ClaimStep.act]) (by simp [ClaimStep.act])
      (by simp [ClaimStep.act]) place
  | writer generation =>
    exact Guarded.take_unheld acts exclusive guarded rfl rfl alone unheld open_ (after _) le_rfl
      (by simp [ClaimStep.act]) (by simp [ClaimStep.act]) (by simp [ClaimStep.act]) (by simp [ClaimStep.act])
      (by simp [ClaimStep.act]) place
  | holders generation =>
    exact Guarded.take_unheld acts exclusive guarded rfl rfl alone unheld open_ (after _) le_rfl
      (fun _ _ => holds_bit self) (by simp [ClaimStep.act]) (by simp [ClaimStep.act]) (by simp [ClaimStep.act])
      (by simp [ClaimStep.act]) place
  | parentSlot generation =>
    -- The reservation returns: the bit is set, and the writer word names the process.
    have bit := (guarded slot).stored self generation here
    have counted := (consistent.tracked slot).claimed self _ generation here rfl
    have writer := exclusive.named self slot (by simp [here, Pc.named])
    have writing := exclusive.writing slot self writer
    have gained : holding self slot (.reserved self slot generation :: system.log) = some generation := by
      simp [holding]
    apply Guarded.take_sole acts exclusive guarded rfl alone
    · intro event happens
      obtain rfl := Option.some.inj happens
      exact .inr rfl
    · exact fun place publication _ => open_ place publication
    · exact fun place _ => (Option.some_ne_none place).symm
    · exact le_rfl
    · intro other holds_
      obtain rfl := Option.some.inj (gained.symm.trans holds_)
      exact ⟨bit, counted, .inr (.inl writer)⟩
    · exact fun step claims => Pc.noConfusion claims
    · exact fun other claims => Pc.noConfusion claims
    · exact fun takes => Pc.noConfusion takes
    · exact fun unlocks => Pc.noConfusion unlocks
    · exact fun free => absurd (writing.symm.trans free) (by simp)
    · exact fun other step acquires => Pc.noConfusion acquires
    · exact fun step abandons => Pc.noConfusion abandons
    · exact fun step releases => Pc.noConfusion releases

end

/-- A step of a publication that writes no word which guards the slot. -/
theorem Guarded.take_publish (guarded : Guarded system place) (exclusive : Exclusive system)
    {publication : Publication} {step : PublishStep} (here : system.pc self = .publish slot publication step)
    (unfinished : step ≠ .state) {act : Act} (acts : (system.pc self).act slotCount self system.memory = act)
    (write : ∀ index write, act.write = some (index, write) → write.unguarded = true) (silent : act.event = none)
    (after : act.next.guards = none) : Guarded (system.take slotCount self) place := by
  apply guarded.take_plain acts exclusive
  · constructor
    · exact fun other written => write place other written
    · exact fun event happens => absurd_none (silent.symm.trans happens)
  · intro other publishes
    rw [here] at publishes
    simp only [Pc.publish.injEq] at publishes
    exact unfinished publishes.2.2
  · rw [after]
    exact (Option.some_ne_none place).symm

section

variable (guarded : ∀ place, Guarded system place)
include guarded

variable (exclusive : Exclusive system)
include exclusive

/-- The writer takes its name out, or leaves the slot ready: its hold goes on. -/
theorem publishEnd_guarded
    {publication : Publication} {step : PublishStep} (here : system.pc self = .publish slot publication step)
    {act : Act} {write : Write} (acts : (system.pc self).act slotCount self system.memory = act)
    (written : act.write = some (slot, write))
    (owns : (system.pc self).unnamed = some slot ∨ (system.pc self).named = some slot)
    (event : ∀ event, act.event = some event → event.hold = none) (after : act.next.guards = none)
    (words : ((system.slot slot).write write).holders = (system.slot slot).holders ∧
      ((system.slot slot).write write).generation = (system.slot slot).generation)
    (holdable : ((system.slot slot).write write).state = .ready ∨ act.next = .publish slot publication .state)
    (busy : ((system.slot slot).write write).state ≠ .free) (place : Nat) :
    Guarded (system.take slotCount self) place := by
  have not : ∀ pc, pc.guards = some slot → act.next ≠ pc := by
    rintro pc guards rfl
    exact absurd_none (after.symm.trans guards)
  have log : holding self slot (act.event.toList ++ system.log) = holding self slot system.log := by
    apply holding_append
    intro happened member same
    exact absurd_none ((event happened (Option.mem_toList.mp member)).symm.trans same)
  apply Guarded.take_sole acts exclusive guarded written ((guarded slot).alone_owner exclusive owns)
  · exact fun happened occurs => .inl (event happened occurs)
  · intro index other apart publishes
    rw [here] at publishes
    simp only [Pc.publish.injEq] at publishes
    exact apart publishes.1.symm
  · intro index _
    rw [after]
    exact (Option.some_ne_none index).symm
  · exact words.2.ge
  · intro generation holds_
    rw [log] at holds_
    obtain ⟨bit, current, _⟩ := (guarded slot).held self generation holds_
    rw [words.1, words.2]
    refine ⟨bit, current, ?_⟩
    rcases holdable with ready | last
    · exact .inl ready
    · exact .inr (.inr ⟨publication, last⟩)
  · exact fun claim claims => absurd claims (not _ rfl)
  · exact fun generation claims => absurd claims (not _ rfl)
  · exact fun takes => absurd takes (not _ rfl)
  · exact not _ rfl
  · exact fun free => absurd free busy
  · exact fun generation other => not _ rfl
  · exact fun other abandons => absurd abandons (not _ rfl)
  · exact fun other => not _ rfl

theorem publish_guarded
    {publication : Publication} {step : PublishStep} (here : system.pc self = .publish slot publication step)
    (place : Nat) : Guarded (system.take slotCount self) place := by
  have acts : _ = step.act slotCount self system.memory slot publication := acts_at slotCount here
  cases step with
  | loadState | loadWriter =>
    apply (guarded place).take_publish exclusive here (by simp) acts (by simp [PublishStep.act]) rfl
    rw [PublishStep.act]
    dsimp only
    split
    · rfl
    · rfl
  | identity word =>
    apply (guarded place).take_publish exclusive here (by simp) acts (by simp [PublishStep.act, Write.unguarded]) rfl
    rw [PublishStep.act]
    dsimp only
    unfold nextWord
    split
    · rfl
    · rfl
  | tokenCount | parentSlot | parentGeneration | clock | lastUse now =>
    exact (guarded place).take_publish exclusive here (by simp) acts (by simp [PublishStep.act, Write.unguarded])
      rfl rfl
  | writer =>
    have works : (system.pc self).named = some slot := by simp [here, Pc.named]
    have writing := exclusive.writing slot self (exclusive.named self slot works)
    exact publishEnd_guarded guarded exclusive here acts rfl (.inr works) (by simp [PublishStep.act]) rfl ⟨rfl, rfl⟩
      (.inr rfl) (by simp [Slot.write, writing]) place
  | state =>
    have owns : (system.pc self).unnamed = some slot := by simp [here, Pc.unnamed]
    refine publishEnd_guarded guarded exclusive here acts rfl (.inl owns) ?_ rfl ⟨rfl, rfl⟩ (.inl rfl)
      (by simp [Slot.write]) place
    intro event happens
    obtain rfl := Option.some.inj happens
    rfl

theorem abandon_guarded {step : AbandonStep}
    (here : system.pc self = .abandon slot step) (place : Nat) : Guarded (system.take slotCount self) place := by
  have acts : _ = step.act self system.memory slot := acts_at slotCount here
  have open_ : ∀ place publication, system.pc self ≠ .publish place publication .state := by simp [here]
  have unheld := (guarded slot).abandoning self step here
  have after : ∀ next, ∀ place ≠ slot, (Pc.abandon slot next).guards ≠ some place :=
    fun next place apart same => apart (Option.some.inj same).symm
  -- The two loads go on abandoning the slot, or return.
  have loads : ∀ next, (next = Pc.idle ∨ ∃ other, next = .abandon slot other) →
      (system.pc self).act slotCount self system.memory = { next := next } →
      Guarded (system.take slotCount self) place := by
    intro next cases_ goes
    apply (guarded place).take_quiet goes exclusive (Act.unguarded_of_none rfl rfl place) (open_ place)
    · rcases cases_ with rfl | ⟨other, rfl⟩ <;> simp
    · rcases cases_ with rfl | ⟨other, rfl⟩ <;> simp
    · rcases cases_ with rfl | ⟨other, rfl⟩ <;> simp
    · rcases cases_ with rfl | ⟨other, rfl⟩ <;> simp
    · rcases cases_ with rfl | ⟨other, rfl⟩
      · simp
      · intro another same
        simp only [Pc.abandon.injEq] at same
        exact same.1 ▸ unheld
    · rcases cases_ with rfl | ⟨other, rfl⟩ <;> simp
  cases step with
  | loadState | loadWriter =>
    apply loads _ _ acts
    split
    · exact .inr ⟨_, rfl⟩
    · exact .inl rfl
  | holders | writer =>
    have alone : Alone system slot self :=
      (guarded slot).alone_owner exclusive (.inr (by simp [here, Pc.named]))
    exact Guarded.take_unheld acts exclusive guarded rfl rfl alone unheld open_ (after _) le_rfl
      (by simp [AbandonStep.act]) (by simp [AbandonStep.act]) (by simp [AbandonStep.act]) (by simp [AbandonStep.act])
      (by simp [AbandonStep.act]) place
  | state =>
    have alone : Alone system slot self :=
      (guarded slot).alone_owner exclusive (.inl (by simp [here, Pc.unnamed]))
    exact Guarded.take_unheld acts exclusive guarded rfl rfl alone unheld open_
      (fun place _ => (Option.some_ne_none place).symm) le_rfl
      (by simp [AbandonStep.act]) (by simp [AbandonStep.act]) (by simp [AbandonStep.act]) (by simp [AbandonStep.act])
      (by simp [AbandonStep.act]) place

/-- A step that changes the bit of its process in the holder word. -/
theorem Guarded.take_bit {act : Act}
    {word : BitVec 64} (acts : (system.pc self).act slotCount self system.memory = act)
    (written : act.write = some (slot, .holders word)) (silent : act.event = none)
    (open_ : ∀ place publication, system.pc self ≠ .publish place publication .state)
    (bits : ∀ other ≠ self, holds word other = holds (system.slot slot).holders other)
    (lock : locked word = locked (system.slot slot).holders)
    (held : ∀ generation, holding self slot system.log = some generation → holds word self = true)
    (next : act.next = .idle ∨ ∃ generation step, act.next = .acquire slot generation step ∧
      (step ≠ .holders → holding self slot system.log = none ∧
        step.Granted (system.take slotCount self) slot self generation)) (place : Nat) :
    Guarded (system.take slotCount self) place := by
  by_cases here : place = slot
  · subst here
    have pc : (system.take slotCount self).pc self = act.next := by rw [take_pc, acts]
    have changed : (system.take slotCount self).slot place = (system.slot place).write (.holders word) :=
      take_slot (by rw [acts, written])
    have log : ∀ holder, holding holder place (system.take slotCount self).log = holding holder place system.log := by
      intro holder
      apply take_holding acts
      exact fun event happens => absurd_none (silent.symm.trans happens)
    have same : SameGuard self (system.slot place) ((system.take slotCount self).slot place) := by
      rw [changed]
      exact ⟨rfl, rfl, rfl, bits, lock⟩
    apply (guarded place).keep exclusive same (fun other apart => take_pc_other apart) fun other _ => log other
    · intro generation holds_
      rw [log] at holds_
      exact .inl holds_
    · intro generation holds_
      rw [log] at holds_
      refine ⟨?_, ?_⟩
      · rw [changed]
        exact held generation holds_
      · rcases ((guarded place).held self generation holds_).2.2 with ready | writer | ⟨publication, publishes⟩
        · exact .inl (same.state.trans ready)
        · exact .inr (.inl (same.writer.trans writer))
        · exact absurd publishes (open_ place publication)
    · rw [pc]
      rcases next with idle | ⟨generation, step, acquires, _⟩
      · simp [idle]
      · simp [acquires]
    · rw [pc]
      rcases next with idle | ⟨generation, step, acquires, _⟩
      · simp [idle]
      · simp [acquires]
    · rw [pc]
      rcases next with idle | ⟨generation, step, acquires, _⟩
      · simp [idle]
      · simp [acquires]
    · rw [pc, log]
      intro other step acquires begun
      rcases next with idle | ⟨generation, after, goes, granted⟩
      · simp [idle] at acquires
      · rw [goes] at acquires
        simp only [Pc.acquire.injEq, true_and] at acquires
        obtain ⟨rfl, rfl⟩ := acquires
        exact granted begun
    · rw [pc]
      rcases next with idle | ⟨generation, step, acquires, _⟩
      · simp [idle]
      · simp [acquires]
    · rw [pc]
      rcases next with idle | ⟨generation, step, acquires, _⟩
      · simp [idle]
      · simp [acquires]
  · apply (guarded place).take_plain acts exclusive _ (open_ place)
    · rcases next with idle | ⟨generation, step, acquires, _⟩
      · simp [idle, Pc.guards]
      · rw [acquires]
        exact fun same => here (Option.some.inj same).symm
    · constructor
      · intro other otherWritten
        exact absurd (congrArg Prod.fst (Option.some.inj (otherWritten.symm.trans written))) here
      · exact fun event happens => absurd_none (silent.symm.trans happens)

/-- A process sets its bit: it goes on only when it did not hold the slot, and the slot was not
locked. -/
theorem acquireHolders_guarded
    (here : system.pc self = .acquire slot generation .holders) (meets : (Move.go self).meets system) (place : Nat) :
    Guarded (system.take slotCount self) place := by
  have acts : _ = AcquireStep.act self system.memory slot generation .holders := acts_at slotCount here
  rw [Move.meets, here] at meets
  refine Guarded.take_bit guarded exclusive acts rfl rfl (by simp [here]) (fun other apart => holds_or_other apart _)
    (locked_or _ self) (fun _ _ => holds_or _ self) ?_ place
  by_cases own : (system.slot slot).holders &&& bit self ≠ 0
  · exact .inl (if_pos own)
  · have unheld : holding self slot system.log = none := by
      cases holds_ : holding self slot system.log with
      | none => rfl
      | some other => exact absurd (and_bit_ne_zero ((guarded slot).held self other holds_).1) own
    by_cases lock : (system.slot slot).holders &&& reclaimLock ≠ 0
    · exact .inr ⟨generation, .undo, (if_neg own).trans (if_pos lock), fun _ => ⟨unheld, trivial⟩⟩
    · refine .inr ⟨generation, .loadState, (if_neg own).trans (if_neg lock), fun _ => ⟨unheld, ?_⟩⟩
      have changed : (system.take slotCount self).slot slot =
          (system.slot slot).write (.holders ((system.slot slot).holders ||| bit self)) :=
        take_slot (by rw [acts]; rfl)
      rcases meets with past | ⟨current, ready⟩
      · left
        rw [changed]
        exact past
      · right
        constructor
        · rw [changed]
          exact current
        · rw [changed]
          exact ready
        · rw [changed]
          exact holds_or _ self
        · rw [changed]
          exact (locked_or _ self).trans (not_locked lock)

/-- The acquisition returns, and the process holds the slot. -/
theorem acquireReturn_guarded {now : Nat}
    (here : system.pc self = .acquire slot generation (.lastUse now)) (place : Nat) :
    Guarded (system.take slotCount self) place := by
  have acts : _ = AcquireStep.act self system.memory slot generation (.lastUse now) := acts_at slotCount here
  obtain ⟨unheld, granted⟩ := (guarded slot).acquiring self generation _ here (by simp)
  have grant : Grant system slot self generation := granted
  by_cases at_ : place = slot
  · subst at_
    have pc : (system.take slotCount self).pc self = .idle := by
      rw [take_pc, acts]
      rfl
    have changed : (system.take slotCount self).slot place = (system.slot place).write (.lastUse now) :=
      take_slot (by rw [acts]; rfl)
    have log : (system.take slotCount self).log = .acquired self place generation :: system.log := by
      rw [System.take, acts]
      rfl
    have same : SameGuard self (system.slot place) ((system.take slotCount self).slot place) := by
      rw [changed]
      exact ⟨rfl, rfl, rfl, fun _ _ => rfl, rfl⟩
    apply (guarded place).keep exclusive same (fun other apart => take_pc_other apart)
    · intro other apart
      have not : ¬ (self = other ∧ place = place) := fun both => apart both.1.symm
      rw [log, holding, if_neg not]
    · intro other gained
      rw [log, holding, if_pos ⟨rfl, rfl⟩] at gained
      exact .inr (Option.some.inj gained ▸ grant)
    · intro other gained
      refine ⟨?_, .inl (same.state.trans grant.ready)⟩
      rw [changed]
      exact grant.held
    · rw [pc]
      exact fun step claims => Pc.noConfusion claims
    · rw [pc]
      exact fun takes => Pc.noConfusion takes
    · rw [pc]
      exact fun unlocks => Pc.noConfusion unlocks
    · rw [pc]
      exact fun other step acquires => Pc.noConfusion acquires
    · rw [pc]
      exact fun step abandons => Pc.noConfusion abandons
    · rw [pc]
      exact fun step releases => Pc.noConfusion releases
  · apply (guarded place).take_plain acts exclusive _ (by simp [here])
    · exact (Option.some_ne_none place).symm
    · constructor
      · intro other written
        exact absurd (congrArg Prod.fst (Option.some.inj written)).symm at_
      · intro event happens holder hold
        obtain rfl := Option.some.inj happens
        exact at_ (congrArg Prod.snd (Option.some.inj hold)).symm

theorem acquire_guarded {step : AcquireStep}
    (here : system.pc self = .acquire slot generation step) (meets : (Move.go self).meets system) (place : Nat) :
    Guarded (system.take slotCount self) place := by
  have acts : _ = step.act self system.memory slot generation := acts_at slotCount here
  have open_ : ∀ place publication, system.pc self ≠ .publish place publication .state := by simp [here]
  -- The loads and the clock go on with the acquisition.
  have goes : ∀ act : Act, (system.pc self).act slotCount self system.memory = act → act.write = none →
      act.event = none → (∃ after, act.next = .acquire slot generation after ∧
        holding self slot system.log = none ∧ after.Granted system slot self generation) →
      Guarded (system.take slotCount self) place := by
    rintro act same write silent ⟨after, next, unheld, granted⟩
    apply (guarded place).take_quiet same exclusive (Act.unguarded_of_none write silent place) (open_ place)
    · simp [next]
    · simp [next]
    · simp [next]
    · intro other later acquires _
      rw [next] at acquires
      simp only [Pc.acquire.injEq] at acquires
      obtain ⟨rfl, rfl, rfl⟩ := acquires
      exact ⟨unheld, granted⟩
    · simp [next]
    · simp [next]
  cases step with
  | holders => exact acquireHolders_guarded guarded exclusive here meets place
  | loadState =>
    obtain ⟨unheld, granted⟩ := (guarded slot).acquiring self generation _ here (by simp)
    apply goes _ acts rfl rfl
    refine ⟨_, rfl, unheld, ?_⟩
    split
    · exact granted
    · trivial
  | loadGeneration =>
    obtain ⟨unheld, granted⟩ := (guarded slot).acquiring self generation _ here (by simp)
    apply goes _ acts rfl rfl
    refine ⟨_, rfl, unheld, ?_⟩
    split
    · rename_i current
      exact granted.resolve_left (Nat.not_lt_of_le (Nat.le_of_eq current))
    · trivial
  | undo =>
    obtain ⟨unheld, _⟩ := (guarded slot).acquiring self generation _ here (by simp)
    refine Guarded.take_bit guarded exclusive acts rfl rfl open_ (fun other apart => holds_and_not apart _)
      (locked_and_not _ self) ?_ (.inl rfl) place
    exact fun other holds_ => absurd_none (unheld.symm.trans holds_)
  | clock =>
    obtain ⟨unheld, granted⟩ := (guarded slot).acquiring self generation _ here (by simp)
    exact goes _ acts rfl rfl ⟨_, rfl, unheld, granted⟩
  | lastUse now => exact acquireReturn_guarded guarded exclusive here place

theorem release_guarded {step : ReleaseStep}
    (here : system.pc self = .release slot step) (place : Nat) : Guarded (system.take slotCount self) place := by
  have acts : _ = step.act self system.memory slot := acts_at slotCount here
  have open_ : ∀ place publication, system.pc self ≠ .publish place publication .state := by simp [here]
  have unheld := (guarded slot).releasing self step here
  cases step with
  | clock =>
    apply (guarded place).take_quiet acts exclusive (Act.unguarded_of_none rfl rfl place) (open_ place)
    · simp [ReleaseStep.act]
    · simp [ReleaseStep.act]
    · simp [ReleaseStep.act]
    · simp [ReleaseStep.act]
    · simp [ReleaseStep.act]
    · intro after releases
      simp only [ReleaseStep.act, Pc.release.injEq] at releases
      exact releases.1 ▸ unheld
  | lastUse now =>
    apply (guarded place).take_quiet acts exclusive _ (open_ place)
    · simp [ReleaseStep.act]
    · simp [ReleaseStep.act]
    · simp [ReleaseStep.act]
    · simp [ReleaseStep.act]
    · simp [ReleaseStep.act]
    · intro after releases
      simp only [ReleaseStep.act, Pc.release.injEq] at releases
      exact releases.1 ▸ unheld
    · constructor
      · intro write written
        obtain rfl := congrArg Prod.snd (Option.some.inj written)
        rfl
      · exact fun event happens => absurd_none happens
  | holders =>
    refine Guarded.take_bit guarded exclusive acts rfl rfl open_ (fun other apart => holds_and_not apart _)
      (locked_and_not _ self) ?_ (.inl rfl) place
    exact fun other holds_ => absurd_none (unheld.symm.trans holds_)

end

theorem read_guards (slotCount : Nat) (self : Holder) (memory : Memory) (slot : Nat) (query : Option Query)
    (step : ReadStep) : (step.act slotCount self memory slot query).next.guards = none ∧
      ∀ event, (step.act slotCount self memory slot query).event = some event → event.hold = none := by
  constructor
  · rcases ReadStep.act_next slotCount self memory slot query step with looks | ⟨after, reads⟩
    · exact looks.guards
    · rw [reads]
      rfl
  · intro event happens
    rcases @act_event slotCount self memory (.read slot query step) event happens with
      ⟨_, _, here, _⟩ | ⟨_, _, here, _⟩ | ⟨_, _, _, here, _⟩ | ⟨_, _, _, _, _, rfl | ⟨_, rfl, _⟩⟩
    · cases here
    · cases here
    · cases here
    · rfl
    · rfl

theorem take_guarded (guarded : ∀ place, Guarded system place) (consistent : Consistent system)
    (meets : (Move.go self).meets system) (place : Nat) : Guarded (system.take slotCount self) place := by
  have exclusive := consistent.exclusive
  cases here : system.pc self with
  | idle =>
    have acts : _ = ({ next := .idle } : Act) := acts_at slotCount here
    exact (guarded place).take_load exclusive acts (by simp [here]) rfl
  | reserve step => exact reserve_guarded guarded exclusive here meets place
  | claim slot step => exact claim_guarded guarded consistent here place
  | publish slot publication step => exact publish_guarded guarded exclusive here place
  | abandon slot step => exact abandon_guarded guarded exclusive here place
  | acquire slot generation step => exact acquire_guarded guarded exclusive here meets place
  | release slot step => exact release_guarded guarded exclusive here place
  | find slot query =>
    have acts : (system.pc self).act slotCount self system.memory =
        Pc.act slotCount self system.memory (.find slot query) := by rw [here]
    apply (guarded place).take_load exclusive acts (by simp [here])
    split
    · rfl
    · exact (findFrom_looks ..).guards
  | read slot query step =>
    have acts : _ = step.act slotCount self system.memory slot query := acts_at slotCount here
    obtain ⟨after, silent⟩ := read_guards slotCount self system.memory slot query step
    apply (guarded place).take_plain acts exclusive _ (by simp [here])
    · rw [after]
      exact (Option.some_ne_none place).symm
    · constructor
      · exact fun write written => absurd_none ((ReadStep.act_write ..).symm.trans written)
      · exact fun event happens holder same =>
          absurd_none ((silent event happens).symm.trans same)

/-- A call begins with no guard of a slot, except to acquire, abandon or release it. -/
theorem Call.start_guards (slotCount : Nat) (call : Call) :
    (call.start slotCount).guards = none ∨
      (∃ slot generation, call.start slotCount = .acquire slot generation .holders) ∨
      (∃ slot, call = .abandon slot ∧ call.start slotCount = .abandon slot .loadState) ∨
      ∃ slot, call = .release slot ∧ call.start slotCount = .release slot .clock := by
  cases call with
  | reserve => exact .inl (freeFrom_looks ..).guards
  | find query => exact .inl (findFrom_looks ..).guards
  | publish slot publication =>
    rw [Call.start]
    split
    · exact .inl rfl
    · exact .inl rfl
  | read slot =>
    rw [Call.start]
    split
    · exact .inl rfl
    · exact .inl rfl
  | acquire slot generation =>
    rw [Call.start]
    split
    · exact .inr (.inl ⟨slot, generation, rfl⟩)
    · exact .inl rfl
  | abandon slot =>
    rw [Call.start]
    split
    · exact .inr (.inr (.inl ⟨slot, rfl, rfl⟩))
    · exact .inl rfl
  | release slot =>
    rw [Call.start]
    split
    · exact .inr (.inr (.inr ⟨slot, rfl, rfl⟩))
    · exact .inl rfl

/-- The slot that a call abandons or releases. -/
def Call.drops : Call → Option Nat
  | .abandon slot | .release slot => some slot
  | _ => none

/-- What a call ends: the hold of its process on the slot that it abandons or releases. -/
theorem enter_holding (slotCount : Nat) (system : System) (self : Holder) (call : Call) (holder : Holder) (place : Nat) :
    holding holder place (system.enter slotCount self call).log =
      if holder = self ∧ call.drops = some place then none else holding holder place system.log := by
  have log : (system.enter slotCount self call).log = (call.event self).toList ++ system.log := rfl
  rw [log]
  cases call with
  | abandon slot => simp [Call.event, Call.drops, holding, eq_comm]
  | release slot => simp [Call.event, Call.drops, holding, eq_comm]
  | reserve | publish | acquire | read | find => simp [Call.event, Call.drops]

theorem enter_guarded (guarded : Guarded system place) (exclusive : Exclusive system) (idle : system.pc self = .idle)
    (call : Call) : Guarded (system.enter slotCount self call) place := by
  have pc := enter_pc slotCount system self call
  have log := enter_holding slotCount system self call
  have same : SameGuard self (system.slot place) ((system.enter slotCount self call).slot place) :=
    ⟨rfl, rfl, rfl, fun _ _ => rfl, rfl⟩
  have kept : ∀ generation, holding self place (system.enter slotCount self call).log = some generation →
      holding self place system.log = some generation := by
    intro generation holds_
    rw [log] at holds_
    split at holds_
    · exact absurd_none holds_
    · exact holds_
  have starts := call.start_guards slotCount
  have not : ∀ next, next.guards = some place → (∀ generation, next ≠ .acquire place generation .holders) →
      (∀ step, next ≠ .abandon place step) → (∀ step, next ≠ .release place step) → call.start slotCount ≠ next := by
    rintro next guards unacquired unabandoned unreleased rfl
    rcases starts with none | ⟨slot, generation, acquires⟩ | ⟨slot, _, abandons⟩ | ⟨slot, _, releases⟩
    · exact absurd_none (none.symm.trans guards)
    · rw [acquires] at guards
      obtain rfl := Option.some.inj guards
      exact unacquired generation acquires
    · rw [abandons] at guards
      obtain rfl := Option.some.inj guards
      exact unabandoned _ abandons
    · rw [releases] at guards
      obtain rfl := Option.some.inj guards
      exact unreleased _ releases
  apply guarded.keep exclusive same (fun other apart => enter_pc_other apart call)
  · intro other apart
    rw [log, if_neg]
    exact fun own => apart own.1
  · exact fun generation holds_ => .inl (kept generation holds_)
  · intro generation holds_
    obtain ⟨bit, _, ready | writer | ⟨publication, publishes⟩⟩ := guarded.held self generation (kept generation holds_)
    · exact ⟨bit, .inl ready⟩
    · exact ⟨bit, .inr (.inl writer)⟩
    · rw [idle] at publishes
      exact Pc.noConfusion publishes
  · rw [pc]
    exact fun step => not _ rfl (by simp) (by simp) (by simp)
  · rw [pc]
    exact not _ rfl (by simp) (by simp) (by simp)
  · rw [pc]
    exact not _ rfl (by simp) (by simp) (by simp)
  · rw [pc]
    exact fun generation step acquires begun => absurd acquires (not _ rfl (by simp [begun]) (by simp) (by simp))
  · rw [pc]
    intro step abandons
    rcases starts with none | ⟨slot, generation, acquires⟩ | ⟨slot, same, begins⟩ | ⟨slot, _, releases⟩
    · exact absurd_none (none.symm.trans (congrArg Pc.guards abandons))
    · exact absurd (acquires.symm.trans abandons) (by simp)
    · have here : slot = place := Option.some.inj (congrArg Pc.guards (begins.symm.trans abandons))
      rw [log, if_pos]
      simp [same, Call.drops, here]
    · exact absurd (releases.symm.trans abandons) (by simp)
  · rw [pc]
    intro step releases
    rcases starts with none | ⟨slot, generation, acquires⟩ | ⟨slot, _, abandons⟩ | ⟨slot, same, begins⟩
    · exact absurd_none (none.symm.trans (congrArg Pc.guards releases))
    · exact absurd (acquires.symm.trans releases) (by simp)
    · exact absurd (abandons.symm.trans releases) (by simp)
    · have here : slot = place := Option.some.inj (congrArg Pc.guards (begins.symm.trans releases))
      rw [log, if_pos]
      simp [same, Call.drops, here]

end Steps

section Runs

/-- No process held a slot when a reservation of it returned. -/
def ReservedFree (log : List Event) : Prop :=
  ∀ later other slot generation earlier, log = later ++ .reserved other slot generation :: earlier →
    ∀ self, holding self slot earlier = none

theorem ReservedFree.cons {log : List Event} {event : Event} (free : ReservedFree log)
    (new : ∀ other slot generation, event = .reserved other slot generation → ∀ self, holding self slot log = none) :
    ReservedFree (event :: log) := by
  intro later other slot generation earlier same
  cases later with
  | nil =>
    obtain ⟨rfl, rfl⟩ := List.cons.inj same
    exact new other slot generation rfl
  | cons first rest => exact free rest other slot generation earlier (List.cons.inj same).2

/-- A slot is held safely. -/
structure HeldWell (system : System) : Prop where
  consistent : Consistent system
  guarded : ∀ slot, Guarded system slot
  reserved : ReservedFree system.log

theorem step_heldWell (system : System) (move : Move) (well : HeldWell system) (meets : move.meets system) :
    HeldWell (system.step slotCount move) := by
  obtain ⟨consistent, guarded, reserved⟩ := well
  refine ⟨step_consistent system move consistent, ?_, ?_⟩
  · cases move with
    | call self call =>
      rw [System.step]
      split
      · rename_i idle
        exact fun place => enter_guarded (guarded place) consistent.exclusive idle call
      · exact guarded
    | go self => exact take_guarded guarded consistent meets
  · cases move with
    | call self call =>
      rw [System.step]
      split
      · change ReservedFree ((call.event self).toList ++ system.log)
        cases call with
        | abandon slot => exact reserved.cons (by simp)
        | release slot => exact reserved.cons (by simp)
        | reserve | publish | acquire | read | find => exact reserved
      · exact reserved
    | go self =>
      change ReservedFree (((system.pc self).act slotCount self system.memory).event.toList ++ system.log)
      cases happens : ((system.pc self).act slotCount self system.memory).event with
      | none => exact reserved
      | some event =>
        apply reserved.cons
        rintro process slot generation rfl
        -- A reservation returns at the end of a claim, and nobody holds a slot that is being claimed.
        rcases act_event happens with ⟨place, claimed, here, same⟩ | ⟨_, _, _, same⟩ | ⟨_, _, _, _, same⟩ |
          ⟨_, _, _, _, _, same | ⟨_, same, _⟩⟩
        · obtain ⟨_, rfl, rfl⟩ := Event.reserved.inj same
          exact (guarded slot).claiming self _ here
        · exact Event.noConfusion same
        · exact Event.noConfusion same
        · exact Event.noConfusion same
        · exact Event.noConfusion same

/-- In every interleaving whose steps meet the condition, a slot that a process holds keeps its
generation, and is reserved by no other process. -/
theorem holds_safe {moves : List Move}
    (meets : Along (System.step slotCount) (fun system move => move.meets system) moves {}) :
    HoldsSafe (run slotCount moves) := by
  have start : HeldWell {} := ⟨initial_consistent, initial_guarded, by simp [ReservedFree]⟩
  have well : HeldWell (run slotCount moves) := meets.foldl step_heldWell start
  constructor
  · exact fun self slot generation holds_ => ((well.guarded slot).held self generation holds_).2.1
  · exact fun later other slot generation earlier same self _ =>
      well.reserved later other slot generation earlier same self

/-- A process abandons and releases only what it holds. -/
def Move.orderly (system : System) : Move → Prop
  | .call self (.abandon slot) | .call self (.release slot) => holding self slot system.log ≠ none
  | _ => True

instance Move.orderly.decidable (system : System) : (move : Move) → Decidable (move.orderly system)
  | .call self (.abandon slot) => inferInstanceAs (Decidable (holding self slot system.log ≠ none))
  | .call self (.release slot) => inferInstanceAs (Decidable (holding self slot system.log ≠ none))
  | .call _ .reserve | .call _ (.publish _ _) | .call _ (.acquire _ _) | .call _ (.read _) | .call _ (.find _)
  | .go _ => .isTrue trivial

instance Move.meets.decidable (system : System) : (move : Move) → Decidable (move.meets system)
  | .call _ _ => .isTrue trivial
  | .go self => by
    unfold Move.meets
    dsimp only
    split <;> infer_instance

/-- A process takes so many steps. -/
def steps (self : Holder) (count : Nat) : List Move := List.replicate count (.go self)

def onePage : Publication := { tokenCount := 1, parentSlot := noSlot }

/-- A page is published by one process and acquired by another. -/
def sharedPage : List Move :=
  [.call 0 .reserve] ++ steps 0 6 ++ [.call 0 (.publish 0 onePage)] ++ steps 0 13 ++ [.call 1 (.acquire 0 1)] ++ steps 1 5

theorem holds_safe_sharedPage : holding 1 0 (run 1 sharedPage).log = some 1 ∧ HoldsSafe (run 1 sharedPage) :=
  ⟨by decide +kernel, holds_safe
    (by decide +kernel : Along (System.step 1) (fun system move => move.meets system) sharedPage {})⟩

/-- A reclaimer has found the page ready and unheld; before it locks the page, the page is reclaimed and
abandoned, and the lock falls between the stores of the one that abandons it. A third process reserves
the page, overwrites the lock, and publishes it; the reclaimer then takes the page that is held. -/
def lostHold : List Move :=
  [.call 0 .reserve] ++ steps 0 6 ++ [.call 0 (.publish 0 onePage)] ++ steps 0 13 ++ [.call 0 (.release 0)] ++ steps 0 3 ++
    [.call 1 .reserve] ++ steps 1 5 ++ [.call 0 .reserve] ++ steps 0 11 ++ [.call 0 (.abandon 0)] ++ steps 0 3 ++
    steps 1 1 ++ steps 0 2 ++ [.call 2 .reserve] ++ steps 2 6 ++ [.call 2 (.publish 0 onePage)] ++ steps 2 13 ++
    steps 1 2

theorem lostHold_unsafe : ¬ ∀ slotCount moves,
    Along (System.step slotCount) (fun system move => move.orderly system) moves {} →
      HoldsSafe (run slotCount moves) := by
  intro safe
  have orderly : Along (System.step 1) (fun system move => move.orderly system) lostHold {} := by decide +kernel
  have held : holding 2 0 (run 1 lostHold).log = some 3 := by decide +kernel
  have current := (safe 1 lostHold orderly).1 2 0 3 held
  have changed : ((run 1 lostHold).slot 0).generation = 4 := by decide +kernel
  exact absurd (changed.symm.trans current) (by decide)

end Runs

end Sparkpipe.KvSharedIndex
