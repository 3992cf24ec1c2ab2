import Sparkpipe.Shared.Snapshot

/-!
# The guard of a slot

A process holds a slot from where its reservation or acquisition of it returns until it
releases or abandons it. Its bit in the holder word keeps the slot from being reclaimed:
a reclaimer locks the word only when it is zero, and a process that acquires a slot gives
up when it finds the lock. While a process takes a slot, nobody holds it and nobody can be
granted it.
-/

namespace Sparkpipe.KvSharedIndex

variable {slotCount : Nat} {system next : System} {self other : Holder} {slot place generation : Nat}

section Bits

/-- The bit of a holder is set. -/
def holds (word : BitVec 64) (holder : Holder) : Bool := word.getLsbD holder.val

/-- The reclaim lock is set. -/
def locked (word : BitVec 64) : Bool := word.getLsbD 63

theorem bit_getLsbD (holder : Holder) (index : Nat) : (bit holder).getLsbD index = decide (index = holder.val) := by
  have bound := holder.isLt
  unfold bit
  rw [← BitVec.twoPow_eq, BitVec.getLsbD_twoPow]
  by_cases same : holder.val = index
  · simp [← same]
    omega
  · simp [same, Ne.symm same]

theorem reclaimLock_getLsbD (index : Nat) : reclaimLock.getLsbD index = decide (index = 63) := by
  unfold reclaimLock
  rw [← BitVec.twoPow_eq, BitVec.getLsbD_twoPow]
  by_cases same : 63 = index
  · simp [← same]
  · simp [same, Ne.symm same]

@[simp]
theorem holds_zero (holder : Holder) : holds 0 holder = false := by simp [holds]

@[simp]
theorem holds_bit (holder : Holder) : holds (bit holder) holder = true := by simp [holds, bit_getLsbD]

theorem locked_bit (holder : Holder) : locked (bit holder) = false := by
  have different : 63 ≠ holder.val := Nat.ne_of_gt holder.isLt
  rw [locked, bit_getLsbD]
  simp [different]

@[simp]
theorem locked_reclaimLock : locked reclaimLock = true := by simp [locked, reclaimLock_getLsbD]

@[simp]
theorem holds_or (word : BitVec 64) (holder : Holder) : holds (word ||| bit holder) holder = true := by
  simp [holds, bit_getLsbD]

theorem holds_or_other (apart : other ≠ self) (word : BitVec 64) :
    holds (word ||| bit self) other = holds word other := by
  have different : other.val ≠ self.val := fun same => apart (Fin.ext same)
  simp [holds, bit_getLsbD, different]

theorem locked_or (word : BitVec 64) (holder : Holder) : locked (word ||| bit holder) = locked word := by
  have different : 63 ≠ holder.val := Nat.ne_of_gt holder.isLt
  rw [locked, locked, BitVec.getLsbD_or, bit_getLsbD]
  simp [different]

theorem holds_and_not (apart : other ≠ self) (word : BitVec 64) :
    holds (word &&& ~~~bit self) other = holds word other := by
  have different : other.val ≠ self.val := fun same => apart (Fin.ext same)
  have bound : other.val < 64 := other.isLt.trans (by decide)
  rw [holds, holds, BitVec.getLsbD_and, BitVec.getLsbD_not, bit_getLsbD]
  simp [different, bound]

theorem holds_and_not_self (word : BitVec 64) (holder : Holder) : holds (word &&& ~~~bit holder) holder = false := by
  rw [holds, BitVec.getLsbD_and, BitVec.getLsbD_not, bit_getLsbD]
  simp

theorem locked_and_not (word : BitVec 64) (holder : Holder) : locked (word &&& ~~~bit holder) = locked word := by
  have different : 63 ≠ holder.val := Nat.ne_of_gt holder.isLt
  rw [locked, locked, BitVec.getLsbD_and, BitVec.getLsbD_not, bit_getLsbD]
  simp [different]

/-- A word that has the bit of a holder is not zero when it is masked with it. -/
theorem and_bit_ne_zero {word : BitVec 64} (held : holds word self = true) : word &&& bit self ≠ 0 := by
  intro zero
  have clear : (word &&& bit self).getLsbD self.val = (0 : BitVec 64).getLsbD self.val := by rw [zero]
  rw [BitVec.getLsbD_and, bit_getLsbD] at clear
  unfold holds at held
  simp [held] at clear

theorem not_locked {word : BitVec 64} (unlocked : ¬ word &&& reclaimLock ≠ 0) : locked word = false := by
  have zero := Decidable.not_not.mp unlocked
  have clear : (word &&& reclaimLock).getLsbD 63 = (0 : BitVec 64).getLsbD 63 := by rw [zero]
  rw [BitVec.getLsbD_and, reclaimLock_getLsbD] at clear
  simpa [locked] using clear

end Bits

section Holding

/-- The generation of a slot that a process holds. -/
def holding (self : Holder) (slot : Nat) : List Event → Option Nat
  | [] => none
  | .reserved process index generation :: earlier | .acquired process index generation :: earlier =>
    if process = self ∧ index = slot then some generation else holding self slot earlier
  | .released process index :: earlier | .abandoned process index :: earlier =>
    if process = self ∧ index = slot then none else holding self slot earlier
  | _ :: earlier => holding self slot earlier

/-- What a process that holds a slot can rely on: no other process has reserved it since, and its
generation is the one it was given. -/
def HoldsSafe (system : System) : Prop :=
  (∀ self slot generation, holding self slot system.log = some generation →
    (system.slot slot).generation = generation) ∧
  ∀ later other slot generation earlier, system.log = later ++ .reserved other slot generation :: earlier →
    ∀ self ≠ other, holding self slot earlier = none

/-- The condition on a step: a reclaimer locks only a slot that is ready, and an acquisition is of a
generation that has been published, or of one before it. -/
def Move.meets (system : System) : Move → Prop
  | .call _ _ => True
  | .go self =>
    match system.pc self with
    | .reserve (.lock victim) => (system.slot victim).holders = 0 → (system.slot victim).state = .ready
    | .acquire slot generation .holders =>
      generation < (system.slot slot).generation ∨
        (generation = (system.slot slot).generation ∧ (system.slot slot).state = .ready)
    | _ => True

/-- An acquisition that cannot fail any more. -/
structure Grant (system : System) (slot : Nat) (holder : Holder) (generation : Nat) : Prop where
  current : generation = (system.slot slot).generation
  ready : (system.slot slot).state = .ready
  held : holds (system.slot slot).holders holder = true
  unlocked : locked (system.slot slot).holders = false

/-- How far an acquisition has come. -/
def AcquireStep.Granted (system : System) (slot : Nat) (self : Holder) (generation : Nat) : AcquireStep → Prop
  | .holders | .undo => True
  | .loadState | .loadGeneration => generation < (system.slot slot).generation ∨ Grant system slot self generation
  | .clock | .lastUse _ => Grant system slot self generation

/-- A process may hold a slot: it is ready, or the process is its writer. -/
def Holdable (system : System) (slot : Nat) (self : Holder) : Prop :=
  (system.slot slot).state = .ready ∨ (system.slot slot).writer = some self ∨
    ∃ publication, system.pc self = .publish slot publication .state

/-- A process that holds a slot has its bit set, and no process that takes the slot is under way. -/
structure Guarded (system : System) (slot : Nat) : Prop where
  held : ∀ self generation, holding self slot system.log = some generation →
    holds (system.slot slot).holders self = true ∧ (system.slot slot).generation = generation ∧
      Holdable system slot self
  claiming : ∀ self step, system.pc self = .claim slot step → ∀ other, holding other slot system.log = none
  stored : ∀ self generation, system.pc self = .claim slot (.parentSlot generation) →
    holds (system.slot slot).holders self = true
  taking : ∀ self, system.pc self = .reserve (.take slot) → (system.slot slot).state = .ready ∧
    locked (system.slot slot).holders = true ∧ ∀ other, holding other slot system.log = none
  takers : ∀ self other, system.pc self = .reserve (.take slot) → system.pc other = .reserve (.take slot) →
    self = other
  unlocking : ∀ self, system.pc self ≠ .reserve (.unlock slot)
  free : (system.slot slot).state = .free → ∀ self, holding self slot system.log = none
  acquiring : ∀ self generation step, system.pc self = .acquire slot generation step → step ≠ .holders →
    holding self slot system.log = none ∧ step.Granted system slot self generation
  abandoning : ∀ self step, system.pc self = .abandon slot step → holding self slot system.log = none
  releasing : ∀ self step, system.pc self = .release slot step → holding self slot system.log = none

theorem initial_guarded (slot : Nat) : Guarded {} slot := by
  constructor
  · exact fun self generation none => absurd_none none
  · exact fun self step here => Pc.noConfusion here
  · exact fun self generation here => Pc.noConfusion here
  · exact fun self here => Pc.noConfusion here
  · exact fun self other here => Pc.noConfusion here
  · exact fun self here => Pc.noConfusion here
  · exact fun _ self => rfl
  · exact fun self generation step here => Pc.noConfusion here
  · exact fun self step here => Pc.noConfusion here
  · exact fun self step here => Pc.noConfusion here

/-- The words of a slot that guard it, up to the bit of one process. -/
structure SameGuard (holder : Holder) (before after : Slot) : Prop where
  state : after.state = before.state
  writer : after.writer = before.writer
  generation : after.generation = before.generation
  holders : ∀ other ≠ holder, holds after.holders other = holds before.holders other
  lock : locked after.holders = locked before.holders

theorem Grant.keep {words : Holder} (grant : Grant system slot other generation)
    (same : SameGuard words (system.slot slot) (next.slot slot)) (apart : other ≠ words) :
    Grant next slot other generation :=
  ⟨grant.current.trans same.generation.symm, same.state.trans grant.ready,
    (same.holders other apart).trans grant.held, same.lock.trans grant.unlocked⟩

theorem AcquireStep.Granted.keep {step : AcquireStep} {words : Holder}
    (granted : step.Granted system slot other generation)
    (same : SameGuard words (system.slot slot) (next.slot slot)) (apart : other ≠ words) :
    step.Granted next slot other generation := by
  cases step with
  | holders => trivial
  | undo => trivial
  | loadState | loadGeneration =>
    rcases granted with past | grant
    · exact .inl (same.generation ▸ past)
    · exact .inr (grant.keep same apart)
  | clock => exact Grant.keep granted same apart
  | lastUse now => exact Grant.keep granted same apart

/-- A process that claims a slot owns it. -/
theorem claim_owns (step : ClaimStep) :
    (Pc.claim slot step).unnamed = some slot ∨ (Pc.claim slot step).named = some slot := by
  cases step with
  | generation => exact .inl rfl
  | writer _ => exact .inl rfl
  | holders _ => exact .inr rfl
  | parentSlot _ => exact .inr rfl

/-- Nobody claims a slot that is not being written. -/
theorem Exclusive.unclaimed (exclusive : Exclusive system) (idle : (system.slot slot).state ≠ .writing) (process : Holder)
    (step : ClaimStep) : system.pc process ≠ .claim slot step := by
  intro claims
  obtain ⟨unnamed, named⟩ := exclusive.unowned idle process
  rw [claims] at unnamed named
  exact (claim_owns step).elim unnamed named

/-- A step that changes at most the bit of its process, and begins to take no slot. -/
theorem Guarded.keep (guarded : Guarded system slot) (exclusive : Exclusive system)
    (same : SameGuard self (system.slot slot) (next.slot slot))
    (others : ∀ other ≠ self, next.pc other = system.pc other)
    (log : ∀ other ≠ self, holding other slot next.log = holding other slot system.log)
    (gains : ∀ generation, holding self slot next.log = some generation →
      holding self slot system.log = some generation ∨ Grant system slot self generation)
    (held : ∀ generation, holding self slot next.log = some generation →
      holds (next.slot slot).holders self = true ∧ Holdable next slot self)
    (unclaimed : ∀ step, next.pc self ≠ .claim slot step) (untaking : next.pc self ≠ .reserve (.take slot))
    (unlocking : next.pc self ≠ .reserve (.unlock slot))
    (acquiring : ∀ generation step, next.pc self = .acquire slot generation step → step ≠ .holders →
      holding self slot next.log = none ∧ step.Granted next slot self generation)
    (abandoning : ∀ step, next.pc self = .abandon slot step → holding self slot next.log = none)
    (releasing : ∀ step, next.pc self = .release slot step → holding self slot next.log = none) :
    Guarded next slot := by
  -- A process that has just been granted the slot found it ready and unlocked.
  have nobody : (∀ other, holding other slot system.log = none) →
      ((system.slot slot).state ≠ .ready ∨ locked (system.slot slot).holders = true) →
      ∀ other, holding other slot next.log = none := by
    intro none busy other
    by_cases own : other = self
    · rw [own]
      cases gained : holding self slot next.log with
      | none => rfl
      | some generation =>
        rcases gains generation gained with before | grant
        · exact absurd_none ((none self).symm.trans before)
        · rcases busy with notReady | isLocked
          · exact absurd grant.ready notReady
          · exact absurd (grant.unlocked.symm.trans isLocked) Bool.false_ne_true
    · rw [log other own]
      exact none other
  constructor
  · intro process generation holds_
    by_cases own : process = self
    · rw [own] at holds_ ⊢
      obtain ⟨bit, holdable⟩ := held generation holds_
      refine ⟨bit, ?_, holdable⟩
      rw [same.generation]
      rcases gains generation holds_ with before | grant
      · exact (guarded.held self generation before).2.1
      · exact grant.current.symm
    · rw [log process own] at holds_
      obtain ⟨bit, current, holdable⟩ := guarded.held process generation holds_
      refine ⟨(same.holders process own).trans bit, same.generation.trans current, ?_⟩
      unfold Holdable
      rw [same.state, same.writer, others process own]
      exact holdable
  · intro process step claims
    by_cases own : process = self
    · exact absurd (own ▸ claims) (unclaimed step)
    · rw [others process own] at claims
      apply nobody (guarded.claiming process step claims)
      left
      intro ready
      exact exclusive.unclaimed (by simp [ready]) process step claims
  · intro process generation claims
    by_cases own : process = self
    · exact absurd (own ▸ claims) (unclaimed _)
    · rw [others process own] at claims
      rw [same.holders process own]
      exact guarded.stored process generation claims
  · intro process takes
    by_cases own : process = self
    · exact absurd (own ▸ takes) untaking
    · rw [others process own] at takes
      obtain ⟨ready, isLocked, none⟩ := guarded.taking process takes
      exact ⟨same.state.trans ready, same.lock.trans isLocked, nobody none (.inr isLocked)⟩
  · intro first second firstTakes secondTakes
    by_cases own : first = self
    · exact absurd (own ▸ firstTakes) untaking
    · by_cases otherOwn : second = self
      · exact absurd (otherOwn ▸ secondTakes) untaking
      · exact guarded.takers first second (others first own ▸ firstTakes) (others second otherOwn ▸ secondTakes)
  · intro process unlocks
    by_cases own : process = self
    · exact unlocking (own ▸ unlocks)
    · exact guarded.unlocking process (others process own ▸ unlocks)
  · intro free
    rw [same.state] at free
    exact nobody (guarded.free free) (.inl (by simp [free]))
  · intro process generation step acquires begun
    by_cases own : process = self
    · rw [own] at acquires ⊢
      exact acquiring generation step acquires begun
    · rw [others process own] at acquires
      obtain ⟨none, granted⟩ := guarded.acquiring process generation step acquires begun
      exact ⟨(log process own).trans none, granted.keep same own⟩
  · intro process step abandons
    by_cases own : process = self
    · rw [own] at abandons ⊢
      exact abandoning step abandons
    · rw [others process own] at abandons
      exact (log process own).trans (guarded.abandoning process step abandons)
  · intro process step releases
    by_cases own : process = self
    · rw [own] at releases ⊢
      exact releasing step releases
    · rw [others process own] at releases
      exact (log process own).trans (guarded.releasing process step releases)

/-- No other process can hold, take or be granted a slot. -/
structure Alone (system : System) (slot : Nat) (holder : Holder) : Prop where
  unheld : ∀ other ≠ holder, holding other slot system.log = none
  unclaimed : ∀ other ≠ holder, ∀ step, system.pc other ≠ .claim slot step
  untaken : ∀ other ≠ holder, system.pc other ≠ .reserve (.take slot)
  ungranted : ∀ other ≠ holder, ∀ generation, ¬ Grant system slot other generation

/-- A step on a slot that no other process holds, takes or is granted. -/
theorem Guarded.sole (guarded : Guarded system slot) (alone : Alone system slot self)
    (others : ∀ other ≠ self, next.pc other = system.pc other)
    (log : ∀ other ≠ self, holding other slot next.log = holding other slot system.log)
    (grows : (system.slot slot).generation ≤ (next.slot slot).generation)
    (held : ∀ generation, holding self slot next.log = some generation →
      holds (next.slot slot).holders self = true ∧ (next.slot slot).generation = generation ∧ Holdable next slot self)
    (claiming : ∀ step, next.pc self = .claim slot step → holding self slot next.log = none)
    (stored : ∀ generation, next.pc self = .claim slot (.parentSlot generation) →
      holds (next.slot slot).holders self = true)
    (taking : next.pc self = .reserve (.take slot) → (next.slot slot).state = .ready ∧
      locked (next.slot slot).holders = true ∧ holding self slot next.log = none)
    (unlocking : next.pc self ≠ .reserve (.unlock slot))
    (free : (next.slot slot).state = .free → holding self slot next.log = none)
    (unacquiring : ∀ generation step, next.pc self ≠ .acquire slot generation step)
    (abandoning : ∀ step, next.pc self = .abandon slot step → holding self slot next.log = none)
    (unreleasing : ∀ step, next.pc self ≠ .release slot step) : Guarded next slot := by
  have nobody : holding self slot next.log = none → ∀ other, holding other slot next.log = none := by
    intro none other
    by_cases own : other = self
    · rw [own]
      exact none
    · exact (log other own).trans (alone.unheld other own)
  constructor
  · intro process generation holds_
    by_cases own : process = self
    · rw [own] at holds_ ⊢
      exact held generation holds_
    · rw [log process own, alone.unheld process own] at holds_
      exact absurd_none holds_
  · intro process step claims
    by_cases own : process = self
    · exact nobody (claiming step (own ▸ claims))
    · exact absurd (others process own ▸ claims) (alone.unclaimed process own step)
  · intro process generation claims
    by_cases own : process = self
    · rw [own] at claims ⊢
      exact stored generation claims
    · exact absurd (others process own ▸ claims) (alone.unclaimed process own _)
  · intro process takes
    by_cases own : process = self
    · obtain ⟨ready, isLocked, none⟩ := taking (own ▸ takes)
      exact ⟨ready, isLocked, nobody none⟩
    · exact absurd (others process own ▸ takes) (alone.untaken process own)
  · intro first second firstTakes secondTakes
    by_cases own : first = self
    · by_cases otherOwn : second = self
      · rw [own, otherOwn]
      · exact absurd (others second otherOwn ▸ secondTakes) (alone.untaken second otherOwn)
    · exact absurd (others first own ▸ firstTakes) (alone.untaken first own)
  · intro process unlocks
    by_cases own : process = self
    · exact unlocking (own ▸ unlocks)
    · exact guarded.unlocking process (others process own ▸ unlocks)
  · exact fun isFree => nobody (free isFree)
  · intro process generation step acquires begun
    by_cases own : process = self
    · exact absurd (own ▸ acquires) (unacquiring generation step)
    · rw [others process own] at acquires
      obtain ⟨none, granted⟩ := guarded.acquiring process generation step acquires begun
      refine ⟨(log process own).trans none, ?_⟩
      have not := alone.ungranted process own generation
      cases step with
      | holders => trivial
      | undo => trivial
      | loadState | loadGeneration => exact .inl ((granted.resolve_right not).trans_le grows)
      | clock => exact absurd granted not
      | lastUse now => exact absurd granted not
  · intro process step abandons
    by_cases own : process = self
    · rw [own] at abandons ⊢
      exact abandoning step abandons
    · rw [others process own] at abandons
      exact (log process own).trans (guarded.abandoning process step abandons)
  · intro process step releases
    by_cases own : process = self
    · exact absurd (own ▸ releases) (unreleasing step)
    · rw [others process own] at releases
      exact (log process own).trans (guarded.releasing process step releases)

/-- The owner of a slot is alone with it. -/
theorem Guarded.alone_owner (guarded : Guarded system slot) (exclusive : Exclusive system)
    (owns : (system.pc self).unnamed = some slot ∨ (system.pc self).named = some slot) : Alone system slot self := by
  have writing : (system.slot slot).state = .writing := by
    rcases owns with unnamed | named
    · exact (exclusive.unnamed self slot unnamed).1
    · exact exclusive.writing slot self (exclusive.named self slot named)
  have busy : (system.slot slot).state ≠ .ready := by simp [writing]
  constructor
  · intro other apart
    cases holds_ : holding other slot system.log with
    | none => rfl
    | some generation =>
      obtain ⟨unnamed, _⟩ := exclusive.alone_owner owns apart
      rcases (guarded.held other generation holds_).2.2 with ready | writer | ⟨publication, publishes⟩
      · exact absurd ready busy
      · rcases owns with own | named
        · exact absurd_none ((exclusive.unnamed self slot own).2.symm.trans writer)
        · exact absurd (Option.some.inj (writer.symm.trans (exclusive.named self slot named))) apart
      · rw [publishes] at unnamed
        exact absurd rfl unnamed
  · intro other apart step claims
    obtain ⟨unnamed, named⟩ := exclusive.alone_owner owns apart
    rw [claims] at unnamed named
    exact (claim_owns step).elim unnamed named
  · exact fun other _ takes => busy (guarded.taking other takes).1
  · exact fun other _ generation grant => busy grant.ready

end Holding

section Frame

/-- The hold that an event begins or ends. -/
def Event.hold : Event → Option (Holder × Nat)
  | .reserved self slot _ | .acquired self slot _ | .released self slot | .abandoned self slot => some (self, slot)
  | _ => none

theorem holding_append {log events : List Event} (apart : ∀ event ∈ events, event.hold ≠ some (self, slot)) :
    holding self slot (events ++ log) = holding self slot log := by
  induction events with
  | nil => rfl
  | cons event rest ih =>
    have rest := ih fun event member => apart event (.tail _ member)
    have first := apart event (.head _)
    cases event with
    | reserved | acquired | released | abandoned =>
      rw [List.cons_append, holding, if_neg, rest]
      rintro ⟨rfl, rfl⟩
      exact first rfl
    | published | viewed | found => exact rest

/-- The slot whose guard the step depends on. -/
def Pc.guards : Pc → Option Nat
  | .reserve (.take slot) | .reserve (.unlock slot) | .claim slot _ | .acquire slot _ _ | .abandon slot _
  | .release slot _ => some slot
  | _ => none

/-- A word that does not guard a slot. -/
def Write.unguarded : Write → Bool
  | .state _ | .writer _ | .holders _ | .generation _ => false
  | _ => true

theorem Slot.write_unguarded {write : Write} (unguarded : write.unguarded = true) (before : Slot) (holder : Holder) :
    SameGuard holder before (before.write write) := by
  cases write with
  | lastUse | identity | tokenCount | parentSlot | parentGeneration => exact ⟨rfl, rfl, rfl, fun _ _ => rfl, rfl⟩
  | state | writer | holders | generation => exact Bool.noConfusion unguarded

/-- A step that writes no word which guards the slot, and begins or ends no hold of it. -/
structure Act.Unguarded (act : Act) (place : Nat) : Prop where
  write : ∀ write, act.write = some (place, write) → write.unguarded = true
  event : ∀ event, act.event = some event → ∀ holder, event.hold ≠ some (holder, place)

section Steps

variable {act : Act} (acts : (system.pc self).act slotCount self system.memory = act)
  (exclusive : Exclusive system)
include acts

theorem take_unguarded (unguarded : act.Unguarded place) (holder : Holder) :
    SameGuard holder (system.slot place) ((system.take slotCount self).slot place) := by
  subst acts
  rcases take_slot_cases slotCount system self place with same | ⟨write, written, changed⟩
  · rw [same]
    exact ⟨rfl, rfl, rfl, fun _ _ => rfl, rfl⟩
  · rw [changed]
    exact Slot.write_unguarded (unguarded.write write written) _ holder

theorem take_holding (apart : ∀ event, act.event = some event → event.hold ≠ some (other, place)) :
    holding other place (system.take slotCount self).log = holding other place system.log := by
  subst acts
  apply holding_append
  intro event member
  exact apart event (Option.mem_toList.mp member)

include exclusive

/-- A step that neither changes the guard of a slot nor begins to take it. -/
theorem Guarded.take_quiet (guarded : Guarded system place) (unguarded : act.Unguarded place)
    (closing : ∀ publication, system.pc self ≠ .publish place publication .state)
    (unclaimed : ∀ step, act.next ≠ .claim place step) (untaking : act.next ≠ .reserve (.take place))
    (unlocking : act.next ≠ .reserve (.unlock place))
    (acquiring : ∀ generation step, act.next = .acquire place generation step → step ≠ .holders →
      holding self place system.log = none ∧ step.Granted system place self generation)
    (abandoning : ∀ step, act.next = .abandon place step → holding self place system.log = none)
    (releasing : ∀ step, act.next = .release place step → holding self place system.log = none) :
    Guarded (system.take slotCount self) place := by
  have log : ∀ holder, holding holder place (system.take slotCount self).log = holding holder place system.log :=
    fun holder => take_holding acts fun event happens => unguarded.event event happens holder
  have pc : (system.take slotCount self).pc self = act.next := by rw [take_pc, acts]
  have same := take_unguarded acts unguarded
  obtain ⟨process, apart⟩ : ∃ process, process ≠ self := exists_ne self
  apply guarded.keep exclusive (same self) (fun other apart => take_pc_other apart) fun other _ => log other
  · intro generation holds_
    rw [log] at holds_
    exact .inl holds_
  · intro generation holds_
    rw [log] at holds_
    obtain ⟨bit, _, ready | writer | ⟨publication, publishes⟩⟩ := guarded.held self generation holds_
    · exact ⟨((same process).holders self apart.symm).trans bit, .inl ((same self).state.trans ready)⟩
    · exact ⟨((same process).holders self apart.symm).trans bit, .inr (.inl ((same self).writer.trans writer))⟩
    · exact absurd publishes (closing publication)
  · rw [pc]
    exact unclaimed
  · rw [pc]
    exact untaking
  · rw [pc]
    exact unlocking
  · rw [pc, log]
    intro generation step acquires begun
    obtain ⟨none, granted⟩ := acquiring generation step acquires begun
    exact ⟨none, granted.keep (same process) apart.symm⟩
  · rw [pc, log]
    exact abandoning
  · rw [pc, log]
    exact releasing

/-- A step that goes on without the guard of a slot. -/
theorem Guarded.take_plain (guarded : Guarded system place) (unguarded : act.Unguarded place)
    (closing : ∀ publication, system.pc self ≠ .publish place publication .state)
    (after : act.next.guards ≠ some place) : Guarded (system.take slotCount self) place := by
  have not : ∀ pc, pc.guards = some place → act.next ≠ pc := by
    rintro pc guards rfl
    exact after guards
  apply guarded.take_quiet acts exclusive unguarded closing
  · exact fun step => not _ rfl
  · exact not _ rfl
  · exact not _ rfl
  · exact fun generation step acquires => absurd acquires (not _ rfl)
  · exact fun step abandons => absurd abandons (not _ rfl)
  · exact fun step releases => absurd releases (not _ rfl)

/-- A step that writes one word of a slot that no other process can hold. -/
theorem Guarded.take_sole (guarded : ∀ place, Guarded system place) {write : Write}
    (written : act.write = some (slot, write)) (alone : Alone system slot self)
    (event : ∀ event, act.event = some event → event.hold = none ∨ event.hold = some (self, slot))
    (closing : ∀ place publication, place ≠ slot → system.pc self ≠ .publish place publication .state)
    (after : ∀ place ≠ slot, act.next.guards ≠ some place)
    (grows : (system.slot slot).generation ≤ ((system.slot slot).write write).generation)
    (held : ∀ generation, holding self slot (act.event.toList ++ system.log) = some generation →
      holds ((system.slot slot).write write).holders self = true ∧
      ((system.slot slot).write write).generation = generation ∧
      (((system.slot slot).write write).state = .ready ∨ ((system.slot slot).write write).writer = some self ∨
        ∃ publication, act.next = .publish slot publication .state))
    (claiming : ∀ step, act.next = .claim slot step → holding self slot (act.event.toList ++ system.log) = none)
    (stored : ∀ generation, act.next = .claim slot (.parentSlot generation) →
      holds ((system.slot slot).write write).holders self = true)
    (taking : act.next = .reserve (.take slot) → ((system.slot slot).write write).state = .ready ∧
      locked ((system.slot slot).write write).holders = true ∧
      holding self slot (act.event.toList ++ system.log) = none)
    (unlocking : act.next ≠ .reserve (.unlock slot))
    (free : ((system.slot slot).write write).state = .free →
      holding self slot (act.event.toList ++ system.log) = none)
    (unacquiring : ∀ generation step, act.next ≠ .acquire slot generation step)
    (abandoning : ∀ step, act.next = .abandon slot step →
      holding self slot (act.event.toList ++ system.log) = none)
    (unreleasing : ∀ step, act.next ≠ .release slot step) (place : Nat) :
    Guarded (system.take slotCount self) place := by
  by_cases here : place = slot
  · subst here
    have pc : (system.take slotCount self).pc self = act.next := by rw [take_pc, acts]
    have word : (system.take slotCount self).slot place = (system.slot place).write write :=
      take_slot (by rw [acts, written])
    have log : (system.take slotCount self).log = act.event.toList ++ system.log := by rw [System.take, acts]
    apply (guarded place).sole alone (fun other apart => take_pc_other apart)
    · intro other apart
      apply take_holding acts
      intro happened occurs same
      rcases event happened occurs with none | own
      · exact absurd_none (none.symm.trans same)
      · exact apart (congrArg Prod.fst (Option.some.inj (same.symm.trans own)))
    · rw [word]
      exact grows
    · unfold Holdable
      rw [word, log, pc]
      exact held
    · rw [log, pc]
      exact claiming
    · rw [word, pc]
      exact stored
    · rw [word, log, pc]
      exact taking
    · rw [pc]
      exact unlocking
    · rw [word, log]
      exact free
    · rw [pc]
      exact unacquiring
    · rw [log, pc]
      exact abandoning
    · rw [pc]
      exact unreleasing
  · apply (guarded place).take_plain acts exclusive _ (fun publication => closing place publication here) (after place here)
    constructor
    · intro other otherWritten
      exact absurd (congrArg Prod.fst (Option.some.inj (otherWritten.symm.trans written))) here
    · intro happened occurs holder same
      rcases event happened occurs with none | own
      · exact absurd_none (none.symm.trans same)
      · exact here (congrArg Prod.snd (Option.some.inj (same.symm.trans own)))

/-- A step of a process that does not hold the slot. -/
theorem Guarded.take_unheld (guarded : ∀ place, Guarded system place) {write : Write}
    (written : act.write = some (slot, write)) (silent : act.event = none) (alone : Alone system slot self)
    (unheld : holding self slot system.log = none)
    (open_ : ∀ place publication, system.pc self ≠ .publish place publication .state)
    (after : ∀ place ≠ slot, act.next.guards ≠ some place)
    (grows : (system.slot slot).generation ≤ ((system.slot slot).write write).generation)
    (stored : ∀ generation, act.next = .claim slot (.parentSlot generation) →
      holds ((system.slot slot).write write).holders self = true)
    (taking : act.next = .reserve (.take slot) → ((system.slot slot).write write).state = .ready ∧
      locked ((system.slot slot).write write).holders = true)
    (unlocking : act.next ≠ .reserve (.unlock slot))
    (unacquiring : ∀ generation step, act.next ≠ .acquire slot generation step)
    (unreleasing : ∀ step, act.next ≠ .release slot step) (place : Nat) :
    Guarded (system.take slotCount self) place := by
  have none : holding self slot (act.event.toList ++ system.log) = none := by
    rw [silent]
    exact unheld
  apply Guarded.take_sole acts exclusive guarded written alone
  · intro event happens
    exact absurd_none (silent.symm.trans happens)
  · exact fun place publication _ => open_ place publication
  · exact after
  · exact grows
  · exact fun generation holds_ => absurd_none (none.symm.trans holds_)
  · exact fun _ _ => none
  · exact stored
  · exact fun takes => ⟨(taking takes).1, (taking takes).2, none⟩
  · exact unlocking
  · exact fun _ => none
  · exact unacquiring
  · exact fun _ _ => none
  · exact unreleasing

end Steps

end Frame

end Sparkpipe.KvSharedIndex
