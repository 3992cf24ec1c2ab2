import Sparkpipe.Lib.Along
import Sparkpipe.Shared.Index

/-!
# One writer at a time

A slot that is being written belongs to one process. The process that takes the slot owns
it without a name until it has stored itself as the writer, and again from where it takes
its name out until it leaves the slot ready or free. In between the writer word names it.
The state word is taken by comparison and is left only by the owner, so this holds
whatever becomes of the holders.
-/

namespace Sparkpipe.KvSharedIndex

open Function

variable {slotCount : Nat} {system next : System} {self other : Holder} {slot : Nat}

section Frame

theorem absurd_none {α : Type} {value : α} {P : Prop} (same : none = some value) : P :=
  absurd same (Option.some_ne_none value).symm

@[simp]
theorem enter_pc (slotCount : Nat) (system : System) (self : Holder) (call : Call) :
    (system.enter slotCount self call).pc self = call.start slotCount :=
  update_self ..

theorem enter_pc_other (apart : other ≠ self) (call : Call) :
    (system.enter slotCount self call).pc other = system.pc other :=
  update_of_ne apart ..

@[simp]
theorem take_pc (slotCount : Nat) (system : System) (self : Holder) :
    (system.take slotCount self).pc self = ((system.pc self).act slotCount self system.memory).next :=
  update_self ..

theorem take_pc_other (apart : other ≠ self) : (system.take slotCount self).pc other = system.pc other :=
  update_of_ne apart ..

theorem acts_at (slotCount : Nat) {pc : Pc} (here : system.pc self = pc) :
    (system.pc self).act slotCount self system.memory = pc.act slotCount self system.memory := by
  rw [here]

/-- A slot that a step does not write stays as it is. -/
theorem take_slot_other {index : Nat}
    (unwritten : ∀ write, ((system.pc self).act slotCount self system.memory).write ≠ some (index, write)) :
    (system.take slotCount self).slot index = system.slot index := by
  unfold System.take System.slot Memory.perform
  dsimp only
  cases written : ((system.pc self).act slotCount self system.memory).write with
  | none => rfl
  | some store =>
    have apart : index ≠ store.1 := by
      rintro rfl
      exact unwritten store.2 written
    exact update_of_ne apart ..

theorem take_slot {index : Nat} {write : Write}
    (written : ((system.pc self).act slotCount self system.memory).write = some (index, write)) :
    (system.take slotCount self).slot index = (system.slot index).write write := by
  unfold System.take System.slot Memory.perform
  simp [written]

/-- A step changes a slot by the word it writes, or not at all. -/
theorem take_slot_cases (slotCount : Nat) (system : System) (self : Holder) (index : Nat) :
    (system.take slotCount self).slot index = system.slot index ∨
      ∃ write, ((system.pc self).act slotCount self system.memory).write = some (index, write) ∧
        (system.take slotCount self).slot index = (system.slot index).write write := by
  by_cases written : ∃ write, ((system.pc self).act slotCount self system.memory).write = some (index, write)
  · obtain ⟨write, written⟩ := written
    exact .inr ⟨write, written, take_slot written⟩
  · exact .inl (take_slot_other fun write same => written ⟨write, same⟩)

/-- What a call has come to, and the step at which it does. -/
theorem act_event {memory : Memory} {pc : Pc} {event : Event}
    (happens : (pc.act slotCount self memory).event = some event) :
    (∃ slot generation, pc = .claim slot (.parentSlot generation) ∧ event = .reserved self slot generation) ∨
    (∃ slot publication, pc = .publish slot publication .state ∧ event = .published self slot publication) ∨
    (∃ slot generation now, pc = .acquire slot generation (.lastUse now) ∧ event = .acquired self slot generation) ∨
    ∃ slot query view, pc = .read slot query (.generationAgain view) ∧
      (memory.slots slot).generation = view.generation ∧ (event = .viewed self slot view ∨
        ∃ sought, event = .found self sought slot view ∧ view.published.identity = sought.identity ∧
          view.published.tokenCount = sought.tokenCount) := by
  cases pc with
  | idle => exact absurd_none happens
  | find => exact absurd_none happens
  | claim slot step =>
    cases step with
    | parentSlot generation => exact .inl ⟨slot, generation, rfl, (Option.some.inj happens).symm⟩
    | generation | writer | holders => exact absurd_none happens
  | publish slot publication step =>
    cases step with
    | state => exact .inr (.inl ⟨slot, publication, rfl, (Option.some.inj happens).symm⟩)
    | loadState | loadWriter | identity | tokenCount | parentSlot | parentGeneration | clock | lastUse | writer =>
      exact absurd_none happens
  | acquire slot generation step =>
    cases step with
    | lastUse now => exact .inr (.inr (.inl ⟨slot, generation, now, rfl, (Option.some.inj happens).symm⟩))
    | holders | loadState | loadGeneration | undo | clock => exact absurd_none happens
  | abandon slot step =>
    cases step with
    | loadState | loadWriter | holders | writer | state => exact absurd_none happens
  | release slot step =>
    cases step with
    | clock | lastUse | holders => exact absurd_none happens
  | reserve step =>
    rw [Pc.act] at happens
    cases step with
    | takeFree slot | lock slot | take slot =>
      rw [ReserveStep.act] at happens
      split at happens
      · exact absurd_none happens
      · exact absurd_none happens
    | loadFree | loadState | loadHolders | loadLastUse | reloadLastUse | unlock =>
      exact absurd_none happens
  | read slot query step =>
    rw [Pc.act] at happens
    cases step with
    | generationAgain view =>
      rw [ReadStep.act] at happens
      split at happens
      · rename_i same
        refine .inr (.inr (.inr ⟨slot, query, view, rfl, same, ?_⟩))
        cases query with
        | none => exact .inl (Option.some.inj happens).symm
        | some sought =>
          rw [readDone] at happens
          split at happens
          · rename_i matching
            exact .inr ⟨sought, (Option.some.inj happens).symm, matching.2, matching.1⟩
          · exact absurd_none happens
      · exact absurd_none happens
    | generation | state | identity | tokenCount | parentSlot | parentGeneration | stateAgain =>
      exact absurd_none happens

end Frame

section Roles

/-- The slot that a process owns without a name. -/
def Pc.unnamed : Pc → Option Nat
  | .claim slot .generation | .claim slot (.writer _) | .publish slot _ .state | .abandon slot .state => some slot
  | _ => none

/-- The slot that a process works on as its writer. -/
def Pc.named : Pc → Option Nat
  | .claim slot (.holders _) | .claim slot (.parentSlot _) | .publish slot _ (.identity _)
  | .publish slot _ .tokenCount | .publish slot _ .parentSlot | .publish slot _ .parentGeneration
  | .publish slot _ .clock | .publish slot _ (.lastUse _) | .publish slot _ .writer | .abandon slot .holders
  | .abandon slot .writer => some slot
  | _ => none

/-- A slot that is being written has one owner. -/
structure Exclusive (system : System) : Prop where
  unnamed : ∀ self slot, (system.pc self).unnamed = some slot →
    (system.slot slot).state = .writing ∧ (system.slot slot).writer = none
  apart : ∀ self other slot, (system.pc self).unnamed = some slot → (system.pc other).unnamed = some slot →
    self = other
  named : ∀ self slot, (system.pc self).named = some slot → (system.slot slot).writer = some self
  writing : ∀ slot self, (system.slot slot).writer = some self → (system.slot slot).state = .writing
  owned : ∀ slot, (system.slot slot).state = .writing → (system.slot slot).writer = none →
    ∃ self, (system.pc self).unnamed = some slot

/-- No process has begun. -/
theorem initial_exclusive : Exclusive {} := by
  constructor
  · exact fun self slot none => absurd_none none
  · exact fun self other slot none => absurd_none none
  · exact fun self slot none => absurd_none none
  · exact fun slot self none => absurd_none none
  · exact fun slot writing => SlotState.noConfusion writing

variable (exclusive : Exclusive system)
include exclusive

/-- A step that changes neither the states nor the writers, nor who owns a slot without a name. -/
theorem Exclusive.keep (others : ∀ other ≠ self, next.pc other = system.pc other)
    (states : ∀ index, (next.slot index).state = (system.slot index).state)
    (writers : ∀ index, (next.slot index).writer = (system.slot index).writer)
    (unnamed : (next.pc self).unnamed = (system.pc self).unnamed)
    (named : ∀ slot, (next.pc self).named = some slot → (system.slot slot).writer = some self) : Exclusive next := by
  have same : ∀ process, (next.pc process).unnamed = (system.pc process).unnamed := by
    intro process
    by_cases own : process = self
    · rw [own, unnamed]
    · rw [others process own]
  constructor
  · intro process slot
    rw [same, states, writers]
    exact exclusive.unnamed process slot
  · intro process other slot
    rw [same, same]
    exact exclusive.apart process other slot
  · intro process slot works
    rw [writers]
    by_cases own : process = self
    · subst own
      exact named slot works
    · rw [others process own] at works
      exact exclusive.named process slot works
  · intro slot process
    rw [states, writers]
    exact exclusive.writing slot process
  · intro slot
    rw [states, writers]
    intro writing unwritten
    obtain ⟨process, owns⟩ := exclusive.owned slot writing unwritten
    exact ⟨process, (same process).trans owns⟩

/-- A step that changes one slot, on which no other process works, and the role of the process there. -/
theorem Exclusive.turn (others : ∀ other ≠ self, next.pc other = system.pc other)
    (elsewhere : ∀ index ≠ slot, (next.slot index).state = (system.slot index).state ∧
      (next.slot index).writer = (system.slot index).writer)
    (alone : ∀ other ≠ self, (system.pc other).unnamed ≠ some slot ∧ (system.pc other).named ≠ some slot)
    (before : ∀ place, (system.pc self).unnamed = some place → place = slot)
    (unnamed : ∀ place, (next.pc self).unnamed = some place →
      place = slot ∧ (next.slot slot).state = .writing ∧ (next.slot slot).writer = none)
    (named : ∀ place, (next.pc self).named = some place → place = slot ∧ (next.slot slot).writer = some self)
    (writing : ∀ process, (next.slot slot).writer = some process → (next.slot slot).state = .writing)
    (owned : (next.slot slot).state = .writing → (next.slot slot).writer = none →
      (next.pc self).unnamed = some slot) : Exclusive next := by
  constructor
  · intro process place owns
    by_cases own : process = self
    · obtain ⟨rfl, words⟩ := unnamed place (own ▸ owns)
      exact words
    · rw [others process own] at owns
      have apart : place ≠ slot := by
        rintro rfl
        exact (alone process own).1 owns
      rw [(elsewhere place apart).1, (elsewhere place apart).2]
      exact exclusive.unnamed process place owns
  · intro first second place firstOwns secondOwns
    by_cases own : first = self <;> by_cases otherOwn : second = self
    · rw [own, otherOwn]
    · obtain ⟨rfl, _⟩ := unnamed place (own ▸ firstOwns)
      exact absurd (others second otherOwn ▸ secondOwns) (alone second otherOwn).1
    · obtain ⟨rfl, _⟩ := unnamed place (otherOwn ▸ secondOwns)
      exact absurd (others first own ▸ firstOwns) (alone first own).1
    · rw [others first own] at firstOwns
      rw [others second otherOwn] at secondOwns
      exact exclusive.apart first second place firstOwns secondOwns
  · intro process place works
    by_cases own : process = self
    · obtain ⟨rfl, writer⟩ := named place (own ▸ works)
      rw [own]
      exact writer
    · rw [others process own] at works
      have apart : place ≠ slot := by
        rintro rfl
        exact (alone process own).2 works
      rw [(elsewhere place apart).2]
      exact exclusive.named process place works
  · intro place process written
    by_cases here : place = slot
    · rw [here] at written ⊢
      exact writing process written
    · rw [(elsewhere place here).2] at written
      rw [(elsewhere place here).1]
      exact exclusive.writing place process written
  · intro place isWriting unwritten
    by_cases here : place = slot
    · rw [here] at isWriting unwritten ⊢
      exact ⟨self, owned isWriting unwritten⟩
    · rw [(elsewhere place here).1] at isWriting
      rw [(elsewhere place here).2] at unwritten
      obtain ⟨process, owns⟩ := exclusive.owned place isWriting unwritten
      have apart : process ≠ self := by
        rintro rfl
        exact here (before place owns)
      exact ⟨process, (others process apart).symm ▸ owns⟩

/-- Nobody works on a slot that is not being written. -/
theorem Exclusive.unowned (idle : (system.slot slot).state ≠ .writing)
    (process : Holder) : (system.pc process).unnamed ≠ some slot ∧ (system.pc process).named ≠ some slot := by
  constructor
  · exact fun owns => idle (exclusive.unnamed process slot owns).1
  · exact fun works => idle (exclusive.writing slot process (exclusive.named process slot works))

theorem Exclusive.unwritten (idle : (system.slot slot).state ≠ .writing) :
    (system.slot slot).writer = none := by
  cases writer : (system.slot slot).writer with
  | none => rfl
  | some process => exact absurd (exclusive.writing slot process writer) idle

/-- Nobody else works on a slot that a process owns without a name. -/
theorem Exclusive.alone (owns : (system.pc self).unnamed = some slot)
    (apart : other ≠ self) : (system.pc other).unnamed ≠ some slot ∧ (system.pc other).named ≠ some slot := by
  constructor
  · exact fun otherOwns => apart (exclusive.apart other self slot otherOwns owns)
  · intro works
    have written := exclusive.named other slot works
    rw [(exclusive.unnamed self slot owns).2] at written
    exact absurd_none written

/-- Nobody else works on a slot that names its writer. -/
theorem Exclusive.alone_named (written : (system.slot slot).writer = some self)
    (apart : other ≠ self) : (system.pc other).unnamed ≠ some slot ∧ (system.pc other).named ≠ some slot := by
  constructor
  · intro owns
    rw [(exclusive.unnamed other slot owns).2] at written
    exact absurd_none written
  · intro works
    have otherWritten := exclusive.named other slot works
    rw [written] at otherWritten
    exact apart (Option.some.inj otherWritten).symm

end Roles

section Steps

/-- A process that is in no call, or that looks for a slot and has neither locked nor taken one. -/
def Pc.Looks : Pc → Prop
  | .reserve (.take _) | .reserve (.unlock _) => False
  | .idle | .reserve _ | .find _ _ => True
  | _ => False

theorem Pc.Looks.roles {pc : Pc} (looks : pc.Looks) : pc.unnamed = none ∧ pc.named = none := by
  cases pc with
  | idle | reserve | find => exact ⟨rfl, rfl⟩
  | claim | publish | abandon | acquire | release | read => exact looks.elim

/-- The searches go on looking. -/
theorem victimFrom_looks (slotCount slot : Nat) (scan : Scan) : (victimFrom slotCount slot scan).Looks := by
  unfold victimFrom
  split
  · trivial
  · split
    · trivial
    · trivial

theorem freeFrom_looks (slotCount slot : Nat) : (freeFrom slotCount slot).Looks := by
  unfold freeFrom
  split
  · trivial
  · exact victimFrom_looks ..

theorem findFrom_looks (slotCount slot : Nat) (query : Query) : (findFrom slotCount slot query).Looks := by
  unfold findFrom
  split
  · trivial
  · trivial

theorem readFailed_looks (slotCount slot : Nat) (query : Option Query) : (readFailed slotCount slot query).Looks := by
  cases query with
  | none => trivial
  | some query => exact findFrom_looks ..

/-- A step of the search for a slot that only loads a word. -/
def ReserveStep.loads : ReserveStep → Bool
  | .loadFree _ | .loadState _ _ | .loadHolders _ _ | .loadLastUse _ _ | .reloadLastUse _ => true
  | _ => false

theorem ReserveStep.act_loads (slotCount : Nat) (memory : Memory) {step : ReserveStep} (loads : step.loads = true) :
    ∃ next, step.act slotCount memory = { next := next } ∧ next.Looks := by
  cases step with
  | takeFree | lock | take | unlock => cases loads
  | reloadLastUse slot => exact ⟨_, rfl, victimFrom_looks ..⟩
  | loadFree slot =>
    refine ⟨_, rfl, ?_⟩
    split
    · trivial
    · exact freeFrom_looks ..
  | loadState slot scan | loadHolders slot scan | loadLastUse slot scan =>
    refine ⟨_, rfl, ?_⟩
    split
    · trivial
    · exact victimFrom_looks ..

/-- A read goes on reading the slot, or looks for another. -/
theorem ReadStep.act_next (slotCount : Nat) (self : Holder) (memory : Memory) (slot : Nat) (query : Option Query)
    (step : ReadStep) : (step.act slotCount self memory slot query).next.Looks ∨
      ∃ after, (step.act slotCount self memory slot query).next = .read slot query after := by
  cases step with
  | generation | tokenCount | parentSlot | parentGeneration => exact .inr ⟨_, rfl⟩
  | state before | stateAgain view =>
    rw [ReadStep.act]
    dsimp only
    split
    · exact .inr ⟨_, rfl⟩
    · exact .inl (readFailed_looks ..)
  | identity view word =>
    rw [ReadStep.act]
    dsimp only
    unfold nextWord
    split
    · exact .inr ⟨_, rfl⟩
    · exact .inr ⟨_, rfl⟩
  | generationAgain view =>
    rw [ReadStep.act]
    split
    · cases query with
      | none => exact .inl trivial
      | some query =>
        rw [readDone]
        split
        · exact .inl trivial
        · exact .inl (findFrom_looks ..)
    · exact .inl (readFailed_looks ..)

/-- A call begins in no role. -/
theorem Call.start_roles (slotCount : Nat) (call : Call) :
    (call.start slotCount).unnamed = none ∧ (call.start slotCount).named = none := by
  cases call with
  | reserve => exact (freeFrom_looks ..).roles
  | find query => exact (findFrom_looks ..).roles
  | publish slot publication | abandon slot | acquire slot generation | release slot | read slot =>
    rw [Call.start]
    split
    · exact ⟨rfl, rfl⟩
    · exact ⟨rfl, rfl⟩

/-- A word that does not say who owns a slot. -/
def Write.quiet : Write → Bool
  | .state _ | .writer _ => false
  | _ => true

theorem Slot.write_quiet {write : Write} (quiet : write.quiet = true) (before : Slot) :
    (before.write write).state = before.state ∧ (before.write write).writer = before.writer := by
  cases write with
  | state value => exact Bool.noConfusion quiet
  | writer value => exact Bool.noConfusion quiet
  | holders | generation | lastUse | identity | tokenCount | parentSlot | parentGeneration => exact ⟨rfl, rfl⟩

/-- A step that writes no word which says who owns a slot. -/
def Act.Quiet (act : Act) : Prop := ∀ slot write, act.write = some (slot, write) → write.quiet = true

theorem take_quiet (quiet : ((system.pc self).act slotCount self system.memory).Quiet) (index : Nat) :
    ((system.take slotCount self).slot index).state = (system.slot index).state ∧
      ((system.take slotCount self).slot index).writer = (system.slot index).writer := by
  rcases take_slot_cases slotCount system self index with same | ⟨write, written, changed⟩
  · rw [same]
    exact ⟨rfl, rfl⟩
  · rw [changed]
    exact Slot.write_quiet (quiet index write written) _

/-- A quiet step that neither takes nor leaves a role without a name. -/
theorem Exclusive.take_quiet (exclusive : Exclusive system) {act : Act}
    (acts : (system.pc self).act slotCount self system.memory = act) (quiet : act.Quiet)
    (unnamed : act.next.unnamed = (system.pc self).unnamed)
    (named : ∀ slot, act.next.named = some slot → (system.slot slot).writer = some self) :
    Exclusive (system.take slotCount self) := by
  subst acts
  apply exclusive.keep fun other apart => take_pc_other apart
  · exact fun index => (KvSharedIndex.take_quiet quiet index).1
  · exact fun index => (KvSharedIndex.take_quiet quiet index).2
  · rw [take_pc]
    exact unnamed
  · rw [take_pc]
    exact named

/-- A quiet step that ends in no role. -/
def Act.Plain (act : Act) : Prop := act.Quiet ∧ act.next.unnamed = none ∧ act.next.named = none

theorem Act.quiet_of_none {act : Act} (none : act.write = none) : act.Quiet := by
  intro slot write written
  rw [none] at written
  exact absurd_none written

theorem Act.quiet_of_some {act : Act} {store : Nat × Write} (written : act.write = some store)
    (quiet : store.2.quiet = true) : act.Quiet := by
  intro slot write same
  rw [written] at same
  obtain rfl := Option.some.inj same
  exact quiet

theorem AcquireStep.act_plain (self : Holder) (memory : Memory) (slot generation : Nat) (step : AcquireStep) :
    (step.act self memory slot generation).Plain := by
  cases step with
  | holders =>
    refine ⟨Act.quiet_of_some rfl rfl, ?_⟩
    rw [AcquireStep.act]
    dsimp only
    split
    · exact ⟨rfl, rfl⟩
    · split
      · exact ⟨rfl, rfl⟩
      · exact ⟨rfl, rfl⟩
  | loadState | loadGeneration => exact ⟨Act.quiet_of_none rfl, rfl, rfl⟩
  | undo => exact ⟨Act.quiet_of_some rfl rfl, rfl, rfl⟩
  | clock => exact ⟨Act.quiet_of_none rfl, rfl, rfl⟩
  | lastUse now => exact ⟨Act.quiet_of_some rfl rfl, rfl, rfl⟩

theorem ReleaseStep.act_plain (self : Holder) (memory : Memory) (slot : Nat) (step : ReleaseStep) :
    (step.act self memory slot).Plain := by
  cases step with
  | clock => exact ⟨Act.quiet_of_none rfl, rfl, rfl⟩
  | lastUse now => exact ⟨Act.quiet_of_some rfl rfl, rfl, rfl⟩
  | holders => exact ⟨Act.quiet_of_some rfl rfl, rfl, rfl⟩

/-- A read writes nothing. -/
theorem ReadStep.act_write (slotCount : Nat) (self : Holder) (memory : Memory) (slot : Nat) (query : Option Query)
    (step : ReadStep) : (step.act slotCount self memory slot query).write = none := by
  cases step with
  | generationAgain view =>
    rw [ReadStep.act]
    split
    · cases query with
      | none => rfl
      | some query =>
        rw [readDone]
        split
        · rfl
        · rfl
    · rfl
  | generation | state | identity | tokenCount | parentSlot | parentGeneration | stateAgain => rfl

theorem ReadStep.act_plain (slotCount : Nat) (self : Holder) (memory : Memory) (slot : Nat) (query : Option Query)
    (step : ReadStep) : (step.act slotCount self memory slot query).Plain := by
  refine ⟨Act.quiet_of_none (ReadStep.act_write ..), ?_⟩
  rcases ReadStep.act_next slotCount self memory slot query step with looks | ⟨after, reads⟩
  · exact looks.roles
  · rw [reads]
    exact ⟨rfl, rfl⟩

theorem Act.plain_of_looks {next : Pc} (looks : next.Looks) : Act.Plain { next := next } :=
  ⟨Act.quiet_of_none rfl, looks.roles⟩

/-- A step of the search for a slot, which takes none. -/
theorem ReserveStep.act_plain {memory : Memory} {step : ReserveStep}
    (takesFree : ∀ slot, step ≠ .takeFree slot) (takes : ∀ slot, step ≠ .take slot) :
    (step.act slotCount memory).Plain := by
  by_cases loads : step.loads = true
  · obtain ⟨next, acts, looks⟩ := ReserveStep.act_loads slotCount memory loads
    rw [acts]
    exact Act.plain_of_looks looks
  · cases step with
    | loadFree | loadState | loadHolders | loadLastUse | reloadLastUse => exact absurd rfl loads
    | takeFree slot => exact absurd rfl (takesFree slot)
    | take victim => exact absurd rfl (takes victim)
    | lock victim =>
      rw [ReserveStep.act]
      split
      · exact ⟨Act.quiet_of_some rfl rfl, rfl, rfl⟩
      · exact Act.plain_of_looks (victimFrom_looks ..)
    | unlock victim => exact ⟨Act.quiet_of_some rfl rfl, (victimFrom_looks slotCount 0 {}).roles⟩

section

variable (exclusive : Exclusive system)
include exclusive

/-- A step that writes one word of a slot on which no other process works. -/
theorem Exclusive.take_turn {act : Act} {write : Write}
    (acts : (system.pc self).act slotCount self system.memory = act) (written : act.write = some (slot, write))
    (alone : ∀ other ≠ self, (system.pc other).unnamed ≠ some slot ∧ (system.pc other).named ≠ some slot)
    (before : ∀ place, (system.pc self).unnamed = some place → place = slot)
    (unnamed : ∀ place, act.next.unnamed = some place →
      place = slot ∧ ((system.slot slot).write write).state = .writing ∧ ((system.slot slot).write write).writer = none)
    (named : ∀ place, act.next.named = some place →
      place = slot ∧ ((system.slot slot).write write).writer = some self)
    (writing : ∀ process, ((system.slot slot).write write).writer = some process →
      ((system.slot slot).write write).state = .writing)
    (owned : ((system.slot slot).write write).state = .writing → ((system.slot slot).write write).writer = none →
      act.next.unnamed = some slot) : Exclusive (system.take slotCount self) := by
  subst acts
  have here := take_slot written
  apply exclusive.turn fun other apart => take_pc_other apart
  · intro index apart
    have same : (system.take slotCount self).slot index = system.slot index := by
      apply take_slot_other
      intro other otherWritten
      rw [written] at otherWritten
      exact apart (congrArg Prod.fst (Option.some.inj otherWritten)).symm
    rw [same]
    exact ⟨rfl, rfl⟩
  · exact alone
  · exact before
  · rw [take_pc, here]
    exact unnamed
  · rw [take_pc, here]
    exact named
  · rw [here]
    exact writing
  · rw [take_pc, here]
    exact owned

section

variable {pc : Pc} (here : system.pc self = pc)
include here

theorem Exclusive.take_plain {act : Act} (acts : pc.act slotCount self system.memory = act)
    (outside : pc.unnamed = none) (plain : act.Plain) :
    Exclusive (system.take slotCount self) := by
  subst here
  apply exclusive.take_quiet acts plain.1
  · rw [outside]
    exact plain.2.1
  · intro slot works
    rw [plain.2.2] at works
    exact absurd_none works

/-- A process takes a slot that nobody writes. -/
theorem Exclusive.take_enter (outside : pc.unnamed = none) (idle : (system.slot slot).state ≠ .writing)
    (acts : pc.act slotCount self system.memory =
      { write := some (slot, .state .writing), next := .claim slot .generation }) :
    Exclusive (system.take slotCount self) := by
  subst here
  have unwritten := exclusive.unwritten idle
  apply exclusive.take_turn acts rfl
  · exact fun other _ => exclusive.unowned idle other
  · intro place owns
    rw [outside] at owns
    exact absurd_none owns
  · exact fun place owns => ⟨(Option.some.inj owns).symm, rfl, unwritten⟩
  · exact fun place works => absurd_none works
  · exact fun process written => absurd_none (unwritten.symm.trans written)
  · exact fun _ _ => rfl

/-- The owner of a slot stores its name. -/
theorem Exclusive.take_name {next : Pc} (owns : pc.unnamed = some slot) (role : next.unnamed = none)
    (named : next.named = some slot)
    (acts : pc.act slotCount self system.memory = { write := some (slot, .writer (some self)), next := next }) :
    Exclusive (system.take slotCount self) := by
  subst here
  apply exclusive.take_turn acts rfl
  · exact fun other apart => exclusive.alone owns apart
  · exact fun place same => Option.some.inj (same.symm.trans owns)
  · exact fun place still => absurd_none (role.symm.trans still)
  · exact fun place works => ⟨Option.some.inj (works.symm.trans named), rfl⟩
  · exact fun _ _ => (exclusive.unnamed self slot owns).1
  · exact fun _ unwritten => absurd unwritten (Option.some_ne_none self)

/-- The writer of a slot takes its name out. -/
theorem Exclusive.take_unname {next : Pc} (outside : pc.unnamed = none) (works : pc.named = some slot)
    (role : next.unnamed = some slot) (named : next.named = none)
    (acts : pc.act slotCount self system.memory = { write := some (slot, .writer none), next := next }) :
    Exclusive (system.take slotCount self) := by
  subst here
  have written := exclusive.named self slot works
  have writing := exclusive.writing slot self written
  apply exclusive.take_turn acts rfl
  · exact fun other apart => exclusive.alone_named written apart
  · exact fun place owns => absurd_none (outside.symm.trans owns)
  · exact fun place owns => ⟨Option.some.inj (owns.symm.trans role), writing, rfl⟩
  · exact fun place still => absurd_none (named.symm.trans still)
  · exact fun process none => absurd_none none
  · exact fun _ _ => role

/-- The owner of a slot leaves it. -/
theorem Exclusive.take_leave (owns : pc.unnamed = some slot) {state : SlotState} (left : state ≠ .writing)
    {event : Option Event}
    (acts : pc.act slotCount self system.memory =
      { write := some (slot, .state state), next := .idle, event := event }) :
    Exclusive (system.take slotCount self) := by
  subst here
  have unwritten := (exclusive.unnamed self slot owns).2
  apply exclusive.take_turn acts rfl
  · exact fun other apart => exclusive.alone owns apart
  · exact fun place same => Option.some.inj (same.symm.trans owns)
  · exact fun place none => absurd_none none
  · exact fun place none => absurd_none none
  · exact fun process written => absurd_none (unwritten.symm.trans written)
  · exact fun writing => absurd writing left

/-- The writer of a slot goes on. -/
theorem Exclusive.take_work {act : Act} (acts : pc.act slotCount self system.memory = act) (outside : pc.unnamed = none)
    (writer : (system.slot slot).writer = some self) (quiet : act.Quiet)
    (role : act.next.unnamed = none) (named : act.next.named = some slot ∨ act.next.named = none) :
    Exclusive (system.take slotCount self) := by
  subst here
  apply exclusive.take_quiet acts quiet
  · rw [outside]
    exact role
  · intro place works
    rcases named with same | none
    · obtain rfl := Option.some.inj (same.symm.trans works)
      exact writer
    · exact absurd_none (none.symm.trans works)

/-- The writer that a process which works on a slot has stored. -/
theorem Exclusive.writer (works : pc.named = some slot) : (system.slot slot).writer = some self := by
  subst here
  exact exclusive.named self slot works

end

theorem reserve_exclusive {step : ReserveStep} (here : system.pc self = .reserve step) :
    Exclusive (system.take slotCount self) := by
  cases step with
  | takeFree slot =>
    by_cases free : (system.slot slot).state = .free
    · have idle : (system.slot slot).state ≠ .writing := by simp [free]
      exact exclusive.take_enter here rfl idle (if_pos free)
    · exact exclusive.take_plain here (if_neg free) rfl (Act.plain_of_looks (freeFrom_looks ..))
  | take slot =>
    by_cases ready : (system.slot slot).state = .ready
    · have idle : (system.slot slot).state ≠ .writing := by simp [ready]
      exact exclusive.take_enter here rfl idle (if_pos ready)
    · exact exclusive.take_plain here (if_neg ready) rfl ⟨Act.quiet_of_none rfl, rfl, rfl⟩
  | loadFree | loadState | loadHolders | loadLastUse | reloadLastUse | lock | unlock =>
    exact exclusive.take_plain here rfl rfl (ReserveStep.act_plain (by simp) (by simp))

theorem claim_exclusive {step : ClaimStep} (here : system.pc self = .claim slot step) :
    Exclusive (system.take slotCount self) := by
  cases step with
  | generation =>
    apply exclusive.take_quiet (acts_at slotCount here) (Act.quiet_of_some rfl rfl)
    · rw [here]
      rfl
    · exact fun place none => absurd_none none
  | writer generation => exact exclusive.take_name here rfl rfl rfl rfl
  | holders generation =>
    exact exclusive.take_work here rfl rfl (exclusive.writer here rfl) (Act.quiet_of_some rfl rfl) rfl (.inl rfl)
  | parentSlot generation =>
    exact exclusive.take_work here rfl rfl (exclusive.writer here rfl) (Act.quiet_of_some rfl rfl) rfl (.inr rfl)

theorem publish_exclusive {publication : Publication} {step : PublishStep}
    (here : system.pc self = .publish slot publication step) : Exclusive (system.take slotCount self) := by
  cases step with
  | loadState =>
    apply exclusive.take_plain here rfl rfl
    refine ⟨Act.quiet_of_none rfl, ?_⟩
    rw [Pc.act, PublishStep.act]
    dsimp only
    split
    · exact ⟨rfl, rfl⟩
    · exact ⟨rfl, rfl⟩
  | loadWriter =>
    by_cases writes : (system.slot slot).writer = some self ∧ publicationValid slotCount publication
    · exact exclusive.take_work here (congrArg (fun next => ({ next := next } : Act)) (if_pos writes)) rfl writes.1
        (Act.quiet_of_none rfl) rfl (.inl rfl)
    · exact exclusive.take_plain here (congrArg (fun next => ({ next := next } : Act)) (if_neg writes)) rfl
        ⟨Act.quiet_of_none rfl, rfl, rfl⟩
  | identity word =>
    apply exclusive.take_work here rfl rfl (exclusive.writer here rfl) (Act.quiet_of_some rfl rfl)
    · rw [Pc.act, PublishStep.act]
      dsimp only
      unfold nextWord
      split
      · rfl
      · rfl
    · rw [Pc.act, PublishStep.act]
      dsimp only
      unfold nextWord
      split
      · exact .inl rfl
      · exact .inl rfl
  | tokenCount | parentSlot | parentGeneration | lastUse now =>
    exact exclusive.take_work here rfl rfl (exclusive.writer here rfl) (Act.quiet_of_some rfl rfl) rfl (.inl rfl)
  | clock =>
    exact exclusive.take_work here rfl rfl (exclusive.writer here rfl) (Act.quiet_of_none rfl) rfl (.inl rfl)
  | writer => exact exclusive.take_unname here rfl rfl rfl rfl rfl
  | state => exact exclusive.take_leave here rfl (by simp) rfl

theorem abandon_exclusive {step : AbandonStep} (here : system.pc self = .abandon slot step) :
    Exclusive (system.take slotCount self) := by
  cases step with
  | loadState =>
    apply exclusive.take_plain here rfl rfl
    refine ⟨Act.quiet_of_none rfl, ?_⟩
    rw [Pc.act, AbandonStep.act]
    dsimp only
    split
    · exact ⟨rfl, rfl⟩
    · exact ⟨rfl, rfl⟩
  | loadWriter =>
    by_cases writes : (system.slot slot).writer = some self
    · exact exclusive.take_work here (congrArg (fun next => ({ next := next } : Act)) (if_pos writes)) rfl writes
        (Act.quiet_of_none rfl) rfl (.inl rfl)
    · exact exclusive.take_plain here (congrArg (fun next => ({ next := next } : Act)) (if_neg writes)) rfl
        ⟨Act.quiet_of_none rfl, rfl, rfl⟩
  | holders =>
    exact exclusive.take_work here rfl rfl (exclusive.writer here rfl) (Act.quiet_of_some rfl rfl) rfl (.inl rfl)
  | writer => exact exclusive.take_unname here rfl rfl rfl rfl rfl
  | state => exact exclusive.take_leave here rfl (by simp) rfl

theorem take_exclusive (self : Holder) : Exclusive (system.take slotCount self) := by
  cases here : system.pc self with
  | idle => exact exclusive.take_plain here rfl rfl ⟨Act.quiet_of_none rfl, rfl, rfl⟩
  | reserve step => exact reserve_exclusive exclusive here
  | claim slot step => exact claim_exclusive exclusive here
  | publish slot publication step => exact publish_exclusive exclusive here
  | abandon slot step => exact abandon_exclusive exclusive here
  | acquire slot generation step => exact exclusive.take_plain here rfl rfl (AcquireStep.act_plain ..)
  | release slot step => exact exclusive.take_plain here rfl rfl (ReleaseStep.act_plain ..)
  | find slot query =>
    apply exclusive.take_plain here rfl rfl
    refine ⟨Act.quiet_of_none rfl, ?_⟩
    rw [Pc.act]
    dsimp only
    split
    · exact ⟨rfl, rfl⟩
    · exact (findFrom_looks ..).roles
  | read slot query step => exact exclusive.take_plain here rfl rfl (ReadStep.act_plain ..)

theorem enter_exclusive (idle : system.pc self = .idle) (call : Call) :
    Exclusive (system.enter slotCount self call) := by
  obtain ⟨unnamed, named⟩ := call.start_roles slotCount
  apply exclusive.keep fun other apart => enter_pc_other apart call
  · exact fun _ => rfl
  · exact fun _ => rfl
  · rw [enter_pc, unnamed, idle]
    rfl
  · intro slot works
    rw [enter_pc, named] at works
    exact absurd_none works

end

/-- What beginning a call and taking a step keep, every move keeps. -/
theorem step_keeps {P : System → Prop} (system : System) (move : Move)
    (enter : ∀ self call, system.pc self = .idle → P (system.enter slotCount self call))
    (take : ∀ self, P (system.take slotCount self)) (start : P system) : P (system.step slotCount move) := by
  cases move with
  | call self call =>
    rw [System.step]
    split
    · rename_i idle
      exact enter self call idle
    · exact start
  | go self => exact take self

theorem step_exclusive (system : System) (move : Move) (exclusive : Exclusive system) :
    Exclusive (system.step slotCount move) :=
  step_keeps system move (fun _ call idle => enter_exclusive exclusive idle call) (take_exclusive exclusive) exclusive

/-- What every move keeps holds in every interleaving. -/
theorem run_keeps {P : System → Prop} (step : ∀ system move, P system → P (system.step slotCount move)) (start : P {})
    (moves : List Move) : P (run slotCount moves) := by
  unfold run
  generalize ({} : System) = first at start
  induction moves generalizing first with
  | nil => exact start
  | cons move rest ih => exact ih _ (step first move start)

/-- In every interleaving, a slot that is being written has one owner. -/
theorem run_exclusive (slotCount : Nat) (moves : List Move) : Exclusive (run slotCount moves) :=
  run_keeps step_exclusive initial_exclusive moves

end Steps

end Sparkpipe.KvSharedIndex
