import Sparkpipe.Shared.Exclusive

/-!
# The words of a slot

What the writer of a slot and its readers have done so far. The words of a slot are those
of the publication that its generation was reserved for, as long as the slot is ready, and
when it has been taken until the process that took it counts the generation up. The writer
stores the words of its publication one by one, and a reader takes them one by one; a
reader whose generation is still that of the slot has taken words of that publication.
-/

namespace Sparkpipe.KvSharedIndex

variable {slotCount : Nat} {system next : System} {self other : Holder} {slot place generation : Nat}
  {publication : Publication}

section Records

/-- The generation that the last reservation of a slot by a process returned. -/
def lastReserved (self : Holder) (slot : Nat) : List Event → Option Nat
  | [] => none
  | .reserved process index generation :: earlier =>
    if process = self ∧ index = slot then some generation else lastReserved self slot earlier
  | _ :: earlier => lastReserved self slot earlier

/-- One publication of a slot has been made with these arguments, by a process whose reservation of the
slot had returned the generation. -/
def Recorded (log : List Event) (slot generation : Nat) (publication : Publication) : Prop :=
  ∃ later self earlier, log = later ++ .published self slot publication :: earlier ∧
    lastReserved self slot earlier = some generation

theorem Recorded.append {log : List Event} (recorded : Recorded log slot generation publication)
    (events : List Event) : Recorded (events ++ log) slot generation publication := by
  obtain ⟨later, process, earlier, rfl, reserved⟩ := recorded
  exact ⟨events ++ later, process, earlier, (List.append_assoc ..).symm, reserved⟩

/-- A reservation returns. -/
def Event.reserves : Event → Bool
  | .reserved .. => true
  | _ => false

theorem lastReserved_append {log events : List Event} (none : ∀ event ∈ events, event.reserves = false)
    (self : Holder) (slot : Nat) : lastReserved self slot (events ++ log) = lastReserved self slot log := by
  induction events with
  | nil => rfl
  | cons event rest ih =>
    have rest := ih fun event member => none event (.tail _ member)
    have first := none event (.head _)
    cases event with
    | reserved process index generation => exact Bool.noConfusion first
    | published | abandoned | acquired | released | viewed | found => exact rest

end Records

section Progress

/-- The words that a publication has stored, before each of its steps. -/
def PublishStep.Filled (publication current : Publication) : PublishStep → Prop
  | .loadState | .loadWriter => True
  | .identity word => ∀ earlier < word, current.identity earlier = publication.identity earlier
  | .tokenCount => current.identity = publication.identity
  | .parentSlot => current.identity = publication.identity ∧ current.tokenCount = publication.tokenCount
  | .parentGeneration => current.identity = publication.identity ∧ current.tokenCount = publication.tokenCount ∧
      current.parentSlot = publication.parentSlot
  | .clock | .lastUse _ | .writer | .state => current = publication

/-- The generation that a claim has counted. -/
def ClaimStep.claimed : ClaimStep → Option Nat
  | .generation => none
  | .writer generation | .holders generation | .parentSlot generation => some generation

/-- The view that a read is filling. -/
def ReadStep.view : ReadStep → Option View
  | .generation | .state _ => none
  | .identity view _ | .tokenCount view | .parentSlot view | .parentGeneration view | .stateAgain view
  | .generationAgain view => some view

/-- The words that a read has taken, before each of its steps. -/
def ReadStep.Seen (current : Publication) : ReadStep → Prop
  | .generation | .state _ => True
  | .identity view word => ∀ earlier < word, view.published.identity earlier = current.identity earlier
  | .tokenCount view => view.published.identity = current.identity
  | .parentSlot view => view.published.identity = current.identity ∧ view.published.tokenCount = current.tokenCount
  | .parentGeneration view => view.published.identity = current.identity ∧
      view.published.tokenCount = current.tokenCount ∧ view.published.parentSlot = current.parentSlot
  | .stateAgain view | .generationAgain view => view.published = current

/-- The words of a slot are those of the publication of its generation, and nobody has begun to change
them: the slot is ready, or it has been taken and its generation is still to be counted. -/
def Settled (system : System) (slot : Nat) : Prop :=
  Recorded system.log slot (system.slot slot).generation (system.slot slot).published ∧
    ((system.slot slot).state = .ready ∨ ∃ owner, system.pc owner = .claim slot .generation)

/-- What the writer and the readers of a slot have done so far. -/
structure Tracked (system : System) (slot : Nat) : Prop where
  ready : (system.slot slot).state = .ready →
    Recorded system.log slot (system.slot slot).generation (system.slot slot).published
  claimed : ∀ self step generation, system.pc self = .claim slot step → step.claimed = some generation →
    (system.slot slot).generation = generation
  issued : ∀ self, (system.slot slot).writer = some self → (∀ step, system.pc self ≠ .claim slot step) →
    lastReserved self slot system.log = some (system.slot slot).generation
  closing : ∀ self publication, system.pc self = .publish slot publication .state →
    lastReserved self slot system.log = some (system.slot slot).generation
  filled : ∀ self publication step, system.pc self = .publish slot publication step →
    step.Filled publication (system.slot slot).published
  begun : ∀ self query before, system.pc self = .read slot query (.state before) →
    before ≤ (system.slot slot).generation
  seen : ∀ self query step view, system.pc self = .read slot query step → step.view = some view →
    view.generation ≤ (system.slot slot).generation ∧
      (view.generation = (system.slot slot).generation → Settled system slot ∧
        step.Seen (system.slot slot).published)

/-- The slot that the step is about, for the writer and the readers. -/
def Pc.about : Pc → Option Nat
  | .claim slot _ | .publish slot _ _ | .read slot _ _ => some slot
  | _ => none

theorem initial_tracked (slot : Nat) : Tracked {} slot := by
  constructor
  · exact fun ready => SlotState.noConfusion ready
  · exact fun self step generation here => Pc.noConfusion here
  · exact fun self written => absurd_none written
  · exact fun self publication here => Pc.noConfusion here
  · exact fun self publication step here => Pc.noConfusion here
  · exact fun self query before here => Pc.noConfusion here
  · exact fun self query step view here => Pc.noConfusion here

/-- The words of a slot that are followed here. -/
structure SameWords (before after : Slot) : Prop where
  state : after.state = before.state
  writer : after.writer = before.writer
  generation : after.generation = before.generation
  published : after.published = before.published

theorem Settled.keep (settled : Settled system slot) (words : SameWords (system.slot slot) (next.slot slot))
    {events : List Event} (log : next.log = events ++ system.log)
    (others : ∀ other ≠ self, next.pc other = system.pc other)
    (stays : system.pc self = .claim slot .generation → next.pc self = .claim slot .generation) : Settled next slot := by
  obtain ⟨recorded, ready | ⟨owner, claims⟩⟩ := settled
  · refine ⟨?_, .inl (words.state.trans ready)⟩
    rw [words.generation, words.published, log]
    exact recorded.append events
  · refine ⟨?_, .inr ⟨owner, ?_⟩⟩
    · rw [words.generation, words.published, log]
      exact recorded.append events
    · by_cases own : owner = self
      · rw [own] at claims ⊢
        exact stays claims
      · rw [others owner own]
        exact claims

/-- A step that changes no word that is followed, with what the process has done after it. -/
theorem Tracked.keep (tracked : Tracked system slot) (words : SameWords (system.slot slot) (next.slot slot))
    {events : List Event} (log : next.log = events ++ system.log)
    (same : ∀ process, lastReserved process slot next.log = lastReserved process slot system.log)
    (others : ∀ other ≠ self, next.pc other = system.pc other)
    (stays : system.pc self = .claim slot .generation → next.pc self = .claim slot .generation)
    (leaves : (∀ step, next.pc self ≠ .claim slot step) → ∀ step, system.pc self ≠ .claim slot step)
    (claimed : ∀ step generation, next.pc self = .claim slot step → step.claimed = some generation →
      (system.slot slot).generation = generation)
    (closing : ∀ publication, next.pc self = .publish slot publication .state →
      lastReserved self slot system.log = some (system.slot slot).generation)
    (filled : ∀ publication step, next.pc self = .publish slot publication step →
      step.Filled publication (system.slot slot).published)
    (begun : ∀ query before, next.pc self = .read slot query (.state before) →
      before ≤ (system.slot slot).generation)
    (seen : ∀ query step view, next.pc self = .read slot query step → step.view = some view →
      view.generation ≤ (system.slot slot).generation ∧
        (view.generation = (system.slot slot).generation → Settled system slot ∧
          step.Seen (system.slot slot).published)) : Tracked next slot := by
  constructor
  · rw [words.state, words.generation, words.published, log]
    exact fun ready => (tracked.ready ready).append events
  · intro process step generation here
    rw [words.generation]
    by_cases own : process = self
    · exact claimed step generation (own ▸ here)
    · exact tracked.claimed process step generation (others process own ▸ here)
  · intro process written outside
    rw [words.writer] at written
    rw [words.generation, same]
    apply tracked.issued process written
    by_cases own : process = self
    · rw [own] at outside ⊢
      exact leaves outside
    · rw [others process own] at outside
      exact outside
  · intro process publication here
    rw [words.generation, same]
    by_cases own : process = self
    · rw [own] at here ⊢
      exact closing publication here
    · exact tracked.closing process publication (others process own ▸ here)
  · intro process publication step here
    rw [words.published]
    by_cases own : process = self
    · exact filled publication step (own ▸ here)
    · exact tracked.filled process publication step (others process own ▸ here)
  · intro process query before here
    rw [words.generation]
    by_cases own : process = self
    · exact begun query before (own ▸ here)
    · exact tracked.begun process query before (others process own ▸ here)
  · intro process query step view here filling
    rw [words.generation, words.published]
    have known : view.generation ≤ (system.slot slot).generation ∧
        (view.generation = (system.slot slot).generation → Settled system slot ∧
          step.Seen (system.slot slot).published) := by
      by_cases own : process = self
      · exact seen query step view (own ▸ here) filling
      · exact tracked.seen process query step view (others process own ▸ here) filling
    refine ⟨known.1, fun current => ?_⟩
    obtain ⟨settled, agrees⟩ := known.2 current
    exact ⟨settled.keep words log others stays, agrees⟩

/-- A step that is about another slot. -/
theorem Tracked.elsewhere (tracked : Tracked system place) (words : SameWords (system.slot place) (next.slot place))
    {events : List Event} (log : next.log = events ++ system.log)
    (same : ∀ process, lastReserved process place next.log = lastReserved process place system.log)
    (others : ∀ other ≠ self, next.pc other = system.pc other)
    (before : (system.pc self).about ≠ some place) (after : (next.pc self).about ≠ some place) :
    Tracked next place := by
  apply tracked.keep words log same others
  · exact fun here => absurd (congrArg Pc.about here) before
  · exact fun _ step here => before (congrArg Pc.about here)
  · exact fun step generation here => absurd (congrArg Pc.about here) after
  · exact fun publication here => absurd (congrArg Pc.about here) after
  · exact fun publication step here => absurd (congrArg Pc.about here) after
  · exact fun query earlier here => absurd (congrArg Pc.about here) after
  · exact fun query step view here => absurd (congrArg Pc.about here) after

/-- A step of the owner of a slot, or of the process that takes it. -/
theorem Tracked.turn (tracked : Tracked system slot)
    (others : ∀ other ≠ self, next.pc other = system.pc other)
    (alone : ∀ other ≠ self, (system.pc other).unnamed ≠ some slot ∧ (system.pc other).named ≠ some slot)
    (grows : (system.slot slot).generation ≤ (next.slot slot).generation)
    (settles : (next.slot slot).generation = (system.slot slot).generation → Settled system slot →
      Settled next slot ∧ (next.slot slot).published = (system.slot slot).published)
    (unread : ∀ query step, next.pc self ≠ .read slot query step)
    (ready : (next.slot slot).state = .ready →
      Recorded next.log slot (next.slot slot).generation (next.slot slot).published)
    (writer : ∀ other, (next.slot slot).writer = some other → other = self)
    (claimed : ∀ step generation, next.pc self = .claim slot step → step.claimed = some generation →
      (next.slot slot).generation = generation)
    (issued : (next.slot slot).writer = some self → (∀ step, next.pc self ≠ .claim slot step) →
      lastReserved self slot next.log = some (next.slot slot).generation)
    (closing : ∀ publication, next.pc self = .publish slot publication .state →
      lastReserved self slot next.log = some (next.slot slot).generation)
    (filled : ∀ publication step, next.pc self = .publish slot publication step →
      step.Filled publication (next.slot slot).published) : Tracked next slot := by
  constructor
  · exact ready
  · intro process step generation here counted
    by_cases own : process = self
    · exact claimed step generation (own ▸ here) counted
    · rw [others process own] at here
      obtain ⟨unnamed, named⟩ := alone process own
      rw [here] at unnamed named
      cases step with
      | generation => exact absurd rfl unnamed
      | writer _ => exact absurd rfl unnamed
      | holders _ => exact absurd rfl named
      | parentSlot _ => exact absurd rfl named
  · intro process written
    obtain rfl := writer process written
    exact issued written
  · intro process publication here
    by_cases own : process = self
    · rw [own] at here ⊢
      exact closing publication here
    · rw [others process own] at here
      have unnamed := (alone process own).1
      rw [here] at unnamed
      exact absurd rfl unnamed
  · intro process publication step here
    by_cases own : process = self
    · exact filled publication step (own ▸ here)
    · rw [others process own] at here
      obtain ⟨unnamed, named⟩ := alone process own
      rw [here] at unnamed named
      cases step with
      | loadState => trivial
      | loadWriter => trivial
      | state => exact absurd rfl unnamed
      | identity | tokenCount | parentSlot | parentGeneration | clock | lastUse | writer => exact absurd rfl named
  · intro process query before here
    by_cases own : process = self
    · exact absurd (own ▸ here) (unread query _)
    · exact (tracked.begun process query before (others process own ▸ here)).trans grows
  · intro process query step view here filling
    by_cases own : process = self
    · exact absurd (own ▸ here) (unread query step)
    · obtain ⟨bound, current⟩ := tracked.seen process query step view (others process own ▸ here) filling
      refine ⟨bound.trans grows, fun same => ?_⟩
      have counted : (next.slot slot).generation = (system.slot slot).generation := by omega
      obtain ⟨settled, agrees⟩ := current (same.trans counted)
      obtain ⟨stillSettled, published⟩ := settles counted settled
      exact ⟨stillSettled, published ▸ agrees⟩

end Progress

section Steps

/-- A word that is not followed here. -/
def Write.still : Write → Bool
  | .holders _ | .lastUse _ => true
  | _ => false

theorem Slot.write_still {write : Write} (still : write.still = true) (before : Slot) :
    SameWords before (before.write write) := by
  cases write with
  | holders value => exact ⟨rfl, rfl, rfl, rfl⟩
  | lastUse value => exact ⟨rfl, rfl, rfl, rfl⟩
  | state | writer | generation | identity | tokenCount | parentSlot | parentGeneration => exact Bool.noConfusion still

/-- A step that writes no word which is followed, and in which no reservation returns. -/
structure Act.Still (act : Act) : Prop where
  write : ∀ slot write, act.write = some (slot, write) → write.still = true
  event : ∀ event, act.event = some event → event.reserves = false

theorem take_still (still : ((system.pc self).act slotCount self system.memory).Still) (index : Nat) :
    SameWords (system.slot index) ((system.take slotCount self).slot index) := by
  rcases take_slot_cases slotCount system self index with same | ⟨write, written, changed⟩
  · rw [same]
    exact ⟨rfl, rfl, rfl, rfl⟩
  · rw [changed]
    exact Slot.write_still (still.write index write written) _

theorem Act.Still.reserved {act : Act} (still : act.Still) (log : List Event) (process : Holder) (index : Nat) :
    lastReserved process index (act.event.toList ++ log) = lastReserved process index log := by
  apply lastReserved_append
  intro event member
  exact still.event event (Option.mem_toList.mp member)

/-- Nothing is settled while the owner of a slot works on it. -/
theorem Exclusive.unsettled (exclusive : Exclusive system)
    (owns : (system.pc self).unnamed = some slot ∨ (system.pc self).named = some slot)
    (counted : system.pc self ≠ .claim slot .generation) : ¬ Settled system slot := by
  rintro ⟨_, ready | ⟨owner, claims⟩⟩
  · have idle : (system.slot slot).state ≠ .writing := by simp [ready]
    obtain ⟨unowned, unworked⟩ := exclusive.unowned idle self
    exact owns.elim unowned unworked
  · have ownerOwns : (system.pc owner).unnamed = some slot := by simp [claims, Pc.unnamed]
    have apart : self ≠ owner := by
      rintro rfl
      exact counted claims
    obtain ⟨unowned, unworked⟩ := exclusive.alone ownerOwns apart
    exact owns.elim unowned unworked

theorem Exclusive.alone_owner (exclusive : Exclusive system)
    (owns : (system.pc self).unnamed = some slot ∨ (system.pc self).named = some slot) (apart : other ≠ self) :
    (system.pc other).unnamed ≠ some slot ∧ (system.pc other).named ≠ some slot := by
  rcases owns with unnamed | named
  · exact exclusive.alone unnamed apart
  · exact exclusive.alone_named (exclusive.named self slot named) apart

section Turns

variable {act : Act} {write : Write}
  (acts : (system.pc self).act slotCount self system.memory = act)
include acts

/-- A still step that is not part of a claim's counting, with what the process has done after it. -/
theorem Tracked.take_still (tracked : Tracked system place) (still : act.Still)
    (counts : system.pc self ≠ .claim place .generation)
    (leaves : (∀ step, act.next ≠ .claim place step) → ∀ step, system.pc self ≠ .claim place step)
    (claimed : ∀ step generation, act.next = .claim place step → step.claimed = some generation →
      (system.slot place).generation = generation)
    (closing : ∀ publication, act.next = .publish place publication .state →
      lastReserved self place system.log = some (system.slot place).generation)
    (filled : ∀ publication step, act.next = .publish place publication step →
      step.Filled publication (system.slot place).published)
    (begun : ∀ query before, act.next = .read place query (.state before) →
      before ≤ (system.slot place).generation)
    (seen : ∀ query step view, act.next = .read place query step → step.view = some view →
      view.generation ≤ (system.slot place).generation ∧
        (view.generation = (system.slot place).generation → Settled system place ∧
          step.Seen (system.slot place).published)) : Tracked (system.take slotCount self) place := by
  subst acts
  have pc := take_pc slotCount system self
  apply tracked.keep (KvSharedIndex.take_still still place) rfl (fun process => still.reserved _ process place)
    (fun other apart => take_pc_other apart)
  · exact fun here => absurd here counts
  · rw [pc]
    exact leaves
  · rw [pc]
    exact claimed
  · rw [pc]
    exact closing
  · rw [pc]
    exact filled
  · rw [pc]
    exact begun
  · rw [pc]
    exact seen

/-- A still step after which the process neither writes nor reads a slot. -/
theorem Tracked.take_over (tracked : Tracked system place) (still : act.Still)
    (outside : ∀ step, system.pc self ≠ .claim place step) (after : act.next.about = none) :
    Tracked (system.take slotCount self) place := by
  have not : ∀ pc, pc.about = some place → act.next ≠ pc := by
    rintro pc about rfl
    exact absurd_none (after.symm.trans about)
  apply tracked.take_still acts still
  · exact outside _
  · exact fun _ => outside
  · exact fun step generation here => absurd here (not _ rfl)
  · exact fun publication here => absurd here (not _ rfl)
  · exact fun publication step here => absurd here (not _ rfl)
  · exact fun query earlier here => absurd here (not _ rfl)
  · exact fun query step view here => absurd here (not _ rfl)

variable (written : act.write = some (slot, write))
  (same : ∀ place ≠ slot, ∀ process,
    lastReserved process place (act.event.toList ++ system.log) = lastReserved process place system.log)
  (before : ∀ index, (system.pc self).about = some index → index = slot)
  (after : ∀ index, act.next.about = some index → index = slot)
include written same before after

/-- A step that writes one word of the slot it is about. -/
theorem Tracked.take_turn (tracked : ∀ place, Tracked system place)
    (here : Tracked (system.take slotCount self) slot) (place : Nat) : Tracked (system.take slotCount self) place := by
  subst acts
  by_cases elsewhere : place = slot
  · rw [elsewhere]
    exact here
  · have kept : (system.take slotCount self).slot place = system.slot place := by
      apply take_slot_other
      intro other otherWritten
      rw [written] at otherWritten
      exact elsewhere (congrArg Prod.fst (Option.some.inj otherWritten)).symm
    have words : SameWords (system.slot place) ((system.take slotCount self).slot place) := by
      rw [kept]
      exact ⟨rfl, rfl, rfl, rfl⟩
    apply (tracked place).elsewhere words rfl (same place elsewhere) (fun other apart => take_pc_other apart)
    · exact fun about => elsewhere (before place about)
    · rw [take_pc]
      exact fun about => elsewhere (after place about)

/-- A step of the owner of a slot after it has counted the generation. Nothing is settled there, so no
reader can be of the current generation. -/
theorem Tracked.take_own (tracked : ∀ place, Tracked system place) (exclusive : Exclusive system)
    (owns : (system.pc self).unnamed = some slot ∨ (system.pc self).named = some slot)
    (counted : system.pc self ≠ .claim slot .generation)
    (unread : ∀ query step, act.next ≠ .read slot query step)
    (kept : ((system.slot slot).write write).generation = (system.slot slot).generation)
    (ready : ((system.slot slot).write write).state = .ready →
      Recorded (act.event.toList ++ system.log) slot (system.slot slot).generation
        ((system.slot slot).write write).published)
    (writer : ∀ other, ((system.slot slot).write write).writer = some other → other = self)
    (claimed : ∀ step generation, act.next = .claim slot step → step.claimed = some generation →
      (system.slot slot).generation = generation)
    (issued : ((system.slot slot).write write).writer = some self → (∀ step, act.next ≠ .claim slot step) →
      lastReserved self slot (act.event.toList ++ system.log) = some (system.slot slot).generation)
    (closing : ∀ publication, act.next = .publish slot publication .state →
      lastReserved self slot (act.event.toList ++ system.log) = some (system.slot slot).generation)
    (filled : ∀ publication step, act.next = .publish slot publication step →
      step.Filled publication ((system.slot slot).write write).published) (place : Nat) :
    Tracked (system.take slotCount self) place := by
  apply Tracked.take_turn acts written same before after tracked
  subst acts
  have word := take_slot written
  have pc := take_pc slotCount system self
  apply (tracked slot).turn (fun other apart => take_pc_other apart) fun other apart => exclusive.alone_owner owns apart
  · rw [word, kept]
  · exact fun _ settled => absurd settled (exclusive.unsettled owns counted)
  · rw [pc]
    exact unread
  · rw [word, kept]
    exact ready
  · rw [word]
    exact writer
  · rw [pc, word, kept]
    exact claimed
  · rw [pc, word, kept]
    exact issued
  · rw [pc, word, kept]
    exact closing
  · rw [pc, word]
    exact filled

end Turns

/-- A still step of a process that neither writes nor reads a slot, nor begins to. -/
theorem Tracked.take_away (tracked : Tracked system place) {pc : Pc} {act : Act} (here : system.pc self = pc)
    (acts : pc.act slotCount self system.memory = act) (still : act.Still)
    (before : pc.about = none) (after : act.next.about = none) :
    Tracked (system.take slotCount self) place := by
  subst here
  apply tracked.take_over acts still _ after
  intro step claims
  rw [claims] at before
  exact absurd before (Option.some_ne_none place)

/-- Looking for a slot is about none. -/
theorem Pc.Looks.about {pc : Pc} (looks : pc.Looks) : pc.about = none := by
  cases pc with
  | idle | reserve | find => rfl
  | claim | publish | abandon | acquire | release | read => exact looks.elim

theorem Act.still_of_none {act : Act} (write : act.write = none) (event : act.event = none) : act.Still := by
  constructor
  · intro slot word written
    rw [write] at written
    exact absurd_none written
  · intro event' happened
    rw [event] at happened
    exact absurd_none happened

theorem Act.still_of_some {act : Act} {store : Nat × Write} (write : act.write = some store)
    (still : store.2.still = true) (event : ∀ event, act.event = some event → event.reserves = false) : act.Still := by
  refine ⟨?_, event⟩
  intro slot word written
  rw [write] at written
  obtain rfl := Option.some.inj written
  exact still

/-- A process takes a slot: its words stay settled if they were. -/
theorem Tracked.take_enter (tracked : ∀ place, Tracked system place) (exclusive : Exclusive system)
    {pc : Pc} (here : system.pc self = pc) (before : pc.about = none) (idle : (system.slot slot).state ≠ .writing)
    (acts : pc.act slotCount self system.memory =
      { write := some (slot, .state .writing), next := .claim slot .generation }) (place : Nat) :
    Tracked (system.take slotCount self) place := by
  subst here
  have unwritten := exclusive.unwritten idle
  have pc : (system.take slotCount self).pc self = .claim slot .generation := by rw [take_pc, acts]
  have word : (system.take slotCount self).slot slot = (system.slot slot).write (.state .writing) :=
    take_slot (by rw [acts])
  have log : (system.take slotCount self).log = system.log := by simp [System.take, acts]
  refine Tracked.take_turn acts rfl (fun _ _ _ => rfl) ?_ ?_ tracked ?_ place
  · exact fun index about => absurd_none (before.symm.trans about)
  · exact fun index about => (Option.some.inj about).symm
  · apply (tracked slot).turn (fun other apart => take_pc_other apart) fun other _ => exclusive.unowned idle other
    · rw [word]
      exact le_rfl
    · rintro _ ⟨recorded, _⟩
      refine ⟨⟨?_, .inr ⟨self, pc⟩⟩, by rw [word]; rfl⟩
      rw [word, log]
      exact recorded
    · rw [pc]
      exact fun query step here => Pc.noConfusion here
    · rw [word]
      exact fun ready => SlotState.noConfusion ready
    · rw [word]
      exact fun other written => absurd_none (unwritten.symm.trans written)
    · rw [pc]
      intro step generation here counted
      obtain rfl : ClaimStep.generation = step := by simpa using here
      exact absurd_none counted
    · rw [word]
      exact fun written => absurd_none (unwritten.symm.trans written)
    · rw [pc]
      exact fun publication here => Pc.noConfusion here
    · rw [pc]
      exact fun publication step here => Pc.noConfusion here

end Steps

end Sparkpipe.KvSharedIndex
