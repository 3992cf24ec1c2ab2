import Sparkpipe.Transaction.Sound

/-!
# What the calls on a ledger do

Each call keeps a ledger sound, and what it does is said of the map from identities to
entries: an observation may empty the table, finds the entry or adds one, for which it may
have to give up another; a transition changes one entry.
-/

namespace Sparkpipe.WorkTransaction

open Function

namespace Ledger

variable {ledger after : Ledger} {identity : Identity} {index : Nat} {entry : Entry}
  {payloadFingerprint : UInt64}

theorem lookup_congr {other : Ledger} (entries : other.entries = ledger.entries)
    (capacity : other.entryCapacity = ledger.entryCapacity) : other.lookup = ledger.lookup := by
  have along : ∀ identity path, other.findAlong identity path = ledger.findAlong identity path := by
    intro identity path
    induction path with
    | nil => rfl
    | cons first rest ih =>
      unfold findAlong
      rw [ih, entries]
  funext identity
  unfold lookup findInternal probes probe identityStartIndex
  rw [along, entries, capacity]

section Observing

/-- The ledger in which an observation looks for its identity, in a new epoch. -/
structure Opened (ledger : Ledger) (identity : Identity) (base : Ledger) : Prop where
  sound : base.Sound
  valid : identity.isValid = true
  capacity : base.entryCapacity = ledger.entryCapacity
  generation : base.activeControlGeneration = identity.controlGeneration
  carried : base.entries = ledger.entries ∧ base.lookup = ledger.lookup ∧
      base.epoch = ledger.advanceEpoch.epoch ∧
      ledger.activeControlGeneration = identity.controlGeneration ∨
    (∀ identity, base.lookup identity = none) ∧
      ledger.activeControlGeneration < identity.controlGeneration ∧ ledger.activeEntryCount = 0

theorem reset_lookup (capacity : 0 < ledger.entryCapacity) (generation : UInt64) (identity : Identity) :
    (ledger.resetLedger generation).advanceEpoch.lookup identity = none := by
  have sound := (resetLedger_sound capacity generation).advance
  rw [Option.eq_none_iff_forall_ne_some]
  intro entry found
  obtain ⟨index, rfl, stored, -⟩ := sound.lookup_iff.mp found
  cases stored

/-- A ledger without a control generation has no active entry. -/
theorem Sound.unstarted (sound : ledger.Sound) (unset : ledger.activeControlGeneration = 0) :
    ledger.activeEntryCount = 0 := by
  rw [sound.activeCount]
  refine tally_eq_zero fun index _ => ?_
  rw [Bool.eq_false_iff]
  intro active
  obtain ⟨stored, -⟩ := Bool.and_eq_true_iff.mp active
  obtain ⟨valid, current⟩ := sound.known index stored
  simp only [Identity.isValid, current, unset, ne_eq, not_true_eq_false, decide_false, Bool.false_and,
    Bool.false_eq_true] at valid

/-- The preparation of a generation refuses, or it opens the ledger for the observation. -/
theorem Sound.opened (sound : ledger.Sound) (valid : identity.isValid = true) :
    (ledger.prepareControlGeneration identity.controlGeneration).1 ≠ .ok ∧
      (ledger.prepareControlGeneration identity.controlGeneration).2 = ledger ∨
    (ledger.prepareControlGeneration identity.controlGeneration).1 = .ok ∧
      Opened ledger identity
        (ledger.prepareControlGeneration identity.controlGeneration).2.advanceEpoch := by
  have started : 0 < identity.controlGeneration := by
    unfold Identity.isValid at valid
    simp only [ne_eq, decide_not, Bool.and_eq_true, Bool.not_eq_eq_eq_not, Bool.not_true,
      decide_eq_false_iff_not] at valid
    exact UInt64.pos_iff_ne_zero.mpr valid.1.1.1.1.1.1.1.1
  have resets : ledger.activeControlGeneration < identity.controlGeneration → ledger.activeEntryCount = 0 →
      Opened ledger identity (ledger.resetLedger identity.controlGeneration).advanceEpoch := by
    intro newer idle
    exact ⟨(resetLedger_sound sound.capacity _).advance, valid, rfl, rfl,
      .inr ⟨reset_lookup sound.capacity _, newer, idle⟩⟩
  unfold prepareControlGeneration
  split
  · rename_i unset
    refine .inr ⟨rfl, resets ?_ (sound.unstarted unset)⟩
    rw [unset]
    exact started
  · split
    · rename_i current
      exact .inr ⟨rfl, sound.advance, valid, rfl, current.symm,
        .inl ⟨rfl, lookup_congr rfl rfl, rfl, current.symm⟩⟩
    · split
      · exact .inl ⟨nofun, rfl⟩
      · split
        · exact .inl ⟨nofun, rfl⟩
        · rename_i different notOlder idle
          refine .inr ⟨rfl, resets ?_ (not_not.mp idle)⟩
          exact UInt64.lt_of_le_of_ne (UInt64.not_lt.mp notOlder) (Ne.symm different)

/-- The identity whose entry is recycled for a new one, when there is no place for it. -/
def recycles (base : Ledger) (identity : Identity) : Option Identity :=
  if (base.findInternal identity).isSome ∨ (base.selectInsertionEntry identity).isSome then none
  else base.oldestTerminalEntry.map fun index => (base.entries index).identity

/-- The map before a new entry is added: one entry may have been given up. -/
inductive Vacates (base : Ledger) (identity : Identity) : (Identity → Option Entry) → Prop
  | already : Vacates base identity base.lookup
  | recycled (old : Entry) (found : base.lookup old.identity = some old) (terminal : old.state.isTerminal = true)
      (full : ∀ index ∈ base.probes identity, (base.entries index).state.isStored = true)
      (oldest : ∀ other entry, base.lookup other = some entry → entry.state.isTerminal = true →
        old.lastObservedEpoch ≤ entry.lastObservedEpoch)
      (chosen : base.recycles identity = some old.identity) :
      Vacates base identity (update base.lookup old.identity none)

/-- The entry of a new transaction. -/
def newEntry (base : Ledger) (identity : Identity) (payloadFingerprint : UInt64) : Entry where
  identity := identity
  payloadFingerprint := payloadFingerprint
  lastObservedEpoch := base.epoch
  state := .prepared
  terminalStatus := .pending

/-- How an observation ends. -/
inductive Ends (base : Ledger) (identity : Identity) (payloadFingerprint : UInt64) (result : Observed) : Prop
  | again (entry : Entry) (found : base.lookup identity = some entry)
      (observation : result.observation = some (if entry.payloadFingerprint ≠ payloadFingerprint then .conflict
        else if entry.state.isTerminal then .replayTerminal else .replayActive))
      (status : result.status = if entry.payloadFingerprint ≠ payloadFingerprint then .validationFailed else .ok)
      (map : result.ledger.lookup = update base.lookup identity
        (some { entry with lastObservedEpoch := base.epoch }))
      (epoch : result.ledger.epoch = base.epoch)
  | full (middle : Identity → Option Entry) (missing : base.lookup identity = none)
      (vacates : Vacates base identity middle) (status : result.status = .capacityExceeded)
      (observation : result.observation = none) (map : result.ledger.lookup = middle)
      (epoch : result.ledger.epoch = base.epoch)
  | new (middle : Identity → Option Entry) (missing : base.lookup identity = none)
      (vacates : Vacates base identity middle) (status : result.status = .ok)
      (observation : result.observation = some .new)
      (map : result.ledger.lookup = update middle identity
        (some (base.newEntry identity payloadFingerprint)))
      (epoch : result.ledger.epoch = base.epoch)

/-- The entry that an observation finds. -/
theorem observeAgain_ends (sound : ledger.Sound) (found : ledger.findInternal identity = some index) :
    (ledger.observeAgain payloadFingerprint index).ledger.Sound ∧
      Ends ledger identity payloadFingerprint (ledger.observeAgain payloadFingerprint index) := by
  obtain ⟨stored, rfl⟩ := sound.findInternal_iff.mp found
  have touched : (ledger.setEntry index
      { ledger.entries index with lastObservedEpoch := ledger.epoch }).Sound :=
    sound.touch rfl rfl rfl rfl stored stored rfl rfl rfl rfl rfl
  have map := sound.lookup_fill touched rfl stored fun _ => rfl
  have isFound := sound.lookup_entries stored
  unfold observeAgain
  dsimp only
  split
  · rename_i differs
    refine ⟨touched, .again (ledger.entries index) isFound ?_ ?_ map rfl⟩
    · rw [if_pos differs]
    · rw [if_pos differs]
  · rename_i same
    refine ⟨touched, .again (ledger.entries index) isFound ?_ ?_ map rfl⟩
    · rw [if_neg same]
    · rw [if_neg same]

/-- A selected place stores nothing and is in reach, and a reused tombstone is no longer counted. -/
theorem Sound.selected (sound : ledger.Sound) {room : Nat × Ledger}
    (found : ledger.selectInsertionEntry identity = some room) :
    room.1 < ledger.entryCapacity ∧ Probing.Reaches ledger.cells (ledger.probes identity) room.1 ∧
      (ledger.entries room.1).state.isStored = false ∧ room.2.entries = ledger.entries ∧
      room.2.entryCapacity = ledger.entryCapacity ∧ room.2.epoch = ledger.epoch ∧
      room.2.activeControlGeneration = ledger.activeControlGeneration ∧
      room.2.entryCount = ledger.entryCount ∧ room.2.activeEntryCount = ledger.activeEntryCount ∧
      room.2.terminalEntryCount = ledger.terminalEntryCount ∧
      room.2.tombstoneEntryCount + (decide ((ledger.entries room.1).state = .tombstone)).toNat =
        ledger.tombstoneEntryCount := by
  unfold selectInsertionEntry at found
  rw [selectAlong_eq, Option.map_map, Option.map_eq_some_iff] at found
  obtain ⟨index, isRoom, rfl⟩ := found
  obtain ⟨reaches, free⟩ := Probing.room_some isRoom
  have inRange : index < ledger.entryCapacity := by
    obtain ⟨distance, -, rfl⟩ := List.mem_map.mp reaches.mem
    exact Nat.mod_lt _ sound.capacity
  have vacant : (ledger.entries index).state.isStored = false := by
    rw [Bool.eq_false_iff]
    intro stored
    exact free _ (Entry.cell_of_stored stored)
  dsimp only [Function.comp_apply]
  by_cases deleted : (ledger.entries index).state = .tombstone
  · have positive : 0 < ledger.tombstoneEntryCount := by
      rw [sound.tombstoneCount]
      exact tally_pos inRange (decide_eq_true deleted)
    rw [decide_eq_true deleted, if_pos rfl]
    refine ⟨inRange, reaches, vacant, rfl, rfl, rfl, rfl, rfl, rfl, rfl, ?_⟩
    change ledger.tombstoneEntryCount - 1 + 1 = ledger.tombstoneEntryCount
    omega
  · rw [decide_eq_false deleted, if_neg Bool.false_ne_true]
    exact ⟨inRange, reaches, vacant, rfl, rfl, rfl, rfl, rfl, rfl, rfl, rfl⟩

/-- Without a place, every entry on the way is stored. -/
theorem selectInsertionEntry_none (nowhere : ledger.selectInsertionEntry identity = none) :
    ∀ index ∈ ledger.probes identity, (ledger.entries index).state.isStored = true := by
  unfold selectInsertionEntry at nowhere
  rw [selectAlong_eq, Option.map_map, Option.map_eq_none_iff] at nowhere
  intro index member
  obtain ⟨key, stored⟩ := Probing.room_none nowhere index member
  exact (Entry.cell_stored_iff.mp stored).1

/-- The new entry in a selected place. -/
theorem Sound.insertEntry_sound (sound : ledger.Sound) (valid : identity.isValid = true)
    (current : ledger.activeControlGeneration = identity.controlGeneration)
    (absent : ledger.findInternal identity = none) {room : Nat × Ledger}
    (found : ledger.selectInsertionEntry identity = some room) (payloadFingerprint : UInt64) :
    (room.2.insertEntry identity payloadFingerprint room.1).Sound ∧
      (room.2.insertEntry identity payloadFingerprint room.1).lookup =
        update ledger.lookup identity (some (ledger.newEntry identity payloadFingerprint)) ∧
      (room.2.insertEntry identity payloadFingerprint room.1).epoch = ledger.epoch := by
  obtain ⟨inRange, reaches, vacant, entries, capacity, epoch, generation, entryCount, activeCount,
    terminalCount, tombstoneCount⟩ := sound.selected found
  have written : (room.2.insertEntry identity payloadFingerprint room.1).entries =
      update ledger.entries room.1 (ledger.newEntry identity payloadFingerprint) := by
    unfold insertEntry setEntry newEntry
    rw [entries, epoch]
  have filled : (room.2.insertEntry identity payloadFingerprint room.1).Sound :=
    sound.fill written capacity generation inRange reaches vacant (sound.findInternal_none absent) rfl valid
      current.symm (congrArg (· + 1) entryCount) (congrArg (· + 1) activeCount) terminalCount
      tombstoneCount
  refine ⟨filled, sound.lookup_fill filled written rfl ?_, epoch⟩
  intro stored
  rw [vacant] at stored
  cases stored

/-- The entry that is given up is terminal, and no terminal entry was observed before it. -/
theorem Sound.recycled (sound : ledger.Sound) {recycled : Ledger}
    (found : ledger.recycleOldestTerminalEntry = some recycled) :
    recycled.Sound ∧ recycled.epoch = ledger.epoch ∧
      recycled.activeControlGeneration = ledger.activeControlGeneration ∧
      ∃ old, (ledger.oldestTerminalEntry.map fun index => (ledger.entries index).identity) = some old.identity ∧
        ledger.lookup old.identity = some old ∧ old.state.isTerminal = true ∧
        recycled.lookup = update ledger.lookup old.identity none ∧
        ∀ other entry, ledger.lookup other = some entry → entry.state.isTerminal = true →
          old.lastObservedEpoch ≤ entry.lastObservedEpoch := by
  unfold recycleOldestTerminalEntry at found
  obtain ⟨index, isOldest, rfl⟩ := Option.map_eq_some_iff.mp found
  obtain ⟨-, terminal, oldest⟩ := leastRanked_some isOldest
  have stored := State.terminal_stored terminal
  have cleared : ({ ledger.setEntry index { state := .tombstone } with
      entryCount := ledger.entryCount - 1
      terminalEntryCount := ledger.terminalEntryCount - 1
      tombstoneEntryCount := ledger.tombstoneEntryCount + 1 } : Ledger).Sound :=
    sound.clear rfl rfl rfl terminal rfl rfl rfl rfl rfl
  refine ⟨cleared, rfl, rfl, ledger.entries index, by rw [isOldest]; rfl, sound.lookup_entries stored, terminal,
    sound.lookup_clear cleared rfl stored rfl, ?_⟩
  intro other entry isFound isTerminal
  obtain ⟨place, rfl, isStored, -⟩ := sound.lookup_iff.mp isFound
  exact oldest place (List.mem_range.mpr (sound.stored_inRange isStored)) isTerminal

theorem observeNew_ends (sound : ledger.Sound) (valid : identity.isValid = true)
    (current : ledger.activeControlGeneration = identity.controlGeneration)
    (absent : ledger.findInternal identity = none) :
    (ledger.observeNew identity payloadFingerprint).ledger.Sound ∧
      Ends ledger identity payloadFingerprint (ledger.observeNew identity payloadFingerprint) := by
  have missing : ledger.lookup identity = none := by
    unfold lookup
    rw [absent]
    rfl
  unfold observeNew
  cases selected : ledger.selectInsertionEntry identity with
  | some room =>
    obtain ⟨inserted, map, epoch⟩ := sound.insertEntry_sound valid current absent selected payloadFingerprint
    exact ⟨inserted, .new ledger.lookup missing .already rfl rfl map epoch⟩
  | none =>
    dsimp only
    cases oldest : ledger.recycleOldestTerminalEntry with
    | none => exact ⟨sound, .full ledger.lookup missing .already rfl rfl rfl rfl⟩
    | some recycled =>
      dsimp only
      obtain ⟨cleared, epoch, generation, old, oldestIs, found, terminal, map, least⟩ := sound.recycled oldest
      have chosen : ledger.recycles identity = some old.identity := by
        unfold recycles
        rw [absent, selected, if_neg (by decide)]
        exact oldestIs
      have vacates : Vacates ledger identity recycled.lookup := by
        rw [map]
        exact .recycled old found terminal (selectInsertionEntry_none selected) least chosen
      have stillAbsent : recycled.findInternal identity = none := by
        have nothing : recycled.lookup identity = none := by
          rw [map]
          by_cases same : identity = old.identity
          · rw [same, update_self]
          · rwa [update_of_ne same]
        unfold lookup at nothing
        exact Option.map_eq_none_iff.mp nothing
      cases again : recycled.selectInsertionEntry identity with
      | none => exact ⟨cleared, .full recycled.lookup missing vacates rfl rfl rfl epoch⟩
      | some room =>
        obtain ⟨inserted, after, laterEpoch⟩ := cleared.insertEntry_sound valid
          (generation.trans current) stillAbsent again payloadFingerprint
        refine ⟨inserted, .new recycled.lookup missing vacates rfl rfl ?_ (laterEpoch.trans epoch)⟩
        rw [after]
        unfold newEntry
        rw [epoch]

theorem Sound.observe (sound : ledger.Sound) (identity : Identity)
    (payloadFingerprint : UInt64) : (ledger.observe identity payloadFingerprint).ledger.Sound ∧
      ((ledger.observe identity payloadFingerprint).status ≠ .ok ∧
          (ledger.observe identity payloadFingerprint).observation = none ∧
          (ledger.observe identity payloadFingerprint).ledger = ledger ∨
        ∃ base, Opened ledger identity base ∧
          Ends base identity payloadFingerprint (ledger.observe identity payloadFingerprint)) := by
  unfold Ledger.observe
  split
  · exact ⟨sound, .inl ⟨nofun, rfl, rfl⟩⟩
  · rename_i good
    simp only [not_or, Bool.not_eq_false] at good
    obtain ⟨-, -, valid⟩ := good
    dsimp only
    rcases sound.opened valid with ⟨refused, same⟩ | ⟨prepared, opened⟩
    · rw [if_pos refused, same]
      exact ⟨sound, .inl ⟨refused, rfl, rfl⟩⟩
    · rw [if_neg (not_not.mpr prepared)]
      generalize (ledger.prepareControlGeneration identity.controlGeneration).2.advanceEpoch = base at opened ⊢
      cases found : base.findInternal identity with
      | some index =>
        obtain ⟨observed, ends⟩ := observeAgain_ends opened.sound found
        exact ⟨observed, .inr ⟨base, opened, ends⟩⟩
      | none =>
        obtain ⟨observed, ends⟩ := observeNew_ends opened.sound valid opened.generation found
        exact ⟨observed, .inr ⟨base, opened, ends⟩⟩

end Observing

section Moving

variable {target : State} {terminalStatus : SparkStatus}

/-- The entry after a transition. -/
def movedEntry (ledger : Ledger) (entry : Entry) (target : State) (terminalStatus : SparkStatus) : Entry :=
  { entry with
    lastObservedEpoch := ledger.advanceEpoch.epoch
    state := target
    terminalStatus := if target.isTerminal then terminalStatus else .pending }

theorem State.legal_stored {current : State} (active : current.isActive = true)
    (legal : current.transitionIsLegal target = true) : target.isStored = true := by
  revert active legal
  cases current <;> cases target <;> decide

theorem Sound.moveEntry (sound : ledger.Sound)
    (active : (ledger.entries index).state.isActive = true) (stored : target.isStored = true)
    (terminalStatus : SparkStatus) : (ledger.moveEntry index target terminalStatus).Sound ∧
      (ledger.moveEntry index target terminalStatus).lookup =
        update ledger.lookup (ledger.entries index).identity
          (some (ledger.movedEntry (ledger.entries index) target terminalStatus)) ∧
      (ledger.moveEntry index target terminalStatus).epoch = ledger.advanceEpoch.epoch := by
  have advanced := sound.advance
  obtain ⟨isStored, running⟩ : (ledger.entries index).state.isStored = true ∧
      (ledger.entries index).state.isTerminal = false := by
    revert active
    cases (ledger.entries index).state <;> decide
  have positive : 0 < ledger.activeEntryCount := by
    rw [sound.activeCount]
    exact tally_pos (sound.stored_inRange isStored) active
  have written : (ledger.moveEntry index target terminalStatus).entries = update ledger.advanceEpoch.entries
      index (ledger.movedEntry (ledger.entries index) target terminalStatus) := by
    unfold Ledger.moveEntry movedEntry
    dsimp only
    split <;> rfl
  have moved : (ledger.moveEntry index target terminalStatus).Sound := by
    refine advanced.touch written ?_ ?_ rfl isStored stored rfl ?_ ?_ ?_ ?_
    all_goals unfold Ledger.moveEntry
    all_goals dsimp only
    · split <;> rfl
    · split <;> rfl
    · split <;> rfl
    · split <;> rfl
    · split
      · rename_i terminal
        change ledger.activeEntryCount - 1 + (ledger.entries index).state.isActive.toNat =
          ledger.activeEntryCount + target.isActive.toNat
        rw [active, State.isActive, terminal]
        simp only [Bool.toNat_true, Bool.not_true, Bool.and_false, Bool.toNat_false]
        omega
      · rename_i goesOn
        change ledger.activeEntryCount + (ledger.entries index).state.isActive.toNat =
          ledger.activeEntryCount + target.isActive.toNat
        rw [active, State.isActive, Bool.eq_false_iff.mpr goesOn, stored]
        rfl
    · split
      · rename_i terminal
        change ledger.terminalEntryCount + 1 + (ledger.entries index).state.isTerminal.toNat =
          ledger.terminalEntryCount + target.isTerminal.toNat
        rw [running, terminal]
        rfl
      · rename_i goesOn
        change ledger.terminalEntryCount + (ledger.entries index).state.isTerminal.toNat =
          ledger.terminalEntryCount + target.isTerminal.toNat
        rw [running, Bool.eq_false_iff.mpr goesOn]
  refine ⟨moved, ?_, ?_⟩
  · have map := advanced.lookup_fill moved written stored fun _ => rfl
    have same : ledger.advanceEpoch.lookup = ledger.lookup := lookup_congr rfl rfl
    rw [same] at map
    exact map
  · unfold Ledger.moveEntry
    dsimp only
    split <;> rfl

/-- A transition changes nothing, or it moves an active entry legally. -/
theorem Sound.transition (sound : ledger.Sound) (identity : Identity)
    (target : State) (terminalStatus : SparkStatus) :
    (ledger.transition identity target terminalStatus).2.Sound ∧
      ((ledger.transition identity target terminalStatus).1 ≠ .ok ∧
          (ledger.transition identity target terminalStatus).2 = ledger ∨
        (ledger.transition identity target terminalStatus).1 = .ok ∧
          ∃ entry, ledger.lookup identity = some entry ∧ entry.state.isActive = true ∧
            entry.state.transitionIsLegal target = true ∧
            (ledger.transition identity target terminalStatus).2.lookup =
              update ledger.lookup identity (some (ledger.movedEntry entry target terminalStatus)) ∧
            (ledger.transition identity target terminalStatus).2.epoch = ledger.advanceEpoch.epoch) := by
  unfold Ledger.transition
  split
  · exact ⟨sound, .inl ⟨nofun, rfl⟩⟩
  · rename_i good
    simp only [not_or, Bool.not_eq_false] at good
    cases found : ledger.findInternal identity with
    | none => exact ⟨sound, .inl ⟨nofun, rfl⟩⟩
    | some index =>
      dsimp only
      split
      · refine ⟨sound, .inl ⟨?_, rfl⟩⟩
        dsimp only
        split <;> exact nofun
      · rename_i running
        split
        · exact ⟨sound, .inl ⟨nofun, rfl⟩⟩
        · rename_i notIllegal
          have legal : (ledger.entries index).state.transitionIsLegal target = true := by
            simpa using notIllegal
          obtain ⟨stored, rfl⟩ := sound.findInternal_iff.mp found
          have active : (ledger.entries index).state.isActive = true := by
            rw [State.isActive, stored, Bool.eq_false_iff.mpr running]
            rfl
          obtain ⟨moved, map, epoch⟩ := sound.moveEntry active good.2.2 terminalStatus
          exact ⟨moved, .inr ⟨rfl, ledger.entries index, sound.lookup_entries stored, active, legal, map,
            epoch⟩⟩

/-- A legal transition of an active entry succeeds. -/
theorem Sound.transition_ok (sound : ledger.Sound) (found : ledger.lookup identity = some entry)
    (active : entry.state.isActive = true) (legal : entry.state.transitionIsLegal target = true)
    (terminalStatus : SparkStatus) : (ledger.transition identity target terminalStatus).1 = .ok := by
  obtain ⟨index, rfl, stored, rfl⟩ := sound.lookup_iff.mp found
  have isFound := sound.findInternal_iff.mpr ⟨stored, rfl⟩
  have running : (ledger.entries index).state.isTerminal = false := by
    revert active
    cases (ledger.entries index).state <;> decide
  unfold Ledger.transition
  rw [if_neg, isFound]
  · dsimp only
    rw [running, if_neg Bool.false_ne_true, legal, if_neg Bool.true_eq_false.mp]
  · simp only [sound.valid, (sound.known index stored).1, State.legal_stored active legal, Bool.true_eq_false,
      or_self, not_false_eq_true]

theorem transition_generation (ledger : Ledger) (identity : Identity) (target : State) (terminalStatus : SparkStatus) :
    (ledger.transition identity target terminalStatus).2.activeControlGeneration =
      ledger.activeControlGeneration := by
  unfold Ledger.transition
  split
  · rfl
  · cases ledger.findInternal identity with
    | none => rfl
    | some index =>
      dsimp only
      split
      · rfl
      · split
        · rfl
        · unfold Ledger.moveEntry
          dsimp only
          split <;> rfl

end Moving

end Ledger

end Sparkpipe.WorkTransaction
