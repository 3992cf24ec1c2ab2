import Sparkpipe.Transaction.Ledger
import Sparkpipe.Lib.Probing
import Sparkpipe.Lib.Tally

/-!
# The invariant of the transaction ledger

The ledger is an open-addressed table, so a sound one is a partial map from identities to
entries: `lookup`. The counters count the entries by their state.
-/

namespace Sparkpipe.WorkTransaction

open Function
open Probing (Cell)

/-- The cell of the table that an entry is. -/
def Entry.cell (entry : Entry) : Cell Identity :=
  match entry.state with
  | .empty => .empty
  | .tombstone => .deleted
  | _ => .stored entry.identity

theorem Entry.cell_stored_iff {entry : Entry} {identity : Identity} :
    entry.cell = .stored identity ↔ entry.state.isStored = true ∧ entry.identity = identity := by
  unfold Entry.cell
  cases entry.state <;> simp [State.isStored]

theorem Entry.cell_of_stored {entry : Entry} (stored : entry.state.isStored = true) :
    entry.cell = .stored entry.identity := Entry.cell_stored_iff.mpr ⟨stored, rfl⟩

theorem Entry.cell_tombstone {entry : Entry} (deleted : entry.state = .tombstone) : entry.cell = .deleted := by
  unfold Entry.cell
  rw [deleted]

theorem State.stored_not_empty {state : State} (stored : state.isStored = true) : state ≠ .empty := by
  rintro rfl
  cases stored

/-- A stored state is active or terminal, and no other is either. -/
theorem State.parts (state : State) :
    state.isActive.toNat + state.isTerminal.toNat = state.isStored.toNat := by
  cases state <;> rfl

theorem State.terminal_stored {state : State} (terminal : state.isTerminal = true) : state.isStored = true := by
  cases state <;> first | rfl | cases terminal

namespace Ledger

variable {ledger after : Ledger} {identity : Identity} {index : Nat} {entry : Entry}

/-- The table behind a ledger. -/
def cells (ledger : Ledger) (index : Nat) : Cell Identity := (ledger.entries index).cell

/-- How many entries have a state that passes the test. -/
def count (ledger : Ledger) (test : State → Bool) : Nat :=
  tally ledger.entryCapacity fun index => test (ledger.entries index).state

/-- The entry of an identity. -/
def lookup (ledger : Ledger) (identity : Identity) : Option Entry :=
  (ledger.findInternal identity).map ledger.entries

/-- The invariant. -/
structure Sound (ledger : Ledger) : Prop where
  capacity : 0 < ledger.entryCapacity
  table : Probing.Sound ledger.probes ledger.cells
  inRange : ∀ index, (ledger.entries index).state ≠ .empty → index < ledger.entryCapacity
  entryCount : ledger.entryCount = ledger.count State.isStored
  activeCount : ledger.activeEntryCount = ledger.count State.isActive
  terminalCount : ledger.terminalEntryCount = ledger.count State.isTerminal
  tombstoneCount : ledger.tombstoneEntryCount = ledger.count fun state => state = .tombstone
  parts : ledger.activeEntryCount + ledger.terminalEntryCount = ledger.entryCount
  known : ∀ index, (ledger.entries index).state.isStored = true →
    (ledger.entries index).identity.isValid = true ∧
      (ledger.entries index).identity.controlGeneration = ledger.activeControlGeneration

section Table

/-- The loop that finds an identity is the search of the table. -/
theorem findAlong_eq (ledger : Ledger) (identity : Identity) (path : List Nat) :
    ledger.findAlong identity path = Probing.seek ledger.cells identity path := by
  induction path with
  | nil => rfl
  | cons first rest ih =>
    unfold findAlong Probing.seek
    rw [ih]
    unfold cells Entry.cell
    cases (ledger.entries first).state <;>
      simp only [reduceCtorEq, ↓reduceIte, ne_eq, not_true_eq_false, not_false_eq_true, false_and, true_and]

theorem selectAlong_first (ledger : Ledger) (path : List Nat) (tombstone : Nat) :
    ledger.selectAlong path (some tombstone) = some (tombstone, true) := by
  induction path with
  | nil => rfl
  | cons first rest ih =>
    unfold selectAlong
    rw [ih]
    simp only [reduceCtorEq, and_false, ↓reduceIte, ite_self]

/-- The loop that chooses an entry to fill is the choice of a cell of the table. -/
theorem selectAlong_eq (ledger : Ledger) (path : List Nat) :
    ledger.selectAlong path none = (Probing.room ledger.cells path none).map fun index =>
      (index, decide ((ledger.entries index).state = .tombstone)) := by
  induction path with
  | nil => rfl
  | cons first rest ih =>
    have head : ledger.cells first = (ledger.entries first).cell := rfl
    unfold selectAlong Probing.room
    rw [ih, selectAlong_first, head]
    unfold Entry.cell
    cases state : (ledger.entries first).state <;>
      simp [Probing.room_first, state]

section

variable (sound : ledger.Sound)
include sound

theorem Sound.findInternal_iff :
    ledger.findInternal identity = some index ↔ (ledger.entries index).state.isStored = true ∧
      (ledger.entries index).identity = identity := by
  unfold findInternal
  rw [findAlong_eq, sound.table.seek_iff]
  exact Entry.cell_stored_iff

theorem Sound.findInternal_none (missing : ledger.findInternal identity = none)
    (index : Nat) : ledger.cells index ≠ .stored identity := by
  unfold findInternal at missing
  rw [findAlong_eq, sound.table.seek_none_iff] at missing
  exact missing index

/-- The map that a sound ledger is. -/
theorem Sound.lookup_iff :
    ledger.lookup identity = some entry ↔ ∃ index, ledger.entries index = entry ∧
      entry.state.isStored = true ∧ entry.identity = identity := by
  unfold lookup
  rw [Option.map_eq_some_iff]
  constructor
  · rintro ⟨index, found, rfl⟩
    exact ⟨index, rfl, sound.findInternal_iff.mp found⟩
  · rintro ⟨index, rfl, stored⟩
    exact ⟨index, sound.findInternal_iff.mpr stored, rfl⟩

theorem Sound.lookup_entries (stored : (ledger.entries index).state.isStored = true) :
    ledger.lookup (ledger.entries index).identity = some (ledger.entries index) :=
  sound.lookup_iff.mpr ⟨index, rfl, stored, rfl⟩

theorem Sound.stored_inRange (stored : (ledger.entries index).state.isStored = true) :
    index < ledger.entryCapacity := sound.inRange index (State.stored_not_empty stored)

end

theorem count_setEntry (ledger : Ledger) (entry : Entry) (test : State → Bool)
    (inRange : index < ledger.entryCapacity) :
    (ledger.setEntry index entry).count test + (test (ledger.entries index).state).toNat =
      ledger.count test + (test entry.state).toNat :=
  tally_update ledger.entries entry (fun entry => test entry.state) inRange

/-- What the validation of the ledger checks holds of a sound one. -/
theorem Sound.valid (sound : ledger.Sound) : ledger.isValid = true := by
  have most : ledger.entryCount ≤ ledger.entryCapacity := by
    rw [sound.entryCount]
    exact tally_le _ _
  have few : ledger.tombstoneEntryCount ≤ ledger.entryCapacity := by
    rw [sound.tombstoneCount]
    exact tally_le _ _
  have positive := sound.capacity
  have parts := sound.parts
  simp only [isValid, ne_eq, decide_not, Bool.and_eq_true, Bool.not_eq_eq_eq_not, Bool.not_true,
    decide_eq_false_iff_not, decide_eq_true_eq]
  omega

end Table

section Edits

/-- An empty table. -/
theorem resetLedger_sound (capacity : 0 < ledger.entryCapacity) (generation : UInt64) :
    (ledger.resetLedger generation).Sound := by
  have nothing : ∀ test : State → Bool, test .empty = false → (ledger.resetLedger generation).count test = 0 :=
    fun test failed => tally_eq_zero fun _ _ => failed
  constructor
  · exact capacity
  · exact Probing.Sound.empty
  · intro index full
    exact absurd rfl full
  · exact (nothing State.isStored rfl).symm
  · exact (nothing State.isActive rfl).symm
  · exact (nothing State.isTerminal rfl).symm
  · exact (nothing (fun state => state = .tombstone) rfl).symm
  · rfl
  · intro index stored
    cases stored

variable (sound : ledger.Sound)
include sound

theorem Sound.advance : ledger.advanceEpoch.Sound := { sound with }

variable (entries : after.entries = update ledger.entries index entry)
  (capacity : after.entryCapacity = ledger.entryCapacity)
  (generation : after.activeControlGeneration = ledger.activeControlGeneration)
include entries capacity generation

/-- One entry changes, and with it the counters. -/
theorem Sound.edit (inRange : index < ledger.entryCapacity)
    (table : Probing.Sound ledger.probes (update ledger.cells index entry.cell))
    (entryCount : after.entryCount + (ledger.entries index).state.isStored.toNat =
      ledger.entryCount + entry.state.isStored.toNat)
    (activeCount : after.activeEntryCount + (ledger.entries index).state.isActive.toNat =
      ledger.activeEntryCount + entry.state.isActive.toNat)
    (terminalCount : after.terminalEntryCount + (ledger.entries index).state.isTerminal.toNat =
      ledger.terminalEntryCount + entry.state.isTerminal.toNat)
    (tombstoneCount : after.tombstoneEntryCount + (decide ((ledger.entries index).state = .tombstone)).toNat =
      ledger.tombstoneEntryCount + (decide (entry.state = .tombstone)).toNat)
    (known : entry.state.isStored = true → entry.identity.isValid = true ∧
      entry.identity.controlGeneration = ledger.activeControlGeneration) : after.Sound := by
  have others : ∀ other, other ≠ index → after.entries other = ledger.entries other := by
    intro other different
    rw [entries, update_of_ne different]
  have here : after.entries index = entry := by rw [entries, update_self]
  have paths : after.probes = ledger.probes := by
    funext identity
    unfold probes probe identityStartIndex
    rw [capacity]
  have cells : after.cells = update ledger.cells index entry.cell := by
    funext other
    by_cases same : other = index
    · rw [same, update_self, Ledger.cells, here]
    · rw [update_of_ne same, Ledger.cells, others other same, Ledger.cells]
  have counts : ∀ test : State → Bool, after.count test + (test (ledger.entries index).state).toNat =
      ledger.count test + (test entry.state).toNat := by
    intro test
    rw [← count_setEntry ledger entry test inRange]
    unfold count setEntry
    rw [entries, capacity]
  have partsBefore := State.parts (ledger.entries index).state
  have partsAfter := State.parts entry.state
  have partsCounted := sound.parts
  constructor
  · rw [capacity]
    exact sound.capacity
  · rw [paths, cells]
    exact table
  · intro other full
    rw [capacity]
    by_cases same : other = index
    · exact same ▸ inRange
    · rw [others other same] at full
      exact sound.inRange other full
  · have := counts State.isStored
    have := sound.entryCount
    omega
  · have := counts State.isActive
    have := sound.activeCount
    omega
  · have := counts State.isTerminal
    have := sound.terminalCount
    omega
  · have := counts fun state => state = .tombstone
    have := sound.tombstoneCount
    omega
  · omega
  · intro other stored
    rw [generation]
    by_cases same : other = index
    · rw [same, here] at stored ⊢
      exact known stored
    · rw [others other same] at stored ⊢
      exact sound.known other stored

/-- A stored entry is observed, in its state or a later one. -/
theorem Sound.touch {before : Entry} (here : ledger.entries index = before) (stored : before.state.isStored = true)
    (entryStored : entry.state.isStored = true) (same : entry.identity = before.identity)
    (entryCount : after.entryCount = ledger.entryCount)
    (tombstoneCount : after.tombstoneEntryCount = ledger.tombstoneEntryCount)
    (activeCount : after.activeEntryCount + before.state.isActive.toNat =
      ledger.activeEntryCount + entry.state.isActive.toNat)
    (terminalCount : after.terminalEntryCount + before.state.isTerminal.toNat =
      ledger.terminalEntryCount + entry.state.isTerminal.toNat) : after.Sound := by
  subst here
  have notTombstone : ∀ state : State, state.isStored = true → decide (state = .tombstone) = false := by
    rintro state isStored
    rw [decide_eq_false_iff_not]
    rintro rfl
    cases isStored
  refine sound.edit entries capacity generation (sound.stored_inRange stored) ?_ ?_ activeCount terminalCount
    ?_ ?_
  · rw [Entry.cell_of_stored entryStored, same, ← Entry.cell_of_stored stored]
    change Probing.Sound _ (update ledger.cells index (ledger.cells index))
    rw [update_eq_self]
    exact sound.table
  · rw [entryCount, stored, entryStored]
  · rw [tombstoneCount, notTombstone _ stored, notTombstone _ entryStored]
  · intro _
    rw [same]
    exact sound.known index stored

/-- An entry takes a place that stores nothing. -/
theorem Sound.fill (inRange : index < ledger.entryCapacity)
    (reaches : Probing.Reaches ledger.cells (ledger.probes entry.identity) index)
    (vacant : (ledger.entries index).state.isStored = false)
    (absent : ∀ other, ledger.cells other ≠ .stored entry.identity) (active : entry.state.isActive = true)
    (valid : entry.identity.isValid = true)
    (current : entry.identity.controlGeneration = ledger.activeControlGeneration)
    (entryCount : after.entryCount = ledger.entryCount + 1)
    (activeCount : after.activeEntryCount = ledger.activeEntryCount + 1)
    (terminalCount : after.terminalEntryCount = ledger.terminalEntryCount)
    (tombstoneCount : after.tombstoneEntryCount + (decide ((ledger.entries index).state = .tombstone)).toNat =
      ledger.tombstoneEntryCount) : after.Sound := by
  obtain ⟨stored, running⟩ : entry.state.isStored = true ∧ entry.state.isTerminal = false := by
    revert active
    cases entry.state <;> decide
  have partsBefore := State.parts (ledger.entries index).state
  rw [vacant] at partsBefore
  simp only [Bool.toNat_false, Nat.add_eq_zero_iff] at partsBefore
  refine sound.edit entries capacity generation inRange ?_ ?_ ?_ ?_ ?_ ?_
  · rw [Entry.cell_of_stored stored]
    exact sound.table.insert absent reaches
  · rw [entryCount, vacant, stored]
    rfl
  · rw [activeCount, partsBefore.1, active]
    rfl
  · rw [terminalCount, partsBefore.2, running]
    rfl
  · have notTombstone : decide (entry.state = .tombstone) = false := by
      rw [decide_eq_false_iff_not]
      intro deleted
      rw [deleted] at stored
      cases stored
    rw [notTombstone, tombstoneCount]
    rfl
  · exact fun _ => ⟨valid, current⟩

/-- A terminal entry is given up. -/
theorem Sound.clear (terminal : (ledger.entries index).state.isTerminal = true) (deleted : entry.state = .tombstone)
    (entryCount : after.entryCount = ledger.entryCount - 1)
    (activeCount : after.activeEntryCount = ledger.activeEntryCount)
    (terminalCount : after.terminalEntryCount = ledger.terminalEntryCount - 1)
    (tombstoneCount : after.tombstoneEntryCount = ledger.tombstoneEntryCount + 1) : after.Sound := by
  have stored := State.terminal_stored terminal
  have inRange := sound.stored_inRange stored
  have running : (ledger.entries index).state.isActive = false := by
    rw [State.isActive, terminal]
    exact Bool.and_false _
  -- the entry itself is counted, so the counters can go down
  have someTerminal : 0 < ledger.terminalEntryCount := by
    rw [sound.terminalCount]
    exact tally_pos inRange terminal
  have parts := sound.parts
  refine sound.edit entries capacity generation inRange ?_ ?_ ?_ ?_ ?_ ?_
  · rw [Entry.cell_tombstone deleted]
    exact sound.table.delete index
  · rw [entryCount, stored, deleted]
    simp only [Bool.toNat_true, State.isStored, Bool.toNat_false]
    omega
  · rw [activeCount, running, deleted]
    rfl
  · rw [terminalCount, terminal, deleted]
    simp only [Bool.toNat_true, State.isTerminal, Bool.toNat_false]
    omega
  · have notTombstone : decide ((ledger.entries index).state = .tombstone) = false := by
      rw [decide_eq_false_iff_not]
      intro before
      rw [before] at terminal
      cases terminal
    rw [tombstoneCount, notTombstone, decide_eq_true deleted]
    rfl
  · rw [deleted]
    exact fun impossible => absurd impossible Bool.false_ne_true

end Edits

section Map

/-- An entry that is stored anew is what its identity now maps to. -/
theorem Sound.lookup_fill (sound : ledger.Sound) (afterSound : after.Sound)
    (entries : after.entries = update ledger.entries index entry) (stored : entry.state.isStored = true)
    (vacant : (ledger.entries index).state.isStored = true → (ledger.entries index).identity = entry.identity) :
    after.lookup = update ledger.lookup entry.identity (some entry) := by
  have here : after.entries index = entry := by rw [entries, update_self]
  funext identity
  by_cases same : identity = entry.identity
  · subst same
    rw [update_self]
    exact afterSound.lookup_iff.mpr ⟨index, here, stored, rfl⟩
  · rw [update_of_ne same]
    refine Option.ext fun found => ?_
    rw [afterSound.lookup_iff, sound.lookup_iff, entries]
    constructor
    · rintro ⟨other, isFound, isStored, isIdentity⟩
      by_cases changed : other = index
      · rw [changed, update_self] at isFound
        rw [← isFound] at isIdentity
        exact absurd isIdentity.symm same
      · rw [update_of_ne changed] at isFound
        exact ⟨other, isFound, isStored, isIdentity⟩
    · rintro ⟨other, isFound, isStored, isIdentity⟩
      refine ⟨other, ?_, isStored, isIdentity⟩
      rw [update_of_ne]
      · exact isFound
      · rintro rfl
        rw [isFound] at vacant
        exact same (isIdentity.symm.trans (vacant isStored))

/-- The identity of an entry that is given up maps to nothing. -/
theorem Sound.lookup_clear (sound : ledger.Sound) (afterSound : after.Sound)
    (entries : after.entries = update ledger.entries index entry)
    (before : (ledger.entries index).state.isStored = true) (deleted : entry.state.isStored = false) :
    after.lookup = update ledger.lookup (ledger.entries index).identity none := by
  funext identity
  refine Option.ext fun found => ?_
  by_cases same : identity = (ledger.entries index).identity
  · subst same
    rw [update_self, afterSound.lookup_iff, entries]
    constructor
    · rintro ⟨other, isFound, isStored, isIdentity⟩
      by_cases changed : other = index
      · rw [changed, update_self] at isFound
        rw [← isFound, deleted] at isStored
        cases isStored
      · rw [update_of_ne changed] at isFound
        have otherCell : ledger.cells other = .stored (ledger.entries index).identity :=
          Entry.cell_stored_iff.mpr ⟨isFound ▸ isStored, isFound ▸ isIdentity⟩
        exact absurd (sound.table.once other index _ otherCell (Entry.cell_of_stored before)) changed
    · intro impossible
      cases impossible
  · rw [update_of_ne same, afterSound.lookup_iff, sound.lookup_iff, entries]
    constructor
    · rintro ⟨other, isFound, isStored, isIdentity⟩
      by_cases changed : other = index
      · rw [changed, update_self] at isFound
        rw [← isFound, deleted] at isStored
        cases isStored
      · rw [update_of_ne changed] at isFound
        exact ⟨other, isFound, isStored, isIdentity⟩
    · rintro ⟨other, isFound, isStored, isIdentity⟩
      refine ⟨other, ?_, isStored, isIdentity⟩
      rw [update_of_ne]
      · exact isFound
      · rintro rfl
        exact same (isIdentity.symm.trans (congrArg Entry.identity isFound.symm))

end Map

end Ledger

end Sparkpipe.WorkTransaction
