import Sparkpipe.Transaction.Calls
import Sparkpipe.Lib.Along

/-!
# Runs of calls on a ledger

After any calls a ledger is consistent, and each call moves entries forward, keeps what is
active and gives up an old terminal entry only for want of room or at a new generation.
-/

namespace Sparkpipe.WorkTransaction

open Function

/-- A call on a ledger. -/
inductive Call where
  | observe (identity : Identity) (payloadFingerprint : UInt64)
  | transition (identity : Identity) (target : State) (terminalStatus : SparkStatus)

def Call.identity : Call → Identity
  | .observe identity _ => identity
  | .transition identity _ _ => identity

/-- The next states of an active entry. -/
inductive State.Next : State → State → Prop
  | accept : Next .prepared .accepted
  | execute : Next .accepted .executing
  | commit : Next .executing .committed
  | cancel {state : State} (active : state.isActive = true) : Next state .cancelled
  | fail {state : State} (active : state.isActive = true) : Next state .failed

theorem State.legal_next {current target : State} (active : current.isActive = true)
    (legal : current.transitionIsLegal target = true) : current = target ∨ Next current target := by
  cases current <;> cases target <;>
    first
    | exact .inl rfl
    | exact .inr .accept
    | exact .inr .execute
    | exact .inr .commit
    | exact .inr (.cancel rfl)
    | exact .inr (.fail rfl)
    | exact absurd active (by decide)
    | exact absurd legal (by decide)

namespace Ledger

variable {ledger before after : Ledger} {call : Call} {identity : Identity} {entry : Entry}

/-- The ledger after a call. -/
def perform (ledger : Ledger) : Call → Ledger
  | .observe identity payloadFingerprint => (ledger.observe identity payloadFingerprint).ledger
  | .transition identity target terminalStatus => (ledger.transition identity target terminalStatus).2

/-- The call finds, adds or moves the entry of its identity. -/
def reaches (ledger : Ledger) : Call → Bool
  | .observe identity payloadFingerprint => (ledger.observe identity payloadFingerprint).observation.isSome
  | .transition identity target terminalStatus => (ledger.transition identity target terminalStatus).1 = .ok

/-- The epoch counts up without wrapping. -/
def EpochFits (ledger : Ledger) (_ : Call) : Prop := ledger.epoch + 1 < 2 ^ 64

instance (ledger : Ledger) (call : Call) : Decidable (ledger.EpochFits call) :=
  inferInstanceAs (Decidable (ledger.epoch + 1 < 2 ^ 64))

/-- The entry at an index is stored for an identity. -/
def Holds (ledger : Ledger) (identity : Identity) (index : Nat) : Prop :=
  index < ledger.entryCapacity ∧ (ledger.entries index).state.isStored = true ∧
    (ledger.entries index).identity = identity

/-- What holds of a ledger between calls. -/
structure Consistent (ledger : Ledger) : Prop where
  once : ∀ identity one other, ledger.Holds identity one → ledger.Holds identity other → one = other
  found : ∀ identity, (ledger.find identity).1 = .ok ↔ ∃ index, ledger.Holds identity index
  returned : ∀ identity index, (ledger.find identity).2 = some index ↔ ledger.Holds identity index
  /-- No empty slot comes before the entry on its way from the start. -/
  reached : ∀ identity index, ledger.Holds identity index → ∃ distance < ledger.entryCapacity,
    ledger.probe identity distance = index ∧
      ∀ nearer < distance, (ledger.entries (ledger.probe identity nearer)).state ≠ .empty
  entryCount : ledger.entryCount = ledger.count State.isStored
  parts : ledger.activeEntryCount + ledger.terminalEntryCount = ledger.entryCount
  activeCount : ledger.activeEntryCount = ledger.count State.isActive
  terminalCount : ledger.terminalEntryCount = ledger.count State.isTerminal
  tombstoneCount : ledger.tombstoneEntryCount = ledger.count fun state => state = .tombstone

theorem Sound.consistent (sound : ledger.Sound) : ledger.Consistent := by
  have holds : ∀ identity index, ledger.Holds identity index ↔ ledger.findInternal identity = some index := by
    intro identity index
    rw [sound.findInternal_iff]
    exact ⟨fun here => here.2, fun here => ⟨sound.stored_inRange here.1, here⟩⟩
  have returns : ∀ identity index, (ledger.find identity).2 = some index ↔ ledger.Holds identity index := by
    intro identity index
    rw [holds]
    unfold find
    by_cases valid : identity.isValid = true
    · rw [if_neg (by simp [sound.valid, valid])]
      cases ledger.findInternal identity <;> rfl
    · rw [if_pos (Or.inr (Bool.eq_false_iff.mpr valid))]
      constructor
      · intro impossible
        cases impossible
      · intro found
        obtain ⟨stored, rfl⟩ := sound.findInternal_iff.mp found
        exact absurd (sound.known index stored).1 valid
  have succeeds : ∀ identity, (ledger.find identity).1 = .ok ↔ ∃ index, (ledger.find identity).2 = some index := by
    intro identity
    unfold find
    split
    · simp only [reduceCtorEq, exists_false]
    · cases ledger.findInternal identity with
      | none => simp only [reduceCtorEq, exists_false]
      | some index => simp only [Option.some.injEq, exists_eq']
  constructor
  · intro identity one other first second
    rw [holds] at first second
    exact Option.some.inj (first.symm.trans second)
  · intro identity
    rw [succeeds]
    simp only [returns]
  · exact returns
  · rintro identity index ⟨-, stored, rfl⟩
    obtain ⟨before, behind, split, full⟩ := sound.table.reached index _ (Entry.cell_of_stored stored)
    -- the place in the list of probes is the distance
    have length : before.length < ledger.entryCapacity := by
      have total := congrArg List.length split
      simp only [probes, List.length_map, List.length_range, List.length_append, List.length_cons] at total
      omega
    have probed : ∀ place < ledger.entryCapacity, (ledger.probes (ledger.entries index).identity)[place]? =
        some (ledger.probe (ledger.entries index).identity place) := by
      intro place inRange
      simp only [probes, List.getElem?_map, List.getElem?_range inRange, Option.map_some]
    refine ⟨before.length, length, ?_, fun nearer less empty => ?_⟩
    · have here := probed before.length length
      rw [split, List.getElem?_append_right (Nat.le_refl _), Nat.sub_self] at here
      exact (Option.some.inj here).symm
    · have there := probed nearer (by omega)
      rw [split, List.getElem?_append_left less] at there
      refine full _ (List.mem_of_getElem? there) ?_
      unfold cells Entry.cell
      rw [empty]
  · exact sound.entryCount
  · exact sound.parts
  · exact sound.activeCount
  · exact sound.terminalCount
  · exact sound.tombstoneCount

theorem advanceEpoch_epoch {call : Call} (fits : ledger.EpochFits call) :
    ledger.advanceEpoch.epoch = ledger.epoch + 1 := by
  unfold advanceEpoch
  dsimp only
  rw [Nat.mod_eq_of_lt fits, if_neg (Nat.succ_ne_zero _)]

/-- No entry was observed after the current epoch. -/
def Timely (ledger : Ledger) : Prop :=
  ∀ identity entry, ledger.lookup identity = some entry → entry.lastObservedEpoch ≤ ledger.epoch

/-- In the epoch that an observation opens, no entry has been observed yet. -/
theorem Opened.fresh {base : Ledger} (timely : before.Timely) (opened : Opened before identity base)
    {call : Call} (fits : before.EpochFits call) {other : Identity} (found : base.lookup other = some entry) :
    entry.lastObservedEpoch < base.epoch := by
  rcases opened.carried with ⟨-, same, epoch, -⟩ | ⟨emptied, -⟩
  · rw [same] at found
    have := timely other entry found
    rw [epoch, advanceEpoch_epoch fits]
    omega
  · rw [emptied] at found
    cases found

/-- The entry of an identity when it has just been observed: every other is of an earlier epoch. -/
def Newest (ledger : Ledger) (identity : Identity) : Prop :=
  ∃ entry, ledger.lookup identity = some entry ∧ ∀ other otherEntry, other ≠ identity →
    ledger.lookup other = some otherEntry → otherEntry.lastObservedEpoch < entry.lastObservedEpoch

/-- The call is the first of a higher control generation, and nothing is active. -/
def Resets (ledger : Ledger) (call : Call) : Prop :=
  ledger.activeControlGeneration < call.identity.controlGeneration ∧ ledger.activeEntryCount = 0

/-- No terminal entry was observed before this one. -/
def Oldest (ledger : Ledger) (entry : Entry) : Prop :=
  ∀ other otherEntry, ledger.lookup other = some otherEntry → otherEntry.state.isTerminal = true →
    entry.lastObservedEpoch ≤ otherEntry.lastObservedEpoch

/-- No slot is left for an identity: all those it probes are stored, and up to a capacity at which
the sum of the probe fits that is every slot. -/
structure Full (ledger : Ledger) (identity : Identity) : Prop where
  probed : ∀ distance < ledger.entryCapacity,
    (ledger.entries (ledger.probe identity distance)).state.isStored = true
  whole : ledger.entryCapacity ≤ 2 ^ 31 → ∀ index < ledger.entryCapacity,
    (ledger.entries index).state.isStored = true

/-- What one call does to the entries. -/
structure Orderly (before : Ledger) (call : Call) (after : Ledger) : Prop where
  /-- States move forward. -/
  forward : ∀ identity old new, before.lookup identity = some old → after.lookup identity = some new →
    old.state = new.state ∨ State.Next old.state new.state
  /-- Active entries stay. -/
  kept : ∀ identity old, before.lookup identity = some old → old.state.isActive = true →
    (after.lookup identity).isSome
  /-- A terminal entry goes with the whole table at a new generation, or it is the oldest and no
  slot is left for the new entry. -/
  removed : ∀ identity old, before.lookup identity = some old → after.lookup identity = none →
    old.state.isTerminal = true ∧ (before.Resets call ∨ before.Oldest old ∧ before.Full call.identity)
  /-- The call touches the entry of its own identity and no other. -/
  others : ∀ identity entry, identity ≠ call.identity → after.lookup identity = some entry →
    before.lookup identity = some entry
  newest : before.reaches call = true → after.Newest call.identity

/-- A transition has nothing to do with the other entries. -/
theorem transition_orderly (sound : before.Sound) (timely : before.Timely) (identity : Identity)
    (target : State) (terminalStatus : SparkStatus)
    (fits : before.EpochFits (.transition identity target terminalStatus)) :
    Orderly before (.transition identity target terminalStatus)
      (before.transition identity target terminalStatus).2 := by
  obtain ⟨-, ⟨refused, same⟩ | ⟨-, entry, found, active, legal, map, -⟩⟩ :=
    sound.transition identity target terminalStatus
  · rw [same]
    refine ⟨fun other old new first second => ?_, fun other old first _ => ?_, fun other old first second => ?_,
      fun _ _ _ first => first, fun succeeded => ?_⟩
    · exact .inl (congrArg Entry.state (Option.some.inj (first.symm.trans second)))
    · rw [first]
      rfl
    · rw [first] at second
      cases second
    · exact absurd (of_decide_eq_true succeeded) refused
  · have here : (before.transition identity target terminalStatus).2.lookup identity =
        some (before.movedEntry entry target terminalStatus) := by
      rw [map, update_self]
    have elsewhere : ∀ other, other ≠ identity →
        (before.transition identity target terminalStatus).2.lookup other = before.lookup other := by
      intro other different
      rw [map, update_of_ne different]
    refine ⟨fun other old new first second => ?_, fun other old first _ => ?_, fun other old first second => ?_,
      fun other there different => ?_, fun _ => ?_⟩
    · by_cases same : other = identity
      · subst same
        cases here.symm.trans second
        cases found.symm.trans first
        exact State.legal_next active legal
      · rw [elsewhere other same] at second
        exact .inl (congrArg Entry.state (Option.some.inj (first.symm.trans second)))
    · by_cases same : other = identity
      · rw [same, here]
        rfl
      · rw [elsewhere other same, first]
        rfl
    · by_cases same : other = identity
      · rw [same, here] at second
        cases second
      · rw [elsewhere other same, first] at second
        cases second
    · rw [elsewhere other different]
      exact id
    · refine ⟨_, here, fun other otherEntry different there => ?_⟩
      rw [elsewhere other different] at there
      have := timely other otherEntry there
      change _ < before.advanceEpoch.epoch
      rw [advanceEpoch_epoch fits]
      omega

/-- A ledger with nothing active holds terminal entries only. -/
theorem Sound.idle_terminal (sound : ledger.Sound) (idle : ledger.activeEntryCount = 0)
    (found : ledger.lookup identity = some entry) : entry.state.isTerminal = true := by
  obtain ⟨index, rfl, stored, -⟩ := sound.lookup_iff.mp found
  rw [sound.activeCount] at idle
  by_contra running
  have active : (ledger.entries index).state.isActive = true := by
    rw [State.isActive, stored, Bool.eq_false_iff.mpr running]
    rfl
  have : 0 < ledger.count State.isActive := tally_pos (sound.stored_inRange stored) active
  omega

/-- Before the search of an observation, the table is as it was or it has been emptied. -/
theorem Opened.lookup_cases {base : Ledger} (sound : before.Sound) (opened : Opened before identity base)
    (other : Identity) : base.lookup other = before.lookup other ∨
      base.lookup other = none ∧ before.activeControlGeneration < identity.controlGeneration ∧
        before.activeEntryCount = 0 ∧ before.lookup identity = none := by
  rcases opened.carried with ⟨-, same, -⟩ | ⟨emptied, newer, idle⟩
  · exact .inl (congrFun same other)
  · refine .inr ⟨emptied other, newer, idle, ?_⟩
    rw [Option.eq_none_iff_forall_ne_some]
    intro entry found
    obtain ⟨index, rfl, stored, rfl⟩ := sound.lookup_iff.mp found
    rw [(sound.known index stored).2] at newer
    exact UInt64.lt_irrefl _ newer

/-- Up to this capacity the probes of an identity reach every slot. -/
theorem probe_onto (small : ledger.entryCapacity ≤ 2 ^ 31) (identity : Identity) {index : Nat}
    (inRange : index < ledger.entryCapacity) :
    ∃ distance < ledger.entryCapacity, ledger.probe identity distance = index := by
  have start : ledger.identityStartIndex identity < ledger.entryCapacity := Nat.mod_lt _ (by omega)
  unfold probe
  by_cases ahead : ledger.identityStartIndex identity ≤ index
  · refine ⟨index - ledger.identityStartIndex identity, by omega, ?_⟩
    have fits : index < 2 ^ 32 := by omega
    rw [Nat.add_sub_cancel' ahead, Nat.mod_eq_of_lt fits, Nat.mod_eq_of_lt inRange]
  · refine ⟨index + ledger.entryCapacity - ledger.identityStartIndex identity, by omega, ?_⟩
    have round : ledger.identityStartIndex identity +
        (index + ledger.entryCapacity - ledger.identityStartIndex identity) = index + ledger.entryCapacity := by
      omega
    have fits : index + ledger.entryCapacity < 2 ^ 32 := by omega
    rw [round, Nat.mod_eq_of_lt fits, Nat.add_mod_right, Nat.mod_eq_of_lt inRange]

theorem full_of_probed (probed : ∀ distance < ledger.entryCapacity,
    (ledger.entries (ledger.probe identity distance)).state.isStored = true) : ledger.Full identity := by
  refine ⟨probed, fun small index inRange => ?_⟩
  obtain ⟨distance, near, rfl⟩ := probe_onto small identity inRange
  exact probed distance near

/-- What is gone when room has been made went for a reason. -/
theorem Vacates.gone {base : Ledger} {middle : Identity → Option Entry} (vacates : Vacates base identity middle)
    (sound : before.Sound) (opened : Opened before identity base) (payloadFingerprint : UInt64)
    (other : Identity) : middle other = before.lookup other ∨
      middle other = none ∧ ∀ old, before.lookup other = some old → old.state.isTerminal = true ∧
        (before.Resets (.observe identity payloadFingerprint) ∨ before.Oldest old ∧ before.Full identity) := by
  have reset : before.activeControlGeneration < identity.controlGeneration → before.activeEntryCount = 0 →
      ∀ old, before.lookup other = some old → old.state.isTerminal = true ∧
        (before.Resets (.observe identity payloadFingerprint) ∨ before.Oldest old ∧ before.Full identity) :=
    fun newer idle old found => ⟨sound.idle_terminal idle found, .inl ⟨newer, idle⟩⟩
  cases vacates with
  | already =>
    rcases opened.lookup_cases sound other with same | ⟨emptied, newer, idle, -⟩
    · exact .inl same
    · exact .inr ⟨emptied, reset newer idle⟩
  | recycled entry found terminal full oldest =>
    rcases opened.carried with ⟨entries, same, -⟩ | ⟨emptied, -⟩
    · by_cases here : other = entry.identity
      · subst here
        refine .inr ⟨update_self .., fun old before => ?_⟩
        rw [← same, found] at before
        cases before
        refine ⟨terminal, .inr ⟨?_, full_of_probed fun distance inRange => ?_⟩⟩
        · rw [same] at oldest
          exact oldest
        · have probed := full (base.probe identity distance)
            (List.mem_map_of_mem (List.mem_range.mpr (by rw [opened.capacity]; exact inRange)))
          unfold probe identityStartIndex at probed ⊢
          rw [entries, opened.capacity] at probed
          exact probed
      · rw [update_of_ne here, same]
        exact .inl rfl
    · rw [emptied] at found
      cases found

/-- What is left when room has been made was there before. -/
theorem Vacates.kept {base : Ledger} {middle : Identity → Option Entry} (vacates : Vacates base identity middle)
    {other : Identity} (found : middle other = some entry) : base.lookup other = some entry := by
  cases vacates with
  | already => exact found
  | recycled old =>
    by_cases here : other = old.identity
    · rw [here, update_self] at found
      cases found
    · rwa [update_of_ne here] at found

/-- A call after which the other identities map to what is left. -/
theorem orderly_of_gone {middle : Identity → Option Entry}
    (gone : ∀ other, middle other = before.lookup other ∨
      middle other = none ∧ ∀ old, before.lookup other = some old → old.state.isTerminal = true ∧
        (before.Resets call ∨ before.Oldest old ∧ before.Full call.identity))
    (elsewhere : ∀ other, other ≠ call.identity → after.lookup other = middle other)
    (here : ∀ old, before.lookup call.identity = some old →
      ∃ new, after.lookup call.identity = some new ∧ new.state = old.state)
    (newest : before.reaches call = true → after.Newest call.identity) : Orderly before call after := by
  refine ⟨fun other old new first second => ?_, fun other old first active => ?_,
    fun other old first second => ?_, fun other entry different there => ?_, newest⟩
  · by_cases same : other = call.identity
    · subst same
      obtain ⟨found, isFound, state⟩ := here old first
      cases second.symm.trans isFound
      exact .inl state.symm
    · rw [elsewhere other same] at second
      rcases gone other with kept | ⟨nothing, -⟩
      · rw [kept] at second
        exact .inl (congrArg Entry.state (Option.some.inj (first.symm.trans second)))
      · rw [nothing] at second
        cases second
  · by_cases same : other = call.identity
    · subst same
      obtain ⟨found, isFound, -⟩ := here old first
      rw [isFound]
      rfl
    · rw [elsewhere other same]
      rcases gone other with kept | ⟨-, terminal⟩
      · rw [kept, first]
        rfl
      · have ended := (terminal old first).1
        rw [State.isActive, ended, Bool.not_true, Bool.and_false] at active
        cases active
  · by_cases same : other = call.identity
    · subst same
      obtain ⟨found, isFound, -⟩ := here old first
      rw [isFound] at second
      cases second
    · rw [elsewhere other same] at second
      rcases gone other with kept | ⟨-, reason⟩
      · rw [kept, first] at second
        cases second
      · exact reason old first
  · rw [elsewhere other different] at there
    rcases gone other with kept | ⟨nothing, -⟩
    · rwa [kept] at there
    · rw [nothing] at there
      cases there

theorem observe_orderly (sound : before.Sound) (timely : before.Timely) (identity : Identity)
    (payloadFingerprint : UInt64) (fits : before.EpochFits (.observe identity payloadFingerprint)) :
    Orderly before (.observe identity payloadFingerprint) (before.observe identity payloadFingerprint).ledger := by
  obtain ⟨-, ⟨-, nothing, same⟩ | ⟨base, opened, ends⟩⟩ := sound.observe identity payloadFingerprint
  · rw [same]
    refine ⟨fun other old new first second => ?_, fun other old first _ => ?_, fun other old first second => ?_,
      fun _ _ _ first => first, fun found => ?_⟩
    · exact .inl (congrArg Entry.state (Option.some.inj (first.symm.trans second)))
    · rw [first]
      rfl
    · rw [first] at second
      cases second
    · change (before.observe identity payloadFingerprint).observation.isSome = true at found
      rw [nothing] at found
      cases found
  · -- an identity that is not found now was not there before
    have absent : base.lookup identity = none → before.lookup identity = none := by
      intro missing
      rcases opened.lookup_cases sound identity with same | ⟨-, -, -, missingBefore⟩
      · rw [← same, missing]
      · exact missingBefore
    have newest : ∀ (middle : Identity → Option Entry) (entry : Entry), Vacates base identity middle →
        (before.observe identity payloadFingerprint).ledger.lookup =
          update middle identity (some entry) → entry.lastObservedEpoch = base.epoch →
        (before.observe identity payloadFingerprint).ledger.Newest identity := by
      intro middle entry vacates map now
      refine ⟨entry, by rw [map, update_self], fun other otherEntry different found => ?_⟩
      rw [map, update_of_ne different] at found
      rw [now]
      exact opened.fresh timely fits (vacates.kept found)
    cases ends with
    | again entry isFound observation status map epoch =>
      refine orderly_of_gone (Vacates.already.gone sound opened payloadFingerprint)
        (fun other (different : other ≠ identity) => ?_)
        (fun old (found : before.lookup identity = some old) => ?_) fun _ => newest base.lookup _ .already map rfl
      · rw [map, update_of_ne different]
      · rcases opened.lookup_cases sound identity with same | ⟨-, -, -, missing⟩
        · rw [← same, isFound] at found
          cases found
          exact ⟨_, (congrFun map identity).trans (update_self ..), rfl⟩
        · rw [missing] at found
          cases found
    | full middle missing vacates status observation map epoch =>
      refine orderly_of_gone (vacates.gone sound opened payloadFingerprint)
        (fun other different => by rw [map])
        (fun old (found : before.lookup identity = some old) => ?_) fun found => ?_
      · rw [absent missing] at found
        cases found
      · change (before.observe identity payloadFingerprint).observation.isSome = true at found
        rw [observation] at found
        cases found
    | new middle missing vacates status observation map epoch =>
      refine orderly_of_gone (vacates.gone sound opened payloadFingerprint)
        (fun other (different : other ≠ identity) => ?_)
        (fun old (found : before.lookup identity = some old) => ?_) fun _ => newest middle _ vacates map rfl
      · rw [map, update_of_ne different]
      · rw [absent missing] at found
        cases found

/-- The invariant of a run whose epochs do not wrap. -/
structure Kept (ledger : Ledger) : Prop where
  sound : ledger.Sound
  timely : ledger.Timely

theorem Kept.observe (kept : ledger.Kept) (identity : Identity) (payloadFingerprint : UInt64)
    (fits : ledger.EpochFits (.observe identity payloadFingerprint)) :
    (ledger.observe identity payloadFingerprint).ledger.Kept := by
  obtain ⟨sound, ⟨-, -, same⟩ | ⟨base, opened, ends⟩⟩ := kept.sound.observe identity payloadFingerprint
  · rw [same]
    exact kept
  · refine ⟨sound, fun other entry found => ?_⟩
    have old : ∀ entry, base.lookup other = some entry → entry.lastObservedEpoch ≤ base.epoch :=
      fun entry found => Nat.le_of_lt (opened.fresh kept.timely fits found)
    have written : ∀ (middle : Identity → Option Entry) (new : Entry), Vacates base identity middle →
        (ledger.observe identity payloadFingerprint).ledger.lookup = update middle identity (some new) →
        new.lastObservedEpoch = base.epoch → entry.lastObservedEpoch ≤ base.epoch := by
      intro middle new vacates map now
      rw [map] at found
      by_cases same : other = identity
      · rw [same, update_self] at found
        cases found
        exact Nat.le_of_eq now
      · rw [update_of_ne same] at found
        exact old entry (vacates.kept found)
    cases ends with
    | again again isFound observation status map epoch =>
      rw [epoch]
      exact written base.lookup _ .already map rfl
    | full middle missing vacates status observation map epoch =>
      rw [epoch]
      rw [map] at found
      exact old entry (vacates.kept found)
    | new middle missing vacates status observation map epoch =>
      rw [epoch]
      exact written middle _ vacates map rfl

theorem Kept.transition (kept : ledger.Kept) (identity : Identity) (target : State) (terminalStatus : SparkStatus)
    (fits : ledger.EpochFits (.transition identity target terminalStatus)) :
    (ledger.transition identity target terminalStatus).2.Kept := by
  obtain ⟨sound, ⟨-, same⟩ | ⟨-, entry, -, -, -, map, epoch⟩⟩ :=
    kept.sound.transition identity target terminalStatus
  · rw [same]
    exact kept
  · refine ⟨sound, fun other found isFound => ?_⟩
    rw [map] at isFound
    rw [epoch]
    by_cases here : other = identity
    · rw [here, update_self] at isFound
      cases isFound
      exact Nat.le_refl _
    · rw [update_of_ne here] at isFound
      have := kept.timely other found isFound
      rw [advanceEpoch_epoch fits]
      omega

theorem Kept.perform (kept : ledger.Kept) (call : Call) (fits : ledger.EpochFits call) :
    (ledger.perform call).Kept := by
  cases call with
  | observe identity payloadFingerprint => exact kept.observe identity payloadFingerprint fits
  | transition identity target terminalStatus => exact kept.transition identity target terminalStatus fits

theorem perform_orderly (kept : ledger.Kept) (call : Call) (fits : ledger.EpochFits call) :
    Orderly ledger call (ledger.perform call) := by
  cases call with
  | observe identity payloadFingerprint =>
    exact observe_orderly kept.sound kept.timely identity payloadFingerprint fits
  | transition identity target terminalStatus =>
    exact transition_orderly kept.sound kept.timely identity target terminalStatus fits

theorem initializeLedger_sound {entryCapacity : Nat} (accepted : initializeLedger entryCapacity = .ok ledger) :
    ledger.Sound := by
  unfold initializeLedger at accepted
  split at accepted
  · cases accepted
  · rename_i positive
    cases accepted
    have capacity : 0 < ({ entryCapacity := entryCapacity } : Ledger).entryCapacity := Nat.pos_of_ne_zero positive
    exact resetLedger_sound capacity 0

theorem initializeLedger_kept {entryCapacity : Nat} (accepted : initializeLedger entryCapacity = .ok ledger) :
    ledger.Kept := by
  have sound := initializeLedger_sound accepted
  refine ⟨sound, fun identity entry found => ?_⟩
  obtain ⟨index, rfl, stored, -⟩ := sound.lookup_iff.mp found
  unfold initializeLedger at accepted
  split at accepted
  · cases accepted
  · cases accepted
    cases stored

/-- Along every run of calls whose epochs do not wrap, the ledger is consistent after each call, and
each call is orderly. -/
theorem run_orderly {entryCapacity : Nat} {start : Ledger}
    (accepted : initializeLedger entryCapacity = .ok start) (calls : List Call)
    (fits : Along perform EpochFits calls start) :
    (∀ taken, taken <+: calls → (taken.foldl perform start).Consistent) ∧
      Along perform (fun ledger call => Orderly ledger call (ledger.perform call)) calls start := by
  have kept := initializeLedger_kept accepted
  constructor
  · rintro taken ⟨later, rfl⟩
    have ended := fits.append.1.foldl (P := Kept) (fun _ call kept fits => kept.perform call fits) kept
    exact ended.sound.consistent
  · exact fits.map (P := Kept) (fun _ call kept fits => kept.perform call fits)
      (fun _ call kept fits => perform_orderly kept call fits) kept

/-- A removed terminal entry is the oldest, and every slot is stored. -/
def RemovesForRoom (before : Ledger) (call : Call) : Prop :=
  ∀ identity old, before.lookup identity = some old → (before.perform call).lookup identity = none →
    old.state.isTerminal = true ∧ before.Oldest old ∧
      ∀ index < before.entryCapacity, (before.entries index).state.isStored = true

/-- A transaction of a first control generation fails; then one of the next generation is observed. -/
def newGeneration : List Call :=
  let transaction : Identity :=
    { controlGeneration := 1, transactionId := 1, dispatchGeneration := 1, requestGeneration := 1,
      stepGeneration := 1, stepChunkCount := 1, phase := 1 }
  [.observe transaction 1, .transition transaction .failed .ioError,
    .observe { transaction with controlGeneration := 2 } 1]

theorem newGeneration_orderly :
    (∀ taken, taken <+: newGeneration → (taken.foldl perform { entryCapacity := 2 }).Consistent) ∧
      Along perform (fun ledger call => Orderly ledger call (ledger.perform call)) newGeneration
        { entryCapacity := 2 } :=
  run_orderly (show initializeLedger 2 = .ok { entryCapacity := 2 } from rfl) newGeneration
    ⟨by decide +kernel, by decide +kernel, by decide +kernel, trivial⟩

/-- The new generation empties a table that has room. -/
theorem newGeneration_empties : ¬ ∀ (entryCapacity : Nat) (start : Ledger) (calls : List Call),
    initializeLedger entryCapacity = .ok start → Along perform EpochFits calls start →
      Along perform RemovesForRoom calls start := by
  intro removes
  have along := removes 2 { entryCapacity := 2 } newGeneration rfl
    ⟨by decide +kernel, by decide +kernel, by decide +kernel, trivial⟩
  have last := along.2.2.1
  obtain ⟨old, found⟩ := Option.isSome_iff_exists.mp (show ((newGeneration.take 2).foldl perform
    { entryCapacity := 2 }).lookup (newGeneration.head (by decide)).identity |>.isSome by decide +kernel)
  have stored := (last _ old found (Option.isNone_iff_eq_none.mp (by decide +kernel))).2.2
  revert stored
  decide +kernel

end Ledger

end Sparkpipe.WorkTransaction
