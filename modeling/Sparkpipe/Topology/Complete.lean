import Sparkpipe.Topology.Switch
import Sparkpipe.Lib.Along
import Sparkpipe.Lib.Update
import Mathlib.Data.List.Infix

/-!
# Complete switches

Before the swap every live sequence should have reached a boundary and have a manifest, both since
the switch began. The code takes its own flags for that, and nothing sets them back after a
switch: they are only right for sequences that begin a switch without them.
-/

namespace Sparkpipe.TopologySwitch

open Function

/-- A call that pins or unpins a block. -/
def TierCall.effective : TierCall → Bool
  | .pin _ _ | .unpin _ _ => true
  | _ => false

namespace World

variable {world before middle after : World} {replies : Replies} {slot : Nat} {status : SparkStatus}

/-- The switch has written this manifest since it began. -/
def Written (world : World) (manifest : Manifest) : Prop :=
  .commitWrite manifest .ok ∈ world.calls.drop world.since

/-- Every live sequence has reached a boundary and has a manifest, both since the switch began. -/
def Complete (world : World) : Prop :=
  ∀ slot < world.switch.configuration.maxSequences, (world.switch.sequences slot).state ≠ .free →
    (world.switch.sequences slot).sequenceId ∈ world.boundaries ∧
      world.Written (world.switch.sequences slot).manifest

/-- A step that takes the switch from `CHECKPOINT` to `SWAP` finds it complete there. -/
def SwapsComplete (world : World) : Step → Prop
  | .advance replies => ∀ start, world.checkpointStart = some start →
      (start.checkpointRun replies).1 = true → (start.checkpointRun replies).2.Complete
  | _ => True

/-- A switch begins with sequences that are active and not checkpointed, and the tier has no manifest
of theirs. -/
def Fresh (world : World) : Step → Prop
  | .beginSwitch target => (world.switch.beginSwitch target).1 = .ok →
      ∀ slot < world.switch.configuration.maxSequences, (world.switch.sequences slot).state ≠ .free →
        (world.switch.sequences slot).state = .active ∧ (world.switch.sequences slot).checkpointed = false
  | .advance replies => ∀ slot < world.switch.configuration.maxSequences, replies.alreadyPresent slot = false
  | _ => True

section Writes

theorem setSequence_field {β : Type} (switch : Switch) (slot : Nat) (sequence : Sequence) (field : Sequence → β)
    (same : field sequence = field (switch.sequences slot)) (other : Nat) :
    field ((switch.setSequence slot sequence).sequences other) = field (switch.sequences other) :=
  update_field field same other

/-- What the written sequence keeps, every sequence keeps. -/
theorem setSequence_keeps {P : Sequence → Prop} (switch : Switch) {sequence : Sequence}
    (here : P (switch.sequences slot) → P sequence) (other : Nat) (before : P (switch.sequences other)) :
    P ((switch.setSequence slot sequence).sequences other) := by
  unfold Switch.setSequence
  dsimp only
  by_cases same : other = slot
  · rw [same] at before ⊢
    rw [update_self]
    exact here before
  · rwa [update_of_ne same]

/-- The sequence of a slot with its manifest written. -/
def flagged (world : World) (slot : Nat) : World :=
  world.withSwitch (world.switch.setSequence slot { world.switch.sequences slot with checkpointed := true })

/-- Writing a manifest only makes calls about it, and sets the flag when it succeeds. -/
theorem writeManifest_cases (replies : Replies) (world : World) (slot : Nat) : ∃ calls : List TierCall,
    (∀ call ∈ calls, call.effective = false) ∧
      ((world.writeManifest replies slot).1 ≠ .ok ∧ (world.writeManifest replies slot).2 = world.called calls ∨
        (world.writeManifest replies slot).1 = .ok ∧
          (world.writeManifest replies slot).2 = (world.flagged slot).called calls ∧
          (replies.alreadyPresent slot = false →
            .commitWrite (world.switch.sequences slot).manifest .ok ∈ calls)) := by
  unfold World.writeManifest
  dsimp only
  split
  · exact ⟨_, by simp [TierCall.effective], .inl ⟨‹_›, rfl⟩⟩
  split
  · exact ⟨_, by simp [TierCall.effective], .inr ⟨rfl, rfl, fun absent => by simp_all⟩⟩
  split
  · exact ⟨_, by simp [TierCall.effective], .inl ⟨‹_›, rfl⟩⟩
  split
  · exact ⟨_, by simp [TierCall.effective], .inl ⟨‹_›, rfl⟩⟩
  · exact ⟨_, by simp [TierCall.effective], .inr ⟨rfl, rfl, fun _ => by simp⟩⟩

end Writes

section Progress

/-- What checkpoints do: they set flags, and a sequence that gets its flag has its manifest written. -/
structure Progress (before after : World) : Prop where
  configuration : after.switch.configuration = before.switch.configuration
  state : after.switch.state = before.switch.state
  since : after.since = before.since
  boundaries : after.boundaries = before.boundaries
  calls : before.calls <+: after.calls
  manifest : ∀ slot, (after.switch.sequences slot).manifest = (before.switch.sequences slot).manifest
  sequenceState : ∀ slot, (after.switch.sequences slot).state = (before.switch.sequences slot).state
  kept : ∀ slot, (before.switch.sequences slot).checkpointed = true →
    (after.switch.sequences slot).checkpointed = true
  written : ∀ slot, (after.switch.sequences slot).checkpointed = true →
    (before.switch.sequences slot).checkpointed = true ∨
      .commitWrite (before.switch.sequences slot).manifest .ok ∈ after.calls.drop before.calls.length

theorem Progress.refl (world : World) : Progress world world :=
  ⟨rfl, rfl, rfl, rfl, List.prefix_refl _, fun _ => rfl, fun _ => rfl, fun _ => id, fun _ => .inl⟩

theorem Progress.trans (first : Progress before middle) (second : Progress middle after) :
    Progress before after where
  configuration := second.configuration.trans first.configuration
  state := second.state.trans first.state
  since := second.since.trans first.since
  boundaries := second.boundaries.trans first.boundaries
  calls := first.calls.trans second.calls
  manifest := fun slot => (second.manifest slot).trans (first.manifest slot)
  sequenceState := fun slot => (second.sequenceState slot).trans (first.sequenceState slot)
  kept := fun slot checkpointed => second.kept slot (first.kept slot checkpointed)
  written := fun slot checkpointed => by
    obtain ⟨more, moreCalls⟩ := first.calls
    obtain ⟨later, laterCalls⟩ := second.calls
    rcases second.written slot checkpointed with already | new
    · rcases first.written slot already with old | new
      · exact .inl old
      · refine .inr ?_
        rw [← moreCalls, List.drop_left] at new
        rw [← laterCalls, ← moreCalls, List.append_assoc, List.drop_left]
        exact List.mem_append_left _ new
    · refine .inr ?_
      rw [first.manifest, ← laterCalls, List.drop_left] at new
      rw [← laterCalls, ← moreCalls, List.append_assoc, List.drop_left]
      exact List.mem_append_right _ new

/-- Calls into the tier alone are progress. -/
theorem Progress.called (world : World) (calls : List TierCall) : Progress world (world.called calls) :=
  { Progress.refl world with
    calls := ⟨calls, rfl⟩
    written := fun _ => .inl }

theorem Progress.pinSequence (world : World) (replies : Replies) (slot : Nat) :
    Progress world (world.pinSequence replies slot).2 := by
  unfold World.pinSequence
  dsimp only
  split
  · exact Progress.refl world
  split
  · exact { Progress.called world _ with }
  · have flags := setSequence_field world.switch slot { world.switch.sequences slot with pinsDone := true }
      Sequence.checkpointed rfl
    exact {
      configuration := rfl
      state := rfl
      since := rfl
      boundaries := rfl
      calls := ⟨_, rfl⟩
      manifest := setSequence_field world.switch slot _ Sequence.manifest (by rfl)
      sequenceState := setSequence_field world.switch slot _ Sequence.state (by rfl)
      kept := fun other checkpointed => (flags other).trans checkpointed
      written := fun other checkpointed => .inl ((flags other).symm.trans checkpointed) }

/-- A manifest that is not there before is written, or the write fails. -/
theorem Progress.writeManifest (world : World) (absent : replies.alreadyPresent slot = false) :
    Progress world (world.writeManifest replies slot).2 ∧
      ((world.writeManifest replies slot).1 = .ok →
        ((world.writeManifest replies slot).2.switch.sequences slot).checkpointed = true) := by
  obtain ⟨calls, -, ⟨failed, stays⟩ | ⟨-, changes, commits⟩⟩ := writeManifest_cases replies world slot
  · rw [stays]
    exact ⟨Progress.called world _, fun succeeded => absurd succeeded failed⟩
  rw [changes]
  refine ⟨{
    configuration := rfl
    state := rfl
    since := rfl
    boundaries := rfl
    calls := ⟨_, rfl⟩
    manifest := setSequence_field world.switch slot _ Sequence.manifest (by rfl)
    sequenceState := setSequence_field world.switch slot _ Sequence.state (by rfl)
    kept := setSequence_keeps (P := fun sequence => sequence.checkpointed = true) world.switch fun _ => rfl
    written := fun other checkpointed => ?_ }, fun _ => ?_⟩
  · change (update world.switch.sequences slot _ other).checkpointed = true at checkpointed
    by_cases here : other = slot
    · refine .inr ?_
      rw [here]
      change _ ∈ (world.calls ++ calls).drop world.calls.length
      rw [List.drop_left]
      exact commits absent
    · rw [update_of_ne here] at checkpointed
      exact .inl checkpointed
  · change (update world.switch.sequences slot _ slot).checkpointed = true
    rw [update_self]

theorem Progress.checkpointOne (world : World) (absent : replies.alreadyPresent slot = false) :
    Progress world (world.checkpointOne replies slot).2 ∧
      ((world.checkpointOne replies slot).1 = .ok →
        ((world.checkpointOne replies slot).2.switch.sequences slot).checkpointed = true) := by
  have pins := Progress.pinSequence world replies slot
  obtain ⟨writes, done⟩ := Progress.writeManifest (world.pinSequence replies slot).2 absent
  unfold World.checkpointOne
  by_cases pinned : (world.pinSequence replies slot).1 = .ok
  · rw [andThen_ok pinned]
    exact ⟨pins.trans writes, done⟩
  · rw [andThen_failed pinned]
    exact ⟨pins, fun succeeded => absurd succeeded pinned⟩

end Progress

section Loop

variable {P : List Nat → World → Prop} {Q : Nat → Prop} {M : Sequence → Prop} (replies : Replies)
  (cursor : ∀ rest (now : World) place error, P rest now →
    P rest (now.withSwitch { now.switch with phaseCursor := place, lastError := error }))
  (keeps : ∀ (now : World) (slot other : Nat), Q slot → M (now.switch.sequences other) →
    M ((now.checkpointOne replies slot).2.switch.sequences other))
  (skip : ∀ slot rest (now : World), P (slot :: rest) now →
    (now.switch.sequences slot).state = .free ∨ (now.switch.sequences slot).checkpointed = true →
      P rest now ∧ M (now.switch.sequences slot))
  (one : ∀ slot rest (now : World), Q slot → P (slot :: rest) now → (now.switch.sequences slot).state ≠ .free →
    P rest (now.checkpointOne replies slot).2 ∧ ((now.checkpointOne replies slot).1 = .ok →
      M ((now.checkpointOne replies slot).2.switch.sequences slot)))
include cursor keeps skip one

/-- What every turn of the loop keeps, and what it has marked up to where it stops. -/
theorem checkpointFrom_rule (slots : List Nat) (world : World) (all : ∀ slot ∈ slots, Q slot) (start : P slots world) :
    (∃ rest, P rest (checkpointFrom replies slots world).2) ∧
      (∀ other, M (world.switch.sequences other) →
        M ((checkpointFrom replies slots world).2.switch.sequences other)) ∧
      ∃ done rest, slots = done ++ rest ∧
        (∀ slot ∈ done, M ((checkpointFrom replies slots world).2.switch.sequences slot)) ∧
        ((checkpointFrom replies slots world).1 = true → rest = []) ∧
        ((checkpointFrom replies slots world).1 = false →
          rest.head? = some (checkpointFrom replies slots world).2.switch.phaseCursor) := by
  induction slots generalizing world with
  | nil => exact ⟨⟨[], start⟩, fun _ => id, [], [], rfl, by simp, fun _ => rfl, by simp [checkpointFrom]⟩
  | cons slot rest ih =>
    have begun := cursor _ world (slot + 1) world.switch.lastError start
    have later : ∀ other ∈ rest, Q other := fun other member => all other (.tail _ member)
    unfold checkpointFrom
    dsimp only
    split
    · rename_i skipped
      obtain ⟨left, marked⟩ := skip slot rest _ begun skipped
      obtain ⟨kept, persists, done, more, split, marks, ended, stopped⟩ := ih _ later left
      refine ⟨kept, persists, slot :: done, more, by rw [split]; rfl, ?_, ended, stopped⟩
      exact List.forall_mem_cons.mpr ⟨persists slot marked, marks⟩
    · rename_i processed
      have wanted := all slot (.head _)
      obtain ⟨left, marked⟩ := one slot rest _ wanted begun (not_or.mp processed).1
      have still := fun other => keeps (world.withSwitch { world.switch with phaseCursor := slot + 1 }) slot other wanted
      split
      · exact ⟨⟨rest, cursor rest _ slot _ left⟩, still, [], slot :: rest, rfl, by simp, by simp, fun _ => rfl⟩
      · rename_i succeeded
        obtain ⟨kept, persists, done, more, split, marks, ended, stopped⟩ := ih _ later left
        refine ⟨kept, fun other before => persists other (still other before), slot :: done, more,
          by rw [split]; rfl, ?_, ended, stopped⟩
        exact List.forall_mem_cons.mpr ⟨persists slot (marked (not_not.mp succeeded)), marks⟩

omit cursor keeps skip one in
theorem mem_drop_range {count cursor slot : Nat} :
    slot ∈ (List.range count).drop cursor ↔ cursor ≤ slot ∧ slot < count := by
  rw [List.mem_iff_getElem?]
  constructor
  · rintro ⟨index, found⟩
    rw [List.getElem?_drop] at found
    obtain ⟨inRange, rfl⟩ := List.getElem?_eq_some_iff.mp found
    rw [List.length_range] at inRange
    rw [List.getElem_range]
    omega
  · rintro ⟨ahead, inRange⟩
    refine ⟨slot - cursor, ?_⟩
    rw [List.getElem?_drop, Nat.add_sub_cancel' ahead, List.getElem?_range inRange]

/-- The phase has marked all that is behind its cursor, and everything when it has come to its end. -/
theorem checkpointRun_rule (world : World) (all : ∀ slot < world.switch.configuration.maxSequences, Q slot)
    (start : P (world.switch.slots.drop world.switch.phaseCursor) world)
    (behind : ∀ slot < world.switch.configuration.maxSequences, slot < world.switch.phaseCursor →
      M (world.switch.sequences slot)) :
    (∃ rest, P rest (world.checkpointRun replies).2) ∧
      ∀ slot < world.switch.configuration.maxSequences, (world.checkpointRun replies).1 = true ∨
        slot < (world.checkpointRun replies).2.switch.phaseCursor →
          M ((world.checkpointRun replies).2.switch.sequences slot) := by
  obtain ⟨kept, persists, done, rest, split, marks, ended, stopped⟩ := checkpointFrom_rule replies cursor keeps skip one
    (world.switch.slots.drop world.switch.phaseCursor) world (fun slot member => all slot (mem_drop_range.mp member).2)
    start
  refine ⟨kept, fun slot inRange reached => ?_⟩
  by_cases less : slot < world.switch.phaseCursor
  · exact persists slot (behind slot inRange less)
  have member : slot ∈ done ++ rest := by
    rw [← split]
    exact mem_drop_range.mpr ⟨Nat.le_of_not_lt less, inRange⟩
  refine marks slot ((List.mem_append.mp member).resolve_right fun inside => ?_)
  cases finished : (world.checkpointRun replies).1 with
  | true => simp [ended finished] at inside
  | false =>
    -- the slots that are left are in order, from the cursor on
    obtain ⟨tail, isRest⟩ := List.head?_eq_some_iff.mp (stopped finished)
    have ordered : (done ++ rest).Pairwise (· < ·) := by
      rw [← split]
      exact List.pairwise_lt_range.drop
    rw [isRest] at inside ordered
    have later := (List.pairwise_cons.mp (List.pairwise_append.mp ordered).2.1).1
    have early : slot < _ := reached.resolve_left (by simp [finished])
    rcases List.mem_cons.mp inside with rfl | ahead
    · exact Nat.lt_irrefl _ early
    · exact Nat.lt_asymm early (later slot ahead)

end Loop

section Tracking

/-- The invariant of a run of fresh switches. -/
structure Tracked (world : World) : Prop where
  since : world.since ≤ world.calls.length
  boundary : world.switch.state ≠ .steady → ∀ slot < world.switch.configuration.maxSequences,
    (world.switch.sequences slot).state = .atBoundary →
      (world.switch.sequences slot).sequenceId ∈ world.boundaries
  written : world.switch.state ≠ .steady → ∀ slot < world.switch.configuration.maxSequences,
    (world.switch.sequences slot).state ≠ .free → (world.switch.sequences slot).checkpointed = true →
      world.Written (world.switch.sequences slot).manifest
  drained : world.switch.state ≠ .steady → world.switch.state ≠ .quiesce →
    ∀ slot < world.switch.configuration.maxSequences, (world.switch.sequences slot).state ≠ .active
  behind : world.switch.state = .checkpoint → ∀ slot < world.switch.configuration.maxSequences,
    slot < world.switch.phaseCursor → (world.switch.sequences slot).state ≠ .free →
      (world.switch.sequences slot).checkpointed = true

theorem Written.mono {manifest : Manifest} (written : before.Written manifest) (calls : before.calls <+: after.calls)
    (since : after.since = before.since) : after.Written manifest := by
  obtain ⟨more, moreCalls⟩ := calls
  unfold Written at written ⊢
  rw [since, ← moreCalls, List.drop_append]
  exact List.mem_append_left _ written

/-- A switch that is steady tracks nothing. -/
theorem Tracked.of_steady (since : after.since ≤ after.calls.length) (steady : after.switch.state = .steady) :
    after.Tracked :=
  ⟨since, fun running => absurd steady running, fun running => absurd steady running,
    fun running => absurd steady running, fun running => by rw [steady] at running; cases running⟩

/-- One sequence changes. -/
theorem Tracked.edit (tracked : before.Tracked) {sequence : Sequence}
    (sequences : after.switch.sequences = update before.switch.sequences slot sequence)
    (configuration : after.switch.configuration = before.switch.configuration)
    (state : after.switch.state = before.switch.state)
    (cursor : after.switch.phaseCursor = before.switch.phaseCursor) (calls : before.calls <+: after.calls)
    (since : after.since = before.since) (boundaries : ∀ id ∈ before.boundaries, id ∈ after.boundaries)
    (boundary : sequence.state = .atBoundary → before.switch.state ≠ .steady →
      slot < before.switch.configuration.maxSequences → sequence.sequenceId ∈ after.boundaries)
    (written : sequence.state ≠ .free → sequence.checkpointed = true →
      (before.switch.sequences slot).checkpointed = true ∧
        sequence.manifest = (before.switch.sequences slot).manifest)
    (active : sequence.state = .active → (before.switch.sequences slot).state = .active)
    (live : sequence.state ≠ .free → (before.switch.sequences slot).state ≠ .free)
    (kept : (before.switch.sequences slot).checkpointed = true → sequence.checkpointed = true) :
    after.Tracked := by
  have here : after.switch.sequences slot = sequence := by rw [sequences, update_self]
  have others : ∀ other, other ≠ slot → after.switch.sequences other = before.switch.sequences other := by
    intro other different
    rw [sequences, update_of_ne different]
  constructor
  · rw [since]
    exact Nat.le_trans tracked.since calls.length_le
  · intro running other inRange atBoundary
    rw [state] at running
    rw [configuration] at inRange
    by_cases same : other = slot
    · subst same
      rw [here] at atBoundary ⊢
      exact boundary atBoundary running inRange
    · rw [others other same] at atBoundary ⊢
      exact boundaries _ (tracked.boundary running other inRange atBoundary)
  · intro running other inRange isLive checkpointed
    rw [state] at running
    rw [configuration] at inRange
    by_cases same : other = slot
    · subst same
      rw [here] at isLive checkpointed ⊢
      obtain ⟨already, manifest⟩ := written isLive checkpointed
      rw [manifest]
      exact (tracked.written running other inRange (live isLive) already).mono calls since
    · rw [others other same] at isLive checkpointed ⊢
      exact (tracked.written running other inRange isLive checkpointed).mono calls since
  · intro running past other inRange isActive
    rw [state] at running past
    rw [configuration] at inRange
    by_cases same : other = slot
    · subst same
      rw [here] at isActive
      exact tracked.drained running past other inRange (active isActive)
    · rw [others other same] at isActive
      exact tracked.drained running past other inRange isActive
  · intro checkpoint other inRange less isLive
    rw [state] at checkpoint
    rw [configuration] at inRange
    rw [cursor] at less
    by_cases same : other = slot
    · subst same
      rw [here] at isLive ⊢
      exact kept (tracked.behind checkpoint other inRange less (live isLive))
    · rw [others other same] at isLive ⊢
      exact tracked.behind checkpoint other inRange less isLive

/-- Where the `CHECKPOINT` phase starts. -/
theorem Tracked.checkpointStart (tracked : world.Tracked) {start : World}
    (starts : world.checkpointStart = some start) : start.Tracked ∧ start.switch.state = .checkpoint ∧
      start.switch.configuration = world.switch.configuration ∧ start.calls = world.calls ∧
      start.switch.sequences = world.switch.sequences := by
  unfold World.checkpointStart at starts
  split at starts
  · rename_i quiesce
    split at starts
    · rename_i drained
      cases starts
      have running : world.switch.state ≠ .steady := by simp [quiesce]
      refine ⟨⟨tracked.since, fun _ => tracked.boundary running, fun _ => tracked.written running, ?_, ?_⟩, rfl, rfl,
        rfl, rfl⟩
      · intro _ _ slot inRange active
        have passed := List.all_eq_true.mp drained slot (List.mem_range.mpr inRange)
        exact absurd active (of_decide_eq_true passed)
      · intro _ slot _ less
        exact absurd less (Nat.not_lt_zero _)
    · cases starts
  · rename_i checkpoint
    cases starts
    exact ⟨tracked, checkpoint, rfl, rfl, rfl⟩
  · cases starts

/-- After the `CHECKPOINT` phase the switch is complete, or the phase goes on later. -/
theorem Tracked.checkpointRun (tracked : world.Tracked) (checkpoint : world.switch.state = .checkpoint)
    (absent : ∀ slot < world.switch.configuration.maxSequences, replies.alreadyPresent slot = false) :
    (world.checkpointRun replies).2.Tracked ∧ (world.checkpointRun replies).2.switch.state = .checkpoint ∧
      ((world.checkpointRun replies).1 = true → (world.checkpointRun replies).2.Complete) := by
  have ran := checkpointRun_rule (P := fun _ now => Progress world now)
    (Q := fun slot => replies.alreadyPresent slot = false)
    (M := fun sequence => sequence.state ≠ .free → sequence.checkpointed = true) replies
    (fun _ _ _ _ progress => progress.trans { Progress.refl _ with })
    (fun now slot other absent marked live => by
      have progress := (Progress.checkpointOne now absent).1
      rw [progress.sequenceState] at live
      exact progress.kept _ (marked live))
    (fun slot rest now progress skipped => ⟨progress, skipped.resolve_left⟩)
    (fun slot rest now absent progress _ =>
      have ⟨goesOn, done⟩ := Progress.checkpointOne now absent
      ⟨progress.trans goesOn, fun succeeded _ => done succeeded⟩)
    world absent (Progress.refl world) (tracked.behind checkpoint)
  obtain ⟨⟨-, progress⟩, reached⟩ := ran
  generalize world.checkpointRun replies = ran at progress reached ⊢
  have running : world.switch.state ≠ .steady := by simp [checkpoint]
  have past : world.switch.state ≠ .quiesce := by simp [checkpoint]
  have liveBefore : ∀ slot, (ran.2.switch.sequences slot).state ≠ .free →
      (world.switch.sequences slot).state ≠ .free := by
    intro slot live
    rw [progress.sequenceState] at live
    exact live
  have ids : ∀ slot, (ran.2.switch.sequences slot).sequenceId = (world.switch.sequences slot).sequenceId :=
    fun slot => congrArg Manifest.sequenceId (progress.manifest slot)
  have boundary : ∀ slot < world.switch.configuration.maxSequences,
      (ran.2.switch.sequences slot).state = .atBoundary →
        (ran.2.switch.sequences slot).sequenceId ∈ ran.2.boundaries := by
    intro slot inRange atBoundary
    rw [progress.sequenceState] at atBoundary
    rw [ids, progress.boundaries]
    exact tracked.boundary running slot inRange atBoundary
  have written : ∀ slot < world.switch.configuration.maxSequences, (ran.2.switch.sequences slot).state ≠ .free →
      (ran.2.switch.sequences slot).checkpointed = true → ran.2.Written (ran.2.switch.sequences slot).manifest := by
    intro slot inRange live isCheckpointed
    rw [progress.manifest]
    rcases progress.written slot isCheckpointed with already | new
    · exact (tracked.written running slot inRange (liveBefore slot live) already).mono progress.calls progress.since
    · unfold Written
      rw [progress.since]
      exact List.drop_subset_drop_left _ tracked.since new
  have drained : ∀ slot < world.switch.configuration.maxSequences, (ran.2.switch.sequences slot).state ≠ .active := by
    intro slot inRange
    rw [progress.sequenceState]
    exact tracked.drained running past slot inRange
  refine ⟨⟨?_, fun _ slot inRange => ?_, fun _ slot inRange => ?_, fun _ _ slot inRange => ?_, ?_⟩,
    progress.state.trans checkpoint, ?_⟩
  · rw [progress.since]
    exact Nat.le_trans tracked.since progress.calls.length_le
  · rw [progress.configuration] at inRange
    exact boundary slot inRange
  · rw [progress.configuration] at inRange
    exact written slot inRange
  · rw [progress.configuration] at inRange
    exact drained slot inRange
  · intro _ slot inRange less
    rw [progress.configuration] at inRange
    exact reached slot inRange (.inr less)
  · intro finished slot inRange live
    rw [progress.configuration] at inRange
    have isCheckpointed := reached slot inRange (.inl finished) live
    refine ⟨boundary slot inRange ?_, written slot inRange live isCheckpointed⟩
    have notActive := drained slot inRange
    revert live notActive
    cases (ran.2.switch.sequences slot).state <;> simp

end Tracking

section Advancing

/-- Resumed sequences are classified, and nothing else of them changes. -/
theorem resumeFrom_spec (replies : Replies) (slots : List Nat) (world : World) :
    world.calls <+: (resumeFrom replies slots world).calls ∧
      (resumeFrom replies slots world).since = world.since ∧
      (resumeFrom replies slots world).switch.configuration = world.switch.configuration ∧
      ∀ slot, ((resumeFrom replies slots world).switch.sequences slot).sequenceId =
          (world.switch.sequences slot).sequenceId ∧
        ((resumeFrom replies slots world).switch.sequences slot).state = (world.switch.sequences slot).state ∧
        ((resumeFrom replies slots world).switch.sequences slot).checkpointed =
          (world.switch.sequences slot).checkpointed := by
  induction slots generalizing world with
  | nil => exact ⟨List.prefix_refl _, rfl, rfl, fun _ => ⟨rfl, rfl, rfl⟩⟩
  | cons slot rest ih =>
    unfold resumeFrom
    dsimp only
    split
    · exact ih (world.withSwitch { world.switch with phaseCursor := slot + 1 })
    · obtain ⟨calls, since, configuration, sequences⟩ := ih
        ((world.withSwitch { world.switch with phaseCursor := slot + 1 }).resumeOne replies slot)
      refine ⟨List.IsPrefix.trans ⟨_, rfl⟩ calls, since, configuration, fun other => ?_⟩
      obtain ⟨id, state, checkpointed⟩ := sequences other
      rw [id, state, checkpointed]
      exact ⟨setSequence_field world.switch slot _ Sequence.sequenceId (by rfl) other,
        setSequence_field world.switch slot _ Sequence.state (by rfl) other,
        setSequence_field world.switch slot _ Sequence.checkpointed (by rfl) other⟩

/-- What a phase after the checkpoints leaves of the sequences and the calls. -/
structure Keeps (before after : World) : Prop where
  configuration : after.switch.configuration = before.switch.configuration
  calls : before.calls <+: after.calls
  since : after.since = before.since
  sequences : ∀ slot, (after.switch.sequences slot).sequenceId = (before.switch.sequences slot).sequenceId ∧
    (after.switch.sequences slot).state = (before.switch.sequences slot).state ∧
    ((before.switch.sequences slot).checkpointed = true → (after.switch.sequences slot).checkpointed = true)

theorem Keeps.resumePhase (replies : Replies) (world : World) :
    Keeps world (world.resumePhase replies) ∧ (world.resumePhase replies).switch.state = .steady := by
  obtain ⟨calls, since, configuration, sequences⟩ := resumeFrom_spec replies
    (world.switch.slots.drop world.switch.phaseCursor) world
  exact ⟨⟨configuration, calls, since, fun slot => ⟨(sequences slot).1, (sequences slot).2.1,
    fun checkpointed => (sequences slot).2.2.trans checkpointed⟩⟩, rfl⟩

/-- The `SWAP` phase waits, or the switch is over. -/
theorem Keeps.swapPhase (replies : Replies) (world : World) : Keeps world (world.swapPhase replies) ∧
    ((world.swapPhase replies).switch.state = .steady ∨
      (world.swapPhase replies).switch.state = world.switch.state ∧
        (world.swapPhase replies).switch.sequences = world.switch.sequences ∧
        (world.swapPhase replies).calls = world.calls ∧ (world.swapPhase replies).boundaries = world.boundaries) := by
  have same : Keeps world world := ⟨rfl, List.prefix_refl _, rfl, fun _ => ⟨rfl, rfl, id⟩⟩
  unfold World.swapPhase
  split
  · exact ⟨{ same with }, .inr ⟨rfl, rfl, rfl, rfl⟩⟩
  dsimp only
  split
  · exact ⟨{ same with }, .inr ⟨rfl, rfl, rfl, rfl⟩⟩
  split
  · exact ⟨{ same with }, .inr ⟨rfl, rfl, rfl, rfl⟩⟩
  · obtain ⟨keeps, steady⟩ := Keeps.resumePhase replies (world.withSwitch { world.switch with
      swapStarted := true
      state := .resume
      phaseCursor := 0 })
    exact ⟨{ keeps with }, .inl steady⟩

/-- In the `SWAP` phase the invariant only asks for what the sequences are. -/
theorem Tracked.swapPhase (tracked : world.Tracked) (swap : world.switch.state = .swap) (replies : Replies) :
    (world.swapPhase replies).Tracked := by
  obtain ⟨keeps, steady | ⟨state, sequences, calls, boundaries⟩⟩ := Keeps.swapPhase replies world
  · refine Tracked.of_steady ?_ steady
    rw [keeps.since]
    exact Nat.le_trans tracked.since keeps.calls.length_le
  · refine ⟨?_, ?_, ?_, ?_, fun checkpoint => ?_⟩
    · rw [keeps.since, calls]
      exact tracked.since
    · rw [state, keeps.configuration, sequences, boundaries]
      exact tracked.boundary
    · rw [state, keeps.configuration, sequences]
      unfold Written
      rw [keeps.since, calls]
      exact tracked.written
    · rw [state, keeps.configuration, sequences]
      exact tracked.drained
    · rw [state, swap] at checkpoint
      cases checkpoint

/-- One call of `Advance` keeps the invariant, and swaps only what is complete. -/
theorem Tracked.advance (tracked : world.Tracked)
    (absent : ∀ slot < world.switch.configuration.maxSequences, replies.alreadyPresent slot = false) :
    (world.advance replies).Tracked ∧ world.SwapsComplete (.advance replies) := by
  cases starts : world.checkpointStart with
  | some start =>
    obtain ⟨started, checkpoint, configuration, -, -⟩ := tracked.checkpointStart starts
    rw [← configuration] at absent
    obtain ⟨ran, running, complete⟩ := started.checkpointRun checkpoint absent
    refine ⟨?_, fun other isStart finished => ?_⟩
    · unfold World.advance
      rw [starts]
      change (start.checkpointPhase replies).Tracked
      unfold checkpointPhase
      dsimp only
      split
      · exact ran
      · have isRunning : (start.checkpointRun replies).2.switch.state ≠ .steady := by simp [running]
        have isPast : (start.checkpointRun replies).2.switch.state ≠ .quiesce := by simp [running]
        have swapping : ((start.checkpointRun replies).2.withSwitch { (start.checkpointRun replies).2.switch with
            state := .swap
            swapStarted := false }).Tracked :=
          ⟨ran.since, fun _ => ran.boundary isRunning, fun _ => ran.written isRunning,
            fun _ _ => ran.drained isRunning isPast, nofun⟩
        exact swapping.swapPhase rfl replies
    · cases starts.symm.trans isStart
      exact complete finished
  | none =>
    refine ⟨?_, fun start isStart => ?_⟩
    · unfold World.advance
      rw [starts]
      dsimp only
      split
      · rename_i swap
        exact tracked.swapPhase swap replies
      · obtain ⟨keeps, steady⟩ := Keeps.resumePhase replies world
        refine Tracked.of_steady ?_ steady
        rw [keeps.since]
        exact Nat.le_trans tracked.since keeps.calls.length_le
      · exact tracked
    · rw [starts] at isStart
      cases isStart

end Advancing

section Steps

/-- The slot of an identity that is found. -/
theorem findSequence_some {switch : Switch} {sequenceId : UInt64} (found : switch.findSequence sequenceId = some slot) :
    slot < switch.configuration.maxSequences ∧ (switch.sequences slot).state ≠ .free ∧
      (switch.sequences slot).sequenceId = sequenceId := by
  have passes := List.find?_some found
  obtain ⟨live, same⟩ := Bool.and_eq_true_iff.mp passes
  exact ⟨List.mem_range.mp (List.mem_of_find?_eq_some found), of_decide_eq_true live, of_decide_eq_true same⟩

/-- Only a steady switch takes a new sequence, into a free slot. -/
theorem trackSequence_cases (switch : Switch) (sequenceId recipeId : UInt64) :
    (switch.trackSequence sequenceId recipeId).2 = switch ∨
      switch.state = .steady ∧ switch.findSequence sequenceId = none ∧ ∃ slot,
        (switch.sequences slot).state = .free ∧
        (switch.trackSequence sequenceId recipeId).2 = { switch.setSequence slot
          { sequenceId := sequenceId, recipeId := recipeId, state := .active } with
          sequenceCount := switch.sequenceCount + 1 } := by
  unfold Switch.trackSequence
  split
  · exact .inl rfl
  split
  · exact .inl rfl
  rename_i steady
  split
  · exact .inl rfl
  split
  · exact .inl rfl
  rename_i missing
  split
  · exact .inl rfl
  · rename_i slot found
    have free := List.find?_some found
    exact .inr ⟨not_not.mp steady, Option.not_isSome_iff_eq_none.mp missing, slot, of_decide_eq_true free, rfl⟩

theorem setSequenceKv_cases (switch : Switch) (sequenceId : UInt64) (positionTokens : Nat)
    (contentHashes : List UInt64) :
    (switch.setSequenceKv sequenceId positionTokens contentHashes).1 ≠ .ok ∧
        (switch.setSequenceKv sequenceId positionTokens contentHashes).2 = switch ∨
      ∃ slot, switch.findSequence sequenceId = some slot ∧ (switch.sequences slot).checkpointed = false ∧
        (switch.setSequenceKv sequenceId positionTokens contentHashes).1 = .ok ∧
        (switch.setSequenceKv sequenceId positionTokens contentHashes).2 = switch.setSequence slot
          { switch.sequences slot with
            keys := contentHashes.map (kvKey switch.configuration.kvNamespace)
            positionTokens := positionTokens } := by
  unfold Switch.setSequenceKv
  split
  · exact .inl ⟨nofun, rfl⟩
  split
  · exact .inl ⟨nofun, rfl⟩
  · rename_i slot found
    split
    · exact .inl ⟨nofun, rfl⟩
    · rename_i open'
      exact .inr ⟨slot, found, Bool.eq_false_iff.mpr open', rfl, rfl⟩

theorem beginSwitch_cases (switch : Switch) (target : UInt64) :
    (switch.beginSwitch target).1 ≠ .ok ∨
      (switch.beginSwitch target).1 = .ok ∧ switch.state = .steady ∧
        (switch.beginSwitch target).2 = { switch with
          targetRecipe := target
          state := .quiesce
          phaseCursor := 0
          swapStarted := false
          lastError := .ok } := by
  unfold Switch.beginSwitch
  split
  · exact .inl nofun
  split
  · exact .inl nofun
  rename_i steady
  split
  · exact .inl nofun
  · exact .inr ⟨rfl, not_not.mp steady, rfl⟩

/-- One step keeps the invariant, and swaps only what is complete. -/
theorem Tracked.perform (tracked : world.Tracked) (step : Step) (fresh : world.Fresh step) :
    (world.perform step).Tracked ∧ world.SwapsComplete step := by
  cases step with
  | trackSequence sequenceId recipeId =>
    refine ⟨?_, trivial⟩
    unfold World.perform
    dsimp only
    rcases trackSequence_cases world.switch sequenceId recipeId with same | ⟨steady, -, slot, -, after⟩
    · rw [same]
      exact tracked
    · rw [after]
      exact Tracked.of_steady tracked.since steady
  | setSequenceKv sequenceId positionTokens contentHashes =>
    refine ⟨?_, trivial⟩
    unfold World.perform
    dsimp only
    rcases setSequenceKv_cases world.switch sequenceId positionTokens contentHashes with
      ⟨-, same⟩ | ⟨slot, -, unchecked, -, after⟩
    · rw [same]
      exact tracked
    · rw [after]
      refine tracked.edit rfl rfl rfl rfl (List.prefix_refl _) rfl (fun _ => id) ?_ ?_ id id id
      · exact fun atBoundary running inRange => tracked.boundary running slot inRange atBoundary
      · intro _ checkpointed
        exact absurd checkpointed (Bool.eq_false_iff.mp unchecked)
  | sequenceAtBoundary sequenceId =>
    refine ⟨?_, trivial⟩
    unfold World.perform Switch.sequenceAtBoundary
    dsimp only
    cases found : world.switch.findSequence sequenceId with
    | none => exact tracked
    | some slot =>
      obtain ⟨-, live, isId⟩ := findSequence_some found
      dsimp only
      rw [if_pos rfl]
      refine tracked.edit rfl rfl rfl rfl (List.prefix_refl _) rfl (fun _ => .tail _) ?_
        (fun _ checkpointed => ⟨checkpointed, rfl⟩) nofun (fun _ => live) id
      intro _ _ _
      rw [← isId]
      exact .head _
  | sequenceComplete sequenceId reply =>
    refine ⟨?_, trivial⟩
    unfold World.perform World.sequenceComplete
    dsimp only
    cases found : world.switch.findSequence sequenceId with
    | none => exact tracked
    | some slot =>
      dsimp only
      split
      · exact tracked.edit rfl rfl rfl rfl ⟨_, rfl⟩ rfl (fun _ => id) nofun (fun live => absurd rfl live) nofun
          (fun live => absurd rfl live) id
      · exact tracked.edit rfl rfl rfl rfl (List.prefix_refl _) rfl (fun _ => id) nofun
          (fun live => absurd rfl live) nofun (fun live => absurd rfl live) id
  | beginSwitch target =>
    refine ⟨?_, trivial⟩
    unfold World.perform
    dsimp only
    rcases beginSwitch_cases world.switch target with refused | ⟨begun, -, after⟩
    · rw [if_neg refused]
      exact tracked
    · have clean := fresh begun
      rw [if_pos begun, after]
      refine ⟨Nat.le_refl _, fun _ slot inRange atBoundary => ?_, fun _ slot inRange live checkpointed => ?_,
        fun _ past => absurd rfl past, nofun⟩
      · have live : (world.switch.sequences slot).state ≠ .free := by
          rw [show (world.switch.sequences slot).state = .atBoundary from atBoundary]
          exact nofun
        have active := (clean slot inRange live).1
        cases active.symm.trans atBoundary
      · have unchecked := (clean slot inRange live).2
        cases unchecked.symm.trans checkpointed
  | advance replies => exact tracked.advance fresh

end Steps

section Lives

theorem Keeps.refl (world : World) : Keeps world world :=
  ⟨rfl, List.prefix_refl _, rfl, fun _ => ⟨rfl, rfl, id⟩⟩

theorem Keeps.trans (first : Keeps before middle) (second : Keeps middle after) : Keeps before after where
  configuration := second.configuration.trans first.configuration
  calls := first.calls.trans second.calls
  since := second.since.trans first.since
  sequences := fun slot => ⟨(second.sequences slot).1.trans (first.sequences slot).1,
    (second.sequences slot).2.1.trans (first.sequences slot).2.1,
    fun checkpointed => (second.sequences slot).2.2 ((first.sequences slot).2.2 checkpointed)⟩

theorem Keeps.writeManifest (replies : Replies) (world : World) (slot : Nat) :
    Keeps world (world.writeManifest replies slot).2 := by
  obtain ⟨calls, -, ⟨-, stays⟩ | ⟨-, changes, -⟩⟩ := writeManifest_cases replies world slot
  · rw [stays]
    exact { Keeps.refl world with calls := ⟨calls, rfl⟩ }
  · rw [changes]
    exact ⟨rfl, ⟨calls, rfl⟩, rfl, fun other => ⟨setSequence_field world.switch slot _ Sequence.sequenceId (by rfl) other,
      setSequence_field world.switch slot _ Sequence.state (by rfl) other,
      setSequence_keeps (P := fun sequence => sequence.checkpointed = true) world.switch (fun _ => rfl) other⟩⟩

theorem Keeps.checkpointOne (replies : Replies) (world : World) (slot : Nat) :
    Keeps world (world.checkpointOne replies slot).2 := by
  have pins := Progress.pinSequence world replies slot
  have pinned : Keeps world (world.pinSequence replies slot).2 :=
    ⟨pins.configuration, pins.calls, pins.since, fun other =>
      ⟨congrArg Manifest.sequenceId (pins.manifest other), pins.sequenceState other, pins.kept other⟩⟩
  exact andThen_preserves pinned fun _ => pinned.trans (Keeps.writeManifest replies _ slot)

theorem Keeps.checkpointFrom (replies : Replies) (slots : List Nat) (world : World) :
    Keeps world (checkpointFrom replies slots world).2 := by
  obtain ⟨⟨-, kept⟩, -⟩ := checkpointFrom_rule (P := fun _ now => Keeps world now) (Q := fun _ => True)
    (M := fun _ => True) replies (fun _ _ _ _ kept => kept.trans { Keeps.refl _ with }) (fun _ _ _ _ => id)
    (fun _ _ _ kept _ => ⟨kept, trivial⟩)
    (fun slot _ now _ kept _ => ⟨kept.trans (Keeps.checkpointOne replies now slot), fun _ => trivial⟩)
    slots world (fun _ _ => trivial) (Keeps.refl world)
  exact kept

theorem Keeps.checkpointPhase (replies : Replies) (world : World) : Keeps world (world.checkpointPhase replies) := by
  have run := Keeps.checkpointFrom replies (world.switch.slots.drop world.switch.phaseCursor) world
  have swap := (Keeps.swapPhase replies ((world.checkpointRun replies).2.withSwitch
    { (world.checkpointRun replies).2.switch with
      state := .swap
      swapStarted := false })).1
  unfold World.checkpointPhase
  dsimp only
  split
  · exact run
  · exact run.trans { swap with }

theorem Keeps.advance (replies : Replies) (world : World) : Keeps world (world.advance replies) := by
  unfold World.advance
  split
  · rename_i start starts
    have phase := Keeps.checkpointPhase replies start
    unfold World.checkpointStart at starts
    split at starts
    · split at starts
      · cases starts
        exact { phase with }
      · cases starts
    · cases starts
      exact phase
    · cases starts
  · split
    · exact (Keeps.swapPhase replies world).1
    · exact (Keeps.resumePhase replies world).1
    · exact Keeps.refl world

/-- Live sequences have identities of their own. -/
def Distinct (world : World) : Prop :=
  ∀ one < world.switch.configuration.maxSequences, ∀ other < world.switch.configuration.maxSequences,
    (world.switch.sequences one).state ≠ .free → (world.switch.sequences other).state ≠ .free →
    (world.switch.sequences one).sequenceId = (world.switch.sequences other).sequenceId → one = other

theorem findSequence_none {switch : Switch} {sequenceId : UInt64} (missing : switch.findSequence sequenceId = none)
    (inRange : slot < switch.configuration.maxSequences) (live : (switch.sequences slot).state ≠ .free) :
    (switch.sequences slot).sequenceId ≠ sequenceId := by
  intro same
  have failed := List.find?_eq_none.mp missing slot (List.mem_range.mpr inRange)
  rw [same, decide_eq_true live, decide_eq_true rfl] at failed
  exact failed rfl

/-- A live sequence is found by its identity. -/
theorem Distinct.findSequence (distinct : world.Distinct) (inRange : slot < world.switch.configuration.maxSequences)
    (live : (world.switch.sequences slot).state ≠ .free) :
    world.switch.findSequence (world.switch.sequences slot).sequenceId = some slot := by
  cases found : world.switch.findSequence (world.switch.sequences slot).sequenceId with
  | none => exact absurd rfl (findSequence_none found inRange live)
  | some other =>
    obtain ⟨otherInRange, otherLive, same⟩ := findSequence_some found
    rw [distinct other otherInRange slot inRange otherLive live same]

/-- What a step does to the lives of the sequences: it may end some, or start one of a new identity. -/
structure Evolves (before after : World) : Prop where
  configuration : after.switch.configuration = before.switch.configuration
  old : ∀ slot, (before.switch.sequences slot).state ≠ .free → (after.switch.sequences slot).state = .free ∨
    (after.switch.sequences slot).state ≠ .free ∧
      (after.switch.sequences slot).sequenceId = (before.switch.sequences slot).sequenceId ∧
      ((before.switch.sequences slot).checkpointed = true → (after.switch.sequences slot).checkpointed = true)
  new : ∀ slot, (after.switch.sequences slot).state ≠ .free → (before.switch.sequences slot).state = .free →
    before.switch.findSequence (after.switch.sequences slot).sequenceId = none
  single : ∀ one other, (after.switch.sequences one).state ≠ .free → (before.switch.sequences one).state = .free →
    (after.switch.sequences other).state ≠ .free → (before.switch.sequences other).state = .free → one = other

theorem Keeps.evolves (keeps : Keeps before after) : Evolves before after where
  configuration := keeps.configuration
  old := fun slot live => by
    obtain ⟨id, state, checkpointed⟩ := keeps.sequences slot
    rw [state]
    exact .inr ⟨live, id, checkpointed⟩
  new := fun slot live free => by
    rw [(keeps.sequences slot).2.1] at live
    exact absurd free live
  single := fun one _ live free => by
    rw [(keeps.sequences one).2.1] at live
    exact absurd free live

/-- A live sequence changes, or ends. -/
theorem Evolves.edit {sequence : Sequence} (live : (before.switch.sequences slot).state ≠ .free)
    (sequences : after.switch.sequences = update before.switch.sequences slot sequence)
    (configuration : after.switch.configuration = before.switch.configuration)
    (goesOn : sequence.state ≠ .free → sequence.sequenceId = (before.switch.sequences slot).sequenceId ∧
      ((before.switch.sequences slot).checkpointed = true → sequence.checkpointed = true)) :
    Evolves before after := by
  have nothingNew : ∀ other, (after.switch.sequences other).state ≠ .free →
      (before.switch.sequences other).state ≠ .free := by
    intro other otherLive
    rw [sequences] at otherLive
    by_cases here : other = slot
    · rw [here]
      exact live
    · rwa [update_of_ne here] at otherLive
  refine ⟨configuration, fun other otherLive => ?_, fun other otherLive free => absurd free (nothingNew other otherLive),
    fun one _ oneLive free => absurd free (nothingNew one oneLive)⟩
  rw [sequences]
  by_cases here : other = slot
  · subst here
    rw [update_self]
    by_cases ended : sequence.state = .free
    · exact .inl ended
    · exact .inr ⟨ended, goesOn ended⟩
  · rw [update_of_ne here]
    exact .inr ⟨otherLive, rfl, id⟩

theorem Evolves.perform (world : World) (step : Step) : Evolves world (world.perform step) := by
  have same : Evolves world world := (Keeps.refl world).evolves
  cases step with
  | trackSequence sequenceId recipeId =>
    unfold World.perform
    dsimp only
    rcases trackSequence_cases world.switch sequenceId recipeId with unchanged | ⟨-, missing, slot, free, after⟩
    · rw [unchanged]
      exact same
    · rw [after]
      have isNew : ∀ (sequence : Sequence) other,
          (update world.switch.sequences slot sequence other).state ≠ .free →
          (world.switch.sequences other).state = .free → other = slot := by
        intro sequence other live freeBefore
        by_contra different
        rw [update_of_ne different] at live
        exact live freeBefore
      refine ⟨rfl, fun other live => ?_, fun other live freeBefore => ?_, fun one other oneLive oneFree otherLive
        otherFree => (isNew _ one oneLive oneFree).trans (isNew _ other otherLive otherFree).symm⟩
      · refine .inr ?_
        have different : other ≠ slot := by
          rintro rfl
          exact live free
        unfold withSwitch Switch.setSequence
        dsimp only
        rw [update_of_ne different]
        exact ⟨live, rfl, id⟩
      · have here := isNew _ other live freeBefore
        unfold withSwitch Switch.setSequence
        dsimp only
        rw [here, update_self]
        exact missing
  | setSequenceKv sequenceId positionTokens contentHashes =>
    unfold World.perform
    dsimp only
    rcases setSequenceKv_cases world.switch sequenceId positionTokens contentHashes with
      ⟨-, unchanged⟩ | ⟨slot, found, -, -, after⟩
    · rw [unchanged]
      exact same
    · rw [after]
      exact .edit (findSequence_some found).2.1 rfl rfl fun _ => ⟨rfl, id⟩
  | sequenceAtBoundary sequenceId =>
    unfold World.perform Switch.sequenceAtBoundary
    dsimp only
    cases found : world.switch.findSequence sequenceId with
    | none => exact same
    | some slot =>
      dsimp only
      rw [if_pos rfl]
      exact .edit (findSequence_some found).2.1 rfl rfl fun _ => ⟨rfl, id⟩
  | sequenceComplete sequenceId reply =>
    unfold World.perform World.sequenceComplete
    dsimp only
    cases found : world.switch.findSequence sequenceId with
    | none => exact same
    | some slot =>
      dsimp only
      have edited := (findSequence_some found).2.1
      split
      · exact .edit edited rfl rfl fun live => absurd rfl live
      · exact .edit edited rfl rfl fun live => absurd rfl live
  | beginSwitch target =>
    unfold World.perform
    dsimp only
    rcases beginSwitch_cases world.switch target with refused | ⟨begun, -, after⟩
    · rw [if_neg refused]
      exact same
    · rw [if_pos begun, after]
      exact { same with }
  | advance replies => exact (Keeps.advance replies world).evolves

theorem Distinct.evolves (distinct : before.Distinct) (evolves : Evolves before after) : after.Distinct := by
  -- a sequence that was there keeps its identity
  have kept : ∀ slot, (after.switch.sequences slot).state ≠ .free → (before.switch.sequences slot).state ≠ .free →
      (after.switch.sequences slot).sequenceId = (before.switch.sequences slot).sequenceId := by
    intro slot live was
    rcases evolves.old slot was with ended | ⟨-, same, -⟩
    · exact absurd ended live
    · exact same
  intro one oneInRange other otherInRange oneLive otherLive same
  rw [evolves.configuration] at oneInRange otherInRange
  by_cases oneNew : (before.switch.sequences one).state = .free
  · by_cases otherNew : (before.switch.sequences other).state = .free
    · exact evolves.single one other oneLive oneNew otherLive otherNew
    · have missing := evolves.new one oneLive oneNew
      rw [same, kept other otherLive otherNew] at missing
      exact absurd rfl (findSequence_none missing otherInRange otherNew)
  · by_cases otherNew : (before.switch.sequences other).state = .free
    · have missing := evolves.new other otherLive otherNew
      rw [← same, kept one oneLive oneNew] at missing
      exact absurd rfl (findSequence_none missing oneInRange oneNew)
    · rw [kept one oneLive oneNew, kept other otherLive otherNew] at same
      exact distinct one oneInRange other otherInRange oneNew otherNew same

end Lives

section Refusals

/-- `SetSequenceKv` refuses a live sequence, now and as long as it lives. -/
def RefusedForever (world : World) (sequenceId : UInt64) : Prop :=
  (world.switch.findSequence sequenceId).isSome ∧
    ∀ later : List Step, (∀ taken, taken <+: later →
        ((taken.foldl World.perform world).switch.findSequence sequenceId).isSome) →
      ∀ positionTokens contentHashes,
        ((later.foldl World.perform world).switch.setSequenceKv sequenceId positionTokens contentHashes).1 ≠ .ok

/-- A checkpointed sequence that lives on stays checkpointed, in its slot. -/
theorem checkpointed_perform (distinct : world.Distinct) {sequenceId : UInt64}
    (found : world.switch.findSequence sequenceId = some slot)
    (checkpointed : (world.switch.sequences slot).checkpointed = true) (step : Step)
    (lives : ((world.perform step).switch.findSequence sequenceId).isSome) :
    (world.perform step).switch.findSequence sequenceId = some slot ∧
      ((world.perform step).switch.sequences slot).checkpointed = true := by
  have evolves := Evolves.perform world step
  have distinctAfter := distinct.evolves evolves
  obtain ⟨inRange, live, isId⟩ := findSequence_some found
  obtain ⟨other, foundAfter⟩ := Option.isSome_iff_exists.mp lives
  obtain ⟨otherInRange, otherLive, otherId⟩ := findSequence_some foundAfter
  rw [evolves.configuration] at otherInRange
  have same : other = slot := by
    by_cases new : (world.switch.sequences other).state = .free
    · have missing := evolves.new other otherLive new
      rw [otherId, found] at missing
      cases missing
    · rcases evolves.old other new with ended | ⟨-, kept, -⟩
      · exact absurd ended otherLive
      · exact distinct other otherInRange slot inRange new live ((kept.symm.trans otherId).trans isId.symm)
  subst same
  refine ⟨foundAfter, ?_⟩
  rcases evolves.old other live with ended | ⟨-, -, kept⟩
  · exact absurd ended otherLive
  · exact kept checkpointed

/-- What is refused forever is what is checkpointed: no step takes the flag back. -/
theorem refusedForever_iff (distinct : world.Distinct) {sequenceId : UInt64} : world.RefusedForever sequenceId ↔
    ∃ slot, world.switch.findSequence sequenceId = some slot ∧ (world.switch.sequences slot).checkpointed = true := by
  constructor
  · rintro ⟨lives, refused⟩
    obtain ⟨slot, found⟩ := Option.isSome_iff_exists.mp lives
    refine ⟨slot, found, ?_⟩
    by_contra unchecked
    have alone : ∀ taken : List Step, taken <+: [] →
        ((taken.foldl World.perform world).switch.findSequence sequenceId).isSome := by
      intro taken within
      rw [List.prefix_nil.mp within]
      exact lives
    refine refused [] alone 0 [] ?_
    unfold Switch.setSequenceKv
    rw [List.foldl_nil, List.length_nil, if_neg (Nat.not_lt_zero _), found]
    dsimp only
    rw [if_neg unchecked]
  · rintro ⟨slot, found, checkpointed⟩
    refine ⟨Option.isSome_iff_exists.mpr ⟨slot, found⟩, fun later lives positionTokens contentHashes => ?_⟩
    induction later generalizing world with
    | nil =>
      rw [List.foldl_nil]
      unfold Switch.setSequenceKv
      split
      · exact nofun
      · rw [found]
        dsimp only
        rw [if_pos checkpointed]
        exact nofun
    | cons step rest ih =>
      have first := lives [step] (List.prefix_append [step] rest)
      obtain ⟨foundAfter, checkpointedAfter⟩ := checkpointed_perform distinct found checkpointed step first
      exact ih (distinct.evolves (Evolves.perform world step)) foundAfter checkpointedAfter
        fun taken within => lives (step :: taken) ((List.prefix_cons_inj step).mpr within)

end Refusals

section Flags

/-- A call of `Advance` that checkpoints finds no live sequence. -/
def Idle (world : World) : Step → Prop
  | .advance _ => world.checkpointStart.isSome →
      ∀ slot < world.switch.configuration.maxSequences, (world.switch.sequences slot).state = .free
  | _ => True

/-- No live sequence is checkpointed. -/
def Unflagged (world : World) : Prop :=
  ∀ slot < world.switch.configuration.maxSequences, (world.switch.sequences slot).state ≠ .free →
    (world.switch.sequences slot).checkpointed = false

/-- Free slots are passed over. -/
theorem checkpointFrom_free (replies : Replies) (slots : List Nat) (world : World)
    (free : ∀ slot ∈ slots, (world.switch.sequences slot).state = .free) :
    (checkpointFrom replies slots world).1 = true ∧
      (checkpointFrom replies slots world).2.switch.sequences = world.switch.sequences := by
  induction slots generalizing world with
  | nil => exact ⟨rfl, rfl⟩
  | cons slot rest ih =>
    unfold checkpointFrom
    dsimp only
    rw [if_pos (Or.inl (free slot List.mem_cons_self))]
    exact ih (world.withSwitch { world.switch with phaseCursor := slot + 1 })
      fun other member => free other (.tail _ member)

theorem swapPhase_flags (replies : Replies) (world : World) (slot : Nat) :
    ((world.swapPhase replies).switch.sequences slot).checkpointed =
      (world.switch.sequences slot).checkpointed := by
  unfold swapPhase
  split
  · rfl
  dsimp only
  split
  · rfl
  split
  · rfl
  · obtain ⟨-, -, -, sequences⟩ := resumeFrom_spec replies (world.switch.slots.drop 0)
      (world.withSwitch { world.switch with
        swapStarted := true
        state := .resume
        phaseCursor := 0 })
    exact (sequences slot).2.2

/-- When no sequence is live, the `CHECKPOINT` phase comes to its end. -/
theorem checkpointPhase_free (replies : Replies) (world : World)
    (free : ∀ slot < world.switch.configuration.maxSequences, (world.switch.sequences slot).state = .free) :
    (world.checkpointPhase replies).switch.state ≠ .checkpoint ∧
      ∀ slot, ((world.checkpointPhase replies).switch.sequences slot).checkpointed =
        (world.switch.sequences slot).checkpointed := by
  obtain ⟨finished, sequences⟩ := checkpointFrom_free replies (world.switch.slots.drop world.switch.phaseCursor) world
    fun slot member => free slot (mem_drop_range.mp member).2
  change (world.checkpointRun replies).1 = true at finished
  change (world.checkpointRun replies).2.switch.sequences = _ at sequences
  unfold checkpointPhase
  dsimp only
  rw [finished, if_neg (by decide)]
  generalize (world.checkpointRun replies).2 = ran at sequences ⊢
  constructor
  · obtain ⟨-, steady | ⟨state, -⟩⟩ := Keeps.swapPhase replies (ran.withSwitch { ran.switch with
      state := .swap
      swapStarted := false })
    · rw [steady]
      exact nofun
    · rw [state]
      exact nofun
  · intro slot
    rw [swapPhase_flags]
    exact congrArg Sequence.checkpointed (congrFun sequences slot)

/-- A step that checkpoints nothing sets no flag. -/
theorem Unflagged.perform (unflagged : world.Unflagged) (step : Step) (idle : world.Idle step) :
    (world.perform step).Unflagged := by
  have edited : ∀ (slot : Nat) (sequence : Sequence), (sequence.state ≠ .free → sequence.checkpointed = false) →
      ∀ other < world.switch.configuration.maxSequences,
        (update world.switch.sequences slot sequence other).state ≠ .free →
          (update world.switch.sequences slot sequence other).checkpointed = false := by
    intro slot sequence unchecked other inRange live
    by_cases here : other = slot
    · rw [here, update_self] at live ⊢
      exact unchecked live
    · rw [update_of_ne here] at live ⊢
      exact unflagged other inRange live
  cases step with
  | trackSequence sequenceId recipeId =>
    unfold World.perform
    dsimp only
    rcases trackSequence_cases world.switch sequenceId recipeId with unchanged | ⟨-, -, slot, -, after⟩
    · rw [unchanged]
      exact unflagged
    · rw [after]
      exact edited slot _ fun _ => rfl
  | setSequenceKv sequenceId positionTokens contentHashes =>
    unfold World.perform
    dsimp only
    rcases setSequenceKv_cases world.switch sequenceId positionTokens contentHashes with
      ⟨-, unchanged⟩ | ⟨slot, -, unchecked, -, after⟩
    · rw [unchanged]
      exact unflagged
    · rw [after]
      exact edited slot _ fun _ => unchecked
  | sequenceAtBoundary sequenceId =>
    unfold World.perform Switch.sequenceAtBoundary
    dsimp only
    cases found : world.switch.findSequence sequenceId with
    | none => exact unflagged
    | some slot =>
      obtain ⟨inRange, live, -⟩ := findSequence_some found
      dsimp only
      rw [if_pos rfl]
      exact edited slot _ fun _ => unflagged slot inRange live
  | sequenceComplete sequenceId reply =>
    unfold World.perform World.sequenceComplete
    dsimp only
    cases found : world.switch.findSequence sequenceId with
    | none => exact unflagged
    | some slot =>
      dsimp only
      split
      · exact edited slot _ fun live => absurd rfl live
      · exact edited slot _ fun live => absurd rfl live
  | beginSwitch target =>
    unfold World.perform
    dsimp only
    rcases beginSwitch_cases world.switch target with refused | ⟨begun, -, after⟩
    · rw [if_neg refused]
      exact unflagged
    · rw [if_pos begun, after]
      exact unflagged
  | advance replies =>
    have keeps := Keeps.advance replies world
    have same : ∀ slot, ((world.advance replies).switch.sequences slot).checkpointed =
        (world.switch.sequences slot).checkpointed := by
      unfold World.advance
      cases starts : world.checkpointStart with
      | some start =>
        have free := idle (by rw [starts]; rfl)
        have begins : start.switch.configuration = world.switch.configuration ∧
            start.switch.sequences = world.switch.sequences := by
          unfold World.checkpointStart at starts
          split at starts
          · split at starts
            · cases starts
              exact ⟨rfl, rfl⟩
            · cases starts
          · cases starts
            exact ⟨rfl, rfl⟩
          · cases starts
        rw [← begins.1, ← begins.2] at free
        intro slot
        dsimp only
        rw [(checkpointPhase_free replies start free).2 slot, begins.2]
      | none =>
        intro slot
        dsimp only
        split
        · exact swapPhase_flags replies world slot
        · obtain ⟨-, -, -, sequences⟩ := resumeFrom_spec replies
            (world.switch.slots.drop world.switch.phaseCursor) world
          exact (sequences slot).2.2
        · rfl
    intro slot inRange live
    change slot < (world.advance replies).switch.configuration.maxSequences at inRange
    change ((world.advance replies).switch.sequences slot).state ≠ .free at live
    change ((world.advance replies).switch.sequences slot).checkpointed = false
    rw [keeps.configuration] at inRange
    rw [(keeps.sequences slot).2.1] at live
    rw [same]
    exact unflagged slot inRange live

/-- Completing the sequences of some slots frees the slots. -/
theorem completions_free (ids : Nat → UInt64) (slots : List Nat) (world : World) (distinct : world.Distinct)
    (same : ∀ slot, (world.switch.sequences slot).sequenceId = ids slot) :
    ((slots.map fun slot => Step.sequenceComplete (ids slot) fun _ => .ok).foldl perform world).switch.state =
        world.switch.state ∧
      ((slots.map fun slot => Step.sequenceComplete (ids slot) fun _ => .ok).foldl perform world).switch.configuration =
        world.switch.configuration ∧
      ∀ slot < world.switch.configuration.maxSequences, slot ∈ slots ∨ (world.switch.sequences slot).state = .free →
        (((slots.map fun slot => Step.sequenceComplete (ids slot) fun _ => .ok).foldl perform world).switch.sequences
          slot).state = .free := by
  induction slots generalizing world with
  | nil => exact ⟨rfl, rfl, fun slot _ free => free.resolve_left List.not_mem_nil⟩
  | cons slot rest ih =>
    rw [List.map_cons, List.foldl_cons]
    have distinctAfter := distinct.evolves (Evolves.perform world (.sequenceComplete (ids slot) fun _ => .ok))
    have one : (world.perform (.sequenceComplete (ids slot) fun _ => .ok)).switch.state = world.switch.state ∧
        (world.perform (.sequenceComplete (ids slot) fun _ => .ok)).switch.configuration =
          world.switch.configuration ∧
        (∀ other, ((world.perform (.sequenceComplete (ids slot) fun _ => .ok)).switch.sequences other).sequenceId =
          ids other) ∧
        ∀ other < world.switch.configuration.maxSequences,
          other = slot ∨ (world.switch.sequences other).state = .free →
          ((world.perform (.sequenceComplete (ids slot) fun _ => .ok)).switch.sequences other).state = .free := by
      unfold World.perform World.sequenceComplete
      dsimp only
      cases found : world.switch.findSequence (ids slot) with
      | none =>
        refine ⟨rfl, rfl, same, fun other inRange free => ?_⟩
        rcases free with rfl | free
        · by_contra live
          exact findSequence_none found inRange live (same other)
        · exact free
      | some place =>
        have frees : (∀ other, ((update world.switch.sequences place
              { world.switch.sequences place with state := .free, resumeClass := .pending, keys := [] })
                other).sequenceId = ids other) ∧
            ∀ other < world.switch.configuration.maxSequences,
              other = slot ∨ (world.switch.sequences other).state = .free →
              ((update world.switch.sequences place
                { world.switch.sequences place with state := .free, resumeClass := .pending, keys := [] })
                  other).state = .free := by
          refine ⟨fun other => ?_, fun other inRange free => ?_⟩
          · by_cases here : other = place
            · rw [here, update_self]
              exact same place
            · rw [update_of_ne here]
              exact same other
          · by_cases here : other = place
            · rw [here, update_self]
            · rw [update_of_ne here]
              rcases free with rfl | free
              · by_contra live
                have isFound := distinct.findSequence inRange live
                rw [same, found] at isFound
                exact here (Option.some.inj isFound).symm
              · exact free
        obtain ⟨kept, free⟩ := frees
        dsimp only
        split
        · exact ⟨rfl, rfl, kept, free⟩
        · exact ⟨rfl, rfl, kept, free⟩
    obtain ⟨state, configuration, sameAfter, free⟩ := one
    obtain ⟨lastState, lastConfiguration, lastFree⟩ := ih _ distinctAfter sameAfter
    rw [configuration] at lastFree
    refine ⟨lastState.trans state, lastConfiguration.trans configuration, fun other inRange isFree => ?_⟩
    refine lastFree other inRange ?_
    rcases isFree with member | isFree
    · rcases List.mem_cons.mp member with rfl | inside
      · exact .inr (free other inRange (.inl rfl))
      · exact .inl inside
    · exact .inr (free other inRange (.inr isFree))

/-- Whatever the tier answers, a switch leaves `CHECKPOINT` once its sequences have completed. -/
theorem leaves_checkpoint (distinct : world.Distinct) (checkpoint : world.switch.state = .checkpoint)
    (replies : Replies) : ∃ completions : List Step,
      ((completions.foldl perform world).advance replies).switch.state ≠ .checkpoint := by
  obtain ⟨state, configuration, free⟩ := completions_free (fun slot => (world.switch.sequences slot).sequenceId)
    world.switch.slots world distinct fun _ => rfl
  refine ⟨world.switch.slots.map fun slot => .sequenceComplete (world.switch.sequences slot).sequenceId fun _ => .ok,
    ?_⟩
  generalize (world.switch.slots.map _).foldl perform world = empty at state configuration free ⊢
  have starts : empty.checkpointStart = some empty := by
    unfold checkpointStart
    rw [state, checkpoint]
  unfold advance
  rw [starts]
  refine (checkpointPhase_free replies empty fun slot inRange => ?_).1
  rw [configuration] at inRange
  exact free slot inRange (.inl (List.mem_range.mpr inRange))

end Flags

section Runs

instance (world : World) (step : Step) : Decidable (world.Fresh step) :=
  match step with
  | .beginSwitch target => inferInstanceAs (Decidable ((world.switch.beginSwitch target).1 = .ok →
      ∀ slot < world.switch.configuration.maxSequences, (world.switch.sequences slot).state ≠ .free →
        (world.switch.sequences slot).state = .active ∧ (world.switch.sequences slot).checkpointed = false))
  | .advance replies => inferInstanceAs (Decidable
      (∀ slot < world.switch.configuration.maxSequences, replies.alreadyPresent slot = false))
  | .trackSequence .. | .setSequenceKv .. | .sequenceAtBoundary _ | .sequenceComplete .. => .isTrue trivial

variable {configuration : Configuration} {start : World}

theorem initializeSwitch_free (accepted : initializeSwitch configuration = .ok start) :
    start.Tracked ∧ start.Distinct ∧ start.Unflagged := by
  unfold initializeSwitch at accepted
  split at accepted
  · cases accepted
  · cases accepted
    exact ⟨Tracked.of_steady (Nat.le_refl _) rfl, fun _ _ _ _ live => absurd rfl live, fun _ _ _ => rfl⟩

/-- Switches that begin with fresh sequences are complete; where nothing is checkpointed, no sequence
is refused forever; and a switch can always leave `CHECKPOINT`. -/
theorem run_switches (accepted : initializeSwitch configuration = .ok start) (steps : List Step) :
    (Along perform Fresh steps start → Along perform SwapsComplete steps start) ∧
      (Along perform Idle steps start → ∀ taken, taken <+: steps → ∀ sequenceId,
        ¬ (taken.foldl perform start).RefusedForever sequenceId) ∧
      ∀ taken, taken <+: steps → (taken.foldl perform start).switch.state = .checkpoint → ∀ replies,
        ∃ completions : List Step,
          ((completions.foldl perform (taken.foldl perform start)).advance replies).switch.state ≠ .checkpoint := by
  obtain ⟨tracked, distinct, unflagged⟩ := initializeSwitch_free accepted
  have always : ∀ taken : List Step, (taken.foldl perform start).Distinct := by
    intro taken
    exact (Along.of_forall fun (_ : World) (_ : Step) => trivial).foldl (P := Distinct)
      (fun world step distinct _ => distinct.evolves (Evolves.perform world step)) distinct
  refine ⟨fun fresh => ?_, ?_, ?_⟩
  · exact fresh.map (P := Tracked) (fun _ step tracked fresh => (tracked.perform step fresh).1)
      (fun _ step tracked fresh => (tracked.perform step fresh).2) tracked
  · rintro idle taken ⟨later, rfl⟩ sequenceId refused
    have ended := idle.append.1.foldl (P := Unflagged) (fun _ step unflagged idle => unflagged.perform step idle)
      unflagged
    obtain ⟨slot, found, checkpointed⟩ := (refusedForever_iff (always taken)).mp refused
    obtain ⟨inRange, live, -⟩ := findSequence_some found
    rw [ended slot inRange live] at checkpointed
    cases checkpointed
  · exact fun taken _ checkpoint replies => leaves_checkpoint (always taken) checkpoint replies

/-- Two sequences at most, of four blocks at most. -/
def small : Configuration where
  kvNamespace := 14695981039346656037
  maxSequences := 2
  maxBlocksPerSequence := 4
  initialRecipe := 11

/-- One sequence goes through a switch to another recipe. -/
def switchOnce : List Step :=
  [.trackSequence 1 11, .setSequenceKv 1 5 [7], .beginSwitch 22, .sequenceAtBoundary 1, .advance {}]

/-- The switch of a sequence that lives through it, and then the switch back. -/
def switchBack : List Step := switchOnce ++ [.beginSwitch 11, .advance {}]

/-- The world of a new switch. -/
def started : World where
  switch :=
    { configuration := small
      currentRecipe := 11
      targetRecipe := 11 }

theorem switchOnce_complete : Along perform SwapsComplete switchOnce started :=
  (run_switches (show initializeSwitch small = .ok started from rfl) switchOnce).1 (by decide +kernel)

/-- The switch back swaps without a boundary and without a manifest. -/
theorem switchBack_incomplete : ¬ ∀ (configuration : Configuration) (start : World) (steps : List Step),
    initializeSwitch configuration = .ok start →
      Along perform SwapsComplete steps start ∧ ∀ taken, taken <+: steps → ∀ sequenceId,
        ¬ (taken.foldl perform start).RefusedForever sequenceId := by
  intro complete
  obtain ⟨along, -⟩ := complete small started switchBack rfl
  have last := along.2.2.2.2.2.2.1
  have boundary := (last _ rfl (by decide +kernel) 0 (by decide) (by decide +kernel)).1
  revert boundary
  decide +kernel

end Runs

end World

end Sparkpipe.TopologySwitch
