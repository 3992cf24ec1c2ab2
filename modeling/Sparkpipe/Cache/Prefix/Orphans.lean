import Sparkpipe.Cache.Prefix.Reclaim

/-!
# Pending entries that nothing refers to

A pending entry that nothing refers to can never be reclaimed: it is not
evictable, and commit, cancel and release reach entries through bindings. Only two
internal operations make such an orphan, installing a reservation and releasing a
binding. A release is followed by the invalidation of what it orphaned, so a
rollback ends without orphans if it finds every one there is.
-/

namespace Sparkpipe.PrefixCache

open Function
open Sparkpipe.KvCache (Layout Arena)

/-- A pending entry that nothing refers to. -/
structure Orphan (config : Configuration) (cache : Cache) (e : Nat) : Prop where
  inRange : e < config.entryCount
  valid : (cache.entries e).flags.valid = true
  pending : (cache.entries e).flags.pending = true
  unreferenced : (cache.entries e).referenceCount = 0

/-- Every orphan was one before, reserved in the same epoch. -/
def NoNewOrphan (config : Configuration) (before after : Cache) : Prop :=
  ∀ e, Orphan config after e →
    Orphan config before e ∧ (after.entries e).reservationEpoch = (before.entries e).reservationEpoch

/-- There is no orphan. -/
def Clean (config : Configuration) (cache : Cache) : Prop := ∀ e, ¬ Orphan config cache e

/-- Every orphan was reserved in the epoch. -/
def OrphansOf (config : Configuration) (operationEpoch : UInt64) (cache : Cache) : Prop :=
  ∀ e, Orphan config cache e → (cache.entries e).reservationEpoch = operationEpoch

variable {config : Configuration} {held : Option Nat} {cache before after : Cache}
variable {mode : Mode} {operationEpoch : UInt64}

section Orphans

theorem Clean.orphansOf (clean : Clean config cache) : OrphansOf config operationEpoch cache :=
  fun e orphan => absurd orphan (clean e)

theorem Clean.later (clean : Clean config before) (noNew : NoNewOrphan config before after) :
    Clean config after := fun e orphan => clean e (noNew e orphan).1

theorem NoNewOrphan.refl (cache : Cache) : NoNewOrphan config cache cache :=
  fun _ orphan => ⟨orphan, rfl⟩

theorem NoNewOrphan.trans {first second third : Cache} (one : NoNewOrphan config first second)
    (two : NoNewOrphan config second third) : NoNewOrphan config first third := by
  intro e orphan
  obtain ⟨middle, sameSecond⟩ := two e orphan
  obtain ⟨earlier, sameFirst⟩ := one e middle
  exact ⟨earlier, sameSecond.trans sameFirst⟩

/-- An entry that keeps its marks and its references. -/
theorem Orphan.of_unfiled {e : Nat} (orphan : Orphan config after e)
    (same : (after.entries e).unfiled = (before.entries e).unfiled) :
    Orphan config before e ∧
      (after.entries e).reservationEpoch = (before.entries e).reservationEpoch := by
  obtain ⟨flags, -, references, epoch⟩ := Entry.of_unfiled same
  refine ⟨⟨orphan.inRange, ?_, ?_, ?_⟩, epoch⟩
  · rw [← flags]
    exact orphan.valid
  · rw [← flags]
    exact orphan.pending
  · rw [← references]
    exact orphan.unreferenced

/-- Raising the references of an entry makes no orphan. -/
theorem noNewOrphan_gain {index : Nat} (entries : after.entries = update before.entries index
    { before.entries index with referenceCount := (before.entries index).referenceCount + 1 }) :
    NoNewOrphan config before after := by
  intro e orphan
  have different : e ≠ index := by
    rintro rfl
    have unreferenced := orphan.unreferenced
    rw [entries, update_self] at unreferenced
    cases unreferenced
  refine orphan.of_unfiled ?_
  rw [entries, update_of_ne different]

theorem noNewOrphan_settle (settled : Settled config before after) :
    NoNewOrphan config before after := by
  intro e orphan
  obtain ⟨pending, epoch, -⟩ := settled.marks.entries e orphan.pending
  have valid := congrFun (congrArg Counts.entryValid settled.counts) e
  have references := congrFun (congrArg Counts.referenceCount settled.counts) e
  exact ⟨⟨orphan.inRange, valid.symm.trans orphan.valid, pending,
    references.symm.trans orphan.unreferenced⟩, epoch⟩

theorem noNewOrphan_invalidate (config : Configuration) (cache : Cache) (index : Nat) :
    NoNewOrphan config cache (invalidateEntry config cache index).2 := by
  intro e orphan
  obtain ⟨others, same | cleared⟩ := invalidateEntry_entries config cache index
  · by_cases here : e = index
    · subst here
      exact orphan.of_unfiled same
    · exact orphan.of_unfiled (others e here)
  · have different : e ≠ index := by
      rintro rfl
      have valid := orphan.valid
      rw [cleared] at valid
      cases valid
    exact orphan.of_unfiled (others e different)

/-- Installing makes at most the new entry an orphan. -/
theorem orphan_install {index e : Nat} {install : Installation}
    (orphan : Orphan config (installEntry config cache index install).2 e) :
    (Orphan config cache e ∧
        ((installEntry config cache index install).2.entries e).reservationEpoch =
          (cache.entries e).reservationEpoch) ∨
      (e = index ∧ (installEntry config cache index install).1 = .ok ∧
        install.flags.pending = true ∧
        ((installEntry config cache index install).2.entries e).reservationEpoch =
          install.operationEpoch) := by
  rcases installEntry_entries config cache index install with ⟨-, kept⟩ | ⟨succeeded, kept, written⟩
  · exact .inl (orphan.of_unfiled (kept e))
  · by_cases here : e = index
    · subst here
      have pending := orphan.pending
      rw [written.flags] at pending
      exact .inr ⟨rfl, succeeded, pending, written.reservationEpoch⟩
    · exact .inl (orphan.of_unfiled (kept e here))

theorem noNewOrphan_acquire (config : Configuration) (cache : Cache) (sequenceId : UInt64)
    (index : Nat) (operationEpoch : UInt64) (pending : Bool) :
    NoNewOrphan config cache
      (acquireEntryForSequence config cache sequenceId index operationEpoch pending).2 := by
  rcases acquireEntryForSequence_records config cache sequenceId index operationEpoch pending with
    ⟨same, -, -⟩ | ⟨-, entries, -, -⟩
  · intro e orphan
    refine orphan.of_unfiled ?_
    rw [same]
  · exact noNewOrphan_gain entries

theorem noNewOrphan_extend (config : Configuration) (cache : Cache) (binding index : Nat) :
    NoNewOrphan config cache (extendTail config cache binding index) := by
  have kept : ∀ e, ((extendTail config cache binding index).entries e).flags.valid =
        (cache.entries e).flags.valid ∧
      ((extendTail config cache binding index).entries e).flags.pending =
        (cache.entries e).flags.pending ∧
      ((extendTail config cache binding index).entries e).referenceCount =
        (cache.entries e).referenceCount ∧
      ((extendTail config cache binding index).entries e).reservationEpoch =
        (cache.entries e).reservationEpoch := by
    intro e
    by_cases here : e = index
    · subst here
      simp [extendTail, modifyEntry, modifyBinding]
    · simp [extendTail, modifyEntry, modifyBinding, update_of_ne here]
  intro e orphan
  obtain ⟨valid, pending, references, epoch⟩ := kept e
  exact ⟨⟨orphan.inRange, valid.symm.trans orphan.valid, pending.symm.trans orphan.pending,
    references.symm.trans orphan.unreferenced⟩, epoch⟩

/-- A gentle operation makes no orphan. -/
theorem noNewOrphan_step {exclusive : Prop} {before after : Option Nat × Cache}
    (sound : Sound config exclusive before.1 before.2) (gentle : mode.gentle)
    (step : Step config mode before after) : NoNewOrphan config before.2 after.2 := by
  cases step with
  | settle settled _ => exact noNewOrphan_settle settled
  | install index install _ calm _ _ =>
    intro e orphan
    rcases orphan_install orphan with earlier | ⟨-, -, pending, -⟩
    · exact earlier
    · rw [calm gentle] at pending
      cases pending
  | invalidate index => exact noNewOrphan_invalidate _ _ index
  | acquire sequenceId index operationEpoch pending _ _ => exact noNewOrphan_acquire _ _ _ _ _ _
  | release index loud => exact absurd gentle loud
  | extend binding index _ => exact noNewOrphan_extend _ _ _ _
  | @hold cache index _ _ _ _ =>
    obtain ⟨arena, middle⟩ := retainLogicalBlock_arena config cache
      (cache.entries index).logicalBlockIndex
    dsimp only
    rw [middle]
    exact noNewOrphan_gain rfl
  | @unhold cache index =>
    obtain ⟨arena, left⟩ := releaseLogicalBlockReference_arena config (unholdEntry cache index)
      ((unholdEntry cache index).entries index).logicalBlockIndex
    intro e orphan
    dsimp only at orphan ⊢
    rw [left] at orphan ⊢
    have different : e ≠ index := by
      rintro rfl
      have pending := orphan.pending
      simp only [unholdEntry, modifyEntry, update_self] at pending
      rw [sound.marked.heldSettled e rfl] at pending
      cases pending
    refine orphan.of_unfiled ?_
    simp only [unholdEntry, modifyEntry, update_of_ne different]

/-- A gentle run makes no orphan. -/
theorem noNewOrphan_reached {exclusive : Prop} {before after : Option Nat × Cache}
    (sound : Sound config exclusive before.1 before.2) (known : mode.sound) (gentle : mode.gentle)
    (reached : Reached config exclusive mode before after) :
    NoNewOrphan config before.2 after.2 := by
  obtain ⟨steps, -⟩ := reached
  have along : Sound config exclusive after.1 after.2 ∧ NoNewOrphan config before.2 after.2 := by
    induction steps with
    | refl => exact ⟨sound, .refl before.2⟩
    | tail _ last ih => exact ⟨ih.1.step known last, ih.2.trans (noNewOrphan_step ih.1 gentle last)⟩
  exact along.2

end Orphans

section Rollback

section

variable (kept : Kept config (held, cache))
include kept

/-- Releasing a binding orphans at most the entry it was on, and only one of its own epoch. -/
theorem orphan_release {index e : Nat}
    (orphan : Orphan config (releaseBinding config cache index).2 e) :
    (Orphan config cache e ∧ ((releaseBinding config cache index).2.entries e).reservationEpoch =
        (cache.entries e).reservationEpoch) ∨
      (e = (cache.bindings index).entryIndex ∧
        ((releaseBinding config cache index).2.entries e).reservationEpoch =
          (cache.bindings index).acquireEpoch) := by
  rcases kept.sound.linked.releaseBinding index with ⟨unchanged, -⟩ | ⟨-, released⟩
  · rw [unchanged] at orphan ⊢
    exact .inl ⟨orphan, rfl⟩
  · rcases releaseBinding_records config cache index with ⟨same, -⟩ | ⟨-, entries, -, -⟩
    · refine .inl (orphan.of_unfiled ?_)
      rw [same]
    · by_cases here : e = (cache.bindings index).entryIndex
      · subst here
        have pending := orphan.pending
        rw [entries, update_self] at pending
        refine .inr ⟨rfl, ?_⟩
        rw [entries, update_self]
        exact (kept.sound.marked.reserver index released.inRange released.valid pending).symm
      · refine .inl (orphan.of_unfiled ?_)
        rw [entries, update_of_ne here]

/-- An orphan can be invalidated, and is then gone. -/
theorem not_orphan_invalidate {index : Nat}
    (unreferenced : (cache.entries index).flags.valid = true →
      (cache.entries index).referenceCount = 0) :
    ¬ Orphan config (invalidateEntry config cache index).2 index := by
  intro orphan
  obtain ⟨earlier, -⟩ := noNewOrphan_invalidate config cache index index orphan
  have succeeded := kept.invalidateEntry_ok earlier.inRange unreferenced
  rcases invalidateEntry_cases config cache index with ⟨failed, -⟩ | ⟨-, free⟩ | ⟨-, invalidated⟩
  · exact failed succeeded
  · exact Bool.noConfusion (free.symm.trans earlier.valid)
  · have gone := congrFun (congrArg Counts.entryValid invalidated.counts) index
    have valid := gone.symm.trans orphan.valid
    simp at valid

theorem Kept.releaseThenInvalidate {unwanted : Entry → Bool}
    {entryIndex : Nat} (index : Nat) :
    Kept config (held, (andThen (releaseBinding config cache index) fun after =>
      if unwanted (after.entries entryIndex) then invalidateEntry config after entryIndex
      else (.ok, after)).2) :=
  kept.reached Mode.filed_orderly
    ((Reached.refl kept.sound).releaseThenInvalidate id index)

/-- One visit of a walk along a sequence chain: the binding is released, and its entry with it if
that was the last reference to a reservation. -/
theorem clean_releaseThenInvalidate (clean : Clean config cache)
    {index : Nat} {unwanted : Entry → Bool}
    (unwantedOrphan : ∀ after, Kept config (held, after) → ∀ e, Orphan config after e →
      (after.entries e).reservationEpoch = (cache.bindings index).acquireEpoch →
      unwanted (after.entries e) = true)
    (unwantedUnreferenced : ∀ entry, unwanted entry = true → entry.referenceCount = 0) :
    Clean config (andThen (releaseBinding config cache index) fun after =>
      if unwanted (after.entries (cache.bindings index).entryIndex) then
        invalidateEntry config after (cache.bindings index).entryIndex
      else (.ok, after)).2 := by
  have released : Kept config (held, (releaseBinding config cache index).2) :=
    kept.step Mode.filed_orderly (.release index id)
  have only : ∀ e, Orphan config (releaseBinding config cache index).2 e →
      e = (cache.bindings index).entryIndex ∧
        unwanted ((releaseBinding config cache index).2.entries e) = true := by
    intro e orphan
    rcases orphan_release kept orphan with ⟨earlier, -⟩ | ⟨here, epoch⟩
    · exact absurd earlier (clean e)
    · exact ⟨here, unwantedOrphan _ released e orphan epoch⟩
  by_cases succeeded : (releaseBinding config cache index).1 = .ok
  · rw [andThen_ok succeeded]
    split
    · rename_i isUnwanted
      intro e orphan
      obtain ⟨rfl, -⟩ := only e (noNewOrphan_invalidate config _ _ e orphan).1
      exact not_orphan_invalidate released (fun _ => unwantedUnreferenced _ isUnwanted) orphan
    · rename_i wanted
      intro e orphan
      obtain ⟨rfl, isUnwanted⟩ := only e orphan
      exact wanted isUnwanted
  · rw [andThen_failed succeeded]
    rcases kept.sound.linked.releaseBinding index with ⟨unchanged, -⟩ | ⟨released, -⟩
    · rw [unchanged]
      exact clean
    · exact absurd released succeeded

/-- The sweeps of a cache without binding buckets: the selected bindings are released, then the
unwanted entries invalidated. `Q` is what the epochs of the orphans have in common. -/
theorem clean_releaseAndSweep {selected : Binding → Bool} {unwanted : Entry → Bool}
    {Q : UInt64 → Prop} (orphans : ∀ e, Orphan config cache e → Q (cache.entries e).reservationEpoch)
    (selectedEpoch : ∀ binding, selected binding = true → Q binding.acquireEpoch)
    (unwantedOrphan : ∀ after, Kept config (held, after) → ∀ e, Orphan config after e →
      Q (after.entries e).reservationEpoch → unwanted (after.entries e) = true)
    (unwantedUnreferenced : ∀ entry, unwanted entry = true → entry.referenceCount = 0) :
    Clean config (andThen (forEach (fun index now =>
        if selected (now.bindings index) then releaseBinding config now index else (.ok, now))
      (List.range config.sequenceBindingCount) cache) fun now =>
      forEach (fun index now =>
          if unwanted (now.entries index) then invalidateEntry config now index else (.ok, now))
        (List.range config.entryCount) now).2 := by
  have released : (forEach (fun index now =>
        if selected (now.bindings index) then releaseBinding config now index else (.ok, now))
      (List.range config.sequenceBindingCount) cache).1 = .ok ∧ _ :=
    forEach_range_ok (P := fun _ now => Kept config (held, now) ∧
      ∀ e, Orphan config now e → Q (now.entries e).reservationEpoch)
      (fun index inRange now holds => ?_) ⟨kept, orphans⟩
  · obtain ⟨succeeded, keptStill, orphansStill⟩ := released
    rw [andThen_ok succeeded]
    revert keptStill orphansStill
    generalize (forEach _ (List.range config.sequenceBindingCount) cache).2 = middle
    intro keptStill orphansStill
    have swept : (forEach (fun index now =>
          if unwanted (now.entries index) then invalidateEntry config now index else (.ok, now))
        (List.range config.entryCount) middle).1 = .ok ∧ _ :=
      forEach_range_ok (P := fun index now => Kept config (held, now) ∧
        (∀ e, Orphan config now e → Q (now.entries e).reservationEpoch) ∧
        ∀ e, Orphan config now e → index ≤ e)
        (fun index inRange now holds => ?_) ⟨keptStill, orphansStill, fun _ _ => Nat.zero_le _⟩
    · intro e orphan
      exact Nat.not_lt.mpr (swept.2.2.2 e orphan) orphan.inRange
    · obtain ⟨keptNow, epochs, beyond⟩ := holds
      split
      · rename_i isUnwanted
        have unreferenced := unwantedUnreferenced _ isUnwanted
        have noNew := noNewOrphan_invalidate config now index
        refine ⟨keptNow.invalidateEntry_ok inRange fun _ => unreferenced,
          keptNow.step Mode.filed_orderly (.invalidate index),
          fun e orphan => ?_, fun e orphan => ?_⟩
        · rw [(noNew e orphan).2]
          exact epochs e (noNew e orphan).1
        · have here := beyond e (noNew e orphan).1
          have different : e ≠ index := by
            rintro rfl
            exact not_orphan_invalidate keptNow (fun _ => unreferenced) orphan
          omega
      · rename_i wanted
        refine ⟨rfl, keptNow, epochs, fun e orphan => ?_⟩
        have here := beyond e orphan
        have different : e ≠ index := by
          rintro rfl
          exact wanted (unwantedOrphan now keptNow e orphan (epochs e orphan))
        omega
  · obtain ⟨keptNow, epochs⟩ := holds
    split
    · rename_i isSelected
      refine ⟨keptNow.releaseBinding_ok inRange,
        keptNow.step Mode.filed_orderly (.release index id), fun e orphan => ?_⟩
      rcases orphan_release keptNow orphan with ⟨earlier, same⟩ | ⟨-, epoch⟩
      · rw [same]
        exact epochs e earlier
      · rw [epoch]
        exact selectedEpoch _ isSelected
    · exact ⟨rfl, keptNow, epochs⟩

/-- A rollback reclaims what was reserved in its epoch: without binding buckets wherever it is, with
them only what is bound. -/
theorem clean_rollbackEpoch (sequenceId : UInt64)
    (orphans : OrphansOf config operationEpoch cache)
    (bound : config.bindingHashBucketCount ≠ 0 → Clean config cache) :
    Clean config (rollbackEpoch config cache sequenceId operationEpoch).2 := by
  have abandoned : ∀ (after : Cache) (e : Nat), Orphan config after e →
      (after.entries e).reservationEpoch = operationEpoch →
      entryIsAbandoned operationEpoch (after.entries e) = true := by
    intro after e orphan epoch
    simp [entryIsAbandoned, orphan.valid, orphan.pending, orphan.unreferenced, epoch]
  have unreferenced : ∀ entry, entryIsAbandoned operationEpoch entry = true →
      entry.referenceCount = 0 := by
    intro entry isAbandoned
    simp only [entryIsAbandoned, Bool.and_eq_true, beq_iff_eq] at isAbandoned
    exact isAbandoned.2
  have ofEpoch : ∀ binding, bindingIsOfEpoch sequenceId operationEpoch binding = true →
      binding.acquireEpoch = operationEpoch := by
    intro binding selected
    simp only [bindingIsOfEpoch, Bool.and_eq_true, beq_iff_eq] at selected
    exact selected.2
  unfold rollbackEpoch
  split
  · rename_i indexed
    refine And.right (walkSequence_preserves
      (P := fun now => Kept config (held, now) ∧ Clean config now) (fun index now holds => ?_)
      ⟨kept, bound indexed⟩)
    obtain ⟨keptNow, cleanNow⟩ := holds
    dsimp only
    split
    · rename_i selected
      refine ⟨keptNow.releaseThenInvalidate index, clean_releaseThenInvalidate keptNow cleanNow
        (fun after _ e orphan epoch => abandoned after e orphan ?_) unreferenced⟩
      exact epoch.trans (ofEpoch _ selected)
    · exact ⟨keptNow, cleanNow⟩
  · exact clean_releaseAndSweep (Q := (· = operationEpoch)) kept orphans ofEpoch
      (fun after _ e orphan => abandoned after e orphan) unreferenced

end

/-- What a call may leave to its rollback. -/
structure Undoable (config : Configuration) (operationEpoch : UInt64)
    (result : SparkStatus × Cache) : Prop where
  clean : result.1 = .ok ∨ config.bindingHashBucketCount ≠ 0 → Clean config result.2
  orphans : OrphansOf config operationEpoch result.2

theorem Clean.undoable {result : SparkStatus × Cache} (clean : Clean config result.2) :
    Undoable config operationEpoch result := ⟨fun _ => clean, clean.orphansOf⟩

/-- A call that fails rolls its epoch back. -/
theorem clean_rollbackUnlessOk {result : SparkStatus × Cache} (kept : Kept config (held, result.2))
    (sequenceId : UInt64) (undoable : Undoable config operationEpoch result) :
    Clean config (rollbackUnlessOk config sequenceId operationEpoch result).2 := by
  unfold rollbackUnlessOk
  split
  · rename_i succeeded
    exact undoable.clean (.inl succeeded)
  · exact clean_rollbackEpoch kept sequenceId undoable.orphans fun indexed =>
      undoable.clean (.inr indexed)

/-- Releasing a sequence reclaims every reservation it was the last to refer to. -/
theorem clean_releaseSequence (kept : Kept config (held, cache)) (clean : Clean config cache)
    (sequenceId : UInt64) : Clean config (releaseSequence config cache sequenceId).2 := by
  have unwanted : ∀ (after : Cache), Kept config (held, after) → ∀ e, Orphan config after e →
      entryIsUnwanted (after.entries e) = true := by
    intro after keptAfter e orphan
    have unusable := keptAfter.sound.marked.unusable e orphan.inRange orphan.valid orphan.pending
    dsimp only at unusable
    simp [entryIsUnwanted, orphan.valid, orphan.unreferenced, unusable]
  have unreferenced : ∀ entry, entryIsUnwanted entry = true → entry.referenceCount = 0 := by
    intro entry isUnwanted
    simp only [entryIsUnwanted, Bool.and_eq_true, beq_iff_eq] at isUnwanted
    exact isUnwanted.2
  unfold releaseSequence
  split
  · exact clean
  · split
    · exact clean
    · split
      · refine And.right (walkSequence_preserves
          (P := fun now => Kept config (held, now) ∧ Clean config now) (fun index now holds => ?_)
          ⟨kept, clean⟩)
        obtain ⟨keptNow, cleanNow⟩ := holds
        dsimp only
        split
        · exact ⟨keptNow.releaseThenInvalidate index, clean_releaseThenInvalidate keptNow cleanNow
            (fun after keptAfter e orphan _ => unwanted after keptAfter e orphan) unreferenced⟩
        · exact ⟨keptNow, cleanNow⟩
      · exact clean_releaseAndSweep (Q := fun _ => True) kept (fun _ _ => trivial)
          (fun _ _ => trivial) (fun after keptAfter e orphan _ => unwanted after keptAfter e orphan)
          unreferenced

end Rollback

end Sparkpipe.PrefixCache
