import Sparkpipe.Cache.Prefix.Prompt
import Sparkpipe.Cache.Prefix.Records

/-!
# Reservations and their bindings

`Marked` ties the marks of a reservation together: a binding stands where its
entry does; a binding on a pending entry was acquired in the epoch that reserved
the entry; a pending entry cannot be reused; and the entry `CommitPrompt` holds is
not pending. An entry becomes pending only when it is installed, and then nothing
is bound to it yet.
-/

namespace Sparkpipe.PrefixCache

open Function

/-- The marks of entries and of the bindings on them agree. -/
structure Marked (config : Configuration) (held : Option Nat) (cache : Cache) : Prop where
  placed : ∀ i < config.sequenceBindingCount, (cache.bindings i).valid = true →
    (cache.bindings i).firstTokenIndex =
      (cache.entries (cache.bindings i).entryIndex).firstTokenIndex
  reserver : ∀ i < config.sequenceBindingCount, (cache.bindings i).valid = true →
    (cache.entries (cache.bindings i).entryIndex).flags.pending = true →
    (cache.bindings i).acquireEpoch =
      (cache.entries (cache.bindings i).entryIndex).reservationEpoch
  unusable : ∀ e < config.entryCount, (cache.entries e).flags.valid = true →
    (cache.entries e).flags.pending = true → (cache.entries e).flags.reusable = false
  heldSettled : ∀ e, held = some e → (cache.entries e).flags.pending = false

/-- A pending entry that the sequence is not bound to yet was reserved in the epoch. -/
def OwnReservation (config : Configuration) (cache : Cache) (sequenceId : UInt64) (index : Nat)
    (operationEpoch : UInt64) : Prop :=
  (cache.entries index).flags.pending = true →
    findBindingAtTokenOffset config cache sequenceId (cache.entries index).firstTokenIndex = none →
    (cache.entries index).reservationEpoch = operationEpoch

theorem ownReservation_settled {config : Configuration} {cache : Cache} {index : Nat}
    (settled : (cache.entries index).flags.pending = false) (sequenceId operationEpoch : UInt64) :
    OwnReservation config cache sequenceId index operationEpoch := by
  intro pending
  rw [settled] at pending
  cases pending

variable {config : Configuration} {held : Option Nat} {cache after : Cache}

namespace Marked

/-- The part of an entry that `Marked` reads. -/
structure SameMarks (before after : Entry) : Prop where
  firstTokenIndex : after.firstTokenIndex = before.firstTokenIndex
  flags : after.flags = before.flags
  reservationEpoch : after.reservationEpoch = before.reservationEpoch

/-- The part of a binding that `Marked` reads. -/
structure SameBinding (before after : Binding) : Prop where
  valid : after.valid = before.valid
  entryIndex : after.entryIndex = before.entryIndex
  firstTokenIndex : after.firstTokenIndex = before.firstTokenIndex
  acquireEpoch : after.acquireEpoch = before.acquireEpoch

theorem sameMarks_unfiled {before after : Entry} (same : after.unfiled = before.unfiled) :
    SameMarks before after := by
  obtain ⟨flags, key, -, epoch⟩ := Entry.of_unfiled same
  exact ⟨congrArg BlockKey.firstTokenIndex key, flags, epoch⟩

theorem sameMarks_refl (entry : Entry) : SameMarks entry entry := ⟨rfl, rfl, rfl⟩

theorem sameBinding_unlinked {before after : Binding} (same : after.unlinked = before.unlinked) :
    SameBinding before after := by
  have valid := congrArg Binding.valid same
  have entryIndex := congrArg Binding.entryIndex same
  have firstTokenIndex := congrArg Binding.firstTokenIndex same
  have acquireEpoch := congrArg Binding.acquireEpoch same
  exact ⟨valid, entryIndex, firstTokenIndex, acquireEpoch⟩

theorem sameBinding_unmarked {before after : Binding} (same : after.unmarked = before.unmarked) :
    SameBinding before after := by
  have valid := congrArg Binding.valid same
  have entryIndex := congrArg Binding.entryIndex same
  have firstTokenIndex := congrArg Binding.firstTokenIndex same
  have acquireEpoch := congrArg Binding.acquireEpoch same
  exact ⟨valid, entryIndex, firstTokenIndex, acquireEpoch⟩

/-- The entries after a write of one entry's references. -/
theorem sameMarks_references {entries : Nat → Entry} {index references : Nat} (e : Nat) :
    SameMarks (entries e) (update entries index
      { entries index with referenceCount := references } e) := by
  by_cases here : e = index
  · subst here
    rw [update_self]
    exact ⟨rfl, rfl, rfl⟩
  · rw [update_of_ne here]
    exact sameMarks_refl _

section

variable (marked : Marked config held cache)
include marked

/-- Rewriting an entry that nothing is bound to and that is not held. -/
theorem rewrite {index : Nat}
    (others : ∀ e ≠ index, SameMarks (cache.entries e) (after.entries e))
    (bindings : after.bindings = cache.bindings)
    (unbound : ∀ i < config.sequenceBindingCount, (cache.bindings i).valid = true →
      (cache.bindings i).entryIndex ≠ index)
    (notHeld : held ≠ some index)
    (unusable : (after.entries index).flags.valid = true →
      (after.entries index).flags.pending = true → (after.entries index).flags.reusable = false) :
    Marked config held after := by
  refine ⟨fun i inRange valid => ?_, fun i inRange valid pending => ?_, fun e inRange valid pending => ?_,
    fun e holds => ?_⟩
  · rw [bindings] at valid ⊢
    have same := others _ (unbound i inRange valid)
    rw [same.firstTokenIndex]
    exact marked.placed i inRange valid
  · rw [bindings] at valid pending ⊢
    have same := others _ (unbound i inRange valid)
    rw [same.flags] at pending
    rw [same.reservationEpoch]
    exact marked.reserver i inRange valid pending
  · by_cases here : e = index
    · subst here
      exact unusable valid pending
    · have same := others e here
      rw [same.flags] at valid pending ⊢
      exact marked.unusable e inRange valid pending
  · have other : e ≠ index := by
      rintro rfl
      exact notHeld holds
    rw [(others e other).flags]
    exact marked.heldSettled e holds

/-- Every entry and every valid binding keeps its marks. -/
theorem keep (entries : ∀ e, SameMarks (cache.entries e) (after.entries e))
    (bindings : ∀ i, (after.bindings i).valid = true →
      SameBinding (cache.bindings i) (after.bindings i)) : Marked config held after := by
  refine ⟨fun i inRange valid => ?_, fun i inRange valid pending => ?_, fun e inRange valid pending => ?_,
    fun e holds => ?_⟩
  · have same := bindings i valid
    rw [same.entryIndex, same.firstTokenIndex, (entries _).firstTokenIndex]
    exact marked.placed i inRange (same.valid.symm.trans valid)
  · have same := bindings i valid
    rw [same.entryIndex, (entries _).flags] at pending
    rw [same.entryIndex, same.acquireEpoch, (entries _).reservationEpoch]
    exact marked.reserver i inRange (same.valid.symm.trans valid) pending
  · rw [(entries e).flags] at valid pending ⊢
    exact marked.unusable e inRange valid pending
  · rw [(entries e).flags]
    exact marked.heldSettled e holds

/-- Writes that begin no reservation. -/
theorem settle (counts : after.counts = cache.counts)
    (filing : after.filing = cache.filing) (marks : SettlesMarks cache after) :
    Marked config held after := by
  have validEntry : ∀ e, (after.entries e).flags.valid = (cache.entries e).flags.valid :=
    congrFun (congrArg Counts.entryValid counts)
  have first : ∀ e, (after.entries e).firstTokenIndex = (cache.entries e).firstTokenIndex :=
    fun e => congrArg BlockKey.firstTokenIndex (congrFun (congrArg Filing.key filing) e)
  have validBinding : ∀ i, (after.bindings i).valid = (cache.bindings i).valid :=
    congrFun (congrArg Counts.bindingValid counts)
  have entryIndex : ∀ i, (after.bindings i).entryIndex = (cache.bindings i).entryIndex :=
    congrFun (congrArg Counts.bindingEntry counts)
  have place : ∀ i, (after.bindings i).firstTokenIndex = (cache.bindings i).firstTokenIndex :=
    congrFun (congrArg Counts.firstTokenIndex counts)
  refine ⟨fun i inRange valid => ?_, fun i inRange valid pending => ?_, fun e inRange valid pending => ?_,
    fun e holds => ?_⟩
  · rw [place, entryIndex, first]
    exact marked.placed i inRange ((validBinding i).symm.trans valid)
  · rw [entryIndex] at pending ⊢
    obtain ⟨before, sameEpoch, -⟩ := marks.entries _ pending
    rw [marks.epochs, sameEpoch]
    exact marked.reserver i inRange ((validBinding i).symm.trans valid) before
  · obtain ⟨before, -, reusable⟩ := marks.entries e pending
    have was := marked.unusable e inRange ((validEntry e).symm.trans valid) before
    cases now : (after.entries e).flags.reusable with
    | false => rfl
    | true => exact absurd (reusable now) (by simp [was])
  · cases now : (after.entries e).flags.pending with
    | false => rfl
    | true =>
      obtain ⟨before, -, -⟩ := marks.entries e now
      exact absurd before (by simp [marked.heldSettled e holds])

theorem install (counted : Counted config held cache.counts)
    (index : Nat) {install : Installation}
    (fresh : install.flags.pending = true → install.flags.reusable = false) :
    Marked config held (installEntry config cache index install).2 := by
  have bindings := installEntry_bindings config cache index install
  rcases installEntry_entries config cache index install with ⟨-, kept⟩ | ⟨succeeded, kept, written⟩
  · exact marked.keep (fun e => sameMarks_unfiled (kept e)) fun i _ => by
      rw [bindings]
      exact ⟨rfl, rfl, rfl, rfl⟩
  · have unreferenced : Counted.Unreferenced cache.counts index := by
      rcases installEntry_cases config cache index install with ⟨failed, -⟩ | ⟨-, _, installed⟩
      · exact absurd succeeded failed
      · exact installed.unreferenced
    refine marked.rewrite (fun e other => sameMarks_unfiled (kept e other)) bindings
      (fun i inRange valid => counted.not_bound unreferenced inRange valid)
      (counted.not_held unreferenced) fun _ pending => ?_
    rw [written.flags] at pending ⊢
    exact fresh pending

theorem invalidate (counted : Counted config held cache.counts)
    (index : Nat) : Marked config held (invalidateEntry config cache index).2 := by
  have bindings := invalidateEntry_bindings config cache index
  obtain ⟨kept, same | cleared⟩ := invalidateEntry_entries config cache index
  · refine marked.keep (fun e => ?_) fun i _ => by
      rw [bindings]
      exact ⟨rfl, rfl, rfl, rfl⟩
    by_cases here : e = index
    · subst here
      exact sameMarks_unfiled same
    · exact sameMarks_unfiled (kept e here)
  · rcases invalidateEntry_cases config cache index with
      ⟨-, abandoned⟩ | ⟨unchanged, -⟩ | ⟨-, invalidated⟩
    · -- a failed call keeps the entry valid, and it was cleared
      have validSame : ((invalidateEntry config cache index).2.entries index).flags.valid =
          (cache.entries index).flags.valid :=
        congrFun (congrArg Counts.entryValid abandoned.counts) index
      have free : (cache.entries index).flags.valid = false := by
        rw [← validSame, cleared]
      have unreferenced : Counted.Unreferenced cache.counts index := by
        intro valid
        change (cache.entries index).flags.valid = true at valid
        rw [free] at valid
        cases valid
      refine marked.rewrite (fun e other => sameMarks_unfiled (kept e other)) bindings
        (fun i inRange valid => counted.not_bound unreferenced inRange valid)
        (counted.not_held unreferenced) fun valid => ?_
      rw [cleared] at valid
      cases valid
    · rw [unchanged]
      exact marked
    · have unreferenced : Counted.Unreferenced cache.counts index := fun _ =>
        invalidated.unreferenced
      refine marked.rewrite (fun e other => sameMarks_unfiled (kept e other)) bindings
        (fun i inRange valid => counted.not_bound unreferenced inRange valid)
        (counted.not_held unreferenced) fun valid => ?_
      rw [cleared] at valid
      cases valid

/-- Only the call that reserved a pending entry binds it. -/
theorem acquire {sequenceId operationEpoch : UInt64}
    {index : Nat} (pending : Bool) (own : OwnReservation config cache sequenceId index operationEpoch) :
    Marked config held
      (acquireEntryForSequence config cache sequenceId index operationEpoch pending).2 := by
  rcases acquireEntryForSequence_records config cache sequenceId index operationEpoch pending with
    ⟨sameEntries, sameBindings, -⟩ | ⟨-, entries, missing, binding, -, others, bound⟩
  · refine marked.keep (fun e => ?_) fun i _ => sameBinding_unmarked (sameBindings i)
    rw [sameEntries]
    exact sameMarks_refl _
  · have kept : ∀ e, SameMarks (cache.entries e) ((acquireEntryForSequence config cache sequenceId
        index operationEpoch pending).2.entries e) := by
      intro e
      rw [entries]
      exact sameMarks_references e
    have boundEntry := congrArg Binding.entryIndex bound
    have boundPlace := congrArg Binding.firstTokenIndex bound
    have boundEpoch := congrArg Binding.acquireEpoch bound
    change _ = index at boundEntry
    change _ = (cache.entries index).firstTokenIndex at boundPlace
    change _ = operationEpoch at boundEpoch
    refine ⟨fun i inRange valid => ?_, fun i inRange valid isPending => ?_, fun e inRange valid isPending => ?_,
      fun e holds => ?_⟩
    · rw [(kept _).firstTokenIndex]
      by_cases new : i = binding
      · subst new
        exact boundPlace.trans (congrArg (fun e => (cache.entries e).firstTokenIndex)
          boundEntry).symm
      · rw [others i new] at valid ⊢
        exact marked.placed i inRange valid
    · rw [(kept _).flags] at isPending
      rw [(kept _).reservationEpoch]
      by_cases new : i = binding
      · subst new
        have here : (cache.entries index).flags.pending = true :=
          (congrArg (fun e => (cache.entries e).flags.pending) boundEntry).symm.trans isPending
        have epoch := own here missing
        exact (boundEpoch.trans epoch.symm).trans
          (congrArg (fun e => (cache.entries e).reservationEpoch) boundEntry).symm
      · rw [others i new] at valid isPending ⊢
        exact marked.reserver i inRange valid isPending
    · rw [(kept e).flags] at valid isPending ⊢
      exact marked.unusable e inRange valid isPending
    · rw [(kept e).flags]
      exact marked.heldSettled e holds

theorem release (index : Nat) :
    Marked config held (releaseBinding config cache index).2 := by
  rcases releaseBinding_records config cache index with
    ⟨sameEntries, sameBindings⟩ | ⟨-, entries, others, gone⟩
  · refine marked.keep (fun e => ?_) fun i _ => sameBinding_unlinked (sameBindings i)
    rw [sameEntries]
    exact sameMarks_refl _
  · refine marked.keep (fun e => ?_) fun i valid => ?_
    · rw [entries]
      exact sameMarks_references e
    · have other : i ≠ index := by
        rintro rfl
        rw [gone] at valid
        cases valid
      exact sameBinding_unlinked (others i other)

/-- Growing a binding and its entry begins no reservation. -/
theorem extend (binding index : Nat) :
    Marked config held (extendTail config cache binding index) := by
  have entries : ∀ e, (cache.entries e).firstTokenIndex =
        ((extendTail config cache binding index).entries e).firstTokenIndex ∧
      (cache.entries e).flags.valid = ((extendTail config cache binding index).entries e).flags.valid ∧
      (cache.entries e).flags.pending =
        ((extendTail config cache binding index).entries e).flags.pending ∧
      (cache.entries e).reservationEpoch =
        ((extendTail config cache binding index).entries e).reservationEpoch ∧
      (((extendTail config cache binding index).entries e).flags.reusable = true →
        (cache.entries e).flags.reusable = true) := by
    intro e
    by_cases here : e = index
    · subst here
      simp [extendTail, modifyEntry, modifyBinding]
    · simp [extendTail, modifyEntry, modifyBinding, update_of_ne here]
  have bindings : ∀ i, SameBinding (cache.bindings i)
      ((extendTail config cache binding index).bindings i) := by
    intro i
    by_cases here : i = binding
    · subst here
      simp only [extendTail, modifyEntry, modifyBinding, update_self]
      exact ⟨rfl, rfl, rfl, rfl⟩
    · simp only [extendTail, modifyEntry, modifyBinding, update_of_ne here]
      exact ⟨rfl, rfl, rfl, rfl⟩
  refine ⟨fun i inRange valid => ?_, fun i inRange valid pending => ?_, fun e inRange valid pending => ?_,
    fun e holds => ?_⟩
  · have same := bindings i
    rw [same.entryIndex, same.firstTokenIndex, ← (entries _).1]
    exact marked.placed i inRange (same.valid.symm.trans valid)
  · have same := bindings i
    rw [same.entryIndex, ← (entries _).2.2.1] at pending
    rw [same.entryIndex, same.acquireEpoch, ← (entries _).2.2.2.1]
    exact marked.reserver i inRange (same.valid.symm.trans valid) pending
  · rw [← (entries e).2.1] at valid
    rw [← (entries e).2.2.1] at pending
    have was := marked.unusable e inRange valid pending
    cases now : ((extendTail config cache binding index).entries e).flags.reusable with
    | false => rfl
    | true => exact absurd ((entries e).2.2.2.2 now) (by simp [was])
  · rw [← (entries e).2.2.1]
    exact marked.heldSettled e holds

end

/-- `CommitPrompt` holds a committed entry. -/
theorem hold (marked : Marked config none cache) {index : Nat}
    (settled : (cache.entries index).flags.pending = false) :
    Marked config (some index) (holdEntry cache index) := by
  have kept : Marked config none (holdEntry cache index) :=
    marked.keep sameMarks_references fun _ _ => ⟨rfl, rfl, rfl, rfl⟩
  refine ⟨kept.placed, kept.reserver, kept.unusable, fun e holds => ?_⟩
  cases holds
  simpa [holdEntry, modifyEntry] using settled

theorem unhold {index : Nat} (marked : Marked config (some index) cache) :
    Marked config none (unholdEntry cache index) := by
  have kept : Marked config (some index) (unholdEntry cache index) :=
    marked.keep sameMarks_references fun _ _ => ⟨rfl, rfl, rfl, rfl⟩
  exact ⟨kept.placed, kept.reserver, kept.unusable, fun _ absurdity => by cases absurdity⟩

/-- The marks do not depend on the arena. -/
theorem congr_arena (marked : Marked config held cache) (arena : KvCache.Arena) :
    Marked config held { cache with arena := arena } :=
  ⟨marked.placed, marked.reserver, marked.unusable, marked.heldSettled⟩

end Marked

end Sparkpipe.PrefixCache
