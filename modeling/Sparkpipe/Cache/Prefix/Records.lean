import Sparkpipe.Cache.Prefix.Counted

/-!
# What the operations write in the records

The views of the invariants forget most of a record. Where a call reads back what
it wrote itself, the records are needed whole: an entry up to its bucket link,
which any other entry's removal may redirect, and a binding up to its chain links.
-/

namespace Sparkpipe.PrefixCache

open Function Sparkpipe.Chain

variable {config : Configuration} {cache : Cache}

/-- An entry without its bucket link. -/
def Entry.unfiled (entry : Entry) : Entry := { entry with hashNext := none }

theorem Entry.of_unfiled {one other : Entry} (same : one.unfiled = other.unfiled) :
    one.flags = other.flags ∧ one.key = other.key ∧ one.referenceCount = other.referenceCount ∧
      one.reservationEpoch = other.reservationEpoch := by
  have flags := congrArg Entry.flags same
  have key := congrArg Entry.key same
  have references := congrArg Entry.referenceCount same
  have epoch := congrArg Entry.reservationEpoch same
  exact ⟨flags, key, references, epoch⟩

/-- A binding without its chain links. -/
def Binding.unlinked (binding : Binding) : Binding :=
  { binding with lookupHashNext := none, sequenceHashNext := none }

/-- A binding without its mark of a pending reservation. -/
def Binding.unmarked (binding : Binding) : Binding := { binding with pending := false }

/-- What `installEntry` writes into an entry, apart from its block and its use. -/
structure Written (install : Installation) (entry : Entry) : Prop where
  flags : entry.flags = { install.flags with valid := true }
  key : entry.key = install.key
  referenceCount : entry.referenceCount = 0
  reservationEpoch : entry.reservationEpoch = install.operationEpoch
  contentDigest : entry.contentDigest = install.contentDigest

section Filing

theorem spliceEntries_unfiled (cache : Cache) (previous after : Option Nat) (i : Nat) :
    (spliceEntries cache previous after i).unfiled = (cache.entries i).unfiled :=
  spliceEntries_field Entry.unfiled (fun _ _ => rfl) previous after i

theorem unlinkEntry_unfiled (config : Configuration) (cache : Cache) (index i : Nat) :
    ((unlinkEntry config cache index).2.entries i).unfiled = (cache.entries i).unfiled := by
  unfold unlinkEntry
  split
  · rfl
  · split
    · rfl
    · dsimp only
      split
      · rfl
      · rename_i previous _
        by_cases here : i = index
        · subst here
          simp only [update_self]
          exact spliceEntries_unfiled cache previous _ i
        · simp only [update_of_ne here]
          exact spliceEntries_unfiled cache previous _ i

theorem linkEntry_unfiled (config : Configuration) (cache : Cache) (index i : Nat) :
    ((linkEntry config cache index).entries i).unfiled = (cache.entries i).unfiled := by
  unfold linkEntry
  split
  · rfl
  · dsimp only
    refine entries_update_field Entry.unfiled ?_ i
    rfl

theorem unlinkEntry_bindings (config : Configuration) (cache : Cache) (index : Nat) :
    (unlinkEntry config cache index).2.bindings = cache.bindings := by
  unfold unlinkEntry
  split
  · rfl
  · split
    · rfl
    · dsimp only
      split <;> rfl

end Filing

section Install

theorem writeEntry_other (cache : Cache) (index : Nat) (install : Installation)
    (block : Option Nat) {i : Nat} (other : i ≠ index) :
    ((writeEntry config cache index install block).entries i).unfiled =
      (cache.entries i).unfiled := by
  unfold writeEntry
  dsimp only
  rw [linkEntry_unfiled]
  simp only [touchEntry, modifyEntry, update_of_ne other]

theorem writeEntry_written (cache : Cache) (index : Nat) (install : Installation)
    (block : Option Nat) :
    Written install ((writeEntry config cache index install block).entries index) := by
  have unfiled : ((writeEntry config cache index install block).entries index).unfiled = _ :=
    linkEntry_unfiled config (touchEntry config (modifyEntry cache index _) index) index index
  simp only [touchEntry, modifyEntry, update_self] at unfiled
  exact ⟨congrArg Entry.flags unfiled, congrArg Entry.key unfiled,
    congrArg Entry.referenceCount unfiled, congrArg Entry.reservationEpoch unfiled,
    congrArg Entry.contentDigest unfiled⟩

theorem writeEntry_bindings (cache : Cache) (index : Nat) (install : Installation)
    (block : Option Nat) :
    (writeEntry config cache index install block).bindings = cache.bindings := by
  unfold writeEntry linkEntry
  dsimp only
  split <;> rfl

theorem installEntry_bindings (config : Configuration) (cache : Cache) (index : Nat)
    (install : Installation) :
    (installEntry config cache index install).2.bindings = cache.bindings := by
  have recycled := recycleLogicalBlock_arena config cache (cache.entries index).logicalBlockIndex
  unfold installEntry
  dsimp only
  split
  · rfl
  · split
    · split
      · rfl
      · obtain ⟨arena, left⟩ := recycled
        refine andThen_preserves (P := fun after : Cache => after.bindings = cache.bindings)
          (by rw [left]) fun _ => ?_
        rw [left]
        refine andThen_preserves (P := fun after : Cache => after.bindings = cache.bindings)
          (unlinkEntry_bindings _ _ _) fun _ => ?_
        exact (writeEntry_bindings _ _ _ _).trans (unlinkEntry_bindings _ _ _)
    · split
      · rfl
      · split
        · rw [acquireLogicalBlock_arena]
        · rw [acquireLogicalBlock_arena]
          exact writeEntry_bindings _ _ _ _

/-- Installing writes the chosen entry and no other; a failure writes none. -/
theorem installEntry_entries (config : Configuration) (cache : Cache) (index : Nat)
    (install : Installation) :
    ((installEntry config cache index install).1 ≠ .ok ∧
        ∀ i, ((installEntry config cache index install).2.entries i).unfiled =
          (cache.entries i).unfiled) ∨
      ((installEntry config cache index install).1 = .ok ∧
        (∀ i ≠ index, ((installEntry config cache index install).2.entries i).unfiled =
          (cache.entries i).unfiled) ∧
        Written install ((installEntry config cache index install).2.entries index)) := by
  unfold installEntry
  dsimp only
  split
  · exact Or.inl ⟨by simp, fun _ => rfl⟩
  · split
    · split
      · exact Or.inl ⟨by simp, fun _ => rfl⟩
      · obtain ⟨arena, left⟩ := recycleLogicalBlock_arena config cache
          (cache.entries index).logicalBlockIndex
        by_cases recycled : (recycleLogicalBlock config cache
            (cache.entries index).logicalBlockIndex).1 = .ok
        · rw [andThen_ok recycled, left]
          have kept := unlinkEntry_unfiled config { cache with arena := arena } index
          by_cases unlinked : (unlinkEntry config { cache with arena := arena } index).1 = .ok
          · rw [andThen_ok unlinked]
            exact .inr ⟨rfl, fun i other => (writeEntry_other _ _ _ _ other).trans (kept i),
              writeEntry_written _ _ _ _⟩
          · rw [andThen_failed unlinked]
            exact .inl ⟨unlinked, kept⟩
        · rw [andThen_failed recycled]
          exact Or.inl ⟨recycled, fun i => by rw [left]⟩
    · split
      · exact Or.inl ⟨by simp, fun _ => rfl⟩
      · split
        · rename_i failed
          refine .inl ⟨failed, fun i => ?_⟩
          rw [acquireLogicalBlock_failed failed]
        · refine .inr ⟨rfl, fun i other => ?_, writeEntry_written _ _ _ _⟩
          rw [acquireLogicalBlock_arena]
          exact writeEntry_other _ _ _ _ other

end Install

section Invalidate

/-- Invalidating clears the chosen entry and no other; a failure clears none. -/
theorem invalidateEntry_entries (config : Configuration) (cache : Cache) (index : Nat) :
    (∀ i ≠ index, ((invalidateEntry config cache index).2.entries i).unfiled =
        (cache.entries i).unfiled) ∧
      (((invalidateEntry config cache index).2.entries index).unfiled =
          (cache.entries index).unfiled ∨
        ((invalidateEntry config cache index).2.entries index).flags = {}) := by
  unfold invalidateEntry
  dsimp only
  split
  · exact ⟨fun _ _ => rfl, .inl rfl⟩
  · split
    · exact ⟨fun _ _ => rfl, .inl rfl⟩
    · split
      · exact ⟨fun _ _ => rfl, .inl rfl⟩
      · obtain ⟨arena, left⟩ :=
          freeEntryBlock_arena config cache (cache.entries index).logicalBlockIndex
        by_cases freed : (freeEntryBlock config cache
            (cache.entries index).logicalBlockIndex).1 = .ok
        · rw [andThen_ok freed, left]
          have kept := unlinkEntry_unfiled config { cache with arena := arena } index
          by_cases unlinked : (unlinkEntry config { cache with arena := arena } index).1 = .ok
          · rw [andThen_ok unlinked]
            refine ⟨fun i other => ?_, .inr ?_⟩
            · simp only [retireEntry, modifyEntry, update_of_ne other]
              exact kept i
            · simp only [retireEntry, modifyEntry, update_self]
          · rw [andThen_failed unlinked]
            exact ⟨fun i _ => kept i, .inl (kept index)⟩
        · rw [andThen_failed freed, left]
          exact ⟨fun _ _ => rfl, .inl rfl⟩

theorem invalidateEntry_bindings (config : Configuration) (cache : Cache) (index : Nat) :
    (invalidateEntry config cache index).2.bindings = cache.bindings := by
  unfold invalidateEntry
  dsimp only
  split
  · rfl
  · split
    · rfl
    · split
      · rfl
      · obtain ⟨arena, left⟩ :=
          freeEntryBlock_arena config cache (cache.entries index).logicalBlockIndex
        refine andThen_preserves (P := fun after : Cache => after.bindings = cache.bindings)
          (by rw [left]) fun _ => ?_
        rw [left]
        exact andThen_preserves (P := fun after : Cache => after.bindings = cache.bindings)
          (unlinkEntry_bindings _ _ _) fun _ => unlinkEntry_bindings _ _ _

end Invalidate

section Acquire

/-- Acquiring an entry that is bound already at most marks the binding; otherwise it fails, or
adds one binding and one reference. -/
theorem acquireEntryForSequence_records (config : Configuration) (cache : Cache)
    (sequenceId : UInt64) (index : Nat) (operationEpoch : UInt64) (pending : Bool) :
    let acquired := acquireEntryForSequence config cache sequenceId index operationEpoch pending
    (acquired.2.entries = cache.entries ∧
      (∀ i, (acquired.2.bindings i).unmarked = (cache.bindings i).unmarked) ∧
      (findBindingAtTokenOffset config cache sequenceId (cache.entries index).firstTokenIndex = none →
        acquired.1 ≠ .ok)) ∨
    (acquired.1 = .ok ∧
      acquired.2.entries = update cache.entries index
        { cache.entries index with referenceCount := (cache.entries index).referenceCount + 1 } ∧
      findBindingAtTokenOffset config cache sequenceId (cache.entries index).firstTokenIndex = none ∧
      ∃ binding, findFreeBinding config cache = some binding ∧
        (∀ i ≠ binding, acquired.2.bindings i = cache.bindings i) ∧
        (acquired.2.bindings binding).unlinked = (boundTo (cache.entries index) index sequenceId
          operationEpoch pending (cache.bindings binding)).unlinked) := by
  dsimp only
  unfold acquireEntryForSequence
  split
  · exact Or.inl ⟨rfl, fun _ => rfl, fun _ => by simp⟩
  · split
    · rename_i existing found
      have bound : ∀ {P : Prop}, findBindingAtTokenOffset config cache sequenceId
          (cache.entries index).firstTokenIndex = none → P := by
        intro P missing
        rw [found] at missing
        cases missing
      split
      · exact .inl ⟨rfl, fun _ => rfl, bound⟩
      · split
        · refine .inl ⟨rfl, fun i => ?_, bound⟩
          refine bindings_update_field Binding.unmarked ?_ i
          rfl
        · exact .inl ⟨rfl, fun _ => rfl, bound⟩
    · rename_i missing
      split
      · exact Or.inl ⟨rfl, fun _ => rfl, fun _ => by simp⟩
      · rename_i binding found
        obtain ⟨arena, middle⟩ := retainLogicalBlock_arena config cache
          (cache.entries index).logicalBlockIndex
        by_cases retained : (retainLogicalBlock config cache
            (cache.entries index).logicalBlockIndex).1 = .ok
        · rw [andThen_ok retained, middle]
          refine .inr ⟨rfl, ?_, missing, binding, found, fun i other => ?_, ?_⟩
          · simp only [writeBinding, modifyEntry, linkBinding_entries, modifyBinding]
          · simp only [writeBinding, modifyEntry, linkBinding, modifyBinding]
            split
            · exact update_of_ne other _ _
            · simp only [update_of_ne other]
          · simp only [writeBinding, modifyEntry, linkBinding, modifyBinding]
            split
            · simp only [update_self]
            · simp only [update_self]
              rfl
        · rw [andThen_failed retained, middle]
          exact .inl ⟨rfl, fun _ => rfl, fun _ => retained⟩

end Acquire

section Release

/-- Redirecting links around a binding keeps the bindings up to their links. -/
theorem unlinkBinding_records (config : Configuration) (cache : Cache) (index : Nat) :
    (unlinkBinding config cache index).2.entries = cache.entries ∧
      ∀ i, ((unlinkBinding config cache index).2.bindings i).unlinked =
        (cache.bindings i).unlinked := by
  have lookup : ∀ (cache : Cache) bucket,
      (unlinkBindingLookupChain config cache bucket index).2.entries = cache.entries ∧
      ∀ i, ((unlinkBindingLookupChain config cache bucket index).2.bindings i).unlinked =
        (cache.bindings i).unlinked := by
    intro cache bucket
    unfold unlinkBindingLookupChain
    dsimp only
    split
    · exact ⟨rfl, fun _ => rfl⟩
    · exact ⟨rfl, fun i => congrFun
        (spliceLookupChain_field Binding.unlinked (fun _ _ => rfl) _ _) i⟩
  have sequence : ∀ (cache : Cache) bucket,
      (unlinkBindingSequenceChain config cache bucket index).2.entries = cache.entries ∧
      ∀ i, ((unlinkBindingSequenceChain config cache bucket index).2.bindings i).unlinked =
        (cache.bindings i).unlinked := by
    intro cache bucket
    unfold unlinkBindingSequenceChain
    dsimp only
    split
    · exact ⟨rfl, fun _ => rfl⟩
    · exact ⟨rfl, fun i => congrFun
        (spliceSequenceChain_field Binding.unlinked (fun _ _ => rfl) _ _) i⟩
  unfold unlinkBinding
  split
  · exact ⟨rfl, fun _ => rfl⟩
  · split
    · exact ⟨rfl, fun _ => rfl⟩
    · refine andThen_preserves (P := fun after : Cache => after.entries = cache.entries ∧
        ∀ i, (after.bindings i).unlinked = (cache.bindings i).unlinked) (lookup _ _) fun _ => ?_
      obtain ⟨sameEntries, sameBindings⟩ := sequence (unlinkBindingLookupChain config cache
        (bindingLookupBucket config (cache.bindings index).sequenceId
          (cache.bindings index).firstTokenIndex) index).2
        (bindingSequenceBucket config (cache.bindings index).sequenceId)
      exact ⟨sameEntries.trans (lookup _ _).1, fun i => (sameBindings i).trans ((lookup _ _).2 i)⟩

/-- Releasing a binding drops one reference and clears the binding; a failure keeps both. -/
theorem releaseBinding_records (config : Configuration) (cache : Cache) (index : Nat) :
    ((releaseBinding config cache index).2.entries = cache.entries ∧
      ∀ i, ((releaseBinding config cache index).2.bindings i).unlinked =
        (cache.bindings i).unlinked) ∨
    ((releaseBinding config cache index).1 = .ok ∧
      (releaseBinding config cache index).2.entries =
        update cache.entries (cache.bindings index).entryIndex
          { cache.entries (cache.bindings index).entryIndex with
            referenceCount :=
              (cache.entries (cache.bindings index).entryIndex).referenceCount - 1 } ∧
      (∀ i ≠ index, ((releaseBinding config cache index).2.bindings i).unlinked =
        (cache.bindings i).unlinked) ∧
      ((releaseBinding config cache index).2.bindings index).valid = false) := by
  unfold releaseBinding
  dsimp only
  split
  · exact .inl ⟨rfl, fun _ => rfl⟩
  · split
    · exact .inl ⟨rfl, fun _ => rfl⟩
    · split
      · exact .inl ⟨rfl, fun _ => rfl⟩
      · obtain ⟨arena, middle⟩ := releaseLogicalBlockReference_arena config cache
          (cache.bindings index).logicalBlockIndex
        by_cases released : (releaseLogicalBlockReference config cache
            (cache.bindings index).logicalBlockIndex).1 = .ok
        · rw [andThen_ok released, middle]
          obtain ⟨sameEntries, sameBindings⟩ :=
            unlinkBinding_records config { cache with arena := arena } index
          by_cases unlinked : (unlinkBinding config { cache with arena := arena } index).1 = .ok
          · rw [andThen_ok unlinked]
            refine .inr ⟨rfl, ?_, fun i other => ?_, ?_⟩
            · simp only [retireBinding, modifyBinding, modifyEntry, sameEntries]
            · simp only [retireBinding, modifyBinding, modifyEntry, update_of_ne other]
              exact sameBindings i
            · simp only [retireBinding, modifyBinding, modifyEntry, update_self]
          · rw [andThen_failed unlinked]
            exact .inl ⟨sameEntries, sameBindings⟩
        · rw [andThen_failed released, middle]
          exact .inl ⟨rfl, fun _ => rfl⟩

end Release

end Sparkpipe.PrefixCache
