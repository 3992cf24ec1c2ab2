import Sparkpipe.Cache.Prefix.Frame

/-!
# The free lists and the binding chains

`Linked` says that the two free lists hold exactly the records that are not in
use and that, in a cache with binding buckets, both binding chains hold exactly
the bindings that are. Nothing about entry buckets, references or the arena is
needed to keep it: a call that fails inside the arena has not touched a link yet.
-/

namespace Sparkpipe.PrefixCache

open Function Sparkpipe.Chain

/-- The free lists and both binding chains hold what they should. -/
structure Linked (config : Configuration) (links : Links) : Prop where
  freeEntries : Listed links.entryReserved links.freeEntryHead
    fun i => i < config.entryCount ∧ links.entryValid i = false
  freeBindings : Listed links.bindingReserved links.freeBindingHead
    fun i => i < config.sequenceBindingCount ∧ links.bindingValid i = false
  lookupChains : config.bindingHashBucketCount ≠ 0 →
    Filed config.bindingHashBucketCount
      (fun i => bindingLookupBucket config (links.sequenceId i) (links.firstTokenIndex i))
      links.lookupHashNext links.lookupHeads
      fun i => i < config.sequenceBindingCount ∧ links.bindingValid i = true
  sequenceChains : config.bindingHashBucketCount ≠ 0 →
    Filed config.bindingHashBucketCount
      (fun i => bindingSequenceBucket config (links.sequenceId i))
      links.sequenceHashNext links.sequenceHeads
      fun i => i < config.sequenceBindingCount ∧ links.bindingValid i = true

variable {config : Configuration} {cache : Cache}

theorem linked_initialCache (arena : KvCache.Arena) (accepted : validate config = .ok) :
    Linked config (initialCache config arena).links := by
  unfold validate at accepted
  split at accepted
  · cases accepted
  · rename_i sizes
    refine ⟨?_, ?_, fun _ => ?_, fun _ => ?_⟩
    · exact listed_successors (fun i => rfl) (by omega) fun i => by simp [Cache.links, initialCache]
    · exact listed_successors (fun i => rfl) (by omega) fun i => by simp [Cache.links, initialCache]
    · exact filed_empty (fun _ => rfl) fun i inside => by simp [Cache.links, initialCache] at inside
    · exact filed_empty (fun _ => rfl) fun i inside => by simp [Cache.links, initialCache] at inside

section Search

theorem findBindingAtTokenOffset_some {sequenceId : UInt64} {first i : Nat}
    (found : findBindingAtTokenOffset config cache sequenceId first = some i) :
    i < config.sequenceBindingCount ∧ (cache.bindings i).valid = true ∧
      (cache.bindings i).sequenceId = sequenceId ∧ (cache.bindings i).firstTokenIndex = first := by
  have accepted : i < config.sequenceBindingCount ∧
      bindingMatches cache sequenceId first i = true := by
    unfold findBindingAtTokenOffset at found
    split at found
    · exact search_some found
    · exact ⟨List.mem_range.mp (List.mem_of_find?_eq_some found), List.find?_some found⟩
  obtain ⟨inRange, matched⟩ := accepted
  simp only [bindingMatches, Bool.and_eq_true, beq_iff_eq] at matched
  exact ⟨inRange, matched.1.1, matched.1.2, matched.2⟩

/-- A binding the search misses does not exist. -/
theorem Linked.findBinding_none (linked : Linked config cache.links) {sequenceId : UInt64}
    {first : Nat} (missed : findBindingAtTokenOffset config cache sequenceId first = none) {i : Nat}
    (inRange : i < config.sequenceBindingCount) (valid : (cache.bindings i).valid = true)
    (sequence : (cache.bindings i).sequenceId = sequenceId) :
    (cache.bindings i).firstTokenIndex ≠ first := by
  intro place
  have accepted : bindingMatches cache sequenceId first i = true := by
    simp [bindingMatches, valid, sequence, place]
  unfold findBindingAtTokenOffset at missed
  split at missed
  · rename_i indexed
    have chain := linked.lookupChains indexed (bindingLookupBucket config sequenceId first)
      (bucketIndex_lt _ indexed)
    have member : (i < config.sequenceBindingCount ∧ cache.links.bindingValid i = true) ∧
        bindingLookupBucket config (cache.links.sequenceId i) (cache.links.firstTokenIndex i) =
          bindingLookupBucket config sequenceId first :=
      ⟨⟨inRange, valid⟩, by simp only [Cache.links, sequence, place]⟩
    obtain ⟨j, found⟩ := chain.search_isSome config.sequenceBindingCount
      (fun j inside => inside.1.1) member accepted
    exact absurd (missed.symm.trans found) (by simp)
  · have absent := List.find?_eq_none.mp missed i (List.mem_range.mpr inRange)
    exact absent accepted

end Search

section Unlink

/-- Binding `index` has been taken out of its chains; nothing else has changed. -/
structure Detached (config : Configuration) (index : Nat) (before after : Cache) : Prop where
  counts : after.counts = before.counts
  filing : after.filing = before.filing
  arena : after.arena = before.arena
  entryReserved : after.links.entryReserved = before.links.entryReserved
  freeEntryHead : after.freeEntryHead = before.freeEntryHead
  bindingReserved : after.links.bindingReserved = before.links.bindingReserved
  freeBindingHead : after.freeBindingHead = before.freeBindingHead
  lookupChains : config.bindingHashBucketCount ≠ 0 →
    Filed config.bindingHashBucketCount
      (fun i => bindingLookupBucket config (before.links.sequenceId i)
        (before.links.firstTokenIndex i))
      after.links.lookupHashNext after.links.lookupHeads
      fun i => (i < config.sequenceBindingCount ∧ before.links.bindingValid i = true) ∧ i ≠ index
  sequenceChains : config.bindingHashBucketCount ≠ 0 →
    Filed config.bindingHashBucketCount
      (fun i => bindingSequenceBucket config (before.links.sequenceId i))
      after.links.sequenceHashNext after.links.sequenceHeads
      fun i => (i < config.sequenceBindingCount ∧ before.links.bindingValid i = true) ∧ i ≠ index

/-- Redirecting one link of the lookup chains keeps every other field of the bindings. -/
theorem spliceLookupChain_field {α : Type*} (field : Binding → α)
    (blind : ∀ binding next, field { binding with lookupHashNext := next } = field binding)
    (previous after : Option Nat) :
    (fun i => field (spliceLookupChain cache previous after i)) = fun i => field (cache.bindings i) := by
  funext i
  cases previous with
  | none => rfl
  | some p => exact bindings_update_field field (blind _ _) i

theorem spliceLookupChain_next (previous after : Option Nat) :
    (fun i => (spliceLookupChain cache previous after i).lookupHashNext) =
      spliceNext previous (fun i => (cache.bindings i).lookupHashNext) after := by
  funext i
  cases previous with
  | none => rfl
  | some p =>
    by_cases here : i = p
    · subst here
      simp [spliceLookupChain, spliceNext]
    · simp [spliceLookupChain, spliceNext, update_of_ne here]

/-- Redirecting one link of the sequence chains keeps every other field of the bindings. -/
theorem spliceSequenceChain_field {α : Type*} (field : Binding → α)
    (blind : ∀ binding next, field { binding with sequenceHashNext := next } = field binding)
    (previous after : Option Nat) :
    (fun i => field (spliceSequenceChain cache previous after i)) = fun i => field (cache.bindings i) := by
  funext i
  cases previous with
  | none => rfl
  | some p => exact bindings_update_field field (blind _ _) i

theorem spliceSequenceChain_next (previous after : Option Nat) :
    (fun i => (spliceSequenceChain cache previous after i).sequenceHashNext) =
      spliceNext previous (fun i => (cache.bindings i).sequenceHashNext) after := by
  funext i
  cases previous with
  | none => rfl
  | some p =>
    by_cases here : i = p
    · subst here
      simp [spliceSequenceChain, spliceNext]
    · simp [spliceSequenceChain, spliceNext, update_of_ne here]

/-- The cache after the lookup chain of a removed binding is spliced. -/
def spliceLookup (cache : Cache) (previous : Option Nat) (bucket index : Nat) : Cache :=
  { cache with
    bindings := spliceLookupChain cache previous (cache.bindings index).lookupHashNext
    bindingLookupHashBucketHeads := update cache.bindingLookupHashBucketHeads bucket
      (spliceHead previous (cache.bindingLookupHashBucketHeads bucket)
        (cache.bindings index).lookupHashNext) }

/-- The cache after the sequence chain of a removed binding is spliced. -/
def spliceSequence (cache : Cache) (previous : Option Nat) (bucket index : Nat) : Cache :=
  { cache with
    bindings := spliceSequenceChain cache previous (cache.bindings index).sequenceHashNext
    bindingSequenceHashBucketHeads := update cache.bindingSequenceHashBucketHeads bucket
      (spliceHead previous (cache.bindingSequenceHashBucketHeads bucket)
        (cache.bindings index).sequenceHashNext) }

/-- Splicing a lookup chain shows in the lookup chains only. -/
theorem spliceLookup_links (cache : Cache) (previous : Option Nat) (bucket index : Nat) :
    (spliceLookup cache previous bucket index).links =
      { cache.links with
        lookupHashNext := spliceNext previous cache.links.lookupHashNext
          (cache.links.lookupHashNext index)
        lookupHeads := update cache.links.lookupHeads bucket
          (spliceHead previous (cache.links.lookupHeads bucket)
            (cache.links.lookupHashNext index)) } := by
  simp only [spliceLookup, Cache.links, spliceLookupChain_next,
    spliceLookupChain_field Binding.valid (fun _ _ => rfl),
    spliceLookupChain_field Binding.reserved (fun _ _ => rfl),
    spliceLookupChain_field Binding.sequenceId (fun _ _ => rfl),
    spliceLookupChain_field Binding.firstTokenIndex (fun _ _ => rfl),
    spliceLookupChain_field Binding.sequenceHashNext (fun _ _ => rfl)]

theorem spliceLookup_counts (cache : Cache) (previous : Option Nat) (bucket index : Nat) :
    (spliceLookup cache previous bucket index).counts = cache.counts := by
  simp only [spliceLookup, Cache.counts,
    spliceLookupChain_field Binding.valid (fun _ _ => rfl),
    spliceLookupChain_field Binding.entryIndex (fun _ _ => rfl),
    spliceLookupChain_field Binding.logicalBlockIndex (fun _ _ => rfl),
    spliceLookupChain_field Binding.sequenceId (fun _ _ => rfl),
    spliceLookupChain_field Binding.firstTokenIndex (fun _ _ => rfl)]

/-- Splicing a sequence chain shows in the sequence chains only. -/
theorem spliceSequence_links (cache : Cache) (previous : Option Nat) (bucket index : Nat) :
    (spliceSequence cache previous bucket index).links =
      { cache.links with
        sequenceHashNext := spliceNext previous cache.links.sequenceHashNext
          (cache.links.sequenceHashNext index)
        sequenceHeads := update cache.links.sequenceHeads bucket
          (spliceHead previous (cache.links.sequenceHeads bucket)
            (cache.links.sequenceHashNext index)) } := by
  simp only [spliceSequence, Cache.links, spliceSequenceChain_next,
    spliceSequenceChain_field Binding.valid (fun _ _ => rfl),
    spliceSequenceChain_field Binding.reserved (fun _ _ => rfl),
    spliceSequenceChain_field Binding.sequenceId (fun _ _ => rfl),
    spliceSequenceChain_field Binding.firstTokenIndex (fun _ _ => rfl),
    spliceSequenceChain_field Binding.lookupHashNext (fun _ _ => rfl)]

theorem spliceSequence_counts (cache : Cache) (previous : Option Nat) (bucket index : Nat) :
    (spliceSequence cache previous bucket index).counts = cache.counts := by
  simp only [spliceSequence, Cache.counts,
    spliceSequenceChain_field Binding.valid (fun _ _ => rfl),
    spliceSequenceChain_field Binding.entryIndex (fun _ _ => rfl),
    spliceSequenceChain_field Binding.logicalBlockIndex (fun _ _ => rfl),
    spliceSequenceChain_field Binding.sequenceId (fun _ _ => rfl),
    spliceSequenceChain_field Binding.firstTokenIndex (fun _ _ => rfl)]

theorem unlinkBindingLookupChain_eq {previous : Option Nat} {bucket index : Nat}
    (found : locate config.sequenceBindingCount cache.links.lookupHashNext index
      config.sequenceBindingCount none (cache.links.lookupHeads bucket) = some previous) :
    unlinkBindingLookupChain config cache bucket index =
      (.ok, spliceLookup cache previous bucket index) := by
  unfold unlinkBindingLookupChain
  simp only [Cache.links] at found
  simp only [found, spliceLookup]

theorem unlinkBindingSequenceChain_eq {previous : Option Nat} {bucket index : Nat}
    (found : locate config.sequenceBindingCount cache.links.sequenceHashNext index
      config.sequenceBindingCount none (cache.links.sequenceHeads bucket) = some previous) :
    unlinkBindingSequenceChain config cache bucket index =
      (.ok, spliceSequence cache previous bucket index) := by
  unfold unlinkBindingSequenceChain
  simp only [Cache.links] at found
  simp only [found, spliceSequence]

/-- Taking a valid binding out of its chains succeeds. -/
theorem Linked.unlinkBinding (linked : Linked config cache.links) {index : Nat}
    (inRange : index < config.sequenceBindingCount) (valid : (cache.bindings index).valid = true) :
    ∃ after, PrefixCache.unlinkBinding config cache index = (.ok, after) ∧
      Detached config index cache after := by
  by_cases indexed : config.bindingHashBucketCount = 0
  · refine ⟨cache, by rw [PrefixCache.unlinkBinding, if_pos indexed], ?_⟩
    exact ⟨rfl, rfl, rfl, rfl, rfl, rfl, rfl, fun buckets => absurd indexed buckets,
      fun buckets => absurd indexed buckets⟩
  · obtain ⟨lookupPrevious, lookupFound, lookupFiled⟩ := (linked.lookupChains indexed).unlink
      (fun j member => member.1) ⟨inRange, valid⟩ (bucketIndex_lt _ indexed)
    obtain ⟨sequencePrevious, sequenceFound, sequenceFiled⟩ := (linked.sequenceChains indexed).unlink
      (fun j member => member.1) ⟨inRange, valid⟩ (bucketIndex_lt _ indexed)
    let lookupBucket := bindingLookupBucket config (cache.bindings index).sequenceId
      (cache.bindings index).firstTokenIndex
    let sequenceBucket := bindingSequenceBucket config (cache.bindings index).sequenceId
    let middle := spliceLookup cache lookupPrevious lookupBucket index
    have middleLinks := spliceLookup_links cache lookupPrevious lookupBucket index
    have first : unlinkBindingLookupChain config cache lookupBucket index = (.ok, middle) :=
      unlinkBindingLookupChain_eq lookupFound
    have second : unlinkBindingSequenceChain config middle sequenceBucket index =
        (.ok, spliceSequence middle sequencePrevious sequenceBucket index) := by
      refine unlinkBindingSequenceChain_eq ?_
      rw [middleLinks]
      exact sequenceFound
    refine ⟨spliceSequence middle sequencePrevious sequenceBucket index, ?_, ?_⟩
    · rw [PrefixCache.unlinkBinding, if_neg indexed, if_neg (by omega)]
      change andThen (unlinkBindingLookupChain config cache lookupBucket index) _ = _
      rw [first, andThen_ok rfl]
      exact second
    · have afterLinks := spliceSequence_links middle sequencePrevious sequenceBucket index
      rw [middleLinks] at afterLinks
      refine ⟨?_, rfl, rfl, ?_, rfl, ?_, rfl, fun _ => ?_, fun _ => ?_⟩
      · exact (spliceSequence_counts _ _ _ _).trans (spliceLookup_counts _ _ _ _)
      · rw [afterLinks]
      · rw [afterLinks]
      · rw [afterLinks]
        exact lookupFiled
      · rw [afterLinks]
        exact sequenceFiled

end Unlink

section Release

/-- What a successful release of a binding leaves behind. -/
structure Released (config : Configuration) (index : Nat) (before after : Cache) : Prop where
  valid : (before.bindings index).valid = true
  inRange : index < config.sequenceBindingCount
  entryInRange : (before.bindings index).entryIndex < config.entryCount
  referenced : (before.entries (before.bindings index).entryIndex).referenceCount ≠ 0
  released : (releaseLogicalBlockReference config before
    (before.bindings index).logicalBlockIndex).1 = .ok
  arena : after.arena = (releaseLogicalBlockReference config before
    (before.bindings index).logicalBlockIndex).2.arena
  links : Linked config after.links
  filing : after.filing = before.filing
  counts : after.counts =
    { before.counts with
      referenceCount := update before.counts.referenceCount
        (before.bindings index).entryIndex
        (before.counts.referenceCount (before.bindings index).entryIndex - 1)
      bindingValid := update before.counts.bindingValid index false
      bindingEntry := update before.counts.bindingEntry index noEntry
      bindingBlock := update before.counts.bindingBlock index none
      sequenceId := update before.counts.sequenceId index 0
      firstTokenIndex := update before.counts.firstTokenIndex index 0 }

theorem retireBinding_links (cache : Cache) (entryIndex index : Nat) :
    (retireBinding cache entryIndex index).links =
      { cache.links with
        bindingValid := update cache.links.bindingValid index false
        bindingReserved := update cache.links.bindingReserved index cache.freeBindingHead
        freeBindingHead := some index
        sequenceId := update cache.links.sequenceId index 0
        firstTokenIndex := update cache.links.firstTokenIndex index 0
        lookupHashNext := update cache.links.lookupHashNext index none
        sequenceHashNext := update cache.links.sequenceHashNext index none } := by
  simp only [retireBinding, modifyBinding, modifyEntry, Cache.links,
    field_update Binding.valid, field_update Binding.reserved, field_update Binding.sequenceId,
    field_update Binding.firstTokenIndex, field_update Binding.lookupHashNext,
    field_update Binding.sequenceHashNext, field_update Entry.reserved,
    field_update (fun entry : Entry => entry.flags.valid), update_eq_self]

theorem retireBinding_counts (cache : Cache) (entryIndex index : Nat) :
    (retireBinding cache entryIndex index).counts =
      { cache.counts with
        referenceCount := update cache.counts.referenceCount entryIndex
          (cache.counts.referenceCount entryIndex - 1)
        bindingValid := update cache.counts.bindingValid index false
        bindingEntry := update cache.counts.bindingEntry index noEntry
        bindingBlock := update cache.counts.bindingBlock index none
        sequenceId := update cache.counts.sequenceId index 0
        firstTokenIndex := update cache.counts.firstTokenIndex index 0 } := by
  simp only [retireBinding, modifyBinding, modifyEntry, Cache.counts,
    field_update Binding.valid, field_update Binding.entryIndex,
    field_update Binding.logicalBlockIndex, field_update Binding.sequenceId,
    field_update Binding.firstTokenIndex, field_update Entry.logicalBlockIndex,
    field_update Entry.referenceCount, field_update (fun entry : Entry => entry.flags.valid),
    update_eq_self]

theorem retireBinding_filing (cache : Cache) (entryIndex index : Nat) :
    (retireBinding cache entryIndex index).filing = cache.filing :=
  (filing_modifyEntry rfl rfl rfl : (modifyEntry cache entryIndex fun entry =>
    { entry with referenceCount := entry.referenceCount - 1 }).filing = cache.filing)

/-- Clearing a binding that is in no chain any more puts it on the free list. -/
theorem linked_retireBinding {before : Cache} {entryIndex index : Nat}
    (linked : Linked config before.links) (inRange : index < config.sequenceBindingCount)
    (valid : (before.bindings index).valid = true) (detached : Detached config index before cache) :
    Linked config (retireBinding cache entryIndex index).links := by
  have valids : cache.links.bindingValid = before.links.bindingValid :=
    congrArg Counts.bindingValid detached.counts
  have entryValids : cache.links.entryValid = before.links.entryValid :=
    congrArg Counts.entryValid detached.counts
  have sequences : cache.links.sequenceId = before.links.sequenceId :=
    congrArg Counts.sequenceId detached.counts
  have firsts : cache.links.firstTokenIndex = before.links.firstTokenIndex :=
    congrArg Counts.firstTokenIndex detached.counts
  have freeHead : cache.links.freeEntryHead = before.links.freeEntryHead := detached.freeEntryHead
  -- who is still valid once `index` is not
  have members : ∀ i, (i < config.sequenceBindingCount ∧
      update before.links.bindingValid index false i = true) ↔
      (i < config.sequenceBindingCount ∧ before.links.bindingValid i = true) ∧ i ≠ index := by
    intro i
    by_cases here : i = index
    · simp [here]
    · simp [here]
  rw [retireBinding_links]
  dsimp only
  rw [valids, entryValids, sequences, firsts, freeHead, detached.entryReserved,
    detached.bindingReserved, detached.freeBindingHead]
  refine ⟨linked.freeEntries, ?_, fun indexed => ?_, fun indexed => ?_⟩
  · refine linked.freeBindings.push (update_self _ _ _) (fun j free => ?_) fun j => ?_
    · refine update_of_ne ?_ _ _
      rintro rfl
      exact absurd valid (by simpa [Cache.links] using free.2)
    · by_cases here : j = index
      · simp [here, inRange]
      · simp [here]
  · refine (detached.lookupChains indexed).congr members (fun i member => ?_) fun i member => ?_
    · simp only [update_of_ne member.2]
    · exact update_of_ne member.2 _ _
  · refine (detached.sequenceChains indexed).congr members (fun i member => ?_) fun i member => ?_
    · simp only [update_of_ne member.2]
    · exact update_of_ne member.2 _ _

/-- Releasing a binding either changes nothing or takes the binding out of use. -/
theorem Linked.releaseBinding (linked : Linked config cache.links) (index : Nat) :
    ((PrefixCache.releaseBinding config cache index).2 = cache ∧
        ((PrefixCache.releaseBinding config cache index).1 = .ok →
          (cache.bindings index).valid = false)) ∨
      ((PrefixCache.releaseBinding config cache index).1 = .ok ∧
        Released config index cache (PrefixCache.releaseBinding config cache index).2) := by
  unfold PrefixCache.releaseBinding
  dsimp only
  split
  · rename_i free
    exact Or.inl ⟨rfl, fun _ => by simpa using free⟩
  · rename_i valid
    replace valid : (cache.bindings index).valid = true := by simpa using valid
    split
    · exact Or.inl ⟨rfl, by simp⟩
    · rename_i bound
      rw [not_or] at bound
      split
      · exact Or.inl ⟨rfl, by simp⟩
      · rename_i inRange
        by_cases released : (releaseLogicalBlockReference config cache
            (cache.bindings index).logicalBlockIndex).1 = .ok
        · obtain ⟨arena, middle⟩ := releaseLogicalBlockReference_arena config cache
            (cache.bindings index).logicalBlockIndex
          have relinked : Linked config { cache with arena := arena }.links := linked
          obtain ⟨after, unlinked, detached⟩ :=
            relinked.unlinkBinding (Nat.lt_of_not_le inRange) valid
          rw [andThen_ok released, middle, unlinked, andThen_ok rfl]
          refine .inr ⟨rfl, valid, Nat.lt_of_not_le inRange, Nat.lt_of_not_le bound.1, bound.2,
            released, ?_, ?_, ?_, ?_⟩
          · rw [middle]
            exact detached.arena
          · exact linked_retireBinding relinked (Nat.lt_of_not_le inRange) valid detached
          · exact (retireBinding_filing _ _ _).trans detached.filing
          · rw [retireBinding_counts, detached.counts]
            rfl
        · rw [andThen_failed released, releaseLogicalBlockReference_failed released]
          exact Or.inl ⟨rfl, fun succeeded => absurd succeeded released⟩

end Release

section Acquire

/-- What tying a sequence to an entry by a new binding leaves behind. -/
structure Acquired (config : Configuration) (sequenceId : UInt64) (index binding : Nat)
    (before after : Cache) : Prop where
  entryInRange : index < config.entryCount
  missing : findBindingAtTokenOffset config before sequenceId
    (before.entries index).firstTokenIndex = none
  inRange : binding < config.sequenceBindingCount
  free : (before.bindings binding).valid = false
  retained : (retainLogicalBlock config before (before.entries index).logicalBlockIndex).1 = .ok
  arena : after.arena =
    (retainLogicalBlock config before (before.entries index).logicalBlockIndex).2.arena
  links : Linked config after.links
  filing : after.filing = before.filing
  counts : after.counts =
    { before.counts with
      referenceCount := update before.counts.referenceCount index
        (before.counts.referenceCount index + 1)
      bindingValid := update before.counts.bindingValid binding true
      bindingEntry := update before.counts.bindingEntry binding index
      bindingBlock := update before.counts.bindingBlock binding
        (before.counts.entryBlock index)
      sequenceId := update before.counts.sequenceId binding sequenceId
      firstTokenIndex := update before.counts.firstTokenIndex binding
        (before.entries index).firstTokenIndex }

theorem linkBinding_entries (config : Configuration) (cache : Cache) (index : Nat) :
    (linkBinding config cache index).entries = cache.entries := by
  unfold linkBinding
  split <;> rfl

theorem linkBinding_bindings_field {α : Type*} (config : Configuration) (cache : Cache) (index : Nat)
    (field : Binding → α)
    (blind : ∀ binding lookupNext sequenceNext,
      field { binding with lookupHashNext := lookupNext, sequenceHashNext := sequenceNext } =
        field binding) :
    (fun i => field ((linkBinding config cache index).bindings i)) =
      fun i => field (cache.bindings i) := by
  unfold linkBinding
  split
  · rfl
  · funext i
    exact bindings_update_field field (blind _ _ _) i

theorem writeBinding_counts (cache : Cache) (binding index : Nat)
    (sequenceId operationEpoch : UInt64) (pending : Bool) :
    (writeBinding config cache binding index sequenceId operationEpoch pending).counts =
      { cache.counts with
        referenceCount := update cache.counts.referenceCount index
          (cache.counts.referenceCount index + 1)
        bindingValid := update cache.counts.bindingValid binding true
        bindingEntry := update cache.counts.bindingEntry binding index
        bindingBlock := update cache.counts.bindingBlock binding
          (cache.counts.entryBlock index)
        sequenceId := update cache.counts.sequenceId binding sequenceId
        firstTokenIndex := update cache.counts.firstTokenIndex binding
          (cache.entries index).firstTokenIndex } := by
  unfold writeBinding
  simp only [modifyEntry, Cache.counts, linkBinding_entries,
    linkBinding_bindings_field _ _ _ Binding.valid (fun _ _ _ => rfl),
    linkBinding_bindings_field _ _ _ Binding.entryIndex (fun _ _ _ => rfl),
    linkBinding_bindings_field _ _ _ Binding.logicalBlockIndex (fun _ _ _ => rfl),
    linkBinding_bindings_field _ _ _ Binding.sequenceId (fun _ _ _ => rfl),
    linkBinding_bindings_field _ _ _ Binding.firstTokenIndex (fun _ _ _ => rfl),
    field_update Entry.logicalBlockIndex, field_update Entry.referenceCount,
    field_update (fun entry : Entry => entry.flags.valid), update_eq_self]
  simp only [modifyBinding, boundTo, field_update Binding.valid, field_update Binding.entryIndex,
    field_update Binding.logicalBlockIndex, field_update Binding.sequenceId,
    field_update Binding.firstTokenIndex]

theorem writeBinding_filing (cache : Cache) (binding index : Nat)
    (sequenceId operationEpoch : UInt64) (pending : Bool) :
    (writeBinding config cache binding index sequenceId operationEpoch pending).filing =
      cache.filing := by
  unfold writeBinding
  refine (filing_modifyEntry ?_ ?_ ?_).trans ?_
  · rfl
  · rfl
  · rfl
  · unfold linkBinding
    split <;> rfl

/-- The links after a binding is written in a cache without binding buckets. -/
theorem writeBinding_links_linear (cache : Cache) (binding index : Nat)
    (sequenceId operationEpoch : UInt64) (pending : Bool) (linear : config.bindingHashBucketCount = 0) :
    (writeBinding config cache binding index sequenceId operationEpoch pending).links =
      { cache.links with
        bindingValid := update cache.links.bindingValid binding true
        sequenceId := update cache.links.sequenceId binding sequenceId
        firstTokenIndex := update cache.links.firstTokenIndex binding
          (cache.entries index).firstTokenIndex } := by
  simp only [writeBinding, linkBinding, if_pos linear, modifyBinding, modifyEntry, boundTo,
    Cache.links, field_update Binding.valid, field_update Binding.reserved,
    field_update Binding.sequenceId, field_update Binding.firstTokenIndex,
    field_update Binding.lookupHashNext, field_update Binding.sequenceHashNext,
    field_update Entry.reserved, field_update (fun entry : Entry => entry.flags.valid),
    update_eq_self]

/-- The links after a binding is written: it heads both of its chains. -/
theorem writeBinding_links_indexed (cache : Cache) (binding index : Nat)
    (sequenceId operationEpoch : UInt64) (pending : Bool)
    (indexed : config.bindingHashBucketCount ≠ 0) :
    (writeBinding config cache binding index sequenceId operationEpoch pending).links =
      { cache.links with
        bindingValid := update cache.links.bindingValid binding true
        sequenceId := update cache.links.sequenceId binding sequenceId
        firstTokenIndex := update cache.links.firstTokenIndex binding
          (cache.entries index).firstTokenIndex
        lookupHashNext := update cache.links.lookupHashNext binding
          (cache.links.lookupHeads
            (bindingLookupBucket config sequenceId (cache.entries index).firstTokenIndex))
        lookupHeads := update cache.links.lookupHeads
          (bindingLookupBucket config sequenceId (cache.entries index).firstTokenIndex) (some binding)
        sequenceHashNext := update cache.links.sequenceHashNext binding
          (cache.links.sequenceHeads (bindingSequenceBucket config sequenceId))
        sequenceHeads := update cache.links.sequenceHeads
          (bindingSequenceBucket config sequenceId) (some binding) } := by
  simp only [writeBinding, linkBinding, if_neg indexed, modifyBinding, modifyEntry, boundTo,
    Cache.links, update_self, update_idem, field_update Binding.valid,
    field_update Binding.reserved, field_update Binding.sequenceId,
    field_update Binding.firstTokenIndex, field_update Binding.lookupHashNext,
    field_update Binding.sequenceHashNext, field_update Entry.reserved,
    field_update (fun entry : Entry => entry.flags.valid), update_eq_self]

/-- Taking the head of the free list for a new binding. -/
theorem linked_writeBinding (linked : Linked config cache.links) {binding index : Nat}
    (sequenceId operationEpoch : UInt64) (pending : Bool)
    (head : cache.freeBindingHead = some binding) :
    Linked config (writeBinding config
      { cache with freeBindingHead := (cache.bindings binding).reserved }
      binding index sequenceId operationEpoch pending).links := by
  have fromHead := linked.freeBindings
  rw [show cache.links.freeBindingHead = some binding from head] at fromHead
  obtain ⟨inRange, free⟩ := fromHead.head_member
  have popped : Listed cache.links.bindingReserved (cache.links.bindingReserved binding)
      fun i => i < config.sequenceBindingCount ∧
        update cache.links.bindingValid binding true i = false := by
    refine fromHead.pop (fun _ _ _ => rfl) fun i => ?_
    by_cases here : i = binding
    · simp [here]
    · simp [here]
  -- the new binding was free, so it is none of the members
  have fresh : ∀ i, i < config.sequenceBindingCount ∧ cache.links.bindingValid i = true →
      i ≠ binding := by
    rintro i ⟨-, valid⟩ rfl
    rw [free] at valid
    cases valid
  have members : ∀ i, (i < config.sequenceBindingCount ∧
      update cache.links.bindingValid binding true i = true) ↔
      i = binding ∨ (i < config.sequenceBindingCount ∧ cache.links.bindingValid i = true) := by
    intro i
    by_cases here : i = binding
    · simp [here, inRange]
    · simp [here]
  by_cases linear : config.bindingHashBucketCount = 0
  · rw [writeBinding_links_linear _ _ _ _ _ _ linear]
    exact ⟨linked.freeEntries, popped, fun indexed => absurd linear indexed,
      fun indexed => absurd linear indexed⟩
  · rw [writeBinding_links_indexed _ _ _ _ _ _ linear]
    refine ⟨linked.freeEntries, popped, fun indexed => ?_, fun indexed => ?_⟩
    · refine (linked.lookupChains indexed).link (i := binding) ?_ ?_ (fun j member => ?_)
        (fun j member => ?_) members
      · simp [Cache.links]
      · simp [Cache.links]
      · exact update_of_ne (fresh j member) _ _
      · simp only [Cache.links, update_of_ne (fresh j member)]
    · refine (linked.sequenceChains indexed).link (i := binding) ?_ ?_ (fun j member => ?_)
        (fun j member => ?_) members
      · simp [Cache.links]
      · simp [Cache.links]
      · exact update_of_ne (fresh j member) _ _
      · simp only [Cache.links, update_of_ne (fresh j member)]

/-- Acquiring an entry either leaves only marks or adds one binding. -/
theorem Linked.acquireEntryForSequence (linked : Linked config cache.links) (sequenceId : UInt64)
    (index : Nat) (operationEpoch : UInt64) (pending : Bool) :
    Quiet cache (PrefixCache.acquireEntryForSequence config cache sequenceId index operationEpoch
        pending).2 ∨
      ((PrefixCache.acquireEntryForSequence config cache sequenceId index operationEpoch
          pending).1 = .ok ∧
        ∃ binding, Acquired config sequenceId index binding cache
          (PrefixCache.acquireEntryForSequence config cache sequenceId index operationEpoch
            pending).2) := by
  unfold PrefixCache.acquireEntryForSequence
  split
  · exact .inl (Quiet.refl cache)
  · rename_i entryInRange
    split
    · split
      · exact .inl (Quiet.refl cache)
      · split
        · left
          dsimp only
          exact quiet_modifyBinding rfl rfl rfl rfl rfl rfl rfl rfl rfl
        · exact .inl (Quiet.refl cache)
    · rename_i missing
      split
      · exact .inl (Quiet.refl cache)
      · rename_i binding found
        obtain ⟨head, inRange, free⟩ : cache.freeBindingHead = some binding ∧
            binding < config.sequenceBindingCount ∧ (cache.bindings binding).valid = false := by
          unfold findFreeBinding at found
          split at found
          · cases found
          · rename_i first head
            split at found
            · cases found
            · rename_i usable
              cases found
              rw [not_or] at usable
              exact ⟨head, Nat.lt_of_not_le usable.1, by simpa using usable.2⟩
        by_cases retained : (retainLogicalBlock config cache
            (cache.entries index).logicalBlockIndex).1 = .ok
        · obtain ⟨arena, middle⟩ := retainLogicalBlock_arena config cache
            (cache.entries index).logicalBlockIndex
          have relinked : Linked config { cache with arena := arena }.links := linked
          rw [andThen_ok retained, middle]
          refine .inr ⟨rfl, binding, Nat.lt_of_not_le entryInRange, missing, inRange, free, retained,
            ?_, ?_, writeBinding_filing _ _ _ _ _ _, writeBinding_counts _ _ _ _ _ _⟩
          · rw [middle]
            simp only [writeBinding, modifyEntry, linkBinding]
            split <;> rfl
          · exact linked_writeBinding relinked _ _ _ head
        · rw [andThen_failed retained, retainLogicalBlock_failed retained]
          exact .inl (Quiet.refl cache)

end Acquire

end Sparkpipe.PrefixCache
