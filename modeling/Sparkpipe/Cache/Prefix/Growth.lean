import Sparkpipe.Cache.Prefix.Calls

/-!
# Growing a sequence

`EnsureSequenceTokenCapacity` walks the blocks of a sequence, installs those it
lacks, and at last rewrites a short tail to a whole block. The rewrite changes
the token count of the tail's entry, which its bucket depends on, without
relinking the entry. `GrowthKeepsBuckets` is the condition, on the cache before
the call, under which the entry is still in the right bucket afterwards.
-/

namespace Sparkpipe.PrefixCache

variable {config : Configuration} {exclusive : Prop} {mode : Mode} {start : Option Nat × Cache}
variable {held : Option Nat} {cache : Cache}

/-- Whatever short tail the call would extend stays in the bucket it is in. -/
def GrowthKeepsBuckets (config : Configuration) (cache : Cache) (sequenceId : UInt64)
    (tokenCount : Nat) : Prop :=
  config.entryHashBucketCount ≠ 0 →
  ∀ blockIndex < ceilDivU32 tokenCount config.blockTokenCount, ∀ binding,
    findBindingAtTokenOffset config cache sequenceId (blockIndex * config.blockTokenCount) =
      some binding →
    (cache.bindings binding).tokenCount <
      min config.blockTokenCount (tokenCount - blockIndex * config.blockTokenCount) →
    (cache.entries (cache.bindings binding).entryIndex).flags.liveOnly = true →
    (cache.entries (cache.bindings binding).entryIndex).referenceCount = 1 →
    entryBucket config { (cache.entries (cache.bindings binding).entryIndex).key with
        tokenCount := config.blockTokenCount } =
      entryBucket config (cache.entries (cache.bindings binding).entryIndex).key

/-- The part of a binding that says where it stands and which entry it is on. -/
structure Extent where
  sequenceId : UInt64
  firstTokenIndex : Nat
  tokenCount : Nat
  entryIndex : Nat

def Binding.extent (binding : Binding) : Extent where
  sequenceId := binding.sequenceId
  firstTokenIndex := binding.firstTokenIndex
  tokenCount := binding.tokenCount
  entryIndex := binding.entryIndex

/-- The block loop leaves referenced entries alone, and every binding it adds is a whole block. -/
structure Undisturbed (config : Configuration) (before after : Cache) : Prop where
  entries : ∀ i, (before.entries i).flags.valid = true → (before.entries i).referenceCount ≠ 0 →
    (after.entries i).unfiled = (before.entries i).unfiled
  bindings : ∀ i, (after.bindings i).valid = true →
    (after.bindings i).tokenCount = config.blockTokenCount ∨
      ((before.bindings i).valid = true ∧ (after.bindings i).extent = (before.bindings i).extent)

namespace Undisturbed

theorem refl (cache : Cache) : Undisturbed config cache cache :=
  ⟨fun _ _ _ => rfl, fun _ valid => .inr ⟨valid, rfl⟩⟩

theorem trans {first second third : Cache} (one : Undisturbed config first second)
    (two : Undisturbed config second third) : Undisturbed config first third := by
  refine ⟨fun i valid referenced => ?_, fun i valid => ?_⟩
  · have same := one.entries i valid referenced
    obtain ⟨sameFlags, -, sameCount, -⟩ := Entry.of_unfiled same
    exact (two.entries i (sameFlags ▸ valid) (sameCount ▸ referenced)).trans same
  · rcases two.bindings i valid with whole | ⟨earlier, same⟩
    · exact .inl whole
    · rcases one.bindings i earlier with whole | ⟨first, sameFirst⟩
      · exact .inl ((congrArg Extent.tokenCount same).trans whole)
      · exact .inr ⟨first, same.trans sameFirst⟩

theorem install (config : Configuration) (cache : Cache) (index : Nat) (install : Installation) :
    Undisturbed config cache (installEntry config cache index install).2 := by
  refine ⟨fun i valid referenced => ?_, fun i valid => .inr ?_⟩
  · rcases installEntry_entries config cache index install with ⟨-, kept⟩ | ⟨succeeded, kept, -⟩
    · exact kept i
    · refine kept i ?_
      rintro rfl
      rcases installEntry_cases config cache i install with ⟨failed, -⟩ | ⟨-, _, installed⟩
      · exact failed succeeded
      · exact referenced (installed.unreferenced valid)
  · rw [installEntry_bindings] at valid ⊢
    exact ⟨valid, rfl⟩

/-- Acquiring an entry of a whole block that nothing refers to yet. -/
theorem acquire {index : Nat} (sequenceId operationEpoch : UInt64) (pending : Bool)
    (unreferenced : (cache.entries index).referenceCount = 0)
    (whole : (cache.entries index).tokenCount = config.blockTokenCount) :
    Undisturbed config cache
      (acquireEntryForSequence config cache sequenceId index operationEpoch pending).2 := by
  rcases acquireEntryForSequence_records config cache sequenceId index operationEpoch pending with
    ⟨sameEntries, sameBindings, -⟩ | ⟨-, entries, -, binding, -, others, bound⟩
  · refine ⟨fun i _ _ => by rw [sameEntries], fun i valid => Or.inr ⟨?_, ?_⟩⟩
    · exact (congrArg Binding.valid (sameBindings i)).symm.trans valid
    · have same := congrArg Binding.extent (sameBindings i)
      exact same
  · refine ⟨fun i valid referenced => ?_, fun i valid => ?_⟩
    · have other : i ≠ index := by
        rintro rfl
        exact referenced unreferenced
      rw [entries, Function.update_of_ne other]
    · by_cases new : i = binding
      · subst new
        exact .inl ((congrArg Binding.tokenCount bound).trans whole)
      · rw [others i new] at valid ⊢
        exact .inr ⟨valid, rfl⟩

end Undisturbed

/-- What the block loop keeps: the run so far, the records it found, and the bucket of the short
tail it will extend. -/
structure Growing (config : Configuration) (exclusive : Prop) (mode : Mode) (start : Option Nat × Cache)
    (held : Option Nat) (origin : Cache) (state : EnsureState) : Prop where
  reached : Reached config exclusive mode start (held, state.cache)
  undisturbed : Undisturbed config origin state.cache
  short : mode.orderly → ∀ binding index, state.short = some (binding, index) →
    (state.cache.entries index).flags.valid = true ∧
      (state.cache.entries index).referenceCount ≠ 0 ∧
      (config.entryHashBucketCount ≠ 0 →
        entryBucket config { (state.cache.entries index).key with
            tokenCount := config.blockTokenCount } =
          entryBucket config (state.cache.entries index).key)

namespace Growing

variable {origin : Cache} {state : EnsureState}

variable (growing : Growing config exclusive mode start held origin state)
include growing

/-- The short tail is still there after further installations. -/
theorem later {cache : Cache} (reached : Reached config exclusive mode start (held, cache))
    (undisturbed : Undisturbed config state.cache cache) (parentHash : UInt64) :
    Growing config exclusive mode start held origin
      { cache := cache, parentHash := parentHash, short := state.short } := by
  refine ⟨reached, growing.undisturbed.trans undisturbed, fun ordered binding index short => ?_⟩
  obtain ⟨valid, referenced, kept⟩ := growing.short ordered binding index short
  obtain ⟨sameFlags, sameKey, sameCount, -⟩ :=
    Entry.of_unfiled (undisturbed.entries index valid referenced)
  exact ⟨sameFlags ▸ valid, sameCount ▸ referenced, sameKey ▸ kept⟩

/-- A block the sequence has: if it is short it was so before the call. -/
theorem ensureBound
    (started : mode.orderly → Sound config exclusive held origin) {sequenceId : UInt64}
    {tokenCount blockIndex binding : Nat}
    (keeps : mode.orderly → GrowthKeepsBuckets config origin sequenceId tokenCount)
    (inRange : blockIndex < ceilDivU32 tokenCount config.blockTokenCount)
    (found : findBindingAtTokenOffset config state.cache sequenceId
      (blockIndex * config.blockTokenCount) = some binding) :
    Growing config exclusive mode start held origin (PrefixCache.ensureBound config
      (min config.blockTokenCount (tokenCount - blockIndex * config.blockTokenCount))
      (blockIndex * config.blockTokenCount) binding state).2 := by
  obtain ⟨bindingInRange, valid, sequence, place⟩ := findBindingAtTokenOffset_some found
  unfold PrefixCache.ensureBound
  dsimp only
  split
  · exact growing
  · split
    · exact growing
    · split
      · rename_i tooShort
        split
        · exact growing
        · rename_i alone
          simp only [not_or, Bool.not_eq_true', Bool.not_eq_false, ne_eq, not_not] at alone
          refine ⟨growing.reached, growing.undisturbed, fun ordered other index same => ?_⟩
          simp only [Option.some.injEq, Prod.mk.injEq] at same
          obtain ⟨rfl, rfl⟩ := same
          obtain ⟨-, entryValid, -⟩ :=
            (growing.reached.sound (mode.known ordered)).counted.bound binding bindingInRange valid
          have sound := started ordered
          refine ⟨entryValid, by rw [alone.2.1]; exact Nat.one_ne_zero, fun buckets => ?_⟩
          -- the binding is not a whole block, so it is one the call found
          rcases growing.undisturbed.bindings binding valid with whole | ⟨earlier, sameExtent⟩
          · omega
          · have sameEntry : (state.cache.bindings binding).entryIndex =
                (origin.bindings binding).entryIndex := congrArg Extent.entryIndex sameExtent
            have sameCount : (state.cache.bindings binding).tokenCount =
                (origin.bindings binding).tokenCount := congrArg Extent.tokenCount sameExtent
            have sameSequence : (origin.bindings binding).sequenceId = sequenceId :=
              (congrArg Extent.sequenceId sameExtent).symm.trans sequence
            have samePlace : (origin.bindings binding).firstTokenIndex =
                blockIndex * config.blockTokenCount :=
              (congrArg Extent.firstTokenIndex sameExtent).symm.trans place
            obtain ⟨entryInRange, originValid, -⟩ := sound.counted.bound binding bindingInRange earlier
            have references := sound.counted.references _ entryInRange
            have positive : 0 < bindingsOf config origin.counts
                (origin.counts.bindingEntry binding) :=
              tally_pos bindingInRange (by simp [show origin.counts.bindingValid binding = true from
                earlier])
            have originReferenced :
                (origin.entries (origin.bindings binding).entryIndex).referenceCount ≠ 0 := by
              change origin.counts.referenceCount (origin.counts.bindingEntry binding) ≠ 0
              omega
            obtain ⟨sameFlags, sameKey, sameReferences, -⟩ :=
              Entry.of_unfiled (growing.undisturbed.entries _ originValid originReferenced)
            have foundBefore : findBindingAtTokenOffset config origin sequenceId
                (blockIndex * config.blockTokenCount) = some binding := by
              cases earlierFind : findBindingAtTokenOffset config origin sequenceId
                  (blockIndex * config.blockTokenCount) with
              | none =>
                exact absurd samePlace (sound.linked.findBinding_none earlierFind bindingInRange
                  earlier sameSequence)
              | some twin =>
                obtain ⟨twinInRange, twinValid, twinSequence, twinPlace⟩ :=
                  findBindingAtTokenOffset_some earlierFind
                rw [sound.counted.unique twin twinInRange binding bindingInRange twinValid earlier
                  (twinSequence.trans sameSequence.symm) (twinPlace.trans samePlace.symm)]
            change (state.cache.entries (origin.bindings binding).entryIndex).key = _ at sameKey
            rw [sameEntry] at alone ⊢
            rw [sameKey]
            refine keeps ordered buckets blockIndex inRange binding foundBefore (by omega) ?_ ?_
            · exact (congrArg EntryFlags.liveOnly sameFlags).symm.trans alone.1
            · exact sameReferences.symm.trans alone.2.1
      · exact ⟨growing.reached, growing.undisturbed, growing.short⟩

/-- A block the sequence lacks: the entry installed for it is a whole block. -/
theorem ensureInstall (loud : ¬ mode.gentle) (sequenceId operationEpoch : UInt64) (first : Nat) :
    Growing config exclusive mode start held origin
      (PrefixCache.ensureInstall config sequenceId operationEpoch first state).2 := by
  unfold PrefixCache.ensureInstall
  split
  · exact growing
  · rename_i victim _
    dsimp only
    generalize hashed : mixU64 (mixU64 state.parentHash sequenceId) (UInt64.ofNat first) = blockHash
    generalize what : Installation.mk { pending := true, liveOnly := true } _
      (List.replicate 32 0) operationEpoch = install
    have whole : install.key.tokenCount = config.blockTokenCount := by rw [← what]
    have epoch : install.operationEpoch = operationEpoch := by rw [← what]
    have reserved := growing.reached.install victim install (fun _ => by rw [← what])
      (fun gentle => absurd gentle loud) (fun _ => by rw [← what]) fun _ => by rw [← what]
    have installed := growing.later reserved
      (Undisturbed.install config state.cache victim install)
    split
    · exact installed state.parentHash
    · rename_i succeeded
      have written := installEntry_written (by simpa using succeeded)
      have valid : ((installEntry config state.cache victim install).2.entries victim).flags.valid =
          true := by rw [written.flags]
      have count : ((installEntry config state.cache victim install).2.entries victim).tokenCount =
          config.blockTokenCount := (congrArg BlockKey.tokenCount written.key).trans whole
      exact (installed blockHash).later
        (reserved.acquire sequenceId victim operationEpoch true (fun _ => valid) fun _ _ _ =>
          written.reservationEpoch.trans epoch)
        (Undisturbed.acquire sequenceId operationEpoch true written.referenceCount count) blockHash

end Growing

theorem Reached.ensureSequenceTokenCapacity
    (reached : Reached config exclusive mode start (held, cache)) (loud : ¬ mode.gentle)
    (open_ : ¬ mode.uncommitted) (sequenceId : UInt64) (tokenCount : Nat)
    (keeps : mode.orderly → GrowthKeepsBuckets config cache sequenceId tokenCount) :
    Reached config exclusive mode start
      (held, (PrefixCache.ensureSequenceTokenCapacity config cache sequenceId tokenCount).2) := by
  unfold PrefixCache.ensureSequenceTokenCapacity
  split
  · exact reached
  · split
    · exact reached
    · dsimp only
      have begun := reached.nextEpoch
      have grown : Growing config exclusive mode start held (PrefixCache.nextEpoch cache)
          (Sparkpipe.forEach (ensureBlock config sequenceId
            (PrefixCache.nextEpoch cache).operationEpoch tokenCount)
            (List.range (ceilDivU32 tokenCount config.blockTokenCount))
            { cache := PrefixCache.nextEpoch cache, parentHash := emptyParentHash, short := none }).2 := by
        refine forEach_preserves (P := Growing config exclusive mode start held (PrefixCache.nextEpoch cache))
          (fun blockIndex member state growing => ?_)
          ⟨begun, Undisturbed.refl _, fun _ _ _ short => by cases short⟩
        unfold ensureBlock
        dsimp only
        split
        · rename_i binding found
          exact growing.ensureBound (fun ordered => begun.sound (mode.known ordered)) keeps (List.mem_range.mp member) found
        · exact growing.ensureInstall loud _ _ _
      revert grown
      generalize Sparkpipe.forEach _ _ _ = loop
      generalize (PrefixCache.nextEpoch cache).operationEpoch = epoch
      intro grown
      have committed : Reached config exclusive mode start (held, (Sparkpipe.andThen
          (loop.1, loop.2.cache) fun cache =>
            PrefixCache.commitReservation config cache sequenceId epoch).2) :=
        Reached.andThen grown.reached fun cache reached => reached.commitReservation open_ _ _
      have settled : Settled config loop.2.cache (Sparkpipe.andThen (loop.1, loop.2.cache)
          fun cache => PrefixCache.commitReservation config cache sequenceId epoch).2 :=
        andThen_preserves (P := Settled config loop.2.cache) (Quiet.refl _).settled
          fun _ => settled_commitReservation _ _ _ _
      revert committed settled
      generalize Sparkpipe.andThen _ _ = result
      intro committed settled
      have rolledBack := committed.rollbackUnlessOk loud sequenceId epoch
      split
      · rename_i binding index succeeded short
        have kept : PrefixCache.rollbackUnlessOk config sequenceId epoch result = result := by
          unfold PrefixCache.rollbackUnlessOk at succeeded ⊢
          split
          · rfl
          · rename_i failed
            rw [if_neg failed] at succeeded
            exact absurd succeeded failed
        rw [kept]
        refine committed.step (.extend binding index fun ordered buckets => ?_)
        have sameKey : (result.2.entries index).key = (loop.2.cache.entries index).key :=
          congrFun (congrArg Filing.key settled.filing) index
        rw [sameKey]
        exact (grown.short ordered binding index short).2.2 buckets
      · exact rolledBack

end Sparkpipe.PrefixCache
