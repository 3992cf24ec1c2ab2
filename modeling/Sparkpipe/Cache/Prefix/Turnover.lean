import Sparkpipe.Cache.Prefix.Linked

/-!
# Installing and invalidating entries

What the two operations that turn entries over do to the free list of entries,
to the references, and to the arena. Where the entries are filed is left to the
bucket chains' own module: unlinking and linking an entry shows in `filing` only.
-/

namespace Sparkpipe.PrefixCache

open Function Sparkpipe.Chain

variable {config : Configuration} {cache : Cache}

section Filing

/-- Redirecting one link of a bucket chain keeps every other field of the entries. -/
theorem spliceEntries_field {α : Type*} (field : Entry → α)
    (blind : ∀ entry next, field { entry with hashNext := next } = field entry)
    (previous after : Option Nat) (i : Nat) :
    field (spliceEntries cache previous after i) = field (cache.entries i) := by
  cases previous with
  | none => rfl
  | some p => exact entries_update_field field (blind _ _) i

/-- An entry that leaves its chain keeps every other field as well. -/
theorem unlinked_field {α : Type*} (field : Entry → α)
    (blind : ∀ entry next, field { entry with hashNext := next } = field entry)
    (previous after : Option Nat) (index : Nat) :
    (fun i => field (update (spliceEntries cache previous after) index
      { spliceEntries cache previous after index with hashNext := none } i)) = fun i => field (cache.entries i) := by
  funext i
  rw [congrFun (field_update field _ _ _) i]
  by_cases here : i = index
  · subst here
    rw [update_self, blind, spliceEntries_field field blind]
  · rw [update_of_ne here, spliceEntries_field field blind]

/-- Two caches that differ at most in how entries are filed. -/
structure Refiled (before after : Cache) : Prop where
  links : after.links = before.links
  counts : after.counts = before.counts
  arena : after.arena = before.arena

theorem refiled_unlinkEntry (config : Configuration) (cache : Cache) (index : Nat) :
    Refiled cache (unlinkEntry config cache index).2 := by
  unfold unlinkEntry
  split
  · exact ⟨rfl, rfl, rfl⟩
  · split
    · exact ⟨rfl, rfl, rfl⟩
    · dsimp only
      split
      · exact ⟨rfl, rfl, rfl⟩
      · refine ⟨?_, ?_, rfl⟩
        · simp only [Cache.links, unlinked_field (fun entry => entry.flags.valid) (fun _ _ => rfl),
            unlinked_field Entry.reserved (fun _ _ => rfl)]
        · simp only [Cache.counts, unlinked_field (fun entry => entry.flags.valid) (fun _ _ => rfl),
            unlinked_field Entry.logicalBlockIndex (fun _ _ => rfl),
            unlinked_field Entry.referenceCount (fun _ _ => rfl)]

theorem refiled_linkEntry (config : Configuration) (cache : Cache) (index : Nat) :
    Refiled cache (linkEntry config cache index) := by
  unfold linkEntry
  split
  · exact ⟨rfl, rfl, rfl⟩
  · refine ⟨?_, ?_, rfl⟩
    · simp only [Cache.links, field_update Entry.reserved,
        field_update (fun entry : Entry => entry.flags.valid), update_eq_self]
    · simp only [Cache.counts, field_update Entry.logicalBlockIndex,
        field_update Entry.referenceCount, field_update (fun entry : Entry => entry.flags.valid),
        update_eq_self]

end Filing

section Install

theorem writeEntry_links (cache : Cache) (index : Nat) (install : Installation)
    (block : Option Nat) :
    (writeEntry config cache index install block).links =
      { cache.links with
        entryValid := update cache.links.entryValid index true
        entryReserved := update cache.links.entryReserved index (some 0) } := by
  unfold writeEntry
  dsimp only
  rw [(refiled_linkEntry config _ index).links, (quiet_touchEntry config _ index).links]
  simp only [modifyEntry, Cache.links, field_update Entry.reserved,
    field_update (fun entry : Entry => entry.flags.valid)]

theorem writeEntry_counts (cache : Cache) (index : Nat) (install : Installation)
    (block : Option Nat) :
    (writeEntry config cache index install block).counts =
      { cache.counts with
        entryValid := update cache.counts.entryValid index true
        entryBlock := update cache.counts.entryBlock index block
        referenceCount := update cache.counts.referenceCount index 0 } := by
  unfold writeEntry
  dsimp only
  rw [(refiled_linkEntry config _ index).counts, (quiet_touchEntry config _ index).counts]
  simp only [modifyEntry, Cache.counts, field_update Entry.logicalBlockIndex,
    field_update Entry.referenceCount, field_update (fun entry : Entry => entry.flags.valid)]

theorem writeEntry_arena (cache : Cache) (index : Nat) (install : Installation)
    (block : Option Nat) : (writeEntry config cache index install block).arena = cache.arena :=
  (refiled_linkEntry config _ index).arena

/-- Where the block of an installed entry comes from, and what that leaves of the arena. -/
inductive BlockSource (config : Configuration) (index : Nat) (block : Option Nat)
    (before : Cache) (arena : KvCache.Arena) : Prop where
  | recycled (valid : (before.entries index).flags.valid = true)
      (same : block = (before.entries index).logicalBlockIndex)
      (succeeded : (recycleLogicalBlock config before block).1 = .ok)
      (left : arena = (recycleLogicalBlock config before block).2.arena)
  | acquired (free : (before.entries index).flags.valid = false)
      (succeeded : (acquireLogicalBlock config before index).1 = .ok)
      (handed : (acquireLogicalBlock config before index).2.1 = block)
      (left : arena = (acquireLogicalBlock config before index).2.2.arena)

/-- What a successful installation leaves behind. -/
structure Installed (config : Configuration) (index : Nat) (block : Option Nat)
    (before after : Cache) : Prop where
  inRange : index < config.entryCount
  unreferenced : (before.entries index).flags.valid = true →
    (before.entries index).referenceCount = 0
  source : BlockSource config index block before after.arena
  links : Linked config before.links → Linked config after.links
  counts : after.counts =
    { before.counts with
      entryValid := update before.counts.entryValid index true
      entryBlock := update before.counts.entryBlock index block
      referenceCount := update before.counts.referenceCount index 0 }

/-- A failed call changed at most how entries are filed and, if it got as far as recycling a
block, the arena. -/
structure Stalled (config : Configuration) (index : Nat) (before after : Cache) : Prop where
  links : after.links = before.links
  counts : after.counts = before.counts
  arena : after.arena = before.arena ∨
    after.arena = (recycleLogicalBlock config before (before.entries index).logicalBlockIndex).2.arena

theorem acquireLogicalBlock_arena (config : Configuration) (cache : Cache) (preferred : Nat) :
    (acquireLogicalBlock config cache preferred).2.2 =
      { cache with arena := (acquireLogicalBlock config cache preferred).2.2.arena } := by
  unfold acquireLogicalBlock
  split
  · rfl
  · split <;> rfl

theorem acquireLogicalBlock_failed {preferred : Nat}
    (failed : (acquireLogicalBlock config cache preferred).1 ≠ .ok) :
    (acquireLogicalBlock config cache preferred).2.2 = cache := by
  unfold acquireLogicalBlock at failed ⊢
  split
  · rename_i layout attached
    simp only [attached] at failed
    rcases KvCache.Arena.acquireBlock_cases layout cache.arena with ⟨-, same⟩ | ⟨_, succeeded, -⟩
    · simp only [same]
    · exact absurd succeeded failed
  · split <;> rfl

/-- Installing over an evicted entry keeps the free list; installing in the head of the free
list takes it off. -/
theorem installEntry_cases (config : Configuration) (cache : Cache) (index : Nat)
    (install : Installation) :
    ((installEntry config cache index install).1 ≠ .ok ∧
        Stalled config index cache (installEntry config cache index install).2) ∨
      ((installEntry config cache index install).1 = .ok ∧
        ∃ block, Installed config index block cache (installEntry config cache index install).2) := by
  unfold installEntry
  dsimp only
  split
  · exact Or.inl ⟨by simp, rfl, rfl, Or.inl rfl⟩
  · rename_i inRange
    split
    · rename_i valid
      split
      · exact Or.inl ⟨by simp, rfl, rfl, Or.inl rfl⟩
      · rename_i unreferenced
        obtain ⟨arena, recycledEq⟩ := recycleLogicalBlock_arena config cache
          (cache.entries index).logicalBlockIndex
        by_cases recycled : (recycleLogicalBlock config cache
            (cache.entries index).logicalBlockIndex).1 = .ok
        · rw [andThen_ok recycled, recycledEq]
          have refiled := refiled_unlinkEntry config { cache with arena := arena } index
          by_cases unlinked : (unlinkEntry config { cache with arena := arena } index).1 = .ok
          · rw [andThen_ok unlinked]
            refine .inr ⟨rfl, (cache.entries index).logicalBlockIndex, Nat.lt_of_not_le inRange,
              fun _ => by simpa using unreferenced, ?_, fun linked => ?_, ?_⟩
            · refine .recycled valid rfl recycled ?_
              rw [recycledEq]
              exact (writeEntry_arena _ _ _ _).trans refiled.arena
            · rw [writeEntry_links, refiled.links]
              refine ⟨linked.freeEntries.congr (fun i => ?_) fun i free => ?_, linked.freeBindings,
                linked.lookupChains, linked.sequenceChains⟩
              · by_cases here : i = index
                · simp [here, Cache.links, valid]
                · simp [here, Cache.links]
              · refine update_of_ne ?_ _ _
                rintro rfl
                exact absurd valid (by simpa [Cache.links] using free.2)
            · rw [writeEntry_counts, refiled.counts]
              rfl
          · rw [andThen_failed unlinked]
            refine .inl ⟨unlinked, refiled.links, refiled.counts, .inr ?_⟩
            rw [recycledEq]
            exact refiled.arena
        · rw [andThen_failed recycled]
          refine .inl ⟨recycled, ?_, ?_, .inr rfl⟩
          · rw [recycledEq]
            rfl
          · rw [recycledEq]
            rfl
    · rename_i free
      replace free : (cache.entries index).flags.valid = false := by simpa using free
      split
      · exact Or.inl ⟨by simp, rfl, rfl, Or.inl rfl⟩
      · rename_i head
        replace head : cache.freeEntryHead = some index := by simpa using head
        split
        · rename_i failed
          rw [acquireLogicalBlock_failed failed]
          exact .inl ⟨failed, rfl, rfl, .inl rfl⟩
        · rename_i succeeded
          replace succeeded : (acquireLogicalBlock config cache index).1 = .ok := by
            simpa using succeeded
          refine .inr ⟨rfl, _, Nat.lt_of_not_le inRange,
            fun valid => absurd valid (by simp [free]), .acquired free succeeded rfl ?_,
            fun linked => ?_, ?_⟩
          · exact writeEntry_arena _ _ _ _
          · rw [acquireLogicalBlock_arena, writeEntry_links]
            refine ⟨?_, linked.freeBindings, linked.lookupChains, linked.sequenceChains⟩
            have fromHead := linked.freeEntries
            rw [show cache.links.freeEntryHead = some index from head] at fromHead
            refine fromHead.pop (fun i _ different => ?_) fun i => ?_
            · exact update_of_ne different _ _
            · by_cases here : i = index
              · simp [here, Cache.links]
              · simp [here, Cache.links]
          · rw [acquireLogicalBlock_arena, writeEntry_counts]
            rfl

end Install

section Invalidate

theorem retireEntry_links (cache : Cache) (index : Nat) :
    (retireEntry cache index).links =
      { cache.links with
        entryValid := update cache.links.entryValid index false
        entryReserved := update cache.links.entryReserved index cache.freeEntryHead
        freeEntryHead := some index } := by
  simp only [retireEntry, modifyEntry, Cache.links, field_update Entry.reserved,
    field_update (fun entry : Entry => entry.flags.valid)]

theorem retireEntry_counts (cache : Cache) (index : Nat) :
    (retireEntry cache index).counts =
      { cache.counts with
        entryValid := update cache.counts.entryValid index false
        entryBlock := update cache.counts.entryBlock index none
        referenceCount := update cache.counts.referenceCount index 0 } := by
  simp only [retireEntry, modifyEntry, Cache.counts, field_update Entry.logicalBlockIndex,
    field_update Entry.referenceCount, field_update (fun entry : Entry => entry.flags.valid)]

/-- What a successful invalidation of a valid entry leaves behind. -/
structure Invalidated (config : Configuration) (index : Nat) (before after : Cache) : Prop where
  inRange : index < config.entryCount
  valid : (before.entries index).flags.valid = true
  unreferenced : (before.entries index).referenceCount = 0
  freed : (freeEntryBlock config before (before.entries index).logicalBlockIndex).1 = .ok
  arena : after.arena =
    (freeEntryBlock config before (before.entries index).logicalBlockIndex).2.arena
  links : Linked config before.links → Linked config after.links
  counts : after.counts =
    { before.counts with
      entryValid := update before.counts.entryValid index false
      entryBlock := update before.counts.entryBlock index none
      referenceCount := update before.counts.referenceCount index 0 }

/-- An invalidation that failed may have given the block back already. -/
structure Abandoned (config : Configuration) (index : Nat) (before after : Cache) : Prop where
  links : after.links = before.links
  counts : after.counts = before.counts
  arena : after.arena = before.arena ∨
    (before.entries index).flags.valid = true ∧ (before.entries index).referenceCount = 0 ∧
      after.arena = (freeEntryBlock config before (before.entries index).logicalBlockIndex).2.arena

theorem freeEntryBlock_arena (config : Configuration) (cache : Cache) (block : Option Nat) :
    ∃ arena, (freeEntryBlock config cache block).2 = { cache with arena := arena } := by
  unfold freeEntryBlock
  split
  · exact ⟨cache.arena, rfl⟩
  · exact onLogicalBlock_arena config cache _ block

theorem invalidateEntry_cases (config : Configuration) (cache : Cache) (index : Nat) :
    ((invalidateEntry config cache index).1 ≠ .ok ∧
        Abandoned config index cache (invalidateEntry config cache index).2) ∨
      (invalidateEntry config cache index = (.ok, cache) ∧
        (cache.entries index).flags.valid = false) ∨
      ((invalidateEntry config cache index).1 = .ok ∧
        Invalidated config index cache (invalidateEntry config cache index).2) := by
  unfold invalidateEntry
  dsimp only
  split
  · rename_i free
    exact Or.inr (Or.inl ⟨rfl, by simpa using free⟩)
  · rename_i valid
    replace valid : (cache.entries index).flags.valid = true := by simpa using valid
    split
    · exact Or.inl ⟨by simp, rfl, rfl, Or.inl rfl⟩
    · rename_i unreferenced
      replace unreferenced : (cache.entries index).referenceCount = 0 := by
        simpa using unreferenced
      split
      · exact Or.inl ⟨by simp, rfl, rfl, Or.inl rfl⟩
      · rename_i inRange
        obtain ⟨arena, freedEq⟩ :=
          freeEntryBlock_arena config cache (cache.entries index).logicalBlockIndex
        by_cases freed : (freeEntryBlock config cache
            (cache.entries index).logicalBlockIndex).1 = .ok
        · rw [andThen_ok freed, freedEq]
          have refiled := refiled_unlinkEntry config { cache with arena := arena } index
          by_cases unlinked : (unlinkEntry config { cache with arena := arena } index).1 = .ok
          · rw [andThen_ok unlinked]
            refine .inr (.inr ⟨rfl, Nat.lt_of_not_le inRange, valid, unreferenced, freed, ?_,
              fun linked => ?_, ?_⟩)
            · rw [freedEq]
              exact refiled.arena
            · have freeHead : (unlinkEntry config { cache with arena := arena } index).2.freeEntryHead =
                  cache.freeEntryHead := congrArg Links.freeEntryHead refiled.links
              rw [retireEntry_links, freeHead, refiled.links]
              refine ⟨?_, linked.freeBindings, linked.lookupChains, linked.sequenceChains⟩
              refine linked.freeEntries.push (update_self _ _ _) (fun i free => ?_)
                fun i => ?_
              · refine update_of_ne ?_ _ _
                rintro rfl
                exact absurd valid (by simpa [Cache.links] using free.2)
              · by_cases here : i = index
                · simp [here, Nat.lt_of_not_le inRange]
                · simp [here, Cache.links]
            · rw [retireEntry_counts, refiled.counts]
              rfl
          · rw [andThen_failed unlinked]
            refine .inl ⟨unlinked, refiled.links, refiled.counts, .inr ⟨valid, unreferenced, ?_⟩⟩
            rw [freedEq]
            exact refiled.arena
        · rw [andThen_failed freed]
          refine .inl ⟨freed, ?_, ?_, .inr ⟨valid, unreferenced, rfl⟩⟩
          · rw [freedEq]
            rfl
          · rw [freedEq]
            rfl

end Invalidate

end Sparkpipe.PrefixCache
