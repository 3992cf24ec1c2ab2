import Sparkpipe.Cache.Arena.Holdings
import Sparkpipe.Cache.Prefix.Ownership
import Sparkpipe.Lib.Update

/-!
# What the invariants read

Most writes of the prefix cache only note a use, a priority or a commit, and
relinking an entry changes nothing but its bucket chain. `links` keeps the
fields that thread the free lists and the binding chains, `counts` those that
say who refers to what, and `filing` those that place entries in their buckets.
A write that leaves one of these views alone leaves alone every invariant that
is stated over it.
-/

namespace Sparkpipe.PrefixCache

open Function

/-- The free lists and the binding chains. -/
structure Links where
  entryValid : Nat → Bool
  entryReserved : Nat → Option Nat
  freeEntryHead : Option Nat
  bindingValid : Nat → Bool
  bindingReserved : Nat → Option Nat
  freeBindingHead : Option Nat
  sequenceId : Nat → UInt64
  firstTokenIndex : Nat → Nat
  lookupHashNext : Nat → Option Nat
  sequenceHashNext : Nat → Option Nat
  lookupHeads : Nat → Option Nat
  sequenceHeads : Nat → Option Nat

/-- References: which binding is on which entry, and which block both hold. -/
structure Counts where
  entryValid : Nat → Bool
  entryBlock : Nat → Option Nat
  referenceCount : Nat → Nat
  bindingValid : Nat → Bool
  bindingEntry : Nat → Nat
  bindingBlock : Nat → Option Nat
  sequenceId : Nat → UInt64
  firstTokenIndex : Nat → Nat

/-- The bucket chains of the entries. -/
structure Filing where
  entryValid : Nat → Bool
  key : Nat → BlockKey
  hashNext : Nat → Option Nat
  heads : Nat → Option Nat
  unlinkEntryErrorCount : Nat

section Views

variable (cache : Cache)

def Cache.links : Links where
  entryValid i := (cache.entries i).flags.valid
  entryReserved i := (cache.entries i).reserved
  freeEntryHead := cache.freeEntryHead
  bindingValid i := (cache.bindings i).valid
  bindingReserved i := (cache.bindings i).reserved
  freeBindingHead := cache.freeBindingHead
  sequenceId i := (cache.bindings i).sequenceId
  firstTokenIndex i := (cache.bindings i).firstTokenIndex
  lookupHashNext i := (cache.bindings i).lookupHashNext
  sequenceHashNext i := (cache.bindings i).sequenceHashNext
  lookupHeads := cache.bindingLookupHashBucketHeads
  sequenceHeads := cache.bindingSequenceHashBucketHeads

def Cache.counts : Counts where
  entryValid i := (cache.entries i).flags.valid
  entryBlock i := (cache.entries i).logicalBlockIndex
  referenceCount i := (cache.entries i).referenceCount
  bindingValid i := (cache.bindings i).valid
  bindingEntry i := (cache.bindings i).entryIndex
  bindingBlock i := (cache.bindings i).logicalBlockIndex
  sequenceId i := (cache.bindings i).sequenceId
  firstTokenIndex i := (cache.bindings i).firstTokenIndex

def Cache.filing : Filing where
  entryValid i := (cache.entries i).flags.valid
  key i := (cache.entries i).key
  hashNext i := (cache.entries i).hashNext
  heads := cache.entryHashBucketHeads
  unlinkEntryErrorCount := cache.unlinkEntryErrorCount

end Views

/-- A field of an array of records after one record is written. -/
theorem field_update {α β : Type*} (field : α → β) (records : Nat → α) (index : Nat) (record : α) :
    (fun i => field (update records index record i)) =
      update (fun i => field (records i)) index (field record) :=
  funext fun i => Function.apply_update (fun _ => field) records index record i

/-- A field of the entries that a write of one entry keeps. -/
theorem entries_update_field {α : Type*} {cache : Cache} {index : Nat} {entry : Entry}
    (field : Entry → α) (kept : field entry = field (cache.entries index)) (i : Nat) :
    field (update cache.entries index entry i) = field (cache.entries i) :=
  update_field field kept i

/-- A field of the bindings that a write of one binding keeps. -/
theorem bindings_update_field {α : Type*} {cache : Cache} {index : Nat} {binding : Binding}
    (field : Binding → α) (kept : field binding = field (cache.bindings index)) (i : Nat) :
    field (update cache.bindings index binding i) = field (cache.bindings i) :=
  update_field field kept i

/-- A write of an entry that does not begin a reservation. -/
def SettlesEntry (before after : Entry) : Prop :=
  after.flags.pending = true →
    before.flags.pending = true ∧ after.reservationEpoch = before.reservationEpoch ∧
      (after.flags.reusable = true → before.flags.reusable = true)

/-- No reservation begins, and every binding keeps the epoch it was acquired in. -/
structure SettlesMarks (before after : Cache) : Prop where
  entries : ∀ i, SettlesEntry (before.entries i) (after.entries i)
  epochs : ∀ i, (after.bindings i).acquireEpoch = (before.bindings i).acquireEpoch

theorem settlesEntry_refl (entry : Entry) : SettlesEntry entry entry :=
  fun pending => ⟨pending, rfl, id⟩

namespace SettlesMarks

variable {first second third : Cache}

/-- A write beside the records. -/
theorem of_records (entries : second.entries = first.entries)
    (bindings : second.bindings = first.bindings) : SettlesMarks first second :=
  ⟨fun i => entries ▸ settlesEntry_refl (first.entries i), fun _ => bindings ▸ rfl⟩

theorem refl (cache : Cache) : SettlesMarks cache cache := of_records rfl rfl

theorem trans (one : SettlesMarks first second) (two : SettlesMarks second third) :
    SettlesMarks first third := by
  refine ⟨fun i pending => ?_, fun i => (two.epochs i).trans (one.epochs i)⟩
  obtain ⟨middle, sameEpoch, reusable⟩ := two.entries i pending
  obtain ⟨earlier, firstEpoch, firstReusable⟩ := one.entries i middle
  exact ⟨earlier, sameEpoch.trans firstEpoch, fun now => firstReusable (reusable now)⟩

end SettlesMarks

/-- A write that only the marks of an entry or a binding, the clocks or the epochs see. -/
structure Quiet (before after : Cache) : Prop where
  links : after.links = before.links
  counts : after.counts = before.counts
  filing : after.filing = before.filing
  arena : after.arena = before.arena
  marks : SettlesMarks before after

namespace Quiet

variable {first second third : Cache}

theorem refl (cache : Cache) : Quiet cache cache := ⟨rfl, rfl, rfl, rfl, .refl cache⟩

end Quiet

/-- A write of an entry that keeps its place in the bucket chains. -/
theorem filing_modifyEntry {cache : Cache} {index : Nat} {change : Entry → Entry}
    (valid : (change (cache.entries index)).flags.valid = (cache.entries index).flags.valid)
    (key : (change (cache.entries index)).key = (cache.entries index).key)
    (next : (change (cache.entries index)).hashNext = (cache.entries index).hashNext) :
    (modifyEntry cache index change).filing = cache.filing := by
  have valids := funext (entries_update_field (fun entry => entry.flags.valid) valid)
  have keys := funext (entries_update_field Entry.key key)
  have nexts := funext (entries_update_field Entry.hashNext next)
  simp only [Cache.filing, modifyEntry, valids, keys, nexts]

theorem quiet_modifyEntry {cache : Cache} {index : Nat} {change : Entry → Entry}
    (valid : (change (cache.entries index)).flags.valid = (cache.entries index).flags.valid)
    (key : (change (cache.entries index)).key = (cache.entries index).key)
    (block : (change (cache.entries index)).logicalBlockIndex =
      (cache.entries index).logicalBlockIndex)
    (references : (change (cache.entries index)).referenceCount =
      (cache.entries index).referenceCount)
    (reserved : (change (cache.entries index)).reserved = (cache.entries index).reserved)
    (next : (change (cache.entries index)).hashNext = (cache.entries index).hashNext)
    (settles : SettlesEntry (cache.entries index) (change (cache.entries index))) :
    Quiet cache (modifyEntry cache index change) := by
  have valids := funext (entries_update_field (fun entry => entry.flags.valid) valid)
  have blocks := funext (entries_update_field Entry.logicalBlockIndex block)
  have counted := funext (entries_update_field Entry.referenceCount references)
  have free := funext (entries_update_field Entry.reserved reserved)
  refine ⟨?_, ?_, filing_modifyEntry valid key next, rfl, fun i => ?_, fun _ => rfl⟩
  · simp only [Cache.links, modifyEntry, valids, free]
  · simp only [Cache.counts, modifyEntry, valids, blocks, counted]
  · by_cases here : i = index
    · subst here
      simpa [modifyEntry] using settles
    · simpa [modifyEntry, update_of_ne here] using settlesEntry_refl (cache.entries i)

theorem quiet_touchEntry (config : Configuration) (cache : Cache) (index : Nat) :
    Quiet cache (touchEntry config cache index) := by
  have noted : Quiet cache (modifyEntry cache index fun entry =>
      { entry with
        lastUsedTick := cache.tick + 1
        usedSeconds := config.clock cache.clockReadings }) :=
    quiet_modifyEntry rfl rfl rfl rfl rfl rfl (settlesEntry_refl _)
  exact ⟨noted.links, noted.counts, noted.filing, rfl, noted.marks.entries, noted.marks.epochs⟩

/-- Rewriting a binding in its marks only. -/
theorem quiet_modifyBinding {cache : Cache} {index : Nat} {change : Binding → Binding}
    (valid : (change (cache.bindings index)).valid = (cache.bindings index).valid)
    (entry : (change (cache.bindings index)).entryIndex = (cache.bindings index).entryIndex)
    (first : (change (cache.bindings index)).firstTokenIndex =
      (cache.bindings index).firstTokenIndex)
    (block : (change (cache.bindings index)).logicalBlockIndex =
      (cache.bindings index).logicalBlockIndex)
    (reserved : (change (cache.bindings index)).reserved = (cache.bindings index).reserved)
    (sequence : (change (cache.bindings index)).sequenceId = (cache.bindings index).sequenceId)
    (lookupNext : (change (cache.bindings index)).lookupHashNext =
      (cache.bindings index).lookupHashNext)
    (sequenceNext : (change (cache.bindings index)).sequenceHashNext =
      (cache.bindings index).sequenceHashNext)
    (epoch : (change (cache.bindings index)).acquireEpoch = (cache.bindings index).acquireEpoch) :
    Quiet cache (modifyBinding cache index change) := by
  have valids := funext (bindings_update_field Binding.valid valid)
  have entries := funext (bindings_update_field Binding.entryIndex entry)
  have firsts := funext (bindings_update_field Binding.firstTokenIndex first)
  have blocks := funext (bindings_update_field Binding.logicalBlockIndex block)
  have free := funext (bindings_update_field Binding.reserved reserved)
  have sequences := funext (bindings_update_field Binding.sequenceId sequence)
  have lookups := funext (bindings_update_field Binding.lookupHashNext lookupNext)
  have nexts := funext (bindings_update_field Binding.sequenceHashNext sequenceNext)
  refine ⟨?_, ?_, rfl, rfl, fun i => settlesEntry_refl _,
    bindings_update_field Binding.acquireEpoch epoch⟩
  · simp only [Cache.links, modifyBinding, valids, free, sequences, firsts, lookups, nexts]
  · simp only [Cache.counts, modifyBinding, valids, entries, blocks, sequences, firsts]

section LogicalBlocks

variable {config : Configuration} {cache : Cache}

/-- A call on a logical block reaches the arena only. -/
theorem onLogicalBlock_arena (config : Configuration) (cache : Cache)
    (call : KvCache.Layout → KvCache.Arena → Nat → SparkStatus × KvCache.Arena)
    (block : Option Nat) :
    ∃ arena, (onLogicalBlock config cache call block).2 = { cache with arena := arena } := by
  unfold onLogicalBlock
  split
  · exact ⟨cache.arena, rfl⟩
  · exact ⟨_, rfl⟩
  · exact ⟨cache.arena, rfl⟩
  · exact ⟨cache.arena, rfl⟩

theorem retainLogicalBlock_arena (config : Configuration) (cache : Cache) (block : Option Nat) :
    ∃ arena, (retainLogicalBlock config cache block).2 = { cache with arena := arena } :=
  onLogicalBlock_arena config cache _ block

theorem releaseLogicalBlockReference_arena (config : Configuration) (cache : Cache) (block : Option Nat) :
    ∃ arena, (releaseLogicalBlockReference config cache block).2 = { cache with arena := arena } :=
  onLogicalBlock_arena config cache _ block

theorem recycleLogicalBlock_arena (config : Configuration) (cache : Cache) (block : Option Nat) :
    ∃ arena, (recycleLogicalBlock config cache block).2 = { cache with arena := arena } :=
  onLogicalBlock_arena config cache _ block

theorem releaseLogicalBlockReference_failed {block : Option Nat}
    (failed : (releaseLogicalBlockReference config cache block).1 ≠ .ok) :
    (releaseLogicalBlockReference config cache block).2 = cache := by
  unfold releaseLogicalBlockReference onLogicalBlock at failed ⊢
  split
  · rfl
  · rename_i layout index attached
    rcases KvCache.Arena.releaseBlockReference_cases layout cache.arena index with
      ⟨-, same⟩ | ⟨succeeded, -⟩
    · simp only [same]
    · simp only [attached] at failed
      exact absurd succeeded failed
  · rfl
  · rfl

theorem retainLogicalBlock_failed {block : Option Nat}
    (failed : (retainLogicalBlock config cache block).1 ≠ .ok) :
    (retainLogicalBlock config cache block).2 = cache := by
  unfold retainLogicalBlock onLogicalBlock at failed ⊢
  split
  · rfl
  · rename_i layout index attached
    rcases KvCache.Arena.retainBlock_cases layout cache.arena index with
      ⟨-, same⟩ | ⟨succeeded, -⟩
    · simp only [same]
    · simp only [attached] at failed
      exact absurd succeeded failed
  · rfl
  · rfl

end LogicalBlocks

end Sparkpipe.PrefixCache
