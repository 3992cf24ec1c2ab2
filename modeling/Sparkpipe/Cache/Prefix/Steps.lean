import Sparkpipe.Cache.Prefix.Maintenance
import Sparkpipe.Cache.Prefix.Marked
import Mathlib.Logic.Relation

/-!
# Public calls as runs of internal operations

Every public call is a finite run of the operations below, on success and on
failure alike. What one operation keeps, every call therefore keeps. A moment of
a run is the cache together with the entry `CommitPrompt` holds, if any.

`Sound` is what the runs themselves need: the links, the references, the marks of
reservations, and the references of the arena. It holds unconditionally. Where
entries are filed is not part of it, since growing a sequence rewrites a field its
bucket depends on. A `Mode` names the runs of which more can be said: orderly ones
rewrite it only inside one bucket, and gentle ones neither reserve nor release.
-/

namespace Sparkpipe.PrefixCache

open Function
open Sparkpipe.KvCache (Layout Arena Holdings)

variable {config : Configuration} {exclusive : Prop} {held : Option Nat} {cache : Cache}
variable {layout : Layout}

section LogicalBlocks

theorem retainLogicalBlock_holdings {block : Option Nat}
    (attached : config.kvCacheArena = some layout)
    (succeeded : (retainLogicalBlock config cache block).1 = .ok) :
    ∃ b < layout.logicalBlockCount, block = some b ∧ cache.arena.holdings.allocated b = true ∧
      Arena.validate layout (retainLogicalBlock config cache block).2.arena = .ok ∧
      (retainLogicalBlock config cache block).2.arena.holdings =
        { cache.arena.holdings with
          referenceCount := update cache.arena.holdings.referenceCount b
            (cache.arena.holdings.referenceCount b + 1) } := by
  cases block with
  | none => simp [retainLogicalBlock, onLogicalBlock, attached] at succeeded
  | some b =>
    simp only [retainLogicalBlock, onLogicalBlock, attached] at succeeded ⊢
    rcases Arena.retainBlock_cases layout cache.arena b with
      ⟨failed, -⟩ | ⟨-, valid, inRange, allocated, left⟩
    · exact absurd succeeded failed
    · rw [left]
      exact ⟨b, inRange, rfl, allocated,
        Arena.validate_of_occupied valid (Arena.occupied_le_of_validate valid),
        Arena.useBlock_references _ _ _⟩

theorem releaseLogicalBlockReference_holdings {block : Option Nat}
    (attached : config.kvCacheArena = some layout)
    (succeeded : (releaseLogicalBlockReference config cache block).1 = .ok) :
    ∃ b < layout.logicalBlockCount, block = some b ∧ cache.arena.holdings.allocated b = true ∧
      Arena.validate layout (releaseLogicalBlockReference config cache block).2.arena = .ok ∧
      (releaseLogicalBlockReference config cache block).2.arena.holdings =
        { cache.arena.holdings with
          referenceCount := update cache.arena.holdings.referenceCount b
            (cache.arena.holdings.referenceCount b - 1) } := by
  cases block with
  | none => simp [releaseLogicalBlockReference, onLogicalBlock, attached] at succeeded
  | some b =>
    simp only [releaseLogicalBlockReference, onLogicalBlock, attached] at succeeded ⊢
    rcases Arena.releaseBlockReference_cases layout cache.arena b with
      ⟨failed, -⟩ | ⟨-, valid, inRange, allocated, -, left⟩
    · exact absurd succeeded failed
    · rw [left]
      exact ⟨b, inRange, rfl, allocated,
        Arena.validate_of_occupied valid (Arena.occupied_le_of_validate valid),
        Arena.useBlock_references _ _ _⟩

/-- Recycling a block keeps the holdings, and needs an unreferenced one to succeed. -/
theorem recycleLogicalBlock_holdings (cache : Cache) (block : Option Nat)
    (attached : config.kvCacheArena = some layout) :
    (recycleLogicalBlock config cache block).2.arena.holdings = cache.arena.holdings ∧
      (recycleLogicalBlock config cache block).2.arena.occupied = cache.arena.occupied ∧
      ((recycleLogicalBlock config cache block).1 = .ok →
        ∃ b < layout.logicalBlockCount, block = some b ∧
          cache.arena.holdings.allocated b = true) := by
  cases block with
  | none => simp [recycleLogicalBlock, onLogicalBlock, attached]
  | some b =>
    simp only [recycleLogicalBlock, onLogicalBlock, attached]
    obtain ⟨holdings, occupied, succeeded⟩ := Arena.recycleBlock_cases layout cache.arena b
    refine ⟨holdings, occupied, fun recycled => ?_⟩
    obtain ⟨-, inRange, allocated, -⟩ := succeeded recycled
    exact ⟨b, inRange, rfl, allocated⟩

/-- The three outcomes of giving an entry's block back. -/
theorem freeEntryBlock_holdings (cache : Cache) (block : Option Nat)
    (attached : config.kvCacheArena = some layout) :
    (Arena.validate layout cache.arena = .ok →
        Arena.validate layout (freeEntryBlock config cache block).2.arena = .ok) ∧
      ((freeEntryBlock config cache block).2.arena.holdings = cache.arena.holdings ∧
          ((freeEntryBlock config cache block).1 = .ok →
            ∀ b, block = some b → cache.arena.holdings.allocated b = false) ∨
        (freeEntryBlock config cache block).1 = .ok ∧
          ∃ b < layout.logicalBlockCount, block = some b ∧
            cache.arena.holdings.allocated b = true ∧ cache.arena.holdings.referenceCount b = 0 ∧
            (freeEntryBlock config cache block).2.arena.holdings =
              { cache.arena.holdings with
                allocated := update cache.arena.holdings.allocated b false
                freeNext := update cache.arena.holdings.freeNext b
                  cache.arena.holdings.freeHead
                freeHead := some b }) := by
  cases block with
  | none => simp [freeEntryBlock]
  | some b =>
    simp only [freeEntryBlock, if_neg (Option.some_ne_none b), freeLogicalBlock, onLogicalBlock,
      attached]
    obtain ⟨validates, failed | free | freed⟩ := Arena.freeBlock_cases layout cache.arena b
    · exact ⟨validates, Or.inl ⟨failed.2, fun succeeded => absurd succeeded failed.1⟩⟩
    · refine ⟨validates, .inl ⟨congrArg Arena.holdings free.2.2, fun _ other same => ?_⟩⟩
      cases same
      exact free.2.1
    · obtain ⟨succeeded, inRange, allocated, unreferenced, left⟩ := freed
      exact ⟨validates, .inr ⟨succeeded, b, inRange, rfl, allocated, unreferenced, left⟩⟩

/-- A block the arena hands out was free. -/
theorem acquireLogicalBlock_holdings (preferred : Nat) (attached : config.kvCacheArena = some layout)
    (succeeded : (acquireLogicalBlock config cache preferred).1 = .ok) :
    ∃ b < layout.logicalBlockCount, (acquireLogicalBlock config cache preferred).2.1 = some b ∧
      cache.arena.holdings.freeHead = some b ∧ cache.arena.holdings.allocated b = false ∧
      Arena.validate layout (acquireLogicalBlock config cache preferred).2.2.arena = .ok ∧
      (acquireLogicalBlock config cache preferred).2.2.arena.holdings =
        { allocated := update cache.arena.holdings.allocated b true
          referenceCount := update cache.arena.holdings.referenceCount b 0
          freeNext := update cache.arena.holdings.freeNext b none
          freeHead := cache.arena.holdings.freeNext b } := by
  simp only [acquireLogicalBlock, attached] at succeeded ⊢
  rcases Arena.acquireBlock_cases layout cache.arena with
    ⟨failed, -⟩ | ⟨b, -, handed, valid, inRange, head, free, occupied, left⟩
  · exact absurd succeeded failed
  · refine ⟨b, inRange, handed, head, free, ?_, left⟩
    exact Arena.validate_of_occupied valid (occupied ▸ Arena.occupied_le_of_validate valid)

end LogicalBlocks

section Lookups

/-- What a lookup reads of an entry, and its marks. -/
structure SameRecord (before after : Entry) : Prop where
  flags : after.flags = before.flags
  key : after.key = before.key
  contentDigest : after.contentDigest = before.contentDigest
  hashNext : after.hashNext = before.hashNext

/-- An entry has its own record. -/
theorem SameRecord.refl (entry : Entry) : SameRecord entry entry := ⟨rfl, rfl, rfl, rfl⟩

/-- A write that no lookup feels. -/
structure Unfelt (before after : Cache) : Prop where
  entries : ∀ i, SameRecord (before.entries i) (after.entries i)
  heads : after.entryHashBucketHeads = before.entryHashBucketHeads

namespace Unfelt

variable {first second third : Cache}

/-- Two writes that no lookup feels. -/
theorem trans (one : Unfelt first second) (two : Unfelt second third) : Unfelt first third := by
  refine ⟨fun i => ?_, two.heads.trans one.heads⟩
  obtain ⟨flags, key, digest, next⟩ := one.entries i
  obtain ⟨flags', key', digest', next'⟩ := two.entries i
  exact ⟨flags'.trans flags, key'.trans key, digest'.trans digest, next'.trans next⟩

/-- A write beside the entries. -/
theorem beside (entries : second.entries = first.entries)
    (heads : second.entryHashBucketHeads = first.entryHashBucketHeads) : Unfelt first second :=
  ⟨fun i => entries ▸ .refl (first.entries i), heads⟩

/-- A write of one entry. -/
theorem entry {index : Nat} {entry : Entry} (entries : second.entries = update first.entries index entry)
    (heads : second.entryHashBucketHeads = first.entryHashBucketHeads) (same : SameRecord (first.entries index) entry) :
    Unfelt first second := by
  refine ⟨fun i => ?_, heads⟩
  rw [entries]
  by_cases here : i = index
  · rw [here, update_self]
    exact same
  · rw [update_of_ne here]
    exact .refl _

/-- A call on a block of the arena writes no entry. -/
theorem onLogicalBlock (config : Configuration) (cache : Cache) (call : Layout → Arena → Nat → SparkStatus × Arena)
    (block : Option Nat) : Unfelt cache (PrefixCache.onLogicalBlock config cache call block).2 := by
  obtain ⟨arena, left⟩ := onLogicalBlock_arena config cache call block
  rw [left]
  exact beside rfl rfl

/-- Neither its last use nor its time of use is looked up. -/
theorem touchEntry (config : Configuration) (cache : Cache) (index : Nat) :
    Unfelt cache (PrefixCache.touchEntry config cache index) :=
  entry rfl rfl ⟨rfl, rfl, rfl, rfl⟩

end Unfelt

end Lookups

section Sound

/-- The links, the references, the marks and, while only this cache uses the arena, the
references of the arena. -/
structure Sound (config : Configuration) (exclusive : Prop) (held : Option Nat) (cache : Cache) :
    Prop where
  linked : Linked config cache.links
  counted : Counted config held cache.counts
  marked : Marked config held cache
  arena : ∀ layout, config.kvCacheArena = some layout →
    Arena.validate layout cache.arena = .ok ∧
      (exclusive → ArenaCounted config layout held cache.counts cache.arena.holdings)

/-- A write that moves payloads and leaves marks, and nothing else. -/
structure Settled (config : Configuration) (before after : Cache) : Prop where
  links : after.links = before.links
  counts : after.counts = before.counts
  filing : after.filing = before.filing
  marks : SettlesMarks before after
  arena : ∀ layout, config.kvCacheArena = some layout →
    Arena.Moved layout before.arena after.arena

theorem Quiet.settled {before after : Cache} (quiet : Quiet before after) :
    Settled config before after :=
  ⟨quiet.links, quiet.counts, quiet.filing, quiet.marks, fun _ _ => quiet.arena ▸ .refl⟩

theorem Settled.trans {first second third : Cache} (one : Settled config first second)
    (two : Settled config second third) : Settled config first third :=
  ⟨two.links.trans one.links, two.counts.trans one.counts, two.filing.trans one.filing,
    one.marks.trans two.marks, fun layout attached => (one.arena layout attached).trans (two.arena layout attached)⟩

/-- What is known of a run of internal operations, and what it refrains from. -/
structure Mode where
  /-- It begins in a sound cache. -/
  sound : Prop
  /-- Every tail grows inside its bucket. -/
  orderly : Prop
  /-- Nothing is reserved and no binding is released. -/
  gentle : Prop
  /-- No entry becomes reusable. -/
  uncommitted : Prop
  known : orderly → sound

/-- Any run at all. -/
def Mode.any : Mode := ⟨True, False, False, False, nofun⟩

/-- A run that keeps every entry in its bucket. -/
def Mode.filed : Mode := ⟨True, True, False, False, id⟩

theorem Mode.filed_orderly : Mode.filed.orderly := trivial

/-- A run that, besides, neither reserves nor releases. -/
def Mode.still : Mode := ⟨True, True, True, False, id⟩

/-- A run of which no more is known than that it begins in a sound cache. -/
structure Mode.Plain (mode : Mode) : Prop where
  known : mode.sound
  loud : ¬ mode.gentle
  open_ : ¬ mode.uncommitted

/-- A run that may begin anywhere, and commits only if it is allowed to. -/
def Mode.bare (committing : Prop) : Mode := ⟨False, False, False, ¬ committing, nofun⟩

/-- A write of payloads and marks, told by what it does to what a lookup reads. -/
inductive Write (config : Configuration) (mode : Mode) (before : Cache) : Cache → Prop where
  | unfelt {after : Cache} (unfelt : Unfelt before after) : Write config mode before after
  | commit (index : Nat) (reservationEpoch : UInt64) (open_ : ¬ mode.uncommitted) :
      Write config mode before (commitEntry config before index reservationEpoch).2
  | stale (index : Nat) : Write config mode before (modifyEntry before index fun entry =>
      { entry with flags := { entry.flags with reusable := false, stale := true } })
  | setResume (index : Nat) (resume : Bool) :
      Write config mode before (setResume before index resume)
  | setResumeChild (index : Nat) : Write config mode before (setResumeChild before index)

/-- One internal operation, from a moment of a call to the next. -/
inductive Step (config : Configuration) (mode : Mode) :
    Option Nat × Cache → Option Nat × Cache → Prop where
  | settle {held : Option Nat} {before after : Cache} (settled : Settled config before after)
      (write : Write config mode before after) : Step config mode (held, before) (held, after)
  | install {held : Option Nat} {cache : Cache} (index : Nat) (install : Installation)
      (fresh : install.flags.pending = true → install.flags.reusable = false)
      (calm : mode.gentle → install.flags.pending = false)
      (alone : install.flags.liveOnly = true → install.flags.reusable = false)
      (closed : mode.uncommitted → install.flags.reusable = false) :
      Step config mode (held, cache) (held, (installEntry config cache index install).2)
  | invalidate {held : Option Nat} {cache : Cache} (index : Nat) :
      Step config mode (held, cache) (held, (invalidateEntry config cache index).2)
  | acquire {held : Option Nat} {cache : Cache} (sequenceId : UInt64) (index : Nat)
      (operationEpoch : UInt64) (pending : Bool)
      (valid : mode.sound → (cache.entries index).flags.valid = true)
      (own : mode.sound → OwnReservation config cache sequenceId index operationEpoch) :
      Step config mode (held, cache)
        (held, (acquireEntryForSequence config cache sequenceId index operationEpoch pending).2)
  | release {held : Option Nat} {cache : Cache} (index : Nat) (loud : ¬ mode.gentle) :
      Step config mode (held, cache) (held, (releaseBinding config cache index).2)
  | extend {held : Option Nat} {cache : Cache} (binding index : Nat)
      (kept : mode.orderly → config.entryHashBucketCount ≠ 0 →
        entryBucket config { (cache.entries index).key with tokenCount := config.blockTokenCount } =
          entryBucket config (cache.entries index).key) :
      Step config mode (held, cache) (held, extendTail config cache binding index)
  | hold {cache : Cache} (index : Nat) (inRange : index < config.entryCount)
      (valid : (cache.entries index).flags.valid = true)
      (settled : (cache.entries index).flags.pending = false)
      (retained : (retainLogicalBlock config cache
        (cache.entries index).logicalBlockIndex).1 = .ok) :
      Step config mode (none, cache)
        (some index, holdEntry
          (retainLogicalBlock config cache (cache.entries index).logicalBlockIndex).2 index)
  | unhold {cache : Cache} (index : Nat) :
      Step config mode (some index, cache)
        (none, (releaseLogicalBlockReference config (unholdEntry cache index)
          ((unholdEntry cache index).entries index).logicalBlockIndex).2)

namespace Sound

theorem settle {before after : Cache} (sound : Sound config exclusive held before)
    (settled : Settled config before after) : Sound config exclusive held after := by
  refine ⟨settled.links ▸ sound.linked, settled.counts ▸ sound.counted,
    sound.marked.settle settled.counts settled.filing settled.marks, fun layout attached => ?_⟩
  obtain ⟨valid, arenaCounted⟩ := sound.arena layout attached
  have same := (settled.arena layout attached).same
  refine ⟨same.validates valid, fun alone => ?_⟩
  rw [settled.counts, same.holdings]
  exact arenaCounted alone

section

variable (sound : Sound config exclusive held cache)
include sound

theorem install (index : Nat) {install : Installation}
    (fresh : install.flags.pending = true → install.flags.reusable = false) :
    Sound config exclusive held (installEntry config cache index install).2 := by
  have marked := sound.marked.install sound.counted index fresh
  rcases installEntry_cases config cache index install with ⟨-, stalled⟩ | ⟨-, block, installed⟩
  · refine ⟨stalled.links ▸ sound.linked, stalled.counts ▸ sound.counted, marked,
      fun layout attached => ?_⟩
    obtain ⟨valid, arenaCounted⟩ := sound.arena layout attached
    rw [stalled.counts]
    rcases stalled.arena with same | recycled
    · rw [same]
      exact ⟨valid, arenaCounted⟩
    · obtain ⟨holdings, occupied, -⟩ := recycleLogicalBlock_holdings cache
        (cache.entries index).logicalBlockIndex attached
      rw [recycled, holdings]
      exact ⟨Arena.validate_of_occupied valid (occupied ▸ Arena.occupied_le_of_validate valid),
        arenaCounted⟩
  · refine ⟨installed.links sound.linked, sound.counted.installed installed, marked,
      fun layout attached => ?_⟩
    obtain ⟨valid, arenaCounted⟩ := sound.arena layout attached
    rw [installed.counts]
    cases installed.source with
    | recycled _ _ _ left =>
      obtain ⟨holdings, occupied, -⟩ := recycleLogicalBlock_holdings cache block attached
      rw [left, holdings]
      exact ⟨Arena.validate_of_occupied valid (occupied ▸ Arena.occupied_le_of_validate valid),
        fun alone => (arenaCounted alone).rewrite sound.counted installed.unreferenced⟩
    | acquired _ succeeded _ left =>
      obtain ⟨b, inRange, -, -, free, stillValid, holdings⟩ :=
        acquireLogicalBlock_holdings index attached succeeded
      rw [left, holdings]
      exact ⟨stillValid, fun alone => ((arenaCounted alone).handOver inRange
        (.inl free)).rewrite sound.counted installed.unreferenced⟩

/-- Giving a block back keeps the references of the arena. -/
theorem freed (block : Option Nat)
    (attached : config.kvCacheArena = some layout) :
    Arena.validate layout (freeEntryBlock config cache block).2.arena = .ok ∧
      (exclusive → ArenaCounted config layout held cache.counts
        (freeEntryBlock config cache block).2.arena.holdings) := by
  obtain ⟨valid, arenaCounted⟩ := sound.arena layout attached
  obtain ⟨validates, same | ⟨-, b, inRange, -, -, unreferenced, holdings⟩⟩ :=
    freeEntryBlock_holdings cache block attached
  · rw [same.1]
    exact ⟨validates valid, arenaCounted⟩
  · refine ⟨validates valid, fun alone => ?_⟩
    have kept : cache.arena.holdings.referenceCount =
        update cache.arena.holdings.referenceCount b 0 := by
      rw [← unreferenced, update_eq_self]
    rw [holdings]
    dsimp only
    rw [kept]
    exact (arenaCounted alone).handOver inRange (.inr unreferenced)

theorem invalidate (index : Nat) :
    Sound config exclusive held (invalidateEntry config cache index).2 := by
  have marked := sound.marked.invalidate sound.counted index
  rcases invalidateEntry_cases config cache index with
    ⟨-, abandoned⟩ | ⟨unchanged, -⟩ | ⟨-, invalidated⟩
  · refine ⟨abandoned.links ▸ sound.linked, abandoned.counts ▸ sound.counted, marked,
      fun layout attached => ?_⟩
    rw [abandoned.counts]
    rcases abandoned.arena with same | ⟨-, -, left⟩
    · rw [same]
      exact sound.arena layout attached
    · rw [left]
      exact sound.freed _ attached
  · rw [unchanged]
    exact sound
  · refine ⟨invalidated.links sound.linked, sound.counted.invalidated invalidated, marked,
      fun layout attached => ?_⟩
    obtain ⟨valid, arenaCounted⟩ :=
      sound.freed (cache.entries index).logicalBlockIndex attached
    rw [invalidated.counts, invalidated.arena]
    exact ⟨valid, fun alone =>
      (arenaCounted alone).rewrite sound.counted fun _ => invalidated.unreferenced⟩

theorem acquire (sequenceId : UInt64) (index : Nat)
    (operationEpoch : UInt64) (pending : Bool) (valid : (cache.entries index).flags.valid = true)
    (own : OwnReservation config cache sequenceId index operationEpoch) :
    Sound config exclusive held
      (acquireEntryForSequence config cache sequenceId index operationEpoch pending).2 := by
  rcases sound.linked.acquireEntryForSequence sequenceId index operationEpoch pending with
    quiet | ⟨-, binding, acquired⟩
  · exact sound.settle quiet.settled
  · refine ⟨acquired.links, sound.counted.acquired sound.linked valid acquired,
      sound.marked.acquire pending own, fun layout attached => ?_⟩
    obtain ⟨-, arenaCounted⟩ := sound.arena layout attached
    obtain ⟨b, inRange, here, allocated, stillValid, holdings⟩ :=
      retainLogicalBlock_holdings attached acquired.retained
    rw [acquired.counts, acquired.arena, holdings]
    exact ⟨stillValid, fun alone =>
      (arenaCounted alone).gain acquired.free acquired.inRange here inRange allocated⟩

theorem release (index : Nat) :
    Sound config exclusive held (releaseBinding config cache index).2 := by
  rcases sound.linked.releaseBinding index with ⟨unchanged, -⟩ | ⟨-, released⟩
  · rw [unchanged]
    exact sound
  · refine ⟨released.links, sound.counted.released released, sound.marked.release index,
      fun layout attached => ?_⟩
    obtain ⟨-, arenaCounted⟩ := sound.arena layout attached
    obtain ⟨b, inRange, here, allocated, stillValid, holdings⟩ :=
      releaseLogicalBlockReference_holdings attached released.released
    rw [released.counts, released.arena, holdings]
    exact ⟨stillValid, fun alone =>
      (arenaCounted alone).lose released.valid released.inRange here⟩

end

/-- Changing the references of an entry shows in the references only. -/
theorem references_modifyEntry (cache : Cache) (index : Nat) (change : Nat → Nat) :
    (modifyEntry cache index fun entry =>
        { entry with referenceCount := change entry.referenceCount }).links = cache.links ∧
      (modifyEntry cache index fun entry =>
        { entry with referenceCount := change entry.referenceCount }).filing = cache.filing ∧
      (modifyEntry cache index fun entry =>
          { entry with referenceCount := change entry.referenceCount }).counts =
        { cache.counts with
          referenceCount := update cache.counts.referenceCount index
            (change (cache.counts.referenceCount index)) } := by
  refine ⟨?_, filing_modifyEntry rfl rfl rfl, ?_⟩
  · simp only [modifyEntry, Cache.links, field_update Entry.reserved,
      field_update (fun entry : Entry => entry.flags.valid), update_eq_self]
  · simp only [modifyEntry, Cache.counts, field_update Entry.referenceCount,
      field_update Entry.logicalBlockIndex, field_update (fun entry : Entry => entry.flags.valid),
      update_eq_self]

theorem holdEntry_views (cache : Cache) (index : Nat) :
    (holdEntry cache index).links = cache.links ∧ (holdEntry cache index).filing = cache.filing ∧
      (holdEntry cache index).counts =
        { cache.counts with
          referenceCount := update cache.counts.referenceCount index
            (cache.counts.referenceCount index + 1) } :=
  references_modifyEntry cache index (· + 1)

theorem unholdEntry_views (cache : Cache) (index : Nat) :
    (unholdEntry cache index).links = cache.links ∧
      (unholdEntry cache index).filing = cache.filing ∧
      (unholdEntry cache index).counts =
        { cache.counts with
          referenceCount := update cache.counts.referenceCount index
            (cache.counts.referenceCount index - 1) } :=
  references_modifyEntry cache index (· - 1)

theorem hold (sound : Sound config exclusive none cache) {index : Nat} (inRange : index < config.entryCount)
    (valid : (cache.entries index).flags.valid = true)
    (settled : (cache.entries index).flags.pending = false)
    (retained : (retainLogicalBlock config cache (cache.entries index).logicalBlockIndex).1 = .ok) :
    Sound config exclusive (some index) (holdEntry
      (retainLogicalBlock config cache (cache.entries index).logicalBlockIndex).2 index) := by
  obtain ⟨arena, middle⟩ := retainLogicalBlock_arena config cache
    (cache.entries index).logicalBlockIndex
  have arenaHoldings := fun layout (attached : config.kvCacheArena = some layout) =>
    retainLogicalBlock_holdings attached retained
  rw [middle] at arenaHoldings ⊢
  obtain ⟨links, -, counts⟩ := holdEntry_views { cache with arena := arena } index
  refine ⟨?_, ?_, (sound.marked.congr_arena arena).hold settled, fun layout attached => ?_⟩
  · rw [links]
    exact sound.linked
  · rw [counts]
    refine ⟨sound.counted.bound, fun other otherInRange => ?_, sound.counted.unique, ?_⟩
    · have references := sound.counted.references other otherInRange
      rw [if_neg (by simp)] at references
      change update cache.counts.referenceCount index _ other =
        bindingsOf config cache.counts other + _
      by_cases here : other = index
      · subst here
        rw [update_self, if_pos rfl]
        exact congrArg (· + 1) references
      · rw [update_of_ne here, if_neg (by simpa using Ne.symm here), references]
    · intro other same
      cases same
      exact ⟨inRange, valid⟩
  · obtain ⟨-, arenaCounted⟩ := sound.arena layout attached
    obtain ⟨b, bInRange, here, allocated, stillValid, holdings⟩ := arenaHoldings layout attached
    refine ⟨stillValid, fun alone => ?_⟩
    change ArenaCounted config layout (some index) _ arena.holdings
    rw [counts, show arena.holdings = _ from holdings]
    refine ⟨fun other otherInRange => ?_, (arenaCounted alone).boundAllocated, ?_⟩
    · have references := (arenaCounted alone).references other otherInRange
      change update cache.arena.holdings.referenceCount b _ other =
        bindingsHolding config cache.counts other +
          if (cache.entries index).logicalBlockIndex = some other then 1 else 0
      change _ = _ + 0 at references
      rw [here]
      by_cases same : other = b
      · subst same
        rw [update_self, if_pos rfl, references]
      · rw [update_of_ne same, if_neg (by simpa using Ne.symm same), references]
    · intro other same
      cases same
      exact ⟨b, bInRange, here, allocated⟩

theorem unhold {index : Nat} (sound : Sound config exclusive (some index) cache) :
    Sound config exclusive none (releaseLogicalBlockReference config (unholdEntry cache index)
      ((unholdEntry cache index).entries index).logicalBlockIndex).2 := by
  obtain ⟨inRange, -⟩ := sound.counted.heldValid index rfl
  obtain ⟨links, -, counts⟩ := unholdEntry_views cache index
  have block : ((unholdEntry cache index).entries index).logicalBlockIndex =
      (cache.entries index).logicalBlockIndex := by
    simp [unholdEntry, modifyEntry]
  rw [block]
  obtain ⟨arena, after⟩ := releaseLogicalBlockReference_arena config (unholdEntry cache index)
    (cache.entries index).logicalBlockIndex
  refine ⟨?_, ?_, after ▸ sound.marked.unhold.congr_arena arena, fun layout attached => ?_⟩
  · rw [after]
    change Linked config (unholdEntry cache index).links
    rw [links]
    exact sound.linked
  · rw [after]
    change Counted config none (unholdEntry cache index).counts
    rw [counts]
    refine ⟨sound.counted.bound, fun other otherInRange => ?_, sound.counted.unique,
      fun _ absurdity => by cases absurdity⟩
    have references := sound.counted.references other otherInRange
    change update cache.counts.referenceCount index
      (cache.counts.referenceCount index - 1) other = bindingsOf config cache.counts other + 0
    by_cases here : other = index
    · subst here
      rw [if_pos rfl] at references
      rw [update_self, references]
      rfl
    · rw [if_neg (by simpa using Ne.symm here)] at references
      rw [update_of_ne here, references]
  · obtain ⟨valid, arenaCounted⟩ := sound.arena layout attached
    refine ⟨?_, fun alone => ?_⟩
    · by_cases succeeded : (releaseLogicalBlockReference config (unholdEntry cache index)
          (cache.entries index).logicalBlockIndex).1 = .ok
      · obtain ⟨-, -, -, -, stillValid, -⟩ :=
          releaseLogicalBlockReference_holdings attached succeeded
        exact stillValid
      · rw [releaseLogicalBlockReference_failed succeeded]
        exact valid
    replace arenaCounted := arenaCounted alone
    obtain ⟨b, bInRange, here, allocated⟩ := arenaCounted.heldAllocated index rfl
    replace here : (cache.entries index).logicalBlockIndex = some b := here
    have counted := arenaCounted.references b bInRange
    have one : heldOn (some index) cache.counts b = 1 := if_pos here
    have succeeded : (releaseLogicalBlockReference config (unholdEntry cache index)
        (cache.entries index).logicalBlockIndex).1 = .ok := by
      simp only [releaseLogicalBlockReference, onLogicalBlock, attached, here]
      refine Arena.releaseBlockReference_ok valid bInRange allocated ?_
      change cache.arena.holdings.referenceCount b ≠ 0
      omega
    obtain ⟨b', -, here', -, -, holdings⟩ :=
      releaseLogicalBlockReference_holdings attached succeeded
    have same : b = b' := by simpa [here] using here'
    subst same
    have countsAfter : (releaseLogicalBlockReference config (unholdEntry cache index)
        (cache.entries index).logicalBlockIndex).2.counts = (unholdEntry cache index).counts := by
      rw [after]
      rfl
    rw [countsAfter, counts, holdings]
    refine ⟨fun other otherInRange => ?_, arenaCounted.boundAllocated,
      fun _ absurdity => by cases absurdity⟩
    have references := arenaCounted.references other otherInRange
    change update cache.arena.holdings.referenceCount b
      (cache.arena.holdings.referenceCount b - 1) other =
        bindingsHolding config cache.counts other + 0
    by_cases same : other = b
    · subst same
      rw [update_self]
      omega
    · have zero : heldOn (some index) cache.counts other = 0 := by
        refine if_neg fun there => same ?_
        change (cache.entries index).logicalBlockIndex = some other at there
        simpa [here] using there.symm
      rw [update_of_ne same, references, zero]

/-- Growing a binding and its entry to a whole block shows in the bucket of the entry only. -/
theorem extend (sound : Sound config exclusive held cache) (binding index : Nat) :
    Sound config exclusive held (extendTail config cache binding index) := by
  have bound : Quiet cache (modifyBinding cache binding fun bound =>
      { bound with tokenCount := config.blockTokenCount }) :=
    quiet_modifyBinding rfl rfl rfl rfl rfl rfl rfl rfl rfl
  have grown := sound.settle bound.settled
  have links : (extendTail config cache binding index).links = (modifyBinding cache binding
      fun bound => { bound with tokenCount := config.blockTokenCount }).links := by
    simp only [extendTail, modifyEntry, Cache.links, field_update Entry.reserved,
      field_update (fun entry : Entry => entry.flags.valid), update_eq_self]
  have counts : (extendTail config cache binding index).counts = (modifyBinding cache binding
      fun bound => { bound with tokenCount := config.blockTokenCount }).counts := by
    simp only [extendTail, modifyEntry, Cache.counts, field_update Entry.referenceCount,
      field_update Entry.logicalBlockIndex, field_update (fun entry : Entry => entry.flags.valid),
      update_eq_self]
  exact ⟨links ▸ grown.linked, counts ▸ grown.counted, sound.marked.extend binding index,
    counts ▸ grown.arena⟩

/-- Every internal operation keeps a sound cache sound. -/
theorem step {mode : Mode} {before after : Option Nat × Cache} (known : mode.sound)
    (sound : Sound config exclusive before.1 before.2) (step : Step config mode before after) :
    Sound config exclusive after.1 after.2 := by
  cases step with
  | settle settled _ => exact sound.settle settled
  | install index install fresh _ _ _ => exact sound.install index fresh
  | invalidate index => exact sound.invalidate index
  | acquire sequenceId index operationEpoch pending valid own =>
    exact sound.acquire sequenceId index operationEpoch pending (valid known) (own known)
  | release index _ => exact sound.release index
  | extend binding index _ => exact sound.extend binding index
  | hold index inRange valid settled retained => exact sound.hold inRange valid settled retained
  | unhold index => exact sound.unhold

end Sound

end Sound

end Sparkpipe.PrefixCache
