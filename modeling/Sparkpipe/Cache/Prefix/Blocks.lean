import Sparkpipe.Cache.Prefix.Buckets

/-!
# The blocks of valid entries

In a cache that is the only user of its arena every valid entry owns a block: the
block is allocated, so it is not on the arena's free list, and no other valid
entry has it. `InvalidateEntry` frees the block before it unlinks the entry, so
this rests on the buckets: only an entry that is filed can be unlinked.
-/

namespace Sparkpipe.PrefixCache

open Function Sparkpipe.Chain
open Sparkpipe.KvCache (Layout Arena Holdings)

/-- Valid entries own distinct allocated blocks; the others are on the arena's free list. -/
structure Owned (config : Configuration) (layout : Layout) (counts : Counts)
    (holdings : Holdings) : Prop where
  allocated : ∀ i < config.entryCount, counts.entryValid i = true →
    ∃ b < layout.logicalBlockCount, counts.entryBlock i = some b ∧ holdings.allocated b = true
  distinct : ∀ i < config.entryCount, ∀ j < config.entryCount, counts.entryValid i = true →
    counts.entryValid j = true → counts.entryBlock i = counts.entryBlock j → i = j
  free : Listed holdings.freeNext holdings.freeHead fun b =>
    b < layout.logicalBlockCount ∧ holdings.allocated b = false

variable {config : Configuration} {layout : Layout} {counts : Counts} {holdings : Holdings}
variable {cache : Cache}

namespace Owned

section

variable (owned : Owned config layout counts holdings)
include owned

/-- Only the entries' blocks and the arena's free list matter. -/
theorem congr {counts' : Counts}
    {holdings' : Holdings} (valid : counts'.entryValid = counts.entryValid)
    (block : counts'.entryBlock = counts.entryBlock)
    (allocated : holdings'.allocated = holdings.allocated)
    (next : holdings'.freeNext = holdings.freeNext)
    (head : holdings'.freeHead = holdings.freeHead) : Owned config layout counts' holdings' := by
  refine ⟨?_, ?_, ?_⟩
  · rw [valid, block, allocated]
    exact owned.allocated
  · rw [valid, block]
    exact owned.distinct
  · rw [next, head, allocated]
    exact owned.free

/-- A new entry takes the head of the arena's free list. -/
theorem handOut {index block : Nat}
    {references : Nat → Nat} {blockReferences : Nat → Nat}
    (blockInRange : block < layout.logicalBlockCount) (head : holdings.freeHead = some block)
    (blockFree : holdings.allocated block = false) :
    Owned config layout
      { counts with
        entryValid := update counts.entryValid index true
        entryBlock := update counts.entryBlock index (some block)
        referenceCount := references }
      { allocated := update holdings.allocated block true
        referenceCount := blockReferences
        freeNext := update holdings.freeNext block none
        freeHead := holdings.freeNext block } := by
  -- an entry that was valid before owns another block
  have others : ∀ i < config.entryCount, i ≠ index → counts.entryValid i = true →
      counts.entryBlock i ≠ some block := by
    intro i inRange _ valid same
    obtain ⟨b, -, here, allocated⟩ := owned.allocated i inRange valid
    rw [same, Option.some.injEq] at here
    subst here
    rw [blockFree] at allocated
    cases allocated
  refine ⟨fun i inRange valid => ?_, fun i iInRange j jInRange iValid jValid same => ?_, ?_⟩
  · by_cases here : i = index
    · subst here
      exact ⟨block, blockInRange, by simp, by simp⟩
    · simp only [update_of_ne here] at valid ⊢
      obtain ⟨b, bInRange, there, allocated⟩ := owned.allocated i inRange valid
      refine ⟨b, bInRange, there, ?_⟩
      by_cases sameBlock : b = block
      · simp [sameBlock]
      · simpa [sameBlock] using allocated
  · by_cases iNew : i = index
    · by_cases jNew : j = index
      · exact iNew.trans jNew.symm
      · simp only [iNew, update_self, update_of_ne jNew] at jValid same
        exact absurd same.symm (others j jInRange jNew jValid)
    · by_cases jNew : j = index
      · simp only [jNew, update_self, update_of_ne iNew] at iValid same
        exact absurd same (others i iInRange iNew iValid)
      · simp only [update_of_ne iNew, update_of_ne jNew] at iValid jValid same
        exact owned.distinct i iInRange j jInRange iValid jValid same
  · have fromHead := owned.free
    rw [head] at fromHead
    refine fromHead.pop (fun j _ other => ?_) fun j => ?_
    · exact update_of_ne other _ _
    · by_cases here : j = block
      · simp [here]
      · simp [here]

/-- An entry that is cleared gives its block back. -/
theorem takeBack {index block : Nat}
    {references : Nat → Nat} (inRange : index < config.entryCount)
    (valid : counts.entryValid index = true) (here : counts.entryBlock index = some block)
    (blockInRange : block < layout.logicalBlockCount) (allocated : holdings.allocated block = true) :
    Owned config layout
      { counts with
        entryValid := update counts.entryValid index false
        entryBlock := update counts.entryBlock index none
        referenceCount := references }
      { holdings with
        allocated := update holdings.allocated block false
        freeNext := update holdings.freeNext block holdings.freeHead
        freeHead := some block } := by
  have others : ∀ i, update counts.entryValid index false i = true → i ≠ index := by
    rintro i stillValid rfl
    simp at stillValid
  refine ⟨fun i iInRange iValid => ?_, fun i iInRange j jInRange iValid jValid same => ?_, ?_⟩
  · have other := others i iValid
    simp only [update_of_ne other] at iValid ⊢
    obtain ⟨b, bInRange, there, bAllocated⟩ := owned.allocated i iInRange iValid
    refine ⟨b, bInRange, there, ?_⟩
    have different : b ≠ block := by
      rintro rfl
      exact other (owned.distinct i iInRange index inRange iValid valid (there.trans here.symm))
    simpa [different] using bAllocated
  · have iOther := others i iValid
    have jOther := others j jValid
    simp only [update_of_ne iOther, update_of_ne jOther] at iValid jValid same
    exact owned.distinct i iInRange j jInRange iValid jValid same
  · refine owned.free.push (update_self _ _ _) (fun j free => ?_) fun j => ?_
    · refine update_of_ne ?_ _ _
      rintro rfl
      rw [allocated] at free
      exact nomatch free.2
    · by_cases same : j = block
      · simp [same, blockInRange]
      · simp [same]

end

/-- Installing over an evicted entry keeps its block; installing in a free one takes a new
block. -/
theorem install (owned : Owned config layout cache.counts cache.arena.holdings)
    (attached : config.kvCacheArena = some layout) (index : Nat) (install : Installation) :
    Owned config layout (installEntry config cache index install).2.counts
      (installEntry config cache index install).2.arena.holdings := by
  have recycledSame := fun block => (recycleLogicalBlock_holdings cache block attached).1
  rcases installEntry_cases config cache index install with ⟨-, stalled⟩ | ⟨-, block, installed⟩
  · rcases stalled.arena with same | recycled
    · rw [stalled.counts, same]
      exact owned
    · rw [stalled.counts, recycled, recycledSame]
      exact owned
  · cases installed.source with
    | recycled valid same _ left =>
      have stillValid : update cache.counts.entryValid index true =
          cache.counts.entryValid :=
        update_eq_self_iff.mpr valid.symm
      have sameBlock : update cache.counts.entryBlock index block =
          cache.counts.entryBlock := update_eq_self_iff.mpr same
      rw [installed.counts, left, recycledSame, stillValid, sameBlock]
      exact owned.congr rfl rfl rfl rfl rfl
    | acquired _ succeeded handed left =>
      obtain ⟨b, inRange, out, head, free, -, after⟩ :=
        acquireLogicalBlock_holdings index attached succeeded
      rw [installed.counts, left, after, ← handed, out]
      exact owned.handOut inRange head free

/-- Invalidating a filed entry clears it together with its block, or changes neither. -/
theorem invalidate (owned : Owned config layout cache.counts cache.arena.holdings)
    (filed : EntriesFiled config cache.filing) (attached : config.kvCacheArena = some layout)
    (index : Nat) :
    Owned config layout (invalidateEntry config cache index).2.counts
      (invalidateEntry config cache index).2.arena.holdings := by
  rcases invalidateEntry_cases config cache index with
    ⟨failed, abandoned⟩ | ⟨unchanged, -⟩ | ⟨-, invalidated⟩
  · rw [abandoned.counts]
    rcases (filed.invalidate index).2 failed with same | ⟨notFreed, left⟩
    · rw [same]
      exact owned
    · obtain ⟨-, same | ⟨freed, -⟩⟩ := freeEntryBlock_holdings cache
        (cache.entries index).logicalBlockIndex attached
      · rw [left, same.1]
        exact owned
      · exact absurd freed notFreed
  · rw [unchanged]
    exact owned
  · obtain ⟨b, inRange, here, allocated⟩ :=
      owned.allocated index invalidated.inRange invalidated.valid
    obtain ⟨-, same | ⟨-, b', -, here', -, -, after⟩⟩ := freeEntryBlock_holdings cache
      (cache.entries index).logicalBlockIndex attached
    · have free := same.2 invalidated.freed b here
      rw [allocated] at free
      cases free
    · have sameBlock : b' = b := Option.some.inj (here'.symm.trans here)
      subst sameBlock
      rw [invalidated.counts, invalidated.arena, after]
      exact owned.takeBack invalidated.inRange invalidated.valid here inRange allocated

/-- Every internal operation of an orderly run keeps the ownership of blocks. -/
theorem step {exclusive : Prop} {mode : Mode} {before after : Option Nat × Cache}
    (owned : Owned config layout before.2.counts before.2.arena.holdings)
    (filed : EntriesFiled config before.2.filing) (sound : Sound config exclusive before.1 before.2)
    (attached : config.kvCacheArena = some layout) (step : Step config mode before after) :
    Owned config layout after.2.counts after.2.arena.holdings := by
  cases step with
  | settle settled _ =>
    dsimp only
    rw [settled.counts, (settled.arena layout attached).same.holdings]
    exact owned
  | install index install _ _ _ _ => exact owned.install attached index install
  | invalidate index => exact owned.invalidate filed attached index
  | acquire sequenceId index operationEpoch pending _ _ =>
    rcases sound.linked.acquireEntryForSequence sequenceId index operationEpoch pending with
      quiet | ⟨-, binding, acquired⟩
    · dsimp only
      rw [quiet.counts, quiet.arena]
      exact owned
    · obtain ⟨b, -, -, -, -, holdings⟩ :=
        retainLogicalBlock_holdings attached acquired.retained
      dsimp only
      rw [acquired.counts, acquired.arena, holdings]
      exact owned.congr rfl rfl rfl rfl rfl
  | release index _ =>
    rcases sound.linked.releaseBinding index with ⟨unchanged, -⟩ | ⟨-, released⟩
    · dsimp only
      rw [unchanged]
      exact owned
    · obtain ⟨b, -, -, -, -, holdings⟩ :=
        releaseLogicalBlockReference_holdings attached released.released
      dsimp only
      rw [released.counts, released.arena, holdings]
      exact owned.congr rfl rfl rfl rfl rfl
  | @extend held cache binding index kept =>
    have valid : (extendTail config cache binding index).counts.entryValid =
        cache.counts.entryValid := by
      simp only [extendTail, modifyEntry, modifyBinding, Cache.counts,
        field_update (fun entry : Entry => entry.flags.valid), update_eq_self]
    have block : (extendTail config cache binding index).counts.entryBlock =
        cache.counts.entryBlock := by
      simp only [extendTail, modifyEntry, modifyBinding, Cache.counts,
        field_update Entry.logicalBlockIndex, update_eq_self]
    exact owned.congr valid block rfl rfl rfl
  | @hold cache index inRange valid _ retained =>
    obtain ⟨b, -, -, -, -, holdings⟩ := retainLogicalBlock_holdings attached retained
    obtain ⟨arena, middle⟩ := retainLogicalBlock_arena config cache
      (cache.entries index).logicalBlockIndex
    rw [middle] at holdings
    dsimp only
    rw [(Sound.holdEntry_views _ _).2.2, middle]
    change Owned config layout _ arena.holdings
    rw [show arena.holdings = _ from holdings]
    exact owned.congr rfl rfl rfl rfl rfl
  | @unhold cache index =>
    have counts := (Sound.unholdEntry_views cache index).2.2
    dsimp only
    by_cases succeeded : (releaseLogicalBlockReference config (unholdEntry cache index)
        ((unholdEntry cache index).entries index).logicalBlockIndex).1 = .ok
    · obtain ⟨b, -, -, -, -, holdings⟩ :=
        releaseLogicalBlockReference_holdings attached succeeded
      obtain ⟨arena, left⟩ := releaseLogicalBlockReference_arena config (unholdEntry cache index)
        ((unholdEntry cache index).entries index).logicalBlockIndex
      rw [left] at holdings ⊢
      change Owned config layout (unholdEntry cache index).counts arena.holdings
      rw [counts, show arena.holdings = _ from holdings]
      exact owned.congr rfl rfl rfl rfl rfl
    · rw [releaseLogicalBlockReference_failed succeeded, counts]
      exact owned.congr rfl rfl rfl rfl rfl

end Owned

section Runs

/-- No two valid entries share a block, and the block of each is allocated and not on the arena's
free list. -/
structure BlocksOwned (config : Configuration) (layout : Layout) (cache : Cache) : Prop where
  distinct : ∀ i < config.entryCount, ∀ j < config.entryCount, i ≠ j →
    (cache.entries i).flags.valid = true → (cache.entries j).flags.valid = true →
    (cache.entries i).logicalBlockIndex ≠ (cache.entries j).logicalBlockIndex
  allocated : ∀ i < config.entryCount, (cache.entries i).flags.valid = true →
    ∃ block < layout.logicalBlockCount, (cache.entries i).logicalBlockIndex = some block ∧
      (cache.arena.blocks block).allocated = true ∧
      ∀ visited, Follows (fun b => (cache.arena.blocks b).freeNext)
        cache.arena.freeLogicalBlockHead visited → block ∉ visited

theorem Owned.blocksOwned (owned : Owned config layout cache.counts cache.arena.holdings) :
    BlocksOwned config layout cache := by
  refine ⟨fun i iInRange j jInRange different iValid jValid same =>
    different (owned.distinct i iInRange j jInRange iValid jValid same), fun i inRange valid => ?_⟩
  obtain ⟨b, bInRange, here, allocated⟩ := owned.allocated i inRange valid
  refine ⟨b, bInRange, here, allocated, fun visited chain member => ?_⟩
  obtain ⟨list, follows, members⟩ := owned.free
  rw [chain.unique follows] at member
  have free := ((members b).mp member).2
  exact Bool.noConfusion (free.symm.trans allocated)

theorem Fresh.owned (fresh : Fresh config cache)
    (holdings : cache.arena.holdings = (Arena.initial layout).holdings)
    (valid : Arena.validate layout cache.arena = .ok) :
    Owned config layout cache.counts cache.arena.holdings := by
  have free : ∀ i < config.entryCount, cache.counts.entryValid i ≠ true := by
    intro i inRange valid
    change (cache.entries i).flags.valid = true at valid
    rw [fresh.entries i inRange] at valid
    cases valid
  have positive := Arena.nonempty_of_validate valid
  refine ⟨fun i inRange valid => absurd valid (free i inRange),
    fun i iInRange _ _ valid => absurd valid (free i iInRange), ?_⟩
  rw [holdings]
  exact listed_successors (fun _ => rfl) positive fun b => by simp [Arena.holdings, Arena.initial,
    Arena.initializeBlock]

/-- In every run whose growing calls keep their tails in their buckets, the valid entries own
their blocks after every call. -/
theorem blocks_owned (config : Configuration) (layout : Layout) (arena : Arena)
    (operations : List Operation) (attached : config.kvCacheArena = some layout)
    (accepted : Accepted config arena) (unused : ArenaUnused config arena)
    (keeps : RunKeepsBuckets config (operations.map .call) (initialCache config arena)) :
    BlocksOwned config layout
      (run config (operations.map .call) (initialCache config arena)) := by
  have kept := run_keeps
    (P := fun now => EntriesFiled config now.2.filing ∧
      Owned config layout now.2.counts now.2.arena.holdings)
    ⟨trivial, id, id⟩ accepted.validate
    (fun before after sound holds (step : Step config .filed before after) =>
      ⟨holds.1.step sound trivial step, holds.2.step holds.1 sound attached step⟩)
    (fun cache sound holds => ?_) (fun shared => absurd trivial shared) (legal_calls operations)
    (fun (_ : True) => alone_calls operations) (fun _ => keeps)
    (sound_initialCache accepted fun _ => unused) ?_
  · exact kept.2.2.blocksOwned
  · obtain ⟨fresh, errors, after⟩ := fresh_reset sound accepted.validate
    obtain ⟨valid, left⟩ := after layout attached
    exact ⟨fresh.entriesFiled (errors.trans holds.1.noError),
      fresh.owned (by rw [left]; rfl) valid⟩
  · exact ⟨(fresh_initialCache config arena).entriesFiled rfl, (fresh_initialCache config arena).owned
      (congrArg Arena.holdings (unused layout attached)) (accepted.arena layout attached)⟩

theorem blocks_owned_shared :
    (sharedPrompt.entries 0).flags.valid = true ∧ (sharedPrompt.entries 1).flags.valid = true ∧
      BlocksOwned twoBlockConfiguration twoBlockLayout sharedPrompt :=
  ⟨by decide +kernel, by decide +kernel, blocks_owned _ _ _ sharePrompt rfl accepted_twoBlock unused_twoBlock
    ⟨trivial, trivial, trivial, trivial, trivial⟩⟩

/-- The release of a sequence over token 2 frees the block of its grown tail, fails to unlink the
entry, and leaves it valid. -/
theorem blocks_not_always_owned :
    ¬ ∀ (config : Configuration) (layout : Layout) (arena : Arena) (operations : List Operation),
      config.kvCacheArena = some layout → Accepted config arena → ArenaUnused config arena →
      BlocksOwned config layout
        (run config (operations.map .call) (initialCache config arena)) := by
  intro always
  have owned := always oneBlockConfiguration oneBlockLayout (Arena.initial oneBlockLayout)
    (growOneBlock 2 ++ [Operation.releaseSequence 1]) rfl accepted_oneBlock unused_oneBlock
  generalize after : run oneBlockConfiguration
    ((growOneBlock 2 ++ [Operation.releaseSequence 1]).map .call)
    (initialCache oneBlockConfiguration (Arena.initial oneBlockLayout)) = cache at owned
  have valid : (cache.entries 0).flags.valid = true := by
    rw [← after]
    decide +kernel
  have freed : (cache.arena.blocks 0).allocated = false := by
    rw [← after]
    decide +kernel
  obtain ⟨block, inRange, -, allocated, -⟩ := owned.allocated 0 (by decide) valid
  have only : block = 0 := by
    change block < 1 at inRange
    omega
  rw [only, freed] at allocated
  cases allocated

end Runs

end Sparkpipe.PrefixCache
