import Sparkpipe.Cache.Arena.Residency
import Sparkpipe.Cache.Prefix.Blocks

/-!
# What can always be taken back

In a cache that is the only user of its arena and keeps its entries filed, a valid
binding can always be released, an entry without references can always be
invalidated, and an entry can be bound as long as a binding is free. `Kept` gathers
the invariants this rests on; every orderly internal operation keeps them.
-/

namespace Sparkpipe.PrefixCache

open Function Sparkpipe.Chain
open Sparkpipe.KvCache (Layout Arena Holdings)

variable {config : Configuration} {layout : Layout} {held : Option Nat} {cache : Cache}

section Arena

variable (attached : config.kvCacheArena = some layout)
include attached

theorem housed_onLogicalBlock {call : Layout → Arena → Nat → SparkStatus × Arena}
    (keeps : ∀ index, Arena.Housed layout (call layout cache.arena index).2)
    (housed : Arena.Housed layout cache.arena) (block : Option Nat) :
    Arena.Housed layout (onLogicalBlock config cache call block).2.arena := by
  cases block with
  | none => simpa [onLogicalBlock, attached] using housed
  | some index => simpa [onLogicalBlock, attached] using keeps index

theorem housed_install (housed : Arena.Housed layout cache.arena) (index : Nat) (install : Installation) :
    Arena.Housed layout (installEntry config cache index install).2.arena := by
  have recycled := fun block =>
    housed_onLogicalBlock attached (fun b => housed.recycleBlock b) housed block
  rcases installEntry_cases config cache index install with ⟨-, stalled⟩ | ⟨-, block, installed⟩
  · rcases stalled.arena with same | left
    · rw [same]
      exact housed
    · rw [left]
      exact recycled _
  · cases installed.source with
    | recycled _ _ _ left =>
      rw [left]
      exact recycled _
    | acquired _ _ _ left =>
      rw [left]
      simpa [acquireLogicalBlock, attached] using housed.acquireBlock

theorem housed_freeEntryBlock (housed : Arena.Housed layout cache.arena) (block : Option Nat) :
    Arena.Housed layout (freeEntryBlock config cache block).2.arena := by
  unfold freeEntryBlock
  split
  · exact housed
  · exact housed_onLogicalBlock attached (fun b => housed.freeBlock b) housed block

theorem housed_invalidate (housed : Arena.Housed layout cache.arena) (index : Nat) :
    Arena.Housed layout (invalidateEntry config cache index).2.arena := by
  have freed := housed_freeEntryBlock attached housed (cache.entries index).logicalBlockIndex
  rcases invalidateEntry_cases config cache index with
    ⟨-, abandoned⟩ | ⟨unchanged, -⟩ | ⟨-, invalidated⟩
  · rcases abandoned.arena with same | ⟨-, -, left⟩
    · rw [same]
      exact housed
    · rw [left]
      exact freed
  · rw [unchanged]
    exact housed
  · rw [invalidated.arena]
    exact freed

/-- Every internal operation keeps an arena that nothing pins so. -/
theorem housed_step {exclusive : Prop} {mode : Mode} {before after : Option Nat × Cache}
    (housed : Arena.Housed layout before.2.arena)
    (sound : Sound config exclusive before.1 before.2) (step : Step config mode before after) :
    Arena.Housed layout after.2.arena := by
  cases step with
  | settle settled _ => exact housed.moved (settled.arena layout attached)
  | install index install _ _ _ _ => exact housed_install attached housed index install
  | invalidate index => exact housed_invalidate attached housed index
  | acquire sequenceId index operationEpoch pending _ _ =>
    rcases sound.linked.acquireEntryForSequence sequenceId index operationEpoch pending with
      quiet | ⟨-, binding, acquired⟩
    · dsimp only
      rw [quiet.arena]
      exact housed
    · dsimp only
      rw [acquired.arena]
      exact housed_onLogicalBlock attached (fun b => housed.retainBlock b) housed _
  | release index _ =>
    rcases sound.linked.releaseBinding index with ⟨unchanged, -⟩ | ⟨-, released⟩
    · dsimp only
      rw [unchanged]
      exact housed
    · dsimp only
      rw [released.arena]
      exact housed_onLogicalBlock attached (fun b => housed.releaseBlockReference b) housed _
  | extend binding index _ => exact housed
  | hold index _ _ _ _ =>
    exact housed_onLogicalBlock attached (fun b => housed.retainBlock b) housed _
  | @unhold cache index =>
    have kept : Arena.Housed layout (unholdEntry cache index).arena := housed
    exact housed_onLogicalBlock attached (fun b => kept.releaseBlockReference b) kept _

end Arena

section Numbered

/-- Every valid entry has a block number below `logicalBlockCount`. -/
def Numbered (config : Configuration) (counts : Counts) : Prop :=
  ∀ e < config.entryCount, counts.entryValid e = true →
    ∃ b < config.logicalBlockCount, counts.entryBlock e = some b

theorem Numbered.congr {before after : Counts} (numbered : Numbered config before)
    (valid : after.entryValid = before.entryValid) (block : after.entryBlock = before.entryBlock) :
    Numbered config after := by
  intro e inRange isValid
  rw [valid] at isValid
  rw [block]
  exact numbered e inRange isValid

theorem Numbered.install (numbered : Numbered config cache.counts)
    (detached : config.kvCacheArena = none) (index : Nat) (install : Installation) :
    Numbered config (installEntry config cache index install).2.counts := by
  rcases installEntry_cases config cache index install with ⟨-, stalled⟩ | ⟨-, block, installed⟩
  · rw [stalled.counts]
    exact numbered
  · rw [installed.counts]
    intro e inRange valid
    by_cases here : e = index
    · subst here
      simp only [update_self]
      cases installed.source with
      | recycled wasValid same _ _ =>
        rw [same]
        exact numbered e inRange wasValid
      | acquired _ succeeded handed _ =>
        simp only [acquireLogicalBlock, detached] at succeeded handed
        split at succeeded
        · cases succeeded
        · rename_i fits
          rw [if_neg fits] at handed
          exact ⟨e, Nat.lt_of_not_le fits, handed.symm⟩
    · simp only [update_of_ne here] at valid ⊢
      exact numbered e inRange valid

theorem Numbered.invalidate (numbered : Numbered config cache.counts) (index : Nat) :
    Numbered config (invalidateEntry config cache index).2.counts := by
  rcases invalidateEntry_cases config cache index with
    ⟨-, abandoned⟩ | ⟨unchanged, -⟩ | ⟨-, invalidated⟩
  · rw [abandoned.counts]
    exact numbered
  · rw [unchanged]
    exact numbered
  · rw [invalidated.counts]
    intro e inRange valid
    by_cases here : e = index
    · subst here
      simp at valid
    · simp only [update_of_ne here] at valid ⊢
      exact numbered e inRange valid

theorem Numbered.step {exclusive : Prop} {mode : Mode} {before after : Option Nat × Cache}
    (numbered : Numbered config before.2.counts) (detached : config.kvCacheArena = none)
    (sound : Sound config exclusive before.1 before.2) (step : Step config mode before after) :
    Numbered config after.2.counts := by
  cases step with
  | settle settled _ =>
    dsimp only
    rw [settled.counts]
    exact numbered
  | install index install _ _ _ _ => exact numbered.install detached index install
  | invalidate index => exact numbered.invalidate index
  | acquire sequenceId index operationEpoch pending _ _ =>
    rcases sound.linked.acquireEntryForSequence sequenceId index operationEpoch pending with
      quiet | ⟨-, binding, acquired⟩
    · exact quiet.counts ▸ numbered
    · dsimp only
      rw [acquired.counts]
      exact numbered.congr rfl rfl
  | release index _ =>
    rcases sound.linked.releaseBinding index with ⟨unchanged, -⟩ | ⟨-, released⟩
    · exact unchanged.symm ▸ numbered
    · dsimp only
      rw [released.counts]
      exact numbered.congr rfl rfl
  | @extend held cache binding index _ =>
    refine numbered.congr ?_ ?_
    · simp only [extendTail, modifyEntry, modifyBinding, Cache.counts,
        field_update (fun entry : Entry => entry.flags.valid), update_eq_self]
    · simp only [extendTail, modifyEntry, modifyBinding, Cache.counts,
        field_update Entry.logicalBlockIndex, update_eq_self]
  | @hold cache index _ _ _ _ =>
    dsimp only
    rw [(Sound.holdEntry_views _ _).2.2]
    obtain ⟨arena, middle⟩ := retainLogicalBlock_arena config cache
      (cache.entries index).logicalBlockIndex
    rw [middle]
    exact numbered.congr rfl rfl
  | @unhold cache index =>
    obtain ⟨arena, left⟩ := releaseLogicalBlockReference_arena config (unholdEntry cache index)
      ((unholdEntry cache index).entries index).logicalBlockIndex
    dsimp only
    rw [left]
    change Numbered config (unholdEntry cache index).counts
    rw [(Sound.unholdEntry_views cache index).2.2]
    exact numbered.congr rfl rfl

end Numbered

section Kept

/-- The invariants of an orderly run of a cache that has its arena to itself. -/
structure Kept (config : Configuration) (now : Option Nat × Cache) : Prop where
  sound : Sound config True now.1 now.2
  filed : EntriesFiled config now.2.filing
  owned : ∀ layout, config.kvCacheArena = some layout →
    Owned config layout now.2.counts now.2.arena.holdings
  housed : ∀ layout, config.kvCacheArena = some layout → Arena.Housed layout now.2.arena
  numbered : config.kvCacheArena = none → Numbered config now.2.counts

namespace Kept

variable {mode : Mode} {before after : Option Nat × Cache}

theorem step (kept : Kept config before) (orderly : mode.orderly)
    (step : Step config mode before after) : Kept config after where
  sound := kept.sound.step (mode.known orderly) step
  filed := kept.filed.step kept.sound orderly step
  owned layout attached := (kept.owned layout attached).step kept.filed kept.sound attached step
  housed layout attached := housed_step attached (kept.housed layout attached) kept.sound step
  numbered detached := (kept.numbered detached).step detached kept.sound step

theorem reached (kept : Kept config before) (orderly : mode.orderly)
    (reached : Reached config True mode before after) : Kept config after := by
  obtain ⟨steps, -⟩ := reached
  induction steps with
  | refl => exact kept
  | tail _ last ih => exact ih.step orderly last

variable (kept : Kept config (held, cache))
include kept

/-- The block of a valid entry without references has none either. -/
theorem block_unreferenced {index b : Nat}
    (attached : config.kvCacheArena = some layout) (inRange : index < config.entryCount)
    (valid : (cache.entries index).flags.valid = true)
    (unreferenced : (cache.entries index).referenceCount = 0)
    (blockInRange : b < layout.logicalBlockCount)
    (block : (cache.entries index).logicalBlockIndex = some b) :
    cache.arena.holdings.referenceCount b = 0 := by
  have counted := kept.sound.counted
  have owned := kept.owned layout attached
  have idle : Counted.Unreferenced cache.counts index := fun _ => unreferenced
  rw [((kept.sound.arena layout attached).2 trivial).references b blockInRange]
  have noBinding : bindingsHolding config cache.counts b = 0 := by
    refine tally_eq_zero fun i bindingInRange => ?_
    cases bindingValid : cache.counts.bindingValid i with
    | false => simp
    | true =>
      obtain ⟨entryInRange, entryValid, sameBlock⟩ :=
        counted.bound i bindingInRange bindingValid
      have other := counted.not_bound idle bindingInRange bindingValid
      have different : cache.counts.bindingBlock i ≠ some b := by
        intro there
        exact other (owned.distinct _ entryInRange index inRange entryValid valid
          ((sameBlock.symm.trans there).trans block.symm))
      simpa [bindingValid] using different
  have notHeld : heldOn held cache.counts b = 0 := by
    refine if_neg fun there => ?_
    cases held with
    | none => cases there
    | some e =>
      obtain ⟨heldInRange, heldValid⟩ := counted.heldValid e rfl
      have same := owned.distinct e heldInRange index inRange heldValid valid
        (there.trans block.symm)
      exact counted.not_held idle (congrArg some same)
  rw [noBinding, notHeld]

/-- A valid entry's block, as a call on it sees it. -/
theorem onLogicalBlock_ok {index : Nat}
    {call : Layout → Arena → Nat → SparkStatus × Arena} (inRange : index < config.entryCount)
    (valid : (cache.entries index).flags.valid = true)
    (succeeds : ∀ layout b, config.kvCacheArena = some layout → b < layout.logicalBlockCount →
      (cache.entries index).logicalBlockIndex = some b →
      cache.arena.holdings.allocated b = true → (call layout cache.arena b).1 = .ok) :
    (onLogicalBlock config cache call (cache.entries index).logicalBlockIndex).1 = .ok := by
  cases attached : config.kvCacheArena with
  | none =>
    obtain ⟨b, fits, block⟩ := kept.numbered attached index inRange valid
    replace block : (cache.entries index).logicalBlockIndex = some b := block
    simp only [onLogicalBlock, attached, block, if_pos fits]
  | some layout =>
    obtain ⟨b, blockInRange, block, allocated⟩ :=
      (kept.owned layout attached).allocated index inRange valid
    replace block : (cache.entries index).logicalBlockIndex = some b := block
    have succeeded := succeeds layout b attached blockInRange block allocated
    simpa only [onLogicalBlock, attached, block] using succeeded

/-- A valid entry without references can be invalidated. -/
theorem invalidateEntry_ok {index : Nat}
    (inRange : index < config.entryCount)
    (unreferenced : (cache.entries index).flags.valid = true →
      (cache.entries index).referenceCount = 0) :
    (invalidateEntry config cache index).1 = .ok := by
  unfold invalidateEntry
  dsimp only
  split
  · rfl
  · rename_i isValid
    have valid : (cache.entries index).flags.valid = true := by simpa using isValid
    rw [if_neg (by simp [unreferenced valid]), if_neg (Nat.not_le.mpr inRange)]
    have freed : (freeEntryBlock config cache (cache.entries index).logicalBlockIndex).1 = .ok := by
      unfold freeEntryBlock
      split
      · rfl
      · refine kept.onLogicalBlock_ok inRange valid fun layout b attached blockInRange block _ => ?_
        exact (kept.housed layout attached).freeBlock_ok (kept.sound.arena layout attached).1 blockInRange
          (kept.block_unreferenced attached inRange valid (unreferenced valid) blockInRange block)
    obtain ⟨arena, left⟩ :=
      freeEntryBlock_arena config cache (cache.entries index).logicalBlockIndex
    have filed : EntriesFiled config { cache with arena := arena }.filing := kept.filed
    rw [andThen_ok freed, left, andThen_ok (filed.unlink inRange valid).1]

/-- A valid binding can be released. -/
theorem releaseBinding_ok {index : Nat}
    (inRange : index < config.sequenceBindingCount) :
    (releaseBinding config cache index).1 = .ok := by
  unfold releaseBinding
  dsimp only
  split
  · rfl
  · rename_i isValid
    have valid : (cache.bindings index).valid = true := by simpa using isValid
    obtain ⟨entryInRange, entryValid, sameBlock⟩ := kept.sound.counted.bound index inRange valid
    replace entryInRange : (cache.bindings index).entryIndex < config.entryCount := entryInRange
    replace sameBlock : (cache.bindings index).logicalBlockIndex =
      (cache.entries (cache.bindings index).entryIndex).logicalBlockIndex := sameBlock
    have referenced : (cache.entries (cache.bindings index).entryIndex).referenceCount ≠ 0 := by
      intro unreferenced
      exact kept.sound.counted.not_bound (fun _ => unreferenced) inRange valid rfl
    rw [if_neg (not_or.mpr ⟨Nat.not_le.mpr entryInRange, referenced⟩),
      if_neg (Nat.not_le.mpr inRange)]
    have released : (releaseLogicalBlockReference config cache
        (cache.bindings index).logicalBlockIndex).1 = .ok := by
      rw [sameBlock]
      refine kept.onLogicalBlock_ok entryInRange entryValid
        fun layout b attached blockInRange block allocated => ?_
      have arenaCounted := (kept.sound.arena layout attached).2 trivial
      refine Arena.releaseBlockReference_ok (kept.sound.arena layout attached).1 blockInRange
        allocated ?_
      have holding : 0 < bindingsHolding config cache.counts b :=
        tally_pos inRange (by
          have there : cache.counts.bindingBlock index = some b := sameBlock.trans block
          simp [show cache.counts.bindingValid index = true from valid, there])
      have references := arenaCounted.references b blockInRange
      dsimp only at references
      change cache.arena.holdings.referenceCount b ≠ 0
      omega
    obtain ⟨arena, middle⟩ := releaseLogicalBlockReference_arena config cache
      (cache.bindings index).logicalBlockIndex
    have relinked : Linked config { cache with arena := arena }.links := kept.sound.linked
    obtain ⟨after, unlinked, -⟩ := relinked.unlinkBinding inRange valid
    rw [andThen_ok released, middle, unlinked, andThen_ok rfl]

/-- A valid entry the sequence is not bound to can be bound while a binding is free. -/
theorem acquireEntryForSequence_ok {sequenceId : UInt64}
    {index : Nat} (operationEpoch : UInt64) (pending : Bool) (inRange : index < config.entryCount)
    (valid : (cache.entries index).flags.valid = true)
    (missing : findBindingAtTokenOffset config cache sequenceId
      (cache.entries index).firstTokenIndex = none)
    (free : findFreeBinding config cache ≠ none) :
    (acquireEntryForSequence config cache sequenceId index operationEpoch pending).1 = .ok := by
  obtain ⟨binding, found⟩ := Option.ne_none_iff_exists'.mp free
  have retained : (retainLogicalBlock config cache
      (cache.entries index).logicalBlockIndex).1 = .ok :=
    kept.onLogicalBlock_ok inRange valid fun layout b attached blockInRange _ allocated =>
      Arena.retainBlock_ok (kept.sound.arena layout attached).1 blockInRange allocated
  unfold acquireEntryForSequence
  rw [if_neg (Nat.not_le.mpr inRange), missing]
  dsimp only
  rw [found]
  dsimp only
  rw [andThen_ok retained]

end Kept

end Kept

end Sparkpipe.PrefixCache
