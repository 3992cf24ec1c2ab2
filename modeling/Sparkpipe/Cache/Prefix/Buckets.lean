import Sparkpipe.Cache.Prefix.Run

/-!
# The entry buckets

`EntriesFiled` says that the bucket chains of the entries hold exactly the valid
entries, each in the bucket of the key it has now, and that unlinking an entry has
never failed. Installing and invalidating keep it. Growing a short tail keeps it
only if the new token count falls into the same bucket: otherwise the entry stays
in its old chain, and the next attempt to unlink it takes the `INTERNAL_ERROR` exit.
-/

namespace Sparkpipe.PrefixCache

open Function Sparkpipe.Chain
open Sparkpipe.KvCache (Layout Arena)

/-- The valid entries are filed under their keys. -/
structure EntriesFiled (config : Configuration) (filing : Filing) : Prop where
  chains : config.entryHashBucketCount ≠ 0 →
    Filed config.entryHashBucketCount (fun i => entryBucket config (filing.key i)) filing.hashNext
      filing.heads fun i => i < config.entryCount ∧ filing.entryValid i = true
  noError : filing.unlinkEntryErrorCount = 0

/-- The valid entries other than `index` are filed, and `index` is in no chain. -/
structure FiledExcept (config : Configuration) (index : Nat) (filing : Filing) : Prop where
  chains : config.entryHashBucketCount ≠ 0 →
    Filed config.entryHashBucketCount (fun i => entryBucket config (filing.key i)) filing.hashNext
      filing.heads fun i => (i < config.entryCount ∧ filing.entryValid i = true) ∧ i ≠ index
  noError : filing.unlinkEntryErrorCount = 0

variable {config : Configuration} {cache : Cache} {index : Nat}

section Unlink

theorem spliceEntries_next (previous after : Option Nat) :
    (fun i => (spliceEntries cache previous after i).hashNext) =
      spliceNext previous (fun i => (cache.entries i).hashNext) after := by
  funext i
  cases previous with
  | none => rfl
  | some p =>
    by_cases here : i = p
    · subst here
      simp [spliceEntries, spliceNext]
    · simp [spliceEntries, spliceNext, update_of_ne here]

/-- The filing after entry `index` is spliced out of its chain. -/
theorem unlinkEntry_filing {previous : Option Nat} (buckets : config.entryHashBucketCount ≠ 0)
    (inRange : index < config.entryCount)
    (found : locate config.entryCount cache.filing.hashNext index config.entryCount none
      (cache.filing.heads (entryBucket config (cache.filing.key index))) = some previous) :
    (unlinkEntry config cache index).1 = .ok ∧
      (unlinkEntry config cache index).2.filing =
        { cache.filing with
          hashNext := update
            (spliceNext previous cache.filing.hashNext (cache.filing.hashNext index)) index none
          heads := update cache.filing.heads
            (entryBucket config (cache.filing.key index))
            (spliceHead previous
              (cache.filing.heads (entryBucket config (cache.filing.key index)))
              (cache.filing.hashNext index)) } := by
  unfold unlinkEntry
  rw [if_neg buckets, if_neg (by omega)]
  simp only [Cache.filing] at found
  simp only [found]
  refine ⟨trivial, ?_⟩
  simp only [Cache.filing, unlinked_field (fun entry => entry.flags.valid) (fun _ _ => rfl),
    unlinked_field Entry.key (fun _ _ => rfl), field_update Entry.hashNext, spliceEntries_next]

/-- A filed entry can be unlinked. -/
theorem EntriesFiled.unlink (filed : EntriesFiled config cache.filing)
    (inRange : index < config.entryCount) (valid : (cache.entries index).flags.valid = true) :
    (unlinkEntry config cache index).1 = .ok ∧
      FiledExcept config index (unlinkEntry config cache index).2.filing := by
  by_cases buckets : config.entryHashBucketCount = 0
  · unfold unlinkEntry
    rw [if_pos buckets]
    exact ⟨rfl, fun some => absurd buckets some, filed.noError⟩
  · obtain ⟨previous, found, spliced⟩ := (filed.chains buckets).unlink (fun j member => member.1)
      ⟨inRange, valid⟩ (bucketIndex_lt _ buckets)
    obtain ⟨succeeded, filing⟩ := unlinkEntry_filing buckets inRange found
    refine ⟨succeeded, ?_⟩
    rw [filing]
    refine ⟨fun _ => spliced.congr (fun i => Iff.rfl) (fun _ _ => rfl) fun i member => ?_,
      filed.noError⟩
    exact update_of_ne member.2 _ _

/-- A free entry is in no chain. -/
theorem EntriesFiled.except (filed : EntriesFiled config cache.filing)
    (free : (cache.entries index).flags.valid = false) :
    FiledExcept config index cache.filing := by
  refine ⟨fun buckets => (filed.chains buckets).congr (fun i => ?_) (fun _ _ => rfl)
    fun _ _ => rfl, filed.noError⟩
  constructor
  · exact fun member => member.1
  · intro member
    refine ⟨member, ?_⟩
    rintro rfl
    exact absurd member.2 (by simp [Cache.filing, free])

end Unlink

section Link

theorem writeEntry_filing (buckets : config.entryHashBucketCount ≠ 0) (cache : Cache) (index : Nat)
    (install : Installation) (block : Option Nat) :
    (writeEntry config cache index install block).filing =
      { cache.filing with
        entryValid := update cache.filing.entryValid index true
        key := update cache.filing.key index install.key
        hashNext := update cache.filing.hashNext index
          (cache.filing.heads (entryBucket config install.key))
        heads := update cache.filing.heads (entryBucket config install.key)
          (some index) } := by
  simp only [writeEntry, linkEntry, if_neg buckets, touchEntry, modifyEntry, Cache.filing,
    update_self, update_idem, field_update Entry.hashNext,
    field_update Entry.key, field_update (fun entry : Entry => entry.flags.valid)]
  rfl

theorem writeEntry_errors (cache : Cache) (index : Nat) (install : Installation)
    (block : Option Nat) :
    (writeEntry config cache index install block).unlinkEntryErrorCount =
      cache.unlinkEntryErrorCount := by
  unfold writeEntry linkEntry
  dsimp only
  split <;> rfl

/-- Writing an entry that is in no chain files it under its new key. -/
theorem FiledExcept.write (filed : FiledExcept config index cache.filing)
    (inRange : index < config.entryCount) (install : Installation) (block : Option Nat) :
    EntriesFiled config (writeEntry config cache index install block).filing := by
  refine ⟨fun buckets => ?_, (writeEntry_errors cache index install block).trans filed.noError⟩
  rw [writeEntry_filing buckets]
  refine (filed.chains buckets).link (i := index) ?_ ?_ (fun j member => ?_) (fun j member => ?_)
    fun j => ?_
  · simp
  · simp
  · exact update_of_ne member.2 _ _
  · simp only [update_of_ne member.2]
  · by_cases here : j = index
    · simp [here, inRange]
    · simp [here]

/-- Clearing an entry that is in no chain. -/
theorem FiledExcept.retire (filed : FiledExcept config index cache.filing) :
    EntriesFiled config (retireEntry cache index).filing := by
  refine ⟨fun buckets => ?_, filed.noError⟩
  have filing : (retireEntry cache index).filing =
      { cache.filing with
        entryValid := update cache.filing.entryValid index false
        key := update cache.filing.key index (Entry.key {})
        hashNext := update cache.filing.hashNext index none } := by
    simp only [retireEntry, modifyEntry, Cache.filing, field_update Entry.hashNext,
      field_update Entry.key, field_update (fun entry : Entry => entry.flags.valid)]
    rfl
  rw [filing]
  refine (filed.chains buckets).congr (fun i => ?_) (fun i member => ?_) fun i member => ?_
  · by_cases here : i = index
    · simp [here]
    · simp [here]
  · simp only [update_of_ne member.2]
  · exact update_of_ne member.2 _ _

end Link

section Steps

theorem EntriesFiled.install (filed : EntriesFiled config cache.filing) (index : Nat)
    (install : Installation) :
    EntriesFiled config (installEntry config cache index install).2.filing := by
  unfold installEntry
  dsimp only
  split
  · exact filed
  · rename_i inRange
    split
    · rename_i valid
      split
      · exact filed
      · obtain ⟨arena, left⟩ := recycleLogicalBlock_arena config cache
          (cache.entries index).logicalBlockIndex
        have still : EntriesFiled config { cache with arena := arena }.filing := filed
        obtain ⟨unlinked, except⟩ := still.unlink (Nat.lt_of_not_le inRange) valid
        refine andThen_preserves (P := fun after : Cache => EntriesFiled config after.filing)
          (by rw [left]; exact still) fun _ => ?_
        rw [left, andThen_ok unlinked]
        exact except.write (Nat.lt_of_not_le inRange) install _
    · rename_i free
      split
      · exact filed
      · split
        · rw [acquireLogicalBlock_arena]
          exact filed
        · rw [acquireLogicalBlock_arena]
          refine FiledExcept.write ?_ (Nat.lt_of_not_le inRange) install _
          exact filed.except (by simpa using free)

/-- An entry that is filed is invalidated as a whole or not at all. -/
theorem EntriesFiled.invalidate (filed : EntriesFiled config cache.filing) (index : Nat) :
    EntriesFiled config (invalidateEntry config cache index).2.filing ∧
      ((invalidateEntry config cache index).1 ≠ .ok →
        (invalidateEntry config cache index).2.arena = cache.arena ∨
          (freeEntryBlock config cache (cache.entries index).logicalBlockIndex).1 ≠ .ok ∧
            (invalidateEntry config cache index).2.arena =
              (freeEntryBlock config cache (cache.entries index).logicalBlockIndex).2.arena) := by
  unfold invalidateEntry
  dsimp only
  split
  · exact ⟨filed, fun _ => .inl rfl⟩
  · rename_i valid
    split
    · exact ⟨filed, fun _ => .inl rfl⟩
    · split
      · exact ⟨filed, fun _ => .inl rfl⟩
      · rename_i inRange
        obtain ⟨arena, left⟩ :=
          freeEntryBlock_arena config cache (cache.entries index).logicalBlockIndex
        have still : EntriesFiled config { cache with arena := arena }.filing := filed
        obtain ⟨unlinked, except⟩ :=
          still.unlink (Nat.lt_of_not_le inRange) (by simpa using valid)
        by_cases freed : (freeEntryBlock config cache
            (cache.entries index).logicalBlockIndex).1 = .ok
        · rw [andThen_ok freed, left, andThen_ok unlinked]
          exact ⟨except.retire, fun failed => absurd rfl failed⟩
        · rw [andThen_failed freed]
          refine ⟨?_, fun _ => .inr ⟨freed, rfl⟩⟩
          rw [left]
          exact still

/-- Growing a tail inside its bucket. -/
theorem EntriesFiled.extend (filed : EntriesFiled config cache.filing) (binding : Nat)
    (kept : config.entryHashBucketCount ≠ 0 →
      entryBucket config { (cache.entries index).key with tokenCount := config.blockTokenCount } =
        entryBucket config (cache.entries index).key) :
    EntriesFiled config (extendTail config cache binding index).filing := by
  have filing : (extendTail config cache binding index).filing =
      { cache.filing with
        key := update cache.filing.key index
          { cache.filing.key index with tokenCount := config.blockTokenCount } } := by
    simp only [extendTail, modifyEntry, modifyBinding, Cache.filing, field_update Entry.hashNext,
      field_update Entry.key, field_update (fun entry : Entry => entry.flags.valid),
      update_eq_self]
    rfl
  rw [filing]
  refine ⟨fun buckets => (filed.chains buckets).congr (fun _ => Iff.rfl) (fun i _ => ?_)
    fun _ _ => rfl, filed.noError⟩
  by_cases here : i = index
  · subst here
    simp only [update_self]
    exact kept buckets
  · simp only [update_of_ne here]

theorem onLogicalBlock_filing (config : Configuration) (cache : Cache)
    (call : Layout → Arena → Nat → SparkStatus × Arena) (block : Option Nat) :
    (onLogicalBlock config cache call block).2.filing = cache.filing := by
  obtain ⟨arena, left⟩ := onLogicalBlock_arena config cache call block
  rw [left]
  rfl

/-- Every internal operation of an orderly run keeps the entries filed. -/
theorem EntriesFiled.step {exclusive : Prop} {mode : Mode} {before after : Option Nat × Cache}
    (filed : EntriesFiled config before.2.filing) (sound : Sound config exclusive before.1 before.2)
    (orderly : mode.orderly) (step : Step config mode before after) :
    EntriesFiled config after.2.filing := by
  cases step with
  | settle settled _ => exact settled.filing ▸ filed
  | install index install _ _ _ _ => exact filed.install index install
  | invalidate index => exact (filed.invalidate index).1
  | acquire sequenceId index operationEpoch pending _ _ =>
    rcases sound.linked.acquireEntryForSequence sequenceId index operationEpoch pending with
      quiet | ⟨-, binding, acquired⟩
    · exact quiet.filing ▸ filed
    · exact acquired.filing ▸ filed
  | release index _ =>
    rcases sound.linked.releaseBinding index with ⟨unchanged, -⟩ | ⟨-, released⟩
    · dsimp only
      rw [unchanged]
      exact filed
    · exact released.filing ▸ filed
  | extend binding index kept => exact filed.extend binding (kept orderly)
  | hold index _ _ _ _ =>
    dsimp only
    rw [(Sound.holdEntry_views _ _).2.1]
    exact (onLogicalBlock_filing _ _ _ _).symm ▸ filed
  | unhold index =>
    dsimp only [releaseLogicalBlockReference]
    rw [onLogicalBlock_filing, (Sound.unholdEntry_views _ index).2.1]
    exact filed

end Steps

section Runs

/-- The index of a cache is intact: with buckets, each chain holds exactly the valid records of
its bucket, each once; each free list holds exactly the records that are not valid, each once; and
unlinking an entry has never failed. -/
structure IndexIntact (config : Configuration) (cache : Cache) : Prop where
  entryChains : config.entryHashBucketCount ≠ 0 → ∀ bucket < config.entryHashBucketCount,
    Listed (fun i => (cache.entries i).hashNext) (cache.entryHashBucketHeads bucket) fun i =>
      (i < config.entryCount ∧ (cache.entries i).flags.valid = true) ∧
        entryBucket config (cache.entries i).key = bucket
  freeEntries : Listed (fun i => (cache.entries i).reserved) cache.freeEntryHead fun i =>
    i < config.entryCount ∧ (cache.entries i).flags.valid = false
  lookupChains : config.bindingHashBucketCount ≠ 0 → ∀ bucket < config.bindingHashBucketCount,
    Listed (fun i => (cache.bindings i).lookupHashNext)
      (cache.bindingLookupHashBucketHeads bucket) fun i =>
      (i < config.sequenceBindingCount ∧ (cache.bindings i).valid = true) ∧
        bindingLookupBucket config (cache.bindings i).sequenceId
          (cache.bindings i).firstTokenIndex = bucket
  sequenceChains : config.bindingHashBucketCount ≠ 0 → ∀ bucket < config.bindingHashBucketCount,
    Listed (fun i => (cache.bindings i).sequenceHashNext)
      (cache.bindingSequenceHashBucketHeads bucket) fun i =>
      (i < config.sequenceBindingCount ∧ (cache.bindings i).valid = true) ∧
        bindingSequenceBucket config (cache.bindings i).sequenceId = bucket
  freeBindings : Listed (fun i => (cache.bindings i).reserved) cache.freeBindingHead fun i =>
    i < config.sequenceBindingCount ∧ (cache.bindings i).valid = false
  noError : cache.unlinkEntryErrorCount = 0

theorem Fresh.entriesFiled (fresh : Fresh config cache) (noError : cache.unlinkEntryErrorCount = 0) :
    EntriesFiled config cache.filing := by
  refine ⟨fun _ bucket inRange => ?_, noError⟩
  rw [show cache.filing.heads bucket = none from fresh.entryHeads bucket inRange]
  refine listed_none fun i inside => ?_
  have free : cache.filing.entryValid i = false := by
    change (cache.entries i).flags.valid = false
    rw [fresh.entries i inside.1.1]
  exact Bool.noConfusion (free.symm.trans inside.1.2)

/-- Along an orderly run the entries stay filed. -/
theorem entriesFiled_run {exclusive : Prop} {arena : Arena} {events : List Event}
    (accepted : Accepted config arena) (unused : exclusive → ArenaUnused config arena)
    (legal : ∀ event ∈ events, event.Legal config)
    (alone : exclusive → ∀ arena, Event.outside arena ∉ events)
    (keeps : RunKeepsBuckets config events (initialCache config arena)) :
    Sound config exclusive none (run config events (initialCache config arena)) ∧
      EntriesFiled config (run config events (initialCache config arena)).filing := by
  refine run_keeps (P := fun now => EntriesFiled config now.2.filing) ⟨trivial, id, id⟩ accepted.validate
    (fun before after sound filed (step : Step config .filed before after) =>
      filed.step sound trivial step)
    (fun cache sound filed => ?_) (fun _ _ _ filed => filed) legal alone (fun _ => keeps)
    (sound_initialCache accepted unused) ((fresh_initialCache config arena).entriesFiled rfl)
  obtain ⟨fresh, errors, -⟩ := fresh_reset sound accepted.validate
  exact fresh.entriesFiled (errors.trans filed.noError)

/-- In every run whose growing calls keep their tails in their buckets, the index is intact after
every call. -/
theorem index_intact (config : Configuration) (arena : Arena) (events : List Event)
    (accepted : Accepted config arena) (legal : ∀ event ∈ events, event.Legal config)
    (keeps : RunKeepsBuckets config events (initialCache config arena)) :
    IndexIntact config (run config events (initialCache config arena)) := by
  obtain ⟨sound, filed⟩ := entriesFiled_run accepted (fun absurdity : False => absurdity.elim)
    legal (fun absurdity => absurdity.elim) keeps
  exact ⟨fun buckets bucket inRange => filed.chains buckets bucket inRange,
    sound.linked.freeEntries,
    fun buckets bucket inRange => sound.linked.lookupChains buckets bucket inRange,
    fun buckets bucket inRange => sound.linked.sequenceChains buckets bucket inRange,
    sound.linked.freeBindings, filed.noError⟩

/-- A sequence reserves one token, commits it, and grows to a whole block. -/
def growOneBlock (token : UInt32) : List Operation :=
  [.reserveSequencePrompt 1 [token] none, .commitReservation 1 1, .ensureSequenceTokenCapacity 1 2]

/-- The tail of a sequence over token 1 stays in its bucket when it grows. -/
theorem index_intact_growOneBlock :
    IndexIntact oneBlockConfiguration (run oneBlockConfiguration ((growOneBlock 1).map .call)
      (initialCache oneBlockConfiguration (Arena.initial oneBlockLayout))) := by
  refine index_intact _ _ _ accepted_oneBlock (legal_calls _) ⟨trivial, trivial, ?_, trivial⟩
  intro _ blockIndex inRange binding found _ _ _
  have first : blockIndex = 0 := by
    have bound : ceilDivU32 2 oneBlockConfiguration.blockTokenCount = 1 := by decide
    omega
  subst first
  have foundFirst : findBindingAtTokenOffset oneBlockConfiguration
      (run oneBlockConfiguration
        ([.reserveSequencePrompt 1 [1] none, .commitReservation 1 1].map .call)
        (initialCache oneBlockConfiguration (Arena.initial oneBlockLayout))) 1
      (0 * oneBlockConfiguration.blockTokenCount) = some 0 := by decide +kernel
  have same : binding = 0 := by
    rw [← Option.some.injEq, ← found]
    exact foundFirst
  subst same
  decide +kernel

/-- The tail of a sequence over token 2 changes its bucket when it grows, and unlinking it at the
release fails. -/
theorem index_not_always_intact :
    ¬ ∀ (config : Configuration) (arena : Arena) (operations : List Operation),
      Accepted config arena →
      IndexIntact config (run config (operations.map .call) (initialCache config arena)) := by
  intro always
  have intact := always oneBlockConfiguration (Arena.initial oneBlockLayout)
    (growOneBlock 2 ++ [Operation.releaseSequence 1]) accepted_oneBlock
  have failed : (run oneBlockConfiguration ((growOneBlock 2 ++ [Operation.releaseSequence 1]).map .call)
      (initialCache oneBlockConfiguration (Arena.initial oneBlockLayout))).unlinkEntryErrorCount =
        1 := by decide +kernel
  rw [intact.noError] at failed
  cases failed

end Runs

end Sparkpipe.PrefixCache
