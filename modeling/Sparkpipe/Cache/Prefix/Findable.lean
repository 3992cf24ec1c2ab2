import Sparkpipe.Cache.Prefix.Buckets
import Sparkpipe.Cache.Prefix.Upkeep

/-!
# Reusable entries are found

Growing a sequence may leave an entry in the chain of another bucket than that of its key, but such
an entry serves its own sequence only and is never reusable. The valid entries are always
in the chains, each in one, and the others in that of their keys: a search finds a reusable block whenever
there is one.
-/

namespace Sparkpipe.PrefixCache

open Function Sparkpipe.Chain
open Sparkpipe.KvCache (Layout Arena)

/-- The chains hold the valid entries but for the one that is taken out, and those that other sequences may use
are in the chains of their keys. -/
structure Findable (config : Configuration) (out : Option Nat) (cache : Cache) : Prop where
  chains : config.entryHashBucketCount ≠ 0 → ∃ place : Nat → Nat,
    Filed config.entryHashBucketCount place (fun i => (cache.entries i).hashNext) cache.entryHashBucketHeads
      (fun i => (i < config.entryCount ∧ (cache.entries i).flags.valid = true) ∧ some i ≠ out) ∧
    (∀ i, place i < config.entryHashBucketCount) ∧
    ∀ i < config.entryCount, (cache.entries i).flags.valid = true → (cache.entries i).flags.liveOnly = false →
      place i = entryBucket config (cache.entries i).key
  alone : ∀ i < config.entryCount, (cache.entries i).flags.valid = true → (cache.entries i).flags.liveOnly = true →
    (cache.entries i).flags.reusable = false

variable {config : Configuration} {cache after : Cache} {index : Nat} {out : Option Nat}

namespace Findable

/-- Writes that move no entry to another chain. -/
theorem congr (findable : Findable config out cache)
    (hashNext : ∀ i, (after.entries i).hashNext = (cache.entries i).hashNext)
    (heads : after.entryHashBucketHeads = cache.entryHashBucketHeads)
    (valid : ∀ i, (after.entries i).flags.valid = (cache.entries i).flags.valid)
    (kept : ∀ i, (after.entries i).flags.liveOnly = true ∨
      (after.entries i).flags.liveOnly = (cache.entries i).flags.liveOnly ∧
        (after.entries i).key = (cache.entries i).key)
    (alone : ∀ i < config.entryCount, (after.entries i).flags.valid = true →
      (after.entries i).flags.liveOnly = true → (after.entries i).flags.reusable = false) :
    Findable config out after := by
  refine ⟨fun buckets => ?_, alone⟩
  obtain ⟨place, filed, bounded, placed⟩ := findable.chains buckets
  refine ⟨place, ?_, bounded, fun i inRange isValid isShared => ?_⟩
  · rw [heads, funext hashNext]
    refine filed.congr (fun i => ?_) (fun _ _ => rfl) fun _ _ => rfl
    rw [valid]
  · rcases kept i with isLive | ⟨sameLive, sameKey⟩
    · rw [isLive] at isShared
      cases isShared
    · rw [sameKey]
      exact placed i inRange ((valid i).symm.trans isValid) (sameLive.symm.trans isShared)

theorem unfelt (findable : Findable config out cache) (unfelt : Unfelt cache after) : Findable config out after := by
  have flags : ∀ i, (after.entries i).flags = (cache.entries i).flags := fun i => (unfelt.entries i).flags
  refine findable.congr (fun i => (unfelt.entries i).hashNext) unfelt.heads (fun i => by rw [flags])
    (fun i => Or.inr ⟨by rw [flags], (unfelt.entries i).key⟩) fun i inRange valid isLive => ?_
  rw [flags] at valid isLive ⊢
  exact findable.alone i inRange valid isLive

/-- A write of the marks of one entry. -/
theorem mark (findable : Findable config out cache) {entry : Entry}
    (entries : after.entries = update cache.entries index entry)
    (heads : after.entryHashBucketHeads = cache.entryHashBucketHeads)
    (hashNext : entry.hashNext = (cache.entries index).hashNext)
    (valid : entry.flags.valid = (cache.entries index).flags.valid)
    (kept : entry.flags.liveOnly = true ∨
      entry.flags.liveOnly = (cache.entries index).flags.liveOnly ∧ entry.key = (cache.entries index).key)
    (alone : entry.flags.liveOnly = true → entry.flags.reusable = true →
      (cache.entries index).flags.liveOnly = true ∧ (cache.entries index).flags.reusable = true) :
    Findable config out after := by
  have here : after.entries index = entry := by rw [entries, update_self]
  have there : ∀ i ≠ index, after.entries i = cache.entries i := fun i other => by
    rw [entries, update_of_ne other]
  have cases : ∀ i, i = index ∨ after.entries i = cache.entries i := fun i =>
    (eq_or_ne i index).imp_right (there i)
  refine findable.congr (fun i => ?_) heads (fun i => ?_) (fun i => ?_) fun i inRange isValid isLive => ?_
  · rcases cases i with rfl | same
    · rw [here, hashNext]
    · rw [same]
  · rcases cases i with rfl | same
    · rw [here, valid]
    · rw [same]
  · rcases cases i with rfl | same
    · rw [here]
      exact kept
    · rw [same]
      exact .inr ⟨rfl, rfl⟩
  · rcases cases i with rfl | same
    · rw [here] at isValid isLive ⊢
      cases isReusable : entry.flags.reusable with
      | false => rfl
      | true =>
        obtain ⟨wasLive, wasReusable⟩ := alone isLive isReusable
        rw [findable.alone i inRange (valid.symm.trans isValid) wasLive] at wasReusable
        cases wasReusable
    · rw [same] at isValid isLive ⊢
      exact findable.alone i inRange isValid isLive

/-- A free entry is in no chain. -/
theorem takeOut (findable : Findable config none cache) (free : (cache.entries index).flags.valid = false) :
    Findable config (some index) cache := by
  refine ⟨fun buckets => ?_, findable.alone⟩
  obtain ⟨place, filed, rest⟩ := findable.chains buckets
  refine ⟨place, filed.congr (fun i => ?_) (fun _ _ => rfl) fun _ _ => rfl, rest⟩
  constructor
  · exact fun inside => ⟨inside.1, nofun⟩
  · rintro ⟨inside, -⟩
    refine ⟨inside, fun same => ?_⟩
    cases same
    rw [free] at inside
    cases inside.2

/-- Unlinking an entry takes it out, or changes nothing. -/
theorem unlink (findable : Findable config none cache) (inRange : index < config.entryCount) :
    ((unlinkEntry config cache index).1 = .ok ∧ Findable config (some index) (unlinkEntry config cache index).2) ∨
      ((unlinkEntry config cache index).1 ≠ .ok ∧ Unfelt cache (unlinkEntry config cache index).2) := by
  by_cases buckets : config.entryHashBucketCount = 0
  · unfold unlinkEntry
    rw [if_pos buckets]
    exact Or.inl ⟨rfl, fun some => absurd buckets some, findable.alone⟩
  cases found : locate config.entryCount cache.filing.hashNext index config.entryCount none
      (cache.filing.heads (entryBucket config (cache.filing.key index))) with
  | none =>
    unfold unlinkEntry
    rw [if_neg buckets, if_neg (Nat.not_le.mpr inRange)]
    simp only [Cache.filing] at found
    simp only [found]
    exact Or.inr ⟨by simp, .beside rfl rfl⟩
  | some previous =>
    obtain ⟨succeeded, filing⟩ := unlinkEntry_filing buckets inRange found
    have unfiled := unlinkEntry_unfiled config cache index
    refine .inl ⟨succeeded, fun _ => ?_, fun i iInRange isValid isLive => ?_⟩
    · obtain ⟨place, filed, bounded, placed⟩ := findable.chains buckets
      have member := (filed _ (bucketIndex_lt _ buckets)).locate_target found
      obtain ⟨again, located, spliced⟩ := filed.unlink (fun j inside => inside.1.1) member.1 (bounded index)
      have sameBucket : place index = entryBucket config (cache.entries index).key := member.2
      rw [sameBucket] at located spliced
      have samePrevious : again = previous := Option.some.inj (located.symm.trans found)
      rw [samePrevious] at spliced
      refine ⟨place, ?_, bounded, fun i iInRange isValid isShared => ?_⟩
      · have next : (fun i => ((unlinkEntry config cache index).2.entries i).hashNext) = _ :=
          congrArg Filing.hashNext filing
        have heads : (unlinkEntry config cache index).2.entryHashBucketHeads = _ := congrArg Filing.heads filing
        rw [next, heads]
        refine spliced.congr (fun i => ?_) (fun _ _ => rfl) fun i inside => update_of_ne inside.2 ..
        rw [(Entry.of_unfiled (unfiled i)).1]
        constructor
        · rintro ⟨inside, different⟩
          exact ⟨⟨inside, by simp⟩, fun same => different (congrArg some same)⟩
        · rintro ⟨⟨inside, -⟩, different⟩
          exact ⟨inside, fun same => different (Option.some.inj same)⟩
      · obtain ⟨flags, key, -⟩ := Entry.of_unfiled (unfiled i)
        rw [flags] at isValid isShared
        rw [key]
        exact placed i iInRange isValid isShared
    · obtain ⟨flags, -⟩ := Entry.of_unfiled (unfiled i)
      rw [flags] at isValid isLive ⊢
      exact findable.alone i iInRange isValid isLive

/-- Writing an entry that is taken out files it under its new key. -/
theorem write (findable : Findable config (some index) cache) (inRange : index < config.entryCount)
    (install : Installation) (alone : install.flags.liveOnly = true → install.flags.reusable = false) (block : Option Nat) :
    Findable config none (writeEntry config cache index install block) := by
  have written := @writeEntry_written config cache index install block
  have other : ∀ i ≠ index, ((writeEntry config cache index install block).entries i).unfiled = _ :=
    fun i different => writeEntry_other cache index install block different
  refine ⟨fun buckets => ?_, fun i inRange isValid isLive => ?_⟩
  · obtain ⟨place, filed, bounded, placed⟩ := findable.chains buckets
    have filing := writeEntry_filing buckets cache index install block
    have next : (fun i => ((writeEntry config cache index install block).entries i).hashNext) = _ :=
      congrArg Filing.hashNext filing
    have heads : (writeEntry config cache index install block).entryHashBucketHeads = _ :=
      congrArg Filing.heads filing
    have valid : ∀ i, ((writeEntry config cache index install block).entries i).flags.valid = _ :=
      congrFun (congrArg Filing.entryValid filing)
    refine ⟨update place index (entryBucket config install.key), ?_, fun i => ?_,
      fun i inRange isValid isShared => ?_⟩
    · rw [next, heads]
      refine filed.link (i := index) ?_ ?_ (fun j inside => ?_) (fun j inside => ?_) fun j => ?_
      · rw [update_self]
        exact update_self ..
      · rw [update_self]
        rfl
      · exact update_of_ne (fun same => inside.2 (congrArg some same)) ..
      · exact update_of_ne (fun same => inside.2 (congrArg some same)) ..
      · rw [valid]
        by_cases here : j = index
        · simp [here, inRange]
        · simp [here, Cache.filing]
    · by_cases here : i = index
      · rw [here, update_self]
        exact bucketIndex_lt _ buckets
      · rw [update_of_ne here]
        exact bounded i
    · by_cases here : i = index
      · rw [here, update_self, written.key]
      · obtain ⟨flags, key, -⟩ := Entry.of_unfiled (other i here)
        rw [update_of_ne here, key]
        rw [flags] at isValid isShared
        exact placed i inRange isValid isShared
  · by_cases here : i = index
    · rw [here, written.flags] at isLive ⊢
      exact alone isLive
    · obtain ⟨flags, -⟩ := Entry.of_unfiled (other i here)
      rw [flags] at isValid isLive ⊢
      exact findable.alone i inRange isValid isLive

/-- Clearing an entry that is taken out. -/
theorem retire (findable : Findable config (some index) cache) : Findable config none (retireEntry cache index) := by
  have here : (retireEntry cache index).entries index = { reserved := cache.freeEntryHead } :=
    update_self ..
  have there : ∀ i ≠ index, (retireEntry cache index).entries i = cache.entries i :=
    fun i different => update_of_ne different ..
  refine ⟨fun buckets => ?_, fun i inRange isValid isLive => ?_⟩
  · obtain ⟨place, filed, bounded, placed⟩ := findable.chains buckets
    refine ⟨place, ?_, bounded, fun i inRange isValid isShared => ?_⟩
    · refine filed.congr (fun i => ?_) (fun _ _ => rfl) fun i inside => ?_
      · by_cases same : i = index
        · rw [same, here]
          simp
        · rw [there i same]
          simp [same]
      · rw [there i fun same => inside.2 (congrArg some same)]
    · have same : i ≠ index := by
        rintro rfl
        rw [here] at isValid
        cases isValid
      rw [there i same] at isValid isShared ⊢
      exact placed i inRange isValid isShared
  · have same : i ≠ index := by
      rintro rfl
      rw [here] at isValid
      cases isValid
    rw [there i same] at isValid isLive ⊢
    exact findable.alone i inRange isValid isLive

theorem invalidate (findable : Findable config none cache) (index : Nat) :
    Findable config none (invalidateEntry config cache index).2 := by
  unfold invalidateEntry
  dsimp only
  split
  · exact findable
  split
  · exact findable
  split
  · exact findable
  rename_i inRange
  have freed : Findable config none (freeEntryBlock config cache (cache.entries index).logicalBlockIndex).2 := by
    obtain ⟨arena, left⟩ := freeEntryBlock_arena config cache (cache.entries index).logicalBlockIndex
    rw [left]
    exact findable.unfelt ⟨fun i => .refl (cache.entries i), rfl⟩
  refine andThen_preserves freed fun _ => ?_
  rcases freed.unlink (Nat.lt_of_not_le inRange) with ⟨succeeded, unlinked⟩ | ⟨failed, unfelt⟩
  · rw [andThen_ok succeeded]
    exact unlinked.retire
  · rw [andThen_failed failed]
    exact freed.unfelt unfelt

theorem install (findable : Findable config none cache) (index : Nat) (install : Installation)
    (alone : install.flags.liveOnly = true → install.flags.reusable = false) :
    Findable config none (installEntry config cache index install).2 := by
  unfold installEntry
  dsimp only
  split
  · exact findable
  rename_i inRange
  split
  · split
    · exact findable
    have recycled := findable.unfelt (.onLogicalBlock config cache (fun layout arena => arena.recycleBlock layout)
      (cache.entries index).logicalBlockIndex)
    refine andThen_preserves recycled fun _ => ?_
    rcases recycled.unlink (Nat.lt_of_not_le inRange) with ⟨succeeded, unlinked⟩ | ⟨failed, unfelt⟩
    · refine (congrArg (fun result : SparkStatus × Cache => Findable config none result.2)
        (andThen_ok succeeded)).mpr ?_
      exact unlinked.write (Nat.lt_of_not_le inRange) install alone _
    · refine (congrArg (fun result : SparkStatus × Cache => Findable config none result.2)
        (andThen_failed failed)).mpr ?_
      exact recycled.unfelt unfelt
  · rename_i free
    split
    · exact findable
    rw [acquireLogicalBlock_arena]
    split
    · exact findable.unfelt ⟨fun i => .refl (cache.entries i), rfl⟩
    · refine Findable.write ?_ (Nat.lt_of_not_le inRange) install alone _
      exact (findable.takeOut (by simpa using free)).unfelt ⟨fun i => .refl (cache.entries i), rfl⟩

/-- A commit shares an entry only if others may use it. -/
theorem commit (findable : Findable config none cache) (index : Nat) (reservationEpoch : UInt64) :
    Findable config none (commitEntry config cache index reservationEpoch).2 := by
  unfold commitEntry
  dsimp only
  split
  · exact findable
  have resident := findable.unfelt (.onLogicalBlock config cache (fun layout arena => arena.markBlockResident layout)
    (cache.entries index).logicalBlockIndex)
  refine andThen_preserves resident fun _ => ?_
  refine resident.mark rfl rfl rfl ?_ ?_ ?_
  · dsimp only
    split <;> rfl
  · refine .inr ⟨?_, rfl⟩
    dsimp only
    split <;> rfl
  · dsimp only
    split
    · exact fun isLive isReusable => ⟨isLive, isReusable⟩
    · rename_i shared
      exact fun isLive => absurd isLive shared

theorem upkeep (config : Configuration) : Upkeep config True (Findable config none) where
  unfelt unfelt findable := findable.unfelt unfelt
  install index install alone _ findable := findable.install index install alone
  invalidate index findable := findable.invalidate index
  commit index reservationEpoch _ findable := findable.commit index reservationEpoch
  extend _ _ findable := findable.mark rfl rfl rfl rfl (.inl rfl) nofun
  stale _ findable := findable.mark rfl rfl rfl rfl (.inr ⟨rfl, rfl⟩) nofun
  setResume _ _ findable :=
    findable.mark rfl rfl rfl rfl (.inr ⟨rfl, rfl⟩) fun isLive isReusable => ⟨isLive, isReusable⟩
  setResumeChild _ findable :=
    findable.mark rfl rfl rfl rfl (.inr ⟨rfl, rfl⟩) fun isLive isReusable => ⟨isLive, isReusable⟩

/-- A cache without an entry. -/
theorem of_empty (free : ∀ i < config.entryCount, (cache.entries i).flags.valid = false)
    (heads : ∀ bucket < config.entryHashBucketCount, cache.entryHashBucketHeads bucket = none) :
    Findable config none cache := by
  have invalid : ∀ i < config.entryCount, (cache.entries i).flags.valid ≠ true := by
    intro i inRange valid
    rw [free i inRange] at valid
    cases valid
  refine ⟨fun buckets => ⟨fun _ => 0, fun bucket inRange => ?_, fun _ => Nat.pos_of_ne_zero buckets,
    fun i inRange valid => absurd valid (invalid i inRange)⟩, fun i inRange valid => absurd valid (invalid i inRange)⟩
  rw [heads bucket inRange]
  exact listed_none fun i inside => invalid i inside.1.1.1 inside.1.1.2

theorem reset (findable : Findable config none cache) : Findable config none (PrefixCache.reset config cache).2 := by
  unfold PrefixCache.reset
  split
  · exact findable
  dsimp only
  have cleared : ∀ cache' : Cache, (∀ i < config.entryCount, cache'.entries i =
        (initialCache config cache.arena).entries i) →
      (∀ bucket < config.entryHashBucketCount, cache'.entryHashBucketHeads bucket = none) →
      Findable config none cache' := by
    intro cache' entries heads
    refine of_empty (fun i inRange => ?_) heads
    rw [entries i inRange]
    rfl
  refine andThen_preserves (P := Findable config none) ?_ fun _ => ?_
  · split
    · exact cleared _ (fun i inRange => if_pos inRange) fun bucket inRange => if_pos inRange
    · exact cleared _ (fun i inRange => if_pos inRange) fun bucket inRange => if_pos inRange
  · refine cleared _ (fun i inRange => ?_) fun bucket inRange => ?_
    · split
      · exact if_pos inRange
      · exact if_pos inRange
    · split
      · exact if_pos inRange
      · exact if_pos inRange

theorem run (findable : Findable config none cache) (events : List Event) :
    Findable config none (PrefixCache.run config events cache) := by
  induction events generalizing cache with
  | nil => exact findable
  | cons event rest ih =>
    apply ih
    cases event with
    | call operation =>
      by_cases isReset : operation = .reset
      · rw [isReset]
        exact findable.reset
      · exact (Findable.upkeep config).perform operation (fun _ => trivial) isReset findable
    | outside arena => exact findable.unfelt ⟨fun i => .refl (cache.entries i), rfl⟩

end Findable

/-- After every run. -/
theorem findable_run (config : Configuration) (arena : Arena) (events : List Event) :
    Findable config none (run config events (initialCache config arena)) :=
  (Findable.of_empty (fun _ _ => rfl) fun _ _ => rfl).run events

/-- A search finds a reusable block that is there. -/
theorem Findable.find (findable : Findable config none cache) {key : BlockKey} {contentDigest : List UInt8}
    (inRange : index < config.entryCount) (matched : entryMatches config cache key contentDigest true index = true) :
    ∃ found, findEntry config cache key contentDigest true = some found := by
  unfold findEntry
  split
  · rename_i buckets
    obtain ⟨place, filed, bounded, placed⟩ := findable.chains buckets
    have tested := matched
    simp only [entryMatches, Bool.and_eq_true, decide_eq_true_eq, Bool.not_true, Bool.false_or, entryIsReusable] at tested
    have valid := tested.1.1.1
    have shared : (cache.entries index).flags.liveOnly = false := by
      cases isLive : (cache.entries index).flags.liveOnly with
      | false => rfl
      | true =>
        have unusable := findable.alone index inRange valid isLive
        rw [unusable] at tested
        simp at tested
    have bucket : place index = entryBucket config key := by
      rw [placed index inRange valid shared, tested.1.1.2]
    exact (filed _ (bucketIndex_lt _ buckets)).search_isSome config.entryCount (fun i inside => inside.1.1.1)
      ⟨⟨⟨inRange, valid⟩, by simp⟩, bucket⟩ matched
  · exact Option.isSome_iff_exists.mp (List.find?_isSome.mpr ⟨index, List.mem_range.mpr inRange, matched⟩)

end Sparkpipe.PrefixCache
