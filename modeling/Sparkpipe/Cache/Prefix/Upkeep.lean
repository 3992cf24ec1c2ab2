import Sparkpipe.Cache.Prefix.Run

/-!
# What the cached blocks can be told from

The reusable entries, their keys and their marks are all that a lookup reads. `Upkeep` is the
rule for a property of them: it holds after a public call if it holds after each of the writes
below, of which most calls make only a few. A property that is about nothing else survives every
other write by `Unfelt`.
-/

namespace Sparkpipe.PrefixCache

open Sparkpipe.KvCache (Layout Arena)

variable {config : Configuration} {cache : Cache} {tokens : List UInt32}

section Search

/-- What a search reads of an entry. -/
structure SameFile (before after : Entry) : Prop where
  valid : after.flags.valid = before.flags.valid
  reusable : after.flags.reusable = before.flags.reusable
  pending : after.flags.pending = before.flags.pending
  liveOnly : after.flags.liveOnly = before.flags.liveOnly
  key : after.key = before.key
  contentDigest : after.contentDigest = before.contentDigest
  hashNext : after.hashNext = before.hashNext

/-- An entry is filed as it is. -/
theorem SameFile.refl (entry : Entry) : SameFile entry entry := ⟨rfl, rfl, rfl, rfl, rfl, rfl, rfl⟩

/-- Filed alike, both entries can be reused or neither. -/
theorem SameFile.reusable_eq {before after : Entry} (same : SameFile before after) :
    entryIsReusable config after = entryIsReusable config before := by
  have size : after.tokenCount = before.tokenCount := congrArg BlockKey.tokenCount same.key
  unfold entryIsReusable
  rw [same.valid, same.reusable, same.pending, size]

/-- Filed alike, both entries pass a search's test or neither. -/
theorem SameFile.matches_eq {after : Cache} {index : Nat}
    (same : SameFile (cache.entries index) (after.entries index))
    (key : BlockKey) (contentDigest : List UInt8) (reusableOnly : Bool) :
    entryMatches config after key contentDigest reusableOnly index =
      entryMatches config cache key contentDigest reusableOnly index := by
  unfold entryMatches
  dsimp only
  rw [same.reusable_eq, same.valid, same.key, same.liveOnly, same.contentDigest]

/-- A search finds the same among entries that are filed alike. -/
theorem findEntry_congr {after : Cache} (same : ∀ i, SameFile (cache.entries i) (after.entries i))
    (heads : after.entryHashBucketHeads = cache.entryHashBucketHeads) (key : BlockKey)
    (contentDigest : List UInt8)
    (reusableOnly : Bool) :
    findEntry config after key contentDigest reusableOnly = findEntry config cache key
    contentDigest reusableOnly := by
  have next : (fun i => (after.entries i).hashNext) = fun i => (cache.entries i).hashNext :=
    funext fun i => (same i).hashNext
  have matching : entryMatches config after key contentDigest reusableOnly =
      entryMatches config cache key contentDigest reusableOnly :=
    funext fun i => (same i).matches_eq key contentDigest reusableOnly
  unfold findEntry
  rw [next, matching, heads]

variable {offset count index : Nat} {parentHash : UInt64}
    (found : findPromptBlock config cache tokens offset count parentHash = some index)
include found

/-- What is found for a block of a prompt passes the test of its digest. -/
theorem findPromptBlock_matches :
    index < config.entryCount ∧
    entryMatches config cache (promptBlockKey tokens parentHash offset count)
      (digestBlock (blockTokens tokens offset count)) true index = true :=
  findEntry_matches found

/-- A block of a prompt is found at its place. -/
theorem findPromptBlock_key :
    index < config.entryCount ∧ entryIsReusable config (cache.entries index) = true ∧
      (cache.entries index).key = promptBlockKey tokens parentHash offset count := by
  obtain ⟨inRange, -, reusable⟩ := findEntry_some found
  exact ⟨inRange, reusable rfl, findEntry_key found⟩

/-- It begins where the block begins and has as many tokens. -/
theorem findPromptBlock_first :
    (cache.entries index).firstTokenIndex = offset ∧ (cache.entries index).tokenCount = count := by
  obtain ⟨-, -, key⟩ := findPromptBlock_key found
  have first := congrArg BlockKey.firstTokenIndex key
  have size := congrArg BlockKey.tokenCount key
  exact ⟨first, size⟩

end Search

namespace Unfelt

/-- Acquiring an entry counts a reference, which no search reads. -/
theorem acquireEntryForSequence (config : Configuration) (cache : Cache) (sequenceId : UInt64)
    (index : Nat)
    (operationEpoch : UInt64) (pending : Bool) :
    Unfelt cache (PrefixCache.acquireEntryForSequence config cache sequenceId index operationEpoch
      pending).2 := by
  have heads : (PrefixCache.acquireEntryForSequence config cache sequenceId index operationEpoch
      pending).2.entryHashBucketHeads = cache.entryHashBucketHeads := by
    unfold PrefixCache.acquireEntryForSequence
    split
    · rfl
    · split
      · split
        · rfl
        · split <;> rfl
      · split
        · rfl
        · have retained : (retainLogicalBlock config cache
              (cache.entries index).logicalBlockIndex).2.entryHashBucketHeads =
              cache.entryHashBucketHeads :=
            (onLogicalBlock config cache _ _).heads
          refine andThen_preserves
            (P := fun after : Cache => after.entryHashBucketHeads = cache.entryHashBucketHeads)
            retained fun _ => ?_
          unfold writeBinding linkBinding modifyEntry modifyBinding
          dsimp only
          split <;> exact retained
  rcases acquireEntryForSequence_records config cache sequenceId index operationEpoch pending with
    ⟨same, -, -⟩ | ⟨-, counted, -⟩
  · exact beside same heads
  · exact entry counted heads ⟨rfl, rfl, rfl, rfl⟩

/-- Releasing a binding takes the reference back. -/
theorem releaseBinding (config : Configuration) (cache : Cache) (index : Nat) :
    Unfelt cache (PrefixCache.releaseBinding config cache index).2 := by
  have heads : (PrefixCache.releaseBinding config cache index).2.entryHashBucketHeads =
      cache.entryHashBucketHeads := by
    unfold PrefixCache.releaseBinding
    dsimp only
    split
    · rfl
    split
    · rfl
    split
    · rfl
    have released : (releaseLogicalBlockReference config cache
        (cache.bindings index).logicalBlockIndex).2.entryHashBucketHeads =
        cache.entryHashBucketHeads :=
      (onLogicalBlock config cache _ _).heads
    refine andThen_preserves
      (P := fun after : Cache => after.entryHashBucketHeads = cache.entryHashBucketHeads)
      released fun _ => ?_
    have unlinked : ∀ cache : Cache,
        (unlinkBinding config cache index).2.entryHashBucketHeads = cache.entryHashBucketHeads := by
      intro cache
      unfold unlinkBinding
      split
      · rfl
      dsimp only
      refine andThen_preserves
        (P := fun after : Cache => after.entryHashBucketHeads = cache.entryHashBucketHeads)
        ?_ fun _ => ?_
      · unfold unlinkBindingLookupChain
        dsimp only
        split <;> rfl
      · unfold unlinkBindingSequenceChain unlinkBindingLookupChain
        dsimp only
        split <;> split <;> rfl
    refine andThen_preserves
      (P := fun after : Cache => after.entryHashBucketHeads = cache.entryHashBucketHeads)
      ((unlinked _).trans released) fun _ => ?_
    exact (unlinked _).trans released
  rcases releaseBinding_records config cache index with ⟨same, -⟩ | ⟨-, counted, -⟩
  · exact beside same heads
  · exact entry counted heads ⟨rfl, rfl, rfl, rfl⟩

end Unfelt

/-- A property of the cached blocks that the writes of the public calls keep. It need not survive a
commit where no call of the kind is made. -/
structure Upkeep (config : Configuration) (committing : Prop) (P : Cache → Prop) : Prop where
  unfelt {before after : Cache} (unfelt : Unfelt before after) (holds : P before) : P after
  install {cache : Cache} (index : Nat) (install : Installation)
    (alone : install.flags.liveOnly = true → install.flags.reusable = false)
    (commits : install.flags.reusable = true → committing) (holds : P cache) :
    P (installEntry config cache index install).2
  invalidate {cache : Cache} (index : Nat) (holds : P cache) :
    P (invalidateEntry config cache index).2
  commit {cache : Cache} (index : Nat) (reservationEpoch : UInt64) (commits : committing)
    (holds : P cache) :
    P (commitEntry config cache index reservationEpoch).2
  extend {cache : Cache} (binding index : Nat) (holds : P cache) :
    P (extendTail config cache binding index)
  stale {cache : Cache} (index : Nat) (holds : P cache) :
    P (modifyEntry cache index fun entry =>
      { entry with flags := { entry.flags with reusable := false, stale := true } })
  setResume {cache : Cache} (index : Nat) (resume : Bool) (holds : P cache) :
    P (setResume cache index resume)
  setResumeChild {cache : Cache} (index : Nat) (holds : P cache) : P (setResumeChild cache index)

namespace Upkeep

variable {committing : Prop} {P : Cache → Prop} (upkeep : Upkeep config committing P)
include upkeep

/-- Every internal operation makes the writes only. -/
theorem step {before after : Option Nat × Cache} (holds : P before.2)
    (step : Step config (.bare committing) before after) : P after.2 := by
  cases step with
  | settle _ write =>
    cases write with
    | unfelt unfelt => exact upkeep.unfelt unfelt holds
    | commit index epoch open_ => exact upkeep.commit index epoch (not_not.mp open_) holds
    | stale index => exact upkeep.stale index holds
    | setResume index resume => exact upkeep.setResume index resume holds
    | setResumeChild index => exact upkeep.setResumeChild index holds
  | install index install _ _ alone closed =>
    refine upkeep.install index install alone (fun reusable => ?_) holds
    by_contra never
    rw [closed never] at reusable
    cases reusable
  | invalidate index => exact upkeep.invalidate index holds
  | acquire sequenceId index epoch pending _ _ =>
    exact upkeep.unfelt (.acquireEntryForSequence config _ sequenceId index epoch pending) holds
  | release index _ => exact upkeep.unfelt (.releaseBinding config _ index) holds
  | extend binding index _ => exact upkeep.extend binding index holds
  | hold index _ _ _ _ =>
    exact upkeep.unfelt (.entry rfl rfl ⟨rfl, rfl, rfl, rfl⟩)
      (upkeep.unfelt (.onLogicalBlock config _ _ _) holds)
  | @unhold cache index =>
    have let_ : P (unholdEntry cache index) :=
      upkeep.unfelt (.entry rfl rfl ⟨rfl, rfl, rfl, rfl⟩) holds
    exact upkeep.unfelt (.onLogicalBlock config _ _ _) let_

/-- What the writes of a call keep, the call keeps. -/
theorem perform (operation : Operation) (commits : operation.Commits → committing)
    (other : operation ≠ .reset) (holds : P cache) : P (perform config cache operation).2 := by
  have reached : Reached config False (.bare committing) (none, cache)
      (none, (PrefixCache.perform config cache operation).2) :=
    reached_perform False.elim operation other id (fun closed may => closed (commits may))
      False.elim
  have along : ∀ now, Relation.ReflTransGen (Step config (.bare committing)) (none, cache) now →
      P now.2 := by
    intro now steps
    induction steps with
    | refl => exact holds
    | tail _ last ih => exact upkeep.step ih last
  exact along _ reached.steps

end Upkeep

end Sparkpipe.PrefixCache
