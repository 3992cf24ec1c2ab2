import Mathlib.Order.Bounds.Basic
import Sparkpipe.Cache.Prefix.Findable

/-!
# The longest cached prefix

What `SparkPrefixCacheProbePrompt` looks for, said without its walk: the greatest number of tokens that are
whole cached blocks and at most one shorter one. A step of the walk takes the longest block at its place, and
a prompt that goes on after a shorter one could not be longer than one that goes on after a whole one.
-/

namespace Sparkpipe.PrefixCache

open Sparkpipe.KvCache (Layout Arena)

section Prefixes

variable (config : Configuration) (cache : Cache) (tokens : List UInt32)

/-- The parent hash of the block after so many whole ones. -/
def chainHash : Nat → UInt64
  | 0 => emptyParentHash
  | blocks + 1 =>
    hashBlock (blockTokens tokens (blocks * config.blockTokenCount) config.blockTokenCount) (chainHash blocks)

/-- The entry is a reusable one for the tokens after so many whole blocks of the prompt. -/
def HoldsBlock (blocks count index : Nat) : Prop :=
  index < config.entryCount ∧ entryIsReusable config (cache.entries index) = true ∧
    (cache.entries index).key =
      promptBlockKey tokens (chainHash config tokens blocks) (blocks * config.blockTokenCount) count ∧
    (cache.entries index).contentDigest = digestBlock (blockTokens tokens (blocks * config.blockTokenCount) count)

/-- There is a reusable entry for the tokens after so many whole blocks of the prompt. -/
def BlockCached (blocks count : Nat) : Prop :=
  ∃ index, HoldsBlock config cache tokens blocks count index

/-- The first tokens of the prompt are whole cached blocks and at most one shorter one. -/
def PrefixCached (tokenCount : Nat) : Prop :=
  ∃ blocks rest, rest < config.blockTokenCount ∧ tokenCount = blocks * config.blockTokenCount + rest ∧
    (∀ block < blocks, BlockCached config cache tokens block config.blockTokenCount) ∧
    (rest ≠ 0 → BlockCached config cache tokens blocks rest)

/-- The block of the prompt after so many whole ones, as the walk looks it up. -/
def blockAt (blocks count : Nat) : Option Nat :=
  findPromptBlock config cache tokens (blocks * config.blockTokenCount) count (chainHash config tokens blocks)

end Prefixes

variable {config : Configuration} {cache after : Cache} {tokens : List UInt32} {blocks count index : Nat}

section Blocks

theorem entryIsReusable_flags {entry : Entry} (reusable : entryIsReusable config entry = true) :
    entry.flags.valid = true ∧ entry.flags.reusable = true := by
  simp only [entryIsReusable, Bool.and_eq_true] at reusable
  exact ⟨reusable.1.1.1.1, reusable.1.1.1.2⟩

/-- The entry that is found for a block is a reusable one for it. -/
theorem blockAt_holds (findable : Findable config none cache)
    (found : blockAt config cache tokens blocks count = some index) :
    HoldsBlock config cache tokens blocks count index := by
  obtain ⟨inRange, matched⟩ := findPromptBlock_matches found
  obtain ⟨-, reusable, key⟩ := findPromptBlock_key found
  obtain ⟨valid, flag⟩ := entryIsReusable_flags reusable
  refine ⟨inRange, reusable, key, ?_⟩
  simp only [entryMatches, Bool.and_eq_true, Bool.or_eq_true, beq_iff_eq] at matched
  rcases matched.1.2 with isLive | digest
  · rw [findable.alone index inRange valid isLive] at flag
    cases flag
  · exact digest

/-- A block is found exactly when it is cached. -/
theorem blockAt_iff (findable : Findable config none cache) :
    (∃ index, blockAt config cache tokens blocks count = some index) ↔ BlockCached config cache tokens blocks count := by
  constructor
  · rintro ⟨index, found⟩
    exact ⟨index, blockAt_holds findable found⟩
  · rintro ⟨index, inRange, reusable, key, digest⟩
    refine findable.find inRange ?_
    obtain ⟨valid, -⟩ := entryIsReusable_flags reusable
    simp only [entryMatches, Bool.and_eq_true, Bool.or_eq_true, decide_eq_true_eq, beq_iff_eq]
    exact ⟨⟨⟨valid, key⟩, .inr digest⟩, .inr reusable⟩

theorem SameRecord.file {before after : Entry} (same : SameRecord before after) : SameFile before after := by
  obtain ⟨flags, key, digest, next⟩ := same
  exact ⟨by rw [flags], by rw [flags], by rw [flags], by rw [flags], key, digest, next⟩

section

variable (unfelt : Unfelt cache after)
include unfelt

theorem Unfelt.findPromptBlock (offset count : Nat) (parentHash : UInt64) :
    PrefixCache.findPromptBlock config after tokens offset count parentHash =
      PrefixCache.findPromptBlock config cache tokens offset count parentHash :=
  findEntry_congr (fun i => (unfelt.entries i).file) unfelt.heads _ _ _

theorem Unfelt.holdsBlock :
    HoldsBlock config after tokens blocks count index ↔ HoldsBlock config cache tokens blocks count index := by
  unfold HoldsBlock
  rw [(unfelt.entries index).file.reusable_eq, (unfelt.entries index).key, (unfelt.entries index).contentDigest]

theorem Unfelt.blockCached :
    BlockCached config after tokens blocks count ↔ BlockCached config cache tokens blocks count :=
  exists_congr fun _ => unfelt.holdsBlock

theorem Unfelt.prefixCached (tokenCount : Nat) :
    PrefixCached config after tokens tokenCount ↔ PrefixCached config cache tokens tokenCount := by
  unfold PrefixCached
  simp only [unfelt.blockCached]

end

/-- The longest block is the first that is found, from the longest on. -/
theorem longestBlock_some {offset limit index : Nat} {parentHash : UInt64}
    (found : longestBlock config cache tokens offset parentHash limit = some (index, count)) :
    count ≠ 0 ∧ count ≤ limit ∧ findPromptBlock config cache tokens offset count parentHash = some index ∧
      ∀ longer ≤ limit, count < longer → findPromptBlock config cache tokens offset longer parentHash = none := by
  induction limit with
  | zero => cases found
  | succ limit ih =>
    unfold longestBlock at found
    split at found
    · rename_i here
      cases found
      exact ⟨Nat.succ_ne_zero _, le_rfl, here, fun longer bound more => absurd bound (Nat.not_le.mpr more)⟩
    · rename_i missing
      obtain ⟨positive, bound, isFound, longest⟩ := ih found
      refine ⟨positive, Nat.le_succ_of_le bound, isFound, fun longer within more => ?_⟩
      rcases Nat.le_succ_iff.mp within with inside | rfl
      · exact longest longer inside more
      · exact missing

theorem longestBlock_none {offset limit : Nat} {parentHash : UInt64}
    (missing : longestBlock config cache tokens offset parentHash limit = none) :
    ∀ count ≤ limit, count ≠ 0 → findPromptBlock config cache tokens offset count parentHash = none := by
  induction limit with
  | zero => exact fun count bound positive => absurd (Nat.le_zero.mp bound) positive
  | succ limit ih =>
    unfold longestBlock at missing
    split at missing
    · cases missing
    · rename_i absent
      intro count bound positive
      rcases Nat.le_succ_iff.mp bound with inside | rfl
      · exact ih missing count inside positive
      · exact absent

end Blocks

section Walk

variable {maximum : Nat}

/-- Where no longer block is cached after the whole ones, the prefix cannot be longer. -/
theorem prefixCached_le (findable : Findable config none cache) (bound : count < config.blockTokenCount)
    (longest : ∀ longer ≤ min config.blockTokenCount (maximum - blocks * config.blockTokenCount), count < longer →
      blockAt config cache tokens blocks longer = none) {tokenCount : Nat} (most : tokenCount ≤ maximum)
    (cached : PrefixCached config cache tokens tokenCount) : tokenCount ≤ blocks * config.blockTokenCount + count := by
  obtain ⟨wholes, rest, short, rfl, whole, partly⟩ := cached
  have missing : ∀ longer ≤ min config.blockTokenCount (maximum - blocks * config.blockTokenCount), count < longer →
      ¬ BlockCached config cache tokens blocks longer := by
    intro longer within more isCached
    obtain ⟨index, found⟩ := (blockAt_iff findable).mpr isCached
    rw [longest longer within more] at found
    cases found
  rcases Nat.lt_trichotomy wholes blocks with fewer | rfl | more
  · have below : (wholes + 1) * config.blockTokenCount ≤ blocks * config.blockTokenCount :=
      Nat.mul_le_mul_right _ fewer
    rw [Nat.succ_mul] at below
    omega
  · by_contra longer
    exact missing rest (by omega) (by omega) (partly (by omega))
  · have above : (blocks + 1) * config.blockTokenCount ≤ wholes * config.blockTokenCount :=
      Nat.mul_le_mul_right _ more
    rw [Nat.succ_mul] at above
    exact absurd (whole blocks more) (missing config.blockTokenCount (by omega) bound)

/-- The walk from the whole blocks that it has passed ends at the greatest cached prefix. -/
theorem walkPrompt_greatest {α : Type} {visit : Nat → α → Cache → SparkStatus × α × Cache}
    (quiet : ∀ index gathered cache, (visit index gathered cache).1 = .ok ∧ (visit index gathered cache).2.2 = cache)
    (positive : config.blockTokenCount ≠ 0) (findable : Findable config none cache)
    (whole : ∀ block < blocks, BlockCached config cache tokens block config.blockTokenCount)
    (within : blocks * config.blockTokenCount ≤ maximum) {fuel : Nat}
    (enough : maximum < fuel + blocks * config.blockTokenCount) {walk : Walk} (complete : walk.isPartial = false)
    (offset : walk.tokenOffset = blocks * config.blockTokenCount) (passed : walk.matchedBlockCount = blocks)
    (parent : blocks ≠ 0 → walk.parentHash = chainHash config tokens blocks) (gathered : α) :
    IsGreatest {tokenCount | tokenCount ≤ maximum ∧ PrefixCached config cache tokens tokenCount}
      (walkPrompt config tokens maximum visit fuel walk gathered cache).2.1.tokenOffset := by
  induction fuel generalizing blocks walk gathered cache with
  | zero => omega
  | succ fuel ih =>
    have parentHash : (if walk.matchedBlockCount = 0 then emptyParentHash else walk.parentHash) =
        chainHash config tokens blocks := by
      rw [passed]
      split
      · rename_i zero
        rw [zero]
        rfl
      · rename_i inner
        exact parent inner
    have stay : PrefixCached config cache tokens (blocks * config.blockTokenCount) :=
      ⟨blocks, 0, Nat.pos_of_ne_zero positive, rfl, whole, fun absurdity => absurd rfl absurdity⟩
    unfold walkPrompt
    cases next : walkNextBounded config cache tokens maximum walk with
    | none =>
      dsimp only
      rw [offset]
      refine ⟨⟨within, stay⟩, fun tokenCount cached => ?_⟩
      have longest : ∀ longer ≤ min config.blockTokenCount (maximum - blocks * config.blockTokenCount), 0 < longer →
          blockAt config cache tokens blocks longer = none := by
        unfold walkNextBounded at next
        rw [complete, offset, parentHash] at next
        intro longer bound more
        split at next
        · rename_i ended
          have full := ended.resolve_left (by simp)
          omega
        · dsimp only at next
          split at next
          · rename_i missing
            exact longestBlock_none missing longer bound (Nat.pos_iff_ne_zero.mp more)
          · cases next
      exact prefixCached_le findable (Nat.pos_of_ne_zero positive) longest cached.1 cached.2
    | some found =>
      obtain ⟨index, nextWalk, touched⟩ := found
      unfold walkNextBounded at next
      rw [complete, offset, parentHash] at next
      split at next
      · cases next
      rename_i running
      dsimp only at next
      split at next
      · cases next
      rename_i entry count isLongest
      cases next
      obtain ⟨nonempty, bound, isFound, longest⟩ := longestBlock_some isLongest
      have cached : BlockCached config cache tokens blocks count := (blockAt_iff findable).mp ⟨_, isFound⟩
      have unfelt := Unfelt.touchEntry config cache index
      obtain ⟨succeeded, same⟩ := quiet index gathered (touchEntry config cache index)
      have room : count ≤ maximum - blocks * config.blockTokenCount := bound.trans (Nat.min_le_right ..)
      have size : count ≤ config.blockTokenCount := bound.trans (Nat.min_le_left ..)
      dsimp only
      rw [if_neg (not_not.mpr succeeded), same]
      rcases Nat.lt_or_eq_of_le size with short | rfl
      · -- a shorter block ends the walk
        have ends : ∀ (fuel : Nat) (gathered : α) (cache : Cache) (walk : Walk), walk.isPartial = true →
            (walkPrompt config tokens maximum visit fuel walk gathered cache).2.1 = walk := by
          intro fuel gathered cache walk isPartial
          cases fuel with
          | zero => rfl
          | succ fuel =>
            unfold walkPrompt walkNextBounded
            rw [if_pos (Or.inl isPartial)]
        rw [ends _ _ _ _ (by simpa using short.ne)]
        refine ⟨⟨by dsimp only; omega, blocks, count, short, rfl, whole, fun _ => cached⟩, fun tokenCount other => ?_⟩
        exact prefixCached_le findable short longest other.1 other.2
      · -- the walk goes on after a whole one
        have more : ∀ block < blocks + 1, BlockCached config (touchEntry config cache index) tokens block
            config.blockTokenCount := by
          intro block below
          rw [unfelt.blockCached]
          rcases Nat.lt_succ_iff_lt_or_eq.mp below with earlier | rfl
          · exact whole block earlier
          · exact cached
        have further := @ih (touchEntry config cache index) (blocks + 1) (findable.unfelt unfelt) more
          (by rw [Nat.succ_mul]; omega) (by rw [Nat.succ_mul]; omega)
          { parentHash := hashBlock (blockTokens tokens (blocks * config.blockTokenCount) config.blockTokenCount)
              (chainHash config tokens blocks)
            tokenOffset := blocks * config.blockTokenCount + config.blockTokenCount
            matchedBlockCount := walk.matchedBlockCount + 1
            isPartial := config.blockTokenCount != config.blockTokenCount }
          (by simp) (Nat.succ_mul ..).symm (congrArg (· + 1) passed) (fun _ => rfl)
          (visit index gathered (touchEntry config cache index)).2.1
        simp only [unfelt.prefixCached] at further
        exact further

end Walk

section Probe

variable {arena : Arena} {events : List Event}

theorem probePrompt_greatest (findable : Findable config none cache) {sequenceId : UInt64}
    (probed : (probePrompt config cache sequenceId tokens).1 = .ok) :
    IsGreatest {tokenCount | tokenCount ≤ tokens.length - 1 ∧ PrefixCached config cache tokens tokenCount}
      (probePrompt config cache sequenceId tokens).2.1.matchedTokenCount := by
  have maximum : maximumReusableTokenCount tokens.length = tokens.length - 1 := by
    unfold maximumReusableTokenCount
    split
    · omega
    · rfl
  unfold probePrompt at probed ⊢
  dsimp only at probed ⊢
  split at probed
  · rename_i invalid
    exact absurd probed invalid
  · rename_i accepted
    have positive := validate_block (not_not.mp accepted)
    split at probed
    · cases probed
    rename_i arguments
    rw [if_neg accepted, if_neg arguments, maximum]
    have none : 0 * config.blockTokenCount = 0 := Nat.zero_mul _
    exact walkPrompt_greatest (fun _ _ _ => ⟨rfl, rfl⟩) positive findable
      (fun block below => absurd below (Nat.not_lt_zero block)) (by omega) (by omega) rfl none.symm rfl
      (fun absurdity => absurd rfl absurdity) _

theorem probePrompt_ok (accepted : validate config = .ok) (some : tokens ≠ []) {sequenceId : UInt64}
    (named : sequenceId ≠ 0) : (probePrompt config cache sequenceId tokens).1 = .ok := by
  unfold probePrompt
  have inOrder : ¬ (tokens.length = 0 ∨ sequenceId = 0) :=
    not_or.mpr ⟨fun empty => some (List.length_eq_zero_iff.mp empty), named⟩
  rw [if_neg (not_not.mpr accepted), if_neg inOrder]

/-- After every run the probe of a prompt reports the greatest number of tokens, below all of them, that are
whole reusable blocks and at most one shorter one. -/
theorem probePrompt_longest (config : Configuration) (arena : Arena) (events : List Event) (sequenceId : UInt64)
    (tokens : List UInt32) (accepted : validate config = .ok) (some : tokens ≠ []) (named : sequenceId ≠ 0) :
    (probePrompt config (run config events (initialCache config arena)) sequenceId tokens).1 = .ok ∧
      IsGreatest
        {tokenCount | tokenCount ≤ tokens.length - 1 ∧
          PrefixCached config (run config events (initialCache config arena)) tokens tokenCount}
        (probePrompt config (run config events (initialCache config arena)) sequenceId tokens).2.1.matchedTokenCount :=
  have ok := probePrompt_ok accepted some named
  ⟨ok, probePrompt_greatest (findable_run config arena events) ok⟩

/-- One sequence reserves a block of one token and commits it. -/
def commitOneToken (token : UInt32) : List Event :=
  [.call (.reservePrompt 1 [token] none), .call (.commitReservation 1 1)]

theorem probePrompt_longest_committed :
    (probePrompt oneBlockConfiguration (run oneBlockConfiguration (commitOneToken 2)
        (initialCache oneBlockConfiguration (Arena.initial oneBlockLayout))) 2 [2, 3]).2.1.matchedTokenCount = 1 ∧
      PrefixCached oneBlockConfiguration (run oneBlockConfiguration (commitOneToken 2)
        (initialCache oneBlockConfiguration (Arena.initial oneBlockLayout))) [2, 3] 1 := by
  have matched : (probePrompt oneBlockConfiguration (run oneBlockConfiguration (commitOneToken 2)
      (initialCache oneBlockConfiguration (Arena.initial oneBlockLayout))) 2 [2, 3]).2.1.matchedTokenCount = 1 := by
    decide +kernel
  have greatest := probePrompt_longest oneBlockConfiguration (Arena.initial oneBlockLayout) (commitOneToken 2) 2 [2, 3]
    (by decide) nofun (by decide)
  rw [matched] at greatest
  exact ⟨matched, greatest.2.1.2⟩

end Probe

end Sparkpipe.PrefixCache
