import Sparkpipe.Cache.Prefix.Longest

/-!
# Tombstones

`SparkPrefixCacheTombstone` is to end the reuse of a prefix until a commit installs its last block again. It
retires the entry that the walk ends at. Two sequences that reserve a missing prefix before either commits it
leave two reusable entries for one block, and the second is found once the first is gone: the tombstone is
final exactly where the block is cached once.
-/

namespace Sparkpipe.PrefixCache

open Function
open Sparkpipe.KvCache (Layout Arena)

section Holders

variable (config : Configuration) (tokens : List UInt32)

/-- The whole blocks before the last block of a prefix. -/
def wholeBlocks : Nat := (tokens.length - 1) / config.blockTokenCount

/-- The size of the last block of a prefix. -/
def lastCount : Nat := tokens.length - wholeBlocks config tokens * config.blockTokenCount

/-- The entry is a reusable one for the last block of a prefix. -/
def HoldsLast (cache : Cache) (index : Nat) : Prop :=
  HoldsBlock config cache tokens (wholeBlocks config tokens) (lastCount config tokens) index

/-- A match of so many tokens of a prompt goes through the last block of its prefix. A shorter block is the last
of a match. -/
def ThroughLast (matchedTokenCount : Nat) : Prop :=
  matchedTokenCount = tokens.length ∨
    tokens.length % config.blockTokenCount = 0 ∧ tokens.length ≤ matchedTokenCount

/-- An event has installed the last block of a prefix. -/
def InstallsLast (before after : Cache) : Prop :=
  ∃ index, HoldsLast config tokens after index ∧ ¬ HoldsLast config tokens before index

/-- The calls that can commit a block. -/
def Event.Commits : Event → Prop
  | .call operation => operation.Commits
  | .outside _ => False

/-- No commit along a run installs the last block of a prefix. -/
def Uncommitted : List Event → Cache → Prop
  | [], _ => True
  | event :: rest, cache =>
    (event.Commits → ¬ InstallsLast config tokens cache (occur config cache event)) ∧
      Uncommitted rest (occur config cache event)

end Holders

variable {config : Configuration} {cache after : Cache} {tokens prompt : List UInt32} {blocks count index : Nat}

section Prefixes

theorem wholeBlocks_le : wholeBlocks config tokens * config.blockTokenCount ≤ tokens.length - 1 :=
  Nat.div_mul_le_self ..

theorem wholeBlocks_add :
    wholeBlocks config tokens * config.blockTokenCount + lastCount config tokens = tokens.length := by
  have below := @wholeBlocks_le config tokens
  unfold lastCount
  omega

theorem lastCount_le (positive : config.blockTokenCount ≠ 0) : lastCount config tokens ≤ config.blockTokenCount := by
  have above := Nat.lt_div_mul_add (Nat.pos_of_ne_zero positive) (a := tokens.length - 1)
  unfold lastCount wholeBlocks
  omega

/-- The blocks of a prefix are determined by its length. -/
theorem wholeBlocks_eq (positive : count ≠ 0) (size : count ≤ config.blockTokenCount)
    (length : blocks * config.blockTokenCount + count = tokens.length) :
    wholeBlocks config tokens = blocks ∧ lastCount config tokens = count := by
  have whole : wholeBlocks config tokens = blocks := by
    unfold wholeBlocks
    rw [← length, Nat.div_eq_of_lt_le]
    · omega
    · rw [Nat.succ_mul]
      omega
  refine ⟨whole, ?_⟩
  unfold lastCount
  rw [whole]
  omega

/-- A block that lies in a prefix has the same tokens in every longer prompt. -/
theorem blockTokens_extend (within : tokens <+: prompt) {offset : Nat} (inside : offset + count ≤ tokens.length) :
    blockTokens prompt offset count = blockTokens tokens offset count := by
  obtain ⟨rest, rfl⟩ := within
  unfold blockTokens
  rw [List.drop_append_of_le_length (by omega), List.take_append_of_le_length (by rw [List.length_drop]; omega)]

theorem chainHash_extend (within : tokens <+: prompt) (inside : blocks * config.blockTokenCount ≤ tokens.length) :
    chainHash config prompt blocks = chainHash config tokens blocks := by
  induction blocks with
  | zero => rfl
  | succ blocks ih =>
    rw [Nat.succ_mul] at inside
    unfold chainHash
    rw [blockTokens_extend within inside, ih (by omega)]

theorem holdsBlock_extend (within : tokens <+: prompt)
    (inside : blocks * config.blockTokenCount + count ≤ tokens.length) :
    HoldsBlock config cache prompt blocks count index ↔ HoldsBlock config cache tokens blocks count index := by
  unfold HoldsBlock promptBlockKey
  rw [blockTokens_extend within inside, chainHash_extend within (by omega)]

/-- A match through the last block of a prefix has an entry for it. -/
theorem holdsLast_of_through (nonempty : tokens.length ≠ 0) (positive : config.blockTokenCount ≠ 0)
    (within : tokens <+: prompt) {matched : Nat} (cached : PrefixCached config cache prompt matched)
    (through : ThroughLast config tokens matched) : ∃ index, HoldsLast config tokens cache index := by
  obtain ⟨whole, rest, short, rfl, wholes, last⟩ := cached
  have held : ∀ blocks count, count ≠ 0 → count ≤ config.blockTokenCount →
      blocks * config.blockTokenCount + count = tokens.length → BlockCached config cache prompt blocks count →
      ∃ index, HoldsLast config tokens cache index := by
    intro blocks count nonzero size length isCached
    obtain ⟨index, holds⟩ := isCached
    obtain ⟨sameBlocks, sameCount⟩ := wholeBlocks_eq nonzero size length
    refine ⟨index, ?_⟩
    unfold HoldsLast
    rw [sameBlocks, sameCount]
    exact (holdsBlock_extend within length.le).mp holds
  by_cases partly : tokens.length % config.blockTokenCount = 0
  · -- the last block is whole, and the match has at least as many whole blocks
    obtain ⟨parts, isProduct⟩ := Nat.dvd_of_mod_eq_zero partly
    have some : parts ≠ 0 := by
      rintro rfl
      exact nonempty (by simpa using isProduct)
    obtain ⟨before, rfl⟩ := Nat.exists_eq_succ_of_ne_zero some
    have reached : tokens.length ≤ whole * config.blockTokenCount + rest := by
      rcases through with same | ⟨-, more⟩
      · exact same.ge
      · exact more
    have product : (before + 1) * config.blockTokenCount = tokens.length := by
      rw [isProduct, Nat.mul_comm]
    have below : before < whole := by
      by_contra notBelow
      have fewer : whole * config.blockTokenCount ≤ before * config.blockTokenCount :=
        Nat.mul_le_mul_right _ (Nat.not_lt.mp notBelow)
      rw [Nat.succ_mul] at product
      omega
    exact held before config.blockTokenCount positive le_rfl (by rw [← product, Nat.succ_mul])
      (wholes before below)
  · -- a shorter block is the last of the match
    have same : whole * config.blockTokenCount + rest = tokens.length := through.resolve_right fun full => partly full.1
    have nonzero : rest ≠ 0 := by
      rintro rfl
      apply partly
      rw [← same]
      simp
    exact held whole rest nonzero short.le same (last nonzero)

end Prefixes

section Final

/-- A write that leaves the entry, or leaves it not reusable, makes no holder of it. -/
theorem holdsBlock_of_kept {before : Cache} (kept : (after.entries index).unfiled = (before.entries index).unfiled ∨
      (after.entries index).flags.reusable = false) (holds : HoldsBlock config after tokens blocks count index) :
    HoldsBlock config before tokens blocks count index := by
  obtain ⟨inRange, reusable, key, digest⟩ := holds
  rcases kept with same | retired
  · have flags : (after.entries index).flags = (before.entries index).flags := (Entry.of_unfiled same).1
    have keys : (after.entries index).key = (before.entries index).key := (Entry.of_unfiled same).2.1
    have unfiledDigests := congrArg Entry.contentDigest same
    have digests : (after.entries index).contentDigest = (before.entries index).contentDigest := unfiledDigests
    have size : (after.entries index).tokenCount = (before.entries index).tokenCount :=
      congrArg BlockKey.tokenCount keys
    unfold entryIsReusable at reusable
    rw [flags, size] at reusable
    rw [keys] at key
    rw [digests] at digest
    exact ⟨inRange, reusable, key, digest⟩
  · have flag := (entryIsReusable_flags reusable).2
    rw [retired] at flag
    cases flag

/-- No entry is a reusable one for the block. -/
def NoHolder (config : Configuration) (tokens : List UInt32) (blocks count : Nat) (cache : Cache) : Prop :=
  ∀ index, ¬ HoldsBlock config cache tokens blocks count index

theorem NoHolder.kept (none : NoHolder config tokens blocks count cache)
    (kept : ∀ i, (after.entries i).unfiled = (cache.entries i).unfiled ∨ (after.entries i).flags.reusable = false) :
    NoHolder config tokens blocks count after :=
  fun index holds => none index (holdsBlock_of_kept (kept index) holds)

/-- A write of one entry. -/
theorem NoHolder.write (index : Nat) (none : NoHolder config tokens blocks count cache)
    (others : ∀ i ≠ index, (after.entries i).unfiled = (cache.entries i).unfiled)
    (here : (after.entries index).unfiled = (cache.entries index).unfiled ∨
      (after.entries index).flags.reusable = false) : NoHolder config tokens blocks count after := by
  apply none.kept
  intro i
  by_cases same : i = index
  · rw [same]
    exact here
  · exact .inl (others i same)

/-- Only a commit makes a block reusable. -/
theorem NoHolder.upkeep (config : Configuration) (tokens : List UInt32) (blocks count : Nat) :
    Upkeep config False (NoHolder config tokens blocks count) where
  unfelt unfelt none index holds := none index (unfelt.holdsBlock.mp holds)
  install index install _ commits none := by
    rcases installEntry_entries config _ index install with ⟨-, same⟩ | ⟨-, others, written⟩
    · exact none.kept fun i => .inl (same i)
    · refine NoHolder.write index none others (.inr ?_)
      rw [written.flags]
      cases reusable : install.flags.reusable with
      | false => rfl
      | true => exact absurd reusable commits
  invalidate index none := by
    obtain ⟨others, here⟩ := invalidateEntry_entries config _ index
    refine NoHolder.write index none others (here.imp_right fun cleared => ?_)
    rw [cleared]
  commit _ _ commits _ := commits.elim
  extend binding index none := by
    refine NoHolder.write index none (fun i other => ?_) (.inr ?_)
    · unfold extendTail modifyEntry
      dsimp only
      rw [update_of_ne other]
      rfl
    · unfold extendTail modifyEntry
      dsimp only
      rw [update_self]
  stale index none := by
    refine NoHolder.write index none (fun i other => ?_) (.inr ?_)
    · unfold modifyEntry
      dsimp only
      rw [update_of_ne other]
    · unfold modifyEntry
      dsimp only
      rw [update_self]
  setResume index resume none i holds := by
    apply none i
    unfold PrefixCache.setResume modifyEntry HoldsBlock at holds
    by_cases same : i = index
    · rw [same] at holds ⊢
      dsimp only at holds
      rw [update_self] at holds
      exact holds
    · dsimp only at holds
      rw [update_of_ne same] at holds
      exact holds
  setResumeChild index none i holds := by
    apply none i
    unfold PrefixCache.setResumeChild modifyEntry HoldsBlock at holds
    by_cases same : i = index
    · rw [same] at holds ⊢
      dsimp only at holds
      rw [update_self] at holds
      exact holds
    · dsimp only at holds
      rw [update_of_ne same] at holds
      exact holds

/-- Starting over leaves no entry, or changes nothing. -/
theorem NoHolder.reset (none : NoHolder config tokens blocks count cache) :
    NoHolder config tokens blocks count (PrefixCache.reset config cache).2 := by
  unfold PrefixCache.reset
  split
  · exact none
  intro index holds
  have flag := (entryIsReusable_flags holds.2.1).1
  have cleared : ∀ after : Cache, (∀ i < config.entryCount, after.entries i =
      (initialCache config cache.arena).entries i) → (after.entries index).flags.valid ≠ true := by
    intro after same valid
    rw [same index holds.1] at valid
    cases valid
  refine cleared _ (fun i inRange => ?_) flag
  dsimp only
  refine andThen_preserves (P := fun after : Cache => after.entries i = (initialCache config cache.arena).entries i)
    ?_ fun _ => ?_
  · split
    · exact if_pos inRange
    · exact if_pos inRange
  · dsimp only
    split
    · exact if_pos inRange
    · exact if_pos inRange

theorem NoHolder.occur (none : NoHolder config tokens blocks count cache) {event : Event}
    (uncommitted : ¬ event.Commits) : NoHolder config tokens blocks count (PrefixCache.occur config cache event) := by
  cases event with
  | call operation =>
    by_cases isReset : operation = .reset
    · rw [isReset]
      exact none.reset
    · exact (NoHolder.upkeep config tokens blocks count).perform operation uncommitted isReset none
  | outside arena => exact none.kept fun _ => .inl rfl

/-- While no commit installs the last block again, no entry is a reusable one for it. -/
theorem NoHolder.run {events : List Event}
    (none : NoHolder config tokens (wholeBlocks config tokens) (lastCount config tokens) cache)
    (uncommitted : Uncommitted config tokens events cache) :
    NoHolder config tokens (wholeBlocks config tokens) (lastCount config tokens)
      (PrefixCache.run config events cache) := by
  induction events generalizing cache with
  | nil => exact none
  | cons event rest ih =>
    obtain ⟨first, later⟩ := uncommitted
    refine ih ?_ later
    by_cases commits : event.Commits
    · exact fun index holds => first commits ⟨index, holds, none index⟩
    · exact none.occur commits

end Final

section Walk

variable {maximum : Nat}

/-- The entry that the walk of a tombstone ends at is the one that is found for the last block of its match. -/
theorem walkPrompt_terminal {fuel : Nat} {walk : Walk} (complete : walk.isPartial = false)
    (offset : walk.tokenOffset = blocks * config.blockTokenCount) (passed : walk.matchedBlockCount = blocks)
    (parent : blocks ≠ 0 → walk.parentHash = chainHash config tokens blocks) (terminal : Option Nat) :
    let walked := walkPrompt config tokens maximum (fun index (_ : Option Nat) cache => (.ok, some index, cache)) fuel
      walk terminal cache
    Unfelt cache walked.2.2.2 ∧
      (walked.2.1.tokenOffset = blocks * config.blockTokenCount ∧ walked.2.2.1 = terminal ∨
        ∃ blocks count index, walked.2.2.1 = some index ∧ count ≠ 0 ∧ count ≤ config.blockTokenCount ∧
          walked.2.1.tokenOffset = blocks * config.blockTokenCount + count ∧
          blockAt config cache tokens blocks count = some index) := by
  induction fuel generalizing blocks walk terminal cache with
  | zero => exact ⟨.beside rfl rfl, .inl ⟨offset, rfl⟩⟩
  | succ fuel ih =>
    have parentHash : (if walk.matchedBlockCount = 0 then emptyParentHash else walk.parentHash) =
        chainHash config tokens blocks := by
      rw [passed]
      split
      · rename_i zero
        rw [zero]
        rfl
      · rename_i inner
        exact parent inner
    unfold walkPrompt
    cases next : walkNextBounded config cache tokens maximum walk with
    | none => exact ⟨.beside rfl rfl, .inl ⟨offset, rfl⟩⟩
    | some found =>
      obtain ⟨index, nextWalk, touched⟩ := found
      unfold walkNextBounded at next
      rw [complete, offset, parentHash] at next
      split at next
      · cases next
      dsimp only at next
      split at next
      · cases next
      rename_i entry count isLongest
      cases next
      obtain ⟨nonempty, bound, isFound, -⟩ := longestBlock_some isLongest
      have size : count ≤ config.blockTokenCount := bound.trans (Nat.min_le_left ..)
      have unfelt := Unfelt.touchEntry config cache index
      dsimp only
      rw [if_neg (not_not.mpr rfl)]
      rcases Nat.lt_or_eq_of_le size with short | rfl
      · -- a shorter block ends the walk
        have ends : ∀ (fuel : Nat) (terminal : Option Nat) (cache : Cache) (walk : Walk), walk.isPartial = true →
            walkPrompt config tokens maximum (fun index (_ : Option Nat) cache => (.ok, some index, cache)) fuel
              walk terminal cache = (.ok, walk, terminal, cache) := by
          intro fuel terminal cache walk isPartial
          cases fuel with
          | zero => rfl
          | succ fuel =>
            unfold walkPrompt walkNextBounded
            rw [if_pos (Or.inl isPartial)]
        rw [ends _ _ _ _ (by simpa using short.ne)]
        exact ⟨unfelt, .inr ⟨blocks, count, index, rfl, nonempty, size, rfl, isFound⟩⟩
      · -- the walk goes on after a whole one
        obtain ⟨further, ended⟩ := @ih (touchEntry config cache index) (blocks + 1)
          { parentHash := hashBlock (blockTokens tokens (blocks * config.blockTokenCount) config.blockTokenCount)
              (chainHash config tokens blocks)
            tokenOffset := blocks * config.blockTokenCount + config.blockTokenCount
            matchedBlockCount := walk.matchedBlockCount + 1
            isPartial := config.blockTokenCount != config.blockTokenCount }
          (by simp) (Nat.succ_mul ..).symm (congrArg (· + 1) passed) (fun _ => rfl) (some index)
        refine ⟨unfelt.trans further, .inr ?_⟩
        rcases ended with ⟨stayed, isTerminal⟩ | ⟨blocks', count', index', isTerminal, nonempty', size', length, isFound'⟩
        · exact ⟨blocks, config.blockTokenCount, index, isTerminal, nonempty, le_rfl,
            stayed.trans (Nat.succ_mul ..), isFound⟩
        · refine ⟨blocks', count', index', isTerminal, nonempty', size', length, ?_⟩
          unfold blockAt at isFound' ⊢
          rw [← isFound', unfelt.findPromptBlock]

/-- The entry that is retired is not reusable any more, and the others keep what they record. -/
theorem retire_entries (config : Configuration) (cache : Cache) (index : Nat) :
    let marked := modifyEntry cache index fun entry =>
      { entry with flags := { entry.flags with reusable := false, stale := true } }
    let after :=
      (if (marked.entries index).referenceCount = 0 then invalidateEntry config marked index else (.ok, marked)).2
    (after.entries index).flags.reusable = false ∧
      ∀ i ≠ index, (after.entries i).unfiled = (cache.entries i).unfiled := by
  intro marked after
  have markedHere : (marked.entries index).flags.reusable = false := by
    simp [marked, modifyEntry]
  have markedOther : ∀ i ≠ index, (marked.entries i).unfiled = (cache.entries i).unfiled := by
    intro i other
    simp [marked, modifyEntry, other]
  by_cases unreferenced : (marked.entries index).referenceCount = 0
  · have invalidated : after = (invalidateEntry config marked index).2 :=
      congrArg Prod.snd (if_pos unreferenced)
    obtain ⟨others, here⟩ := invalidateEntry_entries config marked index
    rw [invalidated]
    constructor
    · rcases here with same | cleared
      · rw [(Entry.of_unfiled same).1]
        exact markedHere
      · rw [cleared]
    · intro i other
      exact (others i other).trans (markedOther i other)
  · have kept : after = marked := congrArg Prod.snd (if_neg unreferenced)
    rw [kept]
    exact ⟨markedHere, markedOther⟩

/-- What a tombstone that succeeds does: every block of the prefix was cached, and one entry for the last of them
is not reusable any more. -/
theorem tombstonePrompt_retires (findable : Findable config none cache)
    (retired : (tombstonePrompt config cache tokens).1 = .ok) :
    config.blockTokenCount ≠ 0 ∧ tokens.length ≠ 0 ∧ PrefixCached config cache tokens tokens.length ∧
      ∃ index, HoldsLast config tokens cache index ∧
        ((tombstonePrompt config cache tokens).2.entries index).flags.reusable = false ∧
        ∀ i ≠ index, ∀ blocks count, HoldsBlock config (tombstonePrompt config cache tokens).2 tokens blocks count i ↔
          HoldsBlock config cache tokens blocks count i := by
  unfold tombstonePrompt at retired ⊢
  split at retired
  · rename_i invalid
    exact absurd retired invalid
  rename_i accepted
  have positive := validate_block (not_not.mp accepted)
  split at retired
  · cases retired
  rename_i nonempty
  rw [if_neg accepted, if_neg nonempty]
  have none : 0 * config.blockTokenCount = 0 := Nat.zero_mul _
  have ended := @walkPrompt_terminal config cache tokens 0 tokens.length (tokens.length + 1) {} rfl none.symm rfl
    (fun absurdity => absurd rfl absurdity) Option.none
  have greatest := @walkPrompt_greatest config cache tokens 0 tokens.length (Option Nat)
    (fun index _ cache => (.ok, some index, cache)) (fun _ _ _ => ⟨rfl, rfl⟩) positive findable
    (fun block below => absurd below (Nat.not_lt_zero block)) (by omega) (tokens.length + 1) (by omega) {} rfl none.symm
    rfl (fun absurdity => absurd rfl absurdity) Option.none
  dsimp only at retired ended ⊢
  revert retired ended greatest
  generalize walkPrompt config tokens tokens.length _ _ _ _ cache = walked
  obtain ⟨status, walk, terminal, walkedCache⟩ := walked
  intro retired ended greatest
  dsimp only at retired ended greatest ⊢
  obtain ⟨unfelt, ended⟩ := ended
  cases terminal with
  | none => cases retired
  | some index =>
    dsimp only at retired ⊢
    split at retired
    · cases retired
    rename_i whole
    have reached : walk.tokenOffset = tokens.length := not_not.mp whole
    rw [if_neg whole]
    have last : HoldsLast config tokens cache index := by
      rcases ended with ⟨-, absurdity⟩ | ⟨blocks, count, other, same, nonzero, size, length, isFound⟩
      · cases absurdity
      cases same
      obtain ⟨sameBlocks, sameCount⟩ := wholeBlocks_eq nonzero size (length.symm.trans reached)
      unfold HoldsLast
      rw [sameBlocks, sameCount]
      exact blockAt_holds findable isFound
    have cached : PrefixCached config cache tokens tokens.length := by
      rw [← reached]
      exact greatest.1.2
    obtain ⟨here, others⟩ := retire_entries config walkedCache index
    refine ⟨positive, nonempty, cached, index, last, here, fun i other blocks count => ⟨fun holds => ?_, fun holds => ?_⟩⟩
    · exact unfelt.holdsBlock.mp (holdsBlock_of_kept (.inl (others i other)) holds)
    · exact holdsBlock_of_kept (.inl (others i other).symm) (unfelt.holdsBlock.mpr holds)

end Walk

section Claims

theorem probePrompt_failed {sequenceId : UInt64} (failed : (probePrompt config cache sequenceId prompt).1 ≠ .ok) :
    (probePrompt config cache sequenceId prompt).2.1.matchedTokenCount = 0 := by
  unfold probePrompt at failed ⊢
  dsimp only at failed ⊢
  split
  · rfl
  split
  · rfl
  · rename_i accepted arguments
    rw [if_neg accepted, if_neg arguments] at failed
    exact absurd rfl failed

variable {arena : Arena} {events : List Event}

/-- Where the whole blocks of a prefix are cached and an entry is a reusable one for its last block, the prefix is
cached in every prompt that it begins. -/
theorem prefixCached_of_holder (positive : config.blockTokenCount ≠ 0)
    (within : tokens <+: prompt)
    (whole : ∀ block < wholeBlocks config tokens, BlockCached config cache tokens block config.blockTokenCount)
    (last : HoldsLast config tokens cache index) : PrefixCached config cache prompt tokens.length := by
  have length := @wholeBlocks_add config tokens
  have size := @lastCount_le config tokens positive
  have wholes : ∀ block < wholeBlocks config tokens, BlockCached config cache prompt block config.blockTokenCount := by
    intro block below
    obtain ⟨i, holds⟩ := whole block below
    have inside : (block + 1) * config.blockTokenCount ≤ wholeBlocks config tokens * config.blockTokenCount :=
      Nat.mul_le_mul_right _ below
    rw [Nat.succ_mul] at inside
    exact ⟨i, (holdsBlock_extend within (by omega)).mpr holds⟩
  have final : BlockCached config cache prompt (wholeBlocks config tokens) (lastCount config tokens) :=
    ⟨index, (holdsBlock_extend within length.le).mpr last⟩
  rcases Nat.lt_or_eq_of_le size with short | full
  · exact ⟨wholeBlocks config tokens, lastCount config tokens, short, length.symm, wholes, fun _ => final⟩
  · refine ⟨wholeBlocks config tokens + 1, 0, Nat.pos_of_ne_zero positive, ?_, fun block below => ?_,
      fun absurdity => absurd rfl absurdity⟩
    · rw [Nat.succ_mul]
      omega
    · rcases Nat.lt_succ_iff_lt_or_eq.mp below with earlier | rfl
      · exact wholes block earlier
      · rw [← full]
        exact final

/-- A second entry for the last block keeps the prefix cached after the tombstone. -/
theorem prefixCached_of_second (findable : Findable config none cache)
    (retired : (tombstonePrompt config cache tokens).1 = .ok) (within : tokens <+: prompt) {one other : Nat}
    (different : one ≠ other) (oneHolds : HoldsLast config tokens cache one)
    (otherHolds : HoldsLast config tokens cache other) :
    PrefixCached config (tombstonePrompt config cache tokens).2 prompt tokens.length := by
  obtain ⟨positive, -, ⟨whole, rest, short, length, wholes, -⟩, index, last, -, others⟩ :=
    tombstonePrompt_retires findable retired
  have wholesStay : ∀ block < wholeBlocks config tokens,
      BlockCached config (tombstonePrompt config cache tokens).2 tokens block config.blockTokenCount := by
    intro block below
    have before : wholeBlocks config tokens ≤ whole := by
      by_contra more
      have above : (whole + 1) * config.blockTokenCount ≤ wholeBlocks config tokens * config.blockTokenCount :=
        Nat.mul_le_mul_right _ (Nat.not_le.mp more)
      have bound := @wholeBlocks_le config tokens
      rw [Nat.succ_mul] at above
      omega
    obtain ⟨i, holds⟩ := wholes block (Nat.lt_of_lt_of_le below before)
    have survives : i ≠ index := by
      rintro rfl
      have offset : block * config.blockTokenCount = wholeBlocks config tokens * config.blockTokenCount :=
        congrArg BlockKey.firstTokenIndex (holds.2.2.1.symm.trans last.2.2.1)
      exact below.ne (Nat.eq_of_mul_eq_mul_right (Nat.pos_of_ne_zero positive) offset)
    exact ⟨i, (others i survives _ _).mpr holds⟩
  rcases eq_or_ne one index with rfl | survives
  · exact prefixCached_of_holder positive within wholesStay ((others other different.symm _ _).mpr otherHolds)
  · exact prefixCached_of_holder positive within wholesStay ((others one survives _ _).mpr oneHolds)

/-- A tombstone is final until a commit exactly where one entry only is a reusable one for the last block. -/
theorem tombstonePrompt_final (config : Configuration) (arena : Arena) (events : List Event) (tokens : List UInt32)
    (retired : (tombstonePrompt config (run config events (initialCache config arena)) tokens).1 = .ok) :
    (∀ later, Uncommitted config tokens later
        (tombstonePrompt config (run config events (initialCache config arena)) tokens).2 →
      ∀ prompt sequenceId, tokens <+: prompt → ¬ ThroughLast config tokens
        (probePrompt config (run config later
          (tombstonePrompt config (run config events (initialCache config arena)) tokens).2) sequenceId
          prompt).2.1.matchedTokenCount) ↔
      ∀ one other, HoldsLast config tokens (run config events (initialCache config arena)) one →
        HoldsLast config tokens (run config events (initialCache config arena)) other → one = other := by
  have findable := findable_run config arena events
  obtain ⟨positive, nonempty, -, index, last, cleared, others⟩ := tombstonePrompt_retires findable retired
  have accepted : validate config = .ok := by
    by_contra invalid
    unfold tombstonePrompt at retired
    rw [if_pos invalid] at retired
    exact invalid retired
  constructor
  · -- the prompt that goes on after the prefix is matched by the second entry
    intro final one other oneHolds otherHolds
    by_contra different
    have within : tokens <+: tokens ++ [0] := List.prefix_append ..
    apply final [] trivial (tokens ++ [0]) 1 within
    have findableAfter : Findable config none
        (tombstonePrompt config (run config events (initialCache config arena)) tokens).2 :=
      findable.run [.call (.tombstonePrompt tokens)]
    have probed : (probePrompt config (tombstonePrompt config (run config events (initialCache config arena)) tokens).2 1
        (tokens ++ [0])).1 = .ok := probePrompt_ok accepted (by simp) (by decide)
    have cached := prefixCached_of_second findable retired within different oneHolds otherHolds
    have greatest := probePrompt_greatest findableAfter probed
    have length : (tokens ++ [0]).length - 1 = tokens.length := by simp
    rw [length] at greatest
    exact .inl (Nat.le_antisymm greatest.1.1 (greatest.2 ⟨le_rfl, cached⟩))
  · -- nothing but a commit makes the last block reusable again
    intro single later uncommitted prompt sequenceId within through
    have noHolder : NoHolder config tokens (wholeBlocks config tokens) (lastCount config tokens)
        (tombstonePrompt config (run config events (initialCache config arena)) tokens).2 := by
      intro i holds
      by_cases here : i = index
      · have flag := (entryIsReusable_flags holds.2.1).2
        rw [here, cleared] at flag
        cases flag
      · exact here (single i index ((others i here _ _).mp holds) last)
    have findableLater : Findable config none (run config later
        (tombstonePrompt config (run config events (initialCache config arena)) tokens).2) :=
      findable.run (.call (.tombstonePrompt tokens) :: later)
    by_cases probed : (probePrompt config (run config later
        (tombstonePrompt config (run config events (initialCache config arena)) tokens).2) sequenceId prompt).1 = .ok
    · have cached := (probePrompt_greatest findableLater probed).1.2
      obtain ⟨i, holds⟩ := holdsLast_of_through nonempty positive within cached through
      exact noHolder.run uncommitted i holds
    · rw [probePrompt_failed probed] at through
      rcases through with empty | ⟨-, empty⟩
      · exact nonempty empty.symm
      · exact nonempty (Nat.le_zero.mp empty)

/-- Two sequences reserve one block before either commits it. -/
def reserveTwice : List Event :=
  [.call (.reservePrompt 1 [2] none), .call (.reservePrompt 2 [2] none), .call (.commitReservation 1 1),
    .call (.commitReservation 2 2)]

/-- A tombstone of a block that two sequences have committed leaves it cached. -/
theorem tombstonePrompt_leaves_second :
    configurationStatus twoBlockConfiguration = .ok ∧
      (tombstonePrompt twoBlockConfiguration
        (run twoBlockConfiguration reserveTwice (initialCache twoBlockConfiguration (Arena.initial twoBlockLayout)))
        [2]).1 = .ok ∧
      (probePrompt twoBlockConfiguration
        (tombstonePrompt twoBlockConfiguration
          (run twoBlockConfiguration reserveTwice (initialCache twoBlockConfiguration (Arena.initial twoBlockLayout)))
          [2]).2 3 [2, 3]).2.1.matchedTokenCount = 1 := by
  decide +kernel

theorem tombstonePrompt_final_once :
    (tombstonePrompt oneBlockConfiguration (run oneBlockConfiguration (commitOneToken 2)
      (initialCache oneBlockConfiguration (Arena.initial oneBlockLayout))) [2]).1 = .ok ∧
    ¬ ThroughLast oneBlockConfiguration [2] (probePrompt oneBlockConfiguration (run oneBlockConfiguration []
      (tombstonePrompt oneBlockConfiguration (run oneBlockConfiguration (commitOneToken 2)
        (initialCache oneBlockConfiguration (Arena.initial oneBlockLayout))) [2]).2) 3 [2, 3]).2.1.matchedTokenCount := by
  have retired : (tombstonePrompt oneBlockConfiguration (run oneBlockConfiguration (commitOneToken 2)
      (initialCache oneBlockConfiguration (Arena.initial oneBlockLayout))) [2]).1 = .ok := by
    decide +kernel
  refine ⟨retired, ?_⟩
  refine (tombstonePrompt_final oneBlockConfiguration (Arena.initial oneBlockLayout) (commitOneToken 2) [2] retired).mpr
    (fun one other oneHolds otherHolds => ?_) [] trivial [2, 3] 3 (by decide)
  have first : one < 1 := oneHolds.1
  have second : other < 1 := otherHolds.1
  omega

end Claims

end Sparkpipe.PrefixCache
