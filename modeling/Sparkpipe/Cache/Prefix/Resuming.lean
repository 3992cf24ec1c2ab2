import Mathlib.Order.Lattice.Nat
import Sparkpipe.Cache.Prefix.Longest
import Sparkpipe.Cache.Prefix.Views

/-!
# The greatest resume point

`SparkPrefixCacheResumeTokenCount` is to find the greatest resume point of a match. It walks the blocks of the
match once. A shorter block that hangs off the walk is looked for in the last block, and after a block with a hint
that such a block is marked; a marked one at the start of the prompt has no block that could carry the hint, and the
hint is lost with the entry that carries it.
-/

namespace Sparkpipe.PrefixCache

open Sparkpipe.KvCache (Layout Arena)

section Points

variable (config : Configuration) (cache : Cache) (tokens : List UInt32)

/-- A marked entry stands for a block of the prompt that ends at this token. -/
def ResumePoint (tokenCount : Nat) : Prop :=
  ∃ blocks count index, tokenCount = blocks * config.blockTokenCount + count ∧
    (∀ block < blocks, BlockCached config cache tokens block config.blockTokenCount) ∧
    HoldsBlock config cache tokens blocks count index ∧ (cache.entries index).flags.resume = true

/-- The entry that is found for a block is marked. -/
def FoundMarked (blocks count : Nat) : Prop :=
  ∃ index, blockAt config cache tokens blocks count = some index ∧ (cache.entries index).flags.resume = true

/-- The entry that is found for the whole block before has the hint that a shorter one after it is marked. -/
def Hinted (blocks : Nat) : Prop :=
  ∃ before parent, blocks = before + 1 ∧ blockAt config cache tokens before config.blockTokenCount = some parent ∧
    (cache.entries parent).flags.resumeChild = true

/-- A resume point that the walk over a match looks at: its block is a whole one, or in the last block of
the match, or the block before carries the hint, and the entry that is found for it is the marked one. -/
def SeenPoint (matched tokenCount : Nat) : Prop :=
  ∃ blocks count, count ≠ 0 ∧ count ≤ config.blockTokenCount ∧ tokenCount = blocks * config.blockTokenCount + count ∧
    FoundMarked config cache tokens blocks count ∧
    (count = config.blockTokenCount ∨ matched ≤ (blocks + 1) * config.blockTokenCount ∨ Hinted config cache tokens blocks)

/-- The tokens of a match that are in its block after so many whole ones. -/
def partCount (matched blocks : Nat) : Nat :=
  min config.blockTokenCount (matched - blocks * config.blockTokenCount)

/-- The points that the walk has looked at after so many blocks. -/
def WalkedPoint (matched passed tokenCount : Nat) : Prop :=
  ∃ blocks count, count ≠ 0 ∧ tokenCount = blocks * config.blockTokenCount + count ∧ tokenCount ≤ matched ∧
    FoundMarked config cache tokens blocks count ∧
    (blocks < passed ∧ count = partCount config matched blocks ∨
      blocks ≤ passed ∧ count < config.blockTokenCount ∧ Hinted config cache tokens blocks)

end Points

variable {config : Configuration} {cache : Cache} {tokens : List UInt32} {blocks count matched passed : Nat}

section Block

/-- The search within a block finds its longest marked part. -/
theorem resumeInBlock_greatest (limit : Nat) :
    IsGreatest (insert 0 {tokenCount | ∃ count, count ≠ 0 ∧ count ≤ limit ∧
        tokenCount = blocks * config.blockTokenCount + count ∧ FoundMarked config cache tokens blocks count})
      (resumeInBlock config cache tokens (blocks * config.blockTokenCount) (chainHash config tokens blocks) limit) := by
  induction limit with
  | zero =>
    refine ⟨.inl rfl, ?_⟩
    rintro tokenCount (rfl | ⟨count, positive, bound, -⟩)
    · exact le_rfl
    · exact absurd (Nat.le_zero.mp bound) positive
  | succ limit ih =>
    -- without the longest part the others decide
    have shorter : ¬ FoundMarked config cache tokens blocks (limit + 1) →
        IsGreatest (insert 0 {tokenCount | ∃ count, count ≠ 0 ∧ count ≤ limit + 1 ∧
            tokenCount = blocks * config.blockTokenCount + count ∧ FoundMarked config cache tokens blocks count})
          (resumeInBlock config cache tokens (blocks * config.blockTokenCount) (chainHash config tokens blocks)
            limit) := by
      intro unmarked
      constructor
      · rcases ih.1 with none | ⟨count, positive, bound, isEnd, marked⟩
        · exact .inl none
        · exact .inr ⟨count, positive, Nat.le_succ_of_le bound, isEnd, marked⟩
      · rintro tokenCount (none | ⟨count, positive, bound, isEnd, marked⟩)
        · exact ih.2 (.inl none)
        · rcases Nat.le_succ_iff.mp bound with inside | rfl
          · exact ih.2 (.inr ⟨count, positive, inside, isEnd, marked⟩)
          · exact absurd marked unmarked
    unfold resumeInBlock
    split
    · rename_i index found
      split
      · rename_i marked
        refine ⟨.inr ⟨limit + 1, Nat.succ_ne_zero _, le_rfl, rfl, index, found, marked⟩, ?_⟩
        rintro tokenCount (rfl | ⟨count, positive, bound, rfl, -⟩)
        · exact Nat.zero_le _
        · exact Nat.add_le_add_left bound _
      · rename_i unmarked
        refine shorter ?_
        rintro ⟨other, same, marked⟩
        rw [show blockAt config cache tokens blocks (limit + 1) = some index from found] at same
        cases same
        exact unmarked marked
    · rename_i missing
      refine shorter ?_
      rintro ⟨other, same, -⟩
      rw [show blockAt config cache tokens blocks (limit + 1) = none from missing] at same
      cases same

end Block

section Walk

/-- What the walk carries after so many blocks. -/
structure Resumed (config : Configuration) (cache : Cache) (tokens : List UInt32) (matched passed : Nat)
    (walk : ResumeWalk) : Prop where
  parentHash : passed * config.blockTokenCount ≤ matched → walk.parentHash = chainHash config tokens passed
  resume : IsGreatest (insert 0 {tokenCount | WalkedPoint config cache tokens matched passed tokenCount}) walk.resume
  first : passed = 0 → walk.lastTokens = 0
  last : ∀ before, passed = before + 1 → walk.lastOffset = before * config.blockTokenCount ∧
    walk.lastParent = chainHash config tokens before ∧
    walk.lastTokens = partCount config matched before

theorem resumed_start : Resumed config cache tokens matched 0 {} where
  parentHash _ := rfl
  resume := by
    refine ⟨.inl rfl, ?_⟩
    rintro tokenCount (rfl | ⟨blocks, count, -, -, -, -, ⟨below, -⟩ | ⟨start, -, before, parent, rfl, -⟩⟩)
    · exact le_rfl
    · exact absurd below (Nat.not_lt_zero _)
    · exact absurd start (Nat.not_succ_le_zero _)
  first _ := rfl
  last := nofun

/-- The match covers its blocks. -/
def Covered (config : Configuration) (cache : Cache) (tokens : List UInt32) (matched : Nat) : Prop :=
  ∀ blocks, blocks * config.blockTokenCount < matched →
    ∃ index, blockAt config cache tokens blocks (partCount config matched blocks) =
      some index

/-- The greater of the greatest ends of two sets. -/
theorem greatest_union {one other : Set Nat} {first second : Nat} (isFirst : IsGreatest (insert 0 one) first)
    (isSecond : IsGreatest (insert 0 other) second) : IsGreatest (insert 0 (one ∪ other)) (max second first) := by
  rw [Set.insert_union_distrib, max_comm]
  exact isFirst.union isSecond

theorem partCount_le : partCount config matched blocks ≤ config.blockTokenCount :=
  Nat.min_le_left ..

theorem partCount_ne_zero (positive : config.blockTokenCount ≠ 0) (inside : blocks * config.blockTokenCount < matched) :
    partCount config matched blocks ≠ 0 := by
  unfold partCount
  omega

theorem partCount_full (whole : (blocks + 1) * config.blockTokenCount ≤ matched) :
    partCount config matched blocks = config.blockTokenCount := by
  rw [Nat.succ_mul] at whole
  unfold partCount
  omega

/-- A block of a match is a whole one, or the last. -/
theorem partCount_end (inside : blocks * config.blockTokenCount < matched) :
    partCount config matched blocks = config.blockTokenCount ∧ (blocks + 1) * config.blockTokenCount ≤ matched ∨
      blocks * config.blockTokenCount + partCount config matched blocks = matched ∧
        matched ≤ (blocks + 1) * config.blockTokenCount := by
  rw [Nat.succ_mul]
  unfold partCount
  omega

/-- The points that one more block adds: its own end, and those of the shorter blocks after it. -/
theorem walkedPoint_succ (positive : config.blockTokenCount ≠ 0) (inside : passed * config.blockTokenCount < matched)
    (tokenCount : Nat) :
    WalkedPoint config cache tokens matched (passed + 1) tokenCount ↔
      (tokenCount = passed * config.blockTokenCount + partCount config matched passed ∧
          FoundMarked config cache tokens passed (partCount config matched passed) ∨
        WalkedPoint config cache tokens matched passed tokenCount) ∨
      ∃ count, count ≠ 0 ∧
        count ≤ min (config.blockTokenCount - 1) (matched - (passed + 1) * config.blockTokenCount) ∧
        tokenCount = (passed + 1) * config.blockTokenCount + count ∧ FoundMarked config cache tokens (passed + 1) count ∧
        Hinted config cache tokens (passed + 1) := by
  constructor
  · rintro ⟨blocks, count, nonzero, isEnd, within, marked, ⟨below, size⟩ | ⟨bound, short, hinted⟩⟩
    · rcases Nat.lt_succ_iff_lt_or_eq.mp below with earlier | rfl
      · exact .inl (.inr ⟨blocks, count, nonzero, isEnd, within, marked, .inl ⟨earlier, size⟩⟩)
      · exact .inl (.inl ⟨size ▸ isEnd, size ▸ marked⟩)
    · rcases Nat.lt_or_eq_of_le bound with earlier | rfl
      · exact .inl (.inr ⟨blocks, count, nonzero, isEnd, within, marked,
          .inr ⟨Nat.le_of_lt_succ earlier, short, hinted⟩⟩)
      · exact .inr ⟨count, nonzero, by omega, isEnd, marked, hinted⟩
  · rintro ((⟨isEnd, marked⟩ | ⟨blocks, count, nonzero, isEnd, within, marked, ⟨below, size⟩ | ⟨bound, short, hinted⟩⟩) |
      ⟨count, nonzero, bound, isEnd, marked, hinted⟩)
    · have within : tokenCount ≤ matched := by
        unfold partCount at isEnd
        omega
      exact ⟨passed, _, partCount_ne_zero positive inside, isEnd, within, marked, .inl ⟨Nat.lt_succ_self _, rfl⟩⟩
    · exact ⟨blocks, count, nonzero, isEnd, within, marked, .inl ⟨Nat.lt_succ_of_lt below, size⟩⟩
    · exact ⟨blocks, count, nonzero, isEnd, within, marked, .inr ⟨Nat.le_succ_of_le bound, short, hinted⟩⟩
    · exact ⟨passed + 1, count, nonzero, isEnd, by omega, marked, .inr ⟨le_rfl, by omega, hinted⟩⟩

/-- No point that the walk has looked at lies beyond the block it is at. -/
theorem walkedPoint_le {tokenCount : Nat} (walked : WalkedPoint config cache tokens matched passed tokenCount) :
    tokenCount ≤ passed * config.blockTokenCount + partCount config matched passed := by
  obtain ⟨blocks, count, -, rfl, within, -, place⟩ := walked
  have bound : blocks ≤ passed ∧ count ≤ config.blockTokenCount := by
    rcases place with ⟨below, rfl⟩ | ⟨bound, short, -⟩
    · exact ⟨below.le, partCount_le⟩
    · exact ⟨bound, short.le⟩
  rcases Nat.lt_or_eq_of_le bound.1 with earlier | rfl
  · have above : (blocks + 1) * config.blockTokenCount ≤ passed * config.blockTokenCount :=
      Nat.mul_le_mul_right _ earlier
    rw [Nat.succ_mul] at above
    omega
  · unfold partCount
    omega

/-- The greatest point when the block itself is counted. -/
theorem walked_end {greatest : Nat} {marked : Bool}
    (isGreatest : IsGreatest (insert 0 {tokenCount | WalkedPoint config cache tokens matched passed tokenCount}) greatest)
    (isMarked : FoundMarked config cache tokens passed (partCount config matched passed) ↔ marked = true) :
    IsGreatest (insert 0 {tokenCount |
        tokenCount = passed * config.blockTokenCount + partCount config matched passed ∧
          FoundMarked config cache tokens passed (partCount config matched passed) ∨
        WalkedPoint config cache tokens matched passed tokenCount})
      (if marked = true then passed * config.blockTokenCount + partCount config matched passed else greatest) := by
  split
  · rename_i here
    refine ⟨.inr (.inl ⟨rfl, isMarked.mpr here⟩), ?_⟩
    rintro tokenCount (rfl | ⟨rfl, -⟩ | walked)
    · exact Nat.zero_le _
    · exact le_rfl
    · exact walkedPoint_le walked
  · rename_i unmarked
    constructor
    · rcases isGreatest.1 with zero | walked
      · exact .inl zero
      · exact .inr (.inr walked)
    · rintro tokenCount (rfl | ⟨-, marked⟩ | walked)
      · exact Nat.zero_le _
      · exact absurd (isMarked.mp marked) unmarked
      · exact isGreatest.2 (.inr walked)

/-- One block of the walk. -/
theorem Resumed.block {walk : ResumeWalk} (resumed : Resumed config cache tokens matched passed walk)
    (positive : config.blockTokenCount ≠ 0) (covered : Covered config cache tokens matched)
    (inside : passed * config.blockTokenCount < matched) :
    ∃ next, (∀ rest, resumeBlocks config cache tokens matched (passed * config.blockTokenCount :: rest) walk =
        resumeBlocks config cache tokens matched rest next) ∧
      Resumed config cache tokens matched (passed + 1) next := by
  obtain ⟨index, found⟩ := covered passed inside
  have parentHash := resumed.parentHash inside.le
  have isMarked : FoundMarked config cache tokens passed (partCount config matched passed) ↔
      (cache.entries index).flags.resume = true := by
    constructor
    · rintro ⟨other, same, marked⟩
      rw [found] at same
      cases same
      exact marked
    · exact fun marked => ⟨index, found, marked⟩
  have own := walked_end resumed.resume isMarked
  obtain ⟨blockHash, isHash⟩ : ∃ blockHash, blockHash = hashBlock (blockTokens tokens (passed * config.blockTokenCount)
    (partCount config matched passed)) (chainHash config tokens passed) := ⟨_, rfl⟩
  obtain ⟨child, isChild⟩ : ∃ child, child = passed * config.blockTokenCount + partCount config matched passed := ⟨_, rfl⟩
  have chained : (passed + 1) * config.blockTokenCount ≤ matched → blockHash = chainHash config tokens (passed + 1) := by
    intro whole
    rw [isHash, partCount_full whole]
    rfl
  refine ⟨{
      resume :=
        if (cache.entries index).flags.resumeChild = true ∧ child < matched then
          max (resumeInBlock config cache tokens child blockHash (min (config.blockTokenCount - 1) (matched - child)))
            (if (cache.entries index).flags.resume = true then child else walk.resume)
        else if (cache.entries index).flags.resume = true then child
        else walk.resume
      parentHash := blockHash
      lastParent := chainHash config tokens passed
      lastOffset := passed * config.blockTokenCount
      lastTokens := partCount config matched passed }, fun rest => ?_, chained, ?_, nofun, ?_⟩
  · unfold blockAt partCount at found
    rw [resumeBlocks, parentHash, found, isChild, isHash]
    rfl
  · rw [← isChild] at own
    have points := fun tokenCount => @walkedPoint_succ config cache tokens matched passed positive inside tokenCount
    simp only [points, ← isChild]
    split
    · rename_i hinted
      have whole : partCount config matched passed = config.blockTokenCount ∧
          (passed + 1) * config.blockTokenCount ≤ matched := by
        rcases partCount_end inside with whole | ⟨ended, -⟩
        · exact whole
        · exact absurd hinted.2 (by omega)
      have childEnd : child = (passed + 1) * config.blockTokenCount := by
        rw [isChild, whole.1, Nat.succ_mul]
      have hint : Hinted config cache tokens (passed + 1) := ⟨passed, index, rfl, whole.1 ▸ found, hinted.1⟩
      rw [chained whole.2, childEnd]
      rw [childEnd] at own
      refine greatest_union own ?_
      have inBlock := @resumeInBlock_greatest config cache tokens (passed + 1)
        (min (config.blockTokenCount - 1) (matched - (passed + 1) * config.blockTokenCount))
      simp only [hint, and_true]
      exact inBlock
    · rename_i unhinted
      have nothing : ∀ tokenCount, ¬ ∃ count, count ≠ 0 ∧
          count ≤ min (config.blockTokenCount - 1) (matched - (passed + 1) * config.blockTokenCount) ∧
          tokenCount = (passed + 1) * config.blockTokenCount + count ∧
          FoundMarked config cache tokens (passed + 1) count ∧ Hinted config cache tokens (passed + 1) := by
        rintro tokenCount ⟨count, nonzero, bound, -, -, before, parent, same, atParent, flag⟩
        cases same
        rcases partCount_end inside with ⟨whole, -⟩ | ⟨-, ended⟩
        · rw [whole] at found
          rw [found] at atParent
          cases atParent
          refine unhinted ⟨flag, ?_⟩
          rw [isChild, whole]
          rw [Nat.succ_mul] at bound
          omega
        · omega
      simp only [nothing, or_false]
      exact own
  · intro before same
    cases same
    exact ⟨rfl, rfl, rfl⟩

/-- All blocks of the walk. -/
theorem Resumed.walk {walk : ResumeWalk} (resumed : Resumed config cache tokens matched passed walk)
    (positive : config.blockTokenCount ≠ 0) (covered : Covered config cache tokens matched) {more : Nat}
    (inside : ∀ block < passed + more, block * config.blockTokenCount < matched) :
    Resumed config cache tokens matched (passed + more) (resumeBlocks config cache tokens matched
      ((List.range' passed more).map (· * config.blockTokenCount)) walk) := by
  induction more generalizing passed walk with
  | zero => exact resumed
  | succ more ih =>
    obtain ⟨next, walked, resumedNext⟩ := resumed.block positive covered (inside passed (by omega))
    rw [List.range'_succ, List.map_cons, walked]
    have further := ih resumedNext fun block below => inside block (by omega)
    rw [Nat.add_right_comm] at further
    exact further

/-- The blocks of a match, by their number. -/
theorem block_inside (positive : config.blockTokenCount ≠ 0) :
    blocks < (matched + config.blockTokenCount - 1) / config.blockTokenCount ↔
      blocks * config.blockTokenCount < matched := by
  rw [Nat.lt_iff_add_one_le, Nat.le_div_iff_mul_le (Nat.pos_of_ne_zero positive), Nat.succ_mul]
  omega

/-- The walk looks at the points of the match, but for those of the last block. -/
theorem resumeBlocks_resumed (positive : config.blockTokenCount ≠ 0) (covered : Covered config cache tokens matched) :
    Resumed config cache tokens matched ((matched + config.blockTokenCount - 1) / config.blockTokenCount)
      (resumeBlocks config cache tokens matched (blockOffsets config matched) {}) := by
  have inside : ∀ block < 0 + (matched + config.blockTokenCount - 1) / config.blockTokenCount,
      block * config.blockTokenCount < matched := by
    intro block below
    rw [Nat.zero_add] at below
    exact (block_inside positive).mp below
  have walked := (@resumed_start config cache tokens matched).walk positive covered inside
  rw [Nat.zero_add, ← List.range_eq_range'] at walked
  exact walked

/-- The points that the walk looks at, and those of the last block. -/
theorem seenPoint_iff {last tokenCount : Nat} (inside : last * config.blockTokenCount < matched)
    (ended : matched ≤ (last + 1) * config.blockTokenCount) :
    tokenCount ≤ matched ∧ SeenPoint config cache tokens matched tokenCount ↔
      WalkedPoint config cache tokens matched (last + 1) tokenCount ∨
        ∃ count, count ≠ 0 ∧ count ≤ partCount config matched last - 1 ∧
          tokenCount = last * config.blockTokenCount + count ∧ FoundMarked config cache tokens last count := by
  have notLater : ∀ blocks count, count ≠ 0 → blocks * config.blockTokenCount + count ≤ matched → blocks ≤ last := by
    intro blocks count nonzero within
    by_contra later
    have above : (last + 1) * config.blockTokenCount ≤ blocks * config.blockTokenCount :=
      Nat.mul_le_mul_right _ (Nat.not_le.mp later)
    omega
  constructor
  · rintro ⟨within, blocks, count, nonzero, size, rfl, marked, place⟩
    have bound := notLater blocks count nonzero within
    rcases Nat.lt_or_eq_of_le size with short | rfl
    · rcases place with full | isLast | hinted
      · exact absurd full short.ne
      · have same : blocks = last := by
          by_contra different
          have above : (blocks + 1) * config.blockTokenCount ≤ last * config.blockTokenCount :=
            Nat.mul_le_mul_right _ (by omega)
          omega
        subst same
        by_cases whole : count = partCount config matched blocks
        · exact .inl ⟨blocks, count, nonzero, rfl, within, marked, .inl ⟨Nat.lt_succ_self _, whole⟩⟩
        · refine .inr ⟨count, nonzero, ?_, rfl, marked⟩
          unfold partCount at whole ⊢
          omega
      · exact .inl ⟨blocks, count, nonzero, rfl, within, marked, .inr ⟨by omega, short, hinted⟩⟩
    · refine .inl ⟨blocks, _, nonzero, rfl, within, marked, .inl ⟨by omega, ?_⟩⟩
      unfold partCount
      omega
  · rintro (⟨blocks, count, nonzero, rfl, within, marked, ⟨-, isPart⟩ | ⟨-, short, hinted⟩⟩ |
      ⟨count, nonzero, bound, rfl, marked⟩)
    · have size : count ≤ config.blockTokenCount := isPart ▸ partCount_le
      refine ⟨within, blocks, count, nonzero, size, rfl, marked, ?_⟩
      have start : blocks * config.blockTokenCount < matched := by omega
      rcases partCount_end start with ⟨full, -⟩ | ⟨-, isLast⟩
      · exact .inl (isPart.trans full)
      · exact .inr (.inl isLast)
    · exact ⟨within, blocks, count, nonzero, short.le, rfl, marked, .inr (.inr hinted)⟩
    · have size : partCount config matched last ≤ config.blockTokenCount := partCount_le
      refine ⟨?_, last, count, nonzero, by omega, rfl, marked, .inr (.inl ended)⟩
      unfold partCount at bound
      omega

/-- The call finds the greatest of the points that it looks at. -/
theorem resumeTokenCount_seen (accepted : validate config = .ok) (covered : Covered config cache tokens matched) :
    IsGreatest (insert 0 {tokenCount | tokenCount ≤ matched ∧ SeenPoint config cache tokens matched tokenCount})
      (resumeTokenCount config cache tokens matched) := by
  have positive := validate_block accepted
  have resumed := resumeBlocks_resumed positive covered
  unfold resumeTokenCount
  rw [if_neg (not_not.mpr accepted)]
  dsimp only
  revert resumed
  generalize resumeBlocks config cache tokens matched (blockOffsets config matched) {} = walk
  intro resumed
  cases blocks : (matched + config.blockTokenCount - 1) / config.blockTokenCount with
  | zero =>
    rw [blocks] at resumed
    have empty : matched = 0 := by
      by_contra some
      have below := (@block_inside config 0 matched positive).mpr (by omega)
      omega
    rw [if_neg (by rw [resumed.first rfl]; omega)]
    have none : walk.resume = 0 := by
      rcases resumed.resume.1 with zero | ⟨_, _, _, _, within, -⟩
      · exact zero
      · omega
    rw [none, empty]
    refine ⟨.inl rfl, ?_⟩
    rintro tokenCount (rfl | ⟨within, -⟩)
    · exact le_rfl
    · exact within
  | succ last =>
    rw [blocks] at resumed
    have inside : last * config.blockTokenCount < matched := (block_inside positive).mp (by omega)
    have ended : matched ≤ (last + 1) * config.blockTokenCount := by
      by_contra more
      have below := (@block_inside config (last + 1) matched positive).mpr (Nat.not_le.mp more)
      omega
    obtain ⟨offset, parent, size⟩ := resumed.last last rfl
    change walk.lastTokens = partCount config matched last at size
    have reached : last * config.blockTokenCount + partCount config matched last = matched := by
      rcases partCount_end inside with ⟨full, more⟩ | ⟨reached, -⟩
      · rw [Nat.succ_mul] at more ended
        omega
      · exact reached
    rw [offset, parent, size, reached]
    simp only [seenPoint_iff inside ended]
    have inBlock := @resumeInBlock_greatest config cache tokens last (partCount config matched last - 1)
    split
    · exact greatest_union resumed.resume inBlock
    · rename_i settled
      constructor
      · exact resumed.resume.1.imp_right Or.inl
      · rintro tokenCount (rfl | walked | ⟨count, nonzero, bound, rfl, -⟩)
        · exact Nat.zero_le _
        · exact resumed.resume.2 (.inr walked)
        · by_cases below : walk.resume < matched
          · exact absurd ⟨below, by omega⟩ settled
          · omega

end Walk

section Greatest

/-- The blocks of a cached prefix are found. -/
theorem covered_of_cached (findable : Findable config none cache) (cached : PrefixCached config cache tokens matched) :
    Covered config cache tokens matched := by
  obtain ⟨whole, rest, short, rfl, wholes, last⟩ := cached
  intro blocks inside
  apply (blockAt_iff findable).mpr
  rcases Nat.lt_or_ge blocks whole with below | reached
  · have above : (blocks + 1) * config.blockTokenCount ≤ whole * config.blockTokenCount :=
      Nat.mul_le_mul_right _ below
    rw [partCount_full (by omega)]
    exact wholes blocks below
  · have same : blocks = whole := by
      by_contra different
      have above : (whole + 1) * config.blockTokenCount ≤ blocks * config.blockTokenCount :=
        Nat.mul_le_mul_right _ (by omega)
      rw [Nat.succ_mul] at above
      omega
    subst same
    unfold partCount
    rw [Nat.add_sub_cancel_left, Nat.min_eq_right short.le]
    exact last (by omega)

theorem resumePoint_pos {tokenCount : Nat} (point : ResumePoint config cache tokens tokenCount) : tokenCount ≠ 0 := by
  obtain ⟨blocks, count, index, rfl, -, ⟨-, reusable, key, -⟩, -⟩ := point
  have size : (cache.entries index).tokenCount = count := congrArg BlockKey.tokenCount key
  simp only [entryIsReusable, Bool.and_eq_true, bne_iff_ne, decide_eq_true_eq] at reusable
  omega

/-- A point that the call looks at is a resume point. -/
theorem resumePoint_of_seen (findable : Findable config none cache) (cached : PrefixCached config cache tokens matched)
    {tokenCount : Nat} (within : tokenCount ≤ matched) (seen : SeenPoint config cache tokens matched tokenCount) :
    ResumePoint config cache tokens tokenCount := by
  obtain ⟨blocks, count, nonzero, size, rfl, ⟨index, found, marked⟩, -⟩ := seen
  refine ⟨blocks, count, index, rfl, fun block below => ?_, blockAt_holds findable found, marked⟩
  have above : (block + 1) * config.blockTokenCount ≤ blocks * config.blockTokenCount := Nat.mul_le_mul_right _ below
  have whole : (block + 1) * config.blockTokenCount ≤ matched := by omega
  have inside : block * config.blockTokenCount < matched := by
    rw [Nat.succ_mul] at above
    omega
  have isFound := covered_of_cached findable cached block inside
  rw [partCount_full whole] at isFound
  exact (blockAt_iff findable).mp isFound

/-- The greatest of some of the points is the greatest of all of them exactly where the latter is among them. -/
theorem greatest_iff (points : Set Nat) {seen : Set Nat} {bound greatest : Nat} (within : ∀ point ∈ points, point ≤ bound)
    (nonzero : ∀ point ∈ points, point ≠ 0) (subset : seen ⊆ points) (isGreatest : IsGreatest (insert 0 seen) greatest) :
    IsGreatest (insert 0 points) greatest ↔ ∀ last, IsGreatest points last → last ∈ seen := by
  constructor
  · intro all last isLast
    have same : greatest = last := by
      refine Nat.le_antisymm ?_ (all.2 (.inr isLast.1))
      rcases all.1 with zero | point
      · rw [zero]
        exact Nat.zero_le _
      · exact isLast.2 point
    rcases isGreatest.1 with zero | isSeen
    · exact absurd (same ▸ zero) (nonzero last isLast.1)
    · exact same ▸ isSeen
  · intro isSeen
    constructor
    · exact isGreatest.1.imp_right fun point => subset point
    · rintro point (rfl | inside)
      · exact Nat.zero_le _
      · have above : BddAbove points := ⟨bound, within⟩
        have last := Nat.sSup_mem ⟨point, inside⟩ above
        have isLast : IsGreatest points (sSup points) := ⟨last, fun _ other => le_csSup above other⟩
        exact (isLast.2 inside).trans (isGreatest.2 (.inr (isSeen _ isLast)))

/-- In every state that a run reaches, the call answers for a match with its greatest resume point, or with zero if
there is none, exactly where the call looks at the greatest point: its block is a whole one, or is in the last block
of the match, or the block before carries the hint, and the entry that is found for it is the marked one. -/
theorem resumeTokenCount_greatest (config : Configuration) (arena : Arena) (events : List Event) (tokens : List UInt32)
    (matched : Nat) (accepted : validate config = .ok)
    (cached : PrefixCached config (run config events (initialCache config arena)) tokens matched) :
    IsGreatest
        (insert 0 {tokenCount | tokenCount ≤ matched ∧
          ResumePoint config (run config events (initialCache config arena)) tokens tokenCount})
        (resumeTokenCount config (run config events (initialCache config arena)) tokens matched) ↔
      ∀ last, IsGreatest {tokenCount | tokenCount ≤ matched ∧
          ResumePoint config (run config events (initialCache config arena)) tokens tokenCount} last →
        SeenPoint config (run config events (initialCache config arena)) tokens matched last := by
  have findable := findable_run config arena events
  have isGreatest := resumeTokenCount_seen accepted (covered_of_cached findable cached)
  have points := greatest_iff {tokenCount | tokenCount ≤ matched ∧
      ResumePoint config (run config events (initialCache config arena)) tokens tokenCount}
    (fun _ point => point.1) (fun _ point => resumePoint_pos point.2)
    (fun _ seen => ⟨seen.1, resumePoint_of_seen findable cached seen.1 seen.2⟩) isGreatest
  rw [points]
  constructor
  · exact fun inside last isLast => (inside last isLast).2
  · exact fun inside last isLast => ⟨isLast.1.1, inside last isLast⟩

/-- An arena of four blocks of two tokens. -/
def fourBlockLayout : Layout :=
  { oneBlockLayout with logicalBlockCount := 4, residentBlockCapacity := 4 }

/-- A cache of four entries and four bindings over that arena. -/
def fourBlockConfiguration : Configuration :=
  { oneBlockConfiguration with
    entryCount := 4
    logicalBlockCount := 4
    sequenceBindingCount := 4
    kvCacheArena := some fourBlockLayout }

/-- The end of a first prompt is marked, and a second prompt goes on after it. -/
def markFirst : List Event :=
  [.call (.reservePrompt 1 [1] none), .call (.commitReservation 1 1), .call (.markResume [1]),
    .call (.reservePrompt 2 [1, 2, 3, 4] none), .call (.commitReservation 2 2)]

/-- The cache that these calls leave. -/
def markedFirst : Cache :=
  run fourBlockConfiguration markFirst (initialCache fourBlockConfiguration (Arena.initial fourBlockLayout))

/-- The walk over the second prompt does not look at the end of the first, which is marked. -/
theorem resumeTokenCount_misses_first :
    configurationStatus fourBlockConfiguration = .ok ∧
      PrefixCached fourBlockConfiguration markedFirst [1, 2, 3, 4, 5] 4 ∧
      ¬ IsGreatest
        (insert 0 {tokenCount | tokenCount ≤ 4 ∧
          ResumePoint fourBlockConfiguration markedFirst [1, 2, 3, 4, 5] tokenCount})
        (resumeTokenCount fourBlockConfiguration markedFirst [1, 2, 3, 4, 5] 4) := by
  obtain ⟨answer, probed, matched⟩ : resumeTokenCount fourBlockConfiguration markedFirst [1, 2, 3, 4, 5] 4 = 0 ∧
      (probePrompt fourBlockConfiguration markedFirst 3 [1, 2, 3, 4, 5]).1 = .ok ∧
      (probePrompt fourBlockConfiguration markedFirst 3 [1, 2, 3, 4, 5]).2.1.matchedTokenCount = 4 := by
    decide +kernel
  have findable : Findable fourBlockConfiguration none markedFirst :=
    findable_run fourBlockConfiguration (Arena.initial fourBlockLayout) markFirst
  have greatest := probePrompt_greatest findable probed
  have point : ResumePoint fourBlockConfiguration markedFirst [1, 2, 3, 4, 5] 1 := by
    refine ⟨0, 1, 0, by decide, nofun, ?_⟩
    unfold HoldsBlock
    decide +kernel
  refine ⟨by decide +kernel, ?_, fun isGreatest => ?_⟩
  · have cached := greatest.1.2
    rw [matched] at cached
    exact cached
  · rw [answer] at isGreatest
    have bound : 1 ≤ 0 := isGreatest.2 (.inr ⟨by decide, point⟩)
    exact absurd bound (by decide)

/-- The one block of a prompt is marked. -/
def markOneToken : List Event := commitOneToken 2 ++ [.call (.markResume [2])]

theorem resumeTokenCount_greatest_marked :
    PrefixCached oneBlockConfiguration (run oneBlockConfiguration markOneToken
        (initialCache oneBlockConfiguration (Arena.initial oneBlockLayout))) [2, 3] 1 ∧
      IsGreatest
        (insert 0 {tokenCount | tokenCount ≤ 1 ∧ ResumePoint oneBlockConfiguration (run oneBlockConfiguration
          markOneToken (initialCache oneBlockConfiguration (Arena.initial oneBlockLayout))) [2, 3] tokenCount})
        (resumeTokenCount oneBlockConfiguration (run oneBlockConfiguration markOneToken
          (initialCache oneBlockConfiguration (Arena.initial oneBlockLayout))) [2, 3] 1) := by
  have findable := findable_run oneBlockConfiguration (Arena.initial oneBlockLayout) markOneToken
  have greatest := @probePrompt_greatest _ _ [2, 3] findable 2 (by decide +kernel)
  have cached := greatest.1.2
  have matched : (probePrompt oneBlockConfiguration (run oneBlockConfiguration markOneToken
      (initialCache oneBlockConfiguration (Arena.initial oneBlockLayout))) 2 [2, 3]).2.1.matchedTokenCount = 1 := by
    decide +kernel
  rw [matched] at cached
  refine ⟨cached, (resumeTokenCount_greatest oneBlockConfiguration (Arena.initial oneBlockLayout) markOneToken
    [2, 3] 1 (by decide) cached).mpr ?_⟩
  rintro last ⟨⟨bound, point⟩, -⟩
  have nonzero := resumePoint_pos point
  have isOne : last = 1 := by omega
  subst isOne
  exact ⟨0, 1, by decide, by decide, by decide, ⟨0, by decide +kernel⟩, .inr (.inl (by decide))⟩

end Greatest

end Sparkpipe.PrefixCache
