import Mathlib.Tactic.Ring
import Sparkpipe.Cache.Arena.Trimming

/-!
# Eviction down to a limit

`SparkKvCacheArenaEvictResidentBlocksToLimit` looks for its victims among all blocks and evicts them one by one
through `SparkKvCacheArenaMarkBlockNonResident`, which refuses a shared block and cannot evict one whose slot is not
the arena's. Such a block ends the loop when it is chosen, whatever else could have been evicted.
-/

namespace Sparkpipe.KvCache

open Function

namespace Arena

variable {layout : Layout} {arena : Arena} {guarded : List Nat} {index limit : Nat} {owners : Nat → Nat}

section Passes

/-- The victim of `SparkKvCacheSelectResidentEvictionVictim`. -/
def limitVictim (layout : Layout) (arena : Arena) (guarded : List Nat) : Option Nat :=
  arena.selectLogicalVictim layout guarded (List.range layout.logicalBlockCount) none

/-- The passes of `SparkKvCacheArenaEvictResidentBlocksToLimit` and what they end with. -/
inductive Limits (layout : Layout) (guarded : List Nat) (limit : Nat) : Arena → SparkStatus × Arena → Prop
  | met {arena : Arena} (below : arena.residentBlockCount ≤ limit) : Limits layout guarded limit arena (.ok, arena)
  | exhausted {arena : Arena} (above : limit < arena.residentBlockCount)
      (none : ∀ b, ¬ arena.Exceeding layout guarded b) : Limits layout guarded limit arena (.ok, arena)
  | passed {arena : Arena} {index : Nat} {result : SparkStatus × Arena} (above : limit < arena.residentBlockCount)
      (worst : arena.Worst layout (arena.Exceeding layout guarded) index)
      (goesOn : (arena.markBlockNonResident layout index).1 = .ioError ∨
        (arena.markBlockNonResident layout index).1 = .ok)
      (rest : Limits layout guarded limit (arena.markBlockNonResident layout index).2 result) :
      Limits layout guarded limit arena result
  | stopped {arena : Arena} {index : Nat} (above : limit < arena.residentBlockCount)
      (worst : arena.Worst layout (arena.Exceeding layout guarded) index)
      (ends : ¬ ((arena.markBlockNonResident layout index).1 = .ioError ∨
        (arena.markBlockNonResident layout index).1 = .ok)) :
      Limits layout guarded limit arena (arena.markBlockNonResident layout index)

/-- What the tests of a candidate say. -/
theorem blockExceedsLimit_iff : arena.blockExceedsLimit layout guarded index = true ↔
    ((arena.blocks index).allocated = true ∧ (arena.blocks index).resident = true ∧
      (arena.blocks index).parkFailed = false ∧ (arena.blocks index).residencyReferenceCount = 0) ∧
    (layout.evictFunction.isSome = true ∨ (arena.blocks index).referenceCount = 0) ∧ index ∉ guarded := by
  simp [blockExceedsLimit, and_assoc]

/-- The slot that the block has leads back to it. -/
def LeadsBack (layout : Layout) (arena : Arena) (index : Nat) : Prop :=
  ∀ slot, (arena.blocks index).residentSlotIndex = some slot →
    slot < layout.residentBlockCapacity ∧ arena.residentSlots slot = some index

/-- A block left the arena, and the others are where they were. -/
structure Taken (layout : Layout) (before after : Arena) (index : Nat) : Prop where
  gone : (after.blocks index).resident = false
  counted : after.residentBlockCount = before.residentBlockCount - 1
  others : ∀ b, b ≠ index → after.blocks b = before.blocks b
  leads : ∀ b, b ≠ index → (after.LeadsBack layout b ↔ before.LeadsBack layout b)
  epoch : after.epoch = before.epoch + 1
  used : (after.blocks index).lastUsedEpoch ≤ after.epoch
  calls : before.evictCalls ≤ after.evictCalls

/-- A block that is not shared leaves the arena unless its slot does not lead back to it. -/
theorem dropResidency_cases (layout : Layout) (arena : Arena) (index : Nat)
    (unshared : (arena.blocks index).shared = false) :
    (arena.LeadsBack layout index ∧ (arena.dropResidency layout index).1 = .ok ∧
        Taken layout arena (arena.dropResidency layout index).2 index) ∨
      (¬ arena.LeadsBack layout index ∧ arena.dropResidency layout index = (.internalError, arena)) := by
  rw [dropResidency]
  cases there : (arena.blocks index).residentSlotIndex with
  | none =>
    refine .inl ⟨fun slot own => ?_, ?_⟩
    · rw [there] at own
      cases own
    have released : arena.releaseResidentSlot layout index =
        (.ok, arena.setBlock index { arena.blocks index with residentSlotIndex := none }) := by
      unfold releaseResidentSlot
      simp only [there]
    rw [released, andThen_ok rfl]
    refine ⟨rfl, ?_, rfl, fun b apart => ?_, fun b apart => ?_, rfl, ?_, Nat.le_refl _⟩
    · simp [Arena.useBlock, setBlock]
    · simp [Arena.useBlock, setBlock, apart]
    · simp [LeadsBack, Arena.useBlock, setBlock, apart]
    · simp [Arena.useBlock, setBlock]
  | some slot =>
    by_cases leads : slot < layout.residentBlockCapacity ∧ arena.residentSlots slot = some index
    · have released : arena.releaseResidentSlot layout index = (.ok,
          { arena.setBlock index { arena.blocks index with residentSlotIndex := none } with
            residentSlots := update arena.residentSlots slot none
            nextResidentSlotScan := slot }) := by
        unfold releaseResidentSlot
        simp only [there, unshared, leads.2]
        rw [if_neg (by simp), if_neg (by simp [Nat.not_le.mpr leads.1])]
      refine .inl ⟨fun other own => ?_, ?_⟩
      · rw [there] at own
        cases own
        exact leads
      rw [released, andThen_ok rfl]
      refine ⟨rfl, ?_, rfl, fun b apart => ?_, fun b apart => ?_, rfl, ?_, Nat.le_refl _⟩
      · simp [Arena.useBlock, setBlock]
      · simp [Arena.useBlock, setBlock, apart]
      · -- a slot that is emptied led to the block that is gone
        have same : ∀ s, update arena.residentSlots slot none s = some b ↔ arena.residentSlots s = some b := by
          intro s
          by_cases here : s = slot
          · rw [here, update_self, leads.2]
            simp [Ne.symm apart]
          · rw [update_of_ne here]
        simp [LeadsBack, Arena.useBlock, setBlock, apart, same]
      · simp [Arena.useBlock, setBlock]
    · have mismatch : layout.residentBlockCapacity ≤ slot ∨ arena.residentSlots slot ≠ some index := by
        by_contra fits
        rw [not_or, Nat.not_le, not_not] at fits
        exact leads fits
      have refused : arena.releaseResidentSlot layout index = (.internalError, arena) := by
        unfold releaseResidentSlot
        simp only [there, unshared]
        rw [if_neg (by simp), if_pos mismatch]
      refine .inr ⟨fun all => leads (all slot there), ?_⟩
      rw [refused, andThen_failed (by simp)]

/-- The page of a block is backed before the block leaves. -/
structure Backed (arena now : Arena) (index : Nat) : Prop where
  slots : now.residentSlots = arena.residentSlots
  counted : now.residentBlockCount = arena.residentBlockCount
  epoch : now.epoch = arena.epoch
  calls : arena.evictCalls ≤ now.evictCalls
  blocks : ∃ dirty backingValid, now.blocks = update arena.blocks index { arena.blocks index with
    dirty := dirty
    backingValid := backingValid }

/-- A candidate's page is refused by the callback, or it leaves the arena with its page backed. -/
theorem evictResidentBlock_backs (exceeding : arena.blockExceedsLimit layout guarded index = true)
    (unreserved : (arena.blocks index).residencyReserved = false) :
    ((arena.evictResidentBlock layout index).1 ≠ .ok ∧
        (∃ evict, layout.evictFunction = some evict ∧
          (arena.evictResidentBlock layout index).1 = evict arena.evictCalls) ∧
        ((arena.evictResidentBlock layout index).1 = .ioError →
          ((arena.evictResidentBlock layout index).2.blocks index).parkFailed = true)) ∨
      ∃ now, arena.evictResidentBlock layout index = now.dropResidency layout index ∧ Backed arena now index := by
  obtain ⟨⟨allocated, resident, fresh, unpinned⟩, -⟩ := blockExceedsLimit_iff.mp exceeding
  have unbacked : ∃ now, arena.dropResidency layout index = now.dropResidency layout index ∧ Backed arena now index :=
    ⟨arena, rfl, rfl, rfl, rfl, Nat.le_refl _, _, _, (update_eq_self _ _).symm⟩
  rw [evictResidentBlock]
  dsimp only
  rw [if_neg (by simp [allocated, resident, unreserved, unpinned])]
  split
  · exact .inr unbacked
  rename_i evict callback
  split
  · split
    · rename_i failed
      exact Or.inl ⟨by simp [failed], ⟨evict, callback, rfl⟩, fun _ => by simp [setBlock]⟩
    rename_i notIoError
    split
    · rename_i full
      exact Or.inl ⟨by simp [full], ⟨evict, callback, rfl⟩, fun failed => absurd failed notIoError⟩
    split
    · rename_i failed
      exact Or.inl ⟨failed, ⟨evict, callback, rfl⟩, fun io => absurd io notIoError⟩
    · refine .inr ⟨_, rfl, rfl, rfl, rfl, Nat.le_succ _, false, true, ?_⟩
      simp only [setBlock, fresh]
  · exact .inr unbacked

/-- What leaves after its page has been backed has left the arena as it was before. -/
theorem Taken.backed {now after : Arena} (taken : Taken layout now after index) (backed : Backed arena now index) :
    Taken layout arena after index := by
  obtain ⟨dirty, backingValid, blocks⟩ := backed.blocks
  have others : ∀ b, b ≠ index → now.blocks b = arena.blocks b := by
    intro b apart
    rw [blocks, update_of_ne apart]
  refine ⟨taken.gone, ?_, fun b apart => ?_, fun b apart => ?_, ?_, taken.used, backed.calls.trans taken.calls⟩
  · rw [taken.counted, backed.counted]
  · rw [taken.others b apart, others b apart]
  · rw [taken.leads b apart, LeadsBack, LeadsBack, others b apart, backed.slots]
  · rw [taken.epoch, backed.epoch]

/-- The passes that the loop can still make. -/
def excess (layout : Layout) (arena : Arena) : Nat :=
  tally layout.logicalBlockCount fun b => (arena.blocks b).resident && !(arena.blocks b).parkFailed

/-- The first pass ends the loop, or takes the victim, and goes on if its eviction allows. -/
theorem evictToLimit_pass (layout : Layout) (arena : Arena) (guarded : List Nat) (limit : Nat) :
    (arena.residentBlockCount ≤ limit ∧ ∀ fuel, evictToLimit layout limit guarded (fuel + 1) arena = (.ok, arena)) ∨
      limit < arena.residentBlockCount ∧
        ((arena.limitVictim layout guarded = none ∧ (∀ b, ¬ arena.Exceeding layout guarded b) ∧
            ∀ fuel, evictToLimit layout limit guarded (fuel + 1) arena = (.ok, arena)) ∨
          ∃ index, arena.limitVictim layout guarded = some index ∧
            (arena.Exceeding layout guarded index ∧ ∀ other, arena.Exceeding layout guarded other →
              arena.precedence layout index ≤ arena.precedence layout other) ∧
            ∀ fuel, evictToLimit layout limit guarded (fuel + 1) arena =
              if (arena.markBlockNonResident layout index).1 = .ioError ∨
                (arena.markBlockNonResident layout index).1 = .ok then
                evictToLimit layout limit guarded fuel (arena.markBlockNonResident layout index).2
              else arena.markBlockNonResident layout index) := by
  by_cases below : arena.residentBlockCount ≤ limit
  · exact Or.inl ⟨below, fun fuel => by rw [evictToLimit, if_pos below]⟩
  refine .inr ⟨Nat.lt_of_not_le below, ?_⟩
  rcases selectLogicalVictim_cases layout arena guarded with ⟨nothing, none⟩ | ⟨index, found, first⟩
  · exact Or.inl ⟨nothing, none, fun fuel => by simp only [evictToLimit, if_neg below, nothing]⟩
  · exact Or.inr ⟨index, found, first, fun fuel => by simp only [evictToLimit, if_neg below, found]⟩

/-- `SparkKvCacheArenaMarkBlockNonResident` can evict the block. -/
def Removable (layout : Layout) (arena : Arena) (index : Nat) : Prop :=
  (arena.blocks index).shared = false ∧ arena.LeadsBack layout index

variable (reserving : Reserving layout False owners arena) (valid : validate layout arena = .ok)

section

include reserving valid

/-- What `SparkKvCacheArenaMarkBlockNonResident` does with a candidate. -/
theorem markBlockNonResident_candidate (exceeding : arena.Exceeding layout guarded index) :
    (arena.blocks index).residencyReserved = false ∧
      arena.markBlockNonResident layout index =
        if (arena.blocks index).shared = true then (.invalidArgument, arena)
        else arena.evictResidentBlock layout index := by
  obtain ⟨⟨allocated, resident, -, unpinned⟩, -⟩ := blockExceedsLimit_iff.mp exceeding.2
  have unreserved : (arena.blocks index).residencyReserved = false := by
    by_contra reserved
    have absent := ((reserving.settled index exceeding.1).reserving (by simpa using reserved)).1
    rw [resident] at absent
    cases absent
  refine ⟨unreserved, ?_⟩
  rw [markBlockNonResident, onBlock, if_neg (by simp [valid]), if_neg (Nat.not_le.mpr exceeding.1)]
  rw [if_neg (by simp [allocated]), if_neg (by simp [unreserved, unpinned])]
  split
  · rfl
  · simp

/-- A pass that goes on leaves fewer passes. -/
theorem excess_pass (exceeding : arena.Exceeding layout guarded index)
    (goesOn : (arena.markBlockNonResident layout index).1 = .ioError ∨
      (arena.markBlockNonResident layout index).1 = .ok) :
    (arena.markBlockNonResident layout index).2.excess layout < arena.excess layout := by
  obtain ⟨⟨-, resident, fresh, -⟩, -⟩ := blockExceedsLimit_iff.mp exceeding.2
  obtain ⟨unreserved, marked⟩ := markBlockNonResident_candidate reserving valid exceeding
  rw [marked] at goesOn ⊢
  by_cases shared : (arena.blocks index).shared = true
  · rw [if_pos shared] at goesOn
    simp at goesOn
  rw [if_neg shared] at goesOn ⊢
  have spent : ((arena.evictResidentBlock layout index).2.blocks index).resident = false ∨
      ((arena.evictResidentBlock layout index).2.blocks index).parkFailed = true := by
    rcases evictResidentBlock_backs exceeding.2 unreserved with ⟨refused, -, failed⟩ | ⟨now, dropped, backed⟩
    · exact .inr (failed (goesOn.resolve_right refused))
    · rw [dropped] at goesOn ⊢
      obtain ⟨_, _, blocks⟩ := backed.blocks
      rcases dropResidency_cases layout now index
        (by simpa [blocks] using shared) with ⟨-, -, taken⟩ | ⟨-, failed⟩
      · exact .inl taken.gone
      · rw [failed] at goesOn
        simp at goesOn
  have less : arena.excess layout = (arena.evictResidentBlock layout index).2.excess layout + 1 := by
    refine tally_lose exceeding.1 ?_ ?_ fun other _ different => ?_
    · simp [resident, fresh]
    · rcases spent with gone | failed
      · simp [gone]
      · simp [failed]
    · rw [evictResidentBlock_apart fun here => absurd here different]
  omega

/-- The arena stays valid, and its slots and reservations agree, through a pass. -/
theorem Reserving.limitPass (index : Nat) :
    Reserving layout False owners (arena.markBlockNonResident layout index).2 ∧
      validate layout (arena.markBlockNonResident layout index).2 = .ok :=
  ⟨(Reserving.tended layout False owners).markBlockNonResident reserving index,
    (markBlockNonResident_same layout arena index).validates valid⟩

/-- The loop is derived, and with fuel for the passes that it can make it does not depend on the fuel. -/
theorem evictToLimit_limits {fuel : Nat} (enough : arena.excess layout < fuel) :
    Limits layout guarded limit arena (evictToLimit layout limit guarded fuel arena) ∧
      ∀ more, evictToLimit layout limit guarded (fuel + more) arena =
        evictToLimit layout limit guarded fuel arena := by
  induction fuel generalizing arena with
  | zero => omega
  | succ fuel ih =>
    rcases evictToLimit_pass layout arena guarded limit with
      ⟨below, ends⟩ | ⟨above, ⟨-, none, ends⟩ | ⟨index, -, first, pass⟩⟩
    · exact ⟨by rw [ends]; exact .met below, fun more => by rw [Nat.add_right_comm, ends, ends]⟩
    · exact ⟨by rw [ends]; exact .exhausted above none, fun more => by rw [Nat.add_right_comm, ends, ends]⟩
    have worst := worst_of_first first.1 first.2
    by_cases goesOn : (arena.markBlockNonResident layout index).1 = .ioError ∨
      (arena.markBlockNonResident layout index).1 = .ok
    · obtain ⟨stays, stillValid⟩ := reserving.limitPass valid index
      have fewer := excess_pass reserving valid first.1 goesOn
      obtain ⟨limits, same⟩ := ih stays stillValid (by omega)
      refine ⟨by rw [pass, if_pos goesOn]; exact .passed above worst goesOn limits, fun more => ?_⟩
      rw [Nat.add_right_comm, pass, pass, if_pos goesOn, if_pos goesOn]
      exact same more
    · refine ⟨by rw [pass, if_neg goesOn]; exact .stopped above worst goesOn, fun more => ?_⟩
      rw [Nat.add_right_comm, pass, pass, if_neg goesOn, if_neg goesOn]

/-- A block that is held is not written. -/
theorem Limits.spares {result : SparkStatus × Arena} (limits : Limits layout guarded limit arena result)
    {b : Nat} (held : arena.Held guarded b) : result.2.blocks b = arena.blocks b := by
  have passes : ∀ {now : Arena} {index : Nat}, Reserving layout False owners now → validate layout now = .ok →
      now.Exceeding layout guarded index → now.Held guarded b →
      (now.markBlockNonResident layout index).2.blocks b = now.blocks b := by
    intro now index reserving valid exceeding held
    obtain ⟨unreserved, marked⟩ := markBlockNonResident_candidate reserving valid exceeding
    obtain ⟨⟨-, -, -, unpinned⟩, -, unguarded⟩ := blockExceedsLimit_iff.mp exceeding.2
    rw [marked]
    split
    · rfl
    · rename_i unshared
      apply evictResidentBlock_apart
      rintro rfl
      rcases held with pinned | reserved | shared | listed
      · exact absurd unpinned pinned
      · exact absurd (reserved.symm.trans unreserved) (by simp)
      · exact absurd shared unshared
      · exact absurd listed unguarded
  induction limits with
  | met below => rfl
  | exhausted above none => rfl
  | passed above worst goesOn rest ih =>
    obtain ⟨stays, stillValid⟩ := reserving.limitPass valid _
    have same := passes reserving valid worst.1 held
    rw [← same]
    apply ih stays stillValid
    rw [Held, same]
    exact held
  | stopped above worst ends => exact passes reserving valid worst.1 held

/-- When every page can be parked, a candidate is taken exactly when it can be: a shared one is refused, and one
whose slot is not the arena's stays where it is. -/
theorem markBlockNonResident_parks (parks : arena.AlwaysParks layout)
    (exceeding : arena.Exceeding layout guarded index) :
    (arena.Removable layout index ∧ (arena.markBlockNonResident layout index).1 = .ok ∧
        Taken layout arena (arena.markBlockNonResident layout index).2 index) ∨
      ((arena.blocks index).shared = true ∧ arena.markBlockNonResident layout index = (.invalidArgument, arena)) ∨
      ((arena.blocks index).shared = false ∧ ¬ arena.LeadsBack layout index ∧
        (arena.markBlockNonResident layout index).1 = .internalError ∧
        (arena.markBlockNonResident layout index).2.residentBlockCount = arena.residentBlockCount ∧
        (arena.markBlockNonResident layout index).2.Exceeding layout guarded index ∧
        ((arena.markBlockNonResident layout index).2.blocks index).shared = false) := by
  obtain ⟨unreserved, marked⟩ := markBlockNonResident_candidate reserving valid exceeding
  rw [marked]
  cases shared : (arena.blocks index).shared with
  | true => exact .inr (.inl ⟨rfl, rfl⟩)
  | false =>
    rw [if_neg (by simp)]
    rcases evictResidentBlock_backs exceeding.2 unreserved with
      ⟨refused, ⟨evict, callback, status⟩, -⟩ | ⟨now, dropped, backed⟩
    · exact absurd (status.trans (parks evict callback _ (Nat.le_refl _))) refused
    obtain ⟨dirty, backingValid, blocks⟩ := backed.blocks
    have leads : now.LeadsBack layout index ↔ arena.LeadsBack layout index := by
      simp [LeadsBack, blocks, backed.slots]
    rw [dropped]
    rcases dropResidency_cases layout now index
      (by simpa [blocks] using shared) with ⟨back, succeeded, taken⟩ | ⟨stray, failed⟩
    · exact .inl ⟨⟨shared, leads.mp back⟩, succeeded, taken.backed backed⟩
    · rw [failed]
      refine .inr (.inr ⟨rfl, fun back => stray (leads.mpr back), rfl, backed.counted, ⟨exceeding.1, ?_⟩, ?_⟩)
      · have tests := blockExceedsLimit_iff.mp exceeding.2
        exact blockExceedsLimit_iff.mpr (by simpa [blocks] using tests)
      · simpa [blocks] using shared

end

end Passes

section Progress

/-- While so many blocks are taken, the ages that the comparison reads grow alike: none is of a later epoch,
and none reaches the bound that the source puts on an age. -/
def AgesFit (layout : Layout) (arena : Arena) (passes : Nat) : Prop :=
  layout.evictionPolicy = .reuseValue →
    (∀ b < layout.logicalBlockCount, (arena.blocks b).lastUsedEpoch ≤ arena.epoch) ∧ arena.epoch + passes ≤ 2 ^ 54

/-- How many candidates are taken before a block. -/
def candidatesBefore (layout : Layout) (arena : Arena) (guarded : List Nat) (b : Nat) : Nat :=
  tally layout.logicalBlockCount fun c =>
    arena.blockExceedsLimit layout guarded c && decide (arena.precedence layout c < arena.precedence layout b)

/-- No candidate that cannot be evicted is in the way: before each, candidates enough to meet the limit are taken,
or all that are not shared. -/
def Unobstructed (layout : Layout) (arena : Arena) (guarded : List Nat) (limit : Nat) : Prop :=
  ∀ b, arena.Exceeding layout guarded b → ¬ arena.Removable layout b →
    arena.residentBlockCount - limit ≤ arena.candidatesBefore layout guarded b ∨
      ∀ c, arena.Exceeding layout guarded c → (arena.blocks c).shared = false →
        arena.precedence layout c < arena.precedence layout b

/-- The limit is met, or no candidate is left that is not shared. -/
def LimitMet (layout : Layout) (guarded : List Nat) (limit : Nat) (arena : Arena) : Prop :=
  arena.residentBlockCount ≤ limit ∨ ∀ b, arena.Exceeding layout guarded b → (arena.blocks b).shared = true

variable {after : Arena} {passes : Nat}

section Taking

variable (taken : Taken layout arena after index)
include taken

theorem Taken.agesFit (fit : arena.AgesFit layout (passes + 1)) : after.AgesFit layout passes := by
  intro policy
  obtain ⟨used, early⟩ := fit policy
  refine ⟨fun b inRange => ?_, by rw [taken.epoch]; omega⟩
  by_cases here : b = index
  · rw [here]
    exact taken.used
  · have := used b inRange
    rw [taken.others b here, taken.epoch]
    omega

/-- A block that is worth keeping by its age is worth one less. -/
theorem Taken.reuseValueKeepness {block : Block} (used : block.lastUsedEpoch ≤ arena.epoch)
    (early : arena.epoch + 1 ≤ 2 ^ 54) :
    after.reuseValueKeepness block = arena.reuseValueKeepness block - 1 := by
  have older : after.epoch - block.lastUsedEpoch = arena.epoch - block.lastUsedEpoch + 1 := by
    rw [taken.epoch]
    omega
  have small : arena.epoch - block.lastUsedEpoch + 1 ≤ 2 ^ 54 := by omega
  rw [Arena.reuseValueKeepness, Arena.reuseValueKeepness, older, Nat.min_eq_left small,
    Nat.min_eq_left (Nat.le_of_succ_le small), Nat.cast_succ]
  ring

/-- All ages have grown by one, so the comparison is as before. -/
theorem Taken.keeping_lt (fit : arena.AgesFit layout (passes + 1)) {b c : Nat} (bInRange : b < layout.logicalBlockCount)
    (cInRange : c < layout.logicalBlockCount) :
    after.keeping layout (arena.blocks b) < after.keeping layout (arena.blocks c) ↔
      arena.keeping layout (arena.blocks b) < arena.keeping layout (arena.blocks c) := by
  by_cases policy : layout.evictionPolicy = .reuseValue
  · obtain ⟨used, early⟩ := fit policy
    have older : ∀ b < layout.logicalBlockCount, after.reuseValueKeepness (arena.blocks b) =
        arena.reuseValueKeepness (arena.blocks b) - 1 :=
      fun b inRange => taken.reuseValueKeepness (used b inRange) (by omega)
    simp only [keeping, if_pos policy, Prod.Lex.toLex_lt_toLex, older b bInRange, older c cInRange,
      sub_lt_sub_iff_right, sub_left_inj]
  · simp only [keeping, if_neg policy]

theorem Taken.precedence_lt (fit : arena.AgesFit layout (passes + 1)) {b c : Nat} (bInRange : b < layout.logicalBlockCount)
    (cInRange : c < layout.logicalBlockCount) (bApart : b ≠ index) (cApart : c ≠ index) :
    after.precedence layout b < after.precedence layout c ↔ arena.precedence layout b < arena.precedence layout c := by
  simp only [precedence, Prod.Lex.toLex_lt_toLex, taken.others b bApart, taken.others c cApart, le_antisymm_iff,
    ← not_lt, taken.keeping_lt fit bInRange cInRange, taken.keeping_lt fit cInRange bInRange]

theorem Taken.exceeding_iff {b : Nat} : after.Exceeding layout guarded b ↔
    b ≠ index ∧ arena.Exceeding layout guarded b := by
  by_cases here : b = index
  · refine iff_of_false (fun exceeding => ?_) fun both => both.1 here
    obtain ⟨⟨-, resident, -⟩, -⟩ := blockExceedsLimit_iff.mp exceeding.2
    rw [here, taken.gone] at resident
    cases resident
  · simp [Exceeding, blockExceedsLimit, taken.others b here, here]

/-- A block taken from the front of the order obstructs nothing, and is in the way of nothing. -/
theorem Taken.unobstructed_iff (fit : arena.AgesFit layout (passes + 1)) (removable : arena.Removable layout index)
    (first : arena.Exceeding layout guarded index ∧ ∀ other, arena.Exceeding layout guarded other →
      arena.precedence layout index ≤ arena.precedence layout other) :
    arena.Unobstructed layout guarded limit ↔ after.Unobstructed layout guarded limit := by
  have ahead : ∀ b, b ≠ index → arena.Exceeding layout guarded b →
      arena.precedence layout index < arena.precedence layout b := by
    intro b apart exceeding
    refine lt_of_le_of_ne (first.2 b exceeding) fun same => apart ?_
    exact (congrArg (fun place => (ofLex place).2) same).symm
  have fewer : ∀ b, b ≠ index → arena.Exceeding layout guarded b →
      arena.candidatesBefore layout guarded b = after.candidatesBefore layout guarded b + 1 := by
    intro b apart exceeding
    refine tally_lose first.1.1 ?_ ?_ fun other inRange different => ?_
    · rw [first.1.2, decide_eq_true (ahead b apart exceeding)]
      rfl
    · have left : after.blockExceedsLimit layout guarded index = false := by
        rw [Bool.eq_false_iff]
        exact fun still => (taken.exceeding_iff.mp ⟨first.1.1, still⟩).1 rfl
      rw [left, Bool.false_and]
    · have same : after.blockExceedsLimit layout guarded other = arena.blockExceedsLimit layout guarded other := by
        simp [blockExceedsLimit, taken.others other different]
      rw [same, decide_eq_decide.mpr (taken.precedence_lt fit inRange exceeding.1 different apart)]
  have removes : ∀ b, b ≠ index → (after.Removable layout b ↔ arena.Removable layout b) := by
    intro b apart
    rw [Removable, Removable, taken.others b apart, taken.leads b apart]
  constructor
  · intro clear b exceeding stuck
    obtain ⟨apart, before⟩ := taken.exceeding_iff.mp exceeding
    rcases clear b before (mt (removes b apart).mpr stuck) with enough | all
    · rw [fewer b apart before] at enough
      refine .inl ?_
      rw [taken.counted]
      omega
    · refine .inr fun c exceeding unshared => ?_
      obtain ⟨cApart, cBefore⟩ := taken.exceeding_iff.mp exceeding
      rw [taken.precedence_lt fit cBefore.1 before.1 cApart apart]
      rw [taken.others c cApart] at unshared
      exact all c cBefore unshared
  · intro clear b exceeding stuck
    have apart : b ≠ index := fun here => stuck (here ▸ removable)
    rcases clear b (taken.exceeding_iff.mpr ⟨apart, exceeding⟩) (mt (removes b apart).mp stuck) with enough | all
    · rw [taken.counted] at enough
      refine .inl ?_
      rw [fewer b apart exceeding]
      omega
    · refine .inr fun c cExceeding unshared => ?_
      by_cases here : c = index
      · rw [here]
        exact ahead b apart exceeding
      · rw [← taken.precedence_lt fit cExceeding.1 exceeding.1 here apart]
        rw [← taken.others c here] at unshared
        exact all c (taken.exceeding_iff.mpr ⟨here, cExceeding⟩) unshared

end Taking

/-- Where the first candidate cannot be evicted, nothing comes before it. -/
theorem unobstructed_stuck (above : limit < arena.residentBlockCount)
    (first : arena.Exceeding layout guarded index ∧ ∀ other, arena.Exceeding layout guarded other →
      arena.precedence layout index ≤ arena.precedence layout other) (stuck : ¬ arena.Removable layout index) :
    arena.Unobstructed layout guarded limit ↔
      ∀ b, arena.Exceeding layout guarded b → (arena.blocks b).shared = true := by
  constructor
  · intro clear b exceeding
    have nothing : arena.candidatesBefore layout guarded index = 0 := by
      refine tally_eq_zero fun c inRange => ?_
      rw [Bool.eq_false_iff]
      intro both
      obtain ⟨exceeds, before⟩ := Bool.and_eq_true_iff.mp both
      exact absurd (first.2 c ⟨inRange, exceeds⟩) (not_le.mpr (of_decide_eq_true before))
    rcases clear index first.1 stuck with enough | all
    · omega
    · by_contra unshared
      exact absurd (first.2 b exceeding) (not_le.mpr (all b exceeding (by simpa using unshared)))
  · intro all b _ _
    refine .inr fun c exceeding unshared => ?_
    rw [all c exceeding] at unshared
    cases unshared

/-- When every page can be parked, the loop meets the limit or leaves no candidate that is not shared exactly when no
candidate that cannot be evicted is in the way. -/
theorem evictToLimit_progress (reserving : Reserving layout False owners arena)
    (valid : validate layout arena = .ok) (parks : arena.AlwaysParks layout)
    (fit : arena.AgesFit layout (arena.excess layout)) {fuel : Nat} (enough : arena.excess layout < fuel) :
    LimitMet layout guarded limit (evictToLimit layout limit guarded fuel arena).2 ↔
      arena.Unobstructed layout guarded limit := by
  induction fuel generalizing arena with
  | zero => omega
  | succ fuel ih =>
    rcases evictToLimit_pass layout arena guarded limit with
      ⟨below, ends⟩ | ⟨above, ⟨-, none, ends⟩ | ⟨index, -, first, pass⟩⟩
    · rw [ends]
      refine iff_of_true (.inl below) fun b _ _ => .inl ?_
      omega
    · rw [ends]
      exact iff_of_true (Or.inr fun b exceeding => absurd exceeding (none b))
        fun b exceeding => absurd exceeding (none b)
    rw [pass]
    rcases markBlockNonResident_parks reserving valid parks first.1 with
      ⟨removable, succeeded, taken⟩ | ⟨shared, refused⟩ | ⟨unshared, stray, failed, counted, exceeding, still⟩
    · obtain ⟨stays, stillValid⟩ := reserving.limitPass valid index
      have fewer := excess_pass reserving valid first.1 (.inr succeeded)
      have fits : arena.AgesFit layout ((arena.markBlockNonResident layout index).2.excess layout + 1) :=
        fun policy => ⟨(fit policy).1, Nat.le_trans (by omega) (fit policy).2⟩
      have parksOn : (arena.markBlockNonResident layout index).2.AlwaysParks layout :=
        fun evict callback call later => parks evict callback call (taken.calls.trans later)
      rw [if_pos (Or.inr succeeded), ih stays stillValid parksOn (taken.agesFit fits) (by omega),
        taken.unobstructed_iff fits removable first]
    · rw [refused, if_neg (by simp), unobstructed_stuck above first fun removable => by
        rw [removable.1] at shared
        cases shared]
      exact or_iff_right (Nat.not_le.mpr above)
    · rw [if_neg (by simp [failed]), unobstructed_stuck above first fun removable => stray removable.2]
      constructor
      · rintro (below | all)
        · rw [counted] at below
          exact absurd below (Nat.not_le.mpr above)
        · rw [all index exceeding] at still
          cases still
      · intro all
        rw [all index first.1] at unshared
        cases unshared

end Progress

/-- What eviction down to a target is to do: each loop ends, takes the worst of its candidates pass by pass and keeps
every block that is held, and when every page can be parked the first meets its target or leaves nothing to evict. -/
structure Evicts (layout : Layout) (arena : Arena) (guarded : List Nat) (target limit : Nat) : Prop where
  order : IsStrictWeakOrder Block fun block victim => arena.blockIsBetterEvictionVictim layout victim block = true
  trims : validate layout arena = .ok → target ≤ layout.residentBlockCapacity →
    Trims layout guarded target arena (arena.trimResidentBlocksTo layout guarded target)
  trimEnds : validate layout arena = .ok → target ≤ layout.residentBlockCapacity → ∀ more,
    trimResidentBlocks layout guarded target (trimFuel layout + more) arena =
      arena.trimResidentBlocksTo layout guarded target
  trimSpares : ∀ b, arena.Held guarded b → (arena.trimResidentBlocksTo layout guarded target).2.blocks b = arena.blocks b
  trimProgress : validate layout arena = .ok → target ≤ layout.residentBlockCapacity → arena.AlwaysParks layout →
    ((arena.trimResidentBlocksTo layout guarded target).1 = .ok ∧
        (arena.trimResidentBlocksTo layout guarded target).2.residentBlockCount ≤ target) ∨
      ∀ lastResort, (lastResort = true → layout.evictFunction.isSome = true) →
        ∀ b, ¬ (arena.trimResidentBlocksTo layout guarded target).2.Trimmable layout guarded lastResort b
  limits : validate layout arena = .ok →
    Limits layout guarded limit arena (arena.evictResidentBlocksToLimit layout limit guarded)
  limitEnds : validate layout arena = .ok → ∀ more,
    evictToLimit layout limit guarded (2 * layout.logicalBlockCount + 1 + more) arena =
      arena.evictResidentBlocksToLimit layout limit guarded
  limitSpares : ∀ b, arena.Held guarded b →
    (arena.evictResidentBlocksToLimit layout limit guarded).2.blocks b = arena.blocks b

/-- The second then meets its limit too, or leaves only shared candidates. -/
structure EvictsSafely (layout : Layout) (arena : Arena) (guarded : List Nat) (target limit : Nat) : Prop
    extends Evicts layout arena guarded target limit where
  limitProgress : validate layout arena = .ok → arena.AlwaysParks layout →
    LimitMet layout guarded limit (arena.evictResidentBlocksToLimit layout limit guarded).2

/-- The candidates of the limit are at most the blocks. -/
theorem excess_lt (layout : Layout) (arena : Arena) : arena.excess layout < 2 * layout.logicalBlockCount + 1 := by
  have below := tally_le layout.logicalBlockCount fun b => (arena.blocks b).resident && !(arena.blocks b).parkFailed
  rw [excess]
  omega

/-- Everything but the progress of the second loop holds of an arena whose slots and reservations agree, and that
holds exactly when nothing obstructs it. -/
theorem Reserving.evictsSafely_iff (reserving : Reserving layout False owners arena) (guarded : List Nat)
    (target limit : Nat) :
    Evicts layout arena guarded target limit ∧ (arena.AgesFit layout layout.logicalBlockCount →
      (EvictsSafely layout arena guarded target limit ↔
        (validate layout arena = .ok → arena.AlwaysParks layout → arena.Unobstructed layout guarded limit))) := by
  have enough : arena.pressure layout < trimFuel layout := Nat.lt_succ_of_le (pressure_le layout arena)
  have trimmed : validate layout arena = .ok → target ≤ layout.residentBlockCapacity →
      arena.trimResidentBlocksTo layout guarded target =
        trimResidentBlocks layout guarded target (trimFuel layout) arena := by
    intro valid fits
    rw [trimResidentBlocksTo, Arena.trimResidentBlocksProtecting, if_neg (by simp [valid]), if_neg (Nat.not_lt.mpr fits)]
  have limited : validate layout arena = .ok → arena.evictResidentBlocksToLimit layout limit guarded =
      evictToLimit layout limit guarded (2 * layout.logicalBlockCount + 1) arena := by
    intro valid
    rw [evictResidentBlocksToLimit, if_neg (by simp [valid])]
  have derivation : Trims layout guarded target arena
      (trimResidentBlocks layout guarded target (trimFuel layout) arena) ∧
      ∀ more, trimResidentBlocks layout guarded target (trimFuel layout + more) arena =
        trimResidentBlocks layout guarded target (trimFuel layout) arena :=
    trimResidentBlocks_trims reserving enough
  suffices evicts : Evicts layout arena guarded target limit by
    refine ⟨evicts, fun fit => ?_⟩
    have fits : arena.AgesFit layout (arena.excess layout) := fun policy =>
      ⟨(fit policy).1, Nat.le_trans (Nat.add_le_add_left (tally_le ..) _) (fit policy).2⟩
    have progress (valid parks) : LimitMet layout guarded limit _ ↔ _ :=
      evictToLimit_progress reserving valid parks fits (excess_lt layout arena)
    constructor
    · intro safe valid parks
      rw [← progress valid parks, ← limited valid]
      exact safe.limitProgress valid parks
    · refine fun clear => ⟨evicts, fun valid parks => ?_⟩
      rw [limited valid]
      exact (progress valid parks).mpr (clear valid parks)
  constructor
  · exact blockIsBetterEvictionVictim_strictWeak layout arena
  · intro valid fits
    rw [trimmed valid fits]
    exact derivation.1
  · intro valid fits more
    rw [trimmed valid fits]
    exact derivation.2 more
  · intro b held
    by_cases accepted : validate layout arena = .ok ∧ target ≤ layout.residentBlockCapacity
    · rw [trimmed accepted.1 accepted.2]
      exact derivation.1.spares reserving held
    · rw [trimResidentBlocksTo, Arena.trimResidentBlocksProtecting]
      split
      · rfl
      · rename_i valid
        rw [if_pos]
        by_contra fits
        exact accepted ⟨not_not.mp valid, Nat.not_lt.mp fits⟩
  · intro valid fits parks
    rw [trimmed valid fits]
    exact derivation.1.progress reserving parks
  · intro valid
    rw [limited valid]
    exact (evictToLimit_limits reserving valid (excess_lt layout arena)).1
  · intro valid more
    rw [limited valid]
    exact (evictToLimit_limits reserving valid (excess_lt layout arena)).2 more
  · intro b held
    by_cases valid : validate layout arena = .ok
    · rw [limited valid]
      exact (evictToLimit_limits reserving valid (excess_lt layout arena)).1.spares reserving valid held
    · rw [evictResidentBlocksToLimit, if_pos valid]

end Arena

namespace KvArena

/-- The slots and the reservations agree in every state of every run. -/
theorem run_reserving (layout : Layout) (calls : List Call) :
    Arena.Reserving ((initialized layout).run calls).layout False (fun _ => 0) ((initialized layout).run calls).arena := by
  have along : ∀ (calls : List Call) (state : KvArena), Arena.Reserving state.layout False (fun _ => 0) state.arena →
      Arena.Reserving (state.run calls).layout False (fun _ => 0) (state.run calls).arena := by
    intro calls
    induction calls with
    | nil => exact fun _ reserving => reserving
    | cons call rest ih =>
      intro state reserving
      apply ih
      obtain ⟨base, count, window⟩ := Prefetching.relayout_window state call
      have kept := reserving.operate_loose call
      have moved : (state.step call).layout = { state.layout with
          sharedPageBase := base
          sharedPageCount := count } := window
      rw [moved]
      exact ⟨kept.settled, kept.leads, kept.back, kept.counted⟩
  exact along calls _ (Arena.Reserving.initial ..)

/-- The page of the shared window is stamped to be kept longer, so the private one is taken first, and the limit
is met. -/
theorem evictsSafely_stamped :
    let layout : Layout := { onePage with evictionPolicy := .reuseValue }
    let calls : List Call := [.setSharedWindow 1 1, .adoptSharedBlock 0, .acquireBlock, .markBlockResident 1,
      .stampKeep [0] 1 0]
    let reached := (initialized layout).run calls
    (initialized layout).statuses calls = [.ok, .ok, .ok, .ok, .ok] ∧
      reached.arena.residentBlockCount = 1 ∧ reached.arena.EvictsSafely reached.layout [] 0 0 := by
  intro layout calls reached
  have fit : reached.arena.AgesFit reached.layout reached.layout.logicalBlockCount := fun _ => by decide
  refine ⟨by decide, by decide, ((Arena.Reserving.evictsSafely_iff (run_reserving layout calls) [] 0 0).2 fit).mpr ?_⟩
  intro _ _ b exceeding stuck
  have inRange : b < 2 := exceeding.1
  obtain rfl | rfl : b = 0 ∨ b = 1 := by omega
  · exact .inl (by decide)
  · have seated : (reached.arena.blocks 1).residentSlotIndex = some 0 := by decide
    refine absurd ⟨by decide, fun slot own => ?_⟩ stuck
    cases seated.symm.trans own
    decide

/-- A page of the shared window was used before the only page of the arena: it is chosen first, and refused, and the
private page stays. -/
theorem evictsSafely_sharedFirst :
    let calls : List Call := [.setSharedWindow 1 1, .adoptSharedBlock 0, .acquireBlock, .markBlockResident 1]
    let reached := (initialized onePage).run calls
    (initialized onePage).statuses calls = [.ok, .ok, .ok, .ok] ∧
      (reached.arena.evictResidentBlocksToLimit reached.layout 0 []).1 = .invalidArgument ∧
      ¬ reached.arena.EvictsSafely reached.layout [] 0 0 := by
  refine ⟨by decide, by decide, fun safe => ?_⟩
  have parks : ((initialized onePage).run
      [.setSharedWindow 1 1, .adoptSharedBlock 0, .acquireBlock, .markBlockResident 1]).arena.AlwaysParks onePage := by
    rintro evict ⟨⟩ call _
    rfl
  rcases safe.limitProgress (by decide) parks with below | all
  · exact absurd below (by decide)
  · exact absurd (all 1 ⟨by decide, by decide⟩) (by decide)

end KvArena

end Sparkpipe.KvCache
