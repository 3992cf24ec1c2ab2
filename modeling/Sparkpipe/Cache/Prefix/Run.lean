import Sparkpipe.Cache.Prefix.Growth

/-!
# Runs of the prefix cache

The public calls as one type, with what a cache answers to each of them. A
run starts from the cache `SparkPrefixCacheInitialize` leaves for a configuration
it accepts. Between two calls another user of the arena may be at work; such a
user may leave the arena in any state that validates.
-/

namespace Sparkpipe.PrefixCache

open Sparkpipe.KvCache (Layout Arena)

/-- A public call with its arguments. -/
inductive Operation where
  | probePrompt (sequenceId : UInt64) (tokens : List UInt32)
  | lookupPrompt (sequenceId : UInt64) (tokens : List UInt32)
  | reservePrompt (sequenceId : UInt64) (tokens : List UInt32) (capacity : Option Nat)
  | reserveSequencePrompt (sequenceId : UInt64) (tokens : List UInt32) (capacity : Option Nat)
  | commitReservation (sequenceId reservationEpoch : UInt64)
  | cancelReservation (sequenceId reservationEpoch : UInt64)
  | commitPrompt (sequenceId : UInt64) (tokens : List UInt32)
  | ensureSequenceTokenCapacity (sequenceId : UInt64) (tokenCount : Nat)
  | bindCommittedPrefixFromSequence (sourceSequenceId targetSequenceId : UInt64) (tokenCount : Nat)
  | releaseSequence (sequenceId : UInt64)
  | probeLogicalBlockTable (tokens : List UInt32) (capacity : Nat)
  | probeReusablePrefixPrefetchSources (tokens : List UInt32) (capacity : Nat)
  | probeReusablePrefixResidency (tokens : List UInt32)
  | resetLookaheadProtection
  | protectPromptLookahead (tokens : List UInt32) (demandWeight : Nat)
  | trimResidentBlocksByReuseScore (maxResident : Nat) (guarded : List Nat)
  | tombstonePrompt (tokens : List UInt32)
  | expire (nowSeconds : Nat)
  | markResume (tokens : List UInt32)
  | clearResume (tokens : List UInt32)
  | supersedeResume (tokens : List UInt32) (recentCount anchorTokenCount : Nat)
  | importCommitted (records : List CommittedRecord) (allocated : Bool)
  | reset

/-- What a caller sees: the status, and the token and block counts of a lookup or a
reservation. -/
structure Answer where
  status : SparkStatus
  matchedTokenCount : Nat := 0
  matchedBlockCount : Nat := 0
  reservedTokenCount : Nat := 0
  reusableTokenCount : Nat := 0
  deriving DecidableEq

section Perform

variable (config : Configuration) (cache : Cache)

/-- The answer of a call that reports a lookup. -/
def answerLookup (result : SparkStatus × Lookup × Cache) : Answer × Cache :=
  ({ status := result.1
     matchedTokenCount := result.2.1.matchedTokenCount
     matchedBlockCount := result.2.1.matchedBlockCount }, result.2.2)

/-- The answer of a call that reports a reservation. -/
def answerReservation (result : SparkStatus × Reservation × Cache) : Answer × Cache :=
  ({ status := result.1
     reservedTokenCount := result.2.1.reservedTokenCount
     reusableTokenCount := result.2.1.reusableTokenCount }, result.2.2)

/-- The answer of a call that reports a matched token count. -/
def answerMatched {α : Type} (result : SparkStatus × Nat × α × Cache) : Answer × Cache :=
  ({ status := result.1, matchedTokenCount := result.2.1 }, result.2.2.2)

/-- The answer of a call that reports its status. -/
def answerStatus (result : SparkStatus × Cache) : Answer × Cache :=
  ({ status := result.1 }, result.2)

/-- Carry out a public call. -/
def perform : Operation → Answer × Cache
  | .probePrompt sequenceId tokens => answerLookup (probePrompt config cache sequenceId tokens)
  | .lookupPrompt sequenceId tokens => answerLookup (lookupPrompt config cache sequenceId tokens)
  | .reservePrompt sequenceId tokens capacity =>
    answerReservation (reservePrompt config cache sequenceId tokens capacity)
  | .reserveSequencePrompt sequenceId tokens capacity =>
    answerReservation (reserveSequencePrompt config cache sequenceId tokens capacity)
  | .commitReservation sequenceId reservationEpoch =>
    answerStatus (commitReservation config cache sequenceId reservationEpoch)
  | .cancelReservation sequenceId reservationEpoch =>
    answerStatus (cancelReservation config cache sequenceId reservationEpoch)
  | .commitPrompt sequenceId tokens => answerLookup (commitPrompt config cache sequenceId tokens)
  | .ensureSequenceTokenCapacity sequenceId tokenCount =>
    answerStatus (ensureSequenceTokenCapacity config cache sequenceId tokenCount)
  | .bindCommittedPrefixFromSequence source target tokenCount =>
    answerStatus (bindCommittedPrefixFromSequence config cache source target tokenCount)
  | .releaseSequence sequenceId => answerStatus (releaseSequence config cache sequenceId)
  | .probeLogicalBlockTable tokens capacity =>
    answerMatched (probeLogicalBlockTable config cache tokens capacity)
  | .probeReusablePrefixPrefetchSources tokens capacity =>
    answerMatched (probeReusablePrefixPrefetchSources config cache tokens capacity)
  | .probeReusablePrefixResidency tokens =>
    answerMatched (probeReusablePrefixResidency config cache tokens)
  | .resetLookaheadProtection => answerStatus (resetLookaheadProtection config cache)
  | .protectPromptLookahead tokens demandWeight =>
    let result := protectPromptLookahead config cache tokens demandWeight
    answerStatus (result.1, result.2.2)
  | .trimResidentBlocksByReuseScore maxResident guarded =>
    let result := trimResidentBlocksByReuseScore config cache maxResident guarded
    answerStatus (result.1, result.2.2)
  | .tombstonePrompt tokens => answerStatus (tombstonePrompt config cache tokens)
  | .expire nowSeconds => answerStatus (expire config cache nowSeconds)
  | .markResume tokens => answerStatus (markResume config cache tokens)
  | .clearResume tokens => answerStatus (clearResume config cache tokens)
  | .supersedeResume tokens recentCount anchorTokenCount =>
    let result := supersedeResume config cache tokens recentCount anchorTokenCount
    answerStatus (result.1, result.2.2)
  | .importCommitted records allocated =>
    let result := importCommitted config cache records allocated
    answerStatus (result.1, result.2.2)
  | .reset => answerStatus (reset config cache)

/-- An event in the life of a cache: a call, or another user of the arena at work. -/
inductive Event where
  | call (operation : Operation)
  | outside (arena : Arena)

/-- The cache after an event. -/
def occur : Event → Cache
  | .call operation => (perform config cache operation).2
  | .outside arena => { cache with arena := arena }

/-- The cache after a sequence of events. -/
def run (config : Configuration) : List Event → Cache → Cache
  | [], cache => cache
  | event :: rest, cache => run config rest (occur config cache event)

end Perform

/-- An arena as the configuration describes it, in a state its own checks accept. -/
def ArenaValid (config : Configuration) (arena : Arena) : Prop :=
  ∀ layout, config.kvCacheArena = some layout → Arena.validate layout arena = .ok

/-- The arena `SparkKvCacheArenaInitialize` has just left. -/
def ArenaUnused (config : Configuration) (arena : Arena) : Prop :=
  ∀ layout, config.kvCacheArena = some layout → arena = Arena.initial layout

/-- A configuration `SparkPrefixCacheInitialize` accepts, and the arena it names. -/
structure Accepted (config : Configuration) (arena : Arena) : Prop where
  configuration : configurationStatus config = .ok
  arena : ArenaValid config arena

/-- Another user of the arena keeps it valid. -/
def Event.Legal (config : Configuration) : Event → Prop
  | .call _ => True
  | .outside arena => ArenaValid config arena

variable {config : Configuration} {exclusive : Prop} {mode : Mode} {arena : Arena} {cache : Cache}

theorem Accepted.validate (accepted : Accepted config arena) : validate config = .ok := by
  have status := accepted.configuration
  unfold configurationStatus at status
  split at status
  · cases status
  · rename_i valid
    simpa using valid

section Fresh

/-- A cache whose records are those of a new one, at least inside its arrays. -/
structure Fresh (config : Configuration) (cache : Cache) : Prop where
  entries : ∀ i < config.entryCount,
    cache.entries i = { reserved := initialLink config.entryCount i }
  bindings : ∀ i < config.sequenceBindingCount,
    cache.bindings i = { reserved := initialLink config.sequenceBindingCount i }
  entryHeads : ∀ b < config.entryHashBucketCount, cache.entryHashBucketHeads b = none
  lookupHeads : ∀ b < config.bindingHashBucketCount, cache.bindingLookupHashBucketHeads b = none
  sequenceHeads : ∀ b < config.bindingHashBucketCount,
    cache.bindingSequenceHashBucketHeads b = none
  freeEntryHead : cache.freeEntryHead = some 0
  freeBindingHead : cache.freeBindingHead = some 0

/-- `SparkPrefixCacheReset` starts over: the arena of a sound cache can always be reset. -/
theorem fresh_reset (sound : Sound config exclusive none cache) (accepted : PrefixCache.validate config = .ok) :
    Fresh config (reset config cache).2 ∧
      (reset config cache).2.unlinkEntryErrorCount = cache.unlinkEntryErrorCount ∧
      ∀ layout, config.kvCacheArena = some layout →
        Arena.validate layout (reset config cache).2.arena = .ok ∧
          (reset config cache).2.arena = cache.arena.startOver layout := by
  unfold reset
  rw [if_neg (by simp [accepted])]
  dsimp only
  cases attached : config.kvCacheArena with
  | none =>
    dsimp only
    rw [andThen_ok rfl]
    refine ⟨⟨fun i inRange => if_pos inRange, fun i inRange => if_pos inRange,
      fun b inRange => if_pos inRange, fun b inRange => if_pos inRange,
      fun b inRange => if_pos inRange, rfl, rfl⟩, rfl, fun layout absurdity => (by cases absurdity)⟩
  | some layout =>
    obtain ⟨valid, -⟩ := sound.arena layout attached
    have cleared : cache.arena.reset layout = (.ok, cache.arena.startOver layout) := by
      unfold Arena.reset
      rw [if_neg (by simp [valid])]
    dsimp only
    rw [cleared, andThen_ok rfl]
    refine ⟨⟨fun i inRange => if_pos inRange, fun i inRange => if_pos inRange,
      fun b inRange => if_pos inRange, fun b inRange => if_pos inRange,
      fun b inRange => if_pos inRange, rfl, rfl⟩, rfl, fun other same => ?_⟩
    cases same
    refine ⟨Arena.validate_of_occupied valid ?_, rfl⟩
    simp [Arena.occupied, Arena.startOver, Arena.initial]

theorem Fresh.sound (fresh : Fresh config cache) (accepted : PrefixCache.validate config = .ok)
    (arena : ∀ layout, config.kvCacheArena = some layout →
      Arena.validate layout cache.arena = .ok ∧
        (exclusive → cache.arena.holdings = (Arena.initial layout).holdings)) :
    Sound config exclusive none cache := by
  have entryValid : ∀ i < config.entryCount, cache.counts.entryValid i = false := by
    intro i inRange
    change (cache.entries i).flags.valid = false
    rw [fresh.entries i inRange]
  have bindingValid : ∀ i < config.sequenceBindingCount, cache.counts.bindingValid i = false := by
    intro i inRange
    change (cache.bindings i).valid = false
    rw [fresh.bindings i inRange]
  have noBinding : ∀ i < config.sequenceBindingCount, cache.counts.bindingValid i ≠ true := by
    intro i inRange valid
    rw [bindingValid i inRange] at valid
    cases valid
  have links := linked_initialCache cache.arena accepted
  refine ⟨⟨?_, ?_, fun _ b inRange => ?_, fun _ b inRange => ?_⟩,
    ⟨fun i inRange valid => absurd valid (noBinding i inRange), fun index inRange => ?_,
      fun i iInRange _ _ valid => absurd valid (noBinding i iInRange),
      fun index absurdity => (by cases absurdity)⟩,
    ⟨fun i inRange valid => absurd valid (noBinding i inRange),
      fun i inRange valid => absurd valid (noBinding i inRange),
      fun e inRange valid => absurd (valid.symm.trans (entryValid e inRange)) Bool.true_eq_false.mp,
      fun index absurdity => (by cases absurdity)⟩, fun layout attached => ?_⟩
  · rw [show cache.links.freeEntryHead = some 0 from fresh.freeEntryHead]
    refine links.freeEntries.congr (fun i => ?_) fun i free => ?_
    · constructor
      · exact fun free => ⟨free.1, rfl⟩
      · exact fun free => ⟨free.1, entryValid i free.1⟩
    · exact congrArg Entry.reserved (fresh.entries i free.1)
  · rw [show cache.links.freeBindingHead = some 0 from fresh.freeBindingHead]
    refine links.freeBindings.congr (fun i => ?_) fun i free => ?_
    · constructor
      · exact fun free => ⟨free.1, rfl⟩
      · exact fun free => ⟨free.1, bindingValid i free.1⟩
    · exact congrArg Binding.reserved (fresh.bindings i free.1)
  · rw [show cache.links.lookupHeads b = none from fresh.lookupHeads b inRange]
    exact Chain.listed_none fun i inside => noBinding i inside.1.1 inside.1.2
  · rw [show cache.links.sequenceHeads b = none from fresh.sequenceHeads b inRange]
    exact Chain.listed_none fun i inside => noBinding i inside.1.1 inside.1.2
  · have none : bindingsOf config cache.counts index = 0 :=
      tally_eq_zero fun i bindingInRange => by simp [bindingValid i bindingInRange]
    rw [none]
    change (cache.entries index).referenceCount = _
    rw [fresh.entries index inRange]
    rfl
  · obtain ⟨valid, holdings⟩ := arena layout attached
    refine ⟨valid, fun alone => ⟨fun b _ => ?_, fun i inRange valid =>
      absurd valid (noBinding i inRange), fun index absurdity => (by cases absurdity)⟩⟩
    have none : bindingsHolding config cache.counts b = 0 :=
      tally_eq_zero fun i bindingInRange => by simp [bindingValid i bindingInRange]
    rw [none, holdings alone]
    rfl

theorem fresh_initialCache (config : Configuration) (arena : Arena) :
    Fresh config (initialCache config arena) :=
  ⟨fun _ _ => rfl, fun _ _ => rfl, fun _ _ => rfl, fun _ _ => rfl, fun _ _ => rfl, rfl, rfl⟩

theorem sound_initialCache (accepted : Accepted config arena)
    (unused : exclusive → ArenaUnused config arena) :
    Sound config exclusive none (initialCache config arena) :=
  (fresh_initialCache config arena).sound accepted.validate fun layout attached =>
    ⟨accepted.arena layout attached,
      fun alone => congrArg Arena.holdings (unused alone layout attached)⟩

theorem sound_reset (sound : Sound config exclusive none cache)
    (accepted : PrefixCache.validate config = .ok) :
    Sound config exclusive none (reset config cache).2 := by
  obtain ⟨fresh, -, arena⟩ := fresh_reset sound accepted
  refine fresh.sound accepted fun layout attached => ?_
  obtain ⟨valid, left⟩ := arena layout attached
  exact ⟨valid, fun _ => by rw [left]; rfl⟩

end Fresh

section Calls

/-- The condition of a call under which it keeps every entry in its bucket. -/
def Operation.KeepsBuckets (config : Configuration) (cache : Cache) : Operation → Prop
  | .ensureSequenceTokenCapacity sequenceId tokenCount =>
    GrowthKeepsBuckets config cache sequenceId tokenCount
  | _ => True

/-- The calls that can make a block reusable: they commit a reservation, or import a record. -/
def Operation.Commits : Operation → Prop
  | .commitReservation .. | .commitPrompt .. | .ensureSequenceTokenCapacity .. | .importCommitted .. => True
  | _ => False

/-- Every call but `Reset` is a run of internal operations. -/
theorem reached_perform (sound : mode.sound → Sound config exclusive none cache) (operation : Operation)
    (other : operation ≠ .reset) (loud : ¬ mode.gentle) (closed : mode.uncommitted → ¬ operation.Commits)
    (keeps : mode.orderly → operation.KeepsBuckets config cache) :
    Reached config exclusive mode (none, cache) (none, (perform config cache operation).2) := by
  have begun : Reached config exclusive mode (none, cache) (none, cache) := ⟨.refl, sound⟩
  cases operation with
  | probePrompt sequenceId tokens => exact begun.probePrompt _ _
  | lookupPrompt sequenceId tokens => exact begun.lookupPrompt loud _ _
  | reservePrompt sequenceId tokens capacity | reserveSequencePrompt sequenceId tokens capacity =>
      exact begun.reservePromptInternal loud _ _ _ _
  | commitReservation sequenceId epoch => exact begun.commitReservation (fun never => closed never trivial) _ _
  | cancelReservation sequenceId epoch => exact begun.cancelReservation loud _ _
  | commitPrompt sequenceId tokens => exact begun.commitPrompt loud (fun never => closed never trivial) _ _
  | ensureSequenceTokenCapacity sequenceId tokenCount =>
    exact begun.ensureSequenceTokenCapacity loud (fun never => closed never trivial) _ _ keeps
  | bindCommittedPrefixFromSequence source target tokenCount =>
    exact begun.bindCommittedPrefixFromSequence loud _ _ _
  | releaseSequence sequenceId => exact begun.releaseSequence loud _
  | probeLogicalBlockTable tokens capacity => exact begun.probeLogicalBlockTable _ _
  | probeReusablePrefixPrefetchSources tokens capacity =>
    exact begun.probeReusablePrefixPrefetchSources _ _
  | probeReusablePrefixResidency tokens => exact begun.probeReusablePrefixResidency _
  | resetLookaheadProtection => exact begun.resetLookaheadProtection
  | protectPromptLookahead tokens demandWeight => exact begun.protectPromptLookahead _ _
  | trimResidentBlocksByReuseScore maxResident guarded =>
    exact begun.trimResidentBlocksByReuseScore _ _
  | tombstonePrompt tokens => exact begun.tombstonePrompt _
  | expire nowSeconds => exact begun.expire _
  | markResume tokens => exact begun.markResume _
  | clearResume tokens => exact begun.clearResume _
  | supersedeResume tokens recentCount anchorTokenCount => exact begun.supersedeResume _ _ _
  | importCommitted records allocated => exact begun.importCommitted (fun never => closed never trivial) _ _
  | reset => exact absurd rfl other

/-- A run in which every call meets its condition. -/
def RunKeepsBuckets (config : Configuration) : List Event → Cache → Prop
  | [], _ => True
  | .call operation :: rest, cache =>
    operation.KeepsBuckets config cache ∧
      RunKeepsBuckets config rest (perform config cache operation).2
  | .outside arena :: rest, cache => RunKeepsBuckets config rest { cache with arena := arena }

theorem legal_calls (operations : List Operation) :
    ∀ event ∈ operations.map Event.call, event.Legal config := by
  intro event member
  obtain ⟨operation, -, rfl⟩ := List.mem_map.mp member
  trivial

theorem alone_calls (operations : List Operation) (arena : Arena) :
    Event.outside arena ∉ operations.map Event.call := by
  intro member
  obtain ⟨operation, -, same⟩ := List.mem_map.mp member
  cases same

/-- The rule for runs: what a reset leaves, what another user of the arena leaves alone, and what
every internal operation keeps, holds throughout. -/
theorem run_keeps {P : Option Nat × Cache → Prop} (plain : mode.Plain)
    (accepted : PrefixCache.validate config = .ok)
    (step : ∀ before after, Sound config exclusive before.1 before.2 → P before →
      Step config mode before after → P after)
    (started : ∀ cache, Sound config exclusive none cache → P (none, cache) →
      P (none, (reset config cache).2))
    (elsewhere : ¬ exclusive → ∀ cache arena, P (none, cache) →
      P (none, { cache with arena := arena }))
    {events : List Event} (legal : ∀ event ∈ events, event.Legal config)
    (alone : exclusive → ∀ arena, Event.outside arena ∉ events)
    (keeps : mode.orderly → RunKeepsBuckets config events cache)
    (sound : Sound config exclusive none cache) (holds : P (none, cache)) :
    Sound config exclusive none (run config events cache) ∧ P (none, run config events cache) := by
  induction events generalizing cache with
  | nil => exact ⟨sound, holds⟩
  | cons event rest ih =>
    have laterLegal : ∀ event ∈ rest, event.Legal config :=
      fun event member => legal event (.tail _ member)
    have laterAlone : exclusive → ∀ arena, Event.outside arena ∉ rest :=
      fun only arena member => alone only arena (.tail _ member)
    cases event with
    | call operation =>
      have reached (other : operation ≠ .reset) : Reached config exclusive mode (none, cache)
          (none, (perform config cache operation).2) :=
        reached_perform (fun _ => sound) operation other plain.loud
          (fun never => absurd never plain.open_) fun ordered => (keeps ordered).1
      refine ih laterLegal laterAlone (fun ordered => (keeps ordered).2) ?_ ?_
      · by_cases isReset : operation = .reset
        · rw [isReset]
          exact sound_reset sound accepted
        · exact (reached isReset).sound plain.known
      · by_cases isReset : operation = .reset
        · rw [isReset]
          exact started cache sound holds
        · have along : ∀ now, Relation.ReflTransGen (Step config mode) (none, cache) now →
              Sound config exclusive now.1 now.2 ∧ P now := by
            intro now steps
            induction steps with
            | refl => exact ⟨sound, holds⟩
            | tail _ last ih => exact ⟨ih.1.step plain.known last, step _ _ ih.1 ih.2 last⟩
          exact (along _ (reached isReset).steps).2
    | outside arena =>
      have shared : ¬ exclusive := fun only => alone only arena (.head _)
      have valid : ArenaValid config arena := legal _ (.head _)
      refine ih laterLegal laterAlone keeps ?_ (elsewhere shared cache arena holds)
      exact ⟨sound.linked, sound.counted, sound.marked.congr_arena arena, fun layout attached =>
        ⟨valid layout attached, fun only => absurd only shared⟩⟩

end Calls

section References

/-- Every entry counts its bindings, a binding holds its entry's block, and a sequence has at most
one binding at an offset. -/
structure ReferencesAgree (config : Configuration) (cache : Cache) : Prop where
  entries : ∀ index < config.entryCount, (cache.entries index).referenceCount =
    tally config.sequenceBindingCount fun i =>
      (cache.bindings i).valid && (cache.bindings i).entryIndex == index
  blocks : ∀ i < config.sequenceBindingCount, (cache.bindings i).valid = true →
    (cache.bindings i).entryIndex < config.entryCount ∧ (cache.bindings i).logicalBlockIndex =
      (cache.entries (cache.bindings i).entryIndex).logicalBlockIndex
  unique : ∀ i < config.sequenceBindingCount, ∀ j < config.sequenceBindingCount,
    (cache.bindings i).valid = true → (cache.bindings j).valid = true →
    (cache.bindings i).sequenceId = (cache.bindings j).sequenceId →
    (cache.bindings i).firstTokenIndex = (cache.bindings j).firstTokenIndex → i = j

/-- Every block of the arena counts the bindings that hold it. -/
def ArenaReferencesAgree (config : Configuration) (cache : Cache) : Prop :=
  ∀ layout, config.kvCacheArena = some layout → ∀ block < layout.logicalBlockCount,
    (cache.arena.blocks block).referenceCount = tally config.sequenceBindingCount fun i =>
      (cache.bindings i).valid && (cache.bindings i).logicalBlockIndex == some block

theorem Sound.references (sound : Sound config exclusive none cache) :
    ReferencesAgree config cache := by
  refine ⟨fun index inRange => ?_, fun i inRange valid => ?_, sound.counted.unique⟩
  · exact sound.counted.references index inRange
  · obtain ⟨entryInRange, -, sameBlock⟩ := sound.counted.bound i inRange valid
    exact ⟨entryInRange, sameBlock⟩

theorem Sound.arenaReferences (sound : Sound config exclusive none cache) (alone : exclusive) :
    ArenaReferencesAgree config cache := fun layout attached block inRange =>
  ((sound.arena layout attached).2 alone).references block inRange

/-- The references agree after every call, whatever it returns; those of the arena do as long as
only this cache uses it. -/
theorem references_agree (config : Configuration) (arena : Arena) (events : List Event)
    (accepted : Accepted config arena) (legal : ∀ event ∈ events, event.Legal config) :
    ReferencesAgree config (run config events (initialCache config arena)) ∧
      (ArenaUnused config arena → (∀ arena, Event.outside arena ∉ events) →
        ArenaReferencesAgree config (run config events (initialCache config arena))) := by
  have reached := fun (exclusive : Prop) (unused : exclusive → ArenaUnused config arena)
      (alone : exclusive → ∀ arena, Event.outside arena ∉ events) =>
    (run_keeps (P := fun _ => True) ⟨trivial, id, id⟩ accepted.validate
      (fun _ _ _ _ (_ : Step config .any _ _) => trivial) (fun _ _ _ => trivial)
      (fun _ _ _ _ => trivial) legal alone
      (fun absurdity => absurdity.elim) (sound_initialCache accepted unused) trivial).1
  constructor
  · exact (reached False (fun absurdity => absurdity.elim) fun absurdity => absurdity.elim).references
  · intro unused alone
    exact (reached True (fun _ => unused) fun _ => alone).arenaReferences trivial

/-- An arena of one block of two tokens. -/
def oneBlockLayout : Layout where
  logicalBlockCount := 1
  blockTokenCount := 2
  residentBlockCapacity := 1
  layerCount := 1
  kvHeadCount := 1
  headDim := 1
  bytesPerScalar := 1
  keyBlockStrideBytes := 8
  valueBlockStrideBytes := 0
  keyDeviceBase := 4096
  valueDeviceBase := 0
  evictionPolicy := .lru
  evictFunction := none

/-- A cache of one entry and one binding over that arena, with two entry buckets. -/
def oneBlockConfiguration : Configuration where
  blockTokenCount := 2
  entryCount := 1
  logicalBlockCount := 1
  sequenceBindingCount := 1
  kvCacheArena := some oneBlockLayout
  entryHashBucketCount := 2
  bindingHashBucketCount := 1
  clock := fun _ => 1

theorem accepted_oneBlock : Accepted oneBlockConfiguration (Arena.initial oneBlockLayout) := by
  refine ⟨by decide, fun layout attached => ?_⟩
  cases attached
  decide

theorem unused_oneBlock : ArenaUnused oneBlockConfiguration (Arena.initial oneBlockLayout) := by
  intro layout attached
  cases attached
  rfl

/-- An arena of two blocks of two tokens. -/
def twoBlockLayout : Layout :=
  { oneBlockLayout with logicalBlockCount := 2, residentBlockCapacity := 2 }

/-- A cache of two entries and two bindings over that arena. -/
def twoBlockConfiguration : Configuration :=
  { oneBlockConfiguration with
    entryCount := 2
    logicalBlockCount := 2
    sequenceBindingCount := 2
    kvCacheArena := some twoBlockLayout }

theorem accepted_twoBlock : Accepted twoBlockConfiguration (Arena.initial twoBlockLayout) := by
  refine ⟨by decide, fun layout attached => ?_⟩
  cases attached
  decide

theorem unused_twoBlock : ArenaUnused twoBlockConfiguration (Arena.initial twoBlockLayout) := by
  intro layout attached
  cases attached
  rfl

/-- A prompt of a whole and a partial block is committed and released, and another sequence takes it up. -/
def sharePrompt : List Operation :=
  [.reservePrompt 1 [1, 2, 3] none, .commitReservation 1 1, .releaseSequence 1, .lookupPrompt 2 [1, 2, 3, 4]]

/-- The cache after these calls. -/
def sharedPrompt : Cache :=
  run twoBlockConfiguration (sharePrompt.map .call)
    (initialCache twoBlockConfiguration (Arena.initial twoBlockLayout))

theorem references_agree_shared :
    (sharedPrompt.entries 0).referenceCount = 1 ∧ (sharedPrompt.entries 1).referenceCount = 1 ∧
      ReferencesAgree twoBlockConfiguration sharedPrompt ∧
        ArenaReferencesAgree twoBlockConfiguration sharedPrompt := by
  obtain ⟨references, arenaReferences⟩ := references_agree twoBlockConfiguration
    (Arena.initial twoBlockLayout) (sharePrompt.map .call) accepted_twoBlock (legal_calls _)
  have counts : (sharedPrompt.entries 0).referenceCount = 1 ∧ (sharedPrompt.entries 1).referenceCount = 1 := by
    decide +kernel
  exact ⟨counts.1, counts.2, references, arenaReferences unused_twoBlock (alone_calls _)⟩

end References

end Sparkpipe.PrefixCache
