import Sparkpipe.Cache.Tier.Sound
import Mathlib.Logic.Relation

/-!
# The edits of the NVMe tier

Each call makes a few of the changes listed here, one after the other, and each change
keeps the tier sound. Some of them are there for what should not happen: a read that is given up
although the device has not ended it, and an order that goes to an entry of the heap that is
not the slot's own, or that is still wanted after its entry has gone.
-/

namespace Sparkpipe.NvmeTier

open Function Chain

/-- Only marks have changed that no table depends on: uses, needs and pins. -/
structure Touched (before after : Tier) : Prop where
  configuration : after.configuration = before.configuration
  cancels : after.cancels = before.cancels
  slotCount : after.slotCount = before.slotCount
  buckets : after.buckets = before.buckets
  freeHead : after.freeHead = before.freeHead
  slotsInUse : after.slotsInUse = before.slotsInUse
  entries : after.entries = before.entries
  slots : ∀ index, ∃ referenced needByStep pinCount, after.slots index =
    { before.slots index with referenced := referenced, needByStep := needByStep, pinCount := pinCount }
  staging : ∀ buffer, after.staging buffer = before.staging buffer ∨ (before.staging buffer).state ≠ .free ∧
    ∃ needByStep, after.staging buffer = { before.staging buffer with needByStep := needByStep }

/-- A change to a sound tier; the two propositions say whether reads may be given up that are still
outstanding and whether orders may be lost. -/
inductive Edit (forsakes loses : Prop) : World → World → Prop where
  | touch {world : World} {tier : Tier} (touched : Touched world.tier tier) :
      Edit forsakes loses world (world.withTier tier)
  | join {world : World} {buffer : Nat}
      (busy : (world.tier.staging buffer).state = .filling ∨ (world.tier.staging buffer).state = .ready) :
      Edit forsakes loses world
        (world.withTier (world.tier.setStaging buffer { world.tier.staging buffer with holder := .demand }))
  | hand {world : World} {index buffer : Nat} (ready : (world.tier.staging buffer).state = .ready)
      (named : (world.tier.staging buffer).slot = some index)
      (demand : (world.tier.staging buffer).holder = .demand) :
      Edit forsakes loses world { world with
        handed := update world.handed buffer (some (world.contents buffer, (world.tier.slots index).digest)) }
  | reserve {world : World} {index : Nat} {contentHash : UInt64} {contentDigest : Digest}
      (head : world.tier.freeHead = some index) (named : contentHash ≠ 0)
      (fresh : ∀ other, world.tier.Occupied other → (world.tier.slots other).contentHash ≠ contentHash) :
      Edit forsakes loses world (world.popFree.2.beginWrite index contentHash contentDigest)
  | commit {world : World} {index : Nat} (inRange : index < world.tier.slotCount)
      (writing : (world.tier.slots index).state = .writing) :
      Edit forsakes loses world (world.withTier
        ((world.tier.setSlot index { world.tier.slots index with state := .present }).bucketInsert index))
  | abort {world : World} {index : Nat} (inRange : index < world.tier.slotCount)
      (writing : (world.tier.slots index).state = .writing) :
      Edit forsakes loses world (world.withTier (world.tier.releaseReservedSlot index))
  | evict {world : World} {index : Nat} (inRange : index < world.tier.slotCount)
      (present : (world.tier.slots index).state = .present) : Edit forsakes loses world (world.evict index)
  | quarantine {world : World} {index : Nat} (inRange : index < world.tier.slotCount)
      (present : (world.tier.slots index).state = .present) : Edit forsakes loses world (world.quarantine index)
  | drop {world : World} {buffer : Nat} (ready : (world.tier.staging buffer).state = .ready)
      (prefetch : (world.tier.staging buffer).holder = .prefetch) :
      Edit forsakes loses world (world.release buffer)
  | consume {world : World} {buffer : Nat} (ready : (world.tier.staging buffer).state = .ready) :
      Edit forsakes loses world { world.release buffer with
        handed := update world.handed buffer none }
  | finish {world : World} {buffer : Nat}
      (busy : (world.tier.staging buffer).state = .filling ∨ (world.tier.staging buffer).state = .cancelPending) :
      Edit forsakes loses world ((world.ended buffer).release buffer)
  | forsake {world : World} {buffer : Nat} (allowed : forsakes)
      (filling : (world.tier.staging buffer).state = .filling) :
      Edit forsakes loses world (world.release buffer)
  | cancel {world : World} {buffer : Nat} (filling : (world.tier.staging buffer).state = .filling)
      (prefetch : (world.tier.staging buffer).holder = .prefetch) :
      Edit forsakes loses world (world.cancelPending buffer)
  | issue {world : World} {index buffer : Nat} {holder : Holder} {needByStep : UInt32} {ticket : UInt64}
      (inRange : index < world.tier.slotCount) (present : (world.tier.slots index).state = .present)
      (unqueued : (world.tier.slots index).queued = false)
      (bufferInRange : buffer < world.tier.configuration.stagingBufferCount)
      (free : (world.tier.staging buffer).state = .free) (held : holder ≠ .none)
      (fresh : holder = .prefetch → ∀ entry ∈ world.tier.entries, entry.slot ≠ index) :
      Edit forsakes loses world (world.issueRead index buffer holder needByStep (.ok, ticket)).2
  | land {world : World} {index buffer : Nat} (filling : (world.tier.staging buffer).state = .filling)
      (named : (world.tier.staging buffer).slot = some index)
      (verified : (world.tier.slots index).digest = Sha256.digest (world.contents buffer)) :
      Edit forsakes loses world ((world.ended buffer).landed buffer index).2
  | enqueue {world : World} {index : Nat} {needByStep : UInt32} (inRange : index < world.tier.slotCount)
      (present : (world.tier.slots index).state = .present) (unqueued : (world.tier.slots index).queued = false)
      (fresh : ∀ entry ∈ world.tier.entries, entry.slot ≠ index) :
      Edit forsakes loses world (world.enqueue index needByStep)
  | tighten {world : World} {index position : Nat} {needByStep : UInt32}
      (found : pendingFind world.tier.entries index = some position)
      (queued : (world.tier.slots index).queued = true) :
      Edit forsakes loses world (world.tighten position index needByStep)
  | absorb {world : World} {index position : Nat} {needByStep : UInt32} (allowed : loses)
      (found : pendingFind world.tier.entries index = some position)
      (unqueued : (world.tier.slots index).queued = false) :
      Edit forsakes loses world (world.tighten position index needByStep)
  | dequeue {world : World} {index : Nat} : Edit forsakes loses world (world.dequeue index)
  | forget {world : World} {index : Nat} (inRange : index < world.tier.slotCount)
      (present : (world.tier.slots index).state = .present) (unqueued : (world.tier.slots index).queued = false) :
      Edit forsakes loses world (world.forgetOrder index)
  | lose {world : World} {orders : UInt64 → Option UInt32} (allowed : loses) :
      Edit forsakes loses world { world with orders := orders }
  | discard {world : World} {head : PendingEntry} {rest : List PendingEntry}
      (entries : world.tier.entries = head :: rest)
      (unqueued : (world.tier.slots head.slot).queued = false) :
      Edit forsakes loses world
        (world.withTier { world.tier with entries := pendingRemoveAt world.tier.entries 0 })
  | deviceWrite {world : World} {buffer : Nat} {bytes : List UInt8} (reading : world.outstanding buffer ≠ []) :
      Edit forsakes loses world { world with contents := update world.contents buffer bytes }

/-- Changes, one after the other. -/
def Edits (forsakes loses : Prop) : World → World → Prop := Relation.ReflTransGen (Edit forsakes loses)

namespace Tier

variable {tier before after : Tier} {index other buffer : Nat}

section Buffered

/-- Nothing that the pairing of slots and staging buffers depends on has changed. -/
structure SameBuffers (before after : Tier) : Prop where
  configuration : after.configuration = before.configuration
  slotCount : after.slotCount = before.slotCount
  slots : ∀ index, (after.slots index).stagingIndex = (before.slots index).stagingIndex ∧
    (after.slots index).state.staged = (before.slots index).state.staged ∧
    ((before.slots index).stagingIndex.isSome = true →
      ((after.slots index).state = .ready ↔ (before.slots index).state = .ready) ∧
      (after.slots index).generation = (before.slots index).generation)
  staging : ∀ buffer, after.staging buffer = before.staging buffer ∨ (before.staging buffer).state ≠ .free ∧
    ∃ needByStep holder, after.staging buffer =
        { before.staging buffer with needByStep := needByStep, holder := holder } ∧ holder ≠ .none ∧
      ((before.staging buffer).state = .cancelPending → holder = .prefetch)

theorem SameBuffers.buffered (same : SameBuffers before after) (buffered : before.Buffered) : after.Buffered := by
  have slot : ∀ buffer, (after.staging buffer).slot = (before.staging buffer).slot ∧
      (after.staging buffer).state = (before.staging buffer).state ∧
      (after.staging buffer).generation = (before.staging buffer).generation := by
    intro buffer
    rcases same.staging buffer with equal | ⟨-, needByStep, holder, equal, -⟩
    · rw [equal]
      exact ⟨rfl, rfl, rfl⟩
    · rw [equal]
      exact ⟨rfl, rfl, rfl⟩
  constructor
  · intro index buffer
    dsimp only
    rw [(same.slots index).1, (slot buffer).1]
    exact buffered.paired index buffer
  · intro index buffer named
    rw [(same.slots index).1] at named
    rw [same.slotCount, same.configuration]
    exact buffered.inRange index buffer named
  · intro index
    rw [(same.slots index).1, (same.slots index).2.1]
    exact buffered.staged index
  · intro buffer busy
    rw [(slot buffer).2.1] at busy
    rw [(slot buffer).1]
    exact buffered.taken buffer busy
  · intro buffer free
    rw [(slot buffer).2.1] at free
    rcases same.staging buffer with equal | ⟨busy, -⟩
    · rw [equal]
      exact buffered.idle buffer free
    · exact absurd free busy
  · intro index buffer named
    rw [(same.slots index).1] at named
    obtain ⟨ready, generation⟩ := (same.slots index).2.2 (by rw [named]; rfl)
    rw [ready, generation, (slot buffer).2.1, (slot buffer).2.2]
    exact buffered.agree index buffer named
  · intro buffer busy
    rw [(slot buffer).2.1] at busy
    rcases same.staging buffer with equal | ⟨-, needByStep, holder, equal, held, -⟩
    · rw [equal]
      exact buffered.holder buffer busy
    · rw [equal]
      exact held
  · intro buffer cancelled
    rw [(slot buffer).2.1] at cancelled
    rcases same.staging buffer with equal | ⟨-, needByStep, holder, equal, -, prefetch⟩
    · rw [equal]
      exact buffered.cancelled buffer cancelled
    · rw [equal]
      exact prefetch cancelled

variable (buffered : tier.Buffered)
include buffered

theorem Buffered.named (busy : (tier.staging buffer).state ≠ .free) :
    ∃ index, (tier.staging buffer).slot = some index ∧ (tier.slots index).stagingIndex = some buffer ∧
      index < tier.slotCount ∧ buffer < tier.configuration.stagingBufferCount ∧
      (tier.slots index).state.staged = true := by
  obtain ⟨index, named⟩ := Option.isSome_iff_exists.mp (buffered.taken buffer busy)
  have back : (tier.slots index).stagingIndex = some buffer := (buffered.paired index buffer).mpr named
  obtain ⟨inRange, bufferInRange⟩ := buffered.inRange index buffer back
  have staged := buffered.staged index
  rw [back] at staged
  exact ⟨index, named, back, inRange, bufferInRange, staged.symm⟩

/-- A buffer that is named by a slot is not free. -/
theorem Buffered.busy (named : (tier.staging buffer).slot = some index) :
    (tier.staging buffer).state ≠ .free := by
  intro free
  rw [buffered.idle buffer free] at named
  cases named

/-- What the release of a buffer does to its slot. -/
theorem Buffered.stagingRelease (named : (tier.staging buffer).slot = some index) :
    tier.stagingRelease buffer = (tier.setSlot index { tier.slots index with
      state := .present
      stagingIndex := none }).setStaging buffer {} := by
  obtain ⟨other, isOther, back, inRange, -, staged⟩ := buffered.named (buffered.busy named)
  cases named.symm.trans isOther
  have reads : tier.reads index buffer = true := by
    unfold Tier.reads
    rw [back]
    revert staged
    cases (tier.slots index).state <;> simp [SlotState.staged, inRange]
  unfold Tier.stagingRelease
  rw [named]
  dsimp only
  rw [if_pos reads]

/-- The release of a free buffer changes nothing. -/
theorem Buffered.stagingRelease_free (free : (tier.staging buffer).state = .free) :
    tier.stagingRelease buffer = tier := by
  have idle := buffered.idle buffer free
  unfold Tier.stagingRelease Tier.setStaging
  rw [idle]
  dsimp only
  rw [← idle, update_eq_self]

/-- What a slot and its staging buffer say of each other. -/
structure Joined (index buffer : Nat) (slot : Slot) (staging : Staging) : Prop where
  named : slot.stagingIndex = some buffer
  back : staging.slot = some index
  busy : staging.state ≠ .free
  held : staging.holder ≠ .none
  cancelled : staging.state = .cancelPending → staging.holder = .prefetch
  agree : slot.state = .ready ↔ staging.state = .ready
  generation : staging.generation = slot.generation

/-- A slot and a buffer that nothing else names are written together: they are joined, or apart. -/
theorem Buffered.edit {slot : Slot} {staging : Staging}
    (slotOnly : ∀ place, (tier.slots index).stagingIndex = some place → place = buffer)
    (bufferOnly : ∀ other, (tier.staging buffer).slot = some other → other = index)
    (staged : slot.stagingIndex.isSome = slot.state.staged)
    (joined : slot.stagingIndex = none ∧ staging = {} ∨ Joined index buffer slot staging ∧
      index < tier.slotCount ∧ buffer < tier.configuration.stagingBufferCount)
    (slots : ∀ other, after.slots other = if other = index then slot else tier.slots other)
    (stagings : ∀ other, after.staging other = if other = buffer then staging else tier.staging other)
    (sameCount : after.slotCount = tier.slotCount) (sameConfiguration : after.configuration = tier.configuration) :
    after.Buffered := by
  have apart : ∀ other place, other ≠ index → (tier.slots other).stagingIndex = some place → place ≠ buffer := by
    rintro other place different isPlace rfl
    exact different (bufferOnly other ((buffered.paired other place).mp isPlace))
  -- what holds of an idle buffer, of the one that is joined and of the others holds of all
  have each : ∀ Q : Staging → Prop, Q {} → (Joined index buffer slot staging → Q staging) →
      (∀ place, Q (tier.staging place)) → ∀ place, Q (after.staging place) := by
    intro Q idle both before place
    rw [stagings]
    split
    · rcases joined with ⟨-, rfl⟩ | ⟨joined, -⟩
      · exact idle
      · exact both joined
    · exact before place
  have pairs : ∀ other place, (after.slots other).stagingIndex = some place →
      (other = index ∧ place = buffer ∧ Joined index buffer slot staging ∧
        index < tier.slotCount ∧ buffer < tier.configuration.stagingBufferCount) ∨
      other ≠ index ∧ place ≠ buffer ∧ (tier.slots other).stagingIndex = some place := by
    intro other place isPlace
    rw [slots] at isPlace
    split at isPlace
    · rename_i here
      rcases joined with ⟨none, -⟩ | ⟨joined, inRange⟩
      · cases none.symm.trans isPlace
      · exact .inl ⟨here, Option.some.inj (isPlace.symm.trans joined.named), joined, inRange⟩
    · rename_i here
      exact .inr ⟨here, apart other place here isPlace, isPlace⟩
  constructor
  · intro other place
    dsimp only
    constructor
    · intro isPlace
      rcases pairs other place isPlace with ⟨rfl, rfl, joined, -⟩ | ⟨-, there, isPlace⟩
      · rw [stagings, if_pos rfl]
        exact joined.back
      · rw [stagings, if_neg there]
        exact (buffered.paired other place).mp isPlace
    · intro isSlot
      rw [stagings] at isSlot
      split at isSlot
      · rename_i there
        rcases joined with ⟨-, rfl⟩ | ⟨joined, -⟩
        · cases isSlot
        · rw [slots, if_pos (Option.some.inj (isSlot.symm.trans joined.back)), there]
          exact joined.named
      · rename_i there
        have isPlace := (buffered.paired other place).mpr isSlot
        rw [slots, if_neg]
        · exact isPlace
        · rintro rfl
          exact there (slotOnly place isPlace)
  · intro other place isPlace
    rw [sameCount, sameConfiguration]
    rcases pairs other place isPlace with ⟨rfl, rfl, -, inRange⟩ | ⟨-, -, isPlace⟩
    · exact inRange
    · exact buffered.inRange other place isPlace
  · intro other
    rw [slots]
    split
    · exact staged
    · exact buffered.staged other
  · apply each fun staging => staging.state ≠ .free → staging.slot.isSome = true
    · exact fun busy => absurd rfl busy
    · exact fun joined _ => Option.isSome_iff_exists.mpr ⟨index, joined.back⟩
    · exact buffered.taken
  · apply each fun staging => staging.state = .free → staging = {}
    · exact fun _ => rfl
    · exact fun joined free => absurd free joined.busy
    · exact buffered.idle
  · intro other place isPlace
    rcases pairs other place isPlace with ⟨rfl, rfl, joined, -⟩ | ⟨here, there, isPlace⟩
    · rw [slots, if_pos rfl, stagings, if_pos rfl]
      exact ⟨joined.agree, joined.generation⟩
    · rw [slots, if_neg here, stagings, if_neg there]
      exact buffered.agree other place isPlace
  · apply each fun staging => staging.state ≠ .free → staging.holder ≠ .none
    · exact fun busy => absurd rfl busy
    · exact fun joined _ => joined.held
    · exact buffered.holder
  · apply each fun staging => staging.state = .cancelPending → staging.holder = .prefetch
    · exact nofun
    · exact Joined.cancelled
    · exact buffered.cancelled

/-- A slot is separated from its buffer. -/
theorem Buffered.release (named : (tier.staging buffer).slot = some index) :
    (tier.stagingRelease buffer).Buffered := by
  have back : (tier.slots index).stagingIndex = some buffer := (buffered.paired index buffer).mpr named
  rw [buffered.stagingRelease named]
  refine @Buffered.edit tier _ index buffer buffered _ {} ?_ ?_ ?_ ?_ (fun other => update_apply ..)
    (fun other => update_apply ..) rfl rfl
  · exact fun place isPlace => Option.some.inj (isPlace.symm.trans back)
  · exact fun other isOther => Option.some.inj (isOther.symm.trans named)
  · rfl
  · exact .inl ⟨rfl, rfl⟩

/-- A slot is given a free buffer. -/
theorem Buffered.link (inRange : index < tier.slotCount)
    (present : (tier.slots index).state = .present)
    (bufferInRange : buffer < tier.configuration.stagingBufferCount)
    (free : (tier.staging buffer).state = .free) {slot : Slot} {staging : Staging} (staged : slot.state = .filling)
    (stagingIndex : slot.stagingIndex = some buffer) (generation : staging.generation = slot.generation)
    (named : staging.slot = some index) (filling : staging.state = .filling) (held : staging.holder ≠ .none)
    (slots : ∀ other, after.slots other = if other = index then slot else tier.slots other)
    (stagings : ∀ other, after.staging other = if other = buffer then staging else tier.staging other)
    (sameCount : after.slotCount = tier.slotCount) (sameConfiguration : after.configuration = tier.configuration) :
    after.Buffered := by
  have isStaged := buffered.staged index
  rw [present] at isStaged
  have unstaged := Option.not_isSome_iff_eq_none.mp (Bool.eq_false_iff.mp isStaged)
  apply buffered.edit _ _ _ _ slots stagings sameCount sameConfiguration
  · intro place isPlace
    cases unstaged.symm.trans isPlace
  · intro other isOther
    rw [buffered.idle buffer free] at isOther
    cases isOther
  · rw [stagingIndex, staged]
    rfl
  · refine .inr ⟨⟨stagingIndex, named, ?_, held, ?_, ?_, generation⟩, inRange, bufferInRange⟩
    · rw [filling]
      exact nofun
    · rw [filling]
      exact nofun
    · rw [staged, filling]
      exact iff_of_false nofun nofun

/-- A slot and its buffer go on to another state together. -/
theorem Buffered.advance (back : (tier.slots index).stagingIndex = some buffer)
    {slotState : SlotState} {stagingState : StagingState} (staged : slotState.staged = true)
    (busy : stagingState ≠ .free) (agree : slotState = .ready ↔ stagingState = .ready)
    (cancelled : stagingState = .cancelPending → (tier.staging buffer).holder = .prefetch)
    (slots : ∀ other, after.slots other =
      if other = index then { tier.slots index with state := slotState } else tier.slots other)
    (stagings : ∀ other, after.staging other =
      if other = buffer then { tier.staging buffer with state := stagingState } else tier.staging other)
    (sameCount : after.slotCount = tier.slotCount) (sameConfiguration : after.configuration = tier.configuration) :
    after.Buffered := by
  have named : (tier.staging buffer).slot = some index := (buffered.paired index buffer).mp back
  have held := buffered.holder buffer (buffered.busy named)
  apply buffered.edit _ _ _ _ slots stagings sameCount sameConfiguration
  · exact fun place isPlace => Option.some.inj (isPlace.symm.trans back)
  · exact fun other isOther => Option.some.inj (isOther.symm.trans named)
  · dsimp only
    rw [back, staged]
    rfl
  · exact .inr ⟨⟨back, named, busy, held, cancelled, agree, (buffered.agree index buffer back).2⟩,
      buffered.inRange index buffer back⟩

end Buffered

section Queueing

/-- Nothing that the heap depends on has changed, or no slot gains from it. -/
structure SameQueue (before after : Tier) : Prop where
  entries : after.entries = before.entries
  slotCount : after.slotCount = before.slotCount
  queued : ∀ index, (after.slots index).queued = true → (before.slots index).queued = true ∧
    (after.slots index).state = (before.slots index).state ∧
    (after.slots index).generation = (before.slots index).generation
  prefetched : ∀ buffer index, (after.staging buffer).slot = some index → (after.staging buffer).holder = .prefetch →
    (before.staging buffer).slot = some index ∧ (before.staging buffer).holder = .prefetch

theorem SameQueue.queueing (same : SameQueue before after) (queueing : before.Queueing) : after.Queueing := by
  constructor
  · rw [same.entries]
    exact queueing.once
  · intro index queued
    obtain ⟨was, state, generation⟩ := same.queued index queued
    rw [same.entries, same.slotCount, state, generation]
    exact queueing.queued index was
  · intro buffer index named prefetch
    obtain ⟨wasNamed, wasPrefetch⟩ := same.prefetched buffer index named prefetch
    rw [same.entries]
    exact queueing.prefetched buffer index wasNamed wasPrefetch

/-- A slot without a queue mark does not lose one. -/
theorem Queueing.unqueued (queueing : tier.Queueing) (index : Nat) (away : (tier.slots index).state ≠ .present) :
    (tier.slots index).queued = false := by
  by_contra notFalse
  exact away (queueing.queued index (Bool.eq_true_of_not_eq_false notFalse)).2.1

/-- The entry that is found for a slot. -/
theorem pendingFind_some {entries : List PendingEntry} {position : Nat}
    (found : pendingFind entries index = some position) :
    ∃ entry, entries[position]? = some entry ∧ entry.slot = index := by
  obtain ⟨inRange, isSlot, -⟩ := List.findIdx?_eq_some_iff_getElem.mp found
  exact ⟨entries[position], List.getElem?_eq_getElem inRange, of_decide_eq_true isSlot⟩

theorem pendingFind_none {entries : List PendingEntry} (missing : pendingFind entries index = none) :
    ∀ entry ∈ entries, entry.slot ≠ index := by
  intro entry member same
  have away := List.findIdx?_eq_none_iff.mp missing entry member
  exact of_decide_eq_false away same

/-- An entry is taken out of the heap; its slot is not queued any more. -/
theorem Queueing.remove (queueing : before.Queueing) {entry : PendingEntry} {rest : List PendingEntry}
    (split : before.entries.Perm (entry :: rest)) (entries : after.entries = rest)
    (slotCount : after.slotCount = before.slotCount)
    (queued : ∀ index, (after.slots index).queued = true → (before.slots index).queued = true ∧
      index ≠ entry.slot ∧ (after.slots index).state = (before.slots index).state ∧
      (after.slots index).generation = (before.slots index).generation)
    (staging : after.staging = before.staging) : after.Queueing := by
  have inside : ∀ other ∈ rest, other ∈ before.entries :=
    fun other member => split.mem_iff.mpr (.tail _ member)
  constructor
  · rw [entries]
    have once := (split.map PendingEntry.slot).nodup_iff.mp queueing.once
    exact (List.nodup_cons.mp once).2
  · intro index isQueued
    obtain ⟨was, different, state, generation⟩ := queued index isQueued
    obtain ⟨inRange, present, other, member, isSlot, isGeneration⟩ := queueing.queued index was
    rw [entries, slotCount, state, generation]
    refine ⟨inRange, present, other, ?_, isSlot, isGeneration⟩
    rcases List.mem_cons.mp (split.mem_iff.mp member) with rfl | later
    · exact absurd isSlot.symm different
    · exact later
  · intro buffer index named prefetch
    rw [staging] at named prefetch
    rw [entries]
    exact fun other member => queueing.prefetched buffer index named prefetch other (inside other member)

/-- An entry gets an earlier step. -/
theorem Queueing.replace (queueing : before.Queueing) {entry earlier : PendingEntry} {rest : List PendingEntry}
    (split : before.entries.Perm (entry :: rest)) (entries : after.entries.Perm (earlier :: rest))
    (slot : earlier.slot = entry.slot) (generation : earlier.generation = entry.generation)
    (slotCount : after.slotCount = before.slotCount) (slots : after.slots = before.slots)
    (staging : after.staging = before.staging) : after.Queueing := by
  have slotsOf : (after.entries.map PendingEntry.slot).Perm (before.entries.map PendingEntry.slot) := by
    refine (entries.map _).trans ((split.map _).trans ?_).symm
    rw [List.map_cons, List.map_cons, slot]
  have known : ∀ other ∈ after.entries, ∃ was ∈ before.entries, was.slot = other.slot := by
    intro other member
    have inside := slotsOf.mem_iff.mp (List.mem_map_of_mem member)
    obtain ⟨was, isIn, same⟩ := List.mem_map.mp inside
    exact ⟨was, isIn, same⟩
  constructor
  · exact slotsOf.nodup_iff.mpr queueing.once
  · intro index isQueued
    rw [slots] at isQueued ⊢
    rw [slotCount]
    obtain ⟨inRange, present, other, member, isSlot, isGeneration⟩ := queueing.queued index isQueued
    refine ⟨inRange, present, ?_⟩
    rcases List.mem_cons.mp (split.mem_iff.mp member) with rfl | later
    · exact ⟨earlier, entries.mem_iff.mpr (.head _), slot.trans isSlot, generation.trans isGeneration⟩
    · exact ⟨other, entries.mem_iff.mpr (.tail _ later), isSlot, isGeneration⟩
  · intro buffer index named prefetch other member
    rw [staging] at named prefetch
    obtain ⟨was, inside, same⟩ := known other member
    rw [← same]
    exact queueing.prefetched buffer index named prefetch was inside

/-- A present slot gets an entry. -/
theorem Queueing.insert (queueing : before.Queueing) (buffered : before.Buffered)
    (inRange : index < before.slotCount) (present : (before.slots index).state = .present)
    (fresh : ∀ entry ∈ before.entries, entry.slot ≠ index) {entry : PendingEntry}
    (entries : after.entries.Perm (entry :: before.entries)) (slot : entry.slot = index)
    (generation : entry.generation = (before.slots index).generation)
    (slotCount : after.slotCount = before.slotCount)
    (slots : after.slots = update before.slots index { before.slots index with queued := true })
    (staging : after.staging = before.staging) : after.Queueing := by
  constructor
  · refine (entries.map PendingEntry.slot).nodup_iff.mpr (List.nodup_cons.mpr ⟨?_, queueing.once⟩)
    intro member
    obtain ⟨other, inside, same⟩ := List.mem_map.mp member
    exact fresh other inside (same.trans slot)
  · intro other isQueued
    rw [slots] at isQueued ⊢
    rw [slotCount]
    by_cases here : other = index
    · rw [here, update_self]
      exact ⟨inRange, present, entry, entries.mem_iff.mpr (.head _), slot, generation⟩
    · rw [update_of_ne here] at isQueued ⊢
      obtain ⟨otherInRange, isPresent, was, inside, isSlot, isGeneration⟩ := queueing.queued other isQueued
      exact ⟨otherInRange, isPresent, was, entries.mem_iff.mpr (.tail _ inside), isSlot, isGeneration⟩
  · intro buffer other named prefetch was member
    rw [staging] at named prefetch
    rcases List.mem_cons.mp (entries.mem_iff.mp member) with rfl | inside
    · rintro rfl
      obtain ⟨found, isFound, -, -, -, staged⟩ := buffered.named (buffered.busy named)
      cases named.symm.trans isFound
      rw [slot, present] at staged
      cases staged
    · exact queueing.prefetched buffer other named prefetch was inside

/-- A read starts for a slot that has no entry, if it is ahead of need. -/
theorem Queueing.issue (queueing : before.Queueing) {staging : Staging} (entries : after.entries = before.entries)
    (slotCount : after.slotCount = before.slotCount) (named : staging.slot = some index)
    (fresh : staging.holder = .prefetch → ∀ entry ∈ before.entries, entry.slot ≠ index)
    (queued : ∀ other, (after.slots other).queued = true → (before.slots other).queued = true ∧
      (after.slots other).state = (before.slots other).state ∧
      (after.slots other).generation = (before.slots other).generation)
    (stagings : ∀ other, after.staging other = if other = buffer then staging else before.staging other) :
    after.Queueing := by
  constructor
  · rw [entries]
    exact queueing.once
  · intro other isQueued
    obtain ⟨was, state, generation⟩ := queued other isQueued
    rw [entries, slotCount, state, generation]
    exact queueing.queued other was
  · intro place other isNamed prefetch
    rw [stagings] at isNamed prefetch
    rw [entries]
    split at isNamed
    · rename_i there
      rw [if_pos there] at prefetch
      cases named.symm.trans isNamed
      exact fresh prefetch
    · rename_i there
      rw [if_neg there] at prefetch
      exact queueing.prefetched place other isNamed prefetch

end Queueing

/-- A released buffer leaves the files and the heap as they are. -/
theorem Sound.release (sound : tier.Sound) (busy : (tier.staging buffer).state ≠ .free) :
    (tier.stagingRelease buffer).Sound := by
  obtain ⟨index, named, back, -, -, staged⟩ := sound.buffered.named busy
  have shape := sound.buffered.stagingRelease named
  have slots : ∀ other, (tier.stagingRelease buffer).slots other =
      if other = index then { tier.slots index with state := .present, stagingIndex := none } else tier.slots other := by
    intro other
    rw [shape]
    exact setSlot_apply ..
  have unqueued : (tier.slots index).queued = false := by
    refine sound.queueing.unqueued index fun present => ?_
    rw [present] at staged
    cases staged
  refine ⟨?_, sound.buffered.release named, ?_⟩
  · refine SameFiles.filing ⟨?_, ?_, ?_, ?_, ?_, fun other => ?_⟩ sound.filing
    · rw [shape]
      rfl
    · rw [shape]
      rfl
    · rw [shape]
      rfl
    · rw [shape]
      rfl
    · rw [shape]
      rfl
    · rw [slots]
      split
      · rename_i here
        rw [here]
        refine ⟨rfl, rfl, rfl, ?_, ?_⟩
        · revert staged
          cases (tier.slots index).state <;> simp [SlotState.staged, SlotState.linked]
        · revert staged
          cases (tier.slots index).state <;> simp [SlotState.staged]
      · exact ⟨rfl, rfl, rfl, rfl, Iff.rfl⟩
  · refine SameQueue.queueing ⟨?_, ?_, fun other queued => ?_, fun place other isNamed prefetch => ?_⟩ sound.queueing
    · rw [shape]
      rfl
    · rw [shape]
      rfl
    · rw [slots] at queued ⊢
      split at queued
      · rw [unqueued] at queued
        cases queued
      · rename_i here
        rw [if_neg here]
        exact ⟨queued, rfl, rfl⟩
    · rw [shape] at isNamed prefetch
      by_cases there : place = buffer
      · rw [there, setStaging_self] at isNamed
        cases isNamed
      · rw [setStaging_of_ne _ _ there] at isNamed prefetch
        exact ⟨isNamed, prefetch⟩

/-- A slot without a buffer is written, and with it at most the links of others. -/
theorem Sound.rewrite (sound : before.Sound) (filing : after.Filing)
    (configuration : after.configuration = before.configuration) (slotCount : after.slotCount = before.slotCount)
    (staging : after.staging = before.staging) (entries : after.entries = before.entries)
    (others : ∀ other, other ≠ index → ∃ link, after.slots other = { before.slots other with nextInBucket := link })
    (was : (before.slots index).stagingIndex = none) (unstaged : (after.slots index).stagingIndex = none)
    (state : (after.slots index).state.staged = false) (unqueued : (after.slots index).queued = false) :
    after.Sound := by
  refine ⟨filing, ?_, ?_⟩
  · refine SameBuffers.buffered ⟨configuration, slotCount, fun other => ?_, fun place => ?_⟩ sound.buffered
    · by_cases here : other = index
      · have staged := sound.buffered.staged index
        rw [was] at staged
        rw [here, unstaged, state, was]
        exact ⟨rfl, staged, nofun⟩
      · obtain ⟨link, same⟩ := others other here
        rw [same]
        exact ⟨rfl, rfl, fun _ => ⟨Iff.rfl, rfl⟩⟩
    · rw [staging]
      exact .inl rfl
  · refine SameQueue.queueing ⟨entries, slotCount, fun other queued => ?_, fun place other named prefetch => ?_⟩
      sound.queueing
    · by_cases here : other = index
      · rw [here, unqueued] at queued
        cases queued
      · obtain ⟨link, same⟩ := others other here
        rw [same] at queued ⊢
        exact ⟨queued, rfl, rfl⟩
    · rw [staging] at named prefetch
      exact ⟨named, prefetch⟩

/-- An emptied slot. -/
theorem Vacated.sound (vacated : Vacated before after index) (occupied : before.Occupied index)
    (unstaged : (before.slots index).stagingIndex = none) (sound : before.Sound) : after.Sound :=
  sound.rewrite (vacated.filing occupied sound.filing) vacated.configuration vacated.slotCount vacated.staging
    vacated.entries vacated.others unstaged vacated.unstaged (by rw [vacated.state]; rfl) vacated.unqueued

theorem Sound.unstaged (sound : tier.Sound) (index : Nat) (state : (tier.slots index).state.staged = false) :
    (tier.slots index).stagingIndex = none := by
  have staged := sound.buffered.staged index
  rw [state] at staged
  exact Option.not_isSome_iff_eq_none.mp (Bool.eq_false_iff.mp staged)

/-- Other marks on slots and buffers. -/
theorem Sound.marks (sound : before.Sound) (configuration : after.configuration = before.configuration)
    (slotCount : after.slotCount = before.slotCount) (buckets : after.buckets = before.buckets)
    (freeHead : after.freeHead = before.freeHead) (slotsInUse : after.slotsInUse = before.slotsInUse)
    (entries : after.entries = before.entries)
    (slots : ∀ index, ∃ referenced needByStep pinCount, after.slots index =
      { before.slots index with referenced := referenced, needByStep := needByStep, pinCount := pinCount })
    (staging : ∀ buffer, after.staging buffer = before.staging buffer ∨ (before.staging buffer).state ≠ .free ∧
      ∃ needByStep holder, after.staging buffer =
          { before.staging buffer with needByStep := needByStep, holder := holder } ∧
        (holder = (before.staging buffer).holder ∨
          holder = .demand ∧ (before.staging buffer).state ≠ .cancelPending)) : after.Sound := by
  refine ⟨?_, ?_, ?_⟩
  · refine SameFiles.filing ⟨configuration, slotCount, buckets, freeHead, slotsInUse, fun index => ?_⟩ sound.filing
    obtain ⟨referenced, needByStep, pinCount, same⟩ := slots index
    rw [same]
    exact ⟨rfl, rfl, rfl, rfl, Iff.rfl⟩
  · refine SameBuffers.buffered ⟨configuration, slotCount, fun index => ?_, fun buffer => ?_⟩ sound.buffered
    · obtain ⟨referenced, needByStep, pinCount, same⟩ := slots index
      rw [same]
      exact ⟨rfl, rfl, fun _ => ⟨Iff.rfl, rfl⟩⟩
    · rcases staging buffer with same | ⟨busy, needByStep, holder, same, kept | ⟨demand, notCancelled⟩⟩
      · exact .inl same
      · refine .inr ⟨busy, needByStep, holder, same, ?_, fun cancelled => ?_⟩
        · rw [kept]
          exact sound.buffered.holder buffer busy
        · rw [kept]
          exact sound.buffered.cancelled buffer cancelled
      · refine Or.inr ⟨busy, needByStep, holder, same, ?_, fun cancelled => absurd cancelled notCancelled⟩
        rw [demand]
        exact nofun
  · refine SameQueue.queueing ⟨entries, slotCount, fun index queued => ?_, fun buffer index named prefetch => ?_⟩
      sound.queueing
    · obtain ⟨referenced, needByStep, pinCount, same⟩ := slots index
      rw [same] at queued ⊢
      exact ⟨queued, rfl, rfl⟩
    · rcases staging buffer with same | ⟨-, needByStep, holder, same, kept | ⟨demand, -⟩⟩
      · rw [same] at named prefetch
        exact ⟨named, prefetch⟩
      · rw [same] at named prefetch
        rw [← kept]
        exact ⟨named, prefetch⟩
      · rw [same] at prefetch
        exact absurd (demand.symm.trans prefetch) nofun

end Tier

namespace World

variable {forsakes loses : Prop} {world before after : World} {index buffer position : Nat}

theorem leastStep (one other : UInt32) : min one other = if one ≤ other then one else other := rfl

/-- The heap after an entry has been found and given an earlier step. -/
theorem pendingTighten_split {entries : List PendingEntry}
    (found : pendingFind entries index = some position) (needByStep : UInt32) :
    ∃ entry rest, entry.slot = index ∧ entries.Perm (entry :: rest) ∧
      (pendingTighten entries position needByStep).Perm
        ({ entry with needByStep := min entry.needByStep needByStep } :: rest) := by
  obtain ⟨entry, isEntry, isSlot⟩ := Tier.pendingFind_some found
  have removed := Heap.removeAt_perm pendingLess isEntry
  refine ⟨entry, _, isSlot, removed, ?_⟩
  unfold pendingTighten
  rw [isEntry]
  dsimp only
  split
  · rename_i notLater
    rw [leastStep, if_pos notLater]
    exact removed
  · rename_i later
    rw [leastStep, if_neg later]
    have replaced := Heap.replaceAt_perm pendingLess isEntry { entry with needByStep := needByStep }
    exact (replaced.symm.trans (removed.cons _) |>.trans (List.Perm.swap _ _ _)).cons_inv

theorem popFree_some (head : world.tier.freeHead = some index) : world.popFree = (some index, world.withTier
    { world.tier.setSlot index { world.tier.slots index with nextFree := none } with
      freeHead := (world.tier.slots index).nextFree }) := by
  unfold popFree
  rw [head]

theorem landed_verified (verified : (world.tier.slots index).digest = Sha256.digest (world.contents buffer)) :
    ((world.ended buffer).landed buffer index).2 = (world.ended buffer).withTier
      ((world.tier.setStaging buffer { world.tier.staging buffer with state := .ready }).setSlot index
        { world.tier.slots index with state := .ready }) := by
  unfold landed
  split
  · rename_i differs
    exact absurd verified differs
  · rfl

section

variable (sound : world.tier.Sound)
include sound

/-- A slot off the free list is reserved. -/
theorem sound_reserve (head : world.tier.freeHead = some index) {contentHash : UInt64}
    {contentDigest : Digest} (named : contentHash ≠ 0)
    (fresh : ∀ other, world.tier.Occupied other → (world.tier.slots other).contentHash ≠ contentHash) :
    (world.popFree.2.beginWrite index contentHash contentDigest).tier.Sound := by
  have free := sound.filing.free
  rw [head] at free
  obtain ⟨inRange, empty⟩ := free.head_member
  have popped := congrArg (fun popped => popped.2.tier) (popFree_some head)
  dsimp only [withTier] at popped
  have unstaged := sound.unstaged index (by rw [empty]; rfl)
  obtain ⟨after, isAfter⟩ : ∃ after, after = (world.popFree.2.beginWrite index contentHash contentDigest).tier :=
    ⟨_, rfl⟩
  rw [← isAfter]
  have here : after.slots index =
      { world.popFree.2.tier.slots index with
        generation := Tier.nextGeneration (world.popFree.2.tier.slots index).generation
        contentHash := contentHash
        digest := contentDigest
        state := .writing
        referenced := true
        pinCount := 0
        queued := false
        needByStep := 0xffffffff
        stagingIndex := none
        nextInBucket := none } := isAfter ▸ Tier.setSlot_self ..
  have others : ∀ other, other ≠ index → after.slots other = world.tier.slots other := by
    intro other different
    rw [isAfter]
    refine (Tier.setSlot_of_ne _ _ different).trans ?_
    rw [popped]
    exact Tier.setSlot_of_ne _ _ different
  have kept : after.configuration = world.tier.configuration ∧ after.slotCount = world.tier.slotCount ∧
      after.buckets = world.tier.buckets ∧ after.freeHead = (world.tier.slots index).nextFree ∧
      after.slotsInUse = world.tier.slotsInUse + 1 ∧ after.staging = world.tier.staging ∧
      after.entries = world.tier.entries := by
    rw [isAfter]
    unfold beginWrite withTier Tier.setSlot
    rw [popped]
    exact ⟨rfl, rfl, rfl, rfl, rfl, rfl, rfl⟩
  obtain ⟨configuration, slotCount, buckets, freeHead, slotsInUse, staging, entries⟩ := kept
  refine sound.rewrite (sound.filing.fill head named fresh configuration slotCount buckets freeHead slotsInUse others
    (by rw [here]) (by rw [here])) configuration slotCount staging entries
    (fun other different => ⟨_, others other different⟩)
    unstaged ?_ ?_ ?_
  all_goals rw [here]
  rfl

/-- A slot that has been written is on the drive. -/
theorem sound_commit (inRange : index < world.tier.slotCount)
    (writing : (world.tier.slots index).state = .writing) :
    ((world.tier.setSlot index { world.tier.slots index with state := .present }).bucketInsert index).Sound := by
  have unstaged := sound.unstaged index (by rw [writing]; rfl)
  have unqueued := sound.queueing.unqueued index (by simp [writing])
  obtain ⟨after, isAfter⟩ : ∃ after, after =
    (world.tier.setSlot index { world.tier.slots index with state := .present }).bucketInsert index := ⟨_, rfl⟩
  rw [← isAfter]
  have here := Tier.committed_self isAfter
  refine sound.rewrite (sound.filing.commit isAfter inRange writing) (isAfter ▸ rfl) (isAfter ▸ rfl) (isAfter ▸ rfl)
    (isAfter ▸ rfl) (fun other different => ⟨_, Tier.committed_of_ne isAfter different⟩) unstaged ?_ ?_ ?_
  all_goals rw [here]
  · exact unstaged
  · rfl
  · exact unqueued

/-- A read starts. -/
theorem sound_issue {holder : Holder} {needByStep : UInt32} {ticket : UInt64}
    (inRange : index < world.tier.slotCount) (present : (world.tier.slots index).state = .present)
    (unqueued : (world.tier.slots index).queued = false)
    (bufferInRange : buffer < world.tier.configuration.stagingBufferCount)
    (free : (world.tier.staging buffer).state = .free) (held : holder ≠ .none)
    (fresh : holder = .prefetch → ∀ entry ∈ world.tier.entries, entry.slot ≠ index) :
    (world.issueRead index buffer holder needByStep (.ok, ticket)).2.tier.Sound := by
  have slots : ∀ other, (world.issueRead index buffer holder needByStep (.ok, ticket)).2.tier.slots other =
      if other = index then { world.tier.slots index with state := .filling, stagingIndex := some buffer }
      else world.tier.slots other := Tier.setSlot_apply _ _ _
  have stagings : ∀ other, (world.issueRead index buffer holder needByStep (.ok, ticket)).2.tier.staging other =
      if other = buffer then
        { ticket := ticket
          slot := some index
          generation := (world.tier.slots index).generation
          needByStep := needByStep
          state := .filling
          holder := holder }
      else world.tier.staging other := Tier.setStaging_apply _ _ _
  refine ⟨?_, ?_, ?_⟩
  · refine @Tier.SameFiles.filing world.tier _ ⟨rfl, rfl, rfl, rfl, rfl, fun other => ?_⟩ sound.filing
    rw [slots]
    split
    · rename_i here
      rw [here, present]
      exact ⟨rfl, rfl, rfl, rfl, iff_of_false nofun nofun⟩
    · exact ⟨rfl, rfl, rfl, rfl, Iff.rfl⟩
  · exact sound.buffered.link inRange present bufferInRange free rfl rfl rfl rfl rfl held slots stagings rfl rfl
  · refine sound.queueing.issue rfl rfl rfl fresh (fun other queued => ?_) stagings
    rw [slots] at queued ⊢
    split at queued
    · rw [unqueued] at queued
      cases queued
    · rename_i here
      rw [if_neg here]
      exact ⟨queued, rfl, rfl⟩

/-- A slot and its buffer go on together. -/
theorem sound_advance {tier : Tier} (slotState : SlotState)
    (stagingState : StagingState) (back : (world.tier.slots index).stagingIndex = some buffer)
    (staged : slotState.staged = true)
    (busy : stagingState ≠ .free) (agree : slotState = .ready ↔ stagingState = .ready)
    (cancelled : stagingState = .cancelPending → (world.tier.staging buffer).holder = .prefetch)
    (isTier : tier = (world.tier.setStaging buffer { world.tier.staging buffer with state := stagingState }).setSlot
      index { world.tier.slots index with state := slotState }) : tier.Sound := by
  have slots : ∀ other, tier.slots other =
      if other = index then { world.tier.slots index with state := slotState } else world.tier.slots other := by
    intro other
    rw [isTier]
    exact Tier.setSlot_apply ..
  have stagings : ∀ other, tier.staging other =
      if other = buffer then { world.tier.staging buffer with state := stagingState }
      else world.tier.staging other := by
    intro other
    rw [isTier]
    exact Tier.setStaging_apply ..
  have was := sound.buffered.staged index
  rw [back] at was
  have unqueued := sound.queueing.unqueued index (by
    intro present
    rw [present] at was
    cases was)
  subst isTier
  refine ⟨?_, sound.buffered.advance back staged busy agree cancelled slots stagings rfl rfl, ?_⟩
  · refine @Tier.SameFiles.filing world.tier _ ⟨rfl, rfl, rfl, rfl, rfl, fun other => ?_⟩ sound.filing
    rw [slots]
    split
    · rename_i here
      rw [here]
      refine ⟨rfl, rfl, rfl, ?_, ?_⟩
      · revert was staged
        cases (world.tier.slots index).state <;> cases slotState <;> simp [SlotState.staged, SlotState.linked]
      · revert was staged
        cases (world.tier.slots index).state <;> cases slotState <;> simp [SlotState.staged]
    · exact ⟨rfl, rfl, rfl, rfl, Iff.rfl⟩
  · refine @Tier.SameQueue.queueing world.tier _ ⟨rfl, rfl, fun other queued => ?_, fun place other isNamed prefetch => ?_⟩
      sound.queueing
    · rw [slots] at queued ⊢
      split at queued
      · rw [unqueued] at queued
        cases queued
      · rename_i here
        rw [if_neg here]
        exact ⟨queued, rfl, rfl⟩
    · rw [stagings] at isNamed prefetch
      split at isNamed
      · rename_i there
        rw [if_pos there] at prefetch
        rw [there]
        exact ⟨isNamed, prefetch⟩
      · rename_i there
        rw [if_neg there] at prefetch
        exact ⟨isNamed, prefetch⟩

/-- Only the heap has changed, and the marks of which slots are queued. -/
theorem sound_heap {tier : Tier} (configuration : tier.configuration = world.tier.configuration)
    (slotCount : tier.slotCount = world.tier.slotCount) (buckets : tier.buckets = world.tier.buckets)
    (freeHead : tier.freeHead = world.tier.freeHead) (slotsInUse : tier.slotsInUse = world.tier.slotsInUse)
    (staging : tier.staging = world.tier.staging)
    (slots : ∀ index, ∃ queued, tier.slots index = { world.tier.slots index with queued := queued })
    (queueing : tier.Queueing) : tier.Sound := by
  refine ⟨?_, ?_, queueing⟩
  · refine @Tier.SameFiles.filing world.tier _ ⟨configuration, slotCount, buckets, freeHead,
      slotsInUse, fun index => ?_⟩ sound.filing
    obtain ⟨queued, same⟩ := slots index
    rw [same]
    exact ⟨rfl, rfl, rfl, rfl, Iff.rfl⟩
  · refine @Tier.SameBuffers.buffered world.tier _ ⟨configuration, slotCount, fun index => ?_,
      fun buffer => ?_⟩ sound.buffered
    · obtain ⟨queued, same⟩ := slots index
      rw [same]
      exact ⟨rfl, rfl, fun _ => ⟨Iff.rfl, rfl⟩⟩
    · rw [staging]
      exact .inl rfl

end

/-- A mark on one slot. -/
theorem setSlot_marks (tier : Tier) (index : Nat) (queued : Bool) (other : Nat) :
    ∃ mark, (tier.setSlot index { tier.slots index with queued := queued }).slots other =
      { tier.slots other with queued := mark } := by
  by_cases here : other = index
  · rw [here, Tier.setSlot_self]
    exact ⟨queued, rfl⟩
  · rw [Tier.setSlot_of_ne _ _ here]
    exact ⟨_, rfl⟩

/-- A slot is taken out of the heap, if it is there. -/
theorem sound_dequeue (sound : world.tier.Sound) : (world.dequeue index).tier.Sound := by
  unfold dequeue
  dsimp only
  split
  · rename_i queued
    obtain ⟨inRange, present, entry, member, isSlot, -⟩ := sound.queueing.queued index queued
    cases found : pendingFind world.tier.entries index with
    | none => exact absurd isSlot (Tier.pendingFind_none found entry member)
    | some position =>
      obtain ⟨removed, isRemoved, removedSlot⟩ := Tier.pendingFind_some found
      refine sound_heap sound rfl rfl rfl rfl rfl rfl (setSlot_marks world.tier index false) ?_
      refine sound.queueing.remove (Heap.removeAt_perm pendingLess isRemoved) rfl rfl
        (fun other isQueued => ?_) rfl
      change ((world.tier.setSlot index _).slots other).queued = true at isQueued
      change _ ∧ _ ∧ ((world.tier.setSlot index _).slots other).state = _ ∧
        ((world.tier.setSlot index _).slots other).generation = _
      rw [Tier.setSlot_apply] at isQueued ⊢
      split at isQueued
      · cases isQueued
      · rename_i here
        rw [if_neg here]
        exact ⟨isQueued, fun equal => here (equal.trans removedSlot), rfl, rfl⟩
  · exact sound

/-- An entry is found and gets an earlier step. -/
theorem sound_tighten (sound : world.tier.Sound) {needByStep : UInt32}
    (found : pendingFind world.tier.entries index = some position) :
    (world.tighten position index needByStep).tier.Sound := by
  obtain ⟨entry, rest, -, split, replaced⟩ := pendingTighten_split found needByStep
  exact sound_heap sound rfl rfl rfl rfl rfl rfl (fun other => ⟨_, rfl⟩)
    (sound.queueing.replace split replaced rfl rfl rfl rfl rfl)

/-- Each change keeps the tier sound. -/
theorem edit_sound (edit : Edit forsakes loses before after) (sound : before.tier.Sound) :
    after.tier.Sound := by
  cases edit with
  | touch touched =>
    refine sound.marks touched.configuration touched.slotCount touched.buckets touched.freeHead touched.slotsInUse
      touched.entries touched.slots fun buffer => ?_
    rcases touched.staging buffer with same | ⟨busy, needByStep, same⟩
    · exact .inl same
    · exact .inr ⟨busy, needByStep, _, same, .inl rfl⟩
  | @join buffer busy =>
    refine sound.marks rfl rfl rfl rfl rfl rfl (fun index => ⟨_, _, _, rfl⟩) fun other => ?_
    by_cases here : other = buffer
    · rw [here]
      refine .inr ⟨?_, _, .demand, Tier.setStaging_self .., .inr ⟨rfl, ?_⟩⟩
      · rcases busy with state | state <;> rw [state] <;> exact nofun
      · rcases busy with state | state <;> rw [state] <;> exact nofun
    · exact .inl (Tier.setStaging_of_ne _ _ here)
  | hand _ _ _ => exact sound
  | reserve head named fresh => exact sound_reserve sound head named fresh
  | commit inRange writing => exact sound_commit sound inRange writing
  | @abort index inRange writing =>
    have unqueued := sound.queueing.unqueued index (by simp [writing])
    have unstaged := sound.unstaged index (by rw [writing]; rfl)
    exact (sound.filing.releaseReservedSlot writing unqueued).sound
      ⟨inRange, by simp [writing]⟩ unstaged sound
  | @evict index inRange present =>
    have linked : before.tier.Linked index := ⟨inRange, by rw [present]; rfl⟩
    have unstaged := sound.unstaged index (by rw [present]; rfl)
    exact (sound.filing.evictSlot linked unstaged).sound linked.occupied unstaged sound
  | @quarantine index inRange present =>
    have linked : before.tier.Linked index := ⟨inRange, by rw [present]; rfl⟩
    have unstaged := sound.unstaged index (by rw [present]; rfl)
    exact (sound.filing.quarantineSlot linked).sound linked.occupied unstaged sound
  | drop ready _ | consume ready => exact sound.release (by simp [ready])
  | finish busy =>
    refine sound.release ?_
    rcases busy with state | state <;> rw [state] <;> exact nofun
  | forsake _ filling => exact sound.release (by simp [filling])
  | @cancel buffer filling prefetch =>
    have busy : (before.tier.staging buffer).state ≠ .free := by
      rw [filling]
      exact nofun
    obtain ⟨index, named, back, -, -, staged⟩ := sound.buffered.named busy
    have agree := (sound.buffered.agree index buffer back).1
    rw [filling] at agree
    refine sound_advance sound _ .cancelPending back staged nofun
      (iff_of_false (fun ready => StagingState.noConfusion (agree.mp ready)) nofun)
      (fun _ => prefetch) ?_
    unfold cancelPending withTier Tier.setSlot
    dsimp only [Tier.setStaging]
    rw [update_eq_self]
  | issue inRange present unqueued bufferInRange free held fresh =>
    exact sound_issue sound inRange present unqueued bufferInRange free held fresh
  | @land index buffer filling named verified =>
    have back : (before.tier.slots index).stagingIndex = some buffer := (sound.buffered.paired index buffer).mpr named
    refine sound_advance sound .ready .ready back rfl nofun
      (iff_of_true rfl rfl) nofun ?_
    rw [landed_verified verified]
    rfl
  | @enqueue index needByStep inRange present unqueued fresh =>
    refine sound_heap sound rfl rfl rfl rfl rfl rfl (setSlot_marks before.tier index true) ?_
    exact sound.queueing.insert sound.buffered inRange present fresh (Heap.insert_perm _ _) rfl rfl rfl rfl rfl
  | tighten found _ => exact sound_tighten sound found
  | absorb _ found _ => exact sound_tighten sound found
  | dequeue => exact sound_dequeue sound
  | forget _ _ _ => exact sound
  | lose _ => exact sound
  | @discard head rest entries unqueued =>
    have isHead : before.tier.entries[0]? = some head := by
      rw [entries]
      rfl
    have removed := Heap.removeAt_perm pendingLess isHead
    refine sound_heap sound rfl rfl rfl rfl rfl rfl (fun other => ⟨_, rfl⟩) ?_
    refine sound.queueing.remove removed rfl rfl (fun other queued => ⟨queued, ?_, rfl, rfl⟩) rfl
    rintro rfl
    exact Bool.noConfusion (unqueued.symm.trans queued)
  | deviceWrite _ => exact sound

end World

end Sparkpipe.NvmeTier
