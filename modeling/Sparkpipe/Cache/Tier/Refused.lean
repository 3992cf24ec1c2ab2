import Sparkpipe.Cache.Tier.Reads

/-!
# Demands that are refused

A demand may find no buffer, or the device may refuse its read. What it has done to the queue and
to the buffers until then is not undone.
-/

namespace Sparkpipe.NvmeTier

variable {world before middle after : World} {index buffer : Nat} {replies : Replies} {deadlineStep : UInt32}

/-- What an entry of the heap asks for. -/
def PendingEntry.need (entry : PendingEntry) : Nat × UInt32 × UInt32 := (entry.slot, entry.generation, entry.needByStep)

/-- The queue holds the same needs, the same slots are marked as queued, the buffers are for the same
slots, and the pins are the same. -/
structure Unchanged (before after : Tier) : Prop where
  entries : (after.entries.map PendingEntry.need).Perm (before.entries.map PendingEntry.need)
  queued : ∀ index, (after.slots index).queued = (before.slots index).queued
  owners : ∀ buffer, ((after.staging buffer).state = .free ↔ (before.staging buffer).state = .free) ∧
    (after.staging buffer).slot = (before.staging buffer).slot ∧
    (after.staging buffer).generation = (before.staging buffer).generation ∧
    (after.staging buffer).holder = (before.staging buffer).holder
  pins : ∀ index, (after.slots index).pinCount = (before.slots index).pinCount

theorem Unchanged.refl (tier : Tier) : Unchanged tier tier :=
  ⟨List.Perm.refl _, fun _ => rfl, fun _ => ⟨Iff.rfl, rfl, rfl, rfl⟩, fun _ => rfl⟩

theorem Unchanged.symm {before after : Tier} (same : Unchanged before after) : Unchanged after before := by
  constructor
  · exact same.entries.symm
  · exact fun index => (same.queued index).symm
  · intro buffer
    obtain ⟨free, slot, generation, holder⟩ := same.owners buffer
    exact ⟨free.symm, slot.symm, generation.symm, holder.symm⟩
  · exact fun index => (same.pins index).symm

theorem Unchanged.trans {before middle after : Tier} (first : Unchanged before middle) (second : Unchanged middle after) :
    Unchanged before after := by
  constructor
  · exact second.entries.trans first.entries
  · exact fun index => (second.queued index).trans (first.queued index)
  · intro buffer
    obtain ⟨free, slot, generation, holder⟩ := first.owners buffer
    obtain ⟨stillFree, stillSlot, stillGeneration, stillHolder⟩ := second.owners buffer
    exact ⟨stillFree.trans free, stillSlot.trans slot, stillGeneration.trans generation, stillHolder.trans holder⟩
  · exact fun index => (second.pins index).trans (first.pins index)

theorem Unchanged.setSlot (tier : Tier) (index : Nat) (slot : Slot) (queued : slot.queued = (tier.slots index).queued)
    (pins : slot.pinCount = (tier.slots index).pinCount) : Unchanged tier (tier.setSlot index slot) := by
  refine ⟨List.Perm.refl _, fun other => ?_, fun _ => ⟨Iff.rfl, rfl, rfl, rfl⟩, fun other => ?_⟩ <;>
    by_cases same : other = index
  · rw [same, Tier.setSlot_self, queued]
  · rw [Tier.setSlot_of_ne _ _ same]
  · rw [same, Tier.setSlot_self, pins]
  · rw [Tier.setSlot_of_ne _ _ same]

/-- The step that a read is for is no part of whose the buffer is. -/
theorem Unchanged.setStaging (tier : Tier) (buffer : Nat) (needByStep : UInt32) :
    Unchanged tier (tier.setStaging buffer { tier.staging buffer with needByStep := needByStep }) := by
  refine ⟨List.Perm.refl _, fun _ => rfl, fun other => ?_, fun _ => rfl⟩
  by_cases there : other = buffer
  · rw [there, Tier.setStaging_self]
    exact ⟨Iff.rfl, rfl, rfl, rfl⟩
  · rw [Tier.setStaging_of_ne _ _ there]
    exact ⟨Iff.rfl, rfl, rfl, rfl⟩

namespace World

/-- A demand that is refused leaves the queue and the buffers alone: its block is not only on the
drive; or there is a free buffer for it, and the block is not queued; or there is no buffer for
it, and the block is not queued or, for a demand with a deadline, waits for an earlier step or
cannot be queued. -/
def Undisturbed (world : World) (replies : Replies) (index : Nat) (deadlineStep : UInt32) : Prop :=
  (world.tier.slots index).state = .present →
    if world.tier.freeBuffer.isSome then (world.tier.slots index).queued = false
    else world.Starved replies ∧
      if deadlineStep = 0 then (world.tier.slots index).queued = false
      else
        match pendingFind world.tier.entries index with
        | none => world.tier.configuration.pendingCapacity ≤ world.tier.entries.length
        | some position => ∀ entry, world.tier.entries[position]? = some entry → entry.needByStep ≤ deadlineStep

section Acquire

/-- Nothing has changed but reads that are to be cancelled. -/
structure OnlyCancelled (before after : Tier) : Prop where
  configuration : after.configuration = before.configuration
  slots : after.slots = before.slots
  entries : after.entries = before.entries
  owners : ∀ buffer, ((after.staging buffer).state = .free ↔ (before.staging buffer).state = .free) ∧
    (after.staging buffer).slot = (before.staging buffer).slot ∧
    (after.staging buffer).generation = (before.staging buffer).generation ∧
    (after.staging buffer).holder = (before.staging buffer).holder

theorem OnlyCancelled.refl (tier : Tier) : OnlyCancelled tier tier :=
  ⟨rfl, rfl, rfl, fun _ => ⟨Iff.rfl, rfl, rfl, rfl⟩⟩

theorem OnlyCancelled.unchanged {before after : Tier} (only : OnlyCancelled before after) : Unchanged before after := by
  constructor
  · rw [only.entries]
  · intro index
    rw [only.slots]
  · exact only.owners
  · intro index
    rw [only.slots]

/-- The cancellations that give no buffer. -/
theorem cancelPrefetch_none (attempts : Nat) (world : World) (none : (cancelPrefetch replies attempts world).1 = none) :
    OnlyCancelled world.tier (cancelPrefetch replies attempts world).2.tier := by
  induction attempts generalizing world with
  | zero => exact OnlyCancelled.refl _
  | succ attempts ih =>
    obtain ⟨found, -⟩ := @latest_spec world.tier world.tier.buffers .none world.tier.latestPrefetch rfl
    unfold cancelPrefetch at none ⊢
    split
    · exact OnlyCancelled.refl _
    rename_i buffer isLatest
    rw [isLatest] at none
    dsimp only at none
    split
    · rename_i cancelled
      rw [if_pos cancelled] at none
      cases none
    rename_i failed
    rw [if_neg failed] at none
    split
    · rename_i waits
      rw [if_pos waits] at none
      obtain ⟨-, preemptible⟩ := (found buffer isLatest).resolve_left nofun
      have filling := (preemptible_named preemptible).1
      obtain ⟨configuration, slots, entries, owners⟩ := ih (world.cancelPending buffer) none
      refine ⟨configuration, slots, entries, ?_⟩
      intro other
      obtain ⟨free, slot, generation, holder⟩ := owners other
      by_cases here : other = buffer
      · subst here
        have pending : (world.cancelPending other).tier.staging other =
            { world.tier.staging other with state := .cancelPending } := Tier.setStaging_self ..
        rw [pending] at free slot generation holder
        refine ⟨free.trans ?_, slot, generation, holder⟩
        rw [filling]
        exact ⟨nofun, nofun⟩
      · have same : (world.cancelPending buffer).tier.staging other = world.tier.staging other :=
          Tier.setStaging_of_ne _ _ here
        rw [same] at free slot generation holder
        exact ⟨free, slot, generation, holder⟩
    · rename_i refused
      rw [if_neg refused] at none
      cases none

/-- Where each read ahead of need goes on for now, the cancellations give no buffer. -/
theorem cancelPrefetch_waits (attempts : Nat) (world : World)
    (waits : ∀ asked < tally world.tier.configuration.stagingBufferCount (world.tier.preemptible .filling),
      asked < attempts → replies.cancel (attempts - 1 - asked) = .busy ∨ replies.cancel (attempts - 1 - asked) = .pending) :
    (cancelPrefetch replies attempts world).1 = none := by
  induction attempts generalizing world with
  | zero => rfl
  | succ attempts ih =>
    obtain ⟨found, -⟩ := @latest_spec world.tier world.tier.buffers .none world.tier.latestPrefetch rfl
    unfold cancelPrefetch
    split
    · rfl
    rename_i buffer isLatest
    obtain ⟨member, preemptible⟩ := (found buffer isLatest).resolve_left nofun
    have fewer := tally_cancelPending (List.mem_range.mp member) preemptible
    have now : replies.cancel attempts = .busy ∨ replies.cancel attempts = .pending :=
      waits 0 (by omega) (Nat.succ_pos _)
    have notDone : replies.cancel attempts ≠ .ok := by
      intro done
      rw [done] at now
      rcases now with busy | pending
      · cases busy
      · cases pending
    rw [if_neg notDone, if_pos now]
    apply ih
    intro asked below inside
    replace below : asked < tally world.tier.configuration.stagingBufferCount
      ((world.cancelPending buffer).tier.preemptible .filling) := below
    have later := waits (asked + 1) (by omega) (by omega)
    have same : attempts + 1 - 1 - (asked + 1) = attempts - 1 - asked := by omega
    rw [same] at later
    exact later

/-- A demand finds no buffer exactly where there is none for it. -/
theorem acquire_none_iff (replies : Replies) (sound : world.tier.Sound) :
    (world.stagingAcquireForDemand replies).1 = none ↔ world.Starved replies := by
  constructor
  · exact (stagingAcquireForDemand_edits True replies sound).2.2
  · rintro ⟨noneFree, noneReady, waits⟩
    unfold stagingAcquireForDemand
    rw [noneFree]
    dsimp only
    rw [noneReady]
    dsimp only
    split
    · rename_i cancels
      exact cancelPrefetch_waits _ world fun asked below _ => waits cancels asked below
    · rfl

theorem acquire_onlyCancelled (none : (world.stagingAcquireForDemand replies).1 = none) :
    OnlyCancelled world.tier (world.stagingAcquireForDemand replies).2.tier := by
  unfold stagingAcquireForDemand at none ⊢
  split
  · exact OnlyCancelled.refl _
  rename_i noneFree
  rw [noneFree] at none
  dsimp only at none
  split
  · rename_i buffer isReady
    rw [isReady] at none
    cases none
  rename_i noneReady
  rw [noneReady] at none
  dsimp only at none
  split
  · rename_i cancels
    rw [if_pos cancels] at none
    exact cancelPrefetch_none _ world none
  · exact OnlyCancelled.refl _

theorem preempt_configuration (world : World) (buffer : Nat) :
    (world.preempt buffer).tier.configuration = world.tier.configuration := by
  have released : (world.tier.stagingRelease buffer).configuration = world.tier.configuration := by
    unfold Tier.stagingRelease
    dsimp only
    split
    · rfl
    · split <;> rfl
  unfold preempt
  split
  · exact released
  · unfold prefetchRequeue
    split <;> exact released

theorem acquire_configuration (replies : Replies) (world : World) :
    (world.stagingAcquireForDemand replies).2.tier.configuration = world.tier.configuration := by
  have cancels : ∀ attempts (world : World),
      (cancelPrefetch replies attempts world).2.tier.configuration = world.tier.configuration := by
    intro attempts
    induction attempts with
    | zero => exact fun _ => rfl
    | succ attempts ih =>
      intro world
      unfold cancelPrefetch
      split
      · rfl
      · split
        · exact preempt_configuration (world.ended _) _
        · split
          · exact ih (world.cancelPending _)
          · exact preempt_configuration world _
  unfold stagingAcquireForDemand
  split
  · rfl
  · split
    · exact preempt_configuration world _
    · split
      · exact cancels _ world
      · rfl

/-- A buffer that was taken from a prefetch is free now and was not. -/
theorem preempt_changes (sound : world.tier.Sound) (noneFree : world.tier.freeBuffer = none)
    (found : (world.stagingAcquireForDemand replies).1 = some buffer) :
    (world.tier.staging buffer).state ≠ .free ∧
      ((world.stagingAcquireForDemand replies).2.tier.staging buffer).state = .free := by
  have acquired := (stagingAcquireForDemand_edits True replies sound).2.1
  obtain ⟨inRange, free⟩ := acquired.free buffer found
  refine ⟨?_, free⟩
  intro wasFree
  rw [acquire_configuration] at inRange
  exact List.find?_eq_none.mp noneFree buffer (List.mem_range.mpr inRange) (decide_eq_true wasFree)

end Acquire

section Demand

/-- Taking a slot out of the heap leaves the queue alone exactly when it is not in it. -/
theorem dequeue_unchanged_iff (world : World) (index : Nat) :
    Unchanged world.tier (world.dequeue index).tier ↔ (world.tier.slots index).queued = false := by
  constructor
  · intro same
    have queued := same.queued index
    rw [(dequeue_spec world index).1, Function.update_self] at queued
    exact queued.symm
  · intro unqueued
    have nothing : world.dequeue index = world := by
      rw [dequeue, unqueued]
      rfl
    rw [nothing]
    exact Unchanged.refl _

/-- A refused submission leaves a free buffer as it is. -/
theorem issueRead_refused (sound : world.tier.Sound) (free : (world.tier.staging buffer).state = .free) {holder : Holder}
    {needByStep : UInt32} {reply : SparkStatus × UInt64}
    (refused : (world.issueRead index buffer holder needByStep reply).1 ≠ .ok) :
    (world.issueRead index buffer holder needByStep reply).2.tier = world.tier := by
  unfold issueRead at refused ⊢
  dsimp only at refused ⊢
  split
  · exact sound.buffered.stagingRelease_free free
  · rename_i submitted
    rw [if_neg submitted] at refused
    exact absurd rfl refused

/-- Whether a demand finds a buffer does not depend on the queue. -/
theorem starved_dequeue (world : World) (index : Nat) :
    (world.dequeue index).Starved replies ↔ world.Starved replies := by
  obtain ⟨slots, configuration, cancels, slotCount, staging⟩ := dequeue_spec world index
  have pins : ∀ other, ((world.dequeue index).tier.slots other).pinCount = (world.tier.slots other).pinCount := by
    intro other
    rw [slots]
    exact update_field Slot.pinCount (by rfl) other
  constructor
  · exact fun starved => starved.congr configuration cancels slotCount staging pins
  · exact fun starved => starved.congr configuration.symm cancels.symm slotCount.symm staging.symm
      fun other => (pins other).symm

theorem freeBuffer_dequeue (world : World) (index : Nat) :
    (world.dequeue index).tier.freeBuffer = world.tier.freeBuffer := by
  obtain ⟨-, configuration, -, -, staging⟩ := dequeue_spec world index
  rw [Tier.freeBuffer, Tier.freeBuffer, Tier.buffers, Tier.buffers, configuration, staging]

/-- Tightening leaves the needs alone exactly when the entry is for no later step. -/
theorem pendingTighten_needs (deadlineStep : UInt32) {entries : List PendingEntry} {position : Nat} {entry : PendingEntry}
    (found : entries[position]? = some entry) :
    ((pendingTighten entries position deadlineStep).map PendingEntry.need).Perm (entries.map PendingEntry.need) ↔
      entry.needByStep ≤ deadlineStep := by
  unfold pendingTighten
  rw [found]
  dsimp only
  split
  · rename_i sooner
    exact ⟨fun _ => sooner, fun _ => List.Perm.refl _⟩
  · rename_i later
    constructor
    · intro same
      -- the two lists differ in one need, so that need is the same
      have replaced := (Heap.replaceAt_perm pendingLess found
          { entry with needByStep := deadlineStep }).map PendingEntry.need
      rw [List.map_cons, List.map_cons] at replaced
      have both := replaced.trans (same.cons entry.need)
      have needs : PendingEntry.need { entry with needByStep := deadlineStep } = entry.need := by
        have counts := both.count_eq (PendingEntry.need { entry with needByStep := deadlineStep })
        by_contra differs
        rw [List.count_cons_self, List.count_cons_of_ne (Ne.symm differs)] at counts
        omega
      have steps : deadlineStep = entry.needByStep := congrArg (fun need => need.2.2) needs
      rw [steps]
      exact UInt32.le_refl _
    · intro sooner
      exact absurd sooner later

/-- What a buffer that was taken from a prefetch shows. -/
theorem changed_of_preempted (sound : world.tier.Sound) (noneFree : world.tier.freeBuffer = none)
    (found : (world.stagingAcquireForDemand replies).1 = some buffer) {after : Tier}
    (staging : after.staging = (world.stagingAcquireForDemand replies).2.tier.staging) : ¬ Unchanged world.tier after := by
  intro same
  obtain ⟨busy, free⟩ := preempt_changes sound noneFree found
  rw [← staging] at free
  exact busy ((same.owners buffer).1.mp free)

/-- A refused demand without a deadline. -/
theorem demandNow_unchanged_iff (sound : world.tier.Sound) (present : (world.tier.slots index).state = .present)
    {stepNow : UInt32} (refused : (world.demandNow replies index stepNow).1.1 ≠ .ok) :
    Unchanged world.tier (world.demandNow replies index stepNow).2.tier ↔ world.Undisturbed replies index 0 := by
  have dequeues : Edits True True world (world.dequeue index) := Edits.one .dequeue
  have dequeuedSound := dequeues.sound sound
  obtain ⟨edits, acquired, -⟩ := stagingAcquireForDemand_edits True replies dequeuedSound
  have starvedIff := acquire_none_iff replies dequeuedSound
  rw [starved_dequeue] at starvedIff
  have decided : world.Undisturbed replies index 0 ↔
      if world.tier.freeBuffer.isSome then (world.tier.slots index).queued = false
      else world.Starved replies ∧ (world.tier.slots index).queued = false := by
    constructor
    · exact fun undisturbed => undisturbed present
    · exact fun undisturbed _ => undisturbed
  rw [decided]
  unfold demandNow at refused ⊢
  dsimp only at refused ⊢
  set result := (world.dequeue index).stagingAcquireForDemand replies with isResult
  cases found : result.1 with
  | none =>
    have starved := starvedIff.mp found
    have tier : Unchanged (world.dequeue index).tier result.2.tier := (acquire_onlyCancelled found).unchanged
    rw [starved.1]
    dsimp only
    have sameTier : ∀ orders, (if (world.tier.slots index).queued = true then
        { result.2 with orders := orders } else result.2).tier = result.2.tier := by
      intro orders
      split <;> rfl
    rw [sameTier]
    constructor
    · intro same
      exact ⟨starved, (dequeue_unchanged_iff world index).mp (same.trans tier.symm)⟩
    · rintro ⟨-, unqueued⟩
      exact ((dequeue_unchanged_iff world index).mpr unqueued).trans tier
  | some buffer =>
    rw [found] at refused
    dsimp only at refused ⊢
    obtain ⟨-, free⟩ := acquired.free buffer found
    have foundSound := edits.sound dequeuedSound
    have failed : (result.2.issueRead index buffer .demand stepNow (replies.submit 0)).1 ≠ .ok := by
      intro submitted
      rw [if_neg (not_not_intro submitted)] at refused
      exact refused rfl
    rw [if_pos failed]
    dsimp only
    rw [issueRead_refused foundSound free failed]
    cases wasFree : world.tier.freeBuffer with
    | some first =>
      have nothing : result.2 = world.dequeue index := by
        rw [isResult, stagingAcquireForDemand, freeBuffer_dequeue, wasFree]
      rw [nothing]
      exact dequeue_unchanged_iff world index
    | none =>
      constructor
      · intro same
        have noneFree : (world.dequeue index).tier.freeBuffer = .none := by rw [freeBuffer_dequeue, wasFree]
        obtain ⟨busy, nowFree⟩ := preempt_changes dequeuedSound noneFree found
        rw [(dequeue_spec world index).2.2.2.2] at busy
        exact absurd ((same.owners buffer).1.mp nowFree) busy
      · rintro ⟨starved, -⟩
        rw [starvedIff.mpr starved] at found
        cases found

/-- A refused demand with a deadline. -/
theorem demandDeadline_unchanged_iff (sound : world.tier.Sound) (present : (world.tier.slots index).state = .present)
    (deadline : deadlineStep ≠ 0) (refused : (world.demandDeadline replies index deadlineStep).1.1 ≠ .ok) :
    Unchanged world.tier (world.demandDeadline replies index deadlineStep).2.tier ↔
      world.Undisturbed replies index deadlineStep := by
  obtain ⟨edits, acquired, -⟩ := stagingAcquireForDemand_edits True replies sound
  have starvedIff := acquire_none_iff replies sound
  have foundSound := edits.sound sound
  unfold demandDeadline at refused ⊢
  dsimp only at refused ⊢
  set result := world.stagingAcquireForDemand replies with isResult
  cases found : result.1 with
  | none =>
    have starved := starvedIff.mp found
    have only := acquire_onlyCancelled found
    have decided : world.Undisturbed replies index deadlineStep ↔
        match pendingFind world.tier.entries index with
        | none => world.tier.configuration.pendingCapacity ≤ world.tier.entries.length
        | some position => ∀ entry, world.tier.entries[position]? = some entry → entry.needByStep ≤ deadlineStep := by
      unfold Undisturbed
      rw [starved.1]
      rw [Option.isSome_none, if_neg Bool.false_ne_true, if_neg deadline]
      exact ⟨fun undisturbed => (undisturbed present).2, fun undisturbed _ => ⟨starved, undisturbed⟩⟩
    rw [decided]
    dsimp only
    rw [only.entries, only.configuration]
    cases isFound : pendingFind world.tier.entries index with
    | some position =>
      obtain ⟨entry, isEntry, -⟩ := Tier.pendingFind_some isFound
      have needs := pendingTighten_needs deadlineStep isEntry
      dsimp only
      constructor
      · intro same other isOther
        have entries := same.entries
        change ((pendingTighten result.2.tier.entries position deadlineStep).map PendingEntry.need).Perm _ at entries
        rw [only.entries] at entries
        rw [isEntry] at isOther
        cases isOther
        exact needs.mp entries
      · intro sooner
        refine only.unchanged.trans ⟨?_, fun _ => rfl, fun _ => ⟨Iff.rfl, rfl, rfl, rfl⟩, fun _ => rfl⟩
        change ((pendingTighten result.2.tier.entries position deadlineStep).map PendingEntry.need).Perm _
        rw [only.entries]
        exact needs.mpr (sooner entry isEntry)
    | none =>
      dsimp only
      split
      · rename_i room
        constructor
        · intro same
          have lengths := same.entries.length_eq
          rw [List.length_map, List.length_map] at lengths
          change (pendingInsert result.2.tier.entries _).length = _ at lengths
          rw [only.entries, pendingInsert, (Heap.insert_perm _ _).length_eq, List.length_cons] at lengths
          omega
        · intro full
          omega
      · rename_i full
        exact ⟨fun _ => Nat.le_of_not_lt full, fun _ => only.unchanged⟩
  | some buffer =>
    rw [found] at refused
    dsimp only at refused ⊢
    obtain ⟨-, free⟩ := acquired.free buffer found
    have staging := (dequeue_spec result.2 index).2.2.2.2
    have dequeues : Edits True True result.2 (result.2.dequeue index) := Edits.one .dequeue
    have failed : ((result.2.dequeue index).issueRead index buffer .demand deadlineStep (replies.submit 0)).1 ≠ .ok := by
      intro submitted
      rw [if_neg (not_not_intro submitted)] at refused
      exact refused rfl
    rw [if_pos failed]
    dsimp only
    rw [issueRead_refused (dequeues.sound foundSound) (by rw [staging]; exact free) failed]
    cases wasFree : world.tier.freeBuffer with
    | some first =>
      have nothing : result.2 = world := by
        rw [isResult, stagingAcquireForDemand, wasFree]
      rw [nothing, dequeue_unchanged_iff]
      unfold Undisturbed
      rw [wasFree]
      exact ⟨fun unqueued _ => unqueued, fun undisturbed => undisturbed present⟩
    | none =>
      constructor
      · intro same
        exact absurd same (changed_of_preempted sound wasFree found staging)
      · intro undisturbed
        have starved := undisturbed present
        rw [wasFree] at starved
        rw [starvedIff.mpr starved.1] at found
        cases found

/-- The use of a block is no part of what decides whether the queue is disturbed. -/
theorem undisturbed_used (world : World) (index : Nat) : (world.setSlot index { world.tier.slots index with
    referenced := true }).Undisturbed replies index deadlineStep ↔ world.Undisturbed replies index deadlineStep := by
  set used := world.setSlot index { world.tier.slots index with referenced := true }
  have here : used.tier.slots index = { world.tier.slots index with referenced := true } := Tier.setSlot_self ..
  have pins : ∀ other, (used.tier.slots other).pinCount = (world.tier.slots other).pinCount := by
    intro other
    by_cases same : other = index
    · rw [same, here]
    · exact congrArg Slot.pinCount (Tier.setSlot_of_ne _ _ same)
  have starved : used.Starved replies ↔ world.Starved replies :=
    ⟨fun starved => starved.congr rfl rfl rfl rfl pins,
      fun starved => starved.congr rfl rfl rfl rfl fun other => (pins other).symm⟩
  unfold Undisturbed
  rw [here, starved]
  exact Iff.rfl

/-- A refused demand for a block. -/
theorem requestDemand_unchanged_iff (sound : world.tier.Sound) (contentHash : UInt64) (contentDigest : Digest)
    (stepNow deadlineStep : UInt32)
    (refused : (world.requestDemand replies contentHash contentDigest stepNow deadlineStep).1.1 ≠ .ok) :
    Unchanged world.tier (world.requestDemand replies contentHash contentDigest stepNow deadlineStep).2.tier ↔
      (digestIsUsable contentDigest = true → ∀ index, world.tier.lookupVerified contentHash contentDigest = .ok index →
        world.Undisturbed replies index deadlineStep) := by
  by_cases valid : contentHash = 0 ∨ digestIsUsable contentDigest = false
  · have nothing : world.requestDemand replies contentHash contentDigest stepNow deadlineStep =
        ((.invalidArgument, {}), world) := by
      rw [requestDemand, if_pos valid]
    rw [nothing]
    refine ⟨fun _ usable index found => ?_, fun _ => Unchanged.refl _⟩
    rcases valid with zero | unusable
    · rw [zero, Tier.lookupVerified, Tier.lookup, if_pos rfl] at found
      cases found
    · rw [usable] at unusable
      cases unusable
  have usable : digestIsUsable contentDigest = true :=
    Bool.eq_true_of_not_eq_false fun unusable => valid (.inr unusable)
  obtain ⟨result, isResult⟩ : ∃ result,
    world.requestDemand replies contentHash contentDigest stepNow deadlineStep = result := ⟨_, rfl⟩
  rw [isResult] at refused ⊢
  rw [requestDemand, if_neg valid] at isResult
  cases found : world.tier.lookupVerified contentHash contentDigest with
  | error status =>
    have same : result.2 = world := by
      rw [found] at isResult
      cases status <;> rw [← isResult]
    rw [same]
    exact ⟨fun _ _ _ absent => (nomatch absent), fun _ => Unchanged.refl _⟩
  | ok index =>
    have only : (digestIsUsable contentDigest = true → ∀ other, (Except.ok index : Except SparkStatus Nat) = .ok other →
        world.Undisturbed replies other deadlineStep) ↔ world.Undisturbed replies index deadlineStep := by
      constructor
      · exact fun all => all usable index rfl
      · intro undisturbed _ other same
        cases same
        exact undisturbed
    rw [only]
    rw [found] at isResult
    dsimp only at isResult
    obtain ⟨linked, -⟩ := lookupVerified_ok sound found
    set marked := world.setSlot index { world.tier.slots index with referenced := true }
    have touched := touched_setSlot world index true (world.tier.slots index).needByStep (world.tier.slots index).pinCount
    have uses : Edits True True world marked := Edits.one (.touch touched)
    have here : marked.tier.slots index = { world.tier.slots index with referenced := true } := Tier.setSlot_self ..
    have used : Unchanged world.tier marked.tier := Unchanged.setSlot _ _ _ rfl rfl
    have usedSound := uses.sound sound
    rw [← undisturbed_used]
    -- a block that is not only on the drive is not touched, and neither is the queue
    have away : (world.tier.slots index).state ≠ .present → Unchanged world.tier result.2.tier →
        (Unchanged world.tier result.2.tier ↔ marked.Undisturbed replies index deadlineStep) := by
      intro notPresent same
      refine ⟨fun _ present => ?_, fun _ => same⟩
      rw [here] at present
      exact absurd present notPresent
    split at isResult
    · rw [← isResult] at refused
      exact absurd rfl refused
    · rw [← isResult] at refused
      exact absurd rfl refused
    · rename_i filling back
      apply away (by simp [filling])
      rw [← isResult]
      exact used
    · rename_i buffer filling back
      apply away (by simp [filling])
      split at isResult
      · rw [← isResult]
        exact used
      split at isResult
      · rw [← isResult]
        obtain ⟨now, isNow⟩ : ∃ now, now = world.tier.setSlot index { world.tier.slots index with referenced := true } :=
          ⟨_, rfl⟩
        have slotHere : now.slots index = { world.tier.slots index with referenced := true } := by
          rw [isNow]
          exact Tier.setSlot_self ..
        have hurries := Unchanged.setStaging now buffer
          (if deadlineStep ≠ 0 ∧ deadlineStep < (now.staging buffer).needByStep then deadlineStep
          else (now.staging buffer).needByStep)
        have marks : ∀ later : Staging, Unchanged (now.setStaging buffer later)
            ((now.setStaging buffer later).setSlot index
              { world.tier.slots index with referenced := true, needByStep := stepNow }) :=
          fun later => Unchanged.setSlot (now.setStaging buffer later) index _ (congrArg Slot.queued slotHere).symm
            (congrArg Slot.pinCount slotHere).symm
        have all := hurries.trans (marks _)
        rw [isNow] at all
        exact used.trans all
      · rw [← isResult] at refused
        exact absurd rfl refused
    · rename_i notReady notReadyBuffer notFilling notFillingBuffer
      have present : (marked.tier.slots index).state = .present := by
        rw [here]
        have isLinked := linked.2
        have staged := sound.buffered.staged index
        revert isLinked notReady notReadyBuffer notFilling notFillingBuffer staged
        cases (world.tier.slots index).state <;> cases (world.tier.slots index).stagingIndex <;>
          simp [SlotState.linked]
      have replace_ : ∀ after : Tier, Unchanged world.tier after ↔ Unchanged marked.tier after :=
        fun after => ⟨used.symm.trans, used.trans⟩
      rw [replace_]
      split at isResult
      · rename_i deadline
        rw [← isResult] at refused ⊢
        exact demandDeadline_unchanged_iff usedSound present deadline refused
      · rename_i noDeadline
        rw [not_not] at noDeadline
        rw [← isResult] at refused ⊢
        rw [noDeadline]
        exact demandNow_unchanged_iff usedSound present refused

/-- In every tier, a refused demand changes nothing exactly when the block was not taken from the
queue for it, no buffer was taken from a prefetch, and no order was left for it. -/
theorem run_refused_unchanged_iff {configuration : Configuration} {cancels : Bool} {contents : Nat → List UInt8}
    {start : World} (initialized : initializeTier configuration cancels contents = .ok start) (steps : List Step)
    (replies : Replies) (contentHash : UInt64) (contentDigest : Digest) (stepNow deadlineStep : UInt32)
    (refused : ((steps.foldl perform start).requestDemand replies contentHash contentDigest stepNow
      deadlineStep).1.1 ≠ .ok) :
    Unchanged (steps.foldl perform start).tier
        ((steps.foldl perform start).requestDemand replies contentHash contentDigest stepNow deadlineStep).2.tier ↔
      (digestIsUsable contentDigest = true → ∀ index,
        (steps.foldl perform start).tier.lookupVerified contentHash contentDigest = .ok index →
          (steps.foldl perform start).Undisturbed replies index deadlineStep) :=
  requestDemand_unchanged_iff (run_sound initialized steps) contentHash contentDigest stepNow deadlineStep refused

/-- A stored block is demanded, and the device refuses the read. -/
theorem stored_unchanged : Unchanged ((stored 7 [1] 0 1).foldl perform threeSlotTier).tier
    (((stored 7 [1] 0 1).foldl perform threeSlotTier).requestDemand
      { submit := fun _ => (.ioError, 0) } 7 [1] 0 0).2.tier := by
  apply (run_refused_unchanged_iff (show initializeTier threeSlots true (fun _ => []) = .ok threeSlotTier from rfl)
    (stored 7 [1] 0 1) { submit := fun _ => (.ioError, 0) } 7 [1] 0 0 (by decide +kernel)).mpr
  intro _ index found _
  have first : ((stored 7 [1] 0 1).foldl perform threeSlotTier).tier.lookupVerified 7 [1] = .ok 0 := by rfl
  cases first.symm.trans found
  rw [if_pos (by decide +kernel)]
  decide +kernel

/-- Two blocks are read for demands into the two buffers, and a third one is queued. -/
def thirdQueued : List Step :=
  stored 7 [1] 0 1 ++ stored 8 [2] 1 1 ++ stored 9 [3] 2 1 ++
    [.requestDemand 7 [1] 0 0 {}, .requestDemand 8 [2] 0 0 {},
      .planLookahead [{ contentHash := 9, needByStep := 5, contentDigest := [3] }] 0]

/-- A demand for the third block finds no buffer, and the block is no longer queued. -/
theorem refused_changes : ¬ ∀ (configuration : Configuration) (cancels : Bool) (contents : Nat → List UInt8)
    (start : World) (steps : List Step), initializeTier configuration cancels contents = .ok start →
      ∀ replies contentHash contentDigest stepNow,
        ((steps.foldl perform start).requestDemand replies contentHash contentDigest stepNow 0).1.1 ≠ .ok →
          Unchanged (steps.foldl perform start).tier
            ((steps.foldl perform start).requestDemand replies contentHash contentDigest stepNow 0).2.tier := by
  intro unchanged
  have queued := (unchanged threeSlots true (fun _ => []) threeSlotTier thirdQueued rfl {} 9 [3] 1
    (by decide +kernel)).queued 2
  revert queued
  decide +kernel

end Demand

end World

end Sparkpipe.NvmeTier
