import Sparkpipe.Cache.Tier.Steps

/-!
# Demands

A demand for a block that is only on the drive needs a staging buffer. Where none is free it takes
one from a block ahead of need, whose own need then waits in the heap again.
-/

namespace Sparkpipe.NvmeTier

open Function

variable {forsakes loses : Prop} {world before middle after : World} {index other buffer : Nat}

namespace World

section Acquire

/-- There is no buffer for a demand: none is free, none has a block ahead of need, and each read
ahead of need goes on for now although it is cancelled. -/
def Starved (world : World) (replies : Replies) : Prop :=
  world.tier.freeBuffer = none ∧ world.tier.buffers.find? (world.tier.preemptible .ready) = none ∧
    (world.tier.cancels = true →
      ∀ asked < tally world.tier.configuration.stagingBufferCount (world.tier.preemptible .filling),
        replies.cancel (world.tier.configuration.stagingBufferCount - 1 - asked) = .busy ∨
          replies.cancel (world.tier.configuration.stagingBufferCount - 1 - asked) = .pending)

/-- What holds of a world in which a buffer has been looked for. -/
structure Acquired (before : World) (acquired : Option Nat × World) : Prop where
  slotCount : acquired.2.tier.slotCount = before.tier.slotCount
  kept : ∀ index, (before.tier.slots index).state = .present →
    acquired.2.tier.slots index = before.tier.slots index
  entries : acquired.1 = none → acquired.2.tier.entries = before.tier.entries
  free : ∀ buffer, acquired.1 = some buffer →
    buffer < acquired.2.tier.configuration.stagingBufferCount ∧ (acquired.2.tier.staging buffer).state = .free

/-- A block that is waiting again has no other entry. -/
theorem requeue_edits {released : World} (sound : world.tier.Sound)
    (isReleased : released.tier = world.tier.stagingRelease buffer) (named : (world.tier.staging buffer).slot = some index)
    (prefetch : (world.tier.staging buffer).holder = .prefetch) (needByStep : UInt32) :
    Edits forsakes loses released (released.prefetchRequeue index needByStep) := by
  unfold prefetchRequeue
  split
  · exact Edits.refl released
  rename_i room
  have shape := sound.buffered.stagingRelease named
  obtain ⟨found, isFound, -, inRange, -, -⟩ := sound.buffered.named (sound.buffered.busy named)
  cases named.symm.trans isFound
  refine Edits.one (.enqueue ?_ ?_ ?_ ?_)
  · rw [isReleased, shape]
    exact inRange
  · rw [isReleased, shape]
    exact congrArg Slot.state (Tier.setSlot_self ..)
  · exact Bool.eq_false_iff.mpr fun queued => room (.inl queued)
  · rw [isReleased, shape]
    exact sound.queueing.prefetched buffer index named prefetch

/-- A buffer that a prefetch gives up: the slots of the blocks that are only on the drive are as
before. -/
theorem preempted {released : World} (sound : world.tier.Sound)
    (isReleased : released.tier = world.tier.stagingRelease buffer) (named : (world.tier.staging buffer).slot = some index)
    (needByStep : UInt32) : Acquired world (some buffer, released.prefetchRequeue index needByStep) := by
  have shape := sound.buffered.stagingRelease named
  obtain ⟨found, isFound, -, -, bufferInRange, staged⟩ := sound.buffered.named (sound.buffered.busy named)
  cases named.symm.trans isFound
  have elsewhere : ∀ other, (world.tier.slots other).state = .present → other ≠ index := by
    rintro other present rfl
    rw [present] at staged
    cases staged
  have slots : ∀ other, other ≠ index →
      (released.prefetchRequeue index needByStep).tier.slots other = world.tier.slots other := by
    intro other different
    have was : released.tier.slots other = world.tier.slots other := by
      rw [isReleased, shape]
      exact Tier.setSlot_of_ne _ _ different
    unfold prefetchRequeue
    split
    · exact was
    · exact (Tier.setSlot_of_ne _ _ different).trans was
  have stagings : (released.prefetchRequeue index needByStep).tier.staging = released.tier.staging := by
    unfold prefetchRequeue
    split <;> rfl
  have counts : (released.prefetchRequeue index needByStep).tier.slotCount = released.tier.slotCount ∧
      (released.prefetchRequeue index needByStep).tier.configuration = released.tier.configuration := by
    unfold prefetchRequeue
    split <;> exact ⟨rfl, rfl⟩
  constructor
  · refine counts.1.trans ?_
    rw [isReleased, shape]
    rfl
  · exact fun other present => slots other (elsewhere other present)
  · nofun
  · intro other same
    cases same
    refine ⟨?_, ?_⟩
    · change buffer < (released.prefetchRequeue index needByStep).tier.configuration.stagingBufferCount
      rw [counts.2, isReleased, shape]
      exact bufferInRange
    · change ((released.prefetchRequeue index needByStep).tier.staging buffer).state = .free
      rw [stagings, isReleased, shape]
      exact congrArg Staging.state (Tier.setStaging_self ..)

/-- What a preemptible buffer is. -/
theorem preemptible_named {state : StagingState} (preemptible : world.tier.preemptible state buffer = true) :
    (world.tier.staging buffer).state = state ∧ (world.tier.staging buffer).holder = .prefetch ∧
      ∃ index, (world.tier.staging buffer).slot = some index := by
  unfold Tier.preemptible at preemptible
  cases named : (world.tier.staging buffer).slot with
  | none =>
    rw [named] at preemptible
    simp at preemptible
  | some index =>
    rw [named] at preemptible
    simp only [Bool.and_eq_true, decide_eq_true_eq] at preemptible
    exact ⟨preemptible.1.1, preemptible.1.2, index, rfl⟩

/-- The search for the latest read ahead of need finds one of them, if there is one. -/
theorem latest_spec (tier : Tier) (buffers : List Nat) (best : Option Nat) {latest : Option Nat}
    (isLatest : latest = buffers.foldl (fun best buffer =>
      if tier.preemptible .filling buffer then
        match best with
        | none => some buffer
        | some other =>
          if (tier.staging other).needByStep < (tier.staging buffer).needByStep then some buffer else best
      else best) best) :
    (∀ buffer, latest = some buffer → best = some buffer ∨ buffer ∈ buffers ∧ tier.preemptible .filling buffer = true) ∧
      (latest = none → best = none ∧ ∀ buffer ∈ buffers, tier.preemptible .filling buffer = false) := by
  induction buffers generalizing best with
  | nil =>
    rw [isLatest]
    exact ⟨fun buffer same => .inl same, fun none => ⟨none, nofun⟩⟩
  | cons first rest ih =>
    rw [List.foldl_cons] at isLatest
    obtain ⟨found, missing⟩ := ih _ isLatest
    constructor
    · intro buffer same
      rcases found buffer same with chosen | ⟨member, preemptible⟩
      · split at chosen
        · rename_i preemptible
          split at chosen
          · cases chosen
            exact .inr ⟨.head _, preemptible⟩
          · split at chosen
            · cases chosen
              exact .inr ⟨.head _, preemptible⟩
            · exact .inl chosen
        · exact .inl chosen
      · exact .inr ⟨.tail _ member, preemptible⟩
    · intro none
      obtain ⟨chosen, others⟩ := missing none
      split at chosen
      · split at chosen
        · cases chosen
        · split at chosen <;> cases chosen
      · rename_i notPreemptible
        refine ⟨chosen, fun buffer member => ?_⟩
        rcases List.mem_cons.mp member with rfl | later
        · exact Bool.eq_false_iff.mpr notPreemptible
        · exact others buffer later

/-- One read fewer can be cancelled after a cancellation that waits. -/
theorem tally_cancelPending (inRange : buffer < world.tier.configuration.stagingBufferCount)
    (preemptible : world.tier.preemptible .filling buffer = true) :
    tally world.tier.configuration.stagingBufferCount (world.tier.preemptible .filling) =
      tally world.tier.configuration.stagingBufferCount ((world.cancelPending buffer).tier.preemptible .filling) + 1 := by
  refine tally_lose inRange preemptible ?_ fun other _ different => ?_
  · unfold Tier.preemptible
    have state : ((world.cancelPending buffer).tier.staging buffer).state = .cancelPending :=
      congrArg Staging.state (Tier.setStaging_self ..)
    rw [state]
    rfl
  · unfold Tier.preemptible
    have same : (world.cancelPending buffer).tier.staging other = world.tier.staging other :=
      Tier.setStaging_of_ne _ _ different
    rw [same]
    rfl

/-- The cancellations of a demand. -/
theorem cancelPrefetch_edits (loses : Prop) (replies : Replies) (attempts : Nat) (world : World)
    (sound : world.tier.Sound) :
    Edits (¬ replies.Cancels) loses world (cancelPrefetch replies attempts world).2 ∧
      Acquired world (cancelPrefetch replies attempts world) ∧
      ((cancelPrefetch replies attempts world).1 = none →
        ∀ asked < tally world.tier.configuration.stagingBufferCount (world.tier.preemptible .filling), asked < attempts →
          replies.cancel (attempts - 1 - asked) = .busy ∨ replies.cancel (attempts - 1 - asked) = .pending) := by
  induction attempts generalizing world with
  | zero =>
    exact ⟨Edits.refl world, ⟨rfl, fun _ _ => rfl, fun _ => rfl, nofun⟩,
      fun _ _ _ none => absurd none (Nat.not_lt_zero _)⟩
  | succ attempts ih =>
    obtain ⟨found, missing⟩ := @latest_spec world.tier world.tier.buffers none world.tier.latestPrefetch rfl
    unfold cancelPrefetch
    split
    · rename_i none
      refine ⟨Edits.refl world, ⟨rfl, fun _ _ => rfl, fun _ => rfl, nofun⟩, fun _ asked below => ?_⟩
      rw [tally_eq_zero fun buffer inRange => (missing none).2 buffer (List.mem_range.mpr inRange)] at below
      exact absurd below (Nat.not_lt_zero _)
    rename_i buffer isLatest
    obtain ⟨member, preemptible⟩ := (found buffer isLatest).resolve_left nofun
    obtain ⟨filling, prefetch, index, named⟩ := preemptible_named preemptible
    split
    · have shape : (world.ended buffer).preempt buffer =
          ((world.ended buffer).release buffer).prefetchRequeue index (world.tier.staging buffer).needByStep := by
        unfold preempt
        change (match (world.tier.staging buffer).slot with | none => _ | some _ => _) = _
        rw [named]
        rfl
      rw [shape]
      exact ⟨(Edits.one (.finish (.inl filling))).trans (requeue_edits sound rfl named prefetch _),
        preempted sound rfl named _, nofun⟩
    rename_i failed
    split
    · rename_i waits
      have edit : Edits (¬ replies.Cancels) loses world (world.cancelPending buffer) :=
        Edits.one (.cancel filling prefetch)
      obtain ⟨edits, acquired, unanswered⟩ := ih (world.cancelPending buffer) (edit.sound sound)
      refine ⟨edit.trans edits, ⟨acquired.slotCount, acquired.kept, acquired.entries,
        acquired.free⟩, fun none asked below inside => ?_⟩
      rw [tally_cancelPending (List.mem_range.mp member) preemptible] at below
      cases asked with
      | zero => exact waits
      | succ asked =>
        have later := unanswered none asked (Nat.lt_of_succ_lt_succ below) (Nat.lt_of_succ_lt_succ inside)
        have same : attempts + 1 - 1 - (asked + 1) = attempts - 1 - asked := by omega
        rw [same]
        exact later
    · rename_i refused
      have shape : world.preempt buffer =
          (world.release buffer).prefetchRequeue index (world.tier.staging buffer).needByStep := by
        unfold preempt
        rw [named]
      rw [shape]
      have forsakes : Edits (¬ replies.Cancels) loses world (world.release buffer) :=
        Edits.one (.forsake (fun cancels => (cancels attempts).elim failed refused) filling)
      exact ⟨forsakes.trans (requeue_edits sound rfl named prefetch _), preempted sound rfl named _, nofun⟩

/-- A buffer is looked for. -/
theorem stagingAcquireForDemand_edits (loses : Prop) (replies : Replies) (sound : world.tier.Sound) :
    Edits (¬ replies.Cancels) loses world (world.stagingAcquireForDemand replies).2 ∧
      Acquired world (world.stagingAcquireForDemand replies) ∧
      ((world.stagingAcquireForDemand replies).1 = none → world.Starved replies) := by
  unfold stagingAcquireForDemand Starved
  split
  · rename_i buffer isFree
    have accepted := List.find?_some isFree
    have member := List.mem_of_find?_eq_some isFree
    refine ⟨Edits.refl world, ⟨rfl, fun _ _ => rfl, fun _ => rfl, ?_⟩, nofun⟩
    intro other same
    cases same
    exact ⟨List.mem_range.mp member, of_decide_eq_true accepted⟩
  rename_i noneFree
  split
  · rename_i buffer isReady
    obtain ⟨ready, prefetch, index, named⟩ := preemptible_named (List.find?_some isReady)
    have shape : world.preempt buffer =
        (world.release buffer).prefetchRequeue index (world.tier.staging buffer).needByStep := by
      unfold preempt
      rw [named]
    rw [shape]
    exact ⟨(Edits.one (.drop ready prefetch)).trans (requeue_edits sound rfl named prefetch _),
      preempted sound rfl named _, nofun⟩
  rename_i noneReady
  split
  · obtain ⟨edits, acquired, unanswered⟩ := cancelPrefetch_edits loses replies
      world.tier.configuration.stagingBufferCount world sound
    refine ⟨edits, acquired, fun none => ⟨noneFree, noneReady, fun _ asked below => ?_⟩⟩
    exact unanswered none asked below (Nat.lt_of_lt_of_le below (tally_le ..))
  · rename_i cannot
    exact ⟨Edits.refl world, ⟨rfl, fun _ _ => rfl, fun _ => rfl, nofun⟩,
      fun _ => ⟨noneFree, noneReady, fun can => absurd can cannot⟩⟩

/-- Whether a demand finds a buffer depends on the buffers and the pins only. -/
theorem Starved.congr {replies : Replies} (starved : after.Starved replies)
    (configuration : after.tier.configuration = before.tier.configuration)
    (cancels : after.tier.cancels = before.tier.cancels) (slotCount : after.tier.slotCount = before.tier.slotCount)
    (staging : after.tier.staging = before.tier.staging)
    (pins : ∀ index, (after.tier.slots index).pinCount = (before.tier.slots index).pinCount) :
    before.Starved replies := by
  have preemptible : after.tier.preemptible = before.tier.preemptible := by
    funext state buffer
    unfold Tier.preemptible
    rw [staging, slotCount]
    split
    · rfl
    · rw [pins]
  have buffers : after.tier.buffers = before.tier.buffers := by
    unfold Tier.buffers
    rw [configuration]
  have free : after.tier.freeBuffer = before.tier.freeBuffer := by
    unfold Tier.freeBuffer
    rw [buffers, staging]
  unfold Starved at starved ⊢
  rw [preemptible, buffers, free, cancels, configuration] at starved
  exact starved

end Acquire

section Demand

/-- What taking a slot out of the heap leaves alone. -/
theorem dequeue_spec (world : World) (index : Nat) :
    (world.dequeue index).tier.slots = update world.tier.slots index
        { world.tier.slots index with queued := false } ∧
      (world.dequeue index).tier.configuration = world.tier.configuration ∧
      (world.dequeue index).tier.cancels = world.tier.cancels ∧
      (world.dequeue index).tier.slotCount = world.tier.slotCount ∧
      (world.dequeue index).tier.staging = world.tier.staging := by
  unfold dequeue
  dsimp only
  split
  · split <;> exact ⟨rfl, rfl, rfl, rfl, rfl⟩
  · rename_i unqueued
    refine ⟨?_, rfl, rfl, rfl, rfl⟩
    rw [← Bool.eq_false_iff.mpr unqueued, update_eq_self]

/-- A read is submitted into a free buffer; the submission may fail. -/
theorem issueRead_edits (sound : world.tier.Sound) {holder : Holder} (needByStep : UInt32)
    (reply : SparkStatus × UInt64) (inRange : index < world.tier.slotCount)
    (present : (world.tier.slots index).state = .present) (unqueued : (world.tier.slots index).queued = false)
    (bufferInRange : buffer < world.tier.configuration.stagingBufferCount)
    (free : (world.tier.staging buffer).state = .free) (held : holder ≠ .none)
    (fresh : holder = .prefetch → ∀ entry ∈ world.tier.entries, entry.slot ≠ index) :
    Edits forsakes loses world (world.issueRead index buffer holder needByStep reply).2 := by
  obtain ⟨status, ticket⟩ := reply
  by_cases submitted : status = .ok
  · rw [submitted]
    exact Edits.one (.issue inRange present unqueued bufferInRange free held fresh)
  · have failed : (world.issueRead index buffer holder needByStep (status, ticket)).2 = world.forgetOrder index := by
      unfold issueRead
      rw [if_pos submitted]
      change (world.forgetOrder index).withTier (world.tier.stagingRelease buffer) = _
      rw [sound.buffered.stagingRelease_free free]
      rfl
    rw [failed]
    exact Edits.one (.forget inRange present unqueued)

/-- A demand with a deadline is ordered where it finds no buffer. -/
theorem demandDeadline_edits (replies : Replies) (sound : world.tier.Sound) (deadlineStep : UInt32)
    (inRange : index < world.tier.slotCount) (present : (world.tier.slots index).state = .present)
    (stale : Stale world index → world.Starved replies → loses) :
    Edits (¬ replies.Cancels) loses world (world.demandDeadline replies index deadlineStep).2 := by
  obtain ⟨edits, acquired, starved⟩ := stagingAcquireForDemand_edits loses replies sound
  have kept := acquired.kept index present
  have nowSound := edits.sound sound
  have stillInRange : index < (world.stagingAcquireForDemand replies).2.tier.slotCount := by
    rw [acquired.slotCount]
    exact inRange
  have stillPresent : ((world.stagingAcquireForDemand replies).2.tier.slots index).state = .present := by
    rw [kept]
    exact present
  unfold demandDeadline
  dsimp only
  split
  · rename_i none
    have isStale : Stale (world.stagingAcquireForDemand replies).2 index → loses := by
      rintro ⟨-, unqueued, entry, member, isSlot⟩
      rw [kept] at unqueued
      rw [acquired.entries none] at member
      exact stale ⟨present, unqueued, entry, member, isSlot⟩ (starved none)
    obtain ⟨tightens, enqueues⟩ :=
      order_edits (¬ replies.Cancels) nowSound stillInRange stillPresent deadlineStep isStale
    split
    · rename_i position found
      exact edits.trans (tightens position found)
    · rename_i missing
      split
      · exact edits.trans (enqueues missing)
      · exact edits
  · rename_i buffer some
    obtain ⟨bufferInRange, free⟩ := acquired.free buffer some
    generalize (world.stagingAcquireForDemand replies).2 = found at *
    obtain ⟨slots, configuration, -, slotCount, staging⟩ := dequeue_spec found index
    have dequeues : Edits (¬ replies.Cancels) loses found (found.dequeue index) := Edits.one .dequeue
    have issues : Edits (¬ replies.Cancels) loses (found.dequeue index)
        ((found.dequeue index).issueRead index buffer .demand deadlineStep (replies.submit 0)).2 := by
      refine issueRead_edits (dequeues.sound nowSound) deadlineStep (replies.submit 0) ?_ ?_ ?_ ?_ ?_ nofun nofun
      · rw [slotCount]
        exact stillInRange
      · rw [slots, update_self]
        exact stillPresent
      · rw [slots, update_self]
      · rw [configuration]
        exact bufferInRange
      · rw [staging]
        exact free
    split <;> exact (edits.trans dequeues).trans issues

/-- A demand without a deadline is not ordered, and an order that there was for the block is dropped. -/
theorem demandNow_edits (replies : Replies) (sound : world.tier.Sound) (stepNow : UInt32)
    (inRange : index < world.tier.slotCount) (present : (world.tier.slots index).state = .present)
    (dropped : (world.tier.slots index).queued = true → world.Starved replies → loses) :
    Edits (¬ replies.Cancels) loses world (world.demandNow replies index stepNow).2 := by
  have dequeues : Edits (¬ replies.Cancels) loses world (world.dequeue index) := Edits.one .dequeue
  have dequeuedSound := dequeues.sound sound
  obtain ⟨slots, configuration, cancels, slotCount, staging⟩ := dequeue_spec world index
  obtain ⟨edits, acquired, starved⟩ := stagingAcquireForDemand_edits loses replies dequeuedSound
  have stillPresent : ((world.dequeue index).tier.slots index).state = .present := by
    rw [slots, update_self]
    exact present
  have kept := acquired.kept index stillPresent
  rw [slots, update_self] at kept
  have wasStarved : (world.dequeue index).Starved replies → world.Starved replies := by
    intro isStarved
    refine isStarved.congr configuration cancels slotCount staging fun other => ?_
    rw [slots]
    exact update_field Slot.pinCount (by rfl) other
  unfold demandNow
  dsimp only
  split
  · rename_i none
    dsimp only
    split
    · rename_i queued
      exact (dequeues.trans edits).trans (Edits.one (.lose (dropped queued (wasStarved (starved none)))))
    · exact dequeues.trans edits
  · rename_i buffer some
    obtain ⟨bufferInRange, free⟩ := acquired.free buffer some
    have foundSlots := acquired.slotCount
    have foundSound := edits.sound dequeuedSound
    generalize ((world.dequeue index).stagingAcquireForDemand replies).2 = found at *
    have issues : Edits (¬ replies.Cancels) loses found
        (found.issueRead index buffer .demand stepNow (replies.submit 0)).2 := by
      refine issueRead_edits foundSound stepNow (replies.submit 0) ?_ ?_ ?_ bufferInRange free nofun nofun
      · rw [foundSlots, slotCount]
        exact inRange
      · rw [kept]
        exact present
      · rw [kept]
    split <;> exact (dequeues.trans edits).trans issues

/-- A demand that loses an order: its block is only on the drive, there is no buffer for it, and
either a deadline is put on a stale entry, or there is no deadline and the block was queued. -/
def DropsOrder (world : World) (replies : Replies) (index : Nat) (deadlineStep : UInt32) : Prop :=
  (world.tier.slots index).state = .present ∧ world.Starved replies ∧
    if deadlineStep ≠ 0 then Stale world index else (world.tier.slots index).queued = true

/-- A verified block is handed to a demand. -/
theorem hand_edits (sound : world.tier.Sound) (back : (world.tier.slots index).stagingIndex = some buffer)
    (ready : (world.tier.slots index).state = .ready) :
    Edits forsakes loses world
      { world.withTier (world.tier.setStaging buffer { world.tier.staging buffer with holder := .demand }) with
        handed := update world.handed buffer
          (some (world.contents buffer, (world.tier.slots index).digest)) } := by
  obtain ⟨-, named, ⟨filling, -⟩ | ⟨-, holds⟩⟩ := staging_state sound back
  · rw [ready] at filling
    cases filling
  · have joins : Edits forsakes loses world (world.withTier
        (world.tier.setStaging buffer { world.tier.staging buffer with holder := .demand })) :=
      Edits.one (.join (.inr holds))
    refine joins.trans (Edits.one (.hand ?_ ?_ ?_))
    · exact (congrArg Staging.state (Tier.setStaging_self ..)).trans holds
    · exact (congrArg Staging.slot (Tier.setStaging_self ..)).trans named
    · exact congrArg Staging.holder (Tier.setStaging_self ..)

/-- A demand joins a read. -/
theorem join_edits (reading : (world.tier.staging buffer).state = .filling) (needByStep : UInt32) :
    Edits forsakes loses world (world.withTier (world.tier.setStaging buffer { world.tier.staging buffer with
      needByStep := needByStep
      holder := .demand })) := by
  set hurried := world.withTier
    (world.tier.setStaging buffer { world.tier.staging buffer with needByStep := needByStep }) with isHurried
  have hurries : Edits forsakes loses world hurried := by
    refine Edits.one (.touch ⟨rfl, rfl, rfl, rfl, rfl, rfl, rfl, fun other => ⟨_, _, _, rfl⟩, fun other => ?_⟩)
    by_cases there : other = buffer
    · rw [there]
      refine .inr ⟨?_, needByStep, Tier.setStaging_self ..⟩
      rw [reading]
      exact nofun
    · exact .inl (Tier.setStaging_of_ne _ _ there)
  have here : hurried.tier.staging buffer = { world.tier.staging buffer with needByStep := needByStep } :=
    Tier.setStaging_self ..
  have joins : Edit forsakes loses hurried _ := .join (.inl ((congrArg Staging.state here).trans reading))
  rw [here, isHurried] at joins
  unfold withTier Tier.setStaging at joins
  dsimp only at joins
  rw [update_idem] at joins
  exact hurries.trans (Edits.one joins)

/-- A demand for a block. -/
theorem requestDemand_edits (replies : Replies) (sound : world.tier.Sound) (contentHash : UInt64)
    (contentDigest : Digest) (stepNow deadlineStep : UInt32)
    (drops : digestIsUsable contentDigest = true → ∀ index,
      world.tier.lookupVerified contentHash contentDigest = .ok index →
        world.DropsOrder replies index deadlineStep → loses) :
    Edits (¬ replies.Cancels) loses world
      (world.requestDemand replies contentHash contentDigest stepNow deadlineStep).2 := by
  unfold requestDemand
  split
  · exact Edits.refl world
  rename_i valid
  have usable : digestIsUsable contentDigest = true :=
    Bool.eq_true_of_not_eq_false fun unusable => valid (.inr unusable)
  split
  · exact Edits.refl world
  · exact Edits.refl world
  rename_i index found
  obtain ⟨linked, -⟩ := lookupVerified_ok sound found
  have touched := touched_setSlot world index true (world.tier.slots index).needByStep (world.tier.slots index).pinCount
  dsimp only
  obtain ⟨used, isUsed⟩ : ∃ used, used = world.setSlot index { world.tier.slots index with referenced := true } :=
    ⟨_, rfl⟩
  have uses : Edits (¬ replies.Cancels) loses world used := by
    rw [isUsed]
    exact Edits.one (.touch touched)
  have here : used.tier.slots index = { world.tier.slots index with referenced := true } := by
    rw [isUsed]
    exact Tier.setSlot_self ..
  have staging : used.tier.staging = world.tier.staging := by
    rw [isUsed]
    rfl
  have handed : used.handed = world.handed ∧ used.contents = world.contents := by
    rw [isUsed]
    exact ⟨rfl, rfl⟩
  have usedSound := uses.sound sound
  rw [← isUsed]
  split
  · -- the block is in a buffer, which is for the demand from now on
    rename_i buffer ready back
    have usedBack : (used.tier.slots index).stagingIndex = some buffer := by
      rw [here]
      exact back
    have usedReady : (used.tier.slots index).state = .ready := by
      rw [here]
      exact ready
    have hands : Edits (¬ replies.Cancels) loses used _ := hand_edits usedSound usedBack usedReady
    rw [here, staging, handed.1, handed.2] at hands
    exact uses.trans hands
  · exact uses
  · exact uses
  · -- the block is being read
    rename_i buffer filling back
    obtain ⟨busy, -, ⟨-, states⟩ | ⟨ready, -⟩⟩ := staging_state sound back
    swap
    · rw [filling] at ready
      cases ready
    split
    · exact uses
    split
    · refine uses.trans (Edits.one (.touch ⟨rfl, rfl, rfl, rfl, rfl, rfl, rfl, fun other => ?_, fun other => ?_⟩))
      · by_cases same : other = index
        · rw [same, here]
          exact ⟨true, stepNow, _, Tier.setSlot_self ..⟩
        · exact ⟨_, _, _, Tier.setSlot_of_ne _ _ same⟩
      · rw [staging]
        by_cases there : other = buffer
        · rw [there]
          exact .inr ⟨busy, _, Tier.setStaging_self ..⟩
        · refine .inl ((Tier.setStaging_of_ne _ _ there).trans ?_)
          rw [staging]
    · rename_i notCancelled
      have reading := states.resolve_right notCancelled
      rw [← staging] at reading ⊢
      exact uses.trans (join_edits reading _)
  · rename_i notReady notReadyBuffer notFilling notFillingBuffer
    have present : (world.tier.slots index).state = .present := by
      have isLinked := linked.2
      have staged := sound.buffered.staged index
      revert isLinked notReady notReadyBuffer notFilling notFillingBuffer staged
      cases (world.tier.slots index).state <;> cases (world.tier.slots index).stagingIndex <;>
        simp [SlotState.linked]
    -- the use of the block is no part of what decides whether the order is lost
    have sameIndex : (used.tier.slots index).state = .present ∧
        (used.tier.slots index).queued = (world.tier.slots index).queued := by
      rw [here]
      exact ⟨present, rfl⟩
    have entries : used.tier.entries = world.tier.entries := by
      rw [isUsed]
      rfl
    have slotCount : used.tier.slotCount = world.tier.slotCount := by
      rw [isUsed]
      rfl
    have wasStale : Stale used index → Stale world index := by
      rintro ⟨-, unqueued, entry, member, isSlot⟩
      rw [sameIndex.2] at unqueued
      rw [entries] at member
      exact ⟨present, unqueued, entry, member, isSlot⟩
    have wasStarved : used.Starved replies → world.Starved replies := by
      intro starved
      refine starved.congr ?_ ?_ slotCount staging fun other => ?_
      · rw [isUsed]
        rfl
      · rw [isUsed]
        rfl
      · by_cases same : other = index
        · rw [same, here]
        · rw [isUsed]
          exact congrArg Slot.pinCount (Tier.setSlot_of_ne _ _ same)
    have inRange : index < used.tier.slotCount := by
      rw [slotCount]
      exact linked.1
    split
    · rename_i deadline
      refine uses.trans (demandDeadline_edits replies usedSound deadlineStep inRange sameIndex.1 fun stale starved => ?_)
      refine drops usable index found ⟨present, wasStarved starved, ?_⟩
      rw [if_pos deadline]
      exact wasStale stale
    · rename_i noDeadline
      refine uses.trans (demandNow_edits replies usedSound stepNow inRange sameIndex.1 fun queued starved => ?_)
      refine drops usable index found ⟨present, wasStarved starved, ?_⟩
      rw [if_neg noDeadline, ← sameIndex.2]
      exact queued

end Demand

end World

end Sparkpipe.NvmeTier
