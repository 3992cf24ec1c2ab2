import Sparkpipe.Cache.Tier.Demand
import Sparkpipe.Lib.Along

/-!
# Runs of the NVMe tier

The pump polls the reads that are outstanding and starts those that wait. With it every call is a
run of edits, so a tier stays sound from its initialization on, whatever the device answers.
-/

namespace Sparkpipe.NvmeTier

open Function

variable {forsakes loses : Prop} {world before middle after : World} {index other buffer : Nat}

namespace World

section Pump

/-- A read that is over. -/
theorem settle_edits (sound : world.tier.Sound)
    (busy : (world.tier.staging buffer).state = .filling ∨ (world.tier.staging buffer).state = .cancelPending)
    (status : SparkStatus) : Edits forsakes loses world (world.settle buffer status).2 := by
  have notFree : (world.tier.staging buffer).state ≠ .free := by
    rcases busy with state | state <;> rw [state] <;> exact nofun
  obtain ⟨index, named, back, inRange, -, -⟩ := sound.buffered.named notFree
  have finishes : Edits forsakes loses world ((world.ended buffer).release buffer) := Edits.one (.finish busy)
  unfold settle
  dsimp only
  rw [named]
  dsimp only
  split
  · rename_i cancelled
    split
    · exact finishes.trans (requeue_edits sound rfl named (sound.buffered.cancelled buffer cancelled) _)
    · exact finishes
  rename_i notCancelled
  have filling := busy.resolve_right notCancelled
  split
  · exact finishes
  split
  · by_cases verified : (world.tier.slots index).digest = Sha256.digest (world.contents buffer)
    · exact Edits.one (.land filling named verified)
    · have shape : ((world.ended buffer).landed buffer index).2 =
          ((world.ended buffer).release buffer).quarantine index := by
        unfold landed
        split
        · rfl
        · rename_i same
          exact absurd (not_not.mp same) verified
      have present := release_present sound back
      refine finishes.trans ?_
      rw [shape]
      exact Edits.one (.quarantine ((finishes.sound sound).filing.bounded index
        (present ▸ nofun)) present)
  · exact finishes

/-- The first loop of the pump. -/
theorem pollReads_edits (replies : Replies) (buffers : List Nat) (world : World) (sound : world.tier.Sound) :
    Edits forsakes loses world (pollReads replies buffers world).2 := by
  induction buffers generalizing world with
  | nil => exact Edits.refl world
  | cons buffer rest ih =>
    unfold pollReads
    split
    · exact ih world sound
    rename_i reading
    split
    · exact ih world sound
    · have busy : (world.tier.staging buffer).state = .filling ∨
          (world.tier.staging buffer).state = .cancelPending := by
        revert reading
        cases (world.tier.staging buffer).state <;> simp
      have settles : Edits forsakes loses world (world.settle buffer (replies.poll buffer)).2 :=
        settle_edits sound busy _
      exact andThen_preserves settles fun _ => settles.trans (ih _ (settles.sound sound))

/-- A buffer that has been claimed for a read is as good as a free one. -/
theorem claimed_issueRead (index : Nat) (sound : world.tier.Sound) (free : (world.tier.staging buffer).state = .free)
    (claim : Staging) (unnamed : claim.slot = none) (holder : Holder) (needByStep : UInt32)
    (reply : SparkStatus × UInt64) :
    ((world.withTier (world.tier.setStaging buffer claim)).issueRead index buffer holder needByStep reply).2 =
      (world.issueRead index buffer holder needByStep reply).2 := by
  unfold issueRead
  dsimp only
  split
  · have released : (world.tier.setStaging buffer claim).stagingRelease buffer = world.tier.stagingRelease buffer := by
      rw [sound.buffered.stagingRelease_free free]
      unfold Tier.stagingRelease
      rw [Tier.setStaging_self, unnamed]
      dsimp only
      have idle := sound.buffered.idle buffer free
      unfold Tier.setStaging
      dsimp only
      rw [update_idem, ← idle, update_eq_self]
    change World.mk _ _ _ _ _ = World.mk _ _ _ _ _
    congr 1
  · change World.mk _ _ _ _ _ = World.mk _ _ _ _ _
    congr 1
    unfold Tier.setSlot Tier.setStaging withTier
    dsimp only
    rw [update_idem]

/-- How many staging buffers are free. -/
theorem countP_range (count : Nat) (test : Nat → Bool) : (List.range count).countP test = tally count test := by
  unfold tally
  rw [Finset.card_def, Finset.filter_val]
  change _ = (Multiset.filter (fun index => test index = true) (List.range count : Multiset Nat)).card
  rw [Multiset.filter_coe, Multiset.coe_card, List.countP_eq_length_filter]
  congr 1
  refine List.filter_congr fun index _ => ?_
  exact Bool.decide_eq_true.symm

/-- A submission takes one free buffer at most. -/
theorem issueRead_free (index : Nat) (sound : world.tier.Sound)
    (bufferInRange : buffer < world.tier.configuration.stagingBufferCount)
    (free : (world.tier.staging buffer).state = .free) (holder : Holder) (needByStep : UInt32)
    (reply : SparkStatus × UInt64) {issued : World}
    (isIssued : issued = (world.issueRead index buffer holder needByStep reply).2) :
    (tally world.tier.configuration.stagingBufferCount fun other => (world.tier.staging other).state = .free) ≤
      (tally issued.tier.configuration.stagingBufferCount fun other => (issued.tier.staging other).state = .free) + 1 := by
  unfold issueRead at isIssued
  dsimp only at isIssued
  split at isIssued
  · have same : issued.tier = world.tier := by
      rw [isIssued]
      exact sound.buffered.stagingRelease_free free
    rw [same]
    exact Nat.le_succ _
  · rw [isIssued]
    refine Nat.le_of_eq (tally_lose bufferInRange (decide_eq_true free) ?_ fun other _ different => ?_)
    · refine decide_eq_false fun isFree => ?_
      have state := isFree
      change ((world.tier.setStaging buffer _).staging buffer).state = .free at state
      rw [Tier.setStaging_self] at state
      cases state
    · change decide (((world.tier.setStaging buffer _).staging other).state = .free) = _
      rw [Tier.setStaging_of_ne _ _ different]

/-- The first entry of the heap is the one of its slot. -/
theorem head_entry (sound : world.tier.Sound) {head : PendingEntry} {rest : List PendingEntry}
    (entries : world.tier.entries = head :: rest) :
    pendingFind world.tier.entries head.slot = some 0 ∧
      (∀ entry ∈ pendingRemoveAt world.tier.entries 0, entry.slot ≠ head.slot) ∧
      ((world.tier.slots head.slot).queued = true → head.slot < world.tier.slotCount ∧
        (world.tier.slots head.slot).state = .present ∧
        (world.tier.slots head.slot).generation = head.generation) := by
  have isHead : world.tier.entries[0]? = some head := by
    rw [entries]
    rfl
  have split := Heap.removeAt_perm pendingLess isHead
  have once := (split.map PendingEntry.slot).nodup_iff.mp sound.queueing.once
  have others : ∀ entry ∈ pendingRemoveAt world.tier.entries 0, entry.slot ≠ head.slot := by
    intro entry member same
    refine (List.nodup_cons.mp once).1 ?_
    rw [← same]
    exact List.mem_map_of_mem member
  refine ⟨?_, others, fun queued => ?_⟩
  · rw [entries]
    unfold pendingFind
    rw [List.findIdx?_cons, if_pos (decide_eq_true rfl)]
  · obtain ⟨inRange, present, entry, member, isSlot, generation⟩ := sound.queueing.queued head.slot queued
    refine ⟨inRange, present, ?_⟩
    rcases List.mem_cons.mp (split.mem_iff.mp member) with rfl | later
    · exact generation.symm
    · exact absurd isSlot (others entry later)

/-- The entry is for the block that its slot has, which waits for it on the drive. -/
def Valid (world : World) (entry : PendingEntry) : Prop :=
  entry.slot < world.tier.slotCount ∧ (world.tier.slots entry.slot).generation = entry.generation ∧
    (world.tier.slots entry.slot).state = .present ∧ (world.tier.slots entry.slot).queued = true

section Round

variable {head : PendingEntry} {rest : List PendingEntry} {replies : Replies} {rounds freeCount : Nat}

/-- An entry at the top whose slot is queued is the entry of its block. -/
theorem valid_iff (sound : world.tier.Sound) (entries : world.tier.entries = head :: rest) :
    world.Valid head ↔ (world.tier.slots head.slot).queued = true := by
  constructor
  · exact fun valid => valid.2.2.2
  · intro queued
    obtain ⟨inRange, present, generation⟩ := (head_entry sound entries).2.2 queued
    exact ⟨inRange, generation, present, queued⟩

/-- A round of the second loop of the pump, for an entry that was left behind by an earlier block
of its slot. -/
theorem issuePending_skip (entries : world.tier.entries = head :: rest)
    (enough : world.tier.configuration.demandReserveBuffers < freeCount) (stale : ¬ world.Valid head) :
    issuePending replies (rounds + 1) freeCount world = issuePending replies rounds freeCount
      (world.withTier { world.tier with entries := pendingRemoveAt world.tier.entries 0 }) := by
  rw [issuePending, entries]
  dsimp only
  rw [if_neg (Nat.not_le_of_lt enough), if_pos]
  by_contra valid
  simp only [not_or, Nat.not_le, not_not, Bool.not_eq_false] at valid
  exact stale valid

/-- The search for a free buffer finds one. -/
theorem freeBuffer_some (isFree : world.tier.freeBuffer = some buffer) :
    buffer < world.tier.configuration.stagingBufferCount ∧ (world.tier.staging buffer).state = .free := by
  unfold Tier.freeBuffer at isFree
  have accepted := List.find?_some isFree
  exact ⟨List.mem_range.mp (List.mem_of_find?_eq_some isFree), of_decide_eq_true accepted⟩

/-- A round for a valid entry: it is taken out and its block is read into a free buffer. -/
theorem issuePending_issue (sound : world.tier.Sound) (entries : world.tier.entries = head :: rest)
    (enough : world.tier.configuration.demandReserveBuffers < freeCount) (valid : world.Valid head)
    (isFree : world.tier.freeBuffer = some buffer) :
    issuePending replies (rounds + 1) freeCount world = issuePending replies rounds (freeCount - 1)
      ((world.dequeue head.slot).issueRead head.slot buffer .prefetch head.needByStep (replies.submit rounds)).2 := by
  obtain ⟨inRange, generation, present, queued⟩ := valid
  have free := (freeBuffer_some isFree).2
  have dequeues : Edits True True world (world.dequeue head.slot) := Edits.one .dequeue
  have staging := (dequeue_spec world head.slot).2.2.2.2
  -- taking the entry out and the mark off is what a dequeue does
  have dequeued : world.dequeue head.slot = ((world.withTier
      { world.tier with entries := pendingRemoveAt world.tier.entries 0 }).setSlot head.slot
        { world.tier.slots head.slot with queued := false }).forgetOrder head.slot := by
    unfold dequeue
    rw [if_pos queued, (head_entry sound entries).1]
  have claimed := claimed_issueRead head.slot (dequeues.sound sound) (by rw [staging]; exact free)
    { world.tier.staging buffer with state := .filling, holder := .prefetch, slot := none } rfl .prefetch
    head.needByStep (replies.submit rounds)
  rw [← claimed, dequeued, issuePending, entries]
  dsimp only
  rw [if_neg (Nat.not_le_of_lt enough), if_neg, isFree]
  · rfl
  · simp only [not_or, Nat.not_le, not_not, Bool.not_eq_false]
    exact ⟨inRange, generation, present, queued⟩

/-- As long as a free buffer is counted there is one. -/
theorem counted_free (enough : world.tier.configuration.demandReserveBuffers < freeCount)
    (counted : freeCount ≤ tally world.tier.configuration.stagingBufferCount fun buffer =>
      (world.tier.staging buffer).state = .free) : ∃ buffer, world.tier.freeBuffer = some buffer := by
  cases isFree : world.tier.freeBuffer with
  | some buffer => exact ⟨buffer, rfl⟩
  | none =>
    have none : tally world.tier.configuration.stagingBufferCount
        (fun buffer => (world.tier.staging buffer).state = .free) = 0 :=
      tally_eq_zero fun buffer inRange => Bool.eq_false_iff.mpr
        (List.find?_eq_none.mp isFree buffer (List.mem_range.mpr inRange))
    omega

/-- What such a round does, and how many buffers it leaves free. -/
theorem issue_edits (sound : world.tier.Sound) (entries : world.tier.entries = head :: rest) (valid : world.Valid head)
    (isFree : world.tier.freeBuffer = some buffer) (reply : SparkStatus × UInt64) {issued : World}
    (isIssued : issued = ((world.dequeue head.slot).issueRead head.slot buffer .prefetch head.needByStep reply).2) :
    Edits forsakes loses world issued ∧
      (tally world.tier.configuration.stagingBufferCount fun other => (world.tier.staging other).state = .free) ≤
        (tally issued.tier.configuration.stagingBufferCount fun other =>
          (issued.tier.staging other).state = .free) + 1 := by
  obtain ⟨inRange, -, present, queued⟩ := valid
  obtain ⟨found, others, -⟩ := head_entry sound entries
  obtain ⟨bufferInRange, free⟩ := freeBuffer_some isFree
  have dequeues : Edits forsakes loses world (world.dequeue head.slot) := Edits.one .dequeue
  obtain ⟨slots, configuration, -, slotCount, staging⟩ := dequeue_spec world head.slot
  have remaining : (world.dequeue head.slot).tier.entries = pendingRemoveAt world.tier.entries 0 := by
    unfold dequeue
    rw [if_pos queued, found]
    rfl
  have stillInRange : buffer < (world.dequeue head.slot).tier.configuration.stagingBufferCount := by
    rw [configuration]
    exact bufferInRange
  have stillFree : ((world.dequeue head.slot).tier.staging buffer).state = .free := by
    rw [staging]
    exact free
  have issues : Edits forsakes loses (world.dequeue head.slot) issued := by
    rw [isIssued]
    refine issueRead_edits (dequeues.sound sound) head.needByStep reply ?_ ?_ ?_ stillInRange stillFree nofun fun _ => ?_
    · rw [slotCount]
      exact inRange
    · rw [slots, update_self]
      exact present
    · rw [slots, update_self]
    · rw [remaining]
      exact others
  have fewer := issueRead_free head.slot (dequeues.sound sound) stillInRange stillFree .prefetch head.needByStep reply
    isIssued
  rw [staging, configuration] at fewer
  exact ⟨dequeues.trans issues, fewer⟩

end Round

/-- The second loop of the pump: as long as it counts a free buffer there is one. -/
theorem issuePending_edits (replies : Replies) (rounds freeCount : Nat) (world : World) (sound : world.tier.Sound)
    (counted : freeCount ≤ tally world.tier.configuration.stagingBufferCount fun buffer =>
      (world.tier.staging buffer).state = .free) :
    Edits forsakes loses world (issuePending replies rounds freeCount world) := by
  induction rounds generalizing freeCount world with
  | zero => exact Edits.refl world
  | succ rounds ih =>
    cases entries : world.tier.entries with
    | nil =>
      rw [issuePending, entries]
      exact Edits.refl world
    | cons head rest =>
      by_cases enough : world.tier.configuration.demandReserveBuffers < freeCount
      swap
      · rw [issuePending, entries]
        dsimp only
        rw [if_pos (Nat.le_of_not_lt enough)]
        exact Edits.refl world
      by_cases valid : world.Valid head
      · obtain ⟨buffer, isFree⟩ := counted_free enough counted
        obtain ⟨issues, fewer⟩ := issue_edits sound entries valid isFree (replies.submit rounds) rfl
        rw [issuePending_issue sound entries enough valid isFree]
        exact issues.trans (ih (freeCount - 1) _ (issues.sound sound) (by omega))
      · have discards : Edits forsakes loses world (world.withTier
            { world.tier with entries := pendingRemoveAt world.tier.entries 0 }) := by
          apply Edits.one (.discard entries _)
          rw [← Bool.not_eq_true, ← valid_iff sound entries]
          exact valid
        rw [issuePending_skip entries enough valid]
        exact discards.trans (ih freeCount _ (discards.sound sound) counted)

theorem pump_edits (replies : Replies) (sound : world.tier.Sound) :
    Edits forsakes loses world (world.pump replies).2 := by
  have polls : Edits forsakes loses world (pollReads replies world.tier.buffers world).2 :=
    pollReads_edits replies world.tier.buffers world sound
  refine andThen_preserves polls fun _ => polls.trans ?_
  exact issuePending_edits replies _ _ _ (polls.sound sound) (Nat.le_of_eq (countP_range _ _))

end Pump

end World

/-- No cancellation fails during the step: each is answered with `OK`, `BUSY` or `PENDING`. -/
def Step.Cancels : Step → Prop
  | .reserveWrite _ _ replies => replies.Cancels
  | .requestDemand _ _ _ _ replies => replies.Cancels
  | _ => True

namespace World

/-- The step loses an order: a need is put on the stale entry of an earlier block, or a demand
without a deadline takes its block out of the heap and finds no buffer for it. -/
def Loses (world : World) : Step → Prop
  | .planLookahead needs _ => ∃ need ∈ world.reached needs, ∃ index,
      world.tier.lookupVerified need.contentHash need.contentDigest = .ok index ∧ Stale world index
  | .requestDemand contentHash contentDigest _ deadlineStep replies => digestIsUsable contentDigest = true ∧
      ∃ index, world.tier.lookupVerified contentHash contentDigest = .ok index ∧
        world.DropsOrder replies index deadlineStep
  | _ => False

/-- Each step is a run of edits. -/
theorem perform_edits (sound : world.tier.Sound) (step : Step) :
    Edits (¬ step.Cancels) (world.Loses step) world (world.perform step) := by
  cases step with
  | reserveWrite contentHash contentDigest replies => exact reserveWrite_edits replies sound contentHash contentDigest
  | commitWrite reservation => exact commitWrite_edits world reservation
  | abortWrite reservation => exact abortWrite_edits world reservation
  | planLookahead needs stepNow =>
    exact planLookahead_edits stepNow needs {} sound fun need reached index found stale =>
      ⟨need, reached, index, found, stale⟩
  | requestDemand contentHash contentDigest stepNow deadlineStep replies =>
    exact requestDemand_edits replies sound contentHash contentDigest stepNow deadlineStep
      fun usable index found drops => ⟨usable, index, found, drops⟩
  | pump replies => exact pump_edits replies sound
  | consume contentHash contentDigest => exact consume_edits sound contentHash contentDigest
  | pin contentHash contentDigest pins => exact pin_edits world contentHash contentDigest pins
  | deviceWrite buffer bytes =>
    by_cases idle : world.outstanding buffer = []
    · have same : world.perform (.deviceWrite buffer bytes) = world := if_pos idle
      rw [same]
      exact Edits.refl world
    · have written : world.perform (.deviceWrite buffer bytes) =
          { world with contents := update world.contents buffer bytes } := if_neg idle
      rw [written]
      exact Edits.one (.deviceWrite idle)

theorem perform_sound (sound : world.tier.Sound) (step : Step) : (world.perform step).tier.Sound :=
  (perform_edits sound step).sound sound

/-- What `SparkNvmeTierInitialize` makes of a configuration that it accepts. -/
theorem initializeTier_ok {configuration : Configuration} {cancels : Bool} {contents : Nat → List UInt8}
    {start : World} (initialized : initializeTier configuration cancels contents = .ok start) :
    (0 < slotCountForBudget configuration ∧ 0 < configuration.hashBucketCount) ∧ start =
      { tier :=
          { configuration := configuration
            cancels := cancels
            slotCount := slotCountForBudget configuration
            transferSteps := transferStepsOf configuration
            slots := fun index =>
              { nextFree := if index + 1 < slotCountForBudget configuration then some (index + 1) else none }
            freeHead := some 0 }
        contents := contents } := by
  unfold initializeTier at initialized
  dsimp only at initialized
  split_ifs at initialized
  cases initialized
  exact ⟨by omega, rfl⟩

/-- A new tier is sound. -/
theorem initializeTier_sound {configuration : Configuration} {cancels : Bool} {contents : Nat → List UInt8}
    {start : World} (initialized : initializeTier configuration cancels contents = .ok start) : start.tier.Sound := by
  obtain ⟨⟨nonempty, bucketed⟩, rfl⟩ := initializeTier_ok initialized
  refine ⟨?_, ?_, ?_⟩
  · constructor
    · exact bucketed
    · exact fun _ used => absurd rfl used
    · exact Chain.filed_empty (fun _ => rfl) fun _ filed => nomatch filed.2
    · exact Chain.listed_successors (fun _ => rfl) nonempty fun _ => and_iff_left rfl
    · exact fun _ occupied => absurd rfl occupied.2
    · exact fun _ _ occupied => absurd rfl occupied.2
    · exact (tally_eq_zero fun _ _ => rfl).symm
  · constructor
    · exact Paired.empty
    · exact fun _ _ named => nomatch named
    · exact fun _ => rfl
    · exact fun _ busy => absurd rfl busy
    · exact fun _ _ => rfl
    · exact fun _ _ named => nomatch named
    · exact fun _ busy => absurd rfl busy
    · exact fun _ cancelled => nomatch cancelled
  · constructor
    · exact List.nodup_nil
    · exact fun _ queued => nomatch queued
    · exact fun _ _ named => nomatch named

theorem run_sound {configuration : Configuration} {cancels : Bool} {contents : Nat → List UInt8} {start : World}
    (initialized : initializeTier configuration cancels contents = .ok start) (steps : List Step) :
    (steps.foldl perform start).tier.Sound := by
  have always : Along perform (fun _ _ => True) steps start := Along.of_forall fun _ _ => trivial
  exact always.foldl (P := fun world => world.tier.Sound) (fun _ step sound _ => perform_sound sound step)
    (initializeTier_sound initialized)

end World

/-- The tables of the tier agree with each other: each slot in use is once in the bucket of its hash
unless it is being written, the free list has the others, and slots and staging buffers own
each other. -/
structure Tier.Consistent (tier : Tier) : Prop where
  linked : ∀ bucket < tier.configuration.hashBucketCount, ∃ chain,
    Chain.Follows (fun index => (tier.slots index).nextInBucket) (tier.buckets bucket) chain ∧ chain.Nodup ∧
      ∀ index, index ∈ chain ↔ tier.Occupied index ∧ (tier.slots index).state ≠ .writing ∧
        tier.bucketOf (tier.slots index).contentHash = bucket
  distinct : ∀ one other, tier.Occupied one → tier.Occupied other →
    (tier.slots one).contentHash = (tier.slots other).contentHash → one = other
  free : ∃ chain, Chain.Follows (fun index => (tier.slots index).nextFree) tier.freeHead chain ∧ chain.Nodup ∧
    ∀ index, index ∈ chain ↔ index < tier.slotCount ∧ ¬ tier.Occupied index
  inUse : tier.slotsInUse = tally tier.slotCount fun index => (tier.slots index).state ≠ .empty
  owner : ∀ one other buffer, (tier.slots one).stagingIndex = some buffer →
    (tier.slots other).stagingIndex = some buffer → one = other
  owned : ∀ buffer, (tier.staging buffer).state ≠ .free → ∃ index, (tier.staging buffer).slot = some index ∧
    (tier.slots index).stagingIndex = some buffer
  owns : ∀ index, (tier.slots index).state = .filling ∨ (tier.slots index).state = .ready → ∃ buffer,
    (tier.slots index).stagingIndex = some buffer ∧ buffer < tier.configuration.stagingBufferCount ∧
      (tier.staging buffer).slot = some index ∧ (tier.staging buffer).state ≠ .free

theorem Tier.Sound.consistent {tier : Tier} (sound : tier.Sound) : tier.Consistent := by
  constructor
  · intro bucket inRange
    obtain ⟨chain, follows, members⟩ := sound.filing.filed bucket inRange
    refine ⟨chain, follows, follows.nodup, fun index => (members index).trans ?_⟩
    have states : (tier.slots index).state.linked = true ↔
        (tier.slots index).state ≠ .empty ∧ (tier.slots index).state ≠ .writing := by
      cases (tier.slots index).state <;> simp [SlotState.linked]
    unfold Linked Occupied
    dsimp only
    rw [states]
    constructor
    · rintro ⟨⟨below, used, notWriting⟩, hashed⟩
      exact ⟨⟨below, used⟩, notWriting, hashed⟩
    · rintro ⟨⟨below, used⟩, notWriting, hashed⟩
      exact ⟨⟨below, used, notWriting⟩, hashed⟩
  · exact sound.filing.distinct
  · obtain ⟨chain, follows, members⟩ := sound.filing.free
    refine ⟨chain, follows, follows.nodup, fun index => (members index).trans ?_⟩
    constructor
    · rintro ⟨below, empty⟩
      exact ⟨below, fun occupied => occupied.2 empty⟩
    · rintro ⟨below, unoccupied⟩
      exact ⟨below, not_not.mp fun used => unoccupied ⟨below, used⟩⟩
  · exact sound.filing.inUse
  · exact fun one other buffer first second => sound.buffered.paired.unique first second
  · intro buffer busy
    obtain ⟨index, named, back, -⟩ := sound.buffered.named busy
    exact ⟨index, named, back⟩
  · intro index state
    have staged := sound.buffered.staged index
    have isStaged : (tier.slots index).state.staged = true := by
      rcases state with filling | ready
      · rw [filling]
        rfl
      · rw [ready]
        rfl
    rw [isStaged] at staged
    obtain ⟨buffer, back⟩ := Option.isSome_iff_exists.mp staged
    have named : (tier.staging buffer).slot = some index := (sound.buffered.paired index buffer).mp back
    exact ⟨buffer, back, (sound.buffered.inRange index buffer back).2, named, sound.buffered.busy named⟩

namespace World

/-- An unpin takes one pin away from a slot that has one, and nothing from any other. -/
theorem unpin_le (world : World) (contentHash : UInt64) (contentDigest : Digest) (index : Nat) :
    ((world.perform (.pin contentHash contentDigest false)).tier.slots index).pinCount ≤
      (world.tier.slots index).pinCount := by
  change ((world.pin contentHash contentDigest false).2.tier.slots index).pinCount ≤ _
  unfold pin
  split
  · exact UInt32.le_refl _
  split
  · exact UInt32.le_refl _
  rename_i found _
  dsimp only
  rw [if_neg Bool.false_ne_true]
  split
  · rename_i pinned
    by_cases here : index = found
    · rw [here]
      change ((world.tier.setSlot found _).slots found).pinCount ≤ _
      rw [Tier.setSlot_self]
      have positive : 1 ≤ (world.tier.slots found).pinCount := by
        rw [UInt32.le_iff_toNat_le]
        exact Nat.one_le_iff_ne_zero.mpr fun zero => pinned (UInt32.toNat_inj.mp zero)
      rw [UInt32.le_iff_toNat_le, UInt32.toNat_sub_of_le _ _ positive]
      exact Nat.sub_le ..
    · change ((world.tier.setSlot found _).slots index).pinCount ≤ _
      rw [Tier.setSlot_of_ne _ _ here]
      exact UInt32.le_refl _
  · exact UInt32.le_refl _

/-- The tables of a tier agree after any run of its calls, whatever the device has answered and
written, and no unpin takes a pin from a slot that has none. -/
theorem run_represented {configuration : Configuration} {cancels : Bool} {contents : Nat → List UInt8} {start : World}
    (initialized : initializeTier configuration cancels contents = .ok start) (steps : List Step) :
    (steps.foldl perform start).tier.Consistent ∧
      ∀ contentHash contentDigest index,
        (((steps.foldl perform start).perform (.pin contentHash contentDigest false)).tier.slots index).pinCount ≤
          ((steps.foldl perform start).tier.slots index).pinCount :=
  ⟨(run_sound initialized steps).consistent, unpin_le _⟩

/-- Two slots, and two buffers of which one is kept for demands. -/
def smallTier : Configuration where
  budgetBytes := 8192
  baseOffset := 0
  blockBytes := 4096
  hashBucketCount := 1
  stagingBufferCount := 2
  demandReserveBuffers := 1
  pendingCapacity := 2
  deviceBytesPerSecond := 4096000000
  stepTimeMicroseconds := 1000

/-- A tier with these settings. -/
def newTier : World where
  tier := {
    configuration := smallTier
    cancels := true
    slotCount := 2
    transferSteps := 1
    slots := fun index => { nextFree := if index + 1 < 2 then some (index + 1) else none }
    freeHead := some 0 }
  contents := fun _ => []

/-- A block is written into a slot that the tier is about to give out. -/
def stored (contentHash : UInt64) (contentDigest : Digest) (index : Nat) (generation : UInt32) : List Step :=
  [.reserveWrite contentHash contentDigest {}, .commitWrite {
    contentHash := contentHash
    deviceOffset := UInt64.ofNat index * 4096
    slotIndex := index
    generation := generation
    alreadyPresent := false
    contentDigest := contentDigest }]

theorem newTier_consistent :
    ([Step.reserveWrite 7 [1] {}].foldl perform newTier).tier.Consistent ∧
      ∀ contentHash contentDigest index,
        ((([Step.reserveWrite 7 [1] {}].foldl perform newTier).perform
          (.pin contentHash contentDigest false)).tier.slots index).pinCount ≤
            (([Step.reserveWrite 7 [1] {}].foldl perform newTier).tier.slots index).pinCount :=
  run_represented (show initializeTier smallTier true (fun _ => []) = .ok newTier from rfl) _

/-- A slot that is being written is in use and is in no bucket. -/
theorem writing_unlinked : ¬ ∀ (configuration : Configuration) (cancels : Bool) (contents : Nat → List UInt8)
    (start : World) (steps : List Step), initializeTier configuration cancels contents = .ok start →
      ∀ index, (steps.foldl perform start).tier.Occupied index → ∃ chain,
        Chain.Follows (fun other => ((steps.foldl perform start).tier.slots other).nextInBucket)
          ((steps.foldl perform start).tier.buckets ((steps.foldl perform start).tier.bucketOf
            ((steps.foldl perform start).tier.slots index).contentHash)) chain ∧ chain.count index = 1 := by
  intro linked
  have occupied : ([Step.reserveWrite 7 [1] {}].foldl perform newTier).tier.Occupied 0 := by
    constructor <;> decide +kernel
  have noChain : ([Step.reserveWrite 7 [1] {}].foldl perform newTier).tier.buckets
      (([Step.reserveWrite 7 [1] {}].foldl perform newTier).tier.bucketOf
        (([Step.reserveWrite 7 [1] {}].foldl perform newTier).tier.slots 0).contentHash) = none := by decide +kernel
  obtain ⟨chain, follows, once⟩ := linked smallTier true (fun _ => []) newTier _ rfl 0 occupied
  rw [noChain] at follows
  cases follows
  cases once

end World

end Sparkpipe.NvmeTier
