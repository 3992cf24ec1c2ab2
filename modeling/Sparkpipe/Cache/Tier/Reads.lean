import Sparkpipe.Cache.Tier.Runs

/-!
# Reads into the staging buffers

As long as a read is outstanding its buffer is kept for it, and a block that has been handed to
a demand stays as it was verified. The exception is a read that is given up because its
cancellation failed: its buffer is taken while the device may still write into it.
-/

namespace Sparkpipe.NvmeTier

open Function

namespace World

variable {forsakes loses : Prop} {world before after : World} {index buffer : Nat}

/-- A buffer has the read that its state names and no other, what it holds as `READY` has been
verified, and what has been handed to a demand is still there. -/
structure Exclusive (world : World) : Prop where
  reading : ∀ buffer, (world.tier.staging buffer).state = .filling ∨
      (world.tier.staging buffer).state = .cancelPending →
    ∃ index, (world.tier.staging buffer).slot = some index ∧
      world.outstanding buffer = [((world.tier.staging buffer).ticket, index)]
  quiet : ∀ buffer, (world.tier.staging buffer).state = .free ∨ (world.tier.staging buffer).state = .ready →
    world.outstanding buffer = []
  verified : ∀ buffer index, (world.tier.staging buffer).state = .ready →
    (world.tier.staging buffer).slot = some index →
      (world.tier.slots index).digest = Sha256.digest (world.contents buffer)
  handed : ∀ buffer bytes digest, world.handed buffer = some (bytes, digest) →
    (world.tier.staging buffer).state = .ready ∧ (world.tier.staging buffer).holder = .demand ∧
      world.contents buffer = bytes ∧ Sha256.digest bytes = digest

/-- Nothing that the reads depend on has changed. -/
structure SameReads (before after : World) : Prop where
  contents : after.contents = before.contents
  outstanding : after.outstanding = before.outstanding
  handed : after.handed = before.handed
  staging : ∀ buffer, (after.tier.staging buffer).state = (before.tier.staging buffer).state ∧
    (after.tier.staging buffer).slot = (before.tier.staging buffer).slot ∧
    (after.tier.staging buffer).ticket = (before.tier.staging buffer).ticket ∧
    ((before.tier.staging buffer).holder = .demand → (after.tier.staging buffer).holder = .demand)
  digest : ∀ index, (before.tier.slots index).state.staged = true →
    (after.tier.slots index).digest = (before.tier.slots index).digest

theorem SameReads.exclusive (same : SameReads before after) (sound : before.tier.Sound)
    (exclusive : before.Exclusive) : after.Exclusive := by
  constructor
  · intro buffer busy
    obtain ⟨state, slot, ticket, -⟩ := same.staging buffer
    rw [state] at busy
    rw [slot, ticket, same.outstanding]
    exact exclusive.reading buffer busy
  · intro buffer idle
    rw [(same.staging buffer).1] at idle
    rw [same.outstanding]
    exact exclusive.quiet buffer idle
  · intro buffer index ready named
    obtain ⟨state, slot, -, -⟩ := same.staging buffer
    rw [state] at ready
    rw [slot] at named
    obtain ⟨found, isFound, -, -, -, staged⟩ := sound.buffered.named (sound.buffered.busy named)
    cases named.symm.trans isFound
    rw [same.digest index staged, same.contents]
    exact exclusive.verified buffer index ready named
  · intro buffer bytes digest isHanded
    rw [same.handed] at isHanded
    obtain ⟨ready, demand, holds, verified⟩ := exclusive.handed buffer bytes digest isHanded
    obtain ⟨state, -, -, holder⟩ := same.staging buffer
    rw [state, same.contents]
    exact ⟨ready, holder demand, holds, verified⟩

/-- One buffer changes that has not been handed out: it has to answer for itself alone. -/
theorem Exclusive.changeBuffer (exclusive : before.Exclusive) (buffer : Nat)
    (others : ∀ other, other ≠ buffer → after.tier.staging other = before.tier.staging other ∧
      after.outstanding other = before.outstanding other ∧ after.handed other = before.handed other)
    (contents : after.contents = before.contents)
    (digests : ∀ slot, (after.tier.slots slot).digest = (before.tier.slots slot).digest)
    (reading : (after.tier.staging buffer).state = .filling ∨ (after.tier.staging buffer).state = .cancelPending →
      ∃ index, (after.tier.staging buffer).slot = some index ∧
        after.outstanding buffer = [((after.tier.staging buffer).ticket, index)])
    (quiet : (after.tier.staging buffer).state = .free ∨ (after.tier.staging buffer).state = .ready →
      after.outstanding buffer = [])
    (verified : ∀ index, (after.tier.staging buffer).state = .ready → (after.tier.staging buffer).slot = some index →
      (before.tier.slots index).digest = Sha256.digest (before.contents buffer))
    (unhanded : after.handed buffer = none) : after.Exclusive := by
  constructor
  · intro other isReading
    by_cases same : other = buffer
    · rw [same] at isReading ⊢
      exact reading isReading
    · obtain ⟨staging, outstanding, -⟩ := others other same
      rw [staging] at isReading ⊢
      rw [outstanding]
      exact exclusive.reading other isReading
  · intro other idle
    by_cases same : other = buffer
    · rw [same] at idle ⊢
      exact quiet idle
    · obtain ⟨staging, outstanding, -⟩ := others other same
      rw [staging] at idle
      rw [outstanding]
      exact exclusive.quiet other idle
  · intro other slot ready isNamed
    rw [digests, contents]
    by_cases same : other = buffer
    · rw [same] at ready isNamed ⊢
      exact verified slot ready isNamed
    · rw [(others other same).1] at ready isNamed
      exact exclusive.verified other slot ready isNamed
  · intro other bytes digest isHanded
    by_cases same : other = buffer
    · rw [same, unhanded] at isHanded
      cases isHanded
    · obtain ⟨staging, -, handed⟩ := others other same
      rw [handed] at isHanded
      rw [staging, contents]
      exact exclusive.handed other bytes digest isHanded

/-- A buffer is released whose read is over, or that had none. -/
theorem Exclusive.release (exclusive : world.Exclusive) (sound : world.tier.Sound)
    (busy : (world.tier.staging buffer).state ≠ .free) {after : World}
    (isReleased : after.tier = world.tier.stagingRelease buffer) (contents : after.contents = world.contents)
    (quiet : after.outstanding buffer = [])
    (outstanding : ∀ other, other ≠ buffer → after.outstanding other = world.outstanding other)
    (unhanded : after.handed buffer = none)
    (handed : ∀ other, other ≠ buffer → after.handed other = world.handed other) : after.Exclusive := by
  obtain ⟨index, named, -, -, -, -⟩ := sound.buffered.named busy
  rw [sound.buffered.stagingRelease named] at isReleased
  have here : after.tier.staging buffer = {} := by
    rw [isReleased]
    exact Tier.setStaging_self ..
  refine exclusive.changeBuffer buffer (fun other different => ⟨?_, outstanding other different, handed other different⟩)
    contents (fun slot => ?_) (fun reading => ?_) (fun _ => quiet) (fun index ready => ?_) unhanded
  · rw [isReleased]
    exact Tier.setStaging_of_ne _ _ different
  · rw [isReleased]
    exact update_field Slot.digest (by rfl) slot
  · rw [here] at reading
    rcases reading with state | state <;> cases state
  · rw [here] at ready
    cases ready

/-- A buffer that is not `READY` has not been handed out. -/
theorem Exclusive.unhanded (exclusive : world.Exclusive) (state : (world.tier.staging buffer).state ≠ .ready) :
    world.handed buffer = none := by
  cases isHanded : world.handed buffer with
  | none => rfl
  | some both => exact absurd (exclusive.handed buffer both.1 both.2 isHanded).1 state

/-- A vacated slot had no buffer. -/
theorem sameReads_vacated {tier : Tier} (vacated : Tier.Vacated world.tier tier index)
    (unstaged : (world.tier.slots index).state.staged = false) {after : World} (isTier : after.tier = tier)
    (contents : after.contents = world.contents) (outstanding : after.outstanding = world.outstanding)
    (handed : after.handed = world.handed) : SameReads world after := by
  refine ⟨contents, outstanding, handed, fun buffer => ?_, fun other staged => ?_⟩
  · rw [isTier, vacated.staging]
    exact ⟨rfl, rfl, rfl, id⟩
  · have different : other ≠ index := by
      rintro rfl
      rw [unstaged] at staged
      cases staged
    obtain ⟨link, same⟩ := vacated.others other different
    rw [isTier, same]

/-- A read starts in a buffer that has none. -/
theorem Exclusive.issue (exclusive : world.Exclusive) (free : (world.tier.staging buffer).state = .free)
    (holder : Holder) (needByStep : UInt32) (ticket : UInt64) :
    (world.issueRead index buffer holder needByStep (.ok, ticket)).2.Exclusive := by
  have here : (world.issueRead index buffer holder needByStep (.ok, ticket)).2.tier.staging buffer =
      { ticket := ticket
        slot := some index
        generation := (world.tier.slots index).generation
        needByStep := needByStep
        state := .filling
        holder := holder } := Tier.setStaging_self ..
  refine exclusive.changeBuffer buffer
    (fun other different => ⟨Tier.setStaging_of_ne _ _ different, update_of_ne different .., rfl⟩) rfl
    (update_field Slot.digest (by rfl)) (fun _ => ⟨index, ?_, ?_⟩) (fun idle => ?_) (fun slot ready => ?_)
    (exclusive.unhanded (by simp [free]))
  · rw [here]
  · rw [here]
    refine (update_self ..).trans ?_
    rw [exclusive.quiet buffer (Or.inl free)]
  · rw [here] at idle
    rcases idle with state | state <;> cases state
  · rw [here] at ready
    cases ready

/-- A read that is over leaves a buffer without reads. -/
theorem Exclusive.ended (exclusive : world.Exclusive)
    (busy : (world.tier.staging buffer).state = .filling ∨ (world.tier.staging buffer).state = .cancelPending) :
    (world.ended buffer).outstanding buffer = [] := by
  obtain ⟨index, -, reads⟩ := exclusive.reading buffer busy
  refine (update_self ..).trans ?_
  rw [reads]
  exact List.eraseP_cons_of_pos (decide_eq_true rfl)

/-- A read lands and is verified. -/
theorem Exclusive.land (exclusive : world.Exclusive)
    (filling : (world.tier.staging buffer).state = .filling) (named : (world.tier.staging buffer).slot = some index)
    (verified : (world.tier.slots index).digest = Sha256.digest (world.contents buffer)) :
    ((world.ended buffer).landed buffer index).2.Exclusive := by
  have shape := @landed_verified world index buffer verified
  have here : ((world.ended buffer).landed buffer index).2.tier.staging buffer =
      { world.tier.staging buffer with state := .ready } := by
    rw [shape]
    exact Tier.setStaging_self ..
  have ended := exclusive.ended (.inl filling)
  refine exclusive.changeBuffer buffer (fun other different => ?_) (by rw [shape]; rfl) (fun slot => ?_)
    (fun reading => ?_) (fun _ => by rw [shape]; exact ended) (fun slot _ isNamed => ?_)
    (by rw [shape]; exact exclusive.unhanded (by simp [filling]))
  · rw [shape]
    exact ⟨Tier.setStaging_of_ne _ _ different, update_of_ne different .., rfl⟩
  · rw [shape]
    exact update_field Slot.digest (by rfl) slot
  · rw [here] at reading
    rcases reading with state | state <;> cases state
  · rw [here] at isNamed
    cases named.symm.trans isNamed
    exact verified

/-- A change to the tables that leaves the staging buffers alone, and the digests of the slots that
have one. -/
theorem sameReads_of_tables (contents : after.contents = before.contents)
    (outstanding : after.outstanding = before.outstanding) (handed : after.handed = before.handed)
    (staging : after.tier.staging = before.tier.staging)
    (digest : ∀ index, (before.tier.slots index).state.staged = true →
      (after.tier.slots index).digest = (before.tier.slots index).digest) : SameReads before after := by
  refine ⟨contents, outstanding, handed, fun buffer => ?_, digest⟩
  rw [staging]
  exact ⟨rfl, rfl, rfl, id⟩

/-- Each change keeps the buffers exclusive, unless it gives up a read that is outstanding. -/
theorem edit_exclusive (edit : Edit forsakes loses before after) (keeps : ¬ forsakes) (sound : before.tier.Sound)
    (exclusive : before.Exclusive) : after.Exclusive := by
  -- a slot that is not being filled or ready may be rewritten
  have rewritten : ∀ {index : Nat} {slot : Slot}, (before.tier.slots index).state.staged = false →
      ∀ other, (before.tier.slots other).state.staged = true →
        ((before.tier.setSlot index slot).slots other).digest = (before.tier.slots other).digest := by
    intro index slot unstaged other staged
    have different : other ≠ index := by
      rintro rfl
      rw [unstaged] at staged
      cases staged
    rw [Tier.setSlot_of_ne _ _ different]
  have unchanged : ∀ next, SameReads before next → next.Exclusive := fun _ same => same.exclusive sound exclusive
  cases edit with
  | @touch tier touched =>
    refine unchanged _ ⟨rfl, rfl, rfl, fun buffer => ?_, fun index _ => ?_⟩
    · rcases touched.staging buffer with same | ⟨-, needByStep, same⟩
      · change (tier.staging buffer).state = _ ∧ (tier.staging buffer).slot = _ ∧
          (tier.staging buffer).ticket = _ ∧ (_ → (tier.staging buffer).holder = _)
        rw [same]
        exact ⟨rfl, rfl, rfl, id⟩
      · change (tier.staging buffer).state = _ ∧ (tier.staging buffer).slot = _ ∧
          (tier.staging buffer).ticket = _ ∧ (_ → (tier.staging buffer).holder = _)
        rw [same]
        exact ⟨rfl, rfl, rfl, id⟩
    · obtain ⟨referenced, needByStep, pinCount, same⟩ := touched.slots index
      change (tier.slots index).digest = _
      rw [same]
  | @join buffer _ =>
    refine unchanged _ ⟨rfl, rfl, rfl, fun other => ?_, fun _ _ => rfl⟩
    change ((before.tier.setStaging buffer _).staging other).state = _ ∧
      ((before.tier.setStaging buffer _).staging other).slot = _ ∧
      ((before.tier.setStaging buffer _).staging other).ticket = _ ∧
      (_ → ((before.tier.setStaging buffer _).staging other).holder = _)
    by_cases here : other = buffer
    · rw [here, Tier.setStaging_self]
      exact ⟨rfl, rfl, rfl, fun _ => rfl⟩
    · rw [Tier.setStaging_of_ne _ _ here]
      exact ⟨rfl, rfl, rfl, id⟩
  | @hand index buffer ready named demand =>
    refine ⟨exclusive.reading, exclusive.quiet, exclusive.verified, fun other bytes digest isHanded => ?_⟩
    change update before.handed buffer _ other = _ at isHanded
    by_cases here : other = buffer
    · rw [here, update_self] at isHanded
      cases isHanded
      rw [here]
      exact ⟨ready, demand, rfl, (exclusive.verified buffer index ready named).symm⟩
    · rw [update_of_ne here] at isHanded
      exact exclusive.handed other bytes digest isHanded
  | @reserve index contentHash contentDigest head _ _ =>
    have free := sound.filing.free
    rw [head] at free
    obtain ⟨-, empty⟩ := free.head_member
    rw [popFree_some head]
    refine unchanged _ (sameReads_of_tables rfl rfl rfl rfl fun other staged => ?_)
    have different : other ≠ index := by
      rintro rfl
      rw [empty] at staged
      cases staged
    exact congrArg Slot.digest ((Tier.setSlot_of_ne _ _ different).trans (Tier.setSlot_of_ne _ _ different))
  | @commit index _ writing =>
    refine unchanged _ (sameReads_of_tables rfl rfl rfl rfl fun other staged => ?_)
    have different : other ≠ index := by
      rintro rfl
      rw [writing] at staged
      cases staged
    exact congrArg Slot.digest ((Tier.setSlot_of_ne _ _ different).trans (Tier.setSlot_of_ne _ _ different))
  | @abort index _ writing =>
    exact unchanged _ (sameReads_of_tables rfl rfl rfl rfl (rewritten (by rw [writing]; rfl)))
  | @evict index inRange present =>
    have linked : before.tier.Linked index := ⟨inRange, by rw [present]; rfl⟩
    have notStaged : (before.tier.slots index).state.staged = false := by rw [present]; rfl
    exact unchanged _ (sameReads_vacated (sound.filing.evictSlot linked (sound.unstaged index notStaged))
      notStaged rfl rfl rfl rfl)
  | @quarantine index inRange present =>
    have linked : before.tier.Linked index := ⟨inRange, by rw [present]; rfl⟩
    have notStaged : (before.tier.slots index).state.staged = false := by rw [present]; rfl
    exact unchanged _ (sameReads_vacated (sound.filing.quarantineSlot linked) notStaged rfl rfl rfl rfl)
  | @drop buffer ready prefetch =>
    have busy : (before.tier.staging buffer).state ≠ .free := by
      rw [ready]
      exact nofun
    refine exclusive.release sound busy rfl rfl (exclusive.quiet buffer (.inr ready)) (fun _ _ => rfl) ?_ fun _ _ => rfl
    -- a block that has been handed out is not held ahead of need
    change before.handed buffer = none
    cases isHanded : before.handed buffer with
    | none => rfl
    | some both =>
      have demand := (exclusive.handed buffer both.1 both.2 isHanded).2.1
      rw [prefetch] at demand
      cases demand
  | @consume buffer ready =>
    have busy : (before.tier.staging buffer).state ≠ .free := by
      rw [ready]
      exact nofun
    exact exclusive.release sound busy rfl rfl (exclusive.quiet buffer (.inr ready)) (fun _ _ => rfl)
      (update_self ..) fun _ different => update_of_ne different _ _
  | @finish buffer busy =>
    have notFree : (before.tier.staging buffer).state ≠ .free := by
      rcases busy with state | state <;> rw [state] <;> exact nofun
    have notReady : (before.tier.staging buffer).state ≠ .ready := by
      rcases busy with state | state <;> rw [state] <;> exact nofun
    exact exclusive.release sound notFree rfl rfl (exclusive.ended busy)
      (fun _ different => update_of_ne different _ _) (exclusive.unhanded notReady) fun _ _ => rfl
  | forsake allowed _ => exact absurd allowed keeps
  | @cancel buffer filling _ =>
    have here : (before.cancelPending buffer).tier.staging buffer =
        { before.tier.staging buffer with state := .cancelPending } := Tier.setStaging_self ..
    refine exclusive.changeBuffer buffer (fun other different => ⟨Tier.setStaging_of_ne _ _ different, rfl, rfl⟩) rfl
      (fun _ => rfl) (fun _ => ?_) (fun idle => ?_) (fun slot ready => ?_)
      (exclusive.unhanded (by simp [filling]))
    · rw [here]
      exact exclusive.reading buffer (.inl filling)
    · rw [here] at idle
      rcases idle with state | state <;> cases state
    · rw [here] at ready
      cases ready
  | issue _ _ _ _ free _ _ => exact exclusive.issue free _ _ _
  | land filling named verified => exact exclusive.land filling named verified
  | @enqueue index needByStep _ present _ _ =>
    exact unchanged _ (sameReads_of_tables rfl rfl rfl rfl (rewritten (by rw [present]; rfl)))
  | tighten _ _ => exact unchanged _ (sameReads_of_tables rfl rfl rfl rfl fun _ _ => rfl)
  | absorb _ _ _ => exact unchanged _ (sameReads_of_tables rfl rfl rfl rfl fun _ _ => rfl)
  | @dequeue index =>
    obtain ⟨slots, -, -, -, staging⟩ := dequeue_spec before index
    have kept : (before.dequeue index).contents = before.contents ∧
        (before.dequeue index).outstanding = before.outstanding ∧ (before.dequeue index).handed = before.handed := by
      unfold dequeue
      dsimp only
      split
      · split <;> exact ⟨rfl, rfl, rfl⟩
      · exact ⟨rfl, rfl, rfl⟩
    refine unchanged _ (sameReads_of_tables kept.1 kept.2.1 kept.2.2 staging fun other _ => ?_)
    rw [slots]
    exact update_field Slot.digest (by rfl) other
  | forget _ _ _ => exact unchanged _ (sameReads_of_tables rfl rfl rfl rfl fun _ _ => rfl)
  | lose _ => exact unchanged _ (sameReads_of_tables rfl rfl rfl rfl fun _ _ => rfl)
  | discard _ _ => exact unchanged _ (sameReads_of_tables rfl rfl rfl rfl fun _ _ => rfl)
  | @deviceWrite buffer bytes reading =>
    -- the buffer has a read, so it is neither verified nor handed out
    have notReady : (before.tier.staging buffer).state ≠ .ready := fun ready =>
      reading (exclusive.quiet buffer (.inr ready))
    have others : ∀ other, (before.tier.staging other).state = .ready →
        update before.contents buffer bytes other = before.contents other := by
      intro other ready
      rw [update_of_ne]
      rintro rfl
      exact notReady ready
    refine ⟨exclusive.reading, exclusive.quiet, fun other slot ready named => ?_, fun other held digest isHanded => ?_⟩
    · change _ = Sha256.digest (update before.contents buffer bytes other)
      rw [others other ready]
      exact exclusive.verified other slot ready named
    · have was := exclusive.handed other held digest isHanded
      change _ ∧ _ ∧ update before.contents buffer bytes other = held ∧ _
      rw [others other was.1]
      exact was

theorem edits_exclusive (edits : Edits forsakes loses before after) (keeps : ¬ forsakes) (sound : before.tier.Sound)
    (exclusive : before.Exclusive) : after.Exclusive := by
  induction edits with
  | refl => exact exclusive
  | tail edits edit ih => exact edit_exclusive edit keeps (Edits.sound edits sound) ih

/-- A new tier has no reads. -/
theorem initializeTier_exclusive {configuration : Configuration} {cancels : Bool} {contents : Nat → List UInt8}
    {start : World} (initialized : initializeTier configuration cancels contents = .ok start) : start.Exclusive := by
  obtain ⟨-, rfl⟩ := initializeTier_ok initialized
  constructor
  · intro buffer busy
    rcases busy with state | state <;> cases state
  · exact fun _ _ => rfl
  · exact fun _ _ ready => nomatch ready
  · exact fun _ _ _ handed => nomatch handed

/-- As long as no cancellation fails a buffer has one outstanding read at most, which is the one
that its state is kept for, and what has been handed to a demand has the digest of its slot and
is not written to. -/
theorem run_reads_exclusive {configuration : Configuration} {cancels : Bool} {contents : Nat → List UInt8} {start : World}
    (initialized : initializeTier configuration cancels contents = .ok start) (steps : List Step)
    (cancelled : ∀ step ∈ steps, step.Cancels) (buffer : Nat) :
    ((steps.foldl perform start).outstanding buffer).length ≤ 1 ∧
      (∀ ticket index, (ticket, index) ∈ (steps.foldl perform start).outstanding buffer →
        (((steps.foldl perform start).tier.staging buffer).state = .filling ∨
            ((steps.foldl perform start).tier.staging buffer).state = .cancelPending) ∧
          ((steps.foldl perform start).tier.staging buffer).ticket = ticket ∧
          ((steps.foldl perform start).tier.staging buffer).slot = some index) ∧
      ∀ bytes digest, (steps.foldl perform start).handed buffer = some (bytes, digest) →
        (steps.foldl perform start).contents buffer = bytes ∧ Sha256.digest bytes = digest := by
  have exclusive : (steps.foldl perform start).tier.Sound ∧ (steps.foldl perform start).Exclusive := by
    have begins : start.tier.Sound ∧ start.Exclusive :=
      ⟨initializeTier_sound initialized, initializeTier_exclusive initialized⟩
    clear initialized
    induction steps generalizing start with
    | nil => exact begins
    | cons step rest ih =>
      have edits := perform_edits begins.1 step
      have next := edits_exclusive edits (not_not.mpr (cancelled step (.head _))) begins.1 begins.2
      exact ih (fun later member => cancelled later (.tail _ member)) ⟨edits.sound begins.1, next⟩
  obtain ⟨-, reads⟩ := exclusive
  generalize steps.foldl perform start = world at reads ⊢
  have states : ((world.tier.staging buffer).state = .filling ∨ (world.tier.staging buffer).state = .cancelPending) ∨
      ((world.tier.staging buffer).state = .free ∨ (world.tier.staging buffer).state = .ready) := by
    cases (world.tier.staging buffer).state <;> simp
  have handed := fun bytes digest isHanded => (reads.handed buffer bytes digest isHanded).2.2
  rcases states with busy | idle
  · obtain ⟨index, named, one⟩ := reads.reading buffer busy
    rw [one]
    refine ⟨Nat.le_refl 1, fun ticket other member => ?_, handed⟩
    cases List.mem_singleton.mp member
    exact ⟨busy, rfl, named⟩
  · rw [reads.quiet buffer idle]
    exact ⟨Nat.zero_le 1, nofun, handed⟩

/-- The settings of a tier of three slots. -/
def threeSlots : Configuration := { smallTier with budgetBytes := 12288 }

/-- A tier with these settings. -/
def threeSlotTier : World where
  tier := {
    configuration := threeSlots
    cancels := true
    slotCount := 3
    transferSteps := 1
    slots := fun index => { nextFree := if index + 1 < 3 then some (index + 1) else none }
    freeHead := some 0 }
  contents := fun _ => []

/-- Three blocks are stored; one is read ahead of need, and the two others are demanded, when the
device answers the cancellation of the first read as told. -/
def twoDemands (cancel : SparkStatus) : List Step :=
  stored 7 [1] 0 1 ++ stored 8 [2] 1 1 ++ stored 9 [3] 2 1 ++
    [.planLookahead [{ contentHash := 7, needByStep := 9, contentDigest := [1] }] 0, .pump {},
      .requestDemand 8 [2] 0 0 {}, .requestDemand 9 [3] 0 0 { cancel := fun _ => cancel }]

theorem twoDemands_exclusive :
    (((twoDemands .ok).foldl perform threeSlotTier).outstanding 0).length ≤ 1 :=
  (run_reads_exclusive (show initializeTier threeSlots true (fun _ => []) = .ok threeSlotTier from rfl) (twoDemands .ok)
    (by
      have cancels : ({} : Replies).Cancels := fun _ => .inl rfl
      simp only [twoDemands, stored, List.cons_append, List.nil_append, List.forall_mem_cons]
      exact ⟨cancels, trivial, cancels, trivial, cancels, trivial, trivial, trivial, cancels, cancels, nofun⟩)
    0).1

/-- A cancellation fails, and the buffer of the read is given to another one. -/
theorem outstanding_twice : ¬ ∀ (configuration : Configuration) (cancels : Bool) (contents : Nat → List UInt8)
    (start : World) (steps : List Step), initializeTier configuration cancels contents = .ok start →
      ∀ buffer, ((steps.foldl perform start).outstanding buffer).length ≤ 1 := by
  intro exclusive
  have once := exclusive threeSlots true (fun _ => []) threeSlotTier (twoDemands .ioError) rfl 0
  revert once
  decide +kernel

end World

end Sparkpipe.NvmeTier
