import Sparkpipe.Cache.Tier.Edits

/-!
# The calls as edits

Each call of the tier is a run of edits, whatever the device answers. It gives up a read that is
outstanding only when a cancellation fails. It loses an order only when the entry of an earlier
block is in the heap, and when a demand without a deadline finds no buffer.
-/

namespace Sparkpipe.NvmeTier

open Function

variable {forsakes loses : Prop} {world before middle after : World} {index other buffer : Nat}

theorem Edits.one (edit : Edit forsakes loses before after) : Edits forsakes loses before after :=
  Relation.ReflTransGen.single edit

theorem Edits.refl (world : World) : Edits forsakes loses world world := Relation.ReflTransGen.refl

theorem Edits.trans (first : Edits forsakes loses before middle) (second : Edits forsakes loses middle after) :
    Edits forsakes loses before after := Relation.ReflTransGen.trans first second

theorem Edits.sound (edits : Edits forsakes loses before after) (sound : before.tier.Sound) : after.tier.Sound := by
  induction edits with
  | refl => exact sound
  | tail _ edit ih => exact World.edit_sound edit ih

/-- The device answers a cancellation with `OK`, `BUSY` or `PENDING`. -/
def Replies.Cancels (replies : Replies) : Prop :=
  ∀ attempt, replies.cancel attempt = .ok ∨ replies.cancel attempt = .busy ∨ replies.cancel attempt = .pending

namespace World

section Small

/-- Marks of one slot. -/
theorem touched_setSlot (world : World) (index : Nat) (referenced : Bool) (needByStep pinCount : UInt32) :
    Touched world.tier (world.tier.setSlot index { world.tier.slots index with
      referenced := referenced
      needByStep := needByStep
      pinCount := pinCount }) := by
  refine ⟨rfl, rfl, rfl, rfl, rfl, rfl, rfl, fun other => ?_, fun _ => .inl rfl⟩
  by_cases here : other = index
  · rw [here, Tier.setSlot_self]
    exact ⟨_, _, _, rfl⟩
  · rw [Tier.setSlot_of_ne _ _ here]
    exact ⟨_, _, _, rfl⟩

/-- What a release does to the slot of the buffer. -/
theorem release_slot (sound : world.tier.Sound) (back : (world.tier.slots index).stagingIndex = some buffer) :
    (world.release buffer).tier = (world.tier.setSlot index { world.tier.slots index with
      state := .present
      stagingIndex := none }).setStaging buffer {} :=
  sound.buffered.stagingRelease ((sound.buffered.paired index buffer).mp back)

theorem release_present (sound : world.tier.Sound) (back : (world.tier.slots index).stagingIndex = some buffer) :
    ((world.release buffer).tier.slots index).state = .present := by
  rw [release_slot sound back]
  exact congrArg Slot.state (Tier.setSlot_self ..)

/-- The state of the buffer of a slot that is being filled or is ready. -/
theorem staging_state (sound : world.tier.Sound) (back : (world.tier.slots index).stagingIndex = some buffer) :
    (world.tier.staging buffer).state ≠ .free ∧ (world.tier.staging buffer).slot = some index ∧
      ((world.tier.slots index).state = .filling ∧
          ((world.tier.staging buffer).state = .filling ∨ (world.tier.staging buffer).state = .cancelPending) ∨
        (world.tier.slots index).state = .ready ∧ (world.tier.staging buffer).state = .ready) := by
  have named : (world.tier.staging buffer).slot = some index := (sound.buffered.paired index buffer).mp back
  have busy := sound.buffered.busy named
  have agree := (sound.buffered.agree index buffer back).1
  have staged := sound.buffered.staged index
  rw [back] at staged
  refine ⟨busy, named, ?_⟩
  revert staged busy agree
  cases (world.tier.slots index).state <;> cases (world.tier.staging buffer).state <;> simp [SlotState.staged]

end Small

section Evicting

/-- No slot has come into use, and the slots in use have their hashes. -/
def Shrinks (before after : World) : Prop :=
  ∀ other, after.tier.Occupied other → before.tier.Occupied other ∧
    (after.tier.slots other).contentHash = (before.tier.slots other).contentHash

theorem Shrinks.refl (world : World) : Shrinks world world := fun _ occupied => ⟨occupied, rfl⟩

theorem Shrinks.trans (first : Shrinks before middle) (second : Shrinks middle after) : Shrinks before after := by
  intro other occupied
  obtain ⟨was, same⟩ := second other occupied
  obtain ⟨first', same'⟩ := first other was
  exact ⟨first', same.trans same'⟩

theorem Shrinks.of_touched {tier : Tier} (touched : Touched world.tier tier) : Shrinks world (world.withTier tier) := by
  intro other occupied
  obtain ⟨referenced, needByStep, pinCount, same⟩ := touched.slots other
  obtain ⟨inRange, used⟩ := occupied
  change other < tier.slotCount at inRange
  change (tier.slots other).state ≠ .empty at used
  change _ ∧ (tier.slots other).contentHash = _
  rw [touched.slotCount] at inRange
  rw [same] at used ⊢
  exact ⟨⟨inRange, used⟩, rfl⟩

theorem Shrinks.release (sound : world.tier.Sound) (back : (world.tier.slots index).stagingIndex = some buffer) :
    Shrinks world (world.release buffer) := by
  intro other occupied
  unfold Tier.Occupied at occupied
  rw [release_slot sound back] at occupied ⊢
  have staged := sound.buffered.staged index
  rw [back] at staged
  obtain ⟨inRange, used⟩ := occupied
  change (update world.tier.slots index _ other).state ≠ .empty at used
  change _ ∧ (update world.tier.slots index _ other).contentHash = _
  by_cases here : other = index
  · rw [here, update_self]
    rw [here] at inRange
    refine ⟨⟨inRange, fun empty => ?_⟩, rfl⟩
    rw [empty] at staged
    cases staged
  · rw [update_of_ne here] at used ⊢
    exact ⟨⟨inRange, used⟩, rfl⟩

theorem Shrinks.evict (sound : world.tier.Sound) (inRange : index < world.tier.slotCount)
    (present : (world.tier.slots index).state = .present) : Shrinks world (world.evict index) := by
  have linked : world.tier.Linked index := ⟨inRange, by rw [present]; rfl⟩
  have vacated := sound.filing.evictSlot linked (sound.unstaged index (by rw [present]; rfl))
  intro other occupied
  obtain ⟨was, different⟩ := (vacated.occupied other).mp occupied
  obtain ⟨link, same⟩ := vacated.others other different
  refine ⟨was, ?_⟩
  change ((world.tier.evictSlot index).slots other).contentHash = _
  rw [same]

/-- The end of the clock's search: the slot is evicted and the free list has it. -/
theorem evict_edits (sound : world.tier.Sound) (inRange : index < world.tier.slotCount)
    (present : (world.tier.slots index).state = .present) :
    Edits forsakes loses world (world.evict index) ∧ Shrinks world (world.evict index) ∧
      (world.evict index).tier.freeHead = some index :=
  ⟨Edits.one (.evict inRange present), Shrinks.evict sound inRange present, rfl⟩

/-- The clock goes round, cancels reads and evicts one slot at most. -/
theorem clockEvict_edits (loses : Prop) (replies : Replies) (probes : Nat) (world : World) (sound : world.tier.Sound) :
    Edits (¬ replies.Cancels) loses world (clockEvict replies probes world).2 ∧
      Shrinks world (clockEvict replies probes world).2 ∧
      ∀ evicted, (clockEvict replies probes world).1 = some evicted →
        (clockEvict replies probes world).2.tier.freeHead = some evicted := by
  induction probes generalizing world with
  | zero => exact ⟨Edits.refl world, Shrinks.refl world, nofun⟩
  | succ probes ih =>
    have touched : Touched world.tier { world.tier with clockHand := (world.tier.clockHand + 1) % world.tier.slotCount } :=
      ⟨rfl, rfl, rfl, rfl, rfl, rfl, rfl, fun _ => ⟨_, _, _, rfl⟩, fun _ => .inl rfl⟩
    unfold clockEvict
    dsimp only
    obtain ⟨moved, isMoved⟩ : ∃ moved, moved = world.withTier
        { world.tier with clockHand := (world.tier.clockHand + 1) % world.tier.slotCount } := ⟨_, rfl⟩
    have moves : Edits (¬ replies.Cancels) loses world moved := by
      rw [isMoved]
      exact Edits.one (.touch touched)
    have movedShrinks : Shrinks world moved := by
      rw [isMoved]
      exact Shrinks.of_touched touched
    have movedSound := moves.sound sound
    have slots : moved.tier.slots = world.tier.slots := by rw [isMoved]; rfl
    have staging : moved.tier.staging = world.tier.staging := by rw [isMoved]; rfl
    have slotCount : moved.tier.slotCount = world.tier.slotCount := by rw [isMoved]; rfl
    rw [← isMoved]
    -- how the search goes on after a change to the world that the clock has moved in
    have goesOn : ∀ next, Edits (¬ replies.Cancels) loses moved next → Shrinks moved next →
        Edits (¬ replies.Cancels) loses world (clockEvict replies probes next).2 ∧
          Shrinks world (clockEvict replies probes next).2 ∧
          ∀ evicted, (clockEvict replies probes next).1 = some evicted →
            (clockEvict replies probes next).2.tier.freeHead = some evicted := by
      intro next edits shrinks
      obtain ⟨later, laterShrinks, found⟩ := ih next (edits.sound movedSound)
      exact ⟨(moves.trans edits).trans later, (movedShrinks.trans shrinks).trans laterShrinks, found⟩
    -- and how it ends
    have ends : ∀ next, Edits (¬ replies.Cancels) loses moved next → Shrinks moved next →
        (next.tier.slots world.tier.clockHand).state = .present →
        Edits (¬ replies.Cancels) loses world (next.evict world.tier.clockHand) ∧
          Shrinks world (next.evict world.tier.clockHand) ∧
          ∀ evicted, some world.tier.clockHand = some evicted →
            (next.evict world.tier.clockHand).tier.freeHead = some evicted := by
      intro next edits shrinks present
      have nextSound := edits.sound movedSound
      obtain ⟨last, lastShrinks, free⟩ := evict_edits nextSound
        (nextSound.filing.bounded _ (by simp [present])) present
      exact ⟨(moves.trans edits).trans last, (movedShrinks.trans shrinks).trans lastShrinks, fun _ same => same ▸ free⟩
    split
    · exact goesOn moved (Edits.refl moved) (Shrinks.refl moved)
    rename_i kept
    split
    · have marked := touched_setSlot moved world.tier.clockHand false
        (moved.tier.slots world.tier.clockHand).needByStep (moved.tier.slots world.tier.clockHand).pinCount
      rw [slots] at marked
      exact goesOn _ (Edits.one (.touch marked)) (Shrinks.of_touched marked)
    -- the slot is taken, once its read has been cancelled
    unfold Tier.clockSkips at kept
    split
    · rename_i buffer filling isBuffer
      rw [filling, isBuffer] at kept
      dsimp only at kept
      have back : (moved.tier.slots world.tier.clockHand).stagingIndex = some buffer := by
        rw [slots]
        exact isBuffer
      obtain ⟨busy, named, states⟩ := staging_state movedSound back
      have present := release_present movedSound back
      have released := Shrinks.release movedSound back
      rw [staging] at busy states
      rw [slots, filling] at states
      have reading : (world.tier.staging buffer).state = .filling := by
        revert kept states
        cases (world.tier.staging buffer).state <;> simp
      have prefetch : (world.tier.staging buffer).holder = .prefetch := by
        have held := movedSound.buffered.holder buffer
        rw [staging] at held
        have isHeld := held busy
        revert kept isHeld
        cases (world.tier.staging buffer).holder <;> simp
      rw [← staging] at reading prefetch
      split
      · exact ends _ (Edits.one (.finish (.inl reading))) released present
      · rename_i failed
        split
        · exact goesOn _ (Edits.one (.cancel reading prefetch)) (fun _ occupied => ⟨occupied, rfl⟩)
        · rename_i refused
          refine ends _ (Edits.one (.forsake (fun cancels => ?_) reading)) released present
          exact (cancels probes).elim failed refused
    · rename_i buffer ready isBuffer
      rw [ready, isBuffer] at kept
      dsimp only at kept
      have back : (moved.tier.slots world.tier.clockHand).stagingIndex = some buffer := by
        rw [slots]
        exact isBuffer
      obtain ⟨busy, named, states⟩ := staging_state movedSound back
      rw [staging] at busy states
      rw [slots, ready] at states
      have holds : (world.tier.staging buffer).state = .ready := by
        revert states
        simp
      have prefetch : (world.tier.staging buffer).holder = .prefetch := by
        have held := movedSound.buffered.holder buffer
        rw [staging] at held
        have isHeld := held busy
        revert kept isHeld
        cases (world.tier.staging buffer).holder <;> simp
      rw [← staging] at holds prefetch
      exact ends _ (Edits.one (.drop holds prefetch)) (Shrinks.release movedSound back)
        (release_present movedSound back)
    · rename_i notFilling notReady
      refine ends moved (Edits.refl moved) (Shrinks.refl moved) ?_
      rw [slots]
      revert kept notFilling notReady
      cases (world.tier.slots world.tier.clockHand).state <;>
        cases (world.tier.slots world.tier.clockHand).stagingIndex <;> simp

/-- A slot is acquired: the first of the free list, after an eviction where the list was empty. -/
theorem slotAcquire_edits (loses : Prop) (replies : Replies) (sound : world.tier.Sound) :
    ∃ evicted, Edits (¬ replies.Cancels) loses world evicted ∧ Shrinks world evicted ∧
      (world.slotAcquire replies = (none, evicted) ∨
        ∃ index, evicted.tier.freeHead = some index ∧ world.slotAcquire replies = (some index, evicted.popFree.2)) := by
  have pops : ∀ {popped : World} {index : Nat}, popped.tier.freeHead = some index →
      popped.popFree = (some index, popped.popFree.2) := by
    intro popped index head
    rw [popFree_some head]
  unfold slotAcquire
  split
  · rename_i isSome
    obtain ⟨index, head⟩ := Option.isSome_iff_exists.mp isSome
    exact ⟨world, Edits.refl world, Shrinks.refl world, .inr ⟨index, head, pops head⟩⟩
  · obtain ⟨edits, shrinks, found⟩ := clockEvict_edits loses replies
      (2 * world.tier.slotCount % 2 ^ 32) world sound
    refine ⟨_, edits, shrinks, ?_⟩
    dsimp only
    split
    · exact .inl rfl
    · rename_i some
      obtain ⟨index, isIndex⟩ := Option.ne_none_iff_exists'.mp some
      exact .inr ⟨index, found index isIndex, pops (found index isIndex)⟩

end Evicting

section Writes

/-- A reservation takes a slot for a content that no slot has. -/
theorem reserveWrite_edits (replies : Replies) (sound : world.tier.Sound) (contentHash : UInt64)
    (contentDigest : Digest) :
    Edits (¬ replies.Cancels) loses world (world.reserveWrite replies contentHash contentDigest).2 := by
  unfold reserveWrite
  split
  · exact Edits.refl world
  rename_i valid
  have named : contentHash ≠ 0 := fun zero => valid (.inl zero)
  split
  · rename_i index found
    split
    · exact Edits.refl world
    · exact Edits.one (.touch (touched_setSlot world index true _ _))
  rename_i missing
  split
  · split <;> exact Edits.refl world
  rename_i unwritten
  obtain ⟨evicted, edits, shrinks, failed | ⟨index, head, acquired⟩⟩ := slotAcquire_edits loses replies sound
  · rw [failed]
    exact edits
  · rw [acquired]
    refine edits.trans (Edits.one (.reserve head named fun other occupied same => ?_))
    -- a slot in use with this hash is on the drive or being written
    obtain ⟨was, sameHash⟩ := shrinks other occupied
    rw [sameHash] at same
    by_cases linked : world.tier.Linked other
    · have found := sound.filing.lookup_eq linked
      rw [same, missing] at found
      cases found
    · have writing : (world.tier.slots other).state = .writing := by
        have notLinked : (world.tier.slots other).state.linked ≠ true := fun isLinked => linked ⟨was.1, isLinked⟩
        have used := was.2
        revert notLinked used
        cases (world.tier.slots other).state <;> simp [SlotState.linked]
      have away := List.find?_eq_none.mp unwritten other (List.mem_range.mpr was.1)
      simp [writing, same] at away

theorem commitWrite_edits (world : World) (reservation : WriteReservation) :
    Edits forsakes loses world (world.commitWrite reservation).2 := by
  unfold commitWrite
  dsimp only
  split
  · exact Edits.refl world
  split
  · split
    · exact Edits.refl world
    · split <;> exact Edits.refl world
  split
  · exact Edits.refl world
  rename_i inRange
  split
  · exact Edits.refl world
  · rename_i agrees
    exact Edits.one (.commit (Nat.lt_of_not_le inRange) (not_not.mp fun other => agrees (.inl other)))

theorem abortWrite_edits (world : World) (reservation : WriteReservation) :
    Edits forsakes loses world (world.abortWrite reservation).2 := by
  unfold abortWrite
  dsimp only
  split
  · exact Edits.refl world
  split
  · exact Edits.refl world
  split
  · exact Edits.refl world
  rename_i inRange
  split
  · exact Edits.refl world
  · rename_i agrees
    exact Edits.one (.abort (Nat.lt_of_not_le inRange) (not_not.mp fun other => agrees (.inl other)))

theorem pin_edits (world : World) (contentHash : UInt64) (contentDigest : Digest) (pins : Bool) :
    Edits forsakes loses world (world.pin contentHash contentDigest pins).2 := by
  unfold pin
  split
  · exact Edits.refl world
  split
  · exact Edits.refl world
  · rename_i index _
    dsimp only
    split
    · exact Edits.one (.touch (touched_setSlot world index _ _ _))
    · split
      · exact Edits.one (.touch (touched_setSlot world index _ _ _))
      · exact Edits.refl world

end Writes

/-- A verified lookup finds a slot that is on the drive. -/
theorem lookupVerified_ok (sound : world.tier.Sound) {contentHash : UInt64} {contentDigest : Digest}
    (found : world.tier.lookupVerified contentHash contentDigest = .ok index) :
    world.tier.Linked index ∧ (world.tier.slots index).contentHash = contentHash := by
  unfold Tier.lookupVerified at found
  split at found
  · cases found
  · rename_i other isOther
    split at found
    · cases found
    · cases found
      exact sound.filing.lookup_some isOther

theorem consume_edits (sound : world.tier.Sound) (contentHash : UInt64) (contentDigest : Digest) :
    Edits forsakes loses world (world.consume contentHash contentDigest).2 := by
  unfold consume
  split
  · exact Edits.refl world
  split
  · exact Edits.refl world
  · rename_i index _
    have touched : Edits forsakes loses world
        (world.setSlot index { world.tier.slots index with referenced := true }) :=
      Edits.one (.touch (touched_setSlot world index true _ _))
    dsimp only
    split
    · rename_i buffer ready back
      obtain ⟨-, -, ⟨filling, -⟩ | ⟨-, holds⟩⟩ := staging_state sound back
      · rw [ready] at filling
        cases filling
      · exact touched.trans (Edits.one (.consume holds))
    · exact touched
    · exact Edits.refl world

section Plan

/-- The slot of a block that is only on the drive is not queued, and the heap has an entry of it
nevertheless: it was left there by an earlier block. -/
def Stale (world : World) (index : Nat) : Prop :=
  (world.tier.slots index).state = .present ∧ (world.tier.slots index).queued = false ∧
    ∃ entry ∈ world.tier.entries, entry.slot = index

theorem Stale.of_found (present : (world.tier.slots index).state = .present)
    (unqueued : (world.tier.slots index).queued = false) {position : Nat}
    (found : pendingFind world.tier.entries index = some position) : Stale world index := by
  obtain ⟨entry, isEntry, isSlot⟩ := Tier.pendingFind_some found
  exact ⟨present, unqueued, entry, List.mem_of_getElem? isEntry, isSlot⟩

/-- A need is put in the heap, or makes an entry that is there earlier. -/
theorem order_edits (forsakes : Prop) (sound : world.tier.Sound) (inRange : index < world.tier.slotCount)
    (present : (world.tier.slots index).state = .present) (needByStep : UInt32)
    (stale : Stale world index → loses) :
    (∀ position, pendingFind world.tier.entries index = some position →
        Edits forsakes loses world (world.tighten position index needByStep)) ∧
      (pendingFind world.tier.entries index = none → Edits forsakes loses world (world.enqueue index needByStep)) := by
  constructor
  · intro position found
    cases mark : (world.tier.slots index).queued with
    | true => exact Edits.one (.tighten found mark)
    | false => exact Edits.one (.absorb (stale (Stale.of_found present mark found)) found mark)
  · intro missing
    have fresh := Tier.pendingFind_none missing
    refine Edits.one (.enqueue inRange present ?_ fresh)
    by_contra queued
    obtain ⟨-, -, entry, member, isSlot, -⟩ :=
      sound.queueing.queued index (Bool.eq_true_of_not_eq_false queued)
    exact fresh entry member isSlot

/-- What one need leaves alone: the contents of the slots, and the entries of all slots that it does
not queue. -/
structure Planned (before after : World) : Prop where
  lookups : after.tier.lookupVerified = before.tier.lookupVerified
  stale : ∀ index, Stale after index → Stale before index

theorem Planned.refl (world : World) : Planned world world := ⟨rfl, fun _ => id⟩

theorem Planned.trans (first : Planned before middle) (second : Planned middle after) : Planned before after :=
  ⟨second.lookups.trans first.lookups, fun index stale => first.stale index (second.stale index stale)⟩

/-- Lookups do not depend on marks. -/
theorem lookupVerified_congr {tier changed : Tier} (configuration : changed.configuration = tier.configuration)
    (slotCount : changed.slotCount = tier.slotCount) (buckets : changed.buckets = tier.buckets)
    (slots : ∀ index, (changed.slots index).nextInBucket = (tier.slots index).nextInBucket ∧
      (changed.slots index).contentHash = (tier.slots index).contentHash ∧
      (changed.slots index).digest = (tier.slots index).digest ∧
      (changed.slots index).state = (tier.slots index).state) : changed.lookupVerified = tier.lookupVerified := by
  have links : (fun index => (changed.slots index).nextInBucket) = fun index => (tier.slots index).nextInBucket :=
    funext fun index => (slots index).1
  have lookups : changed.lookup = tier.lookup := by
    funext contentHash
    have accepted : (fun index => decide ((changed.slots index).state ≠ .empty) &&
        decide ((changed.slots index).contentHash = contentHash)) = fun index =>
          decide ((tier.slots index).state ≠ .empty) && decide ((tier.slots index).contentHash = contentHash) := by
      funext index
      rw [(slots index).2.2.2, (slots index).2.1]
    unfold Tier.lookup Tier.bucketOf
    rw [links, accepted, configuration, slotCount, buckets]
  funext contentHash contentDigest
  unfold Tier.lookupVerified
  rw [lookups]
  split
  · rfl
  · rename_i index _
    rw [(slots index).2.2.1]

theorem Planned.of_touched {tier : Tier} (touched : Touched world.tier tier) :
    Planned world (world.withTier tier) := by
  refine ⟨lookupVerified_congr touched.configuration touched.slotCount touched.buckets
    fun index => ?_, fun index stale => ?_⟩
  · obtain ⟨referenced, needByStep, pinCount, same⟩ := touched.slots index
    change (tier.slots index).nextInBucket = _ ∧ (tier.slots index).contentHash = _ ∧ (tier.slots index).digest = _ ∧
      (tier.slots index).state = _
    rw [same]
    exact ⟨rfl, rfl, rfl, rfl⟩
  · obtain ⟨referenced, needByStep, pinCount, same⟩ := touched.slots index
    obtain ⟨present, unqueued, entry, member, isSlot⟩ := stale
    change (tier.slots index).state = _ at present
    change (tier.slots index).queued = _ at unqueued
    change entry ∈ tier.entries at member
    rw [same] at present unqueued
    rw [touched.entries] at member
    exact ⟨present, unqueued, entry, member, isSlot⟩

theorem Planned.tighten {position : Nat} {needByStep : UInt32}
    (found : pendingFind world.tier.entries index = some position) :
    Planned world (world.tighten position index needByStep) := by
  obtain ⟨entry, rest, -, split, replaced⟩ := pendingTighten_split found needByStep
  refine ⟨lookupVerified_congr rfl rfl rfl fun _ => ⟨rfl, rfl, rfl, rfl⟩, ?_⟩
  rintro other ⟨present, unqueued, later, member, isSlot⟩
  refine ⟨present, unqueued, ?_⟩
  rcases List.mem_cons.mp (replaced.mem_iff.mp member) with rfl | inside
  · exact ⟨entry, split.mem_iff.mpr (.head _), isSlot⟩
  · exact ⟨later, split.mem_iff.mpr (.tail _ inside), isSlot⟩

theorem Planned.enqueue {needByStep : UInt32} : Planned world (world.enqueue index needByStep) := by
  have marks := setSlot_marks world.tier index true
  set after := world.tier.setSlot index { world.tier.slots index with queued := true } with isAfter
  constructor
  · refine lookupVerified_congr rfl rfl rfl fun other => ?_
    obtain ⟨mark, same⟩ := marks other
    change (after.slots other).nextInBucket = _ ∧
      (after.slots other).contentHash = _ ∧
      (after.slots other).digest = _ ∧
      (after.slots other).state = _
    rw [same]
    exact ⟨rfl, rfl, rfl, rfl⟩
  · rintro other ⟨present, unqueued, entry, member, isSlot⟩
    change (after.slots other).state = _ at present
    change (after.slots other).queued = _ at unqueued
    have different : other ≠ index := by
      rintro rfl
      rw [isAfter, Tier.setSlot_self] at unqueued
      cases unqueued
    rw [isAfter, Tier.setSlot_of_ne _ _ different] at present unqueued
    refine ⟨present, unqueued, entry, ?_, isSlot⟩
    rcases List.mem_cons.mp ((Heap.insert_perm _ _).mem_iff.mp member) with rfl | inside
    · exact absurd isSlot.symm different
    · exact inside

/-- One need of a lookahead. -/
theorem planNeed_edits (forsakes : Prop) (sound : world.tier.Sound) {stepNow : UInt32}
    {need : Need} {report next : PlanReport}
    (stale : ∀ index, world.tier.lookupVerified need.contentHash need.contentDigest = .ok index →
      Stale world index → loses) (planned : planNeed stepNow need report world = some (next, after)) :
    Edits forsakes loses world after ∧ Planned world after := by
  unfold planNeed at planned
  split at planned
  · cases planned
  · cases planned
    exact ⟨Edits.refl world, Planned.refl world⟩
  rename_i index found
  dsimp only at planned
  obtain ⟨linked, -⟩ := lookupVerified_ok sound found
  obtain ⟨needByStep, isNeed⟩ : ∃ needByStep, needByStep =
      if need.needByStep < (world.tier.slots index).needByStep ∨ (world.tier.slots index).state = .present then
        need.needByStep
      else (world.tier.slots index).needByStep := ⟨_, rfl⟩
  rw [← isNeed] at planned
  have touched := touched_setSlot world index true needByStep (world.tier.slots index).pinCount
  have touches : Edits forsakes loses world (world.withTier (world.tier.setSlot index { world.tier.slots index with
      referenced := true
      needByStep := needByStep })) := Edits.one (.touch touched)
  have plans := Planned.of_touched touched
  split at planned
  · cases planned
    exact ⟨touches, plans⟩
  rename_i notReady
  split at planned
  · rename_i filling
    cases planned
    split
    · exact ⟨touches, plans⟩
    · rename_i buffer back
      obtain ⟨busy, -⟩ := staging_state sound back
      split
      · refine ⟨touches.trans (Edits.one (.touch ?_)), plans.trans (Planned.of_touched ?_)⟩
        all_goals
          refine ⟨rfl, rfl, rfl, rfl, rfl, rfl, rfl, fun _ => ⟨_, _, _, rfl⟩, fun other => ?_⟩
          by_cases there : other = buffer
          · rw [there, Tier.setStaging_self]
            exact .inr ⟨busy, _, rfl⟩
          · exact .inl (Tier.setStaging_of_ne _ _ there)
      · exact ⟨touches, plans⟩
  rename_i notFilling
  have present : (world.tier.slots index).state = .present := by
    have isLinked := linked.2
    revert isLinked notReady notFilling
    cases (world.tier.slots index).state <;> simp [SlotState.linked]
  have marked : ((world.withTier (world.tier.setSlot index { world.tier.slots index with
      referenced := true
      needByStep := needByStep })).tier.slots index).state = .present := by
    refine (congrArg Slot.state (Tier.setSlot_self ..)).trans present
  obtain ⟨tightens, enqueues⟩ := order_edits forsakes (touches.sound sound) linked.1 marked need.needByStep
    fun isStale => stale index found (plans.stale index isStale)
  split at planned
  · rename_i position isFound
    cases planned
    exact ⟨touches.trans (tightens position isFound), plans.trans (Planned.tighten isFound)⟩
  · rename_i isMissing
    split at planned
    · cases planned
      exact ⟨touches, plans⟩
    · cases planned
      exact ⟨touches.trans (enqueues isMissing), plans.trans Planned.enqueue⟩

/-- The needs that a lookahead comes to: those before a block with another digest. -/
def reached (world : World) (needs : List Need) : List Need :=
  needs.takeWhile fun need => match world.tier.lookupVerified need.contentHash need.contentDigest with
    | .error .hashMismatch => false
    | _ => true

/-- A lookahead loses orders only to stale entries. -/
theorem planLookahead_edits (stepNow : UInt32) (needs : List Need) (report : PlanReport) (sound : world.tier.Sound)
    (stale : ∀ need ∈ world.reached needs, ∀ index,
      world.tier.lookupVerified need.contentHash need.contentDigest = .ok index → Stale world index → loses) :
    Edits forsakes loses world (planLookahead stepNow needs report world).2 := by
  induction needs generalizing report world with
  | nil => exact Edits.refl world
  | cons need rest ih =>
    unfold planLookahead
    split
    · exact Edits.refl world
    · rename_i next after planned
      have goesOn : world.reached (need :: rest) = need :: world.reached rest := by
        unfold reached
        rw [List.takeWhile_cons_of_pos]
        unfold planNeed at planned
        split at planned
        · cases planned
        · rename_i status notMismatch found
          rw [found]
          split
          · rename_i same
            cases same
            exact absurd rfl notMismatch
          · rfl
        · rename_i found
          rw [found]
      rw [goesOn] at stale
      obtain ⟨edits, plans⟩ := planNeed_edits forsakes sound (stale need (.head _)) planned
      refine edits.trans (ih next (edits.sound sound) fun later member index found isStale => ?_)
      have same : after.reached rest = world.reached rest := by
        unfold reached
        rw [plans.lookups]
      rw [same] at member
      rw [plans.lookups] at found
      exact stale later (.tail _ member) index found (plans.stale index isStale)

end Plan

end World

end Sparkpipe.NvmeTier
