import Sparkpipe.Cache.Tier.Runs

/-!
# Orders that wait

A need that has been ordered waits in the heap, as the one entry of the slot of its block, until
it is served, cancelled or evicted. It does not when the heap still has the entry of an earlier
block of the slot: that entry takes the order in, and is thrown away when its turn comes.
-/

namespace Sparkpipe.NvmeTier

open Function

namespace World

variable {forsakes loses : Prop} {world before after : World} {index buffer : Nat}

/-- The orders are those of the slots that are queued, each for the step of the slot's entry. -/
structure Kept (world : World) : Prop where
  ordered : ∀ index, (world.tier.slots index).queued = true → ∀ entry ∈ world.tier.entries, entry.slot = index →
    world.orders (world.tier.slots index).contentHash = some entry.needByStep
  queued : ∀ contentHash needByStep, world.orders contentHash = some needByStep →
    ∃ index, (world.tier.slots index).queued = true ∧ (world.tier.slots index).contentHash = contentHash

/-- Two queued slots have different hashes. -/
theorem queued_distinct (sound : world.tier.Sound) {one other : Nat} (first : (world.tier.slots one).queued = true)
    (inRange : other < world.tier.slotCount) (used : (world.tier.slots other).state ≠ .empty)
    (same : (world.tier.slots one).contentHash = (world.tier.slots other).contentHash) : one = other := by
  obtain ⟨oneInRange, present, -⟩ := sound.queueing.queued one first
  have oneUsed : (world.tier.slots one).state ≠ .empty := by
    rw [present]
    exact nofun
  exact sound.filing.distinct one other ⟨oneInRange, oneUsed⟩ ⟨inRange, used⟩ same

section

variable (kept : world.Kept)
include kept

/-- A block that is not queued has no order. -/
theorem Kept.unordered (sound : world.tier.Sound) (inRange : index < world.tier.slotCount)
    (used : (world.tier.slots index).state ≠ .empty) (unqueued : (world.tier.slots index).queued = false) :
    world.orders (world.tier.slots index).contentHash = none := by
  cases isOrdered : world.orders (world.tier.slots index).contentHash with
  | none => rfl
  | some needByStep =>
    obtain ⟨other, queued, same⟩ := kept.queued _ needByStep isOrdered
    rw [queued_distinct sound queued inRange used same, unqueued] at queued
    cases queued

/-- Nothing that the orders depend on has changed, or the entries of slots that are not queued. -/
theorem Kept.of_same {after : World} (orders : after.orders = world.orders)
    (entries : ∀ entry ∈ after.tier.entries, entry ∈ world.tier.entries)
    (queued : ∀ index, (after.tier.slots index).queued = (world.tier.slots index).queued)
    (hashes : ∀ index, (world.tier.slots index).queued = true →
      (after.tier.slots index).contentHash = (world.tier.slots index).contentHash) : after.Kept := by
  constructor
  · intro index isQueued entry member isSlot
    rw [queued] at isQueued
    rw [orders, hashes index isQueued]
    exact kept.ordered index isQueued entry (entries entry member) isSlot
  · intro contentHash needByStep isOrdered
    rw [orders] at isOrdered
    obtain ⟨index, isQueued, same⟩ := kept.queued contentHash needByStep isOrdered
    exact ⟨index, (queued index).trans isQueued, (hashes index isQueued).trans same⟩

/-- The order of one block is forgotten, and the block is not queued any more. -/
theorem Kept.forget (sound : world.tier.Sound) (inRange : index < world.tier.slotCount)
    (used : (world.tier.slots index).state ≠ .empty) {after : World}
    (orders : after.orders = update world.orders (world.tier.slots index).contentHash none)
    (entries : ∀ entry ∈ after.tier.entries, entry ∈ world.tier.entries)
    (unqueued : (after.tier.slots index).queued = false)
    (others : ∀ other, other ≠ index → (after.tier.slots other).queued = (world.tier.slots other).queued ∧
      (after.tier.slots other).contentHash = (world.tier.slots other).contentHash) : after.Kept := by
  have apart : ∀ other, other ≠ index → (world.tier.slots other).queued = true →
      (world.tier.slots other).contentHash ≠ (world.tier.slots index).contentHash :=
    fun other different isQueued same => different (queued_distinct sound isQueued inRange used same)
  constructor
  · intro other isQueued entry member isSlot
    have different : other ≠ index := by
      rintro rfl
      rw [unqueued] at isQueued
      cases isQueued
    obtain ⟨sameMark, sameHash⟩ := others other different
    rw [sameMark] at isQueued
    rw [sameHash, orders, update_of_ne (apart other different isQueued)]
    exact kept.ordered other isQueued entry (entries entry member) isSlot
  · intro contentHash needByStep isOrdered
    rw [orders] at isOrdered
    have elsewhere : contentHash ≠ (world.tier.slots index).contentHash := by
      rintro rfl
      rw [update_self] at isOrdered
      cases isOrdered
    rw [update_of_ne elsewhere] at isOrdered
    obtain ⟨other, isQueued, same⟩ := kept.queued contentHash needByStep isOrdered
    have different : other ≠ index := by
      rintro rfl
      exact elsewhere same.symm
    obtain ⟨sameMark, sameHash⟩ := others other different
    exact ⟨other, sameMark.trans isQueued, sameHash.trans same⟩

/-- A block that waits has its order, at the step of its entry. -/
theorem Kept.note (sound : world.tier.Sound) (inRange : index < world.tier.slotCount)
    (used : (world.tier.slots index).state ≠ .empty) {after : World} (needByStep : UInt32)
    (orders : after.orders = update world.orders (world.tier.slots index).contentHash (some needByStep))
    (own : ∀ entry ∈ after.tier.entries, entry.slot = index → entry.needByStep = needByStep)
    (entries : ∀ entry ∈ after.tier.entries, entry.slot ≠ index → entry ∈ world.tier.entries)
    (isQueued : (after.tier.slots index).queued = true)
    (hashes : ∀ other, (after.tier.slots other).contentHash = (world.tier.slots other).contentHash)
    (others : ∀ other, other ≠ index → (after.tier.slots other).queued = (world.tier.slots other).queued) :
    after.Kept := by
  constructor
  · intro other otherQueued entry member isSlot
    rw [hashes, orders]
    by_cases here : other = index
    · rw [here] at isSlot ⊢
      rw [update_self, own entry member isSlot]
    · rw [others other here] at otherQueued
      have apart : (world.tier.slots other).contentHash ≠ (world.tier.slots index).contentHash :=
        fun same => here (queued_distinct sound otherQueued inRange used same)
      rw [update_of_ne apart]
      refine kept.ordered other otherQueued entry (entries entry member ?_) isSlot
      rw [isSlot]
      exact here
  · intro contentHash step isOrdered
    rw [orders] at isOrdered
    by_cases same : contentHash = (world.tier.slots index).contentHash
    · exact ⟨index, isQueued, (hashes index).trans same.symm⟩
    · rw [update_of_ne same] at isOrdered
      obtain ⟨other, otherQueued, sameHash⟩ := kept.queued contentHash step isOrdered
      by_cases here : other = index
      · rw [here] at sameHash
        exact absurd sameHash.symm same
      · exact ⟨other, (others other here).trans otherQueued, (hashes other).trans sameHash⟩

/-- A released buffer changes no order. -/
theorem Kept.release (sound : world.tier.Sound) (busy : (world.tier.staging buffer).state ≠ .free)
    {after : World} (isReleased : after.tier = world.tier.stagingRelease buffer) (orders : after.orders = world.orders) :
    after.Kept := by
  obtain ⟨index, named, -, -, -, -⟩ := sound.buffered.named busy
  have shape := sound.buffered.stagingRelease named
  have entries : after.tier.entries = world.tier.entries := by
    rw [isReleased, shape]
    rfl
  refine kept.of_same orders (fun entry member => entries ▸ member) (fun other => ?_) fun other _ => ?_
  · rw [isReleased, shape]
    exact update_field Slot.queued (by rfl) other
  · rw [isReleased, shape]
    exact update_field Slot.contentHash (by rfl) other

/-- A slot that is vacated takes its order along. -/
theorem Kept.vacate (sound : world.tier.Sound) {tier : Tier}
    (vacated : Tier.Vacated world.tier tier index) (inRange : index < world.tier.slotCount)
    (used : (world.tier.slots index).state ≠ .empty) {after : World} (isTier : after.tier = tier)
    (orders : after.orders = update world.orders (world.tier.slots index).contentHash none) : after.Kept := by
  refine kept.forget sound inRange used orders (fun entry member => ?_) ?_ fun other different => ?_
  · rw [isTier, vacated.entries] at member
    exact member
  · rw [isTier]
    exact vacated.unqueued
  · obtain ⟨link, same⟩ := vacated.others other different
    rw [isTier, same]
    exact ⟨rfl, rfl⟩

end

theorem noteOrder_none {world : World} {needByStep : UInt32}
    (unordered : world.orders (world.tier.slots index).contentHash = none) :
    (world.noteOrder index needByStep).orders =
      update world.orders (world.tier.slots index).contentHash (some needByStep) := by
  simp only [noteOrder, unordered]

theorem noteOrder_some {world : World} {earlier needByStep : UInt32}
    (ordered : world.orders (world.tier.slots index).contentHash = some earlier) :
    (world.noteOrder index needByStep).orders =
      update world.orders (world.tier.slots index).contentHash (some (min earlier needByStep)) := by
  simp only [noteOrder, ordered]

/-- Each change keeps the orders, unless it loses one. -/
theorem edit_kept (edit : Edit forsakes loses before after) (keeps : ¬ loses) (sound : before.tier.Sound)
    (kept : before.Kept) : after.Kept := by
  -- the order of a block that is not queued has nothing to forget
  have silent : ∀ {index : Nat}, index < before.tier.slotCount → (before.tier.slots index).state ≠ .empty →
      (before.tier.slots index).queued = false →
      update before.orders (before.tier.slots index).contentHash none = before.orders := by
    intro index inRange used unqueued
    have unordered := kept.unordered sound inRange used unqueued
    rw [← unordered, update_eq_self]
  cases edit with
  | @touch tier touched =>
    have marks : ∀ index, (tier.slots index).queued = (before.tier.slots index).queued ∧
        (tier.slots index).contentHash = (before.tier.slots index).contentHash := by
      intro index
      obtain ⟨referenced, needByStep, pinCount, same⟩ := touched.slots index
      rw [same]
      exact ⟨rfl, rfl⟩
    exact kept.of_same rfl (fun entry member => touched.entries ▸ member) (fun index => (marks index).1)
      fun index _ => (marks index).2
  | join _ => exact kept.of_same rfl (fun _ => id) (fun _ => rfl) fun _ _ => rfl
  | hand _ _ _ => exact kept.of_same rfl (fun _ => id) (fun _ => rfl) fun _ _ => rfl
  | @reserve index contentHash contentDigest head _ _ =>
    have free := sound.filing.free
    rw [head] at free
    obtain ⟨-, empty⟩ := free.head_member
    have unqueued := sound.queueing.unqueued index (by simp [empty])
    rw [popFree_some head]
    refine kept.of_same rfl (fun _ => id) (fun other => ?_) fun other queued => ?_
    · by_cases here : other = index
      · rw [here, unqueued]
        exact congrArg Slot.queued (Tier.setSlot_self ..)
      · exact congrArg Slot.queued ((Tier.setSlot_of_ne _ _ here).trans (Tier.setSlot_of_ne _ _ here))
    · have different : other ≠ index := by
        rintro rfl
        rw [unqueued] at queued
        cases queued
      exact congrArg Slot.contentHash
        ((Tier.setSlot_of_ne _ _ different).trans (Tier.setSlot_of_ne _ _ different))
  | @commit index _ _ =>
    -- the slot gets its state, and then its link
    exact kept.of_same rfl (fun _ => id)
      (fun other => (update_field Slot.queued (by rfl) other).trans (update_field Slot.queued (by rfl) other))
      fun other _ => (update_field Slot.contentHash (by rfl) other).trans (update_field Slot.contentHash (by rfl) other)
  | @abort index inRange writing =>
    have unqueued := sound.queueing.unqueued index (by simp [writing])
    have used : (before.tier.slots index).state ≠ .empty := by
      rw [writing]
      exact nofun
    exact kept.vacate sound (sound.filing.releaseReservedSlot writing unqueued) inRange used rfl
      (silent inRange used unqueued).symm
  | @evict index inRange present =>
    have linked : before.tier.Linked index := ⟨inRange, by rw [present]; rfl⟩
    have unstaged := sound.unstaged index (by rw [present]; rfl)
    exact kept.vacate sound (sound.filing.evictSlot linked unstaged) inRange linked.occupied.2 rfl rfl
  | @quarantine index inRange present =>
    have linked : before.tier.Linked index := ⟨inRange, by rw [present]; rfl⟩
    exact kept.vacate sound (sound.filing.quarantineSlot linked) inRange linked.occupied.2 rfl rfl
  | drop ready _ | consume ready => exact kept.release sound (by simp [ready]) rfl rfl
  | finish busy =>
    refine kept.release sound ?_ rfl rfl
    rcases busy with state | state <;> rw [state] <;> exact nofun
  | forsake _ filling => exact kept.release sound (by simp [filling]) rfl rfl
  | cancel _ _ => exact kept.of_same rfl (fun _ => id) (fun _ => rfl) fun _ _ => rfl
  | @issue index buffer holder needByStep ticket inRange present unqueued _ _ _ _ =>
    refine kept.forget sound inRange (by simp [present]) rfl (fun _ => id) ?_
      fun other different => ?_
    · exact (congrArg Slot.queued (Tier.setSlot_self ..)).trans unqueued
    · have same : (before.issueRead index buffer holder needByStep (.ok, ticket)).2.tier.slots other =
          before.tier.slots other := Tier.setSlot_of_ne _ _ different
      rw [same]
      exact ⟨rfl, rfl⟩
  | @land index buffer _ _ verified =>
    rw [landed_verified verified]
    exact kept.of_same rfl (fun _ => id) (update_field Slot.queued (by rfl))
      fun other _ => update_field Slot.contentHash (by rfl) other
  | @enqueue index needByStep inRange present unqueued fresh =>
    have used : (before.tier.slots index).state ≠ .empty := by
      rw [present]
      exact nofun
    have unordered := kept.unordered sound inRange used unqueued
    have marks := setSlot_marks before.tier index true
    have inserted : ∀ entry ∈ (before.enqueue index needByStep).tier.entries,
        entry.slot = index ∧ entry.needByStep = needByStep ∨ entry ∈ before.tier.entries := by
      intro entry member
      rcases List.mem_cons.mp ((Heap.insert_perm _ _).mem_iff.mp member) with rfl | inside
      · exact .inl ⟨rfl, rfl⟩
      · exact .inr inside
    refine kept.note sound inRange used needByStep ?_ (fun entry member isSlot => ?_)
      (fun entry member away => ?_) ?_ (fun other => ?_) fun other different => ?_
    · have hash : ((before.tier.setSlot index { before.tier.slots index with queued := true }).slots
          index).contentHash = (before.tier.slots index).contentHash := by rw [Tier.setSlot_self]
      rw [← hash] at unordered ⊢
      exact noteOrder_none unordered
    · rcases inserted entry member with ⟨-, isNeed⟩ | inside
      · exact isNeed
      · exact absurd isSlot (fresh entry inside)
    · rcases inserted entry member with ⟨isSlot, -⟩ | inside
      · exact absurd isSlot away
      · exact inside
    · exact congrArg Slot.queued (Tier.setSlot_self ..)
    · obtain ⟨mark, same⟩ := marks other
      change ((before.tier.setSlot index { before.tier.slots index with queued := true }).slots other).contentHash = _
      rw [same]
    · exact congrArg Slot.queued (Tier.setSlot_of_ne _ _ different)
  | @tighten index position needByStep found queued =>
    obtain ⟨inRange, present, -⟩ := sound.queueing.queued index queued
    have used : (before.tier.slots index).state ≠ .empty := by
      rw [present]
      exact nofun
    obtain ⟨entry, rest, isSlot, split, replaced⟩ := pendingTighten_split found needByStep
    have ordered := kept.ordered index queued entry (split.mem_iff.mpr (.head _)) isSlot
    have once := (split.map PendingEntry.slot).nodup_iff.mp sound.queueing.once
    refine kept.note sound inRange used (min entry.needByStep needByStep) ?_
      (fun other member same => ?_) (fun other member away => ?_) queued (fun _ => rfl) fun _ _ => rfl
    · exact noteOrder_some ordered
    · rcases List.mem_cons.mp (replaced.mem_iff.mp member) with rfl | inside
      · rfl
      · have again : other.slot ∈ rest.map PendingEntry.slot := List.mem_map_of_mem inside
        rw [same, ← isSlot] at again
        exact absurd again (List.nodup_cons.mp once).1
    · rcases List.mem_cons.mp (replaced.mem_iff.mp member) with rfl | inside
      · exact absurd isSlot away
      · exact split.mem_iff.mpr (.tail _ inside)
  | absorb allowed _ _ => exact absurd allowed keeps
  | @dequeue index =>
    cases queued : (before.tier.slots index).queued with
    | false =>
      have same : before.dequeue index = before := by
        unfold dequeue
        rw [queued]
        rfl
      rw [same]
      exact kept
    | true =>
      obtain ⟨inRange, present, entry, member, isSlot, -⟩ := sound.queueing.queued index queued
      cases found : pendingFind before.tier.entries index with
      | none => exact absurd isSlot (Tier.pendingFind_none found entry member)
      | some position =>
        obtain ⟨removed, isRemoved, -⟩ := Tier.pendingFind_some found
        have shape : before.dequeue index = ((before.withTier
            { before.tier with entries := pendingRemoveAt before.tier.entries position }).setSlot index
              { before.tier.slots index with queued := false }).forgetOrder index := by
          unfold dequeue
          rw [if_pos queued, found]
        rw [shape]
        refine kept.forget sound inRange (by simp [present]) ?_
          (fun other inside => ?_) ?_ fun other different => ?_
        · change update before.orders ((before.tier.setSlot index
            { before.tier.slots index with queued := false }).slots index).contentHash none = _
          rw [Tier.setSlot_self]
        · exact (Heap.removeAt_perm pendingLess isRemoved).mem_iff.mpr (.tail _ inside)
        · exact congrArg Slot.queued (Tier.setSlot_self ..)
        · have same : (before.tier.setSlot index { before.tier.slots index with queued := false }).slots other =
              before.tier.slots other := Tier.setSlot_of_ne _ _ different
          exact ⟨congrArg Slot.queued same, congrArg Slot.contentHash same⟩
  | @forget index inRange present unqueued =>
    exact kept.of_same (silent inRange (by simp [present]) unqueued) (fun _ => id)
      (fun _ => rfl) fun _ _ => rfl
  | lose allowed => exact absurd allowed keeps
  | @discard head rest entries _ =>
    have isHead : before.tier.entries[0]? = some head := by
      rw [entries]
      rfl
    have removed := Heap.removeAt_perm pendingLess isHead
    exact kept.of_same rfl (fun entry member => removed.mem_iff.mpr (.tail _ member)) (fun _ => rfl)
      fun _ _ => rfl
  | deviceWrite _ => exact kept.of_same rfl (fun _ => id) (fun _ => rfl) fun _ _ => rfl

theorem edits_kept (edits : Edits forsakes loses before after) (keeps : ¬ loses) (sound : before.tier.Sound)
    (kept : before.Kept) : after.Kept := by
  induction edits with
  | refl => exact kept
  | tail edits edit ih => exact edit_kept edit keeps (Edits.sound edits sound) ih

/-- A new tier has no orders. -/
theorem initializeTier_kept {configuration : Configuration} {cancels : Bool} {contents : Nat → List UInt8}
    {start : World} (initialized : initializeTier configuration cancels contents = .ok start) : start.Kept := by
  obtain ⟨-, rfl⟩ := initializeTier_ok initialized
  constructor
  · intro index queued
    cases queued
  · intro contentHash needByStep ordered
    cases ordered

/-- The heap has one entry of a slot that has one. -/
theorem entries_once (sound : world.tier.Sound) {entry : PendingEntry} (member : entry ∈ world.tier.entries) :
    (world.tier.entries.filter fun other => other.slot = entry.slot) = [entry] := by
  obtain ⟨front, back, split⟩ := List.append_of_mem member
  have once := sound.queueing.once
  rw [split, List.map_append, List.map_cons, List.nodup_append] at once
  obtain ⟨-, later, apart⟩ := once
  have noFront : front.filter (fun other => other.slot = entry.slot) = [] := by
    refine List.filter_eq_nil_iff.mpr fun other inside same => ?_
    exact apart _ (List.mem_map_of_mem inside) _ (.head _) (of_decide_eq_true same)
  have noBack : back.filter (fun other => other.slot = entry.slot) = [] := by
    refine List.filter_eq_nil_iff.mpr fun other inside same => ?_
    refine (List.nodup_cons.mp later).1 ?_
    rw [← of_decide_eq_true same]
    exact List.mem_map_of_mem inside
  have here : (entry :: back).filter (fun other => other.slot = entry.slot) = [entry] := by
    rw [List.filter_cons_of_pos (by exact decide_eq_true rfl), noBack]
  rw [split, List.filter_append, noFront, here]
  rfl

/-- As long as no step loses one, each order that has not been served, cancelled or evicted is the one
entry of its block's slot, at the earliest step that has been ordered. -/
theorem run_orders_kept {configuration : Configuration} {cancels : Bool} {contents : Nat → List UInt8} {start : World}
    (initialized : initializeTier configuration cancels contents = .ok start) (steps : List Step)
    (keeps : Along perform (fun world step => ¬ world.Loses step) steps start) (contentHash : UInt64)
    (needByStep : UInt32) (ordered : (steps.foldl perform start).orders contentHash = some needByStep) :
    ∃ index entry, (steps.foldl perform start).tier.lookup contentHash = some index ∧
      ((steps.foldl perform start).tier.slots index).queued = true ∧
      ((steps.foldl perform start).tier.entries.filter fun other => other.slot = index) = [entry] ∧
      entry.generation = ((steps.foldl perform start).tier.slots index).generation ∧
      entry.needByStep = needByStep := by
  have begins : start.tier.Sound ∧ start.Kept := ⟨initializeTier_sound initialized, initializeTier_kept initialized⟩
  obtain ⟨sound, kept⟩ := keeps.foldl (P := fun world => world.tier.Sound ∧ world.Kept) (fun world step both keeps => by
    have edits := perform_edits both.1 step
    exact ⟨edits.sound both.1, edits_kept edits keeps both.1 both.2⟩) begins
  generalize steps.foldl perform start = world at sound kept ordered ⊢
  obtain ⟨index, queued, hash⟩ := kept.queued contentHash needByStep ordered
  obtain ⟨inRange, present, entry, member, isSlot, generation⟩ := sound.queueing.queued index queued
  have linked : world.tier.Linked index := ⟨inRange, by rw [present]; rfl⟩
  have found := sound.filing.lookup_eq linked
  have isOrdered := kept.ordered index queued entry member isSlot
  have one := entries_once sound member
  rw [hash] at found isOrdered
  rw [isSlot] at one
  rw [ordered] at isOrdered
  exact ⟨index, entry, found, queued, one, generation, (Option.some.inj isOrdered).symm⟩

/-- The settings of a tier of one slot. -/
def oneSlot : Configuration := { smallTier with budgetBytes := 4096 }

/-- A tier with these settings. -/
def oneSlotTier : World where
  tier := {
    configuration := oneSlot
    cancels := true
    slotCount := 1
    transferSteps := 1
    slots := fun index => { nextFree := if index + 1 < 1 then some (index + 1) else none }
    freeHead := some 0 }
  contents := fun _ => []

/-- A block is stored and ordered. -/
def firstOrder : List Step :=
  stored 7 [1] 0 1 ++ [.planLookahead [{ contentHash := 7, needByStep := 5, contentDigest := [1] }] 0]

theorem firstOrder_kept : ∃ index entry, (firstOrder.foldl perform oneSlotTier).tier.lookup 7 = some index ∧
    ((firstOrder.foldl perform oneSlotTier).tier.slots index).queued = true ∧
    ((firstOrder.foldl perform oneSlotTier).tier.entries.filter fun other => other.slot = index) = [entry] ∧
    entry.generation = ((firstOrder.foldl perform oneSlotTier).tier.slots index).generation ∧
    entry.needByStep = 5 := by
  refine run_orders_kept (show initializeTier oneSlot true (fun _ => []) = .ok oneSlotTier from rfl) firstOrder
    ⟨not_false, not_false, ?_, trivial⟩ 7 5 (by decide +kernel)
  rintro ⟨need, -, index, -, -, -, entry, member, -⟩
  cases member

/-- Then the block is evicted for another one, which is ordered too. -/
def secondOrder : List Step :=
  firstOrder ++ stored 8 [2] 0 3 ++ [.planLookahead [{ contentHash := 8, needByStep := 9, contentDigest := [2] }] 0]

/-- The entry of the first block takes the order of the second one in. -/
theorem order_lost : ¬ ∀ (configuration : Configuration) (cancels : Bool) (contents : Nat → List UInt8)
    (start : World) (steps : List Step), initializeTier configuration cancels contents = .ok start →
      ∀ contentHash needByStep, (steps.foldl perform start).orders contentHash = some needByStep →
        ∃ index entry, (steps.foldl perform start).tier.lookup contentHash = some index ∧
          ((steps.foldl perform start).tier.slots index).queued = true ∧
          ((steps.foldl perform start).tier.entries.filter fun other => other.slot = index) = [entry] ∧
          entry.generation = ((steps.foldl perform start).tier.slots index).generation ∧
          entry.needByStep = needByStep := by
  intro kept
  obtain ⟨index, entry, found, queued, -⟩ :=
    kept oneSlot true (fun _ => []) oneSlotTier secondOrder rfl 8 9 (by decide +kernel)
  have first : (secondOrder.foldl perform oneSlotTier).tier.lookup 8 = some 0 := by decide +kernel
  have unqueued : ((secondOrder.foldl perform oneSlotTier).tier.slots 0).queued = false := by decide +kernel
  cases first.symm.trans found
  rw [unqueued] at queued
  cases queued

end World

end Sparkpipe.NvmeTier
