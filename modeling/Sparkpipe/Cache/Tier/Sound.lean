import Sparkpipe.Cache.Tier.Calls
import Sparkpipe.Lib.Pairing
import Sparkpipe.Lib.Tally

/-!
# Sound tiers

What holds of the tables of the tier between any two changes: the buckets and the free list
hold the slots that they should, slots and staging buffers name each other, and the heap has
at most one entry of each slot.
-/

namespace Sparkpipe.NvmeTier

open Function Chain

/-- The states of a slot whose block is on the drive. -/
def SlotState.linked : SlotState → Bool
  | .present | .filling | .ready => true
  | .empty | .writing => false

/-- The states of a slot that has a staging buffer. -/
def SlotState.staged : SlotState → Bool
  | .filling | .ready => true
  | .empty | .writing | .present => false

namespace Tier

variable {tier before after : Tier} {index other buffer : Nat}

@[simp]
theorem setSlot_self (tier : Tier) (index : Nat) (slot : Slot) : (tier.setSlot index slot).slots index = slot :=
  update_self ..

theorem setSlot_of_ne (tier : Tier) (slot : Slot) (different : other ≠ index) :
    (tier.setSlot index slot).slots other = tier.slots other := update_of_ne different ..

@[simp]
theorem setStaging_self (tier : Tier) (buffer : Nat) (staging : Staging) :
    (tier.setStaging buffer staging).staging buffer = staging := update_self ..

theorem setStaging_of_ne (tier : Tier) (staging : Staging) (different : other ≠ buffer) :
    (tier.setStaging buffer staging).staging other = tier.staging other := update_of_ne different ..

theorem setSlot_apply (tier : Tier) (index : Nat) (slot : Slot) (other : Nat) :
    (tier.setSlot index slot).slots other = if other = index then slot else tier.slots other := update_apply ..

theorem setStaging_apply (tier : Tier) (buffer : Nat) (staging : Staging) (other : Nat) :
    (tier.setStaging buffer staging).staging other = if other = buffer then staging else tier.staging other :=
  update_apply ..

/-- The block of the slot is on the drive. -/
def Linked (tier : Tier) (index : Nat) : Prop := index < tier.slotCount ∧ (tier.slots index).state.linked = true

/-- The slot is in use. -/
def Occupied (tier : Tier) (index : Nat) : Prop := index < tier.slotCount ∧ (tier.slots index).state ≠ .empty

/-- The hash buckets hold these slots. -/
def FiledAs (tier : Tier) (member : Nat → Prop) : Prop :=
  Filed tier.configuration.hashBucketCount (fun index => tier.bucketOf (tier.slots index).contentHash)
    (fun index => (tier.slots index).nextInBucket) tier.buckets member

/-- The slots that are linked are in the buckets of their hashes and those that are empty on the free
list; no two have the same hash, and they are counted. -/
structure Filing (tier : Tier) : Prop where
  buckets : 0 < tier.configuration.hashBucketCount
  bounded : ∀ index, (tier.slots index).state ≠ .empty → index < tier.slotCount
  filed : tier.FiledAs tier.Linked
  free : Listed (fun index => (tier.slots index).nextFree) tier.freeHead
    fun index => index < tier.slotCount ∧ (tier.slots index).state = .empty
  named : ∀ index, tier.Occupied index → (tier.slots index).contentHash ≠ 0
  distinct : ∀ one other, tier.Occupied one → tier.Occupied other →
    (tier.slots one).contentHash = (tier.slots other).contentHash → one = other
  inUse : tier.slotsInUse = tally tier.slotCount fun index => (tier.slots index).state ≠ .empty

/-- Slots and staging buffers name each other, and agree on what is going on. -/
structure Buffered (tier : Tier) : Prop where
  paired : Paired (fun index => (tier.slots index).stagingIndex) fun buffer => (tier.staging buffer).slot
  inRange : ∀ index buffer, (tier.slots index).stagingIndex = some buffer →
    index < tier.slotCount ∧ buffer < tier.configuration.stagingBufferCount
  staged : ∀ index, (tier.slots index).stagingIndex.isSome = (tier.slots index).state.staged
  taken : ∀ buffer, (tier.staging buffer).state ≠ .free → (tier.staging buffer).slot.isSome = true
  idle : ∀ buffer, (tier.staging buffer).state = .free → tier.staging buffer = {}
  agree : ∀ index buffer, (tier.slots index).stagingIndex = some buffer →
    ((tier.slots index).state = .ready ↔ (tier.staging buffer).state = .ready) ∧
      (tier.staging buffer).generation = (tier.slots index).generation
  holder : ∀ buffer, (tier.staging buffer).state ≠ .free → (tier.staging buffer).holder ≠ .none
  cancelled : ∀ buffer, (tier.staging buffer).state = .cancelPending → (tier.staging buffer).holder = .prefetch

/-- The heap has one entry of a slot at most, it has the one of each queued slot, and none of a
slot that a prefetch reads. -/
structure Queueing (tier : Tier) : Prop where
  once : (tier.entries.map PendingEntry.slot).Nodup
  queued : ∀ index, (tier.slots index).queued = true → index < tier.slotCount ∧
    (tier.slots index).state = .present ∧
      ∃ entry ∈ tier.entries, entry.slot = index ∧ entry.generation = (tier.slots index).generation
  prefetched : ∀ buffer index, (tier.staging buffer).slot = some index → (tier.staging buffer).holder = .prefetch →
    ∀ entry ∈ tier.entries, entry.slot ≠ index

/-- A tier whose tables are in order. -/
structure Sound (tier : Tier) : Prop where
  filing : tier.Filing
  buffered : tier.Buffered
  queueing : tier.Queueing

section Filing

/-- Nothing that the buckets and the free list depend on has changed. -/
structure SameFiles (before after : Tier) : Prop where
  configuration : after.configuration = before.configuration
  slotCount : after.slotCount = before.slotCount
  buckets : after.buckets = before.buckets
  freeHead : after.freeHead = before.freeHead
  slotsInUse : after.slotsInUse = before.slotsInUse
  slots : ∀ index, (after.slots index).contentHash = (before.slots index).contentHash ∧
    (after.slots index).nextInBucket = (before.slots index).nextInBucket ∧
    (after.slots index).nextFree = (before.slots index).nextFree ∧
    (after.slots index).state.linked = (before.slots index).state.linked ∧
    ((after.slots index).state = .empty ↔ (before.slots index).state = .empty)

theorem SameFiles.linked (same : SameFiles before after) (index : Nat) :
    after.Linked index ↔ before.Linked index := by
  unfold Linked
  rw [same.slotCount, (same.slots index).2.2.2.1]

theorem SameFiles.occupied (same : SameFiles before after) (index : Nat) :
    after.Occupied index ↔ before.Occupied index := by
  unfold Occupied
  rw [same.slotCount, Ne, (same.slots index).2.2.2.2]

theorem SameFiles.filing (same : SameFiles before after) (filing : before.Filing) : after.Filing where
  buckets := by
    rw [same.configuration]
    exact filing.buckets
  bounded := fun index used => by
    rw [Ne, (same.slots index).2.2.2.2] at used
    rw [same.slotCount]
    exact filing.bounded index used
  filed := by
    have filed := filing.filed
    unfold FiledAs at filed ⊢
    rw [same.configuration, same.buckets]
    refine filed.congr same.linked (fun index _ => ?_) fun index _ => (same.slots index).2.1
    unfold bucketOf
    rw [same.configuration, (same.slots index).1]
  free := by
    rw [same.freeHead]
    refine filing.free.congr (fun index => ?_) fun index _ => (same.slots index).2.2.1
    rw [same.slotCount, (same.slots index).2.2.2.2]
  named := fun index occupied => by
    rw [(same.slots index).1]
    exact filing.named index ((same.occupied index).mp occupied)
  distinct := fun one other first second equal => by
    rw [(same.slots one).1, (same.slots other).1] at equal
    exact filing.distinct one other ((same.occupied one).mp first) ((same.occupied other).mp second) equal
  inUse := by
    rw [same.slotsInUse, filing.inUse, same.slotCount]
    refine (tally_congr fun index _ => ?_).symm
    rw [decide_eq_decide]
    exact not_congr (same.slots index).2.2.2.2

/-- What a lookup finds is on the drive, under that hash. -/
theorem Filing.lookup_some (filing : tier.Filing) {contentHash : UInt64} (found : tier.lookup contentHash = some index) :
    tier.Linked index ∧ (tier.slots index).contentHash = contentHash := by
  unfold lookup at found
  split at found
  · cases found
  · have inBucket := (filing.filed _ (Nat.mod_lt contentHash.toNat filing.buckets)).search_member found
    obtain ⟨-, accepted⟩ := search_some found
    exact ⟨inBucket.1, of_decide_eq_true (Bool.and_eq_true_iff.mp accepted).2⟩

theorem Linked.occupied (linked : tier.Linked index) : tier.Occupied index := by
  refine ⟨linked.1, fun empty => ?_⟩
  have isLinked := linked.2
  rw [empty] at isLinked
  cases isLinked

/-- A lookup finds what is on the drive. -/
theorem Filing.lookup_eq (filing : tier.Filing) (linked : tier.Linked index) :
    tier.lookup (tier.slots index).contentHash = some index := by
  unfold lookup
  rw [if_neg (filing.named index linked.occupied)]
  have inBucket := filing.filed _ (Nat.mod_lt (tier.slots index).contentHash.toNat filing.buckets)
  have accepted : (decide ((tier.slots index).state ≠ .empty) &&
      decide ((tier.slots index).contentHash = (tier.slots index).contentHash)) = true := by simp [linked.occupied.2]
  obtain ⟨found, isFound⟩ : ∃ found, search tier.slotCount (fun index => (tier.slots index).nextInBucket)
      (fun other => (tier.slots other).state ≠ .empty &&
        (tier.slots other).contentHash = (tier.slots index).contentHash) tier.slotCount
      (tier.buckets (tier.bucketOf (tier.slots index).contentHash)) = some found :=
    inBucket.search_isSome tier.slotCount (fun other member => member.1.1) ⟨linked, rfl⟩ accepted
  refine Eq.trans isFound ?_
  obtain ⟨-, accepted⟩ := search_some isFound
  have member := inBucket.search_member isFound
  rw [filing.distinct found index member.1.occupied linked.occupied
    (of_decide_eq_true (Bool.and_eq_true_iff.mp accepted).2)]

/-- A slot off the free list is filled, for a hash that no slot has. -/
theorem Filing.fill (filing : before.Filing) (head : before.freeHead = some index) {contentHash : UInt64}
    (named : contentHash ≠ 0)
    (fresh : ∀ other, before.Occupied other → (before.slots other).contentHash ≠ contentHash)
    (configuration : after.configuration = before.configuration) (slotCount : after.slotCount = before.slotCount)
    (buckets : after.buckets = before.buckets) (freeHead : after.freeHead = (before.slots index).nextFree)
    (slotsInUse : after.slotsInUse = before.slotsInUse + 1)
    (others : ∀ other, other ≠ index → after.slots other = before.slots other)
    (state : (after.slots index).state = .writing) (hash : (after.slots index).contentHash = contentHash) :
    after.Filing := by
  have free := filing.free
  rw [head] at free
  obtain ⟨inRange, empty⟩ := free.head_member
  have linked : ∀ other, after.Linked other ↔ before.Linked other := by
    intro other
    unfold Linked
    rw [slotCount]
    by_cases here : other = index
    · rw [here, state, empty]
      exact Iff.rfl
    · rw [others other here]
  have elsewhere : ∀ other, before.Linked other → other ≠ index := by
    rintro other isLinked rfl
    exact isLinked.occupied.2 empty
  have occupied : ∀ other, other ≠ index → (after.Occupied other ↔ before.Occupied other) := by
    intro other here
    unfold Occupied
    rw [slotCount, others other here]
  constructor
  · rw [configuration]
    exact filing.buckets
  · intro other used
    rw [slotCount]
    by_cases here : other = index
    · rw [here]
      exact inRange
    · rw [others other here] at used
      exact filing.bounded other used
  · have filed := filing.filed
    unfold FiledAs at filed ⊢
    rw [configuration, buckets]
    refine filed.congr linked (fun other isLinked => ?_) fun other isLinked => ?_
    · unfold bucketOf
      rw [configuration, others other (elsewhere other isLinked)]
    · rw [others other (elsewhere other isLinked)]
  · rw [freeHead]
    refine free.pop (fun other _ different => by rw [others other different]) fun other => ?_
    by_cases here : other = index
    · rw [here, state]
      exact iff_of_false (nomatch ·.2) fun both => both.2 rfl
    · rw [slotCount, others other here]
      exact (and_iff_left here).symm
  · intro other isOccupied
    by_cases here : other = index
    · rw [here, hash]
      exact named
    · rw [others other here]
      exact filing.named other ((occupied other here).mp isOccupied)
  · intro one other first second equal
    by_cases oneHere : one = index
    · by_cases otherHere : other = index
      · rw [oneHere, otherHere]
      · rw [oneHere, hash, others other otherHere] at equal
        exact absurd equal.symm (fresh other ((occupied other otherHere).mp second))
    · rw [others one oneHere] at equal
      by_cases otherHere : other = index
      · rw [otherHere, hash] at equal
        exact absurd equal (fresh one ((occupied one oneHere).mp first))
      · rw [others other otherHere] at equal
        exact filing.distinct one other ((occupied one oneHere).mp first) ((occupied other otherHere).mp second) equal
  · rw [slotsInUse, filing.inUse, slotCount]
    refine (tally_gain inRange ?_ ?_ fun other _ different => ?_).symm
    · simp [empty]
    · simp [state]
    · rw [others other different]

section

variable (isAfter : after = (tier.setSlot index { tier.slots index with state := .present }).bucketInsert index)
include isAfter

/-- A slot that has been written is at the head of its bucket. -/
theorem committed_self : after.slots index = { tier.slots index with
    state := .present
    nextInBucket := tier.buckets (tier.bucketOf (tier.slots index).contentHash) } := by
  rw [isAfter]
  unfold bucketInsert setSlot bucketOf
  dsimp only
  rw [update_self, update_self]

theorem committed_of_ne {other : Nat} (different : other ≠ index) : after.slots other = tier.slots other := by
  rw [isAfter]
  exact (setSlot_of_ne _ _ different).trans (setSlot_of_ne _ _ different)

/-- The files stay sound when it is linked there. -/
theorem Filing.commit (filing : tier.Filing) (inRange : index < tier.slotCount)
    (writing : (tier.slots index).state = .writing) : after.Filing := by
  have occupied : tier.Occupied index := by
    refine ⟨inRange, ?_⟩
    rw [writing]
    exact nofun
  have notLinked : ¬ tier.Linked index := by
    rintro ⟨-, linked⟩
    rw [writing] at linked
    cases linked
  have here := committed_self isAfter
  have others : ∀ other, other ≠ index → after.slots other = tier.slots other :=
    fun other => committed_of_ne isAfter
  have hashes : ∀ other, (after.slots other).contentHash = (tier.slots other).contentHash := by
    intro other
    by_cases same : other = index
    · rw [same, here]
    · rw [others other same]
  have states : ∀ other, (after.slots other).state = .empty ↔ (tier.slots other).state = .empty := by
    intro other
    by_cases same : other = index
    · rw [same, here]
      exact iff_of_false nofun occupied.2
    · rw [others other same]
  have heads : after.buckets = update tier.buckets (tier.bucketOf (tier.slots index).contentHash) (some index) := by
    rw [isAfter]
    unfold bucketInsert setSlot bucketOf
    dsimp only
    rw [update_self]
  have sameRange : after.slotCount = tier.slotCount := isAfter ▸ rfl
  have sameConfiguration : after.configuration = tier.configuration := isAfter ▸ rfl
  have sameFree : after.freeHead = tier.freeHead := isAfter ▸ rfl
  have sameUse : after.slotsInUse = tier.slotsInUse := isAfter ▸ rfl
  have occupiedIff : ∀ other, after.Occupied other ↔ tier.Occupied other := by
    intro other
    unfold Occupied
    rw [sameRange, Ne, states]
  constructor
  · rw [sameConfiguration]
    exact filing.buckets
  · intro other used
    rw [Ne, states] at used
    rw [sameRange]
    exact filing.bounded other used
  · have filed := filing.filed
    unfold FiledAs at filed ⊢
    rw [sameConfiguration]
    refine filed.link (i := index) ?_ ?_ ?_ ?_ ?_
    · rw [here]
      unfold bucketOf
      rw [sameConfiguration]
    · rw [heads]
      unfold bucketOf
      rw [sameConfiguration, hashes]
    · intro other isLinked
      rw [others other]
      rintro rfl
      exact notLinked isLinked
    · intro other _
      unfold bucketOf
      rw [sameConfiguration, hashes]
    · intro other
      unfold Linked
      rw [sameRange]
      by_cases same : other = index
      · rw [same, here]
        exact iff_of_true ⟨inRange, rfl⟩ (.inl rfl)
      · rw [others other same]
        exact ⟨.inr, fun either => either.resolve_left same⟩
  · rw [sameFree]
    refine filing.free.congr (fun other => ?_) fun other member => ?_
    · rw [sameRange, states]
    · rw [others other]
      rintro rfl
      exact occupied.2 member.2
  · intro other isOccupied
    rw [hashes]
    exact filing.named other ((occupiedIff other).mp isOccupied)
  · intro one other first second equal
    rw [hashes, hashes] at equal
    exact filing.distinct one other ((occupiedIff one).mp first) ((occupiedIff other).mp second) equal
  · rw [sameUse, filing.inUse, sameRange]
    refine (tally_congr fun other _ => ?_).symm
    rw [decide_eq_decide]
    exact not_congr (states other)

end

/-- A slot has been emptied and is the first of the free list. -/
structure Vacated (before after : Tier) (index : Nat) : Prop where
  configuration : after.configuration = before.configuration
  slotCount : after.slotCount = before.slotCount
  others : ∀ other, other ≠ index → ∃ link, after.slots other = { before.slots other with nextInBucket := link }
  filed : after.FiledAs fun other => before.Linked other ∧ other ≠ index
  state : (after.slots index).state = .empty
  unqueued : (after.slots index).queued = false
  unstaged : (after.slots index).stagingIndex = none
  nextFree : (after.slots index).nextFree = before.freeHead
  freeHead : after.freeHead = some index
  slotsInUse : after.slotsInUse = before.slotsInUse - 1
  staging : after.staging = before.staging
  entries : after.entries = before.entries

theorem Vacated.occupied (vacated : Vacated before after index) (other : Nat) :
    after.Occupied other ↔ before.Occupied other ∧ other ≠ index := by
  unfold Occupied
  rw [vacated.slotCount]
  by_cases here : other = index
  · rw [here]
    exact iff_of_false (fun both => both.2 vacated.state) fun both => both.2 rfl
  · obtain ⟨link, same⟩ := vacated.others other here
    rw [same]
    exact (and_iff_left here).symm

theorem Vacated.filing (vacated : Vacated before after index) (occupied : before.Occupied index)
    (filing : before.Filing) : after.Filing := by
  have hashes : ∀ other, other ≠ index → (after.slots other).contentHash = (before.slots other).contentHash := by
    intro other different
    obtain ⟨link, same⟩ := vacated.others other different
    rw [same]
  constructor
  · rw [vacated.configuration]
    exact filing.buckets
  · intro other used
    rw [vacated.slotCount]
    by_cases here : other = index
    · rw [here] at used
      exact absurd vacated.state used
    · obtain ⟨link, same⟩ := vacated.others other here
      rw [same] at used
      exact filing.bounded other used
  · have filed := vacated.filed
    unfold FiledAs at filed ⊢
    refine filed.congr (fun other => ?_) (fun _ _ => rfl) fun _ _ => rfl
    unfold Linked
    rw [vacated.slotCount]
    by_cases here : other = index
    · rw [here, vacated.state]
      exact iff_of_false (nomatch ·.2) fun both => both.2 rfl
    · obtain ⟨link, same⟩ := vacated.others other here
      rw [same]
      exact (and_iff_left here).symm
  · rw [vacated.freeHead]
    refine filing.free.push vacated.nextFree (fun other member => ?_) fun other => ?_
    · obtain ⟨link, same⟩ := vacated.others other (by rintro rfl; exact occupied.2 member.2)
      rw [same]
    · rw [vacated.slotCount]
      by_cases here : other = index
      · rw [here]
        exact iff_of_true ⟨occupied.1, vacated.state⟩ (.inl rfl)
      · obtain ⟨link, same⟩ := vacated.others other here
        rw [same]
        exact ⟨.inr, fun either => either.resolve_left here⟩
  · intro other isOccupied
    obtain ⟨was, different⟩ := (vacated.occupied other).mp isOccupied
    rw [hashes other different]
    exact filing.named other was
  · intro one other first second equal
    obtain ⟨firstWas, firstElse⟩ := (vacated.occupied one).mp first
    obtain ⟨secondWas, secondElse⟩ := (vacated.occupied other).mp second
    rw [hashes one firstElse, hashes other secondElse] at equal
    exact filing.distinct one other firstWas secondWas equal
  · have lost : tally before.slotCount (fun other => decide ((before.slots other).state ≠ .empty)) =
        tally before.slotCount (fun other => decide ((after.slots other).state ≠ .empty)) + 1 := by
      refine tally_lose occupied.1 ?_ ?_ fun other _ different => ?_
      · simp [occupied.2]
      · simp [vacated.state]
      · obtain ⟨link, same⟩ := vacated.others other different
        rw [same]
    rw [vacated.slotsInUse, filing.inUse, vacated.slotCount, lost]
    exact Nat.add_sub_cancel ..

/-- A linked slot is taken out of its bucket. -/
theorem Filing.bucketRemove (filing : tier.Filing) (linked : tier.Linked index) :
    (tier.bucketRemove index).FiledAs (fun other => tier.Linked other ∧ other ≠ index) ∧
      ∀ other, ∃ link, (tier.bucketRemove index).slots other = { tier.slots other with nextInBucket := link } := by
  have inRange : ∀ other, tier.Linked other → other < tier.slotCount := fun other member => member.1
  obtain ⟨previous, found, filed⟩ := filing.filed.unlink inRange linked (Nat.mod_lt _ filing.buckets)
  have shape : tier.bucketRemove index = { tier with
      slots := update (tier.spliceSlots previous (tier.slots index).nextInBucket) index
        { tier.spliceSlots previous (tier.slots index).nextInBucket index with nextInBucket := none }
      buckets := update tier.buckets (tier.bucketOf (tier.slots index).contentHash)
        (spliceHead previous (tier.buckets (tier.bucketOf (tier.slots index).contentHash))
          (tier.slots index).nextInBucket) } := by
    unfold Tier.bucketRemove
    dsimp only
    rw [found]
    rfl
  have spliced : ∀ other, tier.spliceSlots previous (tier.slots index).nextInBucket other =
      { tier.slots other with
        nextInBucket := spliceNext previous (fun other => (tier.slots other).nextInBucket)
          (tier.slots index).nextInBucket other } := by
    intro other
    cases previous with
    | none => rfl
    | some before =>
      unfold spliceSlots spliceNext
      dsimp only
      by_cases here : other = before
      · rw [here, update_self, update_self]
      · rw [update_of_ne here, update_of_ne here]
  have links : ∀ other, (tier.bucketRemove index).slots other =
      { tier.slots other with
        nextInBucket := update (spliceNext previous (fun other => (tier.slots other).nextInBucket)
          (tier.slots index).nextInBucket) index none other } := by
    intro other
    rw [shape]
    dsimp only
    by_cases here : other = index
    · rw [here, update_self, update_self, spliced]
    · rw [update_of_ne here, update_of_ne here, spliced]
  refine ⟨?_, fun other => ⟨_, links other⟩⟩
  unfold FiledAs
  have heads : (tier.bucketRemove index).buckets = update tier.buckets
      (tier.bucketOf (tier.slots index).contentHash)
      (spliceHead previous (tier.buckets (tier.bucketOf (tier.slots index).contentHash))
        (tier.slots index).nextInBucket) := by rw [shape]
  have sameConfiguration : (tier.bucketRemove index).configuration = tier.configuration := by rw [shape]
  rw [heads, sameConfiguration]
  refine filed.congr (fun _ => Iff.rfl) (fun other _ => ?_) fun other member => ?_
  · unfold bucketOf
    rw [sameConfiguration, links]
  · rw [links]
    dsimp only
    rw [update_of_ne member.2]

/-- A linked slot is emptied, with what is left in it. -/
theorem Filing.vacate (filing : tier.Filing) (linked : tier.Linked index) {slot : Slot} {removed : Tier}
    (isRemoved : removed = (tier.setSlot index { tier.slots index with queued := false }).bucketRemove index)
    (state : slot.state = .empty) (unqueued : slot.queued = false) (unstaged : slot.stagingIndex = none)
    (nextFree : slot.nextFree = tier.freeHead) :
    Vacated tier { removed.setSlot index slot with
      freeHead := some index
      slotsInUse := removed.slotsInUse - 1 } index := by
  have edited : ∀ other, (tier.setSlot index { tier.slots index with queued := false }).slots other =
      { tier.slots other with queued := if other = index then false else (tier.slots other).queued } := by
    intro other
    rw [setSlot_apply]
    split
    · rename_i here
      rw [here]
    · rfl
  have same : SameFiles tier (tier.setSlot index { tier.slots index with queued := false }) := by
    refine ⟨rfl, rfl, rfl, rfl, rfl, fun other => ?_⟩
    rw [edited]
    exact ⟨rfl, rfl, rfl, rfl, Iff.rfl⟩
  obtain ⟨filed, links⟩ := (same.filing filing).bucketRemove ((same.linked index).mpr linked)
  have kept : removed.configuration = tier.configuration ∧ removed.slotCount = tier.slotCount ∧
      removed.slotsInUse = tier.slotsInUse ∧ removed.staging = tier.staging ∧ removed.entries = tier.entries := by
    rw [isRemoved]
    unfold Tier.bucketRemove
    dsimp only
    split <;> exact ⟨rfl, rfl, rfl, rfl, rfl⟩
  rw [← isRemoved] at filed links
  obtain ⟨configuration, slotCount, slotsInUse, staging, entries⟩ := kept
  constructor
  · exact configuration
  · exact slotCount
  · intro other different
    obtain ⟨link, isLink⟩ := links other
    refine ⟨link, ?_⟩
    change update removed.slots index slot other = _
    rw [update_of_ne different, isLink, edited, if_neg different]
  · unfold FiledAs at filed ⊢
    refine filed.congr (fun other => ?_) (fun other member => ?_) fun other member => ?_
    · rw [same.linked]
    · change Tier.bucketOf _ (update removed.slots index slot other).contentHash = _
      rw [update_of_ne member.2]
      rfl
    · change (update removed.slots index slot other).nextInBucket = _
      rw [update_of_ne member.2]
  · change (update removed.slots index slot index).state = .empty
    rw [update_self, state]
  · change (update removed.slots index slot index).queued = false
    rw [update_self, unqueued]
  · change (update removed.slots index slot index).stagingIndex = none
    rw [update_self, unstaged]
  · change (update removed.slots index slot index).nextFree = tier.freeHead
    rw [update_self, nextFree]
  · rfl
  · exact congrArg (· - 1) slotsInUse
  · exact staging
  · exact entries

/-- What is left in a slot that has been taken out of its bucket. -/
theorem bucketRemove_kept (tier : Tier) (index : Nat) :
    ((tier.setSlot index { tier.slots index with queued := false }).bucketRemove index).freeHead = tier.freeHead ∧
      (((tier.setSlot index { tier.slots index with queued := false }).bucketRemove index).slots index).queued =
        false ∧
      (((tier.setSlot index { tier.slots index with queued := false }).bucketRemove index).slots index).stagingIndex =
        (tier.slots index).stagingIndex := by
  have spliced : ∀ (other : Tier) (previous after : Option Nat),
      (other.spliceSlots previous after index).queued = (other.slots index).queued ∧
        (other.spliceSlots previous after index).stagingIndex = (other.slots index).stagingIndex := by
    intro other previous after
    cases previous with
    | none => exact ⟨rfl, rfl⟩
    | some before =>
      unfold spliceSlots
      dsimp only
      by_cases here : index = before
      · rw [here, update_self]
        exact ⟨rfl, rfl⟩
      · rw [update_of_ne here]
        exact ⟨rfl, rfl⟩
  have edited : ((tier.setSlot index { tier.slots index with queued := false }).slots index) =
      { tier.slots index with queued := false } := setSlot_self ..
  unfold Tier.bucketRemove
  dsimp only
  split
  · refine ⟨rfl, ?_, ?_⟩
    · rw [setSlot_self, edited]
    · rw [setSlot_self, edited]
  · rename_i previous _
    obtain ⟨queued, stagingIndex⟩ := spliced (tier.setSlot index { tier.slots index with queued := false }) previous
      ((tier.setSlot index { tier.slots index with queued := false }).slots index).nextInBucket
    refine ⟨rfl, ?_, ?_⟩
    · rw [setSlot_self]
      exact queued.trans (congrArg Slot.queued edited)
    · rw [setSlot_self]
      rw [stagingIndex, edited]

/-- An evicted slot. -/
theorem Filing.evictSlot (filing : tier.Filing) (linked : tier.Linked index)
    (unstaged : (tier.slots index).stagingIndex = none) : Vacated tier (tier.evictSlot index) index := by
  obtain ⟨freeHead, unqueued, stagingIndex⟩ := bucketRemove_kept tier index
  exact filing.vacate linked rfl rfl unqueued (stagingIndex.trans unstaged) freeHead

/-- A quarantined slot. -/
theorem Filing.quarantineSlot (filing : tier.Filing) (linked : tier.Linked index) :
    Vacated tier (tier.quarantineSlot index) index := by
  obtain ⟨freeHead, unqueued, -⟩ := bucketRemove_kept tier index
  exact filing.vacate linked rfl rfl unqueued rfl freeHead

/-- A slot whose write is aborted. -/
theorem Filing.releaseReservedSlot (filing : tier.Filing) (writing : (tier.slots index).state = .writing)
    (unqueued : (tier.slots index).queued = false) : Vacated tier (tier.releaseReservedSlot index) index := by
  have here : (tier.releaseReservedSlot index).slots index = { tier.slots index with
      contentHash := 0
      digest := noDigest
      state := .empty
      generation := nextGeneration (tier.slots index).generation
      needByStep := 0xffffffff
      stagingIndex := none
      nextInBucket := none
      nextFree := tier.freeHead } := update_self ..
  have others : ∀ other, other ≠ index → (tier.releaseReservedSlot index).slots other = tier.slots other :=
    fun other different => update_of_ne different _ _
  refine ⟨rfl, rfl, fun other different => ⟨_, others other different⟩, ?_, ?_, ?_, ?_, ?_, rfl, rfl, rfl, rfl⟩
  · have filed := filing.filed
    unfold FiledAs at filed ⊢
    have elsewhere : ∀ other, tier.Linked other → other ≠ index := by
      rintro other ⟨-, linked⟩ rfl
      rw [writing] at linked
      cases linked
    refine filed.congr (fun other => and_iff_left_of_imp (elsewhere other)) (fun other isLinked => ?_)
      fun other isLinked => ?_
    · rw [others other (elsewhere other isLinked)]
      rfl
    · rw [others other (elsewhere other isLinked)]
  all_goals rw [here]
  exact unqueued

end Filing

end Tier

end Sparkpipe.NvmeTier
