import Sparkpipe.Cache.Tier.Runs
import Sparkpipe.Lib.HeapOrder
import Mathlib.Data.Prod.Lex

/-!
# The queue of the prefetches

The pending entries are a heap, ordered by the step that they are for and then by their arrival.
The pump takes them from the top, passes over those that are stale, and submits a read for each
other one as long as there are buffers.
-/

namespace Sparkpipe.NvmeTier

variable {entries : List PendingEntry} {forsakes loses : Prop} {world before after : World}

/-- What the heap is ordered by. -/
def pendingKey (entry : PendingEntry) : Nat ×ₗ Nat := toLex (entry.needByStep.toNat, entry.order.toNat)

/-- No entry of the heap is before its parent. -/
def HeapOrdered (entries : List PendingEntry) : Prop :=
  ∀ child ≠ 0, ∀ entry parent, entries[child]? = some entry → entries[(child - 1) / 2]? = some parent →
    pendingLess entry parent = false

theorem pendingLess_iff (left right : PendingEntry) :
    pendingLess left right = true ↔ pendingKey left < pendingKey right := by
  rw [pendingLess, pendingKey, pendingKey, Prod.Lex.toLex_lt_toLex]
  by_cases same : left.needByStep = right.needByStep
  · rw [if_neg (not_not_intro same), same, decide_eq_true_eq, UInt64.lt_iff_toNat_lt]
    simp
  · rw [if_pos same, decide_eq_true_eq, UInt32.lt_iff_toNat_lt]
    have apart : left.needByStep.toNat ≠ right.needByStep.toNat := fun equal => same (UInt32.toNat_inj.mp equal)
    simp [apart]

theorem heapOrdered_iff : HeapOrdered entries ↔ Heap.Ordered pendingKey entries := by
  constructor
  · intro ordered child some_
    by_cases inside : child < entries.length
    · have isChild := List.getElem?_eq_getElem inside
      have isParent := List.getElem?_eq_getElem (Nat.lt_of_le_of_lt (by omega : (child - 1) / 2 ≤ child) inside)
      rw [Heap.ranks_some isChild, Heap.ranks_some isParent]
      have notLess := ordered child some_ _ _ isChild isParent
      rw [← Bool.not_eq_true, pendingLess_iff, not_lt] at notLess
      exact WithTop.coe_le_coe.mpr notLess
    · rw [Heap.ranks_past (Nat.le_of_not_lt inside)]
      exact le_top
  · intro ordered child some_ entry parent isChild isParent
    have le := ordered child some_
    rw [Heap.ranks_some isChild, Heap.ranks_some isParent] at le
    rw [← Bool.not_eq_true, pendingLess_iff, not_lt]
    exact WithTop.coe_le_coe.mp le

section Queue

/-- The operations of the queue; a pop is a removal at the top. -/
inductive QueueStep where
  | insert (slot : Nat) (generation needByStep : UInt32)
  | tighten (position : Nat) (needByStep : UInt32)
  | removeAt (position : Nat)

/-- The entries and the next order after an operation. -/
def queueStep (queue : List PendingEntry × UInt64) : QueueStep → List PendingEntry × UInt64
  | .insert slot generation needByStep =>
    (pendingInsert queue.1 { slot, generation, needByStep, order := queue.2 }, queue.2 + 1)
  | .tighten position needByStep => (pendingTighten queue.1 position needByStep, queue.2)
  | .removeAt position => (pendingRemoveAt queue.1 position, queue.2)

theorem pendingInsert_ordered (ordered : HeapOrdered entries) (entry : PendingEntry) :
    HeapOrdered (pendingInsert entries entry) :=
  heapOrdered_iff.mpr (Heap.insert_ordered (.of_lt pendingLess_iff) (heapOrdered_iff.mp ordered) entry)

theorem pendingRemoveAt_ordered (ordered : HeapOrdered entries) (position : Nat) :
    HeapOrdered (pendingRemoveAt entries position) :=
  heapOrdered_iff.mpr (Heap.removeAtBy_ordered (.of_lt pendingLess_iff) (.of_lt pendingLess_iff)
    (heapOrdered_iff.mp ordered) position)

theorem pendingTighten_ordered (ordered : HeapOrdered entries) (position : Nat) (needByStep : UInt32) :
    HeapOrdered (pendingTighten entries position needByStep) := by
  unfold pendingTighten
  split
  · exact ordered
  · rename_i entry found
    split
    · exact ordered
    · rename_i later
      apply heapOrdered_iff.mpr
      apply Heap.replaceAt_ordered (.of_lt pendingLess_iff) (heapOrdered_iff.mp ordered) found
      apply le_of_lt
      rw [pendingKey, pendingKey, Prod.Lex.toLex_lt_toLex]
      exact .inl (UInt32.lt_iff_toNat_lt.mp (UInt32.not_le.mp later))

theorem queueStep_ordered {queue : List PendingEntry × UInt64} (ordered : HeapOrdered queue.1) (step : QueueStep) :
    HeapOrdered (queueStep queue step).1 := by
  cases step with
  | insert slot generation needByStep => exact pendingInsert_ordered ordered _
  | tighten position needByStep => exact pendingTighten_ordered ordered position needByStep
  | removeAt position => exact pendingRemoveAt_ordered ordered position

theorem heapOrdered_nil : HeapOrdered [] := by
  intro child _ entry parent found
  cases found

/-- Whatever is done with the queue, it stays a heap. -/
theorem queue_ordered (steps : List QueueStep) : HeapOrdered (steps.foldl queueStep ([], 0)).1 := by
  induction steps using List.reverseRecOn with
  | nil => exact heapOrdered_nil
  | append_singleton steps step ih =>
    rw [List.foldl_append]
    exact queueStep_ordered ih step

end Queue

namespace World

theorem stagingRelease_entries (tier : Tier) (buffer : Nat) : (tier.stagingRelease buffer).entries = tier.entries := by
  unfold Tier.stagingRelease
  dsimp only
  split
  · rfl
  · split <;> rfl

/-- An edit leaves the heap alone or does one operation on it. -/
theorem edit_entries (edit : Edit forsakes loses before after) (sound : before.tier.Sound) :
    after.tier.entries = before.tier.entries ∨ (∃ entry, after.tier.entries = pendingInsert before.tier.entries entry) ∨
      (∃ position needByStep, after.tier.entries = pendingTighten before.tier.entries position needByStep) ∨
      ∃ position, after.tier.entries = pendingRemoveAt before.tier.entries position := by
  cases edit with
  | touch touched => exact .inl touched.entries
  | join => exact .inl rfl
  | hand => exact .inl rfl
  | @reserve index contentHash contentDigest head =>
    left
    rw [popFree_some head]
    rfl
  | commit => exact .inl rfl
  | abort => exact .inl rfl
  | @evict index inRange present =>
    have linked : before.tier.Linked index := ⟨inRange, by rw [present]; rfl⟩
    have unstaged := sound.unstaged index (by rw [present]; rfl)
    exact .inl (sound.filing.evictSlot linked unstaged).entries
  | @quarantine index inRange present =>
    have linked : before.tier.Linked index := ⟨inRange, by rw [present]; rfl⟩
    exact .inl (sound.filing.quarantineSlot linked).entries
  | drop | consume => exact .inl (stagingRelease_entries ..)
  | finish => exact .inl (stagingRelease_entries ..)
  | forsake => exact .inl (stagingRelease_entries ..)
  | cancel => exact .inl rfl
  | issue => exact .inl rfl
  | land _ _ verified =>
    left
    rw [landed_verified verified]
    rfl
  | enqueue => exact .inr (.inl ⟨_, rfl⟩)
  | tighten => exact .inr (.inr (.inl ⟨_, _, rfl⟩))
  | absorb => exact .inr (.inr (.inl ⟨_, _, rfl⟩))
  | @dequeue index =>
    unfold dequeue
    dsimp only
    split
    · split
      · exact .inl rfl
      · exact .inr (.inr (.inr ⟨_, rfl⟩))
    · exact .inl rfl
  | forget => exact .inl rfl
  | lose => exact .inl rfl
  | discard => exact .inr (.inr (.inr ⟨0, rfl⟩))
  | deviceWrite => exact .inl rfl

theorem edit_heapOrdered (edit : Edit forsakes loses before after) (sound : before.tier.Sound)
    (ordered : HeapOrdered before.tier.entries) : HeapOrdered after.tier.entries := by
  rcases edit_entries edit sound with same | ⟨entry, inserted⟩ | ⟨position, needByStep, tightened⟩ | ⟨position, removed⟩
  · rw [same]
    exact ordered
  · rw [inserted]
    exact pendingInsert_ordered ordered entry
  · rw [tightened]
    exact pendingTighten_ordered ordered position needByStep
  · rw [removed]
    exact pendingRemoveAt_ordered ordered position

theorem edits_heapOrdered (edits : Edits forsakes loses before after) (sound : before.tier.Sound)
    (ordered : HeapOrdered before.tier.entries) : HeapOrdered after.tier.entries := by
  induction edits with
  | refl => exact ordered
  | tail edits edit ih => exact edit_heapOrdered edit (Edits.sound edits sound) ih

/-- The heap of every tier is ordered. -/
theorem run_heapOrdered {configuration : Configuration} {cancels : Bool} {contents : Nat → List UInt8} {start : World}
    (initialized : initializeTier configuration cancels contents = .ok start) (steps : List Step) :
    (steps.foldl perform start).tier.Sound ∧ HeapOrdered (steps.foldl perform start).tier.entries := by
  have begins : start.tier.Sound ∧ HeapOrdered start.tier.entries := by
    refine ⟨initializeTier_sound initialized, ?_⟩
    obtain ⟨-, rfl⟩ := initializeTier_ok initialized
    exact heapOrdered_nil
  have always : Along perform (fun _ _ => True) steps start := Along.of_forall fun _ _ => trivial
  apply always.foldl (P := fun world => world.tier.Sound ∧ HeapOrdered world.tier.entries) ?_ begins
  intro world step both _
  have edits := perform_edits both.1 step
  exact ⟨edits.sound both.1, edits_heapOrdered edits both.1 both.2⟩

section Pump

/-- How a pump serves the queue, with the submissions that are left by number and the buffers that it
counts as free: it discards a stale entry, or submits a read for a valid one that is before all
others, until it is out of entries or of buffers that are not kept for demands. -/
inductive Serves (replies : Replies) : Nat → Nat → World → World → Prop
  | stop {rounds free : Nat} {world : World}
      (done : world.tier.entries = [] ∨ free ≤ world.tier.configuration.demandReserveBuffers) :
      Serves replies rounds free world world
  | skip {rounds free : Nat} {world after : World} {entry : PendingEntry} {rest : List PendingEntry}
      (taken : world.tier.entries.Perm (entry :: rest)) (stale : ¬ world.Valid entry)
      (goesOn : Serves replies rounds free (world.withTier { world.tier with entries := rest }) after) :
      Serves replies (rounds + 1) free world after
  | issue {rounds free : Nat} {world dequeued after : World} {entry : PendingEntry} {buffer : Nat}
      (enough : world.tier.configuration.demandReserveBuffers < free)
      (valid : world.Valid entry)
      (least : ∀ other ∈ world.tier.entries, world.Valid other → pendingLess other entry = false)
      (taken : world.tier.entries.Perm (entry :: dequeued.tier.entries))
      (isDequeued : dequeued = world.dequeue entry.slot)
      (isFree : (world.tier.staging buffer).state = .free)
      (goesOn : Serves replies rounds (free - 1)
        (dequeued.issueRead entry.slot buffer .prefetch entry.needByStep (replies.submit rounds)).2 after) :
      Serves replies (rounds + 1) free world after

/-- The top of the heap is before all its entries. -/
theorem head_least {head : PendingEntry} {rest : List PendingEntry} (ordered : HeapOrdered entries)
    (isHead : entries = head :: rest) {other : PendingEntry} (member : other ∈ entries) :
    pendingLess other head = false := by
  obtain ⟨place, inRange, found⟩ := List.getElem_of_mem member
  have le := (heapOrdered_iff.mp ordered).root_le place
  have top : entries[0]? = some head := by
    rw [isHead]
    rfl
  have here : entries[place]? = some other := by
    rw [List.getElem?_eq_getElem inRange, found]
  rw [Heap.ranks_some top, Heap.ranks_some here] at le
  rw [← Bool.not_eq_true, pendingLess_iff, not_lt]
  exact WithTop.coe_le_coe.mp le

/-- A submission leaves the heap alone. -/
theorem issueRead_entries (world : World) (index buffer : Nat) (holder : Holder) (needByStep : UInt32)
    (reply : SparkStatus × UInt64) :
    (world.issueRead index buffer holder needByStep reply).2.tier.entries = world.tier.entries := by
  unfold issueRead
  dsimp only
  split
  · exact stagingRelease_entries world.tier buffer
  · rfl

/-- The second loop of the pump serves the queue. -/
theorem issuePending_serves (replies : Replies) (rounds freeCount : Nat) (world : World) (sound : world.tier.Sound)
    (ordered : HeapOrdered world.tier.entries) (left : world.tier.entries.length ≤ rounds)
    (counted : freeCount ≤ tally world.tier.configuration.stagingBufferCount fun buffer =>
      (world.tier.staging buffer).state = .free) :
    Serves replies rounds freeCount world (issuePending replies rounds freeCount world) := by
  induction rounds generalizing freeCount world with
  | zero => exact .stop (.inl (List.length_eq_zero_iff.mp (Nat.le_zero.mp left)))
  | succ rounds ih =>
    cases entries : world.tier.entries with
    | nil =>
      rw [issuePending, entries]
      exact .stop (.inl entries)
    | cons head rest =>
      by_cases enough : world.tier.configuration.demandReserveBuffers < freeCount
      swap
      · rw [issuePending, entries]
        dsimp only
        rw [if_pos (Nat.le_of_not_lt enough)]
        exact .stop (.inr (Nat.le_of_not_lt enough))
      have isHead : world.tier.entries[0]? = some head := by
        rw [entries]
        rfl
      have taken := Heap.removeAt_perm pendingLess isHead
      have fewer : (pendingRemoveAt world.tier.entries 0).length ≤ rounds := by
        have lengths := taken.length_eq
        rw [List.length_cons] at lengths
        change (Heap.removeAt pendingLess world.tier.entries 0).length ≤ rounds
        omega
      by_cases valid : world.Valid head
      · obtain ⟨buffer, isFree⟩ := counted_free enough counted
        obtain ⟨issues, freed⟩ := issue_edits sound entries valid isFree (replies.submit rounds) rfl
        have issued : Edits True True world _ := issues
        have remaining : (world.dequeue head.slot).tier.entries = pendingRemoveAt world.tier.entries 0 := by
          unfold dequeue
          rw [if_pos valid.2.2.2, (head_entry sound entries).1]
          rfl
        have afterwards := issueRead_entries (world.dequeue head.slot) head.slot buffer .prefetch head.needByStep
          (replies.submit rounds)
        rw [issuePending_issue sound entries enough valid isFree]
        refine .issue enough valid (fun other member _ => head_least ordered entries member) ?_ rfl
          (freeBuffer_some isFree).2 ?_
        · rw [remaining]
          exact taken
        · apply ih (freeCount - 1) _ (issued.sound sound) (edits_heapOrdered issued sound ordered) _ (by omega)
          rw [afterwards, remaining]
          exact fewer
      · have discards : Edits True True world (world.withTier
            { world.tier with entries := pendingRemoveAt world.tier.entries 0 }) := by
          apply Edits.one (.discard entries _)
          rw [← Bool.not_eq_true, ← valid_iff sound entries]
          exact valid
        rw [issuePending_skip entries enough valid]
        exact .skip taken valid (ih freeCount _ (discards.sound sound) (pendingRemoveAt_ordered ordered 0) fewer counted)

/-- The queue is a heap whatever is done with it, and in every tier; each pump serves it from the
least valid entry on. -/
theorem queue_served {configuration : Configuration} {cancels : Bool} {contents : Nat → List UInt8} {start : World}
    (initialized : initializeTier configuration cancels contents = .ok start) :
    (∀ steps : List QueueStep, HeapOrdered (steps.foldl queueStep ([], 0)).1) ∧
    ∀ steps : List Step, HeapOrdered (steps.foldl perform start).tier.entries ∧
      ∀ replies polled, pollReads replies (steps.foldl perform start).tier.buffers (steps.foldl perform start) =
          (.ok, polled) →
        Serves replies polled.tier.entries.length
          (polled.tier.buffers.countP fun buffer => (polled.tier.staging buffer).state = .free) polled
          ((steps.foldl perform start).pump replies).2 := by
  refine ⟨queue_ordered, ?_⟩
  intro steps
  obtain ⟨sound, ordered⟩ := run_heapOrdered initialized steps
  refine ⟨ordered, ?_⟩
  intro replies polled isPolled
  generalize steps.foldl perform start = world at sound ordered isPolled ⊢
  have polls : Edits True True world (pollReads replies world.tier.buffers world).2 :=
    pollReads_edits replies world.tier.buffers world sound
  rw [isPolled] at polls
  rw [pump, isPolled, andThen_ok rfl]
  exact issuePending_serves replies _ _ polled (polls.sound sound) (edits_heapOrdered polls sound ordered) (Nat.le_refl _)
    (Nat.le_of_eq (countP_range _ _))

/-- Two blocks are stored and ordered, the one that is needed first as the second. -/
def twoOrders : List Step :=
  stored 7 [1] 0 1 ++ stored 8 [2] 1 1 ++
    [.planLookahead [{ contentHash := 7, needByStep := 9, contentDigest := [1] },
      { contentHash := 8, needByStep := 5, contentDigest := [2] }] 0]

theorem queue_served_twoOrders :
    (twoOrders.foldl perform newTier).tier.entries.map PendingEntry.needByStep = [5, 9] ∧
      HeapOrdered (twoOrders.foldl perform newTier).tier.entries :=
  ⟨by decide +kernel,
    ((queue_served (show initializeTier smallTier true (fun _ => []) = .ok newTier from rfl)).2 twoOrders).1⟩

end Pump

end World

end Sparkpipe.NvmeTier
