import Sparkpipe.Transaction.Ledger
import Sparkpipe.Lib.Tally

/-!
# The transmission window

A sender keeps each packet in a slot until it is acknowledged. A slot is reserved, sent and
acknowledged; then it is reserved again, under a new generation. What has been sent is replayed in
the order of the last sends, which are numbered by one counter for sends and replays.
-/

namespace Sparkpipe.WorkTransaction

open Function

/-- The state of a slot. -/
inductive SlotState where
  | free
  | reserved
  | sent
  | acknowledged
  deriving DecidableEq

namespace SlotState

/-- Whether a slot can be reserved. -/
def isReusable : SlotState → Bool
  | free | acknowledged => true
  | reserved | sent => false

/-- Whether a slot is in use. -/
def isInUse : SlotState → Bool
  | reserved | sent => true
  | free | acknowledged => false

end SlotState

/-- `SparkRuntimeTransmissionSlot`. -/
structure TransmissionSlot where
  state : SlotState := .free
  slotIndex : Nat := 0
  slotGeneration : UInt64 := 0
  identity : Identity := {}
  payloadFingerprint : UInt64 := 0
  lastSendEpoch : UInt64 := 0
  retryCount : UInt32 := 0

/-- `SparkRuntimeTransmissionWindow`. -/
structure TransmissionWindow where
  capacity : Nat
  inUseCount : Nat := 0
  nextSlotGeneration : UInt64 := 1
  sendEpoch : UInt64 := 0
  slots : Nat → TransmissionSlot

/-- `SparkRuntimeInitializeTransmissionWindow`. -/
def initializeTransmissionWindow (capacity : Nat) : Except SparkStatus TransmissionWindow :=
  if capacity = 0 then .error .invalidArgument
  else .ok { capacity := capacity, slots := fun index => { slotIndex := index } }

/-- A counter of 64 bits that is never zero again. -/
def nextCount (count : UInt64) : UInt64 := if count + 1 = 0 then 1 else count + 1

namespace TransmissionWindow

variable (window : TransmissionWindow)

/-- `SparkRuntimeValidateTransmissionWindow`. -/
def isValid : Bool :=
  window.capacity ≠ 0 && window.inUseCount ≤ window.capacity && window.nextSlotGeneration ≠ 0

/-- The slot that the loop of `SparkRuntimeReserveTransmissionSlot` takes. -/
def reusableSlot : Option Nat := (List.range window.capacity).find? fun index => (window.slots index).state.isReusable

/-- The slot that the loop of `SparkRuntimeNextReplayTransmission` takes. -/
def oldestSlot : Option Nat :=
  leastRanked (fun index => (window.slots index).state = .sent) (fun index => (window.slots index).lastSendEpoch.toNat)
    (List.range window.capacity) (2 ^ 64 - 1) none

/-- A reservation of a slot. -/
def reserve (index : Nat) (identity : Identity) (payloadFingerprint : UInt64) : TransmissionWindow :=
  { window with
    slots := update window.slots index
      { state := .reserved
        slotIndex := index
        slotGeneration := window.nextSlotGeneration
        identity := identity
        payloadFingerprint := payloadFingerprint }
    nextSlotGeneration := nextCount window.nextSlotGeneration
    inUseCount := window.inUseCount + 1 }

/-- A send of a slot, with what is to be left in it besides the epoch. -/
def send (index : Nat) (slot : TransmissionSlot) : TransmissionWindow :=
  { window with
    slots := update window.slots index { slot with lastSendEpoch := nextCount window.sendEpoch }
    sendEpoch := nextCount window.sendEpoch }

/-- The end of a slot's use. -/
def release (index : Nat) : TransmissionWindow :=
  { window with
    slots := update window.slots index { window.slots index with state := .acknowledged }
    inUseCount := window.inUseCount - 1 }

/-- `SparkRuntimeReserveTransmissionSlot`. -/
def reserveTransmissionSlot (identity : Identity) (payloadFingerprint : UInt64) :
    Except SparkStatus (TransmissionWindow × Nat × UInt64) :=
  if window.isValid = false ∨ identity.isValid = false ∨ payloadFingerprint = 0 then .error .invalidArgument
  else if window.capacity ≤ window.inUseCount then .error .busy
  else match window.reusableSlot with
  | none => .error .internalError
  | some index => .ok (window.reserve index identity payloadFingerprint, index, window.nextSlotGeneration)

/-- `SparkRuntimeMarkTransmissionSent`. -/
def markTransmissionSent (slotIndex : Nat) (slotGeneration : UInt64) : Except SparkStatus TransmissionWindow :=
  if window.isValid = false ∨ window.capacity ≤ slotIndex ∨ slotGeneration = 0 then .error .invalidArgument
  else if (window.slots slotIndex).slotGeneration ≠ slotGeneration then .error .validationFailed
  else if (window.slots slotIndex).state = .sent then .error .duplicate
  else if (window.slots slotIndex).state ≠ .reserved then .error .validationFailed
  else .ok (window.send slotIndex { window.slots slotIndex with state := .sent })

/-- `SparkRuntimeAcknowledgeTransmission`. -/
def acknowledgeTransmission (slotIndex : Nat) (slotGeneration : UInt64) (identity : Identity)
    (payloadFingerprint : UInt64) :
    Except SparkStatus TransmissionWindow :=
  if window.isValid = false ∨ window.capacity ≤ slotIndex ∨ slotGeneration = 0 ∨ identity.isValid = false ∨
      payloadFingerprint = 0 then .error .invalidArgument
  else if (window.slots slotIndex).slotGeneration ≠ slotGeneration ∨ (window.slots slotIndex).identity ≠ identity ∨
      (window.slots slotIndex).payloadFingerprint ≠ payloadFingerprint then .error .validationFailed
  else if (window.slots slotIndex).state = .acknowledged then .error .duplicate
  else if (window.slots slotIndex).state ≠ .sent ∨ window.inUseCount = 0 then .error .validationFailed
  else .ok (window.release slotIndex)

/-- The count of replays of a slot stays at its maximum. -/
def nextRetry (count : UInt32) : UInt32 := if count + 1 = 0 then 0xffffffff else count + 1

/-- `SparkRuntimeNextReplayTransmission`. -/
def nextReplayTransmission : Except SparkStatus (TransmissionWindow × Nat × UInt64) :=
  if window.isValid = false then .error .invalidArgument
  else match window.oldestSlot with
  | none => .error .notFound
  | some index =>
    let slot := window.slots index
    .ok (window.send index { slot with retryCount := nextRetry slot.retryCount }, slot.slotIndex, slot.slotGeneration)

end TransmissionWindow

section Runs

/-- A call of the window. -/
inductive WindowCall where
  | reserve (identity : Identity) (payloadFingerprint : UInt64)
  | markSent (slotIndex : Nat) (slotGeneration : UInt64)
  | acknowledge (slotIndex : Nat) (slotGeneration : UInt64) (identity : Identity) (payloadFingerprint : UInt64)
  | nextReplay

/-- What a call has done. -/
inductive WindowEvent where
  | refused (status : SparkStatus)
  | reserved (slotIndex : Nat) (slotGeneration : UInt64)
  | sent (slotIndex : Nat) (slotGeneration : UInt64)
  | acknowledged (slotIndex : Nat) (slotGeneration : UInt64)
  | replayed (slotIndex : Nat) (slotGeneration : UInt64)
  deriving DecidableEq

/-- A window with what its calls have done, one event for each. -/
structure Transmission where
  window : TransmissionWindow
  events : List WindowEvent := []

/-- What a call leaves and does. A call that is refused leaves the window as it is. -/
def TransmissionWindow.respond (window : TransmissionWindow) : WindowCall → TransmissionWindow × WindowEvent
  | .reserve identity payloadFingerprint =>
    match window.reserveTransmissionSlot identity payloadFingerprint with
    | .error status => (window, .refused status)
    | .ok (left, slotIndex, slotGeneration) => (left, .reserved slotIndex slotGeneration)
  | .markSent slotIndex slotGeneration =>
    match window.markTransmissionSent slotIndex slotGeneration with
    | .error status => (window, .refused status)
    | .ok left => (left, .sent slotIndex slotGeneration)
  | .acknowledge slotIndex slotGeneration identity payloadFingerprint =>
    match window.acknowledgeTransmission slotIndex slotGeneration identity payloadFingerprint with
    | .error status => (window, .refused status)
    | .ok left => (left, .acknowledged slotIndex slotGeneration)
  | .nextReplay =>
    match window.nextReplayTransmission with
    | .error status => (window, .refused status)
    | .ok (left, slotIndex, slotGeneration) => (left, .replayed slotIndex slotGeneration)

def Transmission.perform (transmission : Transmission) (call : WindowCall) : Transmission where
  window := (transmission.window.respond call).1
  events := transmission.events ++ [(transmission.window.respond call).2]

/-- What a response can be: a refusal, or one write. -/
inductive TransmissionWindow.Responds (window : TransmissionWindow) : TransmissionWindow × WindowEvent → Prop
  | refused (status : SparkStatus) : Responds window (window, .refused status)
  | reserved (index : Nat) (identity : Identity) (payloadFingerprint : UInt64) (inside : index < window.capacity)
      (reusable : (window.slots index).state.isReusable = true) :
      Responds window (window.reserve index identity payloadFingerprint, .reserved index window.nextSlotGeneration)
  | sent (index : Nat) (inside : index < window.capacity) (reserved : (window.slots index).state = .reserved) :
      Responds window (window.send index { window.slots index with state := .sent },
        .sent index (window.slots index).slotGeneration)
  | acknowledged (index : Nat) (inside : index < window.capacity) (sent : (window.slots index).state = .sent) :
      Responds window (window.release index, .acknowledged index (window.slots index).slotGeneration)
  | replayed (index : Nat) (inside : index < window.capacity) (sent : (window.slots index).state = .sent)
      (oldest : ∀ other < window.capacity, (window.slots other).state = .sent →
        (window.slots index).lastSendEpoch.toNat ≤ (window.slots other).lastSendEpoch.toNat) :
      Responds window (window.send index { window.slots index with
          retryCount := TransmissionWindow.nextRetry (window.slots index).retryCount },
        .replayed (window.slots index).slotIndex (window.slots index).slotGeneration)

theorem TransmissionWindow.respond_responds (window : TransmissionWindow) (call : WindowCall) :
    window.Responds (window.respond call) := by
  cases call with
  | reserve identity payloadFingerprint =>
    unfold respond reserveTransmissionSlot
    dsimp only
    split_ifs
    · exact .refused _
    · exact .refused _
    · cases found : window.reusableSlot with
      | none => exact .refused _
      | some index =>
        have inside := List.mem_range.mp (List.mem_of_find?_eq_some found)
        have reusable := List.find?_some (p := fun index => (window.slots index).state.isReusable) found
        exact .reserved index identity payloadFingerprint inside reusable
  | markSent slotIndex slotGeneration =>
    unfold respond markTransmissionSent
    dsimp only
    split_ifs with invalid different again other
    · exact .refused _
    · exact .refused _
    · exact .refused _
    · exact .refused _
    · rw [← not_not.mp different]
      exact .sent slotIndex (by omega) (not_not.mp other)
  | acknowledge slotIndex slotGeneration identity payloadFingerprint =>
    unfold respond acknowledgeTransmission
    dsimp only
    split_ifs with invalid different again other
    · exact .refused _
    · exact .refused _
    · exact .refused _
    · exact .refused _
    · simp only [not_or, not_not] at different other
      rw [← different.1]
      exact .acknowledged slotIndex (by omega) other.1
  | nextReplay =>
    unfold respond nextReplayTransmission
    dsimp only
    split_ifs
    · exact .refused _
    · cases found : window.oldestSlot with
      | none => exact .refused _
      | some index =>
        obtain ⟨member, sent, least⟩ := leastRanked_some found
        refine .replayed index (List.mem_range.mp member) (of_decide_eq_true sent) fun other inside otherSent => ?_
        exact least other (List.mem_range.mpr inside) (decide_eq_true otherSent)

theorem toNat_nextCount {count : UInt64} (small : count.toNat + 1 < 2 ^ 64) :
    (nextCount count).toNat = count.toNat + 1 := by
  have sum : (count + 1).toNat = count.toNat + 1 := by
    rw [UInt64.toNat_add]
    exact Nat.mod_eq_of_lt small
  have nonzero : count + 1 ≠ 0 := by
    intro zero
    rw [zero] at sum
    exact absurd sum (Nat.succ_ne_zero _).symm
  unfold nextCount
  rw [if_neg nonzero, sum]

theorem nextCount_ne_zero (count : UInt64) : nextCount count ≠ 0 := by
  unfold nextCount
  split
  · decide
  · assumption

/-- A generation rises from one reservation to the next. -/
def Rises (earlier later : WindowEvent) : Prop :=
  ∀ index generation other otherGeneration, earlier = .reserved index generation →
    later = .reserved other otherGeneration → generation.toNat < otherGeneration.toNat

/-- The events of a window and what they tell of its slots, with the numbers of reservations and of sends. -/
structure Tracked (transmission : Transmission) (reserves sends : Nat) : Prop where
  positive : 0 < transmission.window.capacity
  counted : transmission.window.inUseCount =
    tally transmission.window.capacity fun index => (transmission.window.slots index).state.isInUse
  indexed : ∀ index < transmission.window.capacity, (transmission.window.slots index).slotIndex = index
  outside : ∀ index, transmission.window.capacity ≤ index → (transmission.window.slots index).state = .free
  calls : reserves + sends ≤ transmission.events.length
  next : reserves + 1 < 2 ^ 64 → transmission.window.nextSlotGeneration.toNat = reserves + 1
  nonzero : transmission.window.nextSlotGeneration ≠ 0
  epoch : transmission.window.sendEpoch.toNat = sends
  epochs : ∀ index, (transmission.window.slots index).lastSendEpoch.toNat ≤ sends
  generations : ∀ index, (transmission.window.slots index).slotGeneration.toNat ≤ reserves
  given : ∀ index generation, .reserved index generation ∈ transmission.events →
    generation.toNat ≤ (transmission.window.slots index).slotGeneration.toNat
  rising : transmission.events.Pairwise Rises
  ended : ∀ index generation, .acknowledged index generation ∈ transmission.events →
    generation.toNat < (transmission.window.slots index).slotGeneration.toNat ∨
      generation = (transmission.window.slots index).slotGeneration ∧
        (transmission.window.slots index).state = .acknowledged
  once : ∀ index generation, transmission.events.count (.acknowledged index generation) ≤ 1

variable {transmission : Transmission} {reserves sends : Nat}

theorem initializeTransmissionWindow_tracked {capacity : Nat} {window : TransmissionWindow}
    (accepted : initializeTransmissionWindow capacity = .ok window) : Tracked { window := window } 0 0 := by
  unfold initializeTransmissionWindow at accepted
  split at accepted
  · cases accepted
  · cases accepted
    exact {
      positive := by dsimp only; omega
      counted := (tally_eq_zero fun _ _ => rfl).symm
      indexed := fun _ _ => rfl
      outside := fun _ _ => rfl
      calls := Nat.le_refl 0
      next := fun _ => rfl
      nonzero := by dsimp only; decide
      epoch := rfl
      epochs := fun _ => Nat.le_refl 0
      generations := fun _ => Nat.le_refl 0
      given := nofun
      rising := List.Pairwise.nil
      ended := nofun
      once := fun _ _ => Nat.zero_le 1 }

/-- An event that is neither a reservation nor an acknowledgement. -/
def WindowEvent.Plain (event : WindowEvent) : Prop :=
  ∀ index generation, event ≠ .reserved index generation ∧ event ≠ .acknowledged index generation

theorem WindowEvent.Plain.rising {events : List WindowEvent} {event : WindowEvent} (plain : event.Plain)
    (rising : events.Pairwise Rises) : (events ++ [event]).Pairwise Rises := by
  refine List.pairwise_append.mpr ⟨rising, List.pairwise_singleton _ _, ?_⟩
  intro earlier _ later member index generation other otherGeneration _ isReserved
  rw [List.mem_singleton.mp member] at isReserved
  exact absurd isReserved (plain other otherGeneration).1

theorem WindowEvent.Plain.once {events : List WindowEvent} {event : WindowEvent} (plain : event.Plain) (index : Nat)
    (generation : UInt64) :
    (events ++ [event]).count (.acknowledged index generation) = events.count (.acknowledged index generation) := by
  rw [List.count_append, List.count_singleton, if_neg, Nat.add_zero]
  simpa using (plain index generation).2

theorem mem_of_mem_snoc {events : List WindowEvent} {event other : WindowEvent} (member : other ∈ events ++ [event])
    (different : event ≠ other) : other ∈ events := by
  rcases List.mem_append.mp member with earlier | here
  · exact earlier
  · exact absurd (List.mem_singleton.mp here).symm different

variable {window : TransmissionWindow} {events : List WindowEvent} {event : WindowEvent} {index : Nat}

section

variable (tracked : Tracked ⟨window, events⟩ reserves sends)
include tracked

theorem Tracked.refused (status : SparkStatus) :
    Tracked ⟨window, events ++ [.refused status]⟩ reserves sends := by
  have plain : (WindowEvent.refused status).Plain := fun _ _ => ⟨nofun, nofun⟩
  exact { tracked with
    calls := by
      have := tracked.calls
      simp only [List.length_append, List.length_singleton] at this ⊢
      omega
    given := fun index generation member => tracked.given index generation (mem_of_mem_snoc member nofun)
    rising := plain.rising tracked.rising
    ended := fun index generation member => tracked.ended index generation (mem_of_mem_snoc member nofun)
    once := fun index generation => (plain.once index generation).trans_le (tracked.once index generation) }

/-- A send or a replay moves the slot to the newest epoch. -/
theorem Tracked.send (few : events.length + 1 < 2 ^ 64)
    (inside : index < window.capacity) {slot : TransmissionSlot} (inUse : (window.slots index).state.isInUse = true)
    (sent : slot.state = .sent) (sameIndex : slot.slotIndex = (window.slots index).slotIndex)
    (sameGeneration : slot.slotGeneration = (window.slots index).slotGeneration) (plain : event.Plain) :
    Tracked ⟨window.send index slot, events ++ [event]⟩ reserves (sends + 1) := by
  have calls := tracked.calls
  have epoch := tracked.epoch
  dsimp only at calls epoch
  have newEpoch : (nextCount window.sendEpoch).toNat = sends + 1 := by
    rw [toNat_nextCount (by omega), epoch]
  have generation (other : Nat) : ((window.send index slot).slots other).slotGeneration =
      (window.slots other).slotGeneration := by
    unfold TransmissionWindow.send
    by_cases here : other = index
    · subst here
      simpa using sameGeneration
    · simp [update_of_ne here]
  exact {
    positive := tracked.positive
    nonzero := tracked.nonzero
    next := tracked.next
    epoch := newEpoch
    calls := by
      simp only [List.length_append, List.length_singleton]
      omega
    counted := by
      have moved := tally_update window.slots { slot with lastSendEpoch := nextCount window.sendEpoch }
        (fun slot => slot.state.isInUse) inside
      have before := tracked.counted
      have still : slot.state.isInUse = true := by rw [sent]; rfl
      dsimp only at moved before
      rw [inUse, still] at moved
      exact before.trans (Nat.add_right_cancel moved).symm
    indexed := by
      intro other below
      unfold TransmissionWindow.send
      dsimp only
      by_cases here : other = index
      · subst here
        rw [update_self]
        exact sameIndex.trans (tracked.indexed other below)
      · rw [update_of_ne here]
        exact tracked.indexed other below
    outside := by
      intro other beyond
      unfold TransmissionWindow.send at beyond ⊢
      dsimp only at beyond ⊢
      rw [update_of_ne (by omega)]
      exact tracked.outside other beyond
    epochs := by
      intro other
      unfold TransmissionWindow.send
      dsimp only
      by_cases here : other = index
      · subst here
        rw [update_self, newEpoch]
      · rw [update_of_ne here]
        exact Nat.le_succ_of_le (tracked.epochs other)
    generations := by
      intro other
      rw [generation]
      exact tracked.generations other
    given := by
      intro other given member
      rw [generation]
      exact tracked.given other given (mem_of_mem_snoc member (plain other given).1)
    rising := plain.rising tracked.rising
    ended := by
      intro other given member
      rw [generation]
      rcases tracked.ended other given (mem_of_mem_snoc member (plain other given).2) with earlier | ⟨same, isEnded⟩
      · exact .inl earlier
      · refine .inr ⟨same, ?_⟩
        unfold TransmissionWindow.send
        dsimp only at isEnded ⊢
        by_cases here : other = index
        · subst here
          rw [isEnded] at inUse
          cases inUse
        · rwa [update_of_ne here]
    once := fun other given => (plain.once other given).trans_le (tracked.once other given) }

theorem Tracked.release (inside : index < window.capacity)
    (sent : (window.slots index).state = .sent) :
    Tracked ⟨window.release index, events ++ [.acknowledged index (window.slots index).slotGeneration]⟩ reserves sends := by
  have calls := tracked.calls
  dsimp only at calls
  have kept (other : Nat) : ((window.release index).slots other).slotGeneration = (window.slots other).slotGeneration ∧
      ((window.release index).slots other).slotIndex = (window.slots other).slotIndex ∧
      ((window.release index).slots other).lastSendEpoch = (window.slots other).lastSendEpoch := by
    unfold TransmissionWindow.release
    by_cases here : other = index
    · subst here
      simp
    · simp [update_of_ne here]
  exact {
    positive := tracked.positive
    nonzero := tracked.nonzero
    next := tracked.next
    epoch := tracked.epoch
    calls := by
      simp only [List.length_append, List.length_singleton]
      omega
    counted := by
      have moved := tally_update window.slots { window.slots index with state := .acknowledged }
        (fun slot => slot.state.isInUse) inside
      have before := tracked.counted
      have inUse : (window.slots index).state.isInUse = true := by rw [sent]; rfl
      dsimp only at moved before
      rw [inUse] at moved
      change window.inUseCount - 1 = tally window.capacity _
      rw [before]
      exact Nat.sub_eq_of_eq_add moved.symm
    indexed := by
      intro other below
      rw [(kept other).2.1]
      exact tracked.indexed other below
    outside := by
      intro other beyond
      unfold TransmissionWindow.release at beyond ⊢
      dsimp only at beyond ⊢
      rw [update_of_ne (by omega)]
      exact tracked.outside other beyond
    epochs := by
      intro other
      rw [(kept other).2.2]
      exact tracked.epochs other
    generations := by
      intro other
      rw [(kept other).1]
      exact tracked.generations other
    given := by
      intro other generation member
      rw [(kept other).1]
      exact tracked.given other generation (mem_of_mem_snoc member nofun)
    rising := by
      refine List.pairwise_append.mpr ⟨tracked.rising, List.pairwise_singleton _ _, ?_⟩
      intro earlier _ later member one generation other otherGeneration _ isReserved
      rw [List.mem_singleton.mp member] at isReserved
      cases isReserved
    ended := by
      intro other generation member
      rw [(kept other).1]
      unfold TransmissionWindow.release
      dsimp only
      by_cases here : other = index
      · subst here
        rw [update_self]
        rcases List.mem_append.mp member with earlier | now
        · exact (tracked.ended other generation earlier).imp_right fun ended => ⟨ended.1, rfl⟩
        · cases List.mem_singleton.mp now
          exact .inr ⟨rfl, rfl⟩
      · rw [update_of_ne here]
        refine tracked.ended other generation (mem_of_mem_snoc member ?_)
        rintro ⟨⟩
        exact here rfl
    once := by
      intro other generation
      rw [List.count_append, List.count_singleton]
      split
      · rename_i same
        cases eq_of_beq same
        have never : (.acknowledged index (window.slots index).slotGeneration) ∉ events := by
          intro member
          rcases tracked.ended _ _ member with earlier | ⟨-, isEnded⟩
          · exact Nat.lt_irrefl _ earlier
          · dsimp only at isEnded
            rw [sent] at isEnded
            cases isEnded
        rw [List.count_eq_zero_of_not_mem never]
      · exact tracked.once other generation }

theorem Tracked.reserve (few : events.length + 1 < 2 ^ 64)
    (inside : index < window.capacity) (reusable : (window.slots index).state.isReusable = true) (identity : Identity)
    (payloadFingerprint : UInt64) :
    Tracked ⟨window.reserve index identity payloadFingerprint, events ++ [.reserved index window.nextSlotGeneration]⟩
      (reserves + 1) sends := by
  have calls := tracked.calls
  dsimp only at calls
  have newGeneration : window.nextSlotGeneration.toNat = reserves + 1 := tracked.next (by omega)
  have generation (other : Nat) (different : other ≠ index) :
      (window.reserve index identity payloadFingerprint).slots other = window.slots other :=
    update_of_ne different _ _
  have here : (window.reserve index identity payloadFingerprint).slots index = {
      state := .reserved, slotIndex := index, slotGeneration := window.nextSlotGeneration, identity := identity
      payloadFingerprint := payloadFingerprint } := update_self ..
  have issued {other : Nat} {given : UInt64} (member : .reserved other given ∈ events) : given.toNat ≤ reserves :=
    Nat.le_trans (tracked.given other given member) (tracked.generations other)
  exact {
    positive := tracked.positive
    nonzero := nextCount_ne_zero _
    next := by
      intro small
      change (nextCount window.nextSlotGeneration).toNat = _
      rw [toNat_nextCount (by omega), newGeneration]
    epoch := tracked.epoch
    calls := by
      simp only [List.length_append, List.length_singleton]
      omega
    counted := by
      have moved := tally_update window.slots {
        state := .reserved, slotIndex := index, slotGeneration := window.nextSlotGeneration, identity := identity
        payloadFingerprint := payloadFingerprint } (fun slot => slot.state.isInUse) inside
      have before := tracked.counted
      have idle : (window.slots index).state.isInUse = false := by
        revert reusable
        cases (window.slots index).state <;> decide
      dsimp only at moved before
      rw [idle] at moved
      change window.inUseCount + 1 = tally window.capacity _
      rw [before]
      exact moved.symm
    indexed := by
      intro other below
      by_cases same : other = index
      · subst same
        rw [here]
      · rw [generation other same]
        exact tracked.indexed other below
    outside := by
      intro other beyond
      have beyond : window.capacity ≤ other := beyond
      rw [generation other (by omega)]
      exact tracked.outside other beyond
    epochs := by
      intro other
      by_cases same : other = index
      · subst same
        rw [here]
        exact Nat.zero_le sends
      · rw [generation other same]
        exact tracked.epochs other
    generations := by
      intro other
      by_cases same : other = index
      · subst same
        rw [here, newGeneration]
      · rw [generation other same]
        exact Nat.le_succ_of_le (tracked.generations other)
    given := by
      intro other given member
      rcases List.mem_append.mp member with earlier | now
      · by_cases same : other = index
        · subst same
          rw [here, newGeneration]
          exact Nat.le_succ_of_le (issued earlier)
        · rw [generation other same]
          exact tracked.given other given earlier
      · cases List.mem_singleton.mp now
        rw [here]
    rising := by
      refine List.pairwise_append.mpr ⟨tracked.rising, List.pairwise_singleton _ _, ?_⟩
      intro earlier member later isNow one given other otherGiven isReserved isLater
      cases List.mem_singleton.mp isNow
      cases isLater
      rw [isReserved] at member
      have := issued member
      omega
    ended := by
      intro other given member
      have earlier := mem_of_mem_snoc member nofun
      by_cases same : other = index
      · subst same
        rw [here, newGeneration]
        have old := tracked.generations other
        rcases tracked.ended other given earlier with less | ⟨rfl, -⟩
        · exact .inl (by omega)
        · exact .inl (by omega)
      · rw [generation other same]
        exact tracked.ended other given earlier
    once := by
      intro other given
      rw [List.count_append, List.count_singleton, if_neg (by simp), Nat.add_zero]
      exact tracked.once other given }

end

/-- A call keeps the invariant while the counters do not wrap. -/
theorem Tracked.perform (tracked : Tracked transmission reserves sends) (few : transmission.events.length + 1 < 2 ^ 64)
    (call : WindowCall) : ∃ reserves sends, Tracked (transmission.perform call) reserves sends := by
  obtain ⟨window, events⟩ := transmission
  have responds := window.respond_responds call
  unfold Transmission.perform
  dsimp only
  generalize window.respond call = response at responds ⊢
  cases responds with
  | refused status => exact ⟨_, _, tracked.refused status⟩
  | reserved index identity payloadFingerprint inside reusable =>
    exact ⟨_, _, tracked.reserve few inside reusable identity payloadFingerprint⟩
  | sent index inside reserved =>
    exact ⟨_, _, tracked.send few inside (by rw [reserved]; rfl) rfl rfl rfl fun _ _ => ⟨nofun, nofun⟩⟩
  | acknowledged index inside sent => exact ⟨_, _, tracked.release inside sent⟩
  | replayed index inside sent oldest =>
    exact ⟨_, _, tracked.send few inside (by rw [sent]; rfl) sent rfl rfl fun _ _ => ⟨nofun, nofun⟩⟩

theorem length_perform (transmission : Transmission) (call : WindowCall) :
    (transmission.perform call).events.length = transmission.events.length + 1 := by
  rw [Transmission.perform, List.length_append, List.length_singleton]

theorem events_foldl (calls : List WindowCall) (transmission : Transmission) :
    transmission.events <+: (calls.foldl Transmission.perform transmission).events ∧
      (calls.foldl Transmission.perform transmission).events.length = transmission.events.length + calls.length := by
  induction calls generalizing transmission with
  | nil => exact ⟨List.prefix_refl _, rfl⟩
  | cons call rest ih =>
    obtain ⟨grows, length⟩ := ih (transmission.perform call)
    have event : transmission.events <+: (transmission.perform call).events := List.prefix_append _ _
    refine ⟨event.trans grows, length.trans ?_⟩
    rw [length_perform, List.length_cons]
    omega

theorem Tracked.run (tracked : Tracked transmission reserves sends) (calls : List WindowCall)
    (few : transmission.events.length + calls.length < 2 ^ 64) :
    ∃ reserves sends, Tracked (calls.foldl Transmission.perform transmission) reserves sends := by
  induction calls generalizing transmission reserves sends with
  | nil => exact ⟨_, _, tracked⟩
  | cons call rest ih =>
    rw [List.length_cons] at few
    obtain ⟨_, _, next⟩ := tracked.perform (by omega) call
    apply ih next
    rw [length_perform]
    omega

section Replays

/-- Since one slot was replayed, at this epoch, another has not been sent or replayed. -/
structure Since (slot other epoch : Nat) (window : TransmissionWindow) : Prop where
  reached : epoch ≤ window.sendEpoch.toNat
  mine : (window.slots slot).state = .sent → epoch ≤ (window.slots slot).lastSendEpoch.toNat
  theirs : (window.slots other).lastSendEpoch.toNat < epoch

variable {slot other epoch : Nat}

/-- What a send of a slot other than this one does to the two. -/
theorem Since.send (since : Since slot other epoch window) (few : window.sendEpoch.toNat + 1 < 2 ^ 64)
    (different : other ≠ index) (left : TransmissionSlot) : Since slot other epoch (window.send index left) := by
  have newEpoch := toNat_nextCount few
  have reached := since.reached
  unfold TransmissionWindow.send
  constructor
  · dsimp only
    omega
  · dsimp only
    by_cases here : slot = index
    · subst here
      rw [update_self, newEpoch]
      intro _
      omega
    · rw [update_of_ne here]
      exact since.mine
  · dsimp only
    rw [update_of_ne different]
    exact since.theirs

/-- A call that leaves the other slot sent replays it, or all is as before. -/
theorem Since.perform (since : Since slot other epoch window) (tracked : Tracked ⟨window, events⟩ reserves sends)
    (few : events.length + 1 < 2 ^ 64) (call : WindowCall) (sentBefore : (window.slots other).state = .sent)
    (sentAfter : ((window.respond call).1.slots other).state = .sent) :
    Since slot other epoch (window.respond call).1 ∨
      ∃ generation, (window.respond call).2 = .replayed other generation := by
  have responds := window.respond_responds call
  have room : window.sendEpoch.toNat + 1 < 2 ^ 64 := by
    have calls := tracked.calls
    have epoch := tracked.epoch
    dsimp only at calls epoch
    omega
  generalize window.respond call = response at responds sentAfter ⊢
  cases responds with
  | refused status => exact .inl since
  | reserved index identity payloadFingerprint inside reusable =>
    have apart : other ≠ index := by
      rintro rfl
      rw [sentBefore] at reusable
      cases reusable
    refine .inl ⟨since.reached, ?_, ?_⟩
    · unfold TransmissionWindow.reserve
      dsimp only
      by_cases here : slot = index
      · subst here
        rw [update_self]
        intro isSent
        cases isSent
      · rw [update_of_ne here]
        exact since.mine
    · unfold TransmissionWindow.reserve
      dsimp only
      rw [update_of_ne apart]
      exact since.theirs
  | sent index inside reserved =>
    refine .inl (since.send room ?_ _)
    rintro rfl
    rw [sentBefore] at reserved
    cases reserved
  | acknowledged index inside sent =>
    refine .inl ⟨since.reached, ?_, ?_⟩
    · unfold TransmissionWindow.release
      dsimp only
      by_cases here : slot = index
      · subst here
        rw [update_self]
        intro isSent
        cases isSent
      · rw [update_of_ne here]
        exact since.mine
    · unfold TransmissionWindow.release at sentAfter ⊢
      dsimp only at sentAfter ⊢
      by_cases here : other = index
      · subst here
        rw [update_self] at sentAfter
        cases sentAfter
      · rw [update_of_ne here]
        exact since.theirs
  | replayed index inside sent oldest =>
    by_cases here : other = index
    · subst here
      have indexed := tracked.indexed other inside
      dsimp only at indexed
      exact Or.inr ⟨(window.slots other).slotGeneration, by rw [indexed]⟩
    · exact .inl (since.send room here _)

/-- The same for a run of calls. -/
theorem Since.run (since : Since slot other epoch transmission.window) (tracked : Tracked transmission reserves sends)
    (calls : List WindowCall) (few : transmission.events.length + calls.length < 2 ^ 64)
    (throughout : ∀ taken, taken <+: calls →
      ((taken.foldl Transmission.perform transmission).window.slots other).state = .sent) :
    Since slot other epoch (calls.foldl Transmission.perform transmission).window ∨
      ∃ generation, .replayed other generation ∈
        (calls.foldl Transmission.perform transmission).events.drop transmission.events.length := by
  induction calls generalizing transmission reserves sends with
  | nil => exact .inl since
  | cons call rest ih =>
    rw [List.length_cons] at few
    have stays := throughout [call] (by simp)
    obtain ⟨_, _, next⟩ := tracked.perform (by omega) call
    have grows := (events_foldl rest (transmission.perform call)).1
    rcases since.perform tracked (by omega) call (throughout [] (List.nil_prefix)) stays with still | ⟨generation, event⟩
    · have rest' := ih still next (by rw [length_perform]; omega)
        fun taken isPrefix => throughout (call :: taken) ((List.prefix_cons_inj call).mpr isPrefix)
      refine rest'.imp_right ?_
      rintro ⟨generation, member⟩
      refine ⟨generation, ?_⟩
      rw [length_perform] at member
      exact (List.drop_sublist_drop_left _ (Nat.le_add_right _ _)).mem member
    · refine .inr ⟨generation, ?_⟩
      obtain ⟨more, same⟩ := grows
      rw [List.foldl_cons, ← same]
      unfold Transmission.perform
      rw [List.append_assoc, List.drop_left, ← event]
      exact List.mem_append_left _ (List.mem_singleton.mpr rfl)

end Replays

section

variable (tracked : Tracked transmission reserves sends)
include tracked

/-- The use count is right, so a reservation finds a slot unless every slot is in use. -/
theorem Tracked.finds (identity : Identity) (payloadFingerprint : UInt64) :
    (transmission.window.respond (.reserve identity payloadFingerprint)).2 ≠ .refused .internalError ∧
      ((transmission.window.respond (.reserve identity payloadFingerprint)).2 = .refused .busy →
        ∀ index < transmission.window.capacity, (transmission.window.slots index).state.isInUse = true) := by
  have counted := tracked.counted
  unfold TransmissionWindow.respond TransmissionWindow.reserveTransmissionSlot
  dsimp only
  split_ifs with invalid full
  · exact ⟨nofun, nofun⟩
  · refine ⟨nofun, fun _ index inside => ?_⟩
    by_contra idle
    have fewer : tally transmission.window.capacity (fun index => (transmission.window.slots index).state.isInUse) <
        transmission.window.capacity := by
      have gained : tally transmission.window.capacity
            (fun other => (transmission.window.slots other).state.isInUse || other == index) =
          tally transmission.window.capacity (fun other => (transmission.window.slots other).state.isInUse) + 1 := by
        apply tally_gain inside
        · exact Bool.eq_false_iff.mpr idle
        · simp
        · intro other _ different
          simp [different]
      have := tally_le transmission.window.capacity fun other =>
        (transmission.window.slots other).state.isInUse || other == index
      omega
    omega
  · cases found : transmission.window.reusableSlot with
    | some index => exact ⟨nofun, nofun⟩
    | none =>
      refine absurd ?_ full
      have inUse : ∀ index < transmission.window.capacity, (transmission.window.slots index).state.isInUse = true := by
        intro index inside
        have taken := List.find?_eq_none.mp found index (List.mem_range.mpr inside)
        revert taken
        cases (transmission.window.slots index).state <;> decide
      rw [counted, tally_eq_count inUse]

/-- A slot's generation rises, so an earlier one is not acknowledged. -/
theorem Tracked.stale {earlier later : List WindowEvent} {index other : Nat}
    {generation old : UInt64} (parts : transmission.events = earlier ++ .reserved index generation :: later)
    (issued : .reserved other old ∈ earlier) (identity : Identity) (payloadFingerprint : UInt64) :
    (transmission.window.respond (.acknowledge index old identity payloadFingerprint)).1 = transmission.window := by
  have rising := tracked.rising
  rw [parts] at rising
  have less := (List.pairwise_append.mp rising).2.2 _ issued _ (.head _) other old index generation rfl rfl
  have current := tracked.given index generation (by
    rw [parts]
    exact List.mem_append_right _ (.head _))
  have different : (transmission.window.slots index).slotGeneration ≠ old := by
    rintro rfl
    omega
  unfold TransmissionWindow.respond TransmissionWindow.acknowledgeTransmission
  dsimp only
  rw [if_pos (Or.inl different)]
  split_ifs <;> rfl

/-- Between two replays of a slot, another that is sent all the time is replayed. -/
theorem Tracked.fair {first last : WindowCall} {between : List WindowCall}
    (few : transmission.events.length + (between.length + 2) < 2 ^ 64) {slot other : Nat} {generation again : UInt64}
    (replays : (transmission.window.respond first).2 = .replayed slot generation)
    (replaysAgain : ((between.foldl Transmission.perform (transmission.perform first)).window.respond last).2 =
      .replayed slot again)
    (different : other ≠ slot)
    (throughout : ∀ taken, taken <+: between →
      ((taken.foldl Transmission.perform (transmission.perform first)).window.slots other).state = .sent) :
    ∃ generation, .replayed other generation ∈
      (between.foldl Transmission.perform (transmission.perform first)).events.drop (transmission.events.length + 1) := by
  have calls := tracked.calls
  have epoch := tracked.epoch
  have since : Since slot other (sends + 1) (transmission.perform first).window := by
    have responds := transmission.window.respond_responds first
    unfold Transmission.perform
    dsimp only
    generalize transmission.window.respond first = response at responds replays ⊢
    cases responds with
    | replayed index inside sent oldest =>
      injection replays with named
      rw [tracked.indexed index inside] at named
      subst named
      have newEpoch : (nextCount transmission.window.sendEpoch).toNat = sends + 1 := by
        rw [toNat_nextCount (by omega), epoch]
      unfold TransmissionWindow.send
      constructor
      · exact newEpoch.ge
      · dsimp only
        rw [update_self, newEpoch]
        exact fun _ => Nat.le_refl _
      · dsimp only
        rw [update_of_ne different]
        exact Nat.lt_succ_of_le (tracked.epochs other)
    | _ => cases replays
  obtain ⟨_, _, next⟩ := tracked.perform (by omega) first
  rw [← length_perform transmission first]
  have length := length_perform transmission first
  rcases since.run next between (by omega) throughout with still | replayed
  · obtain ⟨_, _, ended⟩ := next.run between (by omega)
    have sentLast := throughout between (List.prefix_refl _)
    have responds := (between.foldl Transmission.perform (transmission.perform first)).window.respond_responds last
    generalize between.foldl Transmission.perform (transmission.perform first) = final at *
    generalize final.window.respond last = response at responds replaysAgain
    cases responds with
    | replayed index inside sent oldest =>
      injection replaysAgain with named
      rw [ended.indexed index inside] at named
      subst named
      have inRange : other < final.window.capacity := by
        by_contra beyond
        rw [ended.outside other (Nat.le_of_not_lt beyond)] at sentLast
        cases sentLast
      have least := oldest other inRange sentLast
      have mine := still.mine sent
      have theirs := still.theirs
      omega
    | _ => cases replaysAgain
  · exact replayed

end

/-- The transmission window after a run: the use count is right, a reservation fails only where every slot is in use,
a generation from before a slot's reservation acknowledges nothing, no reservation is acknowledged twice, and replays
pass no slot over that is sent all the time. -/
theorem window_run {capacity : Nat} {window : TransmissionWindow}
    (accepted : initializeTransmissionWindow capacity = .ok window)
    (calls : List WindowCall) (few : calls.length < 2 ^ 64) :
    let after := fun calls : List WindowCall => calls.foldl Transmission.perform { window := window }
    ((after calls).window.inUseCount = tally (after calls).window.capacity fun index =>
        ((after calls).window.slots index).state.isInUse) ∧
    (∀ identity payloadFingerprint,
      ((after calls).window.respond (.reserve identity payloadFingerprint)).2 ≠ .refused .internalError ∧
      (((after calls).window.respond (.reserve identity payloadFingerprint)).2 = .refused .busy →
        ∀ index < (after calls).window.capacity, ((after calls).window.slots index).state.isInUse = true)) ∧
    (∀ earlier later index generation other old, (after calls).events = earlier ++ .reserved index generation :: later →
      .reserved other old ∈ earlier → ∀ identity payloadFingerprint,
        ((after calls).window.respond (.acknowledge index old identity payloadFingerprint)).1 = (after calls).window) ∧
    (∀ index generation, (after calls).events.count (.acknowledged index generation) ≤ 1) ∧
    ∀ before first between last rest slot generation again, calls = before ++ first :: (between ++ last :: rest) →
      ((after before).window.respond first).2 = .replayed slot generation →
      ((after (before ++ first :: between)).window.respond last).2 = .replayed slot again →
      ∀ other, other ≠ slot →
        (∀ taken, taken <+: between → ((after (before ++ first :: taken)).window.slots other).state = .sent) →
        ∃ generation,
          .replayed other generation ∈ (after (before ++ first :: between)).events.drop (before.length + 1) := by
  have begins := initializeTransmissionWindow_tracked accepted
  dsimp only
  obtain ⟨_, _, tracked⟩ := begins.run calls (by simpa using few)
  refine ⟨tracked.counted, tracked.finds, ?_, tracked.once, ?_⟩
  · intro earlier later index generation other old parts issued
    exact tracked.stale parts issued
  · intro before first between last rest slot generation again parts replays replaysAgain other different throughout
    simp only [List.foldl_append, List.foldl_cons] at replaysAgain throughout ⊢
    have length := congrArg List.length parts
    simp only [List.length_append, List.length_cons] at length
    obtain ⟨_, _, earlier⟩ := begins.run before (by simp only [List.length_nil]; omega)
    have counted := (events_foldl before { window := window }).2
    rw [List.length_nil, Nat.zero_add] at counted
    have fair := earlier.fair (by omega) replays replaysAgain different throughout
    rwa [counted] at fair

/-- The identity of a packet. -/
def packet (transactionId : UInt64) : Identity where
  controlGeneration := 1
  transactionId := transactionId
  dispatchGeneration := 1
  requestGeneration := 1
  stepGeneration := 1
  stepChunkCount := 1
  phase := 2

/-- Two packets are sent and replayed in turn, and the first is acknowledged twice. -/
def twoPackets : List WindowCall :=
  [.reserve (packet 1) 7, .reserve (packet 2) 8, .markSent 0 1, .markSent 1 2, .nextReplay, .nextReplay, .nextReplay,
    .acknowledge 0 1 (packet 1) 7, .acknowledge 0 1 (packet 1) 7]

/-- A window of two slots. -/
def twoSlots : TransmissionWindow where
  capacity := 2
  slots index := { slotIndex := index }

theorem window_run_twoPackets :
    (twoPackets.foldl Transmission.perform { window := twoSlots }).events = [.reserved 0 1, .reserved 1 2, .sent 0 1,
      .sent 1 2, .replayed 0 1, .replayed 1 2, .replayed 0 1, .acknowledged 0 1, .refused .duplicate] ∧
    (twoPackets.foldl Transmission.perform { window := twoSlots }).window.inUseCount =
      tally 2 (fun index =>
        ((twoPackets.foldl Transmission.perform { window := twoSlots }).window.slots index).state.isInUse) ∧
    (twoPackets.foldl Transmission.perform { window := twoSlots }).events.count (.acknowledged 0 1) ≤ 1 := by
  have run := window_run (show initializeTransmissionWindow 2 = .ok twoSlots from rfl) twoPackets (by decide)
  exact ⟨by decide +kernel, run.1, run.2.2.2.1 0 1⟩

end Runs

end Sparkpipe.WorkTransaction
