import Sparkpipe.Cache.Arena.Planning

/-!
# The plans that hold reservations

Along a run the plans that were built and are neither completed nor cancelled are kept beside the arena. As long as
every plan that is cancelled names each of its blocks once, as built plans do, a block that is reserved is named by
one of them.
-/

namespace Sparkpipe.KvCache

/-- The operations that build, complete or cancel a plan. -/
def Call.concernsPlans : Call → Bool
  | .buildPrefetchPlanFromSourceBlocks _ _ | .buildPrefetchPlan _ _ | .buildNextPrefetchPlan _ _ _ => true
  | .markPrefetchPlanResident _ | .cancelPrefetchPlan _ => true
  | _ => false

namespace Arena

variable {layout : Layout} {arena : Arena} {owners : Nat → Nat} {strict : Prop}

namespace Reserving

theorem initial (layout : Layout) (strict : Prop) (owners : Nat → Nat) :
    Reserving layout strict owners (initial layout) where
  settled _ _ := ⟨fun _ _ => ⟨rfl, fun _ => rfl⟩, nofun, fun _ => rfl, nofun, Nat.zero_le _⟩
  leads := nofun
  back := nofun
  counted := (tally_eq_zero fun _ _ => rfl).symm

/-- An operation that has nothing to do with plans leaves the reservations as they are. -/
theorem operate (reserving : Reserving layout strict owners arena) {call : Call} (apart : call.concernsPlans = false) :
    Reserving layout strict owners (arena.operate layout call).2 := by
  refine (tended layout strict owners).operate reserving fun rewrites => ?_
  cases call with
  | acquireBlock => exact reserving.acquireBlock.1
  | recycleBlock index => exact reserving.recycleBlock index
  | adoptSharedBlock windowSlot => exact reserving.adoptSharedBlock windowSlot
  | freeBlock index => exact reserving.freeBlock index
  | reset =>
    simp only [Arena.operate, Arena.reset]
    split
    · exact reserving
    · exact (Reserving.initial layout strict owners).congr rfl rfl rfl
  | buildPrefetchPlanFromSourceBlocks _ _ | buildPrefetchPlan _ _ | buildNextPrefetchPlan _ _ _
  | markPrefetchPlanResident _ | cancelPrefetchPlan _ => cases apart
  | _ => cases rewrites

/-- A plan is cancelled, and then counts no more, or the arena is as it was. -/
theorem cancelPrefetchPlan_cases (reserving : Reserving layout True owners arena) {plan : PrefetchPlan}
    (once : plan.logicalBlocks.Nodup) :
    ((arena.cancelPrefetchPlan layout plan).1 ≠ .ok ∧
      Reserving layout True owners (arena.cancelPrefetchPlan layout plan).2) ∨
      ∀ fewer : Nat → Nat, (∀ b, owners b ≤ fewer b + plan.logicalBlocks.count b) →
        Reserving layout True fewer (arena.cancelPrefetchPlan layout plan).2 := by
  by_cases settled : (arena.cancelPrefetchPlan layout plan).1 = .ok
  · exact .inr fun fewer agree => reserving.cancelPrefetchPlan once settled agree
  refine .inl ⟨settled, ?_⟩
  revert settled
  rw [Arena.cancelPrefetchPlan, onPlan]
  split
  · exact fun _ => reserving
  split
  · exact fun _ => reserving
  split
  · exact fun _ => reserving
  · rename_i checked
    intro failed
    have all := cancelBlocks plan.logicalBlocks once (reserving.weaken fun b => Nat.le_add_right ..)
      (Placed.validatePlanBlocks_ok (not_not.mp checked))
    exact absurd all.1 failed

/-- A plan is completed, and then counts no more, or the arena is as it was. -/
theorem markPrefetchPlanResident_kept (reserving : Reserving layout strict owners arena) (plan : PrefetchPlan) :
    Reserving layout strict owners (arena.markPrefetchPlanResident layout plan).2 :=
  onPlan_preserves (P := Reserving layout strict owners) reserving fun _ _ checked =>
    (reserving.completeBlocks plan.logicalBlocks (Placed.validatePlanBlocks_ok checked)).1

end Reserving

namespace Reserving

theorem reserveBlockResidency_loose (reserving : Reserving layout False owners arena) {index : Nat}
    (inRange : index < layout.logicalBlockCount) (allocated : (arena.blocks index).allocated = true)
    (plan : PrefetchPlan) : Reserving layout False owners (arena.reserveBlockResidency layout index plan).2 := by
  by_cases resident : (arena.blocks index).resident = true
  · rw [Arena.reserveBlockResidency, if_pos resident]
    exact reserving
  · obtain ⟨-, outcome⟩ := reserveBlockResidency_cases (.start layout arena) reserving inRange allocated
      (by simpa using resident) List.not_mem_nil plan
    rcases outcome with ⟨-, kept, -⟩ | ⟨-, lent, -⟩
    · exact kept
    · exact lent.reowned (by simp)

/-- Every operation keeps the slots and the reservations in agreement, whatever plans it is given. -/
theorem operate_loose (reserving : Reserving layout False owners arena) (call : Call) :
    Reserving layout False owners (arena.operate layout call).2 := by
  have builds : ∀ sources laneCount,
      Reserving layout False owners (arena.buildPrefetchPlanFromSourceBlocks layout sources laneCount).2.2 := by
    apply buildPrefetchPlanFromSourceBlocks_preserves (P := Reserving layout False owners) _ _ reserving
    · intro now source plan sound allocated reserving
      refine reserving.reserveBlockResidency_loose ?_ allocated plan
      rw [validatePrefetchSourceBlock] at sound
      split at sound
      · cases sound
      · rename_i named
        rw [not_or] at named
        exact Nat.lt_of_not_le named.1
    · intro now plan reserving
      exact reserving.cancelPrefetchPlan_loose plan
  cases call with
  | buildPrefetchPlanFromSourceBlocks sources laneCount => exact builds sources laneCount
  | buildPrefetchPlan indices laneCount => exact buildPrefetchPlan_preserves builds reserving indices laneCount
  | buildNextPrefetchPlan indices laneCount next =>
    exact buildNextPrefetchPlan_preserves builds reserving indices laneCount next
  | markPrefetchPlanResident plan => exact reserving.markPrefetchPlanResident_kept plan
  | cancelPrefetchPlan plan => exact reserving.cancelPrefetchPlan_loose plan
  | _ => exact reserving.operate rfl

end Reserving

/-- What building a plan does to the reservations, whichever operation builds it. -/
def Builds (layout : Layout) (owners : Nat → Nat) (status : SparkStatus) (plan : Option PrefetchPlan)
    (after : Arena) : Prop :=
  (status ≠ .ok ∧ Reserving layout True owners after) ∨
    ∃ built, status = .ok ∧ plan = some built ∧
      Reserving layout True (fun b => owners b + built.logicalBlocks.count b) after

variable (reserving : Reserving layout True owners arena)
include reserving

theorem buildPrefetchPlanFromSourceBlocks_builds
    (addressed : layout.Addressed) (sources : List PrefetchSourceBlock) (laneCount : Nat) :
    let built := arena.buildPrefetchPlanFromSourceBlocks layout sources laneCount
    Builds layout owners built.1 built.2.1 built.2.2 := by
  rcases buildPrefetchPlanFromSourceBlocks_cases reserving addressed sources laneCount with
    ⟨failed, kept, -⟩ | ⟨plan, succeeded, built, -, lent, -⟩
  · exact .inl ⟨failed, kept⟩
  · exact .inr ⟨plan, succeeded, built, lent⟩

theorem buildPrefetchPlan_builds (addressed : layout.Addressed)
    (indices : List Nat) (laneCount : Nat) :
    let built := arena.buildPrefetchPlan layout indices laneCount
    Builds layout owners built.1 built.2.1 built.2.2 := by
  rw [buildPrefetchPlan]
  split
  · exact Or.inl ⟨by simp, reserving⟩
  · exact buildPrefetchPlanFromSourceBlocks_builds reserving addressed _ laneCount

theorem buildNextPrefetchPlan_builds (addressed : layout.Addressed)
    (indices : List Nat) (laneCount next : Nat) :
    let built := arena.buildNextPrefetchPlan layout indices laneCount next
    Builds layout owners built.1 built.2.2.1 built.2.2.2 := by
  rw [buildNextPrefetchPlan]
  split
  · exact Or.inl ⟨by simp, reserving⟩
  · exact buildPrefetchPlan_builds reserving addressed _ laneCount

end Arena

/-- An arena, with the plans that were built and are neither completed nor cancelled. -/
structure Prefetching where
  state : KvArena
  plans : List PrefetchPlan

namespace Prefetching

variable {layout : Layout} {tracked : Prefetching}

/-- The plan that an operation hands out when it succeeds. -/
def handsOut (state : KvArena) : Call → Option PrefetchPlan
  | .buildPrefetchPlanFromSourceBlocks sources laneCount =>
    (state.arena.buildPrefetchPlanFromSourceBlocks state.layout sources laneCount).2.1
  | .buildPrefetchPlan indices laneCount => (state.arena.buildPrefetchPlan state.layout indices laneCount).2.1
  | .buildNextPrefetchPlan indices laneCount next =>
    (state.arena.buildNextPrefetchPlan state.layout indices laneCount next).2.2.1
  | _ => none

/-- The plans that are held after an operation that succeeded. -/
def holds (tracked : Prefetching) : Call → List PrefetchPlan
  | .markPrefetchPlanResident plan | .cancelPrefetchPlan plan => tracked.plans.erase plan
  | call => (handsOut tracked.state call).toList ++ tracked.plans

/-- One operation. -/
def step (tracked : Prefetching) (call : Call) : Prefetching where
  state := tracked.state.step call
  plans := if (tracked.state.perform call).1 = .ok then tracked.holds call else tracked.plans

/-- The arena as it is initialised, when nobody holds a plan. -/
def start (layout : Layout) : Prefetching := ⟨KvArena.initialized layout, []⟩

/-- A sequence of operations. -/
def run (layout : Layout) (calls : List Call) : Prefetching := calls.foldl step (start layout)

/-- How often the plans name a block. -/
def naming (plans : List PrefetchPlan) (b : Nat) : Nat := (plans.flatMap PrefetchPlan.logicalBlocks).count b

theorem naming_cons (plan : PrefetchPlan) (plans : List PrefetchPlan) (b : Nat) :
    naming (plan :: plans) b = naming plans b + plan.logicalBlocks.count b := by
  rw [naming, List.flatMap_cons, List.count_append, Nat.add_comm]
  rfl

theorem naming_erase (plan : PrefetchPlan) (plans : List PrefetchPlan) (b : Nat) :
    naming plans b ≤ naming (plans.erase plan) b + plan.logicalBlocks.count b := by
  by_cases held : plan ∈ plans
  · have same : naming plans b = naming (plan :: plans.erase plan) b :=
      ((List.perm_cons_erase held).flatMap_right PrefetchPlan.logicalBlocks).count_eq b
    rw [same, naming_cons]
  · rw [List.erase_of_not_mem held]
    exact Nat.le_add_right ..

/-- An operation that has nothing to do with plans hands none out and takes none back. -/
theorem step_plans {call : Call} (apart : call.concernsPlans = false) :
    (tracked.step call).plans = tracked.plans := by
  have same : tracked.holds call = tracked.plans := by
    cases call with
    | buildPrefetchPlanFromSourceBlocks sources laneCount => cases apart
    | buildPrefetchPlan indices laneCount => cases apart
    | buildNextPrefetchPlan indices laneCount next => cases apart
    | markPrefetchPlanResident plan => cases apart
    | cancelPrefetchPlan plan => cases apart
    | _ => rfl
  rw [step]
  dsimp only
  rw [same, ite_self]

/-- A call only ever moves the shared window in a layout. -/
theorem relayout_window (state : KvArena) (call : Call) : ∃ base count,
    state.relayout call = { state.layout with
      sharedPageBase := base
      sharedPageCount := count } := by
  cases call with
  | setSharedWindow base count =>
    simp only [KvArena.relayout, Arena.setSharedWindow]
    split
    · exact ⟨_, _, rfl⟩
    · split
      · exact ⟨_, _, rfl⟩
      · split
        · exact ⟨_, _, rfl⟩
        · exact ⟨base, count, rfl⟩
  | _ => exact ⟨_, _, rfl⟩

/-- What a run keeps: the reserved blocks are those of plans that are held. -/
structure Owned (tracked : Prefetching) : Prop where
  addressed : tracked.state.layout.Addressed
  reserving : Arena.Reserving tracked.state.layout True (naming tracked.plans) tracked.state.arena

/-- A plan that is cancelled names each of its blocks once. -/
def CancelsOnce : Call → Prop
  | .cancelPrefetchPlan plan => plan.logicalBlocks.Nodup
  | _ => True

/-- The arena and the plans that an operation leaves agree. -/
theorem Owned.reserves (owned : Owned tracked) {call : Call} (once : CancelsOnce call) :
    Arena.Reserving tracked.state.layout True (naming (tracked.step call).plans)
      (tracked.state.arena.operate tracked.state.layout call).2 := by
  have reserving := owned.reserving
  have builds : ∀ {status plan after}, Arena.Builds tracked.state.layout (naming tracked.plans) status plan after →
      Arena.Reserving tracked.state.layout True
        (naming (if status = .ok then plan.toList ++ tracked.plans else tracked.plans)) after := by
    rintro status plan after (⟨failed, kept⟩ | ⟨built, succeeded, handed, lent⟩)
    · rw [if_neg failed]
      exact kept
    · rw [if_pos succeeded, handed]
      exact lent.weaken fun b => le_of_eq (naming_cons built tracked.plans b).symm
  cases call with
  | buildPrefetchPlanFromSourceBlocks sources laneCount =>
    exact builds (Arena.buildPrefetchPlanFromSourceBlocks_builds reserving owned.addressed sources laneCount)
  | buildPrefetchPlan indices laneCount =>
    exact builds (Arena.buildPrefetchPlan_builds reserving owned.addressed indices laneCount)
  | buildNextPrefetchPlan indices laneCount next =>
    exact builds (Arena.buildNextPrefetchPlan_builds reserving owned.addressed indices laneCount next)
  | markPrefetchPlanResident plan =>
    by_cases settled : (tracked.state.arena.markPrefetchPlanResident tracked.state.layout plan).1 = .ok
    · have left : (tracked.step (.markPrefetchPlanResident plan)).plans = tracked.plans.erase plan :=
        if_pos settled
      rw [left]
      refine reserving.markPrefetchPlanResident settled fun b unlisted => ?_
      have fewer := naming_erase plan tracked.plans b
      rwa [List.count_eq_zero.mpr unlisted, Nat.add_zero] at fewer
    · have left : (tracked.step (.markPrefetchPlanResident plan)).plans = tracked.plans := if_neg settled
      rw [left]
      exact reserving.markPrefetchPlanResident_kept plan
  | cancelPrefetchPlan plan =>
    rcases reserving.cancelPrefetchPlan_cases once with ⟨failed, kept⟩ | cancelled
    · have left : (tracked.step (.cancelPrefetchPlan plan)).plans = tracked.plans := if_neg failed
      rw [left]
      exact kept
    · apply cancelled
      intro b
      by_cases settled : (tracked.state.perform (.cancelPrefetchPlan plan)).1 = .ok
      · have left : (tracked.step (.cancelPrefetchPlan plan)).plans = tracked.plans.erase plan := if_pos settled
        rw [left]
        exact naming_erase plan tracked.plans b
      · have left : (tracked.step (.cancelPrefetchPlan plan)).plans = tracked.plans := if_neg settled
        rw [left]
        exact Nat.le_add_right ..
  | _ =>
    rw [step_plans rfl]
    exact reserving.operate rfl

theorem Owned.step (owned : Owned tracked) {call : Call} (once : CancelsOnce call) : Owned (tracked.step call) := by
  obtain ⟨base, count, window⟩ := relayout_window tracked.state call
  have moved : (tracked.step call).state.layout = { tracked.state.layout with
      sharedPageBase := base
      sharedPageCount := count } := window
  have reserves := owned.reserves once
  constructor
  · rw [moved]
    exact owned.addressed
  · rw [moved]
    exact ⟨reserves.settled, reserves.leads, reserves.back, reserves.counted⟩

theorem Owned.run (addressed : layout.Addressed) {calls : List Call} (once : ∀ call ∈ calls, CancelsOnce call) :
    Owned (run layout calls) := by
  have start : Owned (Prefetching.start layout) := ⟨addressed, Arena.Reserving.initial ..⟩
  have along : Along Prefetching.step (fun _ call => CancelsOnce call) calls (Prefetching.start layout) := by
    generalize Prefetching.start layout = tracked
    induction calls generalizing tracked with
    | nil => trivial
    | cons call rest ih =>
      exact ⟨once call (.head _), ih (fun later listed => once later (.tail _ listed)) _⟩
  exact along.foldl (P := Owned) (fun _ _ owned once => owned.step once) start

/-- A plan that is not built leaves the reservations, the references and the slots that are not evicted as they were,
and so does the cancellation of one that is. -/
def Atomic (layout : Layout) (arena : Arena) (built : SparkStatus × Option PrefetchPlan × Arena) : Prop :=
  (built.1 ≠ .ok → Arena.Restored layout arena built.2.2) ∧
    (built.1 = .ok → ∃ plan, built.2.1 = some plan ∧ plan.logicalBlocks.Nodup ∧
      (built.2.2.cancelPrefetchPlan layout plan).1 = .ok ∧
      Arena.Restored layout arena (built.2.2.cancelPrefetchPlan layout plan).2)

theorem Owned.atomic (owned : Owned tracked) (sources : List PrefetchSourceBlock) (laneCount : Nat) :
    Atomic tracked.state.layout tracked.state.arena
      (tracked.state.arena.buildPrefetchPlanFromSourceBlocks tracked.state.layout sources laneCount) := by
  rcases Arena.buildPrefetchPlanFromSourceBlocks_cases owned.reserving owned.addressed sources laneCount with
    ⟨failed, -, restored⟩ | ⟨plan, succeeded, built, once, -, cancelled, restored⟩
  · exact ⟨fun _ => restored, fun succeeded => absurd succeeded failed⟩
  · exact ⟨fun failed => absurd succeeded failed, fun _ => ⟨plan, built, once, cancelled, restored⟩⟩

/-- In every state of a run whose cancelled plans name their blocks once, over an arena whose pages have addresses:
building a plan from any source blocks, or from any logical blocks, either leaves the arena as it was but for
evictions, or can be undone by the cancellation of the plan, which succeeds; and every block that is reserved is
named by a plan that was built and is neither completed nor cancelled. -/
theorem prefetchPlans_atomic (layout : Layout) (addressed : layout.Addressed) (calls : List Call)
    (once : ∀ call ∈ calls, CancelsOnce call) :
    let reached := run layout calls
    let arena := reached.state.arena
    (∀ sources laneCount, Atomic reached.state.layout arena
        (arena.buildPrefetchPlanFromSourceBlocks reached.state.layout sources laneCount)) ∧
      (∀ indices laneCount, Atomic reached.state.layout arena
        (arena.buildPrefetchPlan reached.state.layout indices laneCount)) ∧
      ∀ b < reached.state.layout.logicalBlockCount, (arena.blocks b).residencyReserved = true →
        ∃ plan ∈ reached.plans, b ∈ plan.logicalBlocks := by
  have owned := Owned.run addressed once
  refine ⟨owned.atomic, ?_, ?_⟩
  · intro indices laneCount
    rw [Arena.buildPrefetchPlan]
    split
    · have unchanged := (Arena.Borrowing.start (run layout calls).state.layout
        (run layout calls).state.arena).restored owned.reserving owned.reserving
      exact ⟨fun _ => unchanged, fun succeeded => absurd succeeded (by simp)⟩
    · exact owned.atomic _ laneCount
  · intro b inRange reserved
    obtain ⟨-, -, referenced, named⟩ := (owned.reserving.settled b inRange).reserving reserved
    have listed : b ∈ (run layout calls).plans.flatMap PrefetchPlan.logicalBlocks := by
      rw [← List.count_pos_iff]
      exact lt_of_lt_of_le (Nat.pos_of_ne_zero referenced) (named trivial)
    exact List.mem_flatMap.mp listed

/-- The one page of an arena is reserved by a plan that is held. -/
theorem prefetchPlans_atomic_onePage :
    KvArena.onePage.Addressed ∧
      ((run KvArena.onePage [.acquireBlock, .buildPrefetchPlan [0] 1]).state.arena.blocks 0).residencyReserved = true ∧
      ∃ plan ∈ (run KvArena.onePage [.acquireBlock, .buildPrefetchPlan [0] 1]).plans, 0 ∈ plan.logicalBlocks := by
  have addressed : KvArena.onePage.Addressed := by
    intro slot inCapacity
    rw [Nat.lt_one_iff.mp inCapacity]
    decide
  exact ⟨addressed, by decide, (prefetchPlans_atomic _ addressed [.acquireBlock, .buildPrefetchPlan [0] 1]
    (by simp [CancelsOnce])).2.2 0 (by decide) (by decide)⟩

/-- A plan whose owner names the block of the only page three times. -/
def threefold : PrefetchPlan :=
  let entry : PrefetchBlock :=
    { laneIndex := 0
      logicalBlockIndex := 0
      residentSlotIndex := some 0
      tokenCapacity := 1
      firstTokenIndex := 0
      tokenCount := 0
      flags := prefetchBlockFlagKey
      generation := 1
      parentHash := 0
      blockHash := 0
      contentHash := 0
      keyDeviceAddress := 1
      valueDeviceAddress := 0 }
  { laneCount := 1
    requestedLogicalBlockCount := 3
    blocks := [entry, entry, entry] }

/-- Two pages, the second of which lies where the addresses begin anew. -/
def wrapping : Layout := { KvArena.onePage with
  residentBlockCapacity := 2
  keyDeviceBase := 2 ^ 64 - 1 }

/-- The cancellation of a plan that names a block three times takes two references more than there are, and what
is then built and cancelled leaves the block reserved. Apart from that, a page at address zero counts as none: its
plan is built and cannot be cancelled. -/
theorem prefetchPlans_not_atomic :
    (KvArena.onePage.Addressed ∧
      let calls : List Call := [.acquireBlock, .buildPrefetchPlan [0] 1, .cancelPrefetchPlan threefold]
      let arena := ((KvArena.initialized KvArena.onePage).run calls).arena
      (KvArena.initialized KvArena.onePage).statuses calls = [.ok, .ok, .ok] ∧
        ¬ Atomic KvArena.onePage arena (arena.buildPrefetchPlan KvArena.onePage [0] 1)) ∧
      let calls : List Call := [.acquireBlock, .acquireBlock]
      let arena := ((KvArena.initialized wrapping).run calls).arena
      ¬ Atomic wrapping arena (arena.buildPrefetchPlan wrapping [0, 1] 1) := by
  refine ⟨⟨?_, by decide, ?_⟩, ?_⟩
  · intro slot inCapacity
    rw [Nat.lt_one_iff.mp inCapacity]
    decide
  · rintro ⟨-, undone⟩
    obtain ⟨plan, built, -, -, restored⟩ := undone (by decide)
    cases built
    exact absurd restored.reservedBlockCount (by decide)
  · intro calls arena atomic
    obtain ⟨-, undone⟩ := atomic
    have refused : (arena.buildPrefetchPlan wrapping [0, 1] 1).2.1.map (fun plan =>
        ((arena.buildPrefetchPlan wrapping [0, 1] 1).2.2.cancelPrefetchPlan wrapping plan).1) =
        some .invalidArgument := by decide +kernel
    obtain ⟨plan, built, -, cancelled, -⟩ := undone (by decide +kernel)
    rw [built, Option.map_some, cancelled] at refused
    cases refused

end Prefetching

end Sparkpipe.KvCache
