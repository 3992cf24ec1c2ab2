import Sparkpipe.Cache.Arena.Calls
import Sparkpipe.Cache.Arena.Rules
import Sparkpipe.Lib.Along

/-!
# Dirty pages and their backing

A block that was marked dirty holds a page that exists nowhere else until the
eviction callback reports that it is backed up. The arena lets go of such a page
only after such a report, or with the block's generation, with one exception:
completing a prefetch plan clears the dirty flag of every block it names, also of
one that another plan brought in and that was written since.
-/

namespace Sparkpipe.KvCache

open Function

/-- The block's page was written and is not known to be backed up. -/
structure Block.Unsaved (block : Block) : Prop where
  allocated : block.allocated = true
  resident : block.resident = true
  dirty : block.dirty = true

namespace Arena

variable {layout : Layout} {before arena after : Arena} {index b : Nat} {block : Block}

/-- How often the eviction callback has reported that the block's page is backed up. -/
def backups (arena : Arena) (b : Nat) : Nat := arena.evictions.count (b, .ok)

/-- A change that keeps an unsaved page of block `b` unless the callback reports it backed up. -/
structure Spares (b : Nat) (before after : Arena) : Prop where
  counted : before.backups b ≤ after.backups b
  allocated : (after.blocks b).allocated = (before.blocks b).allocated
  generation : (after.blocks b).generation = (before.blocks b).generation
  kept : (before.blocks b).Unsaved → after.backups b = before.backups b → (after.blocks b).Unsaved

theorem Spares.refl (b : Nat) (arena : Arena) : Spares b arena arena :=
  ⟨le_refl _, rfl, rfl, fun unsaved _ => unsaved⟩

theorem Spares.trans (first : Spares b before arena) (second : Spares b arena after) :
    Spares b before after := by
  refine ⟨le_trans first.counted second.counted, second.allocated.trans first.allocated,
    second.generation.trans first.generation, ?_⟩
  intro unsaved silent
  have one := first.counted
  have two := second.counted
  exact second.kept (first.kept unsaved (by omega)) (by omega)

/-- Nothing is written but one block, which stays unsaved when it was. -/
theorem Spares.write (blocks : after.blocks = update before.blocks index block)
    (log : after.evictions = before.evictions)
    (allocated : block.allocated = (before.blocks index).allocated)
    (generation : block.generation = (before.blocks index).generation)
    (kept : index = b → (before.blocks b).Unsaved → block.Unsaved) : Spares b before after := by
  refine ⟨le_of_eq (congrArg (List.count (b, SparkStatus.ok)) log.symm), ?_, ?_,
    fun unsaved _ => ?_⟩
  · rw [blocks]
    by_cases here : b = index
    · rw [here, update_self, allocated]
    · rw [update_of_ne here]
  · rw [blocks]
    by_cases here : b = index
    · rw [here, update_self, generation]
    · rw [update_of_ne here]
  · rw [blocks]
    by_cases here : b = index
    · rw [here, update_self]
      exact kept here.symm unsaved
    · rwa [update_of_ne here]

section Slots

theorem releaseResidentSlot_spares (layout : Layout) (arena : Arena) (index b : Nat) :
    Spares b arena (arena.releaseResidentSlot layout index).2 := by
  obtain ⟨log, slot, blocks⟩ := releaseResidentSlot_frame layout arena index
  apply Spares.write blocks log rfl rfl
  rintro rfl unsaved
  exact ⟨unsaved.allocated, unsaved.resident, unsaved.dirty⟩

theorem assignResidentSlot_spares (layout : Layout) (arena : Arena) (index b : Nat) :
    Spares b arena (arena.assignResidentSlot layout index).2 := by
  obtain ⟨log, slot, blocks⟩ := assignResidentSlot_frame layout arena index
  apply Spares.write blocks log rfl rfl
  rintro rfl unsaved
  exact ⟨unsaved.allocated, unsaved.resident, unsaved.dirty⟩

end Slots

section Eviction

/-- A page is let go of only when it is not written. -/
theorem dropResidency_spares (layout : Layout) (arena : Arena) (index : Nat)
    (clean : index = b → ¬ (arena.blocks b).Unsaved) :
    Spares b arena (arena.dropResidency layout index).2 := by
  have released := releaseResidentSlot_spares layout arena index b
  obtain ⟨_, slot, blocks⟩ := releaseResidentSlot_frame layout arena index
  refine andThen_preserves (P := Spares b arena) released fun _ => released.trans ?_
  refine Spares.write rfl rfl rfl rfl ?_
  rintro rfl unsaved
  refine absurd ?_ (clean rfl)
  rw [blocks, update_self] at unsaved
  exact ⟨unsaved.allocated, unsaved.resident, unsaved.dirty⟩

/-- The callback is asked about a block, which is written after its answer. A page that it does not
report as backed up stays unsaved. -/
theorem Spares.asked {status : SparkStatus}
    (blocks : after.blocks = update before.blocks index block)
    (log : after.evictions = (index, status) :: before.evictions)
    (allocated : block.allocated = (before.blocks index).allocated)
    (generation : block.generation = (before.blocks index).generation)
    (kept : status ≠ .ok → (before.blocks index).Unsaved → block.Unsaved) : Spares b before after := by
  have recorded : after.backups b =
      before.backups b + if index = b ∧ status = .ok then 1 else 0 := by
    simp [backups, log, List.count_cons]
  refine ⟨by omega, ?_, ?_, fun unsaved silent => ?_⟩
  · rw [blocks]
    by_cases here : b = index
    · rw [here, update_self, allocated]
    · rw [update_of_ne here]
  · rw [blocks]
    by_cases here : b = index
    · rw [here, update_self, generation]
    · rw [update_of_ne here]
  · rw [blocks]
    by_cases here : b = index
    · subst here
      rw [update_self]
      apply kept _ unsaved
      intro reported
      rw [if_pos ⟨rfl, reported⟩] at recorded
      omega
    · rwa [update_of_ne here]

/-- Eviction asks the callback before it lets go of an unsaved page. -/
theorem evictResidentBlock_spares {evict : Nat → SparkStatus}
    (callback : layout.evictFunction = some evict) (arena : Arena) (index b : Nat) :
    Spares b arena (arena.evictResidentBlock layout index).2 := by
  unfold evictResidentBlock
  simp only [callback]
  split
  · exact Spares.refl b arena
  · split
    · -- every answer is recorded; only `ok` lets the page go
      generalize evict arena.evictCalls = status
      have same : arena.blocks = update arena.blocks index (arena.blocks index) :=
        (update_eq_self index arena.blocks).symm
      split
      · exact Spares.asked rfl rfl rfl rfl fun _ unsaved =>
          ⟨unsaved.allocated, unsaved.resident, unsaved.dirty⟩
      · split
        · exact Spares.asked same rfl rfl rfl fun _ unsaved => unsaved
        · split
          · exact Spares.asked same rfl rfl rfl fun _ unsaved => unsaved
          · rename_i reported
            refine Spares.trans ?_ (dropResidency_spares layout _ index ?_)
            · exact Spares.asked rfl rfl rfl rfl fun failed _ => absurd failed reported
            · rintro rfl unsaved
              have dirty := unsaved.dirty
              simp [setBlock] at dirty
    · rename_i saved
      simp only [not_or, Bool.not_eq_true, Bool.not_eq_false'] at saved
      apply dropResidency_spares
      rintro rfl unsaved
      rw [unsaved.dirty] at saved
      cases saved.1

end Eviction

section Room

variable {evict : Nat → SparkStatus}

/-- The bookkeeping of a stalled park. -/
theorem stalled_spares (now : Arena) (spared : Spares b arena now) :
    Spares b arena { now with
      parkStallCount := now.parkStallCount + 1
      parkDegraded := true } :=
  spared.trans ⟨le_refl _, rfl, rfl, fun unsaved _ => unsaved⟩

section

variable (callback : layout.evictFunction = some evict)
include callback

theorem trimResidentBlocksProtecting_spares (arena : Arena) (guarded : List Nat) (target : Nat) :
    Spares b arena (arena.trimResidentBlocksProtecting layout guarded target).2 :=
  trimResidentBlocksProtecting_preserves (P := Spares b arena)
    (fun now index _ _ _ _ spared => spared.trans (evictResidentBlock_spares callback now index b))
    stalled_spares (Spares.refl b arena) guarded target

theorem makeRoomForResidentBlocks_spares (arena : Arena) (guarded : List Nat) (added : Nat) :
    Spares b arena (arena.makeRoomForResidentBlocks layout guarded added).2 :=
  makeRoomForResidentBlocks_preserves (P := Spares b arena)
    (fun now index _ _ _ _ spared => spared.trans (evictResidentBlock_spares callback now index b))
    stalled_spares (Spares.refl b arena) guarded added

/-- Room is made and a slot assigned for a block that is then written. -/
theorem makeRoom_spares (arena : Arena)
    (guarded : List Nat) {last : Arena → SparkStatus × Arena}
    (written : ∀ now, Spares b now (last now).2) :
    Spares b arena (andThen (arena.makeRoomForResidentBlocks layout guarded 1) fun arena =>
      andThen (arena.assignResidentSlot layout index) last).2 := by
  have roomy := makeRoomForResidentBlocks_spares (b := b) callback arena guarded 1
  refine andThen_preserves (P := Spares b arena) roomy fun _ => ?_
  have assigned := roomy.trans (assignResidentSlot_spares layout _ index b)
  exact andThen_preserves (P := Spares b arena) assigned fun _ => assigned.trans (written _)

end

/-- A write that leaves the block resident and as dirty as it was. -/
theorem Spares.touch (blocks : after.blocks = update before.blocks index block)
    (log : after.evictions = before.evictions)
    (allocated : block.allocated = (before.blocks index).allocated)
    (generation : block.generation = (before.blocks index).generation)
    (resident : (before.blocks index).resident = true → block.resident = true)
    (dirty : (before.blocks index).dirty = true → block.dirty = true) : Spares b before after := by
  apply Spares.write blocks log allocated generation
  rintro rfl unsaved
  exact ⟨allocated.trans unsaved.allocated, resident unsaved.resident, dirty unsaved.dirty⟩

variable (callback : layout.evictFunction = some evict)
include callback

theorem markBlockResident_spares (arena : Arena)
    (index : Nat) : Spares b arena (arena.markBlockResident layout index).2 := by
  have noted : ∀ now : Arena, ∀ count : Nat,
      Spares b now ({ now with residentBlockCount := count }.noteResident index) :=
    fun now count => Spares.touch rfl rfl rfl rfl (fun _ => rfl) id
  refine onBlock_preserves (P := Spares b arena) (Spares.refl b arena) fun _ _ => ?_
  split
  · exact Spares.refl b arena
  · split
    · exact Spares.refl b arena
    · split
      · exact noted arena arena.residentBlockCount
      · split
        · exact Spares.refl b arena
        · exact makeRoom_spares callback arena [index] fun now => noted now _

theorem markParkedBlockResident_spares
    (arena : Arena) (index : Nat) : Spares b arena (arena.markParkedBlockResident layout index).2 := by
  refine onBlock_preserves (P := Spares b arena) (Spares.refl b arena) fun _ _ => ?_
  split
  · exact Spares.refl b arena
  · split
    · exact Spares.refl b arena
    · split
      · exact Spares.touch rfl rfl rfl rfl id id
      · exact makeRoom_spares callback arena [index] fun now =>
          Spares.touch rfl rfl rfl rfl (fun _ => rfl) id

theorem markBlockNonResident_spares
    (arena : Arena) (index : Nat) : Spares b arena (arena.markBlockNonResident layout index).2 := by
  refine onBlock_preserves (P := Spares b arena) (Spares.refl b arena) fun _ _ => ?_
  split
  · exact Spares.refl b arena
  · split
    · exact Spares.refl b arena
    · split
      · exact Spares.refl b arena
      · split
        · exact evictResidentBlock_spares callback arena index b
        · exact Spares.touch rfl rfl rfl rfl id id

end Room

section Plans

variable {evict : Nat → SparkStatus}

theorem reserveBlockResidency_spares (callback : layout.evictFunction = some evict) (arena : Arena)
    (index : Nat) (plan : PrefetchPlan) :
    Spares b arena (arena.reserveBlockResidency layout index plan).2 := by
  have referenced : ∀ now : Arena, Spares b now (now.addResidencyReference index) :=
    fun now => Spares.touch rfl rfl rfl rfl id id
  rw [reserveBlockResidency]
  split
  · exact Spares.refl b arena
  · split
    · exact Spares.refl b arena
    · split
      · exact referenced arena
      · have reserved : Spares b arena (arena.reserveSlot layout index plan).2 :=
          makeRoom_spares callback arena plan.logicalBlocks fun now =>
            Spares.touch rfl rfl rfl rfl id id
        exact andThen_preserves (P := Spares b arena) reserved fun _ =>
          reserved.trans (referenced _)

/-- Cancelling changes the slot, the reservation and the references of a block, and nothing else. -/
theorem cancelBlock_spares (layout : Layout) (index : Nat) (arena : Arena) :
    Spares b arena (cancelBlock layout index arena).2 := by
  have taken : ∀ references, Spares b arena (arena.setBlock index
      { arena.blocks index with residencyReferenceCount := references }) :=
    fun references => Spares.touch rfl rfl rfl rfl id id
  rw [cancelBlock]
  dsimp only
  split
  · apply (taken _).trans
    rw [releaseReservation]
    split
    · exact Spares.refl b _
    · refine Spares.trans ?_ (releaseResidentSlot_spares layout _ index b)
      exact Spares.touch rfl rfl rfl rfl id id
  · exact taken _

theorem cancelPrefetchPlan_spares (layout : Layout) (arena : Arena) (plan : PrefetchPlan) :
    Spares b arena (arena.cancelPrefetchPlan layout plan).2 :=
  onPlan_preserves (P := Spares b arena) (Spares.refl b arena) fun _ _ _ =>
    forEach_preserves (P := Spares b arena)
      (fun index _ now spared => spared.trans (cancelBlock_spares layout index now))
      (Spares.refl b arena)

/-- Completing writes the block of its entry only. -/
theorem completeBlock_spares (apart : index ≠ b) (arena : Arena) :
    Spares b arena (completeBlock index arena).2 := by
  rw [completeBlock]
  dsimp only
  split
  · exact Spares.write rfl rfl rfl rfl fun same => absurd same apart
  · split
    · exact Spares.refl b arena
    · exact Spares.write rfl rfl rfl rfl fun same => absurd same apart

/-- Completing asks nobody, and neither hands a block out nor ends its generation. -/
theorem completeBlock_frame (index b : Nat) (arena : Arena) :
    (completeBlock index arena).2.evictions = arena.evictions ∧
      ((completeBlock index arena).2.blocks b).allocated = (arena.blocks b).allocated ∧
      ((completeBlock index arena).2.blocks b).generation = (arena.blocks b).generation := by
  have written : ∀ (now : Arena) (block : Block), now.blocks = arena.blocks →
      block.allocated = (arena.blocks index).allocated →
      block.generation = (arena.blocks index).generation →
      ((now.useBlock index block).blocks b).allocated = (arena.blocks b).allocated ∧
        ((now.useBlock index block).blocks b).generation = (arena.blocks b).generation := by
    intro now block same allocated generation
    by_cases here : b = index
    · simp [useBlock, here, allocated, generation]
    · simp [useBlock, update_of_ne here, same]
  rw [completeBlock]
  dsimp only
  split
  · exact ⟨rfl, written _ _ rfl rfl rfl⟩
  · split
    · exact ⟨rfl, rfl, rfl⟩
    · exact ⟨rfl, written _ _ rfl rfl rfl⟩

theorem completeBlocks_frame (indices : List Nat) (b : Nat) (arena : Arena) :
    (forEach completeBlock indices arena).2.evictions = arena.evictions ∧
      ((forEach completeBlock indices arena).2.blocks b).allocated = (arena.blocks b).allocated ∧
      ((forEach completeBlock indices arena).2.blocks b).generation = (arena.blocks b).generation := by
  refine forEach_preserves (P := fun now : Arena => now.evictions = arena.evictions ∧
    (now.blocks b).allocated = (arena.blocks b).allocated ∧
    (now.blocks b).generation = (arena.blocks b).generation) ?_ ⟨rfl, rfl, rfl⟩
  rintro index _ now ⟨log, allocated, generation⟩
  obtain ⟨sameLog, sameAllocated, sameGeneration⟩ := completeBlock_frame index b now
  exact ⟨sameLog.trans log, sameAllocated.trans allocated, sameGeneration.trans generation⟩

end Plans

section Operations

variable {evict : Nat → SparkStatus}

/-- A block is handed out in a generation of its own. -/
def Born (b : Nat) (arena : Arena) : Prop :=
  (arena.blocks b).allocated = true → 0 < (arena.blocks b).generation

/-- What a whole operation keeps of an unsaved page: it may also end the block's generation. -/
structure Keeps (b : Nat) (before after : Arena) : Prop where
  counted : before.backups b ≤ after.backups b
  born : Born b before → Born b after
  kept : Born b before → (before.blocks b).Unsaved → after.backups b = before.backups b →
    (after.blocks b).generation = (before.blocks b).generation → (after.blocks b).Unsaved

theorem Spares.keeps (spared : Spares b before after) : Keeps b before after where
  counted := spared.counted
  born born allocated := by
    rw [spared.generation]
    exact born (spared.allocated.symm.trans allocated)
  kept _ unsaved silent _ := spared.kept unsaved silent

/-- After a change that spares the page, one block starts a generation. -/
theorem Spares.begin (spared : Spares b before arena)
    (blocks : after.blocks = update arena.blocks index block)
    (log : after.evictions = arena.evictions)
    (generation : block.generation = (arena.blocks index).generation + 1) : Keeps b before after := by
  have silent : after.backups b = arena.backups b := congrArg (List.count (b, SparkStatus.ok)) log
  have others : b ≠ index → after.blocks b = arena.blocks b := by
    intro apart
    rw [blocks, update_of_ne apart]
  have here : b = index → (after.blocks b).generation = (before.blocks b).generation + 1 := by
    intro here
    rw [← spared.generation, blocks, here, update_self, generation]
  refine ⟨by rw [silent]; exact spared.counted, ?_, ?_⟩
  · intro born allocated
    by_cases same : b = index
    · rw [here same]
      omega
    · rw [others same] at allocated ⊢
      exact spared.keeps.born born allocated
  · intro _ unsaved quiet generation
    by_cases same : b = index
    · have started := here same
      omega
    · rw [others same]
      exact spared.kept unsaved (silent.symm.trans quiet)

/-- A sequence whose first half spares the page, and whose second starts a generation. -/
theorem andThen_begin {call : SparkStatus × Arena} {rest : Arena → SparkStatus × Arena}
    (spared : Spares b before call.2) (begins : ∀ now, Spares b before now → Keeps b before (rest now).2) :
    Keeps b before (andThen call rest).2 :=
  andThen_preserves (P := Keeps b before) spared.keeps fun _ => begins _ spared

theorem recycleBlock_keeps (layout : Layout) (arena : Arena) (index : Nat) :
    Keeps b arena (arena.recycleBlock layout index).2 := by
  refine onBlock_preserves (P := Keeps b arena) (Spares.refl b arena).keeps fun _ _ => ?_
  split
  · exact (Spares.refl b arena).keeps
  · split
    · exact (Spares.refl b arena).keeps
    · exact (Spares.refl b arena).begin rfl rfl rfl

theorem freeBlock_keeps (layout : Layout) (arena : Arena) (index : Nat) :
    Keeps b arena (arena.freeBlock layout index).2 := by
  refine onBlock_preserves (P := Keeps b arena) (Spares.refl b arena).keeps fun _ _ => ?_
  split
  · exact (Spares.refl b arena).keeps
  · split
    · exact (Spares.refl b arena).keeps
    · split
      · exact (Spares.refl b arena).keeps
      · have released := releaseResidentSlot_spares layout arena index b
        have counted : ∀ {now : Arena} {resident shared : Nat}, Spares b arena now →
            Spares b arena { now with residentBlockCount := resident, sharedBlockCount := shared } :=
          fun spared => spared.trans ⟨le_refl _, rfl, rfl, fun unsaved _ => unsaved⟩
        refine andThen_begin ?_ fun now spared => spared.begin rfl rfl rfl
        split
        · dsimp only
          split
          · exact released
          · exact counted released
        · split
          · refine andThen_preserves (P := Spares b arena) released fun _ => ?_
            split
            · exact released
            · exact counted released
          · exact Spares.refl b arena

theorem acquireBlock_keeps (layout : Layout) (arena : Arena) :
    Keeps b arena (arena.acquireBlock layout).2.2 := by
  rw [acquireBlock]
  split
  · exact (Spares.refl b arena).keeps
  · split
    · exact (Spares.refl b arena).keeps
    · split
      · exact (Spares.refl b arena).keeps
      · split
        · exact (Spares.refl b arena).keeps
        · exact (Spares.refl b arena).begin rfl rfl rfl

theorem Keeps.spares (kept : Keeps b before arena) (spared : Spares b arena after) :
    Keeps b before after where
  counted := le_trans kept.counted spared.counted
  born born := spared.keeps.born (kept.born born)
  kept born unsaved silent generation := by
    have one := kept.counted
    have two := spared.counted
    apply spared.kept (kept.kept born unsaved (by omega) (spared.generation.symm.trans generation))
    omega

theorem adoptSharedBlock_keeps (layout : Layout) (arena : Arena) (windowSlot : Nat) :
    Keeps b arena (arena.adoptSharedBlock layout windowSlot).2.2 := by
  rcases adoptSharedBlock_cases layout arena windowSlot with
    ⟨_, unchanged⟩ | ⟨index, acquired, handed, _, adopted⟩
  · rw [unchanged]
    exact (Spares.refl b arena).keeps
  · have kept := acquireBlock_keeps (b := b) layout arena
    rw [handed] at kept
    rw [adopted]
    exact kept.spares (Spares.touch rfl rfl rfl rfl (fun _ => rfl) id)

/-- A reset takes every block back to the generation it had before it was ever handed out. -/
theorem reset_keeps (layout : Layout) (arena : Arena) : Keeps b arena (arena.reset layout).2 := by
  rw [reset]
  split
  · exact (Spares.refl b arena).keeps
  · refine ⟨le_refl _, fun _ allocated => ?_, fun born unsaved _ generation => ?_⟩
    · simp [startOver, initial, initializeBlock] at allocated
    · have positive := born unsaved.allocated
      rw [← generation] at positive
      simp [startOver, initial, initializeBlock] at positive

/-- What completing a plan checks before it changes anything. -/
def planAccepted (layout : Layout) (arena : Arena) (plan : PrefetchPlan) : Bool :=
  validate layout arena = .ok && validatePrefetchPlan plan = .ok &&
    arena.validatePlanBlocks layout plan.blocks = .ok

/-- A plan that is completed names no block that is resident and dirty. -/
def SparesWritten (layout : Layout) (arena : Arena) : Call → Prop
  | .markPrefetchPlanResident plan => arena.planAccepted layout plan →
      ∀ index ∈ plan.logicalBlocks,
        ¬ ((arena.blocks index).resident = true ∧ (arena.blocks index).dirty = true)
  | _ => True

theorem markPrefetchPlanResident_keeps {plan : PrefetchPlan}
    (spares : SparesWritten layout arena (.markPrefetchPlanResident plan)) :
    Keeps b arena (arena.markPrefetchPlanResident layout plan).2 := by
  refine onPlan_preserves (P := Keeps b arena) (Spares.refl b arena).keeps ?_
  intro valid wellFormed placed
  by_cases unsaved : (arena.blocks b).Unsaved
  · -- the plan does not name the block
    have named := spares (by simp [planAccepted, valid, wellFormed, placed])
    have apart : ∀ index ∈ plan.logicalBlocks, index ≠ b := by
      rintro index listed rfl
      exact named index listed ⟨unsaved.resident, unsaved.dirty⟩
    have spared := forEach_preserves (P := Spares b arena)
      (fun index listed now spared => spared.trans (completeBlock_spares (apart index listed) now))
      (Spares.refl b arena)
    exact spared.keeps
  · obtain ⟨log, allocated, generation⟩ := completeBlocks_frame plan.logicalBlocks b arena
    refine ⟨le_of_eq (congrArg (List.count (b, SparkStatus.ok)) log.symm), ?_, ?_⟩
    · intro born handed
      rw [generation]
      exact born (allocated.symm.trans handed)
    · exact fun _ still => absurd still unsaved

/-- No operation lets go of an unsaved page of a generation that goes on, unless the callback
reports it backed up. -/
theorem operate_keeps (callback : layout.evictFunction = some evict) {call : Call}
    (spares : SparesWritten layout arena call) : Keeps b arena (arena.operate layout call).2 := by
  have refl : Spares b arena arena := Spares.refl b arena
  have uncounted : ∀ {now : Arena} {count : Nat}, Spares b arena now →
      Spares b arena { now with unassignedResidentBlockCount := count } :=
    fun spared => spared.trans ⟨le_refl _, rfl, rfl, fun unsaved _ => unsaved⟩
  have removes : ∀ count, Spares b arena (arena.removeUnassignedResidentBlocks layout count).2 := by
    intro count
    rw [removeUnassignedResidentBlocks]
    split
    · exact refl
    · split
      · exact refl
      · split
        · exact refl
        · exact uncounted refl
  have pins : ∀ now index, Spares b arena now →
      Spares b arena (now.pinResidentBlock layout index).2 := by
    intro now index spared
    refine onBlock_preserves (P := Spares b arena) spared fun _ _ => ?_
    split
    · exact spared
    · split
      · exact spared
      · exact spared.trans (Spares.touch rfl rfl rfl rfl id id)
  have unpins : ∀ now index, Spares b arena now →
      Spares b arena (now.unpinResidentBlock layout index).2 := by
    intro now index spared
    refine onBlock_preserves (P := Spares b arena) spared fun _ _ => ?_
    split
    · exact spared
    · exact spared.trans (Spares.touch rfl rfl rfl rfl id id)
  have builds : ∀ sources laneCount, Spares b arena
      (arena.buildPrefetchPlanFromSourceBlocks layout sources laneCount).2.2 :=
    buildPrefetchPlanFromSourceBlocks_preserves (P := Spares b arena)
      (fun now source plan _ _ spared =>
        spared.trans (reserveBlockResidency_spares callback now source.logicalBlockIndex plan))
      (fun now plan spared => spared.trans (cancelPrefetchPlan_spares layout now plan)) refl
  cases call with
  | reserveUnassignedResidentBlocks count =>
    apply Spares.keeps
    simp only [operate, reserveUnassignedResidentBlocks]
    split
    · exact refl
    · split
      · exact refl
      · split
        · exact refl
        · split
          · have trimmed := trimResidentBlocksProtecting_spares (b := b) callback arena []
              (layout.residentBlockCapacity - arena.reservedBlockCount -
                arena.unassignedResidentBlockCount - count)
            exact andThen_preserves (P := Spares b arena) trimmed fun _ => uncounted trimmed
          · exact uncounted refl
  | consumeUnassignedResidentBlocks count => exact (removes count).keeps
  | releaseUnassignedResidentBlocks count => exact (removes count).keeps
  | acquireBlock => exact acquireBlock_keeps layout arena
  | recycleBlock index => exact recycleBlock_keeps layout arena index
  | retainBlock index | releaseBlockReference index =>
    refine (onBlock_preserves (P := Spares b arena) refl fun _ _ => ?_).keeps
    split
    · exact refl
    · exact Spares.touch rfl rfl rfl rfl id id
  | pinResidentBlock index => exact (pins arena index refl).keeps
  | unpinResidentBlock index => exact (unpins arena index refl).keeps
  | pinResidentTable table => exact (pinResidentTable_preserves pins unpins refl table).keeps
  | unpinResidentTable table => exact (unpinResidentTable_preserves unpins refl table).keeps
  | markBlockDirty index =>
    refine (onBlock_preserves (P := Spares b arena) refl fun _ _ => ?_).keeps
    split
    · exact refl
    · exact Spares.touch rfl rfl rfl rfl id fun _ => rfl
  | parkResidentBlock index =>
    refine (onBlock_preserves (P := Spares b arena) refl fun _ _ => ?_).keeps
    split
    · exact refl
    · split
      · exact refl
      · exact evictResidentBlock_spares callback arena index b
  | trimResidentBlocks guarded target =>
    exact (trimResidentBlocksProtecting_spares callback arena guarded target).keeps
  | markBlockResident index => exact (markBlockResident_spares callback arena index).keeps
  | adoptResidentSlot index slot =>
    refine (onBlock_preserves (P := Spares b arena) refl fun _ _ => ?_).keeps
    split
    · exact refl
    · split
      · exact refl
      · exact Spares.touch rfl rfl rfl rfl (fun _ => rfl) id
  | markParkedBlockResident index => exact (markParkedBlockResident_spares callback arena index).keeps
  | setSharedWindow base count => exact refl.keeps
  | adoptSharedBlock windowSlot => exact adoptSharedBlock_keeps layout arena windowSlot
  | freeBlock index => exact freeBlock_keeps layout arena index
  | markBlockNonResident index => exact (markBlockNonResident_spares callback arena index).keeps
  | buildPrefetchPlanFromSourceBlocks sources laneCount => exact (builds sources laneCount).keeps
  | buildPrefetchPlan indices laneCount =>
    exact (buildPrefetchPlan_preserves builds refl indices laneCount).keeps
  | buildNextPrefetchPlan indices laneCount next =>
    exact (buildNextPrefetchPlan_preserves builds refl indices laneCount next).keeps
  | markPrefetchPlanResident plan => exact markPrefetchPlanResident_keeps spares
  | cancelPrefetchPlan plan => exact (cancelPrefetchPlan_spares layout arena plan).keeps
  | evictResidentBlocksToLimit limit guarded =>
    apply Spares.keeps
    simp only [operate, evictResidentBlocksToLimit]
    split
    · exact refl
    · exact evictToLimit_preserves (P := Spares b arena)
        (fun now index spared => spared.trans (markBlockNonResident_spares callback now index)) refl
        limit guarded _
  | stampKeep pages priority deadline =>
    exact (stampKeep_preserves (P := Spares b arena)
      (fun _ _ _ spared => spared.trans (Spares.touch rfl rfl rfl rfl id id)) refl pages).keeps
  | reset => exact reset_keeps layout arena

/-- A block that was marked dirty is unsaved, and stays in its generation. -/
theorem markBlockDirty_unsaved (written : (arena.markBlockDirty layout b).1 = .ok) :
    ((arena.markBlockDirty layout b).2.blocks b).Unsaved := by
  unfold markBlockDirty at written ⊢
  rcases onBlock_cases layout arena b _ with failed | ⟨_, _, checked⟩
  · rw [failed] at written
    cases written
  · rw [checked] at written ⊢
    split at written
    · cases written
    · rename_i writable
      simp only [not_or, Bool.not_eq_true, Bool.not_eq_false'] at writable
      rw [if_neg (by simp [writable])]
      refine ⟨?_, ?_, ?_⟩
      · simp [useBlock, writable]
      · simp [useBlock, writable]
      · simp [useBlock]

end Operations

end Arena

namespace KvArena

variable {layout : Layout} {state : KvArena} {evict : Nat → SparkStatus} {b : Nat}

/-- `SparesWritten` before an operation. -/
def SparesWritten (state : KvArena) (call : Call) : Prop :=
  state.arena.SparesWritten state.layout call

theorem evictFunction_step (state : KvArena) (call : Call) :
    (state.step call).layout.evictFunction = state.layout.evictFunction := by
  cases call with
  | setSharedWindow base count =>
    simp only [step, perform, relayout, Arena.setSharedWindow]
    split
    · rfl
    · split
      · rfl
      · split <;> rfl
  | _ => rfl

theorem step_keeps (callback : state.layout.evictFunction = some evict) {call : Call}
    (spares : state.SparesWritten call) : Arena.Keeps b state.arena (state.step call).arena :=
  Arena.operate_keeps callback spares

/-- What a run keeps without regard to any one page. -/
structure Backed (evict : Nat → SparkStatus) (b reports : Nat) (state : KvArena) : Prop where
  callback : state.layout.evictFunction = some evict
  born : state.arena.Born b
  counted : reports ≤ state.arena.backups b

theorem Backed.step {reports : Nat} (backed : Backed evict b reports state) {call : Call}
    (spares : state.SparesWritten call) : Backed evict b reports (state.step call) where
  callback := (evictFunction_step state call).trans backed.callback
  born := (step_keeps backed.callback spares).born backed.born
  counted := le_trans backed.counted (step_keeps backed.callback spares).counted

theorem Backed.run {reports : Nat} (backed : Backed evict b reports state) {calls : List Call}
    (spares : Along KvArena.step SparesWritten calls state) :
    Backed evict b reports (state.run calls) :=
  spares.foldl (fun _ _ backed spares => backed.step spares) backed

/-- An unsaved page stays unsaved through a run of its generation in which the callback does not
report it backed up. -/
theorem run_unsaved {calls : List Call} (callback : state.layout.evictFunction = some evict)
    (born : state.arena.Born b) (spares : Along step SparesWritten calls state)
    (unsaved : (state.arena.blocks b).Unsaved)
    (generation : ∀ i ≤ calls.length,
      ((state.run (calls.take i)).arena.blocks b).generation = (state.arena.blocks b).generation)
    (unreported : (state.run calls).arena.backups b = state.arena.backups b) :
    ((state.run calls).arena.blocks b).Unsaved := by
  induction calls generalizing state with
  | nil => exact unsaved
  | cons call rest ih =>
    have kept := step_keeps (b := b) callback spares.1
    have first : ((state.step call).arena.blocks b).generation = (state.arena.blocks b).generation :=
      generation 1 (by simp)
    have backed : Backed evict b (state.arena.backups b) state := ⟨callback, born, le_refl _⟩
    have next := backed.step spares.1
    have later : Backed evict b ((state.step call).arena.backups b) ((state.step call).run rest) :=
      Backed.run ⟨next.callback, next.born, le_refl _⟩ spares.2
    have silent : (state.step call).arena.backups b = state.arena.backups b := by
      have grown := later.counted
      rw [run_cons] at unreported
      rw [unreported] at grown
      exact le_antisymm grown next.counted
    apply ih next.callback next.born spares.2 (kept.kept born unsaved silent first)
    · intro i inRange
      rw [first]
      exact generation (i + 1) (by simpa using inRange)
    · rw [silent]
      exact unreported

/-- The state in which block `b` has just been written. -/
def written (layout : Layout) (earlier : List Call) (b : Nat) : KvArena :=
  ((initialized layout).run earlier).step (.markBlockDirty b)

/-- A page that was written is resident and dirty for as long as its block's generation goes on and
the callback has not reported it backed up, when no completed plan names a page that is resident
and dirty. -/
theorem written_page_kept (callback : layout.evictFunction = some evict) {earlier later : List Call}
    (spares : Along step SparesWritten (earlier ++ .markBlockDirty b :: later) (initialized layout))
    (succeeded : (((initialized layout).run earlier).perform (.markBlockDirty b)).1 = .ok)
    (generation : ∀ i ≤ later.length,
      (((written layout earlier b).run (later.take i)).arena.blocks b).generation =
        ((written layout earlier b).arena.blocks b).generation)
    (unreported : ((written layout earlier b).run later).arena.backups b =
      (written layout earlier b).arena.backups b) :
    (((written layout earlier b).run later).arena.blocks b).resident = true ∧
      (((written layout earlier b).run later).arena.blocks b).dirty = true := by
  obtain ⟨before, after⟩ := spares.append
  have start : Backed evict b 0 (initialized layout) :=
    ⟨callback, fun handed => by simp [initialized, Arena.initial, Arena.initializeBlock] at handed,
      Nat.zero_le _⟩
  have marked : Backed evict b 0 (written layout earlier b) := (start.run before).step after.1
  have unsaved := run_unsaved marked.callback marked.born after.2
    (Arena.markBlockDirty_unsaved succeeded) generation unreported
  exact ⟨unsaved.resident, unsaved.dirty⟩

/-- `onePage` with an owner whose backing store fails. -/
def failingStore : Layout := { onePage with evictFunction := some fun _ => .ioError }

/-- The park of a written page fails, and the page stays. -/
theorem written_page_kept_failing :
    let parked := (written failingStore [.acquireBlock, .markBlockResident 0] 0).run
      [.parkResidentBlock 0]
    parked.arena.evictions = [(0, .ioError)] ∧ (parked.arena.blocks 0).resident = true ∧
      (parked.arena.blocks 0).dirty = true := by
  refine ⟨by decide, ?_⟩
  have callback : failingStore.evictFunction = some fun _ => .ioError := rfl
  refine written_page_kept callback ?_ (by decide) (by decide) (by decide)
  exact ⟨trivial, trivial, trivial, trivial, trivial⟩

/-- The plan that is built for block 0 of `onePage` while its page is not resident. -/
def planOfBlock : PrefetchPlan where
  laneCount := 1
  requestedLogicalBlockCount := 1
  reservedBlockCount := 1
  blocks := [{
    laneIndex := 0
    logicalBlockIndex := 0
    residentSlotIndex := some 0
    tokenCapacity := 1
    firstTokenIndex := 0
    tokenCount := 0
    flags := 1
    generation := 1
    parentHash := 0
    blockHash := 0
    contentHash := 0
    keyDeviceAddress := 1
    valueDeviceAddress := 0 }]

/-- Two plans are built for the same block. The first is completed, the page is written, and the
second, completed after that, takes the page for backed up: parking the block lets go of the only
copy without asking the callback. -/
theorem overlapping_plan_loses_write :
    let built := (initialized onePage).run [.acquireBlock, .buildPrefetchPlan [0] 1]
    let earlier : List Call := [.acquireBlock, .buildPrefetchPlan [0] 1, .buildPrefetchPlan [0] 1,
      .markPrefetchPlanResident planOfBlock]
    let later : List Call := [.markPrefetchPlanResident planOfBlock, .parkResidentBlock 0]
    let marked := written onePage earlier 0
    (((initialized onePage).step .acquireBlock).arena.buildPrefetchPlan onePage [0] 1).2.1 =
        some planOfBlock ∧
      (built.arena.buildPrefetchPlan onePage [0] 1).2.1 = some planOfBlock ∧
      (initialized onePage).statuses (earlier ++ .markBlockDirty 0 :: later) =
        [.ok, .ok, .ok, .ok, .ok, .ok, .ok] ∧
      (∀ i ≤ later.length, ((marked.run (later.take i)).arena.blocks 0).generation =
        (marked.arena.blocks 0).generation) ∧
      (marked.run later).arena.evictions = [] ∧
      ((marked.run later).arena.blocks 0).resident = false := by
  decide

end KvArena

end Sparkpipe.KvCache
