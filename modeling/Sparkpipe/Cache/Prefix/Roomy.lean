import Sparkpipe.Cache.Prefix.Pending
import Sparkpipe.Lib.Along

/-!
# Room for what a call installs

That every entry which a call installs finds a binding is a condition on the cache before each of its
blocks. Here it follows from the cache before the call: there is a free binding for every block that
the sequence has none for. A block takes one binding at most, and only for itself.
-/

namespace Sparkpipe.PrefixCache

open Function

variable {config : Configuration} {held : Option Nat} {cache : Cache} {sequenceId : UInt64}
variable {index block tokenCount : Nat}

/-- The sequence has no binding at the offset. -/
def Lacks (config : Configuration) (cache : Cache) (sequenceId : UInt64) (offset : Nat) : Prop :=
  ∀ i < config.sequenceBindingCount, (cache.bindings i).valid = true →
    (cache.bindings i).sequenceId = sequenceId → (cache.bindings i).firstTokenIndex ≠ offset

instance (config : Configuration) (cache : Cache) (sequenceId : UInt64) (offset : Nat) :
    Decidable (Lacks config cache sequenceId offset) :=
  inferInstanceAs (Decidable (∀ i < config.sequenceBindingCount, _))

/-- The blocks that the sequence has no binding for, among those of the tokens. -/
def wantedBindings (config : Configuration) (cache : Cache) (sequenceId : UInt64)
    (tokenCount : Nat) : Nat :=
  tally (ceilDivU32 tokenCount config.blockTokenCount) fun block =>
    decide (Lacks config cache sequenceId (block * config.blockTokenCount))

/-- The bindings that are free. -/
def spareBindings (config : Configuration) (cache : Cache) : Nat :=
  tally config.sequenceBindingCount fun i => !(cache.bindings i).valid

/-- There is a free binding for every block of the tokens that the sequence has none for. -/
def Roomy (config : Configuration) (cache : Cache) (sequenceId : UInt64) (tokenCount : Nat) : Prop :=
  wantedBindings config cache sequenceId tokenCount ≤ spareBindings config cache

/-- The loops visit blocks that begin below the token count: the rounding can only lose some. -/
theorem blockStart_lt (inRange : block < ceilDivU32 tokenCount config.blockTokenCount) :
    0 < config.blockTokenCount ∧ block * config.blockTokenCount < tokenCount := by
  unfold ceilDivU32 at inRange
  split at inRange
  · cases inRange
  · rename_i positive
    replace positive := Nat.pos_of_ne_zero positive
    have whole := (Nat.le_div_iff_mul_le positive).mp inRange
    have bounded := Nat.mod_le (tokenCount + config.blockTokenCount - 1) (2 ^ 32)
    rw [Nat.succ_mul] at whole
    exact ⟨positive, by omega⟩

/-- What is read of the bindings for it. -/
theorem Roomy.congr {after : Cache} (roomy : Roomy config cache sequenceId tokenCount)
    (valid : ∀ i, (after.bindings i).valid = (cache.bindings i).valid)
    (sequence : ∀ i, (after.bindings i).sequenceId = (cache.bindings i).sequenceId)
    (first : ∀ i, (after.bindings i).firstTokenIndex = (cache.bindings i).firstTokenIndex) :
    Roomy config after sequenceId tokenCount := by
  simp only [Roomy, wantedBindings, spareBindings, Lacks, valid, sequence, first]
  exact roomy

/-- While there is room, a block without a binding finds a free one. -/
theorem Roomy.findFreeBinding (roomy : Roomy config cache sequenceId tokenCount)
    (linked : Linked config cache.links)
    (inRange : block < ceilDivU32 tokenCount config.blockTokenCount)
    (missing : findBindingAtTokenOffset config cache sequenceId
      (block * config.blockTokenCount) = none) :
    PrefixCache.findFreeBinding config cache ≠ none := by
  intro none
  have wanted : 0 < wantedBindings config cache sequenceId tokenCount :=
    tally_pos inRange (decide_eq_true fun i inRange valid sequence =>
      linked.findBinding_none missing inRange valid sequence)
  refine Nat.not_le_of_lt wanted (roomy.trans (tally_eq_zero fun i below => ?_).le)
  by_contra free
  exact findFreeBinding_ne_none linked below (by simpa using free) none

/-- Acquiring the entry of a block takes a binding for it, if the sequence has none there. -/
theorem Roomy.acquire (roomy : Roomy config cache sequenceId tokenCount)
    (sound : Sound config True held cache)
    (inRange : block < ceilDivU32 tokenCount config.blockTokenCount)
    (place : (cache.entries index).firstTokenIndex = block * config.blockTokenCount)
    (operationEpoch : UInt64) (pending : Bool) :
    Roomy config (acquireEntryForSequence config cache sequenceId index operationEpoch pending).2
      sequenceId tokenCount := by
  have either := sound.linked.acquireEntryForSequence sequenceId index operationEpoch pending
  generalize (acquireEntryForSequence config cache sequenceId index operationEpoch pending).2 =
    after at either ⊢
  rcases either with quiet | ⟨-, binding, taken⟩
  · exact roomy.congr (congrFun (congrArg Counts.bindingValid quiet.counts))
      (congrFun (congrArg Counts.sequenceId quiet.counts))
      (congrFun (congrArg Counts.firstTokenIndex quiet.counts))
  · have valid (i : Nat) :
        (after.bindings i).valid = update cache.counts.bindingValid binding true i :=
      congrFun (congrArg Counts.bindingValid taken.counts) i
    have sequence (i : Nat) : (after.bindings i).sequenceId =
        update cache.counts.sequenceId binding sequenceId i :=
      congrFun (congrArg Counts.sequenceId taken.counts) i
    have first (i : Nat) : (after.bindings i).firstTokenIndex =
        update cache.counts.firstTokenIndex binding (block * config.blockTokenCount) i :=
      place ▸ congrFun (congrArg Counts.firstTokenIndex taken.counts) i
    have free : (cache.bindings binding).valid = false := taken.free
    -- one binding less is free, and one block less is without
    have spare : spareBindings config cache = spareBindings config after + 1 :=
      tally_lose taken.inRange (by simp [free]) (by simp [valid]) fun j _ apart => by
        rw [valid, update_of_ne apart]
        rfl
    have lacks : Lacks config cache sequenceId (block * config.blockTokenCount) :=
      fun i inRange valid sequence =>
        place ▸ sound.linked.findBinding_none taken.missing inRange valid sequence
    have has : ¬ Lacks config after sequenceId (block * config.blockTokenCount) := fun lacks =>
      lacks binding taken.inRange (by simp [valid]) (by simp [sequence]) (by simp [first])
    have wanted : wantedBindings config cache sequenceId tokenCount =
        wantedBindings config after sequenceId tokenCount + 1 := by
      refine tally_lose inRange (decide_eq_true lacks) (decide_eq_false has) fun j _ apart => ?_
      refine decide_eq_decide.mpr (forall₂_congr fun i _ => ?_)
      rw [valid, sequence, first]
      by_cases here : i = binding
      · have other : block * config.blockTokenCount ≠ j * config.blockTokenCount := fun same =>
          apart (Nat.eq_of_mul_eq_mul_right (blockStart_lt inRange).1 same).symm
        simp [here, free, other]
      · rw [update_of_ne here, update_of_ne here, update_of_ne here]
        rfl
    unfold Roomy at roomy ⊢
    omega

/-- What is installed for a block and then acquired. -/
theorem Roomy.installThenAcquire (roomy : Roomy config cache sequenceId tokenCount)
    (kept : Kept config (held, cache))
    (inRange : block < ceilDivU32 tokenCount config.blockTokenCount)
    {victim : Nat} {install : Installation} (fresh : install.flags.reusable = false)
    (place : install.key.firstTokenIndex = block * config.blockTokenCount)
    (operationEpoch : UInt64) (pending : Bool) :
    Roomy config (installEntry config cache victim install).2 sequenceId tokenCount ∧
      ((installEntry config cache victim install).1 = .ok →
        Roomy config (acquireEntryForSequence config (installEntry config cache victim install).2
          sequenceId victim operationEpoch pending).2 sequenceId tokenCount) := by
  have installed := kept.step Mode.filed_orderly
    (.install victim install (fun _ => fresh) False.elim (fun _ => fresh) False.elim)
  have bindings := installEntry_bindings config cache victim install
  have remains : Roomy config (installEntry config cache victim install).2 sequenceId tokenCount :=
    roomy.congr (fun i => by rw [bindings]) (fun i => by rw [bindings]) fun i => by rw [bindings]
  refine ⟨remains, fun succeeded => remains.acquire installed.sound inRange ?_ operationEpoch pending⟩
  exact (congrArg BlockKey.firstTokenIndex (installEntry_written succeeded).key).trans place

section Reserve

variable {state : ReserveState} {operationEpoch : UInt64}

/-- What the reserve loop does with an entry leaves the room that acquiring it does. -/
theorem Roomy.reserveAcquire (state : ReserveState)
    (acquired : Roomy config (acquireEntryForSequence config state.cache sequenceId
      index operationEpoch (state.cache.entries index).flags.pending).2 sequenceId tokenCount)
    (table : Bool) (key : BlockKey) :
    let result := PrefixCache.reserveAcquire config sequenceId operationEpoch table key index state
    Roomy config result.2.cache sequenceId tokenCount ∧
      (result.1 = .ok → result.2.tokenOffset = state.tokenOffset + key.tokenCount) := by
  dsimp only
  unfold PrefixCache.reserveAcquire
  dsimp only
  split
  · rename_i failed
    exact ⟨acquired, fun succeeded => absurd succeeded failed⟩
  · exact ⟨acquired, fun _ => rfl⟩

/-- One iteration of the reserve loop leaves room for the others. -/
theorem Roomy.reserveBlock (roomy : Roomy config state.cache sequenceId tokenCount)
    (kept : Kept config (held, state.cache))
    (inRange : block < ceilDivU32 tokenCount config.blockTokenCount) (tokens : List UInt32)
    (allowCrossSequenceReuse table : Bool)
    (place : state.tokenOffset = block * config.blockTokenCount) :
    let result := PrefixCache.reserveBlock config sequenceId operationEpoch tokens
      allowCrossSequenceReuse table state
    Roomy config result.2.cache sequenceId tokenCount ∧
      (result.1 = .ok → result.2.tokenOffset = state.tokenOffset +
        min config.blockTokenCount (tokens.length - state.tokenOffset)) := by
  dsimp only
  unfold PrefixCache.reserveBlock
  dsimp only
  split
  · rename_i index existing
    split
    · exact ⟨roomy, nofun⟩
    · refine Roomy.reserveAcquire { state with reservation := _ } ?_ _ _
      exact roomy.acquire kept.sound inRange
        ((kept.sound.existingEntry_place existing).trans place) _ _
  split
  · rename_i index found
    split at found
    · refine Roomy.reserveAcquire { state with reservation := _ } ?_ _ _
      have key := congrArg BlockKey.firstTokenIndex (findEntry_key found)
      exact roomy.acquire kept.sound inRange (key.trans place) _ _
    · cases found
  unfold reserveInstall
  split
  · exact ⟨roomy, nofun⟩
  dsimp only
  split
  · rename_i failed
    exact ⟨(roomy.installThenAcquire kept inRange rfl place operationEpoch true).1,
      fun succeeded => absurd succeeded failed⟩
  · rename_i succeeded
    refine Roomy.reserveAcquire { state with cache := _, reservation := _ } ?_ _ _
    exact (roomy.installThenAcquire kept inRange rfl place _ _).2 (not_not.mp succeeded)

/-- With room for the prompt a reservation finds a binding for every entry it installs. -/
theorem reserveBinds_of_roomy (kept : Kept config (held, cache)) (tokens : List UInt32)
    (roomy : Roomy config cache sequenceId tokens.length) (capacity : Option Nat)
    (allowCrossSequenceReuse : Bool) :
    ReserveBinds config cache sequenceId tokens capacity allowCrossSequenceReuse := by
  intro _ _ _ _ block inRange state reached
  unfold reserveLoop at reached
  -- the loop comes to each block with room for those that have no binding
  obtain ⟨keptNow, place, room⟩ := (forEach_range
    (P := fun index (now : ReserveState) => Kept config (held, now.cache) ∧
      now.tokenOffset = index * config.blockTokenCount ∧
      Roomy config now.cache sequenceId tokens.length)
    (Q := fun _ => True) (fun index earlier now _ ⟨keptNow, place, room⟩ => by
      have within : index + 1 < ceilDivU32 tokens.length config.blockTokenCount := by omega
      obtain ⟨remains, further⟩ := room.reserveBlock keptNow (Nat.lt_of_succ_lt within) tokens
        allowCrossSequenceReuse capacity.isSome place
      refine ⟨fun succeeded => ⟨keptNow.reached Mode.filed_orderly
        ((Reached.refl keptNow.sound).reserveBlock id _ _ _ _ _), ?_, remains⟩, fun _ => trivial⟩
      have next := (blockStart_lt within).2
      rw [Nat.succ_mul] at next ⊢
      rw [further succeeded, place]
      omega)
    ⟨kept.nextEpoch, (Nat.zero_mul _).symm, roomy⟩).1 (congrArg Prod.fst reached)
  rw [reached] at keptNow place room
  intro absent _ _ _ _
  refine room.findFreeBinding keptNow.sound.linked inRange ?_
  rw [← place]
  exact existingEntry_none keptNow.sound absent

end Reserve

/-- One iteration of the loop that grows a sequence leaves room for the others. -/
theorem Roomy.ensureBlock {state : EnsureState}
    (roomy : Roomy config state.cache sequenceId tokenCount)
    (kept : Kept config (held, state.cache))
    (inRange : block < ceilDivU32 tokenCount config.blockTokenCount) (operationEpoch : UInt64) :
    Kept config (held, (PrefixCache.ensureBlock config sequenceId operationEpoch tokenCount block
        state).2.cache) ∧
      Roomy config (PrefixCache.ensureBlock config sequenceId operationEpoch tokenCount block
        state).2.cache sequenceId tokenCount := by
  unfold PrefixCache.ensureBlock
  dsimp only
  split
  · rw [ensureBound_cache]
    exact ⟨kept, roomy⟩
  refine ⟨kept.ensureInstall _ _ _, ?_⟩
  unfold ensureInstall
  split
  · exact roomy
  dsimp only
  split
  · exact (roomy.installThenAcquire kept inRange rfl rfl operationEpoch true).1
  · rename_i succeeded
    exact (roomy.installThenAcquire kept inRange rfl rfl _ _).2 (not_not.mp succeeded)

/-- With room for the tokens a sequence that grows finds a binding for every entry it installs. -/
theorem ensureBinds_of_roomy (kept : Kept config (held, cache))
    (roomy : Roomy config cache sequenceId tokenCount) :
    EnsureBinds config cache sequenceId tokenCount := by
  intro _ _ _ block inRange state reached missing _ _ _
  unfold ensureLoop at reached
  obtain ⟨keptNow, room⟩ := (forEach_range
    (P := fun _ (now : EnsureState) => Kept config (held, now.cache) ∧
      Roomy config now.cache sequenceId tokenCount)
    (Q := fun _ => True) (fun index earlier now _ ⟨keptNow, room⟩ =>
      ⟨fun _ => room.ensureBlock keptNow (earlier.trans inRange) _, fun _ => trivial⟩)
    ⟨kept.nextEpoch, roomy⟩).1 (congrArg Prod.fst reached)
  rw [reached] at keptNow room
  exact room.findFreeBinding keptNow.sound.linked inRange missing

/-- A binding that is released leaves room for the block it was at. -/
theorem Roomy.release (linked : Linked config cache.links) (index : Nat)
    (roomy : Roomy config cache sequenceId tokenCount) :
    Roomy config (releaseBinding config cache index).2 sequenceId tokenCount := by
  rcases linked.releaseBinding index with ⟨same, -⟩ | ⟨-, released⟩
  · rwa [same]
  generalize (releaseBinding config cache index).2 = after at released ⊢
  have valid (i : Nat) : (after.bindings i).valid = update cache.counts.bindingValid index false i :=
    congrFun (congrArg Counts.bindingValid released.counts) i
  have sequence (i : Nat) :
      (after.bindings i).sequenceId = update cache.counts.sequenceId index 0 i :=
    congrFun (congrArg Counts.sequenceId released.counts) i
  have first (i : Nat) :
      (after.bindings i).firstTokenIndex = update cache.counts.firstTokenIndex index 0 i :=
    congrFun (congrArg Counts.firstTokenIndex released.counts) i
  have spare : spareBindings config after = spareBindings config cache + 1 :=
    tally_gain released.inRange (by simp [released.valid]) (by simp [valid]) fun j _ apart => by
      rw [valid, update_of_ne apart]
      rfl
  have wanted : wantedBindings config after sequenceId tokenCount ≤
      wantedBindings config cache sequenceId tokenCount + 1 := by
    refine tally_le_succ ((cache.bindings index).firstTokenIndex / config.blockTokenCount)
      fun j inRange apart lacks => ?_
    rw [decide_eq_true_eq] at lacks ⊢
    intro i below isValid isOurs place
    have other : i ≠ index := by
      rintro rfl
      rw [place, Nat.mul_div_cancel _ (blockStart_lt inRange).1] at apart
      exact apart rfl
    refine lacks i below ?_ ((sequence i).trans ?_) ((first i).trans ?_)
    · rwa [valid, update_of_ne other]
    · rwa [update_of_ne other]
    · rwa [update_of_ne other]
  unfold Roomy at roomy ⊢
  omega

/-- With room for the prompt a commit finds a binding for every entry it installs. -/
theorem commitBinds_of_roomy (kept : Kept config (none, cache)) (tokens : List UInt32)
    (roomy : Roomy config cache sequenceId tokens.length) :
    CommitBinds config cache sequenceId tokens := by
  intro base found
  unfold commitPromptBase at found
  split at found
  · cases found
    exact reserveBinds_of_roomy kept tokens roomy none true
  dsimp only at found
  split at found
  · cases found
  · rename_i usable
    cases found
    simp only [not_or, not_le, ne_eq, not_not, Bool.not_eq_true', Bool.not_eq_false] at usable
    obtain ⟨inRange, -, committed, -, retained, -⟩ := usable
    have holding := kept.reached (show Mode.still.orderly from trivial)
      (kept.holds inRange committed retained)
    refine reserveBinds_of_roomy (holding.step Mode.filed_orderly (.release _ id)) tokens
      (Roomy.release holding.sound.linked _ ?_) none true
    obtain ⟨arena, middle⟩ := retainLogicalBlock_arena config cache
      (cache.entries (cache.bindings _).entryIndex).logicalBlockIndex
    rw [middle]
    exact roomy

/-- There is room before a call for the tokens it grows its sequence to. -/
def Operation.Roomy (config : Configuration) (cache : Cache) : Operation → Prop
  | .reservePrompt sequenceId tokens _ | .reserveSequencePrompt sequenceId tokens _
  | .commitPrompt sequenceId tokens => PrefixCache.Roomy config cache sequenceId tokens.length
  | .ensureSequenceTokenCapacity sequenceId tokenCount =>
      PrefixCache.Roomy config cache sequenceId tokenCount
  | _ => True

/-- In every run with room before each call, each call finds a binding for every entry it installs. -/
theorem runBindsInstalled_of_roomy {operations : List Operation}
    (accepted : PrefixCache.validate config = .ok) (kept : Kept config (none, cache))
    (keeps : RunKeepsBuckets config (operations.map .call) cache)
    (roomy : Along (fun cache operation => (perform config cache operation).2)
      (fun cache operation => operation.Roomy config cache) operations cache) :
    RunBindsInstalled config operations cache := by
  induction operations generalizing cache with
  | nil => trivial
  | cons operation rest ih =>
    refine ⟨?_, ih (kept.perform accepted operation keeps.1) keeps.2 roomy.2⟩
    have room := roomy.1
    cases operation with
    | reservePrompt | reserveSequencePrompt => exact reserveBinds_of_roomy kept _ room _ _
    | commitPrompt => exact commitBinds_of_roomy kept _ room
    | ensureSequenceTokenCapacity => exact ensureBinds_of_roomy kept room
    | _ => trivial

end Sparkpipe.PrefixCache
