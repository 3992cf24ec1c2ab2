import Sparkpipe.Cache.Prefix.Orphans

/-!
# Pending entries after a call

A reservation that fails is rolled back. Without binding buckets the rollback
sweeps all entries; with them it walks the bindings of its sequence, so an entry
that was installed and could not be bound is lost to it. `BindsInstalled` is the
condition of a call, on the cache before each of its blocks, that this does not
happen; in every run that meets it no call leaves a pending entry without a
reference.
-/

namespace Sparkpipe.PrefixCache

open Sparkpipe.KvCache (Layout Arena)

variable {config : Configuration} {held : Option Nat} {cache before after : Cache}
variable {operationEpoch : UInt64}

section Reserve

/-- A search through bindings that have not changed. -/
theorem findBinding_none_of_bindings {sequenceId : UInt64} {first : Nat}
    (linked : Linked config before.links) (same : after.bindings = before.bindings)
    (missing : findBindingAtTokenOffset config before sequenceId first = none) :
    findBindingAtTokenOffset config after sequenceId first = none := by
  cases found : findBindingAtTokenOffset config after sequenceId first with
  | none => rfl
  | some i =>
    obtain ⟨inRange, valid, sequence, place⟩ := findBindingAtTokenOffset_some found
    rw [same] at valid sequence place
    exact absurd place (linked.findBinding_none missing inRange valid sequence)

theorem findFreeBinding_some {binding : Nat} (found : findFreeBinding config cache = some binding) :
    cache.freeBindingHead = some binding ∧ binding < config.sequenceBindingCount ∧
      (cache.bindings binding).valid = false := by
  unfold findFreeBinding at found
  split at found
  · cases found
  · rename_i first head
    split at found
    · cases found
    · rename_i usable
      cases found
      rw [not_or] at usable
      exact ⟨head, Nat.lt_of_not_le usable.1, by simpa using usable.2⟩

/-- While a binding is free the free list has a head. -/
theorem findFreeBinding_ne_none {i : Nat} (linked : Linked config cache.links)
    (inRange : i < config.sequenceBindingCount) (free : (cache.bindings i).valid = false) :
    findFreeBinding config cache ≠ none := by
  have list := linked.freeBindings
  unfold findFreeBinding
  cases head : cache.freeBindingHead with
  | none =>
    rw [show cache.links.freeBindingHead = none from head] at list
    exact absurd ⟨inRange, free⟩ (list.not_member_of_none i)
  | some first =>
    rw [show cache.links.freeBindingHead = some first from head] at list
    obtain ⟨firstInRange, firstFree⟩ := list.head_member
    replace firstFree : (cache.bindings first).valid = false := firstFree
    dsimp only
    rw [if_neg (by simp [firstFree, Nat.not_le.mpr firstInRange])]
    exact Option.some_ne_none first

/-- A reservation of one block: an entry is installed, then bound. Where there is a binding for it,
or where the rollback sweeps all entries, a failure can be undone. -/
theorem undoable_installThenAcquire (kept : Kept config (held, cache)) (clean : Clean config cache)
    {sequenceId : UInt64} {victim : Nat} {install : Installation} (pending : Bool)
    (fresh : install.flags.reusable = false) (epoch : install.operationEpoch = operationEpoch)
    (missing : findBindingAtTokenOffset config cache sequenceId install.key.firstTokenIndex = none)
    (binds : config.bindingHashBucketCount ≠ 0 → (installEntry config cache victim install).1 = .ok →
      findFreeBinding config cache ≠ none) :
    ((installEntry config cache victim install).1 ≠ .ok →
        Clean config (installEntry config cache victim install).2) ∧
      ((installEntry config cache victim install).1 = .ok →
        Undoable config operationEpoch (acquireEntryForSequence config
          (installEntry config cache victim install).2 sequenceId victim operationEpoch pending)) := by
  set result := installEntry config cache victim install with isResult
  have installed : Kept config (held, result.2) :=
    kept.step Mode.filed_orderly
      (.install victim install (fun _ => fresh) False.elim (fun _ => fresh) False.elim)
  refine ⟨fun failed e orphan => ?_, fun succeeded => ?_⟩
  · rcases orphan_install orphan with ⟨earlier, -⟩ | ⟨-, succeeded, -⟩
    · exact clean e earlier
    · exact failed succeeded
  · have only : ∀ e, Orphan config result.2 e →
        e = victim ∧ (result.2.entries e).reservationEpoch = operationEpoch := by
      intro e orphan
      rcases orphan_install orphan with ⟨earlier, -⟩ | ⟨here, -, -, sameEpoch⟩
      · exact absurd earlier (clean e)
      · exact ⟨here, sameEpoch.trans epoch⟩
    have written := installEntry_written succeeded
    have bindings := installEntry_bindings config cache victim install
    have inRange : victim < config.entryCount := by
      rcases installEntry_cases config cache victim install with ⟨failed, -⟩ | ⟨-, _, done⟩
      · exact absurd succeeded failed
      · exact done.inRange
    have place : (result.2.entries victim).firstTokenIndex = install.key.firstTokenIndex :=
      congrArg BlockKey.firstTokenIndex written.key
    have unbound : findBindingAtTokenOffset config result.2 sequenceId
        (result.2.entries victim).firstTokenIndex = none := by
      rw [place]
      exact findBinding_none_of_bindings kept.sound.linked bindings missing
    have noNew := noNewOrphan_acquire config result.2 sequenceId victim operationEpoch pending
    constructor
    · intro either e orphan
      have acquired :
          (acquireEntryForSequence config result.2 sequenceId victim operationEpoch pending).1 = .ok := by
        rcases either with ok | indexed
        · exact ok
        · obtain ⟨binding, found⟩ := Option.ne_none_iff_exists'.mp (binds indexed succeeded)
          obtain ⟨-, bindingInRange, free⟩ := findFreeBinding_some found
          rw [← bindings] at free
          exact installed.acquireEntryForSequence_ok _ _ inRange (by rw [written.flags]) unbound
            (findFreeBinding_ne_none installed.sound.linked bindingInRange free)
      obtain ⟨rfl, -⟩ := only e (noNew e orphan).1
      rcases acquireEntryForSequence_records config (installEntry config cache e install).2 sequenceId
          e operationEpoch pending with ⟨-, -, failed⟩ | ⟨-, entries, -, -⟩
      · exact failed unbound acquired
      · have unreferenced := orphan.unreferenced
        rw [entries, Function.update_self] at unreferenced
        cases unreferenced
    · intro e orphan
      obtain ⟨earlier, same⟩ := noNew e orphan
      exact same.trans (only e earlier).2

/-- If the reserve loop installs an entry for the block it is at, a binding is free for it. -/
def ReserveBlockBinds (config : Configuration) (sequenceId operationEpoch : UInt64)
    (tokens : List UInt32) (allowCrossSequenceReuse : Bool) (state : ReserveState) : Prop :=
  let key := state.key config tokens
  let contentDigest := digestBlock (blockTokens tokens state.tokenOffset key.tokenCount)
  existingEntry config state.cache sequenceId state.tokenOffset = none →
  (if allowCrossSequenceReuse then findEntry config state.cache key contentDigest true
    else none) = none →
  ∀ victim, selectVictim config state.cache = some victim →
  (installEntry config state.cache victim
    { flags := { pending := true, liveOnly := !allowCrossSequenceReuse }
      key := key
      contentDigest := contentDigest
      operationEpoch := operationEpoch }).1 = .ok →
  findFreeBinding config state.cache ≠ none

theorem noNewOrphan_reserveAcquire (sequenceId operationEpoch : UInt64) (table : Bool)
    (key : BlockKey) (index : Nat) (state : ReserveState) :
    NoNewOrphan config state.cache
      (reserveAcquire config sequenceId operationEpoch table key index state).2.cache := by
  have acquired := noNewOrphan_acquire config state.cache sequenceId index operationEpoch
    (state.cache.entries index).flags.pending
  unfold reserveAcquire
  dsimp only
  split
  · exact acquired
  · exact acquired.trans (noNewOrphan_settle (quiet_touchEntry config _ index).settled)

theorem Undoable.reserveAcquire {sequenceId : UInt64} {state : ReserveState} {index : Nat}
    (undoable : Undoable config operationEpoch (acquireEntryForSequence config state.cache sequenceId
      index operationEpoch (state.cache.entries index).flags.pending))
    (table : Bool) (key : BlockKey) :
    Undoable config operationEpoch
      ((PrefixCache.reserveAcquire config sequenceId operationEpoch table key index state).1,
        (PrefixCache.reserveAcquire config sequenceId operationEpoch table key index
          state).2.cache) := by
  unfold PrefixCache.reserveAcquire
  dsimp only
  split
  · exact undoable
  · rename_i succeeded
    refine Clean.undoable ((undoable.clean (Or.inl (by simpa using succeeded))).later ?_)
    exact noNewOrphan_settle (quiet_touchEntry config _ index).settled

theorem existingEntry_none {exclusive : Prop} (sound : Sound config exclusive held cache)
    {sequenceId : UInt64} {offset : Nat}
    (absent : existingEntry config cache sequenceId offset = none) :
    findBindingAtTokenOffset config cache sequenceId offset = none := by
  cases found : findBindingAtTokenOffset config cache sequenceId offset with
  | none => rfl
  | some binding =>
    obtain ⟨inRange, valid, -, -⟩ := findBindingAtTokenOffset_some found
    obtain ⟨entryInRange, -, -⟩ := sound.counted.bound binding inRange valid
    replace entryInRange : (cache.bindings binding).entryIndex < config.entryCount := entryInRange
    simp [existingEntry, found, entryInRange] at absent

/-- One iteration of the reserve loop leaves nothing its rollback could miss. -/
theorem undoable_reserveBlock {state : ReserveState} (kept : Kept config (held, state.cache))
    (clean : Clean config state.cache) (sequenceId : UInt64) (tokens : List UInt32)
    (allowCrossSequenceReuse table : Bool)
    (binds : config.bindingHashBucketCount ≠ 0 →
      ReserveBlockBinds config sequenceId operationEpoch tokens allowCrossSequenceReuse state) :
    Undoable config operationEpoch
      ((reserveBlock config sequenceId operationEpoch tokens allowCrossSequenceReuse table state).1,
        (reserveBlock config sequenceId operationEpoch tokens allowCrossSequenceReuse table
          state).2.cache) := by
  unfold reserveBlock
  dsimp only
  split
  · split
    · exact clean.undoable
    · refine Clean.undoable (clean.later ?_)
      exact noNewOrphan_reserveAcquire _ _ _ _ _ { state with reservation := _ }
  · rename_i absent
    split
    · refine Clean.undoable (clean.later ?_)
      exact noNewOrphan_reserveAcquire _ _ _ _ _ { state with reservation := _ }
    · rename_i unknown
      unfold reserveInstall
      split
      · exact clean.undoable
      · rename_i victim chosen
        have missing := existingEntry_none kept.sound absent
        have free := fun indexed => binds indexed absent unknown victim chosen
        dsimp only
        split
        · rename_i failed
          exact Clean.undoable ((undoable_installThenAcquire kept clean false rfl rfl
            missing free).1 failed)
        · rename_i succeeded
          refine Undoable.reserveAcquire ?_ _ _
          exact (undoable_installThenAcquire kept clean _ rfl rfl missing free).2
            (by simpa using succeeded)

/-- A loop that reserves block after block, each on a cache without orphans. -/
theorem undoable_loop {σ : Type} {body : Nat → σ → SparkStatus × σ} (operationEpoch : UInt64)
    (cacheOf : σ → Cache) {count : Nat} {state : σ}
    (step : ∀ index < count, ∀ now, forEach body (List.range index) state = (.ok, now) →
      Kept config (held, cacheOf now) → Clean config (cacheOf now) →
      Kept config (held, cacheOf (body index now).2) ∧
        Undoable config operationEpoch ((body index now).1, cacheOf (body index now).2))
    (kept : Kept config (held, cacheOf state)) (clean : Clean config (cacheOf state)) :
    Kept config (held, cacheOf (forEach body (List.range count) state).2) ∧
      Undoable config operationEpoch ((forEach body (List.range count) state).1,
        cacheOf (forEach body (List.range count) state).2) := by
  have loop := forEach_range
    (P := fun _ now => Kept config (held, cacheOf now) ∧ Clean config (cacheOf now))
    (Q := fun result => Kept config (held, cacheOf result.2) ∧
      Undoable config operationEpoch (result.1, cacheOf result.2))
    (fun index inRange now reached holds => by
      obtain ⟨keptNext, undoable⟩ := step index inRange now reached holds.1 holds.2
      exact ⟨fun succeeded => ⟨keptNext, undoable.clean (.inl succeeded)⟩,
        fun _ => ⟨keptNext, undoable⟩⟩)
    ⟨kept, clean⟩
  by_cases succeeded : (forEach body (List.range count) state).1 = .ok
  · obtain ⟨keptEnd, cleanEnd⟩ := loop.1 succeeded
    exact ⟨keptEnd, cleanEnd.undoable⟩
  · exact loop.2 succeeded

/-- The state in which the reserve loop begins. -/
def reserveStart (cache : Cache) (sequenceId : UInt64) (tokens : List UInt32) : ReserveState where
  cache := nextEpoch cache
  reservation :=
    { requestedTokenCount := tokens.length
      sequenceId := sequenceId
      reservationEpoch := (nextEpoch cache).operationEpoch }
  parentHash := emptyParentHash
  tokenOffset := 0

/-- The first `count` iterations of the reserve loop. -/
def reserveLoop (config : Configuration) (cache : Cache) (sequenceId : UInt64)
    (tokens : List UInt32) (capacity : Option Nat) (allowCrossSequenceReuse : Bool) (count : Nat) :
    SparkStatus × ReserveState :=
  forEach (fun _ => reserveBlock config sequenceId (nextEpoch cache).operationEpoch tokens
    allowCrossSequenceReuse capacity.isSome) (List.range count) (reserveStart cache sequenceId tokens)

/-- At every block a reservation comes to, an entry that is installed finds a free binding. -/
def ReserveBinds (config : Configuration) (cache : Cache) (sequenceId : UInt64)
    (tokens : List UInt32) (capacity : Option Nat) (allowCrossSequenceReuse : Bool) : Prop :=
  config.bindingHashBucketCount ≠ 0 → tokens.length ≠ 0 → sequenceId ≠ 0 →
  ¬ capacity.any (· < ceilDivU32 tokens.length config.blockTokenCount) →
  ∀ block < ceilDivU32 tokens.length config.blockTokenCount, ∀ state,
    reserveLoop config cache sequenceId tokens capacity allowCrossSequenceReuse block =
      (.ok, state) →
    ReserveBlockBinds config sequenceId (nextEpoch cache).operationEpoch tokens
      allowCrossSequenceReuse state

theorem Kept.nextEpoch (kept : Kept config (held, cache)) :
    Kept config (held, PrefixCache.nextEpoch cache) :=
  kept.reached Mode.filed_orderly (Reached.refl kept.sound).nextEpoch

theorem clean_nextEpoch (clean : Clean config cache) : Clean config (nextEpoch cache) :=
  fun e orphan => clean e ⟨orphan.inRange, orphan.valid, orphan.pending, orphan.unreferenced⟩

/-- A reservation that finds a binding for what it installs leaves no orphan, whether it succeeds
or is rolled back. -/
theorem clean_reservePromptInternal (kept : Kept config (held, cache)) (clean : Clean config cache)
    (sequenceId : UInt64) (tokens : List UInt32) (capacity : Option Nat)
    (allowCrossSequenceReuse : Bool)
    (binds : ReserveBinds config cache sequenceId tokens capacity allowCrossSequenceReuse) :
    Clean config (reservePromptInternal config cache sequenceId tokens capacity
      allowCrossSequenceReuse).2.2 := by
  unfold reservePromptInternal
  dsimp only
  split
  · exact clean
  · split
    · exact clean
    · rename_i arguments
      rw [not_or] at arguments
      split
      · exact clean
      · rename_i roomy
        have loop : Kept config (held, (reserveLoop config cache sequenceId tokens capacity
              allowCrossSequenceReuse
              (ceilDivU32 tokens.length config.blockTokenCount)).2.cache) ∧ _ :=
          undoable_loop (nextEpoch cache).operationEpoch ReserveState.cache
            (fun block inRange state reached keptNow cleanNow => ?_) kept.nextEpoch
            (clean_nextEpoch clean)
        · exact clean_rollbackUnlessOk loop.1 sequenceId loop.2
        · refine ⟨keptNow.reached Mode.filed_orderly
            ((Reached.refl keptNow.sound).reserveBlock id _ _ _ _ _),
            undoable_reserveBlock keptNow cleanNow sequenceId tokens allowCrossSequenceReuse
              capacity.isSome fun indexed => ?_⟩
          exact binds indexed arguments.1 arguments.2 (by simpa using roomy) block inRange state
            reached

end Reserve

section Calls

theorem clean_commitReservation (clean : Clean config cache)
    (sequenceId reservationEpoch : UInt64) :
    Clean config (commitReservation config cache sequenceId reservationEpoch).2 :=
  clean.later (noNewOrphan_settle
    (settled_commitReservation config cache sequenceId reservationEpoch))

section

variable (kept : Kept config (held, cache)) (clean : Clean config cache)
include kept clean

/-- A gentle part of a call. -/
theorem clean_still {now : Option Nat × Cache} (reached : Reached config True .still (held, cache) now) :
    Kept config now ∧ Clean config now.2 :=
  ⟨kept.reached (show Mode.still.orderly from trivial) reached,
    clean.later (noNewOrphan_reached kept.sound trivial (show Mode.still.gentle from trivial) reached)⟩

theorem clean_lookupPrompt (sequenceId : UInt64) (tokens : List UInt32) :
    Clean config (lookupPrompt config cache sequenceId tokens).2.2 := by
  have begun : Reached config True .still (held, cache) (held, cache) := .refl kept.sound
  have probed := begun.probePrompt sequenceId tokens
  unfold lookupPrompt
  dsimp only
  split
  · exact (clean_still kept clean probed).2
  · obtain ⟨bound, stillClean⟩ := clean_still kept clean (probed.nextEpoch.lookupBlocks _ _ _ _)
    exact clean_rollbackUnlessOk bound sequenceId (Clean.undoable stillClean)

theorem clean_bindCommittedPrefixFromSequence (sourceSequenceId targetSequenceId : UInt64) (tokenCount : Nat) :
    Clean config (bindCommittedPrefixFromSequence config cache sourceSequenceId targetSequenceId
      tokenCount).2 := by
  unfold bindCommittedPrefixFromSequence
  split
  · exact clean
  · split
    · exact clean
    · obtain ⟨bound, stillClean⟩ := clean_still kept clean
        ((Reached.refl kept.sound).nextEpoch.bindPrefix sourceSequenceId targetSequenceId
          (nextEpoch cache).operationEpoch tokenCount tokenCount 0)
      exact clean_rollbackUnlessOk bound targetSequenceId (Clean.undoable stillClean)

theorem clean_cancelReservation (sequenceId reservationEpoch : UInt64) :
    Clean config (cancelReservation config cache sequenceId reservationEpoch).2 := by
  unfold cancelReservation
  split
  · exact clean
  · split
    · exact clean
    · exact clean_rollbackEpoch kept sequenceId clean.orphansOf fun _ => clean

theorem clean_reserveAndCommit (sequenceId : UInt64) (tokens : List UInt32)
    (binds : ReserveBinds config cache sequenceId tokens none true) :
    Clean config (reserveAndCommit config cache sequenceId tokens).2.2 := by
  have reserved : Clean config (reservePrompt config cache sequenceId tokens none).2.2 :=
    clean_reservePromptInternal kept clean sequenceId tokens none true binds
  have keptReserved : Kept config (held, (reservePrompt config cache sequenceId tokens none).2.2) :=
    kept.reached Mode.filed_orderly
      ((Reached.refl kept.sound).reservePromptInternal id _ _ _ _)
  unfold reserveAndCommit
  dsimp only
  split
  · exact reserved
  · split
    · exact clean_commitReservation reserved _ _
    · have keptCommitted := keptReserved.reached Mode.filed_orderly
        ((Reached.refl keptReserved.sound).commitReservation id sequenceId
          (reservePrompt config cache sequenceId tokens none).2.1.reservationEpoch)
      exact clean_cancelReservation keptCommitted (clean_commitReservation reserved _ _) _ _

end

/-- The cache on which `CommitPrompt` reserves, when it gets that far. -/
def commitPromptBase (config : Configuration) (cache : Cache) (sequenceId : UInt64)
    (tokens : List UInt32) : Option Cache :=
  match findShortBinding config cache sequenceId tokens.length with
  | none => some cache
  | some (offset, short) =>
    let binding := cache.bindings short
    let previous := binding.entryIndex
    let entry := cache.entries previous
    let retained := retainLogicalBlock config cache entry.logicalBlockIndex
    let released := releaseBinding config (holdEntry retained.2 previous) short
    if config.entryCount ≤ previous ∨ binding.pending ∨ !entryIsCommitted config entry ∨
        entry.contentDigest ≠ digestBlock (blockTokens tokens offset entry.tokenCount) ∨
        retained.1 ≠ .ok ∨ released.1 ≠ .ok then none
    else some released.2

/-- The reservation inside a `CommitPrompt` finds a binding for what it installs. -/
def CommitBinds (config : Configuration) (cache : Cache) (sequenceId : UInt64)
    (tokens : List UInt32) : Prop :=
  ∀ base, commitPromptBase config cache sequenceId tokens = some base →
    ReserveBinds config base sequenceId tokens none true

/-- The second half of `CommitPrompt`: the entry it holds is not pending. -/
theorem clean_commitPromptHolding {previous : Nat} (kept : Kept config (some previous, cache))
    (clean : Clean config cache) (sequenceId : UInt64) (tokens : List UInt32)
    (previousEpoch : UInt64) (binds : ReserveBinds config cache sequenceId tokens none true) :
    Clean config (commitPromptHolding config cache sequenceId tokens previous previousEpoch).2.2 := by
  have committed := clean_reserveAndCommit kept clean sequenceId tokens binds
  have keptCommitted := kept.reached Mode.filed_orderly
    ((Reached.refl kept.sound).reserveAndCommit id id sequenceId tokens)
  unfold commitPromptHolding
  dsimp only
  generalize restored : (if (reserveAndCommit config cache sequenceId tokens).1 ≠ .ok then
    acquireEntryForSequence config (reserveAndCommit config cache sequenceId tokens).2.2 sequenceId
      previous previousEpoch false
    else (.ok, (reserveAndCommit config cache sequenceId tokens).2.2)) = result
  have reached : Reached config True .still
      (some previous, (reserveAndCommit config cache sequenceId tokens).2.2)
      (some previous, result.2) := by
    rw [← restored]
    split
    · exact (Reached.refl keptCommitted.sound).acquire _ _ _ _
        (fun _ => (keptCommitted.sound.counted.heldValid previous rfl).2)
        fun _ => ownReservation_settled (keptCommitted.sound.marked.heldSettled previous rfl) _ _
    · exact .refl keptCommitted.sound
  exact (clean_still keptCommitted committed (reached.step (.unhold previous))).2

/-- `CommitPrompt` holds the committed entry that its binding was on. -/
theorem Kept.holds {index : Nat} (kept : Kept config (none, cache)) (inRange : index < config.entryCount)
    (committed : entryIsCommitted config (cache.entries index) = true)
    (retained : (retainLogicalBlock config cache (cache.entries index).logicalBlockIndex).1 = .ok) :
    Reached config True .still (none, cache)
      (some index, holdEntry (retainLogicalBlock config cache (cache.entries index).logicalBlockIndex).2
        index) := by
  obtain ⟨valid, settled⟩ := entryIsCommitted_settled committed
  exact (Reached.refl kept.sound).step (.hold index inRange valid settled retained)

/-- The binding `CommitPrompt` replaces is on a committed entry, so releasing it makes no orphan. -/
theorem clean_commitPromptReplacing (kept : Kept config (none, cache)) (clean : Clean config cache)
    (sequenceId : UInt64) (tokens : List UInt32) {offset short : Nat}
    (found : findShortBinding config cache sequenceId tokens.length = some (offset, short))
    (binds : CommitBinds config cache sequenceId tokens) :
    Clean config (commitPromptReplacing config cache sequenceId tokens offset short).2.2 := by
  unfold commitPromptReplacing
  dsimp only
  split
  · exact clean
  · rename_i usable
    rw [not_or] at usable
    split
    · exact clean
    · rename_i committed
      rw [not_or] at committed
      split
      · rename_i failed
        rw [retainLogicalBlock_failed failed]
        exact clean
      · rename_i retained
        obtain ⟨keptHolding, cleanHolding⟩ := clean_still kept clean (kept.holds
          (Nat.lt_of_not_le usable.1) (by simpa using committed.1) (by simpa using retained))
        have keptReleased := keptHolding.step Mode.filed_orderly
          (.release short id)
        have cleanReleased : Clean config (releaseBinding config (holdEntry (retainLogicalBlock config
            cache (cache.entries (cache.bindings short).entryIndex).logicalBlockIndex).2
            (cache.bindings short).entryIndex) short).2 := by
          intro e orphan
          rcases orphan_release keptHolding orphan with ⟨earlier, -⟩ | ⟨here, -⟩
          · exact cleanHolding e earlier
          · have same : e = (cache.bindings short).entryIndex := by
              obtain ⟨arena, middle⟩ := retainLogicalBlock_arena config cache
                (cache.entries (cache.bindings short).entryIndex).logicalBlockIndex
              rw [middle] at here
              exact here
            have notPending := keptReleased.sound.marked.heldSettled e (congrArg some same.symm)
            exact Bool.noConfusion (notPending.symm.trans orphan.pending)
        split
        · exact (clean_still keptReleased cleanReleased
            ((Reached.refl keptReleased.sound).step (.unhold _))).2
        · rename_i released
          refine clean_commitPromptHolding keptReleased cleanReleased sequenceId tokens _
            (binds _ ?_)
          simp only [ne_eq, not_not] at retained released
          simp only [Bool.not_eq_true', Bool.not_eq_false, ne_eq, not_not] at usable committed
          unfold commitPromptBase
          rw [found]
          dsimp only
          rw [if_neg (by simp [usable, committed, retained, released])]

/-- A commit of a whole prompt. -/
theorem clean_commitPrompt (kept : Kept config (none, cache)) (clean : Clean config cache)
    (sequenceId : UInt64) (tokens : List UInt32)
    (binds : CommitBinds config cache sequenceId tokens) :
    Clean config (commitPrompt config cache sequenceId tokens).2.2 := by
  unfold commitPrompt
  split
  · exact clean
  · split
    · exact clean
    · dsimp only
      split
      · rename_i whole
        exact clean_reserveAndCommit kept clean sequenceId tokens
          (binds cache (by simp [commitPromptBase, whole]))
      · rename_i offset short found
        exact clean_commitPromptReplacing kept clean sequenceId tokens found binds

/-- What `EnsureSequenceTokenCapacity` installs for a block. -/
def ensureInstallation (config : Configuration) (sequenceId operationEpoch : UInt64) (first : Nat)
    (state : EnsureState) : Installation :=
  let blockHash := mixU64 (mixU64 state.parentHash sequenceId) (UInt64.ofNat first)
  { flags := { pending := true, liveOnly := true }
    key :=
      { parentHash := state.parentHash
        blockHash := blockHash
        contentHash := mixU64 blockHash operationEpoch
        firstTokenIndex := first
        tokenCount := config.blockTokenCount }
    contentDigest := List.replicate 32 0
    operationEpoch := operationEpoch }

/-- The first `count` iterations of the block loop of `EnsureSequenceTokenCapacity`. -/
def ensureLoop (config : Configuration) (cache : Cache) (sequenceId : UInt64) (tokenCount count : Nat) :
    SparkStatus × EnsureState :=
  forEach (ensureBlock config sequenceId (nextEpoch cache).operationEpoch tokenCount)
    (List.range count) { cache := nextEpoch cache, parentHash := emptyParentHash, short := none }

/-- At every block the call comes to, an entry that is installed finds a free binding. -/
def EnsureBinds (config : Configuration) (cache : Cache) (sequenceId : UInt64) (tokenCount : Nat) :
    Prop :=
  config.bindingHashBucketCount ≠ 0 → sequenceId ≠ 0 → tokenCount ≠ 0 →
  ∀ block < ceilDivU32 tokenCount config.blockTokenCount, ∀ state,
    ensureLoop config cache sequenceId tokenCount block = (.ok, state) →
    findBindingAtTokenOffset config state.cache sequenceId (block * config.blockTokenCount) = none →
    ∀ victim, selectVictim config state.cache = some victim →
    (installEntry config state.cache victim (ensureInstallation config sequenceId
      (nextEpoch cache).operationEpoch (block * config.blockTokenCount) state)).1 = .ok →
    findFreeBinding config state.cache ≠ none

theorem undoable_ensureInstall {state : EnsureState} (kept : Kept config (held, state.cache))
    (clean : Clean config state.cache) {sequenceId : UInt64} {first : Nat}
    (missing : findBindingAtTokenOffset config state.cache sequenceId first = none)
    (binds : config.bindingHashBucketCount ≠ 0 →
      ∀ victim, selectVictim config state.cache = some victim →
      (installEntry config state.cache victim
        (ensureInstallation config sequenceId operationEpoch first state)).1 = .ok →
      findFreeBinding config state.cache ≠ none) :
    Undoable config operationEpoch
      ((ensureInstall config sequenceId operationEpoch first state).1,
        (ensureInstall config sequenceId operationEpoch first state).2.cache) := by
  unfold ensureInstall
  split
  · exact clean.undoable
  · rename_i victim chosen
    have free := fun indexed => binds indexed victim chosen
    dsimp only
    split
    · rename_i failed
      exact Clean.undoable ((undoable_installThenAcquire kept clean true rfl rfl missing
        free).1 failed)
    · rename_i succeeded
      exact (undoable_installThenAcquire kept clean true rfl rfl missing free).2
        (not_not.mp succeeded)

theorem ensureBound_cache (required first binding : Nat) (state : EnsureState) :
    (ensureBound config required first binding state).2.cache = state.cache := by
  unfold ensureBound
  dsimp only
  split
  · rfl
  · split
    · rfl
    · split
      · split <;> rfl
      · rfl

theorem Kept.ensureInstall {state : EnsureState} (kept : Kept config (held, state.cache))
    (sequenceId operationEpoch : UInt64) (first : Nat) :
    Kept config (held,
      (PrefixCache.ensureInstall config sequenceId operationEpoch first state).2.cache) := by
  unfold PrefixCache.ensureInstall
  split
  · exact kept
  · rename_i victim _
    have installed : Kept config (held, (installEntry config state.cache victim
        (ensureInstallation config sequenceId operationEpoch first state)).2) :=
      kept.step Mode.filed_orderly
        (.install victim _ (fun _ => rfl) False.elim (fun _ => rfl) False.elim)
    dsimp only
    split
    · exact installed
    · rename_i succeeded
      have written := installEntry_written (not_not.mp succeeded)
      exact installed.step Mode.filed_orderly
        (.acquire sequenceId victim operationEpoch true (fun _ => congrArg EntryFlags.valid written.flags)
          fun _ _ _ => written.reservationEpoch)

/-- A loop that reserves is followed by the commit of what it reserved. -/
theorem Undoable.commitReservation {result : SparkStatus × Cache}
    (undoable : Undoable config operationEpoch result) (kept : Kept config (held, result.2))
    (sequenceId : UInt64) :
    Kept config (held, (andThen result fun now =>
        PrefixCache.commitReservation config now sequenceId operationEpoch).2) ∧
      Undoable config operationEpoch (andThen result fun now =>
        PrefixCache.commitReservation config now sequenceId operationEpoch) := by
  refine ⟨kept.reached Mode.filed_orderly (Reached.andThen
    (Reached.refl kept.sound) fun now reached => reached.commitReservation id _ _), ?_⟩
  by_cases succeeded : result.1 = .ok
  · rw [andThen_ok succeeded]
    exact Clean.undoable (clean_commitReservation (undoable.clean (.inl succeeded)) _ _)
  · rw [andThen_failed succeeded]
    exact undoable

/-- Growing a sequence reclaims what it installed when it fails. -/
theorem clean_ensureSequenceTokenCapacity (kept : Kept config (held, cache))
    (clean : Clean config cache) (sequenceId : UInt64) (tokenCount : Nat)
    (binds : EnsureBinds config cache sequenceId tokenCount) :
    Clean config (ensureSequenceTokenCapacity config cache sequenceId tokenCount).2 := by
  unfold ensureSequenceTokenCapacity
  split
  · exact clean
  · split
    · exact clean
    · rename_i arguments
      rw [not_or] at arguments
      dsimp only
      have loop : Kept config (held, (ensureLoop config cache sequenceId tokenCount
            (ceilDivU32 tokenCount config.blockTokenCount)).2.cache) ∧ _ :=
        undoable_loop (nextEpoch cache).operationEpoch EnsureState.cache
          (fun block inRange state reached keptNow cleanNow => ?_) kept.nextEpoch
          (clean_nextEpoch clean)
      · obtain ⟨keptCommitted, committed⟩ := loop.2.commitReservation loop.1 sequenceId
        have rolledBack := clean_rollbackUnlessOk keptCommitted sequenceId committed
        split
        · exact rolledBack.later (noNewOrphan_extend _ _ _ _)
        · exact rolledBack
      · unfold ensureBlock
        dsimp only
        split
        · rw [ensureBound_cache]
          exact ⟨keptNow, cleanNow.undoable⟩
        · rename_i missing
          exact ⟨keptNow.ensureInstall _ _ _, undoable_ensureInstall keptNow cleanNow missing
            fun indexed => binds indexed arguments.1 arguments.2 block inRange state reached missing⟩

end Calls

section Runs

/-- The condition of a call under which it finds a binding for every entry it installs. -/
def Operation.BindsInstalled (config : Configuration) (cache : Cache) : Operation → Prop
  | .reservePrompt sequenceId tokens capacity =>
    ReserveBinds config cache sequenceId tokens capacity true
  | .reserveSequencePrompt sequenceId tokens capacity =>
    ReserveBinds config cache sequenceId tokens capacity false
  | .commitPrompt sequenceId tokens => CommitBinds config cache sequenceId tokens
  | .ensureSequenceTokenCapacity sequenceId tokenCount =>
    EnsureBinds config cache sequenceId tokenCount
  | _ => True

/-- A run in which every call meets its condition. -/
def RunBindsInstalled (config : Configuration) : List Operation → Cache → Prop
  | [], _ => True
  | operation :: rest, cache =>
    operation.BindsInstalled config cache ∧
      RunBindsInstalled config rest (perform config cache operation).2

/-- No call but `Reset` leaves an orphan. -/
theorem clean_perform (kept : Kept config (none, cache)) (clean : Clean config cache)
    (operation : Operation) (other : operation ≠ .reset)
    (binds : operation.BindsInstalled config cache) :
    Clean config (perform config cache operation).2 := by
  have begun : Reached config True .still (none, cache) (none, cache) := .refl kept.sound
  cases operation with
  | probePrompt sequenceId tokens => exact (clean_still kept clean (begun.probePrompt _ _)).2
  | lookupPrompt sequenceId tokens => exact clean_lookupPrompt kept clean _ _
  | reservePrompt sequenceId tokens capacity | reserveSequencePrompt sequenceId tokens capacity =>
    exact clean_reservePromptInternal kept clean _ _ _ _ binds
  | commitReservation sequenceId epoch => exact clean_commitReservation clean _ _
  | cancelReservation sequenceId epoch => exact clean_cancelReservation kept clean _ _
  | commitPrompt sequenceId tokens => exact clean_commitPrompt kept clean _ _ binds
  | ensureSequenceTokenCapacity sequenceId tokenCount =>
    exact clean_ensureSequenceTokenCapacity kept clean _ _ binds
  | bindCommittedPrefixFromSequence source target tokenCount =>
    exact clean_bindCommittedPrefixFromSequence kept clean _ _ _
  | releaseSequence sequenceId => exact clean_releaseSequence kept clean _
  | probeLogicalBlockTable tokens capacity =>
    exact (clean_still kept clean (begun.probeLogicalBlockTable _ _)).2
  | probeReusablePrefixPrefetchSources tokens capacity =>
    exact (clean_still kept clean (begun.probeReusablePrefixPrefetchSources _ _)).2
  | probeReusablePrefixResidency tokens =>
    exact (clean_still kept clean (begun.probeReusablePrefixResidency _)).2
  | resetLookaheadProtection => exact (clean_still kept clean begun.resetLookaheadProtection).2
  | protectPromptLookahead tokens demandWeight =>
    exact (clean_still kept clean (begun.protectPromptLookahead _ _)).2
  | trimResidentBlocksByReuseScore maxResident guarded =>
    exact (clean_still kept clean (begun.trimResidentBlocksByReuseScore _ _)).2
  | tombstonePrompt tokens => exact (clean_still kept clean (begun.tombstonePrompt _)).2
  | expire nowSeconds => exact (clean_still kept clean (begun.expire _)).2
  | markResume tokens => exact (clean_still kept clean (begun.markResume _)).2
  | clearResume tokens => exact (clean_still kept clean (begun.clearResume _)).2
  | supersedeResume tokens recentCount anchorTokenCount =>
    exact (clean_still kept clean (begun.supersedeResume _ _ _)).2
  | importCommitted records allocated =>
    exact (clean_still kept clean (begun.importCommitted id _ _)).2
  | reset => exact absurd rfl other

theorem Fresh.kept (fresh : Fresh config cache) (sound : Sound config True none cache)
    (noError : cache.unlinkEntryErrorCount = 0)
    (arena : ∀ layout, config.kvCacheArena = some layout → ∃ before : Arena,
      cache.arena = before.startOver layout) :
    Kept config (none, cache) := by
  refine ⟨sound, fresh.entriesFiled noError, fun layout attached => ?_, fun layout attached => ?_,
    fun _ e inRange valid => ?_⟩
  · obtain ⟨before, left⟩ := arena layout attached
    refine fresh.owned ?_ (sound.arena layout attached).1
    rw [left]
    rfl
  · obtain ⟨before, left⟩ := arena layout attached
    rw [show (none, cache).2.arena = cache.arena from rfl, left]
    exact .startOver (Arena.nonempty_of_validate (sound.arena layout attached).1) before
  · change (cache.entries e).flags.valid = true at valid
    rw [fresh.entries e inRange] at valid
    cases valid

theorem Fresh.clean (fresh : Fresh config cache) : Clean config cache := by
  intro e orphan
  have valid := orphan.valid
  rw [fresh.entries e orphan.inRange] at valid
  cases valid

/-- Every pending entry is referred to. -/
def PendingReferenced (config : Configuration) (cache : Cache) : Prop :=
  ∀ e < config.entryCount, (cache.entries e).flags.valid = true →
    (cache.entries e).flags.pending = true → 1 ≤ (cache.entries e).referenceCount

/-- Every call of a tidy run keeps the invariant, `Reset` by starting over. -/
theorem Kept.perform (accepted : PrefixCache.validate config = .ok) (kept : Kept config (none, cache))
    (operation : Operation) (keeps : operation.KeepsBuckets config cache) :
    Kept config (none, (PrefixCache.perform config cache operation).2) := by
  by_cases isReset : operation = .reset
  · subst isReset
    obtain ⟨fresh, errors, arena⟩ := fresh_reset kept.sound accepted
    exact fresh.kept (sound_reset kept.sound accepted) (errors.trans kept.filed.noError)
      fun layout attached => ⟨_, (arena layout attached).2⟩
  · exact kept.reached Mode.filed_orderly
      (reached_perform (fun _ => kept.sound) operation isReset id False.elim fun _ => keeps)

theorem clean_run {operations : List Operation} (accepted : PrefixCache.validate config = .ok)
    (kept : Kept config (none, cache)) (clean : Clean config cache)
    (keeps : RunKeepsBuckets config (operations.map .call) cache)
    (binds : RunBindsInstalled config operations cache) :
    Clean config (run config (operations.map .call) cache) := by
  induction operations generalizing cache with
  | nil => exact clean
  | cons operation rest ih =>
    refine ih (kept.perform accepted operation keeps.1) ?_ keeps.2 binds.2
    by_cases isReset : operation = .reset
    · subst isReset
      exact (fresh_reset kept.sound accepted).1.clean
    · exact clean_perform kept clean operation isReset binds.1

/-- In every run whose growing calls keep their tails in their buckets and whose reserving calls
find a binding for every entry they install, every pending entry is referred to after every call,
whatever the call returned. -/
theorem pending_referenced (config : Configuration) (arena : Arena) (operations : List Operation)
    (accepted : Accepted config arena) (unused : ArenaUnused config arena)
    (keeps : RunKeepsBuckets config (operations.map .call) (initialCache config arena))
    (binds : RunBindsInstalled config operations (initialCache config arena)) :
    PendingReferenced config (run config (operations.map .call) (initialCache config arena)) := by
  have fresh := fresh_initialCache config arena
  have kept : Kept config (none, initialCache config arena) :=
    fresh.kept (sound_initialCache accepted fun _ => unused) rfl fun layout attached =>
      ⟨Arena.initial layout, unused layout attached⟩
  have clean := clean_run accepted.validate kept fresh.clean keeps binds
  intro e inRange valid pending
  have referenced : ((run config (operations.map .call) (initialCache config arena)).entries
      e).referenceCount ≠ 0 := fun unreferenced => clean e ⟨inRange, valid, pending, unreferenced⟩
  omega

theorem pending_referenced_oneBlock :
    PendingReferenced oneBlockConfiguration
      (run oneBlockConfiguration ([.reservePrompt 1 [2] none].map .call)
        (initialCache oneBlockConfiguration (Arena.initial oneBlockLayout))) := by
  refine pending_referenced oneBlockConfiguration (Arena.initial oneBlockLayout)
    [.reservePrompt 1 [2] none] accepted_oneBlock unused_oneBlock ⟨trivial, trivial⟩ ⟨?_, trivial⟩
  intro _ _ _ _ block inRange state reached _ _ _ _ _
  have first : block = 0 := by
    change block < 1 at inRange
    omega
  subst first
  cases reached
  decide

/-- Two entries, one binding, and buckets for both. -/
def oneBindingConfiguration : Configuration where
  blockTokenCount := 2
  entryCount := 2
  logicalBlockCount := 2
  sequenceBindingCount := 1
  kvCacheArena := none
  entryHashBucketCount := 2
  bindingHashBucketCount := 1
  clock := fun _ => 1

/-- A reservation of two blocks with one binding left fails at the second block. The rollback walks
the one binding there is, and the second entry stays pending with no reference. -/
theorem pending_not_always_referenced :
    ¬ ∀ (config : Configuration) (arena : Arena) (operations : List Operation),
      Accepted config arena → ArenaUnused config arena →
      PendingReferenced config
        (run config (operations.map .call) (initialCache config arena)) := by
  intro always
  have referenced := always oneBindingConfiguration (Arena.initial oneBlockLayout)
    [.reserveSequencePrompt 1 [1, 2, 3] none]
    ⟨by decide, fun _ attached => by cases attached⟩ (fun _ attached => by cases attached) 1 (by decide)
    (by decide +kernel) (by decide +kernel)
  revert referenced
  decide +kernel

end Runs

end Sparkpipe.PrefixCache
