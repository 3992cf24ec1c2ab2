import Sparkpipe.Cache.Prefix.Steps

/-!
# The public calls, traced

`Reached` is a run of internal operations that starts in a sound cache. Each
public call extends such a run, whatever status it returns. Growing a sequence is
traced in the module on growth, because it may end in a rewrite of an entry's key.
-/

namespace Sparkpipe.PrefixCache

open Sparkpipe.KvCache (Layout Arena)

/-- A later moment of a call that began in a sound cache. -/
structure Reached (config : Configuration) (exclusive : Prop) (mode : Mode)
    (before after : Option Nat × Cache) : Prop where
  steps : Relation.ReflTransGen (Step config mode) before after
  sound : mode.sound → Sound config exclusive after.1 after.2

variable {config : Configuration} {exclusive : Prop} {mode : Mode} {start : Option Nat × Cache}
variable {held : Option Nat} {cache : Cache}

/-- What every visit keeps, a walk along a sequence chain keeps. -/
theorem walkSequence_preserves {P : Cache → Prop} {visit : Nat → Cache → SparkStatus × Cache}
    {sequenceId : UInt64} (step : ∀ index cache, P cache → P (visit index cache).2)
    (holds : P cache) : P (walkSequence config cache sequenceId visit).2 := by
  have walk : ∀ fuel head (cache : Cache), P cache →
      P (forSequence config visit fuel head cache).2 := by
    intro fuel
    induction fuel with
    | zero => exact fun _ _ holds => holds
    | succ fuel ih =>
      intro head cache holds
      cases head with
      | none => exact holds
      | some index =>
        unfold forSequence
        split
        · exact holds
        · have visited := step index cache holds
          exact andThen_preserves visited fun _ => ih _ _ visited
  exact walk _ _ _ holds

section Entries

/-- A reusable entry is not pending. -/
theorem entryIsReusable_settled {entry : Entry} (reusable : entryIsReusable config entry = true) :
    entry.flags.pending = false := by
  simp only [entryIsReusable, Bool.and_eq_true, Bool.not_eq_true'] at reusable
  tauto

/-- A committed entry is valid and not pending. -/
theorem entryIsCommitted_settled {entry : Entry} (committed : entryIsCommitted config entry = true) :
    entry.flags.valid = true ∧ entry.flags.pending = false := by
  simp only [entryIsCommitted, entryIsReusable, Bool.not_eq_true', Bool.or_eq_true,
    Bool.and_eq_true] at committed
  tauto

section Found

variable {key : BlockKey} {contentDigest : List UInt8} {reusableOnly : Bool} {index : Nat}
variable (found : findEntry config cache key contentDigest reusableOnly = some index)
include found

/-- What `findEntry` finds passes its test. -/
theorem findEntry_matches : index < config.entryCount ∧
    entryMatches config cache key contentDigest reusableOnly index = true := by
  unfold findEntry at found
  split at found
  · exact Chain.search_some found
  · exact ⟨List.mem_range.mp (List.mem_of_find?_eq_some found), List.find?_some found⟩

/-- It has the key that is looked for. -/
theorem findEntry_key : (cache.entries index).key = key := by
  have matched := (findEntry_matches found).2
  simp only [entryMatches, Bool.and_eq_true, decide_eq_true_eq] at matched
  exact matched.1.1.2

/-- It is valid, and reusable if it is to be. -/
theorem findEntry_some : index < config.entryCount ∧ (cache.entries index).flags.valid = true ∧
      (reusableOnly = true → entryIsReusable config (cache.entries index) = true) := by
  obtain ⟨inRange, matched⟩ := findEntry_matches found
  simp only [entryMatches, Bool.and_eq_true] at matched
  refine ⟨inRange, matched.1.1.1, fun only => ?_⟩
  have reusable := matched.2
  rw [only] at reusable
  simpa using reusable

end Found

/-- An entry that is installed holds what was asked for. -/
theorem installEntry_written {index : Nat} {install : Installation}
    (succeeded : (installEntry config cache index install).1 = .ok) :
    Written install ((installEntry config cache index install).2.entries index) := by
  rcases installEntry_entries config cache index install with ⟨failed, -⟩ | ⟨-, -, written⟩
  · exact absurd succeeded failed
  · exact written

variable {sequenceId : UInt64} {offset index : Nat}
    (existing : existingEntry config cache sequenceId offset = some index)
include existing

/-- The entry that a sequence has at an offset is the one its binding there is on. -/
theorem existingEntry_some : ∃ binding, findBindingAtTokenOffset config cache sequenceId offset = some binding ∧
      (cache.bindings binding).entryIndex = index := by
  unfold existingEntry at existing
  split at existing
  · cases existing
  · rename_i binding found
    split at existing
    · cases existing
      exact ⟨binding, found, rfl⟩
    · cases existing

/-- The entry a binding is on is valid. -/
theorem Sound.existingEntry_valid (sound : Sound config exclusive held cache) :
    (cache.entries index).flags.valid = true := by
  obtain ⟨binding, found, rfl⟩ := existingEntry_some existing
  obtain ⟨inRange, valid, -, -⟩ := findBindingAtTokenOffset_some found
  exact (sound.counted.bound binding inRange valid).2.1

/-- The entry is at the offset, as its binding is. -/
theorem Sound.existingEntry_place (sound : Sound config exclusive held cache) :
    (cache.entries index).firstTokenIndex = offset := by
  obtain ⟨binding, found, rfl⟩ := existingEntry_some existing
  obtain ⟨inRange, valid, -, place⟩ := findBindingAtTokenOffset_some found
  exact (sound.marked.placed binding inRange valid).symm.trans place

/-- The sequence is bound to the entry of its own binding. -/
theorem Sound.existingEntry_own (sound : Sound config exclusive held cache) (operationEpoch : UInt64) :
    OwnReservation config cache sequenceId index operationEpoch := by
  obtain ⟨binding, found, -⟩ := existingEntry_some existing
  intro _ missing
  rw [sound.existingEntry_place existing, found] at missing
  cases missing

end Entries

section Commit

/-- Committing one entry moves its payload and clears its marks. -/
theorem settled_commitEntry (config : Configuration) (cache : Cache) (index : Nat)
    (reservationEpoch : UInt64) :
    Settled config cache (commitEntry config cache index reservationEpoch).2 := by
  unfold commitEntry
  dsimp only
  split
  · exact (Quiet.refl cache).settled
  · have resident : Settled config cache (markLogicalBlockResident config cache
        (cache.entries index).logicalBlockIndex).2 := by
      unfold markLogicalBlockResident onLogicalBlock
      split
      · exact (Quiet.refl cache).settled
      · rename_i layout block attached _
        refine ⟨rfl, rfl, rfl, .of_records rfl rfl, fun other same => ?_⟩
        rw [attached] at same
        cases same
        exact .resident .refl block
      · exact (Quiet.refl cache).settled
      · exact (Quiet.refl cache).settled
    refine andThen_preserves (P := Settled config cache) resident fun _ => resident.trans ?_
    dsimp only
    refine Quiet.settled (quiet_modifyEntry ?_ rfl rfl rfl rfl rfl fun pending => ?_)
    · dsimp only
      split <;> rfl
    · dsimp only at pending
      split at pending <;> cases pending

/-- Committing a reservation moves payloads and clears marks. -/
theorem settled_commitReservation (config : Configuration) (cache : Cache)
    (sequenceId reservationEpoch : UInt64) :
    Settled config cache (commitReservation config cache sequenceId reservationEpoch).2 := by
  have settle : ∀ (after : Cache) (index : Nat), Settled config cache after →
      Settled config cache (settleBinding after index) := fun after index settled =>
    settled.trans (quiet_modifyBinding rfl rfl rfl rfl rfl rfl rfl rfl rfl).settled
  have commit : ∀ (after : Cache) (index : Nat), Settled config cache after →
      Settled config cache (commitEntry config after index reservationEpoch).2 :=
    fun after index settled => settled.trans (settled_commitEntry config after index reservationEpoch)
  have unchanged : Settled config cache cache := (Quiet.refl cache).settled
  unfold commitReservation
  split
  · exact unchanged
  · split
    · exact unchanged
    · split
      · refine walkSequence_preserves (P := Settled config cache) (fun index after settled => ?_)
          unchanged
        dsimp only
        split
        · split
          · exact settled
          · exact andThen_preserves (P := Settled config cache) (commit after _ settled)
              fun _ => settle _ index (commit after _ settled)
        · exact settled
      · have committed := forEach_preserves (P := Settled config cache)
          (fun index (_ : index ∈ List.range config.entryCount) after settled =>
            commit after index settled) unchanged
        refine andThen_preserves (P := Settled config cache) committed fun _ =>
          forEach_preserves (P := Settled config cache) (fun index _ after settled => ?_) committed
        split
        · exact settle after index settled
        · exact settled

end Commit

namespace Reached

/-- A run of no operation. -/
theorem refl (sound : Sound config exclusive held cache) :
    Reached config exclusive mode (held, cache) (held, cache) := ⟨.refl, fun _ => sound⟩

/-- One more operation. -/
theorem step {now next : Option Nat × Cache} (reached : Reached config exclusive mode start now)
    (step : Step config mode now next) : Reached config exclusive mode start next :=
  ⟨reached.steps.tail step, fun known => (reached.sound known).step known step⟩

/-- Two calls one after the other, the second only if the first succeeds. -/
theorem andThen {call : SparkStatus × Cache} {rest : Cache → SparkStatus × Cache}
    (first : Reached config exclusive mode start (held, call.2))
    (second : ∀ cache, Reached config exclusive mode start (held, cache) →
      Reached config exclusive mode start (held, (rest cache).2)) :
    Reached config exclusive mode start (held, (Sparkpipe.andThen call rest).2) :=
  andThen_preserves (P := fun cache => Reached config exclusive mode start (held, cache)) first
    fun _ => second _ first

variable (reached : Reached config exclusive mode start (held, cache))

section

include reached

/-- A write of payloads or marks. -/
theorem quiet {after : Cache} (quiet : Quiet cache after) (write : Write config mode cache after) :
    Reached config exclusive mode start (held, after) :=
  reached.step (.settle quiet.settled write)

/-- A use of an entry is noted. -/
theorem touch (index : Nat) :
    Reached config exclusive mode start (held, touchEntry config cache index) :=
  reached.quiet (quiet_touchEntry config cache index) (.unfelt (.touchEntry config cache index))

/-- The next epoch begins. -/
theorem nextEpoch :
    Reached config exclusive mode start (held, PrefixCache.nextEpoch cache) :=
  reached.quiet ⟨rfl, rfl, rfl, rfl, .of_records rfl rfl⟩ (.unfelt (.beside rfl rfl))

/-- A loop of calls each of which extends the run. -/
theorem forEach {body : Nat → Cache → SparkStatus × Cache} {indices : List Nat}
    (body_reached : ∀ index cache, Reached config exclusive mode start (held, cache) →
      Reached config exclusive mode start (held, (body index cache).2)) :
    Reached config exclusive mode start (held, (Sparkpipe.forEach body indices cache).2) :=
  forEach_preserves (P := fun cache => Reached config exclusive mode start (held, cache))
    (fun index _ cache reached => body_reached index cache reached) reached

/-- A walk along a sequence chain. -/
theorem walkSequence {visit : Nat → Cache → SparkStatus × Cache} {sequenceId : UInt64}
    (visit_reached : ∀ index cache, Reached config exclusive mode start (held, cache) →
      Reached config exclusive mode start (held, (visit index cache).2)) :
    Reached config exclusive mode start
      (held, (PrefixCache.walkSequence config cache sequenceId visit).2) :=
  walkSequence_preserves (P := fun cache => Reached config exclusive mode start (held, cache))
    visit_reached reached

/-- A walk over the cached blocks of a prompt. -/
theorem walkPrompt {α : Type} {tokens : List UInt32} {maximum : Nat}
    {visit : Nat → α → Cache → SparkStatus × α × Cache}
    (visit_reached : ∀ index gathered cache, Reached config exclusive mode start (held, cache) →
      Reached config exclusive mode start (held, (visit index gathered cache).2.2))
    (fuel : Nat) (walk : Walk) (gathered : α) :
    Reached config exclusive mode start
      (held, (PrefixCache.walkPrompt config tokens maximum visit fuel walk gathered cache).2.2.2) := by
  induction fuel generalizing walk gathered cache with
  | zero => exact reached
  | succ fuel ih =>
    unfold PrefixCache.walkPrompt
    split
    · exact reached
    · rename_i index next after found
      have touched : after = touchEntry config cache index := by
        unfold walkNextBounded at found
        split at found
        · cases found
        · dsimp only at found
          split at found
          · cases found
          · cases found
            rfl
      have visited := visit_reached index gathered after (touched ▸ reached.touch index)
      dsimp only
      split
      · exact visited
      · exact ih visited _ _

end

section Rollback

section

include reached

/-- A binding is released. -/
theorem release (loud : ¬ mode.gentle) (index : Nat) :
    Reached config exclusive mode start (held, (releaseBinding config cache index).2) :=
  reached.step (.release index loud)

/-- An entry is invalidated. -/
theorem invalidate (index : Nat) :
    Reached config exclusive mode start (held, (invalidateEntry config cache index).2) :=
  reached.step (.invalidate index)

/-- Releasing a binding and then, if the test says so, the entry it was on. -/
theorem releaseThenInvalidate {unwanted : Entry → Bool} {entryIndex : Nat} (loud : ¬ mode.gentle)
    (index : Nat) :
    Reached config exclusive mode start
      (held, (Sparkpipe.andThen (releaseBinding config cache index) fun cache =>
        if unwanted (cache.entries entryIndex) then invalidateEntry config cache entryIndex
        else (.ok, cache)).2) := by
  refine (reached.release loud index).andThen fun cache released => ?_
  split
  · exact released.invalidate entryIndex
  · exact released

/-- What a sequence reserved in an epoch is undone. -/
theorem rollbackEpoch (loud : ¬ mode.gentle) (sequenceId operationEpoch : UInt64) :
    Reached config exclusive mode start
      (held, (PrefixCache.rollbackEpoch config cache sequenceId operationEpoch).2) := by
  unfold PrefixCache.rollbackEpoch
  split
  · refine reached.walkSequence fun index cache reached => ?_
    dsimp only
    split
    · exact reached.releaseThenInvalidate loud index
    · exact reached
  · refine Reached.andThen (reached.forEach fun index cache reached => ?_) fun cache reached =>
      reached.forEach fun index cache reached => ?_
    · split
      · exact reached.release loud index
      · exact reached
    · split
      · exact reached.invalidate index
      · exact reached

end

/-- A call that fails undoes what it reserved. -/
theorem rollbackUnlessOk {result : SparkStatus × Cache}
    (reached : Reached config exclusive mode start (held, result.2)) (loud : ¬ mode.gentle)
    (sequenceId operationEpoch : UInt64) :
    Reached config exclusive mode start
      (held, (PrefixCache.rollbackUnlessOk config sequenceId operationEpoch result).2) := by
  unfold PrefixCache.rollbackUnlessOk
  split
  · exact reached
  · exact reached.rollbackEpoch loud sequenceId operationEpoch

end Rollback

section Lookup

include reached

/-- A sequence is bound to an entry. -/
theorem acquire (sequenceId : UInt64)
    (index : Nat) (operationEpoch : UInt64) (pending : Bool)
    (valid : mode.sound → (cache.entries index).flags.valid = true)
    (own : mode.sound → OwnReservation config cache sequenceId index operationEpoch) :
    Reached config exclusive mode start
      (held, (acquireEntryForSequence config cache sequenceId index operationEpoch pending).2) :=
  reached.step (.acquire sequenceId index operationEpoch pending valid own)

/-- A probe only notes uses. -/
theorem probePrompt (sequenceId : UInt64)
    (tokens : List UInt32) :
    Reached config exclusive mode start (held, (PrefixCache.probePrompt config cache sequenceId tokens).2.2) := by
  unfold PrefixCache.probePrompt
  dsimp only
  split
  · exact reached
  · split
    · exact reached
    · exact reached.walkPrompt (fun _ _ _ reached => reached) _ _ _

/-- A lookup binds a block that it finds. -/
theorem lookupBlock {parentHash : UInt64}
    (sequenceId operationEpoch : UInt64) (tokens : List UInt32) (matched offset : Nat) :
    Reached config exclusive mode start (held, (PrefixCache.lookupBlock config sequenceId operationEpoch
      tokens matched offset (parentHash, cache)).2.2) := by
  unfold PrefixCache.lookupBlock
  dsimp only
  split
  · exact reached
  · rename_i index found
    obtain ⟨-, valid, reusable⟩ := findEntry_some found
    exact reached.acquire sequenceId index operationEpoch false (fun _ => valid)
      fun _ => ownReservation_settled (entryIsReusable_settled (reusable rfl)) _ _

/-- A lookup binds block after block. -/
theorem lookupBlocks (sequenceId operationEpoch : UInt64) (tokens : List UInt32) (matched : Nat) :
    Reached config exclusive mode start (held, (Sparkpipe.forEach (PrefixCache.lookupBlock config
      sequenceId operationEpoch tokens matched) (blockOffsets config matched)
      (emptyParentHash, cache)).2.2) :=
  forEach_preserves
    (P := fun state : UInt64 × Cache => Reached config exclusive mode start (held, state.2))
    (fun _ _ _ reached => reached.lookupBlock _ _ _ _ _) reached

/-- A lookup that fails is undone. -/
theorem lookupPrompt (loud : ¬ mode.gentle) (sequenceId : UInt64)
    (tokens : List UInt32) :
    Reached config exclusive mode start (held, (PrefixCache.lookupPrompt config cache sequenceId tokens).2.2) := by
  have probed := reached.probePrompt sequenceId tokens
  unfold PrefixCache.lookupPrompt
  dsimp only
  split
  · exact probed
  · exact Reached.rollbackUnlessOk (probed.nextEpoch.lookupBlocks _ _ _ _) loud _ _

end Lookup

section Reserve

include reached in
/-- An entry is installed. -/
theorem install (index : Nat) (install : Installation)
    (fresh : install.flags.pending = true → install.flags.reusable = false)
    (calm : mode.gentle → install.flags.pending = false)
    (alone : install.flags.liveOnly = true → install.flags.reusable = false)
    (closed : mode.uncommitted → install.flags.reusable = false) :
    Reached config exclusive mode start (held, (installEntry config cache index install).2) :=
  reached.step (.install index install fresh calm alone closed)

/-- A reservation binds the entry of a block. -/
theorem reserveAcquire (state : ReserveState)
    (reached : Reached config exclusive mode start (held, state.cache)) (sequenceId operationEpoch : UInt64)
    (table : Bool) (key : BlockKey) {index : Nat}
    (valid : mode.sound → (state.cache.entries index).flags.valid = true)
    (own : mode.sound → OwnReservation config state.cache sequenceId index operationEpoch) :
    Reached config exclusive mode start (held, (PrefixCache.reserveAcquire config sequenceId operationEpoch
      table key index state).2.cache) := by
  have acquired := reached.acquire sequenceId index operationEpoch
    (state.cache.entries index).flags.pending valid own
  unfold PrefixCache.reserveAcquire
  dsimp only
  split
  · exact acquired
  · exact acquired.touch index

/-- A reservation installs an entry and binds it. -/
theorem reserveInstall {state : ReserveState}
    (reached : Reached config exclusive mode start (held, state.cache)) (loud : ¬ mode.gentle)
    (sequenceId operationEpoch : UInt64)
    (allowCrossSequenceReuse table : Bool) (key : BlockKey) (contentDigest : List UInt8) :
    Reached config exclusive mode start (held, (PrefixCache.reserveInstall config sequenceId operationEpoch
      allowCrossSequenceReuse table key contentDigest state).2.cache) := by
  unfold PrefixCache.reserveInstall
  split
  · exact reached
  · rename_i victim _
    have installed := reached.install victim
      { flags := { pending := true, liveOnly := !allowCrossSequenceReuse }
        key := key
        contentDigest := contentDigest
        operationEpoch := operationEpoch } (fun _ => rfl) (fun gentle => absurd gentle loud) (fun _ => rfl)
      fun _ => rfl
    dsimp only
    split
    · exact installed
    · rename_i succeeded
      have written := installEntry_written (by simpa using succeeded)
      exact Reached.reserveAcquire _ installed _ _ _ _ (fun _ => by rw [written.flags]) fun _ _ _ =>
        written.reservationEpoch

/-- A reservation binds a block it finds or installs. -/
theorem reserveBlock {state : ReserveState}
    (reached : Reached config exclusive mode start (held, state.cache)) (loud : ¬ mode.gentle)
    (sequenceId operationEpoch : UInt64)
    (tokens : List UInt32) (allowCrossSequenceReuse table : Bool) :
    Reached config exclusive mode start (held, (PrefixCache.reserveBlock config sequenceId operationEpoch
      tokens allowCrossSequenceReuse table state).2.cache) := by
  unfold PrefixCache.reserveBlock
  dsimp only
  split
  · rename_i index existing
    split
    · exact reached
    · refine Reached.reserveAcquire _ ?_ _ _ _ _ ?_ ?_
      · exact reached
      · exact fun known => (reached.sound known).existingEntry_valid existing
      · exact fun known => (reached.sound known).existingEntry_own existing _
  · split
    · rename_i index found
      split at found
      · obtain ⟨-, valid, reusable⟩ := findEntry_some found
        refine Reached.reserveAcquire _ ?_ _ _ _ _ (fun _ => valid) fun _ => ?_
        · exact reached
        · exact ownReservation_settled (entryIsReusable_settled (reusable rfl)) _ _
      · cases found
    · exact reached.reserveInstall loud _ _ _ _ _ _

include reached in
/-- A reservation that fails is undone. -/
theorem reservePromptInternal (loud : ¬ mode.gentle) (sequenceId : UInt64) (tokens : List UInt32)
    (capacity : Option Nat) (allowCrossSequenceReuse : Bool) :
    Reached config exclusive mode start (held, (PrefixCache.reservePromptInternal config cache sequenceId
      tokens capacity allowCrossSequenceReuse).2.2) := by
  unfold PrefixCache.reservePromptInternal
  dsimp only
  split
  · exact reached
  · split
    · exact reached
    · split
      · exact reached
      · refine Reached.rollbackUnlessOk ?_ loud _ _
        exact forEach_preserves
          (P := fun state : ReserveState => Reached config exclusive mode start (held, state.cache))
          (fun _ _ state reached => reached.reserveBlock loud _ _ _ _ _) reached.nextEpoch

end Reserve

section Commit

section

include reached

/-- An entry of an epoch is committed. -/
theorem commitEntry (open_ : ¬ mode.uncommitted) (index : Nat) (reservationEpoch : UInt64) :
    Reached config exclusive mode start
      (held, (PrefixCache.commitEntry config cache index reservationEpoch).2) :=
  reached.step (.settle (settled_commitEntry config cache index reservationEpoch)
    (.commit index reservationEpoch open_))

/-- A binding is no longer pending. -/
theorem settleBinding (index : Nat) :
    Reached config exclusive mode start (held, PrefixCache.settleBinding cache index) :=
  reached.quiet (quiet_modifyBinding rfl rfl rfl rfl rfl rfl rfl rfl rfl) (.unfelt (.beside rfl rfl))

/-- What a sequence reserved in an epoch is committed. -/
theorem commitReservation (open_ : ¬ mode.uncommitted) (sequenceId reservationEpoch : UInt64) :
    Reached config exclusive mode start
      (held, (PrefixCache.commitReservation config cache sequenceId reservationEpoch).2) := by
  unfold PrefixCache.commitReservation
  split
  · exact reached
  split
  · exact reached
  split
  · refine reached.walkSequence fun index cache reached => ?_
    dsimp only
    split
    · split
      · exact reached
      · exact (reached.commitEntry open_ _ _).andThen fun cache reached => reached.settleBinding index
    · exact reached
  · refine Reached.andThen (reached.forEach fun index cache reached => reached.commitEntry open_ _ _)
      fun cache reached => reached.forEach fun index cache reached => ?_
    split
    · exact reached.settleBinding index
    · exact reached

/-- A reservation is cancelled. -/
theorem cancelReservation (loud : ¬ mode.gentle)
    (sequenceId reservationEpoch : UInt64) :
    Reached config exclusive mode start
      (held, (PrefixCache.cancelReservation config cache sequenceId reservationEpoch).2) := by
  unfold PrefixCache.cancelReservation
  split
  · exact reached
  · split
    · exact reached
    · exact reached.rollbackEpoch loud _ _

/-- A reservation is committed at once, or cancelled. -/
theorem reserveAndCommit (loud : ¬ mode.gentle) (open_ : ¬ mode.uncommitted)
    (sequenceId : UInt64) (tokens : List UInt32) :
    Reached config exclusive mode start
      (held, (PrefixCache.reserveAndCommit config cache sequenceId tokens).2.2) := by
  have reserved := reached.reservePromptInternal loud sequenceId tokens none true
  unfold PrefixCache.reserveAndCommit
  dsimp only
  split
  · exact reserved
  · have committed := reserved.commitReservation open_ sequenceId
      (reservePrompt config cache sequenceId tokens none).2.1.reservationEpoch
    split
    · exact committed
    · exact committed.cancelReservation loud _ _

end

/-- The second half of `CommitPrompt` lets go of the entry it holds. -/
theorem commitPromptHolding {previous : Nat}
    (reached : Reached config exclusive mode start (some previous, cache)) (loud : ¬ mode.gentle)
    (open_ : ¬ mode.uncommitted) (sequenceId : UInt64) (tokens : List UInt32) (previousEpoch : UInt64) :
    Reached config exclusive mode start (none, (PrefixCache.commitPromptHolding config cache sequenceId
      tokens previous previousEpoch).2.2) := by
  have committed := reached.reserveAndCommit loud open_ sequenceId tokens
  unfold PrefixCache.commitPromptHolding
  dsimp only
  suffices restored : Reached config exclusive mode start (some previous, _) from
    restored.step (.unhold previous)
  split
  · exact committed.acquire _ _ _ _ (fun known => ((committed.sound known).counted.heldValid previous rfl).2)
      fun known => ownReservation_settled ((committed.sound known).marked.heldSettled previous rfl) _ _
  · exact committed

/-- A commit that replaces the binding of a short tail. -/
theorem commitPromptReplacing (reached : Reached config exclusive mode start (none, cache)) (loud : ¬ mode.gentle)
    (open_ : ¬ mode.uncommitted) (sequenceId : UInt64) (tokens : List UInt32) (offset short : Nat) :
    Reached config exclusive mode start (none, (PrefixCache.commitPromptReplacing config cache sequenceId
      tokens offset short).2.2) := by
  unfold PrefixCache.commitPromptReplacing
  dsimp only
  split
  · exact reached
  · rename_i settledBinding
    split
    · exact reached
    · rename_i committed
      rw [not_or] at settledBinding committed
      split
      · rename_i failed
        rw [retainLogicalBlock_failed failed]
        exact reached
      · rename_i retained
        obtain ⟨valid, settled⟩ := entryIsCommitted_settled (by simpa using committed.1)
        have holding := reached.step (.hold (cache.bindings short).entryIndex
          (Nat.lt_of_not_le settledBinding.1) valid settled (by simpa using retained))
        have released := holding.release loud short
        split
        · exact released.step (.unhold _)
        · exact released.commitPromptHolding loud open_ _ _ _

/-- A commit with or without a short tail. -/
theorem commitPrompt (reached : Reached config exclusive mode start (none, cache)) (loud : ¬ mode.gentle)
    (open_ : ¬ mode.uncommitted) (sequenceId : UInt64) (tokens : List UInt32) :
    Reached config exclusive mode start (none, (PrefixCache.commitPrompt config cache sequenceId tokens).2.2) := by
  unfold PrefixCache.commitPrompt
  split
  · exact reached
  · split
    · exact reached
    · dsimp only
      split
      · exact reached.reserveAndCommit loud open_ _ _
      · exact reached.commitPromptReplacing loud open_ _ _ _ _

end Commit

section Share

include reached

/-- The committed blocks of a source are bound from an offset on. -/
theorem bindPrefix (sourceSequenceId targetSequenceId operationEpoch : UInt64) (tokenCount fuel offset : Nat) :
    Reached config exclusive mode start (held, (PrefixCache.bindPrefix config sourceSequenceId
      targetSequenceId operationEpoch tokenCount fuel offset cache).2) := by
  induction fuel generalizing offset cache with
  | zero => exact reached
  | succ fuel ih =>
    unfold PrefixCache.bindPrefix
    split
    · exact reached
    · split
      · exact reached
      · dsimp only
        split
        · exact reached
        · split
          · exact reached
          · rename_i usable
            rw [not_or] at usable
            split
            · exact reached
            · exact (reached.acquire _ _ _ _ (fun _ => by simpa using usable.1)
                fun _ => ownReservation_settled (by simpa using usable.2) _ _).andThen
                fun cache acquired => ih acquired _

/-- A prefix that cannot be bound whole is let go. -/
theorem bindCommittedPrefixFromSequence (loud : ¬ mode.gentle)
    (sourceSequenceId targetSequenceId : UInt64) (tokenCount : Nat) :
    Reached config exclusive mode start (held, (PrefixCache.bindCommittedPrefixFromSequence config cache
      sourceSequenceId targetSequenceId tokenCount).2) := by
  unfold PrefixCache.bindCommittedPrefixFromSequence
  split
  · exact reached
  · split
    · exact reached
    · exact (reached.nextEpoch.bindPrefix _ _ _ _ _ _).rollbackUnlessOk loud _ _

/-- All bindings of a sequence are released. -/
theorem releaseSequence (loud : ¬ mode.gentle)
    (sequenceId : UInt64) :
    Reached config exclusive mode start (held, (PrefixCache.releaseSequence config cache sequenceId).2) := by
  unfold PrefixCache.releaseSequence
  split
  · exact reached
  · split
    · exact reached
    · split
      · refine reached.walkSequence fun index cache reached => ?_
        dsimp only
        split
        · exact reached.releaseThenInvalidate loud index
        · exact reached
      · refine Reached.andThen (reached.forEach fun index cache reached => ?_) fun cache reached =>
          reached.forEach fun index cache reached => ?_
        · split
          · exact reached.release loud index
          · exact reached
        · split
          · exact reached.invalidate index
          · exact reached

end Share

section Maintenance

section

include reached

/-- A table of cached blocks only notes uses. -/
theorem probeLogicalBlockTable (tokens : List UInt32) (capacity : Nat) :
    Reached config exclusive mode start
      (held, (PrefixCache.probeLogicalBlockTable config cache tokens capacity).2.2.2) := by
  unfold PrefixCache.probeLogicalBlockTable
  split
  · exact reached
  · split
    · exact reached
    · dsimp only
      split <;> refine reached.walkPrompt (fun _ _ _ reached => ?_) _ _ _ <;> split <;> exact reached

/-- A list of blocks to prefetch only notes uses. -/
theorem probeReusablePrefixPrefetchSources (tokens : List UInt32) (capacity : Nat) :
    Reached config exclusive mode start
      (held, (PrefixCache.probeReusablePrefixPrefetchSources config cache tokens capacity).2.2.2) := by
  unfold PrefixCache.probeReusablePrefixPrefetchSources
  split
  · exact reached
  · split
    · exact reached
    · have visit : ∀ index (sources : List Nat) cache,
          Reached config exclusive mode start (held, cache) →
          Reached config exclusive mode start (held, (if capacity ≤ sources.length then
              (SparkStatus.capacityExceeded, sources, cache)
            else if fillPrefetchSourceBlock config cache index ≠ .ok then
              (fillPrefetchSourceBlock config cache index, sources, cache)
            else (.ok, sources ++ [index], cache)).2.2) := by
        intro index sources cache reached
        split
        · exact reached
        · split <;> exact reached
      dsimp only
      split
      · exact reached.walkPrompt visit _ _ _
      · exact reached.walkPrompt visit _ _ _

/-- A count of resident blocks only notes uses. -/
theorem probeReusablePrefixResidency (tokens : List UInt32) :
    Reached config exclusive mode start
      (held, (PrefixCache.probeReusablePrefixResidency config cache tokens).2.2.2) := by
  unfold PrefixCache.probeReusablePrefixResidency
  split
  · exact reached
  · split
    · exact reached
    · refine reached.walkPrompt (fun _ _ _ reached => ?_) _ _ _
      split <;> exact reached

/-- The protection of all entries ends. -/
theorem resetLookaheadProtection :
    Reached config exclusive mode start (held, (PrefixCache.resetLookaheadProtection config cache).2) := by
  unfold PrefixCache.resetLookaheadProtection
  split
  · exact reached
  · split
    · exact reached.quiet ⟨rfl, rfl, rfl, rfl, .of_records rfl rfl⟩ (.unfelt (.beside rfl rfl))
    · have kept : ∀ {α : Type} (field : Entry → α),
          (∀ entry epoch priority requests, field { entry with
            lookaheadProtectionEpoch := epoch
            lookaheadPriority := priority
            lookaheadRequestCount := requests } = field entry) →
          (fun index => field (if index < config.entryCount then
              { cache.entries index with
                lookaheadProtectionEpoch := 0
                lookaheadPriority := 0
                lookaheadRequestCount := 0 }
            else cache.entries index)) = fun index => field (cache.entries index) := by
        intro α field blind
        funext index
        split
        · exact blind _ _ _ _
        · rfl
      refine reached.quiet ⟨?_, ?_, ?_, rfl, fun i pending => ?_, fun _ => rfl⟩
        (.unfelt ⟨fun i => ⟨?_, ?_, ?_, ?_⟩, rfl⟩)
      · simp only [Cache.links, kept Entry.reserved (fun _ _ _ _ => rfl),
          kept (fun entry => entry.flags.valid) (fun _ _ _ _ => rfl)]
      · simp only [Cache.counts, kept Entry.logicalBlockIndex (fun _ _ _ _ => rfl),
          kept Entry.referenceCount (fun _ _ _ _ => rfl),
          kept (fun entry => entry.flags.valid) (fun _ _ _ _ => rfl)]
      · simp only [Cache.filing, kept Entry.key (fun _ _ _ _ => rfl),
          kept Entry.hashNext (fun _ _ _ _ => rfl),
          kept (fun entry => entry.flags.valid) (fun _ _ _ _ => rfl)]
      · have flags := congrFun (kept Entry.flags fun _ _ _ _ => rfl) i
        have epoch := congrFun (kept Entry.reservationEpoch fun _ _ _ _ => rfl) i
        exact ⟨(congrArg EntryFlags.pending flags).symm.trans pending, epoch, fun reusable =>
          (congrArg EntryFlags.reusable flags).symm.trans reusable⟩
      · exact congrFun (kept Entry.flags fun _ _ _ _ => rfl) i
      · exact congrFun (kept Entry.key fun _ _ _ _ => rfl) i
      · exact congrFun (kept Entry.contentDigest fun _ _ _ _ => rfl) i
      · exact congrFun (kept Entry.hashNext fun _ _ _ _ => rfl) i

/-- An entry is protected. -/
theorem protectEntry (index demandWeight : Nat) :
    Reached config exclusive mode start (held, PrefixCache.protectEntry cache index demandWeight) := by
  refine reached.quiet (quiet_modifyEntry ?_ ?_ ?_ ?_ ?_ ?_ ?_) (.unfelt (.entry rfl rfl ?_))
  rotate_right 2
  · split <;> exact fun pending => ⟨pending, rfl, id⟩
  · dsimp only
    split <;> exact ⟨rfl, rfl, rfl, rfl⟩
  all_goals split <;> rfl

/-- The cached blocks of a prompt are protected. -/
theorem protectPromptLookahead (tokens : List UInt32) (demandWeight : Nat) :
    Reached config exclusive mode start
      (held, (PrefixCache.protectPromptLookahead config cache tokens demandWeight).2.2) := by
  unfold PrefixCache.protectPromptLookahead
  split
  · exact reached
  · split
    · exact reached
    · refine Reached.walkPrompt ?_ (fun _ _ _ reached => reached.protectEntry _ _) _ _ _
      split
      · exact reached.resetLookaheadProtection
      · exact reached

end

/-- Blocks are parked until the limit is met. -/
theorem trimByReuseScore {layout : Layout} (attached : config.kvCacheArena = some layout)
    (maxResident : Nat) (guarded : List Nat) (fuel evicted : Nat)
    (reached : Reached config exclusive mode start (held, cache)) :
    Reached config exclusive mode start (held, (PrefixCache.trimByReuseScore config layout maxResident
      guarded fuel evicted cache).2.2) := by
  induction fuel generalizing evicted cache with
  | zero => exact reached
  | succ fuel ih =>
    unfold PrefixCache.trimByReuseScore
    split
    · exact reached
    · split
      · exact reached
      · rename_i victim _
        have dropped : Reached config exclusive mode start (held, { cache with
            arena := (cache.arena.markBlockNonResident layout victim.logicalBlockIndex).2 }) := by
          refine reached.step (.settle ⟨rfl, rfl, rfl, .of_records rfl rfl, fun other same => ?_⟩
            (.unfelt (.beside rfl rfl)))
          rw [attached] at same
          cases same
          exact .nonResident .refl _
        dsimp only
        split
        · exact ih _ dropped
        · split
          · exact dropped
          · exact ih _ dropped

section

include reached

/-- Blocks are parked where there is an arena. -/
theorem trimResidentBlocksByReuseScore (maxResident : Nat) (guarded : List Nat) :
    Reached config exclusive mode start (held, (PrefixCache.trimResidentBlocksByReuseScore config cache
      maxResident guarded).2.2) := by
  unfold PrefixCache.trimResidentBlocksByReuseScore
  split
  · exact reached
  · split
    · exact reached
    · rename_i layout attached
      split
      · exact reached
      · exact reached.trimByReuseScore attached _ _ _ _

/-- The last block of a prompt is retired. -/
theorem tombstonePrompt (tokens : List UInt32) :
    Reached config exclusive mode start (held, (PrefixCache.tombstonePrompt config cache tokens).2) := by
  unfold PrefixCache.tombstonePrompt
  split
  · exact reached
  · split
    · exact reached
    · dsimp only
      generalize walked : PrefixCache.walkPrompt config tokens tokens.length _ _ _ _ cache = result
      have reached : Reached config exclusive mode start (held, result.2.2.2) :=
        walked ▸ reached.walkPrompt (fun _ _ _ reached => reached) _ _ _
      split
      · exact reached
      · rename_i index _
        split
        · exact reached
        · have marked : Reached config exclusive mode start (held, modifyEntry result.2.2.2 index
              fun entry => { entry with flags := { entry.flags with reusable := false, stale := true } }) :=
            reached.quiet (quiet_modifyEntry rfl rfl rfl rfl rfl rfl fun pending =>
              ⟨pending, rfl, fun reusable => by cases reusable⟩) (.stale index)
          split
          · exact marked.invalidate index
          · exact marked

/-- Old entries are invalidated. -/
theorem expire (nowSeconds : Nat) :
    Reached config exclusive mode start (held, (PrefixCache.expire config cache nowSeconds).2) := by
  refine reached.forEach fun index cache reached => ?_
  split
  · exact reached
  · exact reached.invalidate index

/-- A mark is set or cleared. -/
theorem setResume (index : Nat)
    (resume : Bool) :
    Reached config exclusive mode start (held, PrefixCache.setResume cache index resume) :=
  reached.quiet (quiet_modifyEntry rfl rfl rfl rfl rfl rfl fun pending => ⟨pending, rfl, id⟩) (.setResume index resume)

/-- A hint at a marked block is set. -/
theorem setResumeChild (index : Nat) :
    Reached config exclusive mode start (held, PrefixCache.setResumeChild cache index) :=
  reached.quiet (quiet_modifyEntry rfl rfl rfl rfl rfl rfl fun pending => ⟨pending, rfl, id⟩) (.setResumeChild index)

/-- The block of a prompt is marked. -/
theorem markResume (tokens : List UInt32) :
    Reached config exclusive mode start (held, (PrefixCache.markResume config cache tokens).2) := by
  unfold PrefixCache.markResume
  split
  · exact reached
  · split
    · exact reached
    · split
      · exact reached
      · exact reached
      · dsimp only
        split
        · exact reached.setResume _ _
        · split
          · exact (reached.setResume _ _).setResumeChild _
          · exact reached.setResume _ _

/-- The mark of a prompt is cleared. -/
theorem clearResume (tokens : List UInt32) :
    Reached config exclusive mode start (held, (PrefixCache.clearResume config cache tokens).2) := by
  unfold PrefixCache.clearResume
  split
  · exact reached
  · split
    · exact reached
    · split
      · exact reached
      · exact reached
      · exact reached.setResume _ _

/-- Marks in the window are cleared from a block on. -/
theorem supersedeBlocks (tokens : List UInt32) (window anchor : Nat) (offsets : List Nat) (parentHash : UInt64)
    (kept : List (Nat × Nat)) (superseded : Nat) :
    Reached config exclusive mode start (held, (PrefixCache.supersedeBlocks config tokens window anchor
      offsets parentHash kept superseded cache).2) := by
  induction offsets generalizing parentHash kept superseded cache with
  | nil => exact reached
  | cons offset rest ih =>
    unfold PrefixCache.supersedeBlocks
    split
    · exact reached
    · dsimp only
      split
      · exact ih reached _ _ _
      · split
        · exact ih reached _ _ _
        · split
          · exact reached
          · split
            · exact ih (reached.setResume _ _) _ _ _
            · exact ih reached _ _ _

/-- Older marks of a prompt are cleared. -/
theorem supersedeResume (tokens : List UInt32) (recentCount anchorTokenCount : Nat) :
    Reached config exclusive mode start (held, (PrefixCache.supersedeResume config cache tokens recentCount
      anchorTokenCount).2.2) := by
  unfold PrefixCache.supersedeResume
  split
  · exact reached
  · split
    · exact reached
    · exact reached.supersedeBlocks _ _ _ _ _ _ _

end

/-- An imported record is installed. -/
theorem importInstall {state : ImportState}
    (reached : Reached config exclusive mode start (held, state.cache)) (open_ : ¬ mode.uncommitted)
    (record : CommittedRecord)
    (parent : Option Nat) :
    Reached config exclusive mode start
      (held, (PrefixCache.importInstall config record parent state).cache) := by
  unfold PrefixCache.importInstall
  split
  · exact reached
  · rename_i index _
    have installed := reached.nextEpoch.install index
      { flags := { reusable := true, resume := record.resume }
        key := record.key
        contentDigest := record.contentDigest
        operationEpoch := (PrefixCache.nextEpoch state.cache).operationEpoch }
      (fun pending => by cases pending) (fun _ => rfl) nofun fun closed => absurd closed open_
    dsimp only
    split
    · exact installed
    · have noted : Reached config exclusive mode start (held, modifyEntry (installEntry config
          (PrefixCache.nextEpoch state.cache) index
          { flags := { reusable := true, resume := record.resume }
            key := record.key
            contentDigest := record.contentDigest
            operationEpoch := (PrefixCache.nextEpoch state.cache).operationEpoch }).2 index fun entry =>
          { entry with
            committedEpoch := (PrefixCache.nextEpoch state.cache).operationEpoch
            usedSeconds := record.usedSeconds }) :=
        installed.quiet (quiet_modifyEntry rfl rfl rfl rfl rfl rfl fun pending => ⟨pending, rfl, id⟩)
          (.unfelt (.entry rfl rfl ⟨rfl, rfl, rfl, rfl⟩))
      split
      · split
        · exact noted.setResumeChild _
        · exact noted
      · exact noted

/-- A record is imported, or passed over. -/
theorem importRecord {state : ImportState}
    (reached : Reached config exclusive mode start (held, state.cache)) (open_ : ¬ mode.uncommitted) (nowSeconds : Nat)
    (record : CommittedRecord) :
    Reached config exclusive mode start
      (held, (PrefixCache.importRecord config nowSeconds state record).cache) := by
  unfold PrefixCache.importRecord
  split
  · exact reached
  · split
    · exact reached.importInstall open_ _ _
    · split
      · exact reached
      · exact reached.importInstall open_ _ _

include reached in
/-- Records are imported one by one. -/
theorem importCommitted (open_ : ¬ mode.uncommitted) (records : List CommittedRecord) (allocated : Bool) :
    Reached config exclusive mode start
      (held, (PrefixCache.importCommitted config cache records allocated).2.2) := by
  have read : Reached config exclusive mode start
      (held, { cache with clockReadings := cache.clockReadings + 1 }) :=
    reached.quiet ⟨rfl, rfl, rfl, rfl, .of_records rfl rfl⟩ (.unfelt (.beside rfl rfl))
  have loop : ∀ (state : ImportState), Reached config exclusive mode start (held, state.cache) →
      Reached config exclusive mode start (held, (records.foldl
        (PrefixCache.importRecord config (config.clock cache.clockReadings)) state).cache) := by
    induction records with
    | nil => exact fun state reached => reached
    | cons record rest ih => exact fun state reached => ih _ (reached.importRecord open_ _ _)
  unfold PrefixCache.importCommitted
  dsimp only
  split
  · exact read
  · split
    · exact read
    · exact loop _ read

end Maintenance

end Reached

end Sparkpipe.PrefixCache
