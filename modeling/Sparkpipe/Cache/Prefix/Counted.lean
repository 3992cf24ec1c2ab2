import Sparkpipe.Cache.Prefix.Turnover
import Sparkpipe.Lib.Tally

/-!
# References

`Counted` says that the references of an entry are its valid bindings, plus one
while `CommitPrompt` holds the entry in place of a binding it has released, and
that a sequence has at most one binding at each offset. `ArenaCounted` says the
same of the blocks of an arena that only this cache uses. Both are kept by every
internal operation, whether it succeeds or fails; neither needs the bucket
chains of the entries.
-/

namespace Sparkpipe.PrefixCache

open Function
open Sparkpipe.KvCache (Layout Arena Holdings)

/-- The valid bindings of entry `index`. -/
def bindingsOf (config : Configuration) (counts : Counts) (index : Nat) : Nat :=
  tally config.sequenceBindingCount fun i => counts.bindingValid i && counts.bindingEntry i == index

/-- The valid bindings that hold block `block`. -/
def bindingsHolding (config : Configuration) (counts : Counts) (block : Nat) : Nat :=
  tally config.sequenceBindingCount fun i =>
    counts.bindingValid i && counts.bindingBlock i == some block

/-- The references of the entries; `held` is an entry with one reference that is no binding's. -/
structure Counted (config : Configuration) (held : Option Nat) (counts : Counts) : Prop where
  bound : ∀ i < config.sequenceBindingCount, counts.bindingValid i = true →
    counts.bindingEntry i < config.entryCount ∧ counts.entryValid (counts.bindingEntry i) = true ∧
      counts.bindingBlock i = counts.entryBlock (counts.bindingEntry i)
  references : ∀ index < config.entryCount, counts.referenceCount index =
    bindingsOf config counts index + if held = some index then 1 else 0
  unique : ∀ i < config.sequenceBindingCount, ∀ j < config.sequenceBindingCount,
    counts.bindingValid i = true → counts.bindingValid j = true →
    counts.sequenceId i = counts.sequenceId j → counts.firstTokenIndex i = counts.firstTokenIndex j →
    i = j
  heldValid : ∀ index, held = some index →
    index < config.entryCount ∧ counts.entryValid index = true

variable {config : Configuration} {held : Option Nat} {counts : Counts} {cache : Cache}

namespace Counted

/-- An entry no one may refer to: it is free, or it counts no references. -/
def Unreferenced (counts : Counts) (index : Nat) : Prop :=
  counts.entryValid index = true → counts.referenceCount index = 0

theorem not_held (counted : Counted config held counts) {index : Nat}
    (unreferenced : Unreferenced counts index) : held ≠ some index := by
  intro holds
  obtain ⟨inRange, valid⟩ := counted.heldValid index holds
  have references := counted.references index inRange
  rw [unreferenced valid, if_pos holds] at references
  omega

theorem not_bound (counted : Counted config held counts) {index : Nat}
    (unreferenced : Unreferenced counts index) {i : Nat} (inRange : i < config.sequenceBindingCount)
    (valid : counts.bindingValid i = true) : counts.bindingEntry i ≠ index := by
  rintro rfl
  obtain ⟨entryInRange, entryValid, -⟩ := counted.bound i inRange valid
  have references := counted.references _ entryInRange
  rw [unreferenced entryValid] at references
  have positive : 0 < bindingsOf config counts (counts.bindingEntry i) :=
    tally_pos inRange (by simp [valid])
  omega

/-- Rewriting an unreferenced entry: its validity and its block are free to change. -/
theorem rewrite (counted : Counted config held counts) {index : Nat} {valid : Bool}
    {block : Option Nat} (unreferenced : Unreferenced counts index) :
    Counted config held
      { counts with
        entryValid := update counts.entryValid index valid
        entryBlock := update counts.entryBlock index block
        referenceCount := update counts.referenceCount index 0 } := by
  refine ⟨fun i inRange bindingValid => ?_, fun other inRange => ?_, counted.unique, ?_⟩
  · have different := counted.not_bound unreferenced inRange bindingValid
    obtain ⟨entryInRange, entryValid, sameBlock⟩ := counted.bound i inRange bindingValid
    exact ⟨entryInRange, by simpa [different] using entryValid, by simpa [different] using sameBlock⟩
  · by_cases here : other = index
    · subst here
      have none : bindingsOf config counts other = 0 := by
        refine tally_eq_zero fun i bindingInRange => ?_
        cases bindingValid : counts.bindingValid i with
        | false => rfl
        | true => simp [counted.not_bound unreferenced bindingInRange bindingValid]
      have absent := counted.not_held unreferenced
      change update counts.referenceCount other 0 other = bindingsOf config counts other + _
      rw [update_self, none, if_neg absent]
    · change update counts.referenceCount index 0 other = _
      rw [update_of_ne here]
      exact counted.references other inRange
  · intro other holds
    obtain ⟨inRange, entryValid⟩ := counted.heldValid other holds
    have different : other ≠ index := by
      rintro rfl
      exact counted.not_held unreferenced holds
    exact ⟨inRange, by simpa [different] using entryValid⟩

variable (counted : Counted config held cache.counts)
include counted

theorem installed {index : Nat} {block : Option Nat}
    {after : Cache} (installed : Installed config index block cache after) :
    Counted config held after.counts := by
  rw [installed.counts]
  exact counted.rewrite installed.unreferenced

theorem invalidated {index : Nat} {after : Cache}
    (invalidated : Invalidated config index cache after) : Counted config held after.counts := by
  rw [invalidated.counts]
  exact counted.rewrite fun _ => invalidated.unreferenced

/-- A new binding on a valid entry, at an offset where the sequence has none. -/
theorem acquired (linked : Linked config cache.links)
    {sequenceId : UInt64} {index binding : Nat} {after : Cache}
    (valid : (cache.entries index).flags.valid = true)
    (acquired : Acquired config sequenceId index binding cache after) :
    Counted config held after.counts := by
  have free : cache.counts.bindingValid binding = false := acquired.free
  rw [acquired.counts]
  refine ⟨fun i inRange bindingValid => ?_, fun other inRange => ?_, ?_, counted.heldValid⟩
  · by_cases here : i = binding
    · subst here
      simp only [update_self]
      exact ⟨acquired.entryInRange, valid, trivial⟩
    · simp only [update_of_ne here] at bindingValid ⊢
      exact counted.bound i inRange bindingValid
  · have others : ∀ j < config.sequenceBindingCount, j ≠ binding →
        (update cache.counts.bindingValid binding true j &&
          update cache.counts.bindingEntry binding index j == other) =
        (cache.counts.bindingValid j && cache.counts.bindingEntry j == other) := by
      intro j _ different
      rw [update_of_ne different, update_of_ne different]
    have references := counted.references other inRange
    unfold bindingsOf at references ⊢
    dsimp only
    by_cases here : other = index
    · subst here
      rw [update_self, tally_gain acquired.inRange (by simp [free]) (by simp) others,
        references]
      omega
    · rw [update_of_ne here, references]
      congr 1
      refine (tally_congr fun j inRange => ?_).symm
      by_cases new : j = binding
      · subst new
        simp [free, Ne.symm here]
      · exact others j inRange new
  · have alone : ∀ j < config.sequenceBindingCount, cache.counts.bindingValid j = true →
        cache.counts.sequenceId j = sequenceId →
        cache.counts.firstTokenIndex j ≠ (cache.entries index).firstTokenIndex :=
      fun j inRange bindingValid sequence =>
        linked.findBinding_none acquired.missing inRange bindingValid sequence
    intro i iInRange j jInRange iValid jValid sequence first
    by_cases iNew : i = binding
    · by_cases jNew : j = binding
      · exact iNew.trans jNew.symm
      · simp only [iNew, update_self, update_of_ne jNew] at jValid sequence first
        exact absurd first.symm (alone j jInRange jValid sequence.symm)
    · by_cases jNew : j = binding
      · simp only [jNew, update_self, update_of_ne iNew] at iValid sequence first
        exact absurd first (alone i iInRange iValid sequence)
      · simp only [update_of_ne iNew, update_of_ne jNew] at *
        exact counted.unique i iInRange j jInRange iValid jValid sequence first

/-- A binding that is released takes its reference with it. -/
theorem released {index : Nat} {after : Cache}
    (released : Released config index cache after) : Counted config held after.counts := by
  have valid : cache.counts.bindingValid index = true := released.valid
  have entry : cache.counts.bindingEntry index = (cache.bindings index).entryIndex := rfl
  rw [released.counts]
  refine ⟨fun i inRange bindingValid => ?_, fun other inRange => ?_, ?_, counted.heldValid⟩
  · by_cases here : i = index
    · subst here
      simp at bindingValid
    · simp only [update_of_ne here] at bindingValid ⊢
      exact counted.bound i inRange bindingValid
  · have others : ∀ j < config.sequenceBindingCount, j ≠ index →
        (update cache.counts.bindingValid index false j &&
          update cache.counts.bindingEntry index noEntry j == other) =
        (cache.counts.bindingValid j && cache.counts.bindingEntry j == other) := by
      intro j _ different
      rw [update_of_ne different, update_of_ne different]
    have references := counted.references other inRange
    unfold bindingsOf at references ⊢
    dsimp only
    by_cases here : other = (cache.bindings index).entryIndex
    · subst here
      have lost := tally_lose released.inRange (by simp [valid, entry]) (by simp) others
      rw [update_self, references, lost]
      omega
    · rw [update_of_ne here, references]
      congr 1
      refine (tally_congr fun j inRange => ?_).symm
      by_cases gone : j = index
      · subst gone
        simp [entry, Ne.symm here]
      · exact others j inRange gone
  · intro i iInRange j jInRange iValid jValid sequence first
    have iOther : i ≠ index := by rintro rfl; simp at iValid
    have jOther : j ≠ index := by rintro rfl; simp at jValid
    simp only [update_of_ne iOther, update_of_ne jOther] at *
    exact counted.unique i iInRange j jInRange iValid jValid sequence first

end Counted

/-- The reference of the held entry to `block`. -/
def heldOn (held : Option Nat) (counts : Counts) (block : Nat) : Nat :=
  if held.bind counts.entryBlock = some block then 1 else 0

/-- The references of the arena's blocks. -/
structure ArenaCounted (config : Configuration) (layout : Layout) (held : Option Nat)
    (counts : Counts) (holdings : Holdings) : Prop where
  references : ∀ b < layout.logicalBlockCount,
    holdings.referenceCount b = bindingsHolding config counts b + heldOn held counts b
  boundAllocated : ∀ i < config.sequenceBindingCount, counts.bindingValid i = true →
    ∃ b < layout.logicalBlockCount, counts.bindingBlock i = some b ∧ holdings.allocated b = true
  heldAllocated : ∀ index, held = some index →
    ∃ b < layout.logicalBlockCount, counts.entryBlock index = some b ∧ holdings.allocated b = true

namespace ArenaCounted

variable {layout : Layout} {holdings : Holdings}

variable (arenaCounted : ArenaCounted config layout held counts holdings)
include arenaCounted

/-- Rewriting an entry that nobody refers to. -/
theorem rewrite (counted : Counted config held counts) {index : Nat} {valid : Bool} {block : Option Nat}
    (unreferenced : Counted.Unreferenced counts index) :
    ArenaCounted config layout held
      { counts with
        entryValid := update counts.entryValid index valid
        entryBlock := update counts.entryBlock index block
        referenceCount := update counts.referenceCount index 0 } holdings := by
  have absent := counted.not_held unreferenced
  have kept : ∀ other, held = some other →
      update counts.entryBlock index block other = counts.entryBlock other := by
    intro other holds
    refine update_of_ne ?_ _ _
    rintro rfl
    exact absent holds
  have sameHeld : held.bind (update counts.entryBlock index block) =
      held.bind counts.entryBlock := by
    cases holds : held with
    | none => rfl
    | some other => exact kept other holds
  refine ⟨fun b inRange => ?_, arenaCounted.boundAllocated, fun other holds => ?_⟩
  · have references := arenaCounted.references b inRange
    unfold heldOn at references ⊢
    dsimp only
    rw [sameHeld]
    exact references
  · dsimp only
    rw [kept other holds]
    exact arenaCounted.heldAllocated other holds

/-- Nobody refers to a block that counts no references or is not handed out. -/
theorem idle {block : Nat}
    (inRange : block < layout.logicalBlockCount)
    (idle : holdings.allocated block = false ∨ holdings.referenceCount block = 0) :
    bindingsHolding config counts block = 0 ∧ heldOn held counts block = 0 := by
  rcases idle with free | unreferenced
  · refine ⟨tally_eq_zero fun i bindingInRange => ?_, if_neg fun holds => ?_⟩
    · cases bindingValid : counts.bindingValid i with
      | false => rfl
      | true =>
        obtain ⟨b, -, here, allocated⟩ :=
          arenaCounted.boundAllocated i bindingInRange bindingValid
        have different : b ≠ block := by
          rintro rfl
          rw [free] at allocated
          cases allocated
        simp [here, different]
    · obtain ⟨index, holding, here⟩ := Option.bind_eq_some_iff.mp holds
      obtain ⟨b, -, there, allocated⟩ := arenaCounted.heldAllocated index holding
      rw [here, Option.some.injEq] at there
      subst there
      rw [free] at allocated
      cases allocated
  · have references := arenaCounted.references block inRange
    omega

/-- Handing out or taking back a block nobody refers to. -/
theorem handOver {block : Nat}
    {allocated : Bool} {freeNext : Nat → Option Nat} {freeHead : Option Nat}
    (inRange : block < layout.logicalBlockCount)
    (idle : holdings.allocated block = false ∨ holdings.referenceCount block = 0) :
    ArenaCounted config layout held counts
      { allocated := update holdings.allocated block allocated
        referenceCount := update holdings.referenceCount block 0
        freeNext := freeNext
        freeHead := freeHead } := by
  obtain ⟨unbound, unheld⟩ := arenaCounted.idle inRange idle
  refine ⟨fun b bInRange => ?_, fun i bindingInRange bindingValid => ?_, fun index holds => ?_⟩
  · by_cases here : b = block
    · subst here
      simp [unbound, unheld]
    · dsimp only
      rw [update_of_ne here]
      exact arenaCounted.references b bInRange
  · obtain ⟨b, bInRange, here, bAllocated⟩ :=
      arenaCounted.boundAllocated i bindingInRange bindingValid
    refine ⟨b, bInRange, here, ?_⟩
    have different : b ≠ block := by
      rintro rfl
      have positive : 0 < bindingsHolding config counts b :=
        tally_pos bindingInRange (by simp [bindingValid, here])
      omega
    simpa [different] using bAllocated
  · obtain ⟨b, bInRange, here, bAllocated⟩ := arenaCounted.heldAllocated index holds
    refine ⟨b, bInRange, here, ?_⟩
    have different : b ≠ block := by
      rintro rfl
      simp [heldOn, holds, here] at unheld
    simpa [different] using bAllocated

/-- A binding that is added retains its block. -/
theorem gain {binding index block : Nat} {sequenceId : UInt64} {first : Nat}
    {references : Nat → Nat} (free : counts.bindingValid binding = false)
    (inRange : binding < config.sequenceBindingCount)
    (here : counts.entryBlock index = some block) (blockInRange : block < layout.logicalBlockCount)
    (allocated : holdings.allocated block = true) :
    ArenaCounted config layout held
      { counts with
        referenceCount := references
        bindingValid := update counts.bindingValid binding true
        bindingEntry := update counts.bindingEntry binding index
        bindingBlock := update counts.bindingBlock binding (counts.entryBlock index)
        sequenceId := update counts.sequenceId binding sequenceId
        firstTokenIndex := update counts.firstTokenIndex binding first }
      { holdings with
        referenceCount := update holdings.referenceCount block
          (holdings.referenceCount block + 1) } := by
  refine ⟨fun b bInRange => ?_, fun i bindingInRange bindingValid => ?_,
    arenaCounted.heldAllocated⟩
  · have before := arenaCounted.references b bInRange
    have others : ∀ j < config.sequenceBindingCount, j ≠ binding →
        (update counts.bindingValid binding true j &&
          update counts.bindingBlock binding (counts.entryBlock index) j == some b) =
        (counts.bindingValid j && counts.bindingBlock j == some b) := by
      intro j _ different
      rw [update_of_ne different, update_of_ne different]
    unfold bindingsHolding at before ⊢
    change _ = _ + heldOn held counts b
    dsimp only
    by_cases same : b = block
    · subst same
      rw [update_self, tally_gain inRange (by simp [free]) (by simp [here]) others, before]
      omega
    · rw [update_of_ne same, before]
      congr 1
      refine (tally_congr fun j jInRange => ?_).symm
      by_cases new : j = binding
      · subst new
        simp [free, here, Ne.symm same]
      · exact others j jInRange new
  · by_cases new : i = binding
    · subst new
      exact ⟨block, blockInRange, by simpa using here, allocated⟩
    · simp only [update_of_ne new] at bindingValid ⊢
      exact arenaCounted.boundAllocated i bindingInRange bindingValid

/-- A binding that is released releases its block. -/
theorem lose {binding block : Nat} {references : Nat → Nat} (valid : counts.bindingValid binding = true)
    (inRange : binding < config.sequenceBindingCount)
    (here : counts.bindingBlock binding = some block) :
    ArenaCounted config layout held
      { counts with
        referenceCount := references
        bindingValid := update counts.bindingValid binding false
        bindingEntry := update counts.bindingEntry binding noEntry
        bindingBlock := update counts.bindingBlock binding none
        sequenceId := update counts.sequenceId binding 0
        firstTokenIndex := update counts.firstTokenIndex binding 0 }
      { holdings with
        referenceCount := update holdings.referenceCount block
          (holdings.referenceCount block - 1) } := by
  refine ⟨fun b bInRange => ?_, fun i bindingInRange bindingValid => ?_,
    arenaCounted.heldAllocated⟩
  · have before := arenaCounted.references b bInRange
    have others : ∀ j < config.sequenceBindingCount, j ≠ binding →
        (update counts.bindingValid binding false j &&
          update counts.bindingBlock binding none j == some b) =
        (counts.bindingValid j && counts.bindingBlock j == some b) := by
      intro j _ different
      rw [update_of_ne different, update_of_ne different]
    unfold bindingsHolding at before ⊢
    change _ = _ + heldOn held counts b
    dsimp only
    by_cases same : b = block
    · subst same
      have lost := tally_lose inRange (by simp [valid, here]) (by simp) others
      rw [update_self, before, lost]
      omega
    · rw [update_of_ne same, before]
      congr 1
      refine (tally_congr fun j jInRange => ?_).symm
      by_cases gone : j = binding
      · subst gone
        simp [here, Ne.symm same]
      · exact others j jInRange gone
  · by_cases gone : i = binding
    · subst gone
      simp at bindingValid
    · simp only [update_of_ne gone] at bindingValid ⊢
      exact arenaCounted.boundAllocated i bindingInRange bindingValid

end ArenaCounted

end Sparkpipe.PrefixCache
