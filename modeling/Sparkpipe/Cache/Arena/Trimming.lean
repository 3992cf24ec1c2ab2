import Sparkpipe.Cache.Arena.Plans
import Sparkpipe.Cache.Arena.Victims

/-!
# Eviction down to a target

What the two loops that evict do, as derivations: which victim each pass takes, and where the loop ends. Each loop
has such a derivation, so it ends, and what every pass keeps is kept.
-/

namespace Sparkpipe.KvCache

open Function

namespace Arena

variable {layout : Layout} {arena : Arena} {guarded : List Nat} {index target : Nat} {owners : Nat → Nat}

section Trimming

/-- A victim of `SparkKvCacheArenaTrimResidentBlocks`: blocks whose park failed are the last resort. -/
structure Chosen (layout : Layout) (arena : Arena) (guarded : List Nat) (lastResort : Bool) (index : Nat) : Prop where
  worst : arena.Worst layout (arena.Trimmable layout guarded lastResort) index
  resort : lastResort = true → layout.evictFunction.isSome = true ∧ ∀ b, ¬ arena.Trimmable layout guarded false b

/-- The passes of `SparkKvCacheArenaTrimResidentBlocks` and what they end with. -/
inductive Trims (layout : Layout) (guarded : List Nat) (target : Nat) : Arena → SparkStatus × Arena → Prop
  | met {arena : Arena} (below : arena.residentBlockCount ≤ target) : Trims layout guarded target arena (.ok, arena)
  | exhausted {arena : Arena} (above : target < arena.residentBlockCount)
      (none : ∀ b, ¬ arena.Trimmable layout guarded false b)
      (noResort : layout.evictFunction.isSome = true → ∀ b, ¬ arena.Trimmable layout guarded true b) :
      Trims layout guarded target arena (.capacityExceeded, arena)
  | passed {arena : Arena} {lastResort : Bool} {index : Nat} {result : SparkStatus × Arena}
      (above : target < arena.residentBlockCount) (chosen : arena.Chosen layout guarded lastResort index)
      (goesOn : (arena.evictResidentBlock layout index).1 = .ok ∨
        (arena.evictResidentBlock layout index).1 = .ioError ∧ lastResort = false)
      (rest : Trims layout guarded target (arena.evictResidentBlock layout index).2 result) :
      Trims layout guarded target arena result
  | stalled {arena : Arena} {index : Nat} (above : target < arena.residentBlockCount)
      (chosen : arena.Chosen layout guarded true index)
      (failed : (arena.evictResidentBlock layout index).1 = .ioError) :
      Trims layout guarded target arena (.ioError, { (arena.evictResidentBlock layout index).2 with
        parkStallCount := (arena.evictResidentBlock layout index).2.parkStallCount + 1
        parkDegraded := true })
  | stopped {arena : Arena} {lastResort : Bool} {index : Nat} (above : target < arena.residentBlockCount)
      (chosen : arena.Chosen layout guarded lastResort index)
      (failed : (arena.evictResidentBlock layout index).1 ≠ .ok)
      (other : (arena.evictResidentBlock layout index).1 ≠ .ioError) :
      Trims layout guarded target arena (arena.evictResidentBlock layout index)

/-- What the tests of a candidate say. -/
theorem blockIsEvictable_iff {parkFailed : Bool} : arena.blockIsEvictable layout guarded parkFailed index = true ↔
    ((arena.blocks index).allocated = true ∧ (arena.blocks index).resident = true ∧
      (arena.blocks index).residencyReserved = false ∧ (arena.blocks index).residencyReferenceCount = 0) ∧
    (arena.blocks index).parkFailed = parkFailed ∧
    (layout.evictFunction.isSome = true ∨ (arena.blocks index).referenceCount = 0) ∧ index ∉ guarded := by
  simp [blockIsEvictable, and_assoc]

/-- The passes that trimming can still make: one for each block in a slot, and one more if its park did not fail. -/
def pressure (layout : Layout) (arena : Arena) : Nat :=
  tally layout.residentBlockCapacity (fun slot => (arena.residentSlots slot).isSome) +
    tally layout.residentBlockCapacity fun slot =>
      ((arena.residentSlots slot).map fun b => !(arena.blocks b).parkFailed).getD false

theorem pressure_le (layout : Layout) (arena : Arena) : arena.pressure layout ≤ 2 * layout.residentBlockCapacity := by
  have slots := tally_le layout.residentBlockCapacity fun slot => (arena.residentSlots slot).isSome
  have fresh := tally_le layout.residentBlockCapacity fun slot =>
    ((arena.residentSlots slot).map fun b => !(arena.blocks b).parkFailed).getD false
  rw [pressure]
  omega

/-- A block is in one slot. -/
theorem Reserving.apart {strict : Prop} (reserving : Reserving layout strict owners arena) {slot other : Nat}
    (inCapacity : slot < layout.residentBlockCapacity) (otherInCapacity : other < layout.residentBlockCapacity)
    (held : arena.residentSlots slot = some index) (different : other ≠ slot) :
    arena.residentSlots other ≠ some index := by
  intro there
  have own := (reserving.back slot inCapacity index held).2.1
  rw [(reserving.back other otherInCapacity index there).2.1] at own
  exact different (Option.some.inj own)

/-- The first pass ends the loop, or takes a victim and goes on. -/
def FirstPass (layout : Layout) (guarded : List Nat) (target : Nat) (arena : Arena) : Prop :=
  (∃ result, Trims layout guarded target arena result ∧
      ∀ fuel, trimResidentBlocks layout guarded target (fuel + 1) arena = result) ∨
    ∃ lastResort index, target < arena.residentBlockCount ∧ arena.Chosen layout guarded lastResort index ∧
      ((arena.evictResidentBlock layout index).1 = .ok ∨
        (arena.evictResidentBlock layout index).1 = .ioError ∧ lastResort = false) ∧
      ∀ fuel, trimResidentBlocks layout guarded target (fuel + 1) arena =
        trimResidentBlocks layout guarded target fuel (arena.evictResidentBlock layout index).2

/-- What every eviction of a chosen victim keeps, trimming keeps. -/
theorem Trims.preserves {P : Arena → Prop} {result : SparkStatus × Arena}
    (trims : Trims layout guarded target arena result) (start : P arena)
    (evicts : ∀ now lastResort index, P now → now.Chosen layout guarded lastResort index →
      P (now.evictResidentBlock layout index).2)
    (stalls : ∀ now : Arena, P now → P { now with
      parkStallCount := now.parkStallCount + 1
      parkDegraded := true }) : P result.2 := by
  induction trims with
  | met below => exact start
  | exhausted above none noResort => exact start
  | passed above chosen goesOn rest ih => exact ih (evicts _ _ _ start chosen)
  | stalled above chosen failed => exact stalls _ (evicts _ _ _ start chosen)
  | stopped above chosen failed other => exact evicts _ _ _ start chosen

/-- What holds a block in the arena: a pin, a reservation, the shared window or the caller's list. -/
def Held (arena : Arena) (guarded : List Nat) (b : Nat) : Prop :=
  (arena.blocks b).residencyReferenceCount ≠ 0 ∨ (arena.blocks b).residencyReserved = true ∨
    (arena.blocks b).shared = true ∨ b ∈ guarded

/-- The owner's callback parks every page that it is given from now on. -/
def AlwaysParks (layout : Layout) (arena : Arena) : Prop :=
  ∀ evict, layout.evictFunction = some evict → ∀ call, arena.evictCalls ≤ call → evict call = .ok

theorem dropResidency_evictCalls (layout : Layout) (arena : Arena) (index : Nat) :
    (arena.dropResidency layout index).2.evictCalls = arena.evictCalls := by
  have released : (arena.releaseResidentSlot layout index).2.evictCalls = arena.evictCalls := by
    unfold releaseResidentSlot
    dsimp only
    split
    · rfl
    split_ifs
    all_goals rfl
  rw [dropResidency, ← released]
  by_cases succeeded : (arena.releaseResidentSlot layout index).1 = .ok
  · rw [andThen_ok succeeded]
    rfl
  · rw [andThen_failed succeeded]

/-- The calls of the callback are counted. -/
theorem evictResidentBlock_evictCalls (layout : Layout) (arena : Arena) (index : Nat) :
    arena.evictCalls ≤ (arena.evictResidentBlock layout index).2.evictCalls := by
  rw [evictResidentBlock]
  dsimp only
  split
  · exact Nat.le_refl _
  split
  · exact (dropResidency_evictCalls ..).ge
  split
  · split_ifs
    · exact Nat.le_succ _
    · exact Nat.le_succ _
    · exact Nat.le_succ _
    · rw [dropResidency_evictCalls]
      exact Nat.le_succ _
  · exact (dropResidency_evictCalls ..).ge

theorem AlwaysParks.evicted (parks : arena.AlwaysParks layout) (index : Nat) :
    (arena.evictResidentBlock layout index).2.AlwaysParks layout :=
  fun evict callback call later =>
    parks evict callback call ((evictResidentBlock_evictCalls layout arena index).trans later)

variable (reserving : Reserving layout False owners arena)
include reserving

/-- A block whose park failed is not tried again before the last resort. -/
theorem pressure_unparked {result : SparkStatus × Arena} {slot : Nat} (inCapacity : slot < layout.residentBlockCapacity)
    (held : arena.residentSlots slot = some index)
    (fresh : (arena.blocks index).parkFailed = false) (unparked : Unparked layout arena index result)
    (failed : result.1 = .ioError) : result.2.pressure layout < arena.pressure layout := by
  obtain ⟨parkFailed, marked, blocks⟩ := unparked.blocks
  have tried : tally layout.residentBlockCapacity (fun slot =>
      ((arena.residentSlots slot).map fun b => !(arena.blocks b).parkFailed).getD false) =
      tally layout.residentBlockCapacity (fun slot =>
        ((result.2.residentSlots slot).map fun b => !(result.2.blocks b).parkFailed).getD false) + 1 := by
    refine tally_lose inCapacity ?_ ?_ fun other bound different => ?_
    · simp [held, fresh]
    · simp [unparked.slots, held, blocks, marked failed]
    · have apart := reserving.apart inCapacity bound held different
      rw [unparked.slots]
      cases there : arena.residentSlots other with
      | none => rfl
      | some b =>
        rw [there] at apart
        have differs : b ≠ index := fun here => apart (by rw [here])
        simp [blocks, update_of_ne differs]
  rw [pressure, pressure, unparked.slots, tried, unparked.slots]
  omega

/-- A block that left its slot is not there to be tried again. -/
theorem pressure_unseated {result : SparkStatus × Arena} {slot : Nat} (inCapacity : slot < layout.residentBlockCapacity)
    (held : arena.residentSlots slot = some index)
    (unseated : Unseated arena index slot result) : result.2.pressure layout < arena.pressure layout := by
  obtain ⟨_, _, _, _, blocks⟩ := unseated.blocks
  have left : tally layout.residentBlockCapacity (fun slot => (arena.residentSlots slot).isSome) =
      tally layout.residentBlockCapacity (fun slot => (result.2.residentSlots slot).isSome) + 1 := by
    refine tally_lose inCapacity ?_ ?_ fun other bound different => ?_
    · simp [held]
    · simp [unseated.slots]
    · simp [unseated.slots, update_of_ne different]
  have fewer : tally layout.residentBlockCapacity (fun slot =>
      ((result.2.residentSlots slot).map fun b => !(result.2.blocks b).parkFailed).getD false) ≤
      tally layout.residentBlockCapacity fun slot =>
        ((arena.residentSlots slot).map fun b => !(arena.blocks b).parkFailed).getD false := by
    refine tally_mono fun other bound passes => ?_
    by_cases here : other = slot
    · rw [here, unseated.slots, update_self] at passes
      cases passes
    · have apart := reserving.apart inCapacity bound held here
      rw [unseated.slots, update_of_ne here] at passes
      cases there : arena.residentSlots other with
      | none =>
        rw [there] at passes
        cases passes
      | some b =>
        rw [there] at apart passes
        have differs : b ≠ index := fun same => apart (by rw [same])
        simpa [blocks, update_of_ne differs] using passes
  rw [pressure, pressure]
  omega

/-- A victim of trimming sits in a slot, and is not shared. -/
theorem Chosen.cases {lastResort : Bool} (chosen : arena.Chosen layout guarded lastResort index) :
    ∃ slot < layout.residentBlockCapacity, arena.residentSlots slot = some index ∧ index < layout.logicalBlockCount ∧
      (arena.blocks index).shared = false ∧ (arena.blocks index).resident = true ∧
      (arena.blocks index).parkFailed = lastResort ∧
      (Unparked layout arena index (arena.evictResidentBlock layout index) ∨
        Unseated arena index slot (arena.evictResidentBlock layout index)) := by
  obtain ⟨⟨⟨slot, inCapacity, held⟩, evictable⟩, -⟩ := chosen.worst
  obtain ⟨inRange, own, unshared⟩ := reserving.back slot inCapacity index held
  obtain ⟨tests, parkFailed, -⟩ := blockIsEvictable_iff.mp evictable
  refine ⟨slot, inCapacity, held, inRange, unshared, tests.2.1, parkFailed, ?_⟩
  exact ((evictResidentBlock_cases own held inCapacity unshared).resolve_left fun refused => refused.2 tests).2

/-- A pass that goes on leaves fewer passes. -/
theorem Chosen.pressure {lastResort : Bool} (chosen : arena.Chosen layout guarded lastResort index)
    (goesOn : (arena.evictResidentBlock layout index).1 = .ok ∨
      (arena.evictResidentBlock layout index).1 = .ioError ∧ lastResort = false) :
    (arena.evictResidentBlock layout index).2.pressure layout < arena.pressure layout ∧
      Reserving layout False owners (arena.evictResidentBlock layout index).2 := by
  obtain ⟨slot, inCapacity, held, inRange, unshared, -, parkFailed, outcome⟩ := chosen.cases reserving
  refine ⟨?_, (Reserving.tended ..).evictResidentBlock reserving inRange unshared⟩
  rcases outcome with unparked | unseated
  · rcases goesOn with succeeded | ⟨failed, first⟩
    · exact absurd succeeded unparked.refused
    · rw [first] at parkFailed
      exact pressure_unparked reserving inCapacity held parkFailed unparked failed
  · exact pressure_unseated reserving inCapacity held unseated

theorem trimResidentBlocks_pass (guarded : List Nat) (target : Nat) :
    FirstPass layout guarded target arena := by
  have inRange : ∀ slot < layout.residentBlockCapacity, ∀ b, arena.residentSlots slot = some b →
      b < layout.logicalBlockCount := fun slot inCapacity b held => (reserving.back slot inCapacity b held).1
  by_cases below : arena.residentBlockCount ≤ target
  · exact Or.inl ⟨_, .met below, fun fuel => by rw [trimResidentBlocks, if_pos below]⟩
  have above : target < arena.residentBlockCount := Nat.lt_of_not_le below
  -- the victim of the pass, and what the pass does with it
  have takes : ∀ lastResort index, arena.Chosen layout guarded lastResort index →
      let evicted := arena.evictResidentBlock layout index
      (∀ fuel, trimResidentBlocks layout guarded target (fuel + 1) arena =
        if evicted.1 = .ok then
          trimResidentBlocks layout guarded target fuel evicted.2
        else if evicted.1 = .ioError ∧ !lastResort then
          trimResidentBlocks layout guarded target fuel evicted.2
        else if evicted.1 = .ioError then
          (.ioError, { evicted.2 with parkStallCount := evicted.2.parkStallCount + 1, parkDegraded := true })
        else evicted) →
      FirstPass layout guarded target arena := by
    intro lastResort index chosen evicted pass
    by_cases succeeded : evicted.1 = .ok
    · exact Or.inr ⟨lastResort, index, above, chosen, Or.inl succeeded, fun fuel => by rw [pass, if_pos succeeded]⟩
    by_cases failed : evicted.1 = .ioError
    · cases lastResort with
      | false =>
        refine .inr ⟨false, index, above, chosen, .inr ⟨failed, rfl⟩, fun fuel => ?_⟩
        rw [pass, if_neg succeeded, if_pos ⟨failed, rfl⟩]
      | true =>
        refine .inl ⟨_, .stalled above chosen failed, fun fuel => ?_⟩
        rw [pass, if_neg succeeded, if_neg (by simp), if_pos failed]
    · refine .inl ⟨_, .stopped above chosen succeeded failed, fun fuel => ?_⟩
      rw [pass, if_neg succeeded, if_neg fun both => failed both.1, if_neg failed]
  rcases selectResidentEvictionVictim_cases layout inRange guarded false with ⟨nothing, none⟩ | ⟨index, found, worst⟩
  · by_cases callback : layout.evictFunction.isSome = true
    · rcases selectResidentEvictionVictim_cases layout inRange guarded true with
        ⟨stillNothing, noResort⟩ | ⟨index, found, worst⟩
      · refine .inl ⟨_, .exhausted above none fun _ => noResort, fun fuel => ?_⟩
        simp only [trimResidentBlocks, if_neg below, nothing, callback, Option.isNone_none, Bool.and_self, if_true,
          stillNothing]
      · refine takes true index ⟨worst, fun _ => ⟨callback, none⟩⟩ fun fuel => ?_
        simp only [trimResidentBlocks, if_neg below, nothing, callback, Option.isNone_none, Bool.and_self, if_true,
          found]
    · refine Or.inl ⟨_, .exhausted above none fun is => absurd is callback, fun fuel => ?_⟩
      simp only [trimResidentBlocks, if_neg below, nothing, callback, Option.isNone_none, Bool.and_false,
        Bool.false_eq_true, if_false]
  · refine takes false index ⟨worst, by simp⟩ fun fuel => ?_
    simp only [trimResidentBlocks, if_neg below, found, Option.isNone_some, Bool.false_and, Bool.false_eq_true,
      if_false]

/-- The loop is derived, and with fuel for the passes that it can make it does not depend on the fuel. -/
theorem trimResidentBlocks_trims {fuel : Nat} (enough : arena.pressure layout < fuel) :
    Trims layout guarded target arena (trimResidentBlocks layout guarded target fuel arena) ∧
      ∀ more, trimResidentBlocks layout guarded target (fuel + more) arena =
        trimResidentBlocks layout guarded target fuel arena := by
  induction fuel generalizing arena with
  | zero => omega
  | succ fuel ih =>
    rcases trimResidentBlocks_pass reserving guarded target with
      ⟨result, trims, ends⟩ | ⟨lastResort, index, above, chosen, goesOn, passes⟩
    · refine ⟨by rw [ends]; exact trims, fun more => ?_⟩
      rw [Nat.add_right_comm, ends, ends]
    · obtain ⟨fewer, stays⟩ := chosen.pressure reserving goesOn
      obtain ⟨trims, same⟩ := ih stays (by omega)
      refine ⟨by rw [passes]; exact .passed above chosen goesOn trims, fun more => ?_⟩
      rw [Nat.add_right_comm, passes, passes]
      exact same more

/-- A block that is held is not written. -/
theorem Trims.spares {result : SparkStatus × Arena} (trims : Trims layout guarded target arena result)
    {b : Nat} (held : arena.Held guarded b) :
    result.2.blocks b = arena.blocks b := by
  refine (trims.preserves (P := fun now => Reserving layout False owners now ∧ now.blocks b = arena.blocks b)
    ⟨reserving, rfl⟩ ?_ ?_).2
  · rintro now lastResort index ⟨reserving, same⟩ chosen
    obtain ⟨slot, inCapacity, there, inRange, unshared, -⟩ := chosen.cases reserving
    refine ⟨(Reserving.tended ..).evictResidentBlock reserving inRange unshared, ?_⟩
    rw [evictResidentBlock_apart, same]
    rintro rfl
    obtain ⟨⟨-, -, unreserved, unpinned⟩, -, -, unguarded⟩ := blockIsEvictable_iff.mp chosen.worst.1.2
    rw [same] at unshared unreserved unpinned
    rcases held with pinned | reserved | shared | listed
    · exact absurd unpinned pinned
    · exact absurd (reserved.symm.trans unreserved) (by simp)
    · exact absurd (shared.symm.trans unshared) (by simp)
    · exact absurd listed unguarded
  · rintro now ⟨reserving, same⟩
    exact ⟨reserving.congr rfl rfl rfl, same⟩

/-- When every page can be parked, the target is met or no candidate is left. -/
theorem Trims.progress {result : SparkStatus × Arena} (trims : Trims layout guarded target arena result)
    (parks : arena.AlwaysParks layout) :
    (result.1 = .ok ∧ result.2.residentBlockCount ≤ target) ∨
      ∀ lastResort, (lastResort = true → layout.evictFunction.isSome = true) →
        ∀ b, ¬ result.2.Trimmable layout guarded lastResort b := by
  have evicts : ∀ {now : Arena} {lastResort index}, Reserving layout False owners now → now.AlwaysParks layout →
      now.Chosen layout guarded lastResort index → (now.evictResidentBlock layout index).1 = .ok := by
    intro now lastResort index reserving parks chosen
    obtain ⟨slot, -, -, -, -, -, -, unparked | unseated⟩ := chosen.cases reserving
    · obtain ⟨evict, callback, status⟩ := unparked.callback
      exact absurd (status.trans (parks evict callback _ (Nat.le_refl _))) unparked.refused
    · exact unseated.evicted
  induction trims with
  | met below => exact .inl ⟨rfl, below⟩
  | exhausted above none noResort =>
    refine .inr fun lastResort callback => ?_
    cases lastResort with
    | false => exact none
    | true => exact noResort (callback rfl)
  | passed above chosen goesOn rest ih => exact ih (chosen.pressure reserving goesOn).2 (parks.evicted _)
  | stalled above chosen failed =>
    rw [evicts reserving parks chosen] at failed
    cases failed
  | stopped above chosen failed other => exact absurd (evicts reserving parks chosen) failed

end Trimming

end Arena

end Sparkpipe.KvCache
