import Sparkpipe.Shared.Tracking

/-!
# Slots and their owners

From where a process takes a slot until it leaves it ready or free, whatever other processes do
does not touch what the slot holds. The holders and the last use are not part of that.
-/

namespace Sparkpipe.KvSharedIndex

variable {slotCount : Nat} {system : System} {self other : Holder} {slot : Nat}

/-- The process that makes a move. -/
def Move.of : Move → Holder
  | .call self _ | .go self => self

/-- A process owns the slot that it takes or leaves, and the one that names it as the writer. -/
def System.Owns (system : System) (self : Holder) (slot : Nat) : Prop :=
  (system.pc self).unnamed = some slot ∨ (system.slot slot).writer = some self

/-- A step that changes what a slot holds is one of its owner, or takes a slot that is not being written. -/
theorem act_write {memory : Memory} {pc : Pc} {write : Write}
    (written : (pc.act slotCount self memory).write = some (slot, write)) :
    write.still = true ∨ pc.unnamed = some slot ∨ pc.named = some slot ∨ (memory.slots slot).state ≠ .writing := by
  cases pc with
  | idle | find => exact absurd_none written
  | read place query step => exact absurd_none ((ReadStep.act_write ..).symm.trans written)
  | claim place step => cases step <;> simp_all [Pc.act, ClaimStep.act, Pc.unnamed, Pc.named]
  | publish place publication step => cases step <;> simp_all [Pc.act, PublishStep.act, Pc.unnamed, Pc.named]
  | abandon place step => cases step <;> simp_all [Pc.act, AbandonStep.act, Pc.unnamed, Pc.named]
  | acquire | release | reserve =>
    rename_i step
    cases step <;> simp only [Pc.act, AcquireStep.act, ReleaseStep.act, ReserveStep.act] at written <;> grind [Write.still]

/-- The steps of others leave a slot with its owner. -/
theorem Exclusive.take_owned (exclusive : Exclusive system) (owns : system.Owns self slot) (apart : other ≠ self) :
    (system.take slotCount other).Owns self slot ∧
      SameWords (system.slot slot) ((system.take slotCount other).slot slot) := by
  have writing : (system.slot slot).state = .writing := by
    rcases owns with unnamed | written
    · exact (exclusive.unnamed self slot unnamed).1
    · exact exclusive.writing slot self written
  have alone : (system.pc other).unnamed ≠ some slot ∧ (system.pc other).named ≠ some slot := by
    rcases owns with unnamed | written
    · exact exclusive.alone unnamed apart
    · exact exclusive.alone_named written apart
  have words : SameWords (system.slot slot) ((system.take slotCount other).slot slot) := by
    rcases take_slot_cases slotCount system other slot with same | ⟨write, written, changed⟩
    · rw [same]
      exact ⟨rfl, rfl, rfl, rfl⟩
    · rw [changed]
      rcases act_write written with still | unnamed | named | idle
      · exact Slot.write_still still _
      · exact absurd unnamed alone.1
      · exact absurd named alone.2
      · exact absurd writing idle
  refine ⟨?_, words⟩
  rw [System.Owns, words.writer, take_pc_other apart.symm]
  exact owns

theorem Exclusive.step_owned (exclusive : Exclusive system) (owns : system.Owns self slot) {move : Move}
    (apart : move.of ≠ self) : (system.step slotCount move).Owns self slot ∧
      SameWords (system.slot slot) ((system.step slotCount move).slot slot) := by
  cases move with
  | go other => exact exclusive.take_owned owns apart
  | call other call =>
    have others : other ≠ self := apart
    rw [System.step]
    split
    · refine ⟨?_, rfl, rfl, rfl, rfl⟩
      rw [System.Owns, enter_pc_other others.symm]
      exact owns
    · exact ⟨owns, rfl, rfl, rfl, rfl⟩

/-- In every interleaving a slot has one owner at most, and whatever the other processes do, they leave the slot
with it as it was, but for the holders and the last use. -/
theorem owned_kept (slotCount : Nat) (moves later : List Move) (self : Holder) (slot : Nat)
    (owns : (run slotCount moves).Owns self slot) (others : ∀ move ∈ later, move.of ≠ self) :
    (run slotCount (moves ++ later)).Owns self slot ∧
      (∀ other, (run slotCount (moves ++ later)).Owns other slot → other = self) ∧
      SameWords ((run slotCount moves).slot slot) ((run slotCount (moves ++ later)).slot slot) := by
  have kept : (run slotCount (moves ++ later)).Owns self slot ∧
      SameWords ((run slotCount moves).slot slot) ((run slotCount (moves ++ later)).slot slot) := by
    rw [run, run, List.foldl_append]
    have exclusive := run_exclusive slotCount moves
    unfold run at exclusive owns
    generalize moves.foldl (System.step slotCount) {} = system at exclusive owns ⊢
    induction later generalizing system with
    | nil => exact ⟨owns, rfl, rfl, rfl, rfl⟩
    | cons move later ih =>
      have stepped : (system.step slotCount move).Owns self slot ∧
          SameWords (system.slot slot) ((system.step slotCount move).slot slot) :=
        exclusive.step_owned owns (others move (.head _))
      obtain ⟨still, words⟩ := stepped
      obtain ⟨owned, after⟩ := ih (fun next member => others next (.tail _ member)) _
        (step_exclusive system move exclusive) still
      exact ⟨owned, after.state.trans words.state, after.writer.trans words.writer,
        after.generation.trans words.generation, after.published.trans words.published⟩
  refine ⟨kept.1, ?_, kept.2⟩
  intro other otherOwns
  have exclusive := run_exclusive slotCount (moves ++ later)
  by_contra apart
  rcases kept.1 with unnamed | written <;> rcases otherOwns with otherUnnamed | otherWritten
  · exact apart (exclusive.apart other self slot otherUnnamed unnamed)
  · exact absurd_none ((exclusive.unnamed self slot unnamed).2.symm.trans otherWritten)
  · exact absurd_none ((exclusive.unnamed other slot otherUnnamed).2.symm.trans written)
  · exact apart (Option.some.inj (otherWritten.symm.trans written))

theorem owned_kept_taken :
    (run 1 ([.call 0 .reserve, .go 0, .go 0] ++ [.call 1 .reserve, .go 1, .go 1])).Owns 0 0 :=
  (owned_kept 1 [.call 0 .reserve, .go 0, .go 0] [.call 1 .reserve, .go 1, .go 1] 0 0 (.inl rfl) (by decide)).1

end Sparkpipe.KvSharedIndex
