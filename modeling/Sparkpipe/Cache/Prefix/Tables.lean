import Mathlib.Data.List.Forall2
import Sparkpipe.Cache.Prefix.Run
import Sparkpipe.Cache.Prefix.Views
import Sparkpipe.Lib.Rounding

/-!
# The block tables of sequences

A table is handed out exactly when the sequence is bound at every block offset of its
tokens, and it lists the blocks of those bindings. Each of them is allocated and has a
reference, so the arena neither hands it out again nor recycles it.
-/

namespace Sparkpipe.PrefixCache

open Sparkpipe.KvCache (Layout Arena)

section

variable (config : Configuration) (layout : Layout) (cache : Cache) (sequenceId : UInt64)

/-- A sequence is bound at `offset`, for `count` tokens at least, to a block in use. -/
def BoundAt (offset count : Nat) (block : Option Nat) : Prop :=
  ∃ i < config.sequenceBindingCount, (cache.bindings i).valid = true ∧
    (cache.bindings i).sequenceId = sequenceId ∧ (cache.bindings i).firstTokenIndex = offset ∧
    count ≤ (cache.bindings i).tokenCount ∧ block = (cache.bindings i).logicalBlockIndex ∧
    ∃ b < layout.logicalBlockCount, block = some b ∧ (cache.arena.blocks b).allocated = true ∧
      0 < (cache.arena.blocks b).referenceCount

/-- The offsets of the blocks that hold so many tokens, in order. -/
def blockStarts (tokenCount : Nat) : List Nat :=
  (List.range tokenCount).filter (config.blockTokenCount ∣ ·)

/-- A table lists what a sequence is bound to at each of the offsets. -/
def Lists (tokenCount : Nat) (offsets : List Nat) (table : List (Option Nat)) : Prop :=
  List.Forall₂ (fun offset => BoundAt config layout cache sequenceId offset
    (min config.blockTokenCount (tokenCount - offset))) offsets table

end

variable {config : Configuration} {layout : Layout} {cache : Cache}

/-- As long as the rounding addition does not wrap, the loop visits the start of every block. -/
theorem tableOffsets_eq (positive : config.blockTokenCount ≠ 0) {tokenCount : Nat}
    (fits : tokenCount + config.blockTokenCount ≤ 2 ^ 32) :
    tableOffsets config tokenCount = blockStarts config tokenCount := by
  have unwrapped : ceilDivU32 tokenCount config.blockTokenCount = tokenCount ⌈/⌉ config.blockTokenCount := by
    unfold ceilDivU32
    rw [if_neg positive, Nat.mod_eq_of_lt (by omega), Nat.ceilDiv_eq_add_pred_div]
  have someTokens := Nat.pos_of_ne_zero positive
  refine List.Pairwise.eq_of_mem_iff (r := (· < ·)) ?_ (List.pairwise_lt_range.filter _) fun offset => ?_
  · exact List.pairwise_map.mpr (List.pairwise_lt_range.imp fun below => Nat.mul_lt_mul_of_pos_right below someTokens)
  · unfold tableOffsets blockStarts
    rw [unwrapped]
    simp only [List.mem_map, List.mem_range, List.mem_filter, decide_eq_true_eq, Rounding.lt_iff someTokens]
    constructor
    · rintro ⟨block, inRange, rfl⟩
      exact ⟨inRange, Nat.dvd_mul_left ..⟩
    · rintro ⟨inRange, block, rfl⟩
      rw [Nat.mul_comm] at inRange ⊢
      exact ⟨block, inRange, rfl⟩

/-- What the search finds is what the sequence is bound to. -/
theorem Sound.boundAt_iff (sound : Sound config True none cache)
    (attached : config.kvCacheArena = some layout) {sequenceId : UInt64} {offset count : Nat}
    {block : Option Nat} :
    BoundAt config layout cache sequenceId offset count block ↔
      ∃ i, findBindingAtTokenOffset config cache sequenceId offset = some i ∧
        count ≤ (cache.bindings i).tokenCount ∧ block = (cache.bindings i).logicalBlockIndex := by
  constructor
  · rintro ⟨i, inRange, valid, sequence, place, covers, same, -⟩
    cases found : findBindingAtTokenOffset config cache sequenceId offset with
    | none => exact absurd place (sound.linked.findBinding_none found inRange valid sequence)
    | some j =>
      obtain ⟨jInRange, jValid, jSequence, jPlace⟩ := findBindingAtTokenOffset_some found
      have only : j = i := sound.counted.unique j jInRange i inRange jValid valid
        (jSequence.trans sequence.symm) (jPlace.trans place.symm)
      exact ⟨i, congrArg some only, covers, same⟩
  · rintro ⟨i, found, covers, same⟩
    obtain ⟨inRange, valid, sequence, place⟩ := findBindingAtTokenOffset_some found
    have arenaCounted := (sound.arena layout attached).2 trivial
    obtain ⟨b, bInRange, here, allocated⟩ := arenaCounted.boundAllocated i inRange valid
    refine ⟨i, inRange, valid, sequence, place, covers, same, b, bInRange, same.trans here, allocated, ?_⟩
    rw [sound.arenaReferences trivial layout attached b bInRange]
    refine tally_pos inRange ?_
    change (cache.bindings i).logicalBlockIndex = some b at here
    simp [valid, here]

/-- The loop stops at the first offset where the sequence is not bound. -/
theorem Sound.tableBlocks_iff (sound : Sound config True none cache)
    (attached : config.kvCacheArena = some layout) (sequenceId : UInt64) (tokenCount : Nat)
    (offsets : List Nat) (table : List (Option Nat)) :
    tableBlocks config cache sequenceId tokenCount offsets = some table ↔
      Lists config layout cache sequenceId tokenCount offsets table := by
  unfold Lists
  induction offsets generalizing table with
  | nil => simp [tableBlocks, eq_comm]
  | cons offset rest ih =>
    simp only [tableBlocks, List.forall₂_cons_left_iff, sound.boundAt_iff attached, ← ih]
    split
    · rename_i missing
      simp [missing]
    · rename_i i found
      simp only [found, Option.some.injEq, exists_eq_left']
      split
      · simp
        omega
      · rename_i enough
        rw [Option.map_eq_some_iff]
        constructor
        · rintro ⟨later, filled, rfl⟩
          exact ⟨_, later, ⟨not_lt.mp enough, rfl⟩, filled, rfl⟩
        · rintro ⟨_, later, ⟨-, rfl⟩, filled, rfl⟩
          exact ⟨later, filled, rfl⟩

/-- In every run of a cache that has its arena for itself, a sequence is handed a block table if and
only if it is bound at the start of every block of its tokens and the table has room, and then the table
lists what it is bound to. -/
theorem blockTable_iff (config : Configuration) (layout : Layout) (arena : Arena)
    (operations : List Operation) (sequenceId : UInt64) (tokenCount capacity : Nat)
    (table : List (Option Nat)) (attached : config.kvCacheArena = some layout)
    (accepted : Accepted config arena) (unused : ArenaUnused config arena)
    (fits : tokenCount + config.blockTokenCount ≤ 2 ^ 32) :
    buildLogicalBlockTable config (run config (operations.map .call) (initialCache config arena))
        sequenceId tokenCount capacity = (.ok, table) ↔
      sequenceId ≠ 0 ∧ tokenCount ≠ 0 ∧ (blockStarts config tokenCount).length ≤ capacity ∧
        Lists config layout (run config (operations.map .call) (initialCache config arena)) sequenceId
          tokenCount (blockStarts config tokenCount) table := by
  have sound := (run_keeps (P := fun _ => True) ⟨trivial, id, id⟩ accepted.validate
    (fun _ _ _ _ (_ : Step config .any _ _) => trivial) (fun _ _ _ => trivial)
    (fun _ _ _ _ => trivial) (legal_calls operations) (fun (_ : True) => alone_calls operations)
    (fun absurdity => absurdity.elim) (sound_initialCache accepted fun _ => unused) trivial).1
  have starts := tableOffsets_eq (validate_block accepted.validate) fits
  have blocks : ceilDivU32 tokenCount config.blockTokenCount = (blockStarts config tokenCount).length := by
    rw [← starts, tableOffsets, List.length_map, List.length_range]
  rw [← sound.tableBlocks_iff attached]
  unfold buildLogicalBlockTable
  rw [if_neg (by simp [accepted.validate]), blocks, starts]
  split
  · simp
    tauto
  · split
    · simp
      omega
    · rename_i named room
      rw [not_or] at named
      split
      · rename_i missing
        simp [missing]
      · rename_i filled
        simp [filled, named.1, named.2, not_lt.mp room]

/-- A reserved prompt of two tokens is bound to block 0. -/
theorem blockTable_iff_oneBlock :
    Lists oneBlockConfiguration oneBlockLayout
      (run oneBlockConfiguration ([.reserveSequencePrompt 1 [2, 3] none].map .call)
        (initialCache oneBlockConfiguration (Arena.initial oneBlockLayout))) 1 2 [0] [some 0] :=
  ((blockTable_iff oneBlockConfiguration _ _ _ _ 2 1 _ rfl accepted_oneBlock unused_oneBlock (by decide)).mp
    (by decide +kernel)).2.2.2

end Sparkpipe.PrefixCache
