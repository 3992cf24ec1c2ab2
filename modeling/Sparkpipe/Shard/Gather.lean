import Sparkpipe.Lib.Tiling
import Sparkpipe.Shard.Geometry
import Mathlib.Order.Bounds.Defs

/-!
# The plan of a gather

Rows name a sequence and a position each, in any order. The plan lists each sequence once, with
the context that its rows need, and lays the keys of the sequences out end to end.
-/

namespace Sparkpipe.KvShard

open Function

/-- A row of `row_sequence` and `row_position`. -/
structure Row where
  sequence : UInt32
  position : UInt32
  deriving DecidableEq

/-- What `SparkKvShardGatherPlan` writes: the count is the length of the list. -/
structure GatherPlan where
  list : List UInt32 := []
  keyOffset : UInt32 → UInt32
  keyContext : UInt32 → UInt32
  totalKeys : UInt64 := 0
  mostKeys : UInt32 := 0

namespace GatherPlan

/-- The inner loop over the rows from the first one of a sequence on. -/
def contextOf (sequence : UInt32) (rows : List Row) : UInt32 :=
  rows.foldl (fun context row =>
    if row.sequence = sequence ∧ row.position + 1 > context then row.position + 1 else context) 0

/-- A sequence that was not seen before is given the next keys. -/
def take (shard : Shard) (sequence context : UInt32) (plan : GatherPlan) : GatherPlan :=
  let keys := shard.gatherKeys context
  { list := plan.list ++ [sequence]
    keyOffset := update plan.keyOffset sequence plan.totalKeys.toUInt32
    keyContext := update plan.keyContext sequence context
    totalKeys := plan.totalKeys + keys.toUInt64
    mostKeys := if keys > plan.mostKeys then keys else plan.mostKeys }

/-- The outer loop, with the rows it has passed. -/
def scan (shard : Shard) (passed : List Row) : List Row → GatherPlan → GatherPlan
  | [], plan => plan
  | row :: rest, plan =>
    scan shard (passed ++ [row]) rest
      (if passed.any fun other => other.sequence = row.sequence then plan
      else plan.take shard row.sequence (contextOf row.sequence (row :: rest)))

/-- `SparkKvShardGatherPlan`, with what its arrays held before. -/
def build (shard : Shard) (rows : List Row) (keyOffset keyContext : UInt32 → UInt32) : GatherPlan :=
  scan shard [] rows { keyOffset, keyContext }

/-- How many keys the plan gives to a sequence. -/
def keysOf (shard : Shard) (plan : GatherPlan) (sequence : UInt32) : Nat :=
  (shard.gatherKeys (plan.keyContext sequence)).toNat

/-- Each sequence of the rows is listed once, in the order in which it first appears, with the
context that its rows need; the keys of the sequences tile those of the plan. -/
structure Correct (shard : Shard) (rows : List Row) (plan : GatherPlan) : Prop where
  once : plan.list.Nodup
  listed : ∀ sequence, sequence ∈ plan.list ↔ ∃ row ∈ rows, row.sequence = sequence
  ordered : plan.list.Pairwise fun sequence later =>
    (rows.map Row.sequence).idxOf sequence < (rows.map Row.sequence).idxOf later
  contexts : ∀ sequence ∈ plan.list, IsGreatest
    { context | ∃ row ∈ rows, row.sequence = sequence ∧ context = row.position.toNat + 1 }
    (plan.keyContext sequence).toNat
  inside : ∀ sequence ∈ plan.list,
    (plan.keyOffset sequence).toNat + plan.keysOf shard sequence ≤ plan.totalKeys.toNat
  tiled : ∀ key < plan.totalKeys.toNat, ∃! sequence, sequence ∈ plan.list ∧
    (plan.keyOffset sequence).toNat ≤ key ∧ key < (plan.keyOffset sequence).toNat + plan.keysOf shard sequence
  most : ∀ sequence ∈ plan.list, plan.keysOf shard sequence ≤ plan.mostKeys.toNat
  largest : plan.list = [] ∧ plan.mostKeys = 0 ∨
    ∃ sequence ∈ plan.list, plan.keysOf shard sequence = plan.mostKeys.toNat

variable {shard : Shard} {rows passed rest : List Row} {row : Row} {plan : GatherPlan} {sequence context : UInt32}

/-- One turn of the loop over the rows of a sequence. -/
def widen (sequence : UInt32) (context : UInt32) (row : Row) : UInt32 :=
  if row.sequence = sequence ∧ row.position + 1 > context then row.position + 1 else context

theorem contextOf_eq (sequence : UInt32) (rows : List Row) : contextOf sequence rows = rows.foldl (widen sequence) 0 := rfl

/-- The loop takes the largest of what it has and what the rows of the sequence need. -/
theorem widen_greatest (sequence context : UInt32) (rows : List Row) :
    context ≤ rows.foldl (widen sequence) context ∧
      (∀ row ∈ rows, row.sequence = sequence → row.position + 1 ≤ rows.foldl (widen sequence) context) ∧
      (rows.foldl (widen sequence) context = context ∨
        ∃ row ∈ rows, row.sequence = sequence ∧ rows.foldl (widen sequence) context = row.position + 1) := by
  induction rows generalizing context with
  | nil => exact ⟨UInt32.le_refl _, nofun, .inl rfl⟩
  | cons row rest ih =>
    rw [List.foldl_cons]
    obtain ⟨kept, covers, made⟩ := ih (widen sequence context row)
    have grows : context ≤ widen sequence context row ∧
        (row.sequence = sequence → row.position + 1 ≤ widen sequence context row) := by
      unfold widen
      split
      · rename_i wider
        exact ⟨UInt32.le_of_lt wider.2, fun _ => UInt32.le_refl _⟩
      · rename_i narrow
        exact ⟨UInt32.le_refl _, fun same => UInt32.not_lt.mp fun larger => narrow ⟨same, larger⟩⟩
    refine ⟨UInt32.le_trans grows.1 kept, ?_, ?_⟩
    · intro other member same
      rcases List.mem_cons.mp member with rfl | later
      · exact UInt32.le_trans (grows.2 same) kept
      · exact covers other later same
    · rcases made with same | ⟨other, member, isSequence, isContext⟩
      · rw [same]
        unfold widen
        split
        · rename_i wider
          exact .inr ⟨row, .head _, wider.1, rfl⟩
        · exact .inl rfl
      · exact .inr ⟨other, .tail _ member, isSequence, isContext⟩

/-- Rows of other sequences do not count. -/
theorem contextOf_append (unseen : ∀ row ∈ passed, row.sequence ≠ sequence) :
    contextOf sequence (passed ++ rest) = contextOf sequence rest := by
  rw [contextOf_eq, contextOf_eq, List.foldl_append]
  congr 1
  induction passed with
  | nil => rfl
  | cons row later ih =>
    have skipped : widen sequence 0 row = 0 := if_neg fun same => unseen row (.head _) same.1
    rw [List.foldl_cons, skipped]
    exact ih fun other member => unseen other (.tail _ member)

/-- Without a row at the last position, the context of a sequence is one more than its largest
position. -/
theorem contextOf_greatest (bounded : ∀ row ∈ rows, row.position ≠ 0xffffffff)
    (there : ∃ row ∈ rows, row.sequence = sequence) : IsGreatest
      { context | ∃ row ∈ rows, row.sequence = sequence ∧ context = row.position.toNat + 1 }
      (contextOf sequence rows).toNat := by
  have next : ∀ row ∈ rows, (row.position + 1).toNat = row.position.toNat + 1 := by
    intro row member
    have small : row.position.toNat ≠ 4294967295 := fun last => bounded row member (UInt32.toNat_inj.mp last)
    have bound := row.position.toNat_lt
    rw [UInt32.toNat_add]
    exact Nat.mod_eq_of_lt (by change row.position.toNat + 1 < _; omega)
  obtain ⟨-, covers, made⟩ := widen_greatest sequence 0 rows
  rw [← contextOf_eq] at covers made
  constructor
  · rcases made with none | ⟨row, member, same, isContext⟩
    · obtain ⟨row, member, same⟩ := there
      have most := UInt32.le_iff_toNat_le.mp (covers row member same)
      rw [none, next row member] at most
      exact absurd most (Nat.not_succ_le_zero _)
    · exact ⟨row, member, same, by rw [isContext, next row member]⟩
  · rintro _ ⟨row, member, same, rfl⟩
    rw [← next row member]
    exact UInt32.le_iff_toNat_le.mp (covers row member same)

/-- The keys of a sequence, from the rows. -/
def sizeOf (shard : Shard) (rows : List Row) (sequence : UInt32) : Nat :=
  (shard.gatherKeys (contextOf sequence rows)).toNat

/-- What the outer loop has done after some rows. -/
structure Scanned (shard : Shard) (rows passed : List Row) (plan : GatherPlan) : Prop where
  once : plan.list.Nodup
  listed : ∀ sequence, sequence ∈ plan.list ↔ ∃ row ∈ passed, row.sequence = sequence
  ordered : plan.list.Pairwise fun sequence later =>
    (rows.map Row.sequence).idxOf sequence < (rows.map Row.sequence).idxOf later
  contexts : ∀ sequence ∈ plan.list, plan.keyContext sequence = contextOf sequence rows
  offsets : ∀ before sequence after, plan.list = before ++ sequence :: after →
    (plan.keyOffset sequence).toNat = Tiling.taken (sizeOf shard rows) before % 2 ^ 32
  total : plan.totalKeys.toNat = Tiling.taken (sizeOf shard rows) plan.list
  few : plan.list.length ≤ passed.length
  most : ∀ sequence ∈ plan.list, sizeOf shard rows sequence ≤ plan.mostKeys.toNat
  largest : plan.list = [] ∧ plan.mostKeys = 0 ∨
    ∃ sequence ∈ plan.list, sizeOf shard rows sequence = plan.mostKeys.toNat

theorem taken_lt (shard : Shard) (rows : List Row) (list : List UInt32) :
    Tiling.taken (sizeOf shard rows) list ≤ list.length * (2 ^ 32 - 1) := by
  induction list with
  | nil => exact Nat.zero_le _
  | cons sequence rest ih =>
    have bound := (shard.gatherKeys (contextOf sequence rows)).toNat_lt
    rw [Tiling.taken_cons, List.length_cons, Nat.succ_mul, sizeOf]
    omega

/-- A row of a sequence that was seen changes nothing. -/
theorem Scanned.seen (scanned : Scanned shard rows passed plan) (seen : ∃ other ∈ passed, other.sequence = row.sequence) :
    Scanned shard rows (passed ++ [row]) plan where
  once := scanned.once
  listed sequence := by
    rw [scanned.listed]
    constructor
    · rintro ⟨other, member, same⟩
      exact ⟨other, List.mem_append_left _ member, same⟩
    · rintro ⟨other, member, same⟩
      rcases List.mem_append.mp member with before | new
      · exact ⟨other, before, same⟩
      · obtain ⟨first, member, isFirst⟩ := seen
        rw [List.mem_singleton.mp new] at same
        exact ⟨first, member, isFirst.trans same⟩
  ordered := scanned.ordered
  contexts := scanned.contexts
  offsets := scanned.offsets
  total := scanned.total
  few := le_trans scanned.few (by rw [List.length_append]; exact Nat.le_add_right _ _)
  most := scanned.most
  largest := scanned.largest

/-- The first row of a sequence appends it, with the next keys. -/
theorem Scanned.take (scanned : Scanned shard rows passed plan) (split : rows = passed ++ row :: rest)
    (unseen : ∀ other ∈ passed, other.sequence ≠ row.sequence) (count : rows.length < 2 ^ 32) :
    Scanned shard rows (passed ++ [row]) (plan.take shard row.sequence (contextOf row.sequence (row :: rest))) := by
  have context : contextOf row.sequence (row :: rest) = contextOf row.sequence rows := by
    rw [split, contextOf_append unseen]
  have new : row.sequence ∉ plan.list := by
    intro member
    obtain ⟨other, before, same⟩ := (scanned.listed _).mp member
    exact unseen other before same
  have place : (rows.map Row.sequence).idxOf row.sequence = passed.length := by
    have absent : row.sequence ∉ passed.map Row.sequence := by
      intro member
      obtain ⟨other, before, same⟩ := List.mem_map.mp member
      exact unseen other before same
    rw [split, List.map_append, List.idxOf_append_of_notMem absent, List.map_cons, List.idxOf_cons_self,
      List.length_map, Nat.add_zero]
  have earlier : ∀ sequence ∈ plan.list, (rows.map Row.sequence).idxOf sequence < passed.length := by
    intro sequence member
    obtain ⟨other, before, same⟩ := (scanned.listed _).mp member
    have inside : sequence ∈ passed.map Row.sequence := same ▸ List.mem_map_of_mem before
    rw [split, List.map_append, List.idxOf_append_of_mem inside, ← List.length_map (f := Row.sequence)]
    exact List.idxOf_lt_length_of_mem inside
  rw [context]
  have size : (shard.gatherKeys (contextOf row.sequence rows)).toNat = sizeOf shard rows row.sequence := rfl
  have other : ∀ sequence ∈ plan.list, sequence ≠ row.sequence := fun sequence member same => new (same ▸ member)
  refine ⟨?_, ?_, ?_, ?_, ?_, ?_, ?_, ?_, ?_⟩
  · exact List.nodup_append.mpr ⟨scanned.once, List.nodup_singleton _,
      fun sequence member last isLast => (List.mem_singleton.mp isLast) ▸ other sequence member⟩
  · intro sequence
    change sequence ∈ plan.list ++ [row.sequence] ↔ _
    rw [List.mem_append, List.mem_singleton, scanned.listed]
    constructor
    · rintro (⟨first, member, same⟩ | rfl)
      · exact ⟨first, List.mem_append_left _ member, same⟩
      · exact ⟨row, List.mem_append_right _ (.head _), rfl⟩
    · rintro ⟨first, member, same⟩
      rcases List.mem_append.mp member with before | last
      · exact .inl ⟨first, before, same⟩
      · right
        rw [← same, List.mem_singleton.mp last]
  · apply List.pairwise_append.mpr
    refine ⟨scanned.ordered, List.pairwise_singleton _ _, ?_⟩
    intro sequence member last isLast
    rw [List.mem_singleton.mp isLast, place]
    exact earlier sequence member
  · intro sequence member
    rcases List.mem_append.mp member with before | last
    · exact (update_of_ne (other sequence before) ..).trans (scanned.contexts sequence before)
    · rw [List.mem_singleton.mp last]
      exact update_self ..
  · intro before sequence after listed
    change (update plan.keyOffset row.sequence plan.totalKeys.toUInt32 sequence).toNat = _
    change plan.list ++ [row.sequence] = before ++ sequence :: after at listed
    rcases List.eq_nil_or_concat after with rfl | ⟨middle, last, rfl⟩
    · obtain ⟨rfl, isLast⟩ := List.append_inj' listed rfl
      obtain rfl := List.singleton_inj.mp isLast
      rw [update_self, UInt64.toNat_toUInt32, scanned.total]
    · rw [List.concat_eq_append, ← List.cons_append, ← List.append_assoc] at listed
      obtain ⟨isList, -⟩ := List.append_inj' listed rfl
      have member : sequence ∈ plan.list := by
        rw [isList]
        exact List.mem_append_right _ (.head _)
      rw [update_of_ne (other sequence member)]
      exact scanned.offsets before sequence middle isList
  · have bound := taken_lt shard rows plan.list
    have sizeBound := (shard.gatherKeys (contextOf row.sequence rows)).toNat_lt
    have length := congrArg List.length split
    rw [List.length_append, List.length_cons] at length
    have few := scanned.few
    have most : plan.list.length * (2 ^ 32 - 1) ≤ (2 ^ 32 - 2) * (2 ^ 32 - 1) := Nat.mul_le_mul_right _ (by omega)
    change (plan.totalKeys + (shard.gatherKeys (contextOf row.sequence rows)).toUInt64).toNat =
      Tiling.taken (sizeOf shard rows) (plan.list ++ [row.sequence])
    rw [Tiling.taken_append, Tiling.taken_cons, Tiling.taken_nil, Nat.add_zero, ← scanned.total, UInt64.toNat_add,
      UInt32.toNat_toUInt64, size]
    exact Nat.mod_eq_of_lt (by rw [scanned.total]; omega)
  · change (plan.list ++ [row.sequence]).length ≤ (passed ++ [row]).length
    rw [List.length_append, List.length_append]
    exact Nat.add_le_add_right scanned.few 1
  · intro sequence member
    change _ ≤ (if shard.gatherKeys (contextOf row.sequence rows) > plan.mostKeys then
      shard.gatherKeys (contextOf row.sequence rows) else plan.mostKeys).toNat
    rcases List.mem_append.mp member with before | last
    · have kept := scanned.most sequence before
      split
      · rename_i larger
        exact le_trans kept (UInt32.lt_iff_toNat_lt.mp larger).le
      · exact kept
    · rw [List.mem_singleton.mp last]
      split
      · exact le_rfl
      · rename_i smaller
        exact UInt32.le_iff_toNat_le.mp (UInt32.not_lt.mp smaller)
  · right
    change ∃ sequence ∈ plan.list ++ [row.sequence], _ = (if shard.gatherKeys (contextOf row.sequence rows) >
      plan.mostKeys then shard.gatherKeys (contextOf row.sequence rows) else plan.mostKeys).toNat
    split
    · exact ⟨row.sequence, List.mem_append_right _ (.head _), rfl⟩
    · rename_i smaller
      rcases scanned.largest with ⟨-, none⟩ | ⟨sequence, member, isMost⟩
      · refine ⟨row.sequence, List.mem_append_right _ (.head _), ?_⟩
        have least := UInt32.le_iff_toNat_le.mp (UInt32.not_lt.mp smaller)
        rw [none, UInt32.toNat_zero] at least ⊢
        exact Nat.le_zero.mp least
      · exact ⟨sequence, List.mem_append_left _ member, isMost⟩

theorem Scanned.scan (scanned : Scanned shard rows passed plan) (split : rows = passed ++ rest)
    (count : rows.length < 2 ^ 32) : Scanned shard rows rows (GatherPlan.scan shard passed rest plan) := by
  induction rest generalizing passed plan with
  | nil =>
    rw [List.append_nil] at split
    rw [GatherPlan.scan]
    conv =>
      arg 3
      rw [split]
    exact scanned
  | cons row rest ih =>
    rw [GatherPlan.scan]
    have later : rows = (passed ++ [row]) ++ rest := by rw [split, List.append_assoc, List.singleton_append]
    split
    · rename_i seen
      obtain ⟨other, member, same⟩ := List.any_eq_true.mp seen
      exact ih (scanned.seen ⟨other, member, of_decide_eq_true same⟩) later
    · rename_i unseen
      refine ih (scanned.take split ?_ count) later
      intro other member same
      exact unseen (List.any_eq_true.mpr ⟨other, member, decide_eq_true same⟩)

theorem scanned_build (keyOffset keyContext : UInt32 → UInt32) (count : rows.length < 2 ^ 32) :
    Scanned shard rows rows (build shard rows keyOffset keyContext) := by
  have start : Scanned shard rows [] { keyOffset, keyContext } := by
    refine ⟨List.nodup_nil, ?_, List.Pairwise.nil, nofun, ?_, rfl, le_rfl, nofun, .inl ⟨rfl, rfl⟩⟩
    · intro sequence
      exact iff_of_false List.not_mem_nil (by rintro ⟨_, member, -⟩; exact List.not_mem_nil member)
    · intro before sequence after listed
      exact absurd listed.symm (by simp)
  exact start.scan rfl count

/-- The keys of a plan whose total fits 32 bits tile it. -/
theorem Scanned.tiled (scanned : Scanned shard rows rows plan) (representable : plan.totalKeys.toNat < 2 ^ 32) :
    (∀ sequence ∈ plan.list, (plan.keyOffset sequence).toNat + plan.keysOf shard sequence ≤ plan.totalKeys.toNat) ∧
      ∀ key < plan.totalKeys.toNat, ∃! sequence, sequence ∈ plan.list ∧
        (plan.keyOffset sequence).toNat ≤ key ∧
          key < (plan.keyOffset sequence).toNat + plan.keysOf shard sequence := by
  have keys : ∀ sequence ∈ plan.list, plan.keysOf shard sequence = sizeOf shard rows sequence := by
    intro sequence member
    rw [keysOf, scanned.contexts sequence member, sizeOf]
  have total := scanned.total
  have region : ∀ before sequence after, plan.list = before ++ sequence :: after →
      (plan.keyOffset sequence).toNat = Tiling.taken (sizeOf shard rows) before ∧
        Tiling.taken (sizeOf shard rows) before + sizeOf shard rows sequence ≤ plan.totalKeys.toNat := by
    intro before sequence after split
    rw [split, Tiling.taken_append, Tiling.taken_cons] at total
    refine ⟨?_, by omega⟩
    rw [scanned.offsets before sequence after split, Nat.mod_eq_of_lt (by omega)]
  constructor
  · intro sequence member
    obtain ⟨before, after, split⟩ := List.mem_iff_append.mp member
    obtain ⟨offset, inside⟩ := region before sequence after split
    rw [offset, keys sequence member]
    exact inside
  · intro key below
    rw [total] at below
    obtain ⟨before, sequence, after, split, starts, ends⟩ := Tiling.exists_region below
    have member : sequence ∈ plan.list := by
      rw [split]
      exact List.mem_append_right _ (.head _)
    refine ⟨sequence, ⟨member, ?_, ?_⟩, ?_⟩
    · rw [(region before sequence after split).1]
      exact starts
    · rw [(region before sequence after split).1, keys sequence member]
      exact ends
    · rintro other ⟨otherMember, otherStarts, otherEnds⟩
      obtain ⟨otherBefore, otherAfter, otherSplit⟩ := List.mem_iff_append.mp otherMember
      rw [(region otherBefore other otherAfter otherSplit).1] at otherStarts otherEnds
      rw [keys other otherMember] at otherEnds
      exact Tiling.region_unique otherSplit split otherStarts otherEnds starts ends

/-- A plan whose keys fit 32 bits is correct exactly when no row is at the last 32-bit position:
the context of such a row wraps to zero. -/
theorem build_correct_iff (shard : Shard) (rows : List Row) (keyOffset keyContext : UInt32 → UInt32)
    (count : rows.length < 2 ^ 32) (representable : (build shard rows keyOffset keyContext).totalKeys.toNat < 2 ^ 32) :
    (build shard rows keyOffset keyContext).Correct shard rows ↔ ∀ row ∈ rows, row.position ≠ 0xffffffff := by
  have scanned : Scanned shard rows rows (build shard rows keyOffset keyContext) := scanned_build keyOffset keyContext count
  constructor
  · intro correct row member last
    have listed := (correct.listed row.sequence).mpr ⟨row, member, rfl⟩
    have most := (correct.contexts row.sequence listed).2 ⟨row, member, rfl, rfl⟩
    have bound := ((build shard rows keyOffset keyContext).keyContext row.sequence).toNat_lt
    rw [last] at most
    change 4294967295 + 1 ≤ _ at most
    omega
  · intro bounded
    obtain ⟨inside, tiled⟩ := scanned.tiled representable
    have keys : ∀ sequence ∈ (build shard rows keyOffset keyContext).list,
        (build shard rows keyOffset keyContext).keysOf shard sequence = sizeOf shard rows sequence := by
      intro sequence member
      rw [keysOf, scanned.contexts sequence member, sizeOf]
    refine ⟨scanned.once, scanned.listed, scanned.ordered, ?_, inside, tiled, ?_, ?_⟩
    · intro sequence member
      rw [scanned.contexts sequence member]
      exact contextOf_greatest bounded ((scanned.listed sequence).mp member)
    · intro sequence member
      rw [keys sequence member]
      exact scanned.most sequence member
    · rcases scanned.largest with none | ⟨sequence, member, isMost⟩
      · exact .inl none
      · exact .inr ⟨sequence, member, (keys sequence member).trans isMost⟩

/-- A row at the last position leaves its sequence without keys. -/
theorem build_not_correct :
    let shard : Shard := { degree := 4, rank := 0, grain := 16 }
    let plan := build shard [⟨7, 0xffffffff⟩] (fun _ => 0) fun _ => 0
    shard.valid 128 = true ∧ plan.list = [7] ∧ plan.keyContext 7 = 0 ∧ plan.totalKeys = 0 ∧
      ¬ plan.Correct shard [⟨7, 0xffffffff⟩] := by
  refine ⟨by decide, by decide, by decide, by decide, fun correct => ?_⟩
  have most := (correct.contexts 7 (by decide)).2 ⟨⟨7, 0xffffffff⟩, .head _, rfl, rfl⟩
  revert most
  decide

/-- Three rows of two sequences. -/
theorem build_correct_two :
    let shard : Shard := { degree := 4, rank := 0, grain := 16 }
    let rows : List Row := [⟨7, 70⟩, ⟨3, 4⟩, ⟨7, 130⟩]
    (build shard rows (fun _ => 0) fun _ => 0).Correct shard rows :=
  (build_correct_iff _ _ _ _ (by decide) (by decide)).mpr (by decide)

end GatherPlan

end Sparkpipe.KvShard
