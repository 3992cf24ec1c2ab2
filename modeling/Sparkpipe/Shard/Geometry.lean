import Sparkpipe.Lib.Interleave
import Mathlib.Data.Fintype.Basic

/-!
# Sharding of the key cache

A context is dealt to the ranks of a group in grains, and every rank keeps its own positions
packed in pages of its own. The functions below compute in 32 bits what the interleaving computes
on numbers, as long as the numbers fit.
-/

namespace Sparkpipe.KvShard

/-- `SPARK_KV_SHARD_MAX_DEGREE`. -/
def maxDegree : UInt32 := 16

/-- `SparkKvShard`. -/
structure Shard where
  degree : UInt32
  rank : UInt32
  grain : UInt32

namespace Shard

/-- `SparkKvShardValid`. -/
def valid (shard : Shard) (pageSlots : UInt32) : Bool :=
  if shard.degree = 0 ∨ shard.degree > maxDegree ∨ shard.rank ≥ shard.degree ∨ shard.grain = 0 ∨ pageSlots = 0 then false
  else if shard.grain > pageSlots / shard.degree then false
  else pageSlots % (shard.grain * shard.degree) = 0

/-- `SparkKvShardOwner`. -/
def owner (shard : Shard) (position : UInt32) : UInt32 := position / shard.grain % shard.degree

/-- `SparkKvShardOwns`. -/
def owns (shard : Shard) (position : UInt32) : Bool := shard.owner position = shard.rank

/-- `SparkKvShardPageSlots`. -/
def pageSlots (shard : Shard) (pageSlots : UInt32) : UInt32 := pageSlots / shard.degree

/-- `SparkKvShardSlotInPage`. -/
def slotInPage (shard : Shard) (pageSlots position : UInt32) : UInt32 :=
  let inPage := position % pageSlots
  inPage / (shard.grain * shard.degree) * shard.grain + inPage % shard.grain

/-- `SparkKvShardLocalKeys`. -/
def localKeys (shard : Shard) (keys : UInt32) : UInt32 :=
  let span := shard.grain * shard.degree
  let rest := keys % span
  let first := shard.rank * shard.grain
  keys / span * shard.grain +
    (if rest > first then (if rest - first < shard.grain then rest - first else shard.grain) else 0)

/-- `SparkKvShardLocalPosition`. -/
def localPosition (shard : Shard) (index : UInt32) : UInt32 :=
  (index / shard.grain * shard.degree + shard.rank) * shard.grain + index % shard.grain

/-- `SparkKvShardLocalIndex`. -/
def localIndex (shard : Shard) (position : UInt32) : UInt32 :=
  position / (shard.grain * shard.degree) * shard.grain + position % shard.grain

/-- `SparkKvShardGatherKeys`: the number of spans is taken in 64 bits and cut to 32. -/
def gatherKeys (shard : Shard) (keys : UInt32) : UInt32 :=
  let span := shard.grain * shard.degree
  if span = 0 then 0
  else ((keys.toUInt64 + span.toUInt64 - 1) / span.toUInt64).toUInt32 * shard.grain

/-- The geometry of a rank that a valid shard has, on numbers. -/
structure Geometry (shard : Shard) (pageSlots : UInt32) : Prop where
  isRank : shard.rank.toNat < shard.degree.toNat
  someGrain : 0 < shard.grain.toNat
  span : (shard.grain * shard.degree).toNat = shard.grain.toNat * shard.degree.toNat
  pages : ∃ spans, 0 < spans ∧ pageSlots.toNat = spans * (shard.grain.toNat * shard.degree.toNat)

variable {shard : Shard} {slots position keys index rank : UInt32}

theorem geometry_of_valid (valid : shard.valid slots = true) : shard.Geometry slots := by
  unfold Shard.valid at valid
  split at valid
  · cases valid
  split at valid
  · cases valid
  rename_i checked fits
  simp only [not_or, UInt32.not_le, ge_iff_le, gt_iff_lt, UInt32.not_lt] at checked fits
  obtain ⟨someDegree, -, isRank, someGrain, someSlots⟩ := checked
  have positive : ∀ value : UInt32, value ≠ 0 → 0 < value.toNat := by
    intro value nonzero
    exact Nat.pos_of_ne_zero fun zero => nonzero (UInt32.toNat_inj.mp zero)
  have grain := positive _ someGrain
  have degree := positive _ someDegree
  have small : shard.grain.toNat ≤ slots.toNat / shard.degree.toNat := by
    rw [← UInt32.toNat_div]
    exact UInt32.le_iff_toNat_le.mp fits
  have product : shard.grain.toNat * shard.degree.toNat ≤ slots.toNat := (Nat.le_div_iff_mul_le degree).mp small
  have bound := slots.toNat_lt
  have span : (shard.grain * shard.degree).toNat = shard.grain.toNat * shard.degree.toNat := by
    rw [UInt32.toNat_mul, Nat.mod_eq_of_lt (by omega)]
  refine ⟨UInt32.lt_iff_toNat_lt.mp isRank, grain, span, ?_⟩
  have whole := congrArg UInt32.toNat (of_decide_eq_true valid)
  rw [UInt32.toNat_mod, span, UInt32.toNat_zero] at whole
  obtain ⟨spans, isSpans⟩ := Nat.dvd_of_mod_eq_zero whole
  have some := positive _ someSlots
  refine ⟨spans, ?_, isSpans.trans (Nat.mul_comm _ _)⟩
  apply Nat.pos_of_ne_zero
  rintro rfl
  omega

theorem owner_toNat (shard : Shard) (position : UInt32) :
    (shard.owner position).toNat = Interleave.owner shard.grain.toNat shard.degree.toNat position.toNat := by
  rw [Shard.owner, UInt32.toNat_mod, UInt32.toNat_div, Interleave.owner]

theorem owns_iff (shard : Shard) (position : UInt32) : shard.owns position = true ↔
    Interleave.owner shard.grain.toNat shard.degree.toNat position.toNat = shard.rank.toNat := by
  rw [← owner_toNat, Shard.owns, decide_eq_true_iff, UInt32.toNat_inj]

namespace Geometry

variable (geometry : shard.Geometry slots)
include geometry

theorem someRank : 0 < shard.degree.toNat := by
  have := geometry.isRank
  omega

theorem someSpan : 0 < shard.grain.toNat * shard.degree.toNat :=
  Nat.mul_pos geometry.someGrain geometry.someRank

/-- The place of a position stays at or below it. -/
theorem localIndex_le (position : Nat) :
    Interleave.localIndex shard.grain.toNat shard.degree.toNat position ≤ position := by
  have parts := Interleave.parts shard.grain.toNat shard.degree.toNat position
  have spans : position / (shard.grain.toNat * shard.degree.toNat) ≤
      position / (shard.grain.toNat * shard.degree.toNat) * shard.degree.toNat +
        Interleave.owner shard.grain.toNat shard.degree.toNat position :=
    le_trans (Nat.le_mul_of_pos_right _ geometry.someRank) (Nat.le_add_right _ _)
  have steps := Nat.mul_le_mul_right shard.grain.toNat spans
  rw [Interleave.localIndex]
  omega

theorem localIndex (position : UInt32) :
    (shard.localIndex position).toNat =
      Interleave.localIndex shard.grain.toNat shard.degree.toNat position.toNat := by
  have small := geometry.localIndex_le position.toNat
  have bound := position.toNat_lt
  rw [Interleave.localIndex] at small ⊢
  rw [Shard.localIndex, UInt32.toNat_add, UInt32.toNat_mul, UInt32.toNat_div, geometry.span, UInt32.toNat_mod]
  rw [Nat.mod_eq_of_lt (a := _ * _) (by omega), Nat.mod_eq_of_lt (by omega)]

/-- What a rank keeps at a place, where the position fits 32 bits. -/
theorem localPosition (fits :
    Interleave.localPosition shard.grain.toNat shard.degree.toNat shard.rank.toNat index.toNat < 2 ^ 32) :
    (shard.localPosition index).toNat =
      Interleave.localPosition shard.grain.toNat shard.degree.toNat shard.rank.toNat index.toNat := by
  rw [Interleave.localPosition] at fits ⊢
  have turns : index.toNat / shard.grain.toNat * shard.degree.toNat + shard.rank.toNat ≤
      (index.toNat / shard.grain.toNat * shard.degree.toNat + shard.rank.toNat) * shard.grain.toNat :=
    Nat.le_mul_of_pos_right _ geometry.someGrain
  rw [Shard.localPosition, UInt32.toNat_add, UInt32.toNat_mul, UInt32.toNat_add, UInt32.toNat_mul, UInt32.toNat_div,
    UInt32.toNat_mod]
  rw [Nat.mod_eq_of_lt (a := _ / _ * _) (by omega), Nat.mod_eq_of_lt (a := _ / _ * _ + _) (by omega),
    Nat.mod_eq_of_lt (a := (_ + _) * _) (by omega), Nat.mod_eq_of_lt (by omega)]

theorem localKeys (keys : UInt32) : (shard.localKeys keys).toNat =
    Interleave.localCount shard.grain.toNat shard.degree.toNat shard.rank.toNat keys.toNat := by
  have first : (shard.rank * shard.grain).toNat = shard.rank.toNat * shard.grain.toNat := by
    have less : shard.rank.toNat * shard.grain.toNat ≤ shard.degree.toNat * shard.grain.toNat :=
      Nat.mul_le_mul_right _ geometry.isRank.le
    have bound := (shard.grain * shard.degree).toNat_lt
    rw [geometry.span] at bound
    rw [UInt32.toNat_mul, Nat.mod_eq_of_lt (by rw [Nat.mul_comm shard.degree.toNat] at less; omega)]
  -- the partial grain is what the bound leaves of the rank's own
  have part : (if keys % (shard.grain * shard.degree) > shard.rank * shard.grain then
      (if keys % (shard.grain * shard.degree) - shard.rank * shard.grain < shard.grain then
        keys % (shard.grain * shard.degree) - shard.rank * shard.grain else shard.grain) else 0).toNat =
      min (keys.toNat % (shard.grain.toNat * shard.degree.toNat) - shard.rank.toNat * shard.grain.toNat)
        shard.grain.toNat := by
    have rest : (keys % (shard.grain * shard.degree)).toNat = keys.toNat % (shard.grain.toNat * shard.degree.toNat) := by
      rw [UInt32.toNat_mod, geometry.span]
    split
    · rename_i after
      have later := UInt32.lt_iff_toNat_lt.mp after
      rw [first, rest] at later
      have less : (keys % (shard.grain * shard.degree) - shard.rank * shard.grain).toNat =
          keys.toNat % (shard.grain.toNat * shard.degree.toNat) - shard.rank.toNat * shard.grain.toNat := by
        rw [UInt32.toNat_sub_of_le _ _ (UInt32.le_iff_toNat_le.mpr (by rw [first, rest]; omega)), first, rest]
      split
      · rename_i small
        have within := UInt32.lt_iff_toNat_lt.mp small
        rw [less] at within
        rw [less, Nat.min_eq_left within.le]
      · rename_i large
        have beyond := UInt32.le_iff_toNat_le.mp (UInt32.not_lt.mp large)
        rw [less] at beyond
        rw [Nat.min_eq_right beyond]
    · rename_i before
      have earlier := UInt32.le_iff_toNat_le.mp (UInt32.not_lt.mp before)
      rw [first, rest] at earlier
      rw [Nat.sub_eq_zero_of_le earlier, Nat.zero_min, UInt32.toNat_zero]
  have counted : Interleave.localCount shard.grain.toNat shard.degree.toNat shard.rank.toNat keys.toNat ≤ keys.toNat := by
    rw [← Interleave.card_owned geometry.someGrain geometry.isRank]
    exact le_of_le_of_eq (Finset.card_filter_le _ _) (Finset.card_range _)
  have bound := keys.toNat_lt
  rw [Interleave.localCount] at counted ⊢
  rw [Shard.localKeys, UInt32.toNat_add, UInt32.toNat_mul, UInt32.toNat_div, geometry.span, part]
  rw [Nat.mod_eq_of_lt (a := _ * _) (by omega), Nat.mod_eq_of_lt (by omega)]

theorem slotInPage (position : UInt32) :
    (shard.slotInPage slots position).toNat =
      Interleave.localIndex shard.grain.toNat shard.degree.toNat (position.toNat % slots.toNat) := by
  have inPage : position.toNat % slots.toNat = (position % slots).toNat := (UInt32.toNat_mod _ _).symm
  rw [inPage, ← geometry.localIndex]
  rfl

/-- The number of keys a rank gathers, where it fits 32 bits. -/
theorem gatherKeys
    (fits : (keys.toNat + shard.grain.toNat * shard.degree.toNat - 1) / (shard.grain.toNat * shard.degree.toNat) *
      shard.grain.toNat < 2 ^ 32) :
    (shard.gatherKeys keys).toNat =
      (keys.toNat + shard.grain.toNat * shard.degree.toNat - 1) / (shard.grain.toNat * shard.degree.toNat) *
        shard.grain.toNat := by
  have someSpan := geometry.someSpan
  have span := geometry.span
  have nonzero : shard.grain * shard.degree ≠ 0 := by
    intro zero
    rw [zero, UInt32.toNat_zero] at span
    omega
  have bound := keys.toNat_lt
  have spanBound := (shard.grain * shard.degree).toNat_lt
  have sum : (keys.toUInt64 + (shard.grain * shard.degree).toUInt64 - 1).toNat =
      keys.toNat + shard.grain.toNat * shard.degree.toNat - 1 := by
    have adds : (keys.toUInt64 + (shard.grain * shard.degree).toUInt64).toNat =
        keys.toNat + shard.grain.toNat * shard.degree.toNat := by
      rw [UInt64.toNat_add, UInt32.toNat_toUInt64, UInt32.toNat_toUInt64, span, Nat.mod_eq_of_lt (by omega)]
    rw [UInt64.toNat_sub_of_le _ _ (UInt64.le_iff_toNat_le.mpr (by rw [adds]; exact Nat.le_add_left_of_le someSpan)),
      adds]
    rfl
  have fewer : (keys.toNat + shard.grain.toNat * shard.degree.toNat - 1) / (shard.grain.toNat * shard.degree.toNat) ≤
      (keys.toNat + shard.grain.toNat * shard.degree.toNat - 1) / (shard.grain.toNat * shard.degree.toNat) *
        shard.grain.toNat := Nat.le_mul_of_pos_right _ geometry.someGrain
  rw [Shard.gatherKeys, if_neg nonzero, UInt32.toNat_mul, UInt64.toNat_toUInt32, UInt64.toNat_div,
    sum, UInt32.toNat_toUInt64, span]
  rw [Nat.mod_eq_of_lt (a := _ / _) (by omega), Nat.mod_eq_of_lt (by omega)]

/-- The geometry is that of every rank of the group. -/
theorem other (isRank : rank < shard.degree) :
    ({ shard with rank } : Shard).Geometry slots :=
  ⟨UInt32.lt_iff_toNat_lt.mp isRank, geometry.someGrain, geometry.span, geometry.pages⟩

theorem pageSlots : ∃ spans, 0 < spans ∧
    slots.toNat = spans * (shard.grain.toNat * shard.degree.toNat) ∧
      (shard.pageSlots slots).toNat = spans * shard.grain.toNat := by
  obtain ⟨spans, someSpan, isSlots⟩ := geometry.pages
  refine ⟨spans, someSpan, isSlots, ?_⟩
  rw [Shard.pageSlots, UInt32.toNat_div, isSlots, ← Nat.mul_assoc, Nat.mul_div_cancel _ geometry.someRank]

/-- The slot of a position is its place, counted from the start of its page. -/
theorem slotInPage_eq (position : UInt32) :
    shard.slotInPage slots position = shard.localIndex position % shard.pageSlots slots := by
  obtain ⟨spans, someSpan, isSlots, perRank⟩ := geometry.pageSlots
  obtain ⟨split, inside⟩ :=
    @Interleave.localIndex_page _ _ position.toNat spans geometry.someGrain geometry.someRank someSpan
  apply UInt32.toNat_inj.mp
  rw [geometry.slotInPage, UInt32.toNat_mod, geometry.localIndex, perRank, isSlots, split]
  rw [Nat.add_comm, Nat.add_mul_mod_self_right, Nat.mod_eq_of_lt inside]

/-- A rank keeps two positions in different slots, or on different pages. -/
theorem slot_injective {other : UInt32} (owned : shard.owns position = true)
    (otherOwned : shard.owns other = true) (page : position / slots = other / slots)
    (slot : shard.slotInPage slots position = shard.slotInPage slots other) : position = other := by
  obtain ⟨spans, someSpan, isSlots, -⟩ := geometry.pageSlots
  have split : ∀ value : UInt32, _ := fun value =>
    (@Interleave.localIndex_page _ _ value.toNat spans geometry.someGrain geometry.someRank someSpan).1
  have samePage := congrArg UInt32.toNat page
  have sameSlot := congrArg UInt32.toNat slot
  rw [UInt32.toNat_div, UInt32.toNat_div, isSlots] at samePage
  rw [geometry.slotInPage, geometry.slotInPage, isSlots] at sameSlot
  have same : Interleave.localIndex shard.grain.toNat shard.degree.toNat position.toNat =
      Interleave.localIndex shard.grain.toNat shard.degree.toNat other.toNat := by
    rw [split position, split other, samePage, sameSlot]
  have ownedNat := (owns_iff shard position).mp owned
  have otherNat := (owns_iff shard other).mp otherOwned
  apply UInt32.toNat_inj.mp
  rw [← Interleave.localPosition_localIndex geometry.someGrain ownedNat, same,
    Interleave.localPosition_localIndex geometry.someGrain otherNat]

end Geometry

/-- Every position has one owner, which keeps it at the place that gives it back; the formulas
for the keys of a rank, for its slots and for its gathers describe the same interleaving. -/
theorem sharding_bijective (valid : shard.valid slots = true) :
    (∀ position, ∃! rank, rank < shard.degree ∧ ({ shard with rank } : Shard).owns position = true) ∧
    (∀ position, shard.owns position = true → shard.localPosition (shard.localIndex position) = position) ∧
    (∀ index, Interleave.localPosition shard.grain.toNat shard.degree.toNat shard.rank.toNat index.toNat < 2 ^ 32 →
      shard.owns (shard.localPosition index) = true ∧ shard.localIndex (shard.localPosition index) = index) ∧
    (∀ keys, (shard.localKeys keys).toNat =
      ((Finset.range keys.toNat).filter fun position => shard.owns (UInt32.ofNat position) = true).card) ∧
    (∀ keys, ∑ rank ∈ Finset.range shard.degree.toNat,
      (({ shard with rank := UInt32.ofNat rank } : Shard).localKeys keys).toNat = keys.toNat) ∧
    (∀ position, shard.slotInPage slots position = shard.localIndex position % (slots / shard.degree)) ∧
    (∀ position other, shard.owns position = true → shard.owns other = true → position / slots = other / slots →
      shard.slotInPage slots position = shard.slotInPage slots other → position = other) ∧
    ∀ keys, (keys.toNat + shard.grain.toNat * shard.degree.toNat - 1) / (shard.grain.toNat * shard.degree.toNat) *
      shard.grain.toNat < 2 ^ 32 →
        ∀ rank, rank < shard.degree → ({ shard with rank } : Shard).localKeys keys ≤ shard.gatherKeys keys := by
  have geometry := geometry_of_valid valid
  have someRank := geometry.someRank
  have degree := shard.degree.toNat_lt
  refine ⟨?_, ?_, ?_, ?_, ?_, geometry.slotInPage_eq, ?_, ?_⟩
  · intro position
    refine ⟨shard.owner position, ⟨?_, decide_eq_true rfl⟩, ?_⟩
    · rw [UInt32.lt_iff_toNat_lt, owner_toNat]
      exact Interleave.owner_lt someRank
    · rintro rank ⟨-, owns⟩
      exact (of_decide_eq_true owns).symm
  · intro position owned
    have place := Interleave.localPosition_localIndex geometry.someGrain ((owns_iff shard position).mp owned)
    rw [← geometry.localIndex] at place
    apply UInt32.toNat_inj.mp
    rw [geometry.localPosition, place]
    rw [place]
    exact position.toNat_lt
  · intro index fits
    have isPosition := geometry.localPosition fits
    constructor
    · rw [owns_iff, isPosition]
      exact Interleave.owner_localPosition geometry.someGrain geometry.isRank _
    · apply UInt32.toNat_inj.mp
      rw [geometry.localIndex, isPosition, Interleave.localIndex_localPosition geometry.someGrain geometry.isRank]
  · intro keys
    rw [geometry.localKeys, ← Interleave.card_owned geometry.someGrain geometry.isRank, Interleave.owned]
    congr 1
    apply Finset.filter_congr
    intro position member
    have bound := keys.toNat_lt
    have below := Finset.mem_range.mp member
    rw [owns_iff, UInt32.toNat_ofNat', Nat.mod_eq_of_lt (by omega)]
  · intro keys
    have shares : ∑ rank ∈ Finset.range shard.degree.toNat,
        Interleave.localCount shard.grain.toNat shard.degree.toNat rank keys.toNat = keys.toNat :=
      Interleave.sum_localCount geometry.someGrain someRank
    conv_rhs => rw [← shares]
    apply Finset.sum_congr rfl
    intro rank member
    have isRank := Finset.mem_range.mp member
    have small : (UInt32.ofNat rank).toNat = rank := by
      rw [UInt32.toNat_ofNat', Nat.mod_eq_of_lt (by omega)]
    have below : UInt32.ofNat rank < shard.degree := UInt32.lt_iff_toNat_lt.mpr (by rw [small]; exact isRank)
    have other := geometry.other below
    rw [other.localKeys, small]
  · intro position other owned otherOwned page slot
    exact geometry.slot_injective owned otherOwned page slot
  · intro keys fits rank isRank
    have other := geometry.other isRank
    rw [UInt32.le_iff_toNat_le, geometry.gatherKeys fits, other.localKeys]
    exact Interleave.localCount_le geometry.someGrain someRank

/-- Four ranks, grains of sixteen keys and pages of two spans. -/
theorem sharding_bijective_four :
    let shard : Shard := { degree := 4, rank := 1, grain := 16 }
    shard.valid 128 = true ∧ ∀ position, shard.owns position = true →
      shard.localPosition (shard.localIndex position) = position :=
  ⟨by decide, (sharding_bijective (by decide : ({ degree := 4, rank := 1, grain := 16 } : Shard).valid 128 = true)).2.1⟩

end Shard

end Sparkpipe.KvShard
