import Sparkpipe.Lib.Rounding
import Sparkpipe.Shard.Geometry

/-!
# Sections of a sharded context

The keys of a rank are moved in chunks of equal size, each a whole number of aligned units. A
slot of the section is found by its chunk, the rank that sends it and its place in the chunk.
-/

namespace Sparkpipe.KvShard

/-- `SparkKvShardSectionLayout`. -/
structure SectionLayout where
  keys : UInt64
  slotBytes : UInt64
  chunkBytes : UInt64 := 0
  chunkUnits : UInt32 := 0
  chunks : UInt32 := 0

/-- `SparkKvShardSectionLayoutBuild`; there is no result where it divides by zero. -/
def SectionLayout.build (keys slotBytes unitBytes : UInt64) (alignUnits capUnits : UInt32) : Option SectionLayout :=
  if keys = 0 ∨ slotBytes = 0 ∨ unitBytes = 0 ∨ alignUnits = 0 ∨ capUnits < alignUnits ∨
      alignUnits.toUInt64 * unitBytes % slotBytes ≠ 0 then
    some { keys, slotBytes }
  else
    let align := alignUnits.toUInt64
    let cap := capUnits.toUInt64 / align * align
    let units := (keys * slotBytes + unitBytes - 1) / unitBytes
    let units := (units + align - 1) / align * align
    let chunks := ((units + cap - 1) / cap).toUInt32
    if chunks = 0 then none
    else
      let per := (units + chunks.toUInt64 - 1) / chunks.toUInt64
      let chunkUnits := ((per + align - 1) / align * align).toUInt32
      some { keys, slotBytes, chunks, chunkUnits, chunkBytes := chunkUnits.toUInt64 * unitBytes }

/-- `SparkKvShardSectionSlot`. -/
def Shard.sectionSlot (shard : Shard) (layout : SectionLayout) (position : UInt32) : UInt64 :=
  let byte := (shard.localIndex position).toUInt64 * layout.slotBytes
  (byte / layout.chunkBytes * shard.degree.toUInt64 + (shard.owner position).toUInt64) *
      (layout.chunkBytes / layout.slotBytes) +
    byte % layout.chunkBytes / layout.slotBytes

namespace SectionLayout

/-- The largest number of units a chunk may have, whole alignments under the cap. -/
def capOf (alignUnits capUnits : UInt32) : Nat := capUnits.toNat / alignUnits.toNat * alignUnits.toNat

/-- The units of a section, whole alignments. -/
def unitsOf (keys slotBytes unitBytes : UInt64) (alignUnits : UInt32) : Nat :=
  keys.toNat * slotBytes.toNat ⌈/⌉ unitBytes.toNat ⌈/⌉ alignUnits.toNat * alignUnits.toNat

/-- How many chunks of at most the cap the section needs. -/
def chunksOf (keys slotBytes unitBytes : UInt64) (alignUnits capUnits : UInt32) : Nat :=
  unitsOf keys slotBytes unitBytes alignUnits ⌈/⌉ capOf alignUnits capUnits

/-- The slots of all ranks fill the chunks: no two share a slot, and none lies beyond. -/
def Fills (layout : SectionLayout) (shard : Shard) : Prop :=
  (∀ position other, (shard.localIndex position).toNat < layout.keys.toNat →
    (shard.localIndex other).toNat < layout.keys.toNat →
    shard.sectionSlot layout position = shard.sectionSlot layout other →
      shard.owner position = shard.owner other ∧ shard.localIndex position = shard.localIndex other) ∧
  ∀ position, (shard.localIndex position).toNat < layout.keys.toNat → (shard.sectionSlot layout position).toNat <
    layout.chunks.toNat * shard.degree.toNat * (layout.chunkBytes.toNat / layout.slotBytes.toNat)

/-- The chunks are whole alignments under the cap, they cover the section and cut no slot, and
the slots of every valid shard whose count fits fill them. -/
structure Packs (layout : SectionLayout) (alignUnits capUnits : UInt32) : Prop where
  some : 0 < layout.chunkUnits.toNat
  aligned : alignUnits.toNat ∣ layout.chunkUnits.toNat
  capped : layout.chunkUnits ≤ capUnits
  covers : layout.keys.toNat * layout.slotBytes.toNat ≤ layout.chunks.toNat * layout.chunkBytes.toNat
  whole : layout.slotBytes.toNat ∣ layout.chunkBytes.toNat
  fills : ∀ shard : Shard, ∀ pageSlots, shard.valid pageSlots = true →
    layout.chunks.toNat * shard.degree.toNat * (layout.chunkBytes.toNat / layout.slotBytes.toNat) < 2 ^ 64 →
      layout.Fills shard

variable {keys slotBytes unitBytes : UInt64} {alignUnits capUnits : UInt32} {layout : SectionLayout}

/-- What a layout with chunks was built from. -/
structure Built (keys slotBytes unitBytes : UInt64) (alignUnits capUnits : UInt32) (layout : SectionLayout) : Prop where
  someSlot : 0 < slotBytes.toNat
  someUnit : 0 < unitBytes.toNat
  someAlign : 0 < alignUnits.toNat
  someCap : 0 < capOf alignUnits capUnits
  someKeys : 0 < keys.toNat
  whole : (alignUnits.toUInt64 * unitBytes).toNat % slotBytes.toNat = 0
  chunks : layout.chunks.toNat = chunksOf keys slotBytes unitBytes alignUnits capUnits % 2 ^ 32
  chunkUnits : chunksOf keys slotBytes unitBytes alignUnits capUnits < 2 ^ 32 → layout.chunkUnits.toNat =
    (unitsOf keys slotBytes unitBytes alignUnits ⌈/⌉ chunksOf keys slotBytes unitBytes alignUnits capUnits)
      ⌈/⌉ alignUnits.toNat * alignUnits.toNat
  chunkBytes : layout.chunkBytes = layout.chunkUnits.toUInt64 * unitBytes
  sameKeys : layout.keys = keys
  sameSlot : layout.slotBytes = slotBytes

theorem capOf_le (alignUnits capUnits : UInt32) : capOf alignUnits capUnits ≤ capUnits.toNat := Nat.div_mul_le_self _ _

/-- A layout with chunks comes from sums that did not wrap: a wrapped one leaves no chunk. -/
theorem built_of (built : build keys slotBytes unitBytes alignUnits capUnits = .some layout)
    (chunks : layout.chunks ≠ 0) (product : keys.toNat * slotBytes.toNat < 2 ^ 64) :
    Built keys slotBytes unitBytes alignUnits capUnits layout := by
  unfold build at built
  split at built
  · cases built
    exact absurd rfl chunks
  rename_i checked
  simp only [not_or, ne_eq, not_not, UInt32.not_lt] at checked
  obtain ⟨someKeys, someSlot, someUnit, someAlign, capped, whole⟩ := checked
  dsimp only at built
  have positive : ∀ value : UInt64, value ≠ 0 → 0 < value.toNat := by
    intro value nonzero
    exact Nat.pos_of_ne_zero fun zero => nonzero (UInt64.toNat_inj.mp zero)
  have align : alignUnits.toUInt64.toNat = alignUnits.toNat := UInt32.toNat_toUInt64 _
  have alignPositive : 0 < alignUnits.toNat := Nat.pos_of_ne_zero fun zero => someAlign (UInt32.toNat_inj.mp zero)
  have alignNonzero : alignUnits.toUInt64 ≠ 0 := by
    intro zero
    rw [zero] at align
    exact absurd align.symm (Nat.ne_of_gt alignPositive)
  have capBound := capUnits.toNat_lt
  have cap : (capUnits.toUInt64 / alignUnits.toUInt64 * alignUnits.toUInt64).toNat = capOf alignUnits capUnits := by
    have less := capOf_le alignUnits capUnits
    unfold capOf at less ⊢
    rw [UInt64.toNat_mul, UInt64.toNat_div, UInt32.toNat_toUInt64, align, Nat.mod_eq_of_lt (by omega)]
  have someCap : 0 < capOf alignUnits capUnits :=
    Nat.mul_pos (Nat.div_pos (UInt32.le_iff_toNat_le.mp capped) alignPositive) alignPositive
  have bytes : (keys * slotBytes).toNat = keys.toNat * slotBytes.toNat := by
    rw [UInt64.toNat_mul, Nat.mod_eq_of_lt product]
  generalize isCap : capUnits.toUInt64 / alignUnits.toUInt64 * alignUnits.toUInt64 = capWord at built cap
  have capNonzero : capWord ≠ 0 := by
    rintro rfl
    rw [UInt64.toNat_zero] at cap
    omega
  split at built
  · cases built
  rename_i notZero
  -- no sum has wrapped: a wrapped one is zero, and leaves no chunk
  have none : ∀ unit : UInt64, ((0 + unit - 1) / unit).toUInt32 = 0 := by
    intro unit
    rw [Rounding.uint64_zero]
    rfl
  rcases Rounding.uint64_cases (keys * slotBytes) unitBytes someUnit with ⟨-, units⟩ | ⟨-, wrapped⟩
  swap
  · rw [wrapped, Rounding.uint64_zero, UInt64.zero_mul] at notZero
    exact absurd (none capWord) notZero
  rw [bytes] at units
  generalize (keys * slotBytes + unitBytes - 1) / unitBytes = unitWord at built notZero units
  rcases Rounding.uint64_cases unitWord alignUnits.toUInt64 alignNonzero with ⟨fits, alignments⟩ | ⟨-, wrapped⟩
  swap
  · rw [wrapped, UInt64.zero_mul] at notZero
    exact absurd (none capWord) notZero
  rw [units, align] at alignments fits
  have aligned : ((unitWord + alignUnits.toUInt64 - 1) / alignUnits.toUInt64 * alignUnits.toUInt64).toNat =
      unitsOf keys slotBytes unitBytes alignUnits := by
    have less := Rounding.mul_lt alignPositive (keys.toNat * slotBytes.toNat ⌈/⌉ unitBytes.toNat)
    rw [UInt64.toNat_mul, alignments, align, Nat.mod_eq_of_lt (by omega)]
    rfl
  generalize (unitWord + alignUnits.toUInt64 - 1) / alignUnits.toUInt64 * alignUnits.toUInt64 = alignedWord
    at built notZero aligned
  rcases Rounding.uint64_cases alignedWord capWord capNonzero with ⟨-, count⟩ | ⟨-, wrapped⟩
  swap
  · rw [wrapped] at notZero
    exact absurd rfl notZero
  rw [aligned, cap] at count
  have chunkCount : ((alignedWord + capWord - 1) / capWord).toUInt32.toNat =
      chunksOf keys slotBytes unitBytes alignUnits capUnits % 2 ^ 32 := by
    rw [UInt64.toNat_toUInt32, count]
    rfl
  generalize ((alignedWord + capWord - 1) / capWord).toUInt32 = chunkWord at built notZero chunkCount
  cases built
  refine ⟨positive _ someSlot, positive _ someUnit, alignPositive, someCap, positive _ someKeys, ?_, chunkCount, ?_,
    rfl, rfl, rfl⟩
  · have zero := congrArg UInt64.toNat whole
    rw [UInt64.toNat_mod, UInt64.toNat_zero] at zero
    exact zero
  · intro small
    rw [Nat.mod_eq_of_lt small] at chunkCount
    have someChunk : 0 < chunkWord.toNat := Nat.pos_of_ne_zero fun zero => notZero (UInt32.toNat_inj.mp zero)
    have chunk : chunkWord.toUInt64.toNat = chunksOf keys slotBytes unitBytes alignUnits capUnits :=
      (UInt32.toNat_toUInt64 _).trans chunkCount
    have chunkNonzero : chunkWord.toUInt64 ≠ 0 := by
      intro zero
      rw [zero, UInt64.toNat_zero] at chunk
      omega
    have capLess := capOf_le alignUnits capUnits
    have units : unitsOf keys slotBytes unitBytes alignUnits ≤
        capOf alignUnits capUnits * chunksOf keys slotBytes unitBytes alignUnits capUnits := by
      rw [Nat.mul_comm]
      exact Rounding.le_mul someCap _
    have share : unitsOf keys slotBytes unitBytes alignUnits ⌈/⌉
        chunksOf keys slotBytes unitBytes alignUnits capUnits ≤ capOf alignUnits capUnits :=
      (Rounding.le_iff (by omega)).mpr units
    have rounded := Rounding.mul_le alignPositive
      (Nat.dvd_mul_left alignUnits.toNat (capUnits.toNat / alignUnits.toNat)) share
    change _ ≤ capOf alignUnits capUnits at rounded
    have product := Nat.mul_le_mul (show capOf alignUnits capUnits ≤ 2 ^ 32 - 1 by omega)
      (show chunksOf keys slotBytes unitBytes alignUnits capUnits ≤ 2 ^ 32 - 1 by omega)
    have alignBound := alignUnits.toNat_lt
    rcases Rounding.uint64_cases alignedWord chunkWord.toUInt64 chunkNonzero with ⟨-, per⟩ | ⟨wraps, -⟩
    swap
    · rw [aligned, chunk] at wraps
      omega
    rw [aligned, chunk] at per
    rcases Rounding.uint64_cases ((alignedWord + chunkWord.toUInt64 - 1) / chunkWord.toUInt64) alignUnits.toUInt64
      alignNonzero with ⟨-, perAligned⟩ | ⟨wraps, -⟩
    swap
    · rw [per, align] at wraps
      omega
    rw [per, align] at perAligned
    rw [UInt64.toNat_toUInt32, UInt64.toNat_mul, perAligned, align]
    rw [Nat.mod_eq_of_lt (a := _ ⌈/⌉ _ * _) (by omega), Nat.mod_eq_of_lt (by omega)]

/-- The slots of a layout that covers its keys with whole slots fill it: a rank's slots are dealt
to the chunks as positions are to the ranks. -/
theorem fills {shard : Shard} {pageSlots : UInt32} (valid : shard.valid pageSlots = true)
    (someSlot : 0 < layout.slotBytes.toNat) (someChunk : 0 < layout.chunkBytes.toNat)
    (product : layout.keys.toNat * layout.slotBytes.toNat < 2 ^ 64)
    (covers : layout.keys.toNat * layout.slotBytes.toNat ≤ layout.chunks.toNat * layout.chunkBytes.toNat)
    (whole : layout.slotBytes.toNat ∣ layout.chunkBytes.toNat)
    (fits : layout.chunks.toNat * shard.degree.toNat * (layout.chunkBytes.toNat / layout.slotBytes.toNat) < 2 ^ 64) :
    layout.Fills shard := by
  have geometry := Shard.geometry_of_valid valid
  obtain ⟨slots, isChunk⟩ := whole
  have isSlots : layout.chunkBytes.toNat / layout.slotBytes.toNat = slots := by
    rw [isChunk, Nat.mul_div_cancel_left _ someSlot]
  have someSlots : 0 < slots := by
    apply Nat.pos_of_ne_zero
    rintro rfl
    omega
  have keysFit : layout.keys.toNat ≤ layout.chunks.toNat * slots := by
    apply Nat.le_of_mul_le_mul_right (c := layout.slotBytes.toNat) _ someSlot
    rw [Nat.mul_assoc, Nat.mul_comm slots, ← isChunk]
    exact covers
  have isOwner : ∀ position, (shard.owner position).toNat < shard.degree.toNat := by
    intro position
    rw [Shard.owner_toNat]
    exact Interleave.owner_lt geometry.someRank
  have slot : ∀ position, (shard.localIndex position).toNat < layout.keys.toNat →
      (shard.sectionSlot layout position).toNat = Interleave.localPosition slots shard.degree.toNat
        (shard.owner position).toNat (shard.localIndex position).toNat ∧
      Interleave.localPosition slots shard.degree.toNat (shard.owner position).toNat
        (shard.localIndex position).toNat < layout.chunks.toNat * shard.degree.toNat * slots := by
    intro position below
    have owned := isOwner position
    generalize isIndex : (shard.localIndex position).toNat = index at below
    generalize isRank : (shard.owner position).toNat = rank at owned
    have chunk : index / slots + 1 ≤ layout.chunks.toNat := by
      apply (Nat.div_lt_iff_lt_mul someSlots).mpr
      omega
    have place : index % slots < slots := Nat.mod_lt _ someSlots
    have turns : index / slots * shard.degree.toNat + rank + 1 ≤ layout.chunks.toNat * shard.degree.toNat := by
      have steps := Nat.mul_le_mul_right shard.degree.toNat chunk
      rw [Nat.succ_mul] at steps
      omega
    have bound : Interleave.localPosition slots shard.degree.toNat rank index <
        layout.chunks.toNat * shard.degree.toNat * slots := by
      have steps := Nat.mul_le_mul_right slots turns
      rw [Nat.succ_mul] at steps
      rw [Interleave.localPosition]
      omega
    refine ⟨?_, bound⟩
    have turn : index / slots * shard.degree.toNat + rank ≤
        (index / slots * shard.degree.toNat + rank) * slots := Nat.le_mul_of_pos_right _ someSlots
    rw [isSlots] at fits
    rw [Interleave.localPosition] at bound ⊢
    have byte : ((shard.localIndex position).toUInt64 * layout.slotBytes).toNat = index * layout.slotBytes.toNat := by
      have less : index * layout.slotBytes.toNat ≤ layout.keys.toNat * layout.slotBytes.toNat :=
        Nat.mul_le_mul_right _ below.le
      rw [UInt64.toNat_mul, UInt32.toNat_toUInt64, isIndex, Nat.mod_eq_of_lt (by omega)]
    have quotient : ((shard.localIndex position).toUInt64 * layout.slotBytes / layout.chunkBytes).toNat =
        index / slots := by
      rw [UInt64.toNat_div, byte, isChunk, Nat.mul_comm layout.slotBytes.toNat, Nat.mul_div_mul_right _ _ someSlot]
    have rest : ((shard.localIndex position).toUInt64 * layout.slotBytes % layout.chunkBytes / layout.slotBytes).toNat =
        index % slots := by
      rw [UInt64.toNat_div, UInt64.toNat_mod, byte, isChunk, Nat.mul_comm layout.slotBytes.toNat,
        Nat.mul_mod_mul_right, Nat.mul_div_cancel _ someSlot]
    rw [Shard.sectionSlot, UInt64.toNat_add, UInt64.toNat_mul, UInt64.toNat_add, UInt64.toNat_mul,
      quotient, rest, UInt64.toNat_div,
      isSlots, UInt32.toNat_toUInt64, UInt32.toNat_toUInt64, isRank]
    rw [Nat.mod_eq_of_lt (a := _ / _ * _) (by omega), Nat.mod_eq_of_lt (a := _ / _ * _ + _) (by omega),
      Nat.mod_eq_of_lt (a := (_ + _) * _) (by omega), Nat.mod_eq_of_lt (by omega)]
  constructor
  · intro position other below otherBelow same
    have found := (slot position below).1
    have otherFound := (slot other otherBelow).1
    rw [same] at found
    have positions := found.symm.trans otherFound
    constructor
    · have owners := congrArg (Interleave.owner slots shard.degree.toNat) positions
      rw [Interleave.owner_localPosition someSlots (isOwner position),
        Interleave.owner_localPosition someSlots (isOwner other)] at owners
      exact UInt32.toNat_inj.mp owners
    · have places := congrArg (Interleave.localIndex slots shard.degree.toNat) positions
      rw [Interleave.localIndex_localPosition someSlots (isOwner position),
        Interleave.localIndex_localPosition someSlots (isOwner other)] at places
      exact UInt32.toNat_inj.mp places
  · intro position below
    obtain ⟨found, bound⟩ := slot position below
    rw [found, isSlots]
    exact bound

/-- A layout with chunks packs its section exactly when the number of chunks it needs fits 32
bits: it is cut to 32 bits before the chunks are sized. -/
theorem packs_iff (built : build keys slotBytes unitBytes alignUnits capUnits = .some layout)
    (chunks : layout.chunks ≠ 0) (sectionFits : keys.toNat * slotBytes.toNat < 2 ^ 64)
    (alignFits : alignUnits.toNat * unitBytes.toNat < 2 ^ 64)
    (chunkFits : layout.chunkUnits.toNat * unitBytes.toNat < 2 ^ 64) :
    layout.Packs alignUnits capUnits ↔ chunksOf keys slotBytes unitBytes alignUnits capUnits < 2 ^ 32 := by
  have from_ := built_of built chunks sectionFits
  have chunkBytes : layout.chunkBytes.toNat = layout.chunkUnits.toNat * unitBytes.toNat := by
    rw [from_.chunkBytes, UInt64.toNat_mul, UInt32.toNat_toUInt64, Nat.mod_eq_of_lt chunkFits]
  have capAligned : alignUnits.toNat ∣ capOf alignUnits capUnits := Nat.dvd_mul_left _ _
  constructor
  · intro packs
    by_contra large
    -- chunks under the cap that cover the section are at least as many as it needs
    have below : layout.chunkUnits.toNat ≤ capOf alignUnits capUnits := by
      obtain ⟨count, isCount⟩ := packs.aligned
      have capped := UInt32.le_iff_toNat_le.mp packs.capped
      rw [isCount, Nat.mul_comm] at capped ⊢
      exact Nat.mul_le_mul_right _ ((Nat.le_div_iff_mul_le from_.someAlign).mpr capped)
    have covers := packs.covers
    rw [chunkBytes, ← Nat.mul_assoc, from_.sameKeys, from_.sameSlot] at covers
    have units : keys.toNat * slotBytes.toNat ⌈/⌉ unitBytes.toNat ≤
        layout.chunks.toNat * capOf alignUnits capUnits :=
      le_trans ((Rounding.le_iff from_.someUnit).mpr covers) (Nat.mul_le_mul_left _ below)
    have aligned : unitsOf keys slotBytes unitBytes alignUnits ≤ layout.chunks.toNat * capOf alignUnits capUnits :=
      Rounding.mul_le from_.someAlign (Dvd.dvd.mul_left capAligned _) units
    have needed : chunksOf keys slotBytes unitBytes alignUnits capUnits ≤ layout.chunks.toNat :=
      (Rounding.le_iff from_.someCap).mpr aligned
    rw [from_.chunks] at needed
    omega
  · intro small
    have exact_ := from_.chunks
    rw [Nat.mod_eq_of_lt small] at exact_
    have someChunk : 0 < layout.chunks.toNat := Nat.pos_of_ne_zero fun zero => chunks (UInt32.toNat_inj.mp zero)
    have sized := from_.chunkUnits small
    have someBytes : 0 < keys.toNat * slotBytes.toNat := Nat.mul_pos from_.someKeys from_.someSlot
    have someUnits : 0 < unitsOf keys slotBytes unitBytes alignUnits :=
      Nat.mul_pos (Rounding.pos from_.someAlign (Rounding.pos from_.someUnit someBytes)) from_.someAlign
    have share : unitsOf keys slotBytes unitBytes alignUnits ⌈/⌉
        chunksOf keys slotBytes unitBytes alignUnits capUnits ≤ capOf alignUnits capUnits := by
      apply (Rounding.le_iff (by omega)).mpr
      rw [Nat.mul_comm]
      exact Rounding.le_mul from_.someCap _
    have covers : keys.toNat * slotBytes.toNat ≤ layout.chunks.toNat * layout.chunkBytes.toNat := by
      rw [chunkBytes, sized, exact_, ← Nat.mul_assoc]
      apply (Rounding.le_iff from_.someUnit).mp
      calc keys.toNat * slotBytes.toNat ⌈/⌉ unitBytes.toNat
          ≤ unitsOf keys slotBytes unitBytes alignUnits := Rounding.le_mul from_.someAlign _
        _ ≤ unitsOf keys slotBytes unitBytes alignUnits ⌈/⌉
              chunksOf keys slotBytes unitBytes alignUnits capUnits *
              chunksOf keys slotBytes unitBytes alignUnits capUnits := Rounding.le_mul (by omega) _
        _ ≤ chunksOf keys slotBytes unitBytes alignUnits capUnits *
              (unitsOf keys slotBytes unitBytes alignUnits ⌈/⌉
                chunksOf keys slotBytes unitBytes alignUnits capUnits ⌈/⌉ alignUnits.toNat * alignUnits.toNat) := by
          rw [Nat.mul_comm]
          exact Nat.mul_le_mul_left _ (Rounding.le_mul from_.someAlign _)
    have aligned : alignUnits.toNat ∣ layout.chunkUnits.toNat := by
      rw [sized]
      exact Nat.dvd_mul_left _ _
    have some : 0 < layout.chunkUnits.toNat := by
      rw [sized]
      exact Nat.mul_pos (Rounding.pos from_.someAlign (Rounding.pos (by omega) someUnits)) from_.someAlign
    have whole : layout.slotBytes.toNat ∣ layout.chunkBytes.toNat := by
      have wholeAlign := from_.whole
      rw [UInt64.toNat_mul, UInt32.toNat_toUInt64, Nat.mod_eq_of_lt alignFits] at wholeAlign
      rw [chunkBytes, from_.sameSlot]
      exact Dvd.dvd.trans (Nat.dvd_of_mod_eq_zero wholeAlign) (Nat.mul_dvd_mul_right aligned _)
    have product : layout.keys.toNat * layout.slotBytes.toNat < 2 ^ 64 := by
      rw [from_.sameKeys, from_.sameSlot]
      exact sectionFits
    rw [← from_.sameKeys, ← from_.sameSlot] at covers
    refine ⟨some, aligned, ?_, covers, whole, ?_⟩
    · rw [UInt32.le_iff_toNat_le, sized]
      exact le_trans (Rounding.mul_le from_.someAlign capAligned share) (capOf_le _ _)
    · intro shard pageSlots valid fits
      refine SectionLayout.fills valid ?_ ?_ product covers whole fits
      · rw [from_.sameSlot]
        exact from_.someSlot
      · rw [chunkBytes]
        exact Nat.mul_pos some from_.someUnit

/-- Keys of a byte each in chunks of at most one unit: one key more than 32 bits count is given
a single chunk of one byte. -/
theorem not_packs : ∃ layout, build 4294967297 1 1 1 1 = .some layout ∧ layout.chunks = 1 ∧ layout.chunkBytes = 1 ∧
    ¬ layout.Packs 1 1 := by
  refine ⟨_, rfl, rfl, rfl, fun packs => ?_⟩
  have covers := packs.covers
  revert covers
  decide

/-- A thousand keys of sixteen bytes, in chunks of at most forty aligned units. -/
theorem packs_thousand : ∃ layout, build 1000 16 64 4 40 = .some layout ∧
    (layout.Packs 4 40 ↔ chunksOf 1000 16 64 4 40 < 2 ^ 32) :=
  ⟨_, rfl, packs_iff rfl (by decide) (by decide) (by decide) (by decide)⟩

end SectionLayout

end Sparkpipe.KvShard
