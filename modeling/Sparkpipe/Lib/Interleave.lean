import Mathlib.Algebra.BigOperators.Group.Finset.Basic
import Mathlib.Algebra.Order.BigOperators.Group.Finset
import Mathlib.Data.Finset.Card
import Mathlib.Tactic.Ring

/-!
# Interleaving by grains

Positions are dealt to the ranks of a group in turns of one grain each. A position is a span of
turns, a rank and a place in the grain; a rank keeps its own positions packed, by span and place.
-/

namespace Sparkpipe.Interleave

variable {grain degree rank index position keys : Nat}

/-- The rank that a position is dealt to. -/
def owner (grain degree position : Nat) : Nat := position / grain % degree

/-- The place of a position among those of its rank. -/
def localIndex (grain degree position : Nat) : Nat := position / (grain * degree) * grain + position % grain

/-- The position that a rank keeps at a place. -/
def localPosition (grain degree rank index : Nat) : Nat :=
  (index / grain * degree + rank) * grain + index % grain

/-- How many of the first positions a rank keeps. -/
def localCount (grain degree rank keys : Nat) : Nat :=
  keys / (grain * degree) * grain + min (keys % (grain * degree) - rank * grain) grain

theorem owner_lt (someRank : 0 < degree) : owner grain degree position < degree := Nat.mod_lt _ someRank

/-- A count and a rest below the unit are what division gives back. -/
theorem divMod_parts {count rest : Nat} (small : rest < grain) :
    (count * grain + rest) / grain = count ∧ (count * grain + rest) % grain = rest := by
  constructor
  · rw [Nat.add_comm, Nat.add_mul_div_right _ _ (by omega), Nat.div_eq_of_lt small, Nat.zero_add]
  · rw [Nat.add_comm, Nat.add_mul_mod_self_right, Nat.mod_eq_of_lt small]

/-- Counts of a unit are compared before the rests. -/
theorem parts_lt {count other rest bound : Nat} (small : rest < grain) (atMost : bound ≤ grain) :
    count * grain + rest < other * grain + bound ↔ count < other ∨ count = other ∧ rest < bound := by
  rcases Nat.lt_trichotomy count other with less | rfl | more
  · have steps : (count + 1) * grain ≤ other * grain := Nat.mul_le_mul_right grain less
    rw [Nat.succ_mul] at steps
    constructor
    · intro _
      exact .inl less
    · intro _
      omega
  · omega
  · have steps : (other + 1) * grain ≤ count * grain := Nat.mul_le_mul_right grain more
    rw [Nat.succ_mul] at steps
    constructor
    · intro below
      omega
    · rintro (less | ⟨same, -⟩) <;> omega

/-- What the parts of a position say of it. -/
theorem of_parts {span place : Nat} (isRank : rank < degree) (inGrain : place < grain) :
    owner grain degree ((span * degree + rank) * grain + place) = rank ∧
      ((span * degree + rank) * grain + place) / (grain * degree) = span ∧
      ((span * degree + rank) * grain + place) % grain = place := by
  obtain ⟨turns, rest⟩ := @divMod_parts grain (span * degree + rank) place inGrain
  obtain ⟨spans, ranks⟩ := @divMod_parts degree span rank isRank
  refine ⟨?_, ?_, rest⟩
  · rw [owner, turns, ranks]
  · rw [← Nat.div_div_eq_div_mul, turns, spans]

/-- A position is made of its span, its rank and its place. -/
theorem parts (grain degree position : Nat) : position =
    (position / (grain * degree) * degree + owner grain degree position) * grain + position % grain := by
  rw [← Nat.div_div_eq_div_mul, owner, Nat.div_add_mod', Nat.div_add_mod']

/-- A rank finds its position again. -/
theorem localPosition_localIndex (someGrain : 0 < grain) (owned : owner grain degree position = rank) :
    localPosition grain degree rank (localIndex grain degree position) = position := by
  obtain ⟨spans, place⟩ := @divMod_parts grain (position / (grain * degree)) (position % grain)
    (Nat.mod_lt _ someGrain)
  rw [localPosition, localIndex, spans, place, ← owned]
  exact (parts grain degree position).symm

/-- What a rank keeps at a place is its own. -/
theorem owner_localPosition (someGrain : 0 < grain) (isRank : rank < degree) (index : Nat) :
    owner grain degree (localPosition grain degree rank index) = rank :=
  (of_parts isRank (Nat.mod_lt _ someGrain)).1

theorem localIndex_localPosition (someGrain : 0 < grain) (isRank : rank < degree) (index : Nat) :
    localIndex grain degree (localPosition grain degree rank index) = index := by
  obtain ⟨-, span, place⟩ := @of_parts grain degree rank (index / grain) (index % grain) isRank (Nat.mod_lt _ someGrain)
  rw [localIndex, localPosition, span, place, Nat.div_add_mod']

/-- The positions below a bound are those that a rank keeps below its count of them. -/
theorem localIndex_lt (someGrain : 0 < grain) (someRank : 0 < degree) (owned : owner grain degree position = rank) :
    localIndex grain degree position < localCount grain degree rank keys ↔ position < keys := by
  have isRank : rank < degree := owned ▸ owner_lt someRank
  have place : position % grain < grain := Nat.mod_lt _ someGrain
  have whole := parts grain degree position
  have wholeKeys := parts grain degree keys
  have rest : keys % (grain * degree) = owner grain degree keys * grain + keys % grain := by
    have split := Nat.div_add_mod keys (grain * degree)
    have spans : grain * degree * (keys / (grain * degree)) = keys / (grain * degree) * degree * grain := by ring
    rw [Nat.add_mul] at wholeKeys
    omega
  have otherRank : owner grain degree keys < degree := owner_lt someRank
  have otherPlace : keys % grain < grain := Nat.mod_lt _ someGrain
  rw [localIndex, localCount, parts_lt place (Nat.min_le_right _ _), rest]
  conv_rhs => rw [whole, wholeKeys, parts_lt place otherPlace.le, owned]
  generalize position / (grain * degree) = span
  generalize keys / (grain * degree) = otherSpan
  generalize position % grain = place at place
  generalize keys % grain = otherPlace at otherPlace
  generalize owner grain degree keys = other at otherRank
  -- the rank comes before, at or after the one that the bound falls in
  rw [parts_lt isRank otherRank.le]
  have apart : span * degree + rank = otherSpan * degree + other ↔ span = otherSpan ∧ rank = other := by
    constructor
    · intro same
      have first := @divMod_parts degree span rank isRank
      have second := @divMod_parts degree otherSpan other otherRank
      rw [same] at first
      exact ⟨first.1.symm.trans second.1, first.2.symm.trans second.2⟩
    · rintro ⟨rfl, rfl⟩
      rfl
  rw [apart]
  rcases Nat.lt_trichotomy rank other with less | rfl | more
  · have steps : (rank + 1) * grain ≤ other * grain := Nat.mul_le_mul_right grain less
    rw [Nat.succ_mul] at steps
    rw [Nat.min_eq_right (by omega)]
    omega
  · rw [Nat.min_eq_left (by omega)]
    omega
  · have steps : (other + 1) * grain ≤ rank * grain := Nat.mul_le_mul_right grain more
    rw [Nat.succ_mul] at steps
    rw [Nat.min_eq_left (by omega)]
    omega

/-- The positions below a bound that a rank keeps. -/
def owned (grain degree rank keys : Nat) : Finset Nat :=
  (Finset.range keys).filter fun position => owner grain degree position = rank

/-- The formula counts them. -/
theorem card_owned (someGrain : 0 < grain) (isRank : rank < degree) :
    (owned grain degree rank keys).card = localCount grain degree rank keys := by
  have someRank : 0 < degree := by omega
  rw [← Finset.card_range (localCount grain degree rank keys)]
  apply Finset.card_nbij' (localIndex grain degree) (localPosition grain degree rank)
  · intro position member
    obtain ⟨below, owned⟩ := Finset.mem_filter.mp (Finset.mem_coe.mp member)
    rw [Finset.mem_coe, Finset.mem_range]
    exact (localIndex_lt someGrain someRank owned).mpr (Finset.mem_range.mp below)
  · intro index member
    have owned : owner grain degree (localPosition grain degree rank index) = rank :=
      owner_localPosition someGrain isRank index
    rw [Finset.mem_coe, Finset.mem_range] at member
    rw [Finset.mem_coe, Interleave.owned, Finset.mem_filter, Finset.mem_range]
    refine ⟨(localIndex_lt someGrain someRank owned).mp ?_, owned⟩
    rw [localIndex_localPosition someGrain isRank]
    exact member
  · intro position member
    exact localPosition_localIndex someGrain (Finset.mem_filter.mp (Finset.mem_coe.mp member)).2
  · intro index _
    exact localIndex_localPosition someGrain isRank index

/-- The ranks share all positions below a bound. -/
theorem sum_localCount (someGrain : 0 < grain) (someRank : 0 < degree) :
    ∑ rank ∈ Finset.range degree, localCount grain degree rank keys = keys := by
  have shares := Finset.card_eq_sum_card_fiberwise (s := Finset.range keys) (t := Finset.range degree)
    (f := owner grain degree) fun position _ => Finset.mem_coe.mpr (Finset.mem_range.mpr (owner_lt someRank))
  rw [Finset.card_range] at shares
  conv_rhs => rw [shares]
  apply Finset.sum_congr rfl
  intro rank member
  exact (card_owned someGrain (Finset.mem_range.mp member)).symm

/-- A rank keeps at most a grain of each span that the bound has begun. -/
theorem localCount_le (someGrain : 0 < grain) (someRank : 0 < degree) :
    localCount grain degree rank keys ≤ (keys + grain * degree - 1) / (grain * degree) * grain := by
  have someSpan : 0 < grain * degree := Nat.mul_pos someGrain someRank
  by_cases whole : keys % (grain * degree) = 0
  · rw [localCount, whole, Nat.zero_sub, Nat.zero_min, Nat.add_zero]
    apply Nat.mul_le_mul_right
    apply Nat.div_le_div_right
    omega
  · have begun : keys / (grain * degree) + 1 ≤ (keys + grain * degree - 1) / (grain * degree) := by
      rw [Nat.le_div_iff_mul_le someSpan, Nat.succ_mul, Nat.mul_comm]
      have split := Nat.div_add_mod keys (grain * degree)
      omega
    have steps := Nat.mul_le_mul_right grain begun
    rw [Nat.succ_mul] at steps
    rw [localCount]
    have atMost := Nat.min_le_right (keys % (grain * degree) - rank * grain) grain
    omega

/-- Pages of whole spans cut the places of a rank into equal runs. -/
theorem localIndex_page {spans : Nat} (someGrain : 0 < grain) (someRank : 0 < degree) (someSpan : 0 < spans) :
    localIndex grain degree position =
        position / (spans * (grain * degree)) * (spans * grain) +
          localIndex grain degree (position % (spans * (grain * degree))) ∧
      localIndex grain degree (position % (spans * (grain * degree))) < spans * grain := by
  have span : 0 < grain * degree := Nat.mul_pos someGrain someRank
  have place : position % grain < grain := Nat.mod_lt _ someGrain
  have inPage : position % (spans * (grain * degree)) / (grain * degree) = position / (grain * degree) % spans := by
    rw [Nat.mul_comm spans, Nat.mod_mul_right_div_self]
  have samePlace : position % (spans * (grain * degree)) % grain = position % grain :=
    Nat.mod_mod_of_dvd _ ⟨spans * degree, by ring⟩
  have page : position / (spans * (grain * degree)) = position / (grain * degree) / spans := by
    rw [Nat.mul_comm spans, Nat.div_div_eq_div_mul]
  simp only [localIndex, inPage, samePlace, page]
  constructor
  · have split := Nat.div_add_mod' (position / (grain * degree)) spans
    have steps := congrArg (· * grain) split
    rw [Nat.add_mul, Nat.mul_assoc] at steps
    omega
  · have inside : position / (grain * degree) % spans + 1 ≤ spans := Nat.mod_lt _ someSpan
    have steps := Nat.mul_le_mul_right grain inside
    rw [Nat.succ_mul] at steps
    omega

end Sparkpipe.Interleave
