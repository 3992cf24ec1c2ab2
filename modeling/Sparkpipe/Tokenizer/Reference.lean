import Mathlib.Data.Prod.Lex
import Sparkpipe.Tokenizer.Pieces

/-!
# Byte-pair encoding

What a piece is to be encoded to: as long as two neighbours can be merged, the pair of the
lowest rank is, and among pairs of one rank the first.
-/

namespace Sparkpipe.BytePair

variable (tokenizer : Tokenizer)

/-- What the pair at a position can be merged to. -/
def pairAt (tokens : List UInt32) (position : Nat) : Option Merge := do
  let left ← tokens[position]?
  let right ← tokens[position + 1]?
  tokenizer.merge left right

/-- The first pair of the lowest rank. -/
def leastPair : List UInt32 → Option (Nat × Merge)
  | left :: right :: rest =>
    match tokenizer.merge left right, leastPair (right :: rest) with
    | some here, some (position, merge) =>
      if merge.rank < here.rank then some (position + 1, merge) else some (0, here)
    | some here, none => some (0, here)
    | none, some (position, merge) => some (position + 1, merge)
    | none, none => none
  | _ => none

/-- The pair at a position is replaced by what it is merged to. -/
def replacePair (tokens : List UInt32) (position : Nat) (token : UInt32) : List UInt32 :=
  (tokens.set position token).eraseIdx (position + 1)

variable {tokenizer}

theorem pairAt_lt {tokens : List UInt32} {position : Nat} {merge : Merge}
    (isPair : pairAt tokenizer tokens position = some merge) : position + 1 < tokens.length := by
  obtain ⟨left, -, later⟩ := Option.bind_eq_some_iff.mp isPair
  obtain ⟨right, isRight, -⟩ := Option.bind_eq_some_iff.mp later
  exact (List.getElem?_eq_some_iff.mp isRight).1

theorem pairAt_short {tokens : List UInt32} (short : tokens.length ≤ 1) (position : Nat) :
    pairAt tokenizer tokens position = none := by
  cases isPair : pairAt tokenizer tokens position with
  | none => rfl
  | some merge =>
    have := pairAt_lt isPair
    omega

/-- The rank and the position by which pairs are compared. -/
def pairKey (rank : UInt32) (position : Nat) : Nat ×ₗ Nat := toLex (rank.toNat, position)

theorem pairKey_le {rank otherRank : UInt32} {position otherPosition : Nat} :
    pairKey rank position ≤ pairKey otherRank otherPosition ↔
      rank.toNat < otherRank.toNat ∨ rank.toNat = otherRank.toNat ∧ position ≤ otherPosition :=
  Prod.Lex.toLex_le_toLex

/-- The pair at a position is the first of the lowest rank. -/
structure IsLeastPair (tokenizer : Tokenizer) (tokens : List UInt32) (position : Nat) (merge : Merge) : Prop where
  isPair : pairAt tokenizer tokens position = some merge
  least : ∀ other otherMerge, pairAt tokenizer tokens other = some otherMerge →
    pairKey merge.rank position ≤ pairKey otherMerge.rank other

theorem IsLeastPair.succ {left : UInt32} {rest : List UInt32} {position : Nat} {merge : Merge}
    (later : IsLeastPair tokenizer rest position merge)
    (here : ∀ first, pairAt tokenizer (left :: rest) 0 = some first → merge.rank.toNat < first.rank.toNat) :
    IsLeastPair tokenizer (left :: rest) (position + 1) merge := by
  refine ⟨later.isPair, fun other otherMerge isOther => ?_⟩
  rw [pairKey_le]
  cases other with
  | zero => exact .inl (here otherMerge isOther)
  | succ other =>
    have le := pairKey_le.mp (later.least other otherMerge isOther)
    omega

/-- Without a first pair of the lowest rank nothing can be merged; else it is what it is called. -/
theorem leastPair_spec (tokenizer : Tokenizer) (tokens : List UInt32) :
    match leastPair tokenizer tokens with
    | none => ∀ position, pairAt tokenizer tokens position = none
    | some (position, merge) => IsLeastPair tokenizer tokens position merge := by
  induction tokens with
  | nil => exact pairAt_short (Nat.zero_le 1)
  | cons left rest ih =>
    cases rest with
    | nil => exact pairAt_short (Nat.le_refl 1)
    | cons right rest =>
      have first : pairAt tokenizer (left :: right :: rest) 0 = tokenizer.merge left right := rfl
      unfold leastPair
      cases later : leastPair tokenizer (right :: rest) with
      | none =>
        rw [later] at ih
        cases here : tokenizer.merge left right with
        | none =>
          intro position
          cases position with
          | zero => exact here
          | succ position => exact ih position
        | some merge =>
          refine ⟨here, fun other otherMerge isOther => ?_⟩
          cases other with
          | zero =>
            rw [Option.some.inj (isOther.symm.trans here)]
          | succ other => exact absurd (isOther.symm.trans (ih other)) nofun
      | some found =>
        obtain ⟨position, merge⟩ := found
        rw [later] at ih
        dsimp only at ih
        cases here : tokenizer.merge left right with
        | none =>
          apply ih.succ
          intro other isOther
          rw [first, here] at isOther
          cases isOther
        | some other =>
          dsimp only
          split
          · rename_i found lower
            split at lower
            · cases lower
            · cases lower
          · rename_i place least isLeast
            split at isLeast
            · rename_i lower
              obtain ⟨rfl, rfl⟩ := Prod.mk.inj (Option.some.inj isLeast)
              apply ih.succ
              intro otherMerge isOther
              rw [first, here] at isOther
              rw [← Option.some.inj isOther]
              exact UInt32.lt_iff_toNat_lt.mp lower
            · rename_i notLower
              obtain ⟨rfl, rfl⟩ := Prod.mk.inj (Option.some.inj isLeast)
              rw [UInt32.lt_iff_toNat_lt] at notLower
              refine ⟨here, fun place otherMerge isOther => ?_⟩
              cases place with
              | zero => rw [Option.some.inj (isOther.symm.trans here)]
              | succ place =>
                have le := pairKey_le.mp (ih.least place otherMerge isOther)
                rw [pairKey_le]
                omega

theorem leastPair_none_iff {tokens : List UInt32} :
    leastPair tokenizer tokens = none ↔ ∀ position, pairAt tokenizer tokens position = none := by
  have spec := leastPair_spec tokenizer tokens
  constructor
  · intro isNone
    rw [isNone] at spec
    exact spec
  · intro stuck
    cases found : leastPair tokenizer tokens with
    | none => rfl
    | some pair =>
      rw [found] at spec
      exact absurd (spec.isPair.symm.trans (stuck pair.1)) nofun

theorem leastPair_some_iff {tokens : List UInt32} {position : Nat} {merge : Merge} :
    leastPair tokenizer tokens = some (position, merge) ↔ IsLeastPair tokenizer tokens position merge := by
  have spec := leastPair_spec tokenizer tokens
  constructor
  · intro isSome
    rw [isSome] at spec
    exact spec
  · intro isLeast
    cases found : leastPair tokenizer tokens with
    | none => exact absurd (isLeast.isPair.symm.trans (leastPair_none_iff.mp found position)) nofun
    | some pair =>
      rw [found] at spec
      have one := pairKey_le.mp (spec.least position merge isLeast.isPair)
      have other := pairKey_le.mp (isLeast.least pair.1 pair.2 spec.isPair)
      have same : pair.1 = position := by omega
      have isPair := spec.isPair
      rw [same, isLeast.isPair] at isPair
      rw [Option.some.inj isPair, ← same]

variable (tokenizer)

/-- Byte-pair encoding: the first pair of the lowest rank is merged until no pair can be. -/
def bytePair (tokens : List UInt32) : List UInt32 :=
  match _isLeast : leastPair tokenizer tokens with
  | none => tokens
  | some (position, merge) => bytePair (replacePair tokens position merge.mergedTokenId)
termination_by tokens.length
decreasing_by
  have inside := pairAt_lt (leastPair_some_iff.mp _isLeast).isPair
  rw [replacePair, List.length_eraseIdx_of_lt (by rwa [List.length_set]), List.length_set]
  omega

/-- The tokens of a piece. -/
def referenceTokens (text : List UInt8) : List UInt32 :=
  if text = [] then []
  else match tokenizer.wholeToken text with
    | some token => [token]
    | none => bytePair tokenizer (text.filterMap tokenizer.byteTokenIds)

variable {tokenizer}

theorem bytePair_none {tokens : List UInt32} (stuck : ∀ position, pairAt tokenizer tokens position = none) :
    bytePair tokenizer tokens = tokens := by
  rw [bytePair]
  split
  · rfl
  · rename_i position merge isLeast
    rw [leastPair_none_iff.mpr stuck] at isLeast
    cases isLeast

theorem bytePair_some {tokens : List UInt32} {position : Nat} {merge : Merge}
    (least : IsLeastPair tokenizer tokens position merge) :
    bytePair tokenizer tokens = bytePair tokenizer (replacePair tokens position merge.mergedTokenId) := by
  have isSome := leastPair_some_iff.mpr least
  rw [bytePair]
  split
  · rename_i isNone
    rw [isSome] at isNone
    cases isNone
  · rename_i other otherMerge isLeast
    rw [isSome] at isLeast
    obtain ⟨rfl, rfl⟩ := Prod.mk.inj (Option.some.inj isLeast)
    rfl

end Sparkpipe.BytePair
