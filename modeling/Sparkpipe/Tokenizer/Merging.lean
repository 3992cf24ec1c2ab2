import Sparkpipe.Lib.HeapOrder
import Sparkpipe.Tokenizer.Reference

/-!
# The merges of a piece

The symbols that are left form a chain of indices, and the heap holds a candidate for every
two neighbours that can be merged. Older candidates may be in it as well; one whose left
symbol has gone is known by its generation, and any other is either of no use or as good as
a new one. So the candidate that is taken is the first pair of the lowest rank.
-/

namespace Sparkpipe.BytePair

open Function

variable {tokenizer : Tokenizer} {symbolCount : Nat} {symbols : Symbols} {chain : List Nat}

/-- The symbols of a chain are linked in its order. -/
structure Linked (symbols : Symbols) (chain : List Nat) : Prop where
  increasing : chain.Pairwise (· < ·)
  next : ∀ {position index}, chain[position]? = some index → symbols.next index = chain[position + 1]?
  previous : ∀ {position index}, chain[position]? = some index →
    symbols.previous index = if position = 0 then none else chain[position - 1]?

/-- The links do not depend on the heap. -/
theorem Linked.withHeap (linked : Linked symbols chain) (heap : List Candidate) :
    Linked { symbols with mergeHeap := heap } chain := ⟨linked.increasing, linked.next, linked.previous⟩

/-- The key by which the heap is ordered. -/
def candidateKey (candidate : Candidate) : Nat ×ₗ Nat := pairKey candidate.rank candidate.leftSymbolIndex

/-- The heap has what it needs of the chain, but for the pairs at the pending positions. -/
structure Waiting (tokenizer : Tokenizer) (symbols : Symbols) (chain : List Nat) (pending : Nat → Prop) : Prop where
  ordered : Heap.Ordered candidateKey symbols.mergeHeap
  complete : ∀ {position left right merge}, ¬ pending position → chain[position]? = some left →
    chain[position + 1]? = some right →
    tokenizer.merge (symbols.tokenIds left) (symbols.tokenIds right) = some merge →
    ⟨merge.rank, left, symbols.generations left, symbols.generations right⟩ ∈ symbols.mergeHeap
  past : ∀ candidate ∈ symbols.mergeHeap,
    candidate.leftGeneration ≤ symbols.generations candidate.leftSymbolIndex
  gone : ∀ candidate ∈ symbols.mergeHeap, candidate.leftSymbolIndex ∉ chain →
    candidate.leftGeneration < symbols.generations candidate.leftSymbolIndex

theorem before_iff (left right : Candidate) : left.before right = true ↔ candidateKey left < candidateKey right := by
  unfold Candidate.before candidateKey pairKey
  rw [decide_eq_true_iff, Prod.Lex.toLex_lt_toLex, UInt32.lt_iff_toNat_lt, UInt32.toNat_inj]

theorem before_orders : Heap.Orders Candidate.before candidateKey := .of_lt before_iff

theorem notAfter_orders : Heap.Orders Candidate.notAfter candidateKey := .of_not_lt before_iff

section Chains

/-- Where an index is in a chain says which it is. -/
theorem Linked.position_eq (linked : Linked symbols chain) {one other index : Nat} (isOne : chain[one]? = some index)
    (isOther : chain[other]? = some index) : one = other := by
  obtain ⟨inside, -⟩ := List.getElem?_eq_some_iff.mp isOne
  exact (List.getElem?_inj inside (linked.increasing.imp Nat.ne_of_lt)).mp (isOne.trans isOther.symm)

theorem Linked.position_le (linked : Linked symbols chain) {one other left right : Nat} (isLeft : chain[one]? = some left)
    (isRight : chain[other]? = some right) (le : left ≤ right) : one ≤ other := by
  obtain ⟨oneInside, rfl⟩ := List.getElem?_eq_some_iff.mp isLeft
  obtain ⟨otherInside, rfl⟩ := List.getElem?_eq_some_iff.mp isRight
  by_contra after
  exact absurd (List.pairwise_iff_getElem.mp linked.increasing other one otherInside oneInside (by omega))
    (Nat.not_lt.mpr le)

/-- The pairs of the tokens of a chain. -/
theorem pairAt_map {tokenIds : Nat → UInt32} {position : Nat} {merge : Merge} :
    pairAt tokenizer (chain.map tokenIds) position = some merge ↔
      ∃ left right, chain[position]? = some left ∧ chain[position + 1]? = some right ∧
        tokenizer.merge (tokenIds left) (tokenIds right) = some merge := by
  unfold pairAt
  rw [List.getElem?_map, List.getElem?_map]
  cases isLeft : chain[position]? with
  | none => simp
  | some left =>
    cases isRight : chain[position + 1]? with
    | none => simp
    | some right => simp

end Chains

section Heap

/-- A pair is pushed, if it can be merged at all. -/
theorem pushPairCandidate_waiting (heapCapacity : Nat) {pending : Nat → Prop}
    {position left : Nat} (linked : Linked symbols chain)
    (waiting : Waiting tokenizer symbols chain pending) (isLeft : chain[position]? = some left)
    (room : symbols.mergeHeap.length < heapCapacity) :
    ∃ heap, pushPairCandidate tokenizer heapCapacity (some left) symbols =
        (.ok, { symbols with mergeHeap := heap }) ∧
      heap.length ≤ symbols.mergeHeap.length + 1 ∧
      Waiting tokenizer { symbols with mergeHeap := heap } chain fun other => pending other ∧ other ≠ position := by
  have unchanged : (∀ right merge, chain[position + 1]? = some right →
      tokenizer.merge (symbols.tokenIds left) (symbols.tokenIds right) ≠ some merge) →
      Waiting tokenizer symbols chain fun other => pending other ∧ other ≠ position := by
    intro unmerged
    refine ⟨waiting.ordered, ?_, waiting.past, waiting.gone⟩
    intro other otherLeft right merge notPending isOther isRight merges
    by_cases here : other = position
    · subst here
      rw [isLeft] at isOther
      rw [← Option.some.inj isOther] at merges
      exact absurd merges (unmerged right merge isRight)
    · exact waiting.complete (fun isPending => notPending ⟨isPending, here⟩) isOther isRight merges
  unfold pushPairCandidate
  dsimp only
  rw [linked.next isLeft]
  cases isRight : chain[position + 1]? with
  | none =>
    refine ⟨symbols.mergeHeap, rfl, Nat.le_succ _, unchanged fun right merge isSome => ?_⟩
    rw [isRight] at isSome
    cases isSome
  | some right =>
    dsimp only
    cases merges : tokenizer.merge (symbols.tokenIds left) (symbols.tokenIds right) with
    | none =>
      refine ⟨symbols.mergeHeap, rfl, Nat.le_succ _, unchanged fun other merge isSome => ?_⟩
      rw [isRight] at isSome
      rw [← Option.some.inj isSome, merges]
      exact nofun
    | some merge =>
      dsimp only
      rw [heapPush, if_neg (Nat.not_le.mpr room)]
      have added := @Heap.insert_perm _ Candidate.notAfter symbols.mergeHeap
        ⟨merge.rank, left, symbols.generations left, symbols.generations right⟩
      refine ⟨_, rfl, Nat.le_of_eq added.length_eq, ?_⟩
      constructor
      · exact Heap.insert_ordered notAfter_orders waiting.ordered _
      · intro other otherLeft otherRight otherMerge notPending isOther isOtherRight otherMerges
        apply added.mem_iff.mpr
        by_cases here : other = position
        · subst here
          obtain rfl := Option.some.inj (isLeft.symm.trans isOther)
          obtain rfl := Option.some.inj (isRight.symm.trans isOtherRight)
          obtain rfl := Option.some.inj (merges.symm.trans otherMerges)
          exact .head _
        · exact .tail _
            (waiting.complete (fun isPending => notPending ⟨isPending, here⟩) isOther isOtherRight otherMerges)
      · intro candidate member
        rcases List.mem_cons.mp (added.mem_iff.mp member) with rfl | old
        · exact Nat.le_refl _
        · exact waiting.past candidate old
      · intro candidate member absent
        rcases List.mem_cons.mp (added.mem_iff.mp member) with rfl | old
        · exact absurd (List.mem_of_getElem? isLeft) absent
        · exact waiting.gone candidate old absent

/-- The candidate that is popped is the least of all. -/
theorem heapPop_some {candidate : Candidate} {after : Symbols} (ordered : Heap.Ordered candidateKey symbols.mergeHeap)
    (popped : heapPop symbols = some (candidate, after)) :
    ∃ heap, after = { symbols with mergeHeap := heap } ∧ symbols.mergeHeap.Perm (candidate :: heap) ∧
      Heap.Ordered candidateKey heap ∧ ∀ other ∈ symbols.mergeHeap, candidateKey candidate ≤ candidateKey other := by
  unfold heapPop at popped
  split at popped
  · cases popped
  rename_i first rest isHeap
  obtain ⟨rfl, rfl⟩ := Prod.mk.inj (Option.some.inj popped)
  have isFirst : symbols.mergeHeap[0]? = some first := by
    rw [isHeap]
    rfl
  refine ⟨_, rfl, Heap.removeAtBy_perm _ _ isFirst, ?_, ?_⟩
  · exact Heap.removeAtBy_ordered notAfter_orders before_orders ordered 0
  · intro other member
    obtain ⟨place, isPlace⟩ := List.mem_iff_getElem?.mp member
    have least := ordered.root_le place
    rw [Heap.ranks_some isFirst, Heap.ranks_some isPlace] at least
    exact WithTop.coe_le_coe.mp least

/-- A candidate that is accepted is a pair of neighbours, at its rank. -/
theorem acceptedMerge_some {candidate : Candidate} {right : Nat} {token : UInt32} (linked : Linked symbols chain)
    (gone : candidate.leftSymbolIndex ∉ chain →
      candidate.leftGeneration < symbols.generations candidate.leftSymbolIndex)
    (accepted : acceptedMerge tokenizer symbolCount symbols candidate = some (right, token)) :
    ∃ position, chain[position]? = some candidate.leftSymbolIndex ∧ chain[position + 1]? = some right ∧
      tokenizer.merge (symbols.tokenIds candidate.leftSymbolIndex) (symbols.tokenIds right) =
        some ⟨candidate.rank, token⟩ := by
  unfold acceptedMerge at accepted
  split at accepted
  · cases accepted
  rename_i current
  rw [not_or, not_not] at current
  have member : candidate.leftSymbolIndex ∈ chain := by
    by_contra absent
    have less := gone absent
    omega
  obtain ⟨position, isLeft⟩ := List.mem_iff_getElem?.mp member
  rw [linked.next isLeft] at accepted
  split at accepted
  · cases accepted
  rename_i found isFound
  split at accepted
  · cases accepted
  split at accepted
  · cases accepted
  rename_i merge merges
  split at accepted
  · cases accepted
  rename_i sameRank
  obtain ⟨rfl, rfl⟩ := Prod.mk.inj (Option.some.inj accepted)
  refine ⟨position, isLeft, isFound, ?_⟩
  rw [merges, ← not_not.mp sameRank]

/-- The candidate of two neighbours as they are is accepted. -/
theorem acceptedMerge_current {position left right : Nat} {merge : Merge} (linked : Linked symbols chain)
    (inRange : ∀ index ∈ chain, index < symbolCount) (isLeft : chain[position]? = some left)
    (isRight : chain[position + 1]? = some right)
    (merges : tokenizer.merge (symbols.tokenIds left) (symbols.tokenIds right) = some merge) :
    acceptedMerge tokenizer symbolCount symbols
        ⟨merge.rank, left, symbols.generations left, symbols.generations right⟩ =
      some (right, merge.mergedTokenId) := by
  have inside := inRange left (List.mem_of_getElem? isLeft)
  unfold acceptedMerge
  dsimp only
  rw [if_neg (by omega), linked.next isLeft, isRight]
  dsimp only
  rw [if_neg (not_not.mpr rfl), merges]
  dsimp only
  rw [if_neg (not_not.mpr rfl)]

end Heap

section Join

variable {position left right : Nat} (token : UInt32)

/-- The symbols of the shorter chain, by their positions in the longer one. -/
theorem getElem?_joined (other : Nat) :
    (chain.eraseIdx (position + 1))[other]? = if other ≤ position then chain[other]? else chain[other + 1]? := by
  rw [List.getElem?_eraseIdx]
  by_cases early : other ≤ position
  · rw [if_pos early, if_pos (Nat.lt_succ_of_le early)]
  · rw [if_neg early, if_neg (by omega)]

theorem Linked.join (linked : Linked symbols chain) (isLeft : chain[position]? = some left)
    (isRight : chain[position + 1]? = some right) :
    Linked (joinSymbols symbols left right token) (chain.eraseIdx (position + 1)) := by
  refine ⟨linked.increasing.sublist (List.eraseIdx_sublist chain _), ?_, ?_⟩
  · intro other index isIndex
    change update symbols.next left (symbols.next right) index = _
    rw [getElem?_joined] at isIndex ⊢
    split at isIndex
    · by_cases here : other = position
      · subst here
        rw [isLeft] at isIndex
        rw [← Option.some.inj isIndex, update_self, if_neg (by omega), linked.next isRight]
      · have different : index ≠ left := by
          rintro rfl
          exact here (linked.position_eq isIndex isLeft)
        rw [update_of_ne different, linked.next isIndex, if_pos (by omega)]
    · have different : index ≠ left := by
        rintro rfl
        have := linked.position_eq isIndex isLeft
        omega
      rw [update_of_ne different, linked.next isIndex, if_neg (by omega)]
  · intro other index isIndex
    have kept : ∀ place, chain[place]? = some index → place ≠ position + 2 →
        (joinSymbols symbols left right token).previous index = symbols.previous index := by
      intro place isPlace notAfter
      unfold joinSymbols
      dsimp only
      rw [linked.next isRight]
      cases isFollowing : chain[position + 1 + 1]? with
      | none => rfl
      | some following =>
        apply update_of_ne
        rintro rfl
        exact notAfter (linked.position_eq isPlace isFollowing)
    rw [getElem?_joined] at isIndex ⊢
    split at isIndex
    · rename_i early
      rw [kept other isIndex (by omega), linked.previous isIndex]
      by_cases first : other = 0
      · rw [if_pos first, if_pos first]
      · rw [if_neg first, if_neg first, if_pos (by omega)]
    · rename_i late
      rw [if_neg (by omega : ¬ other = 0)]
      by_cases after : other = position + 1
      · subst after
        rw [if_pos (by omega : position + 1 - 1 ≤ position), Nat.add_sub_cancel, isLeft]
        unfold joinSymbols
        dsimp only
        rw [linked.next isRight, isIndex]
        exact update_self _ _ _
      · rw [kept (other + 1) isIndex (by omega), linked.previous isIndex, if_neg (by omega),
          if_neg (by omega), Nat.add_sub_cancel]
        congr 1
        omega

/-- Of the tokens, the pair is replaced. -/
theorem map_joined (right : Nat) (token : UInt32) (linked : Linked symbols chain) (isLeft : chain[position]? = some left) :
    (chain.eraseIdx (position + 1)).map (joinSymbols symbols left right token).tokenIds =
      replacePair (chain.map symbols.tokenIds) position token := by
  have whole : chain.map (joinSymbols symbols left right token).tokenIds =
      (chain.map symbols.tokenIds).set position token := by
    apply List.ext_getElem?
    intro other
    rw [List.getElem?_map, List.getElem?_set, List.length_map, List.getElem?_map]
    by_cases here : position = other
    · subst here
      rw [if_pos rfl, if_pos (List.getElem?_eq_some_iff.mp isLeft).1, isLeft]
      exact congrArg some (update_self _ _ _)
    · rw [if_neg here]
      cases isIndex : chain[other]? with
      | none => rfl
      | some index =>
        apply congrArg some
        apply update_of_ne
        rintro rfl
        exact here (linked.position_eq isLeft isIndex)
  rw [replacePair, ← whole]
  apply List.ext_getElem?
  intro other
  rw [List.getElem?_map, List.getElem?_eraseIdx, List.getElem?_eraseIdx]
  split <;> rw [List.getElem?_map]

theorem joinSymbols_generations_le (symbols : Symbols) (left right : Nat) (token : UInt32) (index : Nat) :
    symbols.generations index ≤ (joinSymbols symbols left right token).generations index := by
  unfold joinSymbols
  dsimp only
  split <;> omega

/-- After a merge only the pairs on the two sides of the merged symbol are missing in the heap. -/
theorem Waiting.join {candidate : Candidate} {heap : List Candidate} (linked : Linked symbols chain)
    (waiting : Waiting tokenizer symbols chain fun _ => False)
    (popped : symbols.mergeHeap.Perm (candidate :: heap)) (ordered : Heap.Ordered candidateKey heap)
    (isLeft : chain[position]? = some candidate.leftSymbolIndex) (isRight : chain[position + 1]? = some right) :
    Waiting tokenizer (joinSymbols { symbols with mergeHeap := heap } candidate.leftSymbolIndex right token)
      (chain.eraseIdx (position + 1)) fun other => other + 1 = position ∨ other = position := by
  have inHeap : ∀ other ∈ heap, other ∈ symbols.mergeHeap := fun other member =>
    popped.mem_iff.mpr (.tail _ member)
  have kept : ∀ place index, chain[place]? = some index → place ≠ position → place ≠ position + 1 →
      (joinSymbols { symbols with mergeHeap := heap } candidate.leftSymbolIndex right token).tokenIds index =
          symbols.tokenIds index ∧
        (joinSymbols { symbols with mergeHeap := heap } candidate.leftSymbolIndex right token).generations index =
          symbols.generations index ∧ index ≠ candidate.leftSymbolIndex := by
    intro place index isIndex notLeft notRight
    have different : index ≠ candidate.leftSymbolIndex := by
      rintro rfl
      exact notLeft (linked.position_eq isIndex isLeft)
    refine ⟨update_of_ne different _ _, if_neg ?_, different⟩
    rintro (same | rfl)
    · exact different same
    · exact notRight (linked.position_eq isIndex isRight)
  refine ⟨ordered, ?_, ?_, ?_⟩
  · intro other one two merge notPending isOne isTwo merges
    rw [not_or] at notPending
    have places : ∃ place, place ≠ position ∧ place ≠ position + 1 ∧ place + 1 ≠ position ∧
        chain[place]? = some one ∧ chain[place + 1]? = some two := by
      rw [getElem?_joined] at isOne isTwo
      split at isOne
      · rw [if_pos (by omega)] at isTwo
        exact ⟨other, by omega, by omega, by omega, isOne, isTwo⟩
      · rw [if_neg (by omega)] at isTwo
        exact ⟨other + 1, by omega, by omega, by omega, isOne, isTwo⟩
    obtain ⟨place, notLeft, notRight, notBefore, isOne, isTwo⟩ := places
    obtain ⟨oneToken, oneGeneration, oneDifferent⟩ := kept place one isOne notLeft notRight
    obtain ⟨twoToken, twoGeneration, -⟩ := kept (place + 1) two isTwo (by omega) (by omega)
    rw [oneToken, twoToken] at merges
    rw [oneGeneration, twoGeneration]
    have member := waiting.complete id isOne isTwo merges
    rcases List.mem_cons.mp (popped.mem_iff.mp member) with same | later
    · exact absurd (congrArg Candidate.leftSymbolIndex same) oneDifferent
    · exact later
  · intro other member
    exact Nat.le_trans (waiting.past other (inHeap other member)) (joinSymbols_generations_le _ _ _ token _)
  · intro other member absent
    by_cases inChain : other.leftSymbolIndex ∈ chain
    · obtain ⟨place, isPlace⟩ := List.mem_iff_getElem?.mp inChain
      have isErased : place = position + 1 := by
        by_contra notErased
        apply absent
        apply List.mem_iff_getElem?.mpr
        by_cases early : place ≤ position
        · exact ⟨place, by rw [getElem?_joined, if_pos early]; exact isPlace⟩
        · refine ⟨place - 1, ?_⟩
          rw [getElem?_joined, if_neg (by omega), Nat.sub_add_cancel (by omega)]
          exact isPlace
      subst isErased
      obtain rfl := Option.some.inj (isPlace.symm.trans isRight)
      have le := waiting.past other (inHeap other member)
      change other.leftGeneration < if _ then _ else _
      rw [if_pos (Or.inr rfl)]
      exact Nat.lt_succ_of_le le
    · exact Nat.lt_of_lt_of_le (waiting.gone other (inHeap other member) inChain)
        (joinSymbols_generations_le _ _ _ token _)

end Join

section Runs

/-- An accepted candidate that was the least of the heap is the first pair of the lowest rank. -/
theorem isLeastPair_of_least {candidate : Candidate} {position right : Nat} {token : UInt32}
    (linked : Linked symbols chain) (waiting : Waiting tokenizer symbols chain fun _ => False)
    (least : ∀ other ∈ symbols.mergeHeap, candidateKey candidate ≤ candidateKey other)
    (isLeft : chain[position]? = some candidate.leftSymbolIndex) (isRight : chain[position + 1]? = some right)
    (merges : tokenizer.merge (symbols.tokenIds candidate.leftSymbolIndex) (symbols.tokenIds right) =
      some ⟨candidate.rank, token⟩) :
    IsLeastPair tokenizer (chain.map symbols.tokenIds) position ⟨candidate.rank, token⟩ := by
  refine ⟨pairAt_map.mpr ⟨_, _, isLeft, isRight, merges⟩, fun other otherMerge isOther => ?_⟩
  obtain ⟨otherLeft, otherRight, isOtherLeft, isOtherRight, otherMerges⟩ := pairAt_map.mp isOther
  have key := pairKey_le.mp (least _ (waiting.complete id isOtherLeft isOtherRight otherMerges))
  rw [pairKey_le]
  dsimp only at key ⊢
  rcases key with lower | ⟨same, le⟩
  · exact .inl lower
  · exact .inr ⟨same, linked.position_le isLeft isOtherLeft le⟩

/-- What the merges of a chain leave: its byte-pair encoding, in a shorter chain. -/
structure Merged (tokenizer : Tokenizer) (symbolCount : Nat) (symbols : Symbols) (chain : List Nat) (after : Symbols)
    (rest : List Nat) : Prop where
  linked : Linked after rest
  head : rest[0]? = chain[0]?
  inRange : ∀ index ∈ rest, index < symbolCount
  length : rest.length ≤ chain.length
  tokens : rest.map after.tokenIds = bytePair tokenizer (chain.map symbols.tokenIds)

theorem Merged.refl (linked : Linked symbols chain) (inRange : ∀ index ∈ chain, index < symbolCount)
    (stuck : ∀ position, pairAt tokenizer (chain.map symbols.tokenIds) position = none) :
    Merged tokenizer symbolCount symbols chain symbols chain :=
  ⟨linked, rfl, inRange, Nat.le_refl _, (bytePair_none stuck).symm⟩

/-- The candidate is none of a pair as it is now, so the heap does without it. -/
theorem Waiting.drop {candidate : Candidate} {heap : List Candidate} (linked : Linked symbols chain)
    (inRange : ∀ index ∈ chain, index < symbolCount) (waiting : Waiting tokenizer symbols chain fun _ => False)
    (popped : symbols.mergeHeap.Perm (candidate :: heap)) (ordered : Heap.Ordered candidateKey heap)
    (refused : acceptedMerge tokenizer symbolCount symbols candidate = none) :
    Waiting tokenizer { symbols with mergeHeap := heap } chain fun _ => False := by
  have inHeap : ∀ other ∈ heap, other ∈ symbols.mergeHeap := fun other member =>
    popped.mem_iff.mpr (.tail _ member)
  refine ⟨ordered, ?_, fun other member => waiting.past other (inHeap other member),
    fun other member => waiting.gone other (inHeap other member)⟩
  intro position left right merge notPending isLeft isRight merges
  rcases List.mem_cons.mp (popped.mem_iff.mp (waiting.complete notPending isLeft isRight merges)) with same | later
  · rw [← same, acceptedMerge_current linked inRange isLeft isRight merges] at refused
    cases refused
  · exact later

/-- The two pairs beside a merged symbol are pushed. -/
theorem pushBeside (heapCapacity : Nat) {position left : Nat} {previous : Option Nat} (linked : Linked symbols chain)
    (waiting : Waiting tokenizer symbols chain fun other => other + 1 = position ∨ other = position)
    (isLeft : chain[position]? = some left)
    (isPrevious : previous = if position = 0 then none else chain[position - 1]?)
    (room : symbols.mergeHeap.length + 1 < heapCapacity) (rest : Symbols → SparkStatus × Symbols) :
    ∃ heap, heap.length ≤ symbols.mergeHeap.length + 2 ∧
      Waiting tokenizer { symbols with mergeHeap := heap } chain (fun _ => False) ∧
      (andThen (pushPairCandidate tokenizer heapCapacity previous symbols) fun symbols =>
        andThen (pushPairCandidate tokenizer heapCapacity (some left) symbols) rest) =
          rest { symbols with mergeHeap := heap } := by
  have first : ∃ heap, pushPairCandidate tokenizer heapCapacity previous symbols =
      (.ok, { symbols with mergeHeap := heap }) ∧ heap.length ≤ symbols.mergeHeap.length + 1 ∧
      Waiting tokenizer { symbols with mergeHeap := heap } chain fun other => other = position := by
    by_cases isFirst : position = 0
    · rw [if_pos isFirst] at isPrevious
      subst isPrevious
      refine ⟨symbols.mergeHeap, rfl, Nat.le_succ _, waiting.ordered, ?_, waiting.past, waiting.gone⟩
      intro other one two merge notPending
      exact waiting.complete fun isPending => notPending (by omega)
    · rw [if_neg isFirst] at isPrevious
      obtain ⟨inside, -⟩ := List.getElem?_eq_some_iff.mp isLeft
      have isBefore : chain[position - 1]? = some chain[position - 1] := List.getElem?_eq_getElem (by omega)
      obtain ⟨heap, pushed, length, after⟩ :=
        pushPairCandidate_waiting heapCapacity linked waiting isBefore (by omega)
      rw [isPrevious, isBefore]
      refine ⟨heap, pushed, length, after.ordered, ?_, after.past, after.gone⟩
      intro other one two merge notPending
      exact after.complete fun isPending => notPending (by omega)
  obtain ⟨firstHeap, firstPushed, firstLength, firstAfter⟩ := first
  obtain ⟨heap, pushed, length, after⟩ :=
    pushPairCandidate_waiting heapCapacity (linked.withHeap firstHeap) firstAfter isLeft
      (Nat.lt_of_le_of_lt firstLength room)
  dsimp only at length pushed after
  refine ⟨heap, by omega, ⟨after.ordered, ?_, after.past, after.gone⟩, ?_⟩
  · intro other one two merge notPending
    exact after.complete fun isPending => isPending.2 isPending.1
  · rw [firstPushed, andThen_ok rfl]
    dsimp only
    rw [pushed, andThen_ok rfl]

/-- The merges end, with the byte-pair encoding of the chain, and the heap never overflows. -/
theorem mergeLoop_merged (heapCapacity rounds : Nat) (linked : Linked symbols chain)
    (inRange : ∀ index ∈ chain, index < symbolCount) (waiting : Waiting tokenizer symbols chain fun _ => False)
    (enough : symbols.mergeHeap.length + 2 * chain.length ≤ rounds + 1)
    (room : symbols.mergeHeap.length + chain.length ≤ heapCapacity) (isSome : chain ≠ []) :
    ∃ after rest, mergeLoop tokenizer heapCapacity symbolCount rounds chain.length symbols = (.ok, after) ∧
      Merged tokenizer symbolCount symbols chain after rest := by
  have positive : 0 < chain.length := List.length_pos_iff.mpr isSome
  induction rounds generalizing symbols chain with
  | zero => omega
  | succ rounds ih =>
    unfold mergeLoop
    split
    · rename_i single
      refine ⟨symbols, chain, rfl, .refl linked inRange (pairAt_short ?_)⟩
      rwa [List.length_map]
    rename_i several
    cases popped : heapPop symbols with
    | none =>
      have empty : symbols.mergeHeap = [] := by
        unfold heapPop at popped
        split at popped
        · assumption
        · cases popped
      refine ⟨symbols, chain, rfl, .refl linked inRange fun position => ?_⟩
      cases isPair : pairAt tokenizer (chain.map symbols.tokenIds) position with
      | none => rfl
      | some merge =>
        obtain ⟨left, right, isLeft, isRight, merges⟩ := pairAt_map.mp isPair
        have member := waiting.complete id isLeft isRight merges
        rw [empty] at member
        cases member
    | some popping =>
      obtain ⟨candidate, after⟩ := popping
      obtain ⟨heap, rfl, perm, ordered, least⟩ := heapPop_some waiting.ordered popped
      have length : symbols.mergeHeap.length = heap.length + 1 := perm.length_eq
      dsimp only
      have same : acceptedMerge tokenizer symbolCount { symbols with mergeHeap := heap } candidate =
          acceptedMerge tokenizer symbolCount symbols candidate := rfl
      rw [same]
      cases accepted : acceptedMerge tokenizer symbolCount symbols candidate with
      | none =>
        obtain ⟨final, rest, looped, merged⟩ := ih (linked.withHeap heap) inRange
          (waiting.drop linked inRange perm ordered accepted) (by dsimp only; omega) (by dsimp only; omega)
          isSome positive
        exact ⟨final, rest, looped, merged.linked, merged.head, merged.inRange, merged.length, merged.tokens⟩
      | some pair =>
        obtain ⟨right, token⟩ := pair
        obtain ⟨position, isLeft, isRight, merges⟩ := acceptedMerge_some linked
          (waiting.gone candidate (perm.mem_iff.mpr (.head _))) accepted
        have isLeast := isLeastPair_of_least linked waiting least isLeft isRight merges
        have joined := (linked.withHeap heap).join token isLeft isRight
        have joinedWaiting := waiting.join token linked perm ordered isLeft isRight
        have shorter : (chain.eraseIdx (position + 1)).length = chain.length - 1 :=
          List.length_eraseIdx_of_lt (List.getElem?_eq_some_iff.mp isRight).1
        have stays : (chain.eraseIdx (position + 1))[position]? = Option.some candidate.leftSymbolIndex := by
          rw [getElem?_joined, if_pos (Nat.le_refl _)]
          exact isLeft
        have isPrevious : symbols.previous candidate.leftSymbolIndex =
            if position = 0 then none else (chain.eraseIdx (position + 1))[position - 1]? := by
          rw [linked.previous isLeft, getElem?_joined, if_pos (Nat.sub_le _ _)]
        obtain ⟨pushedHeap, pushedLength, pushedWaiting, pushed⟩ :=
          pushBeside heapCapacity joined joinedWaiting stays isPrevious
            (by change heap.length + 1 < heapCapacity; omega)
            (mergeLoop tokenizer heapCapacity symbolCount rounds (chain.length - 1))
        change pushedHeap.length ≤ heap.length + 2 at pushedLength
        have again := ih (joined.withHeap pushedHeap)
          (fun index member => inRange index ((List.eraseIdx_sublist chain _).mem member)) pushedWaiting
          (by dsimp only; omega) (by dsimp only; omega)
          (List.ne_nil_of_length_pos (by omega)) (by omega)
        obtain ⟨final, rest, looped, merged⟩ := again
        refine ⟨final, rest, ?_, merged.linked, ?_, merged.inRange, ?_, ?_⟩
        · dsimp only
          rw [pushed, ← shorter]
          exact looped
        · rw [merged.head, getElem?_joined, if_pos (Nat.zero_le _)]
        · have := merged.length
          omega
        · rw [merged.tokens, bytePair_some isLeast]
          congr 1
          exact map_joined right token (linked.withHeap heap) isLeft

end Runs

section Pieces

theorem getElem?_range_ite (count position : Nat) :
    (List.range count)[position]? = if position < count then some position else none := by
  split
  · rename_i inside
    exact List.getElem?_range inside
  · rename_i outside
    rw [List.getElem?_eq_none_iff, List.length_range]
    exact Nat.le_of_not_lt outside

/-- The symbols of a piece are linked one after the other. -/
theorem linked_load (symbols : Symbols) (tokens : List UInt32) :
    Linked (symbols.load tokens) (List.range tokens.length) := by
  have inside : ∀ {position index}, (List.range tokens.length)[position]? = some index →
      index = position ∧ position < tokens.length := by
    intro position index isIndex
    obtain ⟨less, isValue⟩ := List.getElem?_eq_some_iff.mp isIndex
    rw [List.getElem_range] at isValue
    rw [List.length_range] at less
    exact ⟨isValue.symm, less⟩
  refine ⟨List.pairwise_lt_range, ?_, ?_⟩
  · intro position index isIndex
    obtain ⟨rfl, less⟩ := inside isIndex
    rw [getElem?_range_ite]
    exact if_pos less
  · intro position index isIndex
    obtain ⟨rfl, less⟩ := inside isIndex
    rw [getElem?_range_ite, if_pos (by omega : index - 1 < tokens.length)]
    exact if_pos less

theorem map_load (symbols : Symbols) (tokens : List UInt32) :
    (List.range tokens.length).map (symbols.load tokens).tokenIds = tokens := by
  apply List.ext_getElem
  · rw [List.length_map, List.length_range]
  · intro position _ inside
    rw [List.getElem_map, List.getElem_range]
    change tokens.getD position _ = _
    rw [List.getD_eq_getElem?_getD, List.getElem?_eq_getElem inside, Option.getD_some]

/-- The first loop of the merges pushes the pairs of the symbols it passes. -/
theorem pushAll_waiting (heapCapacity : Nat) {pending : Nat → Prop} (indices : List Nat) (linked : Linked symbols chain)
    (waiting : Waiting tokenizer symbols chain pending) (inChain : ∀ index ∈ indices, chain[index]? = some index)
    (room : symbols.mergeHeap.length + indices.length ≤ heapCapacity) :
    ∃ heap, forEach (fun index => pushPairCandidate tokenizer heapCapacity (some index)) indices symbols =
        (.ok, { symbols with mergeHeap := heap }) ∧
      heap.length ≤ symbols.mergeHeap.length + indices.length ∧
      Waiting tokenizer { symbols with mergeHeap := heap } chain fun other => pending other ∧ other ∉ indices := by
  induction indices generalizing symbols pending with
  | nil =>
    refine ⟨symbols.mergeHeap, rfl, Nat.le_refl _, waiting.ordered, ?_, waiting.past, waiting.gone⟩
    intro position left right merge notPending
    exact waiting.complete fun isPending => notPending ⟨isPending, List.not_mem_nil⟩
  | cons index rest ih =>
    rw [List.length_cons] at room ⊢
    obtain ⟨first, pushed, length, after⟩ :=
      pushPairCandidate_waiting heapCapacity linked waiting (inChain index (.head _))
        (by omega)
    obtain ⟨heap, looped, lengths, final⟩ := ih (linked.withHeap first) after
      (fun other member => inChain other (.tail _ member)) (by dsimp only; omega)
    dsimp only at lengths
    refine ⟨heap, ?_, by omega, final.ordered, ?_, final.past, final.gone⟩
    · rw [forEach, pushed, andThen_ok rfl]
      exact looped
    · intro position left right merge notPending
      apply final.complete
      rintro ⟨⟨isPending, notHere⟩, notLater⟩
      exact notPending ⟨isPending, List.not_mem_cons_of_ne_of_not_mem notHere notLater⟩

/-- The tokens of the rest of a chain are written behind those that have been, and no symbol is written
before it is read. -/
theorem emitSymbols_chain (capacity steps emitted : Nat) {next : Nat → Option Nat} {rest : List Nat}
    (tokenIds : Nat → UInt32) (increasing : rest.Pairwise (· < ·))
    (linked : ∀ {position index}, rest[position]? = some index → next index = rest[position + 1]?)
    (ahead : ∀ index ∈ rest, emitted ≤ index) (enough : rest.length ≤ steps)
    (room : emitted + rest.length ≤ capacity) :
    ∃ written, emitSymbols capacity next steps rest[0]? emitted tokenIds = (.ok, emitted + rest.length, written) ∧
      (∀ index < emitted, written index = tokenIds index) ∧ tokensAt written emitted rest.length = rest.map tokenIds := by
  induction rest generalizing steps emitted tokenIds with
  | nil =>
    refine ⟨tokenIds, ?_, fun _ _ => rfl, rfl⟩
    cases steps <;> rfl
  | cons first rest ih =>
    obtain ⟨after, later⟩ := List.pairwise_cons.mp increasing
    rw [List.length_cons] at enough room ⊢
    have here := ahead first (.head _)
    obtain ⟨steps, rfl⟩ : ∃ fewer, steps = fewer + 1 := ⟨steps - 1, by omega⟩
    obtain ⟨written, emits, kept, tokens⟩ := ih steps (emitted + 1)
      (update tokenIds emitted (tokenIds first)) later
      (fun {position} {index} isIndex =>
        linked (show (first :: rest)[position + 1]? = some index from isIndex))
      (fun index member => Nat.lt_of_le_of_lt here (after index member)) (by omega) (by omega)
    refine ⟨written, ?_, ?_, ?_⟩
    · change emitSymbols capacity next (steps + 1) (some first) emitted tokenIds = _
      rw [emitSymbols, if_neg (by omega), linked (show (first :: rest)[0]? = some first from rfl)]
      rw [show emitted + (rest.length + 1) = emitted + 1 + rest.length by omega]
      exact emits
    · intro index before
      rw [kept index (by omega), update_of_ne (by omega)]
    · unfold tokensAt at tokens ⊢
      rw [List.range_succ_eq_map, List.map_cons, List.map_map, List.map_cons]
      congr 1
      · change written emitted = _
        rw [kept emitted (by omega), update_self]
      · have unread : rest.map (update tokenIds emitted (tokenIds first)) = rest.map tokenIds := by
          apply List.map_congr_left
          intro index member
          have := after index member
          exact update_of_ne (by omega) _ _
        rw [← unread, ← tokens]
        apply List.map_congr_left
        intro index _
        change written (emitted + (index + 1)) = written (emitted + 1 + index)
        congr 1
        omega

/-- The merges of a piece leave its byte-pair encoding at the front of the symbols. -/
theorem mergeSymbols_tokens (tokenizer : Tokenizer) (symbols : Symbols) (heapCapacity tokenCapacity : Nat)
    {tokens : List UInt32} (isSome : tokens ≠ [])
    (room : 2 * tokens.length ≤ heapCapacity) (fits : tokens.length ≤ tokenCapacity) :
    ∃ count after, mergeSymbols tokenizer heapCapacity tokens.length (symbols.load tokens) tokenCapacity =
        (.ok, count, after) ∧
      tokensAt after.tokenIds 0 count = bytePair tokenizer tokens := by
  have positive := List.length_pos_iff.mpr isSome
  have linked := linked_load symbols tokens
  have inRange : ∀ index ∈ List.range tokens.length, index < tokens.length := fun _ => List.mem_range.mp
  have start : Waiting tokenizer (symbols.load tokens) (List.range tokens.length) fun _ => True :=
    ⟨Heap.Ordered.nil, fun notPending => absurd trivial notPending, nofun, nofun⟩
  obtain ⟨heap, pushed, length, waiting⟩ := pushAll_waiting heapCapacity
    (List.range (tokens.length - 1)) linked start
    (by
      intro index member
      rw [getElem?_range_ite, if_pos]
      have := List.mem_range.mp member
      omega)
    (by
      rw [List.length_range]
      change 0 + _ ≤ _
      omega)
  have few : heap.length ≤ tokens.length - 1 := by
    rw [List.length_range] at length
    exact Nat.le_trans length (Nat.le_of_eq (Nat.zero_add _))
  have ready : Waiting tokenizer { symbols.load tokens with mergeHeap := heap } (List.range tokens.length)
      fun _ => False := by
    refine ⟨waiting.ordered, ?_, waiting.past, waiting.gone⟩
    intro position left right merge _ isLeft isRight
    refine waiting.complete ?_ isLeft isRight
    rintro ⟨-, late⟩
    obtain ⟨inside, -⟩ := List.getElem?_eq_some_iff.mp isRight
    rw [List.length_range] at inside
    exact late (List.mem_range.mpr (by omega))
  obtain ⟨merged, rest, looped, result⟩ := mergeLoop_merged heapCapacity
    (3 * tokens.length) (linked.withHeap heap) inRange ready
    (by rw [List.length_range]; dsimp only; omega) (by rw [List.length_range]; dsimp only; omega)
    (List.ne_nil_of_length_pos (by rwa [List.length_range]))
  have short := result.length
  rw [List.length_range] at looped short
  have head : rest[0]? = some 0 := by
    rw [result.head, getElem?_range_ite, if_pos positive]
  obtain ⟨written, emits, -, emitted⟩ := emitSymbols_chain tokenCapacity tokens.length 0
    merged.tokenIds result.linked.increasing result.linked.next
    (fun _ _ => Nat.zero_le _) short (by omega)
  rw [head, Nat.zero_add] at emits
  refine ⟨rest.length, { merged with tokenIds := written }, ?_, ?_⟩
  · unfold mergeSymbols
    rw [pushed]
    dsimp only
    rw [if_neg (not_not.mpr rfl), looped]
    dsimp only
    rw [if_neg (not_not.mpr rfl), emits]
    rfl
  · dsimp only
    rw [emitted, result.tokens]
    exact congrArg (bytePair tokenizer) (map_load symbols tokens)

end Pieces

end Sparkpipe.BytePair
