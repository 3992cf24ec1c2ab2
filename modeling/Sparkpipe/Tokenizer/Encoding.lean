import Sparkpipe.Tokenizer.Merging

/-!
# The tokens of a piece

A piece is encoded to the tokens of byte-pair encoding, whether they are computed or taken
from the cache: every entry of the cache holds the tokens of its piece, and what is put
into the pool does not touch what is there.
-/

namespace Sparkpipe.BytePair

open Function

variable {tokenizer : Tokenizer} {workspace : Workspace} {text : List UInt8}

theorem bytePair_nil : bytePair tokenizer [] = [] := bytePair_none (pairAt_short (Nat.zero_le 1))

theorem referenceTokens_whole {token : UInt32} (isSome : text ≠ []) (whole : tokenizer.wholeToken text = some token) :
    referenceTokens tokenizer text = [token] := by
  rw [referenceTokens, if_neg isSome, whole]

theorem referenceTokens_merged (isSome : text ≠ []) (notWhole : tokenizer.wholeToken text = none) :
    referenceTokens tokenizer text = bytePair tokenizer (text.filterMap tokenizer.byteTokenIds) := by
  rw [referenceTokens, if_neg isSome, notWhole]

/-- The heap has room for the candidates of as many symbols as there are arrays for. -/
def Sized (workspace : Workspace) : Prop :=
  workspace.heapCapacity = workspace.maximumSymbolCount * mergeHeapCapacityFactor + mergeHeapCapacitySlack

/-- What encoding a piece leaves: its tokens at the front of the symbols; or the piece is longer than
the arrays. -/
def Encoded (tokenizer : Tokenizer) (text : List UInt8) (workspace : Workspace) (status : SparkStatus) (count : Nat)
    (symbols : Symbols) : Prop :=
  status = .ok ∧ tokensAt symbols.tokenIds 0 count = referenceTokens tokenizer text ∨
    status = .capacityExceeded ∧ workspace.maximumSymbolCount < text.length

theorem encodeByteLevelPieceUncached_encoded (tokenizer : Tokenizer) (sized : Sized workspace) (isSome : text ≠ []) :
    ∃ status count symbols, encodeByteLevelPieceUncached tokenizer text workspace =
        (status, count, { workspace with symbols := symbols }) ∧
      Encoded tokenizer text workspace status count symbols := by
  have length := List.length_pos_iff.mpr isSome
  unfold encodeByteLevelPieceUncached
  rw [if_neg isSome]
  cases whole : tokenizer.wholeToken text with
  | some token =>
    dsimp only
    split
    · rename_i none
      exact ⟨.capacityExceeded, 0, workspace.symbols, rfl, .inr ⟨rfl, by omega⟩⟩
    · refine ⟨.ok, 1, _, rfl, .inl ⟨rfl, ?_⟩⟩
      rw [referenceTokens_whole isSome whole]
      exact congrArg (fun token => [token])
        (update_self (f := workspace.symbols.tokenIds) (a := 0) (v := token))
  | none =>
    dsimp only
    split
    · rename_i long
      exact ⟨.capacityExceeded, 0, workspace.symbols, rfl, .inr ⟨rfl, long⟩⟩
    rename_i short
    have tokens := referenceTokens_merged isSome whole
    have fewer := List.length_filterMap_le tokenizer.byteTokenIds text
    generalize text.filterMap tokenizer.byteTokenIds = symbols at tokens fewer ⊢
    split
    · rename_i none
      refine ⟨.ok, 0, _, rfl, .inl ⟨rfl, ?_⟩⟩
      rw [tokens, List.length_eq_zero_iff.mp none, bytePair_nil]
      rfl
    · rename_i some
      have room : 2 * symbols.length ≤ workspace.heapCapacity := by
        rw [sized, mergeHeapCapacityFactor]
        omega
      obtain ⟨count, after, merges, merged⟩ := mergeSymbols_tokens tokenizer
        workspace.symbols workspace.heapCapacity workspace.maximumSymbolCount
        (List.ne_nil_of_length_pos (Nat.pos_of_ne_zero some)) room (by omega)
      rw [merges]
      exact ⟨.ok, count, after, rfl, .inl ⟨rfl, merged.trans tokens.symm⟩⟩

section Cache

variable {cache : PieceCache}

/-- Every entry of the cache has the tokens of its piece, in the used part of the pool. -/
structure CacheSound (tokenizer : Tokenizer) (cache : PieceCache) : Prop where
  used : ∀ {slot entry}, cache.entries slot = some entry → entry.tokenOffset + entry.tokenCount ≤ cache.tokenUsed
  tokens : ∀ {slot entry}, cache.entries slot = some entry →
    tokensAt cache.tokenPool entry.tokenOffset entry.tokenCount = referenceTokens tokenizer entry.piece
  room : cache.tokenUsed ≤ cache.tokenCapacity

/-- An entry that is found is one of the piece. -/
theorem PieceCache.probe_piece {hash : UInt64} {probes first slot : Nat} {entry : PieceCacheEntry}
    (found : cache.probe text hash probes first = some slot) (isEntry : cache.entries slot = some entry) :
    entry.piece = text := by
  induction probes generalizing first with
  | zero => cases found
  | succ probes ih =>
    unfold PieceCache.probe at found
    split at found
    · rename_i empty
      obtain rfl := Option.some.inj found
      rw [empty] at isEntry
      cases isEntry
    · rename_i other isOther
      split at found
      · rename_i same
        obtain rfl := Option.some.inj found
        obtain rfl := Option.some.inj (isOther.symm.trans isEntry)
        exact same.2
      · exact ih found

theorem tokensAt_congr {one other : Nat → UInt32} {first second count : Nat}
    (same : ∀ index < count, one (first + index) = other (second + index)) :
    tokensAt one first count = tokensAt other second count :=
  List.map_congr_left fun index member => same index (List.mem_range.mp member)

/-- What is put into the cache is behind what it holds. -/
theorem CacheSound.store (sound : CacheSound tokenizer cache) {hash : UInt64} {slot : Option Nat} {produced : Nat}
    {tokenIds : Nat → UInt32} (isTokens : tokensAt tokenIds 0 produced = referenceTokens tokenizer text) :
    CacheSound tokenizer (cache.store text hash slot produced tokenIds) := by
  unfold PieceCache.store
  cases slot with
  | none => exact sound
  | some slot =>
    dsimp only
    split
    · rename_i fits
      have inRoom := sound.room
      refine ⟨?_, ?_, by dsimp only; omega⟩
      · intro other entry isEntry
        dsimp only at isEntry ⊢
        by_cases here : other = slot
        · rw [here, update_self] at isEntry
          obtain rfl := Option.some.inj isEntry
          exact Nat.le_refl _
        · rw [update_of_ne here] at isEntry
          have := sound.used isEntry
          omega
      · intro other entry isEntry
        dsimp only at isEntry ⊢
        by_cases here : other = slot
        · rw [here, update_self] at isEntry
          obtain rfl := Option.some.inj isEntry
          dsimp only
          rw [← isTokens]
          apply tokensAt_congr
          intro index inside
          rw [if_pos (by omega)]
          congr 1
          omega
        · rw [update_of_ne here] at isEntry
          have before := sound.used isEntry
          rw [← sound.tokens isEntry]
          apply tokensAt_congr
          intro index inside
          rw [if_neg (by omega)]
    · exact sound

end Cache

/-- What holds of every workspace that a tokenizer leaves. -/
structure Sound (tokenizer : Tokenizer) (workspace : Workspace) : Prop where
  sized : workspace.hasSymbols = true → Sized workspace
  cached : ∀ cache, workspace.pieceCache = some cache → CacheSound tokenizer cache

/-- The tokens of a piece are appended, or the piece is longer than the arrays and nothing is. -/
def Appended (tokenizer : Tokenizer) (text : List UInt8) (workspace : Workspace) (encoding : Encoding)
    (result : SparkStatus × Workspace × Encoding) : Prop :=
  result.1 = .ok ∧ result.2.2 = (referenceTokens tokenizer text).foldl Encoding.append encoding ∨
    result.1 = .capacityExceeded ∧ workspace.maximumSymbolCount < text.length ∧ result.2.2 = encoding

theorem Sound.encode (sound : Sound tokenizer workspace) (hasSymbols : workspace.hasSymbols = true)
    (disablePieceCache : Bool) (encoding : Encoding) :
    Appended tokenizer text workspace encoding
        (encodeByteLevelPiece tokenizer text workspace disablePieceCache encoding) ∧
      Sound tokenizer (encodeByteLevelPiece tokenizer text workspace disablePieceCache encoding).2.1 := by
  have kept : ∀ symbols, Sound tokenizer { workspace with symbols := symbols } := fun symbols =>
    ⟨sound.sized, sound.cached⟩
  unfold encodeByteLevelPiece
  split
  · rename_i empty
    refine ⟨.inl ⟨rfl, ?_⟩, sound⟩
    rw [referenceTokens, if_pos empty]
    rfl
  rename_i isSome
  obtain ⟨status, count, symbols, encodes, encoded⟩ :=
    encodeByteLevelPieceUncached_encoded tokenizer (sound.sized hasSymbols) isSome
  dsimp only
  split
  · rw [encodes]
    dsimp only
    rcases encoded with ⟨rfl, tokens⟩ | ⟨rfl, long⟩
    · rw [if_neg (not_not.mpr rfl), tokens]
      exact ⟨.inl ⟨rfl, rfl⟩, kept symbols⟩
    · rw [if_pos nofun]
      exact ⟨.inr ⟨rfl, long, rfl⟩, kept symbols⟩
  · rename_i cache isCache
    have isWorkspaceCache : workspace.pieceCache = some cache := by
      split at isCache
      · cases isCache
      · exact isCache
    have cacheSound := sound.cached cache isWorkspaceCache
    split
    · rename_i entry isEntry
      obtain ⟨slot, found, isEntry⟩ := Option.bind_eq_some_iff.mp isEntry
      refine ⟨.inl ⟨rfl, ?_⟩, sound⟩
      dsimp only
      rw [cacheSound.tokens isEntry, cache.probe_piece found isEntry]
    · rw [encodes]
      dsimp only
      rcases encoded with ⟨rfl, tokens⟩ | ⟨rfl, long⟩
      · rw [if_neg (not_not.mpr rfl), tokens]
        refine ⟨.inl ⟨rfl, rfl⟩, sound.sized, ?_⟩
        intro other isOther
        obtain rfl := Option.some.inj isOther
        exact cacheSound.store tokens
      · rw [if_pos nofun]
        exact ⟨.inr ⟨rfl, long, rfl⟩, kept symbols⟩

theorem Reachable.sound (reachable : Reachable tokenizer workspace) : Sound tokenizer workspace := by
  induction reachable with
  | reset symbols => exact ⟨nofun, nofun⟩
  | @ensureSymbolBuffers workspace reachable maximumSymbolCount fresh ih =>
    unfold Workspace.ensureSymbolBuffers
    split
    · exact ih
    split
    · exact ⟨nofun, ih.cached⟩
    · exact ⟨fun _ => rfl, ih.cached⟩
  | @ensurePieceCache workspace reachable tokenPool ih =>
    unfold Workspace.ensurePieceCache
    split
    · exact ih
    · refine ⟨ih.sized, fun cache isCache => ?_⟩
      obtain rfl := Option.some.inj isCache
      exact ⟨nofun, nofun, Nat.zero_le _⟩
  | encode reachable hasSymbols text disablePieceCache encoding ih =>
    exact (ih.encode hasSymbols disablePieceCache encoding).2

/-- Whatever pieces the tokenizer has encoded before, with the cache or without it, a piece is encoded
to the tokens of byte-pair encoding. The capacity is exceeded only by a piece that is longer than the
arrays of the symbols, never by the heap. -/
theorem encodeByteLevelPiece_reference (reachable : Reachable tokenizer workspace)
    (hasSymbols : workspace.hasSymbols = true) (text : List UInt8) (disablePieceCache : Bool) (encoding : Encoding) :
    let (status, _, encoded) := encodeByteLevelPiece tokenizer text workspace disablePieceCache encoding
    status = .ok ∧ encoded = (referenceTokens tokenizer text).foldl Encoding.append encoding ∨
      status = .capacityExceeded ∧ workspace.maximumSymbolCount < text.length ∧ encoded = encoding :=
  (reachable.sound.encode hasSymbols disablePieceCache encoding).1

/-- Two bytes with a token each, and a token for the pair of them. -/
def pairTokenizer : Tokenizer where
  ignoreMerges := false
  rankOrderedMerges := false
  maximumTokenId := 2
  byteTokenIds byte := if byte = 97 then some 0 else if byte = 98 then some 1 else none
  tokenText _ := none
  vocabulary _ := none
  specialTokens := []
  mergePairs left right := if left = 0 ∧ right = 1 then some ⟨0, 2⟩ else none

/-- A workspace for three symbols, with an empty cache. -/
def pairWorkspace : Workspace :=
  let symbols : Symbols := ⟨fun _ => 0, fun _ => none, fun _ => none, fun _ => 0, []⟩
  (((Workspace.reset symbols).ensureSymbolBuffers 3 symbols).2).ensurePieceCache fun _ => 0

theorem encodeByteLevelPiece_reference_pair :
    let (status, _, encoded) := encodeByteLevelPiece pairTokenizer [97, 98] pairWorkspace false ⟨[], 8, 0⟩
    status = .ok ∧ encoded = (referenceTokens pairTokenizer [97, 98]).foldl Encoding.append ⟨[], 8, 0⟩ ∨
      status = .capacityExceeded ∧ pairWorkspace.maximumSymbolCount < [97, 98].length ∧ encoded = ⟨[], 8, 0⟩ :=
  @encodeByteLevelPiece_reference pairTokenizer pairWorkspace
    (((Reachable.reset _).ensureSymbolBuffers 3 _).ensurePieceCache _) rfl [97, 98] false ⟨[], 8, 0⟩

end Sparkpipe.BytePair
