import Mathlib.Logic.Function.Basic
import Sparkpipe.Status
import Sparkpipe.Lib.Heap

/-!
# Encoding a byte-level piece

A piece of text is encoded by byte-pair encoding: its bytes become symbols, and the pair
of neighbours of the lowest rank is merged until none can be. The symbols are a list that
is linked through the arrays of the workspace, and the pairs that may be merged are kept
in a heap. A pair that has changed since it was pushed is recognised by the generations of
its symbols. The tokens of short pieces are kept in a cache.

The tables of a tokenizer are functions: what their lookups find. The tokens of a piece are
written over its symbols, as both callers have it. Memory is always there when it is asked for.
-/

namespace Sparkpipe.BytePair

open Function

/-- `SPARK_TOKENIZER_MAX_MERGE_KEY_INLINE_BYTES`. -/
def maxMergeKeyInlineBytes : Nat := 256

/-- `SPARK_TOKENIZER_PIECE_CACHE_INLINE_BYTES`. -/
def pieceCacheInlineBytes : Nat := 32

/-- `SPARK_TOKENIZER_PIECE_CACHE_SLOT_COUNT`. -/
def pieceCacheSlotCount : Nat := 16384

/-- `SPARK_TOKENIZER_PIECE_CACHE_TOKEN_CAPACITY`. -/
def pieceCacheTokenCapacity : Nat := 262144

/-- `SPARK_TOKENIZER_MERGE_HEAP_CAPACITY_FACTOR`. -/
def mergeHeapCapacityFactor : Nat := 4

/-- `SPARK_TOKENIZER_MERGE_HEAP_CAPACITY_SLACK`. -/
def mergeHeapCapacitySlack : Nat := 16

/-- What a pair of tokens is merged to, and its rank: `SparkTokenizerFastMergePair`. -/
structure Merge where
  rank : UInt32
  mergedTokenId : UInt32
  deriving DecidableEq

/-- `SparkTokenizer`, as far as a byte-level piece needs it. -/
structure Tokenizer where
  ignoreMerges : Bool
  rankOrderedMerges : Bool
  maximumTokenId : UInt32
  byteTokenIds : UInt8 → Option UInt32
  /-- `token_text_by_id`. -/
  tokenText : UInt32 → Option (List UInt8)
  /-- `SparkTokenizerFindStringEntryInTable` in the vocabulary. -/
  vocabulary : List UInt8 → Option UInt32
  specialTokens : List (List UInt8 × UInt32)
  /-- `SparkTokenizerFindMergePairEntry`. -/
  mergePairs : UInt32 → UInt32 → Option Merge

/-- `SparkTokenizerMergeCandidate`. -/
structure Candidate where
  rank : UInt32
  leftSymbolIndex : Nat
  leftGeneration : Nat
  rightGeneration : Nat
  deriving DecidableEq

/-- The arrays of the symbols, and the heap of the pairs. -/
structure Symbols where
  tokenIds : Nat → UInt32
  previous : Nat → Option Nat
  next : Nat → Option Nat
  generations : Nat → Nat
  mergeHeap : List Candidate

/-- `SparkTokenizerPieceCacheEntry`. -/
structure PieceCacheEntry where
  hash : UInt64
  piece : List UInt8
  tokenOffset : Nat
  tokenCount : Nat

/-- The cache of the pieces: an entry with the empty hash is `none`. -/
structure PieceCache where
  slotCount : Nat
  tokenCapacity : Nat
  tokenUsed : Nat
  entries : Nat → Option PieceCacheEntry
  tokenPool : Nat → UInt32

/-- `SparkTokenizerWorkspace`; the arrays of the symbols may have been given up. -/
structure Workspace where
  heapCapacity : Nat
  maximumSymbolCount : Nat
  hasSymbols : Bool
  symbols : Symbols
  pieceCache : Option PieceCache

/-- `SparkTokenizerEncoding`. -/
structure Encoding where
  tokenIds : List UInt32
  tokenCapacity : Nat
  overflowTokenCount : Nat

section Vocabulary

variable (tokenizer : Tokenizer)

/-- The bytes that stand for themselves. -/
def isPrintable (value : Nat) : Bool :=
  33 ≤ value ∧ value ≤ 126 ∨ 161 ≤ value ∧ value ≤ 172 ∨ 174 ≤ value ∧ value ≤ 255

/-- `SparkTokenizerByteToUnicodeCodePoint`. -/
def byteToUnicodeCodePoint (byte : UInt8) : Nat :=
  if isPrintable byte.toNat then byte.toNat
  else 256 + ((List.range byte.toNat).filter fun candidate => !isPrintable candidate).length

/-- `SparkTokenizerAppendUtf8CodePoint`. -/
def utf8CodePoint (codePoint : Nat) : List UInt8 :=
  if codePoint ≤ 0x7f then [codePoint.toUInt8]
  else if codePoint ≤ 0x7ff then [(0xc0 ||| codePoint >>> 6).toUInt8, (0x80 ||| codePoint &&& 0x3f).toUInt8]
  else [(0xe0 ||| codePoint >>> 12).toUInt8, (0x80 ||| codePoint >>> 6 &&& 0x3f).toUInt8,
    (0x80 ||| codePoint &&& 0x3f).toUInt8]

/-- The text by which the vocabulary knows a piece. -/
def glyphText (text : List UInt8) : List UInt8 :=
  text.flatMap fun byte => utf8CodePoint (byteToUnicodeCodePoint byte)

/-- `SparkTokenizerFindTokenId`. -/
def Tokenizer.findTokenId (text : List UInt8) : Option UInt32 :=
  match tokenizer.vocabulary text with
  | some token => some token
  | none => (tokenizer.specialTokens.find? fun special => special.1 = text).map Prod.snd

/-- `SparkTokenizerFindRankOrderedMerge`. -/
def Tokenizer.findRankOrderedMerge (left right : UInt32) : Option UInt32 :=
  if tokenizer.maximumTokenId < left ∨ tokenizer.maximumTokenId < right then none
  else match tokenizer.tokenText left, tokenizer.tokenText right with
    | some leftText, some rightText =>
      if 2 ^ 32 - 1 < leftText.length + rightText.length then none
      else tokenizer.findTokenId (leftText ++ rightText)
    | _, _ => none

/-- What two neighbours are merged to. -/
def Tokenizer.merge (left right : UInt32) : Option Merge :=
  if tokenizer.rankOrderedMerges then
    (tokenizer.findRankOrderedMerge left right).map fun token => ⟨token, token⟩
  else tokenizer.mergePairs left right

/-- A piece that is a token as it stands. -/
def Tokenizer.wholeToken (text : List UInt8) : Option UInt32 :=
  if tokenizer.ignoreMerges ∧ text.length ≤ maxMergeKeyInlineBytes then tokenizer.findTokenId (glyphText text)
  else none

end Vocabulary

section Merging

variable (tokenizer : Tokenizer) (heapCapacity symbolCount : Nat) (symbols : Symbols)

/-- `SparkTokenizerCompareMergeCandidates` is negative. -/
def Candidate.before (left right : Candidate) : Bool :=
  left.rank < right.rank ∨ left.rank = right.rank ∧ left.leftSymbolIndex < right.leftSymbolIndex

/-- `SparkTokenizerCompareMergeCandidates` is not positive. -/
def Candidate.notAfter (left right : Candidate) : Bool := !right.before left

/-- `SparkTokenizerHeapPush`. -/
def heapPush (candidate : Candidate) : SparkStatus × Symbols :=
  if heapCapacity ≤ symbols.mergeHeap.length then (.capacityExceeded, symbols)
  else (.ok, { symbols with mergeHeap := Heap.insert Candidate.notAfter symbols.mergeHeap candidate })

/-- `SparkTokenizerHeapPop`. -/
def heapPop : Option (Candidate × Symbols) :=
  match symbols.mergeHeap with
  | [] => none
  | first :: _ => some (first,
      { symbols with mergeHeap := Heap.removeAtBy Candidate.notAfter Candidate.before symbols.mergeHeap 0 })

/-- `SparkTokenizerPushPairCandidate`. -/
def pushPairCandidate (left : Option Nat) (symbols : Symbols) : SparkStatus × Symbols :=
  match left with
  | none => (.ok, symbols)
  | some left =>
    match symbols.next left with
    | none => (.ok, symbols)
    | some right =>
      match tokenizer.merge (symbols.tokenIds left) (symbols.tokenIds right) with
      | none => (.ok, symbols)
      | some merge => heapPush heapCapacity symbols
          ⟨merge.rank, left, symbols.generations left, symbols.generations right⟩

/-- The checks of `SparkTokenizerMergeSymbols` on a candidate: the right symbol of a pair that is
still there, and what the pair is merged to. -/
def acceptedMerge (candidate : Candidate) : Option (Nat × UInt32) :=
  if symbolCount ≤ candidate.leftSymbolIndex ∨
      symbols.generations candidate.leftSymbolIndex ≠ candidate.leftGeneration then none
  else match symbols.next candidate.leftSymbolIndex with
    | none => none
    | some right =>
      if symbols.generations right ≠ candidate.rightGeneration then none
      else match tokenizer.merge (symbols.tokenIds candidate.leftSymbolIndex) (symbols.tokenIds right) with
        | none => none
        | some merge => if merge.rank ≠ candidate.rank then none else some (right, merge.mergedTokenId)

/-- The right symbol is taken out of the list, and the left one is the merged token. -/
def joinSymbols (left right : Nat) (token : UInt32) : Symbols :=
  { symbols with
    tokenIds := update symbols.tokenIds left token
    next := update symbols.next left (symbols.next right)
    previous :=
      match symbols.next right with
      | none => symbols.previous
      | some following => update symbols.previous following (some left)
    generations := fun index =>
      if index = left ∨ index = right then symbols.generations index + 1 else symbols.generations index }

/-- The merges of `SparkTokenizerMergeSymbols`. Each round takes away a candidate or a symbol,
which bounds the rounds. -/
def mergeLoop : Nat → Nat → Symbols → SparkStatus × Symbols
  | 0, _, symbols => (.internalError, symbols)
  | rounds + 1, liveSymbolCount, symbols =>
    if liveSymbolCount ≤ 1 then (.ok, symbols)
    else match heapPop symbols with
      | none => (.ok, symbols)
      | some (candidate, symbols) =>
        match acceptedMerge tokenizer symbolCount symbols candidate with
        | none => mergeLoop rounds liveSymbolCount symbols
        | some (right, token) =>
          let left := candidate.leftSymbolIndex
          let previous := symbols.previous left
          andThen (pushPairCandidate tokenizer heapCapacity previous (joinSymbols symbols left right token))
            fun symbols =>
              andThen (pushPairCandidate tokenizer heapCapacity (some left) symbols)
                (mergeLoop rounds (liveSymbolCount - 1))

/-- The last loop of `SparkTokenizerMergeSymbols`: the tokens of the list are written to the front of
the array. -/
def emitSymbols (capacity : Nat) (next : Nat → Option Nat) :
    Nat → Option Nat → Nat → (Nat → UInt32) → SparkStatus × Nat × (Nat → UInt32)
  | _, none, emitted, tokenIds => (.ok, emitted, tokenIds)
  | 0, some _, emitted, tokenIds => (.internalError, emitted, tokenIds)
  | steps + 1, some index, emitted, tokenIds =>
    if capacity ≤ emitted then (.capacityExceeded, emitted, tokenIds)
    else emitSymbols capacity next steps (next index) (emitted + 1)
      (update tokenIds emitted (tokenIds index))

/-- `SparkTokenizerMergeSymbols`: the number of the tokens, which are at the front of the symbols. -/
def mergeSymbols (tokenCapacity : Nat) : SparkStatus × Nat × Symbols :=
  let (status, symbols) := forEach (fun index => pushPairCandidate tokenizer heapCapacity (some index))
    (List.range (symbolCount - 1)) symbols
  if status ≠ .ok then (status, 0, symbols)
  else
    let (status, symbols) := mergeLoop tokenizer heapCapacity symbolCount (3 * symbolCount) symbolCount symbols
    if status ≠ .ok then (status, 0, symbols)
    else
      let (status, count, tokenIds) :=
        emitSymbols tokenCapacity symbols.next symbolCount (some 0) 0 symbols.tokenIds
      (status, if status = .ok then count else 0, { symbols with tokenIds := tokenIds })

end Merging

section Encoding

variable (tokenizer : Tokenizer) (text : List UInt8) (workspace : Workspace)

/-- The symbols of a piece, linked in their order. -/
def Symbols.load (symbols : Symbols) (tokens : List UInt32) : Symbols where
  tokenIds index := tokens.getD index (symbols.tokenIds index)
  previous index :=
    if index < tokens.length then (if index = 0 then none else some (index - 1)) else symbols.previous index
  next index :=
    if index < tokens.length then (if index + 1 < tokens.length then some (index + 1) else none)
    else symbols.next index
  generations index := if index < tokens.length then 1 else symbols.generations index
  mergeHeap := []

/-- `SparkTokenizerEncodeByteLevelPieceUncached`: the number of the tokens, which are at the front of
the symbols. -/
def encodeByteLevelPieceUncached : SparkStatus × Nat × Workspace :=
  if text = [] then (.ok, 0, workspace)
  else match tokenizer.wholeToken text with
    | some token =>
      if workspace.maximumSymbolCount = 0 then (.capacityExceeded, 0, workspace)
      else (.ok, 1, { workspace with
        symbols := { workspace.symbols with tokenIds := update workspace.symbols.tokenIds 0 token } })
    | none =>
      if workspace.maximumSymbolCount < text.length then (.capacityExceeded, 0, workspace)
      else
        let tokens := text.filterMap tokenizer.byteTokenIds
        let symbols := workspace.symbols.load tokens
        if tokens.length = 0 then (.ok, 0, { workspace with symbols := symbols })
        else
          let (status, count, symbols) :=
            mergeSymbols tokenizer workspace.heapCapacity tokens.length symbols workspace.maximumSymbolCount
          (status, count, { workspace with symbols := symbols })

/-- `SparkTokenizerPieceHash`. -/
def pieceHash (text : List UInt8) : UInt64 :=
  let hash := text.foldl (fun hash byte => (hash ^^^ byte.toUInt64) * 1099511628211) 1469598103934665603
  if hash = 0 then 1 else hash

/-- The probes of `SparkTokenizerPieceCacheLookup`. -/
def PieceCache.probe (cache : PieceCache) (text : List UInt8) (hash : UInt64) : Nat → Nat → Option Nat
  | 0, _ => none
  | probes + 1, slot =>
    match cache.entries slot with
    | none => some slot
    | some entry =>
      if entry.hash = hash ∧ entry.piece = text then some slot
      else PieceCache.probe cache text hash probes ((slot + 1) &&& (cache.slotCount - 1))

/-- `SparkTokenizerPieceCacheLookup`: the slot of the piece, or the empty one where it would be. -/
def PieceCache.lookup (cache : PieceCache) (text : List UInt8) (hash : UInt64) : Option Nat :=
  cache.probe text hash cache.slotCount (hash.toNat &&& (cache.slotCount - 1))

/-- `SparkTokenizerAppendTokenToEncoding`. -/
def Encoding.append (encoding : Encoding) (token : UInt32) : Encoding :=
  if encoding.tokenIds.length < encoding.tokenCapacity then
    { encoding with tokenIds := encoding.tokenIds ++ [token] }
  else { encoding with overflowTokenCount := encoding.overflowTokenCount + 1 }

/-- The first tokens of an array, from an offset on. -/
def tokensAt (tokenIds : Nat → UInt32) (offset count : Nat) : List UInt32 :=
  (List.range count).map fun index => tokenIds (offset + index)

/-- The tokens that have been produced are put into the cache, if there is room. -/
def PieceCache.store (cache : PieceCache) (text : List UInt8) (hash : UInt64) (slot : Option Nat) (produced : Nat)
    (tokenIds : Nat → UInt32) : PieceCache :=
  match slot with
  | none => cache
  | some slot =>
    if produced ≤ cache.tokenCapacity - cache.tokenUsed then
      { cache with
        tokenUsed := cache.tokenUsed + produced
        tokenPool := fun index =>
          if cache.tokenUsed ≤ index ∧ index < cache.tokenUsed + produced then tokenIds (index - cache.tokenUsed)
          else cache.tokenPool index
        entries := update cache.entries slot (some ⟨hash, text, cache.tokenUsed, produced⟩) }
    else cache

/-- `SparkTokenizerEncodeByteLevelPiece`. -/
def encodeByteLevelPiece (disablePieceCache : Bool) (encoding : Encoding) : SparkStatus × Workspace × Encoding :=
  if text = [] then (.ok, workspace, encoding)
  else
    let cache := if pieceCacheInlineBytes < text.length ∨ disablePieceCache then none else workspace.pieceCache
    match cache with
    | none =>
      let (status, count, workspace) := encodeByteLevelPieceUncached tokenizer text workspace
      if status ≠ .ok then (status, workspace, encoding)
      else (.ok, workspace, (tokensAt workspace.symbols.tokenIds 0 count).foldl Encoding.append encoding)
    | some cache =>
      let hash := pieceHash text
      let slot := cache.lookup text hash
      match slot.bind cache.entries with
      | some entry =>
        (.ok, workspace,
          (tokensAt cache.tokenPool entry.tokenOffset entry.tokenCount).foldl Encoding.append encoding)
      | none =>
        let (status, produced, workspace) := encodeByteLevelPieceUncached tokenizer text workspace
        if status ≠ .ok then (status, workspace, encoding)
        else
          let encoding := (tokensAt workspace.symbols.tokenIds 0 produced).foldl Encoding.append encoding
          (.ok, { workspace with
            pieceCache := some (cache.store text hash slot produced workspace.symbols.tokenIds) }, encoding)

end Encoding

section Workspaces

variable (workspace : Workspace)

/-- `SparkTokenizerWorkspaceReset`. -/
def Workspace.reset (symbols : Symbols) : Workspace := ⟨0, 0, false, symbols, none⟩

/-- `SparkTokenizerWorkspaceEnsureSymbolBuffers`, with what is in the memory it is given. -/
def Workspace.ensureSymbolBuffers (maximumSymbolCount : Nat) (fresh : Symbols) : SparkStatus × Workspace :=
  if workspace.hasSymbols ∧ maximumSymbolCount ≤ workspace.maximumSymbolCount then (.ok, workspace)
  else if (2 ^ 32 - 1 - mergeHeapCapacitySlack) / mergeHeapCapacityFactor < maximumSymbolCount then
    (.capacityExceeded,
      { workspace with maximumSymbolCount := maximumSymbolCount, hasSymbols := false, symbols := fresh })
  else (.ok, { workspace with
    maximumSymbolCount := maximumSymbolCount
    heapCapacity := maximumSymbolCount * mergeHeapCapacityFactor + mergeHeapCapacitySlack
    hasSymbols := true
    symbols := fresh })

/-- `SparkTokenizerWorkspaceEnsurePieceCache`, with what is in the memory it is given. -/
def Workspace.ensurePieceCache (tokenPool : Nat → UInt32) : Workspace :=
  match workspace.pieceCache with
  | some _ => workspace
  | none => { workspace with
      pieceCache := some ⟨pieceCacheSlotCount, pieceCacheTokenCapacity, 0, fun _ => none, tokenPool⟩ }

end Workspaces

/-- The workspaces that a tokenizer leaves after it has encoded pieces. A piece is encoded while the
workspace has its arrays. -/
inductive Reachable (tokenizer : Tokenizer) : Workspace → Prop where
  | reset (symbols : Symbols) : Reachable tokenizer (.reset symbols)
  | ensureSymbolBuffers {workspace : Workspace} (reachable : Reachable tokenizer workspace) (maximumSymbolCount : Nat)
      (fresh : Symbols) : Reachable tokenizer (workspace.ensureSymbolBuffers maximumSymbolCount fresh).2
  | ensurePieceCache {workspace : Workspace} (reachable : Reachable tokenizer workspace) (tokenPool : Nat → UInt32) :
      Reachable tokenizer (workspace.ensurePieceCache tokenPool)
  | encode {workspace : Workspace} (reachable : Reachable tokenizer workspace) (hasSymbols : workspace.hasSymbols = true)
      (text : List UInt8) (disablePieceCache : Bool) (encoding : Encoding) :
      Reachable tokenizer (encodeByteLevelPiece tokenizer text workspace disablePieceCache encoding).2.1

end Sparkpipe.BytePair
