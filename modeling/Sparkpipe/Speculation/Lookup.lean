import Mathlib.Data.Nat.Find
import Sparkpipe.Lib.Chain
import Sparkpipe.Status

/-!
# Drafts looked up in the history

`spark_speculation_lookup_draft.c`: what followed an earlier match of the end of the history is
drafted again. The draft compares every earlier position; the index keeps, for each bucket of
grams, the chain of the positions at which such a gram ends, the latest first.

A read outside the history, or of the chain at a position it does not hold, is `none`.
-/

namespace Sparkpipe.SpeculationLookup

open Function Sparkpipe.Chain

/-- `SPARK_SPECULATION_LOOKUP_MATCH_LIMIT`. -/
def matchLimit : Nat := 64

/-- `SPARK_SPECULATION_LOOKUP_UNKNOWN_TOKEN`. -/
def unknownToken : UInt32 := 0xffffffff

/-- `SPARK_SPECULATION_LOOKUP_NO_POSITION`. -/
def noPosition : UInt32 := 0xffffffff

/-- `SparkSpeculationLookupMatch`. -/
structure Match where
  matchLength : Nat := 0
  sourceEnd : Nat := 0
  deriving DecidableEq

/-- What a candidate leaves of the best match so far. -/
def Match.longer (best : Match) (length stop : Nat) : Match :=
  if best.matchLength < length then ⟨length, stop⟩ else best

/-- The inner loop of the searches: the match is lengthened backwards from `stop` while there is
`room` up to `max_match`. -/
def lengthen (read ask : Nat → Option UInt32) (inside : Nat → Bool) (stop : Nat) : Nat → Nat → Option Nat
  | 0, length => some length
  | room + 1, length =>
    if length ≤ stop ∧ inside length then do
      let token ← read (stop - length)
      let wanted ← ask length
      if token = wanted then lengthen read ask inside stop room (length + 1) else some length
    else some length

/-- A token of the history, of which there are `count`. -/
def tokenAt (history : Nat → UInt32) (count position : Nat) : Option UInt32 :=
  if position < count then some (history position) else none

section Draft

/-- `SparkSpeculationLookupDraft`, as far as a search reads it. -/
structure Draft where
  laneCount : Nat
  minMatch : Nat
  maxMatch : Nat
  tokens : Nat → Nat → UInt32
  lengths : Nat → Nat

/-- The outer loop of `SparkSpeculationLookupDraftFind`, over the positions it comes to. -/
def scan (maxMatch : Nat) (measure : Nat → Option Nat) : List Nat → Match → Option Match
  | [], best => some best
  | stop :: rest, best =>
    if maxMatch ≤ best.matchLength then some best
    else do
      let length ← measure stop
      scan maxMatch measure rest (best.longer length stop)

/-- `SparkSpeculationLookupDraftFind`. -/
def draftFind (draft : Draft) (lane anchor : Nat) : Option (Except SparkStatus Match) :=
  let history := draft.tokens lane
  let read := tokenAt history (draft.lengths lane)
  if draft.laneCount ≤ lane then some (.error .invalidArgument)
  else if draft.lengths lane ≤ anchor ∨ history anchor = unknownToken then some (.error .notFound)
  else do
    let best ← scan draft.maxMatch
      (fun stop => lengthen read (fun length => read (anchor - length))
        (fun length => history (anchor - length) ≠ unknownToken) stop draft.maxMatch 0)
      (List.range anchor).reverse {}
    some (.ok (if draft.minMatch ≤ best.matchLength then best else {}))

end Draft

section Index

/-- `SparkSpeculationLookupIndex`; a head or a link without a position is `none`. -/
structure Index where
  gram : Nat
  bucketMask : Nat
  capacity : Nat
  length : Nat
  heads : Nat → Option Nat
  chain : Nat → Option Nat

/-- `SparkSpeculationLookupIndexBucket`. -/
def bucket (bucketMask : Nat) (gramTokens : List UInt32) : Nat :=
  let hash := gramTokens.foldl (fun (hash : UInt64) token =>
    let mixed := (hash ^^^ token.toUInt64) * 0x100000001b3
    mixed ^^^ mixed >>> 29) 0xcbf29ce484222325
  hash.toUInt32.toNat &&& bucketMask

/-- `SparkSpeculationLookupIndexReset`. -/
def reset (index : Index) : Index :=
  { index with
    heads := fun bucket => if bucket ≤ index.bucketMask then none else index.heads bucket
    length := 0 }

/-- `SparkSpeculationLookupIndexBind`, given what the two arrays hold. -/
def bindIndex (heads : Nat → Option Nat) (bucketCount : UInt32) (chain : Nat → Option Nat) (capacity gram : UInt32) :
    Except SparkStatus Index :=
  if bucketCount = 0 ∨ bucketCount &&& (bucketCount - 1) ≠ 0 ∨ capacity < 2 ∨ capacity = noPosition ∨
      gram = 0 ∨ matchLimit < gram.toNat ∨ capacity ≤ gram then .error .invalidArgument
  else .ok (reset
    { gram := gram.toNat
      bucketMask := (bucketCount - 1).toNat
      capacity := capacity.toNat
      length := 0
      heads := heads
      chain := chain })

/-- The `gram` tokens that end at `stop`. -/
def gramAt (history : Nat → UInt32) (gram stop : Nat) : List UInt32 :=
  (List.range gram).map fun token => history (stop + 1 - gram + token)

/-- The loop of `SparkSpeculationLookupIndexAppend`. -/
def linkEnd (history : Nat → UInt32) (index : Index) (stop : Nat) : Index :=
  if stop + 1 < index.gram then index
  else
    let here := bucket index.bucketMask (gramAt history index.gram stop)
    { index with
      chain := update index.chain stop (index.heads here)
      heads := update index.heads here (some stop) }

/-- `SparkSpeculationLookupIndexAppend`. -/
def append (history : Nat → UInt32) (index : Index) (length : Nat) : SparkStatus × Index :=
  if length < index.length then (.invalidArgument, index)
  else if index.capacity < length then (.capacityExceeded, index)
  else (.ok,
    { (List.range' index.length (length - index.length)).foldl (linkEnd history) index with length := length })

variable (index : Index) (history : Nat → UInt32)

/-- The body of the searches: a candidate that does not match `last` has length zero. -/
def candidate (ask : Nat → Option UInt32) (inside : Nat → Bool) (last : List UInt32) (maxMatch stop : Nat) :
    Option Nat :=
  if index.length ≤ stop + 1 then some 0
  else if stop + 1 < index.gram then none
  else if gramAt history index.gram stop ≠ last then some 0
  else lengthen (tokenAt history index.length) ask inside stop (maxMatch - index.gram) index.gram

/-- The loop of the searches along a chain. -/
def walk (maxMatch : Nat) (measure : Nat → Option Nat) : Nat → Option Nat → Match → Option Match
  | 0, _, best => some best
  | _ + 1, none, best => some best
  | limit + 1, some stop, best =>
    if maxMatch ≤ best.matchLength then some best
    else do
      let length ← measure stop
      let next ← if stop < index.length then some (index.chain stop) else none
      walk maxMatch measure limit next (best.longer length stop)

/-- The searches from the bucket of `last` on. -/
def search (ask : Nat → Option UInt32) (inside : Nat → Bool) (last : List UInt32) (maxMatch candidateLimit : Nat) :
    Option (Except SparkStatus Match) := do
  let best ← walk index maxMatch (candidate index history ask inside last maxMatch) candidateLimit
    (index.heads (bucket index.bucketMask last)) {}
  some (if best.matchLength = 0 then .error .notFound else .ok best)

/-- `SparkSpeculationLookupIndexFind`. -/
def find (maxMatch candidateLimit : Nat) : Option (Except SparkStatus Match) :=
  if maxMatch < index.gram ∨ matchLimit < maxMatch ∨ candidateLimit = 0 then some (.error .invalidArgument)
  else if index.length ≤ index.gram then some (.error .notFound)
  else
    let anchor := index.length - 1
    search index history (fun length => tokenAt history index.length (anchor - length)) (fun _ => true)
      (gramAt history index.gram anchor) maxMatch candidateLimit

/-- `SparkSpeculationLookupTailToken`: the token `back` places before the end of history and tail. -/
def tailToken (tail : List UInt32) (back : Nat) : Option UInt32 :=
  if back < tail.length then tail[tail.length - 1 - back]?
  else if back - tail.length < index.length then some (history (index.length - 1 - (back - tail.length)))
  else none

/-- `SparkSpeculationLookupIndexFindTail`. -/
def findTail (tail : List UInt32) (maxMatch candidateLimit : Nat) : Option (Except SparkStatus Match) :=
  if maxMatch < index.gram ∨ matchLimit < maxMatch ∨ candidateLimit = 0 then some (.error .invalidArgument)
  else
    let combined := (index.length + tail.length) % 2 ^ 32
    if index.length ≤ index.gram ∨ combined < index.gram then some (.error .notFound)
    else do
      let last ← (List.range index.gram).mapM fun token => tailToken index history tail (index.gram - 1 - token)
      search index history (tailToken index history tail) (· < combined) last maxMatch candidateLimit

end Index

section Longest

variable {history query : Nat → UInt32} {gram maxMatch before stop : Nat}

/-- The last `length` tokens that are asked for stand in the history up to `stop`; `query` counts
from the end. -/
def Agrees (history query : Nat → UInt32) (stop length : Nat) : Prop :=
  length ≤ stop + 1 ∧ ∀ back < length, history (stop - back) = query back

instance (history query : Nat → UInt32) (stop : Nat) : DecidablePred (Agrees history query stop) :=
  fun length => inferInstanceAs (Decidable (length ≤ stop + 1 ∧ ∀ back < length, history (stop - back) = query back))

/-- The longest match that ends before `before`, and of the longest the latest. -/
structure Longest (history query : Nat → UInt32) (gram maxMatch before : Nat) (found : Match) : Prop where
  least : gram ≤ found.matchLength
  most : found.matchLength ≤ maxMatch
  inside : found.sourceEnd < before
  agrees : Agrees history query found.sourceEnd found.matchLength
  longest : ∀ stop < before, ∀ length ≤ maxMatch, Agrees history query stop length →
    length ≤ found.matchLength ∧ (length = found.matchLength → stop ≤ found.sourceEnd)

/-- What a search has to answer: the longest match, or that no `gram` tokens match. -/
def Answered (history query : Nat → UInt32) (gram maxMatch before : Nat) : Except SparkStatus Match → Prop
  | .ok found => Longest history query gram maxMatch before found
  | .error status => status = .notFound ∧ ∀ stop < before, ¬ Agrees history query stop gram

/-- The length of the match at a position that matches `gram` tokens, and zero at any other. -/
def sizeAt (history query : Nat → UInt32) (gram maxMatch stop : Nat) : Nat :=
  if Agrees history query stop gram then Nat.findGreatest (Agrees history query stop) maxMatch else 0

theorem Agrees.shorter {length fewer : Nat} (agrees : Agrees history query stop length) (fewer_le : fewer ≤ length) :
    Agrees history query stop fewer :=
  ⟨fewer_le.trans agrees.1, fun back early => agrees.2 back (early.trans_le fewer_le)⟩

theorem sizeAt_le : sizeAt history query gram maxMatch stop ≤ maxMatch := by
  unfold sizeAt
  split
  · exact Nat.findGreatest_le maxMatch
  · exact Nat.zero_le _

/-- The greatest length that still agrees is found by any search that cannot pass it. -/
theorem sizeAt_eq {length : Nat} (long : gram ≤ length) (capped : length ≤ maxMatch)
    (agrees : Agrees history query stop length) (stops : length < maxMatch → ¬ Agrees history query stop (length + 1)) :
    sizeAt history query gram maxMatch stop = length := by
  rw [sizeAt, if_pos (agrees.shorter long), Nat.findGreatest_eq_iff]
  refine ⟨capped, fun _ => agrees, ?_⟩
  intro longer more most further
  exact stops (by omega) (further.shorter more)

theorem Longest.unique {found other : Match} (longest : Longest history query gram maxMatch before found)
    (again : Longest history query gram maxMatch before other) : found = other := by
  have forward := longest.longest other.sourceEnd again.inside other.matchLength again.most again.agrees
  have backward := again.longest found.sourceEnd longest.inside found.matchLength longest.most longest.agrees
  have lengths : found.matchLength = other.matchLength := Nat.le_antisymm backward.1 forward.1
  have ends : found.sourceEnd = other.sourceEnd :=
    Nat.le_antisymm (backward.2 lengths) (forward.2 lengths.symm)
  cases found
  cases other
  simp_all

/-- A best size at the latest position that has it is the longest match. -/
theorem longest_of_size {found : Match} (enough : gram ≤ maxMatch) (something : 0 < found.matchLength)
    (inside : found.sourceEnd < before)
    (size : found.matchLength = sizeAt history query gram maxMatch found.sourceEnd)
    (best : ∀ stop < before, sizeAt history query gram maxMatch stop ≤ found.matchLength ∧
      (sizeAt history query gram maxMatch stop = found.matchLength → stop ≤ found.sourceEnd)) :
    Longest history query gram maxMatch before found := by
  have here : Agrees history query found.sourceEnd gram := by
    by_contra other
    rw [sizeAt, if_neg other] at size
    omega
  have greatest := size
  rw [sizeAt, if_pos here] at greatest
  have least : gram ≤ found.matchLength := greatest ▸ Nat.le_findGreatest enough here
  refine ⟨least, size ▸ sizeAt_le, inside, ?_, ?_⟩
  · rw [greatest]
    exact Nat.findGreatest_spec enough here
  · intro stop early length capped agrees
    by_cases long : gram ≤ length
    · have reached : length ≤ sizeAt history query gram maxMatch stop := by
        rw [sizeAt, if_pos (agrees.shorter long)]
        exact Nat.le_findGreatest capped agrees
      have bound := best stop early
      exact ⟨reached.trans bound.1, fun same => bound.2 (by omega)⟩
    · exact ⟨by omega, by omega⟩

end Longest

section Searching

variable {history query : Nat → UInt32} {read ask : Nat → Option UInt32} {inside : Nat → Bool}
  {gram maxMatch stop : Nat}

/-- The induction is on the room that is left; a mismatch leaves the greatest length. -/
theorem lengthen_size (reads : ∀ position ≤ stop, read position = some (history position))
    (asks : ∀ back ≤ stop, ask back = some (query back)) (allowed : ∀ back ≤ stop, inside back = true) :
    ∀ room length, gram ≤ length → length + room = maxMatch → Agrees history query stop length →
      lengthen read ask inside stop room length = some (sizeAt history query gram maxMatch stop) := by
  intro room
  induction room with
  | zero =>
    intro length long capped agrees
    rw [sizeAt_eq long (by omega) agrees (by omega), lengthen]
  | succ room further =>
    intro length long capped agrees
    rw [lengthen]
    by_cases first : length ≤ stop
    · rw [if_pos ⟨first, allowed length first⟩, reads _ (Nat.sub_le _ _), asks length first]
      by_cases same : history (stop - length) = query length
      · have more : Agrees history query stop (length + 1) := by
          refine ⟨by omega, fun back early => ?_⟩
          obtain earlier | rfl := Nat.lt_succ_iff_lt_or_eq.mp early
          · exact agrees.2 back earlier
          · exact same
        simp only [Option.bind_eq_bind, Option.bind_some, if_pos same]
        exact further (length + 1) (by omega) (by omega) more
      · have least := sizeAt_eq long (by omega : length ≤ maxMatch) agrees
          fun _ more => same (more.2 length (Nat.lt_succ_self length))
        simp [same, least]
    · have least := sizeAt_eq long (by omega : length ≤ maxMatch) agrees fun _ more => first (by have := more.1; omega)
      simp [first, least]

/-- The best of the positions that are looked at, the latest first. -/
structure Best (size : Nat → Nat) (visited : List Nat) (best found : Match) : Prop where
  grown : best.matchLength ≤ found.matchLength
  most : ∀ stop ∈ visited, size stop ≤ found.matchLength
  chosen : found = best ∨ found.sourceEnd ∈ visited ∧ found.matchLength = size found.sourceEnd ∧
    best.matchLength < found.matchLength ∧
    ∀ stop ∈ visited, size stop = found.matchLength → stop ≤ found.sourceEnd

theorem scan_congr {measure other : Nat → Option Nat} {visited : List Nat}
    (same : ∀ stop ∈ visited, measure stop = other stop) (best : Match) :
    scan maxMatch measure visited best = scan maxMatch other visited best := by
  induction visited generalizing best with
  | nil => rfl
  | cons stop rest ih =>
    rw [scan, scan, same stop List.mem_cons_self]
    simp only [ih fun other member => same other (.tail _ member)]

theorem scan_best {size : Nat → Nat} {measure : Nat → Option Nat} {visited : List Nat}
    (capped : ∀ stop, size stop ≤ maxMatch) (falling : visited.Pairwise (· > ·)) :
    (∀ stop ∈ visited, measure stop = some (size stop)) →
      ∀ best, ∃ found, scan maxMatch measure visited best = some found ∧ Best size visited best found := by
  induction falling with
  | nil =>
    intro _ best
    exact ⟨best, rfl, Nat.le_refl _, by simp, .inl rfl⟩
  | @cons stop rest later _ ih =>
    intro measured best
    by_cases full : maxMatch ≤ best.matchLength
    · exact ⟨best, by simp [scan, full], Nat.le_refl _, fun other _ => (capped other).trans full, .inl rfl⟩
    · obtain ⟨found, scanned, grown, most, chosen⟩ :=
        ih (fun other member => measured other (.tail _ member)) (best.longer (size stop) stop)
      refine ⟨found, by simp [scan, full, measured stop List.mem_cons_self, scanned], ?_⟩
      by_cases improved : best.matchLength < size stop
      · have taken : best.longer (size stop) stop = ⟨size stop, stop⟩ := if_pos improved
        rw [taken] at grown chosen
        refine ⟨(Nat.le_of_lt improved).trans grown, by simpa using ⟨grown, most⟩, .inr ?_⟩
        obtain rfl | ⟨member, exact', more, latest⟩ := chosen
        · refine ⟨.head _, rfl, improved, ?_⟩
          intro other member _
          obtain rfl | member := List.mem_cons.mp member
          · exact Nat.le_refl _
          · exact Nat.le_of_lt (later other member)
        · refine ⟨.tail _ member, exact', improved.trans more, ?_⟩
          intro other among same
          obtain rfl | among := List.mem_cons.mp among
          · simp at more
            omega
          · exact latest other among same
      · have kept : best.longer (size stop) stop = best := if_neg improved
        rw [kept] at grown chosen
        refine ⟨grown, by simpa using ⟨by omega, most⟩, ?_⟩
        obtain rfl | ⟨member, exact', more, latest⟩ := chosen
        · exact .inl rfl
        · refine .inr ⟨.tail _ member, exact', more, ?_⟩
          intro other among same
          obtain rfl | among := List.mem_cons.mp among
          · omega
          · exact latest other among same

end Searching

section Indexed

variable {history query : Nat → UInt32} {index : Index} {gram maxMatch limit stop : Nat}
  {ask : Nat → Option UInt32} {inside : Nat → Bool}

/-- The positions before `length` at which a gram of this bucket ends, the latest first. -/
def endsIn (history : Nat → UInt32) (index : Index) (length here : Nat) : List Nat :=
  ((List.range length).filter fun stop =>
    index.gram ≤ stop + 1 ∧ bucket index.bucketMask (gramAt history index.gram stop) = here).reverse

/-- Each head leads through the positions of its bucket. -/
def Linked (history : Nat → UInt32) (index : Index) (length : Nat) : Prop :=
  ∀ here ≤ index.bucketMask, Follows index.chain (index.heads here) (endsIn history index length here)

/-- What every index holds that was bound and appended to. -/
structure Built (history : Nat → UInt32) (gram : Nat) (index : Index) : Prop where
  gram_eq : index.gram = gram
  gram_pos : 0 < gram
  length_le : index.length ≤ index.capacity
  capacity_lt : index.capacity < 2 ^ 32
  linked : Linked history index index.length

theorem mem_endsIn {length here : Nat} : stop ∈ endsIn history index length here ↔ stop < length ∧
    index.gram ≤ stop + 1 ∧ bucket index.bucketMask (gramAt history index.gram stop) = here := by
  simp [endsIn]

theorem endsIn_falling (length here : Nat) : (endsIn history index length here).Pairwise (· > ·) := by
  rw [endsIn, List.pairwise_reverse]
  exact List.pairwise_lt_range.filter _

theorem linkEnd_kept (history : Nat → UInt32) (index : Index) (stop : Nat) :
    (linkEnd history index stop).gram = index.gram ∧
      (linkEnd history index stop).bucketMask = index.bucketMask ∧
      (linkEnd history index stop).capacity = index.capacity := by
  unfold linkEnd
  split <;> simp

/-- A position that ends no gram is in no bucket; any other comes first in its own. -/
theorem Linked.linkEnd (linked : Linked history index stop) :
    Linked history (linkEnd history index stop) (stop + 1) := by
  intro here inside
  obtain ⟨gram, mask, -⟩ := linkEnd_kept history index stop
  rw [mask] at inside
  have before := linked here inside
  have ends : endsIn history (SpeculationLookup.linkEnd history index stop) (stop + 1) here =
      (if index.gram ≤ stop + 1 ∧ bucket index.bucketMask (gramAt history index.gram stop) = here then [stop] else []) ++
        endsIn history index stop here := by
    simp only [endsIn, gram, mask, List.range_succ, List.filter_append, List.reverse_append,
      List.filter_cons, List.filter_nil,
      decide_eq_true_eq]
    split <;> simp_all
  rw [ends, SpeculationLookup.linkEnd]
  by_cases short : stop + 1 < index.gram
  · rw [if_pos short, if_neg (by omega)]
    exact before
  · rw [if_neg short]
    have chained : Follows (update index.chain stop
        (index.heads (bucket index.bucketMask (gramAt history index.gram stop))))
        (index.heads here) (endsIn history index stop here) := by
      refine before.congr fun other member => update_of_ne ?_ _ _
      exact Nat.ne_of_lt (mem_endsIn.mp member).1
    by_cases own : bucket index.bucketMask (gramAt history index.gram stop) = here
    · subst own
      rw [if_pos ⟨by omega, rfl⟩]
      simp only [update_self]
      refine .visit ?_
      rw [update_self]
      exact chained
    · rw [if_neg fun both => own both.2]
      simp only [update_of_ne (Ne.symm own), List.nil_append]
      exact chained

theorem Linked.fold (count : Nat) : ∀ index start, Linked history index start →
    Linked history ((List.range' start count).foldl (SpeculationLookup.linkEnd history) index) (start + count) ∧
      ((List.range' start count).foldl (SpeculationLookup.linkEnd history) index).gram = index.gram ∧
      ((List.range' start count).foldl (SpeculationLookup.linkEnd history) index).capacity = index.capacity := by
  induction count with
  | zero =>
    intro index start linked
    exact ⟨linked, rfl, rfl⟩
  | succ count ih =>
    intro index start linked
    obtain ⟨gram, -, capacity⟩ := linkEnd_kept history index start
    have rest := ih _ _ linked.linkEnd
    rw [List.range'_succ, List.foldl_cons, ← gram, ← capacity, show start + (count + 1) = start + 1 + count by omega]
    exact rest

/-- A call that fails leaves the index. -/
theorem Built.append (built : Built history gram index) (length : Nat) :
    Built history gram (append history index length).2 := by
  unfold SpeculationLookup.append
  split
  · exact built
  split
  · exact built
  · obtain ⟨linked, kept, capacity⟩ := Linked.fold (length - index.length) index index.length built.linked
    rw [show index.length + (length - index.length) = length by omega] at linked
    exact ⟨kept.trans built.gram_eq, built.gram_pos, by simp only; omega,
      by have := built.capacity_lt; simp only; omega, linked⟩

theorem Built.run (built : Built history gram index) (lengths : List Nat) :
    Built history gram (lengths.foldl (fun index length => (SpeculationLookup.append history index length).2) index) := by
  induction lengths generalizing index with
  | nil => exact built
  | cons length lengths ih => exact ih (built.append length)

theorem walk_scan {measure : Nat → Option Nat} {head : Option Nat} {visited : List Nat}
    (chain : Follows index.chain head visited) (early : ∀ stop ∈ visited, stop < index.length)
    (limit : Nat) (best : Match) :
    walk index maxMatch measure limit head best = scan maxMatch measure (visited.take limit) best := by
  induction chain generalizing limit best with
  | done => cases limit <;> simp [walk, scan]
  | @visit stop rest _ ih =>
    have later := ih fun other member => early other (.tail _ member)
    cases limit with
    | zero => simp [walk, scan]
    | succ limit => simp [walk, scan, later, early stop List.mem_cons_self]

/-- The last `gram` tokens that are asked for. -/
def lastOf (query : Nat → UInt32) (gram : Nat) : List UInt32 :=
  (List.range gram).map fun token => query (gram - 1 - token)

theorem gramAt_eq_iff (long : gram ≤ stop + 1) :
    gramAt history gram stop = lastOf query gram ↔ Agrees history query stop gram := by
  rw [gramAt, lastOf, List.map_inj_left]
  constructor
  · intro same
    refine ⟨long, fun back early => ?_⟩
    have token := same (gram - 1 - back) (List.mem_range.mpr (by omega))
    rwa [show stop + 1 - gram + (gram - 1 - back) = stop - back by omega,
      show gram - 1 - (gram - 1 - back) = back by omega] at token
  · intro agrees token member
    have early := List.mem_range.mp member
    rw [← agrees.2 (gram - 1 - token) (by omega)]
    congr 1
    omega

/-- The positions in the bucket of the last tokens. -/
def visits (history query : Nat → UInt32) (index : Index) : List Nat :=
  endsIn history index index.length (bucket index.bucketMask (lastOf query index.gram))

/-- What a search sees of the positions of the bucket. -/
def sizeIn (history query : Nat → UInt32) (index : Index) (maxMatch stop : Nat) : Nat :=
  if stop < index.length - 1 then sizeAt history query index.gram maxMatch stop else 0

theorem candidate_size (enough : index.gram ≤ maxMatch) (long : index.gram ≤ stop + 1)
    (asks : ∀ back < index.length, ask back = some (query back)) (allowed : ∀ back < index.length, inside back = true) :
    candidate index history ask inside (lastOf query index.gram) maxMatch stop =
      some (sizeIn history query index maxMatch stop) := by
  unfold candidate sizeIn
  by_cases last : index.length ≤ stop + 1
  · rw [if_pos last, if_neg (by omega)]
  have same : gramAt history index.gram stop = lastOf query index.gram ↔ _ := gramAt_eq_iff long
  rw [if_neg last, if_neg (by omega : ¬ stop + 1 < index.gram), if_pos (by omega : stop < index.length - 1)]
  by_cases agrees : Agrees history query stop index.gram
  · rw [if_neg fun other => other (same.mpr agrees)]
    exact lengthen_size (fun position early => if_pos (by omega)) (fun back early => asks back (by omega))
      (fun back early => allowed back (by omega)) _ _ (Nat.le_refl _) (by omega) agrees
  · rw [if_pos fun equal => agrees (same.mp equal), sizeAt, if_neg agrees]

/-- What a search answers: a scan of the positions of the bucket of the last tokens. -/
def answer (history query : Nat → UInt32) (index : Index) (maxMatch limit : Nat) : Option (Except SparkStatus Match) :=
  (scan maxMatch (fun stop => some (sizeIn history query index maxMatch stop))
    ((visits history query index).take limit) {}).map
    fun found => if found.matchLength = 0 then .error .notFound else .ok found

theorem search_eq (built : Built history gram index) (enough : index.gram ≤ maxMatch)
    (asks : ∀ back < index.length, ask back = some (query back)) (allowed : ∀ back < index.length, inside back = true) :
    search index history ask inside (lastOf query index.gram) maxMatch limit =
      answer history query index maxMatch limit := by
  have chain : Follows index.chain _ (visits history query index) := built.linked _ Nat.and_le_right
  have measured : ∀ stop ∈ (visits history query index).take limit,
      candidate index history ask inside (lastOf query index.gram) maxMatch stop =
        some (sizeIn history query index maxMatch stop) := fun stop member =>
    candidate_size enough (mem_endsIn.mp (List.mem_of_mem_take member)).2.1 asks allowed
  rw [search, walk_scan chain (fun stop member => (mem_endsIn.mp member).1), scan_congr measured, answer]
  cases scan maxMatch _ _ _ <;> rfl

theorem answer_best (history query : Nat → UInt32) (index : Index) (maxMatch limit : Nat) : ∃ found,
    answer history query index maxMatch limit = some (if found.matchLength = 0 then .error .notFound else .ok found) ∧
      Best (sizeIn history query index maxMatch)
        ((visits history query index).take limit) {} found := by
  have capped : ∀ stop, sizeIn history query index maxMatch stop ≤ maxMatch := by
    intro stop
    unfold sizeIn
    split
    · exact sizeAt_le
    · exact Nat.zero_le _
  have falling : ((visits history query index).take limit).Pairwise (· > ·) :=
    (endsIn_falling _ _).sublist (List.take_sublist limit _)
  obtain ⟨found, scanned, best⟩ := scan_best capped falling (fun _ _ => rfl) {}
  exact ⟨found, by rw [answer, scanned]; rfl, best⟩

end Indexed

section Answers

variable {history query : Nat → UInt32} {index : Index} {gram maxMatch limit before : Nat}

theorem Best.answered {size : Nat → Nat} {visited : List Nat} {found : Match} (best : Best size visited {} found)
    (gram_pos : 0 < gram) (enough : gram ≤ maxMatch)
    (sizes : ∀ stop ∈ visited, size stop = if stop < before then sizeAt history query gram maxMatch stop else 0)
    (complete : ∀ stop < before, Agrees history query stop gram → stop ∈ visited) :
    Answered history query gram maxMatch before (if found.matchLength = 0 then .error .notFound else .ok found) := by
  obtain ⟨-, most, chosen⟩ := best
  have sized : ∀ stop < before, stop ∈ visited → size stop = sizeAt history query gram maxMatch stop :=
    fun stop early member => by rw [sizes stop member, if_pos early]
  split
  case isTrue nothing =>
    refine ⟨rfl, fun stop early agrees => ?_⟩
    have member := complete stop early agrees
    have zero := most stop member
    have size := Nat.le_findGreatest enough agrees
    rw [sized stop early member, sizeAt, if_pos agrees] at zero
    omega
  case isFalse something =>
    obtain rfl | ⟨member, exact', -, latest⟩ := chosen
    · exact absurd rfl something
    · have inside : found.sourceEnd < before := by
        by_contra late
        rw [sizes _ member, if_neg late] at exact'
        exact something exact'
      refine longest_of_size enough (Nat.pos_of_ne_zero something) inside
        (exact'.trans (sized _ inside member)) ?_
      intro stop early
      by_cases agrees : Agrees history query stop gram
      · have among := complete stop early agrees
        rw [← sized stop early among]
        exact ⟨most stop among, latest stop among⟩
      · rw [sizeAt, if_neg agrees]
        exact ⟨Nat.zero_le _, fun same => absurd same.symm something⟩

/-- A candidate limit of the length of the history cuts nothing off. -/
theorem Built.answered (built : Built history gram index) (query : Nat → UInt32) (enough : gram ≤ maxMatch)
    (whole : index.length ≤ limit) : ∃ result, answer history query index maxMatch limit = some result ∧
      Answered history query gram maxMatch (index.length - 1) result := by
  obtain rfl := built.gram_eq
  obtain ⟨found, answered, best⟩ := answer_best history query index maxMatch limit
  have short : (visits history query index).length ≤ limit := by
    rw [visits, endsIn, List.length_reverse]
    exact (List.length_filter_le _ _).trans (by simpa using whole)
  rw [List.take_of_length_le short] at best
  refine ⟨_, answered, best.answered built.gram_pos enough (fun _ _ => rfl) ?_⟩
  intro stop early agrees
  exact mem_endsIn.mpr ⟨by omega, agrees.1, by rw [(gramAt_eq_iff agrees.1).mpr agrees]⟩

theorem sizeAt_zero (stop : Nat) :
    sizeAt history query 0 maxMatch stop = sizeAt history query 1 maxMatch stop := by
  by_cases first : Agrees history query stop 1
  · simp [sizeAt, first, first.shorter (Nat.zero_le 1)]
  · have none : Nat.findGreatest (Agrees history query stop) maxMatch = 0 := by
      rw [Nat.findGreatest_eq_zero_iff]
      intro length positive _ agrees
      exact first (agrees.shorter positive)
    simp [sizeAt, first, none]

/-- The match of at least one token is the match of at least `gram` when any is. -/
theorem Answered.raise {one result : Except SparkStatus Match}
    (every : Answered history query 1 maxMatch before one) (long : Answered history query gram maxMatch before result)
    (gram_pos : 0 < gram) :
    (if gram ≤ (one.toOption.getD {}).matchLength then one.toOption.getD {} else {}) = result.toOption.getD {} := by
  cases result with
  | ok found =>
    cases one with
    | ok best =>
      have more := every.longest found.sourceEnd long.inside found.matchLength long.most long.agrees
      have least := long.least
      have raised : Longest history query gram maxMatch before best := { every with least := by omega }
      have same := raised.unique long
      simp [Except.toOption, same, least]
    | error status => exact absurd (long.agrees.shorter (by have := long.least; omega)) (every.2 _ long.inside)
  | error status =>
    cases one with
    | ok best =>
      have short : ¬ gram ≤ best.matchLength := fun least => long.2 _ every.inside (every.agrees.shorter least)
      simp [Except.toOption, short]
    | error status => simp [Except.toOption]

/-- The tokens before the end of the history. -/
def suffix (history : Nat → UInt32) (length back : Nat) : UInt32 := history (length - 1 - back)

/-- A lane that holds the history, searched for the same matches. -/
structure Holds (draft : Draft) (lane : Nat) (history : Nat → UInt32) (length gram maxMatch : Nat) : Prop where
  lane_lt : lane < draft.laneCount
  length_eq : draft.lengths lane = length
  tokens : ∀ position < length, draft.tokens lane position = history position
  least : draft.minMatch = gram
  most : draft.maxMatch = maxMatch

theorem draftFind_answered {draft : Draft} {lane length : Nat}
    (holds : Holds draft lane history length gram maxMatch) (gram_pos : 0 < gram) (enough : gram ≤ maxMatch)
    (nonempty : 0 < length) (known : ∀ position < length, history position ≠ unknownToken) :
    ∃ one, Answered history (suffix history length) 1 maxMatch (length - 1) one ∧
      draftFind draft lane (length - 1) = some (.ok
        (if gram ≤ (one.toOption.getD {}).matchLength then one.toOption.getD {} else {})) := by
  obtain ⟨lane_lt, rfl, tokens, rfl, rfl⟩ := holds
  have measured : ∀ stop ∈ (List.range (draft.lengths lane - 1)).reverse,
      lengthen (tokenAt (draft.tokens lane) (draft.lengths lane))
        (fun length => tokenAt (draft.tokens lane) (draft.lengths lane) (draft.lengths lane - 1 - length))
        (fun length => draft.tokens lane (draft.lengths lane - 1 - length) ≠ unknownToken) stop draft.maxMatch 0 =
      some (sizeAt history (suffix history (draft.lengths lane)) 1 draft.maxMatch stop) := by
    intro stop member
    have early : stop < draft.lengths lane - 1 := by simpa using member
    rw [← sizeAt_zero]
    refine lengthen_size ?_ ?_ ?_ draft.maxMatch 0 (Nat.le_refl 0) (by omega) ⟨by omega, by simp⟩
    · intro position inside
      rw [tokenAt, if_pos (by omega), tokens _ (by omega)]
    · intro back inside
      rw [tokenAt, if_pos (by omega), tokens _ (by omega), suffix]
    · intro back inside
      rw [tokens _ (by omega)]
      simpa using known _ (by omega)
  obtain ⟨found, scanned, best⟩ := scan_best (fun _ => sizeAt_le)
    (List.pairwise_reverse.mpr (@List.pairwise_lt_range (draft.lengths lane - 1))) measured {}
  refine ⟨_, best.answered Nat.one_pos (by omega) ?_ (fun stop early _ => by simpa using early), ?_⟩
  · intro stop member
    rw [if_pos (by simpa using member)]
  · have last := known (draft.lengths lane - 1) (by omega)
    rw [← tokens _ (by omega)] at last
    have early : ¬ draft.lengths lane ≤ draft.lengths lane - 1 := by omega
    simp only [draftFind, if_neg (Nat.not_le.mpr lane_lt), last, early, or_self, if_false, scanned]
    by_cases nothing : found.matchLength = 0
    · simp [nothing, Except.toOption]
      omega
    · simp [nothing, Except.toOption]

/-- The history with the tail behind it. -/
def followed (history : Nat → UInt32) (length : Nat) (tail : List UInt32) (position : Nat) : UInt32 :=
  if position < length then history position else tail.getD (position - length) 0

theorem find_eq (built : Built history gram index) (enough : gram ≤ maxMatch) (fits : maxMatch ≤ matchLimit)
    (positive : 0 < limit) (long : gram < index.length) :
    find index history maxMatch limit = answer history (suffix history index.length) index maxMatch limit := by
  obtain rfl := built.gram_eq
  have last : gramAt history index.gram (index.length - 1) = lastOf (suffix history index.length) index.gram :=
    (gramAt_eq_iff (by omega)).mpr ⟨by omega, fun _ _ => rfl⟩
  rw [find, if_neg (by omega), if_neg (by omega)]
  simp only [last]
  exact search_eq built enough (fun back early => if_pos (by omega)) fun _ _ => rfl

theorem tailToken_eq {tail : List UInt32} {back : Nat} (inside : back < index.length + tail.length) :
    tailToken index history tail back =
      some (suffix (followed history index.length tail) (index.length + tail.length) back) := by
  unfold tailToken suffix followed
  by_cases near : back < tail.length
  · rw [if_pos near, if_neg (by omega), List.getElem?_eq_getElem (by omega), List.getD_eq_getElem?_getD,
      List.getElem?_eq_getElem (by omega), Option.getD_some]
    congr 2
    omega
  · rw [if_neg near, if_pos (by omega), if_pos (by omega)]
    congr 2
    omega

theorem mapM_some {α β : Type} {read : α → Option β} {value : α → β} {list : List α}
    (same : ∀ element ∈ list, read element = some (value element)) : list.mapM read = some (list.map value) := by
  induction list with
  | nil => rfl
  | cons first rest ih =>
    simp [List.mapM_cons, same first List.mem_cons_self, ih fun element member => same element (.tail _ member)]

theorem findTail_eq (built : Built history gram index) (enough : gram ≤ maxMatch) (fits : maxMatch ≤ matchLimit)
    (positive : 0 < limit) (long : gram < index.length) {tail : List UInt32}
    (bounded : index.length + tail.length < 2 ^ 32) :
    findTail index history tail maxMatch limit = answer history
      (suffix (followed history index.length tail) (index.length + tail.length)) index maxMatch limit := by
  obtain rfl := built.gram_eq
  have last : ((List.range index.gram).mapM fun token => tailToken index history tail (index.gram - 1 - token)) =
      some (lastOf (suffix (followed history index.length tail) (index.length + tail.length)) index.gram) := by
    refine mapM_some fun token member => tailToken_eq ?_
    have := List.mem_range.mp member
    omega
  rw [findTail, if_neg (by omega)]
  simp only [Nat.mod_eq_of_lt bounded]
  rw [if_neg (by omega), last]
  exact search_eq built enough (fun back early => tailToken_eq (by omega)) fun back early => by simp; omega

/-- The calls whose arguments or whose history end them at once. -/
theorem find_refused (built : Built history gram index) (refused : limit = 0 ∨ index.length ≤ gram)
    (enough : gram ≤ maxMatch) (fits : maxMatch ≤ matchLimit) (tail : List UInt32) :
    find index history maxMatch limit = some (.error (if limit = 0 then .invalidArgument else .notFound)) ∧
      findTail index history tail maxMatch limit = find index history maxMatch limit := by
  obtain rfl := built.gram_eq
  rw [find, findTail]
  by_cases zero : limit = 0
  · simp [zero]
  · have short : index.length ≤ index.gram := by omega
    simp [zero, short]
    omega

end Answers

section Calls

variable {heads chain : Nat → Option Nat} {bucketCount capacity gram : UInt32} {bound : Index} {maxMatch : Nat}

theorem reset_built (bind : bindIndex heads bucketCount chain capacity gram = .ok bound) (history : Nat → UInt32)
    (usedHeads usedChain : Nat → Option Nat) (usedLength : Nat) :
    Built history gram.toNat (reset { bound with heads := usedHeads, chain := usedChain, length := usedLength }) := by
  unfold bindIndex at bind
  split at bind
  · cases bind
  case isFalse accepted =>
    cases bind
    simp only [not_or] at accepted
    obtain ⟨-, -, -, -, gram_ne, -, -⟩ := accepted
    refine ⟨rfl, ?_, Nat.zero_le _, capacity.toNat_lt, ?_⟩
    · rw [Nat.pos_iff_ne_zero]
      intro zero
      exact gram_ne (UInt32.toNat_inj.mp zero)
    · intro here inside
      simp only [reset] at inside ⊢
      rw [if_pos inside]
      exact .done

/-- On every history that was appended call by call, after `Bind` or `Reset`. -/
theorem find_longest (bind : bindIndex heads bucketCount chain capacity gram = .ok bound)
    (usedHeads usedChain : Nat → Option Nat) (usedLength : Nat) (history : Nat → UInt32) (lengths : List Nat)
    (enough : gram.toNat ≤ maxMatch) (fits : maxMatch ≤ matchLimit) :
    let index := lengths.foldl (fun index length => (append history index length).2)
      (reset { bound with heads := usedHeads, chain := usedChain, length := usedLength })
    let last := index.length - 1
    (∀ limit, index.length ≤ limit → 0 < limit → ∃ result, find index history maxMatch limit = some result ∧
      Answered history (suffix history index.length) gram.toNat maxMatch last result ∧
      ∀ draft lane, Holds draft lane history index.length gram.toNat maxMatch → 0 < index.length →
        (∀ position < index.length, history position ≠ unknownToken) →
        draftFind draft lane last = some (.ok (result.toOption.getD {}))) ∧
    (∀ limit, findTail index history [] maxMatch limit = find index history maxMatch limit) ∧
    (∀ tail limit, index.length + tail.length < 2 ^ 32 → index.length ≤ limit → 0 < limit →
      ∃ result, findTail index history tail maxMatch limit = some result ∧
        Answered history (suffix (followed history index.length tail) (index.length + tail.length))
          gram.toNat maxMatch last result) ∧
    ∀ tail limit, index.length + tail.length < 2 ^ 32 →
      find index history maxMatch limit ≠ none ∧ findTail index history tail maxMatch limit ≠ none := by
  intro index last
  have built : Built history gram.toNat index := (reset_built bind history usedHeads usedChain usedLength).run lengths
  have bounded : index.length < 2 ^ 32 := built.length_le.trans_lt built.capacity_lt
  have missed : ∀ query : Nat → UInt32, index.length ≤ gram.toNat →
      Answered history query gram.toNat maxMatch last (.error .notFound) := fun query short =>
    ⟨rfl, fun stop early agrees => by have := agrees.1; omega⟩
  refine ⟨?_, ?_, ?_, ?_⟩
  · intro limit whole positive
    have found : ∃ result, find index history maxMatch limit = some result ∧
        Answered history (suffix history index.length) gram.toNat maxMatch last result := by
      by_cases long : gram.toNat < index.length
      · rw [find_eq built enough fits positive long]
        exact built.answered _ enough whole
      · have refused : find index history maxMatch limit = _ :=
          (find_refused built (.inr (by omega)) enough fits []).1
        rw [if_neg (by omega)] at refused
        exact ⟨_, refused, missed _ (by omega)⟩
    obtain ⟨result, found, answered⟩ := found
    refine ⟨result, found, answered, ?_⟩
    intro draft lane holds nonempty known
    obtain ⟨one, every, drafted⟩ := draftFind_answered holds built.gram_pos enough nonempty known
    rw [drafted, every.raise answered built.gram_pos]
  · intro limit
    by_cases refused : limit = 0 ∨ index.length ≤ gram.toNat
    · exact (find_refused built refused enough fits []).2
    · rw [find_eq built enough fits (by omega) (by omega), findTail_eq built enough fits (by omega) (by omega) (by simpa)]
      congr 1
      ext back
      rw [suffix, suffix, followed, if_pos (by simp; omega)]
      rfl
  · intro tail limit bounded whole positive
    by_cases long : gram.toNat < index.length
    · rw [findTail_eq built enough fits positive long bounded]
      exact built.answered _ enough whole
    · obtain ⟨refused, same⟩ : find index history maxMatch limit = _ ∧ _ :=
        find_refused built (.inr (by omega)) enough fits tail
      rw [if_neg (by omega)] at refused
      exact ⟨_, same.trans refused, missed _ (by omega)⟩
  · intro tail limit bounded
    by_cases refused : limit = 0 ∨ index.length ≤ gram.toNat
    · obtain ⟨refused, same⟩ := find_refused built refused enough fits tail
      simp [same, refused]
    · rw [find_eq built enough fits (by omega) (by omega), findTail_eq built enough fits (by omega) (by omega) bounded]
      obtain ⟨_, first, -⟩ := answer_best history (suffix history index.length) index maxMatch limit
      obtain ⟨_, second, -⟩ := answer_best history
        (suffix (followed history index.length tail) (index.length + tail.length)) index maxMatch limit
      simp [first, second]

/-- Three equal tokens: the last of them matches the one before, with the first before that. -/
theorem find_longest_threeEqual : ∃ bound result, bindIndex (fun _ => none) 1 (fun _ => none) 4 1 = .ok bound ∧
    find (append (fun _ => 7) (reset bound) 3).2 (fun _ => 7) 2 3 = some result ∧
      Answered (fun _ => 7) (suffix (fun _ => 7) 3) 1 2 2 result := by
  obtain ⟨bound, bind⟩ : ∃ bound, bindIndex (fun _ => none) 1 (fun _ => none) 4 1 = .ok bound := ⟨_, rfl⟩
  obtain ⟨whole, -⟩ := @find_longest _ _ _ _ _ _ 2 bind bound.heads bound.chain bound.length (fun _ => 7) [3]
    (by decide) (by decide)
  cases bind
  obtain ⟨result, found, answered, -⟩ := whole 3 (by decide) (by decide)
  exact ⟨_, result, rfl, found, answered⟩

/-- Lengths beyond the limit are refused, also where a gram matches. -/
theorem find_refuses_wideMatch : ∃ bound index, bindIndex (fun _ => none) 1 (fun _ => none) 4 1 = .ok bound ∧
    index = (append (fun _ => 7) bound 3).2 ∧ bound.gram ≤ 65 ∧ index.length ≤ 3 ∧
      Agrees (fun _ => 7) (suffix (fun _ => 7) index.length) 1 bound.gram ∧
      find index (fun _ => 7) 65 3 = some (.error .invalidArgument) :=
  ⟨_, _, rfl, rfl, by decide, by decide, by decide, rfl⟩

/-- The index finds the unknown token like any other, the draft does not look for it. -/
theorem draftFind_refuses_unknown : ∃ bound found, bindIndex (fun _ => none) 1 (fun _ => none) 4 1 = .ok bound ∧
    find (append (fun _ => unknownToken) bound 2).2 (fun _ => unknownToken) 1 2 = some (.ok found) ∧
      draftFind ⟨1, 1, 1, fun _ _ => unknownToken, fun _ => 2⟩ 0 1 = some (.error .notFound) :=
  ⟨_, _, rfl, rfl, rfl⟩

/-- Where the two lengths pass 2^32 together, nothing is looked for. -/
theorem findTail_refuses_wideSum : ∃ bound index tail, bindIndex (fun _ => none) 1 (fun _ => none) 4 1 = .ok bound ∧
    index = (append (fun _ => 7) bound 3).2 ∧
      Agrees (fun _ => 7) (suffix (followed (fun _ => 7) index.length tail) (index.length + tail.length)) 1 1 ∧
        findTail index (fun _ => 7) tail 1 3 = some (.error .notFound) := by
  refine ⟨_, _, List.replicate (2 ^ 32 - 3) 7, rfl, rfl, ?_, ?_⟩
  · refine ⟨by decide, fun back first => ?_⟩
    have later : ¬ 3 + (2 ^ 32 - 3) - 1 - back < 3 := by omega
    rw [List.length_replicate]
    refine Eq.symm ((if_neg later).trans ?_)
    rw [List.getD_eq_getElem?_getD, List.getElem?_replicate, if_pos]
    · rfl
    · change 3 + (2 ^ 32 - 3) - 1 - back - 3 < 2 ^ 32 - 3
      omega
  · rw [findTail, List.length_replicate]
    rfl

end Calls

end Sparkpipe.SpeculationLookup
