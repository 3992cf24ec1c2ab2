import Sparkpipe.Cache.Prefix.Upkeep

/-!
# The resume points that a later one supersedes

`SparkPrefixCacheSupersedeResume` walks the whole blocks of a prompt once and keeps the latest marked
ones in a window. What it clears is said here without the window: of the marked blocks on the
path, those before the last few that do not end at an anchor. Clearing a mark does not move the path, since no
two blocks on it are one entry.
-/

namespace Sparkpipe.PrefixCache

variable (config : Configuration) (cache : Cache)

section Path

/-- The cached whole blocks of a prompt from an offset on, as entry and end. -/
def fullBlocks (tokens : List UInt32) : List Nat → UInt64 → List (Nat × Nat)
  | [], _ => []
  | offset :: rest, parentHash =>
    match findPromptBlock config cache tokens offset config.blockTokenCount parentHash with
    | none => []
    | some index =>
      (index, offset + config.blockTokenCount) ::
        fullBlocks tokens rest (hashBlock (blockTokens tokens offset config.blockTokenCount) parentHash)

/-- The blocks that the call walks over: the last token of the prompt is in none of them. -/
def walkedBlocks (tokens : List UInt32) : List (Nat × Nat) :=
  fullBlocks config cache tokens
    (blockOffsets config ((tokens.length - 1) / config.blockTokenCount * config.blockTokenCount)) emptyParentHash

/-- The marked blocks of a path. -/
def resumePoints (path : List (Nat × Nat)) : List (Nat × Nat) :=
  path.filter fun point => (cache.entries point.1).flags.resume

/-- All points but the last few, unless they end at an anchor. -/
def supersededPoints (points : List (Nat × Nat)) (recent anchor : Nat) : List (Nat × Nat) :=
  (points.take (points.length - recent)).filter fun point => point.2 % anchor ≠ 0

/-- The cache with the marks of these points cleared and all else as before. -/
def clearResumes (points : List (Nat × Nat)) : Cache :=
  { cache with
    entries := fun index =>
      if index ∈ points.map Prod.fst then
        { cache.entries index with flags := { (cache.entries index).flags with resume := false } }
      else cache.entries index }

end Path

variable {config} {cache} {tokens : List UInt32}

section Marks

theorem setResume_self (index : Nat) (resume : Bool) :
    (setResume cache index resume).entries index =
      { cache.entries index with flags := { (cache.entries index).flags with resume := resume } } :=
  Function.update_self ..

theorem setResume_other {index other : Nat} (apart : other ≠ index) (resume : Bool) :
    (setResume cache index resume).entries other = cache.entries other :=
  Function.update_of_ne apart ..

/-- A search does not read the resume mark. -/
theorem findEntry_setResume (index : Nat) (resume : Bool) (key : BlockKey) (contentDigest : List UInt8)
    (reusableOnly : Bool) :
    findEntry config (setResume cache index resume) key contentDigest reusableOnly =
      findEntry config cache key contentDigest reusableOnly := by
  refine @findEntry_congr config cache (setResume cache index resume) (fun i => ?_) rfl key contentDigest reusableOnly
  by_cases here : i = index
  · rw [here, setResume_self]
    exact ⟨rfl, rfl, rfl, rfl, rfl, rfl, rfl⟩
  · rw [setResume_other here]
    exact .refl _

theorem fullBlocks_setResume (index : Nat) (resume : Bool) (offsets : List Nat) (parentHash : UInt64) :
    fullBlocks config (setResume cache index resume) tokens offsets parentHash =
      fullBlocks config cache tokens offsets parentHash := by
  induction offsets generalizing parentHash with
  | nil => rfl
  | cons offset rest ih =>
    unfold fullBlocks findPromptBlock
    rw [findEntry_setResume]
    split
    · rfl
    · rw [ih]

/-- A block on the path stands where its entry says, and is a whole one. -/
theorem fullBlocks_place {offsets : List Nat} {parentHash : UInt64} {point : Nat × Nat}
    (onPath : point ∈ fullBlocks config cache tokens offsets parentHash) :
    (cache.entries point.1).firstTokenIndex ∈ offsets ∧ (cache.entries point.1).tokenCount = config.blockTokenCount ∧
      entryIsReusable config (cache.entries point.1) = true ∧ point.1 < config.entryCount ∧
      point.2 = (cache.entries point.1).firstTokenIndex + config.blockTokenCount := by
  induction offsets generalizing parentHash with
  | nil => cases onPath
  | cons offset rest ih =>
    unfold fullBlocks at onPath
    split at onPath
    · cases onPath
    · rename_i index found
      rcases List.mem_cons.mp onPath with here | later
      · obtain ⟨first, size⟩ := findPromptBlock_first found
        obtain ⟨inRange, reusable, -⟩ := findPromptBlock_key found
        subst here
        rw [first]
        exact ⟨.head _, size, reusable, inRange, rfl⟩
      · obtain ⟨inside, rest⟩ := ih later
        exact ⟨.tail _ inside, rest⟩

/-- No two blocks on the path are one entry. -/
theorem fullBlocks_nodup {offsets : List Nat} (distinct : offsets.Nodup) (parentHash : UInt64) :
    ((fullBlocks config cache tokens offsets parentHash).map Prod.fst).Nodup := by
  induction offsets generalizing parentHash with
  | nil => exact List.nodup_nil
  | cons offset rest ih =>
    obtain ⟨absent, distinctRest⟩ := List.nodup_cons.mp distinct
    unfold fullBlocks
    split
    · exact List.nodup_nil
    · rename_i index found
      refine List.nodup_cons.mpr ⟨?_, ih distinctRest _⟩
      intro again
      obtain ⟨point, onPath, same⟩ := List.mem_map.mp again
      have place := (fullBlocks_place onPath).1
      rw [same, (findPromptBlock_first found).1] at place
      exact absent place

theorem clearResumes_nil : clearResumes cache [] = cache := by
  simp [clearResumes]

/-- The first mark is cleared before the others. -/
theorem clearResumes_cons (point : Nat × Nat) (points : List (Nat × Nat)) :
    clearResumes (setResume cache point.1 false) points = clearResumes cache (point :: points) := by
  have entries : (clearResumes (setResume cache point.1 false) points).entries =
      (clearResumes cache (point :: points)).entries := by
    funext index
    unfold clearResumes
    dsimp only
    rw [List.map_cons]
    by_cases here : index = point.1
    · rw [here, setResume_self, if_pos (List.mem_cons_self : point.1 ∈ point.1 :: _)]
      split <;> rfl
    · rw [setResume_other here]
      exact if_congr (by rw [List.mem_cons, or_iff_right here]) rfl rfl
  exact congrArg (fun entries => { cache with entries := entries }) entries

end Marks

section Window

theorem resumePoints_cons {point : Nat × Nat} (marked : (cache.entries point.1).flags.resume = true)
    (path : List (Nat × Nat)) : resumePoints cache (point :: path) = point :: resumePoints cache path :=
  List.filter_cons_of_pos marked

theorem resumePoints_skip {point : Nat × Nat} (unmarked : (cache.entries point.1).flags.resume = false)
    (path : List (Nat × Nat)) : resumePoints cache (point :: path) = resumePoints cache path :=
  List.filter_cons_of_neg (by simp [unmarked])

/-- The marks of other points stay. -/
theorem resumePoints_setResume {victim : Nat} {points : List (Nat × Nat)}
    (apart : ∀ point ∈ points, point.1 ≠ victim) (resume : Bool) :
    resumePoints (setResume cache victim resume) points = resumePoints cache points := by
  apply List.filter_congr
  intro point inside
  rw [setResume_other (apart point inside)]

theorem supersededPoints_short {points : List (Nat × Nat)} {recent : Nat} (short : points.length ≤ recent) (anchor : Nat) :
    supersededPoints points recent anchor = [] := by
  unfold supersededPoints
  rw [Nat.sub_eq_zero_of_le short]
  rfl

/-- The oldest point goes when there are more than are kept. -/
theorem supersededPoints_cons {point : Nat × Nat} {points : List (Nat × Nat)} {recent : Nat}
    (long : recent ≤ points.length) (anchor : Nat) :
    supersededPoints (point :: points) recent anchor =
      if point.2 % anchor ≠ 0 then point :: supersededPoints points recent anchor
      else supersededPoints points recent anchor := by
  unfold supersededPoints
  rw [List.length_cons, Nat.succ_sub long, List.take_succ_cons, List.filter_cons]
  simp

/-- The pass clears what is superseded of the points in its window and those ahead of it. -/
theorem supersedeBlocks_eq {window anchor superseded : Nat} {offsets : List Nat} {parentHash : UInt64}
    {kept : List (Nat × Nat)} (distinct : offsets.Nodup) (short : kept.length ≤ window)
    (behind : ∀ point ∈ kept, (cache.entries point.1).firstTokenIndex ∉ offsets) :
    supersedeBlocks config tokens window anchor offsets parentHash kept superseded cache =
      (superseded + (supersededPoints
          (kept ++ resumePoints cache (fullBlocks config cache tokens offsets parentHash)) window anchor).length,
        clearResumes cache (supersededPoints
          (kept ++ resumePoints cache (fullBlocks config cache tokens offsets parentHash)) window anchor)) := by
  induction offsets generalizing parentHash kept superseded cache with
  | nil =>
    have none : supersededPoints (kept ++ resumePoints cache []) window anchor = [] := by
      rw [resumePoints, List.filter_nil, List.append_nil]
      exact supersededPoints_short short anchor
    unfold supersedeBlocks fullBlocks
    rw [none, clearResumes_nil]
    rfl
  | cons offset rest ih =>
    obtain ⟨absent, distinctRest⟩ := List.nodup_cons.mp distinct
    have behindRest : ∀ point ∈ kept, (cache.entries point.1).firstTokenIndex ∉ rest :=
      fun point inside later => behind point inside (.tail _ later)
    unfold supersedeBlocks fullBlocks
    dsimp only
    cases found : findPromptBlock config cache tokens offset config.blockTokenCount parentHash with
    | none =>
      have none : supersededPoints (kept ++ resumePoints cache []) window anchor = [] := by
        rw [resumePoints, List.filter_nil, List.append_nil]
        exact supersededPoints_short short anchor
      dsimp only
      rw [none, clearResumes_nil]
      rfl
    | some index =>
      obtain ⟨first, -⟩ := findPromptBlock_first found
      dsimp only
      generalize hashBlock (blockTokens tokens offset config.blockTokenCount) parentHash = next
      split
      · rename_i unmarked
        rw [resumePoints_skip (by simpa using unmarked)]
        exact ih distinctRest short behindRest
      · rename_i marked
        have appended : kept ++ (index, offset + config.blockTokenCount) ::
            resumePoints cache (fullBlocks config cache tokens rest next) =
              kept ++ [(index, offset + config.blockTokenCount)] ++
                resumePoints cache (fullBlocks config cache tokens rest next) :=
          List.append_cons ..
        rw [resumePoints_cons (by simpa using marked), appended]
        have behindNow : ∀ point ∈ kept ++ [(index, offset + config.blockTokenCount)],
            (cache.entries point.1).firstTokenIndex ∉ rest := by
          intro point inside
          rcases List.mem_append.mp inside with earlier | here
          · exact behindRest point earlier
          · rw [List.mem_singleton.mp here, first]
            exact absent
        have oneMore : (kept ++ [(index, offset + config.blockTokenCount)]).length = kept.length + 1 :=
          List.length_append
        generalize kept ++ [(index, offset + config.blockTokenCount)] = grown at behindNow oneMore ⊢
        split
        · rename_i fits
          exact ih distinctRest fits behindNow
        · rename_i full
          cases grown with
          | nil => cases oneMore
          | cons point later =>
            rw [List.length_cons] at oneMore full
            have fits : later.length = window := by omega
            have behindPoint := behindNow point (.head _)
            have behindLater : ∀ other ∈ later, (cache.entries other.1).firstTokenIndex ∉ rest :=
              fun other inside => behindNow other (.tail _ inside)
            dsimp only
            rw [List.cons_append, supersededPoints_cons (by rw [List.length_append]; omega)]
            by_cases anchored : point.2 % anchor ≠ 0
            · rw [if_pos anchored, if_pos anchored, ← clearResumes_cons]
              have place : ∀ i, ((setResume cache point.1 false).entries i).firstTokenIndex =
                  (cache.entries i).firstTokenIndex := by
                intro i
                by_cases here : i = point.1
                · rw [here, setResume_self]
                · rw [setResume_other here]
              have apart : ∀ other ∈ fullBlocks config cache tokens rest next, other.1 ≠ point.1 := by
                intro other onPath same
                have inside := (fullBlocks_place onPath).1
                rw [same] at inside
                exact behindPoint inside
              have cleared := @ih (setResume cache point.1 false) (superseded + 1) next later distinctRest
                fits.le (fun other inside => by rw [place]; exact behindLater other inside)
              rw [fullBlocks_setResume, resumePoints_setResume apart] at cleared
              rw [cleared, List.length_cons, Nat.add_right_comm]
              rfl
            · rw [if_neg anchored, if_neg anchored]
              exact ih distinctRest fits.le behindLater

theorem blockOffsets_nodup (positive : config.blockTokenCount ≠ 0) (tokenCount : Nat) :
    (blockOffsets config tokenCount).Nodup :=
  List.nodup_range.map fun _ _ same => Nat.eq_of_mul_eq_mul_right (Nat.pos_of_ne_zero positive) same

/-- The call answers `OK` when its arguments are in order. It then clears the marks of the whole
blocks on the path that are neither among the last marked ones nor end at an anchor, reports how many
these are, and changes nothing else; a call that is refused changes nothing at all. -/
theorem supersedeResume_exact (config : Configuration) (cache : Cache) (tokens : List UInt32)
    (recentCount anchorTokenCount : Nat) :
    ((supersedeResume config cache tokens recentCount anchorTokenCount).1 = .ok ↔
      validate config = .ok ∧ tokens ≠ [] ∧ 0 < recentCount ∧ recentCount ≤ 16 ∧
        0 < anchorTokenCount ∧ config.blockTokenCount ∣ anchorTokenCount) ∧
    ((supersedeResume config cache tokens recentCount anchorTokenCount).1 ≠ .ok →
      (supersedeResume config cache tokens recentCount anchorTokenCount).2.2 = cache) ∧
    ((supersedeResume config cache tokens recentCount anchorTokenCount).1 = .ok →
      (supersedeResume config cache tokens recentCount anchorTokenCount).2 =
        ((supersededPoints (resumePoints cache (walkedBlocks config cache tokens)) (recentCount - 1)
            anchorTokenCount).length,
          clearResumes cache (supersededPoints (resumePoints cache (walkedBlocks config cache tokens))
            (recentCount - 1) anchorTokenCount)) ∧
      ((walkedBlocks config cache tokens).map Prod.fst).Nodup ∧
      ∀ point ∈ walkedBlocks config cache tokens,
        entryIsReusable config (cache.entries point.1) = true ∧
          (cache.entries point.1).tokenCount = config.blockTokenCount ∧
          point.2 = (cache.entries point.1).firstTokenIndex + config.blockTokenCount) := by
  unfold supersedeResume
  split
  · rename_i invalid
    exact ⟨⟨fun ok => absurd ok invalid, fun arguments => absurd arguments.1 invalid⟩, fun _ => rfl,
      fun ok => absurd ok invalid⟩
  · rename_i valid
    split
    · rename_i refused
      refine ⟨⟨nofun, ?_⟩, fun _ => rfl, nofun⟩
      rintro ⟨-, some, recent, recentBound, anchor, whole⟩
      have length := List.length_pos_of_ne_nil some
      have remainder := Nat.mod_eq_zero_of_dvd whole
      have maximum : resumeRecentMaximum = 16 := rfl
      omega
    · rename_i arguments
      simp only [not_or, not_lt, ne_eq, not_not] at arguments
      obtain ⟨length, recent, recentBound, anchor, remainder⟩ := arguments
      refine ⟨⟨fun _ => ⟨not_not.mp valid, List.ne_nil_of_length_pos (Nat.pos_of_ne_zero length),
          Nat.pos_of_ne_zero recent, recentBound, Nat.pos_of_ne_zero anchor,
          Nat.dvd_of_mod_eq_zero remainder⟩, fun _ => rfl⟩,
        fun failed => absurd rfl failed, fun _ => ?_⟩
      have distinct := @blockOffsets_nodup config (validate_block (not_not.mp valid))
        ((tokens.length - 1) / config.blockTokenCount * config.blockTokenCount)
      refine ⟨?_, fullBlocks_nodup distinct _, fun point onPath => ?_⟩
      · dsimp only
        rw [supersedeBlocks_eq distinct (Nat.zero_le _) (fun point inside => by cases inside), List.nil_append,
          Nat.zero_add]
        rfl
      · obtain ⟨-, size, reusable, -, place⟩ := fullBlocks_place onPath
        exact ⟨reusable, size, place⟩

/-- A whole block is committed and marked. -/
def markedBlock : Cache :=
  run oneBlockConfiguration
    [.call (.reservePrompt 1 [2, 3] none), .call (.commitReservation 1 1), .call (.markResume [2, 3])]
    (initialCache oneBlockConfiguration (KvCache.Arena.initial oneBlockLayout))

/-- The mark of that block, which ends at no anchor, is cleared as soon as none is to be kept. -/
theorem supersedeResume_exact_markedBlock :
    (markedBlock.entries 0).flags.resume = true ∧
      (supersedeResume oneBlockConfiguration markedBlock [2, 3, 4] 1 4).1 = .ok ∧
      (supersedeResume oneBlockConfiguration markedBlock [2, 3, 4] 1 4).2 =
        (1, clearResumes markedBlock [(0, 2)]) := by
  have exact := supersedeResume_exact oneBlockConfiguration markedBlock [2, 3, 4] 1 4
  have ok := exact.1.mpr ⟨by decide, nofun, by decide, by decide, by decide, by decide⟩
  have superseded : supersededPoints (resumePoints markedBlock
      (walkedBlocks oneBlockConfiguration markedBlock [2, 3, 4])) (1 - 1) 4 = [(0, 2)] := by
    decide +kernel
  refine ⟨by decide +kernel, ok, ?_⟩
  rw [(exact.2.2 ok).1, superseded]
  rfl

end Window

end Sparkpipe.PrefixCache
