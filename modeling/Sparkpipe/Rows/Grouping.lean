import Sparkpipe.Rows.Layout
import Sparkpipe.Lib.Grouping
import Mathlib.Data.List.Perm.Basic

/-!
# Grouped rows

Two functions bring the rows of a batch together by lane. One lists the rows lane after lane, in
the order in which the lanes first appear; the other sorts them by the ordinals of their lanes
and says where the rows of an ordinal begin. Both keep the rows of a lane in their order.
-/

namespace Sparkpipe.RowLayout

open Function Grouping

section LaneMajor

variable (lanes : List UInt32)

/-- What one turn of the outer loop of `SparkRowLayoutLaneMajorOrder` writes: nothing for a lane that has
appeared before, else all rows of the lane. -/
def laneRows (first : Nat) : List Nat :=
  if ∃ row < first, lanes[row]? = lanes[first]? then []
  else (List.range' first (lanes.length - first)).filter fun row => lanes[row]? = lanes[first]?

/-- `SparkRowLayoutLaneMajorOrder`, with the rows it writes to `order`. -/
def laneMajorOrder : SparkStatus × List Nat :=
  if lanes.length = 0 then (.invalidArgument, [])
  else
    let order := (List.range lanes.length).flatMap (laneRows lanes)
    (if order.length = lanes.length then .ok else .internalError, order)

/-- The first row of a row's lane. -/
def firstRow (row : Nat) : Nat := lanes.findIdx fun lane => lanes[row]? = some lane

/-- Every row once, equal lanes together, the lanes in the order of their first rows, and the rows of a lane in
their own order. -/
structure LaneMajor (order : List Nat) : Prop where
  perm : order.Perm (List.range lanes.length)
  together : ∀ row between last, [row, between, last].Sublist order → lanes[row]? = lanes[last]? →
    lanes[between]? = lanes[row]?
  appearance : order.Pairwise fun row other => lanes[row]? ≠ lanes[other]? → firstRow lanes row < firstRow lanes other
  stable : order.Pairwise fun row other => lanes[row]? = lanes[other]? → row < other

variable {lanes} {row other : Nat}

theorem firstRow_le (inside : row < lanes.length) : firstRow lanes row ≤ row := by
  by_contra later
  have differs := List.not_of_lt_findIdx (Nat.not_le.mp later)
  simp [List.getElem?_eq_getElem inside] at differs

theorem firstRow_lane (inside : row < lanes.length) : lanes[firstRow lanes row]? = lanes[row]? := by
  have below : firstRow lanes row < lanes.length := Nat.lt_of_le_of_lt (firstRow_le inside) inside
  have same := List.findIdx_getElem (w := below)
  rw [List.getElem?_eq_getElem below]
  exact (of_decide_eq_true same).symm

theorem firstRow_congr (same : lanes[row]? = lanes[other]?) : firstRow lanes row = firstRow lanes other := by
  unfold firstRow
  rw [same]

theorem mem_laneRows {first : Nat} (inside : first < lanes.length) :
    row ∈ laneRows lanes first ↔ row < lanes.length ∧ firstRow lanes row = first := by
  unfold laneRows
  split
  · rename_i appeared
    obtain ⟨earlier, before, same⟩ := appeared
    constructor
    · intro member
      cases member
    · rintro ⟨rowInside, rfl⟩
      rw [firstRow_lane rowInside] at same
      have least := firstRow_le (show earlier < lanes.length by omega)
      rw [firstRow_congr same] at least
      omega
  · rename_i fresh
    rw [List.mem_filter, List.mem_range'_1, decide_eq_true_eq]
    constructor
    · rintro ⟨⟨after, below⟩, same⟩
      refine ⟨by omega, ?_⟩
      rw [firstRow_congr same]
      have least := firstRow_le inside
      rcases Nat.lt_or_eq_of_le least with earlier | found
      · exact absurd ⟨_, earlier, firstRow_lane inside⟩ fresh
      · exact found
    · rintro ⟨rowInside, rfl⟩
      have least := firstRow_le rowInside
      exact ⟨⟨least, by omega⟩, (firstRow_lane rowInside).symm⟩

/-- The order is lexicographic: by the lanes' first rows, then by the rows. -/
theorem order_sorted (lanes : List UInt32) :
    ((List.range lanes.length).flatMap (laneRows lanes)).Pairwise fun row other =>
      firstRow lanes row < firstRow lanes other ∨ firstRow lanes row = firstRow lanes other ∧ row < other := by
  rw [List.pairwise_flatMap]
  constructor
  · intro first member
    have inside := List.mem_range.mp member
    have rising : (laneRows lanes first).Pairwise (· < ·) := by
      unfold laneRows
      split
      · exact List.Pairwise.nil
      · exact (List.pairwise_lt_range' 1 (by omega)).filter _
    refine rising.imp_of_mem fun rowMember otherMember less => .inr ⟨?_, less⟩
    rw [((mem_laneRows inside).mp rowMember).2, ((mem_laneRows inside).mp otherMember).2]
  · refine List.pairwise_lt_range.imp_of_mem fun member otherMember less row rowMember other rowOther => .inl ?_
    rw [((mem_laneRows (List.mem_range.mp member)).mp rowMember).2,
      ((mem_laneRows (List.mem_range.mp otherMember)).mp rowOther).2]
    exact less

theorem order_perm (lanes : List UInt32) :
    ((List.range lanes.length).flatMap (laneRows lanes)).Perm (List.range lanes.length) := by
  have distinct : ((List.range lanes.length).flatMap (laneRows lanes)).Nodup :=
    (order_sorted lanes).imp fun sorted => by
      rintro rfl
      omega
  apply (List.perm_ext_iff_of_nodup distinct List.nodup_range).mpr
  intro row
  rw [List.mem_flatMap, List.mem_range]
  constructor
  · rintro ⟨first, member, rowMember⟩
    exact ((mem_laneRows (List.mem_range.mp member)).mp rowMember).1
  · intro inside
    have below := Nat.lt_of_le_of_lt (firstRow_le inside) inside
    exact ⟨_, List.mem_range.mpr below, (mem_laneRows below).mpr ⟨inside, rfl⟩⟩

theorem order_laneMajor (lanes : List UInt32) :
    LaneMajor lanes ((List.range lanes.length).flatMap (laneRows lanes)) := by
  have inside : ∀ row ∈ (List.range lanes.length).flatMap (laneRows lanes), row < lanes.length :=
    fun row member => List.mem_range.mp ((order_perm lanes).mem_iff.mp member)
  have sameLane {row other : Nat} (rowInside : row < lanes.length) (otherInside : other < lanes.length)
      (same : firstRow lanes row = firstRow lanes other) : lanes[row]? = lanes[other]? := by
    rw [← firstRow_lane rowInside, same, firstRow_lane otherInside]
  constructor
  · exact order_perm lanes
  · intro row between last sublist same
    have sorted := (order_sorted lanes).sublist sublist
    have rowInside := inside row (sublist.mem (by simp))
    have betweenInside := inside between (sublist.mem (by simp))
    simp only [List.pairwise_cons, List.mem_cons, List.not_mem_nil, or_false, forall_eq_or_imp, forall_eq] at sorted
    have sameFirst := firstRow_congr same
    exact sameLane betweenInside rowInside (by omega)
  · refine (order_sorted lanes).imp_of_mem fun member otherMember sorted differs => ?_
    rcases sorted with less | ⟨same, -⟩
    · exact less
    · exact absurd (sameLane (inside _ member) (inside _ otherMember) same) differs
  · refine (order_sorted lanes).imp fun sorted same => ?_
    have sameFirst := firstRow_congr same
    omega

theorem laneMajorOrder_groups (lanes : List UInt32) :
    (laneMajorOrder lanes).1 = (if lanes = [] then .invalidArgument else .ok) ∧
      LaneMajor lanes (laneMajorOrder lanes).2 := by
  unfold laneMajorOrder
  by_cases empty : lanes = []
  · subst empty
    exact ⟨rfl, order_laneMajor []⟩
  · rw [if_neg (mt List.length_eq_zero_iff.mp empty), if_neg empty]
    refine ⟨if_pos ?_, order_laneMajor lanes⟩
    rw [(order_perm lanes).length_eq, List.length_range]

end LaneMajor

section GroupRows

/-- The arrays that `SparkRowLayoutGroupRows` fills. -/
structure Groups where
  rowBegin : Nat → Nat
  rowIndices : Nat → Nat
  cursor : Nat → Nat

variable (ordinalOf : LaneOrdinal) (laneCount : Nat)

/-- The loop that clears `row_begin`: its counter of 32 bits never passes the largest lane count. -/
def Groups.clear (groups : Groups) (laneCount : UInt32) : Option Groups :=
  if laneCount = 0xffffffff then none
  else some { groups with rowBegin := fun lane => if lane ≤ laneCount.toNat then 0 else groups.rowBegin lane }

/-- One turn of the loop that counts the rows of each lane. -/
def Groups.countRow (groups : Groups) (laneId : UInt32) : Except SparkStatus Groups :=
  match ordinalOf laneId with
  | none => .error .invalidArgument
  | some lane =>
    if laneCount ≤ lane then .error .invalidArgument
    else .ok { groups with rowBegin := update groups.rowBegin (lane + 1) (groups.rowBegin (lane + 1) + 1) }

/-- One turn of the loop that adds the counts up. -/
def Groups.sumLane (groups : Groups) (lane : Nat) : Except SparkStatus Groups :=
  if groups.rowBegin (lane + 1) = 0 then .error .invalidArgument
  else .ok { groups with
    rowBegin := update groups.rowBegin (lane + 1) (groups.rowBegin (lane + 1) + groups.rowBegin lane)
    cursor := update groups.cursor lane (groups.rowBegin lane) }

/-- One turn of the loop that writes the rows to their places. -/
def Groups.placeRow (groups : Groups) (numbered : UInt32 × Nat) : Except SparkStatus Groups :=
  match ordinalOf numbered.1 with
  | none => .error .invalidArgument
  | some lane =>
    if laneCount ≤ lane then .error .invalidArgument
    else .ok { groups with
      rowIndices := update groups.rowIndices (groups.cursor lane) numbered.2
      cursor := update groups.cursor lane (groups.cursor lane + 1) }

/-- `SparkRowLayoutGroupRows` on arrays with any contents, where it comes to an end. -/
def groupRows (laneCount : UInt32) (lanes : List UInt32) (groups : Groups) : Option (Except SparkStatus Groups) :=
  if lanes.length < laneCount.toNat ∨ laneCount = 0 then some (.error .invalidArgument)
  else (groups.clear laneCount).map fun cleared => do
    let counted ← lanes.foldlM (Groups.countRow ordinalOf laneCount.toNat) cleared
    let summed ← (List.range laneCount.toNat).foldlM Groups.sumLane counted
    lanes.zipIdx.foldlM (Groups.placeRow ordinalOf laneCount.toNat) summed

/-- The rows of a lane in their order. -/
def rowsOf (lanes : List UInt32) (lane : Nat) : List Nat :=
  (List.range lanes.length).filter fun row => lanes[row]?.bind ordinalOf = some lane

/-- The rows are parted into one run for each lane, and the run of a lane holds its rows in their order. -/
structure Grouped (lanes : List UInt32) (groups : Groups) : Prop where
  first : groups.rowBegin 0 = 0
  last : groups.rowBegin laneCount = lanes.length
  rises : ∀ lane < laneCount, groups.rowBegin lane < groups.rowBegin (lane + 1)
  rows : ∀ lane < laneCount, (List.range' (groups.rowBegin lane) (groups.rowBegin (lane + 1) - groups.rowBegin lane)).map
    groups.rowIndices = rowsOf ordinalOf lanes lane

/-- The ordinals of the rows' lanes, all of them below the lane count. -/
structure Ordinals (lanes : List UInt32) (keys : List Nat) : Prop where
  same : lanes.map ordinalOf = keys.map some
  below : ∀ key ∈ keys, key < laneCount

variable {ordinalOf laneCount} {lanes : List UInt32} {keys placed rest : List Nat} {groups : Groups}

theorem exists_ordinals (known : ∀ laneId ∈ lanes, ∃ lane < laneCount, ordinalOf laneId = some lane) :
    ∃ keys, Ordinals ordinalOf laneCount lanes keys := by
  induction lanes with
  | nil => exact ⟨[], rfl, nofun⟩
  | cons laneId lanes ih =>
    obtain ⟨keys, same, below⟩ := ih fun other member => known other (.tail _ member)
    obtain ⟨lane, inside, found⟩ := known laneId (.head _)
    refine ⟨lane :: keys, ?_, List.forall_mem_cons.mpr ⟨inside, below⟩⟩
    rw [List.map_cons, List.map_cons, same, found]

section

variable (ordinals : Ordinals ordinalOf laneCount lanes keys)
include ordinals

theorem Ordinals.length_eq : keys.length = lanes.length := by
  have lengths := congrArg List.length ordinals.same
  rw [List.length_map, List.length_map] at lengths
  exact lengths.symm

theorem Ordinals.members_eq (lane : Nat) :
    members keys lane = rowsOf ordinalOf lanes lane := by
  unfold members rowsOf
  rw [ordinals.length_eq]
  apply List.filter_congr
  intro row _
  have mapped := congrArg (fun list => list[row]?) ordinals.same
  simp only [List.getElem?_map] at mapped
  congr 1
  cases lane' : lanes[row]? with
  | none => cases key : keys[row]? <;> simp_all
  | some laneId => cases key : keys[row]? <;> simp_all

theorem Ordinals.occurs_iff (lane : Nat) :
    (∃ laneId ∈ lanes, ordinalOf laneId = some lane) ↔ 0 < keys.count lane := by
  rw [List.count_pos_iff, ← List.mem_map, ordinals.same]
  simp

end

/-- A row whose lane has no ordinal below the count ends the counting. -/
theorem countRows_error (unknown : ¬ ∀ laneId ∈ lanes, ∃ lane < laneCount, ordinalOf laneId = some lane) (groups : Groups) :
    lanes.foldlM (Groups.countRow ordinalOf laneCount) groups = .error .invalidArgument := by
  induction lanes generalizing groups with
  | nil => exact absurd (fun _ member => nomatch member) unknown
  | cons laneId lanes ih =>
    rw [List.foldlM_cons, Groups.countRow]
    cases found : ordinalOf laneId with
    | none => rfl
    | some lane =>
      dsimp only
      split
      · rfl
      · rename_i inside
        refine ih (fun known => unknown (List.forall_mem_cons.mpr ⟨⟨lane, ?_, found⟩, known⟩)) _
        omega

theorem countRows_ok (ordinals : Ordinals ordinalOf laneCount lanes keys) (groups : Groups) :
    ∃ counted, lanes.foldlM (Groups.countRow ordinalOf laneCount) groups = .ok counted ∧
      counted.rowBegin 0 = groups.rowBegin 0 ∧
      ∀ lane, counted.rowBegin (lane + 1) = groups.rowBegin (lane + 1) + keys.count lane := by
  induction lanes generalizing keys groups with
  | nil =>
    cases keys with
    | nil => exact ⟨groups, rfl, rfl, fun _ => rfl⟩
    | cons key keys => cases ordinals.same
  | cons laneId lanes ih =>
    cases keys with
    | nil => cases ordinals.same
    | cons key keys =>
      obtain ⟨same, below⟩ := ordinals
      rw [List.map_cons, List.map_cons, List.cons.injEq] at same
      obtain ⟨inside, keysBelow⟩ := List.forall_mem_cons.mp below
      rw [List.foldlM_cons, Groups.countRow, same.1]
      dsimp only
      rw [if_neg (Nat.not_le.mpr inside)]
      obtain ⟨counted, ran, first, counts⟩ := ih ⟨same.2, keysBelow⟩
        { groups with rowBegin := update groups.rowBegin (key + 1) (groups.rowBegin (key + 1) + 1) }
      dsimp only at first counts
      refine ⟨counted, ran, ?_, fun lane => ?_⟩
      · rw [first, update_of_ne (Nat.succ_ne_zero key).symm]
      · rw [counts, List.count_cons]
        by_cases here : key = lane
        · subst here
          rw [update_self, if_pos (beq_self_eq_true key)]
          omega
        · rw [update_of_ne (by omega), if_neg (by simpa using here)]
          omega

/-- What the arrays hold while the counts are added up, up to a lane. -/
structure Summed (laneCount : Nat) (keys : List Nat) (summed : Nat) (groups : Groups) : Prop where
  begins : ∀ lane ≤ summed, groups.rowBegin lane = groupBegin keys lane
  counts : ∀ lane, summed ≤ lane → lane < laneCount → groups.rowBegin (lane + 1) = keys.count lane
  cursors : ∀ lane < summed, groups.cursor lane = groupBegin keys lane

theorem sumLanes (counted : Summed laneCount keys 0 groups) (lanes : Nat) (inside : lanes ≤ laneCount) :
    (∀ lane < lanes, 0 < keys.count lane) ∧
        (∃ summed, (List.range lanes).foldlM Groups.sumLane groups = .ok summed ∧ Summed laneCount keys lanes summed) ∨
      (¬ ∀ lane < lanes, 0 < keys.count lane) ∧
        (List.range lanes).foldlM Groups.sumLane groups = .error .invalidArgument := by
  induction lanes with
  | zero => exact .inl ⟨nofun, groups, rfl, counted⟩
  | succ lane ih =>
    rw [List.range_succ, List.foldlM_append]
    rcases ih (by omega) with ⟨occur, summed, ran, sums⟩ | ⟨missing, failed⟩
    · have count := sums.counts lane (Nat.le_refl lane) inside
      have turn : (do let next ← (List.range lane).foldlM Groups.sumLane groups; [lane].foldlM Groups.sumLane next) =
          summed.sumLane lane := by
        rw [ran]
        exact bind_pure (summed.sumLane lane)
      rw [turn, Groups.sumLane, count]
      by_cases absent : keys.count lane = 0
      · rw [if_pos absent]
        refine .inr ⟨fun all => ?_, rfl⟩
        have := all lane (Nat.lt_succ_self lane)
        omega
      · rw [if_neg absent]
        refine .inl ⟨fun other below => ?_, _, rfl, ?_, ?_, ?_⟩
        · rcases Nat.lt_succ_iff_lt_or_eq.mp below with earlier | rfl
          · exact occur other earlier
          · omega
        · intro other below
          dsimp only
          rcases Nat.le_succ_iff.mp below with earlier | rfl
          · rw [update_of_ne (by omega), sums.begins other earlier]
          · rw [update_self, sums.begins lane (Nat.le_refl lane), groupBegin_succ]
            omega
        · intro other after below
          dsimp only
          rw [update_of_ne (by omega), sums.counts other (by omega) below]
        · intro other below
          dsimp only
          by_cases here : other = lane
          · subst here
            rw [update_self, sums.begins other (Nat.le_refl other)]
          · rw [update_of_ne here, sums.cursors other (by omega)]
    · refine .inr ⟨fun all => missing fun other below => all other (by omega), ?_⟩
      rw [failed]
      rfl

/-- The rows go one by one to the cursors of their lanes. -/
theorem placeRows {restLanes : List UInt32} (ordinals : Ordinals ordinalOf laneCount restLanes rest)
    (parts : keys = placed ++ rest) (before : Placed keys placed laneCount groups.cursor groups.rowIndices) :
    ∃ done, (restLanes.zipIdx placed.length).foldlM (Groups.placeRow ordinalOf laneCount) groups = .ok done ∧
      done.rowBegin = groups.rowBegin ∧ Placed keys keys laneCount done.cursor done.rowIndices := by
  induction restLanes generalizing placed rest groups with
  | nil =>
    cases rest with
    | nil =>
      rw [List.append_nil] at parts
      exact ⟨groups, rfl, rfl, parts ▸ before⟩
    | cons key rest => cases ordinals.same
  | cons laneId restLanes ih =>
    cases rest with
    | nil => cases ordinals.same
    | cons key rest =>
      obtain ⟨same, below⟩ := ordinals
      rw [List.map_cons, List.map_cons, List.cons.injEq] at same
      obtain ⟨inside, keysBelow⟩ := List.forall_mem_cons.mp below
      rw [List.zipIdx_cons, List.foldlM_cons, Groups.placeRow, same.1]
      dsimp only
      rw [if_neg (Nat.not_le.mpr inside)]
      have after := before.snoc parts inside
      have regrouped : keys = placed ++ [key] ++ rest := by rw [parts, List.append_assoc, List.singleton_append]
      obtain ⟨done, ran, begins, placed⟩ := @ih (placed ++ [key]) rest { groups with
        rowIndices := update groups.rowIndices (groups.cursor key) placed.length
        cursor := update groups.cursor key (groups.cursor key + 1) } ⟨same.2, keysBelow⟩ regrouped after
      rw [List.length_append, List.length_singleton] at ran
      exact ⟨done, ran, begins, placed⟩

/-- Each lane takes one row at least, so there are as many rows as lanes. -/
theorem le_groupBegin (occur : ∀ lane < laneCount, 0 < keys.count lane) : laneCount ≤ groupBegin keys laneCount := by
  induction laneCount with
  | zero => exact Nat.zero_le _
  | succ lane ih =>
    have some := occur lane (Nat.lt_succ_self lane)
    have fewer := ih fun other below => occur other (by omega)
    rw [groupBegin_succ]
    omega

theorem placed_nil (sums : Summed laneCount keys laneCount groups) :
    Placed keys [] laneCount groups.cursor groups.rowIndices := by
  constructor
  · intro lane below
    rw [sums.cursors lane below, List.count_nil, Nat.add_zero]
  · intro lane _
    rfl

theorem Ordinals.grouped {summed done : Groups} (ordinals : Ordinals ordinalOf laneCount lanes keys)
    (occur : ∀ lane < laneCount, 0 < keys.count lane) (sums : Summed laneCount keys laneCount summed)
    (begins : done.rowBegin = summed.rowBegin) (placed : Placed keys keys laneCount done.cursor done.rowIndices) :
    Grouped ordinalOf laneCount lanes done := by
  constructor
  · rw [begins, sums.begins 0 (Nat.zero_le _), groupBegin_zero]
  · rw [begins, sums.begins laneCount (Nat.le_refl _), groupBegin_all ordinals.below, ordinals.length_eq]
  · intro lane below
    have some := occur lane below
    rw [begins, sums.begins lane (Nat.le_of_lt below), sums.begins (lane + 1) below, groupBegin_succ]
    omega
  · intro lane below
    rw [begins, sums.begins lane (Nat.le_of_lt below), sums.begins (lane + 1) below, groupBegin_succ,
      Nat.add_sub_cancel_left, placed.items lane below, ordinals.members_eq]

/-- The three loops on cleared arrays, where every row has an ordinal. -/
theorem Ordinals.sorts (ordinals : Ordinals ordinalOf laneCount lanes keys) (groups : Groups)
    (cleared : ∀ lane ≤ laneCount, groups.rowBegin lane = 0) :
    ∃ result, (do
      let counted ← lanes.foldlM (Groups.countRow ordinalOf laneCount) groups
      let summed ← (List.range laneCount).foldlM Groups.sumLane counted
      lanes.zipIdx.foldlM (Groups.placeRow ordinalOf laneCount) summed) = result ∧
      ((∃ grouped, result = .ok grouped) ↔ ∀ lane < laneCount, 0 < keys.count lane) ∧
      ∀ grouped, result = .ok grouped → Grouped ordinalOf laneCount lanes grouped := by
  obtain ⟨counted, ran, first, counts⟩ := countRows_ok ordinals groups
  have start : Summed laneCount keys 0 counted := by
    refine ⟨fun lane below => ?_, fun lane _ below => ?_, nofun⟩
    · rw [Nat.le_zero.mp below, first, cleared 0 (Nat.zero_le _), groupBegin_zero]
    · rw [counts, cleared (lane + 1) below, Nat.zero_add]
  rw [ran]
  refine ⟨_, rfl, ?_⟩
  change ((∃ grouped, (do
      let summed ← (List.range laneCount).foldlM Groups.sumLane counted
      lanes.zipIdx.foldlM (Groups.placeRow ordinalOf laneCount) summed) = .ok grouped) ↔ _) ∧
    ∀ grouped, (do
      let summed ← (List.range laneCount).foldlM Groups.sumLane counted
      lanes.zipIdx.foldlM (Groups.placeRow ordinalOf laneCount) summed) = .ok grouped → _
  rcases sumLanes start laneCount (Nat.le_refl _) with ⟨occur, summed, sumsRan, sums⟩ | ⟨missing, failed⟩
  · obtain ⟨done, placesRan, begins, placed⟩ := placeRows ordinals (List.nil_append keys).symm (placed_nil sums)
    rw [sumsRan]
    change ((∃ grouped, lanes.zipIdx.foldlM (Groups.placeRow ordinalOf laneCount) summed = .ok grouped) ↔ _) ∧
      ∀ grouped, lanes.zipIdx.foldlM (Groups.placeRow ordinalOf laneCount) summed = .ok grouped → _
    rw [show lanes.zipIdx.foldlM (Groups.placeRow ordinalOf laneCount) summed = .ok done from placesRan]
    refine ⟨iff_of_true ⟨done, rfl⟩ occur, ?_⟩
    rintro grouped ⟨⟩
    exact ordinals.grouped occur sums begins placed
  · rw [failed]
    exact ⟨iff_of_false nofun missing, nofun⟩

/-- `SparkRowLayoutGroupRows` comes to an end below the largest lane count. It accepts exactly the batches with a lane
in which every row has an ordinal and every ordinal has a row. -/
theorem groupRows_groups (ordinalOf : LaneOrdinal) (laneCount : UInt32) (lanes : List UInt32) (groups : Groups)
    (ends : laneCount ≠ 0xffffffff) :
    ∃ result, groupRows ordinalOf laneCount lanes groups = some result ∧
      ((∃ grouped, result = .ok grouped) ↔ 0 < laneCount.toNat ∧
        (∀ laneId ∈ lanes, ∃ lane < laneCount.toNat, ordinalOf laneId = some lane) ∧
        ∀ lane < laneCount.toNat, ∃ laneId ∈ lanes, ordinalOf laneId = some lane) ∧
      ∀ grouped, result = .ok grouped → Grouped ordinalOf laneCount.toNat lanes grouped := by
  have noLane : laneCount = 0 ↔ laneCount.toNat = 0 := UInt32.toNat_inj.symm
  unfold groupRows Groups.clear
  by_cases refused : lanes.length < laneCount.toNat ∨ laneCount = 0
  · rw [if_pos refused]
    refine ⟨_, rfl, iff_of_false nofun ?_, nofun⟩
    rintro ⟨someLane, known, occurs⟩
    obtain ⟨keys, ordinals⟩ := exists_ordinals known
    have enough := le_groupBegin fun lane below => (ordinals.occurs_iff lane).mp (occurs lane below)
    rw [groupBegin_all ordinals.below, ordinals.length_eq] at enough
    rw [noLane] at refused
    omega
  · rw [if_neg refused, if_neg ends, Option.map_some]
    refine ⟨_, rfl, ?_⟩
    by_cases known : ∀ laneId ∈ lanes, ∃ lane < laneCount.toNat, ordinalOf laneId = some lane
    · obtain ⟨keys, ordinals⟩ := exists_ordinals known
      obtain ⟨result, ran, accepted, grouped⟩ := ordinals.sorts { groups with
        rowBegin := fun lane => if lane ≤ laneCount.toNat then 0 else groups.rowBegin lane } fun lane below => if_pos below
      rw [ran, accepted]
      refine ⟨?_, grouped⟩
      rw [noLane] at refused
      constructor
      · intro occur
        exact ⟨by omega, known, fun lane below => (ordinals.occurs_iff lane).mpr (occur lane below)⟩
      · rintro ⟨-, -, occurs⟩ lane below
        exact (ordinals.occurs_iff lane).mp (occurs lane below)
    · rw [countRows_error known]
      exact ⟨iff_of_false nofun fun accepted => known accepted.2.1, nofun⟩

/-- The rows of each lane are brought together, none lost and none moved past another of its lane: in the order of the
lanes' first rows by `SparkRowLayoutLaneMajorOrder`, in the order of the ordinals by `SparkRowLayoutGroupRows`. -/
theorem grouping_stable (ordinalOf : LaneOrdinal) (laneCount : UInt32) (lanes : List UInt32) (groups : Groups)
    (ends : laneCount ≠ 0xffffffff) :
    ((laneMajorOrder lanes).1 = (if lanes = [] then .invalidArgument else .ok) ∧
        LaneMajor lanes (laneMajorOrder lanes).2) ∧
      ∃ result, groupRows ordinalOf laneCount lanes groups = some result ∧
        ((∃ grouped, result = .ok grouped) ↔ 0 < laneCount.toNat ∧
          (∀ laneId ∈ lanes, ∃ lane < laneCount.toNat, ordinalOf laneId = some lane) ∧
          ∀ lane < laneCount.toNat, ∃ laneId ∈ lanes, ordinalOf laneId = some lane) ∧
        ∀ grouped, result = .ok grouped → Grouped ordinalOf laneCount.toNat lanes grouped :=
  ⟨laneMajorOrder_groups lanes, groupRows_groups ordinalOf laneCount lanes groups ends⟩

theorem grouping_stable_two :
    (laneMajorOrder [1, 0, 1]).2 = [0, 2, 1] ∧ LaneMajor [1, 0, 1] (laneMajorOrder [1, 0, 1]).2 ∧
      ∃ grouped, groupRows (denseLaneOrdinal 2) 2 [1, 0, 1] ⟨id, id, id⟩ = some (.ok grouped) ∧
        Grouped (denseLaneOrdinal 2) 2 [1, 0, 1] grouped := by
  obtain ⟨⟨-, laneMajor⟩, result, ran, accepted, grouped⟩ :=
    grouping_stable (denseLaneOrdinal 2) 2 [1, 0, 1] ⟨id, id, id⟩ (by decide)
  have known : ∀ laneId ∈ [1, 0, 1], ∃ lane < 2, denseLaneOrdinal 2 laneId = some lane := by
    simp [denseLaneOrdinal]
  have occur : ∀ lane < 2, ∃ laneId ∈ [1, 0, 1], denseLaneOrdinal 2 laneId = some lane := by
    intro lane below
    match lane, below with
    | 0, _ => exact ⟨0, by simp, rfl⟩
    | 1, _ => exact ⟨1, by simp, rfl⟩
  obtain ⟨groups, rfl⟩ := accepted.mpr ⟨by decide, known, occur⟩
  exact ⟨rfl, laneMajor, groups, ran, grouped groups rfl⟩

/-- A batch without rows and lanes is refused. -/
theorem groupRows_no_lane : ¬ ∀ (ordinalOf : LaneOrdinal) (laneCount : UInt32) (lanes : List UInt32) (groups : Groups),
    (∃ grouped, groupRows ordinalOf laneCount lanes groups = some (.ok grouped)) ↔
      (∀ laneId ∈ lanes, ∃ lane < laneCount.toNat, ordinalOf laneId = some lane) ∧
      ∀ lane < laneCount.toNat, ∃ laneId ∈ lanes, ordinalOf laneId = some lane := by
  intro exact
  obtain ⟨grouped, accepted⟩ := (exact (denseLaneOrdinal 0) 0 [] ⟨id, id, id⟩).mpr ⟨nofun, fun _ below => nomatch below⟩
  cases accepted

end GroupRows

end Sparkpipe.RowLayout
