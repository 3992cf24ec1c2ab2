import Mathlib.Data.List.Nodup
import Mathlib.Data.List.Range
import Mathlib.Data.Finset.Card
import Mathlib.Data.Finset.Range
import Mathlib.Logic.Function.Basic

/-!
# Chains threaded through an array

A program that keeps its records in one array often links them by index: every
record stores the index of its successor, and a head stores where to start.
`Follows` reads such a chain off the successor function, `Listed` says which
records it holds, and `Filed` does the same for a table of bucket heads. The
walks below are the two loops every user of such chains writes: searching for a
record, and finding the predecessor of a record that is about to be removed.
-/

namespace Sparkpipe.Chain

open Function

section Follows

variable {ι : Type*} {next next' : ι → Option ι} {head : Option ι} {visited : List ι}

/-- Following `next` from a head visits exactly the listed records and then ends. -/
inductive Follows (next : ι → Option ι) : Option ι → List ι → Prop where
  | done : Follows next none []
  | visit {index : ι} {rest : List ι} (tail : Follows next (next index) rest) :
      Follows next (some index) (index :: rest)

theorem Follows.congr (chain : Follows next head visited)
    (same : ∀ i ∈ visited, next' i = next i) : Follows next' head visited := by
  induction chain with
  | done => exact .done
  | @visit index rest tail ih =>
    refine .visit ?_
    rw [same index List.mem_cons_self]
    exact ih fun i member => same i (.tail _ member)

/-- The successor function and the head determine the chain. -/
theorem Follows.unique {other : List ι} (chain : Follows next head visited)
    (again : Follows next head other) : visited = other := by
  induction chain generalizing other with
  | done => cases again with | done => rfl
  | visit tail ih => cases again with | visit tail' => rw [ih tail']

theorem Follows.suffix {before after : List ι} {index : ι}
    (chain : Follows next head (before ++ index :: after)) :
    Follows next (some index) (index :: after) := by
  induction before generalizing head with
  | nil => cases chain with | visit tail => exact .visit tail
  | cons first before ih => cases chain with | visit tail => exact ih tail

/-- A chain that ends cannot meet a record twice: the two visits would have the same rest. -/
theorem Follows.nodup (chain : Follows next head visited) : visited.Nodup := by
  induction chain with
  | done => exact List.nodup_nil
  | @visit index rest tail ih =>
    refine List.nodup_cons.mpr ⟨fun repeated => ?_, ih⟩
    obtain ⟨before, after, split⟩ := List.append_of_mem repeated
    have inner : Follows next (some index) (index :: after) := by
      rw [split] at tail
      exact tail.suffix
    have same := (Follows.visit tail).unique inner
    rw [split] at same
    have lengths := congrArg List.length same
    simp only [List.length_cons, List.length_append] at lengths
    omega

/-- Redirecting the predecessor of `target` past it leaves the chain without `target`. -/
theorem Follows.bypass [DecidableEq ι] {before after : List ι} {previous target : ι}
    (chain : Follows next head (before ++ previous :: target :: after)) :
    Follows (update next previous (next target)) head (before ++ previous :: after) := by
  have distinct := chain.nodup
  induction before generalizing head with
  | nil =>
    cases chain with
    | visit tail =>
      cases hnext : next previous with
      | none => rw [hnext] at tail; cases tail
      | some current =>
        rw [hnext] at tail
        cases tail with
        | visit tail =>
          refine .visit ?_
          rw [update_self]
          refine tail.congr fun i member => update_of_ne ?_ _ _
          rintro rfl
          simp [member] at distinct
  | cons first before ih =>
    cases chain with
    | visit tail =>
      rw [List.cons_append, List.nodup_cons] at distinct
      refine .visit ?_
      rw [update_of_ne (by rintro rfl; simp at distinct)]
      exact ih tail distinct.2

end Follows

section Listed

variable {ι : Type*} {next next' : ι → Option ι} {head : Option ι} {member member' : ι → Prop}

/-- The chain from `head` ends, and holds each record of `member` and no other. -/
def Listed (next : ι → Option ι) (head : Option ι) (member : ι → Prop) : Prop :=
  ∃ visited, Follows next head visited ∧ ∀ i, i ∈ visited ↔ member i

/-- Only the successors of members matter. -/
theorem Listed.congr (listed : Listed next head member)
    (members : ∀ i, member' i ↔ member i) (kept : ∀ i, member i → next' i = next i) :
    Listed next' head member' := by
  obtain ⟨visited, chain, holds⟩ := listed
  exact ⟨visited, chain.congr fun i inside => kept i ((holds i).mp inside),
    fun i => (holds i).trans (members i).symm⟩

theorem listed_none (empty : ∀ i, ¬ member i) : Listed next none member :=
  ⟨[], .done, fun i => by simp [empty i]⟩

theorem Listed.not_member_of_none (listed : Listed next none member) (i : ι) : ¬ member i := by
  obtain ⟨visited, chain, holds⟩ := listed
  cases chain with
  | done => simp [← holds i]

theorem Listed.head_member {i : ι} (listed : Listed next (some i) member) : member i := by
  obtain ⟨visited, chain, holds⟩ := listed
  cases chain with
  | visit tail => exact (holds i).mp (.head _)

/-- Linking a record in front of the chain. -/
theorem Listed.push {i : ι} (listed : Listed next head member) (linked : next' i = head)
    (kept : ∀ j, member j → next' j = next j)
    (members : ∀ j, member' j ↔ j = i ∨ member j) : Listed next' (some i) member' := by
  obtain ⟨visited, chain, holds⟩ := listed
  refine ⟨i :: visited, .visit ?_, fun j => ?_⟩
  · rw [linked]
    exact chain.congr fun j inside => kept j ((holds j).mp inside)
  · rw [List.mem_cons, holds, members]

/-- Taking the first record off the chain. -/
theorem Listed.pop {i : ι} (listed : Listed next (some i) member)
    (kept : ∀ j, member j → j ≠ i → next' j = next j)
    (members : ∀ j, member' j ↔ member j ∧ j ≠ i) : Listed next' (next i) member' := by
  obtain ⟨visited, chain, holds⟩ := listed
  have distinct := chain.nodup
  cases chain with
  | @visit _ rest tail =>
    rw [List.nodup_cons] at distinct
    have others : ∀ j ∈ rest, j ≠ i := by
      rintro j inside rfl
      exact distinct.1 inside
    refine ⟨rest, tail.congr fun j inside => ?_, fun j => ?_⟩
    · exact kept j ((holds j).mp (.tail _ inside)) (others j inside)
    · rw [members, ← holds, List.mem_cons]
      constructor
      · exact fun inside => ⟨.inr inside, others j inside⟩
      · rintro ⟨rfl | inside, different⟩
        · exact absurd rfl different
        · exact inside

/-- The free list an array starts with: every record points to the next one. -/
theorem listed_successors {next : Nat → Option Nat} {member : Nat → Prop} {count : Nat}
    (links : ∀ i, next i = if i + 1 < count then some (i + 1) else none) (nonempty : 0 < count)
    (members : ∀ i, member i ↔ i < count) : Listed next (some 0) member := by
  have fromIndex : ∀ length start, start + (length + 1) = count →
      Follows next (some start) (List.range' start (length + 1)) := by
    intro length
    induction length with
    | zero =>
      intro start ends
      refine .visit ?_
      rw [links, if_neg (by omega)]
      exact .done
    | succ length ih =>
      intro start ends
      rw [List.range'_succ]
      refine .visit ?_
      rw [links, if_pos (by omega)]
      exact ih (start + 1) (by omega)
  refine ⟨List.range' 0 count, ?_, fun i => ?_⟩
  · obtain ⟨length, rfl⟩ := Nat.exists_eq_succ_of_ne_zero (Nat.pos_iff_ne_zero.mp nonempty)
    exact fromIndex length 0 (by omega)
  · rw [members, List.mem_range'_1]
    omega

/-- A chain of array indices below `count` is no longer than the array. -/
theorem Follows.length_le {next : Nat → Option Nat} {head : Option Nat} {visited : List Nat}
    {count : Nat} (chain : Follows next head visited) (range : ∀ i ∈ visited, i < count) :
    visited.length ≤ count := by
  have inside : visited.toFinset ⊆ Finset.range count := by
    intro i member
    exact Finset.mem_range.mpr (range i (List.mem_toFinset.mp member))
  have bounded := Finset.card_le_card inside
  rwa [List.toFinset_card_of_nodup chain.nodup, Finset.card_range] at bounded

end Listed

section Walks

/-- Walk at most `fuel` records of a chain for one that is accepted; an index outside the
array ends the walk. -/
def search (count : Nat) (next : Nat → Option Nat) (accept : Nat → Bool) :
    Nat → Option Nat → Option Nat
  | 0, _ => none
  | _ + 1, none => none
  | fuel + 1, some current =>
    if current < count then
      if accept current then some current else search count next accept fuel (next current)
    else none

/-- Walk at most `fuel` records of a chain for `target`, remembering the record before it.
The answer is the predecessor, `none` when `target` is first. -/
def locate (count : Nat) (next : Nat → Option Nat) (target : Nat) :
    Nat → Option Nat → Option Nat → Option (Option Nat)
  | 0, _, _ => none
  | _ + 1, _, none => none
  | fuel + 1, previous, some current =>
    if current < count then
      if current = target then some previous
      else locate count next target fuel (some current) (next current)
    else none

/-- The head after a record whose predecessor is `previous` has been removed. -/
def spliceHead (previous head after : Option Nat) : Option Nat :=
  match previous with
  | none => after
  | some _ => head

/-- The successors after a record whose predecessor is `previous` has been removed. -/
def spliceNext (previous : Option Nat) (next : Nat → Option Nat) (after : Option Nat) :
    Nat → Option Nat :=
  match previous with
  | none => next
  | some p => update next p after

variable {count fuel : Nat} {next next' : Nat → Option Nat} {head : Option Nat}
  {member member' : Nat → Prop} {accept : Nat → Bool}

theorem search_some {i : Nat} (found : search count next accept fuel head = some i) :
    i < count ∧ accept i = true := by
  induction fuel generalizing head with
  | zero => simp [search] at found
  | succ fuel ih =>
    cases head with
    | none => simp [search] at found
    | some current =>
      rw [search] at found
      split at found
      · split at found
        · cases found
          constructor <;> assumption
        · exact ih found
      · cases found

theorem Follows.search_mem {visited : List Nat} {i : Nat} (chain : Follows next head visited)
    (found : search count next accept fuel head = some i) : i ∈ visited := by
  induction chain generalizing fuel with
  | done => cases fuel <;> simp [search] at found
  | @visit index rest tail ih =>
    cases fuel with
    | zero => simp [search] at found
    | succ fuel =>
      rw [search] at found
      split at found
      · split at found
        · cases found
          exact .head _
        · exact .tail _ (ih found)
      · cases found

/-- What a search finds is a member of the chain. -/
theorem Listed.search_member {i : Nat} (listed : Listed next head member)
    (found : search count next accept fuel head = some i) : member i := by
  obtain ⟨visited, chain, holds⟩ := listed
  exact (holds i).mp (chain.search_mem found)

theorem Follows.search_isSome {visited : List Nat} {target : Nat}
    (chain : Follows next head visited) (range : ∀ i ∈ visited, i < count)
    (enough : visited.length ≤ fuel) (inside : target ∈ visited) (accepted : accept target = true) :
    ∃ i, search count next accept fuel head = some i := by
  induction chain generalizing fuel with
  | done => cases inside
  | @visit index rest tail ih =>
    cases fuel with
    | zero => simp at enough
    | succ fuel =>
      rw [search, if_pos (range index List.mem_cons_self)]
      by_cases here : accept index = true
      · exact ⟨index, by rw [if_pos here]⟩
      · rw [if_neg here]
        have later : target ∈ rest := by
          rcases List.mem_cons.mp inside with rfl | later
          · exact absurd accepted here
          · exact later
        exact ih (fun i within => range i (.tail _ within))
          (Nat.le_of_succ_le_succ enough) later

/-- A search that may walk the whole array misses no member of the chain. -/
theorem Listed.search_isSome (count : Nat) {target : Nat} (listed : Listed next head member)
    (range : ∀ i, member i → i < count) (inside : member target) (accepted : accept target = true) :
    ∃ i, search count next accept count head = some i := by
  obtain ⟨visited, chain, holds⟩ := listed
  have bounded : ∀ i ∈ visited, i < count := fun i within => range i ((holds i).mp within)
  exact chain.search_isSome bounded (chain.length_le bounded) ((holds target).mpr inside) accepted

theorem Follows.locate_eq {visited : List Nat} {target : Nat} (previous : Option Nat)
    (chain : Follows next head visited) (range : ∀ i ∈ visited, i < count)
    (enough : visited.length ≤ fuel) (inside : target ∈ visited) :
    ∃ before after, visited = before ++ target :: after ∧
      locate count next target fuel previous head = some (before.getLast?.or previous) := by
  induction chain generalizing fuel previous with
  | done => cases inside
  | @visit index rest tail ih =>
    cases fuel with
    | zero => simp at enough
    | succ fuel =>
      rw [locate, if_pos (range index List.mem_cons_self)]
      by_cases here : index = target
      · subst here
        exact ⟨[], rest, rfl, by simp⟩
      · rw [if_neg here]
        have later : target ∈ rest := by
          rcases List.mem_cons.mp inside with rfl | later
          · exact absurd rfl here
          · exact later
        obtain ⟨before, after, split, found⟩ := ih (some index)
          (fun i within => range i (.tail _ within))
          (Nat.le_of_succ_le_succ enough) later
        refine ⟨index :: before, after, by rw [split, List.cons_append], ?_⟩
        rw [found, List.getLast?_cons]
        cases before.getLast? <;> rfl

theorem Follows.splice {before after : List Nat} {target : Nat}
    (chain : Follows next head (before ++ target :: after)) :
    Follows (spliceNext before.getLast? next (next target))
      (spliceHead before.getLast? head (next target)) (before ++ after) := by
  rcases List.eq_nil_or_concat before with rfl | ⟨initial, previous, rfl⟩
  · cases chain with | visit tail => exact tail
  · simp only [List.concat_eq_append, List.getLast?_append, List.getLast?_singleton,
      Option.some_or, List.append_assoc, List.singleton_append] at chain ⊢
    exact chain.bypass

/-- Removing a member: its predecessor is found, and splicing there leaves the other members. -/
theorem Listed.remove (count : Nat) {target : Nat} (listed : Listed next head member)
    (range : ∀ i, member i → i < count) (inside : member target) :
    ∃ previous, locate count next target count none head = some previous ∧
      Listed (spliceNext previous next (next target)) (spliceHead previous head (next target))
        (fun i => member i ∧ i ≠ target) := by
  obtain ⟨visited, chain, holds⟩ := listed
  have bounded : ∀ i ∈ visited, i < count := fun i within => range i ((holds i).mp within)
  obtain ⟨before, after, split, found⟩ := chain.locate_eq none bounded
    (chain.length_le bounded) ((holds target).mpr inside)
  subst split
  have distinct := chain.nodup
  refine ⟨before.getLast?, by simpa using found, before ++ after, chain.splice, fun i => ?_⟩
  change _ ↔ member i ∧ i ≠ target
  rw [← holds, List.mem_append, List.mem_append, List.mem_cons]
  rw [List.nodup_append, List.nodup_cons] at distinct
  obtain ⟨-, ⟨absent, -⟩, apart⟩ := distinct
  constructor
  · rintro (early | late)
    · exact ⟨.inl early, apart i early target (.head _)⟩
    · exact ⟨.inr (.inr late), by rintro rfl; exact absent late⟩
  · rintro ⟨early | rfl | late, different⟩
    · exact .inl early
    · exact absurd rfl different
    · exact .inr late

theorem Follows.locate_mem {visited : List Nat} {target p : Nat} {previous : Option Nat}
    (chain : Follows next head visited)
    (found : locate count next target fuel previous head = some (some p)) :
    p ∈ visited ∨ previous = some p := by
  induction chain generalizing fuel previous with
  | done => cases fuel <;> simp [locate] at found
  | @visit index rest tail ih =>
    cases fuel with
    | zero => simp [locate] at found
    | succ fuel =>
      rw [locate] at found
      split at found
      · split at found
        · exact .inr (Option.some.inj found)
        · rcases ih found with later | here
          · exact .inl (.tail _ later)
          · exact Or.inl (by simp [Option.some.inj here])
      · cases found

/-- A record that is located is on the chain. -/
theorem Follows.locate_target {visited : List Nat} {target : Nat} {previous found : Option Nat}
    (chain : Follows next head visited) (located : locate count next target fuel previous head = some found) :
    target ∈ visited := by
  induction chain generalizing fuel previous with
  | done => cases fuel <;> simp [locate] at located
  | @visit index rest tail ih =>
    cases fuel with
    | zero => simp [locate] at located
    | succ fuel =>
      rw [locate] at located
      split at located
      · split at located
        · rename_i here
          rw [here]
          exact .head _
        · exact .tail _ (ih located)
      · cases located

theorem Listed.locate_target {target : Nat} {found : Option Nat} (listed : Listed next head member)
    (located : locate count next target fuel none head = some found) : member target := by
  obtain ⟨visited, chain, holds⟩ := listed
  exact (holds target).mp (chain.locate_target located)

/-- A predecessor found on a chain is a member of that chain. -/
theorem Listed.locate_mem {target p : Nat} (listed : Listed next head member)
    (found : locate count next target fuel none head = some (some p)) : member p := by
  obtain ⟨visited, chain, holds⟩ := listed
  rcases chain.locate_mem found with inside | absurdity
  · exact (holds p).mp inside
  · cases absurdity

end Walks

section Filed

variable {buckets : Nat} {bucketOf bucketOf' : Nat → Nat} {next next' : Nat → Option Nat}
  {heads heads' : Nat → Option Nat} {member member' : Nat → Prop}

/-- Every bucket's chain holds exactly the members that hash to it. -/
def Filed (buckets : Nat) (bucketOf : Nat → Nat) (next : Nat → Option Nat)
    (heads : Nat → Option Nat) (member : Nat → Prop) : Prop :=
  ∀ b < buckets, Listed next (heads b) fun i => member i ∧ bucketOf i = b

theorem Filed.congr (filed : Filed buckets bucketOf next heads member)
    (members : ∀ i, member' i ↔ member i) (sameBucket : ∀ i, member i → bucketOf' i = bucketOf i)
    (kept : ∀ i, member i → next' i = next i) : Filed buckets bucketOf' next' heads member' := by
  intro b inRange
  refine (filed b inRange).congr (fun i => ?_) fun i inside => kept i inside.1
  rw [members]
  constructor
  · rintro ⟨inside, bucket⟩
    exact ⟨inside, (sameBucket i inside).symm.trans bucket⟩
  · rintro ⟨inside, bucket⟩
    exact ⟨inside, (sameBucket i inside).trans bucket⟩

theorem filed_empty (noHeads : ∀ b, heads b = none) (empty : ∀ i, ¬ member i) :
    Filed buckets bucketOf next heads member := by
  intro b _
  rw [noHeads b]
  exact listed_none fun i inside => empty i inside.1

/-- Linking a record at the head of its bucket. -/
theorem Filed.link {i : Nat} (filed : Filed buckets bucketOf next heads member)
    (linked : next' i = heads (bucketOf' i))
    (newHeads : heads' = update heads (bucketOf' i) (some i))
    (kept : ∀ j, member j → next' j = next j)
    (sameBucket : ∀ j, member j → bucketOf' j = bucketOf j)
    (members : ∀ j, member' j ↔ j = i ∨ member j) :
    Filed buckets bucketOf' next' heads' member' := by
  subst newHeads
  intro b inRange
  by_cases here : b = bucketOf' i
  · subst here
    rw [update_self]
    refine (filed _ inRange).push linked
      (fun j inside => kept j inside.1) fun j => ?_
    rw [members]
    constructor
    · rintro ⟨rfl | inside, bucket⟩
      · exact .inl rfl
      · exact .inr ⟨inside, (sameBucket j inside).symm.trans bucket⟩
    · rintro (rfl | ⟨inside, bucket⟩)
      · exact ⟨.inl rfl, rfl⟩
      · exact ⟨.inr inside, (sameBucket j inside).trans bucket⟩
  · rw [update_of_ne here]
    refine (filed b inRange).congr (fun j => ?_) fun j inside => kept j inside.1
    rw [members]
    constructor
    · rintro ⟨rfl | inside, bucket⟩
      · exact absurd bucket.symm here
      · exact ⟨inside, (sameBucket j inside).symm.trans bucket⟩
    · rintro ⟨inside, bucket⟩
      exact ⟨.inr inside, (sameBucket j inside).trans bucket⟩

/-- Removing a record from its bucket: the other buckets are untouched. -/
theorem Filed.unlink {count i : Nat} (filed : Filed buckets bucketOf next heads member)
    (range : ∀ j, member j → j < count) (inside : member i) (inRange : bucketOf i < buckets) :
    ∃ previous, locate count next i count none (heads (bucketOf i)) = some previous ∧
      Filed buckets bucketOf (spliceNext previous next (next i))
        (update heads (bucketOf i) (spliceHead previous (heads (bucketOf i)) (next i)))
        (fun j => member j ∧ j ≠ i) := by
  obtain ⟨previous, found, spliced⟩ := (filed (bucketOf i) inRange).remove count
    (fun j within => range j within.1) ⟨inside, rfl⟩
  refine ⟨previous, found, fun b bound => ?_⟩
  by_cases here : b = bucketOf i
  · subst here
    rw [update_self]
    exact spliced.congr (fun j => by tauto) fun j _ => rfl
  · rw [update_of_ne here]
    refine (filed b bound).congr (fun j => ?_) fun j within => ?_
    · constructor
      · rintro ⟨⟨within, -⟩, bucket⟩
        exact ⟨within, bucket⟩
      · rintro ⟨within, bucket⟩
        exact ⟨⟨within, by rintro rfl; exact here bucket.symm⟩, bucket⟩
    · -- the predecessor lies in the chain of `bucketOf i`, so `j` is not it
      cases previous with
      | none => rfl
      | some p =>
        refine update_of_ne ?_ _ _
        rintro rfl
        have ofBucket := (filed (bucketOf i) inRange).locate_mem found
        exact here (within.2.symm.trans ofBucket.2)

end Filed

end Sparkpipe.Chain
