import Mathlib.Logic.Function.Basic
import Mathlib.Data.List.Basic

/-!
# Open addressing

A table whose cells are searched along a path that each key has of its own. A search ends
at the first empty cell, so a cell that is given up is marked as deleted and keeps the
cells behind it in reach. The table is sound when every stored key is in reach on its
path and stored once; then a search finds exactly the stored keys.
-/

namespace Sparkpipe.Probing

open Function

/-- What a cell of the table holds. -/
inductive Cell (κ : Type*) where
  | empty
  | deleted
  | stored (key : κ)

variable {ι κ : Type*} {cells cells' : ι → Cell κ} {key : κ} {index : ι} {path : List ι} {paths : κ → List ι}

/-- The cell on the path that holds the key, unless an empty one comes first. -/
def seek [DecidableEq κ] (cells : ι → Cell κ) (key : κ) : List ι → Option ι
  | [] => none
  | index :: rest =>
    match cells index with
    | .empty => none
    | .deleted => seek cells key rest
    | .stored other => if other = key then some index else seek cells key rest

/-- Where a new key goes: the first deleted cell before the first empty one, or that one. -/
def room (cells : ι → Cell κ) : List ι → Option ι → Option ι
  | [], first => first
  | index :: rest, first =>
    match cells index with
    | .empty => first.or (some index)
    | .deleted => room cells rest (first.or (some index))
    | .stored _ => room cells rest first

/-- No empty cell comes before this one on the path. -/
def Reaches (cells : ι → Cell κ) (path : List ι) (index : ι) : Prop :=
  ∃ before behind, path = before ++ index :: behind ∧ ∀ other ∈ before, cells other ≠ .empty

/-- Every stored key is in reach on its path, in one cell. -/
structure Sound (paths : κ → List ι) (cells : ι → Cell κ) : Prop where
  reached : ∀ index key, cells index = .stored key → Reaches cells (paths key) index
  once : ∀ one other key, cells one = .stored key → cells other = .stored key → one = other

theorem Sound.empty : Sound paths fun _ : ι => (Cell.empty : Cell κ) := by
  constructor
  · intro index key impossible
    cases impossible
  · intro one other key impossible
    cases impossible

theorem Reaches.mem (reaches : Reaches cells path index) : index ∈ path := by
  obtain ⟨before, behind, rfl, -⟩ := reaches
  exact List.mem_append_right before (.head _)

theorem Reaches.first : Reaches cells (index :: path) index := ⟨[], path, rfl, fun _ member => nomatch member⟩

theorem Reaches.later {first : ι} (reaches : Reaches cells path index) (passed : cells first ≠ .empty) :
    Reaches cells (first :: path) index := by
  obtain ⟨before, behind, rfl, full⟩ := reaches
  refine ⟨first :: before, behind, rfl, fun other member => ?_⟩
  rcases List.mem_cons.mp member with rfl | inside
  · exact passed
  · exact full other inside

/-- Cells only fill up, so what was in reach stays in reach. -/
theorem Reaches.keep (reaches : Reaches cells path index)
    (filled : ∀ other, cells other ≠ .empty → cells' other ≠ .empty) : Reaches cells' path index := by
  obtain ⟨before, behind, split, full⟩ := reaches
  exact ⟨before, behind, split, fun other member => filled other (full other member)⟩

section Searching

variable [DecidableEq κ]

theorem seek_some (found : seek cells key path = some index) : cells index = .stored key := by
  induction path with
  | nil => cases found
  | cons first rest ih =>
    unfold seek at found
    cases here : cells first with
    | empty =>
      rw [here] at found
      cases found
    | deleted =>
      rw [here] at found
      exact ih found
    | stored other =>
      rw [here] at found
      dsimp only at found
      split at found
      · rename_i same
        cases found
        rw [here, same]
      · exact ih found

/-- A search that ends without the key has not passed a cell in reach that holds it. -/
theorem seek_none (missing : seek cells key path = none) (reaches : Reaches cells path index) :
    cells index ≠ .stored key := by
  induction path with
  | nil => exact absurd reaches.mem List.not_mem_nil
  | cons first rest ih =>
    obtain ⟨before, behind, split, full⟩ := reaches
    unfold seek at missing
    cases before with
    | nil =>
      obtain ⟨rfl, rfl⟩ := List.cons.inj split
      intro here
      rw [here] at missing
      dsimp only at missing
      rw [if_pos rfl] at missing
      cases missing
    | cons head tail =>
      obtain ⟨rfl, rfl⟩ := List.cons.inj split
      have reachesRest : Reaches cells (tail ++ index :: behind) index :=
        ⟨tail, behind, rfl, fun other member => full other (.tail _ member)⟩
      cases here : cells first with
      | empty => exact absurd here (full first (.head _))
      | deleted =>
        rw [here] at missing
        exact ih missing reachesRest
      | stored other =>
        rw [here] at missing
        dsimp only at missing
        split at missing
        · cases missing
        · exact ih missing reachesRest

/-- A search of a sound table finds exactly the stored keys. -/
theorem Sound.seek_iff (sound : Sound paths cells) :
    seek cells key (paths key) = some index ↔ cells index = .stored key := by
  constructor
  · exact seek_some
  · intro here
    cases found : seek cells key (paths key) with
    | none => exact absurd here (seek_none found (sound.reached index key here))
    | some other => rw [sound.once other index key (seek_some found) here]

theorem Sound.seek_none_iff (sound : Sound paths cells) :
    seek cells key (paths key) = none ↔ ∀ index, cells index ≠ .stored key := by
  constructor
  · intro missing index here
    rw [sound.seek_iff.mpr here] at missing
    cases missing
  · intro absent
    cases found : seek cells key (paths key) with
    | none => rfl
    | some index => exact absurd (seek_some found) (absent index)

end Searching

section Inserting

theorem room_first (first : ι) : room cells path (some first) = some first := by
  induction path with
  | nil => rfl
  | cons index rest ih =>
    unfold room
    cases cells index with
    | empty => rfl
    | deleted => exact ih
    | stored _ => exact ih

/-- A new key goes to a cell in reach that stores nothing. -/
theorem room_some (found : room cells path none = some index) :
    Reaches cells path index ∧ ∀ key, cells index ≠ .stored key := by
  induction path with
  | nil => cases found
  | cons first rest ih =>
    unfold room at found
    cases here : cells first with
    | empty =>
      rw [here] at found
      cases found
      refine ⟨.first, fun key stores => ?_⟩
      rw [here] at stores
      cases stores
    | deleted =>
      rw [here] at found
      cases (room_first first).symm.trans found
      refine ⟨.first, fun key stores => ?_⟩
      rw [here] at stores
      cases stores
    | stored other =>
      rw [here] at found
      obtain ⟨reaches, free⟩ := ih found
      refine ⟨reaches.later ?_, free⟩
      rw [here]
      exact nofun

/-- Without room, every cell on the path stores a key. -/
theorem room_none (full : room cells path none = none) : ∀ index ∈ path, ∃ key, cells index = .stored key := by
  induction path with
  | nil => exact fun _ member => nomatch member
  | cons first rest ih =>
    unfold room at full
    intro index member
    cases here : cells first with
    | empty =>
      rw [here] at full
      cases full
    | deleted =>
      rw [here] at full
      cases (room_first first).symm.trans full
    | stored other =>
      rw [here] at full
      rcases List.mem_cons.mp member with rfl | inside
      · exact ⟨other, here⟩
      · exact ih full index inside

variable [DecidableEq ι]

/-- A cell is given up, and marked as deleted. -/
theorem Sound.delete (sound : Sound paths cells) (index : ι) :
    Sound paths (update cells index .deleted) := by
  have old : ∀ other key, update cells index .deleted other = .stored key → cells other = .stored key := by
    intro other key stores
    by_cases here : other = index
    · rw [here, update_self] at stores
      cases stores
    · rwa [update_of_ne here] at stores
  constructor
  · intro other key stores
    refine (sound.reached other key (old other key stores)).keep fun cell full => ?_
    by_cases here : cell = index
    · rw [here, update_self]
      exact nofun
    · rwa [update_of_ne here]
  · intro one other key first second
    exact sound.once one other key (old one key first) (old other key second)

/-- A key that is not stored goes to a cell in reach. -/
theorem Sound.insert (sound : Sound paths cells) (absent : ∀ other, cells other ≠ .stored key)
    (reaches : Reaches cells (paths key) index) : Sound paths (update cells index (.stored key)) := by
  have filled : ∀ other, cells other ≠ .empty → update cells index (.stored key) other ≠ .empty := by
    intro other full
    by_cases here : other = index
    · rw [here, update_self]
      exact nofun
    · rwa [update_of_ne here]
  have origin : ∀ other stored, update cells index (.stored key) other = .stored stored →
      other = index ∧ stored = key ∨ other ≠ index ∧ cells other = .stored stored := by
    intro other stored stores
    by_cases here : other = index
    · rw [here, update_self] at stores
      exact .inl ⟨here, (Cell.stored.inj stores).symm⟩
    · rw [update_of_ne here] at stores
      exact .inr ⟨here, stores⟩
  constructor
  · intro other stored stores
    rcases origin other stored stores with ⟨rfl, rfl⟩ | ⟨-, before⟩
    · exact reaches.keep filled
    · exact (sound.reached other stored before).keep filled
  · intro one other stored first second
    rcases origin one stored first with ⟨oneHere, isKey⟩ | ⟨-, oneBefore⟩
    · rcases origin other stored second with ⟨otherHere, -⟩ | ⟨-, otherBefore⟩
      · rw [oneHere, otherHere]
      · rw [isKey] at otherBefore
        exact absurd otherBefore (absent other)
    · rcases origin other stored second with ⟨-, isKey⟩ | ⟨-, otherBefore⟩
      · rw [isKey] at oneBefore
        exact absurd oneBefore (absent one)
      · exact sound.once one other stored oneBefore otherBefore

end Inserting

end Sparkpipe.Probing
