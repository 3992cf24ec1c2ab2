import Mathlib.Data.List.Basic
import Mathlib.Data.List.Induction

/-! Greedy decoding: the sequence that a next-element function goes on with from a context. -/

namespace Sparkpipe

variable {α : Type} (next : List α → α)

/-- The first `count` elements that `next` goes on with. -/
def greedy (context : List α) : Nat → List α
  | 0 => []
  | count + 1 => greedy context count ++ [next (context ++ greedy context count)]

variable {next} {context path : List α} {element : α} {count : Nat}

/-- A path that decoding goes along. -/
def Decoded (next : List α → α) (context path : List α) : Prop := path = greedy next context path.length

theorem Decoded.nil : Decoded next context [] := rfl

/-- A path goes on along the decoding with the one element that comes next. -/
theorem Decoded.append_iff : Decoded next context (path ++ [element]) ↔
    Decoded next context path ∧ element = next (context ++ path) := by
  unfold Decoded
  rw [List.length_append, List.length_singleton, greedy]
  constructor
  · intro same
    obtain ⟨first, last⟩ := List.append_inj' same rfl
    rw [← first] at last
    exact ⟨first, List.singleton_injective last⟩
  · rintro ⟨first, rfl⟩
    rw [← first]

/-- Decoding goes on from where it stood. -/
theorem Decoded.append {more : List α} (decoded : Decoded next context path)
    (goesOn : Decoded next (context ++ path) more) : Decoded next context (path ++ more) := by
  induction more using List.reverseRecOn with
  | nil =>
    rw [List.append_nil]
    exact decoded
  | append_singleton more element ih =>
    obtain ⟨before, last⟩ := append_iff.mp goesOn
    rw [← List.append_assoc, append_iff, ← List.append_assoc]
    exact ⟨ih before, last⟩

end Sparkpipe
