import Mathlib.Algebra.Group.Int.Defs
import Mathlib.Algebra.Group.Nat.Defs
import Mathlib.Data.List.Range

/-!
# Status codes and calls

Every fallible function of the runtime returns a `SparkStatus` and changes its
state in place, so a call is modelled by the status it returns together with
the state it leaves, on success and on failure alike.
-/

namespace Sparkpipe

/-- `SparkStatus`, in the order of the source's enumeration. -/
inductive SparkStatus where
  | ok
  | invalidArgument
  | capacityExceeded
  | notFound
  | ioError
  | parseError
  | schemaError
  | hashMismatch
  | moduleNotValidated
  | validationFailed
  | abiMismatch
  | targetMismatch
  | compilerError
  | driverLoadError
  | routeNotFound
  | busy
  | duplicate
  | internalError
  | pending
  | unsupported
  | noLane
  | evictDenied
  deriving DecidableEq

/-- `SparkCeilDivU32`: the rounding addition wraps at 32 bits. -/
def ceilDivU32 (numerator denominator : Nat) : Nat :=
  if denominator = 0 then 0 else ((numerator + denominator - 1) % 2 ^ 32) / denominator

variable {σ : Type*}

/-- `status = call; if (status != SPARK_STATUS_OK) return status;` followed by the rest. -/
def andThen (call : SparkStatus × σ) (rest : σ → SparkStatus × σ) : SparkStatus × σ :=
  if call.1 = .ok then rest call.2 else call

/-- A `for` loop whose body returns at the first status that is not `OK`. -/
def forEach (body : Nat → σ → SparkStatus × σ) : List Nat → σ → SparkStatus × σ
  | [], state => (.ok, state)
  | index :: rest, state => andThen (body index state) (forEach body rest)

theorem andThen_ok {call : SparkStatus × σ} {rest : σ → SparkStatus × σ} (succeeded : call.1 = .ok) :
    andThen call rest = rest call.2 := if_pos succeeded

theorem andThen_failed {call : SparkStatus × σ} {rest : σ → SparkStatus × σ}
    (failed : call.1 ≠ .ok) : andThen call rest = call := if_neg failed

/-- A property of the state survives a sequence when it survives both halves. -/
theorem andThen_preserves {P : σ → Prop} {call : SparkStatus × σ}
    {rest : σ → SparkStatus × σ} (first : P call.2)
    (second : call.1 = .ok → P (rest call.2).2) : P (andThen call rest).2 := by
  by_cases succeeded : call.1 = .ok
  · rw [andThen_ok succeeded]
    exact second succeeded
  · rw [andThen_failed succeeded]
    exact first

/-- The loop rule: what every iteration keeps, the loop keeps, wherever it stops. -/
theorem forEach_preserves {P : σ → Prop} {body : Nat → σ → SparkStatus × σ}
    {indices : List Nat} {state : σ}
    (step : ∀ index ∈ indices, ∀ state, P state → P (body index state).2)
    (start : P state) : P (forEach body indices state).2 := by
  induction indices generalizing state with
  | nil => exact start
  | cons index rest ih =>
    refine andThen_preserves (step index (.head _) state start) fun _ => ?_
    exact ih (fun later member => step later (.tail _ member))
      (step index (.head _) state start)

theorem forEach_singleton (body : Nat → σ → SparkStatus × σ) (index : Nat) (state : σ) :
    forEach body [index] state = body index state := by
  change andThen (body index state) (fun now => (.ok, now)) = _
  by_cases succeeded : (body index state).1 = .ok
  · rw [andThen_ok succeeded, ← succeeded]
  · rw [andThen_failed succeeded]

theorem forEach_append (body : Nat → σ → SparkStatus × σ) (first second : List Nat) (state : σ) :
    forEach body (first ++ second) state =
      andThen (forEach body first state) (forEach body second) := by
  induction first generalizing state with
  | nil => rfl
  | cons index rest ih =>
    change andThen (body index state) _ = andThen (andThen (body index state) _) _
    by_cases succeeded : (body index state).1 = .ok
    · rw [andThen_ok succeeded, andThen_ok succeeded]
      exact ih _
    · rw [andThen_failed succeeded, andThen_failed succeeded, andThen_failed succeeded]

/-- The loop rule for a counted loop. `P` holds before every iteration; an iteration that fails
ends the loop, and `Q` holds of what it leaves. -/
theorem forEach_range {P : Nat → σ → Prop} {Q : SparkStatus × σ → Prop}
    {body : Nat → σ → SparkStatus × σ} {count : Nat} {state : σ}
    (step : ∀ index < count, ∀ now, forEach body (List.range index) state = (.ok, now) →
      P index now → ((body index now).1 = .ok → P (index + 1) (body index now).2) ∧
        ((body index now).1 ≠ .ok → Q (body index now)))
    (start : P 0 state) :
    ((forEach body (List.range count) state).1 = .ok →
        P count (forEach body (List.range count) state).2) ∧
      ((forEach body (List.range count) state).1 ≠ .ok →
        Q (forEach body (List.range count) state)) := by
  induction count with
  | zero => exact ⟨fun _ => start, fun failed => absurd rfl failed⟩
  | succ count ih =>
    obtain ⟨holds, stopped⟩ := ih fun index bound => step index (Nat.lt_succ_of_lt bound)
    rw [List.range_succ, forEach_append]
    by_cases succeeded : (forEach body (List.range count) state).1 = .ok
    · have last := step count (Nat.lt_succ_self count) _ (Prod.ext succeeded rfl)
        (holds succeeded)
      rw [andThen_ok succeeded, forEach_singleton]
      exact last
    · rw [andThen_failed succeeded]
      exact ⟨fun absurdity => absurd absurdity succeeded, fun _ => stopped succeeded⟩

/-- A counted loop none of whose iterations fails. -/
theorem forEach_range_ok {P : Nat → σ → Prop} {body : Nat → σ → SparkStatus × σ} {count : Nat}
    {state : σ}
    (step : ∀ index < count, ∀ now, P index now →
      (body index now).1 = .ok ∧ P (index + 1) (body index now).2)
    (start : P 0 state) :
    (forEach body (List.range count) state).1 = .ok ∧
      P count (forEach body (List.range count) state).2 := by
  have loop := forEach_range (P := P) (Q := fun _ => False)
    (fun index inRange now _ holds => ⟨fun _ => (step index inRange now holds).2,
      fun failed => failed (step index inRange now holds).1⟩) start
  by_cases succeeded : (forEach body (List.range count) state).1 = .ok
  · exact ⟨succeeded, loop.1 succeeded⟩
  · exact (loop.2 succeeded).elim

end Sparkpipe
