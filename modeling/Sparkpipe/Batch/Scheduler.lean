import Mathlib.Data.Fintype.Basic
import Sparkpipe.Batch.State

/-!
# Choosing the kind of work

`SparkModelBatchSchedulerChooseWorkKind` of `model_batch_engine.c`. The scheduler begins
each round one kind after the last one it chose. A kind below its minimum lets the others
pass, and counts how often it did, until it has waited long enough.

The proof of fairness is one falling rank: the distance to the kind along the round, above
that the passes it still has to grant.
-/

namespace Sparkpipe.BatchEngine

/-- The kind that follows in the round. -/
def WorkKind.next : WorkKind → WorkKind
  | .prefill => .decode
  | .decode => .release
  | .release => .cachePublish
  | .cachePublish => .prefill

/-- The four kinds, in the order of a round that begins with `start`. -/
def WorkKind.round (start : WorkKind) : List WorkKind :=
  [start, start.next, start.next.next, start.next.next.next]

/-- The kinds that gather requests up to a minimum: `kind < SPARK_MODEL_SERVING_WORK_KIND_RELEASE`. -/
def WorkKind.gathers : WorkKind → Bool
  | .prefill | .decode => true
  | .release | .cachePublish => false

/-- What a call of `SparkModelBatchSchedulerChooseWorkKind` reads and does not write. -/
structure Demand where
  queuedByKind : WorkKind → UInt32
  minimumByKind : WorkKind → UInt32
  admissionOpen : Bool
  inflightSubmissionCount : UInt32
  bypassLimit : UInt32

/-- What a call reads and writes: `next_work_kind` and `bypass_count_by_kind`. -/
structure Scheduler where
  nextWorkKind : UInt32
  bypassCountByKind : WorkKind → UInt32

/-- Where the round begins; a number outside the enumeration counts as a prefill. -/
def Scheduler.start (scheduler : Scheduler) : WorkKind :=
  match scheduler.nextWorkKind.toNat with
  | 2 => .decode
  | 3 => .release
  | 4 => .cachePublish
  | _ => .prefill

/-- `SPARK_MODEL_SERVING_WORK_KIND_*` as a number. -/
def WorkKind.code : WorkKind → UInt32
  | .prefill => 1
  | .decode => 2
  | .release => 3
  | .cachePublish => 4

namespace Demand

variable (demand : Demand)

/-- A minimum of zero counts as one. -/
def minimum (kind : WorkKind) : UInt32 :=
  if demand.minimumByKind kind ≠ 0 then demand.minimumByKind kind else 1

/-- A bypass limit of zero counts as one. -/
def limit : UInt32 := if demand.bypassLimit = 0 then 1 else demand.bypassLimit

/-- The first loop: the count of a kind that does not wait for more requests starts anew. -/
def resetBypass (bypass : WorkKind → UInt32) (kind : WorkKind) : UInt32 :=
  if demand.queuedByKind kind = 0 ∨ demand.minimum kind ≤ demand.queuedByKind kind ∨
      !demand.admissionOpen ∨ demand.inflightSubmissionCount = 0 ∨ !kind.gathers then 0
  else bypass kind

/-- The test of the second loop. -/
def isReady (bypass : WorkKind → UInt32) (kind : WorkKind) : Bool :=
  demand.queuedByKind kind ≠ 0 ∧
    (!kind.gathers ∨ !demand.admissionOpen ∨ demand.inflightSubmissionCount = 0 ∨
      demand.minimum kind ≤ demand.queuedByKind kind ∨ demand.limit ≤ bypass kind)

/-- The third loop: a kind that is passed over counts the pass, up to `UINT32_MAX`. -/
def countBypass (selected : Option WorkKind) (bypass : WorkKind → UInt32) (kind : WorkKind) : UInt32 :=
  if kind.gathers ∧ selected ≠ some kind ∧ demand.admissionOpen ∧
      demand.inflightSubmissionCount ≠ 0 ∧ demand.queuedByKind kind ≠ 0 ∧
      demand.queuedByKind kind < demand.minimum kind ∧ bypass kind ≠ 0xffffffff then bypass kind + 1
  else bypass kind

end Demand

/-- `SparkModelBatchSchedulerChooseWorkKind`, which returns zero for no kind. -/
def schedulerChooseWorkKind (demand : Demand) (scheduler : Scheduler) : Option WorkKind × Scheduler :=
  let bypass := demand.resetBypass scheduler.bypassCountByKind
  let selected := scheduler.start.round.find? (demand.isReady bypass)
  let bypass := demand.countBypass selected bypass
  match selected with
  | none => (none, { scheduler with bypassCountByKind := bypass })
  | some kind => (some kind, ⟨kind.next.code, Function.update bypass kind 0⟩)

/-- What the calls of a run answer. -/
def answers : Scheduler → List Demand → List (Option WorkKind)
  | _, [] => []
  | scheduler, demand :: demands =>
    (schedulerChooseWorkKind demand scheduler).1 ::
      answers (schedulerChooseWorkKind demand scheduler).2 demands

/-- The kind can be chosen at once. -/
def Demand.Eligible (demand : Demand) (kind : WorkKind) : Prop :=
  demand.queuedByKind kind ≠ 0 ∧
    (demand.minimum kind ≤ demand.queuedByKind kind ∨ !kind.gathers ∨
      demand.inflightSubmissionCount = 0 ∨ !demand.admissionOpen)

/-- The kind is queued, but below its minimum while others are admitted and in flight. -/
def Demand.Gathering (demand : Demand) (kind : WorkKind) : Prop :=
  kind.gathers ∧ demand.queuedByKind kind ≠ 0 ∧ demand.queuedByKind kind < demand.minimum kind ∧
    demand.admissionOpen ∧ demand.inflightSubmissionCount ≠ 0

/-! ## One call -/

@[simp] theorem start_code (kind : WorkKind) (bypass : WorkKind → UInt32) :
    Scheduler.start ⟨kind.code, bypass⟩ = kind := by
  cases kind <;> rfl

/-- Every kind is in every round. -/
theorem mem_round (start kind : WorkKind) : kind ∈ start.round := by
  cases start <;> cases kind <;> decide

/-- How far the round is from a kind. -/
def WorkKind.distance (start kind : WorkKind) : Nat := start.round.idxOf kind

theorem distance_lt (start kind : WorkKind) : start.distance kind < 4 := by
  have inside := List.idxOf_lt_length_of_mem (mem_round start kind)
  simpa [WorkKind.distance, WorkKind.round] using inside

/-- A round that stops before it reaches a kind brings the next one nearer to it. -/
theorem distance_next {start chosen kind : WorkKind}
    (before : start.distance chosen ≤ start.distance kind) (other : chosen ≠ kind) :
    chosen.next.distance kind < start.distance kind := by
  cases start <;> cases chosen <;> cases kind <;> revert before other <;> decide

/-- The first kind that is ready is no further than any other that is. -/
theorem distance_find {start chosen kind : WorkKind} {ready : WorkKind → Bool}
    (found : start.round.find? ready = some chosen) (kindReady : ready kind) :
    start.distance chosen ≤ start.distance kind := by
  obtain ⟨-, before, after, round_eq, unready⟩ := List.find?_eq_some_iff_append.1 found
  have kind_notMem : kind ∉ before := fun member => by
    simpa [kindReady] using unready kind member
  simp only [WorkKind.distance, round_eq, List.idxOf_append, kind_notMem, if_false]
  split
  · rename_i member
    exact Nat.le_trans (List.idxOf_lt_length_of_mem member).le (Nat.le_add_left _ _)
  · simp

variable {demand : Demand} {scheduler : Scheduler} {kind : WorkKind}

/-- A kind that is ready is chosen, or the next round is nearer to it. -/
theorem choose_of_isReady
    (ready : demand.isReady (demand.resetBypass scheduler.bypassCountByKind) kind) :
    (schedulerChooseWorkKind demand scheduler).1 = some kind ∨
      (schedulerChooseWorkKind demand scheduler).1 ≠ none ∧
      (schedulerChooseWorkKind demand scheduler).2.start.distance kind <
        scheduler.start.distance kind := by
  cases found : scheduler.start.round.find?
      (demand.isReady (demand.resetBypass scheduler.bypassCountByKind)) with
  | none => simpa [ready] using List.find?_eq_none.1 found kind (mem_round _ kind)
  | some chosen =>
    by_cases same : chosen = kind
    · left
      simp [schedulerChooseWorkKind, found, same]
    · right
      simpa [schedulerChooseWorkKind, found] using distance_next (distance_find found ready) same

theorem Demand.Eligible.isReady (eligible : demand.Eligible kind) (bypass : WorkKind → UInt32) :
    demand.isReady bypass kind := by
  obtain ⟨queued, enough⟩ := eligible
  simp only [Demand.isReady, decide_eq_true_eq]
  tauto

section

variable (gathering : demand.Gathering kind)
include gathering

theorem Demand.Gathering.resetBypass (bypass : WorkKind → UInt32) :
    demand.resetBypass bypass kind = bypass kind := by
  obtain ⟨gathers, queued, below, admitted, inflight⟩ := gathering
  simp [Demand.resetBypass, gathers, queued, below, admitted, inflight]

/-- A kind that gathers counts a pass it grants. -/
theorem Demand.Gathering.countBypass {selected : Option WorkKind}
    (other : selected ≠ some kind) (bypass : WorkKind → UInt32) :
    (demand.countBypass selected bypass kind).toNat = min ((bypass kind).toNat + 1) 0xffffffff := by
  have below := (bypass kind).toNat_lt
  obtain ⟨gathers, queued, few, admitted, inflight⟩ := gathering
  by_cases full : bypass kind = 0xffffffff
  · simp [Demand.countBypass, full]
  · have room : (bypass kind).toNat ≠ 0xffffffff := fun equal => full (UInt32.toNat_inj.1 equal)
    simp [Demand.countBypass, full, gathers, other, admitted, inflight, queued, few]
    omega

/-- A kind that gathers and is not chosen has granted one pass more. -/
theorem Demand.Gathering.passed (passed : (schedulerChooseWorkKind demand scheduler).1 ≠ some kind) :
    ((schedulerChooseWorkKind demand scheduler).2.bypassCountByKind kind).toNat =
      min ((scheduler.bypassCountByKind kind).toNat + 1) 0xffffffff := by
  cases found : scheduler.start.round.find?
      (demand.isReady (demand.resetBypass scheduler.bypassCountByKind)) with
  | none =>
    simpa [schedulerChooseWorkKind, found, gathering.resetBypass] using
      gathering.countBypass (Option.some_ne_none kind).symm (demand.resetBypass scheduler.bypassCountByKind)
  | some chosen =>
    have other : chosen ≠ kind := by
      simpa [schedulerChooseWorkKind, found] using passed
    simpa [schedulerChooseWorkKind, found, Function.update_of_ne other.symm, gathering.resetBypass] using
      gathering.countBypass (fun same => other (Option.some.inj same))
        (demand.resetBypass scheduler.bypassCountByKind)

/-- A kind that has granted its passes is ready. -/
theorem Demand.Gathering.isReady (waited : demand.limit ≤ scheduler.bypassCountByKind kind) :
    demand.isReady (demand.resetBypass scheduler.bypassCountByKind) kind := by
  simp [Demand.isReady, gathering.resetBypass, gathering.2.1, waited]

end

/-! ## Every run -/

/-- A rank that falls until the kind is chosen is used up after as many calls. -/
theorem mem_answers_of_falling {Fits : Demand → Prop} (rank : Scheduler → Nat)
    (falls : ∀ demand scheduler, Fits demand →
      (schedulerChooseWorkKind demand scheduler).1 = some kind ∨
        rank (schedulerChooseWorkKind demand scheduler).2 < rank scheduler)
    {demands : List Demand} (fit : ∀ demand ∈ demands, Fits demand)
    (enough : rank scheduler < demands.length) : some kind ∈ answers scheduler demands := by
  induction demands generalizing scheduler with
  | nil => simp at enough
  | cons demand demands inductionHypothesis =>
    simp only [answers, List.mem_cons]
    rcases falls demand scheduler (fit demand (.head _)) with chosen | nearer
    · exact .inl chosen.symm
    · right
      apply inductionHypothesis fun later member => fit later (.tail demand member)
      simp only [List.length_cons] at enough
      omega

/-- A kind that can be chosen at every call is chosen within four. -/
theorem eligible_chosen {demands : List Demand} (eligible : ∀ demand ∈ demands, demand.Eligible kind)
    (enough : 4 ≤ demands.length) : some kind ∈ answers scheduler demands := by
  apply mem_answers_of_falling (fun scheduler => scheduler.start.distance kind) _ eligible
  · have near := distance_lt scheduler.start kind
    omega
  · intro demand scheduler eligible
    exact (choose_of_isReady (eligible.isReady _)).imp_right And.right

/-- What still lies before a kind that gathers: the passes it has to grant, then its distance. -/
def Scheduler.rank (limit : UInt32) (kind : WorkKind) (scheduler : Scheduler) : Nat :=
  max limit.toNat 1 - (scheduler.bypassCountByKind kind).toNat +
    if max limit.toNat 1 ≤ (scheduler.bypassCountByKind kind).toNat then
      scheduler.start.distance kind
    else 3

/-- The rank of a kind that gathers falls until it is chosen. -/
theorem Demand.Gathering.rank_lt (gathering : demand.Gathering kind) {limit : UInt32}
    (limited : demand.bypassLimit ≤ limit) :
    (schedulerChooseWorkKind demand scheduler).1 = some kind ∨
      (schedulerChooseWorkKind demand scheduler).2.rank limit kind < scheduler.rank limit kind := by
  by_cases chosen : (schedulerChooseWorkKind demand scheduler).1 = some kind
  · exact .inl chosen
  right
  have passed := gathering.passed chosen
  have limit_lt := limit.toNat_lt
  have near := distance_lt (schedulerChooseWorkKind demand scheduler).2.start kind
  by_cases waited : max limit.toNat 1 ≤ (scheduler.bypassCountByKind kind).toNat
  · -- it is ready, so the round comes nearer
    have reached : demand.limit ≤ scheduler.bypassCountByKind kind := by
      rw [UInt32.le_iff_toNat_le] at limited ⊢
      refine le_trans ?_ waited
      unfold Demand.limit
      split
      · exact le_max_right limit.toNat 1
      · exact le_max_of_le_left limited
    have nearer := ((choose_of_isReady (gathering.isReady reached)).resolve_left chosen).2
    have still : max limit.toNat 1 ≤
        ((schedulerChooseWorkKind demand scheduler).2.bypassCountByKind kind).toNat := by omega
    simp only [Scheduler.rank, if_pos waited, if_pos still]
    omega
  · simp only [Scheduler.rank, if_neg waited]
    split <;> omega

/-- A kind that gathers at every call is chosen once it has granted its passes. -/
theorem gathering_chosen {demands : List Demand} {limit : UInt32}
    (gathering : ∀ demand ∈ demands, demand.Gathering kind ∧ demand.bypassLimit ≤ limit)
    (enough : max limit.toNat 1 + 4 ≤ demands.length) : some kind ∈ answers scheduler demands := by
  apply mem_answers_of_falling (Scheduler.rank limit kind) _ gathering
  · have near := distance_lt scheduler.start kind
    unfold Scheduler.rank
    split <;> omega
  · intro demand scheduler fits
    exact fits.1.rank_lt fits.2

@[simp] theorem length_answers (scheduler : Scheduler) (demands : List Demand) :
    (answers scheduler demands).length = demands.length := by
  induction demands generalizing scheduler with
  | nil => rfl
  | cons demand demands inductionHypothesis => simp [answers, inductionHypothesis]

theorem answers_take (scheduler : Scheduler) (demands : List Demand) (count : Nat) :
    (answers scheduler demands).take count = answers scheduler (demands.take count) := by
  induction demands generalizing scheduler count with
  | nil => simp [answers]
  | cons demand demands inductionHypothesis => cases count <;> simp [answers, inductionHypothesis]

theorem answers_drop (scheduler : Scheduler) (demands : List Demand) (count : Nat) :
    ∃ later, (answers scheduler demands).drop count = answers later (demands.drop count) := by
  induction demands generalizing scheduler count with
  | nil => exact ⟨scheduler, by simp [answers]⟩
  | cons demand demands inductionHypothesis =>
    cases count with
    | zero => exact ⟨scheduler, rfl⟩
    | succ count => exact inductionHypothesis _ count

/-- Consecutive answers are those of a run of consecutive calls. -/
theorem answers_infix {window : List (Option WorkKind)} {demands : List Demand}
    (inside : window <:+: answers scheduler demands) :
    ∃ later during, during <:+: demands ∧ window = answers later during := by
  obtain ⟨before, after, equal⟩ := inside
  obtain ⟨later, dropped⟩ := answers_drop scheduler demands before.length
  refine ⟨later, (demands.drop before.length).take window.length, ?_, ?_⟩
  · exact (List.take_prefix _ _).isInfix.trans (List.drop_suffix _ _).isInfix
  · simp [← answers_take, ← dropped, ← equal]

/-- Every answer of a call with an eligible kind is a kind. -/
theorem answers_ne_none (scheduler : Scheduler) (demands : List Demand) :
    List.Forall₂ (fun demand answer => ∀ kind, demand.Eligible kind → answer ≠ none)
      demands (answers scheduler demands) := by
  induction demands generalizing scheduler with
  | nil => exact List.Forall₂.nil
  | cons demand demands inductionHypothesis =>
    refine List.Forall₂.cons (fun kind eligible => ?_) (inductionHypothesis _)
    rcases choose_of_isReady (eligible.isReady (demand.resetBypass scheduler.bypassCountByKind)) with chosen | ⟨answered, -⟩
    · simp [chosen]
    · exact answered

/-- The scheduler is fair. A kind that can be chosen at every call is among any four consecutive answers; a prefill or
a decode that gathers at every call, with a bypass limit of at most `limit`, is among any `max limit 1 + 4` of them; and
a call answers with some kind while one is eligible. -/
theorem schedulerChooseWorkKind_fair (scheduler : Scheduler) (demands : List Demand) :
    (∀ kind, (∀ demand ∈ demands, demand.Eligible kind) →
      ∀ window, window <:+: answers scheduler demands → window.length = 4 → some kind ∈ window) ∧
    (∀ kind limit, (∀ demand ∈ demands, demand.Gathering kind ∧ demand.bypassLimit ≤ limit) →
      ∀ window, window <:+: answers scheduler demands →
        window.length = max limit.toNat 1 + 4 → some kind ∈ window) ∧
    List.Forall₂ (fun demand answer => ∀ kind, demand.Eligible kind → answer ≠ none)
      demands (answers scheduler demands) := by
  refine ⟨?_, ?_, answers_ne_none scheduler demands⟩
  · intro kind eligible window inside four
    obtain ⟨later, during, inner, rfl⟩ := answers_infix inside
    rw [length_answers] at four
    exact eligible_chosen (fun demand member => eligible demand (inner.subset member)) four.ge
  · intro kind limit gathering window inside enough
    obtain ⟨later, during, inner, rfl⟩ := answers_infix inside
    rw [length_answers] at enough
    exact gathering_chosen (fun demand member => gathering demand (inner.subset member)) enough.ge

/-- A decode and a release can be chosen, and one prefill waits for a second. -/
def busyDemand : Demand where
  queuedByKind := fun kind => if kind = .cachePublish then 0 else 1
  minimumByKind := fun kind => if kind = .prefill then 2 else 1
  admissionOpen := true
  inflightSubmissionCount := 1
  bypassLimit := 2

theorem schedulerChooseWorkKind_fair_busy :
    let asked := answers ⟨1, fun _ => 0⟩ (List.replicate 6 busyDemand)
    asked = [some .decode, some .release, some .prefill, some .decode, some .release, some .prefill] ∧
      some .decode ∈ asked.take 4 ∧ some .prefill ∈ asked := by
  obtain ⟨eligible, gathering, -⟩ :=
    schedulerChooseWorkKind_fair ⟨1, fun _ => 0⟩ (List.replicate 6 busyDemand)
  have decodes : busyDemand.Eligible .decode := by
    simp [Demand.Eligible, Demand.minimum, busyDemand]
  have waits : busyDemand.Gathering .prefill := by
    simp [Demand.Gathering, Demand.minimum, WorkKind.gathers, busyDemand]
  refine ⟨by decide +kernel, ?_, ?_⟩
  · apply eligible .decode _ _ (List.take_prefix 4 _).isInfix (by simp)
    intro demand member
    rw [List.eq_of_mem_replicate member]
    exact decodes
  · apply gathering .prefill 2 _ _ List.infix_rfl (by simp)
    intro demand member
    rw [List.eq_of_mem_replicate member]
    exact ⟨waits, UInt32.le_refl 2⟩

end Sparkpipe.BatchEngine
