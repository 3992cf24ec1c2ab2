import Sparkpipe.Topology.Complete
import Sparkpipe.Lib.Balance
import Mathlib.Data.List.Nodup

/-!
# Balanced pins

The switch pins the blocks of a sequence when it checkpoints it, and drops the pins when it
resumes or completes it. It only notes whether it has been through all blocks: not which of
them the tier had, and not that the pins are dropped. So the balance of the pins is only right
where the tier answers both times alike, and where no sequence meets a second switch.
-/

namespace Sparkpipe.TopologySwitch

open Function

namespace TierCall

/-- What a call does to the number of the switch's pins on a block. -/
def effect (key : UInt64) : TierCall → ℤ
  | .pin other .ok => if other = key then 1 else 0
  | .unpin other .ok => if other = key then -1 else 0
  | _ => 0

/-- The block that a call has unpinned. -/
def unpinned : TierCall → Option UInt64
  | .unpin key .ok => some key
  | _ => none

theorem effect_eq (call : TierCall) (key : UInt64) : call.effect key =
    ((call.pinned.toList.count key : Nat) : ℤ) - ((call.unpinned.toList.count key : Nat) : ℤ) := by
  cases call with
  | pin other status =>
    cases status with
    | ok =>
      change (if other = key then 1 else 0) = ((List.count key [other] : Nat) : ℤ) -
        ((List.count key [] : Nat) : ℤ)
      rw [List.count_singleton, List.count_nil]
      by_cases same : other = key <;> simp [same]
    | _ => rfl
  | unpin other status =>
    cases status with
    | ok =>
      change (if other = key then -1 else 0) = ((List.count key [] : Nat) : ℤ) -
        ((List.count key [other] : Nat) : ℤ)
      rw [List.count_singleton, List.count_nil]
      by_cases same : other = key <;> simp [same]
    | _ => rfl
  | reserveWrite _ _ | writeBlock _ _ | abortWrite _ | commitWrite _ _ => rfl

theorem effect_idle {call : TierCall} (idle : call.effective = false) (key : UInt64) :
    call.effect key = 0 := by
  cases call with
  | pin | unpin => cases idle
  | reserveWrite | writeBlock | abortWrite | commitWrite => rfl

/-- The balance counts the pins and the unpins. -/
theorem balance_eq (calls : List TierCall) (key : UInt64) : balance effect calls key =
    (((calls.filterMap pinned).count key : Nat) : ℤ) -
    (((calls.filterMap unpinned).count key : Nat) : ℤ) := by
  induction calls with
  | nil => rfl
  | cons call rest ih =>
    have head : balance effect (call :: rest) key = call.effect key + balance effect rest key := by
      unfold balance
      rw [List.map_cons, List.sum_cons]
    have parts : ∀ test : TierCall → Option UInt64,
        (((call :: rest).filterMap test).count key : ℤ) = ((test call).toList.count key : ℤ) +
          ((rest.filterMap test).count key : ℤ) := by
      intro test
      rw [List.filterMap_cons]
      cases test call with
      | none => simp
      | some found =>
        dsimp only [Option.toList_some]
        rw [List.count_cons, List.count_singleton]
        push_cast
        exact add_comm _ _
    rw [head, effect_eq, ih, parts pinned, parts unpinned]
    omega

end TierCall

section Calls

variable {reply : Nat → SparkStatus} {keys : List UInt64} {index : Nat}

theorem pinned_pin (key : UInt64) {status : SparkStatus} (refused : status ≠ .ok) :
    (TierCall.pin key status).pinned = none := by
  cases status with
  | ok => exact absurd rfl refused
  | _ => rfl

theorem unpinned_unpin (key : UInt64) {status : SparkStatus} (refused : status ≠ .ok) :
    (TierCall.unpin key status).unpinned = none := by
  cases status with
  | ok => exact absurd rfl refused
  | _ => rfl

/-- The blocks from an index on for which the tier answers `OK`. -/
def granted (reply : Nat → SparkStatus) (keys : List UInt64) (index : Nat) : List UInt64 :=
  ((keys.zipIdx index).filter fun pair => reply pair.2 = .ok).map Prod.fst

theorem granted_sublist : (granted reply keys index).Sublist keys := by
  unfold granted
  have within := List.filter_sublist (p := fun pair => reply pair.2 = .ok) (l := keys.zipIdx index)
  simpa only [List.zipIdx_map_fst] using within.map Prod.fst

theorem mem_granted (nodup : keys.Nodup) {pair : UInt64 × Nat} (member : pair ∈ keys.zipIdx index) :
    pair.1 ∈ granted reply keys index ↔ reply pair.2 = .ok := by
  unfold granted
  simp only [List.mem_map, List.mem_filter, decide_eq_true_eq]
  constructor
  · rintro ⟨other, ⟨inside, ok⟩, same⟩
    have apart : ((keys.zipIdx index).map Prod.fst).Nodup := by rwa [List.zipIdx_map_fst]
    rwa [List.inj_on_of_nodup_map apart inside member same] at ok
  · exact fun ok => ⟨pair, ⟨member, ok⟩, rfl⟩

theorem granted_ok (key : UInt64) (rest : List UInt64) (ok : reply index = .ok) :
    granted reply (key :: rest) index = key :: granted reply rest (index + 1) := by
  simp [granted, List.zipIdx_cons, ok]

theorem granted_refused (key : UInt64) (rest : List UInt64) (refused : reply index ≠ .ok) :
    granted reply (key :: rest) index = granted reply rest (index + 1) := by
  simp [granted, List.zipIdx_cons, refused]

/-- The pins of a sequence unpin nothing. They stop at the first failure, and pin what they come to. -/
theorem pinKeys_pinned (reply : Nat → SparkStatus) (keys : List UInt64) (index : Nat) :
    (pinKeys reply keys index).2.filterMap TierCall.unpinned = [] ∧
      (pinKeys reply keys index).2.filterMap TierCall.pinned <+: granted reply keys index ∧
      ((pinKeys reply keys index).1 = .ok →
        (pinKeys reply keys index).2.filterMap TierCall.pinned = granted reply keys index) := by
  induction keys generalizing index with
  | nil => exact ⟨rfl, List.prefix_refl _, fun _ => rfl⟩
  | cons key rest ih =>
    unfold pinKeys
    split
    · rename_i failed
      refine ⟨rfl, ?_, fun succeeded => absurd succeeded failed.2⟩
      rw [List.filterMap_cons, pinned_pin key failed.2]
      exact List.nil_prefix
    · obtain ⟨unpinned, pinned, all⟩ := ih (index + 1)
      refine ⟨unpinned, ?_⟩
      dsimp only
      by_cases succeeded : reply index = .ok
      · rw [granted_ok key rest succeeded, succeeded]
        exact ⟨List.prefix_cons_inj key |>.mpr pinned, fun ok => congrArg (key :: ·) (all ok)⟩
      · rw [granted_refused key rest succeeded, List.filterMap_cons, pinned_pin key succeeded]
        exact ⟨pinned, all⟩

/-- When the pins fail before any of them is taken, none is. -/
theorem pinKeys_whole (reply : Nat → SparkStatus) (index : Nat)
    (whole : ∀ pair ∈ keys.zipIdx index, ∀ earlier ∈ keys.zipIdx index, earlier.2 < pair.2 →
      reply pair.2 ≠ .ok → reply pair.2 ≠ .notFound → reply earlier.2 ≠ .ok)
    (failed : (pinKeys reply keys index).1 ≠ .ok) :
    (pinKeys reply keys index).2.filterMap TierCall.pinned = [] := by
  induction keys generalizing index with
  | nil => exact absurd rfl failed
  | cons key rest ih =>
    unfold pinKeys at failed ⊢
    split at failed
    · rename_i stopped
      rw [if_pos stopped, List.filterMap_cons, pinned_pin key stopped.2]
      rfl
    · rename_i goesOn
      rw [if_neg goesOn]
      rw [List.zipIdx_cons] at whole
      have later := ih (index + 1)
        (fun pair member earlier inside => whole pair (.tail _ member) earlier
        (.tail _ inside)) failed
      -- a later failure means that this block was not pinned
      have refused : reply index ≠ .ok := by
        have culprit : ∃ pair ∈ rest.zipIdx (index + 1), reply pair.2 ≠ .ok ∧
            reply pair.2 ≠ .notFound := by
          clear ih later whole goesOn
          dsimp only at failed
          generalize index + 1 = start at failed ⊢
          induction rest generalizing start with
          | nil => exact absurd rfl failed
          | cons next others search =>
            unfold pinKeys at failed
            rw [List.zipIdx_cons]
            split at failed
            · rename_i stopped
              exact ⟨(next, start), .head _, stopped.2, stopped.1⟩
            · obtain ⟨pair, member, bad⟩ := search (start + 1) failed
              exact ⟨pair, .tail _ member, bad⟩
        obtain ⟨pair, member, notOk, notMissing⟩ := culprit
        have ahead := List.le_snd_of_mem_zipIdx member
        exact whole pair (.tail _ member) (key, index) (.head _) (by omega) notOk notMissing
      dsimp only
      rw [List.filterMap_cons, pinned_pin key refused]
      exact later

/-- The unpins of a sequence pin nothing, and unpin what the tier has. -/
theorem unpinKeys_unpinned (reply : Nat → SparkStatus) (keys : List UInt64) (index : Nat) :
    (unpinKeys reply keys index).filterMap TierCall.pinned = [] ∧
      (unpinKeys reply keys index).filterMap TierCall.unpinned = granted reply keys index := by
  induction keys generalizing index with
  | nil => exact ⟨rfl, rfl⟩
  | cons key rest ih =>
    obtain ⟨pinned, unpinned⟩ := ih (index + 1)
    refine ⟨pinned, ?_⟩
    unfold unpinKeys
    by_cases succeeded : reply index = .ok
    · rw [granted_ok key rest succeeded, succeeded]
      exact congrArg (key :: ·) unpinned
    · rw [granted_refused key rest succeeded, List.filterMap_cons, unpinned_unpin key succeeded]
      exact unpinned

end Calls

namespace World

variable {world before after : World} {replies : Replies} {slots : List Nat} {slot : Nat}
    {key : UInt64}

section Counting

/-- The switch holds a pin on a block for the sequence of a slot. -/
def Holding (world : World) (slot : Nat) (key : UInt64) : Prop :=
  (world.switch.sequences slot).state ≠ .free ∧ (world.switch.sequences slot).pinsDone = true ∧
    key ∈ (world.switch.sequences slot).keys ∧ key ∈ world.found slot

/-- The pins have been balanced all along, and these slots hold those that are left. -/
structure Counted (world : World) (slots : List Nat) : Prop where
  always : AlwaysUnit TierCall.effect world.calls
  held : ∀ key, balance TierCall.effect world.calls key = 1 ↔ ∃ slot ∈ slots, world.Holding slot key

/-- A block that nobody holds has no pin of the switch. -/
theorem Counted.zero (counted : world.Counted slots)
    (nobody : ∀ slot ∈ slots, ¬ world.Holding slot key) :
    balance TierCall.effect world.calls key = 0 := by
  rcases counted.always.last key with zero | one
  · exact zero
  · obtain ⟨slot, member, holding⟩ := (counted.held key).mp one
    exact absurd holding (nobody slot member)

/-- Calls without an effect on the pins, by the same holders. -/
theorem Counted.idle (counted : before.Counted slots) {more : List TierCall}
    (calls : after.calls = before.calls ++ more) (idle : ∀ key, ∀ call ∈ more, call.effect key = 0)
    (same : ∀ slot ∈ slots, ∀ key, after.Holding slot key ↔ before.Holding slot key) :
    after.Counted slots := by
  constructor
  · rw [calls]
    refine counted.always.append fun taken within key => ?_
    rw [balance_idle fun call member => idle key call (within.subset member), add_zero]
    exact counted.always.last key
  · intro key
    rw [calls, balance_append, balance_idle (idle key), add_zero, counted.held]
    constructor
    · rintro ⟨slot, member, holding⟩
      exact ⟨slot, member, (same slot member key).mpr holding⟩
    · rintro ⟨slot, member, holding⟩
      exact ⟨slot, member, (same slot member key).mp holding⟩

/-- The pins of a sequence that holds none so far. -/
theorem Counted.pin (counted : before.Counted slots) {more : List TierCall} {keys : List UInt64}
    (calls : after.calls = before.calls ++ more) (nothing : more.filterMap TierCall.unpinned = [])
    (once : (more.filterMap TierCall.pinned).Sublist keys) (nodup : keys.Nodup)
    (nobody : ∀ key ∈ keys, ∀ slot ∈ slots, ¬ before.Holding slot key)
    (holders : ∀ key, (∃ slot ∈ slots, after.Holding slot key) ↔
      (∃ slot ∈ slots, before.Holding slot key) ∨ key ∈ more.filterMap TierCall.pinned) :
      after.Counted slots := by
  -- a block that is pinned had no pin before
  have fresh : ∀ key ∈ more.filterMap TierCall.pinned, balance TierCall.effect before.calls key =
      0 :=
    fun key member => counted.zero (nobody key (once.subset member))
  have counts : ∀ taken, taken <+: more → ∀ key, balance TierCall.effect taken key =
      ((taken.filterMap TierCall.pinned).count key : Nat) := by
    intro taken within key
    have none : taken.filterMap TierCall.unpinned = [] := by
      have early := within.filterMap TierCall.unpinned
      rw [nothing] at early
      exact List.prefix_nil.mp early
    rw [TierCall.balance_eq, none, List.count_nil]
    simp
  constructor
  · rw [calls]
    refine counted.always.append fun taken within key => ?_
    rw [counts taken within key]
    have few := (within.filterMap TierCall.pinned).sublist.trans once
    have atMost := List.nodup_iff_count_le_one.mp (few.nodup nodup) key
    by_cases member : key ∈ taken.filterMap TierCall.pinned
    · rw [fresh key ((within.filterMap TierCall.pinned).subset member)]
      omega
    · rw [List.count_eq_zero.mpr member]
      simpa using counted.always.last key
  · intro key
    rw [calls, balance_append, counts more (List.prefix_refl _) key, holders, ← counted.held]
    have atMost := List.nodup_iff_count_le_one.mp (once.nodup nodup) key
    by_cases member : key ∈ more.filterMap TierCall.pinned
    · have positive := List.count_pos_iff.mpr member
      rw [fresh key member]
      exact iff_of_true (by omega) (.inr member)
    · rw [List.count_eq_zero.mpr member]
      simp [member]

/-- The unpins of a sequence that holds all it has. -/
theorem Counted.unpin {remaining : List Nat} (counted : before.Counted slots) {more : List TierCall}
    {keys : List UInt64} (calls : after.calls = before.calls ++ more)
    (nothing : more.filterMap TierCall.pinned = [])
    (once : (more.filterMap TierCall.unpinned).Sublist keys)
    (nodup : keys.Nodup) (held : ∀ key ∈ more.filterMap TierCall.unpinned, ∃ slot ∈ slots,
      before.Holding slot key)
    (holders : ∀ key, (∃ slot ∈ remaining, after.Holding slot key) ↔
      (∃ slot ∈ slots, before.Holding slot key) ∧ key ∉ more.filterMap TierCall.unpinned) :
    after.Counted remaining := by
  have counts : ∀ taken, taken <+: more → ∀ key, balance TierCall.effect taken key =
      - ((taken.filterMap TierCall.unpinned).count key : Nat) := by
    intro taken within key
    have none : taken.filterMap TierCall.pinned = [] := by
      have early := within.filterMap TierCall.pinned
      rw [nothing] at early
      exact List.prefix_nil.mp early
    rw [TierCall.balance_eq, none, List.count_nil]
    simp
  constructor
  · rw [calls]
    refine counted.always.append fun taken within key => ?_
    rw [counts taken within key]
    have few := (within.filterMap TierCall.unpinned).sublist.trans once
    have atMost := List.nodup_iff_count_le_one.mp (few.nodup nodup) key
    by_cases member : key ∈ taken.filterMap TierCall.unpinned
    · rw [(counted.held key).mpr (held key ((within.filterMap TierCall.unpinned).subset member))]
      omega
    · rw [List.count_eq_zero.mpr member]
      simpa using counted.always.last key
  · intro key
    rw [calls, balance_append, counts more (List.prefix_refl _) key, holders, ← counted.held]
    have atMost := List.nodup_iff_count_le_one.mp (once.nodup nodup) key
    by_cases member : key ∈ more.filterMap TierCall.unpinned
    · have positive := List.count_pos_iff.mpr member
      rw [(counted.held key).mpr (held key member)]
      exact iff_of_false (by omega) (fun both => both.2 member)
    · rw [List.count_eq_zero.mpr member]
      simp [member]

end Counting

section Checkpointing

/-- The tier has the block where the sequence is pinned: it had it when it was, or it answers so now. -/
def Expects (world : World) (replies : Replies) (slot : Nat) (pair : UInt64 × Nat) : Prop :=
  if (world.switch.sequences slot).pinsDone then pair.1 ∈ world.found slot
  else replies.pin slot pair.2 = .ok

instance (world : World) (replies : Replies) (slot : Nat) (pair : UInt64 × Nat) :
    Decidable (world.Expects replies slot pair) := by
  unfold Expects
  infer_instance

/-- No pin of the sequence fails, other than for a block that the tier does not have, after another has
been taken. -/
def PinsWhole (world : World) (replies : Replies) (slot : Nat) : Prop :=
  ∀ pair ∈ (world.switch.sequences slot).keys.zipIdx,
    ∀ earlier ∈ (world.switch.sequences slot).keys.zipIdx,
    earlier.2 < pair.2 → replies.pin slot pair.2 ≠ .ok → replies.pin slot pair.2 ≠ .notFound →
      replies.pin slot earlier.2 ≠ .ok

instance (world : World) (replies : Replies) (slot : Nat) :
    Decidable (world.PinsWhole replies slot) :=
  inferInstanceAs (Decidable (∀ pair ∈ (world.switch.sequences slot).keys.zipIdx,
    ∀ earlier ∈ (world.switch.sequences slot).keys.zipIdx, earlier.2 < pair.2 →
    replies.pin slot pair.2 ≠ .ok →
      replies.pin slot pair.2 ≠ .notFound → replies.pin slot earlier.2 ≠ .ok))

/-- The blocks of the live sequences are all different. -/
structure Apart (switch : Switch) : Prop where
  nodup : ∀ slot < switch.configuration.maxSequences, (switch.sequences slot).state ≠ .free →
    (switch.sequences slot).keys.Nodup
  others : ∀ one < switch.configuration.maxSequences, ∀ other < switch.configuration.maxSequences,
    one ≠ other →
    (switch.sequences one).state ≠ .free → (switch.sequences other).state ≠ .free →
    ∀ key ∈ (switch.sequences one).keys, key ∉ (switch.sequences other).keys

/-- They are as different when every sequence keeps its blocks and its state. -/
theorem Apart.congr {before after : Switch} (apart : Apart before)
    (configuration : after.configuration = before.configuration)
    (keys : ∀ slot, (after.sequences slot).keys = (before.sequences slot).keys)
    (states : ∀ slot, (after.sequences slot).state = (before.sequences slot).state) : Apart after := by
  constructor
  · simp only [configuration, keys, states]
    exact apart.nodup
  · simp only [configuration, keys, states]
    exact apart.others

/-- A `CHECKPOINT` phase under way, from the world in which it started: these slots are left. -/
structure Pinning (first : World) (replies : Replies) (rest : List Nat) (now : World) : Prop where
  configuration : now.switch.configuration = first.switch.configuration
  state : now.switch.state = first.switch.state
  keys : ∀ slot, (now.switch.sequences slot).keys = (first.switch.sequences slot).keys
  sequenceState : ∀ slot, (now.switch.sequences slot).state = (first.switch.sequences slot).state
  kept : ∀ slot, (first.switch.sequences slot).pinsDone = true →
    (now.switch.sequences slot).pinsDone = true
  flagged : ∀ slot, (now.switch.sequences slot).state ≠ .free →
    (now.switch.sequences slot).checkpointed = true →
    (now.switch.sequences slot).pinsDone = true
  counted : now.Counted first.switch.slots
  agree : ∀ slot < first.switch.configuration.maxSequences,
    (first.switch.sequences slot).state ≠ .free →
    (now.switch.sequences slot).pinsDone = true →
      ∀ pair ∈ (first.switch.sequences slot).keys.zipIdx,
      (pair.1 ∈ now.found slot ↔ first.Expects replies slot pair)
  untouched : ∀ slot ∈ rest, now.switch.sequences slot = first.switch.sequences slot ∧
    now.found slot = first.found slot

/-- Another write into the world changes no pin. -/
theorem Pinning.writeManifest {first now : World} {rest : List Nat}
    (pinning : Pinning first replies rest now)
    (pinned : (now.switch.sequences slot).pinsDone = true) (outside : slot ∉ rest) :
    Pinning first replies rest (now.writeManifest replies slot).2 ∧
      ((now.writeManifest replies slot).2.switch.sequences slot).pinsDone = true := by
  obtain ⟨calls, quiet, cases_⟩ := writeManifest_cases replies now slot
  have idle : ∀ key, ∀ call ∈ calls, call.effect key = 0 :=
    fun key call member => TierCall.effect_idle (quiet call member) key
  rcases cases_ with ⟨-, stays⟩ | ⟨-, changes, -⟩
  · rw [stays]
    exact ⟨{ pinning with counted := pinning.counted.idle rfl idle fun _ _ _ => Iff.rfl }, pinned⟩
  rw [changes]
  have keys := setSequence_field now.switch slot
      { now.switch.sequences slot with checkpointed := true } Sequence.keys rfl
  have states := setSequence_field now.switch slot
      { now.switch.sequences slot with checkpointed := true }
    Sequence.state rfl
  have dones := setSequence_field now.switch slot
      { now.switch.sequences slot with checkpointed := true }
    Sequence.pinsDone rfl
  refine ⟨{
    configuration := pinning.configuration
    state := pinning.state
    keys := fun other => (keys other).trans (pinning.keys other)
    sequenceState := fun other => (states other).trans (pinning.sequenceState other)
    kept := fun other done => (dones other).trans (pinning.kept other done)
    flagged := fun other live checkpointed => ?_
    counted := pinning.counted.idle rfl idle fun other _ key => ?_
    agree := fun other inRange live done => pinning.agree other inRange live
      ((dones other).symm.trans done)
    untouched := fun other member => ?_ }, (dones slot).trans pinned⟩
  · by_cases here : other = slot
    · rw [here]
      exact (dones slot).trans pinned
    · refine (dones other).trans (pinning.flagged other ((states other).symm.trans_ne live) ?_)
      change (update now.switch.sequences slot _ other).checkpointed = true at checkpointed
      rwa [update_of_ne here] at checkpointed
  · change ((now.switch.setSequence slot _).sequences other).state ≠ .free ∧
        ((now.switch.setSequence slot _).sequences other).pinsDone = true ∧
        key ∈ ((now.switch.setSequence slot _).sequences other).keys ∧ key ∈ now.found other ↔ _
    rw [keys, states, dones]
    exact Iff.rfl
  · have different : other ≠ slot := by
      rintro rfl
      exact outside member
    refine ⟨?_, (pinning.untouched other member).2⟩
    change update now.switch.sequences slot _ other = _
    rw [update_of_ne different]
    exact (pinning.untouched other member).1

/-- The pins of one sequence. -/
theorem Pinning.pinSequence {first now : World} {rest : List Nat}
    (pinning : Pinning first replies (slot :: rest) now)
    (apart : Apart first.switch) (inRange : slot < first.switch.configuration.maxSequences)
    (live : (first.switch.sequences slot).state ≠ .free) (outside : slot ∉ rest)
    (whole : (first.switch.sequences slot).pinsDone = false → first.PinsWhole replies slot) :
    Pinning first replies rest (now.pinSequence replies slot).2 ∧
      ((now.pinSequence replies slot).1 = .ok →
        ((now.pinSequence replies slot).2.switch.sequences slot).pinsDone = true) := by
  obtain ⟨sequence, sameFound⟩ := pinning.untouched slot (.head _)
  have later : ∀ other ∈ rest, now.switch.sequences other = first.switch.sequences other ∧
      now.found other = first.found other :=
    fun other member => pinning.untouched other (.tail _ member)
  unfold World.pinSequence
  dsimp only
  split
  · rename_i done
    exact ⟨{ pinning with untouched := later }, fun _ => done⟩
  rename_i notDone
  have undone : (first.switch.sequences slot).pinsDone = false := by
    rw [← sequence]
    exact Bool.eq_false_iff.mpr notDone
  have nodup := apart.nodup slot inRange live
  obtain ⟨nothing, early, all⟩ :=
    pinKeys_pinned (replies.pin slot) (first.switch.sequences slot).keys 0
  have once := early.sublist.trans granted_sublist
  have fails := fun failed => pinKeys_whole (replies.pin slot) 0 (whole undone) failed
  rw [sequence]
  generalize pinKeys (replies.pin slot) (first.switch.sequences slot).keys 0 =
    pins at nothing once all fails ⊢
  -- no other sequence has a block of this one, and this one holds nothing yet
  have nobody : ∀ key ∈ (first.switch.sequences slot).keys, ∀ other ∈ first.switch.slots,
      ¬ now.Holding other key := by
    rintro key member other inside ⟨otherLive, otherDone, has, -⟩
    by_cases here : other = slot
    · rw [here, sequence, undone] at otherDone
      cases otherDone
    · rw [pinning.sequenceState] at otherLive
      rw [pinning.keys] at has
      exact apart.others slot inRange other (List.mem_range.mp inside)
        (Ne.symm here) live otherLive key member has
  have foundElsewhere : ∀ other, other ≠ slot →
      update now.found slot (pins.2.filterMap TierCall.pinned) other = now.found other :=
    fun other different => update_of_ne different _ _
  have elsewhere : ∀ other ∈ rest, other ≠ slot := by
    rintro other member rfl
    exact outside member
  split
  · rename_i failed
    have none := fails failed
    refine ⟨{
      configuration := pinning.configuration
      state := pinning.state
      keys := pinning.keys
      sequenceState := pinning.sequenceState
      kept := pinning.kept
      flagged := pinning.flagged
      counted := pinning.counted.pin rfl nothing once nodup nobody fun key => ?_
      agree := fun other otherInRange otherLive done => ?_
      untouched := fun other member => ⟨(later other member).1, ?_⟩ }, fun succeeded =>
        absurd succeeded failed⟩
    · have same : ∀ other, ({ now.called pins.2 with
          found := update now.found slot (pins.2.filterMap TierCall.pinned) } : World).Holding
          other key ↔
          now.Holding other key := by
        intro other
        unfold Holding
        dsimp only [World.called]
        by_cases here : other = slot
        · rw [here, sequence, undone]
          simp
        · rw [foundElsewhere other here]
      constructor
      · rintro ⟨other, member, holds⟩
        exact .inl ⟨other, member, (same other).mp holds⟩
      · rintro (⟨other, member, held⟩ | impossible)
        · exact ⟨other, member, (same other).mpr held⟩
        · rw [none] at impossible
          exact absurd impossible List.not_mem_nil
    · dsimp only [World.called] at done ⊢
      by_cases here : other = slot
      · rw [here, sequence, undone] at done
        cases done
      · rw [foundElsewhere other here]
        exact pinning.agree other otherInRange otherLive done
    · dsimp only
      rw [foundElsewhere other (elsewhere other member)]
      exact (later other member).2
  · rename_i notFailed
    have found := all (not_not.mp notFailed)
    have same : ∀ other, other ≠ slot → update now.switch.sequences slot
        { first.switch.sequences slot with pinsDone := true } other = now.switch.sequences other :=
      fun other different => update_of_ne different _ _
    refine ⟨{
      configuration := pinning.configuration
      state := pinning.state
      keys := fun other => (setSequence_field now.switch slot _ Sequence.keys
        (by rw [sequence]) other).trans (pinning.keys other)
      sequenceState := fun other => (setSequence_field now.switch slot _ Sequence.state
        (by rw [sequence]) other).trans (pinning.sequenceState other)
      kept := fun other done => ?_
      flagged := fun other otherLive checkpointed => ?_
      counted := pinning.counted.pin rfl nothing once nodup nobody fun key => ?_
      agree := fun other otherInRange otherLive done => ?_
      untouched := fun other member => ⟨?_, ?_⟩ }, fun _ => ?_⟩
    all_goals dsimp only [World.called, World.withSwitch, Switch.setSequence] at *
    · by_cases here : other = slot
      · rw [here, update_self]
      · rw [same other here]
        exact pinning.kept other done
    · by_cases here : other = slot
      · rw [here, update_self]
      · rw [same other here] at otherLive checkpointed ⊢
        exact pinning.flagged other otherLive checkpointed
    · have holding : ∀ other, ({ now with
          switch := { now.switch with
            sequences := update now.switch.sequences slot
              { first.switch.sequences slot with pinsDone := true } }
          calls := now.calls ++ pins.2
          found := update now.found slot (pins.2.filterMap TierCall.pinned) } : World).Holding
            other key ↔
          now.Holding other key ∨ other = slot ∧ key ∈ pins.2.filterMap TierCall.pinned := by
        intro other
        unfold Holding
        dsimp only
        by_cases here : other = slot
        · rw [here, update_self, update_self, sequence]
          constructor
          · rintro ⟨-, -, -, isPinned⟩
            exact .inr ⟨rfl, isPinned⟩
          · rintro (⟨-, done, -⟩ | ⟨-, isPinned⟩)
            · rw [undone] at done
              cases done
            · exact ⟨live, rfl, once.subset isPinned, isPinned⟩
        · rw [same other here, foundElsewhere other here]
          simp [here]
      constructor
      · rintro ⟨other, member, holds⟩
        rcases (holding other).mp holds with was | ⟨-, isPinned⟩
        · exact .inl ⟨other, member, was⟩
        · exact .inr isPinned
      · rintro (⟨other, member, was⟩ | isPinned)
        · exact ⟨other, member, (holding other).mpr (.inl was)⟩
        · exact ⟨slot, List.mem_range.mpr inRange, (holding slot).mpr (.inr ⟨rfl, isPinned⟩)⟩
    · by_cases here : other = slot
      · subst here
        rw [update_self]
        intro pair member
        unfold Expects
        rw [undone, if_neg Bool.false_ne_true]
        rw [found]
        exact mem_granted nodup member
      · rw [same other here] at done
        rw [foundElsewhere other here]
        exact pinning.agree other otherInRange otherLive done
    · rw [same other (elsewhere other member)]
      exact (later other member).1
    · rw [foundElsewhere other (elsewhere other member)]
      exact (later other member).2
    · rw [update_self]

theorem Pinning.checkpointOne {first now : World} {rest : List Nat}
    (pinning : Pinning first replies (slot :: rest) now) (apart : Apart first.switch)
    (inRange : slot < first.switch.configuration.maxSequences)
    (live : (first.switch.sequences slot).state ≠ .free)
    (outside : slot ∉ rest)
    (whole : (first.switch.sequences slot).pinsDone = false → first.PinsWhole replies slot) :
    Pinning first replies rest (now.checkpointOne replies slot).2 ∧
      ((now.checkpointOne replies slot).1 = .ok →
        ((now.checkpointOne replies slot).2.switch.sequences slot).pinsDone = true) := by
  obtain ⟨pins, done⟩ := pinning.pinSequence apart inRange live outside whole
  unfold World.checkpointOne
  by_cases pinned : (now.pinSequence replies slot).1 = .ok
  · rw [andThen_ok pinned]
    obtain ⟨writes, stillDone⟩ := pins.writeManifest (done pinned) outside
    exact ⟨writes, fun _ => stillDone⟩
  · rw [andThen_failed pinned]
    exact ⟨pins, fun succeeded => absurd succeeded pinned⟩

/-- A checkpoint never takes back that the pins are done. -/
theorem pinsDone_checkpointOne (replies : Replies) (world : World) (slot : Nat) {other : Nat}
    (done : (world.switch.sequences other).pinsDone = true) :
    ((world.checkpointOne replies slot).2.switch.sequences other).pinsDone = true := by
  have pins : ((world.pinSequence replies slot).2.switch.sequences other).pinsDone = true := by
    unfold World.pinSequence
    dsimp only
    split
    · exact done
    split
    · exact done
    · exact setSequence_keeps (P := fun sequence => sequence.pinsDone = true) world.switch
        (fun _ => rfl) other done
  refine andThen_preserves (P := fun now : World => (now.switch.sequences other).pinsDone = true)
    pins fun _ => ?_
  obtain ⟨calls, -, ⟨-, stays⟩ | ⟨-, changes, -⟩⟩ :=
    writeManifest_cases replies (world.pinSequence replies slot).2 slot
  · rw [stays]
    exact pins
  · rw [changes]
    exact (setSequence_field (world.pinSequence replies slot).2.switch slot _ Sequence.pinsDone
      (by rfl) other).trans pins

end Checkpointing

section Resuming

/-- What the sequences have and what the tier had of them is as in another world. -/
structure Alike (before after : World) : Prop where
  configuration : after.switch.configuration = before.switch.configuration
  sequences : ∀ slot, (after.switch.sequences slot).keys = (before.switch.sequences slot).keys ∧
    (after.switch.sequences slot).state = (before.switch.sequences slot).state ∧
    (after.switch.sequences slot).pinsDone = (before.switch.sequences slot).pinsDone ∧
    (after.switch.sequences slot).checkpointed = (before.switch.sequences slot).checkpointed
  found : after.found = before.found

theorem Alike.refl (world : World) : Alike world world := ⟨rfl, fun _ => ⟨rfl, rfl, rfl, rfl⟩, rfl⟩

theorem Alike.trans {middle : World} (first : Alike before middle) (second : Alike middle after) :
    Alike before after where
  configuration := second.configuration.trans first.configuration
  sequences := fun slot => by
    obtain ⟨keys, state, pinsDone, checkpointed⟩ := second.sequences slot
    rw [keys, state, pinsDone, checkpointed]
    exact first.sequences slot
  found := second.found.trans first.found

theorem Alike.holding (alike : Alike before after) (slot : Nat) (key : UInt64) :
    after.Holding slot key ↔ before.Holding slot key := by
  obtain ⟨keys, state, pinsDone, -⟩ := alike.sequences slot
  unfold Holding
  rw [keys, state, pinsDone, alike.found]

theorem Alike.apart (alike : Alike before after) (apart : Apart before.switch) : Apart after.switch :=
  apart.congr alike.configuration (fun slot => (alike.sequences slot).1) fun slot => (alike.sequences slot).2.1

theorem Alike.resumeOne (replies : Replies) (world : World) (slot : Nat) :
    Alike world (world.resumeOne replies slot) := by
  refine ⟨rfl, fun other => ?_, rfl⟩
  exact ⟨setSequence_field world.switch slot _ Sequence.keys (by rfl) other,
    setSequence_field world.switch slot _ Sequence.state (by rfl) other,
    setSequence_field world.switch slot _ Sequence.pinsDone (by rfl) other,
    setSequence_field world.switch slot _ Sequence.checkpointed (by rfl) other⟩

/-- The answers to the unpins of a sequence agree with what the tier had. -/
def Consistent (world : World) (reply : Nat → SparkStatus) (slot : Nat) : Prop :=
  ∀ pair ∈ (world.switch.sequences slot).keys.zipIdx,
    (reply pair.2 = .ok ↔ pair.1 ∈ world.found slot)

/-- What is unpinned of a sequence is what it holds. -/
theorem Consistent.holding {reply : Nat → SparkStatus} (consistent : world.Consistent reply slot)
    (nodup : (world.switch.sequences slot).keys.Nodup)
    (live : (world.switch.sequences slot).state ≠ .free)
    (done : (world.switch.sequences slot).pinsDone = true) (key : UInt64) :
    key ∈ (unpinKeys reply (world.switch.sequences slot).keys 0).filterMap TierCall.unpinned ↔
      world.Holding slot key := by
  rw [(unpinKeys_unpinned reply (world.switch.sequences slot).keys 0).2]
  constructor
  · intro member
    have inside := granted_sublist.subset member
    obtain ⟨place, isKey⟩ := List.mem_iff_getElem?.mp inside
    have pair := List.mk_mem_zipIdx_iff_getElem?.mpr isKey
    exact ⟨live, done, inside, (consistent _ pair).mp ((mem_granted nodup pair).mp member)⟩
  · rintro ⟨-, -, inside, isFound⟩
    obtain ⟨place, isKey⟩ := List.mem_iff_getElem?.mp inside
    have pair := List.mk_mem_zipIdx_iff_getElem?.mpr isKey
    exact (mem_granted nodup pair).mpr ((consistent _ pair).mpr isFound)

/-- A sequence drops all that it holds. -/
theorem Counted.release {rest : List Nat} {reply : Nat → SparkStatus}
    (counted : before.Counted slots)
    (calls : after.calls = before.calls ++ unpinKeys reply (before.switch.sequences slot).keys 0)
    (consistent : before.Consistent reply slot) (nodup : (before.switch.sequences slot).keys.Nodup)
    (live : (before.switch.sequences slot).state ≠ .free)
    (done : (before.switch.sequences slot).pinsDone = true)
    (member : slot ∈ slots)
    (holders : ∀ key, (∃ slot ∈ rest, after.Holding slot key) ↔
      (∃ slot ∈ slots, before.Holding slot key) ∧ ¬ before.Holding slot key) : after.Counted
      rest := by
  have holding := consistent.holding nodup live done
  obtain ⟨nothing, all⟩ := unpinKeys_unpinned reply (before.switch.sequences slot).keys 0
  refine counted.unpin calls nothing (all ▸ granted_sublist) nodup
    (fun key isUnpinned => ⟨slot, member, (holding key).mp isUnpinned⟩) ?_
  intro key
  rw [holding, holders]

/-- The `RESUME` phase drops every pin. -/
theorem Counted.resumeFrom (replies : Replies) {first : World} (apart : Apart first.switch)
    (slots : List Nat) (now : World) (counted : now.Counted slots) (alike : Alike first now)
    (nodup : slots.Nodup)
    (inRange : ∀ slot ∈ slots, slot < first.switch.configuration.maxSequences)
    (done : ∀ slot ∈ slots, (first.switch.sequences slot).state ≠ .free →
      (first.switch.sequences slot).pinsDone = true ∧ first.Consistent (replies.unpin slot) slot) :
    (resumeFrom replies slots now).Counted [] ∧ Alike first (resumeFrom replies slots now) := by
  induction slots generalizing now with
  | nil => exact ⟨counted, alike⟩
  | cons slot rest ih =>
    obtain ⟨outside, restNodup⟩ := List.nodup_cons.mp nodup
    have restInRange : ∀ other ∈ rest, other < first.switch.configuration.maxSequences :=
      fun other member => inRange other (.tail _ member)
    have restDone : ∀ other ∈ rest, (first.switch.sequences other).state ≠ .free →
        (first.switch.sequences other).pinsDone = true ∧
        first.Consistent (replies.unpin other) other :=
      fun other member => done other (.tail _ member)
    have cursor : Alike now (now.withSwitch { now.switch with phaseCursor := slot + 1 }) :=
      { Alike.refl now with }
    unfold World.resumeFrom
    dsimp only
    split
    · rename_i free
      refine ih _ ⟨counted.always, fun key => ?_⟩ (alike.trans cursor) restNodup restInRange
        restDone
      refine (counted.held key).trans ⟨?_, ?_⟩
      · rintro ⟨other, member, holding⟩
        rcases List.mem_cons.mp member with rfl | inside
        · exact absurd free holding.1
        · exact ⟨other, inside, (cursor.holding other key).mpr holding⟩
      · rintro ⟨other, inside, holding⟩
        exact ⟨other, .tail _ inside, (cursor.holding other key).mp holding⟩
    · rename_i live
      have resumes : Alike now
          ((now.withSwitch { now.switch with phaseCursor := slot + 1 }).resumeOne replies slot) :=
        cursor.trans (Alike.resumeOne replies _ slot)
      obtain ⟨keys, state, pinsDone, -⟩ := alike.sequences slot
      have wasLive : (first.switch.sequences slot).state ≠ .free := by
        rw [← state]
        exact live
      obtain ⟨isDone, consistent⟩ := done slot (.head _) wasLive
      have nowNodup : (now.switch.sequences slot).keys.Nodup := by
        rw [keys]
        exact apart.nodup slot (inRange slot (.head _)) wasLive
      have nowConsistent : now.Consistent (replies.unpin slot) slot := by
        unfold Consistent
        rw [keys, alike.found]
        exact consistent
      refine ih _ ?_ (alike.trans resumes) restNodup restInRange restDone
      refine counted.release rfl nowConsistent nowNodup live (pinsDone.trans isDone)
        (.head _) fun key => ?_
      constructor
      · rintro ⟨other, inside, holding⟩
        have was := (resumes.holding other key).mp holding
        refine ⟨⟨other, .tail _ inside, was⟩, fun here => ?_⟩
        have different : slot ≠ other := by
          rintro rfl
          exact outside inside
        exact (alike.apart apart).others slot (alike.configuration ▸ inRange slot (.head _)) other
          (alike.configuration ▸ restInRange other inside) different live was.1 key here.2.2.1
          was.2.2.1
      · rintro ⟨⟨other, member, holding⟩, notHere⟩
        rcases List.mem_cons.mp member with rfl | inside
        · exact absurd holding notHere
        · exact ⟨other, inside, (resumes.holding other key).mpr holding⟩

end Resuming

section Tidiness

/-- The pins that a sequence loses when it completes are dropped once: in a steady switch none is left, and
otherwise the answers agree with what the tier had. -/
def Drops (world : World) (reply : Nat → SparkStatus) (slot : Nat) : Prop :=
  ∀ pair ∈ (world.switch.sequences slot).keys.zipIdx,
    (reply pair.2 = .ok ↔ world.switch.state ≠ .steady ∧ pair.1 ∈ world.found slot)

/-- Blocks of one sequence alone, each of them once. -/
def Own (world : World) (slot : Nat) (keys : List UInt64) : Prop :=
  keys.Nodup ∧ ∀ other < world.switch.configuration.maxSequences, other ≠ slot →
    (world.switch.sequences other).state ≠ .free → ∀ key ∈ keys,
    key ∉ (world.switch.sequences other).keys

/-- Blocks are given to a sequence that has no pins and shares none with another live sequence; no live
sequence has its pins done when a switch begins; and the tier answers about a block of a sequence
alike when it is pinned and when it is unpinned, and refuses no pin after it has granted one. -/
def Tidy (world : World) : Step → Prop
  | .setSequenceKv sequenceId positionTokens contentHashes =>
    (world.switch.setSequenceKv sequenceId positionTokens contentHashes).1 = .ok →
    ∀ slot < world.switch.configuration.maxSequences, world.switch.findSequence sequenceId =
    some slot →
      (world.switch.sequences slot).pinsDone = false ∧
        world.Own slot (contentHashes.map (kvKey world.switch.configuration.kvNamespace))
  | .sequenceComplete sequenceId reply => ∀ slot < world.switch.configuration.maxSequences,
      world.switch.findSequence sequenceId = some slot →
      (world.switch.sequences slot).pinsDone = true →
        world.Drops reply slot
  | .beginSwitch target => (world.switch.beginSwitch target).1 = .ok →
      ∀ slot < world.switch.configuration.maxSequences,
      (world.switch.sequences slot).state ≠ .free →
        (world.switch.sequences slot).pinsDone = false
  | .advance replies => world.switch.state ≠ .steady →
      ∀ slot < world.switch.configuration.maxSequences,
      (world.switch.sequences slot).state ≠ .free →
        ((world.switch.sequences slot).pinsDone = false → world.PinsWhole replies slot) ∧
        ∀ pair ∈ (world.switch.sequences slot).keys.zipIdx,
          (replies.unpin slot pair.2 = .ok ↔ world.Expects replies slot pair)
  | _ => True

/-- The invariant of a tidy run: a switch under way holds the pins of the sequences that have them done,
and a steady one holds none. -/
structure Tidied (world : World) : Prop where
  counted : world.Counted (if world.switch.state = .steady then [] else world.switch.slots)
  apart : Apart world.switch
  flagged : ∀ slot, (world.switch.sequences slot).state ≠ .free →
    (world.switch.sequences slot).checkpointed = true →
    (world.switch.sequences slot).pinsDone = true
  behind : world.switch.state = .checkpoint → ∀ slot < world.switch.configuration.maxSequences,
    slot < world.switch.phaseCursor → (world.switch.sequences slot).state ≠ .free →
      (world.switch.sequences slot).pinsDone = true
  done : world.switch.state = .swap → ∀ slot < world.switch.configuration.maxSequences,
    (world.switch.sequences slot).state ≠ .free → (world.switch.sequences slot).pinsDone = true
  settled : world.switch.state ≠ .resume

/-- The blocks of the sequences stay apart when one of them changes. -/
theorem Apart.edit {before after : Switch} {sequence : Sequence} (apart : Apart before)
    (configuration : after.configuration = before.configuration)
    (sequences : after.sequences = update before.sequences slot sequence)
    (nodup : sequence.state ≠ .free → sequence.keys.Nodup)
    (others : sequence.state ≠ .free → ∀ other < before.configuration.maxSequences, other ≠ slot →
      (before.sequences other).state ≠ .free → ∀ key ∈ sequence.keys,
      key ∉ (before.sequences other).keys) :
    Apart after := by
  constructor
  · intro one inRange live
    rw [configuration] at inRange
    rw [sequences] at live ⊢
    by_cases here : one = slot
    · rw [here, update_self] at live ⊢
      exact nodup live
    · rw [update_of_ne here] at live ⊢
      exact apart.nodup one inRange live
  · intro one oneInRange other otherInRange different oneLive otherLive key
    rw [configuration] at oneInRange otherInRange
    rw [sequences] at oneLive otherLive ⊢
    by_cases oneHere : one = slot
    · have otherElsewhere : other ≠ slot := oneHere ▸ Ne.symm different
      rw [oneHere, update_self] at oneLive ⊢
      rw [update_of_ne otherElsewhere] at otherLive ⊢
      exact others oneLive other otherInRange otherElsewhere otherLive key
    · rw [update_of_ne oneHere] at oneLive ⊢
      by_cases otherHere : other = slot
      · rw [otherHere, update_self] at otherLive ⊢
        intro member shared
        exact others otherLive one oneInRange oneHere oneLive key shared member
      · rw [update_of_ne otherHere] at otherLive ⊢
        exact apart.others one oneInRange other otherInRange different oneLive otherLive key

/-- A steady switch that holds no pins. -/
theorem Tidied.of_steady (counted : world.Counted []) (steady : world.switch.state = .steady)
    (apart : Apart world.switch)
    (flagged : ∀ slot, (world.switch.sequences slot).state ≠ .free →
      (world.switch.sequences slot).checkpointed = true →
      (world.switch.sequences slot).pinsDone = true) :
    world.Tidied := by
  refine ⟨?_, apart, flagged, ?_, ?_, ?_⟩
  · rw [if_pos steady]
    exact counted
  all_goals
    rw [steady]
    exact nofun

/-- One sequence changes, and keeps the pins that it holds. -/
theorem Tidied.edit (tidied : before.Tidied) {sequence : Sequence}
    (sequences : after.switch.sequences = update before.switch.sequences slot sequence)
    (configuration : after.switch.configuration = before.switch.configuration)
    (state : after.switch.state = before.switch.state)
    (cursor : after.switch.phaseCursor = before.switch.phaseCursor)
    (counted : after.Counted (if before.switch.state = .steady then [] else before.switch.slots))
    (apart : Apart after.switch)
    (flagged : sequence.state ≠ .free → sequence.checkpointed = true → sequence.pinsDone = true)
    (kept : before.switch.state ≠ .steady → sequence.state ≠ .free →
      (before.switch.sequences slot).state ≠ .free ∧
        ((before.switch.sequences slot).pinsDone = true → sequence.pinsDone = true)) :
    after.Tidied := by
  have stays : before.switch.state ≠ .steady → ∀ other,
    (after.switch.sequences other).state ≠ .free →
      (before.switch.sequences other).state ≠ .free ∧
        ((before.switch.sequences other).pinsDone = true →
          (after.switch.sequences other).pinsDone = true) := by
    intro running other live
    rw [sequences] at live ⊢
    by_cases here : other = slot
    · rw [here, update_self] at live ⊢
      exact kept running live
    · rw [update_of_ne here] at live ⊢
      exact ⟨live, id⟩
  have sameSlots : after.switch.slots = before.switch.slots := by
    unfold Switch.slots
    rw [configuration]
  constructor
  · rw [state, sameSlots]
    exact counted
  · exact apart
  · intro other live checkpointed
    rw [sequences] at live checkpointed ⊢
    by_cases here : other = slot
    · rw [here, update_self] at live checkpointed ⊢
      exact flagged live checkpointed
    · rw [update_of_ne here] at live checkpointed ⊢
      exact tidied.flagged other live checkpointed
  · intro checkpoint other inRange less live
    rw [state] at checkpoint
    rw [configuration] at inRange
    rw [cursor] at less
    have running : before.switch.state ≠ .steady := by simp [checkpoint]
    obtain ⟨wasLive, remains⟩ := stays running other live
    exact remains (tidied.behind checkpoint other inRange less wasLive)
  · intro swap other inRange live
    rw [state] at swap
    rw [configuration] at inRange
    have running : before.switch.state ≠ .steady := by simp [swap]
    obtain ⟨wasLive, remains⟩ := stays running other live
    exact remains (tidied.done swap other inRange wasLive)
  · rw [state]
    exact tidied.settled

/-- Another phase of the switch, with the sequences and their pins as they are. -/
theorem Tidied.running (tidied : before.Tidied) (busy : before.switch.state ≠ .steady)
    (sequences : after.switch.sequences = before.switch.sequences)
    (configuration : after.switch.configuration = before.switch.configuration)
    (calls : after.calls = before.calls) (found : after.found = before.found)
    (stillBusy : after.switch.state ≠ .steady) (notResume : after.switch.state ≠ .resume)
    (behind : after.switch.state = .checkpoint → ∀ slot < before.switch.configuration.maxSequences,
      slot < after.switch.phaseCursor → (before.switch.sequences slot).state ≠ .free →
        (before.switch.sequences slot).pinsDone = true)
    (done : after.switch.state = .swap → ∀ slot < before.switch.configuration.maxSequences,
      (before.switch.sequences slot).state ≠ .free → (before.switch.sequences slot).pinsDone =
      true) :
    after.Tidied := by
  have counted := tidied.counted
  rw [if_neg busy] at counted
  have sameSlots : after.switch.slots = before.switch.slots := by
    unfold Switch.slots
    rw [configuration]
  constructor
  · rw [if_neg stillBusy, sameSlots]
    refine counted.idle (calls.trans (List.append_nil _).symm) nofun fun slot _ key => ?_
    unfold Holding
    rw [sequences, found]
  · exact tidied.apart.congr configuration (fun _ => by rw [sequences]) fun _ => by rw [sequences]
  · rw [sequences]
    exact tidied.flagged
  · rw [configuration, sequences]
    exact behind
  · rw [configuration, sequences]
    exact done
  · exact notResume

/-- In the `SWAP` phase the switch waits, or drops every pin. -/
theorem Tidied.swapPhase (tidied : world.Tidied) (swap : world.switch.state = .swap)
    (consistent : ∀ slot < world.switch.configuration.maxSequences,
      (world.switch.sequences slot).state ≠ .free →
      world.Consistent (replies.unpin slot) slot) : (world.swapPhase replies).Tidied := by
  have busy : world.switch.state ≠ .steady := by simp [swap]
  have notResume : world.switch.state ≠ .resume := by simp [swap]
  have waits : ∀ switch : Switch, switch.sequences = world.switch.sequences →
      switch.configuration = world.switch.configuration → switch.state = world.switch.state →
      (world.withSwitch switch).Tidied := by
    intro switch sequences configuration state
    refine tidied.running busy sequences configuration rfl rfl ?_ ?_ ?_ fun _ => tidied.done swap
    · exact state.trans_ne busy
    · exact state.trans_ne notResume
    · intro checkpoint
      rw [show switch.state = .checkpoint from checkpoint, swap] at state
      cases state
  unfold World.swapPhase
  split
  · exact waits _ rfl rfl rfl
  dsimp only
  split
  · exact waits _ rfl rfl rfl
  split
  · exact waits _ rfl rfl rfl
  · have counted := tidied.counted
    rw [if_neg busy] at counted
    -- the world in which the sequences resume
    obtain ⟨now, isNow⟩ : ∃ now, now = world.withSwitch { world.switch with
        swapStarted := true
        state := .resume
        phaseCursor := 0 } := ⟨_, rfl⟩
    have resuming : Alike world now := by
      rw [isNow]
      exact ⟨rfl, fun _ => ⟨rfl, rfl, rfl, rfl⟩, rfl⟩
    have nowCounted : now.Counted world.switch.slots := by
      have calls : now.calls = world.calls ++ [] := by
        rw [isNow, List.append_nil]
        rfl
      exact counted.idle calls nofun fun slot _ key => resuming.holding slot key
    obtain ⟨dropped, alike⟩ :=
      Counted.resumeFrom replies tidied.apart world.switch.slots now nowCounted resuming
      List.nodup_range (fun slot member => List.mem_range.mp member) fun slot member live =>
        ⟨tidied.done swap slot (List.mem_range.mp member) live,
          consistent slot (List.mem_range.mp member) live⟩
    rw [isNow] at dropped alike
    have apart := alike.apart tidied.apart
    refine Tidied.of_steady ⟨dropped.always, fun key => (dropped.held key).trans ?_⟩ rfl
      ⟨apart.nodup, apart.others⟩ fun slot live checkpointed => ?_
    · exact iff_of_false (by simp) (by simp)
    · obtain ⟨-, state, pinsDone, isCheckpointed⟩ := alike.sequences slot
      refine pinsDone.trans (tidied.flagged slot ?_ (isCheckpointed.symm.trans checkpointed))
      exact state.symm.trans_ne live

/-- Where the `CHECKPOINT` phase starts. -/
theorem Tidied.checkpointStart (tidied : world.Tidied) {start : World}
    (starts : world.checkpointStart = some start) :
    start.Tidied ∧ start.switch.state = .checkpoint ∧
      world.switch.state ≠ .steady ∧ start.switch.configuration = world.switch.configuration ∧
      start.switch.sequences = world.switch.sequences ∧ start.found = world.found := by
  unfold World.checkpointStart at starts
  split at starts
  · rename_i quiesce
    have busy : world.switch.state ≠ .steady := by simp [quiesce]
    split at starts
    · cases starts
      refine ⟨?_, rfl, busy, rfl, rfl, rfl⟩
      exact tidied.running busy rfl rfl rfl rfl nofun nofun
        (fun _ slot _ less => absurd less (Nat.not_lt_zero slot)) nofun
    · cases starts
  · rename_i checkpoint
    cases starts
    refine ⟨tidied, checkpoint, ?_, rfl, rfl, rfl⟩
    rw [checkpoint]
    exact nofun
  · cases starts

/-- The `CHECKPOINT` phase of a tidy call: the pins are those of the sequences that have them done. -/
theorem Tidied.checkpointPhase (tidied : world.Tidied)
    (checkpoint : world.switch.state = .checkpoint)
    (tidy : ∀ slot < world.switch.configuration.maxSequences,
      (world.switch.sequences slot).state ≠ .free →
      ((world.switch.sequences slot).pinsDone = false → world.PinsWhole replies slot) ∧
      ∀ pair ∈ (world.switch.sequences slot).keys.zipIdx,
        (replies.unpin slot pair.2 = .ok ↔ world.Expects replies slot pair)) :
    (world.checkpointPhase replies).Tidied := by
  have busy : world.switch.state ≠ .steady := by simp [checkpoint]
  have counted := tidied.counted
  rw [if_neg busy] at counted
  have starts : Pinning world replies (world.switch.slots.drop world.switch.phaseCursor) world := {
    configuration := rfl
    state := rfl
    keys := fun _ => rfl
    sequenceState := fun _ => rfl
    kept := fun _ => id
    flagged := tidied.flagged
    counted := counted
    agree := fun slot _ _ isDone pair _ => by
      unfold Expects
      rw [if_pos isDone]
    untouched := fun _ _ => ⟨rfl, rfl⟩ }
  have ran := checkpointRun_rule (P := fun rest now => rest.Nodup ∧ Pinning world replies rest now)
    (Q := fun slot => slot < world.switch.configuration.maxSequences)
    (M := fun sequence => sequence.state ≠ .free → sequence.pinsDone = true) replies
    (fun rest now place error pinning => ⟨pinning.1, { pinning.2 with
      counted := pinning.2.counted.idle (List.append_nil _).symm (by simp) fun _ _ _ => Iff.rfl }⟩)
    (fun now slot other _ marked live => by
      rw [((Keeps.checkpointOne replies now slot).sequences other).2.1] at live
      exact pinsDone_checkpointOne replies now slot (marked live))
    (fun slot rest now ⟨nodup, pinning⟩ skipped => ⟨⟨(List.nodup_cons.mp nodup).2, { pinning with
        untouched := fun other member => pinning.untouched other (.tail _ member) }⟩,
      fun live => pinning.flagged slot live (skipped.resolve_left live)⟩)
    (fun slot rest now inRange ⟨nodup, pinning⟩ live => by
      obtain ⟨outside, restNodup⟩ := List.nodup_cons.mp nodup
      rw [pinning.sequenceState] at live
      obtain ⟨goesOn, done⟩ :=
        pinning.checkpointOne tidied.apart inRange live outside (tidy slot inRange live).1
      exact ⟨⟨restNodup, goesOn⟩, fun succeeded _ => done succeeded⟩)
    world (fun _ => id) ⟨List.nodup_range.sublist (List.drop_sublist _ _), starts⟩
      (tidied.behind checkpoint)
  obtain ⟨⟨rest, -, pinning⟩, reached⟩ := ran
  unfold World.checkpointPhase
  dsimp only
  generalize world.checkpointRun replies = ran at pinning reached ⊢
  have stillRunning : ran.2.switch.state = .checkpoint := pinning.state.trans checkpoint
  have ranBusy : ran.2.switch.state ≠ .steady := by simp [stillRunning]
  have sameSlots : ran.2.switch.slots = world.switch.slots := by
    unfold Switch.slots
    rw [pinning.configuration]
  have apart := tidied.apart.congr pinning.configuration pinning.keys pinning.sequenceState
  have ranTidied : ran.2.Tidied := by
    refine ⟨?_, apart, pinning.flagged, ?_, ?_, ?_⟩
    · rw [if_neg ranBusy, sameSlots]
      exact pinning.counted
    · intro _ slot inRange less
      rw [pinning.configuration] at inRange
      exact reached slot inRange (.inr less)
    · rw [stillRunning]
      exact nofun
    · rw [stillRunning]
      exact nofun
  split
  · exact ranTidied
  · rename_i notStopped
    have finished := Bool.eq_true_of_not_eq_false notStopped
    have allDone : ∀ slot < ran.2.switch.configuration.maxSequences,
      (ran.2.switch.sequences slot).state ≠ .free →
        (ran.2.switch.sequences slot).pinsDone = true := by
      intro slot inRange live
      rw [pinning.configuration] at inRange
      exact reached slot inRange (.inl finished) live
    have swapping : (ran.2.withSwitch { ran.2.switch with
        state := .swap
        swapStarted := false }).Tidied :=
      ranTidied.running ranBusy rfl rfl rfl rfl nofun nofun
        (nofun) fun _ => allDone
    refine swapping.swapPhase rfl fun slot inRange live => ?_
    have isDone := allDone slot inRange live
    change slot < ran.2.switch.configuration.maxSequences at inRange
    change (ran.2.switch.sequences slot).state ≠ .free at live
    rw [pinning.configuration] at inRange
    rw [pinning.sequenceState] at live
    change ∀ pair ∈ (ran.2.switch.sequences slot).keys.zipIdx, _
    rw [pinning.keys]
    intro pair member
    exact ((tidy slot inRange live).2 pair member).trans
      (pinning.agree slot inRange live isDone pair member).symm

/-- One call of `Advance`. -/
theorem Tidied.advance (tidied : world.Tidied) (tidy : world.Tidy (.advance replies)) :
    (world.advance replies).Tidied := by
  unfold World.advance
  cases starts : world.checkpointStart with
  | some start =>
    obtain ⟨started, checkpoint, busy, configuration, sequences, found⟩ :=
      tidied.checkpointStart starts
    refine started.checkpointPhase checkpoint fun slot inRange live => ?_
    rw [configuration] at inRange
    rw [sequences] at live
    obtain ⟨whole, agrees⟩ := tidy busy slot inRange live
    unfold PinsWhole Expects at *
    rw [sequences, found]
    exact ⟨whole, agrees⟩
  | none =>
    dsimp only
    split
    · rename_i swap
      refine tidied.swapPhase swap fun slot inRange live pair member => ?_
      have busy : world.switch.state ≠ .steady := by simp [swap]
      have agrees := (tidy busy slot inRange live).2 pair member
      unfold Expects at agrees
      rw [if_pos (tidied.done swap slot inRange live)] at agrees
      exact agrees
    · rename_i resume
      exact absurd resume tidied.settled
    · exact tidied

end Tidiness

section Completing

/-- Refused unpins are no unpins. -/
theorem unpinKeys_idle {reply : Nat → SparkStatus} {keys : List UInt64} {index : Nat}
    (refused : ∀ pair ∈ keys.zipIdx index, reply pair.2 ≠ .ok) (key : UInt64) :
    ∀ call ∈ unpinKeys reply keys index, call.effect key = 0 := by
  induction keys generalizing index with
  | nil => exact fun call member => absurd member List.not_mem_nil
  | cons first rest ih =>
    rw [List.zipIdx_cons] at refused
    intro call member
    unfold unpinKeys at member
    rcases List.mem_cons.mp member with rfl | inside
    · rw [TierCall.effect_eq, unpinned_unpin first (refused _ List.mem_cons_self)]
      rfl
    · exact ih (fun pair within => refused pair (.tail _ within)) call inside

/-- A completed sequence has left no pin. -/
def Released (world : World) : Step → Prop
  | .sequenceComplete sequenceId reply => ∀ slot < world.switch.configuration.maxSequences,
      world.switch.findSequence sequenceId = some slot → ∀ key ∈ (world.switch.sequences slot).keys,
        balance TierCall.effect (world.perform (.sequenceComplete sequenceId reply)).calls key = 0
  | _ => True

/-- A sequence completes, with the calls that drop its pins. -/
theorem Tidied.completes (tidied : before.Tidied)
    (inRange : slot < before.switch.configuration.maxSequences)
    (live : (before.switch.sequences slot).state ≠ .free) {reply : Nat → SparkStatus}
    (drops : (before.switch.sequences slot).pinsDone = true → before.Drops reply slot)
    (calls : after.calls = before.calls ++ if (before.switch.sequences slot).pinsDone = true then
      unpinKeys reply (before.switch.sequences slot).keys 0 else [])
    (sequences : after.switch.sequences = update before.switch.sequences slot
      { before.switch.sequences slot with state := .free, resumeClass := .pending, keys := [] })
    (configuration : after.switch.configuration = before.switch.configuration)
    (state : after.switch.state = before.switch.state)
    (cursor : after.switch.phaseCursor = before.switch.phaseCursor)
      (found : after.found = before.found) :
    after.Tidied := by
  have apart : Apart after.switch :=
    tidied.apart.edit configuration sequences (fun isLive => absurd rfl isLive)
    fun isLive => absurd rfl isLive
  refine tidied.edit sequences configuration state cursor ?_ apart (fun isLive => absurd rfl isLive)
    fun _ isLive => absurd rfl isLive
  -- the others hold what they held, and this one nothing
  have holding : ∀ other key, after.Holding other key ↔ other ≠ slot ∧
      before.Holding other key := by
    intro other key
    unfold Holding
    rw [sequences, found]
    by_cases here : other = slot
    · rw [here, update_self]
      simp
    · rw [update_of_ne here]
      simp [here]
  by_cases done : (before.switch.sequences slot).pinsDone = true
  · have answers := drops done
    rw [if_pos done] at calls
    have counted := tidied.counted
    by_cases steady : before.switch.state = .steady
    · rw [if_pos steady] at counted ⊢
      refine counted.idle calls (unpinKeys_idle fun pair member answered => ?_) nofun
      exact ((answers pair member).mp answered).1 steady
    · rw [if_neg steady] at counted ⊢
      have consistent : before.Consistent reply slot := fun pair member => by
        rw [answers pair member]
        exact and_iff_right steady
      refine counted.release calls consistent (tidied.apart.nodup slot inRange live) live done
        (List.mem_range.mpr inRange) fun key => ?_
      constructor
      · rintro ⟨other, member, holds⟩
        obtain ⟨different, held⟩ := (holding other key).mp holds
        refine ⟨⟨other, member, held⟩, fun here => ?_⟩
        exact tidied.apart.others slot inRange other (List.mem_range.mp member)
          (Ne.symm different) live held.1 key
          here.2.2.1 held.2.2.1
      · rintro ⟨⟨other, member, held⟩, notHere⟩
        refine ⟨other, member, (holding other key).mpr ⟨?_, held⟩⟩
        rintro rfl
        exact notHere held
  · rw [if_neg done] at calls
    refine tidied.counted.idle calls nofun fun other _ key => ?_
    rw [holding]
    refine and_iff_right_of_imp ?_
    rintro held rfl
    exact done held.2.1

/-- No pin is left of a sequence that has completed. -/
theorem Tidied.released (tidied : after.Tidied) (apart : Apart before.switch)
    (inRange : slot < before.switch.configuration.maxSequences)
    (live : (before.switch.sequences slot).state ≠ .free)
    (sequences : after.switch.sequences = update before.switch.sequences slot
      { before.switch.sequences slot with state := .free, resumeClass := .pending, keys := [] })
    (configuration : after.switch.configuration = before.switch.configuration) :
    ∀ key ∈ (before.switch.sequences slot).keys, balance TierCall.effect after.calls key = 0 := by
  intro key has
  refine tidied.counted.zero ?_
  split
  · exact nofun
  · rintro other member ⟨otherLive, -, otherHas, -⟩
    have otherInRange := List.mem_range.mp member
    rw [configuration] at otherInRange
    rw [sequences] at otherLive otherHas
    by_cases here : other = slot
    · rw [here, update_self] at otherLive
      exact otherLive rfl
    · rw [update_of_ne here] at otherLive otherHas
      exact apart.others slot inRange other otherInRange (Ne.symm here) live otherLive key has
        otherHas

/-- One step of a tidy run. -/
theorem Tidied.perform (tidied : world.Tidied) (step : Step) (tidy : world.Tidy step) :
    (world.perform step).Tidied ∧ world.Released step := by
  have counted := tidied.counted
  cases step with
  | trackSequence sequenceId recipeId =>
    refine ⟨?_, trivial⟩
    unfold World.perform
    dsimp only
    rcases trackSequence_cases world.switch sequenceId recipeId with same | ⟨steady, -, slot, -,
      tracked⟩
    · rw [same]
      exact tidied
    · rw [tracked]
      rw [if_pos steady] at counted
      refine tidied.edit rfl rfl rfl rfl ?_ ?_ nofun fun busy => absurd steady busy
      · rw [if_pos steady]
        exact counted.idle (List.append_nil _).symm nofun nofun
      · exact tidied.apart.edit rfl rfl (fun _ => List.nodup_nil) fun _ _ _ _ _ key member =>
          absurd member List.not_mem_nil
  | setSequenceKv sequenceId positionTokens contentHashes =>
    refine ⟨?_, trivial⟩
    unfold World.perform
    dsimp only
    rcases setSequenceKv_cases world.switch sequenceId positionTokens contentHashes with
      ⟨-, same⟩ | ⟨slot, found, unchecked, accepted, given⟩
    · rw [same]
      exact tidied
    · obtain ⟨inRange, live, -⟩ := findSequence_some found
      obtain ⟨undone, nodup, others⟩ := tidy accepted slot inRange found
      rw [given]
      refine tidied.edit rfl rfl rfl rfl ?_ ?_ ?_ fun _ _ => ⟨live, id⟩
      · refine counted.idle (List.append_nil _).symm nofun fun other _ key => ?_
        unfold Holding
        dsimp only [World.withSwitch, Switch.setSequence]
        by_cases here : other = slot
        · rw [here, update_self, undone]
          simp
        · rw [update_of_ne here]
      · exact tidied.apart.edit rfl rfl (fun _ => nodup) fun _ => others
      · intro _ checkpointed
        exact absurd checkpointed (Bool.eq_false_iff.mp unchecked)
  | sequenceAtBoundary sequenceId =>
    refine ⟨?_, trivial⟩
    unfold World.perform Switch.sequenceAtBoundary
    dsimp only
    cases found : world.switch.findSequence sequenceId with
    | none => exact tidied
    | some slot =>
      obtain ⟨inRange, live, -⟩ := findSequence_some found
      dsimp only
      rw [if_pos rfl]
      refine tidied.edit rfl rfl rfl rfl ?_ ?_ (fun _ => tidied.flagged slot live) fun _ _ =>
        ⟨live, id⟩
      · refine counted.idle (List.append_nil _).symm nofun fun other _ key => ?_
        unfold Holding
        dsimp only [World.withSwitch, Switch.setSequence]
        by_cases here : other = slot
        · rw [here, update_self]
          simp [live]
        · rw [update_of_ne here]
      · exact tidied.apart.edit rfl rfl (fun _ => tidied.apart.nodup slot inRange live)
          fun _ other otherInRange different otherLive =>
            tidied.apart.others slot inRange other otherInRange (Ne.symm different) live otherLive
  | sequenceComplete sequenceId reply =>
    cases found : world.switch.findSequence sequenceId with
    | none =>
      refine ⟨?_, fun slot _ isFound => ?_⟩
      · unfold World.perform World.sequenceComplete
        dsimp only
        rw [found]
        exact tidied
      · rw [found] at isFound
        cases isFound
    | some slot =>
      obtain ⟨inRange, live, -⟩ := findSequence_some found
      have drops := tidy slot inRange found
      have shape : (world.perform (.sequenceComplete sequenceId reply)).calls = world.calls ++
            (if (world.switch.sequences slot).pinsDone = true then
              unpinKeys reply (world.switch.sequences slot).keys 0 else []) ∧
          (world.perform (.sequenceComplete sequenceId reply)).switch =
            { world.switch.setSequence slot
                { world.switch.sequences slot with state := .free, resumeClass := .pending, keys := [] } with
              sequenceCount := world.switch.sequenceCount - 1 } ∧
          (world.perform (.sequenceComplete sequenceId reply)).found = world.found := by
        unfold World.perform World.sequenceComplete
        dsimp only
        rw [found]
        dsimp only
        split
        · exact ⟨rfl, rfl, rfl⟩
        · exact ⟨(List.append_nil _).symm, rfl, rfl⟩
      obtain ⟨calls, switch, sameFound⟩ := shape
      have sequences := congrArg Switch.sequences switch
      have configuration := congrArg Switch.configuration switch
      have completed : (world.perform (.sequenceComplete sequenceId reply)).Tidied :=
        tidied.completes inRange live drops calls sequences configuration (by rw [switch]; rfl)
          (by rw [switch]; rfl) sameFound
      refine ⟨completed, fun other _ isFound => ?_⟩
      cases found.symm.trans isFound
      exact completed.released tidied.apart inRange live sequences configuration
  | beginSwitch target =>
    refine ⟨?_, trivial⟩
    unfold World.perform
    dsimp only
    rcases beginSwitch_cases world.switch target with refused | ⟨accepted, steady, begun⟩
    · rw [if_neg refused]
      exact tidied
    · have undone := tidy accepted
      rw [if_pos accepted, begun]
      rw [if_pos steady] at counted
      refine ⟨?_, ⟨tidied.apart.nodup, tidied.apart.others⟩, tidied.flagged, nofun, nofun, nofun⟩
      refine ⟨counted.always, fun key => (counted.held key).trans (iff_of_false (by simp) ?_)⟩
      rintro ⟨slot, member, live, done, -⟩
      change slot ∈ world.switch.slots at member
      have isUndone := undone slot (List.mem_range.mp member) live
      change (world.switch.sequences slot).pinsDone = true at done
      rw [isUndone] at done
      cases done
  | advance replies => exact ⟨tidied.advance tidy, trivial⟩

end Completing

section Runs

instance (world : World) (reply : Nat → SparkStatus) (slot : Nat) :
    Decidable (world.Drops reply slot) :=
  inferInstanceAs (Decidable (∀ pair ∈ (world.switch.sequences slot).keys.zipIdx,
    (reply pair.2 = .ok ↔ world.switch.state ≠ .steady ∧ pair.1 ∈ world.found slot)))

instance (world : World) (slot : Nat) (keys : List UInt64) : Decidable (world.Own slot keys) :=
  letI _apart (other : Nat) : Decidable ((world.switch.sequences other).state ≠ .free →
    ∀ key ∈ keys, key ∉ (world.switch.sequences other).keys) :=
    @instDecidableForall _ _ inferInstance (List.decidableBAll _ keys)
  inferInstanceAs (Decidable (_ ∧ ∀ other < _, other ≠ slot → _ → _))

instance (world : World) (step : Step) : Decidable (world.Tidy step) :=
  match step with
  | .setSequenceKv .. => inferInstanceAs (Decidable (_ = _ → ∀ slot < _, _ = some slot → _ = false ∧ _))
  | .sequenceComplete .. => inferInstanceAs (Decidable (∀ slot < _, _ = some slot → _ = true → _))
  | .beginSwitch _ => inferInstanceAs (Decidable (_ = _ → ∀ slot < _, _ ≠ _ → _ = false))
  | .advance _ => inferInstanceAs (Decidable (_ ≠ _ → ∀ slot < _, _ ≠ _ → (_ = false → _) ∧ ∀ pair ∈ _, (_ ↔ _)))
  | .trackSequence .. | .sequenceAtBoundary _ => .isTrue trivial

variable {configuration : Configuration} {start : World}

theorem initializeSwitch_tidied (accepted : initializeSwitch configuration = .ok start) :
    start.Tidied := by
  unfold initializeSwitch at accepted
  split at accepted
  · cases accepted
  · cases accepted
    refine Tidied.of_steady ⟨AlwaysUnit.nil _, fun key => ?_⟩ rfl ⟨fun _ _ live => absurd rfl live,
      fun _ _ _ _ _ live => absurd rfl live⟩ fun _ live => absurd rfl live
    exact iff_of_false Int.zero_ne_one nofun

/-- In a tidy run every balance is zero or one at every moment, it is zero in a steady switch, and a
sequence that completes leaves none of its pins. -/
theorem run_balanced (accepted : initializeSwitch configuration = .ok start) (steps : List Step)
    (tidy : Along perform Tidy steps start) :
    (∀ taken, taken <+: steps → AlwaysUnit TierCall.effect (taken.foldl perform start).calls ∧
      ((taken.foldl perform start).switch.state = .steady →
        ∀ key, balance TierCall.effect (taken.foldl perform start).calls key = 0)) ∧
      Along perform Released steps start := by
  have tidied := initializeSwitch_tidied accepted
  have keeps : ∀ (world : World) (step : Step), world.Tidied → world.Tidy step →
      (world.perform step).Tidied :=
    fun _ step tidied tidy => (tidied.perform step tidy).1
  constructor
  · rintro taken ⟨later, rfl⟩
    have counted := (tidy.append.1.foldl keeps tidied).counted
    refine ⟨counted.always, fun steady key => ?_⟩
    rw [if_pos steady] at counted
    exact counted.zero nofun
  · exact tidy.map keeps (fun _ step tidied tidy => (tidied.perform step tidy).2) tidied

theorem switchOnce_balanced :
    (∀ taken, taken <+: switchOnce →
      AlwaysUnit TierCall.effect (taken.foldl perform started).calls ∧
      ((taken.foldl perform started).switch.state = .steady →
        ∀ key, balance TierCall.effect (taken.foldl perform started).calls key = 0)) ∧
      Along perform Released switchOnce started :=
  run_balanced (show initializeSwitch small = .ok started from rfl) switchOnce (by decide +kernel)

/-- A sequence that completes after the switch is unpinned twice. -/
theorem completeAfter_unbalanced :
    ¬ ∀ (configuration : Configuration) (start : World) (steps : List Step),
    initializeSwitch configuration = .ok start →
    AlwaysUnit TierCall.effect (steps.foldl perform start).calls := by
  intro always
  have range := always small started (switchOnce ++ [.sequenceComplete 1 fun _ => .ok]) rfl _
    (List.prefix_refl _)
    (kvKey small.kvNamespace 7)
  revert range
  decide +kernel

end Runs

end World

end Sparkpipe.TopologySwitch
