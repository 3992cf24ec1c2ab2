import Sparkpipe.Status
import Mathlib.Data.List.Range
import Mathlib.Logic.Function.Basic

/-!
# The topology switch

`scheduler/topology_switch.c`: a rank changes from one recipe to another while it has sequences.
The sequences run to their next token boundary, their blocks are pinned in the NVMe tier and
each gets a manifest there, the swap device changes the weights, and then every sequence is
classified and its pins are dropped. The tier and the devices answer each call as they like.
-/

namespace Sparkpipe.TopologySwitch

/-- The state of a sequence. -/
inductive SequenceState where
  | free
  | active
  | atBoundary
  deriving DecidableEq

/-- `SparkTopologySwitchState`. -/
inductive SwitchState where
  | steady
  | quiesce
  | checkpoint
  | swap
  | resume
  deriving DecidableEq

/-- `SparkTopologySwitchResumeClass`. -/
inductive ResumeClass where
  | pending
  | warm
  | recompute
  deriving DecidableEq

/-- `TopologySwitchSequence`, with the first `block_count` keys of its row. -/
structure Sequence where
  sequenceId : UInt64 := 0
  recipeId : UInt64 := 0
  positionTokens : Nat := 0
  keys : List UInt64 := []
  state : SequenceState := .free
  resumeClass : ResumeClass := .pending
  pinsDone : Bool := false
  checkpointed : Bool := false

/-- What a manifest block holds. -/
structure Manifest where
  sequenceId : UInt64
  recipeId : UInt64
  positionTokens : Nat
  keys : List UInt64
  deriving DecidableEq

/-- The manifest of a sequence as it is. -/
def Sequence.manifest (sequence : Sequence) : Manifest where
  sequenceId := sequence.sequenceId
  recipeId := sequence.recipeId
  positionTokens := sequence.positionTokens
  keys := sequence.keys

/-- `SparkTopologySwitchConfiguration`, what the switch reads of it. -/
structure Configuration where
  kvNamespace : UInt64
  maxSequences : Nat
  maxBlocksPerSequence : Nat
  initialRecipe : UInt64

/-- `SparkTopologySwitch`. -/
structure Switch where
  configuration : Configuration
  sequences : Nat → Sequence := fun _ => {}
  currentRecipe : UInt64
  targetRecipe : UInt64
  state : SwitchState := .steady
  sequenceCount : Nat := 0
  phaseCursor : Nat := 0
  swapStarted : Bool := false
  lastError : SparkStatus := .ok

/-- A call into the tier, with what it was about and what it answered. -/
inductive TierCall where
  | pin (key : UInt64) (status : SparkStatus)
  | unpin (key : UInt64) (status : SparkStatus)
  | reserveWrite (manifest : Manifest) (status : SparkStatus)
  | writeBlock (manifest : Manifest) (status : SparkStatus)
  | abortWrite (manifest : Manifest)
  | commitWrite (manifest : Manifest) (status : SparkStatus)
  deriving DecidableEq

/-- What the tier and the devices answer during one call: about a block of a sequence, about the
manifest of a sequence, or about the swap. -/
structure Replies where
  pin : Nat → Nat → SparkStatus := fun _ _ => .ok
  unpin : Nat → Nat → SparkStatus := fun _ _ => .ok
  offsetOf : Nat → Nat → SparkStatus := fun _ _ => .ok
  reserveWrite : Nat → SparkStatus := fun _ => .ok
  alreadyPresent : Nat → Bool := fun _ => false
  writeBlock : Nat → SparkStatus := fun _ => .ok
  commitWrite : Nat → SparkStatus := fun _ => .ok
  beginSwap : SparkStatus := .ok
  pollSwap : SparkStatus := .ok

/-- A switch and what an observer of it has noted: the calls into the tier, how many there were at
the last `Begin`, the boundaries reported since then, and the blocks that the tier had of each
sequence when they were pinned. -/
structure World where
  switch : Switch
  calls : List TierCall := []
  since : Nat := 0
  boundaries : List UInt64 := []
  found : Nat → List UInt64 := fun _ => []

section Keys

/-- `SparkHashBytes` of the eight bytes of an integer. -/
def hashWord (hash word : UInt64) : UInt64 :=
  (List.range 8).foldl (fun hash place =>
    (hash ^^^ UInt64.ofNat (word.toNat / 256 ^ place % 256)) * 1099511628211) hash

/-- `SparkTopologySwitchKvKey`. -/
def kvKey (kvNamespace contentHash : UInt64) : UInt64 := hashWord kvNamespace contentHash ||| 1

end Keys

namespace Switch

variable (switch : Switch)

/-- The slots of the sequence table. -/
def slots : List Nat := List.range switch.configuration.maxSequences

/-- `TopologySwitchFindSequence`. -/
def findSequence (sequenceId : UInt64) : Option Nat :=
  switch.slots.find? fun slot =>
    (switch.sequences slot).state ≠ .free && (switch.sequences slot).sequenceId = sequenceId

/-- Write one sequence. -/
def setSequence (slot : Nat) (sequence : Sequence) : Switch :=
  { switch with sequences := Function.update switch.sequences slot sequence }

/-- `SparkTopologySwitchTrackSequence`. -/
def trackSequence (sequenceId recipeId : UInt64) : SparkStatus × Switch :=
  if sequenceId = 0 then (.invalidArgument, switch)
  else if switch.state ≠ .steady then (.busy, switch)
  else if recipeId ≠ switch.currentRecipe then (.invalidArgument, switch)
  else if (switch.findSequence sequenceId).isSome then (.duplicate, switch)
  else match switch.slots.find? fun slot => (switch.sequences slot).state = .free with
    | none => (.capacityExceeded, switch)
    | some slot => (.ok, { switch.setSequence slot
        { sequenceId := sequenceId, recipeId := recipeId, state := .active } with
        sequenceCount := switch.sequenceCount + 1 })

/-- `SparkTopologySwitchSetSequenceKv`. -/
def setSequenceKv (sequenceId : UInt64) (positionTokens : Nat) (contentHashes : List UInt64) :
    SparkStatus × Switch :=
  if switch.configuration.maxBlocksPerSequence < contentHashes.length then (.capacityExceeded, switch)
  else match switch.findSequence sequenceId with
    | none => (.notFound, switch)
    | some slot =>
      if (switch.sequences slot).checkpointed then (.busy, switch)
      else (.ok, switch.setSequence slot { switch.sequences slot with
        keys := contentHashes.map (kvKey switch.configuration.kvNamespace)
        positionTokens := positionTokens })

/-- `SparkTopologySwitchSequenceAtBoundary`. -/
def sequenceAtBoundary (sequenceId : UInt64) : SparkStatus × Switch :=
  match switch.findSequence sequenceId with
  | none => (.notFound, switch)
  | some slot => (.ok, switch.setSequence slot { switch.sequences slot with state := .atBoundary })

/-- `SparkTopologySwitchBegin`. -/
def beginSwitch (target : UInt64) : SparkStatus × Switch :=
  if target = 0 then (.invalidArgument, switch)
  else if switch.state ≠ .steady then (.busy, switch)
  else if target = switch.currentRecipe then (.invalidArgument, switch)
  else (.ok, { switch with
    targetRecipe := target
    state := .quiesce
    phaseCursor := 0
    swapStarted := false
    lastError := .ok })

/-- `TopologySwitchQuiesceDrained`. -/
def quiesceDrained : Bool := switch.slots.all fun slot => (switch.sequences slot).state ≠ .active

end Switch

/-- The loop of `TopologySwitchCheckpointOne` that pins the blocks from an index on. -/
def pinKeys (reply : Nat → SparkStatus) : List UInt64 → Nat → SparkStatus × List TierCall
  | [], _ => (.ok, [])
  | key :: rest, index =>
    if reply index ≠ .notFound ∧ reply index ≠ .ok then (reply index, [.pin key (reply index)])
    else
      let later := pinKeys reply rest (index + 1)
      (later.1, .pin key (reply index) :: later.2)

/-- The loops that drop the pins of the blocks from an index on. -/
def unpinKeys (reply : Nat → SparkStatus) : List UInt64 → Nat → List TierCall
  | [], _ => []
  | key :: rest, index => .unpin key (reply index) :: unpinKeys reply rest (index + 1)

/-- The block that a call has pinned. -/
def TierCall.pinned : TierCall → Option UInt64
  | .pin key .ok => some key
  | _ => none

namespace World

variable (world : World) (replies : Replies)

/-- The world with another switch. -/
def withSwitch (switch : Switch) : World := { world with switch := switch }

/-- The world with further calls into the tier. -/
def called (calls : List TierCall) : World := { world with calls := world.calls ++ calls }

/-- `SparkTopologySwitchSequenceComplete`. -/
def sequenceComplete (reply : Nat → SparkStatus) (sequenceId : UInt64) : SparkStatus × World :=
  match world.switch.findSequence sequenceId with
  | none => (.notFound, world)
  | some slot =>
    let sequence := world.switch.sequences slot
    let unpinned := if sequence.pinsDone then world.called (unpinKeys reply sequence.keys 0) else world
    (.ok, unpinned.withSwitch { world.switch.setSequence slot
      { sequence with state := .free, resumeClass := .pending, keys := [] } with
      sequenceCount := world.switch.sequenceCount - 1 })

section Checkpoint

/-- The manifest write of `TopologySwitchCheckpointOne`. -/
def writeManifest (slot : Nat) : SparkStatus × World :=
  let sequence := world.switch.sequences slot
  let manifest := sequence.manifest
  let checkpointed := world.withSwitch (world.switch.setSequence slot { sequence with checkpointed := true })
  if replies.reserveWrite slot ≠ .ok then
    (replies.reserveWrite slot, world.called [.reserveWrite manifest (replies.reserveWrite slot)])
  else if replies.alreadyPresent slot then (.ok, checkpointed.called [.reserveWrite manifest .ok])
  else if replies.writeBlock slot ≠ .ok then
    (replies.writeBlock slot, world.called [.reserveWrite manifest .ok,
      .writeBlock manifest (replies.writeBlock slot), .abortWrite manifest])
  else if replies.commitWrite slot ≠ .ok then
    (replies.commitWrite slot, world.called [.reserveWrite manifest .ok, .writeBlock manifest .ok,
      .commitWrite manifest (replies.commitWrite slot)])
  else (.ok, checkpointed.called [.reserveWrite manifest .ok, .writeBlock manifest .ok,
    .commitWrite manifest .ok])

/-- The pins of `TopologySwitchCheckpointOne`, unless they are done. -/
def pinSequence (slot : Nat) : SparkStatus × World :=
  let sequence := world.switch.sequences slot
  if sequence.pinsDone then (.ok, world)
  else
    let pins := pinKeys (replies.pin slot) sequence.keys 0
    let pinned := { world.called pins.2 with
      found := Function.update world.found slot (pins.2.filterMap TierCall.pinned) }
    if pins.1 ≠ .ok then (pins.1, pinned)
    else (.ok, pinned.withSwitch (world.switch.setSequence slot { sequence with pinsDone := true }))

/-- `TopologySwitchCheckpointOne`. -/
def checkpointOne (slot : Nat) : SparkStatus × World :=
  andThen (world.pinSequence replies slot) fun pinned => pinned.writeManifest replies slot

/-- The loop of `TopologySwitchCheckpointRun`, over the slots from the cursor on. -/
def checkpointFrom : List Nat → World → Bool × World
  | [], world => (true, world)
  | slot :: rest, world =>
    let next := world.withSwitch { world.switch with phaseCursor := slot + 1 }
    if (world.switch.sequences slot).state = .free ∨ (world.switch.sequences slot).checkpointed = true then
      checkpointFrom rest next
    else
      let done := next.checkpointOne replies slot
      if done.1 ≠ .ok then
        (false, done.2.withSwitch { done.2.switch with
          phaseCursor := slot
          lastError := done.1 })
      else checkpointFrom rest done.2

/-- `TopologySwitchCheckpointRun`: the answer is whether it has come to the end. -/
def checkpointRun : Bool × World :=
  checkpointFrom replies (world.switch.slots.drop world.switch.phaseCursor) world

end Checkpoint

section Advance

/-- `TopologySwitchResumeOne`. -/
def resumeOne (slot : Nat) : World :=
  let sequence := world.switch.sequences slot
  let warm := sequence.keys ≠ [] &&
    (List.range sequence.keys.length).all fun index => replies.offsetOf slot index = .ok
  (world.called (unpinKeys (replies.unpin slot) sequence.keys 0)).withSwitch
    (world.switch.setSequence slot { sequence with resumeClass := if warm then .warm else .recompute })

/-- The loop of the `RESUME` phase, over the slots from the cursor on. -/
def resumeFrom : List Nat → World → World
  | [], world => world
  | slot :: rest, world =>
    let next := world.withSwitch { world.switch with phaseCursor := slot + 1 }
    if (world.switch.sequences slot).state = .free then resumeFrom rest next
    else resumeFrom rest (next.resumeOne replies slot)

/-- The `RESUME` phase. -/
def resumePhase : World :=
  let resumed := resumeFrom replies (world.switch.slots.drop world.switch.phaseCursor) world
  resumed.withSwitch { resumed.switch with
    currentRecipe := resumed.switch.targetRecipe
    state := .steady
    lastError := .ok }

/-- The `SWAP` phase, and what follows. -/
def swapPhase : World :=
  if world.switch.swapStarted = false ∧ replies.beginSwap ≠ .ok then
    world.withSwitch { world.switch with lastError := replies.beginSwap }
  else
    let started := world.withSwitch { world.switch with swapStarted := true }
    if replies.pollSwap = .busy then started
    else if replies.pollSwap ≠ .ok then
      started.withSwitch { started.switch with lastError := replies.pollSwap }
    else (started.withSwitch { started.switch with
      state := .resume
      phaseCursor := 0 }).resumePhase replies

/-- The `CHECKPOINT` phase, and what follows. -/
def checkpointPhase : World :=
  let run := world.checkpointRun replies
  if run.1 = false then run.2
  else (run.2.withSwitch { run.2.switch with
    state := .swap
    swapStarted := false }).swapPhase replies

/-- The world in which the `CHECKPOINT` phase of this call starts, when it has one. -/
def checkpointStart : Option World :=
  match world.switch.state with
  | .quiesce =>
    if world.switch.quiesceDrained then some (world.withSwitch { world.switch with
      state := .checkpoint
      phaseCursor := 0 })
    else none
  | .checkpoint => some world
  | _ => none

/-- `SparkTopologySwitchAdvance`. -/
def advance : World :=
  match world.checkpointStart with
  | some start => start.checkpointPhase replies
  | none =>
    match world.switch.state with
    | .swap => world.swapPhase replies
    | .resume => world.resumePhase replies
    | _ => world

end Advance

end World

/-- A step of the switch's owner. -/
inductive Step where
  | trackSequence (sequenceId recipeId : UInt64)
  | setSequenceKv (sequenceId : UInt64) (positionTokens : Nat) (contentHashes : List UInt64)
  | sequenceAtBoundary (sequenceId : UInt64)
  | sequenceComplete (sequenceId : UInt64) (reply : Nat → SparkStatus)
  | beginSwitch (target : UInt64)
  | advance (replies : Replies)

namespace World

/-- The world after a step. -/
def perform (world : World) : Step → World
  | .trackSequence sequenceId recipeId => world.withSwitch (world.switch.trackSequence sequenceId recipeId).2
  | .setSequenceKv sequenceId positionTokens contentHashes =>
    world.withSwitch (world.switch.setSequenceKv sequenceId positionTokens contentHashes).2
  | .sequenceAtBoundary sequenceId =>
    let reported := world.switch.sequenceAtBoundary sequenceId
    if reported.1 = .ok then
      { world.withSwitch reported.2 with boundaries := sequenceId :: world.boundaries }
    else world
  | .sequenceComplete sequenceId reply => (world.sequenceComplete reply sequenceId).2
  | .beginSwitch target =>
    let begun := world.switch.beginSwitch target
    if begun.1 = .ok then
      { world.withSwitch begun.2 with
        since := world.calls.length
        boundaries := [] }
    else world
  | .advance replies => world.advance replies

end World

/-- `SparkTopologySwitchInitialize`, with what it asks of these fields. -/
def initializeSwitch (configuration : Configuration) : Except SparkStatus World :=
  if configuration.maxSequences = 0 ∨ configuration.maxBlocksPerSequence = 0 then .error .invalidArgument
  else .ok { switch := {
    configuration := configuration
    currentRecipe := configuration.initialRecipe
    targetRecipe := configuration.initialRecipe } }

end Sparkpipe.TopologySwitch
