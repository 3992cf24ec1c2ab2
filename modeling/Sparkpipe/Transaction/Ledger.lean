import Sparkpipe.Status
import Sparkpipe.Lib.Least

/-!
# The transaction ledger

`runtime/work_transaction.c`: the transactions that a node has seen, in a table of fixed
capacity with linear probing. The place of an identity is found from the fingerprint of its
bytes. When every place on the way is taken, the terminal entry that was observed the
longest time ago is given up; a higher control generation empties the whole table.
-/

namespace Sparkpipe.WorkTransaction

/-- `SparkWorkTransactionIdentity`. -/
structure Identity where
  controlGeneration : UInt64 := 0
  transactionId : UInt64 := 0
  dispatchGeneration : UInt64 := 0
  requestGeneration : UInt64 := 0
  stepGeneration : UInt64 := 0
  stepChunkIndex : UInt32 := 0
  stepChunkCount : UInt32 := 0
  phase : UInt32 := 0
  reserved0 : UInt32 := 0
  deriving DecidableEq

/-- The bytes of an integer in memory, the lowest first. -/
def littleEndian (count value : Nat) : List UInt8 :=
  (List.range count).map fun place => UInt8.ofNat (value / 256 ^ place % 256)

/-- The memory of an identity. -/
def Identity.bytes (identity : Identity) : List UInt8 :=
  littleEndian 8 identity.controlGeneration.toNat ++ littleEndian 8 identity.transactionId.toNat ++
    littleEndian 8 identity.dispatchGeneration.toNat ++ littleEndian 8 identity.requestGeneration.toNat ++
    littleEndian 8 identity.stepGeneration.toNat ++ littleEndian 4 identity.stepChunkIndex.toNat ++
    littleEndian 4 identity.stepChunkCount.toNat ++ littleEndian 4 identity.phase.toNat ++
    littleEndian 4 identity.reserved0.toNat

def fingerprintOffset : UInt64 := 14695981039346656037

def fingerprintPrime : UInt64 := 1099511628211

/-- `SparkWorkTransactionFingerprintBytes`. -/
def fingerprintBytes (bytes : List UInt8) : UInt64 :=
  if bytes = [] then 0
  else
    let hash := bytes.foldl (fun hash byte => (hash ^^^ byte.toUInt64) * fingerprintPrime) fingerprintOffset
    if hash = 0 then 1 else hash

/-- `SparkWorkTransactionPhaseIsValid`: the known phases are prefill to cancel. -/
def phaseIsValid (phase : UInt32) : Bool := 1 ≤ phase && phase ≤ 5

/-- `SparkWorkTransactionValidateIdentity`. -/
def Identity.isValid (identity : Identity) : Bool :=
  identity.controlGeneration ≠ 0 && identity.transactionId ≠ 0 && identity.dispatchGeneration ≠ 0 &&
    identity.requestGeneration ≠ 0 && identity.stepGeneration ≠ 0 && identity.stepChunkCount ≠ 0 &&
    identity.stepChunkIndex < identity.stepChunkCount && phaseIsValid identity.phase &&
    identity.reserved0 = 0

/-- The state of an entry. -/
inductive State where
  | empty
  | prepared
  | accepted
  | executing
  | committed
  | cancelled
  | failed
  | tombstone
  deriving DecidableEq

namespace State

/-- `SparkWorkTransactionStateIsStored`. -/
def isStored : State → Bool
  | empty | tombstone => false
  | _ => true

/-- `SparkWorkTransactionStateIsTerminal`. -/
def isTerminal : State → Bool
  | committed | cancelled | failed => true
  | _ => false

/-- Stored and not terminal. -/
def isActive (state : State) : Bool := state.isStored && !state.isTerminal

/-- `SparkWorkTransactionTransitionIsLegal`. -/
def transitionIsLegal (current target : State) : Bool :=
  if current = target then true
  else match current with
    | prepared => target = accepted || target = cancelled || target = failed
    | accepted => target = executing || target = cancelled || target = failed
    | executing => target = committed || target = cancelled || target = failed
    | _ => false

end State

/-- `SparkWorkTransactionEntry`. -/
structure Entry where
  identity : Identity := {}
  payloadFingerprint : UInt64 := 0
  lastObservedEpoch : Nat := 0
  state : State := .empty
  terminalStatus : SparkStatus := .ok

/-- What an observation found. -/
inductive Observation where
  | new
  | replayActive
  | replayTerminal
  | conflict
  deriving DecidableEq

/-- `SparkWorkTransactionLedger`. -/
structure Ledger where
  entryCapacity : Nat
  entries : Nat → Entry := fun _ => {}
  entryCount : Nat := 0
  activeEntryCount : Nat := 0
  terminalEntryCount : Nat := 0
  tombstoneEntryCount : Nat := 0
  epoch : Nat := 0
  activeControlGeneration : UInt64 := 0

/-- `SparkWorkTransactionInitializeLedger`. -/
def initializeLedger (entryCapacity : Nat) : Except SparkStatus Ledger :=
  if entryCapacity = 0 then .error .invalidArgument else .ok { entryCapacity := entryCapacity }

/-- What `SparkWorkTransactionObserve` leaves. -/
structure Observed where
  status : SparkStatus
  ledger : Ledger
  entry : Option Nat := none
  observation : Option Observation := none

namespace Ledger

variable (ledger : Ledger) (identity : Identity)

/-- `SparkWorkTransactionValidateLedger`. -/
def isValid : Bool :=
  ledger.entryCapacity ≠ 0 && ledger.entryCount ≤ ledger.entryCapacity &&
    ledger.activeEntryCount ≤ ledger.entryCount && ledger.terminalEntryCount ≤ ledger.entryCount &&
    ledger.tombstoneEntryCount ≤ ledger.entryCapacity &&
    ledger.activeEntryCount + ledger.terminalEntryCount = ledger.entryCount

section Probing

/-- `SparkWorkTransactionIdentityStartIndex`. -/
def identityStartIndex : Nat := (fingerprintBytes identity.bytes).toNat % ledger.entryCapacity

/-- The entry at a distance from the start; the sum has 32 bits. -/
def probe (distance : Nat) : Nat :=
  (ledger.identityStartIndex identity + distance) % 2 ^ 32 % ledger.entryCapacity

/-- The entries in the order in which they are probed. -/
def probes : List Nat := (List.range ledger.entryCapacity).map (ledger.probe identity)

/-- The loop of `SparkWorkTransactionFindInternal`. -/
def findAlong : List Nat → Option Nat
  | [] => none
  | index :: rest =>
    if (ledger.entries index).state = .empty then none
    else if (ledger.entries index).state ≠ .tombstone ∧ (ledger.entries index).identity = identity then
      some index
    else findAlong rest

/-- `SparkWorkTransactionFindInternal`; `none` is `SPARK_STATUS_NOT_FOUND`. -/
def findInternal : Option Nat := ledger.findAlong identity (ledger.probes identity)

/-- The loop of `SparkWorkTransactionSelectInsertionEntry`, and whether a tombstone is reused. -/
def selectAlong : List Nat → Option Nat → Option (Nat × Bool)
  | [], none => none
  | [], some tombstone => some (tombstone, true)
  | index :: rest, first =>
    if (ledger.entries index).state = .tombstone ∧ first = none then selectAlong rest (some index)
    else if (ledger.entries index).state = .empty then
      match first with
      | none => some (index, false)
      | some tombstone => some (tombstone, true)
    else selectAlong rest first

/-- `SparkWorkTransactionSelectInsertionEntry`; `none` is `SPARK_STATUS_CAPACITY_EXCEEDED`. -/
def selectInsertionEntry : Option (Nat × Ledger) :=
  (ledger.selectAlong (ledger.probes identity) none).map fun selected =>
    (selected.1, if selected.2 then { ledger with tombstoneEntryCount := ledger.tombstoneEntryCount - 1 }
      else ledger)

end Probing

section Table

/-- Write one entry. -/
def setEntry (index : Nat) (entry : Entry) : Ledger :=
  { ledger with entries := Function.update ledger.entries index entry }

/-- `SparkWorkTransactionResetLedger`. -/
def resetLedger (controlGeneration : UInt64) : Ledger :=
  { entryCapacity := ledger.entryCapacity
    activeControlGeneration := controlGeneration }

/-- `SparkWorkTransactionPrepareControlGeneration`. -/
def prepareControlGeneration (controlGeneration : UInt64) : SparkStatus × Ledger :=
  if ledger.activeControlGeneration = 0 then (.ok, ledger.resetLedger controlGeneration)
  else if controlGeneration = ledger.activeControlGeneration then (.ok, ledger)
  else if controlGeneration < ledger.activeControlGeneration then (.validationFailed, ledger)
  else if ledger.activeEntryCount ≠ 0 then (.busy, ledger)
  else (.ok, ledger.resetLedger controlGeneration)

/-- The epoch counts with 64 bits and is never zero again. -/
def advanceEpoch : Ledger :=
  { ledger with
    epoch := if (ledger.epoch + 1) % 2 ^ 64 = 0 then 1 else (ledger.epoch + 1) % 2 ^ 64 }

/-- The terminal entry that was observed the longest time ago. -/
def oldestTerminalEntry : Option Nat :=
  leastRanked (fun index => (ledger.entries index).state.isTerminal)
    (fun index => (ledger.entries index).lastObservedEpoch) (List.range ledger.entryCapacity) (2 ^ 64 - 1) none

/-- `SparkWorkTransactionRecycleOldestTerminalEntry`; `none` is `SPARK_STATUS_CAPACITY_EXCEEDED`. -/
def recycleOldestTerminalEntry : Option Ledger :=
  ledger.oldestTerminalEntry.map fun index =>
    { ledger.setEntry index { state := .tombstone } with
      entryCount := ledger.entryCount - 1
      terminalEntryCount := ledger.terminalEntryCount - 1
      tombstoneEntryCount := ledger.tombstoneEntryCount + 1 }

/-- The end of `SparkWorkTransactionObserve`: a new entry. -/
def insertEntry (payloadFingerprint : UInt64) (index : Nat) : Ledger :=
  { ledger.setEntry index
      { identity := identity
        payloadFingerprint := payloadFingerprint
        lastObservedEpoch := ledger.epoch
        state := .prepared
        terminalStatus := .pending } with
    entryCount := ledger.entryCount + 1
    activeEntryCount := ledger.activeEntryCount + 1 }

end Table

section Calls

/-- The part of `SparkWorkTransactionObserve` for an identity that is not in the table. -/
def observeNew (payloadFingerprint : UInt64) : Observed :=
  let insert := fun (room : Nat × Ledger) => ({
    status := .ok
    ledger := room.2.insertEntry identity payloadFingerprint room.1
    entry := some room.1
    observation := some .new } : Observed)
  match ledger.selectInsertionEntry identity with
  | some room => insert room
  | none =>
    match ledger.recycleOldestTerminalEntry with
    | none => { status := .capacityExceeded, ledger := ledger }
    | some recycled =>
      match recycled.selectInsertionEntry identity with
      | none => { status := .capacityExceeded, ledger := recycled }
      | some room => insert room

/-- The part of `SparkWorkTransactionObserve` for an identity that is in the table. -/
def observeAgain (payloadFingerprint : UInt64) (index : Nat) : Observed :=
  let entry := ledger.entries index
  let observed := ledger.setEntry index { entry with lastObservedEpoch := ledger.epoch }
  if entry.payloadFingerprint ≠ payloadFingerprint then
    { status := .validationFailed, ledger := observed, entry := some index, observation := some .conflict }
  else
    { status := .ok
      ledger := observed
      entry := some index
      observation := some (if entry.state.isTerminal then .replayTerminal else .replayActive) }

/-- `SparkWorkTransactionObserve`. -/
def observe (payloadFingerprint : UInt64) : Observed :=
  if payloadFingerprint = 0 ∨ ledger.isValid = false ∨ identity.isValid = false then
    { status := .invalidArgument, ledger := ledger }
  else
    let prepared := ledger.prepareControlGeneration identity.controlGeneration
    if prepared.1 ≠ .ok then { status := prepared.1, ledger := prepared.2 }
    else
      let ledger := prepared.2.advanceEpoch
      match ledger.findInternal identity with
      | some index => ledger.observeAgain payloadFingerprint index
      | none => ledger.observeNew identity payloadFingerprint

/-- The change of an entry that a legal transition makes. -/
def moveEntry (index : Nat) (target : State) (terminalStatus : SparkStatus) : Ledger :=
  let moved := ledger.advanceEpoch.setEntry index { ledger.entries index with
    lastObservedEpoch := ledger.advanceEpoch.epoch
    state := target
    terminalStatus := if target.isTerminal then terminalStatus else .pending }
  if target.isTerminal then
    { moved with
      activeEntryCount := ledger.activeEntryCount - 1
      terminalEntryCount := ledger.terminalEntryCount + 1 }
  else moved

/-- `SparkWorkTransactionTransition`. -/
def transition (target : State) (terminalStatus : SparkStatus) : SparkStatus × Ledger :=
  if ledger.isValid = false ∨ identity.isValid = false ∨ target.isStored = false then
    (.invalidArgument, ledger)
  else match ledger.findInternal identity with
    | none => (.notFound, ledger)
    | some index =>
      let entry := ledger.entries index
      if entry.state.isTerminal then
        (if entry.state = target ∧ entry.terminalStatus = terminalStatus then .duplicate
          else .invalidArgument, ledger)
      else if entry.state.transitionIsLegal target = false then (.invalidArgument, ledger)
      else (.ok, ledger.moveEntry index target terminalStatus)

/-- `SparkWorkTransactionFind`. -/
def find : SparkStatus × Option Nat :=
  if ledger.isValid = false ∨ identity.isValid = false then (.invalidArgument, none)
  else match ledger.findInternal identity with
    | none => (.notFound, none)
    | some index => (.ok, some index)

end Calls

end Ledger

end Sparkpipe.WorkTransaction
