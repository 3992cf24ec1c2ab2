import Mathlib.Data.List.FinRange
import Mathlib.Logic.Function.Basic
import Sparkpipe.Status

/-!
# The node's ledger of cached bytes

One file, mapped by every process of a node and changed under its lock, holds the quota of the
node and a slot for each directory: which process holds it and how many bytes it counts for.
Each operation below is one locked section. What the sections read from outside the file are
parameters: the start time of a process, zero when there is none, and whether a directory is
there.
-/

namespace Sparkpipe.KvLedger

/-- `SPARK_KV_LEDGER_SLOTS`. -/
def slotCount : Nat := 128

/-- `SPARK_KV_LEDGER_DIRECTORY_BYTES`, with the byte that ends the name. -/
def directoryBytes : Nat := 512

/-- `SPARK_KV_LEDGER_NO_OLDEST`. -/
def noOldest : UInt64 := 0xffffffffffffffff

/-- The name of a directory, as the bytes of a C string. -/
abbrev Directory := List UInt8

/-- A directory the ledger takes: an absolute name that fits in a slot. -/
def Directory.Admissible (directory : Directory) : Prop :=
  directory.head? = some 47 ∧ directory.length < directoryBytes

instance (directory : Directory) : Decidable directory.Admissible :=
  inferInstanceAs (Decidable (directory.head? = some 47 ∧ directory.length < directoryBytes))

/-- `SPARK_KV_LEDGER_KIND_SNAPSHOT` and `SPARK_KV_LEDGER_KIND_BACKING`; a free slot has none. -/
inductive Kind where
  | snapshot
  | backing
  deriving DecidableEq

/-- `SparkKvLedgerSlot`; the default is the cleared slot. -/
structure Slot where
  kind : Option Kind := none
  pid : Nat := 0
  pidStart : Nat := 0
  bytes : UInt64 := 0
  oldestUsedSeconds : UInt64 := 0
  evictRequestBytes : UInt64 := 0
  directory : Directory := []

/-- `SparkKvLedgerFile`, without the words that only its opening checks. -/
structure File where
  quotaBytes : UInt64
  slots : Fin slotCount → Slot

/-- `SparkKvLedgerUsage`. -/
structure Usage where
  quotaBytes : UInt64
  usedBytes : UInt64 := 0
  snapshotBytes : UInt64 := 0
  backingBytes : UInt64 := 0
  snapshotSlots : Nat := 0
  backingSlots : Nat := 0

/-- `SparkKvLedgerVictim`; the default names no slot. -/
structure Victim where
  slot : Option (Fin slotCount) := none
  live : Bool := false
  shortfallBytes : UInt64 := 0
  oldestUsedSeconds : UInt64 := 0
  directory : Directory := []

/-- What `SparkKvLedgerProcessStart` reads: zero for a process that is not there. -/
abbrev Starts := Nat → Nat

namespace Slot

/-- `SparkKvLedgerSlotLive`. -/
def live (starts : Starts) (slot : Slot) : Bool :=
  slot.pid ≠ 0 && slot.pidStart ≠ 0 && starts slot.pid == slot.pidStart

/-- `SparkKvLedgerSlotCounted`. -/
def counted (starts : Starts) (slot : Slot) : Bool :=
  slot.kind == some .snapshot || (slot.kind == some .backing && slot.live starts)

/-- `SparkKvLedgerReusable`. -/
def reusable (starts : Starts) (present : Directory → Bool) (slot : Slot) : Bool :=
  match slot.kind with
  | none => true
  | some kind => !slot.live starts && (kind == .backing || !present slot.directory)

end Slot

namespace File

def setSlot (file : File) (index : Fin slotCount) (slot : Slot) : File :=
  { file with slots := Function.update file.slots index slot }

/-- `SparkKvLedgerFind`. -/
def find (file : File) (kind : Kind) (directory : Directory) : Option (Fin slotCount) :=
  (List.finRange slotCount).find? fun index =>
    (file.slots index).kind == some kind && (file.slots index).directory == directory

/-- The slot that `SparkKvLedgerAllocate` clears. -/
def findReusable (starts : Starts) (present : Directory → Bool) (file : File) : Option (Fin slotCount) :=
  (List.finRange slotCount).find? fun index => (file.slots index).reusable starts present

/-- `SparkKvLedgerAllocate`. -/
def allocate (starts : Starts) (present : Directory → Bool) (kind : Kind) (directory : Directory) (file : File) :
    Option (Fin slotCount × File) :=
  (file.findReusable starts present).map fun index =>
    (index, file.setSlot index { kind := some kind, oldestUsedSeconds := noOldest, directory })

/-- The slot of a directory, allocated when it has none. -/
def findOrAllocate (starts : Starts) (present : Directory → Bool) (kind : Kind) (directory : Directory) (file : File) :
    Option (Fin slotCount × File) :=
  match file.find kind directory with
  | some index => some (index, file)
  | none => file.allocate starts present kind directory

/-- What `SparkKvLedgerJoin` writes to the slot of the process that joins. -/
def hold (starts : Starts) (pid : Nat) (kind : Kind) (index : Fin slotCount) (file : File) : File :=
  let slot := { file.slots index with pid, pidStart := starts pid, evictRequestBytes := 0 }
  file.setSlot index (if kind = .backing then { slot with bytes := 0, oldestUsedSeconds := noOldest } else slot)

/-- `SparkKvLedgerJoin`, called by a process: a refusal leaves the file as it was. -/
def join (starts : Starts) (present : Directory → Bool) (pid : Nat) (kind : Kind) (directory : Directory) (file : File) :
    Except SparkStatus (Fin slotCount × File) :=
  if ¬ directory.Admissible then .error .invalidArgument
  else if ((file.find kind directory).any fun index => (file.slots index).live starts) then .error .busy
  else match file.findOrAllocate starts present kind directory with
    | none => .error .capacityExceeded
    | some (index, file) => .ok (index, file.hold starts pid kind index)

/-- `SparkKvLedgerLeave`. -/
def leave (index : Fin slotCount) (file : File) : File :=
  if (file.slots index).kind = some .backing then file.setSlot index {}
  else file.setSlot index { file.slots index with pid := 0, pidStart := 0 }

/-- `SparkKvLedgerPublish`. -/
def publish (index : Fin slotCount) (bytes oldestUsedSeconds : UInt64) (file : File) : File :=
  file.setSlot index { file.slots index with bytes, oldestUsedSeconds }

/-- `SparkKvLedgerRecord`: what a purge leaves in a directory that no live process holds. -/
def record (starts : Starts) (present : Directory → Bool) (directory : Directory)
    (bytes oldestUsedSeconds : UInt64) (file : File) : SparkStatus × File :=
  if ¬ directory.Admissible then (.invalidArgument, file)
  else
    let found := if bytes ≠ 0 then file.findOrAllocate starts present .snapshot directory
      else (file.find .snapshot directory).map fun index => (index, file)
    match found with
    | none => (if bytes ≠ 0 then .capacityExceeded else .ok, file)
    | some (index, file) =>
      if (file.slots index).live starts then (.ok, file)
      else (.ok, file.setSlot index { file.slots index with
        pid := 0
        pidStart := 0
        bytes
        oldestUsedSeconds := if bytes ≠ 0 then oldestUsedSeconds else noOldest
        evictRequestBytes := 0 })

/-- One turn of the loop of `SparkKvLedgerUsedLocked`. -/
def countSlot (starts : Starts) (file : File) (usage : Usage) (index : Fin slotCount) : Usage :=
  let slot := file.slots index
  if ¬ slot.counted starts then usage
  else if slot.kind = some .snapshot then
    { usage with
      snapshotBytes := usage.snapshotBytes + slot.bytes
      snapshotSlots := usage.snapshotSlots + 1 }
  else
    { usage with
      backingBytes := usage.backingBytes + slot.bytes
      backingSlots := usage.backingSlots + 1 }

/-- `SparkKvLedgerUsedLocked`. -/
def usedLocked (starts : Starts) (file : File) : Usage :=
  let usage := (List.finRange slotCount).foldl (file.countSlot starts) { quotaBytes := file.quotaBytes }
  { usage with usedBytes := usage.snapshotBytes + usage.backingBytes }

/-- The slot that `SparkKvLedgerReserve` chooses: the snapshots that were used longest ago. -/
def chooseVictim (file : File) : Option (Fin slotCount) :=
  (List.finRange slotCount).foldl (fun chosen index =>
    let candidate := file.slots index
    if candidate.kind ≠ some .snapshot ∨ candidate.bytes = 0 ∨ candidate.oldestUsedSeconds = noOldest then chosen
    else match chosen with
      | none => some index
      | some best =>
        if candidate.oldestUsedSeconds < (file.slots best).oldestUsedSeconds then some index else chosen) none

/-- `SparkKvLedgerReserve`. -/
def reserve (starts : Starts) (index : Fin slotCount) (ownBytes incomingBytes ownOldestSeconds : UInt64)
    (file : File) : SparkStatus × File × Victim :=
  let file := file.publish index ownBytes ownOldestSeconds
  let usage := file.usedLocked starts
  if incomingBytes ≤ usage.quotaBytes ∧ usage.usedBytes ≤ usage.quotaBytes - incomingBytes then
    (.ok, file.setSlot index { file.slots index with bytes := ownBytes + incomingBytes }, {})
  else
    let shortfallBytes :=
      if incomingBytes > usage.quotaBytes then incomingBytes else usage.usedBytes + incomingBytes - usage.quotaBytes
    match if incomingBytes ≤ usage.quotaBytes then file.chooseVictim else none with
    | none => (.capacityExceeded, file, { shortfallBytes })
    | some chosen => (.capacityExceeded, file,
        { slot := some chosen
          live := chosen = index || (file.slots chosen).live starts
          shortfallBytes
          oldestUsedSeconds := (file.slots chosen).oldestUsedSeconds
          directory := (file.slots chosen).directory })

/-- `SparkKvLedgerRequest`. -/
def request (victim : Victim) (file : File) : File :=
  match victim.slot with
  | none => file
  | some index =>
    let slot := file.slots index
    if slot.kind = some .snapshot ∧ slot.directory = victim.directory ∧ slot.evictRequestBytes < victim.shortfallBytes then
      file.setSlot index { slot with evictRequestBytes := victim.shortfallBytes }
    else file

/-- The oldest use among the snapshots of the other slots. -/
def othersOldest (index : Fin slotCount) (file : File) : UInt64 :=
  (List.finRange slotCount).foldl (fun oldest other =>
    let slot := file.slots other
    if other ≠ index ∧ slot.kind = some .snapshot ∧ slot.bytes ≠ 0 ∧ slot.oldestUsedSeconds < oldest then
      slot.oldestUsedSeconds
    else oldest) noOldest

/-- `SparkKvLedgerTakeRequest`: what is asked, the oldest use of the others, and the file with
the request taken. -/
def takeRequest (index : Fin slotCount) (file : File) : UInt64 × UInt64 × File :=
  let slot := file.slots index
  let taken := file.setSlot index { slot with evictRequestBytes := 0 }
  (slot.evictRequestBytes, taken.othersOldest index, taken)

/-- A slot that `SparkKvLedgerForgetMissing` clears. -/
def forgotten (starts : Starts) (present : Directory → Bool) (slot : Slot) : Bool :=
  slot.kind.isSome && slot.reusable starts present

/-- `SparkKvLedgerForgetMissing`. -/
def forgetMissing (starts : Starts) (present : Directory → Bool) (file : File) : File :=
  { file with slots := fun index =>
      if forgotten starts present (file.slots index) then {} else file.slots index }

end File

end Sparkpipe.KvLedger
