import Mathlib.Algebra.GroupWithZero.Nat
import Sparkpipe.Cache.Ledger.Model

/-!
# The stores of a node

The processes of a node share the ledger. A store is a directory that a process holds: a snapshot
store counts its files in `used_bytes` and reserves room in the ledger before it writes one, and
a backing reserves its whole size once. The threads of a store meet under its own locks: the one
that holds the quota lock reads the bytes of the store, then reserves, then counts the file, and
between these sections the other threads evict and publish as they like. A step of the node is
one such section, or one locked section of the ledger.
-/

namespace Sparkpipe.KvLedger

/-- Where the thread that holds the quota lock of a store stands. -/
inductive Phase where
  | idle
  /-- The bytes of the store were read, to be reserved with. -/
  | sized (ownBytes : UInt64)
  /-- Room was reserved for a file that is not counted yet. -/
  | reserved (incomingBytes : UInt64)
  deriving DecidableEq

/-- The room that was reserved and is not counted in `used_bytes` yet. -/
def Phase.pending : Phase → Nat
  | .reserved incomingBytes => incomingBytes.toNat
  | _ => 0

/-- A store that a process holds open. -/
structure Store where
  kind : Kind
  directory : Directory
  pid : Nat
  slot : Fin slotCount
  usedBytes : UInt64 := 0
  /-- The bytes of the files in its index. -/
  entries : List UInt64 := []
  /-- The bytes of the files that are being written. -/
  writing : List UInt64 := []
  phase : Phase := .idle
  /-- Opening has published the files that its scan found. -/
  published : Bool := true

namespace Store

/-- The store that `SparkKvSnapshotStoreOpen` has joined with the files that its scan found, or
a backing that has joined. -/
def opened (kind : Kind) (directory : Directory) (pid : Nat) (slot : Fin slotCount) (found : List UInt64) : Store :=
  match kind with
  | .snapshot =>
    { kind, directory, pid, slot, entries := found, usedBytes := found.foldl (· + ·) 0, published := false }
  | .backing => { kind, directory, pid, slot }

/-- `SparkKvSnapshotPublishLocked`: a backing never publishes. -/
def publish (oldestUsedSeconds : UInt64) (file : File) (store : Store) : File × Store :=
  if store.kind = .snapshot then
    (file.publish store.slot store.usedBytes oldestUsedSeconds, { store with published := true })
  else (file, store)

/-- `SparkKvSnapshotOwnBytes`, read for a reservation. -/
def size (file : File) (store : Store) : File × Store :=
  if store.published ∧ store.phase = .idle then (file, { store with phase := .sized store.usedBytes })
  else (file, store)

/-- A turn of `SparkKvLedgerMakeRoom`: what was read is reserved with. -/
def reserve (starts : Starts) (incomingBytes ownOldestSeconds : UInt64) (file : File) (store : Store) : File × Store :=
  match store.phase with
  | .sized ownBytes =>
    let reserved := file.reserve starts store.slot ownBytes incomingBytes ownOldestSeconds
    (reserved.2.1, { store with phase := if reserved.1 = .ok then .reserved incomingBytes else .idle })
  | _ => (file, store)

/-- Opening asks for no room, to trim the store, and nothing is to be counted. -/
def trimmed (file : File) (store : Store) : File × Store :=
  if store.phase = .reserved 0 then (file, { store with phase := .idle }) else (file, store)

/-- `SparkKvSnapshotStoreFile` counts the file that it reserved room for. -/
def count (file : File) (store : Store) : File × Store :=
  match store.kind, store.phase with
  | .snapshot, .reserved incomingBytes =>
    (file, { store with
      usedBytes := store.usedBytes + incomingBytes
      writing := incomingBytes :: store.writing
      phase := .idle })
  | _, _ => (file, store)

/-- `SparkKvSnapshotStoreFile` has written a file or failed to: `SparkKvSnapshotIndexInsert`
counts it again when it is stored. -/
def finish (place : Nat) (stored : Bool) (file : File) (store : Store) : File × Store :=
  match store.writing[place]? with
  | none => (file, store)
  | some bytes =>
    let left := { store with
      usedBytes := store.usedBytes - bytes
      writing := store.writing.eraseIdx place }
    (file, if stored then { left with usedBytes := left.usedBytes + bytes, entries := bytes :: store.entries } else left)

/-- `SparkKvSnapshotIndexRemoveAt`, whether the file is evicted, expired, pruned or overwritten. -/
def evict (place : Nat) (file : File) (store : Store) : File × Store :=
  match store.entries[place]? with
  | none => (file, store)
  | some bytes => (file, { store with
      usedBytes := store.usedBytes - bytes
      entries := store.entries.eraseIdx place })

/-- `SparkKvSnapshotHonorLocked` takes what others ask of the store. -/
def takeRequest (file : File) (store : Store) : File × Store :=
  ((file.takeRequest store.slot).2.2, store)

/-- What the store takes of the node's quota. -/
def room (store : Store) : Nat := store.usedBytes.toNat + store.phase.pending

end Store

/-- The ledger, the processes of the node with the time each was started, and the stores that
live processes hold. -/
structure World where
  file : File
  starts : Starts := fun _ => 0
  /-- The last time at which a process was started. -/
  clock : Nat := 0
  stores : List Store := []

/-- A step of a process. A store is named by its place in the list, and what a section reads
from outside comes with the step. -/
inductive Step where
  | spawn (pid : Nat)
  | exit (pid : Nat)
  | join (pid : Nat) (kind : Kind) (directory : Directory) (found : List UInt64) (present : Directory → Bool)
  | publish (store : Nat) (oldestUsedSeconds : UInt64)
  | size (store : Nat)
  | reserve (store : Nat) (incomingBytes ownOldestSeconds : UInt64)
  | trimmed (store : Nat)
  | count (store : Nat)
  | finish (store place : Nat) (stored : Bool)
  | evict (store place : Nat)
  | leave (store : Nat)
  | takeRequest (store : Nat)
  | request (victim : Victim)
  | record (directory : Directory) (bytes oldestUsedSeconds : UInt64) (present : Directory → Bool)
  | forgetMissing (present : Directory → Bool)

namespace World

/-- A section of one store, on the store and the ledger. -/
def act (section_ : File → Store → File × Store) (index : Nat) (world : World) : World :=
  match world.stores[index]? with
  | none => world
  | some store =>
    let (file, store) := section_ world.file store
    { world with file, stores := world.stores.set index store }

/-- A process is started: its start time is not that of any process before it. -/
def spawn (pid : Nat) (world : World) : World :=
  if pid = 0 ∨ world.starts pid ≠ 0 then world
  else { world with starts := Function.update world.starts pid (world.clock + 1), clock := world.clock + 1 }

/-- A process ends, and its stores with it: its slots stay as they are. -/
def exit (pid : Nat) (world : World) : World :=
  { world with
    starts := Function.update world.starts pid 0
    stores := world.stores.filter fun store => store.pid ≠ pid }

/-- A process joins with a directory. -/
def join (pid : Nat) (kind : Kind) (directory : Directory) (found : List UInt64) (present : Directory → Bool)
    (world : World) : World :=
  if world.starts pid = 0 then world
  else match world.file.join world.starts present pid kind directory with
    | .error _ => world
    | .ok (slot, file) => { world with
        file
        stores := world.stores ++ [Store.opened kind directory pid slot found] }

/-- A store is closed. -/
def leave (index : Nat) (world : World) : World :=
  match world.stores[index]? with
  | none => world
  | some store => { world with
      file := world.file.leave store.slot
      stores := world.stores.eraseIdx index }

/-- One step of the node. -/
def perform (world : World) : Step → World
  | .spawn pid => world.spawn pid
  | .exit pid => world.exit pid
  | .join pid kind directory found present => world.join pid kind directory found present
  | .publish store oldestUsedSeconds => world.act (Store.publish oldestUsedSeconds) store
  | .size store => world.act Store.size store
  | .reserve store incomingBytes ownOldestSeconds =>
    world.act (Store.reserve world.starts incomingBytes ownOldestSeconds) store
  | .trimmed store => world.act Store.trimmed store
  | .count store => world.act Store.count store
  | .finish store place stored => world.act (Store.finish place stored) store
  | .evict store place => world.act (Store.evict place) store
  | .leave store => world.leave store
  | .takeRequest store => world.act Store.takeRequest store
  | .request victim => { world with file := world.file.request victim }
  | .record directory bytes oldestUsedSeconds present =>
    { world with file := (world.file.record world.starts present directory bytes oldestUsedSeconds).2 }
  | .forgetMissing present => { world with file := world.file.forgetMissing world.starts present }

/-- What the stores of the node take of its quota. -/
def room (world : World) : Nat := (world.stores.map Store.room).sum

end World

end Sparkpipe.KvLedger
