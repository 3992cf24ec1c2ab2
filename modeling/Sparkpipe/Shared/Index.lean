import Mathlib.Data.Fintype.Pi
import Mathlib.Logic.Function.Basic
import Sparkpipe.Status

/-!
# The shared page index

`include/sparkpipe/spark_kv_shared_index.h`: an index of page slots in memory that several
processes share. Each process has a holder number, and a slot has three words that say
who may do what with it: its state, its writer and its holders. Nothing is locked. Every
word is read and written by itself, so a call is a sequence of atomic steps, and the steps
of different processes come in any order.

A `Pc` names the atomic step that a process takes next, with the variables of its call
that are still needed. A step reads what it needs and writes at most one word. The 64-bit
generations and the clock are counts that are taken not to wrap.
-/

namespace Sparkpipe.KvSharedIndex

open Function

section Words

/-- A holder number, below `SPARK_KV_SHARED_INDEX_HOLDERS_MAX`. -/
abbrev Holder := Fin 63

/-- `SparkKvSharedIndexBit`. -/
def bit (holder : Holder) : BitVec 64 := 1#64 <<< holder.val

/-- `SPARK_KV_SHARED_INDEX_RECLAIM_LOCK`. -/
def reclaimLock : BitVec 64 := 1#64 <<< 63

/-- `SPARK_KV_SHARED_NO_SLOT`. -/
def noSlot : UInt32 := 0xffffffff

/-- `SPARK_KV_SHARED_SLOT_*`. -/
inductive SlotState where
  | free
  | writing
  | ready
  deriving DecidableEq

/-- What a page is published with: its identity, in words, and where it comes from. -/
structure Publication where
  identity : Fin 4 → UInt64 := fun _ => 0
  tokenCount : UInt32 := 0
  parentSlot : UInt32 := 0
  parentGeneration : UInt64 := 0
  deriving DecidableEq

/-- `SparkKvSharedIndexSlot`; `none` as the writer is `SPARK_KV_SHARED_NO_HOLDER`. Its generation has 64 bits, and a slot
is claimed fewer than 2^64 times. -/
structure Slot where
  state : SlotState := .free
  writer : Option Holder := none
  holders : BitVec 64 := 0
  generation : Nat := 0
  lastUse : Nat := 0
  published : Publication := { parentSlot := noSlot }

/-- The index in memory: its slots, and the clock of its header. -/
structure Memory where
  slots : Nat → Slot := fun _ => {}
  clock : Nat := 1

/-- The store of one word of a slot. -/
inductive Write where
  | state (value : SlotState)
  | writer (value : Option Holder)
  | holders (value : BitVec 64)
  | generation (value : Nat)
  | lastUse (value : Nat)
  | identity (word : Fin 4) (value : UInt64)
  | tokenCount (value : UInt32)
  | parentSlot (value : UInt32)
  | parentGeneration (value : UInt64)

def Slot.write (slot : Slot) : Write → Slot
  | .state value => { slot with state := value }
  | .writer value => { slot with writer := value }
  | .holders value => { slot with holders := value }
  | .generation value => { slot with generation := value }
  | .lastUse value => { slot with lastUse := value }
  | .identity word value =>
    { slot with published := { slot.published with identity := update slot.published.identity word value } }
  | .tokenCount value => { slot with published := { slot.published with tokenCount := value } }
  | .parentSlot value => { slot with published := { slot.published with parentSlot := value } }
  | .parentGeneration value => { slot with published := { slot.published with parentGeneration := value } }

end Words

section Calls

/-- `SparkKvSharedIndexView`. -/
structure View where
  generation : Nat
  published : Publication
  deriving DecidableEq

/-- What `SparkKvSharedIndexFind` looks for. -/
structure Query where
  identity : Fin 4 → UInt64
  tokenCount : UInt32
  deriving DecidableEq

/-- A call of the interface. -/
inductive Call where
  | reserve
  | publish (slot : Nat) (publication : Publication)
  | abandon (slot : Nat)
  | acquire (slot generation : Nat)
  | release (slot : Nat)
  | read (slot : Nat)
  | find (query : Query)

/-- What the calls have come to. -/
inductive Event where
  | reserved (self : Holder) (slot generation : Nat)
  | published (self : Holder) (slot : Nat) (publication : Publication)
  | abandoned (self : Holder) (slot : Nat)
  | acquired (self : Holder) (slot generation : Nat)
  | released (self : Holder) (slot : Nat)
  | viewed (self : Holder) (slot : Nat) (view : View)
  | found (self : Holder) (query : Query) (slot : Nat) (view : View)

/-- The variables of the loop that looks for a victim. -/
structure Scan where
  victim : Option Nat := none
  oldest : Nat := 2 ^ 64 - 1

/-- The steps of `SparkKvSharedIndexReserve`, up to the claim. -/
inductive ReserveStep where
  | loadFree (slot : Nat)
  | takeFree (slot : Nat)
  | loadState (slot : Nat) (scan : Scan)
  | loadHolders (slot : Nat) (scan : Scan)
  | loadLastUse (slot : Nat) (scan : Scan)
  | reloadLastUse (slot : Nat)
  | lock (victim : Nat)
  | take (victim : Nat)
  | unlock (victim : Nat)

/-- The steps of `SparkKvSharedIndexClaim`. -/
inductive ClaimStep where
  | generation
  | writer (generation : Nat)
  | holders (generation : Nat)
  | parentSlot (generation : Nat)

/-- The steps of `SparkKvSharedIndexPublish`; the first two are those of `SparkKvSharedIndexWriting`. -/
inductive PublishStep where
  | loadState
  | loadWriter
  | identity (word : Fin 4)
  | tokenCount
  | parentSlot
  | parentGeneration
  | clock
  | lastUse (now : Nat)
  | writer
  | state

/-- The steps of `SparkKvSharedIndexAbandon`; the first two are those of `SparkKvSharedIndexWriting`. -/
inductive AbandonStep where
  | loadState
  | loadWriter
  | holders
  | writer
  | state

/-- The steps of `SparkKvSharedIndexAcquire`. -/
inductive AcquireStep where
  | holders
  | loadState
  | loadGeneration
  | undo
  | clock
  | lastUse (now : Nat)

/-- The steps of `SparkKvSharedIndexRelease`. -/
inductive ReleaseStep where
  | clock
  | lastUse (now : Nat)
  | holders

/-- The steps of `SparkKvSharedIndexRead`, with the view as far as it has been filled. -/
inductive ReadStep where
  | generation
  | state (before : Nat)
  | identity (view : View) (word : Fin 4)
  | tokenCount (view : View)
  | parentSlot (view : View)
  | parentGeneration (view : View)
  | stateAgain (view : View)
  | generationAgain (view : View)

/-- The atomic step that comes next; a read is made for a search, or by itself. -/
inductive Pc where
  | idle
  | reserve (step : ReserveStep)
  | claim (slot : Nat) (step : ClaimStep)
  | publish (slot : Nat) (publication : Publication) (step : PublishStep)
  | abandon (slot : Nat) (step : AbandonStep)
  | acquire (slot generation : Nat) (step : AcquireStep)
  | release (slot : Nat) (step : ReleaseStep)
  | find (slot : Nat) (query : Query)
  | read (slot : Nat) (query : Option Query) (step : ReadStep)

/-- What an atomic step does: the word it writes, whether it advances the clock, the step after it, and
what the call has come to when that is its last one. -/
structure Act where
  write : Option (Nat × Write) := none
  tick : Bool := false
  next : Pc
  event : Option Event := none

end Calls

section Steps

variable (slotCount : Nat)

/-- The search for a victim from a slot on; at the end of the loop there is one to lock, or the call
returns `SPARK_STATUS_CAPACITY_EXCEEDED`. -/
def victimFrom (slot : Nat) (scan : Scan) : Pc :=
  if slot < slotCount then .reserve (.loadState slot scan)
  else
    match scan.victim with
    | none => .idle
    | some victim => .reserve (.lock victim)

/-- The search for a free slot from a slot on. -/
def freeFrom (slot : Nat) : Pc := if slot < slotCount then .reserve (.loadFree slot) else victimFrom slotCount 0 {}

/-- The search of `SparkKvSharedIndexFind` from a slot on. -/
def findFrom (slot : Nat) (query : Query) : Pc := if slot < slotCount then .find slot query else .idle

/-- `SparkKvSharedIndexRead` returns 0. -/
def readFailed (slot : Nat) : Option Query → Pc
  | none => .idle
  | some query => findFrom slotCount (slot + 1) query

/-- The checks of `SparkKvSharedIndexPublish` on its arguments. -/
def publicationValid (publication : Publication) : Bool :=
  publication.tokenCount ≠ 0 && (publication.parentSlot = noSlot || publication.parentSlot.toNat < slotCount)

/-- The first step of a call. -/
def Call.start : Call → Pc
  | .reserve => freeFrom slotCount 0
  | .publish slot publication => if slot < slotCount then .publish slot publication .loadState else .idle
  | .abandon slot => if slot < slotCount then .abandon slot .loadState else .idle
  | .acquire slot generation => if slot < slotCount then .acquire slot generation .holders else .idle
  | .release slot => if slot < slotCount then .release slot .clock else .idle
  | .read slot => if slot < slotCount then .read slot none .generation else .idle
  | .find query => findFrom slotCount 0 query

variable (self : Holder) (memory : Memory)

def ReserveStep.act : ReserveStep → Act
  | .loadFree slot =>
    { next := if (memory.slots slot).state = .free then .reserve (.takeFree slot) else freeFrom slotCount (slot + 1) }
  | .takeFree slot =>
    if (memory.slots slot).state = .free then
      { write := some (slot, .state .writing), next := .claim slot .generation }
    else { next := freeFrom slotCount (slot + 1) }
  | .loadState slot scan =>
    { next := if (memory.slots slot).state = .ready then .reserve (.loadHolders slot scan)
        else victimFrom slotCount (slot + 1) scan }
  | .loadHolders slot scan =>
    { next := if (memory.slots slot).holders = 0 then .reserve (.loadLastUse slot scan)
        else victimFrom slotCount (slot + 1) scan }
  | .loadLastUse slot scan =>
    { next := if (memory.slots slot).lastUse < scan.oldest then .reserve (.reloadLastUse slot)
        else victimFrom slotCount (slot + 1) scan }
  | .reloadLastUse slot =>
    { next := victimFrom slotCount (slot + 1) { victim := some slot, oldest := (memory.slots slot).lastUse } }
  | .lock victim =>
    if (memory.slots victim).holders = 0 then
      { write := some (victim, .holders reclaimLock), next := .reserve (.take victim) }
    else { next := victimFrom slotCount 0 {} }
  | .take victim =>
    if (memory.slots victim).state = .ready then
      { write := some (victim, .state .writing), next := .claim victim .generation }
    else { next := .reserve (.unlock victim) }
  | .unlock victim => { write := some (victim, .holders 0), next := victimFrom slotCount 0 {} }

def ClaimStep.act (slot : Nat) : ClaimStep → Act
  | .generation =>
    { write := some (slot, .generation ((memory.slots slot).generation + 1))
      next := .claim slot (.writer ((memory.slots slot).generation + 1)) }
  | .writer claimed => { write := some (slot, .writer (some self)), next := .claim slot (.holders claimed) }
  | .holders claimed => { write := some (slot, .holders (bit self)), next := .claim slot (.parentSlot claimed) }
  | .parentSlot claimed =>
    { write := some (slot, .parentSlot noSlot), next := .idle, event := some (.reserved self slot claimed) }

/-- The next word of the identity, or what comes after the last. -/
def nextWord (word : Fin 4) (again : Fin 4 → Pc) (after : Pc) : Pc :=
  if more : word.val + 1 < 4 then again ⟨word.val + 1, more⟩ else after

def PublishStep.act (slot : Nat) (publication : Publication) : PublishStep → Act
  | .loadState =>
    { next := if (memory.slots slot).state = .writing then .publish slot publication .loadWriter else .idle }
  | .loadWriter =>
    { next := if (memory.slots slot).writer = some self ∧ publicationValid slotCount publication then
        .publish slot publication (.identity 0) else .idle }
  | .identity word =>
    { write := some (slot, .identity word (publication.identity word))
      next := nextWord word (fun word => .publish slot publication (.identity word))
        (.publish slot publication .tokenCount) }
  | .tokenCount =>
    { write := some (slot, .tokenCount publication.tokenCount), next := .publish slot publication .parentSlot }
  | .parentSlot =>
    { write := some (slot, .parentSlot publication.parentSlot), next := .publish slot publication .parentGeneration }
  | .parentGeneration =>
    { write := some (slot, .parentGeneration publication.parentGeneration)
      next := .publish slot publication .clock }
  | .clock => { tick := true, next := .publish slot publication (.lastUse memory.clock) }
  | .lastUse now => { write := some (slot, .lastUse now), next := .publish slot publication .writer }
  | .writer => { write := some (slot, .writer none), next := .publish slot publication .state }
  | .state => { write := some (slot, .state .ready), next := .idle, event := some (.published self slot publication) }

def AbandonStep.act (slot : Nat) : AbandonStep → Act
  | .loadState => { next := if (memory.slots slot).state = .writing then .abandon slot .loadWriter else .idle }
  | .loadWriter => { next := if (memory.slots slot).writer = some self then .abandon slot .holders else .idle }
  | .holders => { write := some (slot, .holders 0), next := .abandon slot .writer }
  | .writer => { write := some (slot, .writer none), next := .abandon slot .state }
  | .state => { write := some (slot, .state .free), next := .idle }

def AcquireStep.act (slot generation : Nat) : AcquireStep → Act
  | .holders =>
    { write := some (slot, .holders ((memory.slots slot).holders ||| bit self))
      next :=
        if (memory.slots slot).holders &&& bit self ≠ 0 then .idle
        else if (memory.slots slot).holders &&& reclaimLock ≠ 0 then .acquire slot generation .undo
        else .acquire slot generation .loadState }
  | .loadState =>
    { next := .acquire slot generation (if (memory.slots slot).state = .ready then .loadGeneration else .undo) }
  | .loadGeneration =>
    { next := .acquire slot generation (if (memory.slots slot).generation = generation then .clock else .undo) }
  | .undo => { write := some (slot, .holders ((memory.slots slot).holders &&& ~~~bit self)), next := .idle }
  | .clock => { tick := true, next := .acquire slot generation (.lastUse memory.clock) }
  | .lastUse now =>
    { write := some (slot, .lastUse now), next := .idle, event := some (.acquired self slot generation) }

def ReleaseStep.act (slot : Nat) : ReleaseStep → Act
  | .clock => { tick := true, next := .release slot (.lastUse memory.clock) }
  | .lastUse now => { write := some (slot, .lastUse now), next := .release slot .holders }
  | .holders => { write := some (slot, .holders ((memory.slots slot).holders &&& ~~~bit self)), next := .idle }

/-- `SparkKvSharedIndexRead` returns 1: the read is over, or the search has found the slot or goes on. -/
def readDone (slot : Nat) (view : View) : Option Query → Act
  | none => { next := .idle, event := some (.viewed self slot view) }
  | some query =>
    if view.published.tokenCount = query.tokenCount ∧ view.published.identity = query.identity then
      { next := .idle, event := some (.found self query slot view) }
    else { next := findFrom slotCount (slot + 1) query }

def ReadStep.act (slot : Nat) (query : Option Query) : ReadStep → Act
  | .generation => { next := .read slot query (.state (memory.slots slot).generation) }
  | .state before =>
    { next := if (memory.slots slot).state = .ready then .read slot query (.identity ⟨before, {}⟩ 0)
        else readFailed slotCount slot query }
  | .identity view word =>
    let view := { view with published := { view.published with
      identity := update view.published.identity word ((memory.slots slot).published.identity word) } }
    { next := nextWord word (fun word => .read slot query (.identity view word))
        (.read slot query (.tokenCount view)) }
  | .tokenCount view =>
    { next := .read slot query (.parentSlot { view with published := { view.published with
        tokenCount := (memory.slots slot).published.tokenCount } }) }
  | .parentSlot view =>
    { next := .read slot query (.parentGeneration { view with published := { view.published with
        parentSlot := (memory.slots slot).published.parentSlot } }) }
  | .parentGeneration view =>
    { next := .read slot query (.stateAgain { view with published := { view.published with
        parentGeneration := (memory.slots slot).published.parentGeneration } }) }
  | .stateAgain view =>
    { next := if (memory.slots slot).state = .ready then .read slot query (.generationAgain view)
        else readFailed slotCount slot query }
  | .generationAgain view =>
    if (memory.slots slot).generation = view.generation then readDone slotCount self slot view query
    else { next := readFailed slotCount slot query }

/-- What an atomic step does. -/
def Pc.act : Pc → Act
  | .idle => { next := .idle }
  | .reserve step => step.act slotCount memory
  | .claim slot step => step.act self memory slot
  | .publish slot publication step => step.act slotCount self memory slot publication
  | .abandon slot step => step.act self memory slot
  | .acquire slot generation step => step.act self memory slot generation
  | .release slot step => step.act self memory slot
  | .find slot query =>
    { next := if (memory.slots slot).published.identity 0 = query.identity 0 then
        .read slot (some query) .generation else findFrom slotCount (slot + 1) query }
  | .read slot query step => step.act slotCount self memory slot query

/-- The memory after an atomic step. -/
def Memory.perform (act : Act) : Memory where
  slots :=
    match act.write with
    | none => memory.slots
    | some (slot, write) => update memory.slots slot ((memory.slots slot).write write)
  clock := if act.tick then memory.clock + 1 else memory.clock

end Steps

section Interleaving

/-- The memory, where each process is, and what the calls have come to, the latest first. -/
structure System where
  memory : Memory := {}
  pc : Holder → Pc := fun _ => .idle
  log : List Event := []

/-- A slot of the memory. -/
def System.slot (system : System) (index : Nat) : Slot := system.memory.slots index

/-- A process that is in no call begins one, or one that is in a call takes its next step. -/
inductive Move where
  | call (self : Holder) (call : Call)
  | go (self : Holder)

/-- Releasing and abandoning are over for the caller as soon as they are called. -/
def Call.event (self : Holder) : Call → Option Event
  | .abandon slot => some (.abandoned self slot)
  | .release slot => some (.released self slot)
  | _ => none

/-- A process begins a call. -/
def System.enter (slotCount : Nat) (system : System) (self : Holder) (call : Call) : System where
  memory := system.memory
  pc := update system.pc self (call.start slotCount)
  log := (call.event self).toList ++ system.log

/-- A process takes its next step. -/
def System.take (slotCount : Nat) (system : System) (self : Holder) : System :=
  let act := (system.pc self).act slotCount self system.memory
  { memory := system.memory.perform act
    pc := update system.pc self act.next
    log := act.event.toList ++ system.log }

/-- One move of the system; a call is begun only by a process that is in none. -/
def System.step (slotCount : Nat) (system : System) : Move → System
  | .call self call =>
    match system.pc self with
    | .idle => system.enter slotCount self call
    | _ => system
  | .go self => system.take slotCount self

/-- The moves of the processes, in the order they come. -/
def run (slotCount : Nat) (moves : List Move) : System := moves.foldl (System.step slotCount) {}

end Interleaving

section Recovery

/-- One slot of the loop of `SparkKvSharedIndexClearHolder`, and whether it has been freed. -/
def clearSlot (holder : Holder) (slot : Slot) : Slot × Bool :=
  let slot := { slot with holders := slot.holders &&& ~~~bit holder }
  if slot.state = .writing ∧ slot.writer = some holder then
    ({ slot with holders := 0, writer := none, state := .free }, true)
  else (slot, false)

/-- `SparkKvSharedIndexClearHolder`, with the count it returns. -/
def clearHolder (slotCount : Nat) (holder : Holder) (memory : Memory) : Memory × Nat :=
  (List.range slotCount).foldl (fun (memory, freed) index =>
    let (slot, wasFreed) := clearSlot holder (memory.slots index)
    ({ memory with slots := update memory.slots index slot }, if wasFreed then freed + 1 else freed))
    (memory, 0)

end Recovery

end Sparkpipe.KvSharedIndex
