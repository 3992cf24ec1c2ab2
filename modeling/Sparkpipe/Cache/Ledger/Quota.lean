import Mathlib.Algebra.Order.BigOperators.Group.List
import Sparkpipe.Cache.Ledger.Holding
import Sparkpipe.Lib.Along

/-!
# The quota of the node

The word of a store in the ledger covers what the store takes of the quota: its files and the
room it reserved. Each section keeps that, but for one: a thread that publishes the bytes of the
store, between a reservation and the moment its file is counted, takes the reserved room out of
the ledger, and another store is given the same room.
-/

namespace Sparkpipe.KvLedger

open Function

variable {starts : Starts} {present : Directory → Bool} {file after : File} {index place : Nat}
variable {slot later : Slot} {store next : Store} {world : World}

/-- The bytes of some files. -/
def fileBytes (files : List UInt64) : Nat := (files.map UInt64.toNat).sum

@[simp] theorem fileBytes_cons (bytes : UInt64) (files : List UInt64) :
    fileBytes (bytes :: files) = bytes.toNat + fileBytes files := by
  rw [fileBytes, List.map_cons, List.sum_cons, fileBytes]

/-- Without one file, its bytes are gone. -/
theorem fileBytes_eraseIdx {files : List UInt64} {bytes : UInt64} (there : files[place]? = some bytes) :
    fileBytes (files.eraseIdx place) + bytes.toNat = fileBytes files := by
  induction files generalizing place with
  | nil => cases there
  | cons first rest ih =>
    cases place with
    | zero =>
      cases there
      rw [List.eraseIdx_cons_zero, fileBytes_cons, Nat.add_comm]
    | succ place =>
      rw [List.getElem?_cons_succ] at there
      have smaller := ih there
      rw [List.eraseIdx_cons_succ, fileBytes_cons, fileBytes_cons]
      omega

/-- A scan adds up the bytes of its files, as long as they fit. -/
theorem foldl_exact (files : List UInt64) (start : UInt64) (fits : start.toNat + fileBytes files < 2 ^ 64) :
    (files.foldl (· + ·) start).toNat = start.toNat + fileBytes files := by
  induction files generalizing start with
  | nil => rfl
  | cons bytes rest ih =>
    rw [fileBytes_cons] at fits ⊢
    have adds : (start + bytes).toNat = start.toNat + bytes.toNat := by
      rw [UInt64.toNat_add, Nat.mod_eq_of_lt (by omega)]
    rw [List.foldl_cons, ih (start + bytes) (by rw [adds]; omega), adds, Nat.add_assoc]

/-- A store that a live process holds, and the word of its slot: the slot is its own, and the
word covers what the store takes of the quota once opening has published it. -/
structure Store.Steady (starts : Starts) (slot : Slot) (store : Store) : Prop where
  isKind : slot.kind = some store.kind
  named : slot.directory = store.directory
  holder : slot.pid = store.pid
  start : slot.pidStart = starts store.pid
  alive : starts store.pid ≠ 0
  exact : store.usedBytes.toNat = fileBytes store.entries + fileBytes store.writing
  sized : ∀ ownBytes, store.phase = .sized ownBytes →
    store.usedBytes.toNat ≤ ownBytes.toNat ∧ ownBytes.toNat ≤ File.mostBytes
  covered : store.published = true → store.room ≤ slot.bytes.toNat
  opening : store.published = false → store.phase = .idle

/-- The stores and the ledger agree, and what the stores take is within the quota. -/
structure World.Sound (world : World) : Prop where
  steady : ∀ store ∈ world.stores, store.Steady world.starts (world.file.slots store.slot)
  apart : (world.stores.map Store.slot).Nodup
  directories : (world.stores.map Store.directory).Nodup
  unique : world.file.Unique
  dated : ∀ index, (world.file.slots index).pidStart ≤ world.clock
  started : ∀ pid, world.starts pid ≤ world.clock
  nobody : world.starts 0 = 0
  within : world.room ≤ world.file.quotaBytes.toNat
  quota : world.file.quotaBytes.toNat ≤ File.mostBytes
  fits : world.file.Fits

/-- The quota is kept, every sum of bytes is exact, and a directory has one holder. -/
structure World.Safe (world : World) : Prop where
  within : world.room ≤ world.file.quotaBytes.toNat
  counted : (world.file.usedLocked world.starts).usedBytes.toNat = world.file.total world.starts
  used : ∀ store ∈ world.stores, store.usedBytes.toNat = fileBytes store.entries + fileBytes store.writing
  holders : world.stores.Pairwise fun store other => store.directory ≠ other.directory

/-- The sums of a step fit 64 bits: those a reservation compares with the quota, and the one
that counts a file. -/
def World.SumsFit (world : World) : Step → Prop
  | .reserve index incomingBytes ownOldestSeconds =>
    ∀ store ∈ world.stores[index]?, ∀ ownBytes, store.phase = .sized ownBytes →
      let counted := (world.file.publish store.slot ownBytes ownOldestSeconds).total world.starts
      counted < 2 ^ 64 ∧ (incomingBytes ≤ world.file.quotaBytes → counted + incomingBytes.toNat < 2 ^ 64) ∧
        (counted + incomingBytes.toNat ≤ world.file.quotaBytes.toNat → ownBytes.toNat + incomingBytes.toNat < 2 ^ 64)
  | .count index =>
    ∀ store ∈ world.stores[index]?, store.usedBytes.toNat + store.phase.pending < 2 ^ 64
  | _ => True

/-- What a step has to meet. No publication comes between a reservation and the moment its file
is counted; no room is given away while a store that joined has not published what its scan found
beyond its word; a store that joins finds no more than the quota leaves, in a directory that
is not held as another kind; and a purge leaves no more than the most bytes. -/
def World.Orderly (world : World) : Step → Prop
  | .publish index _ =>
    ∀ store ∈ world.stores[index]?, store.kind = .snapshot → store.phase.pending = 0
  | .reserve index incomingBytes ownOldestSeconds =>
    ∀ store ∈ world.stores[index]?, ∀ ownBytes, store.phase = .sized ownBytes →
      let counted := (world.file.publish store.slot ownBytes ownOldestSeconds).total world.starts
      counted + incomingBytes.toNat ≤ world.file.quotaBytes.toNat → ∀ other ∈ world.stores,
        other.published = false → other.usedBytes.toNat ≤ (world.file.slots other.slot).bytes.toNat
  | .join pid kind directory found present =>
    world.starts pid ≠ 0 → ∀ slot file, world.file.join world.starts present pid kind directory = .ok (slot, file) →
      (∀ store ∈ world.stores, store.directory = directory → store.kind = kind) ∧
        (kind = .snapshot → world.room + fileBytes found ≤ world.file.quotaBytes.toNat)
  | .record _ bytes _ _ => bytes.toNat ≤ File.mostBytes
  | _ => True

instance Phase.decidableSized (phase : Phase) (P : UInt64 → Prop) [DecidablePred P] :
    Decidable (∀ ownBytes, phase = .sized ownBytes → P ownBytes) :=
  match phase with
  | .idle => .isTrue nofun
  | .reserved _ => .isTrue nofun
  | .sized ownBytes => decidable_of_iff (P ownBytes)
      ⟨fun holds _ same => Phase.sized.inj same ▸ holds, fun always => always ownBytes rfl⟩

instance File.decidableJoined (joined : Except SparkStatus (Fin slotCount × File)) (P : Fin slotCount → File → Prop)
    [∀ slot file, Decidable (P slot file)] : Decidable (∀ slot file, joined = .ok (slot, file) → P slot file) :=
  match joined with
  | .error _ => .isTrue nofun
  | .ok (slot, file) => decidable_of_iff (P slot file)
      ⟨fun holds _ _ same => by cases same; exact holds, fun always => always slot file rfl⟩

instance World.decidableOrderly (world : World) (step : Step) : Decidable (world.Orderly step) := by
  cases step <;> dsimp only [World.Orderly] <;> infer_instance

namespace Store.Steady

/-- Only the word of its slot, who holds it and its start matter to a store. -/
theorem congr {laterStarts : Starts} (steady : store.Steady starts slot) (same : slot.SameHolder later)
    (bytes : later.bytes = slot.bytes) (start : laterStarts store.pid = starts store.pid) :
    store.Steady laterStarts later where
  isKind := same.1.trans steady.isKind
  named := same.2.1.trans steady.named
  holder := same.2.2.1.trans steady.holder
  start := (same.2.2.2.trans steady.start).trans start.symm
  alive := start.trans_ne steady.alive
  exact := steady.exact
  sized := steady.sized
  covered := by
    rw [bytes]
    exact steady.covered
  opening := steady.opening

theorem live (steady : store.Steady starts slot) (nobody : starts 0 = 0) : slot.live starts = true := by
  have somebody : store.pid ≠ 0 := by
    intro zero
    exact steady.alive (zero ▸ nobody)
  have alive := steady.alive
  rw [Slot.live, steady.holder, steady.start]
  simp [somebody, alive]

theorem counted (steady : store.Steady starts slot) (nobody : starts 0 = 0) : slot.counted starts = true := by
  rw [Slot.counted, steady.isKind, steady.live nobody]
  cases store.kind <;> rfl

theorem used_le_room (store : Store) : store.usedBytes.toNat ≤ store.room := Nat.le_add_right _ _

end Store.Steady

namespace World.Sound

/-- The words of distinct stores add up to no more than what the ledger counts. -/
theorem words_le (sound : world.Sound) : (world.stores.map fun store =>
    (world.file.slots store.slot).bytes.toNat).sum ≤ world.file.total world.starts := by
  have counts : ∀ store ∈ world.stores, (world.file.slots store.slot).bytes.toNat =
      (world.file.slots store.slot).countedBytes world.starts :=
    fun store member => (Slot.countedBytes_of_counted ((sound.steady store member).counted sound.nobody)).symm
  rw [List.map_congr_left counts]
  have sums := world.file.sum_le_total world.starts sound.apart
  rw [List.map_map] at sums
  exact sums

theorem safe (sound : world.Sound) : world.Safe where
  within := sound.within
  counted := File.usedLocked_exact (Nat.lt_of_le_of_lt (Nat.le_add_right ..) (sound.fits.total_lt world.starts))
  used := fun store member => (sound.steady store member).exact
  holders := List.pairwise_map.mp sound.directories

/-- A store is in its place in the list, and writing it leaves the others. -/
theorem split (there : world.stores[index]? = some store) (next : Store) : ∃ before others,
    world.stores = before ++ store :: others ∧ world.stores.set index next = before ++ next :: others ∧
      world.stores.eraseIdx index = before ++ others := by
  obtain ⟨bound, isStore⟩ := List.getElem?_eq_some_iff.mp there
  have split_ : ∃ before others, world.stores = before ++ world.stores[index] :: others ∧ before.length = index ∧
      world.stores.set index next = before ++ next :: others := List.exists_of_set bound
  obtain ⟨before, others, whole, place, written⟩ := split_
  refine ⟨before, others, isStore ▸ whole, written, ?_⟩
  rw [List.eraseIdx_eq_take_drop_succ]
  subst place
  rw [whole]
  simp

/-- What one section of a store leaves of the ledger: its own slot is written, and its holder
stays. -/
structure Writes (file : File) (slot : Fin slotCount) (after : File) : Prop where
  quotaBytes : after.quotaBytes = file.quotaBytes
  others : ∀ other, other ≠ slot → after.slots other = file.slots other
  holder : (file.slots slot).SameHolder (after.slots slot)

theorem Writes.refl (file : File) (slot : Fin slotCount) : Writes file slot file :=
  ⟨rfl, fun _ _ => rfl, rfl, rfl, rfl, rfl⟩

theorem Writes.setSlot (file : File) (index : Fin slotCount) (same : (file.slots index).SameHolder slot) :
    Writes file index (file.setSlot index slot) := by
  refine ⟨rfl, fun other apart => File.setSlot_other _ _ apart, ?_⟩
  rw [File.setSlot_self]
  exact same

theorem Writes.unique {own : Fin slotCount} (writes : Writes file own after) (unique : file.Unique) : after.Unique := by
  have named : ∀ other, (after.slots other).kind = (file.slots other).kind ∧
      (after.slots other).directory = (file.slots other).directory := by
    intro other
    by_cases here : other = own
    · subst here
      exact ⟨writes.holder.1, writes.holder.2.1⟩
    · rw [writes.others other here]
      exact ⟨rfl, rfl⟩
  intro first second kind firstKind secondKind same
  exact unique first second kind ((named first).1.symm.trans firstKind) ((named second).1.symm.trans secondKind)
    ((named first).2.symm.trans (same.trans (named second).2))

section

variable (sound : world.Sound)
include sound

/-- A section of one store keeps the agreement when it keeps that store's, and the quota. -/
theorem act (there : world.stores[index]? = some store)
    (writes : Writes world.file store.slot after) (sameSlot : next.slot = store.slot)
    (sameDirectory : next.directory = store.directory)
    (steady : next.Steady world.starts (after.slots store.slot))
    (within : ((world.stores.set index next).map Store.room).sum ≤ world.file.quotaBytes.toNat)
    (small : (after.slots store.slot).bytes.toNat ≤ File.mostBytes) :
    World.Sound { world with file := after, stores := world.stores.set index next } := by
  obtain ⟨before, others, whole, written, -⟩ := split there next
  have slots : (world.stores.set index next).map Store.slot = world.stores.map Store.slot := by
    rw [written, whole, List.map_append, List.map_append, List.map_cons, List.map_cons, sameSlot]
  have directories : (world.stores.set index next).map Store.directory = world.stores.map Store.directory := by
    rw [written, whole, List.map_append, List.map_append, List.map_cons, List.map_cons, sameDirectory]
  refine ⟨?_, ?_, ?_, writes.unique sound.unique, ?_, sound.started, sound.nobody, ?_, ?_, ?_⟩
  · intro other member
    dsimp only at member ⊢
    rw [written] at member
    have apart := sound.apart
    rw [whole, List.map_append, List.map_cons] at apart
    by_cases isNext : other = next
    · rw [isNext, sameSlot]
      exact steady
    · have elsewhere : other ∈ before ++ others := by
        rw [List.mem_append, List.mem_cons] at member
        rw [List.mem_append]
        exact member.imp id fun inside => inside.resolve_left isNext
      have inside : other ∈ world.stores := by
        rw [whole, List.mem_append, List.mem_cons]
        exact (List.mem_append.mp elsewhere).imp id Or.inr
      have otherSlot : other.slot ≠ store.slot := by
        intro same
        rw [List.nodup_middle, List.nodup_cons, ← List.map_append] at apart
        exact apart.1 (same ▸ List.mem_map_of_mem elsewhere)
      rw [writes.others other.slot otherSlot]
      exact sound.steady other inside
  · exact slots ▸ sound.apart
  · exact directories ▸ sound.directories
  · intro other
    by_cases here : other = store.slot
    · subst here
      exact le_of_eq_of_le writes.holder.2.2.2 (sound.dated _)
    · dsimp only
      rw [writes.others other here]
      exact sound.dated other
  · exact le_of_le_of_eq within (congrArg UInt64.toNat writes.quotaBytes).symm
  · exact le_of_eq_of_le (congrArg UInt64.toNat writes.quotaBytes) sound.quota
  · intro other
    by_cases here : other = store.slot
    · exact here ▸ small
    · dsimp only
      rw [writes.others other here]
      exact sound.fits other

/-- Where a section does not raise what the store takes, the quota is kept. -/
theorem room_set (there : world.stores[index]? = some store) (less : next.room ≤ store.room) :
    ((world.stores.set index next).map Store.room).sum ≤ world.file.quotaBytes.toNat := by
  have within := sound.within
  obtain ⟨before, others, whole, written, -⟩ := split there next
  rw [World.room, whole, List.map_append, List.map_cons, List.sum_append, List.sum_cons] at within
  rw [written, List.map_append, List.map_cons, List.sum_append, List.sum_cons]
  omega

/-- What a store takes is within the quota. -/
theorem room_le (there : world.stores[index]? = some store) : store.room ≤ world.file.quotaBytes.toNat := by
  have kept := sound.within
  obtain ⟨before, others, whole, -, -⟩ := split there store
  rw [World.room, whole, List.map_append, List.map_cons, List.sum_append, List.sum_cons] at kept
  omega

theorem usedBytes_le (there : world.stores[index]? = some store) : store.usedBytes.toNat ≤ File.mostBytes :=
  (Store.Steady.used_le_room store).trans ((sound.room_le there).trans sound.quota)

/-- The word of a slot is written by the store that has it. -/
theorem total_publish (member : store ∈ world.stores) (bytes oldestUsedSeconds : UInt64) :
    (world.file.publish store.slot bytes oldestUsedSeconds).total world.starts =
      bytes.toNat + world.file.others world.starts store.slot := by
  rw [File.publish, File.total_setSlot,
    Slot.countedBytes_bytes _ _ ((sound.steady store member).counted sound.nobody)]

theorem total_word (member : store ∈ world.stores) : world.file.total world.starts =
    (world.file.slots store.slot).bytes.toNat + world.file.others world.starts store.slot := by
  rw [File.total_eq world.starts world.file store.slot,
    Slot.countedBytes_of_counted ((sound.steady store member).counted sound.nobody)]

/-- The words and one more file add up, with the one that a store is about to write. -/
theorem publish_lt (slot : Fin slotCount) {bytes : UInt64} (small : bytes.toNat ≤ File.mostBytes)
    (oldestUsedSeconds : UInt64) :
    (world.file.publish slot bytes oldestUsedSeconds).total world.starts + File.mostBytes < 2 ^ 64 :=
  (sound.fits.setSlot small).total_lt world.starts

/-- A section that leaves the ledger as it is. -/
theorem act_idle (there : world.stores[index]? = some store) (sameSlot : next.slot = store.slot)
    (sameDirectory : next.directory = store.directory)
    (steady : next.Steady world.starts (world.file.slots store.slot)) (less : next.room ≤ store.room) :
    World.Sound { world with stores := world.stores.set index next } :=
  sound.act there (Writes.refl world.file store.slot) sameSlot sameDirectory steady
    (sound.room_set there less) (sound.fits _)

/-- A section of a store that is not there does nothing. -/
theorem act_cases {section_ : File → Store → File × Store}
    (each : ∀ store, world.stores[index]? = some store → World.Sound { world with
      file := (section_ world.file store).1
      stores := world.stores.set index (section_ world.file store).2 }) :
    (world.act section_ index).Sound := by
  unfold World.act
  cases there : world.stores[index]? with
  | none => exact sound
  | some store => exact each store there

/-- A publication of what the store takes. -/
theorem publish (oldestUsedSeconds : UInt64)
    (orderly : world.Orderly (.publish index oldestUsedSeconds)) :
    (world.act (Store.publish oldestUsedSeconds) index).Sound := by
  apply sound.act_cases
  intro store there
  have member := List.mem_of_getElem? there
  have steady := sound.steady store member
  by_cases isSnapshot : store.kind = .snapshot
  · rw [Store.publish, if_pos isSnapshot]
    have nothing := orderly store there isSnapshot
    apply sound.act there
    · exact Writes.setSlot _ _ ⟨rfl, rfl, rfl, rfl⟩
    · rfl
    · rfl
    · rw [File.publish, File.setSlot_self]
      refine ⟨steady.isKind, steady.named, steady.holder, steady.start, steady.alive, steady.exact, steady.sized,
        fun _ => ?_, by simp⟩
      simp [Store.room, nothing]
    · exact sound.room_set there le_rfl
    · rw [File.publish, File.setSlot_self]
      exact sound.usedBytes_le there
  · rw [Store.publish, if_neg isSnapshot]
    exact sound.act_idle there rfl rfl steady le_rfl

theorem size : (world.act Store.size index).Sound := by
  apply sound.act_cases
  intro store there
  have steady := sound.steady store (List.mem_of_getElem? there)
  unfold Store.size
  split
  · rename_i ready
    refine sound.act_idle there ?_ ?_ ?_ ?_
    · rfl
    · rfl
    · refine ⟨steady.isKind, steady.named, steady.holder, steady.start, steady.alive, steady.exact, ?_, ?_, ?_⟩
      · intro ownBytes sized
        cases sized
        exact ⟨le_rfl, sound.usedBytes_le there⟩
      · intro opened
        exact le_trans (Nat.add_le_add_left (Nat.zero_le _) _) (steady.covered opened)
      · intro closed
        rw [ready.1] at closed
        cases closed
    · exact Nat.add_le_add_left (Nat.zero_le _) _
  · exact sound.act_idle there rfl rfl steady le_rfl

theorem trimmed : (world.act Store.trimmed index).Sound := by
  apply sound.act_cases
  intro store there
  have steady := sound.steady store (List.mem_of_getElem? there)
  unfold Store.trimmed
  split
  · refine sound.act_idle there ?_ ?_ ?_ ?_
    · rfl
    · rfl
    · refine ⟨steady.isKind, steady.named, steady.holder, steady.start, steady.alive, steady.exact, nofun, ?_,
        fun _ => rfl⟩
      intro opened
      exact le_trans (Nat.add_le_add_left (Nat.zero_le _) _) (steady.covered opened)
    · exact Nat.add_le_add_left (Nat.zero_le _) _
  · exact sound.act_idle there rfl rfl steady le_rfl

theorem takeRequest : (world.act Store.takeRequest index).Sound := by
  apply sound.act_cases
  intro store there
  have member := List.mem_of_getElem? there
  have steady := sound.steady store member
  apply sound.act there
  · exact Writes.setSlot _ _ ⟨rfl, rfl, rfl, rfl⟩
  · rfl
  · rfl
  · change Store.Steady _ ((world.file.setSlot store.slot _).slots store.slot) store
    rw [File.setSlot_self]
    exact steady.congr ⟨rfl, rfl, rfl, rfl⟩ rfl rfl
  · exact sound.room_set there le_rfl
  · change ((world.file.setSlot store.slot _).slots store.slot).bytes.toNat ≤ _
    rw [File.setSlot_self]
    exact sound.fits _

/-- Room that was reserved becomes a file that is counted. -/
theorem count : (world.act Store.count index).Sound := by
  apply sound.act_cases
  intro store there
  have steady := sound.steady store (List.mem_of_getElem? there)
  unfold Store.count
  split
  · rename_i incomingBytes isSnapshot reserved
    have room : store.room = store.usedBytes.toNat + incomingBytes.toNat := by
      rw [Store.room, reserved]
      rfl
    have within : store.room < 2 ^ 64 := Nat.lt_of_le_of_lt (sound.room_le there) world.file.quotaBytes.toNat_lt
    have adds : (store.usedBytes + incomingBytes).toNat = store.usedBytes.toNat + incomingBytes.toNat := by
      rw [UInt64.toNat_add, Nat.mod_eq_of_lt (by omega)]
    have exact_ := steady.exact
    refine sound.act_idle there ?_ ?_ ?_ ?_
    · rfl
    · rfl
    · refine ⟨steady.isKind, steady.named, steady.holder, steady.start, steady.alive, ?_, nofun, ?_, fun _ => rfl⟩
      · change (store.usedBytes + incomingBytes).toNat =
          fileBytes store.entries + fileBytes (incomingBytes :: store.writing)
        rw [adds, fileBytes_cons]
        omega
      · intro opened
        have covered := steady.covered opened
        change (store.usedBytes + incomingBytes).toNat + 0 ≤ _
        omega
    · change (store.usedBytes + incomingBytes).toNat + 0 ≤ _
      omega
  · exact sound.act_idle there rfl rfl steady le_rfl

/-- A file leaves the books of a store. -/
theorem removes (there : world.stores[index]? = some store)
    (same : next.kind = store.kind ∧ next.directory = store.directory ∧ next.pid = store.pid ∧ next.slot = store.slot)
    (phase : next.phase = store.phase) (published : next.published = store.published)
    (less : next.usedBytes.toNat ≤ store.usedBytes.toNat)
    (counts : next.usedBytes.toNat = fileBytes next.entries + fileBytes next.writing) :
    World.Sound { world with stores := world.stores.set index next } := by
  obtain ⟨sameKind, sameDirectory, samePid, sameSlot⟩ := same
  have steady := sound.steady store (List.mem_of_getElem? there)
  have room : next.room ≤ store.room := by
    rw [Store.room, Store.room, phase]
    exact Nat.add_le_add_right less _
  apply sound.act_idle there sameSlot sameDirectory
  · refine ⟨steady.isKind.trans (congrArg some sameKind.symm), steady.named.trans sameDirectory.symm,
      steady.holder.trans samePid.symm, ?_, ?_, counts, ?_, ?_, ?_⟩
    · rw [samePid]
      exact steady.start
    · rw [samePid]
      exact steady.alive
    · intro ownBytes sized
      obtain ⟨own, small⟩ := steady.sized ownBytes (phase ▸ sized)
      exact ⟨less.trans own, small⟩
    · intro opened
      exact le_trans room (steady.covered (published ▸ opened))
    · intro closed
      rw [phase]
      exact steady.opening (published ▸ closed)
  · exact room

theorem evict : (world.act (Store.evict place) index).Sound := by
  apply sound.act_cases
  intro store there
  have exact_ := (sound.steady store (List.mem_of_getElem? there)).exact
  unfold Store.evict
  split
  · exact sound.removes there ⟨rfl, rfl, rfl, rfl⟩ rfl rfl le_rfl exact_
  · rename_i bytes isFile
    have left := fileBytes_eraseIdx isFile
    have counted : bytes ≤ store.usedBytes := UInt64.le_iff_toNat_le.mpr (by omega)
    refine sound.removes there ?_ ?_ ?_ ?_ ?_
    · exact ⟨rfl, rfl, rfl, rfl⟩
    · rfl
    · rfl
    · dsimp only
      rw [UInt64.toNat_sub_of_le _ _ counted]
      exact Nat.sub_le _ _
    · dsimp only
      rw [UInt64.toNat_sub_of_le _ _ counted]
      omega

theorem finish (stored : Bool) : (world.act (Store.finish place stored) index).Sound := by
  apply sound.act_cases
  intro store there
  have exact_ := (sound.steady store (List.mem_of_getElem? there)).exact
  unfold Store.finish
  split
  · exact sound.removes there ⟨rfl, rfl, rfl, rfl⟩ rfl rfl le_rfl exact_
  · rename_i bytes isFile
    have left := fileBytes_eraseIdx isFile
    have counted : bytes ≤ store.usedBytes := UInt64.le_iff_toNat_le.mpr (by omega)
    have less : (store.usedBytes - bytes).toNat = store.usedBytes.toNat - bytes.toNat :=
      UInt64.toNat_sub_of_le _ _ counted
    cases stored with
    | false =>
      refine sound.removes there ?_ ?_ ?_ ?_ ?_
      · exact ⟨rfl, rfl, rfl, rfl⟩
      · rfl
      · rfl
      · exact less ▸ Nat.sub_le _ _
      · change (store.usedBytes - bytes).toNat = fileBytes store.entries + fileBytes (store.writing.eraseIdx place)
        omega
    | true =>
      have again : store.usedBytes - bytes + bytes = store.usedBytes := UInt64.sub_add_cancel _ _
      refine sound.removes there ?_ ?_ ?_ ?_ ?_
      · exact ⟨rfl, rfl, rfl, rfl⟩
      · rfl
      · rfl
      · exact le_of_eq (congrArg UInt64.toNat again)
      · change (store.usedBytes - bytes + bytes).toNat =
          fileBytes (bytes :: store.entries) + fileBytes (store.writing.eraseIdx place)
        rw [again, fileBytes_cons]
        omega

/-- Room is granted only when the words of all stores leave it. -/
theorem reserve (incomingBytes ownOldestSeconds : UInt64)
    (orderly : world.Orderly (.reserve index incomingBytes ownOldestSeconds)) :
    (world.act (Store.reserve world.starts incomingBytes ownOldestSeconds) index).Sound := by
  apply sound.act_cases
  intro store there
  have member := List.mem_of_getElem? there
  have steady := sound.steady store member
  unfold Store.reserve
  split
  · rename_i ownBytes isSized
    have opening := orderly store there ownBytes isSized
    obtain ⟨sized, small⟩ := steady.sized ownBytes isSized
    have fits := sound.publish_lt store.slot small ownOldestSeconds
    have live : store.published = true := by
      by_contra closed
      have idle := steady.opening (Bool.eq_false_iff.mpr closed)
      rw [isSized] at idle
      cases idle
    have counted := sound.total_publish member ownBytes ownOldestSeconds
    have asked : Writes world.file store.slot (world.file.publish store.slot ownBytes ownOldestSeconds) :=
      Writes.setSlot _ _ ⟨rfl, rfl, rfl, rfl⟩
    dsimp only
    obtain ⟨room, granted⟩ | ⟨-, refused, left⟩ :=
      File.reserve_cases world.starts store.slot ownBytes incomingBytes ownOldestSeconds world.file
        (Nat.lt_of_le_of_lt (Nat.le_add_right ..) fits)
    · rw [granted]
      have quota := world.file.quotaBytes.toNat_lt
      have adds : (ownBytes + incomingBytes).toNat = ownBytes.toNat + incomingBytes.toNat := by
        rw [UInt64.toNat_add, Nat.mod_eq_of_lt (by omega)]
      refine sound.act there ?_ rfl rfl ?_ ?_ ?_
      · rw [File.publish, File.publish, File.setSlot_setSlot, File.setSlot_self]
        exact Writes.setSlot _ _ ⟨rfl, rfl, rfl, rfl⟩
      · rw [File.publish, File.publish, File.setSlot_self, File.setSlot_self]
        refine ⟨steady.isKind, steady.named, steady.holder, steady.start, steady.alive, steady.exact, by simp, ?_, ?_⟩
        · intro _
          change store.usedBytes.toNat + incomingBytes.toNat ≤ (ownBytes + incomingBytes).toNat
          omega
        · intro closed
          rw [live] at closed
          cases closed
      · -- the words of the other stores cover what they take
        have words := sound.words_le
        obtain ⟨before, others, whole, written, -⟩ := split there { store with phase := .reserved incomingBytes }
        have covers : ∀ other ∈ before ++ others, other.room ≤ (world.file.slots other.slot).bytes.toNat := by
          intro other elsewhere
          have inside : other ∈ world.stores := by
            rw [whole, List.mem_append, List.mem_cons]
            exact (List.mem_append.mp elsewhere).imp id Or.inr
          have otherSteady := sound.steady other inside
          cases opened : other.published with
          | true => exact otherSteady.covered opened
          | false =>
            rw [Store.room, otherSteady.opening opened]
            exact opening room other inside opened
        have less := List.sum_le_sum covers
        have total_ := sound.total_word member
        rw [whole, List.map_append, List.map_cons, List.sum_append, List.sum_cons] at words
        rw [List.map_append, List.sum_append, List.map_append, List.sum_append] at less
        change (((world.stores.set index { store with phase := .reserved incomingBytes }).map Store.room).sum ≤ _)
        rw [written, List.map_append, List.map_cons, List.sum_append, List.sum_cons]
        change _ + (store.usedBytes.toNat + incomingBytes.toNat + _) ≤ _
        omega
      · have quota := sound.quota
        rw [File.publish, File.publish, File.setSlot_self, File.setSlot_self]
        dsimp only
        omega
    · rw [left, refused]
      refine sound.act there asked rfl rfl ?_ ?_ ?_
      · rw [File.publish, File.setSlot_self]
        refine ⟨steady.isKind, steady.named, steady.holder, steady.start, steady.alive,
          steady.exact, by simp, ?_, fun _ => rfl⟩
        intro _
        change store.usedBytes.toNat + 0 ≤ ownBytes.toNat
        omega
      · apply sound.room_set there
        exact Nat.add_le_add_left (Nat.zero_le _) _
      · rw [File.publish, File.setSlot_self]
        exact small
  · exact sound.act_idle there rfl rfl steady le_rfl

/-- A section of the ledger that leaves the slots of live processes, but for what is asked of
them. -/
theorem spare (unique : after.Unique) (quotaBytes : after.quotaBytes = world.file.quotaBytes)
    (dated : ∀ index, (after.slots index).pidStart = (world.file.slots index).pidStart ∨
      (after.slots index).pidStart = 0)
    (held : ∀ index, (world.file.slots index).kind ≠ none → (world.file.slots index).live world.starts = true →
      (world.file.slots index).SameHolder (after.slots index) ∧
        (after.slots index).bytes = (world.file.slots index).bytes)
    (fits : after.Fits) : World.Sound { world with file := after } := by
  refine ⟨?_, sound.apart, sound.directories, unique, ?_, sound.started, sound.nobody, ?_, ?_, fits⟩
  · intro store member
    have steady := sound.steady store member
    have used : (world.file.slots store.slot).kind ≠ none := by
      rw [steady.isKind]
      exact nofun
    obtain ⟨same, bytes⟩ := held store.slot used (steady.live sound.nobody)
    exact steady.congr same bytes rfl
  · intro index
    rcases dated index with same | zero
    · exact le_of_eq_of_le same (sound.dated index)
    · exact le_of_eq_of_le zero (Nat.zero_le _)
  · exact le_of_le_of_eq sound.within (congrArg UInt64.toNat quotaBytes).symm
  · exact le_of_eq_of_le (congrArg UInt64.toNat quotaBytes) sound.quota

/-- A section that writes no word of more than the most bytes. -/
theorem sparing {most : Nat} (sparing : File.Sparing world.starts most world.file after) (small : most ≤ File.mostBytes) :
    World.Sound { world with file := after } := by
  refine sound.spare sparing.unique sparing.quotaBytes sparing.dated (fun index used live => ?_) fun index => ?_
  · rw [sparing.held index used live]
    exact ⟨⟨rfl, rfl, rfl, rfl⟩, rfl⟩
  · exact (sparing.bytes index).trans (max_le (sound.fits index) small)

theorem request (victim : Victim) :
    World.Sound { world with file := world.file.request victim } := by
  unfold File.request
  dsimp only
  split
  · exact sound
  split
  · rename_i index _ _
    have same : (world.file.slots index).SameHolder
        { world.file.slots index with evictRequestBytes := victim.shortfallBytes } := ⟨rfl, rfl, rfl, rfl⟩
    refine sound.spare (sound.unique.setSlot_named (.inr ⟨rfl, rfl⟩)) rfl ?_ ?_ ?_
    · intro other
      by_cases here : other = index
      · subst here
        rw [File.setSlot_self]
        exact .inl rfl
      · rw [File.setSlot_other _ _ here]
        exact .inl rfl
    · intro other _ _
      by_cases here : other = index
      · subst here
        rw [File.setSlot_self]
        exact ⟨same, rfl⟩
      · rw [File.setSlot_other _ _ here]
        exact ⟨⟨rfl, rfl, rfl, rfl⟩, rfl⟩
    · exact sound.fits.setSlot (sound.fits index)
  · exact sound

theorem record {directory : Directory} (bytes oldestUsedSeconds : UInt64)
    (orderly : world.Orderly (.record directory bytes oldestUsedSeconds present)) :
    World.Sound { world with
      file := (world.file.record world.starts present directory bytes oldestUsedSeconds).2 } :=
  sound.sparing (sound.unique.record bytes oldestUsedSeconds) orderly

theorem forgetMissing (present : Directory → Bool) :
    World.Sound { world with file := world.file.forgetMissing world.starts present } :=
  sound.sparing sound.unique.forgetMissing (Nat.zero_le _)

/-- A process that is started is none of those that hold a slot. -/
theorem spawn (pid : Nat) : (world.spawn pid).Sound := by
  unfold World.spawn
  split
  · exact sound
  · rename_i ready
    rw [not_or, not_not] at ready
    obtain ⟨somebody, gone⟩ := ready
    have others : ∀ other, other ≠ pid →
        update world.starts pid (world.clock + 1) other = world.starts other :=
      fun other apart => update_of_ne apart ..
    refine ⟨?_, sound.apart, sound.directories, sound.unique, ?_, ?_, ?_, sound.within, sound.quota, sound.fits⟩
    · intro store member
      have steady := sound.steady store member
      refine steady.congr ⟨rfl, rfl, rfl, rfl⟩ rfl (others _ ?_)
      intro same
      exact steady.alive (same ▸ gone)
    · intro index
      exact le_trans (sound.dated index) (Nat.le_succ _)
    · intro other
      by_cases here : other = pid
      · subst here
        exact le_of_eq (update_self ..)
      · exact le_of_eq_of_le (others other here) (le_trans (sound.started other) (Nat.le_succ _))
    · exact (others 0 (Ne.symm somebody)).trans sound.nobody

theorem exit (pid : Nat) : (world.exit pid).Sound := by
  have kept : (world.stores.filter fun store => store.pid ≠ pid).Sublist world.stores := List.filter_sublist
  have others : ∀ other, other ≠ pid → update world.starts pid 0 other = world.starts other :=
    fun other apart => update_of_ne apart ..
  have less : ∀ other, update world.starts pid 0 other = world.starts other ∨
      update world.starts pid 0 other = 0 := by
    intro other
    by_cases here : other = pid
    · subst here
      exact .inr (update_self ..)
    · exact .inl (others other here)
  unfold World.exit
  refine ⟨?_, (kept.map _).nodup sound.apart, (kept.map _).nodup sound.directories, sound.unique, sound.dated, ?_, ?_,
    ?_, sound.quota, sound.fits⟩
  · intro store member
    obtain ⟨inside, apart⟩ := List.mem_filter.mp member
    exact (sound.steady store inside).congr ⟨rfl, rfl, rfl, rfl⟩ rfl (others _ (of_decide_eq_true apart))
  · intro other
    rcases less other with same | gone
    · exact le_of_eq_of_le same (sound.started other)
    · exact le_of_eq_of_le gone (Nat.zero_le _)
  · rcases less 0 with same | gone
    · exact same.trans sound.nobody
    · exact gone
  · exact le_trans ((kept.map Store.room).sum_le_sum fun _ _ => Nat.zero_le _) sound.within

theorem leave : (world.leave index).Sound := by
  unfold World.leave
  cases there : world.stores[index]? with
  | none => exact sound
  | some store =>
    have steady := sound.steady store (List.mem_of_getElem? there)
    obtain ⟨before, others, whole, -, erased⟩ := split there store
    obtain ⟨slot, left, named, start, less⟩ : ∃ slot : Slot, world.file.leave store.slot =
        world.file.setSlot store.slot slot ∧
        (slot.kind = none ∨ slot.kind = (world.file.slots store.slot).kind ∧
          slot.directory = (world.file.slots store.slot).directory) ∧ slot.pidStart = 0 ∧
        slot.bytes.toNat ≤ (world.file.slots store.slot).bytes.toNat := by
      unfold File.leave
      split
      · exact ⟨_, rfl, .inl rfl, rfl, Nat.zero_le _⟩
      · exact ⟨_, rfl, .inr ⟨rfl, rfl⟩, rfl, le_rfl⟩
    have sublist : (before ++ others).Sublist world.stores := by
      rw [whole]
      exact (List.Sublist.refl before).append (List.sublist_cons_self store others)
    have apart := sound.apart
    rw [whole, List.map_append, List.map_cons, List.nodup_middle, List.nodup_cons, ← List.map_append] at apart
    dsimp only
    rw [left, erased]
    refine ⟨?_, apart.2, (sublist.map _).nodup sound.directories, sound.unique.setSlot_named named, ?_, sound.started,
      sound.nobody, ?_, sound.quota, sound.fits.setSlot (less.trans (sound.fits _))⟩
    · intro other member
      have otherSlot : other.slot ≠ store.slot := fun same => apart.1 (same ▸ List.mem_map_of_mem member)
      dsimp only
      rw [File.setSlot_other _ _ otherSlot]
      exact sound.steady other (sublist.subset member)
    · intro other
      by_cases here : other = store.slot
      · subst here
        dsimp only
        rw [File.setSlot_self]
        exact le_of_eq_of_le start (Nat.zero_le _)
      · dsimp only
        rw [File.setSlot_other _ _ here]
        exact sound.dated other
    · exact le_trans ((sublist.map Store.room).sum_le_sum fun _ _ => Nat.zero_le _) sound.within

/-- A store that joins holds a slot that nobody held, and a directory that no store has. -/
theorem join {pid : Nat} {kind : Kind} {directory : Directory} {found : List UInt64}
    (orderly : world.Orderly (.join pid kind directory found present)) :
    (world.join pid kind directory found present).Sound := by
  unfold World.join
  split
  · exact sound
  rename_i alive
  split
  · exact sound
  rename_i slot file joins
  have joined := sound.unique.join joins
  obtain ⟨oneKind, room⟩ := orderly alive slot file joins
  have unslotted : ∀ store ∈ world.stores, store.slot ≠ slot := by
    intro store member same
    have steady := sound.steady store member
    rcases joined.free with free | dead
    · rw [← same, steady.isKind] at free
      cases free
    · rw [← same, steady.live sound.nobody] at dead
      cases dead
  have undirected : ∀ store ∈ world.stores, store.directory ≠ directory := by
    intro store member same
    have steady := sound.steady store member
    have dead := joined.unheld store.slot (steady.isKind.trans (congrArg some (oneKind store member same)))
      (steady.named.trans same)
    rw [steady.live sound.nobody] at dead
    cases dead
  have scanned : (Store.opened kind directory pid slot found).slot = slot ∧
      (Store.opened kind directory pid slot found).directory = directory ∧
      (Store.opened kind directory pid slot found).Steady world.starts (file.slots slot) ∧
      world.room + (Store.opened kind directory pid slot found).room ≤ world.file.quotaBytes.toNat := by
    cases kind with
    | snapshot =>
      have quota := world.file.quotaBytes.toNat_lt
      have fitting := room rfl
      have sum := foldl_exact found 0 (by rw [UInt64.toNat_zero]; omega)
      rw [UInt64.toNat_zero, Nat.zero_add] at sum
      refine ⟨rfl, rfl, ⟨joined.isKind, joined.named, joined.holder, joined.start, alive, sum, nofun, nofun,
        fun _ => rfl⟩, ?_⟩
      change world.room + ((found.foldl (· + ·) 0).toNat + 0) ≤ _
      omega
    | backing =>
      exact ⟨rfl, rfl, ⟨joined.isKind, joined.named, joined.holder, joined.start, alive, rfl, nofun,
        fun _ => Nat.zero_le _, nofun⟩, sound.within⟩
  obtain ⟨sameSlot, sameDirectory, steady, within⟩ := scanned
  generalize Store.opened kind directory pid slot found = store at sameSlot sameDirectory steady within
  refine ⟨?_, ?_, ?_, joined.unique, ?_, sound.started, sound.nobody, ?_, ?_, ?_⟩
  · intro other member
    dsimp only at member ⊢
    rcases List.mem_append.mp member with inside | new
    · rw [joined.others other.slot (unslotted other inside)]
      exact sound.steady other inside
    · rw [List.mem_singleton.mp new, sameSlot]
      exact steady
  · rw [List.map_append, List.map_singleton, List.nodup_append]
    refine ⟨sound.apart, List.nodup_singleton _, ?_⟩
    intro taken old new isNew
    obtain ⟨other, inside, rfl⟩ := List.mem_map.mp old
    rw [List.mem_singleton.mp isNew, sameSlot]
    exact unslotted other inside
  · rw [List.map_append, List.map_singleton, List.nodup_append]
    refine ⟨sound.directories, List.nodup_singleton _, ?_⟩
    intro taken old new isNew
    obtain ⟨other, inside, rfl⟩ := List.mem_map.mp old
    rw [List.mem_singleton.mp isNew, sameDirectory]
    exact undirected other inside
  · intro other
    dsimp only
    by_cases here : other = slot
    · subst here
      rw [joined.start]
      exact sound.started pid
    · rw [joined.others other here]
      exact sound.dated other
  · rw [World.room] at within
    rw [World.room, List.map_append, List.map_singleton, List.sum_append, List.sum_singleton]
    exact le_of_le_of_eq within (congrArg UInt64.toNat joined.quotaBytes).symm
  · exact le_of_eq_of_le (congrArg UInt64.toNat joined.quotaBytes) sound.quota
  · intro other
    by_cases here : other = slot
    · exact here ▸ joined.bytes.trans (sound.fits slot)
    · dsimp only
      rw [joined.others other here]
      exact sound.fits other

end

/-- Each step that meets its condition keeps the agreement. -/
theorem perform (world : World) (step : Step) (sound : world.Sound) (orderly : world.Orderly step) :
    (world.perform step).Sound := by
  cases step with
  | spawn pid => exact sound.spawn pid
  | exit pid => exact sound.exit pid
  | join pid kind directory found present => exact sound.join orderly
  | publish store oldestUsedSeconds => exact sound.publish oldestUsedSeconds orderly
  | size store => exact sound.size
  | reserve store incomingBytes ownOldestSeconds => exact sound.reserve incomingBytes ownOldestSeconds orderly
  | trimmed store => exact sound.trimmed
  | count store => exact sound.count
  | finish store place stored => exact sound.finish stored
  | evict store place => exact sound.evict
  | leave store => exact sound.leave
  | takeRequest store => exact sound.takeRequest
  | request victim => exact sound.request victim
  | record directory bytes oldestUsedSeconds present => exact sound.record bytes oldestUsedSeconds orderly
  | forgetMissing present => exact sound.forgetMissing present

/-- The sums of a step that meets its condition fit. -/
theorem sumsFit (world : World) (step : Step) (sound : world.Sound) (orderly : world.Orderly step) :
    world.SumsFit step := by
  cases step with
  | reserve index incomingBytes ownOldestSeconds =>
    intro store there ownBytes sized
    have steady := sound.steady store (List.mem_of_getElem? there)
    have fits := sound.publish_lt store.slot (steady.sized ownBytes sized).2 ownOldestSeconds
    have own := sound.total_publish (List.mem_of_getElem? there) ownBytes ownOldestSeconds
    have quota := sound.quota
    refine ⟨Nat.lt_of_le_of_lt (Nat.le_add_right ..) fits, fun asks => ?_, fun granted => ?_⟩
    · rw [UInt64.le_iff_toNat_le] at asks
      omega
    · omega
  | count index =>
    intro store there
    exact Nat.lt_of_le_of_lt (sound.room_le there) world.file.quotaBytes.toNat_lt
  | spawn | exit | join | publish | size | trimmed | finish | evict | leave | takeRequest | request | record
    | forgetMissing => trivial

end World.Sound

/-- A node whose open stores are at rest, within the quota: their files are published, nothing is
reserved, and each holds the slot of its directory. The quota and the words of the ledger are of no
more than the most bytes. -/
structure World.Starting (world : World) : Prop where
  rest : ∀ store ∈ world.stores, store.phase = .idle ∧ store.published = true
  published : ∀ store ∈ world.stores, store.usedBytes.toNat = fileBytes store.entries + fileBytes store.writing ∧
    (world.file.slots store.slot).bytes = store.usedBytes
  holders : ∀ store ∈ world.stores, (world.file.slots store.slot).kind = some store.kind ∧
    (world.file.slots store.slot).directory = store.directory ∧ (world.file.slots store.slot).pid = store.pid ∧
    (world.file.slots store.slot).pidStart = world.starts store.pid ∧ world.starts store.pid ≠ 0
  slots : (world.stores.map Store.slot).Nodup
  directories : (world.stores.map Store.directory).Nodup
  unique : world.file.Unique
  dated : ∀ index, (world.file.slots index).pidStart ≤ world.clock
  started : ∀ pid, world.starts pid ≤ world.clock
  nobody : world.starts 0 = 0
  within : world.room ≤ world.file.quotaBytes.toNat
  quota : world.file.quotaBytes.toNat ≤ File.mostBytes
  fits : world.file.Fits

theorem World.Starting.sound (starting : world.Starting) : world.Sound where
  steady store member := by
    obtain ⟨idle, published⟩ := starting.rest store member
    obtain ⟨exact_, word⟩ := starting.published store member
    obtain ⟨isKind, named, holder, start, alive⟩ := starting.holders store member
    refine ⟨isKind, named, holder, start, alive, exact_, ?_, ?_, ?_⟩
    · rw [idle]
      exact nofun
    · intro _
      rw [Store.room, idle, word]
      exact le_rfl
    · rw [published]
      exact nofun
  apart := starting.slots
  directories := starting.directories
  unique := starting.unique
  dated := starting.dated
  started := starting.started
  nobody := starting.nobody
  within := starting.within
  quota := starting.quota
  fits := starting.fits

/-- In every run whose steps meet their condition, every state that is reached keeps the quota,
and every sum is exact. -/
theorem World.run_safe {world : World} {steps : List Step} (starting : world.Starting)
    (orderly : Along perform Orderly steps world) :
    (∀ taken, taken <+: steps → (taken.foldl perform world).Safe) ∧ Along perform SumsFit steps world := by
  constructor
  · rintro taken ⟨rest, rfl⟩
    exact (orderly.append.1.foldl World.Sound.perform starting.sound).safe
  · exact orderly.map World.Sound.perform World.Sound.sumsFit starting.sound

/-- A ledger that no process has joined yet, with a quota of a hundred bytes. -/
def World.fresh : World where
  file := { quotaBytes := 100, slots := fun _ => {} }

/-- Two stores are opened and each writes a file of sixty bytes. The second asks for its room
after a thread of the first has published, between the first's reservation and its count. -/
def World.handedTwice : List Step :=
  [.spawn 1, .spawn 2,
    .join 1 .snapshot [47, 97] [] fun _ => true, .publish 0 noOldest,
    .join 2 .snapshot [47, 98] [] fun _ => true, .publish 1 noOldest,
    .size 0, .reserve 0 60 noOldest, .publish 0 noOldest,
    .size 1, .reserve 1 60 noOldest, .count 1, .count 0]

/-- The same steps without that publication: the second store is refused, and counts nothing. -/
def World.handedOnce : List Step :=
  [.spawn 1, .spawn 2,
    .join 1 .snapshot [47, 97] [] fun _ => true, .publish 0 noOldest,
    .join 2 .snapshot [47, 98] [] fun _ => true, .publish 1 noOldest,
    .size 0, .reserve 0 60 noOldest, .size 1, .reserve 1 60 noOldest, .count 0]

theorem World.starting_fresh : World.fresh.Starting where
  rest := nofun
  published := nofun
  holders := nofun
  slots := List.nodup_nil
  directories := List.nodup_nil
  unique := nofun
  dated _ := le_rfl
  started _ := le_rfl
  nobody := rfl
  within := by decide
  quota := by decide
  fits _ := Nat.zero_le _

/-- With the publication left out, the second store is refused and the quota is kept. -/
theorem World.handedOnce_safe :
    (∀ taken, taken <+: World.handedOnce → (taken.foldl World.perform World.fresh).Safe) ∧
      Along World.perform World.SumsFit World.handedOnce World.fresh :=
  World.run_safe World.starting_fresh (by decide +kernel)

/-- The room that was reserved for one store is given to another: together they take more than
the quota. -/
theorem World.handedTwice_exceeds : World.fresh.Starting ∧
    ¬ (World.handedTwice.foldl World.perform World.fresh).Safe := by
  refine ⟨World.starting_fresh, fun safe => ?_⟩
  have within := safe.within
  revert within
  decide +kernel

end Sparkpipe.KvLedger
