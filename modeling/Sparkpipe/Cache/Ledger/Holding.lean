import Mathlib.Data.List.Nodup
import Sparkpipe.Cache.Ledger.Counting
import Sparkpipe.Cache.Ledger.Stores

/-!
# Who holds a slot

A live slot belongs to the process that joined it, and no other section of the ledger takes it
over: joining and recording find a directory in the one slot that has it, or clear a slot that
nobody holds.
-/

namespace Sparkpipe.KvLedger

variable {starts : Starts} {present : Directory → Bool} {file after : File} {index other : Fin slotCount}
variable {kind : Kind} {directory : Directory} {pid : Nat} {slot : Slot}

/-- No two slots of a kind name the same directory. -/
def File.Unique (file : File) : Prop :=
  ∀ index other kind, (file.slots index).kind = some kind → (file.slots other).kind = some kind →
    (file.slots index).directory = (file.slots other).directory → index = other

/-- The slots but for what they count: who holds them. -/
def Slot.SameHolder (slot later : Slot) : Prop :=
  later.kind = slot.kind ∧ later.directory = slot.directory ∧ later.pid = slot.pid ∧ later.pidStart = slot.pidStart

/-- A slot that can be reused is free, or its process is gone. -/
theorem Slot.reusable_cases (reusable : slot.reusable starts present = true) :
    slot.kind = none ∨ slot.live starts = false := by
  unfold Slot.reusable at reusable
  split at reusable
  · exact .inl ‹_›
  · right
    rw [Bool.and_eq_true, Bool.not_eq_true'] at reusable
    exact reusable.1

namespace File

theorem find_some (found : file.find kind directory = some index) :
    (file.slots index).kind = some kind ∧ (file.slots index).directory = directory := by
  have this := List.find?_some found
  rw [Bool.and_eq_true, beq_iff_eq, beq_iff_eq] at this
  exact this

theorem find_none (missing : file.find kind directory = none) (index : Fin slotCount)
    (isKind : (file.slots index).kind = some kind) : (file.slots index).directory ≠ directory := by
  intro same
  apply List.find?_eq_none.mp missing index (List.mem_finRange index)
  rw [isKind, same, beq_self_eq_true, beq_self_eq_true]
  rfl

/-- The one slot of a directory is the one that is found. -/
theorem Unique.find (unique : file.Unique) (isKind : (file.slots index).kind = some kind)
    (named : (file.slots index).directory = directory) : file.find kind directory = some index := by
  cases found : file.find kind directory with
  | none => exact absurd named (find_none found index isKind)
  | some other =>
    obtain ⟨otherKind, otherNamed⟩ := find_some found
    rw [unique other index kind otherKind isKind (otherNamed.trans named.symm)]

/-- Writing a slot keeps the names apart when no other slot of its kind has its name. -/
theorem Unique.setSlot (unique : file.Unique) (own : ∀ kind, slot.kind = some kind → ∀ other, other ≠ index →
    (file.slots other).kind = some kind → (file.slots other).directory ≠ slot.directory) :
    (file.setSlot index slot).Unique := by
  intro first second kind firstKind secondKind named
  by_cases isFirst : first = index
  · subst isFirst
    by_contra apart
    rw [setSlot_self] at firstKind named
    rw [setSlot_other file slot (Ne.symm apart)] at secondKind named
    exact own kind firstKind second (Ne.symm apart) secondKind named.symm
  · rw [setSlot_other file slot isFirst] at firstKind named
    by_cases isSecond : second = index
    · subst isSecond
      rw [setSlot_self] at secondKind named
      exact absurd named (own kind secondKind first isFirst firstKind)
    · rw [setSlot_other file slot isSecond] at secondKind named
      exact unique first second kind firstKind secondKind named

/-- A slot that keeps its name, or is cleared, keeps the names apart. -/
theorem Unique.setSlot_named (unique : file.Unique)
    (named : slot.kind = none ∨ slot.kind = (file.slots index).kind ∧ slot.directory = (file.slots index).directory) :
    (file.setSlot index slot).Unique := by
  apply unique.setSlot
  intro kind isKind other apart otherKind same
  rcases named with cleared | ⟨sameKind, sameName⟩
  · rw [cleared] at isKind
    cases isKind
  · exact apart (unique other index kind otherKind (sameKind.symm.trans isKind) (same.trans sameName))

/-- What finding or allocating the slot of a directory leaves. -/
structure Located (starts : Starts) (kind : Kind) (directory : Directory) (file : File) (index : Fin slotCount)
    (after : File) : Prop where
  isKind : (after.slots index).kind = some kind
  named : (after.slots index).directory = directory
  quotaBytes : after.quotaBytes = file.quotaBytes
  others : ∀ other, other ≠ index → after.slots other = file.slots other
  unique : after.Unique
  bytes : (after.slots index).bytes.toNat ≤ (file.slots index).bytes.toNat
  /-- A slot that was cleared had no live process. -/
  taken : after.slots index = file.slots index ∨
    ((file.slots index).kind = none ∨ (file.slots index).live starts = false) ∧
      (after.slots index).live starts = false ∧ (after.slots index).pidStart = 0

theorem Unique.findOrAllocate (unique : file.Unique)
    (located : file.findOrAllocate starts present kind directory = some (index, after)) :
    Located starts kind directory file index after := by
  unfold File.findOrAllocate at located
  cases found : file.find kind directory with
  | some place =>
    rw [found] at located
    cases located
    obtain ⟨isKind, named⟩ := find_some found
    exact ⟨isKind, named, rfl, fun _ _ => rfl, unique, le_rfl, .inl rfl⟩
  | none =>
    rw [found] at located
    obtain ⟨place, reusable, made⟩ := Option.map_eq_some_iff.mp located
    cases made
    have free := List.find?_some reusable
    refine ⟨?_, ?_, rfl, fun other apart => setSlot_other _ _ apart, ?_, ?_, .inr ⟨?_, ?_, ?_⟩⟩
    · rw [setSlot_self]
    · rw [setSlot_self]
    · apply unique.setSlot
      intro other isKind place _ placed
      cases isKind
      exact find_none found place placed
    · rw [setSlot_self]
      exact Nat.zero_le _
    · exact Slot.reusable_cases free
    · rw [setSlot_self]
      rfl
    · rw [setSlot_self]

/-- What joining leaves: the slot of the directory, held by the process. -/
structure Joined (starts : Starts) (pid : Nat) (kind : Kind) (directory : Directory) (file : File)
    (index : Fin slotCount) (after : File) : Prop where
  isKind : (after.slots index).kind = some kind
  named : (after.slots index).directory = directory
  holder : (after.slots index).pid = pid
  start : (after.slots index).pidStart = starts pid
  quotaBytes : after.quotaBytes = file.quotaBytes
  others : ∀ other, other ≠ index → after.slots other = file.slots other
  unique : after.Unique
  bytes : (after.slots index).bytes.toNat ≤ (file.slots index).bytes.toNat
  /-- Nobody held the slot before. -/
  free : (file.slots index).kind = none ∨ (file.slots index).live starts = false
  /-- No live slot had the directory. -/
  unheld : ∀ other, (file.slots other).kind = some kind → (file.slots other).directory = directory →
    (file.slots other).live starts = false

theorem Unique.hold (located : Located starts kind directory file index after) (pid : Nat) :
    let held := after.hold starts pid kind index
    (held.slots index).kind = some kind ∧ (held.slots index).directory = directory ∧
      (held.slots index).pid = pid ∧ (held.slots index).pidStart = starts pid ∧ held.Unique ∧
      (held.slots index).bytes.toNat ≤ (after.slots index).bytes.toNat := by
  dsimp only
  unfold File.hold
  dsimp only
  rw [setSlot_self]
  cases kind with
  | snapshot =>
    rw [if_neg nofun]
    exact ⟨located.isKind, located.named, rfl, rfl, located.unique.setSlot_named (.inr ⟨rfl, rfl⟩), le_rfl⟩
  | backing =>
    rw [if_pos rfl]
    exact ⟨located.isKind, located.named, rfl, rfl, located.unique.setSlot_named (.inr ⟨rfl, rfl⟩), Nat.zero_le _⟩

theorem Unique.join (unique : file.Unique)
    (joined : file.join starts present pid kind directory = .ok (index, after)) :
    Joined starts pid kind directory file index after := by
  unfold File.join at joined
  split at joined
  · cases joined
  split at joined
  · cases joined
  rename_i unheld
  cases located : file.findOrAllocate starts present kind directory with
  | none =>
    rw [located] at joined
    cases joined
  | some pair =>
    obtain ⟨place, mid⟩ := pair
    rw [located] at joined
    cases joined
    have spec := unique.findOrAllocate located
    obtain ⟨isKind, named, holder, start, uniqueNow, bytes⟩ := Unique.hold spec pid
    have unheldAll : ∀ other, (file.slots other).kind = some kind → (file.slots other).directory = directory →
        (file.slots other).live starts = false := by
      intro other otherKind otherNamed
      rw [unique.find otherKind otherNamed] at unheld
      simpa using unheld
    refine ⟨isKind, named, holder, start, spec.quotaBytes, ?_, uniqueNow, bytes.trans spec.bytes, ?_, unheldAll⟩
    · intro other apart
      exact (setSlot_other _ _ apart).trans (spec.others other apart)
    · rcases spec.taken with same | ⟨free, -, -⟩
      · right
        apply unheldAll
        · rw [← same]
          exact spec.isKind
        · rw [← same]
          exact spec.named
      · exact free

/-- What changes slots that nobody holds leaves, when it writes a word of no more than `most` bytes. -/
structure Sparing (starts : Starts) (most : Nat) (file after : File) : Prop where
  quotaBytes : after.quotaBytes = file.quotaBytes
  unique : after.Unique
  dated : ∀ index, (after.slots index).pidStart = (file.slots index).pidStart ∨ (after.slots index).pidStart = 0
  held : ∀ index, (file.slots index).kind ≠ none → (file.slots index).live starts = true →
    after.slots index = file.slots index
  bytes : ∀ index, (after.slots index).bytes.toNat ≤ max (file.slots index).bytes.toNat most

/-- Finding or allocating a slot spares the slots of live processes. -/
theorem Located.sparing (located : Located starts kind directory file index after) (most : Nat) :
    Sparing starts most file after where
  quotaBytes := located.quotaBytes
  unique := located.unique
  dated other := by
    by_cases here : other = index
    · subst here
      rcases located.taken with unchanged | ⟨-, -, start⟩
      · exact .inl (congrArg Slot.pidStart unchanged)
      · exact .inr start
    · exact .inl (congrArg Slot.pidStart (located.others other here))
  held other used live := by
    by_cases here : other = index
    · subst here
      rcases located.taken with unchanged | ⟨free | gone, -⟩
      · exact unchanged
      · exact absurd free used
      · rw [live] at gone
        cases gone
    · exact located.others other here
  bytes other := by
    apply le_max_of_le_left
    by_cases here : other = index
    · exact here ▸ located.bytes
    · rw [located.others other here]

/-- So does writing a slot whose process is gone. -/
theorem Sparing.setSlot {most : Nat} (sparing : Sparing starts most file after)
    (sameKind : slot.kind = (after.slots index).kind) (sameName : slot.directory = (after.slots index).directory)
    (start : slot.pidStart = 0) (small : slot.bytes.toNat ≤ most) (dead : (after.slots index).live starts = false) :
    Sparing starts most file (after.setSlot index slot) where
  quotaBytes := sparing.quotaBytes
  unique := sparing.unique.setSlot_named (.inr ⟨sameKind, sameName⟩)
  dated other := by
    by_cases here : other = index
    · subst here
      rw [setSlot_self]
      exact .inr start
    · rw [setSlot_other _ _ here]
      exact sparing.dated other
  held other used live := by
    have apart : other ≠ index := by
      rintro rfl
      rw [sparing.held other used live, live] at dead
      cases dead
    rw [setSlot_other _ _ apart]
    exact sparing.held other used live
  bytes other := by
    by_cases here : other = index
    · rw [here, setSlot_self]
      exact le_max_of_le_right small
    · rw [setSlot_other _ _ here]
      exact sparing.bytes other

theorem Unique.record (unique : file.Unique) (bytes oldestUsedSeconds : UInt64) :
    Sparing starts bytes.toNat file (file.record starts present directory bytes oldestUsedSeconds).2 := by
  have same : Sparing starts bytes.toNat file file :=
    ⟨rfl, unique, fun _ => .inl rfl, fun _ _ _ => rfl, fun _ => le_max_left _ _⟩
  unfold File.record
  dsimp only
  split
  · exact same
  split
  · exact same
  · rename_i index mid found
    have sparing : Sparing starts bytes.toNat file mid := by
      split at found
      · exact (unique.findOrAllocate found).sparing _
      · obtain ⟨place, -, made⟩ := Option.map_eq_some_iff.mp found
        cases made
        exact same
    split
    · exact sparing
    · rename_i dead
      exact sparing.setSlot rfl rfl rfl le_rfl (Bool.eq_false_iff.mpr dead)

theorem forgotten_dead (gone : forgotten starts present slot = true) : slot.live starts = false := by
  unfold forgotten at gone
  rw [Bool.and_eq_true] at gone
  rcases Slot.reusable_cases gone.2 with free | dead
  · rw [free] at gone
    exact absurd gone.1 Bool.false_ne_true
  · exact dead

theorem Unique.forgetMissing (unique : file.Unique) :
    Sparing starts 0 file (file.forgetMissing starts present) := by
  refine ⟨rfl, ?_, ?_, ?_, ?_⟩
  · intro first second kind firstKind secondKind named
    simp only [File.forgetMissing] at firstKind secondKind named
    split at firstKind
    · cases firstKind
    · split at secondKind
      · cases secondKind
      · rename_i kept keptToo
        rw [if_neg kept, if_neg keptToo] at named
        exact unique first second kind firstKind secondKind named
  · intro index
    simp only [File.forgetMissing]
    split
    · exact .inr rfl
    · exact .inl rfl
  · intro index _ live
    simp only [File.forgetMissing]
    rw [if_neg]
    intro gone
    rw [forgotten_dead gone] at live
    cases live
  · intro index
    simp only [File.forgetMissing]
    split
    · exact Nat.zero_le _
    · exact le_max_left _ _

end File

end Sparkpipe.KvLedger
