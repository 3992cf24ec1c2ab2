import Mathlib.Algebra.BigOperators.Fin
import Mathlib.Algebra.Order.BigOperators.Group.Finset
import Sparkpipe.Cache.Ledger.Model

/-!
# What the ledger counts

The bytes that a quota decision adds up are a sum over the slots. The 64-bit additions of the
source give that sum as long as it fits, and a decision is then one about the sum itself.
-/

namespace Sparkpipe.KvLedger

variable {starts : Starts} {present : Directory → Bool} {file : File} {index other : Fin slotCount} {slot : Slot}

/-- What a slot adds to the bytes in use. -/
def Slot.countedBytes (starts : Starts) (slot : Slot) : Nat :=
  if slot.counted starts then slot.bytes.toNat else 0

theorem Slot.countedBytes_le (starts : Starts) (slot : Slot) : slot.countedBytes starts ≤ slot.bytes.toNat := by
  unfold countedBytes
  split
  · exact le_rfl
  · exact Nat.zero_le _

theorem Slot.countedBytes_of_counted (counted : slot.counted starts = true) :
    slot.countedBytes starts = slot.bytes.toNat := if_pos counted

/-- Whether a slot counts does not depend on its bytes. -/
theorem Slot.countedBytes_bytes (bytes oldestUsedSeconds : UInt64) (counted : slot.counted starts = true) :
    ({ slot with bytes, oldestUsedSeconds } : Slot).countedBytes starts = bytes.toNat :=
  if_pos counted

namespace File

@[simp] theorem setSlot_self (file : File) (index : Fin slotCount) (slot : Slot) :
    (file.setSlot index slot).slots index = slot := Function.update_self ..

theorem setSlot_other (file : File) (slot : Slot) (apart : other ≠ index) :
    (file.setSlot index slot).slots other = file.slots other := Function.update_of_ne apart ..

@[simp] theorem setSlot_setSlot (file : File) (index : Fin slotCount) (first second : Slot) :
    (file.setSlot index first).setSlot index second = file.setSlot index second := by
  simp only [setSlot, Function.update_idem]

/-- The bytes of the node that the ledger counts. -/
def total (starts : Starts) (file : File) : Nat :=
  ∑ index, (file.slots index).countedBytes starts

/-- What the ledger counts for all slots but one. -/
def others (starts : Starts) (index : Fin slotCount) (file : File) : Nat :=
  ∑ other ∈ Finset.univ.erase index, (file.slots other).countedBytes starts

theorem total_eq (starts : Starts) (file : File) (index : Fin slotCount) :
    file.total starts = (file.slots index).countedBytes starts + file.others starts index :=
  (Finset.add_sum_erase _ (fun other => (file.slots other).countedBytes starts) (Finset.mem_univ index)).symm

@[simp] theorem others_setSlot (starts : Starts) (file : File) (index : Fin slotCount) (slot : Slot) :
    (file.setSlot index slot).others starts index = file.others starts index := by
  apply Finset.sum_congr rfl
  intro other member
  rw [setSlot_other file slot (Finset.ne_of_mem_erase member)]

theorem total_setSlot (starts : Starts) (file : File) (index : Fin slotCount) (slot : Slot) :
    (file.setSlot index slot).total starts = slot.countedBytes starts + file.others starts index := by
  rw [total_eq starts _ index, others_setSlot, setSlot_self]

/-- The most bytes that a quota, or what a purge leaves of a directory, is taken to have. -/
def mostBytes : Nat := 2 ^ 56

/-- No word of the ledger is of more bytes than that. -/
def Fits (file : File) : Prop := ∀ index, (file.slots index).bytes.toNat ≤ mostBytes

/-- The sum of all words fits 64 bits, and so does that of one more file. -/
theorem Fits.total_lt (fits : file.Fits) (starts : Starts) : file.total starts + mostBytes < 2 ^ 64 := by
  have sum : file.total starts ≤ slotCount * mostBytes := by
    have each := Finset.sum_le_card_nsmul Finset.univ (fun index => (file.slots index).countedBytes starts) mostBytes
      fun index _ => (Slot.countedBytes_le starts _).trans (fits index)
    rwa [Finset.card_univ, Fintype.card_fin, smul_eq_mul] at each
  have all : (slotCount + 1) * mostBytes < 2 ^ 64 := by decide
  rw [Nat.add_one_mul] at all
  omega

theorem Fits.setSlot (fits : file.Fits) (small : slot.bytes.toNat ≤ mostBytes) : (file.setSlot index slot).Fits := by
  intro other
  by_cases here : other = index
  · rw [here, setSlot_self]
    exact small
  · rw [setSlot_other _ _ here]
    exact fits other

/-- Distinct slots count for at most what all of them count for. -/
theorem sum_le_total (starts : Starts) (file : File) {indices : List (Fin slotCount)} (apart : indices.Nodup) :
    (indices.map fun index => (file.slots index).countedBytes starts).sum ≤ file.total starts := by
  rw [← List.sum_toFinset _ apart]
  exact Finset.sum_le_sum_of_subset (Finset.subset_univ _)

/-- A turn of the counting loop adds what the slot counts for, as long as that fits. -/
theorem countSlot_adds (starts : Starts) (file : File) (usage : Usage) (index : Fin slotCount)
    (fits : usage.snapshotBytes.toNat + usage.backingBytes.toNat + (file.slots index).countedBytes starts < 2 ^ 64) :
    let counted := file.countSlot starts usage index
    counted.snapshotBytes.toNat + counted.backingBytes.toNat =
      usage.snapshotBytes.toNat + usage.backingBytes.toNat + (file.slots index).countedBytes starts := by
  unfold Slot.countedBytes at fits ⊢
  unfold countSlot
  by_cases counted : (file.slots index).counted starts = true
  · rw [if_pos counted] at fits ⊢
    rw [if_neg (not_not.mpr counted)]
    split
    · dsimp only
      rw [UInt64.toNat_add, Nat.mod_eq_of_lt (by omega)]
      omega
    · dsimp only
      rw [UInt64.toNat_add, Nat.mod_eq_of_lt (by omega)]
      omega
  · rw [if_neg counted, if_pos counted, Nat.add_zero]

theorem countSlots_adds (usage : Usage) (indices : List (Fin slotCount))
    (fits : usage.snapshotBytes.toNat + usage.backingBytes.toNat +
      (indices.map fun index => (file.slots index).countedBytes starts).sum < 2 ^ 64) :
    let counted := indices.foldl (file.countSlot starts) usage
    counted.snapshotBytes.toNat + counted.backingBytes.toNat =
      usage.snapshotBytes.toNat + usage.backingBytes.toNat +
        (indices.map fun index => (file.slots index).countedBytes starts).sum := by
  induction indices generalizing usage with
  | nil => rfl
  | cons index rest ih =>
    rw [List.map_cons, List.sum_cons] at fits ⊢
    have adds := countSlot_adds starts file usage index (by omega)
    dsimp only at adds ih ⊢
    rw [List.foldl_cons, ih _ (by rw [adds]; omega), adds]
    omega

/-- The bytes in use that the ledger adds up are what its slots count for, when that fits. -/
theorem usedLocked_exact (fits : file.total starts < 2 ^ 64) :
    (file.usedLocked starts).usedBytes.toNat = file.total starts := by
  have whole : ((List.finRange slotCount).map fun index => (file.slots index).countedBytes starts).sum =
      file.total starts := (Fin.sum_univ_def _).symm
  have adds := countSlots_adds { quotaBytes := file.quotaBytes } (List.finRange slotCount)
    (by rw [whole]; simpa using fits)
  dsimp only at adds
  rw [whole, UInt64.toNat_zero, Nat.zero_add] at adds
  unfold usedLocked
  dsimp only
  rw [UInt64.toNat_add, Nat.mod_eq_of_lt (by omega), adds]

theorem countSlots_quotaBytes (usage : Usage) (indices : List (Fin slotCount)) :
    (indices.foldl (file.countSlot starts) usage).quotaBytes = usage.quotaBytes := by
  induction indices generalizing usage with
  | nil => rfl
  | cons index rest ih =>
    rw [List.foldl_cons, ih]
    unfold countSlot
    dsimp only
    split
    · rfl
    · split <;> rfl

@[simp] theorem usedLocked_quotaBytes : (file.usedLocked starts).quotaBytes = file.quotaBytes :=
  countSlots_quotaBytes _ _

/-- A reservation is granted exactly when the bytes in use leave room for it in the quota. -/
theorem reserve_cases (starts : Starts) (index : Fin slotCount) (ownBytes incomingBytes ownOldestSeconds : UInt64)
    (file : File) (fits : (file.publish index ownBytes ownOldestSeconds).total starts < 2 ^ 64) :
    let asked := file.publish index ownBytes ownOldestSeconds
    let reserved := file.reserve starts index ownBytes incomingBytes ownOldestSeconds
    (asked.total starts + incomingBytes.toNat ≤ file.quotaBytes.toNat ∧
      reserved = (.ok, asked.publish index (ownBytes + incomingBytes) ownOldestSeconds, {})) ∨
    (file.quotaBytes.toNat < asked.total starts + incomingBytes.toNat ∧
      reserved.1 = .capacityExceeded ∧ reserved.2.1 = asked) := by
  dsimp only
  have used := usedLocked_exact fits
  have sameQuota : (file.publish index ownBytes ownOldestSeconds).quotaBytes = file.quotaBytes := rfl
  unfold reserve
  dsimp only
  rw [usedLocked_quotaBytes, sameQuota]
  have room : (incomingBytes ≤ file.quotaBytes ∧
      ((file.publish index ownBytes ownOldestSeconds).usedLocked starts).usedBytes ≤ file.quotaBytes - incomingBytes) ↔
      (file.publish index ownBytes ownOldestSeconds).total starts + incomingBytes.toNat ≤ file.quotaBytes.toNat := by
    rw [UInt64.le_iff_toNat_le, UInt64.le_iff_toNat_le, used]
    constructor
    · rintro ⟨small, left⟩
      rw [UInt64.toNat_sub_of_le _ _ (UInt64.le_iff_toNat_le.mpr small)] at left
      omega
    · intro fitting
      have small : incomingBytes.toNat ≤ file.quotaBytes.toNat := by omega
      refine ⟨small, ?_⟩
      rw [UInt64.toNat_sub_of_le _ _ (UInt64.le_iff_toNat_le.mpr small)]
      omega
  by_cases granted : (file.publish index ownBytes ownOldestSeconds).total starts + incomingBytes.toNat ≤
      file.quotaBytes.toNat
  · left
    rw [if_pos (room.mpr granted)]
    refine ⟨granted, ?_⟩
    rw [publish, publish, setSlot_self]
  · right
    rw [if_neg fun fitting => granted (room.mp fitting)]
    refine ⟨by omega, ?_⟩
    split
    · exact ⟨rfl, rfl⟩
    · exact ⟨rfl, rfl⟩

end File

end Sparkpipe.KvLedger
