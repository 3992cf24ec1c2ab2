import Sparkpipe.Lib.Blocks
import Sparkpipe.Sha256

/-!
# Digests of data in parts

`SparkSha256Update` takes a message in parts and keeps the beginning of a block until the rest
of it comes. `SparkSha256Finalize` pads what is left over.
-/

namespace Sparkpipe.Sha256

open Blocks

/-- `SPARK_SHA256_BLOCK_BYTES`. -/
def blockBytes : Nat := 64

/-- `SparkSha256Context`; of its block only the first `block_bytes`. -/
structure Context where
  state : Words
  totalBytes : UInt64
  block : List UInt8

/-- `SparkSha256Initialize`. -/
def initialContext : Context := ⟨initialState, 0, []⟩

/-- `SparkSha256Update`. -/
def update (context : Context) (data : List UInt8) : Context :=
  let (state, block) := absorbPart blockBytes transform context.state context.block data
  ⟨state, context.totalBytes + UInt64.ofNat data.length, block⟩

/-- The bytes of a state. -/
def stateBytes (state : Words) : List UInt8 :=
  [state.w0, state.w1, state.w2, state.w3, state.w4, state.w5, state.w6, state.w7].flatMap wordBytes

/-- A block with zeros up to a size. -/
def zeroFilled (block : List UInt8) (size : Nat) : List UInt8 := block ++ List.replicate (size - block.length) 0

/-- `SparkSha256Finalize`. -/
def finalize (context : Context) : List UInt8 :=
  let totalBits := context.totalBytes * 8
  let block := context.block ++ [0x80]
  let (state, block) :=
    if 56 < block.length then (transform context.state (zeroFilled block blockBytes), []) else (context.state, block)
  stateBytes (transform state (zeroFilled block 56 ++ storeBigEndianU64 totalBits))

variable {message part block tail : List UInt8} {state : Words}

/-- The context of the first part of a message. -/
def contextOf (message : List UInt8) : Context :=
  let (state, block) := absorb blockBytes transform initialState message
  ⟨state, UInt64.ofNat message.length, block⟩

theorem update_contextOf : update (contextOf message) part = contextOf (message ++ part) := by
  have room : (absorb blockBytes transform initialState message).2.length < blockBytes := length_absorb (by decide)
  have whole := @absorb_append _ _ _ transform initialState message part (by decide : 0 < blockBytes)
  dsimp only [update, contextOf]
  rw [absorbPart_eq room, whole, List.length_append, UInt64.ofNat_add]

theorem transformBlocks_eq (count : Nat) (state : Words) (data : List UInt8) :
    transformBlocks count state data = takeBlocks blockBytes transform count state data := by
  induction count generalizing state data with
  | zero => rfl
  | succ count ih => exact ih ..

/-- A block that ends the data. -/
theorem absorb_last (whole : block.length = blockBytes) :
    (absorb blockBytes transform state block).1 = transform state block := by
  rw [← List.append_nil block, absorb_block (by decide) whole, absorb_short (by decide), List.append_nil]

/-- The padding fills the last block, or that and one more. -/
theorem absorb_padding (small : block.length ≤ blockBytes) (length : tail.length = 8) :
    (absorb blockBytes transform state (block ++ (List.replicate ((120 - block.length) % 64) 0 ++ tail))).1 =
      if 56 < block.length then transform (transform state (zeroFilled block blockBytes)) (zeroFilled [] 56 ++ tail)
      else transform state (zeroFilled block 56 ++ tail) := by
  have bytes : blockBytes = 64 := rfl
  split
  · have zeros : (120 - block.length) % 64 = (blockBytes - block.length) + 56 := by omega
    have whole : (zeroFilled block blockBytes).length = blockBytes := by
      rw [zeroFilled, List.length_append, List.length_replicate]
      omega
    have last : (zeroFilled [] 56 ++ tail).length = blockBytes := by
      simp [zeroFilled, length, blockBytes]
    rw [zeros, List.replicate_add, List.append_assoc, ← List.append_assoc]
    exact (congrArg Prod.fst (absorb_block (by decide) whole)).trans (absorb_last last)
  · have zeros : (120 - block.length) % 64 = 56 - block.length := by omega
    rw [zeros, ← List.append_assoc, absorb_last]
    · rfl
    · rw [List.length_append, List.length_append, List.length_replicate, length]
      omega

theorem finalize_contextOf (message : List UInt8) : finalize (contextOf message) = digest message := by
  have left : (absorb blockBytes transform initialState message).2.length = message.length % 64 := by
    have division := Nat.div_add_mod message.length 64
    rw [absorb, List.length_drop, blockBytes]
    omega
  have whole : digest message = stateBytes (absorb blockBytes transform initialState (padded message)).1 := by
    rw [digest, transformBlocks_eq]
    rfl
  have below : message.length % 64 < 64 := Nat.mod_lt _ (by decide)
  have bits : UInt64.ofNat (message.length * 8) = UInt64.ofNat message.length * 8 := UInt64.ofNat_mul ..
  have length : (storeBigEndianU64 (UInt64.ofNat message.length * 8)).length = 8 := rfl
  rw [whole, padded, List.append_assoc, List.append_assoc, absorb_append (by decide), bits, finalize, contextOf]
  generalize absorb blockBytes transform initialState message = absorbed at left ⊢
  obtain ⟨state, block⟩ := absorbed
  dsimp only at left ⊢
  have marked : (block ++ [0x80]).length = block.length + 1 := List.length_append ..
  have zeros : (119 - message.length % 64) % 64 = (120 - (block ++ [0x80]).length) % 64 := by omega
  have padding := @absorb_padding (block ++ [0x80]) _ state (by rw [marked, left]; exact below) length
  rw [zeros, ← List.append_assoc, padding]
  split
  · rfl
  · rfl

/-- Whatever parts a message is handed over in, its digest is that of the whole. -/
theorem finalize_parts (parts : List (List UInt8)) :
    finalize (parts.foldl update initialContext) = digest parts.flatten := by
  have along : ∀ message, parts.foldl update (contextOf message) = contextOf (message ++ parts.flatten) := by
    induction parts with
    | nil =>
      intro message
      rw [List.flatten_nil, List.append_nil]
      rfl
    | cons part parts ih =>
      intro message
      rw [List.foldl_cons, update_contextOf, ih, List.flatten_cons, List.append_assoc]
  rw [← finalize_contextOf]
  exact congrArg finalize (along [])

end Sparkpipe.Sha256
