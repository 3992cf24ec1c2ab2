import Mathlib.Data.List.Range

/-!
# SHA-256

The portable transform of the runtime's `spark_sha256.c`. A digest is computed
in one pass over the padded message: the streaming context of the source hashes
the same blocks in the same order.
-/

namespace Sparkpipe.Sha256

/-- `SparkSha256RoundConstants`. -/
def roundConstants : List UInt32 :=
  [0x428a2f98, 0x71374491, 0xb5c0fbcf, 0xe9b5dba5, 0x3956c25b, 0x59f111f1, 0x923f82a4, 0xab1c5ed5,
   0xd807aa98, 0x12835b01, 0x243185be, 0x550c7dc3, 0x72be5d74, 0x80deb1fe, 0x9bdc06a7, 0xc19bf174,
   0xe49b69c1, 0xefbe4786, 0x0fc19dc6, 0x240ca1cc, 0x2de92c6f, 0x4a7484aa, 0x5cb0a9dc, 0x76f988da,
   0x983e5152, 0xa831c66d, 0xb00327c8, 0xbf597fc7, 0xc6e00bf3, 0xd5a79147, 0x06ca6351, 0x14292967,
   0x27b70a85, 0x2e1b2138, 0x4d2c6dfc, 0x53380d13, 0x650a7354, 0x766a0abb, 0x81c2c92e, 0x92722c85,
   0xa2bfe8a1, 0xa81a664b, 0xc24b8b70, 0xc76c51a3, 0xd192e819, 0xd6990624, 0xf40e3585, 0x106aa070,
   0x19a4c116, 0x1e376c08, 0x2748774c, 0x34b0bcb5, 0x391c0cb3, 0x4ed8aa4a, 0x5b9cca4f, 0x682e6ff3,
   0x748f82ee, 0x78a5636f, 0x84c87814, 0x8cc70208, 0x90befffa, 0xa4506ceb, 0xbef9a3f7, 0xc67178f2]

/-- The eight words of `state` and of `working`, in the order of the source's array. -/
structure Words where
  w0 : UInt32
  w1 : UInt32
  w2 : UInt32
  w3 : UInt32
  w4 : UInt32
  w5 : UInt32
  w6 : UInt32
  w7 : UInt32
  deriving DecidableEq

/-- The state `SparkSha256Initialize` sets. -/
def initialState : Words where
  w0 := 0x6a09e667
  w1 := 0xbb67ae85
  w2 := 0x3c6ef372
  w3 := 0xa54ff53a
  w4 := 0x510e527f
  w5 := 0x9b05688c
  w6 := 0x1f83d9ab
  w7 := 0x5be0cd19

/-- `SparkSha256RotateRight`. -/
def rotateRight (value bits : UInt32) : UInt32 :=
  (value >>> bits) ||| (value <<< (32 - bits))

/-- `SparkSha256LoadBigEndianU32` over consecutive groups of four bytes. -/
def loadBigEndianU32 : List UInt8 → List UInt32
  | b0 :: b1 :: b2 :: b3 :: rest =>
    ((b0.toUInt32 <<< 24) ||| (b1.toUInt32 <<< 16) ||| (b2.toUInt32 <<< 8) ||| b3.toUInt32) ::
      loadBigEndianU32 rest
  | _ => []

/-- One further word of the message schedule. -/
def scheduleWord (words : List UInt32) (index : Nat) : UInt32 :=
  let early := words.getD (index - 15) 0
  let late := words.getD (index - 2) 0
  let sigmaZero := rotateRight early 7 ^^^ rotateRight early 18 ^^^ (early >>> 3)
  let sigmaOne := rotateRight late 17 ^^^ rotateRight late 19 ^^^ (late >>> 10)
  words.getD (index - 16) 0 + sigmaZero + words.getD (index - 7) 0 + sigmaOne

/-- The sixteen words of a block extended to all rounds. -/
def schedule (block : List UInt8) : List UInt32 :=
  (List.range 48).foldl (fun words step => words ++ [scheduleWord words (16 + step)])
    (loadBigEndianU32 block)

/-- One round on the working words. -/
def round (working : Words) (constantAndWord : UInt32 × UInt32) : Words :=
  let sumOne := rotateRight working.w4 6 ^^^ rotateRight working.w4 11 ^^^ rotateRight working.w4 25
  let choice := (working.w4 &&& working.w5) ^^^ (~~~working.w4 &&& working.w6)
  let temporaryOne := working.w7 + sumOne + choice + constantAndWord.1 + constantAndWord.2
  let sumZero := rotateRight working.w0 2 ^^^ rotateRight working.w0 13 ^^^ rotateRight working.w0 22
  let majority := (working.w0 &&& working.w1) ^^^ (working.w0 &&& working.w2) ^^^
    (working.w1 &&& working.w2)
  { w7 := working.w6
    w6 := working.w5
    w5 := working.w4
    w4 := working.w3 + temporaryOne
    w3 := working.w2
    w2 := working.w1
    w1 := working.w0
    w0 := temporaryOne + (sumZero + majority) }

/-- `SparkSha256Transform` on one 64-byte block. -/
def transform (state : Words) (block : List UInt8) : Words :=
  let working := (roundConstants.zip (schedule block)).foldl round state
  { w0 := state.w0 + working.w0
    w1 := state.w1 + working.w1
    w2 := state.w2 + working.w2
    w3 := state.w3 + working.w3
    w4 := state.w4 + working.w4
    w5 := state.w5 + working.w5
    w6 := state.w6 + working.w6
    w7 := state.w7 + working.w7 }

/-- `SparkSha256StoreBigEndianU64`. -/
def storeBigEndianU64 (value : UInt64) : List UInt8 :=
  (List.range 8).map fun index => (value >>> (UInt64.ofNat (8 * (7 - index)))).toUInt8

/-- The message with the padding `SparkSha256Finalize` appends: `0x80`, zeros up to byte 56 of
a block, and the bit length. -/
def padded (message : List UInt8) : List UInt8 :=
  message ++ [0x80] ++ List.replicate ((119 - message.length % 64) % 64) 0 ++
    storeBigEndianU64 (UInt64.ofNat (message.length * 8))

/-- Hash `count` consecutive 64-byte blocks. -/
def transformBlocks : Nat → Words → List UInt8 → Words
  | 0, state, _ => state
  | count + 1, state, data => transformBlocks count (transform state (data.take 64)) (data.drop 64)

/-- The big-endian bytes of one state word. -/
def wordBytes (word : UInt32) : List UInt8 :=
  [(word >>> 24).toUInt8, (word >>> 16).toUInt8, (word >>> 8).toUInt8, word.toUInt8]

/-- `SparkSha256Initialize`, `SparkSha256Update` and `SparkSha256Finalize` on one message. -/
def digest (message : List UInt8) : List UInt8 :=
  let data := padded message
  let state := transformBlocks (data.length / 64) initialState data
  [state.w0, state.w1, state.w2, state.w3, state.w4, state.w5, state.w6, state.w7].flatMap wordBytes

end Sparkpipe.Sha256
