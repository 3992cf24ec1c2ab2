import Mathlib.Data.List.Basic
import Mathlib.Data.Nat.Notation

/-!
# Digests as text

`SparkSha256DigestToHex` and `SparkSha256HexToDigest`: two digits a byte, the high half first.
Only lower-case digits are read, so a digest has one text.
-/

namespace Sparkpipe.Sha256

/-- Bytes with their number. -/
abbrev Bytes (count : Nat) : Type := {bytes : List UInt8 // bytes.length = count}

/-- What `memset` leaves. -/
def Bytes.zero (count : Nat) : Bytes count := ⟨List.replicate count 0, List.length_replicate⟩

/-- `SPARK_SHA256_DIGEST_BYTES`. -/
def digestBytes : Nat := 32

/-- A digest as the runtime stores it. -/
abbrev Digest : Type := Bytes digestBytes

/-- `HexDigits`. -/
def hexDigit (nibble : Nat) : Char := "0123456789abcdef".toList.getD nibble '0'

/-- The two digits of a byte. -/
def hexPair (byte : UInt8) : List Char := [hexDigit (byte >>> 4).toNat, hexDigit (byte &&& 0x0f).toNat]

/-- `SparkSha256DigestToHex`, for any number of bytes. -/
def toHex (bytes : List UInt8) : List Char := bytes.flatMap hexPair

/-- `SparkSha256HexNibble`, where `none` is its `-1`. -/
def hexNibble (value : Char) : Option Nat :=
  if '0' ≤ value ∧ value ≤ '9' then some (value.toNat - '0'.toNat)
  else if 'a' ≤ value ∧ value ≤ 'f' then some (value.toNat - 'a'.toNat + 10)
  else none

/-- The loop of `SparkSha256HexToDigest`. The zero that ends a text is no digit, and what follows
the last digit is not looked at. -/
def hexToBytes : (count : Nat) → List Char → Option (Bytes count)
  | 0, _ => some ⟨[], rfl⟩
  | count + 1, high :: low :: rest => do
      let high ← hexNibble high
      let low ← hexNibble low
      let bytes ← hexToBytes count rest
      some ⟨UInt8.ofNat (high <<< 4 ||| low) :: bytes.1, by rw [List.length_cons, bytes.2]⟩
  | _ + 1, _ => none

/-- `SparkSha256HexToDigest`. -/
def hexToDigest (hex : List Char) : Option Digest := hexToBytes digestBytes hex

section Nibbles

variable {nibble : Nat} {digit : Char}

theorem toNat_hexDigit : ∀ nibble < 16,
    (hexDigit nibble).toNat = if nibble < 10 then 48 + nibble else 87 + nibble := by
  decide

theorem hexNibble_hexDigit : ∀ nibble < 16, hexNibble (hexDigit nibble) = some nibble := by
  decide

/-- A digit is read as the half byte it is written for, and nothing else is. -/
theorem hexNibble_eq_some : hexNibble digit = some nibble ↔ nibble < 16 ∧ hexDigit nibble = digit := by
  constructor
  · intro read
    simp only [hexNibble, Char.le_def, UInt32.le_iff_toNat_le] at read
    split at read
    · next range =>
        have low : 48 ≤ digit.toNat := range.1
        have high : digit.toNat ≤ 57 := range.2
        have same : digit.toNat - 48 = nibble := Option.some.inj read
        have bounded : nibble < 16 := by omega
        refine ⟨bounded, Char.toNat_inj.1 ?_⟩
        rw [toNat_hexDigit nibble bounded, if_pos (by omega)]
        omega
    · split at read
      · next range =>
          have low : 97 ≤ digit.toNat := range.1
          have high : digit.toNat ≤ 102 := range.2
          have same : digit.toNat - 97 + 10 = nibble := Option.some.inj read
          have bounded : nibble < 16 := by omega
          refine ⟨bounded, Char.toNat_inj.1 ?_⟩
          rw [toNat_hexDigit nibble bounded, if_neg (by omega)]
          omega
      · exact absurd read nofun
  · rintro ⟨bounded, rfl⟩
    exact hexNibble_hexDigit nibble bounded

end Nibbles

section Texts

variable {count : Nat} {bytes : List UInt8} {text rest : List Char}

/-- The halves of a byte. -/
theorem halves (byte : UInt8) : (byte >>> 4).toNat < 16 ∧ (byte &&& 0x0f).toNat < 16 ∧
    UInt8.ofNat ((byte >>> 4).toNat <<< 4 ||| (byte &&& 0x0f).toNat) = byte := by
  have range : byte.toNat < 256 := UInt8.toNat_lt byte
  have high : (byte >>> 4).toNat = byte.toNat / 16 := by
    simp [Nat.shiftRight_eq_div_pow]
  have low : (byte &&& 0x0f).toNat = byte.toNat % 16 := by
    rw [UInt8.toNat_and]
    exact Nat.and_two_pow_sub_one_eq_mod byte.toNat 4
  rw [high, low]
  refine ⟨by omega, by omega, ?_⟩
  rw [← Nat.shiftLeft_add_eq_or_of_lt (b := byte.toNat % 16) (i := 4) (by omega), Nat.shiftLeft_eq]
  have whole : byte.toNat / 16 * 2 ^ 4 + byte.toNat % 16 = byte.toNat := by omega
  rw [whole, UInt8.ofNat_toNat]

/-- Two half bytes are the halves of the byte they make. -/
theorem hexPair_ofNat {high low : Nat} (highBound : high < 16) (lowBound : low < 16) :
    hexPair (UInt8.ofNat (high <<< 4 ||| low)) = [hexDigit high, hexDigit low] := by
  rw [← Nat.shiftLeft_add_eq_or_of_lt (b := low) (i := 4) (by omega), Nat.shiftLeft_eq]
  have same : (UInt8.ofNat (high * 2 ^ 4 + low)).toNat = high * 16 + low := by
    rw [UInt8.toNat_ofNat']
    omega
  have first : (UInt8.ofNat (high * 2 ^ 4 + low) >>> 4).toNat = high := by
    rw [UInt8.toNat_shiftRight, same]
    change (high * 16 + low) >>> 4 = high
    rw [Nat.shiftRight_eq_div_pow]
    omega
  have second : (UInt8.ofNat (high * 2 ^ 4 + low) &&& 0x0f).toNat = low := by
    rw [UInt8.toNat_and, same]
    have masked : (high * 16 + low) &&& 15 = (high * 16 + low) % 16 :=
      Nat.and_two_pow_sub_one_eq_mod (high * 16 + low) 4
    change (high * 16 + low) &&& 15 = low
    rw [masked]
    omega
  rw [hexPair, first, second]

theorem toHex_cons (byte : UInt8) (bytes : List UInt8) :
    toHex (byte :: bytes) = hexPair byte ++ toHex bytes := rfl

@[simp] theorem length_toHex (bytes : List UInt8) : (toHex bytes).length = 2 * bytes.length := by
  induction bytes with
  | nil => rfl
  | cons byte bytes ih =>
    rw [toHex_cons, List.length_append, ih, List.length_cons]
    change 2 + 2 * bytes.length = 2 * (bytes.length + 1)
    omega

/-- Every character of a text is a digit. -/
theorem mem_toHex {digit : Char} (member : digit ∈ toHex bytes) : ∃ nibble < 16, hexDigit nibble = digit := by
  rw [toHex, List.mem_flatMap] at member
  obtain ⟨byte, _, pair⟩ := member
  obtain ⟨high, low, _⟩ := halves byte
  rw [hexPair, List.mem_cons, List.mem_singleton] at pair
  rcases pair with first | second
  · exact ⟨_, high, first.symm⟩
  · exact ⟨_, low, second.symm⟩

/-- A mark that is no digit is not in a text. -/
theorem notMem_toHex {mark : Char} (noDigit : hexNibble mark = none) (bytes : List UInt8) :
    mark ∉ toHex bytes := by
  intro member
  obtain ⟨nibble, bounded, rfl⟩ := mem_toHex member
  rw [hexNibble_hexDigit nibble bounded] at noDigit
  exact absurd noDigit nofun

/-- The bytes read are those whose text comes first. -/
theorem hexToBytes_eq_some {bytes : Bytes count} :
    hexToBytes count text = some bytes ↔ toHex bytes.1 <+: text := by
  obtain ⟨bytes, size⟩ := bytes
  induction count generalizing text bytes with
  | zero =>
    have empty : bytes = [] := List.length_eq_zero_iff.1 size
    subst empty
    simp [hexToBytes, toHex]
  | succ count ih =>
    cases bytes with
    | nil => exact absurd size (by simp)
    | cons byte bytes =>
      have fewer : bytes.length = count := Nat.succ.inj size
      constructor
      · intro read
        match text, read with
        | high :: low :: rest, read =>
          simp only [hexToBytes, Option.bind_eq_bind, Option.bind_eq_some_iff] at read
          obtain ⟨first, highRead, second, lowRead, tail, tailRead, same⟩ := read
          have same : UInt8.ofNat (first <<< 4 ||| second) :: tail.1 = byte :: bytes :=
            congrArg Subtype.val (Option.some.inj same)
          obtain ⟨rfl, rfl⟩ := List.cons.inj same
          obtain ⟨highBound, rfl⟩ := hexNibble_eq_some.1 highRead
          obtain ⟨lowBound, rfl⟩ := hexNibble_eq_some.1 lowRead
          obtain ⟨later, split⟩ := (ih tail.1 fewer).1 tailRead
          refine ⟨later, ?_⟩
          change toHex (UInt8.ofNat (first <<< 4 ||| second) :: tail.1) ++ later = _
          rw [toHex_cons, hexPair_ofNat highBound lowBound, List.append_assoc, split]
          rfl
      · rintro ⟨rest, rfl⟩
        obtain ⟨high, low, whole⟩ := halves byte
        have tailRead : hexToBytes count (toHex bytes ++ rest) = some ⟨bytes, fewer⟩ :=
          (ih bytes fewer).2 ⟨rest, rfl⟩
        change hexToBytes (count + 1) (hexDigit (byte >>> 4).toNat :: hexDigit (byte &&& 0x0f).toNat ::
          (toHex bytes ++ rest)) = _
        simp only [hexToBytes, hexNibble_hexDigit _ high, hexNibble_hexDigit _ low, tailRead,
          Option.bind_eq_bind, Option.bind_some, whole]

/-- A text is read back, whatever follows it. -/
@[simp] theorem hexToBytes_toHex (bytes : Bytes count) (rest : List Char) :
    hexToBytes count (toHex bytes.1 ++ rest) = some bytes :=
  hexToBytes_eq_some.2 (List.prefix_append _ _)

/-- A digest has one text. -/
theorem toHex_injective {bytes other : Bytes count} (same : toHex bytes.1 = toHex other.1) :
    bytes = other := by
  have read := hexToBytes_toHex bytes []
  rw [same, hexToBytes_toHex other] at read
  exact (Option.some.inj read).symm

end Texts

end Sparkpipe.Sha256
