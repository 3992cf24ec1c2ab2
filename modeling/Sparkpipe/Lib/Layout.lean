import Mathlib.Data.List.Basic
import Mathlib.Data.Nat.Bitwise

/-!
# Layouts

How values are laid out in memory, as records of fixed-width integers: a layout writes a
value to so many bytes and reads it back from the front of any bytes that begin with them.
-/

namespace Sparkpipe.Bytes

variable {α β : Type}

section Numbers

/-- The low bytes of a number, the lowest first. -/
def littleBytes : Nat → Nat → List UInt8
  | 0, _ => []
  | count + 1, number => UInt8.ofNat number :: littleBytes count (number / 256)

/-- The number that so many bytes spell, the lowest first. -/
def ofLittleBytes : Nat → List UInt8 → Nat
  | 0, _ | _ + 1, [] => 0
  | count + 1, byte :: rest => byte.toNat + 256 * ofLittleBytes count rest

@[simp]
theorem length_littleBytes (count number : Nat) : (littleBytes count number).length = count := by
  induction count generalizing number with
  | zero => rfl
  | succ count ih => simp [littleBytes, ih]

theorem ofLittleBytes_littleBytes (count number : Nat) (rest : List UInt8) :
    ofLittleBytes count (littleBytes count number ++ rest) = number % 256 ^ count := by
  induction count generalizing number with
  | zero => simp [ofLittleBytes, Nat.mod_one]
  | succ count ih =>
    rw [littleBytes, List.cons_append, ofLittleBytes, ih, Nat.pow_succ', Nat.mod_mul]
    simp

end Numbers

/-- A layout of values: how many bytes one takes, how it is written and how it is read. -/
structure Layout (α : Type) where
  bytes : Nat
  put : α → List UInt8
  get : List UInt8 → α
  length_put : ∀ value, (put value).length = bytes
  get_put : ∀ value rest, get (put value ++ rest) = value

namespace Layout

attribute [simp] length_put get_put

section Records

/-- `uint8_t` -/
def uint8 : Layout UInt8 where
  bytes := 1
  put byte := [byte]
  get message := message.headD 0
  length_put _ := rfl
  get_put _ _ := rfl

/-- `uint32_t` -/
def uint32 : Layout UInt32 where
  bytes := 4
  put number := littleBytes 4 number.toNat
  get message := UInt32.ofNat (ofLittleBytes 4 message)
  length_put number := length_littleBytes 4 number.toNat
  get_put number rest := by
    rw [ofLittleBytes_littleBytes, Nat.mod_eq_of_lt (by exact number.toNat_lt)]
    exact UInt32.ofNat_toNat

/-- `uint64_t` -/
def uint64 : Layout UInt64 where
  bytes := 8
  put number := littleBytes 8 number.toNat
  get message := UInt64.ofNat (ofLittleBytes 8 message)
  length_put number := length_littleBytes 8 number.toNat
  get_put number rest := by
    rw [ofLittleBytes_littleBytes, Nat.mod_eq_of_lt (by exact number.toNat_lt)]
    exact UInt64.ofNat_toNat

/-- One value right after the other. -/
def pair (first : Layout α) (second : Layout β) : Layout (α × β) where
  bytes := first.bytes + second.bytes
  put value := first.put value.1 ++ second.put value.2
  get message := (first.get message, second.get (message.drop first.bytes))
  length_put value := by simp
  get_put value rest := by
    have skipped : (first.put value.1 ++ (second.put value.2 ++ rest)).drop first.bytes = second.put value.2 ++ rest :=
      List.drop_left' (first.length_put value.1)
    rw [List.append_assoc, first.get_put, skipped, second.get_put]

/-- A value with bytes after it that mean nothing and are written as zeros. -/
def padded (layout : Layout α) (padding : Nat) : Layout α where
  bytes := layout.bytes + padding
  put value := layout.put value ++ List.replicate padding 0
  get := layout.get
  length_put value := by simp
  get_put value rest := by rw [List.append_assoc, layout.get_put]

/-- A record with the same fields as another value. -/
def record (layout : Layout β) (fields : α → β) (build : β → α) (same : ∀ value, build (fields value) = value) :
    Layout α where
  bytes := layout.bytes
  put value := layout.put (fields value)
  get message := build (layout.get message)
  length_put value := layout.length_put (fields value)
  get_put value rest := by rw [layout.get_put, same]

end Records

section Arrays

/-- The values of an array, one after the other. -/
def putAll (layout : Layout α) (values : List α) : List UInt8 := values.flatMap layout.put

/-- So many values of an array. -/
def getAll (layout : Layout α) : Nat → List UInt8 → List α
  | 0, _ => []
  | count + 1, message => layout.get message :: layout.getAll count (message.drop layout.bytes)

variable (layout : Layout α) (values : List α)

@[simp]
theorem length_putAll : (layout.putAll values).length = values.length * layout.bytes := by
  induction values with
  | nil => simp [putAll]
  | cons value rest ih =>
    have split : layout.putAll (value :: rest) = layout.put value ++ layout.putAll rest := List.flatMap_cons
    rw [split, List.length_append, ih, length_put, List.length_cons, Nat.succ_mul, Nat.add_comm]

@[simp]
theorem length_getAll (count : Nat) (message : List UInt8) : (layout.getAll count message).length = count := by
  induction count generalizing message with
  | zero => rfl
  | succ count ih => simp [getAll, ih]

theorem getAll_putAll (rest : List UInt8) : layout.getAll values.length (layout.putAll values ++ rest) = values := by
  induction values with
  | nil => rfl
  | cons value others ih =>
    have split : layout.putAll (value :: others) = layout.put value ++ layout.putAll others := List.flatMap_cons
    rw [split, List.append_assoc, List.length_cons, getAll, get_put, List.drop_left' (layout.length_put value), ih]

/-- An array whose length its type fixes. -/
def array (layout : Layout α) (count : Nat) : Layout (Vector α count) where
  bytes := count * layout.bytes
  put values := layout.putAll values.toList
  get message := ⟨(layout.getAll count message).toArray, by simp⟩
  length_put values := by simp
  get_put values rest := by
    have read := layout.getAll_putAll values.toList rest
    rw [Vector.length_toList] at read
    apply Vector.toArray_inj.mp
    dsimp only
    rw [read]
    rfl

end Arrays

end Layout

section Copies

/-- `memcpy`: bytes are copied to a place of a buffer. -/
def overwrite (buffer : List UInt8) (place : Nat) (bytes : List UInt8) : List UInt8 :=
  buffer.take place ++ bytes ++ buffer.drop (place + bytes.length)

/-- The bytes before a part of a message. -/
def partPlace (parts : List (List UInt8)) (index : Nat) : Nat := ((parts.take index).map List.length).sum

variable {parts : List (List UInt8)} {bytes : List UInt8} {room index : Nat}

theorem flatten_take_succ (part : parts[index]? = some bytes) :
    (parts.take (index + 1)).flatten = (parts.take index).flatten ++ bytes := by
  rw [List.take_add_one, part, Option.toList_some, List.flatten_append, List.flatten_singleton]

/-- A buffer of zeros whose first bytes have been copied part by part takes the next part right after
them. -/
theorem overwrite_part (part : parts[index]? = some bytes) (fits : bytes.length ≤ room) :
    overwrite ((parts.take index).flatten ++ List.replicate room 0) (partPlace parts index) bytes =
      (parts.take (index + 1)).flatten ++ List.replicate (room - bytes.length) 0 := by
  have here : partPlace parts index = (parts.take index).flatten.length := List.length_flatten.symm
  rw [here, flatten_take_succ part]
  generalize (parts.take index).flatten = copied
  have beyond : copied.drop (copied.length + bytes.length) = [] := List.drop_eq_nil_of_le (by omega)
  have left : room - (copied.length + bytes.length - copied.length) = room - bytes.length := by omega
  unfold overwrite
  rw [List.take_left, List.drop_append, List.drop_replicate, beyond, left, List.nil_append]

/-- An array that is one part of a message is read back at its place. -/
theorem Layout.getAll_part (layout : Layout α) {values : List α} {count : Nat}
    (part : parts[index]? = some (layout.putAll values)) (full : values.length = count) :
    layout.getAll count (parts.flatten.drop (partPlace parts index)) = values := by
  subst full
  have here : partPlace parts index = (parts.take index).flatten.length := List.length_flatten.symm
  have split : parts.flatten = (parts.take index).flatten ++
      (layout.putAll values ++ (parts.drop (index + 1)).flatten) := by
    rw [← List.append_assoc, ← flatten_take_succ part, ← List.flatten_append, List.take_append_drop]
  rw [here, split, List.drop_left]
  exact layout.getAll_putAll values _

end Copies

section Sections

/-- So many bytes of a message, from one place on. -/
structure Span where
  start : Nat
  size : Nat
  deriving DecidableEq

/-- The place right after the bytes. -/
def Span.stop (span : Span) : Nat := span.start + span.size

/-- Spans that follow each other without a gap, from one place to another. -/
def Tiles : Nat → List Span → Nat → Prop
  | start, [], stop => start = stop
  | start, span :: rest, stop => span.start = start ∧ Tiles span.stop rest stop

/-- Spans lie between two places, in order and apart, and take up every byte. -/
structure Fills (start : Nat) (spans : List Span) (stop : Nat) : Prop where
  inside : ∀ span ∈ spans, start ≤ span.start ∧ span.stop ≤ stop
  apart : spans.Pairwise fun first second => first.stop ≤ second.start
  filled : start + (spans.map Span.size).sum = stop

theorem Tiles.append {start middle stop : Nat} {first second : List Span} (before : Tiles start first middle)
    (after : Tiles middle second stop) : Tiles start (first ++ second) stop := by
  induction first generalizing start with
  | nil => exact (show start = middle from before) ▸ after
  | cons span rest ih => exact ⟨before.1, ih before.2⟩

theorem Tiles.fills {start stop : Nat} {spans : List Span} (tiles : Tiles start spans stop) :
    Fills start spans stop := by
  induction spans generalizing start with
  | nil => exact ⟨by simp, .nil, tiles⟩
  | cons span rest ih =>
    obtain ⟨first, others⟩ := tiles
    obtain ⟨inside, apart, filled⟩ := ih others
    have after : span.stop = start + span.size := by rw [Span.stop, first]
    refine ⟨?_, List.pairwise_cons.mpr ⟨fun later among => (inside later among).1, apart⟩, ?_⟩
    · intro one among
      rcases List.mem_cons.mp among with rfl | among
      · constructor
        · exact first.ge
        · omega
      · have bounds := inside one among
        omega
    · simp only [List.map_cons, List.sum_cons]
      omega

end Sections

end Sparkpipe.Bytes
