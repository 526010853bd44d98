import Mathlib

/-!
# Byte blocks and little-endian words

A C object is a fixed number of consecutive bytes.  This module gives the two
accesses every structure copy is made of, reading a slice and overwriting a
slice, their algebra, and the little-endian encoding of fixed-width words.
An access past the end of a block has no result.
-/

namespace PaxosPersistence.ByteBlock

abbrev Byte := Fin 256

instance neZeroByte : NeZero 256 := ⟨by decide⟩

/-! ## Slices and overwrites of a list -/

section Slices

variable {A : Type*}

/-- The `count` elements starting at `offset`. -/
def slice (offset count : ℕ) (source : List A) : List A :=
  (source.drop offset).take count

/-- Replace the elements from `offset` on by `source`. -/
def overwrite (offset : ℕ) (source target : List A) : List A :=
  target.take offset ++ source ++ target.drop (offset + source.length)

@[simp]
theorem length_slice (offset count : ℕ) (source : List A) :
    (slice offset count source).length = min count (source.length - offset) := by
  simp [slice]

theorem length_slice_of_le {offset count : ℕ} {source : List A}
    (hbound : offset + count ≤ source.length) :
    (slice offset count source).length = count := by
  rw [length_slice]
  omega

theorem length_overwrite {offset : ℕ} {source target : List A}
    (hbound : offset + source.length ≤ target.length) :
    (overwrite offset source target).length = target.length := by
  simp only [overwrite, List.length_append, List.length_take, List.length_drop]
  omega

/-- Writing past the end of the target prolongs it. -/
theorem length_overwrite_of_offset_le {offset : ℕ} {source target : List A}
    (hoffset : offset ≤ target.length) :
    (overwrite offset source target).length =
      max target.length (offset + source.length) := by
  simp only [overwrite, List.length_append, List.length_take, List.length_drop]
  omega

theorem overwrite_zero (source target : List A) :
    overwrite 0 source target = source ++ target.drop source.length := by
  simp [overwrite]

theorem overwrite_all {source target : List A}
    (hlength : target.length ≤ source.length) :
    overwrite 0 source target = source := by
  rw [overwrite_zero, List.drop_eq_nil_of_le hlength, List.append_nil]

/-- Two adjacent writes from the start are one write of both parts. -/
theorem overwrite_overwrite_zero (first second target : List A) :
    overwrite first.length second (overwrite 0 first target) =
      overwrite 0 (first ++ second) target := by
  have htail : (first ++ target.drop first.length).drop
      (first.length + second.length) =
        target.drop (first.length + second.length) := by
    rw [List.drop_append, List.drop_eq_nil_of_le (Nat.le_add_right _ _),
      List.nil_append, List.drop_drop, Nat.add_sub_cancel_left]
  rw [overwrite_zero, overwrite_zero, overwrite, htail, List.take_left,
    List.length_append]

theorem slice_zero (count : ℕ) (source : List A) :
    slice 0 count source = source.take count := by
  simp [slice]

theorem slice_append_slice (offset first second : ℕ) (source : List A) :
    slice offset first source ++ slice (offset + first) second source =
      slice offset (first + second) source := by
  simp only [slice, List.take_add, List.drop_drop]

theorem slice_append_left {offset count : ℕ} {left right : List A}
    (hbound : offset + count ≤ left.length) :
    slice offset count (left ++ right) = slice offset count left := by
  rw [slice, slice, List.drop_append_of_le_length (by omega),
    List.take_append_of_le_length (by rw [List.length_drop]; omega)]

theorem slice_append_right {offset count : ℕ} {left right : List A}
    (hbound : left.length ≤ offset) :
    slice offset count (left ++ right) =
      slice (offset - left.length) count right := by
  rw [slice, slice, List.drop_append, List.drop_eq_nil_of_le hbound,
    List.nil_append]

theorem slice_slice {outer inner offset count : ℕ} {source : List A}
    (hbound : offset + count ≤ inner) :
    slice offset count (slice outer inner source) =
      slice (outer + offset) count source := by
  rw [slice, slice, slice, List.drop_take, List.take_take, List.drop_drop,
    Nat.min_eq_left (by omega)]

/-- What was written is read back, whole or in part. -/
theorem slice_overwrite_inside (start count : ℕ) {offset : ℕ}
    (source : List A) {target : List A} (hoffset : offset ≤ target.length)
    (hbound : start + count ≤ source.length) :
    slice (offset + start) count (overwrite offset source target) =
      slice start count source := by
  have hlength : (target.take offset).length = offset :=
    List.length_take_of_le hoffset
  rw [overwrite, List.append_assoc, slice_append_right (by omega), hlength,
    Nat.add_sub_cancel_left, slice_append_left hbound]

theorem slice_overwrite_self {offset : ℕ} (source : List A)
    {target : List A} (hoffset : offset ≤ target.length) :
    slice offset source.length (overwrite offset source target) = source := by
  have hinside := slice_overwrite_inside 0 source.length source hoffset
    (Nat.zero_add source.length).le
  rw [Nat.add_zero] at hinside
  rw [hinside, slice_zero, List.take_length]

/-- A write leaves everything before it unchanged. -/
theorem slice_overwrite_before {offset start count : ℕ}
    {source target : List A} (hoffset : offset ≤ target.length)
    (hbefore : start + count ≤ offset) :
    slice start count (overwrite offset source target) =
      slice start count target := by
  have hlength : (target.take offset).length = offset :=
    List.length_take_of_le hoffset
  rw [overwrite, List.append_assoc, slice_append_left (by omega)]
  rw [slice, slice, List.drop_take, List.take_take, Nat.min_eq_left (by omega)]

/-- A write leaves everything after it unchanged. -/
theorem slice_overwrite_after {offset start count : ℕ}
    {source target : List A} (hoffset : offset ≤ target.length)
    (hafter : offset + source.length ≤ start) :
    slice start count (overwrite offset source target) =
      slice start count target := by
  have hlength : (target.take offset ++ source).length =
      offset + source.length := by
    rw [List.length_append, List.length_take_of_le hoffset]
  rw [overwrite, slice_append_right (by omega), hlength, slice, slice,
    List.drop_drop]
  congr 2
  omega

end Slices

/-! ## Fixed-size blocks -/

/-- An object of exactly `size` bytes. -/
abbrev Block (size : ℕ) := List.Vector Byte size

namespace Block

variable {size : ℕ}

def zero (size : ℕ) : Block size :=
  List.Vector.replicate size 0

/-- Read `count` bytes at `offset`, if they lie inside the block. -/
def load (block : Block size) (offset count : ℕ) : Option (List Byte) :=
  if offset + count ≤ size then some (slice offset count block.toList) else none

/-- Overwrite the bytes from `offset` on. -/
def write (block : Block size) (offset : ℕ) (source : List Byte)
    (hbound : offset + source.length ≤ size) : Block size :=
  ⟨overwrite offset source block.toList, by
    rw [length_overwrite (by rw [List.Vector.toList_length]; exact hbound),
      List.Vector.toList_length]⟩

/-- Overwrite the bytes from `offset` on, if they lie inside the block. -/
def store (block : Block size) (offset : ℕ) (source : List Byte) :
    Option (Block size) :=
  if hbound : offset + source.length ≤ size then
    some (block.write offset source hbound)
  else none

@[simp]
theorem toList_zero (size : ℕ) :
    (zero size).toList = List.replicate size 0 := rfl

theorem load_eq_some {block : Block size} {offset count : ℕ}
    (hbound : offset + count ≤ size) :
    block.load offset count = some (slice offset count block.toList) :=
  if_pos hbound

theorem load_eq_none {block : Block size} {offset count : ℕ}
    (hbound : size < offset + count) : block.load offset count = none :=
  if_neg (by omega)

theorem length_of_load {block : Block size} {offset count : ℕ}
    {bytes : List Byte} (hload : block.load offset count = some bytes) :
    bytes.length = count := by
  rw [load] at hload
  split at hload
  · rename_i hbound
    cases hload
    apply length_slice_of_le
    rwa [List.Vector.toList_length]
  · cases hload

theorem store_eq_none {block : Block size} {offset : ℕ} {source : List Byte}
    (hbound : size < offset + source.length) :
    block.store offset source = none :=
  dif_neg (by omega)

theorem store_eq_some {block : Block size} {offset : ℕ} {source : List Byte}
    (hbound : offset + source.length ≤ size) :
    block.store offset source = some (block.write offset source hbound) :=
  dif_pos hbound

@[simp]
theorem toList_write (block : Block size) (offset : ℕ) (source : List Byte)
    (hbound : offset + source.length ≤ size) :
    (block.write offset source hbound).toList =
      overwrite offset source block.toList := rfl

end Block

/-! ## Little-endian words -/

/-- The `width` little-endian bytes of `value`; higher bits are dropped. -/
def leBytes : ℕ → ℕ → List Byte
  | 0, _ => []
  | width + 1, value => Fin.ofNat 256 value :: leBytes width (value / 256)

/-- The natural number with the given little-endian bytes. -/
def leValue (bytes : List Byte) : ℕ :=
  Nat.ofDigits 256 (bytes.map Fin.val)

@[simp]
theorem length_leBytes (width value : ℕ) :
    (leBytes width value).length = width := by
  induction width generalizing value with
  | zero => rfl
  | succ width ih => rw [leBytes, List.length_cons, ih]

theorem leValue_cons (byte : Byte) (bytes : List Byte) :
    leValue (byte :: bytes) = byte.val + 256 * leValue bytes := by
  simp [leValue, Nat.ofDigits_cons]

theorem leValue_append (left right : List Byte) :
    leValue (left ++ right) =
      leValue left + 256 ^ left.length * leValue right := by
  simp [leValue, Nat.ofDigits_append]

theorem leValue_lt (bytes : List Byte) : leValue bytes < 256 ^ bytes.length := by
  have hdigits := Nat.ofDigits_lt_base_pow_length (b := 256)
    (l := bytes.map Fin.val) (by decide) (by
      intro digit hdigit
      obtain ⟨byte, -, rfl⟩ := List.mem_map.mp hdigit
      exact byte.isLt)
  simpa [leValue] using hdigits

theorem leValue_leBytes (width value : ℕ) :
    leValue (leBytes width value) = value % 256 ^ width := by
  induction width generalizing value with
  | zero => simp [leBytes, leValue, Nat.mod_one]
  | succ width ih =>
      rw [leBytes, leValue_cons, ih, pow_succ', Nat.mod_mul]
      rfl

/-- Decoding a byte string and encoding it again at its length gives it back. -/
theorem leBytes_leValue (bytes : List Byte) :
    leBytes bytes.length (leValue bytes) = bytes := by
  induction bytes with
  | nil => rfl
  | cons byte bytes ih =>
      have hhead : Fin.ofNat 256 (byte.val + 256 * leValue bytes) = byte := by
        apply Fin.ext
        change (byte.val + 256 * leValue bytes) % 256 = byte.val
        have := byte.isLt
        omega
      have htail : (byte.val + 256 * leValue bytes) / 256 = leValue bytes := by
        have := byte.isLt
        omega
      rw [List.length_cons, leBytes, leValue_cons, hhead, htail, ih]

/-- Read a word of `width` bits from its little-endian bytes. -/
def readWord (width : ℕ) (bytes : List Byte) : BitVec width :=
  BitVec.ofNat width (leValue bytes)

/-- The `count` little-endian bytes of a word. -/
def wordBytes {width : ℕ} (count : ℕ) (value : BitVec width) : List Byte :=
  leBytes count value.toNat

@[simp]
theorem length_wordBytes {width : ℕ} (count : ℕ) (value : BitVec width) :
    (wordBytes count value).length = count :=
  length_leBytes count value.toNat

/-- A word is recovered from its own bytes. -/
theorem readWord_wordBytes {width count : ℕ} (hwidth : 2 ^ width = 256 ^ count)
    (value : BitVec width) : readWord width (wordBytes count value) = value := by
  apply BitVec.eq_of_toNat_eq
  rw [readWord, wordBytes, leValue_leBytes, BitVec.toNat_ofNat, ← hwidth,
    Nat.mod_mod, Nat.mod_eq_of_lt value.isLt]

/-- A byte string of a word's size is the encoding of the word read from it. -/
theorem wordBytes_readWord {width count : ℕ} (hwidth : 2 ^ width = 256 ^ count)
    {bytes : List Byte} (hlength : bytes.length = count) :
    wordBytes count (readWord width bytes) = bytes := by
  have hbound : leValue bytes < 2 ^ width := by
    rw [hwidth, ← hlength]
    exact leValue_lt bytes
  rw [wordBytes, readWord, BitVec.toNat_ofNat, Nat.mod_eq_of_lt hbound,
    ← hlength, leBytes_leValue]

theorem wordBytes_injective {width count : ℕ} (hwidth : 2 ^ width = 256 ^ count) :
    Function.Injective (wordBytes count : BitVec width → List Byte) :=
  Function.LeftInverse.injective (readWord_wordBytes hwidth)

end PaxosPersistence.ByteBlock
