import PaxosPersistence.Core.ByteBlock

/-!
# The accepted record and its byte image

`struct paxos_accepted` travels as raw bytes through the ring slots, the device
frames and the database.  This module fixes its layout on a 64-bit machine,
including the two padding words the copies carry along, and the record that a
reader of the bytes is interested in.
-/

namespace PaxosPersistence.PaxosTypes

open PaxosPersistence.ByteBlock

abbrev Word32 := BitVec 32
abbrev Word64 := BitVec 64
abbrev Addr := Word64

/-- `MAX_PAXOS_VALUE_SIZE` -/
abbrev maxPaxosValueSize : ℕ := 200

/-- `sizeof(int)` -/
abbrev sizeofInt : ℕ := 4

/-- `sizeof(paxos_accepted)` -/
abbrev sizeofPaxosAccepted : ℕ := 40

/-- A ring slot, `sizeof(paxos_accepted) + MAX_PAXOS_VALUE_SIZE` bytes. -/
abbrev slotSize : ℕ := 240

/-- Offset of `value.paxos_value_len` in `struct paxos_accepted`. -/
abbrev paxosValueLenOffset : ℕ := 24

/-- `struct paxos_value`; `padding` is the hole before the pointer. -/
structure PaxosValue where
  paxosValueLen : Word32
  padding : Word32
  paxosValueVal : Addr
  deriving DecidableEq

/-- `struct paxos_accepted`; `padding` is the hole before the value. -/
structure PaxosAccepted where
  aid : Word32
  iid : Word32
  promiseIid : Word32
  ballot : Word32
  valueBallot : Word32
  padding : Word32
  value : PaxosValue
  deriving DecidableEq

namespace PaxosAccepted

/-- The 40 bytes of the structure. -/
def toImage (accepted : PaxosAccepted) : List Byte :=
  wordBytes 4 accepted.aid ++ wordBytes 4 accepted.iid ++
    wordBytes 4 accepted.promiseIid ++ wordBytes 4 accepted.ballot ++
    wordBytes 4 accepted.valueBallot ++ wordBytes 4 accepted.padding ++
    wordBytes 4 accepted.value.paxosValueLen ++
    wordBytes 4 accepted.value.padding ++
    wordBytes 8 accepted.value.paxosValueVal

/-- Read the structure at the start of a byte string. -/
def ofImage (bytes : List Byte) : PaxosAccepted where
  aid := readWord 32 (slice 0 4 bytes)
  iid := readWord 32 (slice 4 4 bytes)
  promiseIid := readWord 32 (slice 8 4 bytes)
  ballot := readWord 32 (slice 12 4 bytes)
  valueBallot := readWord 32 (slice 16 4 bytes)
  padding := readWord 32 (slice 20 4 bytes)
  value :=
    { paxosValueLen := readWord 32 (slice 24 4 bytes)
      padding := readWord 32 (slice 28 4 bytes)
      paxosValueVal := readWord 64 (slice 32 8 bytes) }

@[simp]
theorem length_toImage (accepted : PaxosAccepted) :
    accepted.toImage.length = sizeofPaxosAccepted := by
  simp [toImage]

theorem word32_width : 2 ^ 32 = 256 ^ 4 := by norm_num

theorem word64_width : 2 ^ 64 = 256 ^ 8 := by norm_num

/-- Reading a structure back from its own image gives the structure. -/
theorem ofImage_toImage_append (accepted : PaxosAccepted) (rest : List Byte) :
    ofImage (accepted.toImage ++ rest) = accepted := by
  have hwords : ofImage (accepted.toImage ++ rest) =
      { aid := readWord 32 (wordBytes 4 accepted.aid)
        iid := readWord 32 (wordBytes 4 accepted.iid)
        promiseIid := readWord 32 (wordBytes 4 accepted.promiseIid)
        ballot := readWord 32 (wordBytes 4 accepted.ballot)
        valueBallot := readWord 32 (wordBytes 4 accepted.valueBallot)
        padding := readWord 32 (wordBytes 4 accepted.padding)
        value :=
          { paxosValueLen := readWord 32 (wordBytes 4 accepted.value.paxosValueLen)
            padding := readWord 32 (wordBytes 4 accepted.value.padding)
            paxosValueVal :=
              readWord 64 (wordBytes 8 accepted.value.paxosValueVal) } } := by
    rfl
  simp only [hwords, readWord_wordBytes word32_width,
    readWord_wordBytes word64_width]

@[simp]
theorem ofImage_toImage (accepted : PaxosAccepted) :
    ofImage accepted.toImage = accepted := by
  simpa using ofImage_toImage_append accepted []

/-- Forty bytes are exactly the image of the structure read from them. -/
theorem toImage_ofImage {bytes : List Byte}
    (hlength : bytes.length = sizeofPaxosAccepted) :
    (ofImage bytes).toImage = bytes := by
  simp only [sizeofPaxosAccepted] at hlength
  have hword (offset : ℕ) (hoffset : offset + 4 ≤ 40) :
      wordBytes 4 (readWord 32 (slice offset 4 bytes)) = slice offset 4 bytes :=
    wordBytes_readWord word32_width (length_slice_of_le (by omega))
  have hpointer :
      wordBytes 8 (readWord 64 (slice 32 8 bytes)) = slice 32 8 bytes :=
    wordBytes_readWord word64_width (length_slice_of_le (by omega))
  simp only [toImage, ofImage, hword 0 (by omega), hword 4 (by omega),
    hword 8 (by omega), hword 12 (by omega), hword 16 (by omega),
    hword 20 (by omega), hword 24 (by omega), hword 28 (by omega), hpointer]
  rw [slice_append_slice 0, slice_append_slice 0, slice_append_slice 0,
    slice_append_slice 0, slice_append_slice 0, slice_append_slice 0,
    slice_append_slice 0, slice_append_slice 0, slice_zero,
    List.take_of_length_le (by omega)]

/-- Only the first 40 bytes of a byte string determine the structure in it. -/
theorem ofImage_take (bytes : List Byte) :
    ofImage (bytes.take sizeofPaxosAccepted) = ofImage bytes := by
  have hslice (offset count : ℕ) (hbound : offset + count ≤ 40) :
      slice offset count (bytes.take 40) = slice offset count bytes := by
    rw [← slice_zero, slice_slice hbound, Nat.zero_add]
  simp only [ofImage, hslice _ _ (show 0 + 4 ≤ 40 by omega),
    hslice _ _ (show 4 + 4 ≤ 40 by omega), hslice _ _ (show 8 + 4 ≤ 40 by omega),
    hslice _ _ (show 12 + 4 ≤ 40 by omega), hslice _ _ (show 16 + 4 ≤ 40 by omega),
    hslice _ _ (show 20 + 4 ≤ 40 by omega), hslice _ _ (show 24 + 4 ≤ 40 by omega),
    hslice _ _ (show 28 + 4 ≤ 40 by omega), hslice _ _ (show 32 + 8 ≤ 40 by omega)]

end PaxosAccepted

/-! ## Bytes behind an index -/

section Frames

variable (bufferId : Word32) (bytes rest : List Byte)

theorem drop_frame :
    (wordBytes sizeofInt bufferId ++ bytes).drop sizeofInt = bytes :=
  List.drop_left' (length_wordBytes sizeofInt bufferId)

theorem readWord_frame :
    readWord 32 (slice 0 sizeofInt (wordBytes sizeofInt bufferId ++ bytes)) =
      bufferId := by
  have hid := length_wordBytes sizeofInt bufferId
  rw [slice_append_left (by omega), slice_zero,
    List.take_of_length_le hid.le, readWord_wordBytes PaxosAccepted.word32_width]

/-- A buffer that such bytes are written to. -/
theorem drop_overwrite_frame :
    (overwrite 0 (wordBytes sizeofInt bufferId ++ bytes) rest).drop sizeofInt =
      bytes ++ rest.drop (wordBytes sizeofInt bufferId ++ bytes).length := by
  rw [overwrite_zero, List.append_assoc, drop_frame]

theorem readWord_overwrite_frame :
    readWord 32 (slice 0 sizeofInt
      (overwrite 0 (wordBytes sizeofInt bufferId ++ bytes) rest)) =
        bufferId := by
  rw [overwrite_zero, List.append_assoc, readWord_frame]

end Frames

/-! ## The record behind an image -/

/-- What a structure and the bytes its pointer leads to say. -/
structure PaxosRecord where
  aid : Word32
  iid : Word32
  promiseIid : Word32
  ballot : Word32
  valueBallot : Word32
  value : List Byte
  deriving DecidableEq

/-- The all-zero record that stands for an absent one. -/
def PaxosRecord.zeroed : PaxosRecord where
  aid := 0
  iid := 0
  promiseIid := 0
  ballot := 0
  valueBallot := 0
  value := []

/-- The record of a structure whose value pointer leads to `content`. -/
def PaxosAccepted.record (accepted : PaxosAccepted) (content : List Byte) :
    PaxosRecord where
  aid := accepted.aid
  iid := accepted.iid
  promiseIid := accepted.promiseIid
  ballot := accepted.ballot
  valueBallot := accepted.valueBallot
  value := content.take accepted.value.paxosValueLen.toInt.toNat

/-- The record of a structure with its value right behind it. -/
def imageRecord (bytes : List Byte) : PaxosRecord :=
  (PaxosAccepted.ofImage bytes).record (bytes.drop sizeofPaxosAccepted)

theorem PaxosAccepted.ofImage_append {left : List Byte}
    (hheader : sizeofPaxosAccepted ≤ left.length) (right : List Byte) :
    ofImage (left ++ right) = ofImage left := by
  rw [← ofImage_take (left ++ right), List.take_append_of_le_length hheader,
    ofImage_take]

/-- What lies behind the claimed value does not matter. -/
theorem imageRecord_append {left : List Byte}
    (hheader : sizeofPaxosAccepted ≤ left.length)
    (hvalue : (PaxosAccepted.ofImage left).value.paxosValueLen.toInt.toNat ≤
      left.length - sizeofPaxosAccepted) (right : List Byte) :
    imageRecord (left ++ right) = imageRecord left := by
  have hcontent : (left.drop sizeofPaxosAccepted ++ right).take
      (PaxosAccepted.ofImage left).value.paxosValueLen.toInt.toNat =
        (left.drop sizeofPaxosAccepted).take
          (PaxosAccepted.ofImage left).value.paxosValueLen.toInt.toNat := by
    apply List.take_append_of_le_length
    rw [List.length_drop]
    exact hvalue
  rw [imageRecord, imageRecord, PaxosAccepted.ofImage_append hheader,
    List.drop_append_of_le_length hheader, PaxosAccepted.record, hcontent]
  rfl

/-! ## Lengths -/

/-- `size - sizeof(paxos_accepted)`, computed in `size_t` and stored in an
`int`. -/
def lenOfSize (size : ℕ) : Word32 :=
  (BitVec.ofNat 64 size - BitVec.ofNat 64 sizeofPaxosAccepted).setWidth 32

/-- `sizeof(paxos_accepted) + paxos_value_len`, the `int` widened to
`size_t`. -/
def sizeOfLen (len : Word32) : ℕ :=
  (BitVec.ofNat 64 sizeofPaxosAccepted + len.signExtend 64).toNat

/-- For every size a slot can hold, below the header size as well, the stored
length is the mathematical difference. -/
theorem toInt_lenOfSize {size : ℕ} (hsize : size ≤ slotSize) :
    (lenOfSize size).toInt = (size : ℤ) - sizeofPaxosAccepted := by
  simp only [slotSize, sizeofPaxosAccepted] at hsize ⊢
  have hnat : (lenOfSize size).toNat = (size + (2 ^ 32 - 40)) % 2 ^ 32 := by
    simp only [lenOfSize, sizeofPaxosAccepted, BitVec.toNat_setWidth,
      BitVec.toNat_sub, BitVec.toNat_ofNat]
    omega
  rw [BitVec.toInt_eq_toNat_cond, hnat]
  split <;> omega

theorem sizeOfLen_eq (len : Word32)
    (hlen : -(sizeofPaxosAccepted : ℤ) ≤ len.toInt) :
    (sizeOfLen len : ℤ) = sizeofPaxosAccepted + len.toInt := by
  simp only [sizeofPaxosAccepted] at hlen ⊢
  have hbound := len.toInt_lt
  have hsum : (BitVec.ofNat 64 40 + len.signExtend 64).toInt =
      40 + len.toInt := by
    rw [BitVec.toInt_add, BitVec.toInt_signExtend_of_le (by decide),
      show (BitVec.ofNat 64 40).toInt = 40 by decide]
    apply Int.bmod_eq_of_le <;> norm_num <;> omega
  have hmsb : (BitVec.ofNat 64 40 + len.signExtend 64).msb = false := by
    rw [BitVec.msb_eq_toInt, hsum, decide_eq_false_iff_not]
    omega
  rw [sizeOfLen]
  exact (BitVec.toInt_eq_toNat_of_msb hmsb).symm.trans hsum

/-- From a negative length the sum is either smaller than the structure or as
huge as a wrapped `size_t`. -/
theorem le_sizeOfLen_of_neg {len : Word32} (hlen : len.toInt < 0)
    (hsize : sizeofPaxosAccepted ≤ sizeOfLen len) : 2 ^ 63 ≤ sizeOfLen len := by
  simp only [sizeofPaxosAccepted] at hsize
  have hbound := len.le_toInt
  by_cases hsmall : -(sizeofPaxosAccepted : ℤ) ≤ len.toInt
  · have hsum := sizeOfLen_eq len hsmall
    simp only [sizeofPaxosAccepted] at hsum
    omega
  · simp only [sizeofPaxosAccepted] at hsmall
    have hsum : (BitVec.ofNat 64 40 + len.signExtend 64).toInt =
        40 + len.toInt := by
      rw [BitVec.toInt_add, BitVec.toInt_signExtend_of_le (by decide),
        show (BitVec.ofNat 64 40).toInt = 40 by decide]
      apply Int.bmod_eq_of_le <;> norm_num <;> omega
    have hmsb : (BitVec.ofNat 64 40 + len.signExtend 64).msb = true := by
      rw [BitVec.msb_eq_toInt, hsum, decide_eq_true_iff]
      omega
    exact BitVec.le_toNat_of_msb_true hmsb

/-- The subtraction and the later addition undo each other, also through a
negative stored length. -/
theorem sizeOfLen_lenOfSize {size : ℕ} (hsize : size ≤ slotSize) :
    sizeOfLen (lenOfSize size) = size := by
  have hlen := toInt_lenOfSize hsize
  simp only [slotSize, sizeofPaxosAccepted] at hsize hlen
  have hback := sizeOfLen_eq (lenOfSize size) (by
    simp only [sizeofPaxosAccepted]
    omega)
  simp only [sizeofPaxosAccepted] at hback
  omega

end PaxosPersistence.PaxosTypes
