import PaxosPersistence.Pipeline.StorageThread

/-!
# Lengths on the way to the database

The size of a message becomes a length field in its slot, by a subtraction that
may go below zero; the read handler turns the field back into a size; the
thread tests it as a signed number, and the encoder adds it to the size of the
structure as an unsigned one.  For messages at least as long as the structure
they all agree.  For shorter ones they do not, unless the message is empty and
no record is made of it.
-/

namespace PaxosPersistence.LengthAgreement

open PaxosPersistence.ByteBlock
open PaxosPersistence.KernelDevice
open PaxosPersistence.LmdbOperations
open PaxosPersistence.Memory
open PaxosPersistence.PaxosTypes
open PaxosPersistence.StorageThread
open PaxosPersistence.WritePersistence

/-- The length of a decoded record is not negative, it has a value exactly if
the length is positive, and encoder and store handle the structure and that
many bytes behind it: the size allocated, the bytes filled in and the size
stored are the same. -/
structure Agrees (accepted : UserAccepted) : Prop where
  len_nonneg : 0 ≤ accepted.header.value.paxosValueLen.toInt
  value_iff : accepted.header.value.paxosValueVal ≠ 0 ↔
    0 < accepted.header.value.paxosValueLen.toInt
  value_length : (accepted.value.length : ℤ) =
    accepted.header.value.paxosValueLen.toInt
  allocated : (sizeOfLen accepted.header.value.paxosValueLen : ℤ) =
    sizeofPaxosAccepted + accepted.header.value.paxosValueLen.toInt
  stored : ∃ data : List Byte,
    (data.length : ℤ) =
      sizeofPaxosAccepted + accepted.header.value.paxosValueLen.toInt ∧
    paxosAcceptedToBuffer accepted = .ok (some data) ∧
    ∀ (database : Database) (txn : ℕ) (code : ℤ),
      lmdbStoragePut ⟨some txn⟩ database accepted code =
        (live (database.put txn (keyOf accepted.header.iid) data
          (code == 0))).bind fun written => .ok (written, code)

/-- Whenever the message, as an addition left it, is the oldest one in the
ring, a read succeeds; and if the thread takes what it returns for a message,
the decoded record agrees with itself, whatever was in the thread's buffer and
wherever `malloc` puts the value. -/
def LengthsAgree (msg : List Byte) : Prop :=
  ∀ device added slot,
    writePersistenceAddMessage device msg = .ok (added, some slot) →
  ∀ later : PaxosKernelDevice, later.working = true → later.firstBuf = slot →
    later.msgBuf slot = added.msgBuf slot →
  ∀ (recv : List Byte) (pointer : Addr), slotSize ≤ recv.length →
    pointer ≠ 0 →
  ∃ next received len,
    writePersistenceRead later recv ReadFaults.none =
      .ok (next, received, len) ∧
    (len ≠ 0 → ∃ message, decodeMessage received pointer = .ok message ∧
      Agrees message.value)

/-! ## Decoded records -/

/-- What is decoded is the image with a pointer of its own, and the value from
behind the image. -/
theorem bufferToPaxosAccepted_eq_ok {buffer : List Byte} {pointer : Addr}
    {accepted : UserAccepted}
    (hdecode : bufferToPaxosAccepted buffer pointer = .ok accepted) :
    accepted.header =
        { PaxosAccepted.ofImage buffer with
          value := { (PaxosAccepted.ofImage buffer).value with
            paxosValueVal :=
              if 0 < (PaxosAccepted.ofImage buffer).value.paxosValueLen.toInt
              then pointer else 0 } } ∧
      accepted.value = slice sizeofPaxosAccepted
        (PaxosAccepted.ofImage buffer).value.paxosValueLen.toInt.toNat
        buffer := by
  simp only [bufferToPaxosAccepted] at hdecode
  split at hdecode
  · cases hdecode
  · split at hdecode
    · rename_i hpositive
      split at hdecode
      · cases hdecode
        exact ⟨by rw [if_pos hpositive], rfl⟩
      · cases hdecode
    · rename_i hpositive
      cases hdecode
      constructor
      · rw [if_neg hpositive]
      · rw [Int.toNat_of_nonpos (not_lt.mp hpositive), slice, List.take_zero]

/-- A decoded record has the length of its image, and a pointer exactly if
that is positive. -/
theorem bufferToPaxosAccepted_fields {buffer : List Byte} {pointer : Addr}
    {accepted : UserAccepted}
    (hdecode : bufferToPaxosAccepted buffer pointer = .ok accepted) :
    accepted.header.value.paxosValueLen =
        (PaxosAccepted.ofImage buffer).value.paxosValueLen ∧
      accepted.header.value.paxosValueVal =
        if 0 < accepted.header.value.paxosValueLen.toInt then pointer else 0 := by
  obtain ⟨hheader, -⟩ := bufferToPaxosAccepted_eq_ok hdecode
  rw [hheader]
  exact ⟨rfl, rfl⟩

/-- A decoded record agrees with itself as soon as its length is not
negative. -/
theorem agrees_of_len_nonneg {buffer : List Byte} {pointer : Addr}
    {accepted : UserAccepted} (hpointer : pointer ≠ 0)
    (hdecode : bufferToPaxosAccepted buffer pointer = .ok accepted)
    (hlen : 0 ≤ accepted.header.value.paxosValueLen.toInt) :
    Agrees accepted where
  len_nonneg := hlen
  value_iff := by
    rw [(bufferToPaxosAccepted_fields hdecode).2]
    by_cases hpositive : 0 < accepted.header.value.paxosValueLen.toInt
    · rw [if_pos hpositive]
      exact iff_of_true hpointer hpositive
    · rw [if_neg hpositive]
      exact iff_of_false (fun hzero => hzero rfl) hpositive
  value_length := by
    rw [accepted.length_eq, Int.toNat_of_nonneg hlen]
  allocated := sizeOfLen_eq _ (by simp only [sizeofPaxosAccepted]; omega)
  stored := by
    have hencode := paxosAcceptedToBuffer_eq hlen
    refine ⟨accepted.encode, ?_, hencode, fun database txn code => ?_⟩
    · rw [accepted.length_encode, Nat.cast_add, Int.toNat_of_nonneg hlen]
    · simp only [lmdbStoragePut, hencode, bind, Except.bind, pure, Except.pure]

/-! ## Messages with a whole header -/

/-- An addition that returns a callback has put the message into its slot. -/
theorem msgBuf_of_added {device added : PaxosKernelDevice} {msg : List Byte}
    {slot : SlotId}
    (hadd : writePersistenceAddMessage device msg = .ok (added, some slot)) :
    added.msgBuf slot = writeMessage msg := by
  obtain ⟨hnone, -⟩ | ⟨hslot, rfl⟩ := writePersistenceAddMessage_cases hadd
  · cases hnone
  · cases hslot
    exact Function.update_self _ _ _

/-- A message at least as long as the structure is decoded with the length of
its value. -/
theorem decodeMessage_of_header {msg : List Byte}
    (hheader : sizeofPaxosAccepted ≤ msg.length) (slot : SlotId)
    (recv : List Byte) (pointer : Addr) :
    ∃ message, decodeMessage (overwrite 0 (writeFrame slot msg) recv) pointer =
        .ok message ∧
      message.value.header.value.paxosValueLen.toInt =
        (effectiveSize msg.length : ℤ) - sizeofPaxosAccepted := by
  have hsize : sizeofPaxosAccepted ≤ effectiveSize msg.length :=
    le_effectiveSize (by simp [sizeofPaxosAccepted, slotSize]) hheader
  have hlength := length_deliveredBytes msg
  have hdrop := drop_received slot msg recv
  have hlen : (PaxosAccepted.ofImage ((overwrite 0 (writeFrame slot msg)
      recv).drop sizeofInt)).value.paxosValueLen.toInt =
        (effectiveSize msg.length : ℤ) - sizeofPaxosAccepted := by
    rw [hdrop, paxosValueLen_deliveredBytes_append
      (by simp only [sizeofPaxosAccepted] at hsize; omega),
      toInt_lenOfSize (effectiveSize_le _)]
  obtain ⟨message, hdecode, -, -, hvalueLen⟩ := decodeMessage_of_fits
    (by rw [hdrop, List.length_append]; omega)
    (by rw [hlen, hdrop, List.length_append]; omega) pointer
  exact ⟨message, hdecode, by rw [hvalueLen, hlen]⟩

/-- What `decodeMessage` returns was decoded behind the slot index. -/
theorem decodeMessage_eq_ok {recv : List Byte} {pointer : Addr}
    {message : ClientValue} (hdecode : decodeMessage recv pointer = .ok message) :
    bufferToPaxosAccepted (recv.drop sizeofInt) pointer = .ok message.value := by
  obtain ⟨accepted, hbuffer, hreturned⟩ := bind_eq_ok.mp hdecode
  cases hreturned
  exact hbuffer

theorem lengthsAgree_of_header {msg : List Byte}
    (hheader : sizeofPaxosAccepted ≤ msg.length) : LengthsAgree msg := by
  intro device added slot hadd later hworking hfirst hslot recv pointer _
    hpointer
  have hsize : sizeofPaxosAccepted ≤ effectiveSize msg.length :=
    le_effectiveSize (by simp [sizeofPaxosAccepted, slotSize]) hheader
  have hread := writePersistenceRead_eq hworking
    (hfirst ▸ hslot.trans (msgBuf_of_added hadd)) recv
  obtain ⟨message, hdecode, hlen⟩ :=
    decodeMessage_of_header hheader later.firstBuf recv pointer
  refine ⟨_, _, _, hread, fun _ => ⟨message, hdecode, ?_⟩⟩
  apply agrees_of_len_nonneg hpointer (decodeMessage_eq_ok hdecode)
  omega

/-! ## Shorter messages -/

/-- The last of the four bytes of a word decides its sign. -/
theorem readWord_top {bytes : List Byte} (hlength : bytes.length = 3)
    (top : Byte) : (readWord 32 (bytes ++ [top])).toNat / 2 ^ 24 = top.val := by
  have hlow := leValue_lt bytes
  have htop := top.isLt
  have hvalue : leValue (bytes ++ [top]) =
      leValue bytes + 256 ^ 3 * top.val := by
    rw [leValue_append, hlength, leValue_cons]
    rfl
  rw [hlength] at hlow
  norm_num at hlow
  rw [readWord, BitVec.toNat_ofNat, hvalue]
  norm_num
  omega

/-- When a read does not bring the whole length field, the last byte of the
field is the one that was in the buffer before. -/
theorem paxosValueLen_top {msg rest : List Byte} {top : Byte}
    (hshort : effectiveSize msg.length < 28)
    (hrest : slice (27 - effectiveSize msg.length) 1 rest = [top]) :
    (PaxosAccepted.ofImage
      (deliveredBytes msg ++ rest)).value.paxosValueLen.toNat / 2 ^ 24 =
        top.val := by
  have hlength := length_deliveredBytes msg
  have hlast : slice 27 1 (deliveredBytes msg ++ rest) = [top] := by
    rw [slice_append_right (by omega), hlength, hrest]
  have hone : 28 ≤ (deliveredBytes msg ++ rest).length := by
    have hpresent := congrArg List.length hlast
    rw [length_slice, List.length_singleton] at hpresent
    omega
  change (readWord 32 (slice 24 (3 + 1) (deliveredBytes msg ++ rest))).toNat /
    2 ^ 24 = top.val
  rw [← slice_append_slice, hlast]
  exact readWord_top (length_slice_of_le (by omega)) top

theorem toInt_neg_of_top {word : Word32} {top : Byte} (htop : 128 ≤ top.val)
    (hword : word.toNat / 2 ^ 24 = top.val) : word.toInt < 0 := by
  rw [BitVec.toInt_neg_iff]
  omega

/-- A buffer whose bytes are all ones, as large as a slot. -/
def onesBuffer : List Byte :=
  List.replicate slotSize 255

/-- Read into that buffer, a message that is shorter than the structure has a
negative length. -/
theorem toInt_paxosValueLen_short {msg : List Byte}
    (hshort : msg.length < sizeofPaxosAccepted) (slot : SlotId) :
    (PaxosAccepted.ofImage ((overwrite 0 (writeFrame slot msg)
      onesBuffer).drop sizeofInt)).value.paxosValueLen.toInt < 0 := by
  simp only [sizeofPaxosAccepted] at hshort
  have hsize := effectiveSize_le_self msg.length
  rw [drop_received]
  by_cases hfield : 28 ≤ effectiveSize msg.length
  · rw [paxosValueLen_deliveredBytes_append hfield,
      toInt_lenOfSize (effectiveSize_le _)]
    simp only [sizeofPaxosAccepted]
    omega
  · have hframe : (writeFrame slot msg).length =
        sizeofInt + effectiveSize msg.length := by
      rw [writeFrame, List.length_append, length_wordBytes,
        length_deliveredBytes]
    have hstale : slice (27 - effectiveSize msg.length) 1
        (onesBuffer.drop (writeFrame slot msg).length) = [255] := by
      have hone : min 1 (slotSize - (sizeofInt + effectiveSize msg.length) -
          (27 - effectiveSize msg.length)) = 1 := by
        simp only [slotSize, sizeofInt]
        omega
      rw [hframe, onesBuffer, slice, List.drop_replicate, List.drop_replicate,
        List.take_replicate, hone, List.replicate_one]
    exact toInt_neg_of_top (by decide)
      (paxosValueLen_top (not_le.mp hfield) hstale)

/-- An empty ring delivers the message added to it. -/
theorem read_of_empty {device : PaxosKernelDevice}
    (hworking : device.working = true)
    (hempty : device.firstBuf = device.currentBuf) (msg recv : List Byte) :
    writePersistenceRead (device.enqueue (writeMessage msg)) recv
        ReadFaults.none =
      .ok ((device.enqueue (writeMessage msg)).dequeue,
        overwrite 0 (writeFrame device.currentBuf msg) recv,
        effectiveSize msg.length) := by
  have hslot : (device.enqueue (writeMessage msg)).msgBuf device.firstBuf =
      writeMessage msg := by
    rw [hempty]
    exact Function.update_self _ _ _
  rw [← hempty]
  exact @writePersistenceRead_eq (device.enqueue (writeMessage msg)) msg
    hworking hslot recv

/-- A fresh device, which takes and delivers every message. -/
theorem exists_read_of_empty (msg recv : List Byte) :
    ∃ device added : PaxosKernelDevice,
      writePersistenceAddMessage device msg =
        .ok (added, some added.firstBuf) ∧
      added.working = true ∧
      writePersistenceRead added recv ReadFaults.none =
        .ok (added.dequeue, overwrite 0 (writeFrame added.firstBuf msg) recv,
          effectiveSize msg.length) := by
  have hempty : (kdevcharInit zeroMemory).firstBuf =
      (kdevcharInit zeroMemory).currentBuf :=
    (kdevcharInit_firstBuf zeroMemory).trans
      (kdevcharInit_currentBuf zeroMemory).symm
  have hworking := kdevcharInit_working zeroMemory
  have hused := kdevcharInit_usedBuf zeroMemory
  generalize kdevcharInit zeroMemory = device at hempty hworking hused
  have hadd := @writePersistenceAddMessage_eq device (by rw [hused]; decide) msg
  have hread := read_of_empty hworking hempty msg recv
  rw [← hempty] at hadd hread
  exact ⟨device, _, hadd, hworking, hread⟩

theorem LengthsAgree.header_le {msg : List Byte} (hagree : LengthsAgree msg)
    (hnonempty : msg.length ≠ 0) : sizeofPaxosAccepted ≤ msg.length := by
  by_contra hshort
  obtain ⟨device, added, hadd, hworking, hread⟩ :=
    exists_read_of_empty msg onesBuffer
  have hneg := toInt_paxosValueLen_short (not_le.mp hshort) added.firstBuf
  obtain ⟨next, received, len, hsame, hmessage⟩ :=
    hagree device added added.firstBuf hadd added hworking rfl rfl onesBuffer 1
      (List.length_replicate).ge (by decide)
  obtain ⟨-, hrest⟩ := Prod.mk.inj (Except.ok.inj (hread.symm.trans hsame))
  obtain ⟨rfl, rfl⟩ := Prod.mk.inj hrest
  have hsize : effectiveSize msg.length = msg.length := by
    apply if_neg
    simp only [slotSize, sizeofPaxosAccepted] at hshort ⊢
    omega
  obtain ⟨message, hdecode, hagrees⟩ := hmessage (by
    rw [hsize]
    exact Nat.cast_ne_zero.mpr hnonempty)
  have hlen := hagrees.len_nonneg
  rw [(bufferToPaxosAccepted_fields (decodeMessage_eq_ok hdecode)).1] at hlen
  omega

/-- Nothing is decoded from an empty message: the read returns zero. -/
theorem lengthsAgree_nil : LengthsAgree [] := by
  intro device added slot hadd later hworking hfirst hslot recv pointer _ _
  have hread := writePersistenceRead_eq hworking
    (hfirst ▸ hslot.trans (msgBuf_of_added hadd)) recv
  exact ⟨_, _, _, hread, fun hlen => absurd rfl hlen⟩

/-- The lengths agree for exactly the messages that are empty or at least as
long as the structure. -/
theorem lengthsAgree_iff (msg : List Byte) :
    LengthsAgree msg ↔
      msg.length = 0 ∨ sizeofPaxosAccepted ≤ msg.length := by
  constructor
  · intro hagree
    by_cases hempty : msg.length = 0
    · exact Or.inl hempty
    · exact Or.inr (hagree.header_le hempty)
  · rintro (hempty | hheader)
    · rw [List.eq_nil_of_length_eq_zero hempty]
      exact lengthsAgree_nil
    · exact lengthsAgree_of_header hheader

/-- What the thread makes of a message read from this slot into this buffer:
the length, the size the encoder computes from it, and whether it encodes. -/
def observedLength (slot : SlotId) (msg recv : List Byte) :
    Option (ℤ × ℕ × Bool) :=
  match decodeMessage (overwrite 0 (writeFrame slot msg) recv) 1 with
  | .error _ => none
  | .ok message =>
      some (message.value.header.value.paxosValueLen.toInt,
        sizeOfLen message.value.header.value.paxosValueLen,
        (paxosAcceptedToBuffer message.value).toOption.isSome)

/-- A message one byte shorter than the structure is decoded with length -1,
for which the encoder allocates less than the structure needs. -/
theorem shortMessage_not_agree :
    observedLength 0 (List.replicate 39 0) (List.replicate slotSize 0) =
        some (-1, 39, false) ∧
      ¬ LengthsAgree (List.replicate 39 0) := by
  refine ⟨by decide +kernel, fun hagree => ?_⟩
  exact absurd (hagree.header_le (by decide)) (by decide)

end PaxosPersistence.LengthAgreement
