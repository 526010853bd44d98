import PaxosPersistence.Kernel.AddStatements
import PaxosPersistence.Pipeline.LengthAgreement

/-!
# Frame sizes

A frame is written by the read handler of a device, sized by its return value,
stored in the buffer the thread has allocated and taken apart by the decoder.
The four of them compute its size on their own.  Handler and decoder agree on
the bytes; but only one of the two handlers counts the slot index among them,
and the buffer is allocated without it.
-/

namespace PaxosPersistence.FrameSizes

open PaxosPersistence.AddStatements
open PaxosPersistence.ByteBlock
open PaxosPersistence.KernelDevice
open PaxosPersistence.LengthAgreement
open PaxosPersistence.LmdbOperations
open PaxosPersistence.Memory
open PaxosPersistence.PaxosTypes
open PaxosPersistence.ReadPersistence
open PaxosPersistence.StorageThread
open PaxosPersistence.WritePersistence

/-- What `generic_storage_thread` allocates for `recv`. -/
def recvSize : ℕ := sizeofPaxosAccepted + maxPaxosValueSize

/-- The argument of the thread that serves the device. -/
def isRead : DeviceKind → Bool
  | .write => false
  | .read => true

/-- A message with a whole header and a value that fits; a request moreover
claims the value it brings. -/
structure WellSized (kind : DeviceKind) (msg : List Byte) : Prop where
  header : sizeofPaxosAccepted ≤ msg.length
  fits : msg.length ≤ sizeofPaxosAccepted + maxPaxosValueSize
  len_eq : kind = .read →
    (PaxosAccepted.ofImage msg).value.paxosValueLen.toInt =
      (msg.length : ℤ) - sizeofPaxosAccepted

/-- A read of this device places these bytes in the buffer of the caller,
whatever was there, and returns how many they are.  The decoder succeeds on
them whatever follows, and fails without the last of them.  They fit into the
buffer of the thread. -/
structure FrameAgrees (kind : DeviceKind) (device : PaxosKernelDevice)
    (frame : List Byte) : Prop where
  delivered : ∀ buffer, ∃ next, deviceRead (isRead kind) device buffer =
    .ok (next, overwrite 0 frame buffer, frame.length)
  decoded : ∀ pointer, ∃ message, ∀ rest,
    decodeMessage (frame ++ rest) pointer = .ok message
  needed : ∀ pointer count, count < frame.length →
    decodeMessage (frame.take count) pointer = .error .memory
  fits : frame.length ≤ recvSize

/-- So it is whenever the message, as an addition left it, is the oldest one in
the ring. -/
def FramesAgree (kind : DeviceKind) (msg : List Byte) : Prop :=
  ∀ device added slot, kind.addMessage device msg = .ok (added, some slot) →
  ∀ later : PaxosKernelDevice, later.working = true → later.firstBuf = slot →
    later.msgBuf slot = added.msgBuf slot →
  ∃ frame, FrameAgrees kind later frame

/-! ## What the decoder consumes -/

section Decoder

variable {bytes : List Byte}

theorem ofImage_of_append {left right : List Byte} (hbytes : left ++ right = bytes)
    (hheader : sizeofPaxosAccepted ≤ left.length) :
    PaxosAccepted.ofImage left = PaxosAccepted.ofImage bytes := by
  rw [← hbytes, PaxosAccepted.ofImage_append hheader]

/-- What lies behind the value does not matter. -/
theorem bufferToPaxosAccepted_append
    (hheader : sizeofPaxosAccepted ≤ bytes.length)
    (hvalue : sizeofPaxosAccepted +
      (PaxosAccepted.ofImage bytes).value.paxosValueLen.toInt.toNat ≤
        bytes.length) (rest : List Byte) (pointer : Addr) :
    bufferToPaxosAccepted (bytes ++ rest) pointer =
      bufferToPaxosAccepted bytes pointer := by
  have himage := PaxosAccepted.ofImage_append hheader rest
  have hlength : (bytes ++ rest).length = bytes.length + rest.length :=
    List.length_append
  by_cases hpositive :
      0 < (PaxosAccepted.ofImage bytes).value.paxosValueLen.toInt
  · simp only [bufferToPaxosAccepted, himage]
    rw [if_neg (by omega), if_neg (by omega), dif_pos hpositive,
      dif_pos (by omega), dif_pos hpositive, dif_pos hvalue]
    exact congrArg Except.ok
      (ext_userAccepted rfl (slice_append_left hvalue))
  · simp only [bufferToPaxosAccepted, himage]
    rw [if_neg (by omega), if_neg (by omega), dif_neg hpositive,
      dif_neg hpositive]

/-- A header that claims just the bytes behind it needs all of them. -/
theorem bufferToPaxosAccepted_take
    (hlen : (PaxosAccepted.ofImage bytes).value.paxosValueLen.toInt =
      (bytes.length : ℤ) - sizeofPaxosAccepted) {count : ℕ}
    (hcount : count < bytes.length) (pointer : Addr) :
    bufferToPaxosAccepted (bytes.take count) pointer = .error .memory := by
  have hlength : (bytes.take count).length = count :=
    List.length_take_of_le hcount.le
  by_cases hheader : sizeofPaxosAccepted ≤ count
  · have himage : PaxosAccepted.ofImage (bytes.take count) =
        PaxosAccepted.ofImage bytes :=
      ofImage_of_append (List.take_append_drop count bytes)
        (hlength.symm ▸ hheader)
    have hpositive :
        0 < (PaxosAccepted.ofImage bytes).value.paxosValueLen.toInt := by
      rw [hlen]
      omega
    simp only [bufferToPaxosAccepted, himage]
    rw [if_neg (by omega), dif_pos hpositive, dif_neg (by omega)]
  · rw [bufferToPaxosAccepted, if_pos (by omega)]

variable (bufferId : Word32)

theorem decodeMessage_append (hheader : sizeofPaxosAccepted ≤ bytes.length)
    (hlen : (PaxosAccepted.ofImage bytes).value.paxosValueLen.toInt =
      (bytes.length : ℤ) - sizeofPaxosAccepted) (pointer : Addr) :
    ∃ message, ∀ rest,
      decodeMessage (wordBytes sizeofInt bufferId ++ bytes ++ rest) pointer =
        .ok message := by
  have hvalue : sizeofPaxosAccepted +
      (PaxosAccepted.ofImage bytes).value.paxosValueLen.toInt.toNat ≤
        bytes.length := by
    omega
  obtain ⟨accepted, hdecode, -, -⟩ :=
    bufferToPaxosAccepted_of_fits hheader hvalue pointer
  refine ⟨⟨bufferId, accepted⟩, fun rest => ?_⟩
  simp only [decodeMessage, List.append_assoc, drop_frame, readWord_frame,
    bufferToPaxosAccepted_append hheader hvalue, hdecode, bind, Except.bind,
    pure, Except.pure]

theorem decodeMessage_take
    (hlen : (PaxosAccepted.ofImage bytes).value.paxosValueLen.toInt =
      (bytes.length : ℤ) - sizeofPaxosAccepted)
    (hheader : sizeofPaxosAccepted ≤ bytes.length) {count : ℕ}
    (hcount : count < (wordBytes sizeofInt bufferId ++ bytes).length)
    (pointer : Addr) :
    decodeMessage ((wordBytes sizeofInt bufferId ++ bytes).take count) pointer =
      .error .memory := by
  have hshort : count - sizeofInt < bytes.length := by
    rw [List.length_append, length_wordBytes] at hcount
    simp only [sizeofPaxosAccepted] at hheader
    omega
  have hdrop : ((wordBytes sizeofInt bufferId ++ bytes).take count).drop
      sizeofInt = bytes.take (count - sizeofInt) := by
    rw [List.drop_take, drop_frame]
  simp only [decodeMessage, hdrop, bufferToPaxosAccepted_take hlen hshort,
    bind, Except.bind]

end Decoder

/-! ## What the handlers place -/

/-- The bytes behind the slot index in a frame. -/
structure Placed (kind : DeviceKind) (device : PaxosKernelDevice)
    (msg bytes : List Byte) : Prop where
  length_eq : bytes.length = msg.length
  len_eq : (PaxosAccepted.ofImage bytes).value.paxosValueLen.toInt =
    (bytes.length : ℤ) - sizeofPaxosAccepted
  read_eq : ∀ buffer, ∃ next, deviceRead (isRead kind) device buffer =
    .ok (next,
      overwrite 0 (wordBytes sizeofInt (slotWord device.firstBuf) ++ bytes)
        buffer,
      msg.length + if kind = .read then sizeofInt else 0)

section Handlers

variable {device : PaxosKernelDevice} {msg : List Byte}

theorem placed_write (hsized : WellSized .write msg)
    (hworking : device.working = true)
    (hslot : device.msgBuf device.firstBuf = writeMessage msg) :
    Placed .write device msg (deliveredBytes msg) := by
  have hfits := hsized.fits
  have hsize : effectiveSize msg.length = msg.length := by
    rw [effectiveSize, if_neg]
    simp only [slotSize, sizeofPaxosAccepted, maxPaxosValueSize] at hfits ⊢
    omega
  refine ⟨(length_deliveredBytes msg).trans hsize, ?_, fun buffer => ?_⟩
  · rw [toInt_paxosValueLen_deliveredBytes hsized.header,
      length_deliveredBytes]
  · have hread := writePersistenceRead_eq hworking hslot buffer
    rw [hsize] at hread
    refine ⟨device.dequeue, hread.trans ?_⟩
    rw [if_neg (by decide), Nat.cast_zero, add_zero]
    rfl

theorem placed_read (hsized : WellSized .read msg)
    (hworking : device.working = true)
    (hslot : HoldsRequest (device.msgBuf device.firstBuf) msg) :
    Placed .read device msg
      (slice 0 msg.length (device.msgBuf device.firstBuf).toList) := by
  have hheader := hsized.header
  have hfits := hsized.fits
  have hlen := hsized.len_eq rfl
  have hblock : (device.msgBuf device.firstBuf).toList.length = slotSize :=
    (device.msgBuf device.firstBuf).toList_length
  have hrequest : requestHeader msg = PaxosAccepted.ofImage msg := by
    rw [requestHeader, requestImage, PaxosAccepted.ofImage_append hheader]
  have himage := hslot.ofImage_eq
  have hllen := sizeOfLen_eq (PaxosAccepted.ofImage msg).value.paxosValueLen
    (by omega)
  have hlength : (slice 0 msg.length
      (device.msgBuf device.firstBuf).toList).length = msg.length :=
    length_slice_of_le (by
      simp only [slotSize, sizeofPaxosAccepted, maxPaxosValueSize] at *
      omega)
  refine ⟨hlength, ?_, fun buffer => ?_⟩
  · have hprefix : slice 0 msg.length
        (device.msgBuf device.firstBuf).toList ++
          (device.msgBuf device.firstBuf).toList.drop msg.length =
        (device.msgBuf device.firstBuf).toList := by
      rw [slice_zero, List.take_append_drop]
    rw [ofImage_of_append hprefix (hlength.symm ▸ hheader), himage, hrequest,
      hlen, hlength]
  · have hread := readPersistenceRead_eq hworking
      (show sizeOfLen (PaxosAccepted.ofImage
        (device.msgBuf device.firstBuf).toList).value.paxosValueLen =
          msg.length by
        rw [himage, hrequest]
        omega) (by
          simp only [slotSize, sizeofPaxosAccepted, maxPaxosValueSize] at *
          omega) buffer
    refine ⟨device, ?_⟩
    simp only [deviceRead, isRead, hread, if_true, bind, Except.bind, pure,
      Except.pure]
    rfl

/-- An added message that has become the oldest one is what a read places. -/
theorem exists_placed {kind : DeviceKind} (hsized : WellSized kind msg)
    {before added later : PaxosKernelDevice} {slot : SlotId}
    (hadd : kind.addMessage before msg = .ok (added, some slot))
    (hworking : later.working = true) (hfirst : later.firstBuf = slot)
    (hslot : later.msgBuf slot = added.msgBuf slot) :
    ∃ bytes, Placed kind later msg bytes := by
  cases kind with
  | write =>
      exact ⟨_, placed_write hsized hworking
        (hfirst ▸ hslot.trans (msgBuf_of_added hadd))⟩
  | read =>
      obtain ⟨hnone, -⟩ | ⟨hcurrent, block, hholds, rfl⟩ :=
        readPersistenceAddMessage_cases hsized.fits hadd
      · cases hnone
      · cases hcurrent
        rw [← hfirst] at hslot
        refine ⟨_, placed_read hsized hworking (hslot ▸ ?_)⟩
        rw [hfirst]
        simpa [PaxosKernelDevice.enqueue] using hholds

end Handlers

/-! ## The sizes that agree -/

/-- A frame is one index longer than its message. -/
theorem frameAgrees_iff {kind : DeviceKind} {device : PaxosKernelDevice}
    {msg bytes : List Byte} (hheader : sizeofPaxosAccepted ≤ msg.length)
    (hplaced : Placed kind device msg bytes) :
    (∃ frame, FrameAgrees kind device frame) ↔
      kind = .read ∧ sizeofInt + msg.length ≤ recvSize := by
  have hlength : (wordBytes sizeofInt (slotWord device.firstBuf) ++
      bytes).length = sizeofInt + msg.length := by
    rw [List.length_append, length_wordBytes, hplaced.length_eq]
  constructor
  · rintro ⟨frame, hagrees⟩
    -- Read into an empty buffer, a frame is all there is.
    obtain ⟨next, hread⟩ := hagrees.delivered []
    obtain ⟨other, hsame⟩ := hplaced.read_eq []
    obtain ⟨-, hrest⟩ := Prod.mk.inj (Except.ok.inj (hread.symm.trans hsame))
    obtain ⟨hframe, hreturned⟩ := Prod.mk.inj hrest
    rw [overwrite_all (Nat.zero_le _), overwrite_all (Nat.zero_le _)] at hframe
    have hfits := hagrees.fits
    rw [hframe, hlength] at hreturned hfits
    refine ⟨?_, hfits⟩
    by_contra hwrite
    rw [if_neg hwrite] at hreturned
    simp only [sizeofInt] at hreturned
    omega
  · rintro ⟨rfl, hfits⟩
    have hbytes : sizeofPaxosAccepted ≤ bytes.length :=
      hplaced.length_eq.symm ▸ hheader
    refine ⟨wordBytes sizeofInt (slotWord device.firstBuf) ++ bytes, ?_, ?_, ?_,
      hlength.symm ▸ hfits⟩
    · intro buffer
      obtain ⟨next, hread⟩ := hplaced.read_eq buffer
      refine ⟨next, hread.trans ?_⟩
      rw [hlength, if_pos rfl, Nat.cast_add, add_comm (msg.length : ℤ)]
    · exact decodeMessage_append _ hbytes hplaced.len_eq
    · intro pointer count hcount
      exact decodeMessage_take _ hplaced.len_eq hbytes hcount pointer

/-- A fresh device of either kind takes the message and has it as its oldest
one. -/
theorem exists_added {kind : DeviceKind} {msg : List Byte}
    (hsized : WellSized kind msg) :
    ∃ device added : PaxosKernelDevice,
      kind.addMessage device msg = .ok (added, some added.firstBuf) ∧
        added.working = true := by
  have hfree : (kdevcharInit zeroMemory).usedBuf < bufferSize := by
    rw [kdevcharInit_usedBuf]
    decide
  have hcurrent : (kdevcharInit zeroMemory).currentBuf =
      (kdevcharInit zeroMemory).firstBuf := rfl
  have hworking := kdevcharInit_working zeroMemory
  generalize kdevcharInit zeroMemory = device at hfree hcurrent hworking
  cases kind with
  | write =>
      have hadd := writePersistenceAddMessage_eq hfree msg
      rw [hcurrent] at hadd
      exact ⟨device, _, hadd, hworking⟩
  | read =>
      obtain ⟨block, -, hadd⟩ := readPersistenceAddMessage_eq hfree hsized.fits
      rw [hcurrent] at hadd
      exact ⟨device, _, hadd, hworking⟩

theorem FramesAgree.room {kind : DeviceKind} {msg : List Byte}
    (hsized : WellSized kind msg) (hagree : FramesAgree kind msg) :
    kind = .read ∧ sizeofInt + msg.length ≤ recvSize := by
  obtain ⟨device, added, hadd, hworking⟩ := exists_added hsized
  obtain ⟨bytes, hplaced⟩ := exists_placed hsized hadd hworking rfl rfl
  exact (frameAgrees_iff hsized.header hplaced).mp
    (hagree device added added.firstBuf hadd added hworking rfl rfl)

/-- The sizes agree for exactly the requests that leave room for the index in
the buffer of the thread; the write device never returns the size of its
frame. -/
theorem framesAgree_iff {kind : DeviceKind} {msg : List Byte}
    (hsized : WellSized kind msg) :
    FramesAgree kind msg ↔
      kind = .read ∧ sizeofInt + msg.length ≤ recvSize := by
  constructor
  · exact FramesAgree.room hsized
  · intro hroom device added slot hadd later hworking hfirst hslot
    obtain ⟨bytes, hplaced⟩ := exists_placed hsized hadd hworking hfirst hslot
    exact (frameAgrees_iff hsized.header hplaced).mpr hroom

/-- A header of zeros, which claims no value, with none behind it. -/
def emptyMessage : List Byte :=
  List.replicate sizeofPaxosAccepted 0

theorem wellSized_emptyMessage (kind : DeviceKind) :
    WellSized kind emptyMessage := by
  cases kind with
  | write => exact ⟨by decide, by decide, fun hread => by cases hread⟩
  | read => exact ⟨by decide, by decide, fun _ => by decide +kernel⟩

theorem framesAgree_emptyMessage : FramesAgree .read emptyMessage :=
  (framesAgree_iff (wellSized_emptyMessage .read)).mpr ⟨rfl, by decide⟩

/-- A header that claims a value of this length, and zeros of that length. -/
def zeroValueMessage (len : ℕ) : List Byte :=
  List.replicate paxosValueLenOffset 0 ++
    wordBytes 4 (BitVec.ofNat 32 len) ++ List.replicate (12 + len) 0

/-- What a read of the device returns and how many bytes it has placed, when
the message is the only one that was ever added. -/
def observedSizes (kind : DeviceKind) (msg : List Byte) : Option (ℤ × ℕ) :=
  match kind.addMessage (kdevcharInit zeroMemory) msg with
  | .ok (added, some _) =>
      match deviceRead (isRead kind) added [] with
      | .ok (_, received, ret) => some (ret, received.length)
      | .error _ => none
  | _ => none

/-- The write device returns four bytes less than it places; with the largest
value either device places four bytes more than the thread has room for. -/
theorem sizes_not_agree :
    observedSizes .write emptyMessage = some (40, 44) ∧
      ¬ FramesAgree .write emptyMessage ∧
      observedSizes .read (zeroValueMessage maxPaxosValueSize) =
        some (244, 244) ∧
      ¬ FramesAgree .read (zeroValueMessage maxPaxosValueSize) := by
  have hlargest : WellSized .read (zeroValueMessage maxPaxosValueSize) :=
    ⟨by decide +kernel, by decide +kernel, fun _ => by decide +kernel⟩
  refine ⟨by decide +kernel, fun hagree => ?_, by decide +kernel,
    fun hagree => ?_⟩
  · cases (hagree.room (wellSized_emptyMessage .write)).1
  · exact absurd (hagree.room hlargest).2 (by decide +kernel)

end PaxosPersistence.FrameSizes
