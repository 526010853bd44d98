import PaxosPersistence.Kernel.DeviceRing
import PaxosPersistence.Kernel.WritePersistence

/-!
# The read persistence device

A request stays in its slot while the reader looks it up: the read handler only
peeks at the first slot, and the write handler, called with the answer, fills
the callback named in the answer's frame and removes the first request.  The
slot index echoed by the reader and the length in its frame are used as they
come.
-/

namespace PaxosPersistence.ReadPersistence

open PaxosPersistence.ByteBlock
open PaxosPersistence.DeviceRing
open PaxosPersistence.KernelDevice
open PaxosPersistence.Memory
open PaxosPersistence.PaxosTypes
open PaxosPersistence.RingWindow
open PaxosPersistence.WritePersistence

/-- `read_persistence_add_message`: only the header of the slot is cleared,
and the size is not limited. -/
def readPersistenceAddMessage (device : PaxosKernelDevice) (msg : List Byte) :
    Except Halt (PaxosKernelDevice × Option SlotId) :=
  if bufferSize ≤ device.usedBuf then .ok (device, none)
  else do
    let slot := device.currentBuf
    let cleared ← checked ((device.msgBuf slot).store 0
      (List.replicate sizeofPaxosAccepted 0))
    let message ← checked (cleared.store 0 msg)
    return (device.enqueue message, some slot)

/-- `read_persistence_read`: the memory of the reader from its buffer on, and
the return value; the device stays as it is. -/
def readPersistenceRead (device : PaxosKernelDevice) (buffer : List Byte)
    (faults : ReadFaults) : Except Halt (List Byte × ℤ) :=
  if !device.working then .ok (buffer, 0)
  else do
    let message := device.msgBuf device.firstBuf
    let llen := sizeOfLen
      (PaxosAccepted.ofImage message.toList).value.paxosValueLen
    let idCopy := copyToUser buffer 0
      (wordBytes sizeofInt (slotWord device.firstBuf)) faults.bufferId
    let source ← checked (message.load 0 llen)
    let messageCopy := copyToUser idCopy.1 sizeofInt source faults.accepted
    if messageCopy.2 ≠ 0 ∨ idCopy.2 ≠ 0 then return (messageCopy.1, -1)
    else return (messageCopy.1, llen + sizeofInt)

/-- The bytes each of the three copies of the answer handler misses. -/
structure WriteFaults where
  bufferId : ℕ
  accepted : ℕ
  value : ℕ
  deriving DecidableEq

def WriteFaults.none : WriteFaults := ⟨0, 0, 0⟩

/-- `read_persistence_write` from the point where it has its callback.  The
structure is copied over the live value pointer, which is put back afterwards;
the first request is removed before the last copy is checked. -/
def answerCallback (device : PaxosKernelDevice) (slot : SlotId)
    (buffer : List Byte) (len : ℕ) (faults : WriteFaults) :
    Except Halt (PaxosKernelDevice × ℤ) :=
  let callback := device.callbackBuf slot
  let pointer := callback.response
  let cleared := device.clearPaxosAccepted pointer
  let paxosVal := (cleared.accepted pointer).value.paxosValueVal
  let acceptedCopy :=
    copyFromUser buffer sizeofInt sizeofPaxosAccepted faults.accepted
  let copied := cleared.setAccepted pointer
    (PaxosAccepted.ofImage acceptedCopy.1)
  let accepted := copied.accepted pointer
  let repaired := copied.setAccepted pointer
    { accepted with
      value := { accepted.value with paxosValueVal := paxosVal } }
  if acceptedCopy.2 ≠ 0 then .ok (repaired, -1)
  else do
    let paxosValueLen := accepted.value.paxosValueLen.toInt
    let valueCopy :=
      if 0 < paxosValueLen then
        copyFromUser buffer (sizeofInt + sizeofPaxosAccepted)
          paxosValueLen.toNat faults.value
      else ([], 0)
    let value ← checked ((repaired.values paxosVal).store 0 valueCopy.1)
    let removed := (repaired.setValue paxosVal value).dequeue
    if valueCopy.2 ≠ 0 then return (removed, -1)
    else if callback.isDone then return (removed, len)
    else
      return (removed.setCallback slot { callback with response := pointer },
        len)

/-- `read_persistence_write` -/
def readPersistenceWrite (device : PaxosKernelDevice) (buffer : List Byte)
    (len : ℕ) (faults : WriteFaults) :
    Except Halt (PaxosKernelDevice × ℤ) :=
  if !device.working then .ok (device, -1)
  else
    let idCopy := copyFromUser buffer 0 sizeofInt faults.bufferId
    if idCopy.2 ≠ 0 then .ok (device, -1)
    else do
      let slot ← slotAt (readWord 32 idCopy.1)
      answerCallback device slot buffer len faults

/-! ## Requests in the ring -/

/-- The bytes a request determines in its slot: its own, and zeros in the rest
of the header. -/
def requestImage (msg : List Byte) : List Byte :=
  msg ++ List.replicate (sizeofPaxosAccepted - msg.length) 0

/-- A slot of the read ring represents a request; whatever an earlier request
left behind these bytes is still there. -/
def HoldsRequest (block : Block slotSize) (msg : List Byte) : Prop :=
  slice 0 (requestImage msg).length block.toList = requestImage msg

theorem length_requestImage (msg : List Byte) :
    (requestImage msg).length = max sizeofPaxosAccepted msg.length := by
  simp only [requestImage, List.length_append, List.length_replicate]
  omega

/-- The header the reader finds in front of a request. -/
def requestHeader (msg : List Byte) : PaxosAccepted :=
  PaxosAccepted.ofImage (requestImage msg)

theorem HoldsRequest.ofImage_eq {block : Block slotSize} {msg : List Byte}
    (hholds : HoldsRequest block msg) :
    PaxosAccepted.ofImage block.toList = requestHeader msg := by
  have htake : block.toList.take sizeofPaxosAccepted =
      (requestImage msg).take sizeofPaxosAccepted := by
    have hlength := length_requestImage msg
    rw [← congrArg (List.take sizeofPaxosAccepted) hholds, slice_zero,
      List.take_take, Nat.min_eq_left (by omega)]
  rw [requestHeader, ← PaxosAccepted.ofImage_take, htake,
    PaxosAccepted.ofImage_take]

/-- Clearing the header of a slot and copying a request leave the request
there. -/
theorem holdsRequest_write (block : Block slotSize) {msg : List Byte}
    (hclear : 0 + (List.replicate sizeofPaxosAccepted (0 : Byte)).length ≤
      slotSize) (hcopy : 0 + msg.length ≤ slotSize) :
    HoldsRequest ((block.write 0 _ hclear).write 0 _ hcopy) msg := by
  rw [HoldsRequest, slice_zero, Block.toList_write, Block.toList_write,
    overwrite_zero, overwrite_zero, List.drop_append, List.drop_replicate,
    ← List.append_assoc]
  exact List.take_left

/-- A ring with a free slot takes every request that fits into a slot. -/
theorem readPersistenceAddMessage_eq {device : PaxosKernelDevice}
    (hfree : device.usedBuf < bufferSize) {msg : List Byte}
    (hsize : msg.length ≤ slotSize) :
    ∃ block, HoldsRequest block msg ∧
      readPersistenceAddMessage device msg =
        .ok (device.enqueue block, some device.currentBuf) := by
  have hclear : 0 + (List.replicate sizeofPaxosAccepted (0 : Byte)).length ≤
      slotSize := by
    simp [sizeofPaxosAccepted, slotSize]
  have hcopy : 0 + msg.length ≤ slotSize := by omega
  refine ⟨((device.msgBuf device.currentBuf).write 0 _ hclear).write 0 _ hcopy,
    holdsRequest_write _ hclear hcopy, ?_⟩
  rw [readPersistenceAddMessage, if_neg (by omega)]
  simp only [Block.store_eq_some hclear, Block.store_eq_some hcopy,
    checked_some, bind, Except.bind, pure, Except.pure]

/-- The first request of a device, with nothing in it. -/
theorem exists_firstRequest (memory : DeviceMemory) :
    ∃ block, readPersistenceAddMessage (kdevcharInit memory) [] =
        .ok ((kdevcharInit memory).enqueue block,
          some (kdevcharInit memory).currentBuf) ∧
      ((kdevcharInit memory).enqueue block).usedBuf = 1 ∧
      ((kdevcharInit memory).enqueue block).firstBuf = 0 := by
  obtain ⟨block, -, hadd⟩ := @readPersistenceAddMessage_eq
    (kdevcharInit memory) (by simp) [] (by simp)
  exact ⟨block, hadd, PaxosKernelDevice.usedBuf_enqueue_of_zero
    (kdevcharInit_usedBuf memory) block, rfl⟩

/-- A request longer than a slot is copied past its end. -/
theorem readPersistenceAddMessage_overrun {device : PaxosKernelDevice}
    (hfree : device.usedBuf < bufferSize) {msg : List Byte}
    (hsize : slotSize < msg.length) :
    readPersistenceAddMessage device msg = .error .memory := by
  have hclear : 0 + (List.replicate sizeofPaxosAccepted (0 : Byte)).length ≤
      slotSize := by
    simp [sizeofPaxosAccepted, slotSize]
  rw [readPersistenceAddMessage, if_neg (by omega)]
  simp only [Block.store_eq_some hclear, Block.store_eq_none
    (show slotSize < 0 + msg.length by omega), checked_some, checked_none,
    bind, Except.bind]

theorem readPersistenceAddMessage_full {device : PaxosKernelDevice}
    (hfull : bufferSize ≤ device.usedBuf) (msg : List Byte) :
    readPersistenceAddMessage device msg = .ok (device, none) :=
  if_pos hfull

/-- An addition that comes to an end was refused, or has put the request into
the current slot. -/
theorem readPersistenceAddMessage_cases {device next : PaxosKernelDevice}
    {msg : List Byte} {callback : Option SlotId} (hsize : msg.length ≤ slotSize)
    (hadd : readPersistenceAddMessage device msg = .ok (next, callback)) :
    (callback = none ∧ next = device) ∨
      (callback = some device.currentBuf ∧
        ∃ block, HoldsRequest block msg ∧ next = device.enqueue block) := by
  by_cases hfull : bufferSize ≤ device.usedBuf
  · rw [readPersistenceAddMessage_full hfull] at hadd
    cases hadd
    exact Or.inl ⟨rfl, rfl⟩
  · obtain ⟨block, hholds, haccepted⟩ :=
      readPersistenceAddMessage_eq (not_le.mp hfull) hsize
    rw [haccepted] at hadd
    cases hadd
    exact Or.inr ⟨rfl, block, hholds, rfl⟩

/-! ## What a read delivers -/

/-- The frame of the first slot: its index, then as many bytes of it as its
header claims. -/
def readFrame (slot : SlotId) (block : Block slotSize) (llen : ℕ) : List Byte :=
  wordBytes sizeofInt (slotWord slot) ++ slice 0 llen block.toList

theorem readPersistenceRead_eq {device : PaxosKernelDevice} {llen : ℕ}
    (hworking : device.working = true)
    (hllen : sizeOfLen (PaxosAccepted.ofImage
      (device.msgBuf device.firstBuf).toList).value.paxosValueLen = llen)
    (hbound : llen ≤ slotSize) (buffer : List Byte) :
    readPersistenceRead device buffer ReadFaults.none =
      .ok (overwrite 0 (readFrame device.firstBuf
        (device.msgBuf device.firstBuf) llen) buffer, llen + sizeofInt) := by
  have hload : (device.msgBuf device.firstBuf).load 0 llen =
      some (slice 0 llen (device.msgBuf device.firstBuf).toList) :=
    Block.load_eq_some (by omega)
  have hframe := overwrite_overwrite_zero
    (wordBytes sizeofInt (slotWord device.firstBuf))
    (slice 0 llen (device.msgBuf device.firstBuf).toList) buffer
  rw [length_wordBytes] at hframe
  rw [readPersistenceRead, if_neg (by simp [hworking])]
  simp only [hllen, hload, checked_some, copyToUser_zero, ReadFaults.none,
    bind, Except.bind, pure, Except.pure, hframe, ne_eq, not_true_eq_false,
    or_self, if_false]
  rfl

/-! ## What an answer does -/

/-- The response structure and the value buffer behind a callback, filled; the
pointer from the one to the other stays. -/
def fillResponse (device : PaxosKernelDevice) (slot : SlotId)
    (accepted : PaxosAccepted) (value : Block maxPaxosValueSize) :
    PaxosKernelDevice :=
  let pointer := (device.callbackBuf slot).response
  let paxosVal := (device.accepted pointer).value.paxosValueVal
  (device.setAccepted pointer
    { accepted with
      value := { accepted.value with paxosValueVal := paxosVal } }).setValue
    paxosVal value

/-- The structure in an answer's frame. -/
def frameAccepted (frame : List Byte) : PaxosAccepted :=
  PaxosAccepted.ofImage (slice sizeofInt sizeofPaxosAccepted frame)

/-- The value bytes an answer's frame claims to carry. -/
def frameValue (frame : List Byte) : List Byte :=
  slice (sizeofInt + sizeofPaxosAccepted)
    (frameAccepted frame).value.paxosValueLen.toInt.toNat frame

/-- The record an answer's frame carries. -/
def frameRecord (frame : List Byte) : PaxosRecord :=
  (frameAccepted frame).record (frameValue frame)

/-- The slot an answer's frame names. -/
def frameBufferId (frame : List Byte) : Word32 :=
  readWord 32 (slice 0 sizeofInt frame)

/-- All three copies from a frame can be complete. -/
structure Mapped (frame : List Byte) : Prop where
  header : sizeofInt + sizeofPaxosAccepted ≤ frame.length
  value : 0 < (frameAccepted frame).value.paxosValueLen.toInt →
    sizeofInt + sizeofPaxosAccepted +
      (frameAccepted frame).value.paxosValueLen.toInt.toNat ≤ frame.length

theorem Mapped.length_frameValue {frame : List Byte} (hmapped : Mapped frame) :
    (frameValue frame).length =
      (frameAccepted frame).value.paxosValueLen.toInt.toNat := by
  rw [frameValue, length_slice]
  by_cases hpositive : 0 < (frameAccepted frame).value.paxosValueLen.toInt
  · have := hmapped.value hpositive
    omega
  · omega

theorem readPersistenceWrite_eq_bind {device : PaxosKernelDevice}
    {frame : List Byte} (hworking : device.working = true)
    (hmapped : Mapped frame) (len : ℕ) :
    readPersistenceWrite device frame len WriteFaults.none =
      (slotAt (frameBufferId frame)).bind fun slot =>
        answerCallback device slot frame len WriteFaults.none := by
  have hid : copyFromUser frame 0 sizeofInt 0 =
      (slice 0 sizeofInt frame, 0) := copyFromUser_zero (by
    have := hmapped.header
    omega)
  rw [readPersistenceWrite, if_neg (by simp [hworking])]
  simp only [WriteFaults.none, hid]
  rfl

/-- The bytes the handler stores behind the value pointer: none when the
claimed length is not positive. -/
theorem valueCopy_eq {frame : List Byte} (hmapped : Mapped frame) :
    (if 0 < (frameAccepted frame).value.paxosValueLen.toInt then
        copyFromUser frame (sizeofInt + sizeofPaxosAccepted)
          (frameAccepted frame).value.paxosValueLen.toInt.toNat 0
      else ([], 0)) = (frameValue frame, 0) := by
  split
  · rename_i hpositive
    exact copyFromUser_zero (hmapped.value hpositive)
  · rename_i hnonpositive
    have hlength := hmapped.length_frameValue
    rw [Int.toNat_of_nonpos (not_lt.mp hnonpositive)] at hlength
    rw [List.eq_nil_of_length_eq_zero hlength]

/-- The value buffer of a callback after an answer: the value, then zeros. -/
def valueBlock (value : List Byte) (hvalue : value.length ≤ maxPaxosValueSize) :
    Block maxPaxosValueSize :=
  (Block.zero maxPaxosValueSize).write 0 value (by omega)

/-- An answer that fits fills the callback it names and removes the first
request. -/
theorem answerCallback_eq {frame : List Byte} (hmapped : Mapped frame)
    (hvalue : (frameValue frame).length ≤ maxPaxosValueSize)
    (device : PaxosKernelDevice) (slot : SlotId) (len : ℕ) :
    answerCallback device slot frame len WriteFaults.none =
      .ok ((fillResponse device slot (frameAccepted frame)
        (valueBlock (frameValue frame) hvalue)).dequeue, len) := by
  have haccepted : copyFromUser frame sizeofInt sizeofPaxosAccepted 0 =
      (slice sizeofInt sizeofPaxosAccepted frame, 0) :=
    copyFromUser_zero hmapped.header
  have hstore (block : Block maxPaxosValueSize) :
      block.store 0 (frameValue frame) =
        some (block.write 0 (frameValue frame) (by omega)) :=
    Block.store_eq_some (by omega)
  have hheader : PaxosAccepted.ofImage
      (slice sizeofInt sizeofPaxosAccepted frame) = frameAccepted frame := rfl
  simp only [answerCallback, WriteFaults.none, haccepted, hheader,
    PaxosKernelDevice.setAccepted_accepted,
    PaxosKernelDevice.setAccepted_setAccepted,
    PaxosKernelDevice.setAccepted_values,
    PaxosKernelDevice.clearPaxosAccepted_paxosValueVal,
    PaxosKernelDevice.clearPaxosAccepted_values,
    PaxosKernelDevice.clearPaxosAccepted_fill, valueCopy_eq hmapped, hstore,
    checked_some, bind, Except.bind, pure, Except.pure, ne_eq,
    not_true_eq_false, if_false]
  split
  · rfl
  · exact congrArg (fun next => Except.ok (next, (len : ℤ)))
      (PaxosKernelDevice.setCallback_self _ slot)

/-- A claimed length beyond the value buffer is copied past its end. -/
theorem answerCallback_overrun {frame : List Byte} (hmapped : Mapped frame)
    (hvalue : maxPaxosValueSize < (frameValue frame).length)
    (device : PaxosKernelDevice) (slot : SlotId) (len : ℕ) :
    answerCallback device slot frame len WriteFaults.none = .error .memory := by
  have haccepted : copyFromUser frame sizeofInt sizeofPaxosAccepted 0 =
      (slice sizeofInt sizeofPaxosAccepted frame, 0) :=
    copyFromUser_zero hmapped.header
  have hstore (block : Block maxPaxosValueSize) :
      block.store 0 (frameValue frame) = none :=
    Block.store_eq_none (by omega)
  have hheader : PaxosAccepted.ofImage
      (slice sizeofInt sizeofPaxosAccepted frame) = frameAccepted frame := rfl
  simp only [answerCallback, WriteFaults.none, haccepted, hheader,
    PaxosKernelDevice.setAccepted_accepted, valueCopy_eq hmapped, hstore,
    checked_none, bind, Except.bind, ne_eq, not_true_eq_false, if_false]

/-- Whatever the frame and the copy faults, an answer that comes to an end has
filled the callback it names, and it has removed the first request unless it
failed before the value was copied. -/
theorem answerCallback_cases {device next : PaxosKernelDevice} {slot : SlotId}
    {frame : List Byte} {len : ℕ} {faults : WriteFaults} {ret : ℤ}
    (hcall : answerCallback device slot frame len faults = .ok (next, ret)) :
    ∃ accepted value,
      (ret = -1 ∧ next = fillResponse device slot accepted value) ∨
        next = (fillResponse device slot accepted value).dequeue := by
  simp only [answerCallback, PaxosKernelDevice.setAccepted_accepted,
    PaxosKernelDevice.setAccepted_setAccepted,
    PaxosKernelDevice.setAccepted_values,
    PaxosKernelDevice.clearPaxosAccepted_paxosValueVal,
    PaxosKernelDevice.clearPaxosAccepted_values,
    PaxosKernelDevice.clearPaxosAccepted_fill, bind, Except.bind, pure,
    Except.pure] at hcall
  generalize copyFromUser frame sizeofInt sizeofPaxosAccepted faults.accepted =
    acceptedCopy at hcall
  refine ⟨PaxosAccepted.ofImage acceptedCopy.1, ?_⟩
  by_cases hincomplete : acceptedCopy.2 ≠ 0
  · rw [if_pos hincomplete] at hcall
    obtain ⟨rfl, rfl⟩ := Prod.mk.inj (Except.ok.inj hcall)
    exact ⟨Block.zero maxPaxosValueSize, Or.inl ⟨rfl,
      PaxosKernelDevice.clearPaxosAccepted_setAccepted ..⟩⟩
  · rw [if_neg hincomplete] at hcall
    generalize (if 0 < (PaxosAccepted.ofImage
          acceptedCopy.1).value.paxosValueLen.toInt then
        copyFromUser frame (sizeofInt + sizeofPaxosAccepted)
          (PaxosAccepted.ofImage
            acceptedCopy.1).value.paxosValueLen.toInt.toNat faults.value
      else ([], 0)) = valueCopy at hcall
    cases hstored : checked ((Block.zero maxPaxosValueSize).store 0
      valueCopy.1) with
    | error halt =>
        rw [hstored] at hcall
        exact nomatch hcall
    | ok value =>
        rw [hstored] at hcall
        refine ⟨value, Or.inr ?_⟩
        dsimp only at hcall
        split at hcall
        · exact (Prod.mk.inj (Except.ok.inj hcall)).1.symm
        · split at hcall
          · exact (Prod.mk.inj (Except.ok.inj hcall)).1.symm
          · rw [← (Prod.mk.inj (Except.ok.inj hcall)).1]
            exact PaxosKernelDevice.setCallback_self _ slot

/-- Likewise for the whole handler, which may also have done nothing. -/
theorem readPersistenceWrite_cases {device next : PaxosKernelDevice}
    {frame : List Byte} {len : ℕ} {faults : WriteFaults} {ret : ℤ}
    (hcall : readPersistenceWrite device frame len faults = .ok (next, ret)) :
    next = device ∨ ∃ slot accepted value,
      next = fillResponse device slot accepted value ∨
        next = (fillResponse device slot accepted value).dequeue := by
  rw [readPersistenceWrite] at hcall
  split at hcall
  · exact Or.inl (Prod.mk.inj (Except.ok.inj hcall)).1.symm
  · dsimp only at hcall
    split at hcall
    · exact Or.inl (Prod.mk.inj (Except.ok.inj hcall)).1.symm
    · obtain ⟨slot, -, hanswer⟩ := bind_eq_ok.mp hcall
      obtain ⟨accepted, value, ⟨-, hnext⟩ | hnext⟩ :=
        answerCallback_cases hanswer
      · exact Or.inr ⟨slot, accepted, value, Or.inl hnext⟩
      · exact Or.inr ⟨slot, accepted, value, Or.inr hnext⟩

/-! ## The response behind a filled callback -/

section Filled

variable {memory : DeviceMemory} {device : PaxosKernelDevice}
variable {accepted : PaxosAccepted}

theorem owned_fillResponse (howned : Owned memory device) (slot : SlotId)
    (value : Block maxPaxosValueSize) :
    Owned memory (fillResponse device slot accepted value) where
  response_eq := howned.response_eq
  value_eq other := by
    simp only [fillResponse, PaxosKernelDevice.setAccepted,
      PaxosKernelDevice.setValue, howned.response_eq, howned.value_eq]
    by_cases hother : other = slot
    · rw [hother, Function.update_self]
    · rw [Function.update_of_ne (memory.response_injective.ne hother)]
      exact howned.value_eq other

/-- The record of a filled callback is the one filled in. -/
theorem responseRecord_fillResponse_self (slot : SlotId) {value : List Byte}
    (hvalue : value.length ≤ maxPaxosValueSize)
    (hlen : accepted.value.paxosValueLen.toInt.toNat = value.length) :
    (fillResponse device slot accepted
        (valueBlock value hvalue)).responseRecord slot =
      accepted.record value := by
  simp only [fillResponse, valueBlock, PaxosKernelDevice.responseRecord,
    PaxosKernelDevice.setAccepted, PaxosKernelDevice.setValue,
    Function.update_self, PaxosAccepted.record, Block.toList_write,
    overwrite_zero, hlen, List.take_left, List.take_length]

/-- The pointers of distinct callbacks being distinct, every other response
stays as it is. -/
theorem responseRecord_fillResponse_of_ne (howned : Owned memory device)
    {slot other : SlotId} (hne : other ≠ slot)
    (value : Block maxPaxosValueSize) :
    (fillResponse device slot accepted value).responseRecord other =
      device.responseRecord other := by
  have hresponse : memory.response other ≠ memory.response slot :=
    memory.response_injective.ne hne
  have hvalues : memory.value other ≠ memory.value slot :=
    memory.value_injective.ne hne
  simp only [fillResponse, PaxosKernelDevice.responseRecord,
    PaxosKernelDevice.setAccepted, PaxosKernelDevice.setValue,
    howned.response_eq, howned.value_eq, Function.update_of_ne hresponse,
    Function.update_of_ne hvalues]

end Filled

end PaxosPersistence.ReadPersistence
