import PaxosPersistence.Kernel.KernelDevice

/-!
# The write persistence device

The producer side copies a message into the current slot and rewrites the
length field of its header from the size it was given.  The consumer side
copies the slot index and as many bytes of the oldest slot as its header
claims.  A message therefore leaves the ring with its effective size, whatever
length it arrived with.
-/

namespace PaxosPersistence.WritePersistence

open PaxosPersistence.ByteBlock
open PaxosPersistence.KernelDevice
open PaxosPersistence.Memory
open PaxosPersistence.PaxosTypes
open PaxosPersistence.RingWindow

/-- A longer message is truncated. -/
def effectiveSize (size : ℕ) : ℕ :=
  if slotSize < size then slotSize else size

/-- `write_persistence_add_message`; the callback returned is that of the slot
used. -/
def writePersistenceAddMessage (device : PaxosKernelDevice) (msg : List Byte) :
    Except Halt (PaxosKernelDevice × Option SlotId) :=
  if bufferSize ≤ device.usedBuf then .ok (device, none)
  else do
    let size := effectiveSize msg.length
    let slot := device.currentBuf
    let cleared ← checked
      ((device.msgBuf slot).store 0 (List.replicate slotSize 0))
    let copied ← checked (cleared.store 0 (msg.take size))
    let message ← checked
      (copied.store paxosValueLenOffset (wordBytes 4 (lenOfSize size)))
    return (device.enqueue message, some slot)

/-- The bytes each of the two copies of a read handler fails to deliver. -/
structure ReadFaults where
  bufferId : ℕ
  accepted : ℕ
  deriving DecidableEq

def ReadFaults.none : ReadFaults := ⟨0, 0⟩

/-- `write_persistence_read`: the device, the memory of the reader from its
buffer on, and the return value.  The count is decremented before the copies
are checked, the first index moved on only after. -/
def writePersistenceRead (device : PaxosKernelDevice) (buffer : List Byte)
    (faults : ReadFaults) :
    Except Halt (PaxosKernelDevice × List Byte × ℤ) :=
  if !device.working then .ok (device, buffer, 0)
  else do
    let message := device.msgBuf device.firstBuf
    let llen := sizeOfLen
      (PaxosAccepted.ofImage message.toList).value.paxosValueLen
    let idCopy := copyToUser buffer 0
      (wordBytes sizeofInt (slotWord device.firstBuf)) faults.bufferId
    let source ← checked (message.load 0 llen)
    let messageCopy := copyToUser idCopy.1 sizeofInt source faults.accepted
    let counted := { device with usedBuf := atomicDec device.usedBuf }
    if messageCopy.2 ≠ 0 ∨ idCopy.2 ≠ 0 then
      return (counted, messageCopy.1, -1)
    else
      return ({ counted with firstBuf := advance device.firstBuf 1 },
        messageCopy.1, llen)

/-- `write_persistence_write`: the bytes written are ignored. -/
def writePersistenceWrite (device : PaxosKernelDevice) (len : ℕ) : ℤ :=
  if !device.working then -1 else len

/-! ## What a slot holds after an addition -/

theorem effectiveSize_le (size : ℕ) : effectiveSize size ≤ slotSize := by
  rw [effectiveSize]
  split <;> omega

theorem effectiveSize_le_self (size : ℕ) : effectiveSize size ≤ size := by
  rw [effectiveSize]
  split <;> omega

theorem le_effectiveSize {bound size : ℕ} (hbound : bound ≤ slotSize)
    (hsize : bound ≤ size) : bound ≤ effectiveSize size := by
  rw [effectiveSize]
  split <;> omega

/-- The message padded with zeros to the size of a slot. -/
def paddedMessage (msg : List Byte) : List Byte :=
  overwrite 0 (msg.take (effectiveSize msg.length))
    (List.replicate slotSize 0)

theorem length_take_effectiveSize (msg : List Byte) :
    (msg.take (effectiveSize msg.length)).length = effectiveSize msg.length :=
  List.length_take_of_le (effectiveSize_le_self msg.length)

@[simp]
theorem length_paddedMessage (msg : List Byte) :
    (paddedMessage msg).length = slotSize := by
  have hsize := effectiveSize_le msg.length
  rw [paddedMessage, length_overwrite, List.length_replicate]
  rw [length_take_effectiveSize, List.length_replicate]
  omega

/-- The slot contents of a message: its bytes, zeros behind them, and the
length field computed from its size. -/
def writeMessage (msg : List Byte) : Block slotSize :=
  ⟨overwrite paxosValueLenOffset
      (wordBytes 4 (lenOfSize (effectiveSize msg.length))) (paddedMessage msg),
    by
      rw [length_overwrite, length_paddedMessage]
      simp [paxosValueLenOffset, slotSize]⟩

/-- Clearing a slot, copying the message and rewriting its length leave these
contents, whatever was there before. -/
theorem write_eq_writeMessage (block : Block slotSize) (msg : List Byte)
    (hclear : 0 + (List.replicate slotSize (0 : Byte)).length ≤ slotSize)
    (hcopy : 0 + (msg.take (effectiveSize msg.length)).length ≤ slotSize)
    (hlen : paxosValueLenOffset +
      (wordBytes 4 (lenOfSize (effectiveSize msg.length))).length ≤ slotSize) :
    ((block.write 0 _ hclear).write 0 _ hcopy).write
      paxosValueLenOffset _ hlen = writeMessage msg := by
  have hzero : overwrite 0 (List.replicate slotSize (0 : Byte)) block.toList =
      List.replicate slotSize 0 :=
    overwrite_all (by simp)
  apply List.Vector.eq
  rw [Block.toList_write, Block.toList_write, Block.toList_write, hzero]
  rfl

/-- A ring with a free slot takes every message. -/
theorem writePersistenceAddMessage_eq {device : PaxosKernelDevice}
    (hfree : device.usedBuf < bufferSize) (msg : List Byte) :
    writePersistenceAddMessage device msg =
      .ok (device.enqueue (writeMessage msg), some device.currentBuf) := by
  have hsize := effectiveSize_le msg.length
  have hclear : 0 + (List.replicate slotSize (0 : Byte)).length ≤ slotSize := by
    simp
  have hcopy : 0 + (msg.take (effectiveSize msg.length)).length ≤ slotSize := by
    rw [length_take_effectiveSize]
    omega
  have hlen : paxosValueLenOffset +
      (wordBytes 4 (lenOfSize (effectiveSize msg.length))).length ≤ slotSize := by
    simp [paxosValueLenOffset, slotSize]
  rw [writePersistenceAddMessage, if_neg (by omega)]
  simp only [Block.store_eq_some hclear, Block.store_eq_some hcopy,
    Block.store_eq_some hlen, checked_some, bind, Except.bind, pure,
    Except.pure, write_eq_writeMessage]

/-- A full ring drops the message and says so. -/
theorem writePersistenceAddMessage_full {device : PaxosKernelDevice}
    (hfull : bufferSize ≤ device.usedBuf) (msg : List Byte) :
    writePersistenceAddMessage device msg = .ok (device, none) :=
  if_pos hfull

theorem writePersistenceAddMessage_cases {device next : PaxosKernelDevice}
    {msg : List Byte} {callback : Option SlotId}
    (hadd : writePersistenceAddMessage device msg = .ok (next, callback)) :
    (callback = none ∧ next = device) ∨
      (callback = some device.currentBuf ∧
        next = device.enqueue (writeMessage msg)) := by
  by_cases hfree : device.usedBuf < bufferSize
  · rw [writePersistenceAddMessage_eq hfree] at hadd
    cases hadd
    exact Or.inr ⟨rfl, rfl⟩
  · rw [writePersistenceAddMessage_full (not_lt.mp hfree)] at hadd
    cases hadd
    exact Or.inl ⟨rfl, rfl⟩

theorem toList_writeMessage (msg : List Byte) :
    (writeMessage msg).toList =
      overwrite paxosValueLenOffset
        (wordBytes 4 (lenOfSize (effectiveSize msg.length)))
        (paddedMessage msg) := rfl

/-- The header of a slot claims what the message really brought. -/
theorem paxosValueLen_writeMessage (msg : List Byte) :
    (PaxosAccepted.ofImage (writeMessage msg).toList).value.paxosValueLen =
      lenOfSize (effectiveSize msg.length) := by
  have hoffset : paxosValueLenOffset ≤ (paddedMessage msg).length := by
    simp [paxosValueLenOffset, slotSize]
  have hself := slice_overwrite_self
    (wordBytes 4 (lenOfSize (effectiveSize msg.length))) hoffset
  rw [length_wordBytes] at hself
  change readWord 32 (slice 24 4 (writeMessage msg).toList) = _
  rw [toList_writeMessage, hself,
    readWord_wordBytes PaxosAccepted.word32_width]

theorem sizeOfLen_writeMessage (msg : List Byte) :
    sizeOfLen (PaxosAccepted.ofImage
      (writeMessage msg).toList).value.paxosValueLen =
        effectiveSize msg.length := by
  rw [paxosValueLen_writeMessage, sizeOfLen_lenOfSize (effectiveSize_le _)]

/-- Within its effective size a padded message is the message. -/
theorem slice_paddedMessage {msg : List Byte} {offset count : ℕ}
    (hmsg : offset + count ≤ effectiveSize msg.length) :
    slice offset count (paddedMessage msg) = slice offset count msg := by
  have hinside := slice_overwrite_inside offset count
    (msg.take (effectiveSize msg.length))
    (Nat.zero_le (List.replicate slotSize 0).length)
    (by rw [length_take_effectiveSize]; exact hmsg)
  rw [Nat.zero_add] at hinside
  rw [paddedMessage, hinside, ← slice_zero, slice_slice hmsg, Nat.zero_add]

/-- Before the length field a slot holds the message's own bytes. -/
theorem slice_writeMessage_before {msg : List Byte} {offset count : ℕ}
    (hheader : offset + count ≤ paxosValueLenOffset)
    (hmsg : offset + count ≤ effectiveSize msg.length) :
    slice offset count (writeMessage msg).toList = slice offset count msg := by
  have hpadded : paxosValueLenOffset ≤ (paddedMessage msg).length := by
    simp [paxosValueLenOffset, slotSize]
  rw [toList_writeMessage, slice_overwrite_before hpadded hheader,
    slice_paddedMessage hmsg]

/-- Behind the length field as well. -/
theorem slice_writeMessage_after {msg : List Byte} {offset count : ℕ}
    (hheader : paxosValueLenOffset + 4 ≤ offset)
    (hmsg : offset + count ≤ effectiveSize msg.length) :
    slice offset count (writeMessage msg).toList = slice offset count msg := by
  have hpadded : paxosValueLenOffset ≤ (paddedMessage msg).length := by
    simp [paxosValueLenOffset, slotSize]
  rw [toList_writeMessage, slice_overwrite_after hpadded
    (by rw [length_wordBytes]; exact hheader), slice_paddedMessage hmsg]

/-! ## The record of a message -/

/-- The record a message stands for: its header words, and as value whatever
lies behind the header in its effective bytes. -/
def messageRecord (msg : List Byte) : PaxosRecord where
  aid := readWord 32 (slice 0 4 msg)
  iid := readWord 32 (slice 4 4 msg)
  promiseIid := readWord 32 (slice 8 4 msg)
  ballot := readWord 32 (slice 12 4 msg)
  valueBallot := readWord 32 (slice 16 4 msg)
  value := (msg.take (effectiveSize msg.length)).drop sizeofPaxosAccepted

/-- The bytes of the oldest slot that a read of a message delivers. -/
def deliveredBytes (msg : List Byte) : List Byte :=
  slice 0 (effectiveSize msg.length) (writeMessage msg).toList

@[simp]
theorem length_deliveredBytes (msg : List Byte) :
    (deliveredBytes msg).length = effectiveSize msg.length := by
  have hsize := effectiveSize_le msg.length
  rw [deliveredBytes, length_slice_of_le]
  rw [List.Vector.toList_length]
  omega

/-- A read that brings the length field brings every word up to it, whatever
was in the buffer behind. -/
theorem slice_deliveredBytes_append {msg : List Byte}
    (hsize : 28 ≤ effectiveSize msg.length) {offset : ℕ}
    (hoffset : offset + 4 ≤ 28) (rest : List Byte) :
    slice offset 4 (deliveredBytes msg ++ rest) =
      slice offset 4 (writeMessage msg).toList := by
  have hlength := length_deliveredBytes msg
  rw [slice_append_left (by omega), deliveredBytes, slice_slice (by omega),
    Nat.zero_add]

/-- And with them the length computed from the size. -/
theorem paxosValueLen_deliveredBytes_append {msg : List Byte}
    (hsize : 28 ≤ effectiveSize msg.length) (rest : List Byte) :
    (PaxosAccepted.ofImage
      (deliveredBytes msg ++ rest)).value.paxosValueLen =
        lenOfSize (effectiveSize msg.length) := by
  rw [← paxosValueLen_writeMessage]
  exact congrArg (readWord 32)
    (slice_deliveredBytes_append hsize (by decide) rest)

/-- The value a delivered message carries. -/
theorem drop_deliveredBytes {msg : List Byte}
    (hheader : sizeofPaxosAccepted ≤ msg.length) :
    (deliveredBytes msg).drop sizeofPaxosAccepted = (messageRecord msg).value := by
  have hsize : sizeofPaxosAccepted ≤ effectiveSize msg.length :=
    le_effectiveSize (by simp [sizeofPaxosAccepted, slotSize]) hheader
  have hdrop (source : List Byte) (count : ℕ) :
      (slice 0 count source).drop sizeofPaxosAccepted =
        slice sizeofPaxosAccepted (count - sizeofPaxosAccepted) source := by
    rw [slice_zero, List.drop_take, slice]
  rw [deliveredBytes, hdrop, slice_writeMessage_after
    (by simp [paxosValueLenOffset, sizeofPaxosAccepted]) (by omega), ← hdrop,
    slice_zero]
  rfl

theorem paxosValueLen_deliveredBytes {msg : List Byte}
    (hheader : sizeofPaxosAccepted ≤ msg.length) :
    (PaxosAccepted.ofImage (deliveredBytes msg)).value.paxosValueLen =
      lenOfSize (effectiveSize msg.length) := by
  have hsize : sizeofPaxosAccepted ≤ effectiveSize msg.length :=
    le_effectiveSize (by simp [sizeofPaxosAccepted, slotSize]) hheader
  rw [← paxosValueLen_deliveredBytes_append
    (by simp only [sizeofPaxosAccepted] at hsize; omega) [], List.append_nil]

/-- The claimed length is that of the value really delivered. -/
theorem toInt_paxosValueLen_deliveredBytes {msg : List Byte}
    (hheader : sizeofPaxosAccepted ≤ msg.length) :
    (PaxosAccepted.ofImage (deliveredBytes msg)).value.paxosValueLen.toInt =
      (effectiveSize msg.length : ℤ) - sizeofPaxosAccepted := by
  rw [paxosValueLen_deliveredBytes hheader,
    toInt_lenOfSize (effectiveSize_le _)]

/-- A message at least as long as the header comes out of the ring as the
record it stands for. -/
theorem imageRecord_deliveredBytes {msg : List Byte}
    (hheader : sizeofPaxosAccepted ≤ msg.length) :
    imageRecord (deliveredBytes msg) = messageRecord msg := by
  have hsize : sizeofPaxosAccepted ≤ effectiveSize msg.length :=
    le_effectiveSize (by simp [sizeofPaxosAccepted, slotSize]) hheader
  have hfield {offset count : ℕ} (hfield : offset + count ≤ 24) :
      slice offset count (deliveredBytes msg) = slice offset count msg := by
    rw [deliveredBytes, slice_slice (by
      simp only [sizeofPaxosAccepted] at hsize; omega), Nat.zero_add,
      slice_writeMessage_before hfield (by
        simp only [sizeofPaxosAccepted] at hsize; omega)]
  have hvalue : ((deliveredBytes msg).drop sizeofPaxosAccepted).take
      (lenOfSize (effectiveSize msg.length)).toInt.toNat =
        (messageRecord msg).value := by
    rw [drop_deliveredBytes hheader, List.take_of_length_le]
    rw [toInt_lenOfSize (effectiveSize_le _), messageRecord, List.length_drop,
      length_take_effectiveSize]
    omega
  simp only [imageRecord, PaxosAccepted.record,
    paxosValueLen_deliveredBytes hheader, hvalue]
  simp only [PaxosAccepted.ofImage, hfield (show 0 + 4 ≤ 24 by omega),
    hfield (show 4 + 4 ≤ 24 by omega), hfield (show 8 + 4 ≤ 24 by omega),
    hfield (show 12 + 4 ≤ 24 by omega), hfield (show 16 + 4 ≤ 24 by omega)]
  rfl

/-- So it does with anything behind it, as in the memory of the reader. -/
theorem imageRecord_deliveredBytes_append {msg : List Byte}
    (hheader : sizeofPaxosAccepted ≤ msg.length) (rest : List Byte) :
    imageRecord (deliveredBytes msg ++ rest) = messageRecord msg := by
  have hsize : sizeofPaxosAccepted ≤ effectiveSize msg.length :=
    le_effectiveSize (by simp [sizeofPaxosAccepted, slotSize]) hheader
  have hlen := toInt_paxosValueLen_deliveredBytes hheader
  have hlength := length_deliveredBytes msg
  rw [imageRecord_append (by omega) (by omega),
    imageRecord_deliveredBytes hheader]

/-- And in the slot. -/
theorem imageRecord_writeMessage {msg : List Byte}
    (hheader : sizeofPaxosAccepted ≤ msg.length) :
    imageRecord (writeMessage msg).toList = messageRecord msg := by
  rw [← List.take_append_drop (effectiveSize msg.length)
    (writeMessage msg).toList, ← slice_zero]
  exact imageRecord_deliveredBytes_append hheader _

/-! ## What a read delivers -/

/-- The frame of a message in a slot: the index of the slot, then the
delivered bytes. -/
def writeFrame (slot : SlotId) (msg : List Byte) : List Byte :=
  wordBytes sizeofInt (slotWord slot) ++ deliveredBytes msg

theorem drop_writeFrame (slot : SlotId) (msg rest : List Byte) :
    (writeFrame slot msg ++ rest).drop sizeofInt = deliveredBytes msg ++ rest := by
  rw [writeFrame, List.append_assoc, drop_frame]

/-- What its reader finds behind the slot index. -/
theorem drop_received (slot : SlotId) (msg buffer : List Byte) :
    (overwrite 0 (writeFrame slot msg) buffer).drop sizeofInt =
      deliveredBytes msg ++ buffer.drop (writeFrame slot msg).length :=
  drop_overwrite_frame (slotWord slot) (deliveredBytes msg) buffer

theorem take_drop_received (slot : SlotId) (msg buffer : List Byte) :
    ((overwrite 0 (writeFrame slot msg) buffer).drop sizeofInt).take
      (effectiveSize msg.length) = deliveredBytes msg := by
  rw [drop_received, List.take_left' (length_deliveredBytes msg)]

/-- A read without a fault delivers the index of the first slot and as many
bytes of the slot as its header claims, if the slot has that many. -/
theorem writePersistenceRead_of_le {device : PaxosKernelDevice} {llen : ℕ}
    (hworking : device.working = true)
    (hllen : sizeOfLen (PaxosAccepted.ofImage
      (device.msgBuf device.firstBuf).toList).value.paxosValueLen = llen)
    (hbound : llen ≤ slotSize) (buffer : List Byte) :
    writePersistenceRead device buffer ReadFaults.none =
      .ok (device.dequeue,
        overwrite 0 (wordBytes sizeofInt (slotWord device.firstBuf) ++
          slice 0 llen (device.msgBuf device.firstBuf).toList) buffer,
        llen) := by
  have hload : (device.msgBuf device.firstBuf).load 0 llen =
      some (slice 0 llen (device.msgBuf device.firstBuf).toList) :=
    Block.load_eq_some (by omega)
  have hframe := overwrite_overwrite_zero
    (wordBytes sizeofInt (slotWord device.firstBuf))
    (slice 0 llen (device.msgBuf device.firstBuf).toList) buffer
  rw [length_wordBytes] at hframe
  rw [writePersistenceRead, if_neg (by simp [hworking])]
  simp only [hllen, hload, checked_some, copyToUser_zero, ReadFaults.none,
    bind, Except.bind, pure, Except.pure, hframe, ne_eq, not_true_eq_false,
    or_self, if_false]
  rfl

/-- A read without a fault of a slot that holds a message delivers its frame
and removes it from the ring. -/
theorem writePersistenceRead_eq {device : PaxosKernelDevice}
    {msg : List Byte} (hworking : device.working = true)
    (hslot : device.msgBuf device.firstBuf = writeMessage msg)
    (buffer : List Byte) :
    writePersistenceRead device buffer ReadFaults.none =
      .ok (device.dequeue, overwrite 0 (writeFrame device.firstBuf msg) buffer,
        effectiveSize msg.length) := by
  rw [writePersistenceRead_of_le hworking
    (by rw [hslot, sizeOfLen_writeMessage]) (effectiveSize_le msg.length),
    hslot]
  rfl

/-- Whatever the ring holds and whatever the copies do, a read that comes to
an end has counted the message down; only a successful one has removed it. -/
theorem writePersistenceRead_cases {device next : PaxosKernelDevice}
    {buffer received : List Byte} {faults : ReadFaults} {len : ℤ}
    (hworking : device.working = true)
    (hread : writePersistenceRead device buffer faults =
      .ok (next, received, len)) :
    (len = -1 ∧ next = { device with usedBuf := atomicDec device.usedBuf }) ∨
      (0 ≤ len ∧ next = device.dequeue) := by
  rw [writePersistenceRead, if_neg (by simp [hworking])] at hread
  obtain ⟨source, -, hcopied⟩ := bind_eq_ok.mp hread
  dsimp only at hcopied
  split at hcopied
  · cases hcopied
    exact Or.inl ⟨rfl, rfl⟩
  · cases hcopied
    exact Or.inr ⟨Int.natCast_nonneg _, rfl⟩

/-- Without regard to the working flag. -/
theorem writePersistenceRead_effect {device next : PaxosKernelDevice}
    {buffer received : List Byte} {faults : ReadFaults} {len : ℤ}
    (hread : writePersistenceRead device buffer faults =
      .ok (next, received, len)) :
    next = device ∨ next = { device with usedBuf := atomicDec device.usedBuf } ∨
      next = device.dequeue := by
  by_cases hworking : device.working = true
  · exact Or.inr ((writePersistenceRead_cases hworking hread).imp
      And.right And.right)
  · rw [writePersistenceRead, if_pos (by simp [hworking])] at hread
    cases hread
    exact Or.inl rfl

end PaxosPersistence.WritePersistence
