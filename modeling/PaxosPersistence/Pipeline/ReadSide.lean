import PaxosPersistence.Kernel.DeviceRing
import PaxosPersistence.Pipeline.StorageThread

/-!
# The read side

A request stays in the read ring while the thread fetches it, looks its number
up and writes the answer; only the answer removes it.  The answer names its
slot through an index that has travelled through the process, and the handler
removes the first slot without looking at that index.  The relation below says
that the thread always works on the oldest request, so that the two agree.
-/

namespace PaxosPersistence.ReadSide

open PaxosPersistence.ByteBlock
open PaxosPersistence.DeviceRing
open PaxosPersistence.KernelDevice
open PaxosPersistence.LmdbOperations
open PaxosPersistence.Memory
open PaxosPersistence.PaxosTypes
open PaxosPersistence.ReadPersistence
open PaxosPersistence.RingWindow
open PaxosPersistence.StorageThread
open PaxosPersistence.TransactionalMap
open PaxosPersistence.UserStorage
open PaxosPersistence.WritePersistence

abbrev Request := SlotId × List Byte

/-- The request fits into a slot, and its header claims enough of the slot to
bring the number and the length to the thread, and not more than there is. -/
structure Readable (msg : List Byte) : Prop where
  fits : msg.length ≤ slotSize
  len_ge : -12 ≤ (requestHeader msg).value.paxosValueLen.toInt
  len_le : (requestHeader msg).value.paxosValueLen.toInt ≤ maxPaxosValueSize

/-- A slot holds a readable request. -/
def HoldsReadable (block : Block slotSize) (msg : List Byte) : Prop :=
  HoldsRequest block msg ∧ Readable msg

/-- A header with this number and this length, and zeros elsewhere. -/
def headerBytes (iid paxosValueLen : Word32) : List Byte :=
  List.replicate 4 0 ++ wordBytes 4 iid ++ List.replicate 16 0 ++
    wordBytes 4 paxosValueLen ++ List.replicate 12 0

/-! ## Frames -/

/-- A frame that answers a request in this slot with this record. -/
structure Carries (frame : List Byte) (slot : SlotId) (record : PaxosRecord) :
    Prop where
  mapped : Mapped frame
  bufferId_eq : frameBufferId frame = slotWord slot
  value_le : (frameValue frame).length ≤ maxPaxosValueSize
  record_eq : frameRecord frame = record

section Encoded

variable (bufferId : Word32) (accepted : UserAccepted)

theorem frameAccepted_encode :
    frameAccepted (wordBytes sizeofInt bufferId ++ accepted.encode) =
      accepted.header := by
  have hid := length_wordBytes sizeofInt bufferId
  have himage := accepted.header.length_toImage
  rw [frameAccepted, slice_append_right hid.le, hid, Nat.sub_self,
    UserAccepted.encode, slice_append_left (by omega), slice_zero, ← himage,
    List.take_length, PaxosAccepted.ofImage_toImage]

theorem frameValue_encode :
    frameValue (wordBytes sizeofInt bufferId ++ accepted.encode) =
      accepted.value := by
  have hid := length_wordBytes sizeofInt bufferId
  have himage := accepted.header.length_toImage
  rw [frameValue, frameAccepted_encode, slice_append_right (by omega), hid,
    Nat.add_sub_cancel_left, UserAccepted.encode, slice_append_right himage.le,
    himage, Nat.sub_self, ← accepted.length_eq, slice_zero, List.take_length]

theorem frameBufferId_encode :
    frameBufferId (wordBytes sizeofInt bufferId ++ accepted.encode) =
      bufferId := by
  rw [frameBufferId, readWord_frame]

theorem mapped_encode :
    Mapped (wordBytes sizeofInt bufferId ++ accepted.encode) := by
  have hid := length_wordBytes sizeofInt bufferId
  have hencode := accepted.length_encode
  constructor
  · rw [List.length_append, hid, hencode]
    omega
  · intro _
    rw [frameAccepted_encode, List.length_append, hid, hencode]
    omega

end Encoded

/-- The frame `client_value_to_buffer` builds carries what it was given. -/
theorem carries_encode {accepted : UserAccepted} (slot : SlotId)
    (hlen : accepted.header.value.paxosValueLen.toInt ≤ maxPaxosValueSize) :
    Carries (wordBytes sizeofInt (slotWord slot) ++ accepted.encode) slot
      accepted.record where
  mapped := mapped_encode (slotWord slot) accepted
  bufferId_eq := frameBufferId_encode (slotWord slot) accepted
  value_le := by
    have hlength := accepted.length_eq
    rw [frameValue_encode, hlength]
    omega
  record_eq := by
    rw [frameRecord, frameAccepted_encode, frameValue_encode]
    rfl

/-- The buffer of the thread begins with the frame of this request. -/
structure Fetched (recv : List Byte) (slot : SlotId) (msg : List Byte) :
    Prop where
  bufferId_eq : readWord 32 (slice 0 sizeofInt recv) = slotWord slot
  iid_eq : (PaxosAccepted.ofImage (recv.drop sizeofInt)).iid =
    (requestHeader msg).iid
  header : sizeofPaxosAccepted ≤ (recv.drop sizeofInt).length
  value : sizeofPaxosAccepted + (PaxosAccepted.ofImage
      (recv.drop sizeofInt)).value.paxosValueLen.toInt.toNat ≤
    (recv.drop sizeofInt).length

/-- As soon as 28 bytes of a slot are delivered, its number and its length
replace whatever was in the buffer before. -/
theorem ofImage_delivered {bytes : List Byte} {llen : ℕ} (hllen : 28 ≤ llen)
    (hbytes : llen ≤ bytes.length) (rest : List Byte) :
    (PaxosAccepted.ofImage (slice 0 llen bytes ++ rest)).iid =
        (PaxosAccepted.ofImage bytes).iid ∧
      (PaxosAccepted.ofImage
          (slice 0 llen bytes ++ rest)).value.paxosValueLen =
        (PaxosAccepted.ofImage bytes).value.paxosValueLen := by
  have hlength : (slice 0 llen bytes).length = llen :=
    length_slice_of_le (by omega)
  have hword {offset : ℕ} (hoffset : offset + 4 ≤ 28) :
      slice offset 4 (slice 0 llen bytes ++ rest) = slice offset 4 bytes := by
    rw [slice_append_left (by omega), slice_slice (by omega), Nat.zero_add]
  constructor
  · simp only [PaxosAccepted.ofImage, hword (show 4 + 4 ≤ 28 by omega)]
  · simp only [PaxosAccepted.ofImage, hword (show 24 + 4 ≤ 28 by omega)]

theorem fetched_of_holdsReadable {block : Block slotSize} {msg : List Byte}
    (hholds : HoldsReadable block msg) (slot : SlotId) {recv : List Byte}
    (hrecv : slotSize ≤ recv.length) {llen : ℕ}
    (hllen : (llen : ℤ) = sizeofPaxosAccepted +
      (requestHeader msg).value.paxosValueLen.toInt) :
    Fetched (overwrite 0 (readFrame slot block llen) recv) slot msg := by
  obtain ⟨hrequest, hreadable⟩ := hholds
  have hge := hreadable.len_ge
  have hle := hreadable.len_le
  simp only [slotSize, sizeofPaxosAccepted, maxPaxosValueSize] at *
  have hid := length_wordBytes sizeofInt (slotWord slot)
  have hblock : block.toList.length = 240 := block.toList_length
  have hslice : (slice 0 llen block.toList).length = llen :=
    length_slice_of_le (by omega)
  have hframe : (readFrame slot block llen).length = sizeofInt + llen := by
    rw [readFrame, List.length_append, hid, hslice]
  have hdrop : (overwrite 0 (readFrame slot block llen) recv).drop sizeofInt =
      slice 0 llen block.toList ++ recv.drop (sizeofInt + llen) := by
    rw [← hframe]
    exact drop_overwrite_frame (slotWord slot) (slice 0 llen block.toList) recv
  obtain ⟨hiid, hlen⟩ := ofImage_delivered (show 28 ≤ llen by omega)
    (show llen ≤ block.toList.length by omega) (recv.drop (sizeofInt + llen))
  rw [hrequest.ofImage_eq] at hiid hlen
  constructor
  · exact readWord_overwrite_frame (slotWord slot)
      (slice 0 llen block.toList) recv
  · rw [hdrop, hiid]
  · rw [hdrop, List.length_append, hslice, List.length_drop]
    simp only [sizeofInt, sizeofPaxosAccepted]
    omega
  · rw [hdrop, hlen, List.length_append, hslice, List.length_drop]
    simp only [sizeofInt, sizeofPaxosAccepted]
    omega

/-! ## The thread and the oldest request -/

/-- What a thread with this buffer has done about the oldest request; `found`
is the record it has looked up for it. -/
def StageServes (recv : List Byte) (queue : List Request)
    (found : Option PaxosRecord) : Stage → Prop
  | .polling => found = none
  | .reading => found = none ∧ queue ≠ []
  | .decoding => found = none ∧
      ∃ slot msg rest, queue = (slot, msg) :: rest ∧ Fetched recv slot msg
  | .processing message => found = none ∧
      ∃ slot msg rest, queue = (slot, msg) :: rest ∧
        message.bufferId = slotWord slot ∧
        message.value.header.iid = (requestHeader msg).iid
  | .answering frame _ => ∃ slot msg rest record,
      queue = (slot, msg) :: rest ∧ found = some record ∧
        Carries frame slot record
  | .aborted => False

/-- The ring holds the requests of `queue` in the slots named there, and the
thread is serving the first of them. -/
structure ReadSideServes (memory : DeviceMemory) (side : Side)
    (queue : List Request) (found : Option PaxosRecord) : Prop where
  txn_eq : side.thread.lmdbStorage.txn = none
  recv_length : slotSize ≤ side.thread.recv.length
  owned : Owned memory side.device
  ring : RingHolds HoldsReadable side.device (queue.map Prod.snd)
  slots : queue.map Prod.fst = window side.device.firstBuf queue.length
  stage : StageServes side.thread.recv queue found side.thread.stage

theorem readSideServes_start (memory : DeviceMemory) (recv : Block slotSize) :
    ReadSideServes memory ⟨kdevcharInit memory, Thread.start recv⟩ [] none where
  txn_eq := rfl
  recv_length := recv.toList_length.ge
  owned := kdevcharInit_owned memory
  ring := RingHolds.kdevcharInit memory
  slots := rfl
  stage := rfl

/-- The answer fills the callback of one slot and no other. -/
structure FillsOnly (before after : PaxosKernelDevice) (slot : SlotId)
    (record : PaxosRecord) : Prop where
  filled : after.responseRecord slot = record
  others : ∀ other, other ≠ slot →
    after.responseRecord other = before.responseRecord other
  callbackBuf_eq : after.callbackBuf = before.callbackBuf

namespace ReadSideServes

variable {memory : DeviceMemory} {side : Side} {queue : List Request}
variable {found : Option PaxosRecord} {database : Database}

/-! ## Steps of the kernel -/

/-- A request is put into a slot that no pending request is in. -/
theorem addMessage (hside : ReadSideServes memory side queue found)
    (hfree : queue.length < bufferSize) {msg : List Byte}
    (hreadable : Readable msg) :
    ∃ device, readPersistenceAddMessage side.device msg =
        .ok (device, some side.device.currentBuf) ∧
      ReadSideServes memory { side with device }
        (queue ++ [(side.device.currentBuf, msg)]) found ∧
      ∀ slot ∈ queue.map Prod.fst, slot ≠ side.device.currentBuf ∧
        device.msgBuf slot = side.device.msgBuf slot ∧
        device.callbackBuf slot = side.device.callbackBuf slot ∧
        device.responseRecord slot = side.device.responseRecord slot := by
  have hlength : (queue.map Prod.snd).length = queue.length :=
    List.length_map _
  obtain ⟨block, hholds, hadd⟩ := readPersistenceAddMessage_eq
    (hside.ring.usedBuf_lt_iff.mpr (by omega)) hreadable.fits
  have hring := hside.ring.enqueue (by omega)
    (show HoldsReadable block msg from ⟨hholds, hreadable⟩)
  have hcurrent : side.device.currentBuf =
      advance side.device.firstBuf queue.length := by
    rw [hside.ring.occupies.current_eq, hlength]
  refine ⟨side.device.enqueue block, hadd, ⟨hside.txn_eq, hside.recv_length,
    owned_enqueue hside.owned block, by rwa [List.map_append], ?_, ?_⟩, ?_⟩
  · change _ = window side.device.firstBuf _
    rw [List.map_append, hside.slots, List.length_append, List.length_singleton,
      window_concat, ← hcurrent]
    rfl
  · have hstage := hside.stage
    cases hcase : side.thread.stage with
    | polling =>
        rw [hcase] at hstage
        exact hstage
    | reading =>
        rw [hcase] at hstage
        exact ⟨hstage.1, by simp⟩
    | decoding =>
        rw [hcase] at hstage
        obtain ⟨hfound, slot, head, rest, rfl, hfetched⟩ := hstage
        exact ⟨hfound, slot, head, _, rfl, hfetched⟩
    | processing message =>
        rw [hcase] at hstage
        obtain ⟨hfound, slot, head, rest, rfl, hmessage⟩ := hstage
        exact ⟨hfound, slot, head, _, rfl, hmessage⟩
    | answering frame count =>
        rw [hcase] at hstage
        obtain ⟨slot, head, rest, record, rfl, hfound, hcarries⟩ := hstage
        exact ⟨slot, head, _, record, rfl, hfound, hcarries⟩
    | aborted =>
        rw [hcase] at hstage
        exact hstage.elim
  · intro slot hslot
    rw [hside.slots] at hslot
    have hne : slot ≠ side.device.currentBuf := by
      rintro rfl
      rw [hcurrent] at hslot
      exact advance_notMem_window side.device.firstBuf hfree hslot
    refine ⟨hne, Function.update_of_ne hne _ _, Function.update_of_ne hne _ _, ?_⟩
    simp only [PaxosKernelDevice.responseRecord, PaxosKernelDevice.enqueue,
      Function.update_of_ne hne]

/-- A full ring refuses the request. -/
theorem addMessage_full (hside : ReadSideServes memory side queue found)
    (hfull : bufferSize ≤ queue.length) (msg : List Byte) :
    readPersistenceAddMessage side.device msg = .ok (side.device, none) := by
  apply readPersistenceAddMessage_full
  rw [hside.ring.usedBuf_eq, List.length_map]
  exact Int.ofNat_le.mpr hfull

/-! ## Steps of the thread -/

theorem poll (hside : ReadSideServes memory side queue found)
    (hstage : side.thread.stage = .polling) (database : Database)
    (codes : MdbCodes) (pointer : Addr) :
    ∃ next, genericStorageThread true side database codes pointer =
        .ok (next, database, []) ∧
      ReadSideServes memory next queue found ∧
      (queue ≠ [] → next.thread.stage = .reading) := by
  have hserves := hside.stage
  rw [hstage] at hserves
  cases hserves
  have hpolled := hside.ring.devicePoll_iff
  rw [ne_eq, List.map_eq_nil_iff] at hpolled
  refine ⟨side.goto (if side.device.devicePoll then .reading else .polling),
    by simp only [genericStorageThread, hstage], ⟨hside.txn_eq,
    hside.recv_length, hside.owned, hside.ring, hside.slots, ?_⟩,
    fun hqueue => if_pos (hpolled.mpr hqueue)⟩
  change StageServes _ _ _ (if side.device.devicePoll then _ else _)
  by_cases hpoll : side.device.devicePoll
  · rw [if_pos hpoll]
    exact ⟨rfl, hpolled.mp hpoll⟩
  · rw [if_neg hpoll]
    rfl

/-- A read delivers the oldest request and leaves it in the ring. -/
theorem read (hside : ReadSideServes memory side queue found)
    (hstage : side.thread.stage = .reading) (database : Database)
    (codes : MdbCodes) (pointer : Addr) :
    ∃ next, genericStorageThread true side database codes pointer =
        .ok (next, database, []) ∧
      ReadSideServes memory next queue found ∧
      next.thread.stage = .decoding := by
  have hserves := hside.stage
  rw [hstage] at hserves
  obtain ⟨rfl, hqueue⟩ := hserves
  obtain ⟨⟨slot, msg⟩, rest, rfl⟩ := List.exists_cons_of_ne_nil hqueue
  have hring : RingHolds HoldsReadable side.device (msg :: rest.map Prod.snd) :=
    hside.ring
  have hholds := hring.head
  have hslots := hside.slots
  rw [List.map_cons, List.length_cons, window_cons] at hslots
  have hslot : slot = side.device.firstBuf := (List.cons.inj hslots).1
  have hge := hholds.2.len_ge
  have hle := hholds.2.len_le
  have hllen := sizeOfLen_eq (requestHeader msg).value.paxosValueLen (by
    simp only [sizeofPaxosAccepted]
    omega)
  have hread := readPersistenceRead_eq hring.working_eq
    (by rw [hholds.1.ofImage_eq])
    (show sizeOfLen (requestHeader msg).value.paxosValueLen ≤ slotSize by
      simp only [slotSize, sizeofPaxosAccepted, maxPaxosValueSize] at *
      omega) side.thread.recv
  have hreturned : (sizeOfLen (requestHeader msg).value.paxosValueLen : ℤ) +
      sizeofInt ≠ 0 := by
    simp only [sizeofInt]
    omega
  have hfetched := fetched_of_holdsReadable hholds side.device.firstBuf
    hside.recv_length hllen
  refine ⟨{ device := side.device,
            thread := { side.thread with
              recv := overwrite 0 (readFrame side.device.firstBuf
                (side.device.msgBuf side.device.firstBuf)
                (sizeOfLen (requestHeader msg).value.paxosValueLen))
                side.thread.recv
              stage := .decoding } }, ?_,
    ⟨hside.txn_eq, ?_, hside.owned, hside.ring, hside.slots, rfl, slot, msg,
      rest, rfl, by rwa [hslot]⟩, rfl⟩
  · simp only [genericStorageThread, hstage, deviceRead, hread, if_true, ne_eq,
      hreturned, not_false_eq_true, bind, Except.bind, pure, Except.pure]
  · change slotSize ≤ (overwrite 0 _ side.thread.recv).length
    rw [length_overwrite_of_offset_le (Nat.zero_le _)]
    exact le_trans hside.recv_length (Nat.le_max_left _ _)

theorem decode (hside : ReadSideServes memory side queue found)
    (hstage : side.thread.stage = .decoding) (database : Database)
    (codes : MdbCodes) (pointer : Addr) :
    ∃ next message, genericStorageThread true side database codes pointer =
        .ok (next, database, []) ∧
      ReadSideServes memory next queue found ∧
      next.thread.stage = .processing message := by
  have hserves := hside.stage
  rw [hstage] at hserves
  obtain ⟨rfl, slot, msg, rest, rfl, hfetched⟩ := hserves
  obtain ⟨message, hdecode, hbufferId, hrecord, -⟩ :=
    decodeMessage_of_fits hfetched.header hfetched.value pointer
  have hiid : message.value.header.iid = (requestHeader msg).iid := by
    rw [← hfetched.iid_eq]
    exact congrArg PaxosRecord.iid hrecord
  refine ⟨side.goto (.processing message), message, ?_, ⟨hside.txn_eq,
    hside.recv_length, hside.owned, hside.ring, hside.slots, rfl, slot, msg,
    rest, rfl, hbufferId.trans hfetched.bufferId_eq, hiid⟩, rfl⟩
  simp only [genericStorageThread, hstage, hdecode]

/-- The lookup finds what the database stores under the number of the oldest
request. -/
theorem process (hside : ReadSideServes memory side queue found)
    {message : ClientValue} (hstage : side.thread.stage = .processing message)
    (hsettled : database.Settled) (hstorable : Storable database.entries)
    (pointer : Addr) :
    ∃ next after slot msg rest, queue = (slot, msg) :: rest ∧ found = none ∧
      genericStorageThread true side database MdbCodes.success pointer =
        .ok (next, after, [.looked database.entries]) ∧
      after.Settled ∧ after.entries = database.entries ∧
      ReadSideServes memory next queue
        (some (storedRecord database.entries (requestHeader msg).iid)) := by
  have hserves := hside.stage
  rw [hstage] at hserves
  obtain ⟨rfl, slot, msg, rest, rfl, hbufferId, hiid⟩ := hserves
  obtain ⟨after, found, hget, hafter, hentries, hrecord, hsized⟩ :=
    storageGet_storable hside.txn_eq hsettled hstorable
      message.value.header.iid pointer
  have hframe : clientValueToBuffer
      ⟨message.bufferId, found.getD UserAccepted.zeroed⟩ =
        .ok (wordBytes sizeofInt (slotWord slot) ++
          (found.getD UserAccepted.zeroed).encode) := by
    simp only [clientValueToBuffer, paxosAcceptedToBuffer_eq hsized.len_nonneg,
      hbufferId, bind, Except.bind, pure, Except.pure, Option.getD_some]
  have hcarries := carries_encode slot hsized.len_le
  rw [hrecord, hiid] at hcarries
  refine ⟨side.goto (.answering
    (wordBytes sizeofInt (slotWord slot) ++
      (found.getD UserAccepted.zeroed).encode)
    (sizeofInt + sizeOfLen
      (found.getD UserAccepted.zeroed).header.value.paxosValueLen)), after,
    slot, msg, rest, rfl, rfl, ?_, hafter, hentries, ⟨hside.txn_eq,
    hside.recv_length, hside.owned, hside.ring, hside.slots, slot, msg, rest, _,
    rfl, rfl, hcarries⟩⟩
  simp only [genericStorageThread, hstage, processReadMessage, hget, hframe,
    if_true]

/-- The answer fills the callback of the oldest request and removes that
request. -/
theorem answer (hside : ReadSideServes memory side queue found)
    {frame : List Byte} {count : ℕ}
    (hstage : side.thread.stage = .answering frame count) (database : Database)
    (codes : MdbCodes) (pointer : Addr) :
    ∃ next slot msg rest record, queue = (slot, msg) :: rest ∧
      found = some record ∧
      genericStorageThread true side database codes pointer =
        .ok (next, database, [.answered side.device next.device]) ∧
      ReadSideServes memory next rest none ∧
      FillsOnly side.device next.device slot record := by
  have hserves := hside.stage
  rw [hstage] at hserves
  obtain ⟨slot, msg, rest, record, rfl, rfl, hcarries⟩ := hserves
  have hslots := hside.slots
  rw [List.map_cons, List.length_cons, window_cons] at hslots
  have hring := hside.ring
  rw [List.map_cons] at hring
  have hwrite := readPersistenceWrite_eq_bind hring.working_eq hcarries.mapped
    count
  rw [hcarries.bufferId_eq, slotAt_slotWord, Except.bind,
    answerCallback_eq hcarries.mapped hcarries.value_le] at hwrite
  have hfilled : RingHolds HoldsReadable (fillResponse side.device slot
      (frameAccepted frame) (valueBlock (frameValue frame) hcarries.value_le))
      (msg :: rest.map Prod.snd) :=
    ⟨hring.working_eq, hring.usedBuf_eq, hring.occupies, hring.slots⟩
  refine ⟨{ side.goto .polling with
    device := (fillResponse side.device slot (frameAccepted frame)
      (valueBlock (frameValue frame) hcarries.value_le)).dequeue }, slot, msg,
    rest, record, rfl, rfl, ?_, ⟨hside.txn_eq, hside.recv_length,
    owned_dequeue (owned_fillResponse hside.owned slot _), hfilled.dequeue,
    (List.cons.inj hslots).2, rfl⟩, ⟨?_, ?_, rfl⟩⟩
  · simp only [genericStorageThread, hstage, hwrite, bind, Except.bind, pure,
      Except.pure]
  · exact (responseRecord_fillResponse_self slot hcarries.value_le
      hcarries.mapped.length_frameValue.symm).trans hcarries.record_eq
  · intro other hother
    exact responseRecord_fillResponse_of_ne hside.owned hother _

end ReadSideServes

end PaxosPersistence.ReadSide
