import PaxosPersistence.Kernel.ReadPersistence
import PaxosPersistence.Storage.UserStorage

/-!
# The storage threads

The storage process runs `generic_storage_thread` twice, once on each device.
A thread polls, reads a frame into its buffer, decodes it and processes it; the
thread on the read device then writes an answer.  These are separate steps here,
between which the kernel may change the device.  A failed assertion or a memory
fault of the process aborts it; a fault of a handler is a fault of the kernel.
-/

namespace PaxosPersistence.StorageThread

open PaxosPersistence.ByteBlock
open PaxosPersistence.KernelDevice
open PaxosPersistence.LmdbOperations
open PaxosPersistence.Memory
open PaxosPersistence.PaxosTypes
open PaxosPersistence.ReadPersistence
open PaxosPersistence.UserStorage
open PaxosPersistence.WritePersistence

/-- What an observer sees of the kernel, of the two threads and of the workers
that wait for answers; a work is named by the number of its request. -/
inductive Event where
  /-- `write_persistence_add_message` returned a callback. -/
  | accepted (msg : List Byte)
  /-- It returned none; `used_buf` at that time. -/
  | refused (msg : List Byte) (usedBuf : ℤ)
  /-- What `write_test_write` returned to its caller. -/
  | returned (msg : List Byte) (ret : ℤ)
  /-- `storage_put` returned zero. -/
  | committed (accepted : UserAccepted)
  /-- It returned something else, or the process was aborted in it. -/
  | failed (accepted : UserAccepted) (codes : MdbCodes)
  /-- `read_persistence_add_message` put a request into a slot. -/
  | requested (slot : SlotId) (msg : List Byte)
      (before after : PaxosKernelDevice)
  /-- `storage_get` ran on a database with these entries. -/
  | looked (entries : List Byte → Option (List Byte))
  /-- `read_persistence_write` was called with an answer. -/
  | answered (before after : PaxosKernelDevice)
  /-- The timeout of a work that waits for its answer has elapsed. -/
  | elapsed (work : ℕ)
  /-- A work has come to its verdict on a callback: found or not. -/
  | decided (work : ℕ) (slot : SlotId) (found : Bool)

/-- Where a thread stands; an answer comes with the count given to `write`. -/
inductive Stage where
  | polling
  | reading
  | decoding
  | processing (message : ClientValue)
  | answering (msg : List Byte) (count : ℕ)
  | aborted

/-- A thread; `recv` is the memory of its process from that buffer on. -/
structure Thread where
  lmdbStorage : LmdbStorage
  recv : List Byte
  stage : Stage

/-- A thread that has opened its storage and its device; `malloc` has returned
`recv` for its buffer. -/
def Thread.start (recv : Block slotSize) : Thread where
  lmdbStorage := ⟨none⟩
  recv := recv.toList
  stage := .polling

/-- A device with the thread that serves it. -/
structure Side where
  device : PaxosKernelDevice
  thread : Thread

/-- The thread goes on; the device is untouched. -/
def Side.goto (side : Side) (stage : Stage) : Side :=
  { side with thread := { side.thread with stage } }

/-- `read` on the file of the thread. -/
def deviceRead (isRead : Bool) (device : PaxosKernelDevice)
    (recv : List Byte) : Except Halt (PaxosKernelDevice × List Byte × ℤ) :=
  if isRead then do
    let (received, len) ← readPersistenceRead device recv ReadFaults.none
    return (device, received, len)
  else writePersistenceRead device recv ReadFaults.none

/-- What the thread makes of its buffer. -/
def decodeMessage (recv : List Byte) (pointer : Addr) :
    Except Halt ClientValue := do
  let accepted ← bufferToPaxosAccepted (recv.drop sizeofInt) pointer
  return { bufferId := readWord 32 (slice 0 sizeofInt recv), value := accepted }

/-- `process_write_message`; the return value of `storage_put` is ignored. -/
def processWriteMessage (side : Side) (database : Database)
    (message : ClientValue) (codes : MdbCodes) : Side × Database × List Event :=
  match storagePut side.thread.lmdbStorage database message.value codes with
  | .error _ => (side.goto .aborted, database, [.failed message.value codes])
  | .ok (next, ret) =>
      (side.goto .polling, next,
        if ret = 0 then [.committed message.value]
        else [.failed message.value codes])

/-- `process_read_message` up to its `write`. -/
def processReadMessage (side : Side) (database : Database)
    (message : ClientValue) (codes : MdbCodes) (pointer : Addr) :
    Side × Database × List Event :=
  match storageGet side.thread.lmdbStorage database message.value.header.iid
      codes pointer with
  | .error _ => (side.goto .aborted, database, [])
  | .ok (next, found) =>
      let out := found.getD UserAccepted.zeroed
      match clientValueToBuffer ⟨message.bufferId, out⟩ with
      | .error _ => (side.goto .aborted, next, [.looked database.entries])
      | .ok msg =>
          (side.goto (.answering msg
            (sizeofInt + sizeOfLen out.header.value.paxosValueLen)),
            next, [.looked database.entries])

/-- One step of `generic_storage_thread`.  `codes` are the codes of the
database calls in it, `pointer` is what `malloc` returns in it. -/
def genericStorageThread (isRead : Bool) (side : Side) (database : Database)
    (codes : MdbCodes) (pointer : Addr) :
    Except Halt (Side × Database × List Event) :=
  match side.thread.stage with
  | .polling =>
      .ok (side.goto (if side.device.devicePoll then .reading else .polling),
        database, [])
  | .reading => do
      let (device, recv, len) ← deviceRead isRead side.device side.thread.recv
      return ({ device := device,
                thread := { side.thread with
                  recv := recv
                  stage := if len ≠ 0 then .decoding else .polling } },
        database, [])
  | .decoding =>
      match decodeMessage side.thread.recv pointer with
      | .error _ => .ok (side.goto .aborted, database, [])
      | .ok message => .ok (side.goto (.processing message), database, [])
  | .processing message =>
      if isRead then
        .ok (processReadMessage side database message codes pointer)
      else .ok (processWriteMessage side database message codes)
  | .answering msg count => do
      let (device, _) ←
        readPersistenceWrite side.device msg count WriteFaults.none
      return ({ side.goto .polling with device }, database,
        [.answered side.device device])
  | .aborted => .ok (side, database, [])

/-! ## The lists an observer keeps -/

/-- The messages the write ring has accepted. -/
def acceptedOf (events : List Event) : List (List Byte) :=
  events.filterMap fun
    | .accepted msg => some msg
    | _ => none

/-- The messages offered to the write ring. -/
def offeredOf (events : List Event) : List (List Byte) :=
  events.filterMap fun
    | .accepted msg => some msg
    | .refused msg _ => some msg
    | _ => none

/-- The messages whose writer was told that all of them was written. -/
def reportedOf (events : List Event) : List (List Byte) :=
  events.filterMap fun
    | .returned msg ret => if ret = msg.length then some msg else none
    | _ => none

/-- The records committed. -/
def committedOf (events : List Event) : List UserAccepted :=
  events.filterMap fun
    | .committed accepted => some accepted
    | _ => none

/-- The records with which `storage_put` has finished, one way or another. -/
def processedOf (events : List Event) : List UserAccepted :=
  events.filterMap fun
    | .committed accepted => some accepted
    | .failed accepted _ => some accepted
    | _ => none

/-- The requests with their slots. -/
def requestsOf (events : List Event) : List (SlotId × List Byte) :=
  events.filterMap fun
    | .requested slot msg _ _ => some (slot, msg)
    | _ => none

/-- The contents of the database at the lookups. -/
def lookupsOf (events : List Event) :
    List (List Byte → Option (List Byte)) :=
  events.filterMap fun
    | .looked entries => some entries
    | _ => none

/-- The device around each answer. -/
def answersOf (events : List Event) :
    List (PaxosKernelDevice × PaxosKernelDevice) :=
  events.filterMap fun
    | .answered before after => some (before, after)
    | _ => none

/-- The works whose requests were counted as found. -/
def foundOf (events : List Event) : List ℕ :=
  events.filterMap fun
    | .decided work _ true => some work
    | _ => none

section Lists

variable (first second : List Event)

@[simp]
theorem acceptedOf_append :
    acceptedOf (first ++ second) = acceptedOf first ++ acceptedOf second :=
  List.filterMap_append

@[simp]
theorem offeredOf_append :
    offeredOf (first ++ second) = offeredOf first ++ offeredOf second :=
  List.filterMap_append

@[simp]
theorem reportedOf_append :
    reportedOf (first ++ second) = reportedOf first ++ reportedOf second :=
  List.filterMap_append

@[simp]
theorem committedOf_append :
    committedOf (first ++ second) = committedOf first ++ committedOf second :=
  List.filterMap_append

@[simp]
theorem processedOf_append :
    processedOf (first ++ second) = processedOf first ++ processedOf second :=
  List.filterMap_append

@[simp]
theorem requestsOf_append :
    requestsOf (first ++ second) = requestsOf first ++ requestsOf second :=
  List.filterMap_append

@[simp]
theorem lookupsOf_append :
    lookupsOf (first ++ second) = lookupsOf first ++ lookupsOf second :=
  List.filterMap_append

@[simp]
theorem answersOf_append :
    answersOf (first ++ second) = answersOf first ++ answersOf second :=
  List.filterMap_append

@[simp]
theorem foundOf_append :
    foundOf (first ++ second) = foundOf first ++ foundOf second :=
  List.filterMap_append

end Lists

/-- Only an answer changes the device of the read thread. -/
theorem device_eq_of_not_answering {side next : Side}
    {database after : Database} {codes : MdbCodes} {pointer : Addr}
    {events : List Event}
    (hstage : ∀ msg count, side.thread.stage ≠ .answering msg count)
    (hstep : genericStorageThread true side database codes pointer =
      .ok (next, after, events)) : next.device = side.device := by
  cases hcase : side.thread.stage with
  | polling | aborted =>
      simp only [genericStorageThread, hcase] at hstep
      cases hstep
      rfl
  | reading =>
      simp only [genericStorageThread, hcase, deviceRead, if_true] at hstep
      obtain ⟨⟨device, recv, len⟩, hread, hreturned⟩ := bind_eq_ok.mp hstep
      obtain ⟨result, -, hresult⟩ := bind_eq_ok.mp hread
      cases hresult
      cases hreturned
      rfl
  | decoding =>
      simp only [genericStorageThread, hcase] at hstep
      cases hdecode : decodeMessage side.thread.recv pointer with
      | error halt =>
          simp only [hdecode] at hstep
          cases hstep
          rfl
      | ok message =>
          simp only [hdecode] at hstep
          cases hstep
          rfl
  | processing message =>
      simp only [genericStorageThread, hcase, if_true] at hstep
      have hprocess : (processReadMessage side database message codes
          pointer).1.device = side.device := by
        rw [processReadMessage]
        split
        · rfl
        · dsimp only
          split
          · rfl
          · rfl
      rw [Except.ok.inj hstep] at hprocess
      exact hprocess
  | answering msg count => exact absurd hcase (hstage msg count)

/-! ## Decoding -/

/-- A buffer with a whole record behind the slot index is decoded. -/
theorem decodeMessage_of_fits {recv : List Byte}
    (hheader : sizeofPaxosAccepted ≤ (recv.drop sizeofInt).length)
    (hvalue : sizeofPaxosAccepted + (PaxosAccepted.ofImage
      (recv.drop sizeofInt)).value.paxosValueLen.toInt.toNat ≤
        (recv.drop sizeofInt).length) (pointer : Addr) :
    ∃ message, decodeMessage recv pointer = .ok message ∧
      message.bufferId = readWord 32 (slice 0 sizeofInt recv) ∧
      message.value.record = imageRecord (recv.drop sizeofInt) ∧
      message.value.header.value.paxosValueLen = (PaxosAccepted.ofImage
        (recv.drop sizeofInt)).value.paxosValueLen := by
  obtain ⟨accepted, hdecode, hrecord, hlen⟩ :=
    bufferToPaxosAccepted_of_fits hheader hvalue pointer
  refine ⟨⟨readWord 32 (slice 0 sizeofInt recv), accepted⟩, ?_, rfl, hrecord,
    hlen⟩
  simp only [decodeMessage, hdecode, bind, Except.bind, pure, Except.pure]

end PaxosPersistence.StorageThread
