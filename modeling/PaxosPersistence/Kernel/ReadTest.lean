import PaxosPersistence.Kernel.ReadPersistence

/-!
# The read test device

A write to the read test device adds a request to the read ring and queues a
work for one of the workers of the pool.  The work waits until the callback of
the request has a response, and then compares the response with the request.
Since a callback has had a response structure from the start, the wait is over
before it begins; and since callbacks are shared by all requests that are ever
put into a slot, the comparison may be with the answer to another request.
-/

namespace PaxosPersistence.ReadTest

open Function
open PaxosPersistence.ByteBlock
open PaxosPersistence.KernelDevice
open PaxosPersistence.Memory
open PaxosPersistence.PaxosTypes
open PaxosPersistence.ReadPersistence

/-- `struct persistence_work`; `param` is the slot of the callback. -/
structure PersistenceWork where
  param : SlotId
  iid : Word32

/-- `read_test_write`: the device, the callback of the request, the work handed
to `add_work` and the return value; `allocated` tells whether
`createPersistenceWork` returns a work. -/
def readTestWrite (readTestDevice device : PaxosKernelDevice)
    (buffer : List Byte) (allocated : Bool) : Except Halt
      (PaxosKernelDevice × Option SlotId × Option PersistenceWork × ℤ) :=
  if !readTestDevice.working then .ok (device, none, none, -1)
  else do
    let (next, callback) ← readPersistenceAddMessage device buffer
    match callback with
    | none => return (next, none, none, buffer.length)
    | some slot =>
        if !allocated then return (next, some slot, none, buffer.length)
        else
          return (next, some slot,
            some { param := slot, iid := (next.callbackBuf slot).iid },
            buffer.length)

/-- The condition of `wait_event_timeout` in `wait_response`. -/
def responseArrived (device : PaxosKernelDevice) (work : PersistenceWork) :
    Bool :=
  (device.callbackBuf work.param).response != 0

/-- What `wait_response` compares after its wait. -/
def responseFound (device : PaxosKernelDevice) (work : PersistenceWork) : Bool :=
  let callback := device.callbackBuf work.param
  let response := device.accepted callback.response
  !callback.isDone && response.iid == work.iid &&
    decide (0 < response.value.paxosValueLen.toInt)

/-- `callback -> is_done = 1` -/
def markDone (device : PaxosKernelDevice) (slot : SlotId) : PaxosKernelDevice :=
  device.setCallback slot { device.callbackBuf slot with isDone := true }

/-- `wait_response` after its wait: the device, and whether the request is
counted as found. -/
def waitResponse (device : PaxosKernelDevice) (work : PersistenceWork) :
    PaxosKernelDevice × Bool :=
  (markDone device work.param, responseFound device work)

/-! ## The wait -/

/-- The wait never waits. -/
theorem responseArrived_of_owned {memory : DeviceMemory}
    {device : PaxosKernelDevice} (howned : Owned memory device)
    (work : PersistenceWork) : responseArrived device work = true := by
  rw [responseArrived, howned.response_eq, bne_iff_ne]
  exact memory.response_ne_null work.param

/-! ## The comparison -/

/-- The record is one with this number and some value. -/
def Answers (iid : Word32) (record : PaxosRecord) : Prop :=
  record.iid = iid ∧ record.value ≠ []

theorem record_value_ne_nil {accepted : PaxosAccepted}
    (value : Block maxPaxosValueSize) :
    (accepted.record value.toList).value ≠ [] ↔
      0 < accepted.value.paxosValueLen.toInt := by
  have hlength : value.toList.length = maxPaxosValueSize := value.toList_length
  rw [← List.length_pos_iff, PaxosAccepted.record, List.length_take, hlength]
  simp only [maxPaxosValueSize]
  omega

/-- A request is found when no work has marked its callback and the record
there has its number and some value. -/
theorem responseFound_iff (device : PaxosKernelDevice)
    (work : PersistenceWork) :
    responseFound device work = true ↔
      (device.callbackBuf work.param).isDone = false ∧
        Answers work.iid (device.responseRecord work.param) := by
  rw [Answers, PaxosKernelDevice.responseRecord, record_value_ne_nil]
  simp only [responseFound, Bool.and_eq_true, Bool.not_eq_true', beq_iff_eq,
    decide_eq_true_eq, and_assoc]
  rfl

section Mark

variable (device : PaxosKernelDevice) (slot : SlotId)

@[simp]
theorem isDone_markDone (other : SlotId) :
    ((markDone device slot).callbackBuf other).isDone =
      if other = slot then true else (device.callbackBuf other).isDone := by
  by_cases hother : other = slot
  · rw [if_pos hother, hother]
    simp [markDone, PaxosKernelDevice.setCallback]
  · rw [if_neg hother]
    simp [markDone, PaxosKernelDevice.setCallback, hother]

@[simp]
theorem response_markDone (other : SlotId) :
    ((markDone device slot).callbackBuf other).response =
      (device.callbackBuf other).response := by
  by_cases hother : other = slot
  · rw [hother]
    simp [markDone, PaxosKernelDevice.setCallback]
  · simp [markDone, PaxosKernelDevice.setCallback, hother]

/-- A mark leaves every response. -/
@[simp]
theorem responseRecord_markDone (other : SlotId) :
    (markDone device slot).responseRecord other =
      device.responseRecord other := by
  rw [PaxosKernelDevice.responseRecord, response_markDone]
  rfl

theorem owned_markDone {memory : DeviceMemory} (howned : Owned memory device) :
    Owned memory (markDone device slot) where
  response_eq other := (response_markDone device slot other).trans
    (howned.response_eq other)
  value_eq := howned.value_eq

end Mark

/-! ## The request -/

/-- The work for a request, if the request was accepted and a work allocated. -/
def workFor (device : PaxosKernelDevice) (allocated : Bool)
    (callback : Option SlotId) : Option PersistenceWork :=
  if allocated then
    callback.map fun slot =>
      { param := slot, iid := (device.callbackBuf slot).iid }
  else none

theorem readTestWrite_eq {readTestDevice device next : PaxosKernelDevice}
    {msg : List Byte} {callback : Option SlotId}
    (hworking : readTestDevice.working = true)
    (hadd : readPersistenceAddMessage device msg = .ok (next, callback))
    (allocated : Bool) :
    readTestWrite readTestDevice device msg allocated =
      .ok (next, callback, workFor next allocated callback, msg.length) := by
  rw [readTestWrite, if_neg (by simp [hworking])]
  simp only [hadd, bind, Except.bind, pure, Except.pure]
  cases callback with
  | none =>
      cases allocated with
      | false => rfl
      | true => rfl
  | some slot =>
      cases allocated with
      | false => rfl
      | true => rfl

end PaxosPersistence.ReadTest
