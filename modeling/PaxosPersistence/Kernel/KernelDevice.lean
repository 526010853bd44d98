import PaxosPersistence.Core.RingWindow
import PaxosPersistence.Kernel.Memory
import PaxosPersistence.Kernel.PaxosTypes

/-!
# The kernel device

`struct paxos_kernel_device` with its ring of message slots and its callbacks,
and the state `kdevchar_init` sets up when every allocation succeeds.  Each
callback leads to a response structure, and that structure to a value buffer,
through pointers that the handlers read and write; the structures and buffers
therefore live in a heap indexed by address.
-/

namespace PaxosPersistence.KernelDevice

open Function
open PaxosPersistence.ByteBlock
open PaxosPersistence.Memory
open PaxosPersistence.PaxosTypes
open PaxosPersistence.RingWindow

/-- `BUFFER_SIZE` -/
abbrev bufferSize : ℕ := 1000

instance neZeroBufferSize : NeZero bufferSize := ⟨by decide⟩

abbrev SlotId := Fin bufferSize

/-- `struct kernel_device_callback`, without its wait queue. -/
structure KernelDeviceCallback where
  response : Addr
  bufferId : Word32
  isDone : Bool
  iid : Word32

/-- `struct paxos_kernel_device`.  `accepted` and `values` are the response
structures and the value buffers, found by the pointers that lead to them. -/
structure PaxosKernelDevice where
  charMutex : Bool
  working : Bool
  currentBuf : SlotId
  firstBuf : SlotId
  usedBuf : ℤ
  msgBuf : SlotId → Block slotSize
  callbackBuf : SlotId → KernelDeviceCallback
  accepted : Addr → PaxosAccepted
  values : Addr → Block maxPaxosValueSize

/-- `atomic_inc`; an `atomic_t` holds a 32-bit signed integer. -/
def atomicInc (counter : ℤ) : ℤ :=
  (counter + 1).bmod (2 ^ 32)

def atomicDec (counter : ℤ) : ℤ :=
  (counter - 1).bmod (2 ^ 32)

theorem atomicInc_of_lt {counter : ℤ} (hlow : 0 ≤ counter)
    (hhigh : counter < bufferSize) : atomicInc counter = counter + 1 := by
  simp only [bufferSize] at hhigh
  apply Int.bmod_eq_of_le <;> norm_num <;> omega

theorem atomicDec_of_le {counter : ℤ} (hlow : 0 ≤ counter)
    (hhigh : counter ≤ bufferSize) : atomicDec counter = counter - 1 := by
  simp only [bufferSize] at hhigh
  apply Int.bmod_eq_of_le <;> norm_num <;> omega

/-- An `int` used as an index of one of the two arrays; as a word, a negative
one is larger than every index. -/
def slotAt (bufferId : Word32) : Except Halt SlotId :=
  if hbound : bufferId.toNat < bufferSize then .ok ⟨bufferId.toNat, hbound⟩
  else .error .memory

/-- The index of a slot as an `int`. -/
def slotWord (slot : SlotId) : Word32 :=
  BitVec.ofNat 32 slot.val

theorem toNat_slotWord (slot : SlotId) : (slotWord slot).toNat = slot.val := by
  rw [slotWord, BitVec.toNat_ofNat, Nat.mod_eq_of_lt]
  have := slot.isLt
  simp only [bufferSize] at this
  omega

theorem toInt_slotWord (slot : SlotId) : (slotWord slot).toInt = slot.val := by
  have hslot := slot.isLt
  simp only [bufferSize] at hslot
  rw [BitVec.toInt_eq_toNat_of_lt, toNat_slotWord]
  rw [toNat_slotWord]
  omega

theorem eq_slotWord_iff {bufferId : Word32} {slot : SlotId} :
    bufferId = slotWord slot ↔ bufferId.toInt = slot.val := by
  rw [← toInt_slotWord, BitVec.toInt_inj]

@[simp]
theorem slotAt_slotWord (slot : SlotId) : slotAt (slotWord slot) = .ok slot := by
  have hnat := toNat_slotWord slot
  rw [slotAt, dif_pos (by rw [hnat]; exact slot.isLt)]
  congr 1
  exact Fin.ext hnat

/-- Only the index of a slot leads to that slot. -/
theorem slotAt_eq_ok {bufferId : Word32} {slot : SlotId} :
    slotAt bufferId = .ok slot ↔ bufferId = slotWord slot := by
  constructor
  · intro hslot
    rw [slotAt] at hslot
    split at hslot
    · apply BitVec.eq_of_toNat_eq
      rw [toNat_slotWord]
      exact congrArg Fin.val (Except.ok.inj hslot)
    · exact nomatch hslot
  · rintro rfl
    exact slotAt_slotWord slot

namespace PaxosKernelDevice

/-! ## Access through the pointers -/

def setAccepted (device : PaxosKernelDevice) (pointer : Addr)
    (accepted : PaxosAccepted) : PaxosKernelDevice :=
  { device with accepted := update device.accepted pointer accepted }

def setValue (device : PaxosKernelDevice) (pointer : Addr)
    (value : Block maxPaxosValueSize) : PaxosKernelDevice :=
  { device with values := update device.values pointer value }

def setCallback (device : PaxosKernelDevice) (slot : SlotId)
    (callback : KernelDeviceCallback) : PaxosKernelDevice :=
  { device with callbackBuf := update device.callbackBuf slot callback }

/-- `clearPaxosAccepted`: the acceptor id and the value ballot stay. -/
def clearPaxosAccepted (device : PaxosKernelDevice) (pointer : Addr) :
    PaxosKernelDevice :=
  let accepted := device.accepted pointer
  let cleared : PaxosAccepted :=
    { accepted with
      iid := 0
      promiseIid := 0
      ballot := 0
      value := { accepted.value with paxosValueLen := 0 } }
  (device.setAccepted pointer cleared).setValue cleared.value.paxosValueVal
    (Block.zero maxPaxosValueSize)

section Pointers

variable (device : PaxosKernelDevice) (pointer : Addr)

@[simp]
theorem setAccepted_accepted (accepted : PaxosAccepted) :
    (device.setAccepted pointer accepted).accepted pointer = accepted :=
  update_self _ _ _

@[simp]
theorem setAccepted_values (accepted : PaxosAccepted) :
    (device.setAccepted pointer accepted).values = device.values := rfl

@[simp]
theorem setAccepted_setAccepted (first second : PaxosAccepted) :
    (device.setAccepted pointer first).setAccepted pointer second =
      device.setAccepted pointer second := by
  simp [setAccepted]

@[simp]
theorem setCallback_self (slot : SlotId) :
    device.setCallback slot (device.callbackBuf slot) = device := by
  simp [setCallback]

/-- Clearing a response leaves its value pointer. -/
@[simp]
theorem clearPaxosAccepted_paxosValueVal :
    ((device.clearPaxosAccepted pointer).accepted pointer).value.paxosValueVal =
      (device.accepted pointer).value.paxosValueVal := by
  simp [clearPaxosAccepted, setValue]

@[simp]
theorem clearPaxosAccepted_values :
    (device.clearPaxosAccepted pointer).values
        (device.accepted pointer).value.paxosValueVal =
      Block.zero maxPaxosValueSize := by
  simp [clearPaxosAccepted, setValue]

/-- Of a clearing only the zeroed value is left once the structure is
replaced. -/
theorem clearPaxosAccepted_setAccepted (accepted : PaxosAccepted) :
    (device.clearPaxosAccepted pointer).setAccepted pointer accepted =
      (device.setAccepted pointer accepted).setValue
        (device.accepted pointer).value.paxosValueVal
        (Block.zero maxPaxosValueSize) := by
  simp [clearPaxosAccepted, setAccepted, setValue]

/-- Nothing of a clearing is left once structure and value are replaced. -/
theorem clearPaxosAccepted_fill (accepted : PaxosAccepted)
    (value : Block maxPaxosValueSize) :
    ((device.clearPaxosAccepted pointer).setAccepted pointer accepted).setValue
        (device.accepted pointer).value.paxosValueVal value =
      (device.setAccepted pointer accepted).setValue
        (device.accepted pointer).value.paxosValueVal value := by
  simp [clearPaxosAccepted, setAccepted, setValue]

end Pointers

/-- The record a worker finds behind a callback. -/
def responseRecord (device : PaxosKernelDevice) (slot : SlotId) : PaxosRecord :=
  let accepted := device.accepted (device.callbackBuf slot).response
  accepted.record (device.values accepted.value.paxosValueVal).toList

/-! ## The two ends of the ring -/

/-- What both add handlers do with a complete message: count it, store it in
the current slot, reset the callback there and move the current index on. -/
def enqueue (device : PaxosKernelDevice) (message : Block slotSize) :
    PaxosKernelDevice :=
  let slot := device.currentBuf
  { device with
    usedBuf := atomicInc device.usedBuf
    msgBuf := update device.msgBuf slot message
    callbackBuf := update device.callbackBuf slot
      { device.callbackBuf slot with
        bufferId := slotWord slot
        iid := (PaxosAccepted.ofImage message.toList).iid
        isDone := false }
    currentBuf := advance slot 1 }

/-- A message leaves every response. -/
@[simp]
theorem responseRecord_enqueue (device : PaxosKernelDevice)
    (message : Block slotSize) (slot : SlotId) :
    (device.enqueue message).responseRecord slot =
      device.responseRecord slot := by
  by_cases hslot : slot = device.currentBuf
  · rw [hslot]
    simp [responseRecord, enqueue]
  · simp [responseRecord, enqueue, hslot]

/-- The callback of the slot used is fresh, the others are as they were. -/
@[simp]
theorem isDone_enqueue (device : PaxosKernelDevice)
    (message : Block slotSize) (slot : SlotId) :
    ((device.enqueue message).callbackBuf slot).isDone =
      if slot = device.currentBuf then false
      else (device.callbackBuf slot).isDone := by
  by_cases hslot : slot = device.currentBuf
  · rw [if_pos hslot, hslot]
    simp [enqueue]
  · rw [if_neg hslot]
    simp [enqueue, hslot]

/-- The first message makes the count one. -/
theorem usedBuf_enqueue_of_zero {device : PaxosKernelDevice}
    (hused : device.usedBuf = 0) (message : Block slotSize) :
    (device.enqueue message).usedBuf = 1 := by
  change atomicInc device.usedBuf = 1
  rw [hused]
  decide

/-- What both consuming handlers do with the oldest message. -/
def dequeue (device : PaxosKernelDevice) : PaxosKernelDevice :=
  { device with
    firstBuf := advance device.firstBuf 1
    usedBuf := atomicDec device.usedBuf }

/-! ## Opening, polling and releasing -/

/-- The error number of a busy device. -/
def ebusy : ℤ := 16

/-- The open handlers of all four devices: `mutex_trylock`. -/
def deviceOpen (device : PaxosKernelDevice) : PaxosKernelDevice × ℤ :=
  if device.charMutex then (device, -ebusy)
  else ({ device with charMutex := true }, 0)

/-- The poll handlers of both persistence devices: whether `POLLIN` is set. -/
def devicePoll (device : PaxosKernelDevice) : Bool :=
  0 < device.usedBuf

/-- The effect of a whole call of either release handler. -/
def deviceRelease (device : PaxosKernelDevice) :
    PaxosKernelDevice :=
  { device with
    usedBuf := 0
    currentBuf := 0
    firstBuf := 0
    charMutex := false }

end PaxosKernelDevice

/-! ## The state set up by `kdevchar_init` -/

/-- What the allocator hands out for one device: fresh objects at distinct
addresses, none of them null, with indeterminate contents. -/
structure DeviceMemory where
  message : SlotId → Block slotSize
  callback : SlotId → KernelDeviceCallback
  accepted : Addr → PaxosAccepted
  values : Addr → Block maxPaxosValueSize
  response : SlotId → Addr
  value : SlotId → Addr
  response_ne_null : ∀ slot, response slot ≠ 0
  response_injective : Injective response
  value_injective : Injective value

/-- Memory that happens to hold zeros, handed out at consecutive addresses. -/
def zeroMemory : DeviceMemory where
  message := fun _ => Block.zero slotSize
  callback := fun _ => ⟨0, 0, false, 0⟩
  accepted := fun _ => ⟨0, 0, 0, 0, 0, 0, ⟨0, 0, 0⟩⟩
  values := fun _ => Block.zero maxPaxosValueSize
  response := fun slot => BitVec.ofNat 64 (slot.val + 1)
  value := fun slot => BitVec.ofNat 64 (slot.val + 1)
  response_ne_null slot hnull := by
    have hnat := congrArg BitVec.toNat hnull
    have hslot := slot.isLt
    simp only [bufferSize] at hslot
    rw [BitVec.toNat_ofNat, Nat.mod_eq_of_lt (by omega)] at hnat
    exact Nat.succ_ne_zero _ hnat
  response_injective left right heq := by
    have hleft := left.isLt
    have hright := right.isLt
    simp only [bufferSize] at hleft hright
    have hnat := congrArg BitVec.toNat heq
    simp only [BitVec.toNat_ofNat] at hnat
    exact Fin.ext (by omega)
  value_injective left right heq := by
    have hleft := left.isLt
    have hright := right.isLt
    simp only [bufferSize] at hleft hright
    have hnat := congrArg BitVec.toNat heq
    simp only [BitVec.toNat_ofNat] at hnat
    exact Fin.ext (by omega)

/-- One turn of the allocation loop. -/
def initSlot (memory : DeviceMemory) (device : PaxosKernelDevice)
    (slot : SlotId) : PaxosKernelDevice :=
  let pointer := memory.response slot
  let accepted := memory.accepted pointer
  let response : PaxosAccepted :=
    { accepted with
      value := { accepted.value with paxosValueVal := memory.value slot } }
  let allocated : PaxosKernelDevice :=
    { device with
      msgBuf := update device.msgBuf slot (memory.message slot)
      callbackBuf := update device.callbackBuf slot
        { memory.callback slot with response := pointer, isDone := false }
      accepted := update device.accepted pointer response }
  allocated.clearPaxosAccepted pointer

/-- The device in static storage, before its arrays are allocated. -/
def staticDevice (memory : DeviceMemory) : PaxosKernelDevice where
  charMutex := false
  working := true
  currentBuf := 0
  firstBuf := 0
  usedBuf := 0
  msgBuf := fun _ => Block.zero slotSize
  callbackBuf := memory.callback
  accepted := memory.accepted
  values := memory.values

/-- `kdevchar_init`, when the registrations and allocations succeed. -/
def kdevcharInit (memory : DeviceMemory) : PaxosKernelDevice :=
  let device := (List.finRange bufferSize).foldl (initSlot memory)
    (staticDevice memory)
  { device with
    currentBuf := 0
    firstBuf := 0
    charMutex := false
    usedBuf := 0 }

/-- The pointers of every callback are those allocated for its slot. -/
structure Owned (memory : DeviceMemory) (device : PaxosKernelDevice) : Prop where
  response_eq : ∀ slot,
    (device.callbackBuf slot).response = memory.response slot
  value_eq : ∀ slot,
    (device.accepted (memory.response slot)).value.paxosValueVal =
      memory.value slot

theorem owned_enqueue {memory : DeviceMemory} {device : PaxosKernelDevice}
    (howned : Owned memory device) (message : Block slotSize) :
    Owned memory (device.enqueue message) where
  response_eq slot := by
    by_cases hslot : slot = device.currentBuf
    · rw [hslot, ← howned.response_eq]
      simp [PaxosKernelDevice.enqueue]
    · rw [← howned.response_eq]
      simp [PaxosKernelDevice.enqueue, hslot]
  value_eq := howned.value_eq

theorem owned_dequeue {memory : DeviceMemory} {device : PaxosKernelDevice}
    (howned : Owned memory device) : Owned memory device.dequeue :=
  ⟨howned.response_eq, howned.value_eq⟩

/-- What one turn of the allocation loop leaves behind for its slot. -/
structure SlotReady (memory : DeviceMemory) (device : PaxosKernelDevice)
    (slot : SlotId) : Prop where
  message_eq : device.msgBuf slot = memory.message slot
  response_eq : (device.callbackBuf slot).response = memory.response slot
  isDone_eq : (device.callbackBuf slot).isDone = false
  value_eq : (device.accepted (memory.response slot)).value.paxosValueVal =
    memory.value slot
  iid_eq : (device.accepted (memory.response slot)).iid = 0
  len_eq : (device.accepted (memory.response slot)).value.paxosValueLen = 0
  values_eq : device.values (memory.value slot) = Block.zero maxPaxosValueSize

theorem initSlot_ready (memory : DeviceMemory) (device : PaxosKernelDevice)
    (slot : SlotId) : SlotReady memory (initSlot memory device slot) slot := by
  constructor <;>
    simp [initSlot, PaxosKernelDevice.clearPaxosAccepted,
      PaxosKernelDevice.setAccepted, PaxosKernelDevice.setValue]

/-- A turn for another slot touches none of the objects of this one. -/
theorem initSlot_keeps_ready {memory : DeviceMemory}
    {device : PaxosKernelDevice} {slot other : SlotId} (hne : slot ≠ other)
    (hready : SlotReady memory device slot) :
    SlotReady memory (initSlot memory device other) slot := by
  have hresponse : memory.response slot ≠ memory.response other :=
    memory.response_injective.ne hne
  have hvalue : memory.value slot ≠ memory.value other :=
    memory.value_injective.ne hne
  obtain ⟨hmessage, hresponse_eq, hdone, hvalue_eq, hiid, hlen, hvalues⟩ := hready
  constructor <;>
    simpa [initSlot, PaxosKernelDevice.clearPaxosAccepted,
      PaxosKernelDevice.setAccepted, PaxosKernelDevice.setValue, hne,
      hresponse, hvalue]

theorem foldl_initSlot_keeps_ready {memory : DeviceMemory}
    {device : PaxosKernelDevice} {slot : SlotId} {slots : List SlotId}
    (hslot : slot ∉ slots) (hready : SlotReady memory device slot) :
    SlotReady memory (slots.foldl (initSlot memory) device) slot := by
  induction slots generalizing device with
  | nil => exact hready
  | cons head slots ih =>
      rw [List.mem_cons, not_or] at hslot
      exact ih hslot.2 (initSlot_keeps_ready hslot.1 hready)

/-- The loop leaves every slot it visits ready. -/
theorem foldl_initSlot_ready (memory : DeviceMemory)
    (device : PaxosKernelDevice) {slot : SlotId} {slots : List SlotId}
    (hslot : slot ∈ slots) :
    SlotReady memory (slots.foldl (initSlot memory) device) slot := by
  induction slots generalizing device with
  | nil => exact absurd hslot List.not_mem_nil
  | cons head slots ih =>
      rw [List.foldl_cons]
      by_cases htail : slot ∈ slots
      · exact ih (initSlot memory device head) htail
      · have hhead : slot = head := by
          simpa [htail] using hslot
        subst hhead
        exact foldl_initSlot_keeps_ready htail
          (initSlot_ready memory device slot)

theorem foldl_initSlot_working (memory : DeviceMemory)
    (device : PaxosKernelDevice) (slots : List SlotId) :
    (slots.foldl (initSlot memory) device).working = device.working := by
  induction slots generalizing device with
  | nil => rfl
  | cons head slots ih =>
      rw [List.foldl_cons, ih]
      rfl

theorem kdevcharInit_ready (memory : DeviceMemory) (slot : SlotId) :
    SlotReady memory (kdevcharInit memory) slot := by
  have hready := foldl_initSlot_ready memory (staticDevice memory)
    (List.mem_finRange slot)
  unfold kdevcharInit
  generalize (List.finRange bufferSize).foldl (initSlot memory)
    (staticDevice memory) = device at hready ⊢
  exact ⟨hready.message_eq, hready.response_eq, hready.isDone_eq, hready.value_eq, hready.iid_eq,
    hready.len_eq, hready.values_eq⟩

theorem kdevcharInit_owned (memory : DeviceMemory) :
    Owned memory (kdevcharInit memory) :=
  ⟨fun slot => (kdevcharInit_ready memory slot).response_eq,
    fun slot => (kdevcharInit_ready memory slot).value_eq⟩

@[simp]
theorem kdevcharInit_working (memory : DeviceMemory) :
    (kdevcharInit memory).working = true := by
  simp only [kdevcharInit, foldl_initSlot_working, staticDevice]

@[simp]
theorem kdevcharInit_usedBuf (memory : DeviceMemory) :
    (kdevcharInit memory).usedBuf = 0 := rfl

@[simp]
theorem kdevcharInit_firstBuf (memory : DeviceMemory) :
    (kdevcharInit memory).firstBuf = 0 := rfl

@[simp]
theorem kdevcharInit_currentBuf (memory : DeviceMemory) :
    (kdevcharInit memory).currentBuf = 0 := rfl

/-- A fresh callback holds an empty response. -/
theorem responseRecord_kdevcharInit_value (memory : DeviceMemory)
    (slot : SlotId) :
    ((kdevcharInit memory).responseRecord slot).value = [] := by
  have hready := kdevcharInit_ready memory slot
  simp [PaxosKernelDevice.responseRecord, PaxosAccepted.record,
    hready.response_eq, hready.len_eq]

end PaxosPersistence.KernelDevice
