import PaxosPersistence.Core.Machine
import PaxosPersistence.Kernel.AddStatements
import PaxosPersistence.Kernel.ReadTest
import PaxosPersistence.Pipeline.WritePipeline

/-!
# Loading and unloading the module

`paxos_persistence_init` creates four devices one after the other, and goes on
to the next one whatever has become of the last.  A device can be called as
soon as it is registered, which is before its arrays are allocated, and the
test devices use the arrays of the persistence devices, which come later still.
Here calls of the handlers fall between any two statements of the init and the
exit function.  This module determines the runs in which every handler that
gets as far as the two arrays finds them there with all their entries.
-/

namespace PaxosPersistence.Lifecycle

open Function
open PaxosPersistence.AddStatements
open PaxosPersistence.ByteBlock
open PaxosPersistence.KernelDevice
open PaxosPersistence.Machine
open PaxosPersistence.Memory
open PaxosPersistence.PaxosTypes
open PaxosPersistence.ReadPersistence
open PaxosPersistence.ReadTest
open PaxosPersistence.WritePersistence
open PaxosPersistence.WritePipeline

/-! ## Devices and their memory -/

inductive DeviceId where
  | writeTest
  | readTest
  | writePersistence
  | readPersistence
  deriving DecidableEq

/-- The order in which they are created, and destroyed. -/
def DeviceId.rank : DeviceId → ℕ
  | .writeTest => 0
  | .readTest => 1
  | .writePersistence => 2
  | .readPersistence => 3

def DeviceId.next : DeviceId → Option DeviceId
  | .writeTest => some .readTest
  | .readTest => some .writePersistence
  | .writePersistence => some .readPersistence
  | .readPersistence => none

/-- What `kdevchar_init` allocates: the two arrays, then for each slot a
message and a callback, the latter with its response and its value buffer. -/
inductive Cell where
  | msgBuf
  | callbackBuf
  | message (slot : SlotId)
  | callback (slot : SlotId)
  deriving DecidableEq

/-- The array that the pointer to it is stored in. -/
def Cell.container : Cell → Option Cell
  | .msgBuf | .callbackBuf => none
  | .message _ => some .msgBuf
  | .callback _ => some .callbackBuf

inductive Pointer where
  /-- Never written. -/
  | unset
  | null
  | live
  | freed
  deriving DecidableEq

/-! ## The functions of the module -/

/-- The next statement of `kdevchar_init` or of the create function. -/
inductive InitPoint where
  | create
  | setWorking
  | registerChrdev
  | createClass
  | createDevice
  | allocate (cell : Cell)
  | reset
  deriving DecidableEq

/-- The next statement of `kdevchar_exit`. -/
inductive ExitPoint where
  | stop
  | destroyClass
  | free (cell : Cell)
  | unregisterChrdev
  deriving DecidableEq

inductive Phase where
  | loading (device : DeviceId) (point : InitPoint)
  | loaded
  | unloading (device : DeviceId) (point : ExitPoint)
  | unloaded
  /-- `kdevchar_init` has followed a null pointer and will never return. -/
  | faulted
  deriving DecidableEq

@[ext]
structure Module where
  phase : Phase
  devices : DeviceId → PaxosKernelDevice
  registered : DeviceId → Bool
  buffers : DeviceId → Cell → Pointer

/-- The module in static storage. -/
def Module.start (memory : DeviceId → DeviceMemory) : Module where
  phase := .loading .writeTest .create
  devices := fun device => { staticDevice (memory device) with working := false }
  registered := fun _ => false
  buffers := fun _ cell =>
    match cell with
    | .msgBuf | .callbackBuf => .null
    | .message _ | .callback _ => .unset

namespace Module

def goto (state : Module) (phase : Phase) : Module :=
  { state with phase }

def setDevice (state : Module) (id : DeviceId) (device : PaxosKernelDevice) :
    Module :=
  { state with devices := update state.devices id device }

def setRegistered (state : Module) (id : DeviceId) (registered : Bool) :
    Module :=
  { state with registered := update state.registered id registered }

def setCell (state : Module) (id : DeviceId) (cell : Cell)
    (pointer : Pointer) : Module :=
  { state with
    buffers := update state.buffers id
      (update (state.buffers id) cell pointer) }

end Module

inductive Event where
  /-- An allocation of `kdevchar_init` has succeeded. -/
  | allocated (id : DeviceId) (cell : Cell)
  deriving DecidableEq

/-- The statement behind an allocation. -/
def Cell.afterAllocation : Cell → InitPoint
  | .msgBuf => .allocate .callbackBuf
  | .callbackBuf => .allocate (.message 0)
  | .message slot => .allocate (.callback slot)
  | .callback slot =>
      if hnext : slot.val + 1 < bufferSize then
        .allocate (.message ⟨slot.val + 1, hnext⟩)
      else .reset

/-- Where `paxos_persistence_init` goes on after `kdevchar_init`, the result
of which it ignores. -/
def afterInit (id : DeviceId) : Phase :=
  match id.next with
  | some next => .loading next .create
  | none => .loaded

/-- The contents that come with new memory. -/
def initCell (memory : DeviceMemory) (device : PaxosKernelDevice) :
    Cell → PaxosKernelDevice
  | .msgBuf | .callbackBuf => device
  | .message slot =>
      { device with msgBuf := update device.msgBuf slot (memory.message slot) }
  | .callback slot =>
      let pointer := memory.response slot
      let accepted := memory.accepted pointer
      let response : PaxosAccepted :=
        { accepted with
          value := { accepted.value with paxosValueVal := memory.value slot } }
      let allocated : PaxosKernelDevice :=
        { device with
          callbackBuf := update device.callbackBuf slot
            { memory.callback slot with response := pointer, isDone := false }
          accepted := update device.accepted pointer response }
      allocated.clearPaxosAccepted pointer

/-- The array a new pointer is to be stored in exists. -/
def Module.storable (state : Module) (id : DeviceId) (cell : Cell) : Bool :=
  match cell.container with
  | none => true
  | some array => state.buffers id array == .live

/-- One statement of `paxos_persistence_init`; `ok` tells whether the call in
it succeeds.  Only a message may fail to be allocated and go unnoticed. -/
def initStatement (memory : DeviceId → DeviceMemory) (state : Module)
    (id : DeviceId) (ok : Bool) : InitPoint → Module × List Event
  | .create =>
      let cleared := state.setCell id .msgBuf .null
      match id with
      | .writeTest | .readTest =>
          (cleared.goto (.loading id .setWorking), [])
      | .writePersistence | .readPersistence =>
          ((cleared.setCell id .callbackBuf .null).goto
            (.loading id .setWorking), [])
  | .setWorking =>
      ((state.setDevice id { state.devices id with working := true }).goto
        (.loading id .registerChrdev), [])
  | .registerChrdev =>
      if ok then
        ((state.setRegistered id true).goto (.loading id .createClass), [])
      else (state.goto (afterInit id), [])
  | .createClass =>
      if ok then (state.goto (.loading id .createDevice), [])
      else ((state.setRegistered id false).goto (afterInit id), [])
  | .createDevice =>
      if ok then (state.goto (.loading id (.allocate .msgBuf)), [])
      else ((state.setRegistered id false).goto (afterInit id), [])
  | .allocate cell =>
      if !state.storable id cell then (state.goto .faulted, [])
      else if ok then
        (((state.setCell id cell .live).setDevice id
            (initCell (memory id) (state.devices id) cell)).goto
          (.loading id cell.afterAllocation), [.allocated id cell])
      else
        match cell with
        | .callback _ => ((state.setCell id cell .null).goto .faulted, [])
        | _ =>
            ((state.setCell id cell .null).goto
              (.loading id cell.afterAllocation), [])
  | .reset =>
      ((state.setDevice id
          { state.devices id with
            currentBuf := 0
            firstBuf := 0
            charMutex := false
            usedBuf := 0 }).goto (afterInit id), [])

/-- The statement behind a `free`; the arrays are freed last. -/
def Cell.afterFree : Cell → ExitPoint
  | .message slot => .free (.callback slot)
  | .callback slot =>
      if hnext : slot.val + 1 < bufferSize then
        .free (.message ⟨slot.val + 1, hnext⟩)
      else .free .msgBuf
  | .msgBuf => .free .callbackBuf
  | .callbackBuf => .unregisterChrdev

def afterExit (id : DeviceId) : Phase :=
  match id.next with
  | some next => .unloading next .stop
  | none => .unloaded

/-- One statement of `paxos_persistence_exit`.  One that faults is one that is
never completed, so that the run has no further statement of it. -/
def exitStatement (state : Module) (id : DeviceId) : ExitPoint → Module
  | .stop =>
      let device := state.devices id
      (state.setDevice id
          { device with
            working := false
            usedBuf := atomicInc device.usedBuf }).goto
        (.unloading id .destroyClass)
  | .destroyClass =>
      if state.buffers id .msgBuf ≠ .null ∧
          state.buffers id .callbackBuf ≠ .null then
        state.goto (.unloading id (.free (.message 0)))
      else state.goto (.unloading id .unregisterChrdev)
  | .free cell =>
      (state.setCell id cell .freed).goto (.unloading id cell.afterFree)
  | .unregisterChrdev => (state.setRegistered id false).goto (afterExit id)

/-! ## The handlers -/

inductive Call where
  | openDevice (id : DeviceId)
  | poll (id : DeviceId)
  | release (id : DeviceId)
  | read (id : DeviceId) (buffer : List Byte) (faults : ReadFaults)
  /-- `allocated` tells whether `createPersistenceWork` returns a work. -/
  | write (id : DeviceId) (buffer : List Byte) (len : ℕ)
      (faults : WriteFaults) (allocated : Bool)

def Call.device : Call → DeviceId
  | .openDevice id | .poll id | .release id | .read id _ _
  | .write id _ _ _ _ => id

/-- The arrays and entries that an add handler of this device uses. -/
def addAccesses (state : Module) (id : DeviceId) :
    Option (DeviceId × List Cell) :=
  let device := state.devices id
  if device.usedBuf < bufferSize then
    some (id, [.msgBuf, .message device.currentBuf, .callbackBuf,
      .callback device.currentBuf])
  else none

/-- The device whose arrays a handler indexes, with the pointers that it
follows there, unless it returns before. -/
def accesses (state : Module) : Call → Option (DeviceId × List Cell)
  | .write .writeTest _ _ _ _ =>
      if (state.devices .writeTest).working then
        addAccesses state .writePersistence
      else none
  | .write .readTest _ _ _ _ =>
      if (state.devices .readTest).working then
        addAccesses state .readPersistence
      else none
  | .read .writePersistence _ _ =>
      let device := state.devices .writePersistence
      if device.working then
        some (.writePersistence, [.msgBuf, .message device.firstBuf])
      else none
  | .read .readPersistence _ _ =>
      let device := state.devices .readPersistence
      if device.working then
        some (.readPersistence, [.msgBuf, .message device.firstBuf])
      else none
  | .write .readPersistence buffer _ faults _ =>
      let idCopy := copyFromUser buffer 0 sizeofInt faults.bufferId
      if (state.devices .readPersistence).working ∧ idCopy.2 = 0 then
        some (.readPersistence, .callbackBuf ::
          match slotAt (readWord 32 idCopy.1) with
          | .ok slot => [.callback slot]
          | .error _ => [])
      else none
  | _ => none

/-- The handlers, given that the memory they use is there. -/
def handle (state : Module) : Call → Except Halt Module
  | .openDevice id =>
      .ok (state.setDevice id (state.devices id).deviceOpen.1)
  | .poll _ => .ok state
  | .release .writeTest =>
      .ok (state.setDevice .writeTest
        { state.devices .writeTest with charMutex := false, usedBuf := 1 })
  | .release .readTest =>
      .ok (state.setDevice .readTest
        { state.devices .readTest with charMutex := false })
  | .release id => .ok (state.setDevice id (state.devices id).deviceRelease)
  | .read .writePersistence buffer faults => do
      let (device, _, _) ←
        writePersistenceRead (state.devices .writePersistence) buffer faults
      return state.setDevice .writePersistence device
  | .read .readPersistence buffer faults => do
      let _ ←
        readPersistenceRead (state.devices .readPersistence) buffer faults
      return state
  | .read _ _ _ => .ok state
  | .write .writeTest buffer len _ _ => do
      let (device, _) ← writeTestWrite (state.devices .writeTest)
        (state.devices .writePersistence) (buffer.take len)
      return state.setDevice .writePersistence device
  | .write .readTest buffer len _ allocated => do
      let (device, _, _, _) ← readTestWrite (state.devices .readTest)
        (state.devices .readPersistence) (buffer.take len) allocated
      return state.setDevice .readPersistence device
  | .write .writePersistence _ len _ _ =>
      let _ := writePersistenceWrite (state.devices .writePersistence) len
      .ok state
  | .write .readPersistence buffer len faults _ => do
      let (device, _) ← readPersistenceWrite (state.devices .readPersistence)
        buffer len faults
      return state.setDevice .readPersistence device

/-- Every pointer that a call follows leads to memory. -/
def pointersLive (state : Module) (call : Call) : Bool :=
  match accesses state call with
  | none => true
  | some (id, cells) => cells.all fun cell => state.buffers id cell == .live

inductive Action where
  /-- The next statement of `paxos_persistence_init`. -/
  | load (ok : Bool)
  /-- The next statement of `paxos_persistence_exit`. -/
  | unload
  | call (call : Call)

/-- One statement of init or exit, or a call of a registered device. -/
def lifecycle (memory : DeviceId → DeviceMemory) :
    Step Module Action Event Halt
  | state, .load ok =>
      match state.phase with
      | .loading id point => .ok (initStatement memory state id ok point)
      | _ => .ok (state, [])
  | state, .unload =>
      match state.phase with
      | .loaded => .ok (exitStatement state .writeTest .stop, [])
      | .unloading id point => .ok (exitStatement state id point, [])
      | _ => .ok (state, [])
  | state, .call call =>
      if !state.registered call.device then .ok (state, [])
      else if !pointersLive state call then .error .memory
      else do
        let next ← handle state call
        return (next, [])

/-- The device whose arrays are indexed when this action is taken. -/
def indexed (state : Module) : Action → Option DeviceId
  | .call call =>
      if state.registered call.device then (accesses state call).map Prod.fst
      else none
  | _ => none

/-- A handler indexes the arrays of a device only while these and all their
entries are allocated. -/
def BuffersExist (state : Module) (_history : List Event) (action : Action) :
    Prop :=
  ∀ id, indexed state action = some id →
    ∀ cell, state.buffers id cell = .live

/-- A handler gets as far as the arrays of a device only after `kdevchar_init`
has made all allocations for it, and none of them has failed. -/
def InitComplete (state : Module) (history : List Event) (action : Action) :
    Prop :=
  ∀ id, indexed state action = some id →
    ∀ cell, .allocated id cell ∈ history

/-! ## Handlers that return early -/

section Returns

variable {state : Module}

theorem setDevice_self (state : Module) (id : DeviceId) :
    state.setDevice id (state.devices id) = state := by
  rw [Module.setDevice, update_eq_self]

theorem bufferSize_le_of_addAccesses {id : DeviceId}
    (hnone : addAccesses state id = none) :
    bufferSize ≤ (state.devices id).usedBuf := by
  rw [addAccesses] at hnone
  split at hnone
  · cases hnone
  · rename_i hfull
    exact not_lt.mp hfull

/-- A read handler that does not come to the arrays changes nothing. -/
theorem handle_read_of_accesses_none {id : DeviceId} {buffer : List Byte}
    {faults : ReadFaults}
    (hnone : accesses state (.read id buffer faults) = none) :
    handle state (.read id buffer faults) = .ok state := by
  cases id with
  | writeTest | readTest => rfl
  | writePersistence =>
      simp only [accesses] at hnone
      split at hnone
      · cases hnone
      · rename_i hworking
        simp only [handle, writePersistenceRead, hworking, Bool.not_false,
          if_true, bind, Except.bind, pure, Except.pure, setDevice_self]
  | readPersistence =>
      simp only [accesses] at hnone
      split at hnone
      · cases hnone
      · rename_i hworking
        simp only [handle, readPersistenceRead, hworking, Bool.not_false,
          if_true, bind, Except.bind, pure, Except.pure]

/-- Nor does such a write handler. -/
theorem handle_write_of_accesses_none {id : DeviceId} {buffer : List Byte}
    {len : ℕ} {faults : WriteFaults} {allocated : Bool}
    (hnone : accesses state (.write id buffer len faults allocated) = none) :
    handle state (.write id buffer len faults allocated) = .ok state := by
  cases id with
  | writeTest =>
      simp only [accesses] at hnone
      split at hnone
      · rename_i hworking
        have hfull := writePersistenceAddMessage_full
          (bufferSize_le_of_addAccesses hnone) (buffer.take len)
        simp only [handle, writeTestWrite, hworking, hfull, Bool.not_true,
          Bool.false_eq_true, if_false, bind, Except.bind, pure, Except.pure,
          setDevice_self]
      · rename_i hworking
        simp only [handle, writeTestWrite, hworking, Bool.not_false, if_true,
          bind, Except.bind, pure, Except.pure, setDevice_self]
  | readTest =>
      simp only [accesses] at hnone
      split at hnone
      · rename_i hworking
        have hfull := readPersistenceAddMessage_full
          (bufferSize_le_of_addAccesses hnone) (buffer.take len)
        simp only [handle, readTestWrite, hworking, hfull, Bool.not_true,
          Bool.false_eq_true, if_false, bind, Except.bind, pure, Except.pure,
          setDevice_self]
      · rename_i hworking
        simp only [handle, readTestWrite, hworking, Bool.not_false, if_true,
          bind, Except.bind, pure, Except.pure, setDevice_self]
  | writePersistence => rfl
  | readPersistence =>
      simp only [accesses] at hnone
      split at hnone
      · cases hnone
      · rename_i hguards
        have hreturned : ∃ ret, readPersistenceWrite
            (state.devices .readPersistence) buffer len faults =
              .ok (state.devices .readPersistence, ret) := by
          rw [readPersistenceWrite]
          split
          · exact ⟨-1, rfl⟩
          · rename_i hworking
            refine ⟨-1, if_pos fun hcopied => hguards ⟨?_, hcopied⟩⟩
            simpa using hworking
        obtain ⟨ret, hwrite⟩ := hreturned
        simp only [handle, hwrite, bind, Except.bind, pure, Except.pure,
          setDevice_self]

end Returns

/-! ## The order of the statements -/

theorem rank_injective : Injective DeviceId.rank := by
  intro left right hrank
  cases left <;> cases right <;> first | rfl | cases hrank

theorem rank_next {id next : DeviceId} (hnext : id.next = some next) :
    next.rank = id.rank + 1 := by
  cases id <;> cases hnext <;> rfl

theorem rank_le_of_last {id : DeviceId} (hlast : id.next = none)
    (other : DeviceId) : other.rank ≤ id.rank := by
  cases id with
  | readPersistence => cases other <;> decide
  | writeTest | readTest | writePersistence => cases hlast

/-- The place of an allocation among those for one device. -/
def Cell.position : Cell → ℕ
  | .msgBuf => 0
  | .callbackBuf => 1
  | .message slot => 2 * slot.val + 2
  | .callback slot => 2 * slot.val + 3

/-- How many allocations for the device lie behind. -/
def InitPoint.position : InitPoint → ℕ
  | .allocate cell => cell.position
  | .reset => 2 * bufferSize + 2
  | _ => 0

theorem Cell.position_afterAllocation (cell : Cell) :
    cell.afterAllocation.position = cell.position + 1 := by
  cases cell with
  | msgBuf | callbackBuf | message => rfl
  | callback slot =>
      rw [Cell.afterAllocation]
      split
      · change 2 * (slot.val + 1) + 2 = 2 * slot.val + 3 + 1
        omega
      · have hslot := slot.isLt
        change 2 * bufferSize + 2 = 2 * slot.val + 3 + 1
        omega

/-- This allocation has not been attempted yet. -/
def Phase.Pending (phase : Phase) (id : DeviceId) (cell : Cell) : Prop :=
  match phase with
  | .loading current point => current.rank < id.rank ∨
      (current = id ∧ point.position ≤ cell.position)
  | _ => False

/-- `kdevchar_exit` has cleared the working flag of this device. -/
def Phase.Stopped (phase : Phase) (id : DeviceId) : Prop :=
  match phase with
  | .unloading current point => id.rank < current.rank ∨
      (id = current ∧ point ≠ .stop)
  | .unloaded => True
  | _ => False

theorem pending_of_position_le {id other : DeviceId} {point later : InitPoint}
    {cell : Cell} (hle : point.position ≤ later.position)
    (hpending : (Phase.loading id later).Pending other cell) :
    (Phase.loading id point).Pending other cell := by
  obtain hbefore | ⟨hsame, hposition⟩ := hpending
  · exact Or.inl hbefore
  · exact Or.inr ⟨hsame, hle.trans hposition⟩

theorem pending_of_afterInit {id other : DeviceId} {cell : Cell}
    (hpending : (afterInit id).Pending other cell) (point : InitPoint) :
    (Phase.loading id point).Pending other cell := by
  rw [afterInit] at hpending
  cases hnext : id.next with
  | none =>
      rw [hnext] at hpending
      exact hpending.elim
  | some next =>
      rw [hnext] at hpending
      have hrank := rank_next hnext
      obtain hbefore | ⟨rfl, -⟩ := hpending
      · exact Or.inl (by omega)
      · exact Or.inl (by omega)

theorem not_stopped_afterInit (id other : DeviceId) :
    ¬ (afterInit id).Stopped other := by
  rw [afterInit]
  cases id.next with
  | none => exact not_false
  | some next => exact not_false

/-- Devices are stopped in the order of their creation. -/
theorem Phase.Stopped.of_rank_le {phase : Phase} {id other : DeviceId}
    (hstopped : phase.Stopped id) (hrank : other.rank ≤ id.rank) :
    phase.Stopped other := by
  cases phase with
  | loading current point => exact hstopped
  | loaded | faulted => exact hstopped
  | unloaded => trivial
  | unloading current point =>
      obtain hbefore | ⟨rfl, hpoint⟩ := hstopped
      · exact Or.inl (hrank.trans_lt hbefore)
      · obtain hlt | heq := hrank.lt_or_eq
        · exact Or.inl hlt
        · exact Or.inr ⟨rank_injective heq, hpoint⟩

theorem stopped_unloading_iff {id other : DeviceId} {point : ExitPoint}
    (hpoint : point ≠ .stop) :
    (Phase.unloading id point).Stopped other ↔ other.rank ≤ id.rank := by
  constructor
  · rintro (hbefore | ⟨rfl, -⟩)
    · exact hbefore.le
    · exact le_rfl
  · intro hrank
    obtain hlt | heq := hrank.lt_or_eq
    · exact Or.inl hlt
    · exact Or.inr ⟨rank_injective heq, hpoint⟩

theorem stopped_afterExit_iff {id other : DeviceId} :
    (afterExit id).Stopped other ↔ other.rank ≤ id.rank := by
  rw [afterExit]
  cases hnext : id.next with
  | none => exact iff_of_true trivial (rank_le_of_last hnext other)
  | some next =>
      have hrank := rank_next hnext
      constructor
      · rintro (hbefore | ⟨-, hstop⟩)
        · omega
        · exact absurd rfl hstop
      · intro hle
        exact Or.inl (by omega)

/-! ## Memory and history -/

/-- The live cells of a device are those of its successful allocations, until
the device is stopped; the allocations still to come have not been made. -/
structure Tracks (state : Module) (history : List Event) : Prop where
  live_of_allocated : ∀ id cell, .allocated id cell ∈ history →
    state.buffers id cell = .live ∨ state.phase.Stopped id
  allocated_of_live : ∀ id cell, state.buffers id cell = .live →
    .allocated id cell ∈ history
  pending : ∀ id cell, state.phase.Pending id cell →
    .allocated id cell ∉ history
  stopped : ∀ id, state.phase.Stopped id → (state.devices id).working = false

theorem tracks_start (memory : DeviceId → DeviceMemory) :
    Tracks (Module.start memory) [] where
  live_of_allocated _ _ hallocated := absurd hallocated List.not_mem_nil
  allocated_of_live id cell hlive := by
    cases cell <;> cases hlive
  pending _ _ _ := List.not_mem_nil
  stopped _ hstopped := hstopped.elim

section Tracks

variable {state next : Module} {history : List Event}

/-- What leaves the memory alone, allocates nothing and starts no device that
is stopped keeps the account. -/
theorem Tracks.moved (htracks : Tracks state history)
    (hbuffers : next.buffers = state.buffers)
    (hpending : ∀ id cell, next.phase.Pending id cell →
      state.phase.Pending id cell)
    (hstopped : ∀ id, state.phase.Stopped id → next.phase.Stopped id)
    (hworking : ∀ id, next.phase.Stopped id →
      (next.devices id).working = false) : Tracks next history where
  live_of_allocated id cell hallocated := by
    rw [hbuffers]
    exact (htracks.live_of_allocated id cell hallocated).imp_right (hstopped id)
  allocated_of_live id cell hlive := by
    rw [hbuffers] at hlive
    exact htracks.allocated_of_live id cell hlive
  pending id cell hlater := htracks.pending id cell (hpending id cell hlater)
  stopped := hworking

theorem Tracks.goto (htracks : Tracks state history) {phase : Phase}
    (hpending : ∀ id cell, phase.Pending id cell → state.phase.Pending id cell)
    (hstopped : ∀ id, phase.Stopped id ↔ state.phase.Stopped id) :
    Tracks (state.goto phase) history := by
  refine htracks.moved ?_ hpending ?_ ?_
  · rfl
  · exact fun id => (hstopped id).mpr
  · exact fun id hid => htracks.stopped id ((hstopped id).mp hid)

theorem buffers_setCell_of_ne {id other : DeviceId} {cell another : Cell}
    (hne : ¬ (other = id ∧ another = cell)) (pointer : Pointer) :
    (state.setCell id cell pointer).buffers other another =
      state.buffers other another := by
  change update state.buffers id (update (state.buffers id) cell pointer) other
    another = _
  by_cases hid : other = id
  · subst hid
    rw [update_self, update_of_ne fun hcell => hne ⟨rfl, hcell⟩]
  · rw [update_of_ne hid]

theorem buffers_setCell_self (id : DeviceId) (cell : Cell)
    (pointer : Pointer) :
    (state.setCell id cell pointer).buffers id cell = pointer := by
  change update state.buffers id (update (state.buffers id) cell pointer) id
    cell = _
  rw [update_self, update_self]

/-- A pointer may be cleared before its allocation, or freed once its device
is stopped. -/
theorem Tracks.setCell (htracks : Tracks state history) {id : DeviceId}
    {cell : Cell} {pointer : Pointer} (hpointer : pointer ≠ .live)
    (hcell : .allocated id cell ∉ history ∨ state.phase.Stopped id) :
    Tracks (state.setCell id cell pointer) history where
  live_of_allocated other another hallocated := by
    by_cases hsame : other = id ∧ another = cell
    · obtain ⟨rfl, rfl⟩ := hsame
      exact Or.inr (hcell.resolve_left (not_not.mpr hallocated))
    · rw [buffers_setCell_of_ne hsame]
      exact htracks.live_of_allocated other another hallocated
  allocated_of_live other another hlive := by
    by_cases hsame : other = id ∧ another = cell
    · obtain ⟨rfl, rfl⟩ := hsame
      rw [buffers_setCell_self] at hlive
      exact absurd hlive hpointer
    · rw [buffers_setCell_of_ne hsame] at hlive
      exact htracks.allocated_of_live other another hlive
  pending := htracks.pending
  stopped := htracks.stopped

theorem Tracks.setDevice (htracks : Tracks state history) {id : DeviceId}
    {device : PaxosKernelDevice} (hstopped : ¬ state.phase.Stopped id) :
    Tracks (state.setDevice id device) history := by
  refine htracks.moved ?_ (fun _ _ hpending => hpending) (fun _ hid => hid) ?_
  · rfl
  intro other hother
  have hne : other ≠ id := by
    rintro rfl
    exact hstopped hother
  change ((update state.devices id device) other).working = false
  rw [update_of_ne hne]
  exact htracks.stopped other hother

theorem Tracks.setRegistered (htracks : Tracks state history) (id : DeviceId)
    (registered : Bool) :
    Tracks (state.setRegistered id registered) history :=
  ⟨htracks.live_of_allocated, htracks.allocated_of_live, htracks.pending,
    htracks.stopped⟩

/-- A successful allocation. -/
theorem Tracks.allocate (htracks : Tracks state history) {id : DeviceId}
    {cell : Cell} {phase : Phase} (device : PaxosKernelDevice)
    (hphase : state.phase = .loading id (.allocate cell))
    (hpending : ∀ other another, phase.Pending other another →
      state.phase.Pending other another ∧
        ¬ (other = id ∧ another = cell))
    (hstopped : ∀ other, ¬ phase.Stopped other) :
    Tracks (((state.setCell id cell .live).setDevice id device).goto phase)
      (history ++ [.allocated id cell]) where
  live_of_allocated other another hallocated := by
    left
    change (state.setCell id cell .live).buffers other another = .live
    by_cases hsame : other = id ∧ another = cell
    · obtain ⟨rfl, rfl⟩ := hsame
      exact buffers_setCell_self other another .live
    · have hbefore : .allocated other another ∈ history := by
        rw [List.mem_append, List.mem_singleton] at hallocated
        refine hallocated.resolve_right fun heq => hsame ?_
        exact ⟨(Event.allocated.inj heq).1, (Event.allocated.inj heq).2⟩
      rw [buffers_setCell_of_ne hsame]
      refine (htracks.live_of_allocated other another hbefore).resolve_right ?_
      rw [hphase]
      exact not_false
  allocated_of_live other another hlive := by
    change (state.setCell id cell .live).buffers other another = .live at hlive
    rw [List.mem_append, List.mem_singleton]
    by_cases hsame : other = id ∧ another = cell
    · obtain ⟨rfl, rfl⟩ := hsame
      exact Or.inr rfl
    · rw [buffers_setCell_of_ne hsame] at hlive
      exact Or.inl (htracks.allocated_of_live other another hlive)
  pending other another hlater := by
    obtain ⟨hbefore, hne⟩ := hpending other another hlater
    rw [List.mem_append, List.mem_singleton]
    rintro (hallocated | heq)
    · exact htracks.pending other another hbefore hallocated
    · exact hne ⟨(Event.allocated.inj heq).1, (Event.allocated.inj heq).2⟩
  stopped other hother := absurd hother (hstopped other)

/-! ## The statements of init -/

theorem Tracks.advance (htracks : Tracks state history) {id : DeviceId}
    {point later : InitPoint} (hphase : state.phase = .loading id point)
    (hle : point.position ≤ later.position) :
    Tracks (state.goto (.loading id later)) history := by
  apply htracks.goto
  · intro other cell hpending
    rw [hphase]
    exact pending_of_position_le hle hpending
  · intro other
    rw [hphase]
    exact Iff.rfl

theorem Tracks.leave (htracks : Tracks state history) {id : DeviceId}
    {point : InitPoint} (hphase : state.phase = .loading id point) :
    Tracks (state.goto (afterInit id)) history := by
  apply htracks.goto
  · intro other cell hpending
    rw [hphase]
    exact pending_of_afterInit hpending point
  · intro other
    rw [hphase]
    exact iff_of_false (not_stopped_afterInit id other) not_false

theorem Tracks.fault (htracks : Tracks state history) {id : DeviceId}
    {point : InitPoint} (hphase : state.phase = .loading id point) :
    Tracks (state.goto .faulted) history := by
  apply htracks.goto
  · intro other cell hpending
    exact hpending.elim
  · intro other
    rw [hphase]
    exact Iff.rfl

theorem tracks_allocate (memory : DeviceId → DeviceMemory)
    (htracks : Tracks state history) {id : DeviceId} {cell : Cell}
    (hphase : state.phase = .loading id (.allocate cell)) (ok : Bool) :
    Tracks (initStatement memory state id ok (.allocate cell)).1
      (history ++ (initStatement memory state id ok (.allocate cell)).2) := by
  have hposition := cell.position_afterAllocation
  have hpending : state.phase.Pending id cell := by
    rw [hphase]
    exact Or.inr ⟨rfl, le_rfl⟩
  have hcleared : Tracks (state.setCell id cell .null) history :=
    htracks.setCell (by decide) (Or.inl (htracks.pending id cell hpending))
  cases hstorable : state.storable id cell with
  | false =>
      simp only [initStatement, hstorable, Bool.not_false, if_true,
        List.append_nil]
      exact htracks.fault hphase
  | true =>
      cases ok with
      | true =>
          simp only [initStatement, hstorable, Bool.not_true,
            Bool.false_eq_true, if_false, if_true]
          apply htracks.allocate _ hphase
          · intro other another hlater
            have hle : (InitPoint.allocate cell).position ≤
                cell.afterAllocation.position := by
              rw [hposition]
              exact Nat.le_succ _
            rw [hphase]
            refine ⟨pending_of_position_le hle hlater, ?_⟩
            · rintro ⟨rfl, rfl⟩
              obtain hbefore | ⟨-, hle⟩ := hlater
              · exact lt_irrefl _ hbefore
              · rw [hposition] at hle
                exact Nat.not_succ_le_self _ hle
          · exact fun _ => not_false
      | false =>
          have hnext : Tracks ((state.setCell id cell .null).goto
              (.loading id cell.afterAllocation)) history :=
            hcleared.advance hphase (hposition ▸ Nat.le_succ _)
          simp only [initStatement, hstorable, Bool.not_true,
            Bool.false_eq_true, if_false]
          cases cell with
          | callback slot =>
              rw [List.append_nil]
              exact hcleared.fault hphase
          | msgBuf | callbackBuf | message =>
              rw [List.append_nil]
              exact hnext

theorem tracks_initStatement (memory : DeviceId → DeviceMemory)
    (htracks : Tracks state history) {id : DeviceId} {point : InitPoint}
    (hphase : state.phase = .loading id point) (ok : Bool) :
    Tracks (initStatement memory state id ok point).1
      (history ++ (initStatement memory state id ok point).2) := by
  have hrunning : ¬ state.phase.Stopped id := by
    rw [hphase]
    exact not_false
  cases point with
  | create =>
      have hcell (cell : Cell) : .allocated id cell ∉ history := by
        apply htracks.pending
        rw [hphase]
        exact Or.inr ⟨rfl, Nat.zero_le _⟩
      have hcleared : Tracks (state.setCell id .msgBuf .null) history :=
        htracks.setCell (by decide) (Or.inl (hcell .msgBuf))
      have hboth : Tracks ((state.setCell id .msgBuf .null).setCell id
          .callbackBuf .null) history :=
        hcleared.setCell (by decide) (Or.inl (hcell .callbackBuf))
      cases id with
      | writeTest | readTest =>
          rw [initStatement, List.append_nil]
          exact hcleared.advance hphase le_rfl
      | writePersistence | readPersistence =>
          rw [initStatement, List.append_nil]
          exact hboth.advance hphase le_rfl
  | setWorking =>
      rw [initStatement, List.append_nil]
      exact (htracks.setDevice hrunning).advance hphase le_rfl
  | registerChrdev =>
      rw [initStatement]
      split
      · rw [List.append_nil]
        exact (htracks.setRegistered id true).advance hphase le_rfl
      · rw [List.append_nil]
        exact htracks.leave hphase
  | createClass | createDevice =>
      rw [initStatement]
      split
      · rw [List.append_nil]
        exact htracks.advance hphase le_rfl
      · rw [List.append_nil]
        exact (htracks.setRegistered id false).leave hphase
  | allocate cell => exact tracks_allocate memory htracks hphase ok
  | reset =>
      rw [initStatement, List.append_nil]
      exact (htracks.setDevice hrunning).leave hphase

/-! ## The statements of exit -/

theorem tracks_exitStatement (htracks : Tracks state history) {id : DeviceId}
    {point : ExitPoint}
    (hphase : ∀ other, state.phase.Stopped other ↔
      other.rank < id.rank ∨ (other = id ∧ point ≠ .stop)) :
    Tracks (exitStatement state id point) history := by
  have hle (hpoint : point ≠ .stop) (other : DeviceId) :
      state.phase.Stopped other ↔ other.rank ≤ id.rank :=
    (hphase other).trans (stopped_unloading_iff hpoint)
  have hgoto (hpoint : point ≠ .stop) {later : Module} {next : ExitPoint}
      (hnext : next ≠ .stop) (hlater : Tracks later history)
      (hsame : later.phase = state.phase) :
      Tracks (later.goto (.unloading id next)) history := by
    apply hlater.goto
    · exact fun _ _ hpending => hpending.elim
    · intro other
      rw [hsame, hle hpoint, stopped_unloading_iff hnext]
  cases point with
  | stop =>
      refine htracks.moved ?_ (fun _ _ hpending => hpending.elim) ?_ ?_
      · rfl
      · intro other hother
        obtain hbefore | ⟨-, hstop⟩ := (hphase other).mp hother
        · exact Or.inl hbefore
        · exact absurd rfl hstop
      · intro other hother
        by_cases hid : other = id
        · subst hid
          change ((update state.devices other _) other).working = false
          rw [update_self]
        · change ((update state.devices id _) other).working = false
          rw [update_of_ne hid]
          obtain hbefore | ⟨hsame, -⟩ := hother
          · exact htracks.stopped other ((hphase other).mpr (Or.inl hbefore))
          · exact absurd hsame hid
  | destroyClass =>
      have hpoint : ExitPoint.destroyClass ≠ .stop := by decide
      rw [exitStatement]
      split
      · exact hgoto hpoint (fun heq => nomatch heq) htracks rfl
      · exact hgoto hpoint (fun heq => nomatch heq) htracks rfl
  | free cell =>
      have hpoint : ExitPoint.free cell ≠ .stop := fun heq => nomatch heq
      have hnext : cell.afterFree ≠ .stop := by
        intro hstop
        cases cell with
        | msgBuf | callbackBuf | message => cases hstop
        | callback slot =>
            rw [Cell.afterFree] at hstop
            split at hstop
            · cases hstop
            · cases hstop
      have hfreed : Tracks (state.setCell id cell .freed) history :=
        htracks.setCell (by decide) (Or.inr ((hle hpoint id).mpr le_rfl))
      exact hgoto hpoint hnext hfreed rfl
  | unregisterChrdev =>
      have hpoint : ExitPoint.unregisterChrdev ≠ .stop := by decide
      apply (htracks.setRegistered id false).goto
      · intro other cell hpending
        rw [afterExit] at hpending
        split at hpending
        · exact hpending.elim
        · exact hpending.elim
      · intro other
        rw [stopped_afterExit_iff]
        exact (hle hpoint other).symm

/-! ## The handlers and the account -/

/-- Neither the memory nor the working flags are the business of a handler. -/
structure SameModule (before after : Module) : Prop where
  phase_eq : after.phase = before.phase
  buffers_eq : after.buffers = before.buffers
  working_eq : ∀ id, (after.devices id).working = (before.devices id).working

theorem sameModule_setDevice {id : DeviceId} {device : PaxosKernelDevice}
    (hworking : device.working = (state.devices id).working) :
    SameModule state (state.setDevice id device) := by
  refine ⟨rfl, rfl, fun other => ?_⟩
  change ((update state.devices id device) other).working = _
  by_cases hid : other = id
  · rw [hid, update_self, hworking]
  · rw [update_of_ne hid]

theorem working_writePersistenceRead {device after : PaxosKernelDevice}
    {buffer received : List Byte} {faults : ReadFaults} {len : ℤ}
    (hread : writePersistenceRead device buffer faults =
      .ok (after, received, len)) : after.working = device.working := by
  obtain rfl | rfl | rfl := writePersistenceRead_effect hread
  · rfl
  · rfl
  · rfl

theorem working_addMessage {kind : DeviceKind}
    {device after : PaxosKernelDevice} {msg : List Byte}
    {callback : Option SlotId}
    (hadd : kind.addMessage device msg = .ok (after, callback)) :
    after.working = device.working := by
  obtain rfl | ⟨block, rfl⟩ := addMessage_cases hadd
  · rfl
  · rfl

theorem working_writeTestWrite {testDevice device after : PaxosKernelDevice}
    {msg : List Byte} {ret : ℤ}
    (hwrite : writeTestWrite testDevice device msg = .ok (after, ret)) :
    after.working = device.working := by
  rw [writeTestWrite] at hwrite
  split at hwrite
  · cases hwrite
    rfl
  · obtain ⟨⟨next, callback⟩, hadd, hreturned⟩ := bind_eq_ok.mp hwrite
    have hworking := @working_addMessage .write _ _ _ _ hadd
    cases callback with
    | none =>
        cases hreturned
        exact hworking
    | some slot =>
        cases hreturned
        exact hworking

theorem working_readTestWrite {testDevice device after : PaxosKernelDevice}
    {msg : List Byte} {allocated : Bool} {callback : Option SlotId}
    {work : Option PersistenceWork} {ret : ℤ}
    (hwrite : readTestWrite testDevice device msg allocated =
      .ok (after, callback, work, ret)) :
    after.working = device.working := by
  rw [readTestWrite] at hwrite
  split at hwrite
  · cases hwrite
    rfl
  · obtain ⟨⟨next, added⟩, hadd, hreturned⟩ := bind_eq_ok.mp hwrite
    have hworking := @working_addMessage .read _ _ _ _ hadd
    cases added with
    | none =>
        cases hreturned
        exact hworking
    | some slot =>
        cases allocated with
        | false =>
            cases hreturned
            exact hworking
        | true =>
            cases hreturned
            exact hworking

theorem working_readPersistenceWrite {device after : PaxosKernelDevice}
    {frame : List Byte} {len : ℕ} {faults : WriteFaults} {ret : ℤ}
    (hwrite : readPersistenceWrite device frame len faults =
      .ok (after, ret)) : after.working = device.working := by
  obtain rfl | ⟨slot, accepted, value, rfl | rfl⟩ :=
    readPersistenceWrite_cases hwrite
  · rfl
  · rfl
  · rfl

theorem handle_read_sameModule {id : DeviceId} {buffer : List Byte}
    {faults : ReadFaults}
    (hhandle : handle state (.read id buffer faults) = .ok next) :
    SameModule state next := by
  have hrefl : SameModule state state := ⟨rfl, rfl, fun _ => rfl⟩
  cases id with
  | writeTest | readTest =>
      cases hhandle
      exact hrefl
  | writePersistence =>
      obtain ⟨result, hread, hset⟩ := bind_eq_ok.mp hhandle
      cases hset
      exact sameModule_setDevice (working_writePersistenceRead hread)
  | readPersistence =>
      obtain ⟨result, -, hset⟩ := bind_eq_ok.mp hhandle
      cases hset
      exact hrefl

theorem handle_write_sameModule {id : DeviceId} {buffer : List Byte} {len : ℕ}
    {faults : WriteFaults} {allocated : Bool}
    (hhandle : handle state (.write id buffer len faults allocated) =
      .ok next) : SameModule state next := by
  cases id with
  | writeTest =>
      obtain ⟨result, hwrite, hset⟩ := bind_eq_ok.mp hhandle
      cases hset
      exact sameModule_setDevice (working_writeTestWrite hwrite)
  | readTest =>
      obtain ⟨result, hwrite, hset⟩ := bind_eq_ok.mp hhandle
      cases hset
      exact sameModule_setDevice (working_readTestWrite hwrite)
  | writePersistence =>
      cases hhandle
      exact ⟨rfl, rfl, fun _ => rfl⟩
  | readPersistence =>
      obtain ⟨result, hwrite, hset⟩ := bind_eq_ok.mp hhandle
      cases hset
      exact sameModule_setDevice (working_readPersistenceWrite hwrite)

theorem handle_sameModule {call : Call}
    (hhandle : handle state call = .ok next) : SameModule state next := by
  cases call with
  | openDevice id =>
      cases hhandle
      apply sameModule_setDevice
      rw [PaxosKernelDevice.deviceOpen]
      split
      · rfl
      · rfl
  | poll id =>
      cases hhandle
      exact ⟨rfl, rfl, fun _ => rfl⟩
  | release id =>
      cases id <;>
        · cases hhandle
          exact sameModule_setDevice rfl
  | read id buffer faults => exact handle_read_sameModule hhandle
  | write id buffer len faults allocated =>
      exact handle_write_sameModule hhandle

theorem Tracks.handle (htracks : Tracks state history)
    (hsame : SameModule state next) : Tracks next history := by
  apply htracks.moved hsame.buffers_eq
  · intro id cell hpending
    rwa [← hsame.phase_eq]
  · intro id hstopped
    rwa [hsame.phase_eq]
  · intro id hstopped
    rw [hsame.working_eq]
    rw [hsame.phase_eq] at hstopped
    exact htracks.stopped id hstopped

/-- Every step keeps the account. -/
theorem lifecycle_tracks (memory : DeviceId → DeviceMemory)
    (htracks : Tracks state history) {action : Action} {events : List Event}
    (hstep : lifecycle memory state action = .ok (next, events)) :
    Tracks next (history ++ events) := by
  have hunmoved : Tracks state (history ++ []) := by
    rwa [List.append_nil]
  cases action with
  | load ok =>
      cases hphase : state.phase with
      | loading id point =>
          simp only [lifecycle, hphase] at hstep
          obtain ⟨rfl, rfl⟩ := Prod.mk.inj (Except.ok.inj hstep)
          exact tracks_initStatement memory htracks hphase ok
      | loaded | unloading | unloaded | faulted =>
          simp only [lifecycle, hphase] at hstep
          cases hstep
          exact hunmoved
  | unload =>
      cases hphase : state.phase with
      | loaded =>
          simp only [lifecycle, hphase] at hstep
          cases hstep
          rw [List.append_nil]
          apply tracks_exitStatement htracks
          intro other
          rw [hphase]
          apply iff_of_false not_false
          rintro (hbefore | ⟨-, hstop⟩)
          · exact Nat.not_lt_zero _ hbefore
          · exact hstop rfl
      | unloading id point =>
          simp only [lifecycle, hphase] at hstep
          cases hstep
          rw [List.append_nil]
          apply tracks_exitStatement htracks
          intro other
          rw [hphase]
          exact Iff.rfl
      | loading | unloaded | faulted =>
          simp only [lifecycle, hphase] at hstep
          cases hstep
          exact hunmoved
  | call call =>
      rw [lifecycle] at hstep
      split at hstep
      · cases hstep
        exact hunmoved
      · split at hstep
        · cases hstep
        · obtain ⟨after, hhandle, hreturned⟩ := bind_eq_ok.mp hstep
          cases hreturned
          rw [List.append_nil]
          exact htracks.handle (handle_sameModule hhandle)

/-! ## Runs -/

theorem fst_of_addAccesses {id : DeviceId} {accessed : DeviceId × List Cell}
    (haccesses : addAccesses state id = some accessed) : accessed.1 = id := by
  rw [addAccesses] at haccesses
  split at haccesses
  · cases haccesses
    rfl
  · cases haccesses

/-- Whoever comes to the arrays of a device has seen the working flag of this
device, or of one that is created and stopped before it. -/
theorem working_of_accesses {call : Call} {accessed : DeviceId × List Cell}
    (haccesses : accesses state call = some accessed) :
    ∃ first : DeviceId, (state.devices first).working = true ∧
      first.rank ≤ accessed.1.rank := by
  cases call with
  | openDevice | poll | release => cases haccesses
  | read id buffer faults =>
      cases id with
      | writeTest | readTest => cases haccesses
      | writePersistence =>
          simp only [accesses] at haccesses
          split at haccesses
          · rename_i hworking
            cases haccesses
            exact ⟨.writePersistence, hworking, le_rfl⟩
          · cases haccesses
      | readPersistence =>
          simp only [accesses] at haccesses
          split at haccesses
          · rename_i hworking
            cases haccesses
            exact ⟨.readPersistence, hworking, le_rfl⟩
          · cases haccesses
  | write id buffer len faults allocated =>
      cases id with
      | writeTest =>
          simp only [accesses] at haccesses
          split at haccesses
          · rename_i hworking
            refine ⟨.writeTest, hworking, ?_⟩
            rw [fst_of_addAccesses haccesses]
            decide
          · cases haccesses
      | readTest =>
          simp only [accesses] at haccesses
          split at haccesses
          · rename_i hworking
            refine ⟨.readTest, hworking, ?_⟩
            rw [fst_of_addAccesses haccesses]
            decide
          · cases haccesses
      | writePersistence => cases haccesses
      | readPersistence =>
          simp only [accesses] at haccesses
          split at haccesses
          · rename_i hguards
            cases haccesses
            exact ⟨.readPersistence, hguards.1, le_rfl⟩
          · cases haccesses

/-- No handler comes to the arrays of a device that is stopped. -/
theorem not_stopped_of_indexed (htracks : Tracks state history)
    {action : Action} {id : DeviceId}
    (hindexed : indexed state action = some id) :
    ¬ state.phase.Stopped id := by
  cases action with
  | load | unload => cases hindexed
  | call call =>
      rw [indexed] at hindexed
      split at hindexed
      · obtain ⟨accessed, haccesses, rfl⟩ := Option.map_eq_some_iff.mp hindexed
        obtain ⟨first, hworking, hrank⟩ := working_of_accesses haccesses
        intro hstopped
        have hfalse := htracks.stopped first (hstopped.of_rank_le hrank)
        rw [hworking] at hfalse
        cases hfalse
      · cases hindexed

/-- So far as the handlers are concerned, the memory is what has been
allocated. -/
theorem buffersExist_iff (htracks : Tracks state history) (action : Action) :
    BuffersExist state history action ↔ InitComplete state history action := by
  constructor
  · intro hexist id hindexed cell
    exact htracks.allocated_of_live id cell (hexist id hindexed cell)
  · intro hcomplete id hindexed cell
    exact (htracks.live_of_allocated id cell
      (hcomplete id hindexed cell)).resolve_right
        (not_stopped_of_indexed htracks hindexed)

theorem run_tracks {memory : DeviceId → DeviceMemory} {state : Module}
    {actions : List Action} {events : List Event}
    (hrun : run (lifecycle memory) (Module.start memory) actions =
      .ok (state, events)) : Tracks state events :=
  invariant_of_run_eq_ok Tracks (fun _ => True)
    (fun _ _ _ _ _ htracks _ hstep => lifecycle_tracks memory htracks hstep)
    (tracks_start memory) (fun _ _ => trivial) hrun

end Tracks

/-- In a run of any statements of init and exit and any calls in between, the
handlers index existing arrays only, in exactly the case that each of them
comes to the arrays after `kdevchar_init` has allocated them completely.
Unloading the module needs no condition. -/
theorem buffersExist_iff_initComplete (memory : DeviceId → DeviceMemory)
    (actions : List Action) :
    Guarded (lifecycle memory) BuffersExist (Module.start memory) [] actions ↔
      Guarded (lifecycle memory) InitComplete (Module.start memory) []
        actions := by
  constructor
  · intro hexist before action after state events hsplit hrun
    exact (buffersExist_iff (run_tracks hrun) action).mp
      (hexist before action after state events hsplit hrun)
  · intro hcomplete before action after state events hsplit hrun
    exact (buffersExist_iff (run_tracks hrun) action).mpr
      (hcomplete before action after state events hsplit hrun)

/-! ## A load in which nothing fails -/

/-- Some number of statements of init, all successful, leads there. -/
def LoadsTo (memory : DeviceId → DeviceMemory) (state next : Module) : Prop :=
  ∃ count events, run (lifecycle memory) state
    (List.replicate count (.load true)) = .ok (next, events)

section Loading

variable {memory : DeviceId → DeviceMemory} {state next last : Module}

theorem LoadsTo.trans (hfirst : LoadsTo memory state next)
    (hsecond : LoadsTo memory next last) : LoadsTo memory state last := by
  obtain ⟨first, events, hbefore⟩ := hfirst
  obtain ⟨second, later, hafter⟩ := hsecond
  refine ⟨first + second, events ++ later, ?_⟩
  rw [List.replicate_add]
  exact run_append_eq_ok.mpr ⟨next, events, later, hbefore, hafter, rfl⟩

theorem loadsTo_statement {id : DeviceId} {point : InitPoint}
    (hphase : state.phase = .loading id point) :
    LoadsTo memory state (initStatement memory state id true point).1 := by
  refine ⟨1, (initStatement memory state id true point).2 ++ [], ?_⟩
  apply run_cons_eq_ok.mpr
  refine ⟨_, _, [], ?_, rfl, rfl⟩
  simp only [lifecycle, hphase]

theorem loadsTo_allocate {id : DeviceId} {cell : Cell}
    (hphase : state.phase = .loading id (.allocate cell))
    (hstorable : state.storable id cell = true) :
    LoadsTo memory state (((state.setCell id cell .live).setDevice id
      (initCell (memory id) (state.devices id) cell)).goto
        (.loading id cell.afterAllocation)) := by
  have hstatement := @loadsTo_statement memory state id _ hphase
  simpa only [initStatement, hstorable, Bool.not_true, Bool.false_eq_true,
    if_false, if_true] using hstatement

/-- The two allocations of a turn are the turn. -/
theorem initCell_callback_message (memory : DeviceMemory)
    (device : PaxosKernelDevice) (slot : SlotId) :
    initCell memory (initCell memory device (.message slot))
      (.callback slot) = initSlot memory device slot := rfl

/-- The module when the loop of `kdevchar_init` has made `turns` turns. -/
def loopState (memory : DeviceId → DeviceMemory) (state : Module)
    (id : DeviceId) (turns : ℕ) : Module where
  phase := .loading id
    (if hturns : turns < bufferSize then .allocate (.message ⟨turns, hturns⟩)
    else .reset)
  devices := update state.devices id
    (((List.finRange bufferSize).take turns).foldl (initSlot (memory id))
      (state.devices id))
  registered := state.registered
  buffers := update state.buffers id fun cell =>
    if cell.position < 2 * turns + 2 then .live else state.buffers id cell

/-- One turn of the loop. -/
theorem loadsTo_turn {id : DeviceId} {slot : SlotId}
    (hphase : state.phase = .loading id (.allocate (.message slot)))
    (hmsgBuf : state.buffers id .msgBuf = .live)
    (hcallbackBuf : state.buffers id .callbackBuf = .live) :
    LoadsTo memory state
      { phase := .loading id (Cell.callback slot).afterAllocation
        devices := update state.devices id
          (initSlot (memory id) (state.devices id) slot)
        registered := state.registered
        buffers := update state.buffers id
          (update (update (state.buffers id) (.message slot) .live)
            (.callback slot) .live) } := by
  have hmessage := @loadsTo_allocate memory state id (.message slot) hphase
    (beq_iff_eq.mpr hmsgBuf)
  have hne : ¬ (id = id ∧ Cell.callbackBuf = Cell.message slot) :=
    fun hsame => nomatch hsame.2
  have hcallback := hmessage.trans (loadsTo_allocate rfl
    (beq_iff_eq.mpr ((buffers_setCell_of_ne hne .live).trans hcallbackBuf)))
  convert hcallback using 1
  apply Module.ext
  · rfl
  · change _ = update (update state.devices id _) id
      (initCell _ (update state.devices id _ id) _)
    rw [update_idem, update_self, initCell_callback_message]
  · rfl
  · change _ = update (update state.buffers id _) id
      (update (update state.buffers id _ id) _ _)
    rw [update_idem, update_self]

theorem foldl_take_succ (memory : DeviceMemory) (device : PaxosKernelDevice)
    {turns : ℕ} (hturns : turns < bufferSize) :
    ((List.finRange bufferSize).take (turns + 1)).foldl (initSlot memory)
        device =
      initSlot memory (((List.finRange bufferSize).take turns).foldl
        (initSlot memory) device) ⟨turns, hturns⟩ := by
  have hlength : turns < (List.finRange bufferSize).length := by
    rwa [List.length_finRange]
  rw [List.take_succ_eq_append_getElem hlength, List.foldl_append,
    List.getElem_finRange]
  rfl

/-- The cells allocated after a turn are those before it and the two of it. -/
theorem position_lt_succ_iff {slot : SlotId} {cell : Cell} :
    cell.position < 2 * (slot.val + 1) + 2 ↔
      cell = .callback slot ∨ cell = .message slot ∨
        cell.position < 2 * slot.val + 2 := by
  cases cell with
  | msgBuf | callbackBuf =>
      simp only [Cell.position, reduceCtorEq, false_or]
      omega
  | message other =>
      simp only [Cell.position, Cell.message.injEq, reduceCtorEq, false_or,
        Fin.ext_iff]
      omega
  | callback other =>
      simp only [Cell.position, Cell.callback.injEq, reduceCtorEq, false_or,
        Fin.ext_iff]
      omega

theorem loadsTo_loopState_succ {id : DeviceId} {turns : ℕ}
    (hturns : turns < bufferSize) :
    LoadsTo memory (loopState memory state id turns)
      (loopState memory state id (turns + 1)) := by
  have hlive {cell : Cell} (hposition : cell.position < 2 * turns + 2) :
      (loopState memory state id turns).buffers id cell = .live := by
    change (update state.buffers id _) id cell = _
    rw [update_self, if_pos hposition]
  have hturn := @loadsTo_turn memory (loopState memory state id turns) id
    ⟨turns, hturns⟩ (congrArg (Phase.loading id) (dif_pos hturns))
    (hlive (Nat.succ_pos _)) (hlive (Nat.lt_add_left _ Nat.one_lt_two))
  convert hturn using 1
  apply Module.ext
  · rfl
  · change _ = update (update state.devices id _) id
      (initSlot _ (update state.devices id _ id) _)
    rw [update_idem, update_self, ← foldl_take_succ]
    rfl
  · rfl
  · change _ = update (update state.buffers id _) id
      (update (update (update state.buffers id _ id) _ _) _ _)
    rw [update_idem, update_self]
    apply congrArg (update state.buffers id)
    funext cell
    simp only [update_apply,
      @position_lt_succ_iff ⟨turns, hturns⟩ cell, ← ite_or]

theorem loadsTo_loopState {id : DeviceId} {turns : ℕ}
    (hturns : turns ≤ bufferSize) :
    LoadsTo memory (loopState memory state id 0)
      (loopState memory state id turns) := by
  induction turns with
  | zero => exact ⟨0, [], rfl⟩
  | succ turns ih =>
      exact (ih (Nat.le_of_succ_le hturns)).trans
        (loadsTo_loopState_succ hturns)

/-- The module after one `kdevchar_init`. -/
def initialised (memory : DeviceId → DeviceMemory) (state : Module)
    (id : DeviceId) : Module where
  phase := afterInit id
  devices := update state.devices id (kdevcharInit (memory id))
  registered := update state.registered id true
  buffers := update state.buffers id fun _ => .live

theorem Cell.position_lt (cell : Cell) :
    cell.position < 2 * bufferSize + 2 := by
  cases cell with
  | msgBuf | callbackBuf => exact Nat.lt_of_sub_pos (by decide)
  | message slot | callback slot =>
      have hslot := slot.isLt
      simp only [Cell.position]
      omega

/-- The create function touches the arrays of its own device only. -/
theorem loadsTo_created {id : DeviceId}
    (hphase : state.phase = .loading id .create) :
    ∃ created, LoadsTo memory state created ∧
      created.phase = .loading id .setWorking ∧
      created.devices = state.devices ∧
      created.registered = state.registered ∧
      ∀ other ≠ id, created.buffers other = state.buffers other := by
  refine ⟨_, loadsTo_statement hphase, ?_⟩
  cases id with
  | writeTest | readTest =>
      exact ⟨rfl, rfl, rfl, fun other hother => update_of_ne hother _ _⟩
  | writePersistence | readPersistence =>
      refine ⟨rfl, rfl, rfl, fun other hother => ?_⟩
      exact (update_of_ne hother _ _).trans (update_of_ne hother _ _)

/-- The statements between the create function and the loop. -/
theorem loadsTo_loop {id : DeviceId}
    (hphase : state.phase = .loading id .setWorking)
    (hdevice : state.devices id =
      { staticDevice (memory id) with working := false }) :
    LoadsTo memory state (loopState memory
      { phase := .loading id (.allocate (.message 0))
        devices := update state.devices id (staticDevice (memory id))
        registered := update state.registered id true
        buffers := state.buffers } id 0) := by
  have hregistered := (@loadsTo_statement memory state id _ hphase).trans
    (@loadsTo_statement memory _ id .registerChrdev rfl)
  have hcreated := (hregistered.trans
    (@loadsTo_statement memory _ id .createClass rfl)).trans
      (@loadsTo_statement memory _ id .createDevice rfl)
  have harrays := (hcreated.trans
    (@loadsTo_allocate memory _ id .msgBuf rfl rfl)).trans
      (@loadsTo_allocate memory _ id .callbackBuf rfl rfl)
  have hworking : { state.devices id with working := true } =
      staticDevice (memory id) := by
    rw [hdevice]
    rfl
  convert harrays using 1
  apply Module.ext
  · rfl
  · change update (update state.devices id _) id
        (update state.devices id _ id) =
      update (update (update state.devices id _) id
        (update state.devices id _ id)) id
          (update (update state.devices id _) id
            (update state.devices id _ id) id)
    rw [update_idem, update_idem, update_self, update_self, update_idem,
      update_self, hworking]
  · rfl
  · change update state.buffers id _ = update (update state.buffers id _) id
      (update (update state.buffers id _ id) _ _)
    rw [update_idem, update_self]
    apply congrArg (update state.buffers id)
    funext cell
    cases cell <;> rfl

/-- A device whose `kdevchar_init` succeeds in everything. -/
theorem loadsTo_initialised {id : DeviceId}
    (hphase : state.phase = .loading id .create)
    (hdevice : state.devices id =
      { staticDevice (memory id) with working := false }) :
    LoadsTo memory state (initialised memory state id) := by
  obtain ⟨created, hcreate, hsetWorking, hdevices, hregistered, hothers⟩ :=
    loadsTo_created hphase
  have hloop := (loadsTo_loop hsetWorking
    (by rw [hdevices, hdevice])).trans (loadsTo_loopState le_rfl)
  have hreset := (hcreate.trans hloop).trans
    (@loadsTo_statement memory _ id .reset
      (congrArg (Phase.loading id) (dif_neg (lt_irrefl bufferSize))))
  convert hreset using 1
  apply Module.ext
  · rfl
  · have htake : (List.finRange bufferSize).take bufferSize =
        List.finRange bufferSize :=
      List.take_of_length_le (List.length_finRange).le
    change update state.devices id (kdevcharInit (memory id)) =
      update (update (update created.devices id _) id _) id
        { update (update created.devices id _) id (((List.finRange
            bufferSize).take bufferSize).foldl (initSlot (memory id))
              (update created.devices id (staticDevice (memory id)) id)) id with
          currentBuf := 0
          firstBuf := 0
          charMutex := false
          usedBuf := 0 }
    rw [update_idem, update_idem, hdevices, update_self, update_self, htake]
    rfl
  · exact congrArg (fun registered => update registered id true)
      hregistered.symm
  · change update state.buffers id _ = update created.buffers id _
    funext other cell
    by_cases hother : other = id
    · subst hother
      rw [update_self, update_self, if_pos cell.position_lt]
    · rw [update_of_ne hother, update_of_ne hother, hothers other hother]

/-- A load in which nothing fails, with no call in between, sets all four
devices up and has made every allocation. -/
theorem load_completes (memory : DeviceId → DeviceMemory) :
    ∃ count events state, run (lifecycle memory) (Module.start memory)
        (List.replicate count (.load true)) = .ok (state, events) ∧
      state.phase = .loaded ∧
      (∀ id, state.devices id = kdevcharInit (memory id)) ∧
      (∀ id, state.registered id = true) ∧
      ∀ id cell, state.buffers id cell = .live := by
  have htest := (@loadsTo_initialised memory (Module.start memory) .writeTest
    rfl rfl).trans (@loadsTo_initialised memory _ .readTest rfl rfl)
  obtain ⟨count, events, hrun⟩ := (htest.trans
    (@loadsTo_initialised memory _ .writePersistence rfl rfl)).trans
      (@loadsTo_initialised memory _ .readPersistence rfl rfl)
  refine ⟨count, events, _, hrun, rfl, ?_, ?_, ?_⟩
  · intro id
    cases id <;> rfl
  · intro id
    cases id <;> rfl
  · intro id cell
    cases id <;> rfl

/-- Once everything is allocated, nothing that is called or unloaded later
comes to memory that is not there. -/
theorem buffersExist_after_load {memory : DeviceId → DeviceMemory}
    {state : Module} {before : List Action} {events : List Event}
    (hrun : run (lifecycle memory) (Module.start memory) before =
      .ok (state, events))
    (hlive : ∀ id cell, state.buffers id cell = .live)
    (after : List Action) :
    Guarded (lifecycle memory) BuffersExist state events after := by
  intro first action rest later more hsplit hlater
  have htracks := run_tracks (run_append_eq_ok.mpr
    ⟨state, events, more, hrun, hlater, rfl⟩)
  apply (buffersExist_iff htracks action).mpr
  intro id hindexed cell
  exact List.mem_append_left more
    ((run_tracks hrun).allocated_of_live id cell (hlive id cell))

end Loading

/-! ## A call that comes too early -/

/-- The write test device is registered, and nothing is allocated yet. -/
def registrationRun : List Action :=
  [.load true, .load true, .load true]

/-- A write to the write test device. -/
def earlyWrite : Action :=
  .call (.write .writeTest (List.replicate 40 0) 40 WriteFaults.none true)

def zeroModule : Module := Module.start fun _ => zeroMemory

/-- The write comes to `msg_buf` of the write persistence device, which is a
null pointer. -/
theorem earlyWrite_follows_null :
    run (lifecycle fun _ => zeroMemory) zeroModule
        (registrationRun ++ [earlyWrite]) = .error .memory ∧
      ¬ Guarded (lifecycle fun _ => zeroMemory) BuffersExist zeroModule []
        (registrationRun ++ [earlyWrite]) := by
  constructor
  · rfl
  · intro hexist
    have hlive := hexist registrationRun earlyWrite [] _ [] rfl rfl
      .writePersistence rfl .msgBuf
    cases hlive

end PaxosPersistence.Lifecycle
