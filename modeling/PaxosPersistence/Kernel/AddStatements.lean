import PaxosPersistence.Kernel.ReadPersistence
import PaxosPersistence.Kernel.WriteAccounting

/-!
# The statements of the add handlers

Both add handlers, behind their admission test, are straight lines of
statements: count the message, fill the current slot, reset the callback there,
move the current index on.  A consumer may run between any two of them.  Here
each statement is a step of its own, and the whole line is shown to be the
call.
-/

namespace PaxosPersistence.AddStatements

open Function
open PaxosPersistence.ByteBlock
open PaxosPersistence.KernelDevice
open PaxosPersistence.Memory
open PaxosPersistence.PaxosTypes
open PaxosPersistence.ReadPersistence
open PaxosPersistence.RingWindow
open PaxosPersistence.WriteAccounting
open PaxosPersistence.WritePersistence

/-- The two persistence devices. -/
inductive DeviceKind where
  | write
  | read
  deriving DecidableEq

inductive AddStatement where
  /-- `atomic_inc(&used_buf)` -/
  | countMessage
  /-- The local size is cut to that of a slot. -/
  | limitSize
  /-- The `memset` of the slot. -/
  | clearSlot (count : ℕ)
  /-- The `memcpy` of the message. -/
  | copyMessage
  /-- `paxos_value_len = size - sizeof(paxos_accepted)` -/
  | setValueLen
  /-- The local pointer is set to the callback of the current slot. -/
  | loadCallback
  | setBufferId
  | setIid
  | setIsDone
  /-- `current_buf = (current_buf + 1) % BUFFER_SIZE` -/
  | moveCurrent
  deriving DecidableEq

namespace DeviceKind

/-- The statements of an add handler in program order. -/
def statements : DeviceKind → List AddStatement
  | .write =>
      [.countMessage, .limitSize, .clearSlot slotSize, .copyMessage,
        .setValueLen, .loadCallback, .setBufferId, .setIid, .setIsDone,
        .moveCurrent]
  | .read =>
      [.countMessage, .clearSlot sizeofPaxosAccepted, .copyMessage,
        .loadCallback, .setBufferId, .setIid, .setIsDone, .moveCurrent]

/-- The whole call. -/
def addMessage : DeviceKind → PaxosKernelDevice → List Byte →
    Except Halt (PaxosKernelDevice × Option SlotId)
  | .write => writePersistenceAddMessage
  | .read => readPersistenceAddMessage

/-- How a slot represents a message. -/
def Holds : DeviceKind → Block slotSize → List Byte → Prop
  | .write => HoldsWrite
  | .read => HoldsRequest

instance decidableHolds (block : Block slotSize) (msg : List Byte) :
    ∀ kind : DeviceKind, Decidable (kind.Holds block msg)
  | .write => inferInstanceAs (Decidable (block = writeMessage msg))
  | .read => inferInstanceAs (Decidable
      (slice 0 (requestImage msg).length block.toList = requestImage msg))

end DeviceKind

/-- The local variables of an add handler.  `callback` points to the callback
of a slot, and means nothing before it is loaded. -/
structure Locals where
  size : ℕ
  callback : SlotId

def Locals.start (size : ℕ) : Locals where
  size := size
  callback := 0

@[simp]
theorem Locals.size_start (size : ℕ) : (Locals.start size).size = size :=
  rfl

namespace AddStatement

/-- The statements that write the current slot. -/
def writesSlot : AddStatement → Bool
  | .clearSlot _ | .copyMessage | .setValueLen => true
  | _ => false

/-- What a statement does to the local size and to the current slot. -/
def writeSlot (msg : List Byte) (size : ℕ) (block : Block slotSize) :
    AddStatement → Except Halt (ℕ × Block slotSize)
  | .limitSize => .ok (effectiveSize size, block)
  | .clearSlot count => do
      let cleared ← checked (block.store 0 (List.replicate count 0))
      return (size, cleared)
  | .copyMessage => do
      let copied ← checked (block.store 0 (msg.take size))
      return (size, copied)
  | .setValueLen => do
      let message ← checked
        (block.store paxosValueLenOffset (wordBytes 4 (lenOfSize size)))
      return (size, message)
  | _ => .ok (size, block)

/-- What a statement does to the rest of the device.  The current index is
read anew wherever the source names it; the callback is the one loaded. -/
def setFields (device : PaxosKernelDevice) (callback : SlotId) :
    AddStatement → PaxosKernelDevice
  | .countMessage => { device with usedBuf := atomicInc device.usedBuf }
  | .setBufferId =>
      device.setCallback callback
        { device.callbackBuf callback with
          bufferId := slotWord device.currentBuf }
  | .setIid =>
      let slot := device.currentBuf
      device.setCallback callback
        { device.callbackBuf callback with
          iid := (PaxosAccepted.ofImage (device.msgBuf slot).toList).iid }
  | .setIsDone =>
      device.setCallback callback
        { device.callbackBuf callback with isDone := false }
  | .moveCurrent => { device with currentBuf := advance device.currentBuf 1 }
  | _ => device

/-- What a statement does to the local pointer. -/
def setPointer (device : PaxosKernelDevice) (callback : SlotId) :
    AddStatement → SlotId
  | .loadCallback => device.currentBuf
  | _ => callback

/-- The device with other contents in its current slot. -/
def putCurrent (device : PaxosKernelDevice) (block : Block slotSize) :
    PaxosKernelDevice :=
  { device with msgBuf := update device.msgBuf device.currentBuf block }

/-- One statement: the device and the local variables after it. -/
def execute (device : PaxosKernelDevice) (msg : List Byte) (locals : Locals)
    (statement : AddStatement) :
    Except Halt (PaxosKernelDevice × Locals) := do
  let (size, block) ←
    writeSlot msg locals.size (device.msgBuf device.currentBuf) statement
  let callback := setPointer device locals.callback statement
  return (setFields (putCurrent device block) locals.callback statement,
    { size, callback })

/-- The statements of a list, one after the other. -/
def executeAll (msg : List Byte) :
    PaxosKernelDevice → Locals → List AddStatement →
      Except Halt (PaxosKernelDevice × Locals)
  | device, locals, [] => .ok (device, locals)
  | device, locals, statement :: rest => do
      let (next, locals) ← execute device msg locals statement
      executeAll msg next locals rest

/-- Of these, what they do to the slot. -/
def writeSlots (msg : List Byte) :
    ℕ → Block slotSize → List AddStatement → Except Halt (ℕ × Block slotSize)
  | size, block, [] => .ok (size, block)
  | size, block, statement :: rest => do
      let (size, block) ← writeSlot msg size block statement
      writeSlots msg size block rest

end AddStatement

open AddStatement

/-! ## One statement -/

section Fields

variable (device : PaxosKernelDevice) (callback : SlotId)
variable (statement : AddStatement)

@[simp]
theorem setFields_working :
    (setFields device callback statement).working = device.working := by
  cases statement <;> rfl

@[simp]
theorem setFields_firstBuf :
    (setFields device callback statement).firstBuf = device.firstBuf := by
  cases statement <;> rfl

@[simp]
theorem setFields_msgBuf :
    (setFields device callback statement).msgBuf = device.msgBuf := by
  cases statement <;> rfl

variable {statement}

theorem setFields_currentBuf (hstatement : statement ≠ .moveCurrent) :
    (setFields device callback statement).currentBuf = device.currentBuf := by
  cases statement with
  | moveCurrent => exact absurd rfl hstatement
  | _ => rfl

theorem setFields_usedBuf (hstatement : statement ≠ .countMessage) :
    (setFields device callback statement).usedBuf = device.usedBuf := by
  cases statement with
  | countMessage => exact absurd rfl hstatement
  | _ => rfl

theorem setFields_current (hstatement : statement ≠ .moveCurrent)
    (block : Block slotSize) :
    let next := setFields (putCurrent device block) callback statement
    next.msgBuf next.currentBuf = block := by
  intro next
  rw [setFields_msgBuf, setFields_currentBuf _ _ hstatement]
  exact update_self _ _ _

theorem putCurrent_self :
    putCurrent device (device.msgBuf device.currentBuf) = device := by
  rw [putCurrent, update_eq_self]

end Fields

/-- A statement first writes the slot, then the fields. -/
theorem execute_eq_ok {device next : PaxosKernelDevice} {msg : List Byte}
    {locals after : Locals} {statement : AddStatement}
    (hexecute : execute device msg locals statement = .ok (next, after)) :
    ∃ block,
      writeSlot msg locals.size (device.msgBuf device.currentBuf) statement =
        .ok (after.size, block) ∧
      next = setFields (putCurrent device block) locals.callback statement := by
  obtain ⟨⟨written, block⟩, hwrite, hreturned⟩ := bind_eq_ok.mp hexecute
  cases hreturned
  exact ⟨block, hwrite, rfl⟩

/-! ## The whole line -/

theorem writeSlots_append {msg : List Byte} {size : ℕ} {block : Block slotSize}
    (first second : List AddStatement) :
    writeSlots msg size block (first ++ second) =
      (writeSlots msg size block first).bind fun written =>
        writeSlots msg written.1 written.2 second := by
  induction first generalizing size block with
  | nil => rfl
  | cons statement first ih =>
      cases hwrite : writeSlot msg size block statement with
      | error halt =>
          simp only [List.cons_append, writeSlots, hwrite, bind, Except.bind]
      | ok written =>
          simp only [List.cons_append, writeSlots, hwrite, bind, Except.bind]
          exact ih

/-- Statements that leave the slot leave it. -/
theorem writeSlot_of_not_writesSlot (msg : List Byte) (size : ℕ)
    (block : Block slotSize) {statement : AddStatement}
    (hleaves : statement.writesSlot = false) :
    ∃ limit, writeSlot msg size block statement = .ok (limit, block) := by
  cases statement with
  | clearSlot count => cases hleaves
  | copyMessage => cases hleaves
  | setValueLen => cases hleaves
  | loadCallback => exact ⟨size, rfl⟩
  | limitSize => exact ⟨effectiveSize size, rfl⟩
  | countMessage => exact ⟨size, rfl⟩
  | setBufferId => exact ⟨size, rfl⟩
  | setIid => exact ⟨size, rfl⟩
  | setIsDone => exact ⟨size, rfl⟩
  | moveCurrent => exact ⟨size, rfl⟩

theorem writeSlots_of_not_writesSlot (msg : List Byte) (size : ℕ)
    (block : Block slotSize) {statements : List AddStatement}
    (hleaves : statements.any writesSlot = false) :
    ∃ limit, writeSlots msg size block statements = .ok (limit, block) := by
  induction statements generalizing size with
  | nil => exact ⟨size, rfl⟩
  | cons statement rest ih =>
      rw [List.any_cons, Bool.or_eq_false_iff] at hleaves
      obtain ⟨limit, hwrite⟩ :=
        writeSlot_of_not_writesSlot msg size block hleaves.1
      obtain ⟨last, hrest⟩ := ih limit hleaves.2
      refine ⟨last, ?_⟩
      simp only [writeSlots, hwrite, bind, Except.bind, hrest]

/-- Whatever was in the slot, the line of the write device leaves the message
there. -/
theorem writeSlots_write (msg : List Byte) (block : Block slotSize) :
    writeSlots msg msg.length block DeviceKind.write.statements =
      .ok (effectiveSize msg.length, writeMessage msg) := by
  have hsize := effectiveSize_le msg.length
  have hclear : 0 + (List.replicate slotSize (0 : Byte)).length ≤ slotSize := by
    simp
  have hcopy : 0 + (msg.take (effectiveSize msg.length)).length ≤ slotSize := by
    rw [length_take_effectiveSize]
    omega
  have hlen : paxosValueLenOffset +
      (wordBytes 4 (lenOfSize (effectiveSize msg.length))).length ≤ slotSize := by
    simp [paxosValueLenOffset, slotSize]
  simp only [DeviceKind.statements, writeSlots, writeSlot,
    Block.store_eq_some hclear, Block.store_eq_some hcopy,
    Block.store_eq_some hlen, checked_some, bind, Except.bind, pure,
    Except.pure, write_eq_writeMessage]

/-- The line of either device, if it comes to its end, leaves the message in
the slot. -/
theorem holds_of_writeSlots {kind : DeviceKind} {msg : List Byte}
    {block message : Block slotSize} {size : ℕ}
    (hwrite : writeSlots msg msg.length block kind.statements =
      .ok (size, message)) : kind.Holds message msg := by
  cases kind with
  | write =>
      rw [writeSlots_write] at hwrite
      exact (Prod.mk.inj (Except.ok.inj hwrite)).2.symm
  | read =>
      have hclear :
          0 + (List.replicate sizeofPaxosAccepted (0 : Byte)).length ≤
            slotSize := by
        simp [sizeofPaxosAccepted, slotSize]
      by_cases hcopy : 0 + msg.length ≤ slotSize
      · simp only [DeviceKind.statements, writeSlots, writeSlot,
          List.take_length, Block.store_eq_some hclear,
          Block.store_eq_some hcopy, checked_some, bind, Except.bind, pure,
          Except.pure] at hwrite
        rw [← (Prod.mk.inj (Except.ok.inj hwrite)).2]
        exact holdsRequest_write block hclear hcopy
      · simp only [DeviceKind.statements, writeSlots, writeSlot,
          List.take_length, Block.store_eq_some hclear,
          Block.store_eq_none (not_le.mp hcopy), checked_some, checked_none,
          bind, Except.bind, pure, Except.pure] at hwrite
        cases hwrite

/-- What the line does to the device is what an addition does. -/
theorem executeAll_statements (kind : DeviceKind) (device : PaxosKernelDevice)
    (msg : List Byte) (locals : Locals) :
    executeAll msg device locals kind.statements =
      (writeSlots msg locals.size (device.msgBuf device.currentBuf)
        kind.statements).bind fun written =>
          .ok (device.enqueue written.2,
            ⟨written.1, device.currentBuf⟩) := by
  cases kind with
  | write =>
      simp only [DeviceKind.statements]
      simp only [executeAll, execute, writeSlots, writeSlot, bind, Except.bind,
        pure, Except.pure]
      simp only [setFields, setPointer, putCurrent, update_eq_self]
      cases hclear : (device.msgBuf device.currentBuf).store 0
          (List.replicate slotSize 0) with
      | none => rfl
      | some cleared =>
          simp only [checked_some, update_self]
          cases hcopy : cleared.store 0
              (msg.take (effectiveSize locals.size)) with
          | none => rfl
          | some copied =>
              simp only [checked_some, update_self]
              cases hlen : copied.store paxosValueLenOffset
                  (wordBytes 4 (lenOfSize (effectiveSize locals.size))) with
              | none => rfl
              | some message =>
                  simp [PaxosKernelDevice.setCallback, PaxosKernelDevice.enqueue]
  | read =>
      simp only [DeviceKind.statements]
      simp only [executeAll, execute, writeSlots, writeSlot, bind, Except.bind,
        pure, Except.pure]
      simp only [setFields, setPointer, putCurrent, update_eq_self]
      cases hclear : (device.msgBuf device.currentBuf).store 0
          (List.replicate sizeofPaxosAccepted 0) with
      | none => rfl
      | some cleared =>
          simp only [checked_some, update_self]
          cases hcopy : cleared.store 0 (msg.take locals.size) with
          | none => rfl
          | some message =>
              simp [PaxosKernelDevice.setCallback, PaxosKernelDevice.enqueue]

/-- With room in the ring, the call is its statements. -/
theorem addMessage_eq_executeAll {device : PaxosKernelDevice}
    (hfree : device.usedBuf < bufferSize) (kind : DeviceKind)
    (msg : List Byte) :
    kind.addMessage device msg =
      (executeAll msg device (.start msg.length)
        kind.statements).bind fun done => .ok (done.1, some device.currentBuf) := by
  rw [executeAll_statements, Locals.size_start]
  cases kind with
  | write =>
      rw [writeSlots_write, DeviceKind.addMessage,
        writePersistenceAddMessage_eq hfree]
      rfl
  | read =>
      simp only [DeviceKind.addMessage, readPersistenceAddMessage,
        if_neg (not_le.mpr hfree), DeviceKind.statements, writeSlots, writeSlot,
        bind, Except.bind, pure, Except.pure]
      cases hclear : (device.msgBuf device.currentBuf).store 0
          (List.replicate sizeofPaxosAccepted 0) with
      | none => rfl
      | some cleared =>
          cases hcopy : cleared.store 0 msg with
          | none =>
              simp only [checked_some, List.take_length, hcopy, checked_none]
          | some message => simp only [checked_some, List.take_length, hcopy]

/-- An addition that comes to an end leaves the device or puts a message into
its current slot. -/
theorem addMessage_cases {kind : DeviceKind} {device next : PaxosKernelDevice}
    {msg : List Byte} {callback : Option SlotId}
    (hadd : kind.addMessage device msg = .ok (next, callback)) :
    next = device ∨ ∃ block, next = device.enqueue block := by
  by_cases hfree : device.usedBuf < bufferSize
  · rw [addMessage_eq_executeAll hfree, executeAll_statements,
      Locals.size_start] at hadd
    cases hwrite : writeSlots msg msg.length
        (device.msgBuf device.currentBuf) kind.statements with
    | error halt => simp [hwrite, Except.bind] at hadd
    | ok written =>
        simp only [hwrite, Except.bind] at hadd
        exact Or.inr ⟨written.2, (Prod.mk.inj (Except.ok.inj hadd)).1.symm⟩
  · have hsame : kind.addMessage device msg = .ok (device, none) := by
      cases kind with
      | write => exact writePersistenceAddMessage_full (not_lt.mp hfree) msg
      | read => exact readPersistenceAddMessage_full (not_lt.mp hfree) msg
    rw [hsame] at hadd
    exact Or.inl (Prod.mk.inj (Except.ok.inj hadd)).1.symm

end PaxosPersistence.AddStatements
