import PaxosPersistence.Core.Machine
import PaxosPersistence.Pipeline.ReadSide

/-!
# Failed reads of the storage threads

A storage thread keeps one buffer.  It takes any nonzero result of `read` for
a message, so that after a failed read, which returns -1, it decodes whatever
the buffer holds and processes it once more.  Here the polls and the results of
the reads come from the environment, as does the memory behind the buffer, into
which the decoder reads on when the header claims more than there is.  This
module determines the runs in which the thread acts once on every record
delivered to it, and on nothing else.
-/

namespace PaxosPersistence.FailedReads

open PaxosPersistence.ByteBlock
open PaxosPersistence.KernelDevice
open PaxosPersistence.LmdbOperations
open PaxosPersistence.Machine
open PaxosPersistence.Memory
open PaxosPersistence.PaxosTypes
open PaxosPersistence.ReadPersistence
open PaxosPersistence.ReadSide
open PaxosPersistence.StorageThread
open PaxosPersistence.TransactionalMap
open PaxosPersistence.UserStorage
open PaxosPersistence.WritePersistence

/-- What a read has come to. -/
inductive ReadResult where
  /-- A copy has failed; these bytes have arrived before. -/
  | failed (copied : List Byte)
  /-- The device has stopped. -/
  | stopped
  /-- A slot index and the bytes of that slot. -/
  | delivered (bufferId : Word32) (bytes : List Byte)

/-- The return value of `read`; only the read device counts the index. -/
def ReadResult.len (isRead : Bool) : ReadResult → ℤ
  | .failed _ => -1
  | .stopped => 0
  | .delivered _ bytes => bytes.length + if isRead then sizeofInt else 0

/-- The buffer of the thread afterwards. -/
def ReadResult.recv (buffer : List Byte) : ReadResult → List Byte
  | .failed copied => overwrite 0 copied buffer
  | .stopped => buffer
  | .delivered bufferId bytes =>
      overwrite 0 (wordBytes sizeofInt bufferId ++ bytes) buffer

/-- The database as an iteration finds it, whatever the other thread has done
to it in the meantime. -/
structure DatabaseView where
  database : Database
  settled : database.Settled
  storable : Storable database.entries

/-- What the environment contributes to one iteration. -/
structure Iteration where
  /-- `poll` reports `POLLIN`. -/
  readable : Bool
  result : ReadResult
  view : DatabaseView
  codes : MdbCodes
  pointer : Addr
  /-- The memory behind the buffer, as far as it can be read. -/
  behind : List Byte

inductive LoopEvent where
  /-- `read` has returned a positive length. -/
  | received (bufferId : Word32) (bytes : List Byte)
  /-- The buffer is taken for a message. -/
  | taken
  /-- `storage_put` has been called. -/
  | put (accepted : UserAccepted)
  /-- `storage_get` has been called. -/
  | looked (iid : Word32)
  /-- An answer frame has been written back. -/
  | answered (frame : List Byte)

/-- A read that returns a positive length is seen. -/
def ReadResult.events (isRead : Bool) (result : ReadResult) : List LoopEvent :=
  match result with
  | .delivered bufferId bytes =>
      if 0 < result.len isRead then [.received bufferId bytes] else []
  | _ => []

/-- `process_read_message` with its `write`, or `process_write_message`. -/
def process (isRead : Bool) (side : Side) (message : ClientValue)
    (iteration : Iteration) : Side × List LoopEvent :=
  if isRead then
    let next := (processReadMessage side iteration.view.database message
      iteration.codes iteration.pointer).1
    match next.thread.stage with
    | .answering frame _ =>
        (next.goto .polling,
          [.looked message.value.header.iid, .answered frame])
    | _ => (next, [.looked message.value.header.iid])
  else
    ((processWriteMessage side iteration.view.database message
      iteration.codes).1, [.put message.value])

/-- What the thread makes of its buffer when `if (len)` is true.  A header
that claims more than can be read kills the process. -/
def handleMessage (isRead : Bool) (side : Side) (iteration : Iteration) :
    Side × List LoopEvent :=
  match decodeMessage (side.thread.recv ++ iteration.behind)
      iteration.pointer with
  | .error _ => (side.goto .aborted, [.taken])
  | .ok message =>
      let (next, events) := process isRead side message iteration
      (next, .taken :: events)

/-- The thread with this buffer; the device is left to the environment. -/
def receive (side : Side) (recv : List Byte) : Side :=
  { side with thread := { side.thread with recv } }

/-- One iteration of `while (!stop)` in `generic_storage_thread`. -/
def storageLoop (isRead : Bool) : Step Side Iteration LoopEvent Halt
  | side, iteration =>
      match side.thread.stage with
      | .aborted => .ok (side, [])
      | _ =>
          if !iteration.readable then .ok (side, [])
          else
            let received :=
              receive side (iteration.result.recv side.thread.recv)
            if iteration.result.len isRead = 0 then .ok (received, [])
            else
              let (next, events) := handleMessage isRead received iteration
              .ok (next, iteration.result.events isRead ++ events)

/-! ## The lists an observer keeps -/

/-- The reads that returned a positive length. -/
def receivedOf (events : List LoopEvent) : List (Word32 × List Byte) :=
  events.filterMap fun
    | .received bufferId bytes => some (bufferId, bytes)
    | _ => none

/-- How often the buffer has been taken for a message. -/
def takingsOf (events : List LoopEvent) : ℕ :=
  events.countP fun
    | .taken => true
    | _ => false

/-- The records given to `storage_put`. -/
def putsOf (events : List LoopEvent) : List UserAccepted :=
  events.filterMap fun
    | .put accepted => some accepted
    | _ => none

/-- The numbers given to `storage_get`. -/
def lookedUpOf (events : List LoopEvent) : List Word32 :=
  events.filterMap fun
    | .looked iid => some iid
    | _ => none

/-- The answer frames. -/
def answeredOf (events : List LoopEvent) : List (List Byte) :=
  events.filterMap fun
    | .answered frame => some frame
    | _ => none

section Lists

variable (first second : List LoopEvent)

@[simp]
theorem answeredOf_append :
    answeredOf (first ++ second) = answeredOf first ++ answeredOf second :=
  List.filterMap_append

end Lists

/-- The bytes claimed for the value of the record in front of `bytes`. -/
def claimedLength (bytes : List Byte) : ℕ :=
  (PaxosAccepted.ofImage bytes).value.paxosValueLen.toInt.toNat

/-- The bytes bring a record: its numbers, its length and all of its value. -/
structure BringsRecord (bytes : List Byte) : Prop where
  words : 28 ≤ bytes.length
  value : 0 < claimedLength bytes →
    sizeofPaxosAccepted + claimedLength bytes ≤ bytes.length

/-- Every read of positive length has brought a record, and the thread has
stored these records, respectively looked their numbers up and answered under
the indices of these reads, each once, in order, and done nothing else. -/
def Matched : Bool → List LoopEvent → Prop
  | false, history =>
      List.Forall₂ (fun read accepted => BringsRecord read.2 ∧
        accepted.record = imageRecord read.2) (receivedOf history)
        (putsOf history)
  | true, history =>
      List.Forall₂ (fun read iid => BringsRecord read.2 ∧
        iid = (imageRecord read.2).iid) (receivedOf history)
        (lookedUpOf history) ∧
      List.Forall₂ (fun read frame => frameBufferId frame = read.1)
        (receivedOf history) (answeredOf history)

/-- The buffer was taken for a message once for every read of positive length,
and what it was taken for is what these reads have brought. -/
structure ActsOnReads (isRead : Bool) (history : List LoopEvent) : Prop where
  takings : takingsOf history = (receivedOf history).length
  matched : Matched isRead history

/-- Between two iterations the thread has no transaction and its buffer is at
least as large as it was allocated. -/
structure Idle (side : Side) : Prop where
  txn_eq : side.thread.lmdbStorage.txn = none
  recv_length : slotSize ≤ side.thread.recv.length
  stage : side.thread.stage = .polling ∨ side.thread.stage = .aborted

section Process

variable {side : Side} {iteration : Iteration}

theorem Idle.goto (hidle : Idle side) {stage : Stage}
    (hstage : stage = .polling ∨ stage = .aborted) :
    Idle (side.goto stage) :=
  ⟨hidle.txn_eq, hidle.recv_length, hstage⟩

theorem Idle.receive (hidle : Idle side) (result : ReadResult) :
    Idle (receive side (result.recv side.thread.recv)) := by
  refine ⟨hidle.txn_eq, hidle.recv_length.trans ?_, hidle.stage⟩
  cases result with
  | failed copied =>
      apply le_of_le_of_eq (Nat.le_max_left _ _)
      exact (length_overwrite_of_offset_le (Nat.zero_le _)).symm
  | stopped => exact le_rfl
  | delivered bufferId bytes =>
      apply le_of_le_of_eq (Nat.le_max_left _ _)
      exact (length_overwrite_of_offset_le (Nat.zero_le _)).symm

end Process

/-! ## Matching histories -/

section Matching

variable {history events : List LoopEvent}

theorem ActsOnReads.append_nil {isRead : Bool}
    (hacts : ActsOnReads isRead history) : ActsOnReads isRead (history ++ []) := by
  rwa [List.append_nil]

end Matching

/-! ## One iteration -/

section Iterations

variable {side : Side} {history : List LoopEvent}

end Iterations

section Handlers

variable {device : PaxosKernelDevice} {buffer received : List Byte}
variable {faults : ReadFaults} {len : ℤ}

theorem length_le_copyToUser (buffer : List Byte) (offset : ℕ)
    (source : List Byte) (uncopied : ℕ) :
    buffer.length ≤ (copyToUser buffer offset source uncopied).1.length := by
  simp only [copyToUser, overwrite, List.length_append, List.length_take,
    List.length_drop]
  omega

/-- The two copies of a read leave the buffer, and the handler the return
value, as a read result does. -/
theorem copies_result (isRead : Bool) (buffer : List Byte) (bufferId : Word32)
    (source : List Byte) (faults : ReadFaults) :
    let idCopy := copyToUser buffer 0 (wordBytes sizeofInt bufferId)
      faults.bufferId
    let messageCopy := copyToUser idCopy.1 sizeofInt source faults.accepted
    ∃ result : ReadResult, messageCopy.1 = result.recv buffer ∧
      (if messageCopy.2 ≠ 0 ∨ idCopy.2 ≠ 0 then -1
        else (ReadResult.delivered bufferId source).len isRead) =
          result.len isRead := by
  intro idCopy messageCopy
  by_cases hfailed : messageCopy.2 ≠ 0 ∨ idCopy.2 ≠ 0
  · have hlength : buffer.length ≤ messageCopy.1.length :=
      (length_le_copyToUser buffer 0 _ _).trans
        (length_le_copyToUser idCopy.1 sizeofInt source _)
    exact ⟨.failed messageCopy.1, (overwrite_all hlength).symm, if_pos hfailed⟩
  · obtain ⟨hmessage, hid⟩ := not_or.mp hfailed
    have hlength := length_wordBytes sizeofInt bufferId
    refine ⟨.delivered bufferId source, ?_, if_neg hfailed⟩
    calc
      messageCopy.1 = overwrite sizeofInt source idCopy.1 :=
        copyToUser_of_complete (not_not.mp hmessage)
      _ = overwrite sizeofInt source
          (overwrite 0 (wordBytes sizeofInt bufferId) buffer) := by
        rw [copyToUser_of_complete (not_not.mp hid)]
      _ = overwrite 0 (wordBytes sizeofInt bufferId ++ source) buffer := by
        rw [← overwrite_overwrite_zero, hlength]

/-- Whatever the handler of the write device does, its reader sees one of
these results. -/
theorem writePersistenceRead_result {next : PaxosKernelDevice}
    (hread : writePersistenceRead device buffer faults =
      .ok (next, received, len)) :
    ∃ result : ReadResult, received = result.recv buffer ∧
      len = result.len false := by
  rw [writePersistenceRead] at hread
  split at hread
  · cases hread
    exact ⟨.stopped, rfl, rfl⟩
  · obtain ⟨source, hsource, hcopied⟩ := bind_eq_ok.mp hread
    have hlength := Block.length_of_load (checked_eq_ok.mp hsource)
    obtain ⟨result, hrecv, hlen⟩ := copies_result false buffer
      (slotWord device.firstBuf) source faults
    dsimp only at hcopied
    split at hcopied
    · rename_i hfailed
      rw [if_pos hfailed] at hlen
      cases hcopied
      exact ⟨result, hrecv, hlen⟩
    · rename_i hcomplete
      rw [if_neg hcomplete, ReadResult.len, hlength] at hlen
      cases hcopied
      exact ⟨result, hrecv, (add_zero _).symm.trans hlen⟩

/-- And so does a reader of the read device. -/
theorem readPersistenceRead_result
    (hread : readPersistenceRead device buffer faults = .ok (received, len)) :
    ∃ result : ReadResult, received = result.recv buffer ∧
      len = result.len true := by
  rw [readPersistenceRead] at hread
  split at hread
  · cases hread
    exact ⟨.stopped, rfl, rfl⟩
  · obtain ⟨source, hsource, hcopied⟩ := bind_eq_ok.mp hread
    have hlength := Block.length_of_load (checked_eq_ok.mp hsource)
    obtain ⟨result, hrecv, hlen⟩ := copies_result true buffer
      (slotWord device.firstBuf) source faults
    dsimp only at hcopied
    split at hcopied
    · rename_i hfailed
      rw [if_pos hfailed] at hlen
      cases hcopied
      exact ⟨result, hrecv, hlen⟩
    · rename_i hcomplete
      rw [if_neg hcomplete, ReadResult.len, hlength] at hlen
      cases hcopied
      exact ⟨result, hrecv, hlen⟩

end Handlers

/-! ## A record that is processed twice -/

/-- An empty database. -/
def emptyView : DatabaseView where
  database := Store.ofEntries fun _ => none
  settled := Store.settled_ofEntries _
  storable := storable_empty

/-- A poll that reports `POLLIN`, and the read that follows it. -/
def polled (result : ReadResult) : Iteration where
  readable := true
  result := result
  view := emptyView
  codes := MdbCodes.success
  pointer := 0
  behind := []

/-- A record of number 7 is delivered; the next read fails at its first byte. -/
def failedAfterDelivery : List Iteration :=
  [polled (.delivered 0 (headerBytes 7 0)), polled (.failed [])]

end PaxosPersistence.FailedReads
