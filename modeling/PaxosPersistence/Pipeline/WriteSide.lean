import PaxosPersistence.Kernel.DeviceRing
import PaxosPersistence.Pipeline.StorageThread

/-!
# The write side

A message that the write ring has accepted is in the ring until the thread
reads it, then held by the thread until `storage_put` has finished with it.
The relation below says where the accepted messages are; every step of the
kernel and of the thread keeps it, and none of them loses or reorders one.
-/

namespace PaxosPersistence.WriteSide

open PaxosPersistence.ByteBlock
open PaxosPersistence.DeviceRing
open PaxosPersistence.KernelDevice
open PaxosPersistence.LmdbOperations
open PaxosPersistence.Memory
open PaxosPersistence.PaxosTypes
open PaxosPersistence.RingWindow
open PaxosPersistence.StorageThread
open PaxosPersistence.TransactionalMap
open PaxosPersistence.UserStorage
open PaxosPersistence.WritePersistence

/-- A slot holds a message that is at least as long as the header. -/
def HoldsMessage (block : Block slotSize) (msg : List Byte) : Prop :=
  block = writeMessage msg ∧ sizeofPaxosAccepted ≤ msg.length

/-- What a thread with this buffer holds at a stage, the ring behind it. -/
def StageHolds (recv : List Byte) (queue : List (List Byte))
    (held : Option (List Byte)) : Stage → Prop
  | .polling => held = none
  | .reading => held = none ∧ queue ≠ []
  | .decoding => ∃ slot msg rest, held = some msg ∧
      sizeofPaxosAccepted ≤ msg.length ∧ recv = writeFrame slot msg ++ rest
  | .processing message => ∃ msg, held = some msg ∧
      message.value.record = messageRecord msg ∧ Sized message.value
  | .answering .. => False
  | .aborted => held = none

/-- The ring holds `queue`, and the thread holds the message before it. -/
structure WriteSideHolds (side : Side) (queue : List (List Byte))
    (held : Option (List Byte)) : Prop where
  txn_eq : side.thread.lmdbStorage.txn = none
  ring : RingHolds HoldsMessage side.device queue
  stage : StageHolds side.thread.recv queue held side.thread.stage

theorem writeSideHolds_start (memory : DeviceMemory) (recv : Block slotSize) :
    WriteSideHolds ⟨kdevcharInit memory, Thread.start recv⟩ [] none :=
  ⟨rfl, RingHolds.kdevcharInit memory, rfl⟩

/-! ## Records on their way -/

/-- The record a thread holds. -/
def heldRecords (thread : Thread) : List PaxosRecord :=
  match thread.stage with
  | .decoding => [imageRecord (thread.recv.drop sizeofInt)]
  | .processing message => [message.value.record]
  | _ => []

/-- The records in a ring, from the first slot on. -/
def ringRecords (device : PaxosKernelDevice) : List PaxosRecord :=
  (contents device.msgBuf device.firstBuf device.usedBuf.toNat).map
    fun block => imageRecord block.toList

section Holds

variable {side : Side} {queue : List (List Byte)} {held : Option (List Byte)}

theorem WriteSideHolds.heldRecords_eq (hside : WriteSideHolds side queue held) :
    heldRecords side.thread = held.toList.map messageRecord := by
  have hstage := hside.stage
  rw [heldRecords]
  cases hcase : side.thread.stage with
  | polling =>
      rw [hcase] at hstage
      cases hstage
      rfl
  | reading =>
      rw [hcase] at hstage
      cases hstage.1
      rfl
  | decoding =>
      rw [hcase] at hstage
      obtain ⟨slot, msg, rest, rfl, hheader, hrecv⟩ := hstage
      simp only [hrecv, drop_writeFrame,
        imageRecord_deliveredBytes_append hheader]
      rfl
  | processing message =>
      rw [hcase] at hstage
      obtain ⟨msg, rfl, hrecord, -⟩ := hstage
      simp only [hrecord]
      rfl
  | answering msg count =>
      rw [hcase] at hstage
      exact hstage.elim
  | aborted =>
      rw [hcase] at hstage
      cases hstage
      rfl

theorem WriteSideHolds.ringRecords_eq (hside : WriteSideHolds side queue held) :
    ringRecords side.device = queue.map messageRecord := by
  have hslots := hside.ring.slots
  rw [ringRecords, hside.ring.usedBuf_eq, Int.toNat_natCast]
  generalize contents side.device.msgBuf side.device.firstBuf queue.length =
    blocks at hslots
  clear hside
  induction hslots with
  | nil => rfl
  | cons hholds _ ih =>
      obtain ⟨rfl, hheader⟩ := hholds
      rw [List.map_cons, List.map_cons, ih, imageRecord_writeMessage hheader]

/-! ## Steps of the kernel -/

/-- What `write_persistence_add_message` answers. -/
def admission (device : PaxosKernelDevice) (msg : List Byte) : Event :=
  match writePersistenceAddMessage device msg with
  | .ok (_, some _) => .accepted msg
  | _ => .refused msg device.usedBuf

/-- A message is either appended to the ring or refused by a full one. -/
theorem WriteSideHolds.addMessage (hside : WriteSideHolds side queue held)
    {msg : List Byte} (hheader : sizeofPaxosAccepted ≤ msg.length) :
    ∃ device callback,
      writePersistenceAddMessage side.device msg = .ok (device, callback) ∧
      ((queue.length < bufferSize ∧
          WriteSideHolds { side with device } (queue ++ [msg]) held ∧
          admission side.device msg = .accepted msg) ∨
        (queue.length = bufferSize ∧
          WriteSideHolds { side with device } queue held ∧
          admission side.device msg = .refused msg bufferSize)) := by
  have hlength := hside.ring.length_le
  by_cases hfree : queue.length < bufferSize
  · have hadd := writePersistenceAddMessage_eq
      (hside.ring.usedBuf_lt_iff.mpr hfree) msg
    refine ⟨_, _, hadd, Or.inl ⟨hfree, ⟨hside.txn_eq,
      hside.ring.enqueue hfree ⟨rfl, hheader⟩, ?_⟩, ?_⟩⟩
    · have hstage := hside.stage
      cases hcase : side.thread.stage with
      | reading =>
          rw [hcase] at hstage
          exact ⟨hstage.1, by simp⟩
      | polling | decoding | processing | answering | aborted =>
          rw [hcase] at hstage
          exact hstage
    · rw [admission, hadd]
  · have hused : side.device.usedBuf = bufferSize := by
      rw [hside.ring.usedBuf_eq]
      omega
    have hadd := writePersistenceAddMessage_full hused.ge msg
    refine ⟨_, _, hadd, Or.inr ⟨by omega, hside, ?_⟩⟩
    rw [admission, hadd, hused]

/-! ## Steps of the thread -/

/-- The thread moves a message from the ring to its buffer and decodes it, or
does nothing; the database stays as it is. -/
structure Advances (queue next : List (List Byte))
    (held nextHeld : Option (List Byte)) (database after : Database)
    (events : List Event) : Prop where
  events_eq : events = []
  database_eq : after = database
  messages_eq : nextHeld.toList ++ next = held.toList ++ queue

/-- `storage_put` has finished with the message held. -/
structure Finishes (codes : MdbCodes) (queue next : List (List Byte))
    (held nextHeld : Option (List Byte)) (database after : Database)
    (events : List Event) : Prop where
  queue_eq : next = queue
  held_eq : nextHeld = none
  outcome : ∃ msg accepted, held = some msg ∧
    accepted.record = messageRecord msg ∧ Sized accepted ∧
    ((codes = MdbCodes.success ∧ events = [.committed accepted] ∧
        after.entries = applyWrites database.entries [accepted.entry]) ∨
      (codes ≠ MdbCodes.success ∧ events = [.failed accepted codes] ∧
        after.entries = database.entries))

/-- A step of the thread on a ring that holds `queue`, with `held` in hand. -/
def ThreadStep (codes : MdbCodes) (side : Side) (queue : List (List Byte))
    (held : Option (List Byte)) (database : Database) (pointer : Addr) : Prop :=
  ∃ next after events nextQueue nextHeld,
    genericStorageThread false side database codes pointer =
      .ok (next, after, events) ∧
    WriteSideHolds next nextQueue nextHeld ∧ after.Settled ∧
    (Advances queue nextQueue held nextHeld database after events ∨
      Finishes codes queue nextQueue held nextHeld database after events)

variable {database : Database} {codes : MdbCodes}

/-- A poll finds the ring in use exactly when it holds a message. -/
theorem WriteSideHolds.poll (hside : WriteSideHolds side queue held)
    (hstage : side.thread.stage = .polling) (database : Database)
    (codes : MdbCodes) (pointer : Addr) :
    ∃ next, genericStorageThread false side database codes pointer =
        .ok (next, database, []) ∧
      WriteSideHolds next queue held ∧
      (queue ≠ [] → next.thread.stage = .reading) := by
  have hholds := hside.stage
  rw [hstage] at hholds
  cases hholds
  have hpolled := hside.ring.devicePoll_iff
  refine ⟨side.goto (if side.device.devicePoll then .reading else .polling),
    by simp only [genericStorageThread, hstage], ⟨hside.txn_eq, hside.ring, ?_⟩,
    fun hqueue => if_pos (hpolled.mpr hqueue)⟩
  change StageHolds _ _ _ (if side.device.devicePoll then _ else _)
  by_cases hpoll : side.device.devicePoll
  · rw [if_pos hpoll]
    exact ⟨rfl, hpolled.mp hpoll⟩
  · rw [if_neg hpoll]
    rfl

/-- A read takes the oldest message. -/
theorem WriteSideHolds.read (hside : WriteSideHolds side queue held)
    (hstage : side.thread.stage = .reading) (database : Database)
    (codes : MdbCodes) (pointer : Addr) :
    ∃ next msg rest, queue = msg :: rest ∧ held = none ∧
      genericStorageThread false side database codes pointer =
        .ok (next, database, []) ∧
      WriteSideHolds next rest (some msg) ∧
      next.thread.stage = .decoding := by
  have hholds := hside.stage
  rw [hstage] at hholds
  obtain ⟨rfl, hqueue⟩ := hholds
  obtain ⟨msg, rest, rfl⟩ := List.exists_cons_of_ne_nil hqueue
  obtain ⟨hblock, hheader⟩ := hside.ring.head
  have hread := writePersistenceRead_eq hside.ring.working_eq hblock
    side.thread.recv
  have hsize : sizeofPaxosAccepted ≤ effectiveSize msg.length :=
    le_effectiveSize (by simp [sizeofPaxosAccepted, slotSize]) hheader
  have hlen : ((effectiveSize msg.length : ℕ) : ℤ) ≠ 0 := by
    simp only [sizeofPaxosAccepted] at hsize
    omega
  refine ⟨{ device := side.device.dequeue,
            thread := { side.thread with
              recv := overwrite 0 (writeFrame side.device.firstBuf msg)
                side.thread.recv
              stage := .decoding } }, msg, rest, rfl, rfl, ?_,
    ⟨hside.txn_eq, hside.ring.dequeue, ?_⟩, rfl⟩
  · simp only [genericStorageThread, hstage, deviceRead, hread,
      Bool.false_eq_true, if_false, ne_eq, hlen, not_false_eq_true, if_true,
      bind, Except.bind, pure, Except.pure]
  · exact ⟨side.device.firstBuf, msg, _, rfl, hheader, overwrite_zero _ _⟩

/-- The buffer holds the record of the message, with a length that fits. -/
theorem WriteSideHolds.decodeMessage_eq (hside : WriteSideHolds side queue held)
    (hstage : side.thread.stage = .decoding) (pointer : Addr) :
    ∃ msg message, held = some msg ∧
      decodeMessage side.thread.recv pointer = .ok message ∧
      message.value.record = messageRecord msg ∧ Sized message.value := by
  have hholds := hside.stage
  rw [hstage] at hholds
  obtain ⟨slot, msg, rest, rfl, hheader, hrecv⟩ := hholds
  have hsize : sizeofPaxosAccepted ≤ effectiveSize msg.length :=
    le_effectiveSize (by simp [sizeofPaxosAccepted, slotSize]) hheader
  have hlength := length_deliveredBytes msg
  have hlen := toInt_paxosValueLen_deliveredBytes hheader
  have himage : PaxosAccepted.ofImage (deliveredBytes msg ++ rest) =
      PaxosAccepted.ofImage (deliveredBytes msg) :=
    PaxosAccepted.ofImage_append (by omega) rest
  have hdrop : side.thread.recv.drop sizeofInt = deliveredBytes msg ++ rest := by
    rw [hrecv, drop_writeFrame]
  obtain ⟨message, hdecode, -, hrecord, hvalueLen⟩ := decodeMessage_of_fits
    (by rw [hdrop, List.length_append]; omega)
    (by rw [hdrop, himage, List.length_append]; omega) pointer
  rw [hdrop, imageRecord_deliveredBytes_append hheader] at hrecord
  rw [hdrop, himage] at hvalueLen
  refine ⟨msg, message, rfl, hdecode, hrecord, ?_, ?_⟩
  · rw [hvalueLen, hlen]
    omega
  · have hbound := effectiveSize_le msg.length
    rw [hvalueLen, hlen]
    simp only [slotSize, sizeofPaxosAccepted, maxPaxosValueSize] at *
    omega

/-- What was read is decoded to the record of the message. -/
theorem WriteSideHolds.decode (hside : WriteSideHolds side queue held)
    (hstage : side.thread.stage = .decoding) (database : Database)
    (codes : MdbCodes) (pointer : Addr) :
    ∃ next message, genericStorageThread false side database codes pointer =
        .ok (next, database, []) ∧
      WriteSideHolds next queue held ∧
      next.thread.stage = .processing message := by
  obtain ⟨msg, message, rfl, hdecode, hrecord, hsized⟩ :=
    hside.decodeMessage_eq hstage pointer
  refine ⟨side.goto (.processing message), message, ?_,
    ⟨hside.txn_eq, hside.ring, msg, rfl, hrecord, hsized⟩, rfl⟩
  simp only [genericStorageThread, hstage, hdecode]

/-- `storage_put` commits the record unless one of the database calls fails. -/
theorem processWriteMessage_cases {message : ClientValue}
    (htxn : side.thread.lmdbStorage.txn = none) (hsettled : database.Settled)
    (hlen : 0 ≤ message.value.header.value.paxosValueLen.toInt) :
    ∃ stage after events,
      processWriteMessage side database message codes =
        (side.goto stage, after, events) ∧
      (stage = .polling ∨ stage = .aborted) ∧ after.Settled ∧
      ((codes = MdbCodes.success ∧ events = [.committed message.value] ∧
          after.entries =
            applyWrites database.entries [message.value.entry]) ∨
        (codes ≠ MdbCodes.success ∧ events = [.failed message.value codes] ∧
          after.entries = database.entries)) := by
  by_cases hbegin : codes.txnBegin = 0
  · by_cases haccess : codes.access = 0
    · obtain ⟨after, hput, hafter, hentries, -⟩ :=
        storagePut_eq htxn hsettled hlen hbegin haccess
      refine ⟨.polling, after, _, by rw [processWriteMessage, hput],
        Or.inl rfl, hafter, ?_⟩
      by_cases hcommit : codes.txnCommit = 0
      · rw [if_pos hcommit] at hentries
        have hsuccess : codes = MdbCodes.success := by
          cases codes
          simp_all [MdbCodes.success]
        exact Or.inl ⟨hsuccess, by rw [if_pos hcommit, if_pos rfl], hentries⟩
      · rw [if_neg hcommit] at hentries
        refine Or.inr ⟨?_, by rw [if_neg hcommit, if_neg one_ne_zero], hentries⟩
        rintro rfl
        exact hcommit rfl
    · obtain ⟨halt, hput⟩ := storagePut_of_write_fails htxn hsettled hbegin
        fun hwrite : 0 ≤ message.value.header.value.paxosValueLen.toInt ∧
          codes.access = 0 => haccess hwrite.2
      refine ⟨.aborted, database, _, by rw [processWriteMessage, hput],
        Or.inr rfl, hsettled, Or.inr ⟨?_, rfl, rfl⟩⟩
      rintro rfl
      exact haccess rfl
  · refine ⟨.polling, database, _, by
      rw [processWriteMessage, storagePut_of_begin_ne_zero htxn hbegin],
      Or.inl rfl, hsettled, Or.inr ⟨?_, if_neg one_ne_zero, rfl⟩⟩
    rintro rfl
    exact hbegin rfl

theorem WriteSideHolds.process (hside : WriteSideHolds side queue held)
    (hsettled : database.Settled) {message : ClientValue}
    (hstage : side.thread.stage = .processing message) (pointer : Addr) :
    ThreadStep codes side queue held database pointer := by
  have hholds := hside.stage
  rw [hstage] at hholds
  obtain ⟨msg, rfl, hrecord, hsized⟩ := hholds
  obtain ⟨stage, after, events, hprocess, hnext, hafter, houtcome⟩ :=
    processWriteMessage_cases hside.txn_eq hsettled hsized.len_nonneg
  refine ⟨side.goto stage, after, events, queue, none, ?_,
    ⟨hside.txn_eq, hside.ring, ?_⟩, hafter,
    Or.inr ⟨rfl, rfl, msg, message.value, rfl, hrecord, hsized, houtcome⟩⟩
  · simp only [genericStorageThread, hstage, hprocess, Bool.false_eq_true,
      if_false]
  · obtain rfl | rfl := hnext
    · rfl
    · rfl

/-- One step of the thread, whatever it is. -/
theorem WriteSideHolds.threadStep (hside : WriteSideHolds side queue held)
    (hsettled : database.Settled) (codes : MdbCodes) (pointer : Addr) :
    ThreadStep codes side queue held database pointer := by
  cases hstage : side.thread.stage with
  | polling =>
      obtain ⟨next, hstep, hnext, -⟩ := hside.poll hstage database codes pointer
      exact ⟨next, database, [], queue, held, hstep, hnext, hsettled,
        Or.inl ⟨rfl, rfl, rfl⟩⟩
  | reading =>
      obtain ⟨next, msg, rest, rfl, rfl, hstep, hnext, -⟩ :=
        hside.read hstage database codes pointer
      exact ⟨next, database, [], rest, some msg, hstep, hnext, hsettled,
        Or.inl ⟨rfl, rfl, rfl⟩⟩
  | decoding =>
      obtain ⟨next, message, hstep, hnext, -⟩ :=
        hside.decode hstage database codes pointer
      exact ⟨next, database, [], queue, held, hstep, hnext, hsettled,
        Or.inl ⟨rfl, rfl, rfl⟩⟩
  | processing message => exact hside.process hsettled hstage pointer
  | answering msg count =>
      have hholds := hside.stage
      rw [hstage] at hholds
      exact hholds.elim
  | aborted =>
      exact ⟨side, database, [], queue, held, by
        simp only [genericStorageThread, hstage], hside, hsettled,
        Or.inl ⟨rfl, rfl, rfl⟩⟩

end Holds

end PaxosPersistence.WriteSide
