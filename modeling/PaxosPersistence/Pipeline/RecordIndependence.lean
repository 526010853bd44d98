import PaxosPersistence.Kernel.WriteAccounting
import PaxosPersistence.Pipeline.LengthAgreement
import PaxosPersistence.Pipeline.WritePipeline

/-!
# Records and the messages before them

The slots of the write ring and the buffer of the write thread are used for one
message after another.  The slot is cleared for each of them, the buffer is
not: a read replaces as many bytes of it as the message has.  Once these reach
the length field, at byte 28, the record depends on its message alone, even
though a message shorter than the structure makes a record of negative length.
-/

namespace PaxosPersistence.RecordIndependence

open PaxosPersistence.ByteBlock
open PaxosPersistence.DeviceRing
open PaxosPersistence.KernelDevice
open PaxosPersistence.LengthAgreement
open PaxosPersistence.LmdbOperations
open PaxosPersistence.Machine
open PaxosPersistence.Memory
open PaxosPersistence.PaxosTypes
open PaxosPersistence.StorageThread
open PaxosPersistence.UserStorage
open PaxosPersistence.WriteAccounting
open PaxosPersistence.WritePersistence
open PaxosPersistence.WritePipeline
open PaxosPersistence.WriteSide

/-- The fields of a record and its value; not its padding, nor where its value
lies. -/
structure RecordFields where
  aid : Word32
  iid : Word32
  promiseIid : Word32
  ballot : Word32
  valueBallot : Word32
  paxosValueLen : Word32
  value : List Byte
  deriving DecidableEq

def fieldsOf (accepted : UserAccepted) : RecordFields where
  aid := accepted.header.aid
  iid := accepted.header.iid
  promiseIid := accepted.header.promiseIid
  ballot := accepted.header.ballot
  valueBallot := accepted.header.valueBallot
  paxosValueLen := accepted.header.value.paxosValueLen
  value := accepted.value

/-- The accepted messages of which the thread makes records.  For an empty one
its read returns zero, which means that the device has stopped. -/
def recordedOf (history : List Event) : List (List Byte) :=
  (acceptedOf history).filter fun msg => !msg.isEmpty

/-- The records handed to `storage_put`, each with its message. -/
def handedOver (history : List Event) : List (List Byte × UserAccepted) :=
  (recordedOf history).zip (processedOf history)

/-- In any two runs, whatever came before, the same record is handed over for
the message. -/
def DependsOnMessage (msg : List Byte) : Prop :=
  ∀ testMemory memory recv entries actions last history accepted,
  ∀ testMemory' memory' recv' entries' actions' last' history' accepted',
    run writePipeline (Pipeline.start testMemory memory recv entries) actions =
      .ok (last, history) →
    run writePipeline (Pipeline.start testMemory' memory' recv' entries')
      actions' = .ok (last', history') →
    (msg, accepted) ∈ handedOver history →
    (msg, accepted') ∈ handedOver history' →
      fieldsOf accepted = fieldsOf accepted'

/-! ## What a message of at least 28 bytes conveys -/

/-- The record of a message, from its slot. -/
def conveyed (msg : List Byte) : RecordFields where
  aid := readWord 32 (slice 0 4 (writeMessage msg).toList)
  iid := readWord 32 (slice 4 4 (writeMessage msg).toList)
  promiseIid := readWord 32 (slice 8 4 (writeMessage msg).toList)
  ballot := readWord 32 (slice 12 4 (writeMessage msg).toList)
  valueBallot := readWord 32 (slice 16 4 (writeMessage msg).toList)
  paxosValueLen := lenOfSize (effectiveSize msg.length)
  value := (deliveredBytes msg).drop sizeofPaxosAccepted

/-- The record carries what the message conveys, if that reaches the length
field. -/
def Conveys (msg : List Byte) (accepted : UserAccepted) : Prop :=
  28 ≤ msg.length → fieldsOf accepted = conveyed msg

/-- Decoding takes the fields from the image and the value from behind it. -/
theorem fieldsOf_of_decode {buffer : List Byte} {pointer : Addr}
    {accepted : UserAccepted}
    (hdecode : bufferToPaxosAccepted buffer pointer = .ok accepted) :
    fieldsOf accepted =
      { aid := (PaxosAccepted.ofImage buffer).aid
        iid := (PaxosAccepted.ofImage buffer).iid
        promiseIid := (PaxosAccepted.ofImage buffer).promiseIid
        ballot := (PaxosAccepted.ofImage buffer).ballot
        valueBallot := (PaxosAccepted.ofImage buffer).valueBallot
        paxosValueLen := (PaxosAccepted.ofImage buffer).value.paxosValueLen
        value := slice sizeofPaxosAccepted
          (PaxosAccepted.ofImage buffer).value.paxosValueLen.toInt.toNat
          buffer } := by
  obtain ⟨hheader, hvalue⟩ := bufferToPaxosAccepted_eq_ok hdecode
  rw [fieldsOf, hheader, hvalue]

theorem conveys_of_decode {msg rest : List Byte} {pointer : Addr}
    {accepted : UserAccepted}
    (hdecode : bufferToPaxosAccepted (deliveredBytes msg ++ rest) pointer =
      .ok accepted) : Conveys msg accepted := by
  intro hsize
  have heffective : 28 ≤ effectiveSize msg.length :=
    le_effectiveSize (by simp [slotSize]) hsize
  have hlength := length_deliveredBytes msg
  have hlen := paxosValueLen_deliveredBytes_append heffective rest
  have hint := toInt_lenOfSize (effectiveSize_le msg.length)
  have hvalue : slice sizeofPaxosAccepted
      (lenOfSize (effectiveSize msg.length)).toInt.toNat
      (deliveredBytes msg ++ rest) =
        (deliveredBytes msg).drop sizeofPaxosAccepted := by
    by_cases hheader : sizeofPaxosAccepted ≤ effectiveSize msg.length
    · rw [slice_append_left (by omega), slice, List.take_of_length_le]
      rw [List.length_drop]
      omega
    · rw [Int.toNat_of_nonpos (by omega), slice, List.take_zero,
        List.drop_eq_nil_of_le (by omega)]
  have hword {offset : ℕ} (hoffset : offset + 4 ≤ 28) :=
    slice_deliveredBytes_append heffective hoffset rest
  rw [fieldsOf_of_decode hdecode, hlen, hvalue, conveyed]
  simp only [PaxosAccepted.ofImage, hword (show 0 + 4 ≤ 28 by omega),
    hword (show 4 + 4 ≤ 28 by omega), hword (show 8 + 4 ≤ 28 by omega),
    hword (show 12 + 4 ≤ 28 by omega), hword (show 16 + 4 ≤ 28 by omega)]

/-! ## Where the messages are -/

/-- What a thread with this buffer holds at a stage, the ring behind it. -/
def StageKeeps (recv : List Byte) (queue : List (List Byte))
    (held : Option (List Byte)) : Stage → Prop
  | .polling => held = none
  | .reading => held = none ∧ queue ≠ []
  | .decoding => ∃ slot msg old, held = some msg ∧ msg ≠ [] ∧
      recv = overwrite 0 (writeFrame slot msg) old
  | .processing message => ∃ msg, held = some msg ∧ msg ≠ [] ∧
      Conveys msg message.value
  | .answering .. => False
  | .aborted => True

/-- The messages that make records: those served, the one held by the thread
and those in the ring. -/
structure Placed (side : Side) (history : List Event)
    (queue : List (List Byte)) (held : Option (List Byte))
    (served : List (List Byte)) : Prop where
  ring : RingHolds HoldsWrite side.device queue
  stage : StageKeeps side.thread.recv queue held side.thread.stage
  matched : List.Forall₂ Conveys served (processedOf history)
  recorded : recordedOf history =
    served ++ held.toList ++ queue.filter fun msg => !msg.isEmpty

theorem placed_start (memory : DeviceMemory) (recv : Block slotSize) :
    Placed ⟨kdevcharInit memory, Thread.start recv⟩ [] [] none [] where
  ring := RingHolds.kdevcharInit memory
  stage := rfl
  matched := List.Forall₂.nil
  recorded := rfl

section Steps

variable {side : Side} {history : List Event} {queue : List (List Byte)}
variable {held : Option (List Byte)} {served : List (List Byte)}

/-- An event that neither accepts nor finishes anything. -/
theorem Placed.unrelated (hplaced : Placed side history queue held served)
    {event : Event} (haccepted : acceptedOf [event] = [])
    (hprocessed : processedOf [event] = []) :
    Placed side (history ++ [event]) queue held served where
  ring := hplaced.ring
  stage := hplaced.stage
  matched := by
    rw [processedOf_append, hprocessed, List.append_nil]
    exact hplaced.matched
  recorded := by
    rw [recordedOf, acceptedOf_append, haccepted, List.append_nil]
    exact hplaced.recorded

/-- A message is put behind the others, or refused. -/
theorem Placed.addMessage (hplaced : Placed side history queue held served)
    (msg : List Byte) :
    ∃ device callback queue',
      writePersistenceAddMessage side.device msg = .ok (device, callback) ∧
      Placed { side with device } (history ++ [admission side.device msg])
        queue' held served := by
  by_cases hfree : queue.length < bufferSize
  · have hadd := writePersistenceAddMessage_eq
      (hplaced.ring.usedBuf_lt_iff.mpr hfree) msg
    refine ⟨_, _, queue ++ [msg], hadd, hplaced.ring.enqueue hfree rfl, ?_, ?_,
      ?_⟩
    · have hstage := hplaced.stage
      cases hcase : side.thread.stage with
      | reading =>
          rw [hcase] at hstage
          exact ⟨hstage.1, by simp⟩
      | polling | decoding | processing | answering | aborted =>
          rw [hcase] at hstage
          exact hstage
    · rw [admission, hadd, processedOf_append]
      simpa [processedOf] using hplaced.matched
    · rw [admission, hadd]
      calc
        recordedOf (history ++ [.accepted msg]) =
          recordedOf history ++ [msg].filter fun msg => !msg.isEmpty := by
            simp only [recordedOf, acceptedOf_append, List.filter_append]
            rfl
        _ = _ := by
            rw [hplaced.recorded, List.filter_append, List.append_assoc]
  · have hadd := writePersistenceAddMessage_full
      (not_lt.mp (mt hplaced.ring.usedBuf_lt_iff.mp hfree)) msg
    refine ⟨_, _, queue, hadd, ?_⟩
    rw [admission, hadd]
    exact hplaced.unrelated rfl rfl

theorem effectiveSize_ne_zero {msg : List Byte} (hmsg : msg ≠ []) :
    effectiveSize msg.length ≠ 0 := by
  have hone : 1 ≤ msg.length := List.length_pos_iff.mpr hmsg
  have heffective := @le_effectiveSize 1 msg.length (by decide) hone
  omega

/-- A read takes the oldest message; an empty one is not noticed. -/
theorem Placed.read (hplaced : Placed side history queue held served)
    (hstage : side.thread.stage = .reading) (database : Database)
    (codes : MdbCodes) (pointer : Addr) :
    ∃ next queue' held',
      genericStorageThread false side database codes pointer =
        .ok (next, database, []) ∧
      Placed next history queue' held' served := by
  have hkeeps := hplaced.stage
  rw [hstage] at hkeeps
  obtain ⟨rfl, hqueue⟩ := hkeeps
  obtain ⟨msg, rest, rfl⟩ := List.exists_cons_of_ne_nil hqueue
  have hread := writePersistenceRead_eq hplaced.ring.working_eq
    hplaced.ring.head side.thread.recv
  have hrecorded := hplaced.recorded
  by_cases hmsg : msg = []
  · subst hmsg
    refine ⟨{ device := side.device.dequeue,
              thread := { side.thread with
                recv := overwrite 0 (writeFrame side.device.firstBuf [])
                  side.thread.recv
                stage := .polling } }, rest, none, ?_,
      hplaced.ring.dequeue, rfl, hplaced.matched, hrecorded⟩
    simp only [genericStorageThread, hstage, deviceRead, hread,
      Bool.false_eq_true, if_false, bind, Except.bind, pure, Except.pure]
    rfl
  · have hlen : ((effectiveSize msg.length : ℕ) : ℤ) ≠ 0 :=
      Nat.cast_ne_zero.mpr (effectiveSize_ne_zero hmsg)
    refine ⟨{ device := side.device.dequeue,
              thread := { side.thread with
                recv := overwrite 0 (writeFrame side.device.firstBuf msg)
                  side.thread.recv
                stage := .decoding } }, rest, some msg, ?_,
      hplaced.ring.dequeue, ⟨side.device.firstBuf, msg, _, rfl, hmsg, rfl⟩,
      hplaced.matched, ?_⟩
    · simp only [genericStorageThread, hstage, deviceRead, hread,
        Bool.false_eq_true, if_false, ne_eq, hlen, not_false_eq_true, if_true,
        bind, Except.bind, pure, Except.pure]
    · rw [hrecorded]
      simp [hmsg]

/-- `storage_put` has finished with the record, or the process is aborted in
it. -/
theorem processWriteMessage_shape (side : Side) (database : Database)
    (message : ClientValue) (codes : MdbCodes) :
    ∃ stage after event,
      processWriteMessage side database message codes =
        (side.goto stage, after, [event]) ∧
      (stage = .polling ∨ stage = .aborted) ∧
      acceptedOf [event] = [] ∧ processedOf [event] = [message.value] := by
  rw [processWriteMessage]
  split
  · exact ⟨.aborted, database, _, rfl, Or.inr rfl, rfl, rfl⟩
  · rename_i next ret _
    by_cases hret : ret = 0
    · rw [if_pos hret]
      exact ⟨.polling, next, _, rfl, Or.inl rfl, rfl, rfl⟩
    · rw [if_neg hret]
      exact ⟨.polling, next, _, rfl, Or.inl rfl, rfl, rfl⟩

theorem Placed.process (hplaced : Placed side history queue held served)
    {message : ClientValue} (hstage : side.thread.stage = .processing message)
    (database : Database) (codes : MdbCodes) (pointer : Addr) :
    ∃ next after events served',
      genericStorageThread false side database codes pointer =
        .ok (next, after, events) ∧
      Placed next (history ++ events) queue none served' := by
  have hkeeps := hplaced.stage
  rw [hstage] at hkeeps
  obtain ⟨msg, rfl, -, hconveys⟩ := hkeeps
  obtain ⟨stage, after, event, hprocess, hnext, haccepted, hprocessed⟩ :=
    processWriteMessage_shape side database message codes
  refine ⟨side.goto stage, after, [event], served ++ [msg], ?_,
    hplaced.ring, ?_, ?_, ?_⟩
  · simp only [genericStorageThread, hstage, hprocess, Bool.false_eq_true,
      if_false]
  · obtain rfl | rfl := hnext
    · rfl
    · trivial
  · rw [processedOf_append, hprocessed]
    exact List.rel_append hplaced.matched (List.Forall₂.cons hconveys .nil)
  · rw [recordedOf, acceptedOf_append, haccepted, List.append_nil]
    exact hplaced.recorded.trans (by simp)

/-- One step of the thread, whatever it is. -/
theorem Placed.threadStep (hplaced : Placed side history queue held served)
    (database : Database) (codes : MdbCodes) (pointer : Addr) :
    ∃ next after events queue' held' served',
      genericStorageThread false side database codes pointer =
        .ok (next, after, events) ∧
      Placed next (history ++ events) queue' held' served' := by
  have hkeeps := hplaced.stage
  cases hstage : side.thread.stage with
  | polling =>
      rw [hstage] at hkeeps
      refine ⟨side.goto (if side.device.devicePoll then .reading else .polling),
        database, [], queue, held, served,
        by simp only [genericStorageThread, hstage], hplaced.ring, ?_, ?_, ?_⟩
      · change StageKeeps _ _ _ (if side.device.devicePoll then _ else _)
        by_cases hpoll : side.device.devicePoll
        · rw [if_pos hpoll]
          exact ⟨hkeeps, hplaced.ring.devicePoll_iff.mp hpoll⟩
        · rw [if_neg hpoll]
          exact hkeeps
      · rw [List.append_nil]
        exact hplaced.matched
      · rw [List.append_nil]
        exact hplaced.recorded
  | reading =>
      obtain ⟨next, queue', held', hstep, hnext⟩ :=
        hplaced.read hstage database codes pointer
      exact ⟨next, database, [], queue', held', served, hstep,
        by rwa [List.append_nil]⟩
  | decoding =>
      rw [hstage] at hkeeps
      obtain ⟨slot, msg, old, rfl, hmsg, hrecv⟩ := hkeeps
      cases hdecode : decodeMessage side.thread.recv pointer with
      | error halt =>
          refine ⟨side.goto .aborted, database, [], queue, some msg, served, ?_,
            hplaced.ring, trivial, ?_, ?_⟩
          · simp only [genericStorageThread, hstage, hdecode]
          · rw [List.append_nil]
            exact hplaced.matched
          · rw [List.append_nil]
            exact hplaced.recorded
      | ok message =>
          have hbuffer := decodeMessage_eq_ok hdecode
          rw [hrecv, drop_received] at hbuffer
          refine ⟨side.goto (.processing message), database, [], queue,
            some msg, served, ?_, hplaced.ring,
            ⟨msg, rfl, hmsg, conveys_of_decode hbuffer⟩, ?_, ?_⟩
          · simp only [genericStorageThread, hstage, hdecode]
          · rw [List.append_nil]
            exact hplaced.matched
          · rw [List.append_nil]
            exact hplaced.recorded
  | processing message =>
      obtain ⟨next, after, events, served', hstep, hnext⟩ :=
        hplaced.process hstage database codes pointer
      exact ⟨next, after, events, queue, none, served', hstep, hnext⟩
  | answering msg count =>
      rw [hstage] at hkeeps
      exact hkeeps.elim
  | aborted =>
      exact ⟨side, database, [], queue, held, served,
        by simp only [genericStorageThread, hstage],
        by rwa [List.append_nil]⟩

end Steps

/-! ## Runs of the pipeline -/

/-- What holds between two steps. -/
structure PlacedTrack (state : Pipeline) (history : List Event) : Prop where
  working_eq : state.writeTestDevice.working = true
  placed : ∃ queue held served, Placed state.side history queue held served

theorem writePipeline_placed (state : Pipeline) (history : List Event)
    (action : WriteAction) (htrack : PlacedTrack state history) :
    ∃ next events, writePipeline state action = .ok (next, events) ∧
      PlacedTrack next (history ++ events) := by
  obtain ⟨queue, held, served, hplaced⟩ := htrack.placed
  cases action with
  | addMessage msg =>
      obtain ⟨device, callback, queue', hadd, hnext⟩ := hplaced.addMessage msg
      refine ⟨{ state with side := { state.side with device } },
        [admission state.side.device msg], ?_,
        ⟨htrack.working_eq, queue', held, served, hnext⟩⟩
      simp only [writePipeline, hadd, bind, Except.bind, pure, Except.pure]
  | writeTestWrite msg =>
      obtain ⟨device, callback, queue', hadd, hnext⟩ := hplaced.addMessage msg
      have hwrite := writeTestWrite_eq htrack.working_eq hadd
      have hreturned := hnext.unrelated
        (show acceptedOf [.returned msg msg.length] = [] from rfl) rfl
      rw [List.append_assoc] at hreturned
      refine ⟨{ state with side := { state.side with device } },
        [admission state.side.device msg, .returned msg msg.length], ?_,
        ⟨htrack.working_eq, queue', held, served, hreturned⟩⟩
      simp only [writePipeline, hwrite, bind, Except.bind, pure, Except.pure]
  | thread codes pointer =>
      obtain ⟨side, database, events, queue', held', served', hstep, hnext⟩ :=
        hplaced.threadStep state.database codes pointer
      refine ⟨{ state with side, database }, events, ?_,
        ⟨htrack.working_eq, queue', held', served', hnext⟩⟩
      simp only [writePipeline, hstep, bind, Except.bind, pure, Except.pure]

/-- Every run succeeds, and every record handed over in it conveys its
message. -/
theorem run_conveys (testMemory memory : DeviceMemory) (recv : Block slotSize)
    (entries : List Byte → Option (List Byte)) (actions : List WriteAction) :
    ∃ last history,
      run writePipeline (Pipeline.start testMemory memory recv entries)
        actions = .ok (last, history) ∧
      ∀ pair ∈ handedOver history, Conveys pair.1 pair.2 := by
  have hstart : PlacedTrack
      (Pipeline.start testMemory memory recv entries) [] :=
    ⟨kdevcharInit_working testMemory, [], none, [], placed_start memory recv⟩
  obtain ⟨last, history, hrun, -, queue, held, served, hplaced⟩ :=
    run_of_total PlacedTrack writePipeline_placed hstart actions
  rw [List.nil_append] at hplaced
  refine ⟨last, history, hrun, ?_⟩
  rintro ⟨msg, accepted⟩ hpair
  have hmatched := List.forall₂_iff_zip.mp hplaced.matched
  apply hmatched.2
  have hzip := @List.zip_append _ _ served
    (held.toList ++ queue.filter fun msg => !msg.isEmpty)
    (processedOf history) [] hmatched.1
  rw [handedOver, hplaced.recorded, List.append_assoc] at hpair
  rw [List.append_nil, List.zip_nil_right, List.append_nil] at hzip
  rwa [hzip] at hpair

theorem dependsOnMessage_of_field {msg : List Byte}
    (hsize : 28 ≤ msg.length) : DependsOnMessage msg := by
  intro testMemory memory recv entries actions last history accepted
    testMemory' memory' recv' entries' actions' last' history' accepted'
    hrun hrun' hpair hpair'
  obtain ⟨_, _, hsame, hconveys⟩ :=
    run_conveys testMemory memory recv entries actions
  obtain ⟨_, _, hsame', hconveys'⟩ :=
    run_conveys testMemory' memory' recv' entries' actions'
  cases hrun.symm.trans hsame
  cases hrun'.symm.trans hsame'
  calc
    fieldsOf accepted = conveyed msg := hconveys _ hpair hsize
    _ = fieldsOf accepted' := (hconveys' _ hpair' hsize).symm

/-- No record is made of an empty message. -/
theorem dependsOnMessage_nil : DependsOnMessage [] := by
  intro _ _ _ _ _ _ history accepted _ _ _ _ _ _ _ _ _ _ hpair _
  have hmem := (List.of_mem_zip hpair).1
  exact absurd (List.mem_filter.mp hmem).2 (by simp)

/-! ## Messages that do not reach the length field -/

/-- A buffer of ones, but for the byte where a frame has the last one of its
length field. -/
def bufferWith (top : Byte) : Block slotSize :=
  ⟨List.replicate 31 255 ++ top :: List.replicate 208 255, by
    rw [List.length_append, List.length_cons, List.length_replicate,
      List.length_replicate]⟩

/-- A message on its way from the empty ring to `storage_put`. -/
def singleRun (msg : List Byte) : List WriteAction :=
  [.addMessage msg, .thread MdbCodes.success 1, .thread MdbCodes.success 1,
    .thread MdbCodes.success 1, .thread MdbCodes.success 1]

/-- The length field of the frame has the last byte that was there before. -/
theorem decode_bufferWith {msg : List Byte} (hshort : msg.length < 28)
    {top : Byte} (htop : 128 ≤ top.val) (slot : SlotId) :
    ∃ message, decodeMessage (overwrite 0 (writeFrame slot msg)
        (bufferWith top).toList) 1 = .ok message ∧
      (fieldsOf message.value).paxosValueLen.toNat / 2 ^ 24 = top.val := by
  have hsize := effectiveSize_le_self msg.length
  have hframe : (writeFrame slot msg).length =
      sizeofInt + effectiveSize msg.length := by
    rw [writeFrame, List.length_append, length_wordBytes, length_deliveredBytes]
  have hstale : slice (27 - effectiveSize msg.length) 1
      ((bufferWith top).toList.drop (writeFrame slot msg).length) = [top] := by
    have hoffset : sizeofInt + effectiveSize msg.length +
        (27 - effectiveSize msg.length) = 31 := by
      simp only [sizeofInt]
      omega
    rw [hframe, slice, List.drop_drop, hoffset]
    rfl
  have hword := @paxosValueLen_top msg _ top (by omega) hstale
  have hneg := toInt_neg_of_top htop hword
  have hlength : ((overwrite 0 (writeFrame slot msg)
      (bufferWith top).toList).drop sizeofInt).length = 236 := by
    have hrecv : (bufferWith top).toList.length = 240 :=
      (bufferWith top).toList_length
    rw [drop_received, List.length_append, length_deliveredBytes,
      List.length_drop, hrecv, hframe]
    simp only [sizeofInt]
    omega
  have hdrop := drop_received slot msg (bufferWith top).toList
  obtain ⟨message, hdecode, -, -, hlen⟩ := decodeMessage_of_fits
    (by rw [hlength]; decide)
    (by rw [hlength, hdrop, Int.toNat_of_nonpos hneg.le]; decide) 1
  refine ⟨message, hdecode, ?_⟩
  rw [← hword, ← hdrop, ← hlen]
  rfl

/-- A pipeline whose thread has this buffer and stands at this stage. -/
def pipelineAt (writeTestDevice : PaxosKernelDevice) (database : Database)
    (device : PaxosKernelDevice) (recv : List Byte) (stage : Stage) :
    Pipeline where
  writeTestDevice := writeTestDevice
  side := ⟨device, ⟨⟨none⟩, recv, stage⟩⟩
  database := database

/-- A device with one message in its ring is readable. -/
theorem devicePoll_enqueue {device : PaxosKernelDevice}
    (hused : device.usedBuf = 0) (message : Block slotSize) :
    (device.enqueue message).devicePoll = true := by
  rw [PaxosKernelDevice.devicePoll,
    PaxosKernelDevice.usedBuf_enqueue_of_zero hused]
  decide

/-- The thread hands a decoded message to `storage_put`. -/
theorem pipelineAt_processing (writeTestDevice device : PaxosKernelDevice)
    (database : Database) (recv : List Byte) (message : ClientValue) :
    ∃ stage after event,
      writePipeline (pipelineAt writeTestDevice database device recv
          (.processing message)) (.thread MdbCodes.success 1) =
        .ok (pipelineAt writeTestDevice after device recv stage, [event]) ∧
      acceptedOf [event] = [] ∧ processedOf [event] = [message.value] := by
  obtain ⟨stage, after, event, hprocess, -, haccepted, hprocessed⟩ :=
    processWriteMessage_shape (pipelineAt writeTestDevice database device recv
      (.processing message)).side database message MdbCodes.success
  refine ⟨stage, after, event, ?_, haccepted, hprocessed⟩
  simp only [pipelineAt] at hprocess ⊢
  simp only [writePipeline, genericStorageThread, hprocess,
    Bool.false_eq_true, if_false, bind, Except.bind, pure, Except.pure]
  rfl

/-- From an empty ring the message goes straight to `storage_put`. -/
theorem run_of_empty {device : PaxosKernelDevice}
    (hworking : device.working = true)
    (hempty : device.firstBuf = device.currentBuf)
    (hused : device.usedBuf = 0) {msg : List Byte} (hmsg : msg ≠ [])
    {recv : List Byte} {message : ClientValue}
    (hdecode : decodeMessage (overwrite 0 (writeFrame device.currentBuf msg)
      recv) 1 = .ok message)
    (writeTestDevice : PaxosKernelDevice) (database : Database) :
    ∃ last history,
      run writePipeline
        (pipelineAt writeTestDevice database device recv .polling)
        (singleRun msg) = .ok (last, history) ∧
      handedOver history = [(msg, message.value)] := by
  have hadd := @writePersistenceAddMessage_eq device
    (by rw [hused]; decide) msg
  have hread := read_of_empty hworking hempty msg recv
  have hpoll := devicePoll_enqueue hused (writeMessage msg)
  generalize device.enqueue (writeMessage msg) = added at hadd hread hpoll
  generalize hreceived : overwrite 0 (writeFrame device.currentBuf msg) recv =
    received at hdecode hread
  have hlen : ((effectiveSize msg.length : ℕ) : ℤ) ≠ 0 :=
    Nat.cast_ne_zero.mpr (effectiveSize_ne_zero hmsg)
  have hadded : writePipeline
      (pipelineAt writeTestDevice database device recv .polling)
        (.addMessage msg) =
      .ok (pipelineAt writeTestDevice database added recv .polling,
        [.accepted msg]) := by
    simp only [writePipeline, pipelineAt, admission, hadd, bind, Except.bind,
      pure, Except.pure]
  have hpolled : writePipeline
      (pipelineAt writeTestDevice database added recv .polling)
        (.thread MdbCodes.success 1) =
      .ok (pipelineAt writeTestDevice database added recv .reading, []) := by
    simp only [writePipeline, pipelineAt, genericStorageThread, Side.goto,
      hpoll, if_true, bind, Except.bind, pure, Except.pure]
  have hfetched : writePipeline
      (pipelineAt writeTestDevice database added recv .reading)
        (.thread MdbCodes.success 1) =
      .ok (pipelineAt writeTestDevice database added.dequeue received
        .decoding, []) := by
    simp only [writePipeline, pipelineAt, genericStorageThread, deviceRead,
      hread, Bool.false_eq_true, if_false, ne_eq, hlen, not_false_eq_true,
      if_true, bind, Except.bind, pure, Except.pure]
  have hdecoded : writePipeline (pipelineAt writeTestDevice database
      added.dequeue received .decoding) (.thread MdbCodes.success 1) =
      .ok (pipelineAt writeTestDevice database added.dequeue received
        (.processing message), []) := by
    simp only [writePipeline, pipelineAt, genericStorageThread, hdecode,
      Side.goto, bind, Except.bind, pure, Except.pure]
  obtain ⟨stage, after, event, hput, haccepted, hprocessed⟩ :=
    pipelineAt_processing writeTestDevice added.dequeue database received
      message
  refine ⟨_, [.accepted msg] ++ [event], run_cons_eq_ok.mpr ⟨_, _, _, hadded,
    run_cons_eq_ok.mpr ⟨_, _, _, hpolled, run_cons_eq_ok.mpr ⟨_, _, _, hfetched,
      run_cons_eq_ok.mpr ⟨_, _, _, hdecoded, run_cons_eq_ok.mpr ⟨_, _, _, hput,
        rfl, rfl⟩, rfl⟩, rfl⟩, rfl⟩, rfl⟩, ?_⟩
  rw [handedOver, recordedOf, acceptedOf_append, processedOf_append, haccepted,
    hprocessed]
  simp [acceptedOf, processedOf, hmsg]

/-- A run that hands over a record with that last byte in its length. -/
theorem run_singleRun {msg : List Byte} (hmsg : msg ≠ [])
    (hshort : msg.length < 28) {top : Byte} (htop : 128 ≤ top.val) :
    ∃ last history accepted,
      run writePipeline (Pipeline.start zeroMemory zeroMemory (bufferWith top)
        fun _ => none) (singleRun msg) = .ok (last, history) ∧
      (msg, accepted) ∈ handedOver history ∧
      (fieldsOf accepted).paxosValueLen.toNat / 2 ^ 24 = top.val := by
  obtain ⟨message, hdecode, hlen⟩ := decode_bufferWith hshort htop
    (kdevcharInit zeroMemory).currentBuf
  obtain ⟨last, history, hrun, hhanded⟩ := run_of_empty
    (kdevcharInit_working zeroMemory)
    ((kdevcharInit_firstBuf zeroMemory).trans
      (kdevcharInit_currentBuf zeroMemory).symm)
    (kdevcharInit_usedBuf zeroMemory) hmsg hdecode (kdevcharInit zeroMemory)
    (TransactionalMap.Store.ofEntries fun _ => none)
  refine ⟨last, history, message.value, hrun, ?_, hlen⟩
  rw [hhanded]
  exact List.mem_singleton_self _

theorem DependsOnMessage.field {msg : List Byte}
    (hdepends : DependsOnMessage msg) (hmsg : msg ≠ []) : 28 ≤ msg.length := by
  by_contra hshort
  obtain ⟨last, history, accepted, hrun, hpair, hlen⟩ :=
    @run_singleRun msg hmsg (not_le.mp hshort) 255 (by decide)
  obtain ⟨last', history', accepted', hrun', hpair', hlen'⟩ :=
    @run_singleRun msg hmsg (not_le.mp hshort) 128 (by decide)
  have hsame := hdepends _ _ _ _ _ _ _ _ _ _ _ _ _ _ _ _ hrun hrun' hpair
    hpair'
  rw [hsame, hlen'] at hlen
  exact absurd hlen (by decide)

/-- The messages whose records depend on nothing else are the empty one, of
which there is no record, and those that reach the length field. -/
theorem dependsOnMessage_iff (msg : List Byte) :
    DependsOnMessage msg ↔ msg.length = 0 ∨ 28 ≤ msg.length := by
  constructor
  · intro hdepends
    by_cases hempty : msg.length = 0
    · exact Or.inl hempty
    · exact Or.inr (hdepends.field fun hnil => hempty (by rw [hnil]; rfl))
  · rintro (hempty | hsize)
    · rw [List.eq_nil_of_length_eq_zero hempty]
      exact dependsOnMessage_nil
    · exact dependsOnMessage_of_field hsize

/-- An earlier message, then one of 24 bytes, each on its way through the
pipeline. -/
def laterRun (earlier : List Byte) : List WriteAction :=
  singleRun earlier ++ singleRun (List.replicate 24 0)

/-- What is handed over in a run from the start. -/
def observedHandedOver (actions : List WriteAction) :
    Option (List (List Byte × RecordFields)) :=
  match run writePipeline (Pipeline.start zeroMemory zeroMemory
    (Block.zero slotSize) fun _ => none) actions with
  | .ok (_, history) =>
      some ((handedOver history).map fun pair => (pair.1, fieldsOf pair.2))
  | .error _ => none

/-- Behind a message with one byte of value, the message of 24 zero bytes makes
a record with that value; behind one without, a record without. -/
theorem staleLength_not_dependsOnMessage :
    observedHandedOver (laterRun (List.replicate 40 0)) =
        some [(List.replicate 40 0, ⟨0, 0, 0, 0, 0, 0, []⟩),
          (List.replicate 24 0, ⟨0, 0, 0, 0, 0, 0, []⟩)] ∧
      observedHandedOver (laterRun (List.replicate 40 0 ++ [7])) =
        some [(List.replicate 40 0 ++ [7], ⟨0, 0, 0, 0, 0, 1, [7]⟩),
          (List.replicate 24 0, ⟨0, 0, 0, 0, 0, 1, [7]⟩)] ∧
      ¬ DependsOnMessage (List.replicate 24 0) := by
  refine ⟨by decide +kernel, by decide +kernel, fun hdepends => ?_⟩
  exact absurd (hdepends.field (by decide)) (by decide)

end PaxosPersistence.RecordIndependence
