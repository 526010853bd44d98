import PaxosPersistence.Pipeline.WritePipeline

/-!
# The test program

`writeProcess` of the test program writes numbered records with one value
through the write test device, without looking at what becomes of them.  As
long as it writes no more of them than the ring has slots, every record reaches
the database, whatever the storage thread does in between and whatever `malloc`
has left in the rest of the structures.
-/

namespace PaxosPersistence.TestProgram

open PaxosPersistence.ByteBlock
open PaxosPersistence.KernelDevice
open PaxosPersistence.LmdbOperations
open PaxosPersistence.Machine
open PaxosPersistence.Memory
open PaxosPersistence.PaxosTypes
open PaxosPersistence.StorageThread
open PaxosPersistence.TransactionalMap
open PaxosPersistence.UserStorage
open PaxosPersistence.WritePersistence
open PaxosPersistence.WritePipeline
open PaxosPersistence.WriteSide

/-- `MSG_LEN` -/
abbrev msgLen : ℕ := 64

/-- `CLIENT_MSG` with its terminator. -/
def clientMsg : List Byte :=
  [42, 67, 76, 73, 69, 78, 84].flatMap (List.replicate 8) ++
    List.replicate 7 42 ++ [0]

theorem length_clientMsg :
    clientMsg.length = (BitVec.ofNat 32 msgLen).toInt.toNat := by
  decide

/-- The structure of one round of the loop; `allocated` is what `malloc` has
left in it. -/
def writtenAccepted (i : ℕ) (allocated : PaxosAccepted) (pointer : Addr) :
    UserAccepted where
  header :=
    { allocated with
      iid := BitVec.ofNat 32 i
      value :=
        { allocated.value with
          paxosValueLen := BitVec.ofNat 32 msgLen
          paxosValueVal := pointer } }
  value := clientMsg
  length_eq := length_clientMsg

/-- The loop of `writeProcess` beside the write pipeline.  In `main` the thread
that runs it is commented out. -/
structure WriteProcess where
  pipeline : Pipeline
  i : ℕ
  /-- A write has failed, and the loop is left. -/
  returned : Bool

def WriteProcess.start (testMemory memory : DeviceMemory)
    (recv : Block slotSize) (entries : List Byte → Option (List Byte)) :
    WriteProcess where
  pipeline := Pipeline.start testMemory memory recv entries
  i := 0
  returned := false

inductive TestAction where
  | iterate (allocated : PaxosAccepted) (pointer : Addr)
  | thread (codes : MdbCodes) (pointer : Addr)

/-- The write of one round; without a buffer there is nothing to write. -/
def iterate (state : WriteProcess) (allocated : PaxosAccepted)
    (pointer : Addr) : Except Halt (WriteProcess × List Event) := do
  let pipeline := state.pipeline
  let stringToSend ←
    paxosAcceptedToBuffer (writtenAccepted state.i allocated pointer)
  let msg ← checked stringToSend
  let (device, ret) ←
    writeTestWrite pipeline.writeTestDevice pipeline.side.device msg
  return ({
      pipeline := { pipeline with side := { pipeline.side with device } }
      i := if ret < 0 then state.i else state.i + 1
      returned := decide (ret < 0) },
    [admission pipeline.side.device msg, .returned msg ret])

def writeProcess (totalMessages : ℕ) : Step WriteProcess TestAction Event Halt
  | state, .iterate allocated pointer =>
      if state.returned ∨ totalMessages ≤ state.i then .ok (state, [])
      else iterate state allocated pointer
  | state, .thread codes pointer => do
      let (pipeline, events) ←
        writePipeline state.pipeline (.thread codes pointer)
      return ({ state with pipeline }, events)

/-! ## The records on their way -/

/-- The number and the value of a record. -/
def content (record : PaxosRecord) : Word32 × List Byte :=
  (record.iid, record.value)

/-- What the program means to store in a round. -/
def intended (i : ℕ) : Word32 × List Byte :=
  (BitVec.ofNat 32 i, clientMsg)

theorem length_encode_writtenAccepted (i : ℕ) (allocated : PaxosAccepted)
    (pointer : Addr) :
    (writtenAccepted i allocated pointer).encode.length = 104 := by
  rw [UserAccepted.length_encode]
  rfl

theorem paxosAcceptedToBuffer_writtenAccepted (i : ℕ)
    (allocated : PaxosAccepted) (pointer : Addr) :
    paxosAcceptedToBuffer (writtenAccepted i allocated pointer) =
      .ok (some (writtenAccepted i allocated pointer).encode) :=
  paxosAcceptedToBuffer_eq (by
    change 0 ≤ (BitVec.ofNat 32 msgLen).toInt
    decide)

/-- The message says what the program means. -/
theorem content_messageRecord (i : ℕ) (allocated : PaxosAccepted)
    (pointer : Addr) :
    content (messageRecord (writtenAccepted i allocated pointer).encode) =
      intended i := by
  have hheader := PaxosAccepted.ofImage_toImage_append
    (writtenAccepted i allocated pointer).header clientMsg
  have hlength := length_encode_writtenAccepted i allocated pointer
  apply Prod.ext
  · exact congrArg PaxosAccepted.iid hheader
  · change (List.take _ _).drop sizeofPaxosAccepted = clientMsg
    rw [hlength, List.take_of_length_le (by rw [hlength]; decide)]
    exact List.drop_left' (PaxosAccepted.length_toImage _)

/-! ## Steps -/

/-- The database does not fail. -/
def TestAction.Succeeds : TestAction → Prop
  | .iterate .. => True
  | .thread codes _ => codes = MdbCodes.success

def TestAction.isRound : TestAction → Bool
  | .iterate .. => true
  | .thread .. => false

/-- What the program has written so far was accepted. -/
structure WriteProcessTrack (totalMessages : ℕ)
    (entries : List Byte → Option (List Byte)) (state : WriteProcess)
    (history : List Event) : Prop where
  working_eq : state.pipeline.writeTestDevice.working = true
  track : WriteTrack (fun codes => codes = MdbCodes.success) entries
    state.pipeline.side state.pipeline.database history
  accepted : (acceptedOf history).map (fun msg => content (messageRecord msg)) =
    (List.range state.i).map intended
  i_le : state.i ≤ totalMessages
  returned_eq : state.returned = false

namespace WriteProcessTrack

variable {totalMessages : ℕ} {entries : List Byte → Option (List Byte)}
variable {state : WriteProcess} {history : List Event}

theorem start (testMemory memory : DeviceMemory) (recv : Block slotSize)
    (entries : List Byte → Option (List Byte)) :
    WriteProcessTrack totalMessages entries
      (WriteProcess.start testMemory memory recv entries) [] where
  working_eq := kdevcharInit_working testMemory
  track := WriteTrack.start memory recv entries
  accepted := rfl
  i_le := Nat.zero_le totalMessages
  returned_eq := rfl

/-- No more messages are on their way than the program has written. -/
theorem length_queue_le
    (htrack : WriteProcessTrack totalMessages entries state history) :
    ∃ queue held, WriteSideHolds state.pipeline.side queue held ∧
      queue.length ≤ state.i := by
  obtain ⟨queue, held, hside, hconserved⟩ := htrack.track.holds
  refine ⟨queue, held, hside, ?_⟩
  have hcounts := congrArg List.length hconserved
  have haccepted := congrArg List.length htrack.accepted
  rw [List.length_map, List.length_map, List.length_range] at haccepted
  simp only [List.length_append, List.length_map] at hcounts
  omega

/-- A message of the program finds room. -/
theorem admission_eq (hring : totalMessages ≤ bufferSize)
    (htrack : WriteProcessTrack totalMessages entries state history)
    (hi : state.i < totalMessages) {msg : List Byte}
    (hheader : sizeofPaxosAccepted ≤ msg.length) :
    admission state.pipeline.side.device msg = .accepted msg := by
  obtain ⟨queue, held, hside, hqueue⟩ := htrack.length_queue_le
  obtain ⟨device, callback, -, hadmitted | ⟨hfull, -⟩⟩ :=
    hside.addMessage hheader
  · exact hadmitted.2.2
  · omega

theorem iterate (hring : totalMessages ≤ bufferSize)
    (htrack : WriteProcessTrack totalMessages entries state history)
    (hi : state.i < totalMessages) (allocated : PaxosAccepted)
    (pointer : Addr) :
    ∃ next events, TestProgram.iterate state allocated pointer =
        .ok (next, events) ∧
      WriteProcessTrack totalMessages entries next (history ++ events) ∧
      next.i = state.i + 1 := by
  have hheader : sizeofPaxosAccepted ≤
      (writtenAccepted state.i allocated pointer).encode.length := by
    rw [length_encode_writtenAccepted]
    decide
  have hadmission := htrack.admission_eq hring hi hheader
  obtain ⟨device, callback, hadd, -, hadded⟩ := htrack.track.addMessage hheader
  have hwrite := writeTestWrite_eq htrack.working_eq hadd
  have hreturned := hadded.foreign
    [.returned (writtenAccepted state.i allocated pointer).encode
      (writtenAccepted state.i allocated pointer).encode.length]
    (by simp [Foreign]) hadded.settled rfl
  rw [List.append_assoc, hadmission] at hreturned
  refine ⟨⟨{ state.pipeline with
      side := { state.pipeline.side with device } }, state.i + 1, false⟩,
    _, ?_, ⟨htrack.working_eq, hreturned, ?_, hi, rfl⟩, rfl⟩
  · simp only [TestProgram.iterate, paxosAcceptedToBuffer_writtenAccepted,
      checked_some, hwrite, hadmission, bind, Except.bind, pure, Except.pure]
    rw [if_neg (by omega), decide_eq_false (by omega)]
    rfl
  · have haccepted : acceptedOf (history ++
        [Event.accepted (writtenAccepted state.i allocated pointer).encode] ++
        [.returned (writtenAccepted state.i allocated pointer).encode
          (writtenAccepted state.i allocated pointer).encode.length]) =
        acceptedOf history ++
          [(writtenAccepted state.i allocated pointer).encode] := by
      rw [acceptedOf_append, acceptedOf_append]
      exact List.append_nil _
    rw [← List.append_assoc, haccepted, List.map_append, htrack.accepted,
      List.range_succ, List.map_append, List.map_singleton,
      content_messageRecord]
    rfl

theorem thread
    (htrack : WriteProcessTrack totalMessages entries state history)
    (pointer : Addr) :
    ∃ next events, writeProcess totalMessages state
        (.thread MdbCodes.success pointer) = .ok (next, events) ∧
      WriteProcessTrack totalMessages entries next (history ++ events) ∧
      next.i = state.i := by
  obtain ⟨side, database, events, hstep, hstores, hnext⟩ :=
    htrack.track.threadStep rfl pointer
  have haccepted : acceptedOf events = [] := by
    rcases hstores with rfl | ⟨accepted, rfl⟩ | ⟨accepted, codes, rfl⟩ <;> rfl
  refine ⟨{ state with
      pipeline := { state.pipeline with side, database } }, events, ?_,
    ⟨htrack.working_eq, hnext, ?_, htrack.i_le, htrack.returned_eq⟩, rfl⟩
  · simp only [writeProcess, writePipeline, hstep, bind, Except.bind, pure,
      Except.pure]
  · rw [acceptedOf_append, haccepted, List.append_nil]
    exact htrack.accepted

theorem step (hring : totalMessages ≤ bufferSize)
    (htrack : WriteProcessTrack totalMessages entries state history)
    {action : TestAction} (haction : action.Succeeds) :
    ∃ next events, writeProcess totalMessages state action =
        .ok (next, events) ∧
      WriteProcessTrack totalMessages entries next (history ++ events) ∧
      next.i = if action.isRound then min totalMessages (state.i + 1)
        else state.i := by
  have hle := htrack.i_le
  cases action with
  | iterate allocated pointer =>
      rw [writeProcess]
      split
      · next hleft =>
        have hdone : totalMessages ≤ state.i := by
          rw [htrack.returned_eq] at hleft
          exact hleft.resolve_left Bool.false_ne_true
        refine ⟨state, [], rfl, by rw [List.append_nil]; exact htrack, ?_⟩
        change state.i = min totalMessages (state.i + 1)
        omega
      · next hloops =>
        have hi := not_le.mp (not_or.mp hloops).2
        obtain ⟨next, events, hstep, hnext, hround⟩ :=
          htrack.iterate hring hi allocated pointer
        refine ⟨next, events, hstep, hnext, ?_⟩
        change next.i = min totalMessages (state.i + 1)
        omega
  | thread codes pointer =>
      obtain rfl := haction
      exact htrack.thread pointer

theorem conserved
    (htrack : WriteProcessTrack totalMessages entries state history) :
    ((committedOf history).map UserAccepted.record ++
        heldRecords state.pipeline.side.thread ++
        ringRecords state.pipeline.side.device).map content =
      (List.range state.i).map intended := by
  rw [← htrack.track.processedOf_eq, htrack.track.conserved, List.map_map]
  exact htrack.accepted

end WriteProcessTrack

/-! ## What is stored in the end -/

theorem Represents.putAll {entries : List Byte → Option (List Byte)}
    {records : Word32 → Option UserAccepted}
    (hrepresents : Represents entries records) (stored : List UserAccepted) :
    Represents (applyWrites entries (stored.map UserAccepted.entry))
      (applyWrites records
        (stored.map fun accepted => (accepted.header.iid, accepted))) := by
  induction stored using List.reverseRecOn with
  | nil => exact hrepresents
  | append_singleton stored accepted ih =>
      rw [List.map_append, List.map_append, applyWrites_append,
        applyWrites_append]
      exact ih.put accepted

/-- The value of a record is all that its pointer leads to. -/
theorem record_value (accepted : UserAccepted) :
    accepted.record.value = accepted.value := by
  change List.take _ accepted.value = accepted.value
  rw [← accepted.length_eq]
  exact List.take_length

theorem nodup_intended {count : ℕ} (hcount : count ≤ bufferSize) :
    (((List.range count).map intended).map Prod.fst).Nodup := by
  rw [List.map_map]
  apply List.Nodup.map_on _ List.nodup_range
  intro left hleft right hright heq
  have hleft := List.mem_range.mp hleft
  have hright := List.mem_range.mp hright
  have hnat := congrArg BitVec.toNat heq
  simp only [Function.comp_apply, intended, BitVec.toNat_ofNat] at hnat
  simp only [bufferSize] at hcount
  omega

section Stored

variable {records : Word32 → Option UserAccepted} {stored : List UserAccepted}
variable {count : ℕ}

/-- When the records stored are those of all rounds, each is found under its
number. -/
theorem exists_stored
    (hstored : (stored.map UserAccepted.record).map content =
      (List.range count).map intended) (hcount : count ≤ bufferSize) {i : ℕ}
    (hi : i < count) :
    ∃ accepted, applyWrites records
        (stored.map fun accepted => (accepted.header.iid, accepted))
        (BitVec.ofNat 32 i) = some accepted ∧ accepted.value = clientMsg := by
  have hmem : intended i ∈ (stored.map UserAccepted.record).map content := by
    rw [hstored]
    exact List.mem_map_of_mem (List.mem_range.mpr hi)
  rw [List.map_map] at hmem
  obtain ⟨accepted, haccepted, hcontent⟩ := List.mem_map.mp hmem
  have hiid : accepted.header.iid = BitVec.ofNat 32 i :=
    congrArg Prod.fst hcontent
  have hvalue : accepted.record.value = clientMsg := congrArg Prod.snd hcontent
  refine ⟨accepted, applyWrites_of_mem ?_ ?_, ?_⟩
  · have hnodup := nodup_intended hcount
    rw [← hstored, List.map_map, List.map_map] at hnodup
    rw [List.map_map]
    exact hnodup
  · rw [← hiid]
    exact List.mem_map_of_mem haccepted
  · rw [← record_value]
    exact hvalue

end Stored

/-- However the rounds of the program and the steps of the storage thread are
interleaved, with a database that does not fail: the records committed, the one
in hand and those in the ring are, in order, the records of all rounds so far;
and once the ring is drained `storage_get` finds every one of them. -/
theorem writeProcess_stores {totalMessages : ℕ}
    (hring : totalMessages ≤ bufferSize) (testMemory memory : DeviceMemory)
    (recv : Block slotSize) {entries : List Byte → Option (List Byte)}
    {records : Word32 → Option UserAccepted}
    (hrepresents : Represents entries records) {actions : List TestAction}
    (hactions : ∀ action ∈ actions, action.Succeeds) :
    ∃ last events,
      run (writeProcess totalMessages)
        (WriteProcess.start testMemory memory recv entries) actions =
          .ok (last, events) ∧
      last.i = min totalMessages (actions.countP TestAction.isRound) ∧
      ((committedOf events).map UserAccepted.record ++
          heldRecords last.pipeline.side.thread ++
          ringRecords last.pipeline.side.device).map content =
        (List.range last.i).map intended ∧
      (heldRecords last.pipeline.side.thread = [] →
        ringRecords last.pipeline.side.device = [] →
        ∀ i < last.i, ∀ pointer, ∃ after found,
          storageGet ⟨none⟩ last.pipeline.database (BitVec.ofNat 32 i)
            MdbCodes.success pointer = .ok (after, some found) ∧
          found.header.iid = BitVec.ofNat 32 i ∧ found.value = clientMsg) := by
  obtain ⟨last, events, hrun, htrack, hrounds⟩ :=
    @run_of_rounds _ _ _ _ (writeProcess totalMessages)
      (WriteProcessTrack totalMessages entries) TestAction.Succeeds
      TestAction.isRound WriteProcess.i totalMessages
      (fun _ _ htrack => htrack.i_le)
      (fun _ _ _ htrack haction => htrack.step hring haction)
      (WriteProcess.start testMemory memory recv entries) [] actions
      (WriteProcessTrack.start testMemory memory recv entries) hactions
  rw [List.nil_append] at htrack
  refine ⟨last, events, hrun, ?_, htrack.conserved, ?_⟩
  · rw [hrounds, WriteProcess.start, Nat.zero_add]
  · intro hheld hqueue i hi pointer
    have hstored := htrack.conserved
    rw [hheld, hqueue, List.append_nil, List.append_nil] at hstored
    have hlast := Represents.putAll hrepresents (committedOf events)
    rw [← htrack.track.entries_eq] at hlast
    obtain ⟨accepted, hfound, hvalue⟩ :=
      exists_stored hstored (htrack.i_le.trans hring) hi
    have hidle : (⟨none⟩ : LmdbStorage).txn = none := rfl
    have hbegin : MdbCodes.success.txnBegin = 0 := rfl
    obtain ⟨after, hget, -⟩ := storageGet_eq hidle htrack.track.settled hlast
      (BitVec.ofNat 32 i) hbegin pointer
    have hiid := hlast.iid_eq _ accepted hfound
    refine ⟨after, accepted.relocate pointer, ?_, hiid, hvalue⟩
    rw [hget, hfound]
    rfl

/-- One record of the test program on its way into the database. -/
def sampleActions : List TestAction :=
  .iterate ⟨1, 0, 2, 3, 4, 5, ⟨6, 7, 8⟩⟩ 8192 ::
    List.replicate 4 (.thread MdbCodes.success 4096)

theorem writeProcess_stores_sample :
    ∃ last events,
      run (writeProcess 100)
        (WriteProcess.start zeroMemory zeroMemory (Block.zero slotSize)
          fun _ => none) sampleActions = .ok (last, events) ∧
      last.i = min 100 (sampleActions.countP TestAction.isRound) ∧
      ((committedOf events).map UserAccepted.record ++
          heldRecords last.pipeline.side.thread ++
          ringRecords last.pipeline.side.device).map content =
        (List.range last.i).map intended ∧
      (heldRecords last.pipeline.side.thread = [] →
        ringRecords last.pipeline.side.device = [] →
        ∀ i < last.i, ∀ pointer, ∃ after found,
          storageGet ⟨none⟩ last.pipeline.database (BitVec.ofNat 32 i)
            MdbCodes.success pointer = .ok (after, some found) ∧
          found.header.iid = BitVec.ofNat 32 i ∧ found.value = clientMsg) := by
  have hactions : ∀ action ∈ sampleActions, action.Succeeds := by
    simp [sampleActions, TestAction.Succeeds]
  exact writeProcess_stores (by decide) zeroMemory zeroMemory
    (Block.zero slotSize) represents_empty hactions

end PaxosPersistence.TestProgram
