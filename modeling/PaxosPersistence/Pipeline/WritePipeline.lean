import PaxosPersistence.Core.Machine
import PaxosPersistence.Pipeline.WriteSide

/-!
# The write pipeline

The producers of the kernel add messages to the write ring while the thread of
the storage process moves them into the database.  Whatever the interleaving,
the records committed, the record the thread holds and the records in the ring
are together the accepted messages in order.  A message is lost only where the
ring is full or the database fails, and its writer is told nothing of either.
-/

namespace PaxosPersistence.WritePipeline

open PaxosPersistence.ByteBlock
open PaxosPersistence.DeviceRing
open PaxosPersistence.KernelDevice
open PaxosPersistence.LmdbOperations
open PaxosPersistence.Machine
open PaxosPersistence.Memory
open PaxosPersistence.PaxosTypes
open PaxosPersistence.StorageThread
open PaxosPersistence.TransactionalMap
open PaxosPersistence.UserStorage
open PaxosPersistence.WritePersistence
open PaxosPersistence.WriteSide

/-- `write_test_write` -/
def writeTestWrite (writeTestDevice device : PaxosKernelDevice)
    (buffer : List Byte) : Except Halt (PaxosKernelDevice × ℤ) :=
  if !writeTestDevice.working then .ok (device, -1)
  else do
    let (next, callback) ← writePersistenceAddMessage device buffer
    match callback with
    | none => return (next, buffer.length)
    | some _ => return (next, buffer.length)

structure Pipeline where
  writeTestDevice : PaxosKernelDevice
  side : Side
  database : Database

/-- Both devices as `kdevchar_init` sets them up, and the thread before its
first poll. -/
def Pipeline.start (testMemory memory : DeviceMemory) (recv : Block slotSize)
    (entries : List Byte → Option (List Byte)) : Pipeline where
  writeTestDevice := kdevcharInit testMemory
  side := ⟨kdevcharInit memory, Thread.start recv⟩
  database := Store.ofEntries entries

inductive WriteAction where
  | addMessage (msg : List Byte)
  | writeTestWrite (msg : List Byte)
  | thread (codes : MdbCodes) (pointer : Addr)

def writePipeline : Step Pipeline WriteAction Event Halt
  | state, .addMessage msg => do
      let (device, _) ← writePersistenceAddMessage state.side.device msg
      return ({ state with side := { state.side with device } },
        [admission state.side.device msg])
  | state, .writeTestWrite msg => do
      let (device, ret) ←
        writeTestWrite state.writeTestDevice state.side.device msg
      return ({ state with side := { state.side with device } },
        [admission state.side.device msg, .returned msg ret])
  | state, .thread codes pointer => do
      let (side, database, events) ←
        genericStorageThread false state.side state.database codes pointer
      return ({ state with side, database }, events)

/-! ## Where the accepted messages are -/

/-- The write side agrees with the history, on a database that had these
entries at the start.  Every failed store is due to one of its codes. -/
structure WriteTrack (Allowed : MdbCodes → Prop)
    (entries : List Byte → Option (List Byte)) (side : Side)
    (database : Database) (history : List Event) : Prop where
  holds : ∃ queue held, WriteSideHolds side queue held ∧
    (processedOf history).map UserAccepted.record ++
        (held.toList ++ queue).map messageRecord =
      (acceptedOf history).map messageRecord
  settled : database.Settled
  entries_eq : database.entries =
    applyWrites entries ((committedOf history).map UserAccepted.entry)
  sized : ∀ accepted ∈ committedOf history, Sized accepted
  failed : ∀ accepted codes, .failed accepted codes ∈ history →
    Allowed codes ∧ codes ≠ MdbCodes.success
  refused : ∀ msg (count : ℤ), .refused msg count ∈ history →
    count = bufferSize

/-- Events that do not concern the write side. -/
def Foreign : Event → Prop
  | .returned .. | .requested .. | .looked _ | .answered .. => True
  | _ => False

/-- What a step of the write thread shows of itself. -/
def Stores (events : List Event) : Prop :=
  events = [] ∨ (∃ accepted, events = [.committed accepted]) ∨
    ∃ accepted codes, events = [.failed accepted codes]

theorem Stores.reportedOf_eq_offeredOf {events : List Event}
    (hstores : Stores events) : reportedOf events = offeredOf events := by
  rcases hstores with rfl | ⟨accepted, rfl⟩ | ⟨accepted, codes, rfl⟩
  · rfl
  · rfl
  · rfl

theorem filterMap_foreign {A : Type*} {select : Event → Option A}
    (hselect : ∀ event, Foreign event → select event = none)
    {events : List Event} (hforeign : ∀ event ∈ events, Foreign event) :
    events.filterMap select = [] := by
  apply List.filterMap_eq_nil_iff.mpr
  intro event hevent
  exact hselect event (hforeign event hevent)

namespace WriteTrack

variable {Allowed : MdbCodes → Prop}
variable {entries : List Byte → Option (List Byte)}
variable {side : Side} {database : Database} {history : List Event}

theorem start (memory : DeviceMemory) (recv : Block slotSize)
    (entries : List Byte → Option (List Byte)) :
    WriteTrack Allowed entries ⟨kdevcharInit memory, Thread.start recv⟩
      (Store.ofEntries entries) [] where
  holds := ⟨[], none, writeSideHolds_start memory recv, rfl⟩
  settled := Store.settled_ofEntries entries
  entries_eq := rfl
  sized := fun _ hmem => absurd hmem List.not_mem_nil
  failed := fun _ _ hmem => absurd hmem List.not_mem_nil
  refused := fun _ _ hmem => absurd hmem List.not_mem_nil

/-- Steps elsewhere that leave the entries of the database alone. -/
theorem foreign (htrack : WriteTrack Allowed entries side database history)
    (events : List Event) (hforeign : ∀ event ∈ events, Foreign event)
    {after : Database} (hsettled : after.Settled)
    (hentries : after.entries = database.entries) :
    WriteTrack Allowed entries side after (history ++ events) := by
  have haccepted : acceptedOf events = [] := filterMap_foreign (by
    intro event hevent
    cases event <;> first | rfl | exact hevent.elim) hforeign
  have hprocessed : processedOf events = [] := filterMap_foreign (by
    intro event hevent
    cases event <;> first | rfl | exact hevent.elim) hforeign
  have hcommitted : committedOf events = [] := filterMap_foreign (by
    intro event hevent
    cases event <;> first | rfl | exact hevent.elim) hforeign
  refine ⟨?_, hsettled, ?_, ?_, ?_, ?_⟩
  · rw [processedOf_append, acceptedOf_append, haccepted, hprocessed,
      List.append_nil, List.append_nil]
    exact htrack.holds
  · rw [committedOf_append, hcommitted, List.append_nil, hentries]
    exact htrack.entries_eq
  · rw [committedOf_append, hcommitted, List.append_nil]
    exact htrack.sized
  · intro accepted codes hmem
    rcases List.mem_append.mp hmem with hmem | hmem
    · exact htrack.failed accepted codes hmem
    · exact (hforeign _ hmem).elim
  · intro msg count hmem
    rcases List.mem_append.mp hmem with hmem | hmem
    · exact htrack.refused msg count hmem
    · exact (hforeign _ hmem).elim

/-- An addition is recorded as what it did. -/
theorem addMessage (htrack : WriteTrack Allowed entries side database history)
    {msg : List Byte} (hheader : sizeofPaxosAccepted ≤ msg.length) :
    ∃ device callback,
      writePersistenceAddMessage side.device msg = .ok (device, callback) ∧
      (admission side.device msg = .accepted msg ∨
        admission side.device msg = .refused msg bufferSize) ∧
      WriteTrack Allowed entries { side with device } database
        (history ++ [admission side.device msg]) := by
  obtain ⟨queue, held, hside, hmessages⟩ := htrack.holds
  obtain ⟨device, callback, hadd, hcases⟩ := hside.addMessage hheader
  refine ⟨device, callback, hadd, ?_⟩
  rcases hcases with ⟨-, hnext, hadmission⟩ | ⟨-, hnext, hadmission⟩
  · rw [hadmission]
    refine ⟨Or.inl rfl, ⟨queue ++ [msg], held, hnext, ?_⟩, htrack.settled,
      ?_, ?_, ?_, ?_⟩
    · calc
        _ = (processedOf history).map UserAccepted.record ++
              (held.toList ++ queue).map messageRecord ++
                [messageRecord msg] := by simp [processedOf]
        _ = (acceptedOf history).map messageRecord ++
              [messageRecord msg] := by rw [hmessages]
        _ = (acceptedOf (history ++ [.accepted msg])).map messageRecord := by
            simp [acceptedOf]
    · rw [committedOf_append, htrack.entries_eq]
      simp [committedOf]
    · intro accepted hmem
      exact htrack.sized accepted (by simpa [committedOf] using hmem)
    · intro accepted codes hmem
      exact htrack.failed accepted codes (by simpa using hmem)
    · intro other count hmem
      exact htrack.refused other count (by simpa using hmem)
  · rw [hadmission]
    refine ⟨Or.inr rfl, ⟨queue, held, hnext, ?_⟩, htrack.settled, ?_, ?_, ?_,
      ?_⟩
    · rw [processedOf_append, acceptedOf_append]
      simpa [processedOf, acceptedOf] using hmessages
    · rw [committedOf_append, htrack.entries_eq]
      simp [committedOf]
    · intro accepted hmem
      exact htrack.sized accepted (by simpa [committedOf] using hmem)
    · intro accepted codes hmem
      exact htrack.failed accepted codes (by simpa using hmem)
    · intro other count hmem
      rcases List.mem_append.mp hmem with hmem | hmem
      · exact htrack.refused other count hmem
      · cases List.mem_singleton.mp hmem
        rfl

/-- So is a step of the thread. -/
theorem threadStep (htrack : WriteTrack Allowed entries side database history)
    {codes : MdbCodes} (hallowed : Allowed codes) (pointer : Addr) :
    ∃ next after events,
      genericStorageThread false side database codes pointer =
        .ok (next, after, events) ∧
      Stores events ∧
      WriteTrack Allowed entries next after (history ++ events) := by
  obtain ⟨queue, held, hside, hmessages⟩ := htrack.holds
  obtain ⟨next, after, events, nextQueue, nextHeld, hstep, hnext, hsettled,
    hcases⟩ := hside.threadStep htrack.settled codes pointer
  refine ⟨next, after, events, hstep, ?_⟩
  rcases hcases with ⟨rfl, rfl, hsame⟩ |
    ⟨rfl, rfl, msg, accepted, rfl, hrecord, hsized, houtcome⟩
  · refine ⟨Or.inl rfl, ⟨nextQueue, nextHeld, hnext, ?_⟩, hsettled, ?_, ?_,
      ?_, ?_⟩
    · rw [hsame, List.append_nil]
      exact hmessages
    · rw [List.append_nil]
      exact htrack.entries_eq
    · rw [List.append_nil]
      exact htrack.sized
    · rw [List.append_nil]
      exact htrack.failed
    · rw [List.append_nil]
      exact htrack.refused
  · have hfinished : (processedOf history).map UserAccepted.record ++
        [accepted.record] ++ nextQueue.map messageRecord =
          (acceptedOf history).map messageRecord := by
      rw [← hmessages, hrecord]
      simp
    rcases houtcome with ⟨-, rfl, hentries⟩ | ⟨hcodes, rfl, hentries⟩
    · refine ⟨Or.inr (Or.inl ⟨accepted, rfl⟩), ⟨nextQueue, none, hnext, ?_⟩,
        hsettled, ?_, ?_, ?_, ?_⟩
      · simpa [processedOf, acceptedOf] using hfinished
      · rw [hentries, htrack.entries_eq, committedOf_append, List.map_append,
          applyWrites_append]
        rfl
      · intro other hmem
        rw [committedOf_append] at hmem
        rcases List.mem_append.mp hmem with hmem | hmem
        · exact htrack.sized other hmem
        · cases List.mem_singleton.mp hmem
          exact hsized
      · intro other otherCodes hmem
        exact htrack.failed other otherCodes (by simpa using hmem)
      · intro other count hmem
        exact htrack.refused other count (by simpa using hmem)
    · refine ⟨Or.inr (Or.inr ⟨accepted, codes, rfl⟩),
        ⟨nextQueue, none, hnext, ?_⟩, hsettled, ?_, ?_, ?_, ?_⟩
      · simpa [processedOf, acceptedOf] using hfinished
      · rw [hentries, htrack.entries_eq, committedOf_append]
        simp [committedOf]
      · intro other hmem
        exact htrack.sized other (by simpa [committedOf] using hmem)
      · intro other otherCodes hmem
        rcases List.mem_append.mp hmem with hmem | hmem
        · exact htrack.failed other otherCodes hmem
        · cases List.mem_singleton.mp hmem
          exact ⟨hallowed, hcodes⟩
      · intro other count hmem
        exact htrack.refused other count (by simpa using hmem)

/-- The records committed or given up, the record held and the records in the
ring are the accepted messages, in order. -/
theorem conserved (htrack : WriteTrack Allowed entries side database history) :
    (processedOf history).map UserAccepted.record ++ heldRecords side.thread ++
        ringRecords side.device =
      (acceptedOf history).map messageRecord := by
  obtain ⟨queue, held, hside, hmessages⟩ := htrack.holds
  rw [hside.heldRecords_eq, hside.ringRecords_eq, ← hmessages, List.map_append,
    List.append_assoc]

end WriteTrack

theorem processedOf_eq_committedOf {history : List Event}
    (hfailed : ∀ accepted codes, .failed accepted codes ∉ history) :
    processedOf history = committedOf history := by
  apply List.filterMap_congr
  intro event hevent
  cases event with
  | failed accepted codes => exact absurd hevent (hfailed accepted codes)
  | accepted | refused | returned | committed | requested | looked | answered
  | elapsed | decided =>
      rfl

/-- When no call of the database fails, every record processed is committed. -/
theorem WriteTrack.processedOf_eq {entries : List Byte → Option (List Byte)}
    {side : Side} {database : Database} {history : List Event}
    (htrack : WriteTrack (fun codes => codes = MdbCodes.success) entries side
      database history) :
    processedOf history = committedOf history := by
  apply processedOf_eq_committedOf
  intro accepted codes hmem
  obtain ⟨hsuccess, hcodes⟩ := htrack.failed accepted codes hmem
  exact hcodes hsuccess

/-! ## Runs of the pipeline -/

/-- Every message has a header, and every code is allowed. -/
def WriteAction.Meets (Allowed : MdbCodes → Prop) : WriteAction → Prop
  | .addMessage msg => sizeofPaxosAccepted ≤ msg.length
  | .writeTestWrite msg => sizeofPaxosAccepted ≤ msg.length
  | .thread codes _ => Allowed codes

/-- What holds between two steps of the pipeline. -/
structure PipelineTrack (Allowed : MdbCodes → Prop)
    (entries : List Byte → Option (List Byte)) (state : Pipeline)
    (history : List Event) : Prop where
  working_eq : state.writeTestDevice.working = true
  track : WriteTrack Allowed entries state.side state.database history

theorem pipelineTrack_start {Allowed : MdbCodes → Prop}
    (testMemory memory : DeviceMemory) (recv : Block slotSize)
    (entries : List Byte → Option (List Byte)) :
    PipelineTrack Allowed entries
      (Pipeline.start testMemory memory recv entries) [] :=
  ⟨kdevcharInit_working testMemory, WriteTrack.start memory recv entries⟩

theorem writeTestWrite_eq {writeTestDevice device next : PaxosKernelDevice}
    {msg : List Byte} {callback : Option SlotId}
    (hworking : writeTestDevice.working = true)
    (hadd : writePersistenceAddMessage device msg = .ok (next, callback)) :
    writeTestWrite writeTestDevice device msg = .ok (next, msg.length) := by
  rw [writeTestWrite, if_neg (by simp [hworking])]
  cases callback with
  | none => simp only [hadd, bind, Except.bind, pure, Except.pure]
  | some slot => simp only [hadd, bind, Except.bind, pure, Except.pure]

section Runs

variable {Allowed : MdbCodes → Prop}
variable {entries : List Byte → Option (List Byte)}

/-- No step fails, and each is recorded; through the test device every message
offered is reported as written. -/
theorem writePipeline_step (state : Pipeline) (history : List Event)
    (action : WriteAction)
    (htrack : PipelineTrack Allowed entries state history)
    (haction : action.Meets Allowed) :
    ∃ next events, writePipeline state action = .ok (next, events) ∧
      PipelineTrack Allowed entries next (history ++ events) ∧
      ((∀ msg, action ≠ .addMessage msg) →
        reportedOf events = offeredOf events) := by
  cases action with
  | addMessage msg =>
      obtain ⟨device, callback, hadd, -, hnext⟩ := htrack.track.addMessage haction
      refine ⟨{ state with side := { state.side with device } },
        [admission state.side.device msg], ?_, ⟨htrack.working_eq, hnext⟩,
        fun hother => absurd rfl (hother msg)⟩
      simp only [writePipeline, hadd, bind, Except.bind, pure, Except.pure]
  | writeTestWrite msg =>
      obtain ⟨device, callback, hadd, hadmission, hnext⟩ :=
        htrack.track.addMessage haction
      have hwrite := writeTestWrite_eq htrack.working_eq hadd
      have hreturned := hnext.foreign [.returned msg msg.length]
        (by simp [Foreign]) hnext.settled rfl
      rw [List.append_assoc] at hreturned
      refine ⟨{ state with side := { state.side with device } },
        [admission state.side.device msg, .returned msg msg.length], ?_,
        ⟨htrack.working_eq, hreturned⟩, fun _ => ?_⟩
      · simp only [writePipeline, hwrite, bind, Except.bind, pure, Except.pure]
      · rcases hadmission with hadmission | hadmission
        · rw [hadmission]
          simp [reportedOf, offeredOf]
        · rw [hadmission]
          simp [reportedOf, offeredOf]
  | thread codes pointer =>
      obtain ⟨side, database, events, hstep, hstores, hnext⟩ :=
        htrack.track.threadStep haction pointer
      refine ⟨{ state with side, database }, events, ?_,
        ⟨htrack.working_eq, hnext⟩, fun _ => hstores.reportedOf_eq_offeredOf⟩
      simp only [writePipeline, hstep, bind, Except.bind, pure, Except.pure]

/-- For every interleaving of additions of messages with a header and steps of
the thread in which the database does not fail: the records committed, the
record held and the records in the ring are the accepted messages in order, and
the database is the one at the start updated with the records committed. -/
theorem writePipeline_lossless (testMemory memory : DeviceMemory)
    (recv : Block slotSize) (entries : List Byte → Option (List Byte))
    {actions : List WriteAction}
    (hactions : ∀ action ∈ actions,
      action.Meets fun codes => codes = MdbCodes.success) :
    ∃ last events,
      run writePipeline (Pipeline.start testMemory memory recv entries)
        actions = .ok (last, events) ∧
      (committedOf events).map UserAccepted.record ++
          heldRecords last.side.thread ++ ringRecords last.side.device =
        (acceptedOf events).map messageRecord ∧
      last.database.entries =
        applyWrites entries ((committedOf events).map UserAccepted.entry) := by
  obtain ⟨last, events, hrun, htrack⟩ := run_of_invariant
    (PipelineTrack (fun codes => codes = MdbCodes.success) entries) _
    (fun state history action htrack haction => by
      obtain ⟨next, events, hstep, hnext, -⟩ :=
        writePipeline_step state history action htrack haction
      exact ⟨next, events, hstep, hnext⟩)
    (pipelineTrack_start testMemory memory recv entries) hactions
  rw [List.nil_append] at htrack
  refine ⟨last, events, hrun, ?_, htrack.track.entries_eq⟩
  rw [← htrack.track.processedOf_eq]
  exact htrack.track.conserved

/-- A header of equal bytes. -/
def uniformMessage (byte : Byte) : List Byte :=
  List.replicate sizeofPaxosAccepted byte

theorem sizeofPaxosAccepted_le_uniformMessage (byte : Byte) :
    sizeofPaxosAccepted ≤ (uniformMessage byte).length := by
  rw [uniformMessage, List.length_replicate]

/-- A message without a value, its way to the database, and another message
behind it. -/
def sampleActions : List WriteAction :=
  [.addMessage (uniformMessage 0), .thread MdbCodes.success 4096,
    .thread MdbCodes.success 4096, .thread MdbCodes.success 4096,
    .thread MdbCodes.success 4096, .writeTestWrite (uniformMessage 1)]

theorem writePipeline_lossless_sample :
    (∀ action ∈ sampleActions,
      action.Meets fun codes => codes = MdbCodes.success) ∧
    ∃ last events,
      run writePipeline (Pipeline.start zeroMemory zeroMemory
        (Block.zero slotSize) fun _ => none) sampleActions =
          .ok (last, events) ∧
      (committedOf events).map UserAccepted.record ++
          heldRecords last.side.thread ++ ringRecords last.side.device =
        (acceptedOf events).map messageRecord ∧
      last.database.entries = applyWrites (fun _ => none)
        ((committedOf events).map UserAccepted.entry) := by
  have hactions : ∀ action ∈ sampleActions,
      action.Meets fun codes => codes = MdbCodes.success := by
    simp [sampleActions, WriteAction.Meets,
      sizeofPaxosAccepted_le_uniformMessage]
  exact ⟨hactions, writePipeline_lossless zeroMemory zeroMemory
    (Block.zero slotSize) (fun _ => none) hactions⟩

/-! ## What becomes of a reported message -/

/-- A producer that goes through the test device. -/
def WriteAction.ThroughTest : WriteAction → Prop
  | .addMessage _ => False
  | .writeTestWrite msg =>
      sizeofPaxosAccepted ≤ msg.length ∧ msg.length ≤ slotSize
  | .thread .. => True

/-- The message is in the ring, held by the thread or committed. -/
def Kept (last : Pipeline) (events : List Event) (msg : List Byte) : Prop :=
  messageRecord msg ∈ ringRecords last.side.device ∨
    messageRecord msg ∈ heldRecords last.side.thread ∨
    messageRecord msg ∈ (committedOf events).map UserAccepted.record

/-- The ring was full when the message came, or a call of the database failed
when it was to be stored. -/
def Dropped (events : List Event) (msg : List Byte) : Prop :=
  .refused msg bufferSize ∈ events ∨
    ∃ accepted codes, .failed accepted codes ∈ events ∧
      codes ≠ MdbCodes.success ∧ accepted.record = messageRecord msg

/-- The messages reported as written, one by one and as a whole. -/
structure Accounted (entries : List Byte → Option (List Byte))
    (last : Pipeline) (events : List Event) : Prop where
  kept_or_dropped : ∀ msg ∈ reportedOf events,
    Kept last events msg ∨ Dropped events msg
  reported_eq : reportedOf events = offeredOf events
  refused_full : ∀ msg (count : ℤ), .refused msg count ∈ events →
    count = bufferSize
  conserved : (processedOf events).map UserAccepted.record ++
      heldRecords last.side.thread ++ ringRecords last.side.device =
    (acceptedOf events).map messageRecord
  failed_codes : ∀ accepted codes, .failed accepted codes ∈ events →
    codes ≠ MdbCodes.success
  entries_eq : last.database.entries =
    applyWrites entries ((committedOf events).map UserAccepted.entry)

theorem mem_offeredOf {events : List Event} {msg : List Byte}
    (hmsg : msg ∈ offeredOf events) :
    .accepted msg ∈ events ∨ ∃ count, .refused msg count ∈ events := by
  obtain ⟨event, hevent, hselect⟩ := List.mem_filterMap.mp hmsg
  cases event with
  | accepted other =>
      cases hselect
      exact Or.inl hevent
  | refused other count =>
      cases hselect
      exact Or.inr ⟨count, hevent⟩
  | returned | committed | failed | requested | looked | answered | elapsed
  | decided =>
      exact nomatch hselect

theorem mem_processedOf {events : List Event} {accepted : UserAccepted}
    (haccepted : accepted ∈ processedOf events) :
    accepted ∈ committedOf events ∨
      ∃ codes, .failed accepted codes ∈ events := by
  obtain ⟨event, hevent, hselect⟩ := List.mem_filterMap.mp haccepted
  cases event with
  | committed other =>
      cases hselect
      exact Or.inl (List.mem_filterMap.mpr ⟨_, hevent, rfl⟩)
  | failed other codes =>
      cases hselect
      exact Or.inr ⟨codes, hevent⟩
  | accepted | refused | returned | requested | looked | answered | elapsed
  | decided =>
      exact nomatch hselect

/-- An accepted message is kept unless its store has failed. -/
theorem WriteTrack.kept_or_dropped {state : Pipeline} {history : List Event}
    (htrack : WriteTrack Allowed entries state.side state.database history)
    {msg : List Byte} (hmsg : msg ∈ offeredOf history) :
    Kept state history msg ∨ Dropped history msg := by
  rcases mem_offeredOf hmsg with haccepted | ⟨count, hrefused⟩
  · have hrecord : messageRecord msg ∈
        (acceptedOf history).map messageRecord :=
      List.mem_map_of_mem (List.mem_filterMap.mpr ⟨_, haccepted, rfl⟩)
    rw [← htrack.conserved, List.mem_append, List.mem_append] at hrecord
    rcases hrecord with (hprocessed | hheld) | hring
    · obtain ⟨accepted, haccepted, hequal⟩ := List.mem_map.mp hprocessed
      rcases mem_processedOf haccepted with hcommitted | ⟨codes, hfailed⟩
      · exact Or.inl (Or.inr (Or.inr
          (List.mem_map.mpr ⟨accepted, hcommitted, hequal⟩)))
      · exact Or.inr (Or.inr ⟨accepted, codes, hfailed,
          (htrack.failed accepted codes hfailed).2, hequal⟩)
    · exact Or.inl (Or.inr (Or.inl hheld))
    · exact Or.inl (Or.inl hring)
  · have hcount := htrack.refused msg count hrefused
    rw [hcount] at hrefused
    exact Or.inr (Or.inl hrefused)

/-- For every interleaving of writes through the test device and steps of the
thread, with any codes of the database: each message reported as written is
kept, or the ring was full, or a call of the database failed. -/
theorem writePipeline_accounted (testMemory memory : DeviceMemory)
    (recv : Block slotSize) (entries : List Byte → Option (List Byte))
    {actions : List WriteAction}
    (hactions : ∀ action ∈ actions, action.ThroughTest) :
    ∃ last events,
      run writePipeline (Pipeline.start testMemory memory recv entries)
        actions = .ok (last, events) ∧ Accounted entries last events := by
  obtain ⟨last, events, hrun, htrack, hreported⟩ := run_of_invariant
    (fun state history => PipelineTrack (fun _ => True) entries state history ∧
      reportedOf history = offeredOf history) WriteAction.ThroughTest
    (fun state history action htrack haction => by
      have hmeets : action.Meets fun _ => True := by
        cases action with
        | addMessage msg => exact haction.elim
        | writeTestWrite msg => exact haction.1
        | thread codes pointer => trivial
      obtain ⟨next, events, hstep, hnext, hreported⟩ :=
        writePipeline_step state history action htrack.1 hmeets
      refine ⟨next, events, hstep, hnext, ?_⟩
      rw [reportedOf_append, offeredOf_append, htrack.2, hreported ?_]
      rintro msg rfl
      exact haction)
    ⟨pipelineTrack_start testMemory memory recv entries,
      show reportedOf [] = offeredOf [] from rfl⟩ hactions
  rw [List.nil_append] at htrack hreported
  refine ⟨last, events, hrun, ?_, hreported, htrack.track.refused,
    htrack.track.conserved, fun accepted codes hmem =>
      (htrack.track.failed accepted codes hmem).2, htrack.track.entries_eq⟩
  intro msg hmsg
  rw [hreported] at hmsg
  exact htrack.track.kept_or_dropped hmsg

/-- One message, and a thread that cannot begin a transaction for it. -/
def failingActions : List WriteAction :=
  .writeTestWrite (uniformMessage 0) ::
    List.replicate 4 (.thread ⟨12, 0, 0⟩ 4096)

theorem writePipeline_accounted_failing :
    (∀ action ∈ failingActions, action.ThroughTest) ∧
    ∃ last events,
      run writePipeline (Pipeline.start zeroMemory zeroMemory
        (Block.zero slotSize) fun _ => none) failingActions =
          .ok (last, events) ∧ Accounted (fun _ => none) last events := by
  have hactions : ∀ action ∈ failingActions, action.ThroughTest := by
    simp [failingActions, WriteAction.ThroughTest, uniformMessage,
      sizeofPaxosAccepted, slotSize]
  exact ⟨hactions, writePipeline_accounted zeroMemory zeroMemory
    (Block.zero slotSize) (fun _ => none) hactions⟩

/-- A write through the test device is reported whether or not the ring has
room. -/
theorem writePipeline_writeTestWrite {state : Pipeline}
    {queue : List (List Byte)} {held : Option (List Byte)} {msg : List Byte}
    (hworking : state.writeTestDevice.working = true)
    (hside : WriteSideHolds state.side queue held)
    (hheader : sizeofPaxosAccepted ≤ msg.length) :
    ∃ next events,
      writePipeline state (.writeTestWrite msg) = .ok (next, events) ∧
      next.writeTestDevice.working = true ∧
      next.side.thread = state.side.thread ∧ next.database = state.database ∧
      reportedOf events = [msg] ∧ committedOf events = [] ∧
      ((queue.length < bufferSize ∧
          WriteSideHolds next.side (queue ++ [msg]) held) ∨
        (queue.length = bufferSize ∧ WriteSideHolds next.side queue held)) := by
  obtain ⟨device, callback, hadd, hcases⟩ := hside.addMessage hheader
  have hwrite := writeTestWrite_eq hworking hadd
  refine ⟨{ state with side := { state.side with device } },
    [admission state.side.device msg, .returned msg msg.length], ?_, hworking,
    rfl, rfl, ?_⟩
  · simp only [writePipeline, hwrite, bind, Except.bind, pure, Except.pure]
  · rcases hcases with ⟨hfree, hnext, hadmission⟩ | ⟨hfull, hnext, hadmission⟩
    · rw [hadmission]
      exact ⟨by simp [reportedOf], rfl, Or.inl ⟨hfree, hnext⟩⟩
    · rw [hadmission]
      exact ⟨by simp [reportedOf], rfl, Or.inr ⟨hfull, hnext⟩⟩

/-- As long as there is room, every write fills one slot. -/
theorem run_replicate_writeTestWrite {state : Pipeline} {msg : List Byte}
    (hworking : state.writeTestDevice.working = true)
    (hside : WriteSideHolds state.side [] none)
    (hheader : sizeofPaxosAccepted ≤ msg.length) {count : ℕ}
    (hcount : count ≤ bufferSize) :
    ∃ last events,
      run writePipeline state (List.replicate count (.writeTestWrite msg)) =
        .ok (last, events) ∧
      last.writeTestDevice.working = true ∧ committedOf events = [] ∧
      WriteSideHolds last.side (List.replicate count msg) none := by
  induction count with
  | zero => exact ⟨state, [], rfl, hworking, rfl, hside⟩
  | succ count ih =>
      obtain ⟨middle, first, hfirst, hmiddle, hcommitted, hholds⟩ :=
        ih (by omega)
      obtain ⟨last, second, hsecond, hlast, -, -, -, hnone, hcases⟩ :=
        writePipeline_writeTestWrite hmiddle hholds hheader
      refine ⟨last, first ++ second, ?_, hlast, ?_, ?_⟩
      · rw [List.replicate_succ']
        exact run_concat_eq_ok.mpr ⟨middle, first, second, hfirst, hsecond, rfl⟩
      · rw [committedOf_append, hcommitted, hnone, List.append_nil]
      · rw [List.length_replicate] at hcases
        rcases hcases with ⟨-, hnext⟩ | ⟨hfull, -⟩
        · rwa [List.replicate_succ']
        · omega

/-- Four steps of the thread take the oldest message out of the ring and bring
its store to an end. -/
theorem run_thread_serves {state : Pipeline} {msg : List Byte}
    {queue : List (List Byte)}
    (hside : WriteSideHolds state.side (msg :: queue) none)
    (hstage : state.side.thread.stage = .polling)
    (hsettled : state.database.Settled) (codes : MdbCodes) (pointer : Addr) :
    ∃ last events,
      run writePipeline state (List.replicate 4 (.thread codes pointer)) =
        .ok (last, events) ∧
      WriteSideHolds last.side queue none ∧ last.database.Settled ∧
      ∃ accepted, accepted.record = messageRecord msg ∧
        ((codes = MdbCodes.success ∧ events = [.committed accepted]) ∨
          (codes ≠ MdbCodes.success ∧ events = [.failed accepted codes])) := by
  obtain ⟨polled, hpoll, hpolled, hreading⟩ :=
    hside.poll hstage state.database codes pointer
  obtain ⟨read, head, rest, hqueue, -, hread, hhas, hdecoding⟩ :=
    hpolled.read (hreading (by simp)) state.database codes pointer
  obtain ⟨rfl, rfl⟩ := List.cons.inj hqueue
  obtain ⟨decoded, message, hdecode, hdecoded, hprocessing⟩ :=
    hhas.decode hdecoding state.database codes pointer
  have hholds := hdecoded.stage
  rw [hprocessing] at hholds
  obtain ⟨same, hsame, hrecord, hsized⟩ := hholds
  cases hsame
  obtain ⟨stage, after, events, hprocess, hnext, hafter, houtcome⟩ :=
    @processWriteMessage_cases decoded state.database codes message
      hdecoded.txn_eq hsettled hsized.len_nonneg
  refine ⟨{ state with side := decoded.goto stage, database := after }, events,
    ?_, ⟨hdecoded.txn_eq, hdecoded.ring, ?_⟩, hafter, message.value, hrecord, ?_⟩
  · have hstep : genericStorageThread false decoded state.database codes
        pointer = .ok (decoded.goto stage, after, events) := by
      simp only [genericStorageThread, hprocessing, hprocess,
        Bool.false_eq_true, if_false]
    simp only [List.replicate, run, writePipeline, hpoll, hread, hdecode, hstep,
      bind, Except.bind, pure, Except.pure, List.nil_append, List.append_nil]
  · rcases hnext with rfl | rfl
    · rfl
    · rfl
  · rcases houtcome with ⟨hcodes, hevents, -⟩ | ⟨hcodes, hevents, -⟩
    · exact Or.inl ⟨hcodes, hevents⟩
    · exact Or.inr ⟨hcodes, hevents⟩

/-- Every message reported as written is kept. -/
def NothingLost (last : Pipeline) (events : List Event) : Prop :=
  ∀ msg ∈ reportedOf events, Kept last events msg

/-- A message is lost when its transaction cannot be begun, and another one
when it comes to a full ring; both are reported as written. -/
theorem reported_messages_lost :
    (∃ last events,
      run writePipeline (Pipeline.start zeroMemory zeroMemory
        (Block.zero slotSize) fun _ => none) failingActions =
          .ok (last, events) ∧
      ¬ NothingLost last events) ∧
    ∃ last events,
      run writePipeline (Pipeline.start zeroMemory zeroMemory
        (Block.zero slotSize) fun _ => none)
        (List.replicate bufferSize (.writeTestWrite (uniformMessage 0)) ++
          [.writeTestWrite (uniformMessage 1)]) = .ok (last, events) ∧
      ¬ NothingLost last events := by
  have hstart := writeSideHolds_start zeroMemory (Block.zero slotSize)
  have hworking := kdevcharInit_working zeroMemory
  have hheader := sizeofPaxosAccepted_le_uniformMessage
  constructor
  · obtain ⟨middle, first, hfirst, -, hthread, hdatabase, hreported, hcommitted,
      hcases⟩ := @writePipeline_writeTestWrite (Pipeline.start zeroMemory
        zeroMemory (Block.zero slotSize) fun _ => none) [] none
          (uniformMessage 0) hworking hstart (hheader 0)
    have hmiddle : WriteSideHolds middle.side [uniformMessage 0] none := by
      rcases hcases with ⟨-, hnext⟩ | ⟨hfull, -⟩
      · exact hnext
      · exact absurd hfull (by simp [bufferSize])
    obtain ⟨last, second, hsecond, hlast, -, accepted, -, hevents⟩ :=
      run_thread_serves hmiddle (by rw [hthread]; rfl)
        (by rw [hdatabase]; exact Store.settled_ofEntries _) ⟨12, 0, 0⟩ 4096
    rcases hevents with ⟨hcodes, -⟩ | ⟨-, rfl⟩
    · exact absurd hcodes (by decide)
    refine ⟨last, first ++ [.failed accepted ⟨12, 0, 0⟩],
      run_cons_eq_ok.mpr ⟨middle, first, _, hfirst, hsecond, rfl⟩, ?_⟩
    intro hkept
    have hmsg := hkept (uniformMessage 0) (by simp [hreported])
    rw [Kept, hlast.ringRecords_eq, hlast.heldRecords_eq, committedOf_append,
      hcommitted] at hmsg
    simp [committedOf] at hmsg
  · obtain ⟨middle, first, hfirst, hmiddle, hcommitted, hholds⟩ :=
      @run_replicate_writeTestWrite (Pipeline.start zeroMemory zeroMemory
        (Block.zero slotSize) fun _ => none) (uniformMessage 0)
          hworking hstart (hheader 0) bufferSize le_rfl
    obtain ⟨last, second, hsecond, -, -, -, hreported, hnone, hcases⟩ :=
      writePipeline_writeTestWrite hmiddle hholds (hheader 1)
    have hlast : WriteSideHolds last.side
        (List.replicate bufferSize (uniformMessage 0)) none := by
      rcases hcases with ⟨hfree, -⟩ | ⟨-, hnext⟩
      · exact absurd hfree (by rw [List.length_replicate]; omega)
      · exact hnext
    refine ⟨last, first ++ second,
      run_concat_eq_ok.mpr ⟨middle, first, second, hfirst, hsecond, rfl⟩, ?_⟩
    intro hkept
    have hmsg := hkept (uniformMessage 1) (by simp [hreported])
    rw [Kept, hlast.ringRecords_eq, hlast.heldRecords_eq, committedOf_append,
      hcommitted, hnone, List.map_replicate, List.mem_replicate] at hmsg
    have hdiffer : messageRecord (uniformMessage 1) ≠
        messageRecord (uniformMessage 0) := by
      decide +kernel
    simp [hdiffer] at hmsg

end Runs

end PaxosPersistence.WritePipeline
