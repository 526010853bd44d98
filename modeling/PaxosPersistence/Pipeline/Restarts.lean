import PaxosPersistence.Core.DurableMap
import PaxosPersistence.Kernel.Exclusion
import PaxosPersistence.Pipeline.ReadPipeline
import PaxosPersistence.Pipeline.WritePipeline

/-!
# Restarts of the storage process

The modules stay loaded while the storage process comes and goes.  A thread
ends when it finds the stop flag at the top of its loop, or anywhere when the
process is killed; its device is released when the file is closed, and the
kernel may add messages all the time.  Seen through its observable events the
system is a durable map behind two queues, whatever happens in whatever order.
-/

namespace PaxosPersistence.Restarts

open PaxosPersistence.ByteBlock
open PaxosPersistence.DeviceRing
open PaxosPersistence.DurableMap
open PaxosPersistence.Exclusion
open PaxosPersistence.KernelDevice
open PaxosPersistence.LmdbOperations
open PaxosPersistence.Machine
open PaxosPersistence.Memory
open PaxosPersistence.PaxosTypes
open PaxosPersistence.ReadPersistence
open PaxosPersistence.ReadPipeline
open PaxosPersistence.ReadSide
open PaxosPersistence.RingWindow
open PaxosPersistence.StorageThread
open PaxosPersistence.TransactionalMap
open PaxosPersistence.UserStorage
open PaxosPersistence.WritePersistence
open PaxosPersistence.WritePipeline
open PaxosPersistence.WriteSide

/-- A device with the thread that serves it while `running`; `stop` is the flag
of the process.  A thread that does not run stands at the top of its loop. -/
structure Port where
  side : Side
  running : Bool
  stop : Bool

def Port.start (memory : DeviceMemory) : Port where
  side := ⟨kdevcharInit memory, Thread.start (Block.zero slotSize)⟩
  running := false
  stop := false

/-- What observers see: what the system shows while it serves, and what ends a
thread or empties a device. -/
inductive SessionEvent where
  | served (event : Event)
  /-- The writer was killed with these records in hand. -/
  | writerKilled (held : List PaxosRecord)
  | writeReleased
  | readerKilled
  | readReleased

namespace Port

/-- The thread is gone; the file is still open. -/
def exit (port : Port) : Port :=
  { port with side := port.side.goto .polling, running := false }

/-- One step of the thread; at the top of its loop it looks at the flag. -/
def threadStep (isRead : Bool) (port : Port) (database : Database)
    (codes : MdbCodes) (pointer : Addr) :
    Except Halt (Port × Database × List Event) :=
  match port.running, port.stop, port.side.thread.stage with
  | false, _, _ => .ok (port, database, [])
  | true, true, .polling => .ok (port.exit, database, [])
  | true, _, _ => do
      let (side, database, events) ←
        genericStorageThread isRead port.side database codes pointer
      return ({ port with side }, database, events)

/-- `stop_execution` -/
def raise (port : Port) : Port :=
  { port with stop := true }

/-- The process dies wherever it is. -/
def kill (port : Port) : Port :=
  if port.running then port.exit else port

/-- The file of a thread that is gone is closed, if it was open. -/
def Closes (port : Port) : Prop :=
  port.running = false ∧ port.side.device.charMutex = true

instance (port : Port) : Decidable port.Closes :=
  inferInstanceAs (Decidable (_ ∧ _))

def close (port : Port) : Port :=
  { port with side := { port.side with device := port.side.device.deviceRelease } }

/-- A new process opens the device; `malloc` has returned `recv`. -/
def openFile (port : Port) (recv : Block slotSize) : Port :=
  let opened := port.side.device.deviceOpen
  if opened.2 = 0 then
    { side := ⟨opened.1, Thread.start recv⟩
      running := true
      stop := false }
  else port

end Port

structure System where
  write : Port
  read : Port
  database : Database

/-- After the modules are loaded, before the storage process is started. -/
def System.start (writeMemory readMemory : DeviceMemory) : System where
  write := Port.start writeMemory
  read := Port.start readMemory
  database := Store.ofEntries fun _ => none

inductive SystemAction where
  | writeMessage (msg : List Byte)
  | readRequest (msg : List Byte)
  | writeThread (codes : MdbCodes) (pointer : Addr)
  | readThread (pointer : Addr)
  | stopWriter
  | stopReader
  | killWriter
  | killReader
  | closeWriter
  | closeReader
  | openWriter (recv : Block slotSize)
  | openReader (recv : Block slotSize)

/-- The lookups do not fail; the calls of `storage_put` may. -/
def restarts : Step System SystemAction SessionEvent Halt
  | state, .writeMessage msg => do
      let (device, _) ← writePersistenceAddMessage state.write.side.device msg
      return ({ state with
          write := { state.write with side := { state.write.side with device } } },
        [.served (admission state.write.side.device msg)])
  | state, .readRequest msg => do
      let (device, callback) ←
        readPersistenceAddMessage state.read.side.device msg
      return ({ state with
          read := { state.read with side := { state.read.side with device } } },
        (request state.read.side.device device msg callback).map .served)
  | state, .writeThread codes pointer => do
      let (write, database, events) ←
        state.write.threadStep false state.database codes pointer
      return ({ state with write, database }, events.map .served)
  | state, .readThread pointer => do
      let (read, database, events) ←
        state.read.threadStep true state.database MdbCodes.success pointer
      return ({ state with read, database }, events.map .served)
  | state, .stopWriter => .ok ({ state with write := state.write.raise }, [])
  | state, .stopReader => .ok ({ state with read := state.read.raise }, [])
  | state, .killWriter =>
      .ok ({ state with write := state.write.kill },
        [.writerKilled (heldRecords state.write.side.thread)])
  | state, .killReader =>
      .ok ({ state with read := state.read.kill }, [.readerKilled])
  | state, .closeWriter =>
      if state.write.Closes then
        .ok ({ state with write := state.write.close }, [.writeReleased])
      else .ok (state, [])
  | state, .closeReader =>
      if state.read.Closes then
        .ok ({ state with read := state.read.close }, [.readReleased])
      else .ok (state, [])
  | state, .openWriter recv =>
      .ok ({ state with write := state.write.openFile recv }, [])
  | state, .openReader recv =>
      .ok ({ state with read := state.read.openFile recv }, [])

/-! ## The events as operations on a durable map -/

/-- What a worker is shown for what was found. -/
def respond (found : Option PaxosRecord) : PaxosRecord :=
  found.getD PaxosRecord.zeroed

def label : SessionEvent → Label Word32 PaxosRecord PaxosRecord
  | .served (.accepted msg) => .write (messageRecord msg).iid (messageRecord msg)
  | .served (.committed accepted) =>
      .commit accepted.record.iid accepted.record
  | .served (.failed accepted _) =>
      .discard accepted.record.iid accepted.record
  | .served (.requested _ msg _ _) => .request (requestHeader msg).iid
  | .served (.looked _) => .lookup
  | .served (.answered before after) =>
      .answer (after.responseRecord before.firstBuf)
  | .served _ => .silent
  | .writerKilled [] => .silent
  | .writerKilled (record :: _) => .discard record.iid record
  | .writeReleased => .dropWrites
  | .readerKilled => .dropLookup
  | .readReleased => .dropReads

theorem eq_writeReleased_of_label {event : SessionEvent}
    (hlabel : label event = .dropWrites) : event = .writeReleased := by
  unfold label at hlabel
  split at hlabel <;> first | rfl | cases hlabel

/-- A write is given up by a failed store or with a killed writer. -/
theorem eq_of_label_discard {event : SessionEvent} {iid : Word32}
    {record : PaxosRecord} (hlabel : label event = .discard iid record) :
    (∃ accepted codes, event = .served (.failed accepted codes)) ∨
      ∃ held rest, event = .writerKilled (held :: rest) := by
  unfold label at hlabel
  split at hlabel
  case h_3 accepted codes => exact Or.inl ⟨accepted, codes, rfl⟩
  case h_9 held rest => exact Or.inr ⟨held, rest, rfl⟩
  all_goals cases hlabel

abbrev Abstract := DurableMap.State Word32 PaxosRecord

/-- A record under its own number. -/
def entryOf (record : PaxosRecord) : Word32 × PaxosRecord :=
  (record.iid, record)

def messageEntry (msg : List Byte) : Word32 × PaxosRecord :=
  entryOf (messageRecord msg)

def recordEntry (accepted : UserAccepted) : Word32 × PaxosRecord :=
  entryOf accepted.record

/-- The writer holds and its ring contains what waits. -/
structure WriteRelated (port : Port) (waiting : List (Word32 × PaxosRecord)) :
    Prop where
  side : ∃ queue held, WriteSideHolds port.side queue held ∧
    waiting = (held.toList ++ queue).map messageEntry
  idle : port.running = false → port.side.thread.stage = .polling
  owns : port.running = true → port.side.device.charMutex = true

/-- The database holds the durable writes. -/
structure Durable (database : Database) (log : List (Word32 × PaxosRecord)) :
    Prop where
  settled : database.Settled
  stored : ∃ stored : List UserAccepted, (∀ accepted ∈ stored, Sized accepted) ∧
    database.entries =
      applyWrites (fun _ => none) (stored.map UserAccepted.entry) ∧
    log = stored.map recordEntry

/-- What was looked up for the oldest request. -/
def Remembers (queue : List Request) (found : Option PaxosRecord)
    (seen : Option (List (Word32 × PaxosRecord))) : Prop :=
  (found = none ∧ seen = none) ∨
    ∃ slot msg rest log, queue = (slot, msg) :: rest ∧ seen = some log ∧
      found = some (respond (lookUp log (requestHeader msg).iid))

structure ReadRelated (memory : DeviceMemory) (port : Port)
    (reads : List Word32) (seen : Option (List (Word32 × PaxosRecord))) :
    Prop where
  side : ∃ queue found, ReadSideServes memory port.side queue found ∧
    reads = queue.map (fun request => (requestHeader request.2).iid) ∧
    Remembers queue found seen
  idle : port.running = false → port.side.thread.stage = .polling
  owns : port.running = true → port.side.device.charMutex = true

structure Related (memory : DeviceMemory) (state : System) (abs : Abstract) :
    Prop where
  write : WriteRelated state.write abs.waiting
  durable : Durable state.database abs.log
  read : ReadRelated memory state.read abs.reads abs.seen

/-- No step of a thread touches the mutex. -/
theorem genericStorageThread_charMutex {isRead : Bool} {side next : Side}
    {database after : Database} {codes : MdbCodes} {pointer : Addr}
    {events : List Event}
    (hstep : genericStorageThread isRead side database codes pointer =
      .ok (next, after, events)) :
    next.device.charMutex = side.device.charMutex := by
  unfold genericStorageThread at hstep
  split at hstep
  · cases hstep
    rfl
  · obtain ⟨⟨device, recv, len⟩, hread, hreturned⟩ := bind_eq_ok.mp hstep
    cases hreturned
    cases isRead with
    | false =>
        obtain rfl | rfl | rfl := writePersistenceRead_effect hread
        · rfl
        · rfl
        · rfl
    | true =>
        obtain ⟨result, -, hdevice⟩ := bind_eq_ok.mp hread
        cases hdevice
        rfl
  · split at hstep
    · cases hstep
      rfl
    · cases hstep
      rfl
  · split at hstep
    · rw [processReadMessage] at hstep
      split at hstep
      · cases hstep
        rfl
      · dsimp only at hstep
        split at hstep
        · cases hstep
          rfl
        · cases hstep
          rfl
    · rw [processWriteMessage] at hstep
      split at hstep
      · cases hstep
        rfl
      · cases hstep
        rfl
  · obtain ⟨⟨device, ret⟩, hanswer, hreturned⟩ := bind_eq_ok.mp hstep
    cases hreturned
    rcases readPersistenceWrite_cases hanswer with
      rfl | ⟨slot, accepted, value, rfl | rfl⟩
    · rfl
    · rfl
    · rfl
  · cases hstep
    rfl

/-! ## The write side -/

namespace WriteRelated

variable {port : Port} {waiting : List (Word32 × PaxosRecord)}

theorem start (memory : DeviceMemory) : WriteRelated (Port.start memory) [] where
  side := ⟨[], none, writeSideHolds_start memory _, rfl⟩
  idle _ := rfl
  owns hrunning := absurd hrunning Bool.false_ne_true

/-- What waits is what the thread holds and what the ring holds. -/
theorem waiting_eq (hport : WriteRelated port waiting) :
    waiting = (heldRecords port.side.thread ++
      ringRecords port.side.device).map entryOf := by
  obtain ⟨queue, held, hside, rfl⟩ := hport.side
  rw [hside.heldRecords_eq, hside.ringRecords_eq, ← List.map_append,
    List.map_map]
  rfl

theorem addMessage (hport : WriteRelated port waiting) {msg : List Byte}
    (hheader : sizeofPaxosAccepted ≤ msg.length) :
    ∃ device callback,
      writePersistenceAddMessage port.side.device msg = .ok (device, callback) ∧
      ((admission port.side.device msg = .accepted msg ∧
          WriteRelated { port with side := { port.side with device } }
            (waiting ++ [messageEntry msg])) ∨
        (admission port.side.device msg = .refused msg bufferSize ∧
          WriteRelated { port with side := { port.side with device } }
            waiting)) := by
  obtain ⟨queue, held, hside, rfl⟩ := hport.side
  obtain ⟨device, callback, hadd, hcases⟩ := hside.addMessage hheader
  have howns : port.running = true → device.charMutex = true := by
    rw [@addMessage_charMutex .write _ _ _ _ hadd]
    exact hport.owns
  refine ⟨device, callback, hadd, ?_⟩
  rcases hcases with ⟨-, hnext, hadmission⟩ | ⟨-, hnext, hadmission⟩
  · exact Or.inl ⟨hadmission, ⟨queue ++ [msg], held, hnext, by simp⟩,
      hport.idle, howns⟩
  · exact Or.inr ⟨hadmission, ⟨queue, held, hnext, rfl⟩, hport.idle, howns⟩

/-- The thread stores or gives up what has waited longest, or it does neither. -/
inductive Progresses (codes : MdbCodes)
    (waiting : List (Word32 × PaxosRecord)) :
    List Event → List (Word32 × PaxosRecord) → List (Word32 × PaxosRecord) →
      Prop where
  | silent : Progresses codes waiting [] waiting []
  | committed {accepted : UserAccepted} {rest : List (Word32 × PaxosRecord)}
      (hwaiting : waiting = recordEntry accepted :: rest) :
      Progresses codes waiting [.committed accepted] rest [recordEntry accepted]
  | failed {accepted : UserAccepted} {rest : List (Word32 × PaxosRecord)}
      (hcodes : codes ≠ MdbCodes.success)
      (hwaiting : waiting = recordEntry accepted :: rest) :
      Progresses codes waiting [.failed accepted codes] rest []

theorem sideStep {side : Side} {queue : List (List Byte)}
    {held : Option (List Byte)} (hside : WriteSideHolds side queue held)
    {database : Database} {log : List (Word32 × PaxosRecord)}
    (hdurable : Durable database log) (codes : MdbCodes) (pointer : Addr) :
    ∃ next after events nextQueue nextHeld more,
      genericStorageThread false side database codes pointer =
        .ok (next, after, events) ∧
      WriteSideHolds next nextQueue nextHeld ∧ Durable after (log ++ more) ∧
      Progresses codes ((held.toList ++ queue).map messageEntry) events
        ((nextHeld.toList ++ nextQueue).map messageEntry) more := by
  obtain ⟨next, after, events, nextQueue, nextHeld, hstep, hnext, hsettled,
    hcases⟩ := hside.threadStep hdurable.settled codes pointer
  obtain ⟨stored, hsized, hentries, rfl⟩ := hdurable.stored
  rcases hcases with hadvances | hfinishes
  · obtain ⟨rfl, rfl, hmessages⟩ := hadvances
    refine ⟨next, after, [], nextQueue, nextHeld, [], hstep, hnext, ?_, ?_⟩
    · rw [List.append_nil]
      exact ⟨hsettled, stored, hsized, hentries, rfl⟩
    · rw [hmessages]
      exact .silent
  · obtain ⟨rfl, rfl, msg, accepted, rfl, hrecord, haccepted, houtcome⟩ :=
      hfinishes
    have hwaiting : (some msg).toList ++ nextQueue = msg :: nextQueue := rfl
    have hentry : messageEntry msg = recordEntry accepted := by
      rw [messageEntry, recordEntry, hrecord]
    rw [hwaiting, List.map_cons, hentry]
    rcases houtcome with ⟨-, rfl, hafter⟩ | ⟨hcodes, rfl, hafter⟩
    · refine ⟨next, after, _, nextQueue, none, [recordEntry accepted], hstep,
        hnext, ⟨hsettled, stored ++ [accepted], ?_, ?_, ?_⟩, .committed rfl⟩
      · intro other hother
        rcases List.mem_append.mp hother with hold | hnew
        · exact hsized other hold
        · rwa [List.mem_singleton.mp hnew]
      · rw [hafter, hentries, ← applyWrites_append, List.map_append]
        rfl
      · rw [List.map_append]
        rfl
    · refine ⟨next, after, _, nextQueue, none, [], hstep, hnext, ?_,
        .failed hcodes rfl⟩
      rw [List.append_nil]
      exact ⟨hsettled, stored, hsized, hafter.trans hentries, rfl⟩

theorem writeSideHolds_goto_polling {side : Side} {queue : List (List Byte)}
    {held : Option (List Byte)} (hside : WriteSideHolds side queue held) :
    WriteSideHolds (side.goto .polling) queue none where
  txn_eq := hside.txn_eq
  ring := hside.ring
  stage := rfl

theorem threadStep (hport : WriteRelated port waiting) {database : Database}
    {log : List (Word32 × PaxosRecord)} (hdurable : Durable database log)
    (codes : MdbCodes) (pointer : Addr) :
    ∃ next after events rest more,
      port.threadStep false database codes pointer = .ok (next, after, events) ∧
      WriteRelated next rest ∧ Durable after (log ++ more) ∧
      Progresses codes waiting events rest more := by
  obtain ⟨queue, held, hside, rfl⟩ := hport.side
  have hsilent : Durable database (log ++ []) := by rwa [List.append_nil]
  unfold Port.threadStep
  split
  · exact ⟨port, database, [], _, [], rfl, hport, hsilent, .silent⟩
  · rename_i hstage
    have hholds := hside.stage
    rw [hstage] at hholds
    cases hholds
    exact ⟨port.exit, database, [], _, [], rfl,
      ⟨⟨queue, none, writeSideHolds_goto_polling hside, rfl⟩, fun _ => rfl,
        fun hrunning => absurd hrunning Bool.false_ne_true⟩, hsilent, .silent⟩
  · rename_i hrunning _
    obtain ⟨next, after, events, nextQueue, nextHeld, more, hstep, hnext,
      hafter, hprogresses⟩ := sideStep hside hdurable codes pointer
    refine ⟨{ port with side := next }, after, events, _, more, ?_,
      ⟨⟨nextQueue, nextHeld, hnext, rfl⟩, ?_, ?_⟩, hafter, hprogresses⟩
    · simp only [hstep, bind, Except.bind, pure, Except.pure]
    · intro hidle
      exact absurd (hrunning.symm.trans hidle) (Bool.false_ne_true ·.symm)
    · intro _
      change next.device.charMutex = true
      rw [genericStorageThread_charMutex hstep]
      exact hport.owns hrunning

/-- What the writer held when it was killed is gone, the rest still waits. -/
theorem kill (hport : WriteRelated port waiting) :
    (heldRecords port.side.thread = [] ∧ WriteRelated port.kill waiting) ∨
      ∃ record rest, heldRecords port.side.thread = [record] ∧
        waiting = (record.iid, record) :: rest ∧ WriteRelated port.kill rest := by
  obtain ⟨queue, held, hside, rfl⟩ := hport.side
  have hkilled : WriteRelated port.kill (queue.map messageEntry) ∨
      held = none ∧ port.kill = port := by
    unfold Port.kill
    by_cases hrunning : port.running = true
    · rw [if_pos hrunning]
      exact Or.inl ⟨⟨queue, none, writeSideHolds_goto_polling hside, rfl⟩,
        fun _ => rfl, fun hafter => absurd hafter Bool.false_ne_true⟩
    · have hholds := hside.stage
      rw [hport.idle (Bool.not_eq_true _ ▸ hrunning)] at hholds
      exact Or.inr ⟨hholds, if_neg hrunning⟩
  rw [hside.heldRecords_eq]
  cases held with
  | none =>
      refine Or.inl ⟨rfl, ?_⟩
      rcases hkilled with hkilled | ⟨-, hsame⟩
      · exact hkilled
      · rw [hsame]
        exact hport
  | some msg =>
      rcases hkilled with hkilled | ⟨hnone, -⟩
      · exact Or.inr ⟨messageRecord msg, _, rfl, rfl, hkilled⟩
      · cases hnone

theorem raise (hport : WriteRelated port waiting) :
    WriteRelated port.raise waiting :=
  ⟨hport.side, hport.idle, hport.owns⟩

theorem close (hport : WriteRelated port waiting) (hcloses : port.Closes) :
    WriteRelated port.close [] := by
  obtain ⟨queue, held, hside, rfl⟩ := hport.side
  have hstage := hport.idle hcloses.1
  refine ⟨⟨[], none, ⟨hside.txn_eq, hside.ring.deviceRelease, ?_⟩, rfl⟩,
    hport.idle, fun hrunning => ?_⟩
  swap
  · exact absurd (hrunning.symm.trans hcloses.1) (Bool.false_ne_true ·.symm)
  change StageHolds _ _ _ port.side.thread.stage
  rw [hstage]
  rfl

/-- A free device belongs to no thread. -/
theorem openFile (hport : WriteRelated port waiting) (recv : Block slotSize) :
    WriteRelated (port.openFile recv) waiting := by
  unfold Port.openFile
  dsimp only
  split
  · rename_i hopened
    obtain ⟨hfree, hdevice⟩ := deviceOpen_of_free hopened
    have hidle : port.running = false := by
      by_contra hrunning
      have hbusy := hport.owns (Bool.not_eq_false _ ▸ hrunning)
      exact absurd (hbusy.symm.trans hfree) (Bool.false_ne_true ·.symm)
    obtain ⟨queue, held, hside, rfl⟩ := hport.side
    have hholds := hside.stage
    rw [hport.idle hidle] at hholds
    cases hholds
    rw [hdevice]
    exact ⟨⟨queue, none, ⟨rfl, ⟨hside.ring.working_eq, hside.ring.usedBuf_eq,
      hside.ring.occupies, hside.ring.slots⟩, rfl⟩, rfl⟩,
      fun hstopped => absurd hstopped.symm Bool.false_ne_true, fun _ => rfl⟩
  · exact hport

end WriteRelated

/-! ## The read side -/

theorem readSideServes_goto_polling {memory : DeviceMemory} {side : Side}
    {queue : List Request} {found : Option PaxosRecord}
    (hside : ReadSideServes memory side queue found) :
    ReadSideServes memory (side.goto .polling) queue none where
  txn_eq := hside.txn_eq
  recv_length := hside.recv_length
  owned := hside.owned
  ring := hside.ring
  slots := hside.slots
  stage := rfl

/-- What a durable database stores is what its log says. -/
theorem Durable.storedRecord_eq {database : Database}
    {log : List (Word32 × PaxosRecord)} (hdurable : Durable database log)
    (iid : Word32) :
    storedRecord database.entries iid = respond (lookUp log iid) := by
  obtain ⟨stored, -, hentries, rfl⟩ := hdurable.stored
  rw [hentries, storedRecord_entries, List.map_map]
  rfl

theorem Durable.storable {database : Database}
    {log : List (Word32 × PaxosRecord)} (hdurable : Durable database log) :
    Storable database.entries := by
  obtain ⟨stored, hsized, hentries, -⟩ := hdurable.stored
  rw [hentries]
  exact storable_entries hsized

theorem Durable.congr {database after : Database}
    {log : List (Word32 × PaxosRecord)} (hdurable : Durable database log)
    (hsettled : after.Settled) (hentries : after.entries = database.entries) :
    Durable after log := by
  obtain ⟨stored, hsized, hstored, hlog⟩ := hdurable.stored
  exact ⟨hsettled, stored, hsized, hentries.trans hstored, hlog⟩

namespace ReadRelated

variable {memory : DeviceMemory} {port : Port} {reads : List Word32}
variable {seen : Option (List (Word32 × PaxosRecord))}

theorem start (memory : DeviceMemory) :
    ReadRelated memory (Port.start memory) [] none where
  side := ⟨[], none, readSideServes_start memory _, rfl, Or.inl ⟨rfl, rfl⟩⟩
  idle _ := rfl
  owns hrunning := absurd hrunning Bool.false_ne_true

/-- The ring counts the reads. -/
theorem usedBuf_eq (hport : ReadRelated memory port reads seen) :
    port.side.device.usedBuf = reads.length := by
  obtain ⟨queue, found, hside, rfl, -⟩ := hport.side
  rw [hside.ring.usedBuf_eq, List.length_map, List.length_map]

theorem addMessage (hport : ReadRelated memory port reads seen)
    {msg : List Byte} (hreadable : Readable msg) :
    ∃ device callback,
      readPersistenceAddMessage port.side.device msg = .ok (device, callback) ∧
      ((callback = some port.side.device.currentBuf ∧
          ReadRelated memory
            { port with side := { port.side with device } }
            (reads ++ [(requestHeader msg).iid]) seen) ∨
        (callback = none ∧ ReadRelated memory
          { port with side := { port.side with device } } reads seen)) := by
  obtain ⟨queue, found, hside, rfl, hremembers⟩ := hport.side
  by_cases hfree : queue.length < bufferSize
  · obtain ⟨device, hadd, hnext, -⟩ := hside.addMessage hfree hreadable
    refine ⟨device, _, hadd, Or.inl ⟨rfl, ⟨_, found, hnext, by simp, ?_⟩,
      hport.idle, ?_⟩⟩
    · rcases hremembers with hnone | ⟨slot, head, rest, log, rfl, hlooked⟩
      · exact Or.inl hnone
      · exact Or.inr ⟨slot, head, _, log, rfl, hlooked⟩
    · rw [@addMessage_charMutex .read _ _ _ _ hadd]
      exact hport.owns
  · exact ⟨port.side.device, none, hside.addMessage_full (not_lt.mp hfree) msg,
      Or.inr ⟨rfl, hport⟩⟩

/-- The thread looks the oldest request up, or answers it, or neither. -/
inductive Progresses (entries : List Byte → Option (List Byte))
    (log : List (Word32 × PaxosRecord)) (reads : List Word32)
    (seen : Option (List (Word32 × PaxosRecord))) :
    List Event → List Word32 → Option (List (Word32 × PaxosRecord)) →
      Prop where
  | silent : Progresses entries log reads seen [] reads seen
  | looked (hreads : reads ≠ []) (hseen : seen = none) :
      Progresses entries log reads seen [.looked entries] reads (some log)
  | answered {before after : PaxosKernelDevice} {key : Word32}
      {rest : List Word32} {earlier : List (Word32 × PaxosRecord)}
      (hreads : reads = key :: rest) (hseen : seen = some earlier)
      (hreply : after.responseRecord before.firstBuf =
        respond (lookUp earlier key)) :
      Progresses entries log reads seen [.answered before after] rest none

theorem sideStep {side : Side} {queue : List Request}
    {found : Option PaxosRecord} (hside : ReadSideServes memory side queue found)
    (hremembers : Remembers queue found seen) {database : Database}
    {log : List (Word32 × PaxosRecord)} (hdurable : Durable database log)
    (pointer : Addr) :
    ∃ next after events nextQueue nextFound nextSeen,
      genericStorageThread true side database MdbCodes.success pointer =
        .ok (next, after, events) ∧
      ReadSideServes memory next nextQueue nextFound ∧
      Remembers nextQueue nextFound nextSeen ∧ Durable after log ∧
      Progresses database.entries log
        (queue.map fun request => (requestHeader request.2).iid) seen events
        (nextQueue.map fun request => (requestHeader request.2).iid)
        nextSeen := by
  cases hstage : side.thread.stage with
  | polling =>
      obtain ⟨next, hstep, hnext, -⟩ :=
        hside.poll hstage database MdbCodes.success pointer
      exact ⟨next, database, [], queue, found, seen, hstep, hnext, hremembers,
        hdurable, .silent⟩
  | reading =>
      obtain ⟨next, hstep, hnext, -⟩ :=
        hside.read hstage database MdbCodes.success pointer
      exact ⟨next, database, [], queue, found, seen, hstep, hnext, hremembers,
        hdurable, .silent⟩
  | decoding =>
      obtain ⟨next, message, hstep, hnext, -⟩ :=
        hside.decode hstage database MdbCodes.success pointer
      exact ⟨next, database, [], queue, found, seen, hstep, hnext, hremembers,
        hdurable, .silent⟩
  | processing message =>
      obtain ⟨next, after, slot, msg, rest, rfl, rfl, hstep, hsettled, hentries,
        hnext⟩ := hside.process hstage hdurable.settled hdurable.storable pointer
      have hseen : seen = none := by
        rcases hremembers with ⟨-, hseen⟩ | ⟨_, _, _, _, _, _, hfound⟩
        · exact hseen
        · cases hfound
      refine ⟨next, after, _, _, _, some log, hstep, hnext, Or.inr ⟨slot, msg,
        rest, log, rfl, rfl, ?_⟩, hdurable.congr hsettled hentries,
        .looked (by simp) hseen⟩
      rw [hdurable.storedRecord_eq]
  | answering frame count =>
      obtain ⟨next, slot, msg, rest, record, rfl, rfl, hstep, hnext, hfills⟩ :=
        hside.answer hstage database MdbCodes.success pointer
      have hslot : slot = side.device.firstBuf := by
        have hslots := hside.slots
        rw [List.length_cons, window_cons, List.map_cons] at hslots
        exact (List.cons.inj hslots).1
      rcases hremembers with ⟨hfound, -⟩ | ⟨_, _, _, log', hqueue, hseen, hfound⟩
      · cases hfound
      · cases hqueue
        refine ⟨next, database, _, rest, none, none, hstep, hnext,
          Or.inl ⟨rfl, rfl⟩, hdurable, .answered rfl hseen ?_⟩
        rw [← hslot, hfills.filled]
        exact Option.some.inj hfound
  | aborted =>
      have hserves := hside.stage
      rw [hstage] at hserves
      exact hserves.elim

theorem threadStep (hport : ReadRelated memory port reads seen)
    {database : Database} {log : List (Word32 × PaxosRecord)}
    (hdurable : Durable database log) (pointer : Addr) :
    ∃ next after events rest nextSeen,
      port.threadStep true database MdbCodes.success pointer =
        .ok (next, after, events) ∧
      ReadRelated memory next rest nextSeen ∧ Durable after log ∧
      Progresses database.entries log reads seen events rest nextSeen := by
  obtain ⟨queue, found, hside, rfl, hremembers⟩ := hport.side
  unfold Port.threadStep
  split
  · exact ⟨port, database, [], _, seen, rfl, hport, hdurable, .silent⟩
  · rename_i hstage
    have hserves := hside.stage
    rw [hstage] at hserves
    cases hserves
    exact ⟨port.exit, database, [], _, seen, rfl,
      ⟨⟨queue, none, readSideServes_goto_polling hside, rfl, hremembers⟩,
        fun _ => rfl, fun hrunning => absurd hrunning Bool.false_ne_true⟩,
      hdurable, .silent⟩
  · rename_i hrunning _
    obtain ⟨next, after, events, nextQueue, nextFound, nextSeen, hstep, hnext,
      hlater, hafter, hprogresses⟩ := sideStep hside hremembers hdurable pointer
    refine ⟨{ port with side := next }, after, events, _, nextSeen, ?_,
      ⟨⟨nextQueue, nextFound, hnext, rfl, hlater⟩, ?_, ?_⟩, hafter, hprogresses⟩
    · simp only [hstep, bind, Except.bind, pure, Except.pure]
    · intro hidle
      exact absurd (hrunning.symm.trans hidle) (Bool.false_ne_true ·.symm)
    · intro _
      change next.device.charMutex = true
      rw [genericStorageThread_charMutex hstep]
      exact hport.owns hrunning

/-- A reader that is killed leaves its requests in the ring. -/
theorem kill (hport : ReadRelated memory port reads seen) :
    ReadRelated memory port.kill reads none := by
  obtain ⟨queue, found, hside, rfl, hremembers⟩ := hport.side
  unfold Port.kill
  by_cases hrunning : port.running = true
  · rw [if_pos hrunning]
    exact ⟨⟨queue, none, readSideServes_goto_polling hside, rfl,
      Or.inl ⟨rfl, rfl⟩⟩, fun _ => rfl,
      fun hafter => absurd hafter Bool.false_ne_true⟩
  · rw [if_neg hrunning]
    have hserves := hside.stage
    rw [hport.idle (Bool.not_eq_true _ ▸ hrunning)] at hserves
    cases hserves
    exact ⟨⟨queue, none, hside, rfl, Or.inl ⟨rfl, rfl⟩⟩, hport.idle, hport.owns⟩

theorem raise (hport : ReadRelated memory port reads seen) :
    ReadRelated memory port.raise reads seen :=
  ⟨hport.side, hport.idle, hport.owns⟩

theorem close (hport : ReadRelated memory port reads seen)
    (hcloses : port.Closes) : ReadRelated memory port.close [] none := by
  obtain ⟨queue, found, hside, rfl, -⟩ := hport.side
  refine ⟨⟨[], none, ⟨hside.txn_eq, hside.recv_length,
    ⟨hside.owned.response_eq, hside.owned.value_eq⟩, hside.ring.deviceRelease, rfl, ?_⟩, rfl,
    Or.inl ⟨rfl, rfl⟩⟩, hport.idle, fun hrunning => ?_⟩
  · change StageServes _ _ _ port.side.thread.stage
    rw [hport.idle hcloses.1]
    rfl
  · exact absurd (hrunning.symm.trans hcloses.1) (Bool.false_ne_true ·.symm)

theorem openFile (hport : ReadRelated memory port reads seen)
    (recv : Block slotSize) :
    ReadRelated memory (port.openFile recv) reads seen := by
  unfold Port.openFile
  dsimp only
  split
  · rename_i hopened
    obtain ⟨hfree, hdevice⟩ := deviceOpen_of_free hopened
    have hidle : port.running = false := by
      by_contra hrunning
      have hbusy := hport.owns (Bool.not_eq_false _ ▸ hrunning)
      exact absurd (hbusy.symm.trans hfree) (Bool.false_ne_true ·.symm)
    obtain ⟨queue, found, hside, rfl, hremembers⟩ := hport.side
    have hserves := hside.stage
    rw [hport.idle hidle] at hserves
    cases hserves
    rw [hdevice]
    refine ⟨⟨queue, none, ⟨rfl, recv.toList_length.ge,
      ⟨hside.owned.response_eq, hside.owned.value_eq⟩,
      ⟨hside.ring.working_eq, hside.ring.usedBuf_eq, hside.ring.occupies,
        hside.ring.slots⟩, hside.slots, rfl⟩, rfl, hremembers⟩,
      fun hstopped => absurd hstopped.symm Bool.false_ne_true, fun _ => rfl⟩
  · exact hport

end ReadRelated

/-! ## Runs of the system -/

/-- A message has a header, and a request brings its number to the thread. -/
def SystemAction.Meets : SystemAction → Prop
  | .writeMessage msg => sizeofPaxosAccepted ≤ msg.length
  | .readRequest msg => Readable msg
  | _ => True

abbrev Explained (abs : Abstract) (events : List SessionEvent)
    (after : Abstract) : Prop :=
  Explains respond label abs events after

/-- What the system does is an explained step of the map. -/
def Simulates (memory : DeviceMemory) (state : System) (abs : Abstract)
    (action : SystemAction) : Prop :=
  ∃ next events after, restarts state action = .ok (next, events) ∧
    Explained abs events after ∧ Related memory next after

namespace Related

variable {memory : DeviceMemory} {state : System} {abs : Abstract}

theorem start (writeMemory readMemory : DeviceMemory) :
    Related readMemory (System.start writeMemory readMemory)
      (State.empty Word32 PaxosRecord) where
  write := WriteRelated.start writeMemory
  durable := ⟨Store.settled_ofEntries _, [], by simp, rfl, rfl⟩
  read := ReadRelated.start readMemory

theorem writeMessage (hrelated : Related memory state abs) {msg : List Byte}
    (hheader : sizeofPaxosAccepted ≤ msg.length) :
    Simulates memory state abs (.writeMessage msg) := by
  obtain ⟨device, callback, hadd, hcases⟩ := hrelated.write.addMessage hheader
  let next : System := { state with
    write := { state.write with side := { state.write.side with device } } }
  have hstep : restarts state (.writeMessage msg) =
      .ok (next, [.served (admission state.write.side.device msg)]) := by
    simp only [restarts, hadd, bind, Except.bind, pure, Except.pure, next]
  rcases hcases with ⟨hadmission, hwrite⟩ | ⟨hadmission, hwrite⟩
  · rw [hadmission] at hstep
    exact ⟨next, _, _, hstep, .singleton (.write _ _ _),
      ⟨hwrite, hrelated.durable, hrelated.read⟩⟩
  · rw [hadmission] at hstep
    exact ⟨next, _, _, hstep, .singleton (.silent _),
      ⟨hwrite, hrelated.durable, hrelated.read⟩⟩

theorem readRequest (hrelated : Related memory state abs) {msg : List Byte}
    (hreadable : Readable msg) :
    Simulates memory state abs (.readRequest msg) := by
  obtain ⟨device, callback, hadd, hcases⟩ := hrelated.read.addMessage hreadable
  let next : System := { state with
    read := { state.read with side := { state.read.side with device } } }
  have hstep : restarts state (.readRequest msg) = .ok (next,
      (request state.read.side.device device msg callback).map .served) := by
    simp only [restarts, hadd, bind, Except.bind, pure, Except.pure, next]
  rcases hcases with ⟨rfl, hread⟩ | ⟨rfl, hread⟩
  · exact ⟨next, _, _, hstep, .singleton (.request _ _),
      ⟨hrelated.write, hrelated.durable, hread⟩⟩
  · exact ⟨next, _, _, hstep, .nil,
      ⟨hrelated.write, hrelated.durable, hread⟩⟩

theorem writeThread (hrelated : Related memory state abs) (codes : MdbCodes)
    (pointer : Addr) : Simulates memory state abs (.writeThread codes pointer) := by
  obtain ⟨write, database, events, rest, more, hthread, hwrite, hdurable,
    hprogresses⟩ := hrelated.write.threadStep hrelated.durable codes pointer
  have hstep : restarts state (.writeThread codes pointer) =
      .ok ({ state with write, database }, events.map .served) := by
    simp only [restarts, hthread, bind, Except.bind, pure, Except.pure]
  let after : Abstract :=
    { abs with waiting := rest, log := abs.log ++ more }
  refine ⟨_, _, after, hstep, ?_, ⟨hwrite, hdurable, hrelated.read⟩⟩
  simp only [after]
  cases hprogresses with
  | silent =>
      rw [List.append_nil]
      exact .nil
  | committed hwaiting => exact .singleton (.commit hwaiting)
  | failed hcodes hwaiting =>
      rw [List.append_nil]
      exact .singleton (.discard hwaiting)

theorem readThread (hrelated : Related memory state abs) (pointer : Addr) :
    Simulates memory state abs (.readThread pointer) := by
  obtain ⟨read, database, events, rest, seen, hthread, hread, hdurable,
    hprogresses⟩ := hrelated.read.threadStep hrelated.durable pointer
  have hstep : restarts state (.readThread pointer) =
      .ok ({ state with read, database }, events.map .served) := by
    simp only [restarts, hthread, bind, Except.bind, pure, Except.pure]
  let after : Abstract := { abs with reads := rest, seen }
  refine ⟨_, _, after, hstep, ?_, ⟨hrelated.write, hdurable, hread⟩⟩
  simp only [after]
  cases hprogresses with
  | silent => exact .nil
  | looked hreads hseen => exact .singleton (.lookup hreads hseen)
  | @answered before device key rest earlier hreads hseen hreply =>
      apply Explains.singleton
      change Step respond abs (.answer (device.responseRecord before.firstBuf)) _
      rw [hreply]
      exact .answer hreads hseen

theorem killWriter (hrelated : Related memory state abs) :
    Simulates memory state abs .killWriter := by
  rcases hrelated.write.kill with
    ⟨hheld, hwrite⟩ | ⟨record, rest, hheld, hwaiting, hwrite⟩
  · refine ⟨_, _, abs, rfl, ?_, ⟨hwrite, hrelated.durable, hrelated.read⟩⟩
    rw [hheld]
    exact .singleton (.silent _)
  · refine ⟨_, _, { abs with waiting := rest }, rfl, ?_,
      ⟨hwrite, hrelated.durable, hrelated.read⟩⟩
    rw [hheld]
    exact .singleton (.discard hwaiting)

theorem closeWriter (hrelated : Related memory state abs) :
    Simulates memory state abs .closeWriter := by
  by_cases hcloses : state.write.Closes
  · exact ⟨_, _, _, if_pos hcloses, .singleton (.dropWrites abs),
      ⟨hrelated.write.close hcloses, hrelated.durable, hrelated.read⟩⟩
  · exact ⟨state, [], abs, if_neg hcloses, .nil, hrelated⟩

theorem closeReader (hrelated : Related memory state abs) :
    Simulates memory state abs .closeReader := by
  by_cases hcloses : state.read.Closes
  · exact ⟨_, _, _, if_pos hcloses, .singleton (.dropReads abs),
      ⟨hrelated.write, hrelated.durable, hrelated.read.close hcloses⟩⟩
  · exact ⟨state, [], abs, if_neg hcloses, .nil, hrelated⟩

theorem step (hrelated : Related memory state abs) {action : SystemAction}
    (haction : action.Meets) : Simulates memory state abs action := by
  cases action with
  | writeMessage msg => exact hrelated.writeMessage haction
  | readRequest msg => exact hrelated.readRequest haction
  | writeThread codes pointer => exact hrelated.writeThread codes pointer
  | readThread pointer => exact hrelated.readThread pointer
  | killWriter => exact hrelated.killWriter
  | closeWriter => exact hrelated.closeWriter
  | closeReader => exact hrelated.closeReader
  | stopWriter =>
      exact ⟨_, _, abs, rfl, .nil,
        ⟨hrelated.write.raise, hrelated.durable, hrelated.read⟩⟩
  | stopReader =>
      exact ⟨_, _, abs, rfl, .nil,
        ⟨hrelated.write, hrelated.durable, hrelated.read.raise⟩⟩
  | killReader =>
      exact ⟨_, _, _, rfl, .singleton (.dropLookup abs),
        ⟨hrelated.write, hrelated.durable, hrelated.read.kill⟩⟩
  | openWriter recv =>
      exact ⟨_, _, abs, rfl, .nil,
        ⟨hrelated.write.openFile recv, hrelated.durable, hrelated.read⟩⟩
  | openReader recv =>
      exact ⟨_, _, abs, rfl, .nil,
        ⟨hrelated.write, hrelated.durable, hrelated.read.openFile recv⟩⟩

theorem run {actions : List SystemAction}
    (hactions : ∀ action ∈ actions, action.Meets)
    (writeMemory readMemory : DeviceMemory) :
    ∃ last events abs,
      Machine.run restarts (System.start writeMemory readMemory) actions =
        .ok (last, events) ∧
      Explained (State.empty Word32 PaxosRecord) events abs ∧
      Related readMemory last abs := by
  obtain ⟨last, events, hrun, abs, hexplains, hrelated⟩ := run_of_invariant
    (fun state history => ∃ abs, Explained (State.empty Word32 PaxosRecord)
      history abs ∧ Related readMemory state abs)
    SystemAction.Meets
    (by
      rintro state history action ⟨abs, hexplains, hrelated⟩ haction
      obtain ⟨next, events, after, hstep, hmore, hnext⟩ := hrelated.step haction
      exact ⟨next, events, hstep, after, hexplains.append hmore, hnext⟩)
    ⟨State.empty Word32 PaxosRecord, .nil, start writeMemory readMemory⟩ hactions
  exact ⟨last, events, abs, hrun, hexplains, hrelated⟩

end Related

/-- A writer that is killed with a record in its hands, messages before and
after the release of its device, and a request to a reader that is stopped. -/
def restartActions : List SystemAction :=
  [SystemAction.openWriter (Block.zero slotSize),
    SystemAction.writeMessage (headerBytes 7 0)] ++
    List.replicate 3 (SystemAction.writeThread MdbCodes.success 4096) ++
    [SystemAction.killWriter, SystemAction.writeMessage (headerBytes 8 0),
      SystemAction.closeWriter, SystemAction.openWriter (Block.zero slotSize),
      SystemAction.writeMessage (headerBytes 9 0)] ++
    List.replicate 4 (SystemAction.writeThread MdbCodes.success 4096) ++
    [SystemAction.openReader (Block.zero slotSize),
      SystemAction.readRequest (headerBytes 9 0)] ++
    List.replicate 5 (SystemAction.readThread 4096) ++
    [SystemAction.stopReader, SystemAction.readThread 4096,
      SystemAction.closeReader]

theorem restartActions_meets :
    ∀ action ∈ restartActions, action.Meets := by
  have hwrite (iid : Word32) :
      sizeofPaxosAccepted ≤ (headerBytes iid 0).length := by
    simp [headerBytes, sizeofPaxosAccepted]
  have hread : Readable (headerBytes 9 0) := by
    constructor <;> decide +kernel
  intro action haction
  simp only [restartActions, List.mem_append, List.mem_cons,
    List.mem_replicate, List.not_mem_nil, or_false] at haction
  cases action with
  | writeMessage msg =>
      rcases (by simpa using haction : msg = headerBytes 7 0 ∨
        msg = headerBytes 8 0 ∨ msg = headerBytes 9 0) with rfl | rfl | rfl
      · exact hwrite 7
      · exact hwrite 8
      · exact hwrite 9
  | readRequest msg =>
      obtain rfl : msg = headerBytes 9 0 := by simpa using haction
      exact hread
  | _ => trivial

section Results

variable (writeMemory readMemory : DeviceMemory) {actions : List SystemAction}

/-- For every interleaving of messages, requests, steps of the threads with any
codes of `storage_put`, and of stops, kills, closes and opens: the history is
one of a durable map behind two queues, whose waiting writes are in the hands
of the thread and in the ring, and whose durable ones are in the database. -/
theorem restarts_refine (hactions : ∀ action ∈ actions, action.Meets) :
    ∃ last events abs,
      run restarts (System.start writeMemory readMemory) actions =
        .ok (last, events) ∧
      Explains respond label (State.empty Word32 PaxosRecord) events abs ∧
      abs.waiting = (heldRecords last.write.side.thread ++
        ringRecords last.write.side.device).map entryOf ∧
      (∀ iid, storedRecord last.database.entries iid =
        respond (lookUp abs.log iid)) ∧
      last.read.side.device.usedBuf = abs.reads.length := by
  obtain ⟨last, events, abs, hrun, hexplains, hrelated⟩ :=
    Related.run hactions writeMemory readMemory
  exact ⟨last, events, abs, hrun, hexplains, hrelated.write.waiting_eq,
    hrelated.durable.storedRecord_eq, hrelated.read.usedBuf_eq⟩

theorem restarts_refine_sample :
    (∀ action ∈ restartActions, action.Meets) ∧
    ∃ last events abs,
      run restarts (System.start zeroMemory zeroMemory) restartActions =
        .ok (last, events) ∧
      Explains respond label (State.empty Word32 PaxosRecord) events abs ∧
      abs.waiting = (heldRecords last.write.side.thread ++
        ringRecords last.write.side.device).map entryOf ∧
      (∀ iid, storedRecord last.database.entries iid =
        respond (lookUp abs.log iid)) ∧
      last.read.side.device.usedBuf = abs.reads.length :=
  ⟨restartActions_meets,
    restarts_refine zeroMemory zeroMemory restartActions_meets⟩

/-- Every answer agrees with what was durable at one moment between itself and
the request with its own number since the device was last released. -/
theorem restarts_atomic (hactions : ∀ action ∈ actions, action.Meets) :
    ∃ last events,
      run restarts (System.start writeMemory readMemory) actions =
        .ok (last, events) ∧
      Historically (AnswersAtomically respond label) events := by
  obtain ⟨last, events, abs, hrun, hexplains, -⟩ :=
    Related.run hactions writeMemory readMemory
  exact ⟨last, events, hrun, hexplains.atomic.2⟩

theorem restarts_atomic_sample :
    (∀ action ∈ restartActions, action.Meets) ∧
    ∃ last events,
      run restarts (System.start zeroMemory zeroMemory) restartActions =
        .ok (last, events) ∧
      Historically (AnswersAtomically respond label) events :=
  ⟨restartActions_meets,
    restarts_atomic zeroMemory zeroMemory restartActions_meets⟩

/-- What happened to the messages accepted between two releases. -/
structure EpochKept (last : System) (epoch after : List SessionEvent) : Prop where
  /-- They are stored or given up in order; the rest are the last ones. -/
  ended : ∃ waiting, endedIn label epoch ++ waiting = writtenIn label epoch ∧
    (after = [] → waiting = (heldRecords last.write.side.thread ++
      ringRecords last.write.side.device).map entryOf)
  /-- None is given up but by a failed store or with a killed writer. -/
  committed : (∀ accepted codes, .served (.failed accepted codes) ∉ epoch) →
    (∀ record rest, .writerKilled (record :: rest) ∉ epoch) →
    committedIn label epoch <+: writtenIn label epoch

/-- Whatever was committed by any process is in the database, and between two
releases nothing is lost but what a failed store, a killed writer or the second
release gives up. -/
theorem restarts_durable (hactions : ∀ action ∈ actions, action.Meets) :
    ∃ last events,
      run restarts (System.start writeMemory readMemory) actions =
        .ok (last, events) ∧
      (∀ iid, storedRecord last.database.entries iid =
        respond (lookUp (committedIn label events) iid)) ∧
      ∀ before epoch after, events = before ++ epoch ++ after →
        Fresh label before → .writeReleased ∉ epoch →
          EpochKept last epoch after := by
  obtain ⟨last, events, abs, hrun, hexplains, hrelated⟩ :=
    Related.run hactions writeMemory readMemory
  refine ⟨last, events, hrun, ?_, ?_⟩
  · intro iid
    rw [hrelated.durable.storedRecord_eq, hexplains.log_eq]
    rfl
  · rintro before epoch after rfl hfresh hreleased
    have hdrop : ∀ event ∈ epoch, label event ≠ .dropWrites := by
      intro event hevent hlabel
      rw [eq_writeReleased_of_label hlabel] at hevent
      exact hreleased hevent
    obtain ⟨waiting, hended, hlast⟩ := hexplains.epoch hfresh hdrop
    refine ⟨⟨waiting, hended, fun hafter => ?_⟩, fun hfailed hkilled => ?_⟩
    · rw [hlast hafter]
      exact hrelated.write.waiting_eq
    · rw [← endedIn_eq_committedIn, ← hended]
      · exact List.prefix_append _ _
      · intro event hevent iid record hlabel
        rcases eq_of_label_discard hlabel with
          ⟨accepted, codes, rfl⟩ | ⟨held, rest, rfl⟩
        · exact hfailed accepted codes hevent
        · exact hkilled held rest hevent

theorem restarts_durable_sample :
    (∀ action ∈ restartActions, action.Meets) ∧
    ∃ last events,
      run restarts (System.start zeroMemory zeroMemory) restartActions =
        .ok (last, events) ∧
      (∀ iid, storedRecord last.database.entries iid =
        respond (lookUp (committedIn label events) iid)) ∧
      ∀ before epoch after, events = before ++ epoch ++ after →
        Fresh label before → .writeReleased ∉ epoch →
          EpochKept last epoch after :=
  ⟨restartActions_meets,
    restarts_durable zeroMemory zeroMemory restartActions_meets⟩

end Results

end PaxosPersistence.Restarts
