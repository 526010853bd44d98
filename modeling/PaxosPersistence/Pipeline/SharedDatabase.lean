import PaxosPersistence.Core.GrowingLog
import PaxosPersistence.Pipeline.ReadPipeline
import PaxosPersistence.Pipeline.WritePipeline

/-!
# Two devices and one database

The storage process serves both devices from one database.  Records reach it in
the order in which the write ring accepted them, and lookups are made in the
order in which the read ring accepted the requests.  The answers are therefore
consistent with beginnings of the accepted messages that never shrink, as long
as every request brings its number to the thread.  The read ring does not see
to that: a request whose header claims a negative length is answered with what
the thread had in its buffer before.
-/

namespace PaxosPersistence.SharedDatabase

open PaxosPersistence.ByteBlock
open PaxosPersistence.GrowingLog
open PaxosPersistence.KernelDevice
open PaxosPersistence.LmdbOperations
open PaxosPersistence.Machine
open PaxosPersistence.Memory
open PaxosPersistence.PaxosTypes
open PaxosPersistence.ReadPersistence
open PaxosPersistence.ReadPipeline
open PaxosPersistence.ReadSide
open PaxosPersistence.StorageThread
open PaxosPersistence.TransactionalMap
open PaxosPersistence.UserStorage
open PaxosPersistence.WritePersistence
open PaxosPersistence.WritePipeline
open PaxosPersistence.WriteSide

structure System where
  write : Side
  read : Side
  database : Database

/-- Both devices and both threads at the start, on an empty database. -/
def System.start (writeMemory readMemory : DeviceMemory)
    (writeRecv readRecv : Block slotSize) : System where
  write := ⟨kdevcharInit writeMemory, Thread.start writeRecv⟩
  read := ⟨kdevcharInit readMemory, Thread.start readRecv⟩
  database := Store.ofEntries fun _ => none

inductive SystemAction where
  | writeMessage (msg : List Byte)
  | readRequest (msg : List Byte)
  | writeThread (pointer : Addr)
  | readThread (pointer : Addr)

/-- No call of the database fails. -/
def sharedDatabase : Step System SystemAction Event Halt
  | state, .writeMessage msg => do
      let (device, _) ← writePersistenceAddMessage state.write.device msg
      return ({ state with write := { state.write with device } },
        [admission state.write.device msg])
  | state, .readRequest msg => do
      let (device, callback) ← readPersistenceAddMessage state.read.device msg
      return ({ state with read := { state.read with device } },
        request state.read.device device msg callback)
  | state, .writeThread pointer => do
      let (write, database, events) ← genericStorageThread false state.write
        state.database MdbCodes.success pointer
      return ({ state with write, database }, events)
  | state, .readThread pointer => do
      let (read, database, events) ← genericStorageThread true state.read
        state.database MdbCodes.success pointer
      return ({ state with read, database }, events)

/-! ## Reads of the accepted messages -/

/-- The map these messages make when stored in order. -/
def valueMap (msgs : List (List Byte)) : Word32 → Option PaxosRecord :=
  applyWrites (fun _ => none)
    (msgs.map fun msg => ((messageRecord msg).iid, messageRecord msg))

/-- The record is the one stored last under the number of the request, or the
one of zeros. -/
def ReadsValue (answer : Answer) (msgs : List (List Byte)) : Prop :=
  answer.record = (valueMap msgs answer.iid).getD PaxosRecord.zeroed

/-- The answers, in the order of the requests, read growing beginnings of the
accepted messages. -/
def PrefixConsistent (events : List Event) : Prop :=
  PrefixReads ReadsValue (acceptedOf events) (answersFor events)

/-! ## Lookups and commits -/

/-- The database holds just these records, stored in order. -/
def Stored (entries : List Byte → Option (List Byte))
    (stored : List UserAccepted) : Prop :=
  entries = applyWrites (fun _ => none) (stored.map UserAccepted.entry)

/-- What holds between two steps: each side agrees with the history, and the
lookups have seen growing beginnings of the records committed. -/
structure SystemTrack (readMemory : DeviceMemory) (state : System)
    (history : List Event) : Prop where
  write : WriteTrack (fun codes => codes = MdbCodes.success) (fun _ => none)
    state.write state.database history
  read : ReadTrack readMemory state.read history
  lookups : PrefixReads Stored (committedOf history) (lookupsOf history)

namespace SystemTrack

variable {readMemory : DeviceMemory} {state : System} {history : List Event}

theorem start (writeMemory readMemory : DeviceMemory)
    (writeRecv readRecv : Block slotSize) :
    SystemTrack readMemory
      (System.start writeMemory readMemory writeRecv readRecv) [] where
  write := WriteTrack.start writeMemory writeRecv fun _ => none
  read := ReadTrack.start readMemory readRecv
  lookups := prefixReads_nil Stored []

theorem storable (htrack : SystemTrack readMemory state history) :
    Storable state.database.entries := by
  rw [htrack.write.entries_eq]
  exact storable_entries htrack.write.sized

/-- Events without lookups leave the lookups explained. -/
theorem lookups_append (htrack : SystemTrack readMemory state history)
    {events : List Event} (hlookups : lookupsOf events = []) :
    PrefixReads Stored (committedOf (history ++ events))
      (lookupsOf (history ++ events)) := by
  rw [committedOf_append, lookupsOf_append, hlookups, List.append_nil]
  exact htrack.lookups.append_log (committedOf events)

theorem writeMessage (htrack : SystemTrack readMemory state history)
    {msg : List Byte} (hheader : sizeofPaxosAccepted ≤ msg.length) :
    ∃ next events, sharedDatabase state (.writeMessage msg) =
        .ok (next, events) ∧
      SystemTrack readMemory next (history ++ events) := by
  obtain ⟨device, callback, hadd, hadmission, hwrite⟩ :=
    htrack.write.addMessage hheader
  refine ⟨{ state with write := { state.write with device } },
    [admission state.write.device msg], ?_, hwrite, ?_, ?_⟩
  · simp only [sharedDatabase, hadd, bind, Except.bind, pure, Except.pure]
  · apply htrack.read.unrelated
    rcases hadmission with hadmission | hadmission
    · rw [hadmission]
      trivial
    · rw [hadmission]
      trivial
  · apply htrack.lookups_append
    rcases hadmission with hadmission | hadmission
    · rw [hadmission]
      rfl
    · rw [hadmission]
      rfl

theorem readRequest (htrack : SystemTrack readMemory state history)
    {msg : List Byte} (hreadable : Readable msg) :
    ∃ next events, sharedDatabase state (.readRequest msg) =
        .ok (next, events) ∧
      SystemTrack readMemory next (history ++ events) := by
  obtain ⟨device, callback, hadd, hread⟩ := htrack.read.addMessage hreadable
  refine ⟨{ state with read := { state.read with device } },
    request state.read.device device msg callback, ?_, ?_, hread, ?_⟩
  · simp only [sharedDatabase, hadd, bind, Except.bind, pure, Except.pure]
  · apply htrack.write.foreign _ _ htrack.write.settled rfl
    intro event hevent
    cases callback with
    | none => exact absurd hevent List.not_mem_nil
    | some slot =>
        cases List.mem_singleton.mp hevent
        trivial
  · apply htrack.lookups_append
    cases callback with
    | none => rfl
    | some slot => rfl

/-- A store lets the lookups made so far lag behind. -/
theorem writeThread (htrack : SystemTrack readMemory state history)
    (pointer : Addr) :
    ∃ next events, sharedDatabase state (.writeThread pointer) =
        .ok (next, events) ∧
      SystemTrack readMemory next (history ++ events) := by
  obtain ⟨write, database, events, hstep, hstores, hwrite⟩ :=
    htrack.write.threadStep rfl pointer
  refine ⟨{ state with write, database }, events, ?_, hwrite, ?_, ?_⟩
  · simp only [sharedDatabase, hstep, bind, Except.bind, pure, Except.pure]
  · apply htrack.read.unrelated_all
    rcases hstores with rfl | ⟨accepted, rfl⟩ | ⟨accepted, codes, rfl⟩
    · simp
    · simp [Unrelated]
    · simp [Unrelated]
  · apply htrack.lookups_append
    rcases hstores with rfl | ⟨accepted, rfl⟩ | ⟨accepted, codes, rfl⟩
    · rfl
    · rfl
    · rfl

/-- A lookup sees everything committed so far. -/
theorem readThread (htrack : SystemTrack readMemory state history)
    (pointer : Addr) :
    ∃ next events, sharedDatabase state (.readThread pointer) =
        .ok (next, events) ∧
      SystemTrack readMemory next (history ++ events) := by
  obtain ⟨read, database, events, hstep, hsettled, hentries, hevents, hread⟩ :=
    htrack.read.threadStep htrack.write.settled htrack.storable pointer
  refine ⟨{ state with read, database }, events, ?_, ?_, hread, ?_⟩
  · simp only [sharedDatabase, hstep, bind, Except.bind, pure, Except.pure]
  · apply htrack.write.foreign _ _ hsettled hentries
    rcases hevents with ⟨-, rfl | rfl⟩ | ⟨answer, rfl, -⟩
    · simp
    · simp [Foreign]
    · simp [Foreign]
  · rcases hevents with ⟨-, rfl | rfl⟩ | ⟨answer, rfl, -⟩
    · exact htrack.lookups_append rfl
    · rw [committedOf_append, lookupsOf_append]
      change PrefixReads Stored (committedOf history ++ [])
        (lookupsOf history ++ [state.database.entries])
      rw [List.append_nil]
      exact htrack.lookups.concat htrack.write.entries_eq
    · exact htrack.lookups_append rfl

/-- The records committed are those of the first accepted messages. -/
theorem committed_take (htrack : SystemTrack readMemory state history)
    {count : ℕ} (hcount : count ≤ (committedOf history).length) :
    ((committedOf history).take count).map UserAccepted.record =
      ((acceptedOf history).take count).map messageRecord := by
  have hconserved := htrack.write.conserved
  rw [htrack.write.processedOf_eq, List.append_assoc] at hconserved
  rw [List.map_take, List.map_take, ← hconserved]
  exact (List.take_append_of_le_length (by rwa [List.length_map])).symm

theorem length_committedOf_le (htrack : SystemTrack readMemory state history) :
    (committedOf history).length ≤ (acceptedOf history).length := by
  have hconserved := congrArg List.length htrack.write.conserved
  rw [htrack.write.processedOf_eq] at hconserved
  simp only [List.length_append, List.length_map] at hconserved
  omega

/-- What a lookup finds is the value of some messages. -/
theorem readsValue_of_stored {entries : List Byte → Option (List Byte)}
    {stored : List UserAccepted} (hstored : Stored entries stored)
    {msgs : List (List Byte)}
    (hrecords : stored.map UserAccepted.record = msgs.map messageRecord)
    {answer : Answer} (hanswer : answer.record = storedRecord entries answer.iid) :
    ReadsValue answer msgs := by
  rw [ReadsValue, hanswer, hstored, storedRecord_entries, hrecords, List.map_map]
  rfl

theorem prefixConsistent (htrack : SystemTrack readMemory state history) :
    PrefixConsistent history := by
  obtain ⟨exchanges, queue, found, inHand, -, hmatched, -⟩ := htrack.read.serves
  have hlookups := htrack.lookups
  rw [hmatched.lookups_eq] at hlookups
  rw [PrefixConsistent, answersFor_eq hmatched.requests_eq hmatched.answers_eq]
  apply hlookups.of_append.transfer htrack.length_committedOf_le
  intro exchange hexchange count hcount hstored
  exact readsValue_of_stored hstored (htrack.committed_take hcount)
    (hmatched.correct exchange hexchange).filled

end SystemTrack

/-! ## Runs of the system -/

/-- A message has a header; a request fits into a slot, and its header claims
enough to bring the number and the length to the thread, and no more than a
slot. -/
def SystemAction.Meets : SystemAction → Prop
  | .writeMessage msg => sizeofPaxosAccepted ≤ msg.length
  | .readRequest msg => Readable msg
  | .writeThread _ => True
  | .readThread _ => True

theorem sharedDatabase_step {readMemory : DeviceMemory} (state : System)
    (history : List Event) (action : SystemAction)
    (htrack : SystemTrack readMemory state history) (haction : action.Meets) :
    ∃ next events, sharedDatabase state action = .ok (next, events) ∧
      SystemTrack readMemory next (history ++ events) := by
  cases action with
  | writeMessage msg => exact htrack.writeMessage haction
  | readRequest msg => exact htrack.readRequest haction
  | writeThread pointer => exact htrack.writeThread pointer
  | readThread pointer => exact htrack.readThread pointer

/-- For every interleaving of messages, readable requests and steps of the two
threads: the answers read beginnings of the accepted messages that never
shrink. -/
theorem sharedDatabase_prefixConsistent (writeMemory readMemory : DeviceMemory)
    (writeRecv readRecv : Block slotSize) {actions : List SystemAction}
    (hactions : ∀ action ∈ actions, action.Meets) :
    ∃ last events,
      run sharedDatabase
        (System.start writeMemory readMemory writeRecv readRecv) actions =
          .ok (last, events) ∧
      PrefixConsistent events := by
  obtain ⟨last, events, hrun, htrack⟩ := run_of_invariant
    (SystemTrack readMemory) SystemAction.Meets
    (fun state history action => sharedDatabase_step state history action)
    (SystemTrack.start writeMemory readMemory writeRecv readRecv) hactions
  exact ⟨last, events, hrun, htrack.prefixConsistent⟩

/-- A message is stored, and a request for its number is answered; then a
second request is served, for which the thread takes five steps. -/
def readAfterRead (second : List Byte) : List SystemAction :=
  [.writeMessage (headerBytes 7 0)] ++
    List.replicate 4 (.writeThread 4096) ++
    [.readRequest (headerBytes 7 0)] ++
    List.replicate 5 (.readThread 4096) ++
    [.readRequest second] ++
    List.replicate 5 (.readThread 4096)

theorem sharedDatabase_prefixConsistent_sample :
    (∀ action ∈ readAfterRead (headerBytes 9 0), action.Meets) ∧
    ∃ last events,
      run sharedDatabase (System.start zeroMemory zeroMemory
        (Block.zero slotSize) (Block.zero slotSize))
        (readAfterRead (headerBytes 9 0)) = .ok (last, events) ∧
      PrefixConsistent events := by
  have hwrite : sizeofPaxosAccepted ≤ (headerBytes 7 0).length := by
    decide +kernel
  have hfirst : Readable (headerBytes 7 0) := by
    constructor <;> decide +kernel
  have hsecond : Readable (headerBytes 9 0) := by
    constructor <;> decide +kernel
  have hactions : ∀ action ∈ readAfterRead (headerBytes 9 0), action.Meets := by
    intro action haction
    simp only [readAfterRead, List.mem_append, List.mem_singleton,
      List.mem_replicate] at haction
    rcases haction with
      ((((rfl | ⟨-, rfl⟩) | rfl) | ⟨-, rfl⟩) | rfl) | ⟨-, rfl⟩
    · exact hwrite
    · trivial
    · exact hfirst
    · trivial
    · exact hsecond
    · trivial
  exact ⟨hactions, sharedDatabase_prefixConsistent zeroMemory zeroMemory
    (Block.zero slotSize) (Block.zero slotSize) hactions⟩

/-- What was accepted and what was read in a run from the start. -/
def observedReads (actions : List SystemAction) :
    Option (List (List Byte) × List Answer) :=
  match run sharedDatabase (System.start zeroMemory zeroMemory
    (Block.zero slotSize) (Block.zero slotSize)) actions with
  | .ok (_, events) => some (acceptedOf events, answersFor events)
  | .error _ => none

/-- The second request is for number 9, under which nothing is stored, and its
header claims -36 bytes: it is answered with the record of number 7. -/
theorem foreignRecord_not_prefixConsistent :
    ∃ last events,
      run sharedDatabase (System.start zeroMemory zeroMemory
        (Block.zero slotSize) (Block.zero slotSize))
        (readAfterRead (headerBytes 9 (-36))) = .ok (last, events) ∧
      ¬ PrefixConsistent events := by
  have hobserved : observedReads (readAfterRead (headerBytes 9 (-36))) =
      some ([headerBytes 7 0],
        [⟨0, 7, messageRecord (headerBytes 7 0)⟩,
          ⟨1, 9, messageRecord (headerBytes 7 0)⟩]) := by
    decide +kernel
  rw [observedReads] at hobserved
  split at hobserved
  · rename_i last events hrun
    refine ⟨last, events, hrun, ?_⟩
    obtain ⟨haccepted, hreads⟩ := Prod.mk.inj (Option.some.inj hobserved)
    rintro ⟨counts, -, hexplained⟩
    rw [haccepted, hreads] at hexplained
    obtain ⟨_, _, -, hlater, -⟩ := List.forall₂_cons_left_iff.mp hexplained
    obtain ⟨count, _, ⟨hcount, hvalue⟩, -, -⟩ :=
      List.forall₂_cons_left_iff.mp hlater
    have hnone : ∀ count < 2, messageRecord (headerBytes 7 0) ≠
        (valueMap ([headerBytes 7 0].take count) 9).getD PaxosRecord.zeroed := by
      decide +kernel
    exact hnone count (Nat.lt_succ_of_le hcount) hvalue
  · exact nomatch hobserved

end PaxosPersistence.SharedDatabase
