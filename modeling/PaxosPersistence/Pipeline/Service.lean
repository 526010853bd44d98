import PaxosPersistence.Core.Progress
import PaxosPersistence.Pipeline.Restarts

/-!
# What a running thread achieves

A thread that runs, has not been told to stop and has not been aborted serves
its ring: the writer stores a message in four steps, the reader answers a
request in five.  These bounds hold whatever the producers, the other thread
and its restarts do in between, as long as the thread is not ended and, for the
writer, its database calls succeed.  Together they bound the time from a message
to an answer that shows it.
-/

namespace PaxosPersistence.Service

open PaxosPersistence.ByteBlock
open PaxosPersistence.DurableMap
open PaxosPersistence.KernelDevice
open PaxosPersistence.LmdbOperations
open PaxosPersistence.Machine
open PaxosPersistence.Memory
open PaxosPersistence.PaxosTypes
open PaxosPersistence.Progress
open PaxosPersistence.ReadPersistence
open PaxosPersistence.ReadSide
open PaxosPersistence.Restarts
open PaxosPersistence.StorageThread
open PaxosPersistence.TransactionalMap
open PaxosPersistence.UserStorage
open PaxosPersistence.WriteSide

/-- The thread goes round its loop. -/
structure Serves (port : Port) : Prop where
  running : port.running = true
  stop : port.stop = false
  stage : port.side.thread.stage ≠ .aborted

/-- The steps a thread has taken since the top of its loop. -/
def offset : Stage → ℕ
  | .polling => 0
  | .reading => 1
  | .decoding => 2
  | .processing _ => 3
  | .answering .. => 4
  | .aborted => 0

theorem Serves.threadStep_eq {port : Port} (hserves : Serves port)
    (isRead : Bool) (database : Database) (codes : MdbCodes) (pointer : Addr) :
    port.threadStep isRead database codes pointer = do
      let (side, database, events) ←
        genericStorageThread isRead port.side database codes pointer
      return ({ port with side }, database, events) := by
  unfold Port.threadStep
  split
  · rename_i hidle
    exact absurd (hserves.running.symm.trans hidle) (Bool.false_ne_true ·.symm)
  · rename_i hstop _
    exact absurd (hserves.stop.symm.trans hstop) Bool.false_ne_true
  · rfl

/-! ## The writer -/

section Writer

variable {side : Side} {queue : List (List Byte)} {held : Option (List Byte)}
variable {database : Database}

/-- A successful step moves the writer on by one, or finishes a round with a
store, unless there is nothing to do. -/
theorem writer_advances (hside : WriteSideHolds side queue held)
    (hsettled : database.Settled) (hstage : side.thread.stage ≠ .aborted)
    {next : Side} {after : Database} {events : List Event} {pointer : Addr}
    (hstep : genericStorageThread false side database MdbCodes.success pointer =
      .ok (next, after, events)) :
    next.thread.stage ≠ .aborted ∧
      ((events = [] ∧
          offset next.thread.stage = offset side.thread.stage + 1) ∨
        (events ≠ [] ∧ offset side.thread.stage + 1 = 4 ∧
          offset next.thread.stage = 0) ∨
        (events = [] ∧ queue = [] ∧ held = none)) := by
  cases hcase : side.thread.stage with
  | polling =>
      obtain ⟨other, hother, hnext, hreading⟩ :=
        hside.poll hcase database MdbCodes.success pointer
      cases hother.symm.trans hstep
      have hheld := hside.stage
      rw [hcase] at hheld
      by_cases hqueue : queue = []
      · refine ⟨?_, Or.inr (Or.inr ⟨rfl, hqueue, hheld⟩)⟩
        intro habort
        rw [genericStorageThread, hcase] at hstep
        cases hstep
        revert habort
        change (if side.device.devicePoll then Stage.reading else .polling) ≠ _
        split <;> simp
      · rw [hreading hqueue]
        exact ⟨by simp, Or.inl ⟨rfl, rfl⟩⟩
  | reading =>
      obtain ⟨other, msg, rest, -, -, hother, -, hdecoding⟩ :=
        hside.read hcase database MdbCodes.success pointer
      cases hother.symm.trans hstep
      rw [hdecoding]
      exact ⟨by simp, Or.inl ⟨rfl, rfl⟩⟩
  | decoding =>
      obtain ⟨other, message, hother, -, hprocessing⟩ :=
        hside.decode hcase database MdbCodes.success pointer
      cases hother.symm.trans hstep
      rw [hprocessing]
      exact ⟨by simp, Or.inl ⟨rfl, rfl⟩⟩
  | processing message =>
      have hholds := hside.stage
      rw [hcase] at hholds
      obtain ⟨msg, -, -, hsized⟩ := hholds
      obtain ⟨stored, hput, -, -⟩ :=
        storagePut_success hside.txn_eq hsettled hsized.len_nonneg
      simp only [genericStorageThread, hcase, processWriteMessage, hput,
        Bool.false_eq_true, if_false, if_true] at hstep
      cases hstep
      refine ⟨?_, Or.inr (Or.inl ⟨List.cons_ne_nil _ _, rfl, rfl⟩)⟩
      change Stage.polling ≠ .aborted
      simp
  | answering frame count =>
      have hholds := hside.stage
      rw [hcase] at hholds
      exact hholds.elim
  | aborted => exact absurd hcase hstage

/-- Steps that neither fail the writer nor end it. -/
def SparesWriter : SystemAction → Prop
  | .writeThread codes _ => codes = MdbCodes.success
  | .stopWriter => False
  | .killWriter => False
  | _ => True

def SystemAction.isWriter : SystemAction → Bool
  | .writeThread .. => true
  | _ => false

/-- Since the state `first` the writer has only stored what waited. -/
structure WriterServes (memory : DeviceMemory) (first : Abstract)
    (state : System) (window : List SessionEvent) : Prop where
  related : ∃ abs, Explained first window abs ∧ Related memory state abs
  serves : Serves state.write
  kept : ∀ event ∈ window, label event ≠ .dropWrites ∧
    ∀ key value, label event ≠ .discard key value

/-- What was committed are the first of the waiting writes and of the writes
accepted since. -/
theorem WriterServes.committed_append {memory : DeviceMemory}
    {first abs : Abstract} {state : System} {window : List SessionEvent}
    (hserves : WriterServes memory first state window)
    (hexplains : Explained first window abs) :
    committedIn label window ++ abs.waiting =
      first.waiting ++ writtenIn label window := by
  rw [← endedIn_eq_committedIn fun event hevent => (hserves.kept event hevent).2]
  exact hexplains.ended_append_waiting fun event hevent =>
    (hserves.kept event hevent).1

/-- The event ends no write. -/
structure SparesWrites (event : SessionEvent) : Prop where
  commit : ∀ key value, label event ≠ .commit key value
  discard : ∀ key value, label event ≠ .discard key value
  dropWrites : label event ≠ .dropWrites

/-- Whoever else acts, the writer and what it has done stay as they are. -/
theorem write_unchanged {memory : DeviceMemory} {abs : Abstract}
    {state next : System} {action : SystemAction} {events : List SessionEvent}
    (hrelated : Related memory state abs) (hserves : Serves state.write)
    (hspares : SparesWriter action)
    (hother : SystemAction.isWriter action = false)
    (hstep : restarts state action = .ok (next, events)) :
    next.write.running = state.write.running ∧
      next.write.stop = state.write.stop ∧
      next.write.side.thread = state.write.side.thread ∧
      ∀ event ∈ events, SparesWrites event := by
  cases action with
  | writeMessage msg =>
      obtain ⟨⟨device, callback⟩, -, hreturned⟩ := bind_eq_ok.mp hstep
      cases hreturned
      refine ⟨rfl, rfl, rfl, ?_⟩
      intro event hevent
      rw [List.mem_singleton.mp hevent, admission]
      split
      · constructor <;> simp [label]
      · constructor <;> simp [label]
  | readRequest msg =>
      obtain ⟨⟨device, callback⟩, -, hreturned⟩ := bind_eq_ok.mp hstep
      cases hreturned
      refine ⟨rfl, rfl, rfl, ?_⟩
      intro event hevent
      cases callback with
      | none => simp [ReadPipeline.request] at hevent
      | some slot =>
          simp only [ReadPipeline.request, List.map_cons, List.map_nil,
            List.mem_singleton] at hevent
          rw [hevent]
          constructor <;> simp [label]
  | writeThread codes pointer => cases hother
  | readThread pointer =>
      obtain ⟨read, database, shown, rest, seen, hthread, -, -, hprogresses⟩ :=
        hrelated.read.threadStep hrelated.durable pointer
      simp only [restarts, hthread, bind, Except.bind, pure, Except.pure] at hstep
      cases hstep
      refine ⟨rfl, rfl, rfl, ?_⟩
      intro event hevent
      cases hprogresses with
      | silent => cases hevent
      | looked | answered =>
          rw [List.mem_singleton.mp hevent]
          constructor <;> simp [label]
  | stopWriter => exact hspares.elim
  | killWriter => exact hspares.elim
  | closeWriter =>
      have hopen : ¬ state.write.Closes := fun hcloses =>
        absurd (hserves.running.symm.trans hcloses.1) (Bool.false_ne_true ·.symm)
      rw [restarts, if_neg hopen] at hstep
      cases hstep
      exact ⟨rfl, rfl, rfl, by simp⟩
  | openWriter recv =>
      have hbusy : state.write.openFile recv = state.write := by
        apply if_neg
        rw [PaxosKernelDevice.deviceOpen,
          if_pos (hrelated.write.owns hserves.running)]
        exact show -PaxosKernelDevice.ebusy ≠ 0 by decide
      rw [restarts, hbusy] at hstep
      cases hstep
      exact ⟨rfl, rfl, rfl, by simp⟩
  | closeReader =>
      rw [restarts] at hstep
      split at hstep
      · cases hstep
        refine ⟨rfl, rfl, rfl, ?_⟩
        intro event hevent
        rw [List.mem_singleton.mp hevent]
        constructor <;> simp [label]
      · cases hstep
        exact ⟨rfl, rfl, rfl, by simp⟩
  | killReader =>
      cases hstep
      refine ⟨rfl, rfl, rfl, ?_⟩
      intro event hevent
      rw [List.mem_singleton.mp hevent]
      constructor <;> simp [label]
  | stopReader | openReader =>
      cases hstep
      exact ⟨rfl, rfl, rfl, by simp⟩

theorem committedIn_append_of_spares {window events : List SessionEvent}
    (hspares : ∀ event ∈ events, SparesWrites event) :
    committedIn label (window ++ events) = committedIn label window :=
  committedIn_append_of_ne fun event hevent => (hspares event hevent).commit

theorem committedIn_concat_committed (window : List SessionEvent)
    (accepted : UserAccepted) :
    committedIn label (window ++ [.served (.committed accepted)]) =
      committedIn label window ++ [recordEntry accepted] :=
  committedIn_concat_commit rfl

/-- The steps of the writer that are still needed until all of `first` is
stored. -/
def writerRank (first : Abstract) (state : System)
    (window : List SessionEvent) : ℕ :=
  remaining 4 first.waiting.length (committedIn label window).length
    (offset state.write.side.thread.stage)

/-- The writer has no answers to write. -/
theorem offset_lt {port : Port} {waiting : List (Word32 × PaxosRecord)}
    (hport : WriteRelated port waiting) : offset port.side.thread.stage < 4 := by
  obtain ⟨queue, held, hside, -⟩ := hport.side
  have hholds := hside.stage
  cases hcase : port.side.thread.stage with
  | answering frame count =>
      rw [hcase] at hholds
      exact hholds.elim
  | polling | reading | decoding | processing | aborted => simp [offset]

section Window

variable {memory : DeviceMemory} {first : Abstract} {state : System}
variable {window : List SessionEvent}

theorem WriterServes.other (hinv : WriterServes memory first state window)
    {action : SystemAction} (hmeets : action.Meets)
    (hspares : SparesWriter action)
    (hother : SystemAction.isWriter action = false) :
    Descends restarts (WriterServes memory first) (writerRank first)
      SystemAction.isWriter state window action := by
  obtain ⟨abs, hexplains, hrelated⟩ := hinv.related
  obtain ⟨next, events, after, hstep, hmore, hnext⟩ := hrelated.step hmeets
  obtain ⟨hrunning, hstop, hthread, hevents⟩ := write_unchanged hrelated
    hinv.serves hspares hother hstep
  refine ⟨next, events, hstep, ⟨⟨after, hexplains.append hmore, hnext⟩, ⟨?_, ?_, ?_⟩,
    ?_⟩, ?_⟩
  · rw [hrunning]
    exact hinv.serves.running
  · rw [hstop]
    exact hinv.serves.stop
  · rw [hthread]
    exact hinv.serves.stage
  · intro event hevent
    rcases List.mem_append.mp hevent with hold | hnew
    · exact hinv.kept event hold
    · exact ⟨(hevents event hnew).dropWrites, (hevents event hnew).discard⟩
  · rw [hother, writerRank, writerRank, hthread,
      committedIn_append_of_spares hevents]
    exact le_rfl

theorem WriterServes.writer (hinv : WriterServes memory first state window)
    (pointer : Addr) :
    Descends restarts (WriterServes memory first) (writerRank first)
      SystemAction.isWriter state window
        (.writeThread MdbCodes.success pointer) := by
  obtain ⟨abs, hexplains, hrelated⟩ := hinv.related
  obtain ⟨next, events, after, hstep, hmore, hnext⟩ :=
    hrelated.writeThread MdbCodes.success pointer
  obtain ⟨port, database, shown, rest, more, hthread, hport, -, hprogresses⟩ :=
    hrelated.write.threadStep hrelated.durable MdbCodes.success pointer
  obtain ⟨queue, held, hside, hwaiting⟩ := hrelated.write.side
  have hsystem : restarts state (.writeThread MdbCodes.success pointer) =
      .ok ({ state with write := port, database }, shown.map .served) := by
    simp only [restarts, hthread, bind, Except.bind, pure, Except.pure]
  cases hsystem.symm.trans hstep
  rw [hinv.serves.threadStep_eq] at hthread
  obtain ⟨⟨side, stored, events⟩, hgeneric, hreturned⟩ := bind_eq_ok.mp hthread
  cases hreturned
  obtain ⟨hstage, hadvances⟩ := writer_advances hside hrelated.durable.settled
    hinv.serves.stage hgeneric
  have hserves : Serves { state.write with side } :=
    ⟨hinv.serves.running, hinv.serves.stop, hstage⟩
  refine ⟨_, _, hstep, ⟨⟨after, hexplains.append hmore, hnext⟩, hserves, ?_⟩, ?_⟩
  · intro event hevent
    rcases List.mem_append.mp hevent with hold | hnew
    · exact hinv.kept event hold
    · cases hprogresses with
      | silent => cases hnew
      | committed =>
          rw [List.mem_singleton.mp hnew]
          simp [label]
      | failed hcodes => exact absurd rfl hcodes
  · change remaining 4 _ _ (offset side.thread.stage) ≤ writerRank first state window - 1
    cases hprogresses with
    | failed hcodes => exact absurd rfl hcodes
    | committed hhead =>
        rcases hadvances with ⟨hnone, -⟩ | ⟨-, hround, hzero⟩ | ⟨hnone, -⟩
        · cases hnone
        · rw [List.map_singleton, committedIn_concat_committed,
            List.length_append, List.length_singleton, hzero]
          exact remaining_finish hround
        · cases hnone
    | silent =>
        rw [List.map_nil, List.append_nil]
        rcases hadvances with ⟨-, hnext⟩ | ⟨hnone, -⟩ | ⟨-, rfl, rfl⟩
        · rw [hnext, remaining_advance]
          rfl
        · exact absurd rfl hnone
        · -- nothing waits, so that everything has been stored
          have hcommitted := congrArg List.length
            (hinv.committed_append hexplains)
          rw [hwaiting] at hcommitted
          simp only [List.length_append, List.length_map, Option.toList_none,
            List.length_nil] at hcommitted
          rw [remaining_of_done (by omega)]
          exact Nat.zero_le _

end Window

/-- Enough steps of the writer store everything that waits. -/
theorem stored_of_enough {memory : DeviceMemory} {abs : Abstract}
    {state : System} (hrelated : Related memory state abs)
    (hserves : Serves state.write) {more : List SystemAction}
    (hmore : ∀ action ∈ more, action.Meets ∧ SparesWriter action)
    (henough : 4 * (heldRecords state.write.side.thread ++
          ringRecords state.write.side.device).length -
        offset state.write.side.thread.stage ≤
      more.countP SystemAction.isWriter) :
    ∃ last later after, run restarts state more = .ok (last, later) ∧
      Explained abs later after ∧ Related memory last after ∧
      abs.waiting <+: committedIn label later := by
  have hstart : WriterServes memory abs state [] :=
    ⟨⟨abs, .nil, hrelated⟩, hserves, by simp⟩
  have hrank : writerRank abs state [] ≤ more.countP SystemAction.isWriter := by
    rwa [writerRank, remaining, hrelated.write.waiting_eq, List.length_map]
  obtain ⟨last, later, hlater, hinv, hzero⟩ := run_reaches
    (fun state history action hinv hallowed => by
      cases hkind : SystemAction.isWriter action with
      | false => exact hinv.other hallowed.1 hallowed.2 hkind
      | true =>
          cases action with
          | writeThread codes pointer =>
              rw [show codes = MdbCodes.success from hallowed.2]
              exact hinv.writer pointer
          | _ => cases hkind)
    hstart hmore hrank
  rw [List.nil_append] at hinv hzero
  obtain ⟨after, hexplains, hlast⟩ := hinv.related
  refine ⟨last, later, after, hlater, hexplains, hlast, ?_⟩
  have hcommitted := hinv.committed_append hexplains
  have hdone : abs.waiting.length ≤ (committedIn label later).length :=
    le_of_remaining_eq_zero (offset_lt hlast.write) hzero
  apply List.prefix_of_prefix_length_le _ (List.prefix_append _ after.waiting)
    hdone
  rw [hcommitted]
  exact List.prefix_append _ _

end Writer

/-! ## The reader -/

section Reader

/-- The answers among these events. -/
def answersIn (events : List SessionEvent) : ℕ :=
  events.countP fun event => (label event).isAnswer

/-- A step moves the reader on by one, or finishes a round with an answer,
unless there is nothing to do. -/
theorem reader_advances {memory : DeviceMemory} {side : Side}
    {queue : List Request} {found : Option PaxosRecord} {database : Database}
    (hside : ReadSideServes memory side queue found)
    (hsettled : database.Settled) (hstorable : Storable database.entries)
    {next : Side} {after : Database} {events : List Event} {pointer : Addr}
    (hstep : genericStorageThread true side database MdbCodes.success pointer =
      .ok (next, after, events)) :
    (answersIn (events.map .served) = 0 ∧
        offset next.thread.stage = offset side.thread.stage + 1) ∨
      (answersIn (events.map .served) = 1 ∧
        offset side.thread.stage + 1 = 5 ∧ offset next.thread.stage = 0) ∨
      (answersIn (events.map .served) = 0 ∧ queue = []) := by
  cases hcase : side.thread.stage with
  | polling =>
      obtain ⟨other, hother, -, hreading⟩ :=
        hside.poll hcase database MdbCodes.success pointer
      cases hother.symm.trans hstep
      by_cases hqueue : queue = []
      · exact Or.inr (Or.inr ⟨rfl, hqueue⟩)
      · rw [hreading hqueue]
        exact Or.inl ⟨rfl, rfl⟩
  | reading =>
      obtain ⟨other, hother, -, hdecoding⟩ :=
        hside.read hcase database MdbCodes.success pointer
      cases hother.symm.trans hstep
      rw [hdecoding]
      exact Or.inl ⟨rfl, rfl⟩
  | decoding =>
      obtain ⟨other, message, hother, -, hprocessing⟩ :=
        hside.decode hcase database MdbCodes.success pointer
      cases hother.symm.trans hstep
      rw [hprocessing]
      exact Or.inl ⟨rfl, rfl⟩
  | processing message =>
      obtain ⟨other, stored, slot, msg, rest, rfl, rfl, hother, -, -, hnext⟩ :=
        hside.process hcase hsettled hstorable pointer
      cases hother.symm.trans hstep
      -- only a thread with an answer in its hands has looked something up
      have hstage := hnext.stage
      refine Or.inl ⟨rfl, ?_⟩
      cases hafter : next.thread.stage with
      | answering frame count => rfl
      | polling =>
          rw [hafter] at hstage
          cases hstage
      | reading | decoding | processing =>
          rw [hafter] at hstage
          cases hstage.1
      | aborted =>
          rw [hafter] at hstage
          exact hstage.elim
  | answering frame count =>
      obtain ⟨other, slot, msg, rest, record, -, -, hother, -, -⟩ :=
        hside.answer hcase database MdbCodes.success pointer
      cases hother.symm.trans hstep
      simp only [genericStorageThread, hcase] at hother
      obtain ⟨⟨device, ret⟩, -, hreturned⟩ := bind_eq_ok.mp hother
      refine Or.inr (Or.inl ⟨rfl, rfl, ?_⟩)
      rw [← (Prod.mk.inj (Except.ok.inj hreturned)).1]
      rfl
  | aborted =>
      have hserves := hside.stage
      rw [hcase] at hserves
      exact hserves.elim

/-- Steps that do not end the reader. -/
def SparesReader : SystemAction → Prop
  | .stopReader => False
  | .killReader => False
  | _ => True

def SystemAction.isReader : SystemAction → Bool
  | .readThread .. => true
  | _ => false

/-- The event ends no read. -/
structure SparesReads (event : SessionEvent) : Prop where
  answer : (label event).isAnswer = false
  dropReads : (label event).isDropReads = false

/-- Whoever else acts, the reader and what it has done stay as they are. -/
theorem read_unchanged {memory : DeviceMemory} {abs : Abstract}
    {state next : System} {action : SystemAction} {events : List SessionEvent}
    (hrelated : Related memory state abs) (hserves : Serves state.read)
    (hspares : SparesReader action)
    (hother : SystemAction.isReader action = false)
    (hstep : restarts state action = .ok (next, events)) :
    next.read.running = state.read.running ∧
      next.read.stop = state.read.stop ∧
      next.read.side.thread = state.read.side.thread ∧
      ∀ event ∈ events, SparesReads event := by
  cases action with
  | writeMessage msg =>
      obtain ⟨⟨device, callback⟩, -, hreturned⟩ := bind_eq_ok.mp hstep
      cases hreturned
      refine ⟨rfl, rfl, rfl, ?_⟩
      intro event hevent
      rw [List.mem_singleton.mp hevent, admission]
      split
      · exact ⟨rfl, rfl⟩
      · exact ⟨rfl, rfl⟩
  | readRequest msg =>
      obtain ⟨⟨device, callback⟩, -, hreturned⟩ := bind_eq_ok.mp hstep
      cases hreturned
      refine ⟨rfl, rfl, rfl, ?_⟩
      intro event hevent
      cases callback with
      | none => simp [ReadPipeline.request] at hevent
      | some slot =>
          simp only [ReadPipeline.request, List.map_cons, List.map_nil,
            List.mem_singleton] at hevent
          rw [hevent]
          exact ⟨rfl, rfl⟩
  | readThread pointer => cases hother
  | writeThread codes pointer =>
      obtain ⟨write, database, shown, rest, more, hthread, -, -, hprogresses⟩ :=
        hrelated.write.threadStep hrelated.durable codes pointer
      simp only [restarts, hthread, bind, Except.bind, pure, Except.pure] at hstep
      cases hstep
      refine ⟨rfl, rfl, rfl, ?_⟩
      intro event hevent
      cases hprogresses with
      | silent => cases hevent
      | committed | failed =>
          rw [List.mem_singleton.mp hevent]
          exact ⟨rfl, rfl⟩
  | stopReader => exact hspares.elim
  | killReader => exact hspares.elim
  | closeReader =>
      have hopen : ¬ state.read.Closes := fun hcloses =>
        absurd (hserves.running.symm.trans hcloses.1) (Bool.false_ne_true ·.symm)
      rw [restarts, if_neg hopen] at hstep
      cases hstep
      exact ⟨rfl, rfl, rfl, by simp⟩
  | openReader recv =>
      have hbusy : state.read.openFile recv = state.read := by
        apply if_neg
        rw [PaxosKernelDevice.deviceOpen,
          if_pos (hrelated.read.owns hserves.running)]
        exact show -PaxosKernelDevice.ebusy ≠ 0 by decide
      rw [restarts, hbusy] at hstep
      cases hstep
      exact ⟨rfl, rfl, rfl, by simp⟩
  | closeWriter =>
      rw [restarts] at hstep
      split at hstep
      · cases hstep
        refine ⟨rfl, rfl, rfl, ?_⟩
        intro event hevent
        rw [List.mem_singleton.mp hevent]
        exact ⟨rfl, rfl⟩
      · cases hstep
        exact ⟨rfl, rfl, rfl, by simp⟩
  | killWriter =>
      cases hstep
      refine ⟨rfl, rfl, rfl, ?_⟩
      intro event hevent
      rw [List.mem_singleton.mp hevent]
      cases heldRecords state.write.side.thread with
      | nil => exact ⟨rfl, rfl⟩
      | cons => exact ⟨rfl, rfl⟩
  | stopWriter | openWriter =>
      cases hstep
      exact ⟨rfl, rfl, rfl, by simp⟩

/-- Since the state `first` the reader has answered and nothing has dropped its
requests. -/
structure ReaderServes (memory : DeviceMemory) (first : Abstract)
    (state : System) (window : List SessionEvent) : Prop where
  related : ∃ abs, Explained first window abs ∧ Related memory state abs
  serves : Serves state.read
  kept : ∀ event ∈ window, (label event).isDropReads = false

/-- The steps of the reader that are still needed until all requests of `first`
are answered. -/
def readerRank (first : Abstract) (state : System)
    (window : List SessionEvent) : ℕ :=
  remaining 5 first.reads.length (answersIn window)
    (offset state.read.side.thread.stage)

theorem answersIn_append (window events : List SessionEvent) :
    answersIn (window ++ events) = answersIn window + answersIn events :=
  List.countP_append

theorem answersIn_of_spares {events : List SessionEvent}
    (hspares : ∀ event ∈ events, SparesReads event) : answersIn events = 0 := by
  apply List.countP_eq_zero.mpr
  intro event hevent
  rw [(hspares event hevent).answer]
  exact Bool.false_ne_true

section Window

variable {memory : DeviceMemory} {first : Abstract} {state : System}
variable {window : List SessionEvent}

theorem ReaderServes.other (hinv : ReaderServes memory first state window)
    {action : SystemAction} (hmeets : action.Meets)
    (hspares : SparesReader action)
    (hother : SystemAction.isReader action = false) :
    Descends restarts (ReaderServes memory first) (readerRank first)
      SystemAction.isReader state window action := by
  obtain ⟨abs, hexplains, hrelated⟩ := hinv.related
  obtain ⟨next, events, after, hstep, hmore, hnext⟩ := hrelated.step hmeets
  obtain ⟨hrunning, hstop, hthread, hevents⟩ := read_unchanged hrelated
    hinv.serves hspares hother hstep
  refine ⟨next, events, hstep, ⟨⟨after, hexplains.append hmore, hnext⟩,
    ⟨?_, ?_, ?_⟩, ?_⟩, ?_⟩
  · rw [hrunning]
    exact hinv.serves.running
  · rw [hstop]
    exact hinv.serves.stop
  · rw [hthread]
    exact hinv.serves.stage
  · intro event hevent
    rcases List.mem_append.mp hevent with hold | hnew
    · exact hinv.kept event hold
    · exact (hevents event hnew).dropReads
  · rw [hother, readerRank, readerRank, hthread, answersIn_append,
      answersIn_of_spares hevents]
    exact le_rfl

theorem ReaderServes.reader (hinv : ReaderServes memory first state window)
    (pointer : Addr) :
    Descends restarts (ReaderServes memory first) (readerRank first)
      SystemAction.isReader state window (.readThread pointer) := by
  obtain ⟨abs, hexplains, hrelated⟩ := hinv.related
  obtain ⟨next, events, after, hstep, hmore, hnext⟩ :=
    hrelated.readThread pointer
  obtain ⟨port, database, shown, rest, seen, hthread, -, -, hprogresses⟩ :=
    hrelated.read.threadStep hrelated.durable pointer
  obtain ⟨queue, found, hside, hreads, -⟩ := hrelated.read.side
  have hsystem : restarts state (.readThread pointer) =
      .ok ({ state with read := port, database }, shown.map .served) := by
    simp only [restarts, hthread, bind, Except.bind, pure, Except.pure]
  cases hsystem.symm.trans hstep
  rw [hinv.serves.threadStep_eq] at hthread
  obtain ⟨⟨side, stored, events⟩, hgeneric, hreturned⟩ := bind_eq_ok.mp hthread
  cases hreturned
  have hadvances := reader_advances hside hrelated.durable.settled
    hrelated.durable.storable hgeneric
  have hstage : side.thread.stage ≠ .aborted := by
    obtain ⟨nextQueue, nextFound, hserves, -⟩ := hnext.read.side
    intro habort
    have hstage := hserves.stage
    rw [habort] at hstage
    exact hstage
  refine ⟨_, _, hstep, ⟨⟨after, hexplains.append hmore, hnext⟩,
    ⟨hinv.serves.running, hinv.serves.stop, hstage⟩, ?_⟩, ?_⟩
  · intro event hevent
    rcases List.mem_append.mp hevent with hold | hnew
    · exact hinv.kept event hold
    · cases hprogresses with
      | silent => cases hnew
      | looked | answered =>
          rw [List.mem_singleton.mp hnew]
          rfl
  · change remaining 5 _ _ (offset side.thread.stage) ≤
      readerRank first state window - 1
    rw [answersIn_append]
    rcases hadvances with ⟨hnone, hon⟩ | ⟨hone, hround, hzero⟩ | ⟨hnone, rfl⟩
    · rw [hnone, hon, Nat.add_zero, remaining_advance]
      exact le_rfl
    · rw [hone, hzero]
      exact remaining_finish hround
    · -- nothing is pending, so that everything has been answered
      have hcount := hexplains.length_reads hinv.kept
      rw [hreads, List.map_nil, List.length_nil, Nat.zero_add] at hcount
      have hdone : first.reads.length ≤ answersIn window := by
        rw [answersIn, hcount]
        exact Nat.le_add_right _ _
      rw [remaining_of_done (by omega)]
      exact Nat.zero_le _

end Window

theorem reader_offset_lt (stage : Stage) : offset stage < 5 := by
  cases stage <;> simp [offset]

/-- Enough steps of the reader answer every pending request. -/
theorem answered_of_enough {memory : DeviceMemory} {abs : Abstract}
    {state : System} (hrelated : Related memory state abs)
    (hserves : Serves state.read) {more : List SystemAction}
    (hmore : ∀ action ∈ more, action.Meets ∧ SparesReader action)
    (henough : 5 * state.read.side.device.usedBuf.toNat -
        offset state.read.side.thread.stage ≤
      more.countP SystemAction.isReader) :
    ∃ last later after, run restarts state more = .ok (last, later) ∧
      Explained abs later after ∧
      (∀ event ∈ later, (label event).isDropReads = false) ∧
      abs.reads.length ≤ answersIn later := by
  have hstart : ReaderServes memory abs state [] :=
    ⟨⟨abs, .nil, hrelated⟩, hserves, by simp⟩
  have hrank : readerRank abs state [] ≤ more.countP SystemAction.isReader := by
    rw [hrelated.read.usedBuf_eq, Int.toNat_natCast] at henough
    exact henough
  obtain ⟨last, later, hlater, hinv, hzero⟩ := run_reaches
    (fun state history action hinv hallowed => by
      cases hkind : SystemAction.isReader action with
      | false => exact hinv.other hallowed.1 hallowed.2 hkind
      | true =>
          cases action with
          | readThread pointer => exact hinv.reader pointer
          | _ => cases hkind)
    hstart hmore hrank
  rw [List.nil_append] at hinv hzero
  obtain ⟨after, hexplains, -⟩ := hinv.related
  exact ⟨last, later, after, hlater, hexplains, hinv.kept,
    le_of_remaining_eq_zero (reader_offset_lt _) hzero⟩

theorem eq_readReleased_of_label {event : SessionEvent}
    (hlabel : (label event).isDropReads = true) : event = .readReleased := by
  unfold label at hlabel
  split at hlabel <;> first | rfl | cases hlabel

theorem isDropReads_eq_false {events : List SessionEvent}
    (hreleased : .readReleased ∉ events) :
    ∀ event ∈ events, (label event).isDropReads = false := by
  intro event hevent
  by_contra hdrop
  apply hreleased
  rw [← eq_readReleased_of_label (Bool.not_eq_false _ ▸ hdrop)]
  exact hevent

/-- The request made there has an answer of its own, with what is stored at a
lookup made after it. -/
def AnsweredWith (before : List SessionEvent) (request : SessionEvent)
    (iid : Word32) (after : List SessionEvent) : Prop :=
  ∃ log, AnsweredFrom respond label before request iid log after

/-- A request whose device has not been released is answered once all requests
pending at a later moment are. -/
theorem answeredWith_of_le {abs last : Abstract}
    {before after later : List SessionEvent} {request : SessionEvent}
    {iid : Word32}
    (hexplains : Explained (State.empty Word32 PaxosRecord)
      (before ++ request :: after) abs)
    (hlater : Explained abs later last)
    (hrequest : label request = .request iid)
    (hafter : ∀ event ∈ after, (label event).isDropReads = false)
    (hkept : ∀ event ∈ later, (label event).isDropReads = false)
    (hanswers : abs.reads.length ≤ answersIn later) :
    AnsweredWith before request iid (after ++ later) := by
  obtain ⟨first, hbefore, hsince⟩ := hexplains.of_append
  have hkept' : ∀ event ∈ request :: after,
      (label event).isDropReads = false := by
    intro event hevent
    rcases List.mem_cons.mp hevent with rfl | htail
    · rw [hrequest]
      rfl
    · exact hafter event htail
  have hcount := hsince.length_reads hkept'
  rw [List.countP_cons, List.countP_cons, hrequest,
    if_pos (show (Label.request iid).isRequest = true from rfl),
    if_neg (show ¬ (Label.request iid).isAnswer = true from
      Bool.false_ne_true)] at hcount
  have hwhole : Explained (State.empty Word32 PaxosRecord)
      (before ++ request :: (after ++ later)) last := by
    have hall := hexplains.append hlater
    rwa [List.append_assoc, List.cons_append] at hall
  refine hbefore.answered hwhole hrequest ?_ ?_
  · intro event hevent
    rcases List.mem_append.mp hevent with hold | hnew
    · exact hafter event hold
    · exact hkept event hnew
  · rw [answersIn] at hanswers
    rw [List.countP_append]
    omega

end Reader

/-! ## Bounds for whole runs -/

/-- Where a run from the start comes to, on memory that happens to be zero. -/
def visited (actions : List SystemAction) : System × List SessionEvent :=
  match run restarts (System.start zeroMemory zeroMemory) actions with
  | .ok result => result
  | .error _ => (System.start zeroMemory zeroMemory, [])

theorem run_visited {actions : List SystemAction}
    (hactions : ∀ action ∈ actions, action.Meets) :
    run restarts (System.start zeroMemory zeroMemory) actions =
      .ok ((visited actions).1, (visited actions).2) := by
  obtain ⟨last, events, abs, hrun, -⟩ :=
    Related.run hactions zeroMemory zeroMemory
  rw [visited, hrun]

theorem run_visited_append {first second : List SystemAction}
    (hfirst : ∀ action ∈ first, action.Meets)
    (hall : ∀ action ∈ first ++ second, action.Meets) :
    ∃ shown, run restarts (visited first).1 second =
      .ok ((visited (first ++ second)).1, shown) := by
  obtain ⟨state, events, shown, hstate, hlater, -⟩ :=
    run_append_eq_ok.mp (run_visited hall)
  obtain ⟨rfl, -⟩ :=
    Prod.mk.inj (Except.ok.inj (hstate.symm.trans (run_visited hfirst)))
  exact ⟨shown, hlater⟩

/-- Both threads run, and a message has been accepted. -/
def openActions : List SystemAction :=
  [SystemAction.openWriter (Block.zero slotSize),
    SystemAction.openReader (Block.zero slotSize),
    SystemAction.writeMessage (headerBytes 7 0)]

/-- The writer stores it while another one comes. -/
def storeActions : List SystemAction :=
  [SystemAction.writeMessage (headerBytes 8 0)] ++
    List.replicate 4 (SystemAction.writeThread MdbCodes.success 4096)

/-- The reader answers. -/
def answerActions : List SystemAction :=
  List.replicate 5 (SystemAction.readThread 4096)

theorem headerBytes_meets (iid : Word32) :
    SystemAction.Meets (.writeMessage (headerBytes iid 0)) := by
  change sizeofPaxosAccepted ≤ (headerBytes iid 0).length
  simp [headerBytes, sizeofPaxosAccepted]

theorem openActions_meets : ∀ action ∈ openActions, action.Meets := by
  intro action haction
  simp only [openActions, List.mem_cons, List.not_mem_nil, or_false] at haction
  rcases haction with rfl | rfl | rfl
  · trivial
  · trivial
  · exact headerBytes_meets 7

theorem storeActions_meets :
    ∀ action ∈ storeActions, action.Meets ∧ SparesWriter action := by
  intro action haction
  simp only [storeActions, List.mem_append, List.mem_singleton,
    List.mem_replicate] at haction
  rcases haction with rfl | ⟨-, rfl⟩
  · exact ⟨headerBytes_meets 8, trivial⟩
  · exact ⟨trivial, rfl⟩

theorem answerActions_meets :
    ∀ action ∈ answerActions, action.Meets ∧ SparesReader action := by
  intro action haction
  rw [List.eq_of_mem_replicate haction]
  exact ⟨trivial, trivial⟩

def isAborted : Stage → Bool
  | .aborted => true
  | _ => false

theorem ne_aborted {stage : Stage} (hstage : isAborted stage = false) :
    stage ≠ .aborted := by
  rintro rfl
  cases hstage

/-- A request that finds room is accepted, and the reader goes on as before. -/
theorem readRequest_accepted {state : System} {msg : List Byte}
    (hfree : state.read.side.device.usedBuf < bufferSize)
    (hreadable : Readable msg) :
    ∃ asked slot device next, restarts state (.readRequest msg) =
        .ok (asked, [.served (.requested slot msg device next)]) ∧
      (Serves state.read → Serves asked.read) ∧
      asked.read.side.thread = state.read.side.thread ∧
      asked.read.side.device.usedBuf =
        atomicInc state.read.side.device.usedBuf := by
  obtain ⟨block, -, hadd⟩ := readPersistenceAddMessage_eq hfree hreadable.fits
  let next := state.read.side.device.enqueue block
  refine ⟨{ state with read := { state.read with
      side := { state.read.side with device := next } } },
    state.read.side.device.currentBuf, state.read.side.device, next, ?_,
    fun hserves => ⟨hserves.running, hserves.stop, hserves.stage⟩, rfl, rfl⟩
  simp only [restarts, hadd, bind, Except.bind, pure, Except.pure]
  rfl

/-- A request for the number of the first message, made when it is stored. -/
def askActions : List SystemAction :=
  openActions ++ storeActions ++ [SystemAction.readRequest (headerBytes 7 0)]

theorem readable_headerBytes : Readable (headerBytes 7 0) := by
  constructor <;> decide +kernel

theorem stored_meets :
    ∀ action ∈ openActions ++ storeActions, action.Meets := by
  intro action haction
  rcases List.mem_append.mp haction with hopen | hstore
  · exact openActions_meets action hopen
  · exact (storeActions_meets action hstore).1

theorem askActions_meets : ∀ action ∈ askActions, action.Meets := by
  intro action haction
  rcases List.mem_append.mp haction with hstored | hask
  · exact stored_meets action hstored
  · rw [List.mem_singleton.mp hask]
    exact readable_headerBytes

theorem openActions_serves : Serves (visited openActions).1.write where
  running := by decide +kernel
  stop := by decide +kernel
  stage := ne_aborted (by decide +kernel)

section Bounds

variable {writeMemory readMemory : DeviceMemory}
variable {actions more : List SystemAction}
variable {state : System} {events : List SessionEvent}

theorem related_of_run (hactions : ∀ action ∈ actions, action.Meets)
    (hrun : run restarts (System.start writeMemory readMemory) actions =
      .ok (state, events)) :
    ∃ abs, Explained (State.empty Word32 PaxosRecord) events abs ∧
      Related readMemory state abs := by
  obtain ⟨other, shown, abs, hother, hexplains, hrelated⟩ :=
    Related.run hactions writeMemory readMemory
  cases hother.symm.trans hrun
  exact ⟨abs, hexplains, hrelated⟩

theorem stored_serves :
    Serves (visited (openActions ++ storeActions)).1.read where
  running := by decide +kernel
  stop := by decide +kernel
  stage := ne_aborted (by decide +kernel)

theorem stored_enough :
    5 * (atomicInc (visited (openActions ++
        storeActions)).1.read.side.device.usedBuf).toNat -
      offset (visited (openActions ++ storeActions)).1.read.side.thread.stage ≤
        answerActions.countP SystemAction.isReader := by
  decide +kernel

/-- From every state of every run: once a writer that serves its ring has taken
four steps for every record in its hands and in its ring, less those already
taken, all of them are stored, in order and before everything accepted since,
whatever the producers, the reader and its restarts have done meanwhile. -/
theorem writer_stores (hactions : ∀ action ∈ actions, action.Meets)
    (hrun : run restarts (System.start writeMemory readMemory) actions =
      .ok (state, events)) (hserves : Serves state.write)
    (hmore : ∀ action ∈ more, action.Meets ∧ SparesWriter action)
    (henough : 4 * (heldRecords state.write.side.thread ++
          ringRecords state.write.side.device).length -
        offset state.write.side.thread.stage ≤
      more.countP SystemAction.isWriter) :
    ∃ last later, run restarts state more = .ok (last, later) ∧
      (heldRecords state.write.side.thread ++
        ringRecords state.write.side.device).map entryOf <+:
          committedIn label later := by
  obtain ⟨abs, -, hrelated⟩ := related_of_run hactions hrun
  obtain ⟨last, later, after, hlater, -, -, hstored⟩ :=
    stored_of_enough hrelated hserves hmore henough
  rw [hrelated.write.waiting_eq] at hstored
  exact ⟨last, later, hlater, hstored⟩

theorem writer_stores_sample :
    ∃ last later,
      run restarts (visited openActions).1 storeActions = .ok (last, later) ∧
      (heldRecords (visited openActions).1.write.side.thread ++
        ringRecords (visited openActions).1.write.side.device).map entryOf <+:
          committedIn label later :=
  writer_stores openActions_meets (run_visited openActions_meets)
    openActions_serves storeActions_meets (by decide +kernel)

/-- From every state of every run: once a reader that serves its ring has taken
five steps for every pending request, less those already taken, each request
made since the last release is answered, with what was stored at a lookup made
after it. -/
theorem reader_answers (hactions : ∀ action ∈ actions, action.Meets)
    (hrun : run restarts (System.start writeMemory readMemory) actions =
      .ok (state, events)) (hserves : Serves state.read)
    (hmore : ∀ action ∈ more, action.Meets ∧ SparesReader action)
    (henough : 5 * state.read.side.device.usedBuf.toNat -
        offset state.read.side.thread.stage ≤
      more.countP SystemAction.isReader) :
    ∃ last later, run restarts state more = .ok (last, later) ∧
      ∀ before slot msg device next after, events =
          before ++ .served (.requested slot msg device next) :: after →
        .readReleased ∉ after →
        AnsweredWith before (.served (.requested slot msg device next))
          (requestHeader msg).iid (after ++ later) := by
  obtain ⟨abs, hexplains, hrelated⟩ := related_of_run hactions hrun
  obtain ⟨last, later, final, hlater, hmoreExplained, hkept, hanswers⟩ :=
    answered_of_enough hrelated hserves hmore henough
  refine ⟨last, later, hlater, ?_⟩
  rintro before slot msg device next after rfl hreleased
  exact answeredWith_of_le hexplains hmoreExplained rfl
    (isDropReads_eq_false hreleased) hkept hanswers

theorem reader_answers_sample :
    ∃ last later,
      run restarts (visited askActions).1 answerActions = .ok (last, later) ∧
      ∀ before slot msg device next after, (visited askActions).2 =
          before ++ .served (.requested slot msg device next) :: after →
        .readReleased ∉ after →
        AnsweredWith before (.served (.requested slot msg device next))
          (requestHeader msg).iid (after ++ later) :=
  reader_answers askActions_meets (run_visited askActions_meets)
    ⟨by decide +kernel, by decide +kernel, ne_aborted (by decide +kernel)⟩
    answerActions_meets (by decide +kernel)

/-- A message is visible within bounded time: of what the write side has accepted
or stored when the writer begins to take enough steps, nothing is missing in
what is stored at the lookup from which a request made after them is answered,
once the reader has taken enough steps of its own. -/
theorem accepted_visible {during after : List SystemAction}
    {middle asked : System} {shown : List SessionEvent}
    {slot : SlotId} {msg : List Byte} {device next : PaxosKernelDevice}
    (hactions : ∀ action ∈ actions, action.Meets)
    (hrun : run restarts (System.start writeMemory readMemory) actions =
      .ok (state, events)) (hwriter : Serves state.write)
    (hduring : ∀ action ∈ during, action.Meets ∧ SparesWriter action)
    (hstores : 4 * (heldRecords state.write.side.thread ++
          ringRecords state.write.side.device).length -
        offset state.write.side.thread.stage ≤
      during.countP SystemAction.isWriter)
    (hmiddle : run restarts state during = .ok (middle, shown))
    (hreadable : Readable msg)
    (hrequest : restarts middle (.readRequest msg) =
      .ok (asked, [.served (.requested slot msg device next)]))
    (hreader : Serves asked.read)
    (hafter : ∀ action ∈ after, action.Meets ∧ SparesReader action)
    (hanswers : 5 * asked.read.side.device.usedBuf.toNat -
        offset asked.read.side.thread.stage ≤
      after.countP SystemAction.isReader) :
    ∃ last later log, run restarts asked after = .ok (last, later) ∧
      AnsweredFrom respond label (events ++ shown)
        (.served (.requested slot msg device next)) (requestHeader msg).iid log
        later ∧
      committedIn label events ++ (heldRecords state.write.side.thread ++
        ringRecords state.write.side.device).map entryOf <+: log := by
  obtain ⟨abs, hexplains, hrelated⟩ := related_of_run hactions hrun
  obtain ⟨middle', shown', waited, hmiddle', hwaited, hrelatedMiddle, hstored⟩ :=
    stored_of_enough hrelated hwriter hduring hstores
  cases hmiddle'.symm.trans hmiddle
  obtain ⟨asked', requested, pending, hasked, hpending, hrelatedAsked⟩ :=
    hrelatedMiddle.step (show SystemAction.Meets (.readRequest msg) from hreadable)
  cases hasked.symm.trans hrequest
  obtain ⟨last, later, final, hlater, hfinal, hkept, hcount⟩ :=
    answered_of_enough hrelatedAsked hreader hafter hanswers
  obtain ⟨log, hanswered⟩ :=
    answeredWith_of_le ((hexplains.append hwaited).append hpending) hfinal
      (show label (.served (.requested slot msg device next)) =
        .request (requestHeader msg).iid from rfl) (by simp) hkept hcount
  refine ⟨last, later, log, hlater, hanswered, ?_⟩
  have hdurable : committedIn label events ++ abs.waiting <+:
      committedIn label (events ++ shown) := by
    unfold committedIn at hstored ⊢
    rw [List.filterMap_append]
    exact (List.prefix_append_right_inj _).mpr hstored
  rw [← hrelated.write.waiting_eq]
  exact hdurable.trans hanswered.committedIn_prefix

theorem accepted_visible_sample :
    ∃ state events middle shown asked slot device next last later log,
      run restarts (System.start zeroMemory zeroMemory) openActions =
        .ok (state, events) ∧
      run restarts state storeActions = .ok (middle, shown) ∧
      restarts middle (.readRequest (headerBytes 7 0)) =
        .ok (asked, [.served
          (.requested slot (headerBytes 7 0) device next)]) ∧
      run restarts asked answerActions = .ok (last, later) ∧
      AnsweredFrom respond label (events ++ shown)
        (.served (.requested slot (headerBytes 7 0) device next))
        (requestHeader (headerBytes 7 0)).iid log later ∧
      committedIn label events ++ (heldRecords state.write.side.thread ++
        ringRecords state.write.side.device).map entryOf <+: log := by
  have hopen := run_visited openActions_meets
  obtain ⟨shown, hmiddle⟩ := run_visited_append openActions_meets stored_meets
  obtain ⟨asked, slot, device, next, hasked, hserves, hthread, hused⟩ :=
    readRequest_accepted
      (show (visited (openActions ++ storeActions)).1.read.side.device.usedBuf <
        bufferSize by decide +kernel) readable_headerBytes
  obtain ⟨last, later, log, hrun, hanswered, hlog⟩ :=
    accepted_visible openActions_meets hopen openActions_serves
      storeActions_meets (by decide +kernel) hmiddle readable_headerBytes hasked
      (hserves stored_serves) answerActions_meets
      (by
        rw [hused, hthread]
        exact stored_enough)
  exact ⟨_, _, _, shown, _, slot, device, next, last, later, log, hopen, hmiddle,
    hasked, hrun, hanswered, hlog⟩

end Bounds

end PaxosPersistence.Service
