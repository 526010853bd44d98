import PaxosPersistence.Pipeline.WorkerPool

/-!
# The workers of the read test device

In every run a worker finds just what the answers and the marks in its slot
show.  That is the answer to its own request only if the worker runs late
enough, and early enough: too early, it finds what an earlier request has left
in the slot, or nothing; too late, it may find the mark of another worker or
the answer to a later request.
-/

namespace PaxosPersistence.Workers

open PaxosPersistence.ByteBlock
open PaxosPersistence.DeviceRing
open PaxosPersistence.KernelDevice
open PaxosPersistence.LmdbOperations
open PaxosPersistence.Machine
open PaxosPersistence.Memory
open PaxosPersistence.PaxosTypes
open PaxosPersistence.ReadPersistence
open PaxosPersistence.ReadPipeline
open PaxosPersistence.ReadSide
open PaxosPersistence.ReadTest
open PaxosPersistence.RingWindow
open PaxosPersistence.StorageThread
open PaxosPersistence.TransactionalMap
open PaxosPersistence.UserStorage
open PaxosPersistence.WorkerPool
open PaxosPersistence.WorkerVerdicts

/-! ## The read side under marks -/

theorem readSideServes_markDone {memory : DeviceMemory} {side : Side}
    {queue : List Request} {found : Option PaxosRecord}
    (hside : ReadSideServes memory side queue found) (slot : SlotId) :
    ReadSideServes memory { side with device := markDone side.device slot }
      queue found where
  txn_eq := hside.txn_eq
  recv_length := hside.recv_length
  owned := owned_markDone side.device slot hside.owned
  ring := ⟨hside.ring.working_eq, hside.ring.usedBuf_eq, hside.ring.occupies,
    hside.ring.slots⟩
  slots := hside.slots
  stage := hside.stage

theorem readTrack_markDone {memory : DeviceMemory} {side : Side}
    {history : List Event} (htrack : ReadTrack memory side history)
    (slot : SlotId) :
    ReadTrack memory { side with device := markDone side.device slot }
      history := by
  obtain ⟨exchanges, queue, found, inHand, hside, hrest⟩ := htrack.serves
  exact ⟨⟨exchanges, queue, found, inHand,
    readSideServes_markDone hside slot, hrest⟩, htrack.spares⟩

/-! ## Steps -/

/-- What holds between two steps. -/
structure WorkersTrack (memory : DeviceMemory) (state : ReadTest)
    (history : List Event) : Prop where
  working_eq : state.readTestDevice.working = true
  settled : state.database.Settled
  storable : Storable state.database.entries
  read : ReadTrack memory state.side history
  callbacks : CallbacksTrack state.side.device history
  works : WorksTrack state.works history
  lawful : Historically Lawful history
  found_eq : state.messagesFound = BitVec.ofNat 32 (foundOf history).length

namespace WorkersTrack

variable {memory : DeviceMemory} {state : ReadTest} {history : List Event}

theorem start (testMemory memory : DeviceMemory) (recv : Block slotSize)
    {entries : List Byte → Option (List Byte)} (hentries : Storable entries) :
    WorkersTrack memory (ReadTest.start testMemory memory recv entries) [] where
  working_eq := kdevcharInit_working testMemory
  settled := Store.settled_ofEntries entries
  storable := hentries
  read := ReadTrack.start memory recv
  callbacks := CallbacksTrack.start memory
  works := WorksTrack.start
  lawful := historically_nil
  found_eq := rfl

theorem owned (htrack : WorkersTrack memory state history) :
    Owned memory state.side.device := by
  obtain ⟨exchanges, queue, found, inHand, hside, -⟩ := htrack.read.serves
  exact hside.owned

/-- The work of an accepted request has its slot and its number. -/
theorem workFor_enqueue {device : PaxosKernelDevice} {message : Block slotSize}
    {msg : List Byte} (hholds : HoldsRequest message msg) {allocated : Bool}
    {persistence : PersistenceWork}
    (hwork : workFor (device.enqueue message) allocated
      (some device.currentBuf) = some persistence) :
    persistence.param = device.currentBuf ∧
      persistence.iid = (requestHeader msg).iid := by
  cases allocated with
  | false => exact nomatch hwork
  | true =>
      cases hwork
      constructor
      · rfl
      · rw [← hholds.ofImage_eq]
        simp [PaxosKernelDevice.enqueue]

theorem readTestWrite (htrack : WorkersTrack memory state history)
    {msg : List Byte} (hreadable : Readable msg) (allocated : Bool) :
    ∃ next events, workers state (.readTestWrite msg allocated) =
        .ok (next, events) ∧
      WorkersTrack memory next (history ++ events) := by
  obtain ⟨device, callback, hadd, hread⟩ := htrack.read.addMessage hreadable
  have hwrite := readTestWrite_eq htrack.working_eq hadd allocated
  refine ⟨{ state with
      side := { state.side with device }
      works := addWork state.works callback (workFor device allocated callback)
      messagesReceived := countIf state.messagesReceived
        (workFor device allocated callback).isSome },
    request state.side.device device msg callback, ?_, ?_⟩
  · simp only [workers, hwrite, bind, Except.bind, pure, Except.pure]
  · rcases readPersistenceAddMessage_cases hreadable.fits hadd with
      ⟨rfl, rfl⟩ | ⟨rfl, block, hholds, rfl⟩
    · rw [request, List.append_nil] at hread ⊢
      exact ⟨htrack.working_eq, htrack.settled, htrack.storable, hread,
        htrack.callbacks, htrack.works, htrack.lawful, htrack.found_eq⟩
    · exact
        { working_eq := htrack.working_eq
          settled := htrack.settled
          storable := htrack.storable
          read := hread
          callbacks := htrack.callbacks.requested block
            (htrack.read.answersFor_append rfl)
          works := htrack.works.requested fun _ hwork =>
            workFor_enqueue hholds hwork
          lawful := htrack.lawful.concat trivial
          found_eq := by
            rw [foundOf_append]
            exact htrack.found_eq.trans
              (congrArg _ (congrArg _ (List.append_nil _).symm)) }

theorem thread (htrack : WorkersTrack memory state history) (pointer : Addr) :
    ∃ next events, workers state (.thread pointer) = .ok (next, events) ∧
      WorkersTrack memory next (history ++ events) := by
  obtain ⟨side, database, events, hstep, hsettled, hentries, hevents, hread⟩ :=
    htrack.read.threadStep htrack.settled htrack.storable pointer
  have hstorable : Storable database.entries := by
    rw [hentries]
    exact htrack.storable
  refine ⟨{ state with side, database }, events, ?_, ?_⟩
  · simp only [workers, hstep, bind, Except.bind, pure, Except.pure]
  · rcases hevents with ⟨hdevice, rfl | rfl⟩ | ⟨answer, rfl, hanswers, hfills⟩
    · rw [List.append_nil] at hread ⊢
      exact ⟨htrack.working_eq, hsettled, hstorable, hread,
        hdevice ▸ htrack.callbacks, htrack.works, htrack.lawful,
        htrack.found_eq⟩
    · exact
        { working_eq := htrack.working_eq
          settled := hsettled
          storable := hstorable
          read := hread
          callbacks := hdevice ▸ htrack.callbacks.unchanged
            (htrack.read.answersFor_append rfl) fun _ _ => rfl
          works := htrack.works.unchanged rfl (by simp)
          lawful := htrack.lawful.concat trivial
          found_eq := by
            rw [foundOf_append]
            exact htrack.found_eq.trans
              (congrArg _ (congrArg _ (List.append_nil _).symm)) }
    · exact
        { working_eq := htrack.working_eq
          settled := hsettled
          storable := hstorable
          read := hread
          callbacks := htrack.callbacks.answered hanswers hfills
          works := htrack.works.unchanged rfl (by simp)
          lawful := htrack.lawful.concat trivial
          found_eq := by
            rw [foundOf_append]
            exact htrack.found_eq.trans
              (congrArg _ (congrArg _ (List.append_nil _).symm)) }

theorem replace (htrack : WorkersTrack memory state history)
    {entries : List Byte → Option (List Byte)} (hentries : Storable entries) :
    ∃ next events, workers state (.replace entries) = .ok (next, events) ∧
      WorkersTrack memory next (history ++ events) := by
  refine ⟨{ state with database := { state.database with entries } }, [], rfl, ?_⟩
  rw [List.append_nil]
  exact ⟨htrack.working_eq,
    ⟨htrack.settled.pending_eq, htrack.settled.closed_eq⟩, hentries, htrack.read,
    htrack.callbacks, htrack.works, htrack.lawful, htrack.found_eq⟩

/-- A step that is not enabled does nothing. -/
theorem idle (htrack : WorkersTrack memory state history)
    {action : WorkersAction} (hstep : workers state action = .ok (state, [])) :
    ∃ next events, workers state action = .ok (next, events) ∧
      WorkersTrack memory next (history ++ events) :=
  ⟨state, [], hstep, by rwa [List.append_nil]⟩

theorem wait (htrack : WorkersTrack memory state history) (number : ℕ) :
    ∃ next events, workers state (.wait number) = .ok (next, events) ∧
      WorkersTrack memory next (history ++ events) := by
  by_cases hqueued : ∃ persistence,
      state.works[number]? = some (some ⟨persistence, .queued⟩)
  · obtain ⟨persistence, hwork⟩ := hqueued
    refine ⟨{ state with
      works := state.works.set number (some ⟨persistence, .waiting false⟩) }, [],
      ?_, ?_⟩
    · simp only [workers, hwork]
    · rw [List.append_nil]
      exact ⟨htrack.working_eq, htrack.settled, htrack.storable, htrack.read,
        htrack.callbacks, htrack.works.set_stage hwork (.waiting false),
        htrack.lawful, htrack.found_eq⟩
  · apply htrack.idle
    rw [workers]
    split
    · rename_i persistence hwork
      exact absurd ⟨persistence, hwork⟩ hqueued
    · rfl

theorem elapse (htrack : WorkersTrack memory state history) (number : ℕ) :
    ∃ next events, workers state (.elapse number) = .ok (next, events) ∧
      WorkersTrack memory next (history ++ events) := by
  by_cases hwaiting : ∃ persistence elapsed,
      state.works[number]? = some (some ⟨persistence, .waiting elapsed⟩)
  · obtain ⟨persistence, elapsed, hwork⟩ := hwaiting
    refine ⟨{ state with
      works := state.works.set number (some ⟨persistence, .waiting true⟩) },
      [.elapsed number], ?_, ?_⟩
    · simp only [workers, hwork]
    · exact
        { working_eq := htrack.working_eq
          settled := htrack.settled
          storable := htrack.storable
          read := htrack.read.unrelated trivial
          callbacks := htrack.callbacks.unchanged
            (htrack.read.answersFor_append rfl) fun _ _ => rfl
          works := (htrack.works.set_stage hwork (.waiting true)).unchanged rfl
            (by simp)
          lawful := htrack.lawful.concat trivial
          found_eq := by
            rw [foundOf_append]
            exact htrack.found_eq.trans
              (congrArg _ (congrArg _ (List.append_nil _).symm)) }
  · apply htrack.idle
    rw [workers]
    split
    · rename_i persistence elapsed hwork
      exact absurd ⟨persistence, elapsed, hwork⟩ hwaiting
    · rfl

/-- A work that waits comes to its verdict at once, since the wait is over
before it begins. -/
theorem workers_decide (htrack : WorkersTrack memory state history)
    {number : ℕ} {persistence : PersistenceWork} {elapsed : Bool}
    (hwork : state.works[number]? =
      some (some ⟨persistence, .waiting elapsed⟩)) :
    workers state (.decide number) =
      .ok ({ state with
        side := { state.side with
          device := markDone state.side.device persistence.param }
        works := state.works.set number none
        messagesFound := countIf state.messagesFound
          (responseFound state.side.device persistence) },
        [.decided number persistence.param
          (responseFound state.side.device persistence)]) := by
  simp only [workers, hwork, responseArrived_of_owned htrack.owned,
    Bool.true_or, if_true, waitResponse]

theorem decide (htrack : WorkersTrack memory state history) (number : ℕ) :
    ∃ next events, workers state (.decide number) = .ok (next, events) ∧
      WorkersTrack memory next (history ++ events) := by
  by_cases hwaiting : ∃ persistence elapsed,
      state.works[number]? = some (some ⟨persistence, .waiting elapsed⟩)
  · obtain ⟨persistence, elapsed, hwork⟩ := hwaiting
    refine ⟨_, _, htrack.workers_decide hwork, ?_⟩
    exact
      { working_eq := htrack.working_eq
        settled := htrack.settled
        storable := htrack.storable
        read := (readTrack_markDone htrack.read persistence.param).unrelated
          trivial
        callbacks := htrack.callbacks.decided
          (htrack.read.answersFor_append rfl)
        works := htrack.works.decided hwork persistence.param _
        lawful := htrack.lawful.concat (htrack.works.lawful hwork
          (htrack.callbacks.responseFound_iff persistence))
        found_eq := by
          rw [foundOf_append, List.length_append, BitVec.ofNat_add,
            ← htrack.found_eq]
          change countIf state.messagesFound _ = _
          cases responseFound state.side.device persistence with
          | false => exact (BitVec.add_zero _).symm
          | true => rfl }
  · apply htrack.idle
    rw [workers]
    split
    · rename_i persistence elapsed hwork
      exact absurd ⟨persistence, elapsed, hwork⟩ hwaiting
    · rfl

end WorkersTrack

theorem workers_step {memory : DeviceMemory} (state : ReadTest)
    (history : List Event) (action : WorkersAction)
    (htrack : WorkersTrack memory state history) (haction : action.Meets) :
    ∃ next events, workers state action = .ok (next, events) ∧
      WorkersTrack memory next (history ++ events) := by
  cases action with
  | readTestWrite msg allocated => exact htrack.readTestWrite haction allocated
  | thread pointer => exact htrack.thread pointer
  | replace entries => exact htrack.replace haction
  | wait number => exact htrack.wait number
  | elapse number => exact htrack.elapse number
  | decide number => exact htrack.decide number

/-! ## Runs -/

theorem run_workers {memory : DeviceMemory} {state : ReadTest} {history : List Event}
    {actions : List WorkersAction} (htrack : WorkersTrack memory state history)
    (hactions : ∀ action ∈ actions, action.Meets) :
    ∃ last events, run workers state actions = .ok (last, events) ∧
      WorkersTrack memory last (history ++ events) :=
  run_of_invariant (WorkersTrack memory) WorkersAction.Meets
    (fun state history action => workers_step state history action) htrack
    hactions

/-- The answers are those to the requests, and the counter counts the requests
found. -/
structure Faithful (last : ReadTest) (events : List Event) : Prop where
  matched : ∃ exchanges pending inHand,
    Matched events exchanges pending inHand
  found_eq : last.messagesFound = BitVec.ofNat 32 (foundOf events).length

theorem WorkersTrack.faithful {memory : DeviceMemory} {state : ReadTest} {history : List Event}
    (htrack : WorkersTrack memory state history) : Faithful state history := by
  obtain ⟨exchanges, queue, found, inHand, -, hmatched, -⟩ := htrack.read.serves
  exact ⟨⟨exchanges, queue, inHand, hmatched⟩, htrack.found_eq⟩

/-! ## A database with one record, and some requests -/

/-- A record of number 7 with a value of one byte. -/
def storedAccepted : UserAccepted where
  header := ⟨0, 7, 0, 0, 0, 0, ⟨1, 0, 0⟩⟩
  value := [5]
  length_eq := rfl

/-- A database with this record. -/
def storedEntries : List Byte → Option (List Byte) :=
  applyWrites (fun _ => none) [storedAccepted.entry]

theorem storable_storedEntries : Storable storedEntries := by
  apply @storable_entries [storedAccepted]
  intro accepted haccepted
  cases List.mem_singleton.mp haccepted
  constructor <;> decide

/-- The state from which the runs start. -/
def storedStart : ReadTest :=
  ReadTest.start zeroMemory zeroMemory (Block.zero slotSize) storedEntries

theorem workersTrack_storedStart : WorkersTrack zeroMemory storedStart [] :=
  WorkersTrack.start zeroMemory zeroMemory (Block.zero slotSize)
    storable_storedEntries

theorem readable_headerBytes_zero : Readable (headerBytes 0 0) := by
  constructor <;> decide +kernel

theorem readable_headerBytes_seven : Readable (headerBytes 7 0) := by
  constructor <;> decide +kernel

/-- A request whose work is taken up and decided at once. -/
def hasty (msg : List Byte) (number : ℕ) : List WorkersAction :=
  [.readTestWrite msg true, .wait number, .decide number]

theorem meets_hasty {msg : List Byte} (hreadable : Readable msg) (number : ℕ) :
    ∀ action ∈ hasty msg number, action.Meets := by
  intro action haction
  simp only [hasty, List.mem_cons, List.not_mem_nil, or_false] at haction
  rcases haction with rfl | rfl | rfl
  · exact hreadable
  · trivial
  · trivial

/-- A request that is answered and found. -/
def servedRequest : List WorkersAction :=
  .readTestWrite (headerBytes 7 0) true ::
    List.replicate 5 (.thread 4096) ++ [.wait 0, .decide 0]

theorem meets_servedRequest : ∀ action ∈ servedRequest, action.Meets := by
  intro action haction
  simp only [servedRequest, List.mem_append, List.mem_cons,
    List.mem_replicate, List.not_mem_nil, or_false] at haction
  rcases haction with (rfl | ⟨-, rfl⟩) | rfl | rfl
  · exact readable_headerBytes_seven
  · trivial
  · trivial
  · trivial

/-- Such a request, answered too late. -/
def lateAnswer : List WorkersAction :=
  hasty (headerBytes 7 0) 0 ++ List.replicate 5 (.thread 4096)

theorem meets_lateAnswer : ∀ action ∈ lateAnswer, action.Meets := by
  intro action haction
  rcases List.mem_append.mp haction with hfirst | hthread
  · exact meets_hasty readable_headerBytes_seven 0 action hfirst
  · cases (List.mem_replicate.mp hthread).2
    trivial

/-- The verdicts and the elapsed timeouts of a history. -/
def workEventsOf (events : List Event) : List (ℕ × Option (SlotId × Bool)) :=
  events.filterMap fun
    | .elapsed work => some (work, none)
    | .decided work slot found => some (work, some (slot, found))
    | _ => none

theorem elapsed_mem_iff {events : List Event} {work : ℕ} :
    .elapsed work ∈ events ↔ (work, none) ∈ workEventsOf events := by
  constructor
  · exact fun hmem => List.mem_filterMap.mpr ⟨_, hmem, rfl⟩
  · intro hmem
    obtain ⟨event, hevent, hselect⟩ := List.mem_filterMap.mp hmem
    cases event with
    | elapsed other =>
        cases hselect
        exact hevent
    | _ => exact nomatch hselect

theorem decided_mem_iff {events : List Event} {work : ℕ} {slot : SlotId}
    {found : Bool} :
    .decided work slot found ∈ events ↔
      (work, some (slot, found)) ∈ workEventsOf events := by
  constructor
  · exact fun hmem => List.mem_filterMap.mpr ⟨_, hmem, rfl⟩
  · intro hmem
    obtain ⟨event, hevent, hselect⟩ := List.mem_filterMap.mp hmem
    cases event with
    | decided other place again =>
        cases hselect
        exact hevent
    | _ => exact nomatch hselect

/-- What is compared after a run. -/
structure Observation where
  workEvents : List (ℕ × Option (SlotId × Bool))
  answers : List Answer
  works : ℕ
  usedBuf : ℤ
  currentBuf : SlotId
  deriving DecidableEq

def observe (last : ReadTest) (events : List Event) : Observation where
  workEvents := workEventsOf events
  answers := answersFor events
  works := last.works.length
  usedBuf := last.side.device.usedBuf
  currentBuf := last.side.device.currentBuf

def observed (actions : List WorkersAction) : Option Observation :=
  match run workers storedStart actions with
  | .ok (last, events) => some (observe last events)
  | .error _ => none

theorem run_of_observed {actions : List WorkersAction}
    {observation : Observation} (hobserved : observed actions = some observation) :
    ∃ last events, run workers storedStart actions = .ok (last, events) ∧
      observe last events = observation := by
  rw [observed] at hobserved
  split at hobserved
  · rename_i last events hrun
    exact ⟨last, events, hrun, Option.some.inj hobserved⟩
  · exact nomatch hobserved

/-! ## Fresh verdicts -/

/-- For every interleaving of requests, steps of the thread, stores of others
and steps of the workers: requests are counted on their own answers only, if
and only if no worker ever finds a borrowed answer in its slot. -/
theorem workers_fresh_iff (testMemory memory : DeviceMemory)
    (recv : Block slotSize) {entries : List Byte → Option (List Byte)}
    (hentries : Storable entries) {actions : List WorkersAction}
    (hactions : ∀ action ∈ actions, action.Meets) :
    ∃ last events,
      run workers (ReadTest.start testMemory memory recv entries) actions =
        .ok (last, events) ∧ Faithful last events ∧
      (Historically Fresh events ↔ Historically NotBorrowed events) := by
  obtain ⟨last, events, hrun, htrack⟩ := run_workers
    (WorkersTrack.start testMemory memory recv hentries) hactions
  exact ⟨last, events, hrun, htrack.faithful,
    fresh_iff_notBorrowed htrack.lawful⟩

theorem workers_fresh_iff_served :
    Storable storedEntries ∧ (∀ action ∈ servedRequest, action.Meets) ∧
    ∃ last events,
      run workers (ReadTest.start zeroMemory zeroMemory (Block.zero slotSize)
        storedEntries) servedRequest = .ok (last, events) ∧
      Faithful last events ∧
      (Historically Fresh events ↔ Historically NotBorrowed events) :=
  ⟨storable_storedEntries, meets_servedRequest, workers_fresh_iff zeroMemory
    zeroMemory (Block.zero slotSize) storable_storedEntries meets_servedRequest⟩

/-- In a ring with room a hasty request takes the current slot. -/
theorem run_hasty {memory : DeviceMemory} {state : ReadTest}
    {history : List Event} (htrack : WorkersTrack memory state history)
    (hfree : state.side.device.usedBuf < bufferSize) {msg : List Byte}
    (hreadable : Readable msg) :
    ∃ last after found,
      run workers state (hasty msg state.works.length) = .ok (last,
        [.requested state.side.device.currentBuf msg state.side.device after,
          .decided state.works.length state.side.device.currentBuf found]) ∧
      last.side.device.usedBuf = state.side.device.usedBuf + 1 ∧
      last.side.device.currentBuf = advance state.side.device.currentBuf 1 ∧
      last.works.length = state.works.length + 1 := by
  obtain ⟨block, hholds, hadd⟩ :=
    readPersistenceAddMessage_eq hfree hreadable.fits
  have hwrite := readTestWrite_eq htrack.working_eq hadd true
  obtain ⟨first, events, hfirst, hfirstTrack⟩ :=
    htrack.readTestWrite hreadable true
  obtain ⟨second, silent, hsecond, hsecondTrack⟩ :=
    hfirstTrack.wait state.works.length
  have hfirstEq := hfirst
  simp only [workers, hwrite, bind, Except.bind, pure, Except.pure] at hfirstEq
  obtain ⟨rfl, rfl⟩ := Prod.mk.inj (Except.ok.inj hfirstEq)
  have hsecondEq := hsecond
  simp only [workers, addWork, workFor, if_true, Option.map_some,
    List.getElem?_concat_length] at hsecondEq
  obtain ⟨rfl, rfl⟩ := Prod.mk.inj (Except.ok.inj hsecondEq)
  have hthird := hsecondTrack.workers_decide
    (List.getElem?_set_self (by simp))
  refine ⟨_, state.side.device.enqueue block, _,
    run_cons_eq_ok.mpr ⟨_, _, _, hfirst, run_cons_eq_ok.mpr ⟨_, _, _, hsecond,
      run_cons_eq_ok.mpr ⟨_, _, [], hthird, rfl, rfl⟩, rfl⟩, rfl⟩, ?_, rfl, ?_⟩
  · obtain ⟨exchanges, queue, found, inHand, hside, -⟩ := htrack.read.serves
    have hused := hside.ring.usedBuf_eq
    exact atomicInc_of_lt (hused ▸ Int.natCast_nonneg _) hfree
  · simp

/-- The counting events of a history go on from the one before. -/
theorem run_hasty_track {memory : DeviceMemory} {state : ReadTest}
    {history : List Event} (htrack : WorkersTrack memory state history)
    {msg : List Byte} (hreadable : Readable msg) {number : ℕ} {last : ReadTest}
    {events : List Event}
    (hrun : run workers state (hasty msg number) = .ok (last, events)) :
    WorkersTrack memory last (history ++ events) := by
  obtain ⟨same, others, hsame, hlast⟩ :=
    run_workers htrack (meets_hasty hreadable number)
  rw [hrun] at hsame
  cases hsame
  exact hlast

/-- Hasty requests without answers, one after the other. -/
def hastyFrom (first count : ℕ) : List WorkersAction :=
  (List.range' first count).flatMap (hasty (headerBytes 0 0))

/-- As long as there is room, each of them fills a slot. -/
theorem run_hastyFrom {memory : DeviceMemory} {state : ReadTest}
    {history : List Event} (htrack : WorkersTrack memory state history)
    {count : ℕ} (hroom : state.side.device.usedBuf + count ≤ bufferSize) :
    ∃ last events,
      run workers state (hastyFrom state.works.length count) =
        .ok (last, events) ∧
      WorkersTrack memory last (history ++ events) ∧ answersOf events = [] ∧
      last.side.device.usedBuf = state.side.device.usedBuf + count ∧
      last.side.device.currentBuf = advance state.side.device.currentBuf count ∧
      last.works.length = state.works.length + count := by
  induction count with
  | zero =>
      refine ⟨state, [], rfl, ?_, rfl, (add_zero _).symm,
        (advance_zero _).symm, rfl⟩
      rwa [List.append_nil]
  | succ count ih =>
      rw [Nat.cast_succ, ← add_assoc] at hroom
      obtain ⟨middle, first, hfirst, hmiddle, hanswers, hused, hcurrent,
        hworks⟩ := ih (by omega)
      have hfree : middle.side.device.usedBuf < bufferSize := by
        rw [hused]
        omega
      obtain ⟨last, after, found, hsecond, hlastUsed, hlastCurrent,
        hlastWorks⟩ := run_hasty hmiddle hfree readable_headerBytes_zero
      rw [hworks] at hsecond
      have hlast := run_hasty_track hmiddle readable_headerBytes_zero hsecond
      rw [List.append_assoc] at hlast
      refine ⟨last, _, ?_, hlast, ?_, ?_, ?_, ?_⟩
      · rw [hastyFrom, List.range'_1_concat, List.flatMap_append,
          List.flatMap_singleton, run_append_eq_ok]
        exact ⟨middle, first, _, hfirst, hsecond, rfl⟩
      · rw [answersOf_append, hanswers]
        rfl
      · rw [hlastUsed, hused]
        push_cast
        ring
      · rw [hlastCurrent, hcurrent, advance_advance]
      · rw [hlastWorks, hworks]
        rfl

/-- The slot of the served request comes round again for a request with the
same number. -/
def staleAnswer : List WorkersAction :=
  servedRequest ++ hastyFrom 1 999 ++ hasty (headerBytes 7 0) 1000

/-- A request whose slot holds an answer for its number from an earlier one is
found though it is not answered. -/
theorem found_of_stale {memory : DeviceMemory} {state last : ReadTest}
    {history : List Event} (htrack : WorkersTrack memory state history)
    {msg : List Byte} {slot : SlotId} {before after : PaxosKernelDevice}
    {found : Bool}
    (hlast : WorkersTrack memory last (history ++
      [.requested slot msg before after, .decided state.works.length slot found]))
    {answer : Answer} (hanswers : lastAnswer history slot = some answer)
    (hiid : Answers (requestHeader msg).iid answer.record) :
    found = true := by
  have hsplit := List.append_cons history
    (Event.requested slot msg before after)
    [Event.decided state.works.length slot found]
  apply (hlast.lawful _ _ [] hsplit).1.mpr
  refine ⟨slot, msg, ?_, ?_, answer, ?_, hiid⟩
  · rw [requestsOf_append, htrack.works.length_eq]
    exact List.getElem?_concat_length
  · rw [marked_concat, mark, if_pos rfl]
  · rw [lastAnswer, htrack.read.answersFor_append rfl]
    exact hanswers

/-- The last request of the run is counted on the answer to the first one, a
thousand requests earlier; its own answer has not been written. -/
theorem staleAnswer_not_fresh :
    ∃ last events, run workers storedStart staleAnswer = .ok (last, events) ∧
      ¬ Historically Fresh events := by
  have hobserved : observed servedRequest = some
      { workEvents := [(0, some (0, true))]
        answers := [⟨0, 7, storedAccepted.record⟩]
        works := 1
        usedBuf := 0
        currentBuf := 1 } := by
    decide +kernel
  obtain ⟨served, events, hserved, hobserve⟩ := run_of_observed hobserved
  have hanswers : answersFor events = [⟨0, 7, storedAccepted.record⟩] :=
    congrArg Observation.answers hobserve
  have hworks : served.works.length = 1 := congrArg Observation.works hobserve
  have hused : served.side.device.usedBuf = 0 :=
    congrArg Observation.usedBuf hobserve
  have hcurrent : served.side.device.currentBuf = 1 :=
    congrArg Observation.currentBuf hobserve
  obtain ⟨same, others, hsame, hservedTrack⟩ :=
    run_workers workersTrack_storedStart meets_servedRequest
  rw [hserved] at hsame
  cases hsame
  rw [List.nil_append] at hservedTrack
  obtain ⟨filled, more, hfilled, hfilledTrack, hnone, hfilledUsed,
    hfilledCurrent, hfilledWorks⟩ := @run_hastyFrom _ _ _ hservedTrack 999 (by
      rw [hused]
      simp [bufferSize])
  rw [hused] at hfilledUsed
  rw [hcurrent] at hfilledCurrent
  rw [hworks] at hfilledWorks hfilled
  have hslot : filled.side.device.currentBuf = 0 := hfilledCurrent.trans rfl
  obtain ⟨last, after, found, hlast, -⟩ := run_hasty hfilledTrack
    (by rw [hfilledUsed]; simp [bufferSize]) readable_headerBytes_seven
  have hlastTrack :=
    run_hasty_track hfilledTrack readable_headerBytes_seven hlast
  have hkept : answersFor (events ++ more) = [⟨0, 7, storedAccepted.record⟩] :=
    (hservedTrack.read.answersFor_append hnone).trans hanswers
  have hstale : lastAnswer (events ++ more) filled.side.device.currentBuf =
      some ⟨0, 7, storedAccepted.record⟩ := by
    rw [lastAnswer, hkept, hslot]
    rfl
  have hfound : found = true := by
    apply found_of_stale hfilledTrack hlastTrack hstale
    constructor <;> decide +kernel
  rw [hfilledWorks] at hlast
  refine ⟨last, _, run_append_eq_ok.mpr ⟨filled, _, _,
    run_append_eq_ok.mpr ⟨served, events, more, hserved, hfilled, rfl⟩, hlast,
      rfl⟩, ?_⟩
  intro hfresh
  obtain ⟨answer, hown, -⟩ := hfresh
    (events ++ more ++ [.requested filled.side.device.currentBuf
      (headerBytes 7 0) filled.side.device after])
    (.decided 1000 filled.side.device.currentBuf found) [] (by simp) hfound
  rw [hfilledTrack.read.answersFor_append rfl, hkept] at hown
  exact nomatch hown

/-! ## Kept answers -/

/-- For every such interleaving: no worker decides too early and every request
answered in time is counted once, if and only if the workers are late enough
and the slots of the requests answered in time still show an answer. -/
theorem workers_noAnswerLost_iff (testMemory memory : DeviceMemory)
    (recv : Block slotSize) {entries : List Byte → Option (List Byte)}
    (hentries : Storable entries) {actions : List WorkersAction}
    (hactions : ∀ action ∈ actions, action.Meets) :
    ∃ last events,
      run workers (ReadTest.start testMemory memory recv entries) actions =
        .ok (last, events) ∧ Faithful last events ∧
      (NoAnswerLost events ↔ Historically StillVisible events) := by
  obtain ⟨last, events, hrun, htrack⟩ := run_workers
    (WorkersTrack.start testMemory memory recv hentries) hactions
  exact ⟨last, events, hrun, htrack.faithful,
    noAnswerLost_iff_stillVisible htrack.lawful⟩

theorem workers_noAnswerLost_iff_late :
    Storable storedEntries ∧ (∀ action ∈ lateAnswer, action.Meets) ∧
    ∃ last events,
      run workers (ReadTest.start zeroMemory zeroMemory (Block.zero slotSize)
        storedEntries) lateAnswer = .ok (last, events) ∧
      Faithful last events ∧
      (NoAnswerLost events ↔ Historically StillVisible events) :=
  ⟨storable_storedEntries, meets_lateAnswer, workers_noAnswerLost_iff zeroMemory
    zeroMemory (Block.zero slotSize) storable_storedEntries meets_lateAnswer⟩

/-- A worker decides before the answer to its request is there, although no
timeout has elapsed; the answer, which has a value, is not counted. -/
theorem lateAnswer_lost :
    ∃ last events, run workers storedStart lateAnswer = .ok (last, events) ∧
      ¬ NoAnswerLost events := by
  have hobserved : observed lateAnswer = some
      { workEvents := [(0, some (0, false))]
        answers := [⟨0, 7, storedAccepted.record⟩]
        works := 1
        usedBuf := 0
        currentBuf := 1 } := by
    decide +kernel
  obtain ⟨last, events, hrun, hobserve⟩ := run_of_observed hobserved
  have hevents : workEventsOf events = [(0, some (0, false))] :=
    congrArg Observation.workEvents hobserve
  have hanswers : answersFor events = [⟨0, 7, storedAccepted.record⟩] :=
    congrArg Observation.answers hobserve
  refine ⟨last, events, hrun, ?_⟩
  have hdecided : .decided 0 0 false ∈ events := by
    rw [decided_mem_iff, hevents]
    exact List.mem_singleton_self _
  have htime : InTime events 0 := by
    refine ⟨events, [], (List.append_nil _).symm, ?_,
      ⟨0, 7, storedAccepted.record⟩, ?_, ?_⟩
    · rw [elapsed_mem_iff, hevents]
      decide
    · rw [hanswers]
      rfl
    · constructor <;> decide
  have hnone : (foundOf events).count 0 = 0 := by
    apply List.count_eq_zero_of_not_mem
    intro hmem
    obtain ⟨slot, hfound⟩ := mem_foundOf.mp hmem
    rw [decided_mem_iff, hevents] at hfound
    simp at hfound
  intro hkept
  have hone := hkept.counted 0 0 false hdecided htime
  rw [hnone] at hone
  exact nomatch hone

end PaxosPersistence.Workers
