import PaxosPersistence.Pipeline.WorkerVerdicts

/-!
# The worker pool

Requests come through the read test device, the thread of the storage process
answers them, and the workers of the pool look for the answers in the callbacks
of the slots.  A work may be taken up at any time after it was queued.  The
callbacks hold what the history of the device has left in them, and the works
are those of its requests.
-/

namespace PaxosPersistence.WorkerPool

open PaxosPersistence.ByteBlock
open PaxosPersistence.DeviceRing
open PaxosPersistence.KernelDevice
open PaxosPersistence.LmdbOperations
open PaxosPersistence.Machine
open PaxosPersistence.Memory
open PaxosPersistence.PaxosTypes
open PaxosPersistence.ReadPersistence
open PaxosPersistence.ReadPipeline
open PaxosPersistence.ReadSide
open PaxosPersistence.ReadTest
open PaxosPersistence.RingWindow
open PaxosPersistence.StorageThread
open PaxosPersistence.TransactionalMap
open PaxosPersistence.UserStorage
open PaxosPersistence.WorkerVerdicts

/-- A work is queued, or waits in `wait_event_timeout`. -/
inductive WorkStage where
  | queued
  | waiting (elapsed : Bool)
  deriving DecidableEq

structure Work where
  work : PersistenceWork
  stage : WorkStage

/-- The works are listed by the numbers of their requests; there is none when
none was allocated, and none any more when `wait_response` has freed it. -/
structure ReadTest where
  readTestDevice : PaxosKernelDevice
  side : Side
  database : Database
  works : List (Option Work)
  messagesReceived : Word32
  messagesFound : Word32

/-- The state after `read_test_open`. -/
def ReadTest.start (testMemory memory : DeviceMemory) (recv : Block slotSize)
    (entries : List Byte → Option (List Byte)) : ReadTest where
  readTestDevice := kdevcharInit testMemory
  side := ⟨kdevcharInit memory, Thread.start recv⟩
  database := Store.ofEntries entries
  works := []
  messagesReceived := 0
  messagesFound := 0

inductive WorkersAction where
  | readTestWrite (msg : List Byte) (allocated : Bool)
  | thread (pointer : Addr)
  | replace (entries : List Byte → Option (List Byte))
  /-- A worker takes up a work and begins to wait. -/
  | wait (work : ℕ)
  /-- The timeout of the wait elapses. -/
  | elapse (work : ℕ)
  /-- The wait returns, and `wait_response` comes to its end. -/
  | decide (work : ℕ)

/-- `add_work` for an accepted request. -/
def addWork (works : List (Option Work)) (callback : Option SlotId)
    (work : Option PersistenceWork) : List (Option Work) :=
  match callback with
  | none => works
  | some _ => works ++ [work.map fun work => { work, stage := .queued }]

/-- The counter goes up when there is something to count. -/
def countIf (counter : Word32) (counts : Bool) : Word32 :=
  if counts then counter + 1 else counter

def workers : Step ReadTest WorkersAction Event Halt
  | state, .readTestWrite msg allocated => do
      let (device, callback, work, _) ←
        readTestWrite state.readTestDevice state.side.device msg allocated
      return ({ state with
          side := { state.side with device }
          works := addWork state.works callback work
          messagesReceived := countIf state.messagesReceived work.isSome },
        request state.side.device device msg callback)
  | state, .thread pointer => do
      let (side, database, events) ← genericStorageThread true state.side
        state.database MdbCodes.success pointer
      return ({ state with side, database }, events)
  | state, .replace entries =>
      .ok ({ state with database := { state.database with entries } }, [])
  | state, .wait work =>
      match state.works[work]? with
      | some (some ⟨persistence, .queued⟩) =>
          .ok ({ state with
            works := state.works.set work
              (some ⟨persistence, .waiting false⟩) }, [])
      | _ => .ok (state, [])
  | state, .elapse work =>
      match state.works[work]? with
      | some (some ⟨persistence, .waiting _⟩) =>
          .ok ({ state with
            works := state.works.set work
              (some ⟨persistence, .waiting true⟩) }, [.elapsed work])
      | _ => .ok (state, [])
  | state, .decide work =>
      match state.works[work]? with
      | some (some ⟨persistence, .waiting elapsed⟩) =>
          if responseArrived state.side.device persistence || elapsed then
            let (device, found) := waitResponse state.side.device persistence
            .ok ({ state with
                side := { state.side with device }
                works := state.works.set work none
                messagesFound := countIf state.messagesFound found },
              [.decided work persistence.param found])
          else .ok (state, [])
      | _ => .ok (state, [])

/-- Requests are readable, and what others store are records with values that
fit. -/
def WorkersAction.Meets : WorkersAction → Prop
  | .readTestWrite msg _ => Readable msg
  | .replace entries => Storable entries
  | _ => True

/-! ## Callbacks and histories -/

/-- What an answer leaves in its slot. -/
def LeftBy : Option Answer → PaxosRecord → Prop
  | none, record => record.value = []
  | some answer, record => record = answer.record

/-- The callbacks hold the last answers and the marks of the history. -/
structure CallbacksTrack (device : PaxosKernelDevice)
    (history : List Event) : Prop where
  response : ∀ slot,
    LeftBy (lastAnswer history slot) (device.responseRecord slot)
  isDone : ∀ slot, (device.callbackBuf slot).isDone = marked history slot

namespace CallbacksTrack

variable {device : PaxosKernelDevice} {history : List Event}

theorem start (memory : DeviceMemory) :
    CallbacksTrack (kdevcharInit memory) [] where
  response := responseRecord_kdevcharInit_value memory
  isDone slot := (kdevcharInit_ready memory slot).isDone_eq

/-- A work finds what its slot shows. -/
theorem responseFound_iff (htrack : CallbacksTrack device history)
    (work : PersistenceWork) :
    responseFound device work = true ↔
      VisibleIn history work.param work.iid := by
  have hresponse := htrack.response work.param
  rw [ReadTest.responseFound_iff, htrack.isDone, VisibleIn]
  apply and_congr_right
  intro _
  cases hlast : lastAnswer history work.param with
  | none =>
      rw [hlast] at hresponse
      constructor
      · exact fun hanswers => absurd hresponse hanswers.2
      · rintro ⟨answer, hnone, -⟩
        exact nomatch hnone
  | some answer =>
      rw [hlast] at hresponse
      rw [show device.responseRecord work.param = answer.record from hresponse]
      constructor
      · exact fun hanswers => ⟨answer, rfl, hanswers⟩
      · rintro ⟨same, hsame, hanswers⟩
        cases hsame
        exact hanswers

/-- Events that neither answer a request nor touch a mark. -/
theorem unchanged (htrack : CallbacksTrack device history) {event : Event}
    (hanswers : answersFor (history ++ [event]) = answersFor history)
    (hmark : ∀ slot marked, mark slot marked event = marked) :
    CallbacksTrack device (history ++ [event]) where
  response slot := by
    rw [lastAnswer, hanswers]
    exact htrack.response slot
  isDone slot := by
    rw [marked_concat, hmark]
    exact htrack.isDone slot

/-- A request resets the mark of its slot and leaves the old answer there. -/
theorem requested (htrack : CallbacksTrack device history)
    (message : Block slotSize) {msg : List Byte}
    {before after : PaxosKernelDevice}
    (hanswers : answersFor (history ++
        [.requested device.currentBuf msg before after]) =
      answersFor history) :
    CallbacksTrack (device.enqueue message)
      (history ++ [.requested device.currentBuf msg before after]) where
  response slot := by
    rw [lastAnswer, hanswers, PaxosKernelDevice.responseRecord_enqueue]
    exact htrack.response slot
  isDone slot := by
    rw [marked_concat, PaxosKernelDevice.isDone_enqueue, htrack.isDone, mark]
    by_cases hslot : slot = device.currentBuf
    · rw [if_pos hslot, if_pos hslot.symm]
    · rw [if_neg hslot, if_neg (Ne.symm hslot)]

/-- An answer replaces what was in its slot. -/
theorem answered (htrack : CallbacksTrack device history)
    {next : PaxosKernelDevice} {answer : Answer}
    (hanswers : answersFor (history ++ [.answered device next]) =
      answersFor history ++ [answer])
    (hfills : FillsOnly device next answer.slot answer.record) :
    CallbacksTrack next (history ++ [.answered device next]) where
  response slot := by
    rw [lastAnswer_concat hanswers]
    by_cases hslot : answer.slot = slot
    · rw [if_pos hslot, ← hslot]
      exact hfills.filled
    · rw [if_neg hslot, hfills.others slot (Ne.symm hslot)]
      exact htrack.response slot
  isDone slot := by
    rw [marked_concat, hfills.callbackBuf_eq]
    exact htrack.isDone slot

/-- A verdict marks its slot. -/
theorem decided (htrack : CallbacksTrack device history) {work : ℕ}
    {slot : SlotId} {found : Bool}
    (hanswers : answersFor (history ++ [.decided work slot found]) =
      answersFor history) :
    CallbacksTrack (markDone device slot)
      (history ++ [.decided work slot found]) where
  response other := by
    rw [lastAnswer, hanswers, responseRecord_markDone]
    exact htrack.response other
  isDone other := by
    rw [marked_concat, isDone_markDone, htrack.isDone, mark]
    by_cases hother : other = slot
    · rw [if_pos hother, if_pos hother.symm]
    · rw [if_neg hother, if_neg (Ne.symm hother)]

end CallbacksTrack

/-! ## Works and histories -/

/-- The works are those of the requests, and those that have come to a verdict
are gone. -/
structure WorksTrack (works : List (Option Work)) (history : List Event) :
    Prop where
  length_eq : works.length = (requestsOf history).length
  request : ∀ (number : ℕ) (persistence : PersistenceWork) (stage : WorkStage),
    works[number]? = some (some ⟨persistence, stage⟩) →
      ∃ msg, (requestsOf history)[number]? = some (persistence.param, msg) ∧
        persistence.iid = (requestHeader msg).iid
  freed : ∀ (number : ℕ) slot found, .decided number slot found ∈ history →
    works[number]? = some none

namespace WorksTrack

variable {works : List (Option Work)} {history : List Event}

theorem start : WorksTrack [] [] where
  length_eq := rfl
  request number persistence stage hwork := by simp at hwork
  freed number slot found hmem := absurd hmem List.not_mem_nil

/-- Events other than requests and verdicts. -/
theorem unchanged (htrack : WorksTrack works history) {event : Event}
    (hrequests : requestsOf [event] = [])
    (hevent : ∀ number slot found, event ≠ .decided number slot found) :
    WorksTrack works (history ++ [event]) where
  length_eq := by
    rw [requestsOf_append, hrequests, List.append_nil]
    exact htrack.length_eq
  request number persistence stage hwork := by
    rw [requestsOf_append, hrequests, List.append_nil]
    exact htrack.request number persistence stage hwork
  freed number slot found hmem := by
    rcases List.mem_append.mp hmem with hmem | hmem
    · exact htrack.freed number slot found hmem
    · exact absurd (List.mem_singleton.mp hmem).symm (hevent number slot found)

/-- A work moves on without leaving its place. -/
theorem set_stage (htrack : WorksTrack works history) {number : ℕ}
    {persistence : PersistenceWork} {stage : WorkStage}
    (hwork : works[number]? = some (some ⟨persistence, stage⟩))
    (next : WorkStage) :
    WorksTrack (works.set number (some ⟨persistence, next⟩)) history where
  length_eq := by
    rw [List.length_set]
    exact htrack.length_eq
  request other otherWork otherStage hother := by
    by_cases hsame : number = other
    · subst hsame
      rw [List.getElem?_set_self (List.getElem?_eq_some_iff.mp hwork).1] at hother
      cases hother
      exact htrack.request number persistence stage hwork
    · rw [List.getElem?_set_ne hsame] at hother
      exact htrack.request other otherWork otherStage hother
  freed other slot found hmem := by
    have hfreed := htrack.freed other slot found hmem
    have hother : number ≠ other := by
      rintro rfl
      rw [hwork] at hfreed
      exact nomatch hfreed
    rw [List.getElem?_set_ne hother]
    exact hfreed

/-- A new request comes with a work of its own, or with none. -/
theorem requested (htrack : WorksTrack works history) {slot : SlotId}
    {msg : List Byte} {before after : PaxosKernelDevice}
    {work : Option PersistenceWork}
    (hwork : ∀ persistence, work = some persistence →
      persistence.param = slot ∧ persistence.iid = (requestHeader msg).iid) :
    WorksTrack (addWork works (some slot) work)
      (history ++ [.requested slot msg before after]) := by
  have hrequests : requestsOf (history ++ [.requested slot msg before after]) =
      requestsOf history ++ [(slot, msg)] := requestsOf_append _ _
  constructor
  · rw [hrequests, List.length_append, ← htrack.length_eq]
    exact List.length_append
  · intro number persistence stage hnumber
    rw [hrequests]
    change (works ++ [_])[number]? = _ at hnumber
    by_cases hold : number < works.length
    · rw [List.getElem?_append_left hold] at hnumber
      obtain ⟨other, hother, hiid⟩ :=
        htrack.request number persistence stage hnumber
      exact ⟨other, by rwa [List.getElem?_append_left
        (List.getElem?_eq_some_iff.mp hother).1], hiid⟩
    · have hbound := (List.getElem?_eq_some_iff.mp hnumber).1
      rw [List.length_append, List.length_singleton] at hbound
      obtain rfl : number = works.length := by omega
      rw [List.getElem?_concat_length, Option.some.injEq,
        Option.map_eq_some_iff] at hnumber
      obtain ⟨same, hsome, hequal⟩ := hnumber
      cases hequal
      obtain ⟨hslot, hiid⟩ := hwork persistence hsome
      exact ⟨msg, by rw [htrack.length_eq, List.getElem?_concat_length, hslot],
        hiid⟩
  · intro number other found hmem
    have hfreed := htrack.freed number other found (by simpa using hmem)
    change (works ++ [_])[number]? = _
    rw [List.getElem?_append_left (List.getElem?_eq_some_iff.mp hfreed).1]
    exact hfreed

/-- A verdict frees its work. -/
theorem decided (htrack : WorksTrack works history) {number : ℕ}
    {work : Work} (hwork : works[number]? = some (some work)) (slot : SlotId)
    (found : Bool) :
    WorksTrack (works.set number none)
      (history ++ [.decided number slot found]) := by
  have hrequests : requestsOf (history ++ [.decided number slot found]) =
      requestsOf history := (requestsOf_append _ _).trans (List.append_nil _)
  have hbound := (List.getElem?_eq_some_iff.mp hwork).1
  constructor
  · rw [hrequests, List.length_set]
    exact htrack.length_eq
  · intro other persistence stage hother
    rw [hrequests]
    by_cases hsame : number = other
    · subst hsame
      rw [List.getElem?_set_self hbound] at hother
      exact nomatch hother
    · rw [List.getElem?_set_ne hsame] at hother
      exact htrack.request other persistence stage hother
  · intro other place again hmem
    by_cases hsame : number = other
    · subst hsame
      exact List.getElem?_set_self hbound
    · rw [List.getElem?_set_ne hsame]
      apply htrack.freed other place again
      rcases List.mem_append.mp hmem with hmem | hmem
      · exact hmem
      · cases List.mem_singleton.mp hmem
        exact absurd rfl hsame

/-- The verdict of a work that finds what its slot shows is lawful. -/
theorem lawful (htrack : WorksTrack works history) {number : ℕ}
    {persistence : PersistenceWork} {stage : WorkStage}
    (hwork : works[number]? = some (some ⟨persistence, stage⟩)) {found : Bool}
    (hfound : found = true ↔
      VisibleIn history persistence.param persistence.iid) :
    Lawful history (.decided number persistence.param found) := by
  obtain ⟨msg, hmsg, hiid⟩ := htrack.request number persistence stage hwork
  constructor
  · rw [hfound, hiid]
    constructor
    · exact fun hvisible => ⟨persistence.param, msg, hmsg, hvisible⟩
    · rintro ⟨slot, other, hother, hvisible⟩
      rw [hmsg] at hother
      cases hother
      exact hvisible
  · intro slot again hmem
    have hfreed := htrack.freed number slot again hmem
    rw [hwork] at hfreed
    exact nomatch hfreed

end WorksTrack

end PaxosPersistence.WorkerPool
