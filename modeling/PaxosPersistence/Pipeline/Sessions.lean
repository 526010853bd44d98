import PaxosPersistence.Pipeline.Workers

/-!
# The statistics of the sessions

A session on the read test device lasts from `read_test_open`, which resets the
two counters, to `read_test_release`, which prints them.  The works that a
session has queued are neither waited for nor withdrawn at its end, so that a
worker may come to one of them in a later session and count it there.
-/

namespace PaxosPersistence.Sessions

open PaxosPersistence.ByteBlock
open PaxosPersistence.KernelDevice
open PaxosPersistence.LmdbOperations
open PaxosPersistence.Machine
open PaxosPersistence.Memory
open PaxosPersistence.PaxosTypes
open PaxosPersistence.ReadPersistence
open PaxosPersistence.ReadSide
open PaxosPersistence.ReadTest
open PaxosPersistence.StorageThread
open PaxosPersistence.TransactionalMap
open PaxosPersistence.UserStorage
open PaxosPersistence.WorkerPool
open PaxosPersistence.Workers

/-- A queued work, with the session in which its request was received. -/
structure SessionWork where
  work : PersistenceWork
  session : ℕ

/-- `pooled` tells whether `create_pool` has returned a pool; the sessions are
numbered in the order in which they were opened. -/
structure SessionState where
  readTestDevice : PaxosKernelDevice
  side : Side
  database : Database
  pooled : Bool
  works : List SessionWork
  messagesReceived : Word32
  messagesFound : Word32
  session : ℕ

/-- Before anyone has opened the device. -/
def SessionState.start (testMemory memory : DeviceMemory) (recv : Block slotSize)
    (entries : List Byte → Option (List Byte)) (pooled : Bool) :
    SessionState where
  readTestDevice := kdevcharInit testMemory
  side := ⟨kdevcharInit memory, Thread.start recv⟩
  database := Store.ofEntries entries
  pooled := pooled
  works := []
  messagesReceived := 0
  messagesFound := 0
  session := 0

/-- An increment of `messagesFound`: the session in which the request had been
received, and the session opened last. -/
structure Counted where
  received : ℕ
  session : ℕ
  deriving DecidableEq

inductive SessionAction where
  | readTestOpen
  | readTestWrite (msg : List Byte) (allocated : Bool)
  | readTestRelease
  /-- A worker runs the work at this place among those that are queued. -/
  | waitResponse (place : ℕ)
  | thread (codes : MdbCodes) (pointer : Addr)
  | replace (entries : List Byte → Option (List Byte))

/-- `add_work`; without a pool the work is lost. -/
def addWork (state : SessionState) : Option PersistenceWork → List SessionWork
  | none => state.works
  | some work =>
      if state.pooled then state.works ++ [{ work, session := state.session }]
      else state.works

/-- Only the process that has the device open writes to it and releases it. -/
def sessions : Step SessionState SessionAction Counted Halt
  | state, .readTestOpen =>
      let (readTestDevice, ret) := state.readTestDevice.deviceOpen
      if ret ≠ 0 then .ok (state, [])
      else .ok ({ state with
        readTestDevice
        messagesReceived := 0
        messagesFound := 0
        session := state.session + 1 }, [])
  | state, .readTestWrite msg allocated =>
      if !state.readTestDevice.charMutex then .ok (state, [])
      else do
        let (device, _, work, _) ← readTestWrite state.readTestDevice
          state.side.device msg allocated
        return ({ state with
          side := { state.side with device }
          works := addWork state work
          messagesReceived := countIf state.messagesReceived work.isSome }, [])
  | state, .readTestRelease =>
      if !state.readTestDevice.charMutex then .ok (state, [])
      else .ok ({ state with
        readTestDevice := { state.readTestDevice with charMutex := false } }, [])
  | state, .waitResponse place =>
      match state.works[place]? with
      | none => .ok (state, [])
      | some queued =>
          let (device, found) := waitResponse state.side.device queued.work
          .ok ({ state with
            side := { state.side with device }
            works := state.works.eraseIdx place
            messagesFound := countIf state.messagesFound found },
            if found then [⟨queued.session, state.session⟩] else [])
  | state, .thread codes pointer => do
      let (side, database, _) ←
        genericStorageThread true state.side state.database codes pointer
      return ({ state with side, database }, [])
  | state, .replace entries =>
      .ok ({ state with database := { state.database with entries } }, [])

/-! ## Consistent statistics -/

/-- No more requests have been counted than received, and each of them in the
session in which it was received. -/
structure Consistent (state : SessionState) (history : List Counted) : Prop where
  le : state.messagesFound.toInt ≤ state.messagesReceived.toInt
  current : ∀ counted ∈ history, counted.received = counted.session

/-- The request gets into the ring and gets a work. -/
structure Accepts (state : SessionState) (msg : List Byte) (allocated : Bool) :
    Prop where
  opened : state.readTestDevice.charMutex = true
  working : state.readTestDevice.working = true
  free : state.side.device.usedBuf < bufferSize
  fits : msg.length ≤ slotSize
  allocated : allocated = true

/-- The callback of the work is not marked, and holds a record with the number
of the work and some value. -/
def ShowsAnswer (device : PaxosKernelDevice) (work : PersistenceWork) : Prop :=
  (device.callbackBuf work.param).isDone = false ∧
    Answers work.iid (device.responseRecord work.param)

/-- No work of an earlier session is run while its callback shows an answer,
and no request is received when the counter of requests is at its end. -/
def Timely (state : SessionState) (_ : List Counted) : SessionAction → Prop
  | .readTestWrite msg allocated => Accepts state msg allocated →
      state.messagesReceived.toInt ≠ 2 ^ 31 - 1
  | .waitResponse place => ∀ queued, state.works[place]? = some queued →
      queued.session < state.session →
        ¬ ShowsAnswer state.side.device queued.work
  | _ => True

/-! ## The works of the current session -/

/-- The works still queued whose requests came in the session opened last. -/
def queuedNow (state : SessionState) : ℕ :=
  state.works.countP fun queued => queued.session = state.session

/-- Each request received in the session has been counted, or its work is still
queued, or it never will be counted. -/
structure Accounted (state : SessionState) : Prop where
  nonneg : 0 ≤ state.messagesFound.toInt
  le : state.messagesFound.toInt + queuedNow state ≤
    state.messagesReceived.toInt
  past : ∀ queued ∈ state.works, queued.session ≤ state.session

theorem Accounted.found_le {state : SessionState}
    (haccounted : Accounted state) :
    state.messagesFound.toInt ≤ state.messagesReceived.toInt := by
  have hle := haccounted.le
  omega

theorem accounted_start (testMemory memory : DeviceMemory)
    (recv : Block slotSize) (entries : List Byte → Option (List Byte))
    (pooled : Bool) :
    Accounted (SessionState.start testMemory memory recv entries pooled) where
  nonneg := le_rfl
  le := le_rfl
  past _ hmem := absurd hmem List.not_mem_nil

theorem toInt_add_one {counter : Word32} (hend : counter.toInt ≠ 2 ^ 31 - 1) :
    (counter + 1).toInt = counter.toInt + 1 := by
  have hhigh := @BitVec.toInt_lt 32 counter
  have hlow := @BitVec.le_toInt 32 counter
  rw [BitVec.toInt_add]
  apply Int.bmod_eq_of_le
  · change _ ≤ counter.toInt + 1
    norm_num at *
    omega
  · change counter.toInt + 1 < _
    norm_num at *
    omega

/-- Past its end the counter starts at the other. -/
theorem toInt_add_one_of_end {counter : Word32}
    (hend : counter.toInt = 2 ^ 31 - 1) : (counter + 1).toInt = -2 ^ 31 := by
  rw [BitVec.toInt_add, hend]
  rfl

/-! ## What the steps do to the works -/

theorem countP_eraseIdx_add {works : List SessionWork} {place : ℕ}
    {queued : SessionWork} (hqueued : works[place]? = some queued)
    (among : SessionWork → Bool) :
    (works.eraseIdx place).countP among + (if among queued then 1 else 0) =
      works.countP among := by
  obtain ⟨hplace, rfl⟩ := List.getElem?_eq_some_iff.mp hqueued
  rw [← (List.getElem_cons_eraseIdx_perm hplace).countP_eq, List.countP_cons]

/-- A request gets a work exactly if there is room for both. -/
theorem readTestWrite_work {readTestDevice device next : PaxosKernelDevice}
    {msg : List Byte} {allocated : Bool} {callback : Option SlotId}
    {work : Option PersistenceWork} {ret : ℤ}
    (hwrite : readTestWrite readTestDevice device msg allocated =
      .ok (next, callback, work, ret)) :
    work.isSome = true ↔ readTestDevice.working = true ∧
      device.usedBuf < bufferSize ∧ msg.length ≤ slotSize ∧
        allocated = true := by
  by_cases hworking : readTestDevice.working = true
  · by_cases hfree : device.usedBuf < bufferSize
    · by_cases hfits : msg.length ≤ slotSize
      · obtain ⟨block, -, hadd⟩ := readPersistenceAddMessage_eq hfree hfits
        rw [readTestWrite_eq hworking hadd allocated] at hwrite
        cases hwrite
        cases allocated with
        | false =>
            exact iff_of_false (by simp [workFor]) fun hall => by
              cases hall.2.2.2
        | true => exact iff_of_true rfl ⟨hworking, hfree, hfits, rfl⟩
      · have hadd := readPersistenceAddMessage_overrun hfree (not_le.mp hfits)
        rw [readTestWrite, if_neg (by simp [hworking]), hadd] at hwrite
        cases hwrite
    · rw [readTestWrite_eq hworking (readPersistenceAddMessage_full
        (not_lt.mp hfree) msg) allocated] at hwrite
      cases hwrite
      refine iff_of_false ?_ fun hall => hfree hall.2.1
      cases allocated with
      | false => simp [workFor]
      | true => simp [workFor]
  · rw [readTestWrite, if_pos (by simpa using hworking)] at hwrite
    cases hwrite
    simp [hworking]

/-- At most one work of the current session is queued. -/
theorem countP_addWork_le (state : SessionState) (work : PersistenceWork) :
    ((addWork state (some work)).countP fun queued =>
      queued.session = state.session) ≤ queuedNow state + 1 := by
  rw [addWork]
  split
  · rw [List.countP_append, List.countP_singleton]
    exact Nat.add_le_add_left (by split <;> omega) _
  · exact Nat.le_succ _

theorem session_le_of_mem_addWork {state : SessionState}
    (haccounted : Accounted state) (work : Option PersistenceWork) :
    ∀ queued ∈ addWork state work, queued.session ≤ state.session := by
  intro queued hqueued
  cases work with
  | none => exact haccounted.past queued hqueued
  | some work =>
      rw [addWork] at hqueued
      split at hqueued
      · rcases List.mem_append.mp hqueued with hbefore | hnew
        · exact haccounted.past queued hbefore
        · cases List.mem_singleton.mp hnew
          exact le_rfl
      · exact haccounted.past queued hqueued

/-- A request that is received may be counted later. -/
theorem Accounted.receive {state : SessionState} (haccounted : Accounted state)
    (hend : state.messagesReceived.toInt ≠ 2 ^ 31 - 1)
    (device : PaxosKernelDevice) (work : PersistenceWork) :
    Accounted { state with
      side := { state.side with device }
      works := addWork state (some work)
      messagesReceived := state.messagesReceived + 1 } := by
  have hle := haccounted.le
  have hqueued := countP_addWork_le state work
  have hsum : state.messagesFound.toInt +
      (((addWork state (some work)).countP fun queued =>
        queued.session = state.session : ℕ) : ℤ) ≤
        (state.messagesReceived + 1).toInt := by
    rw [toInt_add_one hend]
    omega
  exact ⟨haccounted.nonneg, hsum, session_le_of_mem_addWork haccounted (some work)⟩

/-- A work that finds nothing will not find anything later. -/
theorem Accounted.discard {state : SessionState} (haccounted : Accounted state)
    {place : ℕ} {queued : SessionWork}
    (hqueued : state.works[place]? = some queued) (device : PaxosKernelDevice) :
    Accounted { state with
      side := { state.side with device }
      works := state.works.eraseIdx place } := by
  have hle := haccounted.le
  have hremoved : ((state.works.eraseIdx place).countP fun other =>
      other.session = state.session) + _ = queuedNow state :=
    countP_eraseIdx_add hqueued _
  have hsum : state.messagesFound.toInt +
      (((state.works.eraseIdx place).countP fun other =>
        other.session = state.session : ℕ) : ℤ) ≤
        state.messagesReceived.toInt := by
    omega
  exact ⟨haccounted.nonneg, hsum, fun other hother =>
    haccounted.past other (List.mem_of_mem_eraseIdx hother)⟩

/-- A request of the current session is counted in the place of its work. -/
theorem Accounted.count {state : SessionState} (haccounted : Accounted state)
    {place : ℕ} {queued : SessionWork}
    (hqueued : state.works[place]? = some queued)
    (hsession : queued.session = state.session) (device : PaxosKernelDevice) :
    Accounted { state with
      side := { state.side with device }
      works := state.works.eraseIdx place
      messagesFound := state.messagesFound + 1 } := by
  have hle := haccounted.le
  have hnonneg := haccounted.nonneg
  have hremoved : ((state.works.eraseIdx place).countP fun other =>
      other.session = state.session) + _ = queuedNow state :=
    countP_eraseIdx_add hqueued _
  rw [if_pos (by simpa using hsession)] at hremoved
  have hhigh := @BitVec.toInt_lt 32 state.messagesReceived
  norm_num at hhigh
  have hend : state.messagesFound.toInt ≠ 2 ^ 31 - 1 := by omega
  have hnext := toInt_add_one hend
  have hfound : 0 ≤ (state.messagesFound + 1).toInt := by omega
  have hsum : (state.messagesFound + 1).toInt +
      (((state.works.eraseIdx place).countP fun other =>
        other.session = state.session : ℕ) : ℤ) ≤
        state.messagesReceived.toInt := by
    omega
  exact ⟨hfound, hsum, fun other hother =>
    haccounted.past other (List.mem_of_mem_eraseIdx hother)⟩

/-- A write that is accepted comes to an end. -/
theorem Accepts.exists_write {state : SessionState} {msg : List Byte}
    {allocated : Bool} (haccepts : Accepts state msg allocated) :
    ∃ result, readTestWrite state.readTestDevice state.side.device msg
      allocated = .ok result := by
  obtain ⟨block, -, hadd⟩ :=
    readPersistenceAddMessage_eq haccepts.free haccepts.fits
  exact ⟨_, readTestWrite_eq haccepts.working hadd allocated⟩

section Steps

variable {state next : SessionState} {history events : List Counted}

theorem accounted_readTestOpen (haccounted : Accounted state)
    (hconsistent : Consistent state history)
    (hstep : sessions state .readTestOpen = .ok (next, events)) :
    Accounted next ∧ Consistent next (history ++ events) := by
  simp only [sessions] at hstep
  split at hstep
  · cases hstep
    rw [List.append_nil]
    exact ⟨haccounted, hconsistent⟩
  · cases hstep
    have hnone : queuedNow { state with
        readTestDevice := state.readTestDevice.deviceOpen.1
        messagesReceived := 0
        messagesFound := 0
        session := state.session + 1 } = 0 := by
      apply List.countP_eq_zero.mpr
      intro queued hqueued
      have hpast := haccounted.past queued hqueued
      simp only [decide_eq_true_eq]
      omega
    refine ⟨⟨le_rfl, ?_, ?_⟩, le_rfl, ?_⟩
    · rw [hnone]
      exact le_rfl
    · intro queued hqueued
      exact (haccounted.past queued hqueued).trans (Nat.le_succ _)
    · rw [List.append_nil]
      exact hconsistent.current

/-- Nothing but the counter of requests and the works has to do with a write. -/
theorem accounted_readTestWrite (haccounted : Accounted state)
    (hconsistent : Consistent state history) {msg : List Byte}
    {allocated : Bool}
    (hstep : sessions state (.readTestWrite msg allocated) =
      .ok (next, events)) :
    (Timely state history (.readTestWrite msg allocated) → Accounted next) ∧
      (Consistent next (history ++ events) ↔
        Timely state history (.readTestWrite msg allocated)) := by
  simp only [sessions] at hstep
  split at hstep
  · rename_i hclosed
    cases hstep
    rw [List.append_nil]
    refine ⟨fun _ => haccounted, iff_of_true hconsistent ?_⟩
    intro haccepts
    rw [haccepts.opened] at hclosed
    cases hclosed
  · rename_i hopened
    obtain ⟨⟨device, callback, work, ret⟩, hwrite, hreturned⟩ :=
      bind_eq_ok.mp hstep
    have hwork := readTestWrite_work hwrite
    cases hreturned
    rw [List.append_nil]
    cases work with
    | none =>
        refine ⟨fun _ => ⟨haccounted.nonneg, haccounted.le, haccounted.past⟩,
          iff_of_true ⟨hconsistent.le, hconsistent.current⟩ ?_⟩
        intro haccepts
        have hsome := hwork.mpr ⟨haccepts.working, haccepts.free, haccepts.fits,
          haccepts.allocated⟩
        cases hsome
    | some work =>
        obtain ⟨hworking, hfree, hfits, hallocated⟩ := hwork.mp rfl
        have haccepts : Accepts state msg allocated :=
          ⟨by simpa using hopened, hworking, hfree, hfits, hallocated⟩
        by_cases hend : state.messagesReceived.toInt = 2 ^ 31 - 1
        · have hreset := toInt_add_one_of_end hend
          have hnonneg := haccounted.nonneg
          refine ⟨fun htimely => absurd hend (htimely haccepts), iff_of_false ?_
            fun htimely => htimely haccepts hend⟩
          intro hafter
          have hfound := hafter.le
          change state.messagesFound.toInt ≤ (state.messagesReceived + 1).toInt
            at hfound
          rw [hreset] at hfound
          omega
        · have hkeeps := haccounted.receive hend device work
          exact ⟨fun _ => hkeeps, iff_of_true
            ⟨hkeeps.found_le, hconsistent.current⟩ fun _ => hend⟩

/-- A work that is run leaves the queue; what it finds is counted for the
session opened last. -/
theorem accounted_waitResponse (haccounted : Accounted state)
    (hconsistent : Consistent state history) {place : ℕ}
    (hstep : sessions state (.waitResponse place) = .ok (next, events)) :
    (Timely state history (.waitResponse place) → Accounted next) ∧
      (Consistent next (history ++ events) ↔
        Timely state history (.waitResponse place)) := by
  simp only [sessions] at hstep
  split at hstep
  · rename_i hnone
    cases hstep
    rw [List.append_nil]
    refine ⟨fun _ => haccounted, iff_of_true hconsistent ?_⟩
    intro queued hqueued
    rw [hnone] at hqueued
    cases hqueued
  · rename_i queued hqueued
    have hshows : responseFound state.side.device queued.work = true ↔
        ShowsAnswer state.side.device queued.work := responseFound_iff _ _
    have hpast := haccounted.past queued (List.mem_of_getElem? hqueued)
    rw [waitResponse] at hstep
    cases hstep
    cases hfound : responseFound state.side.device queued.work with
    | false =>
        rw [hfound] at hshows
        have hkeeps := haccounted.discard hqueued
          (markDone state.side.device queued.work.param)
        refine ⟨fun _ => hkeeps, iff_of_true ⟨hkeeps.found_le, ?_⟩ ?_⟩
        · simpa using hconsistent.current
        · intro other hother _
          rw [hqueued] at hother
          cases hother
          simpa using hshows
    | true =>
        rw [hfound] at hshows
        by_cases hsession : queued.session = state.session
        · have hkeeps := haccounted.count hqueued hsession
            (markDone state.side.device queued.work.param)
          refine ⟨fun _ => hkeeps, iff_of_true ⟨hkeeps.found_le, ?_⟩ ?_⟩
          · intro counted hcounted
            rcases List.mem_append.mp hcounted with hbefore | hnew
            · exact hconsistent.current counted hbefore
            · cases List.mem_singleton.mp hnew
              exact hsession
          · intro other hother hearlier
            rw [hqueued] at hother
            cases hother
            omega
        · have huntimely : ¬ Timely state history (.waitResponse place) := by
            intro htimely
            exact htimely queued hqueued (by omega) (hshows.mp rfl)
          refine ⟨fun htimely => absurd htimely huntimely, iff_of_false ?_
            huntimely⟩
          intro hafter
          exact hsession (hafter.current ⟨queued.session, state.session⟩
            (List.mem_append_right _ (List.mem_singleton_self _)))

/-- A step that has nothing to do with the counters. -/
theorem accounted_elsewhere (haccounted : Accounted state)
    (hconsistent : Consistent state history) {action : SessionAction}
    (hevents : events = []) (hworks : next.works = state.works)
    (hreceived : next.messagesReceived = state.messagesReceived)
    (hfound : next.messagesFound = state.messagesFound)
    (hsession : next.session = state.session)
    (htimely : Timely state history action) :
    (Timely state history action → Accounted next) ∧
      (Consistent next (history ++ events) ↔ Timely state history action) := by
  have hqueued : queuedNow next = queuedNow state := by
    rw [queuedNow, queuedNow, hworks, hsession]
  constructor
  · intro _
    constructor
    · rw [hfound]
      exact haccounted.nonneg
    · rw [hfound, hqueued, hreceived]
      exact haccounted.le
    · rw [hworks, hsession]
      exact haccounted.past
  · refine iff_of_true ⟨?_, ?_⟩ htimely
    · rw [hfound, hreceived]
      exact hconsistent.le
    · rw [hevents, List.append_nil]
      exact hconsistent.current

theorem accounted_step (action : SessionAction) (haccounted : Accounted state)
    (hconsistent : Consistent state history)
    (hstep : sessions state action = .ok (next, events)) :
    (Timely state history action → Accounted next) ∧
      (Consistent next (history ++ events) ↔ Timely state history action) := by
  cases action with
  | readTestOpen =>
      obtain ⟨hnext, hafter⟩ :=
        accounted_readTestOpen haccounted hconsistent hstep
      exact ⟨fun _ => hnext, iff_of_true hafter trivial⟩
  | readTestWrite msg allocated =>
      exact accounted_readTestWrite haccounted hconsistent hstep
  | readTestRelease =>
      simp only [sessions] at hstep
      split at hstep
      · cases hstep
        exact accounted_elsewhere haccounted hconsistent rfl rfl rfl rfl rfl
          trivial
      · cases hstep
        exact accounted_elsewhere haccounted hconsistent rfl rfl rfl rfl rfl
          trivial
  | waitResponse place =>
      exact accounted_waitResponse haccounted hconsistent hstep
  | thread codes pointer =>
      obtain ⟨result, -, hreturned⟩ := bind_eq_ok.mp hstep
      cases hreturned
      exact accounted_elsewhere haccounted hconsistent rfl rfl rfl rfl rfl
        trivial
  | replace entries =>
      cases hstep
      exact accounted_elsewhere haccounted hconsistent rfl rfl rfl rfl rfl
        trivial

end Steps

/-- A step that fails has nothing to be timely about. -/
theorem timely_of_error {state : SessionState} {action : SessionAction}
    {halt : Halt} (hstep : sessions state action = .error halt)
    (history : List Counted) : Timely state history action := by
  cases action with
  | readTestWrite msg allocated =>
      intro haccepts
      obtain ⟨result, hwrite⟩ := haccepts.exists_write
      simp only [sessions, haccepts.opened, hwrite] at hstep
      cases hstep
  | waitResponse place =>
      intro queued hqueued
      simp only [sessions, hqueued] at hstep
      cases hstep
  | _ => trivial

/-! ## All sessions -/

/-- For every sequence of calls over any number of sessions, and every order in
which the works are run: the statistics are consistent in every state reached,
if and only if no work of an earlier session is run while its callback shows an
answer and no request is received when the counter is at its end. -/
theorem consistent_iff_timely (testMemory memory : DeviceMemory)
    (recv : Block slotSize) (entries : List Byte → Option (List Byte))
    (pooled : Bool) (actions : List SessionAction) :
    (∀ before after state history, actions = before ++ after →
        run sessions (SessionState.start testMemory memory recv entries pooled)
          before = .ok (state, history) → Consistent state history) ↔
      Guarded sessions Timely
        (SessionState.start testMemory memory recv entries pooled) [] actions :=
  always_iff_guarded_of_ok
    (fun _ _ action _ _ haccounted hconsistent hstep =>
      accounted_step action haccounted hconsistent hstep)
    (fun _ history _ _ _ _ hstep => timely_of_error hstep history)
    (accounted_start testMemory memory recv entries pooled)
    ⟨le_rfl, fun _ hmem => absurd hmem List.not_mem_nil⟩

/-- A request for number 7 is answered after its session is over, but its work
is run in the next one. -/
def lateWork : List SessionAction :=
  [SessionAction.readTestOpen, SessionAction.readTestWrite (headerBytes 7 0) true,
    SessionAction.readTestRelease] ++
    List.replicate 5 (SessionAction.thread MdbCodes.success 4096) ++
    [SessionAction.readTestOpen, SessionAction.waitResponse 0]

/-- The counters and the increments. -/
def statistics (state : SessionState) (history : List Counted) :
    ℤ × ℤ × List Counted :=
  (state.messagesReceived.toInt, state.messagesFound.toInt, history)

/-- The second session has received no request and has found one. -/
theorem lateWork_not_consistent :
    ∃ state, run sessions (SessionState.start zeroMemory zeroMemory
        (Block.zero slotSize) storedEntries true) lateWork =
        .ok (state, [⟨1, 2⟩]) ∧
      state.messagesReceived.toInt = 0 ∧ state.messagesFound.toInt = 1 ∧
      ¬ Consistent state [⟨1, 2⟩] := by
  have hobserved : observeRun sessions statistics (SessionState.start zeroMemory
      zeroMemory (Block.zero slotSize) storedEntries true) lateWork =
        some (0, 1, [⟨1, 2⟩]) := by
    decide +kernel
  obtain ⟨state, history, hrun, hstatistics⟩ := run_of_observeRun hobserved
  obtain ⟨hreceived, hrest⟩ := Prod.mk.inj hstatistics
  obtain ⟨hfound, rfl⟩ := Prod.mk.inj hrest
  refine ⟨state, hrun, hreceived, hfound, ?_⟩
  intro hconsistent
  have hle := hconsistent.le
  rw [hreceived, hfound] at hle
  exact absurd hle (by decide)

end PaxosPersistence.Sessions
